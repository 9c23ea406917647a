import QuadClient.Iri.Address
import QuadClient.Iri.Chars
import QuadClient.Iri.Fault

/-!
# The syntax of an absolute IRI

A text is read from left to right, one component after the other; the first fault met is
the one named. A text that does not begin with a scheme is read as a relative reference,
so that a bad character in it counts before the missing scheme.
-/

namespace QuadClient.Iri.Syntax

open QuadClient.Text

/-- Whether a text begins with two hexadecimal digits. -/
def beginsWithPair : List Char → Bool
  | a :: b :: _ => isHexDigit a && isHexDigit b
  | _ => false

/-- Reads characters of a component and percent escapes up to a character that ends the
component, and gives what follows from there on. The first `escaped` characters are the digits
of an escape already looked at. -/
def scanFrom (ends allowed : Char → Bool) : (escaped : Nat) → List Char → Except Fault (List Char)
  | _, [] => .ok []
  | n + 1, _ :: r => scanFrom ends allowed n r
  | 0, c :: r =>
    if ends c then .ok (c :: r)
    else if c = '%' then
      -- The two digits are passed over next, whatever the component holds.
      if beginsWithPair r then scanFrom ends allowed 2 r else .error (.percent (r.take 2))
    else if allowed c then scanFrom ends allowed 0 r
    else .error (.codePoint c)

/-- Reads a component from its beginning. -/
def scan (ends allowed : Char → Bool) (s : List Char) : Except Fault (List Char) :=
  scanFrom ends allowed 0 s

/-- A fragment runs to the end of the text. -/
def fragment (s : List Char) : Except Fault Unit :=
  (scan (fun _ => false) isFragment s).map fun _ => ()

/-- A query, and the fragment that may follow it. -/
def query (s : List Char) : Except Fault Unit := do
  match ← scan (· == '#') isQuery s with
  | [] => pure ()
  | _ :: r => fragment r

/-- A path, and the query or fragment that may follow it. -/
def path (s : List Char) : Except Fault Unit := do
  match ← scan (fun c => c == '?' || c == '#') isPath s with
  | [] => pure ()
  | '?' :: r => query r
  | _ :: r => fragment r

/-- The number behind a host is a possibly empty run of digits. -/
def hostNumber (s : List Char) : Except Fault Unit :=
  match s.dropWhile Char.isDigit with
  | [] => path []
  | c :: r => if endsAuthority c then path (c :: r) else .error (.hostNumber c)

/-- An address of a future version: `v`, hexadecimal digits, a point, plain characters or
colons. The text is what stands after the `v`. -/
def futureAddress (s : List Char) : Except Fault Unit :=
  let version := s.takeWhile isHexDigit
  match s.dropWhile isHexDigit with
  | [] => .error (.host ']')
  -- Both the version and what follows its point need a character at least.
  | '.' :: r =>
    if version.isEmpty then .error (.host (r.headD ']'))
    else if r.isEmpty then .error (.host ']')
    else
      match r.find? fun c => !(isPlain c || c == ':') with
      | some c => .error (.host c)
      | none => .ok ()
  | c :: _ => .error (.host c)

/-- What stands between the brackets of a host. -/
def bracketed (s : List Char) : Except Fault Unit :=
  match s with
  | [] => if Address.isValid [] then .ok () else .error .address
  | c :: r =>
    if c = 'v' || c = 'V' then futureAddress r
    else if Address.isValid (c :: r) then .ok () else .error .address

/-- Splits a text at its first closing bracket. -/
def closingBracket? : List Char → Option (List Char × List Char)
  | [] => none
  | c :: r => if c = ']' then some ([], r) else (closingBracket? r).map fun (a, b) => (c :: a, b)

/-- A host and what follows it. -/
def host (s : List Char) : Except Fault Unit :=
  match s with
  | '[' :: r =>
    match closingBracket? r with
    -- An address without its closing bracket: the opening one is the fault.
    | none => .error (.host '[')
    | some (inside, after) => do
      bracketed inside
      match after with
      | [] => path []
      | c :: r =>
        if c = ':' then hostNumber r
        else if endsAuthority c then path (c :: r)
        else .error (.host c)
  | s => do
    match ← scan (fun c => c == ':' || endsAuthority c) isName s with
    | [] => path []
    | c :: r => if c = ':' then hostNumber r else path (c :: r)

/-- What follows `//`: user information if an `@` ends it, then a host. -/
def authority (s : List Char) : Except Fault Unit := do
  -- Only an `@` shows that what was read was no host.
  match ← scan (fun c => c == '@' || c == '[' || endsAuthority c) isUserInfo s with
  | '@' :: r => host r
  -- The host is read from where the user information would have begun.
  | _ => host s

/-- What follows the scheme. -/
def hierarchy (s : List Char) : Except Fault Unit :=
  match s with
  | '/' :: '/' :: r => authority r
  | s => path s

/-- A reference without a scheme. -/
def relative (s : List Char) : Except Fault Unit :=
  match s with
  | '/' :: r => hierarchy ('/' :: r)
  | s => do
    let rest ← scan endsAuthority isFirstSegment s
    path rest

/-- What follows the scheme and its colon, if the text begins with a scheme. -/
def afterScheme? (s : List Char) : Option (List Char) :=
  match s with
  | [] => none
  | c :: r =>
    if c.isAlpha then
      match r.dropWhile isScheme with
      | ':' :: rest => some rest
      | _ => none
    else none

/-- Accepts the absolute IRIs; otherwise names the first fault. -/
def check (s : List Char) : Except Fault Unit :=
  match afterScheme? s with
  | some rest => hierarchy rest
  | none =>
    match s with
    -- No reference begins with a colon, so there is nothing to read first.
    | ':' :: _ => .error .noScheme
    | s => do
      relative s
      .error .noScheme

end QuadClient.Iri.Syntax
