import QuadClient.Coding.Inline

/-!
# Putting terms in place of variables

A bound `?name` in the text of a query is replaced by the inline text of its term. Quoted
regions and characters behind a backslash are left as they are, and so is an unbound name.
-/

namespace QuadClient

namespace Substitution

/-- What ends the name of a variable. -/
def isDelimiter (c : Char) : Bool :=
  c ∈ [' ', ',', ')', '(', ';', '.']

/-- Where the reading of the text stands. -/
inductive Mode where
  /-- outside quotes -/
  | plain
  /-- behind a backslash -/
  | escaped
  /-- inside the quotes opened by this character -/
  | quoted (mark : Char)
  /-- inside a name that was replaced -/
  | replaced
  deriving DecidableEq

/-- The name that starts here. -/
def name (s : List Char) : String :=
  String.ofList (s.takeWhile fun c => !isDelimiter c)

/-- The term to put in place of a reference, `s` being the text behind its question mark. -/
def term? (lookup : String → Option Term) (s : List Char) : Option Term :=
  if name s = "" then none else lookup (name s)

/-- The text from some place on, terms put in. -/
def fromMode (lookup : String → Option Term) : Mode → List Char → List Char
  | _, [] => []
  | .escaped, c :: r => c :: fromMode lookup .plain r
  | .quoted mark, c :: r => c :: fromMode lookup (if c = mark then .plain else .quoted mark) r
  | .replaced, c :: r =>
    if isDelimiter c then c :: fromMode lookup .plain r else fromMode lookup .replaced r
  | .plain, c :: r =>
    if c = '\\' then c :: fromMode lookup .escaped r
    else if c = '"' ∨ c = '\'' then c :: fromMode lookup (.quoted c) r
    else if c = '?' then
      -- The name of a bound reference goes, and its text is not read again.
      match term? lookup r with
      | some t => t.inline.toList ++ fromMode lookup .replaced r
      | none => c :: fromMode lookup .plain r
    else c :: fromMode lookup .plain r

end Substitution

/-- The text with the inline text of a term in place of every bound reference. -/
def substitute (lookup : String → Option Term) (text : String) : String :=
  String.ofList (Substitution.fromMode lookup .plain text.toList)

end QuadClient
