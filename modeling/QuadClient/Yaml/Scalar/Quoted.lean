import QuadClient.Text.Hex
import QuadClient.Yaml.Scalar.Gap

/-!
# Quoted scalars

Between single quotes only the quote itself is special: it is written twice. Between double
quotes a backslash begins an escape; one at the end of a line joins the lines. In both the
gaps between words are folded.
-/

namespace QuadClient.Yaml.Quoted

/-- The kind of the quotes. -/
inductive Mark where
  /-- single quotes -/
  | single
  /-- double quotes -/
  | double
  deriving DecidableEq, Repr

/-- The quote. -/
def Mark.char : Mark → Char
  | single => '\''
  | double => '"'

/-- The escapes of one letter. -/
def letterEscapes : List (Char × Char) :=
  [('0', '\x00'), ('a', '\x07'), ('b', '\x08'), ('t', '\t'), ('\t', '\t'), ('n', '\n'),
    ('v', '\x0b'), ('f', '\x0c'), ('r', '\r'), ('e', '\x1b'), (' ', ' '), ('"', '"'),
    ('/', '/'), ('\\', '\\'), ('N', '\u0085'), ('_', '\u00a0'), ('L', '\u2028'),
    ('P', '\u2029')]

/-- The escapes by number, and how many hexadecimal digits they have. -/
def numberEscapes : List (Char × Nat) :=
  [('x', 2), ('u', 4), ('U', 8)]

/-- The character that an escape stands for, and the text after the escape. -/
def escape? (letter : Char) (rest : List Char) : Option (Char × List Char) :=
  match letterEscapes.lookup letter with
  | some c => some (c, rest)
  | none => do
    let n ← numberEscapes.lookup letter
    let digits := rest.take n
    if digits.length < n then none
    else
      let code ← Text.hexNumber? digits
      if h : code.isValidChar then some (Char.ofNatAux code h, rest.drop n) else none

theorem length_escape?_le {letter : Char} {rest after : List Char} {c : Char}
    (h : escape? letter rest = some (c, after)) : after.length ≤ rest.length := by
  unfold escape? at h
  cases hletter : letterEscapes.lookup letter with
  | some d =>
    rw [hletter] at h
    have hafter : rest = after := congrArg Prod.snd (Option.some.inj h)
    exact Nat.le_of_eq (congrArg List.length hafter.symm)
  | none =>
    rw [hletter] at h
    obtain ⟨n, -, h⟩ := Option.bind_eq_some_iff.1 h
    by_cases hshort : (rest.take n).length < n
    · rw [if_pos hshort] at h
      cases h
    · rw [if_neg hshort] at h
      obtain ⟨code, -, h⟩ := Option.bind_eq_some_iff.1 h
      by_cases hvalid : code.isValidChar
      · rw [dif_pos hvalid] at h
        have hafter : rest.drop n = after := congrArg Prod.snd (Option.some.inj h)
        rw [← hafter, List.length_drop]
        exact Nat.sub_le _ _
      · rw [dif_neg hvalid] at h
        cases h

/-- A stretch of a quoted scalar without gaps. -/
structure Stretch where
  /-- the characters it stands for -/
  text : List Char
  /-- the text after it -/
  rest : List Char
  /-- a backslash joins the line to the next one -/
  joined : Bool := false

/-- Reads up to a gap, the closing quote, or the end. -/
def stretch (mark : Mark) (s : List Char) : Option Stretch :=
  match s with
  | [] => some ⟨[], [], false⟩
  | c :: r =>
    if isGap c then some ⟨[], s, false⟩
    else if c = mark.char then
      match mark, r with
      -- Two single quotes are one of the text; the closing one stands alone.
      | .single, '\'' :: r' => (stretch mark r').map fun t => { t with text := '\'' :: t.text }
      | _, _ => some ⟨[], s, false⟩
    else if mark = .double ∧ c = '\\' then
      match r with
      | [] => none
      | e :: r' =>
        if isBreak e then some ⟨[], r, true⟩
        else
          match _h : escape? e r' with
          | none => none
          | some (x, r'') => (stretch mark r'').map fun t => { t with text := x :: t.text }
    else (stretch mark r).map fun t => { t with text := c :: t.text }
termination_by s.length
decreasing_by
  all_goals simp only [List.length_cons]
  · omega
  · have := length_escape?_le _h
    omega
  · omega

/-- Reads stretches and gaps up to the closing quote. -/
def readFrom (mark : Mark) (p : Place) : Option (List Char × Place) :=
  if p.atDocumentMark then none
  else
    match stretch mark p.rest with
    | none => none
    | some s =>
      let q := p.upTo s.rest
      if q.starts (· == mark.char) then some (s.text, q.forward 1)
      else if q.rest.isEmpty then none
      else
        let start : Option (Gap × Place) :=
          -- The break behind a backslash goes, and further breaks count in full.
          if s.joined then Gap.read 0 { broken := true } q.nextLine else Gap.read 0 {} q
        match start with
        | none => none
        | some (gap, r) =>
          if r.rest.length < p.rest.length then
            match readFrom mark r with
            | none => none
            | some (more, r) => some (s.text ++ gap.text ++ more, r)
          else none
termination_by p.rest.length

/-- Reads a quoted scalar from its opening quote on. -/
def read (mark : Mark) (p : Place) : Option (List Char × Place) :=
  readFrom mark (p.forward 1)

end QuadClient.Yaml.Quoted
