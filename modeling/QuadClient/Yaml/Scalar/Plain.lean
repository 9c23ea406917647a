import QuadClient.Yaml.Scalar.Gap

/-!
# Plain scalars

A plain scalar has no marks around it. It ends at a colon or a number sign that a blank sets
off, at an indicator of the flow collection it is in, and at a line that is indented less than
its block.
-/

namespace QuadClient.Yaml.Plain

/-- The characters up to the first rest of the text of a kind. -/
def span (stop : List Char → Bool) : List Char → List Char × List Char
  | [] => ([], [])
  | c :: r =>
    if stop (c :: r) then ([], c :: r)
    else
      let (word, rest) := span stop r
      (c :: word, rest)

/-- A colon in a flow collection that an indicator follows. -/
def isStrayColon : List Char → Bool
  | ':' :: c :: _ => isFlowIndicator c || c == '?'
  | _ => false

/-- A word of a plain scalar ends here. -/
def endsWord (flow : Bool) : List Char → Bool
  | [] => true
  | c :: r =>
    isGap c || (c == ':' && gapNext r) || (flow && (isFlowIndicator c || isStrayColon (c :: r)))

/-- Reads words and the gaps between them. The gap in front was read already. Gives the text,
whether a break was read after the last word, and the place. -/
def readFrom (flow : Bool) (column : Nat) (gap : Gap) (p : Place) :
    Option (List Char × Bool × Place) :=
  if p.atDocumentMark || p.starts (· == '#') then some ([], gap.broken, p)
  else
    let (word, rest) := span (endsWord flow) p.rest
    let q := p.upTo rest
    -- Such a colon is neither part of a word nor a mark of its own.
    if flow && isStrayColon rest then none
    -- Here the scalar ends; the gap in front of its end is no part of it.
    else if word.isEmpty then some ([], gap.broken, q)
    else
      let text := gap.text ++ word
      if q.starts isGap then
        match Gap.read column {} q with
        | none => none
        | some (next, r) =>
          -- The next line belongs to a block further out.
          if !flow && r.column < column then some (text, next.broken, r)
          else if r.rest.length < p.rest.length then
            match readFrom flow column next r with
            | none => none
            | some (more, broken, r) => some (text ++ more, broken, r)
          else none
      else some (text, false, q)
termination_by p.rest.length

/-- Reads a plain scalar. The column is the least one its lines may begin at. -/
def read (flow : Bool) (column : Nat) (p : Place) : Option (List Char × Bool × Place) :=
  readFrom flow column {} p

end QuadClient.Yaml.Plain
