import QuadClient.Query.Algebra
import QuadClient.Query.Name

/-!
# Values in queries

Texts in quotes, numbers and truth values. A number keeps its characters as they were written,
and what stands between its sign and its digits; its form alone gives its datatype.
-/

namespace QuadClient.Query

open Reader

/-- Reads a text in quotes of a kind, long before short. -/
def quotedText (quote : Char) : Reader String := do
  let long : Reader (List Char) := do
    mark (String.ofList [quote, quote, quote])
    unescapeText (← cut (takeLong quote))
  let short : Reader (List Char) := do
    mark (String.ofList [quote])
    unescapeText (← cut (takeShort quote))
  return String.ofList (← long <|> short)

/-- Reads a language tag. -/
def languageTag : Reader LanguageTag := do
  mark "@"
  let first ← atLeastOnce (one Char.isAlpha)
  let more ← many do
    mark "-"
    return '-' :: (← atLeastOnce (one Char.isAlphanum))
  match LanguageTag.parse (String.ofList (first ++ more.flatten)) with
  | .ok tag => return tag
  | .error _ => failure

/-- Reads a text, and its datatype or language if it has one. -/
def textLiteral : Reader Literal := do
  let value ← quotedText '\'' <|> quotedText '"'
  let typed : Reader Literal := do
    gap
    sign "^^"
    return .ofTyped value (← iri)
  let tagged : Reader Literal := do
    gap
    return .tagged value (← languageTag)
  typed <|> tagged <|> return .plain value

/-- Reads a digit. -/
def digit : Reader Char := one Char.isDigit

/-- Reads a point. -/
def point : Reader Char := one (· == '.')

/-- Reads a sign. -/
def numberSign : Reader Char := one fun c => c == '+' || c == '-'

/-- Reads the exponent of a number. -/
def exponent : Reader (List Char) := do
  let e ← one fun c => c == 'e' || c == 'E'
  let sign ← may numberSign
  return e :: sign.toList ++ (← atLeastOnce digit)

/-- Reads a number with an exponent. -/
def binaryNumber : Reader (List Char) := do
  let pointed : Reader (List Char) := do
    let whole ← atLeastOnce digit
    return whole ++ (← point) :: (← many digit)
  let fraction : Reader (List Char) := do
    return (← point) :: (← atLeastOnce digit)
  -- A point may stand behind the digits, in front of them, or not at all.
  let digits ← pointed <|> fraction <|> atLeastOnce digit
  return digits ++ (← exponent)

/-- Reads a number with digits after a point. -/
def decimalNumber : Reader (List Char) := do
  let whole ← many digit
  return whole ++ (← point) :: (← atLeastOnce digit)

/-- Reads a number. -/
def number : Reader Literal := do
  -- A gap behind the sign belongs to the number.
  let front ← (do return (← numberSign) :: (← gapText)) <|> return []
  let made (datatype : Iri) (digits : List Char) : Literal :=
    .ofTyped (String.ofList (front ++ digits)) datatype
  -- The longest form comes first: each of the others reads a part of it.
  made .xsdDouble <$> binaryNumber <|> made .xsdDecimal <$> decimalNumber <|>
    made .xsdInteger <$> atLeastOnce digit

/-- Reads a truth value. -/
def truthValue : Reader Literal := do
  let text ← (do mark "true"; return "true") <|> (do mark "false"; return "false")
  return .ofTyped text .xsdBoolean

/-- Reads a literal. -/
def literal : Reader Literal :=
  textLiteral <|> number <|> truthValue

/-- Reads a variable or an IRI. -/
def name : Reader Slot :=
  .var <$> variableName <|> (.term ∘ .iri) <$> iri

/-- Reads what may stand in an expression without an operator. -/
def atom : Reader Slot :=
  name <|> (.term ∘ .literal) <$> literal

/-- Reads the subject or the object of a triple. -/
def node : Reader Slot :=
  atom <|> (.term ∘ .blank) <$> label

end QuadClient.Query
