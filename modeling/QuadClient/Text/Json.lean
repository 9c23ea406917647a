import QuadClient.Text.Hex

/-!
# JSON text

The values of a result row in JSON. Objects keep the order they are given in; a string is
written raw apart from the quote, the backslash and the control characters below U+0020.
-/

namespace QuadClient.Text

/-- A character inside a JSON string. -/
def jsonChar (c : Char) : List Char :=
  match c with
  | '"' => ['\\', '"']
  | '\\' => ['\\', '\\']
  | '\n' => ['\\', 'n']
  | '\r' => ['\\', 'r']
  | '\t' => ['\\', 't']
  | '\x08' => ['\\', 'b']
  | '\x0c' => ['\\', 'f']
  | c =>
    -- The other controls are below 32, so the first two digits are zeros.
    if c.toNat < 0x20 then
      ['\\', 'u', '0', '0', upperDigit (c.toNat / 16), (upperDigit (c.toNat % 16)).toLower]
    else [c]

/-- A JSON string with its quotes. -/
def jsonString (s : String) : String :=
  String.ofList ('"' :: s.toList.flatMap jsonChar ++ ['"'])

/-- A JSON object of members already written, without blanks. -/
def jsonObject (members : List (String × String)) : String :=
  "\x7b" ++ String.intercalate "," (members.map fun (k, v) => jsonString k ++ ":" ++ v) ++ "\x7d"

end QuadClient.Text
