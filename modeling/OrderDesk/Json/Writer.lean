import OrderDesk.Json.Value
import OrderDesk.Decimal.Integer
import OrderDesk.Uuid

/-!
# Writing JSON

No blanks between tokens.  In texts a quote, a backslash and the control characters below the blank
are escaped, with a letter where there is one and else with four lower-case hexadecimal digits; all
else stands for itself.
-/

namespace OrderDesk.Json

/-- One character as it stands in a text. -/
def writeChar (c : Char) : List Char :=
  match c with
  | '"' => ['\\', '"']
  | '\\' => ['\\', '\\']
  | '\x08' => ['\\', 'b']
  | '\x0c' => ['\\', 'f']
  | '\n' => ['\\', 'n']
  | '\r' => ['\\', 'r']
  | '\t' => ['\\', 't']
  | c => if c.toNat < 0x20 then ['\\', 'u'] ++ Uuid.hexadecimal 4 c.toNat else [c]

/-- A text between quotes. -/
def writeString (s : String) : List Char := '"' :: (s.toList.flatMap writeChar ++ ['"'])

mutual

/-- The characters of a value. -/
def Value.write : Value → List Char
  | .null => ['n', 'u', 'l', 'l']
  | .bool true => ['t', 'r', 'u', 'e']
  | .bool false => ['f', 'a', 'l', 's', 'e']
  | .integer n => Decimal.integerText n
  | .decimal text => text.toList
  | .string s => writeString s
  | .unpaired => ['n', 'u', 'l', 'l']
  | .array items => '[' :: (writeItems items ++ [']'])
  | .object fields => '\x7b' :: (writeFields fields ++ ['\x7d'])

/-- The items of a list with commas between. -/
def writeItems : List Value → List Char
  | [] => []
  | [v] => v.write
  | v :: vs => v.write ++ ',' :: writeItems vs

/-- The fields of an object with commas between. -/
def writeFields : List (String × Value) → List Char
  | [] => []
  | [(key, v)] => writeString key ++ ':' :: v.write
  | (key, v) :: rest => writeString key ++ ':' :: (v.write ++ ',' :: writeFields rest)

end

/-- The text of a value. -/
def Value.text (v : Value) : String := String.ofList v.write

end OrderDesk.Json
