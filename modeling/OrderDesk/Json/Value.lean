/-!
# JSON values

The data the library keeps and exchanges as text.  Whole numbers are kept exactly; every other
numeral keeps its text, since nothing here reads one.
-/

namespace OrderDesk.Json

/-- A JSON value. -/
inductive Value where
  /-- The empty value. -/
  | null
  /-- A truth value. -/
  | bool (b : Bool)
  /-- A numeral without point and exponent. -/
  | integer (n : Int)
  /-- Any other numeral, and minus zero. -/
  | decimal (text : String)
  | string (s : String)
  /-- A text, or an object with a key, that holds half of a surrogate pair.  It may be passed over
  but has no value of its own. -/
  | unpaired
  | array (items : List Value)
  /-- Fields in the order of the text, repeated keys included. -/
  | object (fields : List (String × Value))
  deriving Repr, Inhabited

namespace Value

/-- The first field of an object under the given key. -/
def field? (key : String) : Value → Option Value
  | object fields => fields.lookup key
  | _ => none

/-- The text of a string. -/
def string? : Value → Option String
  | string s => some s
  | _ => none

/-- The number of a whole numeral. -/
def integer? : Value → Option Int
  | integer n => some n
  | _ => none

/-- The truth value. -/
def bool? : Value → Option Bool
  | bool b => some b
  | _ => none

/-- The items of a list. -/
def array? : Value → Option (List Value)
  | array items => some items
  | _ => none

/-- A value or `null`. -/
def ofOption {α : Type} (write : α → Value) : Option α → Value
  | some a => write a
  | none => null

end Value

end OrderDesk.Json
