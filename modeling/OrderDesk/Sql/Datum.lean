import OrderDesk.Instant
import OrderDesk.Json.Value
import OrderDesk.Uuid

/-!
# Data of a database

A datum is a value of one of the column types in use, or no value at all.  Reading a datum is
strict: a number of another width is not taken for the number asked for, and no value is taken for a
value only where that is said.
-/

namespace OrderDesk.Sql

/-- A datum. -/
inductive Datum where
  /-- No value. -/
  | null
  /-- A truth value. -/
  | boolean (b : Bool)
  /-- A number of 16 bits. -/
  | smallint (n : Int16)
  /-- A number of 32 bits. -/
  | integer (n : Int32)
  /-- A number of 64 bits. -/
  | bigint (n : Int64)
  | text (s : String)
  /-- An identifier. -/
  | uuid (u : Uuid)
  | jsonb (v : Json.Value)
  /-- A point in time, in microseconds from the start of 1970. -/
  | timestamptz (micros : Int)
  deriving Repr, Inhabited

namespace Datum

/-- A value or no value. -/
def ofOption {α : Type} (write : α → Datum) : Option α → Datum
  | some a => write a
  | none => null

/-- A point in time, cut to microseconds. -/
def ofInstant (t : Instant) : Datum := timestamptz t.micros

/-- The truth value. -/
def boolean? : Datum → Option Bool
  | boolean b => some b
  | _ => none

/-- The number of 16 bits. -/
def smallint? : Datum → Option Int16
  | smallint n => some n
  | _ => none

/-- The number of 32 bits. -/
def integer? : Datum → Option Int32
  | integer n => some n
  | _ => none

/-- The number of 64 bits. -/
def bigint? : Datum → Option Int64
  | bigint n => some n
  | _ => none

/-- The text. -/
def text? : Datum → Option String
  | text s => some s
  | _ => none

/-- The identifier. -/
def uuid? : Datum → Option Uuid
  | uuid u => some u
  | _ => none

/-- The JSON value. -/
def jsonb? : Datum → Option Json.Value
  | jsonb v => some v
  | _ => none

/-- The point in time. -/
def instant? : Datum → Option Instant
  | timestamptz n => some (.ofMicros n)
  | _ => none

/-- What a JSON value stands for. -/
def record? {α : Type} (read : Json.Value → Option α) (d : Datum) : Option α := d.jsonb?.bind read

/-- A datum that may have no value. -/
def nullable {α : Type} (read : Datum → Option α) : Datum → Option (Option α)
  | null => some none
  | d => (read d).map some

end Datum

/-- A row: its columns in order, each with its name. -/
abbrev Row := List (String × Datum)

namespace Row

/-- The datum in the last column of the given name. -/
def column? (row : Row) (name : String) : Option Datum := row.reverse.lookup name

/-- The datum in the first column. -/
def first? (row : Row) : Option Datum := row.head?.map Prod.snd

end Row

end OrderDesk.Sql
