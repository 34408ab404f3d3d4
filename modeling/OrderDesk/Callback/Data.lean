import OrderDesk.Decimal.Integer
import OrderDesk.Failure
import OrderDesk.Text.Basic

/-!
# Button data

A button carries a code and possibly a payload, a list of message ids or a text, in at most 64
bytes:

* `<code>` without payload;
* `m<id>,<id>,…:<code>` with message ids;
* `s<text>:<code>` with a text.

Reading cuts at the last colon, so a text may hold colons of its own.
-/

namespace OrderDesk

/-- What a button carries next to its code. -/
inductive Payload where
  /-- Nothing. -/
  | none
  | messageIds (ids : List Int32)
  | text (s : String)
  deriving DecidableEq, Repr

/-- What a button carries. -/
structure ButtonData where
  /-- Which action it stands for. -/
  code : Int32
  /-- What comes with it. -/
  payload : Payload
  deriving DecidableEq, Repr

namespace ButtonData

/-- The most bytes a button may carry. -/
def maxBytes : Nat := 64

/-- A code alone. -/
def bare (code : Int32) : ButtonData := ⟨code, .none⟩

/-- The message ids, none if the payload is something else. -/
def messageIds (d : ButtonData) : List Int32 :=
  match d.payload with
  | .messageIds ids => ids
  | _ => []

/-- The text, if the payload is one. -/
def text? (d : ButtonData) : Option String :=
  match d.payload with
  | .text s => some s
  | _ => Option.none

/-! ## Writing -/

/-- Numbers with commas between. -/
def writeIds : List Int32 → List Char
  | [] => []
  | [id] => Decimal.integerText id.toInt
  | id :: ids => Decimal.integerText id.toInt ++ ',' :: writeIds ids

/-- The written form, however long. -/
def wire (d : ButtonData) : List Char :=
  let code := Decimal.integerText d.code.toInt
  match d.payload with
  | .none => code
  | .messageIds ids => 'm' :: (writeIds ids ++ ':' :: code)
  | .text s => 's' :: (s.toList ++ ':' :: code)

/-- The written form, if it is short enough. -/
def encode (d : ButtonData) : Except CallbackError String :=
  let bytes := Text.byteLength d.wire
  if maxBytes < bytes then .error (.tooLong bytes) else .ok (String.ofList d.wire)

/-! ## Reading -/

/-- Reads a code. -/
def readCode (s : List Char) : Except CallbackError Int32 :=
  match Decimal.int32? s with
  | some n => .ok n
  | Option.none => .error (.invalidCode (String.ofList s))

/-- Reads one message id. -/
def readId (s : List Char) : Except CallbackError Int32 :=
  match Decimal.int32? s with
  | some n => .ok n
  | Option.none => .error (.invalidMessageId (String.ofList s))

/-- Reads message ids; the first that is no number is the error. -/
def readIds (s : List Char) : Except CallbackError (List Int32) :=
  if s.isEmpty then .ok [] else (Text.splitOn ',' s).mapM readId

/-- Reads the characters of a button's data. -/
def ofList (s : List Char) : Except CallbackError ButtonData :=
  if s.isEmpty then .error .empty
  else match Text.splitLast? ':' s with
    | Option.none => bare <$> readCode s
    | some (body, code) => do
      let code ← readCode code
      match body with
      | 'm' :: ids => return ⟨code, .messageIds (← readIds ids)⟩
      | 's' :: text => return ⟨code, .text (String.ofList text)⟩
      | _ => throw (.unknownMarker (String.ofList s))

/-- Reads a button's data. -/
def decode (raw : String) : Except CallbackError ButtonData := ofList raw.toList

end ButtonData

end OrderDesk
