import OrderDesk.Decimal.Shortest
import OrderDesk.Step
import OrderDesk.Text.Quoted
import OrderDesk.Uuid

/-!
# What can go wrong

One type per part of the desk, and `Failure` for what one turn of the conversation can end in.  Each
error is its cause; the wording is in the `message` functions.  `Failure.isRecoverable` tells the
outcomes that are to be expected when talking to people from those of broken storage or transport.
-/

namespace OrderDesk

/-- Errors of button data and button codes. -/
inductive CallbackError where
  /-- There is no data. -/
  | empty
  /-- There is a payload of no known kind. -/
  | unknownMarker (raw : String)
  /-- The code is no number, or no action's. -/
  | invalidCode (text : String)
  /-- A message id of the payload is no number. -/
  | invalidMessageId (text : String)
  /-- The written form has too many bytes. -/
  | tooLong (bytes : Nat)
  /-- The index has no code in its band. -/
  | outOfBand (index : Nat)
  deriving DecidableEq, Repr

/-- Errors of a price quotation. -/
inductive PricingError where
  /-- There is no rate. -/
  | rateUnavailable (reason : String)
  /-- The delivery speed is not chosen. -/
  | missingOrderType
  /-- The region is not chosen. -/
  | missingLocation
  /-- The weight class is not chosen. -/
  | missingCategory
  /-- The price is not one that is quoted. -/
  | outOfRange (price : Float)
  deriving Repr

/-- Errors of the store. -/
inductive StoreError where
  /-- No such customer. -/
  | customerNotFound (id : Int64)
  /-- No such order. -/
  | orderNotFound (shortId : String)
  /-- No such catalogue item. -/
  | itemNotFound (what : String)
  /-- The database did not do what it was asked for. -/
  | database (reason : String)
  /-- A record is not in its format. -/
  | serialization (reason : String)
  /-- A stored value is none that the desk writes. -/
  | corrupted (what : String)
  deriving DecidableEq, Repr

/-- Errors of the chat. -/
inductive ChatError where
  /-- The request was not carried out. -/
  | request (reason : String)
  /-- The address of a picture is none. -/
  | invalidUrl (url : String)
  deriving DecidableEq, Repr

/-- What a turn of the conversation can end in, success apart. -/
inductive Failure where
  /-- The customer is in another step than the button belongs to. -/
  | wrongStep (expected actual : Step)
  /-- Free text where none is asked for. -/
  | noHandler
  /-- The event does not fit what is stored. -/
  | invalidUpdate
  /-- The turn took too long. -/
  | timeout
  | callback (e : CallbackError)
  | pricing (e : PricingError)
  | store (e : StoreError)
  | chat (e : ChatError)
  deriving Repr

/-! ## Wording -/

/-- The wording of an error of button data. -/
def CallbackError.message : CallbackError → String
  | empty => "empty callback data"
  | unknownMarker raw => "unknown payload marker in " ++ Text.quoted raw
  | invalidCode text => "invalid callback code " ++ Text.quoted text
  | invalidMessageId text => "invalid message id " ++ Text.quoted text ++ " in payload"
  | tooLong bytes => "callback data is " ++ Decimal.ofNat bytes ++ " bytes, limit is 64"
  | outOfBand index => "index " ++ Decimal.ofNat index ++ " does not fit its callback band"

/-- The wording of an error of a quotation. -/
def PricingError.message : PricingError → String
  | rateUnavailable reason => "yuan rate is unavailable: " ++ reason
  | missingOrderType => "order type is not selected"
  | missingLocation => "location is not selected"
  | missingCategory => "category is not selected"
  | outOfRange price => "price " ++ Decimal.shortest price ++ " is out of range"

/-- The wording of an error of the store. -/
def StoreError.message : StoreError → String
  | customerNotFound id => "customer " ++ Decimal.ofInt id.toInt ++ " not found"
  | orderNotFound shortId => "order " ++ shortId ++ " not found"
  | itemNotFound what => "catalog item " ++ what ++ " not found"
  | database reason => "database error: " ++ reason
  | serialization reason => "serialization error: " ++ reason
  | corrupted what => "corrupted record: " ++ what

/-- The wording of an error of the chat. -/
def ChatError.message : ChatError → String
  | request reason => "telegram request failed: " ++ reason
  | invalidUrl url => "invalid media url " ++ Text.quoted url

/-- The wording of a failure. -/
def Failure.message : Failure → String
  | wrongStep expected actual =>
    "invalid state: expected " ++ expected.name ++ ", customer is in " ++ actual.name
  | noHandler => "handler not found"
  | invalidUpdate => "invalid update"
  | timeout => "handler timed out"
  | callback e => e.message
  | pricing e => e.message
  | store e => e.message
  | chat e => e.message

/-! ## Classes -/

/-- The item with the given identifier is not in the catalogue. -/
def StoreError.noItem (id : Uuid) : StoreError := itemNotFound id.text

/-- The step with the given number; any other number is no stored step. -/
def Step.ofCode (n : Int) : Except StoreError Step :=
  match Step.ofCode? n with
  | some s => .ok s
  | none => .error (.corrupted ("unknown conversation state " ++ Decimal.ofInt n))

/-- Something is asked for that is not there, as opposed to a store that does not work. -/
def StoreError.isNotFound : StoreError → Bool
  | customerNotFound _ => true
  | orderNotFound _ => true
  | itemNotFound _ => true
  | _ => false

/-- An expected outcome of talking to people. -/
def Failure.isRecoverable : Failure → Bool
  | store e => e.isNotFound
  | chat _ => false
  | timeout => false
  | _ => true

end OrderDesk
