import OrderDesk.Record.Records

/-!
# Kinds of failures

Every failure has a kind: a short name that says which part of the desk it comes from and what its
cause is, without the particulars that are in its message.
-/

namespace OrderDesk

open Json (Value)

/-- The kind of an error of button data. -/
def CallbackError.kind : CallbackError → String
  | empty => "Callback.Empty"
  | unknownMarker _ => "Callback.MissingPrefix"
  | invalidCode _ => "Callback.InvalidCode"
  | invalidMessageId _ => "Callback.InvalidMessageId"
  | tooLong _ => "Callback.TooLong"
  | outOfBand _ => "Callback.IndexOutOfBand"

/-- The kind of an error of a quotation. -/
def PricingError.kind : PricingError → String
  | rateUnavailable _ => "Pricing.RateUnavailable"
  | missingOrderType => "Pricing.MissingOrderType"
  | missingLocation => "Pricing.MissingLocation"
  | missingCategory => "Pricing.MissingCategory"
  | outOfRange _ => "Pricing.OutOfRange"

/-- The kind of an error of the store. -/
def StoreError.kind : StoreError → String
  | customerNotFound _ => "Store.CustomerNotFound"
  | orderNotFound _ => "Store.OrderNotFound"
  | itemNotFound _ => "Store.ItemNotFound"
  | database _ => "Store.Database"
  | serialization _ => "Store.Serialization"
  | corrupted _ => "Store.Corrupted"

/-- The kind of an error of the chat. -/
def ChatError.kind : ChatError → String
  | request _ => "Chat.Request"
  | invalidUrl _ => "Chat.InvalidUrl"

/-- The kind of a failure. -/
def Failure.kind : Failure → String
  | wrongStep _ _ => "InvalidState"
  | noHandler => "NoHandler"
  | invalidUpdate => "InvalidUpdate"
  | timeout => "Timeout"
  | callback e => e.kind
  | pricing e => e.kind
  | store e => e.kind
  | chat e => e.kind

end OrderDesk
