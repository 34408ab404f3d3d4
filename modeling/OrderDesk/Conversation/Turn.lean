import OrderDesk.Answer
import OrderDesk.Catalog.Shelf
import OrderDesk.Conversation.Keyboards
import OrderDesk.Pricing
import OrderDesk.Store.Call

/-!
# Turns of the conversation

A turn is what the desk does about one event.  It is a program that calls the store and the chat,
asks for the rate and looks at the shelf, and that ends in success or in a failure.  What does not
change while the desk is open is in `Desk`.
-/

namespace OrderDesk

/-- What the desk works with. -/
structure Desk where
  texts : Phrase.Book
  settings : Settings
  keyboards : Keyboards
  /-- Pattern of the links that are accepted. -/
  linkPattern : Pattern

namespace Desk

/-- Why a desk cannot be opened. -/
inductive OpenError where
  /-- There are more frequent questions than buttons. -/
  | keyboards (e : CallbackError)
  /-- The pattern of links is none. -/
  | badPattern
  deriving DecidableEq, Repr

/-- The wording of why a desk cannot be opened. -/
def OpenError.message : OpenError → String
  | keyboards _ => "Failed to build keyboards"
  | badPattern => "shop_link_pattern is not a valid regex"

/-- Opens a desk. -/
def «open» (texts : Phrase.Book) (settings : Settings) : Except OpenError Desk :=
  match Keyboards.of texts settings, settings.pattern? with
  | .error e, _ => .error (.keyboards e)
  | .ok _, none => .error .badPattern
  | .ok keyboards, some linkPattern => .ok { texts, settings, keyboards, linkPattern }

/-! ## Calls -/

/-- What a turn can call for. -/
inductive Call where
  | store (c : Store.Call)
  | chat (c : Chat.Call)
  | rate
  | shelf
  | newId
  | now
  deriving Repr

/-- The reply to a call. -/
abbrev Call.Reply : Call → Type
  | store c => c.Reply
  | chat c => c.Reply
  | rate => Except PricingError Float
  | shelf => Catalog.Shelf
  | newId => Uuid
  | now => Instant

/-- A program of calls. -/
abbrev Steps (α : Type) : Type := Program Call Call.Reply α

end Desk

/-- A turn of the conversation. -/
abbrev Turn (α : Type) : Type := ExceptT Failure (Program Desk.Call Desk.Call.Reply) α

namespace Turn

/-- Goes on with a value or ends in a failure. -/
def ofExcept {ε α : Type} (wrap : ε → Failure) : Except ε α → Turn α
  | .ok a => pure a
  | .error e => throw (wrap e)

/-- The reply to a call. -/
def ask (c : Desk.Call) : Turn c.Reply := ExceptT.lift (Program.call c)

/-- Calls the store. -/
def store (c : Store.Call) : Turn c.Value := do ofExcept .store (← ask (.store c))

/-- Calls the chat. -/
def chat (c : Chat.Call) : Turn c.Value := do ofExcept .chat (← ask (.chat c))

/-- Asks for the rate. -/
def rate : Turn (Except PricingError Float) := ask .rate

/-- Looks at the shelf. -/
def shelf : Turn Catalog.Shelf := ask .shelf

/-- Changes a customer. -/
def update (customer : Customer) (u : Customer.Update) : Turn Unit :=
  store (.updateCustomer customer.id u)

/-- Brings a customer to a step. -/
def goTo (customer : Customer) (s : Step) : Turn Unit := store (.updateStep customer.id s)

/-- Ends the turn unless the customer is in the given step. -/
def expect (customer : Customer) (expected : Step) : Turn Unit :=
  if customer.step = expected then pure () else throw (.wrongStep expected customer.step)

/-- The price of an amount by the given terms at the rate of the moment. -/
def quote (amount : UInt64) (terms : Terms) : Turn UInt64 := do
  let terms ← ofExcept .pricing terms.complete
  let rate ← ofExcept .pricing (← rate)
  ofExcept .pricing (terms.price amount rate)

end Turn

namespace Desk

variable (desk : Desk)

/-- Sends a text. -/
def sendText (chat : Int64) (text : String) (keyboard : Option Chat.Keyboard) : Turn Unit := do
  let _ ← Turn.chat (.sendText chat text keyboard)
  return ()

/-- Sends a phrase. -/
def send (chat : Int64) (key : String) : Turn Unit := sendText chat (desk.texts.get key) none

/-- Sends a phrase with a keyboard. -/
def sendWith (chat : Int64) (key : String) (keyboard : Chat.Keyboard) : Turn Unit :=
  sendText chat (desk.texts.get key) (some keyboard)

/-- Sends a phrase with buttons. -/
def sendRows (chat : Int64) (key : String) (rows : Chat.Rows) : Turn Unit :=
  desk.sendWith chat key (.inline rows)

/-- Puts other buttons under a message, or sends them anew with a phrase when the message is not
known. -/
def showRows (chat : Int64) (message : Option Int32) (key : String) (rows : Chat.Rows) : Turn Unit :=
  match message with
  | some message => Turn.chat (.editButtons chat message rows)
  | none => desk.sendRows chat key rows

/-- The most pictures in an album; more ids of messages would not fit a button. -/
def maxAlbumImages : Nat := 6

end Desk

end OrderDesk
