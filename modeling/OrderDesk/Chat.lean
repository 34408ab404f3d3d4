import OrderDesk.Callback.Action

/-!
# The chat

What comes in from customers and what the desk can do in a chat.
-/

namespace OrderDesk.Chat

/-- Who an event comes from. -/
structure Sender where
  /-- The chat's own identifier. -/
  id : Int64
  firstName : String
  lastName : Option String
  /-- Name shown in the chat. -/
  username : Option String
  deriving DecidableEq, Repr

/-- What comes in. -/
inductive Event where
  | text (chat : Int64) (sender : Sender) (text : String)
  /-- A button was pressed, on the given message if that is known. -/
  | press (chat : Int64) (sender : Sender) (message : Option Int32) (data : String)
  deriving DecidableEq, Repr

/-- The chat of an event. -/
def Event.chat : Event → Int64
  | text chat _ _ => chat
  | press chat _ _ _ => chat

/-- The sender of an event. -/
def Event.sender : Event → Sender
  | text _ sender _ => sender
  | press _ sender _ _ => sender

/-- A button under a message. -/
structure Button where
  label : String
  /-- What it carries. -/
  data : String
  deriving DecidableEq, Repr

/-- A button with the given label, if its data are short enough. -/
def Button.of (label : String) (data : ButtonData) : Except CallbackError Button :=
  (⟨label, ·⟩) <$> data.encode

/-- Rows of buttons. -/
abbrev Rows := List (List Button)

/-- A keyboard that comes with a message. -/
inductive Keyboard where
  /-- Buttons under the message. -/
  | inline (rows : Rows)
  /-- Keys under the input field; pressing one sends its label. -/
  | reply (rows : List (List String))
  deriving DecidableEq, Repr

/-- A picture. -/
structure Photo where
  /-- Address. -/
  url : String
  /-- Text under it. -/
  caption : Option String
  deriving DecidableEq, Repr

/-- The pictures of an album; the first one has the caption. -/
def album (urls : List String) (caption : Option String) : List Photo :=
  match urls with
  | [] => []
  | url :: urls => ⟨url, caption⟩ :: urls.map fun url => ⟨url, none⟩

/-- What the desk can do in a chat. -/
inductive Call where
  | sendText (chat : Int64) (text : String) (keyboard : Option Keyboard)
  | sendAlbum (chat : Int64) (photos : List Photo)
  /-- Put another picture into a message. -/
  | editPhoto (chat : Int64) (message : Int32) (photo : Photo)
  /-- Put other buttons under a message. -/
  | editButtons (chat : Int64) (message : Int32) (rows : Rows)
  | delete (chat : Int64) (message : Int32)
  deriving DecidableEq, Repr

namespace Call

/-- What a call gives when it succeeds: the ids of new messages. -/
abbrev Value : Call → Type
  | sendText _ _ _ => Int32
  | sendAlbum _ _ => List Int32
  | editPhoto _ _ _ => Unit
  | editButtons _ _ _ => Unit
  | delete _ _ => Unit

/-- The reply to a call. -/
abbrev Reply (c : Call) : Type := Except ChatError c.Value

end Call

end OrderDesk.Chat
