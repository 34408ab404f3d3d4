import OrderDesk.Chat
import OrderDesk.Record.Fields

/-!
# Messages of the bot server

Of a message the desk needs where it stands, who sent it and its text; all else the server says
about it is passed over.
-/

namespace OrderDesk.BotApi

open Json (Value)
open Record

/-- A message. -/
structure Message where
  /-- Id within its chat. -/
  id : Int32
  chat : Int64
  /-- Sender, where there is one. -/
  sender : Option Chat.Sender
  /-- Text, where it is a text message. -/
  text : Option String
  deriving DecidableEq, Repr

/-- The kinds of chats. -/
def chatKinds : List String := ["private", "group", "supergroup", "channel"]

/-- Reads the identifier of a chat. -/
def chatId? (v : Value) : Option Int64 := do
  let kind ← required readString? (v.field? "type")
  guard (kind ∈ chatKinds)
  required readInt64? (v.field? "id")

/-- Reads a person; identifiers are kept by their bits. -/
def sender? (v : Value) : Option Chat.Sender := do
  let id ← required readUInt64? (v.field? "id")
  let _ ← required readBool? (v.field? "is_bot")
  return { id := id.toInt64
           firstName := ← required readString? (v.field? "first_name")
           lastName := ← optional readString? (v.field? "last_name")
           username := ← optional readString? (v.field? "username") }

/-- Reads a message. -/
def Message.ofRecord? (v : Value) : Option Message := do
  let _ ← required readInt64? (v.field? "date")
  return { id := ← required readInt32? (v.field? "message_id")
           chat := ← required chatId? (v.field? "chat")
           sender := ← optional sender? (v.field? "from")
           text := (v.field? "text").bind readString? }

end OrderDesk.BotApi
