import OrderDesk.BotApi.Message

/-!
# Updates from the bot server

The server reports what happened as updates.  A text message from a person and a pressed button that
carries data are events for the desk, as long as anyone takes them.  Every pressed button is
acknowledged, so that it does not look busy; nothing hangs on how that goes.
-/

namespace OrderDesk.BotApi

open Json (Value)
open Record

/-- A pressed button. -/
structure Press where
  /-- What the press is acknowledged by. -/
  id : String
  /-- Who pressed it. -/
  sender : Chat.Sender
  /-- Chat and id of the message it is on, where they are known. -/
  place : Option (Int64 × Int32)
  /-- What it carries. -/
  data : Option String
  deriving DecidableEq, Repr

/-- An update. -/
inductive Update where
  | message (m : Message)
  | press (p : Press)
  /-- Anything else, and what cannot be read. -/
  | other
  deriving DecidableEq, Repr

/-- Reads a pressed button. -/
def Press.ofRecord? (v : Value) : Option Press := do
  let _ ← required readString? (v.field? "chat_instance")
  let message ← optional Message.ofRecord? (v.field? "message")
  return { id := ← required readString? (v.field? "id")
           sender := ← required sender? (v.field? "from")
           place := message.map fun m => (m.chat, m.id)
           data := ← optional readString? (v.field? "data") }

namespace Update

/-- Reads an update. -/
def ofRecord (v : Value) : Update :=
  match v.field? "message", v.field? "callback_query" with
  | some m, _ => ((Message.ofRecord? m).map message).getD other
  | none, some p => ((Press.ofRecord? p).map press).getD other
  | none, none => other

/-- The event that an update is. -/
def event? : Update → Option Chat.Event
  | message m => do return .text m.chat (← m.sender) (← m.text)
  | press p => do
    let data ← p.data
    return match p.place with
      | some (chat, id) => .press chat p.sender (some id) data
      | none => .press p.sender.id p.sender none data
  | other => none

/-- The press that an update has to be acknowledged by. -/
def acknowledged? : Update → Option String
  | press p => some p.id
  | _ => none

end Update

/-- What comes of some updates. -/
structure Intake where
  events : List Chat.Event
  acknowledged : List String
  deriving DecidableEq, Repr

/-- Takes updates in, in their order; the desk gets events only if it `listens`. -/
def receive (listens : Bool) (updates : List Update) : Intake :=
  ⟨if listens then updates.filterMap Update.event? else [], updates.filterMap Update.acknowledged?⟩

end OrderDesk.BotApi
