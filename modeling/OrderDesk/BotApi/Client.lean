import OrderDesk.BotApi.Message
import OrderDesk.BotApi.Request
import OrderDesk.Json.Reader
import OrderDesk.Program

/-!
# The chat on a bot server

Every call to the chat as a program of at most one request.  The server answers with a JSON text; a
text that says anything but success, or that lacks what the call is to give, is an error.
-/

namespace OrderDesk.BotApi

open Json (Value)
open Record

/-- The result in the server's answer, if it reports success. -/
def result? (answer : String) : Option Value := do
  let v ← Json.ofText? answer
  guard (((v.field? "ok").bind readBool?) = some true)
  v.field? "result"

/-- The id of the message in a result. -/
def messageId? (v : Value) : Option Int32 := (Message.ofRecord? v).map Message.id

/-- The ids of the messages in a result. -/
def messageIds? (v : Value) : Option (List Int32) := readList? messageId? v

/-- The result says that it is done. -/
def done? (v : Value) : Option Unit := (readBool? v).bind fun b => if b then some () else none

/-- What a call gives, out of the result. -/
def value? : (c : Chat.Call) → Value → Option c.Value
  | .sendText _ _ _, v => messageId? v
  | .sendAlbum _ _, v => messageIds? v
  | .editPhoto _ _ _, v => (messageId? v).map fun _ => ()
  | .editButtons _ _ _, v => (messageId? v).map fun _ => ()
  | .delete _ _, v => done? v

/-- The reply to a call, out of the server's answer. -/
def reply (c : Chat.Call) (answer : String) : c.Reply :=
  match (result? answer).bind (value? c) with
  | some a => .ok a
  | none => .error (.request answer)

/-- Serves a call to the chat with at most one request. -/
def serve (c : Chat.Call) : Program Request (fun _ => String) c.Reply :=
  match request c with
  | .ok r => reply c <$> Program.call r
  | .error e => pure (.error e)

end OrderDesk.BotApi
