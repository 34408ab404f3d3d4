import OrderDesk.Chat
import OrderDesk.Record.Fields

/-!
# The chat as JSON

Keyboards, pictures, what comes in and what is done in a chat.
-/

namespace OrderDesk.Chat

open Record

/-! ## Keyboards and pictures -/

/-- A button as a record. -/
def Button.toRecord (b : Button) : Json.Value := .object [("text", .string b.label), ("data", .string b.data)]

/-- A button. -/
def Button.ofRecord? (v : Json.Value) : Option Button := do
  let [label, data] ← fields? ["text", "data"] v | none
  return ⟨← required readString? label, ← required readString? data⟩

/-- Rows of buttons as a record. -/
def rowsRecord (rows : Rows) : Json.Value := .array (rows.map fun row => .array (row.map Button.toRecord))

/-- Rows of buttons. -/
def rows? : Json.Value → Option Rows := readList? (readList? Button.ofRecord?)

/-- A keyboard as a record. -/
def Keyboard.toRecord : Keyboard → Json.Value
  | inline rows => .object [("inline", rowsRecord rows)]
  | reply rows => .object [("reply", .array (rows.map writeStrings))]

/-- A keyboard. -/
def Keyboard.ofRecord? (v : Json.Value) : Option Keyboard :=
  match v.field? "inline", v.field? "reply" with
  | some rows, _ => (rows? rows).map inline
  | none, some rows => (readList? (readList? readString?) rows).map reply
  | none, none => none

/-- A picture as a record. -/
def Photo.toRecord (p : Photo) : Json.Value :=
  .object [("url", .string p.url), ("caption", .ofOption .string p.caption)]

/-- A picture. -/
def Photo.ofRecord? (v : Json.Value) : Option Photo := do
  let [url, caption] ← fields? ["url", "caption"] v | none
  return ⟨← required readString? url, ← optional readString? caption⟩

/-! ## What comes in -/

/-- A sender as a record. -/
def Sender.toRecord (s : Sender) : Json.Value :=
  .object [("id", .integer s.id.toInt), ("first_name", .string s.firstName),
           ("last_name", .ofOption .string s.lastName), ("username", .ofOption .string s.username)]

/-- An event as a record. -/
def Event.toRecord : Event → Json.Value
  | text chat sender s =>
    .object [("type", .string "text"), ("chat_id", .integer chat.toInt), ("from", sender.toRecord),
             ("text", .string s)]
  | press chat sender message data =>
    .object [("type", .string "callback"), ("chat_id", .integer chat.toInt), ("from", sender.toRecord),
             ("message_id", .ofOption (fun m => .integer m.toInt) message), ("data", .string data)]

/-! ## What is done -/

/-- A call as a record. -/
def Call.toRecord : Call → Json.Value
  | sendText chat text keyboard =>
    .object [("type", .string "text"), ("chat_id", .integer chat.toInt), ("text", .string text),
             ("keyboard", .ofOption Keyboard.toRecord keyboard)]
  | sendAlbum chat photos =>
    .object [("type", .string "album"), ("chat_id", .integer chat.toInt),
             ("media", .array (photos.map Photo.toRecord))]
  | editPhoto chat message photo =>
    .object [("type", .string "edit_media"), ("chat_id", .integer chat.toInt),
             ("message_id", .integer message.toInt), ("media", photo.toRecord)]
  | editButtons chat message rows =>
    .object [("type", .string "edit_buttons"), ("chat_id", .integer chat.toInt),
             ("message_id", .integer message.toInt), ("buttons", rowsRecord rows)]
  | delete chat message =>
    .object [("type", .string "delete"), ("chat_id", .integer chat.toInt),
             ("message_id", .integer message.toInt)]

/-- The call with the given kind and arguments. -/
def Call.ofRecord? (kind : String) (v : Json.Value) : Option Call := do
  let chat ← required readInt64? (v.field? "chat_id")
  match kind with
  | "send_text" =>
    return .sendText chat (← required readString? (v.field? "text"))
      (← optional Keyboard.ofRecord? (v.field? "keyboard"))
  | "send_media_group" => return .sendAlbum chat (← required (readList? Photo.ofRecord?) (v.field? "media"))
  | _ =>
    let message ← required readInt32? (v.field? "message_id")
    match kind with
    | "edit_message_media" => return .editPhoto chat message (← required Photo.ofRecord? (v.field? "media"))
    | "edit_message_buttons" => return .editButtons chat message (← required rows? (v.field? "buttons"))
    | "delete_message" => return .delete chat message
    | _ => none

end OrderDesk.Chat
