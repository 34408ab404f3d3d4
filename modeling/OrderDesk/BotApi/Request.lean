import OrderDesk.Chat
import OrderDesk.Json.Value
import OrderDesk.Url.Address

/-!
# Requests to the bot server

What is done in a chat is a request to the server that the chat is on: a method and an object of
arguments.  An argument that is not given is left out.  The addresses of pictures are written in
their one spelling, and a call with a picture whose address cannot be read makes no request.
-/

namespace OrderDesk.BotApi

open Json (Value)

/-- A request. -/
structure Request where
  method : String
  arguments : Value
  deriving Repr

/-- A button under a message. -/
def button (b : Chat.Button) : Value :=
  .object [("text", .string b.label), ("callback_data", .string b.data)]

/-- Buttons under a message. -/
def inlineKeyboard (rows : Chat.Rows) : Value :=
  .object [("inline_keyboard", .array (rows.map fun row => .array (row.map button)))]

/-- A key under the input field. -/
def key (label : String) : Value := .object [("text", .string label)]

/-- A keyboard. -/
def keyboard : Chat.Keyboard → Value
  | .inline rows => inlineKeyboard rows
  | .reply rows => .object [("keyboard", .array (rows.map fun row => .array (row.map key)))]

/-- A picture, if its address can be read. -/
def photo (p : Chat.Photo) : Except ChatError Value :=
  match Url.normalized? p.url with
  | some url =>
    .ok (.object ([("type", .string "photo"), ("media", .string url)] ++
      p.caption.toList.map fun caption => ("caption", .string caption)))
  | none => .error (.invalidUrl p.url)

/-- The request for a call. -/
def request : Chat.Call → Except ChatError Request
  | .sendText chat text markup =>
    .ok ⟨"sendMessage", .object ([("chat_id", .integer chat.toInt), ("text", .string text)] ++
      markup.toList.map fun k => ("reply_markup", keyboard k))⟩
  | .sendAlbum chat photos => do
    let media ← photos.mapM photo
    return ⟨"sendMediaGroup", .object [("chat_id", .integer chat.toInt), ("media", .array media)]⟩
  | .editPhoto chat message picture => do
    let media ← photo picture
    return ⟨"editMessageMedia", .object [("chat_id", .integer chat.toInt),
      ("message_id", .integer message.toInt), ("media", media)]⟩
  | .editButtons chat message rows =>
    .ok ⟨"editMessageReplyMarkup", .object [("chat_id", .integer chat.toInt),
      ("message_id", .integer message.toInt), ("reply_markup", inlineKeyboard rows)]⟩
  | .delete chat message =>
    .ok ⟨"deleteMessage", .object [("chat_id", .integer chat.toInt), ("message_id", .integer message.toInt)]⟩

end OrderDesk.BotApi
