import OrderDesk.Conversation.Guide

/-!
# Looking through the catalogue

An item is an album with a message of buttons below.  The arrows of that message put the next item
into the same messages.
-/

namespace OrderDesk.Desk

open Catalog (Item Shelf)

variable (desk : Desk)

/-- Which way to go. -/
inductive Direction where
  /-- Towards the front. -/
  | prev
  /-- Towards the back. -/
  | next
  deriving DecidableEq, Repr

/-- The pictures of an item that are shown. -/
def itemAlbum (item : Item) : List Chat.Photo :=
  Chat.album (item.imageUrls.take maxAlbumImages) (some item.caption)

/-- Sends an item as an album, or as a text if it has no pictures; the ids of the album's messages.
-/
def sendItem (chat : Int64) (item : Item) : Turn (List Int32) := do
  let photos := itemAlbum item
  if photos.isEmpty then
    sendText chat item.caption none
    return []
  else Turn.chat (.sendAlbum chat photos)

/-- There is an item after an offset.  Only the offsets of items and the one at the front are asked
about, and at these there is an answer (`Catalog.Shelf.Has.hasNext_eq_followed`). -/
def followed (shelf : Shelf) (offset : UInt64) : Bool :=
  match shelf.hasNext offset with
  | .ok found => found
  | .error .overflow => false

/-- The buttons under the item at an offset. -/
def itemRows (shelf : Shelf) (offset : UInt64) (ids : List Int32) : Except CallbackError Chat.Rows :=
  catalogRows desk.texts
    (if shelf.hasPrev offset then some (shelf.prev offset) else none)
    (if followed shelf offset then (shelf.next offset).toOption else none) ids

/-- Shows the item the customer looked at last. -/
def catalog (chat : Int64) (customer : Customer) : Turn Unit := do
  let shelf ← Turn.shelf
  let offset := shelf.clamp customer.catalogOffset
  let item := shelf.itemAt offset
  if item.isSentinel then desk.send chat "catalog-empty"
  else
    let ids ← sendItem chat item
    let rows ← Turn.ofExcept .callback (desk.itemRows (← Turn.shelf) offset ids)
    desk.sendRows chat "catalog-controls" rows
    if offset ≠ customer.catalogOffset then
      Turn.update customer { Customer.Update.none with catalogOffset := some offset }

/-- The offset one place on, if there is one. -/
def neighbourOffset? (shelf : Shelf) (offset : UInt64) : Direction → Option UInt64
  | .next => if followed shelf offset then some (offset + 1) else none
  | .prev => if shelf.hasPrev offset then some (offset - 1) else none

/-- Shows the neighbour of the item the customer looked at last, in the messages of the album where
they are known. -/
def catalogStep (chat : Int64) (customer : Customer) (direction : Direction) (album : List Int32)
    (control : Option Int32) : Turn Unit := do
  let shelf ← Turn.shelf
  match neighbourOffset? shelf (shelf.clamp customer.catalogOffset) direction with
  | none => return ()
  | some offset =>
    let item := shelf.itemAt offset
    let kept ← if album.isEmpty then sendItem chat item else replaceAlbum chat album (itemAlbum item)
    Turn.update customer { Customer.Update.none with catalogOffset := some offset }
    let rows ← Turn.ofExcept .callback (desk.itemRows (← Turn.shelf) offset kept)
    desk.showRows chat control "catalog-controls" rows

end OrderDesk.Desk
