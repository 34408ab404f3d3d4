import OrderDesk.Conversation.Turn

/-!
# The guide

Four steps with pictures.  The arrows carry the ids of the album's messages, so that the pictures of
one step take the places of those before.
-/

namespace OrderDesk.Desk

variable (desk : Desk)

/-- The key of the text of a guide step. -/
def guideKey (n : UInt8) : String := "guide-step-" ++ Decimal.ofNat n.toNat

/-- The album of a guide step. -/
def guideAlbum (n : UInt8) : List Chat.Photo :=
  Chat.album ((desk.settings.guideStepImages n).take maxAlbumImages) (some (desk.texts.get (guideKey n)))

/-- Puts pictures into the messages of an album one by one and deletes the messages for which there
is none left; the ids of the messages that stay. -/
def replaceAlbum (chat : Int64) : List Int32 → List Chat.Photo → Turn (List Int32)
  | [], _ => return []
  | id :: ids, photo :: photos => do
    Turn.chat (.editPhoto chat id photo)
    return id :: (← replaceAlbum chat ids photos)
  | id :: ids, [] => do
    Turn.chat (.delete chat id)
    replaceAlbum chat ids []

/-- Sends a guide step with an album of its own. -/
def sendGuideStep (chat : Int64) (n : UInt8) : Turn Unit := do
  let photos := desk.guideAlbum n
  let ids ← if photos.isEmpty then pure [] else Turn.chat (.sendAlbum chat photos)
  let rows ← Turn.ofExcept .callback (guideRows desk.texts n ids)
  desk.sendRows chat (guideKey n) rows

/-- Shows a guide step: in the messages of the step before where they are known, else in new ones.
-/
def guideStep (chat : Int64) (n : UInt8) (album : List Int32) (control : Option Int32) : Turn Unit := do
  if n < 1 || guideSteps < n then throw .invalidUpdate
  match control with
  | none => desk.sendGuideStep chat n
  | some control =>
    if album.isEmpty then desk.sendGuideStep chat n
    else
      let kept ← replaceAlbum chat album (desk.guideAlbum n)
      let rows ← Turn.ofExcept .callback (guideRows desk.texts n kept)
      Turn.chat (.editButtons chat control rows)

end OrderDesk.Desk
