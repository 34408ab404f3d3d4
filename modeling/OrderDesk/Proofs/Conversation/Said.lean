import OrderDesk.Proofs.Conversation.Albums

/-!
# What a step says

An item of the catalogue and a step of the guide have a text, and moving to one of them is meant to
show it.  The text has two ways to go: under the first picture of the album, or as a message of its
own.  Which of them is taken goes by whether the button carried the ids of an album, and a text under
a picture that there is not is never said.  What is said does not depend on any reply, as long as the
turn succeeds (`Turn.Tells`), so all of it can be listed: `Desk.catalogStep_tells` and
`Desk.guideStep_tells` do so.

A step says what it is about if it comes without an album to edit, or if there is a picture to put
into that album (`Desk.catalogStep_tells_iff`, `Desk.guideStep_tells_iff`).  In the one case that is
left the album is taken away and nothing comes in its place: `Gallery.coat_unseen` is a customer who
has gone back to an item that is not shown, and `Gallery.second_step_unread` one who has turned to a
step of the guide that cannot be read.
-/

namespace OrderDesk

/-! ## What calls say -/

/-- The texts of the messages that a call sends or edits. -/
def Chat.Call.texts : Chat.Call → List String
  | sendText _ text _ => [text]
  | sendAlbum _ photos => photos.filterMap (·.caption)
  | editPhoto _ _ photo => photo.caption.toList
  | _ => []

namespace Desk

/-- The texts of the messages that a call of a turn sends or edits. -/
def Call.texts : Call → List String
  | chat c => c.texts
  | _ => []

/-- The offset that a call brings a customer to. -/
def Call.offset? (c : Customer) : Call → Option UInt64
  | store (.updateCustomer id u) => if id = c.id then u.catalogOffset else none
  | _ => none

/-- All texts of the messages that calls send or edit. -/
def said (cs : List Call) : List String := cs.flatMap Call.texts

/-- The offsets that calls bring a customer to. -/
def offsets (c : Customer) (cs : List Call) : List UInt64 := cs.filterMap (Call.offset? c)

@[simp] theorem said_append (cs ds : List Call) : said (cs ++ ds) = said cs ++ said ds :=
  List.flatMap_append

@[simp] theorem offsets_append (c : Customer) (cs ds : List Call) :
    offsets c (cs ++ ds) = offsets c cs ++ offsets c ds := List.filterMap_append

end Desk

/-! ## What turns say -/

namespace Turn

open Desk (Call offsets said)

variable {α β : Type} {t : Turn α} {f : α → Turn β} {c : Customer} {moves moves' : List UInt64}
  {texts texts' : List String}

/-- If the turn succeeds, it has said `texts` and has brought the customer to the offsets `moves`. -/
def Tells (t : Turn α) (c : Customer) (moves : List UInt64) (texts : List String) : Prop :=
  t.run.Along (fun _ _ => True) fun cs r =>
    ∀ a, r = .ok a → offsets c cs = moves ∧ said cs = texts

theorem tells_pure (a : α) : (pure a : Turn α).Tells c [] [] :=
  Program.along_pure.2 fun _ _ => ⟨rfl, rfl⟩

/-- A turn that fails may be said to tell anything. -/
theorem tells_throw (e : Failure) : (throw e : Turn α).Tells c moves texts :=
  Program.along_pure.2 fun _ h => nomatch h

theorem tells_ofExcept {ε : Type} (wrap : ε → Failure) (x : Except ε α) :
    (ofExcept wrap x).Tells c [] [] := by
  cases x with
  | error e => exact tells_throw (wrap e)
  | ok a => exact tells_pure a

theorem tells_ask (call : Call) : (ask call).Tells c (call.offset? c).toList call.texts := by
  refine Program.along_ask.2 fun _ _ => Program.along_pure.2 fun _ _ => ⟨?_, ?_⟩
  · cases hoffset : call.offset? c <;> simp [offsets, hoffset]
  · simp [said]

theorem Tells.bind (h : t.Tells c moves texts) (hf : ∀ a, (f a).Tells c moves' texts') :
    (t >>= f).Tells c (moves ++ moves') (texts ++ texts') := by
  refine (Program.along_run_bind t f _).2 (Program.Along.mono h ?_)
  rintro cs (e | a) hcs
  · exact fun _ hb => nomatch hb
  · obtain ⟨hoffsets, hsaid⟩ := hcs a rfl
    refine Program.Along.mono (hf a) fun ds r hds b hb => ?_
    obtain ⟨hoffsets', hsaid'⟩ := hds b hb
    exact ⟨by rw [Desk.offsets_append, hoffsets, hoffsets'], by rw [Desk.said_append, hsaid, hsaid']⟩

/-- A turn before one that says nothing. -/
theorem Tells.bind_silent (h : t.Tells c moves texts) (hf : ∀ a, (f a).Tells c [] []) :
    (t >>= f).Tells c moves texts := by
  simpa using h.bind hf

theorem tells_store (call : Store.Call) :
    (store call).Tells c (Call.offset? c (.store call)).toList [] :=
  (tells_ask (.store call)).bind_silent fun r => tells_ofExcept _ r

theorem tells_chat (call : Chat.Call) : (chat call).Tells c [] call.texts :=
  (tells_ask (.chat call)).bind_silent fun r => tells_ofExcept _ r

section Runs

variable {W : Type} {serve : (c : Call) → W → c.Reply × W} {w : W} {a : α}

/-- What every success tells, a run that succeeds has told. -/
theorem Tells.run (h : t.Tells c moves texts) (hok : (t.run.run serve w).1 = .ok a) :
    offsets c (t.run.calls serve w) = moves ∧ said (t.run.calls serve w) = texts := by
  have hmet : t.run.Met serve (fun _ _ => True) w :=
    Program.met_of_forall (fun _ _ => trivial) t.run w
  exact Program.Along.run h hmet a hok

end Runs

end Turn

namespace Desk

open Turn (tells_ask tells_chat tells_ofExcept tells_pure tells_store tells_throw)

variable {desk : Desk} {chat : Int64} {c : Customer}

/-! ## Texts under pictures -/

theorem captions_album (urls : List String) (text : String) :
    (Chat.album urls (some text)).filterMap (·.caption) = if urls = [] then [] else [text] := by
  cases urls with
  | nil => rfl
  | cons url urls => simp [Chat.album, List.filterMap_map]

/-- The text stands under the first picture, so one picture is enough for it. -/
theorem captions_take_album {n : Nat} (hn : n ≠ 0) (urls : List String) (text : String) :
    ((Chat.album urls (some text)).take n).filterMap (·.caption) =
      if urls = [] then [] else [text] := by
  obtain ⟨n, rfl⟩ := Nat.exists_eq_succ_of_ne_zero hn
  cases urls with
  | nil => rfl
  | cons url urls => simp [Chat.album, ← List.map_take, List.filterMap_map]

theorem take_maxAlbumImages_eq_nil {urls : List String} :
    urls.take maxAlbumImages = [] ↔ urls = [] := by
  simp [maxAlbumImages]

/-! ## Parts of handlers -/

theorem sendText_tells {text : String} {keyboard : Option Chat.Keyboard} :
    (sendText chat text keyboard).Tells c [] [text] :=
  (tells_chat _).bind_silent fun _ => tells_pure ()

theorem update_tells {u : Customer.Update} :
    (Turn.update c u).Tells c u.catalogOffset.toList [] := by
  have h := tells_store (c := c) (.updateCustomer c.id u)
  rwa [show Call.offset? c (.store (.updateCustomer c.id u)) = u.catalogOffset from if_pos rfl] at h

/-- Buttons are shown without a word, unless a message has to be sent for them. -/
theorem showRows_tells {control : Option Int32} {key : String} {rows : Chat.Rows} :
    (desk.showRows chat control key rows).Tells c []
      (if control = none then [desk.texts.get key] else []) := by
  cases control with
  | none => exact sendText_tells
  | some message => exact tells_chat _

/-- An item that is sent is always shown: without a picture it is sent as a text. -/
theorem sendItem_tells {item : Catalog.Item} : (sendItem chat item).Tells c [] [item.caption] := by
  have hcaptions : (itemAlbum item).filterMap (·.caption) =
      if item.imageUrls = [] then [] else [item.caption] := by
    simp only [itemAlbum, captions_album, take_maxAlbumImages_eq_nil]
  simp only [sendItem]
  by_cases hphotos : (itemAlbum item).isEmpty = true
  · rw [if_pos hphotos]
    exact sendText_tells.bind_silent fun _ => tells_pure []
  · rw [if_neg hphotos]
    have hurls : item.imageUrls ≠ [] := by
      intro hurls
      simp [itemAlbum, hurls, Chat.album] at hphotos
    rw [if_neg hurls] at hcaptions
    rw [← hcaptions]
    exact tells_chat _

/-- Of the pictures that are put into an album, those are seen for which it has a message. -/
theorem replaceAlbum_tells {ids : List Int32} {photos : List Chat.Photo} :
    (replaceAlbum chat ids photos).Tells c []
      ((photos.take ids.length).filterMap (·.caption)) := by
  induction ids generalizing photos with
  | nil => exact tells_pure []
  | cons id ids ih =>
    cases photos with
    | nil =>
      have hdelete : (replaceAlbum chat (id :: ids) []).Tells c []
          ([] ++ (([] : List Chat.Photo).take ids.length).filterMap (·.caption)) :=
        (tells_chat (.delete chat id)).bind fun _ => ih
      simpa only [List.take_nil, List.filterMap_nil, List.nil_append] using hdelete
    | cons photo photos =>
      have hcaptions : ((photo :: photos).take (id :: ids).length).filterMap (·.caption) =
          photo.caption.toList ++ (photos.take ids.length).filterMap (·.caption) := by
        cases hcaption : photo.caption <;> simp [hcaption]
      rw [hcaptions]
      exact (tells_chat (.editPhoto chat id photo)).bind fun _ =>
        ih.bind_silent fun kept => tells_pure (id :: kept)

/-- An item that is put into the messages of an album is shown if it has a picture. -/
theorem replaceAlbum_item_tells {ids : List Int32} (hids : ids ≠ []) {item : Catalog.Item} :
    (replaceAlbum chat ids (itemAlbum item)).Tells c []
      (if item.imageUrls = [] then [] else [item.caption]) := by
  have hlength : ids.length ≠ 0 := by simpa using hids
  have hphotos : (replaceAlbum chat ids (itemAlbum item)).Tells c []
      (((itemAlbum item).take ids.length).filterMap (·.caption)) := replaceAlbum_tells
  simpa only [itemAlbum, captions_take_album hlength, take_maxAlbumImages_eq_nil] using hphotos

/-! ## Steps through the catalogue -/

/-- What a step through the catalogue says that brings the customer to an item: the item, unless it
has no picture for an album that is there, and a phrase for the buttons, unless there is a message
with buttons. -/
def stepTexts (desk : Desk) (item : Catalog.Item) (album : List Int32) (control : Option Int32) :
    List String :=
  (if album = [] ∨ item.imageUrls ≠ [] then [item.caption] else []) ++
    if control = none then [desk.texts.get "catalog-controls"] else []

/-- A step through the catalogue looks at the shelf first, and what it says then is determined. -/
theorem catalogStep_tells (desk : Desk) (chat : Int64) (c : Customer) (direction : Direction)
    (album : List Int32) (control : Option Int32) :
    ∃ rest : Catalog.Shelf → Turn Unit,
      desk.catalogStep chat c direction album control = Turn.shelf >>= rest ∧
      ∀ shelf, match neighbourOffset? shelf (shelf.clamp c.catalogOffset) direction with
        | none => (rest shelf).Tells c [] []
        | some offset =>
          (rest shelf).Tells c [offset] (desk.stepTexts (shelf.itemAt offset) album control) := by
  refine ⟨_, rfl, fun shelf => ?_⟩
  cases neighbourOffset? shelf (shelf.clamp c.catalogOffset) direction with
  | none => exact tells_pure ()
  | some offset =>
    -- whatever the messages of the album are, the rest is the same
    have rest : ∀ kept, (do
        Turn.update c { Customer.Update.none with catalogOffset := some offset }
        let rows ← Turn.ofExcept .callback (desk.itemRows (← Turn.shelf) offset kept)
        desk.showRows chat control "catalog-controls" rows).Tells c [offset]
          (if control = none then [desk.texts.get "catalog-controls"] else []) := by
      intro kept
      exact update_tells.bind fun _ => (tells_ask .shelf).bind fun shelf' =>
        (tells_ofExcept _ _).bind fun rows => showRows_tells
    by_cases halbum : album = []
    · have hsent : (sendItem chat (shelf.itemAt offset)).Tells c [] [(shelf.itemAt offset).caption] :=
        sendItem_tells
      simpa [stepTexts, halbum] using hsent.bind rest
    · have hreplaced : (replaceAlbum chat album (itemAlbum (shelf.itemAt offset))).Tells c []
          (if (shelf.itemAt offset).imageUrls = [] then []
            else [(shelf.itemAt offset).caption]) := replaceAlbum_item_tells halbum
      simpa [stepTexts, halbum] using hreplaced.bind rest

/-! ## Steps of the guide -/

/-- What a step of the guide says: a text under the pictures, if there are some, and the text above
the buttons, unless the messages of the step before are used. -/
def guideTexts (desk : Desk) (n : UInt8) (album : List Int32) (control : Option Int32) :
    List String :=
  (if desk.settings.guideStepImages n ≠ [] then [desk.texts.get (guideKey n)] else []) ++
    if album = [] ∨ control = none then [desk.texts.get (guideKey n)] else []

theorem sendGuideStep_tells (desk : Desk) (chat : Int64) (c : Customer) (n : UInt8) :
    (desk.sendGuideStep chat n).Tells c [] (desk.guideTexts n [] none) := by
  have hcaptions : (desk.guideAlbum n).filterMap (·.caption) =
      if desk.settings.guideStepImages n ≠ [] then [desk.texts.get (guideKey n)] else [] := by
    simp only [guideAlbum, captions_album, take_maxAlbumImages_eq_nil, ite_not]
  have rest : ∀ ids, (do
      let rows ← Turn.ofExcept .callback (guideRows desk.texts n ids)
      desk.sendRows chat (guideKey n) rows).Tells c [] [desk.texts.get (guideKey n)] :=
    fun ids => (tells_ofExcept _ _).bind fun rows => sendText_tells
  simp only [sendGuideStep]
  by_cases hphotos : (desk.guideAlbum n).isEmpty = true
  · have hnil : desk.guideAlbum n = [] := List.isEmpty_iff.1 hphotos
    rw [if_pos hphotos]
    have h := (tells_pure (c := c) ([] : List Int32)).bind rest
    rw [hnil, List.filterMap_nil] at hcaptions
    simpa [guideTexts, ← hcaptions] using h
  · rw [if_neg hphotos]
    have h := (tells_chat (c := c) (.sendAlbum chat (desk.guideAlbum n))).bind rest
    rw [show (Chat.Call.sendAlbum chat (desk.guideAlbum n)).texts = _ from hcaptions] at h
    simpa [guideTexts] using h

theorem guideStep_tells (desk : Desk) (chat : Int64) (c : Customer) (n : UInt8)
    (album : List Int32) (control : Option Int32) :
    (desk.guideStep chat n album control).Tells c [] (desk.guideTexts n album control) := by
  simp only [guideStep]
  split
  · exact tells_throw (α := Unit) .invalidUpdate
  · split
    · simpa [guideTexts] using desk.sendGuideStep_tells chat c n
    · rename_i message
      by_cases halbum : album = []
      · subst halbum
        simpa [guideTexts] using desk.sendGuideStep_tells chat c n
      · have hlength : album.length ≠ 0 := by simpa using halbum
        have hpictures : ((desk.guideAlbum n).take album.length).filterMap (·.caption) =
            desk.guideTexts n album (some message) := by
          simp only [guideAlbum, captions_take_album hlength, take_maxAlbumImages_eq_nil]
          simp [guideTexts, halbum]
        have hreplaced : (replaceAlbum chat album (desk.guideAlbum n)).Tells c []
            (((desk.guideAlbum n).take album.length).filterMap (·.caption)) := replaceAlbum_tells
        rw [hpictures] at hreplaced
        have hguide := hreplaced.bind_silent fun kept =>
          (tells_ofExcept .callback (guideRows desk.texts n kept)).bind fun rows =>
            tells_chat (.editButtons chat message rows)
        simpa [halbum] using hguide

section Runs

variable {W : Type} {serve : (c : Call) → W → c.Reply × W} {w : W}

/-- A step through the catalogue that succeeds and moves the customer has said the item it moved to
if and only if it came without an album or the item has a picture.  (Else only the phrase for the
buttons can have been said, which may happen to read like the item.) -/
theorem catalogStep_tells_iff (desk : Desk) (chat : Int64) (c : Customer) (direction : Direction)
    (album : List Int32) (control : Option Int32) {offset : UInt64}
    (hok : ((desk.catalogStep chat c direction album control).run.run serve w).1 = .ok ())
    (hmoved : offset ∈
      offsets c ((desk.catalogStep chat c direction album control).run.calls serve w)) :
    ((serve .shelf w).1.itemAt offset).caption ∈
        said ((desk.catalogStep chat c direction album control).run.calls serve w) ↔
      album = [] ∨ ((serve .shelf w).1.itemAt offset).imageUrls ≠ [] ∨
        (control = none ∧
          desk.texts.get "catalog-controls" = ((serve .shelf w).1.itemAt offset).caption) := by
  obtain ⟨rest, hstep, htells⟩ := desk.catalogStep_tells chat c direction album control
  have hcalls : (desk.catalogStep chat c direction album control).run.calls serve w =
      .shelf :: (rest (serve .shelf w).1).run.calls serve (serve .shelf w).2 := by
    rw [hstep]
    rfl
  have hrest : ((rest (serve .shelf w).1).run.run serve (serve .shelf w).2).1 = .ok () := by
    rw [← hok, hstep]
    rfl
  have hoffsets : offsets c (.shelf :: (rest (serve .shelf w).1).run.calls serve (serve .shelf w).2) =
    offsets c ((rest (serve .shelf w).1).run.calls serve (serve .shelf w).2) := rfl
  have hsaid : said (.shelf :: (rest (serve .shelf w).1).run.calls serve (serve .shelf w).2) =
    said ((rest (serve .shelf w).1).run.calls serve (serve .shelf w).2) := rfl
  rw [hcalls, hoffsets] at hmoved
  rw [hcalls, hsaid]
  have h := htells (serve .shelf w).1
  split at h
  · simp [(h.run hrest).1] at hmoved
  · obtain ⟨hmoves, hspoken⟩ := h.run hrest
    rw [hmoves, List.mem_singleton] at hmoved
    subst hmoved
    rw [hspoken, stepTexts]
    by_cases halbum : album = [] <;> by_cases hcontrol : control = none <;>
      simp [halbum, hcontrol, eq_comm (a := Catalog.Item.caption _)]

/-- A step of the guide that succeeds has said its text if and only if it has pictures or it came
without an album to put them into. -/
theorem guideStep_tells_iff (desk : Desk) (chat : Int64) (n : UInt8) (album : List Int32)
    (control : Option Int32)
    (hok : ((desk.guideStep chat n album control).run.run serve w).1 = .ok ()) :
    desk.texts.get (guideKey n) ∈ said ((desk.guideStep chat n album control).run.calls serve w) ↔
      desk.settings.guideStepImages n ≠ [] ∨ album = [] ∨ control = none := by
  obtain ⟨-, hspoken⟩ := (desk.guideStep_tells chat (.fresh 0 "") n album control).run hok
  rw [hspoken, guideTexts]
  by_cases hpictures : desk.settings.guideStepImages n = [] <;>
    by_cases hnew : album = [] ∨ control = none <;> simp [hpictures, hnew]

end Runs

end Desk

namespace Gallery

open Desk (offsets said)

/-! ## Texts that are lost -/

/-- A customer at the second of two items. -/
def stroller : Customer := { Customer.fresh 1 "Ivan" with catalogOffset := 1 }

/-- The bag is put into the first message of the album of the item before. -/
theorem bag_seen :
    ((world.serve .shelf).1.itemAt 1).caption ∈
      said ((Desk.bare.catalogStep 1 (.fresh 1 "Ivan") .next [7] (some 8)).run.calls
        World.serve world) :=
  have hmoved : 1 ∈ offsets (.fresh 1 "Ivan")
      ((Desk.bare.catalogStep 1 (.fresh 1 "Ivan") .next [7] (some 8)).run.calls World.serve world) := by
    decide +kernel
  (Desk.bare.catalogStep_tells_iff 1 (.fresh 1 "Ivan") .next [7] (some 8) rfl hmoved).2
    (.inr (.inl (by decide)))

/-- The coat has no pictures.  A customer who goes back to it is at the coat then, but all that has
happened is that the pictures of the bag are gone. -/
theorem coat_unseen :
    ¬ ∀ (desk : Desk) (chat : Int64) (c : Customer) (direction : Desk.Direction)
      (album : List Int32) (control : Option Int32) (w : World) (offset : UInt64),
      (w.run (desk.catalogStep chat c direction album control)).1 = .ok () →
      offset ∈ offsets c ((desk.catalogStep chat c direction album control).run.calls World.serve w) →
      (w.shelf.itemAt offset).caption ∈
        said ((desk.catalogStep chat c direction album control).run.calls World.serve w) := by
  intro h
  have hcoat := h Desk.bare 1 stroller .prev [2, 3, 4, 5, 6, 7] (some 8)
    { world with memory := ⟨[stroller], [], []⟩ } 0 rfl (by decide +kernel)
  exact absurd hcoat (by decide +kernel)

/-- A guide whose first and third steps have pictures. -/
def illustrated : Desk :=
  { Desk.bare with settings := { Settings.standard with guideImages := [["1"], [], ["3"], []] } }

theorem third_step_read :
    illustrated.texts.get (Desk.guideKey 3) ∈
      said ((illustrated.guideStep 1 3 [2] (some 3)).run.calls World.serve Purchase.opening) :=
  (illustrated.guideStep_tells_iff 1 3 [2] (some 3) rfl).2 (.inl (by decide))

/-- On the way from the first step to the second one the picture is deleted, and the text above the
buttons stays that of the first step. -/
theorem second_step_unread :
    ¬ ∀ (desk : Desk) (chat : Int64) (n : UInt8) (album : List Int32) (control : Option Int32)
      (w : World),
      (w.run (desk.guideStep chat n album control)).1 = .ok () →
      desk.texts.get (Desk.guideKey n) ∈
        said ((desk.guideStep chat n album control).run.calls World.serve w) := by
  intro h
  have hsecond := h illustrated 1 2 [2] (some 3) Purchase.opening rfl
  exact absurd hsecond (by decide +kernel)

end Gallery

end OrderDesk
