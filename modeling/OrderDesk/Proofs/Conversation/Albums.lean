import OrderDesk.Proofs.Conversation.Overflow
import OrderDesk.Proofs.Conversation.Results
import OrderDesk.Proofs.World.History

/-!
# Room for new albums

The buttons under an album can only be built once the album is sent, since they carry the ids of its
messages.  Whether they can is up to the chat: `Turn.Carries ids` says that a turn never fails for
data that are too long if the chat gives every album the ids `ids`.  Looking through the catalogue
does so exactly for the ids that leave room for a code of four digits, and showing a step of the
guide exactly for those that leave room for a code of one digit (`Desk.carries_iff`).

Six ids of eight digits do (`ButtonData.fits_album`), but six ids of nine digits are too much for
the catalogue and six ids of ten digits for the guide.  `Gallery.arrows_too_long` is a customer who
has been moved on to the next item, and has got its pictures, but not the buttons below.
-/

namespace OrderDesk

open ButtonData (Fits fits_nil)

/-- Data are too long. -/
def Failure.isOverflow : Failure → Bool
  | callback (.tooLong _) => true
  | _ => false

theorem Failure.tolerant_isOverflow : Failure.Tolerant fun e => ¬ e.isOverflow :=
  ⟨fun _ => Bool.false_ne_true, fun _ => Bool.false_ne_true⟩

/-- The chat gives albums the ids `ids`. -/
def Desk.Numbers (ids : List Int32) : (c : Desk.Call) → c.Reply → Prop
  | .chat (.sendAlbum _ _), r => ∀ given, r = Except.ok given → given = ids
  | _, _ => True

namespace Turn

variable {α β : Type} {A : (c : Desk.Call) → c.Reply → Prop} {t : Turn α} {f : α → Turn β}

/-- If the chat gives albums the ids `ids`, the turn never fails for data that are too long. -/
def Carries (ids : List Int32) (t : Turn Unit) : Prop :=
  t.Results (Desk.Numbers ids) (fun _ => True) fun e => ¬ e.isOverflow

/-! ## Ways that can be taken -/

/-- Some way ends in `r`. -/
def May (A : (c : Desk.Call) → c.Reply → Prop) (t : Turn α) (r : Except Failure α) : Prop :=
  ¬ t.run.Along A fun _ s => s ≠ r

theorem may_pure (a : α) : (pure a : Turn α).May A (.ok a) := fun h => Program.along_pure.1 h rfl

theorem may_ofExcept {ε : Type} (wrap : ε → Failure) (x : Except ε α) :
    (ofExcept wrap x).May A (x.mapError wrap) := by
  cases x with
  | ok a => exact may_pure a
  | error e => exact fun h => Program.along_pure.1 h rfl

theorem may_ask {c : Desk.Call} {r : c.Reply} (h : A c r) : (ask c).May A (.ok r) := fun hway =>
  Program.along_pure.1 (Program.along_ask.1 hway r h) rfl

theorem May.bind {a : α} {r : Except Failure β} (h : t.May A (.ok a)) (hf : (f a).May A r) :
    (t >>= f).May A r := by
  refine fun hway => h (Program.Along.mono ((Program.along_run_bind t f _).1 hway) ?_)
  rintro cs _ hrest rfl
  exact hf hrest

theorem May.bind_of_error {e : Failure} (h : t.May A (.error e)) :
    (t >>= f).May A (.error e) := by
  refine fun hway => h (Program.Along.mono ((Program.along_run_bind t f _).1 hway) ?_)
  rintro cs _ hrest rfl
  exact hrest rfl

theorem may_store {c : Store.Call} {v : c.Value} (h : A (.store c) (Except.ok v)) :
    (store c).May A (.ok v) := (may_ask h).bind (may_pure v)

theorem may_chat {c : Chat.Call} {v : c.Value} (h : A (.chat c) (Except.ok v)) :
    (chat c).May A (.ok v) := (may_ask h).bind (may_pure v)

/-- Keyboards that are too much to carry end the turn. -/
theorem may_overflow {rows : Except CallbackError Chat.Rows} {k : Nat} {f : Chat.Rows → Turn Unit}
    (h : rows = .error (.tooLong k)) :
    (ofExcept .callback rows >>= f).May A (.error (.callback (.tooLong k))) := by
  refine May.bind_of_error ?_
  subst h
  exact may_ofExcept .callback _

theorem Carries.not_may {ids : List Int32} {t : Turn Unit} (h : t.Carries ids) (k : Nat) :
    ¬ t.May (Desk.Numbers ids) (.error (.callback (.tooLong k))) := fun hmay =>
  hmay (Program.Along.mono h fun _ _ hr hs => hr.2 _ hs rfl)

end Turn

namespace Desk

open Turn (may_ask may_chat may_overflow may_store)

variable {desk : Desk} {chat : Int64} {c : Customer} {ids : List Int32} {n : UInt8}

theorem numbers_album {chat : Int64} {photos : List Chat.Photo} :
    ∀ given, Numbers ids (.chat (.sendAlbum chat photos)) (Except.ok given) → given = ids :=
  fun given h => h given rfl

/-! ## Ids that leave room -/

theorem itemRows_fits (h : Fits 4 ids) (shelf : Catalog.Shelf) (offset : UInt64) {e : CallbackError}
    (he : desk.itemRows shelf offset ids = .error e) : ¬ (Failure.callback e).isOverflow := by
  obtain ⟨rows, hrows⟩ := catalogRows_ok_iff.2 fun _ => h
  cases he.symm.trans hrows

theorem catalog_carries (h : Fits 4 ids) : (desk.catalog chat c).Carries ids :=
  catalog_results Failure.tolerant_isOverflow (K := Fits 4) fits_nil
    (fun _ given hgiven => numbers_album given hgiven ▸ h)
    fun shelf offset _ hids _ he => itemRows_fits hids shelf offset he

theorem catalogStep_carries (h : Fits 4 ids) (direction : Direction) (control : Option Int32) :
    (desk.catalogStep chat c direction [] control).Carries ids :=
  catalogStep_results Failure.tolerant_isOverflow (K := Fits 4) fits_nil
    (fun hnil => absurd rfl hnil) (fun _ given hgiven => numbers_album given hgiven ▸ h)
    fun shelf offset _ hids _ he => itemRows_fits hids shelf offset he

theorem guideStep_carries (h : Fits 1 ids) (hfirst : 1 ≤ n) (hlast : n ≤ guideSteps)
    {album : List Int32} {control : Option Int32} (hnew : album = [] ∨ control = none) :
    (desk.guideStep chat n album control).Carries ids := by
  refine guideStep_results Failure.tolerant_isOverflow (K := Fits 1) (fun _ => Bool.false_ne_true)
    (fits_nil.mono (by decide))
    (fun halbum hcontrol => absurd hnew (not_or.2 ⟨halbum, hcontrol⟩))
    (fun _ given hgiven => numbers_album given hgiven ▸ h) fun given hids e he => ?_
  obtain ⟨rows, hrows⟩ := (guideRows_ok_iff hfirst hlast).2 hids
  cases he.symm.trans hrows

/-! ## Ids that do not -/

theorem sendItem_may {item : Catalog.Item} (hfilled : item.imageUrls ≠ []) :
    (sendItem chat item).May (Numbers ids) (.ok ids) := by
  have hphotos : (itemAlbum item).isEmpty = false := by
    unfold itemAlbum
    cases hurls : item.imageUrls with
    | nil => exact absurd hurls hfilled
    | cons url urls => rfl
  simp only [sendItem, hphotos]
  exact may_chat fun given hgiven => (Except.ok.inj hgiven).symm

/-- Two items with pictures. -/
def pair : Catalog.Shelf := ⟨[.fresh ⟨1⟩ "Coat" ["coat"], .fresh ⟨2⟩ "Bag" ["bag"]]⟩

theorem pair_clamp (offset : UInt64) : pair.clamp offset = 0 ∨ pair.clamp offset = 1 := by
  unfold Catalog.Shelf.clamp
  split
  · rename_i hlt
    have hlt : offset.toNat < 2 := hlt
    rcases (by omega : offset.toNat = 0 ∨ offset.toNat = 1) with h | h
    · exact .inl (UInt64.toNat_inj.1 h)
    · exact .inr (UInt64.toNat_inj.1 h)
  · exact .inl rfl

theorem catalog_may (desk : Desk) (chat : Int64) (c : Customer) (h : ¬ Fits 4 ids) :
    ∃ k, (desk.catalog chat c).May (Numbers ids) (.error (.callback (.tooLong k))) := by
  have hneighbour : ∀ offset, offset = 0 ∨ offset = 1 →
      ∃ k, desk.itemRows pair offset ids = .error (.tooLong k) := by
    rintro offset (rfl | rfl)
    · exact catalogRows_tooLong (.inr rfl) h
    · exact catalogRows_tooLong (.inl rfl) h
  obtain ⟨k, hrows⟩ := hneighbour _ (pair_clamp c.catalogOffset)
  have hitem : (pair.itemAt (pair.clamp c.catalogOffset)).isSentinel = false ∧
      (pair.itemAt (pair.clamp c.catalogOffset)).imageUrls ≠ [] := by
    rcases pair_clamp c.catalogOffset with hoffset | hoffset <;> rw [hoffset] <;> decide
  refine ⟨k, ?_⟩
  unfold catalog
  refine (may_ask (c := .shelf) (r := pair) trivial).bind ?_
  simp only [hitem.1]
  refine (sendItem_may hitem.2).bind ?_
  exact (may_ask (c := .shelf) (r := pair) trivial).bind (may_overflow hrows)

/-- Forward from the first of two items. -/
theorem catalogStep_may (desk : Desk) (chat : Int64) (hc : c.catalogOffset = 0)
    (control : Option Int32) (h : ¬ Fits 4 ids) :
    ∃ k, (desk.catalogStep chat c .next [] control).May (Numbers ids)
      (.error (.callback (.tooLong k))) := by
  obtain ⟨k, hrows⟩ : ∃ k, desk.itemRows pair 1 ids = .error (.tooLong k) :=
    catalogRows_tooLong (.inl rfl) h
  have hoffset : neighbourOffset? pair (pair.clamp c.catalogOffset) .next = some 1 := by
    rw [hc]
    rfl
  have hitem : (pair.itemAt 1).imageUrls ≠ [] := by decide
  refine ⟨k, ?_⟩
  unfold catalogStep
  refine (may_ask (c := .shelf) (r := pair) trivial).bind ?_
  simp only [hoffset, List.isEmpty_nil, if_true]
  refine (sendItem_may hitem).bind ?_
  refine Turn.May.bind (a := ()) (may_store (c := .updateCustomer _ _) trivial) ?_
  exact (may_ask (c := .shelf) (r := pair) trivial).bind (may_overflow hrows)

theorem sendGuideStep_may (chat : Int64) (hfirst : 1 ≤ n) (hlast : n ≤ guideSteps)
    (halbum : desk.guideAlbum n ≠ []) (h : ¬ Fits 1 ids) :
    ∃ k, (desk.sendGuideStep chat n).May (Numbers ids) (.error (.callback (.tooLong k))) := by
  obtain ⟨k, hrows⟩ : ∃ k, guideRows desk.texts n ids = .error (.tooLong k) :=
    guideRows_tooLong hfirst hlast h
  have hphotos : (desk.guideAlbum n).isEmpty = false := by simpa using halbum
  refine ⟨k, ?_⟩
  simp only [sendGuideStep, hphotos]
  have hsent : (Turn.chat (.sendAlbum chat (desk.guideAlbum n))).May (Numbers ids) (.ok ids) :=
    may_chat fun given hgiven => (Except.ok.inj hgiven).symm
  exact hsent.bind (may_overflow hrows)

theorem guideStep_new (hfirst : 1 ≤ n) (hlast : n ≤ guideSteps) {album : List Int32}
    {control : Option Int32} (hnew : album = [] ∨ control = none) :
    desk.guideStep chat n album control = desk.sendGuideStep chat n := by
  have hknown : (n < 1 || guideSteps < n) = false := by
    rcases guideStep_cases hfirst hlast with rfl | rfl | rfl | rfl <;> decide
  simp only [guideStep, hknown]
  rcases hnew with rfl | rfl
  · cases control <;> rfl
  · rfl

/-! ## Exactly those -/

/-- The ids of an album make no trouble if and only if they leave room for the codes next to them,
in the catalogue as soon as there is a neighbour, and in the guide at every step.  This is so for
the buttons and for the turns that build them after they have sent the album. -/
theorem carries_iff (desk : Desk) (chat : Int64) (ids : List Int32) :
    (∀ prev next, (∃ rows, catalogRows desk.texts prev next ids = .ok rows) ↔
      (prev.isSome ∨ next.isSome → Fits 4 ids)) ∧
    (∀ c, (desk.catalog chat c).Carries ids ↔ Fits 4 ids) ∧
    ((∀ c direction control, (desk.catalogStep chat c direction [] control).Carries ids) ↔
      Fits 4 ids) ∧
    ∀ n, 1 ≤ n → n ≤ guideSteps →
      ((∃ rows, guideRows desk.texts n ids = .ok rows) ↔ Fits 1 ids) ∧
      ∀ album control, album = [] ∨ control = none → desk.guideAlbum n ≠ [] →
        ((desk.guideStep chat n album control).Carries ids ↔ Fits 1 ids) := by
  have hcatalog : ∀ c, (desk.catalog chat c).Carries ids ↔ Fits 4 ids := by
    intro c
    refine ⟨fun hcarries => Classical.byContradiction fun h => ?_, catalog_carries⟩
    obtain ⟨k, hmay⟩ := catalog_may desk chat c h
    exact hcarries.not_may k hmay
  have hstep : (∀ c direction control, (desk.catalogStep chat c direction [] control).Carries ids) ↔
      Fits 4 ids := by
    refine ⟨fun hcarries => Classical.byContradiction fun h => ?_, fun h c => catalogStep_carries h⟩
    have hfirst : (Customer.fresh 1 "").catalogOffset = 0 := rfl
    obtain ⟨k, hmay⟩ := catalogStep_may desk chat hfirst none h
    exact (hcarries _ _ _).not_may k hmay
  have hguide : ∀ n, 1 ≤ n → n ≤ guideSteps → ∀ album control, album = [] ∨ control = none →
      desk.guideAlbum n ≠ [] →
        ((desk.guideStep chat n album control).Carries ids ↔ Fits 1 ids) := by
    intro n hfirst hlast album control hnew halbum
    refine ⟨fun hcarries => Classical.byContradiction fun h => ?_, fun h =>
      guideStep_carries h hfirst hlast hnew⟩
    obtain ⟨k, hmay⟩ := sendGuideStep_may chat hfirst hlast halbum h
    rw [guideStep_new hfirst hlast hnew] at hcarries
    exact hcarries.not_may k hmay
  exact ⟨fun prev next => catalogRows_ok_iff, hcatalog, hstep, fun n hfirst hlast =>
    ⟨guideRows_ok_iff hfirst hlast, hguide n hfirst hlast⟩⟩

end Desk

namespace Gallery

/-- An item with as many pictures as an album has. -/
def bag : Catalog.Item := .fresh ⟨2⟩ "Bag" ["1", "2", "3", "4", "5", "6"]

/-- A customer at the first of two items, in a chat whose messages have numbers of nine digits. -/
def world : World :=
  { Purchase.opening with
    memory := ⟨[.fresh 1 "Ivan"], [], []⟩
    shelf := ⟨[.fresh ⟨1⟩ "Coat" [], bag]⟩
    nextMessage := 100000000 }

/-- The ids of six messages in such a chat. -/
def ids : List Int32 := World.messageIds world.nextMessage Desk.maxAlbumImages

/-- The customer asks for the next item, is moved on and gets its pictures, but the buttons cannot
be built: six ids of nine digits are too much for the catalogue, as are six of ten for the guide. -/
theorem arrows_too_long :
    ids.length = Desk.maxAlbumImages ∧ ids.all (0 < ·) ∧
      catalogRows .empty (some bag) none ids = .error (.tooLong 65) ∧
      guideRows .empty 1 (World.messageIds 1000000000 6) = .error (.tooLong 68) ∧
      (world.dispatch Desk.bare (Purchase.presses "1201")).1 = .error (.callback (.tooLong 65)) ∧
      (world.dispatch Desk.bare (Purchase.presses "1201")).2.sent =
        [.sendAlbum 1 (Desk.itemAlbum bag)] ∧
      (world.dispatch Desk.bare (Purchase.presses "1201")).2.memory.customers.map (·.catalogOffset) =
        [1] := by
  refine ⟨rfl, by decide +kernel, by decide +kernel, by decide +kernel, rfl, ?_, ?_⟩
  · decide +kernel
  · decide +kernel

end Gallery

end OrderDesk
