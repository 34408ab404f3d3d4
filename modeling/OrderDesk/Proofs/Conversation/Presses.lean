import OrderDesk.Proofs.Conversation.Buttons
import OrderDesk.Proofs.Conversation.Coherence

/-!
# Live buttons are answered

A turn `Ends` if it ends with a value whatever it is replied, as long as the replies are `Obliging`:
the chat does as it is told, and the record of the customer is kept.  Carrying out the action behind
a live button ends for every customer with a coherent record (`act_ends`), but for a payment, which
goes by an order; that one is followed through the store (`Presses` in `World`).
-/

namespace OrderDesk

open Chat (Button Rows)

/-! ## Replies that can be expected -/

/-- The chat does what it is asked for.  The messages of an album have ids of up to eight digits. -/
def Chat.Call.Usual : (c : Chat.Call) → c.Reply → Prop
  | sendText _ _ _, r => ∃ message, r = .ok message
  | sendAlbum _ photos, r =>
    ∃ ids, r = .ok ids ∧ ids.length = photos.length ∧ ∀ id ∈ ids, 1 ≤ id ∧ id ≤ 99999999
  | editPhoto _ _ _, r => r = .ok ()
  | editButtons _ _ _, r => r = .ok ()
  | delete _ _, r => r = .ok ()

instance : (c : Chat.Call) → (r : c.Reply) → Decidable (c.Usual r)
  | .sendText _ _ _, .ok message => isTrue ⟨message, rfl⟩
  | .sendText _ _ _, .error _ => isFalse nofun
  | .sendAlbum _ photos, .ok ids =>
    -- the ids are gone through one by one, not all those that there are
    decidable_of_iff (ids.length = photos.length ∧ ids.all fun id => 1 ≤ id ∧ id ≤ 99999999)
      ⟨fun ⟨hlength, hall⟩ => ⟨ids, rfl, hlength, by simpa using hall⟩,
        fun ⟨_, hids, hlength, hall⟩ => by cases hids; exact ⟨hlength, by simpa using hall⟩⟩
  | .sendAlbum _ _, .error _ => isFalse nofun
  | .editPhoto _ _ _, .ok () => isTrue rfl
  | .editPhoto _ _ _, .error _ => isFalse nofun
  | .editButtons _ _ _, .ok () => isTrue rfl
  | .editButtons _ _ _, .error _ => isFalse nofun
  | .delete _ _, .ok () => isTrue rfl
  | .delete _ _, .error _ => isFalse nofun

/-- A chat that does what it is asked for never fails. -/
theorem Chat.Call.Usual.ok {c : Chat.Call} {r : c.Reply} (h : c.Usual r) :
    ∃ v, r = Except.ok v := by
  cases c with
  | sendText chat text keyboard => exact h
  | sendAlbum chat photos =>
    obtain ⟨ids, hr, -⟩ := h
    exact ⟨ids, hr⟩
  | _ => exact ⟨(), h⟩

namespace Desk

/-- The chat does what it is asked for. -/
def Usual : (c : Call) → c.Reply → Prop
  | .chat c, r => c.Usual r
  | _, _ => True

/-- The record of the customer can be changed, and orders can be listed. -/
def Granted (id : Int64) : (c : Call) → c.Reply → Prop
  | .store (.updateCustomer i _), r => i = id → r = Except.ok ()
  | .store (.updateStep i _), r => i = id → r = Except.ok ()
  | .store (.ordersOf _), r => ∃ orders, r = Except.ok orders
  | _, _ => True

def Obliging (id : Int64) (c : Call) (r : c.Reply) : Prop := Usual c r ∧ Granted id c r

end Desk

namespace Turn

variable {α β : Type} {A : (c : Desk.Call) → c.Reply → Prop} {t : Turn α} {f : α → Turn β}
  {P : α → Prop} {Q : β → Prop}

/-- The turn ends with a value that satisfies `P`. -/
def Ends (A : (c : Desk.Call) → c.Reply → Prop) (t : Turn α) (P : α → Prop) : Prop :=
  t.run.Along A fun _ r => ∃ a, r = .ok a ∧ P a

theorem ends_pure {a : α} (h : P a) : (pure a : Turn α).Ends A P := Program.along_pure.2 ⟨a, rfl, h⟩

theorem ends_ofExcept {ε : Type} {wrap : ε → Failure} {x : Except ε α} {a : α} (h : x = .ok a) :
    (ofExcept wrap x).Ends A (· = a) := by
  rw [h]
  exact ends_pure rfl

theorem ends_ask (c : Desk.Call) : (ask c).Ends A (A c) :=
  Program.along_ask.2 fun r hr => Program.along_pure.2 ⟨r, rfl, hr⟩

theorem Ends.bind (h : t.Ends A P) (hf : ∀ a, P a → (f a).Ends A Q) : (t >>= f).Ends A Q := by
  refine (Program.along_run_bind t f _).2 (Program.Along.mono h ?_)
  rintro cs r ⟨a, rfl, ha⟩
  exact hf a ha

theorem Ends.mono {R : α → Prop} (h : t.Ends A P) (hPR : ∀ a, P a → R a) : t.Ends A R :=
  Program.Along.mono h fun _ _ ⟨a, hr, ha⟩ => ⟨a, hr, hPR a ha⟩

theorem ends_store {c : Store.Call} {R : c.Value → Prop}
    (h : ∀ r, A (.store c) r → ∃ v, r = Except.ok v ∧ R v) : (store c).Ends A R := by
  refine (ends_ask (.store c)).bind fun r hr => ?_
  obtain ⟨v, rfl, hv⟩ := h r hr
  exact ends_pure hv

theorem ends_chat {c : Chat.Call} {R : c.Value → Prop}
    (h : ∀ r, A (.chat c) r → ∃ v, r = Except.ok v ∧ R v) : (chat c).Ends A R := by
  refine (ends_ask (.chat c)).bind fun r hr => ?_
  obtain ⟨v, rfl, hv⟩ := h r hr
  exact ends_pure hv

end Turn

namespace Desk

open Turn (ends_ask ends_chat ends_ofExcept ends_pure ends_store)

variable {desk : Desk} {chat : Int64} {c : Customer}

/-! ## Parts of handlers -/

section Parts

variable {id : Int64}

theorem sendText_ends {text : String} {keyboard : Option Chat.Keyboard} :
    (sendText chat text keyboard).Ends (Obliging id) fun _ => True := by
  refine Turn.Ends.bind (P := fun _ => True) (ends_chat fun r hr => ?_) fun _ _ => ends_pure trivial
  obtain ⟨message, hr⟩ := hr.1
  exact ⟨message, hr, trivial⟩

theorem send_ends {key : String} : (desk.send chat key).Ends (Obliging id) fun _ => True :=
  sendText_ends

theorem sendRows_ends {key : String} {rows : Rows} :
    (desk.sendRows chat key rows).Ends (Obliging id) fun _ => True := sendText_ends

theorem editButtons_ends {message : Int32} {rows : Rows} :
    (Turn.chat (.editButtons chat message rows)).Ends (Obliging id) fun _ => True :=
  ends_chat fun _ hr => ⟨(), hr.1, trivial⟩

theorem delete_ends {message : Int32} :
    (Turn.chat (.delete chat message)).Ends (Obliging id) fun _ => True :=
  ends_chat fun _ hr => ⟨(), hr.1, trivial⟩

theorem showRows_ends {message : Option Int32} {key : String} {rows : Rows} :
    (desk.showRows chat message key rows).Ends (Obliging id) fun _ => True := by
  cases message with
  | none => exact sendRows_ends
  | some message => exact editButtons_ends

theorem album_length (urls : List String) (caption : Option String) :
    (Chat.album urls caption).length = urls.length := by
  cases urls with
  | nil => rfl
  | cons url urls => simp [Chat.album]

/-- The ids of an album leave room for the codes of arrows. -/
theorem sendAlbum_ends {photos : List Chat.Photo} (h : photos.length ≤ maxAlbumImages) :
    (Turn.chat (.sendAlbum chat photos)).Ends (Obliging id) (ButtonData.Fits 4) := by
  refine ends_chat fun r hr => ?_
  obtain ⟨ids, hr, hlength, hids⟩ := hr.1
  exact ⟨ids, hr, ButtonData.fits_album (hlength ▸ h) hids⟩

/-- The messages of an album that stay are the first. -/
theorem replaceAlbum_ends {ids : List Int32} {photos : List Chat.Photo} :
    (replaceAlbum chat ids photos).Ends (Obliging id) (· = ids.take photos.length) := by
  induction ids generalizing photos with
  | nil => exact ends_pure List.take_nil.symm
  | cons message ids ih =>
    cases photos with
    | nil =>
      refine delete_ends.bind fun _ _ => ih.mono fun kept hkept => ?_
      simpa using hkept
    | cons photo photos =>
      have hedit : (Turn.chat (.editPhoto chat message photo)).Ends (Obliging id) fun _ => True :=
        ends_chat fun _ hr => ⟨(), hr.1, trivial⟩
      refine hedit.bind fun _ _ => ih.bind fun kept hkept => ends_pure ?_
      rw [hkept, List.length_cons, List.take_succ_cons]

theorem sendItem_ends {item : Catalog.Item} :
    (sendItem chat item).Ends (Obliging id) (ButtonData.Fits 4) := by
  have hlength : (itemAlbum item).length ≤ maxAlbumImages := by
    rw [itemAlbum, album_length]
    exact List.length_take_le _ _
  simp only [sendItem]
  split
  · exact sendText_ends.bind fun _ _ => ends_pure ButtonData.fits_nil
  · exact sendAlbum_ends hlength

end Parts

theorem update_ends {u : Customer.Update} :
    (Turn.update c u).Ends (Obliging c.id) fun _ => True :=
  ends_store fun _ hr => ⟨(), hr.2 rfl, trivial⟩

theorem goTo_ends {s : Step} : (Turn.goTo c s).Ends (Obliging c.id) fun _ => True :=
  ends_store fun _ hr => ⟨(), hr.2 rfl, trivial⟩

theorem leaveStep_ends : (leaveStep c).Ends (Obliging c.id) fun _ => True := by
  unfold leaveStep
  split
  · exact ends_pure trivial
  · exact goTo_ends

theorem update_send_ends {u : Customer.Update} {key : String} :
    (Turn.update c u >>= fun _ => desk.send chat key).Ends (Obliging c.id) fun _ => True :=
  update_ends.bind fun _ _ => send_ends

theorem update_sendRows_ends {u : Customer.Update} {key : String} {rows : Rows} :
    (Turn.update c u >>= fun _ => desk.sendRows chat key rows).Ends (Obliging c.id)
      fun _ => True :=
  update_ends.bind fun _ _ => sendRows_ends

/-! ## Handlers of buttons -/

theorem menu_ends : (desk.menu chat c).Ends (Obliging c.id) fun _ => True :=
  leaveStep_ends.bind fun _ _ => sendRows_ends

theorem showCart_ends : (desk.showCart chat c).Ends (Obliging c.id) fun _ => True := by
  unfold showCart
  split
  · exact send_ends
  · exact sendText_ends

theorem myOrders_ends : (desk.myOrders chat c).Ends (Obliging c.id) fun _ => True := by
  have horders : (Turn.store (.ordersOf c.id)).Ends (Obliging c.id) fun _ => True := by
    refine ends_store fun r hr => ?_
    obtain ⟨orders, hr⟩ := hr.2
    exact ⟨orders, hr, trivial⟩
  refine horders.bind fun orders _ => ?_
  split
  · exact send_ends
  · exact sendText_ends

theorem faqAnswer_ends {index : Nat} (h : index < desk.settings.faq.length) :
    (desk.faqAnswer chat index).Ends (Obliging c.id) fun _ => True := by
  unfold faqAnswer
  rw [List.getElem?_eq_getElem h]
  exact sendText_ends

theorem addPosition_ends : (desk.addPosition chat c).Ends (Obliging c.id) fun _ => True := by
  unfold addPosition
  split
  · exact send_ends
  · split
    · exact update_sendRows_ends
    · exact update_sendRows_ends

theorem handleOrderType_ends {t : OrderType} :
    (desk.handleOrderType chat c t).Ends (Obliging c.id) fun _ => True := by
  cases t with
  | express => exact update_sendRows_ends
  | normal => exact update_sendRows_ends

theorem calculatorOrderType_ends {t : OrderType} :
    (desk.calculatorOrderType chat c t).Ends (Obliging c.id) fun _ => True := by
  cases t with
  | express => exact update_sendRows_ends
  | normal => exact update_sendRows_ends

theorem handleCategory_ends {k : Category} :
    (desk.handleCategory chat c k).Ends (Obliging c.id) fun _ => True :=
  (ends_ask .newId).bind fun _ _ => update_send_ends

/-- A button is asked for when there is a draft. -/
theorem handleButton_ends {b : PriceButton} (hc : c.Coherent) (hstep : c.step = .button) :
    (desk.handleButton chat c b).Ends (Obliging c.id) fun _ => True := by
  obtain ⟨-, draft, hdraft, -⟩ := hc.at_step hstep
  unfold handleButton draftOf
  rw [hdraft]
  exact (ends_pure (P := fun _ => True) trivial).bind fun _ _ => update_send_ends

theorem checkout_ends : (desk.checkout chat c).Ends (Obliging c.id) fun _ => True := by
  unfold checkout
  split
  · exact send_ends
  · exact goTo_ends.bind fun _ _ => send_ends

theorem editCart_ends (hc : c.Coherent) :
    (desk.editCart chat c).Ends (Obliging c.id) fun _ => True := by
  obtain ⟨rows, hrows⟩ := (@gives_editCartRows desk.texts c.cart).eq_ok hc.size
  unfold editCart
  split
  · exact send_ends
  · exact (ends_ofExcept hrows).bind fun _ _ => goTo_ends.bind fun _ _ => sendRows_ends

theorem removePosition_ends {index : Nat} {message : Option Int32}
    (hsize : c.cart.size ≤ maxCartLines) :
    (desk.removePosition chat c index message).Ends (Obliging c.id) fun _ => True := by
  have hleft : (withoutLine c.cart index).size ≤ maxCartLines :=
    Nat.le_trans (withoutLine_size _ _) hsize
  obtain ⟨rows, hrows⟩ := (@gives_editCartRows desk.texts (withoutLine c.cart index)).eq_ok hleft
  unfold removePosition
  refine update_ends.bind fun _ _ => ?_
  split
  · cases message with
    | none => exact send_ends
    | some message => exact delete_ends.bind fun _ _ => send_ends
  · exact (ends_ofExcept hrows).bind fun _ _ => showRows_ends

/-! ## Handlers of buttons with message ids -/

theorem itemRows_ends {β : Type} {shelf : Catalog.Shelf} {offset : UInt64} {ids : List Int32}
    {f : Rows → Turn β} {Q : β → Prop} (hids : ButtonData.Fits 4 ids)
    (hf : ∀ rows, (f rows).Ends (Obliging c.id) Q) :
    (Turn.ofExcept .callback (desk.itemRows shelf offset ids) >>= f).Ends (Obliging c.id) Q := by
  obtain ⟨rows, hrows⟩ := gives_catalogRows.eq_ok hids
  exact (ends_ofExcept hrows).bind fun rows _ => hf rows

theorem catalog_ends : (desk.catalog chat c).Ends (Obliging c.id) fun _ => True := by
  refine (ends_ask .shelf).bind fun shelf _ => ?_
  dsimp only
  split
  · exact send_ends
  · refine sendItem_ends.bind fun ids hids => (ends_ask .shelf).bind fun shelf' _ => ?_
    refine itemRows_ends hids fun rows => sendRows_ends.bind fun _ _ => ?_
    split
    · exact update_ends
    · exact ends_pure trivial

theorem catalogStep_ends {direction : Direction} {album : List Int32} {control : Option Int32}
    (h : album ≠ [] → ButtonData.Fits 4 album) :
    (desk.catalogStep chat c direction album control).Ends (Obliging c.id) fun _ => True := by
  refine (ends_ask .shelf).bind fun shelf _ => ?_
  split
  · exact ends_pure trivial
  · rename_i offset hoffset
    have rest : ∀ kept, ButtonData.Fits 4 kept → (do
        Turn.update c { Customer.Update.none with catalogOffset := some offset }
        let rows ← Turn.ofExcept .callback (desk.itemRows (← Turn.shelf) offset kept)
        desk.showRows chat control "catalog-controls" rows).Ends (Obliging c.id) fun _ => True := by
      intro kept hkept
      refine update_ends.bind fun _ _ => (ends_ask .shelf).bind fun shelf' _ => ?_
      exact itemRows_ends hkept fun rows => showRows_ends
    dsimp only
    split
    · exact sendItem_ends.bind rest
    · rename_i halbum
      refine replaceAlbum_ends.bind fun kept hkept => rest kept ?_
      rw [hkept]
      exact (h (by simpa using halbum)).take _

section Guide

variable {n : UInt8}

theorem sendGuideStep_ends (hfirst : 1 ≤ n) (hlast : n ≤ guideSteps) :
    (desk.sendGuideStep chat n).Ends (Obliging c.id) fun _ => True := by
  have hlength : (desk.guideAlbum n).length ≤ maxAlbumImages := by
    rw [guideAlbum, album_length]
    exact List.length_take_le _ _
  have rest : ∀ ids, ButtonData.Fits 4 ids → (do
      let rows ← Turn.ofExcept .callback (guideRows desk.texts n ids)
      desk.sendRows chat (guideKey n) rows).Ends (Obliging c.id) fun _ => True := by
    intro ids hids
    obtain ⟨rows, hrows⟩ :=
      (@gives_guideRows desk.texts ids n hfirst hlast).eq_ok (hids.mono (by decide))
    exact (ends_ofExcept hrows).bind fun _ _ => sendRows_ends
  simp only [sendGuideStep]
  split
  · exact Turn.Ends.bind (ends_pure ButtonData.fits_nil) rest
  · exact (sendAlbum_ends hlength).bind rest

theorem guideStep_ends {album : List Int32} {control : Option Int32} (hfirst : 1 ≤ n)
    (hlast : n ≤ guideSteps) (h : album ≠ [] → ButtonData.Fits 1 album) :
    (desk.guideStep chat n album control).Ends (Obliging c.id) fun _ => True := by
  simp only [guideStep]
  split
  · rename_i hn
    simp only [Bool.or_eq_true, decide_eq_true_eq] at hn
    rcases hn with hn | hn
    · exact absurd hn (UInt8.not_lt.2 hfirst)
    · exact absurd hn (UInt8.not_lt.2 hlast)
  · split
    · exact sendGuideStep_ends hfirst hlast
    · split
      · exact sendGuideStep_ends hfirst hlast
      · rename_i halbum
        refine replaceAlbum_ends.bind fun kept hkept => ?_
        have hfits : ButtonData.Fits 1 kept := hkept ▸ (h (by simpa using halbum)).take _
        obtain ⟨rows, hrows⟩ := (@gives_guideRows desk.texts kept n hfirst hlast).eq_ok hfits
        exact (ends_ofExcept hrows).bind fun _ _ => editButtons_ends

end Guide

/-! ## All buttons but payments -/

variable {b : Button} {a : Action} {data : ButtonData} {message : Option Int32}

/-- The guide steps that have a code, which has one digit. -/
theorem guideStep_of_code {n : UInt8} {code : Int32} (hcode : (Action.guideStep n).code = .ok code)
    (hknown : code ≠ 0) :
    1 ≤ n ∧ n ≤ guideSteps ∧ (Decimal.integerText code.toInt).length = 1 := by
  obtain rfl : (Action.guideStep n).plainCode = code := Except.ok.inj hcode
  have hmem : Action.guideStep n ∈ Action.plain := Action.mem_plain hknown
  have hn : n = 1 ∨ n = 2 ∨ n = 3 ∨ n = 4 := by simpa [Action.plain] using hmem
  rcases hn with rfl | rfl | rfl | rfl <;> decide

theorem act_ends (hc : c.Coherent) (hb : desk.Backed c.step b a data) (ha : a ≠ .paid) :
    (desk.act chat c data message a).Ends (Obliging c.id) fun _ => True := by
  have hfits : ∀ digits, (Decimal.integerText data.code.toInt).length = digits →
      data.messageIds ≠ [] → ButtonData.Fits digits data.messageIds := fun digits hdigits hids =>
    hdigits ▸ ButtonData.fits_messageIds hb.encode hids
  cases a with
  | catalog => exact catalog_ends
  | catalogPrev =>
    have hcode : Action.catalogPrevCode = data.code := Except.ok.inj hb.code
    exact catalogStep_ends (hfits 4 (hcode ▸ by decide))
  | catalogNext =>
    have hcode : Action.catalogNextCode = data.code := Except.ok.inj hb.code
    exact catalogStep_ends (hfits 4 (hcode ▸ by decide))
  | makeOrder => exact addPosition_ends
  | addPosition => exact addPosition_ends
  | showCart => exact showCart_ends
  | editCart => exact editCart_ends hc
  | removePosition index => exact removePosition_ends hc.size
  | myOrders => exact myOrders_ends
  | guideStep n =>
    obtain ⟨hfirst, hlast, hdigits⟩ := guideStep_of_code hb.code hb.known
    exact guideStep_ends hfirst hlast (hfits 1 hdigits)
  | orderType t => exact handleOrderType_ends
  | location l => exact update_sendRows_ends
  | category k => exact handleCategory_ends
  | button k => exact handleButton_ends hc (hb.step .button rfl)
  | calculator => exact update_sendRows_ends
  | calculateMore => exact update_sendRows_ends
  | calculatorOrderType t => exact calculatorOrderType_ends
  | calculatorLocation l => exact update_sendRows_ends
  | calculatorCategory k => exact update_send_ends
  | checkout => exact checkout_ends
  | paid => exact absurd rfl ha
  | faq => exact sendRows_ends
  | faqAnswer index => exact faqAnswer_ends (hb.faq index rfl)
  | menu => exact menu_ends

/-- A press of a live button is carried out. -/
theorem Backed.respond (hb : desk.Backed c.step b a data) (sender : Chat.Sender) :
    desk.respond c (.press chat sender message b.data) = desk.act chat c data message a :=
  respond_press (ButtonData.decode_encode hb.encode) (Action.ofCode?_code hb.code hb.known)
    hb.step

end Desk

end OrderDesk
