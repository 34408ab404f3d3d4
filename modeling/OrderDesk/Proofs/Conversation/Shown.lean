import OrderDesk.Proofs.Conversation.Buttons
import OrderDesk.Proofs.Conversation.Request

/-!
# What buttons a turn shows

Every handler is followed along its text once more, now with the step of its customer at hand.  The
calls of a turn change the step (`Call.stepAfter`) and put buttons under messages (`Call.buttons`),
in whatever order; `Turn.Shows` is about the buttons that were shown when the turn has succeeded and
the step that the customer is in by then.

The buttons that any request shows are live in the step in which it leaves its customer
(`fulfil_shows`).
-/

namespace OrderDesk

open Chat (Button Rows)

namespace Desk

def Call.buttons : Call → List Button
  | .chat c => c.buttons
  | _ => []

/-- The step of a customer after a call about the customer. -/
def Call.stepAfter (s : Step) : Call → Step
  | .store (.saveCustomer c) => c.step
  | .store (.updateCustomer _ u) => u.step.getD s
  | .store (.updateStep _ s') => s'
  | _ => s

end Desk

namespace Turn

open Desk (Call)

variable {α β : Type} {t : Turn α} {f : α → Turn β} {s : Step} {L : Step → Button → Prop}
  {P : Step → α → Prop} {Q : Step → β → Prop}

/-- When a turn that begins in a step succeeds, `L` holds of the buttons it has shown, and `P` of
its value, in the step after it. -/
def Shows (t : Turn α) (s : Step) (L : Step → Button → Prop) (P : Step → α → Prop) : Prop :=
  t.run.Along (fun _ _ => True) fun cs r => ∀ a, r = .ok a →
    (∀ call ∈ cs, ∀ b ∈ call.buttons, L (cs.foldl Call.stepAfter s) b) ∧
      P (cs.foldl Call.stepAfter s) a

theorem shows_pure {a : α} (h : P s a) : (pure a : Turn α).Shows s L P := by
  refine Program.along_pure.2 fun b hb => ?_
  obtain rfl : a = b := Except.ok.inj hb
  exact ⟨List.forall_mem_nil _, h⟩

theorem shows_throw (e : Failure) : (throw e : Turn α).Shows s L P :=
  Program.along_pure.2 fun _ hb => (by cases hb)

theorem shows_ofExcept {ε : Type} (wrap : ε → Failure) (x : Except ε α) :
    (ofExcept wrap x).Shows s L fun s' a => s' = s ∧ x = .ok a := by
  cases x with
  | error e => exact shows_throw _
  | ok a => exact shows_pure ⟨rfl, rfl⟩

theorem shows_ask {c : Call} (h : ∀ b ∈ c.buttons, L (c.stepAfter s) b) :
    (ask c).Shows s L fun s' _ => s' = c.stepAfter s :=
  Program.along_ask.2 fun _ _ => Program.along_pure.2 fun _ _ =>
    ⟨List.forall_mem_singleton.2 h, rfl⟩

/-- A turn after one that shows nothing. -/
theorem Shows.bind (h : t.Shows s (fun _ _ => False) P) (hf : ∀ s' a, P s' a → (f a).Shows s' L Q) :
    (t >>= f).Shows s L Q := by
  refine (Program.along_run_bind t f _).2 (Program.Along.mono h ?_)
  rintro cs (e | a) hcs
  · exact fun _ hb => (by cases hb)
  · obtain ⟨hnone, ha⟩ := hcs a rfl
    refine Program.Along.mono (hf _ a ha) fun ds r hds b hb => ?_
    obtain ⟨hshown, hb⟩ := hds b hb
    rw [List.foldl_append]
    refine ⟨fun call hcall b hbutton => ?_, hb⟩
    rcases List.mem_append.1 hcall with hcall | hcall
    · exact (hnone call hcall b hbutton).elim
    · exact hshown call hcall b hbutton

/-- A turn before one that shows nothing and leads nowhere. -/
theorem Shows.bind_still (h : t.Shows s L P)
    (hf : ∀ s' a, P s' a → (f a).Shows s' (fun _ _ => False) fun s'' b => s'' = s' ∧ Q s' b) :
    (t >>= f).Shows s L Q := by
  refine (Program.along_run_bind t f _).2 (Program.Along.mono h ?_)
  rintro cs (e | a) hcs
  · exact fun _ hb => (by cases hb)
  · obtain ⟨hshown, ha⟩ := hcs a rfl
    refine Program.Along.mono (hf _ a ha) fun ds r hds b hb => ?_
    obtain ⟨hnone, hstill, hb⟩ := hds b hb
    rw [List.foldl_append, hstill]
    refine ⟨fun call hcall b hbutton => ?_, hb⟩
    rcases List.mem_append.1 hcall with hcall | hcall
    · exact hshown call hcall b hbutton
    · exact (hnone call hcall b hbutton).elim

theorem Shows.mono {M : Step → Button → Prop} {R : Step → α → Prop} (h : t.Shows s L P)
    (hLM : ∀ s b, L s b → M s b) (hPR : ∀ s a, P s a → R s a) : t.Shows s M R :=
  Program.Along.mono h fun _ _ hcs a ha =>
    ⟨fun call hcall b hb => hLM _ b ((hcs a ha).1 call hcall b hb), hPR _ a (hcs a ha).2⟩

theorem Shows.done (h : t.Shows s L P) : t.Shows s L fun _ _ => True :=
  h.mono (fun _ _ hb => hb) fun _ _ _ => trivial

/-- When a run succeeds, what it has shown is as said. -/
theorem Shows.run {W : Type} {serve : (c : Call) → W → c.Reply × W} {w : W} {a : α}
    (h : t.Shows s L P) (hresult : (t.run.run serve w).1 = .ok a) :
    ∀ call ∈ t.run.calls serve w, ∀ b ∈ call.buttons,
      L ((t.run.calls serve w).foldl Call.stepAfter s) b := by
  have hmet : t.run.Met serve (fun _ _ => True) w :=
    Program.met_of_forall (fun _ _ => trivial) t.run w
  exact (Program.Along.run h hmet a hresult).1

theorem shows_store (c : Store.Call) :
    (store c).Shows s L fun s' _ => s' = Call.stepAfter s (.store c) :=
  (shows_ask (List.forall_mem_nil _)).bind fun _ r hs =>
    (shows_ofExcept _ r).mono (fun _ _ hb => hb) fun _ _ h => h.1.trans hs

theorem shows_chat {c : Chat.Call} (h : ∀ b ∈ c.buttons, L s b) :
    (chat c).Shows s L fun s' _ => s' = s :=
  (shows_ask (c := .chat c) h).bind_still fun _ r hs =>
    (shows_ofExcept _ r).mono (fun _ _ hb => hb) fun _ _ h => ⟨h.1, hs⟩

end Turn

namespace Desk

open Turn (shows_ask shows_chat shows_ofExcept shows_pure shows_store shows_throw)

variable {desk : Desk} {chat : Int64} {c : Customer} {s : Step} {L : Step → Button → Prop}

/-! ## Parts of handlers -/

theorem update_shows (c : Customer) (u : Customer.Update) :
    (Turn.update c u).Shows s L fun s' _ => s' = u.step.getD s := shows_store _

theorem goTo_shows (c : Customer) (s' : Step) :
    (Turn.goTo c s').Shows s L fun s'' _ => s'' = s' := shows_store _

theorem sendText_shows {text : String} {keyboard : Option Chat.Keyboard}
    (h : ∀ b ∈ (Chat.Call.sendText chat text keyboard).buttons, L s b) :
    (sendText chat text keyboard).Shows s L fun s' _ => s' = s :=
  (shows_chat h).bind_still fun _ _ hs => shows_pure ⟨rfl, hs⟩

theorem send_shows {key : String} : (desk.send chat key).Shows s L fun s' _ => s' = s :=
  sendText_shows (List.forall_mem_nil _)

/-- A text with buttons. -/
theorem sendInline_shows {text : String} {rows : Rows} (h : ∀ b ∈ rows.flatten, L s b) :
    (sendText chat text (some (.inline rows))).Shows s L fun s' _ => s' = s := sendText_shows h

theorem sendRows_shows {key : String} {rows : Rows} (h : ∀ b ∈ rows.flatten, L s b) :
    (desk.sendRows chat key rows).Shows s L fun s' _ => s' = s := sendText_shows h

theorem editButtons_shows {message : Int32} {rows : Rows} (h : ∀ b ∈ rows.flatten, L s b) :
    (Turn.chat (.editButtons chat message rows)).Shows s L fun s' _ => s' = s := shows_chat h

theorem showRows_shows {message : Option Int32} {key : String} {rows : Rows}
    (h : ∀ b ∈ rows.flatten, L s b) :
    (desk.showRows chat message key rows).Shows s L fun s' _ => s' = s := by
  cases message with
  | none => exact sendRows_shows h
  | some message => exact editButtons_shows h

theorem draftOf_shows : (draftOf c).Shows s L fun s' _ => s' = s := by
  unfold draftOf
  split
  · exact shows_pure rfl
  · exact shows_throw _

theorem sendItem_shows {item : Catalog.Item} :
    (sendItem chat item).Shows s L fun s' _ => s' = s := by
  simp only [sendItem]
  split
  · exact (sendText_shows (List.forall_mem_nil _)).bind fun _ _ hs => shows_pure hs
  · exact shows_chat (List.forall_mem_nil _)

theorem replaceAlbum_shows {ids : List Int32} {photos : List Chat.Photo} :
    (replaceAlbum chat ids photos).Shows s L fun s' _ => s' = s := by
  induction ids generalizing photos s L with
  | nil => exact shows_pure rfl
  | cons message ids ih =>
    cases photos with
    | nil =>
      refine (shows_chat (List.forall_mem_nil _)).bind fun s' _ hs => ?_
      exact hs ▸ ih
    | cons photo photos =>
      refine (shows_chat (List.forall_mem_nil _)).bind fun s' _ hs => ?_
      exact ih.bind fun _ _ hs' => shows_pure (hs'.trans hs)

theorem leaveStep_shows : (leaveStep c).Shows s L fun _ _ => True := by
  unfold leaveStep
  split
  · exact shows_pure trivial
  · exact (goTo_shows c _).done

theorem keepOrder_shows {order : Order} : (keepOrder c order).Shows s L fun _ _ => True := by
  refine (update_shows c _).bind fun _ _ _ => ?_
  refine (shows_ask (c := .store (.saveOrder order)) (List.forall_mem_nil _)).bind fun _ r _ => ?_
  split
  · exact shows_pure trivial
  · exact (shows_ask (List.forall_mem_nil _)).bind fun _ _ _ => shows_throw _

theorem ownOrder?_shows {shortId : String} :
    (ownOrder? c shortId).Shows s L fun _ _ => True := by
  refine (shows_ask (c := .store (.order shortId)) (List.forall_mem_nil _)).bind fun _ r _ => ?_
  split
  · exact shows_pure trivial
  · exact shows_pure trivial
  · exact shows_throw _

theorem quote_shows {amount : UInt64} {terms : Terms} :
    (Turn.quote amount terms).Shows s L fun _ _ => True := by
  refine (shows_ofExcept _ _).bind fun _ _ _ => ?_
  refine (shows_ask (c := .rate) (List.forall_mem_nil _)).bind fun _ r _ => ?_
  refine (shows_ofExcept _ _).bind fun _ _ _ => ?_
  exact (shows_ofExcept _ _).done

/-! ## Handlers -/

theorem start_shows : (desk.start chat c).Shows s L fun _ _ => True := by
  refine leaveStep_shows.bind fun _ _ _ => (sendText_shows (List.forall_mem_nil _)).bind fun _ _ _ => ?_
  refine (shows_ask (c := .rate) (List.forall_mem_nil _)).bind fun _ r _ => ?_
  split
  · exact (sendText_shows (List.forall_mem_nil _)).done
  · exact shows_pure trivial

theorem myOrders_shows : (desk.myOrders chat c).Shows s L fun _ _ => True := by
  refine (shows_store _).bind fun _ orders _ => ?_
  split
  · exact send_shows.done
  · exact (sendText_shows (List.forall_mem_nil _)).done

theorem faqAnswer_shows {index : Nat} :
    (desk.faqAnswer chat index).Shows s L fun _ _ => True := by
  unfold faqAnswer
  split
  · exact (sendText_shows (List.forall_mem_nil _)).done
  · exact shows_throw _

/-- Asking for something after a step was made. -/
theorem update_send_shows {u : Customer.Update} {key : String} :
    (Turn.update c u >>= fun _ => desk.send chat key).Shows s L fun _ _ => True :=
  (update_shows c u).bind fun _ _ _ => send_shows.done

/-- Offering a choice after a step was made. -/
theorem update_sendRows_shows {u : Customer.Update} {s' : Step} {key : String} {rows : Rows}
    (hu : u.step = some s') (h : desk.AllLive s' rows) :
    (Turn.update c u >>= fun _ => desk.sendRows chat key rows).Shows s desk.Live fun _ _ => True := by
  refine (update_shows c u).bind fun s'' _ hs => ?_
  rw [hu, Option.getD_some] at hs
  exact (sendRows_shows (hs ▸ h)).done

section Furnished

variable (hd : desk.Furnished)
include hd

theorem menu_shows : (desk.menu chat c).Shows s desk.Live fun _ _ => True :=
  leaveStep_shows.bind fun s' _ _ => (sendRows_shows (hd.menu s')).done

theorem showCart_shows : (desk.showCart chat c).Shows s desk.Live fun _ _ => True := by
  unfold showCart
  split
  · exact send_shows.done
  · exact (sendInline_shows (hd.cartPreview s)).done

theorem addPosition_shows : (desk.addPosition chat c).Shows s desk.Live fun _ _ => True := by
  unfold addPosition
  split
  · exact send_shows.done
  · split
    · exact update_sendRows_shows rfl hd.orderType
    · exact update_sendRows_shows rfl hd.category

theorem handleOrderType_shows {t : OrderType} :
    (desk.handleOrderType chat c t).Shows s desk.Live fun _ _ => True := by
  cases t with
  | express => exact update_sendRows_shows rfl hd.category
  | normal => exact update_sendRows_shows rfl hd.location

theorem handleSize_shows {text : String} :
    (desk.handleSize chat c text).Shows s desk.Live fun _ _ => True := by
  unfold handleSize
  split
  · exact send_shows.done
  · exact draftOf_shows.bind fun _ _ _ => update_sendRows_shows rfl hd.button

theorem handleLink_shows {text : String} :
    (desk.handleLink chat c text).Shows s desk.Live fun _ _ => True := by
  unfold handleLink
  split
  · exact send_shows.done
  · split
    · exact update_send_shows
    · refine draftOf_shows.bind fun _ draft _ => ?_
      split
      · exact shows_throw _
      · exact update_sendRows_shows rfl (hd.positionAdded .idle)

theorem handleFullName_shows {text : String} :
    (desk.handleFullName chat c text).Shows s desk.Live fun _ _ => True := by
  unfold handleFullName
  split
  · exact (sendRows_shows (hd.cartPreview s)).done
  · split
    · exact send_shows.done
    · exact update_send_shows

theorem calculatorOrderType_shows {t : OrderType} :
    (desk.calculatorOrderType chat c t).Shows s desk.Live fun _ _ => True := by
  cases t with
  | express => exact update_sendRows_shows rfl hd.calculatorCategory
  | normal => exact update_sendRows_shows rfl hd.calculatorLocation

theorem calculatorAmount_shows {text : String} :
    (desk.calculatorAmount chat c text).Shows s desk.Live fun _ _ => True := by
  unfold calculatorAmount
  split
  · exact send_shows.done
  · refine quote_shows.bind fun _ _ _ => (goTo_shows c _).bind fun s' _ _ => ?_
    exact (sendInline_shows (hd.calculateMore s')).done

end Furnished

theorem handleButton_shows {b : PriceButton} :
    (desk.handleButton chat c b).Shows s L fun _ _ => True :=
  draftOf_shows.bind fun _ _ _ => update_send_shows

theorem handleCategory_shows {k : Category} :
    (desk.handleCategory chat c k).Shows s L fun _ _ => True :=
  (shows_ask (c := .newId) (List.forall_mem_nil _)).bind fun _ _ _ => update_send_shows

theorem handlePrice_shows {text : String} :
    (desk.handlePrice chat c text).Shows s L fun _ _ => True := by
  unfold handlePrice
  split
  · exact send_shows.done
  · refine draftOf_shows.bind fun _ _ _ => quote_shows.bind fun _ _ _ => ?_
    exact (update_shows c _).bind fun _ _ _ => (sendText_shows (List.forall_mem_nil _)).done

theorem handlePhoneNumber_shows {text : String} :
    (desk.handlePhoneNumber chat c text).Shows s L fun _ _ => True := by
  unfold handlePhoneNumber
  split
  · exact send_shows.done
  · exact update_send_shows

theorem checkout_shows : (desk.checkout chat c).Shows s L fun _ _ => True := by
  unfold checkout
  split
  · exact send_shows.done
  · exact (goTo_shows c _).bind fun _ _ _ => send_shows.done

theorem paid_shows {shortId : Option String} :
    (desk.paid chat c shortId).Shows s L fun _ _ => True := by
  unfold paid
  split
  · exact shows_throw _
  · refine ownOrder?_shows.bind fun _ order? _ => ?_
    split
    · exact send_shows.done
    · exact (shows_store _).bind fun _ _ _ => (sendText_shows (List.forall_mem_nil _)).done

/-- The payment of a new order can be made from anywhere. -/
theorem handleDeliveryAddress_shows {text : String} :
    (desk.handleDeliveryAddress chat c text).Shows s desk.Live fun _ _ => True := by
  unfold handleDeliveryAddress
  split
  · exact send_shows.done
  · refine (shows_store .freeShortId).bind fun _ shortId _ => ?_
    refine (shows_ask (c := .newId) (List.forall_mem_nil _)).bind fun _ _ _ => ?_
    refine (shows_ask (c := .now) (List.forall_mem_nil _)).bind fun _ _ _ => ?_
    refine keepOrder_shows.bind fun _ _ _ => ?_
    refine (sendText_shows (List.forall_mem_nil _)).bind fun s' _ _ => ?_
    refine (shows_ofExcept _ _).bind fun _ rows ⟨_, hrows⟩ => ?_
    exact (sendInline_shows (gives_paidRows.of_eq_ok rows hrows desk _)).done

theorem editCart_shows : (desk.editCart chat c).Shows s desk.Live fun _ _ => True := by
  unfold editCart
  split
  · exact send_shows.done
  · refine (shows_ofExcept _ _).bind fun _ rows ⟨_, hrows⟩ => ?_
    refine (goTo_shows c _).bind fun s' _ hs => ?_
    subst hs
    exact (sendRows_shows (gives_editCartRows.of_eq_ok rows hrows desk)).done

theorem removePosition_shows {index : Nat} {message : Option Int32} :
    (desk.removePosition chat c index message).Shows .cartPositionToEdit desk.Live
      fun _ _ => True := by
  unfold removePosition
  refine (update_shows c _).bind fun s' _ hs => ?_
  split
  · cases message with
    | none => exact send_shows.done
    | some message => exact (shows_chat (List.forall_mem_nil _)).bind fun _ _ _ => send_shows.done
  · rename_i hcart
    -- the customer stays in the step as long as there are lines
    obtain rfl : s' = .cartPositionToEdit := by simpa [hcart] using hs
    refine (shows_ofExcept _ _).bind fun _ rows ⟨hs, hrows⟩ => ?_
    subst hs
    exact (showRows_shows (gives_editCartRows.of_eq_ok rows hrows desk)).done

theorem catalog_shows : (desk.catalog chat c).Shows s desk.Live fun _ _ => True := by
  refine (shows_ask (c := .shelf) (List.forall_mem_nil _)).bind fun _ shelf _ => ?_
  dsimp only
  split
  · exact send_shows.done
  · refine sendItem_shows.bind fun _ ids _ => ?_
    refine (shows_ask (c := .shelf) (List.forall_mem_nil _)).bind fun _ shelf' _ => ?_
    refine (shows_ofExcept _ _).bind fun s' rows ⟨_, hrows⟩ => ?_
    -- the buttons are shown before the place in the catalogue is kept
    refine (sendRows_shows (gives_catalogRows.of_eq_ok rows hrows desk s')).bind_still fun s'' _ _ => ?_
    split
    · exact (update_shows c _).mono (fun _ _ hb => hb) fun _ _ hs => ⟨hs, trivial⟩
    · exact shows_pure ⟨rfl, trivial⟩

theorem catalogStep_shows {direction : Direction} {album : List Int32} {control : Option Int32} :
    (desk.catalogStep chat c direction album control).Shows s desk.Live fun _ _ => True := by
  refine (shows_ask (c := .shelf) (List.forall_mem_nil _)).bind fun _ shelf _ => ?_
  split
  · exact shows_pure trivial
  · rename_i offset hoffset
    have rest : ∀ s' kept, (do
        Turn.update c { Customer.Update.none with catalogOffset := some offset }
        let rows ← Turn.ofExcept .callback (desk.itemRows (← Turn.shelf) offset kept)
        desk.showRows chat control "catalog-controls" rows).Shows s' desk.Live fun _ _ => True := by
      intro s' kept
      refine (update_shows c _).bind fun _ _ _ => ?_
      refine (shows_ask (c := .shelf) (List.forall_mem_nil _)).bind fun _ shelf' _ => ?_
      refine (shows_ofExcept _ _).bind fun s'' rows ⟨_, hrows⟩ => ?_
      exact (showRows_shows (gives_catalogRows.of_eq_ok rows hrows desk s'')).done
    dsimp only
    split
    · exact sendItem_shows.bind fun s' kept _ => rest s' kept
    · exact replaceAlbum_shows.bind fun s' kept _ => rest s' kept

section Guide

variable {n : UInt8}

theorem sendGuideStep_shows (hfirst : 1 ≤ n) (hlast : n ≤ guideSteps) :
    (desk.sendGuideStep chat n).Shows s desk.Live fun _ _ => True := by
  have rest : ∀ s' ids, (do
      let rows ← Turn.ofExcept .callback (guideRows desk.texts n ids)
      desk.sendRows chat (guideKey n) rows).Shows s' desk.Live fun _ _ => True := by
    intro s' ids
    refine (shows_ofExcept _ _).bind fun s'' rows ⟨_, hrows⟩ => ?_
    exact (sendRows_shows ((gives_guideRows hfirst hlast).of_eq_ok rows hrows desk s'')).done
  simp only [sendGuideStep]
  split
  · exact Turn.Shows.bind (shows_pure (P := fun _ _ => True) trivial) fun s' ids _ => rest s' ids
  · exact (shows_chat (List.forall_mem_nil _)).bind fun s' ids _ => rest s' ids

theorem guideStep_shows {album : List Int32} {control : Option Int32} :
    (desk.guideStep chat n album control).Shows s desk.Live fun _ _ => True := by
  simp only [guideStep]
  split
  · exact shows_throw _
  · rename_i hn
    simp only [Bool.or_eq_true, decide_eq_true_eq, not_or, UInt8.not_lt] at hn
    obtain ⟨hfirst, hlast⟩ := hn
    split
    · exact sendGuideStep_shows hfirst hlast
    · split
      · exact sendGuideStep_shows hfirst hlast
      · refine replaceAlbum_shows.bind fun _ kept _ => ?_
        refine (shows_ofExcept _ _).bind fun s' rows ⟨_, hrows⟩ => ?_
        exact (editButtons_shows ((gives_guideRows hfirst hlast).of_eq_ok rows hrows desk s')).done

end Guide

/-! ## All requests -/

theorem obey_shows (hd : desk.Furnished) (k : Command) :
    (desk.obey chat c k).Shows s desk.Live fun _ _ => True := by
  cases k with
  | start => exact start_shows
  | menu => exact menu_shows hd
  | cart => exact showCart_shows hd
  | addPosition => exact addPosition_shows hd

theorem take_shows (hd : desk.Furnished) (i : Input) (text : String) :
    (desk.take chat c text i).Shows s desk.Live fun _ _ => True := by
  unfold take
  cases i with
  | size => exact handleSize_shows hd
  | price => exact handlePrice_shows
  | link => exact handleLink_shows hd
  | calculatorAmount => exact calculatorAmount_shows hd
  | fullName => exact handleFullName_shows hd
  | phoneNumber => exact handlePhoneNumber_shows
  | deliveryAddress => exact handleDeliveryAddress_shows

theorem act_shows (hd : desk.Furnished) {a : Action} {data : ButtonData} {message : Option Int32}
    (hs : ∀ s', a.requiredStep? = some s' → s = s') :
    (desk.act chat c data message a).Shows s desk.Live fun _ _ => True := by
  cases a with
  | catalog => exact catalog_shows
  | catalogPrev => exact catalogStep_shows
  | catalogNext => exact catalogStep_shows
  | makeOrder => exact addPosition_shows hd
  | addPosition => exact addPosition_shows hd
  | showCart => exact showCart_shows hd
  | editCart => exact editCart_shows
  | removePosition index =>
    obtain rfl := hs .cartPositionToEdit rfl
    exact removePosition_shows
  | myOrders => exact myOrders_shows
  | guideStep n => exact guideStep_shows
  | orderType t => exact handleOrderType_shows hd
  | location l => exact update_sendRows_shows rfl hd.category
  | category k => exact handleCategory_shows
  | button b => exact handleButton_shows
  | calculator => exact update_sendRows_shows rfl hd.calculatorOrderType
  | calculateMore => exact update_sendRows_shows rfl hd.calculatorOrderType
  | calculatorOrderType t => exact calculatorOrderType_shows hd
  | calculatorLocation l => exact update_sendRows_shows rfl hd.calculatorCategory
  | calculatorCategory k => exact update_send_shows
  | checkout => exact checkout_shows
  | paid => exact paid_shows
  | faq => exact (sendRows_shows (hd.faq s)).done
  | faqAnswer index => exact faqAnswer_shows
  | menu => exact menu_shows hd

/-- The buttons that a request shows are live in the step in which it leaves its customer. -/
theorem fulfil_shows (hd : desk.Furnished) {q : Request} (hq : ∀ s', q.step? = some s' → s = s') :
    (desk.fulfil chat c q).Shows s desk.Live fun _ _ => True := by
  cases q with
  | command k => exact obey_shows hd k
  | answer i text => exact take_shows hd i text
  | press a data message => exact act_shows hd hq

theorem respond_shows (hd : desk.Furnished) (c : Customer) (event : Chat.Event) :
    (desk.respond c event).Shows c.step desk.Live fun _ _ => True := by
  refine (shows_ofExcept _ _).bind fun s q ⟨hs, hq⟩ => fulfil_shows hd fun s' hs' => ?_
  rw [hs]
  exact step_of_understand desk hq hs'

end Desk

end OrderDesk
