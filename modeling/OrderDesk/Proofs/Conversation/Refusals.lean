import OrderDesk.Proofs.Conversation.Confinement
import OrderDesk.Proofs.Conversation.Overflow
import OrderDesk.Proofs.Conversation.Results
import OrderDesk.Proofs.World.History

/-!
# A refused event leaves no trace

An event is refused when it does not fit the step, what is stored or what can be quoted, or when its
data cannot be read (`Failure.isRefusal`).  A refusal can come up deep in a handler, after the draft
was looked at and the rate was asked for, but never after something was written or said.

Every handler is followed along its text.  Most are `Steady`, they never end in a refusal; the
others first make quiet calls only, which may end in one, and are steady from their first write or
message on.  Both ways lead to `Guarded`: wherever a turn ends in a refusal, it made quiet calls
only.  So a dispatch that is refused has done no more than register its sender
(`refused_untouched`).
-/

namespace OrderDesk

open Store (Memory)

/-! ## Refusals -/

/-- The data of a button cannot be read. -/
def CallbackError.isRefusal : CallbackError → Bool
  | empty => true
  | unknownMarker _ => true
  | invalidCode _ => true
  | invalidMessageId _ => true
  | tooLong _ => false
  | outOfBand _ => false

/-- The event is refused. -/
def Failure.isRefusal : Failure → Bool
  | wrongStep _ _ => true
  | noHandler => true
  | invalidUpdate => true
  | callback e => e.isRefusal
  | pricing _ => true
  | timeout => false
  | store _ => false
  | chat _ => false

theorem Failure.tolerant_isRefusal : Failure.Tolerant fun e => ¬ e.isRefusal :=
  ⟨fun _ => Bool.false_ne_true, fun _ => Bool.false_ne_true⟩

/-- A call that neither writes nor says anything. -/
def Desk.Call.IsQuiet : Desk.Call → Prop
  | .chat _ => False
  | c => c.write? = none

theorem Desk.writes_of_quiet {cs : List Desk.Call} (h : ∀ c ∈ cs, c.IsQuiet) :
    Desk.writes cs = [] := by
  refine List.filterMap_eq_nil_iff.2 fun c hc => ?_
  have hquiet := h c hc
  cases c with
  | chat c => rfl
  | _ => exact hquiet

namespace Turn

variable {α β : Type} {t : Turn α} {f : α → Turn β}

/-- The turn never ends in a refusal. -/
def Steady (t : Turn α) : Prop :=
  t.Results (fun _ _ => True) (fun _ => True) fun e => ¬ e.isRefusal

/-- Wherever the turn ends in a refusal, it made quiet calls only. -/
def Guarded (t : Turn α) : Prop :=
  t.run.Along (fun _ _ => True) fun cs r =>
    ∀ e, r = .error e → e.isRefusal → ∀ c ∈ cs, c.IsQuiet

theorem Steady.bind (h : t.Steady) (hf : ∀ a, (f a).Steady) : (t >>= f).Steady :=
  Results.bind h fun a _ => hf a

theorem steady_pure (a : α) : (pure a : Turn α).Steady := results_pure trivial

theorem steady_ofExcept {ε : Type} {wrap : ε → Failure} {x : Except ε α}
    (h : Errs x fun e => ¬ (wrap e).isRefusal) : (ofExcept wrap x).Steady :=
  results_ofExcept (fun _ _ => trivial) h

theorem steady_ask (c : Desk.Call) : (ask c).Steady := (results_ask c).mono fun _ _ => trivial

theorem Steady.guarded (h : t.Steady) : t.Guarded :=
  Program.Along.mono h fun _ _ hr e he hrefusal => absurd hrefusal (hr.2 e he)

/-- What only makes quiet calls is guarded, and so is what it leads to. -/
theorem Asks.bind_guarded (h : t.Asks Desk.Call.IsQuiet) (hf : ∀ a, (f a).Guarded) :
    (t >>= f).Guarded := by
  refine (Program.along_run_bind t f _).2 (Program.Along.mono h ?_)
  rintro cs (e | a) hcs
  · exact fun _ _ _ => hcs
  · exact Program.Along.mono (hf a) fun ds r hds e he hrefusal =>
      List.forall_mem_append.2 ⟨hcs, hds e he hrefusal⟩

theorem guarded_throw (e : Failure) : (throw e : Turn α).Guarded :=
  Program.along_pure.2 fun _ _ _ => List.forall_mem_nil _

end Turn

namespace Desk

open Turn (asks_ask asks_ofExcept asks_pure asks_throw guarded_throw steady_ask steady_ofExcept
  steady_pure)

variable {desk : Desk} {chat : Int64} {c : Customer}

/-! ## Parts of handlers -/

/-- A keyboard that cannot be built is no refusal. -/
theorem steady_rows {rows : Except CallbackError Chat.Rows}
    (h : Errs rows fun e => ¬ e.isRefusal) : (Turn.ofExcept .callback rows).Steady :=
  steady_ofExcept h

theorem sendText_steady {text : String} {keyboard : Option Chat.Keyboard} :
    (sendText chat text keyboard).Steady := sendText_results Failure.tolerant_isRefusal

theorem send_steady {key : String} : (desk.send chat key).Steady := sendText_steady

theorem sendRows_steady {key : String} {rows : Chat.Rows} :
    (desk.sendRows chat key rows).Steady := sendText_steady

theorem chat_steady {call : Chat.Call} : (Turn.chat call).Steady :=
  (Turn.results_chat Failure.tolerant_isRefusal call).mono fun _ _ => trivial

theorem store_steady {call : Store.Call} : (Turn.store call).Steady :=
  (Turn.results_store Failure.tolerant_isRefusal call).mono fun _ _ => trivial

theorem update_steady {u : Customer.Update} : (Turn.update c u).Steady := store_steady

theorem goTo_steady {s : Step} : (Turn.goTo c s).Steady := store_steady

theorem update_send_steady {u : Customer.Update} {key : String} :
    (Turn.update c u >>= fun _ => desk.send chat key).Steady :=
  update_steady.bind fun _ => send_steady

theorem update_sendRows_steady {u : Customer.Update} {key : String} {rows : Chat.Rows} :
    (Turn.update c u >>= fun _ => desk.sendRows chat key rows).Steady :=
  update_steady.bind fun _ => sendRows_steady

theorem leaveStep_steady : (leaveStep c).Steady := by
  unfold leaveStep
  split
  · exact steady_pure ()
  · exact goTo_steady

theorem draftOf_quiet : (draftOf c).Asks Call.IsQuiet := by
  unfold draftOf
  split
  · exact asks_pure _
  · exact asks_throw _

theorem quote_quiet {amount : UInt64} {terms : Terms} :
    (Turn.quote amount terms).Asks Call.IsQuiet := by
  refine (asks_ofExcept _ _).bind fun _ => ?_
  refine (asks_ask (B := Call.IsQuiet) (c := .rate) rfl).bind fun _ => ?_
  exact (asks_ofExcept _ _).bind fun _ => asks_ofExcept _ _

theorem ownOrder?_quiet {shortId : String} : (ownOrder? c shortId).Asks Call.IsQuiet := by
  unfold ownOrder?
  refine (asks_ask (B := Call.IsQuiet) (c := .store (.order shortId)) rfl).bind fun r => ?_
  split
  · split
    · exact asks_pure _
    · exact asks_pure _
  · exact asks_pure _
  · exact asks_throw _

/-! ## Handlers that never refuse -/

theorem start_steady : (desk.start chat c).Steady := by
  refine leaveStep_steady.bind fun _ => sendText_steady.bind fun _ => ?_
  refine (steady_ask .rate).bind fun r => ?_
  split
  · exact sendText_steady
  · exact steady_pure ()

theorem menu_steady : (desk.menu chat c).Steady := leaveStep_steady.bind fun _ => sendRows_steady

theorem showCart_steady : (desk.showCart chat c).Steady := by
  unfold showCart
  split
  · exact send_steady
  · exact sendText_steady

theorem myOrders_steady : (desk.myOrders chat c).Steady := by
  unfold myOrders
  refine store_steady.bind fun orders => ?_
  split
  · exact send_steady
  · exact sendText_steady

theorem addPosition_steady : (desk.addPosition chat c).Steady := by
  unfold addPosition
  split
  · exact send_steady
  · split
    · exact update_sendRows_steady
    · exact update_sendRows_steady

theorem handleOrderType_steady (t : OrderType) : (desk.handleOrderType chat c t).Steady := by
  cases t with
  | express => exact update_sendRows_steady
  | normal => exact update_sendRows_steady

theorem handleCategory_steady (k : Category) : (desk.handleCategory chat c k).Steady :=
  (steady_ask .newId).bind fun _ => update_send_steady

theorem calculatorOrderType_steady (t : OrderType) :
    (desk.calculatorOrderType chat c t).Steady := by
  cases t with
  | express => exact update_sendRows_steady
  | normal => exact update_sendRows_steady

theorem editCart_steady : (desk.editCart chat c).Steady := by
  unfold editCart
  split
  · exact send_steady
  · refine Turn.Steady.bind (steady_rows ?_) fun rows => goTo_steady.bind fun _ => sendRows_steady
    exact editCartRows_errs (fun _ => Bool.false_ne_true) (fun _ => Bool.false_ne_true) _

theorem removePosition_steady (index : Nat) (message : Option Int32) :
    (desk.removePosition chat c index message).Steady := by
  refine update_steady.bind fun _ => ?_
  split
  · cases message with
    | none => exact send_steady
    | some message =>
      dsimp only
      exact chat_steady.bind fun _ => send_steady
  · refine Turn.Steady.bind (steady_rows ?_) fun rows => showRows_results Failure.tolerant_isRefusal
    exact editCartRows_errs (fun _ => Bool.false_ne_true) (fun _ => Bool.false_ne_true) _

/-- The buttons under an item. -/
theorem itemRows_errs (shelf : Catalog.Shelf) (offset : UInt64) (ids : List Int32) :
    Errs (desk.itemRows shelf offset ids) fun e => ¬ e.isRefusal :=
  catalogRows_errs (fun _ => Bool.false_ne_true) _ _

theorem catalog_steady : (desk.catalog chat c).Steady :=
  catalog_results Failure.tolerant_isRefusal (K := fun _ => True) trivial (fun _ _ _ => trivial)
    fun shelf offset ids _ => itemRows_errs shelf offset ids

theorem catalogStep_steady (direction : Direction) (album : List Int32) (control : Option Int32) :
    (desk.catalogStep chat c direction album control).Steady :=
  catalogStep_results Failure.tolerant_isRefusal (K := fun _ => True) trivial
    (fun _ _ => trivial) (fun _ _ _ => trivial)
    fun shelf offset ids _ => itemRows_errs shelf offset ids

theorem checkout_steady : (desk.checkout chat c).Steady := by
  unfold checkout
  split
  · exact send_steady
  · exact goTo_steady.bind fun _ => send_steady

theorem handleFullName_steady (text : String) : (desk.handleFullName chat c text).Steady := by
  unfold handleFullName
  split
  · exact sendRows_steady
  · split
    · exact send_steady
    · exact update_send_steady

theorem handlePhoneNumber_steady (text : String) : (desk.handlePhoneNumber chat c text).Steady := by
  unfold handlePhoneNumber
  split
  · exact send_steady
  · exact update_send_steady

theorem keepOrder_steady (order : Order) : (keepOrder c order).Steady := by
  refine update_steady.bind fun _ => (steady_ask (.store (.saveOrder order))).bind fun r => ?_
  split
  · exact steady_pure ()
  · exact (steady_ask _).bind fun _ => Turn.results_throw Bool.false_ne_true

theorem handleDeliveryAddress_steady (text : String) :
    (desk.handleDeliveryAddress chat c text).Steady := by
  unfold handleDeliveryAddress
  split
  · exact send_steady
  · refine store_steady.bind fun shortId => ?_
    refine (steady_ask .newId).bind fun id => (steady_ask .now).bind fun createdAt => ?_
    refine (keepOrder_steady _).bind fun _ => sendText_steady.bind fun _ => ?_
    refine Turn.Steady.bind (steady_rows ?_) fun rows => sendText_steady
    exact paidRows_errs (fun _ => Bool.false_ne_true) _

/-! ## Handlers that may refuse -/

theorem handleSize_guarded (text : String) : (desk.handleSize chat c text).Guarded := by
  unfold handleSize
  split
  · exact send_steady.guarded
  · exact draftOf_quiet.bind_guarded fun draft => update_sendRows_steady.guarded

theorem handleButton_guarded (b : PriceButton) : (desk.handleButton chat c b).Guarded :=
  draftOf_quiet.bind_guarded fun _ => update_send_steady.guarded

/-- The price is quoted before anything is written. -/
theorem handlePrice_guarded (text : String) : (desk.handlePrice chat c text).Guarded := by
  unfold handlePrice
  split
  · exact send_steady.guarded
  · refine draftOf_quiet.bind_guarded fun draft => quote_quiet.bind_guarded fun rub => ?_
    exact Turn.Steady.guarded (update_steady.bind fun _ => sendText_steady)

theorem handleLink_guarded (text : String) : (desk.handleLink chat c text).Guarded := by
  unfold handleLink
  split
  · exact send_steady.guarded
  · split
    · exact update_send_steady.guarded
    · refine draftOf_quiet.bind_guarded fun draft => ?_
      split
      · exact guarded_throw _
      · exact update_sendRows_steady.guarded

theorem calculatorAmount_guarded (text : String) : (desk.calculatorAmount chat c text).Guarded := by
  unfold calculatorAmount
  split
  · exact send_steady.guarded
  · refine quote_quiet.bind_guarded fun rub => ?_
    exact Turn.Steady.guarded (goTo_steady.bind fun _ => sendText_steady)

/-- Whose order it is is looked up before it is marked. -/
theorem paid_guarded (shortId : Option String) : (desk.paid chat c shortId).Guarded := by
  unfold paid
  split
  · exact guarded_throw _
  · refine ownOrder?_quiet.bind_guarded fun order? => ?_
    split
    · exact send_steady.guarded
    · exact Turn.Steady.guarded (store_steady.bind fun _ => sendText_steady)

theorem faqAnswer_guarded (index : Nat) : (desk.faqAnswer chat index).Guarded := by
  unfold faqAnswer
  split
  · exact sendText_steady.guarded
  · exact guarded_throw _

/-- The number of a guide step is checked first. -/
theorem guideStep_guarded (n : UInt8) (album : List Int32) (control : Option Int32) :
    (desk.guideStep chat n album control).Guarded := by
  by_cases hunknown : (n < 1 || guideSteps < n) = true
  · have hthrow : desk.guideStep chat n album control = throw .invalidUpdate := by
      simp only [guideStep, hunknown, if_true]
      rfl
    rw [hthrow]
    exact guarded_throw _
  · refine Turn.Steady.guarded (guideStep_results Failure.tolerant_isRefusal (K := fun _ => True)
      (fun h => absurd h hunknown) trivial (fun _ _ _ => trivial) (fun _ _ _ => trivial)
      fun ids _ => ?_)
    exact guideRows_errs fun _ => Bool.false_ne_true

/-! ## All events -/

theorem obey_guarded (k : Command) : (desk.obey chat c k).Guarded := by
  cases k with
  | start => exact start_steady.guarded
  | menu => exact menu_steady.guarded
  | cart => exact showCart_steady.guarded
  | addPosition => exact addPosition_steady.guarded

theorem take_guarded (i : Input) (text : String) : (desk.take chat c text i).Guarded := by
  unfold take
  split
  · exact handleSize_guarded text
  · exact handlePrice_guarded text
  · exact handleLink_guarded text
  · exact calculatorAmount_guarded text
  · exact (handleFullName_steady text).guarded
  · exact (handlePhoneNumber_steady text).guarded
  · exact (handleDeliveryAddress_steady text).guarded

theorem act_guarded (data : ButtonData) (message : Option Int32) (a : Action) :
    (desk.act chat c data message a).Guarded := by
  cases a with
  | catalog => exact catalog_steady.guarded
  | catalogPrev => exact (catalogStep_steady _ _ _).guarded
  | catalogNext => exact (catalogStep_steady _ _ _).guarded
  | makeOrder => exact addPosition_steady.guarded
  | addPosition => exact addPosition_steady.guarded
  | showCart => exact showCart_steady.guarded
  | editCart => exact editCart_steady.guarded
  | removePosition index => exact (removePosition_steady index message).guarded
  | myOrders => exact myOrders_steady.guarded
  | guideStep n => exact guideStep_guarded n _ _
  | orderType t => exact (handleOrderType_steady t).guarded
  | location l => exact update_sendRows_steady.guarded
  | category k => exact (handleCategory_steady k).guarded
  | button b => exact handleButton_guarded b
  | calculator => exact update_sendRows_steady.guarded
  | calculateMore => exact update_sendRows_steady.guarded
  | calculatorOrderType t => exact (calculatorOrderType_steady t).guarded
  | calculatorLocation l => exact update_sendRows_steady.guarded
  | calculatorCategory k => exact update_send_steady.guarded
  | checkout => exact checkout_steady.guarded
  | paid => exact paid_guarded _
  | faq => exact sendRows_steady.guarded
  | faqAnswer index => exact faqAnswer_guarded index
  | menu => exact menu_steady.guarded

/-- Answering an event is guarded, whatever is known of its sender. -/
theorem respond_guarded (c : Customer) (event : Chat.Event) : (desk.respond c event).Guarded := by
  refine Turn.Asks.bind_guarded (asks_ofExcept _ _) fun q => ?_
  cases q with
  | command k => exact obey_guarded k
  | answer i text => exact take_guarded i text
  | press a data message => exact act_guarded data message a

end Desk

/-! ## Dispatches -/

namespace Surroundings

variable {W : Type} (S : Surroundings W)

/-- A dispatch that ends in a refusal has called for nothing in the chat, and the store is as it
was, but that a sender who was not known is now kept as a fresh customer. -/
theorem refused_untouched (desk : Desk) (event : Chat.Event) (w : W) {e : Failure}
    (h : (S.run (desk.dispatch event) w).1 = .error e) (hrefusal : e.isRefusal) :
    (∀ call, .chat call ∉ S.calls (desk.dispatch event) w) ∧
      S.memory (S.run (desk.dispatch event) w).2 =
        match (S.memory w).customer? event.sender.id with
        | some _ => S.memory w
        | none => (S.memory w).putCustomer (.fresh event.sender.id
            (chatName event.sender.firstName event.sender.lastName event.sender.username)) := by
  have hload := (S.run_load event.sender w).1
  have hquiet : ∀ call ∈ S.calls (desk.respond ((S.memory w).guest event.sender) event)
      (S.run (Desk.loadCustomer event.sender) w).2, call.IsQuiet := by
    rw [Desk.dispatch_eq, S.run_bind hload] at h
    exact Program.Along.run (Desk.respond_guarded _ event)
      (Program.met_of_forall (fun _ _ => trivial) _ _) e h hrefusal
  constructor
  · intro call hcall
    rw [S.calls_dispatch, List.mem_append] at hcall
    rcases hcall with hcall | hcall
    · exact (Desk.loadCustomer_asks event.sender).run w (.chat call) hcall
    · exact hquiet (.chat call) hcall
  · rw [Desk.dispatch_eq, S.run_bind hload, memory_run, Desk.writes_of_quiet hquiet, memory_load,
      List.foldl_nil, Memory.welcome, Memory.guest]
    cases (S.memory w).customer? event.sender.id <;> rfl

end Surroundings

/-- A stranger presses a button of a step that strangers are not in. -/
theorem Purchase.stranger_refused :
    let press := Desk.bare.dispatch (presses "15")
    (World.surroundings.run press opening).1 = .error (.wrongStep .category .idle) ∧
      (∀ call, .chat call ∉ World.surroundings.calls press opening) ∧
      (World.surroundings.run press opening).2.memory =
        opening.memory.putCustomer (.fresh 1 "Ivan") := by
  intro press
  have hrefused :
      (World.surroundings.run press opening).1 = .error (.wrongStep .category .idle) := rfl
  exact ⟨hrefused,
    World.surroundings.refused_untouched Desk.bare (presses "15") opening hrefused rfl⟩

end OrderDesk
