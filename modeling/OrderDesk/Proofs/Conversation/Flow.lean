import OrderDesk.Proofs.Conversation.Quotation

/-!
# Two ways of asking for the same terms

Delivery terms are asked for where a position is begun in an empty cart, and by the calculator.  The
questions are the same: delivery speed, for normal delivery the region, and the weight class.  But
each place has its own buttons, its own steps and its own part of the record.

A `Flow` is such a place.  `Flow.Collects` says what each of its buttons leaves in the record, and from
that the terms after a whole run of presses are those that were chosen (`Flow.Collects.after`),
whatever the record held before.  Both places are flows that collect (`Flow.calculator_collects`,
`Flow.position_collects`).
-/

namespace OrderDesk

open Store (Memory)

/-! ## Routes -/

/-- How a delivery travels: by express, or at normal speed to a region. -/
inductive Route where
  | express
  /-- The region of the customer. -/
  | normal (l : Location)
  deriving DecidableEq, Repr

namespace Route

/-- The delivery speed. -/
def orderType : Route → OrderType
  | express => .express
  | normal _ => .normal

/-- The region; express delivery is from nowhere in particular. -/
def location : Route → Location
  | express => .other
  | normal l => l

/-- The terms of a route and a weight class. -/
def terms (route : Route) (k : Category) : Terms.Complete := ⟨route.orderType, route.location, k⟩

/-- The terms while the weight class is open. -/
def openTerms (route : Route) : Terms := ⟨some route.orderType, some route.location, none⟩

end Route

/-! ## What customers do -/

namespace Chat.Event

/-- The customer presses a button that stands for an action. -/
def Presses (id : Int64) (a : Action) (event : Chat.Event) : Prop :=
  ∃ chat sender message raw data, event = .press chat sender message raw ∧ sender.id = id ∧
    ButtonData.decode raw = .ok data ∧ Action.ofCode? data.code = some a

/-- The customer types a text. -/
def Types (id : Int64) (text : String) (event : Chat.Event) : Prop :=
  ∃ chat sender, event = .text chat sender text ∧ sender.id = id

variable {id : Int64} {a : Action} {text : String} {event : Chat.Event}

theorem Presses.sender_id (h : event.Presses id a) : event.sender.id = id := by
  obtain ⟨chat, sender, message, raw, data, rfl, hid, -⟩ := h
  exact hid

theorem Types.sender_id (h : event.Types id text) : event.sender.id = id := by
  obtain ⟨chat, sender, rfl, hid⟩ := h
  exact hid

end Chat.Event

open Chat.Event (Presses Types)

/-- The customer is in the step that the button for an action is bound to, if it is bound to one. -/
def Action.Due (a : Action) (c : Customer) : Prop := ∀ s, a.requiredStep? = some s → c.step = s

/-! ## What events leave in the record -/

namespace Desk

variable {desk : Desk} {id : Int64} {a : Action} {text : String} {P Q : Customer → Prop}

/-- The writes are one change of the customer's record, to one that satisfies `Q`. -/
def Changes (c : Customer) (Q : Customer → Prop) (ds : List Store.Call) : Prop :=
  ∃ u, ds = [.updateCustomer c.id u] ∧ Q (c.apply u)

/-- Whatever is replied, events of a kind change the record of their customer, from one that satisfies
`P` to one that satisfies `Q`. -/
def Leads (desk : Desk) (E : Chat.Event → Prop) (P Q : Customer → Prop) : Prop :=
  ∀ event, E event → ∀ c, P c → (desk.respond c event).Writes (fun _ _ => True) (Changes c Q)

theorem Leads.mono {E : Chat.Event → Prop} {R : Customer → Prop} (h : desk.Leads E P Q)
    (hQR : ∀ c, Q c → R c) : desk.Leads E P R := by
  intro event hE c hP
  refine (h event hE c hP).mono fun ds hds => ?_
  obtain ⟨u, hu, hQ⟩ := hds
  exact ⟨u, hu, hQR _ hQ⟩

/-- An action that is understood is behind a button that was pressed. -/
theorem presses_of_understand {c : Customer} {event : Chat.Event} {data : ButtonData}
    {message : Option Int32} (h : desk.understand c event = .ok (.press a data message)) :
    Presses event.sender.id a event := by
  obtain ⟨raw, hevent, hdecode, hcode⟩ := desk.press_of_understand h
  exact ⟨_, _, _, raw, data, hevent, rfl, hdecode, hcode⟩

theorem leads_press (hdue : ∀ c, P c → a.Due c)
    (h : ∀ c chat data message, P c →
      (desk.act chat c data message a).Writes (fun _ _ => True) (Changes c Q)) :
    desk.Leads (Presses id a) P Q := by
  rintro _ ⟨chat, sender, message, raw, data, rfl, -, hdecode, hcode⟩ c hP
  rw [respond_press hdecode hcode (hdue c hP)]
  exact h c chat data message hP

theorem leads_text {i : Input} (htext : Command.ofText? desk.keyboards text = none)
    (hstep : ∀ c, P c → c.step = i.step)
    (h : ∀ c chat, P c → (desk.take chat c text i).Writes (fun _ _ => True) (Changes c Q)) :
    desk.Leads (Types id text) P Q := by
  rintro _ ⟨chat, sender, rfl, -⟩ c hP
  rw [desk.respond_answer htext (hstep c hP)]
  exact h c chat hP

end Desk

/-- The customer is kept, with a record that satisfies `P`. -/
def Store.Memory.Keeps (m : Memory) (id : Int64) (P : Customer → Prop) : Prop :=
  ∃ c, m.customer? id = some c ∧ P c

theorem Store.Memory.Keeps.mono {m : Memory} {id : Int64} {P Q : Customer → Prop} (h : m.Keeps id P)
    (hPQ : ∀ c, P c → Q c) : m.Keeps id Q := by
  obtain ⟨c, hc, hP⟩ := h
  exact ⟨c, hc, hPQ c hP⟩

namespace Desk.Leads

variable {W : Type} {S : Surroundings W} {w : W} {desk : Desk} {E : Chat.Event → Prop}
  {P Q : Customer → Prop} {event : Chat.Event}

/-- What is left in the record is found there after a dispatch, also of a sender who was not known. -/
theorem dispatch (h : desk.Leads E P Q) (hE : E event)
    (hP : P ((S.memory w).guest event.sender)) :
    (S.memory (S.run (desk.dispatch event) w).2).Keeps event.sender.id Q := by
  have hmet : (desk.respond ((S.memory w).guest event.sender) event).run.Met S.serve
      (fun _ _ => True) (S.run (Desk.loadCustomer event.sender) w).2 :=
    Program.met_of_forall (fun _ _ => trivial) _ _
  obtain ⟨u, hu, hQ⟩ := (Turn.writes_iff.1 (h event hE _ hP)).run hmet
  refine ⟨_, ?_, hQ⟩
  rw [S.memory_run, S.calls_dispatch, Desk.writes_append, (S.run_load event.sender w).2]
  rw [Surroundings.calls, hu, List.foldl_append, Memory.foldl_greeting,
    Memory.foldl_updateCustomer (Memory.customer?_welcome _ _), ← Memory.guest_id]
  exact Memory.customer?_putCustomer _ _

/-- The same of a customer who is kept. -/
theorem after {id : Int64} (h : desk.Leads E P Q) (hE : E event) (hid : event.sender.id = id)
    (hw : (S.memory w).Keeps id P) :
    (S.memory (S.run (desk.dispatch event) w).2).Keeps id Q := by
  subst hid
  obtain ⟨c, hc, hP⟩ := hw
  refine h.dispatch hE ?_
  rw [Memory.guest, hc]
  exact hP

end Desk.Leads

/-! ## Flows -/

/-- A place where delivery terms are asked for. -/
structure Flow where
  /-- Where the terms are kept. -/
  terms : Customer → Terms
  /-- The button with which it begins. -/
  begins : Action
  /-- The buttons for the delivery speed. -/
  orderType : OrderType → Action
  /-- The buttons for the region. -/
  location : Location → Action
  /-- The buttons for the weight class. -/
  category : Category → Action
  /-- Who can begin. -/
  ready : Customer → Prop
  /-- What else is in the record when all is chosen. -/
  finished : Category → Customer → Prop

namespace Flow

/-- The buttons with which a route is chosen. -/
def route (f : Flow) : Route → List Action
  | .express => [f.orderType .express]
  | .normal l => [f.orderType .normal, f.location l]

/-- The buttons with which terms are chosen. -/
def buttons (f : Flow) (route : Route) (k : Category) : List Action :=
  f.route route ++ [f.category k]

/-- Nothing is chosen, and the delivery speed is asked for. -/
def AsksSpeed (f : Flow) (c : Customer) : Prop := f.terms c = .empty ∧ ∀ t, (f.orderType t).Due c

/-- The delivery is a normal one, and the region is asked for. -/
def AsksRegion (f : Flow) (c : Customer) : Prop :=
  f.terms c = ⟨some .normal, none, none⟩ ∧ ∀ l, (f.location l).Due c

/-- The route is chosen, and the weight class is asked for. -/
def AsksWeight (f : Flow) (route : Route) (c : Customer) : Prop :=
  f.terms c = route.openTerms ∧ ∀ k, (f.category k).Due c

/-- All terms are chosen. -/
def Chosen (f : Flow) (route : Route) (k : Category) (c : Customer) : Prop :=
  f.terms c = (route.terms k).terms ∧ f.finished k c

/-- Each button leaves what it stands for. -/
structure Collects (f : Flow) (desk : Desk) (id : Int64) : Prop where
  begins : desk.Leads (Presses id f.begins) f.ready f.AsksSpeed
  express : desk.Leads (Presses id (f.orderType .express)) f.AsksSpeed (f.AsksWeight .express)
  normal : desk.Leads (Presses id (f.orderType .normal)) f.AsksSpeed f.AsksRegion
  location : ∀ l, desk.Leads (Presses id (f.location l)) f.AsksRegion (f.AsksWeight (.normal l))
  category : ∀ route k,
    desk.Leads (Presses id (f.category k)) (f.AsksWeight route) (f.Chosen route k)

/-- The terms after all buttons have been pressed are those of the buttons. -/
theorem Collects.after {f : Flow} {desk : Desk} {id : Int64} {W : Type} {S : Surroundings W} {w : W}
    {events : List Chat.Event} (hf : f.Collects desk id) (route : Route) (k : Category)
    (h : List.Forall₂ (Presses id) (f.begins :: f.buttons route k) events)
    (hw : (S.memory w).Keeps id f.ready) :
    (S.memory (S.after desk w events)).Keeps id (f.Chosen route k) := by
  cases route with
  | express =>
    have hpressed : List.Forall₂ (Presses id)
        [f.begins, f.orderType .express, f.category k] events := h
    rcases hpressed with _ | ⟨hbegun, _ | ⟨hexpress, _ | ⟨hweight, ⟨⟩⟩⟩⟩
    have hspeed := hf.begins.after hbegun hbegun.sender_id hw
    have hroute := hf.express.after hexpress hexpress.sender_id hspeed
    exact (hf.category .express k).after hweight hweight.sender_id hroute
  | normal l =>
    have hpressed : List.Forall₂ (Presses id)
        [f.begins, f.orderType .normal, f.location l, f.category k] events := h
    rcases hpressed with _ | ⟨hbegun, _ | ⟨hnormal, _ | ⟨hregion, _ | ⟨hweight, ⟨⟩⟩⟩⟩⟩
    have hspeed := hf.begins.after hbegun hbegun.sender_id hw
    have hasked := hf.normal.after hnormal hnormal.sender_id hspeed
    have hroute := (hf.location l).after hregion hregion.sender_id hasked
    exact (hf.category (.normal l) k).after hweight hweight.sender_id hroute

/-! ## The calculator -/

/-- The calculator as a place where terms are asked for: everyone can begin, and an amount follows. -/
def calculator : Flow where
  terms := Customer.calculatorTerms
  begins := .calculator
  orderType := .calculatorOrderType
  location := .calculatorLocation
  category := .calculatorCategory
  ready _ := True
  finished _ c := c.step = .calculatorAmount

/-- A calculation begins anew, from whatever was left of the last one. -/
theorem leads_calculator {desk : Desk} {id : Int64} {a : Action}
    (ha : a = .calculator ∨ a = .calculateMore) :
    desk.Leads (Presses id a) calculator.ready calculator.AsksSpeed := by
  have hwrites : ∀ c chat, (desk.calculator chat c).Writes (fun _ _ => True)
      (Desk.Changes c calculator.AsksSpeed) := fun c chat =>
    Turn.update_bind_writes ⟨_, rfl, rfl, fun t s hs => Option.some.inj hs⟩ Desk.sendRows_reads
  rcases ha with rfl | rfl
  · exact Desk.leads_press (fun c _ s hs => nomatch hs) fun c chat _ _ _ => hwrites c chat
  · exact Desk.leads_press (fun c _ s hs => nomatch hs) fun c chat _ _ _ => hwrites c chat

theorem calculator_collects (desk : Desk) (id : Int64) : calculator.Collects desk id where
  begins := leads_calculator (.inl rfl)
  express := by
    refine Desk.leads_press (fun c hc => hc.2 .express) fun c chat data message hc => ?_
    have hterms : c.calculatorTerms = .empty := hc.1
    refine Turn.update_bind_writes ⟨_, rfl, ?_, fun k s hs => Option.some.inj hs⟩
      Desk.sendRows_reads
    simp [calculator, Customer.apply, hterms, Terms.empty, Route.openTerms, Route.orderType,
      Route.location]
  normal := by
    refine Desk.leads_press (fun c hc => hc.2 .normal) fun c chat data message hc => ?_
    have hterms : c.calculatorTerms = .empty := hc.1
    refine Turn.update_bind_writes ⟨_, rfl, ?_, fun l s hs => Option.some.inj hs⟩
      Desk.sendRows_reads
    simp [calculator, Customer.apply, hterms, Terms.empty]
  location l := by
    refine Desk.leads_press (fun c hc => hc.2 l) fun c chat data message hc => ?_
    have hterms : c.calculatorTerms = ⟨some .normal, none, none⟩ := hc.1
    refine Turn.update_bind_writes ⟨_, rfl, ?_, fun k s hs => Option.some.inj hs⟩
      Desk.sendRows_reads
    simp [calculator, Customer.apply, hterms, Route.openTerms, Route.orderType, Route.location]
  category route k := by
    refine Desk.leads_press (fun c hc => hc.2 k) fun c chat data message hc => ?_
    have hterms : c.calculatorTerms = route.openTerms := hc.1
    refine Turn.update_bind_writes ⟨_, rfl, ?_, rfl⟩ Desk.send_reads
    simp [calculator, Customer.apply, hterms, Route.openTerms, Route.terms, Terms.Complete.terms]

/-! ## Positions -/

/-- The first position as a place where terms are asked for: the cart is empty, and a draft is left
that knows its weight class. -/
def position : Flow where
  terms := Customer.terms
  begins := .addPosition
  orderType := .orderType
  location := .location
  category := .category
  ready c := c.cart.isEmpty
  finished k c := c.step = .size ∧ ∃ draft, c.draft = some draft ∧ draft.category = some k

theorem position_collects (desk : Desk) (id : Int64) : position.Collects desk id where
  begins := by
    refine Desk.leads_press (fun c _ s hs => nomatch hs) fun c chat data message hc => ?_
    have hcart : c.cart.isEmpty := hc
    have hsize : ¬ maxCartLines ≤ c.cart.size := by
      rw [Cart.isEmpty, List.isEmpty_iff] at hcart
      simp [Cart.size, hcart, maxCartLines, CodeBand.removePosition]
    show (desk.addPosition chat c).Writes _ _
    rw [Desk.addPosition, if_neg hsize, if_pos hcart]
    exact Turn.update_bind_writes ⟨_, rfl, rfl, fun t s hs => Option.some.inj hs⟩
      Desk.sendRows_reads
  express := by
    refine Desk.leads_press (fun c hc => hc.2 .express) fun c chat data message hc => ?_
    have hterms : c.terms = .empty := hc.1
    refine Turn.update_bind_writes ⟨_, rfl, ?_, fun k s hs => Option.some.inj hs⟩
      Desk.sendRows_reads
    simp [position, Customer.apply, hterms, Terms.empty, Route.openTerms, Route.orderType,
      Route.location]
  normal := by
    refine Desk.leads_press (fun c hc => hc.2 .normal) fun c chat data message hc => ?_
    have hterms : c.terms = .empty := hc.1
    refine Turn.update_bind_writes ⟨_, rfl, ?_, fun l s hs => Option.some.inj hs⟩
      Desk.sendRows_reads
    simp [position, Customer.apply, hterms, Terms.empty]
  location l := by
    refine Desk.leads_press (fun c hc => hc.2 l) fun c chat data message hc => ?_
    have hterms : c.terms = ⟨some .normal, none, none⟩ := hc.1
    refine Turn.update_bind_writes ⟨_, rfl, ?_, fun k s hs => Option.some.inj hs⟩
      Desk.sendRows_reads
    simp [position, Customer.apply, hterms, Route.openTerms, Route.orderType, Route.location]
  category route k := by
    refine Desk.leads_press (fun c hc => hc.2 k) fun c chat data message hc => ?_
    have hterms : c.terms = route.openTerms := hc.1
    -- the draft gets a new identifier, which does not matter here
    refine Turn.ask_bind_writes rfl fun draftId _ => ?_
    refine Turn.update_bind_writes ⟨_, rfl, ?_, rfl, .start draftId (some k), rfl, rfl⟩
      Desk.send_reads
    simp [position, Customer.apply, hterms, Route.openTerms, Route.terms, Terms.Complete.terms]

end Flow

end OrderDesk
