import OrderDesk.Proofs.Conversation.Flow
import OrderDesk.Proofs.World.Presses

/-!
# The calculator keeps to itself

The calculator and the collecting of positions use one step and one kind of terms, and their handlers
are much alike.  Yet neither disturbs the other.  A request to the calculator (`Request.reckons`)
leaves all that is kept as it is but for the sender's step and calculator terms, and no other request
changes the sender's calculator terms (`Move.apply_of_reckons`, `Move.calculatorTerms_of_not_reckons`).

Over a whole run, `Memory.Asked` are the requests that a customer has made.  While an amount is waited
for, the calculator terms are those that were chosen since the calculator was last begun, whatever was
asked for in between (`Asked.reckoned`); so that is what a quotation is made of
(`Desk.calculator_apart`).
-/

namespace OrderDesk

open Desk (Call Move Request Sources)
open Store (Memory)

/-! ## Requests to the calculator -/

namespace Desk

/-- A request that the calculator serves. -/
def Request.reckons : Request → Bool
  | press .calculator _ _ => true
  | press .calculateMore _ _ => true
  | press (.calculatorOrderType _) _ _ => true
  | press (.calculatorLocation _) _ _ => true
  | press (.calculatorCategory _) _ _ => true
  | answer .calculatorAmount _ => true
  | _ => false

/-- What a request chooses in the calculator, if it does. -/
def Request.choice? : Request → Option Action
  | press (.calculatorOrderType t) _ _ => some (.calculatorOrderType t)
  | press (.calculatorLocation l) _ _ => some (.calculatorLocation l)
  | press (.calculatorCategory k) _ _ => some (.calculatorCategory k)
  | _ => none

variable {desk : Desk} {σ : Sources} {c : Customer} {q : Request} {u : Customer.Update}

/-- A calculation is begun by a press of one of two buttons. -/
theorem Request.calculates_iff :
    q.calculates ↔ ∃ a data message, q = .press a data message ∧
      (a = .calculator ∨ a = .calculateMore) := by
  cases q with
  | press a data message => cases a <;> simp [calculates]
  | _ => simp [calculates]

/-- A choice is made by a press of a button of one of three kinds. -/
theorem Request.choice?_eq_some_iff {a : Action} :
    q.choice? = some a ↔ ∃ data message, q = .press a data message ∧
      ((∃ t, a = .calculatorOrderType t) ∨ (∃ l, a = .calculatorLocation l) ∨
        ∃ k, a = .calculatorCategory k) := by
  cases q with
  | press b data message => cases b <;> simp [choice?] <;> grind
  | _ => simp [choice?]

theorem Request.reckons_of_calculates (h : q.calculates) : q.reckons := by
  obtain ⟨a, data, message, rfl, rfl | rfl⟩ := calculates_iff.1 h <;> rfl

theorem Request.not_reckons_of_leaves (h : q.leaves) : ¬ q.reckons := by
  cases q with
  | press a data message => cases a <;> simp_all [leaves, reckons]
  | _ => simp_all [leaves, reckons]

theorem Request.not_reckons_of_begins (h : q.begins) : ¬ q.reckons := by
  cases q with
  | press a data message => cases a <;> simp_all [begins, reckons]
  | _ => simp_all [begins, reckons]

theorem Request.not_reckons_of_direction? {direction : Direction}
    (h : q.direction? = some direction) : ¬ q.reckons := by
  cases q with
  | press a data message => cases a <;> simp_all [direction?, reckons]
  | _ => simp_all [direction?]

/-- A request to the calculator changes nothing of a record but step and calculator terms. -/
theorem Move.apply_of_reckons (h : Move desk σ c q u) (hq : q.reckons) :
    ∃ s t, c.apply u = { c with step := s, calculatorTerms := t } := by
  cases h with
  | leave h => exact absurd hq (Request.not_reckons_of_leaves h)
  | beginCart h _ => exact absurd hq (Request.not_reckons_of_begins h)
  | beginLine h _ _ => exact absurd hq (Request.not_reckons_of_begins h)
  | turn h _ _ => exact absurd hq (Request.not_reckons_of_direction? h)
  | calculator => exact ⟨_, _, rfl⟩
  | calculatorExpress => exact ⟨_, _, rfl⟩
  | calculatorNormal => exact ⟨_, _, rfl⟩
  | calculatorLocation => exact ⟨_, _, rfl⟩
  | calculatorCategory => exact ⟨_, _, rfl⟩
  | calculatorAmount => exact ⟨_, _, rfl⟩
  | _ => cases hq

/-- No other request changes the calculator terms. -/
theorem Move.calculatorTerms_of_not_reckons (h : Move desk σ c q u) (hq : ¬ q.reckons) :
    (c.apply u).calculatorTerms = c.calculatorTerms := by
  cases h with
  | calculator h => exact absurd (Request.reckons_of_calculates h) hq
  | calculatorExpress => exact absurd rfl hq
  | calculatorNormal => exact absurd rfl hq
  | calculatorLocation => exact absurd rfl hq
  | calculatorCategory => exact absurd rfl hq
  | _ => rfl

end Desk

/-! ## One dispatch -/

namespace Surroundings

variable {W : Type} (S : Surroundings W) {desk : Desk} {event : Chat.Event} {w : W} {q : Request}

/-- A request to the calculator leaves catalogue and orders as they are, and of the sender's record
all but step and calculator terms. -/
theorem dispatch_reckons (hq : desk.understand ((S.memory w).guest event.sender) event = .ok q)
    (hreckons : q.reckons) :
    (S.memory (S.run (desk.dispatch event) w).2).items = (S.memory w).items ∧
      (S.memory (S.run (desk.dispatch event) w).2).orders = (S.memory w).orders ∧
      ∃ s t, (S.memory (S.run (desk.dispatch event) w).2).customer? event.sender.id =
        some { (S.memory w).guest event.sender with step := s, calculatorTerms := t } := by
  obtain ⟨ds, hmemory, hds⟩ := S.memory_dispatch (S.met_any (desk.dispatch event) w)
  have hkept := Memory.customer?_welcome (S.memory w) event.sender
  rw [hmemory, ← Memory.guest_id (S.memory w) event.sender]
  have hnothing : ds = [] ∨ ∃ u, Move desk .any ((S.memory w).guest event.sender) q u ∧
      ds = [.updateCustomer ((S.memory w).guest event.sender).id u] := by
    rcases hds with hds | ⟨q', hq', hds⟩
    · exact .inl hds
    · obtain rfl : q' = q := Except.ok.inj (hq'.symm.trans hq)
      cases hds with
      | nothing => exact .inl rfl
      | move hmove => exact .inr ⟨_, hmove, rfl⟩
      | order => cases hreckons
      | pay => cases hreckons
  rcases hnothing with rfl | ⟨u, hmove, rfl⟩
  · exact ⟨Memory.welcome_items _ _, Memory.welcome_orders _ _, _, _, hkept⟩
  · obtain ⟨s, t, happly⟩ := hmove.apply_of_reckons hreckons
    rw [Memory.foldl_updateCustomer hkept, Memory.putCustomer_items, Memory.putCustomer_orders,
      Memory.welcome_items, Memory.welcome_orders, happly]
    exact ⟨rfl, rfl, s, t, Memory.customer?_putCustomer _ _⟩

/-- What becomes of the sender's record: nothing, what a move makes of it, or what an order leaves. -/
theorem dispatch_record (desk : Desk) (event : Chat.Event) (w : W) :
    ∃ c', (S.memory (S.run (desk.dispatch event) w).2).customer? event.sender.id = some c' ∧
      (c' = (S.memory w).guest event.sender ∨
        ∃ q, desk.understand ((S.memory w).guest event.sender) event = .ok q ∧
          ((∃ u, Move desk .any ((S.memory w).guest event.sender) q u ∧
              c' = ((S.memory w).guest event.sender).apply u) ∨
            c' = ((S.memory w).guest event.sender).apply .clearing)) := by
  obtain ⟨ds, hmemory, hds⟩ := S.memory_dispatch (S.met_any (desk.dispatch event) w)
  have hkept := Memory.customer?_welcome (S.memory w) event.sender
  rw [hmemory, ← Memory.guest_id (S.memory w) event.sender]
  rcases hds with rfl | ⟨q, hq, hds⟩
  · exact ⟨_, hkept, .inl rfl⟩
  · cases hds with
    | nothing => exact ⟨_, hkept, .inl rfl⟩
    | move hmove =>
      rw [Memory.foldl_updateCustomer hkept]
      exact ⟨_, Memory.customer?_putCustomer _ _, .inr ⟨q, hq, .inl ⟨_, hmove, rfl⟩⟩⟩
    | order =>
      rw [Memory.foldl_order hkept]
      -- the order that is kept with it belongs to no record
      have hcleared := Memory.customer?_putCustomer ((S.memory w).welcome event.sender)
        (((S.memory w).guest event.sender).apply .clearing)
      exact ⟨_, hcleared, .inr ⟨_, hq, .inr rfl⟩⟩
    | pay =>
      refine ⟨_, ?_, .inl rfl⟩
      rw [List.foldl_cons, List.foldl_nil, Memory.customer?, Memory.after_markPaid_customers]
      exact hkept

/-- No other request, and no event that is not understood, changes the sender's calculator terms. -/
theorem dispatch_not_reckons
    (h : ∀ q, desk.understand ((S.memory w).guest event.sender) event = .ok q → ¬ q.reckons) :
    ∃ c', (S.memory (S.run (desk.dispatch event) w).2).customer? event.sender.id = some c' ∧
      c'.calculatorTerms = ((S.memory w).guest event.sender).calculatorTerms := by
  obtain ⟨c', hc', rfl | ⟨q, hq, ⟨u, hmove, rfl⟩ | rfl⟩⟩ := S.dispatch_record desk event w
  · exact ⟨_, hc', rfl⟩
  · exact ⟨_, hc', hmove.calculatorTerms_of_not_reckons (h q hq)⟩
  · exact ⟨_, hc', rfl⟩

end Surroundings

/-! ## What was chosen since the calculator was begun -/

namespace Desk

variable {asked : List Request} {chosen : List Action} {q : Request} {a : Action}

/-- The choices made in the calculator, in their order, since it was begun last. -/
def ChosenSince (asked : List Request) (chosen : List Action) : Prop :=
  ∃ before start since, asked = before ++ start :: since ∧ start.calculates ∧
    (∀ q ∈ since, ¬ q.calculates) ∧ since.filterMap Request.choice? = chosen

theorem chosenSince_start (asked : List Request) (hq : q.calculates) :
    ChosenSince (asked ++ [q]) [] :=
  ⟨asked, q, [], rfl, hq, List.forall_mem_nil _, rfl⟩

theorem ChosenSince.pass (h : ChosenSince asked chosen) (hq : ¬ q.calculates) :
    ChosenSince (asked ++ [q]) (chosen ++ q.choice?.toList) := by
  obtain ⟨before, start, since, rfl, hstart, hsince, rfl⟩ := h
  refine ⟨before, start, since ++ [q], ?_, hstart, ?_, ?_⟩
  · rw [List.append_assoc, List.cons_append]
  · exact List.forall_mem_append.2 ⟨hsince, List.forall_mem_singleton.2 hq⟩
  · rw [List.filterMap_append]
    cases hchoice : q.choice? with
    | none => simp [hchoice]
    | some a => simp [hchoice]

/-- What a customer asks for with an event, if it is understood. -/
def heard (desk : Desk) (m : Memory) (event : Chat.Event) : List Request :=
  (desk.understand (m.guest event.sender) event).toOption.toList

end Desk

open Desk (ChosenSince chosenSince_start)

/-- In each step of the calculator its terms are those that have been chosen. -/
def Customer.Reckoned (asked : List Request) (c : Customer) : Prop :=
  match c.step with
  | .calculatorOrderType => ChosenSince asked [] ∧ Flow.calculator.AsksSpeed c
  | .calculatorLocation =>
    ChosenSince asked [.calculatorOrderType .normal] ∧ Flow.calculator.AsksRegion c
  | .calculatorCategory => ∃ route,
    ChosenSince asked (Flow.calculator.route route) ∧ Flow.calculator.AsksWeight route c
  | .calculatorAmount => ∃ route k,
    ChosenSince asked (Flow.calculator.buttons route k) ∧ Flow.calculator.Chosen route k c
  | _ => True

/-! ## Whole runs -/

/-- A run from nothing, with what one customer has asked for in it.  Others may take part, the
catalogue may be changed, and the surroundings may be others at each dispatch. -/
inductive Store.Memory.Asked (desk : Desk) (id : Int64) : List Request → Memory → Prop where
  | empty : Asked desk id [] .empty
  | own {W : Type} {S : Surroundings W} {w : W} {asked : List Request} (event : Chat.Event)
    (h : Asked desk id asked (S.memory w)) (hid : event.sender.id = id) :
    Asked desk id (asked ++ desk.heard (S.memory w) event) (S.memory (S.run (desk.dispatch event) w).2)
  | others {W : Type} {S : Surroundings W} {w : W} {asked : List Request} (event : Chat.Event)
    (h : Asked desk id asked (S.memory w)) (hid : event.sender.id ≠ id) :
    Asked desk id asked (S.memory (S.run (desk.dispatch event) w).2)
  | upkeep {w : World} {asked : List Request} (u : Upkeep) (h : Asked desk id asked w.memory) :
    Asked desk id asked (w.happen desk (.upkeep u)).memory

namespace Customer.Reckoned

variable {desk : Desk} {asked : List Request} {c : Customer} {q : Request} {u : Customer.Update}

theorem fresh (asked : List Request) (id : Int64) (username : String) :
    (Customer.fresh id username).Reckoned asked := trivial

/-- A place in the catalogue does not matter. -/
theorem look (h : c.Reckoned asked) (offset : UInt64) :
    { c with catalogOffset := offset }.Reckoned asked := h

/-- What is asked for elsewhere does not count. -/
theorem pass (h : c.Reckoned asked) (hq : ¬ q.calculates) (hchoice : q.choice? = none) :
    c.Reckoned (asked ++ [q]) := by
  have hpass : ∀ chosen, ChosenSince asked chosen → ChosenSince (asked ++ [q]) chosen := by
    intro chosen hchosen
    have hsince := hchosen.pass hq
    rwa [hchoice, Option.toList_none, List.append_nil] at hsince
  unfold Reckoned at h ⊢
  split <;> rename_i hstep <;> simp only [hstep] at h
  · exact ⟨hpass _ h.1, h.2⟩
  · exact ⟨hpass _ h.1, h.2⟩
  · obtain ⟨route, hchosen, hterms⟩ := h
    exact ⟨route, hpass _ hchosen, hterms⟩
  · obtain ⟨route, k, hchosen, hterms⟩ := h
    exact ⟨route, k, hpass _ hchosen, hterms⟩
  · trivial

/-- Nor does what is done elsewhere, as it leads into no step of the calculator. -/
theorem move {σ : Sources} (h : c.Reckoned asked) (hmove : Move desk σ c q u)
    (hq : ¬ q.calculates) (hchoice : q.choice? = none) : (c.apply u).Reckoned (asked ++ [q]) := by
  cases hmove with
  | calculator h => exact absurd h hq
  | calculatorExpress => cases hchoice
  | calculatorNormal => cases hchoice
  | calculatorLocation => cases hchoice
  | calculatorCategory => cases hchoice
  | @removePosition index data message hstep =>
    by_cases hempty : (Desk.withoutLine c.cart index).isEmpty
    · simp [Reckoned, Customer.apply, hempty]
    · simp [Reckoned, Customer.apply, Customer.Update.none, hempty, hstep]
  | look => exact (h.pass hq hchoice).look _
  | turn => exact (h.pass hq hchoice).look _
  | _ => trivial

/-! What the buttons of the calculator leave. -/

theorem speed (h : Flow.calculator.AsksSpeed c) (hchosen : ChosenSince asked []) :
    c.Reckoned asked := by
  have hstep : c.step = .calculatorOrderType := h.2 .normal _ rfl
  rw [Reckoned, hstep]
  exact ⟨hchosen, h⟩

theorem region (h : Flow.calculator.AsksRegion c)
    (hchosen : ChosenSince asked [.calculatorOrderType .normal]) : c.Reckoned asked := by
  have hstep : c.step = .calculatorLocation := h.2 .other _ rfl
  rw [Reckoned, hstep]
  exact ⟨hchosen, h⟩

theorem weight {route : Route} (h : Flow.calculator.AsksWeight route c)
    (hchosen : ChosenSince asked (Flow.calculator.route route)) : c.Reckoned asked := by
  have hstep : c.step = .calculatorCategory := h.2 .other _ rfl
  rw [Reckoned, hstep]
  exact ⟨route, hchosen, h⟩

theorem amount {route : Route} {k : Category} (h : Flow.calculator.Chosen route k c)
    (hchosen : ChosenSince asked (Flow.calculator.buttons route k)) : c.Reckoned asked := by
  have hstep : c.step = .calculatorAmount := h.2
  rw [Reckoned, hstep]
  exact ⟨route, k, hchosen, h⟩

end Customer.Reckoned

namespace Surroundings

variable {W : Type} (S : Surroundings W) {desk : Desk} {asked : List Request} {event : Chat.Event}
  {w : W} {q : Request} {a : Action}

/-- A choice in the calculator is kept. -/
theorem dispatch_choice (hg : ((S.memory w).guest event.sender).Reckoned asked)
    (hq : desk.understand ((S.memory w).guest event.sender) event = .ok q)
    (hchoice : q.choice? = some a) (hnew : ¬ q.calculates) :
    (S.memory (S.run (desk.dispatch event) w).2).Keeps event.sender.id
      (Customer.Reckoned (asked ++ [q])) := by
  have hsince : ∀ chosen, ChosenSince asked chosen → ChosenSince (asked ++ [q]) (chosen ++ [a]) := by
    intro chosen hchosen
    have hpass := hchosen.pass hnew
    rwa [hchoice] at hpass
  have hcollects := Flow.calculator_collects desk event.sender.id
  obtain ⟨data, message, rfl, ha⟩ := Request.choice?_eq_some_iff.1 hchoice
  have hpress : event.Presses event.sender.id a := Desk.presses_of_understand hq
  unfold Customer.Reckoned at hg
  rcases ha with ⟨t, rfl⟩ | ⟨l, rfl⟩ | ⟨k, rfl⟩
  · rw [desk.step_of_understand hq rfl] at hg
    cases t with
    | express =>
      exact (hcollects.express.dispatch hpress hg.2).mono fun c hc => .weight hc (hsince _ hg.1)
    | normal =>
      exact (hcollects.normal.dispatch hpress hg.2).mono fun c hc => .region hc (hsince _ hg.1)
  · rw [desk.step_of_understand hq rfl] at hg
    exact ((hcollects.location l).dispatch hpress hg.2).mono fun c hc => .weight hc (hsince _ hg.1)
  · rw [desk.step_of_understand hq rfl] at hg
    obtain ⟨route, hchosen, hterms⟩ := hg
    exact ((hcollects.category route k).dispatch hpress hterms).mono fun c hc =>
      .amount hc (hsince _ hchosen)

/-- A dispatch keeps the calculator terms those that have been chosen. -/
theorem dispatch_reckoned (hg : ((S.memory w).guest event.sender).Reckoned asked) :
    (S.memory (S.run (desk.dispatch event) w).2).Keeps event.sender.id
      (Customer.Reckoned (asked ++ desk.heard (S.memory w) event)) := by
  obtain ⟨c', hc', hrecord⟩ := S.dispatch_record desk event w
  cases hunderstood : desk.understand ((S.memory w).guest event.sender) event with
  | error e =>
    have hheard : desk.heard (S.memory w) event = [] := by rw [Desk.heard, hunderstood]; rfl
    rw [hheard, List.append_nil]
    rcases hrecord with rfl | ⟨q, hq, -⟩
    · exact ⟨_, hc', hg⟩
    · rw [hunderstood] at hq
      cases hq
  | ok q =>
    have hheard : desk.heard (S.memory w) event = [q] := by rw [Desk.heard, hunderstood]; rfl
    rw [hheard]
    by_cases hnew : q.calculates
    · obtain ⟨a, data, message, rfl, ha⟩ := Request.calculates_iff.1 hnew
      refine ((Flow.leads_calculator ha).dispatch (Desk.presses_of_understand hunderstood)
        trivial).mono fun c hc => ?_
      exact .speed hc (chosenSince_start asked hnew)
    · cases hchoice : q.choice? with
      | some a => exact S.dispatch_choice hg hunderstood hchoice hnew
      | none =>
        rcases hrecord with rfl | ⟨q', hq, hchange⟩
        · exact ⟨_, hc', hg.pass hnew hchoice⟩
        · obtain rfl : q' = q := Except.ok.inj (hq.symm.trans hunderstood)
          rcases hchange with ⟨u, hmove, rfl⟩ | rfl
          · exact ⟨_, hc', hg.move hmove hnew hchoice⟩
          · exact ⟨_, hc', trivial⟩

end Surroundings

/-- Throughout a run the calculator terms of a customer are those that the customer has chosen. -/
theorem Store.Memory.Asked.reckoned {desk : Desk} {id : Int64} {asked : List Request} {m : Memory}
    (h : m.Asked desk id asked) : ∀ c, m.customer? id = some c → c.Reckoned asked := by
  induction h with
  | empty => exact fun c hc => nomatch hc
  | @own W S w asked event _ hid ih =>
    subst hid
    intro c hc
    have hguest : ((S.memory w).guest event.sender).Reckoned asked := by
      unfold Memory.guest
      cases hknown : (S.memory w).customer? event.sender.id with
      | none => exact .fresh asked _ _
      | some known => exact ih known hknown
    obtain ⟨c', hc', hreckoned⟩ := S.dispatch_reckoned hguest
    rw [hc] at hc'
    exact Option.some.inj hc' ▸ hreckoned
  | @others W S w asked event _ hid ih =>
    intro c hc
    rw [(S.portion_dispatch desk event w hid.symm).customer] at hc
    exact ih c hc
  | @upkeep w asked u _ ih =>
    refine World.happen_upkeep (I := fun m => ∀ c, m.customer? id = some c → c.Reckoned asked)
      (fun m items hm => hm) (fun m hm c hc => ?_) ih u
    rw [Memory.customer?_resetOffsets, Option.map_eq_some_iff] at hc
    obtain ⟨known, hknown, rfl⟩ := hc
    exact (hm known hknown).look 0

/-! ## Quotations of the calculator -/

namespace Surroundings

variable {W : Type} (S : Surroundings W) {desk : Desk} {σ : Sources} {w : W} {event : Chat.Event}
  {c : Customer} {t : Terms.Complete} {text : String} {yuan : UInt64}

/-- An amount comes to what is quoted for it when it is sent by a customer who is kept. -/
theorem dispatch_comesTo {told : UInt64 → List Call}
    (hc : (S.memory w).customer? event.sender.id = some c)
    (hrespond : (desk.respond c event).run.Along (σ.Grants c.id) fun cs res =>
      ∃ r, σ.rate r ∧ Desk.ComesTo told (t.quotation yuan r) cs res)
    (hmet : (desk.dispatch event).run.Met S.serve σ.Gives w) :
    ∃ r cs, σ.rate r ∧
      S.calls (desk.dispatch event) w = .store (.customer event.sender.id) :: cs ∧
      Desk.ComesTo told (t.quotation yuan r) cs (S.run (desk.dispatch event) w).1 := by
  obtain ⟨v, hv, hrun, hcalls, hrest⟩ := S.dispatch_recalled desk event hc
  have hkept : ((S.memory v).customer? c.id).isSome := by
    rw [hv, Memory.customer?_id hc, hc]
    rfl
  obtain ⟨r, hr, hcomes⟩ := hrespond.run ((S.met_granted _ hkept).and (hrest _ hmet))
  rw [hrun, hcalls]
  exact ⟨r, _, hr, rfl, hcomes⟩

/-- The calculator makes its price by the calculator terms of the record. -/
theorem dispatch_estimate (hc : (S.memory w).customer? event.sender.id = some c)
    (hq : desk.understand c event = .ok (.answer .calculatorAmount text))
    (hyuan : Answer.price? text = some yuan) (hterms : c.calculatorTerms = t.terms)
    (hmet : (desk.dispatch event).run.Met S.serve σ.Gives w) :
    ∃ r cs, σ.rate r ∧
      S.calls (desk.dispatch event) w = .store (.customer event.sender.id) :: cs ∧
      Desk.ComesTo (desk.estimate event.chat c) (t.quotation yuan r) cs
        (S.run (desk.dispatch event) w).1 := by
  refine S.dispatch_comesTo hc ?_ hmet
  have hrespond : desk.respond c event = desk.calculatorAmount event.chat c text := by
    rw [Desk.respond, hq]
    exact pure_bind _ _
  rw [hrespond]
  exact Desk.calculatorAmount_comesTo hyuan hterms

end Surroundings

/-- Two stores differ in nothing but step and calculator terms of the customer whose record was `c`. -/
structure Store.Memory.DifferInCalculator (m m' : Memory) (c : Customer) : Prop where
  items : m'.items = m.items
  orders : m'.orders = m.orders
  others : ∀ id ≠ c.id, m'.customer? id = m.customer? id
  own : ∃ s t, m'.customer? c.id = some { c with step := s, calculatorTerms := t }

/-- A request to the calculator changes nothing but the sender's step and calculator terms, and nothing
else changes these terms.  So in a run from nothing, whatever else goes on in it, every amount that the
calculator accepts comes to the price by the terms that the sender has chosen in it since it was begun
last. -/
theorem Desk.calculator_apart (desk : Desk) :
    (∀ (W : Type) (S : Surroundings W) (w : W) (event : Chat.Event),
      let c := (S.memory w).guest event.sender
      let m' := S.memory (S.run (desk.dispatch event) w).2
      (∀ q, desk.understand c event = .ok q → q.reckons → (S.memory w).DifferInCalculator m' c) ∧
      ((∀ q, desk.understand c event = .ok q → ¬ q.reckons) →
        m'.Keeps c.id fun c' => c'.calculatorTerms = c.calculatorTerms)) ∧
    ∀ (W : Type) (S : Surroundings W) (w : W) (asked : List Request) (σ : Sources)
      (event : Chat.Event) (text : String) (yuan : UInt64),
      let c := (S.memory w).guest event.sender
      (S.memory w).Asked desk event.sender.id asked →
      desk.understand c event = .ok (.answer .calculatorAmount text) →
      Answer.price? text = some yuan →
      (desk.dispatch event).run.Met S.serve σ.Gives w →
      ∃ route k r cs, ChosenSince asked (Flow.calculator.buttons route k) ∧ σ.rate r ∧
        S.calls (desk.dispatch event) w = .store (.customer event.sender.id) :: cs ∧
        ComesTo (desk.estimate event.chat c) ((route.terms k).quotation yuan r) cs
          (S.run (desk.dispatch event) w).1 := by
  constructor
  · intro W S w event
    dsimp only
    rw [Memory.guest_id]
    constructor
    · intro q hq hreckons
      obtain ⟨hitems, horders, hown⟩ := S.dispatch_reckons hq hreckons
      rw [← Memory.guest_id (S.memory w) event.sender] at hown
      refine ⟨hitems, horders, fun id hid => ?_, hown⟩
      rw [Memory.guest_id] at hid
      exact (S.portion_dispatch desk event w hid).customer
    · exact S.dispatch_not_reckons
  · intro W S w asked σ event text yuan
    dsimp only
    intro hasked hq hyuan hmet
    have hstep : ((S.memory w).guest event.sender).step = .calculatorAmount :=
      desk.step_of_understand hq rfl
    -- who is asked for an amount is known
    have hknown : (S.memory w).customer? event.sender.id =
        some ((S.memory w).guest event.sender) := by
      have hwelcome := Memory.customer?_welcome (S.memory w) event.sender
      rwa [Memory.welcome_of_step (by rw [hstep]; nofun), Memory.guest_id] at hwelcome
    have hreckoned := hasked.reckoned _ hknown
    rw [Customer.Reckoned, hstep] at hreckoned
    obtain ⟨route, k, hchosen, hterms, -⟩ := hreckoned
    obtain ⟨r, cs, hr, hcalls, hcomes⟩ := S.dispatch_estimate hknown hq hyuan hterms hmet
    exact ⟨route, k, r, cs, hchosen, hr, hcalls, hcomes⟩

/-- What a customer asks for with events one after another. -/
theorem Store.Memory.Asked.after {W : Type} {S : Surroundings W} {w : W} {desk : Desk} {id : Int64}
    {asked : List Request} (events : List Chat.Event) (h : (S.memory w).Asked desk id asked)
    (hevents : ∀ event ∈ events, event.sender.id = id) :
    ∃ asked', (S.memory (S.after desk w events)).Asked desk id asked' := by
  induction events generalizing w asked with
  | nil => exact ⟨asked, h⟩
  | cons event events ih =>
    obtain ⟨hfirst, hrest⟩ := List.forall_mem_cons.1 hevents
    exact ih (h.own event hfirst) hrest

namespace Purchase

/-- A calculation is given up for a position by express, and the position for another calculation. -/
def calculation : List Chat.Event :=
  [presses "21", presses "23", types "/add", presses "10", presses "34", presses "22", presses "28"]

/-- The world in which the amount of the second calculation is asked for. -/
def calculating : World := World.surroundings.after Desk.bare opening calculation

set_option maxRecDepth 2000 in
/-- The second calculation is for a heavy article by express. -/
theorem calculation_told :
    (∃ asked, calculating.memory.Asked Desk.bare 1 asked ∧ ∃ route k r cs,
      ChosenSince asked (Flow.calculator.buttons route k) ∧
      World.surroundings.calls (Desk.bare.dispatch (types "100")) calculating =
        .store (.customer 1) :: cs ∧
      Desk.ComesTo (Desk.bare.estimate 1 (calculating.memory.guest ⟨1, "Ivan", none, none⟩))
        ((route.terms k).quotation 100 r) cs
        (World.surroundings.run (Desk.bare.dispatch (types "100")) calculating).1) ∧
    (World.surroundings.calls (Desk.bare.dispatch (types "100")) calculating).getLast? =
      some (.chat (.sendText 1 (Desk.bare.texts.getWith "calculator-result" [("price_rub", "993")])
        (some (.inline [])))) := by
  have hstart : (World.surroundings.memory opening).Asked Desk.bare 1 [] := .empty
  have hown : ∀ event ∈ calculation, event.sender.id = 1 := by decide
  obtain ⟨asked, hasked⟩ := hstart.after calculation hown
  have hstep : (calculating.memory.guest ⟨1, "Ivan", none, none⟩).step = .calculatorAmount := by
    decide +kernel
  have hunderstood : Desk.bare.understand (calculating.memory.guest ⟨1, "Ivan", none, none⟩)
      (types "100") = .ok (.answer .calculatorAmount "100") := by
    have htext : Command.ofText? Desk.bare.keyboards "100" = none := by decide_cbv
    simp only [types, Desk.understand, htext, hstep, Step.input?]
  obtain ⟨-, hestimate⟩ := Desk.bare.calculator_apart
  have htold := hestimate World World.surroundings calculating asked .any (types "100") "100" 100
    hasked hunderstood (by decide_cbv) (World.surroundings.met_any _ _)
  obtain ⟨route, k, r, cs, hchosen, -, hcalls, hcomes⟩ := htold
  exact ⟨⟨asked, hasked, route, k, r, cs, hchosen, hcalls, hcomes⟩, rfl⟩

end Purchase

end OrderDesk
