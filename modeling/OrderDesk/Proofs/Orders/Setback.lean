import OrderDesk.Proofs.World.History

/-!
# Orders that are refused

A `Setback` is a store in memory that keeps no order: every other call to it is answered and carried
out as by any store in memory.  An accepted address empties the cart, has its order refused, and
puts the cart back.  What is put back are the cart, the terms and the step; what was taken out are
these and the draft.  So the customer is found as before except that the draft is gone
(`handleDeliveryAddress_refused`), and no order is kept.  A draft is there when a position was begun
and left half-built before checkout (`Purchase.draft_lost`).
-/

namespace OrderDesk

open Desk (Call)
open Store (Memory)

/-- What is put back into a customer's record when the order of the cart is refused. -/
def Customer.Update.restoring (c : Customer) : Customer.Update :=
  { Customer.Update.none with cart := some c.cart, terms := some c.terms, step := some c.step }

namespace Customer

/-- The record without its draft. -/
def withoutDraft (c : Customer) : Customer := { c with draft := none }

@[simp] theorem withoutDraft_id (c : Customer) : c.withoutDraft.id = c.id := rfl

theorem withoutDraft_eq_iff {c : Customer} : c.withoutDraft = c ↔ c.draft = none := by
  cases c
  simp [withoutDraft, eq_comm]

/-- What was taken out comes back, all but the draft. -/
theorem apply_restoring (c : Customer) :
    (c.apply .clearing).apply (.restoring c) = c.withoutDraft := rfl

end Customer

/-! ## A store that keeps no order -/

/-- Surroundings with a store in memory that refuses every order. -/
structure Setback (W : Type) where
  serve : (c : Call) → W → c.Reply × W
  /-- The store. -/
  memory : W → Memory
  /-- Why an order is refused. -/
  refusal : Order → W → StoreError
  saveOrder : ∀ o w, (serve (.store (.saveOrder o)) w).1 = .error (refusal o w)
  memory_saveOrder : ∀ o w, memory (serve (.store (.saveOrder o)) w).2 = memory w
  /-- All other calls do to the store what they do to any. -/
  memory_serve : ∀ c w, (∀ o, c ≠ .store (.saveOrder o)) →
    memory (serve c w).2 = c.effect (memory w)
  /-- All other calls to the store are answered, with some candidates for short identifiers. -/
  reply : ∀ c w, (∀ o, c ≠ .saveOrder o) →
    ∃ next drawn, (serve (.store c) w).1 = ((memory w).serve next drawn c).1

/-- Surroundings whose store has begun to refuse orders. -/
def Surroundings.refusing {W : Type} (S : Surroundings W) (e : StoreError) : Setback W where
  serve
    | .store (.saveOrder _), w => (.error e, w)
    | c, w => S.serve c w
  memory := S.memory
  refusal _ _ := e
  saveOrder _ _ := rfl
  memory_saveOrder _ _ := rfl
  memory_serve c w hc := by
    split
    · exact absurd rfl (hc _)
    · exact S.memory_serve _ _
  reply c w hc := by
    cases c with
    | saveOrder o => exact absurd rfl (hc o)
    | _ => exact S.reply _ w

namespace Setback

variable {W α β : Type} (S : Setback W) {desk : Desk} {c : Customer} {w : W}

/-- Carries a turn out. -/
def run (t : Turn α) (w : W) : Except Failure α × W := t.run.run S.serve w

/-- The world after events. -/
def after (desk : Desk) (w : W) (events : List Chat.Event) : W :=
  events.foldl (fun w event => (S.run (desk.dispatch event) w).2) w

theorem run_ask_bind (c : Call) (f : c.Reply → Turn α) (w : W) :
    S.run (Turn.ask c >>= f) w = S.run (f (S.serve c w).1) (S.serve c w).2 := rfl

theorem run_bind_of_error {t : Turn α} {e : Failure} (f : α → Turn β)
    (h : (S.run t w).1 = .error e) : S.run (t >>= f) w = (.error e, (S.run t w).2) := by
  rw [run] at h
  rw [run, Program.run_run_bind, h]
  rfl

/-- A call of the store that is answered. -/
theorem run_store_bind {c : Store.Call} {a : c.Value} (f : c.Value → Turn α)
    (h : (S.serve (.store c) w).1 = Except.ok a) :
    S.run (Turn.store c >>= f) w = S.run (f a) (S.serve (.store c) w).2 := by
  rw [Turn.store, bind_assoc, run_ask_bind, h]
  rfl

/-- A call of the store that fails. -/
theorem run_store_bind_of_error {c : Store.Call} {e : StoreError} (f : c.Value → Turn α)
    (h : (S.serve (.store c) w).1 = Except.error e) :
    S.run (Turn.store c >>= f) w = (.error (.store e), (S.serve (.store c) w).2) := by
  rw [Turn.store, bind_assoc, run_ask_bind, h]
  rfl

/-- A change of a customer who is kept is carried out. -/
theorem serve_updateCustomer (h : (S.memory w).customer? c.id = some c) (u : Customer.Update) :
    (S.serve (.store (.updateCustomer c.id u)) w).1 = Except.ok () ∧
      S.memory (S.serve (.store (.updateCustomer c.id u)) w).2 =
        (S.memory w).putCustomer (c.apply u) := by
  obtain ⟨next, drawn, hreply⟩ := S.reply (.updateCustomer c.id u) w (by simp)
  refine ⟨?_, ?_⟩
  · rw [hreply]
    exact Memory.serve_updateCustomer (by rw [h]; rfl) next drawn u
  · rw [S.memory_serve _ w (by simp)]
    exact Memory.after_updateCustomer h u

/-- Asking for a short identifier leaves the store as it is. -/
theorem memory_freeShortId (w : W) :
    S.memory (S.serve (.store .freeShortId) w).2 = S.memory w :=
  S.memory_serve _ w (by simp)

/-- Keeping an order ends in its refusal, after the cart was emptied and put back. -/
theorem keepOrder_refused (h : (S.memory w).customer? c.id = some c) (o : Order) :
    ∃ v, (S.run (Desk.keepOrder c o) w).1 = .error (.store (S.refusal o v)) ∧
      S.memory (S.run (Desk.keepOrder c o) w).2 =
        (S.memory w).putCustomer c.withoutDraft := by
  obtain ⟨hdone, hcleared⟩ := S.serve_updateCustomer h .clearing
  let cleared := (S.serve (.store (.updateCustomer c.id .clearing)) w).2
  let refused := (S.serve (.store (.saveOrder o)) cleared).2
  have hrun : S.run (Desk.keepOrder c o) w =
      (.error (.store (S.refusal o cleared)),
        (S.serve (.store (.updateCustomer c.id (.restoring c))) refused).2) := by
    refine (S.run_store_bind _ hdone).trans ?_
    rw [S.run_ask_bind, S.saveOrder]
    rfl
  have hrefused : S.memory refused = (S.memory w).putCustomer (c.apply .clearing) :=
    (S.memory_saveOrder o cleared).trans hcleared
  -- the record to be put back is found under the customer's identifier
  have hfound : (S.memory refused).customer? (c.apply .clearing).id = some (c.apply .clearing) := by
    rw [hrefused, Memory.customer?_putCustomer]
  refine ⟨cleared, by rw [hrun], ?_⟩
  rw [hrun]
  refine (S.serve_updateCustomer hfound (.restoring c)).2.trans ?_
  rw [hrefused, Customer.apply_restoring]
  exact Memory.putCustomer_putCustomer rfl

/-- An accepted address ends in an error, and nobody else's record and no order is changed.  Either
no short identifier was to be had, and nothing was done at all; or the order of the cart was
refused, and the customer is found as before exactly if there was no draft. -/
theorem handleDeliveryAddress_refused (desk : Desk) (chat : Int64) {text address : String}
    (h : (S.memory w).customer? c.id = some c) (haddress : Answer.address? text = some address) :
    ∃ e v, S.run (desk.handleDeliveryAddress chat c text) w = (.error (.store e), v) ∧
      (S.memory v).orders = (S.memory w).orders ∧
      (∀ id ≠ c.id, (S.memory v).customer? id = (S.memory w).customer? id) ∧
      ((S.serve (.store .freeShortId) w).1 = .error e ∧ S.memory v = S.memory w ∨
        ∃ shortId id createdAt u,
          (S.serve (.store .freeShortId) w).1 = .ok shortId ∧
          e = S.refusal (.ofCustomer c address c.terms.isExpress shortId id createdAt) u ∧
          (S.memory v).customer? c.id = some c.withoutDraft ∧
          ((S.memory v).customer? c.id = some c ↔ c.draft = none)) := by
  simp only [Desk.handleDeliveryAddress, haddress]
  cases hid : (S.serve (.store .freeShortId) w).1 with
  | error e =>
    have hmemory := S.memory_freeShortId w
    refine ⟨e, _, S.run_store_bind_of_error _ hid, ?_, fun id _ => ?_, .inl ⟨rfl, hmemory⟩⟩
    · rw [hmemory]
    · rw [hmemory]
  | ok shortId =>
    -- neither the identifier nor the time that is asked for changes the store
    let drawn := S.serve .newId (S.serve (.store .freeShortId) w).2
    let timed := S.serve .now drawn.2
    have hmemory : S.memory timed.2 = S.memory w :=
      (S.memory_serve .now _ (by simp)).trans
        ((S.memory_serve .newId _ (by simp)).trans (S.memory_freeShortId w))
    let order : Order := .ofCustomer c address c.terms.isExpress shortId drawn.1 timed.1
    obtain ⟨u, hresult, hafter⟩ := S.keepOrder_refused (w := timed.2) (by rw [hmemory, h]) order
    rw [hmemory] at hafter
    refine ⟨S.refusal order u, (S.run (Desk.keepOrder c order) timed.2).2, ?_, ?_, fun id hne => ?_,
      .inr ⟨shortId, drawn.1, timed.1, u, rfl, rfl, ?_⟩⟩
    · rw [S.run_store_bind _ hid, S.run_ask_bind, S.run_ask_bind]
      exact S.run_bind_of_error _ hresult
    · rw [hafter, Memory.putCustomer_orders]
    · rw [hafter]
      exact Memory.customer?_putCustomer_of_ne hne.symm
    · have hfound : (S.memory (S.run (Desk.keepOrder c order) timed.2).2).customer? c.id =
          some c.withoutDraft := by
        rw [hafter, ← c.withoutDraft_id, Memory.customer?_putCustomer]
      exact ⟨hfound, by rw [hfound, Option.some_inj, Customer.withoutDraft_eq_iff]⟩

end Setback

namespace Purchase

/-- The world of the purchase, in which no order can be kept. -/
def refusing : Setback World := World.surroundings.refusing (.database "disk full")

/-- A position is put into the cart, another one is begun and left after its weight class, and
checkout goes as far as the address. -/
def interrupted : List Chat.Event :=
  [types "/add", presses "11", presses "13", presses "15", types "42", presses "18", types "100",
    types "shop/1", types "/add", presses "17",
    presses "31", types "Ivanov Ivan Ivanovich", types "79990000000"]

/-- The customer who buys, after events. -/
def buyer (events : List Chat.Event) : Customer :=
  (refusing.memory (refusing.after .bare opening events)).guest ⟨1, "Ivan", none, none⟩

/-- Whoever has no draft is found as before when the order is refused. -/
theorem cart_put_back :
    (buyer events).cart.size = 1 ∧ (buyer events).draft = none ∧
    ∃ e v, refusing.run (Desk.bare.handleDeliveryAddress 1 (buyer events) "Lenina 1")
        (refusing.after .bare opening events) = (.error (.store e), v) ∧
      (refusing.memory v).orders = [] ∧
      (refusing.memory v).customer? (buyer events).id = some (buyer events) := by
  have hkept : (refusing.memory (refusing.after .bare opening events)).customer? (buyer events).id =
      some (buyer events) := by decide +kernel
  have hdraft : (buyer events).draft = none := by decide +kernel
  have horders : (refusing.memory (refusing.after .bare opening events)).orders = [] := by
    decide +kernel
  have haddress : Answer.address? "Lenina 1" = some "Lenina 1" := by decide +kernel
  obtain ⟨e, v, hrun, hsame, -, hleft⟩ :=
    refusing.handleDeliveryAddress_refused .bare 1 hkept haddress
  refine ⟨by decide +kernel, hdraft, e, v, hrun, hsame.trans horders, ?_⟩
  rcases hleft with ⟨-, hmemory⟩ | ⟨-, -, -, -, -, -, -, hiff⟩
  · rw [hmemory, hkept]
  · exact hiff.2 hdraft

/-- A half-built position is lost when the order is refused. -/
theorem draft_lost : ¬ ∀ (events : List Chat.Event) (c : Customer) (chat : Int64) (text : String),
    (refusing.memory (refusing.after .bare opening events)).customer? c.id = some c →
    c.step = .deliveryAddress → (Answer.address? text).isSome →
    (refusing.memory (refusing.run (Desk.bare.handleDeliveryAddress chat c text)
      (refusing.after .bare opening events)).2).customer? c.id = some c := fun h =>
  absurd (h interrupted (buyer interrupted) 1 "Lenina 1" (by decide +kernel) (by decide +kernel)
    (by decide +kernel)) (by decide +kernel)

end Purchase

end OrderDesk
