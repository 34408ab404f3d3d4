import OrderDesk.Proofs.World.History

/-!
# Stores that are reached

`Memory.Reached` are the stores in memory that dispatches and changes of the catalogue, one after
another, make of an empty one.  Nothing is fixed about what surrounds the store: chat, rate, shelf,
clock and identifiers may come from somewhere else at each dispatch, as long as they are as is known
of the sources.  What lasts holds in every such store (`Reached.each`).  The store of a world after any
history is one (`World.reached_after`), and if the rate never changes it is one at that rate
(`World.reached_atRate`).
-/

namespace OrderDesk

open Desk (Sources)
open Store (Memory)

/-- Dispatches and changes of the catalogue make the store of an empty one. -/
inductive Store.Memory.Reached (desk : Desk) (σ : Sources) : Memory → Prop where
  | empty : Reached desk σ .empty
  | dispatch {W : Type} {S : Surroundings W} {w : W} (event : Chat.Event)
    (h : Reached desk σ (S.memory w)) (hσ : (desk.dispatch event).run.Met S.serve σ.Gives w) :
    Reached desk σ (S.memory (S.run (desk.dispatch event) w).2)
  | upkeep {w : World} (u : Upkeep) (h : Reached desk σ w.memory) :
    Reached desk σ (w.happen desk (.upkeep u)).memory

namespace Store.Memory.Reached

variable {desk : Desk} {σ : Sources} {m : Memory}

/-- What lasts holds of every customer and every order that is kept. -/
theorem each {P : Customer → Prop} {O : Order → Prop} (hm : m.Reached desk σ)
    (h : desk.Lasting σ P O) : m.Each P O := by
  induction hm with
  | empty => exact each_empty
  | dispatch event _ hσ ih => exact h.dispatch hσ ih
  | upkeep u _ ih => exact h.upkeep ih u

/-- Whatever is known of the sources, it is no reason for a store. -/
theorem any (hm : m.Reached desk σ) : m.Reached desk .any := by
  induction hm with
  | empty => exact .empty
  | @dispatch W S w event _ _ ih => exact .dispatch event ih (S.met_any (desk.dispatch event) w)
  | upkeep u _ ih => exact .upkeep u ih

end Store.Memory.Reached

/-! ## Histories -/

namespace World

variable {desk : Desk} {σ : Sources} {w : World}

/-- The store after a history, if what is known of the sources is kept up on the way. -/
theorem reached_of_invariant {I : World → Prop} {history : List Occurrence}
    (hgives : ∀ e v, I v → (desk.dispatch e).run.Met serve σ.Gives v)
    (hhappen : ∀ o ∈ history, ∀ v, I v → I (v.happen desk o)) (hI : I w)
    (hw : w.memory.Reached desk σ) : (w.after desk history).memory.Reached desk σ := by
  refine (List.foldlRecOn history (happen desk)
    (motive := fun v : World => I v ∧ v.memory.Reached desk σ) ⟨hI, hw⟩
    fun v hv occurrence hmem => ⟨hhappen occurrence hmem v hv.1, ?_⟩).2
  cases occurrence with
  | event e => exact .dispatch (S := World.surroundings) e hv.2 (hgives e v hv.1)
  | upkeep u => exact .upkeep u hv.2
  | change rate clock nextMessage => exact hv.2

/-- The store after any history. -/
theorem reached_after (desk : Desk) (draws : Draws) (rate : Float) (clock : Instant)
    (firstMessage : Int32) (history : List Occurrence) :
    ((World.initial draws rate clock firstMessage).after desk history).memory.Reached desk .any :=
  reached_of_invariant (I := fun _ => True)
    (fun e v _ => World.surroundings.met_any (desk.dispatch e) v) (fun _ _ _ _ => trivial) trivial
    .empty

end World

/-! ## Histories at one rate -/

/-- Whenever a rate is given it is the same one. -/
def Desk.Sources.atRate (rate : Float) : Sources :=
  { Sources.any with rate := fun r => ∀ x, r = .ok x → x = rate }

/-- An occurrence after which the rate is the given one if it was before. -/
def Occurrence.KeepsRate (rate : Float) : Occurrence → Prop
  | change rate' _ _ => rate' = rate
  | _ => True

theorem usableRate_eq {rate x : Float} (h : usableRate rate = .ok x) : x = rate := by
  unfold usableRate at h
  split at h
  · exact (Except.ok.inj h).symm
  · cases h

namespace World

variable {desk : Desk} {w : World} {rate : Float}

theorem serve_rate (c : Desk.Call) (w : World) : (serve c w).2.rate = w.rate := by
  cases c with
  | chat c => cases c <;> rfl
  | _ => rfl

/-- A world gives no other rate than its own. -/
theorem met_atRate {α : Type} (t : Turn α) (w : World) :
    t.run.Met serve (Sources.atRate w.rate).Gives w := by
  refine Program.met_of_invariant (I := fun v : World => v.rate = w.rate) (fun c v hv => ?_) t.run rfl
  refine ⟨?_, (serve_rate c v).trans hv⟩
  cases c with
  | rate =>
    intro x hx
    exact hv ▸ usableRate_eq hx
  | _ => trivial

theorem happen_rate {occurrence : Occurrence} (hw : w.rate = rate)
    (h : occurrence.KeepsRate rate) : (w.happen desk occurrence).rate = rate := by
  cases occurrence with
  | event e =>
    exact Program.run_invariant (I := fun v : World => v.rate = rate)
      (fun c v hv => (serve_rate c v).trans hv) (desk.dispatch e).run hw
  | upkeep u =>
    exact Program.run_invariant (I := fun v : World => v.rate = rate) (fun c v hv => hv) u.job.run hw
  | change rate' clock nextMessage => exact h

/-- The store after a history in which the rate never changes. -/
theorem reached_atRate (desk : Desk) (draws : Draws) (rate : Float) (clock : Instant)
    (firstMessage : Int32) (history : List Occurrence) (h : ∀ o ∈ history, o.KeepsRate rate) :
    ((World.initial draws rate clock firstMessage).after desk history).memory.Reached desk
      (.atRate rate) := by
  refine reached_of_invariant (I := fun v => v.rate = rate) (fun e v hv => ?_)
    (fun o ho v hv => happen_rate hv (h o ho)) rfl .empty
  rw [← hv]
  exact met_atRate (desk.dispatch e) v

end World

/-- The purchase is made at one rate. -/
theorem Purchase.whole_reached :
    (opening.after Desk.bare whole).memory.Reached Desk.bare (.atRate 1.0) := by
  refine World.reached_atRate Desk.bare ⟨Uuid.ofNat, shortIdOf⟩ 1.0 ⟨0, 0⟩ 1 whole fun o ho => ?_
  rcases List.mem_append.1 ho with ho | ho
  · obtain ⟨e, -, rfl⟩ := List.mem_map.1 ho
    trivial
  · exact List.mem_singleton.1 ho ▸ trivial

end OrderDesk
