import OrderDesk.Conversation.Turn
import OrderDesk.Proofs.Program.Along
import OrderDesk.Proofs.Store.Writes

/-!
# What turns write

A turn is followed along all its ways (`Program.Along`).  Of the calls on a way only the writes to
the store matter here: `Turn.Reads` says that there are none, and what is known of the value that
the turn gives; `Turn.Writes` says of which lists of writes each way leaves one behind.  Both have
one rule for each way in which turns are built, so that a statement about a turn is proved along its
text.

What may be assumed of replies is `Sources.Allows`: a customer that is kept can be changed, an order
can be kept, an order that is found has the identifier that was asked for, and identifiers, rate and
shelf are as is known of them.
-/

namespace OrderDesk

open Store (Memory)

namespace Desk

/-- The write of a call, if it has one. -/
def Call.write? : Call → Option Store.Call
  | store c => c.write?
  | _ => none

/-- The writes among some calls. -/
def writes (cs : List Call) : List Store.Call := cs.filterMap Call.write?

@[simp] theorem writes_nil : writes [] = [] := rfl

@[simp] theorem writes_append (cs ds : List Call) : writes (cs ++ ds) = writes cs ++ writes ds :=
  List.filterMap_append

theorem writes_cons_of_none {c : Call} (h : c.write? = none) (cs : List Call) :
    writes (c :: cs) = writes cs := List.filterMap_cons_none h

theorem writes_cons_of_some {c : Call} {d : Store.Call} (h : c.write? = some d) (cs : List Call) :
    writes (c :: cs) = d :: writes cs := List.filterMap_cons_some h

/-- What is known of the identifiers, the rate and the shelf that a turn is given. -/
structure Sources where
  /-- A new identifier. -/
  id : Uuid → Prop
  rate : Except PricingError Float → Prop
  shelf : Catalog.Shelf → Prop

/-- Nothing is known. -/
def Sources.any : Sources := ⟨fun _ => True, fun _ => True, fun _ => True⟩

/-- A reply is what is known of its source. -/
def Sources.Gives (σ : Sources) : (c : Call) → c.Reply → Prop
  | .rate, r => σ.rate r
  | .shelf, s => σ.shelf s
  | .newId, id => σ.id id
  | _, _ => True

/-- A reply is one of a store in which the customer is kept. -/
def Keeping (customer : Int64) : (c : Call) → c.Reply → Prop
  | .store (.updateCustomer id _), r => id = customer → r = Except.ok ()
  | .store (.saveOrder _), r => r = Except.ok ()
  | .store (.order shortId), r => ∀ o : Order, r = Except.ok o → o.shortId = shortId
  | _, _ => True

/-- What is known of the replies in a turn of a customer that is kept. -/
def Sources.Allows (σ : Sources) (customer : Int64) (c : Call) (r : c.Reply) : Prop :=
  Keeping customer c r ∧ σ.Gives c r

end Desk

namespace Turn

open Desk (writes)

variable {α β : Type} {A : (c : Desk.Call) → c.Reply → Prop}

/-- Nothing is written on any way, and a value that is given satisfies `P`. -/
def Reads (A : (c : Desk.Call) → c.Reply → Prop) (t : Turn α) (P : α → Prop) : Prop :=
  t.run.Along A fun cs r => writes cs = [] ∧ ∀ a, r = .ok a → P a

/-- The writes on every way satisfy `D`. -/
def Writes (A : (c : Desk.Call) → c.Reply → Prop) (t : Turn α)
    (D : List Store.Call → Prop) : Prop :=
  t.run.Along A fun cs _ => D (writes cs)

theorem reads_iff {t : Turn α} {P : α → Prop} :
    t.Reads A P ↔ t.run.Along A fun cs r => writes cs = [] ∧ ∀ a, r = .ok a → P a := Iff.rfl

theorem writes_iff {t : Turn α} {D : List Store.Call → Prop} :
    t.Writes A D ↔ t.run.Along A fun cs _ => D (writes cs) := Iff.rfl

theorem along_ask (c : Desk.Call) (Q : List Desk.Call → Except Failure c.Reply → Prop) :
    (ask c).run.Along A Q ↔ ∀ r, A c r → Q [c] (.ok r) := by
  have hrun : (ask c).run = .ask c fun r => .pure (.ok r) := rfl
  simp only [hrun, Program.along_ask, Program.along_pure]

theorem along_ofExcept {ε : Type} (wrap : ε → Failure) (x : Except ε α)
    (Q : List Desk.Call → Except Failure α → Prop) :
    (ofExcept wrap x).run.Along A Q ↔ Q [] (x.mapError wrap) := by
  cases x <;> exact Program.along_pure

theorem along_store (c : Store.Call) (Q : List Desk.Call → Except Failure c.Value → Prop) :
    (store c).run.Along A Q ↔ ∀ r, A (.store c) r → Q [.store c] (r.mapError .store) := by
  rw [store, Program.along_run_bind, along_ask]
  simp only [along_ofExcept, List.append_nil]

/-! ## Reading -/

theorem Reads.mono {t : Turn α} {P R : α → Prop} (h : t.Reads A P) (hPR : ∀ a, P a → R a) :
    t.Reads A R :=
  Program.Along.mono h fun _ _ hcs => ⟨hcs.1, fun a ha => hPR a (hcs.2 a ha)⟩

theorem Reads.bind {t : Turn α} {f : α → Turn β} {P : α → Prop} {R : β → Prop} (h : t.Reads A P)
    (hf : ∀ a, P a → (f a).Reads A R) : (t >>= f).Reads A R := by
  refine (Program.along_run_bind t f _).2 (Program.Along.mono h ?_)
  rintro cs (e | a) ⟨hcs, ha⟩
  · exact ⟨hcs, by simp⟩
  · refine Program.Along.mono (hf a (ha a rfl)) fun ds s hds => ⟨?_, hds.2⟩
    rw [Desk.writes_append, hcs, hds.1, List.append_nil]

@[simp] theorem reads_pure {a : α} {P : α → Prop} (h : P a) : (pure a : Turn α).Reads A P :=
  Program.along_pure.2 ⟨rfl, by rintro b ⟨⟩; exact h⟩

theorem reads_throw {e : Failure} {P : α → Prop} : (throw e : Turn α).Reads A P :=
  Program.along_pure.2 ⟨rfl, by rintro b ⟨⟩⟩

theorem reads_ofExcept {ε : Type} (wrap : ε → Failure) (x : Except ε α) :
    (ofExcept wrap x).Reads A fun a => x = .ok a := by
  cases x with
  | error e => exact reads_throw
  | ok a => exact reads_pure rfl

theorem reads_ask {c : Desk.Call} (h : c.write? = none) : (ask c).Reads A (A c) := by
  refine (along_ask c _).2 fun r hr => ⟨Desk.writes_cons_of_none h [], ?_⟩
  rintro _ ⟨⟩
  exact hr

theorem reads_store {c : Store.Call} (h : c.write? = none) :
    (store c).Reads A fun v => A (.store c) (Except.ok v) :=
  (reads_ask (c := .store c) h).bind fun r hr => (reads_ofExcept _ r).mono fun _ hv => hv ▸ hr

theorem reads_chat (c : Chat.Call) : (chat c).Reads A fun _ => True :=
  (reads_ask (c := .chat c) rfl).bind fun r _ => (reads_ofExcept _ r).mono fun _ _ => trivial

/-! ## Writing -/

variable {D : List Store.Call → Prop}

theorem Reads.writes {t : Turn α} {P : α → Prop} (h : t.Reads A P) (hD : D []) : t.Writes A D :=
  Program.Along.mono h fun _ _ hcs => hcs.1.symm ▸ hD

theorem writes_pure {a : α} (hD : D []) : (pure a : Turn α).Writes A D := Program.along_pure.2 hD

theorem writes_throw {e : Failure} (hD : D []) : (throw e : Turn α).Writes A D :=
  Program.along_pure.2 hD

theorem store_writes {c d : Store.Call} (hc : c.write? = some d) (hD : D [d]) :
    (store c).Writes A D :=
  (along_store _ _).2 fun _ _ => (Desk.writes_cons_of_some (c := .store c) hc []).symm ▸ hD

theorem Writes.mono {t : Turn α} {E : List Store.Call → Prop} (h : t.Writes A D)
    (hDE : ∀ ds, D ds → E ds) : t.Writes A E :=
  Program.Along.mono h fun _ _ => hDE _

/-- What is read first does not count. -/
theorem Reads.bind_writes {t : Turn α} {f : α → Turn β} {P : α → Prop} (h : t.Reads A P)
    (hf : ∀ a, P a → (f a).Writes A D) (hD : D []) : (t >>= f).Writes A D := by
  refine (Program.along_run_bind t f _).2 (Program.Along.mono h ?_)
  rintro cs (e | a) ⟨hcs, ha⟩
  · exact hcs.symm ▸ hD
  · refine Program.Along.mono (hf a (ha a rfl)) fun ds s hds => ?_
    rwa [Desk.writes_append, hcs]

/-- Asking never fails, so what is written after it is written. -/
theorem ask_bind_writes {c : Desk.Call} {f : c.Reply → Turn α} (h : c.write? = none)
    (hf : ∀ r, A c r → (f r).Writes A D) : (ask c >>= f).Writes A D := by
  refine (Program.along_run_bind _ _ _).2 ((along_ask c _).2 fun r hr => ?_)
  refine Program.Along.mono (hf r hr) fun ds _ hds => ?_
  rw [Desk.writes_append, Desk.writes_cons_of_none h]
  exact hds

/-- Nor does looking up what is there. -/
theorem lookUp_bind_writes {c : Store.Call} {f : c.Value → Turn α} (h : c.write? = none)
    (hfound : ∀ r, A (.store c) r → ∃ v, r = Except.ok v) (hf : ∀ v, (f v).Writes A D) :
    (store c >>= f).Writes A D := by
  refine (Program.along_run_bind _ _ _).2 ((along_store c _).2 fun r hr => ?_)
  obtain ⟨v, rfl⟩ := hfound r hr
  refine Program.Along.mono (hf v) fun ds _ hds => ?_
  rw [Desk.writes_append, Desk.writes_cons_of_none (c := .store c) h]
  exact hds

/-- What is read after a write does not count, nor does a failure of the write. -/
theorem store_bind_writes {c d : Store.Call} {f : c.Value → Turn α} (hc : c.write? = some d)
    (hD : D [d]) (hf : ∀ v, (f v).Reads A fun _ => True) : (store c >>= f).Writes A D := by
  have hcall : writes [.store c] = [d] := Desk.writes_cons_of_some (c := .store c) hc []
  refine (Program.along_run_bind _ _ _).2 ((along_store c _).2 fun r _ => ?_)
  rcases r with e | v
  · exact hcall.symm ▸ hD
  · refine Program.Along.mono (hf v) fun ds s hds => ?_
    rwa [Desk.writes_append, hds.1, List.append_nil, hcall]

/-- A change of the customer's record, and reading after it. -/
theorem update_bind_writes {customer : Customer} {u : Customer.Update} {f : Unit → Turn α}
    (hD : D [.updateCustomer customer.id u]) (hf : (f ()).Reads A fun _ => True) :
    (update customer u >>= f).Writes A D :=
  store_bind_writes rfl hD fun _ => hf

/-- A change of the customer's step, and reading after it. -/
theorem goTo_bind_writes {customer : Customer} {s : Step} {f : Unit → Turn α}
    (hD : D [.updateCustomer customer.id { Customer.Update.none with step := some s }])
    (hf : (f ()).Reads A fun _ => True) : (goTo customer s >>= f).Writes A D :=
  store_bind_writes rfl hD fun _ => hf

-- From here on turns are followed by the rules above, never by running them.
attribute [irreducible] Reads Writes

end Turn

end OrderDesk
