import OrderDesk.Proofs.Sql.Meaning
import OrderDesk.Store.Database

/-!
# Work on a database that does as it is told

An engine is a database of which one thing is known: a statement that has an outcome is carried out
with one of its outcomes (`Engine.execute`).  Which one, and what happens to any other statement, is
the engine's own affair.  `Ensures` says that a piece of work has a property whichever outcomes the
engine chooses; it has one rule for each way in which work is put together, and a transaction that
fails leaves what was there when it was begun (`ensures_transaction`).
-/

namespace OrderDesk.Store.Database

open Sql (Answer Contents Holdings Statement)

variable {keys : String → List String}

/-- A database that carries out statements as they say. -/
structure Engine (keys : String → List String) (D : Type) where
  serve : (c : Call) → D → c.Reply × D
  /-- What it holds. -/
  holdings : D → Holdings
  /-- A statement that has outcomes has one of them. -/
  execute : ∀ (s : Statement) (d : D), (∃ a h, s.Outcome keys (holdings d) a h) →
    ∃ a, (serve (.execute s) d).1 = .ok a ∧
      s.Outcome keys (holdings d) a (holdings (serve (.execute s) d).2)
  /-- Drawing candidates is no work of the database. -/
  draw : ∀ d, holdings (serve .draw d).2 = holdings d
  /-- Announcing is none either. -/
  announce : ∀ items d, holdings (serve (.announce items) d).2 = holdings d

/-- Whatever outcomes its statements have, a program comes to an end of which `P` holds. -/
def Ensures {α : Type} (keys : String → List String) :
    Program Call Call.Reply α → Holdings → (α → Holdings → Prop) → Prop
  | .pure a, h, P => P a h
  | .ask (.execute s) next, h, P =>
    (∃ a h', s.Outcome keys h a h') ∧
      ∀ a h', s.Outcome keys h a h' → Ensures keys (next (.ok a)) h' P
  | .ask .draw next, h, P => ∀ candidate, Ensures keys (next candidate) h P
  | .ask (.announce _) next, h, P => Ensures keys (next ()) h P
  | .ask .connect _, _, _ => False

/-- What is ensured is so on every engine. -/
theorem Ensures.run {D α : Type} (E : Engine keys D) {p : Program Call Call.Reply α}
    {P : α → Holdings → Prop} {d : D} (h : Ensures keys p (E.holdings d) P) :
    P (p.run E.serve d).1 (E.holdings (p.run E.serve d).2) := by
  induction p generalizing d with
  | pure a => exact h
  | ask c next ih =>
    cases c with
    | connect => exact h.elim
    | execute s =>
      obtain ⟨a, hreply, houtcome⟩ := E.execute s d h.1
      have hrest := ih _ (h.2 a _ houtcome)
      rw [← hreply] at hrest
      exact hrest
    | draw => exact ih _ (by rw [E.draw]; exact h _)
    | announce items => exact ih _ (by rw [E.announce]; exact h)

section Rules

variable {α β : Type} {h : Holdings}

theorem Ensures.bind {p : Program Call Call.Reply α} {f : α → Program Call Call.Reply β}
    {P : β → Holdings → Prop} (hp : Ensures keys p h fun a h' => Ensures keys (f a) h' P) :
    Ensures keys (p.bind f) h P := by
  induction p generalizing h with
  | pure a => exact hp
  | ask c next ih =>
    cases c with
    | connect => exact hp
    | execute s => exact ⟨hp.1, fun a h' houtcome => ih _ (hp.2 a h' houtcome)⟩
    | draw => exact fun candidate => ih _ (hp candidate)
    | announce items => exact ih _ hp

theorem Ensures.mono {p : Program Call Call.Reply α} {P Q : α → Holdings → Prop}
    (hp : Ensures keys p h P) (hPQ : ∀ a h', P a h' → Q a h') : Ensures keys p h Q := by
  induction p generalizing h with
  | pure a => exact hPQ a h hp
  | ask c next ih =>
    cases c with
    | connect => exact hp
    | execute s => exact ⟨hp.1, fun a h' houtcome => ih _ (hp.2 a h' houtcome)⟩
    | draw => exact fun candidate => ih _ (hp candidate)
    | announce items => exact ih _ hp

/-! ## Rules for work that can fail -/

/-- Work ends with a result of which `P` holds. -/
def Job.Ensures (keys : String → List String) (job : Job α) (h : Holdings)
    (P : Except StoreError α → Holdings → Prop) : Prop :=
  Database.Ensures keys job.run h P

variable {P : Except StoreError α → Holdings → Prop} {Q : Except StoreError β → Holdings → Prop}
  {job : Job α} {f : α → Job β} {s : Statement}

theorem ensures_pure {a : α} (hP : P (.ok a) h) : Job.Ensures keys (pure a) h P := hP

theorem ensures_throw {e : StoreError} (hP : P (.error e) h) : Job.Ensures keys (throw e) h P := hP

theorem ensures_ofExcept {result : Except StoreError α} (hP : P result h) :
    Job.Ensures keys (ofExcept result) h P := hP

theorem ensures_bind
    (hjob : job.Ensures keys h fun r h' =>
      match r with
      | .ok a => (f a).Ensures keys h' Q
      | .error e => Q (.error e) h') :
    (job >>= f).Ensures keys h Q := by
  refine Ensures.bind (hjob.mono fun r h' hr => ?_)
  cases r with
  | ok a => exact hr
  | error e => exact hr

theorem ensures_execute {P : Except StoreError Answer → Holdings → Prop}
    (hcan : ∃ a h', s.Outcome keys h a h') (hP : ∀ a h', s.Outcome keys h a h' → P (.ok a) h') :
    (execute s).Ensures keys h P := ⟨hcan, hP⟩

theorem ensures_announce {items : List Catalog.Item} {P : Except StoreError Unit → Holdings → Prop}
    (hP : P (.ok ()) h) : Job.Ensures keys (ask (.announce items)) h P := hP

/-- The first row of an answer, or an error where there is none. -/
theorem ensures_firstRow {otherwise : StoreError} {P : Except StoreError Sql.Row → Holdings → Prop}
    (hcan : ∃ a h', s.Outcome keys h a h')
    (hP : ∀ a h', s.Outcome keys h a h' →
      match a.rows with
      | row :: _ => P (.ok row) h'
      | [] => P (.error otherwise) h') :
    (firstRow s otherwise).Ensures keys h P := by
  refine ensures_bind (ensures_execute hcan fun a h' houtcome => ?_)
  have hrows := hP a h' houtcome
  rcases a with ⟨_ | ⟨row, rows⟩, affected⟩
  · exact ensures_throw hrows
  · exact ensures_pure hrows

/-- Work in a transaction ends as it would alone if it succeeds, and changes nothing if it fails. -/
theorem ensures_transaction {t : Contents}
    (hjob : job.Ensures keys ⟨t, some t⟩ fun r h' =>
      h'.before = some t ∧
        match r with
        | .ok a => P (.ok a) ⟨h'.tables, none⟩
        | .error e => P (.error e) ⟨t, none⟩) :
    (transaction job).Ensures keys ⟨t, none⟩ P := by
  refine ensures_bind (ensures_execute ⟨⟨[], 0⟩, _, .begin⟩ fun _ h' hbegin => ?_)
  cases hbegin
  refine Ensures.bind (Ensures.mono (P := fun r h' =>
    match r with
    | .ok a => P (.ok a) h'
    | .error e => h'.before = some t ∧ P (.error e) ⟨t, none⟩) ?_ fun r h' hr => ?_)
  · refine ensures_bind (hjob.mono fun r h' hr => ?_)
    obtain ⟨tables, before⟩ := h'
    obtain ⟨rfl, hr⟩ := hr
    cases r with
    | error e => exact ⟨rfl, hr⟩
    | ok a =>
      refine ensures_bind (ensures_execute ⟨⟨[], 0⟩, _, .commit⟩ fun _ h' hcommit => ?_)
      cases hcommit
      exact ensures_pure hr
  · cases r with
    | ok a => exact hr
    | error e =>
      obtain ⟨tables, before⟩ := h'
      obtain ⟨rfl, hP⟩ := hr
      refine ⟨⟨⟨[], 0⟩, _, .rollback⟩, fun _ h' hrollback => ?_⟩
      cases hrollback
      exact hP

end Rules

end OrderDesk.Store.Database
