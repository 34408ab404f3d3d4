import OrderDesk.Proofs.Catalog.Paging
import OrderDesk.Proofs.Orders.Deadline
import OrderDesk.Proofs.Store.Announcements
import OrderDesk.Proofs.World.Isolation

/-!
# The shelf and the places on it

A `Shop` is surroundings with a shelf that takes over every announcement of the store.  Three have
to agree in it: the store has the catalogue, the shelf a copy of it, and each customer an offset
into the copy.  Dispatches move customers along the shelf and never change the catalogue
(`Shop.Valid.cutAfter`); upkeep changes nothing, or makes one change of the catalogue and sends all
customers back to the front (`Shop.upkeep_cases`).  So between one of them and the next the three
agree, however long the shop has been open (`Shop.Open.on_shelf`).
-/

namespace OrderDesk

open Catalog (Change Item Shelf)
open Desk (Deed Move Sources writes)
open Store (Memory)

/-! ## Steps along a shelf -/

namespace Catalog.Shelf

variable {s : Shelf} {offset offset' : UInt64}

theorem followed_iff : Desk.followed s offset ↔ s.hasNext offset = .ok true := by
  unfold Desk.followed
  split
  · rename_i found hfound
    rw [hfound, Except.ok.injEq]
  · rename_i hnone
    rw [hnone]
    exact iff_of_false Bool.false_ne_true nofun

/-- At the places that customers are shown, the question what comes after stops no dispatch. -/
theorem Has.hasNext_eq_followed (h : s.Has offset) (hsize : s.size < UInt64.size) (s' : Shelf) :
    s'.hasNext offset = .ok (Desk.followed s' offset) := by
  rw [Desk.followed, (h.navigable hsize s').hasNext_eq]

theorem has_neighbour {direction : Desk.Direction}
    (h : Desk.neighbourOffset? s offset direction = some offset') : s.Has offset' := by
  cases direction with
  | next =>
    obtain ⟨hfollowed, hplace⟩ := Option.ite_none_right_eq_some.1 h
    obtain ⟨hfits, hin⟩ := hasNext_eq_true_iff.1 (followed_iff.1 hfollowed)
    obtain rfl := Option.some.inj hplace
    exact .inr (toNat_succ hfits ▸ hin)
  | prev =>
    obtain ⟨hprev, hplace⟩ := Option.ite_none_right_eq_some.1 h
    obtain ⟨hpos, hin⟩ := hasPrev_eq_true_iff.1 hprev
    obtain rfl := Option.some.inj hplace
    exact .inr (toNat_pred hpos ▸ Nat.lt_of_le_of_lt (Nat.sub_le _ _) hin)

end Catalog.Shelf

/-! ## Shops -/

/-- What is on the shelf after a call. -/
def Desk.Call.restock (m : Memory) (s : Shelf) : Desk.Call → Shelf
  | store c => match m.announced c with
    | some items => ⟨items⟩
    | none => s
  | _ => s

/-- So the announcement of a change arrives before anything else happens. -/
theorem Desk.Call.restock_change (t : Traffic) (change : Change) :
    (Desk.Call.store change.call).restock t.memory t.shelf =
      ((t.step (.change change)).step (.arrival t.announcements.length)).shelf := by
  simp only [restock, Traffic.step]
  cases t.memory.announced change.call with
  | none => simp
  | some items => simp

/-- Surroundings with a shelf that takes over what the store announces. -/
structure Shop (W : Type) extends Surroundings W where
  shelf : W → Shelf
  shelf_serve : ∀ c w, shelf (serve c w).2 = c.restock (memory w) (shelf w)
  /-- Customers are shown this shelf. -/
  shown : ∀ w, (serve .shelf w).1 = shelf w

/-- A world has such a shelf. -/
def World.shop : Shop World where
  toSurroundings := World.surroundings
  shelf := World.shelf
  shelf_serve c w := by
    cases c with
    | store c =>
      have hannounced := w.memory.serve_announced w.draws.shortId w.drawnShortIds c
      show (match (w.memory.serve w.draws.shortId w.drawnShortIds c).2.announced with
        | some items => (⟨items⟩ : Shelf)
        | none => w.shelf) = _
      rw [hannounced]
      rfl
    | chat c => cases c <;> rfl
    | _ => rfl
  shown _ := rfl

/-! ## Dispatches -/

/-- A call that a dispatch may make announces nothing. -/
theorem Desk.Call.Allowed.restock {call : Desk.Call} {id chat : Int64} (h : call.Allowed id chat)
    (m : Memory) (s : Shelf) : call.restock m s = s := by
  cases call with
  | store c =>
    have hnone : m.announced c = none := by
      cases c with
      | updateCustomer id u => exact m.settle_announced 0 _
      | updateStep id s => exact m.settle_announced 0 _
      | markPaid id shortId => exact m.settle_announced 0 _
      | addItem item => simp [Desk.Call.Allowed, Desk.Call.Private] at h
      | removeItem id => simp [Desk.Call.Allowed, Desk.Call.Private] at h
      | swapRanks up down => simp [Desk.Call.Allowed, Desk.Call.Private] at h
      | _ => rfl
    simp only [Desk.Call.restock, hnone]
  | _ => rfl

/-- A write that leaves the catalogue alone and gives customers only offsets on the shelf. -/
def Store.Call.KeepsTo (s : Shelf) : Store.Call → Prop
  | saveCustomer c => s.Has c.catalogOffset
  | updateCustomer _ u => ∀ offset ∈ u.catalogOffset, s.Has offset
  | saveOrder _ => True
  | markPaid _ _ => True
  | _ => False

namespace Store.Memory

variable {m : Memory} {s : Shelf}

/-- All customers are on the shelf. -/
def AllOn (s : Shelf) (m : Memory) : Prop := ∀ c ∈ m.customers, s.Has c.catalogOffset

theorem AllOn.putCustomer (h : m.AllOn s) {c : Customer} (hc : s.Has c.catalogOffset) :
    (m.putCustomer c).AllOn s := by
  intro x hx
  rcases mem_putCustomer hx with rfl | ⟨hx, -⟩
  · exact hc
  · exact h x hx

theorem AllOn.after (h : m.AllOn s) {call : Call} (hcall : call.KeepsTo s) :
    (m.after call).AllOn s ∧ (m.after call).items = m.items := by
  cases call with
  | saveCustomer c => exact ⟨h.putCustomer hcall, putCustomer_items m c⟩
  | updateCustomer id u =>
    cases hc : m.customer? id with
    | none =>
      rw [after_updateCustomer_of_none hc]
      exact ⟨h, rfl⟩
    | some c =>
      rw [after_updateCustomer hc]
      refine ⟨h.putCustomer ?_, putCustomer_items m _⟩
      cases hoffset : u.catalogOffset with
      | none =>
        simp only [Customer.apply, hoffset, Option.getD_none]
        exact h c (customer?_mem hc)
      | some offset =>
        simp only [Customer.apply, hoffset, Option.getD_some]
        exact hcall offset hoffset
  | saveOrder o => exact ⟨h, rfl⟩
  | markPaid id shortId =>
    refine ⟨fun c hc => h c (after_markPaid_customers (m := m) shortId ▸ hc), ?_⟩
    rw [after_markPaid]
    split <;> rfl
  | _ => exact hcall.elim

theorem AllOn.foldl (h : m.AllOn s) {calls : List Call} (hcalls : ∀ c ∈ calls, c.KeepsTo s) :
    (calls.foldl Memory.after m).AllOn s ∧ (calls.foldl Memory.after m).items = m.items := by
  induction calls generalizing m with
  | nil => exact ⟨h, rfl⟩
  | cons call calls ih =>
    obtain ⟨hfirst, hitems⟩ := h.after (hcalls call List.mem_cons_self)
    obtain ⟨hall, hrest⟩ := ih hfirst fun c hc => hcalls c (List.mem_cons_of_mem call hc)
    exact ⟨hall, hrest.trans hitems⟩

theorem keepsTo_greeting (m : Memory) (s : Shelf) (sender : Chat.Sender) :
    ∀ c ∈ m.greeting sender, c.KeepsTo s := by
  intro c hc
  unfold greeting at hc
  split at hc
  · exact absurd hc List.not_mem_nil
  · rename_i hnone
    obtain rfl := List.mem_singleton.1 hc
    rw [guest, hnone]
    exact s.has_zero

theorem has_guest (h : m.AllOn s) (sender : Chat.Sender) :
    s.Has (m.guest sender).catalogOffset := by
  unfold guest
  cases hc : m.customer? sender.id with
  | none => exact s.has_zero
  | some c => exact h c (customer?_mem hc)

end Store.Memory

/-- Customers are shown this shelf and no other. -/
def Desk.Sources.showing (s : Shelf) : Sources := { Sources.any with shelf := (· = s) }

/-- Every shelf that a customer is shown has the offset. -/
def Desk.Sources.having (offset : UInt64) : Sources :=
  { Sources.any with shelf := fun s => s.clamp offset = offset }

/-- Customers only move along the shelf that they are shown. -/
theorem Desk.Deed.keepsTo {desk : Desk} {s : Shelf} {c : Customer} {q : Desk.Request}
    {ds : List Store.Call} (h : Deed desk (.showing s) c q ds) : ∀ d ∈ ds, d.KeepsTo s := by
  cases h with
  | nothing => exact List.forall_mem_nil _
  | move hmove =>
    refine List.forall_mem_singleton.2 ?_
    cases hmove with
    | look hshelf _ =>
      obtain rfl := hshelf
      rintro _ ⟨⟩
      exact Catalog.Shelf.has_clamp _ _
    | turn _ hshelf hoffset =>
      obtain rfl := hshelf
      rintro _ ⟨⟩
      exact Catalog.Shelf.has_neighbour hoffset
    | _ => exact fun _ hoffset => nomatch hoffset
  | order _ _ =>
    refine List.forall_mem_cons.2 ⟨fun _ hoffset => (nomatch hoffset), ?_⟩
    exact List.forall_mem_singleton.2 trivial
  | pay _ => exact List.forall_mem_singleton.2 trivial

namespace Shop

variable {W : Type} (S : Shop W) {v w : W}

/-- The shelf shows the catalogue, in which no identifier is shared, and every customer's offset is
on the shelf. -/
structure Valid (w : W) : Prop where
  current : (S.shelf w).items = (S.memory w).catalog
  places : (S.memory w).AllOn (S.shelf w)
  distinct : ((S.memory w).items.map (·.id)).Nodup

section Dispatch

variable (desk : Desk) (event : Chat.Event)

/-- A dispatch leaves the shelf alone, wherever it is cut off. -/
theorem shelf_cutAfter (n : Nat) (w : W) :
    S.shelf (S.cutAfter n (desk.dispatch event) w) = S.shelf w := by
  refine Program.runFor_invariant (C := Desk.Call.Allowed event.sender.id event.chat)
    (I := fun v => S.shelf v = S.shelf w) (fun c v hc hv => ?_) _ n rfl
    (S.allowed_dispatch desk event w)
  rw [S.shelf_serve, hc.restock, hv]

theorem run_eq_cutAfter (w : W) :
    (S.run (desk.dispatch event) w).2 =
      S.cutAfter (S.calls (desk.dispatch event) w).length (desk.dispatch event) w :=
  (Program.runFor_length _ w).symm

/-- During a dispatch the shelf stays as it is. -/
theorem met_dispatch_showing (w : W) :
    (desk.dispatch event).run.Met S.serve (Sources.showing (S.shelf w)).Gives w := by
  refine Program.met_of_calls_invariant (C := Desk.Call.Allowed event.sender.id event.chat)
    (I := fun v => S.shelf v = S.shelf w) (fun c v hc hv => ⟨?_, ?_⟩) _ rfl
    (S.allowed_dispatch desk event w)
  · cases c with
    | shelf => exact (S.shown v).trans hv
    | _ => trivial
  · rw [S.shelf_serve, hc.restock, hv]

/-- Everything that a dispatch writes keeps to the shelf. -/
theorem keepsTo_dispatch (w : W) :
    ∀ c ∈ writes (S.calls (desk.dispatch event) w), c.KeepsTo (S.shelf w) := by
  obtain ⟨ds, hwrites, hdeed⟩ := S.writes_dispatch (S.met_dispatch_showing desk event w)
  rw [hwrites]
  refine List.forall_mem_append.2 ⟨Memory.keepsTo_greeting _ _ _, ?_⟩
  rcases hdeed with rfl | ⟨q, -, hdeed⟩
  · exact List.forall_mem_nil _
  · exact hdeed.keepsTo

variable {S}

theorem Valid.cutAfter (h : S.Valid w) (n : Nat) :
    S.Valid (S.cutAfter n (desk.dispatch event) w) := by
  have hshelf := S.shelf_cutAfter desk event n w
  have htaken : ∀ c ∈ writes ((S.calls (desk.dispatch event) w).take n),
      c.KeepsTo (S.shelf w) := fun c hc =>
    S.keepsTo_dispatch desk event w c ((Desk.writes_take_prefix _ n).subset hc)
  obtain ⟨hplaces, hitems⟩ := h.places.foldl htaken
  rw [← S.memory_cutAfter] at hplaces hitems
  refine ⟨?_, ?_, ?_⟩
  · rw [hshelf, h.current, Memory.catalog, Memory.catalog, hitems]
  · rw [hshelf]
    exact hplaces
  · rw [hitems]
    exact h.distinct

theorem Valid.dispatch (h : S.Valid w) : S.Valid (S.run (desk.dispatch event) w).2 := by
  rw [run_eq_cutAfter]
  exact h.cutAfter desk event _

end Dispatch

/-! ## Upkeep -/

/-- Carries out a piece of work on the store. -/
def work {α : Type} (job : Store.Work α) (w : W) : Except StoreError α × W :=
  job.run.run (fun c v => S.serve (.store c) v) w

/-- Two states with the same store and the same shelf. -/
structure Same (v w : W) : Prop where
  memory : S.memory v = S.memory w
  shelf : S.shelf v = S.shelf w

section Work

variable {α β : Type} {job : Store.Work α} {f : α → Store.Work β}

theorem work_bind {a : α} (h : (S.work job w).1 = .ok a) :
    S.work (job >>= f) w = S.work (f a) (S.work job w).2 := by
  rw [work] at h
  rw [work, Program.run_run_bind, h]
  rfl

theorem work_bind_of_error {e : StoreError} (h : (S.work job w).1 = .error e) :
    S.work (job >>= f) w = (.error e, (S.work job w).2) := by
  rw [work] at h
  rw [work, Program.run_run_bind, h]
  rfl

end Work

theorem Same.trans {u : W} (h : S.Same u v) (h' : S.Same v w) : S.Same u w :=
  ⟨h.memory.trans h'.memory, h.shelf.trans h'.shelf⟩

/-- The rank of an item, as the store gives it. -/
theorem work_rankOf (id : Uuid) (w : W) :
    (S.work (Store.perform (.rankOf id)) w).1 = (S.memory w).rankOf id ∧
      S.Same (S.work (Store.perform (.rankOf id)) w).2 w := by
  obtain ⟨next, drawn, hreply⟩ := S.reply (.rankOf id) w
  exact ⟨hreply, S.memory_serve _ w, S.shelf_serve _ w⟩

theorem work_idAt (rank : UInt32) (w : W) :
    (S.work (Store.perform (.idAt rank)) w).1 = (S.memory w).idAt rank ∧
      S.Same (S.work (Store.perform (.idAt rank)) w).2 w := by
  obtain ⟨next, drawn, hreply⟩ := S.reply (.idAt rank) w
  exact ⟨hreply, S.memory_serve _ w, S.shelf_serve _ w⟩

theorem work_neighbour? (rank : UInt32) (w : W) :
    S.Same (S.work (Catalog.Manager.neighbour? rank) w).2 w ∧
      ∀ id, (S.work (Catalog.Manager.neighbour? rank) w).1 = .ok (some id) →
        (S.memory w).idAt rank = .ok id := by
  obtain ⟨hreply, hsame⟩ := S.work_idAt rank w
  have hcall : (Program.call (Store.Call.idAt rank)).run (fun c v => S.serve (.store c) v) w =
      S.work (Store.perform (.idAt rank)) w := rfl
  simp only [work, Catalog.Manager.neighbour?, ExceptT.run_mk, Program.bind_eq, Program.run_bind]
  rw [hcall, hreply]
  cases (S.memory w).idAt rank with
  | ok id =>
    refine ⟨hsame, fun id' h => ?_⟩
    cases h
    rfl
  | error e =>
    cases e with
    | itemNotFound what => exact ⟨hsame, fun _ h => nomatch h⟩
    | _ => exact ⟨hsame, fun _ h => nomatch h⟩

/-- A change that is made and announced, after which everybody is back at the front. -/
structure Made (change : Change) (w : W) (r : Except StoreError Unit × W) : Prop where
  result : r.1 = .ok ()
  announced : (S.memory w).announced change.call ≠ none
  memory : S.memory r.2 = ((S.memory w).after change.call).resetOffsets
  shelf : S.shelf r.2 = ⟨((S.memory w).after change.call).catalog⟩

/-- A change and the way back to the front. -/
def changing (change : Change) : Store.Work Unit := do
  let _ ← Store.perform change.call
  Store.perform .resetOffsets

theorem work_changing (change : Change) (w : W) :
    (∃ e, (S.memory w).announced change.call = none ∧
        (S.work (changing change) w).1 = .error e ∧ S.Same (S.work (changing change) w).2 w) ∨
      S.Made change w (S.work (changing change) w) := by
  obtain ⟨next, drawn, hreply⟩ := S.reply change.call w
  have hmemory : S.memory (S.serve (.store change.call) w).2 = (S.memory w).after change.call :=
    S.memory_serve _ w
  rcases (S.memory w).serve_change change with
    ⟨x, hok, hannounced⟩ | ⟨e, herror, hsame, hannounced⟩
  · have hresult : (S.work (Store.perform change.call) w).1 = .ok x := hreply.trans (hok next drawn)
    obtain ⟨next', drawn', hreset⟩ := S.reply .resetOffsets (S.serve (.store change.call) w).2
    have hshelf : S.shelf (S.serve (.store change.call) w).2 =
        ⟨((S.memory w).after change.call).catalog⟩ := by
      rw [S.shelf_serve, Desk.Call.restock, hannounced]
    rw [changing, S.work_bind hresult]
    refine .inr ⟨hreset, hannounced ▸ Option.some_ne_none _, ?_, ?_⟩
    · rw [← hmemory]
      exact S.memory_serve _ _
    · rw [← hshelf]
      exact S.shelf_serve _ _
  · have hresult : (S.work (Store.perform change.call) w).1 = .error e :=
      hreply.trans (herror next drawn)
    have hshelf : S.shelf (S.serve (.store change.call) w).2 = S.shelf w := by
      rw [S.shelf_serve, Desk.Call.restock, hannounced]
    rw [changing, S.work_bind_of_error hresult]
    exact .inl ⟨e, hannounced, rfl, hmemory.trans hsame, hshelf⟩

/-- Upkeep that leaves all as it is, or makes one change that shows in the catalogue. -/
def Kept (u : Upkeep) (w : W) : Prop :=
  S.Same (S.work u.job w).2 w ∨
    ∃ change : Change, S.Made change w (S.work u.job w) ∧
      ((S.memory w).after change.call).catalog ≠ (S.memory w).catalog ∧
      ∀ item, change = .add item → u = .add item

theorem kept_add (item : Item) (w : W) : S.Kept (.add item) w := by
  have hjob : (Upkeep.add item).job = changing (.add item) := by
    simp only [Upkeep.job, Catalog.Manager.add, changing, Change.call, bind_assoc, pure_bind]
    exact congrArg _ (funext fun _ => bind_pure_unit)
  rcases S.work_changing (.add item) w with ⟨e, hnone, -⟩ | hmade
  · cases hnone
  · refine .inr ⟨.add item, hjob ▸ hmade, Memory.catalog_addItem_ne _ item, ?_⟩
    rintro _ ⟨⟩
    rfl

theorem kept_remove (id : Uuid) (w : W) : S.Kept (.remove id) w := by
  rcases S.work_changing (.remove id) w with ⟨e, -, -, hsame⟩ | hmade
  · exact .inl hsame
  · exact .inr ⟨.remove id, hmade, Memory.catalog_removeItem_ne hmade.announced,
      fun _ h => nomatch h⟩

/-- Upkeep goes on with the reply to a question, or nothing follows. -/
theorem kept_of_question {u : Upkeep} {α : Type} {job : Store.Work α} {f : α → Store.Work Unit}
    (hjob : S.work u.job w = S.work (job >>= f) v) (hv : S.Same v w)
    (hask : S.Same (S.work job v).2 v)
    (hf : ∀ a v', (S.work job v).1 = .ok a → S.Same v' w → S.work u.job w = S.work (f a) v' →
      S.Kept u w) : S.Kept u w := by
  have hafter : S.Same (S.work job v).2 w := hask.trans S hv
  cases hreply : (S.work job v).1 with
  | error e =>
    refine .inl ?_
    rw [hjob, S.work_bind_of_error hreply]
    exact hafter
  | ok a => exact hf a _ hreply hafter (hjob.trans (S.work_bind hreply))

/-- Upkeep that comes to the exchange of two ranks. -/
theorem kept_of_swap {u : Upkeep} (hids : ((S.memory w).items.map (·.id)).Nodup) (hv : S.Same v w)
    {a b : Item} (ha : a ∈ (S.memory w).items) (hb : b ∈ (S.memory w).items) (hne : a.rank ≠ b.rank)
    (hjob : S.work u.job w = S.work (changing (.swap a.id b.id)) v) : S.Kept u w := by
  unfold Kept
  rw [hjob]
  rcases S.work_changing (.swap a.id b.id) v with ⟨e, -, -, hsame⟩ | hmade
  · exact .inl (hsame.trans S hv)
  · obtain ⟨hresult, hannounced, hmemory, hshelf⟩ := hmade
    rw [hv.memory] at hannounced hmemory hshelf
    exact .inr ⟨_, ⟨hresult, hannounced, hmemory, hshelf⟩,
      Memory.catalog_swapRanks_ne hids ha hb hne, fun _ h => nomatch h⟩

theorem kept_moveUp (hids : ((S.memory w).items.map (·.id)).Nodup) (id : Uuid) :
    S.Kept (.moveUp id) w := by
  obtain ⟨hrank, hfirst⟩ := S.work_rankOf id w
  refine S.kept_of_question (u := .moveUp id) rfl ⟨rfl, rfl⟩ hfirst fun rank v hr hv hjob => ?_
  by_cases hzero : rank = 0
  · refine .inl ?_
    rw [hjob, if_pos hzero]
    exact hv
  · rw [if_neg hzero] at hjob
    obtain ⟨hid, hsecond⟩ := S.work_idAt (rank - 1) v
    refine S.kept_of_question hjob hv hsecond fun neighbour v' hn hv' hjob => ?_
    rw [hid, hv.memory] at hn
    obtain ⟨a, ha, rfl, rfl⟩ := Memory.mem_of_rankOf (hrank.symm.trans hr)
    obtain ⟨b, hb, rfl, hbelow⟩ := Memory.mem_of_idAt hn
    have hne : a.rank ≠ b.rank := by
      rw [hbelow]
      grind
    exact S.kept_of_swap hids hv' ha hb hne hjob

theorem kept_moveDown (hids : ((S.memory w).items.map (·.id)).Nodup) (id : Uuid) :
    S.Kept (.moveDown id) w := by
  obtain ⟨hrank, hfirst⟩ := S.work_rankOf id w
  refine S.kept_of_question (u := .moveDown id) rfl ⟨rfl, rfl⟩ hfirst fun rank v hr hv hjob => ?_
  obtain ⟨hsecond, hid⟩ := S.work_neighbour? (rank + 1) v
  refine S.kept_of_question hjob hv hsecond fun neighbour? v' hn hv' hjob => ?_
  cases neighbour? with
  | none =>
    refine .inl ?_
    rw [hjob]
    exact hv'
  | some neighbour =>
    have hn := hid neighbour hn
    rw [hv.memory] at hn
    obtain ⟨a, ha, rfl, rfl⟩ := Memory.mem_of_rankOf (hrank.symm.trans hr)
    obtain ⟨b, hb, rfl, habove⟩ := Memory.mem_of_idAt hn
    have hne : b.rank ≠ a.rank := by
      rw [habove]
      simp
    exact S.kept_of_swap hids hv' hb ha hne hjob

theorem upkeep_cases (hids : ((S.memory w).items.map (·.id)).Nodup) (u : Upkeep) : S.Kept u w := by
  cases u with
  | add item => exact S.kept_add item w
  | remove id => exact S.kept_remove id w
  | moveUp id => exact S.kept_moveUp hids id
  | moveDown id => exact S.kept_moveDown hids id

end Shop

/-- Nothing is added under an identifier that the catalogue has. -/
def Upkeep.Fresh (m : Memory) : Upkeep → Prop
  | add item => (Change.add item).Fresh m
  | _ => True

instance (m : Memory) : (u : Upkeep) → Decidable (u.Fresh m)
  | .add item => inferInstanceAs (Decidable ((Change.add item).Fresh m))
  | .remove _ => .isTrue trivial
  | .moveUp _ => .isTrue trivial
  | .moveDown _ => .isTrue trivial

namespace Shop

variable {W : Type} {S : Shop W} {v w : W}

theorem Valid.upkeep (h : S.Valid w) {u : Upkeep} (hu : u.Fresh (S.memory w)) :
    S.Valid (S.work u.job w).2 := by
  rcases S.upkeep_cases h.distinct u with hsame | ⟨change, hmade, -, hadd⟩
  · exact ⟨by rw [hsame.shelf, hsame.memory, h.current],
      by rw [hsame.shelf, hsame.memory]; exact h.places, by rw [hsame.memory]; exact h.distinct⟩
  · have hfresh : change.Fresh (S.memory w) := by
      cases change with
      | add item =>
        obtain rfl := hadd item rfl
        exact hu
      | _ => trivial
    refine ⟨?_, ?_, ?_⟩
    · rw [hmade.shelf, hmade.memory]
      rfl
    · rw [hmade.memory]
      intro c hc
      obtain ⟨old, -, rfl⟩ := List.mem_map.1 hc
      exact Catalog.Shelf.has_zero _
    · rw [hmade.memory]
      exact Memory.nodup_after h.distinct hfresh

/-! ## All the time the shop is open -/

/-- A shop that opened with nothing in store and on the shelf. -/
inductive Open (S : Shop W) (desk : Desk) : W → Prop where
  | opening {w : W} (hmemory : S.memory w = .empty) (hshelf : S.shelf w = .empty) : Open S desk w
  | dispatch {w : W} (event : Chat.Event) (h : Open S desk w) :
    Open S desk (S.run (desk.dispatch event) w).2
  /-- A dispatch is cut off. -/
  | cut {w : W} (event : Chat.Event) (n : Nat) (h : Open S desk w) :
    Open S desk (S.cutAfter n (desk.dispatch event) w)
  | upkeep {w : W} (u : Upkeep) (hu : u.Fresh (S.memory w)) (h : Open S desk w) :
    Open S desk (S.work u.job w).2
  /-- Something happens that has nothing to do with the catalogue and the customers. -/
  | meanwhile {v w : W} (h : Open S desk w) (hv : S.Same v w) : Open S desk v

theorem Valid.of_same (h : S.Valid w) (hv : S.Same v w) : S.Valid v := by
  refine ⟨?_, ?_, ?_⟩
  · rw [hv.shelf, hv.memory]
    exact h.current
  · rw [hv.shelf, hv.memory]
    exact h.places
  · rw [hv.memory]
    exact h.distinct

theorem Open.valid {desk : Desk} (h : S.Open desk w) : S.Valid w := by
  induction h with
  | opening hmemory hshelf =>
    refine ⟨?_, ?_, ?_⟩
    · simp [hmemory, hshelf, Shelf.empty, Memory.empty, Memory.catalog, Catalog.sorted]
    · rw [hmemory]
      exact List.forall_mem_nil _
    · rw [hmemory]
      exact List.nodup_nil
  | dispatch event _ ih => exact ih.dispatch desk event
  | cut event n _ ih => exact ih.cutAfter desk event n
  | upkeep u hu _ ih => exact ih.upkeep hu
  | meanwhile _ hv ih => exact ih.of_same hv

theorem Valid.met_dispatch (h : S.Valid w) (desk : Desk) (event : Chat.Event) :
    (desk.dispatch event).run.Met S.serve
      (Sources.having ((S.memory w).guest event.sender).catalogOffset).Gives w := by
  refine (S.met_dispatch_showing desk event w).mono fun c r hr => ?_
  cases c with
  | shelf =>
    obtain rfl : r = S.shelf w := hr
    exact Catalog.Shelf.clamp_eq_self (Memory.has_guest h.places event.sender)
  | _ => trivial

/-- As long as the shop is open the shelf shows the catalogue and every customer's offset is on the
shelf.  Upkeep that changes the catalogue sends everybody back to the front; upkeep that gets an
error, or after which the catalogue is the same, leaves store and shelf as they were.  So whenever a
dispatch looks at the shelf, clamping the sender's offset to it changes nothing. -/
theorem Open.on_shelf {desk : Desk} (h : S.Open desk w) :
    (S.shelf w).items = (S.memory w).catalog ∧
    (∀ c ∈ (S.memory w).customers,
      c.catalogOffset = 0 ∨ c.catalogOffset.toNat < (S.shelf w).size) ∧
    (∀ u : Upkeep,
      ((S.memory (S.work u.job w).2).catalog ≠ (S.memory w).catalog →
        ∀ c ∈ (S.memory (S.work u.job w).2).customers, c.catalogOffset = 0) ∧
      ((∃ e, (S.work u.job w).1 = .error e) ∨
          (S.memory (S.work u.job w).2).catalog = (S.memory w).catalog →
        S.memory (S.work u.job w).2 = S.memory w ∧ S.shelf (S.work u.job w).2 = S.shelf w)) ∧
    ∀ event : Chat.Event, (desk.dispatch event).run.Met S.serve
      (Sources.having ((S.memory w).guest event.sender).catalogOffset).Gives w := by
  have hvalid := h.valid
  refine ⟨hvalid.current, hvalid.places, fun u => ?_, hvalid.met_dispatch desk⟩
  rcases S.upkeep_cases hvalid.distinct u with hsame | ⟨change, hmade, hne, -⟩
  · refine ⟨fun hchanged => ?_, fun _ => ⟨hsame.memory, hsame.shelf⟩⟩
    rw [hsame.memory] at hchanged
    exact absurd rfl hchanged
  · refine ⟨fun _ c hc => ?_, ?_⟩
    · rw [hmade.memory] at hc
      obtain ⟨old, -, rfl⟩ := List.mem_map.1 hc
      rfl
    · rintro (⟨e, herror⟩ | hunchanged)
      · rw [hmade.result] at herror
        cases herror
      · rw [hmade.memory] at hunchanged
        exact absurd hunchanged hne

/-- A customer is at the second of two items when that item is taken out. -/
theorem back_at_front :
    let stocked := Purchase.opening.after Desk.bare
      [.upkeep (.add (.fresh ⟨1⟩ "Coat" [])), .upkeep (.add (.fresh ⟨2⟩ "Bag" [])),
        .event (Purchase.presses "1201")]
    let cleared := stocked.happen Desk.bare (.upkeep (.remove ⟨2⟩))
    stocked.memory.customers.map (·.catalogOffset) = [1] ∧
      stocked.shelf.items = stocked.memory.catalog ∧
      cleared.memory.catalog ≠ stocked.memory.catalog ∧
      ∀ c ∈ cleared.memory.customers, c.catalogOffset = 0 := by
  intro stocked cleared
  have hopen : World.shop.Open Desk.bare stocked := by
    refine .dispatch (Purchase.presses "1201") ?_
    refine .upkeep (.add (.fresh ⟨2⟩ "Bag" [])) (by decide +kernel) ?_
    refine .upkeep (.add (.fresh ⟨1⟩ "Coat" [])) (by decide +kernel) ?_
    exact .opening rfl rfl
  obtain ⟨hstocked, hid⟩ : stocked.memory.customers.map (·.catalogOffset) = [1] ∧
      stocked.memory.items.findIdx? (·.id == ⟨2⟩) = some 1 := by
    -- sorting stops the kernel, so what is put on the shelf is sorted beforehand
    let items : List Item := [.fresh ⟨1⟩ "Coat" [], { Item.fresh ⟨2⟩ "Bag" [] with rank := 1 }]
    have hsorted : Catalog.sorted items = items := by decide_cbv
    have hfilled : stocked = World.happen Desk.bare
        { Purchase.opening with memory := ⟨[], items, []⟩, shelf := ⟨Catalog.sorted items⟩ }
        (.event (Purchase.presses "1201")) := rfl
    rw [hfilled, hsorted]
    decide +kernel
  obtain ⟨hcurrent, -, hupkeep, -⟩ := hopen.on_shelf
  have hchanged : cleared.memory.catalog ≠ stocked.memory.catalog := by
    have hannounced : stocked.memory.announced (.removeItem ⟨2⟩) ≠ none := by
      simp only [Memory.announced, Memory.serve, Memory.removeItem, hid, Memory.announce, ne_eq,
        reduceCtorEq, not_false_eq_true]
    rcases World.shop.work_changing (.remove ⟨2⟩) stocked with ⟨e, hnone, -⟩ | hmade
    · exact absurd hnone hannounced
    · have hmemory : cleared.memory = (stocked.memory.after (.removeItem ⟨2⟩)).resetOffsets :=
        hmade.memory
      rw [hmemory]
      exact Memory.catalog_removeItem_ne hannounced
  exact ⟨hstocked, hcurrent, hchanged, (hupkeep (.remove ⟨2⟩)).1 hchanged⟩

end Shop

end OrderDesk
