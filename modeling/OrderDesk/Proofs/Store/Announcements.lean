import OrderDesk.Proofs.Store.Catalog

/-!
# Announcements of the catalogue

A change of the catalogue is made and announced, or it gets an error (`serve_change`).  As long as
the shelf takes over each announcement before the next change is made, it shows the catalogue.

Changes that are made at the same time are less orderly.  The catalogue that is announced is copied
when the change is made, but the announcement arrives at the shelf later, and nothing holds the
announcements in the order of the changes.  `Traffic` is a store and a shelf with the announcements
made so far; changes and arrivals follow one another in any order in which no announcement arrives
before it is made.  When all have arrived, the shelf shows whichever of them came last, and that can
be any of them (`Traffic.settled_iff`).
-/

namespace OrderDesk

open Catalog (Change Item Shelf)

namespace Store.Memory

variable {m : Memory}

/-- The catalogue that a call announces. -/
def announced (m : Memory) (c : Call) : Option (List Item) :=
  (m.serve (fun _ => "") 0 c).2.announced

theorem settle_announced (m : Memory) (drawn : Nat) (result : Except StoreError Memory) :
    (m.settle drawn result).2.announced = none := by
  cases result <;> rfl

theorem announce_announced (m : Memory) (drawn drawn' : Nat) (result : Except StoreError Memory) :
    (m.announce drawn result).2.announced = (m.announce drawn' result).2.announced := by
  cases result <;> rfl

theorem serve_announced (m : Memory) (next : Nat → String) (drawn : Nat) (c : Call) :
    (m.serve next drawn c).2.announced = m.announced c := by
  cases c with
  | updateCustomer id u => simp only [announced, serve, settle_announced]
  | updateStep id s => simp only [announced, serve, settle_announced]
  | markPaid id shortId => simp only [announced, serve, settle_announced]
  | removeItem id => exact announce_announced m drawn 0 _
  | swapRanks up down => exact announce_announced m drawn 0 _
  | _ => rfl

/-- A change is made and announced, or it gets an error and leaves all as it was. -/
theorem serve_change (m : Memory) (change : Change) :
    (∃ v, (∀ next drawn, (m.serve next drawn change.call).1 = .ok v) ∧
        m.announced change.call = some (m.after change.call).catalog) ∨
      ∃ e, (∀ next drawn, (m.serve next drawn change.call).1 = .error e) ∧
        m.after change.call = m ∧ m.announced change.call = none := by
  cases change with
  | add item => exact .inl ⟨_, fun _ _ => rfl, rfl⟩
  | remove id =>
    rcases removeItem_cases m id with ⟨-, hfail⟩ | ⟨i, -, hremoved⟩
    · refine .inr ⟨.noItem id, ?_⟩
      simp only [after, announced, serve, Change.call, hfail, announce, implies_true, and_self]
    · refine .inl ⟨(), ?_⟩
      simp only [after, announced, serve, Change.call, hremoved, announce, implies_true, and_self]
  | swap up down =>
    rcases swapRanks_cases m up down with ⟨-, hfail⟩ | ⟨-, -, hfail⟩ |
      ⟨i, j, hi, hj, -, -, hswapped⟩
    · refine .inr ⟨.noItem up, ?_⟩
      simp only [after, announced, serve, Change.call, hfail, announce, implies_true, and_self]
    · refine .inr ⟨.noItem down, ?_⟩
      simp only [after, announced, serve, Change.call, hfail, announce, implies_true, and_self]
    · refine .inl ⟨(), ?_⟩
      simp only [after, announced, serve, Change.call, hswapped, announce, implies_true, and_self]

theorem mem_of_rankOf {id : Uuid} {rank : UInt32} (h : m.rankOf id = .ok rank) :
    ∃ x ∈ m.items, x.id = id ∧ x.rank = rank := by
  unfold rankOf at h
  split at h
  · rename_i x hx
    refine ⟨x, List.mem_of_find?_eq_some hx, ?_, Except.ok.inj h⟩
    simpa using List.find?_some hx
  · cases h

theorem mem_of_idAt {id : Uuid} {rank : UInt32} (h : m.idAt rank = .ok id) :
    ∃ x ∈ m.items, x.id = id ∧ x.rank = rank := by
  unfold idAt at h
  split at h
  · rename_i x hx
    refine ⟨x, List.mem_of_find?_eq_some hx, Except.ok.inj h, ?_⟩
    simpa using List.find?_some hx
  · cases h

/-! ## Changes that show -/

/-- No identifier becomes shared by a change that does not add one again. -/
theorem nodup_after (h : (m.items.map (·.id)).Nodup) {change : Change} (hfresh : change.Fresh m) :
    ((m.after change.call).items.map (·.id)).Nodup := by
  cases change with
  | add item => exact nodup_addItem h hfresh
  | remove id =>
    rcases removeItem_cases m id with ⟨-, hfail⟩ | ⟨i, -, hremoved⟩
    · simpa only [after, serve, Change.call, hfail, announce] using h
    · simp only [after, serve, Change.call, hremoved, announce]
      exact Catalog.nodup_ids_renumber h i
  | swap up down =>
    rcases swapRanks_cases m up down with ⟨-, hfail⟩ | ⟨-, -, hfail⟩ |
      ⟨i, j, hi, hj, -, -, hswapped⟩
    · simpa only [after, serve, Change.call, hfail, announce] using h
    · simpa only [after, serve, Change.call, hfail, announce] using h
    · simp only [after, serve, Change.call, hswapped, announce]
      exact Catalog.nodup_ids_withRanksExchanged h

theorem catalog_addItem_ne (m : Memory) (item : Item) :
    (m.after (.addItem item)).catalog ≠ m.catalog := by
  intro hsame
  have hlength := congrArg List.length hsame
  rw [catalog_length, catalog_length] at hlength
  simp [after, serve, addItem] at hlength

/-- The catalogue is another one after an item was taken out. -/
theorem catalog_removeItem_ne {id : Uuid} (h : m.announced (.removeItem id) ≠ none) :
    (m.after (.removeItem id)).catalog ≠ m.catalog := by
  rcases removeItem_cases m id with ⟨-, hfail⟩ | ⟨i, hi, hremoved⟩
  · simp only [announced, serve, hfail, announce, ne_eq, not_true_eq_false] at h
  · intro hsame
    obtain ⟨hlt, -⟩ := Catalog.findIdx?_id hi
    have hlength := congrArg List.length hsame
    rw [catalog_length, catalog_length] at hlength
    simp only [after, serve, hremoved, announce, Catalog.renumber, Catalog.numberFrom_length,
      (Catalog.sorted_perm _).length_eq, List.length_eraseIdx_of_lt hlt] at hlength
    omega

/-- The catalogue is another one after two items of different ranks exchanged them. -/
theorem catalog_swapRanks_ne (h : (m.items.map (·.id)).Nodup) {a b : Item} (ha : a ∈ m.items)
    (hb : b ∈ m.items) (hne : a.rank ≠ b.rank) :
    (m.after (.swapRanks a.id b.id)).catalog ≠ m.catalog := by
  have hany : ∀ x ∈ m.items, m.items.any (·.id == x.id) = true := fun x hx =>
    List.any_eq_true.2 ⟨x, hx, beq_self_eq_true _⟩
  rcases swapRanks_cases m a.id b.id with ⟨hup, -⟩ | ⟨-, hdown, -⟩ |
    ⟨i, j, hi, hj, hia, hjb, hswapped⟩
  · rw [hany a ha] at hup
    cases hup
  · rw [hany b hb] at hdown
    cases hdown
  · obtain rfl : m.items[i] = a := List.inj_on_of_nodup_map h (List.getElem_mem hi) ha hia
    obtain rfl : m.items[j] = b := List.inj_on_of_nodup_map h (List.getElem_mem hj) hb hjb
    intro hsame
    -- the first item is in the new catalogue under the other rank, so it would be in the old one
    have hij : j ≠ i := by
      rintro rfl
      exact hne rfl
    have hmoved : { m.items[i] with rank := m.items[j].rank } ∈
        Catalog.withRanksExchanged m.items i j hi hj := by
      refine List.mem_of_getElem? (i := i) ?_
      simp [Catalog.withRanksExchanged, setRank, hij, hi]
    have hcatalog : catalog { m with items := Catalog.withRanksExchanged m.items i j hi hj } =
        m.catalog := by
      simpa only [after, serve, hswapped, announce] using hsame
    have hold : { m.items[i] with rank := m.items[j].rank } ∈ m.items := by
      rw [← (Catalog.sorted_perm m.items).mem_iff]
      show _ ∈ m.catalog
      rw [← hcatalog]
      exact (Catalog.sorted_perm _).mem_iff.2 hmoved
    have heq := List.inj_on_of_nodup_map h hold (List.getElem_mem hi) rfl
    exact hne (congrArg Item.rank heq).symm

end Store.Memory

/-! ## Changes at the same time -/

open Store (Memory)

/-- What happens to a store and a shelf while changes are under way. -/
inductive Moment where
  /-- A change is made, or gets an error. -/
  | change (c : Change)
  /-- An announcement arrives; they are numbered from 0 in the order in which they were made. -/
  | arrival (n : Nat)

/-- A store and a shelf with the announcements between them. -/
structure Traffic where
  memory : Memory
  shelf : Shelf
  /-- The announcements made so far, oldest first. -/
  announcements : List (List Item)
  /-- The numbers of those that have arrived, in the order of their arrival. -/
  arrived : List Nat

namespace Traffic

/-- Nothing is under way, and the shelf shows the catalogue. -/
def start (m : Memory) : Traffic := ⟨m, ⟨m.catalog⟩, [], []⟩

def step (t : Traffic) : Moment → Traffic
  | .change c =>
    { t with
      memory := t.memory.after c.call
      announcements := t.announcements ++ (t.memory.announced c.call).toList }
  | .arrival n =>
    { t with shelf := ⟨t.announcements.getD n t.shelf.items⟩, arrived := t.arrived ++ [n] }

def after (t : Traffic) (moments : List Moment) : Traffic := moments.foldl step t

/-- An announcement arrives after it was made, and once. -/
def Allows (t : Traffic) : Moment → Prop
  | .change _ => True
  | .arrival n => n < t.announcements.length ∧ n ∉ t.arrived

/-- Each moment is allowed when it comes. -/
def Possible (t : Traffic) : List Moment → Prop
  | [] => True
  | moment :: moments => t.Allows moment ∧ (t.step moment).Possible moments

/-- Every announcement has arrived. -/
def Settled (t : Traffic) : Prop := ∀ n < t.announcements.length, n ∈ t.arrived

variable {m : Memory} {t : Traffic} {moment : Moment} {moments : List Moment}

/-! ### What is shown -/

/-- The catalogue is the one that was announced last, the shelf the one that arrived last. -/
structure Orderly (m : Memory) (t : Traffic) : Prop where
  memory : t.memory.catalog = t.announcements.getLast?.getD m.catalog
  shelf : t.shelf.items = (t.arrived.getLast?.bind (t.announcements[·]?)).getD m.catalog
  arrived : ∀ n ∈ t.arrived, n < t.announcements.length

theorem orderly_start (m : Memory) : (start m).Orderly m where
  memory := rfl
  shelf := rfl
  arrived := List.forall_mem_nil _

theorem Orderly.step (h : t.Orderly m) (hmoment : t.Allows moment) : (t.step moment).Orderly m := by
  cases moment with
  | change c =>
    rcases t.memory.serve_change c with ⟨-, -, hannounced⟩ | ⟨-, -, hsame, hannounced⟩
    · -- one announcement more; those that arrived keep their numbers
      have hkept : ∀ n ∈ t.arrived, (t.announcements ++
          [(t.memory.after c.call).catalog])[n]? = t.announcements[n]? := fun n hn =>
        List.getElem?_append_left (h.arrived n hn)
      simp only [Traffic.step, hannounced, Option.toList_some]
      refine ⟨by simp, ?_, fun n hn => ?_⟩
      · rw [h.shelf]
        congr 1
        refine Option.bind_congr fun n hn => ?_
        exact (hkept n (List.mem_of_getLast? hn)).symm
      · have hlt := h.arrived n hn
        simp only [List.length_append]
        omega
    · simp only [Traffic.step, hsame, hannounced, Option.toList_none, List.append_nil]
      exact h
  | arrival n =>
    obtain ⟨hn, -⟩ := hmoment
    refine ⟨h.memory, ?_, fun k hk => ?_⟩
    · simp [Traffic.step, hn]
    · rcases List.mem_append.1 hk with hk | hk
      · exact h.arrived k hk
      · obtain rfl := List.mem_singleton.1 hk
        exact hn

theorem Orderly.after (h : t.Orderly m) (hmoments : t.Possible moments) :
    (t.after moments).Orderly m := by
  induction moments generalizing t with
  | nil => exact h
  | cons moment moments ih => exact ih (h.step hmoments.1) hmoments.2

/-- When all announcements have arrived, the shelf shows the catalogue exactly if the last one to
arrive announced the same as the last one that was made. -/
theorem Orderly.current_iff (h : t.Orderly m) (hall : t.Settled) :
    t.shelf.items = t.memory.catalog ↔
      ∀ n ∈ t.arrived.getLast?, t.announcements[n]? = t.announcements.getLast? := by
  rw [h.shelf, h.memory]
  cases hlast : t.arrived.getLast? with
  | none =>
    have hnone : t.announcements = [] := by
      by_contra hne
      have hmem := hall 0 (List.length_pos_iff.2 hne)
      rw [List.getLast?_eq_none_iff.1 hlast] at hmem
      exact List.not_mem_nil hmem
    simp [hnone]
  | some n =>
    have hn : n < t.announcements.length := h.arrived n (List.mem_of_getLast? hlast)
    have hne : t.announcements ≠ [] := List.ne_nil_of_length_pos (Nat.zero_lt_of_lt hn)
    simp [List.getLast?_eq_some_getLast hne, hn]

/-! ### Any order of arrival -/

theorem after_append (t : Traffic) (before later : List Moment) :
    t.after (before ++ later) = (t.after before).after later := List.foldl_append

theorem possible_append (before later : List Moment) :
    t.Possible (before ++ later) ↔ t.Possible before ∧ (t.after before).Possible later := by
  induction before generalizing t with
  | nil => simp [Possible, after]
  | cons moment before ih =>
    simp only [List.cons_append, Possible, ih, and_assoc, after, List.foldl_cons]

theorem possible_changes (t : Traffic) (changes : List Change) :
    t.Possible (changes.map .change) := by
  induction changes generalizing t with
  | nil => trivial
  | cons c changes ih => exact ⟨trivial, ih _⟩

theorem arrived_changes (t : Traffic) (changes : List Change) :
    (t.after (changes.map .change)).arrived = t.arrived := by
  induction changes generalizing t with
  | nil => rfl
  | cons c changes ih => exact ih _

theorem after_arrivals (t : Traffic) (ns : List Nat) :
    (t.after (ns.map .arrival)).memory = t.memory ∧
      (t.after (ns.map .arrival)).announcements = t.announcements ∧
      (t.after (ns.map .arrival)).arrived = t.arrived ++ ns := by
  induction ns generalizing t with
  | nil => simp [after]
  | cons n ns ih =>
    obtain ⟨hmemory, hannouncements, harrived⟩ := ih (t.step (.arrival n))
    refine ⟨hmemory, hannouncements, harrived.trans ?_⟩
    simp [step]

/-- Announcements can arrive in any order. -/
theorem possible_arrivals {ns : List Nat} (hmade : ∀ n ∈ ns, n < t.announcements.length)
    (hnew : ∀ n ∈ ns, n ∉ t.arrived) (honce : ns.Nodup) : t.Possible (ns.map .arrival) := by
  induction ns generalizing t with
  | nil => trivial
  | cons n ns ih =>
    obtain ⟨hn, hns⟩ := List.nodup_cons.1 honce
    refine ⟨⟨hmade n List.mem_cons_self, hnew n List.mem_cons_self⟩, ih ?_ ?_ hns⟩
    · exact fun k hk => hmade k (List.mem_cons_of_mem n hk)
    · intro k hk hmem
      rcases List.mem_append.1 hmem with hold | hsame
      · exact hnew k (List.mem_cons_of_mem n hk) hold
      · obtain rfl := List.mem_singleton.1 hsame
        exact hn hk

/-- All changes are made before their announcements arrive in some order. -/
def late (changes : List Change) (order : List Nat) : List Moment :=
  changes.map .change ++ order.map .arrival

/-- Whichever announcement is left to the end is the one that is shown. -/
theorem exists_order (m : Memory) (changes : List Change) {n : Nat}
    (hn : n < ((start m).after (changes.map .change)).announcements.length) :
    ∃ order, (start m).Possible (late changes order) ∧
      ((start m).after (late changes order)).Settled ∧
      ((start m).after (late changes order)).announcements[n]? =
        some ((start m).after (late changes order)).shelf.items := by
  let made := (start m).after (changes.map .change)
  let ns := (List.range made.announcements.length).filter (· ≠ n) ++ [n]
  have hmem : ∀ k, k ∈ ns ↔ k < made.announcements.length := by
    intro k
    simp only [ns, List.mem_append, List.mem_filter, List.mem_range, decide_eq_true_eq,
      List.mem_singleton]
    constructor
    · rintro (⟨hk, -⟩ | rfl)
      · exact hk
      · exact hn
    · intro hk
      by_cases hkn : k = n
      · exact .inr hkn
      · exact .inl ⟨hk, hkn⟩
  have honce : ns.Nodup := by
    show (List.filter _ _ ++ [n]).Nodup
    rw [← List.concat_eq_append]
    exact (List.nodup_range.filter _).concat fun hfilter => by simp at hfilter
  have harrived : made.arrived = [] := arrived_changes (start m) changes
  have hpossible : (start m).Possible (late changes ns) := by
    refine (possible_append _ _).2 ⟨possible_changes _ _, ?_⟩
    refine possible_arrivals (fun k hk => (hmem k).1 hk) (fun k _ => ?_) honce
    show k ∉ made.arrived
    rw [harrived]
    exact List.not_mem_nil
  obtain ⟨-, hannouncements, harrivals⟩ := after_arrivals made ns
  rw [harrived, List.nil_append] at harrivals
  refine ⟨ns, hpossible, ?_, ?_⟩
  · rw [late, after_append]
    intro k hk
    rw [harrivals, hmem]
    rwa [hannouncements] at hk
  · have hshelf := ((orderly_start m).after hpossible).shelf
    have hlast : ns.getLast? = some n := List.getLast?_concat
    rw [late, after_append, harrivals, hlast, Option.bind_some, hannouncements,
      List.getElem?_eq_getElem hn, Option.getD_some] at hshelf
    rw [late, after_append, hannouncements, hshelf]
    exact List.getElem?_eq_getElem hn

/-- Changes are made at the same time and all announcements arrive.  The shelf then shows the
catalogue exactly if the announcement that arrived last is the same as the one that was made last,
and whatever the changes are, any announcement can be the one that arrives last and is shown. -/
theorem settled_iff (m : Memory) :
    (∀ moments, (start m).Possible moments → ((start m).after moments).Settled →
      (((start m).after moments).shelf.items = ((start m).after moments).memory.catalog ↔
        ∀ n ∈ ((start m).after moments).arrived.getLast?,
          ((start m).after moments).announcements[n]? =
            ((start m).after moments).announcements.getLast?)) ∧
    ∀ (changes : List Change) (n : Nat),
      n < ((start m).after (changes.map .change)).announcements.length →
      ∃ order, (start m).Possible (late changes order) ∧
        ((start m).after (late changes order)).Settled ∧
        ((start m).after (late changes order)).announcements[n]? =
          some ((start m).after (late changes order)).shelf.items := by
  refine ⟨fun moments hmoments hall => ?_, fun changes n hn => exists_order m changes hn⟩
  exact ((orderly_start m).after hmoments).current_iff hall

instance : (t : Traffic) → (moment : Moment) → Decidable (t.Allows moment)
  | _, .change _ => .isTrue trivial
  | t, .arrival n => inferInstanceAs (Decidable (n < t.announcements.length ∧ n ∉ t.arrived))

instance Possible.decidable : (t : Traffic) → (moments : List Moment) →
    Decidable (t.Possible moments)
  | _, [] => .isTrue trivial
  | t, moment :: moments =>
    have := Possible.decidable (t.step moment) moments
    inferInstanceAs (Decidable (t.Allows moment ∧ (t.step moment).Possible moments))

instance (t : Traffic) : Decidable t.Settled :=
  inferInstanceAs (Decidable (∀ n < t.announcements.length, n ∈ t.arrived))

/-- Two items, the second of which is moved to the front. -/
def rearranged : List Change :=
  [.add (.fresh ⟨1⟩ "Coat" []), .add (.fresh ⟨2⟩ "Bag" []), .swap ⟨2⟩ ⟨1⟩]

/-- The announcements of the two items may arrive the wrong way round if that of the move comes
last; if it does not, the shelf may be left with the first item alone. -/
theorem rearranged_settled :
    ((start .empty).Possible (late rearranged [1, 0, 2]) ∧
      ((start .empty).after (late rearranged [1, 0, 2])).Settled ∧
      ((start .empty).after (late rearranged [1, 0, 2])).shelf.items =
        ((start .empty).after (late rearranged [1, 0, 2])).memory.catalog) ∧
    ∃ order, (start .empty).Possible (late rearranged order) ∧
      ((start .empty).after (late rearranged order)).Settled ∧
      ((start .empty).after (late rearranged order)).announcements[0]? =
        some ((start .empty).after (late rearranged order)).shelf.items := by
  obtain ⟨hcurrent, hany⟩ := settled_iff .empty
  have hpossible : (start .empty).Possible (late rearranged [1, 0, 2]) := by decide_cbv
  have hall : ((start .empty).after (late rearranged [1, 0, 2])).Settled := by decide_cbv
  refine ⟨⟨hpossible, hall, (hcurrent _ hpossible hall).2 ?_⟩, hany rearranged 0 ?_⟩
  · decide_cbv
  · decide_cbv

/-- Two items are added, and the announcement of the first one is the last to arrive. -/
theorem overtaken : ¬ ∀ (m : Memory) (moments : List Moment), (start m).Possible moments →
    ((start m).after moments).Settled →
      ((start m).after moments).shelf.items = ((start m).after moments).memory.catalog := by
  intro h
  have hcurrent := h .empty [.change (.add (.fresh ⟨1⟩ "Coat" [])),
    .change (.add (.fresh ⟨2⟩ "Bag" [])), .arrival 1, .arrival 0] (by decide_cbv) (by decide_cbv)
  revert hcurrent
  decide_cbv

end Traffic

end OrderDesk
