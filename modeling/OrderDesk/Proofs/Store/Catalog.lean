import Mathlib
import OrderDesk.Proofs.Store.Writes

/-!
# The catalogue as a list

The store keeps the items in no particular order and shows them by rank.  Ranks are given from the
number of items, exchanged between two items and counted anew after a removal, and yet they are
always the numbers from 0 on, each of them once (`Catalog.Ranked`), also where items share an
identifier.

As long as they do not, the catalogue is a list that changes like a list: a new item is appended, an
item that is removed leaves the others in order, and two items change places (`Change.edit`).
`Memory.catalog_eq_edited` says so for every sequence of changes, with the replies that are given on
the way.
-/

namespace OrderDesk

open Store (Memory)

namespace Catalog

/-! ## Changes, to the store and to a list -/

/-- A change of the catalogue that the store is asked for. -/
inductive Change where
  | add (item : Item)
  | remove (id : Uuid)
  | swap (up down : Uuid)

/-- The call by which the store is asked. -/
def Change.call : Change → Store.Call
  | add item => .addItem item
  | remove id => .removeItem id
  | swap up down => .swapRanks up down

/-- Nothing is added under an identifier that the catalogue has. -/
def Change.Fresh (m : Memory) : Change → Prop
  | add item => item.id ∉ m.catalog.map (·.id)
  | _ => True

instance (m : Memory) : (change : Change) → Decidable (change.Fresh m)
  | .add item => inferInstanceAs (Decidable (item.id ∉ m.catalog.map (·.id)))
  | .remove _ => .isTrue trivial
  | .swap _ _ => .isTrue trivial

/-- An item without its place. -/
def Item.unranked (item : Item) : Item := { item with rank := 0 }

/-- `b` in place of `a`, and `a` in place of `b`. -/
def exchange (a b x : Item) : Item := if x.id = a.id then b else if x.id = b.id then a else x

/-- What a change makes of a list.  It makes nothing of it for an identifier that is unknown. -/
def Change.edit : Change → List Item → List Item
  | add item, list => list ++ [item.unranked]
  | remove id, list => list.filter (·.id ≠ id)
  | swap up down, list =>
    match list.find? (·.id == up), list.find? (·.id == down) with
    | some a, some b => list.map (exchange a b)
    | _, _ => list

/-- The reply to a change of a list: the old length, or an error for an identifier that is unknown.
-/
def Change.reply : (change : Change) → List Item → change.call.Reply
  | add _, list => .ok (UInt32.ofNat list.length)
  | remove id, list => if list.any (·.id == id) then .ok () else .error (.noItem id)
  | swap up down, list =>
    if list.any (·.id == up) then
      if list.any (·.id == down) then .ok () else .error (.noItem down)
    else .error (.noItem up)

/-! ## Sorting by rank -/

theorem sorted_perm (items : List Item) : (sorted items).Perm items := List.mergeSort_perm _ _

theorem rank_le_trans (a b c : Item) (hab : decide (a.rank ≤ b.rank))
    (hbc : decide (b.rank ≤ c.rank)) : decide (a.rank ≤ c.rank) := by
  simp only [decide_eq_true_eq] at hab hbc ⊢
  exact UInt32.le_trans hab hbc

theorem rank_le_total (a b : Item) : decide (a.rank ≤ b.rank) || decide (b.rank ≤ a.rank) := by
  simp only [Bool.or_eq_true, decide_eq_true_eq]
  exact UInt32.le_total a.rank b.rank

theorem sorted_pairwise (items : List Item) : (sorted items).Pairwise fun a b => a.rank ≤ b.rank := by
  have hsorted := List.pairwise_mergeSort rank_le_trans rank_le_total items
  simpa only [sorted, decide_eq_true_eq] using hsorted

/-- A list in strictly rising ranks is what sorting makes of its elements. -/
theorem sorted_eq_of_perm {items list : List Item} (h : items.Perm list)
    (hlist : list.Pairwise fun a b => a.rank < b.rank) : sorted items = list := by
  have hrank : ∀ a ∈ list, ∀ b ∈ list, a.rank = b.rank → a = b := by
    intro a ha b hb hab
    have hnodup : (list.map (·.rank)).Nodup := by
      rw [List.Nodup, List.pairwise_map]
      exact hlist.imp fun hlt => UInt32.ne_of_lt hlt
    exact List.inj_on_of_nodup_map hnodup ha hb hab
  refine ((sorted_perm items).trans h).eq_of_pairwise ?_ (sorted_pairwise items)
    (hlist.imp fun hlt => UInt32.le_of_lt hlt)
  intro a b ha hb hab hba
  have ha : a ∈ list := ((sorted_perm items).trans h).mem_iff.1 ha
  exact hrank a ha b hb (UInt32.le_antisymm hab hba)

/-! ## Ranks from 0 on -/

/-- The ranks are the numbers from 0 on, each of them once. -/
def Ranked (items : List Item) : Prop :=
  (items.map (·.rank.toNat)).Perm (List.range items.length)

/-- The ranks are the numbers from 0 on, in this order. -/
def Numbered (list : List Item) : Prop := list.map (·.rank.toNat) = List.range list.length

theorem Numbered.pairwise {list : List Item} (h : Numbered list) :
    list.Pairwise fun a b => a.rank < b.rank := by
  have hranks : (list.map (·.rank.toNat)).Pairwise (· < ·) := h ▸ List.pairwise_lt_range
  exact (List.pairwise_map.1 hranks).imp UInt32.lt_iff_toNat_lt.2

theorem Numbered.getElem_rank {list : List Item} (h : Numbered list) {k : Nat}
    (hk : k < list.length) : list[k].rank.toNat = k := by
  have hget := congrArg (·[k]?) h
  simpa [hk] using hget

theorem Numbered.ofNat_eq_rank {list : List Item} (h : Numbered list) {k : Nat}
    (hk : k < list.length) : UInt32.ofNat k = list[k].rank := by
  rw [← UInt32.ofNat_toNat (x := list[k].rank), h.getElem_rank hk]

/-- Sorting brings the ranks into order. -/
theorem Ranked.sorted {items : List Item} (h : Ranked items) : Numbered (sorted items) := by
  have hperm : ((Catalog.sorted items).map (·.rank.toNat)).Perm (List.range items.length) :=
    ((sorted_perm items).map _).trans h
  have hsorted : ((Catalog.sorted items).map (·.rank.toNat)).Pairwise (· ≤ ·) :=
    List.pairwise_map.2 ((sorted_pairwise items).imp UInt32.le_iff_toNat_le.1)
  rw [Numbered, (sorted_perm items).length_eq]
  exact hperm.eq_of_pairwise (fun _ _ _ _ => Nat.le_antisymm) hsorted
    (List.pairwise_lt_range.imp Nat.le_of_lt)

theorem Ranked.nodup {items : List Item} (h : Ranked items) : (items.map (·.rank)).Nodup := by
  have hnat : (items.map (·.rank.toNat)).Nodup := h.nodup_iff.2 List.nodup_range
  have hmap : items.map (·.rank.toNat) = (items.map (·.rank)).map UInt32.toNat := by
    rw [List.map_map]
    rfl
  rw [hmap] at hnat
  exact List.Nodup.of_map _ hnat

theorem numberFrom_length (n : Nat) (items : List Item) :
    (numberFrom n items).length = items.length := by
  induction items generalizing n with
  | nil => rfl
  | cons item items ih => simp [numberFrom, ih]

theorem getElem_numberFrom (n : Nat) (items : List Item) (k : Nat) (hk : k < items.length)
    (hk' : k < (numberFrom n items).length) :
    (numberFrom n items)[k] = { items[k] with rank := UInt32.ofNat (n + k) } := by
  induction items generalizing n k with
  | nil => simp at hk
  | cons x xs ih =>
    cases k with
    | zero => rfl
    | succ k =>
      simp only [numberFrom, List.getElem_cons_succ]
      rw [ih, Nat.add_assoc, Nat.add_comm 1 k]

theorem numberFrom_ranks {n : Nat} {items : List Item} (h : n + items.length ≤ UInt32.size) :
    (numberFrom n items).map (·.rank.toNat) = List.range' n items.length := by
  induction items generalizing n with
  | nil => rfl
  | cons item items ih =>
    simp only [List.length_cons] at h
    have hrank : (UInt32.ofNat n).toNat = n := UInt32.toNat_ofNat_of_lt' (by omega)
    simp only [numberFrom, List.map_cons, List.length_cons, List.range'_succ, hrank]
    rw [ih (by omega)]

/-- Counting anew changes nothing but the ranks. -/
theorem map_numberFrom {β : Type} {f : Item → β} (hf : ∀ (x : Item) rank, f { x with rank } = f x)
    (n : Nat) (items : List Item) : (numberFrom n items).map f = items.map f := by
  induction items generalizing n with
  | nil => rfl
  | cons item items ih => simp [numberFrom, hf, ih]

theorem numbered_renumber {items : List Item} (h : items.length ≤ UInt32.size) :
    Numbered (renumber items) := by
  have hlength : (sorted items).length = items.length := (sorted_perm items).length_eq
  rw [Numbered, renumber, numberFrom_ranks (by omega), numberFrom_length, List.range_eq_range']

theorem Numbered.ranked {list : List Item} (h : Numbered list) : Ranked list := .of_eq h

/-! ## Finding and changing one entry -/

section Entries

variable {items : List Item} {a : Item} {id : Uuid} {i j : Nat}

/-- Where no two items have the same key, an item is found under its own. -/
theorem find?_key {β : Type} [DecidableEq β] {key : Item → β} (h : (items.map key).Nodup)
    (ha : a ∈ items) : items.find? (key · == key a) = some a := by
  have hsome : (items.find? (key · == key a)).isSome :=
    List.find?_isSome.2 ⟨a, ha, beq_self_eq_true (key a)⟩
  obtain ⟨b, hb⟩ := Option.isSome_iff_exists.1 hsome
  have hkey : key b = key a := by simpa using List.find?_some hb
  rw [hb, List.inj_on_of_nodup_map h (List.mem_of_find?_eq_some hb) ha hkey]

/-- Where no identifier is shared, an entry is known by its own. -/
theorem place_of_id (h : (items.map (·.id)).Nodup) (hi : i < items.length) (hj : j < items.length)
    (hid : items[i].id = items[j].id) : i = j := by
  have hi' : i < (items.map (·.id)).length := by simpa using hi
  have hj' : j < (items.map (·.id)).length := by simpa using hj
  have hmap : (items.map (·.id))[i] = (items.map (·.id))[j] := by simpa using hid
  exact h.getElem_inj_iff.1 hmap

theorem findIdx?_id (h : items.findIdx? (·.id == id) = some i) :
    ∃ hi : i < items.length, items[i].id = id := by
  obtain ⟨hi, hid, -⟩ := List.findIdx?_eq_some_iff_getElem.1 h
  exact ⟨hi, by simpa using hid⟩

theorem any_of_findIdx?_eq_none (h : items.findIdx? (·.id == id) = none) :
    items.any (·.id == id) = false := by
  rw [List.any_eq_false]
  intro x hx
  simp [List.findIdx?_eq_none_iff.1 h x hx]

/-- Erasing the entry of an identifier that is not shared. -/
theorem eraseIdx_eq_filter (h : (items.map (·.id)).Nodup)
    (hi : items.findIdx? (·.id == id) = some i) : items.eraseIdx i = items.filter (·.id ≠ id) := by
  induction items generalizing i with
  | nil => simp at hi
  | cons x xs ih =>
    simp only [List.map_cons, List.nodup_cons, List.mem_map, not_exists, not_and] at h
    rw [List.findIdx?_cons] at hi
    by_cases hx : x.id = id
    · have hrest : xs.filter (·.id ≠ id) = xs :=
        List.filter_eq_self.2 fun y hy => by simpa [hx] using h.1 y hy
      obtain rfl : i = 0 := by simpa [hx] using hi.symm
      simpa [hx] using hrest.symm
    · simp only [beq_iff_eq, hx, if_false, Option.map_eq_some_iff] at hi
      obtain ⟨k, hk, rfl⟩ := hi
      simpa [hx] using ih h.2 hk

/-- The items after two of them were given each other's rank. -/
def withRanksExchanged (items : List Item) (i j : Nat) (hi : i < items.length)
    (hj : j < items.length) : List Item :=
  Memory.setRank (Memory.setRank items i items[j].rank) j items[i].rank

variable {hi : i < items.length} {hj : j < items.length}

/-- What does not depend on the rank is the same for all items. -/
theorem map_withRanksExchanged {β : Type} {f : Item → β}
    (hf : ∀ (x : Item) rank, f { x with rank } = f x) :
    (withRanksExchanged items i j hi hj).map f = items.map f := by
  simp only [withRanksExchanged, Memory.setRank]
  rw [Store.map_modify fun x => hf x _, Store.map_modify fun x => hf x _]

/-- The ranks themselves are the same ones. -/
theorem ranks_withRanksExchanged :
    ((withRanksExchanged items i j hi hj).map (·.rank)).Perm (items.map (·.rank)) := by
  generalize hranks : items.map (·.rank) = ranks
  have hlength : ranks.length = items.length := by simp [← hranks]
  have hset : (withRanksExchanged items i j hi hj).map (·.rank) =
      (ranks.set i ranks[j]).set j ranks[i] := by
    refine List.ext_getElem (by simp [withRanksExchanged, Memory.setRank, hlength]) fun k _ _ => ?_
    subst hranks
    simp only [withRanksExchanged, Memory.setRank, List.getElem_map, List.getElem_modify,
      List.getElem_set]
    by_cases hjk : j = k <;> by_cases hik : i = k <;> simp [hjk, hik]
  rw [hset]
  exact List.set_set_perm _ _

/-- Taking an item out and counting anew makes no identifier shared. -/
theorem nodup_ids_renumber (h : (items.map (·.id)).Nodup) (i : Nat) :
    ((renumber (items.eraseIdx i)).map (·.id)).Nodup := by
  have hids : (renumber (items.eraseIdx i)).map (·.id) = (sorted (items.eraseIdx i)).map (·.id) :=
    map_numberFrom (fun _ _ => rfl) _ _
  rw [hids, ((sorted_perm _).map _).nodup_iff]
  exact h.sublist ((List.eraseIdx_sublist items i).map _)

theorem nodup_ids_withRanksExchanged (h : (items.map (·.id)).Nodup) :
    ((withRanksExchanged items i j hi hj).map (·.id)).Nodup := by
  have hids : (withRanksExchanged items i j hi hj).map (·.id) = items.map (·.id) :=
    map_withRanksExchanged fun _ _ => rfl
  rw [hids]
  exact h

theorem Ranked.withRanksExchanged (h : Ranked items) :
    Ranked (withRanksExchanged items i j hi hj) := by
  have hranks : ((Catalog.withRanksExchanged items i j hi hj).map (·.rank.toNat)).Perm
      (items.map (·.rank.toNat)) := by
    simpa only [List.map_map, Function.comp_def] using ranks_withRanksExchanged.map UInt32.toNat
  have hlength : (Catalog.withRanksExchanged items i j hi hj).length = items.length := by
    simpa only [List.length_map] using hranks.length_eq
  rw [Ranked, hlength]
  exact hranks.trans h

/-- Where identifiers are not shared, giving two items each other's rank puts each of them in the
other's place. -/
theorem withRanksExchanged_perm (h : (items.map (·.id)).Nodup) :
    (withRanksExchanged items i j hi hj).Perm
      (items.map fun x => { exchange items[i] items[j] x with rank := x.rank }) := by
  generalize hplaced : (items.map fun x => { exchange items[i] items[j] x with rank := x.rank }) =
    placed
  have hlength : placed.length = items.length := by simp [← hplaced]
  have hset : withRanksExchanged items i j hi hj =
      (placed.set i placed[j]).set j placed[i] := by
    refine List.ext_getElem (by simp [withRanksExchanged, Memory.setRank, hlength]) fun k hk _ => ?_
    have hk : k < items.length := by simpa [withRanksExchanged, Memory.setRank] using hk
    subst hplaced
    simp only [withRanksExchanged, Memory.setRank, List.getElem_map, List.getElem_modify,
      List.getElem_set, exchange]
    by_cases hjk : j = k
    · subst hjk
      simp
    · by_cases hik : i = k
      · subst hik
        have hne : items[j].id ≠ items[i].id := fun heq => hjk (place_of_id h hj hi heq)
        simp [hjk, hne]
      · have hnei : items[k].id ≠ items[i].id := fun heq => hik (place_of_id h hk hi heq).symm
        have hnej : items[k].id ≠ items[j].id := fun heq => hjk (place_of_id h hk hj heq).symm
        simp [hjk, hik, hnei, hnej]
  rw [hset]
  exact List.set_set_perm _ _

end Entries

end Catalog

namespace Store.Memory

open Catalog

variable {m : Memory}

/-! ## What the changes find -/

/-- An item is taken out where it is found. -/
theorem removeItem_cases (m : Memory) (id : Uuid) :
    (m.items.any (·.id == id) = false ∧ m.removeItem id = .error (.noItem id)) ∨
    ∃ i, m.items.findIdx? (·.id == id) = some i ∧
      m.removeItem id = .ok { m with items := renumber (m.items.eraseIdx i) } := by
  cases hi : m.items.findIdx? (·.id == id) with
  | none => exact .inl ⟨any_of_findIdx?_eq_none hi, by simp only [removeItem, hi]⟩
  | some i => exact .inr ⟨i, rfl, by simp only [removeItem, hi]⟩

/-- Two items exchange their ranks where both are found. -/
theorem swapRanks_cases (m : Memory) (up down : Uuid) :
    (m.items.any (·.id == up) = false ∧ m.swapRanks up down = .error (.noItem up)) ∨
    (m.items.any (·.id == up) ∧ m.items.any (·.id == down) = false ∧
      m.swapRanks up down = .error (.noItem down)) ∨
    ∃ i j hi hj, m.items[i].id = up ∧ m.items[j].id = down ∧
      m.swapRanks up down = .ok { m with items := withRanksExchanged m.items i j hi hj } := by
  have found : ∀ {id i}, m.items.findIdx? (·.id == id) = some i →
      ∃ hi : i < m.items.length, m.items[i].id = id ∧ m.item? id = some m.items[i] := by
    intro id i hi
    obtain ⟨hlt, hid⟩ := findIdx?_id hi
    refine ⟨hlt, hid, ?_⟩
    rw [item?, List.find?_eq_bind_findIdx?_getElem?, hi, Option.bind_some,
      List.getElem?_eq_getElem hlt]
  cases hi : m.items.findIdx? (·.id == up) with
  | none => exact .inl ⟨any_of_findIdx?_eq_none hi, by simp only [swapRanks, hi]⟩
  | some i =>
    obtain ⟨hilt, hiid, hia⟩ := found hi
    have hany : m.items.any (·.id == up) :=
      List.any_eq_true.2 ⟨_, List.getElem_mem hilt, by simpa using hiid⟩
    cases hj : m.items.findIdx? (·.id == down) with
    | none =>
      exact .inr (.inl ⟨hany, any_of_findIdx?_eq_none hj, by simp only [swapRanks, hi, hia, hj]⟩)
    | some j =>
      obtain ⟨hjlt, hjid, hjb⟩ := found hj
      refine .inr (.inr ⟨i, j, hilt, hjlt, hiid, hjid, ?_⟩)
      simp only [swapRanks, hi, hia, hj, hjb, withRanksExchanged]

/-! ## One change -/

theorem catalog_length (m : Memory) : m.catalog.length = m.items.length :=
  (sorted_perm m.items).length_eq

theorem catalog_any (m : Memory) (id : Uuid) :
    (m.catalog.map Item.unranked).any (·.id == id) = m.items.any (·.id == id) := by
  rw [List.any_map, Bool.eq_iff_iff, List.any_eq_true, List.any_eq_true]
  exact exists_congr fun x => and_congr_left fun _ => (sorted_perm m.items).mem_iff

/-- What a store and a list have in common as long as they undergo the same changes. -/
structure Lists (m : Memory) (list : List Item) : Prop where
  ranked : Ranked m.items
  nodup : (m.items.map (·.id)).Nodup
  entries : m.catalog.map Item.unranked = list

/-- After a change ranks are places as long as there are numbers for them.  Before it there may have
been too many items: the ranks are counted anew whenever one is taken out. -/
theorem ranked_after (h : m.items.length < UInt32.size → Ranked m.items) (change : Change)
    (hroom : (m.after change.call).items.length < UInt32.size) :
    Ranked (m.after change.call).items := by
  cases change with
  | add item =>
    have hlength : m.items.length + 1 < UInt32.size := by
      simpa [after, serve, addItem, Change.call] using hroom
    have hrank : (UInt32.ofNat m.items.length).toNat = m.items.length :=
      UInt32.toNat_ofNat_of_lt' (by omega)
    show Ranked (m.items ++ [_])
    rw [Ranked, List.map_append, List.length_append, List.map_singleton, List.length_singleton,
      List.range_succ, hrank]
    exact (h (by omega)).append_right _
  | remove id =>
    obtain ⟨-, hfail⟩ | ⟨i, -, hremoved⟩ := removeItem_cases m id
    · simp only [after, serve, Change.call, hfail, announce] at hroom ⊢
      exact h hroom
    · simp only [after, serve, Change.call, hremoved, announce] at hroom ⊢
      refine (numbered_renumber ?_).ranked
      rw [renumber, numberFrom_length, (sorted_perm _).length_eq] at hroom
      exact Nat.le_of_lt hroom
  | swap up down =>
    obtain ⟨-, hfail⟩ | ⟨-, -, hfail⟩ | ⟨i, j, hi, hj, -, -, hswapped⟩ := swapRanks_cases m up down
    · simp only [after, serve, Change.call, hfail, announce] at hroom ⊢
      exact h hroom
    · simp only [after, serve, Change.call, hfail, announce] at hroom ⊢
      exact h hroom
    · simp only [after, serve, Change.call, hswapped, announce] at hroom ⊢
      have hlength : (withRanksExchanged m.items i j hi hj).length = m.items.length := by
        simp [withRanksExchanged, setRank]
      exact (h (hlength ▸ hroom)).withRanksExchanged

theorem find?_unranked (h : (m.items.map (·.id)).Nodup) {a : Item} (ha : a ∈ m.items) :
    (m.catalog.map Item.unranked).find? (·.id == a.id) = some a.unranked := by
  have hperm : (m.catalog.map (·.id)).Perm (m.items.map (·.id)) := (sorted_perm m.items).map _
  have hfind : m.catalog.find? (·.id == a.id) = some a :=
    find?_key (hperm.nodup_iff.2 h) ((sorted_perm m.items).mem_iff.2 ha)
  rw [List.find?_map]
  exact congrArg (Option.map Item.unranked) hfind

theorem exchange_unranked (a b x : Item) :
    exchange a.unranked b.unranked x.unranked =
      Item.unranked { exchange a b x with rank := x.rank } := by
  have hid : ∀ x : Item, x.unranked.id = x.id := fun _ => rfl
  simp only [exchange, hid]
  by_cases ha : x.id = a.id
  · simp only [if_pos ha]
    rfl
  · simp only [if_neg ha]
    by_cases hb : x.id = b.id
    · simp only [if_pos hb]
      rfl
    · simp only [if_neg hb]

theorem nodup_addItem (h : (m.items.map (·.id)).Nodup) {item : Item}
    (hfresh : item.id ∉ m.catalog.map (·.id)) : ((m.addItem item).2.items.map (·.id)).Nodup := by
  rw [Memory.addItem, List.map_append, List.map_singleton, List.nodup_append_comm,
    List.singleton_append, List.nodup_cons]
  exact ⟨fun hmem => hfresh (((sorted_perm m.items).map _).mem_iff.2 hmem), h⟩

/-- An item is appended. -/
theorem Lists.addItem {list : List Item} (h : m.Lists list) {item : Item}
    (hfresh : item.id ∉ m.catalog.map (·.id)) (hroom : m.items.length + 1 < UInt32.size) :
    (m.addItem item).2.Lists (list ++ [item.unranked]) := by
  have hranked : Ranked (m.addItem item).2.items :=
    ranked_after (fun _ => h.ranked) (.add item)
      (by simpa [after, serve, Memory.addItem, Change.call])
  have hrank : (UInt32.ofNat m.items.length).toNat = m.items.length :=
    UInt32.toNat_ofNat_of_lt' (by omega)
  have hcatalog : (m.addItem item).2.catalog =
      m.catalog ++ [{ item with rank := UInt32.ofNat m.items.length }] := by
    refine sorted_eq_of_perm ((sorted_perm m.items).symm.append_right _) ?_
    refine Numbered.pairwise ?_
    have hranks : m.catalog.map (·.rank.toNat) = List.range m.items.length :=
      m.catalog_length ▸ h.ranked.sorted
    rw [Numbered, List.map_append, List.length_append, hranks, List.map_singleton,
      List.length_singleton, List.range_succ, hrank, catalog_length]
  refine ⟨hranked, nodup_addItem h.nodup hfresh, ?_⟩
  rw [hcatalog, List.map_append, h.entries]
  rfl

/-- The entry of an identifier is taken out. -/
theorem Lists.removeItem {list : List Item} (h : m.Lists list) {id : Uuid} {i : Nat}
    (hi : m.items.findIdx? (·.id == id) = some i) (hroom : m.items.length ≤ UInt32.size) :
    Lists { m with items := renumber (m.items.eraseIdx i) } (list.filter (·.id ≠ id)) := by
  have herased : (m.items.eraseIdx i).length ≤ UInt32.size :=
    Nat.le_trans (List.eraseIdx_sublist m.items i).length_le hroom
  have hnumbered : Numbered (renumber (m.items.eraseIdx i)) := numbered_renumber herased
  have hcatalog : catalog { m with items := renumber (m.items.eraseIdx i) } =
      renumber (m.items.eraseIdx i) := sorted_eq_of_perm (.refl _) hnumbered.pairwise
  have hsorted : sorted (m.items.eraseIdx i) = m.catalog.filter (·.id ≠ id) := by
    rw [eraseIdx_eq_filter h.nodup hi]
    exact sorted_eq_of_perm ((sorted_perm m.items).symm.filter _)
      (h.ranked.sorted.pairwise.filter _)
  refine ⟨hnumbered.ranked, nodup_ids_renumber h.nodup i, ?_⟩
  rw [hcatalog, renumber, map_numberFrom (fun _ _ => rfl), hsorted, ← h.entries, List.filter_map]
  rfl

/-- Two entries change places. -/
theorem Lists.swapRanks {list : List Item} (h : m.Lists list) {i j : Nat}
    (hi : i < m.items.length) (hj : j < m.items.length) :
    Lists { m with items := withRanksExchanged m.items i j hi hj }
      (list.map (exchange m.items[i].unranked m.items[j].unranked)) := by
  have hcatalog : catalog { m with items := withRanksExchanged m.items i j hi hj } =
      m.catalog.map fun x => { exchange m.items[i] m.items[j] x with rank := x.rank } := by
    refine sorted_eq_of_perm ?_ (List.pairwise_map.2 h.ranked.sorted.pairwise)
    exact (withRanksExchanged_perm h.nodup).trans ((sorted_perm m.items).symm.map _)
  refine ⟨h.ranked.withRanksExchanged, nodup_ids_withRanksExchanged h.nodup, ?_⟩
  rw [hcatalog, ← h.entries, List.map_map, List.map_map]
  exact List.map_congr_left fun x _ => (exchange_unranked _ _ x).symm

/-- A store and a list undergo the same change. -/
theorem Lists.after {list : List Item} (h : m.Lists list) {change : Change}
    (hfresh : change.Fresh m) (hroom : (m.after change.call).items.length < UInt32.size)
    (hfull : m.items.length ≤ UInt32.size) :
    (m.after change.call).Lists (change.edit list) := by
  have hany : ∀ id, list.any (·.id == id) = m.items.any (·.id == id) := fun id => by
    rw [← h.entries, catalog_any]
  have habsent : ∀ id, m.items.any (·.id == id) = false → ∀ x ∈ list, x.id ≠ id := by
    intro id hid x hx heq
    rw [← hany, List.any_eq_false] at hid
    exact hid x hx (by simpa using heq)
  have hunknown : ∀ id, m.items.any (·.id == id) = false → list.find? (·.id == id) = none := by
    intro id hid
    exact List.find?_eq_none.2 fun x hx => by simpa using habsent id hid x hx
  cases change with
  | add item =>
    exact h.addItem hfresh (by simpa [Memory.after, serve, Memory.addItem, Change.call] using hroom)
  | remove id =>
    obtain ⟨hid, hfail⟩ | ⟨i, hi, hremoved⟩ := removeItem_cases m id
    · have hsame : list.filter (·.id ≠ id) = list :=
        List.filter_eq_self.2 fun x hx => by simpa using habsent id hid x hx
      simpa only [Memory.after, serve, Change.call, hfail, announce, Change.edit, hsame] using h
    · simp only [Memory.after, serve, Change.call, hremoved, announce, Change.edit]
      exact h.removeItem hi hfull
  | swap up down =>
    obtain ⟨hup, hfail⟩ | ⟨-, hdown, hfail⟩ | ⟨i, j, hi, hj, rfl, rfl, hswapped⟩ :=
      swapRanks_cases m up down
    · simpa only [Memory.after, serve, Change.call, hfail, announce, Change.edit,
        hunknown up hup] using h
    · have hsame : (Change.swap up down).edit list = list := by
        simp only [Change.edit, hunknown down hdown]
        split <;> first | rfl | contradiction
      simpa only [Memory.after, serve, Change.call, hfail, announce, hsame] using h
    · have hup : list.find? (·.id == m.items[i].id) = some m.items[i].unranked := by
        rw [← h.entries, find?_unranked h.nodup (List.getElem_mem hi)]
      have hdown : list.find? (·.id == m.items[j].id) = some m.items[j].unranked := by
        rw [← h.entries, find?_unranked h.nodup (List.getElem_mem hj)]
      simp only [Memory.after, serve, Change.call, hswapped, announce, Change.edit, hup, hdown]
      exact h.swapRanks hi hj

/-! ## Replies -/

/-- A store replies to a change as a list does. -/
theorem Lists.reply {list : List Item} (h : m.Lists list) (next : Nat → String) (drawn : Nat)
    (change : Change) : (m.serve next drawn change.call).1 = change.reply list := by
  have hany : ∀ id, list.any (·.id == id) = m.items.any (·.id == id) := fun id => by
    rw [← h.entries, catalog_any]
  have hfound : ∀ {i : Nat} (hi : i < m.items.length), m.items.any (·.id == m.items[i].id) = true :=
    fun hi => List.any_eq_true.2 ⟨_, List.getElem_mem hi, beq_self_eq_true _⟩
  cases change with
  | add item =>
    have hlength : list.length = m.items.length := by
      rw [← h.entries, List.length_map, catalog_length]
    simp only [serve, Change.call, Memory.addItem, Change.reply, hlength]
  | remove id =>
    obtain ⟨hid, hfail⟩ | ⟨i, hi, hremoved⟩ := removeItem_cases m id
    · simp only [serve, Change.call, hfail, announce, Change.reply, hany, hid, Bool.false_eq_true,
        if_false]
    · obtain ⟨hlt, rfl⟩ := findIdx?_id hi
      simp only [serve, Change.call, hremoved, announce, Change.reply, hany, hfound hlt, if_true]
  | swap up down =>
    obtain ⟨hup, hfail⟩ | ⟨hup, hdown, hfail⟩ | ⟨i, j, hi, hj, rfl, rfl, hswapped⟩ :=
      swapRanks_cases m up down
    · simp only [serve, Change.call, hfail, announce, Change.reply, hany, hup, Bool.false_eq_true,
        if_false]
    · simp only [serve, Change.call, hfail, announce, Change.reply, hany, hup, hdown,
        Bool.false_eq_true, if_true, if_false]
    · simp only [serve, Change.call, hswapped, announce, Change.reply, hany, hfound hi, hfound hj,
        if_true]

/-- A change that fails leaves all as it was. -/
theorem serve_of_error {next : Nat → String} {drawn : Nat} {change : Change} {e : StoreError}
    (h : (m.serve next drawn change.call).1 = .error e) :
    (m.serve next drawn change.call).2 = ⟨m, drawn, none⟩ := by
  cases change with
  | add item => simp [serve, Change.call] at h
  | remove id =>
    obtain ⟨-, hfail⟩ | ⟨i, -, hremoved⟩ := removeItem_cases m id
    · simp only [serve, Change.call, hfail, announce]
    · simp [serve, Change.call, hremoved, announce] at h
  | swap up down =>
    obtain ⟨-, hfail⟩ | ⟨-, -, hfail⟩ | ⟨i, j, hi, hj, -, -, hswapped⟩ := swapRanks_cases m up down
    · simp only [serve, Change.call, hfail, announce]
    · simp only [serve, Change.call, hfail, announce]
    · simp [serve, Change.call, hswapped, announce] at h

theorem Lists.rankOf {list : List Item} (h : m.Lists list) (id : Uuid) (rank : UInt32) :
    m.rankOf id = .ok rank ↔ ∃ x ∈ m.items, x.id = id ∧ x.rank = rank := by
  constructor
  · intro hrank
    simp only [Memory.rankOf, item?] at hrank
    split at hrank
    · rename_i x hx
      refine ⟨x, List.mem_of_find?_eq_some hx, by simpa using List.find?_some hx, ?_⟩
      simpa using hrank
    · simp at hrank
  · rintro ⟨x, hx, rfl, rfl⟩
    simp only [Memory.rankOf, item?, find?_key h.nodup hx]

theorem Lists.idAt {list : List Item} (h : m.Lists list) (id : Uuid) (rank : UInt32) :
    m.idAt rank = .ok id ↔ ∃ x ∈ m.items, x.id = id ∧ x.rank = rank := by
  constructor
  · intro hid
    simp only [Memory.idAt] at hid
    split at hid
    · rename_i x hx
      refine ⟨x, List.mem_of_find?_eq_some hx, ?_, by simpa using List.find?_some hx⟩
      simpa using hid
    · simp at hid
  · rintro ⟨x, hx, rfl, rfl⟩
    simp only [Memory.idAt, find?_key h.ranked.nodup hx]

/-- Ranks are places in the list. -/
theorem Lists.mem_iff {list : List Item} (h : m.Lists list) (id : Uuid) (rank : UInt32) :
    (∃ x ∈ m.items, x.id = id ∧ x.rank = rank) ↔ (list[rank.toNat]?).map (·.id) = some id := by
  have hrank : ∀ {i : Nat} (hi : i < m.catalog.length), m.catalog[i].rank.toNat = i :=
    h.ranked.sorted.getElem_rank
  rw [← h.entries, List.getElem?_map, Option.map_map]
  constructor
  · rintro ⟨x, hx, rfl, rfl⟩
    obtain ⟨i, hi, rfl⟩ := List.getElem_of_mem ((sorted_perm m.items).mem_iff.2 hx)
    have hi : i < m.catalog.length := hi
    have hat : m.catalog[m.catalog[i].rank.toNat]? = some m.catalog[i] := by
      rw [hrank hi, List.getElem?_eq_getElem hi]
    exact congrArg (Option.map _) hat
  · intro hid
    obtain ⟨x, hx, rfl⟩ := Option.map_eq_some_iff.1 hid
    obtain ⟨hi, rfl⟩ := List.getElem?_eq_some_iff.1 hx
    refine ⟨_, (sorted_perm m.items).mem_iff.1 (List.getElem_mem hi), rfl, ?_⟩
    exact UInt32.toNat_inj.1 (hrank hi)

/-! ## All changes -/

/-- The store after changes of the catalogue. -/
def edited (m : Memory) (changes : List Change) : Memory :=
  changes.foldl (fun m change => m.after change.call) m

theorem edited_concat (m : Memory) (changes : List Change) (change : Change) :
    m.edited (changes ++ [change]) = (m.edited changes).after change.call := List.foldl_concat ..

/-- The store never holds so many items that a rank has no number. -/
def Roomy (m : Memory) (changes : List Change) : Prop :=
  ∀ n ≤ changes.length, (m.edited (changes.take n)).items.length < UInt32.size

/-- No item is added under an identifier that the catalogue has then. -/
def Fresh (m : Memory) (changes : List Change) : Prop :=
  ∀ n < changes.length, ∀ change ∈ changes[n]?, change.Fresh (m.edited (changes.take n))

theorem Roomy.length {changes : List Change} (h : m.Roomy changes) :
    (m.edited changes).items.length < UInt32.size := by
  simpa using h changes.length (Nat.le_refl _)

theorem Roomy.init {changes : List Change} {change : Change} (h : m.Roomy (changes ++ [change])) :
    m.Roomy changes := by
  intro n hn
  have hlength : n ≤ (changes ++ [change]).length := by
    rw [List.length_append]
    omega
  simpa only [List.take_append_of_le_length hn] using h n hlength

theorem Fresh.init {changes : List Change} {change : Change} (h : m.Fresh (changes ++ [change])) :
    m.Fresh changes := by
  intro n hn
  have hlength : n < (changes ++ [change]).length := by
    rw [List.length_append]
    omega
  simpa only [List.take_append_of_le_length (Nat.le_of_lt hn), List.getElem?_append_left hn]
    using h n hlength

theorem Fresh.last {changes : List Change} {change : Change} (h : m.Fresh (changes ++ [change])) :
    change.Fresh (m.edited changes) := by
  simpa using h changes.length (by simp) change (by simp)

/-- Every change keeps the ranks in order, and so do all of them. -/
theorem ranked_edited {changes : List Change} (hroom : empty.Roomy changes) :
    Ranked (empty.edited changes).items := by
  induction changes using List.reverseRecOn with
  | nil => exact .refl _
  | append_singleton changes change ih =>
    have hlast := hroom.length
    rw [edited_concat] at hlast ⊢
    exact ranked_after (fun _ => ih hroom.init) change hlast

/-- Every change keeps store and list together, and so do all of them. -/
theorem lists_edited {changes : List Change} (hroom : empty.Roomy changes)
    (hfresh : empty.Fresh changes) :
    (empty.edited changes).Lists (changes.foldl (fun list change => change.edit list) []) := by
  induction changes using List.reverseRecOn with
  | nil =>
    refine ⟨.refl _, List.nodup_nil, ?_⟩
    simp only [edited, List.foldl_nil, catalog, sorted, empty, List.mergeSort_nil, List.map_nil]
  | append_singleton changes change ih =>
    have hlast := hroom.length
    rw [edited_concat] at hlast ⊢
    rw [List.foldl_concat]
    exact (ih hroom.init hfresh.init).after hfresh.last hlast (Nat.le_of_lt hroom.init.length)

/-- A store that the catalogue is asked of as if it were a list. -/
structure Shows (m : Memory) (list : List Item) : Prop where
  /-- The catalogue is the list. -/
  entries : m.catalog.map Item.unranked = list
  /-- Every change gets the reply that the list gives. -/
  replies : ∀ next drawn (change : Change),
    (m.serve next drawn change.call).1 = change.reply list
  /-- A change that gets an error leaves all as it was. -/
  unchanged : ∀ next drawn (change : Change) e, (m.serve next drawn change.call).1 = .error e →
    (m.serve next drawn change.call).2 = ⟨m, drawn, none⟩
  /-- Ranks and identifiers lead to each other. -/
  inverse : ∀ id rank, m.rankOf id = .ok rank ↔ m.idAt rank = .ok id
  /-- The item of a rank is the one at this place of the list. -/
  places : ∀ id rank, m.idAt rank = .ok id ↔ (list[rank.toNat]?).map (·.id) = some id

/-- The ranks of the catalogue are 0, 1, 2 and so on in this order after all changes, and the
catalogue is the list that undergoes the same changes as long as identifiers are not shared. -/
theorem catalog_eq_edited (changes : List Change) (hroom : empty.Roomy changes) :
    Numbered (empty.edited changes).catalog ∧
      (empty.Fresh changes →
        (empty.edited changes).Shows (changes.foldl (fun list change => change.edit list) [])) := by
  refine ⟨(ranked_edited hroom).sorted, fun hfresh => ?_⟩
  have hlists := lists_edited hroom hfresh
  exact {
    entries := hlists.entries
    replies := hlists.reply
    unchanged := fun _ _ _ _ => serve_of_error
    inverse := fun id rank => (hlists.rankOf id rank).trans (hlists.idAt id rank).symm
    places := fun id rank => (hlists.idAt id rank).trans (hlists.mem_iff id rank) }

instance (m : Memory) (changes : List Change) : Decidable (m.Roomy changes) :=
  inferInstanceAs (Decidable (∀ n ≤ changes.length,
    (m.edited (changes.take n)).items.length < UInt32.size))

instance (m : Memory) (changes : List Change) : Decidable (m.Fresh changes) :=
  inferInstanceAs (Decidable (∀ n < changes.length, ∀ change ∈ changes[n]?,
    change.Fresh (m.edited (changes.take n))))

/-- Three items, of which the last is moved to the front and the second is taken out and comes back
at the end, with some changes that find nothing or change nothing in between. -/
theorem catalog_rearranged :
    let item := fun n title => Item.fresh ⟨n⟩ title []
    let coat := item 1 "Coat"
    let bag := { item 2 "Bag" with rank := 7 }
    let scarf := item 3 "Scarf"
    let changes := [Change.add coat, .add bag, .add scarf, .swap ⟨3⟩ ⟨1⟩, .swap ⟨2⟩ ⟨2⟩, .swap ⟨1⟩ ⟨4⟩,
      .remove ⟨4⟩, .remove ⟨2⟩, .add bag]
    empty.Roomy changes ∧ empty.Fresh changes ∧ Numbered (empty.edited changes).catalog ∧
      (empty.edited changes).Shows [scarf, coat, bag.unranked] := by
  intro item coat bag scarf changes
  have hroom : empty.Roomy changes := by decide_cbv
  have hfresh : empty.Fresh changes := by decide_cbv
  have hlist : changes.foldl (fun list change => change.edit list) [] =
      [scarf, coat, bag.unranked] := by decide +kernel
  obtain ⟨hnumbered, hshows⟩ := catalog_eq_edited changes hroom
  exact ⟨hroom, hfresh, hnumbered, hlist ▸ hshows hfresh⟩

end Store.Memory

end OrderDesk
