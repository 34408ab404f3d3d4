import OrderDesk.Proofs.Store.Catalog

/-!
# Counting ranks anew

Sorting goes by the ranks, and counting anew overwrites the ranks, so the result does not show any
more which item stood where.  `Rearranged` says it: every item has a place of its own in the result,
and comes before another one there exactly if its rank was smaller, or if the ranks were equal and
it stood before the other one already (`Precedes`).

The places are found by sorting the items together with the places where they stand (`origins`).
Sorting is stable, so these items are the sorted ones.  `renumber_keeps_order` is about ranks of any
kind, with gaps and with one rank for several items; counting anew twice is counting anew once.
-/

namespace OrderDesk.Catalog

variable {items : List Item}

/-! ## The order by rank -/

/-- The item at place `j` comes before the one at place `k`: its rank is smaller, or it is the same
rank and the item stands before the other one. -/
def Precedes (items : List Item) (j k : Fin items.length) : Prop :=
  (items.get j).rank < (items.get k).rank ∨ (items.get j).rank = (items.get k).rank ∧ j < k

theorem Precedes.asymm {j k : Fin items.length} (h : Precedes items j k) :
    ¬ Precedes items k j := by
  simp only [Precedes, UInt32.lt_iff_toNat_lt, ← UInt32.toNat_inj] at h ⊢
  omega

/-- Every item of `items` has a place of its own in `result`.  It has the number of this place as
its rank and is the same otherwise, and it stands before another item exactly if it precedes it. -/
structure Rearranged (items result : List Item) (place : Fin items.length ≃ Fin result.length) :
    Prop where
  kept : ∀ k, result.get (place k) = { items.get k with rank := UInt32.ofNat (place k) }
  order : ∀ j k, place j < place k ↔ Precedes items j k

/-! ## Where items come from -/

/-- The items by rank, each with the place that it is taken from. -/
def origins (items : List Item) : List (Item × Nat) :=
  items.zipIdx.mergeSort (List.zipIdxLE fun a b => a.rank ≤ b.rank)

theorem map_fst_origins (items : List Item) : (origins items).map (·.1) = sorted items :=
  List.mergeSort_zipIdx

theorem nodup_snd_origins (items : List Item) : ((origins items).map (·.2)).Nodup := by
  rw [origins, ((List.mergeSort_perm _ _).map _).nodup_iff, List.zipIdx_map_snd]
  exact List.nodup_range'

theorem mem_zipIdx_of_mem_origins {e : Item × Nat} (he : e ∈ origins items) : e ∈ items.zipIdx :=
  List.mem_mergeSort.1 he

/-- They stand in the order of their ranks, and under one rank in the order of the places. -/
theorem origins_pairwise (items : List Item) : (origins items).Pairwise fun a b =>
    a.1.rank < b.1.rank ∨ a.1.rank = b.1.rank ∧ a.2 < b.2 := by
  have hsorted := List.pairwise_mergeSort (List.zipIdxLE_trans rank_le_trans)
    (List.zipIdxLE_total rank_le_total) items.zipIdx
  have hapart : (origins items).Pairwise fun a b => a.2 ≠ b.2 :=
    List.pairwise_map.1 (nodup_snd_origins items)
  refine (hsorted.and hapart).imp ?_
  rintro ⟨a, j⟩ ⟨b, k⟩ ⟨hle, hne⟩
  simp only [List.zipIdxLE, decide_eq_true_eq, UInt32.le_iff_toNat_le] at hle
  simp only [UInt32.lt_iff_toNat_lt, ← UInt32.toNat_inj]
  split at hle
  · split at hle
    · simp only [decide_eq_true_eq] at hle
      omega
    · omega
  · cases hle

/-! ## Where they go -/

theorem renumber_length (items : List Item) : (renumber items).length = items.length := by
  rw [renumber, numberFrom_length, (sorted_perm items).length_eq]

theorem origins_length (items : List Item) : (renumber items).length = (origins items).length := by
  rw [renumber_length, origins, List.length_mergeSort, List.length_zipIdx]

/-- What stands at a place after counting anew, with the place that it is taken from. -/
def source (items : List Item) (i : Fin (renumber items).length) : Item × Nat :=
  (origins items).get (i.cast (origins_length items))

theorem getElem?_source (items : List Item) (i : Fin (renumber items).length) :
    items[(source items i).2]? = some (source items i).1 :=
  List.mk_mem_zipIdx_iff_getElem?.1 (mem_zipIdx_of_mem_origins (List.get_mem _ _))

/-- The place that the item at place `i` is taken from. -/
def origin (items : List Item) (i : Fin (renumber items).length) : Fin items.length :=
  ⟨(source items i).2, (List.getElem?_eq_some_iff.1 (getElem?_source items i)).1⟩

theorem get_origin (items : List Item) (i : Fin (renumber items).length) :
    items.get (origin items i) = (source items i).1 :=
  (List.getElem?_eq_some_iff.1 (getElem?_source items i)).2

/-- What stands at a place is the item of the old place, with the number of the new one. -/
theorem get_renumber (items : List Item) (i : Fin (renumber items).length) :
    (renumber items).get i = { items.get (origin items i) with rank := UInt32.ofNat i } := by
  have hi : i < (sorted items).length := i.isLt.trans_eq (numberFrom_length 0 (sorted items))
  have hsorted : (sorted items)[i.val] = (source items i).1 := by
    simp only [← map_fst_origins, List.getElem_map]
    rfl
  have hcounted := getElem_numberFrom 0 (sorted items) i hi i.isLt
  rw [Nat.zero_add, hsorted, ← get_origin] at hcounted
  exact hcounted

theorem precedes_origin {i j : Fin (renumber items).length} (h : i < j) :
    Precedes items (origin items i) (origin items j) := by
  have hordered := List.pairwise_iff_get.1 (origins_pairwise items) (i.cast (origins_length items))
    (j.cast (origins_length items)) h
  rw [Precedes, get_origin, get_origin]
  exact hordered

/-- Places follow each other as the items on them do. -/
theorem lt_iff_precedes_origin {i j : Fin (renumber items).length} :
    i < j ↔ Precedes items (origin items i) (origin items j) := by
  refine ⟨precedes_origin, fun h => ?_⟩
  rcases lt_trichotomy i j with hlt | rfl | hgt
  · exact hlt
  · exact absurd h h.asymm
  · exact absurd h (precedes_origin hgt).asymm

theorem origin_bijective (items : List Item) : Function.Bijective (origin items) := by
  refine (Fintype.bijective_iff_injective_and_card _).2 ⟨?_, ?_⟩
  · refine .of_lt_imp_ne fun i j hlt heq => ?_
    have hself := precedes_origin hlt
    rw [heq] at hself
    exact hself.asymm hself
  · rw [Fintype.card_fin, Fintype.card_fin, renumber_length]

theorem exists_rearranged (items : List Item) :
    ∃ place, Rearranged items (renumber items) place := by
  refine ⟨(Equiv.ofBijective _ (origin_bijective items)).symm, fun k => ?_, fun j k => ?_⟩
  · obtain ⟨i, rfl⟩ := (origin_bijective items).surjective k
    rw [Equiv.ofBijective_symm_apply_apply]
    exact get_renumber items i
  · obtain ⟨i, rfl⟩ := (origin_bijective items).surjective j
    obtain ⟨i', rfl⟩ := (origin_bijective items).surjective k
    rw [Equiv.ofBijective_symm_apply_apply, Equiv.ofBijective_symm_apply_apply]
    exact lt_iff_precedes_origin

/-! ## Counting anew twice -/

/-- Where the ranks are the places already, counting anew changes nothing. -/
theorem renumber_eq_self {list : List Item} (h : Numbered list) : renumber list = list := by
  rw [renumber, sorted_eq_of_perm (.refl list) h.pairwise]
  refine List.ext_getElem (numberFrom_length 0 list) fun k hk hk' => ?_
  rw [getElem_numberFrom 0 list k hk' hk, Nat.zero_add, h.ofNat_eq_rank hk']

/-- Counting anew gives every item a place of its own and the number of this place as its rank, and
changes nothing else.  Items of smaller rank come before those of greater rank, and items of one
rank stay in their order.  Counting anew once more changes nothing. -/
theorem renumber_keeps_order (items : List Item) (h : items.length < UInt32.size) :
    (∃ place, Rearranged items (renumber items) place) ∧
      ((renumber items).map Item.unranked).Perm (items.map Item.unranked) ∧
      Numbered (renumber items) ∧ renumber (renumber items) = renumber items := by
  have hunranked : (renumber items).map Item.unranked = (sorted items).map Item.unranked :=
    map_numberFrom (fun _ _ => rfl) 0 (sorted items)
  have hnumbered : Numbered (renumber items) := numbered_renumber (Nat.le_of_lt h)
  refine ⟨exists_rearranged items, ?_, hnumbered, renumber_eq_self hnumbered⟩
  rw [hunranked]
  exact (sorted_perm items).map _

/-- Four items, two of which share a rank: these two stay in their order, behind the others. -/
theorem wardrobe_renumbered :
    let item := fun n title (rank : UInt32) => { Item.fresh ⟨n⟩ title [] with rank }
    let wardrobe := [item 1 "Coat" 5, item 2 "Bag" 2, item 3 "Scarf" 5, item 4 "Hat" 0]
    wardrobe.length < UInt32.size ∧
      renumber wardrobe = [item 4 "Hat" 0, item 2 "Bag" 1, item 1 "Coat" 2, item 3 "Scarf" 3] ∧
      (∃ place, Rearranged wardrobe (renumber wardrobe) place) ∧
      renumber (renumber wardrobe) = renumber wardrobe := by
  intro item wardrobe
  have hroom : wardrobe.length < UInt32.size := by decide
  obtain ⟨hplace, -, -, htwice⟩ := renumber_keeps_order wardrobe hroom
  exact ⟨hroom, by decide_cbv, hplace, htwice⟩

end OrderDesk.Catalog
