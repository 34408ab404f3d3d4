import OrderDesk.Proofs.Store.CatalogTable
import OrderDesk.Proofs.Store.Heap

/-!
# Two stores, one catalogue

The store in memory gives ranks from the number of items and counts them anew after a removal; the
database takes the rank that follows the greatest one, moves up the rows behind the one that is
removed, and exchanges ranks by two updates.  The rows of the table are the items in memory
(`Mirrors`): each change makes the same items of them (`lowered_perm_renumber`,
`withRanksExchanged_eq_reranked`), so every call gets the same reply from both and leaves them alike
(`mirrors_serve`), and so does every sequence of calls (`Engine.catalog_alike`).
-/

namespace OrderDesk.Store

open Catalog (Item Ranked Numbered sorted renumber)
open Sql (Contents Holdings)

/-! ## The same changes in memory -/

section Memory

open Memory (setRank)

variable {items : List Item} {h : Holdings}

/-- Giving an item another rank where it stands is giving it to the item of its identifier. -/
theorem setRank_eq_reranked (hnodup : (items.map (·.id)).Nodup) {i : Nat} (hi : i < items.length)
    (rank : UInt32) : setRank items i rank = Database.reranked items[i].id rank items := by
  refine List.ext_getElem (by simp [setRank, Database.reranked]) fun k hk _ => ?_
  have hk : k < items.length := by simpa [setRank] using hk
  have hid : items[k].id = items[i].id ↔ i = k := by
    have hkm : k < (items.map (·.id)).length := by simpa using hk
    have him : i < (items.map (·.id)).length := by simpa using hi
    have hinj : (items.map (·.id))[k] = (items.map (·.id))[i] ↔ k = i := hnodup.getElem_inj_iff
    rw [List.getElem_map, List.getElem_map] at hinj
    exact hinj.trans eq_comm
  simp only [setRank, Database.reranked, List.getElem_modify, List.getElem_map, beq_iff_eq, hid]

theorem reranked_ids (id : Uuid) (rank : UInt32) (items : List Item) :
    (Database.reranked id rank items).map (·.id) = items.map (·.id) := by
  rw [Database.reranked, List.map_map]
  refine List.map_congr_left fun x _ => ?_
  simp only [Function.comp_apply]
  split <;> rfl

theorem withRanksExchanged_eq_reranked (hnodup : (items.map (·.id)).Nodup) {i j : Nat}
    (hi : i < items.length) (hj : j < items.length) :
    Catalog.withRanksExchanged items i j hi hj =
      Database.reranked items[j].id items[i].rank
        (Database.reranked items[i].id items[j].rank items) := by
  rw [Catalog.withRanksExchanged, setRank_eq_reranked hnodup hi]
  have hids := reranked_ids items[i].id items[j].rank items
  have hj' : j < (Database.reranked items[i].id items[j].rank items).length := by
    simpa [Database.reranked] using hj
  have hid : (Database.reranked items[i].id items[j].rank items)[j].id = items[j].id := by
    have hget := congrArg (·[j]?) hids
    simpa [hj, hj'] using hget
  rw [setRank_eq_reranked (hids ▸ hnodup) hj', hid]

/-- Moving up the items behind one that is taken out is counting the others anew. -/
theorem lowered_eraseIdx {list : List Item} (hlist : Numbered list) {r : Nat}
    (hr : r < list.length) :
    (list.eraseIdx r).map (Database.lowered list[r].rank) =
      Catalog.numberFrom 0 (list.eraseIdx r) := by
  have hrank := Numbered.getElem_rank hlist hr
  refine List.ext_getElem (by simp [Catalog.numberFrom_length]) fun k hk _ => ?_
  have hk : k < (list.eraseIdx r).length := by simpa using hk
  have hlength := List.length_eraseIdx_of_lt hr
  rw [Catalog.getElem_numberFrom 0 _ k hk, List.getElem_map, Nat.zero_add, List.getElem_eraseIdx,
    Database.lowered]
  split
  · -- in front of the item nothing changes
    rename_i hfront
    have hsame := Numbered.getElem_rank hlist (Nat.lt_trans hfront hr)
    have hnumber := Numbered.ofNat_eq_rank hlist (Nat.lt_trans hfront hr)
    rw [if_neg (by rw [UInt32.lt_iff_toNat_lt]; omega), hnumber]
  · rename_i hbehind
    have hnext := Numbered.getElem_rank hlist (k := k + 1) (by omega)
    have hlowered : list[k + 1].rank - 1 = UInt32.ofNat k := by
      have hpos : 1 ≤ list[k + 1].rank := by
        rw [UInt32.le_iff_toNat_le, hnext]
        exact Nat.le_add_left 1 k
      rw [← UInt32.ofNat_toNat (x := list[k + 1].rank - 1), UInt32.toNat_sub_of_le _ _ hpos, hnext]
      rfl
    rw [if_pos (by rw [UInt32.lt_iff_toNat_lt]; omega), hlowered]

/-- What is left in the table and in memory when an item is taken out. -/
theorem lowered_perm_renumber (hstock : Stock items) {i : Nat} {a : Item}
    (hi : items.findIdx? (·.id == a.id) = some i) (ha : items[i]? = some a) :
    ((items.filter fun x => !(x.id == a.id)).map (Database.lowered a.rank)).Perm
      (renumber (items.eraseIdx i)) := by
  have hnumbered : Numbered (sorted items) := hstock.ranked.sorted
  have hsorted : (sorted items).Perm items := Catalog.sorted_perm items
  obtain ⟨hilt, hia⟩ := List.getElem?_eq_some_iff.1 ha
  -- among the sorted items the item stands where its rank says
  obtain ⟨r, hr, hra⟩ := List.getElem_of_mem (hsorted.mem_iff.2 (hia ▸ List.getElem_mem hilt))
  have herased : (items.eraseIdx i).Perm ((sorted items).eraseIdx r) := by
    have hitems := List.getElem_cons_eraseIdx_perm hilt
    have hlist := List.getElem_cons_eraseIdx_perm hr
    rw [hia] at hitems
    rw [hra] at hlist
    exact (hitems.trans (hsorted.symm.trans hlist.symm)).cons_inv
  have hpairwise : ((sorted items).eraseIdx r).Pairwise fun x y => x.rank < y.rank :=
    hnumbered.pairwise.sublist (List.eraseIdx_sublist _ _)
  have hkept : items.filter (fun x => !(x.id == a.id)) = items.eraseIdx i := by
    rw [Catalog.eraseIdx_eq_filter hstock.nodup hi]
    exact List.filter_congr fun x _ => Bool.eq_iff_iff.2 (by simp)
  calc (items.filter fun x => !(x.id == a.id)).map (Database.lowered a.rank)
      = (items.eraseIdx i).map (Database.lowered a.rank) := by rw [hkept]
    List.Perm _ (((sorted items).eraseIdx r).map (Database.lowered a.rank)) := herased.map _
    _ = Catalog.numberFrom 0 ((sorted items).eraseIdx r) := by
      rw [← hra, lowered_eraseIdx hnumbered hr]
    _ = renumber (items.eraseIdx i) := by
      rw [renumber, Catalog.sorted_eq_of_perm herased hpairwise]

end Memory

/-! ## Calls to both stores -/

/-- The store in memory and the database hold the same catalogue, and no transaction is open. -/
structure Mirrors (m : Memory) (h : Holdings) : Prop where
  stock : Stock m.items
  rows : Stocks m.items h
  /-- No transaction is open. -/
  closed : h.before = none

/-- What is asked for is a matter of the catalogue, and both stores have room for it: an item is added
under an identifier that is not in use, its price has 63 bits, and so does its rank. -/
def Memory.Fits (m : Memory) : Call → Prop
  | .addItem item => item.id ∉ m.items.map (·.id) ∧ item.priceRub.toNat < 2 ^ 63 ∧
    m.items.length + 1 < 2 ^ 31
  | .removeItem _ => True
  | .swapRanks _ _ => True
  | .rankOf _ => True
  | .idAt _ => True
  | .catalog => True
  | _ => False

instance (m : Memory) : (c : Call) → Decidable (m.Fits c)
  | .addItem item => inferInstanceAs (Decidable (item.id ∉ m.items.map (·.id) ∧
    item.priceRub.toNat < 2 ^ 63 ∧ m.items.length + 1 < 2 ^ 31))
  | .removeItem _ | .swapRanks _ _ | .rankOf _ | .idAt _ | .catalog => .isTrue trivial
  | .customer _ | .saveCustomer _ | .updateCustomer _ _ | .updateStep _ _ | .resetOffsets
  | .saveOrder _ | .order _ | .freeShortId | .ordersOf _ | .markPaid _ _ => .isFalse id

namespace Mirrors

variable {m : Memory} {h : Holdings}

/-- The catalogue in memory has the identifiers of the items. -/
theorem fresh_iff (m : Memory) (id : Uuid) :
    id ∉ m.catalog.map (·.id) ↔ id ∉ m.items.map (·.id) :=
  not_congr ((Catalog.sorted_perm m.items).map _).mem_iff

/-- Items after a change can be kept by both stores if their prices were there before. -/
theorem stock_of_prices {list : List Item} (hstock : Stock m.items) (hranked : Ranked list)
    (hnodup : (list.map (·.id)).Nodup)
    (hprices : (list.map (·.priceRub)).Subperm (m.items.map (·.priceRub))) : Stock list := by
  refine ⟨hranked, hnodup, fun x hx => ?_, ?_⟩
  · obtain ⟨y, hy, hprice⟩ := List.mem_map.1 (hprices.subset (List.mem_map_of_mem hx))
    exact hprice ▸ hstock.priced y hy
  · have hlength := hprices.length_le
    rw [List.length_map, List.length_map] at hlength
    exact Nat.lt_of_le_of_lt hlength hstock.room

theorem stock_addItem {item : Item} (hstock : Stock m.items) (hfits : m.Fits (.addItem item)) :
    Stock (m.addItem item).2.items := by
  obtain ⟨hfresh, hprice, hroom⟩ := hfits
  have hlength : (m.addItem item).2.items.length = m.items.length + 1 := List.length_append
  refine ⟨?_, Memory.nodup_addItem hstock.nodup ((fresh_iff m _).2 hfresh), ?_, hlength ▸ hroom⟩
  · exact Memory.ranked_after (fun _ => hstock.ranked) (.add item)
      (Nat.lt_trans (hlength ▸ hroom : (m.addItem item).2.items.length < 2 ^ 31) (by decide))
  · intro x hx
    rcases List.mem_append.1 hx with hx | hx
    · exact hstock.priced x hx
    · exact List.mem_singleton.1 hx ▸ hprice

theorem stock_removeItem (hstock : Stock m.items) (i : Nat) :
    Stock (renumber (m.items.eraseIdx i)) := by
  have herased := List.eraseIdx_sublist m.items i
  have hroom : (m.items.eraseIdx i).length ≤ UInt32.size :=
    Nat.le_trans herased.length_le (Nat.le_of_lt (Nat.lt_trans hstock.room (by decide)))
  refine stock_of_prices hstock (Catalog.numbered_renumber hroom).ranked
    (Catalog.nodup_ids_renumber hstock.nodup i) ?_
  rw [renumber, Catalog.map_numberFrom fun _ _ => rfl]
  exact ((Catalog.sorted_perm _).map _).subperm.trans (herased.map _).subperm

theorem stock_swapRanks (hstock : Stock m.items) {i j : Nat} (hi : i < m.items.length)
    (hj : j < m.items.length) : Stock (Catalog.withRanksExchanged m.items i j hi hj) := by
  refine stock_of_prices hstock hstock.ranked.withRanksExchanged
    (Catalog.nodup_ids_withRanksExchanged hstock.nodup) ?_
  rw [Catalog.map_withRanksExchanged fun _ _ => rfl]

end Mirrors

namespace Database

section Serving

variable {α β : Type} {job : Job α} {f : α → Job β} {tables : Contents} {items : List Item}
  {P : Except StoreError β → Holdings → Prop}

/-- Work goes on with the catalogue that a transaction leaves. -/
theorem ensures_committed {a : α}
    (hjob : job.Ensures keyColumns ⟨tables, some tables⟩ fun r h' =>
      h'.before = some tables ∧ r = .ok a ∧ Stocks items h')
    (hf : ∀ h', Stocks items h' → h'.before = none → (f a).Ensures keyColumns h' P) :
    (transaction job >>= f).Ensures keyColumns ⟨tables, none⟩ P := by
  refine ensures_bind (ensures_transaction (hjob.mono fun r h' hr => ?_))
  obtain ⟨hbefore, rfl, hrows⟩ := hr
  exact ⟨hbefore, hf ⟨h'.tables, none⟩ hrows rfl⟩

/-- Work ends with the error of a transaction, and nothing is changed. -/
theorem ensures_refused {e : StoreError}
    (hjob : job.Ensures keyColumns ⟨tables, some tables⟩ fun r h' =>
      h'.before = some tables ∧ r = .error e)
    (hP : P (.error e) ⟨tables, none⟩) :
    (transaction job >>= f).Ensures keyColumns ⟨tables, none⟩ P := by
  refine ensures_bind (ensures_transaction (hjob.mono fun r h' hr => ?_))
  obtain ⟨hbefore, rfl⟩ := hr
  exact ⟨hbefore, hP⟩

variable {m : Memory} {h : Holdings}

/-- An announcement changes nothing. -/
theorem mirrors_announced {m : Memory} {h : Holdings} (hm : Mirrors m h) (listening : Bool) :
    (announce listening).Ensures keyColumns h fun r h' => r = .ok () ∧ Mirrors m h' := by
  refine (ensures_announced hm.stock hm.rows listening).mono fun r h' hr => ?_
  obtain ⟨rfl, rfl⟩ := hr
  exact ⟨rfl, hm⟩

theorem mirrors_addItem {item : Item} (hm : Mirrors m h) (hfits : m.Fits (.addItem item))
    (listening : Bool) :
    (serve listening (.addItem item)).Ensures keyColumns h fun r h' =>
      r = .ok (m.addItem item).1 ∧ Mirrors (m.addItem item).2 h' := by
  obtain ⟨tables, before⟩ := h
  obtain rfl : before = none := hm.closed
  have hinsert := ensures_insertItem (h := ⟨tables, some tables⟩) hm.stock hm.rows rfl hfits.1
    hfits.2.1
  refine ensures_committed hinsert fun h' hrows hclosed => ?_
  have hm' : Mirrors (m.addItem item).2 h' := ⟨Mirrors.stock_addItem hm.stock hfits, hrows, hclosed⟩
  refine ensures_bind ((mirrors_announced hm' listening).mono fun r h'' hr => ?_)
  obtain ⟨rfl, hm''⟩ := hr
  exact ensures_pure ⟨rfl, hm''⟩

theorem mirrors_removeItem (hm : Mirrors m h) (id : Uuid) (listening : Bool) :
    (serve listening (.removeItem id)).Ensures keyColumns h fun r h' =>
      match m.removeItem id with
      | .ok m' => r = .ok () ∧ Mirrors m' h'
      | .error e => r = .error e ∧ Mirrors m h' := by
  obtain ⟨tables, before⟩ := h
  obtain rfl : before = none := hm.closed
  have hdelete := ensures_deleteItem (h := ⟨tables, some tables⟩) hm.stock hm.rows id
  obtain ⟨hany, hfail⟩ | ⟨i, hi, hremoved⟩ := Memory.removeItem_cases m id
  · rw [hfail]
    have hnone : m.items.find? (·.id == id) = none := by
      simpa [List.find?_eq_none] using hany
    rw [hnone] at hdelete
    exact ensures_refused hdelete ⟨rfl, hm⟩
  · rw [hremoved]
    obtain ⟨hilt, rfl⟩ := Catalog.findIdx?_id hi
    rw [Catalog.find?_key hm.stock.nodup (List.getElem_mem hilt)] at hdelete
    have hperm := lowered_perm_renumber hm.stock hi (List.getElem?_eq_getElem hilt)
    refine ensures_committed hdelete fun h' hrows hclosed => ?_
    refine mirrors_announced ⟨Mirrors.stock_removeItem hm.stock i, ?_, hclosed⟩ listening
    exact hrows.trans (Multiset.coe_eq_coe.2 (hperm.map itemRow))

theorem mirrors_swapRanks (hm : Mirrors m h) (up down : Uuid) (listening : Bool) :
    (serve listening (.swapRanks up down)).Ensures keyColumns h fun r h' =>
      match m.swapRanks up down with
      | .ok m' => r = .ok () ∧ Mirrors m' h'
      | .error e => r = .error e ∧ Mirrors m h' := by
  obtain ⟨tables, before⟩ := h
  obtain rfl : before = none := hm.closed
  have hexchange := ensures_exchange (h := ⟨tables, some tables⟩) hm.stock hm.rows up down
  have absent {id : Uuid} (hany : m.items.any (·.id == id) = false) :
      m.items.find? (·.id == id) = none := by
    simpa [List.find?_eq_none] using hany
  obtain ⟨hup, hfail⟩ | ⟨hup, hdown, hfail⟩ | ⟨i, j, hi, hj, rfl, rfl, hswapped⟩ :=
    Memory.swapRanks_cases m up down
  · rw [hfail]
    rw [absent hup] at hexchange
    exact ensures_refused hexchange ⟨rfl, hm⟩
  · rw [hfail]
    obtain ⟨a, ha⟩ := Option.isSome_iff_exists.1 (List.find?_isSome.2 (List.any_eq_true.1 hup))
    rw [ha, absent hdown] at hexchange
    exact ensures_refused hexchange ⟨rfl, hm⟩
  · rw [hswapped]
    rw [Catalog.find?_key hm.stock.nodup (List.getElem_mem hi),
      Catalog.find?_key hm.stock.nodup (List.getElem_mem hj)] at hexchange
    refine ensures_committed hexchange fun h' hrows hclosed => ?_
    refine mirrors_announced ⟨Mirrors.stock_swapRanks hm.stock hi hj, ?_, hclosed⟩ listening
    rw [withRanksExchanged_eq_reranked hm.stock.nodup hi hj]
    exact hrows

/-- Both stores reply alike, and stay alike. -/
theorem mirrors_serve {c : Store.Call} (hm : Mirrors m h) (hfits : m.Fits c) (listening : Bool)
    (next : Nat → String) (drawn : Nat) :
    (serve listening c).Ensures keyColumns h fun r h' =>
      r = (m.serve next drawn c).1 ∧ Mirrors (m.after c) h' := by
  cases c with
  | addItem item => exact mirrors_addItem hm hfits listening
  | removeItem id =>
    refine (mirrors_removeItem hm id listening).mono fun r h' hr => ?_
    cases hremoved : m.removeItem id with
    | ok m' => simpa only [Memory.serve, Memory.after, Memory.announce, hremoved] using hr
    | error e => simpa only [Memory.serve, Memory.after, Memory.announce, hremoved] using hr
  | swapRanks up down =>
    refine (mirrors_swapRanks hm up down listening).mono fun r h' hr => ?_
    cases hswapped : m.swapRanks up down with
    | ok m' => simpa only [Memory.serve, Memory.after, Memory.announce, hswapped] using hr
    | error e => simpa only [Memory.serve, Memory.after, Memory.announce, hswapped] using hr
  | rankOf id =>
    refine ensures_bind ((ensures_rank hm.stock hm.rows id false).mono fun r h' hr => ?_)
    obtain ⟨rfl, rfl⟩ := hr
    simp only [Memory.serve, Memory.rankOf, Memory.item?]
    cases m.items.find? (·.id == id) with
    | none => exact ⟨rfl, hm⟩
    | some x => exact ensures_pure ⟨rfl, hm⟩
  | idAt rank =>
    refine (ensures_idAt hm.stock hm.rows rank).mono fun r h' hr => ?_
    obtain ⟨rfl, rfl⟩ := hr
    simp only [Memory.serve, Memory.idAt]
    cases m.items.find? (·.rank == rank) with
    | none => exact ⟨rfl, hm⟩
    | some x => exact ⟨rfl, hm⟩
  | catalog =>
    refine (ensures_catalog hm.stock hm.rows).mono fun r h' hr => ?_
    obtain ⟨rfl, rfl⟩ := hr
    exact ⟨rfl, hm⟩
  | _ => exact hfits.elim

end Serving

/-! ## Sequences of calls -/

namespace Engine

variable {D : Type} (E : Engine keyColumns D) (listening : Bool)

/-- A call to the store in the database. -/
def ask (c : Store.Call) (d : D) : c.Reply × D := (Database.serve listening c).run.run E.serve d

/-- The database after calls. -/
def after (d : D) (calls : List Store.Call) : D :=
  calls.foldl (fun d c => (E.ask listening c d).2) d

end Engine

end Database

/-- All calls fit the store as it is then. -/
def Memory.AllFit : Memory → List Call → Prop
  | _, [] => True
  | m, c :: calls => m.Fits c ∧ (m.after c).AllFit calls

instance Memory.decidableAllFit : (m : Memory) → (calls : List Call) → Decidable (m.AllFit calls)
  | _, [] => .isTrue trivial
  | m, c :: calls =>
    have := decidableAllFit (m.after c) calls
    inferInstanceAs (Decidable (m.Fits c ∧ (m.after c).AllFit calls))

open Database (Engine)

theorem Mirrors.after {D : Type} (E : Engine keyColumns D) (listening : Bool) {m : Memory} {d : D}
    {calls : List Call} (hm : Mirrors m (E.holdings d)) (hfit : m.AllFit calls) :
    Mirrors (calls.foldl Memory.after m) (E.holdings (E.after listening d calls)) := by
  induction calls generalizing m d with
  | nil => exact hm
  | cons c calls ih =>
    have hserved := (Database.mirrors_serve hm hfit.1 listening (fun _ => "") 0).run E
    exact ih hserved.2 hfit.2

theorem Memory.AllFit.split {m : Memory} {calls calls' : List Call}
    (h : m.AllFit (calls ++ calls')) :
    m.AllFit calls ∧ (calls.foldl Memory.after m).AllFit calls' := by
  induction calls generalizing m with
  | nil => exact ⟨trivial, h⟩
  | cons c calls ih => exact ⟨⟨h.1, (ih h.2).1⟩, (ih h.2).2⟩

/-- Two stores with an empty catalogue are asked the same things about it.  Whichever call comes
next gets the same reply from both, and the catalogue is then the same in both, in the order of its
ranks from 0 on. -/
theorem Database.Engine.catalog_alike {D : Type} (E : Engine keyColumns D) (listening : Bool) {m : Memory}
    {d : D} (hitems : m.items = []) (htable : (E.holdings d).tables "catalog" = 0)
    (hclosed : (E.holdings d).before = none) {calls : List Store.Call} {c : Store.Call}
    (hfit : m.AllFit (calls ++ [c])) (next : Nat → String) (drawn : Nat) :
    (E.ask listening c (E.after listening d calls)).1 =
        ((calls.foldl Memory.after m).serve next drawn c).1 ∧
      (E.ask listening .catalog (E.after listening d (calls ++ [c]))).1 =
        .ok ((calls ++ [c]).foldl Memory.after m).catalog ∧
      Numbered ((calls ++ [c]).foldl Memory.after m).catalog := by
  have hstart : Mirrors m (E.holdings d) := by
    refine ⟨?_, ?_, hclosed⟩
    · rw [hitems]
      exact ⟨.refl _, List.nodup_nil, List.forall_mem_nil _, by decide⟩
    · rw [Stocks, hitems, htable]
      rfl
  obtain ⟨hbefore, hlast⟩ := hfit.split
  have hcalls := hstart.after E listening hbefore
  have hall := hstart.after E listening hfit
  refine ⟨((Database.mirrors_serve hcalls hlast.1 listening next drawn).run E).1, ?_,
    hall.stock.ranked.sorted⟩
  exact ((Database.ensures_catalog hall.stock hall.rows).run E).1

/-- Three items, of which the last is moved to the front and the second is taken out and comes back
at the end, with calls that find nothing in between, in a database kept in lists. -/
theorem Heap.rearranged_alike :
    let item := fun n title => Item.fresh ⟨n⟩ title []
    let coat := item 1 "Coat"
    let bag := { item 2 "Bag" with quantity := 0xFFFFFFFF, availableSizes := ["M", "L"] }
    let scarf := item 3 "Scarf"
    let calls : List Call := [.addItem coat, .addItem bag, .idAt 0xFFFFFFFF, .addItem scarf,
      .swapRanks ⟨3⟩ ⟨1⟩, .rankOf ⟨4⟩, .swapRanks ⟨2⟩ ⟨2⟩, .swapRanks ⟨1⟩ ⟨4⟩, .removeItem ⟨4⟩,
      .removeItem ⟨2⟩]
    Memory.empty.AllFit (calls ++ [.addItem bag]) ∧
      ((engine keyColumns).ask true (.addItem bag) ((engine keyColumns).after true empty calls)).1 =
        .ok 2 ∧
      ((engine keyColumns).ask true .catalog
        ((engine keyColumns).after true empty (calls ++ [.addItem bag]))).1 =
        .ok [scarf, { coat with rank := 1 }, { bag with rank := 2 }] := by
  intro item coat bag scarf calls
  have hfit : Memory.empty.AllFit (calls ++ [.addItem bag]) := by decide_cbv
  obtain ⟨hreply, hcatalog, -⟩ := Database.Engine.catalog_alike (engine keyColumns) true
    (d := empty) rfl rfl rfl hfit (fun _ => "") 0
  have hrank : ((calls.foldl Memory.after .empty).serve (fun _ => "") 0 (.addItem bag)).1 =
      .ok 2 := by cbv
  have hlist : ((calls ++ [Call.addItem bag]).foldl Memory.after .empty).catalog =
      [scarf, { coat with rank := 1 }, { bag with rank := 2 }] := by decide_cbv
  exact ⟨hfit, hreply.trans hrank, hlist ▸ hcatalog⟩

end OrderDesk.Store
