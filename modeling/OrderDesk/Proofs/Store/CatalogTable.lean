import OrderDesk.Proofs.Store.Catalog
import OrderDesk.Proofs.Store.Engine
import OrderDesk.Proofs.Store.Rows

/-!
# The table of the catalogue

Items are rows of one table (`Stocks`), and every piece of work on it is described by what it makes
of the items, whatever else the engine decides (`ensures_insertItem`, `ensures_deleteItem`,
`ensures_exchange`, `ensures_rank`, `ensures_idAt`, `ensures_catalog`).  The descriptions rest on
what is true of items with ranks from 0 on (`Stock`): the rank after the greatest one is their
number, one row at most has an identifier or a rank, and the order of the ranks is no tie.
-/

namespace OrderDesk.Store

open Catalog (Item Ranked Numbered sorted renumber)
open Sql (Answer Condition Contents Datum Holdings Row Scalar Statement)

/-! ## The table of the catalogue -/

/-- Columns in which no two rows of a table have the same. -/
def keyColumns : String → List String
  | "customers" => ["telegram_id"]
  | "catalog" => ["item_id"]
  | "orders" => ["order_id", "short_id"]
  | _ => []

/-- The table of the catalogue has one row for each item. -/
def Stocks (items : List Item) (h : Holdings) : Prop := h.tables "catalog" = ↑(items.map itemRow)

/-- Items that both stores can keep: ranks count from 0 and have 31 bits, identifiers are not shared,
and prices have 63 bits. -/
structure Stock (items : List Item) : Prop where
  ranked : Ranked items
  nodup : (items.map (·.id)).Nodup
  /-- Prices have 63 bits. -/
  priced : ∀ x ∈ items, x.priceRub.toNat < 2 ^ 63
  /-- Ranks have 31 bits. -/
  room : items.length < 2 ^ 31

section Items

variable {items : List Item} {h : Holdings}

theorem toInt_toInt32 {n : UInt32} (h : n.toNat < 2 ^ 31) : n.toInt32.toInt = n.toNat := by
  have hbound : 2 * n.toBitVec.toNat < 2 ^ 32 := by
    rw [UInt32.toNat_toBitVec]
    omega
  exact BitVec.toInt_eq_toNat_of_lt hbound

theorem Stock.rank_lt (hstock : Stock items) {x : Item} (hx : x ∈ items) :
    x.rank.toNat < items.length :=
  List.mem_range.1 (hstock.ranked.mem_iff.1 (List.mem_map_of_mem hx))

theorem Stock.number?_rank (hstock : Stock items) {x : Item} (hx : x ∈ items) :
    (itemRow x).number? "rank" = some (x.rank.toNat : Int) := by
  have hrank : x.rank.toNat < 2 ^ 31 := Nat.lt_trans (hstock.rank_lt hx) hstock.room
  rw [Row.number?, itemRow_rank, Option.bind_some]
  exact congrArg some (toInt_toInt32 hrank)

/-- Where no two items have the same key, the items of a key are the one that is found. -/
theorem filter_key {β : Type} [DecidableEq β] {key : Item → β} (hkey : (items.map key).Nodup)
    (k : β) : items.filter (key · == k) = (items.find? (key · == k)).toList := by
  induction items with
  | nil => rfl
  | cons x xs ih =>
    rw [List.map_cons, List.nodup_cons] at hkey
    by_cases hx : key x = k
    · have hrest : xs.filter (key · == k) = [] := by
        refine List.filter_eq_nil_iff.2 fun y hy hyk => hkey.1 ?_
        exact List.mem_map.2 ⟨y, hy, (eq_of_beq hyk).trans hx.symm⟩
      simp [hx, hrest]
    · simp [hx, ih hkey.2]

/-- The rows that meet a condition are those of the items that do. -/
theorem Stocks.filter (hitems : Stocks items h) {conditions : List Condition} {p : Item → Bool}
    (hp : ∀ x ∈ items, (itemRow x).meets conditions = p x) :
    (h.tables "catalog").filter (·.meets conditions) = ↑((items.filter p).map itemRow) := by
  rw [hitems, Multiset.filter_coe, List.filter_map]
  refine congrArg (fun l => (↑(l.map itemRow) : Multiset Row)) (List.filter_congr fun x hx => ?_)
  simpa using hp x hx

theorem meets_id (x : Item) (id : Uuid) :
    (itemRow x).meets [.equal "item_id" (.uuid id)] = (x.id == id) := by
  simp [Row.meets, Condition.holds, Datum.equals]

theorem meets_rank (x : Item) (rank : UInt32) :
    (itemRow x).meets [.equal "rank" (.integer rank.toInt32)] = (x.rank == rank) := by
  have hinj : x.rank.toInt32 = rank.toInt32 ↔ x.rank = rank :=
    ⟨fun heq => by simpa using congrArg Int32.toUInt32 heq, fun heq => heq ▸ rfl⟩
  rw [Bool.eq_iff_iff]
  simp [Row.meets, Condition.holds, Datum.equals, hinj]

theorem meets_above (hstock : Stock items) {x y : Item} (hx : x ∈ items) (hy : y ∈ items) :
    (itemRow x).meets [.above "rank" (.integer y.rank.toInt32)] = decide (y.rank < x.rank) := by
  have hrank : y.rank.toNat < 2 ^ 31 := Nat.lt_trans (hstock.rank_lt hy) hstock.room
  have hnumber : (Datum.integer y.rank.toInt32).number? = some (y.rank.toNat : Int) :=
    congrArg some (toInt_toInt32 hrank)
  simp [Row.meets, Condition.holds, hstock.number?_rank hx, hnumber, UInt32.lt_iff_toNat_lt]

/-- Rows by rank are the items by rank. -/
theorem Stock.rows_sorted (hstock : Stock items) {rows : List Row}
    (hrows : rows.Perm (items.map itemRow)) (horder : rows.Pairwise (Row.NotAfter "rank")) :
    rows = (sorted items).map itemRow := by
  have hcomp : Relation.Comp (fun rows list => rows = List.map itemRow list) List.Perm rows items := by
    rw [List.eq_map_comp_perm]
    exact hrows
  obtain ⟨list, rfl, hlist⟩ := hcomp
  have hnumber : ∀ x ∈ list, (itemRow x).number? "rank" = some (x.rank.toNat : Int) :=
    fun x hx => hstock.number?_rank (hlist.mem_iff.1 hx)
  have hle : list.Pairwise fun a b => a.rank ≤ b.rank := by
    refine (List.pairwise_map.1 horder).imp_of_mem fun {a b} ha hb hab => ?_
    exact Int.ofNat_le.1 (hab _ (hnumber a ha) _ (hnumber b hb))
  have hne : list.Pairwise fun a b => a.rank ≠ b.rank := by
    rw [← List.pairwise_map]
    exact (hlist.map _).nodup_iff.2 hstock.ranked.nodup
  have hlt : list.Pairwise fun a b => a.rank < b.rank :=
    (hle.and hne).imp fun hab => UInt32.lt_of_le_of_ne hab.1 hab.2
  rw [Catalog.sorted_eq_of_perm hlist.symm hlt]

end Items

namespace Database

/-! ## Reading -/

section Reading

variable {keys : String → List String} {items : List Item} {h : Holdings}

/-- The column of the only item that meets a condition, if there is one. -/
theorem ensures_selectColumn {column : String} {condition : Condition} {locked : Bool}
    {otherwise : StoreError} {p : Item → Bool} {found : Option Item}
    {P : Except StoreError Row → Holdings → Prop} (hitems : Stocks items h)
    (hp : ∀ x ∈ items, (itemRow x).meets [condition] = p x) (hfound : items.filter p = found.toList)
    (hP : P (found.elim (.error otherwise) fun x => .ok ((itemRow x).only column)) h) :
    (firstRow (.selectColumn column "catalog" condition locked) otherwise).Ensures keys h P := by
  have hselected : ((h.tables "catalog").filter (·.meets [condition])).map (Row.only column) =
      ↑(found.toList.map fun x => (itemRow x).only column) := by
    rw [hitems.filter hp, hfound, Multiset.map_coe, List.map_map]
    rfl
  refine ensures_firstRow ⟨_, _, .selectColumn hselected.symm⟩ fun a h' houtcome => ?_
  cases houtcome with
  | selectColumn hrows =>
    rename_i rows
    rw [hselected, Multiset.coe_eq_coe] at hrows
    cases found with
    | none =>
      obtain rfl := List.perm_nil.1 hrows
      exact hP
    | some x =>
      obtain rfl := List.perm_singleton.1 hrows
      exact hP

theorem ensures_rank (hstock : Stock items) (hitems : Stocks items h) (id : Uuid) (locked : Bool) :
    (rank id locked).Ensures keys h fun r h' =>
      r = ((items.find? (·.id == id)).elim (.error (.noItem id)) fun x => .ok x.rank.toInt32) ∧
        h' = h := by
  refine ensures_bind (ensures_selectColumn hitems (fun x _ => meets_id x id)
    (filter_key hstock.nodup id) ?_)
  cases items.find? (·.id == id) with
  | none => exact ⟨rfl, rfl⟩
  | some x =>
    have hrank : onlyColumn ((itemRow x).only "rank") Datum.integer? = .ok x.rank.toInt32 := by
      simp [onlyColumn, Row.first?, Row.only, Datum.integer?]
    exact ensures_ofExcept ⟨hrank, rfl⟩

theorem ensures_idAt (hstock : Stock items) (hitems : Stocks items h) (rank : UInt32) :
    (idAt rank).Ensures keys h fun r h' =>
      r = ((items.find? (·.rank == rank)).elim
        (.error (.itemNotFound ("rank " ++ Decimal.ofNat rank.toNat))) fun x => .ok x.id) ∧
        h' = h := by
  refine ensures_bind (ensures_selectColumn hitems (fun x _ => meets_rank x rank)
    (filter_key hstock.ranked.nodup rank) ?_)
  cases items.find? (·.rank == rank) with
  | none => exact ⟨rfl, rfl⟩
  | some x =>
    have hid : onlyColumn ((itemRow x).only "item_id") Datum.uuid? = .ok x.id := by
      simp [onlyColumn, Row.first?, Row.only, Datum.uuid?]
    exact ensures_ofExcept ⟨hid, rfl⟩

theorem ensures_catalog (hstock : Stock items) (hitems : Stocks items h) :
    catalog.Ensures keys h fun r h' => r = .ok (sorted items) ∧ h' = h := by
  have hall : (h.tables "catalog").filter (·.meets []) = ↑(items.map itemRow) := by
    rw [hitems.filter (p := fun _ => true) fun _ _ => rfl, List.filter_true]
  have hsorted : (sorted items).Perm items := Catalog.sorted_perm items
  have horder : ((sorted items).map itemRow).Pairwise (Row.NotAfter "rank") := by
    refine List.pairwise_map.2 ((Catalog.sorted_pairwise items).imp_of_mem ?_)
    intro a b ha hb hab m hm n hn
    rw [hstock.number?_rank (hsorted.mem_iff.1 ha)] at hm
    rw [hstock.number?_rank (hsorted.mem_iff.1 hb)] at hn
    cases hm
    cases hn
    exact Int.ofNat_le.2 hab
  have hcan : (↑((sorted items).map itemRow) : Multiset Row) =
      (h.tables "catalog").filter (·.meets []) := by
    rw [hall, Multiset.coe_eq_coe]
    exact hsorted.map itemRow
  refine ensures_bind (ensures_execute ⟨_, _, .select hcan fun column hcolumn =>
    Option.some.inj hcolumn ▸ horder⟩ fun a h' houtcome => ?_)
  cases houtcome with
  | select hrows horder =>
    rw [hall, Multiset.coe_eq_coe] at hrows
    rw [hstock.rows_sorted hrows (horder "rank" rfl)]
    refine ensures_ofExcept ⟨?_, rfl⟩
    exact mapM_itemOfRow fun x hx => hstock.priced x (hsorted.mem_iff.1 hx)

theorem ensures_announced (hstock : Stock items) (hitems : Stocks items h) (listening : Bool) :
    (announce listening).Ensures keys h fun r h' => r = .ok () ∧ h' = h := by
  cases listening with
  | false => exact ensures_pure ⟨rfl, rfl⟩
  | true =>
    refine ensures_bind ((ensures_catalog hstock hitems).mono fun r h' hr => ?_)
    obtain ⟨rfl, rfl⟩ := hr
    exact ensures_announce ⟨rfl, rfl⟩

end Reading

/-! ## Writing -/

section Writing

variable {items : List Item} {h : Holdings}

theorem stocks_put {rows : Multiset Row} (hrows : rows = ↑(items.map itemRow)) :
    Stocks items (h.put "catalog" rows) := by
  show Function.update h.tables "catalog" rows "catalog" = _
  rw [Function.update_self, hrows]

/-- An update changes the items of the rows that meet its conditions. -/
theorem ensures_update {columns : List (String × Scalar)} {conditions : List Condition}
    {p : Item → Bool} {f : Item → Item} {P : Except StoreError Answer → Holdings → Prop}
    (hitems : Stocks items h) (hkeys : ∀ c ∈ columns, c.1 ∉ keyColumns "catalog")
    (hp : ∀ x ∈ items, (itemRow x).meets conditions = p x)
    (hf : ∀ x ∈ items, p x → (itemRow x).assign? columns = some (itemRow (f x)))
    (hP : ∀ a h', Stocks (items.map fun x => if p x then f x else x) h' → h'.before = h.before →
      P (.ok a) h') :
    (execute (.update "catalog" columns conditions)).Ensures keyColumns h P := by
  have hmem : ∀ row ∈ h.tables "catalog", ∃ x ∈ items, itemRow x = row := by
    intro row hrow
    rw [hitems, Multiset.mem_coe] at hrow
    exact List.mem_map.1 hrow
  have hassign : ∀ row ∈ h.tables "catalog", row.meets conditions → (row.assign? columns).isSome := by
    intro row hrow hmeets
    obtain ⟨x, hx, rfl⟩ := hmem row hrow
    rw [hp x hx] at hmeets
    rw [hf x hx hmeets]
    rfl
  have hrows : ((h.tables "catalog").map fun row =>
      if row.meets conditions then (row.assign? columns).getD row else row) =
        ↑((items.map fun x => if p x then f x else x).map itemRow) := by
    rw [hitems, Multiset.map_coe, List.map_map, List.map_map]
    refine congrArg _ (List.map_congr_left fun x hx => ?_)
    simp only [Function.comp_apply, hp x hx]
    by_cases hpx : p x
    · simp only [hpx, if_true, hf x hx hpx, Option.getD_some]
    · simp only [hpx, Bool.false_eq_true, if_false]
  refine ensures_execute ⟨_, _, .update hkeys hassign⟩ fun a h' houtcome => ?_
  cases houtcome with
  | update _ _ => exact hP _ _ (stocks_put hrows) rfl

/-- A deletion takes out the item that meets its condition. -/
theorem ensures_delete {condition : Condition} {otherwise : StoreError} {p : Item → Bool}
    {found : Option Item} {P : Except StoreError Row → Holdings → Prop} (hitems : Stocks items h)
    (hp : ∀ x ∈ items, (itemRow x).meets [condition] = p x) (hfound : items.filter p = found.toList)
    (hP : ∀ h', Stocks (items.filter fun x => !p x) h' → h'.before = h.before →
      P (found.elim (.error otherwise) fun x => .ok ((itemRow x).only "rank")) h') :
    (firstRow (.delete "catalog" condition "rank") otherwise).Ensures keyColumns h P := by
  have hdeleted : ((h.tables "catalog").filter (·.meets [condition])).map (Row.only "rank") =
      ↑(found.toList.map fun x => (itemRow x).only "rank") := by
    rw [hitems.filter hp, hfound, Multiset.map_coe, List.map_map]
    rfl
  have hleft : ((h.tables "catalog").filter fun row => ¬ row.meets [condition]) =
      ↑((items.filter fun x => !p x).map itemRow) := by
    rw [hitems, Multiset.filter_coe, List.filter_map]
    refine congrArg (fun l => (↑(l.map itemRow) : Multiset Row)) (List.filter_congr fun x hx => ?_)
    simp [hp x hx]
  refine ensures_firstRow ⟨_, _, .delete hdeleted.symm⟩ fun a h' houtcome => ?_
  cases houtcome with
  | delete hrows =>
    have hafter := hP _ (stocks_put hleft) rfl
    rw [hdeleted, Multiset.coe_eq_coe] at hrows
    cases found with
    | none =>
      obtain rfl := List.perm_nil.1 hrows
      exact hafter
    | some x =>
      obtain rfl := List.perm_singleton.1 hrows
      exact hafter

/-- An item that is moved up where it stands behind a rank. -/
def lowered (rank : UInt32) (x : Item) : Item :=
  if rank < x.rank then { x with rank := x.rank - 1 } else x

/-- The items with another rank for the one of an identifier. -/
def reranked (id : Uuid) (rank : UInt32) (items : List Item) : List Item :=
  items.map fun x => if x.id == id then { x with rank } else x

theorem ensures_setRank (hitems : Stocks items h) (id : Uuid) (rank : Int32) :
    (setRank id rank).Ensures keyColumns h fun r h' =>
      r = .ok () ∧ Stocks (reranked id rank.toUInt32 items) h' ∧ h'.before = h.before := by
  refine ensures_bind (ensures_update (f := fun x => { x with rank := rank.toUInt32 }) hitems
    (by simp [keyColumns]) (fun x _ => meets_id x id) (fun x _ _ => ?_) fun a h' hitems' hbefore => ?_)
  · exact congrArg some (itemRow_set_rank x rank)
  · exact ensures_pure ⟨rfl, hitems', hbefore⟩

theorem ensures_exchange (hstock : Stock items) (hitems : Stocks items h) (up down : Uuid) :
    (exchange up down).Ensures keyColumns h fun r h' =>
      h'.before = h.before ∧
        match items.find? (·.id == up), items.find? (·.id == down) with
        | none, _ => r = .error (.noItem up)
        | some _, none => r = .error (.noItem down)
        | some a, some b =>
          r = .ok () ∧ Stocks (reranked down a.rank (reranked up b.rank items)) h' := by
  refine ensures_bind ((ensures_rank hstock hitems up true).mono fun r h' hr => ?_)
  obtain ⟨rfl, rfl⟩ := hr
  cases items.find? (·.id == up) with
  | none => exact ⟨rfl, rfl⟩
  | some a =>
    refine ensures_bind ((ensures_rank hstock hitems down true).mono fun r h' hr => ?_)
    obtain ⟨rfl, rfl⟩ := hr
    cases items.find? (·.id == down) with
    | none => exact ⟨rfl, rfl⟩
    | some b =>
      refine ensures_bind ((ensures_setRank hitems up b.rank.toInt32).mono fun r h' hr => ?_)
      obtain ⟨rfl, hup, hbefore⟩ := hr
      refine (ensures_setRank hup down a.rank.toInt32).mono fun r h'' hr => ?_
      obtain ⟨rfl, hdown, hbefore'⟩ := hr
      exact ⟨hbefore'.trans hbefore, rfl, by simpa using hdown⟩

theorem ensures_deleteItem (hstock : Stock items) (hitems : Stocks items h) (id : Uuid) :
    (deleteItem id).Ensures keyColumns h fun r h' =>
      h'.before = h.before ∧
        match items.find? (·.id == id) with
        | none => r = .error (.noItem id)
        | some a =>
          r = .ok () ∧ Stocks ((items.filter fun x => !(x.id == id)).map (lowered a.rank)) h' := by
  refine ensures_bind (ensures_delete hitems (fun x _ => meets_id x id) (filter_key hstock.nodup id)
    fun h' hleft hbefore => ?_)
  cases hfound : items.find? (·.id == id) with
  | none => exact ⟨hbefore, rfl⟩
  | some a =>
    have ha : a ∈ items := List.mem_of_find?_eq_some hfound
    have hrank : onlyColumn ((itemRow a).only "rank") Datum.integer? = .ok a.rank.toInt32 := by
      simp [onlyColumn, Row.first?, Row.only, Datum.integer?]
    refine ensures_bind (ensures_ofExcept ?_)
    rw [hrank]
    refine ensures_bind (ensures_update (f := fun x => { x with rank := x.rank - 1 }) hleft
      (by decide) (fun x hx => meets_above hstock (List.mem_of_mem_filter hx) ha)
      (fun x hx habove => ?_) fun _ h'' hitems'' hbefore' => ?_)
    · have habove : a.rank < x.rank := of_decide_eq_true habove
      have hx : x.rank.toNat < 2 ^ 31 :=
        Nat.lt_trans (hstock.rank_lt (List.mem_of_mem_filter hx)) hstock.room
      -- a rank that is lowered is one of the ranks in use, so it is not the least number
      have hmin : x.rank.toInt32 ≠ Int32.minValue := by
        intro heq
        have hint := toInt_toInt32 hx
        rw [heq] at hint
        exact absurd hint (by simp)
      simp [Row.assign?, Scalar.value?, hmin, itemRow_set_rank]
      rfl
    · have hlowered : (fun x => if decide (a.rank < x.rank) then { x with rank := x.rank - 1 } else x) =
          lowered a.rank := by
        funext x
        simp only [lowered, decide_eq_true_eq]
      exact ensures_pure ⟨hbefore'.trans hbefore, rfl, hlowered ▸ hitems''⟩

/-- The rank that follows the greatest one is the number of items. -/
theorem next_rank (hstock : Stock items) (hitems : Stocks items h) :
    Sql.Next (h.tables "catalog") "rank" items.length := by
  rw [hitems]
  cases hlength : items.length with
  | zero =>
    obtain rfl := List.length_eq_zero_iff.1 hlength
    exact .first fun row hrow => absurd hrow (Multiset.notMem_zero row)
  | succ n =>
    refine .after (n := n) ⟨?_, ?_⟩
    · have hn : n ∈ items.map (·.rank.toNat) :=
        hstock.ranked.mem_iff.2 (List.mem_range.2 (by omega))
      obtain ⟨x, hx, rfl⟩ := List.mem_map.1 hn
      exact ⟨itemRow x, Multiset.mem_coe.2 (List.mem_map_of_mem hx), hstock.number?_rank hx⟩
    · rintro k ⟨row, hrow, hk⟩
      obtain ⟨x, hx, rfl⟩ := List.mem_map.1 (Multiset.mem_coe.1 hrow)
      have hrank := hstock.rank_lt hx
      rw [hstock.number?_rank hx, Option.some.injEq] at hk
      omega

/-- A row under an identifier that is not in use has no key of the rows there are. -/
theorem unkeyed_itemRow {x : Item} (hitems : Stocks items h)
    (hfresh : x.id ∉ items.map (·.id)) :
    Sql.Unkeyed (keyColumns "catalog") (h.tables "catalog") (itemRow x) := by
  intro column hcolumn d hd old hold hequal
  obtain rfl := List.mem_singleton.1 hcolumn
  rw [hitems] at hold
  obtain ⟨y, hy, rfl⟩ := List.mem_map.1 (Multiset.mem_coe.1 hold)
  rw [itemRow_id] at hd
  cases hd
  refine hfresh (List.mem_map.2 ⟨y, hy, ?_⟩)
  simpa [Condition.holds, Datum.equals] using hequal

/-- The columns of an item with the rank that follows make the row of the item with that rank. -/
theorem newRow_itemRow {item : Item} {front behind : Row} (hstock : Stock items)
    (hitems : Stocks items h)
    (hrow : ∀ rank : UInt32, front ++ ("rank", .integer rank.toInt32) :: behind =
      itemRow { item with rank }) :
    Sql.NewRow (h.tables "catalog")
      ((front.map fun (name, d) => (name, .bound d)) ++
        ("rank", .following "rank") :: (behind.map fun (name, d) => (name, .bound d)))
      (itemRow { item with rank := UInt32.ofNat items.length }) := by
  have hroom := hstock.room
  have hlength : (UInt32.ofNat items.length).toNat = items.length :=
    UInt32.toNat_ofNat_of_lt' (Nat.lt_trans hroom (by decide))
  have hnext := next_rank hstock hitems
  rw [← hlength, ← toInt_toInt32 (by omega)] at hnext
  rw [← hrow]
  exact List.rel_append (Sql.newRow_bound _ front)
    (.cons ⟨rfl, .following hnext⟩ (Sql.newRow_bound _ behind))

theorem ensures_insertItem {item : Item} (hstock : Stock items) (hitems : Stocks items h)
    (hopen : h.before.isSome) (hfresh : item.id ∉ items.map (·.id))
    (hprice : item.priceRub.toNat < 2 ^ 63) :
    (insertItem item).Ensures keyColumns h fun r h' =>
      h'.before = h.before ∧ r = .ok (UInt32.ofNat items.length).toInt32 ∧
        Stocks (items ++ [{ item with rank := UInt32.ofNat items.length }]) h' := by
  obtain ⟨tables, before⟩ := h
  obtain ⟨before, rfl⟩ := Option.isSome_iff_exists.1 hopen
  refine ensures_bind (ensures_execute ⟨⟨[], 0⟩, _, .lock⟩ fun _ h' hlock => ?_)
  cases hlock
  obtain ⟨front, behind, hcolumns, hrow⟩ := itemColumns_eq hprice
  refine ensures_bind (ensures_ofExcept ?_)
  rw [hcolumns]
  have hnew := newRow_itemRow hstock hitems hrow
  refine ensures_bind (ensures_firstRow
    ⟨_, _, .append hnew (unkeyed_itemRow hitems hfresh) (itemRow_rank _)⟩ fun a h' houtcome => ?_)
  cases houtcome with
  | append hnew' _ hrank =>
    obtain rfl := hnew.unique hnew'
    rw [itemRow_rank, Option.some.injEq] at hrank
    subst hrank
    refine ensures_ofExcept ⟨rfl, rfl, stocks_put ?_⟩
    rw [hitems, List.map_append, Multiset.cons_coe, Multiset.coe_eq_coe]
    exact (List.perm_append_singleton _ _).symm

end Writing

end Database

end OrderDesk.Store
