import OrderDesk.Decimal.Integer
import OrderDesk.Proofs.Store.Engine

/-!
# A database kept in lists

The rows of a table are a list, new rows at the end.  A statement that has an outcome is carried out
with one of its outcomes (`Heap.outcome`), so lists are an engine (`Heap.engine`); every other
statement is refused and changes nothing.
-/

namespace OrderDesk.Store

open Sql (Answer Condition Datum Holdings NewRow Row Scalar Statement)

/-- Tables as lists of rows. -/
structure Heap where
  tables : String → List Row
  /-- The tables as they were when the transaction was begun, inside of one. -/
  before : Option (String → List Row)

namespace Heap

/-- No rows. -/
def empty : Heap := ⟨fun _ => [], none⟩

/-- What it holds. -/
def holdings (d : Heap) : Holdings :=
  ⟨fun table => ↑(d.tables table), d.before.map fun tables table => ↑(tables table)⟩

/-- The heap with other rows in a table. -/
def put (table : String) (rows : List Row) (d : Heap) : Heap :=
  { d with tables := fun name => if name = table then rows else d.tables name }

/-- The rows that meet all conditions. -/
def found (table : String) (conditions : List Condition) (d : Heap) : List Row :=
  (d.tables table).filter (·.meets conditions)

/-- Rows in the order of a column, if one is given. -/
def inOrder (order : Option String) (rows : List Row) : List Row :=
  match order with
  | some column =>
    rows.mergeSort fun a b => decide ((a.number? column).getD 0 ≤ (b.number? column).getD 0)
  | none => rows

/-- The number that follows the greatest one in a column, if it has 32 bits. -/
def next? (rows : List Row) (column : String) : Option Int32 :=
  Decimal.fitInt32? (((rows.filterMap (·.number? column)).max?.map (· + 1)).getD 0)

/-- What a column of a new row is set to. -/
def cell? (rows : List Row) : Scalar → Option Datum
  | .bound d => some d
  | .following column => (next? rows column).map .integer
  | _ => none

/-- A new row, as it was set. -/
def newRow? (rows : List Row) (columns : List (String × Scalar)) : Option Row :=
  columns.mapM fun (column, s) => (cell? rows s).map (column, ·)

/-- A row there is has the datum that the new row has in a column. -/
def isTaken (rows : List Row) (new : Row) (column : String) : Bool :=
  (new.column? column).any fun d => rows.any fun old => (Condition.equal column d).holds old

/-- The answer that concerns nothing. -/
def done : Except String Answer := .ok ⟨[], 0⟩

/-- Rows as an answer. -/
def given (rows : List Row) : Except String Answer := .ok ⟨rows, rows.length⟩

/-- A statement that is not carried out. -/
def refused : Except String Answer := .error "refused"

variable (keys : String → List String)

/-- Carries out a statement. -/
def execute (s : Statement) (d : Heap) : Except String Answer × Heap :=
  match s, d.before with
  | .begin, none => (done, { d with before := some d.tables })
  | .commit, some _ => (done, { d with before := none })
  | .rollback, some tables => (done, ⟨tables, none⟩)
  | .lock _, some _ => (done, d)
  | .select table conditions order, _ => (given (inOrder order (d.found table conditions)), d)
  | .selectColumn column table condition _, _ =>
    (given ((d.found table [condition]).map (Row.only column)), d)
  | .append table columns returning, _ =>
    match newRow? (d.tables table) columns with
    | some new =>
      if (keys table).any (isTaken (d.tables table) new) then (refused, d)
      else (given [new.only returning], d.put table (d.tables table ++ [new]))
    | none => (refused, d)
  | .update table columns conditions, _ =>
    if columns.all (fun c => c.1 ∉ keys table) ∧
        (d.found table conditions).all (fun row => (row.assign? columns).isSome) then
      (.ok ⟨[], (d.found table conditions).length⟩,
        d.put table ((d.tables table).map fun row =>
          if row.meets conditions then (row.assign? columns).getD row else row))
    else (refused, d)
  | .delete table condition returning, _ =>
    (given ((d.found table [condition]).map (Row.only returning)),
      d.put table ((d.tables table).filter fun row => ¬ row.meets [condition]))
  | _, _ => (refused, d)

/-! ## Every statement has one of its outcomes -/

variable {keys : String → List String}

theorem holdings_put (table : String) (rows : List Row) (d : Heap) :
    (d.put table rows).holdings = d.holdings.put table ↑rows := by
  refine congrArg (Holdings.mk · _) (funext fun name => ?_)
  by_cases hname : name = table
  · subst hname
    simp [put, holdings]
  · simp [put, holdings, hname]

theorem inOrder_perm (order : Option String) (rows : List Row) : (inOrder order rows).Perm rows := by
  cases order with
  | none => exact .refl _
  | some column => exact List.mergeSort_perm _ _

theorem inOrder_pairwise {order : Option String} {column : String} (horder : column ∈ order)
    (rows : List Row) : (inOrder order rows).Pairwise (Row.NotAfter column) := by
  obtain rfl := Option.mem_def.1 horder
  have hsorted : (inOrder (some column) rows).Pairwise fun a b =>
      decide ((a.number? column).getD 0 ≤ (b.number? column).getD 0) := by
    apply List.pairwise_mergeSort
    · intro a b c hab hbc
      simp only [decide_eq_true_eq] at *
      omega
    · intro a b
      simp only [Bool.or_eq_true, decide_eq_true_eq]
      omega
  refine hsorted.imp fun {a b} hab m hm n hn => ?_
  rw [Option.mem_def] at hm hn
  simpa [hm, hn] using hab

theorem next?_of_next {rows : List Row} {column : String} {n : Int32}
    (h : Sql.Next ↑rows column n.toInt) : next? rows column = some n := by
  have hmax : ((rows.filterMap (·.number? column)).max?.map (· + 1)).getD 0 = n.toInt := by
    generalize n.toInt = k at h
    cases h with
    | first hnone =>
      have hnil : rows.filterMap (·.number? column) = [] := List.filterMap_eq_nil_iff.2 hnone
      rw [hnil]
      rfl
    | @after k hgreatest =>
      obtain ⟨⟨row, hrow, hk⟩, hle⟩ := hgreatest
      have hgreatest : (rows.filterMap (·.number? column)).max? = some k := by
        rw [List.max?_eq_some_iff]
        refine ⟨List.mem_filterMap.2 ⟨row, hrow, hk⟩, fun m hm => ?_⟩
        obtain ⟨other, hother, hm⟩ := List.mem_filterMap.1 hm
        exact hle ⟨other, hother, hm⟩
      rw [hgreatest]
      rfl
  rw [next?, hmax, Decimal.fitInt32?, if_pos ⟨n.le_toInt, n.toInt_lt⟩, Int32.ofInt_toInt]

theorem cell?_of_enters {rows : List Row} {s : Scalar} {d : Datum} (h : s.Enters ↑rows d) :
    cell? rows s = some d := by
  cases h with
  | bound d => rfl
  | following hnext => rw [cell?, next?_of_next hnext, Option.map_some]

theorem newRow?_of_newRow {rows : List Row} {columns : List (String × Scalar)} {new : Row}
    (h : NewRow ↑rows columns new) : newRow? rows columns = some new := by
  induction h with
  | nil => rfl
  | @cons c e columns new hce _ ih =>
    obtain ⟨name, s⟩ := c
    obtain ⟨rfl, hentered⟩ := hce
    rw [newRow?] at ih ⊢
    simp only [List.mapM_cons, ih, cell?_of_enters hentered]
    rfl

theorem isTaken_eq_false {columns : List String} {rows : List Row} {new : Row}
    (h : Sql.Unkeyed columns ↑rows new) : columns.any (isTaken rows new) = false := by
  rw [List.any_eq_false]
  intro column hcolumn htaken
  obtain ⟨d, hd, hany⟩ := (Option.any_eq_true _ _).1 htaken
  obtain ⟨old, hold, hequal⟩ := List.any_eq_true.1 hany
  exact h column hcolumn d hd old (Multiset.mem_coe.2 hold) hequal

theorem found_eq (table : String) (conditions : List Condition) (d : Heap) :
    ↑(d.found table conditions) = (d.holdings.tables table).filter (·.meets conditions) := by
  rw [found, holdings, Multiset.filter_coe]
  simp

/-- A statement that has outcomes is carried out with one of them. -/
theorem outcome (s : Statement) (d : Heap) (h : ∃ a h', s.Outcome keys d.holdings a h') :
    ∃ a, (d.execute keys s).1 = .ok a ∧
      s.Outcome keys d.holdings a (d.execute keys s).2.holdings := by
  obtain ⟨a, h', houtcome⟩ := h
  generalize hheld : d.holdings = held at houtcome
  cases houtcome with
  | begin =>
    obtain ⟨tables, _ | before⟩ := d
    · exact ⟨_, rfl, hheld ▸ .begin⟩
    · cases hheld
  | commit =>
    obtain ⟨tables, _ | before⟩ := d
    · cases hheld
    · cases hheld
      exact ⟨_, rfl, .commit⟩
  | rollback =>
    obtain ⟨tables, _ | before⟩ := d
    · cases hheld
    · cases hheld
      exact ⟨_, rfl, .rollback⟩
  | lock =>
    obtain ⟨tables, _ | before⟩ := d
    · cases hheld
    · cases hheld
      exact ⟨_, rfl, .lock⟩
  | @select table conditions order _ _ _ _ =>
    subst hheld
    have hrows := (Multiset.coe_eq_coe.2 (inOrder_perm order _)).trans
      (found_eq table conditions d)
    exact ⟨_, rfl, .select hrows fun _ hcolumn => inOrder_pairwise hcolumn _⟩
  | @selectColumn column table condition locked _ _ _ =>
    subst hheld
    have hrows := congrArg (Multiset.map (Row.only column)) (found_eq table [condition] d)
    exact ⟨_, rfl, .selectColumn hrows⟩
  | @append table returning columns new datum _ hnew hkeys hdatum =>
    subst hheld
    have hexecute : d.execute keys (.append table columns returning) =
        (given [new.only returning], d.put table (d.tables table ++ [new])) := by
      simp only [execute, newRow?_of_newRow hnew, isTaken_eq_false hkeys, Bool.false_eq_true, if_false]
    have hrows : (↑(d.tables table ++ [new]) : Multiset Row) = new ::ₘ d.holdings.tables table :=
      Multiset.coe_eq_coe.2 (List.perm_append_singleton _ _)
    rw [hexecute, holdings_put, hrows]
    refine ⟨_, rfl, ?_⟩
    rw [Row.only, hdatum]
    exact .append hnew hkeys hdatum
  | @update table columns conditions _ hkeys hassign =>
    subst hheld
    have hfits : columns.all (fun c => c.1 ∉ keys table) ∧
        (d.found table conditions).all (fun row => (row.assign? columns).isSome) := by
      refine ⟨List.all_eq_true.2 fun c hc => decide_eq_true (hkeys c hc), ?_⟩
      refine List.all_eq_true.2 fun row hrow => ?_
      obtain ⟨hmem, hmeets⟩ := List.mem_filter.1 hrow
      exact hassign row (Multiset.mem_coe.2 hmem) hmeets
    refine ⟨⟨[], (d.found table conditions).length⟩, by rw [execute, if_pos hfits], ?_⟩
    rw [execute, if_pos hfits, holdings_put]
    have houtcome := Statement.Outcome.update hkeys hassign
    rw [← found_eq] at houtcome
    exact houtcome
  | @delete table returning condition _ _ _ =>
    subst hheld
    have hrows := congrArg (Multiset.map (Row.only returning)) (found_eq table [condition] d)
    have hleft : (↑((d.tables table).filter fun row => ¬ row.meets [condition]) : Multiset Row) =
        (d.holdings.tables table).filter fun row => ¬ row.meets [condition] := by
      rw [holdings, Multiset.filter_coe]
    refine ⟨_, rfl, ?_⟩
    rw [execute, holdings_put, hleft]
    exact .delete hrows

/-- Lists are an engine. -/
def engine (keys : String → List String) : Database.Engine keys Heap where
  serve
    | .connect, d => (.ok (), d)
    | .execute s, d => d.execute keys s
    | .draw, d => ("", d)
    | .announce _, d => ((), d)
  holdings := holdings
  execute := outcome
  draw _ := rfl
  announce _ _ := rfl

end Heap

end OrderDesk.Store
