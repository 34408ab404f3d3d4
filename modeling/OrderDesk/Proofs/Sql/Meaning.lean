import Mathlib.Data.List.Forall2
import Mathlib.Data.Multiset.Filter
import Mathlib.Order.Bounds.Basic
import OrderDesk.Sql.Statement

/-!
# What statements do

A database holds tables, and a table is a multiset of rows: nothing says in which order rows are
given back unless a statement does.  `Statement.Outcome` relates what is held before a statement to
its answer and to what is held afterwards, word for word as the statement says it.  It leaves open
what it does not say, and where a statement cannot be carried out (a number that does not fit its
column, a key that is taken, a transaction that was not begun) it has no outcome at all, so that
nothing is promised.
-/

namespace OrderDesk.Sql

/-! ## Data and rows -/

/-- The number in a datum. -/
def Datum.number? : Datum → Option Int
  | smallint n => some n.toInt
  | integer n => some n.toInt
  | bigint n => some n.toInt
  | _ => none

/-- Two data are equal as far as a condition can tell: no value equals nothing, and records are not
compared. -/
def Datum.equals : Datum → Datum → Bool
  | boolean a, boolean b => a == b
  | smallint a, smallint b => a == b
  | integer a, integer b => a == b
  | bigint a, bigint b => a == b
  | text a, text b => a == b
  | uuid a, uuid b => a == b
  | timestamptz a, timestamptz b => a == b
  | _, _ => false

namespace Row

/-- The number in a column. -/
def number? (row : Row) (column : String) : Option Int := (row.column? column).bind Datum.number?

/-- One column of a row; a column that is not there has no value. -/
def only (column : String) (row : Row) : Row := [(column, (row.column? column).getD .null)]

/-- The row with another datum in a column. -/
def set (column : String) (d : Datum) (row : Row) : Row :=
  row.map fun (name, old) => (name, if name = column then d else old)

/-- No number in the column is greater in the first row than in the second. -/
def NotAfter (column : String) (a b : Row) : Prop :=
  ∀ m ∈ a.number? column, ∀ n ∈ b.number? column, m ≤ n

end Row

/-- A row meets a condition. -/
def Condition.holds (row : Row) : Condition → Bool
  | equal column d => (row.column? column).any (·.equals d)
  | above column d =>
    match row.number? column, d.number? with
    | some m, some n => n < m
    | _, _ => false

/-- A row meets all conditions. -/
def Row.meets (conditions : List Condition) (row : Row) : Bool := conditions.all (·.holds row)

/-! ## What columns are set to -/

/-- What a column of a row is set to, as far as the row decides it. -/
def Scalar.value? (row : Row) : Scalar → Option Datum
  | bound d => some d
  | preceding column =>
    match row.column? column with
    | some (.integer n) => if n = Int32.minValue then none else some (.integer (n - 1))
    | _ => none
  | zero => some (.bigint 0)
  | yes => some (.boolean true)
  | following _ => none

/-- The row with columns set; what they are set to is read off the row as it was. -/
def Row.assign? (columns : List (String × Scalar)) (row : Row) : Option Row := do
  let data ← columns.mapM fun (column, s) => (s.value? row).map (column, ·)
  return data.foldl (fun row (column, d) => row.set column d) row

/-- The number that follows the greatest one in a column, 0 where there is none. -/
inductive Next (rows : Multiset Row) (column : String) : Int → Prop where
  | first (h : ∀ row ∈ rows, row.number? column = none) : Next rows column 0
  | after {n : Int} (h : IsGreatest {k | ∃ row ∈ rows, row.number? column = some k} n) :
    Next rows column (n + 1)

/-- What a column of a new row is set to. -/
inductive Scalar.Enters (rows : Multiset Row) : Scalar → Datum → Prop where
  | bound (d : Datum) : Enters rows (.bound d) d
  /-- The number has to fit the column. -/
  | following {column : String} {n : Int32} (h : Next rows column n.toInt) :
    Enters rows (.following column) (.integer n)

/-- There is one number that follows the greatest. -/
theorem Next.unique {rows : Multiset Row} {column : String} {m n : Int} (hm : Next rows column m)
    (hn : Next rows column n) : m = n := by
  have empty {k : Int} (h : ∀ row ∈ rows, row.number? column = none)
      (hk : ∃ row ∈ rows, row.number? column = some k) : False := by
    obtain ⟨row, hrow, hnumber⟩ := hk
    exact nomatch (h row hrow).symm.trans hnumber
  cases hm with
  | first hnone =>
    cases hn with
    | first _ => rfl
    | after hgreatest => exact (empty hnone hgreatest.1).elim
  | after hgreatest =>
    cases hn with
    | first hnone => exact (empty hnone hgreatest.1).elim
    | after hgreatest' => rw [hgreatest.unique hgreatest']

/-- A column of a new row is set to one datum. -/
theorem Scalar.Enters.unique {rows : Multiset Row} {s : Scalar} {d e : Datum}
    (hd : s.Enters rows d) (he : s.Enters rows e) : d = e := by
  cases hd with
  | bound d => cases he; rfl
  | following hnext =>
    cases he with
    | following hnext' => rw [Int32.toInt_inj.1 (hnext.unique hnext')]

/-! ## Statements -/

/-- The rows of every table. -/
abbrev Contents := String → Multiset Row

/-- What a database holds. -/
structure Holdings where
  /-- The tables as they are now. -/
  tables : Contents
  /-- The tables as they were when the transaction was begun, inside of one. -/
  before : Option Contents

/-- The holdings with other rows in a table. -/
def Holdings.put (table : String) (rows : Multiset Row) (h : Holdings) : Holdings :=
  { h with tables := Function.update h.tables table rows }

/-- A new row has none of the keys of the rows there are. -/
def Unkeyed (keys : List String) (rows : Multiset Row) (new : Row) : Prop :=
  ∀ column ∈ keys, ∀ d ∈ new.column? column, ∀ old ∈ rows, ¬ (Condition.equal column d).holds old

/-- The columns of a new row, each under its name. -/
def NewRow (rows : Multiset Row) : List (String × Scalar) → Row → Prop :=
  List.Forall₂ fun c e => c.1 = e.1 ∧ c.2.Enters rows e.2

theorem NewRow.unique {rows : Multiset Row} {columns : List (String × Scalar)} {new new' : Row}
    (h : NewRow rows columns new) (h' : NewRow rows columns new') : new = new' := by
  refine List.right_unique_forall₂' (fun c d e hd he => ?_) h h'
  exact Prod.ext (hd.1.symm.trans he.1) (hd.2.unique he.2)

/-- Columns that are bound are what they are bound to. -/
theorem newRow_bound (rows : Multiset Row) (columns : Row) :
    NewRow rows (columns.map fun (name, d) => (name, .bound d)) columns := by
  refine List.forall₂_map_left_iff.2 (List.forall₂_same.2 fun c _ => ⟨rfl, .bound c.2⟩)

/-- What a statement may answer and leave behind; `keys` are the columns of each table in which no
two rows have the same. -/
inductive Statement.Outcome (keys : String → List String) :
    Statement → Holdings → Answer → Holdings → Prop where
  | begin {t : Contents} {a : Answer} : Outcome keys .begin ⟨t, none⟩ a ⟨t, some t⟩
  | commit {t before : Contents} {a : Answer} : Outcome keys .commit ⟨t, some before⟩ a ⟨t, none⟩
  | rollback {t before : Contents} {a : Answer} :
    Outcome keys .rollback ⟨t, some before⟩ a ⟨before, none⟩
  /-- A lock ends with the transaction, so there has to be one. -/
  | lock {table : String} {t before : Contents} {a : Answer} :
    Outcome keys (.lock table) ⟨t, some before⟩ a ⟨t, some before⟩
  | select {table : String} {conditions : List Condition} {order : Option String} {h : Holdings}
    {rows : List Row} (hrows : ↑rows = (h.tables table).filter (·.meets conditions))
    (horder : ∀ column ∈ order, rows.Pairwise (Row.NotAfter column)) :
    Outcome keys (.select table conditions order) h ⟨rows, rows.length⟩ h
  | selectColumn {column table : String} {condition : Condition} {locked : Bool} {h : Holdings}
    {rows : List Row}
    (hrows : ↑rows = ((h.tables table).filter (·.meets [condition])).map (Row.only column)) :
    Outcome keys (.selectColumn column table condition locked) h ⟨rows, rows.length⟩ h
  | append {table returning : String} {row : List (String × Scalar)} {new : Row} {d : Datum}
    {h : Holdings}
    (hnew : NewRow (h.tables table) row new)
    (hkeys : Unkeyed (keys table) (h.tables table) new) (hd : new.column? returning = some d) :
    Outcome keys (.append table row returning) h ⟨[[(returning, d)]], 1⟩
      (h.put table (new ::ₘ h.tables table))
  /-- Keys are not changed. -/
  | update {table : String} {columns : List (String × Scalar)} {conditions : List Condition}
    {h : Holdings} (hkeys : ∀ c ∈ columns, c.1 ∉ keys table)
    (hassign : ∀ row ∈ h.tables table, row.meets conditions → (row.assign? columns).isSome) :
    Outcome keys (.update table columns conditions) h
      ⟨[], ((h.tables table).filter (·.meets conditions)).card⟩
      (h.put table ((h.tables table).map fun row =>
        if row.meets conditions then (row.assign? columns).getD row else row))
  | delete {table returning : String} {condition : Condition} {h : Holdings} {rows : List Row}
    (hrows : ↑rows = ((h.tables table).filter (·.meets [condition])).map (Row.only returning)) :
    Outcome keys (.delete table condition returning) h ⟨rows, rows.length⟩
      (h.put table ((h.tables table).filter fun row => ¬ row.meets [condition]))

end OrderDesk.Sql
