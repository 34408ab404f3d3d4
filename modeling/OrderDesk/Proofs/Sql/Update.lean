import Mathlib.Data.Multiset.ZeroCons
import OrderDesk.Proofs.Sql.Meaning

/-!
# Updates

The text of a statement numbers the data in it from left to right, and the data are sent apart from
the text in the order of their numbers.  Both are read off the pieces of the statement: numbering
goes on behind a part where the part's data end (`numbered_append`).  So in an update every column
that is set to a datum stands in the text in its turn, with the number under which its datum is
sent, and the datum of the condition has the number behind them (`text_update`, `data_update`).

What an update does to a table is said of the things that the rows stand for, whatever they are
(`outcome_update`): those that meet the condition are changed as their rows are, and they are as
many as the answer says.
-/

namespace OrderDesk.Sql

/-- Columns that are set to data. -/
def bound (columns : Row) : List (String × Scalar) := columns.map fun (name, d) => (name, .bound d)

/-- Columns that are set to numbered data, as a text; the numbers count from `n`. -/
def assignments (n : Nat) (names : List String) : String :=
  Text.joined ", " (names.mapIdx fun i name => name ++ " = $" ++ Decimal.ofNat (n + i))

theorem assignments_cons_cons (n : Nat) (a b : String) (names : List String) :
    assignments n (a :: b :: names) =
      a ++ " = $" ++ Decimal.ofNat n ++ ", " ++ assignments (n + 1) (b :: names) := by
  simp only [assignments, Text.joined, List.mapIdx_cons, String.intercalate_cons_cons,
    Nat.add_assoc, Nat.add_comm 1, Nat.add_zero]

namespace Statement

theorem dataOf_append (ps qs : List Piece) : dataOf (ps ++ qs) = dataOf ps ++ dataOf qs := by
  induction ps with
  | nil => rfl
  | cons p ps ih =>
    cases p with
    | words text => exact ih
    | bound d => exact congrArg (d :: ·) ih

theorem numbered_append (n : Nat) (ps qs : List Piece) :
    numbered n (ps ++ qs) = numbered n ps ++ numbered (n + (dataOf ps).length) qs := by
  induction ps generalizing n with
  | nil => exact String.empty_append.symm
  | cons p ps ih =>
    cases p with
    | words text =>
      show text ++ numbered n (ps ++ qs) = text ++ numbered n ps ++ _
      rw [ih, String.append_assoc]
      rfl
    | bound d =>
      have hlength : n + (dataOf (.bound d :: ps)).length = n + 1 + (dataOf ps).length := by
        rw [dataOf, List.length_cons, Nat.add_assoc, Nat.add_comm 1]
      rw [hlength, List.cons_append, numbered, numbered, ih]
      simp only [String.append_assoc]

/-! ## Updates -/

theorem dataOf_setPieces (columns : Row) :
    dataOf (setPieces (bound columns)) = columns.map Prod.snd := by
  induction columns with
  | nil => rfl
  | cons c columns ih =>
    cases columns with
    | nil => rfl
    | cons c' columns => exact congrArg (c.2 :: ·) ih

theorem numbered_setPieces (n : Nat) (columns : Row) :
    numbered n (setPieces (bound columns)) = assignments n (columns.map Prod.fst) := by
  induction columns generalizing n with
  | nil => rfl
  | cons c columns ih =>
    cases columns with
    | nil =>
      show c.1 ++ " = " ++ ("$" ++ Decimal.ofNat n ++ "") = c.1 ++ " = $" ++ Decimal.ofNat n
      simp only [String.append_empty, String.append_assoc]
      rfl
    | cons c' columns =>
      have hrest := ih (n + 1)
      show c.1 ++ " = " ++ ("$" ++ Decimal.ofNat n ++ (", " ++ numbered (n + 1) _)) = _
      rw [List.map_cons, List.map_cons, assignments_cons_cons]
      rw [List.map_cons] at hrest
      rw [← hrest]
      simp only [String.append_assoc]
      rfl

section Update

variable (table : String) (columns : Row) (key : String) (d : Datum)

/-- The text of an update of the rows with a datum in a column. -/
theorem text_update :
    (update table (bound columns) [.equal key d]).text =
      "UPDATE " ++ table ++ " SET " ++ assignments 1 (columns.map Prod.fst) ++
        " WHERE " ++ key ++ " = $" ++ Decimal.ofNat (columns.length + 1) := by
  show "UPDATE " ++ table ++ " SET " ++ numbered 1 (setPieces (bound columns) ++ _) = _
  rw [numbered_append, numbered_setPieces, dataOf_setPieces, List.length_map, Nat.add_comm 1]
  show _ ++ (_ ++ (" WHERE " ++ (key ++ " = " ++ ("$" ++ Decimal.ofNat _ ++ "")))) = _
  simp only [String.append_empty, String.append_assoc]
  rfl

/-- The data of an update come in the order of the columns, that of the condition behind them. -/
theorem data_update :
    (update table (bound columns) [.equal key d]).data = columns.map Prod.snd ++ [d] := by
  show dataOf (setPieces (bound columns) ++ wherePieces [.equal key d]) = _
  rw [dataOf_append, dataOf_setPieces]
  rfl

end Update

end Statement

/-! ## Rows with other data in some columns -/

/-- A name that no column has is not found. -/
theorem lookup_eq_none {β : Type} {columns : List (String × β)} {name : String}
    (h : name ∉ columns.map Prod.fst) : columns.lookup name = none :=
  List.lookup_eq_none_iff.2 fun _ hc => bne_iff_ne.2 fun heq => h (heq ▸ List.mem_map_of_mem hc)

namespace Row

theorem lookup_map_set (row : Row) (name : String) (d : Datum) (other : String) :
    (row.map fun (n, old) => (n, if n = name then d else old)).lookup other =
      (row.lookup other).map fun old => if other = name then d else old := by
  induction row with
  | nil => rfl
  | cons c row ih =>
    obtain ⟨n, old⟩ := c
    by_cases hn : other = n
    · simp [hn]
    · simp [List.lookup_cons, beq_false_of_ne hn, ih]

/-- Only the column that is set has another datum. -/
theorem column?_set (row : Row) (name : String) (d : Datum) (other : String) :
    (row.set name d).column? other =
      (row.column? other).map fun old => if other = name then d else old := by
  rw [column?, set, ← List.map_reverse]
  exact lookup_map_set row.reverse name d other

/-- The row with columns set to data. -/
def assigned (row columns : Row) : Row :=
  columns.foldl (fun row (name, d) => row.set name d) row

theorem assigned_cons (row : Row) (name : String) (d : Datum) (columns : Row) :
    row.assigned ((name, d) :: columns) = (row.set name d).assigned columns := rfl

theorem assign?_bound (row columns : Row) :
    row.assign? (bound columns) = some (row.assigned columns) := by
  have hdata : (bound columns).mapM (fun c => (c.2.value? row).map (c.1, ·)) =
      some columns := by
    induction columns with
    | nil => rfl
    | cons c columns ih =>
      rw [bound, List.map_cons, List.mapM_cons, ← bound, ih]
      rfl
  rw [assign?]
  exact congrArg (Option.bind · fun data => some (row.assigned data)) hdata

/-- Where no column is set twice, a column has the datum that it is set to. -/
theorem column?_assigned {columns : Row} (hnodup : (columns.map Prod.fst).Nodup) (row : Row)
    (name : String) :
    (row.assigned columns).column? name =
      (row.column? name).map fun old => (columns.lookup name).getD old := by
  induction columns generalizing row with
  | nil => exact (congrFun Option.map_id (row.column? name)).symm
  | cons c columns ih =>
    obtain ⟨n, d⟩ := c
    obtain ⟨hfresh, hnodup⟩ := List.nodup_cons.1 hnodup
    rw [assigned_cons, ih hnodup, column?_set, Option.map_map]
    refine congrArg (Option.map · (row.column? name)) (funext fun old => ?_)
    by_cases hn : name = n
    · simp [hn, lookup_eq_none hfresh]
    · simp [hn, List.lookup_cons, beq_false_of_ne hn]

end Row

/-! ## What an update does -/

section Rows

variable {α : Type} {Reads : Row → α → Prop}

/-- As many rows meet a condition as things that they stand for. -/
theorem card_filter_of_rel {rows : Multiset Row} {things : Multiset α} {p : Row → Bool}
    {q : α → Bool} (h : Multiset.Rel Reads rows things) (hpq : ∀ row a, Reads row a → p row = q a) :
    (rows.filter fun row => p row).card = things.countP fun a => q a := by
  induction h with
  | zero => rfl
  | @cons row a rows things hrow _ ih =>
    rw [Multiset.filter_cons, Multiset.countP_cons, Multiset.card_add, ih, hpq row a hrow]
    cases q a <;> simp [Nat.add_comm]

/-- The things that rows stand for are changed as the rows are. -/
theorem outcome_update {keys : String → List String} {table : String} {columns : Row}
    {conditions : List Condition} {p : α → Bool} {f : α → α} {h : Holdings} {things : Multiset α}
    (hkeys : ∀ c ∈ columns, c.1 ∉ keys table)
    (hrows : Multiset.Rel Reads (h.tables table) things)
    (hmeets : ∀ row a, Reads row a → row.meets conditions = p a)
    (hreads : ∀ row a, Reads row a → Reads (row.assigned columns) (f a)) :
    (∃ a h', (Statement.update table (bound columns) conditions).Outcome keys h a h') ∧
      ∀ a h', (Statement.update table (bound columns) conditions).Outcome keys h a h' →
        a.affected = things.countP (fun a => p a) ∧
        Multiset.Rel Reads (h'.tables table) (things.map fun a => if p a then f a else a) ∧
        (∀ other, other ≠ table → h'.tables other = h.tables other) ∧ h'.before = h.before := by
  constructor
  · refine ⟨_, _, .update ?_ fun row _ _ => by rw [Row.assign?_bound]; rfl⟩
    intro c hc
    obtain ⟨column, hcolumn, rfl⟩ := List.mem_map.1 hc
    exact hkeys column hcolumn
  · intro a h' houtcome
    cases houtcome with
    | update _ _ =>
      refine ⟨card_filter_of_rel hrows hmeets, ?_, fun other hother => ?_, rfl⟩
      · show Multiset.Rel Reads (Function.update h.tables table _ table) _
        rw [Function.update_self, Multiset.rel_map]
        refine hrows.mono fun row _ a _ hrow => ?_
        rw [hmeets row a hrow, Row.assign?_bound, Option.getD_some]
        split
        · exact hreads row a hrow
        · exact hrow
      · exact Function.update_of_ne hother _ h.tables

end Rows

end OrderDesk.Sql
