import OrderDesk.Decimal.Integer
import OrderDesk.Sql.Datum
import OrderDesk.Text.Basic

/-!
# Statements to a database

A statement is kept as what it says.  The data it is about are not part of its text: each stands
there as a dollar sign with its number, counted from 1 in the order of the text, and travels beside
it. `Statement.pieces` is the text with the data still in their places; `Statement.text` and
`Statement.data` are its two halves.
-/

namespace OrderDesk.Sql

/-! ## Tables -/

/-- A column of a table. -/
structure Column where
  name : String
  /-- Type and constraints. -/
  spec : String
  deriving DecidableEq, Repr

/-- A table. -/
structure Table where
  name : String
  columns : List Column
  deriving DecidableEq, Repr

/-! ## Parts of statements -/

/-- What a column is set to. -/
inductive Scalar where
  | bound (d : Datum)
  /-- One more than the greatest number in a column of the table, 0 if the table is empty. -/
  | following (column : String)
  /-- One less than the number in a column of the same row. -/
  | preceding (column : String)
  /-- The number 0. -/
  | zero
  /-- True. -/
  | yes
  deriving Repr

/-- A condition on a row. -/
inductive Condition where
  /-- A column has the given datum. -/
  | equal (column : String) (d : Datum)
  /-- A column has more than the given datum. -/
  | above (column : String) (d : Datum)
  deriving Repr

/-- A statement. -/
inductive Statement where
  | begin
  /-- Make the changes of a transaction last. -/
  | commit
  /-- Undo the changes of a transaction. -/
  | rollback
  /-- Create a table unless it exists. -/
  | createTable (table : Table)
  /-- Create an index on a column unless it exists. -/
  | createIndex (name table column : String)
  /-- Let no one else change a table in this transaction. -/
  | lock (table : String)
  /-- The rows that meet all conditions, in the order of a column if one is given. -/
  | select (table : String) (conditions : List Condition) (order : Option String)
  /-- One column of the rows that meet a condition; if `locked`, no one else changes these rows in
  this transaction. -/
  | selectColumn (column table : String) (condition : Condition) (locked : Bool)
  /-- Whether a row meets a condition. -/
  | exists (table : String) (condition : Condition)
  | insert (table : String) (row : Row)
  /-- A new row, in place of the one with the same key if there is one. -/
  | upsert (table key : String) (row : Row)
  /-- A new row that may depend on the rows there are; gives one of its columns. -/
  | append (table : String) (row : List (String × Scalar)) (returning : String)
  /-- Change columns of the rows that meet all conditions. -/
  | update (table : String) (columns : List (String × Scalar)) (conditions : List Condition)
  /-- Take out the rows that meet a condition; gives one column of them. -/
  | delete (table : String) (condition : Condition) (returning : String)
  deriving Repr

/-! ## Text and data -/

/-- A piece of a statement. -/
inductive Piece where
  | words (text : String)
  | bound (d : Datum)
  deriving Repr

/-- The pieces of several things with a separator between. -/
def interleave (separator : String) (parts : List (List Piece)) : List Piece :=
  (parts.intersperse [.words separator]).flatten

/-- The pieces of what a column is set to. -/
def Scalar.pieces : Scalar → List Piece
  | bound d => [.bound d]
  | following column => [.words ("COALESCE(MAX(" ++ column ++ ") + 1, 0)")]
  | preceding column => [.words (column ++ " - 1")]
  | zero => [.words "0"]
  | yes => [.words "TRUE"]

/-- The pieces of a condition. -/
def Condition.pieces : Condition → List Piece
  | equal column d => [.words (column ++ " = "), .bound d]
  | above column d => [.words (column ++ " > "), .bound d]

/-- The pieces of conditions that are all to be met. -/
def wherePieces (conditions : List Condition) : List Piece :=
  match conditions with
  | [] => []
  | conditions => .words " WHERE " :: interleave " AND " (conditions.map Condition.pieces)

/-- Names in parentheses. -/
def nameList (names : List String) : String := "(" ++ Text.joined ", " names ++ ")"

/-- The pieces of columns that are set. -/
def setPieces (columns : List (String × Scalar)) : List Piece :=
  interleave ", " (columns.map fun (name, s) => .words (name ++ " = ") :: s.pieces)

namespace Statement

/-- The pieces of a new row. -/
def insertPieces (table : String) (row : Row) : List Piece :=
  .words ("INSERT INTO " ++ table ++ " " ++ nameList (row.map Prod.fst) ++ " VALUES (") ::
    (interleave ", " (row.map fun (_, d) => [.bound d]) ++ [.words ")"])

/-- The pieces of a statement. -/
def pieces : Statement → List Piece
  | begin => [.words "BEGIN"]
  | commit => [.words "COMMIT"]
  | rollback => [.words "ROLLBACK"]
  | createTable table =>
    [.words ("CREATE TABLE IF NOT EXISTS " ++ table.name ++ " ( " ++
      Text.joined ", " (table.columns.map fun c => c.name ++ " " ++ c.spec) ++ " )")]
  | createIndex name table column =>
    [.words ("CREATE INDEX IF NOT EXISTS " ++ name ++ " ON " ++ table ++ " (" ++ column ++ ")")]
  | lock table => [.words ("LOCK TABLE " ++ table ++ " IN SHARE ROW EXCLUSIVE MODE")]
  | select table conditions order =>
    .words ("SELECT * FROM " ++ table) :: (wherePieces conditions ++
      (order.toList.map fun column => .words (" ORDER BY " ++ column ++ " ASC")))
  | selectColumn column table condition locked =>
    .words ("SELECT " ++ column ++ " FROM " ++ table) :: (wherePieces [condition] ++
      (if locked then [.words " FOR UPDATE"] else []))
  | .exists table condition =>
    .words ("SELECT EXISTS(SELECT 1 FROM " ++ table) :: (wherePieces [condition] ++ [.words ")"])
  | insert table row => insertPieces table row
  | upsert table key row =>
    insertPieces table row ++ [.words (" ON CONFLICT (" ++ key ++ ") DO UPDATE SET " ++
      Text.joined ", " (((row.map Prod.fst).filter (· != key)).map fun c => c ++ " = EXCLUDED." ++ c))]
  | append table row returning =>
    .words ("INSERT INTO " ++ table ++ " " ++ nameList (row.map Prod.fst) ++ " SELECT ") ::
      (interleave ", " (row.map fun (_, s) => s.pieces) ++
        [.words (" FROM " ++ table ++ " RETURNING " ++ returning)])
  | update table columns conditions =>
    .words ("UPDATE " ++ table ++ " SET ") :: (setPieces columns ++ wherePieces conditions)
  | delete table condition returning =>
    .words ("DELETE FROM " ++ table) :: (wherePieces [condition] ++ [.words (" RETURNING " ++ returning)])

/-- The text of pieces; data are numbered from `n`. -/
def numbered : Nat → List Piece → String
  | _, [] => ""
  | n, .words text :: rest => text ++ numbered n rest
  | n, .bound _ :: rest => "$" ++ Decimal.ofNat n ++ numbered (n + 1) rest

/-- The data among pieces. -/
def dataOf : List Piece → List Datum
  | [] => []
  | .words _ :: rest => dataOf rest
  | .bound d :: rest => d :: dataOf rest

/-- The text of a statement. -/
def text (s : Statement) : String := numbered 1 s.pieces

/-- The data of a statement, in the order of their numbers. -/
def data (s : Statement) : List Datum := dataOf s.pieces

end Statement

/-! ## Answers -/

/-- What a database answers to a statement. -/
structure Answer where
  rows : List Row
  /-- How many rows the statement concerned. -/
  affected : Nat
  deriving Repr, Inhabited

end OrderDesk.Sql
