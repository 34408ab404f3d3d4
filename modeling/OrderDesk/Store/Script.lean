import OrderDesk.Store.Database

/-!
# A database that follows a script

It knows nothing about statements and gives its answers in the order in which they are laid down,
one to each statement that does not begin or end a transaction.  When they run out, an answer has no
rows.  It keeps the statements it was sent and the announcements.
-/

namespace OrderDesk.Store

open Sql (Answer Statement)

/-- A script and what has been seen so far. -/
structure Script where
  refuses : Bool
  /-- No transaction can be begun. -/
  failsToBegin : Bool
  /-- No transaction can be committed. -/
  failsToCommit : Bool
  /-- The answers still to be given; an error where a statement fails. -/
  answers : List (Except String Answer)
  /-- The candidates for short identifiers. -/
  candidate : Nat → String
  /-- Candidates drawn. -/
  drawn : Nat
  /-- Statements received, oldest first. -/
  statements : List Statement
  /-- Catalogues announced, oldest first. -/
  announced : List (List Catalog.Item)

namespace Script

/-- The answer that concerns nothing. -/
def nothing : Answer := ⟨[], 0⟩

/-- The reply to a statement, and the answers left. -/
def answer (d : Script) (s : Statement) : Except String Answer × List (Except String Answer) :=
  match s, d.answers with
  | .begin, answers => (if d.failsToBegin then .error "cannot begin" else .ok nothing, answers)
  | .commit, answers => (if d.failsToCommit then .error "cannot commit" else .ok nothing, answers)
  | .rollback, answers => (.ok nothing, answers)
  | _, [] => (.ok nothing, [])
  | _, reply :: answers => (reply, answers)

/-- Answers a call. -/
def serve (c : Database.Call) (d : Script) : c.Reply × Script :=
  match c with
  | .connect => (if d.refuses then .error "login refused" else .ok (), d)
  | .execute s =>
    let (reply, answers) := d.answer s
    (reply, { d with answers, statements := d.statements ++ [s] })
  | .draw => (d.candidate d.drawn, { d with drawn := d.drawn + 1 })
  | .announce items => ((), { d with announced := d.announced ++ [items] })

/-- Carries out work after opening a connection. -/
def work {α : Type} (job : Database.Job α) (d : Script) : Except StoreError α × Script :=
  Program.run serve (do let _ ← Database.connect; job).run d

end Script

end OrderDesk.Store
