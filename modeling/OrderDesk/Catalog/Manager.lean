import OrderDesk.Store.Call

/-!
# Managing the catalogue

Every change of the catalogue sets all customers' offsets to 0.  Moving an item beyond either end
changes nothing.
-/

namespace OrderDesk.Catalog.Manager

open OrderDesk.Store

/-- Appends an item; its rank. -/
def add (item : Item) : Work UInt32 := do
  let rank ← perform (.addItem item)
  perform .resetOffsets
  return rank

/-- Takes an item out. -/
def remove (id : Uuid) : Work Unit := do
  perform (.removeItem id)
  perform .resetOffsets

/-- Moves an item one place towards the front. -/
def moveUp (id : Uuid) : Work Unit := do
  let rank : UInt32 ← perform (.rankOf id)
  if rank = 0 then return
  let neighbour ← perform (.idAt (rank - 1))
  perform (.swapRanks id neighbour)
  perform .resetOffsets

/-- The item of a rank, or nothing where there is none. -/
def neighbour? (rank : UInt32) : Work (Option Uuid) := ExceptT.mk do
  match ← Program.call (.idAt rank) with
  | .ok id => return .ok (some id)
  | .error (.itemNotFound _) => return .ok none
  | .error e => return .error e

/-- Moves an item one place towards the back.  There is a rank after that of every item as long as a
store has fewer than `2 ^ 32` of them. -/
def moveDown (id : Uuid) : Work Unit := do
  let rank : UInt32 ← perform (.rankOf id)
  match ← neighbour? (rank + 1) with
  | none => return
  | some neighbour =>
    perform (.swapRanks neighbour id)
    perform .resetOffsets

end OrderDesk.Catalog.Manager
