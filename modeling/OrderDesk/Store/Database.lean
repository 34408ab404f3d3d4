import OrderDesk.Store.Tables

/-!
# The store in a database

Every call to the store as a program of statements.  A change of the catalogue is one transaction:
it is committed only when all its statements went through, and undone otherwise.  After it the
catalogue is read back and announced, if anyone listens.
-/

namespace OrderDesk.Store.Database

open Sql (Answer Datum Row Statement)

/-! ## Calls -/

/-- What the store asks for. -/
inductive Call where
  | connect
  /-- Carry out a statement. -/
  | execute (s : Statement)
  /-- Draw a candidate for a short identifier. -/
  | draw
  | announce (items : List Catalog.Item)
  deriving Repr

/-- The reply to a call: those to the database can fail. -/
abbrev Call.Reply : Call → Type
  | connect => Except String Unit
  | execute _ => Except String Answer
  | draw => String
  | announce _ => Unit

/-- A piece of work on the database that can fail. -/
abbrev Job (α : Type) : Type := ExceptT StoreError (Program Call Call.Reply) α

/-- A call that does not fail. -/
def ask (c : Call) : Job (Call.Reply c) := ExceptT.mk (Except.ok <$> Program.call c)

/-- A result that is known. -/
def ofExcept {α : Type} (result : Except StoreError α) : Job α := ExceptT.mk (pure result)

/-- Opens a connection. -/
def connect : Job Unit := do
  let result : Except String Unit ← ask .connect
  ofExcept (result.mapError .database)

/-- Carries out a statement. -/
def execute (s : Statement) : Job Answer := do
  let result : Except String Answer ← ask (.execute s)
  ofExcept (result.mapError .database)

/-- Carries out a statement that concerns rows; if there is none, that is the given error. -/
def change (s : Statement) (otherwise : StoreError) : Job Unit := do
  let answer ← execute s
  if answer.affected = 0 then throw otherwise

/-- The first row of an answer; if there is none, that is the given error. -/
def firstRow (s : Statement) (otherwise : StoreError) : Job Row := do
  let answer ← execute s
  match answer.rows with
  | row :: _ => return row
  | [] => throw otherwise

/-- A statement that has to give a row gave none. -/
def noRow : StoreError := .database "no row"

/-- Work in a transaction, undone if it fails or cannot be committed. -/
def transaction {α : Type} (job : Job α) : Job α := do
  let _ ← execute .begin
  tryCatch
    (do
      let a ← job
      let _ ← execute .commit
      return a)
    (fun e => do
      let _ ← ask (.execute .rollback)
      throw e)

/-! ## Customers -/

/-- The customer with the given identifier. -/
def customer (id : Int64) : Job Customer := do
  let row ← firstRow (.select "customers" [.equal "telegram_id" (.bigint id)] none) (.customerNotFound id)
  ofExcept (customerOfRow row)

/-- Keeps a customer. -/
def saveCustomer (c : Customer) : Job Unit := do
  let _ ← execute (.upsert "customers" "telegram_id" (customerRow c))

/-- Sets columns of a customer. -/
def setColumns (id : Int64) (columns : Row) : Job Unit :=
  change
    (.update "customers" (columns.map fun (name, d) => (name, .bound d)) [.equal "telegram_id" (.bigint id)])
    (.customerNotFound id)

/-- Changes some fields of a customer; without a change nothing is asked. -/
def updateCustomer (id : Int64) (u : Customer.Update) : Job Unit :=
  if u.isEmpty then pure () else setColumns id (updateColumns u)

/-- Changes the step of a customer. -/
def updateStep (id : Int64) (s : Step) : Job Unit := setColumns id [("state", stepDatum s)]

/-- Sets every customer's catalogue offset to 0. -/
def resetOffsets : Job Unit := do
  let _ ← execute (.update "customers" [("catalog_offset", .zero)] [])

/-! ## The catalogue -/

/-- The catalogue by rank. -/
def catalog : Job (List Catalog.Item) := do
  let answer ← execute (.select "catalog" [] (some "rank"))
  ofExcept (answer.rows.mapM itemOfRow)

/-- Announces the catalogue, if anyone listens. -/
def announce (listening : Bool) : Job Unit := do
  if listening then
    let items ← catalog
    ask (.announce items)

/-- Appends an item under the rank that follows the greatest one. -/
def insertItem (item : Catalog.Item) : Job Int32 := do
  let _ ← execute (.lock "catalog")
  let (before, behind) ← ofExcept (itemColumns item)
  let bound (columns : Row) : List (String × Sql.Scalar) := columns.map fun (name, d) => (name, .bound d)
  let row ← firstRow
    (.append "catalog" (bound before ++ ("rank", .following "rank") :: bound behind) "rank") noRow
  ofExcept (onlyColumn row Datum.integer?)

/-- Takes an item out and moves those behind it up. -/
def deleteItem (id : Uuid) : Job Unit := do
  let row ← firstRow (.delete "catalog" (.equal "item_id" (.uuid id)) "rank") (.noItem id)
  let rank ← ofExcept (onlyColumn row Datum.integer?)
  let _ ← execute (.update "catalog" [("rank", .preceding "rank")] [.above "rank" (.integer rank)])

/-- The rank of an item, which no one else changes if `locked`. -/
def rank (id : Uuid) (locked : Bool) : Job Int32 := do
  let row ← firstRow (.selectColumn "rank" "catalog" (.equal "item_id" (.uuid id)) locked) (.noItem id)
  ofExcept (onlyColumn row Datum.integer?)

/-- Gives an item another rank. -/
def setRank (id : Uuid) (rank : Int32) : Job Unit := do
  let _ ← execute (.update "catalog" [("rank", .bound (.integer rank))] [.equal "item_id" (.uuid id)])

/-- Exchanges the ranks of two items. -/
def exchange (up down : Uuid) : Job Unit := do
  let upRank ← rank up true
  let downRank ← rank down true
  setRank up downRank
  setRank down upRank

/-- The item of a rank. -/
def idAt (rank : UInt32) : Job Uuid := do
  let row ← firstRow (.selectColumn "item_id" "catalog" (.equal "rank" (.integer rank.toInt32)) false)
    (.itemNotFound ("rank " ++ Decimal.ofNat rank.toNat))
  ofExcept (onlyColumn row Datum.uuid?)

/-! ## Orders -/

/-- Keeps an order. -/
def saveOrder (o : Order) : Job Unit := do
  let row ← ofExcept (orderRow o)
  let _ ← execute (.insert "orders" row)

/-- The order with the given short identifier. -/
def order (shortId : String) : Job Order := do
  let row ← firstRow (.select "orders" [.equal "short_id" (.text shortId)] none) (.orderNotFound shortId)
  ofExcept (orderOfRow row)

/-- An order has the given short identifier. -/
def isTaken (shortId : String) : Job Bool := do
  let row ← firstRow (.exists "orders" (.equal "short_id" (.text shortId))) noRow
  ofExcept (onlyColumn row Datum.boolean?)

/-- Draws at most the given number of candidates for a short identifier, up to one that no order
has. -/
def freeShortId : Nat → Job String
  | 0 => throw (.corrupted "short id space exhausted")
  | attempts + 1 => do
    let candidate : String ← ask .draw
    if ← isTaken candidate then freeShortId attempts else return candidate

/-- The orders of a customer by the time of the order. -/
def ordersOf (id : Int64) : Job (List Order) := do
  let answer ← execute (.select "orders" [.equal "customer_id" (.bigint id)] (some "created_at"))
  ofExcept (answer.rows.mapM orderOfRow)

/-- Marks an order of a customer as paid. -/
def markPaid (id : Int64) (shortId : String) : Job Unit :=
  change
    (.update "orders" [("is_paid", .yes)]
      [.equal "short_id" (.text shortId), .equal "customer_id" (.bigint id)])
    (.orderNotFound shortId)

/-! ## Serving calls -/

/-- Creates the tables. -/
def createTables : Job Unit := do
  let _ ← execute (.createTable customersTable)
  let _ ← execute (.createTable catalogTable)
  let _ ← execute (.createTable ordersTable)
  let _ ← execute (.createIndex "orders_customer_id_idx" "orders" "customer_id")

/-- Serves a call to the store; `listening` tells whether anyone listens to announcements. -/
def serve (listening : Bool) : (c : Store.Call) → Job c.Value
  | .customer id => customer id
  | .saveCustomer c => saveCustomer c
  | .updateCustomer id u => updateCustomer id u
  | .updateStep id s => updateStep id s
  | .resetOffsets => resetOffsets
  | .catalog => catalog
  | .addItem item => do
    let rank ← transaction (insertItem item)
    announce listening
    return rank.toUInt32
  | .removeItem id => do
    transaction (deleteItem id)
    announce listening
  | .swapRanks up down => do
    transaction (exchange up down)
    announce listening
  | .rankOf id => do
    let rank ← rank id false
    return rank.toUInt32
  | .idAt rank => idAt rank
  | .saveOrder o => saveOrder o
  | .order shortId => order shortId
  | .freeShortId => freeShortId shortIdAttempts
  | .ordersOf id => ordersOf id
  | .markPaid id shortId => markPaid id shortId

end OrderDesk.Store.Database
