import OrderDesk.World

/-!
# Rehearsals

A world in which calls can be made to go wrong, and in which everything that is drawn is named by a
count.  A fault lets some calls of a kind through and then strikes some of them: such a call fails,
is never answered, or brings its turn down.  It strikes before anything else happens, so a call that
fails leaves no trace and uses up no number.

`Rehearsal.route` deals with several events one after another.  A turn that ends in a failure is
followed by an apology; a turn that is never answered steps aside, and its apology comes after all
other turns.
-/

namespace OrderDesk

/-! ## Faults -/

/-- What happens to a call that is struck. -/
inductive FaultMode where
  | error
  /-- It is never answered. -/
  | hang
  /-- It brings its turn down. -/
  | panic
  deriving DecidableEq, Repr

/-- Which calls go wrong. -/
structure Fault where
  /-- Kind of the calls; `any` stands for all kinds. -/
  kind : String
  /-- What happens to them. -/
  mode : FaultMode
  /-- How many are let through first. -/
  after : Nat
  /-- How many are struck then. -/
  times : Nat
  deriving DecidableEq, Repr

namespace Fault

/-- Counts one call of a kind: whether it is struck, and the fault from now on. -/
def count (f : Fault) (kind : String) : Option FaultMode × Fault :=
  if f.kind = "any" ∨ f.kind = kind then
    if 0 < f.after then (none, { f with after := f.after - 1 })
    else if 0 < f.times then (some f.mode, { f with times := f.times - 1 })
    else (none, f)
  else (none, f)

end Fault

/-- The kind of a call to the chat. -/
def Chat.Call.kind : Chat.Call → String
  | sendText _ _ _ => "send_text"
  | sendAlbum _ _ => "send_media_group"
  | editPhoto _ _ _ => "edit_message_media"
  | editButtons _ _ _ => "edit_message_buttons"
  | delete _ _ => "delete_message"

/-- The kind of a call to the store, for those calls that can be struck. -/
def Store.Call.kind? : Store.Call → Option String
  | customer _ => some "get_customer"
  | saveCustomer _ => some "save_customer"
  | updateCustomer _ _ => some "update_customer"
  | updateStep _ _ => some "update_state"
  | resetOffsets => some "nullify_catalog_offsets"
  | idAt _ => some "get_id_by_rank"
  | saveOrder _ => some "save_order"
  | order _ => some "get_order_by_short_id"
  | freeShortId => some "get_free_short_id"
  | ordersOf _ => some "get_orders_for_customer"
  | markPaid _ _ => some "update_order_to_paid"
  | catalog => none
  | addItem _ => none
  | removeItem _ => none
  | swapRanks _ _ => none
  | rankOf _ => none

/-! ## The world of a rehearsal -/

/-- A world with faults and counts. -/
structure Rehearsal where
  world : World
  /-- Which calls to the chat go wrong. -/
  chatFault : Option Fault
  /-- Which calls to the store go wrong. -/
  storeFault : Option Fault
  /-- Drafts named so far. -/
  drafts : Nat
  /-- Orders named so far. -/
  orders : Nat
  /-- Short identifiers named so far. -/
  shortIds : Nat

namespace Rehearsal

/-- The identifier number `n` of a series. -/
def numbered (series n : Nat) : Uuid := .ofNat (series <<< 48 + n)

/-- The identifiers that turns draw: random ones by their version, told apart by a count. -/
def draws : Draws where
  id n := .ofNat (0x4000 <<< 64 + 0x8000 <<< 48 + n)
  shortId n := shortIdOf n

/-- A rehearsal before its first step. -/
def initial (rate : Float) (clock : Instant) (firstMessage : Int32) : Rehearsal :=
  { world := .initial draws rate clock firstMessage, chatFault := none, storeFault := none
    drafts := 0, orders := 0, shortIds := 0 }

/-- A call to the store goes through without being struck.  A draft with a random identifier and an
order get the next number of their series, an order also the time of the clock, and short
identifiers are counted. -/
def letThrough (c : Store.Call) (r : Rehearsal) : c.Reply × Rehearsal :=
  let plainly (c : Store.Call) (r : Rehearsal) : c.Reply × Rehearsal :=
    let (reply, world) := r.world.serveStore c
    (reply, { r with world })
  match c with
  | .updateCustomer id u =>
    match u.draft with
    | some (some draft) =>
      if draft.id.isRandom then
        let n := r.drafts + 1
        plainly (.updateCustomer id { u with draft := some (some { draft with id := numbered 1 n }) })
          { r with drafts := n }
      else plainly (.updateCustomer id u) r
    | _ => plainly (.updateCustomer id u) r
  | .saveOrder o =>
    let n := r.orders + 1
    plainly (.saveOrder { o with id := numbered 2 n, createdAt := r.world.clock }) { r with orders := n }
  | .freeShortId =>
    let n := r.shortIds + 1
    (.ok (String.ofList ('O' :: 'R' :: 'D' :: Decimal.padded 3 n)), { r with shortIds := n })
  | c => plainly c r

/-- Answers a call to the store, unless it is struck. -/
def serveStore (c : Store.Call) (r : Rehearsal) : c.Reply × Rehearsal :=
  match r.storeFault, c.kind? with
  | some fault, some kind =>
    let (struck, fault) := fault.count kind
    let r := { r with storeFault := some fault }
    match struck with
    | some _ => (.error (.corrupted ("injected " ++ kind)), r)
    | none => r.letThrough c
  | _, _ => r.letThrough c

/-- Answers a call to the chat, unless it is struck. -/
def serveChat (c : Chat.Call) (r : Rehearsal) : Program.Served c.Reply × Rehearsal :=
  let plainly (r : Rehearsal) : Program.Served c.Reply × Rehearsal :=
    let (reply, world) := r.world.serveChat c
    (.reply reply, { r with world })
  match r.chatFault with
  | some fault =>
    let (struck, fault) := fault.count c.kind
    let r := { r with chatFault := some fault }
    match struck with
    | some .error => (.reply (.error (.invalidUrl "injected")), r)
    | some .hang => (.silence, r)
    | some .panic => (.crash, r)
    | none => plainly r
  | none => plainly r

/-- Answers a call of a turn. -/
def serve (c : Desk.Call) (r : Rehearsal) : Program.Served c.Reply × Rehearsal :=
  match c with
  | .store c =>
    let (reply, r) := r.serveStore c
    (.reply reply, r)
  | .chat c => r.serveChat c
  | c =>
    let (reply, world) := r.world.serve c
    (.reply reply, { r with world })

/-! ## Turns and work -/

/-- Carries a turn out. -/
def attempt {α : Type} (turn : Turn α) (r : Rehearsal) : Program.Outcome (Except Failure α) × Rehearsal :=
  turn.run.attempt serve r

/-- Carries out a piece of work on the store. -/
def work {α : Type} (job : Store.Work α) (r : Rehearsal) : Except StoreError α × Rehearsal :=
  job.run.run serveStore r

/-- Apologizes; how that ends does not matter. -/
def apologize (desk : Desk) (chat : Int64) (r : Rehearsal) : Rehearsal :=
  ((desk.apologize chat).attempt serve r).2

/-- Deals with the events one after another; the chats of those that were never answered are `late`.
-/
def routeEach (desk : Desk) : List Chat.Event → List Int64 → Rehearsal → List Int64 × Rehearsal
  | [], late, r => (late, r)
  | event :: events, late, r =>
    match r.attempt (desk.dispatch event) with
    | (.finished (.ok ()), r) => routeEach desk events late r
    | (.finished (.error _), r) => routeEach desk events late (r.apologize desk event.chat)
    | (.waiting, r) => routeEach desk events (late ++ [event.chat]) r
    | (.crashed, r) => routeEach desk events late r

/-- Deals with several events. -/
def route (desk : Desk) (events : List Chat.Event) (r : Rehearsal) : Rehearsal :=
  let (late, r) := routeEach desk events [] r
  late.foldl (fun r chat => r.apologize desk chat) r

end Rehearsal

end OrderDesk
