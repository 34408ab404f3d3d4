import OrderDesk.Conversation.Dispatch
import OrderDesk.Store.Memory

/-!
# A world for the desk

A store in memory, a shelf that is loaded with every announcement of the store, a rate, a clock, a
chat that never fails and keeps what was sent, and sources of identifiers.  `World.serve` answers
every call of a turn, and `World.dispatch` is one event from beginning to end.
-/

namespace OrderDesk

/-- Where drawn identifiers come from: the `n`-th one of each kind. -/
structure Draws where
  /-- Identifiers. -/
  id : Nat → Uuid
  /-- Candidates for short identifiers. -/
  shortId : Nat → String

/-- Everything around the desk. -/
structure World where
  /-- What is kept. -/
  memory : Store.Memory
  /-- The copy of the catalogue that customers page through. -/
  shelf : Catalog.Shelf
  rate : Float
  clock : Instant
  /-- Sources of identifiers. -/
  draws : Draws
  drawnIds : Nat
  /-- Candidates for short identifiers drawn so far. -/
  drawnShortIds : Nat
  nextMessage : Int32
  /-- What the chat was asked to do, oldest first. -/
  sent : List Chat.Call

namespace World

/-- A world in which nothing has happened yet. -/
def initial (draws : Draws) (rate : Float) (clock : Instant) (firstMessage : Int32) : World :=
  { memory := .empty, shelf := .empty, rate, clock, draws, drawnIds := 0, drawnShortIds := 0
    nextMessage := firstMessage, sent := [] }

/-- Takes over what a call to the store left behind; an announced catalogue goes onto the shelf. -/
def settle (w : World) (a : Store.Memory.Aftermath) : World :=
  { w with
    memory := a.memory, drawnShortIds := a.drawn
    shelf := match a.announced with
      | some items => ⟨items⟩
      | none => w.shelf }

/-- Answers a call to the store. -/
def serveStore (c : Store.Call) (w : World) : c.Reply × World :=
  let (reply, aftermath) := w.memory.serve w.draws.shortId w.drawnShortIds c
  (reply, w.settle aftermath)

/-- The ids of `n` messages from the given one on. -/
def messageIds (first : Int32) (n : Nat) : List Int32 :=
  (List.range n).map fun i => first + Int32.ofNat i

/-- Answers a call to the chat: new messages are numbered one after another. -/
def serveChat (c : Chat.Call) (w : World) : c.Reply × World :=
  let w' := { w with sent := w.sent ++ [c] }
  match c with
  | .sendText _ _ _ => (.ok w.nextMessage, { w' with nextMessage := w.nextMessage + 1 })
  | .sendAlbum _ photos =>
    (.ok (messageIds w.nextMessage photos.length),
      { w' with nextMessage := w.nextMessage + Int32.ofNat photos.length })
  | .editPhoto _ _ _ => (.ok (), w')
  | .editButtons _ _ _ => (.ok (), w')
  | .delete _ _ => (.ok (), w')

/-- Answers a call of a turn. -/
def serve (c : Desk.Call) (w : World) : c.Reply × World :=
  match c with
  | .store c => w.serveStore c
  | .chat c => w.serveChat c
  | .rate => (usableRate w.rate, w)
  | .shelf => (w.shelf, w)
  | .newId => (w.draws.id w.drawnIds, { w with drawnIds := w.drawnIds + 1 })
  | .now => (w.clock, w)

/-- Carries a turn out. -/
def run {α : Type} (turn : Turn α) (w : World) : Except Failure α × World := turn.run.run serve w

/-- Deals with one event. -/
def dispatch (desk : Desk) (event : Chat.Event) (w : World) : Except Failure Unit × World :=
  w.run (desk.dispatch event)

/-- Carries out a piece of work on the store. -/
def work {α : Type} (job : Store.Work α) (w : World) : Except StoreError α × World :=
  job.run.run serveStore w

end World

end OrderDesk
