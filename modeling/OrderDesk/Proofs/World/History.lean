import OrderDesk.Catalog.Manager
import OrderDesk.Proofs.Conversation.Surroundings
import OrderDesk.World

/-!
# Histories

A history is a finite sequence of occurrences: events that are dispatched one after another, changes
of the catalogue by those who manage it, and anything else that may differ from one event to the
next, the rate, the time and the number of the next message.  `World.after` is the world at the end
of a history that began with nothing kept.

A property of customers and a property of orders last (`Desk.Lasting`) when they hold of a customer on
first contact, survive every move, and hold of the order that an accepted address makes.  Dispatches
and upkeep keep what lasts.
-/

namespace OrderDesk

open Desk (Move Sources Deed)
open Store (Memory)

/-! ## The world as surroundings -/

/-- A world has its store in memory. -/
def World.surroundings : Surroundings World where
  serve := World.serve
  memory := World.memory
  memory_serve c w := by
    cases c with
    | store c => exact Memory.serve_memory _ _ _ c
    | chat c => cases c <;> rfl
    | _ => rfl
  reply c w := ⟨w.draws.shortId, w.drawnShortIds, rfl⟩

/-! ## Occurrences -/

/-- A change of the catalogue. -/
inductive Upkeep where
  | add (item : Catalog.Item)
  /-- An item is taken out. -/
  | remove (id : Uuid)
  /-- An item is moved towards the front. -/
  | moveUp (id : Uuid)
  /-- An item is moved towards the back. -/
  | moveDown (id : Uuid)

/-- The work on the store that a change of the catalogue is. -/
def Upkeep.job : Upkeep → Store.Work Unit
  | add item => do
    let _ ← Catalog.Manager.add item
    return ()
  | remove id => Catalog.Manager.remove id
  | moveUp id => Catalog.Manager.moveUp id
  | moveDown id => Catalog.Manager.moveDown id

/-- Something that happens. -/
inductive Occurrence where
  | event (e : Chat.Event)
  /-- The catalogue is changed. -/
  | upkeep (u : Upkeep)
  /-- The rate, the time and the number of the next message are others. -/
  | change (rate : Float) (clock : Instant) (nextMessage : Int32)

namespace World

variable (desk : Desk)

/-- The world after an occurrence. -/
def happen (w : World) : Occurrence → World
  | .event e => (w.dispatch desk e).2
  | .upkeep u => (w.work u.job).2
  | .change rate clock nextMessage => { w with rate, clock, nextMessage }

/-- The world after a history. -/
def after (w : World) (history : List Occurrence) : World := history.foldl (happen desk) w

end World

/-! ## Upkeep -/

/-- A call by which the catalogue is kept up. -/
def Store.Call.IsUpkeep : Store.Call → Prop
  | addItem _ => True
  | removeItem _ => True
  | swapRanks _ _ => True
  | resetOffsets => True
  | rankOf _ => True
  | idAt _ => True
  | _ => False

/-- All calls of a piece of work are upkeep. -/
def Store.Work.IsUpkeep {α : Type} (job : Store.Work α) : Prop :=
  job.run.Along (fun _ _ => True) fun cs _ => ∀ c ∈ cs, c.IsUpkeep

namespace Store.Work

variable {α β : Type}

theorem isUpkeep_pure (a : α) : (pure a : Work α).IsUpkeep :=
  Program.along_pure.2 (List.forall_mem_nil _)

theorem isUpkeep_perform {c : Call} (h : c.IsUpkeep) : (perform c).IsUpkeep :=
  Program.along_ask.2 fun _ _ => Program.along_pure.2 (List.forall_mem_singleton.2 h)

theorem IsUpkeep.bind {job : Work α} {f : α → Work β} (h : job.IsUpkeep)
    (hf : ∀ a, (f a).IsUpkeep) :
    (job >>= f).IsUpkeep := by
  refine (Program.along_run_bind job f _).2 (h.mono ?_)
  rintro cs (e | a) hcs
  · exact hcs
  · exact (hf a).mono fun ds _ hds => List.forall_mem_append.2 ⟨hcs, hds⟩

end Store.Work

open Store.Work (isUpkeep_perform isUpkeep_pure)

theorem Catalog.Manager.neighbour?_isUpkeep (rank : UInt32) : (neighbour? rank).IsUpkeep := by
  refine Program.along_ask.2 fun r _ => ?_
  rcases r with e | id
  · cases e <;> exact Program.along_pure.2 (List.forall_mem_singleton.2 trivial)
  · exact Program.along_pure.2 (List.forall_mem_singleton.2 trivial)

theorem Upkeep.job_isUpkeep (u : Upkeep) : u.job.IsUpkeep := by
  have reset {c : Store.Call} (hc : c.IsUpkeep) : (do
      let _ ← Store.perform c
      Store.perform .resetOffsets).IsUpkeep :=
    (isUpkeep_perform hc).bind fun _ => isUpkeep_perform trivial
  cases u with
  | add item =>
    refine Store.Work.IsUpkeep.bind ?_ fun _ => isUpkeep_pure ()
    refine (isUpkeep_perform (c := .addItem item) trivial).bind fun rank => ?_
    exact (isUpkeep_perform (c := .resetOffsets) trivial).bind fun _ => isUpkeep_pure rank
  | remove id => exact reset (c := .removeItem id) trivial
  | moveUp id =>
    refine (isUpkeep_perform (c := .rankOf id) trivial).bind fun (rank : UInt32) => ?_
    split
    · exact isUpkeep_pure ()
    · refine (isUpkeep_perform (c := .idAt _) trivial).bind fun _ => ?_
      exact reset (c := .swapRanks _ _) trivial
  | moveDown id =>
    refine (isUpkeep_perform (c := .rankOf id) trivial).bind fun (rank : UInt32) => ?_
    refine (Catalog.Manager.neighbour?_isUpkeep (rank + 1)).bind fun neighbour => ?_
    split
    · exact isUpkeep_pure ()
    · exact reset (c := .swapRanks _ _) trivial

/-- Upkeep changes nothing but the catalogue and where customers are in it. -/
theorem Store.Memory.after_isUpkeep {m : Memory} {c : Store.Call} (h : c.IsUpkeep) :
    (∃ items, m.after c = { m with items }) ∨ m.after c = m.resetOffsets := by
  cases c with
  | addItem item => exact .inl (after_addItem item)
  | removeItem id => exact .inl (after_removeItem id)
  | swapRanks up down => exact .inl (after_swapRanks up down)
  | resetOffsets => exact .inr rfl
  | rankOf id => exact .inl ⟨m.items, rfl⟩
  | idAt rank => exact .inl ⟨m.items, rfl⟩
  | _ => exact h.elim

namespace World

variable {desk : Desk} {w : World}

/-- What neither the catalogue nor the places in it matter for survives upkeep. -/
theorem happen_upkeep {I : Memory → Prop} (items : ∀ m items, I m → I { m with items })
    (reset : ∀ m, I m → I m.resetOffsets) (h : I w.memory) (u : Upkeep) :
    I (w.happen desk (.upkeep u)).memory := by
  -- nothing need be assumed of replies: upkeep makes no other calls whatever it is told
  have hcalls : ∀ c ∈ u.job.run.calls serveStore w, c.IsUpkeep :=
    Program.Along.run u.job_isUpkeep
      (Program.met_of_invariant (I := fun _ => True) (fun _ _ _ => ⟨trivial, trivial⟩) _ trivial)
  have hserve : ∀ c v, (serveStore c v).2.memory = v.memory.after c := fun c v =>
    Memory.serve_memory _ _ _ c
  have hmemory : (w.happen desk (.upkeep u)).memory =
      (u.job.run.calls serveStore w).foldl Memory.after w.memory :=
    Program.view_run hserve u.job.run w
  rw [hmemory]
  refine List.foldlRecOn _ _ h fun m hm c hc => ?_
  rcases Memory.after_isUpkeep (m := m) (hcalls c hc) with ⟨items', hitems⟩ | hreset
  · exact hitems ▸ items m items' hm
  · exact hreset ▸ reset m hm

/-- After every history each customer is kept once. -/
theorem keyed_after (desk : Desk) (draws : Draws) (rate : Float) (clock : Instant)
    (firstMessage : Int32) (history : List Occurrence) :
    ((World.initial draws rate clock firstMessage).after desk history).memory.Keyed := by
  have start : (World.initial draws rate clock firstMessage).memory.Keyed := Memory.keyed_empty
  refine List.foldlRecOn history (happen desk) (motive := fun w : World => w.memory.Keyed) start
    fun w hw occurrence _ => ?_
  cases occurrence with
  | event e => exact World.surroundings.keyed_run (desk.dispatch e) hw
  | upkeep u => exact happen_upkeep (fun _ _ hm => hm) (fun _ hm => hm.resetOffsets) hw u
  | change rate clock nextMessage => exact hw

end World

/-! ## What lasts -/

/-- Every customer and every order has a property. -/
structure Store.Memory.Each (P : Customer → Prop) (O : Order → Prop) (m : Memory) : Prop where
  /-- Customers have theirs. -/
  customers : ∀ c ∈ m.customers, P c
  /-- Orders have theirs. -/
  orders : ∀ o ∈ m.orders, O o

theorem Store.Memory.each_empty {P : Customer → Prop} {O : Order → Prop} : Memory.empty.Each P O :=
  ⟨List.forall_mem_nil P, List.forall_mem_nil O⟩

/-- A property of customers and one of orders survive everything that the desk does, given what is
known of the sources. -/
structure Desk.Lasting (desk : Desk) (σ : Sources) (P : Customer → Prop)
    (O : Order → Prop) : Prop where
  /-- A customer on first contact. -/
  fresh : ∀ id username, P (.fresh id username)
  move : ∀ {c q u}, P c → Move desk σ c q u → P (c.apply u)
  /-- A customer who is sent back to the front of the catalogue. -/
  front : ∀ {c}, P c → P { c with catalogOffset := 0 }
  /-- A customer whose cart is ordered. -/
  ordered : ∀ {c}, P c → c.step = .deliveryAddress → P (c.apply .clearing)
  order : ∀ {c text address} (shortId id createdAt), P c → c.step = .deliveryAddress →
    Answer.address? text = some address →
      O (.ofCustomer c address c.terms.isExpress shortId id createdAt)
  paid : ∀ {o}, O o → O { o with isPaid := true }

namespace Desk.Lasting

variable {desk : Desk} {σ : Sources} {P : Customer → Prop} {O : Order → Prop} {m : Memory}

theorem welcome (h : desk.Lasting σ P O) (hm : m.Each P O) (sender : Chat.Sender) :
    (m.welcome sender).Each P O where
  customers c hc := by
    rcases Memory.mem_welcome hc with hc | ⟨username, rfl⟩
    · exact hm.customers c hc
    · exact h.fresh _ _
  orders o ho := hm.orders o (Memory.welcome_orders m sender ▸ ho)

theorem put (hm : m.Each P O) {c : Customer} (hc : P c) : (m.putCustomer c).Each P O where
  customers x hx := by
    rcases Memory.mem_putCustomer hx with rfl | ⟨hx, -⟩
    · exact hc
    · exact hm.customers x hx
  orders o ho := hm.orders o (Memory.putCustomer_orders m c ▸ ho)

theorem markPaid (h : desk.Lasting σ P O) (hm : m.Each P O) (id : Int64) (shortId : String) :
    (m.after (.markPaid id shortId)).Each P O where
  customers c hc := hm.customers c (Memory.after_markPaid_customers shortId ▸ hc)
  orders o ho := by
    rcases Memory.mem_markPaid ho with ho | ⟨old, hold, rfl⟩
    · exact hm.orders o ho
    · exact h.paid (hm.orders old hold)

/-- What lasts survives a deed. -/
theorem deed (h : desk.Lasting σ P O) (hm : m.Each P O) {c : Customer}
    (hc : m.customer? c.id = some c)
    {q : Desk.Request} {ds : List Store.Call} (hds : Deed desk σ c q ds) :
    (ds.foldl Memory.after m).Each P O := by
  have hP : P c := hm.customers c (Memory.customer?_mem hc)
  cases hds with
  | nothing => exact hm
  | move hmove =>
    rw [Memory.foldl_updateCustomer hc]
    exact put hm (h.move hP hmove)
  | order hstep haddress =>
    rw [Memory.foldl_order hc]
    have hput := put hm (h.ordered hP hstep)
    refine ⟨hput.customers, fun o ho => ?_⟩
    rcases List.mem_append.1 ho with ho | ho
    · exact hput.orders o ho
    · exact List.mem_singleton.1 ho ▸ h.order _ _ _ hP hstep haddress
  | pay htext => exact h.markPaid hm c.id _

/-- What lasts survives a dispatch. -/
theorem dispatch {W : Type} {S : Surroundings W} {event : Chat.Event} {w : W}
    (h : desk.Lasting σ P O)
    (hσ : (desk.dispatch event).run.Met S.serve σ.Gives w) (hw : (S.memory w).Each P O) :
    (S.memory (S.run (desk.dispatch event) w).2).Each P O := by
  obtain ⟨ds, hmemory, hds⟩ := S.memory_dispatch hσ
  have hwelcome := h.welcome hw event.sender
  rw [hmemory]
  rcases hds with rfl | ⟨q, -, hds⟩
  · exact hwelcome
  · exact h.deed hwelcome (Memory.customer?_welcome _ _) hds

theorem upkeep (h : desk.Lasting σ P O) {w : World} (hw : w.memory.Each P O) (u : Upkeep) :
    (w.happen desk (.upkeep u)).memory.Each P O := by
  refine World.happen_upkeep (I := Memory.Each P O) (fun m items hm => ⟨hm.customers, hm.orders⟩)
    (fun m hm => ⟨fun c hc => ?_, hm.orders⟩) hw u
  obtain ⟨old, hold, rfl⟩ := List.mem_map.1 hc
  exact h.front (hm.customers old hold)

end Desk.Lasting

/-! ## A purchase -/

/-- A desk without phrases and buttons, to which every link is welcome. -/
def Desk.bare : Desk where
  texts := .empty
  settings := .standard
  keyboards :=
    { menuLabel := "menu", cartLabel := "cart", addPositionLabel := "add"
      menu := [], orderType := [], location := [], category := [], button := []
      calculatorOrderType := [], calculatorLocation := [], calculatorCategory := []
      calculateMore := [], cartPreview := [], positionAdded := [], faq := [] }
  linkPattern := ⟨"", .empty⟩

namespace Purchase

/-- The world before the purchase. -/
def opening : World := .initial ⟨Uuid.ofNat, shortIdOf⟩ 1.0 ⟨0, 0⟩ 1

/-- The customer types a text. -/
def types (text : String) : Chat.Event := .text 1 ⟨1, "Ivan", none, none⟩ text

/-- The customer presses the button with a code. -/
def presses (code : String) : Chat.Event := .press 1 ⟨1, "Ivan", none, none⟩ none code

/-- Two lines are collected for normal delivery, one of them is taken out, and checkout goes as far
as the address. -/
def events : List Chat.Event :=
  [types "/add", presses "11", presses "13", presses "15", types "42", presses "18", types "100",
    types "shop/1",
    types "/add", presses "17", types "#", presses "19", types "250", types "shop/2",
    presses "30", presses "1000", presses "31", types "Ivanov Ivan Ivanovich", types "79990000000"]

/-- The address. -/
def address : Chat.Event := types "Lenina 1"

/-- The purchase up to the address. -/
def untilAddress : List Occurrence := events.map .event

/-- The whole purchase. -/
def whole : List Occurrence := untilAddress ++ [.event address]

end Purchase

end OrderDesk
