import OrderDesk.Proofs.Orders.Marks
import OrderDesk.Proofs.Orders.Payment
import OrderDesk.Proofs.Program.Abreast

/-!
# Short identifiers when orders are made at the same time

Between the call that gives an order its short identifier and the one that keeps it, dispatches of
other customers go on.  The store never gives a short identifier that is in use, so the marks of any
schedule are honest (`Surroundings.honest_abreast`): in whatever way the calls of several dispatches
fall between each other, the short identifiers of the orders that are kept stay distinct exactly if
none is disputed (`Surroundings.shortIds_nodup_iff`); and where they are distinct, the payment button
of each order marks that order.

Nothing rules a dispute out: in `Purchase.crossed` two customers are given the same candidate.
-/

namespace OrderDesk

open Store (Memory)

/-! ## Short identifiers in a store -/

namespace Store.Memory

/-- The short identifiers of the orders that are kept. -/
def shortIds (m : Memory) : List String := m.orders.map (·.shortId)

variable {m : Memory}

/-- A short identifier that is given is not in use. -/
theorem not_mem_of_freeShortId {next : Nat → String} {attempts n : Nat} {shortId : String}
    (h : (m.freeShortId next attempts n).1 = .ok shortId) : shortId ∉ m.shortIds := by
  induction attempts generalizing n with
  | zero => cases h
  | succ attempts ih =>
    unfold freeShortId at h
    split at h
    · rename_i hfree
      obtain rfl := Except.ok.inj h
      simpa [isFree, shortIds] using hfree
    · exact ih h

/-- The short identifiers that are in use change only when an order is kept. -/
theorem shortIds_after (m : Memory) (c : Call) :
    (m.after c).shortIds = m.shortIds ++
      match c with
      | .saveOrder o => [o.shortId]
      | _ => [] := by
  have hupdate : ∀ id u, (m.after (.updateCustomer id u)).orders = m.orders := by
    intro id u
    cases hc : m.customer? id with
    | none => rw [after_updateCustomer_of_none hc]
    | some c => rw [after_updateCustomer hc, putCustomer_orders]
  cases c with
  | saveCustomer c => simp [shortIds, after, serve]
  | updateCustomer id u => simp [shortIds, hupdate]
  | updateStep id s =>
    have hstep : m.after (.updateStep id s) =
        m.after (.updateCustomer id { Customer.Update.none with step := some s }) := rfl
    simp [shortIds, hstep, hupdate]
  | removeItem id =>
    obtain ⟨items, hitems⟩ := after_removeItem (m := m) id
    simp [shortIds, hitems]
  | swapRanks up down =>
    obtain ⟨items, hitems⟩ := after_swapRanks (m := m) up down
    simp [shortIds, hitems]
  | saveOrder o => simp [shortIds, after, serve, saveOrder]
  | markPaid id shortId => simp [shortIds, map_markPaid (f := (·.shortId)) fun _ => rfl]
  | _ => simp [shortIds, after, serve, resetOffsets, addItem]

end Store.Memory

/-- What an order is kept under, a call that keeps an order is marked with. -/
theorem Surroundings.shortIds_serve {W : Type} (S : Surroundings W) (c : Desk.Call) (w : W) :
    (S.memory (S.serve c w).2).shortIds = (S.memory w).shortIds ++
      ((Mark.of? c (S.serve c w).1).bind Mark.kept?).toList := by
  rw [S.memory_serve]
  cases c with
  | store c =>
    obtain ⟨next, drawn, hreply⟩ := S.reply c w
    rw [Desk.Call.effect, Memory.shortIds_after, hreply]
    cases c with
    | saveOrder o => rfl
    | freeShortId =>
      show _ = _ ++ ((Mark.of? (.store .freeShortId)
        ((S.memory w).freeShortId next Store.shortIdAttempts drawn).1).bind Mark.kept?).toList
      cases ((S.memory w).freeShortId next Store.shortIdAttempts drawn).1 <;> rfl
    | _ => rfl
  | _ => simp [Desk.Call.effect, Mark.of?]

/-- A short identifier that is given is not in use. -/
theorem Surroundings.not_mem_of_given {W : Type} (S : Surroundings W) {c : Desk.Call} {w : W}
    {shortId : String} (h : Mark.of? c (S.serve c w).1 = some (.given shortId)) :
    shortId ∉ (S.memory w).shortIds := by
  cases c with
  | store c =>
    cases c with
    | freeShortId =>
      obtain ⟨next, drawn, hreply⟩ := S.reply .freeShortId w
      cases hfree : (S.serve (.store .freeShortId) w).1 with
      | error e =>
        rw [hfree] at h
        cases h
      | ok s =>
        rw [hfree] at h
        obtain rfl : s = shortId := by simpa [Mark.of?] using h
        have hgiven : ((S.memory w).freeShortId next Store.shortIdAttempts drawn).1 = .ok s :=
          hreply.symm.trans hfree
        exact Memory.not_mem_of_freeShortId hgiven
    | saveOrder o =>
      obtain ⟨next, drawn, hreply⟩ := S.reply (.saveOrder o) w
      rw [hreply] at h
      cases h
    | _ => cases h
  | _ => cases h

/-! ## Dispatches at the same time -/

namespace Mark

variable {ι : Type}

/-- The marks of a history, each with the one who left it. -/
def marks (history : List (Exchange ι Desk.Call Desk.Call.Reply)) : List (ι × Mark) :=
  history.filterMap fun m => (of? m.call m.reply).map (m.who, ·)

theorem marks_append (before after : List (Exchange ι Desk.Call Desk.Call.Reply)) :
    marks (before ++ after) = marks before ++ marks after := List.filterMap_append

theorem marks_cons (m : Exchange ι Desk.Call Desk.Call.Reply)
    (history : List (Exchange ι Desk.Call Desk.Call.Reply)) :
    marks (m :: history) = ((of? m.call m.reply).map (m.who, ·)).toList ++ marks history := by
  unfold marks
  rw [List.filterMap_cons]
  cases of? m.call m.reply <;> rfl

/-- What the clerk of one of them has written down. -/
theorem notes_clerk [DecidableEq ι] (i : ι) (history : List (Exchange ι Desk.Call Desk.Call.Reply))
    (written : List Mark) :
    Abreast.notes clerk i history written = written ++ ofOne i (marks history) := by
  induction history generalizing written with
  | nil => exact (List.append_nil _).symm
  | cons m history ih =>
    have hnotes : Abreast.notes clerk i (m :: history) written =
        Abreast.notes clerk i history
          (if m.who = i then written ++ (of? m.call m.reply).toList else written) := rfl
    rw [hnotes, ih, marks_cons]
    cases hmark : of? m.call m.reply with
    | none => simp
    | some mark =>
      by_cases hwho : m.who = i
      · simp [ofOne, hwho]
      · simp [ofOne, hwho]

end Mark

namespace Surroundings

variable {ι W : Type} [DecidableEq ι] (S : Surroundings W)

/-- Several events are dispatched at the same time; the schedule says whose call comes next. -/
def abreast (desk : Desk) (events : ι → Chat.Event) (w : W) (schedule : List ι) :
    Abreast ι Desk.Call Desk.Call.Reply (Except Failure Unit) W :=
  (Abreast.start (fun i => (desk.dispatch (events i)).run) w).after S.serve schedule

variable (desk : Desk) (events : ι → Chat.Event) (w : W) (schedule : List ι)

/-- The clerk of each dispatch finds its marks in order. -/
theorem orderly_abreast (i : ι) :
    Mark.Orderly (Mark.ofOne i (Mark.marks (S.abreast desk events w schedule).history)) := by
  have hstart : ∀ i, (desk.dispatch (events i)).Watched Mark.clerk Mark.Orderly (fun _ => True)
      (fun _ _ => True) [] := fun i => Desk.dispatch_orderly desk (events i)
  have hnow : Mark.Orderly (Abreast.notes Mark.clerk i
      (S.abreast desk events w schedule).history []) :=
    (Abreast.watched_after (fun _ _ _ => trivial) hstart w schedule i).now
  rw [Mark.notes_clerk] at hnow
  exact hnow

/-- The marks tell which short identifiers are in use, where `initial` are those that were before, and
one that is given is not. -/
structure Tallied (initial : List String)
    (s : Abreast ι Desk.Call Desk.Call.Reply (Except Failure Unit) W) : Prop where
  inUse : (S.memory s.world).shortIds = initial ++ Mark.keptIds (Mark.marks s.history)
  free : ∀ before i shortId, before ++ [(i, .given shortId)] <+: Mark.marks s.history →
    shortId ∉ initial ++ Mark.keptIds before

variable {S} in
theorem Tallied.step {initial : List String}
    {s : Abreast ι Desk.Call Desk.Call.Reply (Except Failure Unit) W} (h : S.Tallied initial s)
    (i : ι) : S.Tallied initial (s.step S.serve i) := by
  rcases s.step_cases S.serve i with hsame | ⟨c, next, -, -, hworld, hhistory⟩
  · rwa [hsame]
  · have hmarks : Mark.marks (s.step S.serve i).history = Mark.marks s.history ++
        ((Mark.of? c (S.serve c s.world).1).map (i, ·)).toList := by
      rw [hhistory, Mark.marks_append, Mark.marks_cons]
      exact congrArg (_ ++ ·) (List.append_nil _)
    constructor
    · rw [hworld, hmarks, S.shortIds_serve, h.inUse, List.append_assoc]
      cases Mark.of? c (S.serve c s.world).1 with
      | none => simp
      | some mark => cases mark <;> simp [Mark.keptIds, Mark.kept?]
    · intro before j shortId hprefix
      rw [hmarks] at hprefix
      cases hmark : Mark.of? c (S.serve c s.world).1 with
      | none =>
        rw [hmark] at hprefix
        exact h.free before j shortId (by simpa using hprefix)
      | some mark =>
        rw [hmark] at hprefix
        rcases List.prefix_concat_iff.1 hprefix with hlast | hearlier
        · -- the identifier is given just now
          obtain ⟨rfl, heq⟩ := List.append_inj' hlast rfl
          obtain rfl := (Prod.mk.inj (List.cons.inj heq).1).2
          rw [← h.inUse]
          exact S.not_mem_of_given hmark
        · exact h.free before j shortId hearlier

theorem tallied_abreast :
    S.Tallied (S.memory w).shortIds (S.abreast desk events w schedule) := by
  refine Abreast.after_invariant (J := S.Tallied (S.memory w).shortIds) (fun _ i hs => hs.step i)
    ⟨(List.append_nil _).symm, fun before i shortId hprefix => ?_⟩ schedule
  have hnil := List.prefix_nil.1 hprefix
  simp at hnil

/-- The marks of a schedule are honest. -/
theorem honest_abreast : Mark.Honest (S.memory w).shortIds
    (Mark.marks (S.abreast desk events w schedule).history) :=
  ⟨S.orderly_abreast desk events w schedule, (S.tallied_abreast desk events w schedule).free⟩

end Surroundings

/-! ## Payments -/

namespace Store.Memory

variable {m : Memory} {i : Nat} {o : Order}

/-- Where short identifiers are distinct, no order before has the same one. -/
theorem shortId_ne (h : m.shortIds.Nodup) (ho : m.orders[i]? = some o) {j : Nat} (hji : j < i)
    (hj : j < m.orders.length) : m.orders[j].shortId ≠ o.shortId := by
  obtain ⟨hi, rfl⟩ := List.getElem?_eq_some_iff.1 ho
  intro heq
  have hjs : j < m.shortIds.length := by simpa [shortIds] using hj
  have his : i < m.shortIds.length := by simpa [shortIds] using hi
  have hsame : m.shortIds[j] = m.shortIds[i] := by simpa [shortIds] using heq
  have hindex : j = i := h.getElem_inj_iff.1 hsame
  omega

/-- The order of a short identifier is found. -/
theorem order_eq_ok (h : m.shortIds.Nodup) (ho : m.orders[i]? = some o) :
    m.order o.shortId = .ok o := by
  have hfound : m.orders.find? (·.shortId == o.shortId) = some o := by
    obtain ⟨hi, hget⟩ := List.getElem?_eq_some_iff.1 ho
    refine List.find?_eq_some_iff_getElem.2 ⟨beq_self_eq_true _, i, hi, hget, fun j hji => ?_⟩
    simpa using shortId_ne h ho hji (Nat.lt_trans hji hi)
  rw [order, hfound]

/-- It is the one that its buyer pays. -/
theorem findIdx?_own (h : m.shortIds.Nodup) (ho : m.orders[i]? = some o) :
    (m.orders.findIdx? fun x => x.shortId == o.shortId && x.buyer.id == o.buyer.id) = some i := by
  obtain ⟨hi, hget⟩ := List.getElem?_eq_some_iff.1 ho
  refine List.findIdx?_eq_some_iff_getElem.2 ⟨hi, by simp [hget], fun j hji => ?_⟩
  simp [shortId_ne h ho hji (Nat.lt_trans hji hi)]

end Store.Memory

namespace Desk

/-- A press of a payment button is understood in every step. -/
theorem understand_of_pays {event : Chat.Event} {o : Order} (h : event.Pays o) (desk : Desk)
    (c : Customer) : ∃ data message, desk.understand c event = .ok (.press .paid data message) ∧
      data.text? = some o.shortId := by
  obtain ⟨message, raw, data, hevent, hdecode, haction, htext, -⟩ := h
  refine ⟨data, message, ?_, htext⟩
  rw [hevent, understand, understandPress, hdecode]
  simp only [actionOf, haction]
  rfl

end Desk

namespace Surroundings

variable {W : Type} (S : Surroundings W) {w : W}

theorem memory_of_reads {α : Type} {t : Turn α} {P : α → Prop}
    (h : t.Reads Desk.Sources.any.Gives P) : S.memory (S.run t w).2 = S.memory w := by
  have hwrites : Desk.writes (S.calls t w) = [] :=
    ((Turn.reads_iff.1 h).run (S.met_any t w)).1
  rw [S.memory_run, hwrites, List.foldl_nil]

/-- A customer finds an order of one's own. -/
theorem run_ownOrder?_of_reply {c : Customer} {o : Order}
    (ho : (S.memory w).order o.shortId = .ok o) (hbuyer : o.buyer.id = c.id) :
    (S.run (Desk.ownOrder? c o.shortId) w).1 = .ok (some o) ∧
      S.memory (S.run (Desk.ownOrder? c o.shortId) w).2 = S.memory w := by
  obtain ⟨next, drawn, hreply⟩ := S.reply (.order o.shortId) w
  have hask : (S.run (Turn.ask (.store (.order o.shortId))) w).1 =
      .ok (S.serve (.store (.order o.shortId)) w).1 := rfl
  have hmemory : S.memory (S.serve (.store (.order o.shortId)) w).2 = S.memory w :=
    S.memory_serve (.store (.order o.shortId)) w
  rw [Desk.ownOrder?, S.run_bind hask, hreply, Memory.serve, ho]
  simp only [if_pos hbuyer]
  exact ⟨rfl, hmemory⟩

/-- Where short identifiers are distinct, the payment button of an order marks that order and no
other. -/
theorem paid_dispatch (desk : Desk) {event : Chat.Event} {i : Nat} {o : Order}
    (hdistinct : (S.memory w).shortIds.Nodup) (ho : (S.memory w).orders[i]? = some o)
    (hpays : event.Pays o) :
    (S.memory (S.run (desk.dispatch event) w).2).orders =
      (S.memory w).orders.modify i fun o => { o with isPaid := true } := by
  have hload := (S.run_load event.sender w).1
  have hmemory := S.memory_load event.sender w
  have horders := Memory.welcome_orders (S.memory w) event.sender
  have hid := Memory.guest_id (S.memory w) event.sender
  obtain ⟨-, -, -, -, -, -, -, hbuyer⟩ := id hpays
  rw [Desk.dispatch_eq, S.run_bind hload]
  generalize (S.memory w).guest event.sender = c at hid ⊢
  generalize (S.run (Desk.loadCustomer event.sender) w).2 = v at hmemory ⊢
  rw [← hmemory] at horders
  have hown : o.buyer.id = c.id := hbuyer.symm.trans hid.symm
  -- the order is where it was
  rw [← horders] at ho ⊢
  have hdistinct : (S.memory v).shortIds.Nodup := by
    rw [Memory.shortIds, horders]
    exact hdistinct
  obtain ⟨data, message, hunderstand, htext⟩ := Desk.understand_of_pays hpays desk c
  have hrespond : desk.respond c event = desk.paid event.chat c (some o.shortId) := by
    rw [Desk.respond, hunderstand, ← htext]
    exact pure_bind _ _
  obtain ⟨hfound, hsame⟩ := S.run_ownOrder?_of_reply (Memory.order_eq_ok hdistinct ho) hown
  rw [hrespond, Desk.paid, S.run_bind hfound]
  generalize (S.run (Desk.ownOrder? c o.shortId) v).2 = u at hsame ⊢
  have hindex := Memory.findIdx?_own hdistinct ho
  rw [← hsame, hown] at hindex
  have hpaid : (S.run (Turn.store (.markPaid c.id o.shortId)) u).1 = .ok () := by
    obtain ⟨next, drawn, hreply⟩ := S.reply (.markPaid c.id o.shortId) u
    refine S.run_store (hreply.trans ?_)
    simp only [Memory.serve, Memory.markPaid, hindex, Memory.settle]
  have hafter : S.memory (S.run (Turn.store (.markPaid c.id o.shortId)) u).2 =
      (S.memory u).after (.markPaid c.id o.shortId) := by
    rw [S.memory_run, S.calls_store]
    rfl
  rw [S.run_bind hpaid, S.memory_of_reads Desk.sendText_reads, hafter, Memory.after_markPaid, hindex,
    ← hsame]

/-- Of several events that are dispatched at the same time, the orders have distinct short
identifiers exactly if they had before and no short identifier was disputed; and where they are
distinct, the payment button of each order marks that order. -/
theorem shortIds_nodup_iff {ι : Type} [DecidableEq ι] (desk : Desk) (events : ι → Chat.Event) (w : W)
    (schedule : List ι) :
    ((S.memory (S.abreast desk events w schedule).world).shortIds.Nodup ↔
      (S.memory w).shortIds.Nodup ∧
        ¬ Mark.Disputed (Mark.marks (S.abreast desk events w schedule).history)) ∧
    ((S.memory (S.abreast desk events w schedule).world).shortIds.Nodup →
      ∀ i o, (S.memory (S.abreast desk events w schedule).world).orders[i]? = some o →
        ∀ event : Chat.Event, event.Pays o →
          (S.memory (S.run (desk.dispatch event)
            (S.abreast desk events w schedule).world).2).orders =
              (S.memory (S.abreast desk events w schedule).world).orders.modify i
                fun o => { o with isPaid := true }) := by
  constructor
  · rw [(S.tallied_abreast desk events w schedule).inUse]
    exact (S.honest_abreast desk events w schedule).nodup_iff
  · exact fun hdistinct i o ho event hpays => S.paid_dispatch desk hdistinct ho hpays

end Surroundings

/-! ## Two purchases that cross -/

namespace Purchase

/-- What another customer does likewise. -/
def likewise : Chat.Event → Chat.Event
  | .text _ _ text => .text 2 ⟨2, "Anna", none, none⟩ text
  | .press _ _ message data => .press 2 ⟨2, "Anna", none, none⟩ message data

/-- Two customers are about to give their addresses, and every candidate for a short identifier is
drawn twice. -/
def crossing : World :=
  (World.initial ⟨Uuid.ofNat, fun n => shortIdOf (n / 2)⟩ 1.0 ⟨0, 0⟩ 1).after Desk.bare
    ((events ++ events.map likewise).map .event)

/-- Both give their addresses. -/
def addresses (second : Bool) : Chat.Event := if second then likewise address else address

/-- The second customer says that the order with a short identifier is paid. -/
def pays (shortId : String) : Chat.Event := likewise (presses ("s" ++ shortId ++ ":35"))

/-- The first one makes an order, and then the second one does. -/
def apart : Abreast Bool Desk.Call Desk.Call.Reply (Except Failure Unit) World :=
  World.surroundings.abreast Desk.bare addresses crossing
    (List.replicate 12 false ++ List.replicate 12 true)

/-- What is said of two orders by their short identifiers and buyers. -/
theorem two_orders {m : Memory} {first second : String}
    (h : m.orders.map (fun o => (o.shortId, o.buyer.id)) = [(first, 1), (second, 2)]) :
    m.shortIds = [first, second] ∧
      ∃ o, m.orders[1]? = some o ∧ o.shortId = second ∧ o.buyer.id = 2 := by
  obtain ⟨o₁, rest, horders, hfirst, hrest⟩ := List.map_eq_cons_iff.1 h
  obtain ⟨o₂, hsingle, hsecond⟩ := List.map_eq_singleton_iff.1 hrest
  obtain ⟨hshort, hbuyer⟩ := Prod.mk.inj hsecond
  subst hsingle
  refine ⟨?_, o₂, by rw [horders]; rfl, hshort, hbuyer⟩
  rw [Memory.shortIds, horders, ← hshort, ← (Prod.mk.inj hfirst).1]
  rfl

/-- The button that carries the short identifier of an order of the second customer pays it. -/
theorem pays_order {shortId : String} {o : Order}
    (hdecode : ButtonData.decode ("s" ++ shortId ++ ":35") = .ok ⟨35, .text shortId⟩)
    (ho : o.shortId = shortId) (hbuyer : o.buyer.id = 2) : (pays shortId).Pays o := by
  have haction : Action.ofCode? 35 = some .paid := by decide
  exact ⟨none, "s" ++ shortId ++ ":35", ⟨35, .text shortId⟩, rfl, hdecode, haction,
    congrArg some ho.symm, hbuyer.symm⟩

/-- No short identifier is disputed then, and the second customer pays the second order. -/
theorem apart_paid :
    apart.world.memory.shortIds.Nodup ∧ ¬ Mark.Disputed (Mark.marks apart.history) ∧
      ∃ o, apart.world.memory.orders[1]? = some o ∧ (pays "100000").Pays o ∧
        (World.surroundings.run (Desk.bare.dispatch (pays "100000")) apart.world).2.memory.orders =
          apart.world.memory.orders.modify 1 fun o => { o with isPaid := true } := by
  have horders : apart.world.memory.orders.map (fun o => (o.shortId, o.buyer.id)) =
      [("000000", 1), ("100000", 2)] := by decide +kernel
  obtain ⟨hiff, hpaid⟩ :=
    World.surroundings.shortIds_nodup_iff Desk.bare addresses crossing
      (List.replicate 12 false ++ List.replicate 12 true)
  rw [← apart] at hiff hpaid
  -- what was evaluated is all that need be known of the schedule
  generalize apart = s at horders hiff hpaid ⊢
  obtain ⟨hids, o, ho, hshort, hbuyer⟩ := two_orders horders
  have hdistinct : s.world.memory.shortIds.Nodup := by
    rw [hids]
    decide
  have hpays : (pays "100000").Pays o := pays_order (by decide +kernel) hshort hbuyer
  exact ⟨hdistinct, (hiff.1 hdistinct).2, o, ho, hpays, hpaid hdistinct 1 o ho _ hpays⟩

/-- Both are given a short identifier before either of them keeps an order. -/
def crossed : Abreast Bool Desk.Call Desk.Call.Reply (Except Failure Unit) World :=
  World.surroundings.abreast Desk.bare addresses crossing
    (List.replicate 3 false ++ List.replicate 3 true ++
      List.replicate 9 false ++ List.replicate 9 true)

/-- Then two customers have orders under one short identifier, and the second one presses the
payment button of an order that stays unpaid. -/
theorem crossed_unpaid :
    (addresses false).sender.id ≠ (addresses true).sender.id ∧ crossing.memory.shortIds.Nodup ∧
      ¬ crossed.world.memory.shortIds.Nodup ∧
      ∃ o, crossed.world.memory.orders[1]? = some o ∧ (pays "000000").Pays o ∧
        (World.surroundings.run (Desk.bare.dispatch (pays "000000"))
          crossed.world).2.memory.orders[1]?.map (·.isPaid) = some false := by
  have horders : crossed.world.memory.orders.map (fun o => (o.shortId, o.buyer.id)) =
      [("000000", 1), ("000000", 2)] := by decide +kernel
  obtain ⟨hids, o, ho, hshort, hbuyer⟩ := two_orders horders
  refine ⟨by decide, by decide +kernel, ?_, o, ho, pays_order (by decide +kernel) hshort hbuyer,
    by decide +kernel⟩
  rw [hids]
  decide

end Purchase

end OrderDesk
