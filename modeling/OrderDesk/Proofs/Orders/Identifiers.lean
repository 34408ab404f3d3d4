import Mathlib.Data.List.Perm.Subperm
import OrderDesk.Proofs.Orders.Lines

/-!
# No line is in two places

A line has the identifier of the draft that it was, and a draft has the identifier that was drawn
when its weight class was chosen.  As long as no identifier is drawn twice for a draft, no
identifier is held twice: `Customer.heldIds` are the identifiers of a customer's lines and of the
draft, and a dispatch drops some of those that are held or adds the one that it draws
(`Deed.heldIds`).  Hence a line is never in two carts, in two orders, or in a cart and an order
(`World.lines_conserved`).
-/

namespace OrderDesk

open Desk (Deed Move Request Sources)
open Store (Memory)

/-! ## Identifiers that are held -/

/-- The identifiers of the lines of a cart. -/
def Cart.ids (cart : Cart) : List Uuid := cart.lines.map (·.id)

/-- The identifiers that a customer holds, in the cart and in the draft. -/
def Customer.heldIds (c : Customer) : List Uuid := c.cart.ids ++ c.draft.toList.map (·.id)

/-- All identifiers that are held. -/
def Store.Memory.heldIds (m : Memory) : List Uuid := m.collect Customer.heldIds (·.cart.ids)

/-- The identifiers of lines are among those that are held. -/
theorem Store.Memory.ids_lines_subperm (m : Memory) : (m.lines.map (·.id)).Subperm m.heldIds := by
  have hcustomers : ∀ cs : List Customer,
      (cs.flatMap fun c => c.cart.ids).Sublist (cs.flatMap Customer.heldIds) := by
    intro cs
    induction cs with
    | nil => exact .slnil
    | cons c cs ih => exact (List.sublist_append_left _ _).append ih
  have hlines : m.lines.map (·.id) =
      (m.customers.flatMap fun c => c.cart.ids) ++ m.orders.flatMap (·.cart.ids) := by
    simp only [lines, collect, List.map_append, List.map_flatMap, Cart.ids]
  exact hlines ▸ ((hcustomers m.customers).append (.refl _)).subperm

theorem Customer.heldIds_of_draft {c : Customer} {d : Draft} (h : c.draft = some d) :
    c.heldIds = c.cart.ids ++ [d.id] := by
  rw [heldIds, h]
  rfl

theorem Cart.ids_add (cart : Cart) (p : Position) : (cart.add p).ids = cart.ids ++ [p.id] :=
  List.map_append

theorem Desk.ids_withoutLine_subperm (cart : Cart) (index : Nat) :
    (withoutLine cart index).ids.Subperm cart.ids := by
  rcases withoutLine_perm cart index with ⟨p, hp⟩ | hsame
  · exact ((List.sublist_cons_self p _).map _).subperm.trans (hp.symm.map _).subperm
  · rw [hsame]

/-- A request that starts a draft. -/
def Desk.Request.starts : Request → Bool
  | .press (.category _) _ _ => true
  | _ => false

/-- The identifiers that a request may bring: at most one, and only for a draft that it starts. -/
def Desk.Request.Brings (q : Request) (σ : Sources) (ids : List Uuid) : Prop :=
  ids = [] ∨ ∃ id, q.starts ∧ σ.id id ∧ ids = [id]

section Held

variable {desk : Desk} {σ : Sources} {c : Customer} {m : Memory} {q : Request}

/-- A move drops identifiers or brings one. -/
theorem Desk.Move.heldIds {u : Customer.Update} (h : Move desk σ c q u) :
    ∃ ids, q.Brings σ ids ∧ (c.apply u).heldIds.Subperm (ids ++ c.heldIds) := by
  -- three moves drop the draft
  have undrafted {cart : Cart} (hcart : cart.ids.Subperm c.cart.ids) :
      (cart.ids ++ []).Subperm c.heldIds := by
    rw [List.append_nil]
    exact hcart.trans (List.sublist_append_left _ _).subperm
  cases h with
  | beginCart hq hcart => exact ⟨[], .inl rfl, undrafted (.refl _)⟩
  | beginLine hq hcart hsize => exact ⟨[], .inl rfl, undrafted (.refl _)⟩
  | cartFull hstep hlink hsize => exact ⟨[], .inl rfl, undrafted (.refl _)⟩
  | @category _ _ _ id hstep hid =>
    refine ⟨[id], .inr ⟨id, rfl, hid, rfl⟩, ?_⟩
    have hcart : c.cart.ids.Subperm c.heldIds := (List.sublist_append_left _ _).subperm
    exact (List.perm_append_singleton id c.cart.ids).subperm.trans ((List.subperm_cons id).2 hcart)
  | size hstep hsize hdraft =>
    refine ⟨[], .inl rfl, ?_⟩
    rw [List.nil_append, c.heldIds_of_draft hdraft]
    exact .refl _
  | button hstep hdraft =>
    refine ⟨[], .inl rfl, ?_⟩
    rw [List.nil_append, c.heldIds_of_draft hdraft]
    exact .refl _
  | price hstep hyuan hdraft hrub =>
    refine ⟨[], .inl rfl, ?_⟩
    rw [List.nil_append, c.heldIds_of_draft hdraft]
    exact .refl _
  | @link _ _ draft p hstep hlink hsize hdraft hp =>
    refine ⟨[], .inl rfl, ?_⟩
    have hid : draft.id = p.id := congrArg Draft.id (Draft.complete?_eq_some_iff.1 hp)
    rw [List.nil_append, c.heldIds_of_draft hdraft, hid, ← Cart.ids_add]
    exact (List.Perm.of_eq (List.append_nil (c.cart.add p).ids)).subperm
  | removePosition hstep =>
    refine ⟨[], .inl rfl, ?_⟩
    exact (List.subperm_append_right _).2 (Desk.ids_withoutLine_subperm _ _)
  | _ => exact ⟨[], .inl rfl, .refl _⟩

/-- A customer that is kept drops identifiers or brings some. -/
theorem Store.Memory.Keyed.heldIds_putCustomer {ids : List Uuid} {c' : Customer} (hm : m.Keyed)
    (hc : m.customer? c'.id = some c) (h : c'.heldIds.Subperm (ids ++ c.heldIds)) :
    (m.putCustomer c').heldIds.Subperm (ids ++ m.heldIds) := by
  obtain ⟨rest, hbefore, hafter⟩ :=
    hm.collect_exchange (f := Customer.heldIds) (g := (·.cart.ids)) hc
  have hexchange : (c'.heldIds ++ rest).Subperm (ids ++ c.heldIds ++ rest) :=
    (List.subperm_append_right rest).2 h
  have hothers : (ids ++ c.heldIds ++ rest).Perm (ids ++ m.heldIds) := by
    rw [List.append_assoc]
    exact hbefore.symm.append_left ids
  exact hafter.subperm.trans (hexchange.trans hothers.subperm)

/-- A deed drops identifiers or brings one. -/
theorem Desk.Deed.heldIds {ds : List Store.Call} (hm : m.Keyed) (hc : m.customer? c.id = some c)
    (h : Deed desk σ c q ds) :
    ∃ ids, q.Brings σ ids ∧ (ds.foldl Memory.after m).heldIds.Subperm (ids ++ m.heldIds) := by
  cases h with
  | nothing => exact ⟨[], .inl rfl, .refl _⟩
  | move hmove =>
    obtain ⟨ids, hids, hheld⟩ := hmove.heldIds
    rw [Memory.foldl_updateCustomer hc]
    exact ⟨ids, hids, hm.heldIds_putCustomer hc hheld⟩
  | order hstep haddress =>
    rw [Memory.foldl_order hc]
    refine ⟨[], .inl rfl, (Memory.collect_saveOrder _ _).subperm.trans ?_⟩
    -- the order holds what the cart held, and the draft is gone
    obtain ⟨rest, hbefore, hafter⟩ :=
      hm.collect_exchange (f := Customer.heldIds) (g := (·.cart.ids)) (x := c.apply .clearing) hc
    have hcart : c.cart.ids.Subperm c.heldIds := (List.sublist_append_left _ _).subperm
    have horder : (c.cart.ids ++ rest).Subperm m.heldIds :=
      ((List.subperm_append_right rest).2 hcart).trans hbefore.symm.subperm
    exact (hafter.append_left _).subperm.trans horder
  | pay htext =>
    rw [List.foldl_cons, List.foldl_nil]
    exact ⟨[], .inl rfl, (List.Perm.of_eq (Memory.collect_markPaid (fun _ => rfl) _ _)).subperm⟩

end Held

/-! ## Identifiers that are drawn -/

namespace World

/-- The identifiers that are drawn between two moments of a world. -/
def drawnBetween (w w' : World) : List Uuid :=
  (List.range' w.drawnIds (w'.drawnIds - w.drawnIds)).map w.draws.id

theorem mem_drawnBetween {w w' : World} {id : Uuid} :
    id ∈ w.drawnBetween w' ↔ ∃ n, w.drawnIds ≤ n ∧ n < w'.drawnIds ∧ w.draws.id n = id := by
  simp only [drawnBetween, List.mem_map, List.mem_range'_1]
  refine exists_congr fun n => ?_
  constructor
  · rintro ⟨⟨hfirst, hlast⟩, hid⟩
    exact ⟨hfirst, by omega, hid⟩
  · rintro ⟨hfirst, hlast, hid⟩
    exact ⟨⟨hfirst, by omega⟩, hid⟩

/-- A call draws one identifier or none. -/
theorem serve_drawn (c : Desk.Call) (w : World) :
    (serve c w).2.draws = w.draws ∧ w.drawnIds ≤ (serve c w).2.drawnIds := by
  cases c with
  | store c => exact ⟨rfl, Nat.le_refl _⟩
  | chat c => cases c <;> exact ⟨rfl, Nat.le_refl _⟩
  | newId => exact ⟨rfl, Nat.le_succ _⟩
  | _ => exact ⟨rfl, Nat.le_refl _⟩

theorem run_drawn {α : Type} (p : Desk.Steps α) (w : World) :
    (p.run serve w).2.draws = w.draws ∧ w.drawnIds ≤ (p.run serve w).2.drawnIds :=
  Program.run_invariant (I := fun v : World => v.draws = w.draws ∧ w.drawnIds ≤ v.drawnIds)
    (fun c v hv => ⟨(serve_drawn c v).1.trans hv.1, Nat.le_trans hv.2 (serve_drawn c v).2⟩) p
    ⟨rfl, Nat.le_refl _⟩

/-- The identifiers that a turn is given are drawn while it lasts. -/
theorem met_drawn {α : Type} (p : Desk.Steps α) (w : World) :
    p.Met serve
      (Sources.Gives ⟨(· ∈ w.drawnBetween (p.run serve w).2), fun _ => True, fun _ => True⟩) w := by
  -- seen from an earlier call the interval is longer, so what later calls draw is in it too
  induction p generalizing w with
  | pure a => exact Program.met_pure
  | ask c next ih =>
    obtain ⟨hdraws, hdrawn⟩ := serve_drawn c w
    refine Program.met_ask.2 ⟨?_, (ih _ (serve c w).2).mono fun d r hr => ?_⟩
    · cases c with
      | newId =>
        have hlater := (run_drawn (next (serve .newId w).1) (serve .newId w).2).2
        exact mem_drawnBetween.2 ⟨w.drawnIds, Nat.le_refl _, Nat.lt_of_succ_le hlater, rfl⟩
      | _ => trivial
    · cases d with
      | newId =>
        obtain ⟨n, hfirst, hlast, hid⟩ := mem_drawnBetween.1 hr
        exact mem_drawnBetween.2 ⟨n, Nat.le_trans hdrawn hfirst, hlast, hdraws ▸ hid⟩
      | _ => trivial

/-- The identifiers that an occurrence draws for drafts. -/
def started (desk : Desk) (w : World) : Occurrence → List Uuid
  | .event e =>
    match desk.understand (w.memory.guest e.sender) e with
    | .ok q => if q.starts then w.drawnBetween (w.dispatch desk e).2 else []
    | .error _ => []
  | _ => []

/-- The identifiers that a history draws for drafts. -/
def startedIds (desk : Desk) : World → List Occurrence → List Uuid
  | _, [] => []
  | w, occurrence :: later =>
    w.started desk occurrence ++ (w.happen desk occurrence).startedIds desk later

end World

/-! ## No identifier is held twice -/

/-- Each customer is kept once, and each identifier that is held is one of the given ones and held
once. -/
structure Store.Memory.Distinct (ids : List Uuid) (m : Memory) : Prop where
  /-- Customers are kept once. -/
  keyed : m.Keyed
  /-- Identifiers are held once. -/
  nodup : m.heldIds.Nodup
  /-- They are known. -/
  subset : m.heldIds ⊆ ids

namespace World

variable {desk : Desk} {w : World} {ids : List Uuid}

/-- What a request brings in a dispatch was started in it. -/
theorem brings_subset {e : Chat.Event} {q : Request} {news : List Uuid}
    (hask : desk.understand (w.memory.guest e.sender) e = .ok q)
    (hnews : q.Brings
      ⟨(· ∈ w.drawnBetween (w.dispatch desk e).2), fun _ => True, fun _ => True⟩ news) :
    news.Nodup ∧ news ⊆ w.started desk (.event e) := by
  rcases hnews with rfl | ⟨id, hstarts, hid, rfl⟩
  · exact ⟨List.nodup_nil, List.nil_subset _⟩
  · refine ⟨List.pairwise_singleton _ id, List.cons_subset.2 ⟨?_, List.nil_subset _⟩⟩
    simpa only [started, hask, hstarts, ↓reduceIte] using hid

theorem distinct_dispatch (e : Chat.Event) (h : w.memory.Distinct ids)
    (hids : (ids ++ w.started desk (.event e)).Nodup) :
    (w.happen desk (.event e)).memory.Distinct (ids ++ w.started desk (.event e)) := by
  obtain ⟨ds, hmemory, hds⟩ :=
    World.surroundings.memory_dispatch (met_drawn (desk.dispatch e).run w)
  have hmemory : (w.happen desk (.event e)).memory =
      ds.foldl Memory.after (w.memory.welcome e.sender) := hmemory
  have hwelcome : (w.memory.welcome e.sender).heldIds.Perm w.memory.heldIds :=
    h.keyed.collect_welcome (fun _ _ => rfl) e.sender
  obtain ⟨news, hnodup, hnews, hheld⟩ : ∃ news : List Uuid, news.Nodup ∧
      news ⊆ w.started desk (.event e) ∧
      (w.happen desk (.event e)).memory.heldIds.Subperm (news ++ w.memory.heldIds) := by
    rw [hmemory]
    rcases hds with rfl | ⟨q, hask, hds⟩
    · exact ⟨[], List.nodup_nil, List.nil_subset _, hwelcome.subperm⟩
    · obtain ⟨news, hnews, hheld⟩ :=
        hds.heldIds (h.keyed.welcome e.sender) (Memory.customer?_welcome _ _)
      obtain ⟨hnodup, hsubset⟩ := brings_subset hask hnews
      exact ⟨news, hnodup, hsubset, hheld.trans (hwelcome.append_left news).subperm⟩
  -- what is new was never drawn before, and all that is held was
  have hfresh : (news ++ w.memory.heldIds).Nodup := by
    refine List.nodup_append.2 ⟨hnodup, h.nodup, fun a ha b hb hab => ?_⟩
    exact (List.nodup_append.1 hids).2.2 b (h.subset hb) a (hnews ha) hab.symm
  refine ⟨World.surroundings.keyed_run (desk.dispatch e) h.keyed, ?_, fun id hid => ?_⟩
  · obtain ⟨kept, hperm, hsublist⟩ := hheld
    exact hperm.nodup_iff.1 (hsublist.nodup hfresh)
  · rcases List.mem_append.1 (hheld.subset hid) with hid | hid
    · exact List.mem_append_right _ (hnews hid)
    · exact List.mem_append_left _ (h.subset hid)

theorem distinct_happen (occurrence : Occurrence) (h : w.memory.Distinct ids)
    (hids : (ids ++ w.started desk occurrence).Nodup) :
    (w.happen desk occurrence).memory.Distinct (ids ++ w.started desk occurrence) := by
  cases occurrence with
  | event e => exact distinct_dispatch e h hids
  | upkeep u =>
    refine happen_upkeep (I := Memory.Distinct (ids ++ []))
      (fun m items hm => ⟨hm.keyed, hm.nodup, hm.subset⟩)
      (fun m hm => ?_) ((List.append_nil ids).symm ▸ h) u
    have hheld : m.resetOffsets.heldIds = m.heldIds := Memory.collect_resetOffsets fun _ => rfl
    exact ⟨hm.keyed.resetOffsets, hheld ▸ hm.nodup, hheld ▸ hm.subset⟩
  | change rate clock nextMessage => exact (List.append_nil ids).symm ▸ h

theorem distinct_after (history : List Occurrence) (h : w.memory.Distinct ids)
    (hids : (ids ++ w.startedIds desk history).Nodup) :
    (w.after desk history).memory.Distinct (ids ++ w.startedIds desk history) := by
  induction history generalizing w ids with
  | nil => exact (List.append_nil ids).symm ▸ h
  | cons occurrence later ih =>
    rw [startedIds, ← List.append_assoc] at hids ⊢
    exact ih (distinct_happen occurrence h (List.nodup_append.1 hids).1) hids

end World

/-- As long as no identifier is drawn twice for a draft, each dispatch of a history does one of the
things of `Desk.Passage` to the lines and leaves the carts of other customers alone, and at the end
no line is in two places. -/
theorem World.lines_conserved (desk : Desk) (draws : Draws) (rate : Float) (clock : Instant)
    (firstMessage : Int32) (history : List Occurrence)
    (hdrawn : ((World.initial draws rate clock firstMessage).startedIds desk history).Nodup) :
    (∀ before event later, history = before ++ .event event :: later →
      let w := (World.initial draws rate clock firstMessage).after desk before
      desk.Passage event (w.memory.guest event.sender) w.memory (w.dispatch desk event).2.memory ∧
        ∀ id, event.sender.id ≠ id →
          (w.dispatch desk event).2.memory.cart? id = w.memory.cart? id) ∧
    (((World.initial draws rate clock firstMessage).after desk history).memory.lines.map
      (·.id)).Nodup := by
  constructor
  · rintro before event later - w
    have hkeyed := keyed_after desk draws rate clock firstMessage before
    exact ⟨World.surroundings.lines_dispatch desk event hkeyed,
      fun id hid => World.surroundings.cart?_dispatch_of_ne desk event w hid⟩
  · have start : (World.initial draws rate clock firstMessage).memory.Distinct [] :=
      ⟨Memory.keyed_empty, List.nodup_nil, List.nil_subset _⟩
    have hheld := (distinct_after history start hdrawn).nodup
    obtain ⟨ids, hperm, hsublist⟩ := Memory.ids_lines_subperm
      ((World.initial draws rate clock firstMessage).after desk history).memory
    exact hperm.nodup_iff.1 (hsublist.nodup hheld)

/-- The purchase draws two identifiers for drafts, and the line that is left is in one place. -/
theorem Purchase.line_once :
    (opening.startedIds Desk.bare whole).length = 2 ∧ (opening.startedIds Desk.bare whole).Nodup ∧
      (opening.after Desk.bare whole).memory.lines.length = 1 ∧
      ((opening.after Desk.bare whole).memory.lines.map (·.id)).Nodup := by
  have hdrawn : (opening.startedIds Desk.bare whole).Nodup := by decide +kernel
  exact ⟨by decide +kernel, hdrawn, by decide +kernel,
    (World.lines_conserved Desk.bare ⟨Uuid.ofNat, shortIdOf⟩ 1.0 ⟨0, 0⟩ 1 whole hdrawn).2⟩

end OrderDesk
