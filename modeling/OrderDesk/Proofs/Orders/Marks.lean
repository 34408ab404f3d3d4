import Mathlib.Data.List.Nodup
import OrderDesk.Proofs.Conversation.Watching

/-!
# The marks of orders that are being made

An order gets its short identifier in one call, which looks through the orders that are kept, and is
kept in a later one, which looks at nothing.  The turn of an order that is being made is `Mark`ed
twice: when it is given a short identifier, and when it keeps an order under it (`Orderly`,
`dispatch_orderly`).  Where the marks of several dispatches fall between each other and every short
identifier that is given is not in use (`Honest`), the orders are kept under distinct ones exactly if
no two dispatches hold the same one at the same time and both go on to keep an order under it
(`Honest.nodup_iff`).
-/

namespace OrderDesk

/-! ## Marks -/

/-- What matters of an order that is being made. -/
inductive Mark where
  /-- A short identifier is given. -/
  | given (shortId : String)
  /-- An order is kept under it. -/
  | kept (shortId : String)
  deriving DecidableEq, Repr

namespace Mark

/-- The mark that a call leaves, with its reply. -/
def of? : (c : Desk.Call) → c.Reply → Option Mark
  | .store .freeShortId, .ok shortId => some (.given shortId)
  | .store (.saveOrder o), .ok () => some (.kept o.shortId)
  | _, _ => none

/-- The short identifier under which an order is kept. -/
def kept? : Mark → Option String
  | kept shortId => some shortId
  | given _ => none

/-- Writes down all marks. -/
def clerk : Onlooker Desk.Call Desk.Call.Reply (List Mark) where
  note marks c r := marks ++ (of? c r).toList
  Expects _ _ _ := True

/-- The marks of one order: it is given a short identifier once, and then kept under it. -/
inductive Orderly : List Mark → Prop where
  | none : Orderly []
  | given (shortId : String) : Orderly [.given shortId]
  | kept (shortId : String) : Orderly [.given shortId, .kept shortId]

/-- An order that is kept was given its short identifier before, and nothing comes after. -/
theorem Orderly.of_kept {before after : List Mark} {shortId : String}
    (h : Orderly (before ++ .kept shortId :: after)) : before = [.given shortId] ∧ after = [] := by
  generalize hmarks : before ++ .kept shortId :: after = marks at h
  cases h with
  | none => simp at hmarks
  | given s =>
    rcases before with _ | ⟨b, before⟩
    · simp at hmarks
    · simp at hmarks
  | kept s =>
    rcases before with _ | ⟨b, _ | ⟨b', before⟩⟩
    · simp at hmarks
    · simp only [List.cons_append, List.nil_append, List.cons.injEq, Mark.kept.injEq] at hmarks
      obtain ⟨rfl, rfl, rfl⟩ := hmarks
      exact ⟨rfl, rfl⟩
    · simp at hmarks

end Mark

/-! ## The marks of one dispatch -/

namespace Desk

open Mark (Orderly clerk)
open Turn (asks_ask asks_chat asks_ofExcept asks_pure asks_store asks_throw)

/-- A call that leaves no mark. -/
def Call.Unmarked : Call → Prop
  | .store .freeShortId => False
  | .store (.saveOrder _) => False
  | _ => True

theorem Call.Unmarked.of? {c : Call} (h : c.Unmarked) (r : c.Reply) : Mark.of? c r = none := by
  cases c with
  | store c => cases c <;> first | rfl | exact h.elim
  | _ => rfl

theorem Call.Ordinary.unmarked {p : Prop} {id chat : Int64} {c : Call}
    (h : c.Ordinary p id chat) : c.Unmarked := by
  cases c with
  | store c => cases c <;> trivial
  | _ => trivial

theorem Call.Registers.unmarked {id : Int64} {c : Call} (h : c.Registers id) : c.Unmarked := by
  cases c with
  | store c => cases c <;> trivial
  | _ => trivial

variable {α : Type} {desk : Desk} {chat : Int64} {c : Customer} {marks : List Mark} {t : Turn α}

/-- Without a mark the marks stay what they are. -/
theorem unmarked_watched (ht : t.Asks Call.Unmarked) (h : Orderly marks) :
    t.Watched clerk Orderly (fun _ => True) (fun marks' _ => marks' = marks) marks := by
  refine ht.watched (J := (· = marks)) (fun _ hg => hg ▸ h) (fun _ _ => trivial) ?_ rfl
  rintro _ call r hcall rfl -
  show _ ++ (Mark.of? call r).toList = _
  rw [hcall.of? r]
  exact List.append_nil _

/-- Nothing more is marked. -/
theorem orderly_of_unmarked (ht : t.Asks Call.Unmarked) (h : Orderly marks) :
    t.Watched clerk Orderly (fun _ => True) (fun _ _ => True) marks :=
  (unmarked_watched ht h).mono fun _ _ _ => trivial

/-- An order is kept under the short identifier that was given. -/
theorem keepOrder_orderly (order : Order) :
    (keepOrder c order).Watched clerk Orderly (fun _ => True) (fun marks' _ => Orderly marks')
      [.given order.shortId] := by
  have hgiven : Orderly [.given order.shortId] := .given order.shortId
  have hkept : Orderly [.given order.shortId, .kept order.shortId] := .kept order.shortId
  have hclear : ∀ u, (Turn.update c u).Asks Call.Unmarked := fun u =>
    asks_store (c := .updateCustomer c.id u) trivial
  have hrestore : ∀ u, (Turn.ask (.store (.updateCustomer c.id u))).Asks Call.Unmarked := fun u =>
    asks_ask trivial
  refine (unmarked_watched (hclear _) hgiven).bind fun marks _ hmarks => ?_
  subst hmarks
  have hsave : (Turn.ask (.store (.saveOrder order))).Watched clerk Orderly (fun _ => True)
      (fun marks' _ => Orderly marks') [.given order.shortId] := by
    refine Turn.watched_ask hgiven fun r _ => ?_
    cases r with
    | ok _ => exact ⟨hkept, hkept⟩
    | error _ => exact ⟨hgiven, hgiven⟩
  refine hsave.bind fun marks' r hmarks' => ?_
  split
  · exact Turn.watched_pure hmarks' hmarks'
  · refine (unmarked_watched (hrestore _) hmarks').bind fun marks'' _ hmarks'' => ?_
    exact Turn.watched_throw (hmarks'' ▸ hmarks') trivial

/-- Whatever the replies, an address gets one short identifier, and at most one order is then kept
under it. -/
theorem handleDeliveryAddress_orderly {text : String} :
    (desk.handleDeliveryAddress chat c text).Watched clerk Orderly (fun _ => True)
      (fun _ _ => True) [] := by
  have hsend : ∀ {text keyboard}, (sendText chat text keyboard).Asks Call.Unmarked :=
    Turn.Asks.bind (asks_chat trivial) fun _ => asks_pure ()
  unfold handleDeliveryAddress
  split
  · exact orderly_of_unmarked hsend .none
  · have hgiven : (Turn.store .freeShortId).Watched clerk Orderly (fun _ => True)
        (fun marks shortId => marks = [.given shortId]) [] := by
      refine Turn.watched_store .none fun r _ => ?_
      cases r with
      | ok shortId =>
        refine ⟨.given shortId, fun s hs => ?_, fun _ _ => trivial⟩
        obtain rfl : shortId = s := Except.ok.inj hs
        rfl
      | error e => exact ⟨.none, fun _ hs => (by cases hs), fun _ _ => trivial⟩
    refine hgiven.bind fun marks shortId hmarks => ?_
    subst hmarks
    have hg : Orderly [.given shortId] := .given shortId
    refine (unmarked_watched (asks_ask (c := .newId) trivial) hg).bind fun marks id hmarks => ?_
    subst hmarks
    refine (unmarked_watched (asks_ask (c := .now) trivial) hg).bind fun marks now hmarks => ?_
    subst hmarks
    refine (keepOrder_orderly _).bind fun marks _ hmarks => orderly_of_unmarked ?_ hmarks
    exact hsend.bind fun _ => (asks_ofExcept _ _).bind fun _ => hsend

theorem fulfil_orderly (q : Request) :
    (desk.fulfil chat c q).Watched clerk Orderly (fun _ => True) (fun _ _ => True) [] := by
  by_cases hq : q.isPrivate
  · have hordinary : (desk.fulfil chat c q).Asks (Call.Ordinary False c.id chat) :=
      fulfil_asks False.elim hq False.elim
    exact orderly_of_unmarked (hordinary.mono fun _ => Call.Ordinary.unmarked) .none
  · cases q with
    | command k => exact absurd rfl hq
    | answer i text =>
      cases i with
      | deliveryAddress =>
        rw [fulfil, take]
        exact handleDeliveryAddress_orderly
      | _ => exact absurd rfl hq
    | press a data message =>
      cases a with
      | paid =>
        refine orderly_of_unmarked ?_ .none
        rw [fulfil, act]
        cases data.text? with
        | none => exact asks_throw _
        | some shortId =>
          obtain ⟨rest, heq, hrest⟩ := paid_eq (p := False) desk chat c shortId
          rw [heq]
          refine (ownOrder?_asks.mono fun call hcall => ?_).bind fun order? =>
            (hrest order?).mono fun _ => Call.Ordinary.unmarked
          subst hcall
          trivial
      | _ => exact absurd rfl hq

/-- A dispatch makes at most one order, under the one short identifier that it is given. -/
theorem dispatch_orderly (desk : Desk) (event : Chat.Event) :
    (desk.dispatch event).Watched clerk Orderly (fun _ => True) (fun _ _ => True) [] := by
  have hload : (loadCustomer event.sender).Asks Call.Unmarked :=
    (loadCustomer_asks event.sender).mono fun _ => Call.Registers.unmarked
  rw [dispatch_eq]
  refine (unmarked_watched hload .none).bind fun marks c hmarks => ?_
  subst hmarks
  refine (unmarked_watched (asks_ofExcept _ _) .none).bind fun marks q hmarks => ?_
  subst hmarks
  exact fulfil_orderly q

end Desk

/-! ## The marks of several dispatches -/

namespace Mark

variable {ι : Type} {marks before after : List (ι × Mark)} {i j : ι} {shortId : String}
  {initial : List String}

/-- The marks of one of them. -/
def ofOne [DecidableEq ι] (i : ι) (marks : List (ι × Mark)) : List Mark :=
  marks.filterMap fun e => if e.1 = i then some e.2 else none

/-- The short identifiers under which orders are kept. -/
def keptIds (marks : List (ι × Mark)) : List String := marks.filterMap (·.2.kept?)

/-- At some moment two of them hold the same short identifier, and later both keep an order under
it. -/
def Disputed (marks : List (ι × Mark)) : Prop :=
  ∃ before after i j shortId, marks = before ++ after ∧ i ≠ j ∧
    (i, given shortId) ∈ before ∧ (j, given shortId) ∈ before ∧
    (i, kept shortId) ∈ after ∧ (j, kept shortId) ∈ after

/-- Each of them is in order, and a short identifier that is given is not in use, where `initial` are
those in use before. -/
structure Honest [DecidableEq ι] (initial : List String) (marks : List (ι × Mark)) : Prop where
  orderly : ∀ i, Orderly (ofOne i marks)
  free : ∀ before i shortId, before ++ [(i, given shortId)] <+: marks →
    shortId ∉ initial ++ keptIds before

theorem mem_keptIds : shortId ∈ keptIds marks ↔ ∃ i, (i, kept shortId) ∈ marks := by
  unfold keptIds
  rw [List.mem_filterMap]
  constructor
  · rintro ⟨⟨i, mark⟩, hmem, hkept⟩
    cases mark with
    | given s => cases hkept
    | kept s =>
      obtain rfl : s = shortId := Option.some.inj hkept
      exact ⟨i, hmem⟩
  · rintro ⟨i, hmem⟩
    exact ⟨_, hmem, rfl⟩

theorem mem_ofOne [DecidableEq ι] {mark : Mark} : mark ∈ ofOne i marks ↔ (i, mark) ∈ marks := by
  unfold ofOne
  rw [List.mem_filterMap]
  constructor
  · rintro ⟨⟨k, mark'⟩, hmem, hone⟩
    split at hone
    · rename_i hk
      obtain rfl := Option.some.inj hone
      obtain rfl : k = i := hk
      exact hmem
    · cases hone
  · exact fun hmem => ⟨_, hmem, if_pos rfl⟩

/-- A value that a list gives twice is given at two places. -/
theorem exists_twice {α β : Type} {f : α → Option β} {xs : List α} (h : ¬ (xs.filterMap f).Nodup) :
    ∃ before x after y b, xs = before ++ x :: after ∧ y ∈ after ∧ f x = some b ∧ f y = some b := by
  induction xs with
  | nil => exact absurd List.nodup_nil h
  | cons a xs ih =>
    have later : ¬ (xs.filterMap f).Nodup →
        ∃ before x after y b, a :: xs = before ++ x :: after ∧ y ∈ after ∧ f x = some b ∧
          f y = some b := by
      intro hxs
      obtain ⟨before, x, after, y, b, rfl, hrest⟩ := ih hxs
      exact ⟨a :: before, x, after, y, b, rfl, hrest⟩
    cases ha : f a with
    | none =>
      rw [List.filterMap_cons_none ha] at h
      exact later h
    | some b =>
      rw [List.filterMap_cons_some ha, List.nodup_cons] at h
      by_cases hb : b ∈ xs.filterMap f
      · obtain ⟨y, hy, hfy⟩ := List.mem_filterMap.1 hb
        exact ⟨[], a, xs, y, b, rfl, hy, ha, hfy⟩
      · exact later fun hxs => h ⟨hb, hxs⟩

theorem kept?_eq_some_iff {mark : Mark} : mark.kept? = some shortId ↔ mark = kept shortId := by
  cases mark <;> simp [kept?]

/-- Under one short identifier only one of them keeps an order, if all are distinct. -/
theorem eq_of_kept (h : (keptIds marks).Nodup) (hi : (i, kept shortId) ∈ marks)
    (hj : (j, kept shortId) ∈ marks) : i = j := by
  obtain ⟨before, after, rfl⟩ := List.append_of_mem hi
  have hsplit : keptIds (before ++ (i, kept shortId) :: after) =
      keptIds before ++ shortId :: keptIds after := by
    rw [keptIds, List.filterMap_append]
    rfl
  rw [hsplit, List.nodup_middle, List.nodup_cons] at h
  rcases List.mem_append.1 hj with hj | hj
  · exact absurd (List.mem_append_left _ (mem_keptIds.2 ⟨j, hj⟩)) h.1
  · rcases List.mem_cons.1 hj with heq | hj
    · exact (Prod.mk.inj heq).1.symm
    · exact absurd (List.mem_append_right _ (mem_keptIds.2 ⟨j, hj⟩)) h.1

variable [DecidableEq ι]

/-- Who keeps an order was given its short identifier before, and keeps no other one. -/
theorem Honest.of_kept (h : Honest initial (before ++ (i, kept shortId) :: after)) :
    (i, given shortId) ∈ before ∧ ∀ s, (i, kept s) ∉ after := by
  have hone := h.orderly i
  have hsplit : ofOne i (before ++ (i, kept shortId) :: after) =
      ofOne i before ++ kept shortId :: ofOne i after := by
    simp [ofOne, List.filterMap_append]
  rw [hsplit] at hone
  obtain ⟨hbefore, hafter⟩ := hone.of_kept
  refine ⟨mem_ofOne.1 ?_, fun s hs => ?_⟩
  · rw [hbefore]
    exact List.mem_singleton_self _
  · have hmem := mem_ofOne.2 hs
    rw [hafter] at hmem
    exact List.not_mem_nil hmem

/-- A short identifier that is given is not in use. -/
theorem Honest.not_mem (h : Honest initial (before ++ (i, given shortId) :: after)) :
    shortId ∉ initial ++ keptIds before :=
  h.free before i shortId ⟨after, by simp⟩

/-- Two who keep orders under the same short identifier held it at the same time. -/
theorem Honest.disputed (h : Honest initial (before ++ (i, kept shortId) :: after))
    (hj : (j, kept shortId) ∈ after) :
    Disputed (before ++ (i, kept shortId) :: after) := by
  obtain ⟨hgiven, honce⟩ := h.of_kept
  have hne : i ≠ j := by
    rintro rfl
    exact honce shortId hj
  refine ⟨before, (i, kept shortId) :: after, i, j, shortId, rfl, hne, hgiven, ?_,
    List.mem_cons_self, List.mem_cons_of_mem _ hj⟩
  -- if the second was given it after the first had kept its order, it would have been in use
  obtain ⟨between, later, rfl⟩ := List.append_of_mem hj
  have hsecond : before ++ (i, kept shortId) :: (between ++ (j, kept shortId) :: later) =
      (before ++ (i, kept shortId) :: between) ++ (j, kept shortId) :: later := by simp
  rw [hsecond] at h
  rcases List.mem_append.1 h.of_kept.1 with hbefore | hbetween
  · exact hbefore
  · rcases List.mem_cons.1 hbetween with heq | hbetween
    · cases heq
    · obtain ⟨first, last, rfl⟩ := List.append_of_mem hbetween
      have hlate : before ++ (i, kept shortId) :: (first ++ (j, given shortId) :: last) ++
          (j, kept shortId) :: later = (before ++ (i, kept shortId) :: first) ++
            (j, given shortId) :: (last ++ (j, kept shortId) :: later) := by simp
      rw [hlate] at h
      refine absurd (List.mem_append_right _ (mem_keptIds.2 ⟨i, ?_⟩)) h.not_mem
      exact List.mem_append_right _ List.mem_cons_self

/-- Orders are kept under distinct short identifiers exactly if none is disputed. -/
theorem Honest.nodup_iff (h : Honest initial marks) :
    (initial ++ keptIds marks).Nodup ↔ initial.Nodup ∧ ¬ Disputed marks := by
  constructor
  · intro hnodup
    obtain ⟨hinitial, hkept, -⟩ := List.nodup_append.1 hnodup
    refine ⟨hinitial, ?_⟩
    rintro ⟨before, after, i, j, shortId, rfl, hne, -, -, hi, hj⟩
    exact hne (eq_of_kept hkept (List.mem_append_right _ hi) (List.mem_append_right _ hj))
  · rintro ⟨hinitial, hundisputed⟩
    refine List.nodup_append.2 ⟨hinitial, ?_, ?_⟩
    · by_contra hnot
      obtain ⟨before, ⟨i, x⟩, after, ⟨j, y⟩, shortId, rfl, hmem, hx, hy⟩ := exists_twice hnot
      obtain rfl := kept?_eq_some_iff.1 hx
      obtain rfl := kept?_eq_some_iff.1 hy
      exact hundisputed (h.disputed hmem)
    · rintro s hs _ hkept rfl
      obtain ⟨i, hi⟩ := mem_keptIds.1 hkept
      obtain ⟨before, after, rfl⟩ := List.append_of_mem hi
      obtain ⟨first, last, rfl⟩ := List.append_of_mem h.of_kept.1
      have hgiven : first ++ (i, given s) :: last ++ (i, kept s) :: after =
          first ++ (i, given s) :: (last ++ (i, kept s) :: after) := by simp
      rw [hgiven] at h
      exact h.not_mem (List.mem_append_left _ hs)

end Mark

end OrderDesk
