import OrderDesk.Proofs.World.Presses

/-!
# Taking lines out by their numbers

The number of a line travels far.  Lines are shown counted from 1 (`Cart.numbered`), the buttons that
take them out are built counted from 0, the code on a button counts from the beginning of its band,
and in the end the line is looked for by its identifier and the last line is put into its place.

The buttons below a cart are for its lines one by one (`RemovalRows`), and so they are again after
one of them has been pressed; what has happened to the cart is `Cart.TakenOut`.  From the shown
number to the kept cart it is `Surroundings.removal_by_number`.
-/

namespace OrderDesk

open Chat (Button Rows)
open Desk (Call)
open Phrase (Book)
open Store (Memory)

/-! ## Numbers of lines -/

namespace Cart

variable {cart : Cart} {n : Nat} {p : Position}

/-- The lines with the numbers that they are shown with. -/
def numbered (cart : Cart) : List (Nat × Position) := cart.lines.zipIdx.map fun (p, i) => (i + 1, p)

theorem mem_numbered : (n, p) ∈ cart.numbered ↔ 0 < n ∧ cart.lines[n - 1]? = some p := by
  simp only [numbered, List.mem_map, Prod.mk.injEq, Prod.exists]
  constructor
  · rintro ⟨q, i, hi, rfl, rfl⟩
    exact ⟨Nat.succ_pos i, List.mk_mem_zipIdx_iff_getElem?.1 hi⟩
  · rintro ⟨hn, hp⟩
    exact ⟨p, n - 1, List.mk_mem_zipIdx_iff_getElem?.2 hp, by omega, rfl⟩

/-- The line `p` with the number `n` has been taken out of a cart: the last line has its number now,
and all others have theirs. -/
structure TakenOut (cart : Cart) (n : Nat) (p : Position) (cart' : Cart) : Prop where
  perm : cart.lines.Perm (p :: cart'.lines)
  kept : ∀ k q, (k, q) ∈ cart.numbered → k ≠ n → k ≠ cart.size → (k, q) ∈ cart'.numbered
  moved : n ≠ cart.size → ∀ q, (cart.size, q) ∈ cart.numbered → (n, q) ∈ cart'.numbered

end Cart

namespace Desk

variable {cart : Cart} {n : Nat} {p : Position} {texts : Book}

/-- Taking out by number takes the line with that number out. -/
theorem withoutLine_takenOut (hids : (cart.lines.map (·.id)).Nodup) (hp : (n, p) ∈ cart.numbered) :
    cart.TakenOut n p (withoutLine cart (n - 1)) := by
  obtain ⟨hn, hp⟩ := Cart.mem_numbered.1 hp
  obtain ⟨hlt, hget⟩ := List.getElem?_eq_some_iff.1 hp
  rw [withoutLine_of_nodup hids hp]
  have hsize : cart.size = cart.lines.length := rfl
  constructor
  · rw [← hget]
    exact swapRemove_perm hlt
  · intro k q hq hkn hlast
    obtain ⟨hk, hq⟩ := Cart.mem_numbered.1 hq
    obtain ⟨hkl, -⟩ := List.getElem?_eq_some_iff.1 hq
    refine Cart.mem_numbered.2 ⟨hk, ?_⟩
    rw [getElem?_swapRemove hlt, if_pos (by omega), if_neg (by omega), hq]
  · intro hlast q hq
    obtain ⟨-, hq⟩ := Cart.mem_numbered.1 hq
    refine Cart.mem_numbered.2 ⟨hn, ?_⟩
    rw [getElem?_swapRemove hlt, if_pos (by omega), if_pos rfl, ← hsize, hq]

end Desk

/-! ## Buttons for lines -/

/-- What is computed from each element stands in its place. -/
theorem mapM_forall₂ {α β ε : Type} {f : α → Except ε β} {Q : α → β → Prop} {xs : List α}
    (h : ∀ x ∈ xs, ∃ y, f x = .ok y ∧ Q x y) : ∃ ys, xs.mapM f = .ok ys ∧ List.Forall₂ Q xs ys := by
  induction xs with
  | nil => exact ⟨[], rfl, .nil⟩
  | cons x xs ih =>
    obtain ⟨y, hy, hQ⟩ := h x List.mem_cons_self
    obtain ⟨ys, hys, hQs⟩ := ih fun z hz => h z (List.mem_cons_of_mem x hz)
    refine ⟨y :: ys, ?_, .cons hQ hQs⟩
    rw [List.mapM_cons, hy, hys]
    rfl

/-- The same for the elements with their places. -/
theorem mapM_zipIdx {α β ε : Type} {f : α × Nat → Except ε β} {Q : α × Nat → β → Prop} {xs : List α}
    (h : ∀ e, xs[e.2]? = some e.1 → ∃ y, f e = .ok y ∧ Q e y) :
    ∃ ys, xs.zipIdx.mapM f = .ok ys ∧ ys.length = xs.length ∧
      ∀ i x, xs[i]? = some x → ∃ y, ys[i]? = some y ∧ Q (x, i) y := by
  obtain ⟨ys, hys, hQs⟩ := mapM_forall₂ fun e he => h e (List.mk_mem_zipIdx_iff_getElem?.1 he)
  have hlength : ys.length = xs.length := by rw [← hQs.length_eq, List.length_zipIdx]
  refine ⟨ys, hys, hlength, fun i x hx => ?_⟩
  obtain ⟨hlt, rfl⟩ := List.getElem?_eq_some_iff.1 hx
  have hi : i < ys.length := by omega
  refine ⟨ys[i], List.getElem?_eq_getElem hi, ?_⟩
  have hQ := hQs.get (by rwa [List.length_zipIdx]) hi
  rwa [List.get_eq_getElem, List.getElem_zipIdx, Nat.zero_add] at hQ

/-- What the button carries is resolved to the action. -/
def Chat.Button.StandsFor (b : Button) (a : Action) : Prop :=
  ∃ data, ButtonData.decode b.data = .ok data ∧ Action.ofCode? data.code = some a

/-- A button with nothing but an action stands for it. -/
theorem Action.button_standsFor {a : Action} {code : Int32} (label : String)
    (hcode : a.code = .ok code) (hknown : code ≠ 0) :
    ∃ b : Button, (a.data >>= fun data => Button.of label data) = .ok b ∧ b.label = label ∧
      b.StandsFor a := by
  obtain ⟨s, hs⟩ := ButtonData.encode_bare code
  refine ⟨⟨label, s⟩, ?_, rfl, .bare code, ButtonData.decode_encode hs, ofCode?_code hcode hknown⟩
  rw [Action.data, hcode]
  show Button.of label (.bare code) = _
  rw [Button.of, hs]
  rfl

/-- A button for each element, in a row of its own.  The actions have the codes of a band by the
places of the elements, so all elements have buttons if there are no more of them than codes. -/
theorem CodeBand.rows_standFor {α : Type} {band : CodeBand} {xs : List α} (action : Nat → Action)
    (label : α → Nat → String) (hcode : ∀ i, (action i).code = band.code i)
    (hfirst : 0 < band.first) (hlast : band.first + band.size ≤ 2147483648)
    (hsize : xs.length ≤ band.size) :
    ∃ rows : Rows,
      (xs.zipIdx.mapM fun e => do return [← Button.of (label e.1 e.2) (← (action e.2).data)] :
        Except CallbackError Rows) = .ok rows ∧
      rows.length = xs.length ∧
      ∀ i x, xs[i]? = some x → ∃ b : Button, rows[i]? = some [b] ∧ b.label = label x i ∧
        b.StandsFor (action i) := by
  have hrow : ∀ e : α × Nat, xs[e.2]? = some e.1 → ∃ row : List Button,
      (do return [← Button.of (label e.1 e.2) (← (action e.2).data)] :
        Except CallbackError (List Button)) = .ok row ∧
      ∃ b : Button, row = [b] ∧ b.label = label e.1 e.2 ∧ b.StandsFor (action e.2) := by
    rintro ⟨x, i⟩ hx
    obtain ⟨hi, -⟩ := List.getElem?_eq_some_iff.1 hx
    obtain ⟨code, hindex⟩ := band.code_of_lt (Nat.lt_of_lt_of_le hi hsize)
    obtain ⟨b, hb, hstands⟩ := Action.button_standsFor (label x i) ((hcode i).trans hindex)
      (CodeBand.code_ne_zero hfirst hlast hindex)
    refine ⟨[b], ?_, b, rfl, hstands⟩
    rw [← bind_assoc, hb]
    rfl
  obtain ⟨rows, hrows, hlength, hplaces⟩ := mapM_zipIdx hrow
  refine ⟨rows, hrows, hlength, fun i x hx => ?_⟩
  obtain ⟨_, hplace, b, rfl, hb⟩ := hplaces i x hx
  exact ⟨b, hplace, hb⟩

/-- A button for each of `n` lines, with the number that the line is shown with, and below them the
one back to the menu. -/
structure RemovalRows (texts : Book) (n : Nat) (rows : Rows) : Prop where
  length : rows.length = n + 1
  line : ∀ i < n, ∃ b : Button, rows[i]? = some [b] ∧
    b.label = texts.getWith "cart-remove-position" [("index", Decimal.ofNat (i + 1))] ∧
    b.StandsFor (.removePosition i)
  menu : ∃ b : Button, rows[n]? = some [b] ∧ b.StandsFor .menu

/-- As long as there are codes for the lines, each of them has its button. -/
theorem editCartRows_removal (texts : Book) {cart : Cart} (h : cart.size ≤ maxCartLines) :
    ∃ rows, editCartRows texts cart = .ok rows ∧ RemovalRows texts cart.size rows := by
  obtain ⟨lines, hlines, hlength, hrows⟩ := CodeBand.rows_standFor .removePosition
    (fun _ i => texts.getWith "cart-remove-position" [("index", Decimal.ofNat (i + 1))])
    (fun i => rfl) (by decide) (by decide) h
  have hcode : Action.menu.code = .ok Action.menu.plainCode := rfl
  obtain ⟨menu, hmenu, -, hstands⟩ :=
    Action.button_standsFor (texts.get "back-to-menu") hcode (by decide)
  have hsize : lines.length = cart.size := hlength
  refine ⟨lines ++ [[menu]], ?_, ?_, fun i hi => ?_, menu, ?_, hstands⟩
  · have hback : Action.menu.labelled texts "back-to-menu" = .ok menu := hmenu
    simp only [editCartRows, hlines, hback]
    rfl
  · rw [List.length_append, hsize, List.length_singleton]
  · obtain ⟨b, hrow, hb⟩ := hrows i _ (List.getElem?_eq_getElem hi)
    exact ⟨b, by rw [List.getElem?_append_left (by omega), hrow], hb⟩
  · rw [List.getElem?_append_right (by omega), hsize, Nat.sub_self]
    rfl

/-! ## Presses -/

/-- The text of a line with its number. -/
def Desk.lineText (texts : Book) (n : Nat) (p : Position) : String :=
  texts.getWith "cart-position"
    [("index", Decimal.ofNat n), ("link", p.shopLink),
     ("size", if p.hasSize then p.size else texts.get "no-size"),
     ("button", buttonLabel texts p.button),
     ("price_yuan", amountText p.priceYuan), ("price_rub", amountText p.priceRub)]

theorem describePositions_numbered (texts : Book) (cart : Cart) :
    describePositions texts cart =
      Text.joined "\n\n" (cart.numbered.map fun (n, p) => Desk.lineText texts n p) := by
  rw [describePositions, Cart.numbered, List.map_map]
  rfl

namespace Surroundings

variable {W : Type} (S : Surroundings W) {w : W} {c : Customer} {index : Nat}

/-- What is done about the message with the buttons: it goes with the last line, and else it gets
the buttons for the lines that are left. -/
theorem calls_showLeft (desk : Desk) (chat : Int64) {cart : Cart} (hsize : cart.size ≤ maxCartLines)
    (message : Int32) (v : W) :
    if cart.isEmpty then .chat (.delete chat message) ∈ S.calls (desk.showLeft chat cart message) v
    else ∃ rows, RemovalRows desk.texts cart.size rows ∧
      .chat (.editButtons chat message rows) ∈ S.calls (desk.showLeft chat cart message) v := by
  unfold Desk.showLeft
  split
  · exact List.mem_cons_self
  · obtain ⟨rows, hrows, hremoval⟩ := editCartRows_removal desk.texts hsize
    refine ⟨rows, hremoval, ?_⟩
    rw [hrows]
    exact List.mem_cons_self

/-- The first thing done about a removal is to keep the cart without the line. -/
theorem calls_removePosition {v : W} (hc : (S.memory v).customer? c.id = some c) (desk : Desk)
    (chat : Int64) (index : Nat) (message : Option Int32) :
    ∃ v', S.calls (desk.removePosition chat c index message) v =
      .store (.updateCustomer c.id (Desk.removal c index)) ::
        S.calls (desk.showLeft chat (Desk.withoutLine c.cart index) message) v' := by
  have hupdate : (S.run (Turn.update c (Desk.removal c index)) v).1 = .ok () := by
    obtain ⟨next, drawn, hreply⟩ := S.reply (.updateCustomer c.id (Desk.removal c index)) v
    refine S.run_store (hreply.trans (Memory.serve_updateCustomer ?_ next drawn _))
    rw [hc]
    rfl
  refine ⟨(S.run (Turn.update c (Desk.removal c index)) v).2, ?_⟩
  rw [Desk.removePosition_eq, S.calls_bind hupdate, Turn.update, S.calls_store]
  rfl

section Pressing

variable {sender : Chat.Sender} {raw : String} {data : ButtonData}
  (hc : (S.memory w).customer? sender.id = some c) (hstep : c.step = .cartPositionToEdit)
  (hdecode : ButtonData.decode raw = .ok data)
  (hcode : Action.ofCode? data.code = some (.removePosition index))
include hc hstep hdecode hcode

/-- A press of a button that takes a line out. -/
theorem press_removePosition (desk : Desk) (chat : Int64) (message : Option Int32) :
    ∃ v, S.memory v = S.memory w ∧
      S.run (desk.dispatch (.press chat sender message raw)) w =
        S.run (desk.removePosition chat c index message) v ∧
      (∀ call ∈ S.calls (desk.removePosition chat c index message) v,
        call ∈ S.calls (desk.dispatch (.press chat sender message raw)) w) ∧
      ∀ A, (desk.dispatch (.press chat sender message raw)).run.Met S.serve A w →
        (desk.removePosition chat c index message).run.Met S.serve A v := by
  have hrespond : desk.respond c (.press chat sender message raw) =
      desk.removePosition chat c index message :=
    Desk.respond_press hdecode hcode fun s hs => hstep.trans (Option.some.inj hs)
  have hkept := S.dispatch_kept desk (.press chat sender message raw) hc
  rwa [hrespond] at hkept

/-- The store after a line has been taken out, whatever the chat has done. -/
theorem memory_press_removePosition (desk : Desk) (chat : Int64) (message : Option Int32) :
    S.memory (S.run (desk.dispatch (.press chat sender message raw)) w).2 =
      (S.memory w).putCustomer (c.apply (Desk.removal c index)) := by
  have hkept : (S.memory w).customer? c.id = some c := by rw [Memory.customer?_id hc, hc]
  have hask : desk.understand c (.press chat sender message raw) =
      .ok (.press (.removePosition index) data message) :=
    Desk.understand_press hdecode hcode fun s hs => hstep.trans (Option.some.inj hs)
  obtain ⟨_, rfl, hmemory⟩ := S.memory_fulfil hask hc
    (Desk.removePosition_writes_removal index rfl) (S.met_any _ w)
  rw [hmemory, Memory.foldl_updateCustomer hkept]

theorem calls_press_removePosition (desk : Desk) (chat : Int64) (message : Int32)
    (hsize : c.cart.size ≤ maxCartLines) :
    let press := desk.dispatch (.press chat sender (some message) raw)
    let cart' := Desk.withoutLine c.cart index
    if cart'.isEmpty then .chat (.delete chat message) ∈ S.calls press w
    else ∃ rows, RemovalRows desk.texts cart'.size rows ∧
      .chat (.editButtons chat message rows) ∈ S.calls press w := by
  obtain ⟨v, hv, -, hcalls, -⟩ := S.press_removePosition hc hstep hdecode hcode desk chat
    (some message)
  have hkept : (S.memory v).customer? c.id = some c := by rw [hv, Memory.customer?_id hc, hc]
  obtain ⟨v', hremoved⟩ := S.calls_removePosition hkept desk chat index (some message)
  rw [hremoved] at hcalls
  have hleft : (Desk.withoutLine c.cart index).size ≤ maxCartLines :=
    Nat.le_trans (Desk.withoutLine_size _ _) hsize
  have hshown := S.calls_showLeft desk chat hleft message v'
  by_cases hempty : (Desk.withoutLine c.cart index).isEmpty = true
  · simp only [if_pos hempty] at hshown ⊢
    exact hcalls _ (List.mem_cons_of_mem _ hshown)
  · simp only [if_neg hempty] at hshown ⊢
    obtain ⟨rows, hremoval, hedit⟩ := hshown
    exact ⟨rows, hremoval, hcalls _ (List.mem_cons_of_mem _ hedit)⟩

theorem run_press_removePosition (desk : Desk) (chat : Int64) (message : Option Int32)
    (hsize : c.cart.size ≤ maxCartLines)
    (hmet : (desk.dispatch (.press chat sender message raw)).run.Met S.serve Desk.Usual w) :
    (S.run (desk.dispatch (.press chat sender message raw)) w).1 = .ok () := by
  obtain ⟨v, hv, hrun, -, hrest⟩ := S.press_removePosition hc hstep hdecode hcode desk chat message
  have hkept : ((S.memory v).customer? c.id).isSome := by
    rw [hv, Memory.customer?_id hc, hc]
    rfl
  have hobliging := (hrest _ hmet).and (S.met_granted _ hkept)
  obtain ⟨_, hended, -⟩ := S.run_ends (Desk.removePosition_ends hsize) hobliging
  rw [hrun]
  exact hended

end Pressing

/-- The button in row `n` below the cart takes out the line that is shown with the number `n`,
whichever purchase it is.  The record is changed in its cart only, and in its step when the cart is
empty then; the buttons become those for the lines that are left, or go with the last line.  A number
beyond the cart changes no line. -/
theorem removal_by_number (desk : Desk) {sender : Chat.Sender}
    (hc : (S.memory w).customer? sender.id = some c) (hstep : c.step = .cartPositionToEdit) :
    (c.cart.size ≤ maxCartLines → (c.cart.lines.map (·.id)).Nodup →
      describePositions desk.texts c.cart =
        Text.joined "\n\n" (c.cart.numbered.map fun (n, p) => Desk.lineText desk.texts n p) ∧
      ∃ rows, editCartRows desk.texts c.cart = .ok rows ∧
        RemovalRows desk.texts c.cart.size rows ∧
        ∀ n p, (n, p) ∈ c.cart.numbered → ∃ b, rows[n - 1]? = some [b] ∧
          b.StandsFor (.removePosition (n - 1)) ∧
          ∃ cart', c.cart.TakenOut n p cart' ∧ ∀ (chat : Int64) (message : Int32),
            let press := desk.dispatch (.press chat sender (some message) b.data)
            S.memory (S.run press w).2 = (S.memory w).putCustomer { c with
              cart := cart', step := if cart'.isEmpty then .idle else .cartPositionToEdit } ∧
            (if cart'.isEmpty then .chat (.delete chat message) ∈ S.calls press w
              else ∃ rows', RemovalRows desk.texts cart'.size rows' ∧
                .chat (.editButtons chat message rows') ∈ S.calls press w) ∧
            (press.run.Met S.serve Desk.Usual w → (S.run press w).1 = .ok ())) ∧
    ∀ raw data index, ButtonData.decode raw = .ok data →
      Action.ofCode? data.code = some (.removePosition index) → c.cart.size ≤ index →
      ∀ chat message,
        S.memory (S.run (desk.dispatch (.press chat sender message raw)) w).2 =
          (S.memory w).putCustomer { c with
            step := if c.cart.isEmpty then .idle else .cartPositionToEdit } := by
  constructor
  · intro hsize hids
    obtain ⟨rows, hrows, hremoval⟩ := editCartRows_removal desk.texts hsize
    refine ⟨describePositions_numbered _ _, rows, hrows, hremoval, fun n p hp => ?_⟩
    have hline : n - 1 < c.cart.size := by
      obtain ⟨hlt, -⟩ := List.getElem?_eq_some_iff.1 (Cart.mem_numbered.1 hp).2
      exact hlt
    obtain ⟨b, hrow, -, hstands⟩ := hremoval.line _ hline
    refine ⟨b, hrow, hstands, _, Desk.withoutLine_takenOut hids hp, fun chat message => ?_⟩
    obtain ⟨data, hdecode, hcode⟩ := hstands
    refine ⟨?_, S.calls_press_removePosition hc hstep hdecode hcode desk chat message hsize,
      S.run_press_removePosition hc hstep hdecode hcode desk chat _ hsize⟩
    rw [S.memory_press_removePosition hc hstep hdecode hcode, Desk.apply_removal, hstep]
  · intro raw data index hdecode hcode hbeyond chat message
    rw [S.memory_press_removePosition hc hstep hdecode hcode, Desk.apply_removal,
      Desk.withoutLine_of_le hbeyond, hstep]

end Surroundings

namespace Purchase

/-- A line of a cart. -/
def line (n : Nat) : Position := ⟨Uuid.ofNat n, "shop/1", "42", .grey, some .light, 100, 2000⟩

/-- A customer who is asked which of three lines to take out. -/
def chooser : Customer :=
  { Customer.fresh 1 "Ivan" with
    step := .cartPositionToEdit, cart := ⟨[line 1, line 2, line 3]⟩ }

/-- The world of that customer. -/
def choosing : World := { opening with memory := ⟨[chooser], [], []⟩ }

/-- After a press of the second button the third line is the second one. -/
theorem second_taken_out :
    ∃ rows b cart', editCartRows .empty chooser.cart = .ok rows ∧ rows[1]? = some [b] ∧
      (1, line 1) ∈ cart'.numbered ∧ (2, line 3) ∈ cart'.numbered ∧
      (World.surroundings.run (Desk.bare.dispatch (.press 1 ⟨1, "Ivan", none, none⟩ (some 7) b.data))
        choosing).2.memory =
        choosing.memory.putCustomer { chooser with
          cart := cart', step := if cart'.isEmpty then .idle else .cartPositionToEdit } := by
  have hchooser : (World.surroundings.memory choosing).customer?
    (⟨1, "Ivan", none, none⟩ : Chat.Sender).id = some chooser := rfl
  obtain ⟨-, rows, hrows, -, hnumbers⟩ :=
    (World.surroundings.removal_by_number Desk.bare hchooser rfl).1 (by decide) (by decide)
  obtain ⟨b, hrow, -, cart', htaken, hpress⟩ := hnumbers 2 (line 2) (by decide)
  exact ⟨rows, b, cart', hrows, hrow, htaken.kept 1 _ (by decide) (by decide) (by decide),
    htaken.moved (by decide) _ (by decide), (hpress 1 7).1⟩

end Purchase

end OrderDesk
