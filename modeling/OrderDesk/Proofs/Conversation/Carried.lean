import OrderDesk.Proofs.Conversation.Buttons

/-!
# What buttons carry

A button carries message ids if that is how its data are read (`Chat.Button.ids?`).  Only the arrows
under an item of the catalogue and under a guide step carry any, and all arrows of a keyboard carry
the same (`catalogRows_carry`, `guideRows_carry`).  The buttons of all other keyboards carry a code
alone or a short identifier: those that never change (`Keyboards.of_plain`), those under a cart and
the one under a new order.
-/

namespace OrderDesk

open Chat (Button Rows)
open Phrase (Book)

/-! ## Buttons and keyboards without message ids -/

/-- The message ids that a button carries, if its payload is message ids. -/
def Chat.Button.ids? (b : Button) : Option (List Int32) :=
  match ButtonData.decode b.data with
  | .ok ⟨_, .messageIds ids⟩ => some ids
  | _ => none

/-- No button carries message ids. -/
def Chat.Plain (buttons : List Button) : Prop := ∀ b ∈ buttons, b.ids? = none

/-- A text with buttons that carry no message ids. -/
def Chat.Call.IsPlain : Chat.Call → Prop
  | .sendText chat text keyboard => Chat.Plain (Chat.Call.sendText chat text keyboard).buttons
  | _ => False

/-- The message ids among some buttons are the given ones. -/
def Chat.Carry (ids : List Int32) (buttons : List Button) : Prop :=
  ∀ b ∈ buttons, b.ids? = none ∨ b.ids? = some ids

theorem Chat.Button.ids?_of_code {b : Button} {code : Int32}
    (h : (ButtonData.bare code).encode = .ok b.data) : b.ids? = none := by
  rw [Button.ids?, ButtonData.decode_encode h]
  rfl

theorem Chat.Button.ids?_of_text {b : Button} {code : Int32} {text : String}
    (h : ButtonData.encode ⟨code, .text text⟩ = .ok b.data) : b.ids? = none := by
  rw [Button.ids?, ButtonData.decode_encode h]

theorem Chat.Button.ids?_of_ids {b : Button} {code : Int32} {ids : List Int32}
    (h : ButtonData.encode ⟨code, .messageIds ids⟩ = .ok b.data) : b.ids? = some ids := by
  rw [Button.ids?, ButtonData.decode_encode h]

theorem Chat.Plain.carry {buttons : List Button} (h : Chat.Plain buttons) (ids : List Int32) :
    Chat.Carry ids buttons := fun b hb => .inl (h b hb)

variable {texts : Book} {rows : Rows} {ids : List Int32}

/-- A button that stands for an action and nothing else. -/
theorem gives_plain_labelled {key : String} {a : Action} :
    Gives False (a.labelled texts key) fun b => b.ids? = none :=
  (Action.gives_button _ False.elim).mono id fun _ ⟨_, _, hb⟩ => Button.ids?_of_code hb

theorem gives_plain_column {entries : List (String × Action)} :
    Gives False (column texts entries) fun rows => Chat.Plain rows.flatten :=
  gives_rows fun _ _ => gives_plain_labelled.bind fun _ hb =>
    gives_pure (List.forall_mem_singleton.2 hb)

theorem gives_plain_faqRows {entries : List FaqEntry} :
    Gives False (Keyboards.faqRows entries) fun rows => Chat.Plain rows.flatten :=
  gives_rows fun _ _ => Action.gives_row _ False.elim fun _ _ _ hb => Button.ids?_of_code hb

/-! ## Keyboards that never change -/

/-- The keyboards that never change. -/
def Keyboards.inline (k : Keyboards) : List Rows :=
  [k.menu, k.orderType, k.location, k.category, k.button, k.calculatorOrderType,
    k.calculatorLocation, k.calculatorCategory, k.calculateMore, k.cartPreview, k.positionAdded,
    k.faq]

theorem Keyboards.of_plain {settings : Settings} {k : Keyboards}
    (h : Keyboards.of texts settings = .ok k) : ∀ rows ∈ k.inline, Chat.Plain rows.flatten := by
  have hgives : Gives False (Keyboards.of texts settings) fun k =>
      ∀ rows ∈ k.inline, Chat.Plain rows.flatten := by
    refine gives_plain_faqRows.bind fun faq hfaq => ?_
    refine gives_plain_column.bind fun menu hmenu => ?_
    refine gives_plain_column.bind fun orderType horderType => ?_
    refine gives_plain_column.bind fun location hlocation => ?_
    refine gives_plain_column.bind fun category hcategory => ?_
    refine gives_plain_column.bind fun button hbutton => ?_
    refine gives_plain_column.bind fun calculatorOrderType hcalculatorOrderType => ?_
    refine gives_plain_column.bind fun calculatorLocation hcalculatorLocation => ?_
    refine gives_plain_column.bind fun calculatorCategory hcalculatorCategory => ?_
    refine gives_plain_column.bind fun calculateMore hcalculateMore => ?_
    refine gives_plain_column.bind fun cartPreview hcartPreview => ?_
    refine gives_plain_column.bind fun positionAdded hpositionAdded => ?_
    refine gives_pure ?_
    simp only [inline, List.forall_mem_cons]
    exact ⟨hmenu, horderType, hlocation, hcategory, hbutton, hcalculatorOrderType,
      hcalculatorLocation, hcalculatorCategory, hcalculateMore, hcartPreview, hpositionAdded, hfaq,
      List.forall_mem_nil _⟩
  exact hgives.of_eq_ok k h

/-- The keyboards of the desk carry no message ids. -/
def Desk.Plain (desk : Desk) : Prop := ∀ rows ∈ desk.keyboards.inline, Chat.Plain rows.flatten

/-- The keyboards of a desk that was opened. -/
theorem Desk.open_plain {settings : Settings} {desk : Desk}
    (h : Desk.open texts settings = .ok desk) : desk.Plain := by
  unfold Desk.open at h
  split at h
  · cases h
  · cases h
  · rename_i keyboards linkPattern hkeyboards hpattern
    obtain rfl := Except.ok.inj h
    exact Keyboards.of_plain hkeyboards

/-! ## Keyboards that go by what is shown -/

theorem editCartRows_plain {cart : Cart} (h : editCartRows texts cart = .ok rows) :
    Chat.Plain rows.flatten := by
  have hgives : Gives False (editCartRows texts cart) fun rows => Chat.Plain rows.flatten := by
    have hlines : Gives False (cart.lines.zipIdx.mapM fun e => do
        let label := texts.getWith "cart-remove-position" [("index", Decimal.ofNat (e.2 + 1))]
        return [← Button.of label (← (Action.removePosition e.2).data)]) fun rows =>
          Chat.Plain rows.flatten :=
      gives_rows fun _ _ => Action.gives_row _ False.elim fun _ _ _ hb => Button.ids?_of_code hb
    refine hlines.bind fun lines hlines => gives_plain_labelled.bind fun back hback => ?_
    refine gives_pure ?_
    rw [List.flatten_append]
    exact List.forall_mem_append.2 ⟨hlines, List.forall_mem_singleton.2 hback⟩
  exact hgives.of_eq_ok rows h

theorem paidRows_plain {shortId : String} (h : paidRows texts shortId = .ok rows) :
    Chat.Plain rows.flatten := by
  have hgives : Gives False (paidRows texts shortId) fun rows => Chat.Plain rows.flatten := by
    refine (Action.gives_code False.elim).bind fun code _ => ?_
    refine (Button.gives_of False.elim).bind fun b hb => gives_pure ?_
    exact List.forall_mem_singleton.2 (Button.ids?_of_text hb)
  exact hgives.of_eq_ok rows h

/-- All arrows under an item carry the ids that were asked for. -/
theorem catalogRows_carry {prev next : Option Catalog.Item}
    (h : catalogRows texts prev next ids = .ok rows) : Chat.Carry ids rows.flatten := by
  have harrows : ∀ {key code} {item? : Option Catalog.Item},
      Gives False (item?.toList.mapM (catalogArrow texts key code ids)) (Chat.Carry ids) :=
    gives_mapM fun _ _ => (Button.gives_of False.elim).mono id fun _ hb =>
      .inr (Button.ids?_of_ids hb)
  have hgives : Gives False (catalogRows texts prev next ids) fun rows =>
      Chat.Carry ids rows.flatten := by
    refine harrows.bind fun back hback => harrows.bind fun forth hforth => ?_
    refine gives_plain_labelled.bind fun menu hmenu => gives_pure ?_
    rw [List.flatten_append]
    refine List.forall_mem_append.2 ⟨?_, List.forall_mem_singleton.2 (.inl hmenu)⟩
    split
    · exact List.forall_mem_nil _
    · simpa [Chat.Carry] using List.forall_mem_append.2 ⟨hback, hforth⟩
  exact hgives.of_eq_ok rows h

/-- All arrows under a guide step carry the ids that were asked for. -/
theorem guideRows_carry {n : UInt8} (h : guideRows texts n ids = .ok rows) :
    Chat.Carry ids rows.flatten := by
  have harrows : ∀ {key} {k : UInt8} {p : Prop} [Decidable p], Gives False
      (if p then (do return [← guideArrow texts key k ids]) else pure []) (Chat.Carry ids) := by
    intro key k p _
    refine gives_ite (fun _ => ?_) fun _ => gives_pure (List.forall_mem_nil _)
    have harrow : Gives False (guideArrow texts key k ids) fun b => b.ids? = some ids :=
      (Action.gives_code False.elim).bind fun code _ =>
        (Button.gives_of False.elim).mono id fun _ hb => Button.ids?_of_ids hb
    exact harrow.bind fun b hb => gives_pure (List.forall_mem_singleton.2 (.inr hb))
  have hgives : Gives False (guideRows texts n ids) fun rows => Chat.Carry ids rows.flatten := by
    rw [guideRows_eq]
    refine harrows.bind fun back hback => harrows.bind fun forth hforth => ?_
    have hlast : Gives False (if n = guideSteps then
        (do return [[← Action.addPosition.labelled texts "guide-add-position"]])
        else pure []) fun last : Rows => Chat.Plain last.flatten := by
      refine gives_ite (fun _ => ?_) fun _ => gives_pure (List.forall_mem_nil _)
      exact gives_plain_labelled.bind fun b hb => gives_pure (List.forall_mem_singleton.2 hb)
    refine hlast.bind fun last hlast => gives_pure ?_
    rw [List.flatten_cons]
    exact List.forall_mem_append.2
      ⟨List.forall_mem_append.2 ⟨hback, hforth⟩, hlast.carry ids⟩
  exact hgives.of_eq_ok rows h

end OrderDesk
