import OrderDesk.Conversation.Turn
import OrderDesk.Proofs.Callback.Action
import OrderDesk.Proofs.Callback.Data

/-!
# Buttons that are answered

A button is live in a step if what it carries is written out in full, the code stands for an action
that is not bound to another step, and the payload is one that the action can work with
(`Desk.Live`).  Every keyboard that is built has live buttons only: those that never change in the
step in which they are shown (`Desk.Furnished`), and those that go by a cart, an item, a guide step
or an order wherever they are built.

`Gives c x P` says two things about a keyboard: it can be built where `c` holds, and wherever it is
built its buttons are as `P` says.
-/

namespace OrderDesk

open Chat (Button Rows)
open Phrase (Book)

/-! ## Building -/

/-- Every value with which a computation ends satisfies `P`, and it ends with one if `c` holds. -/
structure Gives {ε α : Type} (c : Prop) (x : Except ε α) (P : α → Prop) : Prop where
  of_eq_ok : ∀ a, x = .ok a → P a
  eq_ok : c → ∃ a, x = .ok a

section Gives

variable {ε α β : Type} {c : Prop} {x y : Except ε α} {P : α → Prop} {Q : β → Prop}

theorem gives_pure {a : α} (h : P a) : Gives c (pure a : Except ε α) P :=
  ⟨fun _ hb => Except.ok.inj hb ▸ h, fun _ => ⟨a, rfl⟩⟩

theorem Gives.bind {f : α → Except ε β} (h : Gives c x P) (hf : ∀ a, P a → Gives c (f a) Q) :
    Gives c (x >>= f) Q := by
  cases x with
  | error e =>
    refine ⟨fun b hb => (by cases hb), fun hc => ?_⟩
    obtain ⟨a, ha⟩ := h.eq_ok hc
    cases ha
  | ok a => exact hf a (h.of_eq_ok a rfl)

theorem Gives.mono {c' : Prop} {R : α → Prop} (h : Gives c x P) (hc : c' → c)
    (hPR : ∀ a, P a → R a) : Gives c' x R :=
  ⟨fun a ha => hPR a (h.of_eq_ok a ha), fun hc' => h.eq_ok (hc hc')⟩

/-- A value with which a computation ends is the one that is built. -/
theorem Gives.self (h : Gives c x P) : Gives c x fun a => x = .ok a ∧ P a :=
  ⟨fun a ha => ⟨ha, h.of_eq_ok a ha⟩, h.eq_ok⟩

theorem gives_ite {p : Prop} [Decidable p] (hx : p → Gives c x P) (hy : ¬ p → Gives c y P) :
    Gives c (if p then x else y) P := by
  split
  · rename_i h
    exact hx h
  · rename_i h
    exact hy h

theorem gives_mapM {f : α → Except ε β} {xs : List α} (h : ∀ x ∈ xs, Gives c (f x) Q) :
    Gives c (xs.mapM f) fun ys => ∀ y ∈ ys, Q y := by
  induction xs with
  | nil => exact gives_pure (List.forall_mem_nil Q)
  | cons x xs ih =>
    rw [List.mapM_cons]
    refine (h x List.mem_cons_self).bind fun y hy => ?_
    refine (ih fun z hz => h z (List.mem_cons_of_mem x hz)).bind fun ys hys => ?_
    exact gives_pure (List.forall_mem_cons.2 ⟨hy, hys⟩)

end Gives

/-- A code alone is always short enough. -/
theorem ButtonData.encode_bare (code : Int32) : ∃ s, (bare code).encode = .ok s := by
  refine ⟨_, encode_of_le ?_⟩
  have hlength : (Decimal.integerText code.toInt).length ≤ 11 := by
    have hlow := code.le_toInt
    have hhigh := code.toInt_lt
    cases hn : code.toInt with
    | ofNat n =>
      rw [hn, Int.ofNat_eq_natCast] at hhigh
      have hdigits : (Decimal.naturalText n).length ≤ 10 :=
        Decimal.length_naturalText_le (by decide) (by omega)
      exact Nat.le_succ_of_le hdigits
    | negSucc n =>
      have hdigits : (Decimal.naturalText (n + 1)).length ≤ 10 :=
        Decimal.length_naturalText_le (by decide) (by omega)
      exact Nat.succ_le_succ hdigits
  have hbytes : Text.byteLength (bare code).wire = (Decimal.integerText code.toInt).length :=
    byteLength_integerText code.toInt
  have hmax : maxBytes = 64 := rfl
  omega

theorem Chat.Button.gives_of {c : Prop} {label : String} {data : ButtonData}
    (h : c → ∃ s, data.encode = .ok s) :
    Gives c (Button.of label data) fun b => data.encode = .ok b.data := by
  unfold Button.of
  cases hdata : data.encode with
  | error e =>
    refine ⟨fun b hb => (by cases hb), fun hc => ?_⟩
    obtain ⟨s, hs⟩ := h hc
    cases hdata.symm.trans hs
  | ok s => exact ⟨fun b hb => Except.ok.inj hb ▸ rfl, fun _ => ⟨_, rfl⟩⟩

/-- The buttons that a call puts under a message. -/
def Chat.Call.buttons : Chat.Call → List Button
  | sendText _ _ (some (.inline rows)) => rows.flatten
  | editButtons _ _ rows => rows.flatten
  | _ => []

/-! ## Live buttons -/

namespace Desk

/-- A button in a step, with the action and the data behind it. -/
structure Backed (desk : Desk) (s : Step) (b : Button) (action : Action) (data : ButtonData) :
    Prop where
  encode : data.encode = .ok b.data
  code : action.code = .ok data.code
  known : data.code ≠ 0
  /-- The action is not bound to another step. -/
  step : ∀ s', action.requiredStep? = some s' → s = s'
  /-- A payment says for which order. -/
  paid : action = .paid → data.text?.isSome
  /-- An answer is to one of the questions. -/
  faq : ∀ i, action = .faqAnswer i → i < desk.settings.faq.length

/-- A press of the button is understood in the step, and there is nothing in it to be refused. -/
def Live (desk : Desk) (s : Step) (b : Button) : Prop :=
  ∃ action data, desk.Backed s b action data

/-- All buttons are live. -/
def AllLive (desk : Desk) (s : Step) (rows : Rows) : Prop := ∀ b ∈ rows.flatten, desk.Live s b

end Desk

/-- A button that is live at every desk and in every step. -/
def Chat.Button.Free (b : Button) : Prop := ∀ (desk : Desk) s, desk.Live s b

variable {desk : Desk} {texts : Book} {s : Step} {b : Button} {a : Action} {rows : Rows}
  {code : Int32} {c : Prop}

/-! ## Buttons with nothing but an action -/

theorem Action.gives_code (h : c → ∃ n, a.code = .ok n) : Gives c a.code (a.code = .ok ·) :=
  ⟨fun _ hn => hn, h⟩

/-- A button carries the code of its action. -/
theorem Action.gives_button (label : String) (h : c → ∃ n, a.code = .ok n) :
    Gives c (do Button.of label (← a.data)) fun b =>
      ∃ code, a.code = .ok code ∧ (ButtonData.bare code).encode = .ok b.data := by
  have hdata : Gives c a.data fun d => ∃ code, a.code = .ok code ∧ d = .bare code := by
    rw [Action.data]
    exact (gives_code h).bind fun code hcode => gives_pure ⟨code, hcode, rfl⟩
  refine hdata.bind fun d hd => ?_
  obtain ⟨code, hcode, rfl⟩ := hd
  exact (Button.gives_of fun _ => ButtonData.encode_bare code).mono id fun b hb => ⟨code, hcode, hb⟩

/-- A button in a row of its own. -/
theorem Action.gives_row (label : String) {P : Button → Prop} (h : c → ∃ n, a.code = .ok n)
    (hP : ∀ b : Button, ∀ code, a.code = .ok code → (ButtonData.bare code).encode = .ok b.data → P b) :
    Gives c (do return [← Button.of label (← a.data)] : Except CallbackError (List Button))
      fun row => ∀ b ∈ row, P b := by
  have hrow := (gives_button label h).bind (Q := fun row => ∀ b ∈ row, P b)
    fun b ⟨code, hcode, hb⟩ => gives_pure (List.forall_mem_singleton.2 (hP b code hcode hb))
  simpa only [bind_assoc] using hrow

/-- Rows one below the other. -/
theorem gives_rows {α : Type} {f : α → Except CallbackError (List Button)} {xs : List α}
    {P : Button → Prop} (h : ∀ x ∈ xs, Gives c (f x) fun row => ∀ b ∈ row, P b) :
    Gives c (xs.mapM f) fun rows => ∀ b ∈ rows.flatten, P b := by
  refine (gives_mapM h).mono id fun rows hrows b hb => ?_
  obtain ⟨row, hmem, hb⟩ := List.mem_flatten.1 hb
  exact hrows row hmem b hb

/-- A plain action can be offered without a payload, unless it is a payment. -/
theorem gives_plainButton {label : String} (ha : a ∈ Action.plain) (hpaid : a ≠ .paid) :
    Gives c (do Button.of label (← a.data)) fun b =>
      ∀ (desk : Desk) s, (∀ s', a.requiredStep? = some s' → s = s') → desk.Live s b := by
  refine (Action.gives_button label fun _ => ⟨_, Action.code_plain ha⟩).mono id ?_
  rintro b ⟨code, hcode, hb⟩ desk s hs
  obtain rfl : a.plainCode = code := Except.ok.inj ((Action.code_plain ha).symm.trans hcode)
  refine ⟨a, .bare a.plainCode, hb, hcode, Action.plainCode_ne_zero a ha, hs,
    fun h => absurd h hpaid, fun i hi => ?_⟩
  subst hi
  simp [Action.plain] at ha

/-- A button that is bound to no step. -/
theorem gives_freeButton {key : String} (ha : a ∈ Action.plain) (hpaid : a ≠ .paid)
    (hstep : a.requiredStep? = none) :
    Gives c (a.labelled texts key) Button.Free := by
  refine Gives.mono (gives_plainButton ha hpaid) id fun b hb desk s => hb desk s fun s' hs' => ?_
  rw [hstep] at hs'
  cases hs'

/-! ## Keyboards that never change -/

/-- Plain actions that are not payments, bound to one step or to none. -/
def areOffered (bound : Option Step) (entries : List (String × Action)) : Bool :=
  entries.all fun e => Action.plain.contains e.2 && e.2 != .paid && e.2.requiredStep? == bound

theorem gives_column (bound : Option Step) {entries : List (String × Action)}
    (h : areOffered bound entries) :
    Gives c (column texts entries) fun rows =>
      ∀ b ∈ rows.flatten, ∀ (desk : Desk) s, (∀ s', bound = some s' → s = s') → desk.Live s b := by
  refine gives_rows fun e he => ?_
  have hoffered := List.all_eq_true.1 h e he
  simp only [Bool.and_eq_true, List.contains_iff_mem, bne_iff_ne, ne_eq, beq_iff_eq] at hoffered
  obtain ⟨⟨hplain, hpaid⟩, rfl⟩ := hoffered
  exact Gives.bind (gives_plainButton hplain hpaid) fun b hb =>
    gives_pure (List.forall_mem_singleton.2 hb)

/-- One button for each question, as long as there are codes. -/
theorem gives_faqRows {entries : List FaqEntry} :
    Gives (entries.length ≤ maxFaqEntries) (Keyboards.faqRows entries) fun rows =>
      ∀ b ∈ rows.flatten, ∀ (desk : Desk) s, desk.settings.faq = entries → desk.Live s b := by
  refine gives_rows ?_
  rintro ⟨entry, i⟩ he
  have hi : i < entries.length := by simpa using (List.mem_zipIdx he).2.1
  have hexists : entries.length ≤ maxFaqEntries → ∃ n, (Action.faqAnswer i).code = .ok n := fun hle =>
    CodeBand.code_of_lt .faq (Nat.lt_of_lt_of_le hi hle)
  refine Action.gives_row _ hexists fun b code hcode hb desk s hs => ?_
  refine ⟨.faqAnswer i, .bare code, hb, hcode,
    CodeBand.code_ne_zero (by decide) (by decide) hcode, fun _ h => (by cases h),
    fun h => (by cases h), fun j hj => ?_⟩
  obtain rfl := Action.faqAnswer.inj hj
  rw [hs]
  exact hi

/-- The keyboards that never change have live buttons in the step in which they are shown. -/
structure Desk.Furnished (desk : Desk) : Prop where
  menu : ∀ s, desk.AllLive s desk.keyboards.menu
  orderType : desk.AllLive .orderType desk.keyboards.orderType
  location : desk.AllLive .location desk.keyboards.location
  category : desk.AllLive .category desk.keyboards.category
  button : desk.AllLive .button desk.keyboards.button
  calculatorOrderType : desk.AllLive .calculatorOrderType desk.keyboards.calculatorOrderType
  calculatorLocation : desk.AllLive .calculatorLocation desk.keyboards.calculatorLocation
  calculatorCategory : desk.AllLive .calculatorCategory desk.keyboards.calculatorCategory
  calculateMore : ∀ s, desk.AllLive s desk.keyboards.calculateMore
  cartPreview : ∀ s, desk.AllLive s desk.keyboards.cartPreview
  positionAdded : ∀ s, desk.AllLive s desk.keyboards.positionAdded
  faq : ∀ s, desk.AllLive s desk.keyboards.faq

theorem gives_keyboards (texts : Book) (settings : Settings) :
    Gives (settings.faq.length ≤ maxFaqEntries) (Keyboards.of texts settings) fun keyboards =>
      Keyboards.faqRows settings.faq = .ok keyboards.faq ∧
      ∀ desk : Desk, desk.settings = settings → desk.keyboards = keyboards → desk.Furnished := by
  refine gives_faqRows.self.bind fun faq ⟨hbuilt, hfaq⟩ => ?_
  refine (gives_column none (by decide +kernel)).bind fun menu hmenu => ?_
  refine (gives_column (some .orderType) (by decide +kernel)).bind fun orderType horderType => ?_
  refine (gives_column (some .location) (by decide +kernel)).bind fun location hlocation => ?_
  refine (gives_column (some .category) (by decide +kernel)).bind fun category hcategory => ?_
  refine (gives_column (some .button) (by decide +kernel)).bind fun button hbutton => ?_
  refine (gives_column (some .calculatorOrderType) (by decide +kernel)).bind
    fun calculatorOrderType hcalculatorOrderType => ?_
  refine (gives_column (some .calculatorLocation) (by decide +kernel)).bind
    fun calculatorLocation hcalculatorLocation => ?_
  refine (gives_column (some .calculatorCategory) (by decide +kernel)).bind
    fun calculatorCategory hcalculatorCategory => ?_
  refine (gives_column none (by decide +kernel)).bind fun calculateMore hcalculateMore => ?_
  refine (gives_column none (by decide +kernel)).bind fun cartPreview hcartPreview => ?_
  refine (gives_column none (by decide +kernel)).bind fun positionAdded hpositionAdded => ?_
  refine gives_pure ⟨hbuilt, fun desk hsettings hkeyboards => ?_⟩
  have unbound : ∀ {s : Step} s', (none : Option Step) = some s' → s = s' := fun _ h => (by cases h)
  have bound : ∀ {s : Step} s', some s = some s' → s = s' := fun _ h => Option.some.inj h
  rw [← hsettings] at hfaq
  constructor <;> rw [hkeyboards]
  · exact fun s b hb => hmenu b hb desk s unbound
  · exact fun b hb => horderType b hb desk _ bound
  · exact fun b hb => hlocation b hb desk _ bound
  · exact fun b hb => hcategory b hb desk _ bound
  · exact fun b hb => hbutton b hb desk _ bound
  · exact fun b hb => hcalculatorOrderType b hb desk _ bound
  · exact fun b hb => hcalculatorLocation b hb desk _ bound
  · exact fun b hb => hcalculatorCategory b hb desk _ bound
  · exact fun s b hb => hcalculateMore b hb desk s unbound
  · exact fun s b hb => hcartPreview b hb desk s unbound
  · exact fun s b hb => hpositionAdded b hb desk s unbound
  · exact fun s b hb => hfaq b hb desk s rfl

theorem Settings.validate_eq_ok_iff {settings : Settings} :
    settings.validate = .ok () ↔
      settings.pattern?.isSome ∧ settings.faq.length ≤ maxFaqEntries := by
  unfold validate
  cases settings.pattern? with
  | none => simp
  | some pattern => split <;> simp_all

/-- Settings that are valid open a desk, with their keyboards. -/
theorem Desk.open_valid (texts : Book) {settings : Settings} (h : settings.validate = .ok ()) :
    ∃ desk, Desk.open texts settings = .ok desk ∧ desk.settings = settings ∧
      Keyboards.of texts settings = .ok desk.keyboards := by
  obtain ⟨hpattern, hfaq⟩ := Settings.validate_eq_ok_iff.1 h
  obtain ⟨pattern, hpattern⟩ := Option.isSome_iff_exists.1 hpattern
  obtain ⟨keyboards, hkeyboards⟩ := (gives_keyboards texts settings).eq_ok hfaq
  refine ⟨⟨texts, settings, keyboards, pattern⟩, ?_, rfl, hkeyboards⟩
  simp only [Desk.open, hkeyboards, hpattern]

/-- The keyboards of such a desk have live buttons. -/
theorem Desk.open_furnished (texts : Book) {settings : Settings} (h : settings.validate = .ok ()) :
    ∃ desk, Desk.open texts settings = .ok desk ∧ desk.Furnished := by
  obtain ⟨desk, hopen, hsettings, hkeyboards⟩ := Desk.open_valid texts h
  have hgives := (gives_keyboards texts settings).of_eq_ok _ hkeyboards
  exact ⟨desk, hopen, hgives.2 desk hsettings rfl⟩

/-! ## Keyboards that go by what is shown -/

section Shown

variable {ids : List Int32} {n : UInt8}

/-- Under the lines of a cart, in the step in which one of them is chosen. -/
theorem gives_editCartRows {cart : Cart} :
    Gives (cart.size ≤ maxCartLines) (editCartRows texts cart) fun rows =>
      ∀ desk : Desk, desk.AllLive .cartPositionToEdit rows := by
  have hrows : Gives (cart.size ≤ maxCartLines) (cart.lines.zipIdx.mapM fun e => do
      let label := texts.getWith "cart-remove-position" [("index", Decimal.ofNat (e.2 + 1))]
      return [← Button.of label (← (Action.removePosition e.2).data)]) fun rows =>
        ∀ b ∈ rows.flatten, ∀ desk : Desk, desk.Live .cartPositionToEdit b := by
    refine gives_rows ?_
    rintro ⟨p, i⟩ he
    have hi : i < cart.lines.length := by simpa using (List.mem_zipIdx he).2.1
    have hexists : cart.size ≤ maxCartLines → ∃ n, (Action.removePosition i).code = .ok n :=
      fun hle => CodeBand.code_of_lt .removePosition (Nat.lt_of_lt_of_le hi hle)
    refine Action.gives_row _ hexists fun b code hcode hb desk => ?_
    exact ⟨.removePosition i, .bare code, hb, hcode,
      CodeBand.code_ne_zero (by decide) (by decide) hcode, fun _ h => Option.some.inj h,
      fun h => (by cases h), fun _ h => (by cases h)⟩
  refine hrows.bind fun rows hrows => ?_
  refine (gives_freeButton (by decide) (by decide) rfl).bind fun back hback => ?_
  refine gives_pure fun desk b hb => ?_
  rw [List.flatten_append, List.mem_append] at hb
  rcases hb with hb | hb
  · exact hrows b hb desk
  · obtain rfl : b = back := by simpa using hb
    exact hback desk _

/-- A button that carries message ids. -/
theorem gives_arrow {label : String} (hcode : a.code = .ok code) (hknown : code ≠ 0)
    (hstep : a.requiredStep? = none) (hpaid : a ≠ .paid) (hfaq : ∀ i, a ≠ .faqAnswer i) :
    Gives (ButtonData.Fits (Decimal.integerText code.toInt).length ids)
      (Button.of label ⟨code, .messageIds ids⟩) Button.Free := by
  refine (Button.gives_of ButtonData.encode_messageIds).mono id fun b hb desk s => ?_
  refine ⟨a, ⟨code, .messageIds ids⟩, hb, hcode, hknown, fun s' hs' => ?_,
    fun h => absurd h hpaid, fun i hi => absurd hi (hfaq i)⟩
  rw [hstep] at hs'
  cases hs'

/-- The arrow towards a neighbour, if there is one; the code has four digits. -/
theorem gives_catalogArrows {key : String} {item? : Option Catalog.Item} (hcode : a.code = .ok code)
    (hdigits : (Decimal.integerText code.toInt).length = 4) (hknown : code ≠ 0)
    (hstep : a.requiredStep? = none) (hpaid : a ≠ .paid) (hfaq : ∀ i, a ≠ .faqAnswer i) :
    Gives (ButtonData.Fits 4 ids) (item?.toList.mapM (catalogArrow texts key code ids)) fun arrows =>
      ∀ b ∈ arrows, b.Free :=
  gives_mapM fun _ _ => hdigits ▸ gives_arrow hcode hknown hstep hpaid hfaq

/-- Under an item, whatever its neighbours. -/
theorem gives_catalogRows {prev next : Option Catalog.Item} :
    Gives (ButtonData.Fits 4 ids) (catalogRows texts prev next ids) fun rows =>
      ∀ (desk : Desk) s, desk.AllLive s rows := by
  refine (gives_catalogArrows (a := .catalogPrev) rfl (by decide) (by decide) rfl (by decide)
    fun _ h => (by cases h)).bind fun back hback => ?_
  refine (gives_catalogArrows (a := .catalogNext) rfl (by decide) (by decide) rfl (by decide)
    fun _ h => (by cases h)).bind fun forth hforth => ?_
  refine (gives_freeButton (by decide) (by decide) rfl).bind fun menu hmenu => ?_
  refine gives_pure fun desk s b hb => ?_
  rw [List.flatten_append, List.mem_append] at hb
  rcases hb with hb | hb
  · split at hb
    · exact absurd hb List.not_mem_nil
    · have hb : b ∈ back ++ forth := by simpa using hb
      exact (List.mem_append.1 hb).elim (fun hb => hback b hb desk s) fun hb => hforth b hb desk s
  · obtain rfl : b = menu := by simpa using hb
    exact hmenu desk s

theorem guideStep_cases (hfirst : 1 ≤ n) (hlast : n ≤ guideSteps) :
    n = 1 ∨ n = 2 ∨ n = 3 ∨ n = 4 := by
  have hlow : 1 ≤ n.toNat := UInt8.le_iff_toNat_le.1 hfirst
  have hhigh : n.toNat ≤ 4 := UInt8.le_iff_toNat_le.1 hlast
  have hcases : n.toNat = 1 ∨ n.toNat = 2 ∨ n.toNat = 3 ∨ n.toNat = 4 := by omega
  rcases hcases with h | h | h | h
  · exact .inl (UInt8.toNat_inj.1 h)
  · exact .inr (.inl (UInt8.toNat_inj.1 h))
  · exact .inr (.inr (.inl (UInt8.toNat_inj.1 h)))
  · exact .inr (.inr (.inr (UInt8.toNat_inj.1 h)))

/-- An arrow to a guide step; the codes have one digit. -/
theorem gives_guideArrow {key : String} (hfirst : 1 ≤ n) (hlast : n ≤ guideSteps) :
    Gives (ButtonData.Fits 1 ids) (guideArrow texts key n ids) Button.Free := by
  have hn : Action.guideStep n ∈ Action.plain ∧
      (Decimal.integerText (Action.guideStep n).plainCode.toInt).length = 1 := by
    rcases guideStep_cases hfirst hlast with rfl | rfl | rfl | rfl <;> decide
  have hcode := Action.code_plain hn.1
  rw [guideArrow, hcode, ← hn.2]
  exact gives_arrow hcode (Action.plainCode_ne_zero _ hn.1) rfl (fun h => (by cases h))
    fun _ h => (by cases h)

/-- The arrow to a neighbour of a guide step, if it has one. -/
theorem gives_guideArrows {key : String} {p : Prop} [Decidable p]
    (hn : p → 1 ≤ n ∧ n ≤ guideSteps) :
    Gives (ButtonData.Fits 1 ids)
      (if p then (do return [← guideArrow texts key n ids]) else pure []) fun arrows =>
        ∀ b ∈ arrows, b.Free := by
  refine gives_ite (fun hp => ?_) fun _ => gives_pure (List.forall_mem_nil _)
  obtain ⟨hfirst, hlast⟩ := hn hp
  exact (gives_guideArrow hfirst hlast).bind fun b hb => gives_pure (List.forall_mem_singleton.2 hb)

/-- The arrows and the last row of a guide step, one after the other. -/
theorem guideRows_eq (texts : Book) (n : UInt8) (ids : List Int32) :
    guideRows texts n ids =
      (if 1 < n then (do return [← guideArrow texts "guide-prev" (n - 1) ids]) else pure []) >>=
        fun back =>
      (if n < guideSteps then (do return [← guideArrow texts "guide-next" (n + 1) ids])
        else pure []) >>= fun forth =>
      (if n = guideSteps then
          (do return [[← Action.addPosition.labelled texts "guide-add-position"]])
        else pure []) >>= fun last =>
      pure ((back ++ forth) :: last) := by
  unfold guideRows
  dsimp only
  split <;> split <;> split <;> rfl

/-- Under a guide step. -/
theorem gives_guideRows (hfirst : 1 ≤ n) (hlast : n ≤ guideSteps) :
    Gives (ButtonData.Fits 1 ids) (guideRows texts n ids) fun rows =>
      ∀ (desk : Desk) s, desk.AllLive s rows := by
  have hprev : 1 < n → 1 ≤ n - 1 ∧ n - 1 ≤ guideSteps := by
    rcases guideStep_cases hfirst hlast with rfl | rfl | rfl | rfl <;> decide
  have hnext : n < guideSteps → 1 ≤ n + 1 ∧ n + 1 ≤ guideSteps := by
    rcases guideStep_cases hfirst hlast with rfl | rfl | rfl | rfl <;> decide
  have hend : Gives (ButtonData.Fits 1 ids)
      (if n = guideSteps then
          (do return [[← Action.addPosition.labelled texts "guide-add-position"]])
        else pure [])
      fun last => ∀ b ∈ last.flatten, b.Free := by
    refine gives_ite (fun _ => ?_) fun _ => gives_pure (List.forall_mem_nil _)
    exact (gives_freeButton (by decide) (by decide) rfl).bind fun b hb =>
      gives_pure (List.forall_mem_singleton.2 hb)
  rw [guideRows_eq]
  refine (gives_guideArrows hprev).bind fun back hback => ?_
  refine (gives_guideArrows hnext).bind fun forth hforth => hend.bind fun last hend => ?_
  refine gives_pure fun desk s b hb => ?_
  rw [List.flatten_cons, List.mem_append, List.mem_append] at hb
  rcases hb with (hb | hb) | hb
  · exact hback b hb desk s
  · exact hforth b hb desk s
  · exact hend b hb desk s

/-- Under a new order. -/
theorem gives_paidRows {shortId : String} :
    Gives False (paidRows texts shortId) fun rows => ∀ (desk : Desk) s, desk.AllLive s rows := by
  -- nothing is known of the identifier, so the button may be too long to be built
  have hplain : Action.paid ∈ Action.plain := by decide
  have hcode := Action.code_plain hplain
  refine (Action.gives_code False.elim).bind fun code hcode' => ?_
  obtain rfl : Action.paid.plainCode = code := Except.ok.inj (hcode.symm.trans hcode')
  refine Gives.bind (Button.gives_of False.elim) fun b hb => gives_pure fun desk s b' hb' => ?_
  obtain rfl : b' = b := by simpa using hb'
  exact ⟨.paid, _, hb, hcode, Action.plainCode_ne_zero _ hplain, fun _ h => (by cases h),
    fun _ => rfl, fun _ h => (by cases h)⟩

end Shown

end OrderDesk
