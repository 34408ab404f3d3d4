import OrderDesk.Proofs.Conversation.Buttons

/-!
# Keyboards that cannot be built

A keyboard fails for one of two reasons: a button has too much to carry, or an index has no code.
`Errs` follows the errors through the text of a keyboard as `Gives` follows its buttons.

The arrows of the catalogue and of the guide carry the ids of an album's messages, and these may be
too long.  `catalogRows_ok_iff` and `guideRows_ok_iff` say exactly when they are not: the ids have
to leave room for a code of four digits in the catalogue, and of one digit in the guide.  Otherwise the
error is that of data that are too long (`catalogRows_tooLong`, `guideRows_tooLong`).
-/

namespace OrderDesk

open Chat (Button Rows)
open Phrase (Book)

/-! ## Errors of computations -/

/-- Every error with which a computation ends is as `E` says. -/
def Errs {ε α : Type} (x : Except ε α) (E : ε → Prop) : Prop := ∀ e, x = .error e → E e

section Errs

variable {ε α β : Type} {x : Except ε α} {f : α → Except ε β} {E : ε → Prop}

theorem errs_pure (a : α) : Errs (pure a : Except ε α) E := fun _ h => nomatch h

theorem Errs.bind (h : Errs x E) (hf : ∀ a, Errs (f a) E) : Errs (x >>= f) E := by
  cases x with
  | error e =>
    rintro _ ⟨⟩
    exact h e rfl
  | ok a => exact hf a

theorem Errs.map (h : Errs x E) (g : α → β) : Errs (g <$> x) E := by
  cases x with
  | error e =>
    rintro _ ⟨⟩
    exact h e rfl
  | ok a => exact errs_pure (g a)

theorem errs_ite {p : Prop} [Decidable p] {y : Except ε α} (hx : Errs x E) (hy : Errs y E) :
    Errs (if p then x else y) E := by
  split
  · exact hx
  · exact hy

theorem errs_mapM {f : α → Except ε β} (h : ∀ a, Errs (f a) E) (xs : List α) :
    Errs (xs.mapM f) E := by
  induction xs with
  | nil => exact errs_pure []
  | cons a xs ih =>
    rw [List.mapM_cons]
    exact (h a).bind fun b => ih.bind fun bs => errs_pure (b :: bs)

end Errs

/-! ## Errors of keyboards -/

section Keyboards

variable {E : CallbackError → Prop} {texts : Book} {ids : List Int32} {n : UInt8}

theorem Chat.Button.errs_of (hlong : ∀ k, E (.tooLong k)) (label : String) (data : ButtonData) :
    Errs (Button.of label data) E := by
  refine Errs.map (fun e he => ?_) _
  obtain ⟨k, rfl, -⟩ := ButtonData.encode_eq_error_iff.1 he
  exact hlong k

theorem Action.errs_code (hband : ∀ i, E (.outOfBand i)) (a : Action) : Errs a.code E := by
  have band : ∀ (b : CodeBand) i, Errs (b.code i) E := fun b i => by
    unfold CodeBand.code
    refine errs_ite (errs_pure _) ?_
    rintro _ ⟨⟩
    exact hband i
  cases a with
  | removePosition i => exact band _ i
  | faqAnswer i => exact band _ i
  | _ => exact errs_pure _

/-- A button that carries nothing but an action. -/
theorem Action.errs_button (hlong : ∀ k, E (.tooLong k)) {a : Action} (hcode : Errs a.code E)
    (label : String) : Errs (do Button.of label (← a.data)) E :=
  (hcode.map ButtonData.bare).bind fun data => Button.errs_of hlong label data

theorem editCartRows_errs (hlong : ∀ k, E (.tooLong k)) (hband : ∀ i, E (.outOfBand i))
    (cart : Cart) : Errs (editCartRows texts cart) E := by
  refine (errs_mapM (fun e => ?_) cart.lines.zipIdx).bind fun rows => ?_
  · refine Errs.bind ((Action.errs_code hband _).map ButtonData.bare) fun data => ?_
    exact (Button.errs_of hlong _ data).bind fun b => errs_pure [b]
  · exact (Action.errs_button hlong (errs_pure _) _).bind fun back => errs_pure _

theorem catalogRows_errs (hlong : ∀ k, E (.tooLong k)) (prev next : Option Catalog.Item) :
    Errs (catalogRows texts prev next ids) E := by
  refine (errs_mapM (fun item => Button.errs_of hlong _ _) prev.toList).bind fun back => ?_
  refine (errs_mapM (fun item => Button.errs_of hlong _ _) next.toList).bind fun forth => ?_
  exact (Action.errs_button hlong (errs_pure _) _).bind fun menu => errs_pure _

theorem guideRows_errs (hlong : ∀ k, E (.tooLong k)) : Errs (guideRows texts n ids) E := by
  have arrows : ∀ key n, Errs (do return [← guideArrow texts key n ids]) E := fun key n =>
    Errs.bind (Errs.bind (errs_pure _) fun code => Button.errs_of hlong _ _) fun b => errs_pure [b]
  rw [guideRows_eq]
  refine (errs_ite (arrows _ _) (errs_pure [])).bind fun back => ?_
  refine (errs_ite (arrows _ _) (errs_pure [])).bind fun forth => ?_
  refine (errs_ite ?_ (errs_pure [])).bind fun last => errs_pure _
  exact (Action.errs_button hlong (errs_pure _) _).bind fun b => errs_pure [[b]]

theorem paidRows_errs (hlong : ∀ k, E (.tooLong k)) (shortId : String) :
    Errs (paidRows texts shortId) E :=
  Errs.bind (errs_pure _) fun _ => (Button.errs_of hlong _ _).bind fun b => errs_pure [[b]]

end Keyboards

/-! ## Room for the ids of an album -/

section Room

variable {texts : Book} {ids : List Int32} {prev next : Option Catalog.Item} {n : UInt8}

/-- Whenever a button with message ids is built, the ids leave room for its code. -/
theorem gives_fits {label : String} {code : Int32} :
    Gives False (Button.of label ⟨code, .messageIds ids⟩)
      fun _ => ButtonData.Fits (Decimal.integerText code.toInt).length ids :=
  (Button.gives_of False.elim).mono id fun _ hb => ButtonData.fits_of_encode hb

/-- What is known already is known of whatever is built. -/
theorem gives_known {ε α : Type} {c : Prop} (h : c) (x : Except ε α) : Gives False x fun _ => c :=
  ⟨fun _ _ => h, False.elim⟩

theorem gives_fits_arrow {key : String} {code : Int32} {item : Catalog.Item}
    (hdigits : (Decimal.integerText code.toInt).length = 4) :
    Gives False ((some item).toList.mapM (catalogArrow texts key code ids))
      fun _ => ButtonData.Fits 4 ids := by
  rw [Option.toList_some, List.mapM_cons]
  refine Gives.bind (P := fun _ => ButtonData.Fits 4 ids) ?_ fun _ h => gives_known h _
  exact hdigits ▸ gives_fits

theorem gives_fits_catalogRows (h : prev.isSome ∨ next.isSome) :
    Gives False (catalogRows texts prev next ids) fun _ => ButtonData.Fits 4 ids := by
  unfold catalogRows
  cases prev with
  | some item => exact (gives_fits_arrow (by decide)).bind fun _ hfits => gives_known hfits _
  | none =>
    obtain ⟨item, rfl⟩ := Option.isSome_iff_exists.1 (h.resolve_left Bool.false_ne_true)
    refine Gives.bind (P := fun _ => True) (gives_pure trivial) fun _ _ => ?_
    exact (gives_fits_arrow (by decide)).bind fun _ hfits => gives_known hfits _

/-- The buttons under an item can be built if and only if the ids of the album leave room for a code
of four digits, or there is no neighbour whose arrow would have to carry them. -/
theorem catalogRows_ok_iff :
    (∃ rows, catalogRows texts prev next ids = .ok rows) ↔
      (prev.isSome ∨ next.isSome → ButtonData.Fits 4 ids) := by
  constructor
  · rintro ⟨rows, hrows⟩ hneighbour
    exact (gives_fits_catalogRows hneighbour).of_eq_ok rows hrows
  · intro h
    by_cases hneighbour : prev.isSome ∨ next.isSome
    · exact gives_catalogRows.eq_ok (h hneighbour)
    · obtain ⟨rfl, rfl⟩ : prev = none ∧ next = none := by simpa using hneighbour
      have hgives : Gives True (Action.menu.labelled texts "back-to-menu") Button.Free :=
        gives_freeButton (by decide) (by decide) rfl
      obtain ⟨menu, hmenu⟩ := hgives.eq_ok trivial
      refine ⟨[[menu]], ?_⟩
      simp only [catalogRows, hmenu]
      rfl

/-- The buttons under a guide step can be built if and only if the ids of the album leave room for a
code of one digit; every step has a neighbour. -/
theorem guideRows_ok_iff (hfirst : 1 ≤ n) (hlast : n ≤ guideSteps) :
    (∃ rows, guideRows texts n ids = .ok rows) ↔ ButtonData.Fits 1 ids := by
  refine ⟨fun ⟨rows, hrows⟩ => ?_, (gives_guideRows hfirst hlast).eq_ok⟩
  have arrow : ∀ key k, (Decimal.integerText (Action.guideStep k).plainCode.toInt).length = 1 →
      Gives False (do return [← guideArrow texts key k ids]) fun _ => ButtonData.Fits 1 ids := by
    intro key k hdigits
    refine Gives.bind (P := fun _ => ButtonData.Fits 1 ids) ?_ fun _ h => gives_known h _
    exact hdigits ▸ gives_fits
  have hrows' : Gives False (guideRows texts n ids) fun _ => ButtonData.Fits 1 ids := by
    rw [guideRows_eq]
    rcases guideStep_cases hfirst hlast with rfl | rfl | rfl | rfl
    · refine Gives.bind (P := fun _ => True) (gives_pure trivial) fun _ _ => ?_
      exact (arrow _ _ (by decide)).bind fun _ h => gives_known h _
    all_goals exact (arrow _ _ (by decide)).bind fun _ h => gives_known h _
  exact hrows'.of_eq_ok rows hrows

theorem catalogRows_tooLong (hneighbour : prev.isSome ∨ next.isSome)
    (h : ¬ ButtonData.Fits 4 ids) :
    ∃ k, catalogRows texts prev next ids = .error (.tooLong k) := by
  cases hrows : catalogRows texts prev next ids with
  | ok rows => exact absurd (catalogRows_ok_iff.1 ⟨rows, hrows⟩ hneighbour) h
  | error e =>
    obtain ⟨k, rfl⟩ := catalogRows_errs (E := fun e => ∃ k, e = .tooLong k) (fun k => ⟨k, rfl⟩)
      prev next e hrows
    exact ⟨k, rfl⟩

theorem guideRows_tooLong (hfirst : 1 ≤ n) (hlast : n ≤ guideSteps)
    (h : ¬ ButtonData.Fits 1 ids) : ∃ k, guideRows texts n ids = .error (.tooLong k) := by
  cases hrows : guideRows texts n ids with
  | ok rows => exact absurd ((guideRows_ok_iff hfirst hlast).1 ⟨rows, hrows⟩) h
  | error e =>
    obtain ⟨k, rfl⟩ := guideRows_errs (E := fun e => ∃ k, e = .tooLong k) (fun k => ⟨k, rfl⟩)
      e hrows
    exact ⟨k, rfl⟩

end Room

end OrderDesk
