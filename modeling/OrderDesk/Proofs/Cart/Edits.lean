import OrderDesk.Proofs.Orders.Amounts

/-!
# Adding lines and taking them out

A cart does not keep its lines in order, and several of them may have the same identifier.  Which
of these a removal takes out depends on what was taken out before, since that has moved lines.  It
is accounted for all the same: `takenBy` lists the lines that a sequence of edits takes out, each
looked up in the cart of its moment, and together with the lines that are left these are the lines
that were there and the lines that were added (`edited_perm`).

The totals do not depend on the order: each of them is the exact sum as far as 64 bits go
(`toNat_total`).  `edits_conserve` has both, for every sequence of edits and so at every moment.
-/

namespace OrderDesk.Cart

variable {cart : Cart}

/-! ## Edits -/

/-- A line is added, or the first one with an identifier is taken out. -/
inductive Edit where
  | add (p : Position)
  | remove (id : Uuid)

/-- The line that is added. -/
def Edit.added? : Edit → Option Position
  | add p => some p
  | remove _ => none

/-- The cart after an edit. -/
def edit (cart : Cart) : Edit → Cart
  | .add p => cart.add p
  | .remove id => (cart.remove id).1

/-- The line that an edit takes out: where a removal says that it has found one, the first one with
the identifier. -/
def taken? (cart : Cart) : Edit → Option Position
  | .add _ => none
  | .remove id => if (cart.remove id).2 then cart.lines.find? (·.id == id) else none

/-- The cart after a sequence of edits. -/
def edited (cart : Cart) (edits : List Edit) : Cart := edits.foldl edit cart

/-- The lines that the edits of a sequence take out, one after the other. -/
def takenBy (cart : Cart) : List Edit → List Position
  | [] => []
  | e :: edits => (cart.taken? e).toList ++ (cart.edit e).takenBy edits

/-! ## Lines -/

/-- A removal says that it has found no line exactly if none can be found. -/
theorem remove_eq_false_iff {id : Uuid} :
    (cart.remove id).2 = false ↔ cart.lines.find? (·.id == id) = none := by
  cases h : cart.lines.find? (·.id == id) with
  | none =>
    rw [remove_of_find?_eq_none h]
    exact iff_of_true rfl rfl
  | some p =>
    obtain ⟨rest, hremove, -⟩ := remove_of_find?_eq_some h
    rw [hremove]
    exact iff_of_false Bool.false_ne_true.symm (Option.some_ne_none p)

/-- What was there and what an edit adds is what it takes out and what is left. -/
theorem edit_perm (cart : Cart) (e : Edit) :
    (cart.lines ++ e.added?.toList).Perm ((cart.taken? e).toList ++ (cart.edit e).lines) := by
  cases e with
  | add p => exact .refl _
  | remove id =>
    cases h : cart.lines.find? (·.id == id) with
    | none =>
      simp [Edit.added?, taken?, edit, remove_of_find?_eq_none h]
    | some p =>
      obtain ⟨rest, hremove, hperm⟩ := remove_of_find?_eq_some h
      simpa [Edit.added?, taken?, edit, hremove, h] using hperm

theorem edited_perm (cart : Cart) (edits : List Edit) :
    (cart.lines ++ edits.filterMap Edit.added?).Perm
      (cart.takenBy edits ++ (cart.edited edits).lines) := by
  induction edits generalizing cart with
  | nil => simp [takenBy, edited]
  | cons e edits ih =>
    have hadded : (e :: edits).filterMap Edit.added? =
        e.added?.toList ++ edits.filterMap Edit.added? := by
      cases e <;> rfl
    calc (cart.lines ++ (e :: edits).filterMap Edit.added?).Perm
          ((cart.lines ++ e.added?.toList) ++ edits.filterMap Edit.added?) := by
          rw [hadded, List.append_assoc]
      List.Perm _
          (((cart.taken? e).toList ++ (cart.edit e).lines) ++ edits.filterMap Edit.added?) :=
        (edit_perm cart e).append_right _
      _ = (cart.taken? e).toList ++ ((cart.edit e).lines ++ edits.filterMap Edit.added?) :=
        List.append_assoc _ _ _
      List.Perm _ ((cart.taken? e).toList ++
          ((cart.edit e).takenBy edits ++ ((cart.edit e).edited edits).lines)) :=
        (ih (cart.edit e)).append_left _
      _ = cart.takenBy (e :: edits) ++ (cart.edited (e :: edits)).lines :=
        (List.append_assoc _ _ _).symm

/-! ## Totals -/

/-- A total is the exact sum, or the greatest amount where the sum is beyond it. -/
theorem toNat_total (amount : Position → UInt64) (cart : Cart) :
    (cart.lines.foldl (fun total p => addClamped total (amount p)) 0).toNat =
      min (cart.sum amount) (UInt64.size - 1) := by
  rw [toNat_foldl_addClamped, UInt64.toNat_zero, Nat.zero_add]
  rfl

theorem total_of_perm (amount : Position → UInt64) {cart cart' : Cart}
    (h : cart.lines.Perm cart'.lines) :
    cart.lines.foldl (fun total p => addClamped total (amount p)) 0 =
      cart'.lines.foldl (fun total p => addClamped total (amount p)) 0 := by
  have hsum : cart.sum amount = cart'.sum amount := (h.map _).sum_eq
  rw [← UInt64.toNat_inj, toNat_total, toNat_total, hsum]

/-- What removals and totals say of a cart as it stands. -/
structure Accounted (cart : Cart) : Prop where
  /-- A removal says that it has found nothing if there is nothing to be found. -/
  missed : ∀ id, (cart.remove id).2 = false ↔ ∀ p ∈ cart.lines, p.id ≠ id
  /-- Then it leaves everything in its place. -/
  unchanged : ∀ id, (cart.remove id).2 = false → (cart.remove id).1 = cart
  rub : cart.totalRub.toNat = min (cart.sum Position.priceRub) (UInt64.size - 1)
  yuan : cart.totalYuan.toNat = min (cart.sum Position.priceYuan) (UInt64.size - 1)
  /-- The same lines in any other order have the same totals. -/
  anyOrder : ∀ other : Cart, other.lines.Perm cart.lines →
    other.totalRub = cart.totalRub ∧ other.totalYuan = cart.totalYuan

theorem accounted (cart : Cart) : cart.Accounted where
  missed id := by
    rw [remove_eq_false_iff, List.find?_eq_none]
    simp only [beq_iff_eq, ne_eq]
  unchanged id h := by
    rw [remove_of_find?_eq_none (remove_eq_false_iff.1 h)]
  rub := toNat_total Position.priceRub cart
  yuan := toNat_total Position.priceYuan cart
  anyOrder _ h := ⟨total_of_perm Position.priceRub h, total_of_perm Position.priceYuan h⟩

/-- After any edits, the lines that are left are those that were there and those that were added,
less the first line of its identifier for each removal that found one.  At that moment, as at any
other, a removal that finds nothing changes nothing, and the totals are the exact sums up to the
greatest amount, whatever the order of the lines. -/
theorem edits_conserve (cart : Cart) (edits : List Edit) :
    (cart.lines ++ edits.filterMap Edit.added?).Perm
        (cart.takenBy edits ++ (cart.edited edits).lines) ∧
      (cart.edited edits).Accounted :=
  ⟨edited_perm cart edits, accounted _⟩

/-- Of two lines with one identifier the first is taken out first, then the second, which has been
moved in between; the total stays at the greatest amount. -/
theorem twins_taken_out :
    let line := fun n (rub : UInt64) => (⟨⟨n⟩, "", "42", .grey, none, 1, rub⟩ : Position)
    let greatest : UInt64 := 18446744073709551615
    let cart : Cart := ⟨[line 1 5, line 2 greatest, line 1 7]⟩
    let edits := [Edit.remove ⟨1⟩, .add (line 3 1), .remove ⟨9⟩, .remove ⟨1⟩]
    cart.takenBy edits = [line 1 5, line 1 7] ∧
      cart.edited edits = ⟨[line 3 1, line 2 greatest]⟩ ∧
      [line 1 5, line 2 greatest, line 1 7, line 3 1].Perm
        [line 1 5, line 1 7, line 3 1, line 2 greatest] ∧
      (cart.edited edits).totalRub = greatest ∧
      totalRub ⟨[line 2 greatest, line 3 1]⟩ = (cart.edited edits).totalRub := by
  intro line greatest cart edits
  have htaken : cart.takenBy edits = [line 1 5, line 1 7] := by decide
  have hleft : cart.edited edits = ⟨[line 3 1, line 2 greatest]⟩ := by decide
  obtain ⟨hlines, haccounted⟩ := edits_conserve cart edits
  rw [htaken, hleft] at hlines
  have hswapped : [line 2 greatest, line 3 1].Perm (cart.edited edits).lines := by
    rw [hleft]
    exact .swap _ _ _
  refine ⟨htaken, hleft, hlines, ?_, (haccounted.anyOrder _ hswapped).1⟩
  decide

end OrderDesk.Cart
