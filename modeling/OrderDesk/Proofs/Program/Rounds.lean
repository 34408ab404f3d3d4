import OrderDesk.Proofs.Program.Along

/-!
# Ways through a program with their replies

`Program.Along` forgets the replies, a run fixes them all.  Between the two lies a way: the rounds of a
call and its reply that are gone through up to a result.  A way is taken apart where the program is
put together, at a bind (`way_bind`, and `way_run_bind` where a failure ends the program), so a
program has exactly the ways that its parts allow.  Every run takes one (`way_rounds`).
-/

namespace OrderDesk
namespace Program

variable {Call : Type} {Reply : Call → Type} {α β W ε : Type}

/-- A call and the reply to it. -/
abbrev Round (Reply : Call → Type) : Type := (c : Call) × Reply c

/-- The program goes through the rounds and ends with the result. -/
inductive Way : Program Call Reply α → List (Round Reply) → α → Prop where
  | pure (a : α) : Way (.pure a) [] a
  | ask {c : Call} {next : Reply c → Program Call Reply α} {r : Reply c} {t : List (Round Reply)}
      {a : α} (h : Way (next r) t a) : Way (.ask c next) (⟨c, r⟩ :: t) a

variable {t : List (Round Reply)} {a b : α}

theorem way_pure : (Program.pure a : Program Call Reply α).Way t b ↔ t = [] ∧ b = a := by
  constructor
  · rintro ⟨⟩
    exact ⟨rfl, rfl⟩
  · rintro ⟨rfl, rfl⟩
    exact .pure b

theorem way_ask {c : Call} {next : Reply c → Program Call Reply α} :
    (ask c next).Way t a ↔ ∃ r rest, t = ⟨c, r⟩ :: rest ∧ (next r).Way rest a := by
  constructor
  · rintro (_ | ⟨h⟩)
    exact ⟨_, _, rfl, h⟩
  · rintro ⟨r, rest, rfl, h⟩
    exact .ask h

theorem way_bind {p : Program Call Reply α} {f : α → Program Call Reply β} {b : β} :
    (p.bind f).Way t b ↔ ∃ t₁ t₂ a, t = t₁ ++ t₂ ∧ p.Way t₁ a ∧ (f a).Way t₂ b := by
  constructor
  · intro h
    induction p generalizing t with
    | pure a => exact ⟨[], t, a, rfl, .pure a, h⟩
    | ask c next ih =>
      obtain _ | ⟨h⟩ := h
      obtain ⟨t₁, t₂, a, rfl, hp, hf⟩ := ih _ h
      exact ⟨_ :: t₁, t₂, a, rfl, .ask hp, hf⟩
  · rintro ⟨t₁, t₂, a, rfl, hp, hf⟩
    induction hp with
    | pure a => exact hf
    | ask _ ih => exact .ask (ih hf)

/-- The ways through one part after another, where a failure ends the program. -/
theorem way_run_bind {m : ExceptT ε (Program Call Reply) α}
    {f : α → ExceptT ε (Program Call Reply) β} {r : Except ε β} :
    (m >>= f).run.Way t r ↔
      (∃ e, m.run.Way t (.error e) ∧ r = .error e) ∨
        ∃ t₁ t₂ a, t = t₁ ++ t₂ ∧ m.run.Way t₁ (.ok a) ∧ (f a).run.Way t₂ r := by
  rw [ExceptT.run_bind, bind_eq, way_bind]
  constructor
  · rintro ⟨t₁, t₂, e | a, rfl, hm, hf⟩
    · obtain ⟨rfl, rfl⟩ := way_pure.1 hf
      exact .inl ⟨e, (List.append_nil t₁).symm ▸ hm, rfl⟩
    · exact .inr ⟨t₁, t₂, a, rfl, hm, hf⟩
  · rintro (⟨e, hm, rfl⟩ | ⟨t₁, t₂, a, rfl, hm, hf⟩)
    · exact ⟨t, [], .error e, (List.append_nil t).symm, hm, .pure _⟩
    · exact ⟨t₁, t₂, .ok a, rfl, hm, hf⟩

/-! ## The way of a run -/

/-- The rounds of a run. -/
def rounds (serve : (c : Call) → W → Reply c × W) :
    Program Call Reply α → W → List (Round Reply)
  | pure _, _ => []
  | ask c next, w => ⟨c, (serve c w).1⟩ :: (next (serve c w).1).rounds serve (serve c w).2

theorem way_rounds (serve : (c : Call) → W → Reply c × W) (p : Program Call Reply α) (w : W) :
    p.Way (p.rounds serve w) (p.run serve w).1 := by
  induction p generalizing w with
  | pure a => exact .pure a
  | ask c next ih => exact .ask (ih _ _)

end Program
end OrderDesk
