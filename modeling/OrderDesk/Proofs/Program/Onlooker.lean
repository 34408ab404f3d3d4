import OrderDesk.Proofs.Program.Along

/-!
# Onlookers

`Program.Along` speaks of the calls on a way and of the result at its end.  Where it matters what was
replied to which call, or what is true between two calls, an onlooker takes notes: after every call
and its reply the notes so far become other notes, and what is expected of a reply may depend on
them.  `Program.Watched` says that as long as replies are as expected, a property of the notes holds
at every moment, and another one of the last notes and the result.  It is proved once for a program,
by following its text, and then holds of every run (`Watched.run`) and, one call at a time, of a
program whose calls fall between those of others.
-/

namespace OrderDesk

/-- Someone who takes notes on calls and replies. -/
structure Onlooker (Call : Type) (Reply : Call → Type) (G : Type) where
  /-- The notes after a call and its reply. -/
  note : G → (c : Call) → Reply c → G
  /-- What is expected of a reply in the light of the notes. -/
  Expects : G → (c : Call) → Reply c → Prop

/-- The same onlooker, who also expects of each reply what `A` says. -/
def Onlooker.and {Call : Type} {Reply : Call → Type} {G : Type} (o : Onlooker Call Reply G)
    (A : (c : Call) → Reply c → Prop) : Onlooker Call Reply G :=
  { o with Expects := fun g c r => o.Expects g c r ∧ A c r }

namespace Program

variable {Call : Type} {Reply : Call → Type} {α β G W : Type}

/-- As long as replies are as expected, `I` holds of the notes at every moment, and `Q` of the last
notes and the result. -/
def Watched (o : Onlooker Call Reply G) (I : G → Prop) (Q : G → α → Prop) :
    Program Call Reply α → G → Prop
  | pure a, g => I g ∧ Q g a
  | ask c next, g => I g ∧ ∀ r, o.Expects g c r → (next r).Watched o I Q (o.note g c r)

/-- The notes at the end of a run. -/
def notes (o : Onlooker Call Reply G) (serve : (c : Call) → W → Reply c × W) :
    Program Call Reply α → W → G → G
  | pure _, _, g => g
  | ask c next, w, g =>
    (next (serve c w).1).notes o serve (serve c w).2 (o.note g c (serve c w).1)

/-- Every reply of a run is as expected. -/
def Foreseen (o : Onlooker Call Reply G) (serve : (c : Call) → W → Reply c × W) :
    Program Call Reply α → W → G → Prop
  | pure _, _, _ => True
  | ask c next, w, g =>
    o.Expects g c (serve c w).1 ∧
      (next (serve c w).1).Foreseen o serve (serve c w).2 (o.note g c (serve c w).1)

variable {o : Onlooker Call Reply G} {I : G → Prop} {Q R : G → α → Prop} {g : G}
  {serve : (c : Call) → W → Reply c × W}

/-! ## Following a program -/

theorem watched_pure {a : α} (hI : I g) (hQ : Q g a) :
    (Program.pure a : Program Call Reply α).Watched o I Q g := ⟨hI, hQ⟩

theorem watched_ask {c : Call} {next : Reply c → Program Call Reply α} (hI : I g)
    (h : ∀ r, o.Expects g c r → (next r).Watched o I Q (o.note g c r)) :
    (ask c next).Watched o I Q g := ⟨hI, h⟩

/-- The property of every moment holds now. -/
theorem Watched.now {p : Program Call Reply α} (h : p.Watched o I Q g) : I g := by
  cases p with
  | pure a => exact h.1
  | ask c next => exact h.1

/-- What is left of the program after a call. -/
theorem Watched.next {c : Call} {next : Reply c → Program Call Reply α}
    (h : (ask c next).Watched o I Q g) {r : Reply c} (hr : o.Expects g c r) :
    (next r).Watched o I Q (o.note g c r) := h.2 r hr

theorem Watched.mono {p : Program Call Reply α} (h : p.Watched o I Q g)
    (hQR : ∀ g a, I g → Q g a → R g a) : p.Watched o I R g := by
  induction p generalizing g with
  | pure a => exact ⟨h.1, hQR g a h.1 h.2⟩
  | ask c next ih => exact ⟨h.1, fun r hr => ih r (h.2 r hr)⟩

/-- One program after the other. -/
theorem Watched.bind {p : Program Call Reply α} {f : α → Program Call Reply β}
    {Q : G → β → Prop} (h : p.Watched o I (fun g a => (f a).Watched o I Q g) g) :
    (p.bind f).Watched o I Q g := by
  induction p generalizing g with
  | pure a => exact h.2
  | ask c next ih => exact ⟨h.1, fun r hr => ih r (h.2 r hr)⟩

/-- There is a way through every program. -/
theorem Along.exists_way [∀ c, Nonempty (Reply c)] {p : Program Call Reply α}
    {Q : List Call → α → Prop} (h : p.Along (fun _ _ => True) Q) : ∃ cs a, Q cs a := by
  induction p generalizing Q with
  | pure a => exact ⟨[], a, along_pure.1 h⟩
  | ask c next ih =>
    obtain ⟨r⟩ := ‹∀ c, Nonempty (Reply c)› c
    obtain ⟨cs, a, hQ⟩ := ih r (along_ask.1 h r trivial)
    exact ⟨c :: cs, a, hQ⟩

/-- A program keeps what all its calls keep. -/
theorem Along.watched [∀ c, Nonempty (Reply c)] {C : Call → Prop} {J : G → Prop}
    (hJI : ∀ g, J g → I g)
    (hJ : ∀ g c r, C c → J g → o.Expects g c r → J (o.note g c r)) {p : Program Call Reply α}
    (h : p.Along (fun _ _ => True) fun cs _ => ∀ c ∈ cs, C c) (hg : J g) :
    p.Watched o I (fun g _ => J g) g := by
  induction p generalizing g with
  | pure a => exact watched_pure (hJI g hg) hg
  | ask c next ih =>
    have hways := along_ask.1 h
    -- the first call is of the kind because it is on some way
    have hc : C c := by
      obtain ⟨r⟩ := ‹∀ c, Nonempty (Reply c)› c
      obtain ⟨cs, -, hcs⟩ := (hways r trivial).exists_way
      exact hcs c List.mem_cons_self
    refine watched_ask (hJI g hg) fun r hr => ih r ?_ (hJ g c r hc hg hr)
    exact (hways r trivial).mono fun cs _ hcs d hd => hcs d (List.mem_cons_of_mem c hd)

/-! ## Runs -/

/-- What is true of a watched program is true of its runs. -/
theorem Watched.run {p : Program Call Reply α} {w : W} (h : p.Watched o I Q g)
    (hp : p.Foreseen o serve w g) : Q (p.notes o serve w g) (p.run serve w).1 := by
  induction p generalizing g w with
  | pure a => exact h.2
  | ask c next ih => exact ih _ (h.2 _ hp.1) hp.2

instance decidableForeseen [∀ g c r, Decidable (o.Expects g c r)] :
    (p : Program Call Reply α) → (w : W) → (g : G) → Decidable (p.Foreseen o serve w g)
  | pure _, _, _ => isTrue trivial
  | ask c next, w, g =>
    have := decidableForeseen (next (serve c w).1) (serve c w).2 (o.note g c (serve c w).1)
    inferInstanceAs (Decidable (_ ∧ _))

-- the rules above say all that is needed; unfolding would follow a whole program
attribute [irreducible] Watched

/-! ## Runs in two parts -/

theorem notes_bind (p : Program Call Reply α) (f : α → Program Call Reply β) (w : W) (g : G) :
    (p.bind f).notes o serve w g =
      (f (p.run serve w).1).notes o serve (p.run serve w).2 (p.notes o serve w g) := by
  induction p generalizing w g with
  | pure a => rfl
  | ask c next ih => exact ih _ _ _

theorem foreseen_bind {p : Program Call Reply α} {f : α → Program Call Reply β} {w : W} {g : G} :
    (p.bind f).Foreseen o serve w g ↔ p.Foreseen o serve w g ∧
      (f (p.run serve w).1).Foreseen o serve (p.run serve w).2 (p.notes o serve w g) := by
  induction p generalizing w g with
  | pure a => exact (and_iff_right trivial).symm
  | ask c next ih => exact (and_congr_right fun _ => ih _).trans and_assoc.symm

/-! ## More that is expected -/

section More

variable {A : (c : Call) → Reply c → Prop}

theorem notes_and (p : Program Call Reply α) (w : W) (g : G) :
    p.notes (o.and A) serve w g = p.notes o serve w g := by
  induction p generalizing w g with
  | pure a => rfl
  | ask c next ih => exact ih _ _ _

theorem Foreseen.and {p : Program Call Reply α} {w : W} (h : p.Foreseen o serve w g)
    (hA : p.Met serve A w) : p.Foreseen (o.and A) serve w g := by
  induction p generalizing w g with
  | pure a => trivial
  | ask c next ih =>
    obtain ⟨hfirst, hrest⟩ := met_ask.1 hA
    exact ⟨⟨h.1, hfirst⟩, ih _ h.2 hrest⟩

end More

end Program
end OrderDesk
