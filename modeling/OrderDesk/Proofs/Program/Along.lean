import OrderDesk.Program

/-!
# What holds along every way through a program

A program is a tree: a reply to a call selects the branch that is taken.  `Program.Along` says that
a property of the calls made and of the result holds on every branch whose replies satisfy an
assumption.  It is proved once for a program, by following its text, and it then holds of every run
against a state whose replies satisfy the assumption (`Along.run`), whatever that state is.

A view of the state on which every call acts in a known way can be computed from the calls alone, at
the end of a run (`view_run`) and at every point at which the run may be cut off (`view_runFor`).
-/

namespace OrderDesk
namespace Program

variable {Call : Type} {Reply : Call → Type} {α β W M : Type}

/-! ## Sequencing -/

@[simp] theorem pure_eq (a : α) : (Pure.pure a : Program Call Reply α) = .pure a := rfl

@[simp] theorem bind_eq (p : Program Call Reply α) (f : α → Program Call Reply β) :
    p >>= f = p.bind f := rfl

theorem bind_pure (p : Program Call Reply α) : p.bind .pure = p := by
  induction p with
  | pure a => rfl
  | ask c next ih => exact congrArg (ask c) (funext ih)

theorem bind_assoc {γ : Type} (p : Program Call Reply α) (f : α → Program Call Reply β)
    (g : β → Program Call Reply γ) : (p.bind f).bind g = p.bind fun a => (f a).bind g := by
  induction p with
  | pure a => rfl
  | ask c next ih => exact congrArg (ask c) (funext ih)

instance : LawfulMonad (Program Call Reply) :=
  LawfulMonad.mk' _ (fun p => bind_pure p) (fun _ _ => rfl) (fun p f g => bind_assoc p f g)

/-! ## The calls of a run -/

section Runs

variable (serve : (c : Call) → W → Reply c × W)

/-- The calls that a run makes, in their order. -/
def calls : Program Call Reply α → W → List Call
  | pure _, _ => []
  | ask c next, w => c :: (next (serve c w).1).calls (serve c w).2

theorem run_bind (p : Program Call Reply α) (f : α → Program Call Reply β) (w : W) :
    (p.bind f).run serve w = (f (p.run serve w).1).run serve (p.run serve w).2 := by
  induction p generalizing w with
  | pure a => rfl
  | ask c next ih => exact ih _ _

theorem calls_bind (p : Program Call Reply α) (f : α → Program Call Reply β) (w : W) :
    (p.bind f).calls serve w =
      p.calls serve w ++ (f (p.run serve w).1).calls serve (p.run serve w).2 := by
  induction p generalizing w with
  | pure a => rfl
  | ask c next ih => simp [bind, calls, run, ih]

/-- One part after another, where a failure ends the run. -/
theorem run_run_bind {ε : Type} (t : ExceptT ε (Program Call Reply) α)
    (f : α → ExceptT ε (Program Call Reply) β) (w : W) :
    (t >>= f).run.run serve w =
      match (t.run.run serve w).1 with
      | .ok a => (f a).run.run serve (t.run.run serve w).2
      | .error e => (.error e, (t.run.run serve w).2) := by
  rw [ExceptT.run_bind, bind_eq, run_bind]
  cases (t.run.run serve w).1 <;> rfl

theorem calls_run_bind {ε : Type} (t : ExceptT ε (Program Call Reply) α)
    (f : α → ExceptT ε (Program Call Reply) β) (w : W) :
    (t >>= f).run.calls serve w =
      t.run.calls serve w ++
        match (t.run.run serve w).1 with
        | .ok a => (f a).run.calls serve (t.run.run serve w).2
        | .error _ => [] := by
  rw [ExceptT.run_bind, bind_eq, calls_bind]
  cases (t.run.run serve w).1 <;> rfl

variable {serve} {view : W → M} {effect : M → Call → M}

/-- What every call preserves, a run preserves. -/
theorem run_invariant {I : W → Prop} (h : ∀ c w, I w → I (serve c w).2)
    (p : Program Call Reply α) {w : W} (hw : I w) : I (p.run serve w).2 := by
  induction p generalizing w with
  | pure a => exact hw
  | ask c next ih => exact ih _ (h c w hw)

/-- What calls of a kind preserve, a run of such calls preserves, also when it is cut off. -/
theorem runFor_invariant {C : Call → Prop} {I : W → Prop}
    (hI : ∀ c w, C c → I w → I (serve c w).2) (p : Program Call Reply α) {w : W} (n : Nat)
    (hw : I w) (h : ∀ c ∈ p.calls serve w, C c) : I (p.runFor serve n w).2 := by
  induction p generalizing w n with
  | pure a => cases n <;> exact hw
  | ask c next ih =>
    cases n with
    | zero => exact hw
    | succ n =>
      have hnext : I (serve c w).2 := hI c w (h c List.mem_cons_self) hw
      exact ih _ n hnext fun d hd => h d (List.mem_cons_of_mem c hd)

/-- A run that is cut off after its last call is the whole run. -/
theorem runFor_length (p : Program Call Reply α) (w : W) :
    (p.runFor serve (p.calls serve w).length w).2 = (p.run serve w).2 := by
  induction p generalizing w with
  | pure a => rfl
  | ask c next ih => exact ih _ _

/-- What a view shows after a run. -/
theorem view_run (h : ∀ c w, view (serve c w).2 = effect (view w) c)
    (p : Program Call Reply α) (w : W) :
    view (p.run serve w).2 = (p.calls serve w).foldl effect (view w) := by
  induction p generalizing w with
  | pure a => rfl
  | ask c next ih => simp only [run, calls, List.foldl_cons, ih, h]

/-- What a view shows when a run is cut off after `n` calls. -/
theorem view_runFor (h : ∀ c w, view (serve c w).2 = effect (view w) c)
    (p : Program Call Reply α) (w : W) (n : Nat) :
    view (p.runFor serve n w).2 = ((p.calls serve w).take n).foldl effect (view w) := by
  induction p generalizing w n with
  | pure a => cases n <;> rfl
  | ask c next ih =>
    cases n with
    | zero => rfl
    | succ n => simp only [runFor, calls, List.take_succ_cons, List.foldl_cons, ih, h]

end Runs

/-! ## Properties of all ways -/

/-- `Q` holds of the calls and of the result on every way through the program whose replies are as
`A` says. -/
def Along (A : (c : Call) → Reply c → Prop) : Program Call Reply α → (List Call → α → Prop) → Prop
  | pure a, Q => Q [] a
  | ask c next, Q => ∀ r, A c r → (next r).Along A fun cs a => Q (c :: cs) a

/-- Every reply of a run is as `A` says. -/
def Met (serve : (c : Call) → W → Reply c × W) (A : (c : Call) → Reply c → Prop) :
    Program Call Reply α → W → Prop
  | pure _, _ => True
  | ask c next, w => A c (serve c w).1 ∧ (next (serve c w).1).Met serve A (serve c w).2

variable {A B : (c : Call) → Reply c → Prop} {serve : (c : Call) → W → Reply c × W}

@[simp] theorem along_pure {a : α} {Q : List Call → α → Prop} :
    (Program.pure a : Program Call Reply α).Along A Q ↔ Q [] a := Iff.rfl

@[simp] theorem along_ask {c : Call} {next : Reply c → Program Call Reply α}
    {Q : List Call → α → Prop} :
    (ask c next).Along A Q ↔ ∀ r, A c r → (next r).Along A fun cs a => Q (c :: cs) a := Iff.rfl

@[simp] theorem met_pure {a : α} {w : W} : (Program.pure a : Program Call Reply α).Met serve A w :=
  trivial

@[simp] theorem met_ask {c : Call} {next : Reply c → Program Call Reply α} {w : W} :
    (ask c next).Met serve A w ↔
      A c (serve c w).1 ∧ (next (serve c w).1).Met serve A (serve c w).2 := Iff.rfl

theorem Along.mono {p : Program Call Reply α} {Q R : List Call → α → Prop} (h : p.Along A Q)
    (hQR : ∀ cs a, Q cs a → R cs a) : p.Along A R := by
  induction p generalizing Q R with
  | pure a => exact hQR _ _ h
  | ask c next ih => exact fun r hr => ih r (h r hr) fun cs a => hQR (c :: cs) a

theorem along_bind {p : Program Call Reply α} {f : α → Program Call Reply β}
    {Q : List Call → β → Prop} :
    (p.bind f).Along A Q ↔ p.Along A fun cs a => (f a).Along A fun ds b => Q (cs ++ ds) b := by
  induction p generalizing Q with
  | pure a => rfl
  | ask c next ih => exact forall_congr' fun r => imp_congr_right fun _ => ih r

/-- The ways through one part after another, where a failure ends the program. -/
theorem along_run_bind {ε : Type} (t : ExceptT ε (Program Call Reply) α)
    (f : α → ExceptT ε (Program Call Reply) β) (Q : List Call → Except ε β → Prop) :
    (t >>= f).run.Along A Q ↔
      t.run.Along A fun cs r => match r with
        | .ok a => (f a).run.Along A fun ds s => Q (cs ++ ds) s
        | .error e => Q cs (.error e) := by
  rw [ExceptT.run_bind, bind_eq, along_bind]
  constructor <;> refine fun h => h.mono ?_ <;> rintro cs (e | a) h
  · simpa using h
  · exact h
  · simpa using h
  · exact h

/-- What holds along every way holds of a run whose replies are as assumed. -/
theorem Along.run {p : Program Call Reply α} {Q : List Call → α → Prop} {w : W} (h : p.Along A Q)
    (hA : p.Met serve A w) : Q (p.calls serve w) (p.run serve w).1 := by
  induction p generalizing w Q with
  | pure a => exact h
  | ask c next ih => exact ih _ (h _ hA.1) hA.2

theorem Met.mono {p : Program Call Reply α} {w : W} (h : p.Met serve A w)
    (hAB : ∀ c r, A c r → B c r) : p.Met serve B w := by
  induction p generalizing w with
  | pure a => trivial
  | ask c next ih => exact ⟨hAB _ _ h.1, ih _ h.2⟩

theorem Met.and {p : Program Call Reply α} {w : W} (hA : p.Met serve A w) (hB : p.Met serve B w) :
    p.Met serve (fun c r => A c r ∧ B c r) w := by
  induction p generalizing w with
  | pure a => trivial
  | ask c next ih => exact ⟨⟨hA.1, hB.1⟩, ih _ hA.2 hB.2⟩

/-- Replies are as assumed when an invariant of the state says so. -/
theorem met_of_invariant {I : W → Prop}
    (hI : ∀ c w, I w → A c (serve c w).1 ∧ I (serve c w).2) (p : Program Call Reply α) {w : W}
    (hw : I w) : p.Met serve A w := by
  induction p generalizing w with
  | pure a => trivial
  | ask c next ih => exact ⟨(hI c w hw).1, ih _ (hI c w hw).2⟩

/-- What every reply is, the replies of a run are. -/
theorem met_of_forall (hA : ∀ c r, A c r) (p : Program Call Reply α) (w : W) :
    p.Met serve A w :=
  met_of_invariant (I := fun _ => True) (fun _ _ _ => ⟨hA _ _, trivial⟩) p trivial

/-- Replies are as assumed when all calls that are made are of a kind that is answered so as long as
an invariant of the state holds, and keeps it. -/
theorem met_of_calls_invariant {C : Call → Prop} {I : W → Prop}
    (hI : ∀ c w, C c → I w → A c (serve c w).1 ∧ I (serve c w).2) (p : Program Call Reply α) {w : W}
    (hw : I w) (h : ∀ c ∈ p.calls serve w, C c) : p.Met serve A w := by
  induction p generalizing w with
  | pure a => trivial
  | ask c next ih =>
    obtain ⟨hfirst, hnext⟩ := hI c w (h c List.mem_cons_self) hw
    exact ⟨hfirst, ih _ hnext fun d hd => h d (List.mem_cons_of_mem c hd)⟩

/-- Replies are as assumed when all calls that are made are of a kind that is always answered so. -/
theorem met_of_calls {C : Call → Prop} (hC : ∀ c w, C c → A c (serve c w).1)
    (p : Program Call Reply α) {w : W} (h : ∀ c ∈ p.calls serve w, C c) : p.Met serve A w :=
  met_of_calls_invariant (I := fun _ => True) (fun c w hc _ => ⟨hC c w hc, trivial⟩) p trivial h

/-- Two runs go the same way as long as their states are related, where related states give calls
of the program the same replies and stay related. -/
theorem Along.run_related {C : Call → Prop} {R : W → W → Prop}
    (hR : ∀ c, C c → ∀ v w, R v w →
      (serve c v).1 = (serve c w).1 ∧ R (serve c v).2 (serve c w).2)
    {p : Program Call Reply α} (hp : p.Along (fun _ _ => True) fun cs _ => ∀ c ∈ cs, C c) {v w : W}
    (h : R v w) :
    (p.run serve v).1 = (p.run serve w).1 ∧ p.calls serve v = p.calls serve w ∧
      R (p.run serve v).2 (p.run serve w).2 := by
  induction p generalizing v w with
  | pure a => exact ⟨rfl, rfl, h⟩
  | ask c next ih =>
    have hmet : (ask c next).Met serve (fun _ _ => True) v := met_of_forall (fun _ _ => trivial) _ v
    have hc : C c := hp.run hmet c List.mem_cons_self
    obtain ⟨hreply, hrelated⟩ := hR c hc v w h
    have hrest : ∀ r, (next r).Along (fun _ _ => True) fun cs _ => ∀ c ∈ cs, C c := fun r =>
      Along.mono (hp r trivial) fun cs _ hcs d hd => hcs d (List.mem_cons_of_mem c hd)
    obtain ⟨hresult, hcalls, hafter⟩ := ih (serve c v).1 (hrest _) hrelated
    simp only [Program.run, calls, ← hreply]
    exact ⟨hresult, congrArg (c :: ·) hcalls, hafter⟩

theorem met_bind {p : Program Call Reply α} {f : α → Program Call Reply β} {w : W} :
    (p.bind f).Met serve A w ↔
      p.Met serve A w ∧ (f (p.run serve w).1).Met serve A (p.run serve w).2 := by
  induction p generalizing w with
  | pure a => simp [bind, Met, Program.run]
  | ask c next ih => simp only [bind, Met, ih, and_assoc, Program.run]

-- From here on ways are followed by the laws above; unfolding would run the program.
attribute [irreducible] Along Met

end Program
end OrderDesk
