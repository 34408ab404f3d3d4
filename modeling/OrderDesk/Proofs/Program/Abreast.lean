import Mathlib.Logic.Function.Basic
import OrderDesk.Proofs.Program.Onlooker

/-!
# Programs that go on at the same time

Several programs share one state, and their calls fall between each other in any order.  A schedule
says whose turn it is to make the next call, one call after another; what has happened is kept as a
list of exchanges.  An onlooker of one of the programs, who notes that program's calls only, is never
misled by the others (`watched_after`), and what a call does to the state, a schedule does call by
call (`after_invariant`).
-/

namespace OrderDesk

/-- A call that was made, with its reply and the one who made it. -/
structure Exchange (ι Call : Type) (Reply : Call → Type) where
  who : ι
  call : Call
  reply : Reply call

/-- Programs that go on at the same time. -/
structure Abreast (ι Call : Type) (Reply : Call → Type) (α W : Type) where
  /-- What is left of each program. -/
  rest : ι → Program Call Reply α
  /-- The state they share. -/
  world : W
  /-- What has happened, oldest first. -/
  history : List (Exchange ι Call Reply)

namespace Abreast

variable {ι Call : Type} {Reply : Call → Type} {α G W : Type} [DecidableEq ι]

/-- Nothing has happened. -/
def start (programs : ι → Program Call Reply α) (w : W) : Abreast ι Call Reply α W :=
  ⟨programs, w, []⟩

section Steps

variable (serve : (c : Call) → W → Reply c × W)

/-- One of the programs makes its next call, if there is one left. -/
def step (s : Abreast ι Call Reply α W) (i : ι) : Abreast ι Call Reply α W :=
  match s.rest i with
  | .pure _ => s
  | .ask c next =>
    { rest := Function.update s.rest i (next (serve c s.world).1)
      world := (serve c s.world).2
      history := s.history ++ [⟨i, c, (serve c s.world).1⟩] }

/-- The calls are made as the schedule says. -/
def after (s : Abreast ι Call Reply α W) (schedule : List ι) : Abreast ι Call Reply α W :=
  schedule.foldl (step serve) s

end Steps

/-- The notes of an onlooker of one program. -/
def notes (o : Onlooker Call Reply G) (i : ι) (history : List (Exchange ι Call Reply)) (g : G) : G :=
  history.foldl (fun g m => if m.who = i then o.note g m.call m.reply else g) g

variable {serve : (c : Call) → W → Reply c × W} {s : Abreast ι Call Reply α W}

variable (serve) in
/-- A step does nothing, or makes a call. -/
theorem step_cases (s : Abreast ι Call Reply α W) (i : ι) :
    s.step serve i = s ∨
      ∃ c next, s.rest i = .ask c next ∧
        (s.step serve i).rest = Function.update s.rest i (next (serve c s.world).1) ∧
        (s.step serve i).world = (serve c s.world).2 ∧
        (s.step serve i).history = s.history ++ [⟨i, c, (serve c s.world).1⟩] := by
  unfold step
  cases hrest : s.rest i with
  | pure a => exact .inl rfl
  | ask c next => exact .inr ⟨c, next, rfl, rfl, rfl, rfl⟩

/-- What every step keeps, a schedule keeps. -/
theorem after_invariant {J : Abreast ι Call Reply α W → Prop}
    (h : ∀ s i, J s → J (s.step serve i)) (hs : J s) (schedule : List ι) :
    J (s.after serve schedule) :=
  List.foldlRecOn schedule (step serve) hs fun t ht i _ => h t i ht

/-- Each program is watched although the calls of others fall between its own. -/
theorem watched_after {o : Onlooker Call Reply G} {I : G → Prop} {Q : G → α → Prop} {g : ι → G}
    (ho : ∀ g c r, o.Expects g c r) {programs : ι → Program Call Reply α}
    (h : ∀ i, (programs i).Watched o I Q (g i)) (w : W) (schedule : List ι) (i : ι) :
    (((start programs w).after serve schedule).rest i).Watched o I Q
      (notes o i ((start programs w).after serve schedule).history (g i)) := by
  refine after_invariant (J := fun s : Abreast ι Call Reply α W =>
    ∀ i, (s.rest i).Watched o I Q (notes o i s.history (g i))) (fun s j hs i => ?_) h schedule i
  rcases s.step_cases serve j with hsame | ⟨c, next, hask, hrest, -, hhistory⟩
  · rw [hsame]
    exact hs i
  · have hnotes : notes o i (s.step serve j).history (g i) =
        if j = i then o.note (notes o i s.history (g i)) c (serve c s.world).1
        else notes o i s.history (g i) := by
      rw [hhistory, notes, List.foldl_append]
      rfl
    rw [hnotes, hrest]
    by_cases hji : j = i
    · subst hji
      have hwatched := hs j
      rw [hask] at hwatched
      rw [if_pos rfl, Function.update_self]
      exact hwatched.next (ho _ _ _)
    · rw [if_neg hji, Function.update_of_ne (Ne.symm hji)]
      exact hs i

end Abreast
end OrderDesk
