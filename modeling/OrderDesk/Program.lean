/-!
# Programs that ask

A program computes a result from the replies to calls it makes one after another.  Which replies a
call can have depends on the call.  The conversation and the stores are written as such programs,
and everything outside them is a function that serves calls.
-/

namespace OrderDesk

/-- A program whose calls `c` are answered with a `Reply c`. -/
inductive Program (Call : Type) (Reply : Call → Type) (α : Type) where
  /-- The result is known. -/
  | pure (a : α)
  /-- Makes a call and goes on with the reply. -/
  | ask (c : Call) (next : Reply c → Program Call Reply α)

namespace Program

variable {Call : Type} {Reply : Call → Type} {α β : Type}

/-- One program after the other. -/
def bind : Program Call Reply α → (α → Program Call Reply β) → Program Call Reply β
  | pure a, f => f a
  | ask c next, f => ask c fun r => (next r).bind f

instance : Monad (Program Call Reply) where
  pure := pure
  bind := bind

/-- A single call. -/
def call (c : Call) : Program Call Reply (Reply c) := ask c pure

/-! ## Running -/

/-- Runs a program against a state that serves every call. -/
def run {W : Type} (serve : (c : Call) → W → Reply c × W) : Program Call Reply α → W → α × W
  | pure a, w => (a, w)
  | ask c next, w => (next (serve c w).1).run serve (serve c w).2

/-- Runs at most the first `n` calls of a program; the state then, and the result if there is one.
-/
def runFor {W : Type} (serve : (c : Call) → W → Reply c × W) :
    Nat → Program Call Reply α → W → Option α × W
  | _, pure a, w => (some a, w)
  | 0, ask _ _, w => (none, w)
  | n + 1, ask c next, w => (next (serve c w).1).runFor serve n (serve c w).2

/-- What becomes of a call that need not be answered. -/
inductive Served (ρ : Type) where
  /-- It is answered. -/
  | reply (r : ρ)
  /-- It is never answered. -/
  | silence
  /-- It brings the caller down. -/
  | crash

/-- What becomes of a program some call of which need not be answered. -/
inductive Outcome (α : Type) where
  /-- It ends with a result. -/
  | finished (a : α)
  /-- It waits for ever. -/
  | waiting
  /-- It is brought down. -/
  | crashed

/-- Runs a program against a state that may leave calls unanswered. -/
def attempt {W : Type} (serve : (c : Call) → W → Served (Reply c) × W) :
    Program Call Reply α → W → Outcome α × W
  | pure a, w => (.finished a, w)
  | ask c next, w =>
    match serve c w with
    | (.reply r, w) => (next r).attempt serve w
    | (.silence, w) => (.waiting, w)
    | (.crash, w) => (.crashed, w)

end Program

end OrderDesk
