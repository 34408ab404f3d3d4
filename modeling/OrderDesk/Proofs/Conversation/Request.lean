import OrderDesk.Conversation.Dispatch
import OrderDesk.Proofs.Program.Along

/-!
# Requests

Dealing with an event has two parts.  `Desk.understand` finds out what the event asks for; it looks
at nothing but the event, the keyboards and the customer's step, and may refuse.  `Desk.fulfil`
carries a request out.  After the sender has been looked up, a dispatch is the one after the other
(`dispatch_eq`).  A request that is bound to a step is only understood from a customer in that step
(`step_of_understand`), and an action only from a press of a button that stands for it
(`press_of_understand`).
-/

namespace OrderDesk

/-- The step that a kind of free text answers. -/
def Input.step : Input → Step
  | size => .size
  | price => .price
  | link => .link
  | calculatorAmount => .calculatorAmount
  | fullName => .fullName
  | phoneNumber => .phoneNumber
  | deliveryAddress => .deliveryAddress

theorem Step.input?_eq_some_iff {s : Step} {i : Input} : s.input? = some i ↔ s = i.step := by
  cases s <;> cases i <;> decide

namespace Desk

/-- What a customer asks for. -/
inductive Request where
  | command (k : Command)
  | answer (i : Input) (text : String)
  /-- The action behind a button, with what the button carries and the message it stands under. -/
  | press (a : Action) (data : ButtonData) (message : Option Int32)

/-- The step that a request is bound to, if it is. -/
def Request.step? : Request → Option Step
  | command _ => none
  | answer i _ => some i.step
  | press a _ _ => a.requiredStep?

variable (desk : Desk)

/-- The action behind a button, for a customer in the step that the button is bound to. -/
def understandPress (c : Customer) (raw : String) (message : Option Int32) :
    Except Failure Request :=
  match ButtonData.decode raw with
  | .error e => .error (.callback e)
  | .ok data => match actionOf data.code with
    | .error e => .error (.callback e)
    | .ok action => match action.requiredStep? with
      | none => .ok (.press action data message)
      | some s =>
        if c.step = s then .ok (.press action data message) else .error (.wrongStep s c.step)

/-- What an event asks for. -/
def understand (c : Customer) : Chat.Event → Except Failure Request
  | .text _ _ text =>
    match Command.ofText? desk.keyboards text with
    | some k => .ok (.command k)
    | none => match c.step.input? with
      | some i => .ok (.answer i text)
      | none => .error .noHandler
  | .press _ _ message raw => understandPress c raw message

/-- Carries a request out. -/
def fulfil (chat : Int64) (c : Customer) : Request → Turn Unit
  | .command k => desk.obey chat c k
  | .answer i text => desk.take chat c text i
  | .press a data message => desk.act chat c data message a

/-- Answers an event of a customer whose record is known. -/
def respond (c : Customer) (event : Chat.Event) : Turn Unit := do
  let q ← Turn.ofExcept id (desk.understand c event)
  desk.fulfil event.chat c q

/-- What is understood is carried out. -/
theorem respond_of_understand {c : Customer} {event : Chat.Event} {q : Request}
    (h : desk.understand c event = .ok q) : desk.respond c event = desk.fulfil event.chat c q := by
  rw [respond, h]
  exact pure_bind _ _

theorem onText_eq (chat : Int64) (sender : Chat.Sender) (c : Customer) (text : String) :
    desk.onText chat c text = desk.respond c (.text chat sender text) := by
  simp only [onText, respond, understand]
  cases Command.ofText? desk.keyboards text with
  | some k => rfl
  | none => cases c.step.input? <;> rfl

theorem onPress_eq (chat : Int64) (sender : Chat.Sender) (c : Customer) (raw : String)
    (message : Option Int32) :
    desk.onPress chat c raw message = desk.respond c (.press chat sender message raw) := by
  simp only [onPress, respond, understand, understandPress]
  cases ButtonData.decode raw with
  | error e => rfl
  | ok data =>
    simp only [Turn.ofExcept, pure_bind]
    cases actionOf data.code with
    | error e => rfl
    | ok action =>
      simp only [pure_bind]
      cases action.requiredStep? with
      | none => rfl
      | some s =>
        simp only [Turn.expect]
        split <;> rfl

/-- A dispatch looks the sender up and answers. -/
theorem dispatch_eq (event : Chat.Event) :
    desk.dispatch event = loadCustomer event.sender >>= fun c => desk.respond c event := by
  unfold dispatch
  cases event with
  | text chat sender text => simp only [onText_eq desk chat sender, Chat.Event.sender]
  | press chat sender message raw =>
    simp only [fun c => onPress_eq desk chat sender c raw message, Chat.Event.sender]

/-- A request that is bound to a step is only understood from a customer in that step. -/
theorem step_of_understand {c : Customer} {event : Chat.Event} {q : Request}
    (h : desk.understand c event = .ok q) {s : Step} (hs : q.step? = some s) : c.step = s := by
  cases event with
  | text chat sender text =>
    simp only [understand] at h
    split at h
    · cases h
      simp [Request.step?] at hs
    · split at h
      · rename_i i hi
        cases h
        obtain rfl : i.step = s := by simpa [Request.step?] using hs
        exact Step.input?_eq_some_iff.1 hi
      · cases h
  | press chat sender message raw =>
    simp only [understand, understandPress] at h
    split at h
    · cases h
    · split at h
      · cases h
      · split at h
        · rename_i hnone
          cases h
          simp [Request.step?, hnone] at hs
        · rename_i s' hsome
          split at h
          · rename_i hstep
            cases h
            obtain rfl : s' = s := by simpa [Request.step?, hsome] using hs
            exact hstep
          · cases h

section Press

variable {desk : Desk} {c : Customer} {chat : Int64} {sender : Chat.Sender}
  {message : Option Int32} {raw : String} {data : ButtonData} {a : Action}

/-- A press of a button is understood unless its action is bound to another step. -/
theorem understand_press (hdecode : ButtonData.decode raw = .ok data)
    (hcode : Action.ofCode? data.code = some a)
    (hstep : ∀ s, a.requiredStep? = some s → c.step = s) :
    desk.understand c (.press chat sender message raw) = .ok (.press a data message) := by
  have haction : actionOf data.code = .ok a := by rw [actionOf, hcode]
  simp only [understand, understandPress, hdecode, haction]
  cases hs : a.requiredStep? with
  | none => rfl
  | some s => exact if_pos (hstep s hs)

theorem respond_press (hdecode : ButtonData.decode raw = .ok data)
    (hcode : Action.ofCode? data.code = some a)
    (hstep : ∀ s, a.requiredStep? = some s → c.step = s) :
    desk.respond c (.press chat sender message raw) = desk.act chat c data message a :=
  desk.respond_of_understand (understand_press hdecode hcode hstep)

end Press

section Answer

variable {c : Customer} {chat : Int64} {sender : Chat.Sender} {text : String} {i : Input}

/-- In a step that is answered with free text, a text that is no command is the answer. -/
theorem understand_answer (htext : Command.ofText? desk.keyboards text = none)
    (hstep : c.step = i.step) :
    desk.understand c (.text chat sender text) = .ok (.answer i text) := by
  simp only [understand, htext, Step.input?_eq_some_iff.2 hstep]

/-- The answer is taken. -/
theorem respond_answer (htext : Command.ofText? desk.keyboards text = none)
    (hstep : c.step = i.step) :
    desk.respond c (.text chat sender text) = desk.take chat c text i :=
  desk.respond_of_understand (understand_answer desk htext hstep)

end Answer

/-- An action is only understood from a press of a button that stands for it. -/
theorem press_of_understand {c : Customer} {event : Chat.Event} {a : Action} {data : ButtonData}
    {message : Option Int32} (h : desk.understand c event = .ok (.press a data message)) :
    ∃ raw, event = .press event.chat event.sender message raw ∧ ButtonData.decode raw = .ok data ∧
      Action.ofCode? data.code = some a := by
  cases event with
  | text chat sender text =>
    simp only [understand] at h
    split at h
    · cases h
    · split at h <;> cases h
  | press chat sender message' raw =>
    simp only [understand, understandPress] at h
    split at h
    · cases h
    · rename_i data' hdecode
      split at h
      · cases h
      · rename_i action haction
        have hcode : Action.ofCode? data'.code = some action := by
          unfold actionOf at haction
          split at haction
          · rename_i hcode
            exact Except.ok.inj haction ▸ hcode
          · cases haction
        split at h
        · cases h
          exact ⟨raw, rfl, hdecode, hcode⟩
        · split at h
          · cases h
            exact ⟨raw, rfl, hdecode, hcode⟩
          · cases h

end Desk

end OrderDesk
