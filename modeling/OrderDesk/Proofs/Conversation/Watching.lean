import OrderDesk.Proofs.Conversation.Confinement
import OrderDesk.Proofs.Program.Onlooker

/-!
# Turns that are watched

The rules by which an onlooker follows a turn (`Program.Watched`) along its text.  A turn ends with a
value or in a failure, so there is one property for each; `I` holds at every moment between.
-/

namespace OrderDesk

/-- Every call can be replied to. -/
instance (c : Desk.Call) : Nonempty c.Reply := by
  cases c with
  | store c => exact ⟨Except.error (.customerNotFound 0)⟩
  | chat c => exact ⟨Except.error (.request "")⟩
  | rate => exact ⟨Except.error (.rateUnavailable "")⟩
  | shelf => exact ⟨⟨[]⟩⟩
  | newId => exact ⟨Uuid.ofNat 0⟩
  | now => exact ⟨⟨0, 0⟩⟩

namespace Turn

variable {α β G : Type}

/-- As long as replies are as expected, `I` holds of the notes at every moment; `P` holds of the last
notes and the value if the turn gives one, and `E` of the last notes if it fails. -/
def Watched (o : Onlooker Desk.Call Desk.Call.Reply G) (I E : G → Prop) (t : Turn α)
    (P : G → α → Prop) (g : G) : Prop :=
  t.run.Watched o I (fun g r => match r with | .ok a => P g a | .error _ => E g) g

variable {o : Onlooker Desk.Call Desk.Call.Reply G} {I E J : G → Prop} {P : G → α → Prop}
  {Q : G → β → Prop} {t : Turn α} {f : α → Turn β} {g : G}

theorem watched_pure {a : α} (hI : I g) (h : P g a) : (pure a : Turn α).Watched o I E P g :=
  Program.watched_pure hI h

theorem watched_throw {e : Failure} (hI : I g) (h : E g) :
    (throw e : Turn α).Watched o I E P g := Program.watched_pure hI h

theorem watched_ofExcept {ε : Type} {wrap : ε → Failure} {x : Except ε α} (hI : I g)
    (hok : ∀ a, x = .ok a → P g a) (herror : ∀ e, x = .error e → E g) :
    (ofExcept wrap x).Watched o I E P g := by
  cases x with
  | error e => exact watched_throw hI (herror e rfl)
  | ok a => exact watched_pure hI (hok a rfl)

theorem watched_ask {c : Desk.Call} {P : G → c.Reply → Prop} (hI : I g)
    (h : ∀ r, o.Expects g c r → I (o.note g c r) ∧ P (o.note g c r) r) :
    (ask c).Watched o I E P g :=
  Program.watched_ask hI fun r hr => Program.watched_pure (h r hr).1 (h r hr).2

theorem Watched.bind (h : t.Watched o I E P g) (hf : ∀ g a, P g a → (f a).Watched o I E Q g) :
    (t >>= f).Watched o I E Q g := by
  unfold Watched
  rw [ExceptT.run_bind, Program.bind_eq]
  refine Program.Watched.bind (Program.Watched.mono h fun g r hI hr => ?_)
  cases r with
  | error e => exact Program.watched_pure hI hr
  | ok a => exact hf g a hr

theorem Watched.mono {R : G → α → Prop} (h : t.Watched o I E P g)
    (hPR : ∀ g a, P g a → R g a) : t.Watched o I E R g := by
  refine Program.Watched.mono h fun g r _ hr => ?_
  cases r with
  | error e => exact hr
  | ok a => exact hPR g a hr

/-- A call to the store, which may be answered with an error. -/
theorem watched_store {c : Store.Call} {P : G → c.Value → Prop} (hI : I g)
    (h : ∀ r, o.Expects g (.store c) r → I (o.note g (.store c) r) ∧
      (∀ v, r = Except.ok v → P (o.note g (.store c) r) v) ∧
        ∀ e, r = Except.error e → E (o.note g (.store c) r)) :
    (store c).Watched o I E P g := by
  refine (watched_ask (P := fun g' r => I g' ∧ (∀ v, r = Except.ok v → P g' v) ∧
    ∀ e, r = Except.error e → E g') hI fun r hr => ⟨(h r hr).1, h r hr⟩).bind ?_
  exact fun g' r hr => watched_ofExcept hr.1 hr.2.1 hr.2.2

/-- A call to the chat, which may be answered with an error. -/
theorem watched_chat {c : Chat.Call} {P : G → c.Value → Prop} (hI : I g)
    (h : ∀ r, o.Expects g (.chat c) r → I (o.note g (.chat c) r) ∧
      (∀ v, r = Except.ok v → P (o.note g (.chat c) r) v) ∧
        ∀ e, r = Except.error e → E (o.note g (.chat c) r)) :
    (chat c).Watched o I E P g := by
  refine (watched_ask (P := fun g' r => I g' ∧ (∀ v, r = Except.ok v → P g' v) ∧
    ∀ e, r = Except.error e → E g') hI fun r hr => ⟨(h r hr).1, h r hr⟩).bind ?_
  exact fun g' r hr => watched_ofExcept hr.1 hr.2.1 hr.2.2

/-- A turn keeps what all its calls keep. -/
theorem Asks.watched {B : Desk.Call → Prop} (ht : t.Asks B) (hJI : ∀ g, J g → I g)
    (hJE : ∀ g, J g → E g)
    (hJ : ∀ g c r, B c → J g → o.Expects g c r → J (o.note g c r)) (hg : J g) :
    t.Watched o I E (fun g _ => J g) g := by
  refine (Program.Along.watched hJI hJ ht hg).mono fun g r _ hr => ?_
  cases r with
  | error e => exact hJE g hr
  | ok a => exact hr

end Turn
end OrderDesk
