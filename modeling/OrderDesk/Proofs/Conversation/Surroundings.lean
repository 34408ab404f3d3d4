import OrderDesk.Proofs.Conversation.Handlers

/-!
# A dispatch against a store in memory

Whatever else surrounds the desk, what a dispatch leaves in a store in memory can be read off its
writes. `Surroundings` are anything that answers the calls of a turn and has such a store inside;
the chat, the rate, the shelf, the clock and the sources of identifiers may answer as they like.

A dispatch first looks the sender up: afterwards the sender's record is `Memory.guest`, and the
store is `Memory.welcome`, which differs from the store before only for a sender who was not known.
The rest of the dispatch writes one deed of that customer (`writes_dispatch`), and the store at the
end is the store that these writes leave (`memory_dispatch`).
-/

namespace OrderDesk

open Desk (Call Sources Keeping Deed writes)

/-! ## The store that knows the sender -/

namespace Store.Memory

variable {m : Memory} {sender : Chat.Sender} {x : Customer}

/-- The record of a sender: the one kept, or a fresh one. -/
def guest (m : Memory) (sender : Chat.Sender) : Customer :=
  (m.customer? sender.id).getD
    (.fresh sender.id (chatName sender.firstName sender.lastName sender.username))

/-- What is written when a sender is looked up. -/
def greeting (m : Memory) (sender : Chat.Sender) : List Store.Call :=
  match m.customer? sender.id with
  | some _ => []
  | none => [.saveCustomer (m.guest sender)]

/-- The store after a sender has been looked up. -/
def welcome (m : Memory) (sender : Chat.Sender) : Memory :=
  match m.customer? sender.id with
  | some _ => m
  | none => m.putCustomer (m.guest sender)

theorem foldl_greeting (m : Memory) (sender : Chat.Sender) :
    (m.greeting sender).foldl after m = m.welcome sender := by
  unfold greeting welcome
  split <;> rfl

theorem guest_id (m : Memory) (sender : Chat.Sender) : (m.guest sender).id = sender.id := by
  unfold guest
  cases hc : m.customer? sender.id with
  | none => rfl
  | some c => exact customer?_id hc

/-- Every sender is known once looked up. -/
theorem customer?_welcome (m : Memory) (sender : Chat.Sender) :
    (m.welcome sender).customer? (m.guest sender).id = some (m.guest sender) := by
  unfold welcome
  split
  · rename_i c hc
    rw [guest_id, hc, guest, hc, Option.getD_some]
  · exact customer?_putCustomer m _

@[simp] theorem welcome_orders (m : Memory) (sender : Chat.Sender) :
    (m.welcome sender).orders = m.orders := by
  unfold welcome
  split <;> simp

@[simp] theorem welcome_items (m : Memory) (sender : Chat.Sender) :
    (m.welcome sender).items = m.items := by
  unfold welcome
  split <;> simp

theorem mem_welcome (h : x ∈ (m.welcome sender).customers) :
    x ∈ m.customers ∨ ∃ username, x = .fresh sender.id username := by
  unfold welcome at h
  split at h
  · exact .inl h
  · rename_i hnone
    rcases mem_putCustomer h with rfl | ⟨hx, -⟩
    · exact .inr ⟨_, by rw [guest, hnone]; rfl⟩
    · exact .inl hx

theorem Keyed.welcome (h : m.Keyed) (sender : Chat.Sender) : (m.welcome sender).Keyed := by
  unfold Memory.welcome
  split
  · exact h
  · exact h.putCustomer _

/-- A sender who is in the middle of the conversation is known. -/
theorem greeting_of_step (h : (m.guest sender).step ≠ .idle) : m.greeting sender = [] := by
  unfold greeting
  split
  · rfl
  · rename_i hnone
    rw [guest, hnone] at h
    exact absurd rfl h

theorem welcome_of_step (h : (m.guest sender).step ≠ .idle) : m.welcome sender = m := by
  rw [← foldl_greeting, greeting_of_step h, List.foldl_nil]

end Store.Memory

open Store (Memory)

namespace Desk

/-- The store after a call of a turn. -/
def Call.effect (m : Memory) : Call → Memory
  | store c => m.after c
  | _ => m

/-- Only writes have an effect. -/
theorem foldl_effect (cs : List Call) (m : Memory) :
    cs.foldl Call.effect m = (writes cs).foldl Memory.after m := by
  induction cs generalizing m with
  | nil => rfl
  | cons c cs ih =>
    rw [List.foldl_cons, ih]
    cases hc : c.write? with
    | some d =>
      rw [writes_cons_of_some hc, List.foldl_cons]
      cases c with
      | store c => rw [Call.effect, Memory.after_write? hc]
      | _ => simp [Call.write?] at hc
    | none =>
      rw [writes_cons_of_none hc]
      cases c with
      | store c => rw [Call.effect, Memory.after_of_reads hc]
      | _ => rfl

end Desk

/-! ## Surroundings -/

/-- Anything that answers the calls of a turn and keeps a store in memory. -/
structure Surroundings (W : Type) where
  serve : (c : Call) → W → c.Reply × W
  /-- The store. -/
  memory : W → Memory
  /-- Only calls to the store change it. -/
  memory_serve : ∀ c w, memory (serve c w).2 = c.effect (memory w)
  /-- The store answers the calls to it, with some candidates for short identifiers. -/
  reply : ∀ c w, ∃ next drawn, (serve (.store c) w).1 = ((memory w).serve next drawn c).1

namespace Surroundings

variable {W α β : Type} (S : Surroundings W) {desk : Desk} {σ : Sources}
  {event : Chat.Event} {w : W}

/-- Carries a turn out. -/
def run (t : Turn α) (w : W) : Except Failure α × W := t.run.run S.serve w

/-- The calls of a turn. -/
def calls (t : Turn α) (w : W) : List Call := t.run.calls S.serve w

/-- The world after events, dispatched one after another. -/
def after (desk : Desk) (w : W) (events : List Chat.Event) : W :=
  events.foldl (fun w event => (S.run (desk.dispatch event) w).2) w

/-- The world after at most the first `n` calls of a turn. -/
def cutAfter (n : Nat) (t : Turn α) (w : W) : W := (t.run.runFor S.serve n w).2

theorem memory_run (t : Turn α) (w : W) :
    S.memory (S.run t w).2 = (writes (S.calls t w)).foldl Memory.after (S.memory w) := by
  rw [← Desk.foldl_effect]
  exact Program.view_run (fun c v => S.memory_serve c v) t.run w

/-- No turn keeps a customer twice. -/
theorem keyed_run (t : Turn α) (h : (S.memory w).Keyed) : (S.memory (S.run t w).2).Keyed := by
  rw [memory_run]
  exact List.foldlRecOn _ _ h fun m hm c _ => hm.after c

theorem memory_cutAfter (n : Nat) (t : Turn α) (w : W) :
    S.memory (S.cutAfter n t w) =
      (writes ((S.calls t w).take n)).foldl Memory.after (S.memory w) := by
  rw [← Desk.foldl_effect]
  exact Program.view_runFor (fun c v => S.memory_serve c v) t.run w n

section Sequence

variable {t : Turn α} {f : α → Turn β} {a : α}

theorem run_bind (h : (S.run t w).1 = .ok a) : S.run (t >>= f) w = S.run (f a) (S.run t w).2 := by
  rw [run] at h
  rw [run, Program.run_run_bind, h]
  rfl

theorem calls_bind (h : (S.run t w).1 = .ok a) :
    S.calls (t >>= f) w = S.calls t w ++ S.calls (f a) (S.run t w).2 := by
  rw [run] at h
  rw [calls, Program.calls_run_bind, h]
  rfl

theorem run_bind_of_error {e : Failure} (h : (S.run t w).1 = .error e) :
    S.run (t >>= f) w = (.error e, (S.run t w).2) := by
  rw [run] at h
  rw [run, Program.run_run_bind, h]
  rfl

theorem calls_bind_of_error {e : Failure} (h : (S.run t w).1 = .error e) :
    S.calls (t >>= f) w = S.calls t w := by
  rw [run] at h
  rw [calls, Program.calls_run_bind, h]
  exact List.append_nil _

theorem met_bind {A : (c : Call) → c.Reply → Prop} (h : (S.run t w).1 = .ok a)
    (hA : (t >>= f).run.Met S.serve A w) : (f a).run.Met S.serve A (S.run t w).2 := by
  rw [ExceptT.run_bind, Program.bind_eq, Program.met_bind] at hA
  rw [run] at h
  rw [h] at hA
  exact hA.2

end Sequence

theorem run_store {c : Store.Call} {v : c.Value} (h : (S.serve (.store c) w).1 = Except.ok v) :
    (S.run (Turn.store c) w).1 = .ok v := by
  have hask : (S.run (Turn.ask (.store c)) w).1 = .ok (S.serve (.store c) w).1 := rfl
  rw [Turn.store, S.run_bind hask, h]
  rfl

theorem calls_store (c : Store.Call) (w : W) : S.calls (Turn.store c) w = [.store c] := by
  have hask : (S.run (Turn.ask (.store c)) w).1 = .ok (S.serve (.store c) w).1 := rfl
  rw [Turn.store, S.calls_bind hask]
  cases (S.serve (.store c) w).1 <;> rfl

/-- What a reply is wherever the customer is kept, the replies to a turn of that customer are. -/
theorem met_kept {A : (c : Call) → c.Reply → Prop} {id : Int64}
    (hA : ∀ c v, ((S.memory v).customer? id).isSome → A c (S.serve c v).1) (t : Turn α)
    (h : ((S.memory w).customer? id).isSome) : t.run.Met S.serve A w := by
  -- customers are never lost, so the customer is found at every point of the turn
  refine Program.met_of_invariant (I := fun v => ((S.memory v).customer? id).isSome)
    (fun c v hv => ⟨hA c v hv, ?_⟩) t.run h
  rw [S.memory_serve]
  cases c with
  | store c => exact Memory.customer?_after hv c
  | _ => exact hv

theorem met_keeping {id : Int64} (t : Turn α) (h : ((S.memory w).customer? id).isSome) :
    t.run.Met S.serve (Keeping id) w := by
  refine S.met_kept (fun c v hv => ?_) t h
  cases c with
  | store c =>
    obtain ⟨next, drawn, hreply⟩ := S.reply c v
    cases c with
    | updateCustomer id' u =>
      rintro rfl
      rw [hreply]
      exact Memory.serve_updateCustomer hv next drawn u
    | saveOrder o => exact hreply
    | order shortId =>
      intro o ho
      rw [hreply] at ho
      exact Memory.serve_order ho
    | _ => trivial
  | _ => trivial

theorem met_any (t : Turn α) (w : W) : t.run.Met S.serve Sources.any.Gives w :=
  Program.met_of_forall (fun c _ => by cases c <;> trivial) t.run w

/-! ## Looking the sender up -/

theorem run_load (sender : Chat.Sender) (w : W) :
    (S.run (Desk.loadCustomer sender) w).1 = .ok ((S.memory w).guest sender) ∧
      writes (S.calls (Desk.loadCustomer sender) w) = (S.memory w).greeting sender := by
  obtain ⟨next, drawn, hreply⟩ := S.reply (.customer sender.id) w
  have hask : (S.run (Turn.ask (.store (.customer sender.id))) w).1 =
      .ok (S.serve (.store (.customer sender.id)) w).1 := rfl
  rw [Desk.loadCustomer, S.run_bind hask, S.calls_bind hask, hreply, Memory.greeting, Memory.serve]
  cases hc : (S.memory w).customer? sender.id with
  | some c => exact ⟨by rw [Memory.guest, hc]; rfl, rfl⟩
  | none =>
    have hsave : ∀ c v, (S.run (Turn.store (.saveCustomer c)) v).1 = .ok () := fun c v => by
      obtain ⟨next, drawn, hreply⟩ := S.reply (.saveCustomer c) v
      exact S.run_store hreply
    dsimp only
    rw [S.run_bind (hsave _ _), S.calls_bind (hsave _ _), S.calls_store, Memory.guest, hc]
    exact ⟨rfl, rfl⟩

/-- Of a sender who is kept nothing but the record is asked for. -/
theorem calls_load {sender : Chat.Sender} {c : Customer}
    (hc : (S.memory w).customer? sender.id = some c) :
    S.calls (Desk.loadCustomer sender) w = [.store (.customer sender.id)] := by
  obtain ⟨next, drawn, hreply⟩ := S.reply (.customer sender.id) w
  have hask : (S.run (Turn.ask (.store (.customer sender.id))) w).1 =
      .ok (S.serve (.store (.customer sender.id)) w).1 := rfl
  rw [Desk.loadCustomer, S.calls_bind hask, hreply, Memory.serve, hc]
  rfl

theorem memory_load (sender : Chat.Sender) (w : W) :
    S.memory (S.run (Desk.loadCustomer sender) w).2 = (S.memory w).welcome sender := by
  rw [memory_run, (S.run_load sender w).2, Memory.foldl_greeting]

/-! ## Dispatches -/

theorem calls_dispatch (desk : Desk) (event : Chat.Event) (w : W) :
    S.calls (desk.dispatch event) w =
      S.calls (Desk.loadCustomer event.sender) w ++
        S.calls (desk.respond ((S.memory w).guest event.sender) event)
          (S.run (Desk.loadCustomer event.sender) w).2 := by
  rw [Desk.dispatch_eq, S.calls_bind (S.run_load event.sender w).1]

/-- A dispatch of a customer who is kept asks for the record and answers the event out of the same
store. -/
theorem dispatch_recalled {c : Customer} (desk : Desk) (event : Chat.Event)
    (hc : (S.memory w).customer? event.sender.id = some c) :
    ∃ v, S.memory v = S.memory w ∧
      S.run (desk.dispatch event) w = S.run (desk.respond c event) v ∧
      S.calls (desk.dispatch event) w =
        .store (.customer event.sender.id) :: S.calls (desk.respond c event) v ∧
      ∀ A, (desk.dispatch event).run.Met S.serve A w →
        (desk.respond c event).run.Met S.serve A v := by
  have hguest : (S.memory w).guest event.sender = c := by
    rw [Memory.guest, hc]
    rfl
  have hload := (S.run_load event.sender w).1
  rw [hguest] at hload
  refine ⟨(S.run (Desk.loadCustomer event.sender) w).2, ?_, ?_, ?_, fun A hA => ?_⟩
  · rw [memory_load, Memory.welcome, hc]
  · rw [Desk.dispatch_eq, S.run_bind hload]
  · rw [calls_dispatch, hguest, S.calls_load hc]
    rfl
  · rw [Desk.dispatch_eq] at hA
    exact S.met_bind hload hA

/-- A dispatch of a customer who is kept answers the event out of the same store. -/
theorem dispatch_kept {c : Customer} (desk : Desk) (event : Chat.Event)
    (hc : (S.memory w).customer? event.sender.id = some c) :
    ∃ v, S.memory v = S.memory w ∧
      S.run (desk.dispatch event) w = S.run (desk.respond c event) v ∧
      (∀ call ∈ S.calls (desk.respond c event) v, call ∈ S.calls (desk.dispatch event) w) ∧
      ∀ A, (desk.dispatch event).run.Met S.serve A w →
        (desk.respond c event).run.Met S.serve A v := by
  obtain ⟨v, hv, hrun, hcalls, hmet⟩ := S.dispatch_recalled desk event hc
  refine ⟨v, hv, hrun, fun call hcall => ?_, hmet⟩
  rw [hcalls]
  exact List.mem_cons_of_mem _ hcall

/-- The store after a request of a customer who is kept, if all that carrying it out writes
satisfies `D`. -/
theorem memory_fulfil {A : (c : Call) → c.Reply → Prop} {c : Customer} {q : Desk.Request}
    {D : List Store.Call → Prop} (hask : desk.understand c event = .ok q)
    (hc : (S.memory w).customer? event.sender.id = some c)
    (hwrites : (desk.fulfil event.chat c q).Writes A D)
    (hmet : (desk.dispatch event).run.Met S.serve A w) :
    ∃ ds, D ds ∧ S.memory (S.run (desk.dispatch event) w).2 =
      ds.foldl Memory.after (S.memory w) := by
  obtain ⟨v, hv, hrun, -, hrest⟩ := S.dispatch_recalled desk event hc
  have hfulfil := desk.respond_of_understand hask
  refine ⟨_, (Turn.writes_iff.1 hwrites).run (hfulfil ▸ hrest A hmet), ?_⟩
  rw [hrun, hfulfil, memory_run, hv]
  rfl

/-- After the sender has been looked up, replies are as is known of them. -/
theorem met_dispatch (hσ : (desk.dispatch event).run.Met S.serve σ.Gives w) :
    (desk.respond ((S.memory w).guest event.sender) event).run.Met S.serve
      (σ.Allows ((S.memory w).guest event.sender).id)
      (S.run (Desk.loadCustomer event.sender) w).2 := by
  rw [Desk.dispatch_eq] at hσ
  refine Program.Met.and (S.met_keeping _ ?_) (S.met_bind (S.run_load event.sender w).1 hσ)
  rw [memory_load, Memory.customer?_welcome]
  rfl

/-- A dispatch registers the sender and then writes one deed. -/
theorem writes_dispatch (hσ : (desk.dispatch event).run.Met S.serve σ.Gives w) :
    ∃ ds, writes (S.calls (desk.dispatch event) w) = (S.memory w).greeting event.sender ++ ds ∧
      (ds = [] ∨ ∃ q, desk.understand ((S.memory w).guest event.sender) event = .ok q ∧
        Deed desk σ ((S.memory w).guest event.sender) q ds) := by
  refine ⟨_, ?_, (Turn.writes_iff.1 (Desk.respond_writes _ event)).run (S.met_dispatch hσ)⟩
  rw [calls_dispatch, Desk.writes_append, (S.run_load event.sender w).2]
  rfl

/-- The store after a dispatch. -/
theorem memory_dispatch (hσ : (desk.dispatch event).run.Met S.serve σ.Gives w) :
    ∃ ds, S.memory (S.run (desk.dispatch event) w).2 =
        ds.foldl Memory.after ((S.memory w).welcome event.sender) ∧
      (ds = [] ∨ ∃ q, desk.understand ((S.memory w).guest event.sender) event = .ok q ∧
        Deed desk σ ((S.memory w).guest event.sender) q ds) := by
  obtain ⟨ds, hds, hdeed⟩ := S.writes_dispatch hσ
  exact ⟨ds, by rw [memory_run, hds, List.foldl_append, Memory.foldl_greeting], hdeed⟩

end Surroundings

end OrderDesk
