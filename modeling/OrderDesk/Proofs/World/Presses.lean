import OrderDesk.Proofs.Conversation.Presses
import OrderDesk.Proofs.Conversation.Shown
import OrderDesk.Proofs.Store.Portion
import OrderDesk.Proofs.World.Isolation
import OrderDesk.Proofs.World.Reach

/-!
# There are no dead buttons

What a dispatch shows and what the next one accepts are told by different parts of the desk: the
first by the keyboards that handlers build and the step they write, the second by the step that a
button is bound to and by what its handler asks of data and record.  The two sides meet at
`Desk.Live`.  The buttons that a successful dispatch has shown are live in the step in which the
sender is kept afterwards (`live_dispatch`), and a press of a button that is live in the step of a
coherent record is answered (`run_press`).  As the records of a store that is reached are coherent,
no button leads nowhere (`buttons_answered`).
-/

namespace OrderDesk

open Chat (Button)
open Desk (Call)
open Store (Memory)

/-! ## The step in which a customer is kept -/

namespace Store.Memory

variable {m : Memory} {id chat : Int64} {s : Step}

/-- The step of a customer, if the customer is kept. -/
def step? (m : Memory) (id : Int64) : Option Step := (m.customer? id).map (·.step)

theorem step?_putCustomer (m : Memory) {c : Customer} (h : c.id = id) :
    (m.putCustomer c).step? id = some c.step := by
  rw [step?, ← h, customer?_putCustomer]
  rfl

theorem step?_updateCustomer (h : m.step? id = some s) (u : Customer.Update) :
    (m.after (.updateCustomer id u)).step? id = some (u.step.getD s) := by
  obtain ⟨c, hc, rfl⟩ := Option.map_eq_some_iff.1 h
  have hid : (c.apply u).id = id := (customer?_id hc :)
  rw [after_updateCustomer hc, step?_putCustomer m hid]
  rfl

/-- The calls of a dispatch change the step as it can be read off them. -/
theorem step?_effect {call : Desk.Call} (hcall : call.Allowed id chat) (h : m.step? id = some s) :
    (call.effect m).step? id = some (call.stepAfter s) := by
  cases call with
  | store call =>
    rcases hcall with hcall | hcall | ⟨shortId, hcall⟩
    · cases call with
      | customer i => exact h
      | saveCustomer c => exact step?_putCustomer m hcall
      | updateCustomer i u =>
        obtain rfl : i = id := hcall
        exact step?_updateCustomer h u
      | updateStep i s' =>
        obtain rfl : i = id := hcall
        exact step?_updateCustomer h { Customer.Update.none with step := some s' }
      | saveOrder o => exact h
      | ordersOf i => exact h
      | markPaid i shortId =>
        rw [Desk.Call.effect, step?, customer?, after_markPaid_customers]
        exact h
      | _ => exact hcall.elim
    · cases hcall
      exact h
    · cases hcall
      exact h
  | _ => exact h

theorem step?_foldl {cs : List Desk.Call} (hcs : ∀ c ∈ cs, c.Allowed id chat)
    (h : m.step? id = some s) :
    (cs.foldl Desk.Call.effect m).step? id = some (cs.foldl Desk.Call.stepAfter s) := by
  induction cs generalizing m s with
  | nil => exact h
  | cons c cs ih =>
    have hfirst := step?_effect (hcs c List.mem_cons_self) h
    exact ih (fun d hd => hcs d (List.mem_cons_of_mem c hd)) hfirst

end Store.Memory

namespace Surroundings

variable {W : Type} (S : Surroundings W) {desk : Desk} {event : Chat.Event} {w : W}
  {chat : Int64} {sender : Chat.Sender} {message : Option Int32} {b : Button}

/-! ## What a dispatch has shown -/

/-- After a successful dispatch the sender is in a step in which all buttons that were shown are
live. -/
theorem live_dispatch (hd : desk.Furnished) (h : (S.run (desk.dispatch event) w).1 = .ok ()) :
    ∃ s, (S.memory (S.run (desk.dispatch event) w).2).step? event.sender.id = some s ∧
      ∀ call, .chat call ∈ S.calls (desk.dispatch event) w →
        ∀ b ∈ call.buttons, desk.Live s b := by
  have hload := (S.run_load event.sender w).1
  have hmemory := S.memory_load event.sender w
  have hasks : ∀ d ∈ S.calls (Desk.loadCustomer event.sender) w, d.Registers event.sender.id :=
    (Desk.loadCustomer_asks event.sender).run w
  have hid := Memory.guest_id (S.memory w) event.sender
  have hkept := Memory.customer?_welcome (S.memory w) event.sender
  rw [calls_dispatch]
  rw [Desk.dispatch_eq, S.run_bind hload] at h ⊢
  generalize (S.run (Desk.loadCustomer event.sender) w).2 = v at hmemory h ⊢
  generalize (S.memory w).guest event.sender = c at hid hkept h ⊢
  have hstep : (S.memory v).step? event.sender.id = some c.step := by
    rw [hmemory, Memory.step?, ← hid, hkept]
    rfl
  have hallowed : ∀ d ∈ S.calls (desk.respond c event) v, d.Allowed event.sender.id event.chat :=
    hid ▸ (Desk.respond_allowed c event).run v
  have hafter : S.memory (S.run (desk.respond c event) v).2 =
      (S.calls (desk.respond c event) v).foldl Call.effect (S.memory v) :=
    Program.view_run (fun c v => S.memory_serve c v) (desk.respond c event).run v
  have hleft := Memory.step?_foldl hallowed hstep
  rw [← hafter] at hleft
  refine ⟨_, hleft, fun call hcall b hb => ?_⟩
  rcases List.mem_append.1 hcall with hcall | hcall
  · exact (hasks _ hcall).elim
  · exact (Desk.respond_shows hd c event).run h _ hcall b hb

/-! ## What a press is answered with -/

/-- A customer who is kept can be changed and can have orders listed. -/
theorem met_granted {α : Type} {id : Int64} (t : Turn α)
    (h : ((S.memory w).customer? id).isSome) : t.run.Met S.serve (Desk.Granted id) w := by
  refine S.met_kept (fun c v hv => ?_) t h
  cases c with
  | store c =>
    obtain ⟨next, drawn, hreply⟩ := S.reply c v
    cases c with
    | updateCustomer i u =>
      rintro rfl
      rw [hreply]
      exact Memory.serve_updateCustomer hv next drawn u
    | updateStep i s =>
      rintro rfl
      rw [hreply]
      exact Memory.serve_updateCustomer hv next drawn _
    | ordersOf i => exact ⟨_, hreply⟩
    | _ => trivial
  | _ => trivial

/-- A turn that ends, ends with a value. -/
theorem run_ends {α : Type} {t : Turn α} {A : (c : Call) → c.Reply → Prop} {P : α → Prop}
    (h : t.Ends A P) (hmet : t.run.Met S.serve A w) : ∃ a, (S.run t w).1 = .ok a ∧ P a :=
  Program.Along.run h hmet

/-- The order that a payment is for is one of the customer's, or there is none. -/
theorem run_ownOrder? (c : Customer) (shortId : String) (w : W) :
    ∃ order?, (S.run (Desk.ownOrder? c shortId) w).1 = .ok order? ∧
      S.memory (S.run (Desk.ownOrder? c shortId) w).2 = S.memory w ∧
      ∀ o ∈ order?, o ∈ (S.memory w).ordersOf c.id := by
  obtain ⟨next, drawn, hreply⟩ := S.reply (.order shortId) w
  have hask : (S.run (Turn.ask (.store (.order shortId))) w).1 =
      .ok (S.serve (.store (.order shortId)) w).1 := rfl
  have hmemory : S.memory (S.serve (.store (.order shortId)) w).2 = S.memory w :=
    S.memory_serve (.store (.order shortId)) w
  rw [Desk.ownOrder?, S.run_bind hask, hreply, Memory.serve, Memory.order]
  cases ho : (S.memory w).orders.find? (·.shortId == shortId) with
  | none => exact ⟨none, rfl, hmemory, fun _ h => (by cases h)⟩
  | some o =>
    dsimp only
    split
    · rename_i hbuyer
      refine ⟨some o, rfl, hmemory, fun o' ho' => ?_⟩
      obtain rfl : o = o' := Option.some.inj ho'
      exact List.mem_filter.2 ⟨List.mem_of_find?_eq_some ho, by simpa using hbuyer⟩
    · exact ⟨none, rfl, hmemory, fun _ h => (by cases h)⟩

/-- A payment is answered, be there such an order or not. -/
theorem run_paid {c : Customer} {shortId : String}
    (hmet : (desk.paid chat c (some shortId)).run.Met S.serve (Desk.Obliging c.id) w) :
    (S.run (desk.paid chat c (some shortId)) w).1 = .ok () := by
  obtain ⟨order?, hown, hmemory, horder⟩ := S.run_ownOrder? c shortId w
  have hrest := S.met_bind hown hmet
  unfold Desk.paid
  dsimp only
  rw [S.run_bind hown]
  generalize (S.run (Desk.ownOrder? c shortId) w).2 = v at hmemory hrest ⊢
  cases order? with
  | none =>
    obtain ⟨_, hsend, -⟩ := S.run_ends Desk.send_ends hrest
    exact hsend
  | some o =>
    have hown : o ∈ (S.memory v).ordersOf c.id := hmemory ▸ horder o rfl
    have hpaid : (S.run (Turn.store (.markPaid c.id o.shortId)) v).1 = .ok () := by
      obtain ⟨next, drawn, hreply⟩ := S.reply (.markPaid c.id o.shortId) v
      refine S.run_store (hreply.trans ?_)
      rw [Memory.serve_markPaid, if_pos]
      exact List.any_eq_true.2 ⟨o, hown, beq_self_eq_true _⟩
    dsimp only at hrest ⊢
    have hlast := S.met_bind hpaid hrest
    obtain ⟨_, hsend, -⟩ := S.run_ends Desk.sendText_ends hlast
    rw [S.run_bind hpaid]
    exact hsend

/-- A press of a button that is live in the step of a coherent record is answered. -/
theorem run_press {c : Customer} (hc : (S.memory w).customer? sender.id = some c)
    (hcoherent : c.Coherent) (hlive : desk.Live c.step b)
    (hmet : (desk.dispatch (.press chat sender message b.data)).run.Met S.serve Desk.Usual w) :
    (S.run (desk.dispatch (.press chat sender message b.data)) w).1 = .ok () := by
  obtain ⟨a, data, hb⟩ := hlive
  obtain ⟨v, hmemory, hrun, -, hmeets⟩ :=
    S.dispatch_kept desk (.press chat sender message b.data) hc
  have hrest := hmeets _ hmet
  rw [hb.respond sender] at hrun hrest
  rw [hrun]
  have hkept : ((S.memory v).customer? c.id).isSome := by
    rw [hmemory, Memory.customer?_id hc, hc]
    rfl
  have hobliging := hrest.and (S.met_granted (desk.act chat c data message a) hkept)
  by_cases ha : a = .paid
  · subst ha
    obtain ⟨shortId, htext⟩ := Option.isSome_iff_exists.1 (hb.paid rfl)
    rw [Desk.act, htext] at hobliging ⊢
    exact S.run_paid hobliging
  · obtain ⟨_, hact, -⟩ := S.run_ends (Desk.act_ends hcoherent hb ha) hobliging
    exact hact

/-! ## No button is dead -/

/-- Settings that are valid open a desk, and none of its buttons is dead.  Whatever event the sender
has dispatched, in a store that is reached and in any surroundings: if the dispatch succeeds, every
button that it has shown carries at most 64 bytes, which decode to a code that stands for an action,
and a press of it by the same sender, as the next event and on whatever message, succeeds as well,
provided the chat does what it is asked for. -/
theorem buttons_answered (texts : Phrase.Book) {settings : Settings}
    (hsettings : settings.validate = .ok ()) :
    ∃ desk, Desk.open texts settings = .ok desk ∧
      ∀ (event : Chat.Event) (w : W), (S.memory w).Reached desk .any →
        (S.run (desk.dispatch event) w).1 = .ok () →
        ∀ call, .chat call ∈ S.calls (desk.dispatch event) w → ∀ b ∈ call.buttons,
          b.data.utf8ByteSize ≤ 64 ∧
          (∃ data action, ButtonData.decode b.data = .ok data ∧
            Action.ofCode? data.code = some action) ∧
          ∀ (chat : Int64) (sender : Chat.Sender) (message : Option Int32) (v : W),
            sender.id = event.sender.id →
            S.memory v = S.memory (S.run (desk.dispatch event) w).2 →
            (desk.dispatch (.press chat sender message b.data)).run.Met S.serve Desk.Usual v →
            (S.run (desk.dispatch (.press chat sender message b.data)) v).1 = .ok () := by
  obtain ⟨desk, hopen, hd⟩ := Desk.open_furnished texts hsettings
  refine ⟨desk, hopen, fun event w hw h call hcall b hbutton => ?_⟩
  obtain ⟨s, hstep, hshown⟩ := S.live_dispatch hd h
  obtain ⟨a, data, hb⟩ := hshown call hcall b hbutton
  obtain ⟨hdata, hshort⟩ := ButtonData.encode_eq_ok hb.encode
  have hdecode := ButtonData.decode_encode hb.encode
  refine ⟨?_, ⟨data, a, hdecode, Action.ofCode?_code hb.code hb.known⟩, ?_⟩
  · rw [hdata, Text.utf8ByteSize_ofList]
    exact hshort
  · intro chat sender message v hsender hv hmet
    have hafter := (Memory.Reached.dispatch event hw (S.met_any _ w)).each
      (desk.coherent_lasting .any)
    obtain ⟨c, hc, rfl⟩ := Option.map_eq_some_iff.1 hstep
    have hcoherent : c.Coherent := hafter.customers c (Memory.customer?_mem hc)
    rw [← hv, ← hsender] at hc
    exact S.run_press hc hcoherent ⟨a, data, hb⟩ hmet

end Surroundings

/-- The settings of an operator who changes nothing are valid. -/
theorem Settings.validate_standard : standard.validate = .ok () :=
  validate_eq_ok_iff.2 ⟨by decide +kernel, by decide⟩

/-- A call for an album. -/
def Desk.Call.isAlbum : Desk.Call → Bool
  | .chat (.sendAlbum _ _) => true
  | _ => false

/-- The chat of a world never fails. -/
theorem World.usual {c : Desk.Call} (h : ¬ c.isAlbum) (w : World) :
    Desk.Usual c (World.serve c w).1 := by
  cases c with
  | chat c =>
    cases c with
    | sendText chat text keyboard => exact ⟨_, rfl⟩
    | sendAlbum chat photos => exact absurd rfl h
    | _ => exact rfl
  | _ => trivial

namespace Purchase

/-- A desk with the standard settings and no texts. -/
def stall : Desk :=
  match Desk.open .empty .standard with
  | .ok desk => desk
  | .error _ => .bare

/-- The choice that begins a purchase. -/
def choice : Chat.Call :=
  .sendText 1 (stall.texts.get "choose-order-type") (some (.inline stall.keyboards.orderType))

/-- The buttons of the first choice are answered. -/
theorem choice_answered :
    ∃ desk, Desk.open .empty .standard = .ok desk ∧
      .chat choice ∈ World.surroundings.calls (desk.dispatch (types "/add")) opening ∧
      ∃ b ∈ choice.buttons, b.data = "10" ∧
        (World.surroundings.run (desk.dispatch (.press 1 ⟨1, "Ivan", none, none⟩ (some 1) b.data))
          (World.surroundings.run (desk.dispatch (types "/add")) opening).2).1 = .ok () := by
  obtain ⟨desk, hopen, hdesk⟩ :=
    World.surroundings.buttons_answered .empty Settings.validate_standard
  obtain rfl : stall = desk := by rw [stall, hopen]
  have hchoice : .chat choice ∈ World.surroundings.calls (stall.dispatch (types "/add")) opening :=
    List.mem_of_getLast? rfl
  have hexpress : ⟨"Missing translation: order-type-express", "10"⟩ ∈ choice.buttons := by
    decide +kernel
  obtain ⟨-, -, hanswered⟩ := hdesk (types "/add") opening .empty rfl choice hchoice _ hexpress
  refine ⟨stall, hopen, hchoice, _, hexpress, rfl, ?_⟩
  refine hanswered 1 ⟨1, "Ivan", none, none⟩ (some 1) _ rfl rfl ?_
  refine Program.met_of_calls (C := fun c : Call => ¬ c.isAlbum) (fun c w h => World.usual h w) _ ?_
  decide +kernel

end Purchase

end OrderDesk
