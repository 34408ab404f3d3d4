import OrderDesk.Proofs.Conversation.Controls
import OrderDesk.Proofs.World.Presses

/-!
# Displayed controls address messages that are there

Customers send texts and press the buttons that are displayed, the operator changes the catalogue,
and a dispatch that fails may be followed by an apology.  `Screen.Reached` are the stores and the
screens that come of this, whatever surrounds the desk, as long as the chat does as it is told and
gives new messages new ids.  Every one of these screens is sound (`Reached.sound`), since a press that
is displayed tells what is left of the album it is about.  So no call ever changes a message that is
not there, and every control carries exactly what is left of its album, of which no other control has
any (`Reached.controls`).
-/

namespace OrderDesk

open Screen (Sound watcher)
open Store (Memory)

namespace Surroundings

variable {W : Type} (S : Surroundings W) {desk : Desk} {event : Chat.Event} {w : W} {s : Screen}

/-- Looking the sender up shows nothing. -/
theorem notes_load (sender : Chat.Sender) (w : W)
    (h : (Desk.loadCustomer sender).run.Foreseen watcher S.serve w s) :
    (Desk.loadCustomer sender).run.notes watcher S.serve w s = s := by
  have hwatched : (Desk.loadCustomer sender).Watched watcher (fun _ => True) (· = s)
      (fun s' _ => s' = s) s := by
    refine (Desk.loadCustomer_asks sender).watched (fun _ _ => trivial) (fun _ hs => hs)
      (fun s' c r hc hs _ => ?_) rfl
    cases c with
    | chat c => exact hc.elim
    | _ => exact hs
  have hlast := Program.Watched.run hwatched h
  split at hlast
  · exact hlast
  · exact hlast

/-- A dispatch keeps the screen sound. -/
theorem sound_dispatch (hd : desk.Plain) (hs : Sound none s) (hoffer : s.Offers event)
    (h : (desk.dispatch event).run.Foreseen watcher S.serve w s.turn) :
    Sound none ((desk.dispatch event).run.notes watcher S.serve w s.turn) := by
  have hturn : Sound none s.turn := hs.turn
  have hoffer : s.turn.Offers event := by
    cases event with
    | text chat sender text => trivial
    | press chat sender message raw => cases message <;> exact hoffer
  have hlatest : s.turn.latest = none := rfl
  generalize s.turn = s at hturn hoffer hlatest h ⊢
  have hload := (S.run_load event.sender w).1
  have hmemory := S.memory_load event.sender w
  have hkept := Memory.customer?_welcome (S.memory w) event.sender
  rw [Desk.dispatch_eq, ExceptT.run_bind, Program.bind_eq, Program.foreseen_bind] at h
  rw [Desk.dispatch_eq, ExceptT.run_bind, Program.bind_eq, Program.notes_bind,
    S.notes_load event.sender w h.1]
  have hrest := h.2
  rw [S.notes_load event.sender w h.1] at hrest
  rw [run] at hload
  rw [hload] at hrest ⊢
  change (desk.respond _ event).run.Foreseen watcher S.serve _ s at hrest
  change Sound none ((desk.respond _ event).run.notes watcher S.serve _ s)
  generalize (S.memory w).guest event.sender = c at hkept hrest ⊢
  have hgranted : (desk.respond c event).run.Met S.serve (Desk.Granted c.id)
      (S.run (Desk.loadCustomer event.sender) w).2 := by
    refine S.met_granted _ ?_
    rw [hmemory, hkept]
    rfl
  have hseen := Desk.respond_seen hd hturn hlatest hoffer c
  have hlast := Program.Watched.run hseen (hrest.and hgranted)
  rw [Program.notes_and] at hlast
  split at hlast
  · exact hlast
  · exact hlast

end Surroundings

namespace Screen

/-- What comes of events, apologies and changes of the catalogue, one after another: a store and what
the chats show. -/
inductive Reached (desk : Desk) : Memory → Screen → Prop where
  | blank : Reached desk .empty .blank
  /-- A text, or a press of a button that is displayed. -/
  | dispatch {W : Type} {S : Surroundings W} {w : W} {s : Screen} (event : Chat.Event)
    (h : Reached desk (S.memory w) s) (hoffer : s.Offers event)
    (hchat : (desk.dispatch event).run.Foreseen watcher S.serve w s.turn) :
    Reached desk (S.memory (S.run (desk.dispatch event) w).2)
      ((desk.dispatch event).run.notes watcher S.serve w s.turn)
  | apology {W : Type} {S : Surroundings W} {w : W} {s : Screen} (chat : Int64)
    (h : Reached desk (S.memory w) s)
    (hchat : (desk.apologize chat).Foreseen watcher S.serve w s.turn) :
    Reached desk (S.memory ((desk.apologize chat).run S.serve w).2)
      ((desk.apologize chat).notes watcher S.serve w s.turn)
  | upkeep {w : World} {s : Screen} (u : Upkeep) (h : Reached desk w.memory s) :
    Reached desk (w.happen desk (.upkeep u)).memory s

variable {desk : Desk} {m : Memory} {s : Screen}

theorem Reached.sound (hd : desk.Plain) (h : Reached desk m s) : Sound none s := by
  induction h with
  | blank => exact sound_blank
  | dispatch event _ hoffer hchat ih => exact Surroundings.sound_dispatch _ hd ih hoffer hchat
  | apology chat _ hchat ih =>
    exact Desk.sound_of_plain ih.turn (List.forall_mem_nil _) hchat.1.1 hchat.1.2
  | upkeep u _ ih => exact ih

/-! ## Histories of a world -/

section Histories

variable (desk : Desk)

/-- A world and what its chat shows, after an occurrence. -/
def watch (v : World × Screen) : Occurrence → World × Screen
  | .event e =>
    (v.1.happen desk (.event e),
      (desk.dispatch e).run.notes watcher World.serve v.1 v.2.turn)
  | o => (v.1.happen desk o, v.2)

/-- The occurrence is no press of a button that is not displayed, and the chat does as it is told. -/
def Proper (v : World × Screen) : Occurrence → Prop
  | .event e =>
    v.2.Offers e ∧ (desk.dispatch e).run.Foreseen watcher World.serve v.1 v.2.turn
  | _ => True

instance (v : World × Screen) : (o : Occurrence) → Decidable (Proper desk v o)
  | .event _ => inferInstanceAs (Decidable (_ ∧ _))
  | .upkeep _ => isTrue trivial
  | .change _ _ _ => isTrue trivial

/-- All occurrences of a history are proper. -/
def AllProper : World × Screen → List Occurrence → Prop
  | _, [] => True
  | v, o :: history => Proper desk v o ∧ AllProper (watch desk v o) history

instance decidableAllProper : (v : World × Screen) → (history : List Occurrence) →
    Decidable (AllProper desk v history)
  | _, [] => isTrue trivial
  | v, o :: history =>
    have := decidableAllProper (watch desk v o) history
    inferInstanceAs (Decidable (_ ∧ _))

end Histories

/-- The store and the screen of a world after a proper history. -/
theorem Reached.after {v : World × Screen} (h : Reached desk v.1.memory v.2)
    {history : List Occurrence} (hproper : AllProper desk v history) :
    Reached desk (history.foldl (watch desk) v).1.memory (history.foldl (watch desk) v).2 := by
  induction history generalizing v with
  | nil => exact h
  | cons o history ih =>
    refine ih ?_ hproper.2
    cases o with
    | event e => exact .dispatch (S := World.surroundings) e h hproper.1.1 hproper.1.2
    | upkeep u => exact .upkeep u h
    | change rate clock nextMessage => exact h

/-! ## Controls -/

/-- Controls only ever address messages that are there.  No call has changed or deleted a message that
was not there; and the message ids that are carried by a displayed button are exactly those messages of
the album that goes with it that are not deleted yet, in the order of the album, and none of them is
carried by a button under another message. -/
theorem Reached.controls {texts : Phrase.Book} {settings : Settings}
    (hopen : Desk.open texts settings = .ok desk) (h : Reached desk m s) :
    s.strays = [] ∧ ∀ p ids, s.Carries p ids →
      (s.album p = [] ∨ s.album p ∈ s.albums) ∧ places p.chat ids = s.left (s.album p) ∧
        ∀ q ids', q ≠ p → s.Carries q ids' → (places p.chat ids).Disjoint (places q.chat ids') := by
  have hs : Sound none s := h.sound (Desk.open_plain hopen)
  refine ⟨hs.strays, fun p ids hp => ?_⟩
  have hleft : places p.chat ids = s.left (s.album p) := (hs.carried p ids nofun hp).left
  refine ⟨hs.album p, hleft, fun q ids' hne hq => ?_⟩
  rw [hleft, (hs.carried q ids' nofun hq).left]
  exact hs.apart p q ids ids' nofun nofun (Ne.symm hne) hp hq

end Screen

/-! ## A stroll through a gallery -/

namespace Gallery

/-- An item with three pictures. -/
def coat : Catalog.Item := .fresh ⟨1⟩ "Coat" ["1", "2", "3"]

/-- An item with two pictures. -/
def scarf : Catalog.Item := .fresh ⟨2⟩ "Scarf" ["4", "5"]

/-- The customer presses a button under a message. -/
def pressesAt (message : Int32) (data : String) : Occurrence :=
  .event (.press 1 ⟨1, "Ivan", none, none⟩ (some message) data)

/-- The two items are in the catalogue. -/
def opened : World :=
  { Purchase.opening with
    memory := ⟨[], [coat, { scarf with rank := 1 }], []⟩
    shelf := ⟨[coat, { scarf with rank := 1 }]⟩ }

/-- The customer opens the catalogue twice and pages to the second item in one of the albums, whose
third message is left over then. -/
def stroll : List Occurrence :=
  [.event (Purchase.types "/menu"), pressesAt 1 "1", pressesAt 1 "1", pressesAt 5 "m2,3,4:1201"]

/-- The world and its chat after the stroll. -/
def strolled : World × Screen := stroll.foldl (Screen.watch Purchase.stall) (opened, .blank)

/-- The second item has taken two of the three messages of its album, and its control carries those
two; the control of the other album carries its own three. -/
theorem strolled_told :
    Screen.Reached Purchase.stall strolled.1.memory strolled.2 ∧ strolled.2.strays = [] ∧
      strolled.2.deleted = [⟨1, 4⟩] ∧ strolled.2.album ⟨1, 5⟩ = places 1 [2, 3, 4] ∧
      strolled.2.Carries ⟨1, 5⟩ [2, 3] ∧
      places 1 [2, 3] = strolled.2.left (strolled.2.album ⟨1, 5⟩) ∧
      strolled.2.Carries ⟨1, 9⟩ [6, 7, 8] ∧ (places 1 [2, 3]).Disjoint (places 1 [6, 7, 8]) := by
  obtain ⟨desk, hopen, -⟩ := Desk.open_furnished .empty Settings.validate_standard
  obtain rfl : Purchase.stall = desk := by rw [Purchase.stall, hopen]
  -- sorting stops the kernel, so the shelf is given what the store has announced
  have hadded : ((Purchase.opening.happen Purchase.stall (.upkeep (.add coat))).happen
      Purchase.stall (.upkeep (.add scarf))).memory = opened.memory := rfl
  have hopened : Screen.Reached Purchase.stall opened.memory .blank :=
    hadded ▸ .upkeep (.add scarf) (.upkeep (.add coat) .blank)
  have hreached : Screen.Reached Purchase.stall strolled.1.memory strolled.2 :=
    Screen.Reached.after (v := (opened, .blank)) hopened (by decide +kernel)
  have hshown : strolled.2.deleted = [⟨1, 4⟩] ∧ strolled.2.album ⟨1, 5⟩ = places 1 [2, 3, 4] ∧
      strolled.2.Carries ⟨1, 5⟩ [2, 3] ∧ strolled.2.Carries ⟨1, 9⟩ [6, 7, 8] := by
    decide +kernel
  generalize strolled = v at hreached hshown ⊢
  obtain ⟨hdeleted, halbum, hfirst, hsecond⟩ := hshown
  obtain ⟨hstrays, hcontrols⟩ := Screen.Reached.controls hopen hreached
  obtain ⟨-, hleft, hapart⟩ := hcontrols ⟨1, 5⟩ [2, 3] hfirst
  exact ⟨hreached, hstrays, hdeleted, halbum, hfirst, hleft, hsecond,
    hapart ⟨1, 9⟩ [6, 7, 8] (by decide) hsecond⟩

end Gallery

end OrderDesk
