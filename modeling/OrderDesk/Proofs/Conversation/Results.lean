import OrderDesk.Conversation.Browsing
import OrderDesk.Proofs.Program.Along

/-!
# What turns end in

`Turn.Results A t P E` says of a turn that on every way it ends in a value that satisfies `P` or in
a failure that satisfies `E`.  It has one rule for each way in which turns are built.  Failures of
the store and of the chat can come from any call, so only such `E` are of interest as hold of them
(`Failure.Tolerant`).

The turns around albums are followed here once, for any `E` and for anything that is known of the
ids in an album: an item and its neighbour (`catalog_results`, `catalogStep_results`) and a step of
the guide (`guideStep_results`).
-/

namespace OrderDesk

/-- Failures of the store and of the chat satisfy `E`. -/
structure Failure.Tolerant (E : Failure → Prop) : Prop where
  store : ∀ e, E (.store e)
  chat : ∀ e, E (.chat e)

namespace Turn

variable {α β : Type} {A : (c : Desk.Call) → c.Reply → Prop} {t : Turn α} {f : α → Turn β}
  {P : α → Prop} {Q : β → Prop} {E : Failure → Prop}

/-- The turn ends in a value that satisfies `P` or in a failure that satisfies `E`. -/
def Results (A : (c : Desk.Call) → c.Reply → Prop) (t : Turn α) (P : α → Prop)
    (E : Failure → Prop) : Prop :=
  t.run.Along A fun _ r => (∀ a, r = .ok a → P a) ∧ ∀ e, r = .error e → E e

theorem results_pure {a : α} (h : P a) : (pure a : Turn α).Results A P E :=
  Program.along_pure.2 ⟨by rintro _ ⟨⟩; exact h, fun _ he => (nomatch he)⟩

theorem results_throw {e : Failure} (h : E e) : (throw e : Turn α).Results A P E :=
  Program.along_pure.2 ⟨fun _ ha => (nomatch ha), by rintro _ ⟨⟩; exact h⟩

theorem results_ofExcept {ε : Type} {wrap : ε → Failure} {x : Except ε α}
    (hok : ∀ a, x = .ok a → P a) (herror : ∀ e, x = .error e → E (wrap e)) :
    (ofExcept wrap x).Results A P E := by
  cases x with
  | error e => exact results_throw (herror e rfl)
  | ok a => exact results_pure (hok a rfl)

theorem results_ask (c : Desk.Call) : (ask c).Results A (A c) E :=
  Program.along_ask.2 fun _ hr =>
    Program.along_pure.2 ⟨by rintro _ ⟨⟩; exact hr, fun _ he => (nomatch he)⟩

theorem Results.bind (h : t.Results A P E) (hf : ∀ a, P a → (f a).Results A Q E) :
    (t >>= f).Results A Q E := by
  refine (Program.along_run_bind t f _).2 (Program.Along.mono h ?_)
  rintro cs (e | a) ⟨hok, herror⟩
  · refine ⟨fun _ hb => (nomatch hb), ?_⟩
    rintro _ ⟨⟩
    exact herror e rfl
  · exact hf a (hok a rfl)

theorem Results.mono {R : α → Prop} (h : t.Results A P E) (hPR : ∀ a, P a → R a) :
    t.Results A R E :=
  Program.Along.mono h fun _ _ ⟨hok, herror⟩ => ⟨fun a ha => hPR a (hok a ha), herror⟩

theorem results_store (hE : Failure.Tolerant E) (c : Store.Call) :
    (store c).Results A (fun v => A (.store c) (Except.ok v)) E :=
  (results_ask (.store c)).bind fun _ hr =>
    results_ofExcept (fun _ hv => hv ▸ hr) fun e _ => hE.store e

theorem results_chat (hE : Failure.Tolerant E) (c : Chat.Call) :
    (chat c).Results A (fun v => A (.chat c) (Except.ok v)) E :=
  (results_ask (.chat c)).bind fun _ hr =>
    results_ofExcept (fun _ hv => hv ▸ hr) fun e _ => hE.chat e

end Turn

namespace Desk

open Turn (results_ask results_chat results_ofExcept results_pure results_store results_throw)

variable {desk : Desk} {A : (c : Call) → c.Reply → Prop} {E : Failure → Prop} {chat : Int64}
  {c : Customer}

/-! ## Parts of handlers -/

section Parts

variable (hE : Failure.Tolerant E)
include hE

theorem sendText_results {text : String} {keyboard : Option Chat.Keyboard} :
    (sendText chat text keyboard).Results A (fun _ => True) E :=
  (results_chat hE _).bind fun _ _ => results_pure trivial

theorem send_results {key : String} : (desk.send chat key).Results A (fun _ => True) E :=
  sendText_results hE

theorem sendRows_results {key : String} {rows : Chat.Rows} :
    (desk.sendRows chat key rows).Results A (fun _ => True) E := sendText_results hE

theorem showRows_results {message : Option Int32} {key : String} {rows : Chat.Rows} :
    (desk.showRows chat message key rows).Results A (fun _ => True) E := by
  cases message with
  | none => exact sendRows_results hE
  | some message => exact (results_chat hE _).mono fun _ _ => trivial

theorem update_results {u : Customer.Update} : (Turn.update c u).Results A (fun _ => True) E :=
  (results_store hE _).mono fun _ _ => trivial

/-! ## Albums -/

variable {K : List Int32 → Prop}

/-- The ids of the album that an item is sent as are as the chat gives them. -/
theorem sendItem_results {item : Catalog.Item} (hnone : K [])
    (halbum : ∀ photos ids, A (.chat (.sendAlbum chat photos)) (Except.ok ids) → K ids) :
    (sendItem chat item).Results A K E := by
  simp only [sendItem]
  split
  · exact (sendText_results hE).bind fun _ _ => results_pure hnone
  · exact (results_chat hE _).mono (halbum _)

theorem replaceAlbum_results {ids : List Int32} {photos : List Chat.Photo} :
    (replaceAlbum chat ids photos).Results A (· = ids.take photos.length) E := by
  induction ids generalizing photos with
  | nil => exact results_pure List.take_nil.symm
  | cons message ids ih =>
    cases photos with
    | nil =>
      refine (results_chat hE _).bind fun _ _ => ih.mono fun kept hkept => ?_
      simpa using hkept
    | cons photo photos =>
      refine (results_chat hE _).bind fun _ _ => ih.bind fun kept hkept => results_pure ?_
      rw [hkept, List.length_cons, List.take_succ_cons]

/-- The item looked at last: no failure is added to those of its buttons. -/
theorem catalog_results (hnone : K [])
    (halbum : ∀ photos ids, A (.chat (.sendAlbum chat photos)) (Except.ok ids) → K ids)
    (hrows : ∀ shelf offset ids, K ids →
      ∀ e, desk.itemRows shelf offset ids = .error e → E (.callback e)) :
    (desk.catalog chat c).Results A (fun _ => True) E := by
  unfold catalog
  refine (results_ask .shelf).bind fun shelf _ => ?_
  dsimp only
  split
  · exact send_results hE
  · refine (sendItem_results hE hnone halbum).bind fun ids hids => ?_
    refine (results_ask .shelf).bind fun shelf' _ => ?_
    refine Turn.Results.bind (P := fun _ => True)
      (results_ofExcept (fun _ _ => trivial) (hrows _ _ ids hids)) fun rows _ => ?_
    refine (sendRows_results hE).bind fun _ _ => ?_
    split
    · exact update_results hE
    · exact results_pure trivial

/-- Its neighbour, as a new album or in the messages of the one before. -/
theorem catalogStep_results {direction : Direction} {album : List Int32} {control : Option Int32}
    (hnone : K []) (hkept : album ≠ [] → ∀ n, K (album.take n))
    (halbum : ∀ photos ids, A (.chat (.sendAlbum chat photos)) (Except.ok ids) → K ids)
    (hrows : ∀ shelf offset ids, K ids →
      ∀ e, desk.itemRows shelf offset ids = .error e → E (.callback e)) :
    (desk.catalogStep chat c direction album control).Results A (fun _ => True) E := by
  unfold catalogStep
  refine (results_ask .shelf).bind fun shelf _ => ?_
  split
  · exact results_pure trivial
  · rename_i offset _
    dsimp only
    -- whatever the messages are, the rest is the same
    have rest : ∀ kept, K kept → (do
        Turn.update c { Customer.Update.none with catalogOffset := some offset }
        let rows ← Turn.ofExcept .callback (desk.itemRows (← Turn.shelf) offset kept)
        desk.showRows chat control "catalog-controls" rows).Results A (fun _ => True) E :=
      fun kept hids => (update_results hE).bind fun _ _ =>
        (results_ask .shelf).bind fun shelf' _ => Turn.Results.bind (P := fun _ => True)
          (results_ofExcept (fun _ _ => trivial) (hrows _ _ kept hids))
          fun rows _ => showRows_results hE
    split
    · exact (sendItem_results hE hnone halbum).bind rest
    · rename_i hfilled
      have hids : album ≠ [] := fun h => hfilled (List.isEmpty_iff.2 h)
      exact (replaceAlbum_results hE).bind fun kept hkept' => rest kept (hkept' ▸ hkept hids _)

/-- A guide step with an album of its own. -/
theorem sendGuideStep_results {n : UInt8} (hnone : K [])
    (halbum : ∀ photos ids, A (.chat (.sendAlbum chat photos)) (Except.ok ids) → K ids)
    (hrows : ∀ ids, K ids → ∀ e, guideRows desk.texts n ids = .error e → E (.callback e)) :
    (desk.sendGuideStep chat n).Results A (fun _ => True) E := by
  have rest : ∀ ids, K ids → (do
      let rows ← Turn.ofExcept .callback (guideRows desk.texts n ids)
      desk.sendRows chat (guideKey n) rows).Results A (fun _ => True) E := fun ids hids =>
    Turn.Results.bind (P := fun _ => True) (results_ofExcept (fun _ _ => trivial) (hrows ids hids))
      fun rows _ => sendRows_results hE
  simp only [sendGuideStep]
  split
  · exact (results_pure hnone).bind rest
  · exact ((results_chat hE _).mono (halbum _)).bind rest

/-- A guide step, as a new album or in the messages of the step before. -/
theorem guideStep_results {n : UInt8} {album : List Int32} {control : Option Int32}
    (hknown : (n < 1 || guideSteps < n) → E .invalidUpdate) (hnone : K [])
    (hkept : album ≠ [] → control ≠ none → ∀ k, K (album.take k))
    (halbum : ∀ photos ids, A (.chat (.sendAlbum chat photos)) (Except.ok ids) → K ids)
    (hrows : ∀ ids, K ids → ∀ e, guideRows desk.texts n ids = .error e → E (.callback e)) :
    (desk.guideStep chat n album control).Results A (fun _ => True) E := by
  simp only [guideStep]
  split
  · rename_i hunknown
    exact (results_throw (P := fun _ => False) (hknown hunknown)).bind fun _ h => h.elim
  · split
    · exact sendGuideStep_results hE hnone halbum hrows
    · rename_i control
      split
      · exact sendGuideStep_results hE hnone halbum hrows
      · rename_i hfilled
        have hids : album ≠ [] := fun h => hfilled (List.isEmpty_iff.2 h)
        refine (replaceAlbum_results hE).bind fun kept hkept' => ?_
        refine Turn.Results.bind (P := fun _ => True) (results_ofExcept (fun _ _ => trivial)
          (hrows kept (hkept' ▸ hkept hids (by simp) _))) fun rows _ => ?_
        exact (results_chat hE _).mono fun _ _ => trivial

end Parts

end Desk

end OrderDesk
