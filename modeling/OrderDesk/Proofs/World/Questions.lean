import OrderDesk.Proofs.Conversation.Quotation
import OrderDesk.Proofs.World.Removal

/-!
# The frequent questions

The number of a question is counted in three places: the settings are checked for it, the buttons are
built from it, and the answer is looked up by it.  The three agree (`Desk.questions_answered`).  There
is a code for each of the first `maxFaqEntries` questions and for no other, so keyboards are built for
just as many questions as valid settings have, and the code of a row leads back to the question that
the row is labelled with (`QuestionRows`).
-/

namespace OrderDesk

open Chat (Button Rows)
open Desk (Call)
open Phrase (Book)

variable {texts : Book} {settings : Settings} {entries : List FaqEntry}

/-! ## Buttons for questions -/

/-- A button for each question, in a row of its own and in the same order. -/
structure QuestionRows (entries : List FaqEntry) (rows : Rows) : Prop where
  length : rows.length = entries.length
  entry : ∀ i entry, entries[i]? = some entry → ∃ b : Button, rows[i]? = some [b] ∧
    b.label = entry.question ∧ b.StandsFor (.faqAnswer i)

namespace Keyboards

/-- As long as there are codes for the questions, each of them has its button. -/
theorem faqRows_questions (h : entries.length ≤ maxFaqEntries) :
    ∃ rows, faqRows entries = .ok rows ∧ QuestionRows entries rows := by
  obtain ⟨rows, hrows, hlength, hbuttons⟩ := CodeBand.rows_standFor .faqAnswer
    (fun (entry : FaqEntry) _ => entry.question) (fun i => rfl) (by decide) (by decide) h
  exact ⟨rows, hrows, hlength, hbuttons⟩

/-- The first question beyond the codes has none. -/
theorem faqRows_tooMany (h : maxFaqEntries < entries.length) :
    faqRows entries = .error (.outOfBand maxFaqEntries) := by
  have hfirst : (entries.take maxFaqEntries).length = maxFaqEntries := by
    rw [List.length_take]
    omega
  obtain ⟨rows, hrows, -⟩ := faqRows_questions (Nat.le_of_eq hfirst)
  have hbeyond : (Action.faqAnswer maxFaqEntries).data = .error (.outOfBand maxFaqEntries) := by
    have hcode : (Action.faqAnswer maxFaqEntries).code = .error (.outOfBand maxFaqEntries) :=
      CodeBand.code_eq_error_iff.2 ⟨Nat.le_refl _, rfl⟩
    rw [Action.data, hcode]
    rfl
  unfold faqRows at hrows ⊢
  rw [← List.take_append_drop maxFaqEntries entries, List.drop_eq_getElem_cons h,
    List.zipIdx_append, hfirst, List.mapM_append, hrows, List.zipIdx_cons, List.mapM_cons,
    Nat.zero_add]
  simp only [hbeyond]
  rfl

/-- Keyboards fail for the number of questions alone. -/
theorem of_eq_error_iff {e : CallbackError} :
    of texts settings = .error e ↔
      maxFaqEntries < settings.faq.length ∧ e = .outOfBand maxFaqEntries := by
  have htooMany : maxFaqEntries < settings.faq.length →
      of texts settings = .error (.outOfBand maxFaqEntries) := fun h => by
    rw [of, faqRows_tooMany h]
    rfl
  constructor
  · intro h
    rcases Nat.lt_or_ge maxFaqEntries settings.faq.length with hmany | hfew
    · exact ⟨hmany, Except.error.inj (h.symm.trans (htooMany hmany))⟩
    · obtain ⟨keyboards, hkeyboards⟩ := (gives_keyboards texts settings).eq_ok hfew
      cases hkeyboards.symm.trans h
  · rintro ⟨hmany, rfl⟩
    exact htooMany hmany

end Keyboards

/-! ## Answers -/

/-- A question with its answer, as it is sent. -/
def FaqEntry.text (entry : FaqEntry) : String := "❓ " ++ entry.question ++ "\n\n" ++ entry.answer

namespace Surroundings

variable {W : Type} (S : Surroundings W) {w : W} {desk : Desk} {sender : Chat.Sender} {c : Customer}
  {b : Button} {i : Nat} {entry : FaqEntry}

theorem calls_faqAnswer (hentry : desk.settings.faq[i]? = some entry) (chat : Int64) (v : W) :
    S.calls (desk.faqAnswer chat i) v = [.chat (.sendText chat entry.text none)] := by
  have hanswer : desk.faqAnswer chat i = Desk.sendText chat entry.text none := by
    rw [Desk.faqAnswer, hentry]
    rfl
  rw [hanswer]
  exact (Desk.along_sendText (Q := (· = _)) rfl).run (S.met_any _ v)

/-- A press of the button of a question has it answered and does nothing else. -/
theorem press_faqAnswer (hc : (S.memory w).customer? sender.id = some c)
    (hb : b.StandsFor (.faqAnswer i)) (hentry : desk.settings.faq[i]? = some entry) (chat : Int64)
    (message : Option Int32) :
    let press := desk.dispatch (.press chat sender message b.data)
    S.calls press w =
        [.store (.customer sender.id), .chat (.sendText chat entry.text none)] ∧
      S.memory (S.run press w).2 = S.memory w := by
  obtain ⟨data, hdecode, hcode⟩ := hb
  have hrespond : desk.respond c (.press chat sender message b.data) = desk.faqAnswer chat i :=
    Desk.respond_press hdecode hcode fun s hs => by cases hs
  obtain ⟨v, -, -, hcalls, -⟩ :=
    S.dispatch_recalled desk (.press chat sender message b.data) hc
  rw [hrespond, S.calls_faqAnswer hentry] at hcalls
  refine ⟨hcalls, ?_⟩
  rw [memory_run, hcalls]
  rfl

end Surroundings

/-! ## From the settings to the answer -/

/-- Settings that are valid open a desk.  Its questions have a row each, in order and labelled with
the question, and a press of the row by a customer who is kept sends the question with its answer and
changes nothing in the store, whatever step the customer is in and wherever the desk runs.  Keyboards
are not built exactly when there are more questions than codes. -/
theorem Desk.questions_answered (texts : Book) (settings : Settings) :
    (settings.validate = .ok () →
      ∃ desk, Desk.open texts settings = .ok desk ∧
        desk.keyboards.faq.length = settings.faq.length ∧
        ∀ (i : Nat) (entry : FaqEntry), settings.faq[i]? = some entry →
          ∃ b : Button, desk.keyboards.faq[i]? = some [b] ∧ b.label = entry.question ∧
            ∀ {W : Type} (S : Surroundings W) (w : W) (chat : Int64) (sender : Chat.Sender)
              (message : Option Int32) (c : Customer),
              (S.memory w).customer? sender.id = some c →
              let press := desk.dispatch (.press chat sender message b.data)
              S.calls press w = [.store (.customer sender.id), .chat (.sendText chat
                  ("❓ " ++ entry.question ++ "\n\n" ++ entry.answer) none)] ∧
                S.memory (S.run press w).2 = S.memory w) ∧
    ∀ e, Keyboards.of texts settings = .error e ↔
      maxFaqEntries < settings.faq.length ∧ e = .outOfBand maxFaqEntries := by
  refine ⟨fun hvalid => ?_, fun e => Keyboards.of_eq_error_iff⟩
  obtain ⟨desk, hopen, rfl, hkeyboards⟩ := Desk.open_valid texts hvalid
  obtain ⟨hfaq, -⟩ := (gives_keyboards texts desk.settings).of_eq_ok _ hkeyboards
  obtain ⟨rows, hrows, hquestions⟩ :=
    Keyboards.faqRows_questions (Settings.validate_eq_ok_iff.1 hvalid).2
  obtain rfl : desk.keyboards.faq = rows := Except.ok.inj (hfaq.symm.trans hrows)
  refine ⟨desk, hopen, hquestions.length, fun i entry hentry => ?_⟩
  obtain ⟨b, hrow, hlabel, hb⟩ := hquestions.entry i entry hentry
  exact ⟨b, hrow, hlabel, fun S w chat sender message c hc =>
    S.press_faqAnswer hc hb hentry chat message⟩

namespace Purchase

/-- Settings with as many frequent questions as wished. -/
def talkative (n : Nat) : Settings :=
  { Settings.standard with faq := List.replicate n ⟨"Когда?", "Скоро"⟩ }

/-- The last question of as many as there can be is answered, and one more is too many. -/
theorem last_question_answered :
    (∃ desk b, Desk.open .empty (talkative 1000) = .ok desk ∧
      desk.keyboards.faq[999]? = some [b] ∧ b.label = "Когда?" ∧
      World.surroundings.calls (desk.dispatch (.press 1 ⟨1, "Ivan", none, none⟩ none b.data))
          choosing =
        [.store (.customer 1), .chat (.sendText 1 "❓ Когда?\n\nСкоро" none)]) ∧
    Keyboards.of .empty (talkative 1001) = .error (.outOfBand 1000) := by
  constructor
  · have hvalid : (talkative 1000).validate = .ok () := by
      refine Settings.validate_eq_ok_iff.2
        ⟨(Settings.validate_eq_ok_iff.1 Settings.validate_standard).1, ?_⟩
      exact Nat.le_of_eq List.length_replicate
    have hlast : (talkative 1000).faq[999]? = some ⟨"Когда?", "Скоро"⟩ :=
      List.getElem?_replicate_of_lt (by decide)
    obtain ⟨desk, hopen, -, hrows⟩ :=
      (Desk.questions_answered .empty (talkative 1000)).1 hvalid
    obtain ⟨b, hrow, hlabel, hpress⟩ := hrows 999 _ hlast
    exact ⟨desk, b, hopen, hrow, hlabel,
      (hpress World.surroundings choosing 1 ⟨1, "Ivan", none, none⟩ none chooser rfl).1⟩
  · refine ((Desk.questions_answered .empty (talkative 1001)).2 _).2 ⟨?_, rfl⟩
    exact Nat.lt_of_lt_of_eq (by decide) List.length_replicate.symm

end Purchase

end OrderDesk
