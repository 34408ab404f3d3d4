import OrderDesk.Proofs.Conversation.Presses
import OrderDesk.Proofs.Conversation.Surroundings

/-!
# From an amount to a price

An amount is asked for in two places, at the end of a calculation and before the link of a position.
Both make a price of it by complete terms and the rate of the moment (`Terms.Complete.quotation`).
The calculator tells the price and keeps nothing (`calculatorAmount_comesTo`); of a position the draft
keeps it (`handlePrice_comesTo`).  Where there is no price both end in the reason, before anything is
written or said (`Desk.ComesTo`).
-/

namespace OrderDesk

namespace Terms.Complete

/-- Complete terms among those that may be left open. -/
def terms (t : Terms.Complete) : Terms := ⟨some t.orderType, some t.location, some t.category⟩

/-- The price of an amount by the reply to the question for the rate. -/
def quotation (t : Terms.Complete) (yuan : UInt64) (rate : Except PricingError Float) :
    Except PricingError UInt64 := do
  t.price yuan (← rate)

end Terms.Complete

/-- A quotation by complete terms asks for the rate, once. -/
theorem Turn.along_quote {A : (c : Desk.Call) → c.Reply → Prop} (t : Terms.Complete) (yuan : UInt64)
    (Q : List Desk.Call → Except Failure UInt64 → Prop) :
    (Turn.quote yuan t.terms).run.Along A Q ↔
      ∀ r, A .rate r → Q [.rate] ((t.quotation yuan r).mapError .pricing) := by
  have hquote : Turn.quote yuan t.terms = Turn.rate >>= fun r =>
      Turn.ofExcept .pricing r >>= fun rate => Turn.ofExcept .pricing (t.price yuan rate) := rfl
  rw [hquote, Program.along_run_bind, Turn.rate, Turn.along_ask]
  refine forall_congr' fun r => imp_congr_right fun _ => ?_
  cases r with
  | error e => exact Program.along_pure
  | ok rate => exact Turn.along_ofExcept _ _ _

namespace Desk

variable {desk : Desk} {σ : Sources} {A : (c : Call) → c.Reply → Prop} {chat : Int64} {c : Customer}
  {text : String} {yuan : UInt64} {t : Terms.Complete}

/-- A message is one call, whatever the chat replies. -/
theorem along_sendText {keyboard : Option Chat.Keyboard} {Q : List Call → Prop}
    (h : Q [.chat (.sendText chat text keyboard)]) :
    (sendText chat text keyboard).run.Along A fun cs _ => Q cs := by
  have hsend : sendText chat text keyboard =
      Turn.ask (.chat (.sendText chat text keyboard)) >>= fun r =>
        Turn.ofExcept .chat r >>= fun _ => pure () := rfl
  rw [hsend, Program.along_run_bind, Turn.along_ask]
  intro r _
  cases r with
  | error e => exact Program.along_pure.2 h
  | ok message => exact Program.along_pure.2 h

/-- A reply in a turn of a customer who is kept, as far as it is known. -/
def Sources.Grants (σ : Sources) (customer : Int64) (c : Call) (r : c.Reply) : Prop :=
  Granted customer c r ∧ σ.Gives c r

/-- An amount has come to a price, about which the given calls are made, or to none, which is the
failure that the turn ends in. -/
def ComesTo (told : UInt64 → List Call) :
    Except PricingError UInt64 → List Call → Except Failure Unit → Prop
  | .ok rub, cs, _ => cs = .rate :: told rub
  | .error e, cs, res => cs = [.rate] ∧ res = .error (.pricing e)

/-- An amount comes to what is quoted for it. -/
theorem quote_bind_comesTo {f : UInt64 → Turn Unit} {told : UInt64 → List Call}
    (hf : ∀ rub, (f rub).run.Along (σ.Grants c.id) fun cs _ => cs = told rub) :
    (Turn.quote yuan t.terms >>= f).run.Along (σ.Grants c.id) fun cs res =>
      ∃ r, σ.rate r ∧ ComesTo told (t.quotation yuan r) cs res := by
  rw [Program.along_run_bind, Turn.along_quote]
  intro r hr
  cases hprice : t.quotation yuan r with
  | error e => exact ⟨r, hr.2, by rw [hprice]; exact ⟨rfl, rfl⟩⟩
  | ok rub =>
    refine (hf rub).mono fun cs res hcs => ⟨r, hr.2, ?_⟩
    rw [hprice, hcs]
    rfl

/-- What the calculator does about a price: the calculation is over, and the price is told. -/
def estimate (desk : Desk) (chat : Int64) (c : Customer) (rub : UInt64) : List Call :=
  [.store (.updateStep c.id .idle),
    .chat (.sendText chat (desk.texts.getWith "calculator-result" [("price_rub", amountText rub)])
      (some (.inline desk.keyboards.calculateMore)))]

theorem calculatorAmount_comesTo (hyuan : Answer.price? text = some yuan)
    (hterms : c.calculatorTerms = t.terms) :
    (desk.calculatorAmount chat c text).run.Along (σ.Grants c.id) fun cs res =>
      ∃ r, σ.rate r ∧ ComesTo (desk.estimate chat c) (t.quotation yuan r) cs res := by
  rw [calculatorAmount, hyuan, hterms]
  refine quote_bind_comesTo fun rub => ?_
  rw [Turn.goTo, Program.along_run_bind, Turn.along_store]
  intro r hr
  -- the step of a customer who is kept can be changed
  obtain rfl : r = Except.ok () := hr.1 rfl
  exact along_sendText rfl

/-- The change of a record whose draft gets its price. -/
def pricedDraft (draft : Draft) (yuan rub : UInt64) : Customer.Update :=
  { Customer.Update.none with
    draft := some (some { draft with priceYuan := some yuan, priceRub := some rub })
    step := some .link }

/-- What is done about the price of a position: the draft keeps it, and it is told. -/
def priceDraft (desk : Desk) (chat : Int64) (c : Customer) (draft : Draft) (yuan rub : UInt64) :
    List Call :=
  [.store (.updateCustomer c.id (pricedDraft draft yuan rub)),
    .chat (.sendText chat (desk.texts.getWith "price-calculated" [("price_rub", amountText rub)])
      none)]

theorem handlePrice_comesTo {draft : Draft} (hyuan : Answer.price? text = some yuan)
    (hdraft : c.draft = some draft)
    (hterms : { c.terms with category := draft.category <|> c.terms.category } = t.terms) :
    (desk.handlePrice chat c text).run.Along (σ.Grants c.id) fun cs res =>
      ∃ r, σ.rate r ∧
        ComesTo (desk.priceDraft chat c draft yuan) (t.quotation yuan r) cs res := by
  have hcollected : draftOf c = pure draft := by rw [draftOf, hdraft]
  simp only [handlePrice, hyuan, hcollected, pure_bind, hterms]
  refine quote_bind_comesTo fun rub => ?_
  rw [Turn.update, Program.along_run_bind, Turn.along_store]
  intro r hr
  obtain rfl : r = Except.ok () := hr.1 rfl
  exact along_sendText rfl

end Desk

end OrderDesk
