import OrderDesk.Proofs.World.Calculator

/-!
# The calculator tells what an order would cost

A customer with an empty cart can find out the price of a position in two ways: in the calculator, or
by collecting the position up to the amount.  The two ways have their own buttons and their own part
of the record, and the second one asks for a size and a price button on the way.  Both come to the
same price for the same choices, or fail for the same reason (`Surroundings.estimate_agrees`), whatever
was left in the record by earlier calculations and positions.

Each way is a flow, so the terms at its end are those that were chosen (`Flow.Collects.after`).  The
size and the price button keep terms and weight class (`leads_size`, `leads_button`), and the draft
then is priced by the same terms as the calculation.
-/

namespace OrderDesk

open Chat.Event (Presses Types)
open Desk (Call Sources)
open Store (Memory)

/-- The rate is asked for with one answer. -/
def Desk.Sources.withRate (r : Except PricingError Float) : Sources :=
  { Sources.any with rate := (· = r) }

/-! ## From the weight class to the amount -/

/-- The terms are chosen, and there is a draft that knows its weight class. -/
def Customer.Drafts (route : Route) (k : Category) (c : Customer) : Prop :=
  c.terms = (route.terms k).terms ∧ ∃ draft, c.draft = some draft ∧ draft.category = some k

namespace Desk

variable {desk : Desk} {id : Int64} {text size : String} {route : Route} {k : Category}

theorem leads_size (htext : Command.ofText? desk.keyboards text = none)
    (hsize : Answer.size? text = some size) :
    desk.Leads (Types id text) (Flow.position.Chosen route k) fun c =>
      c.step = .button ∧ c.Drafts route k := by
  refine leads_text (i := .size) htext (fun c hc => hc.2.1) ?_
  rintro c chat ⟨hterms, -, draft, hdraft, hcategory⟩
  have hcollected : draftOf c = pure draft := by rw [draftOf, hdraft]
  simp only [take, handleSize, hsize, hcollected, pure_bind]
  exact Turn.update_bind_writes ⟨_, rfl, rfl, hterms, _, rfl, hcategory⟩ sendRows_reads

theorem leads_button (desk : Desk) (b : PriceButton) :
    desk.Leads (Presses id (.button b)) (fun c => c.step = .button ∧ c.Drafts route k) fun c =>
      c.step = .price ∧ c.Drafts route k := by
  refine leads_press (fun c hc s hs => hc.1.trans (Option.some.inj hs)) ?_
  rintro c chat data message ⟨-, hterms, draft, hdraft, hcategory⟩
  have hcollected : draftOf c = pure draft := by rw [draftOf, hdraft]
  simp only [act, handleButton, hcollected, pure_bind]
  exact Turn.update_bind_writes ⟨_, rfl, rfl, hterms, _, rfl, hcategory⟩ send_reads

end Desk

/-! ## The two prices -/

namespace Surroundings

variable {W : Type} (S : Surroundings W) {desk : Desk} {σ : Sources} {w : W} {id : Int64}
  {route : Route} {k : Category} {text : String} {yuan : UInt64} {event : Chat.Event}

theorem after_append (desk : Desk) (w : W) (events rest : List Chat.Event) :
    S.after desk w (events ++ rest) = S.after desk (S.after desk w events) rest :=
  List.foldl_append

section Amount

variable (htext : Command.ofText? desk.keyboards text = none)
  (hyuan : Answer.price? text = some yuan) (htyped : event.Types id text)
  (hmet : (desk.dispatch event).run.Met S.serve σ.Gives w)
include htext hyuan htyped hmet

/-- The calculator is told an amount. -/
theorem types_estimate (hw : (S.memory w).Keeps id (Flow.calculator.Chosen route k)) :
    ∃ r cs c, σ.rate r ∧ c.id = id ∧
      S.calls (desk.dispatch event) w = .store (.customer id) :: cs ∧
      Desk.ComesTo (desk.estimate event.chat c) ((route.terms k).quotation yuan r) cs
        (S.run (desk.dispatch event) w).1 := by
  obtain ⟨chat, sender, rfl, rfl⟩ := htyped
  obtain ⟨c, hc, hterms, hstep⟩ := hw
  have hq : desk.understand c (.text chat sender text) = .ok (.answer .calculatorAmount text) :=
    desk.understand_answer htext hstep
  obtain ⟨r, cs, hr, hcalls, hcomes⟩ := S.dispatch_estimate hc hq hyuan hterms hmet
  exact ⟨r, cs, c, hr, Memory.customer?_id hc, hcalls, hcomes⟩

/-- The amount of a position is told. -/
theorem types_price
    (hw : (S.memory w).Keeps id fun c => c.step = .price ∧ c.Drafts route k) :
    ∃ r cs c draft, σ.rate r ∧ (S.memory w).customer? id = some c ∧
      S.calls (desk.dispatch event) w = .store (.customer id) :: cs ∧
      Desk.ComesTo (desk.priceDraft event.chat c draft yuan) ((route.terms k).quotation yuan r) cs
        (S.run (desk.dispatch event) w).1 := by
  obtain ⟨chat, sender, rfl, rfl⟩ := htyped
  obtain ⟨c, hc, hstep, hterms, draft, hdraft, hcategory⟩ := hw
  have hpriced : { c.terms with category := draft.category <|> c.terms.category } =
      (route.terms k).terms := by
    rw [hterms, hcategory]
    rfl
  have hrespond : (desk.respond c (.text chat sender text)).run.Along (σ.Grants c.id) fun cs res =>
      ∃ r, σ.rate r ∧
        Desk.ComesTo (desk.priceDraft chat c draft yuan) ((route.terms k).quotation yuan r) cs res := by
    rw [desk.respond_answer (i := .price) htext hstep]
    exact Desk.handlePrice_comesTo hyuan hdraft hpriced
  obtain ⟨r, cs, hr, hcalls, hcomes⟩ := S.dispatch_comesTo hc hrespond hmet
  exact ⟨r, cs, c, draft, hr, hc, hcalls, hcomes⟩

end Amount

/-- A price of a position is kept by the draft. -/
theorem memory_priceDraft {c : Customer} {draft : Draft} {rub : UInt64}
    (hc : (S.memory w).customer? id = some c)
    (hcalls : S.calls (desk.dispatch event) w =
      .store (.customer id) :: .rate :: desk.priceDraft event.chat c draft yuan rub) :
    (S.memory (S.run (desk.dispatch event) w).2).Keeps id fun c' =>
      ∃ draft', c'.draft = some draft' ∧ draft'.priceYuan = some yuan ∧
        draft'.priceRub = some rub := by
  have hid : c.id = id := Memory.customer?_id hc
  have hwrites : Desk.writes (S.calls (desk.dispatch event) w) =
      [.updateCustomer c.id (Desk.pricedDraft draft yuan rub)] := by
    rw [hcalls]
    rfl
  refine ⟨c.apply (Desk.pricedDraft draft yuan rub), ?_, _, rfl, rfl, rfl⟩
  rw [memory_run, hwrites, hid, Memory.foldl_updateCustomer hc, ← hid]
  exact Memory.customer?_putCustomer _ _

/-- For a customer with an empty cart the calculator and the collecting of a position come to the same
price for the same choices and the same amount, or fail for the same reason. -/
theorem estimate_agrees (desk : Desk) {r : Except PricingError Float} {sizeText size : String}
    {b : PriceButton} {asked begun : List Chat.Event} {told sized coloured priced : Chat.Event}
    (hcart : (S.memory w).Keeps id fun c => c.cart.isEmpty)
    (htext : Command.ofText? desk.keyboards text = none) (hyuan : Answer.price? text = some yuan)
    (hsizeText : Command.ofText? desk.keyboards sizeText = none)
    (hsize : Answer.size? sizeText = some size)
    (hasked : List.Forall₂ (Presses id) (.calculator :: Flow.calculator.buttons route k) asked)
    (htold : told.Types id text)
    (hbegun : List.Forall₂ (Presses id) (.addPosition :: Flow.position.buttons route k) begun)
    (hsized : sized.Types id sizeText) (hcoloured : coloured.Presses id (.button b))
    (hpriced : priced.Types id text)
    (htoldRate : (desk.dispatch told).run.Met S.serve (Sources.withRate r).Gives
      (S.after desk w asked))
    (hpricedRate : (desk.dispatch priced).run.Met S.serve (Sources.withRate r).Gives
      (S.after desk w (begun ++ [sized, coloured]))) :
    let v := S.after desk w asked
    let v' := S.after desk w (begun ++ [sized, coloured])
    match (route.terms k).quotation yuan r with
    | .ok rub =>
      S.calls (desk.dispatch told) v =
        [.store (.customer id), .rate, .store (.updateStep id .idle),
          .chat (.sendText told.chat
            (desk.texts.getWith "calculator-result" [("price_rub", amountText rub)])
            (some (.inline desk.keyboards.calculateMore)))] ∧
      (S.memory (S.run (desk.dispatch priced) v').2).Keeps id fun c =>
        ∃ draft, c.draft = some draft ∧ draft.priceYuan = some yuan ∧ draft.priceRub = some rub
    | .error e =>
      (S.calls (desk.dispatch told) v = [.store (.customer id), .rate] ∧
        (S.run (desk.dispatch told) v).1 = .error (.pricing e)) ∧
      S.calls (desk.dispatch priced) v' = [.store (.customer id), .rate] ∧
        (S.run (desk.dispatch priced) v').1 = .error (.pricing e) := by
  dsimp only
  -- the calculation
  have hchosen : (S.memory (S.after desk w asked)).Keeps id (Flow.calculator.Chosen route k) :=
    (Flow.calculator_collects desk id).after route k hasked (hcart.mono fun _ _ => trivial)
  obtain ⟨r₁, cs₁, c₁, rfl, rfl, hcalls₁, hcomes₁⟩ :=
    S.types_estimate htext hyuan htold htoldRate hchosen
  -- the position
  have hweight : (S.memory (S.after desk w begun)).Keeps c₁.id (Flow.position.Chosen route k) :=
    (Flow.position_collects desk c₁.id).after route k hbegun hcart
  have hbutton := (Desk.leads_size hsizeText hsize).after hsized hsized.sender_id hweight
  have hamount := (desk.leads_button b).after hcoloured hcoloured.sender_id hbutton
  rw [S.after_append] at hpricedRate ⊢
  obtain ⟨r₂, cs₂, c₂, draft, rfl, hc₂, hcalls₂, hcomes₂⟩ :=
    S.types_price htext hyuan hpriced hpricedRate hamount
  cases hprice : (route.terms k).quotation yuan r₂ with
  | ok rub =>
    rw [hprice] at hcomes₁ hcomes₂
    obtain rfl : cs₁ = .rate :: desk.estimate told.chat c₁ rub := hcomes₁
    obtain rfl : cs₂ = .rate :: desk.priceDraft priced.chat c₂ draft yuan rub := hcomes₂
    exact ⟨hcalls₁, S.memory_priceDraft hc₂ hcalls₂⟩
  | error e =>
    rw [hprice] at hcomes₁ hcomes₂
    obtain ⟨rfl, hfailed₁⟩ := hcomes₁
    obtain ⟨rfl, hfailed₂⟩ := hcomes₂
    exact ⟨⟨hcalls₁, hfailed₁⟩, hcalls₂, hfailed₂⟩

end Surroundings

/-! ## In a world -/

namespace World

variable {desk : Desk}

/-- During a turn a world has one answer to the question for the rate. -/
theorem met_withRate {α : Type} (t : Turn α) (w : World) :
    t.run.Met serve (Sources.withRate (usableRate w.rate)).Gives w := by
  refine Program.met_of_invariant (I := fun v : World => v.rate = w.rate) (fun c v hv => ?_) t.run rfl
  refine ⟨?_, (serve_rate c v).trans hv⟩
  cases c with
  | rate => exact congrArg usableRate hv
  | _ => trivial

/-- Events do not change the rate. -/
theorem rate_after (desk : Desk) (w : World) (events : List Chat.Event) :
    (surroundings.after desk w events).rate = w.rate := by
  refine List.foldlRecOn events _ (motive := fun v : World => v.rate = w.rate) rfl ?_
  intro v hv event _
  exact Program.run_invariant (I := fun v : World => v.rate = w.rate)
    (fun c v hv => (serve_rate c v).trans hv) (desk.dispatch event).run hv

/-- After events as well, the answer is the one before them. -/
theorem met_withRate_after {α : Type} (t : Turn α) (w : World) (events : List Chat.Event) :
    t.run.Met serve (Sources.withRate (usableRate w.rate)).Gives
      (surroundings.after desk w events) := by
  have hmet := met_withRate t (surroundings.after desk w events)
  rwa [rate_after] at hmet

end World

namespace Purchase

theorem types_types (text : String) : (types text).Types 1 text := ⟨1, _, rfl, rfl⟩

theorem presses_presses {code : String} {n : Int32} {a : Action}
    (hdecode : ButtonData.decode code = .ok (.bare n)) (hcode : Action.ofCode? n = some a) :
    (presses code).Presses 1 a :=
  ⟨1, _, none, code, .bare n, rfl, rfl, hdecode, hcode⟩

/-- A customer with an empty cart who has left a calculation and a position half done. -/
def undecided : Customer :=
  { Customer.fresh 1 "Ivan" with
    step := .calculatorAmount, terms := ⟨some .express, some .other, some .light⟩
    calculatorTerms := ⟨some .express, some .other, some .heavy⟩
    draft := some (.start (Uuid.ofNat 7) (some .light)) }

/-- The world of that customer. -/
def estimating : World := { opening with memory := ⟨[undecided], [], []⟩ }

/-- The calculation of 100 yuan for shoes that go to Izhevsk at normal speed. -/
def estimation : List Chat.Event := [presses "21", presses "23", presses "25", presses "29"]

/-- The position of the same shoes. -/
def collection : List Chat.Event := [presses "9", presses "11", presses "13", presses "17"]

set_option maxRecDepth 2000 in
/-- Both come to the same price. -/
theorem shoes_estimated :
    World.surroundings.calls (Desk.bare.dispatch (types "100"))
        (World.surroundings.after Desk.bare estimating estimation) =
      [.store (.customer 1), .rate, .store (.updateStep 1 .idle),
        .chat (.sendText 1 (Desk.bare.texts.getWith "calculator-result" [("price_rub", "1259")])
          (some (.inline [])))] ∧
    (World.surroundings.run (Desk.bare.dispatch (types "100"))
      (World.surroundings.after Desk.bare estimating
        (collection ++ [types "42", presses "19"]))).2.memory.Keeps 1 fun c =>
      ∃ draft, c.draft = some draft ∧ draft.priceYuan = some 100 ∧ draft.priceRub = some 1259 := by
  have hundecided : (World.surroundings.memory estimating).Keeps 1 fun c => c.cart.isEmpty :=
    ⟨undecided, rfl, rfl⟩
  have hamount : Command.ofText? Desk.bare.keyboards "100" = none := by decide_cbv
  have hyuan : Answer.price? "100" = some 100 := by decide_cbv
  have hplain : Command.ofText? Desk.bare.keyboards "42" = none := by decide_cbv
  have hsize : Answer.size? "42" = some "42" := by decide +kernel
  have hestimation : List.Forall₂ (Presses 1)
      (.calculator :: Flow.calculator.buttons (.normal .izhevsk) .other) estimation :=
    .cons (presses_presses (n := 21) (by decide +kernel) (by decide)) <|
    .cons (presses_presses (n := 23) (by decide +kernel) (by decide)) <|
    .cons (presses_presses (n := 25) (by decide +kernel) (by decide)) <|
    .cons (presses_presses (n := 29) (by decide +kernel) (by decide)) .nil
  have hcollection : List.Forall₂ (Presses 1)
      (.addPosition :: Flow.position.buttons (.normal .izhevsk) .other) collection :=
    .cons (presses_presses (n := 9) (by decide +kernel) (by decide)) <|
    .cons (presses_presses (n := 11) (by decide +kernel) (by decide)) <|
    .cons (presses_presses (n := 13) (by decide +kernel) (by decide)) <|
    .cons (presses_presses (n := 17) (by decide +kernel) (by decide)) .nil
  have hgrey : (presses "19").Presses 1 (.button .grey) :=
    presses_presses (n := 19) (by decide +kernel) (by decide)
  have hagree := World.surroundings.estimate_agrees Desk.bare hundecided hamount hyuan hplain hsize
    hestimation (types_types "100") hcollection (types_types "42") hgrey (types_types "100")
    (World.met_withRate_after _ estimating _) (World.met_withRate_after _ estimating _)
  have hprice : ((Route.normal .izhevsk).terms .other).quotation 100 (usableRate estimating.rate) =
      .ok 1259 := rfl
  rw [hprice] at hagree
  exact hagree

end Purchase

end OrderDesk
