import OrderDesk.Proofs.Conversation.Carried
import OrderDesk.Proofs.Conversation.Request

/-!
# Whose business a turn is

A call is `Private` to a customer and a chat if it is about the customer's own record or orders, or
says something in that chat; the rate, the shelf, the clock and new identifiers are nobody's.  Most
handlers are more modest.  They keep no order, and only those that deal with albums or with the
message under the pressed button do more in the chat than send texts without message ids
(`Call.Ordinary`).

Every handler is followed along its text: whatever replies it gets, it makes such calls only
(`fulfil_asks`).  There are two exceptions.  An order is looked up by the short identifier that a
button carries (`ownOrder?`), and an address asks for a short identifier that no order has; what
follows the one is ordinary again, and what follows the other keeps an order of the customer
(`paid_eq`, `handleDeliveryAddress_eq`).
-/

namespace OrderDesk

/-- The chat in which something is done. -/
def Chat.Call.chat : Chat.Call → Int64
  | sendText chat _ _ => chat
  | sendAlbum chat _ => chat
  | editPhoto chat _ _ => chat
  | editButtons chat _ _ => chat
  | delete chat _ => chat

/-- An action that leaves albums and the message under the pressed button as they are. -/
def Action.isPlain : Action → Bool
  | catalog => false
  | catalogPrev => false
  | catalogNext => false
  | guideStep _ => false
  | removePosition _ => false
  | _ => true

/-- A call is about one customer or in one chat. -/
def Desk.Call.Private (id chat : Int64) : Desk.Call → Prop
  | .store (.customer i) => i = id
  | .store (.saveCustomer c) => c.id = id
  | .store (.updateCustomer i _) => i = id
  | .store (.updateStep i _) => i = id
  | .store (.saveOrder o) => o.buyer.id = id
  | .store (.ordersOf i) => i = id
  | .store (.markPaid i _) => i = id
  | .store _ => False
  | .chat c => c.chat = chat
  | _ => True

/-- A call about one customer or in one chat that keeps no order.  If `plain` holds, what is said is
a text whose buttons carry no message ids. -/
def Desk.Call.Ordinary (plain : Prop) (id chat : Int64) : Desk.Call → Prop
  | .store (.updateCustomer i _) => i = id
  | .store (.updateStep i _) => i = id
  | .store (.ordersOf i) => i = id
  | .store (.markPaid i _) => i = id
  | .store _ => False
  | .chat c => c.chat = chat ∧ (plain → c.IsPlain)
  | _ => True

theorem Desk.Call.Ordinary.private {p : Prop} {id chat : Int64} {call : Desk.Call}
    (h : call.Ordinary p id chat) : call.Private id chat := by
  cases call with
  | store call => cases call <;> first | exact h | exact h.elim
  | chat call => exact h.1
  | _ => trivial

namespace Turn

variable {α β : Type} {B : Desk.Call → Prop}

/-- A turn makes such calls only, whatever it is replied. -/
def Asks (B : Desk.Call → Prop) (t : Turn α) : Prop :=
  t.run.Along (fun _ _ => True) fun cs _ => ∀ c ∈ cs, B c

theorem asks_pure (a : α) : (pure a : Turn α).Asks B := Program.along_pure.2 (List.forall_mem_nil _)

theorem asks_throw (e : Failure) : (throw e : Turn α).Asks B :=
  Program.along_pure.2 (List.forall_mem_nil _)

theorem asks_ofExcept {ε : Type} (wrap : ε → Failure) (x : Except ε α) :
    (ofExcept wrap x).Asks B := by
  cases x with
  | error e => exact asks_throw _
  | ok a => exact asks_pure a

theorem asks_ask {c : Desk.Call} (h : B c) : (ask c).Asks B :=
  Program.along_ask.2 fun _ _ => Program.along_pure.2 (List.forall_mem_singleton.2 h)

theorem Asks.bind {t : Turn α} {f : α → Turn β} (h : t.Asks B) (hf : ∀ a, (f a).Asks B) :
    (t >>= f).Asks B := by
  refine (Program.along_run_bind t f _).2 (Program.Along.mono h ?_)
  rintro cs (e | a) hcs
  · exact hcs
  · refine Program.Along.mono (hf a) fun ds _ hds => ?_
    exact List.forall_mem_append.2 ⟨hcs, hds⟩

theorem Asks.mono {t : Turn α} {C : Desk.Call → Prop} (h : t.Asks B) (hBC : ∀ c, B c → C c) :
    t.Asks C := Program.Along.mono h fun _ _ hcs c hc => hBC c (hcs c hc)

/-- What all calls are like, those of a run are like. -/
theorem Asks.run {t : Turn α} {W : Type} {serve : (c : Desk.Call) → W → c.Reply × W}
    (h : t.Asks B) (w : W) : ∀ c ∈ t.run.calls serve w, B c :=
  Program.Along.run h (Program.met_of_forall (fun _ _ => trivial) _ w)

theorem asks_store {c : Store.Call} (h : B (.store c)) : (store c).Asks B :=
  (asks_ask h).bind fun _ => asks_ofExcept _ _

theorem asks_chat {c : Chat.Call} (h : B (.chat c)) : (chat c).Asks B :=
  (asks_ask h).bind fun _ => asks_ofExcept _ _

/-- What comes after a computation may use how it ended. -/
theorem asks_ofExcept_bind {ε : Type} {wrap : ε → Failure} {x : Except ε α} {f : α → Turn β}
    (h : ∀ a, x = .ok a → (f a).Asks B) : (ofExcept wrap x >>= f).Asks B := by
  cases x with
  | error e => exact Program.along_pure.2 (List.forall_mem_nil _)
  | ok a => exact h a rfl

end Turn

namespace Desk

open Turn (asks_ask asks_chat asks_ofExcept asks_ofExcept_bind asks_pure asks_store asks_throw)

variable {desk : Desk} {chat : Int64} {id : Int64} {c : Customer} {p : Prop}

/-! ## Parts of handlers -/

theorem update_asks {u : Customer.Update} :
    (Turn.update c u).Asks (Call.Ordinary p c.id chat) := asks_store rfl

theorem goTo_asks {s : Step} : (Turn.goTo c s).Asks (Call.Ordinary p c.id chat) :=
  asks_store rfl

theorem sendText_asks {text : String} {keyboard : Option Chat.Keyboard}
    (h : p → Chat.Plain (Chat.Call.sendText chat text keyboard).buttons) :
    (sendText chat text keyboard).Asks (Call.Ordinary p id chat) :=
  Turn.Asks.bind (asks_chat ⟨rfl, h⟩) fun _ => asks_pure ()

/-- A text without buttons. -/
theorem sendBare_asks {text : String} :
    (sendText chat text none).Asks (Call.Ordinary p id chat) :=
  sendText_asks fun _ => List.forall_mem_nil _

theorem send_asks {key : String} : (desk.send chat key).Asks (Call.Ordinary p id chat) :=
  sendBare_asks

theorem sendInline_asks {text : String} {rows : Chat.Rows} (h : p → Chat.Plain rows.flatten) :
    (sendText chat text (some (.inline rows))).Asks (Call.Ordinary p id chat) := sendText_asks h

theorem sendRows_asks {key : String} {rows : Chat.Rows} (h : p → Chat.Plain rows.flatten) :
    (desk.sendRows chat key rows).Asks (Call.Ordinary p id chat) := sendText_asks h

/-- More than a text is said, where that is allowed. -/
theorem chat_asks {call : Chat.Call} (hplain : ¬ p) (h : call.chat = chat) :
    (Turn.chat call).Asks (Call.Ordinary p id chat) :=
  asks_chat ⟨h, fun hp => absurd hp hplain⟩

theorem showRows_asks {message : Option Int32} {key : String} {rows : Chat.Rows}
    (hplain : ¬ p) :
    (desk.showRows chat message key rows).Asks (Call.Ordinary p id chat) := by
  cases message with
  | none => exact sendRows_asks fun hp => absurd hp hplain
  | some message => exact chat_asks hplain rfl

theorem draftOf_asks : (draftOf c).Asks (Call.Ordinary p id chat) := by
  unfold draftOf
  split
  · exact asks_pure _
  · exact asks_throw _

theorem quote_asks {amount : UInt64} {terms : Terms} :
    (Turn.quote amount terms).Asks (Call.Ordinary p id chat) := by
  refine (asks_ofExcept _ _).bind fun _ => ?_
  refine (asks_ask (c := .rate) trivial).bind fun _ => ?_
  exact (asks_ofExcept _ _).bind fun _ => asks_ofExcept _ _

theorem leaveStep_asks : (leaveStep c).Asks (Call.Ordinary p c.id chat) := by
  unfold leaveStep
  split
  · exact asks_pure _
  · exact goTo_asks

theorem calculate_asks {terms : Terms} {s : Step} :
    (calculate c terms s).Asks (Call.Ordinary p c.id chat) := update_asks

/-! ## Handlers that send texts -/

theorem start_asks : (desk.start chat c).Asks (Call.Ordinary p c.id chat) := by
  have hwelcome : Chat.Plain
      (Chat.Call.sendText chat (desk.texts.get "welcome") desk.keyboards.bottomMenu).buttons :=
    List.forall_mem_nil _
  refine leaveStep_asks.bind fun _ => (sendText_asks fun _ => hwelcome).bind fun _ => ?_
  refine (asks_ask (c := .rate) trivial).bind fun r => ?_
  split
  · exact sendBare_asks
  · exact asks_pure _

theorem myOrders_asks : (desk.myOrders chat c).Asks (Call.Ordinary p c.id chat) := by
  refine Turn.Asks.bind (asks_store rfl) fun orders => ?_
  split
  · exact send_asks
  · exact sendBare_asks

theorem faqAnswer_asks {index : Nat} :
    (desk.faqAnswer chat index).Asks (Call.Ordinary p id chat) := by
  unfold faqAnswer
  split
  · exact sendBare_asks
  · exact asks_throw _

theorem handleCategory_asks {k : Category} :
    (desk.handleCategory chat c k).Asks (Call.Ordinary p c.id chat) :=
  (asks_ask (c := .newId) trivial).bind fun _ => update_asks.bind fun _ => send_asks

theorem handleButton_asks {b : PriceButton} :
    (desk.handleButton chat c b).Asks (Call.Ordinary p c.id chat) :=
  draftOf_asks.bind fun _ => update_asks.bind fun _ => send_asks

theorem handlePrice_asks {text : String} :
    (desk.handlePrice chat c text).Asks (Call.Ordinary p c.id chat) := by
  unfold handlePrice
  split
  · exact send_asks
  · refine draftOf_asks.bind fun _ => quote_asks.bind fun _ => ?_
    exact update_asks.bind fun _ => sendBare_asks

theorem editCart_asks : (desk.editCart chat c).Asks (Call.Ordinary p c.id chat) := by
  unfold editCart
  split
  · exact send_asks
  · refine asks_ofExcept_bind fun rows hrows => goTo_asks.bind fun _ => ?_
    exact sendRows_asks fun _ => editCartRows_plain hrows

theorem checkout_asks : (desk.checkout chat c).Asks (Call.Ordinary p c.id chat) := by
  unfold checkout
  split
  · exact send_asks
  · exact goTo_asks.bind fun _ => send_asks

theorem handlePhoneNumber_asks {text : String} :
    (desk.handlePhoneNumber chat c text).Asks (Call.Ordinary p c.id chat) := by
  unfold handlePhoneNumber
  split
  · exact send_asks
  · exact update_asks.bind fun _ => send_asks

/-! ## Handlers that offer keyboards that never change -/

section Fixed

variable (hd : p → desk.Plain)
include hd

theorem offer_asks {key : String} {rows : Chat.Rows} (h : rows ∈ desk.keyboards.inline) :
    (desk.sendRows chat key rows).Asks (Call.Ordinary p id chat) :=
  sendRows_asks fun hp => hd hp rows h

theorem menu_asks : (desk.menu chat c).Asks (Call.Ordinary p c.id chat) :=
  leaveStep_asks.bind fun _ => offer_asks hd (by simp [Keyboards.inline])

theorem showCart_asks : (desk.showCart chat c).Asks (Call.Ordinary p id chat) := by
  unfold showCart
  split
  · exact send_asks
  · exact sendInline_asks fun hp => hd hp _ (by simp [Keyboards.inline])

theorem addPosition_asks : (desk.addPosition chat c).Asks (Call.Ordinary p c.id chat) := by
  unfold addPosition
  split
  · exact send_asks
  · split
    · exact update_asks.bind fun _ => offer_asks hd (by simp [Keyboards.inline])
    · exact update_asks.bind fun _ => offer_asks hd (by simp [Keyboards.inline])

theorem handleOrderType_asks {t : OrderType} :
    (desk.handleOrderType chat c t).Asks (Call.Ordinary p c.id chat) := by
  cases t with
  | express => exact update_asks.bind fun _ => offer_asks hd (by simp [Keyboards.inline])
  | normal => exact update_asks.bind fun _ => offer_asks hd (by simp [Keyboards.inline])

theorem handleLocation_asks {l : Location} :
    (desk.handleLocation chat c l).Asks (Call.Ordinary p c.id chat) :=
  update_asks.bind fun _ => offer_asks hd (by simp [Keyboards.inline])

theorem handleSize_asks {text : String} :
    (desk.handleSize chat c text).Asks (Call.Ordinary p c.id chat) := by
  unfold handleSize
  split
  · exact send_asks
  · refine draftOf_asks.bind fun _ => update_asks.bind fun _ => ?_
    exact offer_asks hd (by simp [Keyboards.inline])

theorem handleLink_asks {text : String} :
    (desk.handleLink chat c text).Asks (Call.Ordinary p c.id chat) := by
  unfold handleLink
  split
  · exact send_asks
  · split
    · exact update_asks.bind fun _ => send_asks
    · refine draftOf_asks.bind fun draft => ?_
      split
      · exact asks_throw _
      · exact update_asks.bind fun _ => offer_asks hd (by simp [Keyboards.inline])

theorem calculator_asks : (desk.calculator chat c).Asks (Call.Ordinary p c.id chat) :=
  calculate_asks.bind fun _ => offer_asks hd (by simp [Keyboards.inline])

theorem calculatorOrderType_asks {t : OrderType} :
    (desk.calculatorOrderType chat c t).Asks (Call.Ordinary p c.id chat) := by
  cases t with
  | express => exact calculate_asks.bind fun _ => offer_asks hd (by simp [Keyboards.inline])
  | normal => exact calculate_asks.bind fun _ => offer_asks hd (by simp [Keyboards.inline])

theorem calculatorLocation_asks {l : Location} :
    (desk.calculatorLocation chat c l).Asks (Call.Ordinary p c.id chat) :=
  calculate_asks.bind fun _ => offer_asks hd (by simp [Keyboards.inline])

theorem calculatorAmount_asks {text : String} :
    (desk.calculatorAmount chat c text).Asks (Call.Ordinary p c.id chat) := by
  unfold calculatorAmount
  split
  · exact send_asks
  · refine quote_asks.bind fun _ => goTo_asks.bind fun _ => ?_
    exact sendInline_asks fun hp => hd hp _ (by simp [Keyboards.inline])

theorem handleFullName_asks {text : String} :
    (desk.handleFullName chat c text).Asks (Call.Ordinary p c.id chat) := by
  unfold handleFullName
  split
  · exact offer_asks hd (by simp [Keyboards.inline])
  · split
    · exact send_asks
    · exact update_asks.bind fun _ => send_asks

theorem faq_asks : (desk.faq chat).Asks (Call.Ordinary p id chat) :=
  offer_asks hd (by simp [Keyboards.inline])

end Fixed

/-! ## Handlers that change messages -/

section Messages

variable (hplain : ¬ p)
include hplain

theorem sendItem_asks {item : Catalog.Item} :
    (sendItem chat item).Asks (Call.Ordinary p id chat) := by
  simp only [sendItem]
  split
  · exact sendBare_asks.bind fun _ => asks_pure _
  · exact chat_asks hplain rfl

theorem replaceAlbum_asks {ids : List Int32} {photos : List Chat.Photo} :
    (replaceAlbum chat ids photos).Asks (Call.Ordinary p id chat) := by
  induction ids generalizing photos with
  | nil => exact asks_pure _
  | cons message ids ih =>
    cases photos with
    | nil => exact (chat_asks hplain rfl).bind fun _ => ih
    | cons photo photos =>
      exact (chat_asks hplain rfl).bind fun _ => ih.bind fun _ => asks_pure _

theorem sendGuideStep_asks {n : UInt8} :
    (desk.sendGuideStep chat n).Asks (Call.Ordinary p id chat) := by
  have rest : ∀ ids, (do
      let rows ← Turn.ofExcept .callback (guideRows desk.texts n ids)
      desk.sendRows chat (guideKey n) rows).Asks (Call.Ordinary p id chat) := fun _ =>
    (asks_ofExcept _ _).bind fun _ => sendRows_asks fun hp => absurd hp hplain
  simp only [sendGuideStep]
  split
  · exact (asks_pure _).bind rest
  · exact (chat_asks hplain rfl).bind rest

theorem guideStep_asks {n : UInt8} {album : List Int32} {control : Option Int32} :
    (desk.guideStep chat n album control).Asks (Call.Ordinary p id chat) := by
  simp only [guideStep]
  split
  · exact asks_throw _
  · split
    · exact sendGuideStep_asks hplain
    · split
      · exact sendGuideStep_asks hplain
      · exact (replaceAlbum_asks hplain).bind fun _ =>
          (asks_ofExcept _ _).bind fun _ => chat_asks hplain rfl

theorem removePosition_asks {index : Nat} {message : Option Int32} :
    (desk.removePosition chat c index message).Asks (Call.Ordinary p c.id chat) := by
  refine update_asks.bind fun _ => ?_
  split
  · cases message with
    | none => exact send_asks
    | some message => exact (chat_asks hplain rfl).bind fun _ => send_asks
  · exact (asks_ofExcept _ _).bind fun _ => showRows_asks hplain

theorem catalog_asks : (desk.catalog chat c).Asks (Call.Ordinary p c.id chat) := by
  refine (asks_ask (c := .shelf) trivial).bind fun shelf => ?_
  dsimp only
  split
  · exact send_asks
  · refine (sendItem_asks hplain).bind fun ids => ?_
    refine (asks_ask (c := .shelf) trivial).bind fun _ => ?_
    refine (asks_ofExcept _ _).bind fun rows => ?_
    refine (sendRows_asks fun hp => absurd hp hplain).bind fun _ => ?_
    split
    · exact update_asks
    · exact asks_pure _

theorem catalogStep_asks {direction : Direction} {album : List Int32} {control : Option Int32} :
    (desk.catalogStep chat c direction album control).Asks (Call.Ordinary p c.id chat) := by
  refine (asks_ask (c := .shelf) trivial).bind fun shelf => ?_
  split
  · exact asks_pure _
  · rename_i offset hoffset
    have rest : ∀ kept, (do
        Turn.update c { Customer.Update.none with catalogOffset := some offset }
        let rows ← Turn.ofExcept .callback (desk.itemRows (← Turn.shelf) offset kept)
        desk.showRows chat control "catalog-controls" rows).Asks
          (Call.Ordinary p c.id chat) := by
      intro kept
      refine update_asks.bind fun _ => (asks_ask (c := .shelf) trivial).bind fun _ => ?_
      exact (asks_ofExcept _ _).bind fun _ => showRows_asks hplain
    dsimp only
    split
    · exact (sendItem_asks hplain).bind rest
    · exact (replaceAlbum_asks hplain).bind rest

end Messages

/-! ## Orders -/

/-- An ordinary call, or one that keeps an order of the customer. -/
def Call.Ordering (plain : Prop) (id chat : Int64) (call : Call) : Prop :=
  call.Ordinary plain id chat ∨ ∃ order : Order, order.buyer.id = id ∧
    call = .store (.saveOrder order)

theorem Call.Ordering.private {call : Call} (h : call.Ordering p id chat) :
    call.Private id chat := by
  rcases h with h | ⟨order, horder, rfl⟩
  · exact h.private
  · exact horder

theorem keepOrder_asks {order : Order} (h : order.buyer.id = c.id) :
    (keepOrder c order).Asks (Call.Ordering p c.id chat) := by
  refine (update_asks.mono fun _ => .inl).bind fun _ => ?_
  refine (asks_ask (c := .store (.saveOrder order)) (.inr ⟨order, h, rfl⟩)).bind fun r => ?_
  split
  · exact asks_pure _
  · exact Turn.Asks.bind (asks_ask (.inl rfl)) fun _ => asks_throw _

/-- An address that is accepted asks for a short identifier first. -/
theorem handleDeliveryAddress_eq (desk : Desk) (chat : Int64) (c : Customer)
    {text address : String} (h : Answer.address? text = some address) :
    ∃ rest : String → Turn Unit, desk.handleDeliveryAddress chat c text =
        Turn.store .freeShortId >>= rest ∧
      ∀ shortId, (rest shortId).Asks (Call.Ordering p c.id chat) := by
  unfold handleDeliveryAddress
  rw [h]
  refine ⟨_, rfl, fun shortId => ?_⟩
  have ordinary : ∀ {α : Type} {t : Turn α}, t.Asks (Call.Ordinary p c.id chat) →
      t.Asks (Call.Ordering p c.id chat) := fun ht => ht.mono fun _ => .inl
  refine (ordinary (asks_ask (c := .newId) trivial)).bind fun _ => ?_
  refine (ordinary (asks_ask (c := .now) trivial)).bind fun _ => ?_
  refine (keepOrder_asks rfl).bind fun _ => (ordinary sendBare_asks).bind fun _ => ?_
  refine asks_ofExcept_bind fun rows hrows => ?_
  exact ordinary (sendInline_asks fun _ => paidRows_plain hrows)

/-- A payment looks the order up first. -/
theorem paid_eq (desk : Desk) (chat : Int64) (c : Customer) (shortId : String) :
    ∃ rest : Option Order → Turn Unit, desk.paid chat c (some shortId) =
        ownOrder? c shortId >>= rest ∧
      ∀ order?, (rest order?).Asks (Call.Ordinary p c.id chat) := by
  refine ⟨_, rfl, fun order? => ?_⟩
  split
  · exact send_asks
  · exact Turn.Asks.bind (asks_store rfl) fun _ => sendBare_asks

/-! ## All requests -/

/-- A request that only makes private calls. -/
def Request.isPrivate : Request → Bool
  | answer .deliveryAddress _ => false
  | press .paid _ _ => false
  | _ => true

/-- A request that is answered with texts only, none of whose buttons carry message ids. -/
def Request.isPlain : Request → Bool
  | press a _ _ => a.isPlain
  | _ => true

section Requests

variable (hd : p → desk.Plain)
include hd

theorem obey_asks (k : Command) : (desk.obey chat c k).Asks (Call.Ordinary p c.id chat) := by
  cases k with
  | start => exact start_asks
  | menu => exact menu_asks hd
  | cart => exact showCart_asks hd
  | addPosition => exact addPosition_asks hd

theorem take_asks {i : Input} {text : String} (hi : i ≠ .deliveryAddress) :
    (desk.take chat c text i).Asks (Call.Ordinary p c.id chat) := by
  unfold take
  cases i with
  | size => exact handleSize_asks hd
  | price => exact handlePrice_asks
  | link => exact handleLink_asks hd
  | calculatorAmount => exact calculatorAmount_asks hd
  | fullName => exact handleFullName_asks hd
  | phoneNumber => exact handlePhoneNumber_asks
  | deliveryAddress => exact absurd rfl hi

theorem act_asks {a : Action} {data : ButtonData} {message : Option Int32} (ha : a ≠ .paid)
    (hplain : p → a.isPlain) :
    (desk.act chat c data message a).Asks (Call.Ordinary p c.id chat) := by
  have hmore : ¬ a.isPlain → ¬ p := fun hnot hp => hnot (hplain hp)
  cases a with
  | catalog => exact catalog_asks (hmore Bool.false_ne_true)
  | catalogPrev => exact catalogStep_asks (hmore Bool.false_ne_true)
  | catalogNext => exact catalogStep_asks (hmore Bool.false_ne_true)
  | makeOrder => exact addPosition_asks hd
  | addPosition => exact addPosition_asks hd
  | showCart => exact showCart_asks hd
  | editCart => exact editCart_asks
  | removePosition index => exact removePosition_asks (hmore Bool.false_ne_true)
  | myOrders => exact myOrders_asks
  | guideStep n => exact guideStep_asks (hmore Bool.false_ne_true)
  | orderType t => exact handleOrderType_asks hd
  | location l => exact handleLocation_asks hd
  | category k => exact handleCategory_asks
  | button b => exact handleButton_asks
  | calculator => exact calculator_asks hd
  | calculateMore => exact calculator_asks hd
  | calculatorOrderType t => exact calculatorOrderType_asks hd
  | calculatorLocation l => exact calculatorLocation_asks hd
  | calculatorCategory k => exact calculate_asks.bind fun _ => send_asks
  | checkout => exact checkout_asks
  | paid => exact absurd rfl ha
  | faq => exact faq_asks hd
  | faqAnswer index => exact faqAnswer_asks
  | menu => exact menu_asks hd

theorem fulfil_asks {q : Request} (hq : q.isPrivate) (hplain : p → q.isPlain) :
    (desk.fulfil chat c q).Asks (Call.Ordinary p c.id chat) := by
  cases q with
  | command k => exact obey_asks hd k
  | answer i text => exact take_asks hd fun hi => by simp [hi, Request.isPrivate] at hq
  | press a data message =>
    exact act_asks hd (fun ha => by simp [ha, Request.isPrivate] at hq) hplain

end Requests

/-- Most requests only make private calls. -/
theorem fulfil_private {q : Request} (hq : q.isPrivate) :
    (desk.fulfil chat c q).Asks (Call.Private c.id chat) :=
  (fulfil_asks (p := False) False.elim hq False.elim).mono fun _ h => h.private

/-- A call that looks a customer up or registers one. -/
def Call.Registers (id : Int64) : Call → Prop
  | .store (.customer i) => i = id
  | .store (.saveCustomer c) => c.id = id
  | _ => False

theorem Call.Registers.private {call : Call} (h : call.Registers id) : call.Private id chat := by
  cases call with
  | store call => cases call <;> first | exact h | exact h.elim
  | _ => exact h.elim

theorem loadCustomer_asks (sender : Chat.Sender) :
    (loadCustomer sender).Asks (Call.Registers sender.id) := by
  refine Turn.Asks.bind (asks_ask rfl) fun r => ?_
  split
  · exact asks_pure _
  · exact Turn.Asks.bind (asks_store rfl) fun _ => asks_pure _
  · exact asks_throw _

/-- The calls that carry a request out: ordinary ones, the keeping of an order, and two questions
about all orders. -/
def Call.Fulfils (plain : Prop) (id chat : Int64) (call : Call) : Prop :=
  call.Ordering plain id chat ∨ call = .store .freeShortId ∨
    ∃ shortId, call = .store (.order shortId)

/-- The calls of a dispatch: private ones, and two questions about all orders. -/
def Call.Allowed (id chat : Int64) (call : Call) : Prop :=
  call.Private id chat ∨ call = .store .freeShortId ∨ ∃ shortId, call = .store (.order shortId)

theorem ownOrder?_asks {shortId : String} :
    (ownOrder? c shortId).Asks (· = .store (.order shortId)) := by
  refine Turn.Asks.bind (asks_ask rfl) fun r => ?_
  split
  · exact asks_pure _
  · exact asks_pure _
  · exact asks_throw _

/-- Whatever is asked for, the calls are of these kinds. -/
theorem fulfil_fulfils (hd : p → desk.Plain) {q : Request} (hplain : p → q.isPlain) :
    (desk.fulfil chat c q).Asks (Call.Fulfils p c.id chat) := by
  have ordinary : ∀ {t : Turn Unit}, t.Asks (Call.Ordinary p c.id chat) →
      t.Asks (Call.Fulfils p c.id chat) := fun ht => ht.mono fun _ h => .inl (.inl h)
  by_cases hq : q.isPrivate
  · exact ordinary (fulfil_asks hd hq hplain)
  · cases q with
    | command k => exact absurd rfl hq
    | answer i text =>
      cases i with
      | deliveryAddress =>
        rw [fulfil, take]
        cases haddress : Answer.address? text with
        | none =>
          unfold handleDeliveryAddress
          rw [haddress]
          exact ordinary send_asks
        | some address =>
          obtain ⟨rest, heq, hrest⟩ :=
            handleDeliveryAddress_eq (p := p) desk chat c haddress
          rw [heq]
          exact Turn.Asks.bind (asks_store (.inr (.inl rfl))) fun s =>
            (hrest s).mono fun _ => .inl
      | _ => exact absurd rfl hq
    | press a data message =>
      cases a with
      | paid =>
        rw [fulfil, act]
        cases data.text? with
        | none => exact asks_throw _
        | some shortId =>
          obtain ⟨rest, heq, hrest⟩ := paid_eq (p := p) desk chat c shortId
          rw [heq]
          exact (ownOrder?_asks.mono fun _ h => .inr (.inr ⟨shortId, h⟩)).bind fun order? =>
            ordinary (hrest order?)
      | _ => exact absurd rfl hq

/-- Whatever is asked for, everything else is private. -/
theorem fulfil_allowed (q : Request) : (desk.fulfil chat c q).Asks (Call.Allowed c.id chat) :=
  (fulfil_fulfils (p := False) False.elim False.elim).mono fun _ h =>
    h.imp_left Call.Ordering.private

theorem respond_allowed (c : Customer) (event : Chat.Event) :
    (desk.respond c event).Asks (Call.Allowed c.id event.chat) :=
  (asks_ofExcept _ _).bind fun q => fulfil_allowed q

end Desk

end OrderDesk
