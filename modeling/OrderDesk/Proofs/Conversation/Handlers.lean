import OrderDesk.Proofs.Conversation.Deed

/-!
# What carrying a request out writes

Every handler of the conversation is followed along its text: what it sends, asks and looks up
leaves the store as it is, and what it writes is a deed of the request it serves.  `fulfil_writes`
puts the handlers together: carrying a request out writes what one deed says, provided the customer
is in the step that the request is bound to.
-/

namespace OrderDesk.Desk

open Turn (along_ask along_store reads_ask reads_chat reads_ofExcept reads_pure reads_store
  reads_throw store_writes writes_pure writes_throw)

variable {desk : Desk} {σ : Sources} {A : (c : Call) → c.Reply → Prop} {chat : Int64} {c : Customer}

/-! ## What only reads -/

theorem sendText_reads {text : String} {keyboard : Option Chat.Keyboard} :
    (sendText chat text keyboard).Reads A fun _ => True :=
  (reads_chat _).bind fun _ _ => reads_pure trivial

theorem send_reads {key : String} : (desk.send chat key).Reads A fun _ => True := sendText_reads

theorem sendRows_reads {key : String} {rows : Chat.Rows} :
    (desk.sendRows chat key rows).Reads A fun _ => True := sendText_reads

theorem showRows_reads {message : Option Int32} {key : String} {rows : Chat.Rows} :
    (desk.showRows chat message key rows).Reads A fun _ => True := by
  cases message with
  | none => exact sendRows_reads
  | some message => exact reads_chat _

/-- Sending buttons that may fail to be built. -/
theorem ofExcept_rows_reads {ε : Type} {wrap : ε → Failure} {rows : Except ε Chat.Rows}
    {f : Chat.Rows → Turn Unit} (hf : ∀ rows, (f rows).Reads A fun _ => True) :
    (Turn.ofExcept wrap rows >>= f).Reads A fun _ => True :=
  (reads_ofExcept wrap rows).bind fun rows _ => hf rows

theorem draftOf_reads : (draftOf c).Reads A fun draft => c.draft = some draft := by
  unfold draftOf
  split
  · rename_i draft hdraft
    exact reads_pure hdraft
  · exact reads_throw

theorem sendItem_reads {item : Catalog.Item} : (sendItem chat item).Reads A fun _ => True := by
  simp only [sendItem]
  split
  · exact sendText_reads.bind fun _ _ => reads_pure trivial
  · exact reads_chat _

theorem replaceAlbum_reads {ids : List Int32} {photos : List Chat.Photo} :
    (replaceAlbum chat ids photos).Reads A fun _ => True := by
  induction ids generalizing photos with
  | nil => exact reads_pure trivial
  | cons id ids ih =>
    cases photos with
    | nil => exact (reads_chat _).bind fun _ _ => ih
    | cons photo photos =>
      exact (reads_chat _).bind fun _ _ => ih.bind fun _ _ => reads_pure trivial

theorem sendGuideStep_reads {n : UInt8} : (desk.sendGuideStep chat n).Reads A fun _ => True := by
  simp only [sendGuideStep]
  split
  · exact (reads_pure (P := fun _ => True) trivial).bind
      fun _ _ => ofExcept_rows_reads fun _ => sendRows_reads
  · exact (reads_chat _).bind fun _ _ => ofExcept_rows_reads fun _ => sendRows_reads

theorem guideStep_reads {n : UInt8} {album : List Int32} {control : Option Int32} :
    (desk.guideStep chat n album control).Reads A fun _ => True := by
  simp only [guideStep]
  split
  · exact (reads_throw (P := fun _ => False)).bind fun _ h => h.elim
  · split
    · exact sendGuideStep_reads
    · split
      · exact sendGuideStep_reads
      · exact replaceAlbum_reads.bind fun _ _ => ofExcept_rows_reads fun _ => reads_chat _

theorem showCart_reads : (desk.showCart chat c).Reads A fun _ => True := by
  unfold showCart
  split
  · exact send_reads
  · exact sendText_reads

theorem myOrders_reads : (desk.myOrders chat c).Reads A fun _ => True := by
  unfold myOrders
  refine (reads_store rfl).bind fun orders _ => ?_
  split
  · exact send_reads
  · exact sendText_reads

theorem faqAnswer_reads {index : Nat} : (desk.faqAnswer chat index).Reads A fun _ => True := by
  unfold faqAnswer
  split
  · exact sendText_reads
  · exact reads_throw

theorem quote_reads {amount : UInt64} {terms : Terms} :
    (Turn.quote amount terms).Reads (σ.Allows c.id) (Quoted σ amount terms) := by
  unfold Turn.quote
  refine (reads_ofExcept _ _).bind fun complete hcomplete => ?_
  refine (reads_ask (c := .rate) rfl).bind fun r hr => ?_
  refine (reads_ofExcept _ r).bind fun rate hrate => ?_
  refine (reads_ofExcept _ _).mono fun rub hrub => ⟨complete, rate, hcomplete, ?_, hrub⟩
  exact hrate ▸ hr.2

theorem ownOrder?_reads {shortId : String} :
    (ownOrder? c shortId).Reads (σ.Allows c.id)
      fun order? => ∀ o ∈ order?, o.shortId = shortId := by
  unfold ownOrder?
  refine (reads_ask (c := .store (.order shortId)) rfl).bind fun r hr => ?_
  split
  · rename_i order
    split
    · exact reads_pure fun o ho => hr.1 o (by simpa using ho)
    · exact reads_pure (by simp)
  · exact reads_pure (by simp)
  · exact reads_throw

/-! ## Leaving a step -/

/-- Leaving a step, and reading after it. -/
theorem leaveStep_bind_writes {q : Request} (hq : q.leaves) {f : Unit → Turn Unit}
    (hf : (f ()).Reads A fun _ => True) :
    (leaveStep c >>= f).Writes A (Deed desk σ c q) := by
  unfold leaveStep
  split
  · exact hf.writes .nothing
  · exact Turn.goTo_bind_writes (.move (.leave hq)) hf

theorem start_writes {q : Request} (hq : q.leaves) :
    (desk.start chat c).Writes A (Deed desk σ c q) := by
  refine leaveStep_bind_writes hq ?_
  refine sendText_reads.bind fun _ _ => (reads_ask rfl).bind fun r _ => ?_
  split
  · exact sendText_reads
  · exact reads_pure trivial

theorem menu_writes {q : Request} (hq : q.leaves) :
    (desk.menu chat c).Writes A (Deed desk σ c q) :=
  leaveStep_bind_writes hq sendRows_reads

/-! ## Collecting a position -/

theorem addPosition_writes {q : Request} (hq : q.begins) :
    (desk.addPosition chat c).Writes A (Deed desk σ c q) := by
  unfold addPosition
  split
  · exact send_reads.writes .nothing
  · rename_i hsize
    split
    · rename_i hcart
      exact Turn.update_bind_writes (.move (.beginCart hq hcart)) sendRows_reads
    · rename_i hcart
      exact Turn.update_bind_writes (.move (.beginLine hq hcart (Nat.lt_of_not_le hsize)))
        sendRows_reads

section Bound

variable {data : ButtonData} {message : Option Int32} {text : String}

theorem handleOrderType_writes (hstep : c.step = .orderType) (t : OrderType) :
    (desk.handleOrderType chat c t).Writes A
      (Deed desk σ c (.press (.orderType t) data message)) := by
  cases t with
  | express => exact Turn.update_bind_writes (.move (.express hstep)) sendRows_reads
  | normal => exact Turn.update_bind_writes (.move (.normal hstep)) sendRows_reads

theorem handleLocation_writes (hstep : c.step = .location) (l : Location) :
    (desk.handleLocation chat c l).Writes A (Deed desk σ c (.press (.location l) data message)) :=
  Turn.update_bind_writes (.move (.location hstep)) sendRows_reads

theorem handleCategory_writes (hstep : c.step = .category) (k : Category) :
    (desk.handleCategory chat c k).Writes (σ.Allows c.id)
      (Deed desk σ c (.press (.category k) data message)) :=
  (reads_ask (c := .newId) rfl).bind_writes
    (fun _ hid => Turn.update_bind_writes (.move (.category hstep hid.2)) send_reads) .nothing

theorem handleSize_writes (hstep : c.step = .size) :
    (desk.handleSize chat c text).Writes A (Deed desk σ c (.answer .size text)) := by
  unfold handleSize
  split
  · exact send_reads.writes .nothing
  · rename_i size hsize
    exact draftOf_reads.bind_writes
      (fun _ hdraft => Turn.update_bind_writes (.move (.size hstep hsize hdraft)) sendRows_reads)
      .nothing

theorem handleButton_writes (hstep : c.step = .button) (b : PriceButton) :
    (desk.handleButton chat c b).Writes A (Deed desk σ c (.press (.button b) data message)) :=
  draftOf_reads.bind_writes
    (fun _ hdraft => Turn.update_bind_writes (.move (.button hstep hdraft)) send_reads) .nothing

theorem handlePrice_writes (hstep : c.step = .price) :
    (desk.handlePrice chat c text).Writes (σ.Allows c.id)
      (Deed desk σ c (.answer .price text)) := by
  unfold handlePrice
  split
  · exact send_reads.writes .nothing
  · rename_i yuan hyuan
    refine draftOf_reads.bind_writes (fun draft hdraft => ?_) .nothing
    refine quote_reads.bind_writes (fun rub hrub => ?_) .nothing
    exact Turn.update_bind_writes (.move (.price hstep hyuan hdraft hrub)) sendText_reads

theorem handleLink_writes (hstep : c.step = .link) :
    (desk.handleLink chat c text).Writes A (Deed desk σ c (.answer .link text)) := by
  unfold handleLink
  split
  · exact send_reads.writes .nothing
  · rename_i link hlink
    split
    · rename_i hsize
      exact Turn.update_bind_writes (.move (.cartFull hstep hlink hsize)) send_reads
    · rename_i hsize
      refine draftOf_reads.bind_writes (fun draft hdraft => ?_) .nothing
      split
      · exact writes_throw .nothing
      · rename_i p hp
        exact Turn.update_bind_writes
          (.move (.link hstep hlink (Nat.lt_of_not_le hsize) hdraft hp)) sendRows_reads

/-- How a record changes when a line is completed. -/
def addition (c : Customer) (p : Position) : Customer.Update :=
  { Customer.Update.none with
    cart := some (c.cart.add p), draft := some none, step := some .idle }

/-- A link that completes a line is answered by the cart with that line. -/
theorem handleLink_writes_addition {link : String} {draft : Draft} {p : Position}
    {D : List Store.Call → Prop} (hlink : Answer.link? desk.linkPattern text = some link)
    (hsize : c.cart.size < maxCartLines) (hdraft : c.draft = some draft)
    (hp : { draft with shopLink := some link }.complete? = some p)
    (hD : D [.updateCustomer c.id (addition c p)]) : (desk.handleLink chat c text).Writes A D := by
  simp only [handleLink, hlink, if_neg (Nat.not_le_of_lt hsize), draftOf, hdraft, pure_bind, hp]
  exact Turn.update_bind_writes hD sendRows_reads

/-! ## Changing the cart -/

theorem editCart_writes :
    (desk.editCart chat c).Writes A (Deed desk σ c (.press .editCart data message)) := by
  unfold editCart
  split
  · exact send_reads.writes .nothing
  · rename_i hcart
    exact (reads_ofExcept _ _).bind_writes
      (fun _ _ => Turn.goTo_bind_writes (.move (.editCart hcart)) sendRows_reads) .nothing

/-- How a record changes when the line of a number is taken out. -/
def removal (c : Customer) (index : Nat) : Customer.Update :=
  { Customer.Update.none with
    cart := some (withoutLine c.cart index)
    step := if (withoutLine c.cart index).isEmpty then some .idle else none }

theorem apply_removal (c : Customer) (index : Nat) :
    c.apply (removal c index) = { c with
      cart := withoutLine c.cart index
      step := if (withoutLine c.cart index).isEmpty then .idle else c.step } := by
  rw [Customer.apply, removal]
  split <;> rfl

/-- What is shown of the cart that is left. -/
def showLeft (desk : Desk) (chat : Int64) (cart : Cart) (message : Option Int32) : Turn Unit :=
  if cart.isEmpty then
    match message with
    | some message => Turn.chat (.delete chat message) >>= fun _ => desk.send chat "cart-now-empty"
    | none => desk.send chat "cart-now-empty"
  else Turn.ofExcept .callback (editCartRows desk.texts cart) >>= fun rows =>
    desk.showRows chat message "cart-choose-position" rows

/-- The cart is kept before anything is shown. -/
theorem removePosition_eq (desk : Desk) (chat : Int64) (c : Customer) (index : Nat)
    (message : Option Int32) :
    desk.removePosition chat c index message =
      Turn.update c (removal c index) >>= fun _ =>
        desk.showLeft chat (withoutLine c.cart index) message := by
  cases message <;> rfl

theorem showLeft_reads {cart : Cart} :
    (desk.showLeft chat cart message).Reads A fun _ => True := by
  unfold showLeft
  split
  · cases message with
    | none => exact send_reads
    | some message => exact (reads_chat _).bind fun _ _ => send_reads
  · exact ofExcept_rows_reads fun _ => showRows_reads

/-- Whatever is shown, the one thing written is the cart without the line. -/
theorem removePosition_writes_removal (index : Nat) {D : List Store.Call → Prop}
    (hD : D [.updateCustomer c.id (removal c index)]) :
    (desk.removePosition chat c index message).Writes A D := by
  rw [removePosition_eq]
  exact Turn.update_bind_writes hD showLeft_reads

theorem removePosition_writes (hstep : c.step = .cartPositionToEdit) (index : Nat) :
    (desk.removePosition chat c index message).Writes A
      (Deed desk σ c (.press (.removePosition index) data message)) :=
  removePosition_writes_removal index (.move (.removePosition hstep))

/-! ## Looking through the catalogue -/

theorem catalog_writes :
    (desk.catalog chat c).Writes (σ.Allows c.id)
      (Deed desk σ c (.press .catalog data message)) := by
  unfold catalog
  refine (reads_ask (c := .shelf) rfl).bind_writes (fun shelf hshelf => ?_) .nothing
  dsimp only
  split
  · exact send_reads.writes .nothing
  · refine sendItem_reads.bind_writes (fun ids _ => ?_) .nothing
    refine (reads_ask (c := .shelf) rfl).bind_writes (fun shelf' _ => ?_) .nothing
    refine (reads_ofExcept _ _).bind_writes (fun rows _ => ?_) .nothing
    refine sendRows_reads.bind_writes (fun _ _ => ?_) .nothing
    split
    · rename_i hoffset
      exact store_writes rfl (.move (.look hshelf.2 hoffset))
    · exact writes_pure .nothing

theorem catalogStep_writes {q : Request} {direction : Direction} {album : List Int32}
    {control : Option Int32} (hq : q.direction? = some direction) :
    (desk.catalogStep chat c direction album control).Writes (σ.Allows c.id) (Deed desk σ c q) := by
  unfold catalogStep
  refine (reads_ask (c := .shelf) rfl).bind_writes (fun shelf hshelf => ?_) .nothing
  split
  · exact writes_pure .nothing
  · rename_i offset hoffset
    dsimp only
    -- the photos may change, what follows them does not
    have rest : ∀ kept, (do
        Turn.update c { Customer.Update.none with catalogOffset := some offset }
        let rows ← Turn.ofExcept .callback (desk.itemRows (← Turn.shelf) offset kept)
        desk.showRows chat control "catalog-controls" rows).Writes (σ.Allows c.id)
          (Deed desk σ c q) := fun kept =>
      Turn.update_bind_writes (.move (.turn hq hshelf.2 hoffset))
        ((reads_ask (c := .shelf) rfl).bind fun _ _ => ofExcept_rows_reads fun _ => showRows_reads)
    split
    · exact sendItem_reads.bind_writes (fun kept _ => rest kept) .nothing
    · exact replaceAlbum_reads.bind_writes (fun kept _ => rest kept) .nothing

/-! ## The calculator -/

theorem calculator_writes {q : Request} (hq : q.calculates) :
    (desk.calculator chat c).Writes A (Deed desk σ c q) :=
  Turn.update_bind_writes (.move (.calculator hq)) sendRows_reads

theorem calculatorOrderType_writes (hstep : c.step = .calculatorOrderType) (t : OrderType) :
    (desk.calculatorOrderType chat c t).Writes A
      (Deed desk σ c (.press (.calculatorOrderType t) data message)) := by
  cases t with
  | express => exact Turn.update_bind_writes (.move (.calculatorExpress hstep)) sendRows_reads
  | normal => exact Turn.update_bind_writes (.move (.calculatorNormal hstep)) sendRows_reads

theorem calculatorLocation_writes (hstep : c.step = .calculatorLocation) (l : Location) :
    (desk.calculatorLocation chat c l).Writes A
      (Deed desk σ c (.press (.calculatorLocation l) data message)) :=
  Turn.update_bind_writes (.move (.calculatorLocation hstep)) sendRows_reads

theorem calculatorCategory_writes (hstep : c.step = .calculatorCategory) (k : Category) :
    (desk.calculatorCategory chat c k).Writes A
      (Deed desk σ c (.press (.calculatorCategory k) data message)) :=
  Turn.update_bind_writes (.move (.calculatorCategory hstep)) send_reads

theorem calculatorAmount_writes (hstep : c.step = .calculatorAmount) :
    (desk.calculatorAmount chat c text).Writes (σ.Allows c.id)
      (Deed desk σ c (.answer .calculatorAmount text)) := by
  unfold calculatorAmount
  split
  · exact send_reads.writes .nothing
  · rename_i yuan hyuan
    exact quote_reads.bind_writes
      (fun _ hrub =>
        Turn.goTo_bind_writes (.move (.calculatorAmount hstep hyuan hrub)) sendText_reads)
      .nothing

/-! ## Checkout -/

theorem checkout_writes :
    (desk.checkout chat c).Writes A (Deed desk σ c (.press .checkout data message)) := by
  unfold checkout
  split
  · exact send_reads.writes .nothing
  · rename_i hcart
    exact Turn.goTo_bind_writes (.move (.checkout hcart)) send_reads

theorem handleFullName_writes (hstep : c.step = .fullName) :
    (desk.handleFullName chat c text).Writes A (Deed desk σ c (.answer .fullName text)) := by
  unfold handleFullName
  split
  · exact sendRows_reads.writes .nothing
  · rename_i hexpress
    split
    · exact send_reads.writes .nothing
    · rename_i name hname
      exact Turn.update_bind_writes (.move (.fullName hstep (by simpa using hexpress) hname))
        send_reads

theorem handlePhoneNumber_writes (hstep : c.step = .phoneNumber) :
    (desk.handlePhoneNumber chat c text).Writes A (Deed desk σ c (.answer .phoneNumber text)) := by
  unfold handlePhoneNumber
  split
  · exact send_reads.writes .nothing
  · rename_i number hnumber
    exact Turn.update_bind_writes (.move (.phoneNumber hstep hnumber)) send_reads

theorem paid_writes :
    (desk.paid chat c data.text?).Writes (σ.Allows c.id)
      (Deed desk σ c (.press .paid data message)) := by
  unfold paid
  split
  · exact writes_throw .nothing
  · rename_i shortId htext
    refine ownOrder?_reads.bind_writes (fun order? horder => ?_) .nothing
    split
    · exact send_reads.writes .nothing
    · rename_i order
      obtain rfl := horder order rfl
      exact Turn.store_bind_writes rfl (.pay htext) fun _ => sendText_reads

/-! ## From cart to order -/

/-- Either nothing is written, or the cart leaves the record and the very next call keeps it as an
order. -/
def OrdersOnce (c : Customer) (o : Order → Prop) (cs : List Call) : Prop :=
  writes cs = [] ∨ ∃ before order after, o order ∧ writes before = [] ∧ writes after = [] ∧
    cs = before ++ .store (.updateCustomer c.id .clearing) :: .store (.saveOrder order) :: after

/-- What is read first does not count. -/
theorem OrdersOnce.append {o : Order → Prop} {cs ds : List Call} (h : OrdersOnce c o cs)
    (hds : writes ds = []) : OrdersOnce c o (ds ++ cs) := by
  rcases h with hcs | ⟨before, order, after, ho, hbefore, hafter, rfl⟩
  · exact .inl (by rw [writes_append, hds, hcs, List.append_nil])
  · refine .inr ⟨ds ++ before, order, after, ho, ?_, hafter, by rw [List.append_assoc]⟩
    rw [writes_append, hds, hbefore, List.append_nil]

theorem reads_bind_ordersOnce {α : Type} {t : Turn α} {f : α → Turn Unit} {P : α → Prop}
    {o : Order → Prop} (h : t.Reads A P)
    (hf : ∀ a, P a → (f a).run.Along A fun cs _ => OrdersOnce c o cs) :
    (t >>= f).run.Along A fun cs _ => OrdersOnce c o cs := by
  refine (Program.along_run_bind t f _).2 ((Turn.reads_iff.1 h).mono ?_)
  rintro cs (e | a) ⟨hcs, ha⟩
  · exact .inl hcs
  · exact (hf a (ha a rfl)).mono fun ds _ hds => hds.append hcs

/-- Where the customer is kept and orders can be kept, the cart leaves the record and the very next
call keeps it as an order. -/
theorem keepOrder_bind_along {order : Order} {f : Unit → Turn Unit}
    (hA : ∀ call r, A call r → Keeping c.id call r) (hf : (f ()).Reads A fun _ => True) :
    (keepOrder c order >>= f).run.Along A fun cs _ => ∃ after, writes after = [] ∧
      cs = .store (.updateCustomer c.id .clearing) :: .store (.saveOrder order) :: after := by
  unfold keepOrder Turn.update
  simp only [bind_assoc]
  refine (Program.along_run_bind _ _ _).2 ((along_store _ _).2 fun r hr => ?_)
  obtain rfl : r = Except.ok () := hA _ r hr rfl
  -- the order can be kept, so the cart is not put back
  refine (Program.along_run_bind _ _ _).2 ((along_ask _ _).2 fun r hr => ?_)
  obtain rfl : r = Except.ok () := hA _ r hr
  exact (Turn.reads_iff.1 hf).mono fun cs s hcs => ⟨cs, hcs.1, rfl⟩

theorem keepOrder_bind_ordersOnce {order : Order} {o : Order → Prop} {f : Unit → Turn Unit}
    (ho : o order) (hf : (f ()).Reads (σ.Allows c.id) fun _ => True) :
    (keepOrder c order >>= f).run.Along (σ.Allows c.id) fun cs _ => OrdersOnce c o cs :=
  (keepOrder_bind_along (fun _ _ h => h.1) hf).mono fun _ _ ⟨after, hafter, hcs⟩ =>
    .inr ⟨[], order, after, ho, rfl, hafter, hcs⟩

/-- What is sent after an order is kept writes nothing. -/
theorem showOrder_reads {order : Order} :
    (do sendText chat (describeOrder desk.texts order) none
        let rows ← Turn.ofExcept .callback (paidRows desk.texts order.shortId)
        sendText chat
          (desk.texts.getWith "requisites"
            [("total_rub", amountText order.amountRub), ("requisites", desk.settings.requisites)])
          (some (.inline rows)) : Turn Unit).Reads A fun _ => True :=
  sendText_reads.bind fun _ _ => ofExcept_rows_reads fun _ => sendText_reads

theorem handleDeliveryAddress_ordersOnce :
    (desk.handleDeliveryAddress chat c text).run.Along (σ.Allows c.id) fun cs _ =>
      OrdersOnce c (fun o => ∃ address shortId id createdAt, Answer.address? text = some address ∧
        o = .ofCustomer c address c.terms.isExpress shortId id createdAt) cs := by
  unfold handleDeliveryAddress
  split
  · exact (Turn.reads_iff.1 send_reads).mono fun _ _ hcs => .inl hcs.1
  · rename_i address haddress
    refine reads_bind_ordersOnce (reads_store rfl) fun shortId _ => ?_
    refine reads_bind_ordersOnce (reads_ask rfl) fun id _ => ?_
    refine reads_bind_ordersOnce (reads_ask rfl) fun createdAt _ => ?_
    exact keepOrder_bind_ordersOnce ⟨address, shortId, id, createdAt, haddress, rfl⟩ showOrder_reads

/-- A free short identifier is found. -/
def FindsFree : (call : Call) → call.Reply → Prop
  | .store .freeShortId, r => ∃ shortId, r = Except.ok shortId
  | _, _ => True

/-- An accepted address is answered by an order of the cart if a free short identifier is found. -/
theorem handleDeliveryAddress_writes_order {address : String}
    (haddress : Answer.address? text = some address)
    (hA : ∀ call r, A call r → Keeping c.id call r ∧ FindsFree call r) :
    (desk.handleDeliveryAddress chat c text).Writes A fun ds => ∃ shortId id createdAt,
      ds = [.updateCustomer c.id .clearing,
        .saveOrder (.ofCustomer c address c.terms.isExpress shortId id createdAt)] := by
  simp only [handleDeliveryAddress, haddress]
  refine Turn.lookUp_bind_writes rfl (fun r hr => (hA _ r hr).2) fun shortId => ?_
  refine Turn.ask_bind_writes rfl fun id _ => Turn.ask_bind_writes rfl fun createdAt _ => ?_
  refine Turn.writes_iff.2 (Program.Along.mono
    (keepOrder_bind_along (fun call r h => (hA call r h).1) showOrder_reads) ?_)
  rintro cs _ ⟨after, hafter, rfl⟩
  refine ⟨shortId, id, createdAt, ?_⟩
  rw [writes_cons_of_some rfl, writes_cons_of_some rfl, hafter]

theorem handleDeliveryAddress_writes (hstep : c.step = .deliveryAddress) :
    (desk.handleDeliveryAddress chat c text).Writes (σ.Allows c.id)
      (Deed desk σ c (.answer .deliveryAddress text)) := by
  refine Turn.writes_iff.2 (handleDeliveryAddress_ordersOnce.mono ?_)
  rintro cs _ (hcs | ⟨before, _, after, ⟨address, shortId, id, createdAt, haddress, rfl⟩, hbefore,
    hafter, rfl⟩)
  · exact hcs.symm ▸ .nothing
  · rw [writes_append, hbefore, writes_cons_of_some rfl, writes_cons_of_some rfl, hafter]
    exact .order hstep haddress

end Bound

/-! ## All requests -/

theorem obey_writes (k : Command) :
    (desk.obey chat c k).Writes A (Deed desk σ c (.command k)) := by
  cases k with
  | start => exact start_writes rfl
  | menu => exact menu_writes rfl
  | cart => exact showCart_reads.writes .nothing
  | addPosition => exact addPosition_writes rfl

theorem take_writes {i : Input} {text : String} (hstep : c.step = i.step) :
    (desk.take chat c text i).Writes (σ.Allows c.id) (Deed desk σ c (.answer i text)) := by
  unfold take
  split
  · exact handleSize_writes hstep
  · exact handlePrice_writes hstep
  · exact handleLink_writes hstep
  · exact calculatorAmount_writes hstep
  · exact handleFullName_writes hstep
  · exact handlePhoneNumber_writes hstep
  · exact handleDeliveryAddress_writes hstep

theorem act_writes {a : Action} {data : ButtonData} {message : Option Int32}
    (hstep : ∀ s, a.requiredStep? = some s → c.step = s) :
    (desk.act chat c data message a).Writes (σ.Allows c.id)
      (Deed desk σ c (.press a data message)) := by
  unfold act
  cases a with
  | catalog => exact catalog_writes
  | catalogPrev => exact catalogStep_writes rfl
  | catalogNext => exact catalogStep_writes rfl
  | makeOrder => exact addPosition_writes rfl
  | addPosition => exact addPosition_writes rfl
  | showCart => exact showCart_reads.writes .nothing
  | editCart => exact editCart_writes
  | removePosition index => exact removePosition_writes (hstep _ rfl) index
  | myOrders => exact myOrders_reads.writes .nothing
  | guideStep n => exact guideStep_reads.writes .nothing
  | orderType t => exact handleOrderType_writes (hstep _ rfl) t
  | location l => exact handleLocation_writes (hstep _ rfl) l
  | category k => exact handleCategory_writes (hstep _ rfl) k
  | button b => exact handleButton_writes (hstep _ rfl) b
  | calculator => exact calculator_writes rfl
  | calculateMore => exact calculator_writes rfl
  | calculatorOrderType t => exact calculatorOrderType_writes (hstep _ rfl) t
  | calculatorLocation l => exact calculatorLocation_writes (hstep _ rfl) l
  | calculatorCategory k => exact calculatorCategory_writes (hstep _ rfl) k
  | checkout => exact checkout_writes
  | paid => exact paid_writes
  | faq => exact sendRows_reads.writes .nothing
  | faqAnswer index => exact faqAnswer_reads.writes .nothing
  | menu => exact menu_writes rfl

/-- Carrying out a request of a customer in the step it is bound to writes what one deed says. -/
theorem fulfil_writes {q : Request} (hstep : ∀ s, q.step? = some s → c.step = s) :
    (desk.fulfil chat c q).Writes (σ.Allows c.id) (Deed desk σ c q) := by
  cases q with
  | command k => exact obey_writes k
  | answer i text => exact take_writes (hstep _ rfl)
  | press a data message => exact act_writes hstep

/-- Answering an event writes what a deed of the request in it says. -/
theorem respond_writes (c : Customer) (event : Chat.Event) :
    (desk.respond c event).Writes (σ.Allows c.id) fun ds =>
      ds = [] ∨ ∃ q, desk.understand c event = .ok q ∧ Deed desk σ c q ds := by
  refine (reads_ofExcept id _).bind_writes (fun q hq => ?_) (.inl rfl)
  exact (fulfil_writes fun s hs => desk.step_of_understand hq hs).mono fun _ hds =>
    .inr ⟨q, hq, hds⟩

end OrderDesk.Desk
