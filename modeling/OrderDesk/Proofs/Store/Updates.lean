import OrderDesk.Proofs.Sql.Update
import OrderDesk.Proofs.Store.CatalogTable
import OrderDesk.Proofs.Store.Heap
import OrderDesk.Proofs.Store.Sending

/-!
# Changing some columns of a customer

A change of some fields of a customer is one statement, put together from those fields: the columns
that stand in it are the ones of the fields that are set (`map_fst_updateColumns`), and each is set
to what the row of the changed customer has in it (`column?_of_mem_updateColumns`).  What the
statement makes of a row need not be looked up in the row that was once written: any row that is
read as a customer is read afterwards as the customer changed in memory (`Holds.assigned`).

`update_sent_and_applied` puts this together with the text of the statement and with the answer to
it, which tells whether there was such a customer.
-/

namespace OrderDesk

/-- The columns of the fields, in the order of the fields, and whether a field is set. -/
def Customer.Update.fields (u : Customer.Update) : List (String × Bool) :=
  [("state", u.step.isSome), ("username", u.username.isSome), ("full_name", u.fullName.isSome),
   ("phone_number", u.phoneNumber.isSome), ("cart", u.cart.isSome), ("meta", u.terms.isSome),
   ("calculator_meta", u.calculatorTerms.isSome), ("catalog_offset", u.catalogOffset.isSome),
   ("last_edit_position", u.draft.isSome)]

namespace Store

open Sql (Datum Holdings Row Statement)

/-! ## The columns -/

/-- The columns of the fields, each with what it is set to if the field is set. -/
def cells (u : Customer.Update) : List (String × Option Datum) :=
  [("state", u.step.map stepDatum), ("username", u.username.map .text),
   ("full_name", u.fullName.map .text), ("phone_number", u.phoneNumber.map .text),
   ("cart", u.cart.map fun c => .jsonb c.toRecord),
   ("meta", u.terms.map fun t => .jsonb t.toRecord),
   ("calculator_meta", u.calculatorTerms.map fun t => .jsonb t.toRecord),
   ("catalog_offset", u.catalogOffset.map fun n => .bigint n.toInt64),
   ("last_edit_position", u.draft.map (.ofOption fun d => .jsonb (Draft.toRecord d)))]

/-- The cells that are set. -/
def filled (cells : List (String × Option Datum)) : Row :=
  cells.filterMap fun (name, d) => d.map (name, ·)

theorem filled_cons {α : Type} (name : String) (write : α → Datum) (a : Option α)
    (cells : List (String × Option Datum)) :
    filled ((name, a.map write) :: cells) = (a.toList.map fun a => (name, write a)) ++ filled cells := by
  cases a <;> rfl

theorem updateColumns_eq (u : Customer.Update) : updateColumns u = filled (cells u) := by
  have hnil : filled [] = [] := rfl
  simp only [cells, filled_cons, hnil, updateColumns, List.append_assoc, List.append_nil]

theorem map_fst_filled (cells : List (String × Option Datum)) :
    (filled cells).map Prod.fst = (cells.filter (·.2.isSome)).map Prod.fst := by
  induction cells with
  | nil => rfl
  | cons cell cells ih =>
    obtain ⟨name, _ | d⟩ := cell
    · exact ih
    · exact congrArg (name :: ·) ih

theorem lookup_filled {cells : List (String × Option Datum)} (hnodup : (cells.map Prod.fst).Nodup)
    (name : String) : (filled cells).lookup name = (cells.lookup name).join := by
  induction cells with
  | nil => rfl
  | cons cell cells ih =>
    obtain ⟨n, d⟩ := cell
    obtain ⟨hfresh, hnodup⟩ := List.nodup_cons.1 hnodup
    have hrest := ih hnodup
    by_cases hn : name = n
    · subst hn
      rw [Sql.lookup_eq_none hfresh] at hrest
      cases d with
      | none => simpa [filled] using hrest
      | some d => simp [filled]
    · cases d with
      | none => simpa [filled, List.lookup_cons, beq_false_of_ne hn] using hrest
      | some d => simpa [filled, List.lookup_cons, beq_false_of_ne hn] using hrest

theorem nodup_cells (u : Customer.Update) : ((cells u).map Prod.fst).Nodup := by
  simp [cells]

/-- The columns that are set are those of the fields that are set, in the order of the fields. -/
theorem map_fst_updateColumns (u : Customer.Update) :
    (updateColumns u).map Prod.fst = (u.fields.filter (·.2)).map Prod.fst := by
  have hfields : u.fields = (cells u).map fun (name, d) => (name, d.isSome) := by
    simp [Customer.Update.fields, cells]
  rw [updateColumns_eq, map_fst_filled, hfields, List.filter_map, List.map_map]
  rfl

theorem nodup_updateColumns (u : Customer.Update) : ((updateColumns u).map Prod.fst).Nodup := by
  rw [updateColumns_eq, map_fst_filled]
  exact (nodup_cells u).sublist (List.filter_sublist.map _)

/-- What a column is set to. -/
theorem lookup_updateColumns {u : Customer.Update} {name : String} {d : Option Datum}
    (h : (name, d) ∈ cells u) : (updateColumns u).lookup name = d := by
  rw [updateColumns_eq, lookup_filled (nodup_cells u), Record.lookup_of_mem (nodup_cells u) h]
  rfl

/-- The identifier is never set. -/
theorem id_not_mem_updateColumns (u : Customer.Update) :
    "telegram_id" ∉ (updateColumns u).map Prod.fst := by
  rw [updateColumns_eq, map_fst_filled]
  exact fun hmem => absurd ((List.filter_sublist.map _).subset hmem) (by simp [cells])

/-- A column is set to what the row of the changed customer has in it. -/
theorem column?_of_mem_updateColumns {u : Customer.Update} {e : String × Datum}
    (he : e ∈ updateColumns u) (c : Customer) :
    (customerRow (c.apply u)).column? e.1 = some e.2 := by
  rw [updateColumns_eq, filled, List.mem_filterMap] at he
  obtain ⟨⟨name, d⟩, hcell, hd⟩ := he
  obtain ⟨d, rfl, rfl⟩ := Option.map_eq_some_iff.1 hd
  simp only [cells, List.mem_cons, Prod.mk.injEq, List.not_mem_nil, or_false] at hcell
  rcases hcell with ⟨rfl, hset⟩ | ⟨rfl, hset⟩ | ⟨rfl, hset⟩ | ⟨rfl, hset⟩ | ⟨rfl, hset⟩ |
    ⟨rfl, hset⟩ | ⟨rfl, hset⟩ | ⟨rfl, hset⟩ | ⟨rfl, hset⟩ <;>
  · obtain ⟨a, ha, rfl⟩ := Option.map_eq_some_iff.1 hset.symm
    simp [customerRow, Row.column?, List.lookup_cons, Customer.apply, ha, Datum.ofOption]

/-! ## Reading a changed row -/

theorem column_eq_ok_iff {α : Type} {row : Row} {name : String} {read : Datum → Option α} {a : α} :
    column row name read = .ok a ↔ ∃ d, row.column? name = some d ∧ read d = some a := by
  refine ⟨fun h => ?_, fun ⟨_, hd, ha⟩ => column_of_eq hd ha⟩
  rw [column] at h
  split at h
  · cases h
  · rename_i d hd
    split at h
    · rename_i b hb
      exact ⟨d, hd, hb.trans (congrArg some (Except.ok.inj h))⟩
    · cases h

/-- A column is read as what it is set to, or else as before. -/
theorem column_assigned {α : Type} {row columns : Row} (hnodup : (columns.map Prod.fst).Nodup)
    {name : String} {read : Datum → Option α} {write : α → Datum} {old : α} {new : Option α}
    (hold : column row name read = .ok old) (hnew : columns.lookup name = new.map write)
    (hread : ∀ a, read (write a) = some a) :
    column (row.assigned columns) name read = .ok (new.getD old) := by
  obtain ⟨d, hd, hdold⟩ := column_eq_ok_iff.1 hold
  rw [column_eq_ok_iff, Row.column?_assigned hnodup, hd, hnew]
  refine ⟨_, rfl, ?_⟩
  cases new with
  | none => exact hdold
  | some a => exact hread a

/-- The columns of a row hold a customer. -/
structure Holds (row : Row) (c : Customer) : Prop where
  id : column row "telegram_id" Datum.bigint? = .ok c.id
  username : column row "username" Datum.text? = .ok c.username
  fullName : column row "full_name" (Datum.nullable Datum.text?) = .ok c.fullName
  phoneNumber : column row "phone_number" (Datum.nullable Datum.text?) = .ok c.phoneNumber
  step : ∃ code, column row "state" Datum.smallint? = .ok code ∧ Step.ofCode code.toInt = .ok c.step
  cart : column row "cart" (Datum.record? Cart.ofRecord?) = .ok c.cart
  terms : column row "meta" (Datum.record? Terms.ofRecord?) = .ok c.terms
  calculatorTerms :
    column row "calculator_meta" (Datum.record? Terms.ofRecord?) = .ok c.calculatorTerms
  catalogOffset : ∃ n, column row "catalog_offset" Datum.bigint? = .ok n ∧
    unsigned n "catalog offset" = .ok c.catalogOffset
  draft :
    column row "last_edit_position" (Datum.nullable (Datum.record? Draft.ofRecord?)) = .ok c.draft

theorem customerOfRow_eq_ok_iff {row : Row} {c : Customer} :
    customerOfRow row = .ok c ↔ Holds row c := by
  constructor
  · intro h
    simp only [customerOfRow, bind_eq_ok] at h
    obtain ⟨code, hcode, n, hn, cart, hcart, terms, hterms, calculatorTerms, hcalculatorTerms,
      draft, hdraft, id, hid, username, husername, fullName, hfullName, phoneNumber, hphoneNumber,
      step, hstep, offset, hoffset, hc⟩ := h
    obtain rfl := Except.ok.inj hc
    exact ⟨hid, husername, hfullName, hphoneNumber, ⟨code, hcode, hstep⟩, hcart, hterms,
      hcalculatorTerms, ⟨n, hn, hoffset⟩, hdraft⟩
  · rintro ⟨hid, husername, hfullName, hphoneNumber, ⟨code, hcode, hstep⟩, hcart, hterms,
      hcalculatorTerms, ⟨n, hn, hoffset⟩, hdraft⟩
    simp only [customerOfRow, hid, husername, hfullName, hphoneNumber, hcode, hstep, hcart, hterms,
      hcalculatorTerms, hn, hoffset, hdraft, ok_bind]
    rfl

/-- With the columns of an update set, a row holds the customer with the update put in. -/
theorem Holds.assigned {row : Row} {c : Customer} {u : Customer.Update} (h : Holds row c)
    (hoffset : ∀ n ∈ u.catalogOffset, n.toNat < 2 ^ 63) :
    Holds (row.assigned (updateColumns u)) (c.apply u) where
  id := by
    have hid : (updateColumns u).lookup "telegram_id" = (none : Option Int64).map .bigint :=
      Sql.lookup_eq_none (id_not_mem_updateColumns u)
    exact column_assigned (nodup_updateColumns u) h.id hid fun _ => rfl
  username := by
    have hset : (updateColumns u).lookup "username" = u.username.map .text :=
      lookup_updateColumns (by simp [cells])
    exact column_assigned (nodup_updateColumns u) h.username hset fun _ => rfl
  fullName := by
    have hset : (updateColumns u).lookup "full_name" =
        (u.fullName.map some).map (.ofOption .text) :=
      lookup_updateColumns (by simp [cells]; rfl)
    have hread := column_assigned (nodup_updateColumns u) h.fullName hset nullable_text
    rw [hread, Customer.apply]
    cases u.fullName <;> rfl
  phoneNumber := by
    have hset : (updateColumns u).lookup "phone_number" =
        (u.phoneNumber.map some).map (.ofOption .text) :=
      lookup_updateColumns (by simp [cells]; rfl)
    have hread := column_assigned (nodup_updateColumns u) h.phoneNumber hset nullable_text
    rw [hread, Customer.apply]
    cases u.phoneNumber <;> rfl
  step := by
    obtain ⟨code, hcode, hstep⟩ := h.step
    have hset : (updateColumns u).lookup "state" =
        (u.step.map fun s => Int16.ofNat s.code).map .smallint :=
      lookup_updateColumns (by simp [cells]; rfl)
    refine ⟨_, column_assigned (nodup_updateColumns u) hcode hset fun _ => rfl, ?_⟩
    rw [Customer.apply]
    cases u.step with
    | none => exact hstep
    | some s => cases s <;> rfl
  cart := column_assigned (nodup_updateColumns u) h.cart
    (lookup_updateColumns (by simp [cells])) (record?_jsonb Record.cart_codec)
  terms := column_assigned (nodup_updateColumns u) h.terms
    (lookup_updateColumns (by simp [cells])) (record?_jsonb Record.terms_codec)
  calculatorTerms := column_assigned (nodup_updateColumns u) h.calculatorTerms
    (lookup_updateColumns (by simp [cells])) (record?_jsonb Record.terms_codec)
  catalogOffset := by
    obtain ⟨n, hn, hunsigned⟩ := h.catalogOffset
    have hset : (updateColumns u).lookup "catalog_offset" =
        (u.catalogOffset.map UInt64.toInt64).map .bigint :=
      lookup_updateColumns (by simp [cells]; rfl)
    refine ⟨_, column_assigned (nodup_updateColumns u) hn hset fun _ => rfl, ?_⟩
    rw [Customer.apply]
    cases hnew : u.catalogOffset with
    | none => exact hunsigned
    | some offset => exact unsigned_toInt64 (hoffset offset hnew) _
  draft := column_assigned (nodup_updateColumns u) h.draft
    (lookup_updateColumns (by simp [cells]))
    (nullable_ofOption (record?_jsonb Record.draft_codec) fun _ h => Datum.noConfusion h)

theorem Holds.meets_id {row : Row} {c : Customer} (h : Holds row c) (id : Int64) :
    row.meets [.equal "telegram_id" (.bigint id)] = (c.id == id) := by
  obtain ⟨d, hd, hid⟩ := column_eq_ok_iff.1 h.id
  cases d with
  | bigint n =>
    obtain rfl := Option.some.inj hid
    simp [Row.meets, Sql.Condition.holds, hd, Datum.equals]
  | _ => cases hid

/-- The rows of the table of customers are read as the customers. -/
def Registers (customers : Multiset Customer) (h : Holdings) : Prop :=
  Multiset.Rel (fun row c => customerOfRow row = .ok c) (h.tables "customers") customers

namespace Database

/-! ## The statement -/

/-- The statement that sets columns of a customer. -/
def settingColumns (id : Int64) (columns : Row) : Statement :=
  .update "customers" (Sql.bound columns) [.equal "telegram_id" (.bigint id)]

theorem text_settingColumns (id : Int64) (columns : Row) :
    (settingColumns id columns).text =
      "UPDATE customers SET " ++ Sql.assignments 1 (columns.map Prod.fst) ++
        " WHERE telegram_id = $" ++ Decimal.ofNat (columns.length + 1) := by
  have hupdate : "UPDATE " ++ "customers" ++ " SET " = "UPDATE customers SET " := rfl
  have hwhere (before : String) : before ++ " WHERE " ++ "telegram_id" ++ " = $" =
      before ++ " WHERE telegram_id = $" := by
    rw [String.append_assoc, String.append_assoc]
    rfl
  rw [settingColumns, Statement.text_update, hupdate, hwhere]

/-- What the statement may leave behind: the customer with the identifier, if there is one, is as
the update makes it in memory, and nothing else is changed. -/
theorem outcome_settingColumns {u : Customer.Update} {h : Holdings} {customers : Multiset Customer}
    (id : Int64) (hoffset : ∀ n ∈ u.catalogOffset, n.toNat < 2 ^ 63)
    (hcustomers : Registers customers h) :
    (∃ a h', (settingColumns id (updateColumns u)).Outcome keyColumns h a h') ∧
      ∀ a h', (settingColumns id (updateColumns u)).Outcome keyColumns h a h' →
        a.affected = customers.countP (fun c => c.id == id) ∧
        Registers (customers.map fun c => if c.id == id then c.apply u else c) h' ∧
        (∀ table, table ≠ "customers" → h'.tables table = h.tables table) ∧
        h'.before = h.before := by
  refine Sql.outcome_update (fun c hc => ?_) hcustomers (fun row c hc => ?_) fun row c hc => ?_
  · have hid : c.1 ≠ "telegram_id" := fun heq =>
      id_not_mem_updateColumns u (heq ▸ List.mem_map_of_mem hc)
    simpa [keyColumns] using hid
  · exact (customerOfRow_eq_ok_iff.1 hc).meets_id id
  · exact customerOfRow_eq_ok_iff.2 ((customerOfRow_eq_ok_iff.1 hc).assigned hoffset)

section Sending

variable {W : Type} (db : (c : Call) → W → c.Reply × W) (w : W)

theorem callsOn_change (s : Statement) (e : StoreError) :
    Job.callsOn db (change s e) w = [.execute s] := by
  have hrest (a : Sql.Answer) (w : W) :
      Job.callsOn db (if a.affected = 0 then throw e else pure () : Job Unit) w = [] := by
    split <;> rfl
  rw [change, Job.callsOn, Program.calls_run_bind, ← Job.callsOn, callsOn_execute]
  cases ((execute s).run.run db w).1 with
  | error e => rfl
  | ok a => exact congrArg (.execute s :: ·) (hrest a _)

/-- No row was concerned exactly when that is the error; any other error is the database's. -/
theorem runOn_change_eq_iff {s : Statement} {e : StoreError} (he : ∀ reason, e ≠ .database reason) :
    (Job.runOn db (change s e) w).1 = .error e ↔
      ∃ a, (db (.execute s) w).1 = .ok a ∧ a.affected = 0 := by
  cases hreply : (db (.execute s) w).1 with
  | error reason =>
    have hs : (Job.runOn db (execute s) w).1 = .error (.database reason) := by
      rw [runOn_execute, hreply]
      rfl
    rw [change, Job.runOn_bind_of_error hs]
    simp [(he reason).symm]
  | ok a =>
    have hs : (Job.runOn db (execute s) w).1 = .ok a := by
      rw [runOn_execute, hreply]
      rfl
    rw [change, Job.runOn_bind hs]
    by_cases hnone : a.affected = 0
    · simp only [hnone, if_true]
      exact iff_of_true rfl ⟨a, rfl, hnone⟩
    · simp only [hnone, if_false]
      refine iff_of_false (fun h => ?_) fun ⟨a', ha', hnone'⟩ => hnone ?_
      · exact nomatch h
      · exact Except.ok.inj ha' ▸ hnone'

end Sending

/-- A change of some fields of a customer is one statement that sets the columns of these fields to
what the changed customer has in them, each once and in the order of the fields, with the datum of a
column under the column's number and the identifier behind them.  Carried out, it makes of the
customer what the update makes of it in memory, and the answer tells whether there was one. -/
theorem update_sent_and_applied {u : Customer.Update} (hu : u.isEmpty = false) (id : Int64) :
    (∀ {W : Type} (db : (c : Call) → W → c.Reply × W) (listening : Bool) (w : W),
      Job.callsOn db (serve listening (.updateCustomer id u)) w =
        [.execute (settingColumns id (updateColumns u))] ∧
      ((Job.runOn db (serve listening (.updateCustomer id u)) w).1 = .error (.customerNotFound id) ↔
        ∃ a, (db (.execute (settingColumns id (updateColumns u))) w).1 = .ok a ∧ a.affected = 0)) ∧
    (settingColumns id (updateColumns u)).text =
      "UPDATE customers SET " ++ Sql.assignments 1 ((updateColumns u).map Prod.fst) ++
        " WHERE telegram_id = $" ++ Decimal.ofNat ((updateColumns u).length + 1) ∧
    (settingColumns id (updateColumns u)).data = (updateColumns u).map Prod.snd ++ [.bigint id] ∧
    (updateColumns u).map Prod.fst = (u.fields.filter (·.2)).map Prod.fst ∧
    ((updateColumns u).map Prod.fst).Nodup ∧
    (∀ e ∈ updateColumns u, ∀ c : Customer, (customerRow (c.apply u)).column? e.1 = some e.2) ∧
    (u.draft = some none → ("last_edit_position", .null) ∈ updateColumns u) ∧
    ∀ (h : Holdings) (customers : Multiset Customer), Registers customers h →
      (∀ n ∈ u.catalogOffset, n.toNat < 2 ^ 63) →
      (∃ a h', (settingColumns id (updateColumns u)).Outcome keyColumns h a h') ∧
      ∀ a h', (settingColumns id (updateColumns u)).Outcome keyColumns h a h' →
        a.affected = customers.countP (fun c => c.id == id) ∧
        Registers (customers.map fun c => if c.id == id then c.apply u else c) h' ∧
        (∀ table, table ≠ "customers" → h'.tables table = h.tables table) ∧
        h'.before = h.before := by
  refine ⟨fun db listening w => ?_, text_settingColumns id _, Statement.data_update _ _ _ _,
    map_fst_updateColumns u, nodup_updateColumns u, fun e he => column?_of_mem_updateColumns he,
    fun hdraft => ?_, fun h customers hcustomers hoffset =>
      outcome_settingColumns id hoffset hcustomers⟩
  · have hsent : serve listening (.updateCustomer id u) =
        change (settingColumns id (updateColumns u)) (.customerNotFound id) := by
      rw [serve, updateCustomer, hu]
      rfl
    rw [hsent]
    exact ⟨callsOn_change db w _ _, runOn_change_eq_iff db w fun _ h => StoreError.noConfusion h⟩
  · simp [updateColumns, hdraft, Datum.ofOption]

/-- Terms of both kinds are set and a draft is cleared, in a table of two customers. -/
theorem terms_set_apart :
    let express : Terms := ⟨some .express, some .other, none⟩
    let normal : Terms := ⟨some .normal, some .izhevsk, some .light⟩
    let u : Customer.Update :=
      { Customer.Update.none with
        step := some .idle, terms := some express, calculatorTerms := some normal
        draft := some none }
    let ivan : Customer :=
      { Customer.fresh 42 "ivan" with catalogOffset := 3, draft := some (.start ⟨1⟩ none) }
    let john := Customer.fresh 123 "john"
    let heap : Heap := ⟨fun _ => [customerRow john, customerRow ivan], none⟩
    u.isEmpty = false ∧
      (settingColumns 42 (updateColumns u)).text =
        "UPDATE customers SET state = $1, meta = $2, calculator_meta = $3, " ++
          "last_edit_position = $4 WHERE telegram_id = $5" ∧
      (settingColumns 42 (updateColumns u)).data =
        [.smallint 0, .jsonb express.toRecord, .jsonb normal.toRecord, .null, .bigint 42] ∧
      ∀ a h', (settingColumns 42 (updateColumns u)).Outcome keyColumns heap.holdings a h' →
        a.affected = 1 ∧
        Registers ↑[john,
          { ivan with terms := express, calculatorTerms := normal, draft := none }] h' := by
  intro express normal u ivan john heap
  have hset : u.isEmpty = false := by decide
  obtain ⟨-, htext, hdata, -, -, -, -, happlied⟩ := update_sent_and_applied hset 42
  have hjohn : customerOfRow (customerRow john) = .ok john :=
    (customerOfRow_customerRow john).2 (by decide)
  have hivan : customerOfRow (customerRow ivan) = .ok ivan :=
    (customerOfRow_customerRow ivan).2 (by decide)
  have hkept : Registers (john ::ₘ ivan ::ₘ 0) heap.holdings :=
    Multiset.Rel.cons (r := fun row c => customerOfRow row = .ok c) hjohn (.cons hivan .zero)
  obtain ⟨-, hafter⟩ := happlied heap.holdings _ hkept (by simp [u, Customer.Update.none])
  refine ⟨hset, htext.trans (by decide), hdata, fun a h' houtcome => ?_⟩
  obtain ⟨haffected, hregisters, -⟩ := hafter a h' houtcome
  exact ⟨haffected, hregisters⟩

end Database

end Store

end OrderDesk
