import OrderDesk.Proofs.Program.Along
import OrderDesk.Proofs.Store.ReadBack
import OrderDesk.Store.Script

/-!
# What is sent to a database

A database is any state with replies to calls; a job is carried out on it (`Job.runOn`) and makes
calls (`Job.callsOn`), and both are read off from the parts of the job.  A customer and an order are
one statement each.  An item is a transaction whose row is sent behind the lock on the catalogue, so
an item that cannot be written is found out inside it: the transaction is undone without a row
(`addItem_refused`).  The rank of a new item is the database's to give, whichever it is, the row is
read as the item with that rank (`addItem_sent`).

`rows_kept` puts what is sent together with how it is read.
-/

namespace OrderDesk.Store.Database

open Sql (Answer Datum Row Scalar Statement)

variable {W α β : Type} {db : (c : Call) → W → c.Reply × W} {w : W}

/-! ## Jobs -/

namespace Job

/-- Carries a job out. -/
def runOn (db : (c : Call) → W → c.Reply × W) (job : Job α) (w : W) : Except StoreError α × W :=
  job.run.run db w

/-- The calls of a job. -/
def callsOn (db : (c : Call) → W → c.Reply × W) (job : Job α) (w : W) : List Call :=
  job.run.calls db w

variable {job : Job α} {f : α → Job β}

theorem runOn_bind {a : α} (h : (job.runOn db w).1 = .ok a) :
    (job >>= f).runOn db w = (f a).runOn db (job.runOn db w).2 := by
  rw [runOn] at h
  rw [runOn, Program.run_run_bind, h]
  rfl

theorem callsOn_bind {a : α} (h : (job.runOn db w).1 = .ok a) :
    (job >>= f).callsOn db w = job.callsOn db w ++ (f a).callsOn db (job.runOn db w).2 := by
  rw [runOn] at h
  rw [callsOn, Program.calls_run_bind, h]
  rfl

theorem runOn_bind_of_error {e : StoreError} (h : (job.runOn db w).1 = .error e) :
    (job >>= f).runOn db w = (.error e, (job.runOn db w).2) := by
  rw [runOn] at h
  rw [runOn, Program.run_run_bind, h]
  rfl

theorem callsOn_bind_of_error {e : StoreError} (h : (job.runOn db w).1 = .error e) :
    (job >>= f).callsOn db w = job.callsOn db w := by
  rw [runOn] at h
  rw [callsOn, Program.calls_run_bind, h]
  exact List.append_nil _

/-- A result that is only wrapped up costs no call. -/
theorem callsOn_bind_pure (job : Job α) (g : α → β) (w : W) :
    (job >>= fun a => pure (g a)).callsOn db w = job.callsOn db w := by
  rw [callsOn, Program.calls_run_bind]
  cases (job.run.run db w).1 <;> exact List.append_nil _

theorem callsOn_bind_begins (job : Job α) (f : α → Job β) (w : W) :
    job.callsOn db w <+: (job >>= f).callsOn db w := by
  rw [callsOn, callsOn, Program.calls_run_bind]
  exact List.prefix_append _ _

end Job

theorem runOn_execute (s : Statement) (w : W) :
    Job.runOn db (execute s) w =
      ((db (.execute s) w).1.mapError .database, (db (.execute s) w).2) := rfl

theorem callsOn_execute (s : Statement) (w : W) :
    Job.callsOn db (execute s) w = [.execute s] := rfl

theorem runOn_ofExcept (result : Except StoreError α) (w : W) :
    Job.runOn db (ofExcept result) w = (result, w) := rfl

theorem callsOn_ofExcept (result : Except StoreError α) (w : W) :
    Job.callsOn db (ofExcept result) w = [] := rfl

/-! ## Orders -/

theorem saveOrder_refused {o : Order} {e : StoreError} (h : orderRow o = .error e) (w : W) :
    (saveOrder o).runOn db w = (.error e, w) ∧ (saveOrder o).callsOn db w = [] := by
  have hrow : (Job.runOn db (ofExcept (orderRow o)) w).1 = .error e := h
  rw [saveOrder, Job.runOn_bind_of_error hrow, Job.callsOn_bind_of_error hrow]
  exact ⟨rfl, rfl⟩

theorem callsOn_saveOrder {o : Order} {row : Row} (h : orderRow o = .ok row) (w : W) :
    (saveOrder o).callsOn db w = [.execute (.insert "orders" row)] := by
  have hrow : (Job.runOn db (ofExcept (orderRow o)) w).1 = .ok row := h
  rw [saveOrder, Job.callsOn_bind hrow, callsOn_ofExcept, runOn_ofExcept, List.nil_append,
    Job.callsOn_bind_pure, callsOn_execute]

/-! ## Transactions -/

section Transaction

variable {job : Job α}

theorem runOn_tryCatch (handle : StoreError → Job α) (w : W) :
    Job.runOn db (tryCatch job handle) w =
      match (job.runOn db w).1 with
      | .ok a => (.ok a, (job.runOn db w).2)
      | .error e => (handle e).runOn db (job.runOn db w).2 := by
  show Program.run db (job.run.bind _) w = _
  rw [Program.run_bind, Job.runOn]
  cases (job.run.run db w).1 <;> rfl

theorem callsOn_tryCatch (handle : StoreError → Job α) (w : W) :
    Job.callsOn db (tryCatch job handle) w = job.callsOn db w ++
      match (job.runOn db w).1 with
      | .ok _ => []
      | .error e => (handle e).callsOn db (job.runOn db w).2 := by
  show Program.calls db (job.run.bind _) w = _
  rw [Program.calls_bind, Job.runOn, Job.callsOn]
  cases (job.run.run db w).1 <;> rfl

/-- The database carries a statement out. -/
def Carries (db : (c : Call) → W → c.Reply × W) (s : Statement) (w : W) : Prop :=
  ∃ a, (db (.execute s) w).1 = .ok a

/-- What a database is after a statement. -/
def next (db : (c : Call) → W → c.Reply × W) (s : Statement) (w : W) : W := (db (.execute s) w).2

theorem runOn_execute_bind {s : Statement} (h : Carries db s w) (f : Job α) :
    (do let _ ← execute s; f).runOn db w = f.runOn db (next db s w) := by
  obtain ⟨a, ha⟩ := h
  have hs : (Job.runOn db (execute s) w).1 = .ok a := by rw [runOn_execute, ha]; rfl
  rw [Job.runOn_bind hs]
  rfl

theorem callsOn_execute_bind {s : Statement} (h : Carries db s w) (f : Job α) :
    (do let _ ← execute s; f).callsOn db w = .execute s :: f.callsOn db (next db s w) := by
  obtain ⟨a, ha⟩ := h
  have hs : (Job.runOn db (execute s) w).1 = .ok a := by rw [runOn_execute, ha]; rfl
  rw [Job.callsOn_bind hs, callsOn_execute]
  rfl

/-- Work that fails is undone, and its error is the result. -/
theorem transaction_of_error {e : StoreError} (hbegin : Carries db .begin w)
    (hjob : (job.runOn db (next db .begin w)).1 = .error e) :
    ((transaction job).runOn db w).1 = .error e ∧
      (transaction job).callsOn db w =
        .execute .begin :: (job.callsOn db (next db .begin w) ++ [.execute .rollback]) := by
  rw [transaction, runOn_execute_bind hbegin, callsOn_execute_bind hbegin, runOn_tryCatch,
    callsOn_tryCatch, Job.runOn_bind_of_error hjob, Job.callsOn_bind_of_error hjob]
  exact ⟨rfl, rfl⟩

theorem callsOn_transaction_begins (hbegin : Carries db .begin w) :
    .execute .begin :: job.callsOn db (next db .begin w) <+: (transaction job).callsOn db w := by
  rw [transaction, callsOn_execute_bind hbegin, callsOn_tryCatch, List.cons_prefix_cons]
  exact ⟨rfl, (Job.callsOn_bind_begins _ _ _).trans (List.prefix_append _ _)⟩

end Transaction

/-! ## Items -/

/-- The columns of a new item, its rank following the greatest one. -/
def newItemColumns (before behind : Row) : List (String × Scalar) :=
  (before.map fun (name, d) => (name, .bound d)) ++ ("rank", .following "rank") ::
    behind.map fun (name, d) => (name, .bound d)

theorem insertItem_of_error {item : Catalog.Item} {e : StoreError} (h : itemColumns item = .error e)
    (hlock : Carries db (.lock "catalog") w) :
    ((insertItem item).runOn db w).1 = .error e ∧
      (insertItem item).callsOn db w = [.execute (.lock "catalog")] := by
  have hcolumns : (Job.runOn db (ofExcept (itemColumns item)) (next db (.lock "catalog") w)).1 =
      .error e := h
  rw [insertItem, runOn_execute_bind hlock, callsOn_execute_bind hlock,
    Job.runOn_bind_of_error hcolumns, Job.callsOn_bind_of_error hcolumns]
  exact ⟨rfl, rfl⟩

theorem callsOn_insertItem_begins {item : Catalog.Item} {before behind : Row}
    (h : itemColumns item = .ok (before, behind)) (hlock : Carries db (.lock "catalog") w) :
    [.execute (.lock "catalog"),
      .execute (.append "catalog" (newItemColumns before behind) "rank")] <+:
      (insertItem item).callsOn db w := by
  have hcolumns : (Job.runOn db (ofExcept (itemColumns item)) (next db (.lock "catalog") w)).1 =
      .ok (before, behind) := h
  rw [insertItem, callsOn_execute_bind hlock, Job.callsOn_bind hcolumns, List.cons_prefix_cons]
  refine ⟨rfl, ?_⟩
  rw [callsOn_ofExcept, List.nil_append]
  exact (Job.callsOn_bind_begins (execute _) _ _).trans (Job.callsOn_bind_begins _ _ _)

/-- The row that a new item becomes has the columns of the item and some rank. -/
theorem exists_rank {rows : Multiset Row} {before behind new : Row}
    (h : Sql.NewRow rows (newItemColumns before behind) new) :
    ∃ n : Int32, new = before ++ ("rank", .integer n) :: behind := by
  rw [newItemColumns] at h
  induction before generalizing new with
  | nil =>
    cases h with
    | @cons _ entry _ rest hrank hbehind =>
      obtain ⟨name, d⟩ := entry
      obtain ⟨rfl, hd⟩ := hrank
      cases hd with
      | @following _ n _ =>
        have hrest : rest = behind := Sql.NewRow.unique hbehind (Sql.newRow_bound rows behind)
        exact ⟨n, by rw [hrest]; rfl⟩
  | cons column before ih =>
    cases h with
    | @cons _ entry _ rest hcolumn hrest =>
      obtain ⟨name, d⟩ := entry
      obtain ⟨rfl, hd⟩ := hcolumn
      cases hd with
      | bound =>
        obtain ⟨n, rfl⟩ := ih hrest
        exact ⟨n, rfl⟩

/-- The row that an item becomes is read as the item with the rank in it. -/
theorem itemOfRow_new {item : Catalog.Item} {before behind new : Row} {rows : Multiset Row}
    (hprice : item.priceRub.toNat < 2 ^ 63) (h : itemColumns item = .ok (before, behind))
    (hnew : Sql.NewRow rows (newItemColumns before behind) new) :
    ∃ rank : UInt32, new.column? "rank" = some (.integer rank.toInt32) ∧
      itemOfRow new = .ok { item with rank } := by
  obtain ⟨n, rfl⟩ := exists_rank hnew
  obtain ⟨before', behind', hcolumns, hrow⟩ := itemColumns_eq hprice
  obtain ⟨rfl, rfl⟩ := Prod.mk.inj (Except.ok.inj (hcolumns.symm.trans h))
  have hn : n.toUInt32.toInt32 = n := rfl
  rw [← hn, hrow]
  exact ⟨n.toUInt32, itemRow_rank _, itemOfRow_itemRow hprice⟩

/-! ## What is kept -/

section Kept

variable (db : (c : Call) → W → c.Reply × W) (listening : Bool) (w : W)

theorem callsOn_saveCustomer (c : Customer) :
    Job.callsOn db (serve listening (.saveCustomer c)) w =
      [.execute (.upsert "customers" "telegram_id" (customerRow c))] :=
  (Job.callsOn_bind_pure (execute _) _ w).trans (callsOn_execute _ w)

variable {db w} {item : Catalog.Item}

/-- An item whose price cannot be written is refused before its row is sent. -/
theorem addItem_refused (hprice : 2 ^ 63 ≤ item.priceRub.toNat) (hbegin : Carries db .begin w)
    (hlock : Carries db (.lock "catalog") (next db .begin w)) :
    Corrupted (Job.runOn db (serve listening (.addItem item)) w).1 ∧
      Job.callsOn db (serve listening (.addItem item)) w =
        [.execute .begin, .execute (.lock "catalog"), .execute .rollback] := by
  obtain ⟨reason, hcolumns⟩ := corrupted_itemColumns.2 hprice
  obtain ⟨hinsert, hsent⟩ := insertItem_of_error hcolumns hlock
  obtain ⟨herror, hcalls⟩ := transaction_of_error hbegin hinsert
  rw [serve, Job.runOn_bind_of_error herror, Job.callsOn_bind_of_error herror, hcalls, hsent]
  exact ⟨corrupted_error, rfl⟩

/-- The row of an item is sent, and whatever rank the database gives it, it is read as the item. -/
theorem addItem_sent (hprice : item.priceRub.toNat < 2 ^ 63) (hbegin : Carries db .begin w)
    (hlock : Carries db (.lock "catalog") (next db .begin w)) :
    ∃ columns,
      .execute (.append "catalog" columns "rank") ∈
        Job.callsOn db (serve listening (.addItem item)) w ∧
      ∀ rows new, Sql.NewRow rows columns new → ∃ rank : UInt32,
        new.column? "rank" = some (.integer rank.toInt32) ∧
        itemOfRow new = .ok { item with rank } := by
  obtain ⟨before, behind, hcolumns, -⟩ := itemColumns_eq hprice
  refine ⟨newItemColumns before behind, ?_, fun _ _ => itemOfRow_new hprice hcolumns⟩
  have hinsert := (callsOn_insertItem_begins hcolumns hlock).subset
    (List.mem_cons_of_mem _ List.mem_cons_self)
  have htransaction := (callsOn_transaction_begins hbegin).subset (List.mem_cons_of_mem _ hinsert)
  exact (Job.callsOn_bind_begins (transaction (insertItem item)) _ w).subset htransaction

theorem addItem_refused_iff (hbegin : Carries db .begin w)
    (hlock : Carries db (.lock "catalog") (next db .begin w)) :
    (Corrupted (Job.runOn db (serve listening (.addItem item)) w).1 ∧
      ∀ columns, .execute (.append "catalog" columns "rank") ∉
        Job.callsOn db (serve listening (.addItem item)) w) ↔ 2 ^ 63 ≤ item.priceRub.toNat := by
  constructor
  · rintro ⟨-, hunsent⟩
    by_contra hprice
    obtain ⟨columns, hsent, -⟩ := addItem_sent listening (Nat.lt_of_not_le hprice) hbegin hlock
    exact hunsent columns hsent
  · intro hprice
    obtain ⟨hcorrupted, hcalls⟩ := addItem_refused listening hprice hbegin hlock
    exact ⟨hcorrupted, fun columns => by rw [hcalls]; simp⟩

variable {o : Order}

theorem saveOrder_refused_iff :
    (Corrupted (Job.runOn db (serve listening (.saveOrder o)) w).1 ∧
      Job.callsOn db (serve listening (.saveOrder o)) w = []) ↔
        2 ^ 63 ≤ o.amountRub.toNat ∨ 2 ^ 63 ≤ o.amountYuan.toNat := by
  rw [← corrupted_orderRow, serve]
  cases hrow : orderRow o with
  | error e =>
    obtain ⟨hrun, hcalls⟩ := saveOrder_refused hrow w
    rw [hrun, hcalls]
    simp [Corrupted]
  | ok row =>
    rw [callsOn_saveOrder hrow]
    simp

/-- The row of an order is sent, and it is read as the order unless its time has a finer part than
microseconds or lies in a leap second. -/
theorem saveOrder_sent (hrub : o.amountRub.toNat < 2 ^ 63) (hyuan : o.amountYuan.toNat < 2 ^ 63) :
    ∃ row,
      Job.callsOn db (serve listening (.saveOrder o)) w = [.execute (.insert "orders" row)] ∧
      orderOfRow row = .ok { o with createdAt := .ofMicros o.createdAt.micros } ∧
      (orderOfRow row = .ok o ↔
        o.createdAt.nanos < 1000000000 ∧ o.createdAt.nanos % 1000 = 0) := by
  have hread := orderOfRow_boundOrder hrub hyuan
  refine ⟨boundOrder o, callsOn_saveOrder (orderRow_eq_ok hrub hyuan) w, hread, ?_⟩
  rw [hread, ← Instant.ofMicros_micros_iff, Except.ok.injEq]
  exact ⟨congrArg Order.createdAt, fun h => by rw [h]⟩

end Kept

/-- Rows are read back as they were written, and what cannot be is not written. -/
theorem rows_kept (db : (c : Call) → W → c.Reply × W) (listening : Bool) (w : W) :
    (∀ c : Customer,
      Job.callsOn db (serve listening (.saveCustomer c)) w =
        [.execute (.upsert "customers" "telegram_id" (customerRow c))] ∧
      (customerOfRow (customerRow c) = .ok c ↔ c.catalogOffset.toNat < 2 ^ 63)) ∧
    (∀ item : Catalog.Item, Carries db .begin w → Carries db (.lock "catalog") (next db .begin w) →
      ((Corrupted (Job.runOn db (serve listening (.addItem item)) w).1 ∧
        ∀ columns, .execute (.append "catalog" columns "rank") ∉
          Job.callsOn db (serve listening (.addItem item)) w) ↔ 2 ^ 63 ≤ item.priceRub.toNat) ∧
      (item.priceRub.toNat < 2 ^ 63 → ∃ columns,
        .execute (.append "catalog" columns "rank") ∈
          Job.callsOn db (serve listening (.addItem item)) w ∧
        ∀ rows new, Sql.NewRow rows columns new → ∃ rank : UInt32,
          new.column? "rank" = some (.integer rank.toInt32) ∧
          itemOfRow new = .ok { item with rank })) ∧
    (∀ o : Order,
      (Corrupted (Job.runOn db (serve listening (.saveOrder o)) w).1 ∧
        Job.callsOn db (serve listening (.saveOrder o)) w = [] ↔
          2 ^ 63 ≤ o.amountRub.toNat ∨ 2 ^ 63 ≤ o.amountYuan.toNat) ∧
      (o.amountRub.toNat < 2 ^ 63 → o.amountYuan.toNat < 2 ^ 63 → ∃ row,
        Job.callsOn db (serve listening (.saveOrder o)) w = [.execute (.insert "orders" row)] ∧
        orderOfRow row = .ok { o with createdAt := .ofMicros o.createdAt.micros } ∧
        (orderOfRow row = .ok o ↔
          o.createdAt.nanos < 1000000000 ∧ o.createdAt.nanos % 1000 = 0))) ∧
    Reads customerOfRow CustomerColumns DamagedCustomer ∧
    Reads itemOfRow ItemColumns DamagedItem ∧
    Reads orderOfRow OrderColumns DamagedOrder := by
  refine ⟨fun c => ⟨callsOn_saveCustomer db listening w c, customerOfRow_customerRow c⟩,
    fun item hbegin hlock => ⟨addItem_refused_iff listening hbegin hlock,
      fun hprice => addItem_sent listening hprice hbegin hlock⟩,
    fun o => ⟨saveOrder_refused_iff listening, saveOrder_sent listening⟩, ?_, ?_, ?_⟩
  · exact ⟨fun _ => corrupted_customerOfRow, fun _ => customerOfRow_ne_ok⟩
  · exact ⟨fun _ => corrupted_itemOfRow, fun _ => itemOfRow_ne_ok⟩
  · exact ⟨fun _ => corrupted_orderOfRow, fun _ => orderOfRow_ne_ok⟩

/-- The greatest price that is kept and the one above it, in a shop that has one cap. -/
theorem greatest_price_kept :
    let script : Script := ⟨false, false, false, [], fun _ => "", 0, [], []⟩
    let cap (price : UInt64) : Catalog.Item :=
      ⟨.nil, [], "cap", 0, ["M"], [], 4000000000, price, ""⟩
    let order : Order :=
      ⟨.nil, "4821", ⟨42, "ivan", none, none⟩, ⟨[]⟩, 9223372036854775807, 0, "Moscow", false, false,
        false, .notApproved, none, ⟨1700000000, 999999000⟩⟩
    (Corrupted
        (Job.runOn Script.serve (serve false (.addItem (cap 9223372036854775808))) script).1 ∧
      ∀ columns, .execute (.append "catalog" columns "rank") ∉
        Job.callsOn Script.serve (serve false (.addItem (cap 9223372036854775808))) script) ∧
    (∃ columns,
      .execute (.append "catalog" columns "rank") ∈
        Job.callsOn Script.serve (serve false (.addItem (cap 9223372036854775807))) script ∧
      ∀ rows new, Sql.NewRow rows columns new → ∃ rank : UInt32,
        new.column? "rank" = some (.integer rank.toInt32) ∧
        itemOfRow new = .ok { cap 9223372036854775807 with rank }) ∧
    ∃ row,
      Job.callsOn Script.serve (serve false (.saveOrder order)) script =
        [.execute (.insert "orders" row)] ∧
      orderOfRow row = .ok order := by
  intro script cap order
  obtain ⟨-, hitems, horders, -⟩ := rows_kept Script.serve false script
  obtain ⟨hrefused, -⟩ := hitems (cap 9223372036854775808) ⟨_, rfl⟩ ⟨_, rfl⟩
  obtain ⟨-, hkept⟩ := hitems (cap 9223372036854775807) ⟨_, rfl⟩ ⟨_, rfl⟩
  obtain ⟨row, hsent, -, hread⟩ := (horders order).2 (by decide) (by decide)
  exact ⟨hrefused.2 (by decide), hkept (by decide), row, hsent, hread.2 ⟨by decide, by decide⟩⟩

/-- A step that is none is not reported if the cart cannot be read either, and a leap second is read
as the second after it. -/
theorem step_unreported_leap_moved :
    (¬ ∀ row code, column row "state" Datum.smallint? = .ok code →
      Step.ofCode? code.toInt = none → Corrupted (customerOfRow row)) ∧
    ¬ ∀ (o : Order) row, o.createdAt.nanos % 1000 = 0 → orderRow o = .ok row →
      orderOfRow row = .ok o := by
  constructor
  · intro h
    obtain ⟨_, hreason⟩ := h [("telegram_id", .bigint 42), ("username", .text "ivan"),
      ("full_name", .null), ("phone_number", .null), ("state", .smallint 99),
      ("cart", .jsonb (.integer 5)), ("meta", .jsonb (.object [])),
      ("calculator_meta", .jsonb (.object [])), ("catalog_offset", .bigint 0),
      ("last_edit_position", .null)] 99 rfl (by decide)
    exact nomatch hreason
  · intro h
    have hread := h ⟨.nil, "4821", ⟨42, "ivan", none, none⟩, ⟨[]⟩, 0, 0, "Moscow", false, false,
      false, .notApproved, none, ⟨1700000000, 1000000000⟩⟩ _ rfl
      (orderRow_eq_ok (by decide) (by decide))
    rw [orderOfRow_boundOrder (by decide) (by decide)] at hread
    exact absurd (congrArg (·.createdAt.nanos) (Except.ok.inj hread)) (by decide)

end OrderDesk.Store.Database
