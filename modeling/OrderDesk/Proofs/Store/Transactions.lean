import OrderDesk.Proofs.Program.Rounds
import OrderDesk.Proofs.Store.Catalog
import OrderDesk.Proofs.Store.Sending

/-!
# What a change of the catalogue reports

A change of the catalogue is a transaction and an announcement.  There are four ways through a
transaction (`way_transaction`); on two of them the commit is sent, after all the work is done.  The
announcement first reads the catalogue back, so it can fail as well (`way_announce`), and it does so
when the transaction is already committed.

`reported` says what the replies and the result tell: an error alone does not mean that nothing was
changed.
-/

namespace OrderDesk.Store.Database

open Catalog (Change Item)
open Program (Round Way way_ask way_pure way_run_bind)
open Sql (Answer Datum Row Statement)

variable {α β : Type}

/-- Rounds with a database. -/
abbrev Rounds : Type := List (Round Call.Reply)

/-- A statement and the reply to it. -/
def replied (s : Statement) (reply : Except String Answer) : Round Call.Reply :=
  ⟨.execute s, reply⟩

/-- A statement that was carried out, and the answer to it. -/
abbrev answered (s : Statement) (answer : Answer) : Round Call.Reply := replied s (.ok answer)

@[simp] theorem replied_inj {s s' : Statement} {reply reply' : Except String Answer} :
    replied s reply = replied s' reply' ↔ s = s' ∧ reply = reply' := by
  simp [replied]

@[simp] theorem announce_ne_replied (items : List Item) (s : Statement)
    (reply : Except String Answer) :
    (⟨.announce items, ()⟩ : Round Call.Reply) ≠ replied s reply := nofun

/-- A transaction was committed. -/
def Committed (t : Rounds) : Prop := ∃ answer, answered .commit answer ∈ t

/-- The statement that reads the catalogue. -/
def catalogQuery : Statement := .select "catalog" [] (some "rank")

@[simp] theorem catalogQuery_ne_commit : catalogQuery ≠ .commit := nofun

/-- The items in the reply to a query of the catalogue. -/
def itemsOf (reply : Except String Answer) : Except StoreError (List Item) := do
  let answer ← reply.mapError .database
  answer.rows.mapM itemOfRow

/-- The catalogue was queried, and the items could not be had from the reply. -/
def Unread (t : Rounds) : Prop := ∃ reply e, replied catalogQuery reply ∈ t ∧ itemsOf reply = .error e

/-- There is a row in the answer, and `a` is in its only column. -/
def Finds (read : Datum → Option α) (answer : Answer) (a : α) : Prop :=
  ∃ row rest, answer.rows = row :: rest ∧ onlyColumn row read = .ok a

/-- A transaction has been begun and all statements of a change were carried out, those that look for
a row with success. -/
inductive Completed : Change → Rounds → Prop where
  | add {item : Item} {before behind : Row} {begun locked appended : Answer} {rank : Int32}
      (hcolumns : itemColumns item = .ok (before, behind))
      (hrank : Finds Datum.integer? appended rank) :
      Completed (.add item)
        [answered .begin begun, answered (.lock "catalog") locked,
         answered (.append "catalog" (newItemColumns before behind) "rank") appended]
  | remove {id : Uuid} {begun deleted moved : Answer} {rank : Int32}
      (hrank : Finds Datum.integer? deleted rank) :
      Completed (.remove id)
        [answered .begin begun,
         answered (.delete "catalog" (.equal "item_id" (.uuid id)) "rank") deleted,
         answered (.update "catalog" [("rank", .preceding "rank")] [.above "rank" (.integer rank)])
           moved]
  | swap {up down : Uuid} {begun foundUp foundDown setUp setDown : Answer} {upRank downRank : Int32}
      (hup : Finds Datum.integer? foundUp upRank) (hdown : Finds Datum.integer? foundDown downRank) :
      Completed (.swap up down)
        [answered .begin begun,
         answered (.selectColumn "rank" "catalog" (.equal "item_id" (.uuid up)) true) foundUp,
         answered (.selectColumn "rank" "catalog" (.equal "item_id" (.uuid down)) true) foundDown,
         answered (.update "catalog" [("rank", .bound (.integer downRank))]
           [.equal "item_id" (.uuid up)]) setUp,
         answered (.update "catalog" [("rank", .bound (.integer upRank))]
           [.equal "item_id" (.uuid down)]) setDown]

/-! ## Ways of jobs -/

namespace Job

/-- A way of a job. -/
def Way (job : Job α) (t : Rounds) (r : Except StoreError α) : Prop := Program.Way job.run t r

variable {job : Job α} {f : α → Job β} {t : Rounds} {b : β}

theorem way_bind {r : Except StoreError β} :
    (job >>= f).Way t r ↔
      (∃ e, job.Way t (.error e) ∧ r = .error e) ∨
        ∃ t₁ t₂ a, t = t₁ ++ t₂ ∧ job.Way t₁ (.ok a) ∧ (f a).Way t₂ r := way_run_bind

theorem way_bind_ok :
    (job >>= f).Way t (.ok b) ↔
      ∃ t₁ t₂ a, t = t₁ ++ t₂ ∧ job.Way t₁ (.ok a) ∧ (f a).Way t₂ (.ok b) := by
  rw [way_bind, or_iff_right]
  rintro ⟨e, -, h⟩
  cases h

end Job

variable {t : Rounds}

theorem way_ofExcept {result r : Except StoreError α} :
    Job.Way (ofExcept result) t r ↔ t = [] ∧ r = result := way_pure

theorem way_return {a : α} {r : Except StoreError α} :
    Job.Way (return a) t r ↔ t = [] ∧ r = .ok a := way_pure

theorem way_throw {e : StoreError} {r : Except StoreError α} :
    Job.Way (throw e) t r ↔ t = [] ∧ r = .error e := way_pure

theorem way_execute {s : Statement} {r : Except StoreError Answer} :
    Job.Way (execute s) t r ↔ ∃ reply, t = [replied s reply] ∧ r = reply.mapError .database := by
  constructor
  · intro h
    obtain ⟨reply, rest, rfl, hrest⟩ := way_ask.1 h
    obtain ⟨rfl, rfl⟩ := way_pure.1 hrest
    exact ⟨reply, rfl, rfl⟩
  · rintro ⟨reply, rfl, rfl⟩
    exact way_ask.2 ⟨reply, [], rfl, way_pure.2 ⟨rfl, rfl⟩⟩

theorem way_execute_ok {s : Statement} {answer : Answer} :
    Job.Way (execute s) t (.ok answer) ↔ t = [answered s answer] := by
  rw [way_execute]
  constructor
  · rintro ⟨e | reply, rfl, h⟩
    · cases h
    · cases h
      rfl
  · rintro rfl
    exact ⟨.ok answer, rfl, rfl⟩

theorem way_execute_error {s : Statement} {e : StoreError} :
    Job.Way (execute s) t (.error e) ↔
      ∃ reason, t = [replied s (.error reason)] ∧ e = .database reason := by
  rw [way_execute]
  constructor
  · rintro ⟨reason | reply, rfl, h⟩
    · cases h
      exact ⟨reason, rfl, rfl⟩
    · cases h
  · rintro ⟨reason, rfl, rfl⟩
    exact ⟨.error reason, rfl, rfl⟩

theorem way_firstRow_ok {s : Statement} {otherwise : StoreError} {row : Row} :
    Job.Way (firstRow s otherwise) t (.ok row) ↔
      ∃ answer rest, t = [answered s answer] ∧ answer.rows = row :: rest := by
  rw [firstRow, Job.way_bind_ok]
  constructor
  · rintro ⟨t₁, t₂, answer, rfl, hs, hrow⟩
    obtain rfl := way_execute_ok.1 hs
    split at hrow
    · rename_i first rest hrows
      obtain ⟨rfl, heq⟩ := way_return.1 hrow
      cases heq
      exact ⟨answer, rest, rfl, hrows⟩
    · obtain ⟨-, heq⟩ := way_throw.1 hrow
      cases heq
  · rintro ⟨answer, rest, rfl, hrows⟩
    refine ⟨_, [], answer, rfl, way_execute_ok.2 rfl, ?_⟩
    rw [hrows]
    exact way_return.2 ⟨rfl, rfl⟩

/-- What is got out of the first row of an answer. -/
theorem way_found_ok {s : Statement} {otherwise : StoreError} {read : Datum → Option α} {a : α} :
    Job.Way (do let row ← firstRow s otherwise; ofExcept (onlyColumn row read)) t (.ok a) ↔
      ∃ answer, t = [answered s answer] ∧ Finds read answer a := by
  rw [Job.way_bind_ok]
  constructor
  · rintro ⟨t₁, t₂, row, rfl, hrow, hread⟩
    obtain ⟨answer, rest, rfl, hrows⟩ := way_firstRow_ok.1 hrow
    obtain ⟨rfl, heq⟩ := way_ofExcept.1 hread
    exact ⟨answer, rfl, row, rest, hrows, heq.symm⟩
  · rintro ⟨answer, rfl, row, rest, hrows, hread⟩
    exact ⟨_, [], row, rfl, way_firstRow_ok.2 ⟨answer, rest, rfl, hrows⟩,
      way_ofExcept.2 ⟨rfl, hread.symm⟩⟩

/-- What is made of an answer that is of no interest. -/
theorem way_execute_return_ok {s : Statement} {u : Unit} :
    Job.Way (do let _ ← execute s; return ()) t (.ok u) ↔ ∃ answer, t = [answered s answer] := by
  rw [Job.way_bind_ok]
  constructor
  · rintro ⟨t₁, t₂, answer, rfl, hs, hreturn⟩
    obtain rfl := way_execute_ok.1 hs
    obtain ⟨rfl, -⟩ := way_return.1 hreturn
    exact ⟨answer, rfl⟩
  · rintro ⟨answer, rfl⟩
    exact ⟨_, [], answer, rfl, way_execute_ok.2 rfl, way_return.2 ⟨rfl, rfl⟩⟩

/-! ## Transactions -/

theorem way_tryCatch {job : Job α} {handle : StoreError → Job α} {r : Except StoreError α} :
    Job.Way (tryCatch job handle) t r ↔
      (∃ a, job.Way t (.ok a) ∧ r = .ok a) ∨
        ∃ t₁ t₂ e, t = t₁ ++ t₂ ∧ job.Way t₁ (.error e) ∧ (handle e).Way t₂ r := by
  refine (Program.way_bind (p := job.run)).trans ?_
  constructor
  · rintro ⟨t₁, t₂, e | a, rfl, hjob, hhandle⟩
    · exact .inr ⟨t₁, t₂, e, rfl, hjob, hhandle⟩
    · obtain ⟨rfl, rfl⟩ := way_pure.1 hhandle
      exact .inl ⟨a, (List.append_nil t₁).symm ▸ hjob, rfl⟩
  · rintro (⟨a, hjob, rfl⟩ | ⟨t₁, t₂, e, rfl, hjob, hhandle⟩)
    · exact ⟨t, [], .ok a, (List.append_nil t).symm, hjob, way_pure.2 ⟨rfl, rfl⟩⟩
    · exact ⟨t₁, t₂, .error e, rfl, hjob, hhandle⟩

theorem way_undo {e : StoreError} {r : Except StoreError α}
    (h : Job.Way (do let _ ← ask (.execute .rollback); throw e) t r) :
    ∃ reply, t = [replied .rollback reply] ∧ r = .error e := by
  obtain ⟨reply, rest, rfl, hrest⟩ := way_ask.1 h
  obtain ⟨rfl, rfl⟩ := way_pure.1 hrest
  exact ⟨reply, rfl, rfl⟩

/-- The ways of a transaction. -/
inductive Course (job : Job α) : Rounds → Except StoreError α → Prop where
  | unbegun {reason : String} :
      Course job [replied .begin (.error reason)] (.error (.database reason))
  | undone {begun : Answer} {t : Rounds} {e : StoreError} {reply : Except String Answer}
      (hjob : job.Way t (.error e)) :
      Course job (answered .begin begun :: t ++ [replied .rollback reply]) (.error e)
  | refused {begun : Answer} {t : Rounds} {a : α} {reason : String} {reply : Except String Answer}
      (hjob : job.Way t (.ok a)) :
      Course job
        (answered .begin begun :: t ++ replied .commit (.error reason) :: [replied .rollback reply])
        (.error (.database reason))
  | committed {begun : Answer} {t : Rounds} {a : α} {ended : Answer} (hjob : job.Way t (.ok a)) :
      Course job (answered .begin begun :: t ++ [answered .commit ended]) (.ok a)

theorem way_transaction {job : Job α} {r : Except StoreError α} (h : (transaction job).Way t r) :
    Course job t r := by
  rw [transaction] at h
  rcases Job.way_bind.1 h with ⟨e, hbegin, rfl⟩ | ⟨t₁, t₂, begun, rfl, hbegin, hinside⟩
  · obtain ⟨reason, rfl, rfl⟩ := way_execute_error.1 hbegin
    exact .unbegun
  obtain rfl := way_execute_ok.1 hbegin
  rcases way_tryCatch.1 hinside with ⟨a, hdone, rfl⟩ | ⟨t₁, t₃, e, rfl, hfailed, hundo⟩
  · obtain ⟨t₁, t₃, b, rfl, hjob, hrest⟩ := Job.way_bind_ok.1 hdone
    obtain ⟨t₃, t₄, ended, rfl, hcommit, hreturn⟩ := Job.way_bind_ok.1 hrest
    obtain rfl := way_execute_ok.1 hcommit
    obtain ⟨rfl, heq⟩ := way_return.1 hreturn
    cases heq
    exact .committed hjob
  · obtain ⟨reply, rfl, rfl⟩ := way_undo hundo
    rcases Job.way_bind.1 hfailed with ⟨e', hjob, heq⟩ | ⟨t₁, t₃, b, rfl, hjob, hrest⟩
    · cases heq
      exact .undone hjob
    rcases Job.way_bind.1 hrest with ⟨e', hcommit, heq⟩ | ⟨t₃, t₄, ended, rfl, -, hreturn⟩
    · cases heq
      obtain ⟨reason, rfl, rfl⟩ := way_execute_error.1 hcommit
      rw [List.append_assoc]
      exact .refused hjob
    · obtain ⟨-, heq⟩ := way_return.1 hreturn
      cases heq

/-! ## The work of a change -/

theorem completed_add {item : Item} {rank : Int32} (h : (insertItem item).Way t (.ok rank))
    (begun : Answer) : Completed (.add item) (answered .begin begun :: t) := by
  rw [insertItem] at h
  obtain ⟨t₁, t₂, locked, rfl, hlock, hrest⟩ := Job.way_bind_ok.1 h
  obtain rfl := way_execute_ok.1 hlock
  obtain ⟨t₁, t₂, ⟨before, behind⟩, rfl, hcolumns, happend⟩ := Job.way_bind_ok.1 hrest
  obtain ⟨rfl, heq⟩ := way_ofExcept.1 hcolumns
  obtain ⟨appended, rfl, hrank⟩ := way_found_ok.1 happend
  exact .add heq.symm hrank

theorem completed_remove {id : Uuid} {u : Unit} (h : (deleteItem id).Way t (.ok u))
    (begun : Answer) : Completed (.remove id) (answered .begin begun :: t) := by
  have hfound : deleteItem id = (do
      let rank ← (do
        let row ← firstRow (.delete "catalog" (.equal "item_id" (.uuid id)) "rank") (.noItem id)
        ofExcept (onlyColumn row Datum.integer?))
      let _ ← execute (.update "catalog" [("rank", .preceding "rank")] [.above "rank" (.integer rank)])
      return ()) := by
    rw [deleteItem, bind_assoc]
  rw [hfound] at h
  obtain ⟨t₁, t₂, rank, rfl, hdelete, hrest⟩ := Job.way_bind_ok.1 h
  obtain ⟨deleted, rfl, hrank⟩ := way_found_ok.1 hdelete
  obtain ⟨moved, rfl⟩ := way_execute_return_ok.1 hrest
  exact .remove hrank

theorem completed_swap {up down : Uuid} {u : Unit} (h : (exchange up down).Way t (.ok u))
    (begun : Answer) : Completed (.swap up down) (answered .begin begun :: t) := by
  rw [exchange] at h
  obtain ⟨t₁, t₂, upRank, rfl, hup, hrest⟩ := Job.way_bind_ok.1 h
  obtain ⟨foundUp, rfl, hupRank⟩ := way_found_ok.1 hup
  obtain ⟨t₁, t₂, downRank, rfl, hdown, hset⟩ := Job.way_bind_ok.1 hrest
  obtain ⟨foundDown, rfl, hdownRank⟩ := way_found_ok.1 hdown
  obtain ⟨t₁, t₂, _, rfl, hsetUp, hsetDown⟩ := Job.way_bind_ok.1 hset
  obtain ⟨setUp, rfl⟩ := way_execute_return_ok.1 hsetUp
  obtain ⟨setDown, rfl⟩ := way_execute_return_ok.1 hsetDown
  exact .swap hupRank hdownRank

/-! ## What is not sent -/

/-- A statement that neither commits nor asks for the whole catalogue. -/
def Inner : Statement → Prop
  | .commit => False
  | .select _ _ _ => False
  | _ => True

/-- Only inner statements are sent. -/
def Quiet (t : Rounds) : Prop := ∀ x ∈ t, ∃ s reply, x = replied s reply ∧ Inner s

/-- Only inner statements are sent by a job. -/
def Job.Quiet (job : Job α) : Prop := ∀ t r, job.Way t r → Database.Quiet t

theorem quiet_replied {s : Statement} (hs : Inner s) (reply : Except String Answer) :
    Quiet [replied s reply] :=
  List.forall_mem_singleton.2 ⟨s, reply, rfl, hs⟩

theorem Quiet.append {t₁ t₂ : Rounds} (h₁ : Quiet t₁) (h₂ : Quiet t₂) : Quiet (t₁ ++ t₂) :=
  List.forall_mem_append.2 ⟨h₁, h₂⟩

theorem Quiet.replied_not_mem (h : Quiet t) {s : Statement} (hs : ¬ Inner s)
    (reply : Except String Answer) : replied s reply ∉ t := by
  intro hmem
  obtain ⟨s', reply', heq, hs'⟩ := h _ hmem
  obtain ⟨rfl, -⟩ := replied_inj.1 heq
  exact hs hs'

theorem Quiet.uncommitted (h : Quiet t) (reply : Except String Answer) :
    replied .commit reply ∉ t := h.replied_not_mem id reply

theorem Quiet.unqueried (h : Quiet t) (reply : Except String Answer) :
    replied catalogQuery reply ∉ t := h.replied_not_mem id reply

theorem Quiet.unannounced (h : Quiet t) (items : List Item) :
    (⟨.announce items, ()⟩ : Round Call.Reply) ∉ t := by
  intro hmem
  obtain ⟨s, reply, heq, -⟩ := h _ hmem
  exact announce_ne_replied items s reply heq

namespace Job

theorem quiet_bind {job : Job α} {f : α → Job β} (hjob : job.Quiet) (hf : ∀ a, (f a).Quiet) :
    (job >>= f).Quiet := by
  intro t r h
  rcases way_bind.1 h with ⟨e, hway, -⟩ | ⟨t₁, t₂, a, rfl, hway, hrest⟩
  · exact hjob _ _ hway
  · exact (hjob _ _ hway).append (hf a _ _ hrest)

theorem quiet_ofExcept (result : Except StoreError α) : Quiet (ofExcept result) := by
  intro t r h
  obtain ⟨rfl, -⟩ := way_ofExcept.1 h
  exact List.forall_mem_nil _

theorem quiet_execute {s : Statement} (hs : Inner s) : Quiet (execute s) := by
  intro t r h
  obtain ⟨reply, rfl, -⟩ := way_execute.1 h
  exact quiet_replied hs reply

theorem quiet_firstRow {s : Statement} (hs : Inner s) (otherwise : StoreError) :
    Quiet (firstRow s otherwise) := by
  refine quiet_bind (quiet_execute hs) fun answer => ?_
  split
  · exact quiet_ofExcept (.ok _)
  · exact quiet_ofExcept (.error otherwise)

theorem quiet_insertItem (item : Item) : Quiet (insertItem item) :=
  quiet_bind (quiet_execute trivial) fun _ => quiet_bind (quiet_ofExcept _) fun _ =>
    quiet_bind (quiet_firstRow (by trivial) _) fun _ => quiet_ofExcept _

theorem quiet_deleteItem (id : Uuid) : Quiet (deleteItem id) :=
  quiet_bind (quiet_firstRow (by trivial) _) fun _ => quiet_bind (quiet_ofExcept _) fun _ =>
    quiet_bind (quiet_execute trivial) fun _ => quiet_ofExcept (.ok ())

theorem quiet_rank (id : Uuid) (locked : Bool) : Quiet (rank id locked) :=
  quiet_bind (quiet_firstRow (by trivial) _) fun _ => quiet_ofExcept _

theorem quiet_setRank (id : Uuid) (rank : Int32) : Quiet (setRank id rank) :=
  quiet_bind (quiet_execute trivial) fun _ => quiet_ofExcept (.ok ())

theorem quiet_exchange (up down : Uuid) : Quiet (exchange up down) :=
  quiet_bind (quiet_rank up true) fun _ => quiet_bind (quiet_rank down true) fun _ =>
    quiet_bind (quiet_setRank up _) fun _ => quiet_setRank down _

end Job

/-! ## The announcement -/

theorem way_catalog {r : Except StoreError (List Item)} :
    Job.Way catalog t r ↔ ∃ reply, t = [replied catalogQuery reply] ∧ r = itemsOf reply := by
  rw [catalog, Job.way_bind]
  constructor
  · rintro (⟨e, hquery, rfl⟩ | ⟨t₁, t₂, answer, rfl, hquery, hread⟩)
    · obtain ⟨reason, rfl, rfl⟩ := way_execute_error.1 hquery
      exact ⟨.error reason, rfl, rfl⟩
    · obtain rfl := way_execute_ok.1 hquery
      obtain ⟨rfl, rfl⟩ := way_ofExcept.1 hread
      exact ⟨.ok answer, rfl, rfl⟩
  · rintro ⟨reason | answer, rfl, rfl⟩
    · exact .inl ⟨_, way_execute_error.2 ⟨reason, rfl, rfl⟩, rfl⟩
    · exact .inr ⟨_, [], answer, rfl, way_execute_ok.2 rfl, way_ofExcept.2 ⟨rfl, rfl⟩⟩

/-- What may come after a transaction: the catalogue is read back and announced, if anyone listens. -/
inductive Announcement : Rounds → Except StoreError β → Prop where
  | unheard (b : β) : Announcement [] (.ok b)
  | unread {reply : Except String Answer} {e : StoreError} (hread : itemsOf reply = .error e) :
      Announcement [replied catalogQuery reply] (.error e)
  | made {reply : Except String Answer} {items : List Item} (hread : itemsOf reply = .ok items)
      (b : β) : Announcement [replied catalogQuery reply, ⟨.announce items, ()⟩] (.ok b)

theorem way_announce {listening : Bool} {r : Except StoreError Unit}
    (h : (announce listening).Way t r) : Announcement t r := by
  cases listening with
  | false =>
    obtain ⟨rfl, rfl⟩ := way_return.1 h
    exact .unheard ()
  | true =>
    rcases Job.way_bind.1 h with ⟨e, hcatalog, rfl⟩ | ⟨t₁, t₂, items, rfl, hcatalog, htell⟩
    · obtain ⟨reply, rfl, heq⟩ := way_catalog.1 hcatalog
      exact .unread heq.symm
    · obtain ⟨reply, rfl, heq⟩ := way_catalog.1 hcatalog
      obtain ⟨told, rest, rfl, hrest⟩ := way_ask.1 htell
      obtain ⟨rfl, rfl⟩ := way_pure.1 hrest
      exact .made heq.symm ()

theorem way_announce_return {listening : Bool} {b : β} {r : Except StoreError β}
    (h : Job.Way (do announce listening; return b) t r) : Announcement t r := by
  rcases Job.way_bind.1 h with ⟨e, hannounce, rfl⟩ | ⟨t₁, t₂, u, rfl, hannounce, hreturn⟩
  · cases way_announce hannounce with
    | unread hread => exact .unread hread
  · obtain ⟨rfl, rfl⟩ := way_return.1 hreturn
    rw [List.append_nil]
    cases way_announce hannounce with
    | unheard => exact .unheard b
    | made hread => exact .made hread b

/-! ## The report -/

/-- What the replies to a change and its result tell. -/
structure Reported (change : Change) (t : Rounds) (r : Except StoreError β) : Prop where
  /-- The commit is sent after the change is completed in the transaction. -/
  completed : ∀ before reply after, t = before ++ replied .commit reply :: after →
    Completed change before
  /-- Nothing is announced before the transaction is committed. -/
  announced : ∀ before items after, t = before ++ ⟨.announce items, ()⟩ :: after → Committed before
  /-- An error means that the transaction is not committed or the catalogue is not read back. -/
  error_iff : (∃ e, r = .error e) ↔ ¬ Committed t ∨ Unread t
  /-- The catalogue is read back when the transaction is committed. -/
  committed : Unread t → Committed t

variable {change : Change} {r : Except StoreError β}

theorem reported_of_quiet (h : Quiet t) (hr : ∃ e, r = .error e) : Reported change t r where
  completed _ _ _ ht := absurd (ht ▸ List.mem_append_right _ List.mem_cons_self) (h.uncommitted _)
  announced _ _ _ ht := absurd (ht ▸ List.mem_append_right _ List.mem_cons_self) (h.unannounced _)
  error_iff := iff_of_true hr (.inl fun ⟨_, hmem⟩ => h.uncommitted _ hmem)
  committed := fun ⟨_, _, hmem, _⟩ => absurd hmem (h.unqueried _)

/-- What stands before something that comes later. -/
theorem mem_before {x y : α} {t₁ t₂ before after : List α}
    (h : t₁ ++ x :: t₂ = before ++ y :: after) (hy : y ∉ t₁) (hne : y ≠ x) : x ∈ before := by
  rcases List.append_eq_append_iff.1 h with ⟨between, rfl, htail⟩ | ⟨between, rfl, htail⟩
  · cases between with
    | nil => exact absurd (List.cons.inj htail).1.symm hne
    | cons z between => simp [(List.cons.inj htail).1]
  · cases between with
    | nil => exact absurd (List.cons.inj htail).1 hne
    | cons z between => exact absurd (by simp [(List.cons.inj htail).1]) hy

section Commit

variable {t₁ t₂ : Rounds} {reply : Except String Answer}

/-- A commit between rounds that send none is the only one. -/
theorem eq_of_commit (h₁ : Quiet t₁) (h₂ : ∀ reply', replied .commit reply' ∉ t₂)
    {before after : Rounds} {reply' : Except String Answer}
    (h : t₁ ++ replied .commit reply :: t₂ = before ++ replied .commit reply' :: after) :
    before = t₁ :=
  ((List.append_cons_inj_of_notMem (h₁.uncommitted reply') (h₂ reply')).1 h).1.symm

theorem committed_iff (h₁ : Quiet t₁) (h₂ : ∀ reply', replied .commit reply' ∉ t₂) :
    Committed (t₁ ++ replied .commit reply :: t₂) ↔ ∃ answer, reply = .ok answer := by
  simp [Committed, h₁.uncommitted, h₂, eq_comm]

theorem reported_of_refused {reason : String} (h₁ : Quiet t₁) (h₂ : Quiet t₂)
    (hcompleted : Completed change t₁) (hr : ∃ e, r = .error e) :
    Reported change (t₁ ++ replied .commit (.error reason) :: t₂) r := by
  have hcommitted : ¬ Committed (t₁ ++ replied .commit (.error reason) :: t₂) := by
    simp [committed_iff h₁ h₂.uncommitted]
  refine ⟨fun before reply after ht => ?_, fun before items after ht => ?_, ?_, ?_⟩
  · exact eq_of_commit h₁ h₂.uncommitted ht ▸ hcompleted
  · have hmem := ht ▸ List.mem_append_right before (List.mem_cons_self (l := after))
    simp [h₁.unannounced, h₂.unannounced] at hmem
  · exact iff_of_true hr (.inl hcommitted)
  · rintro ⟨reply, e, hmem, -⟩
    simp [h₁.unqueried, h₂.unqueried] at hmem

theorem Announcement.uncommitted (h : Announcement t r) (reply : Except String Answer) :
    replied .commit reply ∉ t := by
  cases h <;> simp [catalogQuery_ne_commit.symm, Ne.symm (announce_ne_replied _ _ _)]

theorem Announcement.error_iff (h : Announcement t r) : (∃ e, r = .error e) ↔ Unread t := by
  cases h with
  | unheard b => simp [Unread]
  | unread hread => simp [Unread, hread]
  | made hread b => simp [Unread, hread, Ne.symm (announce_ne_replied _ _ _)]

theorem reported_of_committed {ended : Answer} (h₁ : Quiet t₁)
    (hcompleted : Completed change t₁) (h₂ : Announcement t₂ r) :
    Reported change (t₁ ++ answered .commit ended :: t₂) r := by
  have hcommitted : Committed (t₁ ++ answered .commit ended :: t₂) :=
    (committed_iff h₁ h₂.uncommitted).2 ⟨ended, rfl⟩
  refine ⟨fun before reply after ht => ?_, fun before items after ht => ?_, ?_, ?_⟩
  · exact eq_of_commit h₁ h₂.uncommitted ht ▸ hcompleted
  · exact ⟨ended, mem_before ht (h₁.unannounced items) (announce_ne_replied _ _ _)⟩
  · have hunread : Unread (t₁ ++ answered .commit ended :: t₂) ↔ Unread t₂ := by
      simp [Unread, h₁.unqueried]
    rw [h₂.error_iff, hunread, or_iff_right (not_not_intro hcommitted)]
  · exact fun _ => hcommitted

end Commit

/-- A transaction and what comes after it. -/
theorem reported_of_way {job : Job α} {rest : α → Job β} (hquiet : job.Quiet)
    (hcompleted : ∀ t a, job.Way t (.ok a) → ∀ begun,
      Completed change (answered .begin begun :: t))
    (hrest : ∀ a t r, (rest a).Way t r → Announcement t r)
    (h : Job.Way (do let a ← transaction job; rest a) t r) : Reported change t r := by
  have hbegin : ∀ reply, Quiet [replied .begin reply] := quiet_replied (by trivial)
  have hundo : ∀ reply, Quiet [replied .rollback reply] := quiet_replied (by trivial)
  rcases Job.way_bind.1 h with ⟨e, hjob, rfl⟩ | ⟨t₁, t₂, a, rfl, hjob, hannounce⟩
  · cases way_transaction hjob with
    | unbegun => exact reported_of_quiet (hbegin _) ⟨_, rfl⟩
    | @undone begun t e reply hdone =>
      have hbegun := (hbegin (.ok begun)).append (hquiet _ _ hdone)
      exact reported_of_quiet (hbegun.append (hundo reply)) ⟨_, rfl⟩
    | @refused begun t a reason reply hdone =>
      have hbegun := (hbegin (.ok begun)).append (hquiet _ _ hdone)
      exact reported_of_refused hbegun (hundo reply) (hcompleted _ _ hdone begun) ⟨_, rfl⟩
  · cases way_transaction hjob with
    | @committed begun t a ended hdone =>
      have hbegun := (hbegin (.ok begun)).append (hquiet _ _ hdone)
      rw [List.append_assoc]
      exact reported_of_committed hbegun (hcompleted _ _ hdone begun) (hrest a _ _ hannounce)

/-- Whatever is replied to a change of the catalogue: it is committed only when it is completed,
announced only when it is committed, and gets an error exactly if it is not committed or the
catalogue is not read back after that. -/
theorem reported (listening : Bool) (change : Change) {t : Rounds}
    {r : Except StoreError change.call.Value} (h : (serve listening change.call).Way t r) :
    Reported change t r := by
  cases change with
  | add item =>
    exact reported_of_way (Job.quiet_insertItem item) (fun _ _ h => completed_add h)
      (fun _ _ _ => way_announce_return) h
  | remove id =>
    exact reported_of_way (Job.quiet_deleteItem id) (fun _ _ h => completed_remove h)
      (fun _ _ _ => way_announce) h
  | swap up down =>
    exact reported_of_way (Job.quiet_exchange up down) (fun _ _ h => completed_swap h)
      (fun _ _ _ => way_announce) h

/-- An item of rank 0 is taken out, and then the catalogue is queried with the given reply. -/
def removing (reply : Except String Answer) : Script :=
  ⟨false, false, false, [.ok ⟨[[("rank", .integer 0)]], 1⟩, .ok ⟨[], 0⟩, reply], fun _ => "", 0,
    [], []⟩

/-- What is left of the catalogue is announced. -/
theorem removal_announced :
    let job := serve true (.removeItem .nil)
    let t := job.run.rounds Script.serve (removing (.ok ⟨[], 0⟩))
    job.Way t (.ok ()) ∧ Committed t ∧ ¬ Unread t := by
  intro job t
  have hway : job.Way t (.ok ()) :=
    Program.way_rounds Script.serve job.run (removing (.ok ⟨[], 0⟩))
  have hreported : Reported (.remove .nil) t (.ok ()) := reported true (.remove .nil) hway
  have hok : ¬ ∃ e, Except.ok () = (Except.error e : Except StoreError Unit) := nofun
  rw [hreported.error_iff, not_or, not_not] at hok
  exact ⟨hway, hok⟩

/-- The item is taken out for good, and yet there is an error. -/
theorem removal_unannounced : ¬ ∀ (change : Change) (t : Rounds)
    (r : Except StoreError change.call.Value), (serve true change.call).Way t r →
      (∃ e, r = .error e) → ¬ Committed t := by
  intro h
  have hway := Program.way_rounds Script.serve (serve true (.removeItem .nil)).run
    (removing (.error "canceled"))
  refine h (.remove .nil) _ _ hway ⟨_, rfl⟩ ⟨Script.nothing, ?_⟩
  exact .tail _ (.tail _ (.tail _ (.head _)))

end OrderDesk.Store.Database
