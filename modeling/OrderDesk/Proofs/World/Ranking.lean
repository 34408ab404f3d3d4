import OrderDesk.Proofs.World.Shelf

/-!
# Moving an item by one place

A move goes by ranks and identifiers: the rank of the item, the identifier of the neighbour's rank,
and an exchange of the ranks that these two identifiers have in a list that is in no order.  All the
same it is an exchange of two neighbours in the catalogue, because ranks are places
(`Store.Memory.Lists.mem_iff`), and they are so in every store that is reached
(`Store.Memory.ranked_reached`).
-/

namespace OrderDesk

open Catalog (Change Item)
open Store (Memory)

/-! ## Lists that agree in all but the ranks -/

namespace Catalog

variable {items list : List Item} {a b : Item} {i j : Nat}

/-- Where ranks are places, they need not be looked at. -/
theorem Numbered.eq_of_unranked (hitems : Numbered items) (hlist : Numbered list)
    (h : items.map Item.unranked = list.map Item.unranked) : items = list := by
  have hlength : items.length = list.length := by simpa using congrArg List.length h
  refine List.ext_getElem hlength fun k hk hk' => ?_
  have hrank : items[k].rank = list[k].rank :=
    UInt32.toNat_inj.1 ((hitems.getElem_rank hk).trans (hlist.getElem_rank hk').symm)
  have hunranked : items[k].unranked = list[k].unranked := by
    have hmaps : (items.map Item.unranked)[k]? = (list.map Item.unranked)[k]? := by rw [h]
    simpa [hk, hk'] using hmaps
  calc items[k] = { items[k].unranked with rank := items[k].rank } := rfl
    _ = { list[k].unranked with rank := list[k].rank } := by rw [hunranked, hrank]
    _ = list[k] := rfl

/-- Exchanging two items exchanges their places. -/
theorem getElem?_map_exchange (h : (list.map (·.id)).Nodup) (hi : list[i]? = some a)
    (hj : list[j]? = some b) (k : Nat) :
    (list.map (exchange a b))[k]? = list[Equiv.swap i j k]? := by
  obtain ⟨hil, rfl⟩ := List.getElem?_eq_some_iff.1 hi
  obtain ⟨hjl, rfl⟩ := List.getElem?_eq_some_iff.1 hj
  rw [List.getElem?_map]
  by_cases hki : k = i
  · subst hki
    rw [Equiv.swap_apply_left, hi, hj, Option.map_some, exchange, if_pos rfl]
  · by_cases hkj : k = j
    · subst hkj
      have hne : list[k].id ≠ list[i].id := fun heq => hki (place_of_id h hjl hil heq)
      rw [Equiv.swap_apply_right, hi, hj, Option.map_some, exchange, if_neg hne, if_pos rfl]
    · rw [Equiv.swap_apply_of_ne_of_ne hki hkj]
      cases hk : list[k]? with
      | none => rfl
      | some x =>
        obtain ⟨hkl, rfl⟩ := List.getElem?_eq_some_iff.1 hk
        have hnei : list[k].id ≠ list[i].id := fun heq => hki (place_of_id h hkl hil heq)
        have hnej : list[k].id ≠ list[j].id := fun heq => hkj (place_of_id h hkl hjl heq)
        rw [Option.map_some, exchange, if_neg hnei, if_neg hnej]

end Catalog

/-! ## Stores that are reached -/

namespace Store.Memory

open Catalog

variable {m : Memory}

/-- Only changes of the catalogue touch it. -/
theorem after_items_cases (m : Memory) (call : Call) :
    (∃ change : Change, call = change.call) ∨ (m.after call).items = m.items := by
  cases call with
  | addItem item => exact .inl ⟨.add item, rfl⟩
  | removeItem id => exact .inl ⟨.remove id, rfl⟩
  | swapRanks up down => exact .inl ⟨.swap up down, rfl⟩
  | saveCustomer c => exact .inr (putCustomer_items m c)
  | updateCustomer id u =>
    refine .inr ?_
    cases hc : m.customer? id with
    | none => rw [after_updateCustomer_of_none hc]
    | some c => rw [after_updateCustomer hc, putCustomer_items]
  | updateStep id s =>
    refine .inr ?_
    show (m.after (.updateCustomer id { Customer.Update.none with step := some s })).items = _
    cases hc : m.customer? id with
    | none => rw [after_updateCustomer_of_none hc]
    | some c => rw [after_updateCustomer hc, putCustomer_items]
  | markPaid id shortId =>
    refine .inr ?_
    rw [after_markPaid]
    split <;> rfl
  | _ => exact .inr rfl

/-- Whatever has been called, ranks are places as long as there are numbers for them. -/
theorem ranked_after_call (h : m.items.length < UInt32.size → Ranked m.items) (call : Call)
    (hroom : (m.after call).items.length < UInt32.size) : Ranked (m.after call).items := by
  rcases m.after_items_cases call with ⟨change, rfl⟩ | hsame
  · exact ranked_after h change hroom
  · rw [hsame] at hroom ⊢
    exact h hroom

/-- In every store that is reached, ranks are places. -/
theorem ranked_reached (calls : List Call)
    (hroom : (calls.foldl after empty).items.length < UInt32.size) :
    Ranked (calls.foldl after empty).items := by
  revert hroom
  refine List.foldlRecOn (motive := fun m => m.items.length < UInt32.size → Ranked m.items) calls
    after (fun _ => ?_) fun m hm call _ => ranked_after_call hm call
  exact List.Perm.refl _

/-- Such a store is in step with its own catalogue, if no identifier is shared. -/
theorem lists_reached {calls : List Call} (hreached : m = calls.foldl after empty)
    (hroom : m.items.length < UInt32.size) (hids : (m.catalog.map (·.id)).Nodup) :
    m.Lists (m.catalog.map Item.unranked) := by
  refine ⟨?_, ?_, rfl⟩
  · subst hreached
    exact ranked_reached calls hroom
  · exact ((sorted_perm m.items).map _).nodup_iff.1 hids

/-! ## One exchange -/

section Exchange

variable {list : List Item} {a b : Item} {i j : Nat}

theorem Lists.nodup_ids (h : m.Lists list) : (list.map (·.id)).Nodup := by
  have hids : list.map (·.id) = m.catalog.map (·.id) := by
    rw [← h.entries, List.map_map]
    rfl
  rw [hids]
  exact ((sorted_perm m.items).map _).nodup_iff.2 h.nodup

theorem Lists.getElem? (h : m.Lists list) (k : Nat) :
    list[k]? = m.catalog[k]?.map Item.unranked := by
  rw [← h.entries, List.getElem?_map]

theorem mem_of_place (h : m.catalog[i]? = some a) : a ∈ m.items :=
  (sorted_perm m.items).mem_iff.1 (List.mem_of_getElem? h)

/-- The items at two places of the catalogue are found by their identifiers, and afterwards each of
them is at the other's place. -/
theorem Lists.exchange_places (h : m.Lists list) (hi : m.catalog[i]? = some a)
    (hj : m.catalog[j]? = some b) :
    ∃ items, m.swapRanks a.id b.id = .ok { m with items } ∧
      Lists { m with items } (list.map (exchange a.unranked b.unranked)) := by
  have hfound : ∀ {x : Item}, x ∈ m.items → m.items.any (·.id == x.id) ≠ false := by
    intro x hx hnone
    exact List.any_eq_false.1 hnone x hx (beq_self_eq_true _)
  obtain ⟨hnone, -⟩ | ⟨-, hnone, -⟩ | ⟨i', j', hi', hj', hup, hdown, hswapped⟩ :=
    swapRanks_cases m a.id b.id
  · exact absurd hnone (hfound (mem_of_place hi))
  · exact absurd hnone (hfound (mem_of_place hj))
  · have ha : m.items[i'] = a :=
      List.inj_on_of_nodup_map h.nodup (List.getElem_mem hi') (mem_of_place hi) hup
    have hb : m.items[j'] = b :=
      List.inj_on_of_nodup_map h.nodup (List.getElem_mem hj') (mem_of_place hj) hdown
    exact ⟨_, hswapped, ha ▸ hb ▸ h.swapRanks hi' hj'⟩

end Exchange

/-! ## What is announced -/

/-- The catalogues that are announced while calls are served. -/
def told (m : Memory) : List Call → List (List Item)
  | [] => []
  | c :: cs => (m.announced c).toList ++ (m.after c).told cs

theorem told_append (m : Memory) (cs ds : List Call) :
    m.told (cs ++ ds) = m.told cs ++ (cs.foldl after m).told ds := by
  induction cs generalizing m with
  | nil => rfl
  | cons c cs ih => simp only [List.cons_append, told, ih, List.foldl_cons, List.append_assoc]

end Store.Memory

namespace Shop

variable {W α β : Type} (S : Shop W) {job : Store.Work α} {f : α → Store.Work β} {v w : W}

/-- The calls that a piece of work makes. -/
def workCalls (job : Store.Work α) (w : W) : List Store.Call :=
  job.run.calls (fun c v => S.serve (.store c) v) w

/-- The catalogues that are announced in the course of a piece of work. -/
def told (job : Store.Work α) (w : W) : List (List Item) :=
  (S.memory w).told (S.workCalls job w)

theorem memory_work (job : Store.Work α) (w : W) :
    S.memory (S.work job w).2 = (S.workCalls job w).foldl Memory.after (S.memory w) :=
  Program.view_run (fun c v => S.memory_serve (.store c) v) job.run w

theorem told_bind {a : α} (h : (S.work job w).1 = .ok a) :
    S.told (job >>= f) w = S.told job w ++ S.told (f a) (S.work job w).2 := by
  have hcalls : S.workCalls (job >>= f) w =
      S.workCalls job w ++ S.workCalls (f a) (S.work job w).2 := by
    rw [work] at h
    rw [workCalls, Program.calls_run_bind, h]
    rfl
  rw [told, hcalls, Memory.told_append, ← memory_work]
  rfl

theorem told_bind_of_error {e : StoreError} (h : (S.work job w).1 = .error e) :
    S.told (job >>= f) w = S.told job w := by
  have hcalls : S.workCalls (job >>= f) w = S.workCalls job w := by
    rw [work] at h
    rw [workCalls, Program.calls_run_bind, h]
    exact List.append_nil _
  rw [told, hcalls]
  rfl

theorem told_perform (c : Store.Call) (w : W) :
    S.told (Store.perform c) w = ((S.memory w).announced c).toList := List.append_nil _

/-- Work that leaves all as it was, and that nobody hears of. -/
structure Idle (job : Store.Work α) (w : W) : Prop where
  same : S.Same (S.work job w).2 w
  told : S.told job w = []

theorem idle_rankOf (id : Uuid) (w : W) : S.Idle (Store.perform (.rankOf id)) w :=
  ⟨(S.work_rankOf id w).2, S.told_perform _ w⟩

theorem idle_idAt (rank : UInt32) (w : W) : S.Idle (Store.perform (.idAt rank)) w :=
  ⟨(S.work_idAt rank w).2, S.told_perform _ w⟩

/-- Asking for a neighbour fails for no rank. -/
theorem idle_neighbour? (rank : UInt32) (w : W) :
    S.Idle (Catalog.Manager.neighbour? rank) w ∧
      (S.work (Catalog.Manager.neighbour? rank) w).1 = .ok ((S.memory w).idAt rank).toOption := by
  obtain ⟨hreply, -⟩ := S.work_idAt rank w
  have hcall : (Program.call (Store.Call.idAt rank)).run (fun c v => S.serve (.store c) v) w =
      S.work (Store.perform (.idAt rank)) w := rfl
  have hcalls : S.workCalls (Catalog.Manager.neighbour? rank) w = [.idAt rank] := by
    simp only [workCalls, Catalog.Manager.neighbour?, ExceptT.run_mk, Program.bind_eq,
      Program.calls_bind, hcall, hreply, Memory.idAt]
    cases (S.memory w).items.find? (·.rank == rank) <;> rfl
  refine ⟨⟨(S.work_neighbour? rank w).1, ?_⟩, ?_⟩
  · rw [told, hcalls]
    rfl
  · simp only [work, Catalog.Manager.neighbour?, ExceptT.run_mk, Program.bind_eq,
      Program.run_bind]
    rw [hcall, hreply, Memory.idAt]
    cases (S.memory w).items.find? (·.rank == rank) <;> rfl

/-- Work that comes to other work, with nothing changed and nothing heard on the way. -/
structure Leads (job : Store.Work Unit) (w : W) (rest : Store.Work Unit) (v : W) : Prop where
  same : S.Same v w
  work : S.work job w = S.work rest v
  told : S.told job w = S.told rest v

section Questions

variable {S} {job rest : Store.Work Unit} {ask : Store.Work α} {g : α → Store.Work Unit}

theorem Leads.trans {u : W} {first : Store.Work Unit} (h : S.Leads first u job w)
    (h' : S.Leads job w rest v) : S.Leads first u rest v :=
  ⟨h'.same.trans S h.same, h.work.trans h'.work, h.told.trans h'.told⟩

/-- Work that ends where it has come to leaves all as it was. -/
theorem Leads.done (h : S.Leads job w (pure ()) v) : (S.work job w).1 = .ok () ∧ S.Idle job w := by
  refine ⟨by rw [h.work]; rfl, ⟨?_, h.told⟩⟩
  rw [h.work]
  exact h.same

/-- The reply to a question is gone on with. -/
theorem Idle.leads {a : α} (hask : S.Idle ask w) (hreply : (S.work ask w).1 = .ok a)
    (hjob : job = ask >>= g) : ∃ v, S.Leads job w (g a) v := by
  subst hjob
  refine ⟨_, hask.same, S.work_bind hreply, ?_⟩
  rw [S.told_bind hreply, hask.told, List.nil_append]

/-- An error in reply to a question is the end. -/
theorem Idle.error {e : StoreError} (hask : S.Idle ask w) (hreply : (S.work ask w).1 = .error e)
    (hjob : job = ask >>= g) : (S.work job w).1 = .error e ∧ S.Idle job w := by
  subst hjob
  have hwork := S.work_bind_of_error (f := g) hreply
  refine ⟨by rw [hwork], ⟨?_, ?_⟩⟩
  · rw [hwork]
    exact hask.same
  · rw [S.told_bind_of_error hreply, hask.told]

end Questions

/-! ## Two items change places -/

/-- Work after which two places of the catalogue are exchanged and all else is the same, but for the
customers, who are back at the front.  The new catalogue is announced once. -/
structure Exchanges (i j : Nat) (job : Store.Work Unit) (w : W) : Prop where
  result : (S.work job w).1 = .ok ()
  places : ∀ k, (S.memory (S.work job w).2).catalog[k]?.map Item.unranked =
    (S.memory w).catalog[Equiv.swap i j k]?.map Item.unranked
  /-- Ranks are places again, and no identifier is shared. -/
  sound : ∃ list, (S.memory (S.work job w).2).Lists list
  rest : ∃ items, S.memory (S.work job w).2 = { (S.memory w).resetOffsets with items }
  told : S.told job w = [(S.memory (S.work job w).2).catalog]

section Swap

variable {list : List Item} {i j : Nat} {a b : Item}

theorem told_changing {change : Change} {items : List Item}
    (h : (S.memory w).announced change.call = some items) :
    S.told (changing change) w = [items] := by
  have hmade : ∃ x, (S.work (Store.perform change.call) w).1 = .ok x := by
    obtain ⟨next, drawn, hreply⟩ := S.reply change.call w
    rcases (S.memory w).serve_change change with ⟨x, hok, -⟩ | ⟨e, -, -, hnone⟩
    · exact ⟨x, hreply.trans (hok next drawn)⟩
    · rw [h] at hnone
      cases hnone
  obtain ⟨x, hx⟩ := hmade
  rw [changing, S.told_bind hx, S.told_perform, S.told_perform, h]
  rfl

/-- Exchanging the ranks of the items at two places exchanges the places. -/
theorem exchanges_changing (h : (S.memory w).Lists list) (hi : (S.memory w).catalog[i]? = some a)
    (hj : (S.memory w).catalog[j]? = some b) {job : Store.Work Unit}
    (hjob : S.Leads job w (changing (.swap a.id b.id)) v) : S.Exchanges i j job w := by
  obtain ⟨hv, hwork, htold⟩ := hjob
  obtain ⟨items, hswapped, hlists⟩ := h.exchange_places hi hj
  have hafter : (S.memory v).after (Change.swap a.id b.id).call = { S.memory w with items } := by
    simp only [hv.memory, Memory.after, Memory.serve, Change.call, hswapped, Memory.announce]
  have hannounced : (S.memory v).announced (Change.swap a.id b.id).call =
      some (Memory.catalog { S.memory w with items }) := by
    simp only [hv.memory, Memory.announced, Memory.serve, Change.call, hswapped, Memory.announce]
  rcases S.work_changing (.swap a.id b.id) v with ⟨e, hnone, -⟩ | hmade
  · rw [hannounced] at hnone
    cases hnone
  · rw [← hwork] at hmade
    have hmemory : S.memory (S.work job w).2 = { (S.memory w).resetOffsets with items } := by
      rw [hmade.memory, hafter]
      rfl
    have hcatalog : (S.memory (S.work job w).2).catalog =
        Memory.catalog { S.memory w with items } := by
      rw [hmemory]
      rfl
    have hsound : (S.memory (S.work job w).2).Lists
        (list.map (Catalog.exchange a.unranked b.unranked)) := by
      rw [hmemory]
      exact ⟨hlists.ranked, hlists.nodup, hlists.entries⟩
    refine ⟨hmade.result, fun k => ?_, ⟨_, hsound⟩, ⟨items, hmemory⟩, ?_⟩
    · rw [hcatalog, ← hlists.getElem?, ← h.getElem?]
      exact Catalog.getElem?_map_exchange h.nodup_ids (by rw [h.getElem?, hi]; rfl)
        (by rw [h.getElem?, hj]; rfl) k
    · rw [htold, S.told_changing hannounced, hcatalog]

end Swap

/-! ## Moves -/

section Moves

variable {list : List Item} {i : Nat} {a : Item}

/-- The place of an item is the rank that the store gives. -/
theorem work_rankOf_place (h : (S.memory w).Lists list) (hi : (S.memory w).catalog[i]? = some a) :
    (S.work (Store.perform (.rankOf a.id)) w).1 = .ok a.rank ∧ a.rank.toNat = i := by
  obtain ⟨hlt, hget⟩ := List.getElem?_eq_some_iff.1 hi
  have hrank : (S.memory w).rankOf a.id = .ok a.rank :=
    (h.rankOf a.id a.rank).2 ⟨a, Memory.mem_of_place hi, rfl, rfl⟩
  refine ⟨(S.work_rankOf a.id w).1.trans hrank, ?_⟩
  rw [← hget]
  exact Catalog.Numbered.getElem_rank h.ranked.sorted hlt

theorem idAt_place (h : (S.memory w).Lists list) {rank : UInt32} {b : Item} :
    (S.memory w).catalog[rank.toNat]? = some b → (S.memory w).idAt rank = .ok b.id := by
  intro hb
  refine (h.idAt b.id rank).2 ((h.mem_iff b.id rank).2 ?_)
  rw [h.getElem?, hb]
  rfl

theorem idAt_beyond (h : (S.memory w).Lists list) {rank : UInt32}
    (hbeyond : (S.memory w).catalog[rank.toNat]? = none) :
    ((S.memory w).idAt rank).toOption = none := by
  cases hid : (S.memory w).idAt rank with
  | error e => rfl
  | ok id =>
    have hplace := (h.mem_iff id rank).1 ((h.idAt id rank).1 hid)
    rw [h.getElem?, hbeyond] at hplace
    cases hplace

theorem work_rankOf_unknown {id : Uuid} (hid : id ∉ (S.memory w).catalog.map (·.id)) :
    (S.work (Store.perform (.rankOf id)) w).1 = .error (.noItem id) := by
  have hnone : (S.memory w).item? id = none := by
    refine List.find?_eq_none.2 fun x hx heq => hid (List.mem_map.2 ⟨x, ?_, by simpa using heq⟩)
    exact (Catalog.sorted_perm _).mem_iff.2 hx
  rw [(S.work_rankOf id w).1, Memory.rankOf, hnone]

/-- Neither move finds an item that there is not. -/
theorem move_unknown {id : Uuid} (hid : id ∉ (S.memory w).catalog.map (·.id)) :
    ((S.work (Catalog.Manager.moveUp id) w).1 = .error (.noItem id) ∧
      S.Idle (Catalog.Manager.moveUp id) w) ∧
    (S.work (Catalog.Manager.moveDown id) w).1 = .error (.noItem id) ∧
      S.Idle (Catalog.Manager.moveDown id) w :=
  ⟨(S.idle_rankOf id w).error (S.work_rankOf_unknown hid) rfl,
    (S.idle_rankOf id w).error (S.work_rankOf_unknown hid) rfl⟩

theorem moveUp_first (h : (S.memory w).Lists list) (hi : (S.memory w).catalog[0]? = some a) :
    (S.work (Catalog.Manager.moveUp a.id) w).1 = .ok () ∧
      S.Idle (Catalog.Manager.moveUp a.id) w := by
  obtain ⟨hrank, hplace⟩ := S.work_rankOf_place h hi
  obtain ⟨v, hleads⟩ : ∃ v, S.Leads (Catalog.Manager.moveUp a.id) w _ v :=
    (S.idle_rankOf a.id w).leads hrank rfl
  have hzero : a.rank = 0 := UInt32.toNat_inj.1 hplace
  rw [if_pos hzero] at hleads
  exact hleads.done

/-- Up from the second place or further back. -/
theorem moveUp_exchanges (h : (S.memory w).Lists list)
    (hi : (S.memory w).catalog[i + 1]? = some a) :
    S.Exchanges (i + 1) i (Catalog.Manager.moveUp a.id) w := by
  obtain ⟨hrank, hplace⟩ := S.work_rankOf_place h hi
  obtain ⟨v, hfirst⟩ : ∃ v, S.Leads (Catalog.Manager.moveUp a.id) w _ v :=
    (S.idle_rankOf a.id w).leads hrank rfl
  have hpos : a.rank ≠ 0 := by
    intro hzero
    rw [hzero] at hplace
    exact Nat.succ_ne_zero i hplace.symm
  rw [if_neg hpos] at hfirst
  obtain ⟨hlt, -⟩ := List.getElem?_eq_some_iff.1 hi
  obtain ⟨b, hb⟩ : ∃ b, (S.memory w).catalog[i]? = some b :=
    ⟨_, List.getElem?_eq_getElem (Nat.lt_of_succ_lt hlt)⟩
  have hbelow : (a.rank - 1).toNat = i := by
    have hone : (1 : UInt32) ≤ a.rank := by
      rw [UInt32.le_iff_toNat_le, hplace]
      exact Nat.succ_le_succ (Nat.zero_le i)
    rw [UInt32.toNat_sub_of_le _ _ hone, hplace]
    rfl
  have hneighbour : (S.work (Store.perform (.idAt (a.rank - 1))) v).1 = .ok b.id := by
    rw [(S.work_idAt _ v).1, hfirst.same.memory]
    exact S.idAt_place h (by rw [hbelow, hb])
  obtain ⟨v', hsecond⟩ := (S.idle_idAt (a.rank - 1) v).leads hneighbour rfl
  exact S.exchanges_changing h hi hb (hfirst.trans hsecond)

/-- Down from a place that has a rank after it. -/
theorem moveDown_leads (h : (S.memory w).Lists list) (hi : (S.memory w).catalog[i]? = some a)
    (hroom : i + 1 < UInt32.size) :
    ∃ v, S.Leads (Catalog.Manager.moveDown a.id) w
      (match (S.memory w).catalog[i + 1]? with
        | none => pure ()
        | some b => changing (.swap b.id a.id)) v := by
  obtain ⟨hrank, hplace⟩ := S.work_rankOf_place h hi
  obtain ⟨v, hfirst⟩ : ∃ v, S.Leads (Catalog.Manager.moveDown a.id) w _ v :=
    (S.idle_rankOf a.id w).leads hrank rfl
  have habove : (a.rank + 1).toNat = i + 1 := by
    have hone : (1 : UInt32).toNat = 1 := rfl
    rw [UInt32.toNat_add, hplace, hone]
    exact Nat.mod_eq_of_lt hroom
  obtain ⟨hidle, hneighbour⟩ := S.idle_neighbour? (a.rank + 1) v
  rw [hfirst.same.memory] at hneighbour
  obtain ⟨v', hsecond⟩ := hidle.leads hneighbour rfl
  refine ⟨v', ?_⟩
  cases hnext : (S.memory w).catalog[i + 1]? with
  | none =>
    rw [S.idAt_beyond h (by rw [habove, hnext])] at hsecond
    exact hfirst.trans hsecond
  | some b =>
    rw [S.idAt_place h (by rw [habove, hnext])] at hsecond
    exact hfirst.trans hsecond

theorem moveDown_last (h : (S.memory w).Lists list) (hi : (S.memory w).catalog[i]? = some a)
    (hlast : i + 1 = (S.memory w).catalog.length) (hroom : i + 1 < UInt32.size) :
    (S.work (Catalog.Manager.moveDown a.id) w).1 = .ok () ∧
      S.Idle (Catalog.Manager.moveDown a.id) w := by
  obtain ⟨v, hleads⟩ := S.moveDown_leads h hi hroom
  rw [List.getElem?_eq_none (Nat.le_of_eq hlast.symm)] at hleads
  exact hleads.done

theorem moveDown_exchanges (h : (S.memory w).Lists list) (hi : (S.memory w).catalog[i]? = some a)
    (hnext : i + 1 < (S.memory w).catalog.length) (hroom : i + 1 < UInt32.size) :
    S.Exchanges (i + 1) i (Catalog.Manager.moveDown a.id) w := by
  obtain ⟨v, hleads⟩ := S.moveDown_leads h hi hroom
  have hb := List.getElem?_eq_getElem hnext
  rw [hb] at hleads
  exact S.exchanges_changing h hb hi hleads

end Moves

/-! ## There and back -/

section Back

variable {S} {list : List Item} {i j : Nat} {a : Item} {job back : Store.Work Unit}

/-- Which item is at a place afterwards. -/
theorem Exchanges.item (h : S.Exchanges i j job w) {k : Nat}
    (ha : (S.memory w).catalog[Equiv.swap i j k]? = some a) :
    ∃ a', (S.memory (S.work job w).2).catalog[k]? = some a' ∧ a'.id = a.id := by
  have hplace := h.places k
  rw [ha, Option.map_some] at hplace
  obtain ⟨a', ha', hunranked⟩ := Option.map_eq_some_iff.1 hplace
  refine ⟨a', ha', ?_⟩
  show a'.unranked.id = a.unranked.id
  rw [hunranked]

/-- A second exchange of the same places restores the catalogue, with all its ranks. -/
theorem Exchanges.restores (h : S.Exchanges i j job w)
    (hback : S.Exchanges i j back (S.work job w).2) (hlists : (S.memory w).Lists list) :
    (S.memory (S.work back (S.work job w).2).2).catalog = (S.memory w).catalog := by
  obtain ⟨_, hsound⟩ := hback.sound
  refine hsound.ranked.sorted.eq_of_unranked hlists.ranked.sorted (List.ext_getElem? fun k => ?_)
  rw [List.getElem?_map, List.getElem?_map]
  calc (S.memory (S.work back (S.work job w).2).2).catalog[k]?.map Item.unranked
      = (S.memory (S.work job w).2).catalog[Equiv.swap i j k]?.map Item.unranked := hback.places k
    _ = (S.memory w).catalog[Equiv.swap i j (Equiv.swap i j k)]?.map Item.unranked := h.places _
    _ = (S.memory w).catalog[k]?.map Item.unranked := by rw [Equiv.swap_apply_self]

theorem moveUp_restores (hlists : (S.memory w).Lists list)
    (hi : (S.memory w).catalog[i + 1]? = some a) (hroom : i + 1 < UInt32.size) :
    (S.memory (S.work (Catalog.Manager.moveDown a.id)
      (S.work (Catalog.Manager.moveUp a.id) w).2).2).catalog = (S.memory w).catalog := by
  have hup := S.moveUp_exchanges hlists hi
  obtain ⟨_, hsound⟩ := hup.sound
  obtain ⟨a', ha', hid⟩ := hup.item (k := i) (by rw [Equiv.swap_apply_right, hi])
  obtain ⟨hlt, -⟩ := List.getElem?_eq_some_iff.1 hi
  obtain ⟨b, hb, -⟩ := hup.item (k := i + 1)
    (by rw [Equiv.swap_apply_left, List.getElem?_eq_getElem (Nat.lt_of_succ_lt hlt)])
  obtain ⟨hnext, -⟩ := List.getElem?_eq_some_iff.1 hb
  have hdown := S.moveDown_exchanges hsound ha' hnext hroom
  rw [hid] at hdown
  exact hup.restores hdown hlists

theorem moveDown_restores (hlists : (S.memory w).Lists list)
    (hi : (S.memory w).catalog[i]? = some a) (hnext : i + 1 < (S.memory w).catalog.length)
    (hroom : i + 1 < UInt32.size) :
    (S.memory (S.work (Catalog.Manager.moveUp a.id)
      (S.work (Catalog.Manager.moveDown a.id) w).2).2).catalog = (S.memory w).catalog := by
  have hdown := S.moveDown_exchanges hlists hi hnext hroom
  obtain ⟨_, hsound⟩ := hdown.sound
  obtain ⟨a', ha', hid⟩ := hdown.item (k := i + 1) (by rw [Equiv.swap_apply_left, hi])
  have hup := S.moveUp_exchanges hsound ha'
  rw [hid] at hup
  exact hdown.restores hup hlists

end Back

/-- In every store that is reached, whatever has been called before, an item moves by exactly one
place: it changes places with the item before it or after it, and the opposite move afterwards
restores the catalogue.  A move beyond an end of the catalogue and the move of an item that there is
not leave all as it was, and nothing is announced.

A store holds as many items as there are ranks for, and a rank is a word of 32 bits.  This capacity is
`hcapacity`; it leaves one rank over for the place after the last item, which a move down asks for. -/
theorem moves_one_place (S : Shop W) {w : W} {calls : List Store.Call}
    (hreached : S.memory w = calls.foldl Memory.after .empty)
    (hcapacity : (S.memory w).items.length < UInt32.size)
    (hids : ((S.memory w).catalog.map (·.id)).Nodup) (id : Uuid) :
    let up := Catalog.Manager.moveUp id
    let down := Catalog.Manager.moveDown id
    (id ∉ (S.memory w).catalog.map (·.id) →
      ((S.work up w).1 = .error (.noItem id) ∧ S.Idle up w) ∧
      (S.work down w).1 = .error (.noItem id) ∧ S.Idle down w) ∧
    ∀ i, (S.memory w).catalog[i]?.map (·.id) = some id →
      (if i = 0 then (S.work up w).1 = .ok () ∧ S.Idle up w
        else S.Exchanges i (i - 1) up w ∧
          (S.memory (S.work down (S.work up w).2).2).catalog = (S.memory w).catalog) ∧
      (if i + 1 = (S.memory w).catalog.length then (S.work down w).1 = .ok () ∧ S.Idle down w
        else S.Exchanges (i + 1) i down w ∧
          (S.memory (S.work up (S.work down w).2).2).catalog = (S.memory w).catalog) := by
  intro up down
  have hlists := Memory.lists_reached hreached hcapacity hids
  refine ⟨S.move_unknown, fun i hi => ?_⟩
  obtain ⟨a, ha, rfl⟩ := Option.map_eq_some_iff.1 hi
  obtain ⟨hlt, -⟩ := List.getElem?_eq_some_iff.1 ha
  have hroom : i + 1 < UInt32.size := by
    rw [Memory.catalog_length] at hlt
    omega
  constructor
  · cases i with
    | zero => exact S.moveUp_first hlists ha
    | succ i =>
      exact ⟨S.moveUp_exchanges hlists ha, moveUp_restores hlists ha (Nat.lt_of_succ_lt hroom)⟩
  · by_cases hlast : i + 1 = (S.memory w).catalog.length
    · rw [if_pos hlast]
      exact S.moveDown_last hlists ha hlast hroom
    · rw [if_neg hlast]
      have hnext : i + 1 < (S.memory w).catalog.length := by omega
      exact ⟨S.moveDown_exchanges hlists ha hnext hroom,
        moveDown_restores hlists ha hnext hroom⟩

/-- Three items in the opposite order of their ranks. -/
def trio : List Item :=
  [{ Item.fresh ⟨1⟩ "Coat" [] with rank := 2 }, { Item.fresh ⟨2⟩ "Bag" [] with rank := 1 },
    .fresh ⟨3⟩ "Scarf" []]

/-- A world in which they are kept. -/
def turned : World := { Purchase.opening with memory := ⟨[], trio, []⟩ }

/-- The bag is in the middle and goes to the front, where the scarf has been, and back again. -/
theorem bag_moved :
    World.shop.Exchanges 1 0 (Catalog.Manager.moveUp ⟨2⟩) turned ∧
      (World.shop.memory (World.shop.work (Catalog.Manager.moveDown ⟨2⟩)
        (World.shop.work (Catalog.Manager.moveUp ⟨2⟩) turned).2).2).catalog =
        turned.memory.catalog := by
  have hsorted : Catalog.sorted trio = trio.reverse := by decide_cbv
  have hcatalog : turned.memory.catalog.map (·.id) = [⟨3⟩, ⟨2⟩, ⟨1⟩] := by
    show (Catalog.sorted trio).map (·.id) = _
    rw [hsorted]
    rfl
  have hplace : turned.memory.catalog[1]?.map (·.id) = some ⟨2⟩ := by
    rw [← List.getElem?_map, hcatalog]
    rfl
  have hreached : World.shop.memory turned = [Store.Call.addItem (.fresh ⟨1⟩ "Coat" []),
      .addItem (.fresh ⟨2⟩ "Bag" []), .addItem (.fresh ⟨3⟩ "Scarf" []),
      .swapRanks ⟨3⟩ ⟨1⟩].foldl Memory.after .empty := by decide +kernel
  have hids : (turned.memory.catalog.map (·.id)).Nodup := by
    rw [hcatalog]
    decide
  obtain ⟨-, hmoves⟩ := World.shop.moves_one_place hreached (by decide) hids ⟨2⟩
  exact (hmoves 1 hplace).1

end Shop

end OrderDesk
