import OrderDesk.Pattern.Matcher
import OrderDesk.Proofs.Pattern.CharSet

/-!
# What the matcher finds

Where a pattern can match is a relation between two places of a text, given by what the pattern says
(`Node.Matches`).  The matcher computes with sets of places instead, and it computes this relation
(`Node.computes_ends`).  Only repetitions stand in the way: the matcher gives up after as many
rounds as there are places, and in each round it goes on from the new places alone.  Both are enough
because no match goes backwards, so that every round but those on the spot comes closer to the end
of the text.
-/

namespace OrderDesk.Pattern

variable {text : Array Char} {i j : Nat}

/-! ## Ascending lists of places -/

/-- Places in ascending order. -/
abbrev Ascending (places : List Nat) : Prop := places.Pairwise (· < ·)

theorem mem_joinPlaces {xs ys : List Nat} : i ∈ joinPlaces xs ys ↔ i ∈ xs ∨ i ∈ ys := by
  fun_induction joinPlaces xs ys with grind

theorem ascending_joinPlaces {xs ys : List Nat} (hx : Ascending xs) (hy : Ascending ys) :
    Ascending (joinPlaces xs ys) := by
  fun_induction joinPlaces xs ys with
  | case1 ys => exact hy
  | case2 xs => exact hx
  | case3 x xs y ys hlt ih =>
    obtain ⟨hfirst, hxs⟩ := List.pairwise_cons.1 hx
    refine List.pairwise_cons.2 ⟨fun i hi => ?_, ih hxs hy⟩
    have hyfirst := (List.pairwise_cons.1 hy).1
    grind [mem_joinPlaces]
  | case4 x xs y ys hle hlt ih =>
    obtain ⟨hfirst, hys⟩ := List.pairwise_cons.1 hy
    refine List.pairwise_cons.2 ⟨fun i hi => ?_, ih hx hys⟩
    have hxfirst := (List.pairwise_cons.1 hx).1
    grind [mem_joinPlaces]
  | case5 x xs y ys hle hge ih =>
    obtain ⟨hxfirst, hxs⟩ := List.pairwise_cons.1 hx
    obtain ⟨hyfirst, hys⟩ := List.pairwise_cons.1 hy
    refine List.pairwise_cons.2 ⟨fun i hi => ?_, ih hxs hys⟩
    grind [mem_joinPlaces]

theorem dropPlaces_sublist (xs ys : List Nat) : (dropPlaces xs ys).Sublist xs := by
  fun_induction dropPlaces xs ys with
  | case1 => exact .refl _
  | case2 => exact .refl _
  | case3 x xs y ys hlt ih => exact ih.cons_cons x
  | case4 x xs y ys hle hlt ih => exact ih
  | case5 x xs y ys hle hge ih => exact ih.cons x

theorem mem_dropPlaces {xs ys : List Nat} (hx : Ascending xs) (hy : Ascending ys) :
    i ∈ dropPlaces xs ys ↔ i ∈ xs ∧ i ∉ ys := by
  fun_induction dropPlaces xs ys with
  | case1 => simp
  | case2 => simp
  | case3 x xs y ys hlt ih =>
    have hyfirst := (List.pairwise_cons.1 hy).1
    grind
  | case4 x xs y ys hle hlt ih =>
    have hxfirst := (List.pairwise_cons.1 hx).1
    grind
  | case5 x xs y ys hle hge ih =>
    have hxfirst := (List.pairwise_cons.1 hx).1
    grind

/-! ## Repetition -/

/-- A relation `n` times over. -/
def Repeats (R : Nat → Nat → Prop) : Nat → Nat → Nat → Prop
  | 0, i, j => i = j
  | n + 1, i, j => ∃ k, R i k ∧ Repeats R n k j

/-- A relation never goes backwards, nor from a place of the text out of it. -/
def Forward (text : Array Char) (R : Nat → Nat → Prop) : Prop :=
  ∀ i j, R i j → i ≤ j ∧ j ≤ max i text.size

variable {R : Nat → Nat → Prop} {n : Nat}

theorem repeats_add {m n : Nat} :
    Repeats R (m + n) i j ↔ ∃ k, Repeats R m i k ∧ Repeats R n k j := by
  induction m generalizing i with
  | zero => simp [Repeats]
  | succ m ih => simp only [Nat.succ_add, Repeats, ih]; grind

theorem Forward.repeats (h : Forward text R) (n : Nat) : Forward text (Repeats R n) := by
  induction n with
  | zero => rintro i j rfl; omega
  | succ n ih =>
    rintro i j ⟨k, hik, hkj⟩
    have := h i k hik
    have := ih k j hkj
    omega

/-- Rounds on the spot can be left out; the others come closer to the end. -/
theorem Forward.shorten (h : Forward text R) (hn : Repeats R n i j) :
    ∃ m ≤ n, m ≤ text.size ∧ Repeats R m i j := by
  suffices hsteps : ∃ m ≤ n, m ≤ j - i ∧ Repeats R m i j by
    obtain ⟨m, hmn, hmij, hm⟩ := hsteps
    have := h.repeats n i j hn
    exact ⟨m, hmn, by omega, hm⟩
  induction n generalizing i with
  | zero => exact ⟨0, Nat.le_refl 0, Nat.zero_le _, hn⟩
  | succ n ih =>
    obtain ⟨k, hik, hkj⟩ := hn
    obtain ⟨m, hmn, hmkj, hm⟩ := ih hkj
    have hle := h i k hik
    have hle' := h.repeats n k j hkj
    rcases Nat.eq_or_lt_of_le hle.1 with rfl | hlt
    · exact ⟨m, by omega, hmkj, hm⟩
    · exact ⟨m + 1, by omega, by omega, k, hik, hm⟩

/-- More rounds than there are places are of no use. -/
theorem Forward.further (h : Forward text R) {least : Nat} {most : Option Nat} :
    (∃ k ≤ match most with
        | some most => min (most - least) (text.size + 1)
        | none => text.size + 1,
      Repeats R k i j) ↔ ∃ k, (∀ m ∈ most, k ≤ m - least) ∧ Repeats R k i j := by
  constructor
  · rintro ⟨k, hk, hij⟩
    refine ⟨k, fun m hm => ?_, hij⟩
    obtain rfl := Option.mem_def.1 hm
    exact Nat.le_trans hk (Nat.min_le_left _ _)
  · rintro ⟨k, hk, hij⟩
    obtain ⟨k', hk', hsize, hij'⟩ := h.shorten hij
    refine ⟨k', ?_, hij'⟩
    cases most with
    | none => exact Nat.le_succ_of_le hsize
    | some m => exact Nat.le_min.2 ⟨Nat.le_trans hk' (hk m rfl), Nat.le_succ_of_le hsize⟩

/-! ## Steps on sets of places -/

/-- A step on ascending lists of places computes a relation. -/
structure Computes (step : List Nat → List Nat) (R : Nat → Nat → Prop) : Prop where
  ascending : ∀ {places}, Ascending places → Ascending (step places)
  mem_iff : ∀ {places j}, Ascending places → (j ∈ step places ↔ ∃ i ∈ places, R i j)

variable {step : List Nat → List Nat}

theorem Computes.times (h : Computes step R) (n : Nat) : Computes (times step n) (Repeats R n) := by
  induction n with
  | zero => exact ⟨id, fun _ => by simp [Pattern.times, Repeats]⟩
  | succ n ih =>
    refine ⟨fun hp => ih.ascending (h.ascending hp), fun hp => ?_⟩
    rw [Pattern.times, ih.mem_iff (h.ascending hp)]
    simp only [h.mem_iff hp, Repeats]
    grind

theorem Computes.comp {step' : List Nat → List Nat} {R' : Nat → Nat → Prop} (h : Computes step R)
    (h' : Computes step' R') :
    Computes (fun places => step' (step places)) fun i j => ∃ k, R i k ∧ R' k j where
  ascending hp := h'.ascending (h.ascending hp)
  mem_iff hp := by
    simp only [h'.mem_iff (h.ascending hp), h.mem_iff hp]
    grind

theorem Computes.congr {R' : Nat → Nat → Prop} (h : Computes step R)
    (hR : ∀ i j, R i j ↔ R' i j) : Computes step R' where
  ascending := h.ascending
  mem_iff hp := by simp only [h.mem_iff hp, hR]

/-- No steps lead out of a set that no step leads out of. -/
theorem mem_of_closed {found : List Nat} (hclosed : ∀ i ∈ found, ∀ j, R i j → j ∈ found)
    (hi : i ∈ found) (h : Repeats R n i j) : j ∈ found := by
  induction n generalizing i with
  | zero => exact h ▸ hi
  | succ n ih =>
    obtain ⟨k, hik, hkj⟩ := h
    exact ih (hclosed i hi k hik) hkj

/-- All that up to `n` steps reach is found, if from what is not new every step leads to what is
found. -/
theorem Computes.mem_upTo (h : Computes step R) {found new : List Nat} (hfound : Ascending found)
    (hnew : Ascending new) (hold : ∀ i ∈ found, i ∉ new → ∀ j, R i j → j ∈ found)
    (hsub : ∀ i ∈ new, i ∈ found) :
    j ∈ upTo step n found new ↔ ∃ k ≤ n, ∃ i ∈ found, Repeats R k i j := by
  induction n generalizing found new with
  | zero => simp [upTo, Repeats]
  | succ n ih =>
    let newer := dropPlaces (step new) found
    have hnewer : ∀ j, j ∈ newer ↔ (∃ i ∈ new, R i j) ∧ j ∉ found := fun j => by
      rw [mem_dropPlaces (h.ascending hnew) hfound, h.mem_iff hnew]
    have hnext : ∀ i ∈ found, ∀ j, R i j → j ∈ found ∨ j ∈ newer := by grind
    rw [upTo]
    split
    · rename_i hempty
      have hnone : newer = [] := List.isEmpty_iff.1 hempty
      have hclosed : ∀ i ∈ found, ∀ j, R i j → j ∈ found := by grind
      constructor
      · exact fun hj => ⟨0, Nat.zero_le _, j, hj, rfl⟩
      · rintro ⟨k, -, i, hi, hij⟩
        exact mem_of_closed hclosed hi hij
    · have hascending : Ascending newer := (h.ascending hnew).sublist (dropPlaces_sublist _ _)
      have hmem : ∀ i, i ∈ joinPlaces found newer ↔ i ∈ found ∨ i ∈ newer := fun i => mem_joinPlaces
      rw [ih (ascending_joinPlaces hfound hascending) hascending (by grind) (by grind)]
      constructor
      · rintro ⟨k, hk, i, hi, hij⟩
        rcases (hmem i).1 hi with hi | hi
        · exact ⟨k, by omega, i, hi, hij⟩
        · obtain ⟨⟨i', hi', hstep⟩, -⟩ := (hnewer i).1 hi
          exact ⟨k + 1, by omega, i', hsub i' hi', i, hstep, hij⟩
      · rintro ⟨k, hk, i, hi, hij⟩
        cases k with
        | zero => exact ⟨0, Nat.zero_le _, i, (hmem i).2 (.inl hi), hij⟩
        | succ k =>
          obtain ⟨i', hstep, hrest⟩ := hij
          exact ⟨k, by omega, i', (hmem i').2 (hnext i hi i' hstep), hrest⟩

theorem Computes.ascending_upTo (h : Computes step R) {found new : List Nat}
    (hfound : Ascending found) (hnew : Ascending new) : Ascending (upTo step n found new) := by
  induction n generalizing found new with
  | zero => exact hfound
  | succ n ih =>
    have hnewer : Ascending (dropPlaces (step new) found) :=
      (h.ascending hnew).sublist (dropPlaces_sublist _ _)
    rw [upTo]
    split
    · exact hfound
    · exact ih (ascending_joinPlaces hfound hnewer) hnewer

theorem Computes.upTo (h : Computes step R) (n : Nat) :
    Computes (fun places => upTo step n places places) fun i j => ∃ k ≤ n, Repeats R k i j where
  ascending hp := h.ascending_upTo hp hp
  mem_iff hp := by
    rw [h.mem_upTo hp hp (fun i hi hi' => absurd hi hi') (fun _ => id)]
    grind

/-! ## What a pattern says -/

/-- A match of a pattern from one place to another. -/
def Node.Matches (text : Array Char) : Node → Nat → Nat → Prop
  | .empty, i, j => i = j
  | .char set, i, j => isBefore text set i ∧ j = i + 1
  | .place p, i, j => p.holds text i ∧ i = j
  | .both a b, i, j => ∃ k, a.Matches text i k ∧ b.Matches text k j
  | .either a b, i, j => a.Matches text i j ∨ b.Matches text i j
  | .repeated a least most, i, j =>
    ∃ n, least ≤ n ∧ (∀ m ∈ most, n ≤ max least m) ∧ Repeats (a.Matches text) n i j

theorem isBefore_iff {set : CharSet} : isBefore text set i ↔ ∃ c, text[i]? = some c ∧ set.mem c := by
  rw [isBefore, Option.any_eq_true]

theorem Node.forward (node : Node) : Forward text (node.Matches text) := by
  induction node with
  | empty => rintro i j rfl; omega
  | char set =>
    rintro i j ⟨hbefore, rfl⟩
    obtain ⟨c, hc, -⟩ := isBefore_iff.1 hbefore
    obtain ⟨hlt, -⟩ := Array.getElem?_eq_some_iff.1 hc
    omega
  | place p => rintro i j ⟨-, rfl⟩; omega
  | both a b iha ihb =>
    rintro i j ⟨k, hik, hkj⟩
    have := iha i k hik
    have := ihb k j hkj
    omega
  | either a b iha ihb =>
    rintro i j (h | h)
    · exact iha i j h
    · exact ihb i j h
  | repeated a least most ih =>
    rintro i j ⟨n, -, -, h⟩
    exact ih.repeats n i j h

/-- The matcher finds all matches and nothing else. -/
theorem Node.computes_ends (node : Node) : Computes (node.ends text) (node.Matches text) := by
  induction node with
  | empty => exact ⟨id, fun _ => by simp [Node.ends, Node.Matches]⟩
  | char set =>
    refine ⟨fun hp => ?_, fun hp => ?_⟩
    · exact (hp.filter _).map _ fun i j hij => Nat.succ_lt_succ hij
    · simp only [Node.ends, Node.Matches, List.mem_map, List.mem_filter]
      grind
  | place p =>
    refine ⟨fun hp => hp.filter _, fun hp => ?_⟩
    simp only [Node.ends, Node.Matches, List.mem_filter]
    grind
  | both a b iha ihb => exact iha.comp ihb
  | either a b iha ihb =>
    refine ⟨fun hp => ascending_joinPlaces (iha.ascending hp) (ihb.ascending hp), fun hp => ?_⟩
    simp only [Node.ends, Node.Matches, mem_joinPlaces, iha.mem_iff hp, ihb.mem_iff hp]
    grind
  | repeated a least most ih =>
    let further := match most with
      | some most => min (most - least) (text.size + 1)
      | none => text.size + 1
    refine ((ih.times least).comp (ih.upTo further)).congr fun i j => ?_
    simp only [further, a.forward.further, Node.Matches]
    constructor
    · rintro ⟨k, hik, n, hn, hkj⟩
      exact ⟨least + n, Nat.le_add_right _ _, by grind, repeats_add.2 ⟨k, hik, hkj⟩⟩
    · rintro ⟨n, hleast, hmost, h⟩
      obtain ⟨n, rfl⟩ := Nat.exists_eq_add_of_le hleast
      obtain ⟨k, hik, hkj⟩ := repeats_add.1 h
      exact ⟨k, hik, n, by grind, hkj⟩

/-- A text is accepted if it has a match somewhere. -/
theorem Node.accepts_iff {node : Node} {s : String} :
    node.accepts s ↔ ∃ i ≤ s.toList.length, ∃ j, node.Matches s.toList.toArray i j := by
  have hmem : ∀ j, j ∈ node.ends s.toList.toArray (List.range (s.toList.length + 1)) ↔
      ∃ i ∈ List.range (s.toList.length + 1), node.Matches s.toList.toArray i j := fun j =>
    node.computes_ends.mem_iff List.pairwise_lt_range
  rw [Node.accepts, Bool.not_eq_true', ← Bool.not_eq_true, List.isEmpty_iff,
    List.eq_nil_iff_forall_not_mem]
  simp only [List.size_toArray, hmem, List.mem_range, Nat.lt_succ_iff]
  grind

/-! ## Characters in a row -/

section Row

variable {l : List Char} {set : CharSet}

theorem matches_char_iff :
    (Node.char set).Matches l.toArray i j ↔
      ∃ c, set.mem c ∧ l.drop i = c :: l.drop j ∧ j = i + 1 := by
  rw [Node.Matches, isBefore_iff, List.getElem?_toArray]
  constructor
  · rintro ⟨⟨c, hc, hset⟩, rfl⟩
    obtain ⟨hlt, rfl⟩ := List.getElem?_eq_some_iff.1 hc
    exact ⟨l[i], hset, List.drop_eq_getElem_cons hlt, rfl⟩
  · rintro ⟨c, hset, hdrop, rfl⟩
    refine ⟨⟨c, ?_, hset⟩, rfl⟩
    rw [← List.head?_drop, hdrop, List.head?_cons]

theorem repeats_char_iff :
    Repeats ((Node.char set).Matches l.toArray) n i j ↔
      ∃ taken, taken.length = n ∧ (∀ c ∈ taken, set.mem c) ∧ l.drop i = taken ++ l.drop j ∧
        j = i + n := by
  induction n generalizing i with
  | zero =>
    constructor
    · rintro rfl
      exact ⟨[], rfl, List.forall_mem_nil _, rfl, rfl⟩
    · rintro ⟨-, -, -, -, rfl⟩
      rfl
  | succ n ih =>
    constructor
    · rintro ⟨k, hfirst, hrest⟩
      obtain ⟨c, hc, hdrop, rfl⟩ := matches_char_iff.1 hfirst
      obtain ⟨taken, rfl, htaken, hdrop', rfl⟩ := ih.1 hrest
      refine ⟨c :: taken, rfl, List.forall_mem_cons.2 ⟨hc, htaken⟩, ?_, by omega⟩
      rw [hdrop, hdrop', List.cons_append]
    · rintro ⟨taken, htaken, hset, hdrop, rfl⟩
      obtain ⟨c, taken, rfl⟩ := List.exists_cons_of_length_eq_add_one htaken
      obtain ⟨hc, hset⟩ := List.forall_mem_cons.1 hset
      have hnext : l.drop (i + 1) = taken ++ l.drop (i + (n + 1)) := by
        rw [← List.tail_drop, hdrop, List.cons_append, List.tail_cons]
      refine ⟨i + 1, matches_char_iff.2 ⟨c, hc, ?_, rfl⟩,
        ih.2 ⟨taken, Nat.succ.inj htaken, hset, hnext, by omega⟩⟩
      rw [hdrop, hnext, List.cons_append]

theorem matches_repeated_char_iff {least : Nat} {most : Option Nat} :
    ((Node.char set).repeated least most).Matches l.toArray i j ↔
      ∃ taken, least ≤ taken.length ∧ (∀ m ∈ most, taken.length ≤ max least m) ∧
        (∀ c ∈ taken, set.mem c) ∧ l.drop i = taken ++ l.drop j ∧ j = i + taken.length := by
  constructor
  · rintro ⟨n, hleast, hmost, h⟩
    obtain ⟨taken, rfl, hset, hdrop, hj⟩ := repeats_char_iff.1 h
    exact ⟨taken, hleast, hmost, hset, hdrop, hj⟩
  · rintro ⟨taken, hleast, hmost, hset, hdrop, hj⟩
    exact ⟨_, hleast, hmost, repeats_char_iff.2 ⟨taken, rfl, hset, hdrop, hj⟩⟩

end Row

end OrderDesk.Pattern
