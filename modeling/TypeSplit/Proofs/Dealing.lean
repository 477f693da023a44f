/-
  TypeSplit.Proofs.Dealing — the two ways of dealing members, exactly.

  In turn: element `n` goes to group `n % count`. Of `count` groups the later ones may stay empty and are dropped, so
  that the number of a group is the rest of its elements only because the empty groups all come last. The place of every
  element follows from one step, the first `count` elements taken off (`turn_eq_append`): group `j` has them at `j`,
  `count + j`, `2 * count + j` and so on (`getElem?_turn`). Lengths, order and the way back are arithmetic on that.
  - `dealing_in_turn_is_exact`: `roundRobin` gives groups for every count from one on, and they are `InTurn`.

  By visibility: the exposed members and the hidden ones, each in their order.
  - `dealing_by_visibility_is_stable`: `byVisibility` gives a `StableSplit` of any members, and each of its groups
    is all there is when it is dealt again.
-/

import Mathlib.Data.List.MinMax
import Mathlib.Order.Nat
import TypeSplit.Proofs.Grouping

namespace TypeSplit.Splitting

section

variable {α : Type} {count : Nat} {xs : List α}

/-! ## Handing out -/

/-- The elements handed out one by one, each behind what its group has already. -/
def handOut (count : Nat) (xs : List α) : List (List α) :=
  xs.zipIdx.foldl (fun groups x => groups.modify (x.2 % count) (· ++ [x.1])) (List.replicate count [])

theorem turn_concat (count rest : Nat) (xs : List α) (x : α) :
    turn count rest (xs ++ [x]) = turn count rest xs ++ if xs.length % count = rest then [x] else [] := by
  simp only [turn, List.zipIdx_append, List.filter_append, List.map_append, Nat.zero_add, List.zipIdx_singleton]
  by_cases h : xs.length % count = rest <;> simp [h]

theorem handOut_concat (count : Nat) (xs : List α) (x : α) :
    handOut count (xs ++ [x]) = (handOut count xs).modify (xs.length % count) (· ++ [x]) := by
  simp [handOut, List.zipIdx_append]

/-- Each group was handed the elements whose turn it was. -/
theorem handOut_eq (count : Nat) (xs : List α) : handOut count xs = (List.range count).map (turn count · xs) := by
  -- From the end of the list, where the next element is put behind those of its group.
  induction xs using List.reverseRecOn with
  | nil =>
    refine List.ext_getElem? fun j => ?_
    simp [handOut, turn, List.getElem?_replicate]
  | append_singleton xs x ih =>
    rw [handOut_concat, ih]
    refine List.ext_getElem? fun j => ?_
    simp only [List.getElem?_modify, List.getElem?_map, Option.map_eq_map, Option.map_map]
    by_cases hj : j < count
    · rw [List.getElem?_range hj, Option.map_some, Option.map_some, turn_concat]
      by_cases hx : xs.length % count = j <;> simp [hx]
    · rw [List.getElem?_eq_none (by simpa using hj), Option.map_none, Option.map_none]

/-- The elements whose turn it is, found by their indices. -/
theorem turn_eq_filterMap (count rest : Nat) (xs : List α) :
    turn count rest xs = ((List.range xs.length).filter (· % count = rest)).filterMap (xs[·]?) := by
  induction xs using List.reverseRecOn with
  | nil => rfl
  | append_singleton xs x ih =>
    have hold : ((List.range xs.length).filter (· % count = rest)).filterMap ((xs ++ [x])[·]?) =
        ((List.range xs.length).filter (· % count = rest)).filterMap (xs[·]?) := by
      refine List.filterMap_congr fun i hi => ?_
      have hi : i < xs.length := List.mem_range.mp (List.mem_of_mem_filter hi)
      exact List.getElem?_append_left hi
    rw [turn_concat, ih, List.length_append, List.length_singleton, List.range_succ, List.filter_append,
      List.filterMap_append, hold]
    by_cases hx : xs.length % count = rest <;> simp [hx]

/-! ## Places -/

theorem filter_zipIdx_eq (j : Nat) (ys : List α) : (ys.zipIdx.filter (·.2 == j)).map (·.1) = ys[j]?.toList := by
  induction ys using List.reverseRecOn with
  | nil => rfl
  | append_singleton ys y ih =>
    rw [List.zipIdx_append, List.filter_append, List.map_append, ih, List.getElem?_append, Nat.zero_add]
    rcases Nat.lt_trichotomy ys.length j with hj | rfl | hj
    · simp [hj.ne, show ¬ j < ys.length by omega, show j - ys.length ≠ 0 by omega]
    · simp
    · simp [hj, hj.ne']

/-- The first elements, one for each group, are taken off the list. -/
theorem turn_eq_append {j : Nat} (hj : j < count) (xs : List α) :
    turn count j xs = xs[j]?.toList ++ turn count j (xs.drop count) := by
  have hfirst : turn count j (xs.take count) = xs[j]?.toList := by
    rw [← List.getElem?_take_of_lt hj, ← filter_zipIdx_eq, turn]
    refine congrArg _ (List.filter_congr fun x hx => ?_)
    have hlt : x.2 < (xs.take count).length := List.snd_lt_of_mem_zipIdx hx
    rw [List.length_take] at hlt
    rw [Nat.mod_eq_of_lt (by omega)]
  -- A list that has fewer elements than there are groups has nothing left.
  rcases Nat.le_total count xs.length with hle | hle
  · have hrest : ((xs.drop count).zipIdx count).filter (fun x => x.2 % count == j) =
        ((xs.drop count).zipIdx.filter fun x => x.2 % count == j).map fun x => (x.1, count + x.2) := by
      rw [List.zipIdx_eq_map_add, List.filter_map]
      simp [Function.comp_def]
    conv => lhs; rw [← List.take_append_drop count xs]
    rw [turn, List.zipIdx_append, List.filter_append, List.map_append, List.length_take, Nat.min_eq_left hle,
      Nat.zero_add, hrest, List.map_map, ← hfirst]
    rfl
  · rw [List.drop_eq_nil_of_le hle, ← hfirst, List.take_of_length_le hle]
    simp [turn]

theorem turn_eq_nil {j : Nat} (h : xs.length ≤ j) : turn count j xs = [] := by
  rw [turn_eq_filterMap, List.filter_eq_nil_iff.mpr, List.filterMap_nil]
  intro i hi
  have hi : i < xs.length := List.mem_range.mp hi
  have := Nat.mod_le i count
  simp only [decide_eq_true_eq]
  omega

/-- The `i`-th element of group `j` is the one at `i * count + j`. -/
theorem getElem?_turn {j : Nat} (hj : j < count) (xs : List α) (i : Nat) :
    (turn count j xs)[i]? = xs[i * count + j]? := by
  induction i generalizing xs with
  | zero =>
    rw [Nat.zero_mul, Nat.zero_add]
    rcases Nat.lt_or_ge j xs.length with hlt | hge
    · rw [turn_eq_append hj, List.getElem?_eq_getElem hlt]
      rfl
    · rw [turn_eq_nil hge, List.getElem?_eq_none hge, List.getElem?_nil]
  | succ i ih =>
    have hindex : (i + 1) * count + j = count + (i * count + j) := by
      rw [Nat.succ_mul]
      omega
    rw [hindex]
    -- Behind its first element the group goes on as it does for the list without its first `count` elements.
    rcases Nat.lt_or_ge j xs.length with hlt | hge
    · have hrest := ih (xs.drop count)
      rw [List.getElem?_drop] at hrest
      rw [turn_eq_append hj, List.getElem?_eq_getElem hlt, ← hrest]
      exact List.getElem?_cons_succ
    · rw [turn_eq_nil hge, List.getElem?_nil, List.getElem?_eq_none (by omega)]

theorem lt_length_turn_iff {j : Nat} (hj : j < count) {i : Nat} :
    i < (turn count j xs).length ↔ i * count + j < xs.length := by
  rw [← not_iff_not, Nat.not_lt, Nat.not_lt, ← List.getElem?_eq_none_iff, ← List.getElem?_eq_none_iff, getElem?_turn hj]

/-- What would come next in a group lies behind the list. -/
theorem length_le_next {j : Nat} (hj : j < count) (xs : List α) : xs.length ≤ (turn count j xs).length * count + j :=
  Nat.not_lt.mp fun hlt => Nat.lt_irrefl _ ((lt_length_turn_iff hj).mpr hlt)

/-- A later group has no more elements. -/
theorem length_turn_anti {j k : Nat} (hk : k < count) (h : j ≤ k) :
    (turn count k xs).length ≤ (turn count j xs).length := by
  by_contra hlt
  have hthere := (lt_length_turn_iff hk).mp (Nat.lt_of_not_le hlt)
  have hnext : xs.length ≤ (turn count j xs).length * count + j := length_le_next (by omega) xs
  omega

/-- No group has two elements more than another. -/
theorem length_turn_le_succ {j k : Nat} (hj : j < count) (hk : k < count) :
    (turn count j xs).length ≤ (turn count k xs).length + 1 := by
  by_contra hlt
  have hthere := (lt_length_turn_iff hj).mp (Nat.lt_of_not_le hlt)
  rw [Nat.succ_mul] at hthere
  have hnext : xs.length ≤ (turn count k xs).length * count + k := length_le_next hk xs
  omega

/-! ## Groups -/

theorem getElem?_deal {j : Nat} {g : List α} (h : (deal count xs)[j]? = some g) :
    j < count ∧ j < xs.length ∧ g = turn count j xs := by
  rw [deal, List.getElem?_map, Option.map_eq_some_iff] at h
  obtain ⟨rest, hrest, rfl⟩ := h
  obtain ⟨hlt, rfl⟩ := List.getElem?_eq_some_iff.mp hrest
  have hlt : j < min count xs.length := by simpa using hlt
  rw [List.getElem_range]
  exact ⟨by omega, by omega, rfl⟩

theorem mem_deal_iff {g : List α} : g ∈ deal count xs ↔ ∃ j, j < count ∧ j < xs.length ∧ turn count j xs = g := by
  simp only [deal, List.mem_map, List.mem_range, Nat.lt_min, and_assoc]

/-- The groups are those of the handed out ones that are not empty. -/
theorem deal_eq_handOut (count : Nat) (xs : List α) : deal count xs = (handOut count xs).filter (!·.isEmpty) := by
  have hsplit : count = min count xs.length + (count - xs.length) := by omega
  have hfull : ∀ g ∈ deal count xs, (!g.isEmpty) = true := by
    intro g hg
    obtain ⟨j, hj, hlt, rfl⟩ := mem_deal_iff.mp hg
    have hpos : 0 < (turn count j xs).length := (lt_length_turn_iff hj).mpr (by omega)
    simpa using List.length_pos_iff.mp hpos
  have hempty : ∀ g ∈ (List.range (count - xs.length)).map (fun j => turn count (min count xs.length + j) xs),
      ¬ (!g.isEmpty) = true := by
    intro g hg
    obtain ⟨j, hj, rfl⟩ := List.mem_map.mp hg
    have hj : j < count - xs.length := List.mem_range.mp hj
    simp [turn_eq_nil (show xs.length ≤ min count xs.length + j by omega)]
  -- If the elements do not last for the first round, the groups behind the last element get nothing.
  have hrange : handOut count xs = deal count xs ++
      (List.range (count - xs.length)).map (fun j => turn count (min count xs.length + j) xs) := by
    rw [handOut_eq, deal]
    conv => lhs; arg 2; rw [hsplit, List.range_add]
    rw [List.map_append, List.map_map]
    rfl
  rw [hrange, List.filter_append, List.filter_eq_self.mpr hfull, List.filter_eq_nil_iff.mpr hempty, List.append_nil]

/-! ## The way back -/

/-- The first elements of all groups, then the second ones, and so on. -/
def byRows (gs : List (List α)) : List α :=
  (List.range ((gs.map List.length).foldr max 0)).flatMap fun i => gs.filterMap (·[i]?)

theorem filterMap_range_getElem? (n : Nat) (ys : List α) : (List.range n).filterMap (ys[·]?) = ys.take n := by
  induction n with
  | zero => rfl
  | succ n ih =>
    rw [List.range_succ, List.filterMap_append, ih, List.take_add_one]
    cases h : ys[n]? <;> simp [h]

/-- A row is a run of `count` elements. -/
theorem filterMap_deal (count : Nat) (xs : List α) (i : Nat) :
    (deal count xs).filterMap (·[i]?) = (xs.drop (i * count)).take count := by
  have hrow : (deal count xs).filterMap (·[i]?) =
      (List.range (min count xs.length)).filterMap ((xs.drop (i * count))[·]?) := by
    rw [deal, List.filterMap_map]
    refine List.filterMap_congr fun j hj => ?_
    have hj : j < min count xs.length := List.mem_range.mp hj
    rw [Function.comp_apply, getElem?_turn (by omega), List.getElem?_drop]
  rw [hrow, filterMap_range_getElem?, List.take_eq_take_iff, List.length_drop]
  omega

theorem flatMap_rows (count n : Nat) (xs : List α) :
    ((List.range n).flatMap fun i => (deal count xs).filterMap (·[i]?)) = xs.take (n * count) := by
  induction n with
  | zero => simp
  | succ n ih =>
    rw [List.range_succ, List.flatMap_append, ih, List.flatMap_singleton, filterMap_deal, Nat.succ_mul, List.take_add]

theorem byRows_deal (hcount : 0 < count) (xs : List α) : byRows (deal count xs) = xs := by
  rw [byRows, flatMap_rows, List.take_of_length_le]
  -- The first group has an element in every row.
  rcases Nat.eq_zero_or_pos xs.length with hnil | hpos
  · omega
  · have hle : (turn count 0 xs).length ≤ ((deal count xs).map List.length).foldr max 0 :=
      List.le_max_of_le (List.mem_map_of_mem (mem_deal_iff.mpr ⟨0, hcount, hpos, rfl⟩)) (Nat.le_refl _)
    exact (length_le_next hcount xs).trans (Nat.mul_le_mul_right count hle)

/-! ## Dealing in turn -/

/-- The elements of a list dealt in turn to `count` groups, of which the empty ones are dropped. -/
structure InTurn (count : Nat) (xs : List α) (gs : List (List α)) : Prop where
  handed : gs = (handOut count xs).filter (!·.isEmpty)
  number : gs.length = min count xs.length
  filled : ∀ g ∈ gs, g ≠ []
  place : ∀ j g, gs[j]? = some g → ∀ i : Nat, g[i]? = xs[i * count + j]?
  /-- A group has the elements at the indices that leave its number, and no others. -/
  indices : ∀ j g, gs[j]? = some g → g = ((List.range xs.length).filter (· % count = j)).filterMap (xs[·]?)
  descending : (gs.map List.length).Pairwise (· ≥ ·)
  even : ∀ g ∈ gs, ∀ h ∈ gs, g.length ≤ h.length + 1
  back : byRows gs = xs

theorem deal_inTurn (hcount : 0 < count) (xs : List α) : InTurn count xs (deal count xs) where
  handed := deal_eq_handOut count xs
  number := by rw [deal, List.length_map, List.length_range]
  filled := by
    intro g hg
    rw [deal_eq_handOut] at hg
    simpa using (List.mem_filter.mp hg).2
  place := by
    intro j g hg i
    obtain ⟨hj, -, rfl⟩ := getElem?_deal hg
    exact getElem?_turn hj xs i
  indices := by
    intro j g hg
    obtain ⟨-, -, rfl⟩ := getElem?_deal hg
    exact turn_eq_filterMap count j xs
  descending := by
    rw [deal, List.map_map, List.pairwise_map]
    refine List.pairwise_lt_range.imp_of_mem fun {j k} _ hk hlt => ?_
    have hk : k < min count xs.length := List.mem_range.mp hk
    exact length_turn_anti (by omega) hlt.le
  even := by
    intro g hg h hh
    obtain ⟨j, hj, -, rfl⟩ := mem_deal_iff.mp hg
    obtain ⟨k, hk, -, rfl⟩ := mem_deal_iff.mp hh
    exact length_turn_le_succ hj hk
  back := byRows_deal hcount xs

/-- Elements are dealt in turn for every count from one on; any other count is refused. -/
theorem dealing_in_turn_is_exact (count : Int) (xs : List α) :
    (1 ≤ count → ∃ gs, roundRobin count xs = .ok gs ∧ InTurn count.toNat xs gs) ∧
      (count < 1 → roundRobin count xs = .error .countNotPositive) := by
  unfold roundRobin
  constructor
  · intro hcount
    rw [if_neg (by omega)]
    exact ⟨_, rfl, deal_inTurn (by omega) xs⟩
  · intro hcount
    rw [if_pos hcount]

/-- Groups of two lengths, and more groups than elements. -/
theorem uneven_groups_are_in_turn :
    roundRobin 3 [10, 11, 12, 13, 14] = .ok [[10, 13], [11, 14], [12]] ∧
      InTurn 3 [10, 11, 12, 13, 14] [[10, 13], [11, 14], [12]] ∧
      roundRobin 7 [10, 11] = .ok [[10], [11]] ∧ InTurn 7 [10, 11] [[10], [11]] := by
  have hthree : roundRobin 3 [10, 11, 12, 13, 14] = .ok [[10, 13], [11, 14], [12]] := rfl
  have hseven : roundRobin 7 [10, 11] = .ok [[10], [11]] := rfl
  obtain ⟨gs, hgs, hinTurn⟩ := (dealing_in_turn_is_exact 3 [10, 11, 12, 13, 14]).1 (by decide)
  obtain ⟨hs, hhs, hinTurn'⟩ := (dealing_in_turn_is_exact 7 [10, 11]).1 (by decide)
  cases Except.ok.inj (hgs.symm.trans hthree)
  cases Except.ok.inj (hhs.symm.trans hseven)
  exact ⟨hthree, hinTurn, hseven, hinTurn'⟩

end

/-! ## Dealing by visibility -/

variable {members g : List Member}

theorem exposedCount_eq_length_iff : exposedCount g = g.length ↔ ∀ m ∈ g, m.exposed = true := by
  rw [exposedCount, List.length_filter_eq_length_iff]

theorem exposedCount_eq_zero_iff : exposedCount g = 0 ↔ ∀ m ∈ g, m.exposed = false := by
  rw [exposedCount, List.length_eq_zero_iff, List.filter_eq_nil_iff]
  simp only [Bool.not_eq_true]

/-- The members that are not exposed are the hidden ones. -/
theorem hiddenCount_eq (g : List Member) : hiddenCount g = (g.filter (!·.exposed)).length := by
  have := List.length_eq_length_filter_add (l := g) (·.exposed)
  rw [hiddenCount, exposedCount]
  omega

/-- A group is dealt as it is if its members are all exposed or all hidden. -/
theorem byVisibility_eq_singleton (hne : g ≠ []) (h : (∀ m ∈ g, m.exposed = true) ∨ ∀ m ∈ g, m.exposed = false) :
    byVisibility g = [g] := by
  have hfull : g.isEmpty = false := by simpa using hne
  rcases h with h | h
  · have hhidden : g.filter (!·.exposed) = [] := List.filter_eq_nil_iff.mpr fun m hm => by simp [h m hm]
    rw [byVisibility, hhidden, List.filter_eq_self.mpr h]
    simp [hfull]
  · have hexposed : g.filter (·.exposed) = [] := List.filter_eq_nil_iff.mpr fun m hm => by simp [h m hm]
    have hhidden : g.filter (!·.exposed) = g := List.filter_eq_self.mpr fun m hm => by simp [h m hm]
    rw [byVisibility, hexposed, hhidden]
    simp [hfull]

theorem byVisibility_pairwise (members : List Member) :
    (byVisibility members).Pairwise fun g h => (∀ m ∈ g, m.exposed = true) ∧ ∀ m ∈ h, m.exposed = false := by
  refine List.Pairwise.filter _ ?_
  simp

theorem pure_of_mem_byVisibility (h : g ∈ byVisibility members) :
    (∀ m ∈ g, m.exposed = true) ∨ ∀ m ∈ g, m.exposed = false := by
  rw [← exposedCount_eq_length_iff, ← exposedCount_eq_zero_iff]
  exact (of_mem_byVisibility h).2

theorem exposed_before_hidden {i j : Nat} {h : List Member} (hg : (byVisibility members)[i]? = some g)
    (hh : (byVisibility members)[j]? = some h) {m n : Member} (hm : m ∈ g) (hn : n ∈ h) (hexposed : m.exposed = true)
    (hhidden : n.exposed = false) : i < j := by
  obtain ⟨hi, rfl⟩ := List.getElem?_eq_some_iff.mp hg
  obtain ⟨hj, rfl⟩ := List.getElem?_eq_some_iff.mp hh
  rcases Nat.lt_trichotomy i j with hlt | rfl | hgt
  · exact hlt
  · -- One group does not have both.
    rcases pure_of_mem_byVisibility (List.getElem_mem hi) with hall | hall
    · rw [hall n hn] at hhidden
      cases hhidden
    · rw [hall m hm] at hexposed
      cases hexposed
  · have hpairs := List.pairwise_iff_getElem.mp (byVisibility_pairwise members)
    rw [(hpairs j i hj hi hgt).1 n hn] at hhidden
    cases hhidden

/-- The groups hold all members, exposed ones first and hidden ones second, each in their order. -/
structure StableSplit (members : List Member) (gs : List (List Member)) : Prop where
  two : gs.length ≤ 2
  filled : ∀ g ∈ gs, g ≠ []
  once : gs.flatten.Perm members
  ordered : ∀ g ∈ gs, g.Sublist members
  pure : ∀ g ∈ gs, (∀ m ∈ g, m.exposed = true) ∨ ∀ m ∈ g, m.exposed = false
  exposed_first : ∀ (i j : Nat) (g h : List Member), gs[i]? = some g → gs[j]? = some h →
    ∀ m ∈ g, ∀ n ∈ h, m.exposed = true → n.exposed = false → i < j
  counted : ∀ g ∈ gs, exposedCount g + hiddenCount g = g.length ∧ hiddenCount g = (g.filter (!·.exposed)).length
  /-- Dealt again, a group is the only group. -/
  again : ∀ g ∈ gs, byVisibility g = [g]

theorem dealing_by_visibility_is_stable (members : List Member) : StableSplit members (byVisibility members) := by
  have hfilled : ∀ g ∈ byVisibility members, g ≠ [] := by
    intro g hg
    exact List.length_pos_iff.mp (of_mem_byVisibility hg).1
  refine ⟨List.length_filter_le _ _, hfilled, byVisibility_flatten_perm members, ?_, ?_, ?_, ?_, ?_⟩
  · intro g hg
    have hgroups : groups members none = .ok (byVisibility members) := rfl
    exact sublist_of_mem_groups hgroups hg
  · intro g hg
    exact pure_of_mem_byVisibility hg
  · intro i j g h hg hh m hm n hn hexposed hhidden
    exact exposed_before_hidden hg hh hm hn hexposed hhidden
  · intro g _
    have hle : exposedCount g ≤ g.length := List.length_filter_le _ _
    exact ⟨Nat.add_sub_cancel' hle, hiddenCount_eq g⟩
  · intro g hg
    exact byVisibility_eq_singleton (hfilled g hg) (pure_of_mem_byVisibility hg)

end TypeSplit.Splitting
