/-
  TypeSplit.Proofs.Grouping — the groups that the members of a type are dealt into.

  Every group keeps members in their order, every member is in a group, and there is a group only if there
  is a member. Dealing succeeds for every count from one on and without a count.
  - `groups_flatten_perm`: the groups together are the members, each once.
  - `of_mem_byVisibility`: no group without a count is empty or mixed.
-/

import Mathlib.Data.List.Infix
import Mathlib.Data.List.Perm.Basic
import TypeSplit.Splitting.Group

namespace TypeSplit.Splitting

section

variable {α : Type} {count rest : Nat} {xs : List α}

theorem turn_sublist : (turn count rest xs).Sublist xs := by
  have h := (List.filter_sublist (l := xs.zipIdx) (p := fun x => x.2 % count == rest)).map Prod.fst
  rwa [List.zipIdx_map_fst] at h

theorem mem_turn {x : α} {i : Nat} (h : xs[i]? = some x) : x ∈ turn count (i % count) xs := by
  refine List.mem_map.mpr ⟨(x, i), List.mem_filter.mpr ⟨?_, by simp⟩, rfl⟩
  exact List.mk_mem_zipIdx_iff_getElem?.mpr h

theorem mem_deal (hc : 0 < count) {x : α} (hx : x ∈ xs) : ∃ g ∈ deal count xs, x ∈ g := by
  obtain ⟨i, hi, rfl⟩ := List.mem_iff_getElem.mp hx
  refine ⟨_, List.mem_map.mpr ⟨i % count, List.mem_range.mpr ?_, rfl⟩, mem_turn (List.getElem?_eq_getElem hi)⟩
  have := Nat.mod_lt i hc
  have := Nat.mod_le i count
  omega

/-- Elements put in buckets by a key below `n` are all there once. -/
theorem flatten_buckets_perm (key : α → Nat) {n : Nat} {xs : List α} (h : ∀ x ∈ xs, key x < n) :
    ((List.range n).map fun i => xs.filter (key · == i)).flatten.Perm xs := by
  induction n generalizing xs with
  | zero =>
    cases xs with
    | nil => exact .refl _
    | cons x _ => exact absurd (h x List.mem_cons_self) (Nat.not_lt_zero _)
  | succ n ih =>
    -- The last bucket is taken out; the others do not see what was in it.
    have hlow : ∀ x ∈ xs.filter (fun x => !(key x == n)), key x < n := by
      intro x hx
      obtain ⟨hmem, hne⟩ := List.mem_filter.mp hx
      have := h x hmem
      simp only [Bool.not_eq_true', beq_eq_false_iff_ne] at hne
      omega
    have hmap : (List.range n).map (fun i => xs.filter (key · == i)) =
        (List.range n).map fun i => (xs.filter fun x => !(key x == n)).filter (key · == i) := by
      refine List.map_congr_left fun i hi => ?_
      have hi := List.mem_range.mp hi
      rw [List.filter_filter]
      refine List.filter_congr fun x _ => ?_
      by_cases hx : key x = i
      · have : ¬ key x = n := by omega
        simp [hx, hx ▸ this]
      · simp [hx]
    rw [List.range_succ, List.map_append, List.flatten_append, hmap, List.map_singleton, List.flatten_singleton]
    exact (((ih hlow).append_right _).trans List.perm_append_comm).trans (List.filter_append_perm _ _)

theorem deal_flatten_perm (hc : 0 < count) : (deal count xs).flatten.Perm xs := by
  have hkey : ∀ x ∈ xs.zipIdx, x.2 % count < min count xs.length := by
    intro x hx
    have hlt : x.2 < xs.length := List.snd_lt_of_mem_zipIdx hx
    have := Nat.mod_lt x.2 hc
    have := Nat.mod_le x.2 count
    omega
  have h := (flatten_buckets_perm (fun x : α × Nat => x.2 % count) hkey).map Prod.fst
  rw [List.zipIdx_map_fst, List.map_flatten, List.map_map] at h
  exact h

end

variable {members : List Member} {count : Option Int} {gs : List (List Member)}

theorem groups_eq_ok (h : groups members count = .ok gs) :
    (∃ n, 0 < n ∧ gs = deal n members) ∨ gs = byVisibility members := by
  cases count with
  | none => exact .inr (Except.ok.inj h).symm
  | some count =>
    simp only [groups, roundRobin] at h
    split at h
    · cases h
    · exact .inl ⟨count.toNat, by omega, (Except.ok.inj h).symm⟩

theorem groups_ok (h : ∀ k, count = some k → 1 ≤ k) : ∃ gs, groups members count = .ok gs := by
  cases count with
  | none => exact ⟨_, rfl⟩
  | some count =>
    have := h count rfl
    exact ⟨deal count.toNat members, by simp only [groups, roundRobin]; rw [if_neg (by omega)]⟩

theorem sublist_of_mem_groups (h : groups members count = .ok gs) {g : List Member} (hg : g ∈ gs) :
    g.Sublist members := by
  rcases groups_eq_ok h with ⟨n, -, rfl⟩ | rfl
  · obtain ⟨rest, -, rfl⟩ := List.mem_map.mp hg
    exact turn_sublist
  · simp only [byVisibility, List.mem_filter, List.mem_cons, List.not_mem_nil, or_false] at hg
    rcases hg.1 with rfl | rfl <;> exact List.filter_sublist

theorem exists_group (h : groups members count = .ok gs) {m : Member} (hm : m ∈ members) : ∃ g ∈ gs, m ∈ g := by
  rcases groups_eq_ok h with ⟨n, hn, rfl⟩ | rfl
  · exact mem_deal hn hm
  · have hin : ∀ p : Member → Bool, p m = true → m ∈ members.filter p := fun p hp => List.mem_filter.mpr ⟨hm, hp⟩
    have hne : ∀ g : List Member, m ∈ g → (!g.isEmpty) = true := fun g hg => by
      simpa using List.ne_nil_of_mem hg
    cases he : m.exposed with
    | true =>
      have := hin (·.exposed) he
      exact ⟨_, List.mem_filter.mpr ⟨List.mem_cons_self, hne _ this⟩, this⟩
    | false =>
      have := hin (!·.exposed) (by simp [he])
      exact ⟨_, List.mem_filter.mpr ⟨List.mem_cons_of_mem _ List.mem_cons_self, hne _ this⟩, this⟩

theorem byVisibility_flatten_perm (members : List Member) : (byVisibility members).flatten.Perm members := by
  rw [byVisibility, List.flatten_filter_not_isEmpty, List.flatten_cons, List.flatten_singleton]
  have h := List.filter_append_perm (·.exposed) members
  simpa only [Bool.not_eq_true, Bool.decide_eq_false] using h

/-- The groups together are the members, each once. -/
theorem groups_flatten_perm (h : groups members count = .ok gs) : gs.flatten.Perm members := by
  rcases groups_eq_ok h with ⟨n, hn, rfl⟩ | rfl
  · exact deal_flatten_perm hn
  · exact byVisibility_flatten_perm members

/-- A group without a count is not empty, and its members are all exposed or all hidden. -/
theorem of_mem_byVisibility {g : List Member} (h : g ∈ byVisibility members) :
    0 < g.length ∧ (exposedCount g = g.length ∨ exposedCount g = 0) := by
  obtain ⟨hmem, hne⟩ := List.mem_filter.mp h
  refine ⟨List.length_pos_iff.mpr (by simpa using hne), ?_⟩
  rcases List.mem_cons.mp hmem with rfl | hmem
  · left
    simp [exposedCount]
  · right
    rw [List.mem_singleton.mp hmem]
    simp [exposedCount]

theorem groups_eq_nil_iff (h : groups members count = .ok gs) : gs = [] ↔ members = [] := by
  constructor
  · intro hnil
    refine List.eq_nil_iff_forall_not_mem.mpr fun m hm => ?_
    obtain ⟨g, hg, -⟩ := exists_group h hm
    simp [hnil] at hg
  · intro hnil
    rcases groups_eq_ok h with ⟨n, -, rfl⟩ | rfl
    · simp [deal, hnil]
    · simp [byVisibility, hnil]

end TypeSplit.Splitting
