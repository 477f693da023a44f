/-
  TypeSplit.Proofs.Block — where a block closes, told by levels.

  The level at an offset is the number of openings before it less the number of closings. A block
  closes at the first offset whose level is below the level at its start. Everything about blocks
  inside blocks follows from that and from the fact that one character moves the level by one at most.
  - `matchBlock?_eq_some_iff`: the block search finds exactly that offset.
  - `exists_matchBlock?`: it finds one as soon as the level falls below the start at all.
  - `matchBlock?_limit`: a limit behind the closing offset changes nothing.
  - `matchBlock?_inside`: a block opened inside another one closes inside it.
  - `net_pair`: between two different characters, as braces are, the level is a difference of counts.
-/

import TypeSplit.Source.Block

namespace TypeSplit.Source

def Effect.weight : Effect → Int
  | .opens => 1
  | .closes => -1
  | .nothing => 0

namespace Delimiters

variable (d : Delimiters)

/-- What a text adds to the level. -/
def net : Text → Int
  | [] => 0
  | c :: rest => (d.effect c).weight + net rest

def level (t : Text) (i : Nat) : Int := d.net (t.take i)

@[simp] theorem net_nil : d.net [] = 0 := rfl
@[simp] theorem net_cons (c : Char) (t : Text) : d.net (c :: t) = (d.effect c).weight + d.net t := rfl

@[simp] theorem net_append (a b : Text) : d.net (a ++ b) = d.net a + d.net b := by
  induction a with
  | nil => simp
  | cons c a ih => simp only [List.cons_append, net_cons, ih]; omega

@[simp] theorem level_zero (t : Text) : d.level t 0 = 0 := by simp [level]
@[simp] theorem level_nil (i : Nat) : d.level [] i = 0 := by simp [level]

@[simp] theorem level_cons_succ (c : Char) (t : Text) (i : Nat) :
    d.level (c :: t) (i + 1) = (d.effect c).weight + d.level t i := by simp [level]

theorem level_drop (t : Text) (start i : Nat) :
    d.level (t.drop start) i = d.level t (start + i) - d.level t start := by
  simp only [level, List.take_add, net_append]; omega

theorem level_take {t : Text} {n i : Nat} (h : i ≤ n) : d.level (t.take n) i = d.level t i := by
  simp [level, List.take_take, Nat.min_eq_left h]

theorem level_succ {t : Text} {i : Nat} {c : Char} (h : t[i]? = some c) :
    d.level t (i + 1) = d.level t i + (d.effect c).weight := by
  simp [level, List.take_add_one, h]

theorem level_sub (t : Text) {i j : Nat} (h : i ≤ j) :
    d.level t j - d.level t i = d.net ((t.take j).drop i) := by
  have hj : t.take j = t.take i ++ (t.take j).drop i := by
    conv => lhs; rw [← List.take_append_drop i (t.take j), List.take_take, Nat.min_eq_left h]
  have : d.net (t.take j) = d.net (t.take i) + d.net ((t.take j).drop i) := by
    rw [← net_append, ← hj]
  simp only [level]; omega

end Delimiters

/-! ## The search -/

variable {d : Delimiters}

theorem closeFrom?_eq_some_iff {at_ inner c : Nat} {t : Text} :
    closeFrom? d at_ inner t = some c ↔
      ∃ n, n < t.length ∧ c = at_ + n + 1 ∧ inner + d.level t (n + 1) = -1 ∧ ∀ i ≤ n, 0 ≤ inner + d.level t i := by
  induction t generalizing at_ inner with
  | nil => simp [closeFrom?]
  | cons x rest ih =>
    -- The search goes on behind `x` with `k` blocks open, and `k` is `inner` moved by the weight of `x`.
    have go : ∀ k : Nat, (k : Int) = inner + (d.effect x).weight →
        (closeFrom? d (at_ + 1) k rest = some c ↔
          ∃ n, n < (x :: rest).length ∧ c = at_ + n + 1 ∧ inner + d.level (x :: rest) (n + 1) = -1 ∧
            ∀ i ≤ n, 0 ≤ inner + d.level (x :: rest) i) := by
      intro k hk
      rw [ih]
      constructor
      · rintro ⟨n, hn, rfl, hc, hi⟩
        refine ⟨n + 1, by simpa using hn, by omega, by rw [d.level_cons_succ]; omega, ?_⟩
        intro i hle
        cases i with
        | zero => simp
        | succ i => have := hi i (by omega); rw [d.level_cons_succ]; omega
      · rintro ⟨n, hn, rfl, hc, hi⟩
        cases n with
        | zero => rw [d.level_cons_succ, d.level_zero] at hc; omega
        | succ n =>
          refine ⟨n, by simpa using hn, by omega, by rw [d.level_cons_succ] at hc; omega, ?_⟩
          intro i hle
          have := hi (i + 1) (by omega)
          rw [d.level_cons_succ] at this; omega
    cases he : d.effect x with
    | opens => simpa [closeFrom?, he] using go (inner + 1) (by simp [he, Effect.weight])
    | nothing => simpa [closeFrom?, he] using go inner (by simp [he, Effect.weight])
    | closes =>
      cases inner with
      | succ k => simpa [closeFrom?, he] using go k (by simp only [he, Effect.weight]; omega)
      | zero =>
        simp only [closeFrom?, he, Option.some.injEq]
        constructor
        · rintro rfl
          exact ⟨0, by simp, rfl, by simp [he, Effect.weight], fun i hi => by simp [Nat.le_zero.mp hi]⟩
        · rintro ⟨n, -, rfl, -, hi⟩
          cases n with
          | zero => rfl
          | succ n => have := hi 1 (by omega); simp [he, Effect.weight] at this

theorem closeFrom?_isSome (at_ : Nat) {inner i : Nat} {t : Text} (h : inner + d.level t i < 0) :
    ∃ c, closeFrom? d at_ inner t = some c ∧ c ≤ at_ + i := by
  induction t generalizing at_ inner i with
  | nil => simp only [d.level_nil] at h; omega
  | cons x rest ih =>
    cases i with
    | zero => simp only [d.level_zero] at h; omega
    | succ i =>
      rw [d.level_cons_succ] at h
      have go : ∀ k : Nat, (k : Int) = inner + (d.effect x).weight →
          ∃ c, closeFrom? d (at_ + 1) k rest = some c ∧ c ≤ at_ + (i + 1) := by
        intro k hk
        have hk' : (k : Int) + d.level rest i < 0 := by omega
        obtain ⟨c, hc, hle⟩ := ih (at_ + 1) hk'
        exact ⟨c, hc, by omega⟩
      cases he : d.effect x with
      | opens => simpa [closeFrom?, he] using go (inner + 1) (by simp [he, Effect.weight])
      | nothing => simpa [closeFrom?, he] using go inner (by simp [he, Effect.weight])
      | closes =>
        cases inner with
        | succ k => simpa [closeFrom?, he] using go k (by simp only [he, Effect.weight]; omega)
        | zero => exact ⟨at_ + 1, by simp [closeFrom?, he], by omega⟩

/-! ## Blocks of a text -/

variable {t : Text} {opening : Int} {limit : Option Int} {c : Nat}

theorem before_eq_take (limit : Option Int) (t : Text) : before limit t = t.take (before limit t).length := by
  cases limit with
  | none => simp [before]
  | some l => simp [before]

theorem level_before {i : Nat} (h : i ≤ (before limit t).length) : d.level (before limit t) i = d.level t i := by
  rw [before_eq_take limit t, d.level_take h]

theorem matchBlock?_eq_some_iff :
    matchBlock? d t opening limit = some c ↔
      (opening + 1).toNat < c ∧ c ≤ (before limit t).length ∧
        d.level t c = d.level t (opening + 1).toNat - 1 ∧
        ∀ i, (opening + 1).toNat ≤ i → i < c → d.level t (opening + 1).toNat ≤ d.level t i := by
  simp only [matchBlock?, closeFrom?_eq_some_iff, List.length_drop, d.level_drop]
  generalize (opening + 1).toNat = start
  constructor
  · rintro ⟨n, hn, rfl, hc, hi⟩
    have hs : d.level (before limit t) start = d.level t start := level_before (by omega)
    refine ⟨by omega, by omega, ?_, ?_⟩
    · have hle : start + n + 1 ≤ (before limit t).length := by omega
      rw [← level_before hle, Nat.add_assoc]; omega
    · intro i h1 h2
      have := hi (i - start) (by omega)
      rw [Nat.add_sub_cancel' h1, level_before (by omega), hs] at this
      omega
  · rintro ⟨h1, h2, hc, hi⟩
    have hs : d.level (before limit t) start = d.level t start := level_before (by omega)
    refine ⟨c - start - 1, by omega, by omega, ?_, ?_⟩
    · rw [show start + (c - start - 1 + 1) = c by omega, level_before h2, hs]; omega
    · intro i hle
      rw [level_before (by omega), hs]
      have := hi (start + i) (by omega) (by omega)
      omega

/-- A block closes as soon as the level falls below its start. -/
theorem exists_matchBlock? {i : Nat} (hs : (opening + 1).toNat ≤ i) (hi : i ≤ (before limit t).length)
    (hl : d.level t i < d.level t (opening + 1).toNat) : ∃ c ≤ i, matchBlock? d t opening limit = some c := by
  have : ((0 : Nat) : Int) + d.level ((before limit t).drop (opening + 1).toNat) (i - (opening + 1).toNat) < 0 := by
    rw [d.level_drop, Nat.add_sub_cancel' hs, level_before hi, level_before (by omega)]; omega
  obtain ⟨c, hc, hle⟩ := closeFrom?_isSome (opening + 1).toNat this
  exact ⟨c, by omega, hc⟩

@[simp] theorem length_before_some (n : Nat) (t : Text) : (before (some n) t).length = min n t.length := by
  simp [before]

/-- The block is found below a limit if it is found without one and closes before the limit. -/
theorem matchBlock?_limit {e : Nat} :
    matchBlock? d t opening (some e) = some c ↔ matchBlock? d t opening none = some c ∧ c ≤ e := by
  simp only [matchBlock?_eq_some_iff, length_before_some]
  simp only [before]
  constructor
  · rintro ⟨h1, h2, h3⟩; exact ⟨⟨h1, by omega, h3⟩, by omega⟩
  · rintro ⟨⟨h1, h2, h3⟩, h4⟩; exact ⟨h1, by omega, h3⟩

theorem matchBlock?_bounds {o : Nat} (h : matchBlock? d t o none = some c) : o + 1 < c ∧ c ≤ t.length := by
  obtain ⟨h1, h2, -⟩ := matchBlock?_eq_some_iff.mp h
  exact ⟨by omega, h2⟩

theorem level_le_of_inside {o i : Nat} (h : matchBlock? d t o none = some c) (hoi : o < i) (hic : i < c) :
    d.level t (o + 1) ≤ d.level t i :=
  (matchBlock?_eq_some_iff.mp h).2.2.2 i (by omega) hic

theorem level_close {o : Nat} (h : matchBlock? d t o none = some c) : d.level t c = d.level t (o + 1) - 1 :=
  (matchBlock?_eq_some_iff.mp h).2.2.1

/-- A block that opens inside another one closes inside it. -/
theorem matchBlock?_inside {o o' : Nat} {x : Char} (h : matchBlock? d t o none = some c) (hx : t[o']? = some x)
    (hopen : d.effect x = .opens) (h1 : o < o') (h2 : o' < c) :
    ∃ c', c' < c ∧ matchBlock? d t o' none = some c' := by
  have hl := level_le_of_inside h h1 h2
  have hc := level_close h
  have hs : d.level t (o' + 1) = d.level t o' + 1 := by rw [d.level_succ hx, hopen]; rfl
  have hfall : d.level t c < d.level t ((o' : Int) + 1).toNat := by
    rw [show ((o' : Int) + 1).toNat = o' + 1 by omega]; omega
  obtain ⟨c', hle, hc'⟩ : ∃ c' ≤ c, matchBlock? d t o' none = some c' :=
    exists_matchBlock? (by omega) (matchBlock?_bounds h).2 hfall
  refine ⟨c', ?_, hc'⟩
  have := level_close hc'
  rcases Nat.lt_or_eq_of_le hle with hlt | rfl
  · exact hlt
  · omega

/-! ## Two characters -/

def Delimiters.pair (opener closer : Char) : Delimiters := ⟨[opener], [closer], List.cons_ne_nil _ _⟩

section

variable {opener closer : Char}

theorem effect_pair (hne : opener ≠ closer) (c : Char) :
    (Delimiters.pair opener closer).effect c = if c = opener then .opens else if c = closer then .closes else .nothing := by
  simp only [Delimiters.effect, Delimiters.pair, List.cons.injEq, and_true, List.mem_singleton]
  by_cases h1 : c = opener
  · simp [h1]
  · by_cases h2 : c = closer
    · simp [h2, hne, hne.symm]
    · simp [h1, h2, Ne.symm h1]

/-- What a text adds to the level is what its openers are more than its closers. -/
theorem net_pair (hne : opener ≠ closer) (t : Text) :
    (Delimiters.pair opener closer).net t = t.count opener - t.count closer := by
  induction t with
  | nil => simp
  | cons c t ih =>
    rw [Delimiters.net_cons, ih, effect_pair hne, List.count_cons, List.count_cons]
    by_cases h1 : c = opener
    · subst h1; simp [Effect.weight, hne]; omega
    · by_cases h2 : c = closer
      · subst h2; simp [Effect.weight, h1]; omega
      · simp [h1, h2, Effect.weight]

end

@[simp] theorem effect_braces (c : Char) :
    Delimiters.braces.effect c = if c = '{' then .opens else if c = '}' then .closes else .nothing :=
  effect_pair (by decide) c

theorem net_braces (t : Text) : Delimiters.braces.net t = t.count '{' - t.count '}' := net_pair (by decide) t

end TypeSplit.Source
