/-
  TypeSplit.Proofs.LineTable — offsets, line numbers and lines agree.

  A line cuts its text in three: the lines before it, which end with a newline, the line, which holds none, and what is
  behind it, which begins with one (`IsLine`). Every offset up to the end of the text is on such a line, that of the newline
  that ends it included (`exists_isLine_at`), and behind every newline another line begins (`exists_isLine`).
  - `lineOf_eq_tableLine` / `lineStart?_eq_tableStart?`: both numberings can be looked up in a table of the newlines, the
    line of an offset by halving the table.
  - `IsLine.getElem?_lines`: the line is found under its number, less a carriage return at its end.
  - `line_numbers_agree`: so offsets, numbers and lines agree, and a character that does not end a line stands in its line at
    its column.
-/

import Mathlib.Data.List.GetD
import TypeSplit.Proofs.LineExtent

namespace TypeSplit.Source

open TypeSplit.Text (splitOn)

/-! ## The table of the newlines -/

def newlines (t : Text) : List Nat := t.idxsOf '\n'

/-- How many entries of an ascending table are at most `x`, found by halving the range from `lo` to `hi`. -/
def countUpTo (table : List Nat) (x : Int) (lo hi : Nat) : Nat :=
  if lo < hi then
    if x < table.getD ((lo + hi) / 2) 0 then countUpTo table x lo ((lo + hi) / 2)
    else countUpTo table x ((lo + hi) / 2 + 1) hi
  else lo
termination_by hi - lo

def tableLine (table : List Nat) (offset : Int) : Nat := countUpTo table (offset - 1) 0 table.length + 1

/-- The start of a line, behind the newline that ends the line before it. -/
def tableStart? (table : List Nat) (line : Int) : Option Nat :=
  if line ≤ 1 then some 0 else table[(line - 2).toNat]?.map (· + 1)

/-- The search ends between the entries up to `x` and those above it. The place stays between `lo` and `hi`. -/
theorem countUpTo_append {below above : List Nat} {x : Int} {lo hi : Nat} (hbelow : ∀ n ∈ below, (n : Int) ≤ x)
    (habove : ∀ n ∈ above, x < (n : Int)) (hlo : lo ≤ below.length) (hhi : below.length ≤ hi)
    (hlen : hi ≤ below.length + above.length) : countUpTo (below ++ above) x lo hi = below.length := by
  fun_induction countUpTo (below ++ above) x lo hi with
  | case1 lo hi hlt hx ih =>
    refine ih hlo ?_ (by omega)
    -- the middle entry is above `x`, so it is none of those below the place
    by_contra hmid
    have hmem : (below ++ above).getD ((lo + hi) / 2) 0 ∈ below := by
      rw [List.getD_append _ _ _ _ (by omega), List.getD_eq_getElem _ _ (by omega)]
      exact List.getElem_mem _
    have := hbelow _ hmem
    omega
  | case2 lo hi hlt hx ih =>
    refine ih ?_ hhi hlen
    by_contra hmid
    have hmem : (below ++ above).getD ((lo + hi) / 2) 0 ∈ above := by
      rw [List.getD_append_right _ _ _ _ (by omega), List.getD_eq_getElem _ _ (by omega)]
      exact List.getElem_mem _
    exact hx (habove _ hmem)
  | case3 lo hi hlt => omega

/-- An offset cuts the table: the newlines before it, and those from it on. -/
theorem newlines_cut (t : Text) (p : Nat) :
    ∃ below above, newlines t = below ++ above ∧ below.length = (t.take p).count '\n' ∧
      (∀ n ∈ below, n < p) ∧ ∀ n ∈ above, p ≤ n := by
  refine ⟨(t.take p).idxsOf '\n', (t.drop p).idxsOf '\n' (0 + (t.take p).length), ?_, List.length_idxsOf, ?_, ?_⟩
  · rw [← List.idxsOf_append, List.take_append_drop, newlines]
  · intro n hn
    have := List.lt_add_of_mem_idxsOf n hn
    rw [List.length_take] at this
    omega
  · intro n hn
    -- an offset behind the end of the text has no newline from it on
    have hle := List.ge_of_mem_idxsOf n hn
    have hlt := List.lt_add_of_mem_idxsOf n hn
    rw [List.length_take] at hle
    rw [List.length_drop, List.length_take] at hlt
    omega

theorem lineOf_eq_tableLine (t : Text) (offset : Int) : lineOf t offset = tableLine (newlines t) offset := by
  obtain ⟨below, above, htable, hcount, hbelow, habove⟩ := newlines_cut t offset.toNat
  have hsearch : countUpTo (newlines t) (offset - 1) 0 (newlines t).length = below.length := by
    rw [htable]
    refine countUpTo_append ?_ ?_ (Nat.zero_le _) (by simp) (by simp)
    · intro n hn
      have := hbelow n hn
      omega
    · intro n hn
      have := habove n hn
      omega
  rw [tableLine, hsearch, hcount, lineOf]

theorem afterNewline?_succ (t : Text) (k at_ : Nat) :
    afterNewline? (k + 1) at_ t = (t.idxsOf '\n' at_)[k]?.map (· + 1) := by
  induction t generalizing k at_ with
  | nil => rfl
  | cons c t ih =>
    rw [afterNewline?, List.idxsOf_cons]
    by_cases hc : c = '\n'
    · rw [if_pos hc, if_pos (beq_iff_eq.mpr hc)]
      cases k with
      | zero => simp [afterNewline?]
      | succ k => rw [ih, List.getElem?_cons_succ]
    · rw [if_neg hc, if_neg (by simpa using hc), ih]

theorem lineStart?_eq_tableStart? (t : Text) (line : Int) : lineStart? t line = tableStart? (newlines t) line := by
  rw [lineStart?, tableStart?]
  split
  · have hfirst : (line - 1).toNat = 0 := by omega
    rw [hfirst, afterNewline?]
  · have hlater : (line - 1).toNat = (line - 2).toNat + 1 := by omega
    rw [hlater, afterNewline?_succ, newlines]

/-! ## Cuts into lines -/

/-- The part `x` of a text is a whole line: `a` are the lines before it, and `b` is what is behind it. -/
structure IsLine (t a x b : Text) : Prop where
  text_eq : t = a ++ (x ++ b)
  before : EndsWithNewline a
  whole : '\n' ∉ x
  behind : BeginsWithNewline b

/-- Lines that are each ended by a newline have one newline each. -/
theorem count_flatMap_newline {xs : List Text} (h : ∀ x ∈ xs, '\n' ∉ x) :
    (xs.flatMap (· ++ ['\n'])).count '\n' = xs.length := by
  induction xs with
  | nil => rfl
  | cons x xs ih =>
    have hx := List.count_eq_zero.mpr (h x List.mem_cons_self)
    have hxs := ih fun y hy => h y (List.mem_cons_of_mem _ hy)
    simp [hx, hxs]

theorem endsWithNewline_flatMap (xs : List Text) : EndsWithNewline (xs.flatMap (· ++ ['\n'])) := by
  rcases List.eq_nil_or_concat xs with rfl | ⟨front, x, rfl⟩
  · exact .inl rfl
  · exact .inr ⟨front.flatMap (· ++ ['\n']) ++ x, by simp⟩

theorem beginsWithNewline_flatMap (ys : List Text) : BeginsWithNewline (ys.flatMap (['\n'] ++ ·)) := by
  cases ys with
  | nil => exact .inl rfl
  | cons y ys => exact .inr ⟨y ++ ys.flatMap (['\n'] ++ ·), by simp⟩

/-- Behind each number of newlines that the text has, a line begins. -/
theorem exists_isLine {t : Text} {k : Nat} (hk : k ≤ t.count '\n') : ∃ a x b, IsLine t a x b ∧ a.count '\n' = k := by
  have hlt : k < (splitOn '\n' t).length := by
    rw [Text.length_splitOn]
    omega
  obtain ⟨xs, x, ys, hpieces, hlen⟩ : ∃ xs x ys, splitOn '\n' t = xs ++ x :: ys ∧ xs.length = k := by
    refine ⟨(splitOn '\n' t).take k, (splitOn '\n' t)[k], (splitOn '\n' t).drop (k + 1), ?_, ?_⟩
    · rw [← List.drop_eq_getElem_cons hlt, List.take_append_drop]
    · rw [List.length_take, Nat.min_eq_left (Nat.le_of_lt hlt)]
  have hfree : ∀ q ∈ xs ++ x :: ys, '\n' ∉ q := fun q hq => Text.not_mem_of_mem_splitOn (hpieces ▸ hq)
  refine ⟨_, x, _, ⟨?_, endsWithNewline_flatMap xs, hfree x (by simp), beginsWithNewline_flatMap ys⟩, ?_⟩
  · rw [← Text.intercalate_append_cons, ← hpieces]
    exact (Text.join_splitOn t).symm
  · rw [count_flatMap_newline fun q hq => hfree q (List.mem_append_left _ hq), hlen]

/-- Each offset up to the end of the text is on a line. -/
theorem exists_isLine_at {t : Text} {p : Nat} (hp : p ≤ t.length) :
    ∃ a x b, IsLine t a x b ∧ a.length ≤ p ∧ p ≤ a.length + x.length := by
  obtain ⟨a, f, g, b, h, -⟩ := exists_around (Nat.le_refl p) hp
  have hstart := h.start
  refine ⟨a, f ++ g, b, ⟨?_, h.before, ?_, h.behind⟩, by omega, by rw [List.length_append]; omega⟩
  · have htext := h.text_eq
    have hnone : (t.take p).drop p = [] := List.drop_of_length_le (List.length_take_le p t)
    rwa [hnone, List.nil_append] at htext
  · rw [List.mem_append, not_or]
    exact ⟨h.line_before, h.line_behind⟩

namespace IsLine

variable {t a x b : Text} {p : Nat}

theorem lineStart?_eq (h : IsLine t a x b) : lineStart? t ((a.count '\n' + 1 : Nat) : Int) = some a.length := by
  have hstart := lineStart?_behind h.before (x ++ b) rfl
  rwa [← h.text_eq] at hstart

/-- The offsets of a line, from its start to the newline that ends it. -/
theorem lineOf_eq (h : IsLine t a x b) (hstart : a.length ≤ p) (hend : p ≤ a.length + x.length) :
    lineOf t (p : Int) = a.count '\n' + 1 := by
  have htake : t.take p = a ++ x.take (p - a.length) := by
    rw [h.text_eq, List.take_append, List.take_of_length_le hstart, List.take_append_of_le_length (by omega)]
  have hnone : (x.take (p - a.length)).count '\n' = 0 :=
    List.count_eq_zero.mpr fun hmem => h.whole (List.mem_of_mem_take hmem)
  rw [lineOf, Int.toNat_natCast, htake, List.count_append, hnone, Nat.add_zero]

theorem count_eq (h : IsLine t a x b) : t.count '\n' = a.count '\n' + b.count '\n' := by
  rw [h.text_eq, List.count_append, List.count_append, List.count_eq_zero.mpr h.whole, Nat.zero_add]

/-- The line behind a newline starts there. -/
theorem lineStart?_next (h : IsLine t a x ('\n' :: b)) :
    lineStart? t ((a.count '\n' + 1 + 1 : Nat) : Int) = some (a.length + x.length + 1) := by
  have htext : t = a ++ x ++ ['\n'] ++ b := by
    rw [h.text_eq]
    simp
  have hcount : a.count '\n' + 1 + 1 = (a ++ x ++ ['\n']).count '\n' + 1 := by
    simp [List.count_eq_zero.mpr h.whole]
  have hnext := lineStart?_behind (.inr ⟨a ++ x, rfl⟩) b hcount
  rw [← htext] at hnext
  simpa [Nat.add_assoc] using hnext

/-- A line that is not empty is among the lines of the text. -/
theorem getElem?_lines (h : IsLine t a x b) (hx : x ≠ []) : (lines t)[a.count '\n']? = some (dropReturn x) := by
  have hpiece : splitOn '\n' x = [x] := by
    simpa using Text.splitOn_append (t := []) h.whole rfl
  have hlast : (splitOn '\n' x).getLast? ≠ some [] := by simpa [hpiece] using hx
  have hlines := lines_between h.before h.behind hlast
  rw [← h.text_eq, hpiece, List.count_eq_zero.mpr h.whole, List.map_singleton] at hlines
  have hhead := congrArg (·[0]?) hlines
  simpa [List.getElem?_take] using hhead

/-- A character of the text on the line that is not its newline. -/
theorem getElem?_eq {c : Char} (h : IsLine t a x b) (hstart : a.length ≤ p) (hend : p ≤ a.length + x.length)
    (hc : t[p]? = some c) (hn : c ≠ '\n') : x[p - a.length]? = some c := by
  rw [h.text_eq, List.getElem?_append_right hstart] at hc
  by_cases hlt : p - a.length < x.length
  · rwa [List.getElem?_append_left hlt] at hc
  · have hbehind : p - a.length - x.length = 0 := by omega
    rw [List.getElem?_append_right (by omega), hbehind] at hc
    rcases h.behind with rfl | ⟨b', rfl⟩
    · cases hc
    · cases hc
      exact absurd rfl hn

end IsLine

/-! ## Characters in their lines -/

/-- A carriage return directly before a newline or the end of the text. -/
def ClosingReturn (t : Text) (p : Nat) : Prop := t[p]? = some '\r' ∧ (t[p + 1]? = some '\n' ∨ p + 1 = t.length)

instance (t : Text) (p : Nat) : Decidable (ClosingReturn t p) := inferInstanceAs (Decidable (_ ∧ (_ ∨ _)))

theorem IsLine.closingReturn {t a x b : Text} {p : Nat} (h : IsLine t a x b) (hp : p + 1 = a.length + x.length)
    (hc : t[p]? = some '\r') : ClosingReturn t p := by
  refine ⟨hc, ?_⟩
  rw [h.text_eq]
  rcases h.behind with rfl | ⟨b', rfl⟩
  · right
    simpa using hp
  · left
    rw [List.getElem?_append_right (by omega), List.getElem?_append_right (by omega)]
    have hbehind : p + 1 - a.length - x.length = 0 := by omega
    rw [hbehind, List.getElem?_cons_zero]

theorem getElem?_dropReturn {x : Text} {i : Nat} {c : Char} (hc : x[i]? = some c) (h : i + 1 = x.length → c ≠ '\r') :
    (dropReturn x)[i]? = some c := by
  obtain ⟨hlt, -⟩ := List.getElem?_eq_some_iff.mp hc
  rw [dropReturn]
  split
  case isFalse => exact hc
  case isTrue hlast =>
    have hi : i + 1 ≠ x.length := by
      intro hi
      rw [List.getLast?_eq_getElem?, ← hi, Nat.add_sub_cancel, hc] at hlast
      exact h hi (Option.some.inj hlast)
    rw [List.getElem?_dropLast, if_pos (by omega), hc]

/-- The numbers of lines and the lines agree. Both numberings are what the table of the newlines gives, and the line of an
offset counts the newlines before it. A line starts on itself, and an offset lies from the start of its line on and before
that of the next one. A character that does not end a line stands in its line at its column. -/
theorem line_numbers_agree (t : Text) :
    (∀ offset line : Int, lineOf t offset = tableLine (newlines t) offset ∧
        lineStart? t line = tableStart? (newlines t) line) ∧
      (∀ p : Nat, lineOf t (p : Int) = 1 + (t.take p).count '\n') ∧
      (∀ l : Nat, 1 ≤ l → l ≤ lineCount t → ∃ s : Nat, lineStart? t (l : Int) = some s ∧ lineOf t (s : Int) = l) ∧
      (∀ p ≤ t.length, ∃ s : Nat, lineStart? t (lineOf t (p : Int)) = some s ∧ s ≤ p ∧
        (lineOf t (p : Int) < lineCount t → ∃ s' : Nat, lineStart? t (lineOf t (p : Int) + 1) = some s' ∧ p < s')) ∧
      ∀ (p : Nat) (c : Char), t[p]? = some c → c ≠ '\n' → ¬ClosingReturn t p →
        ∃ (s : Nat) (l : Text), lineStart? t (lineOf t (p : Int)) = some s ∧ s ≤ p ∧
          (lines t)[lineOf t (p : Int) - 1]? = some l ∧ l[p - s]? = some c := by
  refine ⟨fun offset line => ⟨lineOf_eq_tableLine t offset, lineStart?_eq_tableStart? t line⟩, ?_, ?_, ?_, ?_⟩
  · intro p
    rw [lineOf, Int.toNat_natCast, Nat.add_comm]
  · intro l h1 hl
    have hk : l - 1 ≤ t.count '\n' := by
      unfold lineCount at hl
      omega
    obtain ⟨a, x, b, h, hcount⟩ := exists_isLine hk
    obtain rfl : l = a.count '\n' + 1 := by omega
    exact ⟨a.length, h.lineStart?_eq, h.lineOf_eq (Nat.le_refl _) (Nat.le_add_right _ _)⟩
  · intro p hp
    obtain ⟨a, x, b, h, hstart, hend⟩ := exists_isLine_at hp
    rw [h.lineOf_eq hstart hend]
    refine ⟨a.length, h.lineStart?_eq, hstart, fun hnext => ?_⟩
    rw [lineCount, h.count_eq] at hnext
    rcases h.behind with rfl | ⟨b', rfl⟩
    · simp at hnext
    · exact ⟨a.length + x.length + 1, h.lineStart?_next, by omega⟩
  · intro p c hc hn hr
    obtain ⟨hlt, -⟩ := List.getElem?_eq_some_iff.mp hc
    obtain ⟨a, x, b, h, hstart, hend⟩ := exists_isLine_at (Nat.le_of_lt hlt)
    have hx := h.getElem?_eq hstart hend hc hn
    have hne : x ≠ [] := by
      rintro rfl
      cases hx
    rw [h.lineOf_eq hstart hend, Nat.add_sub_cancel]
    refine ⟨a.length, dropReturn x, h.lineStart?_eq, hstart, h.getElem?_lines hne, getElem?_dropReturn hx ?_⟩
    -- a carriage return that ends the line is the one case in which a character of the line is lost
    rintro hlast rfl
    exact hr (h.closingReturn (by omega) hc)

def manyReturns : Text := ['a', '\r', '\r', '\n', '\r', '\n', 'b', '\r']

/-- The first of two carriage returns is kept in its line, and the last line, without a newline, has its number. -/
theorem many_returns_keep_their_columns :
    manyReturns[1]? = some '\r' ∧ ¬ClosingReturn manyReturns 1 ∧ ClosingReturn manyReturns 2 ∧
      lines manyReturns = [['a', '\r'], [], ['b']] ∧ lineCount manyReturns = 3 ∧
      (∃ s : Nat, lineStart? manyReturns (3 : Nat) = some s ∧ lineOf manyReturns (s : Int) = 3) ∧
      (∃ s : Nat, lineStart? manyReturns (lineOf manyReturns (5 : Nat)) = some s ∧ s ≤ 5 ∧
        (lineOf manyReturns (5 : Nat) < lineCount manyReturns →
          ∃ s' : Nat, lineStart? manyReturns (lineOf manyReturns (5 : Nat) + 1) = some s' ∧ 5 < s')) ∧
      ∃ (s : Nat) (l : Text), lineStart? manyReturns (lineOf manyReturns (1 : Nat)) = some s ∧ s ≤ 1 ∧
        (lines manyReturns)[lineOf manyReturns (1 : Nat) - 1]? = some l ∧ l[1 - s]? = some '\r' := by
  obtain ⟨-, -, hlines, hoffsets, hcharacters⟩ := line_numbers_agree manyReturns
  exact ⟨by decide, by decide, by decide, by decide, by decide, hlines 3 (by decide) (by decide),
    hoffsets 5 (by decide), hcharacters 1 '\r' (by decide) (by decide) (by decide)⟩

end TypeSplit.Source
