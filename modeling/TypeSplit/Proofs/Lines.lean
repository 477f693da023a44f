/-
  TypeSplit.Proofs.Lines — lines, and members that stand on lines of their own.

  A text is cut into pieces at each separator, and joining the pieces gives the text back. A part of a text that
  begins behind a newline and ends before one is made of whole lines; their numbers count the newlines in front of it
  (`lines_between`). So the whole text of a member with nothing but blanks before and behind it on its lines is the
  member with those blanks, and its signature is what stands before its brace (`memberAt_stands`).
-/

import TypeSplit.Extraction.Member
import TypeSplit.Proofs.Token

namespace TypeSplit.Text

/-! ## Pieces -/

theorem intercalate_cons {α : Type} (sep a : List α) (ys : List (List α)) :
    sep.intercalate (a :: ys) = a ++ ys.flatMap (sep ++ ·) := by
  induction ys generalizing a with
  | nil => simp
  | cons y ys ih => rw [List.intercalate_cons_cons, ih, List.flatMap_cons, List.append_assoc, List.append_assoc]

/-- A list among others that are joined: what stands before it and behind it does not depend on it. -/
theorem intercalate_append_cons {α : Type} (sep a : List α) (xs ys : List (List α)) :
    sep.intercalate (xs ++ a :: ys) = xs.flatMap (· ++ sep) ++ (a ++ ys.flatMap (sep ++ ·)) := by
  induction xs with
  | nil => simp [intercalate_cons]
  | cons x xs ih =>
    rw [List.cons_append, List.intercalate_cons_of_ne_nil (by simp), ih, List.flatMap_cons, List.append_assoc,
      List.append_assoc, List.append_assoc]

variable {sep : Char}

theorem splitOn_ne_nil (sep : Char) (t : Text) : ∃ piece others, splitOn sep t = piece :: others := by
  fun_cases splitOn sep t with
  | case1 => exact ⟨[], [], rfl⟩
  | case2 rest => exact ⟨[], splitOn sep rest, rfl⟩
  | case3 c rest => exact ⟨[c], [], rfl⟩
  | case4 c rest _ piece others => exact ⟨c :: piece, others, rfl⟩

theorem splitOn_append {w t piece : Text} {others : List Text} (hw : sep ∉ w)
    (h : splitOn sep t = piece :: others) : splitOn sep (w ++ t) = (w ++ piece) :: others := by
  induction w with
  | nil => exact h
  | cons c w ih =>
    simp only [List.mem_cons, not_or] at hw
    simp [splitOn, ih hw.2, Ne.symm hw.1]

theorem splitOn_append_sep (a b : Text) : splitOn sep (a ++ sep :: b) = splitOn sep a ++ splitOn sep b := by
  induction a with
  | nil => simp [splitOn]
  | cons c a ih =>
    by_cases hc : c = sep
    · simp [splitOn, hc, ih]
    · obtain ⟨piece, others, h⟩ := splitOn_ne_nil sep a
      simp [splitOn, hc, ih, h]

theorem length_splitOn (sep : Char) (t : Text) : (splitOn sep t).length = t.count sep + 1 := by
  induction t with
  | nil => rfl
  | cons c t ih =>
    by_cases hc : c = sep
    · simp [splitOn, hc, ih]
    · obtain ⟨piece, others, h⟩ := splitOn_ne_nil sep t
      rw [h] at ih
      simpa [splitOn, hc, h, List.count_cons] using ih

theorem splitOn_pieces {t piece : Text} {others : List Text} (h : splitOn sep t = piece :: others) :
    t = piece ++ others.flatMap (sep :: ·) ∧ ∀ q ∈ piece :: others, sep ∉ q := by
  induction t generalizing piece others with
  | nil =>
    cases h
    exact ⟨rfl, by simp⟩
  | cons c t ih =>
    obtain ⟨piece', others', ht⟩ := splitOn_ne_nil sep t
    obtain ⟨hjoin, hmem⟩ := ih ht
    by_cases hc : c = sep
    · simp only [splitOn, hc, if_true, ht, List.cons.injEq] at h
      obtain ⟨rfl, rfl⟩ := h
      refine ⟨by simpa [hc] using hjoin, ?_⟩
      intro q hq
      rcases List.mem_cons.mp hq with rfl | hq
      · simp
      · exact hmem q hq
    · simp only [splitOn, hc, if_false, ht, List.cons.injEq] at h
      obtain ⟨rfl, rfl⟩ := h
      refine ⟨by simpa using hjoin, ?_⟩
      intro q hq
      rcases List.mem_cons.mp hq with rfl | hq
      · simp only [List.mem_cons, not_or]
        exact ⟨Ne.symm hc, hmem _ List.mem_cons_self⟩
      · exact hmem q (List.mem_cons_of_mem _ hq)

theorem join_splitOn (t : Text) : join [sep] (splitOn sep t) = t := by
  obtain ⟨piece, others, h⟩ := splitOn_ne_nil sep t
  rw [h, join, intercalate_cons]
  exact (splitOn_pieces h).1.symm

theorem not_mem_of_mem_splitOn {t q : Text} (hq : q ∈ splitOn sep t) : sep ∉ q := by
  obtain ⟨piece, others, h⟩ := splitOn_ne_nil sep t
  exact (splitOn_pieces h).2 q (h ▸ hq)

/-- Lines without the separator come back from the text that joins them. -/
theorem splitOn_join {ls : List Text} (hne : ls ≠ []) (h : ∀ l ∈ ls, sep ∉ l) : splitOn sep (join [sep] ls) = ls := by
  induction ls with
  | nil => exact absurd rfl hne
  | cons l ls ih =>
    have hl : splitOn sep l = [l] := by
      have := splitOn_append (t := []) (h l List.mem_cons_self) rfl
      rwa [List.append_nil] at this
    cases ls with
    | nil => rwa [join, List.intercalate_singleton]
    | cons l' ls =>
      have hrest := ih (by simp) fun x hx => h x (List.mem_cons_of_mem _ hx)
      rw [join] at hrest
      rw [join, List.intercalate_cons_cons, List.append_assoc, List.singleton_append, splitOn_append_sep, hl, hrest]
      rfl

theorem mem_of_mem_splitOn {t q : Text} (hq : q ∈ splitOn sep t) {c : Char} (hc : c ∈ q) : c ∈ t := by
  obtain ⟨piece, others, h⟩ := splitOn_ne_nil sep t
  rw [h] at hq
  rw [(splitOn_pieces h).1]
  rcases List.mem_cons.mp hq with rfl | hq
  · exact List.mem_append_left _ hc
  · exact List.mem_append_right _ (List.mem_flatMap.mpr ⟨q, hq, List.mem_cons_of_mem _ hc⟩)

/-- The last piece of a text goes on to its end. -/
theorem getLast?_splitOn_append {sep : Char} {v : Text} (hv : sep ∉ v) (u : Text) :
    ∃ w, (splitOn sep (u ++ v)).getLast? = some (w ++ v) := by
  induction u with
  | nil =>
    have := splitOn_append (t := []) hv rfl
    rw [List.append_nil] at this
    exact ⟨[], by rw [List.nil_append, this]; simp⟩
  | cons c u ih =>
    obtain ⟨w, hw⟩ := ih
    obtain ⟨piece, others, h⟩ := splitOn_ne_nil sep (u ++ v)
    rw [h] at hw
    by_cases hc : c = sep
    · exact ⟨w, by rw [List.cons_append, splitOn, if_pos hc, h, List.getLast?_cons_cons, hw]⟩
    · cases others with
      | nil =>
        refine ⟨c :: w, ?_⟩
        simp only [List.getLast?_singleton, Option.some.injEq] at hw
        simp [splitOn, hc, h, hw]
      | cons q others =>
        refine ⟨w, ?_⟩
        rw [List.getLast?_cons_cons] at hw
        simp only [List.cons_append, splitOn, if_neg hc, h, List.getLast?_cons_cons, hw]

end TypeSplit.Text

namespace TypeSplit.Source

open TypeSplit.Text (isBlank splitOn)

/-! ## Lines -/

/-- The text is empty or ends with a newline. -/
def EndsWithNewline (a : Text) : Prop := a = [] ∨ ∃ a', a = a' ++ ['\n']

/-- The text is empty or begins with a newline. -/
def BeginsWithNewline (b : Text) : Prop := b = [] ∨ ∃ b', b = '\n' :: b'

theorem dropReturn_of_not_mem {l : Text} (h : '\r' ∉ l) : dropReturn l = l := by
  have hlast : l.getLast? ≠ some '\r' := fun hlast => h (List.mem_of_getLast? hlast)
  rw [dropReturn, if_neg hlast]

theorem mem_of_mem_rawLines {t l : Text} (hl : l ∈ rawLines t) {c : Char} (hc : c ∈ l) : c ∈ t := by
  have hl : l ∈ splitOn '\n' t := by
    simp only [rawLines] at hl
    split at hl
    · exact List.mem_of_mem_dropLast hl
    · exact hl
  exact Text.mem_of_mem_splitOn hl hc

theorem lines_eq_rawLines {t : Text} (h : '\r' ∉ t) : lines t = rawLines t := by
  have hsame : ∀ l ∈ rawLines t, dropReturn l = l := fun l hl =>
    dropReturn_of_not_mem fun hmem => h (mem_of_mem_rawLines hl hmem)
  rw [lines, List.map_congr_left hsame, List.map_id']

theorem rawLines_newline (a : Text) : rawLines (a ++ ['\n']) = splitOn '\n' a := by
  have hpieces : splitOn '\n' (a ++ ['\n']) = splitOn '\n' a ++ [[]] := Text.splitOn_append_sep a []
  simp only [rawLines, hpieces, List.getLast?_concat, if_true, List.dropLast_concat]

/-- The lines of a text that ends with a newline come first. -/
theorem lines_append {t : Text} (ht : EndsWithNewline t) (s : Text) : lines (t ++ s) = lines t ++ lines s := by
  rcases ht with rfl | ⟨a, rfl⟩
  · rfl
  · obtain ⟨piece, others, hs⟩ := Text.splitOn_ne_nil '\n' s
    have hne : splitOn '\n' s ≠ [] := by rw [hs]; simp
    have hraw : rawLines (a ++ ['\n'] ++ s) = splitOn '\n' a ++ rawLines s := by
      simp only [rawLines, List.append_assoc, List.singleton_append, Text.splitOn_append_sep,
        List.getLast?_append_of_ne_nil _ hne, List.dropLast_append_of_ne_nil hne]
      split <;> rfl
    rw [lines, hraw, List.map_append, lines, rawLines_newline, lines]

theorem length_lines {t : Text} (ht : EndsWithNewline t) : (lines t).length = t.count '\n' := by
  rcases ht with rfl | ⟨a, rfl⟩
  · rfl
  · rw [lines, List.length_map, rawLines_newline, Text.length_splitOn, List.count_append]
    rfl

theorem pieces_behind {a t : Text} (ha : EndsWithNewline a) :
    ∃ front, splitOn '\n' (a ++ t) = front ++ splitOn '\n' t ∧ front.length = a.count '\n' := by
  rcases ha with rfl | ⟨a', rfl⟩
  · exact ⟨[], rfl, rfl⟩
  · refine ⟨splitOn '\n' a', ?_, ?_⟩
    · rw [List.append_assoc, List.singleton_append, Text.splitOn_append_sep]
    · rw [Text.length_splitOn, List.count_append]
      rfl

theorem rawLines_before {x b : Text} (front : List Text) {t : Text} (hb : BeginsWithNewline b)
    (hx : (splitOn '\n' x).getLast? ≠ some []) (ht : splitOn '\n' t = front ++ splitOn '\n' (x ++ b)) :
    ∃ back, rawLines t = front ++ (splitOn '\n' x ++ back) := by
  obtain ⟨piece, others, hpieces⟩ := Text.splitOn_ne_nil '\n' x
  simp only [rawLines]
  rcases hb with rfl | ⟨b', rfl⟩
  · rw [List.append_nil] at ht
    refine ⟨[], ?_⟩
    have hlast : (splitOn '\n' t).getLast? ≠ some [] := by
      rw [ht, List.getLast?_append_of_ne_nil _ (by rw [hpieces]; simp)]
      exact hx
    rw [if_neg hlast, ht, List.append_nil]
  · rw [Text.splitOn_append_sep] at ht
    obtain ⟨piece', others', hback⟩ := Text.splitOn_ne_nil '\n' b'
    split
    · refine ⟨(splitOn '\n' b').dropLast, ?_⟩
      rw [ht, List.dropLast_append_of_ne_nil (by rw [hpieces]; simp),
        List.dropLast_append_of_ne_nil (by rw [hback]; simp)]
    · exact ⟨splitOn '\n' b', ht⟩

/-- The whole lines that a part of a text is made of. -/
theorem lines_between {a x b : Text} (ha : EndsWithNewline a) (hb : BeginsWithNewline b)
    (hx : (splitOn '\n' x).getLast? ≠ some []) :
    ((lines (a ++ (x ++ b))).take (a.count '\n' + x.count '\n' + 1)).drop (a.count '\n') =
      (splitOn '\n' x).map dropReturn := by
  obtain ⟨front, hfront, hlen⟩ := pieces_behind (t := x ++ b) ha
  obtain ⟨back, hback⟩ := rawLines_before front hb hx hfront
  have hx := Text.length_splitOn '\n' x
  rw [lines, ← List.map_take, ← List.map_drop, hback, ← hlen, Nat.add_assoc, ← hx, ← List.append_assoc,
    List.take_append_of_le_length (by simp), List.take_of_length_le (by simp), List.drop_left]

theorem afterNewline?_eq {a t : Text} (ha : EndsWithNewline a) (at_ : Nat) :
    afterNewline? (a.count '\n') at_ (a ++ t) = some (at_ + a.length) := by
  rcases ha with rfl | ⟨a', rfl⟩
  · simp [afterNewline?]
  · induction a' generalizing at_ with
    | nil => simp [afterNewline?]
    | cons c a ih =>
      have hcount : (c :: a ++ ['\n']).count '\n' = (if c = '\n' then a.count '\n' + 1 else a.count '\n') + 1 := by
        by_cases hc : c = '\n' <;> simp [hc]
      have hrest := ih (at_ + 1)
      have hcount' : (a ++ ['\n']).count '\n' = a.count '\n' + 1 := by simp
      rw [hcount'] at hrest
      rw [hcount, List.cons_append, List.cons_append]
      simp only [afterNewline?]
      by_cases hc : c = '\n'
      · simp only [hc, if_true, hrest, List.length_cons]
        congr 1
        omega
      · simp only [hc, if_false, hrest, List.length_cons]
        congr 1
        omega

/-- The line behind a text that ends with a newline starts where the text ends. -/
theorem lineStart?_behind {a : Text} (ha : EndsWithNewline a) (t : Text) {n : Nat} (hn : n = a.count '\n' + 1) :
    lineStart? (a ++ t) (n : Int) = some a.length := by
  have hline : ((n : Int) - 1).toNat = a.count '\n' := by omega
  rw [lineStart?, hline, afterNewline?_eq ha, Nat.zero_add]

/-! ## Parts on lines of their own -/

/-- Nothing but blanks stands behind the last newline of the text. -/
def Fresh (a : Text) : Prop := ∀ c ∈ a.reverse.takeWhile (· ≠ '\n'), isBlank c = true

/-- Nothing but blanks stands before the first newline of the text. -/
def Spent (z : Text) : Prop := ∀ c ∈ z.takeWhile (· ≠ '\n'), isBlank c = true

/-- Nothing but blanks stands before the offset on its line. -/
def StartsLine (t : Text) (p : Nat) : Prop := Fresh (t.take p)

def EndsLine (t : Text) (p : Nat) : Prop := Spent (t.drop p)

instance (a : Text) : Decidable (Fresh a) :=
  decidable_of_iff ((a.reverse.takeWhile (· ≠ '\n')).all isBlank = true) List.all_eq_true

instance (z : Text) : Decidable (Spent z) :=
  decidable_of_iff ((z.takeWhile (· ≠ '\n')).all isBlank = true) List.all_eq_true

instance (t : Text) (p : Nat) : Decidable (StartsLine t p) := inferInstanceAs (Decidable (Fresh (t.take p)))
instance (t : Text) (p : Nat) : Decidable (EndsLine t p) := inferInstanceAs (Decidable (Spent (t.drop p)))

/-- The part `m` of a text, with `a` before it and `z` behind it, stands on lines of its own. -/
structure Stands (t a m z : Text) : Prop where
  text_eq : t = a ++ (m ++ z)
  fresh : Fresh a
  spent : Spent z

/-- A part of the beginning of a text, with lines of its own in the text. -/
theorem stands_of_take {t a m z : Text} {stop : Nat} (htake : t.take stop = a ++ (m ++ z)) (hstart : StartsLine t a.length)
    (hend : EndsLine t (a.length + m.length)) : Stands t a m (z ++ t.drop stop) := by
  have htext : t = a ++ (m ++ (z ++ t.drop stop)) := by
    conv => lhs; rw [← List.take_append_drop stop t, htake]
    simp
  have hbefore : t.take a.length = a := by
    rw [htext]
    exact List.take_left
  have hbehind : t.drop (a.length + m.length) = z ++ t.drop stop := by
    conv => lhs; rw [htext]
    rw [← List.append_assoc, ← List.length_append, List.drop_left]
  rw [StartsLine, hbefore] at hstart
  rw [EndsLine, hbehind] at hend
  exact ⟨htext, hstart, hend⟩

theorem newline_not_mem_takeWhile (t : Text) : '\n' ∉ t.takeWhile (· ≠ '\n') :=
  fun h => by simpa using List.mem_takeWhile_imp h

theorem beginsWithNewline_dropWhile (t : Text) : BeginsWithNewline (t.dropWhile (· ≠ '\n')) := by
  cases h : t.dropWhile (· ≠ '\n') with
  | nil => exact .inl rfl
  | cons x r =>
    have := Text.stopsAt_dropWhile (p := (· ≠ '\n')) t
    rw [h, Text.stopsAt_cons] at this
    exact .inr ⟨r, by simpa using this⟩

theorem Spent.split {z : Text} (h : Spent z) :
    ∃ ws b, z = ws ++ b ∧ (∀ c ∈ ws, isBlank c = true) ∧ '\n' ∉ ws ∧ BeginsWithNewline b :=
  ⟨_, _, List.takeWhile_append_dropWhile.symm, h, newline_not_mem_takeWhile _, beginsWithNewline_dropWhile _⟩

theorem Fresh.split {a : Text} (h : Fresh a) :
    ∃ b ws, a = b ++ ws ∧ EndsWithNewline b ∧ (∀ c ∈ ws, isBlank c = true) ∧ '\n' ∉ ws := by
  obtain ⟨ws, b, heq, hws, hn, hb⟩ := Spent.split (z := a.reverse) h
  refine ⟨b.reverse, ws.reverse, ?_, ?_, ?_, by simpa using hn⟩
  · rw [← List.reverse_append, ← heq, List.reverse_reverse]
  · rcases hb with rfl | ⟨b', rfl⟩
    · exact .inl rfl
    · exact .inr ⟨b'.reverse, by simp⟩
  · intro c hc
    exact hws c (List.mem_reverse.mp hc)

/-- Blanks with a newline among them spend the line before them. -/
theorem spent_blank {g : Text} (hg : ∀ c ∈ g, isBlank c = true) (hn : '\n' ∈ g) (z : Text) : Spent (g ++ z) := by
  intro c hc
  induction g with
  | nil => cases hn
  | cons x g ih =>
    rw [List.cons_append, List.takeWhile_cons] at hc
    split at hc
    · rename_i hx
      rcases List.mem_cons.mp hc with rfl | hc
      · exact hg _ List.mem_cons_self
      · refine ih (fun y hy => hg y (List.mem_cons_of_mem _ hy)) ?_ hc
        rcases List.mem_cons.mp hn with rfl | hn
        · simp at hx
        · exact hn
    · cases hc

/-- Behind blanks with a newline among them a line is fresh. -/
theorem fresh_blank {g : Text} (hg : ∀ c ∈ g, isBlank c = true) (hn : '\n' ∈ g) (a : Text) : Fresh (a ++ g) := by
  have := spent_blank (g := g.reverse) (by simpa using hg) (by simpa using hn) a.reverse
  rwa [← List.reverse_append] at this

/-- The part `m` of a text, with nothing but the blanks `ws` and `ws'` around it on its lines. -/
structure OwnLines (t a ws m ws' b : Text) : Prop where
  text_eq : t = a ++ (ws ++ (m ++ ws') ++ b)
  before : EndsWithNewline a
  blank_before : ∀ c ∈ ws, isBlank c = true
  line_before : '\n' ∉ ws
  blank_behind : ∀ c ∈ ws', isBlank c = true
  line_behind : '\n' ∉ ws'
  behind : BeginsWithNewline b

theorem Stands.ownLines {t a m z : Text} (h : Stands t a m z) :
    ∃ b ws ws' b', OwnLines t b ws m ws' b' ∧ a = b ++ ws := by
  obtain ⟨b, ws, ha, hb, hws, hnws⟩ := h.fresh.split
  obtain ⟨ws', b', hz, hws', hnws', hb'⟩ := h.spent.split
  refine ⟨b, ws, ws', b', ⟨?_, hb, hws, hnws, hws', hnws', hb'⟩, ha⟩
  rw [h.text_eq, ha, hz]
  simp

namespace OwnLines

variable {t a ws m ws' b : Text}

theorem take_start (h : OwnLines t a ws m ws' b) : t.take (a.length + ws.length) = a ++ ws := by
  rw [h.text_eq, ← List.length_append, List.append_assoc, ← List.append_assoc, List.take_left]

theorem lineOf_start (h : OwnLines t a ws m ws' b) : lineOf t ((a.length + ws.length : Nat) : Int) = a.count '\n' + 1 := by
  rw [lineOf, Int.toNat_natCast, h.take_start, List.count_append, List.count_eq_zero.mpr h.line_before, Nat.add_zero]

theorem lineStart?_start (h : OwnLines t a ws m ws' b) : lineStart? t ((a.count '\n' + 1 : Nat) : Int) = some a.length := by
  have hstart := lineStart?_behind h.before (ws ++ (m ++ ws') ++ b) rfl
  rwa [← h.text_eq] at hstart

/-- The last line of a part that does not end with a newline. -/
theorem lineOf_last {m : Text} {x : Char} (hx : x ≠ '\n') (h : OwnLines t a ws (m ++ [x]) ws' b) {c : Nat}
    (hc : c = a.length + ws.length + (m ++ [x]).length) :
    lineOf t ((c : Int) - 1) = a.count '\n' + (ws ++ (m ++ [x] ++ ws')).count '\n' + 1 := by
  have htake : t.take (c - 1) = a ++ (ws ++ m) := by
    have hlen : c - 1 = (a ++ (ws ++ m)).length := by simp [hc]; omega
    have : t = a ++ (ws ++ m) ++ (x :: (ws' ++ b)) := by rw [h.text_eq]; simp
    rw [hlen, this, List.take_left]
  have htoNat : ((c : Int) - 1).toNat = c - 1 := by omega
  simp only [lineOf, htoNat, htake, List.count_append, List.count_eq_zero.mpr h.line_before,
    List.count_eq_zero.mpr h.line_behind, List.count_singleton, beq_iff_eq, if_neg hx, Nat.zero_add, Nat.add_zero]

/-- The whole lines of a part are the part and the blanks around it. -/
theorem lines_eq {m : Text} {x : Char} (hx : x ≠ '\n') (h : OwnLines t a ws (m ++ [x]) ws' b) (hr : '\r' ∉ t) {c : Nat}
    (hc : c = a.length + ws.length + (m ++ [x]).length) :
    Text.join ['\n'] (((lines t).take (lineOf t ((c : Int) - 1))).drop (lineOf t ((a.length + ws.length : Nat) : Int) - 1)) =
      ws ++ (m ++ [x] ++ ws') := by
  have hlast : (splitOn '\n' (ws ++ (m ++ [x] ++ ws'))).getLast? ≠ some [] := by
    have hv : '\n' ∉ x :: ws' := by
      simp only [List.mem_cons, not_or]
      exact ⟨Ne.symm hx, h.line_behind⟩
    obtain ⟨w, hw⟩ := Text.getLast?_splitOn_append hv (ws ++ m)
    have : ws ++ m ++ x :: ws' = ws ++ (m ++ [x] ++ ws') := by simp
    rw [← this, hw]
    simp
  have hlines := lines_between h.before h.behind hlast
  rw [← h.text_eq] at hlines
  have hpieces : (splitOn '\n' (ws ++ (m ++ [x] ++ ws'))).map dropReturn = splitOn '\n' (ws ++ (m ++ [x] ++ ws')) := by
    have hsame : ∀ l ∈ splitOn '\n' (ws ++ (m ++ [x] ++ ws')), dropReturn l = l := by
      intro l hl
      refine dropReturn_of_not_mem fun hmem => hr ?_
      rw [h.text_eq]
      exact List.mem_append_right _ (List.mem_append_left _ (Text.mem_of_mem_splitOn hl hmem))
    rw [List.map_congr_left hsame, List.map_id']
  rw [h.lineOf_last hx hc, h.lineOf_start, Nat.add_sub_cancel, hlines, hpieces, Text.join_splitOn]

end OwnLines

end TypeSplit.Source

namespace TypeSplit.Extraction

open TypeSplit.Declaration (MemberKind MemberSite Word)
open TypeSplit.Source (OwnLines Stands lineOf lineStart?)
open TypeSplit.Text (hasToken isBlank)

theorem word_public : Word Declaration.Visibility.pub.keyword := by decide

/-- The first brace of a text, from a place before it on. -/
theorem find?_brace {ws front rest : Text} (h : '{' ∉ front) :
    Text.find? (ws ++ (front ++ '{' :: rest)) '{' ws.length (ws ++ (front ++ '{' :: rest)).length =
      some (ws.length + front.length) := by
  refine Text.find?_eq_some_iff.mpr ⟨by omega, by simp, ?_, ?_⟩
  · rw [← List.append_assoc, ← List.length_append, List.getElem?_append_right (by omega)]
    simp
  · intro i h1 h2 hi
    rw [List.getElem?_append_right h1, List.getElem?_append_left (by omega)] at hi
    exact h (List.mem_of_getElem? hi)

/-- The signature of a member ends before the first brace of its text from the column of its site on. -/
theorem memberAt_signature {t full : Text} {site : MemberSite} {opening close column : Nat}
    (hfull : (memberAt (.ofText t) site opening close).fullText = full)
    (hcolumn : site.offset - ((lineStart? t (lineOf t site.offset)).getD 0 : Nat) = (column : Int)) :
    (memberAt (.ofText t) site opening close).signature =
      Text.strip (full.take ((Text.find? full '{' column full.length).getD full.length)) := by
  have hmax : (column : Int) = max (site.offset - ((lineStart? t (lineOf t site.offset)).getD 0 : Nat)) 0 := by omega
  rw [hmax, ← hfull]
  rfl

theorem memberAt_exposed (content : Content) (site : MemberSite) (opening close : Nat) :
    (memberAt content site opening close).exposed =
      hasToken Declaration.Visibility.pub.keyword (memberAt content site opening close).signature := rfl

section

variable {t a ws ws' b front inner name : Text} {kind : MemberKind} {p c : Nat}

theorem memberAt_fullText (hr : '\r' ∉ t) (h : OwnLines t a ws (front ++ '{' :: (inner ++ ['}'])) ws' b)
    (hp : p = a.length + ws.length) (hc : c = p + (front ++ '{' :: (inner ++ ['}'])).length) :
    (memberAt (.ofText t) ⟨p, name, kind⟩ (p + front.length) c).fullText =
      ws ++ (front ++ '{' :: (inner ++ ['}']) ++ ws') := by
  have hm : front ++ '{' :: (inner ++ ['}']) = front ++ '{' :: inner ++ ['}'] := by simp
  rw [hm] at h hc ⊢
  rw [← h.lines_eq (by decide) hr (hp ▸ hc), ← hp]
  rfl

theorem memberAt_ownLines (hr : '\r' ∉ t) (hfront : '{' ∉ front)
    (h : OwnLines t a ws (front ++ '{' :: (inner ++ ['}'])) ws' b)
    (hp : p = a.length + ws.length) (hc : c = p + (front ++ '{' :: (inner ++ ['}'])).length) :
    (memberAt (.ofText t) ⟨p, name, kind⟩ (p + front.length) c).exposed =
      hasToken Declaration.Visibility.pub.keyword front := by
  have hsplit : ws ++ (front ++ '{' :: (inner ++ ['}']) ++ ws') = ws ++ (front ++ '{' :: (inner ++ ['}'] ++ ws')) := by simp
  have hcolumn : (p : Int) - ((lineStart? t (lineOf t (p : Int))).getD 0 : Nat) = (ws.length : Int) := by
    rw [hp, h.lineOf_start, h.lineStart?_start, Option.getD_some]
    omega
  rw [memberAt_exposed, memberAt_signature ((memberAt_fullText hr h hp hc).trans hsplit) hcolumn, find?_brace hfront,
    Option.getD_some, ← List.append_assoc, ← List.length_append, List.take_left, Text.hasToken_strip word_public,
    Text.hasToken_blanks_left word_public h.blank_before]

end

/-- A member on lines of its own: its visibility, and its whole text up to the blanks around it. -/
theorem memberAt_stands {t a z front inner : Text} (name : Text) (kind : MemberKind) {p c : Nat} (hr : '\r' ∉ t)
    (hfront : '{' ∉ front) (h : Stands t a (front ++ '{' :: (inner ++ ['}'])) z) (hp : p = a.length)
    (hc : c = p + (front ++ '{' :: (inner ++ ['}'])).length) :
    (memberAt (.ofText t) ⟨p, name, kind⟩ (p + front.length) c).exposed =
        hasToken Declaration.Visibility.pub.keyword front ∧
      ∃ ws ws', (memberAt (.ofText t) ⟨p, name, kind⟩ (p + front.length) c).fullText =
          ws ++ (front ++ '{' :: (inner ++ ['}']) ++ ws') ∧
        (∀ x ∈ ws, isBlank x = true) ∧ '\n' ∉ ws ∧ (∀ x ∈ ws', isBlank x = true) ∧
        '\r' ∉ ws ++ (front ++ '{' :: (inner ++ ['}']) ++ ws') := by
  obtain ⟨b, ws, ws', b', hlines, rfl⟩ := h.ownLines
  rw [List.length_append] at hp
  refine ⟨memberAt_ownLines hr hfront hlines hp hc, ws, ws', memberAt_fullText hr hlines hp hc,
    hlines.blank_before, hlines.line_before, hlines.blank_behind, fun hm => hr ?_⟩
  rw [hlines.text_eq]
  exact List.mem_append_right _ (List.mem_append_left _ hm)

end TypeSplit.Extraction
