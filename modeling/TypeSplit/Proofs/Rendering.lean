/-
  TypeSplit.Proofs.Rendering — the text of a rendered part.

  Indenting a member changes only its layout: the member stands behind one unit, alike to what it was
  (`indent_alike`). The lines of the members of a group are therefore blocks of text with blanks between them, and
  every block stands on lines of its own (`memberLines_spread`).
-/

import TypeSplit.Encoding.Basic
import TypeSplit.Proofs.Lines
import TypeSplit.Splitting.Document

namespace TypeSplit.Encoding

theorem ofLines_append (a b : List Text) : ofLines (a ++ b) = ofLines a ++ ofLines b := by
  simp [ofLines]

theorem ofLines_cons (a : Text) (b : List Text) : ofLines (a :: b) = a ++ '\n' :: ofLines b := by
  simp [ofLines]

/-- Lines that each end with a newline, read as lines that each begin with one. -/
theorem ofLines_eq (a : Text) (b : List Text) : ofLines (a :: b) = a ++ b.flatMap ('\n' :: ·) ++ ['\n'] := by
  induction b generalizing a with
  | nil => simp [ofLines]
  | cons x b ih =>
    rw [ofLines_cons, ih]
    simp

end TypeSplit.Encoding

namespace TypeSplit.Splitting

open TypeSplit.Declaration (Blanks)
open TypeSplit.Text (Alike isBlank)

variable {unit : Text}

/-! ## Indentation -/

theorem stripEndOf_eq {c : Char} {t : Text} (h : c ∉ t) : Text.stripEndOf c t = t := by
  rw [Text.stripEndOf]
  cases hr : t.reverse with
  | nil => simpa using hr.symm
  | cons x r =>
    have hx : x ≠ c := fun hx => h (List.mem_reverse.mp (hr ▸ hx ▸ List.mem_cons_self))
    rw [List.dropWhile_cons_of_neg (by simpa using hx), ← hr, List.reverse_reverse]

/-- The blanks before a text and the carriage returns behind it are left out. -/
theorem indentLine_text {g core : Text} (hg : ∀ c ∈ g, isBlank c = true) (hne : core ≠ [])
    (hcore : Text.StopsAt isBlank core) : indentLine unit (g ++ core) = unit ++ Text.stripEndOf '\r' core := by
  have hstart : Text.stripStart (g ++ core) = core := Text.dropWhile_append hg hcore
  have hstrip : (Text.strip (g ++ core)).isEmpty = false := by
    obtain ⟨g1, g2, hs, h1, h2⟩ := Text.strip_parts (g ++ core)
    cases hempty : Text.strip (g ++ core) with
    | cons x r => rfl
    | nil =>
      obtain ⟨x, r, rfl⟩ := List.exists_cons_of_ne_nil hne
      have hx : x ∈ g1 ++ g2 := by
        rw [hempty, List.nil_append] at hs
        rw [← hs]
        simp
      have : isBlank x = true := by
        rcases List.mem_append.mp hx with hx | hx
        · exact h1 x hx
        · exact h2 x hx
      rw [Text.stopsAt_cons.mp hcore] at this
      cases this
  rw [indentLine, hstrip, hstart]
  rfl

theorem indentLine_eq {g core : Text} (hg : ∀ c ∈ g, isBlank c = true) (hne : core ≠ [])
    (hcore : Text.StopsAt isBlank core) (hr : '\r' ∉ core) : indentLine unit (g ++ core) = unit ++ core := by
  rw [indentLine_text hg hne hcore, stripEndOf_eq hr]

theorem indentLine_blank {l : Text} (h : ∀ c ∈ l, isBlank c = true) : indentLine unit l = [] := by
  have : l.dropWhile isBlank = [] := List.dropWhile_eq_nil_iff.mpr h
  simp [indentLine, Text.strip, Text.stripWhile, this]

/-- A further line of a member keeps its characters; its indentation becomes one unit, or nothing. -/
theorem alike_indentLine (hu : ∀ c ∈ unit, isBlank c = true) {l : Text} (hr : '\r' ∉ l) :
    Alike ('\n' :: l) ('\n' :: indentLine unit l) := by
  have hblanks : ∀ {g : Text}, (∀ c ∈ g, isBlank c = true) → Blanks ('\n' :: g) := by
    intro g hg
    refine ⟨by simp, ?_⟩
    intro c hc
    rcases List.mem_cons.mp hc with rfl | hc
    · decide
    · exact hg c hc
  by_cases hcore : l.dropWhile isBlank = []
  · have hall := List.dropWhile_eq_nil_iff.mp hcore
    rw [indentLine_blank hall]
    exact Alike.of_blanks (hblanks hall) (hblanks (by simp)) (by simp)
  · have hl : l = l.takeWhile isBlank ++ l.dropWhile isBlank := List.takeWhile_append_dropWhile.symm
    have hg : ∀ c ∈ l.takeWhile isBlank, isBlank c = true := fun c hc => List.mem_takeWhile_imp hc
    have hr : '\r' ∉ l.dropWhile isBlank := fun hm => hr ((List.dropWhile_suffix _).subset hm)
    have hindent : indentLine unit l = unit ++ l.dropWhile isBlank := by
      conv => lhs; rw [hl]
      exact indentLine_eq hg hcore (Text.stopsAt_dropWhile l) hr
    rw [hindent]
    conv => lhs; rw [hl]
    exact Alike.gap (hblanks hg) (hblanks hu) (by simp) (.refl _)

theorem alike_indentLines (hu : ∀ c ∈ unit, isBlank c = true) {ls : List Text} (hr : ∀ l ∈ ls, '\r' ∉ l) :
    Alike (ls.flatMap ('\n' :: ·)) ((ls.map (indentLine unit)).flatMap ('\n' :: ·)) := by
  induction ls with
  | nil => exact .nil
  | cons l ls ih =>
    rw [List.flatMap_cons, List.map_cons, List.flatMap_cons]
    exact (alike_indentLine hu (hr l List.mem_cons_self)).append (ih fun x hx => hr x (List.mem_cons_of_mem _ hx))

/-- Whole lines with the member `m` and nothing else but blanks. -/
structure MemberLines (m f : Text) : Prop where
  around : ∃ ws ws', f = ws ++ (m ++ ws') ∧ (∀ c ∈ ws, isBlank c = true) ∧ '\n' ∉ ws ∧ ∀ c ∈ ws', isBlank c = true
  begins : Declaration.BeginsWord m
  closes : ∃ m', m = m' ++ ['}']
  no_return : '\r' ∉ f

/-- The first line of an indented text keeps what stands behind its blanks, and the other lines are indented. -/
theorem ofLines_indent {ws r piece : Text} {x : Char} {others : List Text} (hws : ∀ c ∈ ws, isBlank c = true)
    (hline : '\n' ∉ ws) (hx : isBlank x = false) (hpieces : Text.splitOn '\n' r = piece :: others) (hr : '\r' ∉ piece) :
    Encoding.ofLines (indent unit (ws ++ x :: r)) =
      unit ++ (x :: (piece ++ (others.map (indentLine unit)).flatMap ('\n' :: ·)) ++ ['\n']) := by
  have hxn : '\n' ∉ [x] := by
    intro hn
    rw [← List.mem_singleton.mp hn] at hx
    exact absurd hx (by decide)
  have hfirst : indentLine unit (ws ++ ([x] ++ piece)) = unit ++ ([x] ++ piece) := by
    refine indentLine_eq hws (by simp) (by simpa using hx) ?_
    intro hm
    rcases List.mem_cons.mp hm with rfl | hm
    · exact absurd hx (by decide)
    · exact hr hm
  have hindent : indent unit (ws ++ x :: r) = (unit ++ ([x] ++ piece)) :: others.map (indentLine unit) := by
    rw [indent, show x :: r = [x] ++ r from rfl, Text.splitOn_append hline (Text.splitOn_append hxn hpieces), List.map_cons,
      hfirst]
  rw [hindent, Encoding.ofLines_eq]
  simp

theorem indent_alike (hu : ∀ c ∈ unit, isBlank c = true) {m f : Text} (h : MemberLines m f) :
    ∃ m' ws, Encoding.ofLines (indent unit f) = unit ++ (m' ++ (ws ++ ['\n'])) ∧ Alike m m' ∧
      ∀ c ∈ ws, isBlank c = true := by
  obtain ⟨ws, ws', rfl, hws, hline, hws'⟩ := h.around
  obtain ⟨x, r, rfl, hx⟩ := h.begins
  obtain ⟨m0, hm0⟩ := h.closes
  have hxb := Text.isBlank_eq_false_of_isWord hx
  obtain ⟨piece, others, hpieces⟩ := Text.splitOn_ne_nil '\n' (r ++ ws')
  obtain ⟨htext, -⟩ := Text.splitOn_pieces hpieces
  have hr : ∀ q ∈ piece :: others, '\r' ∉ q := by
    intro q hq hm
    have : '\r' ∈ r ++ ws' := Text.mem_of_mem_splitOn (hpieces ▸ hq) hm
    exact h.no_return (List.mem_append_right _ (List.mem_cons_of_mem _ this))
  have hlines : Encoding.ofLines (indent unit (ws ++ x :: (r ++ ws'))) = _ :=
    ofLines_indent hws hline hxb hpieces (hr piece List.mem_cons_self)
  have halike : Alike (m0 ++ '}' :: ws') (x :: (piece ++ (others.map (indentLine unit)).flatMap ('\n' :: ·))) := by
    have hm : m0 ++ '}' :: ws' = x :: (r ++ ws') := by
      rw [show m0 ++ '}' :: ws' = m0 ++ ['}'] ++ ws' by simp, ← hm0]
      rfl
    rw [hm, htext]
    have hothers : ∀ l ∈ others, '\r' ∉ l := fun l hl => hr l (List.mem_cons_of_mem _ hl)
    exact .char hxb ((Alike.refl piece).append (alike_indentLines hu hothers))
  -- The brace that closes the member cuts it from the blanks behind it.
  obtain ⟨m', ws'', heq, hm', hws''⟩ := halike.split (by decide)
  refine ⟨m' ++ ['}'], ws'', ?_, ?_, hws''.blank hws'⟩
  · rw [show ws ++ (x :: r ++ ws') = ws ++ x :: (r ++ ws') from rfl, hlines, heq]
    simp
  · rw [hm0]
    exact hm'.append (.refl _)

/-! ## The members of a part -/

theorem mem_indentLine {l : Text} {c : Char} (hc : c ∈ indentLine unit l) : c ∈ unit ∨ c ∈ l := by
  rw [indentLine] at hc
  split at hc
  · cases hc
  · rcases List.mem_append.mp hc with hc | hc
    · exact .inl hc
    · rw [Text.stripEndOf, List.mem_reverse] at hc
      have hc := List.mem_reverse.mp ((List.dropWhile_suffix _).subset hc)
      exact .inr ((List.dropWhile_suffix _).subset hc)

theorem mem_indent {f l : Text} (hl : l ∈ indent unit f) {c : Char} (hc : c ∈ l) : c ∈ unit ∨ c ∈ f := by
  obtain ⟨piece, hpiece, rfl⟩ := List.mem_map.mp hl
  exact (mem_indentLine hc).imp_right (Text.mem_of_mem_splitOn hpiece)

/-- The characters of the lines of members: newlines, the unit, and those of the members. -/
theorem mem_memberLines {fs : List Text} {c : Char} (h : c ∈ Encoding.ofLines (memberLines unit fs)) :
    c = '\n' ∨ c ∈ unit ∨ ∃ f ∈ fs, c ∈ f := by
  obtain ⟨l, hl, hc⟩ := List.mem_flatMap.mp h
  rcases List.mem_append.mp hc with hc | hc
  · refine .inr ?_
    have hline : l = [] ∨ ∃ f ∈ fs, l ∈ indent unit f := by
      cases fs with
      | nil => simp [memberLines] at hl
      | cons f fs =>
        rw [memberLines, List.map_cons, Text.intercalate_cons, List.mem_append, List.mem_flatMap] at hl
        rcases hl with hl | ⟨ls, hls, hl⟩
        · exact .inr ⟨f, List.mem_cons_self, hl⟩
        · obtain ⟨f', hf', rfl⟩ := List.mem_map.mp hls
          rcases List.mem_append.mp hl with hl | hl
          · exact .inl (List.mem_singleton.mp hl)
          · exact .inr ⟨f', List.mem_cons_of_mem _ hf', hl⟩
    rcases hline with rfl | ⟨f, hf, hl⟩
    · cases hc
    · exact (mem_indent hl hc).imp_right fun hm => ⟨f, hf, hm⟩
  · exact .inl (List.mem_singleton.mp hc)

/-- A text that was put somewhere, behind blanks with a newline among them. -/
structure Placed (α : Type) where
  /-- What the text comes from. -/
  origin : α
  gap : Text
  text : Text
  gap_blank : ∀ c ∈ gap, isBlank c = true
  gap_line : '\n' ∈ gap

def spread {α : Type} (bs : List (Placed α)) : Text := bs.flatMap fun b => b.gap ++ b.text

/-- The lines of the members are the members, each alike to what it was, with blanks around them. -/
theorem memberLines_spread (hu : ∀ c ∈ unit, isBlank c = true) {α : Type} {text full : α → Text} {xs : List α}
    (h : ∀ x ∈ xs, MemberLines (text x) (full x)) (lead : Text) (hl : ∀ c ∈ lead, isBlank c = true)
    (hn : '\n' ∈ lead) :
    ∃ (bs : List (Placed α)) (last : Text),
      lead ++ Encoding.ofLines (memberLines unit (xs.map full)) = spread bs ++ last ∧
      bs.map (·.origin) = xs ∧ (∀ b ∈ bs, Alike (text b.origin) b.text) ∧
      (∀ c ∈ last, isBlank c = true) ∧ '\n' ∈ last := by
  induction xs generalizing lead with
  | nil => exact ⟨[], lead, by simp [memberLines, spread, Encoding.ofLines], rfl, by simp, hl, hn⟩
  | cons x xs ih =>
    obtain ⟨m, ws, hlines, halike, hws⟩ := indent_alike hu (h x List.mem_cons_self)
    have hgap : ∀ c ∈ lead ++ unit, isBlank c = true := by
      intro c hc
      rcases List.mem_append.mp hc with hc | hc
      · exact hl c hc
      · exact hu c hc
    let b : Placed α := ⟨x, lead ++ unit, m, hgap, List.mem_append_left _ hn⟩
    have hend : ∀ k, ∀ c ∈ ws ++ List.replicate k '\n', isBlank c = true := by
      intro k c hc
      rcases List.mem_append.mp hc with hc | hc
      · exact hws c hc
      · rw [List.eq_of_mem_replicate hc]
        decide
    cases xs with
    | nil =>
      refine ⟨[b], ws ++ List.replicate 1 '\n', ?_, rfl, ?_, hend 1, by simp⟩
      · rw [List.map_singleton, memberLines, List.map_singleton, List.intercalate_singleton, hlines]
        simp [spread, b]
      · intro b' hb'
        rw [List.mem_singleton.mp hb']
        exact halike
    | cons y ys =>
      -- An empty line follows, and the rest is placed behind it.
      obtain ⟨bs, last, heq, horigin, hbs, hlast, hnl⟩ := ih (fun z hz => h z (List.mem_cons_of_mem _ hz)) _ (hend 2) (by simp)
      refine ⟨b :: bs, last, ?_, by rw [List.map_cons, horigin], ?_, hlast, hnl⟩
      · have hcons : memberLines unit ((x :: y :: ys).map full) =
            indent unit (full x) ++ [[]] ++ memberLines unit ((y :: ys).map full) := by
          simp only [memberLines, List.map_cons, List.intercalate_cons_cons]
        rw [hcons, Encoding.ofLines_append, Encoding.ofLines_append, hlines, spread, List.flatMap_cons,
          List.append_assoc _ _ last]
        rw [spread] at heq
        rw [← heq]
        simp [b, Encoding.ofLines]
      · intro b' hb'
        rcases List.mem_cons.mp hb' with rfl | hb'
        · exact halike
        · exact hbs b' hb'

/-- The text of a part: its preamble, its header line, and its members between two braces on lines of their own. -/
theorem ofLines_partLines (usings : List Text) (d : TypeDeclaration) (header : Text) (group : List Member) :
    Encoding.ofLines (partLines unit usings d header group) =
      Encoding.ofLines (preamble usings d) ++ (header ++ ['\n']) ++ ['{'] ++
        (['\n'] ++ Encoding.ofLines (memberLines unit (group.map (·.fullText))) ++ ['}', '\n']) := by
  simp [partLines, Encoding.ofLines]

theorem not_mem_partLines {usings : List Text} {d : TypeDeclaration} {header : Text} {group : List Member} {c : Char}
    (hc : c ∉ ['\n', '{', '}']) (hunit : c ∉ unit) (hheader : c ∉ header) (hpreamble : ∀ l ∈ preamble usings d, c ∉ l)
    (hgroup : ∀ m ∈ group, c ∉ m.fullText) : c ∉ Encoding.ofLines (partLines unit usings d header group) := by
  simp only [List.mem_cons, List.not_mem_nil, or_false, not_or] at hc
  have hlines : c ∉ Encoding.ofLines (preamble usings d) := by
    intro hm
    obtain ⟨l, hl, hm⟩ := List.mem_flatMap.mp hm
    rcases List.mem_append.mp hm with hm | hm
    · exact hpreamble l hl hm
    · exact hc.1 (List.mem_singleton.mp hm)
  have hmembers : c ∉ Encoding.ofLines (memberLines unit (group.map (·.fullText))) := by
    intro hm
    rcases mem_memberLines hm with hm | hm | ⟨f, hf, hm⟩
    · exact hc.1 hm
    · exact hunit hm
    · obtain ⟨m, hmem, rfl⟩ := List.mem_map.mp hf
      exact hgroup m hmem hm
  rw [ofLines_partLines]
  simp only [List.mem_append, List.mem_cons, List.not_mem_nil, or_false, not_or]
  exact ⟨⟨⟨hlines, hheader, hc.1⟩, hc.2.1⟩, ⟨hc.1, hmembers⟩, hc.2.2, hc.1⟩

end TypeSplit.Splitting
