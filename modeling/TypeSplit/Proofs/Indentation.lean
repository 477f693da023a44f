/-
  TypeSplit.Proofs.Indentation — what a part keeps of the lines of its members.

  A line is laid out anew: the blanks before it and the carriage returns behind it are left out, one unit is put in
  front, and a line of blanks becomes empty (`indentLine_cases`). What stands on the line is kept (`Indented`), so a
  second indentation has nothing left to do.
  - `indentLine_indented`: a line and its indented line have the same text.
  - `indent_join`: the lines of an indented text are indented to themselves.
  - `memberLines_laid`: the members of a part stand one after another, one empty line between neighbours.
  - `rendering_keeps_member_text`: between the braces of a part stand the lines of its members and nothing else.
-/

import Mathlib.Data.List.DropRight
import TypeSplit.Proofs.Overwriting
import TypeSplit.Proofs.PartialMark
import TypeSplit.Proofs.Rendering

namespace TypeSplit.Text

/-! ## The ends of a line -/

theorem stripEndOf_stripEndOf (c : Char) (t : Text) : stripEndOf c (stripEndOf c t) = stripEndOf c t := by
  rw [stripEndOf, stripEndOf, List.reverse_reverse, List.dropWhile_idempotent]

theorem stripEndOf_cons {c x : Char} (h : x ≠ c) (t : Text) : stripEndOf c (x :: t) = x :: stripEndOf c t := by
  have hx : [x].dropWhile (· == c) = [x] := List.dropWhile_cons_of_neg (by simpa using h)
  rw [stripEndOf, stripEndOf, List.reverse_cons, List.dropWhile_append, hx]
  split
  · rename_i hempty
    rw [List.isEmpty_iff.mp hempty]
    rfl
  · rw [List.reverse_append]
    rfl

theorem stripEndOf_append (c : Char) (t : Text) : ∃ r, t = stripEndOf c t ++ r ∧ ∀ x ∈ r, x = c := by
  refine ⟨(t.reverse.takeWhile (· == c)).reverse, ?_, ?_⟩
  · rw [stripEndOf, ← List.reverse_append, List.takeWhile_append_dropWhile, List.reverse_reverse]
  · intro x hx
    have hpart := List.mem_takeWhile_imp (List.mem_reverse.mp hx)
    exact beq_iff_eq.mp hpart

/-- Blanks around a text that begins with no blank are what is stripped of it. -/
theorem strip_around {g g' t : Text} {c : Char} (hg : ∀ x ∈ g, isBlank x = true) (hc : isBlank c = false)
    (hg' : ∀ x ∈ g', isBlank x = true) : strip (g ++ (c :: t ++ g')) = strip (c :: t) := by
  have hfront : (g ++ (c :: t ++ g')).dropWhile isBlank = c :: t ++ g' := dropWhile_append hg (stopsAt_cons.mpr hc)
  have hstay : (c :: t).dropWhile isBlank = c :: t := List.dropWhile_cons_of_neg (by simp [hc])
  rw [strip, stripWhile, hfront, List.reverse_append,
    List.dropWhile_append_of_pos fun x hx => hg' x (List.mem_reverse.mp hx), strip, stripWhile, hstay]

theorem strip_blank {g : Text} (hg : ∀ x ∈ g, isBlank x = true) : strip g = [] := by
  rw [strip, stripWhile, List.dropWhile_eq_nil_iff.mpr hg]
  rfl

end TypeSplit.Text

namespace TypeSplit.Splitting

open TypeSplit.Text (isBlank)

variable {unit : Text}

/-! ## One line -/

/-- A line of blanks becomes empty. Any other line loses the blanks before it and the carriage returns behind it. -/
theorem indentLine_cases (unit line : Text) :
    (∀ x ∈ line, isBlank x = true) ∧ indentLine unit line = [] ∨
    ∃ g c t r, line = g ++ (c :: t ++ r) ∧ (∀ x ∈ g, isBlank x = true) ∧ isBlank c = false ∧ (∀ x ∈ r, x = '\r') ∧
      Text.stripEndOf '\r' (c :: t) = c :: t ∧ indentLine unit line = unit ++ c :: t := by
  cases hcore : line.dropWhile isBlank with
  | nil =>
    have hblank := List.dropWhile_eq_nil_iff.mp hcore
    exact .inl ⟨hblank, indentLine_blank hblank⟩
  | cons c core =>
    have hstop : Text.StopsAt isBlank (c :: core) := hcore ▸ Text.stopsAt_dropWhile line
    have hc : isBlank c = false := Text.stopsAt_cons.mp hstop
    have hreturn : c ≠ '\r' := by
      intro h
      rw [h] at hc
      exact absurd hc (by decide)
    obtain ⟨r, hr, hreturns⟩ := Text.stripEndOf_append '\r' core
    have hline : line = line.takeWhile isBlank ++ c :: core := by rw [← hcore, List.takeWhile_append_dropWhile]
    refine .inr ⟨line.takeWhile isBlank, c, Text.stripEndOf '\r' core, r, ?_, fun x hx => List.mem_takeWhile_imp hx, hc,
      hreturns, ?_, ?_⟩
    · rw [List.cons_append, ← hr]
      exact hline
    · rw [Text.stripEndOf_cons hreturn, Text.stripEndOf_stripEndOf]
    · conv => lhs; rw [hline]
      rw [indentLine_text (fun x hx => List.mem_takeWhile_imp hx) (by simp) hstop, Text.stripEndOf_cons hreturn]

/-- A line of a member, and the line that a part has for it: the text is the same, and only the unit stands before it. -/
structure Indented (unit line line' : Text) : Prop where
  same_text : Text.strip line' = Text.strip line
  begins : line' = [] ∨ ∃ c t, line' = unit ++ c :: t ∧ isBlank c = false

theorem indentLine_indented (hu : ∀ c ∈ unit, isBlank c = true) (line : Text) : Indented unit line (indentLine unit line) := by
  rcases indentLine_cases unit line with ⟨hblank, hempty⟩ | ⟨g, c, t, r, hline, hg, hc, hr, -, hindent⟩
  · rw [hempty]
    exact ⟨(Text.strip_blank hblank).symm, .inl rfl⟩
  · have hr' : ∀ x ∈ r, isBlank x = true := by
      intro x hx
      rw [hr x hx]
      decide
    refine ⟨?_, .inr ⟨c, t, hindent, hc⟩⟩
    have hafter : Text.strip (unit ++ (c :: t ++ [])) = Text.strip (c :: t) := Text.strip_around hu hc (by simp)
    rw [List.append_nil] at hafter
    rw [hindent, hafter, hline, Text.strip_around hg hc hr']

theorem indentLine_indentLine (hu : ∀ c ∈ unit, isBlank c = true) (line : Text) :
    indentLine unit (indentLine unit line) = indentLine unit line := by
  rcases indentLine_cases unit line with ⟨-, hempty⟩ | ⟨g, c, t, r, -, -, hc, -, hkept, hindent⟩
  · rw [hempty]
    exact indentLine_blank (by simp)
  · rw [hindent, indentLine_text hu (by simp) (Text.stopsAt_cons.mpr hc), hkept]

/-! ## The lines of a member -/

theorem indent_indented (hu : ∀ c ∈ unit, isBlank c = true) (t : Text) :
    List.Forall₂ (Indented unit) (Text.splitOn '\n' t) (indent unit t) := by
  rw [indent, List.forall₂_map_right_iff, List.forall₂_same]
  intro line _
  exact indentLine_indented hu line

/-- Indented lines are indented to themselves. -/
theorem indent_join (hu : ∀ c ∈ unit, isBlank c = true ∧ c ≠ '\n') (t : Text) :
    indent unit (Text.join ['\n'] (indent unit t)) = indent unit t := by
  have hne : indent unit t ≠ [] := by
    obtain ⟨piece, others, h⟩ := Text.splitOn_ne_nil '\n' t
    rw [indent, h]
    simp
  have hlines : ∀ l ∈ indent unit t, '\n' ∉ l := by
    intro l hl hm
    obtain ⟨line, hline, rfl⟩ := List.mem_map.mp hl
    rcases mem_indentLine hm with hm | hm
    · exact (hu _ hm).2 rfl
    · exact Text.not_mem_of_mem_splitOn hline hm
  rw [indent, Text.splitOn_join hne hlines, indent, List.map_map]
  exact List.map_congr_left fun line _ => indentLine_indentLine (fun c hc => (hu c hc).1) line

/-! ## The members of a part -/

/-- Lines that are those of the texts, indented, with one empty line between neighbours. -/
inductive Laid (unit : Text) : List Text → List Text → Prop
  | none : Laid unit [] []
  | last {t : Text} {lines : List Text} :
    List.Forall₂ (Indented unit) (Text.splitOn '\n' t) lines → Laid unit [t] lines
  | next {t t' : Text} {ts lines rest : List Text} :
    List.Forall₂ (Indented unit) (Text.splitOn '\n' t) lines → Laid unit (t' :: ts) rest →
    Laid unit (t :: t' :: ts) (lines ++ [] :: rest)

theorem memberLines_laid (hu : ∀ c ∈ unit, isBlank c = true) (ts : List Text) : Laid unit ts (memberLines unit ts) := by
  induction ts with
  | nil => exact .none
  | cons t ts ih =>
    cases ts with
    | nil =>
      rw [memberLines, List.map_singleton, List.intercalate_singleton]
      exact .last (indent_indented hu t)
    | cons t' ts =>
      rw [memberLines, List.map_cons, List.map_cons, List.intercalate_cons_cons, List.append_assoc]
      exact .next (indent_indented hu t) ih

/-- Indenting keeps the text of every line and puts nothing but the unit before it; it does so once and for all. Between
the brace behind the header of a part and its last line stand the indented lines of the members, in order, with one empty
line between neighbours. -/
theorem rendering_keeps_member_text [NamePattern.Objects] {unit : Text} (hu : ∀ c ∈ unit, isBlank c = true ∧ c ≠ '\n') :
    (∀ t, List.Forall₂ (Indented unit) (Text.splitOn '\n' t) (indent unit t) ∧
      indent unit (Text.join ['\n'] (indent unit t)) = indent unit t) ∧
    ∀ style usings d group, style.indentUnit = unit →
      ('\\' ∉ d.keyword → ∃ lines, render style usings d group = .ok lines) ∧
      (∀ part doc, document style usings d group part = .ok doc → render style usings d group = .ok doc.lines) ∧
      ∀ lines, render style usings d group = .ok lines →
        ∃ header body, partialHeader d.header d.keyword = .ok header ∧
          lines = preamble usings d ++ header :: ['{'] :: (body ++ [['}']]) ∧ Laid unit (group.map (·.fullText)) body := by
  have hblank : ∀ c ∈ unit, isBlank c = true := fun c hc => (hu c hc).1
  refine ⟨fun t => ⟨indent_indented hblank t, indent_join hu t⟩, ?_⟩
  intro style usings d group hunit
  refine ⟨?_, ?_, ?_⟩
  · intro hkeyword
    obtain ⟨header, hheader⟩ := partialHeader_ok d.header hkeyword
    exact ⟨_, congrArg (Except.map _) hheader⟩
  · intro part doc hdoc
    exact (document_ok hdoc).2.2.2
  · intro lines hlines
    obtain ⟨header, hheader, rfl⟩ := render_ok hlines
    refine ⟨header, memberLines unit (group.map (·.fullText)), hheader, ?_, memberLines_laid hblank _⟩
    rw [partLines, hunit]
    simp

/-- A member behind blanks of several kinds, with a line of blanks and with blanks and carriage returns at its ends. -/
def looseMember : Member :=
  ⟨['A'], [], [], "\u00a0 int A\t\r\n \t\r\n  \x7b get; \x7d \r\r".toList, true, 1, 3⟩

def looseType : TypeDeclaration :=
  ⟨['C'], [], .pub, "class C".toList, "class".toList, [looseMember], 1, 5, []⟩

theorem loose_members_keep_their_text :
    (∀ c ∈ ['\t'], isBlank c = true ∧ c ≠ '\n') ∧
    indent ['\t'] looseMember.fullText = ["\tint A\t".toList, [], "\t\x7b get; \x7d ".toList] ∧
    indent ['\t'] (Text.join ['\n'] (indent ['\t'] looseMember.fullText)) = indent ['\t'] looseMember.fullText ∧
    ∃ lines body, render ⟨['\t'], [], []⟩ [] looseType [looseMember, looseMember] = .ok lines ∧
      lines = "partial class C".toList :: ['{'] :: (body ++ [['}']]) ∧
      Laid ['\t'] [looseMember.fullText, looseMember.fullText] body := by
  have hu : ∀ c ∈ ['\t'], isBlank c = true ∧ c ≠ '\n' := by
    intro c hc
    rw [List.mem_singleton.mp hc]
    exact ⟨by decide, by decide⟩
  obtain ⟨hindent, hrender⟩ := rendering_keeps_member_text hu
  obtain ⟨hsome, -, hlines⟩ := hrender ⟨['\t'], [], []⟩ [] looseType [looseMember, looseMember] rfl
  obtain ⟨lines, hsome⟩ := hsome (by decide)
  obtain ⟨header, body, hheader, hparts, hlaid⟩ := hlines lines hsome
  have hmarked : partialHeader "class C".toList "class".toList = .ok "partial class C".toList := by decide
  have hheader : header = "partial class C".toList := Except.ok.inj (hheader.symm.trans hmarked)
  exact ⟨hu, by decide, (hindent _).2, lines, body, hsome, hheader ▸ hparts, hlaid⟩

end TypeSplit.Splitting
