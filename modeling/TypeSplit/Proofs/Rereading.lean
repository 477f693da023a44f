/-
  TypeSplit.Proofs.Rereading — the preamble of a part, read again.

  A part begins with the using directives of its source, one to a line, then its namespace, then its header. Reading these
  lines gives the directives back: the line behind them begins with a word other than `using`, the word of the namespace or
  the first of the header, and ends them. Reading the text gives the namespace back, unless `namespace` stands in a
  directive before it.
  - `usings_append`: directives are read up to the lines behind them.
  - `LeadsWith.usings`: a line that begins with another word ends the directives.
  - `namespaceAfter?_line`: a line without the word declares no namespace, and does not begin the declaration of one.
  - `preamble_is_reread`: both, of every part of every type of a text.
-/

import TypeSplit.Proofs.Overwriting
import TypeSplit.Proofs.Reopening

namespace TypeSplit.Declaration

open TypeSplit.Text (StopsAt hasToken isBlank isWord splitToken?)

/-! ## Using directives -/

theorem usings_append {us : List Text} (h : ∀ u ∈ us, isUsing u = true) (ls : List Text) :
    usings (us ++ ls) = us ++ usings ls := by
  induction us with
  | nil => rfl
  | cons u us ih =>
    rw [List.cons_append, usings, if_pos (h u List.mem_cons_self), ih fun x hx => h x (List.mem_cons_of_mem _ hx)]
    rfl

/-- Blank lines do not end the directives. -/
theorem usings_empty (ls : List Text) : usings ([] :: ls) = usings ls := rfl

def LeadsWith (w line : Text) : Prop := Word w ∧ ∃ rest, line = w ++ rest ∧ StopsAt isWord rest

theorem LeadsWith.strip {w line : Text} (h : LeadsWith w line) : LeadsWith w (Text.strip line) := by
  obtain ⟨hw, rest, rfl, hrest⟩ := h
  obtain ⟨c, hlast, hc⟩ := Text.getLast?_word hw
  have hend : StopsAt isBlank w.reverse := by
    obtain ⟨w', rfl⟩ := List.getLast?_eq_some_iff.mp hlast
    simpa using Text.isBlank_eq_false_of_isWord hc
  have hbegin : StopsAt isBlank w := by
    have := (hw.beginsWord []).stopsAt_blank
    rwa [List.append_nil] at this
  rw [Splitting.strip_append hw.ne hbegin hend]
  refine ⟨hw, _, rfl, ?_⟩
  -- what is left of the rest is the beginning of it
  have hsplit : rest = (rest.reverse.dropWhile isBlank).reverse ++ (rest.reverse.takeWhile isBlank).reverse := by
    rw [← List.reverse_append, List.takeWhile_append_dropWhile, List.reverse_reverse]
  rw [hsplit] at hrest
  exact hrest.of_append

theorem LeadsWith.usings {w line : Text} (h : LeadsWith w line) (hne : w ≠ "using".toList) (ls : List Text) :
    Declaration.usings (line :: ls) = [] := by
  obtain ⟨hw, rest, hstrip, hrest⟩ := h.strip
  obtain ⟨x, w', rfl, hx⟩ := hw.cons
  have husing : isUsing line = false := by
    refine Bool.eq_false_iff.mpr fun husing => ?_
    simp only [isUsing, Bool.and_eq_true, Text.startsWith, hstrip] at husing
    obtain ⟨z, hz⟩ := List.isPrefixOf_iff_prefix.mp husing.1
    have heq : "using".toList ++ ' ' :: z = x :: w' ++ rest := hz
    exact hne (Word.append_inj hw (by decide) hrest (Text.stopsAt_cons.mpr (by decide)) heq.symm).1
  -- a comment does not begin with a word
  have hbetween : isBetweenUsings line = false := by
    refine Bool.eq_false_iff.mpr fun hbetween => ?_
    simp only [isBetweenUsings, Text.startsWith, hstrip, List.cons_append, List.isEmpty_cons, Bool.false_or] at hbetween
    obtain ⟨z, hz⟩ := List.isPrefixOf_iff_prefix.mp hbetween
    rw [← (List.cons.inj hz).1] at hx
    exact absurd hx (by decide)
  rw [Declaration.usings, husing, hbetween]
  rfl

/-! ## Namespaces -/

theorem word_namespace : Word "namespace".toList := by decide

theorem namespaceHere?_word {t name : Text} (h : namespaceHere? t = some name) :
    ∃ rest, t = "namespace".toList ++ rest ∧ StopsAt isWord rest := by
  simp only [namespaceHere?, Option.bind_eq_bind, Option.bind_eq_some_iff, List.isPrefixOf?_eq_some_iff_append_eq,
    blanks?_eq_some_iff] at h
  obtain ⟨rest, htext, s, ⟨b, rfl, hb, -⟩, -⟩ := h
  exact ⟨b ++ s, htext.symm, hb.stopsAt_word s⟩

/-- A line that does not have the word as a token declares no namespace, and does not begin the declaration of one. -/
theorem namespaceAfter?_line {l : Text} {before : Option Char} (h : splitToken? "namespace".toList before l = none)
    (s : Text) : namespaceAfter? before (l ++ '\n' :: s) = namespaceAfter? (some '\n') s := by
  induction l generalizing before with
  | nil =>
    have hhere : namespaceHere? ('\n' :: s) = none := by
      refine Option.eq_none_iff_forall_ne_some.mpr fun name hname => ?_
      obtain ⟨rest, htext, -⟩ := namespaceHere?_word hname
      exact absurd (List.cons.inj htext).1 (by decide)
    simp only [List.nil_append, namespaceAfter?, hhere, Option.none_or, ite_self]
  | cons c l ih =>
    have htail : splitToken? "namespace".toList (some c) l = none := by
      simp only [splitToken?] at h
      split at h
      · split at h
        · cases h
        · exact Option.map_eq_none_iff.mp h
      · exact Option.map_eq_none_iff.mp h
    rw [List.cons_append, namespaceAfter?, ih htail]
    by_cases hword : before.any isWord = true
    · rw [if_pos hword]
    · have hhere : namespaceHere? (c :: (l ++ '\n' :: s)) = none := by
        refine Option.eq_none_iff_forall_ne_some.mpr fun name hname => ?_
        obtain ⟨rest, htext, hrest⟩ := namespaceHere?_word hname
        -- the word ends before the newline, so it is a token of the line
        obtain ⟨w, hw, rfl⟩ := Text.front_before (by decide) (show c :: l ++ '\n' :: s = _ from htext)
        have hbefore : StopsAt isWord before.toList := by
          cases before with
          | none => simp
          | some x => simpa using hword
        rw [hw, Text.splitToken?_here word_namespace hbefore hrest.of_append] at h
        cases h
      rw [if_neg hword, hhere, Option.none_or]

/-- Lines without the word are passed over. -/
theorem namespaceAfter?_lines {ls : List Text} (h : ∀ l ∈ ls, hasToken "namespace".toList l = false) (s : Text)
    (before : Option Char) (hbefore : before.any isWord = false) :
    ∃ before', before'.any isWord = false ∧
      namespaceAfter? before (ls.flatMap (· ++ ['\n']) ++ s) = namespaceAfter? before' s := by
  induction ls generalizing before with
  | nil => exact ⟨before, hbefore, rfl⟩
  | cons l ls ih =>
    have hline : splitToken? "namespace".toList before l = none := by
      refine Option.eq_none_iff_forall_ne_some.mpr fun cut hcut => ?_
      obtain ⟨htext, hfront, hback⟩ := Text.splitToken?_sound word_namespace hcut
      have htoken := (Text.hasToken_iff word_namespace).mpr ⟨cut.1, cut.2, htext, hfront.of_append, hback⟩
      rw [h l List.mem_cons_self] at htoken
      cases htoken
    obtain ⟨before', hbefore', hrest⟩ := ih (fun x hx => h x (List.mem_cons_of_mem _ hx)) (some '\n') (by decide)
    refine ⟨before', hbefore', ?_⟩
    rw [List.flatMap_cons, List.append_assoc, List.append_assoc, List.singleton_append, namespaceAfter?_line hline, hrest]

/-- The line of a namespace declares it. -/
theorem namespaceHere?_declared {name : Text} (hne : name ≠ []) (h : ∀ c ∈ name, endsNamespace c = false) (s : Text) :
    namespaceHere? ("namespace ".toList ++ name ++ [';'] ++ s) = some name := by
  obtain ⟨c, rest, rfl⟩ := List.exists_cons_of_ne_nil hne
  have hword : "namespace".toList.isPrefixOf? ("namespace ".toList ++ (c :: rest) ++ [';'] ++ s) =
      some (' ' :: (c :: rest ++ ';' :: s)) := List.isPrefixOf?_eq_some_iff_append_eq.mpr (by simp)
  have hblank : isBlank c = false := by
    have := h c List.mem_cons_self
    simp only [endsNamespace, Bool.or_eq_false_iff] at this
    exact this.2
  have hgap : blanks? (' ' :: (c :: rest ++ ';' :: s)) = some (c :: rest ++ ';' :: s) :=
    blanks?_eq_some_iff.mpr ⟨[' '], rfl, by decide, Text.stopsAt_cons.mpr hblank⟩
  have hname : (c :: rest ++ ';' :: s).takeWhile (!endsNamespace ·) = c :: rest := by
    rw [List.takeWhile_append_of_pos fun x hx => by rw [h x hx]; rfl, List.takeWhile_cons_of_neg (by decide), List.append_nil]
  simp only [namespaceHere?, hword, hgap, hname, Option.bind_eq_bind, Option.bind_some]
  rfl

/-- The first namespace of a text, behind lines without the word. -/
theorem namespaceOf_lines {ls : List Text} (h : ∀ l ∈ ls, hasToken "namespace".toList l = false) {name : Text}
    (hne : name ≠ []) (hname : ∀ c ∈ name, endsNamespace c = false) (s : Text) :
    namespaceOf (ls.flatMap (· ++ ['\n']) ++ ("namespace ".toList ++ name ++ [';'] ++ s)) = name := by
  obtain ⟨before, hbefore, hlines⟩ := namespaceAfter?_lines h ("namespace ".toList ++ name ++ [';'] ++ s) none rfl
  have hhere := namespaceHere?_declared hne hname s
  have hfound : namespaceAfter? before ("namespace ".toList ++ name ++ [';'] ++ s) = some name := by
    obtain ⟨c, rest, htext⟩ : ∃ c rest, "namespace ".toList ++ name ++ [';'] ++ s = c :: rest := ⟨_, _, rfl⟩
    rw [htext] at hhere ⊢
    rw [namespaceAfter?, if_neg (by rw [hbefore]; exact Bool.false_ne_true), hhere, Option.some_or]
  rw [namespaceOf, hlines, hfound]
  rfl

end TypeSplit.Declaration

namespace TypeSplit.Splitting

open TypeSplit.Declaration (LeadsWith Word endsNamespace typeModifiers typeModifiers_word)
open TypeSplit.Extraction
open TypeSplit.Text (hasToken)

/-! ## Parts -/

/-- A header begins with its first modifier, or with its keyword. -/
theorem Opening.leads {keyword name : Text} (hk : keyword ∈ defaultKeywords) (o : Opening keyword name) :
    ∃ w, w ≠ "using".toList ∧ LeadsWith w o.text := by
  obtain ⟨hword, -⟩ := distinct_defaultKeywords _ hk
  cases hmodifiers : o.modifiers with
  | nil =>
    have hne : keyword ≠ "using".toList := by
      intro heq
      exact absurd (heq ▸ hk) (by decide)
    refine ⟨keyword, hne, hword, o.gap ++ (name ++ o.tail), ?_, o.isBlanks.stopsAt_word _⟩
    rw [text, hmodifiers]
    rfl
  | cons m modifiers =>
    obtain ⟨hmem, hblanks⟩ := o.are_modifiers m (hmodifiers ▸ List.mem_cons_self)
    have hne : m.1 ≠ "using".toList := by
      intro heq
      exact absurd (heq ▸ hmem) (by decide)
    refine ⟨m.1, hne, typeModifiers_word _ hmem, m.2 ++ (runText modifiers ++ (keyword ++ (o.gap ++ (name ++ o.tail)))), ?_,
      hblanks.stopsAt_word _⟩
    rw [text, hmodifiers, runText, List.flatMap_cons, List.append_assoc, List.append_assoc]
    rfl

/-- The header of a part begins with a word other than `using`. -/
theorem partialHeader_leads {keyword name : Text} (hk : keyword ∈ defaultKeywords) (o : Opening keyword name) :
    ∃ line, partialHeader o.text keyword = .ok line ∧ ∃ w, w ≠ "using".toList ∧ LeadsWith w line := by
  refine ⟨_, partialHeader_opening hk o, ?_⟩
  split
  · exact o.leads hk
  · exact o.reopened.leads hk

def usingLines (us : List Text) : List Text := if us.isEmpty then [] else us ++ [[]]

theorem usings_usingLines {us : List Text} (h : ∀ u ∈ us, Declaration.isUsing u = true) {ls : List Text}
    (hls : Declaration.usings ls = []) : Declaration.usings (usingLines us ++ ls) = us := by
  unfold usingLines
  split
  · rename_i hempty
    rw [List.isEmpty_iff.mp hempty]
    exact hls
  · rw [List.append_assoc, Declaration.usings_append h, List.singleton_append, Declaration.usings_empty, hls, List.append_nil]

theorem hasToken_usingLines {k : Text} (hk : Word k) {us : List Text} (h : ∀ u ∈ us, hasToken k u = false) :
    ∀ l ∈ usingLines us, hasToken k l = false := by
  intro l hl
  unfold usingLines at hl
  split at hl
  · cases hl
  · rcases List.mem_append.mp hl with hl | hl
    · exact h l hl
    · rw [List.mem_singleton.mp hl]
      exact Text.hasToken_nil hk

/-- The preamble of a type without directives of its own, whose namespace is empty or has no blanks. -/
theorem preamble_eq {us : List Text} {d : TypeDeclaration} (hd : d.usings = [])
    (hname : ∀ c ∈ d.namespaceName, endsNamespace c = false) :
    preamble us d = usingLines us ++
      if d.namespaceName = [] then [] else ["namespace ".toList ++ d.namespaceName ++ [';'], []] := by
  have hstrip : (Text.strip d.namespaceName).isEmpty = true ↔ d.namespaceName = [] := by
    rw [List.isEmpty_iff]
    constructor
    · intro hempty
      obtain ⟨g, g', hparts, hg, hg'⟩ := Text.strip_parts d.namespaceName
      rw [hempty, List.nil_append] at hparts
      refine List.eq_nil_iff_forall_not_mem.mpr fun c hc => ?_
      have hblank : Text.isBlank c = true := by
        rw [hparts] at hc
        rcases List.mem_append.mp hc with hc | hc
        · exact hg c hc
        · exact hg' c hc
      have hends := hname c hc
      simp only [endsNamespace, hblank, Bool.or_true] at hends
      cases hends
    · intro hempty
      rw [hempty]
      rfl
  have husings : (if us.isEmpty then d.usings else us) = us := by
    split
    · rename_i hempty
      rw [hd, List.isEmpty_iff.mp hempty]
    · rfl
  simp only [preamble, husings, hstrip]
  rfl

section

variable {scanner : Scanner} {withConstructors : Bool} {t : Text} {d : TypeDeclaration}

/-- A type that is found has the namespace of its text, and no directives of its own. -/
theorem preface_of_type (h : d ∈ (run scanner withConstructors (.ofText t)).types) :
    d.namespaceName = Declaration.namespaceOf t ∧ d.usings = [] := by
  obtain ⟨outcome, -, hdecl⟩ := List.mem_filterMap.mp h
  cases outcome with
  | skipped w => cases hdecl
  | resolved body vs =>
    obtain rfl := Option.some.inj hdecl
    exact ⟨rfl, rfl⟩

/-- A part of a type that is found by the usual keywords is always rendered. Its lines have the directives of the text
that the type was found in, and its text the namespace, unless a directive has the word `namespace`. -/
theorem preamble_is_reread [NamePattern.Objects] {withProperties : Bool}
    (hscanner : Scanner.ofKeywords defaultKeywords withProperties = .ok scanner)
    (h : d ∈ (run scanner withConstructors (.ofText t)).types) (style : Style) (group : List Member) :
    ∃ lines, render style (run scanner withConstructors (.ofText t)).usings d group = .ok lines ∧
      (∀ part doc, document style (run scanner withConstructors (.ofText t)).usings d group part = .ok doc →
        doc.lines = lines) ∧
      Declaration.usings lines = (run scanner withConstructors (.ofText t)).usings ∧
      (Declaration.namespaceOf t ≠ [] →
        (∀ u ∈ (run scanner withConstructors (.ofText t)).usings, hasToken "namespace".toList u = false) →
        Declaration.namespaceOf (Text.join ['\n'] lines) = Declaration.namespaceOf t) := by
  obtain ⟨hk, o, ho⟩ := header_of_typeSite (congrArg Scanner.typeSites (Scanner.ofKeywords_eq hscanner)) h
  obtain ⟨header, hheader, w, hw, hleads⟩ := partialHeader_leads hk o
  obtain ⟨hnamespace, hown⟩ := preface_of_type h
  have hname : ∀ c ∈ d.namespaceName, endsNamespace c = false := by
    intro c hc
    exact (Declaration.mem_namespaceOf (hnamespace ▸ hc)).1
  rw [← ho] at hheader
  generalize hus : (run scanner withConstructors (.ofText t)).usings = us
  have husing : ∀ u ∈ us, Declaration.isUsing u = true := by
    intro u hu
    rw [← hus] at hu
    exact (Declaration.mem_usings hu).2
  have hrender : render style us d group = .ok (partLines style.indentUnit us d header group) := by
    rw [render, hheader]
    rfl
  refine ⟨_, hrender, ?_, ?_, ?_⟩
  · intro part doc hdoc
    exact (Except.ok.inj (hrender.symm.trans (document_ok hdoc).2.2.2)).symm
  · rw [partLines, preamble_eq hown hname]
    simp only [List.append_assoc]
    apply usings_usingLines husing
    split
    · exact hleads.usings hw _
    · have hline : LeadsWith "namespace".toList ("namespace ".toList ++ d.namespaceName ++ [';']) :=
        ⟨by decide, ' ' :: (d.namespaceName ++ [';']), by simp, Text.stopsAt_cons.mpr (by decide)⟩
      exact hline.usings (by decide) _
  · intro hne htokens
    rw [← hnamespace] at hne ⊢
    obtain ⟨behind, hlines⟩ : ∃ behind, partLines style.indentUnit us d header group =
        usingLines us ++ ("namespace ".toList ++ d.namespaceName ++ [';']) :: behind := by
      rw [partLines, preamble_eq hown hname, if_neg hne]
      simp only [List.append_assoc, List.cons_append]
      exact ⟨_, rfl⟩
    rw [hlines, Text.join, Text.intercalate_append_cons]
    exact Declaration.namespaceOf_lines (hasToken_usingLines Declaration.word_namespace htokens) hne hname _

end

/-- Directives with a comment between them, a namespace with a block, and a type in it. -/
def prefacedText : Text :=
  "  using System;\n// io\nusing System.IO;\n\nnamespace A.B\n\x7b\nunsafe class C\n\x7b\n    void M() { }\n\x7d\n\x7d\n".toList

def prefacedFound : { e : Extraction //
    e = run defaultScanner true (.ofText prefacedText) ∧ e.types.map (·.name) = [['C']] ∧
      e.usings = ["  using System;".toList, "using System.IO;".toList] ∧
      Declaration.namespaceOf prefacedText = "A.B".toList } :=
  ⟨run defaultScanner true (.ofText prefacedText), rfl, by
    rw [defaultScanner_eq]
    decide +kernel⟩

theorem a_preamble_is_reread :
    ∃ d ∈ (run defaultScanner true (.ofText prefacedText)).types, d.name = ['C'] ∧
      ∃ lines, render {} (run defaultScanner true (.ofText prefacedText)).usings d d.members = .ok lines ∧
        Declaration.usings lines = ["  using System;".toList, "using System.IO;".toList] ∧
        Declaration.namespaceOf (Text.join ['\n'] lines) = "A.B".toList := by
  obtain ⟨_, rfl, htypes, husings, hnamespace⟩ := prefacedFound
  obtain ⟨d, hd, hname⟩ := List.map_eq_singleton_iff.mp htypes
  have hmem : d ∈ (run defaultScanner true (.ofText prefacedText)).types := by
    rw [hd]
    exact List.mem_singleton_self d
  obtain ⟨lines, hlines, -, hreread, hdeclared⟩ := preamble_is_reread ofKeywords_defaultKeywords hmem {} d.members
  refine ⟨d, hmem, hname, lines, hlines, hreread.trans husings, ?_⟩
  rw [hnamespace, husings] at hdeclared
  exact hdeclared (by decide) (by decide)

end TypeSplit.Splitting
