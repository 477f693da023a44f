/-
  TypeSplit.Proofs.Preface — what stands before the brace of a part.

  The lines of a preamble are empty or end with a semicolon, and no type keyword stands in them with blanks behind it,
  so no type header begins in them (`quiet_lines`). The partial header of a type is a type header again, with the
  keyword and the name of the type (`partialHeader_eq`).
-/

import TypeSplit.Proofs.PartialMark
import TypeSplit.Proofs.Rendering
import TypeSplit.Proofs.Standing

namespace TypeSplit.Declaration

open TypeSplit.Source (Cursor Site)
open TypeSplit.Text (StopsAt hasToken isBlank isWord)

/-! ## Runs of modifiers -/

theorem ModifierRun.append {modifiers : List Text} {run run' : Text} (h : ModifierRun modifiers run)
    (h' : ModifierRun modifiers run') : ModifierRun modifiers (run ++ run') := by
  induction h with
  | nil => exact h'
  | cons hm hb _ ih =>
    rw [List.append_assoc, List.append_assoc]
    exact .cons hm hb ih

/-- What follows a run does not go on a word. -/
theorem ModifierRun.stopsAt_reverse {modifiers : List Text} {run : Text} (h : ModifierRun modifiers run) {a : Text}
    (ha : StopsAt isWord a.reverse) : StopsAt isWord (a ++ run).reverse := by
  induction h generalizing a with
  | nil => rwa [List.append_nil]
  | @cons m b run _ hb _ ih =>
    have hblank : StopsAt isWord (a ++ m ++ b).reverse := by
      obtain ⟨b', c, rfl⟩ := List.eq_nil_or_concat b |>.resolve_left hb.ne
      have hc := Text.isWord_eq_false_of_isBlank (hb.all c (by simp))
      simpa using hc
    have := ih hblank
    rwa [List.append_assoc, List.append_assoc] at this

/-! ## Lines that declare no type -/

/-- No keyword stands in the text as the end of a word with blanks behind it. -/
def Quiet (keywords : List Text) (v : Text) : Prop :=
  ∀ k ∈ keywords, ∀ a g b, v = a ++ (k ++ (g ++ b)) → Blanks g → ¬ StopsAt isWord a.reverse

/-- An empty line, or one that a semicolon closes with nothing behind it but blanks. -/
def QuietLine (keywords : List Text) (l : Text) : Prop :=
  l = [] ∨ ∃ v g, l = v ++ ';' :: g ∧ Quiet keywords v ∧ ∀ c ∈ g, isBlank c = true

variable {keywords : List Text}

/-- A type header does not begin before a semicolon behind a quiet text. -/
theorem Quiet.no_header (hk : Distinct keywords) {pre x y z : Text} (h : Quiet keywords (x ++ y)) :
    typeHeader keywords ⟨(pre ++ x).reverse, y ++ ';' :: z⟩ = none := by
  refine Option.not_isSome_iff_eq_none.mp fun hsome => ?_
  obtain ⟨hs, u, s, hahead, hu, -⟩ := (typeHeader_iff hk).mp hsome
  obtain ⟨run, k, gap, name, rfl, hrun, hmem, hgap, -⟩ := hu.parts
  have hsemi : ';' ∉ run ++ (k ++ gap) := by
    intro hm
    simp only [List.mem_append] at hm
    rcases hm with hm | hm | hm
    · rcases hrun.mem typeModifiers_word hm with hw | hw <;> revert hw <;> decide
    · exact absurd ((hk k hmem).1.all _ hm) (by decide)
    · exact absurd (hgap.all _ hm) (by decide)
  have hahead : y ++ ';' :: z = run ++ (k ++ gap) ++ (name ++ s) := by simpa using hahead
  obtain ⟨w, rfl, -⟩ := Text.front_before hsemi hahead
  have hstart : StopsAt isWord x.reverse := by
    rw [startsHere_iff, List.reverse_append] at hs
    intro c hc
    have := hs.of_append c hc
    simpa using (Bool.or_eq_false_iff.mp this).1
  exact h k hmem (x ++ run) gap w (by simp) hgap (hrun.stopsAt_reverse hstart)

theorem QuietLine.no_header (hk : Distinct keywords) {pre l : Text} {q : Nat} (h : QuietLine keywords l) (rest : Text)
    (h1 : pre.length ≤ q) (h2 : q ≤ pre.length + l.length) :
    typeHeader keywords (.at_ (pre ++ (l ++ '\n' :: rest)) q) = none := by
  -- The place lies behind `x` in the line.
  obtain ⟨x, y, rfl, rfl⟩ : ∃ x y, l = x ++ y ∧ q = (pre ++ x).length := by
    refine ⟨l.take (q - pre.length), l.drop (q - pre.length), (List.take_append_drop _ _).symm, ?_⟩
    rw [List.length_append, List.length_take]
    omega
  have hat : Cursor.at_ (pre ++ (x ++ y ++ '\n' :: rest)) (pre ++ x).length = ⟨(pre ++ x).reverse, y ++ '\n' :: rest⟩ := by
    rw [← Cursor.at_append]
    simp
  rw [hat]
  -- No header begins with a character that is part of no word.
  have hbegins : ∀ {y : Text}, (∀ c ∈ y.head?, isWord c = false) →
      typeHeader keywords ⟨(pre ++ x).reverse, y ++ '\n' :: rest⟩ = none := by
    intro y hy
    refine Option.not_isSome_iff_eq_none.mp fun hsome => ?_
    obtain ⟨-, u, s, hahead, hu, -⟩ := (typeHeader_iff hk).mp hsome
    obtain ⟨c, r, hc, hw⟩ := (hu.beginsWord hk).append s
    have hstop : StopsAt isWord (y ++ '\n' :: rest) := Text.stopsAt_append hy (by simp; decide)
    rw [show y ++ '\n' :: rest = u ++ s from hahead, hc, Text.stopsAt_cons, hw] at hstop
    cases hstop
  rcases h with hnil | ⟨v, g, hv, hquiet, hg⟩
  · obtain ⟨rfl, rfl⟩ := List.append_eq_nil_iff.mp hnil
    exact hbegins (by simp)
  · rcases List.append_eq_append_iff.mp hv with ⟨w, rfl, rfl⟩ | ⟨w, rfl, hw⟩
    · rw [List.append_assoc]
      exact hquiet.no_header hk
    · refine hbegins fun c hc => ?_
      have : c ∈ ';' :: g := hw ▸ List.mem_append_right _ (List.mem_of_mem_head? hc)
      rcases List.mem_cons.mp this with rfl | hc
      · decide
      · exact Text.isWord_eq_false_of_isBlank (hg c hc)

/-- No type header begins in lines that are all quiet. -/
theorem quiet_lines (hk : Distinct keywords) {ls : List Text} (h : ∀ l ∈ ls, QuietLine keywords l) (pre rest : Text)
    {q : Nat} (h1 : pre.length ≤ q) (h2 : q < pre.length + (Encoding.ofLines ls).length) :
    typeHeader keywords (.at_ (pre ++ (Encoding.ofLines ls ++ rest)) q) = none := by
  induction ls generalizing pre with
  | nil => simp [Encoding.ofLines] at h2; omega
  | cons l ls ih =>
    rw [Encoding.ofLines_cons] at h2 ⊢
    by_cases hq : q ≤ pre.length + l.length
    · have := (h l List.mem_cons_self).no_header hk (Encoding.ofLines ls ++ rest) h1 hq
      simpa using this
    · have hlen : (pre ++ (l ++ ['\n'])).length = pre.length + l.length + 1 := by simp; omega
      have := ih (fun l' hl' => h l' (List.mem_cons_of_mem _ hl')) (pre ++ (l ++ ['\n'])) (by omega)
        (by simp only [List.length_append, List.length_cons] at h2 hlen ⊢; omega)
      simpa using this

/-! ## The text of a header -/

/-- A type site covers its header and the brace behind it. -/
theorem typeSite_header {t : Text} {s : Site (Text × Text)} (hs : s ∈ Source.sites (typeHeader keywords) t 0 t.length) :
    ∃ hd : Header keywords, Text.slice t s.start (s.stop - 1 : Nat) = hd.text ∧ s.value = (hd.keyword, hd.name) := by
  obtain ⟨-, hlt, hle, hacc, -⟩ := (typeSites_scan keywords t).accepted hs
  obtain ⟨-, hd, rest, hk, hn, hahead, hlen⟩ := typeHeader_reads hacc
  refine ⟨hd, ?_, Prod.ext hk.symm hn.symm⟩
  have hend : s.stop - 1 = s.start + hd.text.length := by omega
  rw [Text.slice_natCast, List.drop_take, ← Cursor.ahead_at, hahead, hend, Nat.add_sub_cancel_left, List.take_left]

/-! ## Using directives and namespaces -/

theorem mem_usings {ls : List Text} {u : Text} (h : u ∈ usings ls) : u ∈ ls ∧ isUsing u = true := by
  induction ls with
  | nil => cases h
  | cons l ls ih =>
    simp only [usings] at h
    split at h
    · rename_i hl
      rcases List.mem_cons.mp h with rfl | h
      · exact ⟨List.mem_cons_self, hl⟩
      · exact ⟨List.mem_cons_of_mem _ (ih h).1, (ih h).2⟩
    · split at h
      · exact ⟨List.mem_cons_of_mem _ (ih h).1, (ih h).2⟩
      · cases h

/-- A using directive without a keyword among its tokens is quiet. -/
theorem quietLine_using (hk : ∀ k ∈ keywords, Word k) {u : Text} (hu : isUsing u = true)
    (h : ∀ k ∈ keywords, hasToken k u = false) : QuietLine keywords u := by
  obtain ⟨g, g', hparts, -, hg'⟩ := Text.strip_parts u
  simp only [isUsing, Bool.and_eq_true, Text.endsWith, decide_eq_true_eq] at hu
  obtain ⟨v, hv⟩ := List.getLast?_eq_some_iff.mp hu.2
  have hline : u = g ++ v ++ ';' :: g' := by
    conv => lhs; rw [hparts, hv]
    simp
  refine .inr ⟨g ++ v, g', hline, ?_, hg'⟩
  intro k hkm a gap b heq hgap hstop
  have htoken : hasToken k u = true := by
    refine (Text.hasToken_iff (hk k hkm)).mpr ⟨a, gap ++ (b ++ ';' :: g'), ?_, hstop, hgap.stopsAt_word _⟩
    rw [hline, heq]
    simp
  rw [h k hkm] at htoken
  cases htoken

theorem namespaceHere?_eq_some {t name : Text} (h : namespaceHere? t = some name) :
    ∀ c ∈ name, endsNamespace c = false ∧ c ∈ t := by
  simp only [namespaceHere?, Option.bind_eq_bind, Option.bind_eq_some_iff, List.isPrefixOf?_eq_some_iff_append_eq,
    blanks?_eq_some_iff] at h
  obtain ⟨_, hpre, s, ⟨b, rfl, -, -⟩, h⟩ := h
  split at h
  · cases h
  · cases h
    intro c hc
    refine ⟨by simpa using List.mem_takeWhile_imp hc, ?_⟩
    have hs : c ∈ s := (List.takeWhile_prefix _).subset hc
    rw [← hpre]
    simp [hs]

theorem namespaceAfter?_eq_some {before : Option Char} {t name : Text} (h : namespaceAfter? before t = some name) :
    ∀ c ∈ name, endsNamespace c = false ∧ c ∈ t := by
  induction t generalizing before with
  | nil => cases h
  | cons x t ih =>
    have later : namespaceAfter? (some x) t = some name → ∀ c ∈ name, endsNamespace c = false ∧ c ∈ x :: t :=
      fun h c hc => ⟨(ih h c hc).1, List.mem_cons_of_mem _ (ih h c hc).2⟩
    simp only [namespaceAfter?] at h
    split at h
    · exact later h
    · rcases Option.or_eq_some_iff.mp h with h | ⟨-, h⟩
      · exact namespaceHere?_eq_some h
      · exact later h

theorem mem_namespaceOf {t : Text} {c : Char} (h : c ∈ namespaceOf t) : endsNamespace c = false ∧ c ∈ t := by
  rw [namespaceOf] at h
  cases hn : namespaceAfter? none t with
  | none => rw [hn] at h; cases h
  | some name => rw [hn] at h; exact namespaceAfter?_eq_some hn c h

/-- A namespace line has one blank in it, and that stands behind a word that is no keyword. -/
theorem quietLine_namespace (hn : "namespace".toList ∉ keywords) {name : Text} (h : ∀ c ∈ name, endsNamespace c = false) :
    QuietLine keywords ("namespace ".toList ++ name ++ [';']) := by
  refine .inr ⟨"namespace".toList ++ ' ' :: name, [], by simp, ?_, by simp⟩
  intro k hk a gap b heq hgap hstop
  obtain ⟨x, gap, rfl, hx⟩ := hgap.cons
  have hword : Declaration.Word "namespace".toList := by decide
  have hfront : a ++ k = "namespace".toList := by
    have heq : a ++ k ++ x :: (gap ++ b) = "namespace".toList ++ ' ' :: name := by rw [heq]; simp
    have hfree : x ∉ "namespace".toList := by
      intro hm
      have := hword.all x hm
      rw [Text.isWord_eq_false_of_isBlank hx] at this
      cases this
    obtain ⟨w, hw, hname⟩ := Text.front_before hfree heq
    cases w with
    | nil => simpa using hw
    | cons c w =>
      have hm : x ∈ name := by rw [(List.cons.inj hname).2]; simp
      have := h x hm
      simp [endsNamespace, hx] at this
  rcases List.eq_nil_or_concat a with rfl | ⟨a', c, rfl⟩
  · exact hn (hfront ▸ hk)
  · have hc : isWord c = true := hword.all c (by rw [← hfront]; simp)
    simp [hc] at hstop

end TypeSplit.Declaration

namespace TypeSplit.Splitting

open TypeSplit.Declaration (Header ModifierRun)
open TypeSplit.Extraction (defaultKeywords distinct_defaultKeywords)
open TypeSplit.Source (Fresh)
open TypeSplit.Text (StopsAt isBlank)

/-! ## The preamble -/

theorem mem_preamble {usings : List Text} {d : TypeDeclaration} (hd : d.usings = []) {l : Text} (h : l ∈ preamble usings d) :
    l ∈ usings ∨ l = [] ∨ l = "namespace ".toList ++ d.namespaceName ++ [';'] := by
  simp only [preamble, hd] at h
  rcases List.mem_append.mp h with h | h
  · cases usings with
    | nil => simp at h
    | cons u us =>
      rcases List.mem_append.mp (by simpa using h : l ∈ u :: us ++ [[]]) with h | h
      · exact .inl h
      · exact .inr (.inl (List.mem_singleton.mp h))
  · split at h
    · cases h
    · rcases List.mem_cons.mp h with h | h
      · exact .inr (.inr h)
      · exact .inr (.inl (List.mem_singleton.mp h))

theorem fresh_ofLines (ls : List Text) : Fresh (Encoding.ofLines ls) := by
  rcases List.eq_nil_or_concat ls with rfl | ⟨ls, l, rfl⟩
  · intro c hc
    cases hc
  · have hlast : Encoding.ofLines (ls ++ [l]) = Encoding.ofLines ls ++ l ++ ['\n'] := by simp [Encoding.ofLines]
    rw [List.concat_eq_append, hlast]
    exact Source.fresh_blank (List.forall_mem_singleton.mpr (by decide)) (by decide) _

/-! ## The header -/

/-- Stripping a text that begins and ends, up to a tail, with something other than blanks strips its tail. -/
theorem strip_append {x t : Text} (hne : x ≠ []) (hbegin : StopsAt isBlank x) (hend : StopsAt isBlank x.reverse) :
    Text.strip (x ++ t) = x ++ (t.reverse.dropWhile isBlank).reverse := by
  obtain ⟨c, x', rfl⟩ := List.exists_cons_of_ne_nil hne
  have hfront : (c :: x' ++ t).dropWhile isBlank = c :: x' ++ t :=
    List.dropWhile_cons_of_neg (by simpa using hbegin)
  have hback : (t.reverse ++ (c :: x').reverse).dropWhile isBlank = t.reverse.dropWhile isBlank ++ (c :: x').reverse := by
    have hstay : (c :: x').reverse.dropWhile isBlank = (c :: x').reverse := by
      have := Text.dropWhile_append (a := []) (by simp) hend
      rwa [List.nil_append] at this
    rw [List.dropWhile_append, hstay]
    split
    · rename_i hempty
      rw [List.isEmpty_iff.mp hempty, List.nil_append]
    · rfl
  rw [Text.strip, Text.stripWhile, hfront, List.reverse_append, hback]
  simp

theorem strip_header (hd : Header defaultKeywords) :
    ∃ tail, Text.strip hd.text = hd.run ++ (hd.keyword ++ (hd.blanks ++ (hd.name ++ tail))) ∧ tail <+: hd.tail := by
  have hkey := (distinct_defaultKeywords _ hd.keyword_mem).1
  have hbegin := hd.isRun.beginsWord Declaration.typeModifiers_word (hkey.beginsWord (hd.blanks ++ hd.name))
  have hend : StopsAt isBlank (hd.run ++ (hd.keyword ++ (hd.blanks ++ hd.name))).reverse := by
    obtain ⟨n, c, hn⟩ := List.eq_nil_or_concat hd.name |>.resolve_left hd.isWord_name.ne
    have hc := Text.isBlank_eq_false_of_isWord (hd.isWord_name.all c (by rw [hn]; simp))
    rw [hn]
    simpa using hc
  refine ⟨(hd.tail.reverse.dropWhile isBlank).reverse, ?_, ?_⟩
  · have htext : hd.text = hd.run ++ (hd.keyword ++ (hd.blanks ++ hd.name)) ++ hd.tail := by simp [Header.text]
    have hne : hd.run ++ (hd.keyword ++ (hd.blanks ++ hd.name)) ≠ [] := by
      obtain ⟨x, r, hx, -⟩ := hbegin
      rw [hx]
      simp
    rw [htext, strip_append hne hbegin.stopsAt_blank hend]
    simp
  · refine ⟨(hd.tail.reverse.takeWhile isBlank).reverse, ?_⟩
    rw [← List.reverse_append, List.takeWhile_append_dropWhile, List.reverse_reverse]

/-- A header without the word for a part gets it in front of its keyword, behind all its modifiers. -/
theorem partialHeader_run {run k rest : Text} (hrun : ModifierRun Declaration.typeModifiers run) (hk : k ∈ defaultKeywords)
    (hrest : StopsAt Text.isWord rest) (h : Text.hasToken partialWord (run ++ (k ++ rest)) = false) :
    partialHeader (run ++ (k ++ rest)) k = .ok (run ++ (partialWord ++ ' ' :: k) ++ rest) := by
  obtain ⟨hkey, hmod⟩ := distinct_defaultKeywords _ hk
  have hcut : Text.splitToken? k none (run ++ (k ++ rest)) = some (run, rest) :=
    Text.splitToken?_run Declaration.typeModifiers_word hkey hmod hrun (by simp) hrest
  exact partialHeader_of_token hkey.no_escape h hcut

def headerLine (hd : Header defaultKeywords) {run tail : Text} (hrun : ModifierRun Declaration.typeModifiers run)
    (htail : tail <+: hd.tail) : Header defaultKeywords where
  run := run
  keyword := hd.keyword
  blanks := hd.blanks
  name := hd.name
  tail := tail ++ ['\n']
  isRun := hrun
  keyword_mem := hd.keyword_mem
  isBlanks := hd.isBlanks
  isWord_name := hd.isWord_name
  name_ends := by
    obtain ⟨rest, hrest⟩ := htail
    exact Text.stopsAt_append (hrest ▸ hd.name_ends).of_append (by simp; decide)
  tail_open := by
    intro hm
    rcases List.mem_append.mp hm with hm | hm
    · exact hd.tail_open (htail.subset hm)
    · exact absurd (List.mem_singleton.mp hm) (by decide)

theorem modifierRun_partial : ModifierRun Declaration.typeModifiers (partialWord ++ [' ']) := by
  have : partialWord ++ [' '] = partialWord ++ ([' '] ++ []) := by simp
  rw [this]
  exact .cons (by decide) (by decide) .nil

/-- The partial header of a type is a type header with the same keyword and the same name. -/
theorem partialHeader_eq (hd : Header defaultKeywords) :
    ∃ (hd' : Header defaultKeywords) (line : Text), partialHeader (Text.strip hd.text) hd.keyword = .ok line ∧
      hd'.text = line ++ ['\n'] ∧ hd'.keyword = hd.keyword ∧ hd'.name = hd.name ∧ ('\r' ∉ hd.text → '\r' ∉ line) := by
  obtain ⟨tail, hstrip, htail⟩ := strip_header hd
  have hparts : '\r' ∉ hd.text →
      '\r' ∉ hd.run ∧ '\r' ∉ hd.keyword ∧ '\r' ∉ hd.blanks ∧ '\r' ∉ hd.name ∧ '\r' ∉ tail := by
    intro h
    simp only [Header.text, List.mem_append, not_or] at h
    exact ⟨h.1, h.2.1, h.2.2.1, h.2.2.2.1, fun hm => h.2.2.2.2 (htail.subset hm)⟩
  cases htoken : Text.hasToken partialWord (Text.strip hd.text) with
  | true =>
    refine ⟨headerLine hd hd.isRun htail, Text.strip hd.text, ?_, ?_, rfl, rfl, fun h => ?_⟩
    · rw [partialHeader, if_pos htoken]
    · rw [hstrip]
      simp [headerLine, Header.text]
    · simp [hstrip, hparts h]
  | false =>
    rw [hstrip] at htoken ⊢
    refine ⟨headerLine hd (hd.isRun.append modifierRun_partial) htail,
      hd.run ++ (partialWord ++ ' ' :: hd.keyword) ++ (hd.blanks ++ (hd.name ++ tail)), ?_, ?_, rfl, rfl, fun h => ?_⟩
    · exact partialHeader_run hd.isRun hd.keyword_mem (hd.isBlanks.stopsAt_word _) htoken
    · simp [headerLine, Header.text]
    · obtain ⟨hrun, hkeyword, hblanks, hname, htail⟩ := hparts h
      have hword : '\r' ∉ partialWord ++ [' '] := by decide
      rw [show partialWord ++ ' ' :: hd.keyword = partialWord ++ [' '] ++ hd.keyword by simp]
      simp only [List.mem_append, not_or] at hword ⊢
      exact ⟨⟨hrun, hword, hkeyword⟩, hblanks, hname, htail⟩

end TypeSplit.Splitting
