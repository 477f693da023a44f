/-
  TypeSplit.Proofs.Appending — text put behind a text.

  Text that is put behind another one can make type sites that start in the old text: a header without a brace of its
  own takes the first brace of the new text, and it may stand in the body of a type. Such a header stands behind the last
  brace of the old text. So it comes after every site that was there before (`Scan.appended`), and no type around it takes
  it for a nested one, because it opens no block before the end of that type (`nestedSpans_append`). Everything else about
  a type is read before its last brace. So a type that is resolved stays as it was (`resolve_append`), and between the
  types there may now be one whose block the new text closes.
  - `namespaceAfter?_append`: a namespace that is declared in a text comes first.
  - `appending_keeps_types`: the types of a text are found again, in their order, in every text that goes on from it.
-/

import TypeSplit.Proofs.LineExtent

namespace TypeSplit.Text

variable {t s : Text}

theorem find?_append {c : Char} {p e : Nat} (he : e ≤ t.length) : find? (t ++ s) c p e = find? t c p e := by
  have hget : ∀ i < e, (t ++ s)[i]? = t[i]? := fun i hi => List.getElem?_append_left (by omega)
  cases hf : find? t c p e with
  | none =>
    rw [find?_eq_none_iff] at hf ⊢
    intro i h1 h2
    rw [hget i h2]
    exact hf i h1 h2
  | some o =>
    rw [find?_eq_some_iff] at hf ⊢
    obtain ⟨h1, h2, h3, h4⟩ := hf
    refine ⟨h1, h2, by rw [hget o h2]; exact h3, ?_⟩
    intro i hp hi
    rw [hget i (by omega)]
    exact h4 i hp hi

theorem slice_append {p q : Nat} (hp : p ≤ t.length) (hq : q ≤ t.length) : slice (t ++ s) p q = slice t p q := by
  unfold slice
  have hplace : ∀ i ≤ t.length, place (t ++ s).length (i : Int) = place t.length (i : Int) := by
    intro i hi
    rw [place_natCast, place_natCast, List.length_append]
    omega
  have hstop : place t.length (q : Int) ≤ t.length := by rw [place_natCast]; exact Nat.min_le_right q t.length
  rw [hplace p hp, hplace q hq, List.take_append_of_le_length hstop]

end TypeSplit.Text

namespace TypeSplit.Source

open TypeSplit.Text (splitOn)

variable {t s : Text} {e : Nat}

/-! ## Blocks, sites and lines before the end -/

theorem matchBlock?_append_before (d : Delimiters) (o : Nat) (he : e ≤ t.length) :
    matchBlock? d (t ++ s) o (some e) = matchBlock? d t o (some e) := by
  have hbefore : before (some (e : Int)) (t ++ s) = before (some (e : Int)) t := by
    simp only [before, Int.toNat_natCast, List.take_append_of_le_length he]
  simp only [matchBlock?, hbefore]

/-- A block that closes in a text closes there, whatever follows. -/
theorem matchBlock?_append {d : Delimiters} {o c : Nat} (h : matchBlock? d t o none = some c) :
    matchBlock? d (t ++ s) o none = some c := by
  have hbefore := matchBlock?_limit.mpr ⟨h, (matchBlock?_bounds h).2⟩
  rw [← matchBlock?_append_before (s := s) d o (Nat.le_refl _)] at hbefore
  exact (matchBlock?_limit.mp hbefore).1

theorem sites_append {α : Type} (accepts : Recogniser α) (o : Nat) (he : e ≤ t.length) :
    sites accepts (t ++ s) o e = sites accepts t o e := by
  unfold sites
  rw [List.take_append_of_le_length he]

theorem lineOf_append {p : Nat} (hp : p ≤ t.length) : lineOf (t ++ s) (p : Int) = lineOf t (p : Int) := by
  unfold lineOf
  rw [Int.toNat_natCast, List.take_append_of_le_length hp]

theorem afterNewline?_append {k : Nat} (hk : k ≤ t.count '\n') (at_ : Nat) :
    afterNewline? k at_ (t ++ s) = afterNewline? k at_ t := by
  induction t generalizing k at_ with
  | nil =>
    have hk : k = 0 := by simpa using hk
    subst hk
    simp only [afterNewline?]
  | cons c t ih =>
    cases k with
    | zero => simp only [afterNewline?]
    | succ k =>
      simp only [List.cons_append, afterNewline?]
      by_cases hc : c = '\n'
      · subst hc
        rw [List.count_cons_self] at hk
        exact ih (by simpa using hk) _
      · rw [List.count_cons_of_ne hc] at hk
        rw [if_neg hc]
        exact ih hk _

theorem lineStart?_append {p : Nat} : lineStart? (t ++ s) (lineOf t (p : Int)) = lineStart? t (lineOf t (p : Int)) := by
  have hcount : (t.take p).count '\n' ≤ t.count '\n' := (List.take_sublist p t).count_le '\n'
  unfold lineStart?
  apply afterNewline?_append
  simp only [lineOf, Int.toNat_natCast]
  omega

/-- The last newline of a text stands behind all its offsets. -/
theorem lineOf_le_length_lines (ht : EndsWithNewline t) (he : e < t.length) : lineOf t (e : Int) ≤ (lines t).length := by
  rw [length_lines ht]
  rcases ht with rfl | ⟨a, rfl⟩
  · cases he
  · have hea : e ≤ a.length := by simp at he; omega
    have hcount := (List.take_sublist e a).count_le '\n'
    rw [lineOf, Int.toNat_natCast, List.take_append_of_le_length hea, List.count_append]
    simpa using hcount

theorem EndsWithNewline.tail {c : Char} (h : EndsWithNewline (c :: t)) : EndsWithNewline t := by
  rcases h with h | ⟨a, h⟩
  · cases h
  · cases a with
    | nil => exact .inl (List.cons.inj h).2
    | cons _ a => exact .inr ⟨a, (List.cons.inj h).2⟩

/-! ## The walk over the longer text -/

theorem Cursor.inLineComment_append {p : Nat} (hp : p ≤ t.length) :
    (at_ (t ++ s) p).inLineComment = (at_ t p).inLineComment := by
  unfold Cursor.inLineComment
  rw [behind_at, behind_at, List.take_append_of_le_length hp]

variable {α : Type} {accepts : Recogniser α}

namespace Scan

variable {w : Text} {i : Nat} {xs : List (Site α)}

theorem passed_of_nil (h : Scan accepts w i []) {k : Nat} (h1 : i ≤ k) (h2 : k ≤ w.length) : Passed accepts w k := by
  by_contra hk
  obtain ⟨x, hx, -⟩ := h.covers h1 h2 hk
  cases hx

/-- A walk passes over everything before its first site, and goes on behind it. -/
theorem before_first {x : Site α} (h : Scan accepts w i (x :: xs)) :
    (∀ k, i ≤ k → k < x.start → Passed accepts w k) ∧ Scan accepts w x.stop xs := by
  generalize hl : x :: xs = l at h
  induction h with
  | done => cases hl
  | pass i j l hij hpass _ ih =>
    obtain ⟨hbefore, hrest⟩ := ih hl
    refine ⟨fun k h1 h2 => ?_, hrest⟩
    by_cases hk : k < j
    · exact hpass k h1 hk
    · exact hbefore k (by omega) h2
  | take i n a l _ _ _ _ hrest _ =>
    obtain ⟨rfl, rfl⟩ := List.cons.inj hl
    exact ⟨fun k h1 h2 => absurd h1 (Nat.not_le.mpr h2), hrest⟩

end Scan

/-- What the recogniser sees in a text it sees there too when `s` follows, and nothing else that ends in the text; and a match
that starts later does not end earlier. -/
structure Recogniser.Appends (accepts : Recogniser α) (t s : Text) : Prop where
  accepts_iff : ∀ {i n : Nat} {a : α}, i ≤ t.length →
    (accepts (.at_ t i) = some (a, n) ↔ accepts (.at_ (t ++ s) i) = some (a, n) ∧ i + n ≤ t.length)
  in_order : ∀ {i j m n : Nat} {a b : α}, i ≤ j → accepts (.at_ (t ++ s) i) = some (a, m) →
    accepts (.at_ (t ++ s) j) = some (b, n) → i + m ≤ j + n

/-- The walk over the longer text sees the sites of the text first; its other sites end behind the text. -/
theorem Scan.appended (ha : accepts.Appends t s) {i : Nat} {xs ys : List (Site α)} (hi : i ≤ t.length)
    (h : Scan accepts t i xs) (h' : Scan accepts (t ++ s) i ys) :
    ∃ more, ys = xs ++ more ∧ ∀ x ∈ more, t.length < x.stop := by
  induction xs generalizing i ys with
  | nil =>
    refine ⟨ys, rfl, ?_⟩
    intro x hx
    by_contra hle
    obtain ⟨h1, h2, -, hacc, hcomment⟩ := h'.accepted hx
    have hseen := (ha.accepts_iff (by omega)).mpr ⟨hacc, by omega⟩
    rcases h.passed_of_nil h1 (by omega) with hnone | hin
    · rw [hseen] at hnone
      cases hnone
    · rw [Cursor.inLineComment_append (by omega), hin] at hcomment
      cases hcomment
  | cons x xs ih =>
    obtain ⟨hbefore, hrest⟩ := h.before_first
    obtain ⟨h1, h2, h3, hacc, hcomment⟩ := h.accepted List.mem_cons_self
    obtain ⟨hacc', -⟩ := (ha.accepts_iff (by omega)).mp hacc
    -- A match before `x` ends before `x` does, so it would have been seen in the text.
    have hpass : ∀ k, i ≤ k → k < x.start → Passed accepts (t ++ s) k := by
      intro k hk1 hk2
      rcases hbefore k hk1 hk2 with hnone | hin
      · left
        cases hk : accepts (.at_ (t ++ s) k) with
        | none => rfl
        | some r =>
          have hle := ha.in_order (Nat.le_of_lt hk2) hk hacc'
          rw [(ha.accepts_iff (by omega)).mpr ⟨hk, by omega⟩] at hnone
          cases hnone
      · right
        rw [Cursor.inLineComment_append (by omega), hin]
    have hcomment' : (Cursor.at_ (t ++ s) x.start).inLineComment = false := by
      rw [Cursor.inLineComment_append (by omega), hcomment]
    obtain ⟨rest, rfl, hrest'⟩ := (h'.skip h1 hpass).first (by simp; omega) hacc' hcomment'
    have hstop : x.start + (x.stop - x.start) = x.stop := by omega
    rw [hstop] at hrest' ⊢
    obtain ⟨more, rfl, hmore⟩ := ih h3 hrest hrest'
    exact ⟨more, rfl, hmore⟩

end TypeSplit.Source

namespace TypeSplit.Declaration

open TypeSplit.Source (Cursor EndsWithNewline)
open TypeSplit.Text (isBlank isWord)

variable {t s : Text} {keywords : List Text}

/-! ## Sites of the longer text -/

theorem startsHere_append {i : Nat} (hi : i ≤ t.length) : startsHere (.at_ (t ++ s) i) = startsHere (.at_ t i) := by
  unfold startsHere
  rw [Cursor.behind_at, Cursor.behind_at, List.take_append_of_le_length hi]

theorem typeHeader_appends (hk : Distinct keywords) (t s : Text) : (typeHeader keywords).Appends t s where
  accepts_iff := by
    intro i n v hi
    have hdrop : (t ++ s).drop i = t.drop i ++ s := List.drop_append_of_le_length hi
    constructor
    · intro h
      obtain ⟨hs, hd, rest, hkey, hname, hahead, rfl⟩ := typeHeader_reads h
      rw [Cursor.ahead_at] at hahead
      have hlength := congrArg List.length hahead
      simp only [List.length_drop, List.length_append, List.length_cons] at hlength
      refine ⟨?_, by omega⟩
      have hwide : (Cursor.at_ (t ++ s) i).ahead = hd.text ++ '{' :: (rest ++ s) := by
        rw [Cursor.ahead_at, hdrop, hahead]
        simp
      rw [typeHeader_of_header hk hd (by rw [startsHere_append hi]; exact hs) hwide, hkey, hname]
    · rintro ⟨h, hle⟩
      obtain ⟨hs, hd, rest, hkey, hname, hahead, rfl⟩ := typeHeader_reads h
      rw [Cursor.ahead_at, hdrop] at hahead
      have hlength : (hd.text ++ ['{']).length ≤ (t.drop i).length := by
        simp only [List.length_append, List.length_singleton, List.length_drop]
        omega
      have hfront : hd.text ++ ['{'] <+: t.drop i :=
        List.prefix_of_prefix_length_le ⟨rest, by rw [hahead]; simp⟩ (List.prefix_append (t.drop i) s) hlength
      obtain ⟨rest', hrest⟩ := hfront
      have hnarrow : (Cursor.at_ t i).ahead = hd.text ++ '{' :: rest' := by
        rw [Cursor.ahead_at, ← hrest]
        simp
      rw [typeHeader_of_header hk hd (by rw [← startsHere_append (s := s) hi]; exact hs) hnarrow, hkey, hname]
  in_order := by
    intro i j m n a b hij hi hj
    have hopen := hk.open_not_mem
    obtain ⟨hm, hfirst⟩ := find?_typeHeader hopen hi
    obtain ⟨hn, hsecond⟩ := find?_typeHeader hopen hj
    obtain ⟨-, -, -, hnone⟩ := Text.find?_eq_some_iff.mp hfirst
    obtain ⟨hle, -, hbrace, -⟩ := Text.find?_eq_some_iff.mp hsecond
    by_contra hlt
    exact hnone (j + n - 1) (by omega) (by omega) hbrace

/-- The type sites of a text come first in a longer one; the others stand behind the last brace of the text. -/
theorem typeSites_append (hk : Distinct keywords) (t s : Text) :
    ∃ more, typeSites keywords (t ++ s) = typeSites keywords t ++ more ∧
      ∀ x ∈ more, ∃ q : Nat, x.offset = q ∧ ∀ i, q ≤ i → i < t.length → t[i]? ≠ some '{' := by
  obtain ⟨more, hsites, hmore⟩ := (typeSites_scan keywords t).appended (typeHeader_appends hk t s) (Nat.zero_le _)
    (typeSites_scan keywords (t ++ s))
  have hopen := hk.open_not_mem
  unfold typeSites
  rw [hsites, List.map_append]
  refine ⟨_, congrArg (· ++ _) (List.map_congr_left fun x hx => ?_), ?_⟩
  · obtain ⟨-, -, hstop, -⟩ := (typeSites_scan keywords t).accepted hx
    rw [List.take_append_of_le_length (by omega)]
  · intro y hy
    obtain ⟨x, hx, rfl⟩ := List.mem_map.mp hy
    refine ⟨x.start, rfl, ?_⟩
    intro i h1 h2 hi
    have hmem : x ∈ Source.sites (typeHeader keywords) (t ++ s) 0 (t ++ s).length := by
      rw [hsites]
      exact List.mem_append_right _ hx
    obtain ⟨-, hfind⟩ := typeSite_opening hopen hmem
    obtain ⟨-, -, -, hnone⟩ := Text.find?_eq_some_iff.mp hfind
    have hlast := hmore x hx
    exact hnone i h1 (by omega) (by rw [List.getElem?_append_left h2]; exact hi)

theorem memberSites_append (withProperties : Bool) (o : Nat) {e : Nat} (he : e ≤ t.length) :
    memberSites withProperties (t ++ s) o e = memberSites withProperties t o e := by
  simp only [memberSites, memberSitesOf, Source.sites_append _ o he]

/-! ## The namespace -/

theorem namespaceAfter?_eq_none {t : Text} (ht : 'n' ∉ t) (before : Option Char) : namespaceAfter? before t = none := by
  induction t generalizing before with
  | nil => rfl
  | cons c t ih =>
    simp only [List.mem_cons, not_or] at ht
    have hhere : namespaceHere? (c :: t) = none := by
      have hprefix : "namespace".toList.isPrefixOf? (c :: t) = none := by
        rw [Option.eq_none_iff_forall_ne_some]
        intro r hr
        have hr := List.isPrefixOf?_eq_some_iff_append_eq.mp hr
        exact ht.1 (List.cons.inj hr).1
      simp only [namespaceHere?, hprefix, Option.bind_eq_bind, Option.bind_none]
    simp only [namespaceAfter?, hhere, ih ht.2, Option.or_none, ite_self]

theorem takeWhile_stop {p : Char → Bool} {y : Char} (hy : p y = false) (v z : Text) :
    (v ++ y :: z).takeWhile p = v.takeWhile p := by
  induction v with
  | nil => simp [hy]
  | cons x v ih =>
    rw [List.cons_append, List.takeWhile_cons, List.takeWhile_cons, ih]

theorem dropWhile_stop {p : Char → Bool} {v : Text} (hv : ¬ ∀ c ∈ v, p c = true) (z : Text) :
    (v ++ z).dropWhile p = v.dropWhile p ++ z := by
  rw [List.dropWhile_append, if_neg]
  intro hempty
  exact hv (List.dropWhile_eq_nil_iff.mp (List.isEmpty_iff.mp hempty))

/-- What follows a text can only complete a declaration of which the text has the word and nothing else. -/
theorem namespaceHere?_append {t : Text} (ht : EndsWithNewline t) (hne : t ≠ []) (s : Text) :
    namespaceHere? (t ++ s) = namespaceHere? t ∨ namespaceHere? t = none ∧ 'n' ∉ t.tail := by
  obtain ⟨a, rfl⟩ := ht.resolve_left hne
  by_cases hpre : "namespace".toList <+: a
  · obtain ⟨r, rfl⟩ := hpre
    have hread : ∀ z : Text, namespaceHere? ("namespace".toList ++ r ++ '\n' :: z) =
        (blanks? (r ++ '\n' :: z)).bind fun u =>
          if (u.takeWhile (!endsNamespace ·)).isEmpty then none else some (u.takeWhile (!endsNamespace ·)) := by
      intro z
      have hfound : "namespace".toList.isPrefixOf? ("namespace".toList ++ r ++ '\n' :: z) = some (r ++ '\n' :: z) :=
        List.isPrefixOf?_eq_some_iff_append_eq.mpr (by simp)
      simp only [namespaceHere?, hfound, Option.bind_eq_bind, Option.bind_some]
    by_cases hall : ∀ c ∈ r, isBlank c = true
    · right
      have hblank : ∀ c ∈ r ++ ['\n'], isBlank c = true := by
        intro c hc
        rcases List.mem_append.mp hc with hc | hc
        · exact hall c hc
        · rw [List.mem_singleton.mp hc]
          decide
      refine ⟨?_, ?_⟩
      · rw [hread []]
        cases hu : blanks? (r ++ ['\n']) with
        | none => rfl
        | some u =>
          obtain ⟨b, hb, -, hstop⟩ := blanks?_eq_some_iff.mp hu
          cases u with
          | nil => rfl
          | cons x u =>
            have := hblank x (by rw [hb]; simp)
            rw [Text.stopsAt_cons.mp hstop] at this
            cases this
      · intro hn
        rcases List.mem_append.mp (show 'n' ∈ "amespace".toList ++ (r ++ ['\n']) by simpa using hn) with hn | hn
        · exact absurd hn (by decide)
        · exact absurd (hblank _ hn) (by decide)
    · left
      rw [List.append_assoc, List.singleton_append, hread s, hread []]
      cases r with
      | nil => exact absurd (by simp) hall
      | cons x r =>
        simp only [List.cons_append, blanks?]
        by_cases hx : isBlank x = true
        · have hr : ¬ ∀ c ∈ r, isBlank c = true := fun h => hall (by simpa [hx] using h)
          simp only [hx, if_true, Option.bind_some, dropWhile_stop hr,
            takeWhile_stop (p := (!endsNamespace ·)) (y := '\n') (by decide)]
        · simp only [hx, Option.bind_none, if_false, Bool.false_eq_true]
  · left
    have hnone : ∀ z : Text, namespaceHere? (a ++ '\n' :: z) = none := by
      intro z
      have hprefix : "namespace".toList.isPrefixOf? (a ++ '\n' :: z) = none := by
        rw [Option.eq_none_iff_forall_ne_some]
        intro u hu
        have hu : "namespace".toList <+: a ++ '\n' :: z := ⟨u, List.isPrefixOf?_eq_some_iff_append_eq.mp hu⟩
        by_cases hlen : "namespace".toList.length ≤ a.length
        · exact hpre (List.prefix_of_prefix_length_le hu (List.prefix_append _ _) hlen)
        · have hshort : a ++ ['\n'] <+: "namespace".toList :=
            List.prefix_of_prefix_length_le ⟨z, by simp⟩ hu (by simp only [List.length_append, List.length_singleton]; omega)
          exact absurd (hshort.subset (List.mem_append_right _ (List.mem_singleton.mpr rfl))) (by decide)
      simp only [namespaceHere?, hprefix, Option.bind_eq_bind, Option.bind_none]
    rw [List.append_assoc, List.singleton_append, hnone s, hnone []]

/-- A namespace that a text declares is declared first in every text that goes on from it. -/
theorem namespaceAfter?_append {t : Text} (ht : EndsWithNewline t) (s : Text) {before : Option Char} {name : Text}
    (h : namespaceAfter? before t = some name) : namespaceAfter? before (t ++ s) = some name := by
  induction t generalizing before with
  | nil => cases h
  | cons c t ih =>
    simp only [List.cons_append, namespaceAfter?] at h ⊢
    split at h
    · rename_i hword
      rw [if_pos hword]
      exact ih ht.tail h
    · rename_i hword
      rw [if_neg hword]
      rcases namespaceHere?_append ht (List.cons_ne_nil c t) s with hsame | ⟨hnone, hn⟩
      · rw [List.cons_append] at hsame
        rw [hsame]
        rcases Option.or_eq_some_iff.mp h with h | ⟨hnone, h⟩
        · rw [h, Option.some_or]
        · rw [hnone, Option.none_or]
          exact ih ht.tail h
      · rw [List.tail_cons] at hn
        rw [hnone, Option.none_or, namespaceAfter?_eq_none hn] at h
        cases h

theorem namespaceOf_append {t : Text} (ht : EndsWithNewline t) (s : Text) (h : namespaceOf t ≠ []) :
    namespaceOf (t ++ s) = namespaceOf t := by
  unfold namespaceOf at h ⊢
  cases hname : namespaceAfter? none t with
  | none => rw [hname] at h; exact absurd rfl h
  | some name => rw [namespaceAfter?_append ht s hname]

end TypeSplit.Declaration

namespace TypeSplit.Extraction

open TypeSplit.Declaration (MemberSite TypeSite)
open TypeSplit.Source (Block EndsWithNewline lineOf matchBlock?)

/-! ## Types of the longer text -/

section

variable {t s : Text} {withConstructors : Bool} {body : Body}

theorem nestedSpans_append {sites more : List TypeSite} {o e : Nat} (he : e ≤ t.length)
    (hsites : ∀ x ∈ sites, ∃ q : Nat, x.offset = q)
    (hmore : ∀ x ∈ more, ∃ q : Nat, x.offset = q ∧ ∀ i, q ≤ i → i < t.length → t[i]? ≠ some '{') :
    nestedSpans (t ++ s) (sites ++ more) o e = nestedSpans t sites o e := by
  have hblock : ∀ q : Nat, blockOf? (t ++ s) q e = blockOf? t q e := by
    intro q
    simp only [blockOf?, Text.find?_append he, Source.matchBlock?_append_before _ _ he]
  have hnew : more.filterMap (fun site => if (o : Int) < site.offset ∧ site.offset < (e : Int) then
      (blockOf? (t ++ s) site.offset e).map fun x => (site.offset, x.2) else none) = [] := by
    rw [List.filterMap_eq_nil_iff]
    intro x hx
    obtain ⟨q, hq, hfree⟩ := hmore x hx
    have hnone : Text.find? t '{' q e = none :=
      Text.find?_eq_none_iff.mpr fun i h1 h2 => hfree i h1 (by omega)
    have hopen : blockOf? t q e = none := by
      simp only [blockOf?, hnone, Option.bind_eq_bind, Option.bind_none]
    rw [hq, hblock, hopen, Option.map_none, ite_self]
  unfold nestedSpans
  rw [List.filterMap_append, hnew, List.append_nil]
  refine List.filterMap_congr fun x hx => ?_
  obtain ⟨q, hq⟩ := hsites x hx
  simp only [hq, hblock]

/-- A member is read from its own lines. -/
theorem memberAt_append (ht : EndsWithNewline t) {site : MemberSite} {p e : Nat} (hp : site.offset = p) (hpe : p ≤ e)
    (he : e < t.length) (o : Nat) : memberAt (.ofText (t ++ s)) site o (e + 1) = memberAt (.ofText t) site o (e + 1) := by
  have hend : ((e + 1 : Nat) : Int) - 1 = (e : Int) := by omega
  have hlines : (Source.lines (t ++ s)).take (lineOf t (e : Int)) = (Source.lines t).take (lineOf t (e : Int)) := by
    rw [Source.lines_append ht, List.take_append_of_le_length (Source.lineOf_le_length_lines ht he)]
  simp only [memberAt, Content.ofText, hp, hend, Source.lineOf_append (show p ≤ t.length by omega),
    Source.lineOf_append (Nat.le_of_lt he), hlines, Source.lineStart?_append,
    List.take_append_of_le_length (show e + 1 ≤ t.length from he)]

theorem judge_append (ht : EndsWithNewline t) (hstop : body.stop ≤ t.length) {site : MemberSite} {p : Nat}
    (hp : site.offset = p) (hlt : p ≤ t.length) (resume : Nat) :
    judge withConstructors (.ofText (t ++ s)) body resume site = judge withConstructors (.ofText t) body resume site := by
  have hfind : Text.find? (t ++ s) '{' site.offset body.stop = Text.find? t '{' site.offset body.stop := by
    rw [hp, Text.find?_append hstop]
  have hline : lineOf (t ++ s) site.offset = lineOf t site.offset := by rw [hp, Source.lineOf_append hlt]
  simp only [judge, Content.ofText, hfind, hline]
  cases ho : Text.find? t '{' site.offset body.stop with
  | none => rfl
  | some o =>
    simp only [Source.matchBlock?_append_before _ _ hstop]
    cases hc : matchBlock? .braces t o (some body.stop) with
    | none => rfl
    | some c =>
      rw [hp] at ho
      obtain ⟨hpo, -⟩ := Text.find?_eq_some_iff.mp ho
      have hbounds := Source.matchBlock?_bounds (Source.matchBlock?_limit.mp hc).1
      obtain ⟨e, rfl⟩ : ∃ e, c = e + 1 := ⟨c - 1, by omega⟩
      have hmember := memberAt_append (s := s) ht hp (show p ≤ e by omega) (by omega) o
      simp only [Content.ofText] at hmember
      simp only [hmember]

theorem verdicts_append (ht : EndsWithNewline t) (hstop : body.stop ≤ t.length) {xs : List MemberSite}
    (hxs : ∀ x ∈ xs, ∃ p : Nat, x.offset = p ∧ p ≤ t.length) (resume : Nat) :
    verdicts withConstructors (.ofText (t ++ s)) body resume xs = verdicts withConstructors (.ofText t) body resume xs := by
  induction xs generalizing resume with
  | nil => rfl
  | cons x xs ih =>
    obtain ⟨⟨p, hp, hlt⟩, hrest⟩ := List.forall_mem_cons.mp hxs
    simp only [verdicts, judge_append ht hstop hp hlt, ih hrest]

end

section

variable {t s : Text} {withConstructors : Bool}

/-- A type that is resolved in a text is resolved in the same way when something follows. -/
theorem resolve_append (ht : EndsWithNewline t) {more : List TypeSite}
    (hmore : ∀ x ∈ more, ∃ q : Nat, x.offset = q ∧ ∀ i, q ≤ i → i < t.length → t[i]? ≠ some '{')
    {site : TypeSite} (hsite : site ∈ defaultScanner.typeSites t) {body : Body} {vs : List Verdict}
    (h : resolve defaultScanner withConstructors (.ofText t) (defaultScanner.typeSites t) site = .resolved body vs) :
    resolve defaultScanner withConstructors (.ofText (t ++ s)) (defaultScanner.typeSites t ++ more) site =
      .resolved body vs := by
  have hoffsets : ∀ x ∈ defaultScanner.typeSites t, ∃ q : Nat, x.offset = q := by
    intro x hx
    obtain ⟨y, -, hoffset, -⟩ := Declaration.mem_typeSites hx
    exact ⟨y.start, hoffset⟩
  obtain ⟨rfl, hfind, hblock, hnested, rfl⟩ := resolve_eq_resolved h
  obtain ⟨owner, opening, stop, nested⟩ := body
  simp only at hfind hblock hnested hsite ⊢
  have hblock : Block t opening stop := hblock
  have hlength := hblock.le_length
  have hlt := hblock.lt
  obtain ⟨q, hq⟩ := hoffsets owner hsite
  have hopen : Text.find? (t ++ s) '{' owner.offset (t ++ s).length = some opening := by
    rw [hq] at hfind ⊢
    obtain ⟨h1, h2, h3, h4⟩ := Text.find?_eq_some_iff.mp hfind
    have h2 : opening < t.length := h2
    refine Text.find?_eq_some_iff.mpr ⟨h1, by simp; omega, ?_, ?_⟩
    · rw [List.getElem?_append_left h2]
      exact h3
    · intro i hqi hi
      rw [List.getElem?_append_left (by omega)]
      exact h4 i hqi hi
  have hmembers : defaultScanner.memberSites (t ++ s) opening stop = defaultScanner.memberSites t opening stop :=
    Declaration.memberSites_append true opening (by omega)
  have hspans := nestedSpans_append (s := s) (o := opening) (show stop ≤ t.length by omega) hoffsets hmore
  simp only [resolve, Content.ofText, hopen, Source.matchBlock?_append hblock.closes, Nat.add_sub_cancel, hmembers, hspans]
  have hxs : ∀ x ∈ defaultScanner.memberSites t opening stop, ∃ p : Nat, x.offset = p ∧ p ≤ t.length := by
    intro x hx
    obtain ⟨p, b, c, hp, -, hpb, -, hinner, -⟩ := Declaration.memberSite_block hblock hx
    have := hinner.lt
    have := hinner.le_length
    exact ⟨p, hp, by omega⟩
  have hverdicts : verdicts withConstructors (.ofText (t ++ s)) ⟨owner, opening, stop, nested⟩ opening
      (defaultScanner.memberSites t opening stop) = verdicts withConstructors (.ofText t) ⟨owner, opening, stop, nested⟩
        opening (defaultScanner.memberSites t opening stop) :=
    verdicts_append ht (show stop ≤ t.length by omega) hxs opening
  simp only [Content.ofText] at hverdicts hnested
  rw [← hnested, hverdicts]

theorem declare_append {body : Body} {q : Nat} (hq : body.owner.offset = q) (hqo : q ≤ body.opening)
    (hblock : Block t body.opening body.stop) (namespaceName : Text) (vs : List Verdict) :
    declare (t ++ s) namespaceName body vs = declare t namespaceName body vs := by
  have hlt := hblock.lt
  have hlength := hblock.le_length
  have hstart : q ≤ t.length := by omega
  simp only [declare, hq, Text.slice_append hstart (show body.opening ≤ t.length by omega),
    Source.lineOf_append hstart, Source.lineOf_append (show body.stop ≤ t.length by omega)]

/-- What a function finds in a list is found, in order, by one that finds no less. -/
theorem filterMap_sublist {α β : Type} {f g : α → Option β} {xs : List α} (h : ∀ x ∈ xs, ∀ y, f x = some y → g x = some y) :
    (xs.filterMap f).Sublist (xs.filterMap g) := by
  induction xs with
  | nil => exact .slnil
  | cons x xs ih =>
    obtain ⟨hx, hrest⟩ := List.forall_mem_cons.mp h
    have ih := ih hrest
    rw [List.filterMap_cons, List.filterMap_cons]
    cases hf : f x with
    | some y =>
      rw [hx y hf]
      exact ih.cons_cons y
    | none =>
      cases g x with
      | none => exact ih
      | some y => exact ih.cons y

/-- The declarations of the outcomes, under a namespace of any name, are found again. -/
theorem declarations_append (withConstructors : Bool) (ht : EndsWithNewline t) (s namespaceName : Text) :
    ((run defaultScanner withConstructors (.ofText t)).outcomes.filterMap (Outcome.declaration? t namespaceName)).Sublist
      ((run defaultScanner withConstructors (.ofText (t ++ s))).outcomes.filterMap
        (Outcome.declaration? (t ++ s) namespaceName)) := by
  obtain ⟨more, hsites, hmore⟩ := Declaration.typeSites_append distinct_defaultKeywords t s
  have hsites : defaultScanner.typeSites (t ++ s) = defaultScanner.typeSites t ++ more := hsites
  simp only [run, Content.ofText, hsites, List.map_append, List.filterMap_append, List.filterMap_map]
  refine List.Sublist.trans ?_ (List.sublist_append_left _ _)
  apply filterMap_sublist
  intro site hsite d hd
  simp only [Function.comp_apply] at hd ⊢
  cases hout : resolve defaultScanner withConstructors (.ofText t) (defaultScanner.typeSites t) site with
  | skipped w =>
    simp only [Content.ofText] at hout
    rw [hout] at hd
    cases hd
  | resolved body vs =>
    have hlong := resolve_append (s := s) ht hmore hsite hout
    obtain ⟨howner, hfind, hblock, -⟩ := resolve_eq_resolved hout
    obtain ⟨y, -, hq, -⟩ := Declaration.mem_typeSites hsite
    have hqo : y.start ≤ body.opening := by
      rw [hq] at hfind
      exact (Text.find?_eq_some_iff.mp hfind).1
    simp only [Content.ofText] at hout hlong
    rw [hout] at hd
    rw [hlong, ← hd]
    exact congrArg some (declare_append (by rw [howner, hq]) hqo hblock namespaceName vs)

end

def anonymous (d : TypeDeclaration) : TypeDeclaration := { d with namespaceName := [] }

theorem types_anonymous (e : Extraction) :
    e.types.map anonymous = e.outcomes.filterMap (Outcome.declaration? e.content.text []) := by
  rw [types, List.map_filterMap]
  refine List.filterMap_congr fun outcome _ => ?_
  cases outcome <;> rfl

/-- The types of the first extraction are types of the second, in their order and with all they have; their namespace is
the same too if the first extraction found one. -/
structure FoundAgain (e e' : Extraction) : Prop where
  types : (e.types.map anonymous).Sublist (e'.types.map anonymous)
  types_of_namespace : e.namespaceName ≠ [] → e.types.Sublist e'.types

/-- Text behind a text that is empty or ends with a newline changes none of its types. -/
theorem appending_keeps_types {t : Text} (ht : EndsWithNewline t) (s : Text) (withConstructors : Bool) :
    FoundAgain (run defaultScanner withConstructors (.ofText t))
      (run defaultScanner withConstructors (.ofText (t ++ s))) where
  types := by
    rw [types_anonymous, types_anonymous]
    exact declarations_append withConstructors ht s []
  types_of_namespace := by
    intro hname
    have hsame : Declaration.namespaceOf (t ++ s) = Declaration.namespaceOf t := Declaration.namespaceOf_append ht s hname
    have hfound := declarations_append withConstructors ht s (Declaration.namespaceOf t)
    simp only [Extraction.types, run, Content.ofText, hsame] at hfound ⊢
    exact hfound

/-- A type that is not closed, and in it a type with a header that has no brace. -/
def unclosedText : Text := "namespace N;\nclass Z\n\x7b\nclass A\n\x7b\n    void M() { }\n    struct B\n\x7d\n".toList

def unclosedTextEnd : Text := "\x7d\nclass D { }\n".toList

def unclosedTextFound : { e : Extraction × Extraction //
    e.1 = run defaultScanner true (.ofText unclosedText) ∧
      e.2 = run defaultScanner true (.ofText (unclosedText ++ unclosedTextEnd)) ∧
      e.1.namespaceName = ['N'] ∧ e.1.types.map (fun d => (d.name, d.memberNames)) = [(['A'], [['M']])] ∧
      e.2.types.map (fun d => (d.name, d.startLine, d.endLine)) = [(['Z'], 2, 9), (['A'], 4, 8), (['B'], 7, 10)] } :=
  ⟨(run defaultScanner true (.ofText unclosedText), run defaultScanner true (.ofText (unclosedText ++ unclosedTextEnd))),
    rfl, rfl, by
    rw [defaultScanner_eq]
    decide +kernel⟩

/-- The type is found again between two new ones, of which the second starts in its body. -/
theorem a_type_is_found_between_new_ones :
    (run defaultScanner true (.ofText unclosedText)).namespaceName = ['N'] ∧
      (run defaultScanner true (.ofText unclosedText)).types.map (fun d => (d.name, d.memberNames)) = [(['A'], [['M']])] ∧
      (run defaultScanner true (.ofText (unclosedText ++ unclosedTextEnd))).types.map
        (fun d => (d.name, d.startLine, d.endLine)) = [(['Z'], 2, 9), (['A'], 4, 8), (['B'], 7, 10)] ∧
      FoundAgain (run defaultScanner true (.ofText unclosedText))
        (run defaultScanner true (.ofText (unclosedText ++ unclosedTextEnd))) := by
  obtain ⟨⟨_, _⟩, rfl, rfl, hname, hbefore, hafter⟩ := unclosedTextFound
  have hend : EndsWithNewline unclosedText := .inr ⟨unclosedText.dropLast, by decide⟩
  exact ⟨hname, hbefore, hafter, appending_keeps_types hend unclosedTextEnd true⟩

end TypeSplit.Extraction
