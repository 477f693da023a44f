/-
  TypeSplit.Proofs.LineEnding — an extraction does not depend on how lines end.

  Offsets move when every newline gets a carriage return in front of it, and nothing else changes: a scan finds the same
  sites at the moved offsets (`sites_crlf`), a brace is closed by the same brace (`matchBlock?_crlf`), and an offset stays
  on its line and in its column. So the wide text carries what the narrow one holds (`carries_crlf`). Lines lose the
  carriage return again, so only what is cut out by offsets keeps it: the headers of types and the bodies of members.
-/

import TypeSplit.Proofs.CarriageReturn
import TypeSplit.Proofs.LineExtent
import TypeSplit.Proofs.Relocation

namespace TypeSplit.Text

/-! ## Characters and places of the wide text -/

variable {t : Text}

theorem getElem?_moved (t : Text) (p : Nat) : (crlf t)[moved t p]? = t[p]?.map fun c => if c = '\n' then '\r' else c := by
  rw [← List.head?_drop, drop_moved, crlf, head?_widen, List.head?_drop]

theorem getElem?_moved_iff {c : Char} (hr : c ≠ '\r') (hn : c ≠ '\n') (p : Nat) :
    (crlf t)[moved t p]? = some c ↔ t[p]? = some c := by
  rw [getElem?_moved]
  cases t[p]? with
  | none => simp
  | some d =>
    by_cases hd : d = '\n'
    · simp [hd, Ne.symm hr, Ne.symm hn]
    · simp [hd]

theorem moved_cons (c : Char) (t : Text) (p : Nat) : moved (c :: t) (p + 1) = moved t p + if c = '\n' then 2 else 1 := by
  by_cases hc : c = '\n'
  · simp [moved, hc]
    omega
  · simp [moved, hc]
    omega

/-- A place of the wide text is one of the narrow text, or lies between a carriage return and its newline. -/
theorem moved_or_newline (t : Text) (k : Nat) : (∃ p, k = moved t p) ∨ (crlf t)[k]? = some '\n' := by
  induction t generalizing k with
  | nil => exact .inl ⟨k, by simp [moved]⟩
  | cons c t ih =>
    by_cases hc : c = '\n'
    · subst hc
      cases k with
      | zero => exact .inl ⟨0, (moved_zero _).symm⟩
      | succ k =>
        cases k with
        | zero => exact .inr rfl
        | succ k =>
          rcases ih k with ⟨p, rfl⟩ | hk
          · exact .inl ⟨p + 1, by rw [moved_cons, if_pos rfl]⟩
          · exact .inr hk
    · cases k with
      | zero => exact .inl ⟨0, (moved_zero _).symm⟩
      | succ k =>
        rcases ih k with ⟨p, rfl⟩ | hk
        · exact .inl ⟨p + 1, by rw [moved_cons, if_neg hc]⟩
        · exact .inr (by rw [crlf_cons hc]; exact hk)

/-- A character that ends no line stands in moved places only, because the new places of the wide text hold newlines. -/
theorem getElem?_crlf_iff {c : Char} (hr : c ≠ '\r') (hn : c ≠ '\n') {i : Nat} :
    (crlf t)[i]? = some c ↔ ∃ p, i = moved t p ∧ t[p]? = some c := by
  constructor
  · intro hi
    rcases moved_or_newline t i with ⟨p, rfl⟩ | hnewline
    · exact ⟨p, rfl, (getElem?_moved_iff hr hn p).mp hi⟩
    · rw [hnewline, Option.some.injEq] at hi
      exact absurd hi.symm hn
  · intro ⟨p, hi, hp⟩
    rw [hi]
    exact (getElem?_moved_iff hr hn p).mpr hp

theorem part_moved {p q : Nat} (h : p ≤ q) : ((crlf t).take (moved t q)).drop (moved t p) = crlf ((t.take q).drop p) := by
  rw [take_moved, ← moved_take h, drop_moved]

theorem count_crlf (t : Text) : (crlf t).count '\n' = t.count '\n' := by
  induction t with
  | nil => rfl
  | cons c t ih =>
    by_cases hc : c = '\n'
    · subst hc
      rw [crlf_newline, List.count_cons_of_ne (by decide), List.count_cons_self, List.count_cons_self, ih]
    · rw [crlf_cons hc, List.count_cons_of_ne hc, List.count_cons_of_ne hc, ih]

/-- How lines end is a matter of layout. -/
theorem alike_crlf (t : Text) : Alike (crlf t) t := by
  induction t with
  | nil => exact .nil
  | cons c t ih =>
    by_cases hc : c = '\n'
    · subst hc
      exact ih.newline
    · rw [crlf_cons hc]
      exact (Alike.refl [c]).append ih

end TypeSplit.Text

namespace TypeSplit.Source

open TypeSplit.Text (crlf moved splitOn)

/-! ## Sites -/

section

variable {α : Type} {accepts : Recogniser α} {t : Text}

/-- A recogniser that does not see how lines end accepts nothing between a carriage return and its newline. -/
theorem Recogniser.Blind.moves (h : accepts.Blind) (w : Text) : accepts.Moves (moved w) w (Text.crlf w) where
  lt_iff := Text.moved_lt_iff w
  length := Text.moved_length w
  same i := by
    rw [Cursor.at_moved, h.crlf]
    refine Option.map_congr fun x _ => ?_
    rw [Text.moved_add, Nat.add_sub_cancel_left, Cursor.ahead_at]
  comment i := by rw [Cursor.at_moved, Cursor.inLineComment_crlf]
  between {k} _ := by
    refine (Text.moved_or_newline w k).imp_right fun hnewline => .inl (h.newline _ ?_)
    rw [Cursor.ahead_at, List.head?_drop, hnewline]

/-- A scan of the wide text finds the same sites. -/
theorem sites_crlf (h : accepts.Blind) (ha : accepts.Advances) {start stop : Nat} (h1 : start ≤ stop) (h2 : start ≤ t.length) :
    sites accepts (crlf t) (moved t start) (moved t stop) = (sites accepts t start stop).map (Site.moved (moved t)) := by
  have hmoves := h.moves (t.take stop)
  rw [← Text.take_moved] at hmoves
  rw [← Text.moved_take h1, sites_moved ha hmoves h1 h2]
  -- Offsets move as in the text before the end of the window, as long as they do not lie behind it.
  refine List.map_congr_left fun x hx => ?_
  obtain ⟨-, hlt, hle, -⟩ := (sites_scan ha h1 h2).accepted hx
  rw [List.length_take] at hle
  rw [Site.moved, Site.moved, Text.moved_take (by omega), Text.moved_take (by omega)]

end

/-! ## Blocks -/

theorem closeFrom?_crlf {d : Delimiters} (hr : d.effect '\r' = .nothing) (hn : d.effect '\n' = .nothing) {t s : Text}
    {k : Nat} (hs : t.drop k = s) (inner : Nat) :
    closeFrom? d (moved t k) inner (crlf s) = (closeFrom? d k inner s).map (moved t) := by
  induction s generalizing k inner with
  | nil => rfl
  | cons c s ih =>
    have hget : t[k]? = some c := by rw [← List.head?_drop, hs]; rfl
    have hrest : t.drop (k + 1) = s := by rw [← List.tail_drop, hs]; rfl
    have hmoved := Text.moved_succ hget
    by_cases hc : c = '\n'
    · subst hc
      rw [if_pos rfl] at hmoved
      simp only [Text.crlf_newline, closeFrom?, hr, hn]
      rw [← ih hrest, hmoved]
    · rw [if_neg hc] at hmoved
      simp only [Text.crlf_cons hc, closeFrom?, ← hmoved]
      split
      · exact ih hrest _
      · rfl
      · exact ih hrest _
      · exact ih hrest _

/-- A brace is closed by the same brace. -/
theorem matchBlock?_crlf {t : Text} {o : Nat} (ho : t[o]? = some '{') :
    matchBlock? .braces (crlf t) (moved t o) none = (matchBlock? .braces t o none).map (moved t) := by
  have hnext : moved t (o + 1) = moved t o + 1 := Text.moved_succ ho
  have hwide : ((moved t o : Int) + 1).toNat = moved t (o + 1) := by omega
  have hnarrow : ((o : Int) + 1).toNat = o + 1 := by omega
  rw [matchBlock?, matchBlock?, hwide, hnarrow]
  simp only [before]
  rw [Text.drop_moved]
  exact closeFrom?_crlf (by decide) (by decide) rfl 0

/-! ## Lines -/

theorem lineOf_moved (t : Text) (p : Nat) : lineOf (crlf t) (moved t p : Int) = lineOf t (p : Int) := by
  rw [lineOf, lineOf, Int.toNat_natCast, Int.toNat_natCast, Text.take_moved, Text.count_crlf]

theorem EndsWithNewline.crlf {a : Text} (h : EndsWithNewline a) : EndsWithNewline (crlf a) := by
  rcases h with rfl | ⟨a', rfl⟩
  · exact .inl rfl
  · exact .inr ⟨Text.crlf a' ++ ['\r'], by rw [Text.crlf_append]; simp [Text.crlf, Text.widen]⟩

/-- An offset stays in its column. -/
theorem column_moved {t : Text} {p : Nat} (hp : p ≤ t.length) :
    (moved t p : Int) - ((lineStart? (crlf t) (lineOf t (p : Int))).getD 0 : Nat) =
      (p : Int) - ((lineStart? t (lineOf t (p : Int))).getD 0 : Nat) := by
  obtain ⟨a, f, g, b, haround, -⟩ := exists_around (Nat.le_refl p) hp
  have hline := haround.lineOf_start
  have hcount : (t.take p).count '\n' = a.count '\n' := by
    rw [lineOf, Int.toNat_natCast] at hline
    omega
  have hstart : lineStart? (crlf t) (lineOf t (p : Int)) = some (crlf a).length := by
    have hbehind := lineStart?_behind haround.before.crlf (crlf ((f ++ ((t.take p).drop p ++ g)) ++ b))
      (hline.trans (by rw [Text.count_crlf]))
    rwa [← Text.crlf_append, ← haround.text_eq] at hbehind
  rw [haround.lineStart?_start, hstart, Option.getD_some, Option.getD_some, moved, hcount, crlf, Text.length_widen]
  omega

/-- Every piece of the wide text but the last one has gained a carriage return. -/
theorem splitOn_crlf (t : Text) : ∃ front last, splitOn '\n' t = front ++ [last] ∧
    splitOn '\n' (crlf t) = front.map (· ++ ['\r']) ++ [last] := by
  induction t with
  | nil => exact ⟨[], [], rfl, rfl⟩
  | cons c t ih =>
    obtain ⟨front, last, hnarrow, hwide⟩ := ih
    by_cases hc : c = '\n'
    · subst hc
      refine ⟨[] :: front, last, by simp [splitOn, hnarrow], ?_⟩
      rw [Text.crlf_newline]
      simp [splitOn, hwide]
    · rw [Text.crlf_cons hc]
      cases front with
      | nil => exact ⟨[], c :: last, by simp [splitOn, hc, hnarrow], by simp [splitOn, hc, hwide]⟩
      | cons x front =>
        refine ⟨(c :: x) :: front, last, ?_, ?_⟩
        · simp [splitOn, hc, hnarrow]
        · simp [splitOn, hc, hwide]

theorem dropReturn_return (x : Text) : dropReturn (x ++ ['\r']) = x := by
  rw [dropReturn, List.getLast?_concat, if_pos rfl, List.dropLast_concat]

theorem lines_crlf {t : Text} (h : '\r' ∉ t) : lines (crlf t) = lines t := by
  obtain ⟨front, last, hnarrow, hwide⟩ := splitOn_crlf t
  have hsame : ∀ x ∈ front, dropReturn (x ++ ['\r']) = dropReturn x := by
    intro x hx
    have hmem : x ∈ splitOn '\n' t := by rw [hnarrow]; exact List.mem_append_left _ hx
    rw [dropReturn_return, dropReturn_of_not_mem fun hr => h (Text.mem_of_mem_splitOn hmem hr)]
  have hfront : (front.map (· ++ ['\r'])).map dropReturn = front.map dropReturn := by
    rw [List.map_map]
    exact List.map_congr_left hsame
  simp only [lines, rawLines, hnarrow, hwide, List.getLast?_concat, List.dropLast_concat]
  split
  · exact hfront
  · rw [List.map_append, List.map_append, hfront]

end TypeSplit.Source

namespace TypeSplit.Declaration

open TypeSplit.Text (crlf isWord moved)

/-! ## Declarations -/

theorem MemberKind.blind (kind : MemberKind) : kind.accepts.Blind := by
  cases kind with
  | method => exact memberWith_blind methodTail?_blind
  | property => exact memberWith_blind propertyTail?_blind

/-! ## What stands around types -/

theorem visibilityOf_crlf (header : Text) : visibilityOf (crlf header) = visibilityOf header := by
  have hkeyword : ∀ v : Visibility, Word v.keyword := by
    intro v
    cases v <;> decide
  have hsame : ∀ v : Visibility, Text.hasToken v.keyword (crlf header) = Text.hasToken v.keyword header :=
    fun v => Text.hasToken_alike (hkeyword v) (Text.alike_crlf header)
  simp only [visibilityOf, hsame]

theorem namespaceHere?_crlf (t : Text) : namespaceHere? (crlf t) = namespaceHere? t := by
  have hname : ∀ r : Text, (crlf r).takeWhile (!endsNamespace ·) = r.takeWhile (!endsNamespace ·) := by
    intro r
    rw [crlf, Text.takeWhile_widen (by decide) rfl]
    refine Text.widen_of_not_mem fun hmem => ?_
    exact absurd (List.mem_takeWhile_imp hmem) (by decide)
  simp only [namespaceHere?, Text.isPrefixOf?_crlf (k := "namespace".toList) (by decide) (by decide)]
  cases "namespace".toList.isPrefixOf? t with
  | none => rfl
  | some r =>
    simp only [Option.map_some, Option.bind_eq_bind, Option.bind_some, blanks?_crlf]
    cases blanks? r with
    | none => rfl
    | some s => simp only [Option.map_some, Option.bind_some, hname]

theorem namespaceAfter?_crlf {before before' : Option Char} (h : before.any isWord = before'.any isWord) (t : Text) :
    namespaceAfter? before (crlf t) = namespaceAfter? before' t := by
  induction t generalizing before before' with
  | nil => rfl
  | cons c t ih =>
    by_cases hc : c = '\n'
    · subst hc
      have hreturn : namespaceHere? ('\r' :: '\n' :: crlf t) = none := rfl
      have hnewline : namespaceHere? ('\n' :: crlf t) = none := rfl
      have hnewline' : namespaceHere? ('\n' :: t) = none := rfl
      simp only [Text.crlf_newline, namespaceAfter?, h, hreturn, hnewline, hnewline', Option.none_or, ite_self]
      exact ih rfl
    · have hhere := namespaceHere?_crlf (c :: t)
      rw [Text.crlf_cons hc] at hhere
      simp only [Text.crlf_cons hc, namespaceAfter?, h, hhere, ih rfl]

theorem namespaceOf_crlf (t : Text) : namespaceOf (crlf t) = namespaceOf t := by
  rw [namespaceOf, namespaceOf, namespaceAfter?_crlf rfl]

end TypeSplit.Declaration

namespace TypeSplit

open TypeSplit.Source (Relocation)
open TypeSplit.Text (crlf moved)

/-! ## Outcomes -/

namespace Extraction

def wide (t : Text) : Relocation := ⟨moved t, id, crlf⟩

theorem carries_crlf {t : Text} (hr : '\r' ∉ t) : (wide t).Carries t (crlf t) where
  lt_iff := Text.moved_lt_iff t
  length := Text.moved_length t
  next hp hc := (Text.moved_succ hp).trans (by rw [if_neg hc]; rfl)
  opens := Text.getElem?_crlf_iff (by decide) (by decide)
  closes := Source.matchBlock?_crlf
  piece := Text.part_moved
  strip := Text.strip_crlf
  visibility := Declaration.visibilityOf_crlf
  line := Source.lineOf_moved t
  column := Source.column_moved
  lines _ _ := by rw [Source.lines_crlf hr]; rfl

theorem follows_crlf {t : Text} (hr : '\r' ∉ t) : defaultScanner.Follows (wide t) t (crlf t) := by
  apply defaultScanner_follows (carries_crlf hr)
  · have hsites := Source.sites_crlf (t := t) (Declaration.typeHeader_blind fun k hk => (distinct_defaultKeywords k hk).1)
      (Declaration.typeHeader_advances _) (Nat.zero_le t.length) (Nat.zero_le _)
    rwa [Text.moved_zero, Text.moved_length] at hsites
  · intro kind start stop h1 h2
    exact Source.sites_crlf kind.blind kind.advances h1 h2

def withoutReturns (t : Text) : Text := t.filter (· ≠ '\r')

theorem withoutReturns_crlf (t : Text) : withoutReturns (crlf t) = withoutReturns t := by
  induction t with
  | nil => rfl
  | cons c t ih =>
    simp only [withoutReturns] at ih ⊢
    by_cases hc : c = '\n'
    · subst hc
      rw [Text.crlf_newline, List.filter_cons_of_neg (by decide), List.filter_cons_of_pos (by decide),
        List.filter_cons_of_pos (by decide), ih]
    · rw [Text.crlf_cons hc, List.filter_cons, List.filter_cons, ih]

/-- The type without the carriage returns of its header and of the bodies of its members. -/
def plainType (d : TypeDeclaration) : TypeDeclaration :=
  { d with
    header := withoutReturns d.header
    members := d.members.map fun m => { m with body := withoutReturns m.body } }

theorem plainType_crlf (t : Text) (d : TypeDeclaration) : plainType (d.moved (wide t)) = plainType d := by
  simp only [plainType, TypeDeclaration.moved, wide, id, withoutReturns_crlf, List.map_map]
  congr 1
  refine List.map_congr_left fun x _ => ?_
  simp only [Function.comp_apply, Member.moved, id, withoutReturns_crlf]

/-- Two extractions that tell the same, but for the carriage returns in what is cut out by offsets, and the offsets. -/
structure SameButReturns (e e' : Extraction) : Prop where
  namespaceName : e'.namespaceName = e.namespaceName
  usings : e'.usings = e.usings
  types : e'.types.map plainType = e.types.map plainType
  warnings : e'.warnings.map (fun w => (w.cause, w.line, w.name)) = e.warnings.map fun w => (w.cause, w.line, w.name)

/-- A text and the same text with a carriage return before every newline are extracted alike. -/
theorem line_endings_do_not_matter {t : Text} (hr : '\r' ∉ t) (withConstructors : Bool) :
    SameButReturns (run defaultScanner withConstructors (.ofText t))
      (run defaultScanner withConstructors (.ofText (crlf t))) where
  namespaceName := Declaration.namespaceOf_crlf t
  usings := congrArg Declaration.usings (Source.lines_crlf hr)
  types := by
    rw [types_moved (carries_crlf hr) (follows_crlf hr) (Declaration.namespaceOf_crlf t), List.map_map]
    exact List.map_congr_left fun d _ => plainType_crlf t d
  warnings := by
    rw [warnings_moved (carries_crlf hr) (follows_crlf hr), List.map_map]
    rfl

def manyLines : Text := "class C\n  : D\n\x7b\n    public void A()\n    \x7b\n    \x7d\n\x7d\nclass E\n\x7b\n".toList

def manyLinesFound : { e : Extraction // e = run defaultScanner true (.ofText manyLines) ∧
    e.types.map (fun d => (d.header, d.members.map (·.body))) = [("class C\n  : D".toList, ["\x7b\n    \x7d".toList])] ∧
      e.warnings.map (fun w => (w.line, w.name)) = [(8, ['E'])] } :=
  ⟨run defaultScanner true (.ofText manyLines), rfl, by
    rw [defaultScanner_eq]
    decide +kernel⟩

theorem many_lines_end_either_way :
    (run defaultScanner true (.ofText manyLines)).types.map (fun d => (d.header, d.members.map (·.body))) =
        [("class C\n  : D".toList, ["\x7b\n    \x7d".toList])] ∧
      (run defaultScanner true (.ofText manyLines)).warnings.map (fun w => (w.line, w.name)) = [(8, ['E'])] ∧
      SameButReturns (run defaultScanner true (.ofText manyLines)) (run defaultScanner true (.ofText (crlf manyLines))) := by
  obtain ⟨_, rfl, htypes, hwarnings⟩ := manyLinesFound
  exact ⟨htypes, hwarnings, line_endings_do_not_matter (by decide) true⟩

end Extraction

end TypeSplit
