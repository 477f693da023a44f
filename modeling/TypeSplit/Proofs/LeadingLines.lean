/-
  TypeSplit.Proofs.LeadingLines — empty lines put before a text.

  Newlines in front of a text push everything down: every offset and every line number grows by their number, and nothing
  else changes. No declaration begins at a newline, and a recogniser looks back over one character only, to which a newline
  is the same as the start of the text (`Recogniser.Unled`). So the text is carried as a whole (`carries_lowered`). An empty
  line may stand between using directives, and no namespace begins on it.
  - `sites_lowered` / `sites_of_lowered`: scans find the same sites, also a scan that begins before the new lines.
  - `leading_lines_push_everything_down`: the extraction of the text with the new lines.
-/

import TypeSplit.Proofs.LineEnding
import TypeSplit.Proofs.Warning

namespace TypeSplit.Text

/-! ## Characters and places of the lowered text -/

/-- The text with `k` empty lines before it. -/
def lowered (k : Nat) (t : Text) : Text := List.replicate k '\n' ++ t

variable (k : Nat) (t : Text)

theorem length_lowered : (lowered k t).length = t.length + k := by
  rw [lowered, List.length_append, List.length_replicate, Nat.add_comm]

theorem take_lowered (p : Nat) : (lowered k t).take (p + k) = lowered k (t.take p) := by
  have hlen : p + k = (List.replicate k '\n').length + p := by rw [List.length_replicate, Nat.add_comm]
  rw [lowered, hlen, List.take_length_add_append]
  rfl

theorem drop_lowered (p : Nat) : (lowered k t).drop (p + k) = t.drop p := by
  have hlen : p + k = (List.replicate k '\n').length + p := by rw [List.length_replicate, Nat.add_comm]
  rw [lowered, hlen, List.drop_length_add_append]

theorem count_lowered : (lowered k t).count '\n' = t.count '\n' + k := by
  rw [lowered, List.count_append, List.count_replicate_self, Nat.add_comm]

theorem getElem?_lowered (p : Nat) : (lowered k t)[p + k]? = t[p]? := by
  rw [← List.head?_drop, drop_lowered, List.head?_drop]

variable {k t}

/-- The new characters are newlines. -/
theorem newline_of_lt {i : Nat} (h : i < k) : (lowered k t)[i]? = some '\n' := by
  rw [lowered, List.getElem?_append_left (by rwa [List.length_replicate]), List.getElem?_replicate_of_lt h]

theorem getElem?_lowered_iff {c : Char} (hc : c ≠ '\n') {i : Nat} :
    (lowered k t)[i]? = some c ↔ ∃ p, i = p + k ∧ t[p]? = some c := by
  constructor
  · intro hi
    by_cases hlt : i < k
    · rw [newline_of_lt hlt, Option.some.injEq] at hi
      exact absurd hi.symm hc
    · have hplace : i = (i - k) + k := by omega
      rw [hplace, getElem?_lowered] at hi
      exact ⟨i - k, hplace, hi⟩
  · intro ⟨p, hi, hp⟩
    rw [hi, getElem?_lowered, hp]

end TypeSplit.Text

namespace TypeSplit.Source

open TypeSplit.Text (lowered)

/-! ## Sites -/

theorem Cursor.at_lowered (k : Nat) (w : Text) (i : Nat) :
    at_ (lowered k w) (i + k) = ⟨(at_ w i).behind ++ List.replicate k '\n', (at_ w i).ahead⟩ := by
  rw [at_, Text.take_lowered, Text.drop_lowered, lowered, List.reverse_append, List.reverse_replicate]
  rfl

theorem Cursor.inLineComment_lowered (k : Nat) (w : Text) (i : Nat) :
    (at_ (lowered k w) (i + k)).inLineComment = (at_ w i).inLineComment := by
  have hline : ∀ b : Text, (b ++ List.replicate k '\n').takeWhile (· ≠ '\n') = b.takeWhile (· ≠ '\n') := by
    intro b
    induction b with
    | nil => cases k <;> rfl
    | cons c b ih => rw [List.cons_append, List.takeWhile_cons, List.takeWhile_cons, ih]
  rw [at_lowered, inLineComment, inLineComment, hline]

section

variable {α : Type} {accepts : Recogniser α} {t : Text}

/-- The recogniser sees no difference between newlines and the start of the text, and accepts at no newline. -/
structure Recogniser.Unled (accepts : Recogniser α) : Prop where
  behind : ∀ (b ahead : Text) (k : Nat), accepts ⟨b ++ List.replicate k '\n', ahead⟩ = accepts ⟨b, ahead⟩
  newline : ∀ c : Cursor, c.ahead.head? = some '\n' → accepts c = none

theorem Recogniser.Unled.moves (h : accepts.Unled) (k : Nat) (w : Text) : accepts.Moves (· + k) w (lowered k w) where
  lt_iff := by omega
  length := (Text.length_lowered k w).symm
  same i := by
    have hlen : ∀ x : α × Nat, (x.1, i + x.2 + k - (i + k)) = x := by
      intro x
      rw [Nat.add_right_comm, Nat.add_sub_cancel_left]
    simp only [Cursor.at_lowered, h.behind, hlen, Option.map_id']
  comment := Cursor.inLineComment_lowered k w
  between {l} hl := .inl ⟨l - k, by omega⟩

theorem sites_lowered (h : accepts.Unled) (ha : accepts.Advances) (k : Nat) {start stop : Nat} (h1 : start ≤ stop)
    (h2 : start ≤ t.length) :
    sites accepts (lowered k t) (start + k) (stop + k) = (sites accepts t start stop).map (Site.moved (· + k)) := by
  have hmoves := h.moves k (t.take stop)
  rw [← Text.take_lowered] at hmoves
  exact sites_moved ha hmoves h1 h2

/-- A scan from the start of the text passes over the new lines. -/
theorem sites_of_lowered (h : accepts.Unled) (ha : accepts.Advances) (k : Nat) :
    sites accepts (lowered k t) 0 (lowered k t).length = (sites accepts t 0 t.length).map (Site.moved (· + k)) := by
  have hlen := Text.length_lowered k t
  have hle : k ≤ (lowered k t).length := by omega
  have hscan := sites_scan ha (t := lowered k t) (Nat.zero_le (lowered k t).length) (Nat.zero_le _)
  have hpassed : ∀ i, 0 ≤ i → i < k → Passed accepts ((lowered k t).take (lowered k t).length) i := by
    intro i _ hi
    refine .inl (h.newline _ ?_)
    rw [List.take_length, Cursor.ahead_at, List.head?_drop, Text.newline_of_lt hi]
  rw [(hscan.skip (Nat.zero_le k) hpassed).unique (sites_scan ha hle hle), hlen]
  have hwindow := sites_lowered h ha k (Nat.zero_le t.length) (Nat.zero_le t.length)
  rwa [Nat.zero_add] at hwindow

end

/-! ## Blocks -/

theorem closeFrom?_add (d : Delimiters) (k at_ inner : Nat) (t : Text) :
    closeFrom? d (at_ + k) inner t = (closeFrom? d at_ inner t).map (· + k) := by
  induction t generalizing at_ inner with
  | nil => rfl
  | cons c t ih =>
    have hnext : at_ + k + 1 = at_ + 1 + k := by omega
    simp only [closeFrom?, hnext]
    split
    · exact ih ..
    · rfl
    · exact ih ..
    · exact ih ..

theorem matchBlock?_lowered (d : Delimiters) (k : Nat) (t : Text) (o : Nat) :
    matchBlock? d (lowered k t) (o + k : Nat) none = (matchBlock? d t o none).map (· + k) := by
  have hstart : (((o + k : Nat) : Int) + 1).toNat = o + 1 + k := by omega
  have hstart' : ((o : Int) + 1).toNat = o + 1 := by omega
  rw [matchBlock?, matchBlock?, hstart, hstart']
  simp only [before]
  rw [Text.drop_lowered, closeFrom?_add]

/-! ## Lines -/

theorem lineOf_lowered (k : Nat) (t : Text) (p : Nat) :
    lineOf (lowered k t) ((p + k : Nat) : Int) = lineOf t (p : Int) + k := by
  rw [lineOf, lineOf, Int.toNat_natCast, Int.toNat_natCast, Text.take_lowered, Text.count_lowered, Nat.add_right_comm]

theorem EndsWithNewline.lowered {a : Text} (h : EndsWithNewline a) (k : Nat) : EndsWithNewline (lowered k a) := by
  rcases h with rfl | ⟨a', rfl⟩
  · cases k with
    | zero => exact .inl rfl
    | succ k => exact .inr ⟨List.replicate k '\n', by rw [Text.lowered, List.append_nil, List.replicate_succ']⟩
  · exact .inr ⟨Text.lowered k a', by rw [Text.lowered, Text.lowered, List.append_assoc]⟩

/-- An offset stays in its column. -/
theorem column_lowered {t : Text} {p : Nat} (hp : p ≤ t.length) (k : Nat) :
    ((p + k : Nat) : Int) - ((lineStart? (lowered k t) (lineOf t (p : Int) + k : Nat)).getD 0 : Nat) =
      (p : Int) - ((lineStart? t (lineOf t (p : Int))).getD 0 : Nat) := by
  obtain ⟨a, f, g, b, haround, -⟩ := exists_around (Nat.le_refl p) hp
  have hstart : lineStart? (lowered k t) (lineOf t (p : Int) + k : Nat) = some (a.length + k) := by
    have hline : lineOf t (p : Int) + k = (lowered k a).count '\n' + 1 := by
      rw [haround.lineOf_start, Text.count_lowered, Nat.add_right_comm]
    have hbehind := lineStart?_behind (haround.before.lowered k) ((f ++ ((t.take p).drop p ++ g)) ++ b) hline
    rwa [Text.length_lowered, lowered, List.append_assoc, ← haround.text_eq] at hbehind
  rw [haround.lineStart?_start, hstart, Option.getD_some, Option.getD_some]
  omega

theorem lines_lowered (k : Nat) (t : Text) : lines (lowered k t) = List.replicate k [] ++ lines t := by
  induction k with
  | zero => rfl
  | succ k ih =>
    have hnewline : EndsWithNewline ['\n'] := .inr ⟨[], rfl⟩
    have hfirst := lines_append hnewline (lowered k t)
    rw [ih] at hfirst
    exact hfirst

theorem excerpt_lowered (k : Nat) (t : Text) {s : Nat} (hs : 0 < s) (e : Nat) :
    ((lines (lowered k t)).take (e + k)).drop (s + k - 1) = ((lines t).take e).drop (s - 1) := by
  have hlast : e + k = (List.replicate k ([] : Text)).length + e := by rw [List.length_replicate, Nat.add_comm]
  have hfirst : s + k - 1 = (List.replicate k ([] : Text)).length + (s - 1) := by rw [List.length_replicate]; omega
  rw [lines_lowered, hlast, List.take_length_add_append, hfirst, List.drop_length_add_append]

end TypeSplit.Source

namespace TypeSplit.Declaration

open TypeSplit.Text (isWord lowered)

/-! ## Declarations -/

theorem startsHere_newlines (b ahead : Text) (k : Nat) : startsHere ⟨b ++ List.replicate k '\n', ahead⟩ = startsHere ⟨b, ahead⟩ := by
  cases b with
  | nil => cases k <;> rfl
  | cons c b => rfl

theorem readWith_unled {α : Type} {modifiers : List Text} {read? : Text → Option (α × Text)}
    (h : (readWith modifiers read?).Blind) : (readWith modifiers read?).Unled where
  behind b ahead k := by rw [readWith, readWith, startsHere_newlines]
  newline := h.newline

theorem typeHeader_unled {keywords : List Text} (hk : ∀ k ∈ keywords, Word k) : (typeHeader keywords).Unled := by
  have h := typeHeader_blind hk
  rw [typeHeader_eq] at h ⊢
  exact readWith_unled h

theorem MemberKind.unled (kind : MemberKind) : kind.accepts.Unled := by
  cases kind with
  | method => exact readWith_unled MemberKind.method.blind
  | property => exact readWith_unled MemberKind.property.blind

/-! ## What stands around types -/

theorem namespaceAfter?_congr {before before' : Option Char} (h : before.any isWord = before'.any isWord) (t : Text) :
    namespaceAfter? before t = namespaceAfter? before' t := by
  cases t with
  | nil => rfl
  | cons c t => rw [namespaceAfter?, namespaceAfter?, h]

theorem namespaceOf_lowered (k : Nat) (t : Text) : namespaceOf (lowered k t) = namespaceOf t := by
  induction k with
  | zero => rfl
  | succ k ih =>
    have hnewline : namespaceAfter? none (lowered (k + 1) t) = namespaceAfter? (some '\n') (lowered k t) := rfl
    have hstart : namespaceAfter? (some '\n') (lowered k t) = namespaceAfter? none (lowered k t) := by
      apply namespaceAfter?_congr
      decide
    rw [← ih, namespaceOf, namespaceOf, hnewline, hstart]

theorem usings_lowered (k : Nat) (ls : List Text) : usings (List.replicate k [] ++ ls) = usings ls := by
  induction k with
  | zero => rfl
  | succ k ih => exact ih

end TypeSplit.Declaration

namespace TypeSplit

open TypeSplit.Source (Relocation)
open TypeSplit.Text (lowered)

/-! ## Outcomes -/

def TypeDeclaration.lowered (k : Nat) (d : TypeDeclaration) : TypeDeclaration :=
  { d with
    startLine := d.startLine + k
    endLine := d.endLine + k
    members := d.members.map fun m => { m with startLine := m.startLine + k, endLine := m.endLine + k } }

def Warning.lowered (k : Nat) (w : Warning) : Warning := { w with offset := w.offset + k, line := w.line + k }

namespace Extraction

def down (k : Nat) : Relocation := ⟨(· + k), (· + k), id⟩

theorem carries_lowered (k : Nat) (t : Text) : (down k).Carries t (lowered k t) where
  lt_iff := by simp only [down]; omega
  length := (Text.length_lowered k t).symm
  next _ _ := Nat.add_right_comm ..
  opens := Text.getElem?_lowered_iff (by decide)
  closes _ := Source.matchBlock?_lowered ..
  piece _ := by simp only [down, id, Text.take_lowered, Text.drop_lowered]
  strip _ := rfl
  visibility _ := rfl
  line := Source.lineOf_lowered k t
  column hp := Source.column_lowered hp k
  lines hs := Source.excerpt_lowered k t hs

theorem follows_lowered (k : Nat) (t : Text) : defaultScanner.Follows (down k) t (lowered k t) := by
  apply defaultScanner_follows (carries_lowered k t)
  · exact Source.sites_of_lowered (Declaration.typeHeader_unled fun k hk => (distinct_defaultKeywords k hk).1)
      (Declaration.typeHeader_advances _) k
  · intro kind start stop h1 h2
    exact Source.sites_lowered kind.unled kind.advances k h1 h2

/-- What is warned of stands in the text. -/
theorem warning_offset {withConstructors : Bool} {t : Text} {w : Warning}
    (h : w ∈ (run defaultScanner withConstructors (.ofText t)).warnings) : 0 ≤ w.offset := by
  obtain ⟨outcome, hmem, hw⟩ := List.mem_flatMap.mp h
  obtain ⟨site, hsite, rfl⟩ := List.mem_map.mp hmem
  obtain ⟨s, -, hoffset, -⟩ := Declaration.mem_typeSites hsite
  rw [defaultScanner, resolve_warnings hsite] at hw
  split at hw
  · cases hw
  · rw [List.mem_singleton.mp hw]
    show 0 ≤ site.offset
    omega

/-- Two extractions that tell the same, the second one of a text that is `k` lines further down. -/
structure SameFurtherDown (k : Nat) (e e' : Extraction) : Prop where
  namespaceName : e'.namespaceName = e.namespaceName
  usings : e'.usings = e.usings
  types : e'.types = e.types.map (TypeDeclaration.lowered k)
  warnings : e'.warnings = e.warnings.map (Warning.lowered k)

/-- Empty lines before a text push its types and warnings down, and change nothing else. -/
theorem leading_lines_push_everything_down (k : Nat) (t : Text) (withConstructors : Bool) :
    SameFurtherDown k (run defaultScanner withConstructors (.ofText t))
      (run defaultScanner withConstructors (.ofText (lowered k t))) where
  namespaceName := Declaration.namespaceOf_lowered k t
  usings := by
    show Declaration.usings (Source.lines (lowered k t)) = Declaration.usings (Source.lines t)
    rw [Source.lines_lowered, Declaration.usings_lowered]
  types := types_moved (carries_lowered k t) (follows_lowered k t) (Declaration.namespaceOf_lowered k t)
  warnings := by
    rw [warnings_moved (carries_lowered k t) (follows_lowered k t)]
    refine List.map_congr_left fun w hw => ?_
    have hoffset : ((w.offset.toNat + k : Nat) : Int) = w.offset + k := by
      have := warning_offset hw
      omega
    simp only [Warning.moved, Warning.lowered, down, hoffset]

end Extraction

end TypeSplit
