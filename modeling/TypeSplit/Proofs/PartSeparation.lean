/-
  TypeSplit.Proofs.PartSeparation — when a pattern gives the parts of a type different file names.

  A name is what the segments of the pattern give, one behind the other. Where two parts of a type have one name, they have
  it segment by segment (`fill_inj`), unless the name shifts: one segment gives more for the first part and another one
  more for the second. So a pattern separates the parts of a type exactly if any two of them are told apart by a segment
  and no name shifts (`parts_are_separated_iff`). The names do not shift if the segments are steady, that is, if none of
  them gets shorter as the number of the part grows.
  - `steady_of_blind`, `steady_plainPart`, `steady_wholeFormat`: literals, fields without the part, the part as it is and in
    a format for whole numbers are steady.
  - `separates_of_anchored`: whatever stands in front, the part as it is separates the parts if a literal sets it off and
    nothing behind it reads the part.
  - `accepted_patterns_collide`: doubled braces around the part make it a literal, and a pattern with such a literal
    is accepted; and a segment that gets shorter can undo what the part adds.
-/

import TypeSplit.Proofs.Refusal

namespace TypeSplit.NamePattern

open TypeSplit.Text (isWord)

/-! ## Texts put together -/

section

variable {α β ε : Type}

theorem length_flatten_le {xs ys : List (List α)} (h : List.Forall₂ (fun a b => a.length ≤ b.length) xs ys) :
    xs.flatten.length ≤ ys.flatten.length := by
  induction h with
  | nil => exact Nat.le_refl _
  | cons hab _ ih =>
    rw [List.flatten_cons, List.flatten_cons, List.length_append, List.length_append]
    omega

/-- Lists that grow at no place are equal if they are so put together. -/
theorem flatten_inj_of_length_le {xs ys : List (List α)} (h : List.Forall₂ (fun a b => a.length ≤ b.length) xs ys)
    (heq : xs.flatten = ys.flatten) : xs = ys := by
  induction h with
  | nil => rfl
  | @cons a b xs ys hab hrest ih =>
    rw [List.flatten_cons, List.flatten_cons] at heq
    have htotal := congrArg List.length heq
    rw [List.length_append, List.length_append] at htotal
    have hrests := length_flatten_le hrest
    obtain ⟨rfl, htail⟩ := List.append_inj heq (by omega)
    rw [ih htail]

/-- What stands behind the last `c` is the same in one and the same list. -/
theorem eq_of_append_cons_eq [DecidableEq α] {u v a b : List α} {c : α} (ha : c ∉ a) (hb : c ∉ b)
    (h : u ++ c :: a = v ++ c :: b) : a = b := by
  have htail : ∀ {w l : List α}, c ∉ l → (w ++ c :: l).reverse.takeWhile (· != c) = l.reverse := by
    intro w l hl
    rw [List.reverse_append, List.reverse_cons, List.append_assoc, List.takeWhile_append_of_pos]
    · simp
    · intro x hx
      have hne : x ≠ c := fun heq => hl (heq ▸ List.mem_reverse.mp hx)
      simpa using hne
  have hreverse := congrArg (fun l => l.reverse.takeWhile (· != c)) h
  simp only [htail ha, htail hb] at hreverse
  exact List.reverse_inj.mp hreverse

variable {f g : α → Except ε β}

theorem forall₂_of_mapM {R : β → β → Prop} {xs : List α} {ys zs : List β} (hf : xs.mapM f = .ok ys) (hg : xs.mapM g = .ok zs)
    (h : ∀ x ∈ xs, ∀ y z, f x = .ok y → g x = .ok z → R y z) : List.Forall₂ R ys zs := by
  induction xs generalizing ys zs with
  | nil =>
    cases hf
    cases hg
    exact .nil
  | cons x xs ih =>
    simp only [List.mapM_cons, bind_eq_ok, pure_eq_ok] at hf hg
    obtain ⟨y, hy, ys, hys, rfl⟩ := hf
    obtain ⟨z, hz, zs, hzs, rfl⟩ := hg
    exact .cons (h x List.mem_cons_self y z hy hz) (ih hys hzs fun w hw => h w (List.mem_cons_of_mem _ hw))

theorem eq_of_mapM {xs : List α} {ys : List β} (hf : xs.mapM f = .ok ys) (hg : xs.mapM g = .ok ys) :
    ∀ x ∈ xs, f x = g x := by
  induction xs generalizing ys with
  | nil => simp
  | cons x xs ih =>
    simp only [List.mapM_cons, bind_eq_ok, pure_eq_ok] at hf hg
    obtain ⟨y, hy, ys, hys, rfl⟩ := hf
    obtain ⟨z, hz, zs, hzs, heq⟩ := hg
    obtain ⟨rfl, rfl⟩ := List.cons.inj heq
    exact List.forall_mem_cons.mpr ⟨hy.trans hz.symm, ih hys hzs⟩

theorem mapM_congr {xs : List α} (h : ∀ x ∈ xs, f x = g x) : xs.mapM f = xs.mapM g := by
  induction xs with
  | nil => rfl
  | cons x xs ih =>
    obtain ⟨hx, hxs⟩ := List.forall_mem_cons.mp h
    rw [List.mapM_cons, List.mapM_cons, hx, ih hxs]

end

/-! ## Segments as the part grows -/

section

variable [Objects]

def Segment.Shorter (s : Segment) (values values' : Values) : Prop :=
  ∃ a b, s.fill values 1 = .ok a ∧ s.fill values' 1 = .ok b ∧ a.length < b.length

/-- What the segment gives for the name of a type does not get shorter. -/
def Segment.Steady (s : Segment) : Prop :=
  ∀ (typeName ext : Text) (p q : Int) (a b : List CodePoint), (∀ c ∈ typeName, isWord c = true) → 1 ≤ p → p ≤ q →
    s.fill ⟨typeName, p, ext⟩ 1 = .ok a → s.fill ⟨typeName, q, ext⟩ 1 = .ok b → a.length ≤ b.length

def Segment.Blind (s : Segment) : Prop :=
  ∀ (typeName ext : Text) (p q : Int), s.fill ⟨typeName, p, ext⟩ 1 = s.fill ⟨typeName, q, ext⟩ 1

def plainPart : Segment := .field ⟨"part".toList, none, []⟩

/-- If no segment gets shorter, one name is the same name segment by segment. -/
theorem fill_inj {pattern : Text} {values values' : Values} {name : List CodePoint}
    (hgrows : ∀ s ∈ (parts pattern).1, ¬ s.Shorter values' values) (h : fill pattern values = .ok name)
    (h' : fill pattern values' = .ok name) : ∀ s ∈ (parts pattern).1, s.fill values 1 = s.fill values' 1 := by
  obtain ⟨-, xs, hxs, hname⟩ := fill_eq_ok_iff.mp h
  obtain ⟨-, ys, hys, hname'⟩ := fill_eq_ok_iff.mp h'
  have hlengths : List.Forall₂ (fun a b => a.length ≤ b.length) xs ys := by
    refine forall₂_of_mapM hxs hys fun s hs a b ha hb => ?_
    exact Nat.le_of_not_lt fun hlt => hgrows s hs ⟨b, a, hb, ha, hlt⟩
  obtain rfl := flatten_inj_of_length_le hlengths (hname.symm.trans hname')
  exact eq_of_mapM hxs hys

theorem fill_congr {pattern : Text} {values values' : Values}
    (h : ∀ s ∈ (parts pattern).1, s.fill values 1 = s.fill values' 1) : fill pattern values = fill pattern values' := by
  rw [fill, fill, fillDeep_succ, fillDeep_succ, mapM_congr h]

theorem steady_of_blind {s : Segment} (h : s.Blind) : s.Steady := by
  intro typeName ext p q a b _ _ _ ha hb
  rw [h typeName ext p q, hb] at ha
  cases ha
  exact Nat.le_refl _

theorem blind_literal (t : Text) : (Segment.literal t).Blind := fun _ _ _ _ => rfl

/-- The value of a name other than the part does not depend on the part. -/
theorem lookup_blind {name : Text} (h : name.takeWhile (!beginsStep ·) ≠ "part".toList) (typeName ext : Text) (p q : Int) :
    lookup ⟨typeName, p, ext⟩ name = lookup ⟨typeName, q, ext⟩ name := by
  unfold lookup splitName
  simp only [Values.get?, if_neg h]

theorem blind_field {f : Field} (hname : f.name.takeWhile (!beginsStep ·) ≠ "part".toList) (hformat : '{' ∉ f.format) :
    (Segment.field f).Blind := by
  intro typeName ext p q
  show f.fill ⟨typeName, p, ext⟩ 1 = f.fill ⟨typeName, q, ext⟩ 1
  unfold Field.fill Field.value
  rw [lookup_blind hname typeName ext p q, Field.formatText_plain hformat, Field.formatText_plain hformat]

end

/-! ## Whole numbers -/

theorem length_toDigits_mono {b m n : Nat} (hb : 2 ≤ b) (h : m ≤ n) : (Nat.toDigits b m).length ≤ (Nat.toDigits b n).length := by
  have hpos : 0 < (Nat.toDigits b n).length := Nat.length_toDigits_pos
  rw [Nat.length_toDigits_le_iff hb hpos]
  exact Nat.lt_of_le_of_lt h ((Nat.length_toDigits_le_iff hb hpos).mp (Nat.le_refl _))

/-- The part as it is gives its digits. -/
theorem fill_plainPart_eq_ok [Objects] {typeName ext : Text} {p : Int} {a : List CodePoint} (hp : 1 ≤ p)
    (h : plainPart.fill ⟨typeName, p, ext⟩ 1 = .ok a) : a = (Text.decimal p.natAbs).points := by
  have hdigits : (Format.wholeText p).map Text.points = .ok a := h
  rw [Format.wholeText_eq] at hdigits
  split at hdigits
  · cases hdigits
  · cases hdigits
    rw [Text.decimalInt, if_neg (by omega)]

theorem steady_plainPart [Objects] : plainPart.Steady := by
  intro typeName ext p q a b _ hp hpq ha hb
  rw [fill_plainPart_eq_ok hp ha, fill_plainPart_eq_ok (by omega) hb]
  simp only [Text.points, List.length_map]
  exact length_toDigits_mono (by decide) (by omega)

theorem points_inj {s t : Text} (h : s.points = t.points) : s = t := by
  rw [← Text.text_points s, h, Text.text_points]

/-- The part as it is tells any two parts apart. -/
theorem plainPart_separates [Objects] {typeName ext : Text} {p q : Int} {a b : List CodePoint} (hp : 1 ≤ p) (hq : 1 ≤ q)
    (hne : p ≠ q) (ha : plainPart.fill ⟨typeName, p, ext⟩ 1 = .ok a) (hb : plainPart.fill ⟨typeName, q, ext⟩ 1 = .ok b) :
    a ≠ b := by
  rw [fill_plainPart_eq_ok hp ha, fill_plainPart_eq_ok hq hb]
  intro h
  have hdigits := Text.decimal_inj (points_inj h)
  omega

namespace Format

theorem length_pad (f : Format) (left right : Nat) (t : List CodePoint) :
    (f.pad left right t).length = left + t.length + right := by
  simp [pad, Nat.add_assoc]

/-- A number is laid out to the width of the format, or to its own length if that is greater. -/
theorem length_layout (f : Format) (negative : Bool) (mark digits : Text) (rest : List CodePoint) :
    (f.layout negative mark digits rest).length =
      max (f.width.getD 0) ((f.signText negative ++ mark).length + rest.length +
        (f.digitText ((f.signText negative ++ mark).length + rest.length) digits).length) := by
  unfold layout
  simp only [Text.points, List.length_map]
  split
  · simp only [length_pad, List.length_append, List.length_map]
    omega
  · simp only [length_pad, List.length_append, List.length_map]
    omega
  · simp only [length_pad, List.length_append, List.length_map]
    omega
  · simp only [length_pad, List.length_append, List.length_map]
    omega

theorem length_digitText_mono {f : Format} (hf : f.separator = none) (others : Nat) {a b : Text} (ha : a ≠ [])
    (h : a.length ≤ b.length) : (f.digitText others a).length ≤ (f.digitText others b).length := by
  have hb : b ≠ [] := by
    intro hnil
    rw [hnil] at h
    exact ha (List.length_eq_zero_iff.mp (Nat.le_zero.mp h))
  have hdigits : ∀ {t : Text}, t ≠ [] → (f.digitText others t).length =
      max (if f.fill = .char '0' && f.align = '=' then f.width.getD 0 - others else 0) t.length := by
    intro t ht
    unfold digitText
    rw [if_neg (by simpa using ht)]
    simp only [hf, List.length_append, List.length_replicate]
    omega
  rw [hdigits ha, hdigits hb]
  omega

theorem two_le_base (c : Char) : 2 ≤ (base c).1 := by
  unfold base
  split <;> decide

/-- A whole number that is written is laid out, with as many digits as it has. -/
theorem whole_eq_layout {f : Format} {room : Nat} (hcode : f.code ≠ 'c') {n : Int} (hn : 0 ≤ n) {t : List CodePoint}
    (h : f.whole room n = .ok t) : ∃ digits : Text,
      digits.length = (Nat.toDigits (base f.code).1 n.natAbs).length ∧
        t = f.layout false (if f.alternate then (base f.code).2 else []) digits [] := by
  simp only [whole, if_neg hcode, within] at h
  split at h
  · cases h
  · split at h
    · cases h
    · split at h
      · cases h
      · split at h
        · cases h
        · cases h
          refine ⟨_, ?_, by rw [decide_eq_false (by omega : ¬ n < 0)]⟩
          split <;> simp

/-- A whole number in a format without separators does not get shorter as it grows. -/
theorem length_whole_mono {f : Format} {room : Nat} (hf : f.separator = none) (hcode : f.code ≠ 'c') {p q : Int}
    {a b : List CodePoint} (hp : 0 ≤ p) (hpq : p ≤ q) (ha : f.whole room p = .ok a) (hb : f.whole room q = .ok b) :
    a.length ≤ b.length := by
  obtain ⟨d, hd, rfl⟩ := whole_eq_layout hcode hp ha
  obtain ⟨e, he, rfl⟩ := whole_eq_layout hcode (by omega) hb
  have hmono : d.length ≤ e.length := by
    rw [hd, he]
    exact length_toDigits_mono (two_le_base _) (by omega)
  have hne : d ≠ [] := by
    intro hnil
    have hpos : 0 < (Nat.toDigits (base f.code).1 p.natAbs).length := Nat.length_toDigits_pos
    rw [← hd, hnil] at hpos
    cases hpos
  rw [length_layout, length_layout]
  have hgrows := length_digitText_mono hf ((f.signText false ++ if f.alternate then (base f.code).2 else []).length +
    ([] : List CodePoint).length) hne hmono
  omega

end Format

/-- The part in a format for whole numbers, without separators. -/
theorem steady_wholeFormat [Objects] {format : Text} {f : Format} (hread : Format.read .number format.points = .ok f)
    (hplain : '{' ∉ format) (hf : f.separator = none) (hcode : f.code ∈ ['b', 'd', 'o', 'x', 'X', 'n']) :
    (Segment.field ⟨"part".toList, none, format⟩).Steady := by
  by_cases hempty : format = []
  · subst hempty
    exact steady_plainPart
  intro typeName ext p q a b _ hp hpq ha hb
  have hchar : f.code ≠ 'c' := fun h => absurd (h ▸ hcode) (by decide)
  have hnumber : ∀ n : Int, f.number Objects.room n = f.whole Objects.room n := by
    intro n
    have hwhole : f.code ∈ ['b', 'c', 'd', 'o', 'x', 'X', 'n'] :=
      (List.Sublist.cons_cons 'b' (List.sublist_cons_self 'c' _)).subset hcode
    unfold Format.number
    rw [if_pos (List.contains_iff_mem.mpr hwhole)]
  have hfill : ∀ n : Int, (Segment.field ⟨"part".toList, none, format⟩).fill ⟨typeName, n, ext⟩ 1 =
      f.whole Objects.room n := by
    intro n
    show (Field.formatText _ 1 _ >>= (Value.number n).formatted) = _
    rw [Field.formatText_plain hplain]
    show Value.formatted (.number n) format.points = _
    unfold Value.formatted
    rw [← hnumber]
    simp only [List.isEmpty_iff, Text.points, List.map_eq_nil_iff, if_neg hempty]
    rw [← Text.points, hread]
    rfl
  rw [hfill] at ha hb
  exact Format.length_whole_mono hf hchar (by omega) hpq ha hb

end TypeSplit.NamePattern

namespace TypeSplit.Splitting

open TypeSplit.Declaration (Word)
open TypeSplit.NamePattern (Segment fill parts plainPart)
open TypeSplit.Text (isWord)

section

variable [NamePattern.Objects]

/-! ## File names -/

structure TwoParts (style : Style) (typeName : Text) (p q : Int) (f g : List CodePoint) : Prop where
  word : ∀ c ∈ typeName, isWord c = true
  first : 1 ≤ p
  second : 1 ≤ q
  different : p ≠ q
  first_name : style.name typeName p = .ok f
  second_name : style.name typeName q = .ok g

def Separates (pattern : Text) : Prop :=
  ∀ style typeName p q f g, style.filePattern = pattern → TwoParts style typeName p q f g → f ≠ g

/-- Some segment gives different texts for two parts of a type. -/
def TellsApart (pattern : Text) : Prop :=
  ∀ style typeName p q f g, style.filePattern = pattern → TwoParts style typeName p q f g →
    ∃ s ∈ (parts pattern).1, s.fill ⟨typeName, p, style.extension⟩ 1 ≠ s.fill ⟨typeName, q, style.extension⟩ 1

/-- Two parts of a type have one name, in which a segment takes up more for one part and another more for the other. -/
def Shifts (pattern : Text) : Prop :=
  ∃ style typeName p q f, style.filePattern = pattern ∧ TwoParts style typeName p q f f ∧
    (∃ s ∈ (parts pattern).1, s.Shorter ⟨typeName, p, style.extension⟩ ⟨typeName, q, style.extension⟩) ∧
    ∃ s ∈ (parts pattern).1, s.Shorter ⟨typeName, q, style.extension⟩ ⟨typeName, p, style.extension⟩

/-- A literal with something other than a digit at its end sets the part off, and nothing behind the part reads it. -/
def Anchored (pattern : Text) : Prop :=
  ∃ before t c after, (parts pattern).1 = before ++ .literal (t ++ [c]) :: plainPart :: after ∧ c.isDigit = false ∧
    ∀ s ∈ after, s.Blind

variable {pattern : Text}

theorem separates_iff : Separates pattern ↔ TellsApart pattern ∧ ¬ Shifts pattern := by
  constructor
  · intro h
    refine ⟨?_, fun ⟨style, typeName, p, q, f, hpattern, htwo, _⟩ => h style typeName p q f f hpattern htwo rfl⟩
    intro style typeName p q f g hpattern htwo
    by_contra hnone
    simp only [not_exists, not_and, not_not] at hnone
    have hsame : style.name typeName p = style.name typeName q := by
      unfold Style.name
      rw [hpattern]
      exact NamePattern.fill_congr hnone
    have hnames := htwo.first_name.symm.trans (hsame.trans htwo.second_name)
    exact h style typeName p q f g hpattern htwo (Except.ok.inj hnames)
  · intro ⟨htells, hshifts⟩ style typeName p q f g hpattern htwo heq
    subst heq
    obtain ⟨s, hs, hne⟩ := htells style typeName p q f f hpattern htwo
    have hfirst : fill pattern ⟨typeName, p, style.extension⟩ = .ok f := hpattern ▸ htwo.first_name
    have hsecond : fill pattern ⟨typeName, q, style.extension⟩ = .ok f := hpattern ▸ htwo.second_name
    -- no segment gets shorter from `p` to `q`, or none from `q` to `p`
    by_cases hgrows : ∃ s ∈ (parts pattern).1, s.Shorter ⟨typeName, q, style.extension⟩ ⟨typeName, p, style.extension⟩
    · have hshrinks : ∀ s ∈ (parts pattern).1,
          ¬ s.Shorter ⟨typeName, p, style.extension⟩ ⟨typeName, q, style.extension⟩ :=
        fun s hs hshorter => hshifts ⟨style, typeName, p, q, f, hpattern, htwo, ⟨s, hs, hshorter⟩, hgrows⟩
      exact hne (NamePattern.fill_inj hshrinks hsecond hfirst s hs).symm
    · have hnone : ∀ s ∈ (parts pattern).1, ¬ s.Shorter ⟨typeName, q, style.extension⟩ ⟨typeName, p, style.extension⟩ :=
        fun s hs hshorter => hgrows ⟨s, hs, hshorter⟩
      exact hne (NamePattern.fill_inj hnone hfirst hsecond s hs)

/-- Under steady segments no name shifts. -/
theorem not_shifts_of_steady (hsteady : ∀ s ∈ (parts pattern).1, s.Steady) : ¬ Shifts pattern := by
  intro ⟨style, typeName, p, q, f, _, htwo, ⟨s, hs, a, b, ha, hb, hlt⟩, s', hs', a', b', ha', hb', hlt'⟩
  rcases Int.le_total p q with hle | hle
  · have := hsteady s' hs' typeName style.extension p q b' a' htwo.word htwo.first hle hb' ha'
    omega
  · have := hsteady s hs typeName style.extension q p b a htwo.word htwo.second hle hb ha
    omega

theorem tellsApart_plainPart (h : plainPart ∈ (parts pattern).1) : TellsApart pattern := by
  intro style typeName p q f g hpattern htwo
  subst hpattern
  obtain ⟨-, xs, hxs, -⟩ := NamePattern.fill_eq_ok_iff.mp htwo.first_name
  obtain ⟨-, ys, hys, -⟩ := NamePattern.fill_eq_ok_iff.mp htwo.second_name
  obtain ⟨a, -, ha⟩ := exists_of_forall₂ (forall₂_of_mapM_ok hxs) h
  obtain ⟨b, -, hb⟩ := exists_of_forall₂ (forall₂_of_mapM_ok hys) h
  refine ⟨plainPart, h, fun heq => ?_⟩
  rw [ha, hb] at heq
  exact NamePattern.plainPart_separates htwo.first htwo.second htwo.different ha hb (Except.ok.inj heq)

/-- The name under an anchored pattern: something, what is no digit, the digits of the part, and the rest. -/
theorem name_of_anchored {style : Style} {typeName : Text} {p : Int} {f : List CodePoint} {before after : List Segment}
    {t : Text} {c : Char} (hparts : (parts style.filePattern).1 = before ++ .literal (t ++ [c]) :: plainPart :: after)
    (hp : 1 ≤ p) (h : style.name typeName p = .ok f) :
    ∃ front rest, after.mapM (Segment.fill ⟨typeName, p, style.extension⟩ 1) = .ok rest ∧
      f = (front ++ .char c :: (Text.decimal p.natAbs).points) ++ rest.flatten := by
  obtain ⟨-, xs, hxs, rfl⟩ := NamePattern.fill_eq_ok_iff.mp h
  rw [hparts, List.mapM_append] at hxs
  simp only [List.mapM_cons, bind_eq_ok, pure_eq_ok] at hxs
  obtain ⟨front, -, _, ⟨literal, hliteral, _, ⟨digits, hdigits, rest, hrest, rfl⟩, rfl⟩, rfl⟩ := hxs
  cases hliteral
  obtain rfl := NamePattern.fill_plainPart_eq_ok hp hdigits
  exact ⟨front.flatten ++ t.points, rest, hrest, by simp [Text.points]⟩

theorem separates_of_anchored (h : Anchored pattern) : Separates pattern := by
  obtain ⟨before, t, c, after, hparts, hc, hblind⟩ := h
  intro style typeName p q f g hpattern htwo heq
  subst hpattern heq
  obtain ⟨front, rest, hrest, hname⟩ := name_of_anchored hparts htwo.first htwo.first_name
  obtain ⟨front', rest', hrest', hname'⟩ := name_of_anchored hparts htwo.second htwo.second_name
  rw [NamePattern.mapM_congr fun s hs => hblind s hs typeName style.extension p q, hrest'] at hrest
  obtain rfl := Except.ok.inj hrest
  have hset : ∀ n : Nat, CodePoint.char c ∉ (Text.decimal n).points := by
    intro n hmem
    obtain ⟨d, hd, hdc⟩ := List.mem_map.mp hmem
    cases hdc
    rw [Text.isDigit_decimal hd] at hc
    cases hc
  have hfronts := List.append_cancel_right (hname.symm.trans hname')
  have hdigits := Text.decimal_inj (NamePattern.points_inj (NamePattern.eq_of_append_cons_eq (hset _) (hset _) hfronts))
  have hfirst := htwo.first
  have hsecond := htwo.second
  have hdifferent := htwo.different
  omega

/-- A pattern that is accepted gives a name to the first part of a type; if it does not read the part, then to the second
part too, and the same one. -/
theorem not_separates_of_blind (haccepted : Settings.checkPattern pattern = .ok ())
    (hblind : ∀ s ∈ (parts pattern).1, s.Blind) : ¬ Separates pattern := by
  obtain ⟨⟨name, hname⟩, -⟩ := Settings.checkPattern_eq_ok haccepted
  have hsecond : fill pattern ⟨['T'], 2, ".cs".toList⟩ = .ok name := by
    rw [NamePattern.fill_congr fun s hs => hblind s hs ['T'] ".cs".toList 2 1]
    exact hname
  have hword : Word ['T'] := by decide
  intro h
  refine h { filePattern := pattern } ['T'] 1 2 name name rfl ?_ rfl
  exact ⟨hword.all, by decide, by decide, by decide, hname, hsecond⟩

/-- An accepted pattern separates the parts of a type exactly if any two parts are told apart by one of its segments and
no name shifts. Names do not shift under steady segments, and the part as it is tells parts apart; so it does alone where
it is set off; and segments that do not read the part do not. -/
theorem parts_are_separated_iff (haccepted : Settings.checkPattern pattern = .ok ()) :
    (Separates pattern ↔ TellsApart pattern ∧ ¬ Shifts pattern) ∧
      ((∀ s ∈ (parts pattern).1, s.Steady) → (Separates pattern ↔ TellsApart pattern)) ∧
      ((∀ s ∈ (parts pattern).1, s.Steady) → plainPart ∈ (parts pattern).1 → Separates pattern) ∧
      (Anchored pattern → Separates pattern) ∧
      ((∀ s ∈ (parts pattern).1, s.Blind) → ¬ Separates pattern) := by
  have hsteady : (∀ s ∈ (parts pattern).1, s.Steady) → (Separates pattern ↔ TellsApart pattern) := by
    intro h
    rw [separates_iff]
    exact and_iff_left (not_shifts_of_steady h)
  refine ⟨separates_iff, hsteady, ?_, separates_of_anchored, not_separates_of_blind haccepted⟩
  intro h hplain
  exact (hsteady h).mpr (tellsApart_plainPart hplain)

end

/-- The part twice, once with zeros in front. -/
def paddedPattern : Text := "\x7btype\x7d_\x7bpart:03\x7d_\x7bpart\x7d\x7bext\x7d".toList

/-- The part twice, once to six digits; from the part 1000000 on that is shorter than before. -/
def roundedPattern : Text := "\x7bpart:g\x7d_\x7bpart\x7d\x7bext\x7d".toList

theorem padded_parts_are_separated :
    Settings.checkPattern paddedPattern = .ok () ∧ Separates paddedPattern ∧
      Settings.checkPattern roundedPattern = .ok () ∧ Separates roundedPattern := by
  have haccepted : Settings.checkPattern paddedPattern = .ok () := rfl
  have hrounded : Settings.checkPattern roundedPattern = .ok () := rfl
  have hparts : (parts paddedPattern).1 = [.literal [], .field ⟨"type".toList, none, []⟩, .literal ['_'],
      .field ⟨"part".toList, none, "03".toList⟩, .literal ['_'], plainPart, .literal [], .field ⟨"ext".toList, none, []⟩] := by
    decide
  have hfield : ∀ name, name.takeWhile (!NamePattern.beginsStep ·) ≠ "part".toList →
      (Segment.field ⟨name, none, []⟩).Blind := fun name hname => NamePattern.blind_field hname (by simp)
  have hsteady : ∀ s ∈ (parts paddedPattern).1, s.Steady := by
    rw [hparts]
    simp only [List.forall_mem_cons]
    have hliteral : ∀ t, (Segment.literal t).Steady := fun t => NamePattern.steady_of_blind (NamePattern.blind_literal t)
    have hpadded : (Segment.field ⟨"part".toList, none, "03".toList⟩).Steady :=
      NamePattern.steady_wholeFormat (by rfl) (by decide) rfl (by decide)
    exact ⟨hliteral _, NamePattern.steady_of_blind (hfield _ (by decide)), hliteral _, hpadded, hliteral _,
      NamePattern.steady_plainPart, hliteral _, NamePattern.steady_of_blind (hfield _ (by decide)), by simp⟩
  have hanchored : Anchored roundedPattern := by
    refine ⟨[.literal [], .field ⟨"part".toList, none, ['g']⟩], [], '_', [.literal [], .field ⟨"ext".toList, none, []⟩],
      by decide, by decide, ?_⟩
    simp only [List.forall_mem_cons]
    exact ⟨NamePattern.blind_literal [], hfield _ (by decide), by simp⟩
  exact ⟨haccepted, (parts_are_separated_iff haccepted).2.2.1 hsteady (by rw [hparts]; simp), hrounded,
    (parts_are_separated_iff hrounded).2.2.2.1 hanchored⟩

def escapedPattern : Text := "\x7b\x7bpart\x7d\x7d\x7bext\x7d".toList

/-- The type cut to as many characters as the first digit of the part says, and the part. -/
def cutPattern : Text := "\x7btype:.\x7bpart!s:.1\x7d\x7d\x7bpart\x7d".toList

/-- Both patterns are accepted. The first gives all parts one name, the second the parts 2 and 12 of a type. -/
theorem accepted_patterns_collide :
    Settings.checkPattern escapedPattern = .ok () ∧ ¬ Separates escapedPattern ∧
      Settings.checkPattern cutPattern = .ok () ∧ ¬ Separates cutPattern := by
  have hletter : Word ['A'] := by decide
  have hword : Word "a1".toList := by decide
  refine ⟨rfl, fun h => ?_, rfl, fun h => ?_⟩
  · refine h { filePattern := escapedPattern } ['A'] 1 2 (Text.points "\x7bpart\x7d.cs".toList)
      (Text.points "\x7bpart\x7d.cs".toList) rfl ?_ rfl
    exact ⟨hletter.all, by decide, by decide, by decide, rfl, rfl⟩
  · refine h { filePattern := cutPattern } "a1".toList 2 12 (Text.points "a12".toList)
      (Text.points "a12".toList) rfl ?_ rfl
    exact ⟨hword.all, by decide, by decide, by decide, rfl, rfl⟩

end TypeSplit.Splitting
