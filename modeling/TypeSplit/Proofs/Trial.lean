/-
  TypeSplit.Proofs.Trial — how far the trial of a name pattern carries.

  A pattern is tried with one type name, part and extension, and used with others. Most of what a field does is the same for
  all of them. Where the trial comes to a value, another file comes to the one that stands in its place (`Value.Replaces`):
  the same object, or one of its own values, or a character for a character, or an operation bound to such a value. A step
  leads from the one to the next as it does from the other (`Value.Replaces.step`), and so do all the steps of a name
  (`follow_replaces`), unless they ask for the third character of an extension that has two. Whether a value can be
  converted and which format suits it depends on its shape alone (`convert_ok_iff`, `formatted_ok_iff`), but for a number
  that is too large. What is left is listed by `Field.Trouble`.
  - `fillDeep_trial_iff`: a pattern that passed the trial is filled in exactly if none of its fields is in trouble.
  - `name_is_given_iff`: the same for the file names of a run under settings that were accepted.
  - `accepted_patterns_fail`: patterns in trouble.
-/

import TypeSplit.Proofs.Overwriting
import TypeSplit.Proofs.Usable

namespace TypeSplit.NamePattern

open TypeSplit.Number (Binary64)
open TypeSplit.Settings (trial)

/-! ## Values in the place of others -/

/-- The second value stands where the trial had the first. -/
inductive Value.Replaces (values : Values) : Value → Value → Prop
  | same (v : Value) : Replaces values v v
  | type : Replaces values (.text trial.type) (.text values.type)
  | part : Replaces values (.number trial.part) (.number values.part)
  | ext : Replaces values (.text trial.ext) (.text values.ext)
  | character (c d : Char) : Replaces values (.text [c]) (.text [d])
  | operation {v w : Value} (name : Text) : Replaces values v w →
      Replaces values (.operation v name) (.operation w name)

/-- The values of a file: the type has a name, parts are numbered from one, and an extension is a point with something
behind it. -/
structure Values.Proper (values : Values) : Prop where
  type : values.type ≠ []
  part : 1 ≤ values.part
  ext : 2 ≤ values.ext.length

section

variable {values : Values} {v w u : Value}

theorem Value.Replaces.shape (h : v.Replaces values w) : w.shape = v.shape := by
  induction h with
  | operation name _ ih => rw [Value.shape, Value.shape, ih]
  | _ => rfl

theorem Value.Replaces.receiver (h : v.Replaces values w) : v.receiver.Replaces values w.receiver := by
  cases h with
  | same v => exact .same _
  | type => exact .type
  | part => exact .part
  | ext => exact .ext
  | character c d => exact .character c d
  | operation _ h => exact h

/-- Where an attribute leads depends on the shape alone. -/
theorem Value.Replaces.reach (h : v.Replaces values w) (r : Reach) : (v.reach r).Replaces values (w.reach r) := by
  cases r with
  | itself => exact h
  | receiver => exact h.receiver
  | operation name => exact .operation name h
  | constant u => exact .same u

theorem Values.get?_replaces {name : Text} (h : trial.get? name = some v) :
    ∃ w, values.get? name = some w ∧ v.Replaces values w := by
  unfold Values.get? at h ⊢
  by_cases htype : name = "type".toList
  · rw [if_pos htype] at h ⊢
    cases h
    exact ⟨_, rfl, .type⟩
  rw [if_neg htype] at h ⊢
  by_cases hpart : name = "part".toList
  · rw [if_pos hpart] at h ⊢
    cases h
    exact ⟨_, rfl, .part⟩
  rw [if_neg hpart] at h ⊢
  by_cases hext : name = "ext".toList
  · rw [if_pos hext] at h ⊢
    cases h
    exact ⟨_, rfl, .ext⟩
  · rw [if_neg hext] at h
    cases h

end

section

variable [Objects] {values : Values} {v w u : Value}

theorem element_text {t : Text} {key : Key} (h : (Value.text t).element key = .ok u) :
    ∃ i c, key = .index i ∧ t[i]? = some c ∧ u = .text [c] := by
  cases key with
  | name _ => cases h
  | index i =>
    unfold Value.element at h
    cases hc : t[i]? with
    | none => simp [hc] at h
    | some c =>
      simp only [hc, Except.ok.injEq] at h
      exact ⟨i, c, rfl, hc, h.symm⟩

theorem element_index {t : Text} {i : Nat} (h : i < t.length) : (Value.text t).element (.index i) = .ok (.text [t[i]]) := by
  unfold Value.element
  simp only [List.getElem?_eq_getElem h]

theorem Value.Replaces.element (hproper : values.Proper) (h : v.Replaces values w) {key : Key} (hu : v.element key = .ok u) :
    (∃ u', w.element key = .ok u' ∧ u.Replaces values u') ∨
      values.ext.length = 2 ∧ key = .index 2 ∧ w = .text values.ext := by
  -- a text in the place of another has its characters, as far as it goes
  have htext : ∀ {a b : Text}, (Value.text a).element key = .ok u → (∀ i < a.length, i < b.length) →
      ∃ u', (Value.text b).element key = .ok u' ∧ u.Replaces values u' := by
    intro a b ha hlength
    obtain ⟨i, c, rfl, hc, rfl⟩ := element_text ha
    obtain ⟨hi, -⟩ := List.getElem?_eq_some_iff.mp hc
    exact ⟨_, element_index (hlength i hi), .character _ _⟩
  cases h with
  | same v => exact .inl ⟨u, hu, .same u⟩
  | type =>
    refine .inl (htext hu fun i hi => ?_)
    exact Nat.lt_of_lt_of_le hi (List.length_pos_iff.mpr hproper.type)
  | part => cases hu
  | ext =>
    by_cases hthree : 3 ≤ values.ext.length
    · exact .inl (htext hu fun i hi => Nat.lt_of_lt_of_le hi hthree)
    · have htwo : values.ext.length = 2 := by
        have := hproper.ext
        omega
      obtain ⟨i, c, rfl, hc, rfl⟩ := element_text hu
      obtain ⟨hi, -⟩ := List.getElem?_eq_some_iff.mp hc
      by_cases hshort : i < values.ext.length
      · exact .inl ⟨_, element_index hshort, .character _ _⟩
      · change i < 3 at hi
        obtain rfl : i = 2 := by omega
        exact .inr ⟨htwo, rfl, rfl⟩
  | character c d => exact .inl (htext hu fun i hi => hi)
  | @operation v w name h =>
    have hshape : (Value.operation w name).shape = (Value.operation v name).shape := (Value.Replaces.operation name h).shape
    change Objects.element (Value.operation v name).shape key = .ok u at hu
    rw [← hshape] at hu
    exact .inl ⟨u, hu, .same u⟩

/-- A step leads to the next value from every value that stands in the place of another, unless it is to the third
character of an extension that has two. -/
theorem Value.Replaces.step (hproper : values.Proper) (h : v.Replaces values w) {s : Step} (hu : v.step s = .ok u) :
    (∃ u', w.step s = .ok u' ∧ u.Replaces values u') ∨
      values.ext.length = 2 ∧ s = .element (.index 2) ∧ w = .text values.ext := by
  rcases s with name | key
  · obtain ⟨r, hr, rfl⟩ := map_eq_ok.mp hu
    exact .inl ⟨w.reach r, map_eq_ok.mpr ⟨r, h.shape ▸ hr, rfl⟩, h.reach r⟩
  · rcases h.element hproper hu with hnext | ⟨htwo, rfl, hw⟩
    · exact .inl hnext
    · exact .inr ⟨htwo, rfl, hw⟩

/-- Steps from a value lead through the extension to its third character. -/
def ThirdOnTheWay (values : Values) (v : Value) (steps : List Step) : Prop :=
  ∃ before after, steps = before ++ .element (.index 2) :: after ∧ before.foldlM Value.step v = .ok (.text values.ext)

/-- Steps lead from value to value as in the trial. -/
theorem follow_replaces (hproper : values.Proper) (h : v.Replaces values w) {steps : List Step}
    (hu : steps.foldlM Value.step v = .ok u) :
    (∃ u', steps.foldlM Value.step w = .ok u' ∧ u.Replaces values u') ∨
      values.ext.length = 2 ∧ ThirdOnTheWay values w steps := by
  induction steps generalizing v w with
  | nil =>
    cases hu
    exact .inl ⟨w, rfl, h⟩
  | cons s steps ih =>
    rw [List.foldlM_cons] at hu ⊢
    obtain ⟨x, hx, hu⟩ := bind_eq_ok.mp hu
    rcases h.step hproper hx with ⟨y, hy, hxy⟩ | ⟨htwo, rfl, rfl⟩
    · rcases ih hxy hu with ⟨u', hu', huu'⟩ | ⟨htwo, before, after, rfl, hbefore⟩
      · exact .inl ⟨u', bind_eq_ok.mpr ⟨y, hy, hu'⟩, huu'⟩
      · refine .inr ⟨htwo, s :: before, after, rfl, ?_⟩
        rw [List.foldlM_cons]
        exact bind_eq_ok.mpr ⟨y, hy, hbefore⟩
    · exact .inr ⟨htwo, [], steps, rfl, rfl⟩

/-- An extension of two characters has no third. -/
theorem not_follow_third (htwo : values.ext.length = 2) {steps : List Step} (h : ThirdOnTheWay values v steps) (u : Value) :
    steps.foldlM Value.step v ≠ .ok u := by
  obtain ⟨before, after, rfl, hbefore⟩ := h
  intro hu
  rw [List.foldlM_append] at hu
  obtain ⟨x, hx, hu⟩ := bind_eq_ok.mp hu
  obtain rfl : .text values.ext = x := Except.ok.inj (hbefore.symm.trans hx)
  rw [List.foldlM_cons] at hu
  obtain ⟨x, hx, -⟩ := bind_eq_ok.mp hu
  change (Value.text values.ext).element (.index 2) = .ok x at hx
  obtain ⟨i, c, hi, hc, -⟩ := element_text hx
  cases hi
  rw [List.getElem?_eq_none (Nat.le_of_eq htwo)] at hc
  cases hc

/-! ## Names -/

def AsksThird (values : Values) (name : Text) : Prop :=
  ∃ v, values.get? (splitName name).1 = some v ∧ ThirdOnTheWay values v (splitName name).2.1

/-- A name refers to a value if it has a first part, its steps lead somewhere, and it has no fault. -/
theorem lookup_eq_ok_iff {name : Text} :
    lookup values name = .ok u ↔ wholeNumber? (splitName name).1 = .ok none ∧ (splitName name).1 ≠ [] ∧
      (splitName name).2.2 = none ∧
      ∃ v, values.get? (splitName name).1 = some v ∧ (splitName name).2.1.foldlM Value.step v = .ok u := by
  unfold lookup
  rcases splitName name with ⟨first, steps, fault⟩
  simp only [bind_eq_ok, mapError_eq_ok]
  constructor
  · intro ⟨index, hindex, h⟩
    cases index with
    | some i => cases h
    | none =>
      by_cases hempty : first = []
      · subst hempty
        cases h
      · simp only [List.isEmpty_iff, if_neg hempty] at h
        cases hget : values.get? first with
        | none =>
          rw [hget] at h
          cases h
        | some v =>
          rw [hget] at h
          obtain ⟨w, hw, h⟩ := bind_eq_ok.mp h
          cases fault with
          | some x => cases h
          | none =>
            cases h
            exact ⟨hindex, hempty, rfl, v, rfl, hw⟩
  · intro ⟨hindex, hempty, hfault, v, hget, hv⟩
    subst hfault
    refine ⟨none, hindex, ?_⟩
    simp only [List.isEmpty_iff, if_neg hempty, hget]
    exact bind_eq_ok.mpr ⟨u, hv, rfl⟩

/-- A name that refers to a value in the trial refers to the one in its place, unless it asks for a character that is not
there. -/
theorem lookup_replaces (hproper : values.Proper) {name : Text} (h : lookup trial name = .ok u) :
    (∃ w, lookup values name = .ok w ∧ u.Replaces values w) ∨ values.ext.length = 2 ∧ AsksThird values name := by
  obtain ⟨hindex, hempty, hfault, v, hget, hu⟩ := lookup_eq_ok_iff.mp h
  obtain ⟨w, hw, hvw⟩ := Values.get?_replaces hget
  rcases follow_replaces hproper hvw hu with ⟨u', hu', huu'⟩ | ⟨htwo, hthird⟩
  · exact .inl ⟨u', lookup_eq_ok_iff.mpr ⟨hindex, hempty, hfault, w, hw, hu'⟩, huu'⟩
  · exact .inr ⟨htwo, w, hw, hthird⟩

theorem lookup_third {name : Text} (h : AsksThird values name) (htwo : values.ext.length = 2) (u : Value) :
    lookup values name ≠ .ok u := by
  intro hu
  obtain ⟨v, hv, hthird⟩ := h
  obtain ⟨-, -, -, w, hw, hsteps⟩ := lookup_eq_ok_iff.mp hu
  rw [hv] at hw
  cases hw
  exact not_follow_third htwo hthird u hsteps

theorem mem_of_asksThird {name : Text} (h : AsksThird values name) : Step.element (.index 2) ∈ (splitName name).2.1 := by
  obtain ⟨_, -, before, after, hsteps, -⟩ := h
  rw [hsteps]
  exact List.mem_append_right _ List.mem_cons_self

end

/-! ## Formats -/

namespace Format

def wholeCodes : Text := ['b', 'c', 'd', 'o', 'x', 'X', 'n']

def floatCodes : Text := ['e', 'E', 'f', 'F', 'g', 'G', '%']

structure SuitsText (f : Format) (room : Nat) : Prop where
  code : f.code = 's'
  sign : f.sign = none
  zero : f.unsignedZero = false
  alternate : f.alternate = false
  align : f.align ≠ '='
  width : f.width.getD 0 ≤ room

/-- The format is one for whole numbers. A character has neither sign nor mark. -/
structure SuitsWhole (f : Format) (room : Nat) : Prop where
  code : f.code ∈ wholeCodes
  precision : f.precision = none
  zero : f.unsignedZero = false
  character : f.code = 'c' → f.sign = none ∧ f.alternate = false
  width : f.width.getD 0 ≤ room

structure SuitsFloat (f : Format) (room : Nat) : Prop where
  code : f.code ∈ floatCodes
  precision : f.precision.getD 6 ≤ min 0x7FFFFFFF room
  width : f.width.getD 0 ≤ room

/-- There is no character with the number, it has too many digits, or no binary number comes near it. -/
def TooLarge (f : Format) (n : Int) : Prop :=
  f.code = 'c' ∧ (n < 0 ∨ 0x110000 ≤ n) ∨ f.code ∈ ['d', 'n'] ∧ 10 ^ 4300 ≤ n.natAbs ∨
    f.code ∈ floatCodes ∧ 2 ^ 1024 ≤ n.natAbs + 2 ^ 970

theorem within_ok_iff (f : Format) (room : Nat) (t : Unit → List CodePoint) :
    (∃ a, f.within room t = .ok a) ↔ f.width.getD 0 ≤ room := by
  unfold within
  split
  · rename_i hwide
    exact iff_of_false (fun ⟨_, h⟩ => nomatch h) (Nat.not_le.mpr hwide)
  · rename_i hfits
    exact iff_of_true ⟨_, rfl⟩ (Nat.not_lt.mp hfits)

theorem text_ok_iff (f : Format) (room : Nat) (t : Text) : (∃ a, f.text room t = .ok a) ↔ f.SuitsText room := by
  unfold text
  dsimp only
  constructor
  · intro ⟨a, ha⟩
    split_ifs at ha with hcode hspace hsign hzero halternate halign
    have hwidth := (within_ok_iff f room _).mp ⟨a, ha⟩
    exact ⟨not_not.mp hcode, by simpa using hsign, by simpa using hzero, by simpa using halternate, halign, hwidth⟩
  · intro h
    rw [if_neg (not_not.mpr h.code), if_neg (by simp [h.sign]), if_neg (by simp [h.sign]), if_neg (by simp [h.zero]),
      if_neg (by simp [h.alternate]), if_neg h.align]
    exact (within_ok_iff f room _).mpr h.width

theorem character_ok_iff (f : Format) (room : Nat) (n : Int) :
    (∃ a, f.character room n = .ok a) ↔
      (f.sign = none ∧ f.alternate = false) ∧ f.width.getD 0 ≤ room ∧ ¬ (n < 0 ∨ 0x110000 ≤ n) := by
  unfold character
  constructor
  · intro ⟨a, ha⟩
    split_ifs at ha with hsign halternate hlong hrange
    simp only [Bool.or_eq_true, decide_eq_true_eq] at hrange
    exact ⟨⟨by simpa using hsign, by simpa using halternate⟩, (within_ok_iff f room _).mp ⟨a, ha⟩, hrange⟩
  · intro ⟨⟨hsign, halternate⟩, hwidth, hrange⟩
    rw [hsign, halternate, if_neg (by decide), if_neg (by decide), if_neg (by simp; omega), if_neg (by simpa using hrange)]
    exact (within_ok_iff f room _).mpr hwidth

theorem mem_wholeCodes {c : Char} :
    c ∈ wholeCodes ↔ c = 'b' ∨ c = 'c' ∨ c = 'd' ∨ c = 'o' ∨ c = 'x' ∨ c = 'X' ∨ c = 'n' := by
  simp only [wholeCodes, List.mem_cons, List.not_mem_nil, or_false]

theorem base_eq_ten_iff {c : Char} (h : c ∈ wholeCodes) (hchar : c ≠ 'c') : (base c).1 = 10 ↔ c ∈ ['d', 'n'] := by
  rcases mem_wholeCodes.mp h with rfl | rfl | rfl | rfl | rfl | rfl | rfl
  · decide
  · exact absurd rfl hchar
  all_goals decide

theorem decimalCodes_subset : ['d', 'n'] ⊆ wholeCodes := by decide

theorem not_float_of_whole {c : Char} (h : c ∈ wholeCodes) : c ∉ floatCodes := by
  rcases mem_wholeCodes.mp h with rfl | rfl | rfl | rfl | rfl | rfl | rfl <;> decide

/-- Digits in a base other than ten may be as many as they like. -/
theorem digits_ok_iff {f : Format} {n : Int} (hcode : f.code ∈ wholeCodes) (hchar : f.code ≠ 'c') :
    ((base f.code).1 = 10 ∧ Number.digitLimit < (Nat.toDigits (base f.code).1 n.natAbs).length) ↔ f.TooLarge n := by
  have hlimit : Number.digitLimit < Number.digitCount n.natAbs ↔ 10 ^ 4300 ≤ n.natAbs :=
    Number.lt_digitCount_iff (k := 4300) (by decide)
  unfold TooLarge
  rw [← base_eq_ten_iff hcode hchar, ← hlimit]
  simp only [hchar, not_float_of_whole hcode, false_and, false_or, or_false]
  refine and_congr_right fun hten => ?_
  rw [hten]
  rfl

theorem whole_ok_iff {f : Format} {room : Nat} {n : Int} (hcode : f.code ∈ wholeCodes) :
    (∃ a, f.whole room n = .ok a) ↔ f.SuitsWhole room ∧ ¬ f.TooLarge n := by
  unfold whole
  by_cases hprecision : f.precision.isSome = true
  · rw [if_pos hprecision]
    refine iff_of_false (fun ⟨_, h⟩ => nomatch h) fun ⟨h, _⟩ => ?_
    rw [h.precision] at hprecision
    cases hprecision
  by_cases hzero : f.unsignedZero = true
  · rw [if_neg hprecision, if_pos hzero]
    refine iff_of_false (fun ⟨_, h⟩ => nomatch h) fun ⟨h, _⟩ => ?_
    rw [h.zero] at hzero
    cases hzero
  rw [if_neg hprecision, if_neg hzero]
  have hnone : f.precision = none := by simpa using hprecision
  have hunset : f.unsignedZero = false := by simpa using hzero
  by_cases hchar : f.code = 'c'
  · rw [if_pos hchar]
    have hlarge : f.TooLarge n ↔ n < 0 ∨ 0x110000 ≤ n := by
      have hdigits : 'c' ∉ ['d', 'n'] := by decide
      have hfloat : 'c' ∉ floatCodes := by decide
      simp only [TooLarge, hchar, hdigits, hfloat, true_and, false_and, or_false]
    rw [hlarge, character_ok_iff, ← and_assoc]
    refine and_congr_left fun _ => ⟨fun ⟨hplain, hwidth⟩ => ⟨hcode, hnone, hunset, fun _ => hplain, hwidth⟩, fun h => ?_⟩
    exact ⟨h.character hchar, h.width⟩
  · rw [if_neg hchar, ← digits_ok_iff hcode hchar]
    have hsuits : f.SuitsWhole room ↔ f.width.getD 0 ≤ room :=
      ⟨fun h => h.width, fun hwidth => ⟨hcode, hnone, hunset, fun h => absurd h hchar, hwidth⟩⟩
    rw [hsuits]
    dsimp only
    split
    · rename_i hlong
      simp only [Bool.and_eq_true, decide_eq_true_eq] at hlong
      exact iff_of_false (fun ⟨_, h⟩ => nomatch h) fun h => h.2 hlong
    · rename_i hshort
      simp only [Bool.and_eq_true, decide_eq_true_eq] at hshort
      rw [within_ok_iff]
      exact (and_iff_left hshort).symm

theorem binary_ok_iff (f : Format) (room : Nat) (x : Binary64) :
    (∃ a, f.binary room x = .ok a) ↔ f.precision.getD 6 ≤ min 0x7FFFFFFF room ∧ f.width.getD 0 ≤ room := by
  unfold binary
  dsimp only
  split
  · rename_i hbig
    exact iff_of_false (fun ⟨_, h⟩ => nomatch h) fun ⟨h, _⟩ => by omega
  · split
    · rename_i hbig
      exact iff_of_false (fun ⟨_, h⟩ => nomatch h) fun ⟨h, _⟩ => by omega
    · rw [within_ok_iff]
      exact (and_iff_right (by omega)).symm

theorem number_ok_iff {f : Format} {room : Nat} {n : Int} :
    (∃ a, f.number room n = .ok a) ↔ (f.SuitsWhole room ∨ f.SuitsFloat room) ∧ ¬ f.TooLarge n := by
  unfold number
  change (∃ a, (if wholeCodes.contains f.code then f.whole room n
    else if floatCodes.contains f.code then _ else _) = .ok a) ↔ _
  by_cases hwhole : f.code ∈ wholeCodes
  · rw [if_pos (List.contains_iff_mem.mpr hwhole), whole_ok_iff hwhole]
    have hno : ¬ f.SuitsFloat room := fun h => not_float_of_whole hwhole h.code
    rw [or_iff_left hno]
  rw [if_neg (fun h => hwhole (List.contains_iff_mem.mp h)), or_iff_right fun h => hwhole h.code]
  by_cases hfloat : f.code ∈ floatCodes
  · rw [if_pos (List.contains_iff_mem.mpr hfloat)]
    have hlarge : f.TooLarge n ↔ (Binary64.ofInt n).isInfinite = true := by
      have hchar : f.code ≠ 'c' := fun h => hwhole (h ▸ by decide)
      have hdigits : f.code ∉ ['d', 'n'] := fun h => hwhole (decimalCodes_subset h)
      simp only [TooLarge, hchar, hdigits, hfloat, false_and, false_or, true_and, Binary64.isInfinite_ofInt_iff]
    rw [hlarge]
    dsimp only
    split
    · rename_i hinfinite
      exact iff_of_false (fun ⟨_, h⟩ => nomatch h) fun h => h.2 hinfinite
    · rename_i hfinite
      rw [binary_ok_iff]
      exact ⟨fun h => ⟨⟨hfloat, h.1, h.2⟩, hfinite⟩, fun h => ⟨h.1.precision, h.1.width⟩⟩
  · rw [if_neg (fun h => hfloat (List.contains_iff_mem.mp h))]
    exact iff_of_false (fun ⟨_, h⟩ => nomatch h) fun h => hfloat h.1.code

theorem le_of_pow_ten_le {k a : Nat} (hk : 7 ≤ k) (h : 10 ^ k ≤ a) : 0x110000 ≤ a :=
  calc 0x110000 ≤ 10 ^ 7 := by decide
    _ ≤ 10 ^ k := Nat.pow_le_pow_right (by decide) hk
    _ ≤ a := h

theorem le_of_pow_two_le {k a : Nat} (hk : 21 ≤ k) (h : 2 ^ (k + 54) ≤ a + 2 ^ k) : 0x110000 ≤ a := by
  have hsmall : 2 ^ 21 ≤ 2 ^ k := Nat.pow_le_pow_right (by decide) hk
  rw [Nat.pow_add] at h
  omega

/-- What is too large for any format is no small number. -/
theorem TooLarge.le {f : Format} {n : Int} (hn : 0 ≤ n) (h : f.TooLarge n) : 0x110000 ≤ n := by
  rcases h with ⟨-, h⟩ | ⟨-, h⟩ | ⟨-, h⟩
  · omega
  · have := le_of_pow_ten_le (by decide) h
    omega
  · rw [show 1024 = 970 + 54 from rfl] at h
    have := le_of_pow_two_le (by decide) h
    omega

end Format

/-! ## Values in a format -/

def TooLarge (format : List CodePoint) (n : Int) : Prop :=
  format = [] ∧ 10 ^ 4300 ≤ n.natAbs ∨ format ≠ [] ∧ ∃ f, Format.read .number format = .ok f ∧ f.TooLarge n

theorem TooLarge.le {format : List CodePoint} {n : Int} (hn : 0 ≤ n) (h : TooLarge format n) : 0x110000 ≤ n := by
  rcases h with ⟨-, hlong⟩ | ⟨-, f, -, hlarge⟩
  · have := Format.le_of_pow_ten_le (by decide) hlong
    omega
  · exact hlarge.le hn

theorem wholeText_ok_iff (n : Int) : (∃ a, Format.wholeText n = .ok a) ↔ ¬ 10 ^ 4300 ≤ n.natAbs := by
  rw [Format.wholeText_eq]
  split
  · rename_i hlong
    exact iff_of_false (fun ⟨_, h⟩ => nomatch h) (not_not.mpr hlong)
  · rename_i hshort
    exact iff_of_true ⟨_, rfl⟩ hshort

/-- A format that is read, and then does something. -/
theorem read_bind_ok_iff (k : Kind) (format : List CodePoint) (g : Format → Except Error (List CodePoint)) :
    (∃ a, ((Format.read k format).mapError Error.malformed >>= g) = .ok a) ↔
      ∃ f, Format.read k format = .ok f ∧ ∃ a, g f = .ok a := by
  simp only [bind_eq_ok, mapError_eq_ok]
  constructor
  · intro ⟨a, f, hf, ha⟩
    exact ⟨f, hf, a, ha⟩
  · intro ⟨f, hf, a, ha⟩
    exact ⟨a, f, hf, ha⟩

theorem exists_map_ok_iff {α β ε : Type} {x : Except ε α} {g : α → β} : (∃ b, x.map g = .ok b) ↔ ∃ a, x = .ok a := by
  cases x with
  | error e => exact iff_of_false (fun ⟨_, h⟩ => nomatch h) fun ⟨_, h⟩ => nomatch h
  | ok a => exact iff_of_true ⟨_, rfl⟩ ⟨a, rfl⟩

section

variable [Objects]

/-- A format as it is written suits values of a shape. What is neither text nor number has its own say. -/
def Suits (format : List CodePoint) : Shape → Prop
  | .text => format = [] ∨ ∃ f, Format.read .text format = .ok f ∧ f.SuitsText Objects.room
  | .number => format = [] ∨
      ∃ f, Format.read .number format = .ok f ∧ (f.SuitsWhole Objects.room ∨ f.SuitsFloat Objects.room)
  | s => Objects.refusal? s (.format format) = none

theorem display_ok_iff (v : Value) (manner : Manner) :
    (∃ t, v.display manner = .ok t) ↔ Objects.refusal? v.shape manner = none := by
  unfold Value.display
  cases Objects.refusal? v.shape manner with
  | some e => exact iff_of_false (fun ⟨_, h⟩ => nomatch h) fun h => nomatch h
  | none => exact iff_of_true ⟨_, rfl⟩ rfl

theorem formatted_text_iff (t : Text) (format : List CodePoint) :
    (∃ a, (Value.text t).formatted format = .ok a) ↔ Suits format .text := by
  simp only [Value.formatted, List.isEmpty_iff, Suits]
  by_cases hempty : format = []
  · rw [if_pos hempty]
    exact iff_of_true ⟨_, rfl⟩ (.inl hempty)
  · rw [if_neg hempty, read_bind_ok_iff .text format fun f => f.text Objects.room t, or_iff_right hempty]
    simp only [Format.text_ok_iff]

theorem formatted_number_iff (n : Int) (format : List CodePoint) :
    (∃ a, (Value.number n).formatted format = .ok a) ↔ Suits format .number ∧ ¬ TooLarge format n := by
  simp only [Value.formatted, List.isEmpty_iff, Suits, TooLarge]
  by_cases hempty : format = []
  · rw [if_pos hempty, exists_map_ok_iff, wholeText_ok_iff]
    simp only [hempty, true_or, true_and, ne_eq, not_true_eq_false, false_and, or_false]
  · rw [if_neg hempty, read_bind_ok_iff .number format fun f => f.number Objects.room n]
    simp only [hempty, false_or, false_and, ne_eq, not_false_eq_true, true_and, Format.number_ok_iff]
    constructor
    · intro h
      obtain ⟨f, hf, hsuits, hfits⟩ := h
      refine ⟨⟨f, hf, hsuits⟩, fun hlarge => ?_⟩
      obtain ⟨g, hg, hlarge⟩ := hlarge
      rw [hf] at hg
      cases hg
      exact hfits hlarge
    · intro h
      obtain ⟨⟨f, hf, hsuits⟩, hfits⟩ := h
      exact ⟨f, hf, hsuits, fun hlarge => hfits ⟨f, hf, hlarge⟩⟩

/-- A value can be written in a format that suits its shape, unless it is a number that is too large for it. -/
theorem formatted_ok_iff (v : Value) (format : List CodePoint) :
    (∃ a, v.formatted format = .ok a) ↔ Suits format v.shape ∧ ∀ n, v = .number n → ¬ TooLarge format n := by
  cases v with
  | text t =>
    rw [formatted_text_iff]
    exact (and_iff_left fun _ h => nomatch h).symm
  | number n =>
    rw [formatted_number_iff]
    refine and_congr_right fun _ => ⟨fun hfits m hm => ?_, fun hfits => hfits n rfl⟩
    cases hm
    exact hfits
  | operation receiver name =>
    have hdisplay : (∃ a, (Value.operation receiver name).formatted format = .ok a) ↔ _ :=
      exists_map_ok_iff.trans (display_ok_iff (.operation receiver name) (.format format))
    rw [hdisplay]
    exact (and_iff_left fun _ h => nomatch h).symm
  | object address =>
    have hdisplay : (∃ a, (Value.object address).formatted format = .ok a) ↔ _ :=
      exists_map_ok_iff.trans (display_ok_iff (.object address) (.format format))
    rw [hdisplay]
    exact (and_iff_left fun _ h => nomatch h).symm

/-! ## Conversions -/

def Converts (c : Char) : Shape → Prop
  | .text => True
  | .number => True
  | s => Objects.refusal? s (.conversion c) = none

/-- Every value of a shape that can be converted is converted, but for a number that is too long. -/
theorem convert_ok_iff (v : Value) {c : Char} (hc : c ≠ '\x00') :
    (∃ u, v.convert c = .ok u) ↔
      c ∈ ['r', 's', 'a'] ∧ Converts c v.shape ∧ ∀ n, v = .number n → ¬ 10 ^ 4300 ≤ n.natAbs := by
  unfold Value.convert
  rw [if_neg hc]
  by_cases hknown : c ∈ ['r', 's', 'a']
  · rw [if_pos (by simpa [or_assoc] using hknown), and_iff_right hknown]
    cases v with
    | text t => exact iff_of_true ⟨_, rfl⟩ ⟨trivial, fun _ h => nomatch h⟩
    | number n =>
      rw [exists_map_ok_iff, wholeText_ok_iff]
      refine ⟨fun hshort => ⟨trivial, fun m hm => ?_⟩, fun h => h.2 n rfl⟩
      cases hm
      exact hshort
    | operation receiver name =>
      rw [exists_map_ok_iff, display_ok_iff]
      exact (and_iff_left fun _ h => nomatch h).symm
    | object address =>
      rw [exists_map_ok_iff, display_ok_iff]
      exact (and_iff_left fun _ h => nomatch h).symm
  · rw [if_neg (by simpa [or_assoc] using hknown)]
    exact iff_of_false (fun ⟨_, h⟩ => nomatch h) fun h => hknown h.1

theorem text_of_convert {v w : Value} {c : Char} (hc : c ≠ '\x00') (h : v.convert c = .ok w) : ∃ t, w = .text t := by
  unfold Value.convert at h
  rw [if_neg hc] at h
  split at h
  · cases v with
    | text t => exact ⟨_, (Except.ok.inj h).symm⟩
    | _ =>
      obtain ⟨t, -, ht⟩ := map_eq_ok.mp h
      exact ⟨t, ht.symm⟩
  · cases h

theorem convert_zero (v : Value) : v.convert '\x00' = .ok v := if_pos rfl

/-! ## Fields -/

/-- Why a field that passed the trial fails with other values. -/
inductive Field.Trouble (values : Values) : (depth : Nat) → Field → Prop
  /-- It asks for the third character of an extension that has two. -/
  | third {depth : Nat} {f : Field} : AsksThird values f.name → values.ext.length = 2 → Trouble values depth f
  /-- It converts a number that is too long for text. -/
  | long {depth : Nat} {f : Field} {c : Char} {n : Int} : f.conversion = some c → c ≠ '\x00' →
      lookup values f.name = .ok (.number n) → 10 ^ 4300 ≤ n.natAbs → Trouble values depth f
  /-- It writes a number that is too large for its format. -/
  | large {depth : Nat} {f : Field} {n : Int} {format : List CodePoint} : f.value values = .ok (.number n) →
      f.formatText values depth = .ok format → TooLarge format n → Trouble values depth f
  /-- A field in its format is in trouble. -/
  | inner {depth : Nat} {f g : Field} : '{' ∈ f.format → .field g ∈ (parts f.format).1 → Trouble values depth g →
      Trouble values (depth + 1) f
  /-- Its format is made of the values, and what comes of it does not suit. -/
  | unsuited {depth : Nat} {f : Field} {v : Value} {format : List CodePoint} : '{' ∈ f.format →
      f.value values = .ok v → f.formatText values depth = .ok format → ¬ Suits format v.shape → Trouble values depth f

/-- The second value is of the shape of the first; if it is a number, it is the same or the part. -/
def Value.Like (values : Values) (v w : Value) : Prop :=
  w.shape = v.shape ∧ ∀ n, w = .number n → v = .number n ∨ n = values.part

section

variable {values : Values} {f : Field} {depth : Nat}

omit [Objects] in
theorem Value.Replaces.like {v w : Value} (h : v.Replaces values w) : v.Like values w := by
  refine ⟨h.shape, fun n hn => ?_⟩
  cases h with
  | same v => exact .inl hn
  | part => exact .inr (Value.number.inj hn).symm
  | _ => cases hn

omit [Objects] in
theorem like_text (a b : Text) : (Value.text a).Like values (.text b) := ⟨rfl, fun _ h => nomatch h⟩

/-- The value of a field that is there is not missing from the extension and not too long for its conversion. -/
theorem sound_of_value {w : Value} (h : f.value values = .ok w) :
    (AsksThird values f.name → values.ext.length ≠ 2) ∧
      ∀ c n, f.conversion = some c → c ≠ '\x00' → lookup values f.name = .ok (.number n) → ¬ 10 ^ 4300 ≤ n.natAbs := by
  obtain ⟨v, hv, hw⟩ := bind_eq_ok.mp h
  refine ⟨fun hthird htwo => lookup_third hthird htwo v hv, fun c n hconversion hc hn => ?_⟩
  rw [hconversion] at hw
  rw [hv] at hn
  exact ((convert_ok_iff v hc).mp ⟨w, hw⟩).2.2 n (Except.ok.inj hn)

/-- The value of a field is like the one that it has in the trial. -/
theorem value_like (hproper : values.Proper) (hthird : AsksThird values f.name → values.ext.length ≠ 2)
    (hlong : ∀ c n, f.conversion = some c → c ≠ '\x00' → lookup values f.name = .ok (.number n) → ¬ 10 ^ 4300 ≤ n.natAbs)
    {u : Value} (hu : f.value trial = .ok u) : ∃ w, f.value values = .ok w ∧ u.Like values w := by
  obtain ⟨v, hv, hu⟩ := bind_eq_ok.mp hu
  rcases lookup_replaces hproper hv with ⟨w, hw, hvw⟩ | ⟨htwo, hasks⟩
  · cases hconversion : f.conversion with
    | none =>
      rw [hconversion] at hu
      cases hu
      refine ⟨w, bind_eq_ok.mpr ⟨w, hw, ?_⟩, hvw.like⟩
      rw [hconversion]
    | some c =>
      rw [hconversion] at hu
      by_cases hc : c = '\x00'
      · subst hc
        obtain rfl : v = u := Except.ok.inj ((convert_zero v).symm.trans hu)
        refine ⟨w, bind_eq_ok.mpr ⟨w, hw, ?_⟩, hvw.like⟩
        rw [hconversion]
        exact convert_zero w
      · obtain ⟨hknown, hconverts, -⟩ := (convert_ok_iff v hc).mp ⟨u, hu⟩
        have hshort : ∀ n, w = .number n → ¬ 10 ^ 4300 ≤ n.natAbs := fun n hn => hlong c n hconversion hc (hn ▸ hw)
        obtain ⟨u', hu'⟩ := (convert_ok_iff w hc).mpr ⟨hknown, hvw.shape ▸ hconverts, hshort⟩
        obtain ⟨t, rfl⟩ := text_of_convert hc hu
        obtain ⟨t', rfl⟩ := text_of_convert hc hu'
        refine ⟨.text t', bind_eq_ok.mpr ⟨w, hw, ?_⟩, like_text t t'⟩
        rw [hconversion]
        exact hu'
  · exact absurd htwo (hthird hasks)

/-- A field that is filled in is not in trouble, if this is so of the fields in its format. -/
theorem not_trouble_of_fill {a : List CodePoint} (hfill : f.fill values depth = .ok a)
    (hinner : ∀ d g, depth = d + 1 → '{' ∈ f.format → .field g ∈ (parts f.format).1 → ¬ g.Trouble values d) :
    ¬ f.Trouble values depth := by
  obtain ⟨w, hw, hfill⟩ := bind_eq_ok.mp hfill
  obtain ⟨format, hformat, hfill⟩ := bind_eq_ok.mp hfill
  obtain ⟨hthird, hlong⟩ := sound_of_value hw
  obtain ⟨hsuits, hfits⟩ := (formatted_ok_iff w format).mp ⟨a, hfill⟩
  intro htrouble
  cases htrouble with
  | third hasks htwo => exact hthird hasks htwo
  | long hconversion hc hn hlarge => exact hlong _ _ hconversion hc hn hlarge
  | large hn hformat' hlarge =>
    rw [hw] at hn
    rw [hformat] at hformat'
    cases hformat'
    exact hfits _ (Except.ok.inj hn) hlarge
  | inner hbrace hg htrouble => exact hinner _ _ rfl hbrace hg htrouble
  | unsuited _ hv hformat' hunsuited =>
    rw [hw] at hv
    rw [hformat] at hformat'
    cases hv
    cases hformat'
    exact hunsuited hsuits

/-- A field that passed the trial is filled in if it is not in trouble and its format can be made. -/
theorem fill_of_not_trouble (hproper : values.Proper) {t : List CodePoint} (htrial : f.fill trial depth = .ok t)
    (hmade : ∃ format, f.formatText values depth = .ok format) (hsafe : ¬ f.Trouble values depth) :
    ∃ a, f.fill values depth = .ok a := by
  obtain ⟨v, hv, htrial⟩ := bind_eq_ok.mp htrial
  obtain ⟨u, hu, htrial⟩ := bind_eq_ok.mp htrial
  obtain ⟨hsuits, -⟩ := (formatted_ok_iff v u).mp ⟨t, htrial⟩
  obtain ⟨w, hw, hlike⟩ := value_like hproper (fun hasks htwo => hsafe (.third hasks htwo))
    (fun c n hconversion hc hn hlarge => hsafe (.long hconversion hc hn hlarge)) hv
  obtain ⟨format, hformat⟩ := hmade
  have hsuits' : Suits format w.shape := by
    by_cases hbrace : '{' ∈ f.format
    · by_contra hunsuited
      exact hsafe (.unsuited hbrace hw hformat hunsuited)
    · -- the format is the one of the trial, and the value is of the same shape
      rw [Field.formatText_plain hbrace] at hu hformat
      cases hu
      cases hformat
      rw [hlike.1]
      exact hsuits
  have hfits : ∀ n, w = .number n → ¬ TooLarge format n := by
    intro n hn hlarge
    subst hn
    exact hsafe (.large hw hformat hlarge)
  obtain ⟨a, ha⟩ := (formatted_ok_iff w format).mpr ⟨hsuits', hfits⟩
  exact ⟨a, bind_eq_ok.mpr ⟨w, hw, bind_eq_ok.mpr ⟨format, hformat, ha⟩⟩⟩

/-- The formats made of values come of other values exactly if none of their fields is in trouble. -/
def FormatsFollow (values : Values) (depth : Nat) : Prop :=
  ∀ (f : Field) (u : List CodePoint), '{' ∈ f.format → f.formatText trial depth = .ok u →
    ((∃ a, f.formatText values depth = .ok a) ↔
      ∀ d g, depth = d + 1 → .field g ∈ (parts f.format).1 → ¬ g.Trouble values d)

/-- A field that passed the trial is filled in exactly if it is not in trouble. -/
theorem fill_field_iff (hproper : values.Proper) (hformats : FormatsFollow values depth) {t : List CodePoint}
    (htrial : f.fill trial depth = .ok t) : (∃ a, f.fill values depth = .ok a) ↔ ¬ f.Trouble values depth := by
  obtain ⟨v, hv, hrest⟩ := bind_eq_ok.mp htrial
  obtain ⟨u, hu, -⟩ := bind_eq_ok.mp hrest
  constructor
  · intro ⟨a, ha⟩
    obtain ⟨w, hw, ha'⟩ := bind_eq_ok.mp ha
    obtain ⟨format, hmade, -⟩ := bind_eq_ok.mp ha'
    refine not_trouble_of_fill ha fun d g hd hbrace hg => ?_
    exact (hformats f u hbrace hu).mp ⟨format, hmade⟩ d g hd hg
  · intro hsafe
    refine fill_of_not_trouble hproper htrial ?_ hsafe
    by_cases hbrace : '{' ∈ f.format
    · refine (hformats f u hbrace hu).mpr fun d g hd hg htrouble => ?_
      subst hd
      exact hsafe (.inner hbrace hg htrouble)
    · exact ⟨f.format.points, Field.formatText_plain hbrace values depth⟩

end

end

/-! ## Patterns -/

theorem exists_mapM_ok_iff {α β ε : Type} {f : α → Except ε β} (xs : List α) :
    (∃ ys, xs.mapM f = .ok ys) ↔ ∀ x ∈ xs, ∃ y, f x = .ok y := by
  induction xs with
  | nil => exact iff_of_true ⟨[], rfl⟩ (by simp)
  | cons x xs ih =>
    rw [List.forall_mem_cons, ← ih]
    simp only [List.mapM_cons, bind_eq_ok, pure_eq_ok]
    constructor
    · intro ⟨_, y, hy, ys, hys, _⟩
      exact ⟨⟨y, hy⟩, ys, hys⟩
    · intro ⟨⟨y, hy⟩, ys, hys⟩
      exact ⟨_, y, hy, ys, hys, rfl⟩

section

variable [Objects] {values : Values}

/-- A pattern without a fault is filled in exactly if its fields are. -/
theorem fillDeep_ok_iff {pattern : Text} (depth : Nat) (hfault : (parts pattern).2 = none) :
    (∃ a, fillDeep values (depth + 1) pattern = .ok a) ↔
      ∀ f, .field f ∈ (parts pattern).1 → ∃ a, f.fill values depth = .ok a := by
  have hsegments : (∃ a, fillDeep values (depth + 1) pattern = .ok a) ↔
      ∃ texts, (parts pattern).1.mapM (Segment.fill values depth) = .ok texts := by
    rw [fillDeep_succ, hfault]
    simp only [bind_eq_ok]
    exact ⟨fun ⟨_, texts, h, _⟩ => ⟨texts, h⟩, fun ⟨texts, h⟩ => ⟨_, texts, h, rfl⟩⟩
  rw [hsegments, exists_mapM_ok_iff]
  constructor
  · intro h f hf
    exact h _ hf
  · intro h s hs
    cases s with
    | literal t => exact ⟨t.points, rfl⟩
    | field f => exact h f hs

theorem no_fault_of_ok {pattern : Text} {a : List CodePoint} {depth : Nat}
    (h : fillDeep values (depth + 1) pattern = .ok a) : (parts pattern).2 = none := by
  rw [fillDeep_succ] at h
  obtain ⟨texts, -, h⟩ := bind_eq_ok.mp h
  cases hfault : (parts pattern).2 with
  | none => rfl
  | some x =>
    rw [hfault] at h
    cases h

/-- A pattern is filled in as in the trial if the formats of its fields are. -/
theorem fillDeep_trial_step (hproper : values.Proper) {depth : Nat} (hformats : FormatsFollow values depth)
    {pattern : Text} {t : List CodePoint} (htrial : fillDeep trial (depth + 1) pattern = .ok t) :
    (∃ a, fillDeep values (depth + 1) pattern = .ok a) ↔
      ∀ f, .field f ∈ (parts pattern).1 → ¬ f.Trouble values depth := by
  have hfault := no_fault_of_ok htrial
  rw [fillDeep_ok_iff depth hfault]
  refine forall₂_congr fun f hf => ?_
  obtain ⟨u, hu⟩ := (fillDeep_ok_iff depth hfault).mp ⟨t, htrial⟩ f hf
  exact fill_field_iff hproper hformats hu

/-- A pattern that passed the trial is filled in exactly if none of its fields is in trouble. -/
theorem fillDeep_trial_iff (hproper : values.Proper) (depth : Nat) {pattern : Text} {t : List CodePoint}
    (htrial : fillDeep trial (depth + 1) pattern = .ok t) :
    (∃ a, fillDeep values (depth + 1) pattern = .ok a) ↔
      ∀ f, .field f ∈ (parts pattern).1 → ¬ f.Trouble values depth := by
  induction depth generalizing pattern t with
  | zero =>
    refine fillDeep_trial_step hproper (fun f u hbrace hu => ?_) htrial
    -- Nothing can be filled in at this depth, so the format is not made of values.
    rw [Field.formatText_made hbrace] at hu
    cases hu
  | succ depth ih =>
    refine fillDeep_trial_step hproper (fun f u hbrace hu => ?_) htrial
    rw [Field.formatText_made hbrace] at hu ⊢
    rw [ih hu]
    constructor
    · intro hall d g hd hg
      cases hd
      exact hall g hg
    · intro hall g hg
      exact hall depth g rfl hg

/-- With a part below the number of characters, only the extension and a format made of the values can be the
trouble. -/
theorem not_trouble_of_plain (hproper : values.Proper) {f : Field} {depth : Nat} {t : List CodePoint}
    (htrial : f.fill trial depth = .ok t) (hpart : values.part < 0x110000)
    (hthird : Step.element (.index 2) ∉ (splitName f.name).2.1) (hplain : '{' ∉ f.format) :
    ¬ f.Trouble values depth := by
  obtain ⟨u, hu, htrial⟩ := bind_eq_ok.mp htrial
  obtain ⟨v, hv, -⟩ := bind_eq_ok.mp hu
  obtain ⟨-, hshort⟩ := sound_of_value hu
  have hpos := hproper.part
  intro htrouble
  cases htrouble with
  | third hasks _ => exact hthird (mem_of_asksThird hasks)
  | @long _ _ c n hconversion hc hn hlong =>
    rcases lookup_replaces hproper hv with ⟨w, hw, hvw⟩ | ⟨-, hasks⟩
    · obtain rfl : w = .number n := Except.ok.inj (hw.symm.trans hn)
      rcases hvw.like.2 n rfl with rfl | rfl
      · exact hshort c n hconversion hc hv hlong
      · have := Format.le_of_pow_ten_le (by decide) hlong
        omega
    · exact hthird (mem_of_asksThird hasks)
  | @large _ _ n format hn hformat hlarge =>
    obtain ⟨hasks, hlong⟩ := sound_of_value hn
    obtain ⟨w, hw, hlike⟩ := value_like hproper hasks hlong hu
    obtain rfl : w = .number n := Except.ok.inj (hw.symm.trans hn)
    rcases hlike.2 n rfl with rfl | rfl
    · -- the number and its format are those of the trial
      obtain ⟨format', hformat', hwritten⟩ := bind_eq_ok.mp htrial
      rw [Field.formatText_plain hplain] at hformat hformat'
      cases hformat
      cases hformat'
      exact ((formatted_ok_iff _ _).mp ⟨t, hwritten⟩).2 n rfl hlarge
    · have := hlarge.le (by omega)
      omega
  | inner hbrace => exact hplain hbrace
  | unsuited hbrace => exact hplain hbrace

end

end TypeSplit.NamePattern

namespace TypeSplit.Path

/-- A suffix is a point with something behind it. -/
theorem two_le_length_suffix {p : Path} (h : p.suffix ≠ []) : 2 ≤ p.suffix.length := by
  unfold suffix suffixOf at h ⊢
  dsimp only at h ⊢
  split at h
  · exact absurd rfl h
  · rename_i hboth
    rw [if_neg hboth]
    simp only [Bool.or_eq_true, List.isEmpty_iff, not_or] at hboth
    have := List.length_pos_iff.mpr hboth.1
    simp only [List.length_cons, List.length_reverse]
    omega

end TypeSplit.Path

namespace TypeSplit.Run

open TypeSplit.NamePattern (Segment Step Values parts splitName)

/-! ## The file names of a run -/

def extensionOf (source : Path) : Text := if source.suffix.isEmpty then defaultExtension else source.suffix

theorem two_le_length_extensionOf (source : Path) : 2 ≤ (extensionOf source).length := by
  unfold extensionOf
  split
  · decide
  · rename_i hsome
    exact Path.two_le_length_suffix (by simpa using hsome)

def fileValues (source : Path) (typeName : Text) (part : Int) : Values := ⟨typeName, part, extensionOf source⟩

section

variable [NamePattern.Objects] {v : Yaml.Value} {s : Settings} {splitter : Splitter} {source : Path} {typeName : Text}
  {part : Int}

theorem name_styleOf (hsplitter : Splitter.ofSettings s none = .ok splitter) :
    (splitter.styleOf s source).name typeName part =
      NamePattern.fill s.output.filePattern (fileValues source typeName part) := by
  simp only [Splitter.ofSettings, bind_eq_ok, pure_eq_ok] at hsplitter
  obtain ⟨scanner, -, rfl⟩ := hsplitter
  rfl

/-- Under settings that were accepted, a part of a type has a file name exactly if no field of the pattern is in trouble
with its type, part and extension. Below the number of characters that is so of every part, if no field asks for the third
character of anything and no format is made of the values. -/
theorem name_is_given_iff (haccepted : Settings.ofValue v = .ok s) (hsplitter : Splitter.ofSettings s none = .ok splitter)
    (hname : typeName ≠ []) (hpart : 1 ≤ part) :
    ((∃ name, (splitter.styleOf s source).name typeName part = .ok name) ↔
        ∀ f, .field f ∈ (parts s.output.filePattern).1 → ¬ f.Trouble (fileValues source typeName part) 1) ∧
      (part < 0x110000 →
        (∀ f, .field f ∈ (parts s.output.filePattern).1 →
          Step.element (.index 2) ∉ (splitName f.name).2.1 ∧ '{' ∉ f.format) →
        ∃ name, (splitter.styleOf s source).name typeName part = .ok name) := by
  have hproper : (fileValues source typeName part).Proper := ⟨hname, hpart, two_le_length_extensionOf source⟩
  obtain ⟨name, htrial⟩ := (Settings.usable_of_accepted haccepted).output.named
  have hiff := NamePattern.fillDeep_trial_iff hproper 1 htrial
  rw [name_styleOf hsplitter]
  refine ⟨hiff, fun hsmall hplain => hiff.mpr fun f hf => ?_⟩
  have hfault := NamePattern.no_fault_of_ok htrial
  obtain ⟨u, hu⟩ := (NamePattern.fillDeep_ok_iff 1 hfault).mp ⟨name, htrial⟩ f hf
  exact NamePattern.not_trouble_of_plain hproper hu hsmall (hplain f hf).1 (hplain f hf).2

end

def patternValue (pattern : Text) : Yaml.Value :=
  .mapping [(.text "output".toList, .mapping [(.text "file_pattern".toList, .text pattern)])]

def patternSettings (pattern : Text) : Settings :=
  { Settings.default with output := { Settings.default.output with filePattern := pattern } }

def shortPattern : Text := "\x7btype[0]!s:>2\x7d\x7bpart:03\x7d-\x7bpart\x7d.\x7bext[1]\x7d".toList

theorem short_names_are_given :
    Settings.ofValue (patternValue shortPattern) = .ok (patternSettings shortPattern) ∧
      (plainSplitter.styleOf (patternSettings shortPattern) (.ofText "x/a.vb".toList)).name "Ab".toList 12 =
        .ok (Text.points " A012-12.v".toList) ∧
      ∀ part, 1 ≤ part → part < 0x110000 → ∃ name,
        (plainSplitter.styleOf (patternSettings shortPattern) (.ofText "x/a.vb".toList)).name "Ab".toList part =
          .ok name := by
  have haccepted : Settings.ofValue (patternValue shortPattern) = .ok (patternSettings shortPattern) := rfl
  have hsplitter : Splitter.ofSettings (patternSettings shortPattern) none = .ok plainSplitter := rfl
  have hparts : (parts shortPattern).1 = [.literal [], .field ⟨"type[0]".toList, some 's', ">2".toList⟩, .literal [],
      .field ⟨"part".toList, none, "03".toList⟩, .literal ['-'], .field ⟨"part".toList, none, []⟩, .literal ['.'],
      .field ⟨"ext[1]".toList, none, []⟩] := by decide
  refine ⟨haccepted, rfl, fun part hpart hsmall => ?_⟩
  refine (name_is_given_iff haccepted hsplitter (List.cons_ne_nil _ _) hpart).2 hsmall fun f hf => ?_
  change .field f ∈ (parts shortPattern).1 at hf
  simp only [hparts, List.mem_cons, List.not_mem_nil, or_false, reduceCtorEq, false_or, Segment.field.injEq] at hf
  rcases hf with rfl | rfl | rfl | rfl
  · decide
  · decide
  · decide
  · decide

def thirdPattern : Text := "\x7bpart\x7d\x7bext[2]\x7d".toList

/-- A pattern whose format for the type is the third character of the extension. -/
def madePattern : Text := "\x7btype:\x7bext[2]\x7d\x7d\x7bpart\x7d".toList

def characterPattern : Text := "\x7bpart\x7d\x7bpart:c\x7d".toList

/-- A pattern with the third character of what an operation of the extension is bound to. -/
def boundPattern : Text := "\x7bext.upper.__self__[2]\x7d\x7bpart\x7d".toList

/-- All four patterns are accepted, and each gives no name for some part of a type. -/
theorem accepted_patterns_fail :
    Settings.ofValue (patternValue thirdPattern) = .ok (patternSettings thirdPattern) ∧
      (plainSplitter.styleOf (patternSettings thirdPattern) (.ofText "a.c".toList)).name ['A'] 1 =
        .error .indexOutOfRange ∧
      Settings.ofValue (patternValue madePattern) = .ok (patternSettings madePattern) ∧
      (plainSplitter.styleOf (patternSettings madePattern) (.ofText "a.vb".toList)).name ['A'] 1 =
        .error (.malformed (.unknownCode (.char 'b') .text)) ∧
      Settings.ofValue (patternValue characterPattern) = .ok (patternSettings characterPattern) ∧
      (plainSplitter.styleOf (patternSettings characterPattern) (.ofText "a.cs".toList)).name ['A'] 0x110000 =
        .error .characterRange ∧
      Settings.ofValue (patternValue boundPattern) = .ok (patternSettings boundPattern) ∧
      (plainSplitter.styleOf (patternSettings boundPattern) (.ofText "a.c".toList)).name ['A'] 1 =
        .error .indexOutOfRange :=
  ⟨rfl, rfl, rfl, rfl, rfl, rfl, rfl, rfl⟩

end TypeSplit.Run
