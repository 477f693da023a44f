/-
  TypeSplit.Proofs.Filling — how a name pattern is filled in.

  A pattern is filled in segment by segment, and the name is what the segments give, one behind the other
  (`fill_eq_ok_iff`). A pattern without braces is its own name (`fill_braceless`), and so is every number
  (`braceless_decimalInt`, `braceless_plain`).
-/

import TypeSplit.Proofs.FileName
import TypeSplit.Proofs.Overflow
import TypeSplit.Proofs.Writing

namespace TypeSplit.NamePattern

open TypeSplit.Declaration (Braceless)

def parts (pattern : Text) : List Segment × Option Fault := segments pattern (pattern.length + 1)

/-- A whole number is written unless it has more than 4300 digits. -/
theorem Format.wholeText_eq (n : Int) :
    Format.wholeText n = if 10 ^ 4300 ≤ n.natAbs then .error (.malformed .tooLong) else .ok (Text.decimalInt n) :=
  if_congr (Number.lt_digitCount_iff (k := 4300) (by decide)) rfl rfl

section

variable [Objects]

/-! ## Segments -/

def Field.value (values : Values) (f : Field) : Except Error Value :=
  lookup values f.name >>= fun v =>
    match f.conversion with
    | some c => v.convert c
    | none => .ok v

/-- The format of a field, with its own fields filled in `depth` levels deep. -/
def Field.formatText (values : Values) (depth : Nat) (f : Field) : Except Error (List CodePoint) :=
  if f.format.contains '{' then fillDeep values depth f.format else .ok f.format.points

theorem Field.formatText_plain {f : Field} (h : '{' ∉ f.format) (values : Values) (depth : Nat) :
    f.formatText values depth = .ok f.format.points :=
  if_neg (by simpa using h)

theorem Field.formatText_made {f : Field} (h : '{' ∈ f.format) (values : Values) (depth : Nat) :
    f.formatText values depth = fillDeep values depth f.format :=
  if_pos (List.contains_iff_mem.mpr h)

def Field.fill (values : Values) (depth : Nat) (f : Field) : Except Error (List CodePoint) :=
  f.value values >>= fun v => f.formatText values depth >>= v.formatted

def Segment.fill (values : Values) (depth : Nat) : Segment → Except Error (List CodePoint)
  | .literal t => .ok t.points
  | .field f => f.fill values depth

theorem fillDeep_succ (values : Values) (depth : Nat) (pattern : Text) :
    fillDeep values (depth + 1) pattern = (parts pattern).1.mapM (Segment.fill values depth) >>= fun texts =>
      match (parts pattern).2 with
      | some x => .error (.malformed x)
      | none => .ok texts.flatten := by
  rw [fillDeep]
  refine congrArg (fun g => (parts pattern).1.mapM g >>= _) (funext fun s => ?_)
  cases s with
  | literal t => rfl
  | field f =>
    simp only [Segment.fill, Field.fill, Field.value, Field.formatText]
    cases lookup values f.name with
    | error e => rfl
    | ok v =>
      cases f.conversion with
      | none => by_cases h : f.format.contains '{' = true <;> simp only [h] <;> rfl
      | some c =>
        simp only [bind, Except.bind]
        cases v.convert c with
        | error e => rfl
        | ok v => by_cases h : f.format.contains '{' = true <;> simp only [h] <;> rfl

theorem fill_eq_ok_iff {pattern : Text} {t : List CodePoint} {values : Values} :
    fill pattern values = .ok t ↔ (parts pattern).2 = none ∧
      ∃ texts, (parts pattern).1.mapM (Segment.fill values 1) = .ok texts ∧ t = texts.flatten := by
  rw [fill, fillDeep_succ, bind_eq_ok]
  cases (parts pattern).2 with
  | some x => simp
  | none => simp [eq_comm]

/-! ## Texts without braces -/

theorem fill_braceless {t : Text} (ht : Braceless t) (values : Values) : fill t values = .ok t.points := by
  have hplain : ∀ c ∈ t, (!(c == '{' || c == '}')) = true := by
    intro c hc
    have hopen : c ≠ '{' := fun h => ht.no_open (h ▸ hc)
    have hclose : c ≠ '}' := fun h => ht.no_close (h ▸ hc)
    simp [hopen, hclose]
  have hparts : parts t = (if t.isEmpty then [] else [.literal t], none) := by
    simp only [parts, segments, List.takeWhile_eq_self_iff.mpr hplain, List.dropWhile_eq_nil_iff.mpr hplain]
  rw [fill_eq_ok_iff, hparts]
  cases t with
  | nil => exact ⟨rfl, [], rfl, rfl⟩
  | cons c t => exact ⟨rfl, [Text.points (c :: t)], rfl, by simp⟩

end

end TypeSplit.NamePattern

namespace TypeSplit.Number

open TypeSplit.Declaration (Braceless)

theorem braceless_decimal (n : Nat) : Braceless (Text.decimal n) :=
  .of_all (by decide) (by decide) fun _ hc => Text.isDigit_decimal hc

theorem braceless_decimalInt (n : Int) : Braceless (Text.decimalInt n) := by
  rw [Text.decimalInt]
  split
  · exact Braceless.append (a := ['-']) ⟨by decide, by decide⟩ (braceless_decimal _)
  · exact braceless_decimal _

theorem braceless_replicate {c : Char} (ho : c ≠ '{') (hc : c ≠ '}') (n : Nat) : Braceless (List.replicate n c) :=
  ⟨fun h => ho (List.eq_of_mem_replicate h).symm, fun h => hc (List.eq_of_mem_replicate h).symm⟩

theorem braceless_withPoint (value places : Nat) (keepPoint : Bool) : Braceless (withPoint value places keepPoint) := by
  have hdigits := (braceless_replicate (c := '0') (by decide) (by decide) (places + 1 - (Text.decimal value).length)).append
    (braceless_decimal value)
  simp only [withPoint]
  generalize List.replicate (places + 1 - (Text.decimal value).length) '0' ++ Text.decimal value = digits at hdigits ⊢
  have htake : Braceless (digits.take (digits.length - places)) :=
    ⟨fun h => hdigits.no_open (List.mem_of_mem_take h), fun h => hdigits.no_close (List.mem_of_mem_take h)⟩
  have hdrop : Braceless (digits.drop (digits.length - places)) :=
    ⟨fun h => hdigits.no_open (List.mem_of_mem_drop h), fun h => hdigits.no_close (List.mem_of_mem_drop h)⟩
  split
  · exact htake
  · exact htake.append (Braceless.append (a := ['.']) ⟨by decide, by decide⟩ hdrop)

theorem braceless_exponentMark (power : Int) : Braceless (exponentMark 'e' power) := by
  have hzeros := braceless_replicate (c := '0') (by decide) (by decide) (2 - (Text.decimal power.natAbs).length)
  have hdigits := hzeros.append (braceless_decimal power.natAbs)
  unfold exponentMark
  split
  · exact Braceless.append (a := ['e', '-']) ⟨by decide, by decide⟩ hdigits
  · exact Braceless.append (a := ['e', '+']) ⟨by decide, by decide⟩ hdigits

theorem braceless_positional (d : Digits) : Braceless (positional d) := by
  unfold positional
  split
  · exact braceless_withPoint _ _ _
  · exact braceless_decimal _

theorem braceless_plain (x : Binary64) : Braceless (plain x) := by
  have hsign : ∀ negative, Braceless (sign negative) := by
    intro negative
    cases negative
    · exact ⟨by decide, by decide⟩
    · exact ⟨by decide, by decide⟩
  cases x with
  | nan => exact ⟨by decide, by decide⟩
  | infinite negative => exact (hsign negative).append ⟨by decide, by decide⟩
  | finite negative mantissa exponent =>
    refine (hsign negative).append ?_
    split
    · exact ⟨by decide, by decide⟩
    · simp only
      split
      · exact (braceless_withPoint _ _ _).append (braceless_exponentMark _)
      · split
        · exact braceless_positional _
        · exact (braceless_positional _).append ⟨by decide, by decide⟩

end TypeSplit.Number
