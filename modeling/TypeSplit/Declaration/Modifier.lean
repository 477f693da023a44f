/-
  TypeSplit.Declaration.Modifier — runs of modifiers in front of a declaration, and the small pieces
  that the declaration patterns share.

  A word such as `ref` or `static` can be a modifier or, when the run stops before it, the keyword or
  the return type. So `modifierRun` gives every place where a run may end, the longest run first, and
  within one run the most blanks first.
-/

import TypeSplit.Source.Site
import TypeSplit.Text.Blank
import TypeSplit.Text.Word

namespace TypeSplit.Declaration

open TypeSplit.Text (isBlank isWord)

def typeModifiers : List Text := [
  "public".toList, "private".toList, "protected".toList, "internal".toList, "static".toList,
  "abstract".toList, "sealed".toList, "partial".toList, "unsafe".toList, "new".toList,
  "readonly".toList, "ref".toList]

def memberModifiers : List Text := [
  "public".toList, "private".toList, "protected".toList, "internal".toList, "static".toList,
  "virtual".toList, "override".toList, "abstract".toList]

/-- A declaration does not start inside a word or behind a dot. -/
def startsHere (c : Source.Cursor) : Bool := !c.behind.head?.any fun x => isWord x || x == '.'

/-! ## Blanks and words -/

/-- The rests after one or more blanks, the most blanks first. -/
def afterBlanks : Text → List Text
  | [] => []
  | c :: rest => if isBlank c then afterBlanks rest ++ [rest] else []

/-- The rest after all blanks, of which there is at least one. -/
def blanks? : Text → Option Text
  | [] => none
  | c :: rest => if isBlank c then some (rest.dropWhile isBlank) else none

/-- The longest word and the rest; the word is not empty. -/
def word? (t : Text) : Option (Text × Text) :=
  let word := t.takeWhile isWord
  if word.isEmpty then none else some (word, t.dropWhile isWord)

/-! ## Runs of modifiers -/

def afterModifier (modifiers : List Text) (t : Text) : List Text :=
  modifiers.flatMap fun m => ((m.isPrefixOf? t).map afterBlanks).getD []

theorem length_lt_of_mem_afterBlanks {r t : Text} (h : r ∈ afterBlanks t) : r.length < t.length := by
  induction t with
  | nil => cases h
  | cons c rest ih =>
    simp only [afterBlanks] at h
    split at h
    · rcases List.mem_append.mp h with h | h
      · exact Nat.lt_succ_of_lt (ih h)
      · rw [List.mem_singleton.mp h]; exact Nat.lt_succ_self _
    · cases h

theorem length_le_of_isPrefixOf? {k t r : Text} (h : k.isPrefixOf? t = some r) : r.length ≤ t.length := by
  induction k generalizing t with
  | nil => exact Nat.le_of_eq (congrArg List.length (Option.some.inj h).symm)
  | cons c k ih =>
    cases t with
    | nil => cases h
    | cons d t =>
      change (if c == d then k.isPrefixOf? t else none) = some r at h
      split at h
      · exact Nat.le_succ_of_le (ih h)
      · cases h

theorem length_lt_of_mem_afterModifier {modifiers : List Text} {r t : Text}
    (h : r ∈ afterModifier modifiers t) : r.length < t.length := by
  obtain ⟨m, _, hr⟩ := List.mem_flatMap.mp h
  cases hm : m.isPrefixOf? t with
  | none => rw [hm] at hr; cases hr
  | some s =>
    rw [hm] at hr
    exact Nat.lt_of_lt_of_le (length_lt_of_mem_afterBlanks hr) (length_le_of_isPrefixOf? hm)

/-- The rests after a run of modifiers, the longest run first; the empty run comes last. -/
def modifierRun (modifiers : List Text) (t : Text) : List Text :=
  ((afterModifier modifiers t).attach.flatMap fun ⟨r, _⟩ => modifierRun modifiers r) ++ [t]
termination_by t.length
decreasing_by exact length_lt_of_mem_afterModifier ‹_›

end TypeSplit.Declaration
