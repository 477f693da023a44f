/-
  TypeSplit.Source.Site — the sites where a recogniser accepts, outside line comments.

  A recogniser looks at one place and either fails or says what it saw and how many characters that
  took. The scan goes to the next place where it accepts. If that place is behind `//` on its line, the
  scan goes on at the next line; otherwise it is a site and the scan goes on behind it.
-/

import TypeSplit.Source.Cursor

namespace TypeSplit.Source

/-- What stands at a place, and over how many characters. -/
abbrev Recogniser (α : Type) := Cursor → Option (α × Nat)

structure Site (α : Type) where
  start : Nat
  stop : Nat
  value : α
  deriving DecidableEq, Repr

def search? {α : Type} (accepts : Recogniser α) (behind : Text) : Text → Option (Cursor × α × Nat)
  | [] => (accepts ⟨behind, []⟩).map fun (a, n) => (⟨behind, []⟩, a, n)
  | x :: rest =>
    match accepts ⟨behind, x :: rest⟩ with
    | some (a, n) => some (⟨behind, x :: rest⟩, a, n)
    | none => search? accepts (x :: behind) rest

theorem search?_length {α : Type} {accepts : Recogniser α} {ahead behind : Text} {c : Cursor} {a : α} {n : Nat}
    (h : search? accepts behind ahead = some (c, a, n)) : c.ahead.length ≤ ahead.length := by
  induction ahead generalizing behind with
  | nil =>
    simp only [search?, Option.map_eq_some_iff, Prod.mk.injEq] at h
    obtain ⟨_, _, rfl, _⟩ := h
    exact Nat.le_refl _
  | cons x rest ih =>
    simp only [search?] at h
    split at h
    · cases h; exact Nat.le_refl _
    · exact Nat.le_succ_of_le (ih h)

theorem Cursor.nextLine?_go_length {ahead behind : Text} {d : Cursor}
    (h : Cursor.nextLine?.go behind ahead = some d) : d.ahead.length < ahead.length := by
  induction ahead generalizing behind with
  | nil => cases h
  | cons x rest ih =>
    simp only [Cursor.nextLine?.go] at h
    split at h
    · cases h; exact Nat.lt_succ_self _
    · exact Nat.lt_succ_of_lt (ih h)

theorem Cursor.advance_length_le (n : Nat) (c : Cursor) : (c.advance n).ahead.length ≤ c.ahead.length := by
  induction n generalizing c with
  | zero => exact Nat.le_refl _
  | succ n ih =>
    obtain ⟨behind, ahead⟩ := c
    cases ahead with
    | nil => exact Nat.le_refl _
    | cons x rest => exact Nat.le_trans (ih ⟨x :: behind, rest⟩) (Nat.le_succ _)

theorem Cursor.advance_length_lt (n : Nat) (c : Cursor) (h : c.ahead ≠ []) :
    (c.advance (n + 1)).ahead.length < c.ahead.length := by
  obtain ⟨behind, ahead⟩ := c
  cases ahead with
  | nil => exact absurd rfl h
  | cons x rest => exact Nat.lt_succ_of_le (Cursor.advance_length_le n ⟨x :: behind, rest⟩)

def sitesFrom {α : Type} (accepts : Recogniser α) (c : Cursor) : List (Site α) :=
  if c.ahead = [] then [] else
    match _found : search? accepts c.behind c.ahead with
    | none => []
    | some (place, a, n) =>
      if place.inLineComment then
        match _next : place.nextLine? with
        | none => []
        | some d => sitesFrom accepts d
      else if place.ahead = [] then [⟨place.offset, place.offset + n, a⟩]
      else ⟨place.offset, place.offset + n, a⟩ :: sitesFrom accepts (place.advance (max n 1))
termination_by c.ahead.length
decreasing_by
  · exact Nat.lt_of_lt_of_le (Cursor.nextLine?_go_length _next) (search?_length _found)
  · have : max n 1 = (max n 1 - 1) + 1 := by omega
    rw [this]
    exact Nat.lt_of_lt_of_le (Cursor.advance_length_lt _ _ ‹_›) (search?_length _found)

def sites {α : Type} (accepts : Recogniser α) (t : Text) (start stop : Nat) : List (Site α) :=
  sitesFrom accepts (Cursor.at_ (t.take stop) start)

end TypeSplit.Source
