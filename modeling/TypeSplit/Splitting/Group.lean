/-
  TypeSplit.Splitting.Group — dealing the members of a type into groups, one for each file.

  With a count the members are dealt in turn: the member at index `i` goes to group `i % count`. Without
  one the exposed members come first and the others second. No group is empty.
-/

import TypeSplit.Extraction.Member

namespace TypeSplit.Splitting

inductive GroupingError where
  | countNotPositive
  deriving DecidableEq, Repr

def GroupingError.message : GroupingError → String
  | .countNotPositive => "count must be a positive integer"

/-- The elements at the indices that leave `rest` modulo `count`. -/
def turn {α : Type} (count rest : Nat) (xs : List α) : List α :=
  (xs.zipIdx.filter fun x => x.2 % count == rest).map (·.1)

/-- The elements dealt in turn to `count` groups, without the empty ones. -/
def deal {α : Type} (count : Nat) (xs : List α) : List (List α) :=
  (List.range (min count xs.length)).map fun rest => turn count rest xs

def roundRobin {α : Type} (count : Int) (xs : List α) : Except GroupingError (List (List α)) :=
  if count < 1 then .error .countNotPositive else .ok (deal count.toNat xs)

def byVisibility (members : List Member) : List (List Member) :=
  [members.filter (·.exposed), members.filter (!·.exposed)].filter (!·.isEmpty)

/-- The groups for a count, or by visibility when there is none. -/
def groups (members : List Member) (count : Option Int) : Except GroupingError (List (List Member)) :=
  match count with
  | some count => roundRobin count members
  | none => .ok (byVisibility members)

def exposedCount (group : List Member) : Nat := (group.filter (·.exposed)).length

def hiddenCount (group : List Member) : Nat := group.length - exposedCount group

end TypeSplit.Splitting
