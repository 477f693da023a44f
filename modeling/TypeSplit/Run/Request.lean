/-
  TypeSplit.Run.Request — what is to be split, and where to.
-/

import TypeSplit.Path
import TypeSplit.Report.Summary

namespace TypeSplit.Run

structure Request where
  source : Path
  output : Path
  /-- The number of files for each type, if members are dealt in turn. -/
  count : Option Int
  /-- The only type to split, in any case of letters. -/
  typeName : Option Text
  dryRun : Bool
  count_pos : ∀ n, count = some n → 1 ≤ n

inductive Request.CountError where
  | notPositive
  deriving DecidableEq, Repr

def Request.CountError.message : Request.CountError → Text
  | .notPositive => "split_count must be a positive integer".toList

/-- A request for a number of files that may be out of range. -/
def Request.make (source output : Path) (count : Option Int) (typeName : Option Text) (dryRun : Bool) :
    Except Request.CountError Request :=
  match count with
  | none => .ok ⟨source, output, none, typeName, dryRun, fun _ h => nomatch h⟩
  | some n =>
    if h : 1 ≤ n then .ok ⟨source, output, some n, typeName, dryRun, fun _ e => Option.some.inj e ▸ h⟩
    else .error .notPositive

def policyName (count : Option Int) : Text :=
  if count.isSome then Report.roundRobinPolicy else Report.visibilityPolicy

end TypeSplit.Run
