/-
  TypeSplit.Run.Log — what a run says while it goes.
-/

import TypeSplit.Text.Basic

namespace TypeSplit.Run

inductive Level where
  | debug
  | info
  | warning
  deriving DecidableEq, Repr

def Level.name : Level → Text
  | .debug => "DEBUG".toList
  | .info => "INFO".toList
  | .warning => "WARNING".toList

def Level.rank : Level → Nat
  | .debug => 0
  | .info => 1
  | .warning => 2

inductive Origin where
  | extraction
  | run
  deriving DecidableEq, Repr

def Origin.name : Origin → Text
  | .extraction => "classsplit.extractor".toList
  | .run => "classsplit.orchestrator".toList

structure Record where
  level : Level
  origin : Origin
  message : Text
  deriving DecidableEq, Repr

namespace Record

def debug (message : Text) : Record := ⟨.debug, .run, message⟩

def progress (message : Text) : Record := ⟨.info, .run, message⟩

def warning (message : Text) : Record := ⟨.warning, .run, message⟩

def trace (message : Text) : Record := ⟨.debug, .extraction, message⟩

def reaches (r : Record) (level : Level) : Bool := level.rank ≤ r.level.rank

def text (r : Record) : Text := r.level.name ++ ' ' :: r.message

end Record

end TypeSplit.Run
