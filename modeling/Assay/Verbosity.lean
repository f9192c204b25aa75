/-! # Verbosity

Whether messages about fallbacks are wanted. This is settled once: the first wish counts and
later ones change nothing.
-/

namespace Assay

/-- The least severity of the messages that are shown. -/
inductive Level where
  | debug
  | warning
  deriving DecidableEq

def Level.word : Level → String
  | debug => "DEBUG"
  | warning => "WARNING"

/-- The level that has been settled, if one has. -/
structure Verbosity where
  settled : Option Level := none
  deriving DecidableEq

def Verbosity.isSettled (verbosity : Verbosity) : Bool := verbosity.settled.isSome

/-- The verbosity after a wish for messages of all levels or of warnings only. -/
def Verbosity.settle (verbosity : Verbosity) (verbose : Bool) : Verbosity :=
  match verbosity.settled with
  | some _ => verbosity
  | none => ⟨some (if verbose then .debug else .warning)⟩

/-- The number of places to which messages go: one once the level is settled. -/
def Verbosity.handlers (verbosity : Verbosity) : Nat :=
  if verbosity.isSettled then 1 else 0

end Assay
