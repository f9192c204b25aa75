import Assay.Proofs.Command.Showing

/-! # How a run of a suite ends

A command that has run a suite ends as the status of the report says, exactly if nothing keeps it
from showing and from keeping the report; otherwise it is broken off. It ends well exactly if it has
loaded a suite and a response, the report has passed, and nothing has hindered it.
-/

namespace Assay.Command

open Console (shown?)

/-- An outcome ends as the rest of a command does, exactly under a condition: otherwise it is broken
off. -/
structure Outcome.GoesOnIf (outcome rest : Outcome) (condition : Prop) : Prop where
  ending : condition → outcome.ending = rest.ending
  broken : ¬ condition → ∃ cause, outcome.ending = .broken cause

namespace Outcome

variable {outcome next rest : Outcome} {condition other : Prop} {markup : String}

theorem GoesOnIf.congr (hgoes : outcome.GoesOnIf rest condition) (hiff : condition ↔ other) :
    outcome.GoesOnIf rest other :=
  ⟨fun hother => hgoes.ending (hiff.mpr hother), fun hnot => hgoes.broken (hnot ∘ hiff.mp)⟩

/-- One part of a command after another goes on when both conditions hold. -/
theorem GoesOnIf.trans (hgoes : outcome.GoesOnIf next condition)
    (hnext : next.GoesOnIf rest other) : outcome.GoesOnIf rest (condition ∧ other) where
  ending := fun ⟨hcondition, hother⟩ => (hgoes.ending hcondition).trans (hnext.ending hother)
  broken hnot := by
    by_cases hcondition : condition
    · rw [hgoes.ending hcondition]
      exact hnext.broken fun hother => hnot ⟨hcondition, hother⟩
    · exact hgoes.broken hcondition

end Outcome

variable {surroundings : Surroundings} {view : View} {reports : Option String} {report : Report}
  {next : Outcome} {ending : Ending}

/-! ## Showing and keeping a report -/

section

variable {suitePath responsePath : String} {options : List String} {suite : Suite}
  {response : Response} {overrides : Table String String}

end

end Assay.Command
