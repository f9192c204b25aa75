import Assay.Report.Basic

/-! # Timelines

The times at which someone looks at the clock. When the last one is reached it stays.
-/

namespace Assay

/-- Times in microseconds, of which the last one repeats. -/
structure Timeline where
  now : Int
  later : List Int := []
  deriving DecidableEq

/-- The timeline of a list of times, which starts with 1970 when the list is empty. -/
def Timeline.ofList : List Int → Timeline
  | [] => ⟨0, []⟩
  | now :: later => ⟨now, later⟩

/-- A timeline after one look at the clock. -/
def Timeline.next (timeline : Timeline) : Timeline :=
  match timeline.later with
  | [] => timeline
  | now :: later => ⟨now, later⟩

/-- A report and the timeline after a step. Only start and finish look at the clock. -/
def Report.advance (state : Report × Timeline) (step : Step) : Report × Timeline :=
  (state.1.apply state.2.now step, if step.asksTime then state.2.next else state.2)

def Report.opened (suite : Suite) (runId : String) (timeline : Timeline) : Report × Timeline :=
  (.ofSuite suite runId timeline.now, timeline.next)

def Report.play (state : Report × Timeline) (steps : List Step) : Report × Timeline :=
  steps.foldl Report.advance state

end Assay
