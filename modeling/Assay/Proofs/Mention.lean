import Assay.Proofs.Template.Reading
import Assay.Run

/-! # Only mentioned variables matter

What a run says does not depend on a variable that no placeholder of the suite names: neither on
its value, nor on whether there is one.
-/

namespace Assay

namespace Template

variable {bindings others : Table String String} {text : String}

theorem Piece.filled_congr {piece : Piece}
    (hagree : ∀ name, piece.name? = some name → bindings.get? name = others.get? name) :
    piece.filled bindings = piece.filled others := by
  unfold Piece.filled
  cases hname : piece.name? with
  | none => rfl
  | some name => rw [Option.bind_some, Option.bind_some, hagree name hname]

/-- Tables that agree on the names in a text give it the same value. -/
theorem substitute_congr
    (hagree : ∀ name ∈ findVariables text, bindings.get? name = others.get? name) :
    substitute bindings text = substitute others text := by
  rw [substitute_eq_fill, substitute_eq_fill, fill, fill]
  rw [List.flatMap_congr fun piece hpiece => Piece.filled_congr fun name hname =>
    hagree name (mem_findVariables_iff.mpr ⟨piece, hpiece, hname⟩)]

end Template

def Assertion.mentioned (assertion : Assertion) : List String :=
  Template.findVariables assertion.property ++ Template.findVariables assertion.expected

def Rule.mentioned (rule : Rule) : List String := Template.findVariables rule.path

/-- The names in the placeholders of a suite. -/
def Suite.mentioned (suite : Suite) : List String :=
  suite.assertions.flatMap Assertion.mentioned ++ suite.rules.flatMap Rule.mentioned

/-- A report without its id and its times. -/
def Report.timeless (report : Report) : Report :=
  { report with runId := "", startedAt := 0, endedAt := none, duration := none }

/-! ## Tables that agree -/

variable {bindings others : Table String String} {suite : Suite}

theorem Assertion.filled_congr {assertion : Assertion}
    (hagree : ∀ name ∈ assertion.mentioned, bindings.get? name = others.get? name) :
    assertion.filled bindings = assertion.filled others := by
  obtain ⟨hproperty, hexpected⟩ := List.forall_mem_append.mp hagree
  rw [filled, filled, Template.substitute_congr hproperty, Template.substitute_congr hexpected]

theorem Rule.filled_congr {rule : Rule}
    (hagree : ∀ name ∈ rule.mentioned, bindings.get? name = others.get? name) :
    rule.filled bindings = rule.filled others := by
  rw [filled, filled, Template.substitute_congr hagree]

/-- The assertions and the rules of a suite depend on the variables that it mentions. -/
theorem Suite.filled_congr
    (hagree : ∀ name ∈ suite.mentioned, bindings.get? name = others.get? name) :
    suite.assertions.map (Assertion.filled bindings) =
        suite.assertions.map (Assertion.filled others) ∧
      suite.rules.map (Rule.filled bindings) = suite.rules.map (Rule.filled others) := by
  constructor
  · refine List.map_congr_left fun assertion hassertion => ?_
    refine Assertion.filled_congr fun name hname => ?_
    exact hagree name (List.mem_append_left _ (List.mem_flatMap_of_mem hassertion hname))
  · refine List.map_congr_left fun rule hrule => ?_
    refine Rule.filled_congr fun name hname => ?_
    exact hagree name (List.mem_append_right _ (List.mem_flatMap_of_mem hrule hname))

/-! ## The same steps at other times -/

/-- A step does not look at the id and the times of a report, other than to write new ones. -/
theorem Report.timeless_apply (report : Report) (now : Int) (step : Step) :
    (report.apply now step).timeless = (report.timeless.apply 0 step).timeless := by
  cases step <;> rfl

/-- Reports that agree but for their times still do after the same steps. -/
theorem Report.timeless_play {state other : Report × Timeline}
    (hstate : state.1.timeless = other.1.timeless) (steps : List Step) :
    (play state steps).1.timeless = (play other steps).1.timeless := by
  induction steps generalizing state other with
  | nil => exact hstate
  | cons step rest ih =>
      refine ih ?_
      calc (state.1.apply state.2.now step).timeless
          = (state.1.timeless.apply 0 step).timeless := timeless_apply ..
        _ = (other.1.timeless.apply 0 step).timeless := by rw [hstate]
        _ = (other.1.apply other.2.now step).timeless := (timeless_apply ..).symm

/-! ## Runs -/

/-- If two tables of variables agree on every name in a placeholder of the suite, the runs under
them end by the same failure, or their reports are the same apart from id and times. -/
theorem only_mentioned_variables_matter {overrides otherOverrides : Table String String}
    (hagree : ∀ name ∈ suite.mentioned, (suite.bindingsUnder overrides).get? name =
      (suite.bindingsUnder otherOverrides).get? name)
    (response : Response) (runId otherId : String) (timeline otherTimeline : Timeline) :
    (suite.run response overrides runId timeline).map Report.timeless =
      (suite.run response otherOverrides otherId otherTimeline).map Report.timeless := by
  obtain ⟨hassertions, hrules⟩ := Suite.filled_congr hagree
  have hsteps : suite.steps response overrides = suite.steps response otherOverrides := by
    simp only [Suite.steps, hassertions, hrules]
  unfold Suite.run
  rw [hsteps]
  cases suite.steps response otherOverrides with
  | error failure => rfl
  | ok steps =>
      have hopened : (Report.opened suite runId timeline).1.timeless =
          (Report.opened suite otherId otherTimeline).1.timeless := rfl
      exact congrArg Except.ok (Report.timeless_play hopened steps)

/-- A suite that mentions a variable of its own, one that has to come from outside, and one that
nothing gives a value to. -/
def mentioningSuite : Suite where
  version := 1
  name := "mentioning"
  bindings := [("kind", "text/html"), ("idle", "1")]
  assertions := [
    ⟨"a1", "headerEquals", "\x7b\x7b header \x7d\x7d", "equals", "\x7b\x7bkind\x7d\x7d", some true⟩]
  rules := [⟨.header, "X-\x7b\x7bid\x7d\x7d", "token"⟩]

/-- The law at tables that differ in two variables, one of them given in the suite. -/
theorem runs_under_idle_variables_alike :
    (∀ name ∈ mentioningSuite.mentioned,
      (mentioningSuite.bindingsUnder [("id", "1"), ("idle", "2")]).get? name =
        (mentioningSuite.bindingsUnder [("other", "3"), ("id", "1")]).get? name) ∧
      (mentioningSuite.run ⟨200, [("x-1", "t")], "", 0⟩ [("id", "1"), ("idle", "2")] "r1"
          ⟨0, [1000]⟩).map Report.timeless =
        (mentioningSuite.run ⟨200, [("x-1", "t")], "", 0⟩ [("other", "3"), ("id", "1")] "r2"
          ⟨5, []⟩).map Report.timeless := by
  have hagree : ∀ name ∈ mentioningSuite.mentioned,
      (mentioningSuite.bindingsUnder [("id", "1"), ("idle", "2")]).get? name =
        (mentioningSuite.bindingsUnder [("other", "3"), ("id", "1")]).get? name := by
    decide +kernel
  exact ⟨hagree, only_mentioned_variables_matter hagree _ _ _ _ _⟩

end Assay
