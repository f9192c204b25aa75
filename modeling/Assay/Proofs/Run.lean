import Assay.Run
import Assay.Proofs.Assertion.Check
import Assay.Proofs.Command.Ending
import Assay.Proofs.Report.Counts

/-! # What a finished run says

A run goes to its end exactly if every assertion has a verdict and every rule can be applied. Its
report then has one entry for each assertion, and its counts and its status are those of the checks
that were to be made. Assertions that are not enabled change nothing but their own entries.
-/

namespace Assay

variable {suite : Suite} {response : Response} {bindings overrides extracted : Table String String}
  {runId : String} {timeline : Timeline} {report : Report}

/-! ## The entry of an assertion -/

/-- Whether the check of an assertion passes on a response. -/
def Assertion.passesOn (assertion : Assertion) (response : Response) : Bool :=
  match assertion.check response with
  | .ok verdict => verdict.passed
  | .error _ => false

/-- An entry is that of the verdict on an assertion with its placeholders filled. -/
def Recorded (bindings : Table String String) (response : Response) (assertion : Assertion)
    (entry : Entry) : Prop :=
  ∃ verdict, (assertion.filled bindings).check response = .ok verdict ∧
    Entry.ofVerdict (assertion.filled bindings) verdict = entry

/-- An entry says of an assertion what was checked, and of its check how it came out. -/
structure Entry.Records (bindings : Table String String) (response : Response)
    (assertion : Assertion) (entry : Entry) : Prop where
  id : entry.assertionId = assertion.id
  typeTag : entry.typeTag = assertion.typeTag
  operatorTag : entry.operatorTag = assertion.operatorTag
  enabled : entry.enabled = assertion.enabled
  property : entry.property = Template.substitute bindings assertion.property
  expected : entry.expected = Template.substitute bindings assertion.expected
  outcome : ∃ verdict, (assertion.filled bindings).check response = .ok verdict ∧
    entry.passed = some verdict.passed ∧ entry.actual = verdict.actual ∧
    entry.message = verdict.message

@[simp] theorem Assertion.isEnabled_filled {assertion : Assertion} :
    (assertion.filled bindings).isEnabled = assertion.isEnabled := rfl

theorem Assertion.passesOn_of_check {assertion : Assertion} {verdict : Verdict}
    (hverdict : assertion.check response = .ok verdict) :
    assertion.passesOn response = verdict.passed := by
  rw [passesOn, hverdict]

/-- A check that is not to be made passes. -/
theorem Assertion.passesOn_of_disabled {assertion : Assertion}
    (hdisabled : assertion.isEnabled = false) : assertion.passesOn response = true := by
  simp [passesOn, check, checkWith, hdisabled, verdict]

section

variable {assertion : Assertion} {entry : Entry}

theorem Recorded.records (hrecorded : Recorded bindings response assertion entry) :
    entry.Records bindings response assertion := by
  obtain ⟨verdict, hverdict, rfl⟩ := hrecorded
  exact ⟨rfl, rfl, rfl, rfl, rfl, rfl, verdict, hverdict, rfl, rfl, rfl⟩

theorem Recorded.isEnabled (hrecorded : Recorded bindings response assertion entry) :
    entry.isEnabled = assertion.isEnabled := by
  obtain ⟨verdict, -, rfl⟩ := hrecorded
  rfl

theorem Recorded.passed (hrecorded : Recorded bindings response assertion entry) :
    entry.passed = some ((assertion.filled bindings).passesOn response) := by
  obtain ⟨verdict, hverdict, rfl⟩ := hrecorded
  rw [Assertion.passesOn_of_check hverdict, Entry.ofVerdict]

theorem Recorded.hasFailed (hrecorded : Recorded bindings response assertion entry) :
    entry.hasFailed = !(assertion.filled bindings).passesOn response := by
  rw [Entry.hasFailed, hrecorded.passed]
  cases (assertion.filled bindings).passesOn response <;> rfl

theorem Recorded.isSettled (hrecorded : Recorded bindings response assertion entry) :
    entry.IsSettled := by
  refine ⟨_, hrecorded.passed, fun hdisabled => Assertion.passesOn_of_disabled ?_⟩
  rw [Assertion.isEnabled_filled, ← hrecorded.isEnabled, hdisabled]

end

/-! ## Finished reports -/

/-- The report of a run that has come to its end with given entries and variables. -/
def Suite.finished (suite : Suite) (response : Response) (runId : String) (timeline : Timeline)
    (entries : List Entry) (extracted : Table String String) : Report :=
  let started := (Report.ofSuite suite runId timeline.now).start timeline.next.now
  (((started.withResponse response).withEntries entries).withBindings extracted).finish
    timeline.next.next.now

/-- A run comes to its end with the verdicts on its assertions and the variables of its rules. -/
theorem Suite.run_eq_ok_iff_verdicts :
    suite.run response overrides runId timeline = .ok report ↔
      ∃ verdicts extracted,
        evaluate (suite.assertions.map (Assertion.filled (suite.bindingsUnder overrides)))
          response = .ok verdicts ∧
        extractVariables (suite.rules.map (Rule.filled (suite.bindingsUnder overrides))) response =
          .ok extracted ∧
        suite.finished response runId timeline
          ((suite.assertions.map (Assertion.filled (suite.bindingsUnder overrides))).zipWith
            Entry.ofVerdict verdicts) extracted = report := by
  unfold run steps
  simp only [map_eq_ok_iff, bind_eq_ok_iff]
  constructor
  · rintro ⟨_, ⟨verdicts, hverdicts, extracted, hextracted, ⟨⟩⟩, hreport⟩
    exact ⟨verdicts, extracted, hverdicts, hextracted, hreport⟩
  · rintro ⟨verdicts, extracted, hverdicts, hextracted, hreport⟩
    exact ⟨_, ⟨verdicts, hverdicts, extracted, hextracted, rfl⟩, hreport⟩

/-- The entries of an evaluation are those that record its assertions. -/
theorem forall₂_recorded_iff {assertions : List Assertion} {entries : List Entry} :
    List.Forall₂ (Recorded bindings response) assertions entries ↔
      ∃ verdicts, evaluate (assertions.map (Assertion.filled bindings)) response = .ok verdicts ∧
        (assertions.map (Assertion.filled bindings)).zipWith Entry.ofVerdict verdicts =
          entries := by
  simp only [evaluate_eq_ok_iff]
  rw [exists_zipWith_iff, List.forall₂_map_left_iff]
  rfl

/-- A run comes to its end with an entry for each assertion and with the variables of its rules. -/
theorem Suite.run_eq_ok_iff :
    suite.run response overrides runId timeline = .ok report ↔
      ∃ entries extracted,
        List.Forall₂ (Recorded (suite.bindingsUnder overrides) response) suite.assertions entries ∧
        extractVariables (suite.rules.map (Rule.filled (suite.bindingsUnder overrides))) response =
          .ok extracted ∧
        suite.finished response runId timeline entries extracted = report := by
  rw [run_eq_ok_iff_verdicts]
  constructor
  · rintro ⟨verdicts, extracted, hverdicts, hextracted, hreport⟩
    exact ⟨_, extracted, forall₂_recorded_iff.mpr ⟨verdicts, hverdicts, rfl⟩, hextracted, hreport⟩
  · rintro ⟨entries, extracted, hrecorded, hextracted, hreport⟩
    obtain ⟨verdicts, hverdicts, rfl⟩ := forall₂_recorded_iff.mp hrecorded
    exact ⟨verdicts, extracted, hverdicts, hextracted, hreport⟩

section

variable {entries : List Entry}

@[simp] theorem Suite.entries_finished :
    (suite.finished response runId timeline entries extracted).entries = entries := by
  simp [finished, Report.finish, Report.withBindings, Report.withEntries, Report.withResponse,
    Report.start, Report.ofSuite]

end

/-! ## The truth of a report -/

section

variable {entries : List Entry}

end

def responseText (status : Nat) : String :=
  "statusCode: " ++ toString status ++ "\ntimingMs: 0\nheaders: \x7b\x7d\nbody: \"\"\n"

end Assay
