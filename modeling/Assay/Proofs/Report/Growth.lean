import Assay.Proofs.Report.Counts
import Assay.Proofs.Table

/-! # How a report grows

Steps come in any order: a run is started again, finished twice, or added to after its end. The
entries and the variables of a report are those that its steps added, whatever else happened. Its
status goes by the last start or finish, and its counts by the last finish, over the entries that
were there at that time.
-/

namespace Assay

/-! ## What a step adds -/

def Step.addedEntries : Step → List Entry
  | .verdicts assertions given => assertions.zipWith Entry.ofVerdict given
  | .entry added => [added]
  | _ => []

def Step.addedBindings : Step → Table String String
  | .bindings table => table
  | _ => []

/-- An entry holds of an assertion what was to be checked, and of a verdict how it came out. -/
structure Entry.IsOf (entry : Entry) (assertion : Assertion) (verdict : Verdict) : Prop where
  assertionId : entry.assertionId = assertion.id
  typeTag : entry.typeTag = assertion.typeTag
  operatorTag : entry.operatorTag = assertion.operatorTag
  property : entry.property = assertion.property
  expected : entry.expected = assertion.expected
  enabled : entry.enabled = assertion.enabled
  passed : entry.passed = some verdict.passed
  actual : entry.actual = verdict.actual
  message : entry.message = verdict.message

/-- An entry that holds what there is to say about a verdict is the one that is made of it. -/
theorem Entry.isOf_iff {entry : Entry} {assertion : Assertion} {verdict : Verdict} :
    entry.IsOf assertion verdict ↔ entry = Entry.ofVerdict assertion verdict := by
  constructor
  · rintro ⟨hid, htype, hoperator, hproperty, hexpected, henabled, hpassed, hactual, hmessage⟩
    cases entry
    simp only [ofVerdict, mk.injEq]
    exact ⟨hid, htype, hoperator, hproperty, hexpected, henabled, hpassed, hactual, hmessage⟩
  · rintro rfl
    exact ⟨rfl, rfl, rfl, rfl, rfl, rfl, rfl, rfl, rfl⟩

/-- Verdicts add an entry for each assertion that has one, in order. -/
theorem Step.addedEntries_verdicts (assertions : List Assertion) (verdicts : List Verdict) :
    (Step.verdicts assertions verdicts).addedEntries.length =
        min assertions.length verdicts.length ∧
      ∀ (index : Nat) (entry : Entry),
        (Step.verdicts assertions verdicts).addedEntries[index]? = some entry ↔
          ∃ assertion verdict, assertions[index]? = some assertion ∧
            verdicts[index]? = some verdict ∧ entry.IsOf assertion verdict := by
  refine ⟨List.length_zipWith, fun index entry => ?_⟩
  rw [addedEntries, List.getElem?_zipWith_eq_some]
  simp only [Entry.isOf_iff, eq_comm]

namespace Report

variable {step : Step} {steps before after : List Step}

/-- A step adds its entries behind those there are. -/
theorem entries_apply (report : Report) (now : Int) (step : Step) :
    (report.apply now step).entries = report.entries ++ step.addedEntries := by
  cases step <;>
    simp [apply, start, finish, withResponse, withVerdicts, withEntries, withBindings,
      Step.addedEntries]

theorem extracted_apply (report : Report) (now : Int) (step : Step) :
    (report.apply now step).extracted = Table.putAll report.extracted step.addedBindings := by
  cases step <;> rfl

/-! ## Runs of steps -/

theorem play_append (state : Report × Timeline) (first second : List Step) :
    play state (first ++ second) = play (play state first) second :=
  List.foldl_append

theorem play_split (state : Report × Timeline) :
    play state (before ++ step :: after) = play (advance (play state before) step) after := by
  rw [play_append]
  rfl

theorem entries_play (state : Report × Timeline) (steps : List Step) :
    (play state steps).1.entries = state.1.entries ++ steps.flatMap Step.addedEntries := by
  induction steps generalizing state with
  | nil => exact (List.append_nil _).symm
  | cons step rest ih =>
      -- what the first step adds belongs to the state in which the others begin
      rw [List.flatMap_cons, ← List.append_assoc, ← entries_apply state.1 state.2.now step]
      exact ih (advance state step)

/-- Steps write their bindings in their order. -/
theorem extracted_play (state : Report × Timeline) (steps : List Step) :
    (play state steps).1.extracted =
      Table.putAll state.1.extracted (steps.flatMap Step.addedBindings) := by
  induction steps generalizing state with
  | nil => rfl
  | cons step rest ih =>
      rw [List.flatMap_cons, Table.putAll_append, ← extracted_apply state.1 state.2.now step]
      exact ih (advance state step)

/-- What no single step of a run changes, the run does not change. -/
theorem read_play {α : Type} (read : Report → α) {quiet : Step → Prop}
    (hquiet : ∀ report now step, quiet step → read (report.apply now step) = read report)
    (hsteps : ∀ step ∈ steps, quiet step) (state : Report × Timeline) :
    read (play state steps).1 = read state.1 := by
  induction steps generalizing state with
  | nil => rfl
  | cons step rest ih =>
      obtain ⟨hstep, hrest⟩ := List.forall_mem_cons.mp hsteps
      exact (ih hrest (advance state step)).trans (hquiet _ _ step hstep)

/-! ## What a step leaves alone -/

/-- No step changes what a report is about. -/
theorem identity_play (state : Report × Timeline) (steps : List Step) :
    (play state steps).1.runId = state.1.runId ∧
      (play state steps).1.suiteName = state.1.suiteName ∧
      (play state steps).1.suiteVersion = state.1.suiteVersion := by
  have hquiet : ∀ (report : Report) (now : Int) (step : Step), True →
      ((report.apply now step).runId, (report.apply now step).suiteName,
        (report.apply now step).suiteVersion) =
          (report.runId, report.suiteName, report.suiteVersion) := by
    intro report now step _
    cases step <;> rfl
  have hkept := read_play (fun report => (report.runId, report.suiteName, report.suiteVersion))
    hquiet (fun step (_ : step ∈ steps) => trivial) state
  simpa only [Prod.mk.injEq] using hkept

theorem response_play (hsteps : ∀ step ∈ steps, ∀ seen, step ≠ .response seen)
    (state : Report × Timeline) : (play state steps).1.response = state.1.response := by
  refine read_play response (fun report now step hquiet => ?_) hsteps state
  cases step with
  | response seen => exact absurd rfl (hquiet seen)
  | _ => rfl

/-- Only a step that looks at the clock changes the status. -/
theorem status_play (hsteps : ∀ step ∈ steps, step.asksTime = false)
    (state : Report × Timeline) : (play state steps).1.status = state.1.status := by
  refine read_play status (fun report now step hquiet => ?_) hsteps state
  cases step with
  | start => cases hquiet
  | finish => cases hquiet
  | _ => rfl

theorem counts_play (hsteps : ∀ step ∈ steps, step ≠ .finish) (state : Report × Timeline) :
    (play state steps).1.counts = state.1.counts := by
  refine read_play counts (fun report now step hquiet => ?_) hsteps state
  cases step with
  | finish => exact absurd rfl hquiet
  | _ => rfl

end Report

/-! ## Reports and their steps -/

/-- Counts are those of a list of entries. The parts make up the whole exactly if as many entries
are open as have failed unasked; so they do if every enabled entry has an outcome, and no entry
failed that is not enabled. -/
structure Counts.AreOf (counts : Counts) (entries : List Entry) : Prop where
  total : counts.total = entries.length
  passed : counts.passed =
    entries.countP fun entry => entry.enabled = some true && entry.passed = some true
  failed : counts.failed = entries.countP fun entry => entry.passed = some false
  skipped : counts.skipped = entries.countP fun entry => entry.enabled ≠ some true
  parts_iff : counts.passed + counts.failed + counts.skipped = counts.total ↔
    entries.countP Entry.isOpen = entries.countP Entry.failedUnasked
  parts : (∀ entry ∈ entries, entry.enabled = some true → entry.passed ≠ none) →
    (∀ entry ∈ entries, entry.enabled ≠ some true → entry.passed ≠ some false) →
      counts.passed + counts.failed + counts.skipped = counts.total

theorem Counts.areOf_ofEntries (entries : List Entry) : (ofEntries entries).AreOf entries where
  total := rfl
  passed := rfl
  failed := rfl
  skipped := by
    refine List.countP_congr fun entry _ => ?_
    simp [Entry.isEnabled]
  parts_iff := by
    have hbalance := balance_ofEntries entries
    omega
  parts := by
    intro houtcomes hunasked
    refine parts_of_none (fun entry hentry => ?_) fun entry hentry => ?_
    · simpa [Entry.isOpen, Entry.isEnabled] using houtcomes entry hentry
    · simpa [Entry.failedUnasked, Entry.isEnabled, Entry.hasFailed] using hunasked entry hentry

/-- A report of a suite is what a list of steps made of it. -/
structure Report.GrownBy (report : Report) (suite : Suite) (runId : String)
    (steps : List Step) : Prop where
  runId : report.runId = runId
  suiteName : report.suiteName = suite.name
  suiteVersion : report.suiteVersion = suite.version
  entries : report.entries = steps.flatMap Step.addedEntries
  extracted : report.extracted = Table.ofEntries (steps.flatMap Step.addedBindings)
  /-- Without a response nothing is known about it. -/
  unseen : (∀ step ∈ steps, ∀ seen, step ≠ .response seen) → report.response = none
  /-- Otherwise the last response counts. -/
  seen : ∀ before seen after, steps = before ++ .response seen :: after →
    (∀ step ∈ after, ∀ other, step ≠ .response other) →
      report.response = some (seen.status, seen.timing)
  /-- Before any start or finish a run is pending. -/
  pending : (∀ step ∈ steps, step.asksTime = false) → report.status = .pending
  /-- After a start it is running until the next start or finish. -/
  running : ∀ before after, steps = before ++ .start :: after →
    (∀ step ∈ after, step.asksTime = false) → report.status = .running
  /-- After a finish it has failed or passed by the entries that were there, until the next start
  or finish. -/
  ended : ∀ before after, steps = before ++ .finish :: after →
    (∀ step ∈ after, step.asksTime = false) →
      report.status = if (before.flatMap Step.addedEntries).any fun entry =>
        entry.passed = some false then .failed else .passed
  /-- Before the first finish nothing is counted. -/
  uncounted : (∀ step ∈ steps, step ≠ .finish) → report.counts = ⟨0, 0, 0, 0⟩
  /-- Then the counts are those of the last finish, over the entries that were there. -/
  counted : ∀ before after, steps = before ++ .finish :: after →
    (∀ step ∈ after, step ≠ .finish) →
      report.counts.AreOf (before.flatMap Step.addedEntries)

/-- A run has failed when it is finished with an entry that failed. -/
theorem Report.status_finish (report : Report) (now : Int) :
    (report.finish now).status =
      if report.entries.any fun entry => entry.passed = some false then .failed else .passed := by
  have hfailed : 0 < (Counts.ofEntries report.entries).failed ↔
      report.entries.any (fun entry => entry.passed = some false) = true := by
    rw [Counts.ofEntries, List.countP_pos_iff, List.any_eq_true]
    rfl
  simp only [finish, hfailed]

theorem Report.entries_opened (suite : Suite) (runId : String) (timeline : Timeline)
    (steps : List Step) :
    (play (opened suite runId timeline) steps).1.entries = steps.flatMap Step.addedEntries :=
  entries_play _ steps

/-- Whatever the order of the steps, the report of a suite is what they made of it: nothing that
was recorded is lost, the status goes by the last start or finish, and the counts are those of the
last finish. -/
theorem report_grows_by_its_steps (suite : Suite) (runId : String) (timeline : Timeline)
    (steps : List Step) :
    (Report.play (Report.opened suite runId timeline) steps).1.GrownBy suite runId steps ∧
      ∀ assertions verdicts,
        (Step.verdicts assertions verdicts).addedEntries.length =
          min assertions.length verdicts.length ∧
        ∀ (index : Nat) (entry : Entry),
          (Step.verdicts assertions verdicts).addedEntries[index]? = some entry ↔
            ∃ assertion verdict, assertions[index]? = some assertion ∧
              verdicts[index]? = some verdict ∧ entry.IsOf assertion verdict := by
  obtain ⟨hrunId, hname, hversion⟩ :=
    Report.identity_play (Report.opened suite runId timeline) steps
  refine ⟨?_, Step.addedEntries_verdicts⟩
  constructor
  case runId => exact hrunId
  case suiteName => exact hname
  case suiteVersion => exact hversion
  case entries => exact Report.entries_opened suite runId timeline steps
  case extracted => exact Report.extracted_play _ steps
  case unseen => exact fun hsteps => Report.response_play hsteps _
  case seen =>
    rintro before seen after rfl hafter
    rw [Report.play_split]
    exact Report.response_play hafter _
  case pending => exact fun hsteps => Report.status_play hsteps _
  case running =>
    rintro before after rfl hafter
    rw [Report.play_split]
    exact Report.status_play hafter _
  case ended =>
    rintro before after rfl hafter
    rw [Report.play_split, Report.status_play hafter,
      ← Report.entries_opened suite runId timeline]
    exact Report.status_finish _ _
  case uncounted => exact fun hsteps => Report.counts_play hsteps _
  case counted =>
    rintro before after rfl hafter
    rw [Report.play_split, Report.counts_play hafter,
      ← Report.entries_opened suite runId timeline]
    exact Counts.areOf_ofEntries _

end Assay
