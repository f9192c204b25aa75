import Assay.Report.Timeline

/-! # The counts of a report

The entries fall into those that were skipped, those that passed and those that failed, apart from
an entry whose check is still to be made, which is none of these, and from one that failed although
its check was not to be made, which is counted twice. In a finished run every entry has an outcome,
and an entry whose check was not to be made has passed, so neither of the two occurs there.
-/

namespace Assay

/-- An entry has an outcome, and has passed if its check was not to be made. -/
def Entry.IsSettled (entry : Entry) : Prop :=
  ∃ passed, entry.passed = some passed ∧ (entry.isEnabled = false → passed = true)

/-- Of a settled entry exactly one holds: it was skipped, its check passed, or its check failed. -/
theorem Entry.IsSettled.cases {entry : Entry} (hsettled : entry.IsSettled) :
    entry.isEnabled = false ∧ entry.hasPassed = false ∧ entry.hasFailed = false ∨
      entry.isEnabled = true ∧ entry.hasPassed = !entry.hasFailed := by
  obtain ⟨passed, hpassed, hskipped⟩ := hsettled
  cases henabled : entry.isEnabled with
  | false =>
      obtain rfl := hskipped henabled
      simp [hasPassed, hasFailed, henabled, hpassed]
  | true => cases passed <;> simp [hasPassed, hasFailed, henabled, hpassed]

/-- Whether the check of an entry is to be made and has no outcome. -/
def Entry.isOpen (entry : Entry) : Bool := entry.isEnabled && entry.passed = none

/-- Whether the check of an entry failed although it was not to be made. -/
def Entry.failedUnasked (entry : Entry) : Bool := !entry.isEnabled && entry.hasFailed

theorem Entry.IsSettled.isOpen {entry : Entry} (hsettled : entry.IsSettled) :
    entry.isOpen = false := by
  obtain ⟨passed, hpassed, -⟩ := hsettled
  simp [Entry.isOpen, hpassed]

theorem Entry.IsSettled.failedUnasked {entry : Entry} (hsettled : entry.IsSettled) :
    entry.failedUnasked = false := by
  obtain ⟨-, -, hfailed⟩ | ⟨henabled, -⟩ := hsettled.cases
  · simp [Entry.failedUnasked, hfailed]
  · simp [Entry.failedUnasked, henabled]

namespace Counts

variable {entries : List Entry}

/-- Every entry is counted once, apart from the open ones, which are not counted, and from those
that failed unasked, which are counted twice. -/
theorem balance_ofEntries (entries : List Entry) :
    (ofEntries entries).passed + (ofEntries entries).failed + (ofEntries entries).skipped +
        entries.countP Entry.isOpen =
      (ofEntries entries).total + entries.countP Entry.failedUnasked := by
  induction entries with
  | nil => rfl
  | cons entry rest ih =>
      simp only [ofEntries, List.countP_cons, List.length_cons] at ih ⊢
      rcases hpassed : entry.passed with _ | _ | _ <;> cases henabled : entry.isEnabled <;>
        simp only [Entry.hasPassed, Entry.hasFailed, Entry.isOpen, Entry.failedUnasked, hpassed,
          henabled, reduceCtorEq, Option.some.injEq, Bool.false_eq_true, Bool.true_and,
          Bool.false_and, Bool.not_true, Bool.not_false, decide_true, decide_false, if_true,
          if_false] <;>
        omega

/-- The parts make up the whole if no entry is open and none has failed unasked. -/
theorem parts_of_none (hopen : ∀ entry ∈ entries, entry.isOpen = false)
    (hunasked : ∀ entry ∈ entries, entry.failedUnasked = false) :
    (ofEntries entries).passed + (ofEntries entries).failed + (ofEntries entries).skipped =
      (ofEntries entries).total := by
  have hnoneOpen : entries.countP Entry.isOpen = 0 :=
    List.countP_eq_zero.mpr fun entry hentry => by simp [hopen entry hentry]
  have hnoneUnasked : entries.countP Entry.failedUnasked = 0 :=
    List.countP_eq_zero.mpr fun entry hentry => by simp [hunasked entry hentry]
  have hbalance := balance_ofEntries entries
  omega

end Counts

end Assay
