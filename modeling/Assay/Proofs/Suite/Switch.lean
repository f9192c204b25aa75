import Assay.Proofs.Assertion.Check
import Assay.Proofs.Suite.Reader

/-! # Which checks of a suite are skipped

The switch of an assertion is read from its entry: a truth value as it is, and on when it is not
there. A switch that is there without a value is admitted as well, and is read as no switch; an
assertion is made only if its switch is on.
-/

namespace Assay.Suite

variable {room : Nat}

/-- What an entry of a suite has under the name of the switch. -/
def givenSwitch? (entry : Datum) : Option Datum :=
  entry.entries?.bind fun fields => Datum.fieldOf? fields "enabled"

/-- The switch of an assertion is the one that its entry gives. -/
structure SwitchedAs (entry : Datum) (assertion : Assertion) : Prop where
  off : assertion.enabled = some false ↔ givenSwitch? entry = some (.bool false)
  on : assertion.enabled = some true ↔
    givenSwitch? entry = some (.bool true) ∨ givenSwitch? entry = none
  blank : assertion.enabled = none ↔ givenSwitch? entry = some .null

theorem eq_null_or_eq_bool {datum : Datum}
    (hadmitted : datum.isNull = true ∨ ∃ switch, datum.bool? = some switch) :
    datum = .null ∨ ∃ switch, datum = .bool switch := by
  cases datum <;> simp_all [Datum.isNull, Datum.bool?]

/-- An assertion that is read from a proper entry has its switch. -/
theorem switchedAs_of_yields {entry : Datum} {assertion : Assertion}
    (hshape : IsAssertion room entry) (hyields : Yields Assertion.ofFields? entry assertion) :
    SwitchedAs entry assertion := by
  obtain ⟨fields, hfields, hfits⟩ := hshape
  rw [Yields, hfields, Option.bind_some, Assertion.ofFields?_eq_some_iff] at hyields
  have hgiven : givenSwitch? entry = Datum.fieldOf? fields "enabled" := by
    rw [givenSwitch?, hfields, Option.bind_some]
  have hswitch := hyields.enabled
  have hadmitted := hfits.enabled
  rw [Datum.fieldOf, ← hgiven] at hadmitted
  rw [Assertion.switchOf, ← hgiven] at hswitch
  cases hentry : givenSwitch? entry with
  | none =>
      rw [hentry] at hswitch
      constructor <;> simp [← hswitch, hentry]
  | some given =>
      rw [hentry, Option.getD_some] at hadmitted
      rw [hentry] at hswitch
      obtain rfl | ⟨switch, rfl⟩ := eq_null_or_eq_bool hadmitted
      · constructor <;> simp [← hswitch, hentry, Datum.bool?]
      · constructor <;> simp [← hswitch, hentry, Datum.bool?]

/-- The assertions of a suite have the switches of their items, place by place. -/
theorem switchedAs_of_fits {entries : List (Datum × Datum)} {suite : Suite}
    (hfits : Fits room entries) (hread : suite.IsReadFrom entries) :
    ∃ items, (Datum.fieldOf entries "assertions").items? = some items ∧
      List.Forall₂ SwitchedAs items suite.assertions := by
  obtain ⟨items, hitems, hassertions⟩ := hread.assertions
  obtain ⟨others, hothers, hshapes, -⟩ := hfits.assertions
  obtain rfl := Option.some.inj (hitems.symm.trans hothers)
  -- the review knows each entry, the reading each pair, so the two are put together by index
  refine ⟨items, hitems, List.forall₂_iff_get.mpr ⟨hassertions.length_eq, ?_⟩⟩
  intro index hitem hassertion
  exact switchedAs_of_yields (hshapes _ (List.get_mem _ _))
    ((List.forall₂_iff_get.mp hassertions).2 index hitem hassertion)

/-- An assertion is switched off by `false` and by a switch that is left blank. -/
theorem SwitchedAs.isEnabled_eq_false_iff {entry : Datum} {assertion : Assertion}
    (hswitched : SwitchedAs entry assertion) :
    assertion.isEnabled = false ↔
      givenSwitch? entry = some (.bool false) ∨ givenSwitch? entry = some .null := by
  rw [← hswitched.off, ← hswitched.blank]
  rcases henabled : assertion.enabled with _ | _ | _ <;> simp [Assertion.isEnabled, henabled]

/-- In the suite of entries that pass the review, a switch is off or on as its entry says, and it
is missing where the entry has null. So the entries with the switch off and those with null are
skipped in every evaluation, and no others. -/
theorem skipped_iff_off_or_null {entries : List (Datum × Datum)}
    (hvalid : (review room entries).isValid = true) :
    ∃ suite items, ofEntries? entries = some suite ∧
      (Datum.fieldOf entries "assertions").items? = some items ∧
      List.Forall₂ SwitchedAs items suite.assertions ∧
      ∀ response verdicts, evaluate suite.assertions response = .ok verdicts →
        List.Forall₂ (fun item verdict => verdict.message = skippedMessage ↔
          givenSwitch? item = some (.bool false) ∨ givenSwitch? item = some .null)
          items verdicts := by
  have hfits := review_isValid_iff.mp hvalid
  obtain ⟨suite, hsuite⟩ := hfits.exists_suite
  obtain ⟨items, hitems, hswitched⟩ := switchedAs_of_fits hfits hsuite
  refine ⟨suite, items, ofEntries?_eq_some_iff.mpr hsuite, hitems, hswitched,
    fun response verdicts hverdicts => ?_⟩
  refine forall₂_compose ?_ hswitched (evaluate_eq_ok_iff.mp hverdicts)
  intro item assertion verdict hitem hverdict
  rw [message_eq_skipped_iff hverdict, hitem.isEnabled_eq_false_iff]

/-- The entries of a suite of two checks. One gives no switch, and one gives a switch without a
value. -/
def absentAndBlankSwitch : List (Datum × Datum) :=
  [(.text "version", .int 1), (.text "name", .text "switches"),
    (.text "assertions", .list [
      .map [(.text "id", .text "a1"), (.text "type", .text "bodyContains"),
        (.text "operator", .text "contains"), (.text "expected", .text "x")],
      .map [(.text "id", .text "a2"), (.text "type", .text "bodyContains"),
        (.text "operator", .text "contains"), (.text "expected", .text "x"),
        (.text "enabled", .null)]])]

theorem absentAndBlankSwitch_isValid : (review 0 absentAndBlankSwitch).isValid = true := by
  decide +kernel

/-- Of two assertions, one without a switch and one with a blank switch, only the second is skipped.
-/
theorem absentAndBlankSwitch_skipped_iff :
    (review 0 absentAndBlankSwitch).isValid = true ∧
      ∃ suite items, ofEntries? absentAndBlankSwitch = some suite ∧
        (Datum.fieldOf absentAndBlankSwitch "assertions").items? = some items ∧
        List.Forall₂ SwitchedAs items suite.assertions ∧
        ∀ response verdicts, evaluate suite.assertions response = .ok verdicts →
          List.Forall₂ (fun item verdict => verdict.message = skippedMessage ↔
            givenSwitch? item = some (.bool false) ∨ givenSwitch? item = some .null)
            items verdicts :=
  ⟨absentAndBlankSwitch_isValid, skipped_iff_off_or_null absentAndBlankSwitch_isValid⟩

/-- The second check is skipped although nothing switches it off. -/
theorem blank_switch_skipped :
    (review 0 absentAndBlankSwitch).isValid = true ∧
      parse 0 absentAndBlankSwitch = .ok (some
        { version := 1, name := "switches"
          assertions := [⟨"a1", "bodyContains", "", "contains", "x", some true⟩,
            ⟨"a2", "bodyContains", "", "contains", "x", none⟩] }) ∧
      evaluate [⟨"a1", "bodyContains", "", "contains", "x", some true⟩,
          ⟨"a2", "bodyContains", "", "contains", "x", none⟩] ⟨200, [], "", 0⟩ =
        .ok [⟨"a1", false, "", "Body does not contain \"x\""⟩,
          ⟨"a2", true, "", "Skipped (disabled)"⟩] :=
  ⟨absentAndBlankSwitch_isValid, by rfl, by cbv⟩

end Assay.Suite
