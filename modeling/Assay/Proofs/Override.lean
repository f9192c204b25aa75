import Assay.Proofs.Extraction.Variables
import Assay.Proofs.Run
import Assay.Proofs.Template.Reading

/-! # Variables from outside go first

An item of a list gives a value to a name, and of several items for one name the last one counts.
In a run under such a list, a placeholder takes the value that the items give to its name. Only if
they give none it takes the value of the suite, and without that it stays.
-/

namespace Assay

variable {item name value : String} {items : List String} {refusal : BadOption}
  {bindings overrides : Table String String}

/-! ## Items -/

namespace Override

/-- An item gives a value to a name. The value is all that stands behind the first equals sign. The
name is what stands before it without the blanks at the two ends, and is not empty. -/
structure Gives (item name value : String) : Prop where
  ne_empty : name ≠ ""
  written : ∃ left, item.toList = left ++ '=' :: value.toList ∧ '=' ∉ left ∧
    Text.Trims left name.toList

/-- An item has no equals sign, or only blanks before the first one. -/
def IsMalformed (item : String) : Prop :=
  '=' ∉ item.toList ∨ ∃ left behind, item.toList = left ++ '=' :: behind ∧ '=' ∉ left ∧
    ∀ c ∈ left, Text.isBlank c = true

/-- An option is read as what it gives. -/
theorem readOption_eq_ok_iff : readOption item = .ok (name, value) ↔ Gives item name value := by
  constructor
  · intro hread
    unfold readOption at hread
    split at hread
    next => simp at hread
    next left behind hcut =>
      obtain ⟨hitem, hleft⟩ := Text.cutAt_eq_some_iff.mp hcut
      split at hread
      next => simp at hread
      next hsolid =>
        obtain ⟨rfl, rfl⟩ := Prod.mk.inj (Except.ok.inj hread)
        refine ⟨?_, left, ?_, hleft, ?_⟩
        · simpa using hsolid
        · rw [hitem, String.toList_ofList]
        · rw [Text.trims_iff, String.toList_ofList]
  · rintro ⟨hne, left, hitem, hleft, htrims⟩
    have hsolid : name.toList.isEmpty = false := by simpa using hne
    rw [readOption, Text.cutAt_eq_some_iff.mpr ⟨hitem, hleft⟩]
    dsimp only
    rw [Text.trims_iff.mp htrims, hsolid, if_neg Bool.false_ne_true, String.ofList_toList,
      String.ofList_toList]

/-- An option is refused when it is malformed, with itself as the diagnostic. -/
theorem readOption_eq_error_iff :
    readOption item = .error refusal ↔ IsMalformed item ∧ refusal = ⟨item⟩ := by
  unfold readOption
  split
  next hcut =>
    have hmalformed : IsMalformed item := .inl (Text.cutAt_eq_none_iff.mp hcut)
    simp [hmalformed, eq_comm]
  next left behind hcut =>
    obtain ⟨hitem, hleft⟩ := Text.cutAt_eq_some_iff.mp hcut
    have hmalformed : IsMalformed item ↔ Text.trim left = [] := by
      rw [Text.trim_eq_nil_iff]
      constructor
      · rintro (hnone | ⟨other, later, hother, hfirst, hblank⟩)
        · exact absurd (hitem ▸ List.mem_append_cons_self) hnone
        · -- an item has only one first equals sign
          have hsame := Text.cutAt_eq_some_iff.mpr ⟨hother, hfirst⟩
          rw [hcut] at hsame
          obtain ⟨rfl, -⟩ := Prod.mk.inj (Option.some.inj hsame)
          exact hblank
      · exact fun hblank => .inr ⟨left, behind, hitem, hleft, hblank⟩
    rw [hmalformed, ← List.isEmpty_iff]
    split
    next hempty => simp [hempty, eq_comm]
    next hsolid => simp [hsolid]

theorem exists_readOption_iff : (∃ entry, readOption item = .ok entry) ↔ ¬ IsMalformed item := by
  constructor
  · rintro ⟨entry, hread⟩ hmalformed
    have hrefused := readOption_eq_error_iff.mpr ⟨hmalformed, rfl⟩
    simp [hread] at hrefused
  · intro hfit
    cases hread : readOption item with
    | error refusal => exact absurd (readOption_eq_error_iff.mp hread).1 hfit
    | ok entry => exact ⟨entry, rfl⟩

/-! ## Lists of items -/

/-- A list is refused for the first of its items that is malformed. -/
def RefusedFor (items : List String) (refusal : BadOption) : Prop :=
  ∃ before behind, items = before ++ refusal.item :: behind ∧
    (∀ earlier ∈ before, ¬ IsMalformed earlier) ∧ IsMalformed refusal.item

/-- Of the items of a list that give a value to a name, the last one gives it this one. -/
def GivesLast (items : List String) (name value : String) : Prop :=
  ∃ before item behind, items = before ++ item :: behind ∧ Gives item name value ∧
    ∀ later ∈ behind, ∀ other, ¬ Gives later name other

/-- No item of a list gives a value to a name. -/
def GivesNone (items : List String) (name : String) : Prop :=
  ∀ item ∈ items, ∀ value, ¬ Gives item name value

/-- Options are refused for the first of them that is malformed. -/
theorem readOptions_eq_error_iff :
    readOptions items = .error refusal ↔ RefusedFor items refusal := by
  rw [readOptions, map_eq_error_iff, mapM_eq_error_iff]
  simp only [exists_readOption_iff, readOption_eq_error_iff]
  constructor
  · rintro ⟨before, item, behind, rfl, hbefore, hitem, rfl⟩
    exact ⟨before, behind, rfl, hbefore, hitem⟩
  · rintro ⟨before, behind, hitems, hbefore, hitem⟩
    exact ⟨before, refusal.item, behind, hitems, hbefore, hitem, rfl⟩

theorem exists_refusal_iff :
    (∃ refusal, readOptions items = .error refusal) ↔ ∃ item ∈ items, IsMalformed item := by
  constructor
  · rintro ⟨refusal, hrefused⟩
    obtain ⟨before, behind, rfl, -, hmalformed⟩ := readOptions_eq_error_iff.mp hrefused
    exact ⟨refusal.item, by simp, hmalformed⟩
  · rintro ⟨item, hitem, hmalformed⟩
    cases hread : readOptions items with
    | error refusal => exact ⟨refusal, rfl⟩
    | ok overrides =>
        obtain ⟨entries, hentries, -⟩ := map_eq_ok_iff.mp hread
        obtain ⟨entry, -, hentry⟩ := exists_of_mem_results (mapM_eq_ok_iff.mp hentries).flip hitem
        exact absurd hmalformed (exists_readOption_iff.mp ⟨entry, hentry⟩)

/-- The entry that an item writes, if it is not malformed. -/
def entryOf? (item : String) : Option (String × String) := (readOption item).toOption

theorem entryOf?_eq_some_iff : entryOf? item = some (name, value) ↔ Gives item name value := by
  rw [← readOption_eq_ok_iff, entryOf?]
  cases readOption item <;> simp [Except.toOption]

/-- The overrides are what the options give, one after the other. -/
theorem eq_ofEntries_of_readOptions (hread : readOptions items = .ok overrides) :
    overrides = Table.ofEntries (items.filterMap entryOf?) := by
  obtain ⟨entries, hentries, rfl⟩ := map_eq_ok_iff.mp hread
  have hwritten : items.filterMap entryOf? = entries.map id := by
    apply filterMap_eq_of_forall₂ (mapM_eq_ok_iff.mp hentries)
    intro item entry hitem
    rw [entryOf?, hitem]
    rfl
  rw [hwritten, List.map_id]

/-- A table that is read holds the value that the last item gives to a name. -/
theorem get?_overrides_eq_some_iff (hread : readOptions items = .ok overrides) :
    overrides.get? name = some value ↔ GivesLast items name value := by
  rw [eq_ofEntries_of_readOptions hread, Table.get?_ofEntries_filterMap_eq_some_iff]
  simp only [entryOf?_eq_some_iff, Ne]
  rfl

theorem get?_overrides_eq_none_iff (hread : readOptions items = .ok overrides) :
    overrides.get? name = none ↔ GivesNone items name := by
  rw [Table.get?_eq_none_iff, eq_ofEntries_of_readOptions hread, Table.keys_ofEntries,
    List.mem_eraseDups]
  simp only [GivesNone, ← entryOf?_eq_some_iff]
  exact Table.notMem_keys_filterMap_iff

end Override

open Override

/-- The variables of a run: what the items give goes before what the suite has. -/
theorem Suite.get?_bindingsUnder (hread : readOptions items = .ok overrides) (suite : Suite) :
    (suite.bindingsUnder overrides).get? name =
      (overrides.get? name).or (suite.bindings.get? name) := by
  rw [bindingsUnder, eq_ofEntries_of_readOptions hread, Table.get?_putAll_ofEntries]

/-! ## Texts -/

namespace Template

/-- What a piece of a text becomes in a run under a list of items: a placeholder takes the value
that the items give to its name, else that of the suite, and else stays as it is written. -/
inductive BecomesUnder (items : List String) (bindings : Table String String) :
    Piece → List Char → Prop
  | literal (c : Char) : BecomesUnder items bindings (.literal c) [c]
  | given {interior : List Char} {name value : String}
      (hname : Text.Trims interior name.toList) (hgiven : GivesLast items name value) :
      BecomesUnder items bindings (.placeholder interior) value.toList
  | kept {interior : List Char} {name value : String}
      (hname : Text.Trims interior name.toList) (hnone : GivesNone items name)
      (hvalue : bindings.get? name = some value) :
      BecomesUnder items bindings (.placeholder interior) value.toList
  | unknown {interior : List Char} {name : String}
      (hname : Text.Trims interior name.toList) (hnone : GivesNone items name)
      (habsent : name ∉ bindings.keys) :
      BecomesUnder items bindings (.placeholder interior)
        (Piece.placeholder interior).written

/-- A text is read in pieces, and what these become makes up another text. -/
def FilledUnder (items : List String) (bindings : Table String String) (text filled : String) :
    Prop :=
  ∃ ps parts, IsReading ps text.toList ∧
    List.Forall₂ (BecomesUnder items bindings) ps parts ∧ filled.toList = parts.flatten

/-- A placeholder is replaced by the value of the name between its blanks, and left alone when there
is none. -/
theorem Piece.filled_placeholder {interior : List Char} (hname : Text.Trims interior name.toList) :
    (Piece.placeholder interior).filled bindings = match bindings.get? name with
      | some value => value.toList
      | none => (Piece.placeholder interior).written := by
  obtain rfl := nameOf_eq_iff.mpr hname
  rfl

/-- What a piece becomes under the options is what it is filled with from the suite and the
overrides. -/
theorem becomesUnder_iff (hread : readOptions items = .ok overrides) {suite : Suite}
    {piece : Piece} {part : List Char} :
    BecomesUnder items suite.bindings piece part ↔
      part = piece.filled (suite.bindingsUnder overrides) := by
  constructor
  · intro hbecomes
    cases hbecomes with
    | literal c => rfl
    | given hname hgiven =>
        rw [Piece.filled_placeholder hname, suite.get?_bindingsUnder hread,
          (get?_overrides_eq_some_iff hread).mpr hgiven, Option.some_or]
    | kept hname hnone hvalue =>
        rw [Piece.filled_placeholder hname, suite.get?_bindingsUnder hread,
          (get?_overrides_eq_none_iff hread).mpr hnone, Option.none_or, hvalue]
    | unknown hname hnone habsent =>
        rw [Piece.filled_placeholder hname, suite.get?_bindingsUnder hread,
          (get?_overrides_eq_none_iff hread).mpr hnone, Option.none_or, Table.get?_eq_none habsent]
  · rintro rfl
    cases piece with
    | literal c => exact .literal c
    | placeholder interior =>
        have hname : Text.Trims interior (nameOf interior).toList :=
          nameOf_eq_iff.mp rfl
        rw [Piece.filled_placeholder hname, suite.get?_bindingsUnder hread]
        cases hgiven : overrides.get? (nameOf interior) with
        | some value => exact .given hname ((get?_overrides_eq_some_iff hread).mp hgiven)
        | none =>
            have hnone := (get?_overrides_eq_none_iff hread).mp hgiven
            rw [Option.none_or]
            cases hvalue : suite.bindings.get? (nameOf interior) with
            | some value => exact .kept hname hnone hvalue
            | none => exact .unknown hname hnone (Table.get?_eq_none_iff.mp hvalue)

theorem filledUnder_iff (hread : readOptions items = .ok overrides) {suite : Suite}
    {text filled : String} :
    FilledUnder items suite.bindings text filled ↔
      filled = substitute (suite.bindingsUnder overrides) text := by
  rw [substitute_eq_fill, fill, List.flatMap]
  constructor
  · rintro ⟨ps, parts, hreading, hparts, hfilled⟩
    obtain rfl := hreading.eq_pieces
    have hmap : parts.map id =
        (pieces text.toList).map (Piece.filled (suite.bindingsUnder overrides)) :=
      map_eq_of_forall₂ hparts fun piece part hbecomes => (becomesUnder_iff hread).mp hbecomes
    rw [← hmap, List.map_id, ← hfilled, String.ofList_toList]
  · rintro rfl
    refine ⟨_, _, isReading_pieces _, ?_, String.toList_ofList⟩
    rw [List.forall₂_map_right_iff, List.forall₂_same]
    exact fun piece _ => (becomesUnder_iff hread).mpr rfl

end Template

/-! ## Runs -/

/-- An assertion with its property and its expected value filled. -/
structure Assertion.FilledUnder (items : List String) (bindings : Table String String)
    (assertion filled : Assertion) : Prop where
  others : filled = { assertion with property := filled.property, expected := filled.expected }
  property : Template.FilledUnder items bindings assertion.property filled.property
  expected : Template.FilledUnder items bindings assertion.expected filled.expected

structure Rule.FilledUnder (items : List String) (bindings : Table String String)
    (rule filled : Rule) : Prop where
  others : filled = { rule with path := filled.path }
  path : Template.FilledUnder items bindings rule.path filled.path

/-- A suite with its assertions and its rules filled, and with no variables of its own left. -/
structure Suite.FilledUnder (items : List String) (suite filled : Suite) : Prop where
  others : filled =
    { suite with bindings := [], assertions := filled.assertions, rules := filled.rules }
  assertions : List.Forall₂ (Assertion.FilledUnder items suite.bindings) suite.assertions
    filled.assertions
  rules : List.Forall₂ (Rule.FilledUnder items suite.bindings) suite.rules filled.rules

/-- An entry carries the property and the expected value of an assertion, filled. -/
structure Entry.Carries (items : List String) (bindings : Table String String)
    (assertion : Assertion) (entry : Entry) : Prop where
  id : entry.assertionId = assertion.id
  property : Template.FilledUnder items bindings assertion.property entry.property
  expected : Template.FilledUnder items bindings assertion.expected entry.expected

section

variable {suite : Suite} {response : Response} {runId : String} {timeline : Timeline}
  {report : Report}

/-- A suite with all its texts filled from a table, and with no variables of its own left. -/
def Suite.filled (bindings : Table String String) (suite : Suite) : Suite :=
  { suite with
    bindings := []
    assertions := suite.assertions.map (Assertion.filled bindings)
    rules := suite.rules.map (Rule.filled bindings) }

theorem Suite.filledUnder_filled (hread : readOptions items = .ok overrides) (suite : Suite) :
    suite.FilledUnder items (suite.filled (suite.bindingsUnder overrides)) where
  others := rfl
  assertions := by
    rw [filled, List.forall₂_map_right_iff, List.forall₂_same]
    exact fun assertion _ =>
      ⟨rfl, (Template.filledUnder_iff hread).mpr rfl, (Template.filledUnder_iff hread).mpr rfl⟩
  rules := by
    rw [filled, List.forall₂_map_right_iff, List.forall₂_same]
    exact fun rule _ => ⟨rfl, (Template.filledUnder_iff hread).mpr rfl⟩

theorem Template.substitute_nil (text : String) : Template.substitute [] text = text := by
  simp [Template.substitute]

theorem Assertion.filled_nil (assertion : Assertion) : assertion.filled [] = assertion := by
  rw [filled, Template.substitute_nil, Template.substitute_nil]

theorem Rule.filled_nil (rule : Rule) : rule.filled [] = rule := by
  rw [filled, Template.substitute_nil]

/-- A run under a table is a run without variables of the suite that is filled from them. -/
theorem Suite.run_filled (suite : Suite) (response : Response) (overrides : Table String String)
    (runId : String) (timeline : Timeline) :
    (suite.filled (suite.bindingsUnder overrides)).run response [] runId timeline =
      suite.run response overrides runId timeline := by
  have hbindings : (suite.filled (suite.bindingsUnder overrides)).bindingsUnder [] = [] := rfl
  have hassertions : ∀ assertions : List Assertion,
      assertions.map (Assertion.filled []) = assertions := fun assertions => by
    rw [funext Assertion.filled_nil, List.map_id']
  have hrules : ∀ rules : List Rule, rules.map (Rule.filled []) = rules := fun rules => by
    rw [funext Rule.filled_nil, List.map_id']
  have hsteps : (suite.filled (suite.bindingsUnder overrides)).steps response [] =
      suite.steps response overrides := by
    rw [steps, hbindings, hassertions, hrules]
    rfl
  rw [run, run, hsteps]
  rfl

/-- The entries of a run carry the filled texts of the assertions. -/
theorem Suite.carries_of_run (hread : readOptions items = .ok overrides)
    (hrun : suite.run response overrides runId timeline = .ok report) :
    List.Forall₂ (Entry.Carries items suite.bindings) suite.assertions report.entries := by
  obtain ⟨entries, extracted, hrecorded, -, rfl⟩ := Suite.run_eq_ok_iff.mp hrun
  rw [entries_finished]
  refine hrecorded.imp fun assertion entry hentry => ?_
  have hrecords := hentry.records
  exact ⟨hrecords.id, (Template.filledUnder_iff hread).mpr hrecords.property,
    (Template.filledUnder_iff hread).mpr hrecords.expected⟩

theorem nodup_keys_of_extractVariables {rules : List Rule} {extracted : Table String String}
    (hextract : extractVariables rules response = .ok extracted) : extracted.keys.Nodup := by
  rw [extractVariables_eq_ofEntries, map_eq_ok_iff] at hextract
  obtain ⟨entries, -, rfl⟩ := hextract
  exact Table.nodup_keys_ofEntries _

/-- What a run extracts is what the filled rules find. -/
theorem Suite.extracted_of_run
    (hrun : suite.run response overrides runId timeline = .ok report) :
    extractVariables (suite.filled (suite.bindingsUnder overrides)).rules response =
      .ok report.extracted := by
  obtain ⟨entries, extracted, -, hextract, rfl⟩ := Suite.run_eq_ok_iff.mp hrun
  have hextracted : (suite.finished response runId timeline entries extracted).extracted =
      Table.ofEntries extracted := rfl
  rw [hextracted, Table.ofEntries_eq_self (nodup_keys_of_extractVariables hextract)]
  exact hextract

end

/-- Values from outside go first, name by name. A list of items is refused exactly if one of them
is malformed, and then for the first of these; otherwise it is the table in which every name has the
value that the last item gives to it. A run under that table is a run of the suite with every
placeholder filled by the value from the items, else by that of the suite, and else left as it is
written: so the entries of its report carry the filled texts, and what it extracts is what the
rules with filled paths find. -/
theorem overrides_win_name_by_name (items : List String) :
    ((∃ refusal, readOptions items = .error refusal) ↔ ∃ item ∈ items, IsMalformed item) ∧
      (∀ refusal, readOptions items = .error refusal ↔ RefusedFor items refusal) ∧
      ∀ overrides, readOptions items = .ok overrides →
        (overrides.keys.Nodup ∧
          ∀ name value, overrides.get? name = some value ↔ GivesLast items name value) ∧
        ∀ suite : Suite, ∃ filled, suite.FilledUnder items filled ∧
          ∀ response runId timeline,
            filled.run response [] runId timeline =
                suite.run response overrides runId timeline ∧
              ∀ report, suite.run response overrides runId timeline = .ok report →
                List.Forall₂ (Entry.Carries items suite.bindings) suite.assertions
                    report.entries ∧
                  extractVariables filled.rules response = .ok report.extracted := by
  refine ⟨exists_refusal_iff, fun refusal => readOptions_eq_error_iff, fun overrides hread => ?_⟩
  refine ⟨⟨?_, fun name value => get?_overrides_eq_some_iff hread⟩, fun suite => ?_⟩
  · rw [eq_ofEntries_of_readOptions hread]
    exact Table.nodup_keys_ofEntries _
  · refine ⟨suite.filled (suite.bindingsUnder overrides), suite.filledUnder_filled hread,
      fun response runId timeline => ⟨suite.run_filled response overrides runId timeline, ?_⟩⟩
    exact fun report hrun => ⟨Suite.carries_of_run hread hrun, Suite.extracted_of_run hrun⟩

/-- Items that give two values to one name, and one to another. -/
def repeatedItems : List String := ["kind=a", "id= 7", " kind =b=c"]

/-- A suite that mentions a variable given in it, one that is given from outside as well, and one
that nothing gives a value to. -/
def overriddenSuite : Suite where
  version := 1
  name := "overridden"
  bindings := [("kind", "text/html"), ("tag", "ETag")]
  assertions := [⟨"a1", "headerEquals", "\x7b\x7b tag \x7d\x7d", "equals",
    "\x7b\x7bkind\x7d\x7d \x7b\x7bother\x7d\x7d", some true⟩]
  rules := [⟨.header, "X-\x7b\x7bid\x7d\x7d", "token"⟩]

def numberedResponse : Response := ⟨200, [("x- 7", "t")], "", 0⟩

/-- The law at a list that is read and at a run under it. -/
theorem overridden_run_carries_last_values :
    readOptions repeatedItems = .ok [("kind", "b=c"), ("id", " 7")] ∧
      GivesLast repeatedItems "kind" "b=c" ∧
      ∃ report, overriddenSuite.run numberedResponse [("kind", "b=c"), ("id", " 7")] "r1" ⟨0, []⟩ =
          .ok report ∧
        report.entries.map Entry.expected = ["b=c \x7b\x7bother\x7d\x7d"] ∧
        List.Forall₂ (Entry.Carries repeatedItems overriddenSuite.bindings)
          overriddenSuite.assertions report.entries := by
  have hread : readOptions repeatedItems = .ok [("kind", "b=c"), ("id", " 7")] := by
    decide +kernel
  obtain ⟨-, -, htable⟩ := overrides_win_name_by_name repeatedItems
  obtain ⟨⟨-, hgives⟩, hruns⟩ := htable _ hread
  obtain ⟨filled, -, hrun⟩ := hruns overriddenSuite
  have hexpected : (overriddenSuite.run numberedResponse [("kind", "b=c"), ("id", " 7")] "r1"
      ⟨0, []⟩).map (fun report => report.entries.map Entry.expected) =
        .ok ["b=c \x7b\x7bother\x7d\x7d"] := by decide +kernel
  obtain ⟨report, hreport, htexts⟩ := map_eq_ok_iff.mp hexpected
  exact ⟨hread, (hgives _ _).mp (by decide), report, hreport, htexts,
    ((hrun _ _ _).2 report hreport).1⟩

end Assay
