import Assay.Proofs.Template.Reading
import Assay.Proofs.Traversal
import Assay.Rule

/-! # Variables accumulate

A variable stands where the first rule that finds something for it stands among the rules, and has
the value that the last one finds. A rule that finds nothing leaves no trace, the rules of one list
update what the rules of another one before it have filled, and rules with different variables may
be applied in any order.
-/

namespace Assay

variable {rules others : List Rule} {response : Response} {bindings : Table String String}

/-! ## Entries -/

def Rule.binding? (response : Response) (rule : Rule) : Except Failure (Option (String × String)) :=
  (rule.extract response).map fun found => found.map (rule.target, ·)

/-- The rules write the entries of what they find, one after the other. -/
theorem extractVariables_eq_ofEntries (rules : List Rule) (response : Response) :
    extractVariables rules response =
      (rules.mapM (Rule.binding? response)).map fun entries =>
        Table.ofEntries (entries.filterMap id) := by
  refine Table.foldlM_eq_mapM (fun table rule => ?_) rules []
  rw [Rule.binding?]
  rcases rule.extract response with failure | _ | value <;> rfl

/-- Every rule of a list has an answer. -/
def AllAnswer (rules : List Rule) (response : Response) : Prop :=
  ∀ rule ∈ rules, ∃ found, rule.extract response = .ok found

/-- What a rule finds, if it has an answer. -/
def Rule.found? (response : Response) (rule : Rule) : Option String :=
  (rule.extract response).toOption.join

theorem Rule.found?_eq_some_iff {rule : Rule} {text : String} :
    rule.found? response = some text ↔ rule.extract response = .ok (some text) := by
  rw [found?]
  rcases rule.extract response with failure | _ | found <;> simp [Except.toOption]

theorem AllAnswer.extract (hanswer : AllAnswer rules response) {rule : Rule}
    (hrule : rule ∈ rules) : rule.extract response = .ok (rule.found? response) := by
  obtain ⟨found, hfound⟩ := hanswer rule hrule
  rw [Rule.found?, hfound]
  rfl

def entriesOf (rules : List Rule) (response : Response) : List (String × String) :=
  rules.filterMap fun rule => (rule.found? response).map (rule.target, ·)

/-- Rules that all answer fill in what they find, one after the other. -/
theorem extractVariables_of_allAnswer (hanswer : AllAnswer rules response) :
    extractVariables rules response = .ok (Table.ofEntries (entriesOf rules response)) := by
  have hread : rules.mapM (Rule.binding? response) =
      .ok (rules.map fun rule => (rule.found? response).map (rule.target, ·)) := by
    refine mapM_eq_ok_map fun rule hrule => ?_
    rw [Rule.binding?, hanswer.extract hrule]
    rfl
  rw [extractVariables_eq_ofEntries, hread, Except.map, List.filterMap_map]
  rfl

theorem map_fst_entriesOf (rules : List Rule) (response : Response) :
    (entriesOf rules response).map Prod.fst =
      (rules.filter fun rule => (rule.found? response).isSome).map Rule.target := by
  induction rules with
  | nil => rfl
  | cons rule rest ih =>
      rw [entriesOf] at ih ⊢
      cases hfound : rule.found? response <;> simp [hfound, ih]

/-! ## First places and last values -/

/-- A table holds what a list of rules finds: each variable once, in the order of the first rules
that find something for them, with the value that the last such rule finds. -/
structure HoldsFound (rules : List Rule) (response : Response) (bindings : Table String String) :
    Prop where
  names : Template.AreFirstOccurrences bindings.keys
    ((rules.filter fun rule => (rule.found? response).isSome).map Rule.target)
  get?_iff : ∀ name value, bindings.get? name = some value ↔
    ∃ before rule behind, rules = before ++ rule :: behind ∧ rule.target = name ∧
      rule.extract response = .ok (some value) ∧
      ∀ later ∈ behind, later.target = name → ∀ text, later.extract response ≠ .ok (some text)

/-- Filling in one after the other keeps the first place of a name and its last value. -/
theorem holdsFound_ofEntries (rules : List Rule) (response : Response) :
    HoldsFound rules response (Table.ofEntries (entriesOf rules response)) where
  names := by
    rw [Table.keys_ofEntries, map_fst_entriesOf]
    exact Template.areFirstOccurrences_eraseDups _
  get?_iff name value := by
    have hentry : ∀ (rule : Rule) text, (rule.found? response).map (rule.target, ·) =
        some (name, text) ↔ rule.target = name ∧ rule.extract response = .ok (some text) := by
      intro rule text
      rw [← Rule.found?_eq_some_iff, and_comm]
      simp only [Option.map_eq_some_iff, Prod.mk.injEq, exists_eq_right_right]
    rw [entriesOf, Table.get?_ofEntries_filterMap_eq_some_iff]
    simp only [Ne, hentry, not_and, and_assoc]
    -- only the order of the quantifiers over a later rule differs
    refine exists_congr fun before => exists_congr fun rule => exists_congr fun behind => ?_
    refine and_congr_right fun _ => and_congr_right fun _ => and_congr_right fun _ => ?_
    exact forall₂_congr fun later _ => forall_comm.symm

/-! ## Lists of rules -/

/-- The rules of a second list update what the rules of a first one have filled. -/
theorem extractVariables_append (first second : List Rule) (response : Response) :
    extractVariables (first ++ second) response = do
      let earlier ← extractVariables first response
      let later ← extractVariables second response
      return earlier.putAll later := by
  simp only [extractVariables_eq_ofEntries]
  rw [List.mapM_append]
  cases first.mapM (Rule.binding? response) with
  | error failure => rfl
  | ok earlier =>
      cases second.mapM (Rule.binding? response) with
      | error failure => rfl
      | ok later =>
          simp [bind, Except.bind, pure, Except.pure, Except.map, Table.putAll_ofEntries]

/-- A rule that finds nothing leaves no trace. -/
theorem extractVariables_of_idle {before behind : List Rule} {rule : Rule}
    (hidle : rule.extract response = .ok none) :
    extractVariables (before ++ rule :: behind) response =
      extractVariables (before ++ behind) response := by
  have hfirst : extractVariables (rule :: behind) response = extractVariables behind response := by
    rw [extractVariables, List.foldlM_cons, hidle]
    rfl
  rw [extractVariables_append, hfirst, extractVariables_append]

/-- Rules with different variables write the same entries in every order. -/
theorem perm_ofEntries_of_perm (hperm : rules.Perm others)
    (hnodup : (rules.map Rule.target).Nodup) :
    (Table.ofEntries (entriesOf rules response)).Perm
      (Table.ofEntries (entriesOf others response)) := by
  have hself : ∀ {list : List Rule}, (list.map Rule.target).Nodup →
      Table.ofEntries (entriesOf list response) = entriesOf list response := by
    intro list hlist
    apply Table.ofEntries_eq_self
    rw [Table.keys, map_fst_entriesOf]
    exact hlist.sublist (List.filter_sublist.map _)
  rw [hself hnodup, hself ((hperm.map _).nodup_iff.mp hnodup)]
  exact hperm.filterMap _

/-- Variables accumulate in the order of the rules. What is filled holds what the rules find; a rule
that finds nothing leaves no trace; a list of rules updates what the list before it has filled; and
the order of rules with different variables changes only the order of the variables. -/
theorem variables_accumulate (response : Response) :
    (∀ rules, AllAnswer rules response → ∃ bindings,
      extractVariables rules response = .ok bindings ∧ HoldsFound rules response bindings) ∧
    (∀ before rule behind, rule.extract response = .ok none →
      extractVariables (before ++ rule :: behind) response =
        extractVariables (before ++ behind) response) ∧
    (∀ first second, extractVariables (first ++ second) response = do
      let earlier ← extractVariables first response
      let later ← extractVariables second response
      return earlier.putAll later) ∧
    ∀ rules others, AllAnswer rules response → rules.Perm others →
      (rules.map Rule.target).Nodup → ∃ bindings permuted,
        extractVariables rules response = .ok bindings ∧
          extractVariables others response = .ok permuted ∧ bindings.Perm permuted := by
  refine ⟨fun rules hanswer => ?_, fun before rule behind => extractVariables_of_idle,
    fun first second => extractVariables_append first second response,
    fun rules others hanswer hperm hnodup => ?_⟩
  · exact ⟨_, extractVariables_of_allAnswer hanswer, holdsFound_ofEntries rules response⟩
  · have hothers : AllAnswer others response := fun rule hrule =>
      hanswer rule (hperm.mem_iff.mpr hrule)
    exact ⟨_, _, extractVariables_of_allAnswer hanswer, extractVariables_of_allAnswer hothers,
      perm_ofEntries_of_perm hperm hnodup⟩

/-- Rules of three kinds. Two of them fill one variable, and one finds nothing for it in between. -/
def mixedRules : List Rule :=
  [⟨.header, "X-Id", "id"⟩, ⟨.body, "", "text"⟩, ⟨.header, "ETag", "id"⟩, ⟨.status, "", "id"⟩]

/-- A response with one of the headers that the rules ask for. -/
def taggedResponse : Response := ⟨200, [("x-id", "7")], "hello", 0⟩

example : extractVariables mixedRules taggedResponse = .ok [("id", "200"), ("text", "hello")] := by
  decide +kernel

/-- The laws at rules of three kinds, and at two of them in either order. -/
theorem mixedRules_accumulate :
    AllAnswer mixedRules taggedResponse ∧
      (∃ bindings, extractVariables mixedRules taggedResponse = .ok bindings ∧
        HoldsFound mixedRules taggedResponse bindings) ∧
      extractVariables [⟨.body, "", "text"⟩, ⟨.header, "ETag", "id"⟩] taggedResponse =
        extractVariables [⟨.body, "", "text"⟩] taggedResponse ∧
      ∃ bindings permuted,
        extractVariables [⟨.body, "", "text"⟩, ⟨.status, "", "id"⟩] taggedResponse =
            .ok bindings ∧
          extractVariables [⟨.status, "", "id"⟩, ⟨.body, "", "text"⟩] taggedResponse =
            .ok permuted ∧ bindings.Perm permuted := by
  have hidle : (Rule.mk .header "ETag" "id").extract taggedResponse = .ok none := by decide +kernel
  have hheader : (Rule.mk .header "X-Id" "id").extract taggedResponse = .ok (some "7") := by
    decide +kernel
  have hbody : (Rule.mk .body "" "text").extract taggedResponse = .ok (some "hello") := rfl
  have hstatus : (Rule.mk .status "" "id").extract taggedResponse = .ok (some "200") := by
    decide +kernel
  have hanswer : AllAnswer mixedRules taggedResponse := by
    simp [AllAnswer, mixedRules, hidle, hheader, hbody, hstatus]
  have hboth : AllAnswer [⟨.body, "", "text"⟩, ⟨.status, "", "id"⟩] taggedResponse := by
    simp [AllAnswer, hbody, hstatus]
  obtain ⟨haccumulate, hleave, -, hpermute⟩ := variables_accumulate taggedResponse
  refine ⟨hanswer, haccumulate _ hanswer, hleave [⟨.body, "", "text"⟩] _ [] hidle,
    hpermute _ _ hboth (List.Perm.swap _ _ _) (by simp)⟩

end Assay
