import Assay.Proofs.Exchange.Run

/-! # Answers at the boundary of texts

Every operation on texts has an answer for all texts, except that an index of too many digits on
the way along a path has none, and that an assertion which strains what can be read or written
ends the evaluation it stands in.
-/

namespace Assay.Exchange

open Json (Value)

/-- A use of an operation on texts. -/
inductive Call where
  | substitute (text table : String)
  | substituteAll (texts table : String)
  | findVariables (text : String)
  | hasVariables (text : String)
  | extract (document path : String)
  | extractAll (document paths : String)
  | format (document : String)
  | minify (document : String)
  | isDocument (document : String)
  | profile (document : String)
  | run (assertions response : String)

inductive Answer where
  | text (content : String)
  | truth (value : Bool)

/-- What a call gives, or what ends it. -/
def Call.answer : Call → Except Failure Answer
  | substitute text table => .ok (.text (Exchange.substitute text table))
  | substituteAll texts table => .ok (.text (Exchange.substituteAll texts table))
  | findVariables text => .ok (.text (Exchange.findVariables text))
  | hasVariables text => .ok (.truth (Exchange.hasVariables text))
  | extract document path =>
    ((Exchange.extract document path).mapError .tooManyDigits).map .text
  | extractAll document paths =>
    ((Exchange.extractAll document paths).mapError .tooManyDigits).map .text
  | format document => .ok (.text (Exchange.format document))
  | minify document => .ok (.text (Exchange.minify document))
  | isDocument document => .ok (.truth (Exchange.isDocument document))
  | profile document => .ok (.text (Exchange.profile document))
  | run assertions response => (Exchange.run assertions response).map .text

/-- Some assertion of a list is made and strains what can be read or written. -/
def SomeStrains (assertions : List Assertion) (response : Response) : Prop :=
  ∃ assertion ∈ assertions, assertion.isEnabled = true ∧ assertion.Strains response

/-- A call asks for more than can be read or written: a path of it reaches an index of too many
digits, or one of its assertions strains. -/
def Call.Strains : Call → Prop
  | extract document path => ∃ value, Json.parse document = .ok value ∧
      Json.ReachesOverlongIndex value (Json.segments path)
  | extractAll document paths => ∃ value places, Json.parse document = .ok value ∧
      texts? paths = some places ∧
        ∃ path ∈ places, Json.ReachesOverlongIndex value (Json.segments path)
  | run assertionsText responseText => ∃ assertions response,
      DescribesAssertions assertionsText assertions ∧
        DescribesResponse responseText response ∧ SomeStrains assertions response
  | _ => False

@[simp] theorem mapError_eq_ok_iff {α ε ε' : Type} {result : Except ε α} {f : ε → ε'} {value : α} :
    result.mapError f = .ok value ↔ result = .ok value := by
  cases result <;> simp [Except.mapError]

/-- Only a path that reaches an index with too many digits keeps an extraction from its answer. -/
theorem exists_extractAll_iff {document paths : String} :
    (∃ written, extractAll document paths = .ok written) ↔
      ¬ (Call.extractAll document paths).Strains := by
  unfold extractAll Call.Strains
  simp only [← value?_eq_some_iff]
  cases value? document with
  | none => simp
  | some value =>
      cases texts? paths with
      | none => simp
      | some places => simp [exists_map_ok_iff, Json.exists_extractAll_iff]

/-- Only an assertion that strains keeps a run from its answer, for texts that are no payload are
answered. -/
theorem exists_run_iff {assertionsText responseText : String} :
    (∃ written, run assertionsText responseText = .ok written) ↔
      ¬ (Call.run assertionsText responseText).Strains := by
  by_cases hdescribed : (∃ assertions, DescribesAssertions assertionsText assertions) ∧
      ∃ response, DescribesResponse responseText response
  · obtain ⟨⟨assertions, hassertions⟩, response, hresponse⟩ := hdescribed
    rw [run_of_described hassertions hresponse, exists_map_ok_iff, exists_evaluate_iff, not_iff_not]
    -- a text describes one thing at most, so what strains is what was described
    constructor
    · intro hstrains
      exact ⟨assertions, response, hassertions, hresponse, hstrains⟩
    · rintro ⟨others, other, hothers, hother, hstrains⟩
      rwa [hassertions.unique hothers, hresponse.unique hother]
  · rw [run_of_not_described hdescribed]
    simp only [Except.ok.injEq, exists_eq', true_iff]
    rintro ⟨assertions, response, hassertions, hresponse, -⟩
    exact hdescribed ⟨⟨assertions, hassertions⟩, response, hresponse⟩

/-- A call is answered unless it strains what can be read or written. -/
theorem exists_answer_iff (call : Call) :
    (∃ answer, call.answer = .ok answer) ↔ ¬ call.Strains := by
  cases call with
  | extract document path =>
      simp only [Call.answer, exists_map_ok_iff, mapError_eq_ok_iff, extract,
        Json.exists_extract_iff, Call.Strains, not_exists, not_and]
  | extractAll document paths =>
      simp only [Call.answer, exists_map_ok_iff, mapError_eq_ok_iff, exists_extractAll_iff]
  | run assertions response => rw [Call.answer, exists_map_ok_iff, exists_run_iff]
  | _ => simp [Call.answer, Call.Strains]

/-- Every call on texts is answered unless it strains what can be read or written, and every
evaluation gives one verdict for each assertion unless one of them does. -/
theorem answered_unless_strained (call : Call) (assertions : List Assertion)
    (response : Response) :
    ((∃ answer, call.answer = .ok answer) ↔ ¬ call.Strains) ∧
      ((∃ verdicts, evaluate assertions response = .ok verdicts ∧
          verdicts.map Verdict.id = assertions.map Assertion.id) ↔
        ¬ SomeStrains assertions response) := by
  refine ⟨exists_answer_iff call, ?_⟩
  rw [SomeStrains, ← exists_evaluate_iff]
  constructor
  · rintro ⟨verdicts, hverdicts, -⟩
    exact ⟨verdicts, hverdicts⟩
  · rintro ⟨verdicts, hverdicts⟩
    exact ⟨verdicts, hverdicts, ids_of_evaluate hverdicts⟩

/-- An extraction by an index of too many digits is not answered. -/
theorem answer_of_overlong_index {count : Nat} (hlong : Number.digitLimit < count) :
    (Call.extract "\x7b\"a\":[1]\x7d"
        (String.ofList (['a'] ++ '[' :: List.replicate count '1' ++ [']']))).answer =
      .error (.tooManyDigits ⟨count⟩) := by
  have hparse : Json.parse "\x7b\"a\":[1]\x7d" = .ok (.object [("a", .array [.int 1])]) := by cbv
  have hdigits : ∀ c ∈ List.replicate count '1', c.isDigit = true := by
    intro c hmem
    rw [List.eq_of_mem_replicate hmem]
    rfl
  have hne : List.replicate count '1' ≠ [] := by
    rw [Ne, List.replicate_eq_nil_iff]
    omega
  have hpath : Json.segments (String.ofList (['a'] ++ '[' :: List.replicate count '1' ++ [']'])) =
      [.indexed ['a'] (List.replicate count '1')] :=
    Json.segments_indexed (by decide) (by decide) (by decide) hne hdigits
  have hindex : Number.readDigits (List.replicate count '1') = .error ⟨count⟩ := by
    rw [Number.readDigits, List.length_replicate, if_pos hlong]
  simp only [Call.answer, extract, Json.extract, hparse, Json.resolve, hpath, Json.follow,
    Json.Segment.step, hindex]
  rfl

/-- An extraction by an index of four thousand three hundred and one digits and an evaluation with
a pattern that asks for two alphabets are not answered. -/
theorem overlong_index_and_two_alphabets_unanswered :
    (Call.extract "\x7b\"a\":[1]\x7d"
        (String.ofList (['a'] ++ '[' :: List.replicate 4301 '1' ++ [']']))).answer =
      .error (.tooManyDigits ⟨4301⟩) ∧
    evaluate [⟨"a1", "bodyContains", "", "matches", "(?a)(?u)x", some true⟩]
      ⟨200, [], "aaa", 0⟩ = .error .incompatibleAlphabets :=
  ⟨answer_of_overlong_index (by decide), by cbv⟩

end Assay.Exchange
