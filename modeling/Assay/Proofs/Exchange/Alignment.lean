import Assay.Proofs.Exchange.Encoding
import Assay.Proofs.Exchange.Run

/-! # All verdicts or none

An evaluation over texts that gives an answer either reports on every entry of the assertion list,
in order, or it is the text of an empty array. Which of the two it is depends on the shape of the
payloads alone.
-/

namespace Assay.Exchange

open Json (Value)

/-- A result reports on an entry of an assertion list: it is an object of exactly four members,
and the first one is the id of the entry. -/
def ReportsOn (entry result : Value) : Prop :=
  ∃ id passed actual message, entry.field? "id" = some (.string id) ∧
    result = .object [("assertionId", .string id), ("passed", .bool passed),
      ("actual", .string actual), ("message", .string message)]

/-- A text is an array of entries that each describe an assertion. -/
def HoldsAssertions (text : String) (entries : List Value) : Prop :=
  Json.parse text = .ok (.array entries) ∧
    ∀ entry ∈ entries, ∃ assertion, Payload.DescribesAssertion entry assertion

/-- A text describes assertions when it holds a list of entries that have their shape. -/
theorem exists_describesAssertions_iff {text : String} :
    (∃ assertions, DescribesAssertions text assertions) ↔
      ∃ entries, HoldsAssertions text entries := by
  simp only [DescribesAssertions, HoldsAssertions, ← exists_forall₂_iff]
  rw [exists_comm]
  simp only [exists_and_left]

/-- The verdicts on described assertions report on the entries that describe them. -/
theorem reports_of_evaluate {entries : List Value} {assertions : List Assertion}
    {response : Response} {verdicts : List Verdict}
    (hdescribed : List.Forall₂ Payload.DescribesAssertion entries assertions)
    (hverdicts : evaluate assertions response = .ok verdicts) :
    List.Forall₂ ReportsOn entries (verdicts.map verdictJson) := by
  rw [List.forall₂_map_right_iff]
  -- an entry has the id of the assertion, and the assertion gives it to its verdict
  refine forall₂_compose ?_ hdescribed (evaluate_eq_ok_iff.mp hverdicts)
  intro entry assertion verdict hentry hverdict
  exact ⟨verdict.id, verdict.passed, verdict.actual, verdict.message,
    (id_of_check hverdict).symm ▸ hentry.id, rfl⟩

/-- If the texts hold assertions and a response, the answer is an array that reports on every
entry in order; and in all other cases it is the text of an empty array. -/
theorem all_verdicts_or_none (assertionsText responseText : String) :
    (∀ entries, HoldsAssertions assertionsText entries →
      (∃ response, DescribesResponse responseText response) →
        ∀ output, run assertionsText responseText = .ok output →
          ∃ results, Json.parse output = .ok (.array results) ∧
            List.Forall₂ ReportsOn entries results) ∧
    (¬ ((∃ entries, HoldsAssertions assertionsText entries) ∧
        ∃ response, DescribesResponse responseText response) →
      run assertionsText responseText = .ok "[]") := by
  constructor
  · rintro entries ⟨hparse, hentries⟩ ⟨response, hresponse⟩ output hrun
    obtain ⟨assertions, hdescribed⟩ := exists_forall₂_iff.mpr hentries
    rw [run_of_described ⟨entries, hparse, hdescribed⟩ hresponse] at hrun
    cases hverdicts : evaluate assertions response with
    | error failure => simp [hverdicts, Except.map] at hrun
    | ok verdicts =>
        obtain rfl : Json.canonical (.array (verdicts.map verdictJson)) = output := by
          simpa [hverdicts, Except.map] using hrun
        exact ⟨_, parse_list shallow_verdictJson verdicts,
          reports_of_evaluate hdescribed hverdicts⟩
  · intro hundescribed
    rw [← exists_describesAssertions_iff] at hundescribed
    exact run_of_not_described hundescribed

/-- The law at a list of one entry, which has a member that is not asked for. -/
theorem verdict_on_header_reported :
    ∃ results, Json.parse ("[\x7b\"assertionId\":\"a1\",\"passed\":false," ++
        "\"actual\":\"not found\",\"message\":\"Header \\\"ETag\\\" not found\"\x7d]") =
          .ok (.array results) ∧
      List.Forall₂ ReportsOn [.object [("note", .null), ("id", .string "a1"),
        ("type", .string "headerExists"), ("property", .string "ETag"),
        ("operator", .string "exists"), ("expected", .string ""), ("enabled", .bool true)]]
        results := by
  have hassertions : Json.parse ("[\x7b\"note\":null,\"id\":\"a1\",\"type\":\"headerExists\"," ++
      "\"property\":\"ETag\",\"operator\":\"exists\",\"expected\":\"\",\"enabled\":true\x7d]") =
        .ok (.array [.object [("note", .null), ("id", .string "a1"),
          ("type", .string "headerExists"), ("property", .string "ETag"),
          ("operator", .string "exists"), ("expected", .string ""), ("enabled", .bool true)]]) := by
    cbv
  have hresponse : Json.parse
      "\x7b\"statusCode\":200,\"headers\":\x7b\x7d,\"body\":\"\",\"timingMs\":0\x7d" =
        .ok (responseJson ⟨200, [], "", 0⟩) := by cbv
  have hentry : Payload.DescribesAssertion (.object [("note", .null), ("id", .string "a1"),
      ("type", .string "headerExists"), ("property", .string "ETag"),
      ("operator", .string "exists"), ("expected", .string ""), ("enabled", .bool true)])
      ⟨"a1", "headerExists", "ETag", "exists", "", some true⟩ :=
    ⟨rfl, rfl, rfl, rfl, rfl, true, rfl, rfl⟩
  have hdescribed : Payload.DescribesResponse (responseJson ⟨200, [], "", 0⟩) ⟨200, [], "", 0⟩ :=
    describes_responseJson (by decide) (by decide)
  have hrun := run_of_described ⟨_, hassertions, .cons hentry .nil⟩ ⟨_, hresponse, hdescribed⟩
  refine (all_verdicts_or_none _ _).1 _ ⟨hassertions, ?_⟩ ⟨_, _, hresponse, hdescribed⟩ _
    (hrun.trans (by cbv))
  exact List.forall_mem_singleton.mpr ⟨_, hentry⟩

end Assay.Exchange
