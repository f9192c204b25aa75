import Assay.Proofs.Exchange.Encoding
import Assay.Proofs.Exchange.Run

/-! # Evaluation over texts is evaluation

When assertions and a response are written as texts and these are evaluated, the answer is the
text of the verdicts on the assertions about the response.
-/

namespace Assay.Exchange

open Json (Value)

/-- Assertions with switches are described by the text they are encoded as. -/
theorem describesAssertions_canonical {assertions : List Assertion}
    (hswitches : ∀ assertion ∈ assertions, assertion.enabled.isSome = true) :
    DescribesAssertions (Json.canonical (.array (assertions.map assertionJson))) assertions := by
  refine ⟨_, parse_list shallow_assertionJson assertions, ?_⟩
  rw [List.forall₂_map_left_iff, List.forall₂_same]
  intro assertion hmem
  obtain ⟨switch, hswitch⟩ := Option.isSome_iff_exists.mp (hswitches assertion hmem)
  exact describes_assertionJson hswitch

variable {assertions : List Assertion} {response : Response}

/-- Evaluating the texts of assertions and of a response is evaluating the assertions about the
response, and each of them is read back from its JSON value as it was. -/
theorem run_simulates_evaluate
    (hswitches : ∀ assertion ∈ assertions, assertion.enabled.isSome = true)
    (hstatus : -2 ^ 31 ≤ response.status ∧ response.status ≤ 2 ^ 31 - 1)
    (htiming : -2 ^ 63 ≤ response.timing ∧ response.timing ≤ 2 ^ 63 - 1)
    (hnames : response.headers.keys.Nodup) :
    run (Json.canonical (.array (assertions.map assertionJson)))
        (Json.canonical (responseJson response)) =
      (evaluate assertions response).map (fun verdicts =>
        Json.canonical (.array (verdicts.map verdictJson))) ∧
    (∀ assertion ∈ assertions,
      (Datum.ofJson (assertionJson assertion)).entries?.bind Assertion.ofFields? =
        some assertion) ∧
    (Datum.ofJson (responseJson response)).entries?.bind Response.ofFields? = some response := by
  refine ⟨?_, ?_, Payload.ofFields?_of_describesResponse (describes_responseJson hstatus htiming)⟩
  · exact run_of_described (describesAssertions_canonical hswitches)
      ⟨_, parse_response hstatus htiming hnames, describes_responseJson hstatus htiming⟩
  · intro assertion hmem
    obtain ⟨switch, hswitch⟩ := Option.isSome_iff_exists.mp (hswitches assertion hmem)
    exact Payload.ofFields?_of_describes (describes_assertionJson hswitch)

/-- The law at a skipped assertion with tags that name nothing and at one that is made, for the
greatest status code and the least time. -/
theorem run_simulates_evaluate_of_unknown_tags :
    run (Json.canonical (.array ([⟨"é\"", "cookie", "a.b", "like", "\n", some false⟩,
          ⟨"", "status", "", "", "+1", some true⟩].map assertionJson)))
        (Json.canonical (responseJson
          ⟨2147483647, [("B", "2"), ("A", "1")], "\x7b", -9223372036854775808⟩)) =
      (evaluate [⟨"é\"", "cookie", "a.b", "like", "\n", some false⟩,
          ⟨"", "status", "", "", "+1", some true⟩]
        ⟨2147483647, [("B", "2"), ("A", "1")], "\x7b", -9223372036854775808⟩).map fun verdicts =>
          Json.canonical (.array (verdicts.map verdictJson)) :=
  (run_simulates_evaluate (by decide) (by decide) (by decide) (by decide)).1

end Assay.Exchange
