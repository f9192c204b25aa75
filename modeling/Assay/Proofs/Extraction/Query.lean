import Assay.Proofs.Extraction
import Assay.Proofs.Query.Search

/-! # Paths and queries agree

What a rule finds at a plain path, a rule finds by the query that the path is behind the root. The
converse holds for paths without indexes: a query also enters a string by an index.
-/

namespace Assay

open Json (Segment Value)
open Query (IsPlain pathOf queryOf)

variable {steps : List Segment}

theorem isBlank_of_isNameLetter {c : Char} (hc : Query.isNameLetter c = true) :
    Text.isBlank c = false := by
  have hcode : (48 ≤ c.toNat ∧ c.toNat ≤ 122) := by
    simp only [Query.isNameLetter, Char.isAlphanum, Char.isAlpha, Char.isUpper, Char.isLower,
      Bool.or_eq_true, Bool.and_eq_true, decide_eq_true_eq, Char.isDigit_iff_toNat,
      UInt32.le_iff_toNat_le, ge_iff_le] at hc
    change (((65 ≤ c.toNat ∧ c.toNat ≤ 90) ∨ (97 ≤ c.toNat ∧ c.toNat ≤ 122)) ∨
      (48 ≤ c.toNat ∧ c.toNat ≤ 57)) ∨ c = '_' at hc
    rcases hc with hc | rfl
    · omega
    · decide
  rw [← Bool.not_eq_true, Text.isBlank, Text.inRanges_iff]
  simp [Text.blankRanges]
  omega

/-- A plain path is not blank. -/
theorem exists_solid_pathOf (hne : steps ≠ []) (hplain : ∀ step ∈ steps, IsPlain step) :
    ∃ c ∈ (pathOf steps).toList, Text.isBlank c = false := by
  have hname : ∀ {key : List Char}, Query.IsName key → ∃ c ∈ key, Text.isBlank c = false := by
    intro key hkey
    obtain ⟨c, others, rfl⟩ := List.exists_cons_of_ne_nil hkey.ne_nil
    exact ⟨c, List.mem_cons_self, isBlank_of_isNameLetter (hkey.letters c List.mem_cons_self)⟩
  have hwritten : ∀ {step : Segment}, IsPlain step →
      ∃ c ∈ Query.written step, Text.isBlank c = false := by
    intro step hstep
    cases step with
    | field key => exact hname hstep
    | indexed key digits =>
        obtain ⟨c, hmem, hsolid⟩ := hname hstep.1
        exact ⟨c, by simp [Query.written, hmem], hsolid⟩
  obtain ⟨step, rest, rfl⟩ := List.exists_cons_of_ne_nil hne
  obtain ⟨c, hmem, hsolid⟩ := hwritten (hplain step List.mem_cons_self)
  refine ⟨c, ?_, hsolid⟩
  rw [pathOf, String.toList_ofList]
  cases rest <;> simp [hmem]

/-- A rule with a plain path finds the text of the node to which the path leads. -/
theorem extractPath_pathOf (hne : steps ≠ []) (hplain : ∀ step ∈ steps, IsPlain step)
    {body : String} {document : Value} {found : Option Value}
    (hparse : Json.parse body = .ok document) (hfollow : Json.follow document steps = .ok found) :
    extractPath body (pathOf steps) = .ok (found.bind variableText) := by
  rw [extractPath_eq (exists_solid_pathOf hne hplain), hparse]
  simp only [Json.resolve, Query.segments_pathOf hne hplain, hfollow]

theorem name_ne_star {name : String} (hplain : ∀ step ∈ steps, IsPlain step)
    (hmem : .field name ∈ steps.flatMap Query.linksOf) : name ≠ "*" := by
  have hkey {key : List Char} (hname : Query.IsName key) : String.ofList key ≠ "*" := by
    intro hstar
    have hmem : '*' ∈ key := by rw [← String.toList_ofList (l := key), hstar]; decide
    exact hname.notMem (by decide) hmem
  obtain ⟨step, hstep, hlink⟩ := List.mem_flatMap.mp hmem
  have hplain := hplain step hstep
  cases step with
  | field key =>
      simp only [Query.linksOf, List.mem_singleton, Query.Link.field.injEq] at hlink
      exact hlink ▸ hkey hplain
  | indexed key digits =>
      simp only [Query.linksOf, List.mem_cons, Query.Link.field.injEq, reduceCtorEq,
        List.not_mem_nil, or_false] at hlink
      exact hlink ▸ hkey hplain.1

section

variable {engine : Query.Engine} {body : String} {document : Value} {found : Option Value}

/-- In an engine that follows a path the query for it finds the node to which the path leads, and
nothing where a path without indexes leads nowhere. -/
theorem extractQueryBy_queryOf (hplain : ∀ step ∈ steps, IsPlain step)
    (hfollows : engine.Follows steps) (hparse : Json.parse body = .ok document)
    (hfollow : Json.follow document steps = .ok found)
    (hfound : found = none → ∀ step ∈ steps, ∃ key, step = .field key) :
    extractQueryBy engine body (queryOf steps) = .ok (found.bind variableText) := by
  have hfits : ∀ step ∈ steps, step.IndexFits := fun step hstep =>
    Query.indexFits_of_isPlain (hplain step hstep)
  obtain rfl := Except.ok.inj ((Query.follow_eq_follow? hfits document).symm.trans hfollow)
  have hlinks (hnone : Query.follow? document (steps.flatMap Query.linksOf) = none) :
      ∀ link ∈ steps.flatMap Query.linksOf, ∃ name, link = .field name := by
    intro link hlink
    obtain ⟨step, hstep, hlink⟩ := List.mem_flatMap.mp hlink
    obtain ⟨key, rfl⟩ := hfound hnone step hstep
    exact ⟨_, List.mem_singleton.mp hlink⟩
  have hfinds := hfollows.finds (fun _ => name_ne_star hplain) (List.nil_append _)
    (hfollows.root document) hlinks
  rw [extractQueryBy, hparse]
  simp only [hfollows.read, hfinds.first?]
  rfl

/-- A rule with a plain path has an answer. In an engine that follows the path, a text that the rule
finds is also found by the query that the path is behind the root. Without indexes the query finds
what the path does, also where that is nothing. -/
theorem queries_agree_with_paths (engine : Query.Engine) (body : String) (hne : steps ≠ [])
    (hplain : ∀ step ∈ steps, IsPlain step) (hfollows : engine.Follows steps) :
    (∃ found, extractPath body (pathOf steps) = .ok found) ∧
      (∀ text, extractPath body (pathOf steps) = .ok (some text) →
        extractQueryBy engine body (queryOf steps) = .ok (some text)) ∧
      ((∀ step ∈ steps, ∃ key, step = .field key) →
        extractQueryBy engine body (queryOf steps) = extractPath body (pathOf steps)) := by
  cases hparse : Json.parse body with
  | error refusal =>
      have hpath : extractPath body (pathOf steps) = .ok none := by
        rw [extractPath_eq (exists_solid_pathOf hne hplain), hparse]
      have hquery : extractQueryBy engine body (queryOf steps) = .ok none := by
        rw [extractQueryBy, hparse]
      rw [hpath, hquery]
      exact ⟨⟨none, rfl⟩, nofun, fun _ => rfl⟩
  | ok document =>
      have hfits : ∀ step ∈ steps, step.IndexFits := fun step hstep =>
        Query.indexFits_of_isPlain (hplain step hstep)
      obtain ⟨found, hfollow⟩ := Json.exists_follow_of_indexFits hfits document
      have hpath := extractPath_pathOf hne hplain hparse hfollow
      have hquery := extractQueryBy_queryOf hplain hfollows hparse hfollow
      rw [hpath]
      refine ⟨⟨_, rfl⟩, fun text htext => ?_, fun hfields => hquery fun _ => hfields⟩
      rw [← htext]
      refine hquery ?_
      rintro rfl
      cases htext

end

-- Behind an index a query may find more than the path, which enters arrays only.
example : extractQuery "\x7b\"a\":\"xy\"\x7d" "$.a[0]" = .ok (some "x") ∧
    extractPath "\x7b\"a\":\"xy\"\x7d" "a[0]" = .ok none := by
  decide +kernel

/-- The law at a path with an index that starts with a zero, and at one without indexes that leads
nowhere. -/
theorem queries_agree_at_item :
    queryOf [.indexed "items".toList "00".toList, .field "_id".toList] = "$.items[00]._id" ∧
      extractQuery "\x7b\"items\":[\x7b\"_id\":7\x7d]\x7d"
        (queryOf [.indexed "items".toList "00".toList, .field "_id".toList]) = .ok (some "7") ∧
      extractQuery "\x7b\"items\":[\x7b\"_id\":7\x7d]\x7d"
        (queryOf [.field "items".toList, .field "_id".toList]) = .ok none := by
  have hitems : Query.IsName "items".toList :=
    ⟨by decide, List.all_eq_true.mp (by decide), by rintro _ ⟨⟩; decide⟩
  have hid : Query.IsName "_id".toList :=
    ⟨by decide, List.all_eq_true.mp (by decide), by rintro _ ⟨⟩; decide⟩
  have hindexed : ∀ step ∈ [Segment.indexed "items".toList "00".toList, .field "_id".toList],
      IsPlain step := by
    rw [List.forall_mem_cons, List.forall_mem_singleton]
    exact ⟨⟨hitems, by decide, List.all_eq_true.mp (by decide), by decide⟩, hid⟩
  have hfields : ∀ step ∈ [Segment.field "items".toList, .field "_id".toList], IsPlain step := by
    rw [List.forall_mem_cons, List.forall_mem_singleton]
    exact ⟨hitems, hid⟩
  have hbody : Json.parse "\x7b\"items\":[\x7b\"_id\":7\x7d]\x7d" =
      .ok (.object [("items", .array [.object [("_id", .int 7)]])]) := by cbv
  have hitem := extractPath_pathOf (by simp) hindexed hbody rfl
  have hnowhere := extractPath_pathOf (by simp) hfields hbody rfl
  obtain ⟨-, htext, -⟩ := queries_agree_with_paths Query.engine
    "\x7b\"items\":[\x7b\"_id\":7\x7d]\x7d" (by simp) hindexed
    (Query.engine_follows (by simp) hindexed (by simp [Query.NamesNoOperator, Query.operatorWords]))
  obtain ⟨-, -, hsame⟩ := queries_agree_with_paths Query.engine
    "\x7b\"items\":[\x7b\"_id\":7\x7d]\x7d" (by simp) hfields
    (Query.engine_follows (by simp) hfields (by simp [Query.NamesNoOperator, Query.operatorWords]))
  exact ⟨by decide, htext _ (hitem.trans (by decide +kernel)), (hsame (by simp)).trans hnowhere⟩

end Assay
