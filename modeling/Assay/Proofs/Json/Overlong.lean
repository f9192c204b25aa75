import Assay.Proofs.Json.Path

/-! # Indexes that are too long

A path is refused only for an index of too many digits, and only if the segments before it lead
to a node that has the member which the index is asked of. Everywhere else a path leads to a node
or nowhere.
-/

namespace Assay.Json

open Number (TooManyDigits)

/-- A path leads to a node and asks a member of it for an item by an index of too many digits. -/
def ReachesOverlongIndex (document : Value) (path : List Segment) : Prop :=
  ∃ before key digits behind node child, path = before ++ .indexed key digits :: behind ∧
    follow document before = .ok (some node) ∧ node.field? (String.ofList key) = some child ∧
      Number.digitLimit < digits.length

/-- Only an index into something that is there is converted, so only there can it have too many
digits. -/
theorem step_eq_error_iff {segment : Segment} {value : Value} :
    (∃ refusal, segment.step value = .error refusal) ↔
      ∃ key digits child, segment = .indexed key digits ∧
        value.field? (String.ofList key) = some child ∧ Number.digitLimit < digits.length := by
  cases segment with
  | field key => simp [Segment.step]
  | indexed key digits =>
      rw [Segment.step]
      cases hfield : value.field? (String.ofList key) with
      | none => simp [hfield]
      | some child =>
          by_cases hlong : Number.digitLimit < digits.length
          · simp [Number.readDigits, hlong, Except.map, hfield]
          · simp [Number.readDigits, hlong, Except.map]

/-- The segments from the second one on are followed from the child that the first one names. -/
theorem reachesOverlongIndex_cons_iff {document : Value} {segment : Segment}
    {rest : List Segment} :
    ReachesOverlongIndex document (segment :: rest) ↔
      (∃ refusal, segment.step document = .error refusal) ∨
        ∃ child, segment.step document = .ok (some child) ∧ ReachesOverlongIndex child rest := by
  constructor
  · rintro ⟨before, key, digits, behind, node, child, hpath, hfollow, hmember, hlong⟩
    -- the long index is that of the first segment, or it lies behind the child that this names
    cases before with
    | nil =>
        obtain ⟨rfl, rfl⟩ := List.cons.inj hpath
        obtain rfl := Option.some.inj (Except.ok.inj hfollow)
        exact Or.inl (step_eq_error_iff.mpr ⟨key, digits, child, rfl, hmember, hlong⟩)
    | cons first others =>
        obtain ⟨rfl, rfl⟩ := List.cons.inj hpath
        rw [follow] at hfollow
        rcases hstep : segment.step document with refusal | _ | next
        · simp [hstep] at hfollow
        · simp [hstep] at hfollow
        · rw [hstep] at hfollow
          exact Or.inr ⟨next, rfl, others, key, digits, behind, node, child, rfl, hfollow,
            hmember, hlong⟩
  · rintro (hrefused | ⟨next, hstep, before, key, digits, behind, node, child, rfl, hfollow,
      hmember, hlong⟩)
    · obtain ⟨key, digits, child, rfl, hmember, hlong⟩ := step_eq_error_iff.mp hrefused
      exact ⟨[], key, digits, rest, document, child, rfl, rfl, hmember, hlong⟩
    · refine ⟨segment :: before, key, digits, behind, node, child, rfl, ?_, hmember, hlong⟩
      rw [follow, hstep]
      exact hfollow

/-- A path is refused exactly when it reaches an index of too many digits. -/
theorem follow_eq_error_iff {document : Value} {path : List Segment} :
    (∃ refusal, follow document path = .error refusal) ↔ ReachesOverlongIndex document path := by
  induction path generalizing document with
  | nil => simp [follow, ReachesOverlongIndex]
  | cons segment rest ih =>
      rw [reachesOverlongIndex_cons_iff, follow]
      rcases hstep : segment.step document with refusal | _ | child
      · simp
      · simp
      · simpa using ih

theorem exists_resolve_iff {document : Value} {path : String} :
    (∃ found, resolve document path = .ok found) ↔
      ¬ ReachesOverlongIndex document (segments path) := by
  rw [← follow_eq_error_iff, ← resolve]
  cases resolve document path <;> simp

/-! ## Writing an index -/

theorem splitOn_of_not_mem {separator : Char} {text : List Char} (hseparator : separator ∉ text) :
    Text.splitOn separator text = [text] := by
  induction text with
  | nil => rfl
  | cons c rest ih =>
      rw [List.mem_cons, not_or] at hseparator
      rw [Text.splitOn, if_neg (Ne.symm hseparator.1), ih hseparator.2]

/-- The index at the end of a text is the run of digits in its last pair of brackets. -/
theorem splitIndex?_indexed (key : List Char) {digits : List Char} (hne : digits ≠ [])
    (hdigits : ∀ c ∈ digits, c.isDigit = true) :
    Segment.splitIndex? (key ++ '[' :: digits ++ [']']).reverse = some (key, digits) := by
  have hreversed : (key ++ '[' :: digits ++ [']']).reverse =
      ']' :: (digits.reverse ++ '[' :: key.reverse) := by simp
  have hlast : ∀ c ∈ digits.reverse, c.isDigit = true := by simpa using hdigits
  have htake : (digits.reverse ++ '[' :: key.reverse).takeWhile Char.isDigit =
      digits.reverse := by
    rw [List.takeWhile_append_of_pos hlast, List.takeWhile_cons_of_neg (by decide),
      List.append_nil]
  have hdrop : (digits.reverse ++ '[' :: key.reverse).dropWhile Char.isDigit =
      '[' :: key.reverse := by
    rw [List.dropWhile_append_of_pos hlast, List.dropWhile_cons_of_neg (by decide)]
  rw [hreversed, Segment.splitIndex?, htake, hdrop]
  cases hfirst : digits.reverse with
  | nil => exact absurd (List.reverse_eq_nil_iff.mp hfirst) hne
  | cons first others =>
      change some (key.reverse.reverse, (first :: others).reverse) = _
      rw [← hfirst, List.reverse_reverse, List.reverse_reverse]

/-- The text of a key with an index behind it is the segment that it spells. -/
theorem ofText_indexed {key digits : List Char} (hkey : key ≠ []) (hline : '\n' ∉ key)
    (hne : digits ≠ []) (hdigits : ∀ c ∈ digits, c.isDigit = true) :
    Segment.ofText (key ++ '[' :: digits ++ [']']) = .indexed key digits := by
  rw [Segment.ofText, splitIndex?_indexed key hne hdigits]
  simp [hkey, hline]

/-- A path of a single key with an index behind it. -/
theorem segments_indexed {key digits : List Char} (hkey : key ≠ []) (hline : '\n' ∉ key)
    (hpoint : '.' ∉ key) (hne : digits ≠ []) (hdigits : ∀ c ∈ digits, c.isDigit = true) :
    segments (String.ofList (key ++ '[' :: digits ++ [']'])) = [.indexed key digits] := by
  have hwhole : '.' ∉ key ++ '[' :: digits ++ [']'] := by
    have hdigit : '.' ∉ digits := fun hmem => absurd (hdigits _ hmem) (by decide)
    simp [hpoint, hdigit]
  have hnonempty : (String.ofList (key ++ '[' :: digits ++ [']'])).isEmpty = false := by
    simp [← Bool.not_eq_true, String.isEmpty_iff]
  rw [segments, hnonempty, if_neg Bool.false_ne_true, String.toList_ofList,
    splitOn_of_not_mem hwhole, List.map_singleton, ofText_indexed hkey hline hne hdigits]

/-! ## Extraction -/

theorem exists_extract_iff {text path : String} :
    (∃ written, extract text path = .ok written) ↔
      ∀ document, parse text = .ok document → ¬ ReachesOverlongIndex document (segments path) := by
  unfold extract
  cases hparse : parse text with
  | error refusal => simp
  | ok document =>
      simp only [Except.ok.injEq, forall_eq', ← exists_resolve_iff]
      cases resolve document path <;> simp [Except.map]

/-- Nodes are collected for a list of paths exactly when none of the paths is refused. -/
theorem exists_extractAll_iff {document : Value} {paths : List String} :
    (∃ found, extractAll document paths = .ok found) ↔
      ∀ path ∈ paths, ¬ ReachesOverlongIndex document (segments path) := by
  unfold extractAll
  generalize ([] : Table String Value) = found
  induction paths generalizing found with
  | nil => simp [pure, Except.pure]
  | cons path rest ih =>
      rw [List.foldlM_cons, List.forall_mem_cons, ← exists_resolve_iff]
      cases hnode : resolve document path with
      | error refusal => simp [Except.map, bind, Except.bind]
      | ok node => simpa [Except.map, bind, Except.bind] using ih _

end Assay.Json
