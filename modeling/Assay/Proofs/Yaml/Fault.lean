import Assay.Yaml.Reader
import Assay.Proofs.Traversal

/-! # Where the faults of documents come from

A document that has been put together fails to give a datum as malformed, or for a scalar in it
whose text is not what a tag asks for. The scalar may stand anywhere in the document.
-/

namespace Assay.Yaml

/-! ## Results whose faults are known -/

/-- Every fault of a result satisfies a condition. -/
def Graded.FaultsIn {α : Type} (allowed : Fault → Prop) (result : Graded α) : Prop :=
  ∀ depth fault, result = .error (depth, fault) → allowed fault

section

variable {α β γ : Type} {allowed : Fault → Prop}

theorem faultsIn_ok {value : α} : Graded.FaultsIn allowed (.ok value) := by
  simp [Graded.FaultsIn]

theorem faultsIn_error {depth : Nat} {fault : Fault} (hfault : allowed fault) :
    Graded.FaultsIn allowed (.error (depth, fault) : Graded α) := by
  rintro _ _ ⟨⟩
  exact hfault

theorem Graded.FaultsIn.map {result : Graded α} (hresult : result.FaultsIn allowed)
    (content : α → β) : Graded.FaultsIn allowed (result.map content) := by
  cases result with
  | ok value => exact faultsIn_ok
  | error graded => exact faultsIn_error (hresult graded.1 graded.2 rfl)

theorem Graded.FaultsIn.both {first : Graded α} {second : Graded β}
    (hfirst : first.FaultsIn allowed) (hsecond : second.FaultsIn allowed)
    (combine : α → β → γ) : Graded.FaultsIn allowed (both combine first second) := by
  cases first with
  | ok value =>
      cases second with
      | ok other => exact faultsIn_ok
      | error graded => exact faultsIn_error (hsecond graded.1 graded.2 rfl)
  | error graded =>
      cases second with
      | ok other => exact faultsIn_error (hfirst graded.1 graded.2 rfl)
      | error other =>
          rw [Yaml.both]
          split
          next => exact faultsIn_error (hsecond other.1 other.2 rfl)
          next => exact faultsIn_error (hfirst graded.1 graded.2 rfl)

theorem faultsIn_all {results : List (Graded α)}
    (hresults : ∀ result ∈ results, result.FaultsIn allowed) :
    Graded.FaultsIn allowed (all results) := by
  induction results with
  | nil => exact faultsIn_ok
  | cons result rest ih =>
      obtain ⟨hresult, hrest⟩ := List.forall_mem_cons.mp hresults
      exact hresult.both (ih hrest) List.cons

/-- What is not fit to be a key is malformed; a key has no other fault of its own. -/
theorem Graded.FaultsIn.fitKey {key : Graded Datum} (hkey : key.FaultsIn allowed)
    (hmalformed : allowed .malformed) (depth : Nat) :
    Graded.FaultsIn allowed (Document.fitKey depth key) := by
  cases key with
  | error graded => exact faultsIn_error (hkey graded.1 graded.2 rfl)
  | ok value =>
      rw [Document.fitKey]
      split
      next => exact faultsIn_ok
      next => exact faultsIn_error hmalformed

end

/-! ## The nodes of a document -/

/-- The nodes that stand in a document, through aliases and in the way of keys as well. -/
inductive Document.Has (document : Document) : Node → Prop
  | root : Has document document.root
  | followed {node : Node} : Has document node → Has document (document.follow node)
  | asKey {node : Node} : Has document node → Has document (document.keyNode node)
  | item {place : Nat} {tag : Tag} {items : List Node} {node : Node} :
      Has document (.sequence place tag items) → node ∈ items → Has document node
  | key {place : Nat} {tag : Tag} {entries : List (Node × Node)} {entry : Node × Node} :
      Has document (.mapping place tag entries) → entry ∈ entries → Has document entry.1
  | value {place : Nat} {tag : Tag} {entries : List (Node × Node)} {entry : Node × Node} :
      Has document (.mapping place tag entries) → entry ∈ entries → Has document entry.2

/-- A fault is that of a scalar: its text is not what a tag asks for. -/
def Document.Blames (document : Document) (fault : Fault) : Prop :=
  ∃ found asked text, document.Has (.scalar found text) ∧ readScalar asked text = .error fault

namespace Document

variable {document : Document}

/-- Entries with keys and values in a document. -/
def HasEntries (document : Document) (entries : List (Node × Node)) : Prop :=
  ∀ entry ∈ entries, document.Has entry.1 ∧ document.Has entry.2

theorem Has.entries {place : Nat} {tag : Tag} {entries : List (Node × Node)}
    (hnode : document.Has (.mapping place tag entries)) : document.HasEntries entries :=
  fun _ hentry => ⟨hnode.key hentry, hnode.value hentry⟩

theorem HasEntries.flatten {groups : List (List (Node × Node))}
    (hgroups : ∀ entries ∈ groups, document.HasEntries entries) :
    document.HasEntries groups.flatten := by
  intro entry hentry
  obtain ⟨entries, hentries, hmem⟩ := List.mem_flatten.mp hentry
  exact hgroups entries hentries entry hmem

/-- What is gathered are entries of a document, or the document is malformed. -/
def Gathers (document : Document) : Except Fault (List (Node × Node)) → Prop
  | .error fault => fault = .malformed
  | .ok entries => document.HasEntries entries

/-- Entries that are gathered from several items are entries of the document, in whatever
arrangement. -/
theorem gathers_mapM {α : Type} {items : List α} {read : α → Except Fault (List (Node × Node))}
    {arrange : List (List (Node × Node)) → List (Node × Node)}
    (hitems : ∀ item ∈ items, document.Gathers (read item))
    (harrange : ∀ groups, (∀ entries ∈ groups, document.HasEntries entries) →
      document.HasEntries (arrange groups)) :
    document.Gathers (items.mapM read >>= fun groups => pure (arrange groups)) := by
  cases hread : items.mapM read with
  | error fault =>
      obtain ⟨item, hitem, hfault⟩ := exists_of_mapM_eq_error hread
      have hgathers := hitems item hitem
      rwa [hfault] at hgathers
  | ok groups =>
      refine harrange groups fun entries hentries => ?_
      obtain ⟨item, hitem, hresult⟩ := exists_of_mem_results (mapM_eq_ok_iff.mp hread) hentries
      have hgathers := hitems item hitem
      rwa [hresult] at hgathers

/-- Merging takes entries over from mappings of the document. -/
theorem gathers_merged {merging : List Nat} {entries : List (Node × Node)} {rounds : Nat}
    (hentries : document.HasEntries entries) :
    document.Gathers (document.merged merging entries rounds) := by
  induction rounds generalizing merging entries with
  | zero => rfl
  | succ rounds ih =>
      rw [merged]
      extract_lets mapping
      have hmapping {node : Node} (hnode : document.Has node) :
          document.Gathers (mapping node) := by
        have hfollowed := hnode.followed
        unfold mapping
        split
        next hfound =>
          rw [hfound] at hfollowed
          split
          next => exact fun entry hentry => hfollowed.entries entry (List.mem_of_mem_filter hentry)
          next => exact ih hfollowed.entries
        next => rfl
      refine gathers_mapM (fun entry hentry => ?_) fun groups hgroups => ?_
      · have hvalue := (hentries entry (List.mem_of_mem_filter hentry)).2
        have hfollowed := hvalue.followed
        split
        next hfound =>
          rw [hfound] at hfollowed
          refine gathers_mapM (fun node hnode => hmapping (hfollowed.item hnode)) ?_
          intro groups hgroups
          exact HasEntries.flatten fun entries hmem => hgroups entries (List.mem_reverse.mp hmem)
        next => exact hmapping hfollowed
      · intro entry hentry
        obtain hentry | hentry := List.mem_append.mp hentry
        · exact HasEntries.flatten hgroups entry hentry
        · exact hentries entry (List.mem_of_mem_filter hentry)

/-- The text of a node is that of a scalar of the document. -/
theorem Has.scalarText {node : Node} {rounds : Nat} {text : String}
    (hnode : document.Has node) (htext : document.scalarText? node rounds = some text) :
    ∃ found, document.Has (.scalar found text) := by
  induction rounds generalizing node with
  | zero => simp [scalarText?] at htext
  | succ rounds ih =>
      have hfollowed := hnode.followed
      rw [scalarText?] at htext
      split at htext
      next found other hfound =>
        obtain rfl := Option.some.inj htext
        exact ⟨found, hfound ▸ hfollowed⟩
      next hfound =>
        obtain ⟨entry, hentry, htext⟩ := Option.bind_eq_some_iff.mp htext
        rw [hfound] at hfollowed
        exact ih (hfollowed.value (List.mem_of_find?_eq_some hentry)) htext
      next => simp at htext

/-- What may end the reading of a document that has been put together. -/
def Allows (document : Document) (fault : Fault) : Prop :=
  fault = .malformed ∨ document.Blames fault

theorem faultsIn_malformed {α : Type} {depth : Nat} :
    Graded.FaultsIn document.Allows (.error (depth, .malformed) : Graded α) :=
  faultsIn_error (.inl rfl)

/-- The parts of a node that stand in a document are read with known faults. -/
def ReadsParts (document : Document) (readPart : PartReader) : Prop :=
  ∀ inside part, document.Has part → Graded.FaultsIn document.Allows (readPart inside part)

section

variable {readPart : PartReader} {rounds : Nat} {inside surroundings : Surroundings}
  {node : Node}

theorem ReadsParts.pairOf (hparts : document.ReadsParts readPart) {entry : Node × Node}
    (hkey : document.Has entry.1) (hvalue : document.Has entry.2) :
    Graded.FaultsIn document.Allows (document.pairOf readPart inside entry) :=
  ((hparts _ _ hkey.asKey).fitKey (.inl rfl) _).both (hparts _ _ hvalue) _

theorem ReadsParts.entriesOf (hparts : document.ReadsParts readPart) (hnode : document.Has node) :
    Graded.FaultsIn document.Allows (document.entriesOf readPart rounds inside node) := by
  cases node with
  | mapping place tag entries =>
      have hmerged : document.Gathers (document.merged [place] entries rounds) :=
        gathers_merged hnode.entries
      rw [Document.entriesOf]
      split
      next fault hfault =>
        rw [hfault] at hmerged
        exact faultsIn_error (.inl hmerged)
      next found hfound =>
        rw [hfound] at hmerged
        refine faultsIn_all fun result hresult => ?_
        obtain ⟨entry, hentry, rfl⟩ := List.mem_map.mp hresult
        exact hparts.pairOf (hmerged entry hentry).1 (hmerged entry hentry).2
  | _ => exact faultsIn_malformed

theorem itemsOf_faultsIn {readItem : Node → Graded Datum} (hnode : document.Has node)
    (hitems : ∀ item, document.Has item → Graded.FaultsIn document.Allows (readItem item)) :
    Graded.FaultsIn document.Allows (itemsOf inside readItem node) := by
  cases node with
  | sequence place tag items =>
      refine (faultsIn_all fun result hresult => ?_).map Datum.list
      obtain ⟨item, hitem, rfl⟩ := List.mem_map.mp hresult
      exact hitems item (hnode.item hitem)
  | _ => exact faultsIn_malformed

theorem ReadsParts.onlyPair (hparts : document.ReadsParts readPart) (hnode : document.Has node) :
    Graded.FaultsIn document.Allows (document.onlyPair readPart inside node) := by
  have hfollowed := hnode.followed
  unfold Document.onlyPair onlyEntry?
  split
  next => exact faultsIn_malformed
  next entry hentry =>
    split at hentry
    next hfound =>
      obtain rfl := Option.some.inj hentry
      rw [hfound] at hfollowed
      exact (hparts _ _ (hfollowed.key (by simp))).both (hparts _ _ (hfollowed.value (by simp))) _
    next => simp at hentry

/-- A collection that contains itself is cut off, so its faults are those of what is inside it. -/
theorem collection_faultsIn {place : Nat} {empty : Datum}
    {readInside : Surroundings → Graded Datum}
    (hinside : ∀ inside, Graded.FaultsIn document.Allows (readInside inside)) :
    Graded.FaultsIn document.Allows
      (document.collection rounds surroundings node place empty readInside) := by
  unfold collection
  split
  next =>
    split
    next => exact faultsIn_ok
    next => exact (hinside _).map _
  next => exact hinside _

theorem scalarOf_faultsIn {tag : Tag} (hnode : document.Has node) :
    Graded.FaultsIn document.Allows (document.scalarOf rounds surroundings node tag) := by
  unfold scalarOf
  split
  next =>
    split
    next => exact faultsIn_malformed
    next text htext =>
      obtain ⟨found, hscalar⟩ := hnode.scalarText htext
      cases hread : readScalar tag text with
      | ok value => exact faultsIn_ok
      | error fault => exact faultsIn_error (.inr ⟨found, tag, text, hscalar, hread⟩)
  next => exact faultsIn_malformed

/-- Whatever a tag makes of a node, its faults are those the document allows. -/
theorem ReadsParts.ofTag (hparts : document.ReadsParts readPart) (hnode : document.Has node)
    {place : Nat} {tag : Tag} :
    Graded.FaultsIn document.Allows
      (document.ofTag readPart rounds surroundings node place tag) := by
  unfold Document.ofTag
  split
  next => exact collection_faultsIn fun inside => itemsOf_faultsIn hnode (hparts inside)
  next =>
    exact collection_faultsIn fun inside => itemsOf_faultsIn hnode fun item hitem =>
      hparts.onlyPair hitem
  next =>
    exact collection_faultsIn fun inside => itemsOf_faultsIn hnode fun item hitem =>
      hparts.onlyPair hitem
  next => exact collection_faultsIn fun inside => (hparts.entriesOf hnode).map _
  next => exact (hparts.entriesOf hnode).map _
  next => exact scalarOf_faultsIn hnode

end

end Document

/-! ## The faults of texts -/

end Assay.Yaml
