import Assay.Proofs.Json.Overlong
import Assay.Proofs.Number.Digits

/-! # The path of a node

A node is reached from a document through keys and indexes. Written one after the other, with the
index in brackets behind its key and points between the links, these are a path that leads to the
node, except that a key with a line feed is not told from the index behind it.
-/

namespace Assay.Json

/-- One link of a chain from a node to one below it: the key of a member and, if this member is an
array that is entered, the index of an item. -/
structure Link where
  key : String
  index : Option Nat := none
  deriving DecidableEq

def Link.child? (link : Link) (value : Value) : Option Value :=
  match link.index with
  | none => value.field? link.key
  | some index => (value.field? link.key).bind (Value.item? index)

def reach (value : Value) : List Link → Option Value
  | [] => some value
  | link :: rest => (link.child? value).bind (reach · rest)

def Link.written (link : Link) : List Char :=
  match link.index with
  | none => link.key.toList
  | some index => link.key.toList ++ '[' :: Number.digitsOf index ++ [']']

def pathOf (chain : List Link) : String :=
  String.ofList (List.intercalate ['.'] (chain.map Link.written))

/-- A text that ends in an index in brackets, with something before these. -/
def EndsInIndex (text : List Char) : Prop :=
  ∃ stem digits, stem ≠ [] ∧ digits ≠ [] ∧ (∀ c ∈ digits, c.isDigit = true) ∧
    text = stem ++ '[' :: digits ++ [']']

/-- A link that a path can spell: its key is not empty and has no point, without an index it does
not end in one, and an index is not too long to be read. -/
structure Link.IsProper (link : Link) : Prop where
  key_ne_empty : link.key ≠ ""
  no_point : '.' ∉ link.key.toList
  plain : link.index = none → ¬ EndsInIndex link.key.toList
  fits : ∀ index, link.index = some index →
    (Number.digitsOf index).length ≤ Number.digitLimit

/-- A link that is taken for a single key because a line feed stands before its index. -/
def Link.IsBroken (link : Link) : Prop := link.index ≠ none ∧ '\n' ∈ link.key.toList

instance (link : Link) : Decidable link.IsBroken := inferInstanceAs (Decidable (_ ∧ _))

/-- A link as it is read from a path. -/
def Link.asRead (link : Link) : Link :=
  if link.IsBroken then ⟨String.ofList link.written, none⟩ else link

/-! ## The text of a path -/

theorem splitOn_intercalate {separator : Char} {parts : List (List Char)} (hne : parts ≠ [])
    (hparts : ∀ part ∈ parts, separator ∉ part) :
    Text.splitOn separator (List.intercalate [separator] parts) = parts := by
  induction parts with
  | nil => exact absurd rfl hne
  | cons part rest ih =>
      obtain ⟨hpart, hrest⟩ := List.forall_mem_cons.mp hparts
      cases rest with
      | nil => rw [List.intercalate_singleton, splitOn_of_not_mem hpart]
      | cons next others =>
          rw [List.intercalate_cons_cons, List.append_assoc, List.singleton_append,
            splitOn_append_cons, splitOn_of_not_mem hpart, ih (by simp) hrest,
            List.singleton_append]

/-- Parts with points between them are read as segments one by one. -/
theorem segments_intercalate {parts : List (List Char)} (hne : parts ≠ [])
    (hparts : ∀ part ∈ parts, part ≠ [] ∧ '.' ∉ part) :
    segments (String.ofList (List.intercalate ['.'] parts)) = parts.map Segment.ofText := by
  have hnonempty : (String.ofList (List.intercalate ['.'] parts)).isEmpty = false := by
    obtain ⟨part, rest, rfl⟩ := List.exists_cons_of_ne_nil hne
    have hpart := (hparts part List.mem_cons_self).1
    rw [← Bool.not_eq_true, String.isEmpty_iff]
    cases rest <;> simp [hpart]
  rw [segments, hnonempty, if_neg Bool.false_ne_true, String.toList_ofList,
    splitOn_intercalate hne fun part hpart => (hparts part hpart).2]

namespace Link

variable {link : Link}

theorem IsProper.written_ne_nil (hproper : link.IsProper) : link.written ≠ [] := by
  have hkey := hproper.key_ne_empty
  unfold written
  split
  next => simpa using hkey
  next => simp

/-- A link is written without points, so a path can be split at its points. -/
theorem IsProper.point_notMem_written (hproper : link.IsProper) : '.' ∉ link.written := by
  unfold written
  split
  next => exact hproper.no_point
  next index _ =>
    have hdigits : '.' ∉ Number.digitsOf index := fun hmem =>
      absurd (Number.isDigit_of_mem_digitsOf hmem) (by decide)
    simp [hproper.no_point, hdigits]

end Link

theorem segments_pathOf {chain : List Link} (hne : chain ≠ [])
    (hproper : ∀ link ∈ chain, link.IsProper) :
    segments (pathOf chain) = chain.map fun link => Segment.ofText link.written := by
  have hparts : ∀ part ∈ chain.map Link.written, part ≠ [] ∧ '.' ∉ part := by
    rintro _ hpart
    obtain ⟨link, hlink, rfl⟩ := List.mem_map.mp hpart
    exact ⟨(hproper link hlink).written_ne_nil, (hproper link hlink).point_notMem_written⟩
  rw [pathOf, segments_intercalate (by simpa using hne) hparts, List.map_map]
  rfl

/-! ## Reading a link -/

/-- What is read as an index at the end of a text stands there. -/
theorem eq_of_splitIndex? {text key digits : List Char}
    (hsplit : Segment.splitIndex? text.reverse = some (key, digits)) :
    text = key ++ '[' :: digits ++ [']'] ∧ digits ≠ [] ∧ ∀ c ∈ digits, c.isDigit = true := by
  unfold Segment.splitIndex? at hsplit
  split at hsplit
  next behind hlast =>
    have hbehind := List.takeWhile_append_dropWhile (p := Char.isDigit) (l := behind)
    split at hsplit
    next => simp at hsplit
    next reversed stem hdrop hne =>
      obtain ⟨rfl, rfl⟩ := Prod.mk.inj (Option.some.inj hsplit)
      refine ⟨?_, by simpa using hne, fun c hmem => ?_⟩
      · have hwhole : behind = behind.takeWhile Char.isDigit ++ '[' :: stem := by
          rw [← hdrop, hbehind]
        calc text = (']' :: behind).reverse := by rw [← hlast, List.reverse_reverse]
          _ = (']' :: (behind.takeWhile Char.isDigit ++ '[' :: stem)).reverse :=
              congrArg (fun rest => (']' :: rest).reverse) hwhole
          _ = _ := by simp
      · exact List.all_eq_true.mp List.all_takeWhile c (List.mem_reverse.mp hmem)
    next => simp at hsplit
  next => simp at hsplit

/-- Whether a text ends in an index can be told by looking for the index and at what is before. -/
theorem endsInIndex_iff {text : List Char} :
    EndsInIndex text ↔
      (Segment.splitIndex? text.reverse).any (fun split => !split.1.isEmpty) = true := by
  rw [Option.any_eq_true]
  constructor
  · rintro ⟨stem, digits, hstem, hne, hdigits, rfl⟩
    exact ⟨_, splitIndex?_indexed stem hne hdigits, by simpa using hstem⟩
  · rintro ⟨⟨stem, digits⟩, hsplit, hstem⟩
    obtain ⟨htext, hne, hdigits⟩ := eq_of_splitIndex? hsplit
    exact ⟨stem, digits, by simpa using hstem, hne, hdigits, htext⟩

instance (text : List Char) : Decidable (EndsInIndex text) := decidable_of_iff' _ endsInIndex_iff

theorem ofText_of_not_endsInIndex {text : List Char} (hplain : ¬ EndsInIndex text) :
    Segment.ofText text = .field text := by
  rw [endsInIndex_iff] at hplain
  rw [Segment.ofText]
  split
  next key digits hsplit =>
    have hkey : key.isEmpty = true := by simpa [hsplit] using hplain
    rw [hkey, Bool.true_or, if_pos rfl]
  next => rfl

/-- A line feed keeps the text before an index from being taken for its key. -/
theorem ofText_of_line_feed {key digits : List Char} (hline : '\n' ∈ key) (hne : digits ≠ [])
    (hdigits : ∀ c ∈ digits, c.isDigit = true) :
    Segment.ofText (key ++ '[' :: digits ++ [']']) =
      .field (key ++ '[' :: digits ++ [']']) := by
  rw [Segment.ofText, splitIndex?_indexed key hne hdigits]
  simp [hline]

/-- An indexed step takes the field, and then the item of the field. -/
theorem step_indexed {index : Nat} (hfits : (Number.digitsOf index).length ≤ Number.digitLimit)
    (key : String) (value : Value) :
    (Segment.indexed key.toList (Number.digitsOf index)).step value =
      .ok ((value.field? key).bind (Value.item? index)) := by
  rw [Segment.step, String.ofList_toList]
  cases value.field? key with
  | none => rfl
  | some child =>
      dsimp only
      rw [Number.readDigits_digitsOf hfits]
      rfl

/-- A link of a path leads where it leads as it is read. -/
theorem Link.IsProper.step_ofText {link : Link} (hproper : link.IsProper) (value : Value) :
    (Segment.ofText link.written).step value = .ok (link.asRead.child? value) := by
  obtain ⟨key, index⟩ := link
  cases index with
  | none =>
      have hread : asRead ⟨key, none⟩ = ⟨key, none⟩ := if_neg fun hbroken => hbroken.1 rfl
      rw [hread, written, ofText_of_not_endsInIndex (hproper.plain rfl), Segment.step,
        String.ofList_toList]
      rfl
  | some index =>
      have hne := Number.digitsOf_ne_nil index
      have hdigits : ∀ c ∈ Number.digitsOf index, c.isDigit = true := fun c hmem =>
        Number.isDigit_of_mem_digitsOf hmem
      by_cases hline : '\n' ∈ key.toList
      · have hread : asRead ⟨key, some index⟩ = ⟨String.ofList (written ⟨key, some index⟩), none⟩ :=
          if_pos ⟨Option.some_ne_none index, hline⟩
        rw [hread, written, ofText_of_line_feed hline hne hdigits]
        rfl
      · have hread : asRead ⟨key, some index⟩ = ⟨key, some index⟩ :=
          if_neg fun hbroken => hline hbroken.2
        have hkey : key.toList ≠ [] := by simpa using hproper.key_ne_empty
        rw [hread, written, ofText_indexed hkey hline hne hdigits,
          step_indexed (hproper.fits index rfl)]
        rfl

/-- The links of a chain are followed as they are meant, with their keys as they are read. -/
theorem follow_ofText {chain : List Link} (hproper : ∀ link ∈ chain, link.IsProper)
    (value : Value) :
    follow value (chain.map fun link => Segment.ofText link.written) =
      .ok (reach value (chain.map Link.asRead)) := by
  induction chain generalizing value with
  | nil => rfl
  | cons link rest ih =>
      obtain ⟨hlink, hrest⟩ := List.forall_mem_cons.mp hproper
      rw [List.map_cons, List.map_cons, follow, hlink.step_ofText, reach]
      cases link.asRead.child? value with
      | none => rfl
      | some child => exact ih hrest child

/-! ## Chains and their paths -/

theorem resolve_pathOf {chain : List Link} (hne : chain ≠ [])
    (hproper : ∀ link ∈ chain, link.IsProper) (document : Value) :
    resolve document (pathOf chain) = .ok (reach document (chain.map Link.asRead)) := by
  rw [resolve, segments_pathOf hne hproper, follow_ofText hproper]

theorem map_asRead_of_not_isBroken {chain : List Link}
    (hunbroken : ∀ link ∈ chain, ¬ link.IsBroken) : chain.map Link.asRead = chain :=
  (List.map_congr_left fun link hlink => if_neg (hunbroken link hlink)).trans (List.map_id chain)

/-- The path of a chain leads where the chain leads, and nowhere if it leads nowhere, when no
line feed stands in a key with an index. Such a key and its index are taken for a single key. -/
theorem path_leads_along_chain (document : Value) {chain : List Link} (hne : chain ≠ [])
    (hproper : ∀ link ∈ chain, link.IsProper) :
    resolve document (pathOf chain) = .ok (reach document (chain.map Link.asRead)) ∧
      ((∀ link ∈ chain, ¬ link.IsBroken) →
        resolve document (pathOf chain) = .ok (reach document chain)) := by
  have hread := resolve_pathOf hne hproper document
  refine ⟨hread, fun hunbroken => ?_⟩
  rw [hread, map_asRead_of_not_isBroken hunbroken]

/-- A chain through keys with brackets, one of them with nothing before its digits, to a key with
a line feed and no index. -/
def bracketedChain : List Link := [⟨"k[0]", some 1⟩, ⟨"[3]", none⟩, ⟨"a\nb", none⟩]

/-- The law at keys that look like parts of a path. -/
theorem path_leads_along_bracketed_keys :
    (∀ link ∈ bracketedChain, link.IsProper) ∧ (∀ link ∈ bracketedChain, ¬ link.IsBroken) ∧
      resolve (.object [("k[0]", .array [.null, .object [("[3]", .object [("a\nb", .int 7)])]])])
        (pathOf bracketedChain) = .ok (some (.int 7)) := by
  have hproper : ∀ link ∈ bracketedChain, link.IsProper := by
    rw [bracketedChain, List.forall_mem_cons, List.forall_mem_cons, List.forall_mem_singleton]
    refine ⟨⟨by decide, by decide, by decide, ?_⟩, ⟨by decide, by decide, by decide, nofun⟩,
      ⟨by decide, by decide, by decide, nofun⟩⟩
    rintro _ ⟨⟩
    decide
  have hunbroken : ∀ link ∈ bracketedChain, ¬ link.IsBroken := by decide
  exact ⟨hproper, hunbroken,
    (path_leads_along_chain _ (by simp [bracketedChain]) hproper).2 hunbroken⟩

/-- A chain whose only key has a line feed before its index. -/
def lineFeedChain : List Link := [⟨"a\nb", some 0⟩]

/-- A line feed hides the index behind a key: the item is not found, and where the chain leads
nowhere a member is found that has the index in its name. -/
theorem line_feed_hides_index :
    (∀ link ∈ lineFeedChain, link.IsProper) ∧
      (∃ document, parse "\x7b\"a\\nb\":[1]\x7d" = .ok document ∧
        reach document lineFeedChain = some (.int 1) ∧
        resolve document (pathOf lineFeedChain) = .ok none) ∧
      ∃ document, parse "\x7b\"a\\nb[0]\":2\x7d" = .ok document ∧
        reach document lineFeedChain = none ∧
        resolve document (pathOf lineFeedChain) = .ok (some (.int 2)) := by
  refine ⟨?_, ⟨.object [("a\nb", .array [.int 1])], by cbv, rfl, by cbv⟩,
    ⟨.object [("a\nb[0]", .int 2)], by cbv, rfl, by cbv⟩⟩
  rw [lineFeedChain, List.forall_mem_singleton]
  refine ⟨by decide, by decide, by decide, ?_⟩
  rintro _ ⟨⟩
  decide

end Assay.Json
