import Assay.Proofs.Json.Reader
import Assay.Proofs.Json.Value

/-! # The values of trees

A tree denotes a value exactly if all its numerals do, and the value is representable. The depth
of the value is that of the tree without the members that a later one of the same name replaces.
-/

namespace Assay.Json

open Number (Double ofDigits digitsOf)

/-! ## Trees that denote a value -/

/-- A numeral fits when it denotes a number that can be held. -/
theorem Numeral.fits_iff {numeral : Numeral} :
    numeral.Fits ↔ ∃ value, numeral.Denotes value := by
  unfold Numeral.Fits
  constructor
  · intro hfits
    split at hfits
    next hform =>
      rcases numeral with ⟨negative, whole, fraction, exponent⟩
      obtain ⟨rfl, rfl⟩ := hform
      exact ⟨_, .int hfits⟩
    next hform =>
      obtain ⟨number, hrounding, hfinite⟩ := hfits
      exact ⟨.double number, .double (not_and_or.mp hform) hrounding hfinite⟩
  · rintro ⟨value, hdenotes⟩
    cases hdenotes with
    | int hlength => exact (if_pos ⟨rfl, rfl⟩).mpr hlength
    | double hform hrounding hfinite =>
        rw [if_neg (not_and_or.mpr hform)]
        exact ⟨_, hrounding, hfinite⟩

theorem Tree.exists_itemsDenote {items : List Tree}
    (hitems : ∀ item ∈ items, ∃ value, item.Denotes value) :
    ∃ values, Tree.ItemsDenote items values := by
  induction items with
  | nil => exact ⟨[], .nil⟩
  | cons item rest ih =>
      obtain ⟨⟨value, hvalue⟩, hrest⟩ := List.forall_mem_cons.mp hitems
      obtain ⟨values, hvalues⟩ := ih hrest
      exact ⟨value :: values, .cons hvalue hvalues⟩

theorem Tree.exists_membersDenote {members : List (List Nat × Tree)}
    (hmembers : ∀ member ∈ members, ∃ value, member.2.Denotes value) :
    ∃ entries, Tree.MembersDenote members entries := by
  induction members with
  | nil => exact ⟨[], .nil⟩
  | cons member rest ih =>
      obtain ⟨⟨value, hvalue⟩, hrest⟩ := List.forall_mem_cons.mp hmembers
      obtain ⟨entries, hentries⟩ := ih hrest
      exact ⟨_, .cons (codesDenote_joinSurrogates member.1) hvalue hentries⟩

theorem Tree.ItemsDenote.exists_value {items : List Tree} {values : List Value}
    (hdenote : Tree.ItemsDenote items values) {item : Tree} (hmem : item ∈ items) :
    ∃ value, item.Denotes value := by
  induction items generalizing values with
  | nil => nomatch hmem
  | cons first rest ih =>
      cases hdenote with
      | cons hvalue hvalues =>
          rcases List.mem_cons.mp hmem with rfl | hmem
          · exact ⟨_, hvalue⟩
          · exact ih hvalues hmem

theorem Tree.MembersDenote.exists_value {members : List (List Nat × Tree)}
    {entries : List (String × Value)} (hdenote : Tree.MembersDenote members entries)
    {member : List Nat × Tree} (hmem : member ∈ members) :
    ∃ value, member.2.Denotes value := by
  induction members generalizing entries with
  | nil => nomatch hmem
  | cons first rest ih =>
      cases hdenote with
      | cons hname hvalue hmembers =>
          rcases List.mem_cons.mp hmem with rfl | hmem
          · exact ⟨_, hvalue⟩
          · exact ih hmembers hmem

/-- A tree denotes a value if and only if its numerals do. -/
theorem Tree.numeralsFit_iff {tree : Tree} :
    tree.NumeralsFit ↔ ∃ value, tree.Denotes value := by
  constructor
  · intro hfit
    induction hfit with
    | null => exact ⟨.null, .null⟩
    | bool => exact ⟨_, .bool⟩
    | number hfits =>
        obtain ⟨value, hvalue⟩ := Numeral.fits_iff.mp hfits
        exact ⟨value, .number hvalue⟩
    | string => exact ⟨_, .string (codesDenote_joinSurrogates _)⟩
    | array _ ih =>
        obtain ⟨values, hvalues⟩ := Tree.exists_itemsDenote ih
        exact ⟨.array values, .array hvalues⟩
    | object _ ih =>
        obtain ⟨entries, hentries⟩ := Tree.exists_membersDenote ih
        exact ⟨_, .object hentries (isMerged_ofEntries entries)⟩
  · rintro ⟨value, hdenotes⟩
    induction tree generalizing value with
    | null => exact .null
    | bool value => exact .bool
    | number numeral =>
        cases hdenotes with
        | number hnumeral => exact .number (Numeral.fits_iff.mpr ⟨_, hnumeral⟩)
    | string codes => exact .string
    | array items ih =>
        cases hdenotes with
        | array hitems =>
            refine .array fun item hmem => ?_
            obtain ⟨value, hvalue⟩ := hitems.exists_value hmem
            exact ih item hmem value hvalue
    | object members ih =>
        cases hdenotes with
        | object hmembers _ =>
            refine .object fun member hmem => ?_
            obtain ⟨value, hvalue⟩ := hmembers.exists_value hmem
            exact ih member hmem value hvalue

/-! ## Depth -/

/-- Some member of a list has a name of the same characters. -/
def Tree.HasName (name : List Nat) (members : List (List Nat × Tree)) : Prop :=
  ∃ member ∈ members, Text.joinSurrogates member.1 = Text.joinSurrogates name

instance (name : List Nat) (members : List (List Nat × Tree)) :
    Decidable (Tree.HasName name members) :=
  inferInstanceAs (Decidable (∃ member ∈ members, _))

namespace Tree

mutual

/-- The depth of a tree without the members that a later one of the same name replaces. -/
def keptDepth : Tree → Nat
  | array items => keptDepthOfItems items + 1
  | object members => keptDepthOfMembers members + 1
  | _ => 0

def keptDepthOfItems : List Tree → Nat
  | [] => 0
  | item :: rest => max item.keptDepth (keptDepthOfItems rest)

def keptDepthOfMembers : List (List Nat × Tree) → Nat
  | [] => 0
  | (name, tree) :: rest =>
    if HasName name rest then keptDepthOfMembers rest
    else max tree.keptDepth (keptDepthOfMembers rest)

end

theorem keptDepthOfItems_le_iff {items : List Tree} {bound : Nat} :
    keptDepthOfItems items ≤ bound ↔ ∀ item ∈ items, item.keptDepth ≤ bound := by
  induction items with
  | nil => simp [keptDepthOfItems]
  | cons item rest ih => rw [keptDepthOfItems, Nat.max_le, List.forall_mem_cons, ih]

theorem keptDepthOfMembers_le {members : List (List Nat × Tree)} {bound : Nat}
    (hmembers : ∀ member ∈ members, member.2.keptDepth ≤ bound) :
    keptDepthOfMembers members ≤ bound := by
  induction members with
  | nil => exact Nat.zero_le bound
  | cons member rest ih =>
      obtain ⟨hmember, hrest⟩ := List.forall_mem_cons.mp hmembers
      rw [keptDepthOfMembers]
      split
      next => exact ih hrest
      next => exact Nat.max_le.mpr ⟨hmember, ih hrest⟩

/-- Dropping repeated names makes no tree deeper. -/
theorem keptDepth_le_depth (tree : Tree) : tree.keptDepth ≤ tree.depth := by
  induction tree with
  | array items ih =>
      exact Nat.succ_le_succ (keptDepthOfItems_le_iff.mpr fun item hmem =>
        Nat.le_trans (ih item hmem) (depthOfItems_le_iff.mp le_rfl item hmem))
  | object members ih =>
      exact Nat.succ_le_succ (keptDepthOfMembers_le fun member hmem =>
        Nat.le_trans (ih member hmem) (depthOfMembers_le_iff.mp le_rfl member hmem))
  | _ => exact le_rfl

/-- No object of a tree has two members of the same name. -/
inductive NamesDiffer : Tree → Prop
  | null : NamesDiffer .null
  | bool {value : Bool} : NamesDiffer (.bool value)
  | number {numeral : Numeral} : NamesDiffer (.number numeral)
  | string {codes : List Nat} : NamesDiffer (.string codes)
  | array {items : List Tree} (hitems : ∀ item ∈ items, NamesDiffer item) :
      NamesDiffer (.array items)
  | object {members : List (List Nat × Tree)}
      (hnames : members.Pairwise fun first second =>
        Text.joinSurrogates second.1 ≠ Text.joinSurrogates first.1)
      (hmembers : ∀ member ∈ members, NamesDiffer member.2) : NamesDiffer (.object members)

/-- When no name is repeated, no member is dropped. -/
theorem keptDepthOfMembers_of_pairwise {members : List (List Nat × Tree)}
    (hnames : members.Pairwise fun first second =>
      Text.joinSurrogates second.1 ≠ Text.joinSurrogates first.1)
    (hmembers : ∀ member ∈ members, member.2.keptDepth = member.2.depth) :
    keptDepthOfMembers members = depthOfMembers members := by
  induction members with
  | nil => rfl
  | cons member rest ih =>
      obtain ⟨hfirst, hrest⟩ := List.pairwise_cons.mp hnames
      obtain ⟨hmember, hothers⟩ := List.forall_mem_cons.mp hmembers
      have hnew : ¬ HasName member.1 rest := fun ⟨other, hmem, hsame⟩ => hfirst other hmem hsame
      rw [keptDepthOfMembers, if_neg hnew, hmember, ih hrest hothers, depthOfMembers]

/-- All of a tree is kept if no name is repeated. -/
theorem NamesDiffer.keptDepth_eq {tree : Tree} (hdiffer : tree.NamesDiffer) :
    tree.keptDepth = tree.depth := by
  induction hdiffer with
  | @array items _ ih =>
      refine le_antisymm (keptDepth_le_depth _) (Nat.succ_le_succ ?_)
      exact depthOfItems_le_iff.mpr fun item hmem =>
        ih item hmem ▸ keptDepthOfItems_le_iff.mp le_rfl item hmem
  | object hnames _ ih =>
      rw [keptDepth, keptDepthOfMembers_of_pairwise hnames ih, depth]
  | _ => rfl

end Tree

/-- A name stands in the members of a tree when it is a name of what they denote. -/
theorem hasName_iff {members : List (List Nat × Tree)} {entries : List (String × Value)}
    (hdenote : Tree.MembersDenote members entries) {name : List Nat} :
    Tree.HasName name members ↔
      String.ofList (Text.joinSurrogates name) ∈ Table.keys entries := by
  induction members generalizing entries with
  | nil =>
      cases hdenote
      simp [Tree.HasName, Table.keys]
  | cons member rest ih =>
      cases hdenote with
      | @cons first chars tree value _ entries hname hvalue hmembers =>
          have hchars := joinSurrogates_of_codesDenote hname
          have hrest := ih hmembers
          simp only [Tree.HasName, Table.keys, List.map_cons, List.mem_cons,
            exists_eq_or_imp] at hrest ⊢
          rw [hrest, hchars, String.ofList_inj, eq_comm]

/-- The values that are kept of the members of an object are those of the trees kept. -/
theorem depth_kept_le_iff {members : List (List Nat × Tree)} {entries : List (String × Value)}
    (hdenote : Tree.MembersDenote members entries)
    (hmembers : ∀ member ∈ members, ∀ value, member.2.Denotes value →
      value.depth = member.2.keptDepth) (bound : Nat) :
    (∀ name value, Table.get? entries.reverse name = some value → value.depth ≤ bound) ↔
      Tree.keptDepthOfMembers members ≤ bound := by
  induction members generalizing entries with
  | nil =>
      cases hdenote
      simp [Table.get?, Tree.keptDepthOfMembers]
  | cons member rest ih =>
      cases hdenote with
      | @cons first chars tree value _ entries hname hvalue hmembersDenote =>
          obtain ⟨hmember, hothers⟩ := List.forall_mem_cons.mp hmembers
          have hrest := ih hmembersDenote hothers
          have hrepeated := @hasName_iff rest entries hmembersDenote first
          rw [joinSurrogates_of_codesDenote hname] at hrepeated
          have hkeys : ∀ name, name ∈ Table.keys entries.reverse ↔ name ∈ Table.keys entries := by
            simp [Table.keys]
          simp only [List.reverse_cons, Table.get?_concat, hkeys]
          rw [Tree.keptDepthOfMembers]
          split
          next hagain =>
            -- a later entry of the same name hides the first one
            rw [← hrest]
            refine ⟨fun hall name value hget => hall name value (Or.inl hget), ?_⟩
            rintro hall name value (hget | ⟨hnew, hentry⟩)
            · exact hall name value hget
            · obtain ⟨rfl, -⟩ := Prod.mk.inj hentry
              exact absurd (hrepeated.mp hagain) hnew
          next hlast =>
            rw [Nat.max_le, ← hrest, ← hmember value hvalue]
            constructor
            · intro hall
              exact ⟨hall _ value (Or.inr ⟨mt hrepeated.mpr hlast, rfl⟩),
                fun name value hget => hall name value (Or.inl hget)⟩
            · rintro ⟨hfirst, hall⟩ name value (hget | ⟨-, hentry⟩)
              · exact hall name value hget
              · obtain ⟨-, rfl⟩ := Prod.mk.inj hentry
                exact hfirst

theorem depth_items_eq {items : List Tree} {values : List Value}
    (hdenote : Tree.ItemsDenote items values)
    (hitems : ∀ item ∈ items, ∀ value, item.Denotes value → value.depth = item.keptDepth) :
    Value.depthOfItems values = Tree.keptDepthOfItems items := by
  induction items generalizing values with
  | nil =>
      cases hdenote
      rfl
  | cons item rest ih =>
      obtain ⟨hitem, hrest⟩ := List.forall_mem_cons.mp hitems
      cases hdenote with
      | cons hvalue hvalues =>
          rw [Value.depthOfItems, Tree.keptDepthOfItems, hitem _ hvalue, ih hvalues hrest]

/-- What holds of all members of a table holds of the last value of each name that was put in. -/
theorem forall_mem_ofEntries_iff {entries : List (String × Value)}
    {property : String × Value → Prop} :
    (∀ member ∈ Table.ofEntries entries, property member) ↔
      ∀ name value, Table.get? entries.reverse name = some value → property (name, value) := by
  have hnodup := Table.nodup_keys_ofEntries entries
  constructor
  · intro hall name value hget
    rw [← Table.get?_ofEntries] at hget
    exact hall _ (Table.mem_of_get?_eq_some hget)
  · rintro hall ⟨name, value⟩ hmem
    apply hall
    rw [← Table.get?_ofEntries]
    exact Table.get?_eq_some_of_mem hnodup hmem

/-- The value of a tree is as deep as what is kept of the tree. -/
theorem Tree.Denotes.depth_eq {tree : Tree} {value : Value} (hdenotes : tree.Denotes value) :
    value.depth = tree.keptDepth := by
  induction tree generalizing value with
  | number numeral =>
      cases hdenotes with
      | number hnumeral =>
          cases hnumeral <;> rfl
  | array items ih =>
      cases hdenotes with
      | array hitems =>
          rw [Value.depth, Tree.keptDepth,
            depth_items_eq hitems fun item hmem value hvalue => ih item hmem hvalue]
  | object members ih =>
      cases hdenotes with
      | object hmembers hmerged =>
          obtain rfl := hmerged.eq_ofEntries
          rw [Value.depth, Tree.keptDepth, Nat.succ_inj]
          -- both depths have the same upper bounds
          refine eq_of_forall_ge_iff fun bound => ?_
          rw [Value.depthOfMembers_le_iff, forall_mem_ofEntries_iff]
          exact depth_kept_le_iff hmembers (fun member hmem value hvalue => ih member hmem hvalue)
            bound
  | _ =>
      cases hdenotes
      rfl

theorem Tree.Denotes.depth_le {tree : Tree} {value : Value} (hdenotes : tree.Denotes value) :
    value.depth ≤ tree.depth :=
  hdenotes.depth_eq ▸ tree.keptDepth_le_depth

/-! ## Denoted values are representable -/

theorem Tree.ItemsWrittenAs.exists_text {items : List Tree} {text : List Char}
    (hwritten : Tree.ItemsWrittenAs items text) {item : Tree} (hmem : item ∈ items) :
    ∃ itemText, item.WrittenAs itemText := by
  induction items generalizing text with
  | nil => nomatch hmem
  | cons first rest ih =>
      cases hwritten with
      | one _ hitem _ =>
          obtain rfl := List.mem_singleton.mp hmem
          exact ⟨_, hitem⟩
      | more _ hitem _ hitems =>
          rcases List.mem_cons.mp hmem with rfl | hmem
          · exact ⟨_, hitem⟩
          · exact ih hitems hmem

theorem Tree.MembersWrittenAs.exists_text {members : List (List Nat × Tree)} {text : List Char}
    (hwritten : Tree.MembersWrittenAs members text) {member : List Nat × Tree}
    (hmem : member ∈ members) : ∃ valueText, member.2.WrittenAs valueText := by
  induction members generalizing text with
  | nil => nomatch hmem
  | cons first rest ih =>
      cases hwritten with
      | one _ hmember _ =>
          obtain rfl := List.mem_singleton.mp hmem
          obtain ⟨_, _, _, hvalue⟩ := hmember
          exact ⟨_, hvalue⟩
      | more _ hmember _ hmembers =>
          rcases List.mem_cons.mp hmem with rfl | hmem
          · obtain ⟨_, _, _, hvalue⟩ := hmember
            exact ⟨_, hvalue⟩
          · exact ih hmembers hmem

theorem Tree.ItemsDenote.exists_item {items : List Tree} {values : List Value}
    (hdenote : Tree.ItemsDenote items values) {value : Value} (hmem : value ∈ values) :
    ∃ item ∈ items, item.Denotes value := by
  induction items generalizing values with
  | nil =>
      cases hdenote
      nomatch hmem
  | cons first rest ih =>
      cases hdenote with
      | cons hvalue hvalues =>
          rcases List.mem_cons.mp hmem with rfl | hmem
          · exact ⟨first, List.mem_cons_self, hvalue⟩
          · obtain ⟨item, hitem, hdenotes⟩ := ih hvalues hmem
            exact ⟨item, List.mem_cons_of_mem first hitem, hdenotes⟩

theorem Tree.MembersDenote.exists_member {members : List (List Nat × Tree)}
    {entries : List (String × Value)} (hdenote : Tree.MembersDenote members entries)
    {entry : String × Value} (hmem : entry ∈ entries) :
    ∃ member ∈ members, member.2.Denotes entry.2 := by
  induction members generalizing entries with
  | nil =>
      cases hdenote
      nomatch hmem
  | cons first rest ih =>
      cases hdenote with
      | cons _ hvalue hvalues =>
          rcases List.mem_cons.mp hmem with rfl | hmem
          · exact ⟨_, List.mem_cons_self, hvalue⟩
          · obtain ⟨member, hmember, hdenotes⟩ := ih hvalues hmem
            exact ⟨member, List.mem_cons_of_mem _ hmember, hdenotes⟩

/-- A number that is denoted can be written. -/
theorem Numeral.Denotes.representable {numeral : Numeral} {text : List Char} {value : Value}
    (hwritten : numeral.WrittenAs text) (hdenotes : numeral.Denotes value) :
    value.Representable := by
  cases hdenotes with
  | double _ _ hfinite => exact .double hfinite
  | @int negative whole hlength =>
      have hdigits : whole ≠ [] ∧ ∀ c ∈ whole, c.isDigit = true := by
        obtain ⟨hwhole, _, _⟩ := hwritten
        cases hwhole with
        | zero => exact ⟨by simp, List.forall_mem_singleton.mpr rfl⟩
        | digits _ hdigits => exact areDigits_iff.mp hdigits
      have hnat : (if negative then -(ofDigits whole : Int) else ofDigits whole).natAbs =
          ofDigits whole := by
        cases negative <;> simp
      refine .int ?_
      rw [hnat]
      exact (Number.length_digitsOf_ofDigits_le hdigits.1 hdigits.2).trans hlength

/-- The value of a tree that is written is representable. -/
theorem Tree.Denotes.representable {tree : Tree} {text : List Char} {value : Value}
    (hwritten : tree.WrittenAs text) (hdenotes : tree.Denotes value) : value.Representable := by
  induction tree generalizing text value with
  | null =>
      cases hdenotes
      exact .null
  | bool =>
      cases hdenotes
      exact .bool
  | number numeral =>
      cases hdenotes with
      | number hnumeral =>
          cases hwritten with
          | number hwritten => exact hnumeral.representable hwritten
  | string codes =>
      cases hdenotes
      exact .string
  | array items ih =>
      cases hdenotes with
      | array hvalues =>
          refine .array fun value hmem => ?_
          obtain ⟨item, hitem, hvalue⟩ := hvalues.exists_item hmem
          cases hwritten with
          | emptyArray => nomatch hitem
          | array hitems =>
              obtain ⟨itemText, hwritten⟩ := hitems.exists_text hitem
              exact ih item hitem hwritten hvalue
  | object members ih =>
      cases hdenotes with
      | @object _ entries _ hentries hmerged =>
          obtain rfl := hmerged.eq_ofEntries
          refine .object (Table.nodup_keys_ofEntries entries) ?_
          rw [forall_mem_ofEntries_iff]
          intro name value hget
          obtain ⟨member, hmember, hvalue⟩ := hentries.exists_member
            (List.mem_reverse.mp (Table.mem_of_get?_eq_some hget))
          cases hwritten with
          | emptyObject => nomatch hmember
          | object hmembers =>
              obtain ⟨valueText, hwritten⟩ := hmembers.exists_text hmember
              exact ih member hmember hwritten hvalue

end Assay.Json
