import Mathlib.Data.List.Induction
import Mathlib.Data.List.Nodup
import Assay.Table

/-! # Laws of tables

Writing entries one after the other gives each key the place of its first entry and the value of
its last. A table is determined by its keys in order and by the value of each key.
-/

namespace Assay

theorem eraseDups_concat {α : Type} [DecidableEq α] (items : List α) (item : α) :
    (items ++ [item]).eraseDups =
      if item ∈ items then items.eraseDups else items.eraseDups ++ [item] := by
  rw [List.eraseDups_append]
  by_cases hmem : item ∈ items
  · simp [List.removeAll, hmem]
  · simp [List.removeAll, hmem, List.eraseDups_cons]

/-- A list counts the same behind another one whether or not its own repetitions are left out. -/
theorem eraseDups_append_eraseDups {α : Type} [DecidableEq α] (first second : List α) :
    (first ++ second.eraseDups).eraseDups = (first ++ second).eraseDups := by
  induction second using List.reverseRecOn with
  | nil => rfl
  | append_singleton second item ih =>
      rw [eraseDups_concat, ← List.append_assoc, eraseDups_concat]
      by_cases hsecond : item ∈ second
      · rw [if_pos hsecond, if_pos (List.mem_append_right first hsecond), ih]
      · rw [if_neg hsecond, ← List.append_assoc, eraseDups_concat, ih]
        simp [hsecond]

namespace Table

variable {Key Value : Type} [DecidableEq Key]

theorem nodup_keys_put {table : Table Key Value} (hnodup : table.keys.Nodup) (key : Key)
    (value : Value) : (table.put key value).keys.Nodup := by
  rw [keys_put]
  split
  next => exact hnodup
  next hnew =>
    rw [List.nodup_append]
    refine ⟨hnodup, List.nodup_singleton key, ?_⟩
    intro old hold new hmem heq
    rw [List.mem_singleton] at hmem
    exact hnew (hmem ▸ heq ▸ hold)

theorem putAll_append (table : Table Key Value) (first second : List (Key × Value)) :
    table.putAll (first ++ second) = (table.putAll first).putAll second :=
  List.foldl_append

theorem ofEntries_concat (entries : List (Key × Value)) (entry : Key × Value) :
    ofEntries (entries ++ [entry]) = (ofEntries entries).put entry.1 entry.2 :=
  putAll_append [] entries [entry]

theorem nodup_keys_ofEntries (entries : List (Key × Value)) :
    (ofEntries entries).keys.Nodup := by
  induction entries using List.reverseRecOn with
  | nil => exact List.nodup_nil
  | append_singleton entries entry ih =>
      rw [ofEntries_concat]
      exact nodup_keys_put ih _ _

theorem length_put_le (table : Table Key Value) (key : Key) (value : Value) :
    (table.put key value).length ≤ table.length + 1 := by
  have hlength : (table.put key value).length = (table.put key value).keys.length := by simp [keys]
  rw [hlength, keys_put]
  split <;> simp [keys]

theorem length_ofEntries_le (entries : List (Key × Value)) :
    (ofEntries entries).length ≤ entries.length := by
  induction entries using List.reverseRecOn with
  | nil => exact Nat.le_refl 0
  | append_singleton entries entry ih =>
      rw [ofEntries_concat, List.length_append]
      exact Nat.le_trans (length_put_le _ _ _) (Nat.succ_le_succ ih)

/-- The keys stand in the order in which they were first written. -/
theorem keys_ofEntries (entries : List (Key × Value)) :
    (ofEntries entries).keys = (entries.map Prod.fst).eraseDups := by
  induction entries using List.reverseRecOn with
  | nil => rfl
  | append_singleton entries entry ih =>
      rw [ofEntries_concat, keys_put, List.map_append, List.map_singleton, eraseDups_concat, ih]
      simp only [List.mem_eraseDups]

theorem put_of_notMem {table : Table Key Value} {key : Key} (hnew : key ∉ table.keys)
    (value : Value) : table.put key value = table ++ [(key, value)] := by
  induction table with
  | nil => rfl
  | cons entry rest ih =>
      obtain ⟨hne, hrest⟩ := List.ne_and_not_mem_of_not_mem_cons hnew
      rw [put, if_neg (Ne.symm hne), ih hrest, List.cons_append]

/-- The value of a key is the last one written, and what it was before if none is. -/
theorem get?_putAll (table : Table Key Value) (entries : List (Key × Value)) (key : Key) :
    (table.putAll entries).get? key = (get? entries.reverse key).or (table.get? key) := by
  induction entries using List.reverseRecOn with
  | nil => rfl
  | append_singleton entries entry ih =>
      rw [putAll_append, List.reverse_append, List.reverse_singleton, List.singleton_append, get?]
      by_cases hkey : entry.1 = key
      · rw [if_pos hkey, ← hkey, Option.some_or]
        exact get?_put_self _ _ _
      · rw [if_neg hkey, ← ih]
        exact get?_put_of_ne _ _ (Ne.symm hkey)

/-- The value of a key is the last one written. -/
theorem get?_ofEntries (entries : List (Key × Value)) (key : Key) :
    (ofEntries entries).get? key = get? entries.reverse key :=
  (get?_putAll [] entries key).trans Option.or_none

theorem mem_of_get?_eq_some {table : Table Key Value} {key : Key} {value : Value}
    (hget : table.get? key = some value) : (key, value) ∈ table := by
  induction table with
  | nil => simp [get?] at hget
  | cons entry rest ih =>
      rw [get?] at hget
      split at hget
      next hkey =>
        obtain rfl := Option.some.inj hget
        rw [← hkey]
        exact List.mem_cons_self
      next => exact List.mem_cons_of_mem entry (ih hget)

theorem get?_eq_none {table : Table Key Value} {key : Key} (hnew : key ∉ table.keys) :
    table.get? key = none := by
  induction table with
  | nil => rfl
  | cons entry rest ih =>
      obtain ⟨hne, hrest⟩ := List.ne_and_not_mem_of_not_mem_cons hnew
      rw [get?, if_neg (Ne.symm hne)]
      exact ih hrest

/-- A key has a value exactly if it is one of the keys. -/
theorem exists_get?_iff {table : Table Key Value} {key : Key} :
    (∃ value, table.get? key = some value) ↔ key ∈ table.keys := by
  constructor
  · rintro ⟨value, hget⟩
    exact List.mem_map_of_mem (mem_of_get?_eq_some hget)
  · intro hmem
    induction table with
    | nil => nomatch hmem
    | cons entry rest ih =>
        rw [get?]
        split
        next => exact ⟨_, rfl⟩
        next hkey => exact ih ((List.mem_cons.mp hmem).resolve_left (Ne.symm hkey))

theorem get?_eq_none_iff {table : Table Key Value} {key : Key} :
    table.get? key = none ↔ key ∉ table.keys := by
  rw [← exists_get?_iff, Option.eq_none_iff_forall_ne_some, not_exists]

theorem get?_eq_some_of_mem {table : Table Key Value} (hnodup : table.keys.Nodup) {key : Key}
    {value : Value} (hmem : (key, value) ∈ table) : table.get? key = some value := by
  induction table with
  | nil => simp at hmem
  | cons entry rest ih =>
      obtain ⟨hfresh, hnodup⟩ := List.nodup_cons.mp hnodup
      rcases List.mem_cons.mp hmem with rfl | hrest
      · rw [get?, if_pos rfl]
      · have hkey : entry.1 ≠ key := by
          rintro rfl
          exact hfresh (List.mem_map.mpr ⟨_, hrest, rfl⟩)
        rw [get?, if_neg hkey]
        exact ih hnodup hrest

theorem get?_map_value {Other : Type} (content : Value → Other) (table : Table Key Value)
    (key : Key) :
    get? (table.map fun entry => (entry.1, content entry.2)) key =
      (table.get? key).map content := by
  induction table with
  | nil => rfl
  | cons entry rest ih =>
      rw [List.map_cons, get?, get?]
      by_cases hkey : entry.1 = key
      · rw [if_pos hkey, if_pos hkey, Option.map_some]
      · rw [if_neg hkey, if_neg hkey, ih]

/-- The first table that has a key decides. -/
theorem get?_append (first second : Table Key Value) (key : Key) :
    get? (first ++ second) key = (first.get? key).or (second.get? key) := by
  induction first with
  | nil => rfl
  | cons entry rest ih =>
      rw [List.cons_append, get?, get?]
      split
      next => rfl
      next => exact ih

/-- An entry at the end is found if no other has its key. -/
theorem get?_concat {table : Table Key Value} {entry : Key × Value} {key : Key} {value : Value} :
    get? (table ++ [entry]) key = some value ↔
      table.get? key = some value ∨ key ∉ table.keys ∧ entry = (key, value) := by
  have hlast : get? [entry] key = some value ↔ entry = (key, value) := by
    by_cases hkey : entry.1 = key
    · simp [get?, hkey, Prod.ext_iff]
    · simp [get?, hkey, Prod.ext_iff]
  rw [get?_append, Option.or_eq_some_iff, get?_eq_none_iff, hlast]

/-- Two tables with the same keys in order and the same values are the same. -/
theorem eq_of_keys_of_get? {left right : Table Key Value} (hnodup : left.keys.Nodup)
    (hkeys : left.keys = right.keys) (hget : ∀ key, left.get? key = right.get? key) :
    left = right := by
  induction left generalizing right with
  | nil => exact (List.map_eq_nil_iff.mp hkeys.symm).symm
  | cons entry rest ih =>
      cases right with
      | nil => simp [keys] at hkeys
      | cons other others =>
          obtain ⟨hkey, hothers⟩ := List.cons.inj hkeys
          obtain ⟨hfresh, hnodup⟩ := List.nodup_cons.mp hnodup
          have hvalue := hget entry.1
          rw [get?, get?, if_pos rfl, if_pos hkey.symm] at hvalue
          have hentry : entry = other := Prod.ext hkey (Option.some.inj hvalue)
          subst hentry
          rw [ih hnodup hothers]
          intro key
          by_cases hfirst : entry.1 = key
          · have hleft : key ∉ keys rest := hfirst ▸ hfresh
            have hright : key ∉ keys others := fun hmem => hleft (show key ∈ keys rest from
              (show keys rest = keys others from hothers) ▸ hmem)
            rw [get?_eq_none hleft, get?_eq_none hright]
          · have hrest := hget key
            rwa [get?, get?, if_neg hfirst, if_neg hfirst] at hrest

/-- Writing the entries of a table gives the table. -/
theorem ofEntries_eq_self {table : Table Key Value} (hnodup : (keys table).Nodup) :
    ofEntries table = table := by
  induction table using List.reverseRecOn with
  | nil => rfl
  | append_singleton table entry ih =>
      rw [keys, List.map_append, List.nodup_append] at hnodup
      have hnew : entry.1 ∉ keys table := fun hmem =>
        hnodup.2.2 _ hmem _ (List.mem_singleton.mpr rfl) rfl
      rw [ofEntries_concat, ih hnodup.1, put_of_notMem hnew]

/-- The value of a key is the one of its first entry. -/
theorem get?_eq_some_iff {table : Table Key Value} {key : Key} {value : Value} :
    table.get? key = some value ↔
      ∃ before behind, table = before ++ (key, value) :: behind ∧ key ∉ Table.keys before := by
  constructor
  · intro hget
    induction table with
    | nil => nomatch hget
    | cons entry rest ih =>
        rw [get?] at hget
        split at hget
        next hkey =>
          obtain rfl := Option.some.inj hget
          exact ⟨[], rest, by simp [← hkey], by simp [keys]⟩
        next hkey =>
          obtain ⟨before, behind, rfl, hbefore⟩ := ih hget
          exact ⟨entry :: before, behind, rfl, by simpa [keys, Ne.symm hkey] using hbefore⟩
  · rintro ⟨before, behind, rfl, hbefore⟩
    rw [get?_append, get?_eq_none hbefore, Option.none_or, get?, if_pos rfl]

/-- The value of a key is that of the last entry with the key. -/
theorem get?_ofEntries_eq_some_iff {entries : List (Key × Value)} {key : Key} {value : Value} :
    (ofEntries entries).get? key = some value ↔
      ∃ before behind, entries = before ++ (key, value) :: behind ∧ key ∉ Table.keys behind := by
  rw [get?_ofEntries, get?_eq_some_iff]
  constructor
  · rintro ⟨before, behind, hreverse, hbefore⟩
    refine ⟨behind.reverse, before.reverse, ?_, by simpa [keys] using hbefore⟩
    rw [← List.reverse_inj, hreverse]
    simp
  · rintro ⟨before, behind, rfl, hbehind⟩
    exact ⟨behind.reverse, before.reverse, by simp, by simpa [keys] using hbehind⟩

/-- What is found from the end of some entries is found from the end of the table they write. -/
theorem get?_reverse_ofEntries (entries : List (Key × Value)) (key : Key) :
    get? (ofEntries entries).reverse key = get? entries.reverse key := by
  rw [← get?_ofEntries, ← get?_ofEntries, ofEntries_eq_self (nodup_keys_ofEntries entries)]

/-- A table that is written over another one goes before it. -/
theorem get?_putAll_ofEntries (table : Table Key Value) (entries : List (Key × Value))
    (key : Key) :
    (table.putAll (ofEntries entries)).get? key =
      ((ofEntries entries).get? key).or (table.get? key) := by
  rw [get?_putAll, get?_reverse_ofEntries, get?_ofEntries]

omit [DecidableEq Key] in
theorem notMem_keys_filterMap_iff {α : Type} {written? : α → Option (Key × Value)} {items : List α}
    {key : Key} : key ∉ Table.keys (items.filterMap written?) ↔
      ∀ item ∈ items, ∀ value, written? item ≠ some (key, value) := by
  simp only [Table.keys, List.mem_map, List.mem_filterMap, Prod.exists, exists_and_right,
    exists_eq_right]
  constructor
  · intro hnone item hitem value hvalue
    exact hnone ⟨value, item, hitem, hvalue⟩
  · rintro hnone ⟨value, item, hitem, hvalue⟩
    exact hnone item hitem value hvalue

/-- Of the items of a list that write an entry for a key, the last one gives it its value. -/
theorem get?_ofEntries_filterMap_eq_some_iff {α : Type} {written? : α → Option (Key × Value)}
    {items : List α} {key : Key} {value : Value} :
    (ofEntries (items.filterMap written?)).get? key = some value ↔
      ∃ before item behind, items = before ++ item :: behind ∧ written? item = some (key, value) ∧
        ∀ later ∈ behind, ∀ other, written? later ≠ some (key, other) := by
  rw [get?_ofEntries_eq_some_iff]
  constructor
  · rintro ⟨earlier, later, hentries, hlast⟩
    -- the entry comes from an item, and the entries behind it from the items behind that
    obtain ⟨first, second, rfl, -, hsecond⟩ := List.filterMap_eq_append_iff.mp hentries
    obtain ⟨idle, item, behind, rfl, -, hitem, rfl⟩ := List.filterMap_eq_cons_iff.mp hsecond
    exact ⟨first ++ idle, item, behind, by simp, hitem, notMem_keys_filterMap_iff.mp hlast⟩
  · rintro ⟨before, item, behind, rfl, hitem, hlast⟩
    refine ⟨before.filterMap written?, behind.filterMap written?, ?_,
      notMem_keys_filterMap_iff.mpr hlast⟩
    rw [List.filterMap_append, List.filterMap_cons_some hitem]

/-- Writing the table that some entries write is like writing these entries. -/
theorem putAll_ofEntries (first second : List (Key × Value)) :
    (ofEntries first).putAll (ofEntries second) = ofEntries (first ++ second) := by
  have hwhole : (ofEntries first).putAll (ofEntries second) =
      ofEntries (first ++ ofEntries second) := (putAll_append [] first (ofEntries second)).symm
  rw [hwhole]
  refine eq_of_keys_of_get? (nodup_keys_ofEntries _) ?_ fun key => ?_
  · have hkeys : (ofEntries second).map Prod.fst = (second.map Prod.fst).eraseDups :=
      keys_ofEntries second
    rw [keys_ofEntries, keys_ofEntries, List.map_append, List.map_append, hkeys,
      eraseDups_append_eraseDups]
  · rw [get?_ofEntries, get?_ofEntries, List.reverse_append, List.reverse_append, get?_append,
      get?_append, get?_reverse_ofEntries]

theorem get?_map_key (keys : List Key) (value : Key → Value) (key : Key) :
    get? (keys.map fun key => (key, value key)) key =
      if key ∈ keys then some (value key) else none := by
  induction keys with
  | nil => rfl
  | cons first rest ih =>
      rw [List.map_cons, get?]
      by_cases hkey : first = key
      · simp [hkey]
      · simp [hkey, Ne.symm hkey, ih]

/-- Entries whose value depends on their key alone are written once each. -/
theorem ofEntries_map_key (keys : List Key) (value : Key → Value) :
    ofEntries (keys.map fun key => (key, value key)) =
      keys.eraseDups.map fun key => (key, value key) := by
  refine eq_of_keys_of_get? (nodup_keys_ofEntries _) ?_ fun key => ?_
  · rw [keys_ofEntries, Table.keys, List.map_map, List.map_map]
    simp [Function.comp_def]
  · rw [get?_ofEntries, ← List.map_reverse, get?_map_key, get?_map_key]
    simp only [List.mem_reverse, List.mem_eraseDups]

/-- A loop that writes at most one entry for each item writes the entries that it finds. -/
theorem foldlM_eq_mapM {α ε : Type} {step : Table Key Value → α → Except ε (Table Key Value)}
    {found? : α → Except ε (Option (Key × Value))}
    (hstep : ∀ table item,
      step table item = (found? item).map fun found => table.putAll found.toList)
    (items : List α) (table : Table Key Value) :
    items.foldlM step table =
      (items.mapM found?).map fun found => table.putAll (found.filterMap id) := by
  induction items generalizing table with
  | nil => rfl
  | cons item rest ih =>
      rw [List.foldlM_cons, List.mapM_cons, hstep]
      cases found? item with
      | error failure => rfl
      | ok found =>
          change rest.foldlM step (table.putAll found.toList) = _
          rw [ih]
          cases rest.mapM found? with
          | error failure => rfl
          | ok others => cases found <;> rfl

end Table

end Assay
