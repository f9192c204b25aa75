/-! # Tables in order of insertion

A table is a list of entries with different keys. A key that is written again keeps its place
and takes the new value, so the order of a table is the order in which its keys first came.
-/

namespace Assay

abbrev Table (Key Value : Type) := List (Key × Value)

namespace Table

variable {Key Value : Type} [DecidableEq Key]

def get? (table : Table Key Value) (key : Key) : Option Value :=
  match table with
  | [] => none
  | entry :: rest => if entry.1 = key then some entry.2 else get? rest key

/-- Writes an entry: in the place of its key if the table has it, else at the end. -/
def put (table : Table Key Value) (key : Key) (value : Value) : Table Key Value :=
  match table with
  | [] => [(key, value)]
  | entry :: rest => if entry.1 = key then (key, value) :: rest else entry :: put rest key value

def putAll (table : Table Key Value) (entries : List (Key × Value)) : Table Key Value :=
  entries.foldl (fun table entry => table.put entry.1 entry.2) table

def ofEntries (entries : List (Key × Value)) : Table Key Value := putAll [] entries

def keys (table : Table Key Value) : List Key := table.map Prod.fst

@[simp] theorem get?_put_self (table : Table Key Value) (key : Key) (value : Value) :
    (table.put key value).get? key = some value := by
  induction table with
  | nil => simp [put, get?]
  | cons entry rest ih =>
    by_cases hkey : entry.1 = key <;> simp [put, get?, hkey, ih]

theorem get?_put_of_ne (table : Table Key Value) {key other : Key} (value : Value)
    (hne : other ≠ key) : (table.put key value).get? other = table.get? other := by
  induction table with
  | nil => simp [put, get?, hne.symm]
  | cons entry rest ih =>
    by_cases hkey : entry.1 = key
    · subst hkey
      simp [put, get?, hne.symm]
    · simp [put, get?, hkey, ih]

theorem keys_put (table : Table Key Value) (key : Key) (value : Value) :
    (table.put key value).keys = if key ∈ table.keys then table.keys else table.keys ++ [key] := by
  induction table with
  | nil => simp [put, keys]
  | cons entry rest ih =>
    by_cases hkey : entry.1 = key
    · simp [put, keys, hkey]
    · have hne : ¬ key = entry.1 := fun h => hkey h.symm
      simp only [keys] at ih
      by_cases hmem : key ∈ List.map Prod.fst rest <;>
        simp [put, keys, hkey, hne, ih, hmem]

end Table

end Assay
