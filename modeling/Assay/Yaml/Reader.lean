import Assay.Yaml.Node.Reader
import Assay.Yaml.Scalar

/-! # From nodes to data

Collections are looked into one after the other, first the outermost, then those in it, and so
on: of several faults the one in the least depth is told, and of those the first. A mapping takes
over the entries of the mappings that are merged into it, unless it has an entry with the same
key. An alias stands for a copy of its node. A collection that contains itself is unrolled some
way down, far enough for whoever looks at the first few levels.
-/

namespace Assay.Yaml

/-- A result, or a fault with the depth in which it was met. -/
abbrev Graded (α : Type) := Except (Nat × Fault) α

/-- Two results in one. Of two faults the one in the lesser depth is told, else the first. -/
def both {α β γ : Type} (combine : α → β → γ) : Graded α → Graded β → Graded γ
  | .ok first, .ok second => .ok (combine first second)
  | .error fault, .ok _ => .error fault
  | .ok _, .error fault => .error fault
  | .error first, .error second => .error (if second.1 < first.1 then second else first)

/-- Several results in one. -/
def all {α : Type} : List (Graded α) → Graded (List α)
  | [] => .ok []
  | result :: rest => both List.cons result (all rest)

def inDepth {α : Type} (depth : Nat) (result : Except Fault α) : Graded α :=
  result.mapError (depth, ·)

/-- How often a collection that contains itself is unrolled. -/
def unrolling : Nat := 6

namespace Document

def scalarTag? (document : Document) (node : Node) : Option Tag :=
  match document.follow node with
  | .scalar tag _ => some tag
  | _ => none

/-- The places of the collections in a node, through aliases that have not been followed. -/
def placesIn (document : Document) (followed : List String) (node : Node) : Nat → List Nat
  | 0 => []
  | rounds + 1 =>
    match node with
    | .scalar .. => []
    | .sequence place _ items =>
      place :: items.flatMap fun item => placesIn document followed item rounds
    | .mapping place _ entries =>
      place :: entries.flatMap fun entry =>
        placesIn document followed entry.1 rounds ++ placesIn document followed entry.2 rounds
    | .alias name =>
      if followed.contains name then []
      else placesIn document (name :: followed) (document.follow node) rounds

def children : Node → List Node
  | .sequence _ _ items => items
  | .mapping _ _ entries => entries.flatMap fun entry => [entry.1, entry.2]
  | _ => []

/-- Whether a collection in some place contains itself. -/
def isKnot (document : Document) (place : Nat) (node : Node) (rounds : Nat) : Bool :=
  !document.named.isEmpty &&
    (children node).any fun child => (document.placesIn [] child rounds).contains place

/-- The entries of a mapping behind those that are merged into it. A mapping that is being merged
already adds its own entries only. -/
def merged (document : Document) (merging : List Nat) (entries : List (Node × Node)) :
    Nat → Except Fault (List (Node × Node))
  | 0 => .error .malformed
  | rounds + 1 => do
    let isMerge (entry : Node × Node) := document.scalarTag? entry.1 = some .merge
    let own := entries.filter fun entry => !isMerge entry
    let added ← (entries.filter isMerge).mapM fun entry => do
      let mapping (node : Node) : Except Fault (List (Node × Node)) :=
        match document.follow node with
        | .mapping place _ others =>
          if merging.contains place then .ok (others.filter fun entry => !isMerge entry)
          else merged document (place :: merging) others rounds
        | _ => .error .malformed
      match document.follow entry.2 with
      | .sequence _ _ nodes => return (← nodes.mapM mapping).reverse.flatten
      | node => mapping node
    return added.flatten ++ own

/-- A key, where the mark of a default value is an ordinary text. -/
def keyNode (document : Document) (node : Node) : Node :=
  match document.follow node with
  | .scalar .value text => .scalar .str text
  | _ => node

/-- The text of a node where a scalar is expected. A mapping may give one as its default value. -/
def scalarText? (document : Document) (node : Node) : Nat → Option String
  | 0 => none
  | rounds + 1 =>
    match document.follow node with
    | .scalar _ text => some text
    | .mapping _ _ entries =>
      (entries.find? fun entry => document.scalarTag? entry.1 = some .value).bind fun entry =>
        scalarText? document entry.2 rounds
    | _ => none

def onlyEntry? (document : Document) (node : Node) : Option (Node × Node) :=
  match document.follow node with
  | .mapping _ _ [entry] => some entry
  | _ => none

/-- What is read inside a document stays inside these collections, and this deep. -/
structure Surroundings where
  /-- The collections around that contain themselves. -/
  knots : List Nat := []
  depth : Nat := 0

/-- The surroundings of the parts of a collection. -/
def Surroundings.inside (surroundings : Surroundings) (knot : Option Nat) : Surroundings :=
  ⟨knot.toList ++ surroundings.knots, surroundings.depth + 1⟩

def fitKey (depth : Nat) : Graded Datum → Graded Datum
  | .ok key => if key.isKey then .ok key else .error (depth, .malformed)
  | .error fault => .error fault

abbrev PartReader := Surroundings → Node → Graded Datum

/-- An entry of a mapping. -/
def pairOf (document : Document) (readPart : PartReader) (inside : Surroundings)
    (entry : Node × Node) : Graded (Datum × Datum) :=
  both Prod.mk (fitKey inside.depth (readPart inside (document.keyNode entry.1)))
    (readPart inside entry.2)

/-- The entries of a mapping, behind those that are merged into it. -/
def entriesOf (document : Document) (readPart : PartReader) (rounds : Nat)
    (inside : Surroundings) : Node → Graded (List (Datum × Datum))
  | .mapping place _ entries =>
    match document.merged [place] entries rounds with
    | .error fault => .error (inside.depth, fault)
    | .ok entries => all (entries.map (document.pairOf readPart inside))
  | _ => .error (inside.depth, .malformed)

def itemsOf (inside : Surroundings) (readItem : Node → Graded Datum) : Node → Graded Datum
  | .sequence _ _ items => (all (items.map readItem)).map .list
  | _ => .error (inside.depth, .malformed)

/-- The only entry of an item. -/
def onlyPair (document : Document) (readPart : PartReader) (inside : Surroundings)
    (item : Node) : Graded Datum :=
  match document.onlyEntry? item with
  | none => .error (inside.depth, .malformed)
  | some entry => both .pair (readPart inside entry.1) (readPart inside entry.2)

/-- A collection, which may contain itself. -/
def collection (document : Document) (rounds : Nat) (surroundings : Surroundings) (node : Node)
    (place : Nat) (empty : Datum) (readInside : Surroundings → Graded Datum) : Graded Datum :=
  if document.isKnot place node rounds then
    if unrolling ≤ surroundings.knots.count place then .ok (.knot place empty)
    else (readInside (surroundings.inside (some place))).map (.knot place)
  else readInside (surroundings.inside none)

/-- A scalar, or a mapping where a scalar is expected. -/
def scalarOf (document : Document) (rounds : Nat) (surroundings : Surroundings) (node : Node)
    (tag : Tag) : Graded Datum :=
  if tag.isScalar then
    match document.scalarText? node rounds with
    | none => .error (surroundings.depth, .malformed)
    | some text => inDepth surroundings.depth (readScalar tag text)
  else .error (surroundings.depth, .malformed)

/-- What a tag makes of a node. -/
def ofTag (document : Document) (readPart : PartReader) (rounds : Nat)
    (surroundings : Surroundings) (node : Node) (place : Nat) : Tag → Graded Datum
  | .seq => document.collection rounds surroundings node place (.list []) fun inside =>
      itemsOf inside (readPart inside) node
  | .omap | .pairs => document.collection rounds surroundings node place (.list []) fun inside =>
      itemsOf inside (document.onlyPair readPart inside) node
  | .map => document.collection rounds surroundings node place (.map []) fun inside =>
      (document.entriesOf readPart rounds inside node).map fun entries =>
        .map (entries.foldl (fun known entry => Datum.putEntry known entry.1 entry.2) [])
  | .set => (document.entriesOf readPart rounds (surroundings.inside none) node).map fun entries =>
      .set (entries.foldl (fun members entry => Datum.addMember members entry.1) [])
  | tag => document.scalarOf rounds surroundings node tag

def datum (document : Document) (surroundings : Surroundings) (node : Node) : Nat → Graded Datum
  | 0 => .error (surroundings.depth, .malformed)
  | rounds + 1 =>
    let found := document.follow node
    let read := document.ofTag (fun inside part => datum document inside part rounds) rounds
      surroundings found
    match found with
    | .scalar tag _ => read 0 tag
    | .sequence place tag _ | .mapping place tag _ => read place tag
    | .alias _ => .error (surroundings.depth, .malformed)

end Document

/-- The datum of a YAML text. A text without a document is null. -/
def read (text : String) : Except Fault Datum := do
  match ← Document.ofTokens (tokens text) with
  | none => return .null
  | some document =>
    let rounds := (unrolling + 2) * text.length + 8
    (document.datum {} document.root rounds).mapError Prod.snd

end Assay.Yaml
