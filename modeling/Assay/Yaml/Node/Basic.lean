import Assay.Table
import Assay.Yaml.Tag
import Assay.Yaml.Timestamp

/-! # Nodes

The content of a document as a tree of scalars, sequences and mappings with their tags. A node
may have a name, by which it stands in other places of the document too, inside itself as well.
-/

namespace Assay.Yaml

/-- The tag of a plain scalar without a tag. A line feed at the end is disregarded. -/
def Tag.ofPlain (text : List Char) : Tag :=
  let form := if text.getLast? = some '\n' then text.dropLast else text
  if isBoolForm form then .bool
  else if isFloatForm form then .float
  else if isIntForm form then .int
  else if form = ['<', '<'] then .merge
  else if isNullForm form then .null
  else if isTimestampForm form then .timestamp
  else if form = ['='] then .value
  else .str

/-- A node. The place of a collection tells it from all others. -/
inductive Node where
  | scalar (tag : Tag) (text : String)
  | sequence (place : Nat) (tag : Tag) (items : List Node)
  | mapping (place : Nat) (tag : Tag) (entries : List (Node × Node))
  | alias (name : String)

instance : Inhabited Node := ⟨.alias ""⟩

/-- A scalar that is left out. -/
def Node.empty : Node := .scalar .null ""

/-- The content of a document: its root, and the nodes that have names. -/
structure Document where
  root : Node
  named : Table String Node

/-- Where an alias leads, and any other node itself. -/
def Document.follow (document : Document) (node : Node) : Node :=
  match node with
  | .alias name => (document.named.get? name).getD .empty
  | other => other

end Assay.Yaml
