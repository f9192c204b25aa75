import Assay.Pattern.CharSet

/-! # Patterns

The tree of a regular expression. Every setting that the text of a pattern can make is resolved
in the tree: each character test carries its way to compare, and each anchor its meaning.
-/

namespace Assay.Pattern

/-- A condition on a place in a text. -/
inductive Anchor where
  | textStart
  | textEnd
  | lastLineEnd
  | lineStart
  | lineEnd
  | wordBoundary (alphabet : Alphabet) (negated : Bool)
  deriving DecidableEq

/-- Which number of repetitions is tried first, and whether others are tried at all. -/
inductive Eagerness where
  | greedy
  | lazy
  | possessive
  deriving DecidableEq

/-- A pattern. A bound of `none` on repetitions is no bound. A look behind starts a fixed number
of characters before the place. -/
inductive Node where
  | empty
  | char (test : CharTest)
  | anchor (condition : Anchor)
  | sequence (first second : Node)
  | choice (first second : Node)
  | group (capture : Option Nat) (body : Node)
  | repeated (least : Nat) (most : Option Nat) (eagerness : Eagerness) (body : Node)
  | atomic (body : Node)
  | look (behind : Option Nat) (negated : Bool) (body : Node)
  | backreference (capture : Nat) (ignoreCase : Bool) (alphabet : Alphabet)
  | conditional (capture : Nat) (present absent : Node)
  deriving DecidableEq

namespace Node

def ofSequence : List Node → Node
  | [] => empty
  | [node] => node
  | node :: rest => sequence node (ofSequence rest)

end Node

/-- The least and the greatest number of characters that a pattern takes. -/
structure Width where
  least : Nat
  most : Nat
  deriving DecidableEq

/-- From this size on widths are not told apart. -/
def widthLimit : Nat := Nat.pow 2 64

/-- The number of repetitions that stands for no bound. -/
def unbounded : Nat := Nat.pow 2 32 - 1

def Width.capped (width : Width) : Width := ⟨min width.least widthLimit, min width.most widthLimit⟩

/-- The width of a pattern, given the widths of the captures that it may refer to. -/
def Node.width (captures : List (Option Width)) : Node → Width
  | .empty | .anchor _ | .look .. => ⟨0, 0⟩
  | .char _ => ⟨1, 1⟩
  | .sequence first second =>
    let left := first.width captures
    let right := second.width captures
    Width.capped ⟨left.least + right.least, left.most + right.most⟩
  | .choice first second =>
    let left := first.width captures
    let right := second.width captures
    ⟨min left.least right.least, max left.most right.most⟩
  | .group _ body | .atomic body => body.width captures
  | .repeated least most _ body =>
    let inner := body.width captures
    let greatest := match most with
      | none => if inner.most = 0 then 0 else widthLimit
      | some bound => inner.most * bound
    Width.capped ⟨inner.least * least, greatest⟩
  | .backreference capture _ _ => (captures[capture]?.join).getD ⟨0, 0⟩
  | .conditional _ present absent =>
    let left := present.width captures
    let right := absent.width captures
    ⟨min left.least right.least, max left.most right.most⟩

/-- A compiled pattern: its tree and the number of its captures. -/
structure Program where
  root : Node
  captures : Nat
  deriving DecidableEq

end Assay.Pattern
