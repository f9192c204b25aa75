import Assay.Pattern.Token
import Assay.Table

/-! # Reading patterns

Alternatives are read as sequences separated by bars, and a sequence as items, some of which
hold alternatives in parentheses. What is found out about captures on the way is kept: how wide
each is once it is closed, and by which name it goes. A refusal that concerns the pattern as a
whole comes after those of its parts. How deep groups stand inside each other is bounded.
-/

namespace Assay.Pattern

/-- What holds for the part of a pattern that is being read. -/
structure Scope where
  ignoreCase : Bool
  multiline : Bool
  dotAll : Bool
  verbose : Bool
  alphabet : Alphabet
  /-- Inside a look behind, the number of captures that were open or closed before it. -/
  fixedCaptures : Option Nat
  /-- The levels that may still be entered. -/
  allowed : Nat
  deriving DecidableEq

/-- The levels of a pattern that may be entered at once. -/
def levelLimit : Nat := 980

def Scope.initial : Scope := ⟨false, false, false, false, .unicode, none, levelLimit⟩

/-- The scope some levels further in. The alternatives of a group are one level, and the items of
an alternative are another. -/
def Scope.enter (scope : Scope) (levels : Nat) : Except Refusal Scope :=
  if scope.allowed < levels then .error .tooDeep
  else .ok { scope with allowed := scope.allowed - levels }

def Scope.add (scope : Scope) : Setting → Scope
  | .ignoreCase => { scope with ignoreCase := true }
  | .multiline => { scope with multiline := true }
  | .dotAll => { scope with dotAll := true }
  | .verbose => { scope with verbose := true }
  | .ascii => { scope with alphabet := .ascii }
  | .unicode => { scope with alphabet := .unicode }
  | .template => scope

def Scope.remove (scope : Scope) : Setting → Scope
  | .ignoreCase => { scope with ignoreCase := false }
  | .multiline => { scope with multiline := false }
  | .dotAll => { scope with dotAll := false }
  | .verbose => { scope with verbose := false }
  | _ => scope

/-- What has been found out about a pattern so far. Capture zero is the whole match. -/
structure Findings where
  /-- The width of each capture, once it is closed. -/
  widths : List (Option Width)
  names : Table String Nat
  /-- The greatest number to which a condition refers. -/
  greatestCondition : Nat
  /-- Whether some look behind has no fixed width. -/
  looseLookBehind : Bool
  /-- Whether something is repeated. -/
  repeats : Bool

/-- What is known before a pattern is read. -/
def Findings.initial : Findings := ⟨[none], [], 0, false, false⟩

/-- The number of captures, the whole match included. -/
def Findings.captures (findings : Findings) : Nat := findings.widths.length

def Findings.isClosed (findings : Findings) (capture : Nat) : Bool :=
  (findings.widths[capture]?.join).isSome

def Findings.openCapture (findings : Findings) (name : Option String) :
    Except Refusal (Nat × Findings) :=
  let capture := findings.captures
  let opened := { findings with widths := findings.widths ++ [none] }
  match name with
  | none => .ok (capture, opened)
  | some name =>
    if (findings.names.get? name).isSome then .error .malformed
    else .ok (capture, { opened with names := opened.names.put name capture })

def Findings.closeCapture (findings : Findings) (capture : Nat) (body : Node) : Findings :=
  { findings with
    widths := findings.widths.set capture (some (body.width findings.widths)) }

/-- Whether a scope allows a reference to a capture: inside a look behind the capture must have
been closed before it. -/
def allowsReference (scope : Scope) (findings : Findings) (capture : Nat) : Bool :=
  match scope.fixedCaptures with
  | none => true
  | some fixed => findings.isClosed capture && capture < fixed

def readReference (scope : Scope) (findings : Findings) (capture : Nat) : Except Refusal Node :=
  if findings.isClosed capture && allowsReference scope findings capture then
    .ok (.backreference capture scope.ignoreCase scope.alphabet)
  else
    .error .malformed

/-- A character as it stands in a scope. -/
def literalNode (scope : Scope) (code : Nat) : Node :=
  .char (.literal scope.ignoreCase scope.alphabet false code)

/-- The anchors that are written with a backslash. -/
def escapedAnchor? (alphabet : Alphabet) : Char → Option Anchor
  | 'A' => some .textStart
  | 'Z' => some .textEnd
  | 'b' => some (.wordBoundary alphabet false)
  | 'B' => some (.wordBoundary alphabet true)
  | _ => none

/-- A number behind a backslash: three octal digits are a character, otherwise the one or two
digits refer to a capture. -/
def readNumberEscape (scope : Scope) (findings : Findings) (first : Char) (rest : List Token) :
    Scan Node :=
  let reference (digits : List Char) (rest : List Token) : Scan Node :=
    (readReference scope findings (Number.ofDigits digits)).map (·, rest)
  match rest with
  | .plain second :: behind =>
    if second.isDigit then
      match behind with
      | .plain third :: behind' =>
        if isOctal first && isOctal second && isOctal third then
          let code := ofOctal [first, second, third]
          if 0o377 < code then .error .malformed else .ok (literalNode scope code, behind')
        else
          reference [first, second] behind
      | _ => reference [first, second] behind
    else
      reference [first] rest
  | _ => reference [first] rest

/-- An escape outside a set of characters. -/
def readEscape (scope : Scope) (findings : Findings) (letter : Char) (rest : List Token) :
    Scan Node :=
  match escapedAnchor? scope.alphabet letter, classEscape? letter, letterEscape? letter with
  | some anchor, _, _ => .ok (.anchor anchor, rest)
  | none, some item, _ =>
    .ok (.char (.oneOf scope.ignoreCase scope.alphabet false [item]), rest)
  | none, none, some code => .ok (literalNode scope code, rest)
  | none, none, none =>
    if letter = '0' then
      let (others, rest) := takeChars isOctal 2 rest
      .ok (literalNode scope (ofOctal others), rest)
    else if letter.isDigit then
      readNumberEscape scope findings letter rest
    else
      (readCodeEscape letter rest).map fun (code, rest) => (literalNode scope code, rest)

/-- What stands behind an opening parenthesis. -/
inductive GroupHead where
  | capture (name : Option String)
  | settings (group : SettingGroup)
  | plain
  | atomic
  | comment
  | look (behind negated : Bool)
  | reference (name : String)
  | conditional (name : List Char)

def readCaptureName (terminator : Char) (input : List Token) : Scan String :=
  match readUntil terminator input with
  | .error refusal => .error refusal
  | .ok (name, rest) =>
    if Text.isIdentifier name then .ok (String.ofList name, rest) else .error .malformed

/-- Reads what stands behind an opening parenthesis, up to the contents of the group. A comment
and a reference by name are read with their closing parenthesis. -/
def readGroupHead (input : List Token) : Scan GroupHead :=
  match input with
  | .plain '?' :: .plain 'P' :: .plain '<' :: rest =>
    (readCaptureName '>' rest).map fun (name, rest) => (.capture (some name), rest)
  | .plain '?' :: .plain 'P' :: .plain '=' :: rest =>
    (readCaptureName ')' rest).map fun (name, rest) => (.reference name, rest)
  | .plain '?' :: .plain ':' :: rest => .ok (.plain, rest)
  | .plain '?' :: .plain '>' :: rest => .ok (.atomic, rest)
  | .plain '?' :: .plain '#' :: rest => match untilChar ')' rest with
    | some (_, rest) => .ok (.comment, rest)
    | none => .error .malformed
  | .plain '?' :: .plain '=' :: rest => .ok (.look false false, rest)
  | .plain '?' :: .plain '!' :: rest => .ok (.look false true, rest)
  | .plain '?' :: .plain '<' :: .plain '=' :: rest => .ok (.look true false, rest)
  | .plain '?' :: .plain '<' :: .plain '!' :: rest => .ok (.look true true, rest)
  | .plain '?' :: .plain '(' :: rest =>
    (readUntil ')' rest).map fun (name, rest) => (.conditional name, rest)
  | .plain '?' :: rest =>
    (readSettings rest).map fun (group, rest) => (.settings group, rest)
  | rest => .ok (.capture none, rest)

/-- The capture to which a condition refers. A number may lie beyond the captures so far. -/
def readCondition (scope : Scope) (findings : Findings) (name : List Char) :
    Except Refusal (Nat × Findings) :=
  let checked (capture : Nat) (findings : Findings) : Except Refusal (Nat × Findings) :=
    if allowsReference scope findings capture then .ok (capture, findings) else .error .malformed
  if Text.isIdentifier name then
    match findings.names.get? (String.ofList name) with
    | some capture => checked capture findings
    | none => .error .malformed
  else
    match Number.readInteger name with
    | .ok number =>
      if number ≤ 0 then .error .malformed
      else
        let capture := number.toNat
        checked capture
          { findings with greatestCondition := max findings.greatestCondition capture }
    | .error _ => .error .malformed

/-- Whether a character is skipped between the items of a verbose pattern. -/
def isVerboseBlank (c : Char) : Bool := c = ' ' || (0x9 ≤ c.toNat && c.toNat ≤ 0xD)

/-- The tokens behind the line on which a comment of a verbose pattern stands. -/
def behindLine : List Token → List Token
  | [] => []
  | .plain '\n' :: rest => rest
  | .dangling :: rest => .dangling :: rest
  | _ :: rest => behindLine rest

/-- A repetition of the last item of a reversed sequence. An anchor and a repetition cannot be
repeated. -/
def repeatLast (least : Nat) (most : Option Nat) (eagerness : Eagerness) :
    List Node → Except Refusal (List Node)
  | [] | .anchor _ :: _ | .repeated .. :: _ => .error .malformed
  | item :: before => .ok (.repeated least most eagerness item :: before)

/-- An item that starts with a character and holds no other items. -/
def readItem (scope : Scope) (c : Char) (behind : List Token) : Scan Node :=
  match c with
  | '[' => (readSet scope.ignoreCase scope.alphabet behind).map fun (test, rest) =>
      (.char test, rest)
  | '.' => .ok (.char (.anyChar scope.dotAll), behind)
  | '^' => .ok (.anchor (if scope.multiline then .lineStart else .textStart), behind)
  | '$' => .ok (.anchor (if scope.multiline then .lineEnd else .lastLineEnd), behind)
  | c => .ok (literalNode scope c.toNat, behind)

/-- The tokens that are left, which must be fewer than before. -/
abbrev Fewer (input : List Token) : Type := { rest : List Token // rest.length < input.length }

/-- The tokens that are left, which must not be more than before. -/
abbrev NotMore (input : List Token) : Type := { rest : List Token // rest.length ≤ input.length }

/-- Takes a rest as shorter than what it is left of. Every reader here leaves such a rest. -/
def fewer (input rest : List Token) : Except Refusal (Fewer input) :=
  if hrest : rest.length < input.length then .ok ⟨rest, hrest⟩ else .error .malformed

def closing (input : List Token) : Except Refusal (Fewer input) :=
  match input with
  | .plain ')' :: rest => .ok ⟨rest, Nat.lt_succ_self _⟩
  | _ => .error .malformed

/-- A reader of fewer tokens comes before another one, whatever the ranks of the two. -/
theorem measure_lt_of_length_lt {fewer more rank other : Nat} (hlength : fewer < more)
    (hrank : rank < 3) : 3 * fewer + rank < 3 * more + other := by omega

/-- Of two readers of which the second has no fewer tokens, the one of a lower rank comes first. -/
theorem measure_lt_of_rank_lt {fewer more rank other : Nat} (hlength : fewer ≤ more)
    (hrank : rank < other) : 3 * fewer + rank < 3 * more + other := by omega

mutual

/-- Alternatives up to the end of their group. -/
def readChoices (scope : Scope) (findings : Findings) (input : List Token) :
    Except Refusal (Node × Findings × NotMore input) := do
  let (first, findings, ⟨rest, hrest⟩) ← readItems scope findings [] input
  match hnext : rest with
  | .plain '|' :: others =>
    have hothers : others.length < input.length := by
      rw [hnext] at hrest
      exact Nat.lt_of_succ_le hrest
    let (second, findings, ⟨rest, hsecond⟩) ← readChoices scope findings others
    return (.choice first second, findings, ⟨rest, by omega⟩)
  | _ => return (first, findings, ⟨rest, hrest⟩)
termination_by 3 * input.length + 1
decreasing_by
  · exact measure_lt_of_rank_lt (Nat.le_refl _) (by decide)
  · exact measure_lt_of_length_lt hothers (by decide)

/-- The items of a sequence, after those already read in reverse order. -/
def readItems (scope : Scope) (findings : Findings) (done : List Node) (input : List Token) :
    Except Refusal (Node × Findings × NotMore input) :=
  match input with
  | [] => .ok (.ofSequence done.reverse, findings, ⟨[], Nat.le_refl _⟩)
  | .dangling :: _ => .error .malformed
  | .escaped letter :: behind => do
    let (node, rest) ← readEscape scope findings letter behind
    let ⟨rest, hrest⟩ ← fewer (.escaped letter :: behind) rest
    have hbehind : rest.length ≤ behind.length := Nat.le_of_lt_succ hrest
    let (node, findings, ⟨rest, hle⟩) ← readItems scope findings (node :: done) rest
    return (node, findings, ⟨rest, by omega⟩)
  | .plain c :: behind =>
    if c = '|' || c = ')' then
      .ok (.ofSequence done.reverse, findings, ⟨.plain c :: behind, Nat.le_refl _⟩)
    else if scope.verbose && isVerboseBlank c then do
      let (node, findings, ⟨rest, hle⟩) ← readItems scope findings done behind
      return (node, findings, ⟨rest, Nat.le_succ_of_le hle⟩)
    else if scope.verbose && c = '#' then do
      let ⟨rest, hrest⟩ ← fewer (.plain c :: behind) (behindLine behind)
      have hbehind : rest.length ≤ behind.length := Nat.le_of_lt_succ hrest
      let (node, findings, ⟨rest, hle⟩) ← readItems scope findings done rest
      return (node, findings, ⟨rest, by omega⟩)
    else if c = '(' then do
      let (node, findings, ⟨rest, hrest⟩) ← readGroup scope findings behind
      have hshorter : rest.length < (Token.plain c :: behind).length := Nat.lt_succ_of_le hrest
      let (node, findings, ⟨rest, hle⟩) ←
        readItems scope findings (node.toList ++ done) rest
      return (node, findings, ⟨rest, by omega⟩)
    else do
      match ← readBounds? (.plain c :: behind) with
      | some (least, most, rest) =>
        let done ← repeatLast least most (readEagerness rest).1 done
        let ⟨rest, hrest⟩ ← fewer (.plain c :: behind) (readEagerness rest).2
        have hbehind : rest.length ≤ behind.length := Nat.le_of_lt_succ hrest
        let (node, findings, ⟨rest, hle⟩) ←
          readItems scope { findings with repeats := true } done rest
        return (node, findings, ⟨rest, by omega⟩)
      | none =>
        let (node, rest) ← readItem scope c behind
        let ⟨rest, hrest⟩ ← fewer (.plain c :: behind) rest
        have hbehind : rest.length ≤ behind.length := Nat.le_of_lt_succ hrest
        let (node, findings, ⟨rest, hle⟩) ← readItems scope findings (node :: done) rest
        return (node, findings, ⟨rest, by omega⟩)
termination_by 3 * input.length + 0
decreasing_by
  · exact measure_lt_of_length_lt hrest (by decide)
  · exact measure_lt_of_length_lt (Nat.lt_succ_self _) (by decide)
  · exact measure_lt_of_length_lt hrest (by decide)
  · exact measure_lt_of_length_lt (Nat.lt_succ_self _) (by decide)
  · exact measure_lt_of_length_lt hshorter (by decide)
  · exact measure_lt_of_length_lt hrest (by decide)
  · exact measure_lt_of_length_lt hrest (by decide)

/-- A group behind its opening parenthesis, up to the closing one. A comment gives no item, and
settings for the whole pattern are refused, since they may only open it. -/
def readGroup (scope : Scope) (findings : Findings) (input : List Token) :
    Except Refusal (Option Node × Findings × NotMore input) := do
  let (head, rest) ← readGroupHead input
  if hrest : rest.length ≤ input.length then
    match head with
    | .comment => return (none, findings, ⟨rest, hrest⟩)
    | .settings (.global _) => .error .malformed
    | .reference name => match findings.names.get? name with
      | some capture =>
        let node ← readReference scope findings capture
        return (some node, findings, ⟨rest, hrest⟩)
      | none => .error .malformed
    | .look behind negated =>
      let inner := if behind && scope.fixedCaptures.isNone then
        { scope with fixedCaptures := some findings.captures } else scope
      let inner ← inner.enter 2
      let (body, findings, ⟨rest, hbody⟩) ← readChoices inner findings rest
      let ⟨rest, hclosed⟩ ← closing rest
      let width := body.width findings.widths
      let loose := behind && (unbounded < width.least || width.least != width.most)
      let findings :=
        { findings with looseLookBehind := findings.looseLookBehind || loose }
      let distance := if behind then some width.least else none
      return (some (.look distance negated body), findings, ⟨rest, by omega⟩)
    | .conditional name =>
      let (capture, findings) ← readCondition scope findings name
      let inner ← scope.enter 1
      let (present, findings, ⟨rest, hpresent⟩) ← readItems inner findings [] rest
      match hnext : rest with
      | .plain '|' :: others =>
        have hothers : others.length < input.length := by
          rw [hnext, List.length_cons] at hpresent
          omega
        let (absent, findings, ⟨rest, habsent⟩) ← readItems inner findings [] others
        let ⟨rest, hclosed⟩ ← closing rest
        return (some (.conditional capture present absent), findings, ⟨rest, by omega⟩)
      | _ =>
        let ⟨rest, hclosed⟩ ← closing rest
        return (some (.conditional capture present .empty), findings, ⟨rest, by omega⟩)
    | .capture name =>
      let (capture, findings) ← findings.openCapture name
      let inner ← scope.enter 2
      let (body, findings, ⟨rest, hbody⟩) ← readChoices inner findings rest
      let ⟨rest, hclosed⟩ ← closing rest
      return (some (.group (some capture) body), findings.closeCapture capture body,
        ⟨rest, by omega⟩)
    | .settings (.scoped added removed) =>
      let inner ← (removed.foldl Scope.remove (added.foldl Scope.add scope)).enter 2
      let (body, findings, ⟨rest, hbody⟩) ← readChoices inner findings rest
      let ⟨rest, hclosed⟩ ← closing rest
      return (some (.group none body), findings, ⟨rest, by omega⟩)
    | .plain =>
      let inner ← scope.enter 2
      let (body, findings, ⟨rest, hbody⟩) ← readChoices inner findings rest
      let ⟨rest, hclosed⟩ ← closing rest
      return (some (.group none body), findings, ⟨rest, by omega⟩)
    | .atomic =>
      let inner ← scope.enter 2
      let (body, findings, ⟨rest, hbody⟩) ← readChoices inner findings rest
      let ⟨rest, hclosed⟩ ← closing rest
      return (some (.atomic body), findings, ⟨rest, by omega⟩)
  else
    .error .malformed
termination_by 3 * input.length + 2
decreasing_by
  · exact measure_lt_of_rank_lt hrest (by decide)
  · exact measure_lt_of_rank_lt hrest (by decide)
  · exact measure_lt_of_length_lt hothers (by decide)
  all_goals exact measure_lt_of_rank_lt hrest (by decide)

end

/-- The settings that open a pattern, with the comments and the verbose blanks between them. The
bound is on the number of these. -/
def readOpening : (bound : Nat) → Scope → List Setting → List Token →
    Except Refusal (Scope × List Setting × List Token)
  | 0, scope, made, input => .ok (scope, made, input)
  | bound + 1, scope, made, input =>
    match input with
    | .plain '(' :: rest => match readGroupHead rest with
      | .ok (.settings (.global added), rest) =>
        readOpening bound (added.foldl Scope.add scope) (made ++ added) rest
      | .ok (.comment, rest) => readOpening bound scope made rest
      | _ => .ok (scope, made, input)
    | .plain c :: rest =>
      if scope.verbose && isVerboseBlank c then readOpening bound scope made rest
      else if scope.verbose && c = '#' then readOpening bound scope made (behindLine rest)
      else .ok (scope, made, input)
    | _ => .ok (scope, made, input)

def compile (text : String) : Except Refusal Program := do
  let input := tokens text.toList
  let (scope, made, rest) ← readOpening input.length Scope.initial [] input
  let (root, findings, ⟨rest, _⟩) ← readChoices scope Findings.initial rest
  if made.contains .ascii && made.contains .unicode then
    .error .incompatibleAlphabets
  else if !rest.isEmpty || findings.captures ≤ findings.greatestCondition ||
      findings.looseLookBehind || (made.contains .template && findings.repeats) then
    .error .malformed
  else
    return ⟨root, findings.captures - 1⟩

end Assay.Pattern
