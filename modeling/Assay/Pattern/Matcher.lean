import Assay.Pattern.Reader

/-! # Matching

A pattern is matched by backtracking: a node is given a place, the captures made so far and a
continuation, and succeeds with the first way to go on that the continuation accepts. Captures
made on a way that is given up are forgotten. A repetition stops when a round beyond the least
number of rounds starts where the one before it started, so every search ends.
-/

namespace Assay.Pattern

/-- The places where each capture was last opened and last closed. -/
structure Captures where
  starts : Array (Option Nat)
  stops : Array (Option Nat)

/-- No captures, for a pattern with a given number of them. -/
def Captures.none (count : Nat) : Captures :=
  ⟨Array.replicate (count + 1) .none, Array.replicate (count + 1) .none⟩

def Captures.span? (captures : Captures) (capture : Nat) : Option (Nat × Nat) :=
  match captures.starts[capture]?.join, captures.stops[capture]?.join with
  | some start, some stop => if start ≤ stop then some (start, stop) else .none
  | _, _ => .none

def Captures.opened (captures : Captures) (capture place : Nat) : Captures :=
  { captures with starts := captures.starts.setIfInBounds capture (some place) }

def Captures.closed (captures : Captures) (capture place : Nat) : Captures :=
  { captures with stops := captures.stops.setIfInBounds capture (some place) }

/-- Where a match ends, and its captures. -/
abbrev Found : Type := Nat × Captures

/-- What is to be matched behind a node. -/
abbrev Continuation : Type := Nat → Captures → Option Found

/-- A matcher: from a place and captures to the first way on which the continuation succeeds. -/
abbrev Matcher : Type := Nat → Captures → Continuation → Option Found

/-- Whether the character before or behind a place belongs to a word. -/
def isWordAt (alphabet : Alphabet) (text : Array Char) (place : Nat) : Bool :=
  match text[place]? with
  | some c => ClassName.word.holds alphabet c
  | none => false

/-- Whether words start or end at a place. The empty text has neither such places nor others. -/
def boundaryHolds (alphabet : Alphabet) (negated : Bool) (text : Array Char) (place : Nat) :
    Bool :=
  let before := 0 < place && isWordAt alphabet text (place - 1)
  let behind := isWordAt alphabet text place
  !text.isEmpty && ((before != behind) != negated)

def Anchor.holds (text : Array Char) (place : Nat) : Anchor → Bool
  | textStart => place = 0
  | textEnd => place = text.size
  | lastLineEnd =>
    place = text.size || (place + 1 = text.size && text[place]? = some '\n')
  | lineStart => place = 0 || text[place - 1]? = some '\n'
  | lineEnd => place = text.size || text[place]? = some '\n'
  | wordBoundary alphabet negated => boundaryHolds alphabet negated text place

/-- Whether two characters are the same to a backreference. -/
def sameChar (ignoreCase : Bool) (alphabet : Alphabet) (left right : Char) : Bool :=
  if ignoreCase then lowerCode alphabet left.toNat = lowerCode alphabet right.toNat
  else left = right

def slice (text : Array Char) (start stop : Nat) : List Char :=
  (text.toList.drop start).take (stop - start)

def repeatsAt (same : Char → Char → Bool) (text : Array Char) : List Char → Nat → Bool
  | [], _ => true
  | c :: rest, place =>
    match text[place]? with
    | some other => same c other && repeatsAt same text rest (place + 1)
    | none => false

/-- Whether another round may follow the given number of them. -/
def mayGoOn (most : Option Nat) (rounds : Nat) : Bool :=
  match most with
  | some bound => rounds < bound
  | none => true

/-- As many rounds as possible, fewer when the continuation fails. `last` is where the last round
beyond the least number started. The first argument bounds the rounds. -/
def greedyRounds (round : Matcher) (least : Nat) (most : Option Nat) :
    Nat → (rounds : Nat) → (last : Option Nat) → Matcher
  | 0, _, _, place, captures, next => next place captures
  | bound + 1, rounds, last, place, captures, next =>
    if rounds < least then
      round place captures fun place captures =>
        greedyRounds round least most bound (rounds + 1) last place captures next
    else if mayGoOn most rounds && last ≠ some place then
      match round place captures fun place' captures =>
          greedyRounds round least most bound (rounds + 1) (some place) place' captures next with
      | some found => some found
      | none => next place captures
    else
      next place captures

/-- As few rounds as possible, more when the continuation fails. -/
def lazyRounds (round : Matcher) (least : Nat) (most : Option Nat) :
    Nat → (rounds : Nat) → (last : Option Nat) → Matcher
  | 0, _, _, place, captures, next => next place captures
  | bound + 1, rounds, last, place, captures, next =>
    if rounds < least then
      round place captures fun place captures =>
        lazyRounds round least most bound (rounds + 1) last place captures next
    else
      match next place captures with
      | some found => some found
      | none =>
        if mayGoOn most rounds && last ≠ some place then
          round place captures fun place' captures =>
            lazyRounds round least most bound (rounds + 1) (some place) place' captures next
        else
          none

/-- As many rounds as possible, each in the first way that it matches by itself. -/
def possessiveRounds (round : Matcher) (least : Nat) (most : Option Nat) :
    Nat → (rounds : Nat) → Nat → Captures → Option Found
  | 0, _, place, captures => some (place, captures)
  | bound + 1, rounds, place, captures =>
    if mayGoOn most rounds then
      match round place captures fun place captures => some (place, captures) with
      | some (place', captures') =>
        if place' = place && least ≤ rounds then some (place', captures')
        else possessiveRounds round least most bound (rounds + 1) place' captures'
      | none => if rounds < least then none else some (place, captures)
    else
      some (place, captures)

def Node.matcher (text : Array Char) : Node → Matcher
  | .empty, place, captures, next => next place captures
  | .char test, place, captures, next =>
    match text[place]? with
    | some c => if test.holds c then next (place + 1) captures else none
    | none => none
  | .anchor condition, place, captures, next =>
    if condition.holds text place then next place captures else none
  | .sequence first second, place, captures, next =>
    first.matcher text place captures fun place captures =>
      second.matcher text place captures next
  | .choice first second, place, captures, next =>
    match first.matcher text place captures next with
    | some found => some found
    | none => second.matcher text place captures next
  | .group (some capture) body, place, captures, next =>
    body.matcher text place (captures.opened capture place) fun place captures =>
      next place (captures.closed capture place)
  | .group none body, place, captures, next => body.matcher text place captures next
  | .repeated least most eagerness body, place, captures, next =>
    let bound := least + (text.size - place) + 2
    match eagerness with
    | .greedy => greedyRounds (body.matcher text) least most bound 0 none place captures next
    | .lazy => lazyRounds (body.matcher text) least most bound 0 none place captures next
    | .possessive =>
      match possessiveRounds (body.matcher text) least most bound 0 place captures with
      | some (place, captures) => next place captures
      | none => none
  | .atomic body, place, captures, next =>
    match body.matcher text place captures fun place captures => some (place, captures) with
    | some (place, captures) => next place captures
    | none => none
  | .look behind negated body, place, captures, next =>
    let distance := behind.getD 0
    let found :=
      if place < distance then none
      else body.matcher text (place - distance) captures fun place captures =>
        some (place, captures)
    match found, negated with
    | some (_, captures), false => next place captures
    | none, true => next place captures
    | _, _ => none
  | .backreference capture ignoreCase alphabet, place, captures, next =>
    match captures.span? capture with
    | some (start, stop) =>
      if repeatsAt (sameChar ignoreCase alphabet) text (slice text start stop) place then
        next (place + (stop - start)) captures
      else
        none
    | none => none
  | .conditional capture present absent, place, captures, next =>
    match captures.span? capture with
    | some _ => present.matcher text place captures next
    | none => absent.matcher text place captures next

/-- A match of a pattern in a text. -/
structure Match where
  start : Nat
  stop : Nat
  captures : Captures

/-- The first match that starts at one of some places. -/
def Program.searchFrom (program : Program) (text : Array Char) : List Nat → Option Match
  | [] => none
  | place :: rest =>
    match program.root.matcher text place (Captures.none program.captures)
        fun place captures => some (place, captures) with
    | some (stop, captures) => some ⟨place, stop, captures⟩
    | none => program.searchFrom text rest

def Program.search (program : Program) (text : Array Char) : Option Match :=
  program.searchFrom text (List.range (text.size + 1))

def Program.found (program : Program) (text : String) : Bool :=
  (program.search text.toList.toArray).isSome

/-- What a pattern picks from a text: its first capture if that took part in the match, else the
whole match. -/
def Program.pick? (program : Program) (text : String) : Option String :=
  let chars := text.toList.toArray
  (program.search chars).map fun found =>
    let (start, stop) := (found.captures.span? 1).getD (found.start, found.stop)
    String.ofList (slice chars start stop)

end Assay.Pattern
