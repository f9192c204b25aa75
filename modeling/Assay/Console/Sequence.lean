/-! # Control sequences

Sequences that steer a terminal begin with the escape character and a bracket, go on with
parameters and end with a letter.
-/

namespace Assay.Console

/-- Whether a character may stand among the parameters of a sequence. -/
def isParameter (c : Char) : Bool := c.isDigit || c = ';' || c = '?'

/-- How many characters of a text belong to a sequence that begins with it. -/
def sequenceLength? : List Char → Option Nat
  | '\x1B' :: '[' :: rest =>
    let parameters := rest.takeWhile isParameter
    match rest.drop parameters.length with
    | last :: _ => if last.isAlpha then some (parameters.length + 3) else none
    | [] => none
  | _ => none

/-- A text without sequences. `skip` characters are still part of one. -/
def withoutSequencesAfter (skip : Nat) : List Char → List Char
  | [] => []
  | c :: rest =>
    match skip with
    | skip + 1 => withoutSequencesAfter skip rest
    | 0 => match sequenceLength? (c :: rest) with
      | some length => withoutSequencesAfter (length - 1) rest
      | none => c :: withoutSequencesAfter 0 rest

def withoutSequences (text : List Char) : List Char := withoutSequencesAfter 0 text

end Assay.Console
