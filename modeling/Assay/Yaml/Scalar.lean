import Assay.Datum.Basic
import Assay.Number.DoubleText
import Assay.Number.IntegerText
import Assay.Text.Case
import Assay.Text.Basic
import Assay.Yaml.Binary
import Assay.Yaml.Fault
import Assay.Yaml.Tag
import Assay.Yaml.Timestamp

/-! # Scalars

The datum that a scalar with a given tag stands for. A tag that is written out may stand before a
text of any form, so each tag has its own ways to fail.
-/

namespace Assay.Yaml

open Number (Double)

def withoutSeparators (text : List Char) : List Char := text.filter (· ≠ '_')

def splitSign (text : List Char) : Bool × List Char := (text.head? = some '-', withoutSign text)

/-- An integer in a base that is a power of two. -/
def readBased (base : Nat) (text : List Char) : Except Fault Int :=
  match Number.readInBase? base text with
  | some value => .ok value
  | none => .error (.notInteger base text)

def readDecimal (text : List Char) : Except Fault Int :=
  match Number.readInteger text with
  | .ok value => .ok value
  | .error .malformed => .error (.notInteger 10 text)
  | .error (.tooManyDigits refusal) => .error (.tooManyDigits refusal)

/-- An integer: binary, octal or hexadecimal behind a zero, in base 60 with colons, or decimal. -/
def readInt (text : List Char) : Except Fault Int := do
  let (negative, unsigned) := splitSign (withoutSeparators text)
  let size ← match unsigned with
    | [] => .error .noNumber
    | ['0'] => pure 0
    | '0' :: 'b' :: digits => readBased 2 digits
    | '0' :: 'x' :: digits => readBased 16 digits
    | '0' :: _ => readBased 8 unsigned
    | _ =>
      if unsigned.contains ':' then do
        let parts ← (Text.splitOn ':' unsigned).mapM readDecimal
        pure (parts.foldl (fun value part => value * 60 + part) 0)
      else readDecimal unsigned
  return if negative then -size else size

/-- A part of a number in base 60. -/
def readPart (text : List Char) : Except Fault Double :=
  match Number.readDouble? text with
  | some value => .ok value
  | none => .error (.notNumber text)

/-- The sum of the parts of a number in base 60, the last part first. Every weight must be in the
range of binary64 numbers. -/
def sumParts (weight : Nat) (sum : Double) : List Double → Except Fault Double
  | [] => .ok sum
  | part :: rest =>
    let factor := Double.ofInt weight
    if factor.isFinite then sumParts (weight * 60) (sum.add (part.mul factor)) rest
    else .error .hugeNumber

/-- A binary64 number, in base 60 with colons. -/
def readFloat (text : List Char) : Except Fault Double := do
  let (negative, unsigned) := splitSign (Text.lowercase (withoutSeparators text))
  if (withoutSeparators text).isEmpty then .error .noNumber
  else
    let size ←
      if unsigned = ['.', 'i', 'n', 'f'] then pure (Double.infinite false)
      else if unsigned = ['.', 'n', 'a', 'n'] then pure Double.nan
      else if unsigned.contains ':' then do
        let parts ← (Text.splitOn ':' unsigned).mapM readPart
        sumParts 1 (Double.zero false) parts.reverse
      else readPart unsigned
    return if negative then size.neg else size

/-- A truth value. -/
def readBool (text : List Char) : Except Fault Bool :=
  let word := Text.lowercase text
  if ["yes", "true", "on"].any fun spelling => spelling.toList = word then .ok true
  else if ["no", "false", "off"].any fun spelling => spelling.toList = word then .ok false
  else .error (.notTruth word)

/-- A date or a moment. -/
def readTimestamp (text : List Char) : Except Fault Datum :=
  let form := if text.getLast? = some '\n' then text.dropLast else text
  match timestampForm? form with
  | none => .error .notDate
  | some form => match form.read with
    | .ok (.inl date) => .ok (.date date)
    | .ok (.inr moment) => .ok (.moment moment)
    | .error fault => .error (.calendar fault)

/-- The datum of a scalar. A tag that is no tag of a scalar is a fault. -/
def readScalar (tag : Tag) (text : String) : Except Fault Datum :=
  let chars := text.toList
  match tag with
  | .null => .ok .null
  | .bool => (readBool chars).map .bool
  | .int => (readInt chars).map .int
  | .float => (readFloat chars).map .double
  | .timestamp => readTimestamp chars
  | .str => .ok (.text text)
  | .binary => match readBinary? chars with
    | some bytes => .ok (.bytes bytes)
    | none => .error .malformed
  | _ => .error .malformed

def Tag.isScalar : Tag → Bool
  | .null | .bool | .int | .float | .binary | .timestamp | .str => true
  | _ => false

end Assay.Yaml
