import Std.Time.DateTime.Timestamp
import Assay.Command.Execution
import Assay.Report.Identity

/-! # The command line

Looks at the files that the arguments name, at the clock and at a source of random bits, and does
what the outcome of the arguments says.
-/

namespace Assay.Command

def nodeAt (path : String) : IO (Option Node) := do
  let place := System.mkFilePath [path]
  if path.isEmpty then return none
  else if ← place.isDir then return some .directory
  else if ← place.pathExists then return some (.file (← IO.FS.readBinFile place))
  else return none

def parentsOf (path : String) : List String :=
  let start := if isRooted path then "/" else ""
  let names := parts path
  (List.range names.length).tail.map fun count => start ++ "/".intercalate (names.take count)

/-- What stands in the way of a new file. -/
def obstacleAt (path : String) : IO (Option Obstacle) := do
  for parent in (parentsOf path).reverse do
    match ← nodeAt parent with
    | some .directory => break
    | some (.file _) =>
      return some (if some parent = (parentsOf path).getLast? then .fileExists else .notDirectory)
    | none => pure ()
  match ← nodeAt path with
  | some .directory => return some .isDirectory
  | _ => return none

def currentTime : IO Int := do
  let time ← Std.Time.Timestamp.now
  return time.toNanosecondsSinceUnixEpoch.val / 1000

/-- A fresh id. -/
def randomIdentity : IO String := do
  let bytes ← IO.getRandomBytes 16
  return identityText (bytes.foldl (fun number byte => number * 256 + byte.toNat) 0)

def surroundingsOf (invocation : Invocation) : IO Surroundings := do
  let nodes ← invocation.sources.mapM fun path => return (path, ← nodeAt path)
  let freshId ← randomIdentity
  let obstacle ← match invocation.reports? with
    | some directory => obstacleAt (joinPath directory s!"{freshId}.json")
    | none => pure none
  return {
    find? := fun path => (nodes.lookup path).join
    obstacle? := fun _ => obstacle
    timeline := ⟨← currentTime, []⟩
    freshId }

def writeReport (report : KeptReport) : IO Unit := do
  match (parentsOf report.path).getLast? with
  | some parent => IO.FS.createDirAll parent
  | none => pure ()
  IO.FS.writeFile report.path report.content

def deliver (outcome : Outcome) : IO UInt32 := do
  (← IO.getStdout).putStr outcome.output
  outcome.kept.forM writeReport
  match outcome.ending with
  | .broken cause => IO.eprintln s!"Error: {cause.message}"
  | .misuse => IO.eprintln usageText
  | _ => pure ()
  return outcome.ending.code.toUInt32

end Assay.Command

def main (arguments : List String) : IO UInt32 := do
  match Assay.Command.readInvocation? arguments with
  | some invocation =>
    Assay.Command.deliver
      (Assay.Command.execute (← Assay.Command.surroundingsOf invocation) invocation)
  | none => Assay.Command.deliver (.ofEnding .misuse)
