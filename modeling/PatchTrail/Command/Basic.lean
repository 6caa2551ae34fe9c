import PatchTrail.Command.Request
import PatchTrail.Manifest.Load
import PatchTrail.Run.Basic

/-!
# Carrying out a request

A request is carried out on a disk. It leaves a disk, prints something, and may fail. The diff of a
run is handed out even if the run fails half way, since it says what was done before.
-/

namespace PatchTrail.Command

/-- What is left when a request has been carried out: the disk, what was printed, and the failure
if there was one, as it is shown. -/
structure Outcome where
  disk : Disk
  output : Text := []
  failure? : Option Text := none

/-- The status with which a request ends. -/
def Outcome.status (o : Outcome) : Nat := if o.failure?.isSome then 1 else 0

/-- What is said about a failure. -/
def Outcome.complaint (o : Outcome) : Text :=
  match o.failure? with
  | some failure => "Error: " ++ failure ++ "\n"
  | none => []

/-- The status with which arguments end that make no sense. -/
def usageStatus : Nat := 2

/-- What a run leaves of the disk and of its trail, and how it failed if it did. -/
def outcomeOfRun :
    EStateM.Result Patch.Error WorkTree Run.Summary → Disk × Text × Option Text
  | .ok _ tree => (tree.disk, tree.trail.text, none)
  | .error e tree => (tree.disk, tree.trail.text, some e.describe)

/-- Applies the patches of manifests to a directory and hands out the diff. -/
def Application.run (a : Application) (disk : Disk) : Outcome :=
  if disk.isDirectory a.directory then
    match Manifest.loadAll disk a.manifests with
    | .error e => { disk, failure? := some e.describe }
    | .ok registry =>
      let config := { skip := a.skip, contextLines := a.contextLines }
      let (disk, diff, failure?) := outcomeOfRun (Run.apply registry config a.directory disk {})
      let output := if a.isQuiet then [] else diff
      match a.diffPath? with
      | none => { disk, output, failure? }
      | some path =>
        match disk.write path (Text.encode diff) with
        | .ok disk => { disk, output, failure? }
        | .error fault => { disk, output, failure? := some fault.describe }
  else { disk, failure? := some (a.directory ++ " is not a directory").quoted }

/-- A patch in a list, as a value. -/
def listedValue (p : Patch) : Json.Value :=
  .object
    [("instructions", .array (p.instructionNames.map .string)), ("name", .string p.name)]

/-- A patch in a list, on a line of its own. -/
def listedLine (p : Patch) : Text :=
  p.name ++ " (" ++ Text.ofNat p.instructions.length ++ " instruction(s))\n"

/-- Lists the patches of manifests. -/
def Listing.run (l : Listing) (disk : Disk) : Outcome :=
  match Manifest.loadAll disk l.manifests with
  | .error e => { disk, failure? := some e.describe }
  | .ok registry =>
    let output :=
      if l.asJson then
        (Json.Value.array (registry.patches.map listedValue)).indented ++ ['\n']
      else registry.patches.flatMap listedLine
    { disk, output }

/-- Carries out a request. -/
def Request.run : Request → Disk → Outcome
  | apply a => a.run
  | list l => l.run

end PatchTrail.Command
