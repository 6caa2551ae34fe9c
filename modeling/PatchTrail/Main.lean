import PatchTrail.Command.Reach

/-!
# The command line

Loads the files that a request looks at, carries the request out, and writes back what has changed.
-/

namespace PatchTrail.Command.Files

/-- A text as the system takes it. -/
def given (t : Text) : String := String.ofList t

/-- The path of a place. -/
def pathOf (place : List Text) : Text := '/' :: Text.join ['/'] place

/-- What is at a path, if anything is. -/
def lookAt (path : Text) : IO (Option Disk.Entry) := do
  try
    if ← (← IO.FS.realPath (given path)).isDir then return some .directory
    return some (.file (← IO.FS.readBinFile (given path)))
  catch _ => return none

/-- Puts on a disk what is at a place and at all places on the way to it. -/
def loadPlace (disk : Disk) (place : List Text) : IO Disk := do
  let mut disk := disk
  for n in List.range place.length do
    let part := place.take (n + 1)
    if (disk.entry? part).isNone then
      if let some e ← lookAt (pathOf part) then
        disk := disk.put part e
  return disk

/-- Puts on a disk what is at a path. Where two dots lead out of a directory again, what they lead
to is loaded as well. -/
def loadPath (disk : Disk) (path : Text) : IO Disk := do
  let start := if Path.isAbsolute path then [] else disk.here
  let mut disk ← loadPlace disk start
  let mut place := start
  for name in Path.names path do
    place := if name = ['.', '.'] then place.dropLast else place ++ [name]
    disk ← loadPlace disk place
  return disk

/-- Makes a place look as it does on a disk. -/
def storePlace (before after : Disk) (place : List Text) : IO Unit := do
  match before.entry? place, after.entry? place with
  | some (.file _), none => IO.FS.removeFile (given (pathOf place))
  | some (.file old), some (.file new) =>
    if old.data.toList != new.data.toList then IO.FS.writeBinFile (given (pathOf place)) new
  | _, some (.file new) => IO.FS.writeBinFile (given (pathOf place)) new
  | none, some .directory => IO.FS.createDirAll (given (pathOf place))
  | _, _ => return ()

/-- Makes all places look as they do on a disk, directories before what is in them. -/
def store (before after : Disk) : IO Unit := do
  let places := (before.entries ++ after.entries).map Prod.fst
  let sorted := places.eraseDups.mergeSort fun a b => decide (a.length ≤ b.length)
  sorted.forM (storePlace before after)

/-- The disk with everything on it that a request looks at. -/
def load (request : Request) : IO Disk := do
  let here := Path.names (← IO.currentDir).toString.toList
  let mut disk : Disk := ⟨here, []⟩
  disk ← loadPlace disk here
  for _ in List.range Reach.rounds do
    for path in request.paths disk do
      disk ← loadPath disk path
  return disk

end PatchTrail.Command.Files

open PatchTrail PatchTrail.Command.Files

/-- Carries out what the arguments ask for. -/
def main (args : List String) : IO UInt32 := do
  match Command.Request.read (args.map String.toList) with
  | .error e =>
    (← IO.getStderr).putStrLn (given e.message)
    return Command.usageStatus.toUInt32
  | .ok request =>
    let disk ← load request
    let outcome := request.run disk
    store disk outcome.disk
    (← IO.getStdout).putStr (given outcome.output)
    (← IO.getStderr).putStr (given outcome.complaint)
    return outcome.status.toUInt32
