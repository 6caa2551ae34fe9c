import PatchTrail.Manifest.Json

/-!
# Loading manifests

Manifests are files. Several of them are loaded into one registry, so that no name of a patch may
occur in two of them.
-/

namespace PatchTrail.Manifest

/-- Reads a manifest from a file. -/
def load (disk : Disk) (path : Text) : Except Error Manifest :=
  match disk.readText path with
  | .error fault => .error (.unreadable path fault)
  | .ok document => parse document

/-- The directory from which a manifest's files are copied. -/
def baseOf (path : Text) : Text := (Path.parent? path).getD "."

/-- Loads manifests from files into a registry, one after the other. -/
def loadInto (disk : Disk) : (paths : List Text) → Registry → Except Error Registry
  | [], registry => .ok registry
  | path :: rest, registry => do
    let m ← load disk path
    match m.register disk (baseOf path) registry with
    | .ok () registry => loadInto disk rest registry
    | .error e _ => throw e

/-- Loads manifests from files. -/
def loadAll (disk : Disk) (paths : List Text) : Except Error Registry :=
  loadInto disk paths Registry.empty

end PatchTrail.Manifest
