import PatchTrail.Disk.Basic
import PatchTrail.Json.Fault
import PatchTrail.Registry.Basic

/-!
# Manifests

A manifest describes patches. It says the same as a list of patches, except that a file may be
given by the name of another whose content it is to have (`Step.copyFile`). That file is read when
the patches are built, and its name is taken from the manifest's own directory.
-/

/-! ## Why a manifest cannot be loaded -/

namespace PatchTrail.Manifest

/-- Why a manifest cannot be loaded. -/
inductive Error where
  /-- The manifest itself cannot be read. -/
  | unreadable (path : Text) (fault : Disk.Fault)
  /-- A file that is to be copied cannot be read. -/
  | sourceUnreadable (path : Text) (fault : Disk.Fault)
  /-- The manifest does not say what manifests have to say. -/
  | malformed (cause : Json.Error)
  /-- A patch is refused by the registry. -/
  | refused (cause : Registry.Error)

namespace Error

/-- Why a manifest cannot be loaded, in words. -/
def message : Error → Text
  | unreadable path fault => "could not read manifest '" ++ path ++ "': " ++ fault.message
  | sourceUnreadable path fault => "could not read source file '" ++ path ++ "': " ++ fault.message
  | malformed cause => "manifest parse error: " ++ cause.message
  | refused cause => "registry error: " ++ cause.message

/-- A failure shown part by part. -/
def describe : Error → Text
  | unreadable path fault =>
    Text.describeFields "Read" [("path", path.quoted), ("source", fault.describe)]
  | sourceUnreadable path fault =>
    Text.describeFields "Source" [("path", path.quoted), ("source", fault.describe)]
  | malformed cause => Text.describeParts "Parse" [cause.describe]
  | refused cause => Text.describeParts "Registry" [cause.describe]

end Error

end PatchTrail.Manifest

/-! ## Descriptions of patches -/

namespace PatchTrail

/-- An instruction as a manifest describes it. -/
inductive Manifest.Step where
  | writeFile (path content : Text)
  /-- Writes the content of another file. -/
  | copyFile (path source : Text)
  | deleteFile (path : Text)
  | patchFiles (paths : List Text) (patchers : List Patcher)
  | defineResource (definition : Resource.Definition)
  | sequence (steps : List Step)

/-- A patch as a manifest describes it. -/
structure Manifest.Item where
  name : Text
  steps : List Manifest.Step

/-- Descriptions of patches. -/
structure Manifest where
  items : List Manifest.Item

namespace Manifest

namespace Step

/-- Builds an instruction, where the names of files to be copied are taken from the directory
`base`. -/
def build (disk : Disk) (base : Text) : Step → Except Error Instruction
  | writeFile path content => .ok (.writeFile path (Text.encode content))
  | copyFile path source =>
    let source := Path.join base source
    match disk.read source with
    | .ok content => .ok (.writeFile path content)
    | .error fault => .error (.sourceUnreadable source fault)
  | deleteFile path => .ok (.deleteFile path)
  | patchFiles paths patchers => .ok (.patchFiles paths patchers)
  | defineResource definition => .ok (.defineResource definition)
  | sequence steps => (buildAll disk base steps).map .sequence
where
  /-- Builds instructions. -/
  buildAll (disk : Disk) (base : Text) : List Step → Except Error (List Instruction)
    | [] => .ok []
    | s :: rest => do return (← s.build disk base) :: (← buildAll disk base rest)

end Step

/-- Builds a patch. -/
def Item.build (disk : Disk) (base : Text) (item : Item) : Except Error Patch := do
  return ⟨item.name, ← Step.build.buildAll disk base item.steps⟩

/-- A change of a registry, which may fail half way. -/
abbrev Registering (α : Type) := EStateM Error Registry α

/-- Builds a patch and adds it to a registry. -/
def registerItem (disk : Disk) (base : Text) (item : Item) : Registering Unit := fun registry =>
  match item.build disk base with
  | .error e => .error e registry
  | .ok p =>
    match registry.add p with
    | .error e => .error (.refused e) registry
    | .ok registry => .ok () registry

/-- Builds the patches of a manifest and adds them to a registry, one after the other. -/
def register (disk : Disk) (base : Text) (m : Manifest) : Registering Unit :=
  m.items.forM (registerItem disk base)

end Manifest

end PatchTrail
