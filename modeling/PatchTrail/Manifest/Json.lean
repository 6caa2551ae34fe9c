import PatchTrail.Manifest.Basic
import PatchTrail.Patcher.Json

/-!
# Manifests as JSON

A manifest is an object with a list of patches, each of which has a name and a list of instructions.
An instruction is a tagged value. Manifests in which no custom transformation occurs can be written
(`Manifest.toJson?`); those that were read are among them.
-/

namespace PatchTrail.Manifest

open Json (Value RecordField Mismatch)

namespace Step

/-- The kinds of instructions. -/
inductive Tag where
  | writeFile
  | copyFile
  | deleteFile
  | patchFiles
  | defineResource
  | sequence
deriving DecidableEq, Repr

/-- The name of a tag. -/
def Tag.name : Tag → Text
  | writeFile => "write_file"
  | copyFile => "copy_file"
  | deleteFile => "delete_file"
  | patchFiles => "patch_file"
  | defineResource => "define_resource"
  | sequence => "sequence"

/-- The tags by name. -/
def tags : List (Text × Tag) :=
  [Tag.writeFile, .copyFile, .deleteFile, .patchFiles, .defineResource, .sequence].map
    fun t => (t.name, t)

/-- What instructions are called where one was asked for and something else was found. -/
def kind : Text := "InstructionDef"

/-- What the record of a tag is called where its length was wrong. -/
def recordOf (variant : Text) (n : Nat) : Text := Json.variantRecord kind variant n

/-! ## Reading -/

/-- The field that names a file to be copied. -/
def sourceField : RecordField Text where
  name := "source"
  decode := Json.asPath

/-- Decodes what belongs to a tag, where `step` decodes the instructions inside. -/
def decodeTag (step : Value → Except Mismatch Step) (tag : Tag) (v : Value) :
    Except Mismatch Step :=
  match tag with
  | .writeFile => do
    let (path, content) ←
      Json.record2 (recordOf "WriteFile" 2) (RecordField.text "path") (RecordField.text "content") v
    return .writeFile path content
  | .copyFile => do
    let (path, source) ←
      Json.record2 (recordOf "CopyFile" 2) (RecordField.text "path") sourceField v
    return .copyFile path source
  | .deleteFile => do
    return .deleteFile (← Json.record1 (recordOf "DeleteFile" 1) (RecordField.text "path") v)
  | .patchFiles => do
    let (paths, patchers) ←
      Json.record2 (recordOf "PatchFile" 2) (RecordField.list "paths" Json.asText)
        (RecordField.list "patchers" Patcher.decode) v
    return .patchFiles paths patchers
  | .defineResource => do
    let (directory, kind, name) ←
      Json.record3 (recordOf "DefineResource" 3) (RecordField.text "r_path")
        (RecordField.text "resource_type") (RecordField.text "name") v
    return .defineResource { directory, kind, name }
  | .sequence => do
    return .sequence
      (← Json.record1 (recordOf "Sequence" 1) (RecordField.list "instructions" step) v)

/-- Decodes an instruction nested at most `depth` deep. -/
def decodeUpTo : (depth : Nat) → Value → Except Mismatch Step
  | 0, v => .error (.wrongKind v.found (Json.taggedKind kind))
  | depth + 1, v => do
    let (tag, rest) ← Json.untag kind (Json.anyTag tags) v
    decodeTag (decodeUpTo depth) tag rest

/-- Decodes an instruction. -/
def decode (v : Value) : Except Mismatch Step := decodeUpTo (v.depth + 1) v

/-- Decodes an instruction whose own tag has to be given by its name. -/
def decodeNamed (v : Value) : Except Mismatch Step := do
  let (tag, rest) ← Json.untag kind (Json.namedTag tags) v
  decodeTag decode tag rest

end Step

/-- Reads a document that is a manifest. -/
def parse (document : Text) : Except Error Manifest :=
  let step := Json.Reader.taggedThen Step.kind Step.tags (Step.decodeTag Step.decode)
  let item := fun depth => do
    let (name, steps) ← Json.Reader.record2 "PatchDef"
      { name := "name", read := fun _ => Json.Reader.text }
      { name := "instructions", read := Json.Reader.list step } depth
    return Item.mk name steps
  let manifest := Json.Reader.record1 "Manifest"
    { name := "patches", read := Json.Reader.list item }
  match Json.Reader.document manifest document with
  | .ok items => .ok ⟨items⟩
  | .error e => .error (.malformed e)

/-! ## Writing -/

namespace Step

/-- An instruction as a value, unless it has a custom transformation in it. -/
def toJson? : Step → Option Value
  | writeFile path content =>
    some (Json.tagged Tag.writeFile.name [("path", .string path), ("content", .string content)])
  | copyFile path source =>
    some (Json.tagged Tag.copyFile.name [("path", .string path), ("source", .string source)])
  | deleteFile path => some (Json.tagged Tag.deleteFile.name [("path", .string path)])
  | patchFiles paths patchers =>
    (Patcher.toJson?.listToJson? patchers).map fun vs =>
      Json.tagged Tag.patchFiles.name
        [("paths", .array (paths.map .string)), ("patchers", .array vs)]
  | defineResource definition =>
    some (Json.tagged Tag.defineResource.name
      [("r_path", .string definition.directory), ("resource_type", .string definition.kind),
        ("name", .string definition.name)])
  | sequence steps =>
    (listToJson? steps).map fun vs =>
      Json.tagged Tag.sequence.name [("instructions", .array vs)]
where
  /-- Instructions as values, unless one has a custom transformation in it. -/
  listToJson? : List Step → Option (List Value)
    | [] => some []
    | s :: rest =>
      match s.toJson?, listToJson? rest with
      | some v, some vs => some (v :: vs)
      | _, _ => none

end Step

/-- A description of a patch as a value, unless it has a custom transformation in it. -/
def Item.toJson? (item : Item) : Option Value :=
  (Step.toJson?.listToJson? item.steps).map fun vs =>
    .object [("name", .string item.name), ("instructions", .array vs)]

/-- A manifest as a value, unless it has a custom transformation in it. -/
def toJson? (m : Manifest) : Option Value :=
  (m.items.mapM Item.toJson?).map fun vs => .object [("patches", .array vs)]

end PatchTrail.Manifest
