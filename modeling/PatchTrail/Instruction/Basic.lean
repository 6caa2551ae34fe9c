import PatchTrail.Patcher.Basic
import PatchTrail.WorkTree

/-!
# Instructions

An instruction changes files of a work tree. It stops at the first failure, and what it did before
stays.
-/

namespace PatchTrail

/-- A change of one or more files of a tree. -/
inductive Instruction where
  /-- Writes a file, whether or not it was there. -/
  | writeFile (path : Text) (content : ByteArray)
  /-- Removes a file, which has to be there. -/
  | deleteFile (path : Text)
  /-- Runs the same patchers on the texts of some files. -/
  | patchFiles (paths : List Text) (patchers : List Patcher)
  /-- Adds a resource to the table and its constant to the file of constants, unless the resource
  is there already. -/
  | defineResource (definition : Resource.Definition)
  /-- Follows instructions one after the other. -/
  | sequence (instructions : List Instruction)

namespace Instruction

/-- The name of an instruction's kind. -/
def name : Instruction → Text
  | writeFile _ _ => "write_file"
  | deleteFile _ => "delete_file"
  | patchFiles _ _ => "patch_file"
  | defineResource _ => "define_resource"
  | sequence _ => "sequence"

/-- Runs patchers on the text of a file. -/
def runPatchers (path : Text) (patchers : List Patcher) (text : Text) : Except Error Text :=
  match Patcher.applyAll 0 patchers text with
  | .ok new => .ok new
  | .error (index, cause) => .error (.patcher path index cause)

/-- Runs patchers on the texts of files, one file after the other. -/
def patchEach (patchers : List Patcher) : (paths : List Text) → Change Error Unit
  | [] => return ()
  | path :: rest => do
    WorkTree.editText path fun text => (runPatchers path patchers text).map fun new => (new, ())
    patchEach patchers rest

/-- Adds a resource to the table's text and returns its id, unless it is there already. -/
def allocateIn (definition : Resource.Definition) (table : Text) :
    Except Error (Text × Option Text) :=
  match definition.allocate table with
  | .ok (some (new, id)) => .ok (new, some id)
  | .ok none => .ok (table, none)
  | .error cause => .error (.resource cause)

/-- Adds a resource to the table and its constant to the file of constants. -/
def define (definition : Resource.Definition) : Change Error Unit := do
  match ← WorkTree.editText Resource.tablePath (allocateIn definition) with
  | none => return ()
  | some id =>
    WorkTree.editText definition.constantsPath fun text =>
      .ok (text ++ definition.constantLines id, ())

/-- Follows an instruction. -/
def apply : Instruction → Change Error Unit
  | writeFile path content => WorkTree.writeFile path content
  | deleteFile path => WorkTree.removeFile path
  | patchFiles paths patchers => patchEach patchers paths
  | defineResource definition => define definition
  | sequence instructions => applyFrom 0 instructions
where
  /-- Follows the instructions of a sequence, the first of which stands at a position. -/
  applyFrom (index : Nat) : List Instruction → Change Error Unit
    | [] => return ()
    | i :: rest => do
      (apply i).adaptExcept (Error.sequence index)
      applyFrom (index + 1) rest

end Instruction

end PatchTrail
