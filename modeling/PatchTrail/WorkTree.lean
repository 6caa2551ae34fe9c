import PatchTrail.Diff.Unified
import PatchTrail.Instruction.Error
import PatchTrail.Text.Replace

/-!
# The tree that a run works on

A work tree is a directory of a disk together with the trail of what was done below it. Every
change is recorded before it is carried out. What was carried out before a failure stays, in the
files as well as in the trail.

The trail is made of the sections of a unified diff, one for each file that is touched, in the order
in which they are touched. A trail may have a bound. A section that does not fit is refused as a
whole, so that a trail never ends in the middle of one.
-/

namespace PatchTrail

/-! ## Trails -/

/-- The diff recorded so far, and how many more bytes may be recorded if there is a bound. -/
structure Trail where
  text : Text := []
  room? : Option Nat := none
deriving DecidableEq, Repr

namespace Trail

/-- A trail with a section at its end, unless there is no room for it. -/
def record? (t : Trail) (added : Text) : Option Trail :=
  match t.room? with
  | none => some ⟨t.text ++ added, none⟩
  | some room =>
    if added.size ≤ room then some ⟨t.text ++ added, some (room - added.size)⟩ else none

/-- What is recorded comes after what was there. -/
theorem text_of_record? {t u : Trail} {added : Text} (h : t.record? added = some u) :
    u.text = t.text ++ added := by
  unfold record? at h
  split at h
  · cases h
    rfl
  · split at h
    · cases h
      rfl
    · simp at h

/-- A trail without a bound takes everything. -/
theorem record?_unbounded (t added : Text) :
    record? ⟨t, none⟩ added = some ⟨t ++ added, none⟩ := rfl

end Trail

/-! ## Work trees -/

open Instruction (Error Operation)

/-- A directory, the disk it is on, how changes are shown, and the trail of the changes so far. -/
structure WorkTree where
  root : Text
  renderer : Diff.Renderer := {}
  disk : Disk
  trail : Trail := {}

/-- A change of a work tree, which may fail half way. -/
abbrev Change (ε α : Type) := EStateM ε WorkTree α

namespace WorkTree

/-- The path of a file below the tree's root. -/
def resolve (tree : WorkTree) (path : Text) : Text := Path.below tree.root path

/-- A tree shown part by part, without its disk and its trail. -/
def describe (tree : WorkTree) : Text :=
  let renderer :=
    Text.describeFields "DiffRenderer" [("context_lines", Text.ofNat tree.renderer.contextLines)]
  "WorkTree \x7b root: " ++ tree.root.quoted ++ ", renderer: " ++ renderer ++ ", .. \x7d"

/-- Records a section. -/
def record (added : Text) : Change Error Unit := fun tree =>
  match tree.trail.record? added with
  | some trail => .ok () { tree with trail := trail }
  | none => .error .trailFull tree

/-- The content of a file. -/
def read (path : Text) : Change Error ByteArray := fun tree =>
  match tree.disk.read (tree.resolve path) with
  | .ok content => .ok content tree
  | .error fault => .error (.disk .read path fault) tree

/-- Replaces the disk by the outcome of an operation on a file. -/
def perform (operation : Operation) (path : Text)
    (operate : Disk → (full : Text) → Except Disk.Fault Disk) : Change Error Unit := fun tree =>
  match operate tree.disk (tree.resolve path) with
  | .ok disk => .ok () { tree with disk := disk }
  | .error fault => .error (.disk operation path fault) tree

/-- Makes the directories around a file. -/
def makeRoom (path : Text) : Change Error Unit := fun tree =>
  match Path.parent? (tree.resolve path) with
  | none => .ok () tree
  | some directory =>
    match tree.disk.makeDirectories directory with
    | (disk, none) => .ok () { tree with disk := disk }
    | (disk, some fault) => .error (.disk .makeDirectory path fault) { tree with disk := disk }

/-- The text of a file, with line feeds only at the ends of its lines. -/
def readText (path : Text) : Change Error Text := do
  match Text.decode? (← read path) with
  | some t => return t.normalizeLineEndings
  | none => throw (.notText path)

/-- Records that a file is written, and writes it with the directories around it. -/
def writeFile (path : Text) (content : ByteArray) : Change Error Unit := do
  record ((← get).renderer.created path content)
  makeRoom path
  perform .write path fun disk full => disk.write full content

/-- Records that a file is removed, and removes it. -/
def removeFile (path : Text) : Change Error Unit := do
  record ((← get).renderer.deleted path)
  perform .remove path Disk.remove

/-- Edits the text of a file. The section is recorded even if the text stays as it was; the file is
written only if it does not. -/
def editText {α : Type} (path : Text) (edit : Text → Except Error (Text × α)) :
    Change Error α := do
  let old ← readText path
  match edit old with
  | .error e => throw e
  | .ok (new, a) =>
    record ((← get).renderer.modified path old new)
    if new = old then return a
    else
      perform .write path fun disk full => disk.write full (Text.encode new)
      return a

end WorkTree

end PatchTrail
