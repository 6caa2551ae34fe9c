import PatchTrail.Proofs.Disk.Alike
import PatchTrail.Proofs.Disk.Staying
import PatchTrail.Proofs.Run.Footprint
import PatchTrail.Proofs.Run.Replaying

/-!
# Runs that stay in their directory

A run changes no file outside of its directory and reads none there, if all paths of its
instructions lead into the directory (`Run.apply_inside`). That nothing is read is a statement on
two runs: on twin trees, whose files differ at most outside of the directory and only in what they
hold, a run ends in the same way and leaves twin trees again (`Blind`).

Which paths lead into every directory can be told from their names (`Path.stays_iff`). Nothing keeps
a run from following one that leads out of it (`Run.apply_outside`).
-/

namespace PatchTrail

open Instruction (Error)
open PatchTrail.Path (Inside)

variable {root path : Text} {here : List Text} {ε ε' α β : Type} {tree other : WorkTree}

/-! ## Twin trees -/

/-- Two trees at one directory whose disks are alike about what is in it, and which are the same in
all else. -/
structure WorkTree.Twins (root : Text) (here : List Text) (tree other : WorkTree) : Prop where
  rooted : tree.root = root
  placed : tree.disk.here = here
  rest : other = { tree with disk := other.disk }
  alike : Disk.Alike (Inside here root) tree.disk other.disk

/-- The same end of a change, with twin trees. -/
inductive TwinResult (root : Text) (here : List Text) :
    EStateM.Result ε WorkTree α → EStateM.Result ε WorkTree α → Prop where
  | ok {a : α} {tree other : WorkTree} (twins : tree.Twins root here other) :
      TwinResult root here (.ok a tree) (.ok a other)
  | error {e : ε} {tree other : WorkTree} (twins : tree.Twins root here other) :
      TwinResult root here (.error e tree) (.error e other)

/-- A change that cannot tell twin trees apart. -/
def Blind (root : Text) (here : List Text) (c : Change ε α) : Prop :=
  ∀ tree other, WorkTree.Twins root here tree other → TwinResult root here (c tree) (c other)

namespace WorkTree.Twins

variable {d e : Disk}

theorem withDisk (h : Twins root here tree other) (placed : d.here = here)
    (alike : d.Alike (Inside here root) e) :
    Twins root here { tree with disk := d } { other with disk := e } := by
  refine ⟨h.rooted, placed, ?_, alike⟩
  rw [h.rest]

theorem withTrail (h : Twins root here tree other) (trail : Trail) :
    Twins root here (tree.withTrail trail) (other.withTrail trail) := by
  refine ⟨h.rooted, h.placed, ?_, h.alike⟩
  rw [h.rest]
  rfl

theorem resolve (h : Twins root here tree other) (path : Text) :
    other.resolve path = tree.resolve path := by
  rw [h.rest]
  rfl

theorem renderer (h : Twins root here tree other) : other.renderer = tree.renderer := by
  rw [h.rest]

theorem trail (h : Twins root here tree other) : other.trail = tree.trail := by
  rw [h.rest]

end WorkTree.Twins

namespace Blind

variable {c : Change ε α} {f : α → Change ε β}

theorem pure (a : α) : Blind root here (pure a : Change ε α) := fun _ _ twins => .ok twins

theorem throw (e : ε) : Blind root here (throw e : Change ε α) := fun _ _ twins => .error twins

theorem bind (h : Blind root here c) (h' : ∀ a, Blind root here (f a)) :
    Blind root here (c >>= f) := by
  intro tree other twins
  have first := h tree other twins
  change TwinResult root here (EStateM.bind c f tree) (EStateM.bind c f other)
  unfold EStateM.bind
  generalize c tree = r at first ⊢
  generalize c other = r' at first ⊢
  cases first with
  | ok twins => exact h' _ _ _ twins
  | error twins => exact .error twins

theorem adaptExcept (h : Blind root here c) (g : ε → ε') :
    Blind root here (c.adaptExcept g) := by
  intro tree other twins
  have first := h tree other twins
  unfold EStateM.adaptExcept
  generalize c tree = r at first ⊢
  generalize c other = r' at first ⊢
  cases first with
  | ok twins => exact .ok twins
  | error twins => exact .error twins

/-- A change that depends on how changes are shown. -/
theorem withRenderer {g : Diff.Renderer → Change ε α} (h : ∀ r, Blind root here (g r)) :
    Blind root here (get >>= fun tree => g tree.renderer) := by
  intro tree other twins
  have same := h tree.renderer tree other twins
  change TwinResult root here (g tree.renderer tree) (g other.renderer other)
  rwa [twins.renderer]

end Blind

/-! ## Files of a tree -/

namespace WorkTree

theorem record_blind (added : Text) : Blind root here (record added) := by
  intro tree other twins
  unfold record
  rw [twins.trail]
  cases tree.trail.record? added with
  | none => exact .error twins
  | some trail => exact .ok (twins.withTrail trail)

theorem makeRoom_blind (path : Text) : Blind root here (makeRoom path) := by
  intro tree other twins
  unfold makeRoom
  rw [twins.resolve]
  cases Path.parent? (tree.resolve path) with
  | none => exact .ok twins
  | some directory =>
      have around := Disk.sameFiles_makeDirectories tree.disk directory
      have made := twins.alike.makeDirectories directory
      simp only
      generalize tree.disk.makeDirectories directory = r at made around ⊢
      generalize other.disk.makeDirectories directory = r' at made ⊢
      obtain ⟨d, fault?⟩ := r
      obtain ⟨e, fault?'⟩ := r'
      obtain ⟨alike, rfl⟩ : d.Alike (Inside here root) e ∧ fault? = fault?' := made
      have twins := twins.withDisk (around.1.trans twins.placed) alike
      cases fault? with
      | none => exact .ok twins
      | some fault => exact .error twins

theorem perform_blind {operation : Instruction.Operation}
    {operate : Disk → (full : Text) → Except Disk.Fault Disk}
    (keeps : ∀ d d' full, operate d full = .ok d' → d'.here = d.here)
    (alike : ∀ d e full, d.Alike (Inside here root) e →
      Disk.AlikeResult (Inside here root) (operate d full) (operate e full)) :
    Blind root here (perform operation path operate) := by
  intro tree other twins
  have result := alike tree.disk other.disk (tree.resolve path) twins.alike
  unfold perform
  rw [twins.resolve]
  cases hd : operate tree.disk (tree.resolve path) with
  | ok d =>
      rw [hd] at result
      obtain ⟨e, he, alike⟩ := result.ok
      rw [he]
      exact .ok (twins.withDisk ((keeps _ _ _ hd).trans twins.placed) alike)
  | error fault =>
      rw [hd] at result
      rw [result.error]
      exact .error twins

theorem write_blind (path : Text) (content : ByteArray) :
    Blind root here (perform .write path fun disk full => disk.write full content) :=
  perform_blind (fun _ _ _ h => (Disk.changesOnly_write h).1)
    fun _ _ full alike => alike.write full content

theorem writeFile_blind (path : Text) (content : ByteArray) :
    Blind root here (writeFile path content) :=
  .withRenderer fun r => (record_blind (r.created path content)).bind fun _ =>
    (makeRoom_blind path).bind fun _ => write_blind path content

theorem removeFile_blind (path : Text) : Blind root here (removeFile path) :=
  .withRenderer fun r => (record_blind (r.deleted path)).bind fun _ =>
    perform_blind (fun _ _ _ h => (Disk.changesOnly_remove h).1)
      fun _ _ full alike => alike.remove full

section

variable (inside : Inside here root (Path.spelled here (Path.below root path)))

include inside

/-- What is read is in the directory, so it is the same on twin trees. -/
theorem read_blind : Blind root here (read path) := by
  intro tree other twins
  have known : Inside here root (Path.spelled tree.disk.here (tree.resolve path)) := by
    rw [twins.placed, WorkTree.resolve, twins.rooted]
    exact inside
  unfold read
  rw [twins.resolve, ← twins.alike.read known]
  cases tree.disk.read (tree.resolve path) with
  | ok content => exact .ok twins
  | error fault => exact .error twins

theorem readText_blind : Blind root here (readText path) := by
  refine (read_blind inside).bind fun content => ?_
  cases Text.decode? content with
  | some t => exact .pure _
  | none => exact .throw _

theorem editText_blind (edit : Text → Except Error (Text × α)) :
    Blind root here (editText path edit) := by
  refine (readText_blind inside).bind fun old => ?_
  cases edit old with
  | error e => exact .throw e
  | ok result =>
      obtain ⟨new, a⟩ := result
      refine .withRenderer fun r => (record_blind (r.modified path old new)).bind fun _ => ?_
      by_cases same : new = old
      · rw [if_pos same]
        exact .pure a
      · rw [if_neg same]
        exact (write_blind path _).bind fun _ => .pure a

end

end WorkTree

/-! ## Runs -/

/-- Changes all files of which are in the directory cannot tell twin trees apart. -/
theorem hereditary_blind (root : Text) (here : List Text) :
    Hereditary (fun _ _ => Blind root here) fun c => Inside here root (c.place root here) where
  pure := .pure
  bind := .bind
  adaptExcept g h := h.adaptExcept g
  writeFile path content _ := WorkTree.writeFile_blind path content
  removeFile path _ := WorkTree.removeFile_blind path
  editText _ edit inside := WorkTree.editText_blind inside edit

namespace Run

/-- A path leads into the directory of every tree if and only if none of its beginnings has more
steps back than other names. If all files that a run is about are in its directory, then whether or
not it fails, it leaves every file outside as it was, and it reads none: it ends in the same way,
with the same trail and the same files in the directory, whatever the files outside hold. -/
theorem apply_inside (registry : Registry) (config : Config) :
    (∀ path, Path.stays path = true ↔ ∀ tree : WorkTree,
        Inside tree.disk.here tree.root (Path.spelled tree.disk.here (tree.resolve path))) ∧
      ∀ root disk trail,
        (∀ c ∈ changes registry config, Inside disk.here root (c.place root disk.here)) →
          (∀ p, ¬ Inside disk.here root p →
            (finalTree (apply registry config root disk trail)).disk.file? p = disk.file? p) ∧
          ∀ disk', Disk.Alike (Inside disk.here root) disk disk' →
            TwinResult root disk.here (apply registry config root disk trail)
              (apply registry config root disk' trail) := by
  refine ⟨fun path => (Path.stays_iff path).trans
    ⟨fun h tree => h _ _, fun h here root => h { root, disk := ⟨here, []⟩ }⟩, ?_⟩
  intro root disk trail inside
  refine ⟨fun p outside => Classical.byContradiction fun hne => ?_, fun disk' alike => ?_⟩
  · have within : Disk.Within root (changes registry config) disk
        (finalTree (apply registry config root disk trail)).disk :=
      (applyAll_confined config.skip {} registry.patches
        { root, disk, trail, renderer := { contextLines := config.contextLines } }).disk
    obtain ⟨c, hc, hplace⟩ := within.changed p hne
    exact outside (hplace ▸ inside c hc)
  · exact (hereditary_blind root disk.here).patches {} inside _ _ ⟨rfl, rfl, rfl, alike⟩

/-- The path of this instruction leads out of the directory. The run ends well, and the file beside
the directory is gone. -/
theorem apply_outside :
    let registry := single ⟨"p", [.deleteFile "../x"]⟩ (List.cons_ne_nil 'p' [])
    let disk : Disk := ⟨[], [(["app"], .directory), (["x"], .file (Text.encode "x\n"))]⟩
    let tree : WorkTree := { root := "app", disk }
    let outside : List Text := ["x"]
    Path.spelled disk.here (tree.resolve "../x") = outside ∧
      ¬ Inside disk.here tree.root outside ∧
      ∃ summary final, apply registry {} tree.root disk {} = .ok summary final ∧
        disk.file? outside = some (Text.encode "x\n") ∧ final.disk.file? outside = none :=
  ⟨rfl, by decide, _, _, rfl, rfl, rfl⟩

end Run

end PatchTrail
