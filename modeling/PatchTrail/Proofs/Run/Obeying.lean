import PatchTrail.Proofs.Disk.Sheltered
import PatchTrail.Proofs.Run.Footprint

/-!
# What every operation of a run obeys

A run is a sequence of operations on its disk. A reflexive and transitive relation that holds from
before to behind each of them holds from before to behind the run, whether or not it fails
(`Run.apply_obeys`). So a run removes no directory (`Run.apply_kept`), and if all its paths stay in
its directory, it changes nothing outside (`Run.apply_sheltered`).
-/

namespace PatchTrail

open Instruction (Error)

variable {root path : Text} {P : Text → Prop} {R : Disk → Disk → Prop} {ε ε' α β : Type}

/-- A relation that holds from before to behind each operation on files below a directory, for some
paths of files. -/
structure Disk.Obeyed (root : Text) (P : Text → Prop) (R : Disk → Disk → Prop) : Prop where
  refl : ∀ d, R d d
  trans : ∀ d e f, R d e → R e f → R d f
  write : ∀ path content d d', P path → d.write (Path.below root path) content = .ok d' → R d d'
  remove : ∀ path d d', P path → d.remove (Path.below root path) = .ok d' → R d d'
  makeDirectories : ∀ path d, P path →
    R d (d.makeDirectories ((Path.parent? (Path.below root path)).getD [])).1

theorem Disk.obeyed_kept (root : Text) : Disk.Obeyed root (fun _ => True) Disk.Kept where
  refl := .refl
  trans _ _ _ := .trans
  write _ _ _ _ _ := .write
  remove _ _ _ _ := .remove
  makeDirectories _ d _ := .makeDirectories d _

theorem Disk.obeyed_sheltered (root : Text) :
    Disk.Obeyed root (fun path => Path.stays path = true) (Disk.Sheltered root) where
  refl := .refl root
  trans _ _ _ := .trans
  write _ _ _ _ := .write
  remove _ _ _ := .remove
  makeDirectories _ d stays := .makeDirectories stays d

/-- Whether or not it fails, a change of a tree at a directory obeys a relation. -/
def Obeys (root : Text) (R : Disk → Disk → Prop) (c : Change ε α) : Prop :=
  ∀ tree, tree.root = root →
    (finalTree (c tree)).root = root ∧ R tree.disk (finalTree (c tree)).disk

section

variable (obeyed : Disk.Obeyed root P R)

include obeyed

namespace Obeys

variable {c : Change ε α} {f : α → Change ε β}

theorem pure (a : α) : Obeys root R (pure a : Change ε α) := fun tree hroot =>
  ⟨hroot, obeyed.refl tree.disk⟩

theorem throw (e : ε) : Obeys root R (throw e : Change ε α) := fun tree hroot =>
  ⟨hroot, obeyed.refl tree.disk⟩

theorem bind (h : Obeys root R c) (h' : ∀ a, Obeys root R (f a)) : Obeys root R (c >>= f) := by
  intro tree
  refine finalTree_bind
    (R := fun tree mid => tree.root = root → mid.root = root ∧ R tree.disk mid.disk)
    (fun tree mid last first next hroot => ?_) (h tree) fun a mid _ => h' a mid
  obtain ⟨hmid, first⟩ := first hroot
  obtain ⟨hlast, next⟩ := next hmid
  exact ⟨hlast, obeyed.trans _ _ _ first next⟩

omit obeyed in
theorem adaptExcept (h : Obeys root R c) (g : ε → ε') : Obeys root R (c.adaptExcept g) := by
  intro tree
  rw [finalTree_adaptExcept]
  exact h tree

end Obeys

/-! ## Files of a tree -/

namespace WorkTree

theorem get_obeys : Obeys root R (get : Change ε WorkTree) := fun tree hroot =>
  ⟨hroot, obeyed.refl tree.disk⟩

theorem record_obeys (added : Text) : Obeys root R (record added) := by
  intro tree hroot
  unfold record
  cases tree.trail.record? added with
  | none => exact ⟨hroot, obeyed.refl tree.disk⟩
  | some trail => exact ⟨hroot, obeyed.refl tree.disk⟩

theorem makeRoom_obeys (h : P path) : Obeys root R (makeRoom path) := by
  intro tree hroot
  have around := obeyed.makeDirectories path tree.disk h
  have room := makeRoom_eq tree path tree.trail
  change makeRoom path tree = _ at room
  rw [room]
  rw [← hroot] at around ⊢
  unfold resolve
  generalize tree.disk.makeDirectories ((Path.parent? (Path.below tree.root path)).getD []) = made
    at around
  obtain ⟨disk, _ | fault⟩ := made
  · exact ⟨rfl, around⟩
  · exact ⟨rfl, around⟩

theorem perform_obeys {operation : Instruction.Operation}
    {operate : Disk → (full : Text) → Except Disk.Fault Disk}
    (h : ∀ d d', operate d (Path.below root path) = .ok d' → R d d') :
    Obeys root R (perform operation path operate) := by
  intro tree hroot
  unfold perform resolve
  rw [hroot]
  split
  · next d hd => exact ⟨rfl, h tree.disk d hd⟩
  · exact ⟨hroot, obeyed.refl tree.disk⟩

theorem write_obeys (h : P path) (content : ByteArray) :
    Obeys root R (perform .write path fun disk full => disk.write full content) :=
  perform_obeys obeyed fun d d' => obeyed.write path content d d' h

theorem writeFile_obeys (h : P path) (content : ByteArray) :
    Obeys root R (writeFile path content) :=
  .bind obeyed (get_obeys obeyed) fun tree =>
    .bind obeyed (record_obeys obeyed (tree.renderer.created path content)) fun _ =>
      .bind obeyed (makeRoom_obeys obeyed h) fun _ => write_obeys obeyed h content

theorem removeFile_obeys (h : P path) : Obeys root R (removeFile path) :=
  .bind obeyed (get_obeys obeyed) fun tree =>
    .bind obeyed (record_obeys obeyed (tree.renderer.deleted path)) fun _ =>
      perform_obeys obeyed fun d d' => obeyed.remove path d d' h

theorem readText_obeys (path : Text) : Obeys root R (readText path) := by
  intro tree hroot
  rcases readText_cases tree path with ⟨e, hread⟩ | ⟨bytes, text, -, -, hread⟩
  · have failed : readText path tree = .error e tree := hread tree.trail
    rw [failed]
    exact ⟨hroot, obeyed.refl tree.disk⟩
  · have done : readText path tree = .ok text.normalizeLineEndings tree := hread tree.trail
    rw [done]
    exact ⟨hroot, obeyed.refl tree.disk⟩

theorem editText_obeys (h : P path) (edit : Text → Except Error (Text × α)) :
    Obeys root R (editText path edit) := by
  refine .bind obeyed (readText_obeys obeyed path) fun old => ?_
  cases edit old with
  | error e => exact .throw obeyed e
  | ok result =>
      obtain ⟨new, a⟩ := result
      refine .bind obeyed (get_obeys obeyed) fun tree =>
        .bind obeyed (record_obeys obeyed (tree.renderer.modified path old new)) fun _ => ?_
      by_cases same : new = old
      · rw [if_pos same]
        exact .pure obeyed a
      · rw [if_neg same]
        exact .bind obeyed (write_obeys obeyed h _) fun _ => .pure obeyed a

end WorkTree

/-! ## Runs -/

theorem hereditary_obeys : Hereditary (fun _ _ => Obeys root R) fun c => P c.path where
  pure := .pure obeyed
  bind := .bind obeyed
  adaptExcept g h := h.adaptExcept g
  writeFile _ content h := WorkTree.writeFile_obeys obeyed h content
  removeFile _ h := WorkTree.removeFile_obeys obeyed h
  editText _ edit h := WorkTree.editText_obeys obeyed h edit

namespace Run

/-- Whether or not it fails, a run obeys what operations on its files obey. -/
theorem apply_obeys {registry : Registry} {config : Config}
    (h : ∀ c ∈ changes registry config, P c.path) (disk : Disk) (trail : Trail) :
    R disk (finalTree (apply registry config root disk trail)).disk :=
  ((hereditary_obeys obeyed).patches {} h
    { root, disk, trail, renderer := { contextLines := config.contextLines } } rfl).2

end Run

end

namespace Run

variable (registry : Registry) (config : Config) (root : Text) (disk : Disk) (trail : Trail)

/-- A run removes no directory. -/
theorem apply_kept : disk.Kept (finalTree (apply registry config root disk trail)).disk :=
  apply_obeys (Disk.obeyed_kept root) (fun _ _ => trivial) disk trail

/-- A run whose paths all stay in its directory changes nothing outside of it. -/
theorem apply_sheltered (stays : ∀ c ∈ changes registry config, Path.stays c.path = true) :
    disk.Sheltered root (finalTree (apply registry config root disk trail)).disk :=
  apply_obeys (Disk.obeyed_sheltered root) stays disk trail

end Run

end PatchTrail
