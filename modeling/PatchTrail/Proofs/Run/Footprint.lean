import PatchTrail.Diff.Section
import PatchTrail.Proofs.Run.Refusal
import PatchTrail.Proofs.Run.Stopping

/-!
# What a run can touch

Which files a run can change, make and remove can be told from its instructions alone
(`Instruction.changes`), whatever the files are, however much room the trail has and whether or not
the run fails. Files that no instruction is about keep their bytes, files come into being only where
one is to be written, and they vanish only where one is to be removed (`Run.apply_within`).

What one change of a tree may do to files is `WorkTree.Within`. It holds of whatever is put together
from changes for which it holds, so it is enough to look at one file at a time. This is so for other
properties of changes as well (`Hereditary`), and the one induction over instructions and patches
does for all of them.
-/

namespace PatchTrail

open Instruction (Error)

/-! ## Changes of files -/

namespace Diff.Change

/-- The path of the file that a change is about. -/
def path : Change → Text
  | created path => path
  | deleted path => path
  | edited path => path

/-- The place of the file that a change is about, below a directory. -/
def place (root : Text) (here : List Text) (c : Change) : List Text :=
  Path.spelled here (Path.below root c.path)

end Diff.Change

namespace Disk

variable {root path : Text} {cs ks : List Diff.Change} {d d' d'' : Disk} {content old : ByteArray}

/-- From one disk to another only files have changed that some changes are about, and only those
have come or gone that are to be written or removed. -/
structure Within (root : Text) (cs : List Diff.Change) (d d' : Disk) : Prop where
  here : d'.here = d.here
  changed : ∀ p, d'.file? p ≠ d.file? p → ∃ c ∈ cs, c.place root d.here = p
  made : ∀ p, d.file? p = none → d'.file? p ≠ none →
    ∃ path, .created path ∈ cs ∧ (Diff.Change.created path).place root d.here = p
  gone : ∀ p, d.file? p ≠ none → d'.file? p = none →
    ∃ path, .deleted path ∈ cs ∧ (Diff.Change.deleted path).place root d.here = p

theorem SameFiles.within (h : SameFiles d d') : Within root cs d d' where
  here := h.1
  changed p hp := absurd (h.2 p) hp
  made p hnone hsome := absurd (h.2 p ▸ hnone) hsome
  gone p hsome hnone := absurd (h.2 p ▸ hnone) hsome

theorem Within.mono (h : Within root cs d d') (sub : cs ⊆ ks) : Within root ks d d' where
  here := h.here
  changed p hp :=
    let ⟨c, hc, hplace⟩ := h.changed p hp
    ⟨c, sub hc, hplace⟩
  made p hnone hsome :=
    let ⟨path, hc, hplace⟩ := h.made p hnone hsome
    ⟨path, sub hc, hplace⟩
  gone p hsome hnone :=
    let ⟨path, hc, hplace⟩ := h.gone p hsome hnone
    ⟨path, sub hc, hplace⟩

theorem Within.trans (h : Within root cs d d') (h' : Within root cs d' d'') :
    Within root cs d d'' where
  here := h'.here.trans h.here
  changed p hp := by
    by_cases first : d'.file? p = d.file? p
    · rw [← h.here]
      exact h'.changed p (first ▸ hp)
    · exact h.changed p first
  made p hnone hsome := by
    by_cases first : d'.file? p = none
    · rw [← h.here]
      exact h'.made p first hsome
    · exact h.made p hnone first
  gone p hsome hnone := by
    by_cases first : d'.file? p = none
    · exact h.gone p hsome first
    · rw [← h.here]
      exact h'.gone p first hnone

theorem file?_put {place : List Text} (root : place ≠ []) (d : Disk) (content : ByteArray) :
    (d.put place (.file content)).file? place = some content := by
  unfold file?
  rw [entry?_put_self root]

theorem file?_erase (d : Disk) (place : List Text) : (d.erase place).file? place = none := by
  unfold file?
  rw [entry?_erase]
  split
  · next hroot =>
      split at hroot
      · cases hroot
      · rw [if_pos rfl] at hroot
        cases hroot
  · rfl

theorem ne_nil_of_ne_directory {place : List Text} (h : d.entry? place ≠ some .directory) :
    place ≠ [] := by
  rintro rfl
  exact h rfl

/-- A file that has been read is there. -/
theorem file?_of_read (h : d.read path = .ok content) :
    d.file? (Path.spelled d.here path) = some content := by
  unfold Disk.read at h
  cases hplace : d.locate path with
  | error fault =>
      rw [hplace] at h
      cases h
  | ok place =>
      rw [hplace] at h
      rw [← locate_eq hplace]
      unfold file?
      simp only [bind, Except.bind] at h
      split at h
      · cases h
      · cases h
      · next hentry =>
          cases h
          rw [hentry]

/-- Writing makes or changes the file that is written. -/
theorem within_write (h : d.write (Path.below root path) content = .ok d') :
    Within root [.created path] d d' := by
  have only := changesOnly_write h
  obtain ⟨place, hplace, hentry, rfl⟩ := write_eq h
  have there := file?_put (ne_nil_of_ne_directory hentry) d content
  have spelled := locate_eq hplace
  rw [← spelled] at only
  refine ⟨rfl, fun p hp => ⟨_, List.mem_cons_self, ?_⟩, fun p hnone hsome =>
    ⟨path, List.mem_cons_self, ?_⟩, fun p hsome hnone => ?_⟩
  · exact spelled.symm.trans (Classical.byContradiction fun hne => hp (only.2 p (Ne.symm hne)))
  · refine spelled.symm.trans (Classical.byContradiction fun hne => hsome ?_)
    rw [only.2 p (Ne.symm hne), hnone]
  · by_cases hp : p = place
    · rw [hp, there] at hnone
      cases hnone
    · exact absurd ((only.2 p hp).symm.trans hnone) hsome

/-- Writing a file that has been read changes it and no more. -/
theorem within_rewrite (hread : d.read (Path.below root path) = .ok old)
    (h : d.write (Path.below root path) content = .ok d') :
    Within root [.edited path] d d' := by
  have written := within_write h
  have there := file?_of_read hread
  refine ⟨written.here, fun p hp => ⟨_, List.mem_cons_self, ?_⟩, fun p hnone hsome => ?_,
    fun p hsome hnone => ?_⟩
  · obtain ⟨c, hc, hplace⟩ := written.changed p hp
    rw [← hplace, List.mem_singleton.mp hc]
    rfl
  · obtain ⟨path', hc, hplace⟩ := written.made p hnone hsome
    cases List.mem_singleton.mp hc
    have : d.file? p = some old := hplace ▸ there
    rw [hnone] at this
    cases this
  · obtain ⟨path', hc, -⟩ := written.gone p hsome hnone
    cases List.mem_singleton.mp hc

/-- Removing a file takes it away. -/
theorem within_remove (h : d.remove (Path.below root path) = .ok d') :
    Within root [.deleted path] d d' := by
  have only := changesOnly_remove h
  obtain ⟨place, content, hplace, -, rfl⟩ := remove_eq h
  have spelled := locate_eq hplace
  rw [← spelled] at only
  refine ⟨rfl, fun p hp => ⟨_, List.mem_cons_self, ?_⟩, fun p hnone hsome => ?_,
    fun p hsome hnone => ⟨path, List.mem_cons_self, ?_⟩⟩
  · exact spelled.symm.trans (Classical.byContradiction fun hne => hp (only.2 p (Ne.symm hne)))
  · by_cases hp : p = place
    · rw [hp, file?_erase] at hsome
      exact absurd rfl hsome
    · exact absurd ((only.2 p hp).trans hnone) hsome
  · refine spelled.symm.trans (Classical.byContradiction fun hne => hsome ?_)
    rw [← only.2 p (Ne.symm hne), hnone]

end Disk

/-! ## Changes of trees -/

variable {ε ε' α β : Type} {cs ks : List Diff.Change} {tree tree' : WorkTree}

/-- From one tree to another no more is done to files than some changes say. -/
structure WorkTree.Within (cs : List Diff.Change) (tree tree' : WorkTree) : Prop where
  root : tree'.root = tree.root
  disk : Disk.Within tree.root cs tree.disk tree'.disk

namespace WorkTree.Within

theorem refl (cs : List Diff.Change) (tree : WorkTree) : Within cs tree tree :=
  ⟨rfl, (Disk.SameFiles.refl _).within⟩

theorem mono (h : Within cs tree tree') (sub : cs ⊆ ks) : Within ks tree tree' :=
  ⟨h.root, h.disk.mono sub⟩

theorem trans {tree'' : WorkTree} (h : Within cs tree tree') (h' : Within cs tree' tree'') :
    Within cs tree tree'' := by
  have second := h'.disk
  rw [h.root] at second
  exact ⟨h'.root.trans h.root, h.disk.trans second⟩

end WorkTree.Within

section

variable {c : Change ε α} {f : α → Change ε β}

theorem finalTree_adaptExcept (c : Change ε α) (g : ε → ε') (tree : WorkTree) :
    finalTree (c.adaptExcept g tree) = finalTree (c tree) := by
  unfold EStateM.adaptExcept
  cases c tree with
  | error e mid => rfl
  | ok a mid => rfl

/-- What holds of two changes one after the other holds of both together. -/
theorem finalTree_bind {R : WorkTree → WorkTree → Prop}
    (trans : ∀ tree mid last, R tree mid → R mid last → R tree last)
    (first : R tree (finalTree (c tree)))
    (next : ∀ a mid, c tree = .ok a mid → R mid (finalTree (f a mid))) :
    R tree (finalTree ((c >>= f) tree)) := by
  cases hc : c tree with
  | error e mid =>
      rw [hc] at first
      rw [bind_error hc]
      exact first
  | ok a mid =>
      rw [hc] at first
      rw [bind_ok hc]
      exact trans _ _ _ first (next a mid hc)

theorem WorkTree.Within.bind (first : Within cs tree (finalTree (c tree)))
    (next : ∀ a mid, c tree = .ok a mid → Within cs mid (finalTree (f a mid))) :
    Within cs tree (finalTree ((c >>= f) tree)) :=
  finalTree_bind (fun _ _ _ => .trans) first next

end

/-- Whether or not it fails, a change does no more to files than some changes say. -/
def Confined (cs : List Diff.Change) (c : Change ε α) : Prop :=
  ∀ tree, WorkTree.Within cs tree (finalTree (c tree))

namespace Confined

variable {c : Change ε α} {f : α → Change ε β}

theorem pure (a : α) : Confined cs (pure a : Change ε α) := fun tree => .refl cs tree

theorem mono (h : Confined cs c) (sub : cs ⊆ ks) : Confined ks c := fun tree => (h tree).mono sub

theorem bind (h : Confined cs c) (h' : ∀ a, Confined cs (f a)) : Confined cs (c >>= f) :=
  fun tree => (h tree).bind fun a mid _ => h' a mid

theorem adaptExcept (h : Confined cs c) (g : ε → ε') : Confined cs (c.adaptExcept g) := by
  intro tree
  rw [finalTree_adaptExcept]
  exact h tree

end Confined

/-! ## Files of a tree -/

namespace WorkTree

theorem record_eq {added : Text} {u : Unit} (h : record added tree = .ok u tree') :
    ∃ trail, tree' = tree.withTrail trail := by
  unfold record at h
  split at h
  · cases h
    exact ⟨_, rfl⟩
  · cases h

theorem record_confined (added : Text) : Confined cs (record added) := by
  intro tree
  unfold record
  split
  · exact ⟨rfl, (Disk.SameFiles.refl _).within⟩
  · exact .refl cs tree

theorem makeRoom_confined (path : Text) : Confined cs (makeRoom path) := by
  intro tree
  have around := Disk.sameFiles_makeDirectories tree.disk
    ((Path.parent? (tree.resolve path)).getD [])
  have room := makeRoom_eq tree path tree.trail
  change makeRoom path tree = _ at room
  rw [room]
  rcases hmade : tree.disk.makeDirectories ((Path.parent? (tree.resolve path)).getD [])
    with ⟨disk, _ | fault⟩
  · rw [hmade] at around
    exact ⟨rfl, around.within⟩
  · rw [hmade] at around
    exact ⟨rfl, around.within⟩

theorem within_perform {operation : Instruction.Operation} {path : Text}
    {operate : Disk → (full : Text) → Except Disk.Fault Disk}
    (h : ∀ d, operate tree.disk (tree.resolve path) = .ok d →
      Disk.Within tree.root cs tree.disk d) :
    Within cs tree (finalTree (perform operation path operate tree)) := by
  unfold perform
  split
  · next d hd => exact ⟨rfl, h d hd⟩
  · exact .refl cs tree

theorem writeFile_confined (path : Text) (content : ByteArray) :
    Confined [.created path] (writeFile path content) := by
  intro tree
  refine (record_confined _ tree).bind fun _ mid _ => ?_
  refine (makeRoom_confined path mid).bind fun _ mid _ => ?_
  exact within_perform fun d hd => Disk.within_write hd

theorem removeFile_confined (path : Text) : Confined [.deleted path] (removeFile path) := by
  intro tree
  refine (record_confined _ tree).bind fun _ mid _ => ?_
  exact within_perform fun d hd => Disk.within_remove hd

/-- A file is edited only after it has been read, so it is there before and after. -/
theorem editText_confined (path : Text) (edit : Text → Except Error (Text × α)) :
    Confined [.edited path] (editText path edit) := by
  intro tree
  rcases readText_cases tree path with ⟨e, hread⟩ | ⟨bytes, text, hbytes, -, hread⟩
  · have failed : editText path edit tree = .error e tree := bind_error (hread tree.trail)
    rw [failed]
    exact .refl _ tree
  · have step := editText_eq edit hread tree.trail
    change editText path edit tree = _ at step
    rw [step]
    clear step
    cases edit text.normalizeLineEndings with
    | error e => exact .refl _ tree
    | ok result =>
        obtain ⟨new, a⟩ := result
        refine (record_confined _ tree).bind fun _ mid hrec => ?_
        obtain ⟨trail, rfl⟩ := record_eq hrec
        split
        · exact .refl _ _
        · refine (within_perform fun d hd => ?_).bind fun _ last _ => .refl _ last
          exact Disk.within_rewrite hbytes hd

end WorkTree

/-! ## Instructions -/

namespace Instruction

/-- What an instruction may do to files. -/
def changes : Instruction → List Diff.Change
  | writeFile path _ => [.created path]
  | deleteFile path => [.deleted path]
  | patchFiles paths _ => paths.map .edited
  | defineResource definition => [.edited Resource.tablePath, .edited definition.constantsPath]
  | sequence instructions => changesOf instructions
where
  /-- What instructions may do to files. -/
  changesOf : List Instruction → List Diff.Change
    | [] => []
    | i :: rest => changes i ++ changesOf rest

end Instruction

/-- What a patch may do to files. -/
def Patch.changes (p : Patch) : List Diff.Change := Instruction.changes.changesOf p.instructions

/-- What a run may do to files: what the patches may that are not left out. -/
def Run.changes (registry : Registry) (config : Config) : List Diff.Change :=
  (registry.patches.filter fun p => !config.skip.contains p.name).flatMap Patch.changes

/-! ## What holds of every run -/

/-- A property of changes that holds of whatever is put together from changes of which it holds. It
holds of one that is about a single file if something holds of what that may do to the file. -/
structure Hereditary (Q : (ε α : Type) → Change ε α → Prop) (P : Diff.Change → Prop) : Prop where
  pure : ∀ {ε α : Type} (a : α), Q ε α (pure a)
  bind : ∀ {ε α β : Type} {c : Change ε α} {f : α → Change ε β}, Q ε α c → (∀ a, Q ε β (f a)) →
    Q ε β (c >>= f)
  adaptExcept : ∀ {ε ε' α : Type} {c : Change ε α} (g : ε → ε'), Q ε α c → Q ε' α (c.adaptExcept g)
  writeFile : ∀ path content, P (.created path) → Q Error Unit (WorkTree.writeFile path content)
  removeFile : ∀ path, P (.deleted path) → Q Error Unit (WorkTree.removeFile path)
  editText : ∀ {α : Type} path (edit : Text → Except Error (Text × α)), P (.edited path) →
    Q Error α (WorkTree.editText path edit)

namespace Hereditary

variable {Q : (ε α : Type) → Change ε α → Prop} {P : Diff.Change → Prop}
variable (hereditary : Hereditary Q P)

include hereditary

theorem patchEach (patchers : List Patcher) {paths : List Text}
    (h : ∀ c ∈ paths.map Diff.Change.edited, P c) :
    Q Error Unit (Instruction.patchEach patchers paths) := by
  induction paths with
  | nil => exact hereditary.pure ()
  | cons path paths ih =>
      rw [List.map_cons, List.forall_mem_cons] at h
      exact hereditary.bind (hereditary.editText path _ h.1) fun _ => ih h.2

theorem define {definition : Resource.Definition} (table : P (.edited Resource.tablePath))
    (constants : P (.edited definition.constantsPath)) :
    Q Error Unit (Instruction.define definition) := by
  refine hereditary.bind (hereditary.editText Resource.tablePath _ table) fun id? => ?_
  cases id? with
  | none => exact hereditary.pure ()
  | some id => exact hereditary.editText definition.constantsPath _ constants

mutual

/-- It holds of an instruction if something holds of all that the instruction may do to files. -/
theorem instruction (i : Instruction) (h : ∀ c ∈ i.changes, P c) : Q Error Unit i.apply := by
  match i with
  | .writeFile path content => exact hereditary.writeFile path content (h _ List.mem_cons_self)
  | .deleteFile path => exact hereditary.removeFile path (h _ List.mem_cons_self)
  | .patchFiles paths patchers => exact hereditary.patchEach patchers h
  | .defineResource definition =>
      rw [Instruction.changes, List.forall_mem_cons, List.forall_mem_singleton] at h
      exact hereditary.define h.1 h.2
  | .sequence instructions => exact instructionsFrom instructions 0 h

theorem instructionsFrom (is : List Instruction) (index : Nat)
    (h : ∀ c ∈ Instruction.changes.changesOf is, P c) :
    Q Error Unit (Instruction.apply.applyFrom index is) := by
  match is with
  | [] => exact hereditary.pure ()
  | i :: rest =>
      rw [Instruction.changes.changesOf, List.forall_mem_append] at h
      exact hereditary.bind (hereditary.adaptExcept _ (instruction i h.1)) fun _ =>
        instructionsFrom rest (index + 1) h.2

end

theorem patch (p : Patch) (h : ∀ c ∈ p.changes, P c) : Q Patch.Error Unit p.apply := by
  rw [p.apply_eq]
  exact hereditary.adaptExcept _ (hereditary.instructionsFrom p.instructions 0 h)

theorem patches {skip : List Text} {patches : List Patch} (done : Run.Summary)
    (h : ∀ c ∈ (patches.filter fun p => !skip.contains p.name).flatMap Patch.changes, P c) :
    Q Patch.Error Run.Summary (Run.applyAll skip done patches) := by
  induction patches generalizing done with
  | nil => exact hereditary.pure done
  | cons p rest ih =>
      rw [Run.applyAll_cons]
      by_cases hskip : p.name ∈ skip
      · rw [List.filter_cons_of_neg (by simpa using hskip)] at h
        rw [if_pos hskip]
        exact ih _ h
      · rw [List.filter_cons_of_pos (by simpa using hskip), List.flatMap_cons,
          List.forall_mem_append] at h
        rw [if_neg hskip]
        exact hereditary.bind (hereditary.patch p h.1) fun _ => ih _ h.2

end Hereditary

/-! ## Runs -/

theorem hereditary_confined (cs : List Diff.Change) :
    Hereditary (fun _ _ => Confined cs) fun c => c ∈ cs where
  pure := .pure
  bind := .bind
  adaptExcept g h := h.adaptExcept g
  writeFile path content h := (WorkTree.writeFile_confined path content).mono (by simpa using h)
  removeFile path h := (WorkTree.removeFile_confined path).mono (by simpa using h)
  editText path edit h := (WorkTree.editText_confined path edit).mono (by simpa using h)

namespace Run

theorem applyAll_confined (skip : List Text) (done : Summary) (patches : List Patch) :
    Confined ((patches.filter fun p => !skip.contains p.name).flatMap Patch.changes)
      (applyAll skip done patches) :=
  (hereditary_confined _).patches done fun _ h => h

/-- Whether or not a run fails, a file that no instruction of its patches is about is there with the
same bytes exactly if it was there before, a file comes into being only where one is to be written,
and it vanishes only where one is to be removed. -/
theorem apply_within (registry : Registry) (config : Config) (root : Text) (disk : Disk)
    (trail : Trail) :
    let last := (finalTree (apply registry config root disk trail)).disk
    let cs := changes registry config
    (∀ p, (∀ c ∈ cs, c.place root disk.here ≠ p) → last.file? p = disk.file? p) ∧
      (∀ p, disk.file? p = none → last.file? p ≠ none →
        ∃ path, .created path ∈ cs ∧ (Diff.Change.created path).place root disk.here = p) ∧
      ∀ p, disk.file? p ≠ none → last.file? p = none →
        ∃ path, .deleted path ∈ cs ∧ (Diff.Change.deleted path).place root disk.here = p := by
  intro last cs
  have within : Disk.Within root cs disk last :=
    (applyAll_confined config.skip {} registry.patches
      { root, disk, trail, renderer := { contextLines := config.contextLines } }).disk
  refine ⟨fun p apart => Classical.byContradiction fun hne => ?_, within.made, within.gone⟩
  obtain ⟨c, hc, hplace⟩ := within.changed p hne
  exact apart c hc hplace

end Run

end PatchTrail
