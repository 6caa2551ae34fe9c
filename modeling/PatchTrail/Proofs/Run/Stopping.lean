import PatchTrail.Proofs.Disk.Same
import PatchTrail.Proofs.Registry.Adding
import PatchTrail.Proofs.Run.Moments

/-!
# Where a failed run has stopped

A failure of a run names a patch and the position of one of its instructions. The tree and the trail
are then those of a run that succeeds on all patches named before, followed by the instructions
before that position, and by what the failing instruction leaves behind (`Run.apply_stopped`).

What an instruction leaves behind depends on its kind (`Instruction.Leaves`). Reading, checking and
patching a text come before its section is recorded, and a file that has been read can be written
(`WorkTree.editText_error`), so of an edit that fails nothing is left. A file that is written or
removed is recorded first, so of these the section is left.
-/

namespace PatchTrail

open Instruction (Error)

/-- A registry with only the patches that are named before a name. -/
def Registry.before (r : Registry) (name : Text) : Registry where
  patches := r.patches.filter fun p => p.name < name
  sorted := r.sorted.filter _
  named := fun p hp => r.named p (List.mem_filter.1 hp).1

/-- A tree with a section at the end of its unbounded trail. -/
def WorkTree.noting (tree : WorkTree) (added : Text) : WorkTree :=
  tree.withTrail ⟨tree.trail.text ++ added, none⟩

namespace Instruction

/-- The failure of reading a file as a text. -/
def Unreadable (path : Text) (e : Error) : Prop :=
  (∃ fault, e = .disk .read path fault) ∨ e = .notText path

/-- What an instruction that fails leaves behind, from the tree that it has begun on to the tree
that is there when it has failed. -/
inductive Leaves : Instruction → Error → WorkTree → WorkTree → Prop where
  /-- A file that could not be written has its section, and no file is changed. -/
  | section {path : Text} {content : ByteArray} {operation : Operation} {fault : Disk.Fault}
      {tree : WorkTree} {disk : Disk} (making : operation = .makeDirectory ∨ operation = .write)
      (same : Disk.SameFiles tree.disk disk) :
      Leaves (.writeFile path content) (.disk operation path fault) tree
        { tree.noting (tree.renderer.created path content) with disk := disk }
  /-- A file that could not be removed has its section, and the disk is what it was. -/
  | removal {path : Text} {fault : Disk.Fault} {tree : WorkTree} :
      Leaves (.deleteFile path) (.disk .remove path fault) tree
        (tree.noting (tree.renderer.deleted path))
  /-- The files before the one that could not be patched are patched, and nothing else is done. -/
  | paths {before after : List Text} {path : Text} {patchers : List Patcher} {e : Error}
      {tree tree' : WorkTree} (done : (patchFiles before patchers).apply tree = .ok () tree')
      (blames : Unreadable path e ∨ ∃ index cause, e = .patcher path index cause) :
      Leaves (.patchFiles (before ++ path :: after) patchers) e tree tree'
  /-- The table could not be read or the resource not be added to it, and nothing is done. -/
  | nothing {definition : Resource.Definition} {e : Error} {tree : WorkTree}
      (blames : Unreadable Resource.tablePath e ∨ ∃ cause, e = .resource cause) :
      Leaves (.defineResource definition) e tree tree
  /-- The file of constants could not be read, and only the table is edited. -/
  | table {definition : Resource.Definition} {id : Text} {e : Error} {tree tree' : WorkTree}
      (done : WorkTree.editText Resource.tablePath (allocateIn definition) tree =
        .ok (some id) tree') (blames : Unreadable definition.constantsPath e) :
      Leaves (.defineResource definition) e tree tree'
  /-- The instructions before the one that failed are followed, and that one leaves what it
  leaves. -/
  | child {before after : List Instruction} {i : Instruction} {e : Error}
      {tree mid tree' : WorkTree} (done : (sequence before).apply tree = .ok () mid)
      (left : Leaves i e mid tree') :
      Leaves (.sequence (before ++ i :: after)) (.sequence before.length e) tree tree'

end Instruction

/-! ## Changes with an unbounded trail -/

/-- An unbounded trail stays unbounded. -/
theorem Journaled.free {ε α : Type} {full : ε → Prop} {c : Change ε α} {tree tree' : WorkTree}
    {ms : List Moment} {a : α} (h : Journaled full c tree ms) (free : tree.trail.room? = none)
    (run : c tree = .ok a tree') : tree'.trail.room? = none := by
  obtain ⟨value, last, plays, -⟩ := h
  have whole := plays.unbounded free
  rw [run] at whole
  cases value with
  | error e => cases whole
  | ok a' =>
      cases whole
      rfl

/-! ## Files -/

namespace WorkTree

variable {α : Type} {path : Text} {tree tree' : WorkTree} {e : Error}

theorem readText_error (h : readText path tree = .error e tree') :
    tree' = tree ∧ Instruction.Unreadable path e := by
  rcases of_bind_error h with hread | ⟨bytes, mid, hread, htext⟩
  · unfold read at hread
    split at hread
    · cases hread
    · next fault _ =>
        cases hread
        exact ⟨rfl, .inl ⟨fault, rfl⟩⟩
  · unfold read at hread
    split at hread
    · cases hread
      cases hdecode : Text.decode? bytes with
      | some text =>
          rw [hdecode] at htext
          cases htext
      | none =>
          rw [hdecode] at htext
          cases htext
          exact ⟨rfl, .inr rfl⟩
    · cases hread

theorem record_free (free : tree.trail.room? = none) (added : Text) :
    record added tree = .ok () (tree.noting added) := by
  unfold record Trail.record?
  rw [free]
  rfl

/-- A file that has been read can be written. -/
theorem write_of_read {d : Disk} {full : Text} {old : ByteArray} (h : d.read full = .ok old)
    (content : ByteArray) : ∃ d', d.write full content = .ok d' := by
  unfold Disk.read at h
  unfold Disk.write
  cases hplace : d.locate full with
  | error fault =>
      rw [hplace] at h
      cases h
  | ok place =>
      rw [hplace] at h
      simp only [bind, Except.bind] at h ⊢
      cases hentry : d.entry? place with
      | none =>
          rw [hentry] at h
          cases h
      | some entry =>
          rw [hentry] at h
          cases entry with
          | directory => cases h
          | file old' => exact ⟨_, rfl⟩

/-- An edit that fails leaves nothing: the file could not be read, or what it holds could not be
edited. -/
theorem editText_error {edit : Text → Except Error (Text × α)} (free : tree.trail.room? = none)
    (h : editText path edit tree = .error e tree') :
    tree' = tree ∧ (Instruction.Unreadable path e ∨ ∃ old, edit old = .error e) := by
  rcases readText_cases tree path with ⟨e', hread⟩ | ⟨bytes, text, hbytes, -, hread⟩
  · have hread : readText path tree = .error e' tree := hread tree.trail
    have h' : editText path edit tree = .error e' tree := bind_error hread
    rw [h'] at h
    cases h
    exact ⟨rfl, .inl (readText_error hread).2⟩
  · have step := editText_eq edit hread tree.trail
    change editText path edit tree = _ at step
    rw [step] at h
    clear step
    cases hedit : edit text.normalizeLineEndings with
    | error e' =>
        rw [hedit] at h
        cases h
        exact ⟨rfl, .inr ⟨_, hedit⟩⟩
    | ok result =>
        -- once the edit is there, nothing can fail any more
        obtain ⟨new, a⟩ := result
        obtain ⟨d, hwrite⟩ := write_of_read hbytes (Text.encode new)
        rw [hedit] at h
        simp only at h
        have recorded := record_free free
          (tree.renderer.modified path text.normalizeLineEndings new)
        have h := (bind_ok recorded).symm.trans h
        split at h
        · cases h
        · have quiet : Quiet
              (perform .write path fun disk full => disk.write full (Text.encode new))
              tree (.ok ()) d :=
            quiet_perform (fun disk full => disk.write full (Text.encode new)) hwrite
          have written := (bind_ok (quiet _)).symm.trans h
          cases written

/-- A file that could not be written has its section all the same. -/
theorem writeFile_error {content : ByteArray} (free : tree.trail.room? = none)
    (h : writeFile path content tree = .error e tree') :
    Instruction.Leaves (.writeFile path content) e tree tree' := by
  have recorded := record_free free (tree.renderer.created path content)
  have h := (bind_ok recorded).symm.trans h
  have room := makeRoom_eq tree path ⟨tree.trail.text ++ tree.renderer.created path content, none⟩
  have around := Disk.sameFiles_makeDirectories tree.disk
    ((Path.parent? (tree.resolve path)).getD [])
  rcases hmade : tree.disk.makeDirectories ((Path.parent? (tree.resolve path)).getD [])
    with ⟨disk, _ | fault⟩
  · rw [hmade] at room around
    have h := (bind_ok room).symm.trans h
    unfold perform at h
    split at h
    · cases h
    · cases h
      exact .section (.inr rfl) around
  · rw [hmade] at room around
    have h := (bind_error room).symm.trans h
    cases h
    exact .section (.inl rfl) around

/-- A file that could not be removed has its section all the same. -/
theorem removeFile_error (free : tree.trail.room? = none)
    (h : removeFile path tree = .error e tree') :
    Instruction.Leaves (.deleteFile path) e tree tree' := by
  have recorded := record_free free (tree.renderer.deleted path)
  have h := (bind_ok recorded).symm.trans h
  unfold perform at h
  split at h
  · cases h
  · cases h
    exact .removal

end WorkTree

/-! ## Instructions -/

namespace Instruction

theorem apply_patchFiles_cons (path : Text) (paths : List Text) (patchers : List Patcher) :
    (patchFiles (path :: paths) patchers).apply =
      WorkTree.editText path (fun text => (runPatchers path patchers text).map fun new => (new, ()))
        >>= fun _ => (patchFiles paths patchers).apply := rfl

/-- Of several files those before the one that could not be patched are patched. -/
theorem patchFiles_error {paths : List Text} {patchers : List Patcher} {tree tree' : WorkTree}
    {e : Error} (free : tree.trail.room? = none)
    (h : (patchFiles paths patchers).apply tree = .error e tree') :
    Leaves (.patchFiles paths patchers) e tree tree' := by
  induction paths generalizing tree with
  | nil => cases h
  | cons path paths ih =>
      rw [apply_patchFiles_cons] at h
      rcases of_bind_error h with hedit | ⟨_, mid, hedit, hrest⟩
      · obtain ⟨rfl, hread | ⟨old, hpatch⟩⟩ := WorkTree.editText_error free hedit
        · change Leaves (.patchFiles ([] ++ path :: paths) patchers) e tree' tree'
          exact .paths rfl (.inl hread)
        · change Leaves (.patchFiles ([] ++ path :: paths) patchers) e tree' tree'
          refine .paths rfl (.inr ?_)
          unfold runPatchers at hpatch
          split at hpatch
          · cases hpatch
          · next index cause _ =>
              cases hpatch
              exact ⟨index, cause, rfl⟩
      · have free' := (WorkTree.editText_journaled tree path _).free free hedit
        cases ih free' hrest with
        | @paths before after other _ _ _ _ done blames =>
            change Leaves (.patchFiles ((path :: before) ++ other :: after) patchers) e tree tree'
            refine .paths ?_ blames
            rw [apply_patchFiles_cons, bind_ok hedit]
            exact done

/-- Of a resource that could not be added nothing is left, or the edit of the table. -/
theorem define_error {definition : Resource.Definition} {tree tree' : WorkTree} {e : Error}
    (free : tree.trail.room? = none) (h : define definition tree = .error e tree') :
    Leaves (.defineResource definition) e tree tree' := by
  rcases of_bind_error h with htable | ⟨id?, mid, htable, hconstants⟩
  · obtain ⟨rfl, hread | ⟨old, hallocate⟩⟩ := WorkTree.editText_error free htable
    · exact .nothing (.inl hread)
    · refine .nothing (.inr ?_)
      unfold allocateIn at hallocate
      split at hallocate
      · cases hallocate
      · cases hallocate
      · next cause _ =>
          cases hallocate
          exact ⟨cause, rfl⟩
  · have free' := (WorkTree.editText_journaled tree Resource.tablePath _).free free htable
    cases id? with
    | none => cases hconstants
    | some id =>
        obtain ⟨rfl, hread | ⟨old, hnever⟩⟩ := WorkTree.editText_error free' hconstants
        · exact .table htable hread
        · cases hnever

theorem apply_sequence (is : List Instruction) :
    (sequence is).apply = apply.applyFrom 0 is := rfl

theorem applyFrom_cons (index : Nat) (i : Instruction) (is : List Instruction) :
    apply.applyFrom index (i :: is) =
      i.apply.adaptExcept (Error.sequence index) >>= fun _ => apply.applyFrom (index + 1) is := rfl

/-- The position from which instructions are counted shows in failures only. -/
theorem applyFrom_ok {is : List Instruction} {index : Nat} {tree tree' : WorkTree}
    (h : apply.applyFrom index is tree = .ok () tree') (index' : Nat) :
    apply.applyFrom index' is tree = .ok () tree' := by
  induction is generalizing index index' tree with
  | nil => exact h
  | cons i is ih =>
      rw [applyFrom_cons] at h ⊢
      cases hfirst : i.apply tree with
      | error e mid =>
          rw [bind_error (adaptExcept_error _ hfirst)] at h
          cases h
      | ok a mid =>
          rw [bind_ok (adaptExcept_ok _ hfirst)] at h ⊢
          exact ih h _

mutual

/-- What an instruction that fails leaves behind. -/
theorem leaves_of_error (i : Instruction) {tree tree' : WorkTree} {e : Error}
    (free : tree.trail.room? = none) (h : i.apply tree = .error e tree') :
    Leaves i e tree tree' := by
  match i with
  | writeFile path content => exact WorkTree.writeFile_error free h
  | deleteFile path => exact WorkTree.removeFile_error free h
  | patchFiles paths patchers => exact patchFiles_error free h
  | defineResource definition => exact define_error free h
  | sequence is =>
      obtain ⟨before, i, after, cause, mid, rfl, he, done, left⟩ := applyFrom_error is 0 free h
      rw [he, Nat.zero_add]
      exact .child done left

/-- Instructions one after the other stop at the first that fails. -/
theorem applyFrom_error (is : List Instruction) (index : Nat) {tree tree' : WorkTree} {e : Error}
    (free : tree.trail.room? = none) (h : apply.applyFrom index is tree = .error e tree') :
    ∃ before i after cause mid, is = before ++ i :: after ∧
      e = .sequence (index + before.length) cause ∧ (sequence before).apply tree = .ok () mid ∧
      Leaves i cause mid tree' := by
  match is with
  | [] => cases h
  | i :: is =>
      rw [applyFrom_cons] at h
      rcases of_bind_error h with hfirst | ⟨_, mid, hfirst, hrest⟩
      · obtain ⟨cause, rfl, hcause⟩ := of_adaptExcept_error hfirst
        exact ⟨[], i, is, cause, tree, rfl, rfl, rfl, leaves_of_error i free hcause⟩
      · have hdone := of_adaptExcept_ok hfirst
        have free' := (journaled i tree free).free free hdone
        obtain ⟨before, j, after, cause, mid', rfl, rfl, done, left⟩ :=
          applyFrom_error is (index + 1) free' hrest
        refine ⟨i :: before, j, after, cause, mid', rfl, ?_, ?_, left⟩
        · rw [List.length_cons, Nat.add_assoc, Nat.add_comm 1]
        · rw [apply_sequence, applyFrom_cons, bind_ok (adaptExcept_ok _ hdone)]
          exact applyFrom_ok done 1

end

end Instruction

/-! ## Patches -/

namespace Patch

/-- The failure of a patch that a failure of the sequence of its instructions is. -/
def Error.ofSequence (name : Text) : Instruction.Error → Patch.Error
  | .sequence index cause => ⟨name, index, cause⟩
  | e => ⟨name, 0, e⟩

theorem applyFrom_cons (name : Text) (index : Nat) (i : Instruction) (is : List Instruction) :
    applyFrom name index (i :: is) =
      (i.apply.adaptExcept fun cause => ⟨name, index, cause⟩) >>= fun _ =>
        applyFrom name (index + 1) is := rfl

theorem applyFrom_eq (name : Text) (index : Nat) (is : List Instruction) :
    applyFrom name index is =
      (Instruction.apply.applyFrom index is).adaptExcept (Error.ofSequence name) := by
  induction is generalizing index with
  | nil => rfl
  | cons i is ih =>
      rw [applyFrom_cons, Instruction.applyFrom_cons, ih, adaptExcept_bind, adaptExcept_adaptExcept]
      rfl

/-- A patch does what the sequence of its instructions does. -/
theorem apply_eq (p : Patch) :
    p.apply = (Instruction.sequence p.instructions).apply.adaptExcept (Error.ofSequence p.name) :=
  applyFrom_eq p.name 0 p.instructions

end Patch

/-! ## Runs -/

namespace Registry

variable {r : Registry} {before after : List Patch} {p : Patch}

end Registry

namespace Run

/-- Why a change has failed, if it has. -/
def failure? {ε α : Type} : EStateM.Result ε WorkTree α → Option ε
  | .ok _ _ => none
  | .error e _ => some e

end Run

end PatchTrail
