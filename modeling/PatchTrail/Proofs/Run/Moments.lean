import PatchTrail.Proofs.Run.Journal
import PatchTrail.Run.Basic

/-!
# The moments of instructions, patches and runs

For each kind of instruction, and for what is put together from instructions, these are the moments
at which a section is recorded. Where one step comes after another, its moments are those on the
tree that the first has left, and there are none if the first has failed.

That the moments are the right ones is proved step by step (`Instruction.journaled`,
`Patch.journaled`, `Run.journaled`): every step records a section before it touches the file that
the section is about.
-/

namespace PatchTrail

open Instruction (Error)

variable {α ε : Type}

/-! ## Definitions -/

/-- Moments on the tree that a change has left, unless it has failed. -/
def after (result : EStateM.Result ε WorkTree α) (moments : α → WorkTree → List Moment) :
    List Moment :=
  match result with
  | .ok a tree => moments a tree
  | .error _ _ => []

namespace WorkTree

/-- The moments of editing the text of a file. -/
def editMoments (path : Text) (edit : Text → Except Error (Text × α)) (tree : WorkTree) :
    List Moment :=
  after (readText path tree) fun old tree =>
    match edit old with
    | .ok (new, _) => [⟨tree.disk, .modified path old new⟩]
    | .error _ => []

end WorkTree

namespace Instruction

/-- The moments of running patchers on the texts of files. -/
def patchMoments (patchers : List Patcher) : (paths : List Text) → WorkTree → List Moment
  | [], _ => []
  | path :: rest, tree =>
    let edit := fun text => (runPatchers path patchers text).map fun new => (new, ())
    WorkTree.editMoments path edit tree
      ++ after (WorkTree.editText path edit tree) fun _ tree => patchMoments patchers rest tree

/-- The moments of adding a resource. -/
def defineMoments (definition : Resource.Definition) (tree : WorkTree) : List Moment :=
  WorkTree.editMoments Resource.tablePath (allocateIn definition) tree
    ++ after (WorkTree.editText Resource.tablePath (allocateIn definition) tree) fun id? tree =>
      match id? with
      | none => []
      | some id =>
        WorkTree.editMoments (α := Unit) definition.constantsPath
          (fun text => .ok (text ++ definition.constantLines id, ())) tree

/-- The moments of an instruction. -/
def moments : Instruction → WorkTree → List Moment
  | writeFile path content, tree => [⟨tree.disk, .created path content⟩]
  | deleteFile path, tree => [⟨tree.disk, .deleted path⟩]
  | patchFiles paths patchers, tree => patchMoments patchers paths tree
  | defineResource definition, tree => defineMoments definition tree
  | sequence instructions, tree => momentsFrom instructions tree
where
  /-- The moments of instructions one after the other. -/
  momentsFrom : List Instruction → WorkTree → List Moment
    | [], _ => []
    | i :: rest, tree => moments i tree ++ after (i.apply tree) fun _ tree => momentsFrom rest tree

end Instruction

/-- The moments of a patch. -/
def Patch.moments (p : Patch) (tree : WorkTree) : List Moment :=
  Instruction.moments.momentsFrom p.instructions tree

namespace Run

/-- The moments of applying patches. -/
def moments (skip : List Text) : List Patch → WorkTree → List Moment
  | [], _ => []
  | p :: rest, tree =>
    if p.name ∈ skip then moments skip rest tree
    else p.moments tree ++ after (p.apply tree) fun _ tree => moments skip rest tree

end Run

/-- The moments of one change after the other. -/
theorem Journaled.andThen {β : Type} {full : ε → Prop} {c : Change ε α} {f : α → Change ε β}
    {tree : WorkTree} {ms : List Moment} {moments : α → WorkTree → List Moment}
    (free : tree.trail.room? = none) (h : Journaled full c tree ms)
    (next : ∀ a tree', tree'.trail.room? = none → Journaled full (f a) tree' (moments a tree')) :
    Journaled full (c >>= f) tree (ms ++ after (c tree) moments) := by
  refine h.bind free (fun a tree' hc free' => ?_) fun e tree' hc => ?_
  · rw [hc]
    exact next a tree' free'
  · rw [hc]
    rfl

theorem after_adaptExcept {ε' : Type} (c : Change ε α) (g : ε → ε') (tree : WorkTree)
    (moments : α → WorkTree → List Moment) :
    after (c.adaptExcept g tree) moments = after (c tree) moments := by
  unfold EStateM.adaptExcept
  cases c tree <;> rfl

/-! ## Files -/

namespace WorkTree

variable {tree : WorkTree}

/-- A file can be read as a text or not, and the trail has no part in it. -/
theorem readText_cases (tree : WorkTree) (path : Text) :
    (∃ e, Quiet (readText path) tree (.error e) tree.disk) ∨
      ∃ bytes text, tree.disk.read (tree.resolve path) = .ok bytes ∧
        Text.decode? bytes = some text ∧
        Quiet (readText path) tree (.ok text.normalizeLineEndings) tree.disk := by
  cases hread : tree.disk.read (tree.resolve path) with
  | error fault =>
      have quiet : Quiet (read path) tree (.error (.disk .read path fault)) tree.disk := by
        intro trail
        unfold read
        rw [withTrail_disk, withTrail_resolve, hread]
        rfl
      exact .inl ⟨_, quiet.bind_error⟩
  | ok bytes =>
      have quiet : Quiet (read path) tree (.ok bytes) tree.disk := by
        intro trail
        unfold read
        rw [withTrail_disk, withTrail_resolve, hread]
        rfl
      cases htext : Text.decode? bytes with
      | none =>
          refine .inl ⟨.notText path, quiet.bind fun trail => ?_⟩
          simp only [htext]
          rfl
      | some text =>
          refine .inr ⟨bytes, text, rfl, htext, quiet.bind fun trail => ?_⟩
          simp only [htext]
          rfl

theorem makeDirectories_nil (d : Disk) : d.makeDirectories [] = (d, none) := by
  unfold Disk.makeDirectories
  rw [Disk.makeDirectoriesUpTo, if_pos rfl]

theorem makeRoom_eq (tree : WorkTree) (path : Text) (trail : Trail) :
    makeRoom path (tree.withTrail trail) =
      match tree.disk.makeDirectories ((Path.parent? (tree.resolve path)).getD []) with
      | (disk, none) => .ok () { tree with disk := disk, trail := trail }
      | (disk, some fault) =>
        .error (.disk .makeDirectory path fault) { tree with disk := disk, trail := trail } := by
  unfold makeRoom
  rw [withTrail_resolve]
  cases Path.parent? (tree.resolve path) with
  | none =>
      rw [Option.getD_none, makeDirectories_nil]
      rfl
  | some directory =>
      simp only [withTrail_disk, Option.getD_some]
      rcases tree.disk.makeDirectories directory with ⟨disk, _ | fault⟩
      · rfl
      · rfl

section

variable {operation : Instruction.Operation} {path : Text} {d : Disk} {fault : Disk.Fault}
  (operate : Disk → (full : Text) → Except Disk.Fault Disk)

theorem quiet_perform (h : operate tree.disk (tree.resolve path) = .ok d) :
    Quiet (perform operation path operate) tree (.ok ()) d := by
  intro trail
  unfold perform
  rw [withTrail_disk, withTrail_resolve, h]
  rfl

theorem quiet_perform_error (h : operate tree.disk (tree.resolve path) = .error fault) :
    Quiet (perform operation path operate) tree (.error (.disk operation path fault))
      tree.disk := by
  intro trail
  unfold perform
  rw [withTrail_disk, withTrail_resolve, h]
  rfl

end

/-- A file is written after its section is recorded. -/
theorem writeFile_journaled (tree : WorkTree) (path : Text) (content : ByteArray) :
    Journaled (fun e => e.root = .trailFull) (writeFile path content) tree
      [⟨tree.disk, .created path content⟩] := by
  have quiet : ∃ value last,
      Quiet (makeRoom path >>= fun _ =>
        perform .write path fun disk full => disk.write full content) tree value last ∧
      (Record.created path content).Touched tree.root tree.disk last ∧
      ∀ a, value = .ok a → (Record.created path content).Carried tree.root tree.disk last := by
    have room := makeRoom_eq tree path
    have around := Disk.sameFiles_makeDirectories tree.disk
      ((Path.parent? (tree.resolve path)).getD [])
    rcases hmade : tree.disk.makeDirectories ((Path.parent? (tree.resolve path)).getD [])
      with ⟨disk, _ | fault⟩
    · rw [hmade] at room around
      have room : Quiet (makeRoom path) tree (.ok ()) disk := room
      cases hwrite : disk.write (tree.resolve path) content with
      | error fault =>
          exact ⟨.error (.disk .write path fault), disk,
            room.bind (quiet_perform_error (fun disk full => disk.write full content) hwrite),
            Record.touched_of_sameFiles around, nofun⟩
      | ok last =>
          have carried : (Record.created path content).Carried tree.root tree.disk last :=
            ⟨disk, hmade, hwrite⟩
          exact ⟨.ok (), last,
            room.bind (quiet_perform (fun disk full => disk.write full content) hwrite),
            carried.touched, fun _ _ => carried⟩
    · rw [hmade] at room around
      have room : Quiet (makeRoom path) tree (.error (.disk .makeDirectory path fault)) disk := room
      exact ⟨_, disk, room.bind_error, Record.touched_of_sameFiles around, nofun⟩
  obtain ⟨value, last, quiet, touched, carried⟩ := quiet
  exact (Journaled.of_record _ quiet touched carried).congr fun trail => rfl

/-- A file is removed after its section is recorded. -/
theorem removeFile_journaled (tree : WorkTree) (path : Text) :
    Journaled (fun e => e.root = .trailFull) (removeFile path) tree
      [⟨tree.disk, .deleted path⟩] := by
  cases hremove : tree.disk.remove (tree.resolve path) with
  | error fault =>
      have quiet : Quiet (perform .remove path Disk.remove) tree _ _ :=
        quiet_perform_error Disk.remove hremove
      exact (Journaled.of_record (.deleted path) quiet (Record.touched_of_sameFiles (.refl _))
        nofun).congr fun trail => rfl
  | ok last =>
      have quiet : Quiet (perform .remove path Disk.remove) tree _ _ :=
        quiet_perform Disk.remove hremove
      have carried : (Record.deleted path).Carried tree.root tree.disk last := hremove
      exact (Journaled.of_record (.deleted path) quiet carried.touched
        fun _ _ => carried).congr fun trail => rfl

section

variable {path old : Text} (edit : Text → Except Error (Text × α))

/-- The text of a file that has been read is edited, recorded, and written if it has changed. -/
theorem editText_eq (hread : Quiet (readText path) tree (.ok old) tree.disk) (trail : Trail) :
    editText path edit (tree.withTrail trail) =
      (match edit old with
      | .error e => .error e (tree.withTrail trail)
      | .ok (new, a) =>
        (record (tree.renderer.modified path old new) >>= fun _ =>
          if new = old then pure a
          else
            perform .write path (fun disk full => disk.write full (Text.encode new)) >>= fun _ =>
              pure a) (tree.withTrail trail)) := by
  refine (bind_ok (hread trail)).trans ?_
  cases edit old with
  | error e => rfl
  | ok result => rfl

theorem editMoments_eq (hread : Quiet (readText path) tree (.ok old) tree.disk) :
    editMoments path edit tree =
      match edit old with
      | .ok (new, _) => [⟨tree.disk, .modified path old new⟩]
      | .error _ => [] := by
  have read := hread tree.trail
  change readText path tree = .ok old tree at read
  unfold editMoments
  rw [read]
  rfl

/-- An edited text is written after its section is recorded, if it has changed. -/
theorem edited_journaled (tree : WorkTree) (path new : Text) (a : α)
    (read : ∃ bytes text, tree.disk.read (tree.resolve path) = .ok bytes ∧
      Text.decode? bytes = some text ∧ text.normalizeLineEndings = old) :
    Journaled (fun e => e.root = .trailFull)
      (record (tree.renderer.modified path old new) >>= fun _ =>
        if new = old then pure a
        else
          perform .write path (fun disk full => disk.write full (Text.encode new)) >>= fun _ =>
            pure a) tree [⟨tree.disk, .modified path old new⟩] := by
  by_cases hsame : new = old
  · rw [if_pos hsame]
    have carried : (Record.modified path old new).Carried tree.root tree.disk tree.disk :=
      ⟨read, by rw [if_pos hsame]⟩
    exact .of_record _ (.pure a tree) carried.touched fun _ _ => carried
  · rw [if_neg hsame]
    cases hwrite : tree.disk.write (tree.resolve path) (Text.encode new) with
    | error fault =>
        have quiet : Quiet (perform .write path fun disk full => disk.write full (Text.encode new))
            tree _ _ :=
          quiet_perform_error (fun disk full => disk.write full (Text.encode new)) hwrite
        exact .of_record (.modified path old new) quiet.bind_error
          (Record.touched_of_sameFiles (.refl _)) nofun
    | ok last =>
        have quiet : Quiet (perform .write path fun disk full => disk.write full (Text.encode new))
            tree _ _ :=
          quiet_perform (fun disk full => disk.write full (Text.encode new)) hwrite
        have carried : (Record.modified path old new).Carried tree.root tree.disk last := by
          refine ⟨read, ?_⟩
          rw [if_neg hsame]
          exact hwrite
        exact .of_record _ (quiet.bind (.pure a _)) carried.touched fun _ _ => carried

end

/-- A file is edited after its section is recorded, and only if it changes. -/
theorem editText_journaled (tree : WorkTree) (path : Text)
    (edit : Text → Except Error (Text × α)) :
    Journaled (fun e => e.root = .trailFull) (editText path edit) tree
      (editMoments path edit tree) := by
  rcases readText_cases tree path with ⟨e, hread⟩ | ⟨bytes, text, hbytes, htext, hread⟩
  · have none : editMoments path edit tree = [] := by
      have read := hread tree.trail
      change readText path tree = .error e tree at read
      unfold editMoments
      rw [read]
      rfl
    rw [none]
    exact .of_quiet hread.bind_error
  · have step := editText_eq edit hread
    rw [editMoments_eq edit hread]
    cases hedit : edit text.normalizeLineEndings with
    | error e =>
        rw [hedit] at step
        exact .of_quiet step
    | ok result =>
        obtain ⟨new, a⟩ := result
        rw [hedit] at step
        exact (edited_journaled tree path new a ⟨bytes, text, hbytes, htext, rfl⟩).congr step

end WorkTree

/-! ## Instructions -/

/-- The failure of a change of files that a full trail is to blame for. -/
def Instruction.Full (e : Error) : Prop := e.root = .trailFull

namespace Instruction

theorem patchEach_journaled (patchers : List Patcher) (paths : List Text) {tree : WorkTree}
    (free : tree.trail.room? = none) :
    Journaled Full (patchEach patchers paths) tree (patchMoments patchers paths tree) := by
  induction paths generalizing tree with
  | nil => exact .pure () tree
  | cons path paths ih =>
      exact (WorkTree.editText_journaled tree path _).andThen free fun _ _ free' => ih free'

theorem define_journaled (definition : Resource.Definition) {tree : WorkTree}
    (free : tree.trail.room? = none) :
    Journaled Full (define definition) tree (defineMoments definition tree) := by
  refine (WorkTree.editText_journaled tree Resource.tablePath _).andThen free
    fun id? tree' free' => ?_
  cases id? with
  | none => exact .pure () tree'
  | some id => exact WorkTree.editText_journaled tree' _ _

mutual

/-- An instruction records a section before it touches the file that the section is about. -/
theorem journaled (i : Instruction) (tree : WorkTree) (free : tree.trail.room? = none) :
    Journaled Full i.apply tree (i.moments tree) := by
  match i with
  | writeFile path content => exact WorkTree.writeFile_journaled tree path content
  | deleteFile path => exact WorkTree.removeFile_journaled tree path
  | patchFiles paths patchers => exact patchEach_journaled patchers paths free
  | defineResource definition => exact define_journaled definition free
  | sequence instructions => exact applyFrom_journaled instructions 0 tree free

theorem applyFrom_journaled (is : List Instruction) (index : Nat) (tree : WorkTree)
    (free : tree.trail.room? = none) :
    Journaled Full (apply.applyFrom index is) tree (moments.momentsFrom is tree) := by
  match is with
  | [] => exact .pure () tree
  | i :: rest =>
      have first : Journaled Full (i.apply.adaptExcept (Error.sequence index)) tree
          (i.moments tree) := (journaled i tree free).adaptExcept fun _ he => he
      have both := first.andThen free fun _ tree' free' =>
        applyFrom_journaled rest (index + 1) tree' free'
      rwa [after_adaptExcept] at both

end

end Instruction

/-! ## Patches and runs -/

namespace Patch

/-- The failure of a patch that a full trail is to blame for. -/
def Full (e : Patch.Error) : Prop := Instruction.Full e.cause

theorem applyFrom_journaled (name : Text) (index : Nat) (is : List Instruction) {tree : WorkTree}
    (free : tree.trail.room? = none) :
    Journaled Full (applyFrom name index is) tree (Instruction.moments.momentsFrom is tree) := by
  induction is generalizing index tree with
  | nil => exact .pure () tree
  | cons i rest ih =>
      have first : Journaled Full (i.apply.adaptExcept fun cause => ⟨name, index, cause⟩) tree
          (i.moments tree) := (i.journaled tree free).adaptExcept fun _ he => he
      have both := first.andThen free fun _ tree' free' => ih (index + 1) free'
      rwa [after_adaptExcept] at both

/-- A patch records a section before it touches the file that the section is about. -/
theorem journaled (p : Patch) {tree : WorkTree} (free : tree.trail.room? = none) :
    Journaled Full p.apply tree (p.moments tree) :=
  applyFrom_journaled p.name 0 p.instructions free

end Patch

namespace Run

theorem applyAll_cons (skip : List Text) (done : Summary) (p : Patch) (rest : List Patch) :
    applyAll skip done (p :: rest) =
      if p.name ∈ skip then applyAll skip { done with skipped := done.skipped ++ [p.name] } rest
      else p.apply >>= fun _ =>
        applyAll skip { done with applied := done.applied ++ [p.name] } rest := rfl

theorem moments_cons (skip : List Text) (p : Patch) (rest : List Patch) (tree : WorkTree) :
    moments skip (p :: rest) tree =
      if p.name ∈ skip then moments skip rest tree
      else p.moments tree ++ after (p.apply tree) fun _ tree => moments skip rest tree := rfl

/-- Applying patches records a section before it touches the file that the section is about. -/
theorem journaled (skip : List Text) (done : Summary) (patches : List Patch) {tree : WorkTree}
    (free : tree.trail.room? = none) :
    Journaled Patch.Full (applyAll skip done patches) tree (moments skip patches tree) := by
  induction patches generalizing done tree with
  | nil => exact .pure done tree
  | cons p rest ih =>
      rw [applyAll_cons, moments_cons]
      split
      · exact ih _ free
      · exact (p.journaled free).andThen free fun _ tree' free' => ih _ free'

end Run

end PatchTrail
