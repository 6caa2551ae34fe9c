import PatchTrail.Proofs.Run.Footprint

/-!
# Instructions as lists of records

Whether an instruction succeeds, and what it leaves then, can be told from records alone: it
succeeds exactly if there is a list of records that is one for this instruction
(`Instruction.Script`) and that can be followed from one tree to the other, each record being noted
in the trail and carried out on the disk (`Instruction.apply_eq_ok_iff`). Which lists are ones for
an instruction does not depend on the tree, so what is proved about following records holds of all
instructions.
-/

namespace PatchTrail

open Instruction (Error)

/-! ## Following records -/

/-- From one disk to another, what records say is carried out one after the other. -/
inductive Record.Followed (root : Text) : List Record → Disk → Disk → Prop where
  | nil {d : Disk} : Followed root [] d d
  | cons {rec : Record} {rs : List Record} {d d' last : Disk} (first : rec.Carried root d d')
      (rest : Followed root rs d' last) : Followed root (rec :: rs) d last

namespace Record

variable {root : Text} {rs ks : List Record} {rec : Record} {d d' last : Disk}

theorem followed_append_iff :
    Followed root (rs ++ ks) d last ↔
      ∃ mid, Followed root rs d mid ∧ Followed root ks mid last := by
  induction rs generalizing d with
  | nil =>
      refine ⟨fun h => ⟨d, .nil, h⟩, ?_⟩
      rintro ⟨mid, first, rest⟩
      cases first
      exact rest
  | cons rec rs ih =>
      constructor
      · intro h
        cases h with
        | cons first rest =>
            obtain ⟨mid, before, behind⟩ := ih.mp rest
            exact ⟨mid, .cons first before, behind⟩
      · rintro ⟨mid, before, behind⟩
        cases before with
        | cons first before => exact .cons first (ih.mpr ⟨mid, before, behind⟩)

theorem followed_singleton_iff : Followed root [rec] d last ↔ rec.Carried root d last := by
  refine ⟨fun h => ?_, fun h => .cons h .nil⟩
  cases h with
  | cons first rest =>
      cases rest
      exact first

/-- The sections of records. -/
def sections (r : Diff.Renderer) (rs : List Record) : Text := rs.flatMap (Record.render r)

end Record

namespace Trail

theorem record?_nil (t : Trail) : t.record? [] = some t := by
  obtain ⟨text, room?⟩ := t
  unfold record?
  cases room? with
  | none => simp
  | some room => simp

/-- To record two texts together is to record one after the other. -/
theorem record?_append (t : Trail) (a b : Text) :
    t.record? (a ++ b) = (t.record? a).bind fun t => t.record? b := by
  obtain ⟨text, room?⟩ := t
  unfold record?
  cases room? with
  | none => simp
  | some room =>
      simp only [Text.size_append]
      by_cases ha : a.size ≤ room
      · simp only [if_pos ha, Option.bind_some]
        by_cases hb : b.size ≤ room - a.size
        · rw [if_pos hb, if_pos (by omega), List.append_assoc, Nat.sub_sub]
        · rw [if_neg hb, if_neg (by omega)]
      · rw [if_neg ha, if_neg (by omega)]
        rfl

end Trail

namespace WorkTree

variable {rs ks : List Record} {rec : Record} {tree tree' : WorkTree}

/-- From one tree to another, records are followed on the disk and their sections are in the
trail. -/
def Follows (rs : List Record) (tree tree' : WorkTree) : Prop :=
  ∃ disk trail, Record.Followed tree.root rs tree.disk disk ∧
    tree.trail.record? (Record.sections tree.renderer rs) = some trail ∧
    tree' = { tree with disk := disk, trail := trail }

theorem follows_nil_iff : Follows [] tree tree' ↔ tree' = tree := by
  constructor
  · rintro ⟨disk, trail, followed, recorded, rfl⟩
    cases followed
    cases (Trail.record?_nil _).symm.trans recorded
    rfl
  · rintro rfl
    exact ⟨tree'.disk, tree'.trail, .nil, Trail.record?_nil _, rfl⟩

theorem follows_append_iff :
    Follows (rs ++ ks) tree tree' ↔ ∃ mid, Follows rs tree mid ∧ Follows ks mid tree' := by
  unfold Follows Record.sections
  simp only [Record.followed_append_iff, List.flatMap_append, Trail.record?_append,
    Option.bind_eq_some_iff]
  constructor
  · rintro ⟨disk, trail, ⟨mid, before, behind⟩, ⟨noted, first, second⟩, rfl⟩
    exact ⟨_, ⟨mid, noted, before, first, rfl⟩, disk, trail, behind, second, rfl⟩
  · rintro ⟨_, ⟨mid, noted, before, first, rfl⟩, disk, trail, behind, second, rfl⟩
    exact ⟨disk, trail, ⟨mid, before, behind⟩, ⟨noted, first, second⟩, rfl⟩

theorem follows_cons_iff :
    Follows (rec :: rs) tree tree' ↔ ∃ mid, Follows [rec] tree mid ∧ Follows rs mid tree' := by
  rw [← List.singleton_append]
  exact follows_append_iff

theorem follows_singleton_iff :
    Follows [rec] tree tree' ↔ ∃ disk trail, rec.Carried tree.root tree.disk disk ∧
      tree.trail.record? (rec.render tree.renderer) = some trail ∧
      tree' = { tree with disk := disk, trail := trail } := by
  unfold Follows
  simp only [Record.followed_singleton_iff, Record.sections, List.flatMap_singleton]

end WorkTree

namespace WorkTree

variable {α : Type} {path : Text} {content : ByteArray} {tree tree' : WorkTree}

theorem record_eq_ok_iff {added : Text} {u : Unit} : record added tree = .ok u tree' ↔
    ∃ trail, tree.trail.record? added = some trail ∧ tree' = tree.withTrail trail := by
  unfold record
  constructor
  · intro h
    split at h
    · next trail hrec =>
        cases h
        exact ⟨trail, hrec, rfl⟩
    · cases h
  · rintro ⟨trail, hrec, rfl⟩
    rw [hrec]
    rfl

theorem perform_eq_ok_iff {operation : Instruction.Operation}
    {operate : Disk → (full : Text) → Except Disk.Fault Disk} {u : Unit} :
    perform operation path operate tree = .ok u tree' ↔
      ∃ disk, operate tree.disk (tree.resolve path) = .ok disk ∧
        tree' = { tree with disk := disk } := by
  unfold perform
  constructor
  · intro h
    split at h
    · next disk hdisk =>
        cases h
        exact ⟨disk, hdisk, rfl⟩
    · cases h
  · rintro ⟨disk, hdisk, rfl⟩
    rw [hdisk]

theorem makeRoom_eq_ok_iff {u : Unit} : makeRoom path tree = .ok u tree' ↔
    ∃ disk, tree.disk.makeDirectories ((Path.parent? (tree.resolve path)).getD []) = (disk, none) ∧
      tree' = { tree with disk := disk } := by
  have room := makeRoom_eq tree path tree.trail
  change makeRoom path tree = _ at room
  rw [room]
  rcases tree.disk.makeDirectories ((Path.parent? (tree.resolve path)).getD [])
    with ⟨disk, _ | fault⟩
  · constructor
    · intro h
      cases h
      exact ⟨disk, rfl, rfl⟩
    · rintro ⟨disk, hdisk, rfl⟩
      cases hdisk
      rfl
  · constructor
    · intro h
      cases h
    · rintro ⟨disk, hdisk, rfl⟩
      cases hdisk

theorem read_eq_ok_iff {bytes : ByteArray} : read path tree = .ok bytes tree' ↔
    tree.disk.read (tree.resolve path) = .ok bytes ∧ tree' = tree := by
  unfold read
  cases tree.disk.read (tree.resolve path) with
  | ok content =>
      constructor
      · intro h
        cases h
        exact ⟨rfl, rfl⟩
      · rintro ⟨hread, rfl⟩
        cases hread
        rfl
  | error fault => exact ⟨nofun, fun h => nomatch h.1⟩

theorem readText_eq_ok_iff {old : Text} : readText path tree = .ok old tree' ↔
    (∃ bytes text, tree.disk.read (tree.resolve path) = .ok bytes ∧
      Text.decode? bytes = some text ∧ text.normalizeLineEndings = old) ∧ tree' = tree := by
  refine bind_succeeds_iff.trans ⟨?_, ?_⟩
  · rintro ⟨bytes, mid, hread, htext⟩
    obtain ⟨hbytes, rfl⟩ := read_eq_ok_iff.mp hread
    cases hdecode : Text.decode? bytes with
    | none =>
        rw [hdecode] at htext
        cases htext
    | some text =>
        rw [hdecode] at htext
        cases htext
        exact ⟨⟨bytes, text, hbytes, hdecode, rfl⟩, rfl⟩
  · rintro ⟨⟨bytes, text, hbytes, hdecode, rfl⟩, rfl⟩
    refine ⟨bytes, _, read_eq_ok_iff.mpr ⟨hbytes, rfl⟩, ?_⟩
    simp only [hdecode]
    rfl

/-- A file is written if what its record says can be noted and carried out. -/
theorem writeFile_eq_ok_iff : writeFile path content tree = .ok () tree' ↔
    Follows [.created path content] tree tree' := by
  change (record (tree.renderer.created path content) >>= fun _ => makeRoom path >>= fun _ =>
    perform .write path fun disk full => disk.write full content) tree = _ ↔ _
  rw [follows_singleton_iff]
  simp only [bind_succeeds_iff, record_eq_ok_iff, makeRoom_eq_ok_iff, perform_eq_ok_iff]
  constructor
  · rintro ⟨-, -, ⟨trail, hrec, rfl⟩, -, -, ⟨mid, hmade, rfl⟩, disk, hwrite, rfl⟩
    exact ⟨disk, trail, ⟨mid, hmade, hwrite⟩, hrec, rfl⟩
  · rintro ⟨disk, trail, ⟨mid, hmade, hwrite⟩, hrec, rfl⟩
    exact ⟨(), _, ⟨trail, hrec, rfl⟩, (), _, ⟨mid, hmade, rfl⟩, disk, hwrite, rfl⟩

/-- A file is removed if what its record says can be noted and carried out. -/
theorem removeFile_eq_ok_iff : removeFile path tree = .ok () tree' ↔
    Follows [.deleted path] tree tree' := by
  change (record (tree.renderer.deleted path) >>= fun _ =>
    perform .remove path Disk.remove) tree = _ ↔ _
  rw [follows_singleton_iff]
  simp only [bind_succeeds_iff, record_eq_ok_iff, perform_eq_ok_iff]
  constructor
  · rintro ⟨-, -, ⟨trail, hrec, rfl⟩, disk, hremove, rfl⟩
    exact ⟨disk, trail, hremove, hrec, rfl⟩
  · rintro ⟨disk, trail, hremove, hrec, rfl⟩
    exact ⟨(), _, ⟨trail, hrec, rfl⟩, disk, hremove, rfl⟩

/-- A text is edited if it can be and what the record of that says can be noted and carried out. -/
theorem editText_eq_ok_iff {edit : Text → Except Error (Text × α)} {a : α} :
    editText path edit tree = .ok a tree' ↔
      ∃ old new, edit old = .ok (new, a) ∧ Follows [.modified path old new] tree tree' := by
  refine bind_succeeds_iff.trans ?_
  simp only [follows_singleton_iff, readText_eq_ok_iff]
  constructor
  · rintro ⟨old, mid, ⟨read, rfl⟩, h⟩
    cases hedit : edit old with
    | error e =>
        rw [hedit] at h
        cases h
    | ok result =>
        obtain ⟨new, b⟩ := result
        rw [hedit] at h
        change (record (mid.renderer.modified path old new) >>= fun _ =>
          if new = old then pure b
          else
            perform .write path (fun disk full => disk.write full (Text.encode new)) >>= fun _ =>
              pure b) mid = _ at h
        obtain ⟨u, noted, hnoted, h⟩ := bind_succeeds_iff.mp h
        obtain ⟨trail, hrec, rfl⟩ := record_eq_ok_iff.mp hnoted
        split at h
        · next same =>
            cases h
            exact ⟨old, new, hedit, mid.disk, trail, ⟨read, (if_pos same).mpr rfl⟩, hrec, rfl⟩
        · next changed =>
            obtain ⟨u, last, written, h⟩ := bind_succeeds_iff.mp h
            obtain ⟨disk, hwrite, rfl⟩ := perform_eq_ok_iff.mp written
            cases h
            exact ⟨old, new, hedit, disk, trail, ⟨read, (if_neg changed).mpr hwrite⟩, hrec, rfl⟩
  · rintro ⟨old, new, hedit, disk, trail, ⟨read, written⟩, hrec, rfl⟩
    refine ⟨old, tree, ⟨read, rfl⟩, ?_⟩
    simp only [hedit]
    change (record (tree.renderer.modified path old new) >>= fun _ =>
      if new = old then pure a
      else
        perform .write path (fun disk full => disk.write full (Text.encode new)) >>= fun _ =>
          pure a) tree = _
    refine bind_succeeds_iff.mpr ⟨(), _, record_eq_ok_iff.mpr ⟨trail, hrec, rfl⟩, ?_⟩
    split at written
    · next same =>
        rw [written, if_pos same]
        rfl
    · next changed =>
        rw [if_neg changed]
        exact bind_succeeds_iff.mpr ⟨(), _, perform_eq_ok_iff.mpr ⟨disk, written, rfl⟩, rfl⟩

end WorkTree

/-! ## Instructions -/

namespace Instruction

/-- The lists of records that an instruction leaves when it succeeds. -/
inductive Script : Instruction → List Record → Prop where
  | writeFile {path : Text} {content : ByteArray} :
      Script (.writeFile path content) [.created path content]
  | deleteFile {path : Text} : Script (.deleteFile path) [.deleted path]
  | noFile {patchers : List Patcher} : Script (.patchFiles [] patchers) []
  | file {path old new : Text} {paths : List Text} {patchers : List Patcher} {rs : List Record}
      (patched : runPatchers path patchers old = .ok new)
      (rest : Script (.patchFiles paths patchers) rs) :
      Script (.patchFiles (path :: paths) patchers) (.modified path old new :: rs)
  /-- The resource is in the table already. -/
  | standing {definition : Resource.Definition} {table : Text}
      (there : definition.allocate table = .ok none) :
      Script (.defineResource definition) [.modified Resource.tablePath table table]
  /-- The resource is added to the table, and its constant to the file of constants. -/
  | added {definition : Resource.Definition} {table new id text : Text}
      (allocated : definition.allocate table = .ok (some (new, id))) :
      Script (.defineResource definition) [.modified Resource.tablePath table new,
        .modified definition.constantsPath text (text ++ definition.constantLines id)]
  | done : Script (.sequence []) []
  | step {i : Instruction} {is : List Instruction} {rs ks : List Record} (first : Script i rs)
      (rest : Script (.sequence is) ks) : Script (.sequence (i :: is)) (rs ++ ks)

variable {tree tree' : WorkTree}

theorem patchEach_eq_ok_iff {patchers : List Patcher} {paths : List Text} :
    patchEach patchers paths tree = .ok () tree' ↔
      ∃ rs, Script (.patchFiles paths patchers) rs ∧ tree.Follows rs tree' := by
  induction paths generalizing tree with
  | nil =>
      constructor
      · intro h
        cases h
        exact ⟨[], .noFile, WorkTree.follows_nil_iff.mpr rfl⟩
      · rintro ⟨rs, script, follows⟩
        cases script
        cases WorkTree.follows_nil_iff.mp follows
        rfl
  | cons path paths ih =>
      refine bind_succeeds_iff.trans ?_
      simp only [WorkTree.editText_eq_ok_iff, ih]
      constructor
      · rintro ⟨u, mid, ⟨old, new, patched, first⟩, rs, rest, follows⟩
        cases hrun : runPatchers path patchers old with
        | error e =>
            rw [hrun] at patched
            cases patched
        | ok new' =>
            rw [hrun] at patched
            cases patched
            exact ⟨_, .file hrun rest, WorkTree.follows_cons_iff.mpr ⟨mid, first, follows⟩⟩
      · rintro ⟨rs, script, follows⟩
        cases script with
        | @file _ old new _ _ rs patched rest =>
            obtain ⟨mid, first, follows⟩ := WorkTree.follows_cons_iff.mp follows
            exact ⟨(), mid, ⟨old, new, by rw [patched]; rfl, first⟩, rs, rest, follows⟩

/-- A resource is added to a table, or is there already and leaves it as it is. -/
theorem allocateIn_eq_ok_iff {definition : Resource.Definition} {table new : Text}
    {id? : Option Text} : allocateIn definition table = .ok (new, id?) ↔
      (definition.allocate table = .ok none ∧ new = table ∧ id? = none) ∨
        ∃ id, definition.allocate table = .ok (some (new, id)) ∧ id? = some id := by
  unfold allocateIn
  rcases definition.allocate table with cause | _ | ⟨new', id⟩
  · simp
  · simp [eq_comm]
  · simp only [Except.ok.injEq, Option.some.injEq, Prod.mk.injEq, reduceCtorEq, false_and,
      false_or]
    constructor
    · rintro ⟨rfl, rfl⟩
      exact ⟨id, ⟨rfl, rfl⟩, rfl⟩
    · rintro ⟨id, ⟨rfl, rfl⟩, rfl⟩
      exact ⟨rfl, rfl⟩

theorem define_eq_ok_iff {definition : Resource.Definition} :
    define definition tree = .ok () tree' ↔
      ∃ rs, Script (.defineResource definition) rs ∧ tree.Follows rs tree' := by
  refine bind_succeeds_iff.trans ?_
  simp only [WorkTree.editText_eq_ok_iff, allocateIn_eq_ok_iff]
  constructor
  · rintro ⟨id?, mid, ⟨table, new, ⟨there, rfl, rfl⟩ | ⟨id, allocated, rfl⟩, first⟩, h⟩
    · cases h
      exact ⟨_, .standing there, first⟩
    · obtain ⟨text, new', hnew, second⟩ := WorkTree.editText_eq_ok_iff.mp h
      cases hnew
      exact ⟨_, .added allocated, WorkTree.follows_cons_iff.mpr ⟨mid, first, second⟩⟩
  · rintro ⟨rs, script, follows⟩
    cases script with
    | @standing _ table there =>
        exact ⟨none, tree', ⟨table, table, .inl ⟨there, rfl, rfl⟩, follows⟩, rfl⟩
    | @added _ table new id text allocated =>
        obtain ⟨mid, first, second⟩ := WorkTree.follows_cons_iff.mp follows
        exact ⟨some id, mid, ⟨table, new, .inr ⟨id, allocated, rfl⟩, first⟩,
          WorkTree.editText_eq_ok_iff.mpr ⟨text, _, rfl, second⟩⟩

mutual

/-- An instruction succeeds exactly if there is a list of records for it that can be followed. -/
theorem apply_eq_ok_iff (i : Instruction) {tree tree' : WorkTree} :
    i.apply tree = .ok () tree' ↔ ∃ rs, Script i rs ∧ tree.Follows rs tree' := by
  match i with
  | .writeFile path content =>
      refine WorkTree.writeFile_eq_ok_iff.trans ⟨fun follows => ⟨_, .writeFile, follows⟩, ?_⟩
      rintro ⟨rs, ⟨⟩, follows⟩
      exact follows
  | .deleteFile path =>
      refine WorkTree.removeFile_eq_ok_iff.trans ⟨fun follows => ⟨_, .deleteFile, follows⟩, ?_⟩
      rintro ⟨rs, ⟨⟩, follows⟩
      exact follows
  | .patchFiles paths patchers => exact patchEach_eq_ok_iff
  | .defineResource definition => exact define_eq_ok_iff
  | .sequence is => exact applyFrom_eq_ok_iff is 0

theorem applyFrom_eq_ok_iff (is : List Instruction) (index : Nat) {tree tree' : WorkTree} :
    apply.applyFrom index is tree = .ok () tree' ↔
      ∃ rs, Script (.sequence is) rs ∧ tree.Follows rs tree' := by
  match is with
  | [] =>
      constructor
      · intro h
        cases h
        exact ⟨[], .done, WorkTree.follows_nil_iff.mpr rfl⟩
      · rintro ⟨rs, script, follows⟩
        cases script
        cases WorkTree.follows_nil_iff.mp follows
        rfl
  | i :: is =>
      rw [applyFrom_cons, bind_succeeds_iff]
      simp only [adaptExcept_succeeds_iff, apply_eq_ok_iff i, applyFrom_eq_ok_iff is (index + 1)]
      constructor
      · rintro ⟨-, mid, ⟨rs, first, follows⟩, ks, rest, follows'⟩
        exact ⟨_, .step first rest, WorkTree.follows_append_iff.mpr ⟨mid, follows, follows'⟩⟩
      · rintro ⟨_, script, follows⟩
        cases script with
        | @step _ _ rs ks first rest =>
            obtain ⟨mid, follows, follows'⟩ := WorkTree.follows_append_iff.mp follows
            exact ⟨(), mid, ⟨rs, first, follows⟩, ks, rest, follows'⟩

end

theorem sequence_cons_eq_ok_iff {i : Instruction} {is : List Instruction} :
    (sequence (i :: is)).apply tree = .ok () tree' ↔
      ∃ mid, i.apply tree = .ok () mid ∧ (sequence is).apply mid = .ok () tree' := by
  change apply.applyFrom 0 (i :: is) tree = _ ↔ ∃ mid, _ ∧ apply.applyFrom 0 is mid = _
  rw [applyFrom_cons, bind_succeeds_iff]
  simp only [adaptExcept_succeeds_iff, applyFrom_eq_ok_iff]
  constructor
  · rintro ⟨u, mid, first, rest⟩
    exact ⟨mid, first, rest⟩
  · rintro ⟨mid, first, rest⟩
    exact ⟨(), mid, first, rest⟩

theorem sequence_append_eq_ok_iff {is js : List Instruction} :
    (sequence (is ++ js)).apply tree = .ok () tree' ↔
      ∃ mid, (sequence is).apply tree = .ok () mid ∧ (sequence js).apply mid = .ok () tree' := by
  induction is generalizing tree with
  | nil =>
      refine ⟨fun h => ⟨tree, rfl, h⟩, ?_⟩
      rintro ⟨mid, none, rest⟩
      cases none
      exact rest
  | cons i is ih =>
      simp only [List.cons_append, sequence_cons_eq_ok_iff, ih]
      constructor
      · rintro ⟨next, first, mid, before, behind⟩
        exact ⟨mid, ⟨next, first, before⟩, behind⟩
      · rintro ⟨mid, ⟨next, first, before⟩, behind⟩
        exact ⟨next, first, mid, before, behind⟩

end Instruction

/-- A patch succeeds exactly if there is a list of records for its instructions that can be
followed. -/
theorem Patch.apply_eq_ok_iff (p : Patch) {tree tree' : WorkTree} :
    p.apply tree = .ok () tree' ↔
      ∃ rs, (Instruction.sequence p.instructions).Script rs ∧ tree.Follows rs tree' := by
  rw [p.apply_eq, adaptExcept_succeeds_iff]
  exact Instruction.apply_eq_ok_iff _

end PatchTrail
