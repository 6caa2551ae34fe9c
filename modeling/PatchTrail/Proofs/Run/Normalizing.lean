import PatchTrail.Proofs.Disk.Sheltered
import PatchTrail.Proofs.Run.Script
import PatchTrail.Proofs.Text.LineEndings

/-!
# Edits and line endings

An edit is given the text of a file with its line endings normalized, and nothing else of the file
has a part in what it does (`WorkTree.editText_handed`). So it cannot tell a file from one with
carriage returns before some of its line feeds (`Instruction.patchFiles_ignores_returns`).
Normalizing leaves out one carriage return before each line feed, not all of them: what the edit is
given can still have a carriage return before a line feed, exactly if there were two of them
(`WorkTree.editText_bare_iff`).
-/

namespace PatchTrail

open Instruction (Error)
open Text (Bare Single Returned)

namespace WorkTree

variable {α : Type} {tree : WorkTree} {path text new : Text} {content : ByteArray} {a : α}
  {edit : Text → Except Error (Text × α)} {e : Error}

/-! ## Editing a file that can be read -/

theorem readText_of_read (hread : tree.disk.read (tree.resolve path) = .ok content)
    (decoded : Text.decode? content = some text) :
    readText path tree = .ok text.normalizeLineEndings tree :=
  readText_eq_ok_iff.mpr ⟨⟨content, text, hread, decoded, rfl⟩, rfl⟩

/-- An edit is asked for nothing but what it makes of the text with its line endings normalized. -/
theorem editText_handed (hread : tree.disk.read (tree.resolve path) = .ok content)
    (decoded : Text.decode? content = some text) (edit : Text → Except Error (Text × α)) :
    editText path edit tree = editText path (fun _ => edit text.normalizeLineEndings) tree := by
  unfold editText
  rw [bind_ok (readText_of_read hread decoded), bind_ok (readText_of_read hread decoded)]

theorem editText_of_error (hread : tree.disk.read (tree.resolve path) = .ok content)
    (decoded : Text.decode? content = some text)
    (failed : edit text.normalizeLineEndings = .error e) :
    editText path edit tree = .error e tree := by
  refine (bind_ok (readText_of_read hread decoded)).trans ?_
  rw [failed]
  rfl

/-- Once an edit is there, only a trail without room for its section can stop it, because a file
that has been read can be written. -/
theorem exists_editText_of_ok (edit : Text → Except Error (Text × α))
    (hread : tree.disk.read (tree.resolve path) = .ok content)
    (decoded : Text.decode? content = some text)
    (edited : edit text.normalizeLineEndings = .ok (new, a)) :
    ∃ disk, (if new = text.normalizeLineEndings then disk = tree.disk
        else tree.disk.write (tree.resolve path) (Text.encode new) = .ok disk) ∧
      editText path edit tree =
        match tree.trail.record?
          (tree.renderer.modified path text.normalizeLineEndings new) with
        | none => .error .trailFull tree
        | some trail => .ok a { tree with disk := disk, trail := trail } := by
  obtain ⟨disk, hwrite⟩ := write_of_read hread (Text.encode new)
  have run : editText path edit tree =
      (record (tree.renderer.modified path text.normalizeLineEndings new) >>= fun _ =>
        if new = text.normalizeLineEndings then pure a
        else
          perform .write path (fun disk full => disk.write full (Text.encode new)) >>= fun _ =>
            pure a) tree := by
    refine (bind_ok (readText_of_read hread decoded)).trans ?_
    rw [edited]
    rfl
  rw [run]
  cases hrec : tree.trail.record?
      (tree.renderer.modified path text.normalizeLineEndings new) with
  | none =>
      have full : record (tree.renderer.modified path text.normalizeLineEndings new) tree =
          .error .trailFull tree := by
        rw [record, hrec]
      by_cases same : new = text.normalizeLineEndings
      · exact ⟨tree.disk, by rw [if_pos same], bind_error full⟩
      · exact ⟨disk, by rwa [if_neg same], bind_error full⟩
  | some trail =>
      have noted : record (tree.renderer.modified path text.normalizeLineEndings new) tree =
          .ok () { tree with trail := trail } := by
        rw [record, hrec]
      by_cases same : new = text.normalizeLineEndings
      · refine ⟨tree.disk, by rw [if_pos same], (bind_ok noted).trans ?_⟩
        rw [if_pos same]
        rfl
      · refine ⟨disk, by rwa [if_neg same], (bind_ok noted).trans ?_⟩
        have written : perform .write path (fun disk full => disk.write full (Text.encode new))
            { tree with trail := trail } = .ok () { tree with disk := disk, trail := trail } :=
          perform_eq_ok_iff.mpr ⟨disk, hwrite, rfl⟩
        rw [if_neg same]
        exact bind_ok written

/-- An edit is given a text without carriage returns before line feeds exactly if no two of them
stand before a line feed of the file. Then normalizing has nothing left to do, and else it changes
the text again. -/
theorem editText_bare_iff :
    (∀ t : Text, (Bare t.normalizeLineEndings ↔ Single t) ∧
      (t.normalizeLineEndings.normalizeLineEndings = t.normalizeLineEndings ↔ Single t)) ∧
    ∀ (tree : WorkTree) (path text : Text) (content : ByteArray),
      tree.disk.read (tree.resolve path) = .ok content → Text.decode? content = some text →
      ∃ given, (∀ edit : Text → Except Error (Text × α),
          editText path edit tree = editText path (fun _ => edit given) tree) ∧
        given = text.normalizeLineEndings ∧ (Bare given ↔ Single text) := by
  refine ⟨fun t => ⟨Text.bare_normalizeLineEndings_iff, ?_⟩,
    fun tree path text content hread decoded => ⟨_, editText_handed hread decoded, rfl,
      Text.bare_normalizeLineEndings_iff⟩⟩
  rw [Text.normalizeLineEndings_eq_self_iff, Text.bare_normalizeLineEndings_iff]

/-- A tree with a file in which a line ends in two carriage returns and a line feed. -/
def doubled : WorkTree where
  root := "app"
  disk := ⟨[], [(["app"], .directory), (["app", "f"], .file (Text.encode "a\r\r\n"))]⟩

/-- Such a file is handed on with one of its carriage returns before the line feed. -/
theorem editText_bare_iff_doubled :
    (∀ edit : Text → Except Error (Text × Unit),
      editText "f" edit doubled = editText "f" (fun _ => edit "a\r\n") doubled) ∧
      ¬ Bare (Text.normalizeLineEndings "a\r\r\n") := by
  obtain ⟨given, handed, rfl, bare⟩ := (editText_bare_iff (α := Unit)).2 doubled "f" "a\r\r\n"
    (Text.encode "a\r\r\n") (by rfl) (Text.decode?_encode _)
  exact ⟨handed, fun h => absurd (bare.mp h) (by unfold Text.Single; decide)⟩

/-- Of two carriage returns before a line feed one is left there, and a second time leaves it out.
-/
theorem normalizeLineEndings_doubled :
    ¬ Bare (Text.normalizeLineEndings "\r\r\n") ∧
      (Text.normalizeLineEndings "\r\r\n").normalizeLineEndings ≠
        Text.normalizeLineEndings "\r\r\n" := by
  unfold Bare
  decide

end WorkTree

/-! ## Files that differ in their line endings -/

namespace Instruction

theorem apply_patchFiles_singleton (path : Text) (patchers : List Patcher) (tree : WorkTree) :
    (patchFiles [path] patchers).apply tree =
      WorkTree.editText path
        (fun text => (runPatchers path patchers text).map fun new => (new, ())) tree := by
  rw [apply_patchFiles_cons]
  exact congrFun (bind_pure_unit (x := WorkTree.editText path _)) tree

/-- The texts of two files of which one has carriage returns before some of its line feeds are
patched alike. The patchers fail with the same error, and then both trees are as they were, or the
same section is recorded. If there is a difference in it both files hold the same text in the end,
and else each is left as it is. -/
theorem patchFiles_ignores_returns (path t t' : Text) (patchers : List Patcher)
    (tree tree' : WorkTree) (bare : Bare t) (returned : Returned t t')
    (renderer : tree'.renderer = tree.renderer) (trail : tree'.trail = tree.trail)
    (hread : tree.disk.read (tree.resolve path) = .ok (Text.encode t))
    (hread' : tree'.disk.read (tree'.resolve path) = .ok (Text.encode t')) :
    (∃ e, (patchFiles [path] patchers).apply tree = .error e tree ∧
      (patchFiles [path] patchers).apply tree' = .error e tree') ∨
    ∃ new final final', runPatchers path patchers t = .ok new ∧
      (patchFiles [path] patchers).apply tree = .ok () final ∧
      (patchFiles [path] patchers).apply tree' = .ok () final' ∧
      final'.trail = final.trail ∧
      final.trail.text = tree.trail.text ++ tree.renderer.modified path t new ∧
      (new = t → final.disk = tree.disk ∧ final'.disk = tree'.disk) ∧
      (new ≠ t →
        tree.disk.write (tree.resolve path) (Text.encode new) = .ok final.disk ∧
        tree'.disk.write (tree'.resolve path) (Text.encode new) = .ok final'.disk ∧
        final.disk.read (tree.resolve path) = .ok (Text.encode new) ∧
        final'.disk.read (tree'.resolve path) = .ok (Text.encode new)) := by
  have decoded := Text.decode?_encode t
  have decoded' := Text.decode?_encode t'
  have norm : t.normalizeLineEndings = t := bare.normalizeLineEndings
  have norm' : t'.normalizeLineEndings = t := returned.normalizeLineEndings bare
  rw [apply_patchFiles_singleton, apply_patchFiles_singleton]
  cases patched : runPatchers path patchers t with
  | error e =>
      refine .inl ⟨e, WorkTree.editText_of_error hread decoded ?_,
        WorkTree.editText_of_error hread' decoded' ?_⟩
      · rw [norm, patched]
        rfl
      · rw [norm', patched]
        rfl
  | ok new =>
      have made : (runPatchers path patchers t).map (fun new => (new, ())) = .ok (new, ()) := by
        rw [patched]
        rfl
      obtain ⟨disk, written, run⟩ := WorkTree.exists_editText_of_ok
        (fun text => (runPatchers path patchers text).map fun new => (new, ())) hread decoded
        (norm.symm ▸ made)
      obtain ⟨disk', written', run'⟩ := WorkTree.exists_editText_of_ok
        (fun text => (runPatchers path patchers text).map fun new => (new, ())) hread' decoded'
        (norm'.symm ▸ made)
      rw [norm] at written run
      rw [norm', renderer, trail] at run'
      rw [norm'] at written'
      rw [run, run']
      cases hrec : tree.trail.record? (tree.renderer.modified path t new) with
      | none => exact .inl ⟨.trailFull, rfl, rfl⟩
      | some noted =>
          refine .inr ⟨new, _, _, rfl, rfl, rfl, rfl, Trail.text_of_record? hrec,
            fun same => ?_, fun changed => ?_⟩
          · rw [if_pos same] at written written'
            exact ⟨written, written'⟩
          · rw [if_neg changed] at written written'
            exact ⟨written, written', Disk.read_write written, Disk.read_write written'⟩

/-- A line is put at the end of a file and of one with a carriage return before one of its two line
feeds. -/
theorem patchFiles_ignores_returns_mixed :
    let tree : WorkTree :=
      ⟨"app", {}, ⟨[], [(["app"], .directory), (["app", "f"], .file (Text.encode "a\nb\n"))]⟩, {}⟩
    let tree' : WorkTree :=
      ⟨"app", {}, ⟨[], [(["app"], .directory), (["app", "f"], .file (Text.encode "a\r\nb\n"))]⟩, {}⟩
    ∃ final final', (patchFiles ["f"] [.append "c\n"]).apply tree = .ok () final ∧
      (patchFiles ["f"] [.append "c\n"]).apply tree' = .ok () final' ∧
      final'.trail = final.trail ∧
      final.disk.read (tree.resolve "f") = .ok (Text.encode "a\nb\nc\n") ∧
      final'.disk.read (tree'.resolve "f") = .ok (Text.encode "a\nb\nc\n") := by
  intro tree tree'
  have returned : Returned "a\nb\n" "a\r\nb\n" :=
    .same _ (.feed (.same _ (.same _ .nil)))
  have bare : Bare "a\nb\n" := Text.bare_of_not_mem (by decide)
  obtain ⟨e, failed, -⟩ | ⟨new, final, final', patched, ran, ran', trails, -, -, changed⟩ :=
    patchFiles_ignores_returns "f" "a\nb\n" "a\r\nb\n" [.append "c\n"] tree tree' bare returned rfl
      rfl (by rfl) (by rfl)
  · obtain ⟨final, ran⟩ : ∃ final, (patchFiles ["f"] [.append "c\n"]).apply tree = .ok () final :=
      ⟨_, rfl⟩
    rw [ran] at failed
    cases failed
  · obtain rfl : "a\nb\nc\n" = new := Except.ok.inj (patched.symm.trans rfl).symm
    obtain ⟨-, -, read, read'⟩ := changed (by decide)
    exact ⟨final, final', ran, ran', trails, read, read'⟩

end Instruction

end PatchTrail
