import PatchTrail.Proofs.Diff.Delimiting
import PatchTrail.Proofs.Disk.Sheltered
import PatchTrail.Proofs.Run.Script

/-!
# Edits that show and edits that do not

An edit compares the text of a file with what has been made of it twice: as texts, to see whether
the file has to be written, and line by line, to show the difference in the trail. The two agree
(`WorkTree.editText_shows_iff`): the section in the trail has hunks if and only if the file is
written, and then it holds the new text. The text that is compared has its line ends normalized, so
a file with other line ends is left as it is, byte for byte, if the edit changes nothing else.
-/

namespace PatchTrail.WorkTree

open Instruction (Error)
open Diff (renderHeader oldSideName newSideName)

variable {α : Type} {tree tree' : WorkTree} {path : Text} {a : α}

/-- What an edit that succeeds reads, records and does to the disk. -/
theorem exists_edited {edit : Text → Except Error (Text × α)}
    (h : editText path edit tree = .ok a tree') :
    ∃ content text new, tree.disk.read (tree.resolve path) = .ok content ∧
      Text.decode? content = some text ∧ edit text.normalizeLineEndings = .ok (new, a) ∧
      tree'.trail.text =
        tree.trail.text ++ tree.renderer.modified path text.normalizeLineEndings new ∧
      if new = text.normalizeLineEndings then tree'.disk = tree.disk
      else tree.disk.write (tree.resolve path) (Text.encode new) = .ok tree'.disk := by
  obtain ⟨old, new, edited, follows⟩ := editText_eq_ok_iff.mp h
  obtain ⟨disk, trail, ⟨⟨content, text, hread, decoded, rfl⟩, written⟩, recorded, rfl⟩ :=
    follows_singleton_iff.mp follows
  exact ⟨content, text, new, hread, decoded, edited, Trail.text_of_record? recorded, written⟩

/-- Hunks appear exactly when a file is rewritten. The section between two texts is no more than its
header if and only if they are the same, with any context and whatever their characters are. So the
section that an edit records is no more than its header if and only if what the edit has made is the
text with its line ends normalized, and the file is then left as it is, byte for byte; else the file
is written and holds what the edit has made. -/
theorem editText_shows_iff :
    (∀ (r : Diff.Renderer) (path old new : Text),
      r.modified path old new = renderHeader (oldSideName path) (newSideName path) ↔ old = new) ∧
    ∀ (tree tree' : WorkTree) (path : Text) (edit : Text → Except Error (Text × α)) (a : α),
      editText path edit tree = .ok a tree' →
      ∃ content text new section_, tree.disk.read (tree.resolve path) = .ok content ∧
        Text.decode? content = some text ∧ edit text.normalizeLineEndings = .ok (new, a) ∧
        section_ = tree.renderer.modified path text.normalizeLineEndings new ∧
        tree'.trail.text = tree.trail.text ++ section_ ∧
        (section_ = renderHeader (oldSideName path) (newSideName path) ↔
          new = text.normalizeLineEndings ∧
            tree'.disk.read (tree.resolve path) = .ok content) ∧
        (new = text.normalizeLineEndings → tree'.disk = tree.disk) ∧
        (new ≠ text.normalizeLineEndings →
          tree.disk.write (tree.resolve path) (Text.encode new) = .ok tree'.disk ∧
            tree'.disk.read (tree.resolve path) = .ok (Text.encode new)) := by
  refine ⟨Diff.Renderer.modified_eq_header_iff, fun tree tree' path edit a h => ?_⟩
  obtain ⟨content, text, new, hread, decoded, edited, recorded, written⟩ := exists_edited h
  refine ⟨content, text, new, _, hread, decoded, edited, rfl, recorded, ?_, fun same => ?_,
    fun changed => ?_⟩
  · rw [Diff.Renderer.modified_eq_header_iff]
    constructor
    · rintro rfl
      rw [if_pos rfl] at written
      exact ⟨rfl, by rw [written, hread]⟩
    · exact fun still => still.1.symm
  · rwa [if_pos same] at written
  · rw [if_neg changed] at written
    exact ⟨written, Disk.read_write written⟩

/-- A tree with a file in which a line ends in a carriage return and a line feed. -/
def returned : WorkTree where
  root := "app"
  disk := ⟨[], [(["app"], .directory), (["app", "f"], .file (Text.encode "a\r\n"))]⟩

/-- An edit that changes nothing shows up without hunks and leaves the carriage return there. -/
theorem editText_shows_iff_returned :
    ∃ final, editText "f" (fun t => .ok (t, ())) returned = .ok () final ∧
      final.trail.text = "--- a/f\n+++ b/f\n" ∧
      final.disk.read (returned.resolve "f") = .ok (Text.encode "a\r\n") := by
  obtain ⟨final, h⟩ : ∃ final,
      editText "f" (fun t => .ok (t, ())) returned = .ok () final := ⟨_, rfl⟩
  obtain ⟨content, text, new, section_, hread, -, edited, -, recorded, headers, still, -⟩ :=
    editText_shows_iff.2 returned final "f" (fun t => .ok (t, ())) () h
  obtain ⟨rfl, -⟩ := Prod.mk.inj (Except.ok.inj edited)
  have reread : final.disk.read (returned.resolve "f") = .ok content := by rw [still rfl, hread]
  have bare := headers.mpr ⟨rfl, reread⟩
  refine ⟨final, h, ?_, ?_⟩
  · rw [recorded, bare]
    rfl
  · rw [reread, ← hread]
    rfl

end PatchTrail.WorkTree
