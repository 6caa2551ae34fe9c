import PatchTrail.Proofs.Diff.Delimiting
import PatchTrail.Proofs.Run.Refusal
import PatchTrail.Proofs.Run.Replaying

/-!
# Where the sections of a trail end

The sections of a trail can be told apart if each ends in a line feed, so that the next begins on a
line of its own, and if the headers of its hunks say how many lines to pass over. Both hold exactly
if all hunks in the trail are settled (`Run.trail_separable_iff`): no line that is shown ends in a
carriage return, and the headers are right where an insertion or deletion stands at an end of a
hunk. This is so for every bound of the trail and whether or not the run fails, since the trail
always holds the first sections of the run.

A carriage return without a line feed at the end of one file is enough to put the header of the next
on the same line (`Run.trail_unseparated`).
-/

namespace PatchTrail

open Diff Text

/-! ## Sections -/

namespace Record

variable {r : Renderer} {rec : Record}

/-- The hunks that are shown in a section. -/
def hunks (r : Renderer) (rec : Record) : List Hunk :=
  match rec.texts? with
  | some (old, new) => shown (Diff.hunks r.contextLines (linesOf old) (linesOf new))
  | none => []

/-- A section is its header and its hunks, or its header and the remark that the file is binary. -/
theorem render_eq_hunks (r : Renderer) (rec : Record) :
    rec.render r = renderHeader rec.names.1 rec.names.2 ++
      ((if rec.texts? = none then binaryRemark else []) ++ (rec.hunks r).flatMap Hunk.render) := by
  rw [render_eq, hunks]
  cases rec.texts? with
  | none => rfl
  | some texts =>
      obtain ⟨old, new⟩ := texts
      simp only [if_neg (Option.some_ne_none _), List.nil_append, flatMap_render_shown]
      rfl

theorem delimited_iff {h : Hunk} (hh : h ∈ rec.hunks r) : h.Delimited ↔ h.Settled := by
  unfold hunks at hh
  cases htexts : rec.texts? with
  | none =>
      rw [htexts] at hh
      cases hh
  | some texts =>
      rw [htexts] at hh
      exact delimited_iff_settled hh

/-- A section ends in a line feed if the lines of its hunks do. -/
theorem ended_render
    (feeds : ∀ h ∈ rec.hunks r, ∀ l ∈ h.lines, (renderLine l).getLast? = some '\n') :
    (rec.render r).Ended := by
  rw [render_eq_hunks]
  refine .append ?_ (.append ?_ (.flatMap fun h hh => Hunk.ended_render (feeds h hh)))
  · unfold renderHeader
    exact ended_append_feed _
  · split
    · exact .inr (by decide)
    · exact .inl rfl

theorem feeds_of_not_hasReturn {h : Hunk} (hh : h ∈ rec.hunks r)
    (bare : ∀ texts ∈ rec.texts?, ¬ texts.1.HasReturn ∧ ¬ texts.2.HasReturn) :
    ∀ l ∈ h.lines, (renderLine l).getLast? = some '\n' := by
  unfold hunks at hh
  cases htexts : rec.texts? with
  | none =>
      rw [htexts] at hh
      cases hh
  | some texts =>
      rw [htexts] at hh
      have bare := bare texts htexts
      exact Diff.feeds_of_not_hasReturn bare.1 bare.2 hh

end Record

variable {r : Renderer} {ms : List Moment}

/-- After each section a trail is empty or ends in a line feed if the lines of all hunks do. -/
theorem ended_sections
    (feeds : ∀ m ∈ ms, ∀ h ∈ m.record.hunks r, ∀ l ∈ h.lines,
      (renderLine l).getLast? = some '\n') :
    ∀ before, before <+: ms → (sections r before).Ended := fun _ hbefore =>
  .flatMap fun m hm => Record.ended_render (feeds m (hbefore.subset hm))

/-! ## Trails -/

/-- A trail with whatever room takes the first of some sections. -/
theorem Trail.text_of_recordAll_stopped {t t' : Trail} {stop : Option Moment}
    (h : t.recordAll r ms = (t', stop)) :
    ∃ before behind, ms = before ++ behind ∧ t'.text = t.text ++ sections r before := by
  induction ms generalizing t with
  | nil =>
      cases h
      exact ⟨[], [], rfl, (List.append_nil _).symm⟩
  | cons m ms ih =>
      rw [Trail.recordAll] at h
      cases hrec : t.record? (m.record.render r) with
      | none =>
          rw [hrec] at h
          cases h
          exact ⟨[], m :: ms, rfl, (List.append_nil _).symm⟩
      | some t₁ =>
          rw [hrec] at h
          obtain ⟨before, behind, rfl, htext⟩ := ih h
          refine ⟨m :: before, behind, rfl, ?_⟩
          rw [htext, Trail.text_of_record? hrec, List.append_assoc]
          rfl

theorem Plays.recorded {ε α : Type} {full : ε → Prop} {c : Change ε α} {tree : WorkTree}
    {value : Except ε α} {last : Disk} (h : Plays full c tree ms value last)
    (room? : Option Nat) :
    ∃ before behind, ms = before ++ behind ∧
      (finalTree (c (tree.withTrail ⟨tree.trail.text, room?⟩))).trail.text =
        tree.trail.text ++ sections tree.renderer before := by
  have run := h room?
  cases hrec : Trail.recordAll tree.renderer ⟨tree.trail.text, room?⟩ ms with
  | mk trail stop =>
      obtain ⟨before, behind, hsplit, htext⟩ := Trail.text_of_recordAll_stopped hrec
      rw [hrec] at run
      refine ⟨before, behind, hsplit, ?_⟩
      cases stop with
      | none =>
          rw [show c (tree.withTrail ⟨tree.trail.text, room?⟩) = _ from run]
          cases value with
          | ok a => exact htext
          | error e => exact htext
      | some m =>
          obtain ⟨e, -, run⟩ := run
          rw [run]
          exact htext

namespace Run

/-- What a run leaves in a trail are the first of its sections. After each of them the trail is
empty or ends in a line feed, each line of a hunk ends in a line feed and all headers of hunks are
right exactly if all hunks are settled. The line feeds are always there if the texts hold no
carriage returns without line feeds. -/
theorem trail_separable_iff (registry : Registry) (config : Config) (root : Text) (disk : Disk)
    (room? : Option Nat) :
    let r := (start config root disk).renderer
    let trail := (finalTree (apply registry config root disk ⟨[], room?⟩)).trail
    ∃ ms behind, recorded registry config root disk = ms ++ behind ∧ trail.text = sections r ms ∧
      (((∀ before, before <+: ms → (sections r before).Ended) ∧
          ∀ m ∈ ms, ∀ h ∈ m.record.hunks r, h.Delimited) ↔
        ∀ m ∈ ms, ∀ h ∈ m.record.hunks r, h.Settled) ∧
      ((∀ m ∈ ms, ∀ texts ∈ m.record.texts?, ¬ texts.1.HasReturn ∧ ¬ texts.2.HasReturn) →
        (∀ before, before <+: ms → (sections r before).Ended) ∧
          ∀ m ∈ ms, ∀ h ∈ m.record.hunks r, ∀ l ∈ h.lines,
            (renderLine l).getLast? = some '\n') := by
  intro r trail
  have free : (start config root disk).trail.room? = none := rfl
  obtain ⟨value, last, plays, -⟩ := journaled config.skip {} registry.patches free
  obtain ⟨ms, behind, hsplit, htext⟩ := plays.recorded room?
  refine ⟨ms, behind, hsplit, htext, ⟨?_, fun settled => ?_⟩, fun bare => ?_⟩
  · rintro ⟨-, delimited⟩ m hm h hh
    exact (Record.delimited_iff hh).mp (delimited m hm h hh)
  · have delimited : ∀ m ∈ ms, ∀ h ∈ m.record.hunks r, h.Delimited := fun m hm h hh =>
      (Record.delimited_iff hh).mpr (settled m hm h hh)
    exact ⟨ended_sections fun m hm h hh => (delimited m hm h hh).feeds, delimited⟩
  · have feeds : ∀ m ∈ ms, ∀ h ∈ m.record.hunks r, ∀ l ∈ h.lines,
        (renderLine l).getLast? = some '\n' := fun m hm h hh =>
      Record.feeds_of_not_hasReturn hh (bare m hm)
    exact ⟨ended_sections feeds, feeds⟩

/-- The content of the first file ends in a carriage return alone, so the header of the second file
does not begin on a line of its own. -/
theorem trail_unseparated :
    let registry := single ⟨"p", [.sequence [.writeFile "f" (encode "a\r"),
      .writeFile "g" (encode "b\n")]]⟩ (List.cons_ne_nil 'p' [])
    let disk : Disk := ⟨[], []⟩
    ∃ m ms, recorded registry {} "/" disk = m :: ms ∧ ¬ (sections {} [m]).Ended ∧
      (finalTree (apply registry {} "/" disk {})).trail.text =
        "--- /dev/null\n+++ b/f\n@@ -0,0 +1 @@\n+a\r--- /dev/null\n+++ b/g\n@@ -0,0 +1 @@\n+b\n" := by
  intro registry disk
  have edits : difference (linesOf []) (linesOf "a\r") = [.insert 0 0 1] := by cbv
  have edits' : difference (linesOf []) (linesOf "b\n") = [.insert 0 0 1] := by cbv
  have first : ({} : Renderer).created "f" (encode "a\r") =
      "--- /dev/null\n+++ b/f\n@@ -0,0 +1 @@\n+a\r" := by
    unfold Renderer.created Renderer.section_ hunks
    rw [decode?_encode]
    simp only [edits]
    rfl
  have second : ({} : Renderer).created "g" (encode "b\n") =
      "--- /dev/null\n+++ b/g\n@@ -0,0 +1 @@\n+b\n" := by
    unfold Renderer.created Renderer.section_ hunks
    rw [decode?_encode]
    simp only [edits']
    rfl
  refine ⟨⟨disk, .created "f" (encode "a\r")⟩, [⟨_, .created "g" (encode "b\n")⟩], rfl, ?_, ?_⟩
  · have section_ : sections {} [⟨disk, .created "f" (encode "a\r")⟩] =
        ({} : Renderer).created "f" (encode "a\r") := List.append_nil _
    rw [section_, first, Ended]
    decide
  · change (({} : Renderer).created "f" (encode "a\r")) ++
      (({} : Renderer).created "g" (encode "b\n")) = _
    rw [first, second]
    rfl

end Run

end PatchTrail
