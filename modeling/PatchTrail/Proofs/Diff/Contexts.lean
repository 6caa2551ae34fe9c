import PatchTrail.Proofs.Diff.Delimiting
import PatchTrail.Proofs.Diff.Grouping

/-!
# What the context changes

With another context a reader of a section should find the same lines changed, framed by more or
fewer kept ones. Every hunk but the first begins on both sides where its header says
(`Hunk.Standing`). The first can begin with a deletion, and then it begins on the new side
wherever that deletion stood before it was moved. So the lines that the first hunk inserts can have
numbers that are too high, by as much with any context (`exists_changes`), and a hunk behind it can
seem to begin before it does. That is all that can go wrong where the section can be read at all
(`contextOnly_iff`).
-/

namespace PatchTrail.Diff

variable {xs ys : List Text} {context : Nat}

/-! ## Where hunks stand -/

/-- A hunk is that of a group of edits between two positions. On the new side it may begin too far
down, if the group begins with a deletion. -/
structure Hunk.Standing (xs ys : List Text) (i j i' j' : Nat) (g : List Edit) (h : Hunk) :
    Prop where
  oldStart : h.oldStart = i
  newStart : h.newStart = j + lead g
  lines : h.lines = g.flatMap (Edit.marked xs ys)
  oldEnd : h.oldStart + h.oldCount ≤ i'
  newEnd : h.newStart + h.newCount ≤ max h.newStart j'

theorem Group.lead_eq {i j i' j' : Nat} {e : Edit} {es : List Edit}
    (h : Group xs ys i j i' j' (e :: es)) : e.newSide.1 = j + lead (e :: es) := by
  by_cases kind : e.isDelete
  · cases e with
    | delete old count new =>
        rcases h.begins _ rfl with keep | ⟨-, rfl⟩
        · cases keep
        · exact (Nat.zero_add new).symm
    | _ => cases kind
  · rw [h.newStart (by simpa using kind)]
    cases e with
    | delete => exact absurd rfl kind
    | _ => rfl

theorem Group.standing {i j i' j' : Nat} {g : List Edit} (h : Group xs ys i j i' j' g) :
    ∃ hunk, Hunk.ofGroup? xs ys g = some hunk ∧ hunk.Standing xs ys i j i' j' g := by
  obtain ⟨first, rest, hfirst⟩ := List.exists_cons_of_ne_nil h.nonempty
  obtain ⟨init, last, hlast⟩ : ∃ init last, g = init ++ [last] :=
    ⟨_, _, (List.dropLast_concat_getLast h.nonempty).symm⟩
  obtain ⟨oldStart, -, -⟩ := (hfirst ▸ h).first
  obtain ⟨⟨oldEnd, newEnd⟩, -, -⟩ := (hlast ▸ h).last
  have newStart := (hfirst ▸ h).lead_eq
  have hle := h.spans.le
  have found : g.getLast? = some last := by rw [hlast, List.getLast?_concat]
  refine ⟨⟨first.oldSide.1, last.oldSide.1 + last.oldSide.2 - first.oldSide.1, first.newSide.1,
    last.newSide.1 + last.newSide.2 - first.newSide.1, g.flatMap (Edit.marked xs ys)⟩, ?_,
    oldStart, hfirst ▸ newStart, rfl, ?_, ?_⟩
  · unfold Hunk.ofGroup?
    rw [found, hfirst]
  · simp only
    omega
  · simp only
    omega

theorem Hunk.Standing.changes {i j i' j' : Nat} {g : List Edit} {h : Hunk}
    (standing : h.Standing xs ys i j i' j' g) (group : Group xs ys i j i' j' g)
    (hx : i' ≤ xs.length) (hy : j' ≤ ys.length) :
    h.changes = (g.flatMap (Edit.numbered xs ys)).map (NumberedLine.raise (lead g)) := by
  rw [Hunk.changes, standing.oldStart, standing.newStart, standing.lines, numbered_add,
    group.spans.numbered hx hy]

/-! ## Hunks in a row -/

/-- Where no group begins with a deletion that has been moved, hunks come one after the other. -/
theorem Covers.ordered {i j : Nat} {gs : List (List Edit)} (h : Covers xs ys i j gs)
    (settled : ∀ g ∈ gs, lead g = 0) :
    (∀ hunk ∈ gs.filterMap (Hunk.ofGroup? xs ys), i ≤ hunk.oldStart ∧ j ≤ hunk.newStart) ∧
      (gs.filterMap (Hunk.ofGroup? xs ys)).Pairwise Hunk.Before := by
  induction h with
  | done => exact ⟨nofun, .nil⟩
  | @group i j count i' j' g gs skipped group rest ih =>
      obtain ⟨hunk, found, standing⟩ := group.standing
      obtain ⟨behind, ordered⟩ := ih fun g hg => settled g (List.mem_cons_of_mem _ hg)
      have hle := group.spans.le
      have oldStart := standing.oldStart
      have newStart := standing.newStart
      have oldEnd := standing.oldEnd
      have newEnd := standing.newEnd
      rw [settled g List.mem_cons_self] at newStart
      rw [List.filterMap_cons_some found]
      refine ⟨List.forall_mem_cons.mpr ⟨by omega, fun hunk' hh => ?_⟩,
        .cons (fun hunk' hh => ?_) ordered⟩
      · have := behind hunk' hh
        omega
      · have := behind hunk' hh
        exact ⟨by omega, by omega⟩

theorem Covers.changes {i j : Nat} {gs : List (List Edit)} (h : Covers xs ys i j gs)
    (settled : ∀ g ∈ gs, lead g = 0) :
    (gs.filterMap (Hunk.ofGroup? xs ys)).flatMap Hunk.changes =
      gs.flatMap fun g => g.flatMap (Edit.numbered xs ys) := by
  induction h with
  | done => rfl
  | @group i j count i' j' g gs skipped group rest ih =>
      have hle := rest.le
      obtain ⟨hunk, found, standing⟩ := group.standing
      rw [List.filterMap_cons_some found, List.flatMap_cons, List.flatMap_cons,
        standing.changes group hle.1 hle.2, settled g List.mem_cons_self,
        ih fun g hg => settled g (List.mem_cons_of_mem _ hg), map_raise_zero]

/-- Where no group begins with a deletion that has been moved, the first hunk with lines begins as
far from the beginning on both sides. -/
theorem Covers.head_shown {i j : Nat} {gs : List (List Edit)} (h : Covers xs ys i j gs)
    (settled : ∀ g ∈ gs, lead g = 0) :
    ∀ hunk ∈ (shown (gs.filterMap (Hunk.ofGroup? xs ys))).head?,
      hunk.oldStart + j = hunk.newStart + i := by
  induction h with
  | done => exact nofun
  | @group i j count i' j' g gs skipped group rest ih =>
      have hle := rest.le
      obtain ⟨hunk, found, standing⟩ := group.standing
      have oldStart := standing.oldStart
      have newStart := standing.newStart
      rw [settled g List.mem_cons_self] at newStart
      rw [List.filterMap_cons_some found]
      by_cases hempty : hunk.lines = []
      -- a group without lines ends where it begins, on both sides
      · rw [shown_cons_of_no_lines hempty]
        intro hunk' hh
        have := ih (fun g hg => settled g (List.mem_cons_of_mem _ hg)) hunk' hh
        have reached := group.spans.length_lines hle.1 hle.2
        rw [← standing.lines, hempty] at reached
        change _ + 0 = _ ∧ _ + 0 = _ at reached
        omega
      · rw [shown_cons_of_lines hempty]
        intro hunk' hh
        cases hh
        omega

theorem Covers.keptRun_le {i j : Nat} {gs : List (List Edit)} (h : Covers xs ys i j gs)
    (clipped : ∀ g ∈ gs, Clipped context g) :
    ∀ hunk ∈ gs.filterMap (Hunk.ofGroup? xs ys),
      keptRun hunk.lines ≤ context ∧ keptRun hunk.lines.reverse ≤ context := by
  induction h with
  | done => exact nofun
  | @group i j count i' j' g gs skipped group rest ih =>
      have hle := rest.le
      obtain ⟨hunk, found, standing⟩ := group.standing
      rw [List.filterMap_cons_some found]
      refine List.forall_mem_cons.mpr ⟨?_, ih fun g hg => clipped g (List.mem_cons_of_mem _ hg)⟩
      rw [standing.lines]
      exact (clipped g List.mem_cons_self).keptRun_le group.spans hle.1 hle.2

/-! ## The first hunk -/

/-- The first of some hunks begins behind as many lines on both sides. -/
def Placed (hs : List Hunk) : Prop := ∀ h ∈ hs.head?, h.newStart = h.oldStart

/-- None of some hunks begins before the first on the new side. -/
def Rising (hs : List Hunk) : Prop := ∀ h ∈ hs.head?, ∀ h' ∈ hs.tail, h.newStart ≤ h'.newStart

/-- How many lines the first of some hunks inserts. -/
def firstAdded : List Hunk → Nat
  | [] => 0
  | h :: _ => h.lines.countP fun l => l.1 = .inserted

theorem flatMap_changes_shown (hs : List Hunk) :
    (shown hs).flatMap Hunk.changes = hs.flatMap Hunk.changes :=
  flatMap_shown (fun h hempty => by rw [Hunk.changes, hempty, numbered]) hs

theorem lead_ne_zero {es : List Edit} (h : lead es ≠ 0) :
    ∃ old count new rest, es = .delete old count new :: rest := by
  unfold lead at h
  split at h
  · exact ⟨_, _, _, _, rfl⟩
  · exact absurd rfl h

/-- A group that begins with a deletion begins where both sequences do, and has lines. -/
theorem Group.of_lead_ne_zero {i j i' j' : Nat} {g : List Edit} (h : Group xs ys i j i' j' g)
    (hx : i' ≤ xs.length) (hy : j' ≤ ys.length) (moved : lead g ≠ 0) :
    i = 0 ∧ g.flatMap (Edit.marked xs ys) ≠ [] := by
  obtain ⟨old, count, new, rest, rfl⟩ := lead_ne_zero moved
  have lines := h.spans.marked_ne_nil hx hy _ List.mem_cons_self rfl
  refine ⟨?_, List.append_ne_nil_of_left_ne_nil lines _⟩
  rcases h.begins _ rfl with keep | ⟨start, -⟩
  · cases keep
  · exact start

theorem groups_ne_nil {es : List Edit} (moved : lead es ≠ 0) : groups context es ≠ [] := by
  obtain ⟨old, count, new, rest, rfl⟩ := lead_ne_zero moved
  have kept (e : Edit) (keep : e.isKeep) : (if e.isKeep then [] else [e]) = [] := if_pos keep
  intro none_
  have changes := flatMap_groups kept context (.delete old count new :: rest)
  rw [none_] at changes
  cases changes

/-- The hunks between two sequences are the hunk of a group and those behind it, which begin on both
sides where their headers say. -/
theorem hunks_eq_nil_or (context : Nat) (xs ys : List Text) :
    (groups context (difference xs ys) = [] ∧ hunks context xs ys = []) ∨
      ∃ g gs hunk i j i' j', groups context (difference xs ys) = g :: gs ∧
        hunks context xs ys = hunk :: gs.filterMap (Hunk.ofGroup? xs ys) ∧
        Group xs ys i j i' j' g ∧ hunk.Standing xs ys i j i' j' g ∧ Covers xs ys i' j' gs ∧
        lead g = lead (difference xs ys) ∧ ∀ g' ∈ gs, lead g' = 0 := by
  have covers := groups_covers context xs ys
  obtain ⟨first, others⟩ := lead_groups context (difference xs ys)
  unfold hunks
  cases hgs : groups context (difference xs ys) with
  | nil => exact .inl ⟨rfl, rfl⟩
  | cons g gs =>
      rw [hgs] at covers first others
      cases covers with
      | group skipped group rest =>
          obtain ⟨hunk, found, standing⟩ := group.standing
          exact .inr ⟨g, gs, hunk, _, _, _, _, rfl, List.filterMap_cons_some found, group, standing,
            rest, first g rfl, others⟩

theorem shown_hunks_ordered_iff :
    (shown (hunks context xs ys)).Pairwise Hunk.Before ↔ Rising (shown (hunks context xs ys)) := by
  constructor
  · intro ordered h hh h' hh'
    obtain ⟨more, hmore⟩ := List.head?_eq_some_iff.mp hh
    rw [hmore] at ordered hh'
    have := ((List.pairwise_cons.mp ordered).1 h' hh').new
    omega
  · intro rising
    obtain ⟨-, none_⟩ | ⟨g, gs, hunk, i, j, i', j', -, found, group, standing, rest, -, settled⟩ :=
      hunks_eq_nil_or context xs ys
    · rw [none_]
      exact .nil
    · obtain ⟨behind, ordered⟩ := rest.ordered settled
      rw [found] at rising ⊢
      by_cases hempty : hunk.lines = []
      · rw [shown_cons_of_no_lines hempty]
        exact ordered.filter _
      · rw [shown_cons_of_lines hempty] at rising ⊢
        refine .cons (fun h' hh' => ?_) (ordered.filter _)
        have later := behind h' (List.mem_filter.mp hh').1
        have above := rising hunk rfl h' hh'
        have oldEnd := standing.oldEnd
        have newEnd := standing.newEnd
        exact ⟨by omega, by omega⟩

theorem shown_hunks_placed_iff :
    Placed (shown (hunks context xs ys)) ↔ lead (difference xs ys) = 0 := by
  obtain ⟨none_, noHunks⟩ | ⟨g, gs, hunk, i, j, i', j', hgs, found, group, standing, rest, first,
    settled⟩ := hunks_eq_nil_or context xs ys
  · rw [noHunks]
    refine iff_of_true nofun (Classical.byContradiction fun moved => ?_)
    exact groups_ne_nil moved none_
  · by_cases moved : lead (difference xs ys) = 0
    · refine iff_of_true (fun h hh => ?_) moved
      have all : ∀ g' ∈ groups context (difference xs ys), lead g' = 0 := by
        rw [hgs]
        exact List.forall_mem_cons.mpr ⟨first.trans moved, settled⟩
      exact ((groups_covers context xs ys).head_shown all h hh).symm
    -- the deletion is in the first group, which has lines then, so its hunk is the first shown
    · refine iff_of_false (fun placed => ?_) moved
      have hle := rest.le
      obtain ⟨start, lines⟩ := group.of_lead_ne_zero hle.1 hle.2 (first ▸ moved)
      rw [found, shown_cons_of_lines (standing.lines ▸ lines)] at placed
      have same := placed hunk rfl
      rw [standing.newStart, standing.oldStart, first] at same
      omega

/-- The lines that the hunks change are those that the difference does, but the first hunk may have
inserted them too far down. -/
theorem exists_changes (context : Nat) (xs ys : List Text) :
    ∃ front back, front ++ back = (difference xs ys).flatMap (Edit.numbered xs ys) ∧
      (shown (hunks context xs ys)).flatMap Hunk.changes =
        front.map (NumberedLine.raise (lead (difference xs ys))) ++ back ∧
      (lead (difference xs ys) ≠ 0 →
        insertedCount front = firstAdded (shown (hunks context xs ys))) := by
  have whole := flatMap_groups (f := Edit.numbered xs ys)
    (fun e keep => e.numbered_of_isKeep keep) context (difference xs ys)
  rw [flatMap_changes_shown]
  obtain ⟨none_, noHunks⟩ | ⟨g, gs, hunk, i, j, i', j', hgs, found, group, standing, rest, first,
    settled⟩ := hunks_eq_nil_or context xs ys
  · rw [none_] at whole
    rw [noHunks, ← whole]
    exact ⟨[], [], rfl, rfl, fun _ => rfl⟩
  · have hle := rest.le
    rw [hgs] at whole
    rw [found, ← whole]
    refine ⟨g.flatMap (Edit.numbered xs ys), gs.flatMap fun g => g.flatMap (Edit.numbered xs ys),
      List.flatMap_cons.symm, ?_, fun moved => ?_⟩
    · rw [List.flatMap_cons, standing.changes group hle.1 hle.2, rest.changes settled, first]
    · obtain ⟨-, lines⟩ := group.of_lead_ne_zero hle.1 hle.2 (first ▸ moved)
      rw [shown_cons_of_lines (standing.lines ▸ lines), firstAdded, standing.lines,
        ← group.spans.numbered hle.1 hle.2, insertedCount_numbered]

/-! ## Two contexts -/

/-- The hunks that are shown between two texts. -/
def shownBetween (context : Nat) (old new : Text) : List Hunk :=
  shown (hunks context (linesOf old) (linesOf new))

variable {path old new : Text} {c₁ c₂ : Nat}

theorem framed_iff_rising :
    Framed context (shownBetween context old new) ↔ Rising (shownBetween context old new) := by
  have kept := (groups_covers context (linesOf old) (linesOf new)).keptRun_le
    (groups_clipped context _ _)
  unfold shownBetween
  rw [← shown_hunks_ordered_iff]
  refine ⟨Framed.ordered, fun ordered => ⟨ordered, fun h hh => ?_, fun h hh => ?_⟩⟩
  · exact (kept h (List.mem_filter.mp hh).1).1
  · exact (kept h (List.mem_filter.mp hh).1).2

theorem changes_eq_iff :
    (shownBetween c₁ old new).flatMap Hunk.changes =
        (shownBetween c₂ old new).flatMap Hunk.changes ↔
      Placed (shownBetween c₁ old new) ∨
        firstAdded (shownBetween c₁ old new) = firstAdded (shownBetween c₂ old new) := by
  obtain ⟨front₁, back₁, whole₁, changes₁, added₁⟩ := exists_changes c₁ (linesOf old) (linesOf new)
  obtain ⟨front₂, back₂, whole₂, changes₂, added₂⟩ := exists_changes c₂ (linesOf old) (linesOf new)
  unfold shownBetween
  rw [changes₁, changes₂, shown_hunks_placed_iff]
  by_cases settled : lead (difference (linesOf old) (linesOf new)) = 0
  · rw [settled, map_raise_zero, map_raise_zero, whole₁, whole₂]
    exact iff_of_true rfl (.inl rfl)
  · rw [map_raise_append_eq_iff (Nat.pos_of_ne_zero settled) (whole₁.trans whole₂.symm),
      added₁ settled, added₂ settled, or_iff_right settled]

/-- With two contexts the same lines with the same numbers are seen to have changed, framed by no
more kept lines than the context in hunks that do not overlap, exactly if the section can be read
with both, no hunk begins before the first on the new side, and the first begins behind as many
lines on both sides or else inserts as many lines with the one context as with the other. -/
theorem contextOnly_iff (path : Text) {old new : Text} (hold : '\r' ∉ old) (hnew : '\r' ∉ new)
    (c₁ c₂ : Nat) :
    ContextOnly path old new c₁ c₂ ↔
      (Announced ⟨c₁⟩ old new ∧ Rising (shownBetween c₁ old new)) ∧
        (Announced ⟨c₂⟩ old new ∧ Rising (shownBetween c₂ old new)) ∧
        (Placed (shownBetween c₁ old new) ∨
          firstAdded (shownBetween c₁ old new) = firstAdded (shownBetween c₂ old new)) := by
  have read (c : Nat) (hs : List Hunk) : Renderer.reading? ⟨c⟩ path old new = some hs ↔
      Announced ⟨c⟩ old new ∧ hs = shownBetween c old new := readSection?_iff hold hnew
  unfold ContextOnly
  simp only [read, ← framed_iff_rising, ← changes_eq_iff]
  constructor
  · rintro ⟨_, _, ⟨announced₁, rfl⟩, ⟨announced₂, rfl⟩, same, framed₁, framed₂⟩
    exact ⟨⟨announced₁, framed₁⟩, ⟨announced₂, framed₂⟩, same⟩
  · rintro ⟨⟨announced₁, framed₁⟩, ⟨announced₂, framed₂⟩, same⟩
    exact ⟨_, _, ⟨announced₁, rfl⟩, ⟨announced₂, rfl⟩, same, framed₁, framed₂⟩

/-- A line is shown before a replacement or not. -/
theorem contextOnly_iff_replacement :
    ('\r' ∉ ("x\na\n" : Text) ∧ '\r' ∉ ("x\nb\n" : Text)) ∧
      ContextOnly "f" "x\na\n" "x\nb\n" 3 0 := by
  have edits : difference (linesOf "x\na\n") (linesOf "x\nb\n") =
      [.keep 0 0 1, .replace 1 1 1 1] := by cbv
  have near : hunks 0 (linesOf "x\na\n") (linesOf "x\nb\n") =
      [⟨1, 1, 1, 1, [(.deleted, "a\n"), (.inserted, "b\n")]⟩] := by
    unfold hunks
    rw [edits]
    rfl
  have far : hunks 3 (linesOf "x\na\n") (linesOf "x\nb\n") =
      [⟨0, 2, 0, 2, [(.kept, "x\n"), (.deleted, "a\n"), (.inserted, "b\n")]⟩] := by
    unfold hunks
    rw [edits]
    rfl
  refine ⟨by decide, (contextOnly_iff "f" (by decide) (by decide) 3 0).mpr ⟨⟨?_, ?_⟩, ⟨?_, ?_⟩, ?_⟩⟩
  · intro h hh line _
    rw [far] at hh
    cases List.mem_singleton.mp hh
    rfl
  · unfold shownBetween
    rw [far]
    exact fun h _ h' hh' => absurd hh' List.not_mem_nil
  · intro h hh line _
    rw [near] at hh
    cases List.mem_singleton.mp hh
    rfl
  · unfold shownBetween
    rw [near]
    exact fun h _ h' hh' => absurd hh' List.not_mem_nil
  · unfold shownBetween
    rw [near, far]
    exact .inr rfl

/-- These hunks begin with a deletion that has been moved in front of an insertion. The inserted
line is in the hunk of the deletion or in one of its own. -/
theorem hunks_renumbered :
    hunks 3 (linesOf "b\na\nx\n") (linesOf "a\na\nx\n") =
        [⟨0, 3, 1, 2, [(.deleted, "b\n"), (.kept, "a\n"), (.inserted, "a\n"), (.kept, "x\n")]⟩] ∧
      hunks 0 (linesOf "b\na\nx\n") (linesOf "a\na\nx\n") =
        [⟨0, 1, 1, 0, [(.deleted, "b\n")]⟩, ⟨2, 0, 1, 1, [(.inserted, "a\n")]⟩] := by
  have edits : difference (linesOf "b\na\nx\n") (linesOf "a\na\nx\n") =
      [.delete 0 1 1, .keep 1 0 1, .insert 1 1 1, .keep 2 2 1] := by cbv
  unfold hunks
  rw [edits]
  exact ⟨rfl, rfl⟩

/-- So a reader finds it as the third line or as the second. -/
theorem modified_renumbered :
    ('\r' ∉ ("b\na\nx\n" : Text) ∧ '\r' ∉ ("a\na\nx\n" : Text)) ∧
      ¬ ContextOnly "f" "b\na\nx\n" "a\na\nx\n" 3 0 := by
  have old : '\r' ∉ ("b\na\nx\n" : Text) := by decide
  have new : '\r' ∉ ("a\na\nx\n" : Text) := by decide
  refine ⟨⟨old, new⟩, ?_⟩
  rintro ⟨far, near, hfar, hnear, same, -⟩
  obtain ⟨-, rfl⟩ := (readSection?_iff old new).mp hfar
  obtain ⟨-, rfl⟩ := (readSection?_iff old new).mp hnear
  rw [hunks_renumbered.1, hunks_renumbered.2] at same
  revert same
  decide

end PatchTrail.Diff
