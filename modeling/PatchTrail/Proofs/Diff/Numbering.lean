import PatchTrail.Diff.Numbering
import PatchTrail.Proofs.Diff.RoundTrip

/-!
# Numbers read and numbers meant

A section whose headers are right is read back as the hunks that have been written, and any other is
not read at all (`readSection?_iff`). So the numbers that a reader counts are those of the hunks.
The edits of a group say themselves which numbers their lines have (`Edit.numbered`), and counting
from the place where the group begins gives the same (`Spans.numbered`). Counted from a place too
far down on the new side, the inserted lines get numbers too high (`numbered_add`), and then two
ways to part the same lines give the same numbers only if as many lines are inserted in the first
part (`map_raise_append_eq_iff`).
-/

namespace PatchTrail.Diff

open Text

/-! ## Reading -/

theorem readRanges?_headerLine (h : Hunk) :
    readRanges? h.headerLine =
      some ((if h.oldCount = 0 then h.oldStart else h.oldStart + 1, h.oldCount),
        (if h.newCount = 0 then h.newStart else h.newStart + 1, h.newCount)) := by
  obtain ⟨line, ranges, begins, outer, inner⟩ := cut?_headerLine h
  unfold readRanges?
  simp only [Option.bind_eq_bind, Option.bind_some, begins, outer, inner, readRange?_renderRange]
  rfl

/-- The reader of sections looks for less in a header. -/
theorem readHunkHeader?_eq_map (line : Text) :
    readHunkHeader? line = (readRanges? line).map fun (old, new) => (old.1, old.2, new.2) := by
  simp [readHunkHeader?, readRanges?, Option.map_bind, Function.comp_def]

theorem rangeStart_renderRange (start count : Nat) :
    rangeStart (if count = 0 then start else start + 1, count) = start := by
  by_cases hcount : count = 0
  · rw [if_pos hcount, rangeStart, if_pos hcount]
  · rw [if_neg hcount, rangeStart, if_neg hcount, Nat.add_sub_cancel]

/-- Lines that have been taken apart are put together again. -/
theorem joined_flatMap_ofLine {ls : List (Mark × Text)} (plain : Plain ls) :
    HunkLine.joined (ls.flatMap HunkLine.ofLine) = ls := by
  induction ls with
  | nil => rfl
  | cons l ls ih =>
      have behind := ih fun l' hl' => plain l' (List.mem_cons_of_mem _ hl')
      obtain ⟨mark, line⟩ := l
      have first : IsLine line := plain _ List.mem_cons_self
      rw [List.flatMap_cons]
      unfold HunkLine.ofLine at behind ⊢
      cases first with
      | @terminated body bodyPlain =>
          rw [isTerminated_append, dropFeeds_append bodyPlain, if_pos rfl]
          cases ls with
          | nil => rfl
          | cons l ls => exact congrArg ((mark, body ++ ['\n']) :: ·) behind
      | unterminated bodyPlain nonempty bare =>
          rw [isTerminated_eq_false bodyPlain bare, dropFeeds_eq bodyPlain, if_neg nofun]
          exact congrArg ((mark, line) :: ·) behind

/-- A hunk is read as its header says, and then the hunks behind it. -/
theorem Hunk.readLines?_step (bound : Nat) (h : Hunk) {lines : List HunkLine}
    {rest left : List Text}
    (read : readHunkLines? h.oldCount h.newCount (h.lines.flatMap writtenLines ++ rest) =
      some (lines, left)) :
    Hunk.readLines? (bound + 1) (h.written ++ rest) =
      (Hunk.readLines? bound left).map fun (hunks, rest) =>
        ({ h with lines := HunkLine.joined lines } :: hunks, rest) := by
  unfold Hunk.written
  rw [List.cons_append, Hunk.readLines?, h.startsWith_headerLine, if_pos rfl,
    readRanges?_headerLine]
  simp only [Option.bind_eq_bind, Option.bind_some, read, rangeStart_renderRange]
  cases Hunk.readLines? bound left <;> rfl

/-- Hunks whose headers are right are read back as they are. -/
theorem Hunk.readLines?_written {hs : List Hunk} {bound : Nat} (plain : ∀ h ∈ hs, Plain h.lines)
    (legible : ∀ h ∈ hs, Legible h.oldCount h.newCount h.lines) (enough : hs.length ≤ bound) :
    Hunk.readLines? bound (hs.flatMap Hunk.written ++ [[]]) = some (hs, [[]]) := by
  induction hs generalizing bound with
  | nil => cases bound <;> rfl
  | cons h hs ih =>
      obtain ⟨bound, rfl⟩ : ∃ b, bound = b + 1 := Nat.exists_eq_succ_of_ne_zero (by
        rw [List.length_cons] at enough
        omega)
      rw [List.flatMap_cons, List.append_assoc, Hunk.readLines?_step bound h
        (readHunkLines?_legible (ofText?_written hs boundary_end) (legible h List.mem_cons_self)),
        ih (fun h' hh' => plain h' (List.mem_cons_of_mem _ hh'))
          (fun h' hh' => legible h' (List.mem_cons_of_mem _ hh')) (Nat.le_of_succ_le_succ enough),
        joined_flatMap_ofLine (plain h List.mem_cons_self)]
      rfl

/-- Where hunks are read with both ranges they are read without them, up to the same place. -/
theorem exists_readHunks? {bound : Nat} {lines rest : List Text} {hs : List Hunk}
    (h : Hunk.readLines? bound lines = some (hs, rest)) :
    ∃ readings, readHunks? bound lines = some (readings, rest) := by
  induction bound generalizing lines hs with
  | zero =>
      cases h
      exact ⟨[], rfl⟩
  | succ bound ih =>
      cases lines with
      | nil =>
          cases h
          exact ⟨[], rfl⟩
      | cons line lines =>
          rw [Hunk.readLines?] at h
          rw [readHunks?]
          split at h
          · next begins =>
              simp only [Option.bind_eq_bind, Option.bind_eq_some_iff] at h
              obtain ⟨⟨old, new⟩, ranges, ⟨marked, behind⟩, counted, ⟨more, rest'⟩, read,
                found⟩ := h
              cases found
              obtain ⟨readings, reads⟩ := ih read
              refine ⟨⟨old.1, old.2, marked⟩ :: readings, ?_⟩
              rw [if_pos begins, readHunkHeader?_eq_map, ranges]
              simp only [Option.map_some, Option.bind_eq_bind, Option.bind_some, counted, reads]
              rfl
          · next begins =>
              cases h
              exact ⟨[], if_neg begins⟩

variable {r : Renderer} {old new : Text}

/-- The section between two texts is read back exactly if its headers announce what a reader has to
know. Then what is read are the hunks that have lines. -/
theorem readSection?_iff {oldName newName : Text} {hs : List Hunk} (hold : '\r' ∉ old)
    (hnew : '\r' ∉ new) :
    Hunk.readSection? oldName newName (r.section_ oldName newName old new) = some hs ↔
      Announced r old new ∧ hs = shown (hunks r.contextLines (linesOf old) (linesOf new)) := by
  have plain := hunks_plain r.contextLines hold hnew
  have sound := fun h hh => (hunks_sound r.contextLines (linesOf old) (linesOf new) h hh).1
  have legible : Announced r old new ↔ _ := announced_iff_legible
  unfold Renderer.section_
  rw [flatMap_render plain]
  generalize shown (hunks r.contextLines (linesOf old) (linesOf new)) = written at *
  have lines : ∀ t ∈ written.flatMap Hunk.written, '\n' ∉ t := by
    intro t ht
    obtain ⟨h, hh, ht⟩ := List.mem_flatMap.mp ht
    exact h.feed_notMem_written (plain h hh) t ht
  have pieces : split '\n' (unlines (written.flatMap Hunk.written)) =
      written.flatMap Hunk.written ++ [[]] := by
    have := split_unlines lines []
    rwa [List.append_nil] at this
  have enough := length_le_written_append written [[]]
  unfold Hunk.readSection?
  simp only [dropPrefix?_append, Option.bind_eq_bind, Option.bind_some, pieces]
  rw [legible]
  constructor
  · intro read
    obtain ⟨⟨found, left⟩, reads, whole⟩ := Option.bind_eq_some_iff.mp read
    obtain ⟨rfl, rfl⟩ : left = [[]] ∧ found = hs := by simpa using whole
    obtain ⟨readings, readings'⟩ := exists_readHunks? reads
    obtain ⟨more, left, hs', read', -, -, -, right⟩ :=
      readHunks?_sound sound boundary_end enough
    rw [readings'] at read'
    have rest : left ++ (hs'.flatMap Hunk.written ++ [[]]) = [[]] :=
      (congrArg Prod.snd (Option.some.inj read')).symm
    have none_ : left = [] := by
      have := congrArg List.length rest
      simp only [List.length_append, List.length_singleton] at this
      exact List.length_eq_zero_iff.mp (by omega)
    have legible := (right none_).2
    rw [Hunk.readLines?_written plain legible enough] at reads
    exact ⟨legible, (congrArg Prod.fst (Option.some.inj reads)).symm⟩
  · rintro ⟨legible, rfl⟩
    rw [Hunk.readLines?_written plain legible enough]
    rfl

/-! ## Counting -/

theorem numbered_append (i j : Nat) (ls ls' : List (Mark × Text)) :
    numbered i j (ls ++ ls') =
      numbered i j ls ++ numbered (i + (oldLines ls).length) (j + (newLines ls).length) ls' := by
  fun_induction numbered i j ls with
  | case1 => rfl
  | case2 i j t ls ih | case3 i j t ls ih | case4 i j t ls ih =>
      simp only [List.cons_append, numbered, ih, length_oldLines_cons, length_newLines_cons,
        HunkLine.oldCount, HunkLine.newCount, Nat.add_assoc, Nat.zero_add]

/-- Kept lines have no numbers. -/
theorem numbered_kept (i j : Nat) (ts : List Text) :
    numbered i j (ts.map fun t => (.kept, t)) = [] := by
  induction ts generalizing i j with
  | nil => rfl
  | cons t ts ih => exact ih (i + 1) (j + 1)

/-- The numbers of deleted lines do not depend on the new side. -/
theorem numbered_deleted (i j j' : Nat) (ts : List Text) :
    numbered i j (ts.map fun t => (.deleted, t)) =
      numbered i j' (ts.map fun t => (.deleted, t)) := by
  induction ts generalizing i with
  | nil => rfl
  | cons t ts ih => exact congrArg _ (ih (i + 1))

/-- The numbers of inserted lines do not depend on the old side. -/
theorem numbered_inserted (i i' j : Nat) (ts : List Text) :
    numbered i j (ts.map fun t => (.inserted, t)) =
      numbered i' j (ts.map fun t => (.inserted, t)) := by
  induction ts generalizing j with
  | nil => rfl
  | cons t ts ih => exact congrArg _ (ih (j + 1))

/-- The lines that an edit changes, with the numbers that its positions give them. -/
def Edit.numbered (xs ys : List Text) (e : Edit) : List NumberedLine :=
  Diff.numbered e.oldSide.1 e.newSide.1 (e.marked xs ys)

theorem Edit.numbered_of_isKeep {xs ys : List Text} {e : Edit} (h : e.isKeep) :
    e.numbered xs ys = [] := by
  cases e with
  | keep => exact numbered_kept ..
  | _ => cases h

variable {xs ys : List Text}

/-- As many lines of either side are marked as lie between the positions. -/
theorem Spans.length_lines {i j i' j' : Nat} {es : List Edit} (h : Spans xs ys i j i' j' es)
    (hx : i' ≤ xs.length) (hy : j' ≤ ys.length) :
    i + (oldLines (es.flatMap (Edit.marked xs ys))).length = i' ∧
      j + (newLines (es.flatMap (Edit.marked xs ys))).length = j' := by
  have old := congrArg List.length h.drop_old
  have new := congrArg List.length h.drop_new
  rw [List.length_append, List.length_drop, List.length_drop] at old new
  have hle := h.le
  omega

/-- A position that an edit has on a side that it does not cover gives no number to any line. -/
theorem Spans.numbered_marked {i j i' j' : Nat} {e : Edit} (h : Spans xs ys i j i' j' [e]) :
    numbered i j (e.marked xs ys) = e.numbered xs ys := by
  cases h with
  | keep => rfl
  | delete => exact numbered_deleted ..
  | insert => exact numbered_inserted ..
  | replace => rfl

/-- Counted from the positions where they begin, the lines of some edits have the numbers that the
edits give them. -/
theorem Spans.numbered {i j i' j' : Nat} {es : List Edit} (h : Spans xs ys i j i' j' es)
    (hx : i' ≤ xs.length) (hy : j' ≤ ys.length) :
    numbered i j (es.flatMap (Edit.marked xs ys)) = es.flatMap (Edit.numbered xs ys) := by
  induction es generalizing i j with
  | nil => rfl
  | cons e es ih =>
      obtain ⟨i₁, j₁, first, rest⟩ : ∃ i₁ j₁, Spans xs ys i j i₁ j₁ [e] ∧
          Spans xs ys i₁ j₁ i' j' es := Spans.of_append h
      have hle := rest.le
      obtain ⟨old, new⟩ := first.length_lines (Nat.le_trans hle.1 hx) (Nat.le_trans hle.2 hy)
      rw [List.flatMap_singleton] at old new
      rw [List.flatMap_cons, List.flatMap_cons, numbered_append, old, new, first.numbered_marked,
        ih rest]

/-! ## Numbers that are too high -/

/-- A line with the number that it gets where the new side is taken to begin further down. -/
def NumberedLine.raise (offset : Nat) (l : NumberedLine) : NumberedLine :=
  if l.mark = .inserted then { l with number := l.number + offset } else l

theorem numbered_add (i j offset : Nat) (ls : List (Mark × Text)) :
    numbered i (j + offset) ls = (numbered i j ls).map (NumberedLine.raise offset) := by
  fun_induction numbered i j ls with
  | case1 => rfl
  | case2 i j t ls ih =>
      rw [← ih, numbered, Nat.add_right_comm]
  | case3 i j t ls ih =>
      rw [List.map_cons, ← ih]
      rfl
  | case4 i j t ls ih =>
      rw [List.map_cons, ← ih, numbered, Nat.add_right_comm, NumberedLine.raise, if_pos rfl,
        Nat.add_right_comm j 1]

theorem map_raise_zero (ls : List NumberedLine) : ls.map (NumberedLine.raise 0) = ls := by
  have same (l : NumberedLine) : NumberedLine.raise 0 l = l := ite_self l
  exact (List.map_congr_left fun l _ => same l).trans (List.map_id' ls)

/-- How many lines are inserted. -/
def insertedCount (ls : List NumberedLine) : Nat := ls.countP fun l => l.mark = .inserted

theorem insertedCount_append (ls ls' : List NumberedLine) :
    insertedCount (ls ++ ls') = insertedCount ls + insertedCount ls' := List.countP_append

theorem insertedCount_numbered (i j : Nat) (ls : List (Mark × Text)) :
    insertedCount (numbered i j ls) = ls.countP fun l => l.1 = .inserted := by
  fun_induction numbered i j ls with
  | case1 => rfl
  | case2 i j t ls ih => simp [ih]
  | case3 i j t ls ih => simpa [insertedCount] using ih
  | case4 i j t ls ih => simpa [insertedCount] using ih

theorem map_raise_eq_self_iff {offset : Nat} (pos : 0 < offset) {ls : List NumberedLine} :
    ls.map (NumberedLine.raise offset) = ls ↔ insertedCount ls = 0 := by
  have same : ls.map (NumberedLine.raise offset) = ls ↔
      ∀ l ∈ ls, NumberedLine.raise offset l = l := by
    rw [← List.map_inj_left (g := fun l => l), List.map_id']
  unfold insertedCount
  rw [List.countP_eq_zero, same]
  refine forall₂_congr fun l _ => ?_
  unfold NumberedLine.raise
  by_cases hmark : l.mark = .inserted
  · have higher : l.number + offset ≠ l.number := by omega
    refine iff_of_false (fun h => higher ?_) (by simp [hmark])
    rw [if_pos hmark] at h
    exact congrArg NumberedLine.number h
  · simp [hmark]

/-- If the inserted lines in front get numbers too high, the same lines parted in two ways have the
same numbers exactly if as many of them are in front. -/
theorem map_raise_append_eq_iff {offset : Nat} (pos : 0 < offset)
    {front back front' back' : List NumberedLine} (h : front ++ back = front' ++ back') :
    front.map (NumberedLine.raise offset) ++ back =
        front'.map (NumberedLine.raise offset) ++ back' ↔
      insertedCount front = insertedCount front' := by
  have longer (front between back : List NumberedLine) :
      front.map (NumberedLine.raise offset) ++ (between ++ back) =
        (front ++ between).map (NumberedLine.raise offset) ++ back ↔
        insertedCount front = insertedCount (front ++ between) := by
    rw [List.map_append, List.append_assoc, List.append_cancel_left_eq, List.append_cancel_right_eq,
      eq_comm, map_raise_eq_self_iff pos, insertedCount_append]
    omega
  -- only the lines by which one front is longer than the other can differ
  obtain ⟨between, rfl, rfl⟩ | ⟨between, rfl, rfl⟩ := List.append_eq_append_iff.mp h
  · exact longer front between back'
  · rw [eq_comm, longer front' between back, eq_comm]

end PatchTrail.Diff
