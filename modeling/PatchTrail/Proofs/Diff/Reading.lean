import PatchTrail.Proofs.Diff.Writing

/-!
# Reading hunks back

The lines of a hunk are counted off its header, so how much of the hunk is read depends on what the
header says (`Legible`). A header whose counts do not exceed the lines never makes the reader go on
into what follows the hunk. It lets the reader stop too early exactly if the hunk ends with inserted
lines and the count of the new side is too small (`Hunk.Sound.legible_iff`), and then a line of the
hunk is left over.

Hunks whose headers are right are read back as they are, whatever follows (`readHunks?_written`). If
a header is not, what is left over begins with a marked line (`readHunks?_stop`).
-/

namespace PatchTrail.Diff

open Text

/-! ## Headers -/

theorem readRange?_renderRange (start count : Nat) :
    readRange? (renderRange start count) =
      some (if count = 0 then start else start + 1, count) := by
  have comma := not_mem_ofNat (c := ',') rfl
  unfold readRange? renderRange
  by_cases hone : count = 1
  · rw [if_pos hone, cut?_eq_none (comma _)]
    subst hone
    simp [toNat?_ofNat]
  · by_cases hzero : count = 0
    · rw [if_neg hone, if_pos hzero, show (",0" : Text) = ',' :: ofNat 0 from rfl,
        cut?_append_cons (comma _)]
      subst hzero
      simp [toNat?_ofNat]
    · rw [if_neg hone, if_neg hzero, List.append_assoc, show (",": Text) ++ ofNat count =
        ',' :: ofNat count from rfl, cut?_append_cons (comma _)]
      simp [toNat?_ofNat, hzero]

/-- The place that a reader of its header takes a hunk to begin at, counted from one. -/
def Hunk.firstLine (h : Hunk) : Nat := if h.oldCount = 0 then h.oldStart else h.oldStart + 1

/-- The header of a hunk can be taken apart into its ranges. -/
theorem cut?_headerLine (h : Hunk) :
    ∃ line ranges, dropPrefix? "@@ -" h.headerLine = some line ∧
      cut? " @@" line = some (ranges, []) ∧
      cut? " +" ranges =
        some (renderRange h.oldStart h.oldCount, renderRange h.newStart h.newCount) := by
  have oldSign := renderRange_digits (c := '@') rfl (by decide) h.oldStart h.oldCount
  have newSign := renderRange_digits (c := '@') rfl (by decide) h.newStart h.newCount
  have oldPlus := renderRange_digits (c := '+') rfl (by decide) h.oldStart h.oldCount
  unfold Hunk.headerLine
  generalize renderRange h.oldStart h.oldCount = old at *
  generalize renderRange h.newStart h.newCount = new at *
  have sides : '@' ∉ old ++ ([' ', '+'] ++ new) := by
    simp only [List.mem_append, not_or]
    exact ⟨oldSign, by decide, newSign⟩
  have line : ("@@ -" : Text) ++ old ++ (" +" : Text) ++ new ++ (" @@" : Text) =
      ("@@ -" : Text) ++ (old ++ ([' ', '+'] ++ new) ++ ([' ', '@', '@'] ++ [])) := by
    simp only [List.append_assoc, List.append_nil]
    rfl
  have begins := dropPrefix?_append ("@@ -" : Text)
    (old ++ ([' ', '+'] ++ new) ++ ([' ', '@', '@'] ++ []))
  exact ⟨_, _, line ▸ begins, cut?_append_pair (by decide) sides [],
    cut?_append_pair (by decide) oldPlus new⟩

theorem readHunkHeader?_headerLine (h : Hunk) :
    readHunkHeader? h.headerLine = some (h.firstLine, h.oldCount, h.newCount) := by
  obtain ⟨line, ranges, begins, outer, inner⟩ := cut?_headerLine h
  unfold readHunkHeader?
  simp only [Option.bind_eq_bind, Option.bind_some, begins, outer, inner, readRange?_renderRange]
  rfl

/-! ## Marked lines -/

/-- What a marked line is read as. -/
def HunkLine.ofLine (l : Mark × Text) : List HunkLine :=
  .marked l.1 (dropFeeds l.2) :: if isTerminated l.2 then [] else [.remark]

theorem HunkLine.ofText?_mark (m : Mark) (t : Text) :
    HunkLine.ofText? (m.char :: t) = some (.marked m t) := by
  cases m <;> rfl

theorem ofText?_writtenLines (l : Mark × Text) :
    ∀ t ∈ writtenLines l, (HunkLine.ofText? t).isSome := by
  intro t ht
  rcases List.mem_cons.mp ht with rfl | ht
  · rw [HunkLine.ofText?_mark]
    rfl
  · split at ht
    · cases ht
    · cases List.mem_singleton.mp ht
      rfl

/-- Counted off two ranges, marked lines are read to the last, and both ranges end there. -/
def Legible : (old new : Nat) → List (Mark × Text) → Prop
  | old, new, [] => old = 0 ∧ new = 0
  | old, new, l :: ls =>
    (old ≠ 0 ∨ new ≠ 0) ∧
      Legible (old - (HunkLine.marked l.1 l.2).oldCount)
        (new - (HunkLine.marked l.1 l.2).newCount) ls

theorem length_oldLines_cons (l : Mark × Text) (ls : List (Mark × Text)) :
    (oldLines (l :: ls)).length = (HunkLine.marked l.1 l.2).oldCount + (oldLines ls).length := by
  obtain ⟨mark, line⟩ := l
  unfold oldLines
  cases mark <;> simp [HunkLine.oldCount, Nat.add_comm]

theorem length_newLines_cons (l : Mark × Text) (ls : List (Mark × Text)) :
    (newLines (l :: ls)).length = (HunkLine.marked l.1 l.2).newCount + (newLines ls).length := by
  obtain ⟨mark, line⟩ := l
  unfold newLines
  cases mark <;> simp [HunkLine.newCount, Nat.add_comm]

/-- Marked lines are read to the last if something is still to come before the last and nothing
behind it. -/
theorem legible_concat {old new : Nat} (ls : List (Mark × Text)) (l : Mark × Text) :
    Legible old new (ls ++ [l]) ↔
      ((oldLines ls).length < old ∨ (newLines ls).length < new) ∧
        old ≤ (oldLines (ls ++ [l])).length ∧ new ≤ (newLines (ls ++ [l])).length := by
  induction ls generalizing old new with
  | nil =>
      rw [List.nil_append, length_oldLines_cons, length_newLines_cons, Legible, Legible]
      simp only [oldLines, newLines, List.filter_nil, List.map_nil, List.length_nil]
      omega
  | cons l' ls ih =>
      rw [List.cons_append, Legible, ih, length_oldLines_cons l', length_oldLines_cons l',
        length_newLines_cons l', length_newLines_cons l']
      omega

/-- A hunk is legible exactly if its header announces the inserted lines that it ends with. -/
theorem Hunk.Sound.legible_iff {h : Hunk} (sound : h.Sound) (nonempty : h.lines ≠ []) :
    Legible h.oldCount h.newCount h.lines ↔ h.Announced := by
  have hold := sound.oldCount_le
  have hnew := sound.newCount_le
  have heq := sound.oldCount_eq
  unfold Hunk.Announced
  obtain ⟨ls, l, hlines⟩ : ∃ ls l, h.lines = ls ++ [l] :=
    ⟨_, _, (List.dropLast_concat_getLast nonempty).symm⟩
  rw [hlines] at hold hnew heq ⊢
  rw [List.getLast?_concat] at heq ⊢
  rw [legible_concat]
  have old := length_oldLines_cons l []
  have new := length_newLines_cons l []
  rw [oldLines_append, List.length_append] at hold heq ⊢
  rw [newLines_append, List.length_append] at hnew ⊢
  obtain ⟨mark, line⟩ := l
  cases mark with
  | inserted =>
      change _ = 0 + 0 at old
      change _ = 1 + 0 at new
      constructor
      · intro legible line' hline
        omega
      · intro announced
        have := announced line rfl
        omega
  | kept =>
      have := heq nofun
      change _ = 1 + 0 at old
      exact ⟨fun _ => nofun, fun _ => by omega⟩
  | deleted =>
      have := heq nofun
      change _ = 1 + 0 at old
      exact ⟨fun _ => nofun, fun _ => by omega⟩

/-- A remark is read wherever it stands. -/
theorem readHunkLines?_remark (old new : Nat) (rest : List Text) :
    readHunkLines? old new (remarkLine :: rest) =
      (readHunkLines? old new rest).map fun (lines, rest) => (.remark :: lines, rest) := by
  have found : HunkLine.ofText? remarkLine = some .remark := rfl
  rw [readHunkLines?, found]
  simp only
  rw [if_neg fun h => h.2.2 rfl]
  rfl

/-- As long as a line is still to come, a marked line is read. -/
theorem readHunkLines?_step {old new : Nat} (h : old ≠ 0 ∨ new ≠ 0) (l : Mark × Text)
    (rest : List Text) :
    readHunkLines? old new (writtenLines l ++ rest) =
      (readHunkLines? (old - (HunkLine.marked l.1 l.2).oldCount)
        (new - (HunkLine.marked l.1 l.2).newCount) rest).map
          fun (lines, rest) => (HunkLine.ofLine l ++ lines, rest) := by
  have oldCount : (HunkLine.marked l.1 (dropFeeds l.2)).oldCount =
      (HunkLine.marked l.1 l.2).oldCount := by cases l.1 <;> rfl
  have newCount : (HunkLine.marked l.1 (dropFeeds l.2)).newCount =
      (HunkLine.marked l.1 l.2).newCount := by cases l.1 <;> rfl
  unfold writtenLines HunkLine.ofLine
  rw [List.cons_append, readHunkLines?, HunkLine.ofText?_mark]
  simp only
  rw [if_neg fun hzero => by omega, oldCount, newCount]
  cases isTerminated l.2 with
  | true =>
      rw [if_pos rfl, if_pos rfl]
      rfl
  | false =>
      rw [if_neg nofun, if_neg nofun, List.singleton_append, readHunkLines?_remark, Option.map_map]
      rfl

/-- Where nothing is still to come, reading stops in front of a line that is not a remark. -/
theorem readHunkLines?_zero {rest : List Text}
    (h : ∀ t ∈ rest.head?, HunkLine.ofText? t ≠ some .remark) :
    readHunkLines? 0 0 rest = some ([], rest) := by
  cases rest with
  | nil => rfl
  | cons t rest =>
      have ht := h t rfl
      rw [readHunkLines?]
      split
      · rfl
      · next line hline =>
          rw [if_pos ⟨rfl, rfl, fun hremark => ht (by rw [hline, hremark])⟩]

/-- Legible lines are read to the last, whatever follows. -/
theorem readHunkLines?_legible {old new : Nat} {ls : List (Mark × Text)} {rest : List Text}
    (h : ∀ t ∈ rest.head?, HunkLine.ofText? t ≠ some .remark) (legible : Legible old new ls) :
    readHunkLines? old new (ls.flatMap writtenLines ++ rest) =
      some (ls.flatMap HunkLine.ofLine, rest) := by
  induction ls generalizing old new with
  | nil =>
      obtain ⟨rfl, rfl⟩ := legible
      exact readHunkLines?_zero h
  | cons l ls ih =>
      obtain ⟨some_, legible⟩ := legible
      rw [List.flatMap_cons, List.append_assoc, readHunkLines?_step some_, ih legible]
      rfl

/-- Lines that are counted off ranges that do not exceed them are read to the last, or there are
lines left over. -/
theorem readHunkLines?_le {old new : Nat} {ls : List (Mark × Text)} {rest : List Text}
    (h : ∀ t ∈ rest.head?, HunkLine.ofText? t ≠ some .remark)
    (hold : old ≤ (oldLines ls).length) (hnew : new ≤ (newLines ls).length) :
    ∃ lines left, readHunkLines? old new (ls.flatMap writtenLines ++ rest) =
      some (lines, left ++ rest) ∧ left <:+ ls.flatMap writtenLines ∧
        (left = [] → Legible old new ls) := by
  induction ls generalizing old new with
  | nil =>
      change old ≤ 0 at hold
      change new ≤ 0 at hnew
      obtain rfl : old = 0 := by omega
      obtain rfl : new = 0 := by omega
      exact ⟨[], [], readHunkLines?_zero h, List.suffix_refl _, fun _ => ⟨rfl, rfl⟩⟩
  | cons l ls ih =>
      rw [length_oldLines_cons] at hold
      rw [length_newLines_cons] at hnew
      rw [List.flatMap_cons]
      by_cases hzero : old = 0 ∧ new = 0
      · obtain ⟨rfl, rfl⟩ := hzero
        refine ⟨[], writtenLines l ++ ls.flatMap writtenLines, readHunkLines?_zero ?_,
          List.suffix_refl _, nofun⟩
        intro t ht
        cases ht
        rw [HunkLine.ofText?_mark]
        exact nofun
      · have hsome : old ≠ 0 ∨ new ≠ 0 := by omega
        have hold' : old - (HunkLine.marked l.1 l.2).oldCount ≤ (oldLines ls).length := by omega
        have hnew' : new - (HunkLine.marked l.1 l.2).newCount ≤ (newLines ls).length := by omega
        obtain ⟨lines, left, read, suffix, legible⟩ := ih hold' hnew'
        refine ⟨HunkLine.ofLine l ++ lines, left, ?_, suffix.trans (List.suffix_append _ _),
          fun hleft => ⟨hsome, legible hleft⟩⟩
        rw [List.append_assoc, readHunkLines?_step hsome, read]
        rfl

/-! ## Hunks -/

/-- What a hunk is read as. -/
def Hunk.read (h : Hunk) : HunkReading :=
  ⟨h.firstLine, h.oldCount, h.lines.flatMap HunkLine.ofLine⟩

/-- Lines that may follow a section: none, an empty line or the first line of another section. -/
def Boundary (rest : List Text) : Prop :=
  ∀ t ∈ rest.head?, t = [] ∨ ∃ name, t = "--- " ++ name

theorem Boundary.ofText? {rest : List Text} (h : Boundary rest) :
    ∀ t ∈ rest.head?, HunkLine.ofText? t ≠ some .remark := by
  intro t ht
  rcases h t ht with rfl | ⟨name, rfl⟩
  · exact nofun
  · exact nofun

theorem Hunk.startsWith_headerLine (h : Hunk) : startsWith h.headerLine "@@ -" = true := by
  unfold startsWith Hunk.headerLine
  simp only [List.append_assoc]
  exact List.isPrefixOf_iff_prefix.mpr (List.prefix_append _ _)

/-- A line of a hunk is not a header. -/
theorem startsWith_eq_false {t : Text} (h : (HunkLine.ofText? t).isSome) :
    startsWith t "@@ -" = false := by
  cases t with
  | nil => rfl
  | cons c t =>
      by_cases hc : '@' = c
      · subst hc
        cases h
      · have : ('@' == c) = false := beq_false_of_ne hc
        change (('@' == c) && _) = false
        rw [this, Bool.false_and]

theorem Boundary.startsWith {rest : List Text} (h : Boundary rest) :
    ∀ t ∈ rest.head?, startsWith t "@@ -" = false := by
  intro t ht
  rcases h t ht with rfl | ⟨name, rfl⟩
  · rfl
  · rfl

theorem ofText?_written (hs : List Hunk) {rest : List Text} (h : Boundary rest) :
    ∀ t ∈ (hs.flatMap Hunk.written ++ rest).head?, HunkLine.ofText? t ≠ some .remark := by
  cases hs with
  | nil => exact h.ofText?
  | cons hunk hs =>
      intro t ht
      cases ht
      exact nofun

/-- Where no header begins, no hunk is read. -/
theorem readHunks?_stop {rest : List Text} (bound : Nat)
    (h : ∀ t ∈ rest.head?, startsWith t "@@ -" = false) :
    readHunks? bound rest = some ([], rest) := by
  cases bound with
  | zero => rfl
  | succ bound =>
      cases rest with
      | nil => rfl
      | cons t rest =>
          rw [readHunks?, h t rfl]
          rfl

/-- A hunk is read as its header says, and then the hunks behind it. -/
theorem readHunks?_step (bound : Nat) (h : Hunk) {lines : List HunkLine} {rest left : List Text}
    (read : readHunkLines? h.oldCount h.newCount (h.lines.flatMap writtenLines ++ rest) =
      some (lines, left)) :
    readHunks? (bound + 1) (h.written ++ rest) =
      (readHunks? bound left).map fun (hunks, rest) =>
        (⟨h.firstLine, h.oldCount, lines⟩ :: hunks, rest) := by
  unfold Hunk.written
  rw [List.cons_append, readHunks?, h.startsWith_headerLine, if_pos rfl,
    readHunkHeader?_headerLine]
  simp only [Option.bind_eq_bind, Option.bind_some, read]
  cases readHunks? bound left <;> rfl

/-- Hunks whose headers are right are read back, whatever section follows. -/
theorem readHunks?_written {hs : List Hunk} {rest : List Text} {bound : Nat}
    (legible : ∀ h ∈ hs, Legible h.oldCount h.newCount h.lines) (boundary : Boundary rest)
    (enough : hs.length ≤ bound) :
    readHunks? bound (hs.flatMap Hunk.written ++ rest) = some (hs.map Hunk.read, rest) := by
  induction hs generalizing bound with
  | nil => exact readHunks?_stop bound boundary.startsWith
  | cons h hs ih =>
      obtain ⟨bound, rfl⟩ : ∃ b, bound = b + 1 := Nat.exists_eq_succ_of_ne_zero (by
        rw [List.length_cons] at enough
        omega)
      rw [List.flatMap_cons, List.append_assoc, readHunks?_step bound h
        (readHunkLines?_legible (ofText?_written hs boundary) (legible h List.mem_cons_self)),
        ih (fun h' hh' => legible h' (List.mem_cons_of_mem _ hh')) (Nat.le_of_succ_le_succ enough)]
      rfl

/-- Hunks whose headers are sound are read back as far as their headers say. If a header is not
right, lines of a hunk are left over. -/
theorem readHunks?_sound {hs : List Hunk} {rest : List Text} {bound : Nat}
    (sound : ∀ h ∈ hs, h.Sound) (boundary : Boundary rest) (enough : hs.length ≤ bound) :
    ∃ read left hs', readHunks? bound (hs.flatMap Hunk.written ++ rest) =
        some (read, left ++ (hs'.flatMap Hunk.written ++ rest)) ∧
      (∀ t ∈ left, (HunkLine.ofText? t).isSome) ∧ hs' <:+ hs ∧
      left.length + (hs'.flatMap Hunk.written).length ≤ (hs.flatMap Hunk.written).length ∧
      (left = [] → hs' = [] ∧ ∀ h ∈ hs, Legible h.oldCount h.newCount h.lines) := by
  induction hs generalizing bound with
  | nil =>
      exact ⟨[], [], [], readHunks?_stop bound boundary.startsWith, nofun, List.suffix_refl _,
        Nat.le_refl _, fun _ => ⟨rfl, nofun⟩⟩
  | cons h hs ih =>
      obtain ⟨bound, rfl⟩ : ∃ b, bound = b + 1 := Nat.exists_eq_succ_of_ne_zero (by
        rw [List.length_cons] at enough
        omega)
      have hsound := sound h List.mem_cons_self
      obtain ⟨lines, left, read, suffix, legible⟩ := readHunkLines?_le
        (ofText?_written hs boundary) hsound.oldCount_le hsound.newCount_le
      rw [List.flatMap_cons, List.append_assoc, readHunks?_step bound h read]
      have hlen := suffix.length_le
      by_cases hleft : left = []
      · obtain ⟨more, left', hs', read', marked, suffix', length, rest'⟩ :=
          ih (fun h' hh' => sound h' (List.mem_cons_of_mem _ hh')) (Nat.le_of_succ_le_succ enough)
        subst hleft
        refine ⟨⟨h.firstLine, h.oldCount, lines⟩ :: more, left', hs', ?_, marked,
          suffix'.trans (List.suffix_cons _ _), ?_, ?_⟩
        · rw [List.nil_append, read']
          rfl
        · rw [List.length_append]
          omega
        · intro hleft'
          obtain ⟨hnone, hall⟩ := rest' hleft'
          refine ⟨hnone, fun h' hh' => ?_⟩
          rcases List.mem_cons.mp hh' with rfl | hh'
          · exact legible rfl
          · exact hall h' hh'
      · have marked : ∀ t ∈ left, (HunkLine.ofText? t).isSome := by
          intro t ht
          obtain ⟨l, hl, ht⟩ := List.mem_flatMap.mp (suffix.subset ht)
          exact ofText?_writtenLines l t ht
        refine ⟨[⟨h.firstLine, h.oldCount, lines⟩], left, hs, ?_, marked, List.suffix_cons _ _, ?_,
          fun hnil => (hleft hnil).elim⟩
        · rw [readHunks?_stop bound ?_]
          · rfl
          · intro t ht
            rw [List.head?_append, List.head?_eq_some_head hleft, Option.some_or] at ht
            cases ht
            exact startsWith_eq_false (marked _ (List.head_mem hleft))
        · rw [List.length_append, Hunk.written, List.length_cons]
          omega

end PatchTrail.Diff
