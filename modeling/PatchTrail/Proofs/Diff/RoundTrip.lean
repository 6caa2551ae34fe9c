import PatchTrail.Proofs.Diff.Sections

/-!
# Diffs and texts, back and forth

Applied to the old lines, the hunks of a difference give the new lines (`Transforms.applyHunks?`):
hunks begin on the old side where their headers say, and the reader uses nothing else of a header
but the number of lines to read. So a section can be read back and applied exactly if the headers of
its hunks announce the inserted lines that the hunks end with (`modified_round_trip_iff`). They do
where a file is written anew, because then nothing is deleted that could have moved. They need not
do so otherwise (`modified_unreadable`).
-/

namespace PatchTrail.Diff

open Text

/-! ## Applying hunks -/

/-- A line is put together from its body and the remark behind it. -/
theorem applyLines?_inserted {last : Mark} {line : Text} {lines : List HunkLine} {done : Text}
    {old : List Text} (h : IsLine line) :
    applyLines? last (HunkLine.ofLine (.inserted, line) ++ lines) done old =
      applyLines? .inserted lines (done ++ line) old := by
  unfold HunkLine.ofLine
  cases h with
  | @terminated body plain =>
      change applyLines? last ((.marked .inserted (dropFeeds (body ++ ['\n'])) ::
        if isTerminated (body ++ ['\n']) then [] else [.remark]) ++ lines) done old = _
      rw [isTerminated_append, dropFeeds_append plain, if_pos rfl, ← List.append_assoc]
      rfl
  | unterminated plain nonempty bare =>
      change applyLines? last ((.marked .inserted (dropFeeds line) ::
        if isTerminated line then [] else [.remark]) ++ lines) done old = _
      rw [isTerminated_eq_false plain bare, dropFeeds_eq plain, if_neg nofun]
      change applyLines? .inserted lines (done ++ line ++ ['\n']).dropLast old = _
      rw [List.dropLast_concat]

theorem applyLines?_kept {last : Mark} {line : Text} {lines : List HunkLine} {done : Text}
    {old : List Text} :
    applyLines? last (HunkLine.ofLine (.kept, line) ++ lines) done (line :: old) =
      applyLines? .kept lines (done ++ line) old := by
  change applyLines? last (.marked .kept (dropFeeds line) ::
    ((if isTerminated line then [] else [.remark]) ++ lines)) done (line :: old) = _
  rw [applyLines?, if_pos rfl]
  split
  · rfl
  · rfl

theorem applyLines?_deleted {last : Mark} {line : Text} {lines : List HunkLine} {done : Text}
    {old : List Text} :
    applyLines? last (HunkLine.ofLine (.deleted, line) ++ lines) done (line :: old) =
      applyLines? .deleted lines done old := by
  change applyLines? last (.marked .deleted (dropFeeds line) ::
    ((if isTerminated line then [] else [.remark]) ++ lines)) done (line :: old) = _
  rw [applyLines?, if_pos rfl]
  split
  · rfl
  · rfl

/-- On their old side marked lines can be followed, and leave their new side. -/
theorem applyLines?_ofLine {ls : List (Mark × Text)} (plain : Plain ls) (last : Mark)
    (done : Text) (old : List Text) :
    applyLines? last (ls.flatMap HunkLine.ofLine) done (oldLines ls ++ old) =
      some (done ++ (newLines ls).flatten, old) := by
  induction ls generalizing last done with
  | nil =>
      change some (done, old) = some (done ++ [], old)
      rw [List.append_nil]
  | cons l ls ih =>
      have plain' : Plain ls := fun l' hl' => plain l' (List.mem_cons_of_mem _ hl')
      obtain ⟨mark, line⟩ := l
      rw [List.flatMap_cons]
      cases mark with
      | kept =>
          change applyLines? last _ done (line :: (oldLines ls ++ old)) =
            some (done ++ (line ++ (newLines ls).flatten), old)
          rw [applyLines?_kept, ih plain', List.append_assoc]
      | deleted =>
          change applyLines? last _ done (line :: (oldLines ls ++ old)) =
            some (done ++ (newLines ls).flatten, old)
          rw [applyLines?_deleted, ih plain']
      | inserted =>
          change applyLines? last _ done (oldLines ls ++ old) =
            some (done ++ (line ++ (newLines ls).flatten), old)
          rw [applyLines?_inserted (plain _ List.mem_cons_self), ih plain', List.append_assoc]

theorem Hunk.before?_read (h : Hunk) : h.read.before? = some h.oldStart := by
  unfold HunkReading.before? Hunk.read Hunk.firstLine
  split
  · rfl
  · rfl

/-- Hunks that lead from some lines to others rebuild the others. -/
theorem Transforms.applyHunks? {passed : Nat} {old new : List Text} {hs : List Hunk}
    (t : Transforms passed old new hs) (plain : ∀ h ∈ hs, Plain h.lines) :
    applyHunks? (hs.map Hunk.read) passed old = some new.flatten := by
  induction t with
  | done => rfl
  | @hunk passed same old new h hs sound nonempty start rest ih =>
      have applied := applyLines?_ofLine (plain h List.mem_cons_self) .kept [] old
      have behind := ih fun h' hh' => plain h' (List.mem_cons_of_mem _ hh')
      have skip : passed + same.length - passed = same.length := by omega
      rw [List.map_cons, Diff.applyHunks?, h.before?_read, start]
      simp only [Option.bind_eq_bind, Option.bind_some]
      rw [skip, if_neg (by rw [List.length_append]; omega), List.drop_left, List.take_left]
      have count : (same ++ (oldLines h.lines ++ old)).length - old.length =
          same.length + (oldLines h.lines).length := by
        rw [List.length_append, List.length_append]
        omega
      rw [show h.read.lines = h.lines.flatMap HunkLine.ofLine from rfl, applied]
      simp only [Option.bind_some]
      rw [count, ← Nat.add_assoc, behind]
      simp only [Option.bind_some, List.flatten_append, List.nil_append, List.append_assoc]
      rfl

/-! ## Sections -/

/-- The section with the differences between two texts. -/
def sectionBetween (r : Renderer) (oldName newName old new : Text) : Section :=
  ⟨oldName, newName, false,
    (shown (hunks r.contextLines (linesOf old) (linesOf new))).map Hunk.read⟩

/-- The headers of the hunks between two texts announce what the reader has to know. -/
def Announced (r : Renderer) (old new : Text) : Prop :=
  ∀ h ∈ hunks r.contextLines (linesOf old) (linesOf new), h.Announced

variable {r : Renderer} {old new : Text}

theorem hunks_sound (context : Nat) (xs ys : List Text) :
    ∀ h ∈ shown (hunks context xs ys), h.Sound ∧ h.lines ≠ [] := by
  have transforms := hunks_transforms context xs ys
  intro h hh
  refine ⟨transforms.sound h hh, ?_⟩
  have := (List.mem_filter.mp hh).2
  simpa using this

/-- Hunks without lines say nothing wrong, so it is enough to ask those that are shown. -/
theorem announced_iff_legible :
    Announced r old new ↔ ∀ h ∈ shown (hunks r.contextLines (linesOf old) (linesOf new)),
      Legible h.oldCount h.newCount h.lines := by
  have sound := hunks_sound r.contextLines (linesOf old) (linesOf new)
  constructor
  · intro announced h hh
    exact ((sound h hh).1.legible_iff (sound h hh).2).mpr (announced h (List.mem_filter.mp hh).1)
  · intro legible h hh line hline
    have nonempty : h.lines ≠ [] := by
      intro hnil
      rw [hnil] at hline
      cases hline
    have hshown : h ∈ shown (hunks r.contextLines (linesOf old) (linesOf new)) :=
      List.mem_filter.mpr ⟨hh, by simpa using nonempty⟩
    exact ((sound h hshown).1.legible_iff nonempty).mp (legible h hshown) line hline

theorem rebuild?_between (oldName newName : Text) (hold : '\r' ∉ old) (hnew : '\r' ∉ new) :
    (sectionBetween r oldName newName old new).rebuild? old = some new := by
  have transforms := hunks_transforms r.contextLines (linesOf old) (linesOf new)
  have applied := transforms.applyHunks? (hunks_plain _ hold hnew)
  unfold Section.rebuild? sectionBetween
  simp only
  rw [linesOf_eq_lines hold] at applied ⊢
  rw [applied, linesOf_eq_lines hnew, flatten_lines]

/-- Before other lines, a section with right headers is read back. -/
theorem ReadsAs.between {oldName newName : Text} {rest : List Text} {ss : List Section}
    (h : ReadsAs rest ss) (boundary : Boundary rest) (announced : Announced r old new) :
    ReadsAs (sectionLines oldName newName
      (shown (hunks r.contextLines (linesOf old) (linesOf new))) ++ rest)
      (sectionBetween r oldName newName old new :: ss) :=
  h.section boundary oldName newName (announced_iff_legible.mp announced)

/-- Before other lines, a section with a header that is not right is read as two at least. -/
theorem AtLeast.between {oldName newName : Text} {rest : List Text} {count : Nat}
    (h : AtLeast count rest) (boundary : Boundary rest) (hnot : ¬ Announced r old new) :
    AtLeast (count + 2) (sectionLines oldName newName
      (shown (hunks r.contextLines (linesOf old) (linesOf new))) ++ rest) := by
  refine (h.section boundary oldName newName fun h hh => (hunks_sound _ _ _ h hh).1).2 ?_
  refine Classical.byContradiction fun hall => hnot (announced_iff_legible.mpr fun h hh => ?_)
  exact Classical.byContradiction fun hlegible => hall ⟨h, hh, hlegible⟩

theorem boundary_end : Boundary [[]] := fun _ ht => .inl (Option.some.inj ht).symm

theorem split_section {oldName newName : Text} (hnames : '\n' ∉ oldName ∧ '\n' ∉ newName)
    (hold : '\r' ∉ old) (hnew : '\r' ∉ new) :
    split '\n' (r.section_ oldName newName old new) = sectionLines oldName newName
      (shown (hunks r.contextLines (linesOf old) (linesOf new))) ++ [[]] := by
  have lines := feed_notMem_sectionLines hnames.1 hnames.2
    (hunks_plain r.contextLines hold hnew)
  have := split_unlines lines []
  rwa [List.append_nil, ← section_eq_unlines r oldName newName hold hnew] at this

/-- A section alone is read back as itself exactly if its headers are right. -/
theorem readAll?_section_iff {oldName newName : Text} (hnames : '\n' ∉ oldName ∧ '\n' ∉ newName)
    (hold : '\r' ∉ old) (hnew : '\r' ∉ new) :
    (∃ s, Section.readAll? (r.section_ oldName newName old new) = some [s] ∧
      s.oldName = oldName ∧ s.newName = newName ∧ s.isBinary = false ∧
      s.rebuild? old = some new) ↔ Announced r old new := by
  unfold Section.readAll?
  rw [split_section hnames hold hnew]
  constructor
  · rintro ⟨s, hread, -⟩
    refine Classical.byContradiction fun hnot => ?_
    have none : AtLeast 0 [[]] := fun _ _ _ => Nat.zero_le _
    have := none.between boundary_end hnot _ _ hread
    cases this with
    | step this => cases this
  · intro announced
    exact ⟨sectionBetween r oldName newName old new,
      readsAs_end.between boundary_end announced _ (Nat.le_refl _), rfl, rfl, rfl,
      rebuild?_between oldName newName hold hnew⟩

/-- The section of a file changed in place is read back and applied exactly if its headers announce
the inserted lines that its hunks end with. The section of a new file always is. -/
theorem modified_round_trip_iff (r : Renderer) {path old new : Text} (hpath : '\n' ∉ path)
    (hold : '\r' ∉ old) (hnew : '\r' ∉ new) :
    ((∃ s, Section.readAll? (r.modified path old new) = some [s] ∧
        s.oldName = oldSideName path ∧ s.newName = newSideName path ∧ s.isBinary = false ∧
        s.rebuild? old = some new) ↔ Announced r old new) ∧
      ∀ content, Text.decode? content = some new →
        ∃ s, Section.readAll? (r.created path content) = some [s] ∧
          s.oldName = nullSide ∧ s.newName = newSideName path ∧ s.isBinary = false ∧
          s.rebuild? [] = some new := by
  have oldName : '\n' ∉ oldSideName path := by
    unfold oldSideName
    rw [List.mem_append, not_or]
    exact ⟨by decide, hpath⟩
  have newName : '\n' ∉ newSideName path := by
    unfold newSideName
    rw [List.mem_append, not_or]
    exact ⟨by decide, hpath⟩
  refine ⟨readAll?_section_iff ⟨oldName, newName⟩ hold hnew, fun content hcontent => ?_⟩
  unfold Renderer.created
  rw [hcontent]
  exact (readAll?_section_iff ⟨by decide, newName⟩ List.not_mem_nil hnew).mpr
    (hunks_nil_announced _ _)

theorem modified_round_trip_f :
    ('\n' ∉ ("f" : Text) ∧ '\r' ∉ ("a\nb" : Text) ∧ '\r' ∉ ("a\nc\n" : Text)) ∧
      ∃ s, Section.readAll? (({} : Renderer).modified "f" "a\nb" "a\nc\n") = some [s] ∧
        s.oldName = oldSideName "f" ∧ s.newName = newSideName "f" ∧ s.isBinary = false ∧
        s.rebuild? "a\nb" = some "a\nc\n" := by
  have path : '\n' ∉ ("f" : Text) := by decide
  refine ⟨by decide, ((modified_round_trip_iff {} path (by decide) (by decide)).1.mpr ?_)⟩
  have edits : difference (linesOf "a\nb") (linesOf "a\nc\n") =
      [.keep 0 0 1, .replace 1 1 1 1] := by cbv
  have found : hunks 3 (linesOf "a\nb") (linesOf "a\nc\n") =
      [⟨0, 2, 0, 2, [(.kept, "a\n"), (.deleted, "b"), (.inserted, "c\n")]⟩] := by
    unfold hunks
    rw [edits]
    rfl
  intro h hh line hline
  rw [found] at hh
  cases List.mem_singleton.mp hh
  rfl

/-- The header of this hunk announces one new line where there are four: the deletion at its
beginning keeps the new position that it had behind the insertion. -/
theorem hunks_misplaced :
    hunks 3 (linesOf "a\nc\n") (linesOf "c\nb\nb\nc\n") =
      [⟨0, 1, 3, 1, [(.deleted, "a\n"), (.kept, "c\n"), (.inserted, "b\n"), (.inserted, "b\n"),
        (.inserted, "c\n")]⟩] := by
  have edits : difference (linesOf "a\nc\n") (linesOf "c\nb\nb\nc\n") =
      [.delete 0 1 3, .keep 1 0 1, .insert 1 1 3] := by cbv
  unfold hunks
  rw [edits]
  rfl

/-- The section with that hunk cannot be read back. -/
theorem modified_unreadable :
    ('\n' ∉ ("f" : Text) ∧ '\r' ∉ ("a\nc\n" : Text) ∧ '\r' ∉ ("c\nb\nb\nc\n" : Text)) ∧
      ¬ ∃ s, Section.readAll? (({} : Renderer).modified "f" "a\nc\n" "c\nb\nb\nc\n") = some [s] ∧
        s.oldName = oldSideName "f" ∧ s.newName = newSideName "f" ∧ s.isBinary = false ∧
        s.rebuild? "a\nc\n" = some "c\nb\nb\nc\n" := by
  refine ⟨by decide, fun hread => ?_⟩
  have announced := (readAll?_section_iff (by decide) (by decide) (by decide)).mp hread
  have wrong := announced _ (hunks_misplaced ▸ List.mem_singleton_self _) "c\n" rfl
  revert wrong
  decide

end PatchTrail.Diff
