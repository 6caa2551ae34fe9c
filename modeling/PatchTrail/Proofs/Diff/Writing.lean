import PatchTrail.Diff.Section
import PatchTrail.Proofs.Diff.Hunks
import PatchTrail.Proofs.Text.Pieces

/-!
# Diffs as lines

What is written for a diff is a list of lines, each with a line feed behind it: the headers, the
marked lines of the hunks without their line ends, and the remarks behind those that have none
(`render_eq_unlines`, `section_eq_unlines`). None of these lines contains a line feed, so the diff
can be split into them again. Files without carriage returns are assumed, whose lines are the same
for the diff and for its reader (`linesOf_eq_lines`).
-/

namespace PatchTrail.Diff

open Text

/-! ## Lines of a text -/

/-- A line of a file without carriage returns: a body and a line feed, or at the end of the file a
body alone. -/
inductive IsLine : Text → Prop where
  | terminated {body : Text} (plain : '\n' ∉ body) : IsLine (body ++ ['\n'])
  | unterminated {body : Text} (plain : '\n' ∉ body) (nonempty : body ≠ []) (bare : '\r' ∉ body) :
      IsLine body

theorem linesOf_eq_lines {t : Text} (h : '\r' ∉ t) : linesOf t = lines t := by
  induction t with
  | nil => rfl
  | cons c t ih =>
      obtain ⟨hc, ht⟩ := List.ne_and_not_mem_of_not_mem_cons h
      have hc' : c ≠ '\r' := Ne.symm hc
      rw [linesOf, ih ht, lines]
      · by_cases hfeed : c = '\n'
        · rw [if_pos (.inl hfeed), if_pos hfeed]
        · have inside : ¬ (c = '\n' ∨ c = '\r') := not_or.mpr ⟨hfeed, hc'⟩
          refine (if_neg inside).trans (.trans ?_ (if_neg hfeed).symm)
          cases lines t <;> rfl
      · intro rest hcons
        exact (hc' hcons).elim

theorem lines_isLine {t : Text} (h : '\r' ∉ t) : ∀ line ∈ lines t, IsLine line := by
  induction t with
  | nil => exact fun _ hline => (List.not_mem_nil hline).elim
  | cons c t ih =>
      obtain ⟨hc, ht⟩ := List.ne_and_not_mem_of_not_mem_cons h
      rw [lines]
      intro line hline
      by_cases hfeed : c = '\n'
      · rw [if_pos hfeed] at hline
        rcases List.mem_cons.mp hline with rfl | hline
        · have feed : IsLine ([] ++ ['\n']) := .terminated List.not_mem_nil
          exact hfeed ▸ feed
        · exact ih ht line hline
      · rw [if_neg hfeed] at hline
        have fresh : ∀ body, '\n' ∉ body → '\n' ∉ c :: body :=
          fun body hbody hmem => (List.mem_cons.mp hmem).elim (fun h => hfeed h.symm) hbody
        have bare : ∀ body, '\r' ∉ body → '\r' ∉ c :: body :=
          fun body hbody hmem => (List.mem_cons.mp hmem).elim hc hbody
        cases hl : lines t with
        | nil =>
            rw [hl] at hline
            cases List.mem_singleton.mp hline
            exact .unterminated (fresh [] List.not_mem_nil) (List.cons_ne_nil c [])
              (bare [] List.not_mem_nil)
        | cons first more =>
            rw [hl] at hline ih
            rcases List.mem_cons.mp hline with rfl | hline
            · cases ih ht first List.mem_cons_self with
              | @terminated body plain =>
                  have longer : IsLine ((c :: body) ++ ['\n']) := .terminated (fresh body plain)
                  exact longer
              | unterminated plain nonempty bare' =>
                  exact .unterminated (fresh _ plain) (List.cons_ne_nil c _) (bare _ bare')
            · exact ih ht line (List.mem_cons_of_mem _ hline)

/-! ## Marked lines -/

theorem dropWhile_feed {t : Text} (h : '\n' ∉ t) : t.dropWhile (· == '\n') = t := by
  cases t with
  | nil => rfl
  | cons c t =>
      have hc : c ≠ '\n' := Ne.symm (List.ne_of_not_mem_cons h)
      rw [List.dropWhile_cons_of_neg (by simpa using hc)]

theorem dropFeeds_eq {body : Text} (h : '\n' ∉ body) : dropFeeds body = body := by
  unfold dropFeeds dropEndWhile
  rw [dropWhile_feed (fun hmem => h (List.mem_reverse.mp hmem)), List.reverse_reverse]

theorem dropFeeds_append {body : Text} (h : '\n' ∉ body) : dropFeeds (body ++ ['\n']) = body := by
  unfold dropFeeds dropEndWhile
  rw [List.reverse_append, List.reverse_singleton, List.singleton_append,
    List.dropWhile_cons_of_pos rfl, dropWhile_feed (fun hmem => h (List.mem_reverse.mp hmem)),
    List.reverse_reverse]

theorem isTerminated_append (body : Text) : isTerminated (body ++ ['\n']) = true := by
  unfold isTerminated
  rw [List.getLast?_concat]
  rfl

theorem isTerminated_eq_false {body : Text} (plain : '\n' ∉ body) (bare : '\r' ∉ body) :
    isTerminated body = false := by
  unfold isTerminated
  split
  · next c hc =>
      have hmem : c ∈ body := List.mem_of_getLast? hc
      have hfeed : c ≠ '\n' := fun h => plain (h ▸ hmem)
      have hreturn : c ≠ '\r' := fun h => bare (h ▸ hmem)
      rw [decide_eq_false hfeed, decide_eq_false hreturn]
      rfl
  · rfl

/-- The remark behind a line without a line end. -/
def remarkLine : Text := "\\ No newline at end of file"

/-- The lines that a marked line is written in. -/
def writtenLines (l : Mark × Text) : List Text :=
  (l.1.char :: dropFeeds l.2) :: if isTerminated l.2 then [] else [remarkLine]

theorem renderLine_eq_unlines {mark : Mark} {line : Text} (h : IsLine line) :
    renderLine (mark, line) = unlines (writtenLines (mark, line)) := by
  change mark.char :: line ++ (if isTerminated line then [] else unterminatedRemark) =
    unlines ((mark.char :: dropFeeds line) :: if isTerminated line then [] else [remarkLine])
  cases h with
  | @terminated body plain =>
      rw [isTerminated_append, dropFeeds_append plain]
      rw [if_pos rfl, if_pos rfl, unlines_cons, unlines_nil, List.append_nil]
      rfl
  | unterminated plain nonempty bare =>
      rw [isTerminated_eq_false plain bare, dropFeeds_eq plain]
      rw [if_neg nofun, if_neg nofun, unlines_cons, unlines_cons, unlines_nil]
      rfl

theorem feed_notMem_writtenLines {mark : Mark} {line : Text} (h : IsLine line) :
    ∀ t ∈ writtenLines (mark, line), '\n' ∉ t := by
  have body : '\n' ∉ mark.char :: dropFeeds line := by
    have hmark : '\n' ≠ mark.char := by cases mark <;> decide
    have hline : '\n' ∉ dropFeeds line := by
      cases h with
      | terminated plain => rwa [dropFeeds_append plain]
      | unterminated plain => rwa [dropFeeds_eq plain]
    intro hmem
    exact (List.mem_cons.mp hmem).elim hmark hline
  intro t ht
  unfold writtenLines at ht
  rcases List.mem_cons.mp ht with rfl | ht
  · exact body
  · split at ht
    · cases ht
    · cases List.mem_singleton.mp ht
      decide

/-! ## Hunks -/

/-- The header of a hunk without its line feed. -/
def Hunk.headerLine (h : Hunk) : Text :=
  "@@ -" ++ renderRange h.oldStart h.oldCount ++ " +" ++ renderRange h.newStart h.newCount ++ " @@"

/-- The lines that a hunk is written in. -/
def Hunk.written (h : Hunk) : List Text := h.headerLine :: h.lines.flatMap writtenLines

/-- Marked lines that are lines of files without carriage returns. -/
def Plain (ls : List (Mark × Text)) : Prop := ∀ l ∈ ls, IsLine l.2

theorem flatMap_renderLine {ls : List (Mark × Text)} (h : Plain ls) :
    ls.flatMap renderLine = unlines (ls.flatMap writtenLines) := by
  induction ls with
  | nil => rfl
  | cons l ls ih =>
      rw [List.flatMap_cons, List.flatMap_cons, unlines_append,
        renderLine_eq_unlines (h l List.mem_cons_self),
        ih fun l' hl' => h l' (List.mem_cons_of_mem _ hl')]

theorem renderRange_digits {c : Char} (digit : c.isDigit = false) (comma : c ≠ ',')
    (start count : Nat) : c ∉ renderRange start count := by
  have numeral := not_mem_ofNat digit
  have zero : c ∉ (",0" : Text) := by
    intro h
    rcases List.mem_cons.mp h with rfl | h
    · exact comma rfl
    · cases List.mem_singleton.mp h
      cases digit
  unfold renderRange
  split
  · exact numeral _
  · split
    · rw [List.mem_append, not_or]
      exact ⟨numeral _, zero⟩
    · rw [List.mem_append, List.mem_append, not_or, not_or]
      exact ⟨⟨numeral _, fun h => comma (List.mem_singleton.mp h)⟩, numeral _⟩

theorem Hunk.header_eq (h : Hunk) : h.header = h.headerLine ++ ['\n'] := by
  unfold Hunk.header Hunk.headerLine
  rw [List.append_assoc _ _ ['\n']]
  rfl

theorem Hunk.render_eq_unlines {h : Hunk} (plain : Plain h.lines) (nonempty : h.lines ≠ []) :
    h.render = unlines h.written := by
  unfold Hunk.render Hunk.written
  rw [if_neg nonempty, flatMap_renderLine plain, h.header_eq, unlines_cons, List.append_assoc]
  rfl

theorem Hunk.feed_notMem_headerLine (h : Hunk) : '\n' ∉ h.headerLine := by
  have old := renderRange_digits (c := '\n') rfl (by decide) h.oldStart h.oldCount
  have new := renderRange_digits (c := '\n') rfl (by decide) h.newStart h.newCount
  unfold Hunk.headerLine
  simp only [List.mem_append, not_or]
  exact ⟨⟨⟨⟨by decide, old⟩, by decide⟩, new⟩, by decide⟩

theorem Hunk.feed_notMem_written {h : Hunk} (plain : Plain h.lines) :
    ∀ t ∈ h.written, '\n' ∉ t := by
  intro t ht
  rcases List.mem_cons.mp ht with rfl | ht
  · exact h.feed_notMem_headerLine
  · obtain ⟨l, hl, ht⟩ := List.mem_flatMap.mp ht
    exact feed_notMem_writtenLines (plain l hl) t ht

/-! ## Sections -/

/-- The lines that the section of a file is written in. -/
def sectionLines (oldName newName : Text) (hs : List Hunk) : List Text :=
  ("--- " ++ oldName) :: ("+++ " ++ newName) :: hs.flatMap Hunk.written

theorem feed_notMem_sectionLines {oldName newName : Text} {hs : List Hunk}
    (old : '\n' ∉ oldName) (new : '\n' ∉ newName) (plain : ∀ h ∈ hs, Plain h.lines) :
    ∀ t ∈ sectionLines oldName newName hs, '\n' ∉ t := by
  have dashes : '\n' ∉ ("--- " : Text) := by decide
  have plusses : '\n' ∉ ("+++ " : Text) := by decide
  intro t ht
  rcases List.mem_cons.mp ht with rfl | ht
  · rw [List.mem_append, not_or]
    exact ⟨dashes, old⟩
  · rcases List.mem_cons.mp ht with rfl | ht
    · rw [List.mem_append, not_or]
      exact ⟨plusses, new⟩
    · obtain ⟨h, hh, ht⟩ := List.mem_flatMap.mp ht
      exact h.feed_notMem_written (plain h hh) t ht

theorem flatMap_render {hs : List Hunk} (plain : ∀ h ∈ shown hs, Plain h.lines) :
    hs.flatMap Hunk.render = unlines ((shown hs).flatMap Hunk.written) := by
  induction hs with
  | nil => rfl
  | cons h hs ih =>
      rw [List.flatMap_cons]
      by_cases hempty : h.lines = []
      · rw [shown_cons_of_no_lines hempty] at plain ⊢
        rw [Hunk.render, if_pos hempty, ih plain]
        rfl
      · rw [shown_cons_of_lines hempty] at plain ⊢
        rw [List.flatMap_cons, unlines_append,
          Hunk.render_eq_unlines (plain h List.mem_cons_self) hempty,
          ih fun h' hh' => plain h' (List.mem_cons_of_mem _ hh')]

/-- The hunks between two texts without carriage returns. -/
theorem hunks_plain (context : Nat) {old new : Text} (hold : '\r' ∉ old) (hnew : '\r' ∉ new) :
    ∀ h ∈ shown (hunks context (linesOf old) (linesOf new)), Plain h.lines := by
  intro h hh l hl
  rw [linesOf_eq_lines hold, linesOf_eq_lines hnew] at hh
  rcases (hunks_transforms context (lines old) (lines new)).mem_or_mem h hh l hl with hmem | hmem
  · exact lines_isLine hold _ hmem
  · exact lines_isLine hnew _ hmem

/-- A section is written in its lines. -/
theorem section_eq_unlines (r : Renderer) (oldName newName : Text) {old new : Text}
    (hold : '\r' ∉ old) (hnew : '\r' ∉ new) :
    r.section_ oldName newName old new =
      unlines (sectionLines oldName newName
        (shown (hunks r.contextLines (linesOf old) (linesOf new)))) := by
  unfold Renderer.section_ sectionLines
  rw [flatMap_render (hunks_plain _ hold hnew), unlines_cons, unlines_cons]
  unfold renderHeader
  simp

end PatchTrail.Diff
