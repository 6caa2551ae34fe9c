import PatchTrail.Proofs.Diff.Hunks
import PatchTrail.Diff.Unified

/-!
# Where hunks end

A hunk can be told from what is written behind it if each of its lines ends in a line feed and its
header says how many lines there are on either side (`Hunk.Delimited`). A line does not end in one
exactly if it ends in a carriage return, which counts as a line end and is then written as it is.
The header does not say how many lines there are only where a deletion or an insertion stands at an
end of the hunk, because such an edit may carry a position that it has had before compaction. So
that is all that can go wrong (`delimited_iff_settled`).

Hunks lead from the old lines to the new ones, so there are none if and only if the lines are the
same (`shown_hunks_eq_nil_iff`), whatever the context. A text is all of its lines put together
(`flatten_linesOf`), so the section of a file that was edited has hunks if and only if its text is
another (`Renderer.modified_eq_header_iff`).
-/

namespace PatchTrail

/-! ## Texts that end in a line feed -/

namespace Text

/-- A text that is empty or ends in a line feed. -/
def Ended (t : Text) : Prop := t = [] ∨ t.getLast? = some '\n'

theorem Ended.append {s t : Text} (hs : s.Ended) (ht : t.Ended) : Ended (s ++ t) := by
  rcases ht with rfl | ht
  · rwa [List.append_nil]
  · exact .inr (by rw [List.getLast?_append, ht, Option.some_or])

theorem Ended.flatMap {α : Type} {f : α → Text} {xs : List α} (h : ∀ x ∈ xs, (f x).Ended) :
    Ended (xs.flatMap f) := by
  induction xs with
  | nil => exact .inl rfl
  | cons x xs ih =>
      rw [List.flatMap_cons]
      exact (h x List.mem_cons_self).append (ih fun y hy => h y (List.mem_cons_of_mem _ hy))

theorem ended_append_feed (t : Text) : Ended (t ++ ['\n']) := .inr List.getLast?_concat

/-- A carriage return without a line feed behind it. -/
def HasReturn (t : Text) : Prop :=
  ∃ before after, t = before ++ '\r' :: after ∧ after.head? ≠ some '\n'

theorem HasReturn.cons {t : Text} (h : t.HasReturn) (c : Char) : HasReturn (c :: t) := by
  obtain ⟨before, after, rfl, hafter⟩ := h
  exact ⟨c :: before, after, rfl, hafter⟩

end Text

namespace Diff

open Text

variable {xs ys : List Text} {context : Nat}

/-! ## Line ends -/

/-- Only a carriage return without a line feed is the end of a line. -/
theorem hasReturn_of_mem_linesOf {t line : Text} (h : line ∈ linesOf t)
    (last : line.getLast? = some '\r') : t.HasReturn := by
  have single {c : Char} (h : [c].getLast? = some '\r') : c = '\r' := by simpa using h
  fun_induction linesOf t generalizing line with
  | case1 => cases h
  | case2 rest ih =>
      rcases List.mem_cons.mp h with rfl | h
      · cases last
      · exact ((ih h last).cons '\n').cons '\r'
  | case3 c rest alone hend ih =>
      rcases List.mem_cons.mp h with rfl | h
      · obtain rfl := single last
        refine ⟨[], rest, rfl, fun hfeed => ?_⟩
        obtain ⟨tail, rfl⟩ := List.head?_eq_some_iff.mp hfeed
        exact alone tail rfl rfl
      · exact (ih h last).cons c
  | case4 c rest alone hend hnil ih =>
      cases List.mem_singleton.mp h
      exact absurd (.inr (single last)) hend
  | case5 c rest alone hend line' more hlines ih =>
      rw [hlines] at ih
      rcases List.mem_cons.mp h with rfl | h
      · cases line' with
        | nil => exact absurd (.inr (single last)) hend
        | cons d line' =>
            rw [List.getLast?_cons_cons] at last
            exact (ih List.mem_cons_self last).cons c
      · exact (ih (List.mem_cons_of_mem _ h) last).cons c

/-- A marked line ends in a line feed unless the line ends in a carriage return. -/
theorem renderLine_getLast?_iff (l : Mark × Text) :
    (renderLine l).getLast? = some '\n' ↔ l.2.getLast? ≠ some '\r' := by
  obtain ⟨mark, line⟩ := l
  have remark : unterminatedRemark.getLast? = some '\n' := by decide
  change (mark.char :: line ++ if isTerminated line then [] else unterminatedRemark).getLast? =
    some '\n' ↔ line.getLast? ≠ some '\r'
  unfold isTerminated
  cases hlast : line.getLast? with
  | none =>
      rw [if_neg nofun, List.getLast?_append, remark]
      simp
  | some c =>
      have behind : (mark.char :: line).getLast? = some c := by
        rw [List.getLast?_cons, hlast]
        rfl
      by_cases hend : c = '\n' ∨ c = '\r'
      · rw [if_pos (by simpa using hend), List.append_nil, behind]
        rcases hend with rfl | rfl
        · simp
        · simp
      · rw [if_neg (by simpa using hend), List.getLast?_append, remark]
        simp [(not_or.mp hend).2]

/-! ## Headers -/

/-- A group that begins with a deletion begins with a deleted line. -/
theorem Spans.head_delete {i j i' j' : Nat} {e : Edit} {es : List Edit}
    (h : Spans xs ys i j i' j' (e :: es)) (hx : i' ≤ xs.length) (he : e.isDelete) :
    ∃ line, ((e :: es).flatMap (Edit.marked xs ys)).head? = some (.deleted, line) := by
  rw [List.flatMap_cons]
  cases h with
  | @delete _ _ _ _ count new _ pos bound rest =>
      have hlen : (Edit.slice xs i count).length = count :=
        length_slice (Nat.le_trans rest.le.1 hx)
      obtain ⟨line, more, hslice⟩ := List.exists_cons_of_length_pos (hlen.symm ▸ pos)
      refine ⟨line, ?_⟩
      change (((Edit.slice xs i count).map fun line => (Mark.deleted, line)) ++ _).head? = _
      rw [hslice]
      rfl
  | _ => cases he

theorem Group.newStart {i j i' j' : Nat} {e : Edit} {es : List Edit}
    (h : Group xs ys i j i' j' (e :: es)) (he : e.isDelete = false) : e.newSide.1 = j := by
  cases h.spans with
  | delete => cases he
  | _ => rfl

/-- The header of a hunk says how many lines the hunk has on the new side if the hunk neither begins
nor ends with a deleted line. -/
theorem Group.newCount {i j i' j' : Nat} {g : List Edit} {hunk : Hunk}
    (h : Group xs ys i j i' j' g) (hx : i' ≤ xs.length) (hy : j' ≤ ys.length)
    (found : Hunk.ofGroup? xs ys g = some hunk)
    (head : ∀ line, hunk.lines.head? ≠ some (.deleted, line))
    (last : ∀ line, hunk.lines.getLast? ≠ some (.deleted, line)) :
    hunk.newCount = (newLines hunk.lines).length := by
  have new := congrArg List.length h.spans.drop_new
  rw [List.length_append, List.length_drop, List.length_drop] at new
  have hle := h.spans.le
  obtain ⟨e, rest, he⟩ := List.exists_cons_of_ne_nil h.nonempty
  obtain ⟨init, e', he'⟩ : ∃ init e', g = init ++ [e'] :=
    ⟨_, _, (List.dropLast_concat_getLast h.nonempty).symm⟩
  have hlast : g.getLast? = some e' := by rw [he', List.getLast?_concat]
  unfold Hunk.ofGroup? at found
  rw [hlast, he] at found
  cases found
  simp only at head last ⊢
  rw [← he] at head last ⊢
  have first : e.isDelete = false := by
    refine Bool.eq_false_iff.mpr fun hkind => ?_
    obtain ⟨line, hline⟩ := (he ▸ h.spans).head_delete hx hkind
    exact head line (he ▸ hline)
  have final : e'.isDelete = false := by
    refine Bool.eq_false_iff.mpr fun hkind => ?_
    obtain ⟨line, hline⟩ := (he' ▸ h.spans).getLast_delete hx hkind
    exact last line (he' ▸ hline)
  have start := (he ▸ h).newStart first
  have stop := (he' ▸ h).last.2.2 final
  omega

theorem Covers.newCount {i j : Nat} {gs : List (List Edit)} (h : Covers xs ys i j gs) :
    ∀ hunk ∈ gs.filterMap (Hunk.ofGroup? xs ys),
      (∀ line, hunk.lines.head? ≠ some (.deleted, line)) →
      (∀ line, hunk.lines.getLast? ≠ some (.deleted, line)) →
      hunk.newCount = (newLines hunk.lines).length := by
  induction h with
  | done => exact nofun
  | @group i j count i' j' g gs skipped group rest ih =>
      have hle := rest.le
      obtain ⟨hunk, found, -⟩ := group.hunk hle.1 hle.2
      rw [List.filterMap_cons_some found]
      intro hunk' hh
      rcases List.mem_cons.mp hh with rfl | hh
      · exact group.newCount hle.1 hle.2 found
      · exact ih hunk' hh

/-! ## Hunks -/

/-- Each line of a hunk ends in a line feed, and its header says how many lines there are on either
side. -/
structure Hunk.Delimited (h : Hunk) : Prop where
  feeds : ∀ l ∈ h.lines, (renderLine l).getLast? = some '\n'
  oldCount : h.oldCount = (oldLines h.lines).length
  newCount : h.newCount = (newLines h.lines).length

/-- No line of a hunk ends in a carriage return, and its header is right if an insertion or a
deletion stands where it could have gone wrong: an insertion at the end for the old side, a deletion
at either end for the new side. -/
structure Hunk.Settled (h : Hunk) : Prop where
  returns : ∀ l ∈ h.lines, l.2.getLast? ≠ some '\r'
  old : ∀ line, h.lines.getLast? = some (.inserted, line) →
    h.oldCount = (oldLines h.lines).length
  new : ∀ line, h.lines.head? = some (.deleted, line) ∨ h.lines.getLast? = some (.deleted, line) →
    h.newCount = (newLines h.lines).length

/-- The hunks between two sequences of lines are delimited exactly if they are settled. -/
theorem delimited_iff_settled {h : Hunk} (hh : h ∈ shown (hunks context xs ys)) :
    h.Delimited ↔ h.Settled := by
  have sound := (hunks_transforms context xs ys).sound h hh
  have newCount := (groups_covers context xs ys).newCount h (List.mem_filter.mp hh).1
  constructor
  · rintro ⟨feeds, old, new⟩
    exact ⟨fun l hl => (renderLine_getLast?_iff l).mp (feeds l hl), fun _ _ => old, fun _ _ => new⟩
  · rintro ⟨returns, old, new⟩
    refine ⟨fun l hl => (renderLine_getLast?_iff l).mpr (returns l hl), ?_, ?_⟩
    · by_cases hinserted : ∃ line, h.lines.getLast? = some (.inserted, line)
      · obtain ⟨line, hline⟩ := hinserted
        exact old line hline
      · exact sound.oldCount_eq (not_exists.mp hinserted)
    · by_cases hdeleted : ∃ line, h.lines.head? = some (.deleted, line) ∨
          h.lines.getLast? = some (.deleted, line)
      · obtain ⟨line, hline⟩ := hdeleted
        exact new line hline
      · exact newCount (fun line hline => hdeleted ⟨line, .inl hline⟩)
          fun line hline => hdeleted ⟨line, .inr hline⟩

/-- Lines of texts whose carriage returns have line feeds behind them are written with line feeds at
their ends. -/
theorem feeds_of_not_hasReturn {old new : Text} (hold : ¬ old.HasReturn) (hnew : ¬ new.HasReturn)
    {h : Hunk} (hh : h ∈ shown (hunks context (linesOf old) (linesOf new))) :
    ∀ l ∈ h.lines, (renderLine l).getLast? = some '\n' := by
  intro l hl
  refine (renderLine_getLast?_iff l).mpr fun hreturn => ?_
  have transforms := hunks_transforms context (linesOf old) (linesOf new)
  rcases transforms.mem_or_mem h hh l hl with hmem | hmem
  · exact hold (hasReturn_of_mem_linesOf hmem hreturn)
  · exact hnew (hasReturn_of_mem_linesOf hmem hreturn)

/-- Only hunks with lines leave anything when they are written. -/
theorem flatMap_render_shown (hs : List Hunk) :
    (shown hs).flatMap Hunk.render = hs.flatMap Hunk.render :=
  flatMap_shown (fun _ hempty => if_pos hempty) hs

/-- A hunk whose lines end in line feeds ends in one. -/
theorem Hunk.ended_render {h : Hunk} (feeds : ∀ l ∈ h.lines, (renderLine l).getLast? = some '\n') :
    h.render.Ended := by
  unfold Hunk.render
  split
  · exact .inl rfl
  · refine .append ?_ (.flatMap fun l hl => .inr (feeds l hl))
    exact .inr (by unfold Hunk.header; rw [List.getLast?_append]; rfl)

/-! ## Whether there are hunks -/

variable {old new : Text}

/-- Nothing is lost by taking a text apart into its lines. -/
theorem flatten_linesOf (t : Text) : (linesOf t).flatten = t := by
  fun_induction linesOf t with
  | case1 => rfl
  | case2 rest ih => simp [ih]
  | case3 c rest _ _ ih => simp [ih]
  | case4 c rest _ _ last ih =>
      rw [last] at ih
      simp [← ih]
  | case5 c rest _ _ line more lines ih =>
      rw [lines] at ih
      simp [← ih]

theorem linesOf_inj : linesOf old = linesOf new ↔ old = new := by
  refine ⟨fun h => ?_, congrArg linesOf⟩
  rw [← flatten_linesOf old, h, flatten_linesOf]

/-- Lines that stay the same have no hunks, and other lines have some. -/
theorem shown_hunks_eq_nil_iff : shown (hunks context xs ys) = [] ↔ xs = ys := by
  constructor
  · intro none_
    have transforms := hunks_transforms context xs ys
    rw [none_] at transforms
    cases transforms
    rfl
  · rintro rfl
    rw [hunks_self]
    rfl

theorem shown_hunks_linesOf_eq_nil_iff :
    shown (hunks context (linesOf old) (linesOf new)) = [] ↔ old = new :=
  shown_hunks_eq_nil_iff.trans linesOf_inj

theorem Hunk.header_ne_nil (h : Hunk) : h.header ≠ [] := by
  intro none_
  exact absurd (List.append_eq_nil_iff.mp none_).2 (by decide)

theorem Hunk.render_eq_nil_iff {h : Hunk} : h.render = [] ↔ h.lines = [] := by
  unfold Hunk.render
  split
  · next empty => exact iff_of_true rfl empty
  · next some_ =>
    exact iff_of_false (fun none_ => h.header_ne_nil (List.append_eq_nil_iff.mp none_).1) some_

/-- Hunks with lines leave something when they are written. -/
theorem flatMap_render_eq_nil_iff {hs : List Hunk} :
    hs.flatMap Hunk.render = [] ↔ shown hs = [] := by
  simp [shown, Hunk.render_eq_nil_iff]

/-- The section of a file that was edited is no more than its header if and only if the text is
what it was. -/
theorem Renderer.modified_eq_header_iff (r : Renderer) (path old new : Text) :
    r.modified path old new = renderHeader (oldSideName path) (newSideName path) ↔ old = new := by
  rw [Renderer.modified, Renderer.section_, List.append_right_eq_self, flatMap_render_eq_nil_iff,
    shown_hunks_linesOf_eq_nil_iff]

end Diff

end PatchTrail
