import PatchTrail.Proofs.Smali.Bodies
import PatchTrail.Smali.Rewriting

/-!
# What stands around a body

The lines around the bodies of a method say where they are: in front of a body stands the line on
which its method begins, behind it the line on which it ends, and on the lines of the body itself no
method begins or ends. A unit that is cut at the bodies of a method has this form
(`framed_ofUnit`).
-/

namespace PatchTrail.Smali

open Text (Terminated)

variable {signature ahead s t : Text} {line : Text} {ls rest : List Text}

/-- A text of lines with their line ends. -/
def Lined (t : Text) : Prop := ∃ ls : List Text, t = ls.flatten ∧ ∀ l ∈ ls, Terminated l

theorem lined_nil : Lined [] := ⟨[], rfl, by simp⟩

theorem lined_line (h : Terminated line) : Lined line := ⟨[line], by simp, by simpa using h⟩

theorem Lined.append (hs : Lined s) (ht : Lined t) : Lined (s ++ t) := by
  obtain ⟨ls, rfl, hls⟩ := hs
  obtain ⟨ls', rfl, hls'⟩ := ht
  refine ⟨ls ++ ls', by simp, fun l hl => ?_⟩
  rcases List.mem_append.mp hl with hl | hl
  · exact hls l hl
  · exact hls' l hl

/-- A text whose last line is one on which a method with a signature begins. -/
def Opening (signature t : Text) : Prop :=
  ∃ before line, t = before ++ line ∧ Lined before ∧ Terminated line ∧
    kindOf line = .methodStart signature

theorem Opening.lined (h : Opening signature t) : Lined t := by
  obtain ⟨before, line, rfl, hbefore, hline, -⟩ := h
  exact hbefore.append (lined_line hline)

theorem Opening.ne_nil (h : Opening signature t) : t ≠ [] := by
  obtain ⟨before, _, rfl, -, ⟨body, -, rfl⟩, -⟩ := h
  simp

/-- A text of lines on which no method begins or ends. -/
def Inner (t : Text) : Prop :=
  ∃ ls : List Text, t = ls.flatten ∧ ∀ l ∈ ls, Terminated l ∧ kindOf l = .content

theorem Inner.lined (h : Inner t) : Lined t := by
  obtain ⟨ls, rfl, hls⟩ := h
  exact ⟨ls, rfl, fun l hl => (hls l hl).1⟩

/-- Parts behind a text are bodies of a method with a signature and the gaps behind them: in front
of each body stands the line on which the method begins, and behind it the line on which the method
ends. -/
inductive Framed (signature : Text) : (ahead : Text) → List Part → Prop where
  | nil (ahead : Text) : Framed signature ahead []
  | cons {ahead body line behind : Text} {rest : List Part} (opening : Opening signature ahead)
      (inner : Inner body) (ends : kindOf line = .methodEnd)
      (feed : behind ≠ [] → Terminated line) (framed : Framed signature behind rest) :
      Framed signature ahead (⟨body, line ++ behind⟩ :: rest)

theorem Framed.opening {parts : List Part} (h : Framed signature ahead parts)
    (some_ : parts ≠ []) : Opening signature ahead := by
  rcases h with _ | ⟨opening, _, _, _, _⟩
  · exact absurd rfl some_
  · exact opening

/-! ## Reading the lines of a unit -/

theorem ofSegments_betweenAll (lines : List Text) (segments : List Segment) :
    Cut.ofSegments signature (betweenAll lines ++ segments) =
      (Cut.ofSegments signature segments).prepend lines.flatten := by
  induction lines with
  | nil => rfl
  | cons line lines ih =>
    have first : betweenAll (line :: lines) ++ segments =
        .between line :: (betweenAll lines ++ segments) := rfl
    rw [first, Cut.ofSegments, ih]
    simp [Cut.prepend]

/-- What the text in front of the lines of the method that is open looks like, and these lines. -/
def Ready (ahead : Text) : (opened : Option (Text × List Text)) → Prop
  | none => Lined ahead
  | some (s, lines) => Opening s ahead ∧ Inner lines.reverse.flatten

theorem Ready.lined {opened : Option (Text × List Text)} (h : Ready ahead opened) :
    Lined (ahead ++ opened.elim [] fun o => o.2.reverse.flatten) := by
  rcases opened with _ | ⟨s, lines⟩
  · exact (List.append_nil ahead).symm ▸ h
  · exact h.1.lined.append h.2.lined

/-- Behind a line that does not go on with a body. -/
theorem ready_slotBehind (h : Lined ahead) (feed : Terminated line) :
    Ready (ahead ++ line) (slotBehind line) := by
  unfold slotBehind
  split
  · next s hkind => exact ⟨⟨ahead, line, rfl, h, feed, hkind⟩, [], by simp, by simp⟩
  · exact h.append (lined_line feed)

/-- Behind another line of the method that is open. -/
theorem Ready.content {lines : List Text} (h : Ready ahead (some (s, lines)))
    (feed : Terminated line) (hkind : kindOf line = .content) :
    Ready ahead (some (s, line :: lines)) := by
  obtain ⟨opening, ls, heq, hls⟩ := h
  refine ⟨opening, ls ++ [line], by simp [heq], fun l hl => ?_⟩
  rcases List.mem_append.mp hl with hl | hl
  · exact hls l hl
  · exact List.mem_singleton.mp hl ▸ ⟨feed, hkind⟩

theorem feeds_cons (h : ∀ l ∈ (line :: rest).dropLast, Terminated l) :
    (rest ≠ [] → Terminated line) ∧ ∀ l ∈ rest.dropLast, Terminated l := by
  by_cases hne : rest = []
  · simp [hne]
  · rw [List.dropLast_cons_of_ne_nil hne] at h
    obtain ⟨first, others⟩ := List.forall_mem_cons.mp h
    exact ⟨fun _ => first, others⟩

/-- Lines that are not over are framed behind whatever has been read. -/
theorem framed_segmentsFrom {opened : Option (Text × List Text)}
    (ready : ls ≠ [] → Ready ahead opened) (feeds : ∀ l ∈ ls.dropLast, Terminated l) :
    Framed signature (ahead ++ (Cut.ofSegments signature (segmentsFrom opened ls)).front)
      (Cut.ofSegments signature (segmentsFrom opened ls)).parts := by
  have h := segmented_segmentsFrom opened ls
  generalize segmentsFrom opened ls = segments at h ⊢
  induction h generalizing ahead with
  | done => exact .nil _
  | unended s lines =>
    rw [← List.append_nil (betweenAll _), ofSegments_betweenAll]
    exact .nil _
  | outside _ ih =>
    obtain ⟨feed, feeds⟩ := feeds_cons feeds
    have ready := ready (List.cons_ne_nil _ _)
    rw [Cut.ofSegments, Cut.prepend, ← List.append_assoc]
    exact ih (fun hne => ready_slotBehind ready (feed hne)) feeds
  | content kind _ ih =>
    obtain ⟨feed, feeds⟩ := feeds_cons feeds
    have ready := ready (List.cons_ne_nil _ _)
    exact ih (fun hne => ready.content (feed hne) kind) feeds
  | @body s line _ rest segments kind _ behind ih =>
    obtain ⟨feed, feeds⟩ := feeds_cons feeds
    have ready := ready (List.cons_ne_nil _ _)
    rw [Cut.ofSegments, Cut.ofSegments]
    by_cases hs : s = signature
    · subst hs
      have closed : Ready [] (slotBehind line) := by
        simpa [slotBehind, kind, Ready] using lined_nil
      rw [if_pos rfl, List.append_nil]
      refine .cons ready.1 ready.2 kind (fun hne => feed fun hnil => hne ?_) ?_
      · subst hnil
        rw [behind.eq_nil, Cut.ofSegments]
      · exact ih (fun _ => closed) feeds
    · rw [if_neg hs]
      simpa [Cut.prepend] using ih (fun hne => ready_slotBehind ready.lined (feed hne)) feeds
  | between _ _ _ ih =>
    obtain ⟨feed, feeds⟩ := feeds_cons feeds
    have ready := ready (List.cons_ne_nil _ _)
    rw [ofSegments_betweenAll, Cut.ofSegments]
    simpa [Cut.prepend] using ih (fun hne => ready_slotBehind ready.lined (feed hne)) feeds

/-- A unit that is cut at the bodies of a method is framed. -/
theorem framed_ofUnit (signature unit_ : Text) :
    Framed signature (Cut.ofUnit signature unit_).front (Cut.ofUnit signature unit_).parts := by
  have closed : Ready [] none := lined_nil
  refine framed_segmentsFrom (fun _ => closed) fun l hl => ?_
  obtain ⟨k, hk, rfl⟩ := List.mem_iff_getElem.mp hl
  rw [List.length_dropLast] at hk
  rw [List.getElem_dropLast]
  exact Text.terminated_of_lines (List.getElem?_eq_getElem _) (by omega)

end PatchTrail.Smali
