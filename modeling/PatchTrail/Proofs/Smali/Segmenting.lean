import PatchTrail.Smali.Method

/-!
# How a unit is cut into segments

Each line goes on with a body, ends one, or stands outside of all. Cutting lines into segments is
described by a rule for each of these cases (`Segmented`), and the rules determine the segments
(`Segmented.eq`), so that what holds of a unit's segments is shown rule by rule.
-/

namespace PatchTrail.Smali

variable {opened : Option (Text × List Text)} {line s : Text} {lines ls rest : List Text}
  {pieces : List Segment}

/-! ## Reading a line -/

/-- What is open behind a line that does not go on with a body. -/
def slotBehind (line : Text) : Option (Text × List Text) :=
  match kindOf line with
  | .methodStart s => some (s, [])
  | _ => none

theorem segmentsFrom_closed (line : Text) (rest : List Text) :
    segmentsFrom none (line :: rest) =
      .between line :: segmentsFrom (slotBehind line) rest := by
  unfold slotBehind
  cases hkind : kindOf line <;> simp only [segmentsFrom, hkind]

theorem segmentsFrom_content (rest : List Text) (hkind : kindOf line = .content) :
    segmentsFrom (some (s, lines)) (line :: rest) =
      segmentsFrom (some (s, line :: lines)) rest := by
  simp only [segmentsFrom, hkind]

/-- A method that ends has a body if there are lines in it. -/
theorem segmentsFrom_body (rest : List Text) (hkind : kindOf line = .methodEnd)
    (nonempty : lines ≠ []) :
    segmentsFrom (some (s, lines)) (line :: rest) =
      .body s lines.reverse.flatten :: .between line :: segmentsFrom (slotBehind line) rest := by
  unfold slotBehind
  cases lines with
  | nil => exact (nonempty rfl).elim
  | cons first lines => simp only [segmentsFrom, hkind]

/-- Lines behind which no method ends turn out not to be a body. -/
theorem segmentsFrom_between (rest : List Text) (hkind : kindOf line ≠ .content)
    (hbody : kindOf line = .methodEnd → lines = []) :
    segmentsFrom (some (s, lines)) (line :: rest) =
      betweenAll lines.reverse ++ .between line :: segmentsFrom (slotBehind line) rest := by
  unfold slotBehind
  cases h : kindOf line with
  | content => exact (hkind h).elim
  | methodStart s' => simp only [segmentsFrom, h]
  | methodEnd =>
      rw [hbody h]
      simp only [segmentsFrom, h]
      rfl

/-! ## Rules -/

/-- How lines are cut into segments behind those of the method that is open. -/
inductive Segmented : (opened : Option (Text × List Text)) → List Text → List Segment → Prop where
  | done : Segmented none [] []
  /-- The unit is over before the method has ended. -/
  | unended (s : Text) (lines : List Text) :
      Segmented (some (s, lines)) [] (betweenAll lines.reverse)
  /-- No method is open. -/
  | outside {line : Text} {rest : List Text} {segments : List Segment}
      (behind : Segmented (slotBehind line) rest segments) :
      Segmented none (line :: rest) (.between line :: segments)
  /-- The line goes on with the method that is open. -/
  | content {s line : Text} {lines rest : List Text} {segments : List Segment}
      (kind : kindOf line = .content) (behind : Segmented (some (s, line :: lines)) rest segments) :
      Segmented (some (s, lines)) (line :: rest) segments
  /-- The line ends the method that is open, and there are lines in it. -/
  | body {s line : Text} {lines rest : List Text} {segments : List Segment}
      (kind : kindOf line = .methodEnd) (nonempty : lines ≠ [])
      (behind : Segmented (slotBehind line) rest segments) :
      Segmented (some (s, lines)) (line :: rest)
        (.body s lines.reverse.flatten :: .between line :: segments)
  /-- The line does not go on with the method that is open, and there is no body in front of it. -/
  | between {s line : Text} {lines rest : List Text} {segments : List Segment}
      (kind : kindOf line ≠ .content) (empty : kindOf line = .methodEnd → lines = [])
      (behind : Segmented (slotBehind line) rest segments) :
      Segmented (some (s, lines)) (line :: rest)
        (betweenAll lines.reverse ++ .between line :: segments)

theorem segmented_segmentsFrom (opened : Option (Text × List Text)) (ls : List Text) :
    Segmented opened ls (segmentsFrom opened ls) := by
  induction ls generalizing opened with
  | nil =>
      rcases opened with _ | ⟨s, lines⟩
      · exact .done
      · exact .unended s lines
  | cons line rest ih =>
      rcases opened with _ | ⟨s, lines⟩
      · rw [segmentsFrom_closed]
        exact .outside (ih _)
      · by_cases hcontent : kindOf line = .content
        · rw [segmentsFrom_content rest hcontent]
          exact .content hcontent (ih _)
        · by_cases hbody : kindOf line = .methodEnd ∧ lines ≠ []
          · rw [segmentsFrom_body rest hbody.1 hbody.2]
            exact .body hbody.1 hbody.2 (ih _)
          · have hempty : kindOf line = .methodEnd → lines = [] := fun h =>
              Classical.byContradiction fun hne => hbody ⟨h, hne⟩
            rw [segmentsFrom_between rest hcontent hempty]
            exact .between hcontent hempty (ih _)

/-- The rules determine the segments. -/
theorem Segmented.eq (h : Segmented opened ls pieces) : pieces = segmentsFrom opened ls := by
  induction h with
  | done => rfl
  | unended s lines => rfl
  | outside _ ih => rw [segmentsFrom_closed, ih]
  | content kind _ ih => rw [segmentsFrom_content _ kind, ih]
  | body kind nonempty _ ih => rw [segmentsFrom_body _ kind nonempty, ih]
  | between kind empty _ ih => rw [segmentsFrom_between _ kind empty, ih]

/-- No segments are left behind the last line, unless a method is open. -/
theorem Segmented.eq_nil (h : Segmented (slotBehind line) [] pieces) : pieces = [] := by
  rw [h.eq]
  unfold slotBehind
  split <;> rfl

theorem segmented_segments (unit_ : Text) : Segmented none unit_.lines (segments unit_) :=
  segmented_segmentsFrom none unit_.lines

/-- Several lines that go on with the method that is open. -/
theorem Segmented.contents (h : Segmented (some (s, ls.reverse ++ lines)) rest pieces)
    (kinds : ∀ l ∈ ls, kindOf l = .content) :
    Segmented (some (s, lines)) (ls ++ rest) pieces := by
  induction ls generalizing lines with
  | nil => exact h
  | cons l ls ih =>
      obtain ⟨first, others⟩ := List.forall_mem_cons.mp kinds
      refine .content first (ih ?_ others)
      simpa using h

end PatchTrail.Smali
