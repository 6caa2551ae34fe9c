import PatchTrail.Proofs.Run.Moments

/-!
# What a full trail leaves behind

With a bounded trail a patch does what it does with an unbounded one up to the first section that
does not fit. There it fails, and the files and the trail are as they were at that moment
(`Patch.apply_capped`). So the trail always holds whole sections, the first that the patch records,
and no file has changed that none of them names.
-/

namespace PatchTrail

/-! ## Bounded trails -/

theorem Trail.recordAll_fits {r : Diff.Renderer} {text : Text} {capacity : Nat} {ms : List Moment}
    (h : (sections r ms).size ≤ capacity) :
    Trail.recordAll r ⟨text, some capacity⟩ ms =
      (⟨text ++ sections r ms, some (capacity - (sections r ms).size)⟩, none) := by
  induction ms generalizing text capacity with
  | nil =>
      rw [Trail.recordAll, sections, List.flatMap_nil, List.append_nil]
      rfl
  | cons m ms ih =>
      have whole : sections r (m :: ms) = m.record.render r ++ sections r ms := rfl
      rw [whole, Text.size_append] at h ⊢
      have first : Trail.record? ⟨text, some capacity⟩ (m.record.render r) =
          some ⟨text ++ m.record.render r, some (capacity - (m.record.render r).size)⟩ := by
        unfold Trail.record?
        simp only
        rw [if_pos (by omega)]
      rw [Trail.recordAll, first]
      simp only
      rw [ih (by omega), List.append_assoc, Nat.sub_sub]

theorem Trail.recordAll_stops {r : Diff.Renderer} (text : Text) {capacity : Nat}
    {ms : List Moment} (h : capacity < (sections r ms).size) :
    ∃ before m behind, ms = before ++ m :: behind ∧ (sections r before).size ≤ capacity ∧
      capacity < (sections r (before ++ [m])).size ∧
      Trail.recordAll r ⟨text, some capacity⟩ ms =
        (⟨text ++ sections r before, some (capacity - (sections r before).size)⟩, some m) := by
  induction ms generalizing text capacity with
  | nil => cases h
  | cons m ms ih =>
      have whole : ∀ ks, sections r (m :: ks) = m.record.render r ++ sections r ks := fun _ => rfl
      rw [whole, Text.size_append] at h
      by_cases hfits : (m.record.render r).size ≤ capacity
      · have first : Trail.record? ⟨text, some capacity⟩ (m.record.render r) =
            some ⟨text ++ m.record.render r, some (capacity - (m.record.render r).size)⟩ := by
          unfold Trail.record?
          simp only
          rw [if_pos hfits]
        have hrest : capacity - (m.record.render r).size < (sections r ms).size := by omega
        obtain ⟨before, m', behind, rfl, hbefore, hover, rest⟩ :=
          ih (text ++ m.record.render r) hrest
        refine ⟨m :: before, m', behind, rfl, ?_, ?_, ?_⟩
        · rw [whole, Text.size_append]
          omega
        · rw [List.cons_append, whole, Text.size_append]
          omega
        · rw [Trail.recordAll, first]
          simp only
          rw [rest, whole, Text.size_append, List.append_assoc, Nat.sub_sub]
      · have first : Trail.record? ⟨text, some capacity⟩ (m.record.render r) = none := by
          unfold Trail.record?
          simp only
          rw [if_neg hfits]
        refine ⟨[], m, ms, rfl, Nat.zero_le _, ?_, ?_⟩
        · rw [List.nil_append, whole, Text.size_append]
          omega
        · rw [Trail.recordAll, first, sections, List.flatMap_nil, List.append_nil]
          rfl

/-! ## Bounded changes -/

/-- The tree that a change leaves, whether or not it fails. -/
def finalTree {ε α : Type} : EStateM.Result ε WorkTree α → WorkTree
  | .ok _ tree => tree
  | .error _ tree => tree

/-- The same outcome with another bound of the trail. -/
def withRoom {ε α : Type} (room? : Option Nat) :
    EStateM.Result ε WorkTree α → EStateM.Result ε WorkTree α
  | .ok a tree => .ok a (tree.withTrail ⟨tree.trail.text, room?⟩)
  | .error e tree => .error e (tree.withTrail ⟨tree.trail.text, room?⟩)

section

variable {ε α : Type} {full : ε → Prop} {c : Change ε α} {tree : WorkTree} {ms : List Moment}
  {value : Except ε α} {last : Disk} {capacity : Nat}

theorem Plays.fits (h : Plays full c tree ms value last)
    (hfits : (sections tree.renderer ms).size ≤ capacity) :
    c (tree.withTrail ⟨tree.trail.text, some capacity⟩) = outcome value { tree with
      disk := last
      trail := ⟨tree.trail.text ++ sections tree.renderer ms,
        some (capacity - (sections tree.renderer ms).size)⟩ } := by
  have bounded := h (some capacity)
  rw [Trail.recordAll_fits hfits] at bounded
  exact bounded

theorem Plays.stops (h : Plays full c tree ms value last)
    (hover : capacity < (sections tree.renderer ms).size) :
    ∃ before m behind e, ms = before ++ m :: behind ∧
      (sections tree.renderer before).size ≤ capacity ∧
      capacity < (sections tree.renderer (before ++ [m])).size ∧ full e ∧
      c (tree.withTrail ⟨tree.trail.text, some capacity⟩) = .error e { tree with
        disk := m.disk
        trail := ⟨tree.trail.text ++ sections tree.renderer before,
          some (capacity - (sections tree.renderer before).size)⟩ } := by
  obtain ⟨before, m, behind, hsplit, hbefore, hstop, hrec⟩ :=
    Trail.recordAll_stops tree.trail.text hover
  have bounded := h (some capacity)
  rw [hrec] at bounded
  obtain ⟨e, he, hrun⟩ := bounded
  exact ⟨before, m, behind, e, hsplit, hbefore, hstop, he, hrun⟩

/-- Whether or not a trail is full, it holds the first sections, and every file whose content is not
what it was is named by one of them. -/
theorem Plays.named (h : Plays full c tree ms value last)
    (courses : Courses tree.root tree.disk ms last) :
    ∃ before behind, ms = before ++ behind ∧
      (finalTree (c (tree.withTrail ⟨tree.trail.text, some capacity⟩))).trail.text =
        tree.trail.text ++ sections tree.renderer before ∧
      ∀ place, (finalTree (c (tree.withTrail ⟨tree.trail.text, some capacity⟩))).disk.file? place ≠
          tree.disk.file? place →
        ∃ m ∈ before, m.record.place tree.root tree.disk.here = place := by
  by_cases hfits : (sections tree.renderer ms).size ≤ capacity
  · refine ⟨ms, [], (List.append_nil _).symm, ?_⟩
    rw [h.fits hfits]
    cases value with
    | error e => exact ⟨rfl, courses.changed.2⟩
    | ok a => exact ⟨rfl, courses.changed.2⟩
  · obtain ⟨before, m, behind, e, rfl, -, -, -, hrun⟩ := h.stops (Nat.lt_of_not_le hfits)
    refine ⟨before, m :: behind, rfl, ?_⟩
    rw [hrun]
    exact ⟨rfl, courses.upTo.courses.changed.2⟩

end

/-! ## Patches -/

/-- A patch on a tree whose trail takes so many bytes more does what it does without a bound if all
sections fit. If not, it fails at the first that does not, with the files and the trail as they are
at that moment without a bound: what was recorded before is carried out and nothing else. In either
case the trail holds the first sections, and every file whose content is not what it was is named by
one of them. -/
theorem Patch.apply_capped (p : Patch) (tree : WorkTree) (capacity : Nat) :
    let text := tree.trail.text
    let free := tree.withTrail ⟨text, none⟩
    let moments := p.moments free
    let capped := p.apply (tree.withTrail ⟨text, some capacity⟩)
    ((finalTree (p.apply free)).trail.text = text ++ sections tree.renderer moments ∧
        Courses tree.root tree.disk moments (finalTree (p.apply free)).disk) ∧
      ((sections tree.renderer moments).size ≤ capacity →
        capped = withRoom (some (capacity - (sections tree.renderer moments).size))
          (p.apply free)) ∧
      (capacity < (sections tree.renderer moments).size →
        ∃ before m behind e, moments = before ++ m :: behind ∧
          (sections tree.renderer before).size ≤ capacity ∧
          capacity < (sections tree.renderer (before ++ [m])).size ∧
          Carries tree.root tree.disk before m.disk ∧
          e.cause.root = .trailFull ∧
          capped = .error e { tree with
            disk := m.disk
            trail := ⟨text ++ sections tree.renderer before,
              some (capacity - (sections tree.renderer before).size)⟩ }) ∧
      ∃ before behind, moments = before ++ behind ∧
        (finalTree capped).trail.text = text ++ sections tree.renderer before ∧
        ∀ place, (finalTree capped).disk.file? place ≠ tree.disk.file? place →
          ∃ m ∈ before, m.record.place tree.root tree.disk.here = place := by
  intro text free moments capped
  have journaled : Journaled Patch.Full p.apply free (p.moments free) := p.journaled rfl
  obtain ⟨value, last, plays, courses, -⟩ := journaled
  have whole := plays.unbounded rfl
  refine ⟨?_, fun hfits => ?_, fun hover => ?_, plays.named courses⟩
  · rw [whole]
    cases value with
    | error e => exact ⟨rfl, courses⟩
    | ok a => exact ⟨rfl, courses⟩
  · have bounded := plays.fits hfits
    rw [whole]
    cases value <;> exact bounded
  · obtain ⟨before, m, behind, e, hsplit, hbefore, hstop, he, hrun⟩ := plays.stops hover
    have reached : Courses tree.root tree.disk (before ++ m :: behind) last := hsplit ▸ courses
    exact ⟨before, m, behind, e, hsplit, hbefore, hstop, reached.upTo, he, hrun⟩

end PatchTrail
