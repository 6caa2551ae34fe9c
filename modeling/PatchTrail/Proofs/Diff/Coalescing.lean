import PatchTrail.Proofs.Diff.Settling

/-!
# The difference spans both sequences

Joining each run of deletions and insertions into one change, `coalesce` writes the first old
position and the first new position of the run. In a replacement both come from the side that is
covered, so both are right. A deletion that stays alone keeps a new position that may be anything up
to the length of the new sequence. An insertion that stays alone keeps an old position that is not
behind the place where it stands, because nothing is deleted after it in its run.

`Spans` says what is left of `Leads` with that. The difference of two sequences spans them from
their beginnings to their ends (`difference_spans`).
-/

namespace PatchTrail.Diff

variable {α : Type} {xs ys : List α}

/-- The edits cover both sequences from positions `i` and `j` to positions `i'` and `j'`. -/
inductive Spans (xs ys : List α) : (i j i' j' : Nat) → List Edit → Prop where
  | nil {i j : Nat} : Spans xs ys i j i j []
  | keep {i j i' j' count : Nat} {es : List Edit} (agree : Agree xs ys i j count)
      (rest : Spans xs ys (i + count) (j + count) i' j' es) :
      Spans xs ys i j i' j' (.keep i j count :: es)
  | delete {i j i' j' count new : Nat} {es : List Edit} (pos : 0 < count) (bound : new ≤ ys.length)
      (rest : Spans xs ys (i + count) j i' j' es) :
      Spans xs ys i j i' j' (.delete i count new :: es)
  | insert {i j i' j' old count : Nat} {es : List Edit} (pos : 0 < count) (anchor : old ≤ i)
      (rest : Spans xs ys i (j + count) i' j' es) :
      Spans xs ys i j i' j' (.insert old j count :: es)
  | replace {i j i' j' count newCount : Nat} {es : List Edit} (pos : 0 < count)
      (newPos : 0 < newCount) (rest : Spans xs ys (i + count) (j + newCount) i' j' es) :
      Spans xs ys i j i' j' (.replace i count j newCount :: es)

/-- What waits covers both sequences from positions `i₀` and `j₀` to positions `i` and `j`. The run
of changes that it belongs to ends at `reach` on the old side. -/
inductive Pending (xs ys : List α) : (i₀ j₀ i j reach : Nat) → Waiting → Prop where
  | nothing {i j reach : Nat} : Pending xs ys i j i j reach {}
  | kept {i j reach count : Nat} (agree : Agree xs ys i j count) :
      Pending xs ys i j (i + count) (j + count) reach { kept := some (i, j, count) }
  | deleted {i j reach count new : Nat} (pos : 0 < count) (bound : new ≤ ys.length) :
      Pending xs ys i j (i + count) j reach { deleted := some (i, count, new) }
  | inserted {i j reach old count : Nat} (pos : 0 < count) (anchor : old ≤ reach) :
      Pending xs ys i j i (j + count) reach { inserted := some (old, j, count) }
  | both {i j reach old new count newCount : Nat} (pos : 0 < count) (newPos : 0 < newCount) :
      Pending xs ys i j (i + count) (j + newCount) reach
        { deleted := some (i, count, new), inserted := some (old, j, newCount) }

/-- What waits is written where its run of changes ends. -/
theorem Pending.flush {i₀ j₀ i j i' j' : Nat} {w : Waiting} {es : List Edit}
    (h : Pending xs ys i₀ j₀ i j i w) (rest : Spans xs ys i j i' j' es) :
    Spans xs ys i₀ j₀ i' j' (w.flushKept ++ w.flushChange ++ es) := by
  cases h with
  | nothing => exact rest
  | kept agree => exact .keep agree rest
  | deleted pos bound => exact .delete pos bound rest
  | inserted pos anchor => exact .insert pos anchor rest
  | both pos newPos => exact .replace pos newPos rest

theorem Leads.coalesce_spans {i₀ j₀ i j : Nat} {es : List Edit} {w : Waiting}
    (h : Leads xs ys i j es) (hw : Pending xs ys i₀ j₀ i j (i + deletedWithin 0 es) w) :
    Spans xs ys i₀ j₀ xs.length ys.length (coalesce es w) := by
  induction h generalizing i₀ j₀ w with
  | done =>
      have := hw.flush .nil
      rwa [List.append_nil] at this
  | @keep i j count es pos agree rest ih =>
      rw [deletedWithin, if_neg (by omega)] at hw
      cases hw with
      | kept agree' =>
          refine ih ?_
          rw [Nat.add_assoc, Nat.add_assoc]
          exact .kept (agree'.append agree)
      | nothing => exact ih (.kept agree)
      | deleted pos' bound => exact .delete pos' bound (ih (.kept agree))
      | inserted pos' anchor => exact .insert pos' anchor (ih (.kept agree))
      | both pos' newPos => exact .replace pos' newPos (ih (.kept agree))
  | @delete i j count new es pos bound rest ih =>
      rw [deletedWithin, ← Nat.add_assoc] at hw
      cases hw with
      | kept agree => exact .keep agree (ih (.deleted pos bound))
      | nothing => exact ih (.deleted pos bound)
      | deleted pos' bound' =>
          refine ih ?_
          rw [Nat.add_assoc]
          exact .deleted (by omega) bound'
      | inserted pos' anchor => exact ih (.both pos pos')
      | both pos' newPos =>
          refine ih ?_
          rw [Nat.add_assoc]
          exact .both (by omega) newPos
  | @insert i j old count es pos anchor rest ih =>
      rw [deletedWithin] at hw
      cases hw with
      | kept agree => exact .keep agree (ih (.inserted pos anchor))
      | nothing => exact ih (.inserted pos anchor)
      | deleted pos' bound => exact ih (.both pos' pos)
      | inserted pos' anchor' =>
          refine ih ?_
          rw [Nat.add_assoc]
          exact .inserted (by omega) anchor'
      | both pos' newPos =>
          refine ih ?_
          rw [Nat.add_assoc]
          exact .both pos' (by omega)

theorem Spans.le {i j i' j' : Nat} {es : List Edit} (h : Spans xs ys i j i' j' es) :
    i ≤ i' ∧ j ≤ j' := by
  induction h with
  | nil => exact ⟨Nat.le_refl _, Nat.le_refl _⟩
  | keep _ _ ih | delete _ _ _ ih | insert _ _ _ ih | replace _ _ _ ih => omega

theorem Spans.append {i j i' j' i'' j'' : Nat} {es es' : List Edit}
    (h : Spans xs ys i j i' j' es) (h' : Spans xs ys i' j' i'' j'' es') :
    Spans xs ys i j i'' j'' (es ++ es') := by
  induction h with
  | nil => exact h'
  | keep agree _ ih => exact .keep agree (ih h')
  | delete pos bound _ ih => exact .delete pos bound (ih h')
  | insert pos anchor _ ih => exact .insert pos anchor (ih h')
  | replace pos newPos _ ih => exact .replace pos newPos (ih h')

/-- A list of edits that covers both sequences can be parted anywhere. -/
theorem Spans.of_append {i j i'' j'' : Nat} {es es' : List Edit}
    (h : Spans xs ys i j i'' j'' (es ++ es')) :
    ∃ i' j', Spans xs ys i j i' j' es ∧ Spans xs ys i' j' i'' j'' es' := by
  induction es generalizing i j with
  | nil => exact ⟨i, j, .nil, h⟩
  | cons e es ih =>
      cases h with
      | keep agree rest =>
          obtain ⟨i', j', front, back⟩ := ih rest
          exact ⟨i', j', .keep agree front, back⟩
      | delete pos bound rest =>
          obtain ⟨i', j', front, back⟩ := ih rest
          exact ⟨i', j', .delete pos bound front, back⟩
      | insert pos anchor rest =>
          obtain ⟨i', j', front, back⟩ := ih rest
          exact ⟨i', j', .insert pos anchor front, back⟩
      | replace pos newPos rest =>
          obtain ⟨i', j', front, back⟩ := ih rest
          exact ⟨i', j', .replace pos newPos front, back⟩

variable [DecidableEq α]

/-- The difference of two sequences covers them. -/
theorem difference_spans (xs ys : List α) :
    Spans xs ys 0 0 xs.length ys.length (difference xs ys) :=
  (compact_leads (edits_leads xs ys)).coalesce_spans .nothing

end PatchTrail.Diff
