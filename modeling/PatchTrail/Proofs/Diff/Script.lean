import PatchTrail.Proofs.Diff.Stretch

/-!
# Lists of edits that lead from one sequence to another

A list of edits leads from a position on each side to the ends of both sequences (`Leads`) if every
edit begins where the one before it has ended. This is asked only of the sides that an edit covers.
Where a deletion stands on the new side and an insertion on the old one does not matter to what the
edits do, and compaction lets both go stale. What remains of the insertion's old position is an
upper bound: it is not behind the end of the run of changes that the insertion belongs to. An
insertion that is a run of its own therefore never stands too far down.

The edits that the search returns lead from the beginnings of both sequences to their ends
(`edits_leads`).
-/

namespace PatchTrail.Diff

variable {α : Type}

/-- How many elements are deleted among the edits that an insertion can pass if it can slide over
`room` kept elements. An insertion it meets is joined to it, and what it could slide over then is
not known any more. -/
def deletedWithin : (room : Nat) → List Edit → Nat
  | room, .delete _ count _ :: es => count + deletedWithin room es
  | _, .insert .. :: es => deletedWithin 0 es
  | room, .keep _ _ count :: es => if count ≤ room then deletedWithin (room - count) es else 0
  | _, _ => 0

/-- From positions `i` and `j` on, the edits lead to the ends of both sequences. -/
inductive Leads (xs ys : List α) : (i j : Nat) → List Edit → Prop where
  | done : Leads xs ys xs.length ys.length []
  | keep {i j count : Nat} {es : List Edit} (pos : 0 < count) (agree : Agree xs ys i j count)
      (rest : Leads xs ys (i + count) (j + count) es) : Leads xs ys i j (.keep i j count :: es)
  | delete {i j count new : Nat} {es : List Edit} (pos : 0 < count) (bound : new ≤ ys.length)
      (rest : Leads xs ys (i + count) j es) : Leads xs ys i j (.delete i count new :: es)
  | insert {i j old count : Nat} {es : List Edit} (pos : 0 < count)
      (anchor : old ≤ i + deletedWithin 0 es) (rest : Leads xs ys i (j + count) es) :
      Leads xs ys i j (.insert old j count :: es)

variable {xs ys : List α}

theorem Leads.le {i j : Nat} {es : List Edit} (h : Leads xs ys i j es) :
    i ≤ xs.length ∧ j ≤ ys.length := by
  induction h with
  | done => exact ⟨Nat.le_refl _, Nat.le_refl _⟩
  | keep _ _ _ ih => omega
  | delete _ _ _ ih => omega
  | insert _ _ _ ih => omega

theorem Leads.of_keep {i j old new count : Nat} {es : List Edit}
    (h : Leads xs ys i j (.keep old new count :: es)) :
    old = i ∧ new = j ∧ 0 < count ∧ Agree xs ys i j count ∧
      Leads xs ys (i + count) (j + count) es := by
  cases h with
  | keep pos agree rest => exact ⟨rfl, rfl, pos, agree, rest⟩

theorem Leads.of_delete {i j old count new : Nat} {es : List Edit}
    (h : Leads xs ys i j (.delete old count new :: es)) :
    old = i ∧ 0 < count ∧ new ≤ ys.length ∧ Leads xs ys (i + count) j es := by
  cases h with
  | delete pos bound rest => exact ⟨rfl, pos, bound, rest⟩

theorem Leads.of_insert {i j old new count : Nat} {es : List Edit}
    (h : Leads xs ys i j (.insert old new count :: es)) :
    new = j ∧ 0 < count ∧ old ≤ i + deletedWithin 0 es ∧ Leads xs ys i (j + count) es := by
  cases h with
  | insert pos anchor rest => exact ⟨rfl, pos, anchor, rest⟩

theorem Leads.cast {i i' j j' : Nat} {es : List Edit} (h : Leads xs ys i j es) (hi : i' = i)
    (hj : j' = j) : Leads xs ys i' j' es := by
  rwa [hi, hj]

/-! ## From the middle of a list -/

/-- The edits before a place, the nearest first, have led from the beginnings of both sequences to
positions `i` and `j`. The run of changes around that place ends at `reach` on the old side. -/
inductive Came (xs ys : List α) : (i j reach : Nat) → List Edit → Prop where
  | start {reach : Nat} : Came xs ys 0 0 reach []
  | keep {i j reach count : Nat} {es : List Edit} (pos : 0 < count)
      (agree : Agree xs ys i j count) (rest : Came xs ys i j i es) :
      Came xs ys (i + count) (j + count) reach (.keep i j count :: es)
  | delete {i j reach count new : Nat} {es : List Edit} (pos : 0 < count)
      (bound : new ≤ ys.length) (rest : Came xs ys i j reach es) :
      Came xs ys (i + count) j reach (.delete i count new :: es)
  | insert {i j reach old count : Nat} {es : List Edit} (pos : 0 < count) (anchor : old ≤ reach)
      (rest : Came xs ys i j reach es) : Came xs ys i (j + count) reach (.insert old j count :: es)

/-- A list of edits looked at from a place in it. -/
def Meets (xs ys : List α) (before after : List Edit) : Prop :=
  ∃ i j, Came xs ys i j (i + deletedWithin 0 after) before ∧ Leads xs ys i j after

/-- Edits on both sides of a place are one list that leads from the beginnings. -/
theorem Meets.leads {before after : List Edit} (h : Meets xs ys before after) :
    Leads xs ys 0 0 (before.reverse ++ after) := by
  obtain ⟨i, j, came, leads⟩ := h
  induction before generalizing i j after with
  | nil =>
      cases came
      simpa using leads
  | cons e before ih =>
      rw [List.reverse_cons, List.append_assoc, List.singleton_append]
      cases came with
      | keep pos agree rest =>
          refine ih _ _ ?_ (.keep pos agree leads)
          rw [deletedWithin, if_neg (by omega)]
          exact rest
      | delete pos bound rest =>
          refine ih _ _ ?_ (.delete pos bound leads)
          rwa [deletedWithin, ← Nat.add_assoc]
      | insert pos anchor rest => exact ih _ _ rest (.insert pos anchor leads)

/-- The place can be moved behind the next edit. -/
theorem Meets.next {before after : List Edit} {e : Edit} (h : Meets xs ys before (e :: after)) :
    Meets xs ys (e :: before) after := by
  obtain ⟨i, j, came, leads⟩ := h
  cases leads with
  | keep pos agree rest =>
      rw [deletedWithin, if_neg (by omega)] at came
      exact ⟨_, _, .keep pos agree came, rest⟩
  | delete pos bound rest =>
      rw [deletedWithin, ← Nat.add_assoc] at came
      exact ⟨_, _, .delete pos bound came, rest⟩
  | insert pos anchor rest => exact ⟨_, _, .insert pos anchor came, rest⟩

/-! ## The search -/

theorem Leads.unlessEmpty_keep {i j count : Nat} {es : List Edit} (agree : Agree xs ys i j count)
    (rest : Leads xs ys (i + count) (j + count) es) :
    Leads xs ys i j (unlessEmpty (.keep i j count) ++ es) := by
  unfold unlessEmpty
  split
  · next h =>
      have h : count = 0 := h
      subst h
      exact rest
  · next h => exact .keep (Nat.pos_of_ne_zero h) agree rest

/-- A stretch given up for another. -/
theorem Leads.delete_insert {i j c d : Nat} {es : List Edit} (hc : 0 < c) (hd : 0 < d)
    (rest : Leads xs ys (i + c) (j + d) es) :
    Leads xs ys i j (.delete i c j :: .insert i j d :: es) := by
  have hj := rest.le.2
  exact .delete hc (by omega) (.insert hd (by omega) rest)

variable [DecidableEq α]

/-- Two stretches agree at their shared beginning, where they stand. -/
theorem agree_front {i j : Nat} {as bs : List α} (hx : Agree as xs 0 i as.length)
    (hy : Agree bs ys 0 j bs.length) : Agree xs ys i j (sharedPrefix as bs) := by
  have hx' : Agree xs as i 0 (sharedPrefix as bs) :=
    hx.symm.within 0 rfl rfl (sharedPrefix_le_left as bs)
  have hy' : Agree bs ys 0 j (sharedPrefix as bs) :=
    hy.within 0 rfl rfl (sharedPrefix_le_right as bs)
  exact hx'.trans ((agree_sharedPrefix as bs).trans hy')

/-- Two stretches agree at their shared end, where they stand. -/
theorem agree_back {i j : Nat} {as bs : List α} (hx : Agree as xs 0 i as.length)
    (hy : Agree bs ys 0 j bs.length) :
    Agree xs ys (i + (as.length - sharedSuffix as bs)) (j + (bs.length - sharedSuffix as bs))
      (sharedSuffix as bs) := by
  have hl := sharedSuffix_le_left as bs
  have hr := sharedSuffix_le_right as bs
  have hx' : Agree xs as (i + (as.length - sharedSuffix as bs))
      (as.length - sharedSuffix as bs) (sharedSuffix as bs) :=
    hx.symm.within (as.length - sharedSuffix as bs) rfl (by omega) (by omega)
  have hy' : Agree bs ys (bs.length - sharedSuffix as bs)
      (j + (bs.length - sharedSuffix as bs)) (sharedSuffix as bs) :=
    hy.within (bs.length - sharedSuffix as bs) (by omega) rfl (by omega)
  exact hx'.trans ((agree_sharedSuffix as bs).trans hy')

/-- What the search puts between the shared ends of two stretches leads over the rest of them, if
the edits of both halves do wherever the rest is cut. -/
theorem Leads.between {i j : Nat} {as bs : List α} {es : List Edit}
    (rest : Leads xs ys (i + as.length) (j + bs.length) es)
    (halves : ∀ x y, 0 < x + y ∧ x + y < as.length + bs.length ∧ x ≤ as.length ∧ y ≤ bs.length →
      Leads xs ys i j (editsFrom i j (as.take x) (bs.take y) ++
        (editsFrom (i + x) (j + y) (as.drop x) (bs.drop y) ++ es))) :
    Leads xs ys i j
      ((if as = [] ∧ bs = [] then []
        else if bs = [] then [.delete i as.length j]
        else if as = [] then [.insert i j bs.length]
        else
          match middleSnake? as bs with
          | none => [.delete i as.length j, .insert i j bs.length]
          | some (x, y) =>
            if _h : 0 < x + y ∧ x + y < as.length + bs.length ∧ x ≤ as.length ∧ y ≤ bs.length then
              editsFrom i j (as.take x) (bs.take y)
                ++ editsFrom (i + x) (j + y) (as.drop x) (bs.drop y)
            else [.delete i as.length j, .insert i j bs.length]) ++ es) := by
  have hj := rest.le.2
  split
  · next h => exact rest.cast (by rw [h.1]; rfl) (by rw [h.2]; rfl)
  · next h =>
      split
      · next hb =>
          have ha : as ≠ [] := fun ha => h ⟨ha, hb⟩
          exact .delete (List.length_pos_iff.mpr ha) (by omega) (rest.cast rfl (by rw [hb]; rfl))
      · next hb =>
          split
          · next ha =>
              exact .insert (List.length_pos_iff.mpr hb) (by omega)
                (rest.cast (by rw [ha]; rfl) rfl)
          · next ha =>
              have whole := Leads.delete_insert (List.length_pos_iff.mpr ha)
                (List.length_pos_iff.mpr hb) rest
              split
              · exact whole
              · next x y _ =>
                  split
                  · next hxy =>
                      rw [List.append_assoc]
                      exact halves x y hxy
                  · exact whole

/-- The edits between two stretches lead over them: in front of edits that lead on from the ends of
the stretches they lead on from their beginnings. -/
theorem editsFrom_leads {i j : Nat} {as bs : List α} {es : List Edit}
    (hx : Agree as xs 0 i as.length) (hy : Agree bs ys 0 j bs.length)
    (rest : Leads xs ys (i + as.length) (j + bs.length) es) :
    Leads xs ys i j (editsFrom i j as bs ++ es) := by
  induction i, j, as, bs using editsFrom.induct generalizing es with
  | case1 i j as bs before as₁ bs₁ after as₂ bs₂ i₂ j₂ ih₁ =>
      rename_i ih₂
      have hl := sharedPrefix_le_left as bs
      have hr := sharedPrefix_le_right as bs
      have hl' := sharedSuffix_le_left as₁ bs₁
      have hr' := sharedSuffix_le_right as₁ bs₁
      have las₁ : as₁.length = as.length - before := List.length_drop
      have lbs₁ : bs₁.length = bs.length - before := List.length_drop
      have las₂ : as₂.length = as₁.length - after := by
        rw [List.length_take]
        omega
      have lbs₂ : bs₂.length = bs₁.length - after := by
        rw [List.length_take]
        omega
      have hx₁ : Agree as₁ xs 0 i₂ as₁.length := hx.of_drop
      have hy₁ : Agree bs₁ ys 0 j₂ bs₁.length := hy.of_drop
      have hx₂ : Agree as₂ xs 0 i₂ as₂.length := hx₁.of_take
      have hy₂ : Agree bs₂ ys 0 j₂ bs₂.length := hy₁.of_take
      have tail : Leads xs ys (i₂ + as₂.length) (j₂ + bs₂.length)
          (unlessEmpty (.keep (i₂ + as₂.length) (j₂ + bs₂.length) after) ++ es) := by
        refine Leads.unlessEmpty_keep ?_ ?_
        · rw [las₂, lbs₂]
          exact agree_back hx₁ hy₁
        · exact rest.cast (by omega) (by omega)
      rw [editsFrom, List.append_assoc, List.append_assoc]
      refine Leads.unlessEmpty_keep (agree_front hx hy) (tail.between ?_)
      intro x y hxy
      refine ih₁ x y hxy hx₂.of_take hy₂.of_take ?_
      rw [List.length_take_of_le hxy.2.2.1, List.length_take_of_le hxy.2.2.2]
      refine ih₂ x y hxy hx₂.of_drop hy₂.of_drop ?_
      rw [List.length_drop, List.length_drop]
      exact tail.cast (by omega) (by omega)

/-- The edits that the search returns lead from one sequence to the other. -/
theorem edits_leads (xs ys : List α) : Leads xs ys 0 0 (edits xs ys) := by
  have ends : Leads xs ys (0 + xs.length) (0 + ys.length) [] := by
    rw [Nat.zero_add, Nat.zero_add]
    exact .done
  have h := editsFrom_leads (Agree.whole xs) (Agree.whole ys) ends
  rwa [List.append_nil] at h

end PatchTrail.Diff
