import PatchTrail.Proofs.Diff.Script

/-!
# Compaction keeps a difference a difference

Sliding an edit up and down moves it past others, joins it to others of its kind and shifts kept
elements from one side of it to the other. None of this changes where the list of edits leads
(`compact_leads`).

A deletion only passes insertions, so it stays within its run of changes. An insertion may leave its
run. On its way up it leaves deletions below it, and its old position, which is not corrected then,
is too far down by as much as these delete. But what it slid over it can slide back over: the kept
elements between it and the place it came from read the same one insertion's length further on
(`Sliding`). So it comes down again at least as far as it has to, unless it was joined to an
insertion above, which brings an old position of its own.
-/

namespace PatchTrail.Diff

variable {α : Type} {xs ys : List α}

/-! ## Kept elements that change sides -/

/-- `count` kept elements in front of a list, joined to those that it begins with. -/
def lengthen (old new count : Nat) : List Edit → List Edit
  | .keep o n c :: es => .keep (o - count) (n - count) (c + count) :: es
  | es => .keep old new count :: es

/-- `count` kept elements behind a list that is written backwards, joined to those that it ends
with. -/
def prolong (old new count : Nat) : List Edit → List Edit
  | .keep o n c :: es => .keep o n (c + count) :: es
  | es => .keep old new count :: es

theorem Leads.lengthen {i j count : Nat} {es : List Edit} (pos : 0 < count)
    (agree : Agree xs ys i j count) (h : Leads xs ys (i + count) (j + count) es) :
    Leads xs ys i j (lengthen i j count es) := by
  unfold Diff.lengthen
  split
  · next o n c es =>
      obtain ⟨rfl, rfl, pos', agree', rest⟩ := h.of_keep
      rw [Nat.add_sub_cancel, Nat.add_sub_cancel, Nat.add_comm c]
      refine .keep (by omega) (agree.append agree') ?_
      rwa [← Nat.add_assoc, ← Nat.add_assoc]
  · exact .keep pos agree h

theorem deletedWithin_lengthen (i j count : Nat) (es : List Edit) (room : Nat) :
    deletedWithin (room + count) (lengthen i j count es) = deletedWithin room es := by
  unfold lengthen
  split
  · next o n c es =>
      rw [deletedWithin, deletedWithin]
      by_cases hc : c ≤ room
      · rw [if_pos hc, if_pos (by omega), Nat.add_sub_add_right]
      · rw [if_neg hc, if_neg (by omega)]
  · rw [deletedWithin, if_pos (by omega), Nat.add_sub_cancel]

theorem deletedWithin_zero_lengthen {i j count : Nat} (pos : 0 < count) (es : List Edit) :
    deletedWithin 0 (lengthen i j count es) = 0 := by
  unfold lengthen
  split
  all_goals rw [deletedWithin, if_neg (by omega)]

/-- What can be passed after sliding down over some kept elements could be passed before. -/
theorem deletedWithin_keep_le {c s : Nat} (hs : s ≤ c) (o n o' n' room : Nat) (es : List Edit) :
    deletedWithin room (.keep o n c :: es) ≤
      deletedWithin (room - s) (consKeep o' n' (c - s) es) := by
  unfold consKeep
  rw [deletedWithin]
  split
  · split
    · exact Nat.le_of_eq (by rw [show room - s = room - c by omega])
    · have same : room - s - (c - s) = room - c := by omega
      exact Nat.le_of_eq (by rw [deletedWithin, if_pos (by omega), same])
  · exact Nat.zero_le _

theorem Came.prolong {i j reach count : Nat} {es : List Edit} (pos : 0 < count)
    (agree : Agree xs ys i j count) (h : Came xs ys i j i es) :
    Came xs ys (i + count) (j + count) reach (prolong i j count es) := by
  unfold Diff.prolong
  split
  · cases h with
    | keep pos' agree' rest =>
        rw [Nat.add_assoc, Nat.add_assoc]
        exact .keep (by omega) (agree'.append agree) rest
  · exact .keep pos agree h

theorem Came.consKeep {i j count : Nat} {es : List Edit} (agree : Agree xs ys i j count)
    (h : Came xs ys i j i es) :
    Came xs ys (i + count) (j + count) (i + count) (consKeep i j count es) := by
  unfold Diff.consKeep
  split
  · next hc => rwa [hc]
  · next hc => exact .keep (by omega) agree h

theorem Leads.consKeep {i j count : Nat} {es : List Edit} (agree : Agree xs ys i j count)
    (h : Leads xs ys (i + count) (j + count) es) :
    Leads xs ys i j (consKeep i j count es) := by
  unfold Diff.consKeep
  split
  · next hc => rwa [hc] at h
  · next hc => exact .keep (by omega) agree h

/-! ## Deletions -/

/-- A deletion on its way, with the edits before it, the nearest first, and those after it. -/
inductive Passing (xs ys : List α) : List Edit × Edit × List Edit → Prop where
  | mk {before after : List Edit} {i j count new : Nat} (pos : 0 < count) (bound : new ≤ ys.length)
      (came : Came xs ys i j (i + count + deletedWithin 0 after) before)
      (leads : Leads xs ys (i + count) j after) :
      Passing xs ys (before, .delete i count new, after)

/-- The place of a list behind a deletion that has come to rest. -/
theorem Passing.meets {before after : List Edit} {e : Edit} (h : Passing xs ys (before, e, after)) :
    Meets xs ys (e :: before) after := by
  cases h with
  | mk pos bound came leads => exact ⟨_, _, .delete pos bound came, leads⟩

theorem Meets.passing {before after : List Edit} {i count new : Nat}
    (h : Meets xs ys before (.delete i count new :: after)) :
    Passing xs ys (before, .delete i count new, after) := by
  obtain ⟨i, j, came, leads⟩ := h
  cases leads with
  | delete pos bound rest =>
      rw [deletedWithin, ← Nat.add_assoc] at came
      exact .mk pos bound came rest

variable [DecidableEq α]

theorem Passing.slideUp {before after : List Edit} {e : Edit}
    (h : Passing xs ys (before, e, after)) : Passing xs ys (slideUp xs ys e before after) := by
  fun_induction PatchTrail.Diff.slideUp xs ys e before after with
  -- what slides is no insertion
  | case1 | case2 | case3 | case6 | case8 => cases h
  -- no stretch of kept elements is empty
  | case4 =>
      cases h with
      | mk pos bound came leads =>
          cases came with
          | keep pos' => omega
  | case5 => exact h
  -- the deletion slides over an insertion
  | case7 after old count new o n c rest ih =>
      cases h with
      | mk pos bound came leads =>
          cases came with
          | insert pos' anchor came => exact ih (.mk pos bound came (.insert pos' anchor leads))
  -- it is joined with another deletion
  | case9 after old count new o c n rest ih =>
      cases h with
      | mk pos bound came leads =>
          cases came with
          | delete pos' bound' came =>
              rw [Nat.add_assoc o] at came leads
              exact ih (.mk (by omega) bound' came leads)
  | case10 => exact h

theorem Passing.slideDown {before after : List Edit} {e : Edit}
    (h : Passing xs ys (before, e, after)) : Passing xs ys (slideDown xs ys e before after) := by
  fun_induction PatchTrail.Diff.slideDown xs ys e before after with
  | case1 | case2 | case3 | case6 | case8 => cases h
  | case4 =>
      cases h with
      | mk pos bound came leads =>
          have := leads.of_keep.2.2.1
          omega
  | case5 => exact h
  | case7 before old count new o n c rest ih =>
      cases h with
      | mk pos bound came leads =>
          obtain ⟨rfl, pos', anchor, leads⟩ := leads.of_insert
          exact ih (.mk pos bound (.insert pos' anchor came) leads)
  | case9 before old count new o c n rest ih =>
      cases h with
      | mk pos bound came leads =>
          obtain ⟨rfl, pos', bound', leads⟩ := leads.of_delete
          rw [deletedWithin, ← Nat.add_assoc, Nat.add_assoc old] at came
          rw [Nat.add_assoc old] at leads
          exact ih (.mk (by omega) bound came leads)
  | case10 => exact h

/-! ## Insertions -/

/-- An insertion on its way, with the edits before it, the nearest first, and those after it. It can
slide down over `room` kept elements, and then it has left its old position behind. -/
inductive Sliding (xs ys : List α) : List Edit × Edit × List Edit → Prop where
  | mk {before after : List Edit} {i old new count : Nat} (room : Nat) (pos : 0 < count)
      (came : Came xs ys i new (i + deletedWithin 0 after) before)
      (leads : Leads xs ys i (new + count) after) (turns : Agree ys ys new (new + count) room)
      (anchor : old ≤ i + deletedWithin room after) :
      Sliding xs ys (before, .insert old new count, after)

omit [DecidableEq α] in
theorem Meets.sliding {before after : List Edit} {old new count : Nat}
    (h : Meets xs ys before (.insert old new count :: after)) :
    Sliding xs ys (before, .insert old new count, after) := by
  obtain ⟨i, j, came, leads⟩ := h
  obtain ⟨rfl, pos, anchor, leads⟩ := leads.of_insert
  exact .mk 0 pos came leads .zero anchor

/-- An insertion that has slid up over kept elements can slide back over them. -/
theorem Sliding.up {before after : List Edit} {o n c old new count s : Nat}
    (h : Sliding xs ys (.keep o n c :: before, .insert old new count, after))
    (hs : sharedSuffix (Edit.slice xs o c) (Edit.slice ys new count) = s) (hpos : 0 < s) :
    Sliding xs ys (consKeep o n (c - s) before, .insert (old - s) (new - s) count,
      lengthen (o + c - s) (new + count - s) s after) := by
  have hl := sharedSuffix_le_left (Edit.slice xs o c) (Edit.slice ys new count)
  have hr := sharedSuffix_le_right (Edit.slice xs o c) (Edit.slice ys new count)
  have hlc := length_slice_le xs o c
  have hrc := length_slice_le ys new count
  cases h with
  | mk room pos came leads turns anchor =>
      cases came with
      | keep pos' agree came =>
          have shared : Agree xs ys (o + c - s) (n + c + count - s) s :=
            agree_sharedSuffix_slice leads.le.1 leads.le.2 hs
          have kept : Agree xs ys (o + c - s) (n + c - s) s :=
            agree.within (c - s) (by omega) (by omega) (by omega)
          refine .mk (room + s) pos ?_ ?_ ?_ ?_ (i := o + c - s)
          · rw [deletedWithin_zero_lengthen hpos, Nat.add_zero, Nat.add_sub_assoc (by omega),
              Nat.add_sub_assoc (by omega)]
            exact came.consKeep (agree.within 0 rfl rfl (by omega))
          · rw [show n + c - s + count = n + c + count - s by omega]
            refine leads.cast ?_ ?_ |>.lengthen hpos shared
            all_goals omega
          · have near : Agree ys ys (n + c - s) (n + c - s + count) s := by
              rw [show n + c - s + count = n + c + count - s by omega]
              exact kept.symm.trans shared
            rw [Nat.add_comm room s]
            refine near.append (turns.within 0 ?_ ?_ (Nat.le_refl _))
            all_goals omega
          · rw [deletedWithin_lengthen]
            omega

/-- An insertion that slides down uses up its room. -/
theorem Sliding.down {before after : List Edit} {o n c old new count s : Nat}
    (h : Sliding xs ys (before, .insert old new count, .keep o n c :: after))
    (hs : sharedPrefix (Edit.slice xs o c) (Edit.slice ys new count) = s) (hpos : 0 < s) :
    Sliding xs ys (prolong o new s before, .insert (old + s) (new + s) count,
      consKeep (o + s) (n + s) (c - s) after) := by
  have hl := sharedPrefix_le_left (Edit.slice xs o c) (Edit.slice ys new count)
  have hr := sharedPrefix_le_right (Edit.slice xs o c) (Edit.slice ys new count)
  have hlc := length_slice_le xs o c
  have hrc := length_slice_le ys new count
  cases h with
  | mk room pos came leads turns anchor =>
      obtain ⟨rfl, rfl, pos', agree, leads⟩ := leads.of_keep
      have shared : Agree xs ys o new s := agree_sharedPrefix_slice hs
      rw [deletedWithin, if_neg (by omega)] at came
      refine .mk (room - s) pos (came.prolong hpos shared) ?_ ?_ ?_
      · rw [show new + s + count = new + count + s by omega]
        refine Leads.consKeep (agree.within s rfl rfl (by omega)) (leads.cast ?_ ?_)
        all_goals omega
      · by_cases hroom : s ≤ room
        · exact turns.within s rfl (by omega) (by omega)
        · intro t ht
          omega
      · have := deletedWithin_keep_le (show s ≤ c by omega) o (new + count) (o + s)
          (new + count + s) room after
        omega

theorem Sliding.slideUp {before after : List Edit} {e : Edit}
    (h : Sliding xs ys (before, e, after)) : Sliding xs ys (slideUp xs ys e before after) := by
  fun_induction PatchTrail.Diff.slideUp xs ys e before after with
  -- the insertion slides over the kept elements that it ends with
  | case1 after old new count o n c rest shared hs after' ih =>
      have joined : after' = lengthen (o + c - shared) (new + count - shared) shared after := by
        rcases after with _ | ⟨_ | _ | _ | _, _⟩
        all_goals rfl
      rw [joined] at ih ⊢
      exact ih (h.up rfl hs.1)
  -- no stretch of kept elements is empty
  | case2 =>
      cases h with
      | mk room pos came leads turns anchor =>
          cases came with
          | keep pos' => omega
  | case3 => exact h
  -- what slides is no deletion
  | case4 | case5 | case7 | case9 => cases h
  -- it slides over a deletion, which counts among those behind it from now on
  | case6 after old new count o c n rest ih =>
      cases h with
      | mk room pos came leads turns anchor =>
          cases came with
          | delete pos' bound' came =>
              refine ih (.mk room pos ?_ (.delete pos' bound' leads) turns ?_)
              · rwa [deletedWithin, ← Nat.add_assoc]
              · rwa [deletedWithin, ← Nat.add_assoc]
  -- it is joined with another insertion, and the old position of that one counts
  | case8 after old new count o n c rest ih =>
      cases h with
      | mk room pos came leads turns anchor =>
          cases came with
          | insert pos' anchor' came =>
              rw [Nat.add_assoc n] at leads
              exact ih (.mk 0 (by omega) came leads .zero anchor')
  | case10 => exact h

/-- An insertion comes down at least as far as its old position asks. -/
theorem Sliding.slideDown {before after : List Edit} {e : Edit}
    (h : Sliding xs ys (before, e, after)) :
    Meets xs ys ((slideDown xs ys e before after).2.1 :: (slideDown xs ys e before after).1)
      (slideDown xs ys e before after).2.2 := by
  fun_induction PatchTrail.Diff.slideDown xs ys e before after with
  | case1 before old new count o n c rest shared hs before' ih =>
      have joined : before' = prolong o new shared before := by
        rcases before with _ | ⟨_ | _ | _ | _, _⟩
        all_goals rfl
      rw [joined] at ih ⊢
      exact ih (h.down rfl hs.1)
  | case2 =>
      cases h with
      | mk room pos came leads turns anchor =>
          have := leads.of_keep.2.2.1
          omega
  | case3 before old new count o n c rest shared hs hc =>
      cases h with
      | mk room pos came leads turns anchor =>
          refine ⟨_, _, .insert pos ?_ came, leads⟩
          obtain ⟨rfl, rfl, pos', agree, leads⟩ := leads.of_keep
          -- with room left, the kept elements begin like the inserted ones
          have stuck : room = 0 := by
            by_cases hroom : room = 0
            · exact hroom
            · have first : xs[o]? = ys[new]? := (agree 0 pos').trans (turns 0 (by omega)).symm
              have := sharedPrefix_slice_pos pos' pos (by have := leads.le.1; omega) first
              have := sharedPrefix_le_left (Edit.slice xs o c) (Edit.slice ys new count)
              have := length_slice_le xs o c
              omega
          rwa [stuck] at anchor
  | case4 | case5 | case7 | case9 => cases h
  | case6 before old new count o c n rest ih =>
      cases h with
      | mk room pos came leads turns anchor =>
          obtain ⟨rfl, pos', bound', leads⟩ := leads.of_delete
          rw [deletedWithin, ← Nat.add_assoc] at came anchor
          exact ih (.mk room pos (.delete pos' bound' came) leads turns anchor)
  | case8 before old new count o n c rest ih =>
      cases h with
      | mk room pos came leads turns anchor =>
          obtain ⟨rfl, pos', anchor', leads⟩ := leads.of_insert
          rw [Nat.add_assoc new] at leads
          exact ih (.mk 0 (by omega) came leads .zero anchor)
  | case10 e before after h₁ h₂ h₃ h₄ h₅ h₆ =>
      cases h with
      | @mk _ _ i old new count room pos came leads turns anchor =>
          refine ⟨_, _, .insert pos ?_ came, leads⟩
          generalize new + count = j at leads
          cases leads with
          | done => exact anchor
          | keep => exact (h₁ _ _ _ _ _ _ _ rfl rfl).elim
          | delete => exact (h₃ _ _ _ _ _ _ _ rfl rfl).elim
          | insert => exact (h₅ _ _ _ _ _ _ _ rfl rfl).elim

/-! ## Walking along the list -/

/-- A walk that moves only edits whose slide keeps the list in order keeps the list in order. -/
theorem settle_leads {chosen : Edit → Bool}
    (slides : ∀ {before after : List Edit} {e : Edit}, chosen e → Meets xs ys before (e :: after) →
      ∀ {before₁ after₁ before₂ after₂ : List Edit} {e₁ e₂ : Edit},
        slideUp xs ys e before after = (before₁, e₁, after₁) →
        slideDown xs ys e₁ before₁ after₁ = (before₂, e₂, after₂) →
        Meets xs ys (e₂ :: before₂) after₂)
    (steps : Nat) {before after : List Edit} (h : Meets xs ys before after) :
    Leads xs ys 0 0 (settle xs ys chosen steps before after) := by
  fun_induction settle xs ys chosen steps before after with
  | case1 => exact h.leads
  | case2 =>
      have := h.leads
      rwa [List.append_nil] at this
  | case3 steps before e after hc before₁ e₁ after₁ up before₂ e₂ after₂ down ih =>
      exact ih (slides hc h up down)
  | case4 steps before e after hc ih => exact ih h.next

omit [DecidableEq α] in
theorem Leads.meets {es : List Edit} (h : Leads xs ys 0 0 es) : Meets xs ys [] es :=
  ⟨0, 0, .start, h⟩

/-- Compaction of a list of edits that leads from one sequence to the other leads there too. -/
theorem compact_leads {es : List Edit} (h : Leads xs ys 0 0 es) :
    Leads xs ys 0 0 (compact xs ys es) := by
  unfold compact
  refine settle_leads ?_ _ (settle_leads ?_ _ h.meets).meets
  · intro before after e he h before₁ after₁ before₂ after₂ e₁ e₂ up down
    cases e with
    | insert old new count =>
        have moved := h.sliding.slideUp
        rw [up] at moved
        have := moved.slideDown
        rwa [down] at this
    | _ => cases he
  · intro before after e he h before₁ after₁ before₂ after₂ e₁ e₂ up down
    cases e with
    | delete old count new =>
        have moved := h.passing.slideUp
        rw [up] at moved
        have := moved.slideDown
        rw [down] at this
        exact this.meets
    | _ => cases he

end PatchTrail.Diff
