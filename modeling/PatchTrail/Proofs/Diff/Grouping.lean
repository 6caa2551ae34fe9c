import Mathlib.Data.List.Chain
import Mathlib.Data.List.Forall2
import PatchTrail.Proofs.Diff.Numbering

/-!
# Groups of edits

In a difference no two edits that keep lines follow each other (`difference_alternating`). So in a
group, whose edits are those of the difference but for kept lines that are left out, no more kept
lines stand at either end than the context (`groups_clipped`). The changes are all there whatever
the context is (`flatMap_groups`), and no group but the first begins with a deletion that stands
somewhere else on the new side (`lead_groups`).
-/

namespace PatchTrail.Diff

/-! ## Kept lines do not follow each other -/

/-- Of two edits one after the other at least one is a change. -/
def Alternating (es : List Edit) : Prop :=
  es.IsChain fun e e' => e.isKeep = false ∨ e'.isKeep = false

theorem Alternating.of_changes {es es' : List Edit} (changes : ∀ e ∈ es, e.isKeep = false)
    (h : Alternating es') : Alternating (es ++ es') := by
  induction es with
  | nil => exact h
  | cons e es ih =>
      refine List.isChain_cons.mpr ⟨fun e' _ => .inl (changes e List.mem_cons_self), ih ?_⟩
      exact fun e' he' => changes e' (List.mem_cons_of_mem _ he')

theorem Alternating.reverse {es : List Edit} (h : Alternating es) : Alternating es.reverse :=
  List.isChain_reverse.mpr (h.imp fun _ _ => Or.symm)

theorem head_append_change {es es' : List Edit} (changes : ∀ e ∈ es, e.isKeep = false)
    (some_ : es ≠ []) : ∀ e ∈ (es ++ es').head?, e.isKeep = false := by
  intro e he
  rw [List.head?_append, List.head?_eq_some_head some_, Option.some_or] at he
  cases he
  exact changes _ (List.head_mem some_)

theorem Waiting.isKeep_of_mem_flushChange {w : Waiting} :
    ∀ e ∈ w.flushChange, e.isKeep = false := by
  obtain ⟨kept, deleted, inserted⟩ := w
  cases deleted <;> cases inserted <;> simp [Waiting.flushChange, Edit.isKeep]

theorem Waiting.flushChange_ne_nil {w : Waiting} (h : w.deleted.isSome ∨ w.inserted.isSome) :
    w.flushChange ≠ [] := by
  obtain ⟨kept, deleted, inserted⟩ := w
  cases deleted <;> cases inserted <;> simp_all [Waiting.flushChange]

/-- If a change waits, the next edit that is written is a change. -/
theorem coalesce_head (es : List Edit) {w : Waiting} (kept : w.kept = none)
    (change : w.deleted.isSome ∨ w.inserted.isSome) :
    ∀ e ∈ (coalesce es w).head?, e.isKeep = false := by
  have first {w : Waiting} (change : w.deleted.isSome ∨ w.inserted.isSome) (es : List Edit) :
      ∀ e ∈ (w.flushChange ++ es).head?, e.isKeep = false :=
    head_append_change w.isKeep_of_mem_flushChange (w.flushChange_ne_nil change)
  have nothing {w : Waiting} (kept : w.kept = none) : w.flushKept = [] := by
    unfold Waiting.flushKept
    rw [kept]
  -- a deletion or an insertion joins what waits, and then that is still a change without kept lines
  induction es generalizing w with
  | nil =>
      rw [coalesce, nothing kept, List.nil_append, ← List.append_nil w.flushChange]
      exact first change []
  | cons e es ih =>
      cases e with
      | keep old new count => exact first change _
      | delete old count new =>
          rw [coalesce, nothing kept]
          exact ih rfl (.inl rfl)
      | insert old new count =>
          rw [coalesce, nothing kept]
          exact ih rfl (.inr rfl)
      | replace old oldCount new newCount =>
          rw [coalesce, nothing kept, List.nil_append]
          exact first change _

/-- What waits to be kept is written in front of a change. -/
theorem Alternating.flushKept {w : Waiting} {es : List Edit}
    (change : ∀ e ∈ es.head?, e.isKeep = false) (h : Alternating es) :
    Alternating (w.flushKept ++ es) := by
  unfold Waiting.flushKept
  split
  · exact List.isChain_cons.mpr ⟨fun e he => .inr (change e he), h⟩
  · exact h

theorem coalesce_alternating (es : List Edit) (w : Waiting) : Alternating (coalesce es w) := by
  induction es generalizing w with
  | nil =>
      refine .flushKept (fun e he => w.isKeep_of_mem_flushChange e (List.mem_of_mem_head? he)) ?_
      rw [← List.append_nil w.flushChange]
      exact .of_changes w.isKeep_of_mem_flushChange .nil
  | cons e es ih =>
      cases e with
      | keep old new count => exact .of_changes w.isKeep_of_mem_flushChange (ih _)
      | delete old count new => exact .flushKept (coalesce_head es rfl (.inl rfl)) (ih _)
      | insert old new count => exact .flushKept (coalesce_head es rfl (.inr rfl)) (ih _)
      | replace old oldCount new newCount =>
          have changes : ∀ e ∈ w.flushChange ++ [.replace old oldCount new newCount],
              e.isKeep = false := by
            intro e he
            rcases List.mem_append.mp he with he | he
            · exact w.isKeep_of_mem_flushChange e he
            · cases List.mem_singleton.mp he
              rfl
          rw [coalesce, List.append_assoc, List.append_cons]
          exact .flushKept (head_append_change changes (List.concat_ne_nil _ _))
            (.of_changes changes (ih {}))

theorem difference_alternating (xs ys : List Text) : Alternating (difference xs ys) :=
  coalesce_alternating ..

/-- Where the deletion that some edits begin with stands on the new side, if they begin with one. -/
def lead : List Edit → Nat
  | .delete _ _ new :: _ => new
  | _ => 0

theorem lead_of_isKeep {e : Edit} (h : e.isKeep) (es : List Edit) : lead (e :: es) = 0 := by
  cases e with
  | keep => rfl
  | _ => cases h

/-! ## Clipping and cutting -/

/-- Kept lines may be others, and all other edits are the same. -/
def SameChanges : List Edit → List Edit → Prop :=
  List.Forall₂ fun e e' => e = e' ∨ e.isKeep ∧ e'.isKeep

namespace SameChanges

variable {es es' : List Edit}

theorem refl (es : List Edit) : SameChanges es es := 
  List.forall₂_same.mpr fun _ _ => .inl rfl

theorem map_isKeep (h : SameChanges es es') : es.map Edit.isKeep = es'.map Edit.isKeep := by
  induction h with
  | nil => rfl
  | cons first rest ih =>
      rw [List.map_cons, List.map_cons, ih]
      obtain rfl | ⟨keep, keep'⟩ := first
      · rfl
      · rw [keep, keep']

theorem alternating (h : SameChanges es es') (alternating : Alternating es) : Alternating es' := by
  have iff_ (es : List Edit) : (es.map Edit.isKeep).IsChain (fun b b' => b = false ∨ b' = false) ↔
      Alternating es := List.isChain_map Edit.isKeep
  rwa [← iff_, ← h.map_isKeep, iff_]

theorem flatMap {β : Type} {f : Edit → List β} (kept : ∀ e, e.isKeep → f e = [])
    (h : SameChanges es es') : es.flatMap f = es'.flatMap f := by
  induction h with
  | nil => rfl
  | cons first rest ih =>
      rw [List.flatMap_cons, List.flatMap_cons, ih]
      obtain rfl | ⟨keep, keep'⟩ := first
      · rfl
      · rw [kept _ keep, kept _ keep']

theorem lead (h : SameChanges es es') : lead es = lead es' := by
  cases h with
  | nil => rfl
  | @cons e e' es es' first rest =>
      obtain rfl | ⟨keep, keep'⟩ := first
      · cases e <;> rfl
      · rw [lead_of_isKeep keep, lead_of_isKeep keep']

end SameChanges

theorem clipFirst_sameChanges (context : Nat) (es : List Edit) :
    SameChanges es (clipFirst context es) := by
  unfold clipFirst
  split
  · exact .cons (.inr ⟨rfl, rfl⟩) (SameChanges.refl _)
  · exact .refl es

theorem clipLast_sameChanges (context : Nat) (es : List Edit) :
    SameChanges es (clipLast context es) := by
  unfold clipLast
  split
  · next old new count rest hes =>
      rw [← List.reverse_reverse es, hes]
      exact List.forall₂_reverse_iff.mpr (.cons (.inr ⟨rfl, rfl⟩) (SameChanges.refl _))
  · exact .refl es

/-- Kept lines do not follow each other, and at either end there are no more than the context. -/
structure Clipped (context : Nat) (es : List Edit) : Prop where
  alternating : Alternating es
  first : ∀ e ∈ es.head?, e.isKeep → e.count ≤ context
  last : ∀ e ∈ es.getLast?, e.isKeep → e.count ≤ context

theorem count_head_clipFirst (context : Nat) (es : List Edit) :
    ∀ e ∈ (clipFirst context es).head?, e.isKeep → e.count ≤ context := by
  unfold clipFirst
  split
  · intro e he _
    cases he
    simp only [Edit.count]
    omega
  · next not_ =>
      intro e he keep
      obtain ⟨rest, rfl⟩ := List.head?_eq_some_iff.mp he
      cases e with
      | keep old new count => exact absurd rfl (not_ old new count rest)
      | _ => cases keep

theorem count_clipLast (context : Nat) {es : List Edit}
    (first : ∀ e ∈ es.head?, e.isKeep → e.count ≤ context) :
    (∀ e ∈ (clipLast context es).head?, e.isKeep → e.count ≤ context) ∧
      ∀ e ∈ (clipLast context es).getLast?, e.isKeep → e.count ≤ context := by
  unfold clipLast
  split
  · next old new count rest hes =>
      have hes : es = rest.reverse ++ [.keep old new count] := by
        rw [← List.reverse_reverse es, hes, List.reverse_cons]
      rw [List.reverse_cons]
      refine ⟨fun e he keep => ?_, fun e he _ => ?_⟩
      -- where nothing but kept lines is there, they are clipped at the beginning as well
      · cases hfront : rest.reverse with
        | nil =>
            rw [hfront] at he
            cases he
            exact Nat.min_le_right ..
        | cons e' front =>
            rw [hes, hfront] at first
            rw [hfront] at he
            exact first e he keep
      · rw [List.getLast?_concat] at he
        cases he
        exact Nat.min_le_right ..
  · next not_ =>
      refine ⟨first, fun e he keep => ?_⟩
      obtain ⟨front, rfl⟩ := List.getLast?_eq_some_iff.mp he
      cases e with
      | keep old new count => exact absurd (by simp) (not_ old new count front.reverse)
      | _ => cases keep

theorem clipped_clip (context : Nat) {es : List Edit} (h : Alternating es) :
    Clipped context (clipLast context (clipFirst context es)) := by
  have counts := count_clipLast context (count_head_clipFirst context es)
  exact ⟨(clipLast_sameChanges context _).alternating
    ((clipFirst_sameChanges context es).alternating h), counts.1, counts.2⟩

/-- Clipped edits may be cut off behind the first of some kept lines. -/
theorem Clipped.front {context o n c : Nat} {es rest : List Edit}
    (h : Clipped context (es ++ .keep o n c :: rest)) :
    Clipped context (es ++ [.keep o n context]) := by
  have parted : Alternating ((es ++ [.keep o n c]) ++ rest) := by
    rw [List.append_assoc]
    exact h.alternating
  have same : SameChanges (es ++ [.keep o n c]) (es ++ [.keep o n context]) :=
    List.rel_append (SameChanges.refl _) (.cons (.inr ⟨rfl, rfl⟩) .nil)
  refine ⟨same.alternating parted.left_of_append, fun e he keep => ?_, fun e he _ => ?_⟩
  · cases es with
    | nil =>
        cases he
        exact Nat.le_refl _
    | cons e' front => exact h.first e he keep
  · rw [List.getLast?_concat] at he
    cases he
    exact Nat.le_refl _

/-- Clipped edits may begin with the last of some kept lines. -/
theorem Clipped.back {context o n c o' n' c' : Nat} {es rest : List Edit}
    (h : Clipped context (es ++ .keep o n c :: rest)) (short : c' ≤ context) :
    Clipped context (.keep o' n' c' :: rest) := by
  have same : SameChanges (.keep o n c :: rest) (.keep o' n' c' :: rest) :=
    .cons (.inr ⟨rfl, rfl⟩) (SameChanges.refl rest)
  refine ⟨same.alternating h.alternating.right_of_append, fun e he _ => ?_, fun e he keep => ?_⟩
  · cases he
    exact short
  · cases rest with
    | nil =>
        cases he
        exact short
    | cons e' rest =>
        refine h.last e ?_ keep
        rw [Option.mem_def, List.getLast?_append]
        exact congrArg (Option.or · _) he

/-- Each group that is cut off is clipped. -/
theorem cutGroups_clipped {context : Nat} {es group : List Edit}
    (h : Clipped context (group.reverse ++ es)) :
    ∀ g ∈ cutGroups context es group, Clipped context g := by
  fun_induction cutGroups context es group with
  | case1 => exact List.forall_mem_nil _
  | case2 => exact List.forall_mem_nil _
  | case3 group _ _ =>
      intro g hg
      cases List.mem_singleton.mp hg
      rwa [List.append_nil] at h
  | case4 o n c rest group long offset ih =>
      -- a group ends with the first of the kept lines, and the next begins with the last of them
      intro g hg
      rcases List.mem_cons.mp hg with rfl | hg
      · rw [List.reverse_cons]
        exact h.front
      · exact ih (h.back (by omega)) g hg
  | case5 o n c rest group short ih =>
      rw [List.reverse_cons, List.append_assoc] at ih
      exact ih h
  | case6 e rest group hkeep ih =>
      rw [List.reverse_cons, List.append_assoc] at ih
      exact ih h

theorem groups_clipped (context : Nat) (xs ys : List Text) :
    ∀ g ∈ groups context (difference xs ys), Clipped context g := by
  unfold groups
  split
  · exact List.forall_mem_nil _
  · exact cutGroups_clipped (clipped_clip context (difference_alternating xs ys))

theorem flatMap_cutGroups {β : Type} {f : Edit → List β} (kept : ∀ e, e.isKeep → f e = [])
    (context : Nat) (es group : List Edit) :
    (cutGroups context es group).flatMap (fun g => g.flatMap f) =
      (group.reverse ++ es).flatMap f := by
  have keep (old new count : Nat) : f (.keep old new count) = [] := kept _ rfl
  fun_induction cutGroups context es group with
  | case1 => rfl
  | case2 => simp [keep]
  | case3 group _ _ => simp
  | case4 o n c rest group long offset ih => simp [keep, ih]
  | case5 o n c rest group short ih => simp [ih]
  | case6 e rest group hkeep ih => simp [ih]

/-- The groups of a difference have all of its changes. -/
theorem flatMap_groups {β : Type} {f : Edit → List β} (kept : ∀ e, e.isKeep → f e = [])
    (context : Nat) (es : List Edit) :
    (groups context es).flatMap (fun g => g.flatMap f) = es.flatMap f := by
  unfold groups
  split
  · next none_ =>
      rw [none_]
      rfl
  · rw [flatMap_cutGroups kept, List.reverse_nil, List.nil_append,
      ← (clipLast_sameChanges context _).flatMap kept,
      ← (clipFirst_sameChanges context es).flatMap kept]

/-- Only the first group begins with what the edits begin with, and else a group begins with kept
lines. -/
theorem lead_cutGroups (context : Nat) (es group : List Edit) :
    (∀ g ∈ (cutGroups context es group).head?, lead g = lead (group.reverse ++ es)) ∧
      ∀ g ∈ (cutGroups context es group).tail, lead g = 0 := by
  fun_induction cutGroups context es group with
  | case1 => simp
  | case2 => simp
  | case3 group _ _ =>
      simp
  | case4 o n c rest group long offset ih =>
      refine ⟨fun g hg => ?_, fun g hg => ?_⟩
      · cases hg
        rw [List.reverse_cons]
        cases group.reverse with
        | nil => rfl
        | cons e front => cases e <;> rfl
      · change g ∈ cutGroups .. at hg
        cases hgs : cutGroups context rest [.keep (o + offset) (n + offset) (c - offset)] with
        | nil =>
            rw [hgs] at hg
            cases hg
        | cons first more =>
            rw [hgs] at hg ih
            rcases List.mem_cons.mp hg with rfl | hg
            · exact ih.1 g rfl
            · exact ih.2 g hg
  | case5 o n c rest group short ih =>
      rwa [List.reverse_cons, List.append_assoc] at ih
  | case6 e rest group hkeep ih =>
      rwa [List.reverse_cons, List.append_assoc] at ih

theorem lead_groups (context : Nat) (es : List Edit) :
    (∀ g ∈ (groups context es).head?, lead g = lead es) ∧
      ∀ g ∈ (groups context es).tail, lead g = 0 := by
  unfold groups
  split
  · simp
  · rw [(clipFirst_sameChanges context es).lead, (clipLast_sameChanges context _).lead]
    exact lead_cutGroups context _ []

/-! ## Kept lines at the ends -/

theorem keptRun_append_le (ls ls' : List (Mark × Text)) :
    keptRun (ls ++ ls') ≤ ls.length + keptRun ls' := by
  unfold keptRun
  rw [List.takeWhile_append]
  split
  · rw [List.length_append]
  · next shorter =>
      have := (List.takeWhile_prefix (l := ls) fun l => l.1 = Mark.kept).length_le
      omega

theorem keptRun_cons {l : Mark × Text} (h : l.1 ≠ .kept) (ls : List (Mark × Text)) :
    keptRun (l :: ls) = 0 := by
  unfold keptRun
  rw [List.takeWhile_cons_of_neg (by simpa using h)]
  rfl

/-- Before the first change there are only the lines of an edit that keeps lines. -/
theorem keptRun_flatMap_le {context : Nat} {marked : Edit → List (Mark × Text)} {es : List Edit}
    (alternating : Alternating es) (first : ∀ e ∈ es.head?, e.isKeep → e.count ≤ context)
    (kept : ∀ e, e.isKeep → (marked e).length ≤ e.count)
    (changed : ∀ e ∈ es, e.isKeep = false → ∃ l ls, marked e = l :: ls ∧ l.1 ≠ .kept) :
    keptRun (es.flatMap marked) ≤ context := by
  have none_ (e : Edit) (es' : List Edit) (he : e ∈ es) (change : e.isKeep = false) :
      keptRun ((e :: es').flatMap marked) = 0 := by
    obtain ⟨l, ls, lines, mark⟩ := changed e he change
    rw [List.flatMap_cons, lines, List.cons_append, keptRun_cons mark]
  cases es with
  | nil => exact Nat.zero_le _
  | cons e es =>
      by_cases keep : e.isKeep = false
      · rw [none_ e es List.mem_cons_self keep]
        exact Nat.zero_le _
      · have keep : e.isKeep = true := by simpa using keep
        have count := first e rfl keep
        have length := kept e keep
        have behind : keptRun (es.flatMap marked) = 0 := by
          cases es with
          | nil => rfl
          | cons e' es =>
              refine none_ e' es (List.mem_cons_of_mem _ List.mem_cons_self) ?_
              have := (List.isChain_cons_cons.mp alternating).1
              rwa [keep, or_iff_right (by decide)] at this
        have := keptRun_append_le (marked e) (es.flatMap marked)
        rw [List.flatMap_cons]
        omega

variable {xs ys : List Text} {context : Nat}

theorem Edit.mark_ne_kept {e : Edit} (h : e.isKeep = false) :
    ∀ l ∈ e.marked xs ys, l.1 ≠ .kept := by
  cases e with
  | keep => cases h
  | _ => simp +contextual [Edit.marked, or_imp, forall_and]

theorem Edit.length_marked_le {e : Edit} (h : e.isKeep) : (e.marked xs ys).length ≤ e.count := by
  cases e with
  | keep old new count => exact (List.length_map _).le.trans (length_slice_le ..)
  | _ => cases h

theorem marked_slice_ne_nil (m : Mark) {zs : List Text} {i count : Nat} (pos : 0 < count)
    (h : i + count ≤ zs.length) : (Edit.slice zs i count).map (fun t => (m, t)) ≠ [] := by
  refine List.ne_nil_of_length_pos ?_
  rwa [List.length_map, length_slice h]

theorem Spans.marked_ne_nil {i j i' j' : Nat} {es : List Edit} (h : Spans xs ys i j i' j' es)
    (hx : i' ≤ xs.length) (hy : j' ≤ ys.length) :
    ∀ e ∈ es, e.isKeep = false → e.marked xs ys ≠ [] := by
  induction h with
  | nil => exact nofun
  | keep agree rest ih => exact List.forall_mem_cons.mpr ⟨nofun, ih hx hy⟩
  | delete pos bound rest ih =>
      have some_ := marked_slice_ne_nil .deleted pos (Nat.le_trans rest.le.1 hx)
      exact List.forall_mem_cons.mpr ⟨fun _ => some_, ih hx hy⟩
  | insert pos anchor rest ih =>
      have some_ := marked_slice_ne_nil .inserted pos (Nat.le_trans rest.le.2 hy)
      exact List.forall_mem_cons.mpr ⟨fun _ => some_, ih hx hy⟩
  | replace pos newPos rest ih =>
      have some_ := marked_slice_ne_nil .deleted pos (Nat.le_trans rest.le.1 hx)
      refine List.forall_mem_cons.mpr ⟨fun _ => ?_, ih hx hy⟩
      exact List.append_ne_nil_of_left_ne_nil some_ _

/-- At either end of a group no more lines are kept than the context. -/
theorem Clipped.keptRun_le {i j i' j' : Nat} {es : List Edit} (clipped : Clipped context es)
    (h : Spans xs ys i j i' j' es) (hx : i' ≤ xs.length) (hy : j' ≤ ys.length) :
    keptRun (es.flatMap (Edit.marked xs ys)) ≤ context ∧
      keptRun (es.flatMap (Edit.marked xs ys)).reverse ≤ context := by
  have some_ := h.marked_ne_nil hx hy
  constructor
  · refine keptRun_flatMap_le clipped.alternating clipped.first (fun e => e.length_marked_le)
      fun e he change => ?_
    obtain ⟨l, ls, lines⟩ := List.exists_cons_of_ne_nil (some_ e he change)
    exact ⟨l, ls, lines, e.mark_ne_kept change l (lines ▸ List.mem_cons_self)⟩
  · rw [List.reverse_flatMap]
    refine keptRun_flatMap_le clipped.alternating.reverse
      (fun e he => clipped.last e (List.head?_reverse ▸ he)) (fun e keep => ?_)
      fun e he change => ?_
    · rw [Function.comp_apply, List.length_reverse]
      exact e.length_marked_le keep
    · have he : e ∈ es := List.mem_reverse.mp he
      obtain ⟨l, ls, lines⟩ := List.exists_cons_of_ne_nil
        (mt List.reverse_eq_nil_iff.mp (some_ e he change))
      have hl : l ∈ (e.marked xs ys).reverse := lines ▸ List.mem_cons_self
      exact ⟨l, ls, lines, e.mark_ne_kept change l (List.mem_reverse.mp hl)⟩

end PatchTrail.Diff
