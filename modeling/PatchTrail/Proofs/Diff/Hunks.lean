import PatchTrail.Diff.Hunk
import PatchTrail.Proofs.Diff.Coalescing

/-!
# Hunks transform the old lines into the new ones

Cut into groups, a difference still covers both sequences, with gaps where nothing changes
(`groups_covers`). The marked lines of a group are the lines of both sides between the positions
where it begins and ends, whatever its edits say about the sides that they do not cover. So the
hunks lead from the old lines to the new ones and begin on the old side where they say
(`Transforms`, `hunks_transforms`). Between the same lines there are none (`hunks_self`).

Their headers depend on more. Both counts are differences of positions that may be stale. They never
exceed the lines that are there, and the old one is right unless the hunk ends with an inserted line
(`Hunk.Sound`). The new one need not be right even then: a hunk that begins with a deletion begins
on the new side wherever that deletion stood before it was moved.
-/

namespace PatchTrail.Diff

/-! ## The sides of marked lines -/

/-- The lines of the old side among marked lines. -/
def oldLines (ls : List (Mark × Text)) : List Text :=
  (ls.filter fun l => l.1 ≠ .inserted).map (·.2)

/-- The lines of the new side among marked lines. -/
def newLines (ls : List (Mark × Text)) : List Text :=
  (ls.filter fun l => l.1 ≠ .deleted).map (·.2)

@[simp] theorem oldLines_append (ls ls' : List (Mark × Text)) :
    oldLines (ls ++ ls') = oldLines ls ++ oldLines ls' := by
  unfold oldLines
  rw [List.filter_append, List.map_append]

@[simp] theorem newLines_append (ls ls' : List (Mark × Text)) :
    newLines (ls ++ ls') = newLines ls ++ newLines ls' := by
  unfold newLines
  rw [List.filter_append, List.map_append]

theorem oldLines_mark (m : Mark) (ts : List Text) :
    oldLines (ts.map fun t => (m, t)) = if m = .inserted then [] else ts := by
  unfold oldLines
  rw [List.filter_map, List.map_map]
  cases m <;> simp [Function.comp_def]

theorem newLines_mark (m : Mark) (ts : List Text) :
    newLines (ts.map fun t => (m, t)) = if m = .deleted then [] else ts := by
  unfold newLines
  rw [List.filter_map, List.map_map]
  cases m <;> simp [Function.comp_def]

variable {xs ys : List Text} {context : Nat}

/-- The lines of some edits are on the old side what the edits cover there. -/
theorem Spans.drop_old {i j i' j' : Nat} {es : List Edit} (h : Spans xs ys i j i' j' es) :
    xs.drop i = oldLines (es.flatMap (Edit.marked xs ys)) ++ xs.drop i' := by
  induction h with
  | nil => rfl
  | @keep i j i' j' count es agree rest ih =>
      rw [drop_eq_slice_append xs i count, ih, List.flatMap_cons, oldLines_append, Edit.marked,
        oldLines_mark, List.append_assoc]
      rfl
  | @delete i j i' j' count new es pos bound rest ih =>
      rw [drop_eq_slice_append xs i count, ih, List.flatMap_cons, oldLines_append, Edit.marked,
        oldLines_mark, List.append_assoc]
      rfl
  | insert pos anchor rest ih =>
      rw [ih, List.flatMap_cons, oldLines_append, Edit.marked, oldLines_mark]
      rfl
  | @replace i j i' j' count newCount es pos newPos rest ih =>
      rw [drop_eq_slice_append xs i count, ih, List.flatMap_cons, oldLines_append, Edit.marked,
        oldLines_append, oldLines_mark, oldLines_mark, List.append_assoc, List.append_assoc]
      rfl

/-- The lines of some edits are on the new side what the edits cover there. -/
theorem Spans.drop_new {i j i' j' : Nat} {es : List Edit} (h : Spans xs ys i j i' j' es) :
    ys.drop j = newLines (es.flatMap (Edit.marked xs ys)) ++ ys.drop j' := by
  induction h with
  | nil => rfl
  | @keep i j i' j' count es agree rest ih =>
      rw [drop_eq_slice_append ys j count, ih, List.flatMap_cons, newLines_append, Edit.marked,
        newLines_mark, List.append_assoc, ← agree.slice_eq]
      rfl
  | delete pos bound rest ih =>
      rw [ih, List.flatMap_cons, newLines_append, Edit.marked, newLines_mark]
      rfl
  | @insert i j i' j' old count es pos anchor rest ih =>
      rw [drop_eq_slice_append ys j count, ih, List.flatMap_cons, newLines_append, Edit.marked,
        newLines_mark, List.append_assoc]
      rfl
  | @replace i j i' j' count newCount es pos newPos rest ih =>
      rw [drop_eq_slice_append ys j newCount, ih, List.flatMap_cons, newLines_append, Edit.marked,
        newLines_append, newLines_mark, newLines_mark, List.append_assoc, List.append_assoc]
      rfl

/-! ## Groups -/

/-- A group of edits covers both sequences between two positions. It begins and ends with kept
elements or where both sequences do. -/
structure Group (xs ys : List Text) (i j i' j' : Nat) (es : List Edit) : Prop where
  spans : Spans xs ys i j i' j' es
  nonempty : es ≠ []
  begins : ∀ e ∈ es.head?, e.isKeep ∨ (i = 0 ∧ j = 0)
  ends : ∀ e ∈ es.getLast?, e.isKeep ∨ (i' = xs.length ∧ j' = ys.length)

/-- From positions `i` and `j` on, groups of edits cover both sequences but for stretches that
agree. -/
inductive Covers (xs ys : List Text) : (i j : Nat) → List (List Edit) → Prop where
  | done {i j count : Nat} (agree : Agree xs ys i j count) (old : i + count = xs.length)
      (new : j + count = ys.length) : Covers xs ys i j []
  | group {i j count i' j' : Nat} {g : List Edit} {gs : List (List Edit)}
      (skipped : Agree xs ys i j count) (group : Group xs ys (i + count) (j + count) i' j' g)
      (rest : Covers xs ys i' j' gs) : Covers xs ys i j (g :: gs)

theorem Covers.skip {i j count : Nat} {gs : List (List Edit)} (agree : Agree xs ys i j count)
    (h : Covers xs ys (i + count) (j + count) gs) : Covers xs ys i j gs := by
  cases h with
  | done agree' old new =>
      exact .done (agree.append agree') (by omega) (by omega)
  | group skipped group rest =>
      refine .group (agree.append skipped) ?_ rest
      rwa [← Nat.add_assoc, ← Nat.add_assoc]

/-- Clipping at the beginning leaves out a stretch that agrees, and nothing where the edits begin
with a change. -/
theorem Spans.clipFirst {i j i' j' : Nat} {es : List Edit} (h : Spans xs ys i j i' j' es)
    (context : Nat) :
    ∃ count, Agree xs ys i j count ∧
      Spans xs ys (i + count) (j + count) i' j' (clipFirst context es) ∧
      ∀ e ∈ (Diff.clipFirst context es).head?, e.isKeep ∨ count = 0 := by
  unfold Diff.clipFirst
  split
  · next old new count es =>
      cases h with
      | keep agree rest =>
          refine ⟨count - context, agree.within 0 rfl rfl (by omega), .keep ?_ ?_, ?_⟩
          · exact agree.within (count - context) rfl rfl (by omega)
          · rwa [show i + (count - context) + (count - (count - context)) = i + count by omega,
              show j + (count - context) + (count - (count - context)) = j + count by omega]
          · intro e he
            cases he
            exact .inl rfl
  · exact ⟨0, .zero, h, fun _ _ => .inr rfl⟩

/-- Clipping at the end leaves out a stretch that agrees, and nothing where the edits end with a
change. -/
theorem Spans.clipLast {i j i' j' : Nat} {es : List Edit} (h : Spans xs ys i j i' j' es)
    (context : Nat) :
    ∃ i₁ j₁ count, Spans xs ys i j i₁ j₁ (clipLast context es) ∧ Agree xs ys i₁ j₁ count ∧
      i₁ + count = i' ∧ j₁ + count = j' ∧
      (∀ e ∈ (Diff.clipLast context es).head?, e.isKeep ∨ e ∈ es.head?) ∧
      ∀ e ∈ (Diff.clipLast context es).getLast?, e.isKeep ∨ count = 0 := by
  unfold Diff.clipLast
  split
  · next old new count rest hes =>
      have hes : es = rest.reverse ++ [.keep old new count] := by
        rw [← List.reverse_reverse es, hes, List.reverse_cons]
      rw [hes] at h ⊢
      obtain ⟨i₁, j₁, front, back⟩ := h.of_append
      cases back with
      | keep agree nothing =>
          cases nothing
          refine ⟨old + min count context, new + min count context, count - min count context,
            ?_, ?_, by omega, by omega, ?_, ?_⟩
          · rw [List.reverse_cons]
            exact front.append (.keep (agree.within 0 rfl rfl (by omega)) .nil)
          · exact agree.within (min count context) rfl rfl (by omega)
          · intro e he
            rw [List.reverse_cons] at he
            cases hr : rest.reverse with
            | nil =>
                rw [hr] at he
                cases he
                exact .inl rfl
            | cons e' more =>
                rw [hr] at he
                exact .inr he
          · intro e he
            rw [List.reverse_cons, List.getLast?_concat] at he
            cases he
            exact .inl rfl
  · exact ⟨i', j', 0, h, .zero, rfl, rfl, fun _ he => .inr he, fun _ _ => .inr rfl⟩

/-- Kept elements, but for some at their beginning. -/
theorem Agree.spans_from {i j c offset : Nat} (agree : Agree xs ys i j c) (h : offset ≤ c) :
    Spans xs ys (i + offset) (j + offset) (i + c) (j + c)
      [.keep (i + offset) (j + offset) (c - offset)] := by
  refine .keep (agree.within offset rfl rfl (by omega)) ?_
  rw [show i + offset + (c - offset) = i + c by omega,
    show j + offset + (c - offset) = j + c by omega]
  exact .nil

/-- A group that ends with kept elements may end anywhere. -/
theorem Group.of_keep {i j i' j' old new count : Nat} {es : List Edit}
    (spans : Spans xs ys i j i' j' (es ++ [.keep old new count]))
    (begins : ∀ e ∈ es.head?, e.isKeep ∨ (i = 0 ∧ j = 0)) :
    Group xs ys i j i' j' (es ++ [.keep old new count]) := by
  refine ⟨spans, List.concat_ne_nil _ _, fun e he => ?_, fun e he => ?_⟩
  · cases es with
    | nil =>
        cases he
        exact .inl rfl
    | cons first more => exact begins e he
  · rw [List.getLast?_concat] at he
    cases he
    exact .inl rfl

/-- A group may end with the first of some kept elements. -/
theorem Group.of_first {i j o n c : Nat} {es rest : List Edit} (spans : Spans xs ys i j o n es)
    (agree : Agree xs ys o n c) (le : context ≤ c)
    (begins : ∀ e ∈ (es ++ .keep o n c :: rest).head?, e.isKeep ∨ (i = 0 ∧ j = 0)) :
    Group xs ys i j (o + context) (n + context) (es ++ [.keep o n context]) := by
  refine .of_keep (spans.append (.keep (agree.within 0 rfl rfl (by omega)) .nil)) ?_
  intro e he
  refine begins e ?_
  rw [Option.mem_def, List.head?_append, Option.mem_def.mp he]
  rfl

/-- Cutting keeps what the edits cover. The group that is being built, written backwards, comes
before them. -/
theorem cutGroups_covers {i j i₁ j₁ i₂ j₂ count : Nat} {es group : List Edit}
    (hgroup : Spans xs ys i j i₁ j₁ group.reverse) (hes : Spans xs ys i₁ j₁ i₂ j₂ es)
    (begins : ∀ e ∈ (group.reverse ++ es).head?, e.isKeep ∨ (i = 0 ∧ j = 0))
    (ends : ∀ e ∈ (group.reverse ++ es).getLast?, e.isKeep ∨ count = 0)
    (agree : Agree xs ys i₂ j₂ count) (old : i₂ + count = xs.length)
    (new : j₂ + count = ys.length) : Covers xs ys i j (cutGroups context es group) := by
  fun_induction cutGroups context es group generalizing i j i₁ j₁ with
  | case1 =>
      cases hgroup
      cases hes
      exact .done agree old new
  -- a last group that only keeps is left out
  | case2 =>
      cases hes
      cases hgroup with
      | keep agree' nothing =>
          cases nothing
          exact .done (agree'.append agree) (by omega) (by omega)
  | case3 group hne _ =>
      cases hes
      rw [List.append_nil] at begins ends
      refine .group .zero ⟨hgroup, ?_, begins, ?_⟩ (.done agree old new)
      · intro h
        exact hne (List.reverse_eq_nil_iff.mp h)
      · intro e he
        rcases ends e he with hkeep | hcount
        · exact .inl hkeep
        · exact .inr ⟨by omega, by omega⟩
  -- more is kept than two groups can show of it: what is between them is skipped
  | case4 o n c rest group hlong offset =>
      rename_i ih
      cases hes with
      | keep agree' hes =>
          have cut : Group xs ys i j (o + context) (n + context)
              (group.reverse ++ [.keep o n context]) := .of_first hgroup agree' (by omega) begins
          have between : Agree xs ys (o + context) (n + context) (offset - context) :=
            agree'.within context rfl rfl (by omega)
          rw [List.reverse_cons]
          refine .group .zero cut (.skip between (ih ?_ hes ?_ ?_))
          · rw [show o + context + (offset - context) = o + offset by omega,
              show n + context + (offset - context) = n + offset by omega]
            exact agree'.spans_from (by omega)
          · intro e he
            cases he
            exact .inl rfl
          · intro e he
            cases rest with
            | nil =>
                cases he
                exact .inl rfl
            | cons e' more =>
                have he : (e' :: more).getLast? = some e := he
                refine ends e ?_
                rw [Option.mem_def, List.getLast?_append, List.getLast?_cons_cons, he]
                rfl
  | case5 o n c rest group hshort ih =>
      cases hes with
      | keep agree' hes =>
          refine ih ?_ hes ?_ ?_
          · rw [List.reverse_cons]
            exact hgroup.append (.keep agree' .nil)
          · rwa [List.reverse_cons, List.append_assoc]
          · rwa [List.reverse_cons, List.append_assoc]
  | case6 e rest group hkeep ih =>
      have hes : Spans xs ys i₁ j₁ i₂ j₂ ([e] ++ rest) := hes
      obtain ⟨i', j', front, back⟩ := hes.of_append
      refine ih ?_ back ?_ ?_
      · rw [List.reverse_cons]
        exact hgroup.append front
      · rwa [List.reverse_cons, List.append_assoc]
      · rwa [List.reverse_cons, List.append_assoc]

/-- The groups of a difference cover both sequences. -/
theorem groups_covers (context : Nat) (xs ys : List Text) :
    Covers xs ys 0 0 (groups context (difference xs ys)) := by
  have whole := difference_spans xs ys
  unfold groups
  split
  · next h =>
      rw [h] at whole
      generalize hx : xs.length = x at whole
      generalize hy : ys.length = y at whole
      cases whole
      exact .done .zero hx.symm hy.symm
  · obtain ⟨skipped, agree, clipped, first⟩ := whole.clipFirst context
    obtain ⟨i, j, count, clipped, agree', old, new, first', last⟩ := clipped.clipLast context
    refine Covers.skip agree (cutGroups_covers .nil clipped ?_ last agree' old new)
    intro e he
    rcases first' e he with hkeep | he
    · exact .inl hkeep
    · rcases first e he with hkeep | hskip
      · exact .inl hkeep
      · exact .inr ⟨by omega, by omega⟩

/-! ## Headers -/

/-- What the header of a hunk always says right. -/
structure Hunk.Sound (h : Hunk) : Prop where
  oldCount_le : h.oldCount ≤ (oldLines h.lines).length
  newCount_le : h.newCount ≤ (newLines h.lines).length
  oldCount_eq : (∀ line, h.lines.getLast? ≠ some (.inserted, line)) →
    h.oldCount = (oldLines h.lines).length

/-- The header of a hunk that ends with an inserted line says how many lines the hunk has on the new
side. -/
def Hunk.Announced (h : Hunk) : Prop :=
  ∀ line, h.lines.getLast? = some (.inserted, line) → h.newCount = (newLines h.lines).length

/-- The first edit of a group begins where the group does on the old side. On the new side it does
not begin before the group, and where the group does unless it is a deletion. -/
theorem Group.first {i j i' j' : Nat} {e : Edit} {es : List Edit}
    (h : Group xs ys i j i' j' (e :: es)) :
    e.oldSide.1 = i ∧ j ≤ e.newSide.1 ∧ (e.newSide.1 = j ∨ i < i') := by
  have begins := h.begins e rfl
  cases h.spans with
  | keep => exact ⟨rfl, Nat.le_refl _, .inl rfl⟩
  | delete pos bound rest =>
      rcases begins with hkeep | ⟨_, hj⟩
      · cases hkeep
      · have := rest.le.1
        exact ⟨rfl, by omega, .inr (by omega)⟩
  | @insert _ _ _ _ old _ _ pos anchor rest =>
      rcases begins with hkeep | ⟨hi, _⟩
      · cases hkeep
      · have : old = i := by omega
        exact ⟨this, Nat.le_refl _, .inl rfl⟩
  | replace => exact ⟨rfl, Nat.le_refl _, .inl rfl⟩

/-- The last edit of a group does not end behind the group. On the old side it ends where the group
does unless it is an insertion, on the new side unless it is a deletion. -/
theorem Group.last {i j i' j' : Nat} {e : Edit} {es : List Edit}
    (h : Group xs ys i j i' j' (es ++ [e])) :
    (e.oldSide.1 + e.oldSide.2 ≤ i' ∧ e.newSide.1 + e.newSide.2 ≤ j') ∧
      (e.isInsert = false → e.oldSide.1 + e.oldSide.2 = i') ∧
      (e.isDelete = false → e.newSide.1 + e.newSide.2 = j') := by
  have ends := h.ends e (by rw [List.getLast?_concat]; rfl)
  obtain ⟨i₁, j₁, front, back⟩ := h.spans.of_append
  cases back with
  | keep agree rest =>
      cases rest
      exact ⟨⟨Nat.le_refl _, Nat.le_refl _⟩, fun _ => rfl, fun _ => rfl⟩
  | delete pos bound rest =>
      cases rest
      rcases ends with hkeep | ⟨_, hj⟩
      · cases hkeep
      · exact ⟨⟨Nat.le_refl _, by simp only [Edit.newSide]; omega⟩, fun _ => rfl, nofun⟩
  | insert pos anchor rest =>
      cases rest
      exact ⟨⟨by simp only [Edit.oldSide]; omega, Nat.le_refl _⟩, nofun, fun _ => rfl⟩
  | replace pos newPos rest =>
      cases rest
      exact ⟨⟨Nat.le_refl _, Nat.le_refl _⟩, fun _ => rfl, fun _ => rfl⟩

/-- The last of some marked lines bears the mark of those that were written last. -/
theorem getLast?_append_mark (ls : List (Mark × Text)) (m : Mark) {ts : List Text}
    (h : 0 < ts.length) : ∃ line, (ls ++ ts.map fun t => (m, t)).getLast? = some (m, line) := by
  have hne : ts ≠ [] := List.length_pos_iff.mp h
  refine ⟨ts.getLast hne, ?_⟩
  rw [List.getLast?_append, List.getLast?_map, List.getLast?_eq_some_getLast hne]
  rfl

/-- A group that ends with an insertion ends with an inserted line. -/
theorem Spans.getLast_insert {i j i' j' : Nat} {e : Edit} {es : List Edit}
    (h : Spans xs ys i j i' j' (es ++ [e])) (hy : j' ≤ ys.length) (he : e.isInsert) :
    ∃ line, ((es ++ [e]).flatMap (Edit.marked xs ys)).getLast? = some (.inserted, line) := by
  obtain ⟨i₁, j₁, front, back⟩ := h.of_append
  rw [List.flatMap_append, List.flatMap_singleton]
  cases back with
  | @insert _ _ _ _ old count _ pos anchor rest =>
      cases rest
      have hlen : (Edit.slice ys j₁ count).length = count := length_slice hy
      exact getLast?_append_mark _ .inserted (hlen.symm ▸ pos)
  | _ => cases he

/-- A group that ends with a deletion ends with a deleted line. -/
theorem Spans.getLast_delete {i j i' j' : Nat} {e : Edit} {es : List Edit}
    (h : Spans xs ys i j i' j' (es ++ [e])) (hx : i' ≤ xs.length) (he : e.isDelete) :
    ∃ line, ((es ++ [e]).flatMap (Edit.marked xs ys)).getLast? = some (.deleted, line) := by
  obtain ⟨i₁, j₁, front, back⟩ := h.of_append
  rw [List.flatMap_append, List.flatMap_singleton]
  cases back with
  | @delete _ _ _ _ count new _ pos bound rest =>
      cases rest
      have hlen : (Edit.slice xs i₁ count).length = count := length_slice hx
      exact getLast?_append_mark _ .deleted (hlen.symm ▸ pos)
  | _ => cases he

/-- The hunk of a group. -/
theorem Group.hunk {i j i' j' : Nat} {g : List Edit} (h : Group xs ys i j i' j' g)
    (hx : i' ≤ xs.length) (hy : j' ≤ ys.length) :
    ∃ hunk, Hunk.ofGroup? xs ys g = some hunk ∧ hunk.oldStart = i ∧
      hunk.lines = g.flatMap (Edit.marked xs ys) ∧ hunk.Sound ∧ (xs = [] → hunk.Announced) := by
  have old := congrArg List.length h.spans.drop_old
  have new := congrArg List.length h.spans.drop_new
  rw [List.length_append, List.length_drop, List.length_drop] at old new
  have hle := h.spans.le
  obtain ⟨first, rest, hfirst⟩ := List.exists_cons_of_ne_nil h.nonempty
  obtain ⟨init, last, hlast⟩ : ∃ init last, g = init ++ [last] :=
    ⟨_, _, (List.dropLast_concat_getLast h.nonempty).symm⟩
  obtain ⟨oldStart, newStart, newStart'⟩ := (hfirst ▸ h).first
  obtain ⟨⟨oldEnd, newEnd⟩, oldEnd', newEnd'⟩ := (hlast ▸ h).last
  have found : g.getLast? = some last := by rw [hlast, List.getLast?_concat]
  refine ⟨⟨first.oldSide.1, last.oldSide.1 + last.oldSide.2 - first.oldSide.1, first.newSide.1,
    last.newSide.1 + last.newSide.2 - first.newSide.1, g.flatMap (Edit.marked xs ys)⟩, ?_, oldStart,
    rfl, ⟨?_, ?_, ?_⟩, ?_⟩
  · unfold Hunk.ofGroup?
    rw [found, hfirst]
  · simp only
    omega
  · simp only
    omega
  · intro hline
    have kind : last.isInsert = false := by
      by_cases hkind : last.isInsert = true
      · obtain ⟨line, hl⟩ := (hlast ▸ h.spans).getLast_insert hy hkind
        exact (hline line (hlast ▸ hl)).elim
      · exact Bool.eq_false_iff.mpr hkind
    have := oldEnd' kind
    simp only
    omega
  · intro hnil line hline
    have kind : last.isDelete = false := by
      by_cases hkind : last.isDelete = true
      · obtain ⟨line', hl⟩ := (hlast ▸ h.spans).getLast_delete hx hkind
        rw [← hlast] at hl
        have := hl.symm.trans hline
        cases this
      · exact Bool.eq_false_iff.mpr hkind
    have := newEnd' kind
    rw [hnil, List.length_nil] at hx
    simp only
    omega

/-! ## From the old lines to the new ones -/

/-- The hunks that have lines. The others leave nothing when they are written. -/
def shown (hs : List Hunk) : List Hunk := hs.filter fun h => h.lines ≠ []

theorem shown_cons_of_lines {h : Hunk} (some_ : h.lines ≠ []) (hs : List Hunk) :
    shown (h :: hs) = h :: shown hs := List.filter_cons_of_pos (by simpa using some_)

theorem shown_cons_of_no_lines {h : Hunk} (none_ : h.lines = []) (hs : List Hunk) :
    shown (h :: hs) = shown hs := List.filter_cons_of_neg (by simpa using none_)

/-- What hunks without lines have no part in can be asked of those that have lines. -/
theorem flatMap_shown {β : Type} {f : Hunk → List β} (nothing : ∀ h, h.lines = [] → f h = [])
    (hs : List Hunk) : (shown hs).flatMap f = hs.flatMap f := by
  induction hs with
  | nil => rfl
  | cons h hs ih =>
      by_cases hempty : h.lines = []
      · rw [shown_cons_of_no_lines hempty, ih, List.flatMap_cons, nothing h hempty,
          List.nil_append]
      · rw [shown_cons_of_lines hempty, List.flatMap_cons, List.flatMap_cons, ih]

/-- Behind so many lines, hunks lead from some old lines to some new ones. -/
inductive Transforms : (passed : Nat) → (old new : List Text) → List Hunk → Prop where
  | done {passed : Nat} {same : List Text} : Transforms passed same same []
  | hunk {passed : Nat} {same old new : List Text} {h : Hunk} {hs : List Hunk} (sound : h.Sound)
      (nonempty : h.lines ≠ []) (start : h.oldStart = passed + same.length)
      (rest : Transforms (passed + same.length + (oldLines h.lines).length) old new hs) :
      Transforms passed (same ++ (oldLines h.lines ++ old)) (same ++ (newLines h.lines ++ new))
        (h :: hs)

theorem Transforms.skip {passed : Nat} {old new : List Text} {hs : List Hunk} (same : List Text)
    (h : Transforms (passed + same.length) old new hs) :
    Transforms passed (same ++ old) (same ++ new) hs := by
  cases h with
  | done => exact .done
  | hunk sound nonempty start rest =>
      rw [← List.append_assoc same, ← List.append_assoc same]
      rw [Nat.add_assoc passed, ← List.length_append] at start rest
      exact .hunk sound nonempty start rest

theorem Transforms.sound {passed : Nat} {old new : List Text} {hs : List Hunk}
    (t : Transforms passed old new hs) : ∀ h ∈ hs, h.Sound := by
  induction t with
  | done => exact nofun
  | hunk sound nonempty start rest ih =>
      intro h hh
      rcases List.mem_cons.mp hh with rfl | hh
      · exact sound
      · exact ih h hh

/-- The lines of hunks are lines of the texts that they lead between. -/
theorem Transforms.mem_or_mem {passed : Nat} {old new : List Text} {hs : List Hunk}
    (t : Transforms passed old new hs) :
    ∀ h ∈ hs, ∀ l ∈ h.lines, l.2 ∈ old ∨ l.2 ∈ new := by
  induction t with
  | done => exact nofun
  | @hunk passed same old new h hs sound nonempty start rest ih =>
      intro h' hh' l hl
      simp only [List.mem_append]
      rcases List.mem_cons.mp hh' with rfl | hh'
      · by_cases hmark : l.1 = .inserted
        · have : l.2 ∈ newLines h'.lines :=
            List.mem_map_of_mem (List.mem_filter.mpr ⟨hl, by rw [hmark]; rfl⟩)
          exact .inr (.inr (.inl this))
        · have : l.2 ∈ oldLines h'.lines :=
            List.mem_map_of_mem (List.mem_filter.mpr ⟨hl, by simpa using hmark⟩)
          exact .inl (.inr (.inl this))
      · rcases ih h' hh' l hl with hmem | hmem
        · exact .inl (.inr (.inr hmem))
        · exact .inr (.inr (.inr hmem))

theorem Covers.le {i j : Nat} {gs : List (List Edit)} (h : Covers xs ys i j gs) :
    i ≤ xs.length ∧ j ≤ ys.length := by
  induction h with
  | done agree old new => omega
  | group skipped group rest ih =>
      have := group.spans.le
      omega

/-- The hunks of groups lead from the old lines that the groups cover to the new ones. -/
theorem Covers.transforms {i j : Nat} {gs : List (List Edit)} (h : Covers xs ys i j gs) :
    Transforms i (xs.drop i) (ys.drop j) (shown (gs.filterMap (Hunk.ofGroup? xs ys))) := by
  induction h with
  | @done i j count agree old new =>
      have hx : xs.drop i = Edit.slice xs i count := by
        rw [drop_eq_slice_append xs i count, old, List.drop_length, List.append_nil]
      have hy : ys.drop j = Edit.slice ys j count := by
        rw [drop_eq_slice_append ys j count, new, List.drop_length, List.append_nil]
      rw [hx, hy, agree.slice_eq]
      exact .done
  | @group i j count i' j' g gs skipped group rest ih =>
      have hle := rest.le
      have hbound := group.spans.le
      obtain ⟨hunk, found, start, lines, sound, -⟩ := group.hunk hle.1 hle.2
      have hskip : (Edit.slice xs i count).length = count := length_slice (by omega)
      have old := group.spans.drop_old
      have new := group.spans.drop_new
      rw [← lines] at old new
      have hlen := congrArg List.length old
      rw [List.length_append, List.length_drop, List.length_drop] at hlen
      rw [List.filterMap_cons_some found, drop_eq_slice_append xs i count,
        drop_eq_slice_append ys j count, ← skipped.slice_eq, old, new]
      have reached : i + count + (oldLines hunk.lines).length = i' := by omega
      by_cases hempty : hunk.lines = []
      · rw [shown_cons_of_no_lines hempty, hempty]
        rw [hempty] at reached
        refine Transforms.skip _ ?_
        rwa [hskip, show i + count = i' from reached]
      · rw [shown_cons_of_lines hempty]
        refine .hunk sound hempty (by omega) ?_
        rwa [hskip, reached]

/-- The hunks between two sequences of lines lead from the one to the other. -/
theorem hunks_transforms (context : Nat) (xs ys : List Text) :
    Transforms 0 xs ys (shown (hunks context xs ys)) :=
  (groups_covers context xs ys).transforms

theorem Covers.nil_announced {i j : Nat} {gs : List (List Edit)} (h : Covers [] ys i j gs) :
    ∀ hunk ∈ gs.filterMap (Hunk.ofGroup? [] ys), hunk.Announced := by
  induction h with
  | done => exact nofun
  | group skipped group rest ih =>
      have hle := rest.le
      obtain ⟨hunk, found, -, -, -, announced⟩ := group.hunk hle.1 hle.2
      rw [List.filterMap_cons_some found]
      intro hunk' hh
      rcases List.mem_cons.mp hh with rfl | hh
      · exact announced rfl
      · exact ih hunk' hh

/-- Where there are no old lines, the headers of hunks are right. -/
theorem hunks_nil_announced (context : Nat) (ys : List Text) :
    ∀ h ∈ hunks context [] ys, h.Announced :=
  (groups_covers context [] ys).nil_announced

/-! ## From lines to the same lines -/

theorem sharedPrefix_self (xs : List Text) : sharedPrefix xs xs = xs.length := by
  induction xs with
  | nil => rfl
  | cons x xs ih =>
      rw [sharedPrefix, if_pos rfl, ih, List.length_cons]

theorem edits_self (xs : List Text) : edits xs xs = unlessEmpty (.keep 0 0 xs.length) := by
  unfold edits
  rw [editsFrom]
  simp only [sharedPrefix_self, List.drop_length, List.take_nil, and_self, if_true,
    List.append_nil]
  exact List.append_nil _

theorem settle_unchosen {xs ys : List Text} {chosen : Edit → Bool} {after : List Edit}
    (h : ∀ e ∈ after, chosen e = false) (steps : Nat) (before : List Edit) :
    settle xs ys chosen steps before after = before.reverse ++ after := by
  induction steps generalizing before after with
  | zero => rfl
  | succ steps ih =>
      cases after with
      | nil => exact (List.append_nil _).symm
      | cons e after =>
          rw [settle, h e List.mem_cons_self, if_neg nofun,
            ih fun e' he' => h e' (List.mem_cons_of_mem _ he')]
          rw [List.reverse_cons, List.append_assoc]
          rfl

theorem difference_self (xs : List Text) :
    difference xs xs = unlessEmpty (.keep 0 0 xs.length) := by
  have stands : ∀ chosen steps, chosen (.keep 0 0 xs.length) = false →
      settle xs xs chosen steps [] (unlessEmpty (.keep 0 0 xs.length)) =
        unlessEmpty (.keep 0 0 xs.length) := by
    intro chosen steps hchosen
    refine settle_unchosen (fun e he => ?_) steps []
    unfold unlessEmpty at he
    split at he
    · cases he
    · rwa [List.mem_singleton.mp he]
  unfold difference compact
  rw [edits_self]
  simp only
  rw [stands _ _ rfl, stands _ _ rfl]
  unfold unlessEmpty
  split <;> rfl

/-- Lines that stay the same have no hunks. -/
theorem hunks_self (context : Nat) (xs : List Text) : hunks context xs xs = [] := by
  unfold hunks
  rw [difference_self]
  unfold unlessEmpty
  split
  · rfl
  · unfold groups
    rw [if_neg nofun]
    simp only [clipFirst, clipLast, List.reverse_singleton, cutGroups]
    rw [if_neg (by omega)]
    rfl

end PatchTrail.Diff
