import PatchTrail.Proofs.Smali.Rewriting

/-!
# Passes that change the unit and passes that do not

A patcher that only checks leaves the unit as it is whenever it succeeds
(`Patcher.eq_of_isAssertion`), any other that is run on a method changes it. That is checked after
each pass, not after the last: two passes that undo one another succeed
(`Patcher.inMethod_undone`), so that only a sequence with a single pass that is to change the unit
is known to change it in the end (`Patcher.inMethod_changes`).
-/

namespace PatchTrail.Patcher

open Smali (bodies only rewrite)

variable {signature unit_ result : Text} {p : Patcher} {ps before behind : List Patcher}

/-! ## Patchers that only check -/

theorem patchLines_eq_self {identifier : Text} {transform : Text → Except Error Text}
    (keeps : ∀ t t', transform t = .ok t' → t' = t) {ls ls' : List Text}
    (h : patchLines identifier transform ls = .ok ls') : ls' = ls := by
  induction ls generalizing ls' with
  | nil =>
      cases h
      rfl
  | cons line rest ih =>
      rw [patchLines] at h
      split at h
      · cases hline : transform line with
        | error e =>
            rw [hline] at h
            cases h
        | ok line' =>
            rw [hline] at h
            obtain ⟨rest', hrest, hls⟩ := bind_eq_ok_iff.mp h
            cases hls
            rw [ih hrest, keeps line line' hline]
      · obtain ⟨rest', hrest, hls⟩ := bind_eq_ok_iff.mp h
        cases hls
        rw [ih hrest]

/-- A patcher that leaves each body as it is leaves the unit as it is. -/
theorem inMethod_eq_self (keeps : ∀ t t', p.apply t = .ok t' → t' = t)
    (h : (inMethod signature [p]).apply unit_ = .ok result) : result = unit_ := by
  obtain ⟨-, patched, rfl, -⟩ := apply_inMethod_eq_ok_iff.mp h
  exact Smali.rewrite_only_eq_self fun b hb => keeps _ _ (patched b hb)

/-- A patcher that leaves each line as it is leaves the unit as it is, since the lines are put
together as they were taken apart. -/
theorem inConstant_eq_self {identifier : Text} (keeps : ∀ t t', p.apply t = .ok t' → t' = t)
    (h : (inConstant identifier p).apply unit_ = .ok result) : result = unit_ := by
  rw [apply, constantPass] at h
  split at h
  · cases hlines : patchLines identifier p.apply (unit_.split '\n') with
    | error e =>
        rw [hlines] at h
        cases h
    | ok ls =>
        rw [hlines, patchLines_eq_self keeps hlines] at h
        cases h
        exact Text.join_split '\n' unit_
  · cases h

mutual

/-- A patcher that only checks leaves the unit as it is whenever it succeeds. -/
theorem eq_of_isAssertion : ∀ (p : Patcher), p.isAssertion = true →
    ∀ t t', p.apply t = .ok t' → t' = t
  | require sought, _ => fun t t' h => by
      rw [apply] at h
      split at h
      · cases h
        rfl
      · cases h
  | inMethod signature patchers, hp => fun t t' h =>
      eq_of_areAssertions patchers hp signature t t' h
  | inConstant identifier p, hp => fun t t' h =>
      inConstant_eq_self (eq_of_isAssertion p hp) h

theorem eq_of_areAssertions : ∀ (ps : List Patcher), isAssertion.areAssertions ps = true →
    ∀ signature t t', (inMethod signature ps).apply t = .ok t' → t' = t
  | [], _ => fun signature t t' h => by
      cases h
      rfl
  | p :: rest, hps => fun signature t t' h => by
      obtain ⟨hp, hrest⟩ := Bool.and_eq_true_iff.mp hps
      rw [apply_inMethod_cons] at h
      obtain ⟨next, hnext, h⟩ := bind_eq_ok_iff.mp h
      rw [eq_of_areAssertions rest hrest signature next t' h,
        inMethod_eq_self (eq_of_isAssertion p hp) hnext]

end

/-! ## One pass after the other -/

theorem areAssertions_eq_all : isAssertion.areAssertions ps = ps.all isAssertion := by
  induction ps with
  | nil => rfl
  | cons p rest ih => rw [isAssertion.areAssertions, ih, List.all_cons]

theorem eq_of_forall_isAssertion (checks : ∀ p ∈ ps, p.isAssertion = true)
    (h : (inMethod signature ps).apply unit_ = .ok result) : result = unit_ :=
  eq_of_areAssertions ps (areAssertions_eq_all.trans (List.all_eq_true.mpr checks)) signature
    unit_ result h

/-- A pass leaves the unit as it is if and only if its patcher only checks. -/
theorem eq_iff_isAssertion (h : (inMethod signature [p]).apply unit_ = .ok result) :
    result = unit_ ↔ p.isAssertion = true := by
  refine ⟨fun still => ?_, fun checks => inMethod_eq_self (eq_of_isAssertion p checks) h⟩
  obtain ⟨-, -, -, changed⟩ := apply_inMethod_eq_ok_iff.mp h
  by_contra changes
  exact changed (Bool.eq_false_iff.mpr changes) still

/-- If all passes succeed, each one does, on what those before it have left. -/
theorem exists_pass (h : (inMethod signature (before ++ p :: behind)).apply unit_ = .ok result) :
    ∃ u v, (inMethod signature before).apply unit_ = .ok u ∧
      (inMethod signature [p]).apply u = .ok v ∧
      (inMethod signature behind).apply v = .ok result := by
  rw [apply_inMethod_append] at h
  obtain ⟨u, hu, h⟩ := bind_eq_ok_iff.mp h
  rw [apply_inMethod_cons] at h
  obtain ⟨v, hv, h⟩ := bind_eq_ok_iff.mp h
  exact ⟨u, v, hu, hv, h⟩

/-- Passes are without effect if and only if one that is reached is. -/
theorem noEffect_iff_exists_pass :
    (inMethod signature ps).apply unit_ = .error (.noEffect signature) ↔
      ∃ before p behind u, ps = before ++ p :: behind ∧
        (inMethod signature before).apply unit_ = .ok u ∧
        (inMethod signature [p]).apply u = .error (.noEffect signature) := by
  constructor
  · intro h
    induction ps generalizing unit_ with
    | nil => cases h
    | cons p rest ih =>
        cases hp : (inMethod signature [p]).apply unit_ with
        | error e =>
            rw [apply_inMethod_cons, hp] at h
            exact ⟨[], p, rest, unit_, rfl, rfl, hp.trans h⟩
        | ok next =>
            rw [apply_inMethod_cons, hp] at h
            obtain ⟨before, q, behind, u, rfl, hu, failed⟩ := ih h
            refine ⟨p :: before, q, behind, u, rfl, ?_, failed⟩
            rw [apply_inMethod_cons, hp]
            exact hu
  · rintro ⟨before, p, behind, u, rfl, hu, failed⟩
    rw [apply_inMethod_append, hu]
    change (inMethod signature (p :: behind)).apply u = _
    rw [apply_inMethod_cons, failed]
    rfl

/-- A single pass that does not only check is not undone by any other. -/
theorem ne_of_countP_eq_one (h : (inMethod signature ps).apply unit_ = .ok result)
    (one : ps.countP (!·.isAssertion) = 1) : result ≠ unit_ := by
  obtain ⟨p, hmem, changes⟩ := List.countP_pos_iff.mp (one ▸ Nat.one_pos)
  obtain ⟨before, behind, rfl⟩ := List.append_of_mem hmem
  rw [List.countP_append, List.countP_cons, if_pos changes] at one
  have checks : ∀ qs : List Patcher, qs.countP (!·.isAssertion) = 0 →
      ∀ q ∈ qs, q.isAssertion = true := fun qs none_ q hq => by
    simpa using List.countP_eq_zero.mp none_ q hq
  obtain ⟨u, v, hbefore, hp, hbehind⟩ := exists_pass h
  rw [eq_of_forall_isAssertion (checks before (by omega)) hbefore] at hp
  rw [eq_of_forall_isAssertion (checks behind (by omega)) hbehind, Ne, eq_iff_isAssertion hp]
  simpa using changes

/-- What it takes for a sequence of patchers that is run on a method to have an effect. If it
succeeds, each pass has changed the unit or its patcher only checks, and a sequence in which all
patchers but one only check has changed it. It fails for want of an effect if and only if one of
its passes, whose patcher does not only check, is reached, finds the method, succeeds on each body
and leaves the unit as it is. -/
theorem inMethod_changes (signature unit_ : Text) (ps : List Patcher) :
    (∀ result before p behind, (inMethod signature ps).apply unit_ = .ok result →
      ps = before ++ p :: behind →
        ∃ u v, (inMethod signature before).apply unit_ = .ok u ∧
          (inMethod signature [p]).apply u = .ok v ∧
          (inMethod signature behind).apply v = .ok result ∧ (v = u ↔ p.isAssertion = true)) ∧
      (∀ result, (inMethod signature ps).apply unit_ = .ok result →
        ps.countP (!·.isAssertion) = 1 → result ≠ unit_) ∧
      ((inMethod signature ps).apply unit_ = .error (.noEffect signature) ↔
        ∃ before p behind u, ps = before ++ p :: behind ∧
          (inMethod signature before).apply unit_ = .ok u ∧ p.isAssertion = false ∧
          bodies u signature ≠ [] ∧
          (∀ b ∈ bodies u signature, p.apply b.text = .ok (p.made b.text)) ∧
          rewrite (only signature p.made) u = u) := by
  refine ⟨fun result before p behind h hps => ?_, fun result => ne_of_countP_eq_one, ?_⟩
  · obtain ⟨u, v, hbefore, hp, hbehind⟩ := exists_pass (hps ▸ h)
    exact ⟨u, v, hbefore, hp, hbehind, eq_iff_isAssertion hp⟩
  · exact noEffect_iff_exists_pass.trans (by simp only [apply_inMethod_eq_noEffect_iff])

/-- Two passes that undo one another. -/
theorem inMethod_undone :
    (inMethod "f" [replaceText "a" "b", replaceText "b" "a"]).apply
        ".method f\na\n.end method\n" = .ok ".method f\na\n.end method\n" ∧
      (replaceText "a" "b").isAssertion = false ∧ (replaceText "b" "a").isAssertion = false :=
  ⟨rfl, rfl, rfl⟩

end PatchTrail.Patcher
