import PatchTrail.Patcher.Scope
import PatchTrail.Proofs.Smali.Changing
import PatchTrail.Proofs.Smali.Shifting

/-!
# Failures name the part that fails

A scope fails if it finds no region, if the patcher inside of it fails on one, or, for a pass over
the bodies of a method, if every body is left as it is (`apply_pass_eq_error_iff`,
`apply_inConstant_eq_error_iff`). Only in the second case is the failure wrapped, and it is wrapped
once. So a failure is that of a part of the patcher, wrapped in the scopes behind which this part
stands, and every part that fails by itself where it is reached makes the patcher fail in this way
(`apply_eq_error_iff_reached`). If custom patchers fail with failures of their own, the scopes and
the cause can be told from the failure (`Patcher.fails_iff_part_fails`).
-/

namespace PatchTrail.Patcher

open Smali (Cut)

variable {signature identifier unit_ next t region : Text} {p q : Patcher} {ps : List Patcher}
  {scopes : List Scope} {e cause : Error} {texts : List Text}

/-! ## Scopes of a failure -/

theorem Error.root_foldr_wrap (scopes : List Scope) (cause : Error) :
    (scopes.foldr Scope.wrap cause).root = cause.root := by
  induction scopes with
  | nil => rfl
  | cons scope scopes ih =>
      rw [← ih]
      cases scope <;> rfl

/-! ## Parts that are reached -/

theorem Pass.mem (h : Pass signature ps unit_ p next) : p ∈ ps := by
  obtain ⟨before, behind, rfl, -⟩ := h
  simp

/-- What is reached stands where it is reached. -/
theorem Reached.isInside (h : Reached q t scopes p unit_) : Inside q scopes p := by
  induction h with
  | self => exact .self
  | inMethod pass _ _ ih => exact .inMethod _ pass.mem ih
  | inConstant _ _ ih => exact .inConstant _ ih

/-- A patcher succeeds on each of some texts, or it comes to one on which it fails. -/
theorem forall₂_or_comesTo (p : Patcher) (texts : List Text) :
    (∃ news, List.Forall₂ (fun s s' => p.apply s = .ok s') texts news) ∨
      ∃ t e, ComesTo p texts t ∧ p.apply t = .error e := by
  rcases forall₂_or_first_error p.apply texts with patched | ⟨before, t, behind, e, h, done, failed⟩
  · exact .inl patched
  · exact .inr ⟨t, e, ⟨before, behind, h, done⟩, failed⟩

/-! ## A pass over the bodies of a method -/

theorem regions_method (signature unit_ : Text) :
    (Scope.method signature).regions unit_ =
      (Cut.ofUnit signature unit_).parts.map Smali.Part.body :=
  (Cut.map_body_ofUnit signature unit_).symm

theorem apply_pass_absent (absent : (Scope.method signature).regions unit_ = []) :
    (inMethod signature [p]).apply unit_ = .error (.methodNotFound signature) := by
  rw [regions_method, List.map_eq_nil_iff] at absent
  exact apply_inMethod_none absent

theorem apply_pass_failed (comes : ComesTo p ((Scope.method signature).regions unit_) region)
    (failed : p.apply region = .error e) :
    (inMethod signature [p]).apply unit_ = .error (.inMethod signature e) := by
  obtain ⟨before, behind, split, done⟩ := comes
  rw [regions_method] at split
  obtain ⟨front, rest, parts, rfl, hrest⟩ := List.map_eq_append_iff.mp split
  obtain ⟨part, back, rfl, rfl, -⟩ := List.map_eq_cons_iff.mp hrest
  exact apply_inMethod_error parts (fun part h => done part.body (List.mem_map_of_mem h)) failed

/-- If each body is patched, the unit is what it was if and only if each body is. -/
theorem apply_pass_patched (found : (Scope.method signature).regions unit_ ≠ [])
    (patched : List.Forall₂ (fun s s' => p.apply s = .ok s')
      ((Scope.method signature).regions unit_) texts) :
    (inMethod signature [p]).apply unit_ =
      if texts = (Scope.method signature).regions unit_ ∧ p.isAssertion = false then
        .error (.noEffect signature)
      else .ok ((Cut.ofUnit signature unit_).fill texts) := by
  rw [regions_method] at found patched ⊢
  rw [List.forall₂_map_left_iff] at patched
  have still : (Cut.ofUnit signature unit_).fill texts = unit_ ↔
      texts = (Cut.ofUnit signature unit_).parts.map Smali.Part.body := by
    constructor
    · intro h
      exact Smali.eq_bodies_of_fill (Smali.framed_ofUnit signature unit_) patched.length_eq.symm
        (h.trans (Cut.text_ofUnit signature unit_).symm)
    · rintro rfl
      rw [Cut.fill_bodies, Cut.text_ofUnit]
  simp only [apply_inMethod_ok (mt List.map_eq_nil_iff.mpr found) patched, still]

/-- How a pass fails: without a body, with the failure of its patcher on a body, or without an
effect on any. -/
theorem apply_pass_eq_error_iff : (inMethod signature [p]).apply unit_ = .error e ↔
    ((Scope.method signature).regions unit_ = [] ∧ e = .methodNotFound signature) ∨
      (∃ region cause, ComesTo p ((Scope.method signature).regions unit_) region ∧
        p.apply region = .error cause ∧ e = .inMethod signature cause) ∨
      (p.isAssertion = false ∧ (Scope.method signature).regions unit_ ≠ [] ∧
        (∀ region ∈ (Scope.method signature).regions unit_, p.apply region = .ok region) ∧
        e = .noEffect signature) := by
  constructor
  · intro h
    by_cases absent : (Scope.method signature).regions unit_ = []
    · rw [apply_pass_absent absent] at h
      exact .inl ⟨absent, (Except.error.inj h).symm⟩
    · refine .inr ?_
      rcases forall₂_or_comesTo p ((Scope.method signature).regions unit_) with
        ⟨news, patched⟩ | ⟨region, cause, comes, failed⟩
      · rw [apply_pass_patched absent patched] at h
        split_ifs at h with still
        obtain ⟨rfl, changes⟩ := still
        exact .inr ⟨changes, absent, List.forall₂_same.mp patched, (Except.error.inj h).symm⟩
      · rw [apply_pass_failed comes failed] at h
        exact .inl ⟨region, cause, comes, failed, (Except.error.inj h).symm⟩
  · rintro (⟨absent, rfl⟩ | ⟨region, cause, comes, failed, rfl⟩ | ⟨changes, found, still, rfl⟩)
    · exact apply_pass_absent absent
    · exact apply_pass_failed comes failed
    · rw [apply_pass_patched found (List.forall₂_same.mpr still), if_pos ⟨rfl, changes⟩]

/-- Patchers that are run on a method fail if and only if they come to a pass that does. -/
theorem apply_inMethod_eq_error_iff : (inMethod signature ps).apply unit_ = .error e ↔
    ∃ p next, Pass signature ps unit_ p next ∧ (inMethod signature [p]).apply next = .error e := by
  constructor
  · intro h
    induction ps generalizing unit_ with
    | nil => cases h
    | cons p rest ih =>
        rw [apply_inMethod_cons] at h
        rcases hp : (inMethod signature [p]).apply unit_ with e' | next
        · rw [hp] at h
          exact ⟨p, unit_, ⟨[], rest, rfl, rfl⟩, hp.trans h⟩
        · rw [hp] at h
          obtain ⟨q, last, ⟨before, behind, rfl, hbefore⟩, failed⟩ := ih h
          refine ⟨q, last, ⟨p :: before, behind, rfl, ?_⟩, failed⟩
          rw [apply_inMethod_cons, hp]
          exact hbefore
  · rintro ⟨p, next, ⟨before, behind, rfl, hbefore⟩, failed⟩
    rw [apply_inMethod_append, hbefore]
    change (inMethod signature (p :: behind)).apply next = _
    rw [apply_inMethod_cons, failed]
    rfl

/-! ## A pass over the lines that declare a constant -/

/-- The first failure on a line that declares the constant is the failure on all lines. -/
theorem patchLines_failed {lines : List Text}
    (comes : ComesTo p (lines.filter fun line => Smali.declares line identifier) region)
    (failed : p.apply region = .error e) :
    patchLines identifier p.apply lines = .error (.inConstant identifier e) := by
  obtain ⟨before, behind, split, done⟩ := comes
  induction lines generalizing before with
  | nil => simp at split
  | cons line rest ih =>
      rw [patchLines]
      by_cases declares : Smali.declares line identifier = true
      · rw [List.filter_cons, if_pos declares] at split
        rw [if_pos declares]
        rcases List.cons_eq_append_iff.mp split with ⟨rfl, h⟩ | ⟨before, rfl, later⟩
        · obtain ⟨rfl, -⟩ := List.cons.inj h
          rw [failed]
          rfl
        · obtain ⟨⟨line', first⟩, others⟩ := List.forall_mem_cons.mp done
          rw [first, ih before later others]
          rfl
      · rw [List.filter_cons, if_neg declares] at split
        rw [if_neg declares, ih before split done]
        rfl

theorem exists_patchLines {lines : List Text}
    (patched : ∀ line ∈ lines.filter fun line => Smali.declares line identifier,
      ∃ line', p.apply line = .ok line') :
    ∃ news, patchLines identifier p.apply lines = .ok news := by
  induction lines with
  | nil => exact ⟨[], rfl⟩
  | cons line rest ih =>
      rw [patchLines]
      by_cases declares : Smali.declares line identifier = true
      · rw [List.filter_cons, if_pos declares, List.forall_mem_cons] at patched
        obtain ⟨⟨line', first⟩, others⟩ := patched
        obtain ⟨news, h⟩ := ih others
        rw [if_pos declares, first, h]
        exact ⟨line' :: news, rfl⟩
      · rw [List.filter_cons, if_neg declares] at patched
        obtain ⟨news, h⟩ := ih patched
        rw [if_neg declares, h]
        exact ⟨line :: news, rfl⟩

theorem any_declares_iff : ((unit_.split '\n').any fun line => Smali.declares line identifier) =
    true ↔ (Scope.constant identifier).regions unit_ ≠ [] := by
  simp [Scope.regions]

theorem apply_inConstant_absent (absent : (Scope.constant identifier).regions unit_ = []) :
    (inConstant identifier p).apply unit_ = .error (.constantNotFound identifier) := by
  rw [apply, constantPass, if_neg fun found => any_declares_iff.mp found absent]

theorem apply_inConstant_failed
    (comes : ComesTo p ((Scope.constant identifier).regions unit_) region)
    (failed : p.apply region = .error e) :
    (inConstant identifier p).apply unit_ = .error (.inConstant identifier e) := by
  have found : (Scope.constant identifier).regions unit_ ≠ [] := by
    obtain ⟨before, behind, split, -⟩ := comes
    simp [split]
  rw [apply, constantPass, if_pos (any_declares_iff.mpr found), patchLines_failed comes failed]
  rfl

/-- A patcher succeeds on the declarations of a constant if there are any and it succeeds on each of
them. -/
theorem exists_apply_inConstant (found : (Scope.constant identifier).regions unit_ ≠ [])
    (patched : ∀ line ∈ (Scope.constant identifier).regions unit_,
      ∃ line', p.apply line = .ok line') :
    ∃ result, (inConstant identifier p).apply unit_ = .ok result := by
  obtain ⟨news, h⟩ := exists_patchLines patched
  rw [apply, constantPass, if_pos (any_declares_iff.mpr found), h]
  exact ⟨_, rfl⟩

/-- How a patcher fails on the declarations of a constant: without any, or with its failure on
one. -/
theorem apply_inConstant_eq_error_iff : (inConstant identifier p).apply unit_ = .error e ↔
    ((Scope.constant identifier).regions unit_ = [] ∧ e = .constantNotFound identifier) ∨
      ∃ region cause, ComesTo p ((Scope.constant identifier).regions unit_) region ∧
        p.apply region = .error cause ∧ e = .inConstant identifier cause := by
  constructor
  · intro h
    by_cases absent : (Scope.constant identifier).regions unit_ = []
    · rw [apply_inConstant_absent absent] at h
      exact .inl ⟨absent, (Except.error.inj h).symm⟩
    · rcases forall₂_or_comesTo p ((Scope.constant identifier).regions unit_) with
        ⟨news, patched⟩ | ⟨region, cause, comes, failed⟩
      · obtain ⟨result, ok⟩ := exists_apply_inConstant absent fun line hline =>
          let ⟨line', _, h⟩ := exists_of_mem_left patched hline
          ⟨line', h⟩
        cases ok.symm.trans h
      · rw [apply_inConstant_failed comes failed] at h
        exact .inr ⟨region, cause, comes, failed, (Except.error.inj h).symm⟩
  · rintro (⟨absent, rfl⟩ | ⟨region, cause, comes, failed, rfl⟩)
    · exact apply_inConstant_absent absent
    · exact apply_inConstant_failed comes failed

/-! ## The part that fails -/

/-- A failure is that of a part, in the scopes on the way to it. -/
theorem exists_reached (p : Patcher) {unit_ : Text} {e : Error} (h : p.apply unit_ = .error e) :
    ∃ q t scopes cause, Reached q t scopes p unit_ ∧ Fails q t cause ∧
      e = scopes.foldr Scope.wrap cause := by
  match p with
  | replaceText find replacement =>
      rw [apply] at h
      split_ifs at h with found
      cases h
      exact ⟨_, _, [], _, .self, .replaceText replacement (Bool.eq_false_iff.mpr found), rfl⟩
  | replacePattern pattern replacement isLiteral =>
      rw [apply] at h
      split_ifs at h with found
      cases h
      exact ⟨_, _, [], _, .self,
        .replacePattern replacement isLiteral (Bool.eq_false_iff.mpr found), rfl⟩
  | require text =>
      rw [apply] at h
      split_ifs at h with found
      cases h
      exact ⟨_, _, [], _, .self, .require (Bool.eq_false_iff.mpr found), rfl⟩
  | append text => cases h
  | overwrite text => cases h
  | inMethod signature patchers =>
      obtain ⟨q, next, pass, stopped⟩ := apply_inMethod_eq_error_iff.mp h
      -- what the recursion below ends by: the patcher of a pass is one of the list
      have member : q ∈ patchers := pass.mem
      rcases apply_pass_eq_error_iff.mp stopped with
        ⟨absent, rfl⟩ | ⟨region, inner, comes, failed, rfl⟩ | ⟨changes, found, still, rfl⟩
      · exact ⟨_, _, [], _, .self, .methodNotFound pass absent, rfl⟩
      · obtain ⟨q', t, scopes, cause, reached, fails, rfl⟩ := exists_reached q failed
        exact ⟨q', t, .method signature :: scopes, cause, .inMethod pass comes reached, fails, rfl⟩
      · exact ⟨_, _, [], _, .self, .noEffect pass changes found still, rfl⟩
  | inConstant identifier q =>
      rcases apply_inConstant_eq_error_iff.mp h with
        ⟨absent, rfl⟩ | ⟨region, inner, comes, failed, rfl⟩
      · exact ⟨_, _, [], _, .self, .constantNotFound q absent, rfl⟩
      · obtain ⟨q', t, scopes, cause, reached, fails, rfl⟩ := exists_reached q failed
        exact ⟨q', t, .constant identifier :: scopes, cause, .inConstant comes reached, fails, rfl⟩
  | custom transform => exact ⟨_, _, [], _, .self, .custom h, rfl⟩
termination_by sizeOf p

end PatchTrail.Patcher
