import Mathlib.Data.List.Forall2
import PatchTrail.Patcher.Basic
import PatchTrail.Smali.Rewriting

/-!
# Patching a method is a splice

A patcher that is run on the bodies of a method leaves all that is outside of them as it is and puts
its results in the places of the bodies (`Patcher.inMethod_splices`). The positions of the bodies
are those in the old unit. They can be used nevertheless, since what is replaced stands behind
everything that is still to be replaced (`Smali.Cut.replaceBodies?_text`).
-/

namespace PatchTrail

namespace Smali.Cut

variable {signature : Text}

/-! ## Cutting at bodies -/

@[simp] theorem text_prepend (t : Text) (c : Cut) : (c.prepend t).text = t ++ c.text := by
  simp [text, prepend]

@[simp] theorem fill_prepend (t : Text) (c : Cut) (texts : List Text) :
    (c.prepend t).fill texts = t ++ c.fill texts := by
  simp [fill, prepend]

/-- With each body in its own place a unit is what it was. -/
theorem fill_bodies (c : Cut) : c.fill (c.parts.map Part.body) = c.text := by
  have parts : List.zipWith (fun t p => t ++ p.gap) (c.parts.map Part.body) c.parts =
      c.parts.map fun p => p.body ++ p.gap := by
    simp [List.zipWith_map_left, List.zipWith_self]
  rw [fill, parts, text, List.flatMap]

/-- Nothing is lost by cutting. -/
theorem text_ofSegments (signature : Text) (segments : List Segment) :
    (ofSegments signature segments).text = segments.flatMap Segment.text := by
  induction segments with
  | nil => rfl
  | cons segment rest ih =>
    rcases segment with t | ⟨s, t⟩
    · simp [ofSegments, Segment.text, ih]
    · by_cases hs : s = signature
      · simp [ofSegments, hs, Segment.text, ← ih, text]
      · simp [ofSegments, hs, Segment.text, ih]

/-- The bodies at which a unit is cut are those with the signature. -/
theorem bodiesFrom_ofSegments (segments : List Segment) (offset : Nat) :
    bodiesFrom signature (offset + (ofSegments signature segments).front.size)
        (ofSegments signature segments).parts =
      Smali.bodiesFrom signature offset segments := by
  induction segments generalizing offset with
  | nil => rfl
  | cons segment rest ih =>
    rcases segment with t | ⟨s, t⟩
    · simp [ofSegments, prepend, Smali.bodiesFrom, ← ih, Nat.add_assoc]
    · by_cases hs : s = signature
      · simp [ofSegments, hs, bodiesFrom, Smali.bodiesFrom, ← ih]
      · simp [ofSegments, hs, prepend, Smali.bodiesFrom, ← ih, Nat.add_assoc]

theorem text_ofUnit (signature unit_ : Text) : (ofUnit signature unit_).text = unit_ :=
  (text_ofSegments signature (segments unit_)).trans (flatten_segments unit_)

theorem bodies_ofUnit (signature unit_ : Text) :
    (ofUnit signature unit_).bodies signature = Smali.bodies unit_ signature := by
  rw [bodies, ← Nat.zero_add (Text.size _)]
  exact bodiesFrom_ofSegments (segments unit_) 0

theorem map_text_bodiesFrom (offset : Nat) (parts : List Part) :
    (bodiesFrom signature offset parts).map Body.text = parts.map Part.body := by
  induction parts generalizing offset with
  | nil => rfl
  | cons p rest ih => simp [bodiesFrom, ih]

theorem map_body_ofUnit (signature unit_ : Text) :
    (ofUnit signature unit_).parts.map Part.body =
      (Smali.bodies unit_ signature).map Body.text := by
  rw [← bodies_ofUnit, bodies, map_text_bodiesFrom]

/-! ## Replacing by position -/

/-- Texts put in the places of the bodies one after the other, the last first, are put there all at
once. -/
theorem replaceBodies?_text (c : Cut) {texts : List Text} (h : texts.length = c.parts.length) :
    replaceBodies? c.text (c.bodies signature) texts = some (c.fill texts) := by
  obtain ⟨front, parts⟩ := c
  induction parts generalizing front texts with
  | nil => simp [bodies, bodiesFrom, replaceBodies?, text, fill]
  | cons p rest ih =>
    obtain _ | ⟨t, texts⟩ := texts
    · simp at h
    -- for the bodies behind it, the first body belongs to the text in front
    have length : texts.length = rest.length := by simpa using h
    have behind := ih (front ++ p.body ++ p.gap) length
    have same : (Cut.mk (front ++ p.body ++ p.gap) rest).text =
        (Cut.mk front (p :: rest)).text := by
      simp [text]
    rw [same] at behind
    have start : (front ++ p.body ++ p.gap).size = front.size + p.body.size + p.gap.size := by
      rw [Text.size_append, Text.size_append]
    rw [bodies, start] at behind
    have old : (Cut.mk (front ++ p.body ++ p.gap) rest).fill texts =
        front ++ p.body ++ (Cut.mk p.gap rest).fill texts := by
      simp [fill]
    have new : (Cut.mk front (p :: rest)).fill (t :: texts) =
        front ++ t ++ (Cut.mk p.gap rest).fill texts := by
      simp [fill]
    rw [bodies, bodiesFrom, replaceBodies?, behind, old, new]
    exact Text.replaceRange?_append front p.body _ t

end Smali.Cut

namespace Patcher

open Smali (Cut)

variable {signature : Text} {transform : Text → Except Error Text} {segments : List Smali.Segment}

/-! ## Running a transformation on the bodies -/

theorem any_isBodyOf_iff :
    segments.any (isBodyOf signature) = true ↔ (Cut.ofSegments signature segments).parts ≠ [] := by
  induction segments with
  | nil => simp [Cut.ofSegments]
  | cons segment rest ih =>
    rcases segment with t | ⟨s, t⟩
    · simpa [Cut.ofSegments, Cut.prepend, isBodyOf] using ih
    · by_cases hs : s = signature
      · simp [Cut.ofSegments, isBodyOf, hs]
      · simpa [Cut.ofSegments, Cut.prepend, isBodyOf, hs] using ih

/-- What comes of the bodies stands between the gaps. -/
theorem spliceSegments_ok {texts : List Text}
    (h : List.Forall₂ (fun p t => transform p.body = .ok t)
      (Cut.ofSegments signature segments).parts texts) :
    spliceSegments signature transform segments =
      .ok ((Cut.ofSegments signature segments).fill texts) := by
  induction segments generalizing texts with
  | nil => simp [spliceSegments, Cut.ofSegments, Cut.fill]
  | cons segment rest ih =>
    rcases segment with t | ⟨s, t⟩
    · rw [spliceSegments, ih h]
      simp [Cut.ofSegments]
    · by_cases hs : s = signature
      · rw [Cut.ofSegments, if_pos hs] at h ⊢
        obtain ⟨t', texts, first, others, rfl⟩ := List.forall₂_cons_left_iff.mp h
        rw [spliceSegments, if_pos hs, first, ih others]
        simp [Cut.fill]
      · rw [Cut.ofSegments, if_neg hs] at h ⊢
        rw [spliceSegments, if_neg hs, ih h, Cut.fill_prepend]
        rfl

/-- The first failure on a body is the failure on the unit. -/
theorem spliceSegments_error {before behind : List Smali.Part} {p : Smali.Part} {e : Error}
    (parts : (Cut.ofSegments signature segments).parts = before ++ p :: behind)
    (done : ∀ q ∈ before, ∃ t, transform q.body = .ok t) (failed : transform p.body = .error e) :
    spliceSegments signature transform segments = .error (.inMethod signature e) := by
  induction segments generalizing before with
  | nil => simp [Cut.ofSegments] at parts
  | cons segment rest ih =>
    rcases segment with t | ⟨s, t⟩
    · rw [spliceSegments, ih parts done]
      rfl
    · by_cases hs : s = signature
      · rw [Cut.ofSegments, if_pos hs] at parts
        rw [spliceSegments, if_pos hs]
        obtain _ | ⟨q, before⟩ := before
        · obtain ⟨rfl, -⟩ := List.cons.inj parts
          rw [failed]
          rfl
        · obtain ⟨rfl, later⟩ := List.cons.inj parts
          obtain ⟨⟨t', first⟩, others⟩ := List.forall_mem_cons.mp done
          rw [first, ih later others]
          rfl
      · rw [Cut.ofSegments, if_neg hs] at parts
        rw [spliceSegments, if_neg hs, ih parts done]
        rfl

/-! ## One pass -/

section

variable {p : Patcher} {unit_ : Text}

theorem apply_inMethod_singleton (signature : Text) (p : Patcher) (unit_ : Text) :
    (inMethod signature [p]).apply unit_ =
      methodPass signature p.apply p.isAssertion unit_ := by
  simp only [apply, apply.passes]
  exact bind_pure _

theorem apply_inMethod_none (h : (Cut.ofUnit signature unit_).parts = []) :
    (inMethod signature [p]).apply unit_ = .error (.methodNotFound signature) := by
  rw [apply_inMethod_singleton, methodPass, if_neg fun found => any_isBodyOf_iff.mp found h]

theorem apply_inMethod_error {before behind : List Smali.Part} {part : Smali.Part} {e : Error}
    (parts : (Cut.ofUnit signature unit_).parts = before ++ part :: behind)
    (done : ∀ q ∈ before, ∃ t, p.apply q.body = .ok t) (failed : p.apply part.body = .error e) :
    (inMethod signature [p]).apply unit_ = .error (.inMethod signature e) := by
  have found : (Smali.segments unit_).any (isBodyOf signature) = true :=
    any_isBodyOf_iff.mpr fun none_ => by simp [Cut.ofUnit, none_] at parts
  rw [apply_inMethod_singleton, methodPass, if_pos found, spliceSegments_error parts done failed]
  rfl

theorem apply_inMethod_ok {texts : List Text} (h : (Cut.ofUnit signature unit_).parts ≠ [])
    (patched : List.Forall₂ (fun q t => p.apply q.body = .ok t)
      (Cut.ofUnit signature unit_).parts texts) :
    (inMethod signature [p]).apply unit_ =
      if (Cut.ofUnit signature unit_).fill texts = unit_ ∧ p.isAssertion = false then
        .error (.noEffect signature)
      else .ok ((Cut.ofUnit signature unit_).fill texts) := by
  rw [apply_inMethod_singleton, methodPass, if_pos (any_isBodyOf_iff.mpr h),
    spliceSegments_ok patched]
  rfl

end

/-- What one pass over the bodies of a method does. The unit is cut at the bodies, whose positions
are those at which they are found. Without a body the method is not found; the first body on which
the patcher fails ends the pass with its failure; else each body is replaced by what the patcher
makes of it and all else is kept, and this is also what comes of replacing the bodies by their
positions in the old unit, the last first, no position of which falls into a character. -/
theorem inMethod_splices (unit_ signature : Text) (p : Patcher) :
    ∃ c : Cut, c.text = unit_ ∧ c.bodies signature = Smali.bodies unit_ signature ∧
      (c.parts = [] → (inMethod signature [p]).apply unit_ = .error (.methodNotFound signature)) ∧
      (∀ before part behind e, c.parts = before ++ part :: behind →
        (∀ q ∈ before, ∃ t, p.apply q.body = .ok t) → p.apply part.body = .error e →
        (inMethod signature [p]).apply unit_ = .error (.inMethod signature e)) ∧
      ∀ texts, c.parts ≠ [] → List.Forall₂ (fun q t => p.apply q.body = .ok t) c.parts texts →
        Smali.replaceBodies? unit_ (Smali.bodies unit_ signature) texts = some (c.fill texts) ∧
        (inMethod signature [p]).apply unit_ =
          if c.fill texts = unit_ ∧ p.isAssertion = false then .error (.noEffect signature)
          else .ok (c.fill texts) := by
  refine ⟨Cut.ofUnit signature unit_, Cut.text_ofUnit signature unit_,
    Cut.bodies_ofUnit signature unit_, apply_inMethod_none,
    fun _ _ _ _ parts done failed => apply_inMethod_error parts done failed, ?_⟩
  intro texts some_ patched
  refine ⟨?_, apply_inMethod_ok some_ patched⟩
  have replaced : Smali.replaceBodies? (Cut.ofUnit signature unit_).text
      ((Cut.ofUnit signature unit_).bodies signature) texts = _ :=
    Cut.replaceBodies?_text _ patched.length_eq.symm
  rwa [Cut.text_ofUnit, Cut.bodies_ofUnit] at replaced

end Patcher

end PatchTrail
