import PatchTrail.Proofs.Smali.Rescanning

/-!
# Patching different methods in either order

What patchers do to a method depends on its bodies alone, as long as every body that they put in
place is whole (`Patcher.exists_rewriting`): on any other unit with these bodies they succeed too
and rewrite the bodies in the same way. Patching a method leaves the bodies of all others alone, so
patchers of two methods can be run in either order (`Patcher.inMethod_comm`).
-/

namespace PatchTrail

namespace Smali

variable {signature s t : Text} {g g' : Text → Text}

theorem mapBody_only_comp (piece : Segment) :
    (piece.mapBody (only signature g)).mapBody (only signature g') =
      piece.mapBody (only signature (g' ∘ g)) := by
  rcases piece with x | ⟨s, x⟩
  · rfl
  · by_cases hs : s = signature <;> simp [Segment.mapBody, only, hs]

theorem mapBody_only_id (piece : Segment) : piece.mapBody (only signature id) = piece := by
  rcases piece with x | ⟨s, x⟩ <;> simp [Segment.mapBody, only]

theorem mapBody_only_comm (apart : s ≠ t) (piece : Segment) :
    (piece.mapBody (only s g)).mapBody (only t g') =
      (piece.mapBody (only t g')).mapBody (only s g) := by
  rcases piece with x | ⟨r, x⟩
  · rfl
  · by_cases hs : r = s
    · subst hs
      simp [Segment.mapBody, only, apart]
    · simp [Segment.mapBody, only, hs]

/-- Of the method that has been rewritten there are the new bodies, of any other the old ones. -/
theorem map_text_rewrite_only {unit_ : Text}
    (whole : ∀ b ∈ bodies unit_ signature, Whole (g b.text)) (s : Text) :
    (bodies (rewrite (only signature g) unit_) s).map Body.text =
      ((bodies unit_ s).map Body.text).map (only signature g s) := by
  rw [bodies_rewrite_only whole, map_text_mapBody _ _ 0, List.map_map]
  rfl

/-- Rewriting the bodies of one method leaves those of any other alone. -/
theorem map_text_of_segments {unit_ unit' : Text}
    (h : segments unit' = (segments unit_).map (Segment.mapBody (only signature g)))
    (apart : s ≠ signature) :
    (bodies unit' s).map Body.text = (bodies unit_ s).map Body.text := by
  rw [bodies, h, map_text_mapBody _ _ 0]
  simp [only, apart, bodies]

end Smali

namespace Patcher

open Smali (Body Segment Whole bodies only rewrite segments)

variable {signature s t unit_ result : Text} {ps qs : List Patcher}

theorem forall_bodies_of_same {unit' : Text} (P : Text → Prop)
    (same : (bodies unit' signature).map Body.text = (bodies unit_ signature).map Body.text)
    (h : ∀ b ∈ bodies unit_ signature, P b.text) : ∀ b ∈ bodies unit' signature, P b.text := by
  rw [← List.forall_mem_map (f := Body.text) (P := P)] at h ⊢
  rwa [same]

/-- A patcher that succeeds with whole bodies on a unit succeeds on every unit with the same bodies
of the method. -/
theorem apply_inMethod_of_same {p : Patcher} {unit' : Text}
    (h : (inMethod signature [p]).apply unit_ = .ok result)
    (whole : ∀ b ∈ bodies unit_ signature, Whole (p.made b.text))
    (same : (bodies unit' signature).map Body.text = (bodies unit_ signature).map Body.text) :
    (inMethod signature [p]).apply unit' = .ok (rewrite (only signature p.made) unit') := by
  obtain ⟨found, patched, rfl, changed⟩ := apply_inMethod_eq_ok_iff.mp h
  have patched' := forall_bodies_of_same (fun x => p.apply x = .ok (p.made x)) same patched
  refine apply_inMethod_eq_ok_iff.mpr
    ⟨fun none_ => found ?_, patched', rfl, fun changes still => ?_⟩
  · rw [none_] at same
    exact List.map_eq_nil_iff.mp same.symm
  · -- if the other unit did not change, none of its bodies did, and they are those of this unit
    have whole' := forall_bodies_of_same (fun x => Whole (p.made x)) same whole
    have texts := Smali.map_text_rewrite_only whole' signature
    rw [still, same, List.map_map] at texts
    refine changed changes (Smali.rewrite_only_eq_self fun b hb => ?_)
    simpa [only] using (List.map_inj_left.mp texts b hb).symm

/-- Whatever succeeds with whole bodies on a unit succeeds on every unit with the same bodies of the
method, and it rewrites them alike. -/
theorem exists_rewriting (h : (inMethod signature ps).apply unit_ = .ok result)
    (whole : ∀ x ∈ yields signature ps unit_, Whole x) :
    ∃ g : Text → Text, ∀ unit', (bodies unit' signature).map Body.text =
        (bodies unit_ signature).map Body.text →
      ∃ result', (inMethod signature ps).apply unit' = .ok result' ∧
        segments result' = (segments unit').map (Segment.mapBody (only signature g)) := by
  induction ps generalizing unit_ with
  | nil =>
      refine ⟨id, fun unit' _ => ⟨unit', rfl, ?_⟩⟩
      rw [List.map_congr_left fun piece _ => Smali.mapBody_only_id piece, List.map_id']
  | cons p rest ih =>
      rw [apply_inMethod_cons] at h
      obtain ⟨next, hnext, hrest⟩ := bind_eq_ok_iff.mp h
      rw [yields_cons hnext] at whole
      obtain ⟨first, others⟩ := List.forall_mem_append.mp whole
      rw [List.forall_mem_map] at first
      obtain ⟨-, -, rfl, -⟩ := apply_inMethod_eq_ok_iff.mp hnext
      obtain ⟨g, hg⟩ := ih hrest others
      refine ⟨g ∘ p.made, fun unit' same => ?_⟩
      have first' := forall_bodies_of_same (fun x => Whole (p.made x)) same first
      obtain ⟨result', hresult', hsegments⟩ := hg (rewrite (only signature p.made) unit') (by
        rw [Smali.map_text_rewrite_only first', Smali.map_text_rewrite_only first, same])
      refine ⟨result', ?_, ?_⟩
      · rw [apply_inMethod_cons]
        exact bind_eq_ok_iff.mpr ⟨_, apply_inMethod_of_same hnext first same, hresult'⟩
      · rw [hsegments, Smali.segments_rewrite_only first', List.map_map]
        exact List.map_congr_left fun piece _ => Smali.mapBody_only_comp piece

/-- Patchers of two methods can be run in either order, as long as every body that they put in place
is whole. -/
theorem inMethod_comm {between : Text} (apart : s ≠ t)
    (first : (inMethod s ps).apply unit_ = .ok between)
    (second : (inMethod t qs).apply between = .ok result)
    (whole : ∀ x ∈ yields s ps unit_ ++ yields t qs between, Whole x) :
    ∃ between', (inMethod t qs).apply unit_ = .ok between' ∧
      (inMethod s ps).apply between' = .ok result := by
  obtain ⟨wholeFirst, wholeSecond⟩ := List.forall_mem_append.mp whole
  obtain ⟨g, hg⟩ := exists_rewriting first wholeFirst
  obtain ⟨g', hg'⟩ := exists_rewriting second wholeSecond
  obtain ⟨x, hx, hbetween⟩ := hg unit_ rfl
  cases hx.symm.trans first
  obtain ⟨x, hx, hresult⟩ := hg' between rfl
  cases hx.symm.trans second
  -- the second patchers on the unit, then the first on what they leave
  have same := Smali.map_text_of_segments hbetween apart.symm
  obtain ⟨between', hsecond, hbetween'⟩ := hg' unit_ same.symm
  have same' := Smali.map_text_of_segments hbetween' apart
  obtain ⟨result', hfirst, hresult'⟩ := hg between' same'
  have equal : segments result' = segments result := by
    rw [hresult', hbetween', hresult, hbetween, List.map_map, List.map_map]
    exact List.map_congr_left fun piece _ => Smali.mapBody_only_comm apart.symm piece
  have equal : result' = result := by
    rw [← Smali.flatten_segments result', equal, Smali.flatten_segments]
  exact ⟨between', hsecond, equal ▸ hfirst⟩

/-- Two patchers for each of two methods; one of them only checks. -/
theorem inMethod_comm_longer :
    (inMethod "f" [replaceText "a" "b\nc", append "d\n"]).apply
        (threeBodies "a\n" "x\n" "é\na\n") =
      .ok (threeBodies "b\nc\nd\n" "x\n" "é\nb\nc\nd\n") ∧
    (inMethod "g" [require "x", replaceText "x" "y"]).apply
        (threeBodies "b\nc\nd\n" "x\n" "é\nb\nc\nd\n") =
      .ok (threeBodies "b\nc\nd\n" "y\n" "é\nb\nc\nd\n") ∧
    (∀ x ∈ yields "f" [replaceText "a" "b\nc", append "d\n"]
          (threeBodies "a\n" "x\n" "é\na\n") ++
        yields "g" [require "x", replaceText "x" "y"]
          (threeBodies "b\nc\nd\n" "x\n" "é\nb\nc\nd\n"), Whole x) ∧
    ∃ between', (inMethod "g" [require "x", replaceText "x" "y"]).apply
        (threeBodies "a\n" "x\n" "é\na\n") = .ok between' ∧
      (inMethod "f" [replaceText "a" "b\nc", append "d\n"]).apply between' =
        .ok (threeBodies "b\nc\nd\n" "y\n" "é\nb\nc\nd\n") := by
  have first : (inMethod "f" [replaceText "a" "b\nc", append "d\n"]).apply
      (threeBodies "a\n" "x\n" "é\na\n") =
        .ok (threeBodies "b\nc\nd\n" "x\n" "é\nb\nc\nd\n") := rfl
  have second : (inMethod "g" [require "x", replaceText "x" "y"]).apply
      (threeBodies "b\nc\nd\n" "x\n" "é\nb\nc\nd\n") =
        .ok (threeBodies "b\nc\nd\n" "y\n" "é\nb\nc\nd\n") := rfl
  have whole : ∀ x ∈ yields "f" [replaceText "a" "b\nc", append "d\n"]
        (threeBodies "a\n" "x\n" "é\na\n") ++
      yields "g" [require "x", replaceText "x" "y"]
        (threeBodies "b\nc\nd\n" "x\n" "é\nb\nc\nd\n"), Whole x := by decide
  exact ⟨first, second, whole, inMethod_comm (by decide) first second whole⟩

end Patcher

end PatchTrail
