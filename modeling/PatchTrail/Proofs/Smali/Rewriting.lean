import PatchTrail.Proofs.Except
import PatchTrail.Proofs.Smali.Splicing
import PatchTrail.Smali.Rewriting

/-!
# Running patchers on a method rewrites its bodies

One patcher that is run on a method makes of a unit the unit with the bodies of the method rewritten
(`Patcher.apply_inMethod_eq_ok_iff`), and several are run one after the other
(`Patcher.apply_inMethod_cons`), each on the bodies that the one before has left.
-/

namespace PatchTrail

namespace Smali

variable {f : Text → Text → Text} {g : Text → Text} {signature s t : Text} {pieces : List Segment}

theorem rewritten_betweenAll_append (lines : List Text) (pieces : List Segment) :
    rewritten f (betweenAll lines ++ pieces) = lines.flatten ++ rewritten f pieces := by
  induction lines with
  | nil => rfl
  | cons line lines ih =>
      change line ++ rewritten f (betweenAll lines ++ pieces) = _
      rw [ih, List.flatten_cons, List.append_assoc]

theorem rewritten_betweenAll (lines : List Text) :
    rewritten f (betweenAll lines) = lines.flatten := by
  simpa [rewritten] using rewritten_betweenAll_append (f := f) lines []

theorem rewritten_between (t : Text) (pieces : List Segment) :
    rewritten f (.between t :: pieces) = t ++ rewritten f pieces := rfl

theorem rewritten_body (s t : Text) (pieces : List Segment) :
    rewritten f (.body s t :: pieces) = f s t ++ rewritten f pieces := rfl

/-- Rewriting the bodies with a signature puts what is made of each in its place. -/
theorem Cut.fill_map (g : Text → Text) (pieces : List Segment) :
    (ofSegments signature pieces).fill ((ofSegments signature pieces).parts.map fun p => g p.body) =
      rewritten (only signature g) pieces := by
  induction pieces with
  | nil => rfl
  | cons piece rest ih =>
      rcases piece with t | ⟨s, t⟩
      · rw [rewritten_between, ← ih, ofSegments, fill_prepend]
        rfl
      · rw [rewritten_body, ← ih, ofSegments, only]
        by_cases hs : s = signature
        · simp [hs, fill]
        · rw [if_neg hs, if_neg hs, fill_prepend]
          rfl

/-- Where nothing is made of the bodies but what they are, a unit stays what it is. -/
theorem rewritten_eq_of_forall (h : ∀ s t, .body s t ∈ pieces → f s t = t) :
    rewritten f pieces = pieces.flatMap Segment.text := by
  rw [rewritten, List.flatMap_map]
  refine List.flatMap_congr fun piece hpiece => ?_
  rcases piece with t | ⟨s, t⟩
  · rfl
  · exact h s t hpiece

theorem exists_bodiesFrom_iff (offset : Nat) :
    (∃ b ∈ bodiesFrom s offset pieces, b.text = t) ↔ .body s t ∈ pieces := by
  induction pieces generalizing offset with
  | nil => simp [bodiesFrom]
  | cons piece rest ih =>
      rcases piece with t' | ⟨s', t'⟩
      · simp [bodiesFrom, ih]
      · by_cases hs : s' = s
        · simp [bodiesFrom, hs, ih, @eq_comm _ t t']
        · simp [bodiesFrom, hs, ih, Ne.symm hs]

/-- The bodies of a unit are found among its segments. -/
theorem exists_bodies_iff {unit_ : Text} :
    (∃ b ∈ bodies unit_ s, b.text = t) ↔ .body s t ∈ segments unit_ := exists_bodiesFrom_iff 0

theorem forall_bodies_iff {unit_ : Text} (P : Text → Prop) :
    (∀ b ∈ bodies unit_ s, P b.text) ↔ ∀ t, .body s t ∈ segments unit_ → P t := by
  simp only [← exists_bodies_iff, forall_exists_index, and_imp, forall_apply_eq_imp_iff₂]

/-- A unit in which no body of a method has become another is what it was. -/
theorem rewrite_only_eq_self {unit_ : Text} (h : ∀ b ∈ bodies unit_ signature, g b.text = b.text) :
    rewrite (only signature g) unit_ = unit_ := by
  refine (rewritten_eq_of_forall fun s t ht => ?_).trans (flatten_segments unit_)
  unfold only
  split
  · next hs => exact (forall_bodies_iff fun t => g t = t).mp h t (hs ▸ ht)
  · rfl

end Smali

namespace Patcher

open Smali (Cut bodies rewrite only)

variable {signature unit_ result : Text} {p : Patcher} {rest : List Patcher}

/-- What a patcher makes of a text, or the text itself if it fails. -/
def made (p : Patcher) (t : Text) : Text := (p.apply t).toOption.getD t

theorem made_eq {t t' : Text} (h : p.apply t = .ok t') : p.made t = t' := by
  rw [made, h]
  rfl

/-- The texts that patchers make of the bodies of a method, pass by pass. -/
def yields (signature : Text) : List Patcher → Text → List Text
  | [], _ => []
  | p :: rest, unit_ =>
    (bodies unit_ signature).filterMap (fun b => (p.apply b.text).toOption) ++
      match (inMethod signature [p]).apply unit_ with
      | .ok result => yields signature rest result
      | .error _ => []

/-- If a patcher succeeds on each body of a method, what is made of the bodies takes their places,
which has to be a change unless the patcher only checks. -/
theorem apply_inMethod_of_patched (found : bodies unit_ signature ≠ [])
    (patched : ∀ b ∈ bodies unit_ signature, p.apply b.text = .ok (p.made b.text)) :
    (inMethod signature [p]).apply unit_ =
      if rewrite (only signature p.made) unit_ = unit_ ∧ p.isAssertion = false then
        .error (.noEffect signature)
      else .ok (rewrite (only signature p.made) unit_) := by
  have parts : (Cut.ofUnit signature unit_).parts ≠ [] := fun none_ => found (by
    rw [← List.map_eq_nil_iff, ← Cut.map_body_ofUnit, none_, List.map_nil])
  rw [← List.forall_mem_map (f := Smali.Body.text) (P := fun t => p.apply t = .ok (p.made t)),
    ← Cut.map_body_ofUnit, List.forall_mem_map] at patched
  have texts := apply_inMethod_ok parts
    (List.forall₂_map_right_iff.mpr (List.forall₂_same.mpr patched))
  rwa [Cut.ofUnit, Cut.fill_map] at texts

/-- A patcher succeeds on each body of a method, or else the method is not there or the failure of
the patcher on one of the bodies is reported. -/
theorem patched_or_error (signature : Text) (p : Patcher) (unit_ : Text) :
    (bodies unit_ signature ≠ [] ∧
        ∀ b ∈ bodies unit_ signature, p.apply b.text = .ok (p.made b.text)) ∨
      (inMethod signature [p]).apply unit_ = .error (.methodNotFound signature) ∨
        ∃ e, (inMethod signature [p]).apply unit_ = .error (.inMethod signature e) := by
  have texts := Cut.map_body_ofUnit signature unit_
  by_cases parts : (Cut.ofUnit signature unit_).parts = []
  · exact .inr (.inl (apply_inMethod_none parts))
  · rcases forall₂_or_first_error (fun q : Smali.Part => p.apply q.body)
        (Cut.ofUnit signature unit_).parts with
      ⟨made, patched⟩ | ⟨before, part, behind, e, hparts, done, failed⟩
    · refine .inl ⟨fun none_ => parts ?_, ?_⟩
      · rwa [none_, List.map_nil, List.map_eq_nil_iff] at texts
      · rw [← List.forall_mem_map (f := Smali.Body.text) (P := fun t => p.apply t = .ok (p.made t)),
          ← texts, List.forall_mem_map]
        intro q hq
        obtain ⟨t, -, ht⟩ := exists_of_mem_left patched hq
        rw [made_eq ht, ht]
    · exact .inr (.inr ⟨e, apply_inMethod_error hparts done failed⟩)

/-- One patcher is run on a method with success if and only if the method is there, the patcher
succeeds on each of its bodies, and the unit changes unless the patcher only checks. -/
theorem apply_inMethod_eq_ok_iff :
    (inMethod signature [p]).apply unit_ = .ok result ↔
      bodies unit_ signature ≠ [] ∧
        (∀ b ∈ bodies unit_ signature, p.apply b.text = .ok (p.made b.text)) ∧
        result = rewrite (only signature p.made) unit_ ∧
        (p.isAssertion = false → result ≠ unit_) := by
  constructor
  · intro h
    rcases patched_or_error signature p unit_ with ⟨found, patched⟩ | none_ | ⟨e, failed⟩
    · rw [apply_inMethod_of_patched found patched] at h
      split_ifs at h with same
      cases h
      exact ⟨found, patched, rfl, fun changes still => same ⟨still, changes⟩⟩
    · cases none_.symm.trans h
    · cases failed.symm.trans h
  · rintro ⟨found, patched, rfl, changed⟩
    rw [apply_inMethod_of_patched found patched, if_neg fun h => changed h.2 h.1]

/-- One patcher that is run on a method is without effect if and only if it does not only check, the
method is there, the patcher succeeds on each of its bodies, and the unit is what it was. -/
theorem apply_inMethod_eq_noEffect_iff :
    (inMethod signature [p]).apply unit_ = .error (.noEffect signature) ↔
      p.isAssertion = false ∧ bodies unit_ signature ≠ [] ∧
        (∀ b ∈ bodies unit_ signature, p.apply b.text = .ok (p.made b.text)) ∧
        rewrite (only signature p.made) unit_ = unit_ := by
  constructor
  · intro h
    rcases patched_or_error signature p unit_ with ⟨found, patched⟩ | none_ | ⟨e, failed⟩
    · rw [apply_inMethod_of_patched found patched] at h
      split_ifs at h with same
      exact ⟨same.2, found, patched, same.1⟩
    · cases none_.symm.trans h
    · cases failed.symm.trans h
  · rintro ⟨changes, found, patched, still⟩
    rw [apply_inMethod_of_patched found patched, if_pos ⟨still, changes⟩]

theorem yields_cons {next : Text} (h : (inMethod signature [p]).apply unit_ = .ok next) :
    yields signature (p :: rest) unit_ =
      (bodies unit_ signature).map (fun b => p.made b.text) ++ yields signature rest next := by
  obtain ⟨-, patched, -⟩ := apply_inMethod_eq_ok_iff.mp h
  rw [yields, h, ← List.filterMap_eq_map]
  congr 1
  exact List.filterMap_congr fun b hb => by rw [patched b hb]; rfl

/-- Patchers are run one after the other. -/
theorem apply_inMethod_cons (signature : Text) (p : Patcher) (rest : List Patcher) (unit_ : Text) :
    (inMethod signature (p :: rest)).apply unit_ =
      (inMethod signature [p]).apply unit_ >>= (inMethod signature rest).apply := by
  rw [apply_inMethod_singleton]
  simp only [apply, apply.passes]

theorem apply_inMethod_append (signature : Text) (ps qs : List Patcher) (unit_ : Text) :
    (inMethod signature (ps ++ qs)).apply unit_ =
      (inMethod signature ps).apply unit_ >>= (inMethod signature qs).apply := by
  induction ps generalizing unit_ with
  | nil => rfl
  | cons p ps ih =>
      rw [List.cons_append, apply_inMethod_cons, apply_inMethod_cons signature p ps, bind_assoc]
      exact bind_congr ih

end Patcher

end PatchTrail
