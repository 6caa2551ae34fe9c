import PatchTrail.Proofs.Json.Yields

/-!
# What fields are decoded from

If a record can be decoded from a value, then each of its fields was decoded from a part of the
value, which is nested less deep than the whole, or has been left out (`RecordField.From`). Taking
the tag out of a tagged value does not nest what is left any deeper (`untag_depth_le`).
-/

namespace PatchTrail.Json

variable {α β γ τ : Type} {v : Value} {vs : List Value} {ms : List (Text × Value)}

theorem depth_lt_of_mem_array {w : Value} (h : w ∈ vs) : w.depth < (Value.array vs).depth := by
  rw [Value.depth, Nat.lt_succ_iff]
  exact depthOfElements_le_iff.mp (Nat.le_refl _) w h

theorem depth_lt_of_mem_object {m : Text × Value} (h : m ∈ ms) :
    m.2.depth < (Value.object ms).depth := by
  rw [Value.depth, Nat.lt_succ_iff]
  exact depthOfMembers_le_iff.mp (Nat.le_refl _) m h

/-- The elements of a list were decoded from parts of the value. -/
theorem parts_of_asList {element : Value → Except Mismatch α} {as : List α}
    (h : asList element v = .ok as) :
    0 < v.depth ∧ ∀ a ∈ as, ∃ w, w.depth < v.depth ∧ element w = .ok a := by
  unfold asList at h
  split at h
  · next vs =>
      refine ⟨Nat.succ_pos _, fun a ha => ?_⟩
      obtain ⟨w, hw, hdecode⟩ := exists_of_mem_right (mapM_eq_ok_iff.mp h) ha
      exact ⟨w, depth_lt_of_mem_array hw, hdecode⟩
  · cases h

/-! ## Fields -/

namespace RecordField

/-- A field was decoded from a part of a value or left out. -/
inductive From (f : RecordField α) (v : Value) (a : α) : Prop where
  | part (w : Value) (inside : w.depth < v.depth) (decoded : f.decode w = .ok a) : From f v a
  | fallback (default : f.fallback? = some a) : From f v a

/-- A field that must not be left out was decoded from a part of the value. -/
theorem From.exists_part {f : RecordField α} {a : α} (h : f.From v a)
    (hfallback : f.fallback? = none) : ∃ w, w.depth < v.depth ∧ f.decode w = .ok a := by
  cases h with
  | part w inside decoded => exact ⟨w, inside, decoded⟩
  | fallback default =>
      rw [hfallback] at default
      cases default

/-- The value of a field, if it has been seen, was decoded from a part of an object. -/
def Seen (f : RecordField α) (ms : List (Text × Value)) (x : Option α) : Prop :=
  ∀ a ∈ x, ∃ w, w.depth < (Value.object ms).depth ∧ f.decode w = .ok a

variable {f : RecordField α} {a : α} {x seen : Option α}

theorem Seen.none (f : RecordField α) (ms : List (Text × Value)) : f.Seen ms none :=
  fun _ ha => absurd ha (Option.not_mem_none _)

theorem Seen.fill {m : Text × Value} (hm : m ∈ ms) (h : f.fill seen m.2 = .ok x) : f.Seen ms x := by
  unfold RecordField.fill at h
  cases seen with
  | some a => cases h
  | none =>
      cases hdecode : f.decode m.2 with
      | error e =>
          rw [hdecode] at h
          cases h
      | ok a =>
          rw [hdecode] at h
          cases h
          rintro a' ⟨⟩
          exact ⟨m.2, depth_lt_of_mem_object hm, hdecode⟩

theorem Seen.finish (hseen : f.Seen ms seen) (h : f.finish seen = .ok a) :
    f.From (.object ms) a := by
  unfold RecordField.finish at h
  cases seen with
  | some b =>
      cases h
      obtain ⟨w, inside, decoded⟩ := hseen a rfl
      exact .part w inside decoded
  | none =>
      cases hf : f.fallback? with
      | none =>
          rw [hf] at h
          cases h
      | some b =>
          rw [hf] at h
          cases h
          exact .fallback hf

theorem from_element {record : Text} {position : Nat}
    (h : f.element record vs position = .ok a) : From f (.array vs) a := by
  unfold element at h
  split at h
  · next w hw => exact .part w (depth_lt_of_mem_array (List.mem_of_getElem? hw)) h
  · next hf =>
      cases h
      exact .fallback hf
  · cases h

end RecordField

/-! ## Records -/

section

variable {record : Text} {f : RecordField α} {g : RecordField β} {h : RecordField γ}
  {a : α} {b : β} {c : γ}

theorem record1_from (hrecord : record1 record f v = .ok a) : 0 < v.depth ∧ f.From v a := by
  unfold record1 at hrecord
  split at hrecord
  · next ms =>
      obtain ⟨x, hfold, hfinish⟩ := bind_eq_ok_iff.mp hrecord
      have seen : f.Seen ms x := by
        refine foldlM_keeps (I := f.Seen ms) ?_ (.none f ms) hfold
        rintro x ⟨name, w⟩ x' hm hx hstep
        simp only at hstep
        split at hstep
        · exact .fill hm hstep
        · cases hstep
          exact hx
      exact ⟨Nat.succ_pos _, seen.finish hfinish⟩
  · obtain ⟨x, helement, hrest⟩ := bind_eq_ok_iff.mp hrecord
    obtain ⟨_, -, hx⟩ := bind_eq_ok_iff.mp hrest
    cases hx
    exact ⟨Nat.succ_pos _, RecordField.from_element helement⟩
  · cases hrecord

theorem record2_from (hrecord : record2 record f g v = .ok (a, b)) :
    0 < v.depth ∧ f.From v a ∧ g.From v b := by
  unfold record2 at hrecord
  split at hrecord
  · next ms =>
      obtain ⟨⟨x, y⟩, hfold, hrest⟩ := bind_eq_ok_iff.mp hrecord
      obtain ⟨a', hx, hrest⟩ := bind_eq_ok_iff.mp hrest
      obtain ⟨b', hy, hab⟩ := bind_eq_ok_iff.mp hrest
      cases hab
      have seen : f.Seen ms x ∧ g.Seen ms y := by
        refine foldlM_keeps (I := fun p => f.Seen ms p.1 ∧ g.Seen ms p.2) ?_
          ⟨.none f ms, .none g ms⟩ hfold
        rintro ⟨x, y⟩ ⟨name, w⟩ p hm ⟨seenx, seeny⟩ hstep
        simp only at hstep
        split at hstep
        · obtain ⟨x', hfill, hp⟩ := bind_eq_ok_iff.mp hstep
          cases hp
          exact ⟨.fill hm hfill, seeny⟩
        split at hstep
        · obtain ⟨y', hfill, hp⟩ := bind_eq_ok_iff.mp hstep
          cases hp
          exact ⟨seenx, .fill hm hfill⟩
        · cases hstep
          exact ⟨seenx, seeny⟩
      exact ⟨Nat.succ_pos _, seen.1.finish hx, seen.2.finish hy⟩
  · obtain ⟨a', hx, hrest⟩ := bind_eq_ok_iff.mp hrecord
    obtain ⟨b', hy, hrest⟩ := bind_eq_ok_iff.mp hrest
    obtain ⟨_, -, hab⟩ := bind_eq_ok_iff.mp hrest
    cases hab
    exact ⟨Nat.succ_pos _, RecordField.from_element hx, RecordField.from_element hy⟩
  · cases hrecord

theorem record3_from (hrecord : record3 record f g h v = .ok (a, b, c)) :
    0 < v.depth ∧ f.From v a ∧ g.From v b ∧ h.From v c := by
  unfold record3 at hrecord
  split at hrecord
  · next ms =>
      obtain ⟨⟨x, y, z⟩, hfold, hrest⟩ := bind_eq_ok_iff.mp hrecord
      obtain ⟨a', hx, hrest⟩ := bind_eq_ok_iff.mp hrest
      obtain ⟨b', hy, hrest⟩ := bind_eq_ok_iff.mp hrest
      obtain ⟨c', hz, habc⟩ := bind_eq_ok_iff.mp hrest
      cases habc
      have seen : f.Seen ms x ∧ g.Seen ms y ∧ h.Seen ms z := by
        refine foldlM_keeps (I := fun p => f.Seen ms p.1 ∧ g.Seen ms p.2.1 ∧ h.Seen ms p.2.2) ?_
          ⟨.none f ms, .none g ms, .none h ms⟩ hfold
        rintro ⟨x, y, z⟩ ⟨name, w⟩ p hm ⟨seenx, seeny, seenz⟩ hstep
        simp only at hstep
        split at hstep
        · obtain ⟨x', hfill, hp⟩ := bind_eq_ok_iff.mp hstep
          cases hp
          exact ⟨.fill hm hfill, seeny, seenz⟩
        split at hstep
        · obtain ⟨y', hfill, hp⟩ := bind_eq_ok_iff.mp hstep
          cases hp
          exact ⟨seenx, .fill hm hfill, seenz⟩
        split at hstep
        · obtain ⟨z', hfill, hp⟩ := bind_eq_ok_iff.mp hstep
          cases hp
          exact ⟨seenx, seeny, .fill hm hfill⟩
        · cases hstep
          exact ⟨seenx, seeny, seenz⟩
      exact ⟨Nat.succ_pos _, seen.1.finish hx, seen.2.1.finish hy, seen.2.2.finish hz⟩
  · obtain ⟨a', hx, hrest⟩ := bind_eq_ok_iff.mp hrecord
    obtain ⟨b', hy, hrest⟩ := bind_eq_ok_iff.mp hrest
    obtain ⟨c', hz, hrest⟩ := bind_eq_ok_iff.mp hrest
    obtain ⟨_, -, habc⟩ := bind_eq_ok_iff.mp hrest
    cases habc
    exact ⟨Nat.succ_pos _, RecordField.from_element hx, RecordField.from_element hy,
      RecordField.from_element hz⟩
  · cases hrecord

end

/-! ## Tagged values -/

theorem takeTag_depth_le {tag : Value → Except Mismatch τ} {seen : Option τ}
    {others : List (Text × Value)} {t : τ} {n : Nat} (hms : ∀ m ∈ ms, m.2.depth ≤ n)
    (hothers : ∀ m ∈ others, m.2.depth ≤ n) (h : takeTag tag ms seen others = .ok (t, v)) :
    v.depth ≤ n + 1 := by
  induction ms generalizing seen others with
  | nil =>
      cases seen with
      | none => cases h
      | some t' =>
          cases h
          exact depth_object_le_iff.mpr fun m hm => hothers m (List.mem_reverse.mp hm)
  | cons m ms ih =>
      obtain ⟨name, w⟩ := m
      obtain ⟨hw, hms⟩ := List.forall_mem_cons.mp hms
      rw [takeTag.eq_def] at h
      simp only at h
      split at h
      · cases seen with
        | some t' => cases h
        | none =>
            obtain ⟨t', -, h⟩ := bind_eq_ok_iff.mp h
            exact ih hms hothers h
      · exact ih hms (List.forall_mem_cons.mpr ⟨hw, hothers⟩) h

/-- What is left of a tagged value without its tag is not nested deeper. -/
theorem untag_depth_le {kind : Text} {tag : Value → Except Mismatch τ} {t : τ} {w : Value}
    (h : untag kind tag v = .ok (t, w)) : w.depth ≤ v.depth := by
  unfold untag at h
  split at h
  · next ms =>
      exact takeTag_depth_le (depthOfMembers_le_iff.mp (Nat.le_refl _))
        (fun m hm => absurd hm List.not_mem_nil) h
  · cases h
  · next t' vs =>
      obtain ⟨_, -, h⟩ := bind_eq_ok_iff.mp h
      cases h
      exact depth_array_le_iff.mpr fun w hw =>
        depthOfElements_le_iff.mp (Nat.le_refl _) w (List.mem_cons_of_mem t' hw)
  · cases h

end PatchTrail.Json
