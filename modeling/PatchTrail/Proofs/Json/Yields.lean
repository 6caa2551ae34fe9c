import PatchTrail.Json.Reader.Shape
import PatchTrail.Proofs.Except

/-!
# What readers return

Whatever document a reader reads, what it returns has a property (`Yields`). From the readers of
elements and members such properties are carried over to the loops and to the readers of records
and tagged values. In particular a value is nested at most as deep as the reader allows
(`yields_value`), and so is what is left of a tagged value without its tag (`yields_tagged`).
-/

namespace PatchTrail.Json

open Reader

variable {α β σ τ : Type} {P : α → Prop} {Q : β → Prop} {I : σ → Prop}

/-- Whatever a reader returns has a property. -/
def Yields (r : Reader α) (P : α → Prop) : Prop := ∀ s a rest, r s = .ok (a, rest) → P a

namespace Yields

theorem any (r : Reader α) : Yields r fun _ => True := fun _ _ _ _ => trivial

theorem mono {r : Reader α} {P' : α → Prop} (h : Yields r P) (imp : ∀ a, P a → P' a) :
    Yields r P' := fun s a rest hr => imp a (h s a rest hr)

theorem pure {a : α} (h : P a) : Yields (pure a) P := by
  intro s a' rest hr
  cases hr
  exact h

theorem bind {r : Reader α} {f : α → Reader β} (h : Yields r P) (k : ∀ a, P a → Yields (f a) Q) :
    Yields (r >>= f) Q := by
  intro s b rest hr
  obtain ⟨⟨a, s'⟩, hfirst, hsecond⟩ := bind_eq_ok_iff.mp hr
  exact k a (h s a s' hfirst) s' b rest hsecond

/-- The rest of a reader, whatever its first step returns. -/
theorem next {r : Reader α} {f : α → Reader β} (k : ∀ a, Yields (f a) Q) : Yields (r >>= f) Q :=
  bind (any r) fun a _ => k a

theorem ite {p : Prop} [Decidable p] {r r' : Reader α} (h : p → Yields r P)
    (h' : ¬ p → Yields r' P) : Yields (if p then r else r') P := by
  split
  · next hp => exact h hp
  · next hp => exact h' hp

theorem failNext (m : Malformed) : Yields (failNext m) P := by
  intro s a rest hr
  cases hr

theorem failShape (m : Mismatch) : Yields (failShape m) P := by
  intro s a rest hr
  cases hr

theorem failLoose (m : Mismatch) : Yields (failLoose m) P := by
  intro s a rest hr
  cases hr

/-! ## Loops -/

theorem elementsUpTo {element : Reader α} (h : Yields element P) (bound : Nat) (first : Bool) :
    Yields (elementsUpTo element bound first) fun as => ∀ a ∈ as, P a := by
  induction bound generalizing first with
  | zero => exact pure fun a ha => absurd ha List.not_mem_nil
  | succ bound ih =>
      rw [Reader.elementsUpTo]
      refine next fun more => ite (fun _ => ?_) fun _ => ?_
      · refine bind h fun a ha => bind (ih false) fun as has => pure ?_
        exact List.forall_mem_cons.mpr ⟨ha, has⟩
      · exact pure fun a ha => absurd ha List.not_mem_nil

theorem elements {element : Reader α} (h : Yields element P) :
    Yields (elements element) fun as => ∀ a ∈ as, P a :=
  fun s as rest hr => elementsUpTo h (s.length + 1) true s as rest hr

/-- What each member keeps of the state, all members keep. -/
theorem membersUpTo {member : σ → Text → Reader σ} (h : ∀ s name, I s → Yields (member s name) I)
    (bound : Nat) (first : Bool) {state : σ} (hstate : I state) :
    Yields (membersUpTo member bound first state) I := by
  induction bound generalizing first state with
  | zero => exact pure hstate
  | succ bound ih =>
      rw [Reader.membersUpTo]
      refine next fun more => ite (fun _ => ?_) fun _ => pure hstate
      refine next fun _ => next fun name => bind (h state name hstate) fun state' hstate' => ?_
      exact ih false hstate'

theorem members {member : σ → Text → Reader σ} (h : ∀ s name, I s → Yields (member s name) I)
    {state : σ} (hstate : I state) : Yields (members member state) I :=
  fun s a rest hr => membersUpTo h (s.length + 1) true hstate s a rest hr

theorem enclosed {close : Reader Unit} {restAfter : Text → Text} {body : Reader α}
    (h : Yields body P) : Yields (enclosed close restAfter body) P := by
  intro s a rest hr
  unfold Reader.enclosed at hr
  split at hr
  · cases hr
  · next v s' hbody =>
      cases hclose : close s' with
      | error f =>
          rw [hclose] at hr
          cases hr
      | ok p =>
          rw [hclose] at hr
          cases hr
          exact h s _ s' hbody

theorem descend {depth : Nat} {body : Nat → Reader α}
    (h : ∀ d, depth = d + 1 → Yields (body d) P) : Yields (descend depth body) P := by
  cases depth with
  | zero => exact failNext _
  | succ d => exact next fun _ => h d rfl

end Yields

/-! ## Values -/

theorem depthOfElements_le_iff {vs : List Value} {n : Nat} :
    Value.depth.depthOfElements vs ≤ n ↔ ∀ v ∈ vs, v.depth ≤ n := by
  induction vs with
  | nil => simp [Value.depth.depthOfElements]
  | cons v vs ih => rw [Value.depth.depthOfElements, Nat.max_le, ih, List.forall_mem_cons]

theorem depthOfMembers_le_iff {ms : List (Text × Value)} {n : Nat} :
    Value.depth.depthOfMembers ms ≤ n ↔ ∀ m ∈ ms, m.2.depth ≤ n := by
  induction ms with
  | nil => simp [Value.depth.depthOfMembers]
  | cons m ms ih => rw [Value.depth.depthOfMembers, Nat.max_le, ih, List.forall_mem_cons]

theorem depth_array_le_iff {vs : List Value} {n : Nat} :
    (Value.array vs).depth ≤ n + 1 ↔ ∀ v ∈ vs, v.depth ≤ n := by
  rw [Value.depth, Nat.add_le_add_iff_right, depthOfElements_le_iff]

theorem depth_object_le_iff {ms : List (Text × Value)} {n : Nat} :
    (Value.object ms).depth ≤ n + 1 ↔ ∀ m ∈ ms, m.2.depth ≤ n := by
  rw [Value.depth, Nat.add_le_add_iff_right, depthOfMembers_le_iff]

theorem yields_scalar (c : Char) : Yields (scalar c) fun v => v.depth = 0 := by
  unfold scalar
  refine .ite (fun _ => .next fun _ => .next fun _ => .pure rfl) fun _ => ?_
  refine .ite (fun _ => .next fun _ => .next fun _ => .pure rfl) fun _ => ?_
  refine .ite (fun _ => .next fun _ => .next fun _ => .pure rfl) fun _ => ?_
  refine .ite (fun _ => .next fun _ => .pure rfl) fun _ => ?_
  exact .ite (fun _ => .next fun _ => .next fun _ => .pure rfl) fun _ => .failNext _

theorem yields_members_value {depth : Nat} (h : Yields (value depth) fun v => v.depth ≤ depth) :
    Yields (members (fun (done : List (Text × Value)) name => do
      colon
      return (name, ← value depth) :: done) []) fun ms => ∀ m ∈ ms, m.2.depth ≤ depth := by
  refine .members (fun done name hdone => ?_) fun m hm => absurd hm List.not_mem_nil
  refine .next fun _ => .bind h fun v hv => .pure ?_
  exact List.forall_mem_cons.mpr ⟨hv, hdone⟩

/-- A value is nested at most as deep as its reader allows. -/
theorem yields_value (depth : Nat) : Yields (value depth) fun v => v.depth ≤ depth := by
  induction depth with
  | zero =>
      rw [value]
      refine .next fun c? => ?_
      cases c? with
      | none => exact .failNext _
      | some c =>
          refine .ite (fun _ => .failNext _) fun _ => ?_
          exact (yields_scalar c).mono fun v hv => Nat.le_of_eq hv
  | succ depth ih =>
      rw [value]
      refine .next fun c? => ?_
      cases c? with
      | none => exact .failNext _
      | some c =>
          refine .ite (fun _ => ?_) fun _ => .ite (fun _ => ?_) fun _ => ?_
          · refine .next fun _ => .bind (.enclosed (.elements ih)) fun vs hvs => .pure ?_
            exact depth_array_le_iff.mpr hvs
          · refine .next fun _ => .bind (.enclosed (yields_members_value ih)) fun ms hms => .pure ?_
            exact depth_object_le_iff.mpr fun m hm => hms m (List.mem_reverse.mp hm)
          · refine (yields_scalar c).mono fun v hv => ?_
            rw [hv]
            exact Nat.zero_le _

/-! ## Shapes -/

namespace Yields

theorem mismatched (expected : Text) (c : Char) : Yields (mismatched expected c) P := by
  unfold Reader.mismatched
  refine ite (fun _ => failShape _) fun _ => ite (fun _ => failShape _) fun _ => ?_
  exact next fun v => failShape _

theorem list {element : Nat → Reader α} {P : Nat → α → Prop}
    (h : ∀ d, Yields (element d) (P d)) (depth : Nat) :
    Yields (list element depth) fun as => ∃ d, depth = d + 1 ∧ ∀ a ∈ as, P d a := by
  unfold Reader.list
  refine next fun c => ite (fun _ => ?_) fun _ => mismatched _ c
  exact descend fun d hd => (enclosed (elements (h d))).mono fun as has => ⟨d, hd, has⟩

theorem either {expected : Text} {ofArray ofObject : Nat → Reader α} {depth : Nat}
    (harray : ∀ d, depth = d + 1 → Yields (ofArray d) P)
    (hobject : ∀ d, depth = d + 1 → Yields (ofObject d) P) :
    Yields (either expected ofArray ofObject depth) P := by
  unfold Reader.either
  refine next fun c => ite (fun _ => ?_) fun _ => ite (fun _ => ?_) fun _ => mismatched _ c
  · exact descend fun d hd => enclosed (harray d hd)
  · exact descend fun d hd => enclosed (hobject d hd)

/-! ## Records -/

section

variable {f : Slot α} {g : Slot β} {depth : Nat}

theorem fill (h : Yields (f.read depth) P) (seen : Option α) :
    Yields (f.fill depth seen) fun x => ∀ a ∈ x, P a := by
  unfold Slot.fill
  cases seen with
  | some a => exact failLoose _
  | none =>
      refine next fun _ => bind h fun a ha => pure ?_
      rintro a' ⟨⟩
      exact ha

theorem finish (hfallback : ∀ a ∈ f.fallback?, P a) {seen : Option α} (hseen : ∀ a ∈ seen, P a) :
    Yields (f.finish seen) P := by
  unfold Slot.finish
  cases seen with
  | some a => exact pure (hseen a rfl)
  | none =>
      cases hf : f.fallback? with
      | some a => exact pure (hfallback a hf)
      | none => exact failLoose _

theorem element (h : Yields (f.read depth) P) (hfallback : ∀ a ∈ f.fallback?, P a) (record : Text)
    (position : Nat) : Yields (f.element depth record position) P := by
  unfold Slot.element
  refine next fun more => ite (fun _ => h) fun _ => ?_
  cases hf : f.fallback? with
  | some a => exact pure (hfallback a hf)
  | none => exact failLoose _

/-- What a record of one field is read as has the property of its field. -/
theorem record1 {kind : Text} {P : Nat → α → Prop} (h : ∀ d, Yields (f.read d) (P d))
    (hfallback : f.fallback? = none) (depth : Nat) :
    Yields (Reader.record1 kind f depth) fun a => ∃ d, depth = d + 1 ∧ P d a := by
  have fallback (d : Nat) : ∀ a ∈ f.fallback?, P d a := hfallback ▸ fun a ha => nomatch ha
  unfold Reader.record1
  refine either (fun d hd => ?_) fun d hd => ?_
  · exact (element (h d) (fallback d) _ _).mono fun a ha => ⟨d, hd, ha⟩
  · refine bind (members (I := fun x => ∀ a ∈ x, P d a) (fun x name hx => ?_)
      fun a ha => nomatch ha) fun x hx => (finish (fallback d) hx).mono fun a ha => ⟨d, hd, ha⟩
    exact ite (fun _ => fill (h d) x) fun _ => next fun _ => pure hx

/-- What a record of two fields is read as has the properties of its fields. -/
theorem record2 {kind : Text} {P : Nat → α → Prop} {Q : Nat → β → Prop}
    (hf : ∀ d, Yields (f.read d) (P d)) (hg : ∀ d, Yields (g.read d) (Q d))
    (hffallback : f.fallback? = none) (hgfallback : g.fallback? = none) (depth : Nat) :
    Yields (Reader.record2 kind f g depth) fun p => ∃ d, depth = d + 1 ∧ P d p.1 ∧ Q d p.2 := by
  have ffallback (d : Nat) : ∀ a ∈ f.fallback?, P d a := hffallback ▸ fun a ha => nomatch ha
  have gfallback (d : Nat) : ∀ b ∈ g.fallback?, Q d b := hgfallback ▸ fun b hb => nomatch hb
  unfold Reader.record2
  refine either (fun d hd => ?_) fun d hd => ?_
  · refine bind (element (hf d) (ffallback d) _ _) fun a ha => ?_
    exact bind (element (hg d) (gfallback d) _ _) fun b hb => pure ⟨d, hd, ha, hb⟩
  · refine bind (members (I := fun p => (∀ a ∈ p.1, P d a) ∧ ∀ b ∈ p.2, Q d b) (fun p name hp => ?_)
      ⟨fun a ha => (nomatch ha), fun b hb => (nomatch hb)⟩) fun p hp => ?_
    · refine ite (fun _ => ?_) fun _ => ite (fun _ => ?_) fun _ => next fun _ => pure hp
      · exact bind (fill (hf d) p.1) fun x hx => pure ⟨hx, hp.2⟩
      · exact bind (fill (hg d) p.2) fun y hy => pure ⟨hp.1, hy⟩
    · refine bind (finish (ffallback d) hp.1) fun a ha => ?_
      exact bind (finish (gfallback d) hp.2) fun b hb => pure ⟨d, hd, ha, hb⟩

end

end Yields

/-! ## Tagged values -/

/-- What is left of a tagged value without its tag is nested no deeper than its reader allows. -/
theorem yields_tagged (kind : Text) (known : List (Text × τ)) (depth : Nat) :
    Yields (Reader.tagged kind known depth) fun p => p.2.depth ≤ depth := by
  unfold Reader.tagged
  refine .either (fun d hd => ?_) fun d hd => ?_
  · refine .next fun more => .ite (fun _ => ?_) fun _ => .failLoose _
    refine .next fun t => .next fun s => ?_
    refine .bind (.elementsUpTo (yields_value d) _ _) fun vs hvs => .pure ?_
    rw [hd]
    exact depth_array_le_iff.mpr hvs
  · refine .bind (.members (I := fun p => ∀ m ∈ p.2, m.2.depth ≤ d) (fun p name hp => ?_)
      fun m hm => nomatch hm) fun p hp => ?_
    · obtain ⟨seen, others⟩ := p
      refine .ite (fun _ => ?_) fun _ => ?_
      · cases seen with
        | some t => exact .failLoose _
        | none => exact .next fun _ => .next fun t => .pure hp
      · refine .next fun _ => .bind (yields_value d) fun v hv => .pure ?_
        exact List.forall_mem_cons.mpr ⟨hv, hp⟩
    · obtain ⟨seen, others⟩ := p
      cases seen with
      | none => exact .failLoose _
      | some t =>
          refine .pure ?_
          rw [hd]
          exact depth_object_le_iff.mpr fun m hm => hp m (List.mem_reverse.mp hm)

/-- What a tagged value is read as was decoded from a value that is nested no deeper than its
reader allows. -/
theorem yields_taggedThen (kind : Text) (known : List (Text × τ))
    (decode : τ → Value → Except Mismatch α) (depth : Nat) :
    Yields (taggedThen kind known decode depth) fun a =>
      ∃ tag v, v.depth ≤ depth ∧ decode tag v = .ok a := by
  unfold taggedThen
  refine .bind (yields_tagged kind known depth) fun p hp => ?_
  obtain ⟨tag, v⟩ := p
  cases hdecode : decode tag v with
  | error m =>
      simp only [hdecode]
      exact .failLoose m
  | ok a =>
      simp only [hdecode]
      exact .pure ⟨tag, v, hp, hdecode⟩

/-! ## Documents -/

/-- What a document is read as has the properties of what its reader returns. -/
theorem of_document {body : Nat → Reader α} {text : Text} {a : α}
    (h : document body text = .ok a) (hbody : Yields (body maxDepth) P) : P a := by
  unfold document at h
  simp only at h
  split at h
  · next v rest hread =>
      cases h
      refine (?whole : Yields _ P) _ _ _ hread
      refine .bind hbody fun v hv => .next fun c? => ?_
      cases c? with
      | none => exact .pure hv
      | some c => exact .failNext _
  · cases h

end PatchTrail.Json
