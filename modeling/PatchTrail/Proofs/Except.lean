import Mathlib.Data.List.Forall2

/-!
# Steps that may fail

What it means for a step, for one step after another, and for a step on each element of a list that
it succeeds (`mapM_eq_ok_iff`, `mapM_eq_some_iff`), and where it fails first
(`forall₂_or_first_error`). The same for steps that change a state (`bind_succeeds_iff`,
`of_bind_error`), whose failures can be turned into others without any other difference.
-/

namespace PatchTrail

variable {ε α β : Type}

theorem of_toOption {x : Except ε α} {a : α} (h : x.toOption = some a) : x = .ok a := by
  cases x with
  | error e => cases h
  | ok b => exact congrArg Except.ok (Option.some.inj h)

theorem bind_eq_ok_iff {x : Except ε α} {f : α → Except ε β} {b : β} :
    (x >>= f) = .ok b ↔ ∃ a, x = .ok a ∧ f a = .ok b := by
  cases x with
  | error e =>
      constructor
      · intro h
        cases h
      · rintro ⟨a, h, -⟩
        cases h
  | ok a => simp [bind, Except.bind]

/-- Two lists are put together if both can be made. -/
theorem append_eq_ok_iff {x y : Except ε (List α)} {zs : List α} :
    (do return (← x) ++ (← y)) = Except.ok zs ↔
      ∃ xs ys, x = .ok xs ∧ y = .ok ys ∧ zs = xs ++ ys := by
  rw [bind_eq_ok_iff]
  constructor
  · rintro ⟨xs, hx, h⟩
    obtain ⟨ys, hy, h⟩ := bind_eq_ok_iff.mp h
    exact ⟨xs, ys, hx, hy, (Except.ok.inj h).symm⟩
  · rintro ⟨xs, ys, hx, hy, rfl⟩
    exact ⟨xs, hx, bind_eq_ok_iff.mpr ⟨ys, hy, rfl⟩⟩

/-- A list is taken apart, element by element, if and only if each element can be. -/
theorem mapM_eq_ok_iff {f : α → Except ε β} {as : List α} {bs : List β} :
    as.mapM f = .ok bs ↔ List.Forall₂ (fun a b => f a = .ok b) as bs := by
  induction as generalizing bs with
  | nil =>
      rw [List.mapM_nil, List.forall₂_nil_left_iff]
      constructor
      · intro h
        cases h
        rfl
      · intro h
        rw [h]
        rfl
  | cons a as ih =>
      rw [List.mapM_cons, bind_eq_ok_iff, List.forall₂_cons_left_iff]
      refine exists_congr fun b => ?_
      rw [bind_eq_ok_iff]
      constructor
      · rintro ⟨ha, bs', has, h⟩
        exact ⟨bs', ha, ih.mp has, (Except.ok.inj h).symm⟩
      · rintro ⟨bs', ha, has, rfl⟩
        exact ⟨ha, bs', ih.mpr has, rfl⟩

/-- A step succeeds on each element of a list, or there is a first one on which it fails. -/
theorem forall₂_or_first_error (f : α → Except ε β) (as : List α) :
    (∃ bs, List.Forall₂ (fun a b => f a = .ok b) as bs) ∨
      ∃ before a behind e, as = before ++ a :: behind ∧ (∀ x ∈ before, ∃ b, f x = .ok b) ∧
        f a = .error e := by
  induction as with
  | nil => exact .inl ⟨[], .nil⟩
  | cons a as ih =>
      rcases hfirst : f a with e | b
      · exact .inr ⟨[], a, as, e, rfl, by simp, hfirst⟩
      · rcases ih with ⟨bs, hbs⟩ | ⟨before, x, behind, e, rfl, hbefore, hx⟩
        · exact .inl ⟨b :: bs, .cons hfirst hbs⟩
        · exact .inr ⟨a :: before, x, behind, e, rfl,
            List.forall_mem_cons.mpr ⟨⟨b, hfirst⟩, hbefore⟩, hx⟩

theorem mapM_eq_some_iff {f : α → Option β} {as : List α} {bs : List β} :
    as.mapM f = some bs ↔ List.Forall₂ (fun a b => f a = some b) as bs := by
  induction as generalizing bs with
  | nil =>
      rw [List.mapM_nil, List.forall₂_nil_left_iff]
      exact Option.some_inj.trans eq_comm
  | cons a as ih =>
      rw [List.mapM_cons, List.forall₂_cons_left_iff]
      refine Option.bind_eq_some_iff.trans (exists_congr fun b => ?_)
      rw [Option.bind_eq_bind, Option.bind_eq_some_iff]
      constructor
      · rintro ⟨ha, bs', has, h⟩
        exact ⟨bs', ha, ih.mp has, (Option.some.inj h).symm⟩
      · rintro ⟨bs', ha, has, rfl⟩
        exact ⟨ha, bs', ih.mpr has, rfl⟩

theorem exists_of_mem_left {R : α → β → Prop} {as : List α} {bs : List β}
    (h : List.Forall₂ R as bs) {a : α} (ha : a ∈ as) : ∃ b ∈ bs, R a b := by
  induction h with
  | nil => cases ha
  | @cons a' b as bs hab _ ih =>
      rcases List.mem_cons.mp ha with rfl | ha
      · exact ⟨b, List.mem_cons_self, hab⟩
      · obtain ⟨b', hb', hab'⟩ := ih ha
        exact ⟨b', List.mem_cons_of_mem b hb', hab'⟩

theorem exists_of_mem_right {R : α → β → Prop} {as : List α} {bs : List β}
    (h : List.Forall₂ R as bs) {b : β} (hb : b ∈ bs) : ∃ a ∈ as, R a b :=
  exists_of_mem_left (R := fun b a => R a b) (List.Forall₂.flip h) hb

/-- What each step of a fold keeps, the whole fold keeps. -/
theorem foldlM_keeps {I : β → Prop} {f : β → α → Except ε β} {as : List α} {b b' : β}
    (step : ∀ b a b', a ∈ as → I b → f b a = .ok b' → I b') (h : I b)
    (hfold : as.foldlM f b = .ok b') : I b' := by
  induction as generalizing b with
  | nil =>
      cases hfold
      exact h
  | cons a as ih =>
      rw [List.foldlM_cons] at hfold
      obtain ⟨next, hnext, hfold⟩ := bind_eq_ok_iff.mp hfold
      exact ih (fun b a' b' ha' => step b a' b' (List.mem_cons_of_mem a ha'))
        (step b a next List.mem_cons_self h hnext) hfold

/-! ## Steps that change a state -/

section

variable {ε ε' α β σ : Type} {c : EStateM ε σ α} {f : α → EStateM ε σ β} {s s' : σ}

/-! ### One step after another -/

theorem bind_ok {a : α} (h : c s = .ok a s') : (c >>= f) s = f a s' := by
  change EStateM.bind c f s = _
  unfold EStateM.bind
  rw [h]

theorem bind_error {e : ε} (h : c s = .error e s') : (c >>= f) s = .error e s' := by
  change EStateM.bind c f s = _
  unfold EStateM.bind
  rw [h]

theorem of_bind_error {e : ε} (h : (c >>= f) s = .error e s') :
    c s = .error e s' ∨ ∃ a mid, c s = .ok a mid ∧ f a mid = .error e s' := by
  cases hc : c s with
  | error e' mid =>
      rw [bind_error hc] at h
      cases h
      exact .inl rfl
  | ok a mid =>
      rw [bind_ok hc] at h
      exact .inr ⟨a, mid, rfl, h⟩

theorem bind_succeeds_iff {b : β} : (c >>= f) s = .ok b s' ↔
    ∃ a mid, c s = .ok a mid ∧ f a mid = .ok b s' := by
  constructor
  · intro h
    cases hc : c s with
    | error e mid =>
        rw [bind_error hc] at h
        cases h
    | ok a mid => exact ⟨a, mid, rfl, (bind_ok hc).symm.trans h⟩
  · rintro ⟨a, mid, hc, hf⟩
    exact (bind_ok hc).trans hf

/-! ### Failures turned into others -/

theorem of_adaptExcept_error {g : ε → ε'} {e : ε'} (h : c.adaptExcept g s = .error e s') :
    ∃ cause, e = g cause ∧ c s = .error cause s' := by
  unfold EStateM.adaptExcept at h
  split at h
  · next cause mid hc =>
      cases h
      exact ⟨cause, rfl, hc⟩
  · cases h

theorem of_adaptExcept_ok {g : ε → ε'} {a : α} (h : c.adaptExcept g s = .ok a s') :
    c s = .ok a s' := by
  unfold EStateM.adaptExcept at h
  split at h
  · cases h
  · next hc =>
      cases h
      exact hc

theorem adaptExcept_ok {a : α} (g : ε → ε') (h : c s = .ok a s') :
    c.adaptExcept g s = .ok a s' := by
  unfold EStateM.adaptExcept
  rw [h]

theorem adaptExcept_error {e : ε} (g : ε → ε') (h : c s = .error e s') :
    c.adaptExcept g s = .error (g e) s' := by
  unfold EStateM.adaptExcept
  rw [h]

theorem adaptExcept_succeeds_iff {g : ε → ε'} {a : α} :
    c.adaptExcept g s = .ok a s' ↔ c s = .ok a s' :=
  ⟨of_adaptExcept_ok, adaptExcept_ok g⟩

theorem adaptExcept_bind (g : ε → ε') :
    (c >>= f).adaptExcept g = c.adaptExcept g >>= fun a => (f a).adaptExcept g := by
  funext s
  cases hc : c s with
  | error e mid => rw [adaptExcept_error g (bind_error hc), bind_error (adaptExcept_error g hc)]
  | ok a mid =>
      rw [bind_ok (adaptExcept_ok g hc)]
      cases hf : f a mid with
      | error e last => rw [adaptExcept_error g ((bind_ok hc).trans hf), adaptExcept_error g hf]
      | ok b last => rw [adaptExcept_ok g ((bind_ok hc).trans hf), adaptExcept_ok g hf]

theorem adaptExcept_adaptExcept {ε'' : Type} (g : ε → ε') (g' : ε' → ε'') :
    (c.adaptExcept g).adaptExcept g' = c.adaptExcept fun e => g' (g e) := by
  funext s
  cases hc : c s with
  | error e mid =>
      rw [adaptExcept_error g' (adaptExcept_error g hc), adaptExcept_error _ hc]
  | ok a mid => rw [adaptExcept_ok g' (adaptExcept_ok g hc), adaptExcept_ok _ hc]

end

end PatchTrail
