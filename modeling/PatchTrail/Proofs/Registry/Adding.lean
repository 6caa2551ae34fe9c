import Mathlib.Data.Finset.Card
import PatchTrail.Text.Encoding
import PatchTrail.Registry.Basic

/-!
# Registries and the calls that are made on them

A registry is known by its patches, whatever their order (`eq_of_perm`), and these are listed in the
order of the bytes of their names (`ordered`). What comes of adding a patch depends on the names
that are taken: it is refused exactly if its name is empty or taken (`add_eq_error_iff`), and
otherwise found by its name from then on, as the others still are (`find?_of_add`).

So a registry on which calls have been made since it was empty can be told from the calls: it holds
the patch of the first call with each name that is not empty, and a call that fails leaves it as it
is (`after_reflects`).
-/

namespace PatchTrail.Registry

variable {r r' : Registry} {p : Patch} {ps : List Patch}

/-! ## Registries -/

/-- A registry is known by its patches, whatever their order. -/
theorem eq_of_perm (h : r.patches.Perm r'.patches) : r = r' := by
  have same : r.patches = r'.patches :=
    h.eq_of_pairwise (fun p q _ _ hpq hqp => absurd hqp (List.lt_asymm hpq)) r.sorted r'.sorted
  cases r
  cases r'
  cases same
  rfl

theorem insert_perm (p : Patch) (ps : List Patch) : (insert p ps).Perm (p :: ps) := by
  induction ps with
  | nil => exact .refl _
  | cons q rest ih =>
      rw [insert]
      split
      · exact .refl _
      · exact (ih.cons q).trans (.swap p q rest)

/-- The names of the patches of a registry are all different. -/
theorem names_ne (r : Registry) : r.patches.Pairwise fun p q => p.name ≠ q.name := by
  refine r.sorted.imp fun {p q} hlt heq => ?_
  rw [heq] at hlt
  exact List.lt_irrefl q.name hlt

/-- Some of the patches of a registry make up a registry. -/
theorem exists_of_subperm (r : Registry) (h : ps.Subperm r.patches) :
    ∃ r₁ : Registry, r₁.patches.Perm ps := by
  obtain ⟨qs, hperm, hsub⟩ := h
  exact ⟨⟨qs, r.sorted.sublist hsub, fun p hp => r.named p (hsub.subset hp)⟩, hperm⟩

/-- Patches are listed in the order of the bytes of their names. -/
theorem ordered (r : Registry) : r.patches.Pairwise fun p q => p.name.bytes < q.name.bytes :=
  r.sorted.imp fun h => Text.bytes_lt_iff.mpr h

/-- The names of the patches of a registry, in their order. -/
def names (r : Registry) : List Text := r.patches.map Patch.name

theorem names_nodup (r : Registry) : r.names.Nodup := List.pairwise_map.mpr r.names_ne

theorem find?_eq_some_iff {name : Text} :
    r.find? name = some p ↔ p ∈ r.patches ∧ p.name = name := by
  unfold find?
  constructor
  · intro h
    exact ⟨List.mem_of_find?_eq_some h, by simpa using List.find?_some h⟩
  · rintro ⟨hp, rfl⟩
    obtain ⟨q, hq⟩ : ∃ q, r.patches.find? (fun q => q.name == p.name) = some q :=
      Option.isSome_iff_exists.mp (List.find?_isSome.mpr ⟨p, hp, beq_self_eq_true p.name⟩)
    have same : q.name = p.name := by simpa using List.find?_some hq
    rw [hq, List.inj_on_of_nodup_map r.names_nodup (List.mem_of_find?_eq_some hq) hp same]

theorem mem_names_iff {name : Text} : name ∈ r.names ↔ (r.find? name).isSome := by
  rw [Option.isSome_iff_exists]
  simp only [find?_eq_some_iff]
  exact List.mem_map

/-! ## Adding a patch -/

/-- A patch is added if and only if there is a registry of it and the others. -/
theorem add_eq_ok_iff : r.add p = .ok r' ↔ r'.patches.Perm (p :: r.patches) := by
  constructor
  · intro h
    unfold add at h
    split at h
    · cases h
    · split at h
      · cases h
      · cases h
        exact insert_perm p r.patches
  · intro h
    have named : p.name ≠ [] := r'.named p (h.mem_iff.mpr List.mem_cons_self)
    have apart := h.pairwise r'.names_ne fun hne => hne.symm
    have new : ¬ ∃ q ∈ r.patches, q.name = p.name := by
      rintro ⟨q, hq, hname⟩
      exact (List.pairwise_cons.mp apart).1 q hq hname.symm
    unfold add
    rw [dif_neg named, dif_neg new]
    exact congrArg Except.ok (eq_of_perm ((insert_perm p r.patches).trans h.symm))

/-- A patch is refused if its name is empty, and otherwise if its name is taken. -/
theorem add_eq_error_iff {e : Error} : r.add p = .error e ↔
    p.name = [] ∧ e = .emptyName ∨
      p.name ≠ [] ∧ p.name ∈ r.names ∧ e = .duplicate p.name := by
  have taken : (∃ q ∈ r.patches, q.name = p.name) ↔ p.name ∈ r.names := List.mem_map.symm
  unfold add
  split
  · next unnamed => simp [unnamed, eq_comm]
  · next named =>
      split
      · next h => simp [named, taken.mp h, eq_comm]
      · next h => simp [named, mt taken.mpr h]

/-- There is found what was found before, and the patch that has been added under its name, where
nothing was found. -/
theorem find?_of_add (h : r.add p = .ok r') (name : Text) :
    r'.find? name = (r.find? name).or (if p.name = name then some p else none) := by
  have perm := add_eq_ok_iff.mp h
  have mem : ∀ q, q ∈ r'.patches ↔ q = p ∨ q ∈ r.patches := fun q => by
    rw [perm.mem_iff, List.mem_cons]
  split
  · next same =>
      subst same
      have free : p.name ∉ r.names :=
        (List.nodup_cons.mp ((perm.map Patch.name).nodup_iff.mp r'.names_nodup)).1
      rw [mem_names_iff, Option.not_isSome_iff_eq_none] at free
      rw [free, Option.none_or]
      exact find?_eq_some_iff.mpr ⟨(mem p).mpr (.inl rfl), rfl⟩
  · next other =>
      rw [Option.or_none]
      refine Option.ext fun q => ?_
      rw [find?_eq_some_iff, find?_eq_some_iff, mem]
      constructor
      · rintro ⟨rfl | hq, hname⟩
        · exact absurd hname other
        · exact ⟨hq, hname⟩
      · rintro ⟨hq, hname⟩
        exact ⟨.inr hq, hname⟩

/-! ## Calls one after the other -/

/-- A call that is to bring a patch into a registry. -/
inductive Call where
  | add (patch : Patch)
  | register (name : Text) (instructions : List Instruction)

namespace Call

/-- The patch that a call is to bring into a registry. -/
def patch : Call → Patch
  | add patch => patch
  | register name instructions => ⟨name, instructions⟩

/-- The name that a call is made with. -/
def name (c : Call) : Text := c.patch.name

/-- The registry that a call is to make of another one. -/
def outcome : Call → Registry → Except Error Registry
  | add patch, r => r.add patch
  | register name instructions, r => r.register name instructions

theorem outcome_eq (c : Call) (r : Registry) : c.outcome r = r.add c.patch := by
  cases c <;> rfl

/-- Makes a call on the registry that is there. -/
def make (c : Call) : EStateM Error Registry Unit := do
  match c.outcome (← get) with
  | .ok r => set r
  | .error e => throw e

/-- A call does what adding its patch does, and leaves the registry as it is if that fails. -/
theorem make_eq (c : Call) (r : Registry) : c.make r =
    match r.add c.patch with
    | .ok r' => .ok () r'
    | .error e => .error e r := by
  change (match c.outcome r with
    | .ok r' => set r'
    | .error e => throw e : EStateM Error Registry Unit) r = _
  rw [outcome_eq]
  cases r.add c.patch <;> rfl

theorem make_eq_ok_iff {c : Call} : c.make r = .ok () r' ↔ r.add c.patch = .ok r' := by
  rw [make_eq]
  cases r.add c.patch <;> simp

theorem make_eq_error_iff {c : Call} {e : Error} :
    c.make r = .error e r' ↔ r' = r ∧ r.add c.patch = .error e := by
  rw [make_eq]
  cases r.add c.patch <;> simp [and_comm, eq_comm]

/-- The registry that is there after a call, whether the call has succeeded or failed. -/
def leave (c : Call) (r : Registry) : Registry :=
  match c.make r with
  | .ok _ r' => r'
  | .error _ r' => r'

end Call

/-- The patch of the first call with a name. -/
def first? (calls : List Call) (name : Text) : Option Patch :=
  (calls.find? fun c => c.name == name).map Call.patch

theorem first?_concat (calls : List Call) (c : Call) (name : Text) :
    first? (calls ++ [c]) name =
      (first? calls name).or (if c.name = name then some c.patch else none) := by
  unfold first?
  rw [List.find?_append, Option.map_or]
  by_cases h : c.name = name <;> simp [h]

theorem first?_isSome_iff {calls : List Call} {name : Text} :
    (first? calls name).isSome ↔ name ∈ calls.map Call.name := by
  unfold first?
  rw [Option.isSome_map, List.find?_isSome]
  simp [List.mem_map]

/-- The registry that is there when calls have been made one after the other, beginning with the
empty registry. -/
def after (calls : List Call) : Registry := calls.foldl (fun r c => c.leave r) empty

theorem after_concat (calls : List Call) (c : Call) :
    after (calls ++ [c]) = c.leave (after calls) := by
  unfold after
  rw [List.foldl_append, List.foldl_cons, List.foldl_nil]

/-- Nothing is found under the empty name. -/
theorem find?_nil (r : Registry) : r.find? [] = none := by
  refine Option.eq_none_iff_forall_ne_some.mpr fun p h => ?_
  obtain ⟨hp, hname⟩ := find?_eq_some_iff.mp h
  exact r.named p hp hname

/-- A call leaves a registry in which there is found what was found before, and the patch of the
call under its name, if nothing was found there and the name is not empty. -/
theorem find?_leave (c : Call) (r : Registry) {name : Text} (h : name ≠ []) :
    (c.leave r).find? name = (r.find? name).or (if c.name = name then some c.patch else none) := by
  unfold Call.leave
  cases hmake : c.make r with
  | ok u r' => exact find?_of_add (Call.make_eq_ok_iff.mp hmake) name
  | error e r' =>
      obtain ⟨rfl, refused⟩ := Call.make_eq_error_iff.mp hmake
      simp only
      split
      · next same =>
          subst same
          obtain ⟨unnamed, -⟩ | ⟨-, taken, -⟩ := add_eq_error_iff.mp refused
          · exact absurd unnamed h
          · exact (Option.or_of_isSome (mem_names_iff.mp taken)).symm
      · exact Option.or_none.symm

/-- Under each name that is not empty there is found the patch of the first call with it. -/
theorem find?_after (calls : List Call) {name : Text} (h : name ≠ []) :
    (after calls).find? name = first? calls name := by
  induction calls using List.reverseRecOn with
  | nil => rfl
  | append_singleton calls c ih => rw [after_concat, find?_leave c _ h, ih, first?_concat]

theorem mem_names_after_iff {calls : List Call} {name : Text} :
    name ∈ (after calls).names ↔ name ≠ [] ∧ name ∈ calls.map Call.name := by
  rw [mem_names_iff]
  by_cases h : name = []
  · simp [h, find?_nil]
  · rw [find?_after calls h, first?_isSome_iff]
    simp [h]

/-- What a registry is when calls have been made since it was empty. -/
structure Reflects (calls : List Call) (r : Registry) : Prop where
  /-- The patches are listed in the order of the bytes of their names, no two of which are the
  same. -/
  ordered : r.patches.Pairwise fun p q => p.name.bytes < q.name.bytes
  /-- No name is empty. -/
  named : ∀ p ∈ r.patches, p.name ≠ []
  /-- What is listed is what is found by its name. -/
  listed : ∀ p, p ∈ r.patches ↔ r.find? p.name = some p
  /-- Under a name there is found the patch of the first call with it, but under the empty name
  nothing. -/
  found : ∀ name, r.find? name = if name = [] then none else first? calls name
  /-- There are as many patches as names that calls have been made with, the empty one left out. -/
  size : r.size = ((calls.map Call.name).toFinset.erase []).card
  /-- A further call fails if its name is empty or has been used, and only then, and leaves the
  registry as it is. -/
  refuses : ∀ (c : Call) (e : Error) (r' : Registry), c.make r = .error e r' ↔ r' = r ∧
    (c.name = [] ∧ e = .emptyName ∨
      c.name ≠ [] ∧ c.name ∈ calls.map Call.name ∧ e = .duplicate c.name)

/-- Whatever calls are made on a registry, from the empty one on and with any that fail among them,
it lists its patches in the order of the bytes of their names, none of which is empty, finds under
each other name the patch of the first call with it, and has as many patches as such names have been
used. A call fails exactly if its name is empty or has been used before, and then changes
nothing. -/
theorem after_reflects (calls : List Call) : Reflects calls (after calls) where
  ordered := (after calls).ordered
  named := (after calls).named
  listed p := by
    rw [find?_eq_some_iff]
    simp
  found name := by
    split
    · next h => rw [h, find?_nil]
    · next h => exact find?_after calls h
  size := by
    have same : (after calls).names.toFinset = (calls.map Call.name).toFinset.erase [] := by
      ext name
      rw [Finset.mem_erase, List.mem_toFinset, List.mem_toFinset, mem_names_after_iff]
    rw [← same, List.toFinset_card_of_nodup (after calls).names_nodup]
    exact (List.length_map Patch.name).symm
  refuses c e r' := by
    rw [Call.make_eq_error_iff, add_eq_error_iff]
    refine and_congr_right fun _ => or_congr_right ?_
    rw [mem_names_after_iff]
    exact and_congr_right fun h => by simp [Call.name, h]

/-- A call with the empty name is the first with it, but its patch is not found. -/
theorem unnamed_not_found :
    first? [.register [] []] [] = some ⟨[], []⟩ ∧ (after [.register [] []]).find? [] = none :=
  ⟨rfl, rfl⟩

end PatchTrail.Registry
