import PatchTrail.Patch.Basic

/-!
# Registries of patches

A registry holds patches in the order of their names, which are all different and none of them
empty. A patch that would break this is refused (`add`), and patches are found by their names
(`find?`).
-/

namespace PatchTrail

/-- Patches in the order of their names. -/
structure Registry where
  patches : List Patch
  sorted : patches.Pairwise fun p q => p.name < q.name
  named : ∀ p ∈ patches, p.name ≠ []

namespace Registry

/-- Why a patch is refused. -/
inductive Error where
  | emptyName
  | duplicate (name : Text)
deriving DecidableEq, Repr

/-- Why a patch is refused, in words. -/
def Error.message : Error → Text
  | emptyName => "missing patch name"
  | duplicate name => "duplicate patch " ++ name.quoted

/-- A refusal shown part by part. -/
def Error.describe : Error → Text
  | emptyName => "EmptyName"
  | duplicate name => Text.describeParts "DuplicatePatch" [name.quoted]

/-- The registry without patches. -/
def empty : Registry := ⟨[], .nil, by simp⟩

instance : Inhabited Registry := ⟨empty⟩

/-- The number of patches. -/
def size (r : Registry) : Nat := r.patches.length

/-- The patch of a name. -/
def find? (r : Registry) (name : Text) : Option Patch := r.patches.find? fun p => p.name == name

/-! ## Adding patches -/

/-- Patches with another one in front of the first with a greater name. -/
def insert (p : Patch) : List Patch → List Patch
  | [] => [p]
  | q :: rest => if p.name < q.name then p :: q :: rest else q :: insert p rest

theorem mem_insert {p q : Patch} {ps : List Patch} : q ∈ insert p ps ↔ q = p ∨ q ∈ ps := by
  induction ps with
  | nil => simp [insert]
  | cons r rest ih =>
    rw [insert]
    split
    · simp
    · simp only [List.mem_cons, ih]
      constructor
      · rintro (h | h | h) <;> simp [h]
      · rintro (h | h | h) <;> simp [h]

/-- A patch with a new name is inserted where the order of the names wants it. -/
theorem pairwise_insert {p : Patch} {ps : List Patch}
    (sorted : ps.Pairwise fun p q => p.name < q.name) (new : ∀ q ∈ ps, q.name ≠ p.name) :
    (insert p ps).Pairwise fun p q => p.name < q.name := by
  induction ps with
  | nil => simp [insert]
  | cons q rest ih =>
    rw [List.pairwise_cons] at sorted
    rw [insert]
    split
    · next h =>
      refine List.pairwise_cons.2 ⟨fun r hr => ?_, List.pairwise_cons.2 sorted⟩
      rcases List.mem_cons.1 hr with rfl | hr
      · exact h
      · exact List.lt_trans h (sorted.1 r hr)
    · next h =>
      refine List.pairwise_cons.2
        ⟨fun r hr => ?_, ih sorted.2 fun r hr => new r (List.mem_cons_of_mem q hr)⟩
      rcases mem_insert.1 hr with rfl | hr
      · rcases Std.lt_trichotomy q.name r.name with hlt | heq | hgt
        · exact hlt
        · exact absurd heq (new q List.mem_cons_self)
        · exact absurd hgt h
      · exact sorted.1 r hr

/-- A registry with another patch, whose name must be new and not empty. -/
def add (r : Registry) (p : Patch) : Except Error Registry :=
  if unnamed : p.name = [] then .error .emptyName
  else if taken : ∃ q ∈ r.patches, q.name = p.name then .error (.duplicate p.name)
  else .ok
    { patches := insert p r.patches
      sorted := pairwise_insert r.sorted fun q hq h => taken ⟨q, hq, h⟩
      named := fun q hq => by
        rcases mem_insert.1 hq with rfl | hq
        · exact unnamed
        · exact r.named q hq }

/-- A registry with another patch, which is made of a name and instructions. -/
def register (r : Registry) (name : Text) (instructions : List Instruction) :
    Except Error Registry :=
  r.add ⟨name, instructions⟩

end Registry

end PatchTrail
