import PatchTrail.Proofs.Disk.Places
import PatchTrail.Proofs.Disk.Spelling

/-!
# Paths that stay in their directory

The names of a path below a directory are taken from there on, and each step back may lead out of
it. A path stays in every directory if and only if none of its beginnings has more steps back than
other names (`Path.stays_iff`).
-/

namespace PatchTrail.Path

/-- A place is in the directory of a path: it is that directory or a place below. -/
def Inside (here : List Text) (directory : Text) (p : List Text) : Prop :=
  spelled here directory <+: p

instance (here : List Text) (directory : Text) (p : List Text) :
    Decidable (Inside here directory p) := inferInstanceAs (Decidable (_ <+: _))

/-- Whether names that begin at some depth below a place stay below it. -/
def staysFrom : (depth : Nat) → List Text → Bool
  | _, [] => true
  | depth, name :: rest =>
    if name = ['.', '.'] then decide (0 < depth) && staysFrom (depth - 1) rest
    else staysFrom (depth + 1) rest

/-- Whether no beginning of a path has more steps back than other names. -/
def stays (path : Text) : Bool := staysFrom 0 (names path)

variable {place ns ms : List Text} {name path : Text}

/-- A path below a directory is taken from the directory on. -/
theorem spelled_below (here : List Text) (directory path : Text) :
    spelled here (below directory path) = (names path).foldl enter (spelled here directory) := by
  unfold spelled
  rw [names_below, isAbsolute_below, List.foldl_append]

theorem staysFrom_of_append {depth : Nat} (h : staysFrom depth (ns ++ ms) = true) :
    staysFrom depth ns = true := by
  induction ns generalizing depth with
  | nil => rfl
  | cons n ns ih =>
      rw [List.cons_append, staysFrom] at h
      rw [staysFrom]
      by_cases back : n = ['.', '.']
      · rw [if_pos back, Bool.and_eq_true] at h ⊢
        exact ⟨h.1, ih h.2⟩
      · rw [if_neg back] at h ⊢
        exact ih h

theorem enter_back_concat (base front : List Text) (last : Text) :
    enter (base ++ (front ++ [last])) ['.', '.'] = base ++ front := by
  rw [enter, if_pos rfl, ← List.append_assoc, List.dropLast_concat]

theorem enter_append (base front : List Text) (h : name ≠ ['.', '.']) :
    enter (base ++ front) name = base ++ (front ++ [name]) := by
  rw [enter, if_neg h, List.append_assoc]

theorem prefix_foldl_enter (base front : List Text)
    (h : staysFrom front.length ns = true) : base <+: ns.foldl enter (base ++ front) := by
  induction ns generalizing front with
  | nil => exact List.prefix_append base front
  | cons name ns ih =>
      rw [List.foldl_cons]
      by_cases back : name = ['.', '.']
      · rw [staysFrom, if_pos back] at h
        rcases List.eq_nil_or_concat front with rfl | ⟨front, last, rfl⟩
        · simp at h
        · rw [List.concat_eq_append, back, enter_back_concat]
          exact ih front (by simpa using h)
      · rw [staysFrom, if_neg back] at h
        rw [enter_append base front back]
        refine ih (front ++ [name]) ?_
        rwa [List.length_append]

/-- A place without a name is never left for one with it but by that name. -/
theorem not_mem_foldl_enter (outside : name ∉ place) (other : name ∉ ns) :
    name ∉ ns.foldl enter place := by
  induction ns generalizing place with
  | nil => exact outside
  | cons n ns ih =>
      rw [List.mem_cons, not_or] at other
      refine ih (fun h => ?_) other.2
      unfold enter at h
      split at h
      · exact outside (List.dropLast_subset place h)
      · rcases List.mem_append.mp h with h | h
        · exact outside h
        · exact other.1 (List.mem_singleton.mp h)

/-- Names that do not stay below a name leave it for good if it is not one of them. -/
theorem not_prefix_foldl_enter (front : List Text) (other : name ∉ ns)
    (h : staysFrom front.length ns = false) : ¬ [name] <+: ns.foldl enter ([name] ++ front) := by
  induction ns generalizing front with
  | nil => simp [staysFrom] at h
  | cons n ns ih =>
      have others : name ∉ ns := fun hname => other (List.mem_cons_of_mem n hname)
      rw [List.foldl_cons]
      by_cases back : n = ['.', '.']
      · rw [staysFrom, if_pos back] at h
        rcases List.eq_nil_or_concat front with rfl | ⟨front, last, rfl⟩
        · -- the name itself is left here, and no other leads back to it
          have gone : name ∉ ns.foldl enter [] := not_mem_foldl_enter List.not_mem_nil others
          have left : enter ([name] ++ []) n = [] := by
            rw [back]
            rfl
          rw [left]
          exact fun inside => gone (inside.subset List.mem_cons_self)
        · rw [List.concat_eq_append, back, enter_back_concat]
          exact ih front others (by simpa using h)
      · rw [staysFrom, if_neg back] at h
        rw [enter_append [name] front back]
        refine ih (front ++ [n]) others ?_
        rwa [List.length_append]

/-- There is always a name that is not among others. -/
theorem exists_name_not_mem (ns : List Text) :
    ∃ name : Text, '/' ∉ name ∧ name ≠ [] ∧ name ≠ ['.'] ∧ name ≠ ['.', '.'] ∧ name ∉ ns := by
  refine ⟨List.replicate (ns.flatten.length + 1) 'x', ?_, ?_, ?_, ?_, ?_⟩
  · simp
  · simp
  · simp [List.replicate_succ]
  · simp [List.replicate_succ]
  · intro h
    have longer := (List.sublist_flatten_of_mem h).length_le
    rw [List.length_replicate] at longer
    exact absurd longer (Nat.not_succ_le_self _)

/-- A path stays in every directory, wherever that is, if and only if none of its beginnings has
more steps back than other names. -/
theorem stays_iff (path : Text) : stays path = true ↔
    ∀ here directory, Inside here directory (spelled here (below directory path)) := by
  constructor
  · intro h here directory
    have stay := prefix_foldl_enter (spelled here directory) [] h
    rwa [List.append_nil, ← spelled_below] at stay
  · intro h
    refine Bool.of_not_eq_false fun leaves => ?_
    obtain ⟨name, slash, full, dot, back, other⟩ := exists_name_not_mem (names path)
    have named : spelled [] ('/' :: name) = [name] := by
      have hnames : names ('/' :: name) = [name] := by
        have := names_append [] name
        rwa [List.nil_append, names_nil, names_of_name slash full dot] at this
      rw [spelled, hnames, List.foldl_cons, List.foldl_nil, enter, if_neg back]
      rfl
    have inside := h [] ('/' :: name)
    rw [Inside, spelled_below, named] at inside
    exact not_prefix_foldl_enter [] other leaves inside

example : stays "/a/./../b" = true ∧ stays "a/../../b" = false := by decide

end PatchTrail.Path
