import PatchTrail.Instruction.Basic
import PatchTrail.Proofs.Except

/-!
# Sequences of sequences

Sequences can lie in sequences. Whatever the leaves of such a nest are, and whatever state they work
on, to follow the nest is to follow its leaves one after the other, up to the first that fails; the
failure is that of the leaf, wrapped in the positions that lead to it (`Nest.Flat`,
`Nest.flat_run`). Sequences of instructions in each other are followed as such a nest
(`Nest.apply_toInstruction`).
-/

namespace PatchTrail

open Instruction (Error)

/-- Things in sequences that lie in each other. -/
inductive Nest (α : Type) where
  | leaf (a : α)
  | sequence (parts : List (Nest α))

namespace Nest

variable {α σ : Type} {act : α → EStateM Error σ Unit}

/-! ## Leaves and their places -/

/-- The part that positions lead to, the outermost first. -/
def part? : Nest α → List Nat → Option (Nest α)
  | n, [] => some n
  | leaf _, _ :: _ => none
  | sequence parts, index :: path => parts[index]?.bind (part? · path)

/-- The leaves from left to right, each with the positions that lead to it. -/
def leaves : Nest α → List (List Nat × α)
  | leaf a => [([], a)]
  | sequence parts => leavesFrom 0 parts
where
  /-- The leaves of the parts of a sequence, the first of which stands at a position. -/
  leavesFrom (index : Nat) : List (Nest α) → List (List Nat × α)
    | [] => []
    | n :: rest => (leaves n).map (Prod.map (index :: ·) id) ++ leavesFrom (index + 1) rest

theorem mem_map_path_iff {ls : List (List Nat × α)} {index : Nat} {path : List Nat} {a : α} :
    (path, a) ∈ ls.map (Prod.map (index :: ·) id) ↔
      ∃ path', path = index :: path' ∧ (path', a) ∈ ls := by
  simp only [List.mem_map, Prod.exists, Prod.map_apply, id, Prod.mk.injEq]
  grind

mutual

/-- The leaves are the parts that are leaves. -/
theorem mem_leaves_iff (n : Nest α) {path : List Nat} {a : α} :
    (path, a) ∈ n.leaves ↔ n.part? path = some (leaf a) := by
  match n with
  | leaf b =>
      cases path with
      | nil => simp [leaves, part?, eq_comm]
      | cons index path => simp [leaves, part?]
  | sequence parts =>
      rw [leaves, mem_leavesFrom_iff parts 0]
      cases path with
      | nil => simp [part?]
      | cons index path => simp [part?, Option.bind_eq_some_iff]

/-- The leaves of a sequence are those of its parts. -/
theorem mem_leavesFrom_iff (parts : List (Nest α)) (index : Nat) {path : List Nat} {a : α} :
    (path, a) ∈ leaves.leavesFrom index parts ↔
      ∃ k path' n, path = (index + k) :: path' ∧ parts[k]? = some n ∧
        n.part? path' = some (leaf a) := by
  match parts with
  | [] => simp [leaves.leavesFrom]
  | n :: rest =>
      rw [leaves.leavesFrom, List.mem_append, mem_map_path_iff, mem_leavesFrom_iff rest]
      simp only [mem_leaves_iff n]
      constructor
      · rintro (⟨path', rfl, h⟩ | ⟨k, path', m, rfl, hk, h⟩)
        · exact ⟨0, path', n, rfl, rfl, h⟩
        · exact ⟨k + 1, path', m, by rw [Nat.add_assoc, Nat.add_comm 1], hk, h⟩
      · rintro ⟨k, path', m, rfl, hk, h⟩
        cases k with
        | zero =>
            cases hk
            exact .inl ⟨path', rfl, h⟩
        | succ k => exact .inr ⟨k, path', m, by rw [Nat.add_assoc, Nat.add_comm 1], hk, h⟩

end

mutual

/-- The leaves stand in the order of their positions. -/
theorem leaves_sorted (n : Nest α) : n.leaves.Pairwise fun l l' => l.1 < l'.1 := by
  match n with
  | leaf a => exact List.pairwise_singleton _ _
  | sequence parts => exact leavesFrom_sorted parts 0

theorem leavesFrom_sorted (parts : List (Nest α)) (index : Nat) :
    (leaves.leavesFrom index parts).Pairwise fun l l' => l.1 < l'.1 := by
  match parts with
  | [] => exact .nil
  | n :: rest =>
      rw [leaves.leavesFrom, List.pairwise_append]
      refine ⟨?_, leavesFrom_sorted rest (index + 1), ?_⟩
      · rw [List.pairwise_map]
        exact (leaves_sorted n).imp fun h => List.cons_lt_cons_self.mpr h
      · rintro ⟨path, a⟩ hl ⟨path', b⟩ hl'
        obtain ⟨inner, rfl, -⟩ := mem_map_path_iff.mp hl
        obtain ⟨k, inner', m, rfl, -⟩ := (mem_leavesFrom_iff rest (index + 1)).mp hl'
        exact List.cons_lt_cons_iff.mpr (.inl (by omega))

end

/-! ## Following a nest -/

/-- Follows a nest: in a sequence one part after the other, where a failure is wrapped in the
position of the part that failed. -/
def run (act : α → EStateM Error σ Unit) : Nest α → EStateM Error σ Unit
  | leaf a => act a
  | sequence parts => runFrom 0 parts
where
  /-- Follows the parts of a sequence, the first of which stands at a position. -/
  runFrom (index : Nat) : List (Nest α) → EStateM Error σ Unit
    | [] => return ()
    | n :: rest => do
      (run act n).adaptExcept (Error.sequence index)
      runFrom (index + 1) rest

/-- Follows leaves one after the other. -/
def follow (act : α → EStateM Error σ Unit) (ls : List (List Nat × α)) : EStateM Error σ Unit :=
  (ls.map Prod.snd).forM act

/-- A failure wrapped in positions, the outermost first. -/
def wrapped (path : List Nat) (cause : Error) : Error := path.foldr Error.sequence cause

/-- A change that comes to following the leaves of a nest one after the other: it succeeds if all of
them do, and otherwise fails where the first of them does, with its failure wrapped in the positions
that lead to it. -/
structure Flat (act : α → EStateM Error σ Unit) (n : Nest α) (whole : EStateM Error σ Unit) :
    Prop where
  succeeds (s s' : σ) : whole s = .ok () s' ↔ follow act n.leaves s = .ok () s'
  fails (e : Error) (s s' : σ) : whole s = .error e s' ↔
    ∃ before path a behind cause mid, n.leaves = before ++ (path, a) :: behind ∧
      follow act before s = .ok () mid ∧ act a mid = .error cause s' ∧
      follow act n.leaves s = .error cause s' ∧ e = wrapped path cause

/-- Follows leaves one after the other, where a failure is wrapped in the positions that lead to the
leaf. -/
def followPlaced (act : α → EStateM Error σ Unit) : List (List Nat × α) → EStateM Error σ Unit
  | [] => return ()
  | (path, a) :: rest => do
    (act a).adaptExcept (wrapped path)
    followPlaced act rest

theorem follow_cons (path : List Nat) (a : α) (rest : List (List Nat × α)) :
    follow act ((path, a) :: rest) = act a >>= fun _ => follow act rest := rfl

theorem followPlaced_cons (path : List Nat) (a : α) (rest : List (List Nat × α)) :
    followPlaced act ((path, a) :: rest) =
      (act a).adaptExcept (wrapped path) >>= fun _ => followPlaced act rest := rfl

theorem followPlaced_append (ls ls' : List (List Nat × α)) :
    followPlaced act (ls ++ ls') = followPlaced act ls >>= fun _ => followPlaced act ls' := by
  induction ls with
  | nil => rfl
  | cons l ls ih =>
      obtain ⟨path, a⟩ := l
      rw [List.cons_append, followPlaced_cons, followPlaced_cons, ih]
      funext s
      cases h : (act a).adaptExcept (wrapped path) s with
      | error e mid => rw [bind_error h, bind_error (bind_error h)]
      | ok u mid =>
          rw [bind_ok h]
          cases h' : followPlaced act ls mid with
          | error e last => rw [bind_error h', bind_error ((bind_ok h).trans h')]
          | ok u last => rw [bind_ok h', bind_ok ((bind_ok h).trans h')]

/-- A position more around leaves is a position more around their failures. -/
theorem followPlaced_map (ls : List (List Nat × α)) (index : Nat) :
    followPlaced act (ls.map (Prod.map (index :: ·) id)) =
      (followPlaced act ls).adaptExcept (Error.sequence index) := by
  induction ls with
  | nil => rfl
  | cons l ls ih =>
      obtain ⟨path, a⟩ := l
      rw [List.map_cons, Prod.map_apply, followPlaced_cons, followPlaced_cons, ih,
        adaptExcept_bind, adaptExcept_adaptExcept]
      rfl

mutual

/-- To follow a nest is to follow its leaves. -/
theorem run_eq (n : Nest α) : n.run act = followPlaced act n.leaves := by
  match n with
  | leaf a =>
      funext s
      rw [leaves, followPlaced_cons, run]
      cases h : act a s with
      | error e mid => rw [bind_error (adaptExcept_error (wrapped []) h), wrapped, List.foldr_nil]
      | ok u mid => rw [bind_ok (adaptExcept_ok (wrapped []) h), followPlaced]; rfl
  | sequence parts => exact runFrom_eq parts 0

theorem runFrom_eq (parts : List (Nest α)) (index : Nat) :
    run.runFrom act index parts = followPlaced act (leaves.leavesFrom index parts) := by
  match parts with
  | [] => rfl
  | n :: rest =>
      rw [run.runFrom, leaves.leavesFrom, followPlaced_append, followPlaced_map, run_eq n,
        runFrom_eq rest]

end

theorem followPlaced_succeeds_iff (ls : List (List Nat × α)) {s s' : σ} :
    followPlaced act ls s = .ok () s' ↔ follow act ls s = .ok () s' := by
  induction ls generalizing s with
  | nil => rfl
  | cons l ls ih =>
      obtain ⟨path, a⟩ := l
      rw [followPlaced_cons, follow_cons]
      simp only [bind_succeeds_iff, adaptExcept_succeeds_iff, ih]

/-- The leaves up to the first that fails are followed, and its failure is reported with the
positions that lead to it. -/
theorem followPlaced_fails_iff (ls : List (List Nat × α)) {e : Error} {s s' : σ} :
    followPlaced act ls s = .error e s' ↔
      ∃ before path a behind cause mid, ls = before ++ (path, a) :: behind ∧
        follow act before s = .ok () mid ∧ act a mid = .error cause s' ∧
        follow act ls s = .error cause s' ∧ e = wrapped path cause := by
  induction ls generalizing s with
  | nil =>
      refine iff_of_false nofun ?_
      rintro ⟨before, path, a, behind, -, -, h, -⟩
      exact absurd h (by simp)
  | cons l ls ih =>
      obtain ⟨path, a⟩ := l
      rw [followPlaced_cons, follow_cons]
      cases h : act a s with
      | error cause mid =>
          rw [bind_error (adaptExcept_error _ h), bind_error h]
          constructor
          · rintro ⟨⟩
            exact ⟨[], path, a, ls, cause, s, rfl, rfl, h, rfl, rfl⟩
          · rintro ⟨before, path', a', behind, cause', last, hls, done, -, failed, rfl⟩
            cases failed
            cases before with
            | nil =>
                cases hls
                rfl
            | cons first before =>
                cases hls
                rw [follow_cons, bind_error h] at done
                cases done
      | ok u mid =>
          -- The first leaf succeeds, so it is the first of those before the leaf that fails.
          rw [bind_ok (adaptExcept_ok _ h), bind_ok h, ih]
          constructor
          · rintro ⟨before, path', a', behind, cause, last, rfl, done, failed, whole, rfl⟩
            exact ⟨(path, a) :: before, path', a', behind, cause, last, rfl,
              (bind_ok h).trans done, failed, whole, rfl⟩
          · rintro ⟨before, path', a', behind, cause, last, hls, done, failed, whole, rfl⟩
            cases before with
            | nil =>
                cases hls
                cases done
                rw [h] at failed
                cases failed
            | cons first before =>
                cases hls
                exact ⟨before, path', a', behind, cause, last, rfl,
                  (bind_ok h).symm.trans done, failed, whole, rfl⟩

/-- To follow a nest comes to following its leaves one after the other. -/
theorem flat_run (act : α → EStateM Error σ Unit) (n : Nest α) : n.Flat act (n.run act) where
  succeeds s s' := by rw [run_eq, followPlaced_succeeds_iff]
  fails e s s' := by rw [run_eq, followPlaced_fails_iff]

/-! ## Nests of instructions -/

/-- A nest of instructions as one instruction. -/
def toInstruction : Nest Instruction → Instruction
  | leaf i => i
  | sequence parts => .sequence (toInstructions parts)
where
  /-- Nests of instructions as instructions. -/
  toInstructions : List (Nest Instruction) → List Instruction
    | [] => []
    | n :: rest => toInstruction n :: toInstructions rest

mutual

/-- To follow sequences of instructions in each other is to follow a nest. -/
theorem apply_toInstruction (n : Nest Instruction) :
    n.toInstruction.apply = n.run Instruction.apply := by
  match n with
  | leaf i => rfl
  | sequence parts => exact applyFrom_toInstructions parts 0

theorem applyFrom_toInstructions (parts : List (Nest Instruction)) (index : Nat) :
    Instruction.apply.applyFrom index (toInstruction.toInstructions parts) =
      run.runFrom Instruction.apply index parts := by
  match parts with
  | [] => rfl
  | n :: rest =>
      rw [toInstruction.toInstructions, Instruction.apply.applyFrom, run.runFrom,
        apply_toInstruction n, applyFrom_toInstructions rest]

end

/-- **Sequences flatten.** The leaves of a nest are its parts that are leaves, in the order of the
positions that lead to them. To follow a nest comes to following its leaves one after the other,
whatever they are and whatever they change: it leaves the same state and succeeds if they do, and
otherwise fails where the first leaf does that fails, with the failure of that leaf wrapped in the
positions that lead to it. This is how sequences of instructions in each other are followed on every
tree with every trail. -/
theorem sequences_flatten :
    (∀ n : Nest Instruction, n.Flat Instruction.apply n.toInstruction.apply) ∧
    ∀ (α σ : Type) (act : α → EStateM Error σ Unit) (n : Nest α),
      n.Flat act (n.run act) ∧
      (∀ path a, (path, a) ∈ n.leaves ↔ n.part? path = some (leaf a)) ∧
      n.leaves.Pairwise fun l l' => l.1 < l'.1 := by
  refine ⟨fun n => ?_, fun α σ act n => ⟨flat_run act n, fun _ _ => mem_leaves_iff n,
    leaves_sorted n⟩⟩
  rw [apply_toInstruction]
  exact flat_run Instruction.apply n

/-- Behind a sequence without instructions, the second instruction of the second sequence fails. -/
example :
    (toInstruction (sequence [sequence [],
      sequence [leaf (.sequence []), leaf (.deleteFile "x"), leaf (.deleteFile "y")]])).apply
        { root := "app", disk := ⟨[], []⟩ } =
      .error (.sequence 1 (.sequence 1 (.disk .remove "x" .missing)))
        { root := "app", disk := ⟨[], []⟩
          trail := ⟨"--- a/x\n+++ /dev/null\nBinary file\n", none⟩ } :=
  rfl

end Nest

end PatchTrail
