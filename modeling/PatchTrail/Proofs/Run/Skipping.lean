import PatchTrail.Proofs.Registry.Adding
import PatchTrail.Proofs.Run.Moments

/-!
# Runs that leave patches out

To leave patches out of a run is to run without them. Whatever else a run does, it carries out the
patches that are not to be left out, one after the other, and its summary says no more than which
these are and which the others (`carryOut_eq`). So a run on a registry that lacks the patches from
the first carries out the same ones, on the same states, and stops where the other one does
(`apply_skipping`).
-/

namespace PatchTrail

/-- A registry without the patches of some names. -/
def Registry.without (r : Registry) (names : List Text) : Registry where
  patches := r.patches.filter fun p => !names.contains p.name
  sorted := r.sorted.filter _
  named := fun p hp => r.named p (List.mem_filter.mp hp).1

namespace Run

/-- How what comes of a run that leaves patches of a registry out is related to what comes of a run
on a registry that lacks them. -/
inductive LeavesOut (registry : Registry) (skip : List Text) {ε σ : Type} :
    EStateM.Result ε σ Summary → EStateM.Result ε σ Summary → Prop where
  /-- Both fail in the same way, and leave the same behind. -/
  | stopped (e : ε) (final : σ) : LeavesOut registry skip (.error e final) (.error e final)
  /-- Both succeed, apply the same patches and leave the same behind. The patches of the registry
  are divided into those that are applied and those that are left out, each in one place, and the
  latter are listed in the order of the bytes of their names. -/
  | finished {applied skipped : List Text} (final : σ)
      (divided : (applied ++ skipped).Perm registry.names) (once : (applied ++ skipped).Nodup)
      (ordered : skipped.Pairwise fun name name' => name.bytes < name'.bytes)
      (sought : ∀ name, name ∈ skipped ↔ name ∈ registry.names ∧ name ∈ skip) :
      LeavesOut registry skip (.ok ⟨applied, skipped⟩ final) (.ok ⟨applied, []⟩ final)

/-! ## What a run carries out -/

section

variable {ε σ : Type} {act : Patch → EStateM ε σ Unit}

/-- Carries out patches one after the other as a run does, whatever it is to carry out a patch, and
whatever is changed by it. -/
def carryOut (act : Patch → EStateM ε σ Unit) (skip : List Text) (done : Summary) :
    List Patch → EStateM ε σ Summary
  | [] => return done
  | p :: rest => do
    if p.name ∈ skip then
      carryOut act skip { done with skipped := done.skipped ++ [p.name] } rest
    else
      act p
      carryOut act skip { done with applied := done.applied ++ [p.name] } rest

theorem carryOut_cons (skip : List Text) (done : Summary) (p : Patch) (rest : List Patch) :
    carryOut act skip done (p :: rest) =
      if p.name ∈ skip then
        carryOut act skip { done with skipped := done.skipped ++ [p.name] } rest
      else act p >>= fun _ =>
        carryOut act skip { done with applied := done.applied ++ [p.name] } rest := rfl

theorem applyAll_eq (skip : List Text) (done : Summary) (ps : List Patch) :
    applyAll skip done ps = carryOut Patch.apply skip done ps := by
  induction ps generalizing done with
  | nil => rfl
  | cons p rest ih => rw [applyAll_cons, carryOut_cons, ih, ih]

/-- The patches that are not to be left out. -/
def kept (skip : List Text) (ps : List Patch) : List Patch :=
  ps.filter fun p => !skip.contains p.name

/-- The patches that are to be left out. -/
def leftOut (skip : List Text) (ps : List Patch) : List Patch :=
  ps.filter fun p => skip.contains p.name

/-- A run carries out the patches that are not to be left out, and tells which these are. -/
theorem carryOut_eq (skip : List Text) (done : Summary) (ps : List Patch) :
    carryOut act skip done ps = (kept skip ps).forM act >>= fun _ => pure
      { applied := done.applied ++ (kept skip ps).map Patch.name
        skipped := done.skipped ++ (leftOut skip ps).map Patch.name } := by
  induction ps generalizing done with
  | nil =>
      simp only [kept, leftOut, List.filter_nil, List.map_nil, List.append_nil]
      rfl
  | cons p rest ih =>
      rw [carryOut_cons]
      by_cases h : p.name ∈ skip
      · have hkept : kept skip (p :: rest) = kept skip rest :=
          List.filter_cons_of_neg (by simp [h])
        have hleft : leftOut skip (p :: rest) = p :: leftOut skip rest :=
          List.filter_cons_of_pos (by simp [h])
        rw [if_pos h, ih, hkept, hleft, List.map_cons, List.append_assoc, List.singleton_append]
      · have hkept : kept skip (p :: rest) = p :: kept skip rest :=
          List.filter_cons_of_pos (by simp [h])
        have hleft : leftOut skip (p :: rest) = leftOut skip rest :=
          List.filter_cons_of_neg (by simp [h])
        have first : (p :: kept skip rest).forM act =
            act p >>= fun _ => (kept skip rest).forM act := rfl
        rw [if_neg h, ih, hkept, hleft, first, bind_assoc, List.map_cons, List.append_assoc,
          List.singleton_append]

theorem kept_nil (ps : List Patch) : kept [] ps = ps := List.filter_eq_self.mpr (by simp)

theorem leftOut_nil (ps : List Patch) : leftOut [] ps = [] := List.filter_eq_nil_iff.mpr (by simp)

/-- Each patch is either to be left out or not. -/
theorem kept_append_leftOut_perm (skip : List Text) (ps : List Patch) :
    (kept skip ps ++ leftOut skip ps).Perm ps :=
  List.perm_append_comm.trans
    (List.filter_append_perm (fun p : Patch => skip.contains p.name) ps)

theorem mem_leftOut_names_iff {registry : Registry} {skip : List Text} {name : Text} :
    name ∈ (leftOut skip registry.patches).map Patch.name ↔
      name ∈ registry.names ∧ name ∈ skip := by
  unfold leftOut Registry.names
  simp only [List.mem_map, List.mem_filter, List.contains_iff_mem]
  constructor
  · rintro ⟨p, ⟨hp, hskip⟩, rfl⟩
    exact ⟨⟨p, hp, rfl⟩, hskip⟩
  · rintro ⟨⟨p, hp, rfl⟩, hskip⟩
    exact ⟨p, ⟨hp, hskip⟩, rfl⟩

theorem carryOut_leavesOut (act : Patch → EStateM ε σ Unit) (registry : Registry)
    (skip : List Text) (s : σ) :
    LeavesOut registry skip (carryOut act skip {} registry.patches s)
      (carryOut act [] {} (registry.without skip).patches s) := by
  have same : (registry.without skip).patches = kept skip registry.patches := rfl
  rw [carryOut_eq, carryOut_eq, same, kept_nil, leftOut_nil]
  cases h : (kept skip registry.patches).forM act s with
  | error e final =>
      rw [bind_error h, bind_error h]
      exact .stopped e final
  | ok u final =>
      have divided := (kept_append_leftOut_perm skip registry.patches).map Patch.name
      rw [List.map_append] at divided
      rw [bind_ok h, bind_ok h]
      refine .finished final divided (divided.nodup_iff.mpr registry.names_nodup) ?_
        fun _ => mem_leftOut_names_iff
      exact List.pairwise_map.mpr (registry.ordered.filter _)

end

/-- To leave patches out of a run is to run without them: on every tree with every trail, the run
that leaves them out does what the run does on the registry that lacks them. The same is true of
patches carried out one after the other, whatever it is to carry out a patch and whatever is changed
by it, such as a tree with another kind of trail. -/
theorem apply_skipping :
    (∀ (registry : Registry) (config : Config) (root : Text) (disk : Disk) (trail : Trail),
      LeavesOut registry config.skip (apply registry config root disk trail)
        (apply (registry.without config.skip) { config with skip := [] } root disk trail)) ∧
    ∀ (ε σ : Type) (act : Patch → EStateM ε σ Unit) (registry : Registry) (skip : List Text)
      (s : σ),
      LeavesOut registry skip (carryOut act skip {} registry.patches s)
        (carryOut act [] {} (registry.without skip).patches s) := by
  refine ⟨fun registry config root disk trail => ?_, fun _ _ => carryOut_leavesOut⟩
  unfold apply
  rw [applyAll_eq, applyAll_eq]
  exact carryOut_leavesOut Patch.apply registry config.skip _

/-- The patch that makes a file is left out, so the next one cannot remove it. -/
example :
    let registry : Registry :=
      { patches := [⟨"a", [.writeFile "x" (Text.encode "1\n")]⟩, ⟨"b", [.deleteFile "x"]⟩]
        sorted := by decide
        named := by decide }
    apply registry { skip := ["z", "a", "a"] } "/" ⟨[], []⟩ {} =
      .error ⟨"b", 0, .disk .remove "x" .missing⟩
        { root := "/", disk := ⟨[], []⟩
          trail := ⟨"--- a/x\n+++ /dev/null\nBinary file\n", none⟩ } :=
  rfl

end Run

end PatchTrail
