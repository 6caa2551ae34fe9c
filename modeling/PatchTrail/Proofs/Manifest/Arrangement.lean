import PatchTrail.Manifest.Load
import PatchTrail.Proofs.Manifest.RoundTrip
import PatchTrail.Proofs.Registry.Adding
import PatchTrail.Run.Basic

/-!
# The order of manifests and of their patches

Patches are added to a registry one after the other, and the first that is refused ends the loading.
But which registry comes out, and whether one does, is a matter of the patches alone: the registry
that is loaded is the one whose patches are those of all manifests, in whatever order
(`Manifest.loadAll_eq_ok_iff`). There is at most one such registry, since its patches are sorted by
names that are all different (`Registry.eq_of_perm`).

So manifests may be given in another order, and the patches of each may stand in another order
(`Manifest.loadAll_arranged`).
-/

namespace PatchTrail

/-! ## Loading -/

namespace Manifest

variable {disk : Disk} {base path : Text} {r r' : Registry}

theorem registerItem_eq_ok_iff {item : Item} :
    registerItem disk base item r = .ok () r' ↔
      ∃ p, item.build disk base = .ok p ∧ r'.patches.Perm (p :: r.patches) := by
  unfold registerItem
  cases item.build disk base with
  | error e => simp
  | ok p =>
      simp only [← Registry.add_eq_ok_iff, Except.ok.injEq, exists_eq_left']
      cases r.add p with
      | error e => simp
      | ok r₁ => simp

/-- The patches of items are registered if and only if all can be built and there is a registry of
them and those that are there. -/
theorem registerItems_eq_ok_iff {items : List Item} :
    items.forM (registerItem disk base) r = .ok () r' ↔
      ∃ ps, items.mapM (Item.build disk base) = .ok ps ∧ r'.patches.Perm (ps ++ r.patches) := by
  induction items generalizing r with
  | nil =>
      constructor
      · intro h
        cases h
        exact ⟨[], rfl, .refl _⟩
      · rintro ⟨ps, hps, h⟩
        cases hps
        rw [Registry.eq_of_perm h]
        rfl
  | cons item items ih =>
      have step : (item :: items).forM (registerItem disk base) r = .ok () r' ↔
          ∃ r₁, registerItem disk base item r = .ok () r₁ ∧
            items.forM (registerItem disk base) r₁ = .ok () r' := by
        change EStateM.bind (registerItem disk base item)
          (fun _ => items.forM (registerItem disk base)) r = _ ↔ _
        unfold EStateM.bind
        cases registerItem disk base item r with
        | error e r₁ => simp
        | ok u r₁ => simp
      rw [step, List.mapM_cons]
      constructor
      · rintro ⟨r₁, hfirst, hrest⟩
        obtain ⟨p, hp, hperm⟩ := registerItem_eq_ok_iff.mp hfirst
        obtain ⟨ps, hps, hrest⟩ := ih.mp hrest
        refine ⟨p :: ps, bind_eq_ok_iff.mpr ⟨p, hp, bind_eq_ok_iff.mpr ⟨ps, hps, rfl⟩⟩, ?_⟩
        exact hrest.trans ((hperm.append_left ps).trans List.perm_middle)
      · rintro ⟨all, hall, hperm⟩
        obtain ⟨p, hp, hall⟩ := bind_eq_ok_iff.mp hall
        obtain ⟨ps, hps, hall⟩ := bind_eq_ok_iff.mp hall
        cases hall
        -- the registry between the two steps is made of patches of the last one
        obtain ⟨r₁, hr₁⟩ : ∃ r₁ : Registry, r₁.patches.Perm (p :: r.patches) :=
          Registry.exists_of_subperm r'
            (((List.sublist_append_right ps r.patches).cons_cons p).subperm.trans
              hperm.symm.subperm)
        refine ⟨r₁, registerItem_eq_ok_iff.mpr ⟨p, hp, hr₁⟩, ih.mpr ⟨ps, hps, ?_⟩⟩
        exact hperm.trans (List.perm_middle.symm.trans (hr₁.symm.append_left ps))

/-- The patches that a manifest describes, if it can be loaded and all of them can be built. -/
def described? (disk : Disk) (path : Text) : Option (List Patch) :=
  match load disk path with
  | .error _ => none
  | .ok m => (m.items.mapM (Item.build disk (baseOf path))).toOption

/-- The patches that manifests describe. -/
def described (disk : Disk) (paths : List Text) : List Patch :=
  paths.flatMap fun path => (described? disk path).getD []

theorem loadInto_cons {paths : List Text} :
    loadInto disk (path :: paths) r = .ok r' ↔
      ∃ ps r₁, described? disk path = some ps ∧ r₁.patches.Perm (ps ++ r.patches) ∧
        loadInto disk paths r₁ = .ok r' := by
  rw [loadInto, described?]
  cases load disk path with
  | error e => simp [bind, Except.bind]
  | ok m =>
      have registered : ∀ r₁, m.items.forM (registerItem disk (baseOf path)) r = .ok () r₁ ↔
          ∃ ps, m.items.mapM (Item.build disk (baseOf path)) = .ok ps ∧
            r₁.patches.Perm (ps ++ r.patches) := fun _ => registerItems_eq_ok_iff
      change (match m.items.forM (registerItem disk (baseOf path)) r with
        | .ok () r₁ => loadInto disk paths r₁
        | .error e _ => .error e) = .ok r' ↔ _
      constructor
      · intro h
        cases hregister : m.items.forM (registerItem disk (baseOf path)) r with
        | error e r₁ =>
            rw [hregister] at h
            cases h
        | ok u r₁ =>
            rw [hregister] at h
            obtain ⟨ps, hps, hperm⟩ := (registered r₁).mp hregister
            exact ⟨ps, r₁, congrArg Except.toOption hps, hperm, h⟩
      · rintro ⟨ps, r₁, hps, hperm, h⟩
        have hregister := (registered r₁).mpr ⟨ps, of_toOption hps, hperm⟩
        rw [hregister]
        exact h

/-- Manifests can be loaded if and only if each of them can and there is a registry of what they
describe. -/
theorem loadInto_eq_ok_iff {paths : List Text} :
    loadInto disk paths r = .ok r' ↔ (∀ path ∈ paths, (described? disk path).isSome) ∧
      r'.patches.Perm (described disk paths ++ r.patches) := by
  induction paths generalizing r with
  | nil =>
      constructor
      · intro h
        cases h
        exact ⟨nofun, .refl _⟩
      · rintro ⟨-, h⟩
        exact congrArg Except.ok (Registry.eq_of_perm h.symm)
  | cons path paths ih =>
      have split : described disk (path :: paths) =
          (described? disk path).getD [] ++ described disk paths := List.flatMap_cons
      rw [loadInto_cons, split, List.forall_mem_cons]
      constructor
      · rintro ⟨ps, r₁, hps, hperm, h⟩
        obtain ⟨hall, hrest⟩ := ih.mp h
        rw [hps]
        refine ⟨⟨rfl, hall⟩, hrest.trans ((hperm.append_left _).trans ?_)⟩
        rw [Option.getD_some, ← List.append_assoc]
        exact List.perm_append_comm.append_right _
      · rintro ⟨⟨hsome, hall⟩, hperm⟩
        obtain ⟨ps, hps⟩ := Option.isSome_iff_exists.mp hsome
        rw [hps, Option.getD_some] at hperm
        have hperm : r'.patches.Perm (described disk paths ++ (ps ++ r.patches)) := by
          rw [← List.append_assoc]
          exact hperm.trans (List.perm_append_comm.append_right _)
        obtain ⟨r₁, hr₁⟩ : ∃ r₁ : Registry, r₁.patches.Perm (ps ++ r.patches) :=
          Registry.exists_of_subperm r'
            ((List.sublist_append_right _ _).subperm.trans hperm.symm.subperm)
        exact ⟨ps, r₁, hps, hr₁, ih.mpr ⟨hall, hperm.trans (hr₁.symm.append_left _)⟩⟩

/-- The registry that is loaded is the one of the patches that the manifests describe, if each of
them can be loaded and there is such a registry. -/
theorem loadAll_eq_ok_iff {paths : List Text} :
    loadAll disk paths = .ok r ↔ (∀ path ∈ paths, (described? disk path).isSome) ∧
      r.patches.Perm (described disk paths) := by
  unfold loadAll
  rw [loadInto_eq_ok_iff]
  change _ ∧ r.patches.Perm (_ ++ []) ↔ _
  rw [List.append_nil]

/-! ## Rearranging -/

/-- The names of the files that a step copies, as they are written in the manifest. -/
def Step.sources : Step → List Text
  | copyFile _ source => [source]
  | sequence steps => sourcesOfAll steps
  | _ => []
where
  /-- The names of the files that steps copy. -/
  sourcesOfAll : List Step → List Text
    | [] => []
    | s :: rest => s.sources ++ sourcesOfAll rest

/-- The names of the files that a manifest copies. -/
def sources (m : Manifest) : List Text :=
  m.items.flatMap fun item => Step.sources.sourcesOfAll item.steps

/-- On two disks, two files hold the same manifest but for the order of its patches, and the files
that it copies are the same; or neither of them is a manifest that can be loaded. -/
inductive Arranged (disk disk' : Disk) : Text → Text → Prop where
  | manifest {path path' : Text} {m m' : Manifest} (load : load disk path = .ok m)
      (load' : Manifest.load disk' path' = .ok m') (order : m.items.Perm m'.items)
      (base : baseOf path = baseOf path')
      (copied : ∀ source ∈ m.sources, disk.read (Path.join (baseOf path) source) =
        disk'.read (Path.join (baseOf path) source)) : Arranged disk disk' path path'
  | neither {path path' : Text} {e e' : Error} (load : load disk path = .error e)
      (load' : Manifest.load disk' path' = .error e') : Arranged disk disk' path path'

variable {disk' : Disk}

mutual

/-- Of the disk a step needs only the files that it copies. -/
theorem Step.build_congr (s : Step) (h : ∀ source ∈ s.sources,
    disk.read (Path.join base source) = disk'.read (Path.join base source)) :
    s.build disk base = s.build disk' base := by
  match s with
  | copyFile path source =>
      have same := h source List.mem_cons_self
      unfold build
      simp only [same]
  | sequence steps =>
      unfold build
      rw [Step.buildAll_congr steps h]
  | writeFile _ _ => rfl
  | deleteFile _ => rfl
  | patchFiles _ _ => rfl
  | defineResource _ => rfl

theorem Step.buildAll_congr (steps : List Step)
    (h : ∀ source ∈ Step.sources.sourcesOfAll steps,
      disk.read (Path.join base source) = disk'.read (Path.join base source)) :
    Step.build.buildAll disk base steps = Step.build.buildAll disk' base steps := by
  match steps with
  | [] => rfl
  | s :: rest =>
      have first := s.build_congr fun source hs => h source (List.mem_append_left _ hs)
      have others := Step.buildAll_congr rest fun source hs => h source (List.mem_append_right _ hs)
      unfold Step.build.buildAll
      rw [first, others]

end

/-- What items are built into keeps their order, whatever it is. -/
theorem buildItems_perm {items items' : List Item} {ps : List Patch} (order : items.Perm items')
    (h : items.mapM (Item.build disk base) = .ok ps) :
    ∃ ps', items'.mapM (Item.build disk base) = .ok ps' ∧ ps.Perm ps' := by
  obtain ⟨ps', hbuilt, hperm⟩ := List.perm_comp_forall₂ order.symm (mapM_eq_ok_iff.mp h)
  exact ⟨ps', mapM_eq_ok_iff.mpr hbuilt, hperm.symm⟩

theorem buildItems_congr (items : List Item)
    (copied : ∀ source ∈ Manifest.sources ⟨items⟩,
      disk.read (Path.join base source) = disk'.read (Path.join base source)) :
    items.mapM (Item.build disk base) = items.mapM (Item.build disk' base) := by
  induction items with
  | nil => rfl
  | cons item items ih =>
      have first := Step.buildAll_congr item.steps fun source hs =>
        copied source (List.mem_append_left _ hs)
      have others := ih fun source hs => copied source (List.mem_append_right _ hs)
      rw [List.mapM_cons, List.mapM_cons, others]
      unfold Item.build
      rw [first]

/-- Manifests that are arranged in another way describe the same patches in another order. -/
theorem Arranged.described? {path' : Text} (h : Arranged disk disk' path path') :
    (Manifest.described? disk path = none ∧ Manifest.described? disk' path' = none) ∨
      ∃ ps ps', Manifest.described? disk path = some ps ∧
        Manifest.described? disk' path' = some ps' ∧ ps.Perm ps' := by
  cases h with
  | neither load load' =>
      unfold Manifest.described?
      rw [load, load']
      exact .inl ⟨rfl, rfl⟩
  | @manifest m m' load load' order base copied =>
      unfold Manifest.described?
      rw [load, load', ← base]
      simp only
      rw [buildItems_congr m.items copied]
      cases hbuilt : m.items.mapM (Item.build disk' (baseOf path)) with
      | ok ps =>
          obtain ⟨ps', hbuilt', hperm⟩ := buildItems_perm order hbuilt
          rw [hbuilt']
          exact .inr ⟨ps, ps', rfl, rfl, hperm⟩
      | error e =>
          cases hbuilt' : m'.items.mapM (Item.build disk' (baseOf path)) with
          | error e' => exact .inl ⟨rfl, rfl⟩
          | ok ps' =>
              obtain ⟨ps, hps, -⟩ := buildItems_perm order.symm hbuilt'
              rw [hbuilt] at hps
              cases hps

theorem described_arranged {paths paths' : List Text}
    (h : List.Forall₂ (Arranged disk disk') paths paths') :
    ((∀ path ∈ paths, (described? disk path).isSome) ↔
        ∀ path ∈ paths', (described? disk' path).isSome) ∧
      (described disk paths).Perm (described disk' paths') := by
  induction h with
  | nil => exact ⟨by simp, .refl _⟩
  | cons hfirst _ ih =>
      rw [List.forall_mem_cons, List.forall_mem_cons]
      unfold described at ih ⊢
      rw [List.flatMap_cons, List.flatMap_cons]
      obtain ⟨hn, hn'⟩ | ⟨ps, ps', hs, hs', hperm⟩ := hfirst.described?
      · rw [hn, hn']
        exact ⟨by simp, ih.2⟩
      · rw [hs, hs']
        exact ⟨and_congr (by simp) ih.1, hperm.append ih.2⟩

/-- Manifests may be given in another order, and the patches of each in another order: a registry
is loaded from the ones if and only if it is loaded from the others. It is the same registry then,
and so a run does the same, whatever it is applied to. -/
theorem loadAll_arranged {paths mid paths' : List Text}
    (arranged : List.Forall₂ (Arranged disk disk') paths mid) (order : mid.Perm paths') :
    ((∃ r, loadAll disk paths = .ok r) ↔ ∃ r', loadAll disk' paths' = .ok r') ∧
      ∀ r r', loadAll disk paths = .ok r → loadAll disk' paths' = .ok r' →
        r = r' ∧ ∀ config root tree trail,
          Run.apply r config root tree trail = Run.apply r' config root tree trail := by
  have same : ∀ r, loadAll disk paths = .ok r ↔ loadAll disk' paths' = .ok r := by
    intro r
    obtain ⟨each, perm⟩ := described_arranged arranged
    have perm' : (described disk' mid).Perm (described disk' paths') := order.flatMap_right _
    have each' : (∀ path ∈ mid, (described? disk' path).isSome) ↔
        ∀ path ∈ paths', (described? disk' path).isSome :=
      forall_congr' fun path => by rw [order.mem_iff]
    rw [loadAll_eq_ok_iff, loadAll_eq_ok_iff, each, each']
    have whole := perm.trans perm'
    exact and_congr_right fun _ => ⟨fun h => h.trans whole, fun h => h.trans whole.symm⟩
  refine ⟨exists_congr same, fun r r' h h' => ?_⟩
  have heq := (same r).mp h
  rw [h'] at heq
  cases heq
  exact ⟨rfl, fun _ _ _ _ => rfl⟩

/-- A file that holds a manifest as it is written is loaded. -/
theorem load_compact {path : Text} {m : Manifest} {v : Json.Value}
    (hread : disk.read path = .ok (Text.encode v.compact)) (h : m.toJson? = some v)
    (compiled : m.Compiled) (hdepth : v.depth ≤ Json.Reader.maxDepth) : load disk path = .ok m := by
  have document : disk.readText path = .ok v.compact := by
    unfold Disk.readText
    rw [hread]
    simp only [Text.decode?_encode, bind, Except.bind]
    rfl
  unfold load
  rw [document]
  exact parse_compact h compiled hdepth

/-- The first manifest copies a file. Its patches stand in the other order in the third file, and it
is given after the other manifest then. -/
theorem loadAll_arranged_swapped :
    let p : Item := ⟨"p", [.copyFile "f" "s"]⟩
    let q : Item := ⟨"q", [.deleteFile "f"]⟩
    let o : Item := ⟨"o", [.writeFile "f" "x"]⟩
    ∃ v v' w, toJson? ⟨[p, q]⟩ = some v ∧ toJson? ⟨[q, p]⟩ = some v' ∧ toJson? ⟨[o]⟩ = some w ∧
      (let disk : Disk :=
        { here := []
          entries := [(["a"], .file (Text.encode v.compact)),
            (["b"], .file (Text.encode w.compact)), (["c"], .file (Text.encode v'.compact)),
            (["s"], .file (Text.encode "y"))] }
      (∃ r, loadAll disk ["a", "b"] = .ok r ∧ loadAll disk ["b", "c"] = .ok r) ∧
        ∀ r r', loadAll disk ["a", "b"] = .ok r → loadAll disk ["b", "c"] = .ok r' →
          r = r' ∧ ∀ config root tree trail,
            Run.apply r config root tree trail = Run.apply r' config root tree trail) := by
  intro p q o
  have hp : p.Compiled := List.forall_mem_singleton.mpr (Step.compiled_leaf rfl trivial)
  have hq : q.Compiled := List.forall_mem_singleton.mpr (Step.compiled_leaf rfl trivial)
  have ho : o.Compiled := List.forall_mem_singleton.mpr (Step.compiled_leaf rfl trivial)
  obtain ⟨v, hv, vdepth⟩ : ∃ v, toJson? ⟨[p, q]⟩ = some v ∧ v.depth ≤ Json.Reader.maxDepth :=
    ⟨_, rfl, Nat.le_of_ble_eq_true rfl⟩
  obtain ⟨v', hv', vdepth'⟩ : ∃ v, toJson? ⟨[q, p]⟩ = some v ∧ v.depth ≤ Json.Reader.maxDepth :=
    ⟨_, rfl, Nat.le_of_ble_eq_true rfl⟩
  obtain ⟨w, hw, wdepth⟩ : ∃ v, toJson? ⟨[o]⟩ = some v ∧ v.depth ≤ Json.Reader.maxDepth :=
    ⟨_, rfl, Nat.le_of_ble_eq_true rfl⟩
  refine ⟨v, v', w, hv, hv', hw, ?_⟩
  intro disk
  have ha : load disk "a" = .ok ⟨[p, q]⟩ := load_compact rfl hv
    (List.forall_mem_cons.mpr ⟨hp, List.forall_mem_singleton.mpr hq⟩) vdepth
  have hb : load disk "b" = .ok ⟨[o]⟩ :=
    load_compact rfl hw (List.forall_mem_singleton.mpr ho) wdepth
  have hc : load disk "c" = .ok ⟨[q, p]⟩ := load_compact rfl hv'
    (List.forall_mem_cons.mpr ⟨hq, List.forall_mem_singleton.mpr hp⟩) vdepth'
  have arranged : List.Forall₂ (Arranged disk disk) ["a", "b"] ["c", "b"] :=
    .cons (.manifest ha hc (.swap q p []) rfl fun _ _ => rfl)
      (.cons (.manifest hb hb (.refl _) rfl fun _ _ => rfl) .nil)
  obtain ⟨succeeds, same⟩ := loadAll_arranged arranged
    (.swap _ _ [] : [("c" : Text), "b"].Perm ["b", "c"])
  obtain ⟨r, hr⟩ : ∃ r, loadAll disk ["a", "b"] = .ok r := by
    have first : described? disk "a" =
        some [⟨"p", [.writeFile "f" (Text.encode "y")]⟩, ⟨"q", [.deleteFile "f"]⟩] := by
      unfold described?
      rw [ha]
      rfl
    have second : described? disk "b" = some [⟨"o", [.writeFile "f" (Text.encode "x")]⟩] := by
      unfold described?
      rw [hb]
      rfl
    refine ⟨⟨[⟨"o", [.writeFile "f" (Text.encode "x")]⟩, ⟨"p", [.writeFile "f" (Text.encode "y")]⟩,
      ⟨"q", [.deleteFile "f"]⟩], by decide, by decide⟩, loadAll_eq_ok_iff.mpr ⟨?_, ?_⟩⟩
    · refine List.forall_mem_cons.mpr ⟨?_, List.forall_mem_singleton.mpr ?_⟩
      · rw [first]
        rfl
      · rw [second]
        rfl
    · unfold described
      rw [List.flatMap_cons, List.flatMap_cons, first, second]
      change ([_] ++ [_, _]).Perm ([_, _] ++ [_])
      exact List.perm_append_comm
  obtain ⟨r', hr'⟩ := succeeds.mp ⟨r, hr⟩
  obtain ⟨rfl, -⟩ := same r r' hr hr'
  exact ⟨⟨r, hr, hr'⟩, same⟩

end Manifest

end PatchTrail
