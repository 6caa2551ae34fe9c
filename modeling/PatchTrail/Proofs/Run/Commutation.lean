import PatchTrail.Proofs.Disk.Same
import PatchTrail.Proofs.Run.Effect
import PatchTrail.Proofs.Run.Script

/-!
# Patches in either order

Two records of which neither is about the file of the other, or about one on the way to it, can be
carried out in either order (`Record.Carried.swap`): each finds at the place of its file what it
finds without the other, and the directories that it needs are there or may be made. So one list of
records can be followed before another or behind it (`Record.Followed.swap`). Since a patch succeeds
exactly if there is a list of records for it that can be followed, two patches that are about
different files can be applied in either order (`Patch.apply_comm`).
-/

namespace PatchTrail

/-- Neither of two paths leads to where the other leads or to somewhere on the way there. -/
structure Path.Apart (path other : Text) : Prop where
  before : ¬ names path <+: names other
  behind : ¬ names other <+: names path

instance (path other : Text) : Decidable (Path.Apart path other) :=
  decidable_of_iff (¬ Path.names path <+: Path.names other ∧ ¬ Path.names other <+: Path.names path)
    ⟨fun h => ⟨h.1, h.2⟩, fun h => ⟨h.before, h.behind⟩⟩

theorem Path.Apart.symm {path other : Text} (h : Apart path other) : Apart other path :=
  ⟨h.behind, h.before⟩

namespace Record

open PatchTrail.Path (Way Straight Apart start)

variable {root : Text} {rec other : Record} {d d' e f : Disk}

/-! ## Records in either order -/

theorem start_fullPath (root : Text) (here : List Text) (rec other : Record) :
    start here (rec.fullPath root) = start here (other.fullPath root) := by
  unfold start fullPath
  rw [Path.isAbsolute_below, Path.isAbsolute_below]

theorem place_prefix_iff (straight : Straight (rec.fullPath root))
    (straight' : Straight (other.fullPath root)) (here : List Text) :
    rec.place root here <+: other.place root here ↔
      Path.names (rec.fullPath root) <+: Path.names (other.fullPath root) := by
  unfold place
  rw [Path.spelled_eq straight.onward, Path.spelled_eq straight'.onward,
    start_fullPath root here rec other, List.prefix_append_right_inj]

section

variable (straight : Straight (rec.fullPath root)) (straight' : Straight (other.fullPath root))
  (apart : Apart (rec.fullPath root) (other.fullPath root))

include straight straight' apart

theorem place_ne (here : List Text) : other.place root here ≠ rec.place root here := by
  intro h
  exact apart.before ((place_prefix_iff straight straight' here).mp (h ▸ List.prefix_rfl))

theorem not_way (here : List Text) : ¬ Way here (rec.fullPath root) (other.place root here) :=
  fun way => apart.behind ((place_prefix_iff straight' straight here).mp way.before)

/-- What a record is about is not changed by one apart from it. -/
theorem Effect.entry_place (effect : Effect root rec d d') :
    d'.entry? (other.place root d.here) = d.entry? (other.place root d.here) :=
  effect.rest _ (place_ne straight straight' apart d.here) (not_way straight straight' apart d.here)

/-- What can be carried out still can after a record apart from it. -/
theorem Effect.ready (effect : Effect root rec d d') (ready : Ready root rec d)
    (ready' : Ready root other d) : Ready root other d' := by
  refine ⟨ready'.permitted, fun p way => ?_, ?_⟩
  · rw [effect.here] at way ⊢
    rcases ready'.passable p way with hentry | ⟨room, inner, hnone⟩
    · exact .inl (effect.directory ready hentry)
    · by_cases on : Way d.here (rec.fullPath root) p
      · exact .inl (effect.way p on)
      · have hp : p ≠ rec.place root d.here := fun hp =>
          not_way straight' straight apart.symm d.here (hp ▸ way)
        exact .inr ⟨room, inner, (effect.rest p hp on).trans hnone⟩
  · rw [effect.here, effect.entry_place straight straight' apart]
    exact ready'.fits

/-- What can be carried out after a record apart from it can be carried out before. -/
theorem Effect.ready_before (effect : Effect root rec d d') (ready : Ready root rec d)
    (grounded : d.Grounded) (ready' : Ready root other d') : Ready root other d := by
  have unmoved := effect.entry_place straight straight' apart
  have passable := ready'.passable
  have fits := ready'.fits
  have there := ready'.ne_none
  rw [effect.here, unmoved] at fits there
  rw [effect.here] at passable
  refine ⟨ready'.permitted, fun p way => ?_, fits⟩
  by_cases on : Way d.here (rec.fullPath root) p
  · rcases ready.passable p on with hentry | ⟨-, inner, hnone⟩
    · exact .inl hentry
    · by_cases room : other.MakesRoom
      · exact .inr ⟨room, start_fullPath root d.here rec other ▸ inner, hnone⟩
      · -- the file of the other record was there, so the way to it was open from the first
        exact .inl (grounded.directory (there room) way.before way.apart)
  · have hp : p ≠ rec.place root d.here := fun hp =>
      not_way straight' straight apart.symm d.here (hp ▸ way)
    rw [← effect.rest p hp on]
    exact passable p way

/-- The effects of two records apart from each other are the same in either order. -/
theorem Effect.same {e' f' : Disk} (effect : Effect root rec d e) (next : Effect root other e f)
    (effect' : Effect root other d e') (next' : Effect root rec e' f') : f.Same f' := by
  have target := next.target
  have way := next.way
  have rest := next.rest
  rw [effect.here, effect.entry_place straight straight' apart] at target
  rw [effect.here] at way rest
  have target' := next'.target
  have way' := next'.way
  have rest' := next'.rest
  rw [effect'.here, effect'.entry_place straight' straight apart.symm] at target'
  rw [effect'.here] at way' rest'
  refine ⟨by rw [next.here, effect.here, next'.here, effect'.here], fun p => ?_⟩
  have ne := place_ne straight straight' apart d.here
  by_cases hp : p = rec.place root d.here
  · subst hp
    rw [rest _ (Ne.symm ne) (not_way straight' straight apart.symm d.here), effect.target, target']
  by_cases hp' : p = other.place root d.here
  · subst hp'
    rw [target, rest' _ ne (not_way straight straight' apart d.here), effect'.target]
  by_cases on : Way d.here (rec.fullPath root) p
  · rw [way' p on]
    by_cases on' : Way d.here (other.fullPath root) p
    · exact way p on'
    · exact (rest p hp' on').trans (effect.way p on)
  · rw [rest' p hp on]
    by_cases on' : Way d.here (other.fullPath root) p
    · rw [way p on', effect'.way p on']
    · rw [rest p hp' on', effect.rest p hp on, effect'.rest p hp' on']

/-- Carried out in the other order, two records lead to disks that hold the same. -/
theorem Carried.swap (grounded : d.Grounded) (h : rec.Carried root d e)
    (h' : other.Carried root e f) :
    ∃ e' f', other.Carried root d e' ∧ rec.Carried root e' f' ∧ f.Same f' := by
  obtain ⟨ready, effect⟩ := h.effect straight
  obtain ⟨ready', next⟩ := h'.effect straight'
  have first := effect.ready_before straight straight' apart ready grounded ready'
  obtain ⟨e', carried⟩ := first.carried straight'
  obtain ⟨-, effect'⟩ := carried.effect straight'
  have second := effect'.ready straight' straight apart.symm first ready
  obtain ⟨f', carried'⟩ := second.carried straight
  obtain ⟨-, next'⟩ := carried'.effect straight
  exact ⟨e', f', carried, carried', effect.same straight straight' apart next effect' next'⟩

end

/-! ## Lists of records in either order -/

/-- On disks that hold the same, the same can be carried out. -/
theorem Carried.same (h : rec.Carried root d d') (same : d.Same e) :
    ∃ e', rec.Carried root e e' ∧ d'.Same e' := by
  cases rec with
  | created path content =>
      obtain ⟨mid, hmade, hwrite⟩ := h
      obtain ⟨made, failed⟩ := same.makeDirectories
        ((Path.parent? ((created path content).fullPath root)).getD [])
      rw [hmade] at made failed
      obtain ⟨e', written, same'⟩ := made.write_ok hwrite
      exact ⟨e', ⟨_, Prod.ext rfl failed.symm, written⟩, same'⟩
  | deleted path => exact same.remove_ok h
  | modified path old new =>
      obtain ⟨read, written⟩ := h
      rw [same.read] at read
      split at written
      · next unchanged =>
          exact ⟨e, ⟨read, (if_pos unchanged).mpr rfl⟩, written ▸ same⟩
      · next changed =>
          obtain ⟨e', hwrite, same'⟩ := same.write_ok written
          exact ⟨e', ⟨read, (if_neg changed).mpr hwrite⟩, same'⟩

variable {rs ks : List Record}

theorem Followed.same (h : Followed root rs d d') (same : d.Same e) :
    ∃ e', Followed root rs e e' ∧ d'.Same e' := by
  induction h generalizing e with
  | nil => exact ⟨e, .nil, same⟩
  | cons first _ ih =>
      obtain ⟨mid, carried, same⟩ := first.same same
      obtain ⟨e', followed, same⟩ := ih same
      exact ⟨e', .cons carried followed, same⟩

/-- A record can be carried out behind those that it is apart from. -/
theorem Followed.swap_one (straight : Straight (rec.fullPath root))
    (straight' : ∀ k ∈ ks, Straight (k.fullPath root))
    (apart : ∀ k ∈ ks, Apart (rec.fullPath root) (k.fullPath root)) (grounded : d.Grounded)
    (h : Followed root (rec :: ks) d f) : ∃ f', Followed root (ks ++ [rec]) d f' ∧ f.Same f' := by
  induction ks generalizing d f with
  | nil => exact ⟨f, h, .refl f⟩
  | cons k ks ih =>
      rw [List.forall_mem_cons] at straight' apart
      cases h with
      | cons first rest =>
          cases rest with
          | cons second rest =>
              obtain ⟨e', g', second, first, same⟩ :=
                first.swap straight straight'.1 apart.1 grounded second
              obtain ⟨f₁, rest, same₁⟩ := rest.same same
              obtain ⟨ready, effect⟩ := second.effect straight'.1
              obtain ⟨f', behind, same'⟩ := ih straight'.2 apart.2
                (effect.grounded straight'.1 ready grounded) (.cons first rest)
              exact ⟨f', .cons second behind, same₁.trans same'⟩

/-- Lists of records can be followed in either order if the records of the one are apart from those
of the other. -/
theorem Followed.swap (straight : ∀ r ∈ rs, Straight (r.fullPath root))
    (straight' : ∀ k ∈ ks, Straight (k.fullPath root))
    (apart : ∀ r ∈ rs, ∀ k ∈ ks, Apart (r.fullPath root) (k.fullPath root))
    (grounded : d.Grounded) (h : Followed root (rs ++ ks) d f) :
    ∃ f', Followed root (ks ++ rs) d f' ∧ f.Same f' := by
  induction rs generalizing d f with
  | nil => exact ⟨f, by rwa [List.append_nil], .refl f⟩
  | cons r rs ih =>
      rw [List.forall_mem_cons] at straight apart
      cases h with
      | cons first rest =>
          obtain ⟨ready, effect⟩ := first.effect straight.1
          obtain ⟨f₁, rest, same₁⟩ :=
            ih straight.2 apart.2 (effect.grounded straight.1 ready grounded) rest
          obtain ⟨mid, before, behind⟩ := followed_append_iff.mp rest
          obtain ⟨mid', before, same⟩ :=
            Followed.swap_one straight.1 straight' apart.1 grounded (.cons first before)
          obtain ⟨f', behind, same'⟩ := behind.same same
          refine ⟨f', ?_, same₁.trans same'⟩
          rw [← List.singleton_append, ← List.append_assoc]
          exact followed_append_iff.mpr ⟨mid', before, behind⟩

end Record

/-! ## Patches in either order -/

/-- Where there is room for two texts there is room for them in the other order. -/
theorem Trail.record?_swap {t u : Trail} {a b : Text} (h : t.record? (a ++ b) = some u) :
    ∃ u', t.record? (b ++ a) = some u' := by
  obtain ⟨text, room?⟩ := t
  unfold record? at h ⊢
  cases room? with
  | none => exact ⟨_, rfl⟩
  | some room =>
      simp only [Text.size_append, Nat.add_comm b.size] at h ⊢
      by_cases fits : a.size + b.size ≤ room
      · rw [if_pos fits]
        exact ⟨_, rfl⟩
      · rw [if_neg fits] at h
        cases h

namespace WorkTree

variable {tree tree' last : WorkTree} {rs ks : List Record}

theorem Follows.text (h : Follows rs tree tree') :
    tree'.trail.text = tree.trail.text ++ Record.sections tree.renderer rs := by
  obtain ⟨disk, trail, -, recorded, rfl⟩ := h
  exact Trail.text_of_record? recorded

theorem Follows.renderer (h : Follows rs tree tree') : tree'.renderer = tree.renderer := by
  obtain ⟨disk, trail, -, -, rfl⟩ := h
  rfl

/-- Records can be followed in the other order if they are about different files. -/
theorem Follows.swap
    (onward : ∀ r ∈ rs ++ ks, ['.', '.'] ∉ Path.names (tree.resolve r.path))
    (apart : ∀ r ∈ rs, ∀ k ∈ ks, Path.Apart (tree.resolve r.path) (tree.resolve k.path))
    (grounded : tree.disk.Grounded) (h : Follows (rs ++ ks) tree last) :
    ∃ last', Follows (ks ++ rs) tree last' ∧ last.disk.Same last'.disk := by
  by_cases none : rs = [] ∨ ks = []
  · refine ⟨last, ?_, .refl _⟩
    rcases none with rfl | rfl
    · rwa [List.append_nil]
    · rwa [List.append_nil] at h
  · obtain ⟨hrs, hks⟩ := not_or.mp none
    obtain ⟨r, hr⟩ := List.exists_mem_of_ne_nil rs hrs
    obtain ⟨k, hk⟩ := List.exists_mem_of_ne_nil ks hks
    have straight : ∀ r ∈ rs, Path.Straight (r.fullPath tree.root) := fun r hr =>
      ⟨fun bare => (apart r hr k hk).before (bare ▸ List.nil_prefix),
        onward r (List.mem_append_left _ hr)⟩
    have straight' : ∀ k ∈ ks, Path.Straight (k.fullPath tree.root) := fun k hk =>
      ⟨fun bare => (apart r hr k hk).behind (bare ▸ List.nil_prefix),
        onward k (List.mem_append_right _ hk)⟩
    obtain ⟨disk, trail, followed, recorded, rfl⟩ := h
    obtain ⟨disk', followed, same⟩ := followed.swap straight straight' apart grounded
    unfold Record.sections at recorded
    rw [List.flatMap_append] at recorded
    obtain ⟨trail', recorded⟩ := Trail.record?_swap recorded
    rw [← List.flatMap_append] at recorded
    exact ⟨_, ⟨disk', trail', followed, recorded, rfl⟩, same⟩

end WorkTree

/-- The records of an instruction are about files that its changes are about. -/
theorem Instruction.Script.path_mem {i : Instruction} {rs : List Record} (h : i.Script rs) :
    ∀ r ∈ rs, ∃ c ∈ i.changes, r.path = c.path := by
  induction h with
  | writeFile => simp [changes, Record.path, Diff.Change.path]
  | deleteFile => simp [changes, Record.path, Diff.Change.path]
  | noFile => simp
  | file _ _ ih =>
      refine List.forall_mem_cons.mpr ⟨⟨_, List.mem_cons_self, rfl⟩, fun r hr => ?_⟩
      obtain ⟨c, hc, hpath⟩ := ih r hr
      exact ⟨c, List.mem_cons_of_mem _ hc, hpath⟩
  | standing => simp [changes, Record.path, Diff.Change.path]
  | added => simp [changes, Record.path, Diff.Change.path]
  | done => simp
  | step _ _ ih ih' =>
      intro r hr
      rcases List.mem_append.mp hr with hr | hr
      · obtain ⟨c, hc, hpath⟩ := ih r hr
        exact ⟨c, List.mem_append_left _ hc, hpath⟩
      · obtain ⟨c, hc, hpath⟩ := ih' r hr
        exact ⟨c, List.mem_append_right _ hc, hpath⟩

/-- Two patches that are about different files can be applied in either order, if everything on the
disk is in a directory and no path has a step back: if the second can be applied after the first,
the first can be after the second, the files are the same in the end, and the same two texts are
recorded, one before the other. -/
theorem Patch.apply_comm {p q : Patch} {tree mid last : WorkTree}
    (onward : ∀ c ∈ p.changes ++ q.changes, ['.', '.'] ∉ Path.names (tree.resolve c.path))
    (apart : ∀ c ∈ p.changes, ∀ k ∈ q.changes,
      Path.Apart (tree.resolve c.path) (tree.resolve k.path))
    (grounded : tree.disk.Grounded) (first : p.apply tree = .ok () mid)
    (second : q.apply mid = .ok () last) :
    ∃ mid' last' a b, q.apply tree = .ok () mid' ∧ p.apply mid' = .ok () last' ∧
      last.disk.Same last'.disk ∧
      mid.trail.text = tree.trail.text ++ a ∧ last.trail.text = mid.trail.text ++ b ∧
      mid'.trail.text = tree.trail.text ++ b ∧ last'.trail.text = mid'.trail.text ++ a := by
  obtain ⟨rs, script, follows⟩ := p.apply_eq_ok_iff.mp first
  obtain ⟨ks, script', follows'⟩ := q.apply_eq_ok_iff.mp second
  have about : ∀ r ∈ rs, ∃ c ∈ p.changes, r.path = c.path := script.path_mem
  have about' : ∀ k ∈ ks, ∃ c ∈ q.changes, k.path = c.path := script'.path_mem
  have whole := WorkTree.follows_append_iff.mpr ⟨mid, follows, follows'⟩
  obtain ⟨last', swapped, same⟩ : ∃ last', WorkTree.Follows (ks ++ rs) tree last' ∧
      last.disk.Same last'.disk := by
    refine whole.swap (fun r hr => ?_) (fun r hr k hk => ?_) grounded
    · rcases List.mem_append.mp hr with hr | hr
      · obtain ⟨c, hc, hpath⟩ := about r hr
        exact hpath ▸ onward c (List.mem_append_left _ hc)
      · obtain ⟨c, hc, hpath⟩ := about' r hr
        exact hpath ▸ onward c (List.mem_append_right _ hc)
    · obtain ⟨c, hc, hpath⟩ := about r hr
      obtain ⟨c', hc', hpath'⟩ := about' k hk
      exact hpath ▸ hpath' ▸ apart c hc c' hc'
  obtain ⟨mid', before, behind⟩ := WorkTree.follows_append_iff.mp swapped
  refine ⟨mid', last', _, _, q.apply_eq_ok_iff.mpr ⟨ks, script', before⟩,
    p.apply_eq_ok_iff.mpr ⟨rs, script, behind⟩, same, follows.text, ?_, before.text, ?_⟩
  · rw [follows'.text, follows.renderer]
  · rw [behind.text, before.renderer]

/-- Whichever patch comes first makes the directory around, which the second spells differently. -/
theorem Patch.apply_comm_shared :
    let p : Patch :=
      ⟨"p", [.writeFile "x/f" (Text.encode "a\n"), .patchFiles ["x/f"] [.append "b\n"]]⟩
    let q : Patch :=
      ⟨"q", [.sequence [.writeFile "./x//g" (Text.encode "c\n"), .deleteFile "x/g"]]⟩
    let tree : WorkTree := { root := "/", disk := ⟨[], []⟩ }
    ∃ mid last mid' last' a b, p.apply tree = .ok () mid ∧ q.apply mid = .ok () last ∧
      q.apply tree = .ok () mid' ∧ p.apply mid' = .ok () last' ∧ last.disk.Same last'.disk ∧
      mid.trail.text = tree.trail.text ++ a ∧ last.trail.text = mid.trail.text ++ b ∧
      mid'.trail.text = tree.trail.text ++ b ∧ last'.trail.text = mid'.trail.text ++ a := by
  intro p q tree
  have succeeds : Run.failure? ((p.apply >>= fun _ => q.apply) tree) = none := by decide +kernel
  cases both : (p.apply >>= fun _ => q.apply) tree with
  | error e last =>
      rw [both] at succeeds
      cases succeeds
  | ok u last =>
      obtain ⟨u, mid, first, second⟩ := bind_succeeds_iff.mp both
      have grounded : tree.disk.Grounded := by
        intro place rooted there
        unfold Disk.entry? at there
        rw [if_neg rooted] at there
        exact absurd rfl there
      obtain ⟨mid', last', a, b, rest⟩ :=
        Patch.apply_comm (by decide) (by decide) grounded first second
      exact ⟨mid, last, mid', last', a, b, first, second, rest⟩

end PatchTrail
