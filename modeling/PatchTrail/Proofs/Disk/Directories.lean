import PatchTrail.Proofs.Disk.Way

/-!
# Making directories

Making directories up to a path succeeds if there is a directory or nothing wherever the path leads
(`Disk.makeDirectoriesUpTo_ok`), and then there are directories, and everything else is as it was
(`Disk.makeDirectoriesUpTo_none`).
-/

namespace PatchTrail

namespace Path

variable {here : List Text} {parent path : Text} {p : List Text}

theorem Around.onward (h : Around parent path) (onward : ['.', '.'] ∉ Path.names path) :
    ['.', '.'] ∉ Path.names parent := by
  obtain ⟨last, hlast⟩ := h.names
  rw [hlast] at onward
  exact fun hmem => onward (List.mem_append_left _ hmem)

theorem Around.start (h : Around parent path) (here : List Text) :
    Path.start here parent = Path.start here path := by
  unfold Path.start
  rw [h.isAbsolute]

theorem Around.spelled (h : Around parent path) (onward : ['.', '.'] ∉ Path.names path)
    (here : List Text) : ∃ last, Path.spelled here path = Path.spelled here parent ++ [last] := by
  obtain ⟨last, hlast⟩ := h.names
  refine ⟨last, ?_⟩
  rw [spelled_eq onward, spelled_eq (h.onward onward), h.start, hlast, List.append_assoc]

/-- The way of a path leads to the directory around and not farther. -/
theorem Around.way_iff (h : Around parent path) (onward : ['.', '.'] ∉ Path.names path) :
    Way here path p ↔ Path.start here path <+: p ∧ p <+: Path.spelled here parent := by
  obtain ⟨last, hlast⟩ := h.spelled onward here
  constructor
  · rintro ⟨first, before, apart⟩
    rw [hlast] at before apart
    exact ⟨first, (List.prefix_concat_iff.mp before).resolve_left apart⟩
  · rintro ⟨first, before⟩
    refine ⟨first, before.trans ⟨[last], hlast.symm⟩, fun h => ?_⟩
    have := before.length_le
    rw [h, hlast, List.length_append] at this
    exact absurd this (by simp)

theorem Around.permitted (h : Around parent path) (permitted : Permitted path)
    (full : parent ≠ []) : Permitted parent := by
  obtain ⟨rest, hrest⟩ := h.before
  obtain ⟨last, hlast⟩ := h.names
  refine ⟨fun hmem => permitted.nul ?_, full, ?_, fun name hname => permitted.names name ?_⟩
  · rw [← hrest]
    exact List.mem_append_left _ hmem
  · have size := permitted.size
    rw [← hrest, Text.size_append] at size
    exact Nat.le_trans (Nat.le_add_right _ _) size
  · rw [hlast]
    exact List.mem_append_left _ hname

end Path

namespace Disk

open PatchTrail.Path (Permitted Way spelled start Around)

variable {d e f : Disk} {path parent : Text} {fault : Fault}

/-! ## What changes -/

/-- Directories have come to be where a path leads and nothing was, and nothing else has changed. -/
structure Filled (path : Text) (d e : Disk) : Prop where
  here : e.here = d.here
  entry : ∀ p, e.entry? p = d.entry? p ∨
    d.entry? p = none ∧ e.entry? p = some .directory ∧ p ≠ start d.here path ∧
      start d.here path <+: p ∧ p <+: spelled d.here path

namespace Filled

theorem refl (path : Text) (d : Disk) : Filled path d d := ⟨rfl, fun _ => .inl rfl⟩

theorem trans (h : Filled path d e) (h' : Filled path e f) : Filled path d f := by
  refine ⟨h'.here.trans h.here, fun p => ?_⟩
  have second := h'.entry p
  rw [h.here] at second
  rcases h.entry p with same | ⟨hnone, hdirectory, on⟩
  · rw [same] at second
    exact second
  · rcases second with same | ⟨hnone', -⟩
    · exact .inr ⟨hnone, same.trans hdirectory, on⟩
    · rw [hdirectory] at hnone'
      cases hnone'

theorem ofAround (h : Filled parent d e) (around : Around parent path)
    (onward : ['.', '.'] ∉ Path.names path) : Filled path d e := by
  obtain ⟨last, hlast⟩ := around.spelled onward d.here
  refine ⟨h.here, fun p => (h.entry p).imp_right ?_⟩
  rintro ⟨hnone, hdirectory, inner, first, before⟩
  rw [around.start] at inner first
  exact ⟨hnone, hdirectory, inner, first, before.trans ⟨[last], hlast.symm⟩⟩

end Filled

/-! ## The last directory -/

/-- The directory is there, and the way to it is open. -/
structure Settled (path : Text) (d e : Disk) : Prop where
  filled : Filled path d e
  reaches : e.Reaches path
  directory : e.entry? (spelled d.here path) = some .directory

/-- A directory is not made where a path begins. -/
theorem spelled_ne_start (onward : ['.', '.'] ∉ Path.names path) (full : path ≠ [])
    (hnone : d.entry? (spelled d.here path) = none) (dot : Path.endsInDot path = false) :
    spelled d.here path ≠ start d.here path := by
  intro h
  have bare : Path.names path = [] := by
    rw [Path.spelled_eq onward] at h
    simpa using h
  cases absolute : Path.isAbsolute path with
  | true =>
      rw [h, start, absolute, if_pos rfl] at hnone
      cases hnone
  | false =>
      rw [Path.endsInDot_of_names_eq_nil bare full absolute] at dot
      cases dot

theorem settled_settle (onward : ['.', '.'] ∉ Path.names path) (h : d.settle path = (e, none)) :
    Settled path d e := by
  unfold settle at h
  split at h
  · next hmade =>
      cases h
      obtain ⟨reaches, hnone, dot, rfl⟩ := (makeDirectory_eq_ok_iff onward).mp hmade
      have made : Disk.entry? (d.put (spelled d.here path) .directory) (spelled d.here path) =
          some .directory := by
        rw [entry?_put, if_pos rfl]
        split <;> rfl
      have inner := spelled_ne_start onward reaches.permitted.full hnone dot
      have first : start d.here path <+: spelled d.here path := by
        rw [Path.spelled_eq onward]
        exact List.prefix_append _ _
      refine ⟨⟨rfl, fun p => ?_⟩, ⟨reaches.permitted, fun p way => ?_⟩, made⟩
      · by_cases hp : p = spelled d.here path
        · subst hp
          exact .inr ⟨hnone, made, inner, first, List.prefix_rfl⟩
        · exact .inl (entry?_put_ne hp _)
      · have way : Way d.here path p := way
        rw [entry?_put_ne way.apart]
        exact reaches.open_ p way
  · split at h
    · next there =>
        cases h
        obtain ⟨reaches, hentry⟩ := (isDirectory_iff onward).mp there
        exact ⟨.refl path d, reaches, hentry⟩
    · cases h

theorem settle_ok (onward : ['.', '.'] ∉ Path.names path) (reaches : d.Reaches path)
    (free : d.entry? (spelled d.here path) = some .directory ∨
      d.entry? (spelled d.here path) = none ∧ Path.endsInDot path = false) :
    ∃ e, d.settle path = (e, none) := by
  unfold settle
  rcases free with hentry | ⟨hentry, dot⟩
  · have there := (isDirectory_iff onward).mpr ⟨reaches, hentry⟩
    cases d.makeDirectory path with
    | ok e => exact ⟨e, rfl⟩
    | error fault => exact ⟨d, if_pos there⟩
  · rw [(makeDirectory_eq_ok_iff onward).mpr ⟨reaches, hentry, dot, rfl⟩]
    exact ⟨_, rfl⟩

/-! ## All directories -/

theorem makeDirectoriesUpTo_nil {bound : Nat} (h : makeDirectoriesUpTo bound d [] = (e, none)) :
    e = d := by
  cases bound with
  | zero => cases h
  | succ bound =>
      rw [makeDirectoriesUpTo, if_pos rfl] at h
      cases h
      rfl

/-- Where directories have been made, they are there, and nothing else has changed. -/
theorem makeDirectoriesUpTo_none {bound : Nat} (onward : ['.', '.'] ∉ Path.names path)
    (full : path ≠ []) (h : makeDirectoriesUpTo bound d path = (e, none)) :
    Settled path d e := by
  induction bound generalizing path e with
  | zero => cases h
  | succ bound ih =>
      by_cases missing : d.makeDirectory path = .error .missing
      · rw [makeDirectoriesUpTo_missing bound full missing] at h
        cases hparent : Path.parent? path with
        | none =>
            rw [hparent] at h
            cases h
        | some parent =>
            rw [hparent] at h
            simp only at h
            cases hmade : makeDirectoriesUpTo bound d parent with
            | mk d' fault? =>
                rw [hmade] at h
                cases fault? with
                | some fault => cases h
                | none =>
                    have settled := settled_settle onward h
                    have filled : Filled path d d' := by
                      by_cases root : parent = []
                      · subst root
                        exact makeDirectoriesUpTo_nil hmade ▸ .refl path d
                      · have named : Path.names path ≠ [] := fun bare =>
                          root (Path.parent_eq_nil bare hparent)
                        obtain ⟨parent', hparent', around⟩ := Path.exists_around named
                        cases hparent.symm.trans hparent'
                        exact (ih (around.onward onward) root hmade).filled.ofAround around onward
                    exact ⟨filled.trans settled.filled, settled.reaches,
                      filled.here ▸ settled.directory⟩
      · rw [makeDirectoriesUpTo_settle bound full missing] at h
        exact settled_settle onward h

/-- Wherever a path leads there is a directory or nothing, but where it begins a directory. -/
def Passable (path : Text) (d : Disk) (p : List Text) : Prop :=
  d.entry? p = some .directory ∨ p ≠ start d.here path ∧ d.entry? p = none

theorem walk_error {names : List Text} (onward : ['.', '.'] ∉ names)
    (sizes : ∀ name ∈ names, name.size ≤ maxName) {s : List Text}
    (free : ∀ p, s <+: p → p <+: s ++ names → p ≠ s ++ names →
      d.entry? p = some .directory ∨ d.entry? p = none)
    (h : d.walk s names = .error fault) : fault = .missing := by
  induction names generalizing s with
  | nil => cases h
  | cons name names ih =>
      rw [List.mem_cons, not_or] at onward
      rw [List.forall_mem_cons] at sizes
      rw [walk] at h
      rcases free s List.prefix_rfl (List.prefix_append _ _) (by simp) with hentry | hentry
      · rw [hentry] at h
        simp only [if_neg (Ne.symm onward.1), if_neg (Nat.not_lt.mpr sizes.1)] at h
        refine ih onward.2 sizes.2 (fun p hs hp hne => ?_) h
        rw [List.append_assoc, List.singleton_append] at hp hne
        exact free p ((List.prefix_append s [name]).trans hs) hp hne
      · rw [hentry] at h
        cases h
        rfl

/-- On a way that can be passed nothing but a directory can be missing. -/
theorem reaches_of_not_missing (onward : ['.', '.'] ∉ Path.names path) (permitted : Permitted path)
    (free : ∀ p, Way d.here path p → Passable path d p)
    (found : d.makeDirectory path ≠ .error .missing) : d.Reaches path := by
  cases hwalk : d.walk (start d.here path) (Path.names path) with
  | ok place =>
      rw [walk_eq_ok_iff onward, ← Path.spelled_eq onward] at hwalk
      exact ⟨permitted, fun p way => hwalk.2.1 p way.start way.before way.apart⟩
  | error fault =>
      refine absurd ?_ found
      have missing : fault = .missing := by
        refine walk_error onward permitted.names (fun p first before apart => ?_) hwalk
        rw [← Path.spelled_eq onward] at before apart
        exact (free p ⟨first, before, apart⟩).imp_right And.right
      have nul : ¬ path.contains ['\u0000'] = true := fun h =>
        permitted.nul (Text.contains_iff_mem.mp h)
      unfold makeDirectory locate
      rw [if_neg nul, if_neg permitted.full, if_neg (Nat.not_lt.mpr permitted.size)]
      change ((d.walk (start d.here path) (Path.names path) >>= _) >>= _) = _
      rw [hwalk, missing]
      rfl

/-- Making the directory around changes something only on the way to a path. -/
theorem filled_of_around {bound : Nat} (around : Around parent path)
    (onward : ['.', '.'] ∉ Path.names path)
    (h : makeDirectoriesUpTo bound d parent = (e, none)) : Filled parent d e ∧ Filled path d e := by
  by_cases root : parent = []
  · subst root
    obtain rfl := makeDirectoriesUpTo_nil h
    exact ⟨.refl _ e, .refl _ e⟩
  · have filled := (makeDirectoriesUpTo_none (around.onward onward) root h).filled
    exact ⟨filled, filled.ofAround around onward⟩

/-- Making the directory around leaves the end of a path as it was. -/
theorem Filled.entry_spelled (h : Filled parent d e) (around : Around parent path)
    (onward : ['.', '.'] ∉ Path.names path) :
    e.entry? (spelled d.here path) = d.entry? (spelled d.here path) := by
  rcases h.entry (spelled d.here path) with same | ⟨-, -, -, -, before⟩
  · exact same
  · obtain ⟨last, hlast⟩ := around.spelled onward d.here
    have := before.length_le
    rw [hlast, List.length_append] at this
    exact absurd this (by simp)

/-- With the directory around made, the way to a path is open. -/
theorem reaches_of_around {bound : Nat} (around : Around parent path)
    (onward : ['.', '.'] ∉ Path.names path) (permitted : Permitted path)
    (begins : d.entry? (start d.here path) = some .directory)
    (h : makeDirectoriesUpTo bound d parent = (e, none)) : e.Reaches path := by
  refine ⟨permitted, fun p way => ?_⟩
  obtain ⟨first, before⟩ := (around.way_iff onward).mp way
  by_cases root : parent = []
  · subst root
    obtain rfl := makeDirectoriesUpTo_nil h
    have rooted : spelled e.here [] = start e.here path := around.start e.here
    rw [rooted] at before
    rw [before.eq_of_length_le first.length_le]
    exact begins
  · have settled := makeDirectoriesUpTo_none (around.onward onward) root h
    rw [settled.filled.here] at first before
    rw [← around.start] at first
    by_cases hp : p = spelled d.here parent
    · rw [hp]
      exact settled.directory
    · exact settled.reaches.open_ p (settled.filled.here ▸ ⟨first, before, hp⟩)

/-- A path without names leads to a directory that is there. -/
theorem makeDirectory_ne_missing (onward : ['.', '.'] ∉ Path.names path)
    (permitted : Permitted path) (bare : Path.names path = [])
    (begins : d.entry? (start d.here path) = some .directory) :
    d.makeDirectory path ≠ .error .missing := by
  have apart : ∀ p, ¬ Way d.here path p := fun p way => by
    have before := way.before
    have apart := way.apart
    rw [Path.spelled_eq onward, bare, List.append_nil] at before apart
    exact apart (before.eq_of_length_le way.start.length_le)
  have hentry : d.entry? (spelled d.here path) = some .directory := by
    rw [Path.spelled_eq onward, bare, List.append_nil]
    exact begins
  have found := (locate_eq_ok_iff onward).mpr
    ⟨⟨permitted, fun p way => absurd way (apart p)⟩, hentry ▸ trivial, rfl⟩
  unfold makeDirectory
  rw [found]
  simp only [bind, Except.bind, hentry]
  exact nofun

/-- Directories can be made if there is a directory or nothing wherever the path leads. -/
theorem makeDirectoriesUpTo_ok {bound : Nat} (onward : ['.', '.'] ∉ Path.names path)
    (permitted : Permitted path) (dot : Path.names path ≠ [] → Path.endsInDot path = false)
    (free : ∀ p, start d.here path <+: p → p <+: spelled d.here path → Passable path d p)
    (enough : path.length < bound) : ∃ e, makeDirectoriesUpTo bound d path = (e, none) := by
  -- the directory around has a shorter path, so the bound is enough for all that have to be made
  induction bound generalizing path with
  | zero => exact absurd enough (Nat.not_lt_zero _)
  | succ bound ih =>
      have first : start d.here path <+: spelled d.here path := by
        rw [Path.spelled_eq onward]
        exact List.prefix_append _ _
      have begins : d.entry? (start d.here path) = some .directory :=
        (free _ List.prefix_rfl first).resolve_right fun h => h.1 rfl
      have last : d.entry? (spelled d.here path) = some .directory ∨
          d.entry? (spelled d.here path) = none ∧ Path.endsInDot path = false := by
        refine (free _ first List.prefix_rfl).imp_right fun h => ⟨h.2, dot fun bare => h.1 ?_⟩
        rw [Path.spelled_eq onward, bare, List.append_nil]
      by_cases missing : d.makeDirectory path = .error .missing
      · rw [makeDirectoriesUpTo_missing bound permitted.full missing]
        by_cases bare : Path.names path = []
        · exact absurd missing (makeDirectory_ne_missing onward permitted bare begins)
        · obtain ⟨parent, hparent, around⟩ := Path.exists_around bare
          have room : ∃ d', makeDirectoriesUpTo bound d parent = (d', none) := by
            have shorter := around.shorter
            by_cases root : parent = []
            · obtain ⟨bound, rfl⟩ := Nat.exists_eq_succ_of_ne_zero (n := bound) (by omega)
              rw [root, makeDirectoriesUpTo, if_pos rfl]
              exact ⟨d, rfl⟩
            · obtain ⟨name, hname⟩ := around.spelled onward d.here
              refine ih (around.onward onward) (around.permitted permitted root) around.dot
                (fun p first before => ?_) (by omega)
              unfold Passable
              rw [around.start] at first ⊢
              exact free p first (before.trans ⟨[name], hname.symm⟩)
          obtain ⟨d', hmade⟩ := room
          obtain ⟨filled, -⟩ := filled_of_around around onward hmade
          rw [← filled.entry_spelled around onward, ← filled.here] at last
          rw [hparent]
          simp only [hmade]
          exact settle_ok onward (reaches_of_around around onward permitted begins hmade) last
      · rw [makeDirectoriesUpTo_settle bound permitted.full missing]
        refine settle_ok onward (reaches_of_not_missing onward permitted (fun p way => ?_) missing)
          last
        exact free p way.start way.before

end Disk

end PatchTrail
