import PatchTrail.Proofs.Disk.Places
import PatchTrail.Proofs.Disk.Spelling

/-!
# The way to a place

A path without steps back leads through the places on its way to the place that it spells. It gets
there if all of them are directories (`Disk.locate_eq_ok_iff`), so whether an operation succeeds can
be told from what is on the way and what is at its end (`Disk.read_eq_ok_iff`,
`Disk.write_eq_ok_iff`, `Disk.remove_eq_ok_iff`, `Disk.makeDirectory_eq_ok_iff`).
-/

namespace PatchTrail

namespace Path

variable {here : List Text} {path : Text}

/-- The place at which a path begins. -/
def start (here : List Text) (path : Text) : List Text := if isAbsolute path then [] else here

/-- A path that leads somewhere without a step back. -/
structure Straight (path : Text) : Prop where
  named : names path ≠ []
  onward : ['.', '.'] ∉ names path

/-- The places on the way to the place that a path spells, from where it begins. -/
structure Way (here : List Text) (path : Text) (p : List Text) : Prop where
  start : start here path <+: p
  before : p <+: spelled here path
  apart : p ≠ spelled here path

/-- What can be a path at all. -/
structure Permitted (path : Text) : Prop where
  nul : '\u0000' ∉ path
  full : path ≠ []
  size : path.size ≤ Disk.maxPath
  names : ∀ name ∈ names path, name.size ≤ Disk.maxName

theorem foldl_enter {ns : List Text} (onward : ['.', '.'] ∉ ns) (place : List Text) :
    ns.foldl enter place = place ++ ns := by
  induction ns generalizing place with
  | nil => exact (List.append_nil place).symm
  | cons n ns ih =>
      rw [List.mem_cons, not_or] at onward
      rw [List.foldl_cons, ih onward.2, enter, if_neg (Ne.symm onward.1), List.append_assoc]
      rfl

theorem spelled_eq (onward : ['.', '.'] ∉ names path) (here : List Text) :
    spelled here path = start here path ++ names path := foldl_enter onward _

end Path

namespace Disk

open PatchTrail.Path (Permitted Way spelled Straight)

variable {d d' e : Disk} {path : Text} {place : List Text} {content : ByteArray}

/-! ## Places -/

/-- The way of a path leads through directories. -/
structure Reaches (d : Disk) (path : Text) : Prop where
  permitted : Permitted path
  open_ : ∀ p, Way d.here path p → d.entry? p = some .directory

/-- A path may end in what is at its place. -/
def Ends (path : Text) : Option Entry → Prop
  | some (.file _) => Path.endsAsDirectory path = false
  | some .directory => True
  | none => Path.endsInDot path = false

theorem eq_or_prefix_of_between {α : Type} {s p rest : List α} {a : α} (hs : s <+: p)
    (hp : p <+: s ++ a :: rest) : p = s ∨ s ++ [a] <+: p := by
  obtain ⟨t, rfl⟩ := hs
  cases t with
  | nil => exact .inl (List.append_nil s)
  | cons b t =>
      obtain ⟨rfl, -⟩ := List.cons_prefix_cons.mp ((List.prefix_append_right_inj s).mp hp)
      exact .inr ((List.prefix_append_right_inj s).mpr ⟨t, rfl⟩)

theorem walk_eq_ok_iff {names : List Text} (onward : ['.', '.'] ∉ names) (start : List Text) :
    d.walk start names = .ok place ↔ (∀ name ∈ names, name.size ≤ maxName) ∧
      (∀ p, start <+: p → p <+: start ++ names → p ≠ start ++ names →
        d.entry? p = some .directory) ∧ place = start ++ names := by
  induction names generalizing start with
  | nil =>
      rw [walk, List.append_nil, Except.ok.injEq]
      refine ⟨fun h => ⟨fun _ hname => absurd hname List.not_mem_nil, fun p hs hp hne => ?_, h.symm⟩,
        fun h => h.2.2.symm⟩
      exact absurd (hp.eq_of_length_le hs.length_le) hne
  | cons name names ih =>
      rw [List.mem_cons, not_or] at onward
      have next := ih onward.2 (start ++ [name])
      rw [List.append_assoc, List.singleton_append] at next
      rw [walk_cons_eq_ok_iff, Path.enter, if_neg (Ne.symm onward.1), next]
      constructor
      · rintro ⟨hstart, size, sizes, directories, rfl⟩
        refine ⟨List.forall_mem_cons.mpr ⟨size.resolve_left (Ne.symm onward.1), sizes⟩,
          fun p hs hp hne => ?_, rfl⟩
        rcases eq_or_prefix_of_between hs hp with rfl | hs
        · exact hstart
        · exact directories p hs hp hne
      · rintro ⟨sizes, directories, rfl⟩
        rw [List.forall_mem_cons] at sizes
        refine ⟨directories start List.prefix_rfl (List.prefix_append _ _) (by simp),
          .inr sizes.1, sizes.2, fun p hs hp hne => directories p ?_ hp hne, rfl⟩
        exact (List.prefix_append start [name]).trans hs

theorem locate_eq_ok_iff_walk : d.locate path = .ok place ↔
    '\u0000' ∉ path ∧ path ≠ [] ∧ path.size ≤ maxPath ∧
      d.walk (Path.start d.here path) (Path.names path) = .ok place ∧
      Ends path ( d.entry? place) := by
  unfold locate
  by_cases nul : path.contains ['\u0000'] = true
  · rw [if_pos nul]
    exact ⟨nofun, fun h => absurd (Text.contains_iff_mem.mp nul) h.1⟩
  by_cases full : path = []
  · rw [if_neg nul, if_pos full]
    exact ⟨nofun, fun h => absurd full h.2.1⟩
  by_cases size : maxPath < path.size
  · rw [if_neg nul, if_neg full, if_pos size]
    exact ⟨nofun, fun h => absurd size (Nat.not_lt.mpr h.2.2.1)⟩
  rw [if_neg nul, if_neg full, if_neg size]
  have permitted : ∀ Q : Prop,
      ('\u0000' ∉ path ∧ path ≠ [] ∧ path.size ≤ maxPath ∧ Q) ↔ Q := fun Q =>
    ⟨fun h => h.2.2.2, fun h =>
      ⟨fun hmem => nul (Text.contains_iff_mem.mpr hmem), full, Nat.not_lt.mp size, h⟩⟩
  rw [permitted]
  change (d.walk (Path.start d.here path) (Path.names path) >>= _) = _ ↔ _
  cases d.walk (Path.start d.here path) (Path.names path) with
  | error fault => exact ⟨nofun, fun h => nomatch h.1⟩
  | ok place' =>
      simp only [bind, Except.bind, Except.ok.injEq]
      unfold Ends
      constructor
      · intro h
        split at h
        · next hentry =>
            split at h
            · cases h
            · next last =>
                cases h
                rw [hentry]
                exact ⟨rfl, by simpa using last⟩
        · next hentry =>
            split at h
            · cases h
            · next last =>
                cases h
                rw [hentry]
                exact ⟨rfl, by simpa using last⟩
        · next hentry =>
            cases h
            rw [hentry]
            exact ⟨rfl, trivial⟩
      · rintro ⟨rfl, ends⟩
        split
        · next hentry =>
            rw [hentry] at ends
            simp only [ends]
            rfl
        · next hentry =>
            rw [hentry] at ends
            simp only [ends]
            rfl
        · rfl

/-- A path leads to the place that it spells if the way there is open and it may end in what is
there. -/
theorem locate_eq_ok_iff (onward : ['.', '.'] ∉ Path.names path) :
    d.locate path = .ok place ↔
      d.Reaches path ∧ Ends path ( d.entry? place) ∧ place = spelled d.here path := by
  rw [locate_eq_ok_iff_walk, walk_eq_ok_iff onward, ← Path.spelled_eq onward]
  constructor
  · rintro ⟨nul, full, size, ⟨names, directories, rfl⟩, ends⟩
    exact ⟨⟨⟨nul, full, size, names⟩, fun p way => directories p way.start way.before way.apart⟩,
      ends, rfl⟩
  · rintro ⟨⟨⟨nul, full, size, names⟩, directories⟩, ends, rfl⟩
    exact ⟨nul, full, size, ⟨names, fun p hs hp hne => directories p ⟨hs, hp, hne⟩, rfl⟩, ends⟩

/-! ## Operations -/

section

variable (onward : ['.', '.'] ∉ Path.names path)

include onward

/-- What is done at the place of a path is done at the place that it spells. -/
theorem locate_bind_eq_ok_iff {β : Type} {b : β} {k : List Text → Except Fault β} :
    (d.locate path >>= k) = .ok b ↔
      d.Reaches path ∧ Ends path ( d.entry? (spelled d.here path)) ∧
        k (spelled d.here path) = .ok b := by
  constructor
  · intro h
    cases hplace : d.locate path with
    | error fault =>
        rw [hplace] at h
        cases h
    | ok place =>
        rw [hplace] at h
        obtain ⟨reaches, ends, rfl⟩ := (locate_eq_ok_iff onward).mp hplace
        exact ⟨reaches, ends, h⟩
  · rintro ⟨reaches, ends, h⟩
    rw [(locate_eq_ok_iff onward).mpr ⟨reaches, ends, rfl⟩]
    exact h

theorem read_eq_ok_iff : d.read path = .ok content ↔
    d.Reaches path ∧ d.entry? (spelled d.here path) = some (.file content) ∧
      Path.endsAsDirectory path = false := by
  refine (locate_bind_eq_ok_iff onward).trans (and_congr_right fun _ => ?_)
  rcases d.entry? (spelled d.here path) with _ | old | _
  · exact ⟨fun h => (nomatch h.2), fun h => (nomatch h.1)⟩
  · exact ⟨fun h => ⟨congrArg _ (congrArg _ (Except.ok.inj h.2)), h.1⟩,
      fun h => ⟨h.2, congrArg _ (Entry.file.inj (Option.some.inj h.1))⟩⟩
  · exact ⟨fun h => (nomatch h.2), fun h => (nomatch h.1)⟩

theorem remove_eq_ok_iff : d.remove path = .ok d' ↔
    d.Reaches path ∧ (∃ content, d.entry? (spelled d.here path) = some (.file content)) ∧
      Path.endsAsDirectory path = false ∧ d' = d.erase (spelled d.here path) := by
  refine (locate_bind_eq_ok_iff onward).trans (and_congr_right fun _ => ?_)
  rcases d.entry? (spelled d.here path) with _ | old | _
  · exact ⟨fun h => (nomatch h.2), fun ⟨⟨_, h⟩, _⟩ => (nomatch h)⟩
  · exact ⟨fun h => ⟨⟨old, rfl⟩, h.1, (Except.ok.inj h.2).symm⟩,
      fun h => ⟨h.2.1, congrArg _ h.2.2.symm⟩⟩
  · exact ⟨fun h => (nomatch h.2), fun ⟨⟨_, h⟩, _⟩ => (nomatch h)⟩

/-- What a file can be written over. -/
def Writable (path : Text) : Option Entry → Prop
  | some (.file _) => Path.endsAsDirectory path = false
  | some .directory => False
  | none => Path.endsInDot path = false ∧ Path.endsAsDirectory path = false

theorem write_eq_ok_iff : d.write path content = .ok d' ↔
    d.Reaches path ∧ Writable path ( d.entry? (spelled d.here path)) ∧
      d' = d.put (spelled d.here path) (.file content) := by
  refine (locate_bind_eq_ok_iff onward).trans (and_congr_right fun _ => ?_)
  rcases d.entry? (spelled d.here path) with _ | old | _
  · cases last : Path.endsAsDirectory path with
    | true => exact ⟨fun h => (nomatch h.2), fun h => (nomatch last.symm.trans h.1.2)⟩
    | false =>
        exact ⟨fun h => ⟨⟨h.1, last⟩, (Except.ok.inj h.2).symm⟩,
          fun h => ⟨h.1.1, congrArg _ h.2.symm⟩⟩
  · exact ⟨fun h => ⟨h.1, (Except.ok.inj h.2).symm⟩, fun h => ⟨h.1, congrArg _ h.2.symm⟩⟩
  · exact ⟨fun h => (nomatch h.2), fun h => h.1.elim⟩

theorem isDirectory_iff : d.isDirectory path = true ↔
    d.Reaches path ∧ d.entry? (spelled d.here path) = some .directory := by
  rw [isDirectory_eq_true_iff]
  constructor
  · rintro ⟨place, hplace, hentry⟩
    obtain ⟨reaches, -, rfl⟩ := (locate_eq_ok_iff onward).mp hplace
    exact ⟨reaches, hentry⟩
  · rintro ⟨reaches, hentry⟩
    exact ⟨_, (locate_eq_ok_iff onward).mpr ⟨reaches, hentry ▸ trivial, rfl⟩, hentry⟩

theorem makeDirectory_eq_ok_iff : d.makeDirectory path = .ok d' ↔
    d.Reaches path ∧ d.entry? (spelled d.here path) = none ∧ Path.endsInDot path = false ∧
      d' = d.put (spelled d.here path) .directory := by
  refine (locate_bind_eq_ok_iff onward).trans (and_congr_right fun _ => ?_)
  rcases d.entry? (spelled d.here path) with _ | entry
  · exact ⟨fun h => ⟨rfl, h.1, (Except.ok.inj h.2).symm⟩,
      fun h => ⟨h.2.1, congrArg _ h.2.2.symm⟩⟩
  · exact ⟨fun h => (nomatch h.2), fun h => (nomatch h.1)⟩

end

end Disk

end PatchTrail
