import PatchTrail.Proofs.Disk.Directories
import PatchTrail.Proofs.Disk.Staying

/-!
# What operations below a directory leave alone

No operation removes a directory or puts a file in its place (`Disk.Kept`), so a path that can be
written goes on to be one as long as no directory comes to be at its place (`Kept.write_ok`).

Operations on files below a directory whose paths stay in it change nothing outside of the
directory, not even when they make the directories around a file: those that are outside are there
already, since they are on the way to the directory (`Disk.Sheltered`).
-/

namespace PatchTrail

variable {path : Text} {ns ms place s : List Text}

namespace Disk

open PatchTrail.Path (spelled Inside)

variable {d d' e f : Disk} {content : ByteArray} {root : Text}

/-! ## Directories stay -/

/-- No directory has gone. -/
structure Kept (d e : Disk) : Prop where
  here : e.here = d.here
  directory : ∀ p, d.entry? p = some .directory → e.entry? p = some .directory

theorem endsAsDirectory_of_write (h : d.write path content = .ok d') :
    Path.endsAsDirectory path = false := by
  refine Bool.of_not_eq_true fun last => ?_
  unfold Disk.write at h
  cases hplace : d.locate path with
  | error fault =>
      rw [hplace] at h
      cases h
  | ok place =>
      have ends := (locate_eq_ok_iff_walk.mp hplace).2.2.2.2
      rw [hplace] at h
      simp only [bind, Except.bind, last, if_true] at h
      split at h
      · cases h
      · next hentry =>
          rw [hentry] at ends
          simp [Ends, last] at ends
      · cases h

namespace Kept

theorem refl (d : Disk) : Kept d d := ⟨rfl, fun _ h => h⟩

theorem trans (h : Kept d e) (h' : Kept e f) : Kept d f :=
  ⟨h'.here.trans h.here, fun p hp => h'.directory p (h.directory p hp)⟩

theorem walk (h : Kept d e) (hwalk : d.walk s ns = .ok place) : e.walk s ns = .ok place := by
  induction ns generalizing s with
  | nil => exact hwalk
  | cons n ns ih =>
      obtain ⟨hentry, size, hwalk⟩ := walk_cons_eq_ok_iff.mp hwalk
      exact walk_cons_eq_ok_iff.mpr ⟨h.directory s hentry, size, ih hwalk⟩

theorem locate (h : Kept d e) (hplace : d.locate path = .ok place)
    (ends : Ends path ( e.entry? place)) : e.locate path = .ok place := by
  obtain ⟨nul, full, size, hwalk, -⟩ := locate_eq_ok_iff_walk.mp hplace
  refine locate_eq_ok_iff_walk.mpr ⟨nul, full, size, ?_, ends⟩
  unfold Path.start at hwalk ⊢
  rw [h.here]
  exact h.walk hwalk

theorem isDirectory (h : Kept d e) (hroot : d.isDirectory root = true) :
    e.isDirectory root = true := by
  obtain ⟨place, hplace, hentry⟩ := isDirectory_eq_true_iff.mp hroot
  have standing := h.directory place hentry
  have ends : Ends root ( e.entry? place) := by
    rw [standing]
    trivial
  exact isDirectory_eq_true_iff.mpr ⟨place, h.locate hplace ends, standing⟩

/-- A path that could be written still can if no directory is at its place. -/
theorem write_ok (h : Kept d e) (hwrite : d.write path content = .ok d')
    (free : e.entry? (spelled d.here path) ≠ some .directory) (content' : ByteArray) :
    e.write path content' = .ok (e.put (spelled d.here path) (.file content')) := by
  have last := endsAsDirectory_of_write hwrite
  obtain ⟨place, hplace, -, -⟩ := write_eq hwrite
  rw [← locate_eq hplace] at free ⊢
  have ends : Ends path ( e.entry? place) := by
    rcases hentry : e.entry? place with _ | old | _
    · exact Bool.of_not_eq_true fun dot => by
        simp [Path.endsAsDirectory_of_endsInDot dot] at last
    · exact last
    · exact absurd hentry free
  unfold Disk.write
  rw [h.locate hplace ends]
  simp only [bind, Except.bind]
  rcases hentry : e.entry? place with _ | old | _
  · simp only [last]
    rfl
  · rfl
  · exact absurd hentry free

theorem put (free : d.entry? place ≠ some .directory) (entry : Entry) :
    Kept d (d.put place entry) := by
  refine ⟨rfl, fun p hp => ?_⟩
  rw [entry?_put_ne fun same : p = place => free (same ▸ hp)]
  exact hp

theorem write (h : d.write path content = .ok d') : Kept d d' := by
  obtain ⟨place, -, free, rfl⟩ := write_eq h
  exact .put free _

theorem remove (h : d.remove path = .ok d') : Kept d d' := by
  obtain ⟨place, content, -, hentry, rfl⟩ := remove_eq h
  refine ⟨rfl, fun p hp => ?_⟩
  have apart : p ≠ place := by
    rintro rfl
    simp [hentry] at hp
  rw [entry?_erase_ne apart]
  exact hp

theorem makeDirectory (h : d.makeDirectory path = .ok d') : Kept d d' := by
  obtain ⟨place, -, free, rfl⟩ := makeDirectory_eq h
  exact .put (free ▸ nofun) _

theorem makeDirectories (d : Disk) (path : Text) : Kept d (d.makeDirectories path).1 :=
  makeDirectories_induct .refl (fun _ _ _ => .trans) (fun _ _ _ => .makeDirectory) d path

end Kept

/-- A file that has been written is there, with what has been written, for the path that it has been
written to. -/
theorem read_write (h : d.write path content = .ok d') : d'.read path = .ok content := by
  have last := endsAsDirectory_of_write h
  have kept := Kept.write h
  obtain ⟨place, hplace, free, rfl⟩ := write_eq h
  have written : entry? (d.put place (.file content)) place = some (.file content) := by
    refine entry?_put_self ?_ d _
    rintro rfl
    exact free rfl
  have again : locate (d.put place (.file content)) path = .ok place :=
    kept.locate hplace (written ▸ last)
  simp only [read, again, bind, Except.bind, written]
  rfl

/-! ## Outside of a directory -/

/-- No directory has gone, and if there is one at a path, nothing outside of it has changed. -/
structure Sheltered (root : Text) (d e : Disk) : Prop where
  kept : Kept d e
  outside : d.isDirectory root = true → ∀ p, ¬ Inside d.here root p → e.entry? p = d.entry? p

/-- A path leads some way to a place below a directory: through the names of the directory, and then
through others. -/
def Along (root : Text) (ns : List Text) (path : Text) : Prop :=
  path = [] ∨
    Path.isAbsolute path = Path.isAbsolute root ∧ Path.names path <+: Path.names root ++ ns

theorem along_below (root path : Text) : Along root (Path.names path) (Path.below root path) :=
  .inr ⟨Path.isAbsolute_below root path, Path.names_below root path ▸ List.prefix_rfl⟩

theorem Along.parent {parent : Text} (h : Along root ns path)
    (hparent : Path.parent? path = some parent) : Along root ns parent := by
  by_cases bare : Path.names path = []
  · exact .inl (Path.parent_eq_nil bare hparent)
  · obtain ⟨parent', hparent', around⟩ := Path.exists_around bare
    obtain rfl : parent = parent' := Option.some.inj (hparent.symm.trans hparent')
    rcases h with rfl | ⟨absolute, before⟩
    · exact absurd Path.names_nil bare
    · obtain ⟨last, hlast⟩ := around.names
      rw [hlast] at before
      exact .inr ⟨around.isAbsolute.trans absolute, (List.prefix_append _ _).trans before⟩

/-- All directories are there through which a path leads to one. -/
theorem entry?_of_walk (hwalk : d.walk s (ns ++ ms) = .ok place)
    (hplace : d.entry? place = some .directory) :
    d.entry? (ns.foldl Path.enter s) = some .directory := by
  induction ns generalizing s with
  | nil =>
      cases ms with
      | nil =>
          obtain rfl : s = place := Except.ok.inj hwalk
          exact hplace
      | cons m ms => exact (walk_cons_eq_ok_iff.mp hwalk).1
  | cons n ns ih => exact ih (walk_cons_eq_ok_iff.mp hwalk).2.2

namespace Sheltered

theorem refl (root : Text) (d : Disk) : Sheltered root d d := ⟨.refl d, fun _ _ _ => rfl⟩

theorem trans (h : Sheltered root d e) (h' : Sheltered root e f) : Sheltered root d f := by
  refine ⟨h.kept.trans h'.kept, fun hroot p outside => ?_⟩
  have second := h'.outside (h.kept.isDirectory hroot) p
  rw [h.kept.here] at second
  exact (second outside).trans (h.outside hroot p outside)

section

variable (stays : Path.stays path = true)

include stays

theorem write (h : d.write (Path.below root path) content = .ok d') : Sheltered root d d' := by
  refine ⟨.write h, fun _ p outside => ?_⟩
  obtain ⟨place, hplace, -, rfl⟩ := write_eq h
  refine entry?_put_ne (fun same => outside ?_) _
  rw [same, locate_eq hplace]
  exact (Path.stays_iff path).mp stays d.here root

theorem remove (h : d.remove (Path.below root path) = .ok d') : Sheltered root d d' := by
  refine ⟨.remove h, fun _ p outside => ?_⟩
  obtain ⟨place, content, hplace, -, rfl⟩ := remove_eq h
  refine entry?_erase_ne fun same => outside ?_
  rw [same, locate_eq hplace]
  exact (Path.stays_iff path).mp stays d.here root

end

/-- On the way to a place below a directory no directory is made outside, since those are there. -/
theorem makeDirectory (stays : Path.staysFrom 0 ns = true) (along : Along root ns path)
    (h : d.makeDirectory path = .ok d') : Sheltered root d d' := by
  refine ⟨.makeDirectory h, fun hroot p outside => ?_⟩
  obtain ⟨place, hplace, hnone, rfl⟩ := makeDirectory_eq h
  refine entry?_put_ne (fun same => outside ?_) _
  have spelled_ := locate_eq hplace
  rcases along with rfl | ⟨absolute, before⟩
  · exact absurd rfl (locate_eq_ok_iff_walk.mp hplace).2.1
  obtain ⟨home, hhome, hentry⟩ := isDirectory_eq_true_iff.mp hroot
  have hwalk := (locate_eq_ok_iff_walk.mp hhome).2.2.2.1
  unfold Path.start at hwalk
  unfold Path.spelled at spelled_
  rw [absolute] at spelled_
  rcases List.prefix_or_prefix_of_prefix before (List.prefix_append (Path.names root) ns) with
    ⟨more, hmore⟩ | ⟨more, hmore⟩
  · -- on the way to the directory there is no place where nothing is
    rw [← hmore] at hwalk
    rw [spelled_, entry?_of_walk hwalk hentry] at hnone
    cases hnone
  · -- behind the directory the names stay in it
    rw [← hmore, List.prefix_append_right_inj] at before
    obtain ⟨rest, rfl⟩ := before
    have stay := Path.prefix_foldl_enter (Path.spelled d.here root) []
      (Path.staysFrom_of_append stays)
    rw [← hmore, List.foldl_append] at spelled_
    rw [List.append_nil] at stay
    rw [same, spelled_]
    exact stay

theorem makeDirectories (stays : Path.stays path = true) (d : Disk) :
    Sheltered root d
      (d.makeDirectories ((Path.parent? (Path.below root path)).getD [])).1 := by
  have along : Along root (Path.names path) ((Path.parent? (Path.below root path)).getD []) := by
    cases hparent : Path.parent? (Path.below root path) with
    | none => exact .inl rfl
    | some parent => exact (along_below root path).parent hparent
  exact makeDirectoriesUpTo_induct (.refl root) (fun _ _ _ => .trans)
    (fun _ _ _ => .makeDirectory stays) (fun _ _ h => h.parent) _ d along

end Sheltered

end Disk

end PatchTrail
