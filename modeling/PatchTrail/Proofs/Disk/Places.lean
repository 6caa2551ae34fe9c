import PatchTrail.Disk.Basic

/-!
# What operations on a disk touch

Where a path leads depends on the disk only in whether it leads anywhere: if it does, the place can
be told from the path and the current directory alone (`Disk.locate_eq`). So writing or removing a
file changes no other place than the one that its path spells, and making directories changes no
file at all.
-/

namespace PatchTrail

/-- The place that a name leads to from another: two dots are a step back. -/
def Path.enter (place : List Text) (name : Text) : List Text :=
  if name = ['.', '.'] then place.dropLast else place ++ [name]

/-- The place that a path spells, whether or not anything is there. -/
def Path.spelled (here : List Text) (path : Text) : List Text :=
  (Path.names path).foldl Path.enter (if Path.isAbsolute path then [] else here)

namespace Disk

variable {d d' : Disk} {path : Text} {place : List Text} {content : ByteArray} {fault : Fault}

/-- The content of the file at a place, if there is a file. -/
def file? (d : Disk) (place : List Text) : Option ByteArray :=
  match d.entry? place with
  | some (.file content) => some content
  | _ => none

/-! ## Entries -/

theorem lookup_filter_ne (entries : List (List Text × Entry)) (p q : List Text) :
    (entries.filter fun entry => entry.1 ≠ q).lookup p =
      if p = q then none else entries.lookup p := by
  induction entries with
  | nil =>
      rw [List.filter_nil, List.lookup_nil]
      split <;> rfl
  | cons entry entries ih =>
      obtain ⟨key, e⟩ := entry
      by_cases hkey : key = q
      · rw [List.filter_cons_of_neg (by simpa using hkey), ih, List.lookup_cons]
        by_cases hp : p = q
        · rw [if_pos hp, if_pos hp]
        · have : (p == key) = false := beq_false_of_ne (hkey ▸ hp)
          rw [if_neg hp, if_neg hp, this]
      · rw [List.filter_cons_of_pos (by simpa using hkey), List.lookup_cons, List.lookup_cons, ih]
        by_cases hp : p = q
        · have : (p == key) = false := beq_false_of_ne (hp ▸ Ne.symm hkey)
          rw [if_pos hp, if_pos hp, this]
        · rw [if_neg hp, if_neg hp]

theorem entry?_put (d : Disk) (place p : List Text) (e : Entry) :
    entry? (d.put place e) p =
      if p = [] then some .directory else if p = place then some e else d.entry? p := by
  unfold entry? put
  simp only
  rw [List.lookup_cons, lookup_filter_ne]
  by_cases hroot : p = []
  · rw [if_pos hroot, if_pos hroot]
  · by_cases hp : p = place
    · subst hp
      rw [if_neg hroot, if_neg hroot, beq_self_eq_true, if_pos rfl, if_pos rfl]
    · rw [if_neg hroot, if_neg hroot, if_neg hp, if_neg hp, if_neg hroot, beq_false_of_ne hp]

theorem entry?_erase (d : Disk) (place p : List Text) :
    entry? (d.erase place) p =
      if p = [] then some .directory else if p = place then none else d.entry? p := by
  unfold entry? erase
  simp only
  rw [lookup_filter_ne]
  by_cases hroot : p = []
  · rw [if_pos hroot, if_pos hroot]
  · rw [if_neg hroot, if_neg hroot, if_neg hroot]

theorem entry?_put_ne {p : List Text} (hp : p ≠ place) (e : Entry) :
    entry? (d.put place e) p = d.entry? p := by
  rw [entry?_put, if_neg hp]
  split
  · next hroot =>
      subst hroot
      rfl
  · rfl

theorem entry?_erase_ne {p : List Text} (hp : p ≠ place) :
    entry? (d.erase place) p = d.entry? p := by
  rw [entry?_erase, if_neg hp]
  split
  · next hroot =>
      subst hroot
      rfl
  · rfl

theorem entry?_put_self (rooted : place ≠ []) (d : Disk) (e : Entry) :
    entry? (d.put place e) place = some e := by
  rw [entry?_put, if_neg rooted, if_pos rfl]

theorem entry?_erase_self (rooted : place ≠ []) (d : Disk) :
    entry? (d.erase place) place = none := by
  rw [entry?_erase, if_neg rooted, if_pos rfl]

/-! ## Places -/

/-- Another name can be taken where there is a directory. -/
theorem walk_cons_eq_ok_iff {name : Text} {names : List Text} {start : List Text} :
    d.walk start (name :: names) = .ok place ↔
      d.entry? start = some .directory ∧ (name = ['.', '.'] ∨ name.size ≤ maxName) ∧
        d.walk (Path.enter start name) names = .ok place := by
  rw [walk, Path.enter]
  rcases hentry : d.entry? start with _ | content | _
  · simp
  · simp
  · by_cases back : name = ['.', '.']
    · simp [back]
    · by_cases long : maxName < name.size
      · simp [back, long, Nat.not_le.mpr long]
      · simp [back, long, Nat.not_lt.mp long]

theorem walk_eq {names : List Text} {start : List Text} (h : d.walk start names = .ok place) :
    place = names.foldl Path.enter start := by
  induction names generalizing start with
  | nil =>
      cases h
      rfl
  | cons name names ih => exact ih (walk_cons_eq_ok_iff.mp h).2.2

/-- A path that leads anywhere leads to the place that it spells. -/
theorem locate_eq (h : d.locate path = .ok place) : place = Path.spelled d.here path := by
  unfold locate at h
  split at h
  · cases h
  · split at h
    · cases h
    · split at h
      · cases h
      · cases hwalk : d.walk (if Path.isAbsolute path then [] else d.here) (Path.names path) with
        | error fault =>
            rw [hwalk] at h
            cases h
        | ok place' =>
            rw [hwalk] at h
            have : place' = place := by
              simp only [bind, Except.bind] at h
              split at h
              · split at h
                · cases h
                · exact Except.ok.inj h
              · split at h
                · cases h
                · exact Except.ok.inj h
              · exact Except.ok.inj h
            rw [← this]
            exact walk_eq hwalk

/-! ## Operations -/

theorem isDirectory_eq_true_iff : d.isDirectory path = true ↔
    ∃ place, d.locate path = .ok place ∧ d.entry? place = some .directory := by
  unfold Disk.isDirectory
  constructor
  · intro h
    split at h
    · next place hplace =>
        refine ⟨place, hplace, ?_⟩
        rcases hentry : d.entry? place with _ | content | _
        · simp [hentry] at h
        · simp [hentry, Entry.isDirectory] at h
        · rfl
    · cases h
  · rintro ⟨place, hplace, hentry⟩
    rw [hplace]
    simp [hentry, Entry.isDirectory]

theorem write_eq (h : d.write path content = .ok d') :
    ∃ place, d.locate path = .ok place ∧ d.entry? place ≠ some .directory ∧
      d' = d.put place (.file content) := by
  unfold write at h
  cases hplace : d.locate path with
  | error fault =>
      rw [hplace] at h
      cases h
  | ok place =>
      rw [hplace] at h
      simp only [bind, Except.bind] at h
      refine ⟨place, rfl, ?_⟩
      split at h
      · cases h
      · next content' hentry =>
          rw [hentry]
          exact ⟨nofun, (Except.ok.inj h).symm⟩
      · next hentry =>
          rw [hentry]
          split at h
          · cases h
          · exact ⟨nofun, (Except.ok.inj h).symm⟩

theorem remove_eq (h : d.remove path = .ok d') :
    ∃ place content, d.locate path = .ok place ∧ d.entry? place = some (.file content) ∧
      d' = d.erase place := by
  unfold remove at h
  cases hplace : d.locate path with
  | error fault =>
      rw [hplace] at h
      cases h
  | ok place =>
      rw [hplace] at h
      simp only [bind, Except.bind] at h
      split at h
      · cases h
      · cases h
      · next content hentry => exact ⟨place, content, rfl, hentry, (Except.ok.inj h).symm⟩

theorem makeDirectory_eq (h : d.makeDirectory path = .ok d') :
    ∃ place, d.locate path = .ok place ∧ d.entry? place = none ∧ d' = d.put place .directory := by
  unfold makeDirectory at h
  cases hplace : d.locate path with
  | error fault =>
      rw [hplace] at h
      cases h
  | ok place =>
      rw [hplace] at h
      simp only [bind, Except.bind] at h
      refine ⟨place, rfl, ?_⟩
      split at h
      · next hentry => exact ⟨hentry, (Except.ok.inj h).symm⟩
      · cases h

/-! ## Making directories -/

/-- Makes a directory, which may be there already. -/
def settle (d : Disk) (path : Text) : Disk × Option Fault :=
  match d.makeDirectory path with
  | .ok d => (d, none)
  | .error fault => if d.isDirectory path then (d, none) else (d, some fault)

theorem makeDirectoriesUpTo_settle (bound : Nat) (full : path ≠ [])
    (h : d.makeDirectory path ≠ .error .missing) :
    makeDirectoriesUpTo (bound + 1) d path = d.settle path := by
  rw [makeDirectoriesUpTo, if_neg full]
  unfold settle
  cases hmade : d.makeDirectory path with
  | ok e => rfl
  | error fault => exact if_neg fun hfault : fault = .missing => h (hmade.trans (congrArg _ hfault))

theorem makeDirectoriesUpTo_missing (bound : Nat) (full : path ≠ [])
    (h : d.makeDirectory path = .error .missing) :
    makeDirectoriesUpTo (bound + 1) d path =
      match Path.parent? path with
      | none => (d, some .missing)
      | some parent =>
        match makeDirectoriesUpTo bound d parent with
        | (d, some fault) => (d, some fault)
        | (d, none) => d.settle path := by
  rw [makeDirectoriesUpTo, if_neg full, h]
  rfl

section

variable {R : Disk → Disk → Prop} {P : Text → Prop}

theorem settle_induct (refl : ∀ d, R d d)
    (step : ∀ d d', d.makeDirectory path = .ok d' → R d d') (d : Disk) :
    R d (d.settle path).1 := by
  unfold settle
  cases hmade : d.makeDirectory path with
  | ok d' => exact step d d' hmade
  | error fault =>
      simp only
      split
      · exact refl d
      · exact refl d

/-- What holds of the making of every directory holds of that of all directories around. -/
theorem makeDirectoriesUpTo_induct (refl : ∀ d, R d d) (trans : ∀ d e f, R d e → R e f → R d f)
    (step : ∀ path d d', P path → d.makeDirectory path = .ok d' → R d d')
    (up : ∀ path parent, P path → Path.parent? path = some parent → P parent) (bound : Nat)
    (d : Disk) (h : P path) : R d (makeDirectoriesUpTo bound d path).1 := by
  induction bound generalizing path with
  | zero => exact refl d
  | succ bound ih =>
      by_cases full : path = []
      · rw [makeDirectoriesUpTo, if_pos full]
        exact refl d
      by_cases missing : d.makeDirectory path = .error .missing
      · rw [makeDirectoriesUpTo_missing bound full missing]
        cases hparent : Path.parent? path with
        | none => exact refl d
        | some parent =>
            have around := ih (up path parent h hparent)
            simp only
            generalize makeDirectoriesUpTo bound d parent = made at around ⊢
            obtain ⟨mid, _ | fault⟩ := made
            · exact trans d mid _ around (settle_induct refl (fun d d' => step path d d' h) mid)
            · exact around
      · rw [makeDirectoriesUpTo_settle bound full missing]
        exact settle_induct refl (fun d d' => step path d d' h) d

theorem makeDirectories_induct (refl : ∀ d, R d d) (trans : ∀ d e f, R d e → R e f → R d f)
    (step : ∀ path d d', d.makeDirectory path = .ok d' → R d d') (d : Disk) (path : Text) :
    R d (d.makeDirectories path).1 :=
  makeDirectoriesUpTo_induct (P := fun _ => True) refl trans (fun path d d' _ => step path d d')
    (fun _ _ _ _ => trivial) _ d trivial

end

/-! ## Files -/

/-- Nothing but the file at one place has changed. -/
def ChangesOnly (place : List Text) (d d' : Disk) : Prop :=
  d'.here = d.here ∧ ∀ p, p ≠ place → d'.file? p = d.file? p

theorem changesOnly_put (d : Disk) (place : List Text) (e : Entry) :
    ChangesOnly place d (d.put place e) := by
  refine ⟨rfl, fun p hp => ?_⟩
  unfold file?
  rw [entry?_put_ne hp]

theorem changesOnly_erase (d : Disk) (place : List Text) : ChangesOnly place d (d.erase place) := by
  refine ⟨rfl, fun p hp => ?_⟩
  unfold file?
  rw [entry?_erase_ne hp]

/-- Writing a file changes the file at the place that its path spells. -/
theorem changesOnly_write (h : d.write path content = .ok d') :
    ChangesOnly (Path.spelled d.here path) d d' := by
  obtain ⟨place, hplace, -, rfl⟩ := write_eq h
  exact locate_eq hplace ▸ changesOnly_put d place _

/-- Removing a file changes the file at the place that its path spells. -/
theorem changesOnly_remove (h : d.remove path = .ok d') :
    ChangesOnly (Path.spelled d.here path) d d' := by
  obtain ⟨place, content, hplace, -, rfl⟩ := remove_eq h
  exact locate_eq hplace ▸ changesOnly_erase d place

/-- No file has changed. -/
def SameFiles (d d' : Disk) : Prop := d'.here = d.here ∧ ∀ p, d'.file? p = d.file? p

theorem SameFiles.refl (d : Disk) : SameFiles d d := ⟨rfl, fun _ => rfl⟩

theorem SameFiles.trans {d₁ d₂ d₃ : Disk} (h : SameFiles d₁ d₂) (h' : SameFiles d₂ d₃) :
    SameFiles d₁ d₃ := ⟨h'.1.trans h.1, fun p => (h'.2 p).trans (h.2 p)⟩

/-- A directory is made where nothing was. -/
theorem sameFiles_makeDirectory (h : d.makeDirectory path = .ok d') : SameFiles d d' := by
  obtain ⟨place, -, hnone, rfl⟩ := makeDirectory_eq h
  refine ⟨rfl, fun p => ?_⟩
  by_cases hp : p = place
  · subst hp
    unfold file?
    rw [entry?_put, hnone]
    split
    · next hroot =>
        split at hroot
        · cases hroot
        · rw [if_pos rfl] at hroot
          cases hroot
    · rfl
  · exact (changesOnly_put d place .directory).2 p hp

/-- Making directories changes no file. -/
theorem sameFiles_makeDirectories (d : Disk) (path : Text) :
    SameFiles d (d.makeDirectories path).1 :=
  makeDirectories_induct .refl (fun _ _ _ => .trans) (fun _ _ _ => sameFiles_makeDirectory) d path

end Disk

end PatchTrail
