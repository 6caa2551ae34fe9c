import PatchTrail.Proofs.Disk.Directories

/-!
# Disks that are alike

Two disks are alike about some places if there they hold the same, and at every other place the same
kind of thing: nothing, a directory, or a file, whose content may be another (`Disk.Alike`). No
operation can tell them apart unless it reads a file at one of the other places (`Alike.read`): it
fails on both or leads to disks that are alike again.
-/

namespace PatchTrail.Disk

/-- At some places there is the same on both disks, at all others the same kind of thing. -/
structure Alike (about : List Text → Prop) (d e : Disk) : Prop where
  here : d.here = e.here
  entry : ∀ p, about p → d.entry? p = e.entry? p
  kind : ∀ p, ( d.entry? p).map Entry.isDirectory = ( e.entry? p).map Entry.isDirectory

/-- The same failure, or disks that are alike. -/
def AlikeResult (about : List Text → Prop) : Except Fault Disk → Except Fault Disk → Prop
  | .ok d, .ok e => Alike about d e
  | .error f, .error g => f = g
  | _, _ => False

variable {about : List Text → Prop} {d d' e : Disk} {path : Text}

theorem AlikeResult.ok {r : Except Fault Disk} (h : AlikeResult about (.ok d) r) :
    ∃ e, r = .ok e ∧ Alike about d e := by
  cases r with
  | error fault => exact h.elim
  | ok e => exact ⟨e, rfl, h⟩

theorem AlikeResult.error {fault : Fault} {r : Except Fault Disk}
    (h : AlikeResult about (.error fault) r) : r = .error fault := by
  cases r with
  | error fault' => exact congrArg Except.error (Eq.symm h)
  | ok e => exact h.elim

namespace Alike

theorem symm (h : Alike about d e) : Alike about e d :=
  ⟨h.here.symm, fun p hp => (h.entry p hp).symm, fun p => (h.kind p).symm⟩

/-- What there can be at one place of both disks. -/
theorem cases (h : Alike about d e) (p : List Text) :
    d.entry? p = none ∧ e.entry? p = none ∨
      d.entry? p = some .directory ∧ e.entry? p = some .directory ∨
      ∃ content content', d.entry? p = some (.file content) ∧
        e.entry? p = some (.file content') := by
  have kind := h.kind p
  match hd : d.entry? p, he : e.entry? p with
  | none, none => exact .inl ⟨rfl, rfl⟩
  | some .directory, some .directory => exact .inr (.inl ⟨rfl, rfl⟩)
  | some (.file content), some (.file content') => exact .inr (.inr ⟨_, _, rfl, rfl⟩)
  | none, some _ => simp [hd, he] at kind
  | some _, none => simp [hd, he] at kind
  | some .directory, some (.file _) => simp [hd, he, Entry.isDirectory] at kind
  | some (.file _), some .directory => simp [hd, he, Entry.isDirectory] at kind

theorem put (h : Alike about d e) (place : List Text) (entry : Entry) :
    Alike about (d.put place entry) (e.put place entry) := by
  refine ⟨h.here, fun p hp => ?_, fun p => ?_⟩
  · rw [entry?_put, entry?_put, h.entry p hp]
  · rw [entry?_put, entry?_put]
    split
    · rfl
    · split
      · rfl
      · exact h.kind p

theorem erase (h : Alike about d e) (place : List Text) :
    Alike about (d.erase place) (e.erase place) := by
  refine ⟨h.here, fun p hp => ?_, fun p => ?_⟩
  · rw [entry?_erase, entry?_erase, h.entry p hp]
  · rw [entry?_erase, entry?_erase]
    split
    · rfl
    · split
      · rfl
      · exact h.kind p

/-! ## Places -/

theorem walk (h : Alike about d e) (names start : List Text) :
    d.walk start names = e.walk start names := by
  induction names generalizing start with
  | nil => rfl
  | cons name names ih =>
      rw [Disk.walk, Disk.walk]
      rcases h.cases start with ⟨hd, he⟩ | ⟨hd, he⟩ | ⟨content, content', hd, he⟩
      · rw [hd, he]
      · rw [hd, he]
        simp only [ih]
      · rw [hd, he]

theorem locate (h : Alike about d e) (path : Text) : d.locate path = e.locate path := by
  unfold Disk.locate
  rw [h.here, h.walk]
  refine ite_congr rfl (fun _ => rfl) fun _ => ite_congr rfl (fun _ => rfl) fun _ =>
    ite_congr rfl (fun _ => rfl) fun _ => ?_
  cases e.walk (if Path.isAbsolute path then [] else e.here) (Path.names path) with
  | error fault => rfl
  | ok place =>
      simp only [bind, Except.bind]
      rcases h.cases place with ⟨hd, he⟩ | ⟨hd, he⟩ | ⟨content, content', hd, he⟩
      · rw [hd, he]
      · rw [hd, he]
      · rw [hd, he]

theorem isDirectory (h : Alike about d e) (path : Text) :
    d.isDirectory path = e.isDirectory path := by
  unfold Disk.isDirectory
  rw [h.locate]
  cases e.locate path with
  | error fault => rfl
  | ok place =>
      rcases h.cases place with ⟨hd, he⟩ | ⟨hd, he⟩ | ⟨content, content', hd, he⟩
      · simp only [hd, he]
      · simp only [hd, he]
      · simp only [hd, he, Option.any_some, Entry.isDirectory]

/-! ## Files -/

/-- A file is read alike where there is the same on both disks. -/
theorem read (h : Alike about d e) (known : about (Path.spelled d.here path)) :
    d.read path = e.read path := by
  unfold Disk.read
  rw [← h.locate]
  cases hplace : d.locate path with
  | error fault => rfl
  | ok place =>
      rw [← locate_eq hplace] at known
      simp only [bind, Except.bind, h.entry place known]

/-- What is done alike at every place is done alike at the place of a path. -/
theorem locate_bind {k k' : List Text → Except Fault Disk} (h : Alike about d e) (path : Text)
    (alike : ∀ place, AlikeResult about (k place) (k' place)) :
    AlikeResult about (d.locate path >>= k) (e.locate path >>= k') := by
  rw [h.locate]
  cases e.locate path with
  | error fault => rfl
  | ok place => exact alike place

theorem write (h : Alike about d e) (path : Text) (content : ByteArray) :
    AlikeResult about (d.write path content) (e.write path content) := by
  refine h.locate_bind path fun place => ?_
  rcases h.cases place with ⟨hd, he⟩ | ⟨hd, he⟩ | ⟨old, old', hd, he⟩
  · rw [hd, he]
    simp only
    split
    · rfl
    · exact h.put place _
  · rw [hd, he]
    rfl
  · rw [hd, he]
    exact h.put place _

theorem remove (h : Alike about d e) (path : Text) :
    AlikeResult about (d.remove path) (e.remove path) := by
  refine h.locate_bind path fun place => ?_
  rcases h.cases place with ⟨hd, he⟩ | ⟨hd, he⟩ | ⟨old, old', hd, he⟩
  · rw [hd, he]
    rfl
  · rw [hd, he]
    rfl
  · rw [hd, he]
    exact h.erase place

/-! ## Directories -/

theorem makeDirectory (h : Alike about d e) (path : Text) :
    AlikeResult about (d.makeDirectory path) (e.makeDirectory path) := by
  refine h.locate_bind path fun place => ?_
  rcases h.cases place with ⟨hd, he⟩ | ⟨hd, he⟩ | ⟨old, old', hd, he⟩
  · rw [hd, he]
    exact h.put place _
  · rw [hd, he]
    rfl
  · rw [hd, he]
    rfl

theorem settle (h : Alike about d e) (path : Text) :
    Alike about (d.settle path).1 (e.settle path).1 ∧
      (d.settle path).2 = (e.settle path).2 := by
  have made := h.makeDirectory path
  unfold Disk.settle
  rw [h.isDirectory path]
  match d.makeDirectory path, e.makeDirectory path, made with
  | .ok d, .ok e, alike => exact ⟨alike, rfl⟩
  | .error fault, .error _, rfl =>
      simp only
      split
      · exact ⟨h, rfl⟩
      · exact ⟨h, rfl⟩

theorem makeDirectory_missing (h : Alike about d e)
    (missing : d.makeDirectory path = .error .missing) :
    e.makeDirectory path = .error .missing := by
  have made := h.makeDirectory path
  rw [missing] at made
  exact made.error

theorem makeDirectoriesUpTo (h : Alike about d e) (bound : Nat) (path : Text) :
    Alike about (Disk.makeDirectoriesUpTo bound d path).1
        (Disk.makeDirectoriesUpTo bound e path).1 ∧
      (Disk.makeDirectoriesUpTo bound d path).2 = (Disk.makeDirectoriesUpTo bound e path).2 := by
  induction bound generalizing path with
  | zero => exact ⟨h, rfl⟩
  | succ bound ih =>
      by_cases full : path = []
      · rw [Disk.makeDirectoriesUpTo, Disk.makeDirectoriesUpTo, if_pos full, if_pos full]
        exact ⟨h, rfl⟩
      by_cases missing : d.makeDirectory path = .error .missing
      · rw [makeDirectoriesUpTo_missing bound full missing,
          makeDirectoriesUpTo_missing bound full (h.makeDirectory_missing missing)]
        cases Path.parent? path with
        | none => exact ⟨h, rfl⟩
        | some parent =>
            have around := ih parent
            simp only
            generalize Disk.makeDirectoriesUpTo bound d parent = made at around ⊢
            generalize Disk.makeDirectoriesUpTo bound e parent = made' at around ⊢
            obtain ⟨d₁, fault?⟩ := made
            obtain ⟨e₁, fault?'⟩ := made'
            obtain ⟨alike, rfl⟩ : Alike about d₁ e₁ ∧ fault? = fault?' := around
            cases fault? with
            | some fault => exact ⟨alike, rfl⟩
            | none => exact alike.settle path
      · have found : e.makeDirectory path ≠ .error .missing := fun missing' =>
          missing (h.symm.makeDirectory_missing missing')
        rw [makeDirectoriesUpTo_settle bound full missing,
          makeDirectoriesUpTo_settle bound full found]
        exact h.settle path

theorem makeDirectories (h : Alike about d e) (path : Text) :
    Alike about (d.makeDirectories path).1 (e.makeDirectories path).1 ∧
      (d.makeDirectories path).2 = (e.makeDirectories path).2 :=
  h.makeDirectoriesUpTo _ path

end Alike

end PatchTrail.Disk
