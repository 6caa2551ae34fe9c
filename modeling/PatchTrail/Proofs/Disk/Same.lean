import PatchTrail.Proofs.Disk.Alike

/-!
# Disks that hold the same

Two disks hold the same if at every place there is the same, in whatever order their entries are
listed (`Disk.Same`). They are alike about every place, so no operation can tell them apart: it
fails on both or leads to disks that hold the same again.
-/

namespace PatchTrail.Disk

/-- Everywhere there is the same on both disks. -/
structure Same (d e : Disk) : Prop where
  here : d.here = e.here
  entry : ∀ p, d.entry? p = e.entry? p

variable {d d' e : Disk} {path : Text} {content : ByteArray}

namespace Same

theorem refl (d : Disk) : Same d d := ⟨rfl, fun _ => rfl⟩

theorem symm (h : Same d e) : Same e d := ⟨h.here.symm, fun p => (h.entry p).symm⟩

theorem trans {d₁ d₂ d₃ : Disk} (h : Same d₁ d₂) (h' : Same d₂ d₃) : Same d₁ d₃ :=
  ⟨h.here.trans h'.here, fun p => (h.entry p).trans (h'.entry p)⟩

/-- To put at a place what is there changes nothing. -/
theorem put_self {place : List Text} {entry : Entry} (h : d.entry? place = some entry) :
    Same d (d.put place entry) := by
  refine ⟨rfl, fun p => ?_⟩
  by_cases hp : p = place
  · subst hp
    rw [entry?_put, if_pos rfl, h]
    split
    · next hroot =>
        subst hroot
        exact h.symm
    · rfl
  · rw [entry?_put_ne hp]

/-- Disks that hold the same are alike about any places. -/
theorem alike (h : Same d e) (about : List Text → Prop) : Alike about d e :=
  ⟨h.here, fun p _ => h.entry p, fun p => congrArg _ (h.entry p)⟩

theorem of_alike (h : Alike (fun _ => True) d e) : Same d e := ⟨h.here, fun p => h.entry p trivial⟩

theorem read (h : Same d e) (path : Text) : d.read path = e.read path :=
  (h.alike fun _ => True).read trivial

theorem readText (h : Same d e) (path : Text) : d.readText path = e.readText path := by
  unfold Disk.readText
  rw [h.read]

end Same

/-- The same failure, or disks that hold the same. -/
def SameResult : Except Fault Disk → Except Fault Disk → Prop
  | .ok d, .ok e => Same d e
  | .error f, .error g => f = g
  | _, _ => False

theorem SameResult.ok {r : Except Fault Disk} (h : SameResult (.ok d) r) :
    ∃ e, r = .ok e ∧ Same d e := by
  cases r with
  | error fault => exact h.elim
  | ok e => exact ⟨e, rfl, h⟩

theorem SameResult.of_alike {r r' : Except Fault Disk} (h : AlikeResult (fun _ => True) r r') :
    SameResult r r' := by
  match r, r', h with
  | .ok _, .ok _, alike => exact Same.of_alike alike
  | .error _, .error _, same => exact same

namespace Same

theorem write (h : Same d e) (path : Text) (content : ByteArray) :
    SameResult (d.write path content) (e.write path content) :=
  .of_alike ((h.alike _).write path content)

theorem remove (h : Same d e) (path : Text) : SameResult (d.remove path) (e.remove path) :=
  .of_alike ((h.alike _).remove path)

theorem write_ok (h : Same d e) (hwrite : d.write path content = .ok d') :
    ∃ e', e.write path content = .ok e' ∧ Same d' e' := by
  have written := h.write path content
  rw [hwrite] at written
  exact written.ok

theorem remove_ok (h : Same d e) (hremove : d.remove path = .ok d') :
    ∃ e', e.remove path = .ok e' ∧ Same d' e' := by
  have removed := h.remove path
  rw [hremove] at removed
  exact removed.ok

theorem makeDirectories (h : Same d e) (path : Text) :
    Same (d.makeDirectories path).1 (e.makeDirectories path).1 ∧
      (d.makeDirectories path).2 = (e.makeDirectories path).2 :=
  ((h.alike _).makeDirectories path).imp_left of_alike

end Same

theorem readText_eq {t : Text} (hread : d.read path = .ok content)
    (htext : Text.decode? content = some t) : d.readText path = .ok t := by
  unfold readText
  simp only [hread, bind, Except.bind, htext]
  rfl

/-- A file can be written with what has been read from it, and nothing changes. -/
theorem write_read (h : d.read path = .ok content) :
    ∃ d', d.write path content = .ok d' ∧ Same d d' := by
  unfold read at h
  unfold write
  cases hplace : d.locate path with
  | error fault =>
      rw [hplace] at h
      cases h
  | ok place =>
      rw [hplace] at h
      simp only [bind, Except.bind] at h ⊢
      cases hentry : d.entry? place with
      | none =>
          rw [hentry] at h
          cases h
      | some entry =>
          rw [hentry] at h
          cases entry with
          | directory => cases h
          | file content' =>
              cases h
              exact ⟨_, rfl, Same.put_self hentry⟩

end PatchTrail.Disk
