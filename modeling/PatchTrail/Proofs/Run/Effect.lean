import PatchTrail.Proofs.Disk.Directories
import PatchTrail.Proofs.Run.Journal

/-!
# What carrying out a record needs and changes

What a record says can be carried out if there are directories on the way to its file, or may be
made there, and the file is what the record takes it to be (`Record.Ready`). Then there are
directories on the way, the file is what the record makes of it, and everything else is as it was
(`Record.Effect`).
-/

namespace PatchTrail

/-- Whatever is somewhere is in a directory. -/
def Disk.Grounded (d : Disk) : Prop :=
  ∀ p, p ≠ [] → d.entry? p ≠ none → d.entry? p.dropLast = some .directory

/-- Whatever is on the way to something is a directory. -/
theorem Disk.Grounded.directory {d : Disk} (grounded : d.Grounded) {p q : List Text}
    (there : d.entry? p ≠ none) (before : q <+: p) (apart : q ≠ p) :
    d.entry? q = some .directory := by
  induction hlength : p.length generalizing p with
  | zero =>
      rw [List.length_eq_zero_iff.mp hlength, List.prefix_nil] at before
      exact absurd (before.trans (List.length_eq_zero_iff.mp hlength).symm) apart
  | succ n ih =>
      have rooted : p ≠ [] := List.ne_nil_of_length_eq_add_one hlength
      have around := grounded p rooted there
      have split := List.dropLast_concat_getLast rooted
      rw [← split] at before apart
      have before := (List.prefix_concat_iff.mp before).resolve_left apart
      by_cases hq : q = p.dropLast
      · rw [hq]
        exact around
      · refine ih (around ▸ nofun) before hq ?_
        rw [List.length_dropLast, hlength]
        rfl

namespace Record

open Disk (Entry)
open PatchTrail.Path (Permitted Way Straight spelled start)

variable {root : Text} {rec : Record} {d d' : Disk}

/-- A record before which directories are made. -/
def MakesRoom : Record → Prop
  | created _ _ => True
  | deleted _ => False
  | modified _ _ _ => False

/-- What a record needs at the place of its file, to which a path leads. -/
def Fits (rec : Record) (path : Text) (entry : Option Entry) : Prop :=
  match rec with
  | created _ _ => Disk.Writable path entry
  | deleted _ =>
    (∃ content, entry = some (.file content)) ∧ Path.endsAsDirectory path = false
  | modified _ old _ =>
    (∃ bytes text, entry = some (.file bytes) ∧ Text.decode? bytes = some text ∧
      text.normalizeLineEndings = old) ∧ Path.endsAsDirectory path = false

/-- What a record makes of what is at the place of its file. -/
def result (rec : Record) (entry : Option Entry) : Option Entry :=
  match rec with
  | created _ content => some (.file content)
  | deleted _ => none
  | modified _ old new => if new = old then entry else some (.file (Text.encode new))

/-- What a record says can be carried out. -/
structure Ready (root : Text) (rec : Record) (d : Disk) : Prop where
  permitted : Permitted (rec.fullPath root)
  passable : ∀ p, Way d.here (rec.fullPath root) p → d.entry? p = some .directory ∨
    rec.MakesRoom ∧ p ≠ start d.here (rec.fullPath root) ∧ d.entry? p = none
  fits : rec.Fits (rec.fullPath root) ( d.entry? (rec.place root d.here))

/-- What has changed when a record has been carried out. -/
structure Effect (root : Text) (rec : Record) (d d' : Disk) : Prop where
  here : d'.here = d.here
  target : d'.entry? (rec.place root d.here) = rec.result ( d.entry? (rec.place root d.here))
  way : ∀ p, Way d.here (rec.fullPath root) p → d'.entry? p = some .directory
  rest : ∀ p, p ≠ rec.place root d.here → ¬ Way d.here (rec.fullPath root) p →
    d'.entry? p = d.entry? p

theorem spelled_ne_nil {path : Text} (straight : Straight path) (here : List Text) :
    spelled here path ≠ [] := by
  rw [Path.spelled_eq straight.onward]
  exact List.append_ne_nil_of_right_ne_nil _ straight.named

theorem way_start {path : Text} (straight : Straight path) (here : List Text) :
    Way here path (start here path) := by
  refine ⟨List.prefix_rfl, ?_, fun h => straight.named ?_⟩
  · rw [Path.spelled_eq straight.onward]
    exact List.prefix_append _ _
  · rw [Path.spelled_eq straight.onward] at h
    simpa using h

/-! ## Carrying out a record -/

/-- A record before which no directories are made changes only its file. -/
theorem effect_of_reaches (reaches : d.Reaches (rec.fullPath root)) (here : d'.here = d.here)
    (target : d'.entry? (rec.place root d.here) = rec.result ( d.entry? (rec.place root d.here)))
    (rest : ∀ p, p ≠ rec.place root d.here → d'.entry? p = d.entry? p) : Effect root rec d d' where
  here := here
  target := target
  way p way := (rest p way.apart).trans (reaches.open_ p way)
  rest p hp _ := rest p hp

/-- What has been carried out could be, and has had its effect. -/
theorem Carried.effect (straight : Straight (rec.fullPath root)) (h : rec.Carried root d d') :
    Ready root rec d ∧ Effect root rec d d' := by
  have rooted := spelled_ne_nil straight d.here
  cases rec with
  | created path content =>
      obtain ⟨mid, hmade, hwrite⟩ := h
      obtain ⟨parent, hparent, around⟩ := Path.exists_around straight.named
      rw [hparent] at hmade
      obtain ⟨inner, filled⟩ := Disk.filled_of_around around straight.onward hmade
      obtain ⟨reaches, writable, rfl⟩ := (Disk.write_eq_ok_iff straight.onward).mp hwrite
      rw [filled.here] at writable ⊢
      rw [inner.entry_spelled around straight.onward] at writable
      refine ⟨⟨reaches.permitted, fun p way => ?_, writable⟩,
        filled.here, Disk.entry?_put_self rooted mid _, fun p way => ?_, fun p hp apart => ?_⟩
      · have made := reaches.open_ p (filled.here ▸ way)
        rcases filled.entry p with same | ⟨hnone, -, begins, -⟩
        · exact .inl (same.symm.trans made)
        · exact .inr ⟨trivial, begins, hnone⟩
      · rw [Disk.entry?_put_ne way.apart]
        exact reaches.open_ p (filled.here ▸ way)
      · refine (Disk.entry?_put_ne hp _).trans ((filled.entry p).resolve_right ?_)
        rintro ⟨-, -, -, first, before⟩
        exact apart ⟨first, before, hp⟩
  | deleted path =>
      obtain ⟨reaches, hentry, last, rfl⟩ := (Disk.remove_eq_ok_iff straight.onward).mp h
      exact ⟨⟨reaches.permitted, fun p way => .inl (reaches.open_ p way), hentry, last⟩,
        effect_of_reaches reaches rfl (Disk.entry?_erase_self rooted d) fun p hp =>
          Disk.entry?_erase_ne hp⟩
  | modified path old new =>
      obtain ⟨⟨bytes, text, hread, htext, hold⟩, hwritten⟩ := h
      obtain ⟨reaches, hentry, last⟩ := (Disk.read_eq_ok_iff straight.onward).mp hread
      refine ⟨⟨reaches.permitted, fun p way => .inl (reaches.open_ p way),
        ⟨bytes, text, hentry, htext, hold⟩, last⟩, ?_⟩
      split at hwritten
      · next same =>
          subst hwritten
          exact effect_of_reaches reaches rfl (if_pos same).symm fun p _ => rfl
      · next changed =>
          obtain ⟨-, -, rfl⟩ := (Disk.write_eq_ok_iff straight.onward).mp hwritten
          refine effect_of_reaches reaches rfl ?_ fun p hp => Disk.entry?_put_ne hp _
          exact (Disk.entry?_put_self rooted d _).trans (if_neg changed).symm

/-- The way of a record that does not make directories is open. -/
theorem Ready.reaches (ready : Ready root rec d) (stays : ¬ rec.MakesRoom) :
    d.Reaches (rec.fullPath root) :=
  ⟨ready.permitted, fun p way => (ready.passable p way).resolve_right fun h => stays h.1⟩

/-- What is ready to be carried out can be. -/
theorem Ready.carried (straight : Straight (rec.fullPath root)) (ready : Ready root rec d) :
    ∃ d', rec.Carried root d d' := by
  cases rec with
  | created path content =>
      obtain ⟨parent, hparent, around⟩ := Path.exists_around straight.named
      have begins : d.entry? (start d.here ((created path content).fullPath root)) =
          some .directory :=
        (ready.passable _ (way_start straight d.here)).resolve_right fun h => h.2.1 rfl
      have room : ∃ mid, d.makeDirectories parent = (mid, none) := by
        by_cases root : parent = []
        · rw [root]
          exact ⟨d, by rw [Disk.makeDirectories, Disk.makeDirectoriesUpTo, if_pos rfl]⟩
        · refine Disk.makeDirectoriesUpTo_ok (around.onward straight.onward)
            (around.permitted ready.permitted root) around.dot (fun p first before => ?_)
            (Nat.lt_succ_self _)
          unfold Disk.Passable
          rw [around.start] at first ⊢
          exact (ready.passable p ((around.way_iff straight.onward).mpr ⟨first, before⟩)).imp_right
            And.right
      obtain ⟨mid, hmade⟩ := room
      obtain ⟨inner, filled⟩ := Disk.filled_of_around around straight.onward hmade
      have reaches :=
        Disk.reaches_of_around around straight.onward ready.permitted begins hmade
      refine ⟨_, mid, by rw [hparent]; exact hmade,
        (Disk.write_eq_ok_iff straight.onward).mpr ⟨reaches, ?_, rfl⟩⟩
      rw [filled.here, inner.entry_spelled around straight.onward]
      exact ready.fits
  | deleted path =>
      exact ⟨_, (Disk.remove_eq_ok_iff straight.onward).mpr
        ⟨ready.reaches id, ready.fits.1, ready.fits.2, rfl⟩⟩
  | modified path old new =>
      have reaches := ready.reaches id
      obtain ⟨⟨bytes, text, hentry, htext, hold⟩, last⟩ := ready.fits
      have read := (Disk.read_eq_ok_iff straight.onward).mpr ⟨reaches, hentry, last⟩
      by_cases same : new = old
      · exact ⟨d, ⟨bytes, text, read, htext, hold⟩, by rw [if_pos same]⟩
      · have writable : Disk.Writable ((modified path old new).fullPath root)
            ( d.entry? ((modified path old new).place root d.here)) := hentry ▸ last
        have write := (Disk.write_eq_ok_iff straight.onward).mpr
          ⟨reaches, writable, Eq.refl (d.put _ (.file (Text.encode new)))⟩
        exact ⟨_, ⟨bytes, text, read, htext, hold⟩, (if_neg same).mpr write⟩

/-! ## Files in directories -/

/-- A record does not replace a directory. -/
theorem Ready.ne_directory (ready : Ready root rec d) :
    d.entry? (rec.place root d.here) ≠ some .directory := by
  intro h
  have fits := ready.fits
  rw [h] at fits
  cases rec with
  | created path content => exact fits
  | deleted path =>
      obtain ⟨⟨content, hentry⟩, -⟩ := fits
      cases hentry
  | modified path old new =>
      obtain ⟨⟨bytes, text, hentry, -⟩, -⟩ := fits
      cases hentry

/-- A record that does not make directories is about a file that is there. -/
theorem Ready.ne_none (ready : Ready root rec d) (stays : ¬ rec.MakesRoom) :
    d.entry? (rec.place root d.here) ≠ none := by
  intro h
  have fits := ready.fits
  rw [h] at fits
  cases rec with
  | created path content => exact stays trivial
  | deleted path =>
      obtain ⟨⟨content, hentry⟩, -⟩ := fits
      cases hentry
  | modified path old new =>
      obtain ⟨⟨bytes, text, hentry, -⟩, -⟩ := fits
      cases hentry

/-- Directories stay. -/
theorem Effect.directory (effect : Effect root rec d d') (ready : Ready root rec d) {p : List Text}
    (h : d.entry? p = some .directory) : d'.entry? p = some .directory := by
  by_cases hp : p = rec.place root d.here
  · exact absurd (hp ▸ h) ready.ne_directory
  · by_cases way : Way d.here (rec.fullPath root) p
    · exact effect.way p way
    · rw [effect.rest p hp way, h]

theorem way_dropLast {here p : List Text} {path : Text} (first : start here path <+: p)
    (inner : p ≠ start here path) (before : p <+: spelled here path) :
    Way here path p.dropLast := by
  have rooted : p ≠ [] := by
    rintro rfl
    exact inner (List.prefix_nil.mp first).symm
  refine ⟨?_, (List.dropLast_prefix p).trans before, fun h => ?_⟩
  · rw [← List.dropLast_concat_getLast rooted] at first inner
    exact (List.prefix_concat_iff.mp first).resolve_left (Ne.symm inner)
  · have := before.length_le
    rw [← h, List.length_dropLast] at this
    have := List.length_pos_iff.mpr rooted
    omega

/-- Where everything is in a directory, it still is after a record has been carried out. -/
theorem Effect.grounded (straight : Straight (rec.fullPath root)) (effect : Effect root rec d d')
    (ready : Ready root rec d) (grounded : d.Grounded) : d'.Grounded := by
  intro p rooted there
  have begins := way_start straight d.here
  by_cases hp : p = rec.place root d.here
  · refine effect.way _ (way_dropLast ?_ ?_ ?_)
    · exact hp ▸ begins.before
    · exact hp ▸ Ne.symm begins.apart
    · exact hp ▸ List.prefix_rfl
  · by_cases way : Way d.here (rec.fullPath root) p
    · by_cases inner : p = start d.here (rec.fullPath root)
      · subst inner
        have there : d.entry? (start d.here (rec.fullPath root)) = some .directory :=
          (ready.passable _ begins).resolve_right fun h => h.2.1 rfl
        exact effect.directory ready (grounded _ rooted (there ▸ nofun))
      · exact effect.way _ (way_dropLast way.start inner way.before)
    · rw [effect.rest p hp way] at there
      exact effect.directory ready (grounded p rooted there)

end Record

end PatchTrail
