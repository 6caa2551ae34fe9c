import PatchTrail.Proofs.Disk.Places
import PatchTrail.Proofs.Except
import PatchTrail.WorkTree

/-!
# What a change records, and when

A change of a work tree records sections at certain moments, each with the disk as it is then. Which
moments these are can be told from the change carried out with an unbounded trail. With a bounded
one nothing else happens: the sections are recorded one after the other until one does not fit, and
there the change stops with the disk as it was at that moment (`Journaled`).

Being journaled is kept by putting changes one after the other (`Journaled.bind`), so it holds for
whatever is put together from changes that record before they touch anything
(`Journaled.of_record`).
-/

namespace PatchTrail

/-! ## Records -/

/-- What a section is about: what is about to happen to a file. -/
inductive Record where
  | created (path : Text) (content : ByteArray)
  | deleted (path : Text)
  | modified (path old new : Text)

namespace Record

/-- The path that a record names. -/
def path : Record → Text
  | created path _ => path
  | deleted path => path
  | modified path _ _ => path

/-- The section that is recorded. -/
def render (r : Diff.Renderer) : Record → Text
  | created path content => r.created path content
  | deleted path => r.deleted path
  | modified path old new => r.modified path old new

/-- The full path that a record names in a tree. -/
def fullPath (root : Text) (rec : Record) : Text := Path.below root rec.path

/-- The place of the file that a record names. -/
def place (root : Text) (here : List Text) (rec : Record) : List Text :=
  Path.spelled here (rec.fullPath root)

/-- What a record says is carried out to the end. -/
def Carried (root : Text) (rec : Record) (d d' : Disk) : Prop :=
  match rec with
  | created _ content =>
    ∃ around, d.makeDirectories ((Path.parent? (rec.fullPath root)).getD []) = (around, none) ∧
      around.write (rec.fullPath root) content = .ok d'
  | deleted _ => d.remove (rec.fullPath root) = .ok d'
  | modified _ old new =>
    (∃ bytes text, d.read (rec.fullPath root) = .ok bytes ∧ Text.decode? bytes = some text ∧
      text.normalizeLineEndings = old) ∧
      if new = old then d' = d else d.write (rec.fullPath root) (Text.encode new) = .ok d'

/-- At most what a record says is carried out. -/
def Touched (root : Text) (rec : Record) (d d' : Disk) : Prop :=
  Disk.ChangesOnly (rec.place root d.here) d d'

theorem touched_of_sameFiles {root : Text} {rec : Record} {d d' : Disk}
    (h : Disk.SameFiles d d') : rec.Touched root d d' := ⟨h.1, fun p _ => h.2 p⟩

theorem Carried.touched {root : Text} {rec : Record} {d d' : Disk} (h : rec.Carried root d d') :
    rec.Touched root d d' := by
  cases rec with
  | created path content =>
      obtain ⟨around, hmade, hwrite⟩ := h
      have made := Disk.sameFiles_makeDirectories d
        ((Path.parent? ((created path content).fullPath root)).getD [])
      rw [hmade] at made
      have written := Disk.changesOnly_write hwrite
      rw [made.1] at written
      exact ⟨written.1.trans made.1, fun p hp => (written.2 p hp).trans (made.2 p)⟩
  | deleted path => exact Disk.changesOnly_remove h
  | modified path old new =>
      obtain ⟨-, h⟩ := h
      split at h
      · rw [h]
        exact touched_of_sameFiles (.refl d)
      · exact Disk.changesOnly_write h

end Record

/-! ## Moments -/

/-- A moment at which a section is recorded, and the disk at that moment. -/
structure Moment where
  disk : Disk
  record : Record

/-- The sections that are recorded at some moments. -/
def sections (r : Diff.Renderer) (ms : List Moment) : Text := ms.flatMap fun m => m.record.render r

/-- From one disk to another, what each moment's record says is carried out between that moment and
the next. -/
inductive Carries (root : Text) : Disk → List Moment → Disk → Prop where
  | nil {d : Disk} : Carries root d [] d
  | cons {d d' last : Disk} {rec : Record} {ms : List Moment} (first : rec.Carried root d d')
      (rest : Carries root d' ms last) : Carries root d (⟨d, rec⟩ :: ms) last

/-- From one disk to another, all that the records say is carried out but for the last, of which at
most that is. -/
inductive Courses (root : Text) : Disk → List Moment → Disk → Prop where
  | nil {d : Disk} : Courses root d [] d
  | stop {d last : Disk} {rec : Record} (touched : rec.Touched root d last) :
      Courses root d [⟨d, rec⟩] last
  | cons {d d' last : Disk} {rec : Record} {ms : List Moment} (first : rec.Carried root d d')
      (rest : Courses root d' ms last) : Courses root d (⟨d, rec⟩ :: ms) last

variable {root : Text} {d d' last : Disk} {ms ks : List Moment} {m : Moment}

theorem Carries.append (h : Carries root d ms d') (h' : Carries root d' ks last) :
    Carries root d (ms ++ ks) last := by
  induction h with
  | nil => exact h'
  | cons first _ ih => exact .cons first (ih h')

theorem Carries.appendCourses (h : Carries root d ms d') (h' : Courses root d' ks last) :
    Courses root d (ms ++ ks) last := by
  induction h with
  | nil => exact h'
  | cons first _ ih => exact .cons first (ih h')

theorem Carries.courses (h : Carries root d ms last) : Courses root d ms last := by
  have := h.appendCourses .nil
  rwa [List.append_nil] at this

/-- What was recorded before a moment has been carried out by then. -/
theorem Courses.upTo (h : Courses root d (ms ++ m :: ks) last) : Carries root d ms m.disk := by
  induction ms generalizing d with
  | nil =>
      cases h with
      | stop => exact .nil
      | cons => exact .nil
  | cons m' ms ih =>
      rw [List.cons_append] at h
      generalize hms : ms ++ m :: ks = rest at h
      cases h with
      | stop => exact (List.append_ne_nil_of_right_ne_nil ms (List.cons_ne_nil m ks) hms).elim
      | cons first rest =>
          subst hms
          exact .cons first (ih rest)

/-- A file is changed only if a record names it. -/
theorem Courses.changed (h : Courses root d ms last) :
    last.here = d.here ∧ ∀ p, last.file? p ≠ d.file? p →
      ∃ m ∈ ms, m.record.place root d.here = p := by
  induction h with
  | nil => exact ⟨rfl, fun p hp => (hp rfl).elim⟩
  | @stop d last rec touched =>
      refine ⟨touched.1, fun p hp => ⟨_, List.mem_cons_self, ?_⟩⟩
      exact Classical.byContradiction fun hplace => hp (touched.2 p (Ne.symm hplace))
  | @cons d d' last rec ms first rest ih =>
      have touched := first.touched
      refine ⟨ih.1.trans touched.1, fun p hp => ?_⟩
      by_cases hplace : p = rec.place root d.here
      · exact ⟨_, List.mem_cons_self, hplace.symm⟩
      · rw [← touched.2 p hplace] at hp
        obtain ⟨m, hm, hmp⟩ := ih.2 p hp
        rw [touched.1] at hmp
        exact ⟨m, List.mem_cons_of_mem _ hm, hmp⟩

/-! ## Trails -/

/-- Records the sections of moments up to the first that does not fit. -/
def Trail.recordAll (r : Diff.Renderer) : Trail → List Moment → Trail × Option Moment
  | t, [] => (t, none)
  | t, m :: ms =>
    match t.record? (m.record.render r) with
    | some t => Trail.recordAll r t ms
    | none => (t, some m)

theorem Trail.recordAll_append (r : Diff.Renderer) (t : Trail) (ms ks : List Moment) :
    t.recordAll r (ms ++ ks) =
      match t.recordAll r ms with
      | (t', none) => t'.recordAll r ks
      | (t', some m) => (t', some m) := by
  induction ms generalizing t with
  | nil => rfl
  | cons m ms ih =>
      rw [List.cons_append, Trail.recordAll, Trail.recordAll]
      cases t.record? (m.record.render r) with
      | none => rfl
      | some t' => exact ih t'

theorem Trail.recordAll_unbounded (r : Diff.Renderer) (text : Text) (ms : List Moment) :
    Trail.recordAll r ⟨text, none⟩ ms = (⟨text ++ sections r ms, none⟩, none) := by
  induction ms generalizing text with
  | nil =>
      rw [Trail.recordAll, sections, List.flatMap_nil, List.append_nil]
  | cons m ms ih =>
      rw [Trail.recordAll, Trail.record?_unbounded, sections, List.flatMap_cons]
      simp only
      rw [ih, List.append_assoc]
      rfl

/-- What has been recorded is in the trail. -/
theorem Trail.text_of_recordAll {r : Diff.Renderer} {t t' : Trail} {ms : List Moment}
    (h : t.recordAll r ms = (t', none)) : t'.text = t.text ++ sections r ms := by
  induction ms generalizing t with
  | nil =>
      cases h
      exact (List.append_nil _).symm
  | cons m ms ih =>
      rw [Trail.recordAll] at h
      cases hrec : t.record? (m.record.render r) with
      | none =>
          rw [hrec] at h
          cases h
      | some t₁ =>
          rw [hrec] at h
          rw [ih h, Trail.text_of_record? hrec, List.append_assoc]
          rfl

/-! ## Journaled changes -/

/-- A tree with another trail. -/
def WorkTree.withTrail (tree : WorkTree) (trail : Trail) : WorkTree := { tree with trail := trail }

@[simp] theorem WorkTree.withTrail_disk (tree : WorkTree) (trail : Trail) :
    (tree.withTrail trail).disk = tree.disk := rfl

@[simp] theorem WorkTree.withTrail_resolve (tree : WorkTree) (trail : Trail) (path : Text) :
    (tree.withTrail trail).resolve path = tree.resolve path := rfl

theorem WorkTree.withTrail_self {tree : WorkTree} (free : tree.trail.room? = none) :
    tree.withTrail ⟨tree.trail.text, none⟩ = tree := by
  obtain ⟨root, renderer, disk, text, room?⟩ := tree
  cases free
  rfl

variable {ε ε' α β : Type}

/-- What a change ends in. -/
def outcome (value : Except ε α) (tree : WorkTree) : EStateM.Result ε WorkTree α :=
  match value with
  | .ok a => .ok a tree
  | .error e => .error e tree

/-- Whatever room the trail has, the sections of the moments are recorded up to the first that does
not fit. If all fit the change ends as it does without a bound. If one does not, the change fails
and leaves the disk as it was at that moment. -/
def Plays (full : ε → Prop) (c : Change ε α) (tree : WorkTree) (ms : List Moment)
    (value : Except ε α) (last : Disk) : Prop :=
  ∀ room?,
    match Trail.recordAll tree.renderer ⟨tree.trail.text, room?⟩ ms with
    | (trail, none) =>
      c (tree.withTrail ⟨tree.trail.text, room?⟩) =
        outcome value { tree with disk := last, trail := trail }
    | (trail, some m) =>
      ∃ e, full e ∧ c (tree.withTrail ⟨tree.trail.text, room?⟩) =
        .error e { tree with disk := m.disk, trail := trail }

/-- These are the moments at which a change of a tree records sections. What is recorded is carried
out, but for what is recorded last if the change fails then. -/
def Journaled (full : ε → Prop) (c : Change ε α) (tree : WorkTree) (ms : List Moment) : Prop :=
  ∃ value last, Plays full c tree ms value last ∧ Courses tree.root tree.disk ms last ∧
    ∀ a, value = .ok a → Carries tree.root tree.disk ms last

theorem Plays.unbounded {full : ε → Prop} {c : Change ε α} {tree : WorkTree} {ms : List Moment}
    {value : Except ε α} {last : Disk} (h : Plays full c tree ms value last)
    (free : tree.trail.room? = none) :
    c tree = outcome value { tree with
      disk := last, trail := ⟨tree.trail.text ++ sections tree.renderer ms, none⟩ } := by
  have := h none
  rw [Trail.recordAll_unbounded, WorkTree.withTrail_self free] at this
  exact this

theorem Journaled.pure {full : ε → Prop} (a : α) (tree : WorkTree) :
    Journaled full (pure a : Change ε α) tree [] :=
  ⟨.ok a, tree.disk, fun _ => rfl, .nil, fun _ _ => .nil⟩

/-- Nothing is recorded behind a change that fails. -/
theorem Plays.bind_error {full : ε → Prop} {c : Change ε α} {f : α → Change ε β}
    {tree : WorkTree} {ms : List Moment} {e : ε} {last : Disk}
    (h : Plays full c tree ms (.error e) last) :
    Plays full (c >>= f) tree ms (.error e) last := by
  intro room?
  have first := h room?
  cases hrec : Trail.recordAll tree.renderer ⟨tree.trail.text, room?⟩ ms with
  | mk trail stop =>
      rw [hrec] at first
      cases stop with
      | none => exact PatchTrail.bind_error first
      | some m =>
          obtain ⟨e', he', first⟩ := first
          exact ⟨e', he', PatchTrail.bind_error first⟩

/-- Behind a change that succeeds the next one goes on with what the first has left. -/
theorem Plays.bind {full : ε → Prop} {c : Change ε α} {f : α → Change ε β} {tree : WorkTree}
    {ms ks : List Moment} {a : α} {disk last : Disk} {value : Except ε β}
    (h : Plays full c tree ms (.ok a) disk)
    (next : Plays full (f a) { tree with
      disk := disk, trail := ⟨tree.trail.text ++ sections tree.renderer ms, none⟩ } ks value last) :
    Plays full (c >>= f) tree (ms ++ ks) value last := by
  intro room?
  have first := h room?
  rw [Trail.recordAll_append]
  cases hrec : Trail.recordAll tree.renderer ⟨tree.trail.text, room?⟩ ms with
  | mk trail stop =>
      rw [hrec] at first
      cases stop with
      | none =>
          obtain ⟨text, room'⟩ := trail
          obtain rfl : text = tree.trail.text ++ sections tree.renderer ms :=
            Trail.text_of_recordAll hrec
          have second := next room'
          simp only at second ⊢
          rw [bind_ok first]
          exact second
      | some m =>
          obtain ⟨e', he', first⟩ := first
          exact ⟨e', he', PatchTrail.bind_error first⟩

/-- One change after the other records what the one records and then what the other does, unless
the first fails. -/
theorem Journaled.bind {full : ε → Prop} {c : Change ε α} {f : α → Change ε β} {tree : WorkTree}
    {ms ks : List Moment} (free : tree.trail.room? = none) (h : Journaled full c tree ms)
    (ok : ∀ a tree', c tree = .ok a tree' → tree'.trail.room? = none →
      Journaled full (f a) tree' ks)
    (error : ∀ e tree', c tree = .error e tree' → ks = []) :
    Journaled full (c >>= f) tree (ms ++ ks) := by
  obtain ⟨value, last, plays, courses, carries⟩ := h
  have run := plays.unbounded free
  cases value with
  | error e =>
      obtain rfl : ks = [] := error e _ run
      rw [List.append_nil]
      exact ⟨.error e, last, plays.bind_error, courses, nofun⟩
  | ok a =>
      obtain ⟨value', last', plays', courses', carries'⟩ := ok a _ run rfl
      exact ⟨value', last', plays.bind plays', (carries a rfl).appendCourses courses',
        fun b hb => (carries a rfl).append (carries' b hb)⟩

/-- A failure that is wrapped is the same failure. -/
theorem Journaled.adaptExcept {full : ε → Prop} {full' : ε' → Prop} {c : Change ε α}
    {g : ε → ε'} {tree : WorkTree} {ms : List Moment} (h : Journaled full c tree ms)
    (wraps : ∀ e, full e → full' (g e)) : Journaled full' (c.adaptExcept g) tree ms := by
  obtain ⟨value, last, plays, courses, carries⟩ := h
  refine ⟨value.mapError g, last, fun room? => ?_, courses, fun a ha => ?_⟩
  · have run := plays room?
    cases hrec : Trail.recordAll tree.renderer ⟨tree.trail.text, room?⟩ ms with
    | mk trail stop =>
        rw [hrec] at run
        unfold EStateM.adaptExcept
        cases stop with
        | none =>
            simp only at run ⊢
            rw [run]
            cases value <;> rfl
        | some m =>
            obtain ⟨e, he, run⟩ := run
            refine ⟨g e, wraps e he, ?_⟩
            rw [run]
  · cases value with
    | error e => cases ha
    | ok b => exact carries b rfl

/-- A change that leaves the trail alone. -/
def Quiet (c : Change ε α) (tree : WorkTree) (value : Except ε α) (last : Disk) : Prop :=
  ∀ trail, c (tree.withTrail trail) = outcome value { tree with disk := last, trail := trail }

section

variable {c : Change ε α} {f : α → Change ε β} {tree : WorkTree} {disk last : Disk}

theorem Quiet.pure (a : α) (tree : WorkTree) :
    Quiet (pure a : Change ε α) tree (.ok a) tree.disk := fun _ => rfl

theorem Quiet.bind {a : α} {value : Except ε β} (h : Quiet c tree (.ok a) disk)
    (next : Quiet (f a) { tree with disk := disk } value last) :
    Quiet (c >>= f) tree value last := by
  intro trail
  rw [bind_ok (h trail)]
  exact next trail

theorem Quiet.bind_error {e : ε} (h : Quiet c tree (.error e) disk) :
    Quiet (c >>= f) tree (.error e) disk := fun trail => PatchTrail.bind_error (h trail)

end

open Instruction (Error)

/-- A change that records a section first and then leaves the trail alone. -/
theorem Journaled.of_record (rec : Record) {c : Change Error α} {tree : WorkTree}
    {value : Except Error α} {last : Disk} (h : Quiet c tree value last)
    (touched : rec.Touched tree.root tree.disk last)
    (carried : ∀ a, value = .ok a → rec.Carried tree.root tree.disk last) :
    Journaled (fun e => e.root = .trailFull)
      (WorkTree.record (rec.render tree.renderer) >>= fun _ => c) tree [⟨tree.disk, rec⟩] := by
  refine ⟨value, last, fun room? => ?_, .stop touched, fun a ha => .cons (carried a ha) .nil⟩
  have recorded : WorkTree.record (rec.render tree.renderer)
      (tree.withTrail ⟨tree.trail.text, room?⟩) =
        match Trail.record? ⟨tree.trail.text, room?⟩ (rec.render tree.renderer) with
        | some trail => .ok () (tree.withTrail trail)
        | none => .error .trailFull (tree.withTrail ⟨tree.trail.text, room?⟩) := rfl
  rw [Trail.recordAll]
  simp only
  cases hrec : Trail.record? ⟨tree.trail.text, room?⟩ (rec.render tree.renderer) with
  | none =>
      rw [hrec] at recorded
      exact ⟨.trailFull, rfl, bind_error recorded⟩
  | some trail =>
      rw [hrec] at recorded
      exact (bind_ok recorded).trans (h trail)

/-- A change that fails before it records anything. -/
theorem Journaled.of_quiet {full : ε → Prop} {c : Change ε α} {tree : WorkTree} {e : ε}
    (h : Quiet c tree (.error e) tree.disk) : Journaled full c tree [] :=
  ⟨.error e, tree.disk, fun _ => h _, .nil, nofun⟩

/-- Changes that do the same to a tree whatever its trail record the same. -/
theorem Journaled.congr {full : ε → Prop} {c c' : Change ε α} {tree : WorkTree} {ms : List Moment}
    (h : Journaled full c tree ms)
    (same : ∀ trail, c' (tree.withTrail trail) = c (tree.withTrail trail)) :
    Journaled full c' tree ms := by
  obtain ⟨value, last, plays, rest⟩ := h
  refine ⟨value, last, fun room? => ?_, rest⟩
  have := plays room?
  rwa [← same] at this

end PatchTrail
