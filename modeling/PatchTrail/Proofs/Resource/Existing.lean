import PatchTrail.Proofs.Resource.Tables

/-!
# Resources that are there already

A resource that is among the entries of a table is found unless the way to it is barred: by an entry
of the same kind in front of it, with an id that cannot be read. Such an entry does no harm behind
the resource, so the order of the entries makes no difference if and only if there is none
(`allocate_existing_iff`, `allocate_barred`).
-/

namespace PatchTrail.Resource

variable {d : Definition} {es es' : List Entry} {table : Text}

/-- A resource that is there has a first entry. -/
theorem exists_first (there : d.key ∈ es.map Entry.key) :
    ∃ before e behind, es = before ++ e :: behind ∧ e.key = d.key ∧
      ∀ e' ∈ before, e'.key ≠ d.key := by
  obtain ⟨front, keys, split, first⟩ := List.eq_append_cons_of_mem there
  obtain ⟨before, rest, rfl, hbefore, hrest⟩ := List.map_eq_append_iff.mp split
  obtain ⟨e, behind, rfl, hkey, -⟩ := List.map_eq_cons_iff.mp hrest
  refine ⟨before, e, behind, rfl, hkey, fun e' he' same => first ?_⟩
  rw [← hbefore, ← same]
  exact List.mem_map_of_mem he'

/-- A resource that is there is found if the ids of all others of its kind can be read. -/
theorem allocate_of_others
    (legible : ∀ e ∈ es, e.kind = d.kind → e.name ≠ d.name → (parseId? e.id).isSome)
    (read : entries table = .ok es) (there : d.key ∈ es.map Entry.key) :
    d.allocate table = .ok none := by
  obtain ⟨before, e, behind, rfl, hkey, first⟩ := exists_first there
  refine allocate_eq_none_iff.mpr ⟨_, read, before, e, behind, rfl, hkey, fun e' he' hkind => ?_⟩
  refine legible e' (List.mem_append_left _ he') hkind fun hname => ?_
  exact first e' he' (Prod.ext hkind hname)

/-- **A resource that is there already changes nothing if the ids of its kind in front of it can be
read**, and in every order of the entries if the ids of all others of its kind can be read. -/
theorem allocate_existing_iff (read : entries table = .ok es)
    (there : d.key ∈ es.map Entry.key) :
    (d.allocate table = .ok none ↔ ∃ before e behind, es = before ++ e :: behind ∧
      e.key = d.key ∧ ∀ e' ∈ before, e'.kind = d.kind → (parseId? e'.id).isSome) ∧
    ((∀ table' es', entries table' = .ok es' → es'.Perm es → d.allocate table' = .ok none) ↔
      ∀ e ∈ es, e.kind = d.kind → e.name ≠ d.name → (parseId? e.id).isSome) := by
  refine ⟨?_, fun always e he hkind hname => ?_, fun legible table' es' read' same => ?_⟩
  · rw [allocate_eq_none_iff]
    constructor
    · rintro ⟨es', read', found⟩
      cases read.symm.trans read'
      exact found
    · exact fun found => ⟨es, read, found⟩
  · -- the entry bars the way if it is put in front of all others
    obtain ⟨before, behind, rfl⟩ := List.append_of_mem he
    have read' := entries_printed (e :: (before ++ behind))
    obtain ⟨es', read'', front, found, rest, split, hkey, legible⟩ :=
      allocate_eq_none_iff.mp (always _ _ read' List.perm_middle.symm)
    cases read'.symm.trans read''
    cases front with
    | nil =>
        cases split
        exact absurd (congrArg Prod.snd hkey) hname
    | cons first front =>
        obtain ⟨rfl, -⟩ := List.cons.inj split
        exact legible e List.mem_cons_self hkind
  · exact allocate_of_others (fun e he => legible e (same.mem_iff.mp he)) read'
      ((same.map Entry.key).mem_iff.mpr there)

/-- A resource with a number for its id, and one behind it with another text. -/
def barrable : List Entry := [⟨"id", "a", "0x1"⟩, ⟨"id", "b", "?"⟩]

/-- The first of the two is found. -/
theorem allocate_existing_iff_front :
    entries (printed barrable) = .ok barrable ∧
      Definition.key ⟨[], "id", "a"⟩ ∈ barrable.map Entry.key ∧
      Definition.allocate ⟨[], "id", "a"⟩ (printed barrable) = .ok none := by
  have there : Definition.key ⟨[], "id", "a"⟩ ∈ barrable.map Entry.key := by decide
  have read := entries_printed barrable
  exact ⟨read, there, (allocate_existing_iff read there).1.mpr
    ⟨[], _, _, rfl, rfl, fun _ h => absurd h List.not_mem_nil⟩⟩

/-- It is not found if the two stand the other way round, although it is there and the table can be
read. -/
theorem allocate_barred :
    entries (printed barrable.reverse) = .ok barrable.reverse ∧
      Definition.key ⟨[], "id", "a"⟩ ∈ barrable.reverse.map Entry.key ∧
      Definition.allocate ⟨[], "id", "a"⟩ (printed barrable.reverse) = .error (.badId "?" "b") ∧
      Definition.allocate ⟨[], "id", "a"⟩ (printed barrable) = .ok none := by
  have standing : Definition.standing ⟨[], "id", "a"⟩ none barrable.reverse =
      .error (.badId "?" "b") := by decide
  refine ⟨entries_printed _, by decide, ?_, ?_⟩
  · unfold Definition.allocate
    rw [entries_printed]
    simp only [standing]
  · exact allocate_eq_none_iff.mpr ⟨_, entries_printed _, [], _, _, rfl, rfl, legibleOf_nil _⟩

end PatchTrail.Resource
