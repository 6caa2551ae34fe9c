import PatchTrail.Proofs.Text.Replacing
import PatchTrail.Resource.Allocation
import Mathlib.Data.List.Induction

/-!
# New resources and their ids

As long as all ids of a table can be read, going through its entries finds out whether a resource is
there already (`standing_defined`), and if it is not, which id of its kind is the greatest
(`standing_new`). In any case a definition finds its resource in the table (`allocate_eq_none_iff`),
or puts a line into it (`allocate_eq_some_iff`), or fails: both statements say exactly when, in
terms of the entries, and the second one also what the table is afterwards.

The resources of some definitions that are not among the entries of a table, each once and in the
order of the first definitions (`fresh`), and new entries whose ids count on from the greatest ones
of the table (`CountsOn`). Such entries move the greatest id of a kind by their number
(`CountsOn.greatest`), so the next one may be the id behind it.
-/

namespace PatchTrail.Resource

/-! ## What the entries of a table say about a definition -/

section Standing

variable {d : Definition} {es es' : List Entry} {kind : Text} {id : Nat}

/-- The kind and the name of a resource, which no two resources share. -/
def Entry.key (e : Entry) : Text × Text := (e.kind, e.name)

/-- The kind and the name of a resource to be defined. -/
def Definition.key (d : Definition) : Text × Text := (d.kind, d.name)

/-- All ids of some entries can be read. -/
def Legible (es : List Entry) : Prop := ∀ e ∈ es, (parseId? e.id).isSome

/-- The ids of the entries of a kind. -/
def idsOf (kind : Text) (es : List Entry) : List Nat :=
  (es.filter (·.kind = kind)).filterMap (parseId? ·.id)

/-- The greatest id of a kind, if the kind has any. -/
def greatest? (kind : Text) (es : List Entry) : Option Nat := (idsOf kind es).max?

@[simp] theorem idsOf_append (kind : Text) (es es' : List Entry) :
    idsOf kind (es ++ es') = idsOf kind es ++ idsOf kind es' := by
  simp only [idsOf, List.filter_append, List.filterMap_append]

theorem idsOf_cons_of_kind {e : Entry} (hkind : e.kind = kind) (hid : parseId? e.id = some id)
    (es : List Entry) : idsOf kind (e :: es) = id :: idsOf kind es := by
  unfold idsOf
  rw [List.filter_cons_of_pos (by simpa using hkind)]
  simp only [List.filterMap_cons, hid]

theorem idsOf_cons_of_ne {e : Entry} (hkind : e.kind ≠ kind) (es : List Entry) :
    idsOf kind (e :: es) = idsOf kind es := by
  unfold idsOf
  rw [List.filter_cons_of_neg (by simpa using hkind)]

/-- A kind of which an entry has an id that can be read has a greatest id. -/
theorem exists_greatest_of {e : Entry} {n : Nat} (he : e ∈ es) (hid : parseId? e.id = some n) :
    ∃ id, greatest? e.kind es = some id := by
  have hmem : n ∈ idsOf e.kind es :=
    List.mem_filterMap.mpr ⟨e, List.mem_filter.mpr ⟨he, by simp⟩, hid⟩
  unfold greatest?
  cases hmax : (idsOf e.kind es).max? with
  | some id => exact ⟨id, rfl⟩
  | none =>
      rw [List.max?_eq_none_iff.mp hmax] at hmem
      cases hmem

/-- A kind of which there is an entry has a greatest id. -/
theorem exists_greatest {e : Entry} (legible : Legible es) (he : e ∈ es) :
    ∃ id, greatest? e.kind es = some id := by
  obtain ⟨id, hid⟩ := Option.isSome_iff_exists.mp (legible e he)
  exact exists_greatest_of he hid

/-- All ids of the entries of a kind can be read. -/
def LegibleOf (kind : Text) (es : List Entry) : Prop :=
  ∀ e ∈ es, e.kind = kind → (parseId? e.id).isSome

theorem Legible.of (h : Legible es) (kind : Text) : LegibleOf kind es := fun e he _ => h e he

theorem legibleOf_nil (kind : Text) : LegibleOf kind [] := nofun

theorem legibleOf_cons_iff {e : Entry} :
    LegibleOf kind (e :: es) ↔ (e.kind = kind → (parseId? e.id).isSome) ∧ LegibleOf kind es :=
  List.forall_mem_cons

/-- A list falls apart at an element with some property if the first element has it, or if the rest
falls apart in this way. -/
theorem exists_split_cons_iff {α : Type} {a : α} {as : List α} {P : List α → α → Prop} :
    (∃ before x behind, a :: as = before ++ x :: behind ∧ P before x) ↔
      P [] a ∨ ∃ before x behind, as = before ++ x :: behind ∧ P (a :: before) x := by
  constructor
  · rintro ⟨before, x, behind, whole, h⟩
    cases before with
    | nil =>
        cases whole
        exact .inl h
    | cons b before =>
        cases whole
        exact .inr ⟨before, x, behind, rfl, h⟩
  · rintro (h | ⟨before, x, behind, rfl, h⟩)
    · exact ⟨[], a, as, rfl, h⟩
    · exact ⟨a :: before, x, behind, rfl, h⟩

/-- A resource that is there is found if no id of its kind in front of it is one that cannot be
read. -/
theorem standing_eq_defined_iff {greatest? : Option Nat} :
    d.standing greatest? es = .ok .defined ↔
      ∃ before e behind, es = before ++ e :: behind ∧ e.key = d.key ∧ LegibleOf d.kind before := by
  induction es generalizing greatest? with
  | nil =>
      rw [Definition.standing]
      refine ⟨nofun, ?_⟩
      rintro ⟨before, e, behind, whole, -⟩
      cases List.nil_eq_append_iff.mp whole |>.2
  | cons e es ih =>
      rw [exists_split_cons_iff (P := fun before x => x.key = d.key ∧ LegibleOf d.kind before),
        Definition.standing]
      simp only [legibleOf_cons_iff]
      by_cases hkind : e.kind = d.kind
      · rw [if_pos hkind]
        by_cases hname : e.name = d.name
        · rw [if_pos hname]
          exact iff_of_true rfl (.inl ⟨Prod.ext hkind hname, legibleOf_nil _⟩)
        · have other : e.key ≠ d.key := fun same => hname (congrArg Prod.snd same)
          rw [if_neg hname]
          cases hid : parseId? e.id with
          | none => simp [other, hkind]
          | some id => simp [other, ih]
      · have other : e.key ≠ d.key := fun same => hkind (congrArg Prod.fst same)
        rw [if_neg hkind]
        simp [other, hkind, ih]

/-- The greatest id of a kind is found if the resource is not there and all ids of the kind can be
read. -/
theorem standing_eq_new_iff {greatest? found? : Option Nat} :
    d.standing greatest? es = .ok (.new found?) ↔
      d.key ∉ es.map Entry.key ∧ LegibleOf d.kind es ∧
        found? = (greatest?.toList ++ idsOf d.kind es).max? := by
  induction es generalizing greatest? with
  | nil =>
      rw [Definition.standing]
      cases greatest? <;> simp [legibleOf_nil, idsOf, eq_comm]
  | cons e es ih =>
      rw [Definition.standing, List.map_cons, List.mem_cons, not_or, legibleOf_cons_iff]
      by_cases hkind : e.kind = d.kind
      · rw [if_pos hkind]
        by_cases hname : e.name = d.name
        · have same : d.key = e.key := Prod.ext hkind.symm hname.symm
          rw [if_pos hname]
          exact iff_of_false nofun fun h => h.1.1 same
        · have other : d.key ≠ e.key := fun same => hname (congrArg Prod.snd same).symm
          rw [if_neg hname]
          cases hid : parseId? e.id with
          | none => simp [hkind]
          | some id =>
              have greatest : ((some (max id (greatest?.getD 0))).toList ++ idsOf d.kind es).max? =
                  (greatest?.toList ++ idsOf d.kind (e :: es)).max? := by
                rw [idsOf_cons_of_kind hkind hid]
                cases greatest? with
                | none => rw [Option.getD_none, Nat.max_zero]; rfl
                | some n =>
                    simp only [Option.toList_some, Option.getD_some, List.singleton_append,
                      List.max?_cons', List.foldl_cons, Nat.max_comm id n]
              rw [ih, greatest, and_iff_right other]
              simp only [Option.isSome_some, implies_true, true_and]
      · have other : d.key ≠ e.key := fun same => hkind (congrArg Prod.fst same).symm
        rw [if_neg hkind, ih, idsOf_cons_of_ne hkind]
        simp [other, hkind]

/-- A resource that is there is found. -/
theorem standing_defined (legible : Legible es) (h : d.key ∈ es.map Entry.key)
    (greatest? : Option Nat) : d.standing greatest? es = .ok .defined := by
  obtain ⟨e, he, hkey⟩ := List.mem_map.mp h
  obtain ⟨before, behind, rfl⟩ := List.append_of_mem he
  exact standing_eq_defined_iff.mpr ⟨before, e, behind, rfl, hkey,
    fun e' he' _ => legible e' (List.mem_append_left _ he')⟩

/-- The greatest id of the kind is found if the resource is not there. -/
theorem standing_new (legible : Legible es) (h : d.key ∉ es.map Entry.key) :
    d.standing none es = .ok (.new (greatest? d.kind es)) :=
  standing_eq_new_iff.mpr ⟨h, legible.of d.kind, rfl⟩

end Standing

/-! ## What becomes of a definition -/

section Outcome

open Definition (tableEnd)

variable {d : Definition} {table out written : Text}

/-- Nothing is done if the resource is among the entries and no id of its kind in front of it is one
that cannot be read. -/
theorem allocate_eq_none_iff : d.allocate table = .ok none ↔
    ∃ es, entries table = .ok es ∧ ∃ before e behind,
      es = before ++ e :: behind ∧ e.key = d.key ∧ LegibleOf d.kind before := by
  unfold Definition.allocate
  cases entries table with
  | error fault => simp
  | ok es =>
      simp only [Except.ok.injEq, exists_eq_left', ← @standing_eq_defined_iff d es none]
      rcases d.standing none es with e | (_ | greatest | greatest)
      · simp
      · simp
      · simp
      · simp only [Except.ok.injEq, reduceCtorEq, iff_false]
        split
        · split <;> simp
        · simp

/-- A line is put into the table if the resource is not among the entries, its kind has ids, all of
them can be read, the one behind the greatest is an id, and some line begins with the end of the
table. The line stands in front of the last one of these. -/
theorem allocate_eq_some_iff : d.allocate table = .ok (some (out, written)) ↔
    ∃ es m before after, entries table = .ok es ∧ d.key ∉ es.map Entry.key ∧
      LegibleOf d.kind es ∧ greatest? d.kind es = some m ∧ m + 1 < idBound ∧
      Text.LastAt tableEnd table before after ∧ written = renderId (m + 1) ∧
      out = before ++ d.line written ++ tableEnd ++ after := by
  constructor
  · intro h
    unfold Definition.allocate at h
    split at h
    · cases h
    · next es read =>
        split at h
        · cases h
        · cases h
        · cases h
        · next m standing =>
            obtain ⟨new, legible, greatest⟩ := standing_eq_new_iff.mp standing
            split at h
            · next room =>
                simp only at h
                split at h
                · cases h
                · next before after cut =>
                    cases h
                    exact ⟨es, m, before, after, read, new, legible, greatest.symm, room,
                      Text.cutLast?_eq_some_iff.mp cut, rfl, rfl⟩
            · cases h
  · rintro ⟨es, m, before, after, read, new, legible, greatest, room, last, rfl, rfl⟩
    have standing : d.standing none es = .ok (.new (some m)) :=
      standing_eq_new_iff.mpr ⟨new, legible, greatest.symm⟩
    unfold Definition.allocate
    simp only [read, standing]
    rw [if_pos room, Text.cutLast?_eq_some_iff.mpr last]

end Outcome

variable {d : Definition} {ds : List Definition} {e : Entry} {es added : List Entry} {kind : Text}
  {m n : Nat}

/-! ## New resources -/

/-- The resources that are defined and are not among some entries, each once, in the order of their
first definitions. -/
def fresh (es : List Entry) (ds : List Definition) : List (Text × Text) :=
  (ds.map Definition.key).eraseDups.filter (· ∉ es.map Entry.key)

theorem mem_fresh {key : Text × Text} :
    key ∈ fresh es ds ↔ key ∈ ds.map Definition.key ∧ key ∉ es.map Entry.key := by
  unfold fresh
  rw [List.mem_filter, List.mem_eraseDups, decide_eq_true_iff]

/-- A resource that is there or was defined before is not new. -/
theorem fresh_concat_of_mem (h : d.key ∈ es.map Entry.key ∨ d.key ∈ ds.map Definition.key) :
    fresh es (ds ++ [d]) = fresh es ds := by
  unfold fresh
  rw [List.map_append, List.map_singleton, List.eraseDups_append, List.filter_append]
  rcases h with h | h
  · have dropped : ∀ key ∈ ([d.key].removeAll (ds.map Definition.key)).eraseDups,
        ¬ decide (key ∉ es.map Entry.key) = true := by
      intro key hkey
      rw [List.mem_eraseDups, List.removeAll, List.mem_filter, List.mem_singleton] at hkey
      rw [hkey.1]
      simpa using h
    rw [List.filter_eq_nil_iff.mpr dropped, List.append_nil]
  · have erased : [d.key].removeAll (ds.map Definition.key) = [] := by
      unfold List.removeAll
      rw [List.filter_eq_nil_iff]
      intro key hkey
      rw [List.mem_singleton.mp hkey]
      simpa using h
    rw [erased, List.eraseDups_nil, List.filter_nil, List.append_nil]

/-- A resource that is neither there nor was defined before is new. -/
theorem fresh_concat_of_not_mem (hes : d.key ∉ es.map Entry.key)
    (hds : d.key ∉ ds.map Definition.key) : fresh es (ds ++ [d]) = fresh es ds ++ [d.key] := by
  have kept : [d.key].removeAll (ds.map Definition.key) = [d.key] := by
    unfold List.removeAll
    rw [List.filter_cons_of_pos (by simpa using hds), List.filter_nil]
  unfold fresh
  rw [List.map_append, List.map_singleton, List.eraseDups_append, List.filter_append, kept]
  congr 1
  have single : [d.key].eraseDups = [d.key] := rfl
  rw [single, List.filter_cons_of_pos (by simpa using hes), List.filter_nil]

theorem nodup_fresh (es : List Entry) (ds : List Definition) : (fresh es ds).Nodup := by
  induction ds using List.reverseRecOn with
  | nil => exact List.nodup_nil
  | append_singleton ds d ih =>
      by_cases h : d.key ∈ es.map Entry.key ∨ d.key ∈ ds.map Definition.key
      · rwa [fresh_concat_of_mem h]
      · obtain ⟨hes, hds⟩ := not_or.mp h
        rw [fresh_concat_of_not_mem hes hds]
        refine List.nodup_append.mpr ⟨ih, List.pairwise_singleton _ _, ?_⟩
        rintro key hkey key' hkey' rfl
        rw [List.mem_singleton.mp hkey'] at hkey
        exact hds (mem_fresh.mp hkey).1

/-! ## Ids that count on -/

theorem greatest?_concat (h : greatest? e.kind es = some m) (hid : parseId? e.id = some n)
    (le : m ≤ n) : greatest? e.kind (es ++ [e]) = some n := by
  unfold greatest? at h ⊢
  obtain ⟨-, bound⟩ := List.max?_eq_some_iff.mp h
  rw [idsOf_append, idsOf_cons_of_kind rfl hid, List.max?_eq_some_iff]
  constructor
  · exact List.mem_append_right _ List.mem_cons_self
  · intro id hmem
    rcases List.mem_append.mp hmem with hmem | hmem
    · exact Nat.le_trans (bound id hmem) le
    · exact Nat.le_of_eq (List.mem_singleton.mp hmem)

theorem greatest?_concat_of_ne (h : e.kind ≠ kind) :
    greatest? kind (es ++ [e]) = greatest? kind es := by
  unfold greatest?
  rw [idsOf_append, idsOf_cons_of_ne h]
  exact congrArg _ (List.append_nil _)

/-- The ids of new entries count on from the greatest ones of their kinds in a table. -/
def CountsOn (es added : List Entry) : Prop :=
  ∀ before e after, added = before ++ e :: after →
    ∃ greatest, greatest? e.kind es = some greatest ∧
      parseId? e.id = some (greatest + before.countP (·.kind = e.kind) + 1)

theorem CountsOn.nil (es : List Entry) : CountsOn es [] := by
  intro before e after h
  cases List.nil_eq_append_iff.mp h |>.2

theorem CountsOn.init (h : CountsOn es (added ++ [e])) : CountsOn es added := by
  intro before e' after hsplit
  refine h before e' (after ++ [e]) ?_
  rw [hsplit, List.append_assoc, List.cons_append]

theorem CountsOn.concat (h : CountsOn es added) (hm : greatest? e.kind es = some m)
    (hid : parseId? e.id = some (m + added.countP (·.kind = e.kind) + 1)) :
    CountsOn es (added ++ [e]) := by
  intro before e' after hsplit
  rcases List.eq_nil_or_concat after with rfl | ⟨after, last, rfl⟩
  · obtain ⟨rfl, heq⟩ := List.append_inj' hsplit rfl
    cases heq
    exact ⟨m, hm, hid⟩
  · rw [List.concat_eq_append, ← List.cons_append, ← List.append_assoc] at hsplit
    exact h before e' after (List.append_inj' hsplit rfl).1

/-- New entries move the greatest id of a kind by their number. -/
theorem CountsOn.greatest (h : CountsOn es added) (hm : greatest? kind es = some m) :
    greatest? kind (es ++ added) = some (m + added.countP (·.kind = kind)) := by
  induction added using List.reverseRecOn with
  | nil => rw [List.append_nil, hm, List.countP_nil, Nat.add_zero]
  | append_singleton added e ih =>
      have before := ih h.init
      rw [← List.append_assoc, List.countP_append]
      by_cases hkind : e.kind = kind
      · subst hkind
        obtain ⟨m', hm', hid⟩ := h added e [] rfl
        rw [hm] at hm'
        cases hm'
        rw [greatest?_concat before hid (Nat.le_succ _), List.countP_cons_of_pos (by simp)]
        rfl
      · rw [greatest?_concat_of_ne hkind, before, List.countP_cons_of_neg (by simpa using hkind)]
        rfl

/-- A kind that has an id with the new entries has one without them. -/
theorem CountsOn.seed (h : CountsOn es added) (hm : greatest? kind (es ++ added) = some m) :
    ∃ id, greatest? kind es = some id := by
  cases hseed : greatest? kind es with
  | some id => exact ⟨id, rfl⟩
  | none =>
      have none : idsOf kind es = [] := List.max?_eq_none_iff.mp hseed
      have mem : m ∈ idsOf kind added := by
        unfold greatest? at hm
        rw [idsOf_append, none, List.nil_append] at hm
        exact (List.max?_eq_some_iff.mp hm).1
      obtain ⟨e, he, -⟩ := List.mem_filterMap.mp mem
      obtain ⟨he, hkind⟩ := List.mem_filter.mp he
      obtain ⟨before, after, hsplit⟩ := List.append_of_mem he
      obtain ⟨id, hid, -⟩ := h before e after hsplit
      rw [show e.kind = kind by simpa using hkind, hseed] at hid
      cases hid

/-- The ids of entries that count on can be read. -/
theorem CountsOn.legible (h : CountsOn es added) (legible : Legible es) :
    Legible (es ++ added) := by
  intro e he
  rcases List.mem_append.mp he with he | he
  · exact legible e he
  · obtain ⟨before, after, hsplit⟩ := List.append_of_mem he
    obtain ⟨m, -, hid⟩ := h before e after hsplit
    rw [hid]
    rfl

end PatchTrail.Resource
