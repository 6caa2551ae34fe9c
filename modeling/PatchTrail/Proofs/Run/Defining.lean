import PatchTrail.Proofs.Disk.Spelling
import PatchTrail.Proofs.Resource.Constants
import PatchTrail.Proofs.Run.Script
import Mathlib.Data.List.Nodup

/-!
# The table and the constants

A run of definitions leaves a table that has grown by the resources that were not in it, and behind
each file of constants the lines for those of them that belong there (`Defined`). This is kept by
one definition more (`Defined.step`), so after any number of them the table and the constants agree:
each entry that was added has one line that declares its constant, with the same id
(`Instruction.definitions_agree`).

A file is normalized each time that it is edited. So a carriage return at its end, which has not
been before a line feed, is left out when the second constant is put behind the first
(`Instruction.definitions_drop_return`).
-/

namespace PatchTrail

open Resource
open Resource.Definition (tableEnd)

/-! ## Places -/

namespace Path

theorem spelled_concat {path name : Text} {ns : List Text} (h : names path = ns ++ [name])
    (forward : name ≠ ['.', '.']) (here : List Text) :
    ∃ place, spelled here path = place ++ [name] := by
  refine ⟨ns.foldl enter (if isAbsolute path then [] else here), ?_⟩
  unfold spelled
  rw [h, List.foldl_append, List.foldl_cons, List.foldl_nil, enter, if_neg forward]

end Path

namespace Resource

variable {root : Text} {here : List Text} {a b : Addition}

/-- The place of the table of a tree. -/
def tablePlace (root : Text) (here : List Text) : List Text :=
  Path.spelled here (Path.below root tablePath)

/-- The place of the file that holds the constants of a definition. -/
def Definition.place (root : Text) (here : List Text) (d : Definition) : List Text :=
  Path.spelled here (Path.below root d.constantsPath)

/-- The name of the file that holds the constants of a kind. -/
def constantsName (kind : Text) : Text := "R$" ++ kind ++ ".smali"

theorem tablePlace_getLast? (root : Text) (here : List Text) :
    (tablePlace root here).getLast? = some ("public.xml" : Text) := by
  have names : Path.names (Path.below root tablePath) =
      (Path.names root ++ [("res" : Text), ("values" : Text)]) ++ [("public.xml" : Text)] := by
    rw [Path.names_below, List.append_assoc]
    rfl
  obtain ⟨place, hplace⟩ := Path.spelled_concat names (by decide) here
  rw [tablePlace, hplace, List.getLast?_concat]

theorem Definition.place_getLast? {d : Definition} (word : d.kind.all isWordChar) (root : Text)
    (here : List Text) : (d.place root here).getLast? = some (constantsName d.kind) := by
  have slash : '/' ∉ constantsName d.kind := by
    unfold constantsName
    simp [not_mem_of_word word (show isWordChar '/' = false by decide)]
  have first : (constantsName d.kind).head? = some 'R' := rfl
  have dot : constantsName d.kind ≠ ['.'] := fun h => by
    rw [h] at first
    cases first
  have dots : constantsName d.kind ≠ ['.', '.'] := fun h => by
    rw [h] at first
    cases first
  have split : d.constantsPath =
      d.directory.dropEndWhile (· == '/') ++ '/' :: constantsName d.kind := by
    unfold constantsPath constantsName
    simp only [List.append_assoc]
    rfl
  have names : Path.names (Path.below root d.constantsPath) =
      (Path.names root ++ Path.names (d.directory.dropEndWhile (· == '/'))) ++
        [constantsName d.kind] := by
    rw [Path.names_below, split, Path.names_append,
      Path.names_of_name slash (List.cons_ne_nil _ _) dot, List.append_assoc]
  obtain ⟨place, hplace⟩ := Path.spelled_concat names dots here
  rw [Definition.place, hplace, List.getLast?_concat]

theorem Definition.place_ne_tablePlace {d : Definition} (word : d.kind.all isWordChar) :
    d.place root here ≠ tablePlace root here := by
  intro h
  have last := d.place_getLast? word root here
  rw [h, tablePlace_getLast?] at last
  have first : some 'p' = some 'R' := congrArg List.head? (Option.some.inj last)
  exact absurd first (by decide)

/-- Files of constants in the same place hold the constants of the same kind. -/
theorem Definition.kind_eq_of_place {d d' : Definition} (word : d.kind.all isWordChar)
    (word' : d'.kind.all isWordChar) (h : d.place root here = d'.place root here) :
    d.kind = d'.kind := by
  have last := d.place_getLast? word root here
  rw [h, d'.place_getLast? word' root here] at last
  have same := List.append_cancel_right (Option.some.inj last)
  exact (List.append_cancel_left same).symm

/-- Of some resources those whose constants are in the file at a place. -/
def addedAt (root : Text) (here : List Text) (adds : List Addition) (p : List Text) :
    List Addition :=
  adds.filter fun a => a.definition.place root here = p

theorem addedAt_concat (adds : List Addition) (a : Addition) (p : List Text) :
    addedAt root here (adds ++ [a]) p =
      addedAt root here adds p ++ if a.definition.place root here = p then [a] else [] := by
  unfold addedAt
  rw [List.filter_append]
  refine congrArg _ ?_
  split
  · next hp => exact List.filter_cons_of_pos (by simpa using hp)
  · next hp => exact List.filter_cons_of_neg (by simpa using hp)

end Resource

/-! ## Edited files -/

theorem Text.encode_injective {s t : Text} (h : encode s = encode t) : s = t := by
  have := congrArg decode? h
  rw [decode?_encode, decode?_encode] at this
  exact Option.some.inj this

/-- What an edited file holds before and after, and that no other file changes. -/
theorem Record.Carried.files {root path old new : Text} {d d' : Disk}
    (h : (Record.modified path old new).Carried root d d') :
    ∃ raw, d.file? (Path.spelled d.here (Path.below root path)) = some (Text.encode raw) ∧
      raw.normalizeLineEndings = old ∧ d'.here = d.here ∧
      (∀ p, p ≠ Path.spelled d.here (Path.below root path) → d'.file? p = d.file? p) ∧
      d'.file? (Path.spelled d.here (Path.below root path)) =
        some (Text.encode (if new = old then raw else new)) := by
  obtain ⟨⟨bytes, raw, hread, hdecode, hold⟩, hwritten⟩ := h
  have there := Disk.file?_of_read hread
  rw [← Text.encode_of_decode? hdecode] at there
  refine ⟨raw, there, hold, ?_⟩
  split at hwritten
  · next same =>
      rw [hwritten, if_pos same]
      exact ⟨rfl, fun _ _ => rfl, there⟩
  · next changed =>
      have only := Disk.changesOnly_write hwritten
      obtain ⟨place, hplace, hentry, rfl⟩ := Disk.write_eq hwritten
      have spelled := Disk.locate_eq hplace
      refine ⟨rfl, only.2, ?_⟩
      rw [if_neg changed]
      exact spelled ▸ Disk.file?_put (Disk.ne_nil_of_ne_directory hentry) d _

/-- Whether or not an edit changes a text, the text that is there afterwards is normalized to the
new one. -/
theorem normalizeLineEndings_ite {raw new : Text} (bare : new.Bare) :
    (if new = raw.normalizeLineEndings then raw else new).normalizeLineEndings = new := by
  split
  · next same => exact same.symm
  · exact bare.normalizeLineEndings

/-- A definition leaves the disk as it is if its resource is in the table already. If not, the table
gets the resource, the lines of its constant are put behind the file of constants, and no other file
changes. -/
theorem Instruction.define_cases {d : Definition} (word : d.kind.all isWordChar)
    {tree next : WorkTree} (done : (Instruction.defineResource d).apply tree = .ok () next) :
    ∃ raw, tree.disk.file? (tablePlace tree.root tree.disk.here) = some (Text.encode raw) ∧
      next.root = tree.root ∧ next.disk.here = tree.disk.here ∧
      ((d.allocate raw.normalizeLineEndings = .ok none ∧ next.disk = tree.disk) ∨
        ∃ new id old, d.allocate raw.normalizeLineEndings = .ok (some (new, id)) ∧
          tree.disk.file? (d.place tree.root tree.disk.here) = some (Text.encode old) ∧
          next.disk.file? (tablePlace tree.root tree.disk.here) =
            some (Text.encode (if new = raw.normalizeLineEndings then raw else new)) ∧
          next.disk.file? (d.place tree.root tree.disk.here) =
            some (Text.encode (old.normalizeLineEndings ++ d.constantLines id)) ∧
          ∀ p, p ≠ tablePlace tree.root tree.disk.here → p ≠ d.place tree.root tree.disk.here →
            next.disk.file? p = tree.disk.file? p) := by
  obtain ⟨rs, script, follows⟩ := (Instruction.apply_eq_ok_iff _).mp done
  cases script with
  | @standing _ table hnone =>
      obtain ⟨disk, trail, carried, -, rfl⟩ := WorkTree.follows_singleton_iff.mp follows
      obtain ⟨raw, hraw, rfl, hhere, -⟩ := carried.files
      exact ⟨raw, hraw, rfl, hhere, .inl ⟨hnone, (if_pos rfl).mp carried.2⟩⟩
  | @added _ table new id text hsome =>
      obtain ⟨mid, first, second⟩ := WorkTree.follows_cons_iff.mp follows
      obtain ⟨disk, trail, carried, -, rfl⟩ := WorkTree.follows_singleton_iff.mp first
      obtain ⟨disk', trail', carried', -, rfl⟩ := WorkTree.follows_singleton_iff.mp second
      obtain ⟨raw, hraw, rfl, hhere, rest, hnew⟩ := carried.files
      obtain ⟨old, hold, rfl, hhere', rest', hnew'⟩ := carried'.files
      simp only [hhere] at hold rest' hnew'
      rw [← Definition.place] at hold rest' hnew'
      have apart : d.place tree.root tree.disk.here ≠ tablePlace tree.root tree.disk.here :=
        Definition.place_ne_tablePlace word
      have longer : old.normalizeLineEndings ++ d.constantLines id ≠ old.normalizeLineEndings := by
        rw [Ne, List.append_right_eq_self]
        exact List.cons_ne_nil _ _
      rw [if_neg longer] at hnew'
      exact ⟨raw, hraw, rfl, hhere'.trans hhere, .inr ⟨new, id, old, hsome,
        (rest _ apart).symm.trans hold, (rest' _ (Ne.symm apart)).trans hnew, hnew',
        fun p hp hp' => (rest' p hp').trans (rest p hp)⟩⟩

/-! ## Definitions one after the other -/

/-- What definitions leave of a tree: the table has grown by the resources that were not in it,
behind the files of their constants are the lines for them, and nothing else has changed. -/
structure Defined (tree : WorkTree) (es : List Entry) (space former : Text) (ds : List Definition)
    (tree' : WorkTree) : Prop where
  root : tree'.root = tree.root
  here : tree'.disk.here = tree.disk.here
  table : ∃ raw, tree'.disk.file? (tablePlace tree.root tree.disk.here) =
      some (Text.encode raw) ∧ raw.normalizeLineEndings.Bare ∧
    allocateAll ds former = .ok raw.normalizeLineEndings ∧
    Grown es space ds raw.normalizeLineEndings ((additions ds former).map Addition.entry)
  sound : ∀ a ∈ additions ds former, a.Sound
  files : ∀ p, p ≠ tablePlace tree.root tree.disk.here →
    (addedAt tree.root tree.disk.here (additions ds former) p = [] ∧
      tree'.disk.file? p = tree.disk.file? p) ∨
    ∃ old, tree.disk.file? p = some (Text.encode old) ∧ tree'.disk.file? p =
      some (Text.encode (withConstants
        (addedAt tree.root tree.disk.here (additions ds former) p) old))

namespace Defined

variable {tree mid next : WorkTree} {es : List Entry} {space former : Text}
  {ds : List Definition} {d : Definition}

/-- One constant more behind a file. -/
theorem grow (h : Defined tree es space former ds mid)
    (single : ∀ old, tree.disk.file? (d.place tree.root tree.disk.here) =
      some (Text.encode old) → old.Single)
    (apart : d.place tree.root tree.disk.here ≠ tablePlace tree.root tree.disk.here) {id raw : Text}
    (there : mid.disk.file? (d.place tree.root tree.disk.here) = some (Text.encode raw))
    {disk : Disk} (now : disk.file? (d.place tree.root tree.disk.here) =
      some (Text.encode (raw.normalizeLineEndings ++ d.constantLines id))) :
    ∃ old, tree.disk.file? (d.place tree.root tree.disk.here) = some (Text.encode old) ∧
      disk.file? (d.place tree.root tree.disk.here) =
        some (Text.encode (withConstants (addedAt tree.root tree.disk.here (additions ds former)
          (d.place tree.root tree.disk.here) ++ [⟨d, id⟩]) old)) := by
  rcases h.files _ apart with ⟨none, same⟩ | ⟨old, was, is⟩
  · have was := same.symm.trans there
    -- the first constant there: the file is still the old one
    refine ⟨raw, was, now.trans ?_⟩
    rw [none, ← withConstants_concat (List.forall_mem_nil _) (single raw was) ⟨d, id⟩]
    rfl
  · have sound : ∀ a ∈ addedAt tree.root tree.disk.here (additions ds former)
        (d.place tree.root tree.disk.here), a.Sound := fun a ha =>
      h.sound a (List.mem_filter.mp ha).1
    obtain rfl := Text.encode_injective (Option.some.inj (there.symm.trans is))
    -- a later one: with the earlier constants in it, the file is normalized once more
    refine ⟨old, was, now.trans ?_⟩
    rw [← withConstants_concat sound (single old was) ⟨d, id⟩]
    rfl

/-- One definition more. -/
theorem step (h : Defined tree es space former ds mid) (plain : Plain space)
    (legible : Legible es) (hkind : d.kind.all isWordChar) (hname : d.name.all isWordChar)
    (single : ∀ old, tree.disk.file? (d.place tree.root tree.disk.here) =
      some (Text.encode old) → old.Single)
    (done : (Instruction.defineResource d).apply mid = .ok () next) :
    Defined tree es space former (ds ++ [d]) next ∧
      ((additions (ds ++ [d]) former).length = (additions ds former).length →
        next.disk = mid.disk) := by
  obtain ⟨raw, htable, bare, hrun, grown⟩ := h.table
  obtain ⟨raw', htable', hroot, hhere, outcome⟩ := Instruction.define_cases hkind done
  rw [h.root, h.here] at htable' outcome
  obtain rfl := Text.encode_injective (Option.some.inj (htable.symm.trans htable'))
  have appended := additions_append hrun [d]
  have run := allocateAll_append hrun [d]
  rcases outcome with ⟨hnone, unchanged⟩ | ⟨new, id, old, hsome, there, table, file, rest⟩
  · rw [allocateAll_singleton_of_none hnone] at run
    rw [show additions [d] raw.normalizeLineEndings = [] by rw [additions, hnone]; rfl,
      List.append_nil] at appended
    refine ⟨⟨hroot.trans h.root, hhere.trans h.here, ?_, ?_, ?_⟩, fun _ => unchanged⟩
    · rw [appended, unchanged]
      exact ⟨raw, htable, bare, run, grown.stood plain legible hkind hname hnone⟩
    · rw [appended]
      exact h.sound
    · rw [appended, unchanged]
      exact h.files
  · obtain ⟨grown, sound⟩ := grown.allocated plain legible hkind hname hsome
    have bare' := bare_allocate bare hsome sound
    rw [allocateAll_singleton_of_some hsome] at run
    rw [show additions [d] raw.normalizeLineEndings = [⟨d, id⟩] by rw [additions, hsome]; rfl]
      at appended
    refine ⟨⟨hroot.trans h.root, hhere.trans h.here, ?_, ?_, ?_⟩, fun same => ?_⟩
    · rw [appended, List.map_append, List.map_singleton]
      refine ⟨_, table, ?_⟩
      rw [normalizeLineEndings_ite bare']
      exact ⟨bare', run, grown⟩
    · rw [appended]
      exact List.forall_mem_append.mpr ⟨h.sound, List.forall_mem_singleton.mpr sound⟩
    · intro p hp
      rw [appended, addedAt_concat]
      by_cases hplace : d.place tree.root tree.disk.here = p
      · subst hplace
        rw [if_pos rfl]
        exact .inr (h.grow single hp there file)
      · rw [if_neg hplace, List.append_nil, rest p hp (Ne.symm hplace)]
        exact h.files p hp
    · rw [appended] at same
      simp at same

/-- A table that can be read and whose last tag is the end tag at its end is one to start with. -/
theorem start {raw text : Text} (plain : Plain space)
    (table : tree.disk.file? (tablePlace tree.root tree.disk.here) = some (Text.encode raw))
    (shape : raw.normalizeLineEndings = text ++ (tableEnd ++ space))
    (read : entries raw.normalizeLineEndings = .ok es)
    (closed : (Markup.read raw.normalizeLineEndings).events.getLast? = some (.stop "resources"))
    (single : raw.Single) : Defined tree es space raw.normalizeLineEndings [] tree := by
  have holds : Holds text es := by
    rw [shape] at read closed
    exact .of_entries plain read closed
  have grown : Grown es space [] raw.normalizeLineEndings [] :=
    ⟨⟨text, shape, by rwa [List.append_nil]⟩, rfl, .nil es⟩
  exact ⟨rfl, rfl, ⟨raw, table, Text.bare_normalizeLineEndings single, rfl, grown⟩,
    List.forall_mem_nil _, fun p _ => .inl ⟨rfl, rfl⟩⟩

/-- Definitions that succeed one after the other. -/
theorem of_apply (start : Defined tree es space former [] tree) (plain : Plain space)
    (legible : Legible es) (words : ∀ d ∈ ds, d.kind.all isWordChar ∧ d.name.all isWordChar)
    (singles : ∀ d ∈ ds, ∀ old, tree.disk.file? (d.place tree.root tree.disk.here) =
      some (Text.encode old) → old.Single)
    (done : (Instruction.sequence (ds.map .defineResource)).apply tree = .ok () next) :
    Defined tree es space former ds next := by
  -- from the end: the last definition meets what all before it have left
  induction ds using List.reverseRecOn generalizing next with
  | nil =>
      cases done
      exact start
  | append_singleton ds d ih =>
      rw [List.map_append] at done
      obtain ⟨mid, before, last⟩ := Instruction.sequence_append_eq_ok_iff.mp done
      obtain ⟨next', last, none⟩ := Instruction.sequence_cons_eq_ok_iff.mp last
      cases none
      have hd : d ∈ ds ++ [d] := List.mem_append_right _ List.mem_cons_self
      have h := ih (fun d' hd' => words d' (List.mem_append_left _ hd'))
        (fun d' hd' => singles d' (List.mem_append_left _ hd')) before
      exact (h.step plain legible (words d hd).1 (words d hd).2 (singles d hd) last).1

theorem nodup_key (h : Defined tree es space former ds mid) :
    ((additions ds former).map fun a => a.entry.key).Nodup := by
  obtain ⟨raw, -, -, -, grown⟩ := h.table
  have keys := grown.keys
  rw [List.map_map] at keys
  exact keys ▸ nodup_fresh es ds

/-- Of the lines that were put behind a file of constants one declares the constant of a resource
that was added. -/
theorem declares_filter (h : Defined tree es space former ds mid) {a : Addition}
    (ha : a ∈ additions ds former) :
    ((constants (addedAt tree.root tree.disk.here (additions ds former)
      (a.definition.place tree.root tree.disk.here))).split '\n').filter
        (fun l => Smali.declares l a.identifier) = [a.line] := by
  have nodup := List.Nodup.of_map _ h.nodup_key
  have alone : ∀ b ∈ additions ds former,
      (b.definition.name = a.definition.name && b.definition.place tree.root tree.disk.here =
        a.definition.place tree.root tree.disk.here) = decide (b = a) := by
    intro b hb
    rw [← Bool.decide_and, decide_eq_decide]
    refine ⟨fun ⟨name, place⟩ => ?_, fun same => same ▸ ⟨rfl, rfl⟩⟩
    have kind := Definition.kind_eq_of_place (h.sound b hb).kind (h.sound a ha).kind place
    exact List.inj_on_of_nodup_map h.nodup_key hb ha (Prod.ext kind name)
  have sound : ∀ b ∈ addedAt tree.root tree.disk.here (additions ds former)
      (a.definition.place tree.root tree.disk.here), b.Sound := fun b hb =>
    h.sound b (List.mem_filter.mp hb).1
  rw [Resource.declares_filter sound, addedAt, List.filter_filter, List.filter_congr alone,
    List.filter_eq, List.count_eq_one_of_mem nodup ha]
  rfl

end Defined

/-- The table of a tree has these entries. -/
def WorkTree.Tabled (tree : WorkTree) (es : List Entry) : Prop :=
  ∃ raw, tree.disk.file? (tablePlace tree.root tree.disk.here) = some (Text.encode raw) ∧
    entries raw.normalizeLineEndings = .ok es

theorem WorkTree.Tabled.unique {tree : WorkTree} {es es' : List Entry} (h : tree.Tabled es)
    (h' : tree.Tabled es') : es = es' := by
  obtain ⟨raw, there, read⟩ := h
  obtain ⟨raw', there', read'⟩ := h'
  obtain rfl := Text.encode_injective (Option.some.inj (there.symm.trans there'))
  exact Except.ok.inj (read.symm.trans read')

theorem Defined.tabled {tree tree' : WorkTree} {es : List Entry} {space former : Text}
    {ds : List Definition} (h : Defined tree es space former ds tree') (plain : Plain space) :
    tree'.Tabled (es ++ (additions ds former).map Addition.entry) := by
  obtain ⟨raw, there, -, -, grown⟩ := h.table
  rw [← h.root, ← h.here] at there
  exact ⟨raw, there, grown.entries plain⟩

/-- If definitions succeed one after the other in a tree with a table that can be read, ends with
its own end tag and blanks, and has only ids that can be read, then to each entry that was added
belongs one line behind the file of its constants that declares its constant, and its last field is
the id of the entry. Apart from these lines and the carriage returns at its end that are left out, a
file of constants is what it was, normalized. A definition that adds no entry changes nothing. -/
theorem Instruction.definitions_agree {tree tree' : WorkTree} {ds : List Definition}
    {raw text space : Text} {es : List Entry}
    (words : ∀ d ∈ ds, d.kind.all isWordChar ∧ d.name.all isWordChar)
    (table : tree.disk.file? (tablePlace tree.root tree.disk.here) = some (Text.encode raw))
    (shape : raw.normalizeLineEndings = text ++ (tableEnd ++ space)) (blank : space.isBlank)
    (read : entries raw.normalizeLineEndings = .ok es)
    (closed : (Markup.read raw.normalizeLineEndings).events.getLast? = some (.stop "resources"))
    (legible : Legible es) (single : raw.Single)
    (singles : ∀ d ∈ ds, ∀ old, tree.disk.file? (d.place tree.root tree.disk.here) =
      some (Text.encode old) → old.Single)
    (done : (sequence (ds.map .defineResource)).apply tree = .ok () tree') :
    ∃ adds, adds = additions ds raw.normalizeLineEndings ∧
      tree'.Tabled (es ++ adds.map Addition.entry) ∧
      (∀ a ∈ adds, ((constants (addedAt tree.root tree.disk.here adds
          (a.definition.place tree.root tree.disk.here))).split '\n').filter
            (fun l => Smali.declares l (a.definition.name ++ ":I")) = [a.line] ∧
        a.line.fields.getLast? = some a.entry.id ∧ ∃ id, parseId? a.entry.id = some id) ∧
      (∀ p, p ≠ tablePlace tree.root tree.disk.here →
        (addedAt tree.root tree.disk.here adds p = [] ∧
          tree'.disk.file? p = tree.disk.file? p) ∨
        ∃ old, tree.disk.file? p = some (Text.encode old) ∧ tree'.disk.file? p =
          some (Text.encode (withConstants (addedAt tree.root tree.disk.here adds p) old))) ∧
      ∀ before d after, ds = before ++ d :: after → ∃ mid next present,
        (sequence (before.map .defineResource)).apply tree = .ok () mid ∧
        (defineResource d).apply mid = .ok () next ∧ mid.Tabled present ∧
        (next.Tabled present → next.disk = mid.disk) := by
  have plain := Plain.of_isBlank blank
  have start := Defined.start plain table shape read closed single
  have all := Defined.of_apply start plain legible words singles done
  refine ⟨_, rfl, all.tabled plain, fun a ha => ⟨all.declares_filter ha, ?_, ?_⟩, all.files, ?_⟩
  · rw [(all.sound a ha).fields]
    rfl
  · obtain ⟨last, -, -, -, done⟩ := all.table
    exact Option.isSome_iff_exists.mp (done.counts.legible legible _
      (List.mem_append_right _ (List.mem_map_of_mem ha)))
  · rintro before d after rfl
    rw [List.map_append, List.map_cons] at done
    obtain ⟨mid, first, rest⟩ := sequence_append_eq_ok_iff.mp done
    obtain ⟨next, last, -⟩ := sequence_cons_eq_ok_iff.mp rest
    have hd : d ∈ before ++ d :: after := List.mem_append_right _ List.mem_cons_self
    have prior := Defined.of_apply start plain legible
      (fun d' hd' => words d' (List.mem_append_left _ hd'))
      (fun d' hd' => singles d' (List.mem_append_left _ hd')) first
    obtain ⟨step, unchanged⟩ :=
      prior.step plain legible (words d hd).1 (words d hd).2 (singles d hd) last
    refine ⟨mid, next, _, first, last, prior.tabled plain, fun same => unchanged ?_⟩
    have entries := List.append_cancel_left ((step.tabled plain).unique same)
    simpa using congrArg List.length entries

/-! ## A carriage return that is left out -/

/-- A table with one resource. -/
def loneTable : Text :=
  "<resources>\n<public type=\"id\" name=\"a\" id=\"0x1\"/>\n</resources>\n"

/-- A tree with this table and a file of constants that ends with a carriage return. -/
def loneReturn : WorkTree where
  root := "/"
  disk := ⟨[], [(["res"], .directory), (["res", "values"], .directory),
    (["res", "values", "public.xml"], .file (Text.encode loneTable)), (["smali"], .directory),
    (["smali", "R$id.smali"], .file (Text.encode "x\r"))]⟩

/-- Two definitions with constants in the same file. -/
def loneDefinitions : List Definition := [⟨"smali", "id", "b"⟩, ⟨"./smali/", "id", "c"⟩]

/-- The place of the constants of both definitions. -/
def lonePlace : List Text := [("smali" : Text), ("R$id.smali" : Text)]

/-- What the table is made of and what is read from it. -/
theorem loneTable_reading : '\r' ∉ loneTable ∧
    loneTable = ("<resources>\n<public type=\"id\" name=\"a\" id=\"0x1\"/>" : Text) ++
      (tableEnd ++ ['\n']) ∧
    entries loneTable = .ok [⟨"id", "a", "0x1"⟩] ∧
    (Markup.read loneTable).events.getLast? = some (.stop "resources") := by
  decide +kernel

theorem loneTable_normalized : loneTable.normalizeLineEndings = loneTable :=
  (Text.bare_of_not_mem loneTable_reading.1).normalizeLineEndings

theorem loneTable_shape :
    loneTable = ("<resources>\n<public type=\"id\" name=\"a\" id=\"0x1\"/>" : Text) ++
      (tableEnd ++ ['\n']) :=
  loneTable_reading.2.1

theorem loneTable_read : entries loneTable = .ok [⟨"id", "a", "0x1"⟩] := loneTable_reading.2.2.1

theorem loneTable_closed :
    (Markup.read loneTable).events.getLast? = some (.stop "resources") := loneTable_reading.2.2.2

theorem loneTable_legible : Legible [⟨"id", "a", "0x1"⟩] := by
  unfold Legible
  decide

theorem loneTable_single : loneTable.Single := Text.single_of_not_mem loneTable_reading.1

theorem loneReturn_singles : ∀ d ∈ loneDefinitions, ∀ old,
    loneReturn.disk.file? (d.place loneReturn.root loneReturn.disk.here) =
      some (Text.encode old) → old.Single := by
  have place : ∀ d ∈ loneDefinitions,
      d.place loneReturn.root loneReturn.disk.here = lonePlace := by decide +kernel
  intro d hd old hold
  rw [place d hd] at hold
  obtain rfl : ("x\r" : Text) = old := Text.encode_injective (Option.some.inj hold)
  unfold Text.Single
  decide

theorem loneReturn_additions : additions loneDefinitions loneTable =
    [⟨⟨"smali", "id", "b"⟩, "0x2"⟩, ⟨⟨"./smali/", "id", "c"⟩, "0x3"⟩] := by decide +kernel

theorem loneReturn_defined : ∃ tree',
    (Instruction.sequence (loneDefinitions.map .defineResource)).apply loneReturn =
      .ok () tree' := by
  have succeeds : Run.failure? ((Instruction.sequence
      (loneDefinitions.map .defineResource)).apply loneReturn) = none := by decide +kernel
  cases done : (Instruction.sequence (loneDefinitions.map .defineResource)).apply loneReturn with
  | ok u tree' => exact ⟨tree', rfl⟩
  | error e tree' =>
      rw [done] at succeeds
      cases succeeds

/-- The file of constants with both. -/
def loneConstants : Text :=
  "x\n\n.field public static final b:I = 0x2\n\n\n.field public static final c:I = 0x3\n"

/-- What is in the file of constants if both are put there. -/
theorem loneReturn_file {disk : Disk} {adds : List Addition}
    (hadds : adds = additions loneDefinitions loneTable)
    (h : (addedAt loneReturn.root loneReturn.disk.here adds lonePlace = [] ∧
        disk.file? lonePlace = loneReturn.disk.file? lonePlace) ∨
      ∃ old, loneReturn.disk.file? lonePlace = some (Text.encode old) ∧ disk.file? lonePlace =
        some (Text.encode (withConstants
          (addedAt loneReturn.root loneReturn.disk.here adds lonePlace) old))) :
    disk.file? lonePlace = some (Text.encode loneConstants) := by
  have both : addedAt loneReturn.root loneReturn.disk.here adds lonePlace = adds := by
    rw [hadds, loneReturn_additions]
    decide +kernel
  rw [both, hadds, loneReturn_additions] at h
  rcases h with ⟨none, -⟩ | ⟨old, was, is⟩
  · cases none
  · obtain rfl : ("x\r" : Text) = old := Text.encode_injective (Option.some.inj was)
    have text : withConstants [⟨⟨"smali", "id", "b"⟩, "0x2"⟩, ⟨⟨"./smali/", "id", "c"⟩, "0x3"⟩]
        "x\r" = loneConstants := by decide +kernel
    rw [is, text]

/-- The table and the constants agree after two definitions. -/
theorem Instruction.definitions_agree_lone : ∃ tree',
    (sequence (loneDefinitions.map .defineResource)).apply loneReturn = .ok () tree' ∧
    tree'.Tabled [⟨"id", "a", "0x1"⟩, ⟨"id", "b", "0x2"⟩, ⟨"id", "c", "0x3"⟩] ∧
    tree'.disk.file? lonePlace = some (Text.encode loneConstants) := by
  obtain ⟨tree', done⟩ := loneReturn_defined
  have blank : Text.isBlank ['\n'] := by decide
  obtain ⟨adds, hadds, tabled, -, files, -⟩ := definitions_agree
    (by decide) (by rfl) (loneTable_normalized.trans loneTable_shape) blank
    (loneTable_normalized.symm ▸ loneTable_read) (loneTable_normalized.symm ▸ loneTable_closed)
    loneTable_legible loneTable_single loneReturn_singles done
  rw [loneTable_normalized] at hadds
  have file := loneReturn_file hadds (files lonePlace (by decide +kernel))
  rw [hadds, loneReturn_additions] at tabled
  exact ⟨tree', done, tabled, file⟩

/-- A file that ends with a carriage return does not keep it if two constants are put behind it,
though no carriage return stands before a line feed in the file or in the table. -/
theorem Instruction.definitions_drop_return : ∃ tree' old new,
    (∀ d ∈ loneDefinitions, d.kind.all isWordChar ∧ d.name.all isWordChar) ∧
    loneReturn.disk.file? (tablePlace loneReturn.root loneReturn.disk.here) =
      some (Text.encode loneTable) ∧
    (∃ text, loneTable.normalizeLineEndings = text ++ (tableEnd ++ ['\n'])) ∧
    (∃ es, entries loneTable.normalizeLineEndings = .ok es ∧ Legible es) ∧
    (Markup.read loneTable.normalizeLineEndings).events.getLast? = some (.stop "resources") ∧
    loneTable.Single ∧ old.Single ∧
    (sequence (loneDefinitions.map .defineResource)).apply loneReturn = .ok () tree' ∧
    loneReturn.disk.file? lonePlace = some (Text.encode old) ∧
    tree'.disk.file? lonePlace = some (Text.encode new) ∧ ¬ old.normalizeLineEndings <+: new := by
  obtain ⟨tree', done⟩ := loneReturn_defined
  have words : ∀ d ∈ loneDefinitions, d.kind.all isWordChar ∧ d.name.all isWordChar := by decide
  have table : loneReturn.disk.file? (tablePlace loneReturn.root loneReturn.disk.here) =
      some (Text.encode loneTable) := by rfl
  have shape := loneTable_normalized.trans loneTable_shape
  have read := loneTable_normalized.symm ▸ loneTable_read
  have closed := loneTable_normalized.symm ▸ loneTable_closed
  have plain : Plain ['\n'] := .of_isBlank (by decide)
  have all := Defined.of_apply (.start plain table shape read closed loneTable_single) plain
    loneTable_legible words loneReturn_singles done
  have file := loneReturn_file (by rw [loneTable_normalized])
    (all.files lonePlace (by decide +kernel))
  refine ⟨tree', "x\r", _, words, table, ⟨_, shape⟩, ⟨_, read, loneTable_legible⟩, closed,
    loneTable_single, ?_, done, rfl, file, by decide⟩
  unfold Text.Single
  decide

end PatchTrail
