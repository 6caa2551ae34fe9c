import PatchTrail.Proofs.Resource.Tables
import PatchTrail.Proofs.Text.LineEndings
import PatchTrail.Smali.Line

/-!
# Constants of added resources

The resources that definitions add to a table one after the other, with their ids (`additions`), are
the entries that the table has grown by (`Grown.allocated`). For each of them three lines are put
behind a file of constants, of which the last declares the constant and no other does
(`declares_filter`). To a file that has grown in this way more is added as if all of it was added at
once, but for carriage returns at its former end (`withConstants_concat`).
-/

namespace PatchTrail

/-! ## Fields -/

theorem Text.splitBy_of_solid {word : Text} (solid : word.all (!PatchTrail.isBlank ·)) :
    Text.splitBy PatchTrail.isBlank word = [word] :=
  Text.splitBy_eq_singleton fun b hb => by simpa using List.all_eq_true.mp solid b hb

theorem Text.fields_cons {word : Text} {c : Char} (full : word ≠ [])
    (solid : word.all (!PatchTrail.isBlank ·)) (blank : PatchTrail.isBlank c = true)
    (t : Text) : Text.fields (word ++ c :: t) = word :: Text.fields t := by
  unfold Text.fields
  rw [Text.splitBy_append blank, Text.splitBy_of_solid solid, List.singleton_append,
    List.filter_cons_of_pos (by simpa using full)]

theorem Text.fields_of_word {word : Text} (full : word ≠ [])
    (solid : word.all (!PatchTrail.isBlank ·)) : Text.fields word = [word] := by
  unfold Text.fields
  rw [Text.splitBy_of_solid solid, List.filter_cons_of_pos (by simpa using full),
    List.filter_nil]

namespace Resource

open Definition (tableEnd)

/-- A resource that has been added to a table, and its id. -/
structure Addition where
  definition : Definition
  id : Text
deriving DecidableEq

namespace Addition

/-- The entry of the table. -/
def entry (a : Addition) : Entry := ⟨a.definition.kind, a.definition.name, a.id⟩

/-- What the constant is declared as. -/
def identifier (a : Addition) : Text := a.definition.name ++ ":I"

/-- The line that declares the constant. -/
def line (a : Addition) : Text := ".field public static final " ++ a.identifier ++ " = " ++ a.id

/-- What is put behind the file of constants. -/
def lines (a : Addition) : Text := a.definition.constantLines a.id

/-- A name and an id that are words. -/
structure Sound (a : Addition) : Prop where
  kind : a.definition.kind.all isWordChar
  name : a.definition.name.all isWordChar
  id : a.id.all isWordChar
  numbered : a.id ≠ []

end Addition

/-! ## Lines of constants -/

variable {a b : Addition} {adds : List Addition}

theorem isBlank_of_isWordChar {c : Char} (h : isWordChar c = true) : isBlank c = false := by
  have range : 0x2e ≤ c.toNat ∧ c.toNat ≤ 0x7a := by
    unfold isWordChar Char.isAlphanum Char.isAlpha Char.isUpper Char.isLower Char.isDigit at h
    simp only [Bool.or_eq_true, Bool.and_eq_true, decide_eq_true_eq, beq_iff_eq, ge_iff_le,
      UInt32.le_iff_toNat_le] at h
    rcases h with (((h | h) | h) | rfl) | rfl
    · exact ⟨Nat.le_trans (by decide) h.1, Nat.le_trans h.2 (by decide)⟩
    · exact ⟨Nat.le_trans (by decide) h.1, Nat.le_trans h.2 (by decide)⟩
    · exact ⟨Nat.le_trans (by decide) h.1, Nat.le_trans h.2 (by decide)⟩
    · decide
    · decide
  simp only [isBlank, Bool.or_eq_false_iff, Bool.and_eq_false_iff, decide_eq_false_iff_not,
    beq_eq_false_iff_ne]
  omega

namespace Addition

theorem lines_eq (a : Addition) : a.lines = '\n' :: '\n' :: (a.line ++ ['\n']) := by
  unfold lines line identifier Definition.constantLines
  simp only [List.append_assoc]
  rfl

theorem Sound.solid (h : a.Sound) :
    a.identifier.all (!PatchTrail.isBlank ·) ∧ a.id.all (!PatchTrail.isBlank ·) := by
  have word {t : Text} (ht : t.all isWordChar) : t.all (!PatchTrail.isBlank ·) :=
    List.all_eq_true.mpr fun c hc => by
      rw [isBlank_of_isWordChar (List.all_eq_true.mp ht c hc)]
      rfl
  refine ⟨?_, word h.id⟩
  unfold identifier
  rw [List.all_append, word h.name]
  rfl

theorem Sound.fields (h : a.Sound) :
    a.line.fields = [(".field" : Text), ("public" : Text), ("static" : Text), ("final" : Text),
      a.identifier, ['='], a.id] := by
  obtain ⟨name, id⟩ := h.solid
  have split : a.line = (".field" : Text) ++ ' ' :: (("public" : Text) ++ ' ' ::
      (("static" : Text) ++ ' ' :: (("final" : Text) ++ ' ' ::
        (a.identifier ++ ' ' :: (['='] ++ ' ' :: a.id))))) := by
    unfold line
    simp only [List.append_assoc]
    rfl
  rw [split, Text.fields_cons (by decide) (by decide) (by decide),
    Text.fields_cons (by decide) (by decide) (by decide),
    Text.fields_cons (by decide) (by decide) (by decide),
    Text.fields_cons (by decide) (by decide) (by decide),
    Text.fields_cons (by simp [identifier]) name (by decide),
    Text.fields_cons (by decide) (by decide) (by decide), Text.fields_of_word h.numbered id]

theorem identifier_ne (a : Addition) : a.identifier ≠ ['='] := by
  intro h
  have := congrArg List.length h
  unfold identifier at this
  rw [List.length_append] at this
  exact absurd this (by simp)

/-- The line of a constant declares the constant and no other. -/
theorem Sound.declares_iff (h : a.Sound) (b : Addition) :
    Smali.declares a.line b.identifier = true ↔ a.definition.name = b.definition.name := by
  have same : a.identifier = b.identifier ↔ a.definition.name = b.definition.name :=
    List.append_left_inj _
  unfold Smali.declares
  rw [h.fields, ← same]
  simp [Smali.assigns, identifier_ne, Ne.symm (identifier_ne _)]

theorem Sound.feed_not_mem (h : a.Sound) : '\n' ∉ a.line ∧ '\r' ∉ a.line := by
  obtain ⟨name, id⟩ := h.solid
  have feed {t : Text} (solid : t.all (!PatchTrail.isBlank ·)) {c : Char}
      (blank : PatchTrail.isBlank c = true) : c ∉ t := fun hc => by
    have := List.all_eq_true.mp solid c hc
    rw [blank] at this
    cases this
  unfold line
  simp only [List.mem_append, not_or]
  exact ⟨⟨⟨⟨by decide, feed name rfl⟩, by decide⟩, feed id rfl⟩,
    ⟨⟨by decide, feed name rfl⟩, by decide⟩, feed id rfl⟩

end Addition

/-- What is put behind a file of constants for some resources. -/
def constants (adds : List Addition) : Text := adds.flatMap Addition.lines

theorem split_constants (sound : ∀ a ∈ adds, a.Sound) :
    (constants adds).split '\n' = adds.flatMap (fun a => [[], [], a.line]) ++ [[]] := by
  induction adds with
  | nil => rfl
  | cons a adds ih =>
      rw [List.forall_mem_cons] at sound
      have step : constants (a :: adds) =
          [] ++ '\n' :: ([] ++ '\n' :: (a.line ++ '\n' :: constants adds)) := by
        unfold constants
        rw [List.flatMap_cons, a.lines_eq]
        simp
      rw [step, Text.split_append_cons List.not_mem_nil, Text.split_append_cons List.not_mem_nil,
        Text.split_append_cons sound.1.feed_not_mem.1, ih sound.2]
      rfl

/-- Of the lines put behind a file of constants those declare a constant that were put there for a
resource of its name. -/
theorem declares_filter (sound : ∀ a ∈ adds, a.Sound) (b : Addition) :
    ((constants adds).split '\n').filter (fun l => Smali.declares l b.identifier) =
      (adds.filter fun a => a.definition.name = b.definition.name).map Addition.line := by
  have empty : Smali.declares [] b.identifier = false := rfl
  rw [split_constants sound, List.filter_append, List.filter_cons_of_neg (by simp [empty]),
    List.filter_nil, List.append_nil]
  induction adds with
  | nil => rfl
  | cons a adds ih =>
      rw [List.forall_mem_cons] at sound
      rw [List.flatMap_cons, List.filter_append, ih sound.2,
        List.filter_cons_of_neg (by simp [empty]), List.filter_cons_of_neg (by simp [empty])]
      by_cases same : a.definition.name = b.definition.name
      · rw [List.filter_cons_of_pos (p := fun l => Smali.declares l b.identifier)
            ((sound.1.declares_iff b).mpr same),
          List.filter_cons_of_pos (by simpa using same)]
        rfl
      · rw [List.filter_cons_of_neg (p := fun l => Smali.declares l b.identifier)
            fun h => same ((sound.1.declares_iff b).mp h),
          List.filter_cons_of_neg (by simpa using same)]
        rfl

theorem return_not_mem_constants (sound : ∀ a ∈ adds, a.Sound) : '\r' ∉ constants adds := by
  intro h
  obtain ⟨a, ha, h⟩ := List.mem_flatMap.mp h
  rw [a.lines_eq] at h
  have := (sound a ha).feed_not_mem.2
  simp [this] at h

/-! ## Files of constants -/

/-- What a file holds behind which constants have been put one after the other. -/
def withConstants : List Addition → (old : Text) → Text
  | [], old => old
  | a :: more, old =>
    Text.dropReturns more.length old.normalizeLineEndings ++ constants (a :: more)

/-- Constants that are put behind a file later are put there as if they were with the others. -/
theorem withConstants_concat (sound : ∀ b ∈ adds, b.Sound) {old : Text} (single : old.Single)
    (a : Addition) :
    (withConstants adds old).normalizeLineEndings ++ a.lines = withConstants (adds ++ [a]) old := by
  have bare := Text.bare_normalizeLineEndings single
  cases adds with
  | nil => exact congrArg _ (List.append_nil a.lines).symm
  | cons b more =>
      have begins : (constants (b :: more)).head? = some '\n' := by
        unfold constants
        rw [List.flatMap_cons, b.lines_eq]
        rfl
      have whole : constants (b :: more ++ [a]) = constants (b :: more) ++ a.lines := by
        unfold constants
        rw [List.flatMap_append, List.flatMap_singleton]
      rw [withConstants, (bare.dropReturns _).normalizeLineEndings_append
        (return_not_mem_constants sound) begins, List.append_assoc, ← whole, List.cons_append,
        withConstants, List.length_append]
      rfl

/-! ## Additions to a table -/

/-- The resources that definitions add to a table, each to the table that the one before it left. -/
def additions : List Definition → (table : Text) → List Addition
  | [], _ => []
  | d :: ds, table =>
    match d.allocate table with
    | .ok (some (next, id)) => ⟨d, id⟩ :: additions ds next
    | .ok none => additions ds table
    | .error _ => []

variable {d : Definition} {ds : List Definition} {table last : Text}

theorem additions_append (h : allocateAll ds table = .ok last) (ds' : List Definition) :
    additions (ds ++ ds') table = additions ds table ++ additions ds' last := by
  induction ds generalizing table with
  | nil =>
      cases h
      rfl
  | cons d ds ih =>
      rw [allocateAll] at h
      rw [List.cons_append, additions, additions]
      split at h
      · cases h
      · next hnone => rw [hnone]; exact ih h
      · next next' id hsome => rw [hsome]; exact congrArg _ (ih h)

variable {es added : List Entry} {space next id : Text}

/-- What is done with a table that has no entry for a resource. -/
theorem Grown.allocate_of_new (h : Grown es space ds table added) (plain : Plain space)
    (legible : Legible es) (new : d.key ∉ (es ++ added).map Entry.key) :
    (∃ e, d.allocate table = .error e) ∨
      ∃ seed, greatest? d.kind es = some seed ∧
        seed + added.countP (·.kind = d.kind) + 1 < idBound := by
  have standing := standing_new (h.counts.legible legible) new
  unfold Definition.allocate
  rw [h.entries plain]
  simp only [standing]
  cases hm : greatest? d.kind (es ++ added) with
  | none => exact .inl ⟨_, rfl⟩
  | some m =>
      obtain ⟨seed, hseed⟩ := h.counts.seed hm
      obtain rfl := Option.some.inj (hm.symm.trans (h.counts.greatest hseed))
      by_cases fits : seed + added.countP (·.kind = d.kind) + 1 < idBound
      · exact .inr ⟨seed, hseed, fits⟩
      · exact .inl ⟨_, if_neg fits⟩

/-- A definition that leaves a table as it is adds nothing. -/
theorem Grown.stood (h : Grown es space ds table added) (plain : Plain space) (legible : Legible es)
    (hkind : d.kind.all isWordChar) (hname : d.name.all isWordChar)
    (hnone : d.allocate table = .ok none) : Grown es space (ds ++ [d]) table added := by
  refine h.skip (Classical.byContradiction fun new => ?_)
  rcases h.allocate_of_new plain legible new with ⟨e, herror⟩ | ⟨seed, hseed, fits⟩
  · cases hnone.symm.trans herror
  · obtain ⟨next, hsome, -⟩ := h.grow plain legible hkind hname new hseed fits
    cases hnone.symm.trans hsome

/-- A definition that changes a table adds the entry of its resource, with an id. -/
theorem Grown.allocated (h : Grown es space ds table added) (plain : Plain space)
    (legible : Legible es) (hkind : d.kind.all isWordChar) (hname : d.name.all isWordChar)
    (hsome : d.allocate table = .ok (some (next, id))) :
    Grown es space (ds ++ [d]) next (added ++ [Addition.entry ⟨d, id⟩]) ∧
      Addition.Sound ⟨d, id⟩ := by
  by_cases there : d.key ∈ (es ++ added).map Entry.key
  · cases hsome.symm.trans
      (allocate_defined (h.counts.legible legible) (h.entries plain) there)
  · rcases h.allocate_of_new plain legible there with ⟨e, herror⟩ | ⟨seed, hseed, fits⟩
    · cases hsome.symm.trans herror
    · obtain ⟨next', hnext, grown⟩ := h.grow plain legible hkind hname there hseed fits
      cases hsome.symm.trans hnext
      exact ⟨grown, hkind, hname, all_isWordChar_renderId _, List.cons_ne_nil _ _⟩

/-- Adding a resource puts no carriage return before a line feed. -/
theorem bare_allocate (bare : table.Bare) (hsome : d.allocate table = .ok (some (next, id)))
    (sound : Addition.Sound ⟨d, id⟩) : next.Bare := by
  obtain ⟨es, m, before, after, -, -, -, -, -, last, -, rfl⟩ := allocate_eq_some_iff.mp hsome
  obtain rfl := last.whole
  rw [List.append_assoc] at bare
  rw [List.append_assoc (before ++ d.line id)]
  have closing : (tableEnd ++ after).head? = some '\n' := rfl
  have plain : '\r' ∉ d.line id := by
    have word {t : Text} (h : t.all isWordChar) : '\r' ∉ t := not_mem_of_word h (by decide)
    unfold Definition.line
    simp [word sound.kind, word sound.name, word sound.id]
  have last : ¬ (before ++ d.line id).getLast? = some '\r' := by
    intro h
    cases hline : (d.line id).getLast? with
    | none => exact absurd (List.getLast?_eq_none_iff.mp hline) (List.cons_ne_nil _ _)
    | some c =>
        rw [List.getLast?_append, hline] at h
        cases h
        exact plain (List.mem_of_getLast? hline)
  refine Text.Bare.append ?_ (bare.of_infix (List.suffix_append _ _).isInfix)
    fun h => absurd h last
  exact Text.Bare.append (bare.of_infix (List.prefix_append _ _).isInfix)
    (Text.bare_of_not_mem plain) fun h => absurd h (bare.getLast?_ne closing)

end Resource

end PatchTrail
