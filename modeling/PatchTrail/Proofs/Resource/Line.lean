import PatchTrail.Proofs.Markup.Attributes
import PatchTrail.Proofs.Markup.Passing
import PatchTrail.Proofs.Markup.References
import PatchTrail.Proofs.Text.Pieces
import PatchTrail.Resource.Allocation

/-!
# The line of a resource

The line that is put into a table for a resource is one tag, and this tag stands for the resource
with its kind, its name and its id (`passes_line`, `entryOf_lineTag`). An id that was written is
read as the number it was written for (`parseId?_renderId`).
-/

namespace PatchTrail.Resource

open Markup

variable {d : Definition} {id : Text} {n : Nat}

/-! ## Words -/

/-- Whether a character is an ASCII letter, an ASCII digit, a dot or an underscore. -/
def isWordChar (c : Char) : Bool := c.isAlphanum || c == '.' || c == '_'

theorem not_mem_of_word {t : Text} {c : Char} (h : t.all isWordChar) (hc : isWordChar c = false) :
    c ∉ t := by
  intro hmem
  rw [List.all_eq_true.mp h c hmem] at hc
  cases hc

/-! ## Ids -/

theorem digitChar_of_hexOfNat {c : Char} (h : c ∈ Text.hexOfNat n) :
    isWordChar c = true ∧ isBlank c = false := by
  have all : ∀ d < 16, isWordChar d.digitChar = true ∧ isBlank d.digitChar = false := by decide
  obtain ⟨d, hd, rfl⟩ := Text.mem_toDigits (by decide) h
  exact all d hd

theorem all_isWordChar_renderId (n : Nat) : (renderId n).all isWordChar := by
  unfold renderId
  rw [List.all_append, Bool.and_eq_true]
  exact ⟨by decide, List.all_eq_true.mpr fun c hc => (digitChar_of_hexOfNat hc).1⟩

theorem trim_renderId (n : Nat) : (renderId n).trim = renderId n := by
  have solid : ∀ c ∈ renderId n, isBlank c = false := by
    intro c hc
    rcases List.mem_append.mp hc with hc | hc
    · have start : ∀ c ∈ ['0', 'x'], isBlank c = false :=
        List.forall_mem_cons.mpr ⟨rfl, List.forall_mem_singleton.mpr rfl⟩
      exact start c hc
    · exact (digitChar_of_hexOfNat hc).2
  have nothing : Text.isBlank [] := rfl
  simpa using Text.trim_eq_of_solid nothing nothing solid

/-- An id that was written is read as its number. -/
theorem parseId?_renderId (h : n < idBound) : parseId? (renderId n) = some n := by
  have base : digitsAndBase (renderId n) = (Text.hexOfNat n, 16) := rfl
  unfold parseId?
  rw [trim_renderId, base]
  simp only
  unfold Text.hexOfNat
  rw [Text.toNat?_toDigits (by decide) (by decide), Option.filter_some, if_pos (by simpa using h)]

/-! ## The tag -/

/-- What stands between the brackets of a resource's tag, without the slash. -/
def lineTag (d : Definition) (id : Text) : Text :=
  "public" ++ written "type" d.kind (written "name" d.name (written "id" id [' ']))

theorem line_eq (d : Definition) (id : Text) :
    d.line id = "\n    " ++ '<' :: (lineTag d id ++ ['/', '>']) := by
  unfold Definition.line lineTag written
  simp only [List.append_assoc, List.cons_append]
  rfl

theorem cutTag?_lineTag (hkind : '"' ∉ d.kind) (hname : '"' ∉ d.name) (hid : '"' ∉ id) :
    cutTag? none (lineTag d id ++ ['/', '>']) = some (lineTag d id ++ ['/'], []) := by
  have split : lineTag d id ++ ['/', '>'] = "public" ++
      written "type" d.kind (written "name" d.name (written "id" id [' ', '/', '>'])) := by
    unfold lineTag
    rw [List.append_assoc, written_append, written_append, written_append]
    rfl
  have last : cutTag? none [' ', '/', '>'] = some ([' ', '/'], []) := by decide
  rw [split, cutTag?_plain rfl, cutTag?_written rfl hkind, cutTag?_written rfl hname,
    cutTag?_written rfl hid, last]
  unfold lineTag
  simp only [Option.map_some, prependFirst, List.append_assoc, written_append, List.nil_append]
  rfl

/-- The line of a resource is one tag. -/
theorem passes_line (hkind : '"' ∉ d.kind) (hname : '"' ∉ d.name) (hid : '"' ∉ id)
    (opened : List Text) : Passes opened (d.line id) [.empty (lineTag d id)] opened := by
  have hmarkup : markup opened (lineTag d id ++ ['/', '>']) =
      .ok ([.empty (lineTag d id)], opened, []) := by
    have first : (lineTag d id ++ ['/', '>']).head? = some 'p' := rfl
    rw [markup_tag (by decide) (by decide) (by decide) first, cutTag?_lineTag hkind hname hid]
    simp only
    rw [List.getLast?_concat, if_pos rfl, List.dropLast_concat]
  rw [line_eq]
  exact (Passes.of_not_mem (by decide) opened).append
    (Passes.of_markup hmarkup (Passes.of_not_mem List.not_mem_nil opened))

theorem attributes_lineTag (hkind : '"' ∉ d.kind) (hname : '"' ∉ d.name) (hid : '"' ∉ id) :
    Markup.attributes (lineTag d id) entryTag.length = do
      let kind ← unescape d.kind
      let name ← unescape d.name
      let number ← unescape id
      return [⟨"type", kind⟩, ⟨"name", name⟩, ⟨"id", number⟩] := by
  have behind : (lineTag d id).drop entryTag.length =
      written "type" d.kind (written "name" d.name (written "id" id [' '])) := rfl
  unfold Markup.attributes
  rw [behind]
  generalize (lineTag d id).size = size
  have word {key : Text} (full : key ≠ []) (hkey : key.all (!endsKey ·)) : IsKey key :=
    have word (c : Char) (hc : c ∈ key) : endsKey c = false := by
      simpa using List.all_eq_true.mp hkey c hc
    ⟨full, fun c hc => (Bool.or_eq_false_iff.mp (word c (List.mem_of_mem_head? hc))).2,
      fun c hc => word c (List.mem_of_mem_tail hc)⟩
  obtain ⟨p, kind⟩ := attributesFrom_written size [] "type"
    (written "name" d.name (written "id" id [' '])) (word (by decide) rfl) hkind (by decide)
  obtain ⟨q, name⟩ := attributesFrom_written size [("type", p)] "name" (written "id" id [' '])
    (word (by decide) rfl) hname (show ("name" : Text) ∉ [("type" : Text)] by decide)
  obtain ⟨r, last⟩ := attributesFrom_written size [("type", p), ("name", q)] "id" [' ']
    (word (by decide) rfl) hid
    (show ("id" : Text) ∉ [("type" : Text), ("name" : Text)] by decide)
  rw [kind]
  simp only [List.nil_append, name, List.singleton_append, last,
    attributesFrom_blank (s := [' ']) (List.all_eq_true.mp rfl)]
  cases unescape d.kind <;> cases unescape d.name <;> cases unescape id <;> rfl

/-- The tag of a resource stands for what its kind, its name and its id stand for as values. -/
theorem entryOf_lineTag (hkind : '"' ∉ d.kind) (hname : '"' ∉ d.name) (hid : '"' ∉ id) :
    entryOf (lineTag d id) = do
      let kind ← unescape d.kind
      let name ← unescape d.name
      let number ← unescape id
      return [⟨kind, name, number⟩] := by
  have name : tagName (lineTag d id) = entryTag := by
    have split : lineTag d id = entryTag ++ ' ' :: (lineTag d id).drop 7 := rfl
    unfold tagName
    rw [split]
    exact takeWhile_append_cons (List.all_eq_true.mp rfl) rfl _
  unfold entryOf
  rw [if_pos name, attributes_lineTag hkind hname hid]
  cases unescape d.kind <;> cases unescape d.name <;> cases unescape id <;> rfl

end PatchTrail.Resource
