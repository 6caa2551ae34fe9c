import PatchTrail.Text.Basic

/-!
# Blank characters and the fields between them

White space is the property of that name in the Unicode standard. A line's fields are the longest
runs of characters that are not blank (`fields`); no field is empty and none holds a blank
(`not_isBlank_of_mem_fields`).
-/

namespace PatchTrail

/-- Whether a character is white space. -/
def isBlank (c : Char) : Bool :=
  let n := c.toNat
  (9 ≤ n && n ≤ 13) || n == 0x20 || n == 0x85 || n == 0xa0 || n == 0x1680
    || (0x2000 ≤ n && n ≤ 0x200a) || n == 0x2028 || n == 0x2029 || n == 0x202f || n == 0x205f
    || n == 0x3000

/-- Every blank of the ASCII set is blank. -/
theorem isBlank_of_isWhitespace {c : Char} (h : c.isWhitespace = true) : isBlank c = true := by
  simp only [Char.isWhitespace, Bool.or_eq_true, decide_eq_true_eq] at h
  rcases h with ((rfl | rfl) | rfl) | rfl <;> decide

namespace Text

/-- Whether a text consists of blanks only; the empty text does. -/
def isBlank (t : Text) : Bool := t.all PatchTrail.isBlank

/-- The longest runs of characters that are not blank. -/
def fields (t : Text) : List Text := (splitBy PatchTrail.isBlank t).filter (· ≠ [])

/-- A text without the blanks at its beginning. -/
def trimStart (t : Text) : Text := t.dropWhile PatchTrail.isBlank

/-- A text without the blanks at its end. -/
def trimEnd (t : Text) : Text := dropEndWhile PatchTrail.isBlank t

/-- A text without the blanks at either end. -/
def trim (t : Text) : Text := trimEnd (trimStart t)

theorem not_of_mem_splitBy {p : Char → Bool} {t piece : Text} (h : piece ∈ splitBy p t) :
    ∀ c ∈ piece, p c = false := by
  induction t generalizing piece with
  | nil => simp_all [splitBy]
  | cons a rest ih =>
    rw [splitBy] at h
    split at h
    · rcases List.mem_cons.1 h with rfl | h
      · simp
      · exact ih h
    · next ha =>
      split at h
      · next hs => exact absurd hs (splitBy_ne_nil _ _)
      · next first more hs =>
        rcases List.mem_cons.1 h with rfl | h
        · intro c hc
          rcases List.mem_cons.1 hc with rfl | hc
          · simpa using ha
          · exact ih (hs ▸ List.mem_cons_self) c hc
        · exact ih (hs ▸ List.mem_cons_of_mem _ h)

/-- No field holds a blank. -/
theorem not_isBlank_of_mem_fields {t field : Text} (h : field ∈ fields t) :
    ∀ c ∈ field, PatchTrail.isBlank c = false :=
  not_of_mem_splitBy (List.mem_filter.1 h).1

/-- No field is empty. -/
theorem ne_nil_of_mem_fields {t field : Text} (h : field ∈ fields t) : field ≠ [] := by
  simpa using (List.mem_filter.1 h).2

end Text

end PatchTrail
