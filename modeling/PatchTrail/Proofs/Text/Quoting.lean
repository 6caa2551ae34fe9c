import PatchTrail.Proofs.Text.Pieces
import PatchTrail.Text.Quoted

/-!
# Quoted texts can be told apart

A character is written inside quotes in a way that can be read back (`readEscaped?_escapeChar`), and
never begins like the quote at the end. So a quoted text can be told from what comes behind it,
whatever either of them holds (`flatMap_escapeChar_inj`). The same is true of a numeral with a
character behind it that is no digit (`ofNat_append_inj`), and of texts of which none begins with
another (`Unprefixed.append_inj`).
-/

namespace PatchTrail.Text

variable {s s' t t' : Text}

/-! ## Characters inside quotes -/

/-- Reads a character as it is written inside quotes. -/
def readEscaped? : Text → Option (Char × Text)
  | [] => none
  | '\\' :: '0' :: rest => some ('\u0000', rest)
  | '\\' :: 't' :: rest => some ('\t', rest)
  | '\\' :: 'r' :: rest => some ('\r', rest)
  | '\\' :: 'n' :: rest => some ('\n', rest)
  | '\\' :: '"' :: rest => some ('"', rest)
  | '\\' :: '\\' :: rest => some ('\\', rest)
  | '\\' :: 'u' :: '{' :: rest =>
    (cut? ['}'] rest).bind fun (digits, rest) =>
      (toNat? 16 digits).map fun n => (Char.ofNat n, rest)
  | c :: rest => some (c, rest)

theorem not_mem_hexOfNat {c : Char} (h : digitValue? c = none) (n : Nat) : c ∉ hexOfNat n := by
  intro hmem
  obtain ⟨d, hd, rfl⟩ := mem_toDigits (by decide) hmem
  rw [digitValue?_digitChar hd] at h
  cases h

/-- What is written inside quotes for a character is read as the character. -/
theorem readEscaped?_escapeChar (c : Char) (rest : Text) :
    readEscaped? (escapeChar c ++ rest) = some (c, rest) := by
  unfold escapeChar
  split_ifs with nul tab ret feed quote slash shown
  · subst nul; rfl
  · subst tab; rfl
  · subst ret; rfl
  · subst feed; rfl
  · subst quote; rfl
  · subst slash; rfl
  · -- A character that stands for itself is no backslash, so no other form can be read in it.
    rw [List.singleton_append, readEscaped?]
    all_goals
      intros
      exact absurd ‹_› slash
  · have close : '}' ∉ hexOfNat c.toNat := not_mem_hexOfNat (by decide) _
    have number : toNat? 16 (hexOfNat c.toNat) = some c.toNat :=
      toNat?_toDigits (by decide) (by decide) _
    simp only [List.cons_append, List.nil_append, List.append_assoc, readEscaped?,
      cut?_append_cons close, Option.bind_some, number, Option.map_some, Char.ofNat_toNat]

/-- No character begins like the quote at the end. -/
theorem escapeChar_append_ne_quote (c : Char) (s t : Text) : escapeChar c ++ s ≠ '"' :: t := by
  intro h
  have read := readEscaped?_escapeChar c s
  rw [h] at read
  cases read
  exact absurd (List.cons.inj h).1 (by decide)

/-! ## Quoted texts and numerals in front of others -/

/-- A text inside quotes can be told from what comes behind the quote at its end. -/
theorem flatMap_escapeChar_inj
    (h : s.flatMap escapeChar ++ '"' :: t = s'.flatMap escapeChar ++ '"' :: t') :
    s = s' ∧ t = t' := by
  induction s generalizing s' with
  | nil =>
      cases s' with
      | nil => exact ⟨rfl, (List.cons.inj h).2⟩
      | cons c s' =>
          rw [List.flatMap_cons, List.append_assoc] at h
          exact absurd h.symm (escapeChar_append_ne_quote c _ _)
  | cons c s ih =>
      cases s' with
      | nil =>
          rw [List.flatMap_cons, List.append_assoc] at h
          exact absurd h (escapeChar_append_ne_quote c _ _)
      | cons c' s' =>
          rw [List.flatMap_cons, List.flatMap_cons, List.append_assoc, List.append_assoc] at h
          have read := congrArg readEscaped? h
          rw [readEscaped?_escapeChar, readEscaped?_escapeChar] at read
          obtain ⟨rfl, rest⟩ := Prod.mk.inj (Option.some.inj read)
          obtain ⟨rfl, rfl⟩ := ih rest
          exact ⟨rfl, rfl⟩

/-- A numeral can be told from what comes behind it, unless this begins with a digit. -/
theorem ofNat_append_inj {n n' : Nat} {c : Char} (hc : c.isDigit = false)
    (h : ofNat n ++ c :: t = ofNat n' ++ c :: t') : n = n' ∧ t = t' := by
  have cut := congrArg (cut? [c]) h
  rw [cut?_append_cons (not_mem_ofNat hc n), cut?_append_cons (not_mem_ofNat hc n')] at cut
  obtain ⟨numeral, rest⟩ := Prod.mk.inj (Option.some.inj cut)
  have number := congrArg (toNat? 10) numeral
  rw [toNat?_ofNat, toNat?_ofNat] at number
  exact ⟨Option.some.inj number, rest⟩

/-! ## Beginnings that tell texts apart -/

/-- None of some beginnings begins with another. -/
def Unprefixed {ι : Type} (opening : ι → Text) : Prop := ∀ i j, opening i <+: opening j → i = j

/-- A text begins with one of such beginnings only. -/
theorem Unprefixed.append_inj {ι : Type} {opening : ι → Text} (unprefixed : Unprefixed opening)
    {i j : ι} (h : opening i ++ t = opening j ++ t') : i = j ∧ t = t' := by
  have same : i = j := by
    rcases List.prefix_or_prefix_of_prefix (h ▸ List.prefix_append (opening i) t)
      (List.prefix_append (opening j) t') with le | le
    · exact unprefixed i j le
    · exact (unprefixed j i le).symm
  subst same
  exact ⟨rfl, List.append_cancel_left h⟩

end PatchTrail.Text
