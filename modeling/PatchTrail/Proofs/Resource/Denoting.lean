import PatchTrail.Proofs.Text.Pieces
import PatchTrail.Resource.Id

/-!
# The texts that are ids

A text is read as an id exactly if it is a numeral with blanks around it and the number is below the
bound (`parseId?_eq_some_iff`). The character that marks a base is no digit of base eight, so a
numeral is taken apart in one way only (`isNumeral_iff`); and there are no signs, because a sign is
no digit of any base.
-/

namespace PatchTrail.Resource

variable {t : Text} {base n value : Nat} {ds : List Nat}

/-! ## Digits -/

theorem areDigits_nil_iff : AreDigits base [] ds ↔ ds = [] := by
  unfold AreDigits
  constructor
  · rintro ⟨values, -⟩
    exact List.map_eq_nil_iff.mp values.symm
  · rintro rfl
    exact ⟨rfl, nofun⟩

theorem areDigits_cons_iff {c : Char} : AreDigits base (c :: t) ds ↔
    ∃ d ds', ds = d :: ds' ∧ digitValue? c = some d ∧ d < base ∧ AreDigits base t ds' := by
  unfold AreDigits
  constructor
  · rintro ⟨values, lt⟩
    cases ds with
    | nil => cases values
    | cons d ds' =>
        obtain ⟨first, others⟩ := List.cons.inj values
        obtain ⟨hd, lt⟩ := List.forall_mem_cons.mp lt
        exact ⟨d, ds', rfl, first, hd, others, lt⟩
  · rintro ⟨d, ds', rfl, first, hd, others, lt⟩
    rw [List.map_cons, List.map_cons, first, others]
    exact ⟨rfl, List.forall_mem_cons.mpr ⟨hd, lt⟩⟩

/-- A number is read off the digits of a base, behind a number that was read already. -/
theorem readDigits_eq_some_iff : Text.readDigits base t value = some n ↔
    ∃ ds, AreDigits base t ds ∧ ds.foldl (fun value d => value * base + d) value = n := by
  induction t generalizing value with
  | nil => simp [Text.readDigits, areDigits_nil_iff]
  | cons c t ih =>
      rw [Text.readDigits]
      cases hc : digitValue? c with
      | none => simp [areDigits_cons_iff, hc]
      | some d =>
          by_cases hd : d < base
          · simp only [if_pos hd, ih, areDigits_cons_iff, hc]
            constructor
            · rintro ⟨ds, digits, rfl⟩
              exact ⟨d :: ds, ⟨d, ds, rfl, rfl, hd, digits⟩, rfl⟩
            · rintro ⟨_, ⟨d', ds, rfl, ⟨⟩, -, digits⟩, rfl⟩
              exact ⟨ds, digits, rfl⟩
          · simp only [if_neg hd, areDigits_cons_iff, hc]
            refine iff_of_false (by simp) ?_
            rintro ⟨_, ⟨d', ds, -, ⟨⟩, lt, -⟩, -⟩
            exact hd lt

/-- A numeral has at least one digit. -/
theorem toNat?_eq_some_iff : Text.toNat? base t = some n ↔
    ∃ ds, AreDigits base t ds ∧ ds ≠ [] ∧ valueOfDigits base ds = n := by
  unfold Text.toNat? valueOfDigits
  by_cases empty : t = []
  · subst empty
    simp [areDigits_nil_iff]
  · rw [if_neg empty, readDigits_eq_some_iff]
    refine exists_congr fun ds => and_congr_right fun digits => (and_iff_right ?_).symm
    rintro rfl
    exact empty (List.map_eq_nil_iff.mp digits.1)

/-! ## Marks -/

/-- The characters that mark a base behind a zero. -/
def marks : Text := ['x', 'X', 'o', 'O', 'b', 'B']

/-- Nothing stands behind a zero that begins a text. -/
def Unled (t : Text) : Prop := ∀ rest, t = '0' :: rest → rest = []

theorem digitsAndBase_unled (h : Unled t) : digitsAndBase t = (t, 10) := by
  unfold digitsAndBase
  split
  case h_8 => rfl
  all_goals exact absurd (h _ rfl) (List.cons_ne_nil _ _)

theorem digitsAndBase_unmarked {c : Char} (h : c ∉ marks) (t : Text) :
    digitsAndBase ('0' :: c :: t) = (c :: t, 8) := by
  unfold digitsAndBase
  split
  case h_7 heq => cases heq; rfl
  case h_8 other => exact absurd rfl (other c t)
  all_goals
    rename_i heq
    cases heq
    exact absurd (by decide) h

/-- A text has nothing behind its leading zero, or a mark of a base, or something else. -/
theorem unled_or_led (t : Text) : Unled t ∨ (∃ mark ∈ marks, ∃ rest, t = '0' :: mark :: rest) ∨
    ∃ c, c ∉ marks ∧ ∃ rest, t = '0' :: c :: rest := by
  cases t with
  | nil => exact .inl nofun
  | cons a t =>
      by_cases zero : a = '0'
      · subst zero
        cases t with
        | nil =>
            refine .inl fun rest heq => ?_
            exact (List.cons.inj heq).2.symm
        | cons c rest =>
            by_cases hc : c ∈ marks
            · exact .inr (.inl ⟨c, hc, rest, rfl⟩)
            · exact .inr (.inr ⟨c, hc, rest, rfl⟩)
      · refine .inl fun rest heq => ?_
        exact absurd (List.cons.inj heq).1 zero

/-- No mark is a digit of base ten or below. -/
theorem not_mem_marks {c : Char} {d : Nat} (h : digitValue? c = some d) (lt : d < 10) :
    c ∉ marks := by
  intro hc
  have all : marks.all (fun c => (digitValue? c).all (10 ≤ ·)) = true := by decide
  have large := List.all_eq_true.mp all c hc
  rw [h, Option.all_some, decide_eq_true_eq] at large
  omega

theorem unled_of_head {c : Char} (h : digitValue? c ≠ some 0) (t : Text) : Unled (c :: t) := by
  rintro rest heq
  obtain ⟨rfl, -⟩ := List.cons.inj heq
  exact absurd rfl h

/-- The digit zero is written in one way only. -/
theorem eq_zero_of_digitValue? {c : Char} (h : digitValue? c = some 0) : c = '0' := by
  have code : c.toNat = 48 := by
    unfold digitValue? at h
    simp only at h
    split at h
    · have := Option.some.inj h
      omega
    · split at h
      · have := Option.some.inj h
        omega
      · split at h
        · have := Option.some.inj h
          omega
        · cases h
  exact Char.toNat_inj.mp code

/-- **A numeral is taken apart into the mark of its base and its digits.** -/
theorem isNumeral_iff : IsNumeral t base ds ↔
    (digitsAndBase t).2 = base ∧ AreDigits base (digitsAndBase t).1 ds ∧ ds ≠ [] := by
  constructor
  · intro h
    cases h with
    | hexadecimal marked digits full =>
        rcases marked with rfl | rfl <;> exact ⟨rfl, digits, full⟩
    | octal marked digits full =>
        rcases marked with rfl | rfl <;> exact ⟨rfl, digits, full⟩
    | binary marked digits full =>
        rcases marked with rfl | rfl <;> exact ⟨rfl, digits, full⟩
    | @oldOctal t _ digits full =>
        cases t with
        | nil => exact absurd (areDigits_nil_iff.mp digits) full
        | cons c t =>
            obtain ⟨d, _, -, hd, lt, -⟩ := areDigits_cons_iff.mp digits
            rw [digitsAndBase_unmarked (not_mem_marks hd (by omega))]
            exact ⟨rfl, digits, full⟩
    | zero => exact ⟨rfl, ⟨rfl, by decide⟩, by decide⟩
    | decimal digits full leading =>
        cases t with
        | nil => exact absurd (areDigits_nil_iff.mp digits) full
        | cons c t =>
            obtain ⟨d, _, rfl, hd, -, -⟩ := areDigits_cons_iff.mp digits
            have other : digitValue? c ≠ some 0 := by
              rw [hd]
              exact leading
            rw [digitsAndBase_unled (unled_of_head other t)]
            exact ⟨rfl, digits, full⟩
  · rintro ⟨rfl, digits, full⟩
    rcases unled_or_led t with unled | ⟨mark, hmark, rest, rfl⟩ | ⟨c, hc, rest, rfl⟩
    · rw [digitsAndBase_unled unled] at digits ⊢
      cases t with
      | nil => exact absurd (areDigits_nil_iff.mp digits) full
      | cons c t =>
          obtain ⟨d, ds', rfl, hd, lt, others⟩ := areDigits_cons_iff.mp digits
          by_cases zero : d = 0
          · subst zero
            obtain rfl := eq_zero_of_digitValue? hd
            obtain rfl := unled t rfl
            rw [areDigits_nil_iff.mp others]
            exact .zero
          · exact .decimal digits full (by simpa using zero)
    · have cases : mark = 'x' ∨ mark = 'X' ∨ mark = 'o' ∨ mark = 'O' ∨ mark = 'b' ∨ mark = 'B' := by
        simpa [marks] using hmark
      rcases cases with rfl | rfl | rfl | rfl | rfl | rfl
      · exact .hexadecimal (.inl rfl) digits full
      · exact .hexadecimal (.inr rfl) digits full
      · exact .octal (.inl rfl) digits full
      · exact .octal (.inr rfl) digits full
      · exact .binary (.inl rfl) digits full
      · exact .binary (.inr rfl) digits full
    · rw [digitsAndBase_unmarked hc] at digits ⊢
      exact .oldOctal digits full

/-! ## Blanks around a numeral -/

/-- No digit is blank. -/
theorem not_isBlank_of_digitValue? {c : Char} {d : Nat} (h : digitValue? c = some d) :
    isBlank c = false := by
  have code : 48 ≤ c.toNat ∧ c.toNat ≤ 122 := by
    unfold digitValue? at h
    simp only at h
    split at h
    · omega
    · split at h
      · omega
      · split at h
        · omega
        · cases h
  simp [isBlank]
  omega

theorem AreDigits.not_isBlank (h : AreDigits base t ds) : ∀ c ∈ t, isBlank c = false := by
  intro c hc
  have value : digitValue? c ∈ ds.map some := h.1 ▸ List.mem_map_of_mem hc
  obtain ⟨d, -, hd⟩ := List.mem_map.mp value
  exact not_isBlank_of_digitValue? hd.symm

/-- No character of a numeral is blank. -/
theorem IsNumeral.not_isBlank (h : IsNumeral t base ds) : ∀ c ∈ t, isBlank c = false := by
  have marked {mark : Char} {t : Text} (hmark : isBlank mark = false)
      (ht : ∀ c ∈ t, isBlank c = false) : ∀ c ∈ '0' :: mark :: t, isBlank c = false :=
    List.forall_mem_cons.mpr ⟨rfl, List.forall_mem_cons.mpr ⟨hmark, ht⟩⟩
  cases h with
  | hexadecimal mark digits =>
      exact marked (by rcases mark with rfl | rfl <;> rfl) digits.not_isBlank
  | octal mark digits => exact marked (by rcases mark with rfl | rfl <;> rfl) digits.not_isBlank
  | binary mark digits => exact marked (by rcases mark with rfl | rfl <;> rfl) digits.not_isBlank
  | oldOctal digits => exact List.forall_mem_cons.mpr ⟨rfl, digits.not_isBlank⟩
  | zero => exact List.forall_mem_singleton.mpr rfl
  | decimal digits => exact digits.not_isBlank

/-! ## Ids -/

theorem idBound_eq : idBound = Nat.pow 2 32 := rfl

/-- An id is read if the text without the blanks around it is a numeral below the bound. -/
theorem parseId?_iff_denotes : parseId? t = some n ↔ Denotes t n := by
  unfold parseId? Denotes
  simp only [Option.filter_eq_some_iff, toNat?_eq_some_iff, isNumeral_iff, decide_eq_true_eq]
  constructor
  · rintro ⟨⟨ds, digits, full, value⟩, lt⟩
    exact ⟨_, ds, ⟨rfl, digits, full⟩, value, lt⟩
  · rintro ⟨_, ds, ⟨rfl, digits, full⟩, value, lt⟩
    exact ⟨⟨ds, digits, full, value⟩, lt⟩

/-- **The texts that are read as an id are the numerals of numbers below the bound, with any blanks
around them.** -/
theorem parseId?_eq_some_iff : parseId? t = some n ↔
    ∃ before numeral after : Text, t = before ++ numeral ++ after ∧ before.isBlank ∧ after.isBlank ∧
      ∃ base ds, IsNumeral numeral base ds ∧ valueOfDigits base ds = n ∧ n < Nat.pow 2 32 := by
  rw [parseId?_iff_denotes, ← idBound_eq]
  constructor
  · rintro ⟨base, ds, numeral, value, lt⟩
    obtain ⟨before, after, split, hbefore, hafter⟩ := Text.exists_trim t
    exact ⟨before, t.trim, after, split, hbefore, hafter, base, ds, numeral, value, lt⟩
  · rintro ⟨before, s, after, rfl, hbefore, hafter, base, ds, numeral, value, lt⟩
    refine ⟨base, ds, ?_, value, lt⟩
    rwa [Text.trim_eq_of_solid hbefore hafter numeral.not_isBlank]

/-- A zero in front of a sign makes no numeral of it. -/
example : parseId? "0+5" = none ∧ parseId? " 0X1f\n" = some 31 ∧ parseId? "0o8" = none := by decide

end PatchTrail.Resource
