import PatchTrail.Markup.Attribute
import PatchTrail.Proofs.Except

/-!
# Values with references

A value without references stands for itself (`unescape_plain`). Characters may be written by name
or by number as well, and every way to write a text as a value is read as the text
(`Spells.unescape_eq`), in particular the one with a reference by name for each of the characters
that have one (`unescape_escaped`). What a value stands for is never longer than the value, and as
long only if it holds no reference (`not_mem_of_unescape`). A bracket in a value belongs to no
reference, so the text that the value stands for has it too (`bracket_mem_of_unescape`).
-/

namespace PatchTrail.Markup

variable {s t name digits reference : Text} {size skip start stop base value n : Nat} {c d : Char}

/-! ## Texts as values -/

theorem unescapeFrom_plain (h : '&' ∉ s) : unescapeFrom size 0 s = .ok s := by
  induction s with
  | nil => rfl
  | cons c s ih =>
      obtain ⟨hc, hs⟩ := List.ne_and_not_mem_of_not_mem_cons h
      rw [unescapeFrom, if_neg (Ne.symm hc), ih hs]
      rfl

/-- A value without references stands for itself. -/
theorem unescape_plain (h : '&' ∉ s) : unescape s = .ok s := unescapeFrom_plain h

theorem unescapeFrom_append (size : Nat) (s t : Text) :
    unescapeFrom size s.length (s ++ t) = unescapeFrom size 0 t := by
  induction s with
  | nil => rfl
  | cons c s ih => exact ih

/-- A reference is read up to its semicolon. -/
theorem unescapeFrom_reference (hname : ∀ d ∈ name, d ≠ '&' ∧ d ≠ ';')
    (h : ∀ start stop, resolve start stop name = .ok c) (t : Text) :
    unescapeFrom size 0 ('&' :: (name ++ ';' :: t)) =
      (unescapeFrom size 0 t).map (c :: ·) := by
  have whole : (name ++ ';' :: t).takeWhile (fun d => d != '&' && d != ';') = name := by
    rw [List.takeWhile_append_of_pos (by simpa using hname), List.takeWhile_cons_of_neg (by decide),
      List.append_nil]
  have closed : (name ++ ';' :: t)[name.length]? = some ';' := by simp
  have behind : unescapeFrom size (name.length + 1) (name ++ ';' :: t) = unescapeFrom size 0 t := by
    have split : name ++ ';' :: t = (name ++ [';']) ++ t := by simp
    rw [split, ← unescapeFrom_append size (name ++ [';']) t, List.length_append]
    rfl
  rw [unescapeFrom, if_pos rfl]
  simp only [whole, closed, if_true, h, behind]
  cases unescapeFrom size 0 t <;> rfl

theorem resolve_entity {e : Text × Char} (he : e ∈ entities) :
    (∀ d ∈ e.1, d ≠ '&' ∧ d ≠ ';') ∧ ∀ start stop, resolve start stop e.1 = .ok e.2 := by
  refine ⟨fun d hd => ?_, fun start stop => ?_⟩
  · have all : entities.all (fun e => e.1.all fun d => d != '&' && d != ';') := by decide
    simpa using List.all_eq_true.mp (List.all_eq_true.mp all e he) d hd
  · simp only [entities, List.mem_cons, List.not_mem_nil, or_false] at he
    rcases he with rfl | rfl | rfl | rfl | rfl <;> rfl

/-! ## Every way to write a value -/

/-- A text stands for another as a value: each character is written as itself, unless it begins a
reference, or as a reference by its name, or by its number in decimal or hexadecimal digits. -/
inductive Spells : (value raw : Text) → Prop where
  | nil : Spells [] []
  | plain {c : Char} {value raw : Text} (h : c ≠ '&') (rest : Spells value raw) :
      Spells (c :: value) (c :: raw)
  | named {name : Text} {c : Char} {value raw : Text} (h : (name, c) ∈ entities)
      (rest : Spells value raw) : Spells (c :: value) ('&' :: (name ++ ';' :: raw))
  | decimal {digits : Text} {c : Char} {value raw : Text} (h : Text.toNat? 10 digits = some c.toNat)
      (hc : c.toNat ≠ 0) (rest : Spells value raw) :
      Spells (c :: value) ('&' :: ('#' :: digits ++ ';' :: raw))
  | hexadecimal {digits : Text} {c : Char} {value raw : Text}
      (h : Text.toNat? 16 digits = some c.toNat) (hc : c.toNat ≠ 0) (rest : Spells value raw) :
      Spells (c :: value) ('&' :: ('#' :: 'x' :: digits ++ ';' :: raw))

theorem digitValue?_of_mem (h : Text.readDigits base digits value = some n) (hc : c ∈ digits) :
    ∃ d < base, digitValue? c = some d := by
  induction digits generalizing value with
  | nil => cases hc
  | cons e digits ih =>
      rw [Text.readDigits] at h
      split at h
      · next d hd =>
          split at h
          · next small =>
              rcases List.mem_cons.mp hc with rfl | hc
              · exact ⟨d, small, hd⟩
              · exact ih h hc
          · cases h
      · cases h

theorem le_of_readDigits (pos : 0 < base) (h : Text.readDigits base digits value = some n) :
    value ≤ n := by
  induction digits generalizing value with
  | nil => exact Nat.le_of_eq (Option.some.inj h)
  | cons e digits ih =>
      rw [Text.readDigits] at h
      split at h
      · next d hd =>
          split at h
          · have next := ih h
            have grows := Nat.le_mul_of_pos_right value pos
            omega
          · cases h
      · cases h

/-- A numeral of at most thirty-two bits is read without an overflow. -/
theorem readNumber_eq (pos : 0 < base) (h : Text.readDigits base digits value = some n)
    (small : n < Width.bound32) : readNumber base digits value = .ok n := by
  induction digits generalizing value with
  | nil => exact congrArg Except.ok (Option.some.inj h)
  | cons e digits ih =>
      rw [Text.readDigits] at h
      rw [readNumber]
      split at h
      · next d hd =>
          split at h
          · next lt =>
              have le := le_of_readDigits pos h
              simp only [hd, if_pos lt]
              rw [if_pos (Nat.lt_of_le_of_lt le small)]
              exact ih h
          · cases h
      · cases h

theorem readDigits_of_toNat? (h : Text.toNat? base digits = some n) :
    digits ≠ [] ∧ Text.readDigits base digits 0 = some n := by
  unfold Text.toNat? at h
  split at h
  · cases h
  · next full => exact ⟨full, h⟩

theorem toNat_lt_bound32 (c : Char) : c.toNat < Width.bound32 := c.val.toNat_lt

/-- The number of a character is read as the number, and it is the character's. -/
theorem characterOf_numberOf (pos : 0 < base) (h : Text.toNat? base digits = some c.toNat)
    (hc : c.toNat ≠ 0) : (numberOf base digits >>= characterOf) = .ok c := by
  obtain ⟨full, read⟩ := readDigits_of_toNat? h
  have number : numberOf base digits = .ok c.toNat := by
    obtain ⟨e, digits, rfl⟩ := List.exists_cons_of_ne_nil full
    obtain ⟨d, -, hd⟩ := digitValue?_of_mem read List.mem_cons_self
    have unsigned : ¬ (e = '+' ∨ e = '-') := by
      rintro (rfl | rfl) <;> cases hd
    unfold numberOf
    simp only [if_neg unsigned]
    exact readNumber_eq pos read (toNat_lt_bound32 c)
  have character : characterOf c.toNat = .ok c := by
    unfold characterOf
    have valid : c.toNat.isValidChar := c.valid
    rw [if_neg hc, if_pos valid, Char.ofNat_toNat]
  rw [number]
  exact character

theorem resolve_decimal (h : Text.toNat? 10 digits = some c.toNat) (hc : c.toNat ≠ 0)
    (start stop : Nat) : resolve start stop ('#' :: digits) = .ok c := by
  have decimal : numbered digits = numberOf 10 digits >>= characterOf := by
    obtain ⟨full, read⟩ := readDigits_of_toNat? h
    obtain ⟨e, digits, rfl⟩ := List.exists_cons_of_ne_nil full
    obtain ⟨d, small, hd⟩ := digitValue?_of_mem read List.mem_cons_self
    unfold numbered
    split
    · next heq =>
        obtain ⟨rfl, -⟩ := List.cons.inj heq
        cases hd
        exact absurd small (by decide)
    · rfl
  unfold resolve
  simp only [decimal, characterOf_numberOf (by decide) h hc]

theorem resolve_hexadecimal (h : Text.toNat? 16 digits = some c.toNat) (hc : c.toNat ≠ 0)
    (start stop : Nat) : resolve start stop ('#' :: 'x' :: digits) = .ok c := by
  have hexadecimal : numbered ('x' :: digits) = numberOf 16 digits >>= characterOf := rfl
  unfold resolve
  simp only [hexadecimal, characterOf_numberOf (by decide) h hc]

/-- The digits of a reference neither begin another one nor end it. -/
theorem not_mem_digits (h : Text.toNat? base digits = some n) :
    ∀ d ∈ digits, d ≠ '&' ∧ d ≠ ';' := by
  intro d hd
  obtain ⟨v, -, hv⟩ := digitValue?_of_mem (readDigits_of_toNat? h).2 hd
  constructor <;>
  · rintro rfl
    cases hv

/-- **However a text is written as a value, it is what the value stands for.** -/
theorem Spells.unescape_eq (h : Spells t s) : unescape s = .ok t := by
  unfold unescape
  generalize s.size = size
  induction h with
  | nil => rfl
  | plain other rest ih =>
      rw [unescapeFrom, if_neg other, ih]
      rfl
  | named known rest ih =>
      obtain ⟨clean, resolved⟩ := resolve_entity known
      rw [unescapeFrom_reference clean resolved, ih]
      rfl
  | @decimal digits c _ _ number hc rest ih =>
      have clean : ∀ d ∈ '#' :: digits, d ≠ '&' ∧ d ≠ ';' := by
        simpa using not_mem_digits number
      rw [unescapeFrom_reference clean (resolve_decimal number hc), ih]
      rfl
  | @hexadecimal digits c _ _ number hc rest ih =>
      have clean : ∀ d ∈ '#' :: 'x' :: digits, d ≠ '&' ∧ d ≠ ';' := by
        simpa using not_mem_digits number
      rw [unescapeFrom_reference clean (resolve_hexadecimal number hc), ih]
      rfl

/-! ## Texts written with references by name -/

/-- A text as a value: every character that has a name is written as a reference. -/
def escaped (t : Text) : Text :=
  t.flatMap fun c =>
    match entities.find? fun e => e.2 == c with
    | some (name, _) => '&' :: (name ++ [';'])
    | none => [c]

theorem spells_escaped (t : Text) : Spells t (escaped t) := by
  induction t with
  | nil => exact .nil
  | cons c t ih =>
      unfold escaped at ih ⊢
      rw [List.flatMap_cons]
      cases hfind : entities.find? fun e => e.2 == c with
      | none =>
          have plain : c ≠ '&' := by
            rintro rfl
            cases hfind
          exact .plain plain ih
      | some e =>
          have own : e.2 = c := by simpa using List.find?_some hfind
          have known : (e.1, c) ∈ entities := own ▸ List.mem_of_find?_eq_some hfind
          simpa using Spells.named known ih

/-- **A text that is written as a value is read as the text.** -/
theorem unescape_escaped (t : Text) : unescape (escaped t) = .ok t := (spells_escaped t).unescape_eq

/-- A text that is written as a value holds no quote. -/
theorem quote_not_mem_escaped (t : Text) : '"' ∉ escaped t := by
  intro h
  obtain ⟨c, -, hc⟩ := List.mem_flatMap.mp h
  cases hfind : entities.find? fun e => e.2 == c with
  | none =>
      simp only [hfind, List.mem_singleton] at hc
      subst hc
      cases hfind
  | some e =>
      have clean : ∀ e ∈ entities, '"' ∉ '&' :: (e.1 ++ [';']) := by decide
      simp only [hfind] at hc
      exact clean e (List.mem_of_find?_eq_some hfind) hc

/-! ## What values stand for -/

theorem length_le_of_unescapeFrom (h : unescapeFrom size skip s = .ok t) :
    t.length ≤ s.length - skip ∧ (t.length = s.length - skip → '&' ∉ s.drop skip) := by
  induction s generalizing skip t with
  | nil =>
      cases h
      simp
  | cons c s ih =>
      cases skip with
      | succ skip =>
          rw [List.length_cons, Nat.add_sub_add_right, List.drop_succ_cons]
          exact ih h
      | zero =>
          rw [unescapeFrom] at h
          split at h
          · -- a reference is longer than the character that it stands for
            simp only at h
            split at h
            · next closed =>
                obtain ⟨d, -, h⟩ := bind_eq_ok_iff.mp h
                obtain ⟨rest, hrest, h⟩ := bind_eq_ok_iff.mp h
                cases h
                obtain ⟨le, -⟩ := ih hrest
                obtain ⟨lt, -⟩ := List.getElem?_eq_some_iff.mp closed
                rw [List.length_cons, List.length_cons]
                omega
            · cases h
          · next other =>
              obtain ⟨rest, hrest, h⟩ := bind_eq_ok_iff.mp h
              cases h
              obtain ⟨le, plain⟩ := ih hrest
              rw [List.length_cons, List.length_cons]
              refine ⟨by omega, fun same hmem => ?_⟩
              rcases List.mem_cons.mp hmem with heq | hmem
              · exact other heq.symm
              · exact plain (by omega) hmem

/-- A value that stands for itself holds no reference. -/
theorem not_mem_of_unescape (h : unescape s = .ok s) : '&' ∉ s :=
  (length_le_of_unescapeFrom h).2 rfl

theorem readNumber_bracket (h : '<' ∈ digits) : readNumber base digits value ≠ .ok n := by
  induction digits generalizing value with
  | nil => cases h
  | cons c digits ih =>
      rw [readNumber]
      rcases List.mem_cons.mp h with rfl | h
      · nofun
      · cases digitValue? c with
        | none => nofun
        | some d =>
            simp only
            split
            · split
              · exact ih h
              · nofun
            · nofun

theorem numberOf_bracket (h : '<' ∈ digits) : numberOf base digits ≠ .ok n := by
  unfold numberOf
  split
  · cases h
  · split
    · nofun
    · exact readNumber_bracket h

theorem numbered_bracket (h : '<' ∈ digits) : numbered digits ≠ .ok c := by
  intro read
  unfold numbered at read
  split at read
  · obtain ⟨n, number, -⟩ := bind_eq_ok_iff.mp read
    refine numberOf_bracket ?_ number
    rcases List.mem_cons.mp h with heq | h
    · cases heq
    · exact h
  · obtain ⟨n, number, -⟩ := bind_eq_ok_iff.mp read
    exact numberOf_bracket h number

/-- No reference holds a bracket. -/
theorem resolve_bracket (h : '<' ∈ reference) : resolve start stop reference ≠ .ok c := by
  unfold resolve
  split
  · next digits =>
      have inside : '<' ∈ digits := by
        rcases List.mem_cons.mp h with heq | h
        · cases heq
        · exact h
      cases hread : numbered digits with
      | error f => nofun
      | ok d => exact absurd hread (numbered_bracket inside)
  · cases hfind : entities.find? fun e => e.1 == reference with
    | none => nofun
    | some e =>
        have clean : ∀ e ∈ entities, '<' ∉ e.1 := by decide
        have own : e.1 = reference := by simpa using List.find?_some hfind
        exact absurd (own ▸ h) (clean e (List.mem_of_find?_eq_some hfind))

theorem mem_split_at {p : Char → Bool} (h : c ∈ s) (closed : s[(s.takeWhile p).length]? = some d) :
    c ∈ s.takeWhile p ∨ c = d ∨ c ∈ s.drop ((s.takeWhile p).length + 1) := by
  have split := List.take_append_drop (s.takeWhile p).length s
  obtain ⟨lt, hd⟩ := List.getElem?_eq_some_iff.mp closed
  rw [← List.prefix_iff_eq_take.mp (List.takeWhile_prefix p), List.drop_eq_getElem_cons lt, hd] at split
  rw [← split] at h
  rcases List.mem_append.mp h with h | h
  · exact .inl h
  · exact .inr (List.mem_cons.mp h)

theorem bracket_mem_of_unescapeFrom (h : unescapeFrom size skip s = .ok t)
    (bracket : '<' ∈ s.drop skip) : '<' ∈ t := by
  induction s generalizing skip t with
  | nil => simp at bracket
  | cons c s ih =>
      cases skip with
      | succ skip => exact ih h bracket
      | zero =>
          rw [unescapeFrom] at h
          split at h
          · next amp =>
              have inside : '<' ∈ s := by
                rcases List.mem_cons.mp bracket with heq | hs
                · rw [← heq] at amp
                  cases amp
                · exact hs
              simp only at h
              split at h
              · next closed =>
                obtain ⟨d, resolved, h⟩ := bind_eq_ok_iff.mp h
                obtain ⟨rest, hrest, h⟩ := bind_eq_ok_iff.mp h
                cases h
                rcases mem_split_at inside closed with hmem | heq | hmem
                · exact absurd resolved (resolve_bracket hmem)
                · cases heq
                · exact List.mem_cons_of_mem _ (ih hrest hmem)
              · cases h
          · obtain ⟨rest, hrest, h⟩ := bind_eq_ok_iff.mp h
            cases h
            rcases List.mem_cons.mp bracket with heq | hs
            · rw [← heq]
              exact List.mem_cons_self
            · exact List.mem_cons_of_mem _ (ih hrest hs)

/-- A bracket in a value is one in the text that the value stands for. -/
theorem bracket_mem_of_unescape (h : unescape s = .ok t) (bracket : '<' ∈ s) : '<' ∈ t :=
  bracket_mem_of_unescapeFrom h bracket

end PatchTrail.Markup
