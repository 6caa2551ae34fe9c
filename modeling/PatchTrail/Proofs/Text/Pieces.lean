import PatchTrail.Text.Blank
import PatchTrail.Text.Encoding
import PatchTrail.Text.Numeral
import Mathlib.Data.List.TakeWhile

/-!
# Taking apart what was put together

A text that was put together with separators between its parts is taken apart into these parts, as
long as the parts before a separator do not contain it: cut at its first occurrence
(`cut?_append_cons`, `cut?_append_pair`) or split into lines (`split_unlines`). A numeral that was
written is read as the number (`toNat?_ofNat`), and it contains no separators, because all of its
characters are digits. Blanks around a text without blanks are taken off again (`trim_eq_of_solid`).
A part of a text is found again among the bytes of the whole (`extract_encode`).
-/

namespace PatchTrail.Text

/-! ## Numerals -/

theorem digitValue?_digitChar {d : Nat} (h : d < 16) : digitValue? d.digitChar = some d := by
  have all : ∀ d < 16, digitValue? d.digitChar = some d := by decide
  exact all d h

theorem readDigits_append (base : Nat) (s t : Text) (value : Nat) :
    readDigits base (s ++ t) value = (readDigits base s value).bind (readDigits base t) := by
  induction s generalizing value with
  | nil => rfl
  | cons c s ih =>
      rw [List.cons_append, readDigits, readDigits]
      cases digitValue? c with
      | none => rfl
      | some d =>
          simp only
          split
          · exact ih _
          · rfl

variable {base : Nat}

theorem readDigits_toDigits (two : 1 < base) (sixteen : base ≤ 16) (n : Nat) :
    readDigits base (Nat.toDigits base n) 0 = some n := by
  induction n using Nat.strongRecOn with
  | _ n ih =>
      have single : ∀ d < base, ∀ v, readDigits base [d.digitChar] v = some (v * base + d) := by
        intro d hd v
        rw [readDigits, digitValue?_digitChar (Nat.lt_of_lt_of_le hd sixteen)]
        simp only
        rw [if_pos hd, readDigits]
      rw [Nat.toDigits_eq_if two]
      split
      · next h => rw [single n h, Nat.zero_mul, Nat.zero_add]
      · next h =>
          have front : readDigits base (Nat.toDigits base (n / base)) 0 = some (n / base) :=
            ih (n / base) (Nat.div_lt_self (by omega) two)
          rw [readDigits_append, front, Option.bind_some,
            single _ (Nat.mod_lt _ (by omega)), Nat.div_add_mod']

/-- The digits of a number are digits of the base. -/
theorem mem_toDigits (two : 1 < base) {n : Nat} {c : Char} (h : c ∈ Nat.toDigits base n) :
    ∃ d < base, c = d.digitChar := by
  induction n using Nat.strongRecOn with
  | _ n ih =>
      rw [Nat.toDigits_eq_if two] at h
      split at h
      · next hn => exact ⟨n, hn, List.mem_singleton.mp h⟩
      · rcases List.mem_append.mp h with h | h
        · exact ih (n / base) (Nat.div_lt_self (by omega) two) h
        · exact ⟨_, Nat.mod_lt _ (by omega), List.mem_singleton.mp h⟩

/-- A numeral that was written in a base is read as the number. -/
theorem toNat?_toDigits (two : 1 < base) (sixteen : base ≤ 16) (n : Nat) :
    toNat? base (Nat.toDigits base n) = some n := by
  rw [toNat?, if_neg Nat.toDigits_ne_nil, readDigits_toDigits two sixteen]

/-- A numeral that was written is read as the number. -/
theorem toNat?_ofNat (n : Nat) : toNat? 10 (ofNat n) = some n :=
  toNat?_toDigits (by decide) (by decide) n

theorem not_mem_ofNat {c : Char} (h : c.isDigit = false) (n : Nat) : c ∉ ofNat n := by
  intro hc
  have := Nat.isDigit_of_mem_toDigits (by omega) (by omega) hc
  rw [h] at this
  cases this

/-! ## Characters of two texts -/

section

variable {c : Char} {s t x y : Text}

/-- A character of two texts is one of the second if it does not come in the first. -/
theorem mem_back_of_append (h : c ∉ s) (whole : s ++ t = x ++ c :: y) :
    ∃ x', x = s ++ x' ∧ t = x' ++ c :: y := by
  rcases List.append_eq_append_iff.mp whole with ⟨w, rfl, rfl⟩ | ⟨w, rfl, hw⟩
  · exact ⟨w, rfl, rfl⟩
  · cases w with
    | nil => exact ⟨[], by simp, hw.symm⟩
    | cons d w =>
        obtain ⟨rfl, -⟩ := List.cons.inj hw
        exact absurd (List.mem_append_right _ List.mem_cons_self) h

/-- A character of two texts is one of the first if it does not come in the second. -/
theorem mem_front_of_append (h : c ∉ t) (whole : s ++ t = x ++ c :: y) :
    ∃ y', s = x ++ c :: y' ∧ y = y' ++ t := by
  rcases List.append_eq_append_iff.mp whole with ⟨w, rfl, rfl⟩ | ⟨w, rfl, hw⟩
  · exact absurd (List.mem_append_right _ List.mem_cons_self) h
  · cases w with
    | nil =>
        obtain rfl : c :: y = t := hw
        exact absurd List.mem_cons_self h
    | cons d w =>
        obtain ⟨rfl, rfl⟩ := List.cons.inj hw
        exact ⟨w, rfl, rfl⟩

end

/-! ## Cutting at the first occurrence -/

theorem dropPrefix?_append (s t : Text) : dropPrefix? s (s ++ t) = some t :=
  dropPrefix?_eq_some.mpr rfl

/-- A text is cut at a character that the part before does not contain. -/
theorem cut?_append_cons {c : Char} {s : Text} (h : c ∉ s) (t : Text) :
    cut? [c] (s ++ c :: t) = some (s, t) := by
  induction s with
  | nil =>
      rw [List.nil_append, cut?, dropPrefix?, if_pos rfl, dropPrefix?]
  | cons d s ih =>
      obtain ⟨hd, hs⟩ := List.ne_and_not_mem_of_not_mem_cons h
      rw [List.cons_append, cut?, dropPrefix?, if_neg hd, ih hs]
      rfl

theorem cut?_eq_none {c : Char} {t : Text} (h : c ∉ t) : cut? [c] t = none := by
  induction t with
  | nil => rfl
  | cons d t ih =>
      obtain ⟨hd, ht⟩ := List.ne_and_not_mem_of_not_mem_cons h
      rw [cut?, dropPrefix?, if_neg hd, ih ht]
      rfl

theorem contains_iff_mem {c : Char} {t : Text} : t.contains [c] = true ↔ c ∈ t := by
  unfold contains
  constructor
  · intro h
    obtain ⟨⟨before, behind⟩, hcut⟩ := Option.isSome_iff_exists.mp h
    rw [eq_of_cut? hcut]
    exact List.mem_append_left _ List.mem_append_cons_self
  · intro h
    obtain ⟨before, behind, rfl, hbefore⟩ := List.eq_append_cons_of_mem h
    rw [cut?_append_cons hbefore]
    rfl

/-- A text is cut at a separator whose second character is not its first, and is not in the part
before. -/
theorem cut?_append_pair {a b : Char} {more s : Text} (hab : b ≠ a) (h : b ∉ s) (t : Text) :
    cut? (a :: b :: more) (s ++ (a :: b :: more ++ t)) = some (s, t) := by
  induction s with
  | nil =>
      rw [List.nil_append, List.cons_append, cut?, ← List.cons_append, dropPrefix?_append]
  | cons d s ih =>
      obtain ⟨hd, hs⟩ := List.ne_and_not_mem_of_not_mem_cons h
      have nowhere : dropPrefix? (a :: b :: more) (d :: (s ++ (a :: b :: more ++ t))) = none := by
        rw [dropPrefix?]
        split
        · cases s with
          | nil => rw [List.nil_append, List.cons_append, dropPrefix?, if_neg hab]
          | cons e s =>
              have he := List.ne_of_not_mem_cons hs
              rw [List.cons_append, dropPrefix?, if_neg he]
        · rfl
      rw [List.cons_append, cut?, nowhere, ih hs]
      rfl

theorem cutLast?_eq_none {sought t : Text} {c : Char} (hsought : c ∈ sought) (h : c ∉ t) :
    cutLast? sought t = none := by
  cases hcut : cutLast? sought t with
  | none => rfl
  | some p =>
      obtain ⟨before, after⟩ := p
      refine absurd ?_ h
      rw [eq_of_cutLast? hcut]
      exact List.mem_append_left _ (List.mem_append_right _ hsought)

/-- A text is cut at the last separator whose second character is not its first, if this character
is nowhere behind it. -/
theorem cutLast?_append_pair {a b : Char} {more t : Text} (hab : a ≠ b) (h : b ∉ more ++ t)
    (s : Text) : cutLast? (a :: b :: more) (s ++ (a :: b :: more ++ t)) = some (s, t) := by
  induction s with
  | nil =>
      have behind : cutLast? (a :: b :: more) (b :: (more ++ t)) = none := by
        rw [cutLast?, cutLast?_eq_none (List.mem_cons_of_mem a List.mem_cons_self) h]
        simp only
        rw [dropPrefix?, if_neg hab]
        rfl
      rw [List.nil_append, List.cons_append, List.cons_append, cutLast?, behind]
      simp only
      rw [← List.cons_append, ← List.cons_append, dropPrefix?_append]
      rfl
  | cons c s ih =>
      rw [List.cons_append, cutLast?, ih]

/-! ## Lines -/

/-- Lines with a line feed behind each. -/
def unlines (ls : List Text) : Text := ls.flatMap fun l => l ++ ['\n']

@[simp] theorem unlines_append (ls ls' : List Text) :
    unlines (ls ++ ls') = unlines ls ++ unlines ls' := List.flatMap_append

@[simp] theorem unlines_cons (l : Text) (ls : List Text) :
    unlines (l :: ls) = l ++ '\n' :: unlines ls := by
  unfold unlines
  rw [List.flatMap_cons, List.append_assoc]
  rfl

@[simp] theorem unlines_nil : unlines [] = [] := rfl

theorem splitBy_append {p : Char → Bool} {c : Char} (hc : p c = true) (s t : Text) :
    splitBy p (s ++ c :: t) = splitBy p s ++ splitBy p t := by
  induction s with
  | nil => simp [splitBy, hc]
  | cons d s ih =>
      rw [List.cons_append, splitBy, splitBy, ih]
      split
      · rfl
      · cases hs : splitBy p s with
        | nil => exact absurd hs (splitBy_ne_nil _ s)
        | cons piece more => rfl

theorem splitBy_eq_singleton {p : Char → Bool} {t : Text} (h : ∀ c ∈ t, p c = false) :
    splitBy p t = [t] := by
  induction t with
  | nil => rfl
  | cons d t ih =>
      have hd := h d List.mem_cons_self
      rw [splitBy, hd, ih fun c hc => h c (List.mem_cons_of_mem _ hc)]
      rfl

theorem split_append (c : Char) (s t : Text) :
    split c (s ++ c :: t) = split c s ++ split c t :=
  splitBy_append (p := (· == c)) (beq_self_eq_true c) s t

theorem split_of_not_mem {c : Char} {t : Text} (h : c ∉ t) : split c t = [t] :=
  splitBy_eq_singleton fun d hd => by
    rw [beq_eq_false_iff_ne]
    rintro rfl
    exact h hd

theorem not_mem_of_mem_split {c : Char} {t piece : Text} (h : piece ∈ split c t) : c ∉ piece :=
  fun hc => by simpa using not_of_mem_splitBy h c hc

theorem split_append_cons {c : Char} {l : Text} (h : c ∉ l) (t : Text) :
    split c (l ++ c :: t) = l :: split c t := by
  rw [split_append, split_of_not_mem h]
  rfl

/-- Text made of lines is split into these lines. -/
theorem split_unlines {ls : List Text} (h : ∀ l ∈ ls, '\n' ∉ l) (t : Text) :
    split '\n' (unlines ls ++ t) = ls ++ split '\n' t := by
  induction ls with
  | nil => rfl
  | cons l ls ih =>
      rw [unlines_cons, List.append_assoc, List.cons_append,
        split_append_cons (h l List.mem_cons_self),
        ih fun l' hl' => h l' (List.mem_cons_of_mem _ hl')]
      rfl

/-! ## Lines with their line ends -/

/-- A line with a line feed at its end and nowhere else. -/
def Terminated (line : Text) : Prop := ∃ body, '\n' ∉ body ∧ line = body ++ ['\n']

theorem lines_append_feed {body : Text} (h : '\n' ∉ body) (t : Text) :
    lines (body ++ '\n' :: t) = (body ++ ['\n']) :: lines t := by
  induction body with
  | nil =>
      rw [List.nil_append, lines, if_pos rfl]
      rfl
  | cons c body ih =>
      obtain ⟨hc, hbody⟩ := List.ne_and_not_mem_of_not_mem_cons h
      rw [List.cons_append, lines, if_neg (Ne.symm hc), ih hbody]
      rfl

/-- Lines with their line ends are the first lines of a text that begins with them. -/
theorem lines_flatten_append {ls : List Text} (h : ∀ line ∈ ls, Terminated line) (t : Text) :
    lines (ls.flatten ++ t) = ls ++ lines t := by
  induction ls with
  | nil => rfl
  | cons line ls ih =>
      obtain ⟨body, hbody, rfl⟩ := h line List.mem_cons_self
      rw [List.flatten_cons, List.append_assoc, List.append_assoc, List.singleton_append,
        lines_append_feed hbody, ih fun line' hline' => h line' (List.mem_cons_of_mem _ hline')]
      rfl

/-- Text made of lines with their line ends is cut into these lines. -/
theorem lines_flatten {ls : List Text} (h : ∀ line ∈ ls, Terminated line) :
    lines ls.flatten = ls := by
  have whole := lines_flatten_append h []
  rwa [List.append_nil, lines, List.append_nil] at whole

/-- A text with a line end at its end consists of lines with their line ends. -/
theorem exists_lines_of_feed (t : Text) :
    ∃ ls : List Text, (∀ line ∈ ls, Terminated line) ∧ ls.flatten = t ++ ['\n'] := by
  induction t with
  | nil => exact ⟨[['\n']], by simpa using ⟨[], List.not_mem_nil, rfl⟩, rfl⟩
  | cons c t ih =>
      obtain ⟨ls, hls, heq⟩ := ih
      by_cases hc : c = '\n'
      · have first : Terminated ['\n'] := ⟨[], List.not_mem_nil, rfl⟩
        exact ⟨['\n'] :: ls, List.forall_mem_cons.mpr ⟨first, hls⟩, by simp [hc, heq]⟩
      · obtain _ | ⟨line, more⟩ := ls
        · simp at heq
        · obtain ⟨⟨body, hbody, rfl⟩, hmore⟩ := List.forall_mem_cons.mp hls
          have first : Terminated (c :: (body ++ ['\n'])) :=
            ⟨c :: body, by simp [Ne.symm hc, hbody], rfl⟩
          exact ⟨_ :: more, List.forall_mem_cons.mpr ⟨first, hmore⟩, by simpa using heq⟩

/-- Every line of a text but the last has a line end. -/
theorem terminated_of_lines {t : Text} {k : Nat} {line : Text} (h : (lines t)[k]? = some line)
    (hk : k + 1 < (lines t).length) : Terminated line := by
  induction t generalizing k line with
  | nil => cases hk
  | cons c t ih =>
      rw [lines] at h hk
      by_cases hc : c = '\n'
      · rw [if_pos hc] at h hk
        cases k with
        | zero =>
            cases h
            exact ⟨[], List.not_mem_nil, by rw [hc]; rfl⟩
        | succ k => exact ih h (by rw [List.length_cons] at hk; omega)
      · rw [if_neg hc] at h hk
        cases hl : lines t with
        | nil =>
            rw [hl] at hk
            cases hk with
            | step hk => cases hk
        | cons first more =>
            rw [hl] at h hk ih
            cases k with
            | zero =>
                cases h
                obtain ⟨body, hbody, rfl⟩ := ih (k := 0) rfl hk
                refine ⟨c :: body, fun hmem => ?_, rfl⟩
                exact (List.mem_cons.mp hmem).elim (fun h => hc h.symm) hbody
            | succ k => exact ih (k := k + 1) h hk

/-- The lines of a text in front of others have a line end. -/
theorem terminated_of_append {ls ls' : List Text} (h : lines (ls ++ ls').flatten = ls ++ ls')
    (more : ls' ≠ []) : ∀ line ∈ ls, Terminated line := by
  intro line hline
  obtain ⟨k, hk, rfl⟩ := List.mem_iff_getElem.mp hline
  have := List.length_pos_iff.mpr more
  refine terminated_of_lines (k := k) (t := (ls ++ ls').flatten) ?_ ?_
  · rw [h, List.getElem?_append_left hk, List.getElem?_eq_getElem]
  · rw [h, List.length_append]
    omega

/-- The lines of a text in front of others stay what they are, whatever stands in the place of the
others. -/
theorem lines_append_of_lines {ls ls' : List Text} (h : lines (ls ++ ls').flatten = ls ++ ls')
    {t : Text} (ht : ls' = [] → t = []) : lines (ls.flatten ++ t) = ls ++ lines t := by
  by_cases hls' : ls' = []
  · rw [ht hls']
    simpa [hls', lines] using h
  · exact lines_flatten_append (terminated_of_append h hls') t

theorem lines_of_append {ls ls' : List Text} (h : lines (ls ++ ls').flatten = ls ++ ls') :
    lines ls'.flatten = ls' := by
  have rest := lines_append_of_lines (t := ls'.flatten) h fun hls' => by rw [hls']; rfl
  rw [List.flatten_append] at h
  exact List.append_cancel_left (rest.symm.trans h)

/-- A piece without a line feed belongs to the line behind it. -/
theorem lines_append_piece {piece t line : Text} {more : List Text} (h : '\n' ∉ piece)
    (ht : lines t = line :: more) : lines (piece ++ t) = (piece ++ line) :: more := by
  induction piece with
  | nil => exact ht
  | cons c piece ih =>
      obtain ⟨hc, hpiece⟩ := List.ne_and_not_mem_of_not_mem_cons h
      rw [List.cons_append, lines, if_neg (Ne.symm hc), ih hpiece]
      rfl

/-! ## The ends of a text -/

section

variable {s t : Text} {p : Char → Bool}

/-- What stands in front of the characters with the property is left when they are taken off. -/
theorem dropEndWhile_append (last : ∀ c ∈ s.getLast?, p c = false) (h : ∀ c ∈ t, p c = true) :
    dropEndWhile p (s ++ t) = s := by
  have begins : s.reverse.dropWhile p = s.reverse := by
    rw [List.dropWhile_eq_self_iff]
    intro full hp
    have hlast : s.reverse[0] ∈ s.getLast? := by
      rw [← List.head?_reverse, List.head?_eq_getElem?, List.getElem?_eq_getElem full]
      rfl
    rw [last _ hlast] at hp
    cases hp
  unfold dropEndWhile
  rw [List.reverse_append, List.dropWhile_append_of_pos (by simpa using h), begins,
    List.reverse_reverse]

/-- Behind what is left there are only characters with the property. -/
theorem exists_dropEndWhile (p : Char → Bool) (t : Text) : ∃ rest, t = dropEndWhile p t ++ rest ∧
    (∀ c ∈ rest, p c = true) ∧ ∀ c ∈ (dropEndWhile p t).getLast?, p c = false := by
  refine ⟨(t.reverse.takeWhile p).reverse, ?_, fun c hc => ?_, fun c hc => ?_⟩
  · unfold dropEndWhile
    rw [← List.reverse_append, List.takeWhile_append_dropWhile, List.reverse_reverse]
  · exact List.mem_takeWhile_imp (List.mem_reverse.mp hc)
  · unfold dropEndWhile at hc
    rw [List.getLast?_reverse] at hc
    have head := List.head?_dropWhile_not p t.reverse
    rw [Option.mem_def.mp hc] at head
    simpa using head

/-- Trimming takes blanks off both ends of a text. -/
theorem exists_trim (t : Text) :
    ∃ before after : Text, t = before ++ t.trim ++ after ∧ before.isBlank ∧ after.isBlank := by
  obtain ⟨after, split, blank, -⟩ := exists_dropEndWhile PatchTrail.isBlank t.trimStart
  refine ⟨t.takeWhile PatchTrail.isBlank, after, ?_, ?_, List.all_eq_true.mpr blank⟩
  · rw [List.append_assoc]
    unfold trim trimEnd
    rw [← split]
    exact List.takeWhile_append_dropWhile.symm
  · exact List.all_eq_true.mpr fun c => List.mem_takeWhile_imp

/-- A text without blanks is left of a text that consists of it and of blanks around it. -/
theorem trim_eq_of_solid {before after : Text} (hbefore : before.isBlank) (hafter : after.isBlank)
    (solid : ∀ c ∈ s, PatchTrail.isBlank c = false) : (before ++ s ++ after).trim = s := by
  have last : ∀ c ∈ s.getLast?, PatchTrail.isBlank c = false :=
    fun c hc => solid c (List.mem_of_getLast? hc)
  unfold trim trimEnd trimStart
  rw [List.append_assoc, List.dropWhile_append_of_pos (List.all_eq_true.mp hbefore)]
  cases s with
  | nil =>
      have empty : after.dropWhile PatchTrail.isBlank = [] :=
        List.dropWhile_eq_nil_iff.mpr (List.all_eq_true.mp hafter)
      rw [List.nil_append, empty]
      rfl
  | cons c s =>
      rw [List.cons_append,
        List.dropWhile_cons_of_neg (by rw [solid c List.mem_cons_self]; decide), ← List.cons_append]
      exact dropEndWhile_append last (List.all_eq_true.mp hafter)

end

/-! ## Bytes -/

theorem encode_append (s t : Text) : encode (s ++ t) = encode s ++ encode t := by
  unfold encode
  rw [String.toByteArray_ofList, String.toByteArray_ofList, String.toByteArray_ofList,
    List.utf8Encode_append]

/-- The size of a text is the number of its bytes. -/
theorem size_encode (t : Text) : (encode t).size = size t := by
  induction t with
  | nil => rfl
  | cons c t ih =>
      have single : (encode [c]).size = c.utf8Size := by
        unfold encode
        rw [String.toByteArray_ofList, List.utf8Encode_singleton, List.size_toByteArray,
          String.length_utf8EncodeChar]
      change (encode ([c] ++ t)).size = _
      rw [encode_append, ByteArray.size_append, single, ih]
      rfl

/-- The bytes of a part of a text are found by the sizes of what stands before them. -/
theorem extract_encode (before t after : Text) :
    (encode (before ++ t ++ after)).extract (size before) (size (before ++ t)) = encode t := by
  have start : size before = (encode before).size + 0 := (size_encode before).symm
  have stop : size (before ++ t) = (encode before).size + (encode t).size := by
    rw [size_append, size_encode, size_encode]
  rw [encode_append, encode_append, ByteArray.append_assoc, start, stop,
    ByteArray.extract_append_size_add, ByteArray.extract_append_eq_left rfl]

end PatchTrail.Text
