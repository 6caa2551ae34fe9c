import PatchTrail.Proofs.Text.Pieces
import PatchTrail.Template.Token.Reader

/-!
# The tokens of a template part by part

What stands in a template can be read part by part, with what follows it in view, so that no name
and no number is cut short (`Scans`). Plain text in front of a block is one token, whatever else it
holds (`scans_start`), and in a block every name, sign and numeral is read as itself, with any
blanks in front of it (`scans_name`, `scans_sign`, `scans_ofNat`, `scans_block`). A reader of tokens
takes no more steps than there are characters, so that it comes to the end of every template that is
read in this way (`tokens_of_scans`).
-/

namespace PatchTrail.Template

/-! ## Plain text -/

/-- A text in which no block begins, and none can begin with what comes behind it. -/
structure Plain (t : Text) : Prop where
  no_block : ∀ c ∈ ['{', '%', '#'], ¬ ['{', c] <:+: t
  no_brace : t.getLast? ≠ some '{'

variable {s t inner after : Text} {kind : BlockKind} {c : Char}

theorem ofChar?_isSome_iff : (BlockKind.ofChar? c).isSome ↔ c ∈ ['{', '%', '#'] := by
  unfold BlockKind.ofChar?
  split_ifs <;> simp_all

theorem Plain.tail (h : Plain (c :: t)) : Plain t where
  no_block d hd occurs := h.no_block d hd (occurs.trans (List.suffix_cons c t).isInfix)
  no_brace last := h.no_brace (by rw [List.getLast?_cons, last]; rfl)

/-- No block begins with a character of plain text. -/
theorem cutBlock?_cons (h : Plain (c :: t)) (rest : Text) :
    cutBlock? (c :: (t ++ rest)) =
      (cutBlock? (t ++ rest)).map fun (before, kind, after) => (c :: before, kind, after) := by
  by_cases hc : c = '{'
  · subst hc
    cases t with
    | nil => exact absurd rfl h.no_brace
    | cons d t =>
        have opens : BlockKind.ofChar? d = none := by
          by_contra opens
          exact h.no_block d (ofChar?_isSome_iff.1 (Option.isSome_iff_ne_none.2 opens))
            (List.prefix_append _ t).isInfix
        rw [List.cons_append, cutBlock?, opens]
  · rw [cutBlock?]
    intro _ _ brace
    exact absurd brace hc

/-- Plain text ends where the first block begins. -/
theorem cutBlock?_append (h : Plain t) (hc : BlockKind.ofChar? c = some kind) (rest : Text) :
    cutBlock? (t ++ '{' :: c :: rest) = some (t, kind, rest) := by
  induction t with
  | nil => rw [List.nil_append, cutBlock?, hc]
  | cons d t ih =>
      rw [List.cons_append, cutBlock?_cons h, ih h.tail]
      rfl

theorem cutBlock?_eq_none (h : Plain t) : cutBlock? t = none := by
  induction t with
  | nil => rfl
  | cons d t ih =>
      have step := cutBlock?_cons h []
      rw [List.append_nil, ih h.tail] at step
      exact step

/-- Where a block begins, one is found. -/
theorem cutBlock?_isSome (hc : (BlockKind.ofChar? c).isSome) (before after : Text) :
    (cutBlock? (before ++ '{' :: c :: after)).isSome := by
  induction before with
  | nil =>
      obtain ⟨kind, hkind⟩ := Option.isSome_iff_exists.1 hc
      rw [List.nil_append, cutBlock?, hkind]
      rfl
  | cons d before ih =>
      rw [List.cons_append]
      unfold cutBlock?
      split
      · next e rest same =>
          rw [(List.cons.inj same).2] at ih
          split
          · rfl
          · rwa [Option.isSome_map]
      · next same =>
          rw [(List.cons.inj same).2] at ih
          rwa [Option.isSome_map]
      · next same => cases same

theorem plain_iff : Plain t ↔ cutBlock? t = none ∧ t.getLast? ≠ some '{' := by
  constructor
  · exact fun h => ⟨cutBlock?_eq_none h, h.no_brace⟩
  · rintro ⟨none, last⟩
    refine ⟨fun c hc occurs => ?_, last⟩
    obtain ⟨before, after, rfl⟩ := occurs
    have found := cutBlock?_isSome (ofChar?_isSome_iff.2 hc) before after
    rw [List.append_assoc] at none
    rw [show cutBlock? (before ++ '{' :: c :: after) = Option.none from none] at found
    cases found

instance : DecidablePred Plain := fun _ => decidable_of_iff _ plain_iff.symm

/-! ## Reading in parts -/

@[simp] theorem Tokens.prepend_prepend (front more : List Placed) (ts : Tokens) :
    (ts.prepend more).prepend front = ts.prepend (front ++ more) := by
  simp [Tokens.prepend]

/-- From a place in a text some tokens are read up to another place, behind which a text is left.
No more steps are taken than there are characters. -/
def Scans (p : Place) (t : Text) (ts : List Token) (p' : Place) (t' : Text) : Prop :=
  ∃ k, t'.length + k ≤ t.length ∧ ∀ bound line, ∃ placed line',
    placed.map Placed.token = ts ∧
      readTokens (bound + k) p line t = (readTokens bound p' line' t').prepend placed

theorem Scans.refl (p : Place) (t : Text) : Scans p t [] p t :=
  ⟨0, le_rfl, fun _ line => ⟨[], line, rfl, rfl⟩⟩

theorem Scans.trans {p p' p'' : Place} {t t' t'' : Text} {ts us : List Token}
    (first : Scans p t ts p' t') (second : Scans p' t' us p'' t'') :
    Scans p t (ts ++ us) p'' t'' := by
  obtain ⟨k, shorter, first⟩ := first
  obtain ⟨k', shorter', second⟩ := second
  refine ⟨k' + k, by omega, fun bound line => ?_⟩
  obtain ⟨placed, line', rfl, here⟩ := first (bound + k') line
  obtain ⟨placed', line'', rfl, there⟩ := second bound line'
  exact ⟨placed ++ placed', line'', List.map_append,
    by rw [← Nat.add_assoc, here, there, Tokens.prepend_prepend]⟩

/-- The token of a text outside of blocks, if there is one. -/
def textTokens (t : Text) : List Token := if t = [] then [] else [.data t]

theorem map_token_dataToken (t : Text) (line : Nat) :
    (dataToken t line).map Placed.token = textTokens t := by
  unfold dataToken textTokens
  split <;> rfl

/-- A text that is read up to plain text at its end. -/
theorem tokens_of_scans {ts : List Token} (h : Scans .outside s ts .outside t) (plain : Plain t) :
    ∃ placed, tokens s = ⟨placed, none⟩ ∧ placed.map Placed.token = ts ++ textTokens t := by
  obtain ⟨k, shorter, h⟩ := h
  -- The steps up to `t` leave at least one, in which the plain text is read.
  obtain ⟨bound, enough⟩ : ∃ bound, 2 * s.length + 2 = bound + 1 + k :=
    ⟨2 * s.length + 1 - k, by omega⟩
  obtain ⟨placed, line, rfl, read⟩ := h (bound + 1) 1
  refine ⟨placed ++ dataToken t line, ?_, by rw [List.map_append, map_token_dataToken]⟩
  unfold tokens
  rw [enough, read]
  cases t with
  | nil => rfl
  | cons c t =>
      rw [readTokens, cutBlock?_eq_none plain]
      · rfl
      · exact List.cons_ne_nil c t

/-! ## Blocks -/

/-- The token at the beginning of a block. -/
def startToken : BlockKind → Token
  | .expression => .startExpression
  | _ => .startStatement

/-- The token at the end of a block. -/
def endToken : BlockKind → Token
  | .expression => .endExpression
  | _ => .endStatement

/-- Plain text is read up to a block that is no comment and does not begin with the sign of an edge
or the word `raw`. -/
theorem scans_start (kind : BlockKind) (plain : Plain t) (hc : BlockKind.ofChar? c = some kind)
    (noComment : kind ≠ .comment) (noEdge : dropEdge inner = (false, inner))
    (noRaw : dropWord? "raw" inner = none) :
    Scans .outside (t ++ '{' :: c :: inner) (textTokens t ++ [startToken kind])
      (.inside kind 0 false) inner := by
  refine ⟨1, by simp only [List.length_append, List.length_cons]; omega, fun bound line => ?_⟩
  refine ⟨dataToken t line ++ [⟨startToken kind, line + feeds t⟩], line + feeds t, ?_, ?_⟩
  · rw [List.map_append, map_token_dataToken]
    rfl
  · rw [readTokens, cutBlock?_append plain hc]
    · simp only [noEdge]
      cases kind with
      | expression => rfl
      | statement =>
          simp only [noRaw]
          rfl
      | comment => exact absurd rfl noComment
    · exact List.append_ne_nil_of_right_ne_nil t (List.cons_ne_nil _ _)

/-- The end of a block is read, with a blank in front of it. -/
theorem scans_end (kind : BlockKind) (isBehindDot : Bool) (after : Text) :
    Scans (.inside kind 0 isBehindDot) (' ' :: (kind.ending ++ after)) [endToken kind] .outside
      after := by
  refine ⟨1, by simp only [List.length_cons, List.length_append]; omega, fun bound line => ?_⟩
  refine ⟨[⟨endToken kind, lineAfter line (' ' :: (kind.ending ++ after)) (kind.ending ++ after)⟩],
    lineAfter line (' ' :: (kind.ending ++ after)) after, rfl, ?_⟩
  cases kind <;> rfl

/-- Where a reader stands behind a token in a block. -/
def Token.behind (kind : BlockKind) (nesting : Int) : Token → Place
  | .sign s => .inside kind (nesting + s.nesting) (s == .dot)
  | _ => .inside kind nesting false

theorem dropPrefix?_cons_eq_none {p : Text} {d : Char} (head : p.head? = some d) (h : d ≠ c) :
    Text.dropPrefix? p (c :: t) = none := by
  cases p with
  | nil => cases head
  | cons e p =>
      cases head
      exact if_neg h

/-- The signs that the end of a block can begin with. -/
def beginsEnding (c : Char) : Bool := ['-', '+', '}', '%', '#'].contains c

theorem dropEnding?_eq_none (hc : beginsEnding c = false) : dropEnding? kind (c :: t) = none := by
  have edge : dropEdge (c :: t) = (false, c :: t) := by
    unfold dropEdge
    split
    · next same => cases same; cases hc
    · next same => cases same; cases hc
    · rfl
  have first : ∃ d, kind.ending.head? = some d ∧ beginsEnding d = true := by
    cases kind
    · exact ⟨'}', rfl, rfl⟩
    · exact ⟨'%', rfl, rfl⟩
    · exact ⟨'#', rfl, rfl⟩
  obtain ⟨d, head, begins⟩ := first
  have other : Text.dropPrefix? kind.ending (c :: t) = none := by
    apply dropPrefix?_cons_eq_none head
    rintro rfl
    exact absurd begins (by rw [hc]; decide)
  unfold dropEnding?
  rw [edge]
  simp only [other, Option.map_none]

/-- A token in a block is read, with blanks in front of it. -/
theorem scans_token {blanks : Text} {nesting : Int} {isBehindDot : Bool} {token : Token}
    (hblanks : ∀ b ∈ blanks, isInnerBlank b = true) (hc : isInnerBlank c = false)
    (notEnd : nesting = 0 → beginsEnding c = false) (shorter : after.length ≤ t.length)
    (read : ∀ line, readToken line isBehindDot (c :: t) = .ok (token, after)) :
    Scans (.inside kind nesting isBehindDot) (blanks ++ c :: t) [token]
      (token.behind kind nesting) after := by
  refine ⟨1, by simp only [List.length_append, List.length_cons]; omega, fun bound line => ?_⟩
  have skip : (blanks ++ c :: t).dropWhile isInnerBlank = c :: t := by
    rw [List.dropWhile_append_of_pos hblanks, List.dropWhile_cons_of_neg (by rw [hc]; decide)]
  refine ⟨[⟨token, lineAfter line (blanks ++ c :: t) (c :: t)⟩],
    lineAfter line (blanks ++ c :: t) after, rfl, ?_⟩
  conv => lhs; unfold readTokens
  rw [skip, if_neg (List.cons_ne_nil c t)]
  -- Inside of parentheses the end of the block is not looked for.
  have inside : (if nesting = 0 then dropEnding? kind (c :: t) else none) = none := by
    split
    · next flat => exact dropEnding?_eq_none (notEnd flat)
    · rfl
  simp only [inside, read]
  cases token <;> rfl

/-! ## Names, signs and numerals -/

theorem spelling_head (s : Sign) : ∃ d, s.spelling.head? = some d ∧ continuesName d = false := by
  cases s <;> exact ⟨_, rfl, by decide⟩

/-- No sign begins like a name or a numeral. -/
theorem readSign?_eq_none (hc : continuesName c = true) : readSign? (c :: t) = none := by
  refine List.findSome?_eq_none_iff.2 fun s _ => ?_
  obtain ⟨d, head, other⟩ := spelling_head s
  rw [dropPrefix?_cons_eq_none head]
  · rfl
  · rintro rfl
    exact absurd hc (by rw [other]; decide)

theorem continuesName_of_beginsName (hc : beginsName c = true) : continuesName c = true := by
  simp only [beginsName, continuesName, Char.isAlphanum, Bool.or_eq_true] at hc ⊢
  exact hc.imp_right .inl

theorem not_isDigit_of_beginsName (hc : beginsName c = true) : c.isDigit = false := by
  unfold beginsName at hc
  rcases Bool.or_eq_true_iff.1 hc with under | letter
  · rw [of_decide_eq_true under]
    decide
  · by_contra digit
    unfold Char.isAlpha Char.isUpper Char.isLower at letter
    unfold Char.isDigit at digit
    simp only [ge_iff_le, UInt32.le_iff_toNat_le, Bool.not_eq_false, Bool.or_eq_true,
      Bool.and_eq_true, decide_eq_true_eq, Char.reduceVal, UInt32.reduceToNat] at letter digit
    omega

theorem continuesName_of_isDigit (hc : c.isDigit = true) : continuesName c = true := by
  simp [continuesName, Char.isAlphanum, hc]

/-- Whether a text is a name. -/
def isName : Text → Bool
  | [] => false
  | c :: w => beginsName c && w.all continuesName

/-- A text that a name in front of it does not go on with. -/
def Separate (t : Text) : Prop := ∀ d ∈ t.head?, continuesName d = false

theorem separate_cons (hc : continuesName c = false) : Separate (c :: t) := by
  rintro d ⟨rfl⟩
  exact hc

/-- A name is read up to a character that cannot stand in it. -/
theorem readToken_name {w : Text} (hw : isName w = true)
    (last : Separate t) (line : Nat) (isBehindDot : Bool) :
    readToken line isBehindDot (w ++ t) = .ok (.name w, t) := by
  cases w with
  | nil => cases hw
  | cons c w =>
      obtain ⟨hc, hw⟩ := Bool.and_eq_true_iff.1 hw
      have hw : ∀ d ∈ w, continuesName d = true := List.all_eq_true.1 hw
      have stop : t.takeWhile continuesName = [] ∧ t.dropWhile continuesName = t := by
        cases t with
        | nil => exact ⟨rfl, rfl⟩
        | cons d t =>
            have ends : ¬ continuesName d = true := by rw [last d rfl]; decide
            exact ⟨List.takeWhile_cons_of_neg ends, List.dropWhile_cons_of_neg ends⟩
      have taken : (w ++ t).takeWhile continuesName = w := by
        rw [List.takeWhile_append_of_pos hw, stop.1, List.append_nil]
      have left : (w ++ t).dropWhile continuesName = t := by
        rw [List.dropWhile_append_of_pos hw, stop.2]
      unfold readToken
      rw [List.cons_append, readSign?_eq_none (continuesName_of_beginsName hc)]
      simp only
      split
      · next quote =>
          cases quote
          exact absurd hc (by decide)
      · next quote =>
          cases quote
          exact absurd hc (by decide)
      · next same =>
          cases same
          rw [not_isDigit_of_beginsName hc, if_neg (by decide), if_pos hc, taken, left]
      · next nothing => cases nothing

theorem next?_digit (hc : c.isDigit = true) (following? : Option Char) :
    NumberPart.next? 10 .digits c following? = some .digits := by
  have dot : c ≠ '.' := by rintro rfl; cases hc
  have mark : c ≠ 'e' ∧ c ≠ 'E' := by constructor <;> rintro rfl <;> cases hc
  simp [NumberPart.next?, dot, mark, hc]

theorem next?_eq_none (hc : continuesName c = false) (dot : c ≠ '.') (following? : Option Char) :
    NumberPart.next? 10 .digits c following? = none := by
  have mark : c ≠ 'e' ∧ c ≠ 'E' ∧ c ≠ '_' := by
    refine ⟨?_, ?_, ?_⟩ <;> rintro rfl <;> cases hc
  have digit : c.isDigit = false := by
    simp only [continuesName, Char.isAlphanum, Bool.or_eq_false_iff] at hc
    exact hc.2.2
  simp [NumberPart.next?, dot, mark, digit]

section Numerals

variable {digits : Text} (hdigits : ∀ d ∈ digits, d.isDigit = true)
  (last : Separate t)

include hdigits last

theorem takeNumber_append (point : t.head? ≠ some '.') :
    takeNumber 10 .digits (digits ++ t) = (digits, t, .digits) := by
  induction digits with
  | nil =>
      cases t with
      | nil => rfl
      | cons d t =>
          have dot : d ≠ '.' := fun same => point (congrArg some same)
          rw [List.nil_append, takeNumber, next?_eq_none (last d rfl) dot]
  | cons d digits ih =>
      rw [List.cons_append, takeNumber, next?_digit (hdigits d List.mem_cons_self)]
      simp only [ih fun d hd => hdigits d (List.mem_cons_of_mem _ hd)]

/-- No mark of another base stands behind a digit. -/
theorem second_of_digits {a b : Char} {rest : Text} (nonempty : digits ≠ [])
    (h : digits ++ t = a :: b :: rest) : b.isDigit = true ∨ continuesName b = false := by
  match digits with
  | [] => exact absurd rfl nonempty
  | [d] =>
      cases h
      exact .inr (last b rfl)
  | d :: e :: digits =>
      cases h
      exact .inl (hdigits b (by simp))

theorem baseOf_append (nonempty : digits ≠ []) : baseOf (digits ++ t) = (10, digits ++ t) := by
  have second := @second_of_digits t digits hdigits last
  unfold baseOf
  split
  case h_7 => rfl
  all_goals exact absurd (second nonempty ‹_›) (by decide)

end Numerals

/-- A numeral is read up to a character that cannot stand in it. -/
theorem readNumber_ofNat {n : Nat} (small : n < Width.bound128)
    (last : Separate t) (point : t.head? ≠ some '.') :
    readNumber false (Text.ofNat n ++ t) = .ok (.integer n, t) := by
  have hdigits : ∀ d ∈ Text.ofNat n, d.isDigit = true := fun d hd =>
    Nat.isDigit_of_mem_toDigits (by decide) (by decide) hd
  have nonempty : Text.ofNat n ≠ [] := by
    intro h
    have := Text.toNat?_ofNat n
    rw [h] at this
    cases this
  have noUnder : '_' ∉ Text.ofNat n := Text.not_mem_ofNat (by decide) n
  have ending : (Text.ofNat n).getLast? ≠ some '_' := fun h => noUnder (List.mem_of_getLast? h)
  have all : (Text.ofNat n).filter (· ≠ '_') = Text.ofNat n :=
    List.filter_eq_self.2 fun d hd => by
      have : d ≠ '_' := by rintro rfl; exact noUnder hd
      simpa using this
  unfold readNumber
  simp only [Bool.false_eq_true, if_false, baseOf_append hdigits last nonempty, decide_true,
    Bool.not_false, Bool.and_self, if_true, takeNumber_append hdigits last point]
  rw [if_neg ending]
  simp only [all, Text.toNat?_ofNat, true_or, if_true, if_pos small]
  rfl

theorem ofNat_eq_cons (n : Nat) : ∃ c digits, Text.ofNat n = c :: digits ∧ c.isDigit = true := by
  cases h : Text.ofNat n with
  | nil =>
      have read := Text.toNat?_ofNat n
      rw [h] at read
      cases read
  | cons c digits =>
      refine ⟨c, digits, rfl, ?_⟩
      exact Nat.isDigit_of_mem_toDigits (by decide) (by decide)
        (show c ∈ Text.ofNat n by rw [h]; exact List.mem_cons_self)

theorem readToken_ofNat {n : Nat} (small : n < Width.bound128) (last : Separate t)
    (point : t.head? ≠ some '.') (line : Nat) :
    readToken line false (Text.ofNat n ++ t) = .ok (.integer n, t) := by
  have number := readNumber_ofNat small last point
  obtain ⟨c, digits, hn, hc⟩ := ofNat_eq_cons n
  rw [hn] at number ⊢
  unfold readToken
  rw [List.cons_append, readSign?_eq_none (continuesName_of_isDigit hc)]
  simp only
  split
  · next quote =>
      cases quote
      cases hc
  · next quote =>
      cases quote
      cases hc
  · next same =>
      cases same
      rw [if_pos hc, ← List.cons_append, number]
      rfl
  · next nothing => cases nothing

/-! ## What stands in a block -/

variable {nesting : Int} {isBehindDot : Bool} {blanks : Text}

theorem isInnerBlank_space : ∀ b ∈ [' '], isInnerBlank b = true :=
  List.forall_mem_singleton.2 rfl

theorem not_isInnerBlank (hc : continuesName c = true) : isInnerBlank c = false := by
  by_contra blank
  simp only [isInnerBlank, Bool.or_eq_true, decide_eq_true_eq, Bool.not_eq_false] at blank
  rcases blank with (((rfl | rfl) | rfl) | rfl) | rfl <;> cases hc

theorem not_beginsEnding (hc : continuesName c = true) : beginsEnding c = false := by
  by_contra begins
  simp only [beginsEnding, List.contains_cons, Bool.or_eq_true, beq_iff_eq,
    Bool.not_eq_false] at begins
  rcases begins with rfl | rfl | rfl | rfl | rfl | none
  case inr.inr.inr.inr.inr => cases none
  all_goals cases hc

theorem scans_name {w : Text} (hblanks : ∀ b ∈ blanks, isInnerBlank b = true)
    (hw : isName w = true) (last : Separate t) :
    Scans (.inside kind nesting isBehindDot) (blanks ++ (w ++ t)) [.name w]
      (.inside kind nesting false) t := by
  have read := readToken_name hw last
  cases w with
  | nil => cases hw
  | cons c w =>
      have hc := continuesName_of_beginsName (Bool.and_eq_true_iff.1 hw).1
      exact scans_token hblanks (not_isInnerBlank hc) (fun _ => not_beginsEnding hc)
        (List.suffix_append w t).length_le (read · isBehindDot)

theorem scans_ofNat {n : Nat} (hblanks : ∀ b ∈ blanks, isInnerBlank b = true)
    (small : n < Width.bound128) (last : Separate t) (point : t.head? ≠ some '.') :
    Scans (.inside kind nesting false) (blanks ++ (Text.ofNat n ++ t)) [.integer n]
      (.inside kind nesting false) t := by
  have read := readToken_ofNat small last point
  obtain ⟨c, digits, hn, hc⟩ := ofNat_eq_cons n
  rw [hn] at read ⊢
  have continues := continuesName_of_isDigit hc
  exact scans_token hblanks (not_isInnerBlank continues) (fun _ => not_beginsEnding continues)
    (List.suffix_append digits t).length_le read

theorem scans_sign {s : Sign} (hc : isInnerBlank c = false) (notEnd : beginsEnding c = false)
    (read : readSign? (c :: t) = some (s, t)) :
    Scans (.inside kind nesting isBehindDot) (c :: t) [.sign s]
      (.inside kind (nesting + s.nesting) (s == .dot)) t := by
  have token : ∀ line, readToken line isBehindDot (c :: t) = .ok (.sign s, t) := fun line => by
    unfold readToken
    rw [read]
  rw [← List.nil_append (c :: t)]
  exact scans_token (by simp) hc (fun _ => notEnd) le_rfl token

/-! ## Blocks of names -/

variable {ws : List Text}

/-- Names in a block are read up to its end. -/
theorem scans_words (hws : ∀ w ∈ ws, isName w = true) (isBehindDot : Bool) (t : Text) :
    Scans (.inside kind 0 isBehindDot) (ws.flatMap (' ' :: ·) ++ ' ' :: (kind.ending ++ t))
      (ws.map .name ++ [endToken kind]) .outside t := by
  induction ws generalizing isBehindDot with
  | nil => exact scans_end kind isBehindDot t
  | cons w ws ih =>
      have separate : Separate (ws.flatMap (' ' :: ·) ++ ' ' :: (kind.ending ++ t)) := by
        cases ws <;> exact separate_cons (by decide)
      have rest := ih (fun w hw => hws w (List.mem_cons_of_mem _ hw)) false
      simpa using (scans_name isInnerBlank_space (hws w List.mem_cons_self) separate).trans rest

/-- A block of names is read, with the plain text in front of it. -/
theorem scans_block (kind : BlockKind) (o : Char) (ws : List Text) (plain : Plain s)
    (ho : BlockKind.ofChar? o = some kind) (noComment : kind ≠ .comment)
    (hws : ∀ w ∈ ws, isName w = true) (t : Text)
    (noRaw : dropWord? "raw" (ws.flatMap (' ' :: ·) ++ ' ' :: (kind.ending ++ t)) = none) :
    Scans .outside (s ++ '{' :: o :: (ws.flatMap (' ' :: ·) ++ ' ' :: (kind.ending ++ t)))
      (textTokens s ++ startToken kind :: (ws.map .name ++ [endToken kind])) .outside t := by
  have noEdge : dropEdge (ws.flatMap (' ' :: ·) ++ ' ' :: (kind.ending ++ t)) =
      (false, ws.flatMap (' ' :: ·) ++ ' ' :: (kind.ending ++ t)) := by
    cases ws <;> rfl
  simpa using (scans_start kind plain ho noComment noEdge noRaw).trans (scans_words hws false t)

end PatchTrail.Template
