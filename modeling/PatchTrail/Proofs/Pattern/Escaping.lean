import PatchTrail.Pattern.Basic

/-!
# Patterns and templates that stand for a text

A text becomes a pattern that stands for itself if every character with a special meaning gets a
backslash in front (`escaped`). Such a pattern is always read, as the characters of the text one
after the other (`read_escaped`), and unless it is too large it is compiled to a meaning that is
nothing but the text (`compile_escaped`).

A text becomes a template that stands for itself if each of its dollar signs is doubled
(`expand_doubled`): a pair of them is read as one, so none is left that could begin a reference. A
template without dollar signs stands for itself anyway (`expand_of_not_mem`).
-/

namespace PatchTrail.Pattern

/-- A character as it is written in a pattern to stand for itself. -/
def escapedChar (c : Char) : Text := if isSpecial c then ['\\', c] else [c]

/-- The source of the pattern that stands for a text: each character that has a special meaning
somewhere gets a backslash in front. -/
def escaped (t : Text) : Text := t.flatMap escapedChar

namespace Reader

variable {α β : Type} {c : Char} {rest : Text} {s s' : ReadState} {a : α}

/-! ## Steps of reading -/

theorem run_bind {m : Reader α} {f : α → Reader β} (h : m s = .ok (a, s')) :
    (m >>= f) s = f a s' := by
  change (m s >>= fun r => f r.1 r.2) = _
  rw [h]
  rfl

theorem run_position : position s = .ok (s.length - s.rest.length, s) := rfl

theorem run_bump : bump s = .ok ((), { s with rest := s.rest.tail }) := rfl

theorem run_peek? : peek? s = .ok (s.rest.head?, s) := rfl

theorem run_skipSpaced (spaced : s.spaced = false) : skipSpaced s = .ok ((), s) := by
  change Except.ok ((), if s.spaced then _ else s) = _
  rw [spaced]
  rfl

/-! ## Characters that stand for themselves -/

/-- A sign behind a backslash is none of the digits and letters that mean something there. -/
theorem plain_of_special (h : isSpecial c = true) :
    c.isDigit = false ∧ c ∉ ['x', 'u', 'U', 'p', 'P'] := by
  have all : ['\\', '.', '+', '*', '?', '(', ')', '|', '[', ']', '{', '}', '^', '$', '#', '&', '-',
      '~'].all (fun c => c.isDigit = false ∧ c ∉ ['x', 'u', 'U', 'p', 'P']) = true := by
    decide
  exact of_decide_eq_true (List.all_eq_true.mp all c (List.contains_iff_mem.mp h))

theorem escape_of_special (h : isSpecial c = true) (hs : s.rest = '\\' :: c :: rest) :
    ∃ span, escape s = .ok (.literal { span, char := c }, { s with rest := rest }) := by
  obtain ⟨digit, letter⟩ := plain_of_special h
  simp only [List.mem_cons, List.not_mem_nil, or_false, not_or] at letter
  have escapable : isEscapable c = true := by simp [isEscapable, h]
  rw [escape, run_bind run_position, run_bind run_bump, run_bind run_peek?, hs]
  simp only [List.tail_cons, List.head?_cons, digit, letter, escapable, if_true, if_false,
    Bool.false_eq_true]
  rw [run_bind run_bump]
  exact ⟨_, rfl⟩

theorem item_of_special (h : isSpecial c = true) (hs : s.rest = '\\' :: c :: rest) :
    ∃ span, item '\\' s = .ok (.literal { span, char := c }, { s with rest := rest }) := by
  rw [item, run_bind run_position, if_pos rfl]
  exact escape_of_special h hs

theorem item_of_not_special (h : isSpecial c = false) (hs : s.rest = c :: rest) :
    ∃ span, item c s = .ok (.literal { span, char := c }, { s with rest := rest }) := by
  have other : c ≠ '\\' ∧ c ≠ '.' ∧ c ≠ '^' ∧ c ≠ '$' := by
    refine ⟨?_, ?_, ?_, ?_⟩ <;> (rintro rfl; cases h)
  obtain ⟨escape, dot, start, stop⟩ := other
  rw [item, run_bind run_position, if_neg escape, run_bind run_bump, if_neg dot, if_neg start,
    if_neg stop, hs]
  exact ⟨_, rfl⟩

/-- An escaped character is read as the character. -/
theorem exists_item_escapedChar (hs : s.rest = escapedChar c ++ rest) :
    ∃ d span, s.rest.head? = some d ∧ d ∉ ['(', ')', '|', '[', '?', '*', '+', '{'] ∧
      item d s = .ok (.literal { span, char := c }, { s with rest := rest }) := by
  cases h : isSpecial c with
  | true =>
    rw [escapedChar, if_pos h] at hs
    obtain ⟨span, read⟩ := item_of_special h hs
    exact ⟨'\\', span, by rw [hs]; rfl, by decide, read⟩
  | false =>
    rw [escapedChar, if_neg (by simp [h])] at hs
    obtain ⟨span, read⟩ := item_of_not_special h hs
    refine ⟨c, span, by rw [hs]; rfl, fun opens => ?_, read⟩
    have all : ['(', ')', '|', '[', '?', '*', '+', '{'].all isSpecial = true := by decide
    exact Bool.noConfusion (h.symm.trans (List.all_eq_true.mp all c opens))

/-- Reading goes on behind an item. -/
theorem body_of_item {bound : Nat} {stack : List Frame} {p : Parts} {d : Char} {i : Item}
    (spaced : s.spaced = false) (next : s.rest.head? = some d)
    (plain : d ∉ ['(', ')', '|', '[', '?', '*', '+', '{']) (read : item d s = .ok (i, s')) :
    body (bound + 1) stack p s =
      body bound stack { p with parts := i.toExpr :: p.parts } s' := by
  simp only [List.mem_cons, List.not_mem_nil, or_false, not_or] at plain
  rw [body, run_bind (run_skipSpaced spaced), run_bind run_peek?, next]
  simp only [plain, if_false]
  rw [run_bind read]

/-- At the end of a pattern without groups and choices its parts are put together. -/
theorem body_of_nil {bound : Nat} {p : Parts} (hs : s.rest = []) (spaced : s.spaced = false) :
    ∃ stop, body bound [] p s = .ok (p.toExpr stop, s) := by
  refine ⟨s.length - s.rest.length, ?_⟩
  cases bound with
  | zero => rfl
  | succ bound =>
    have nothing : s.rest.head? = none := by rw [hs]; rfl
    rw [body, run_bind (run_skipSpaced spaced), run_bind run_peek?, nothing]
    rfl

/-- A pattern that stands for a text is read as the characters of the text. -/
theorem body_escaped (t : Text) {bound : Nat} {p : Parts} (room : t.length ≤ bound)
    (spaced : s.spaced = false) (hs : s.rest = escaped t) :
    ∃ (literals : List Literal) (stop : Nat) (s' : ReadState), literals.map Literal.char = t ∧
      body bound [] p s =
        .ok (Parts.toExpr ⟨p.start, (literals.map Expr.literal).reverse ++ p.parts⟩ stop, s') ∧
      s'.groups = s.groups ∧ s'.names = s.names := by
  induction t generalizing bound p s with
  | nil =>
    obtain ⟨stop, run⟩ := @body_of_nil s bound p hs spaced
    exact ⟨[], stop, s, rfl, run, rfl, rfl⟩
  | cons c t ih =>
    cases bound with
    | zero => exact absurd room (by simp)
    | succ bound =>
      obtain ⟨d, span, next, plain, read⟩ := exists_item_escapedChar hs
      have spaced' : ({ s with rest := escaped t } : ReadState).spaced = false := spaced
      have room' : t.length ≤ bound := Nat.le_of_succ_le_succ room
      obtain ⟨literals, stop, s', chars, run, groups, names⟩ := ih room' spaced' rfl
      refine ⟨{ span, char := c } :: literals, stop, s', by rw [List.map_cons, chars], ?_, groups,
        names⟩
      rw [body_of_item spaced next plain read]
      refine run.trans ?_
      simp [Item.toExpr]

end Reader

theorem length_le_escaped (t : Text) : t.length ≤ (escaped t).length := by
  induction t with
  | nil => exact Nat.zero_le _
  | cons c t ih =>
    have one : 1 ≤ (escapedChar c).length := by
      unfold escapedChar
      split <;> exact Nat.succ_le_succ (Nat.zero_le _)
    rw [escaped, List.flatMap_cons, List.length_append, List.length_cons]
    exact Nat.add_comm 1 t.length ▸ Nat.add_le_add one ih

theorem firstTooDeep?_literals (room : Nat) (literals : List Literal) :
    Expr.tooDeep?.firstTooDeep? room (literals.map Expr.literal) = none := by
  induction literals with
  | nil => rfl
  | cons l literals ih =>
    rw [List.map_cons, Expr.tooDeep?.firstTooDeep?, ih]
    cases room <;> rfl

/-- Characters in sequence are not nested deep. -/
theorem tooDeep?_literals (span : Span) (literals : List Literal) :
    (Expr.ofParts span (literals.map .literal)).tooDeep? maxNesting = none := by
  rcases literals with _ | ⟨l, _ | ⟨l', more⟩⟩
  · rfl
  · rfl
  · exact firstTooDeep?_literals _ (l :: l' :: more)

/-- **A pattern that stands for a text is read as the text**, without groups. -/
theorem read_escaped (t : Text) : ∃ (literals : List Literal) (span : Span),
    literals.map Literal.char = t ∧
      read (escaped t) = .ok ⟨.ofParts span (literals.map .literal), 0, []⟩ := by
  have room : t.length ≤ (escaped t).length + 1 := Nat.le_succ_of_le (length_le_escaped t)
  obtain ⟨literals, stop, s', chars, run, groups, names⟩ :=
    @Reader.body_escaped { rest := escaped t, length := (escaped t).length } t _ ⟨0, []⟩ room rfl
      rfl
  refine ⟨literals, ⟨0, stop⟩, chars, ?_⟩
  have whole : Parts.toExpr ⟨0, (literals.map Expr.literal).reverse ++ []⟩ stop =
      .ofParts ⟨0, stop⟩ (literals.map .literal) := by
    rw [Parts.toExpr, List.append_nil, List.reverse_reverse]
  rw [whole] at run
  rw [read]
  simp only [bind, Except.bind, run, tooDeep?_literals, pure, Except.pure]
  rw [groups, names]
  rfl

/-! ## What it means -/

theorem nodes_literals (literals : List Literal) :
    Expr.node.nodes {} (literals.map Expr.literal) =
      .ok (literals.map fun l => .literal l.char, {}) := by
  induction literals with
  | nil => rfl
  | cons l literals ih =>
    rw [List.map_cons, Expr.node.nodes, Expr.node]
    simp [literalNode, bind, Except.bind, pure, Except.pure, ih]

theorem literals?_chars (t : Text) :
    Node.literal?.literals? (t.map Node.literal) = some t := by
  induction t with
  | nil => rfl
  | cons c t ih =>
    rw [List.map_cons, Node.literal?.literals?, ih]
    rfl

/-- Characters in sequence mean the text that they make up. -/
theorem exists_node_literals (span : Span) (literals : List Literal) :
    ∃ node, (Expr.ofParts span (literals.map .literal)).node {} = .ok (node, {}) ∧
      node.literal? = some (literals.map Literal.char) := by
  rcases literals with _ | ⟨l, _ | ⟨l', more⟩⟩
  · exact ⟨.empty, rfl, rfl⟩
  · exact ⟨.literal l.char, rfl, rfl⟩
  · refine ⟨.sequence ((l :: l' :: more).map fun l => .literal l.char), ?_, ?_⟩
    · have nodes := nodes_literals (l :: l' :: more)
      change Expr.node {} (.sequence span ((l :: l' :: more).map .literal)) = _
      rw [Expr.node, nodes]
      rfl
    · have chars := literals?_chars ((l :: l' :: more).map Literal.char)
      rw [List.map_map] at chars
      exact chars

/-- **A pattern that stands for a text means the text.** It is refused only if it is too large. -/
theorem compile_escaped (t : Text) : compile (escaped t) = .error .tooLarge ∨
    ∃ node, node.literal? = some t ∧ compile (escaped t) = .ok ⟨escaped t, node, 0, []⟩ := by
  obtain ⟨literals, span, chars, reading⟩ := read_escaped t
  obtain ⟨node, means, literal⟩ := exists_node_literals span literals
  unfold compile
  simp only [reading, means]
  split
  · exact .inl rfl
  · exact .inr ⟨node, chars ▸ literal, rfl⟩

/-! ## Templates -/

variable {t : Text} {found : Captures}

/-- The template that stands for a text: each dollar sign is doubled. -/
def doubled (t : Text) : Text := t.flatMap fun c => if c = '$' then ['$', '$'] else [c]

theorem doubled_dollar (t : Text) : doubled ('$' :: t) = '$' :: '$' :: doubled t := rfl

theorem doubled_of_ne {c : Char} (h : c ≠ '$') (t : Text) : doubled (c :: t) = c :: doubled t := by
  rw [doubled, List.flatMap_cons, if_neg h]
  rfl

theorem doubled_of_not_mem (h : '$' ∉ t) : doubled t = t := by
  induction t with
  | nil => rfl
  | cons c t ih =>
    rw [doubled_of_ne fun same => h (same ▸ List.mem_cons_self), ih (List.not_mem_of_not_mem_cons h)]

theorem expandFrom_dollars (t : Text) :
    expandFrom found 0 ('$' :: '$' :: t) = '$' :: expandFrom found 0 t := rfl

theorem expandFrom_of_ne {c : Char} (h : c ≠ '$') (t : Text) :
    expandFrom found 0 (c :: t) = c :: expandFrom found 0 t := by
  simp [expandFrom, h]

/-- **A doubled dollar sign stands for one**, so a text with its dollar signs doubled stands for the
text. -/
theorem expand_doubled (t : Text) (found : Captures) : expand (doubled t) found = t := by
  rw [expand]
  induction t with
  | nil => rfl
  | cons c t ih =>
    by_cases h : c = '$'
    · subst h
      rw [doubled_dollar, expandFrom_dollars, ih]
    · rw [doubled_of_ne h, expandFrom_of_ne h, ih]

/-- A template without dollar signs stands for itself. -/
theorem expand_of_not_mem (h : '$' ∉ t) (found : Captures) : expand t found = t := by
  have same := expand_doubled t found
  rwa [doubled_of_not_mem h] at same

end PatchTrail.Pattern
