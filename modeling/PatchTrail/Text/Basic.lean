/-!
# Text

A text is a list of characters. This module holds the ways of taking a text apart that the rest of
the library is built from:

* `lines` cuts after each line feed, so the pieces put together are the text again
  (`flatten_lines`);
* `split` cuts at separators and drops them, so there is always one piece more than separators
  (`join_split`);
* `cut?` finds the first occurrence of another text and returns what stands before and after it
  (`eq_of_cut?`).

Sizes are sizes in UTF-8, because positions in a text are reported that way.
-/

namespace PatchTrail

/-- A text is a list of characters. -/
abbrev Text := List Char

/-- String constants stand for texts. -/
instance : Coe String Text := ⟨String.toList⟩

namespace Text

/-- The number of bytes that a text takes in UTF-8. -/
def size : Text → Nat
  | [] => 0
  | c :: rest => c.utf8Size + size rest

@[simp] theorem size_nil : size [] = 0 := rfl

@[simp] theorem size_cons (c : Char) (t : Text) : size (c :: t) = c.utf8Size + size t := rfl

@[simp] theorem size_append (s t : Text) : size (s ++ t) = size s + size t := by
  induction s with
  | nil => simp
  | cons c rest ih => simp [ih, Nat.add_assoc]

/-! ## Lines -/

/-- The lines of a text. Each line but possibly the last ends in a line feed, which belongs to it,
and no line is empty. -/
def lines : Text → List Text
  | [] => []
  | c :: rest =>
    if c = '\n' then [c] :: lines rest
    else
      match lines rest with
      | [] => [[c]]
      | line :: more => (c :: line) :: more

/-- Nothing is lost by cutting a text into lines. -/
theorem flatten_lines (t : Text) : (lines t).flatten = t := by
  induction t with
  | nil => rfl
  | cons c rest ih =>
    rw [lines]
    split
    · simp [ih]
    · split <;> simp_all

/-! ## Pieces between separators -/

/-- The pieces of a text between the characters that satisfy `isSeparator`. -/
def splitBy (isSeparator : Char → Bool) : Text → List Text
  | [] => [[]]
  | c :: rest =>
    if isSeparator c then [] :: splitBy isSeparator rest
    else
      match splitBy isSeparator rest with
      | [] => [[c]]
      | piece :: more => (c :: piece) :: more

/-- The pieces of a text between the occurrences of one character. -/
def split (separator : Char) (t : Text) : List Text := splitBy (· == separator) t

/-- Puts pieces together with a text between each two of them. -/
def join (separator : Text) : List Text → Text
  | [] => []
  | [piece] => piece
  | piece :: next :: more => piece ++ separator ++ join separator (next :: more)

theorem splitBy_ne_nil (p : Char → Bool) (t : Text) : splitBy p t ≠ [] := by
  cases t with
  | nil => simp [splitBy]
  | cons c rest =>
    rw [splitBy]
    split
    · simp
    · split <;> simp

/-- Splitting at a character and joining with it are inverse. -/
theorem join_split (separator : Char) (t : Text) : join [separator] (split separator t) = t := by
  induction t with
  | nil => rfl
  | cons c rest ih =>
    unfold split at ih ⊢
    rw [splitBy]
    split
    · next h =>
      have h : c = separator := by simpa using h
      have hne := splitBy_ne_nil (· == separator) rest
      revert ih
      cases hs : splitBy (· == separator) rest with
      | nil => exact absurd hs hne
      | cons piece more => intro ih; simp [join, h, ih]
    · split
      · next hs => exact absurd hs (splitBy_ne_nil _ _)
      · next piece more hs =>
        rw [hs] at ih
        cases more <;> simp_all [join]

/-! ## Beginnings, endings and occurrences -/

/-- What is left of a text after a given beginning, or `none` if it begins differently. -/
def dropPrefix? : Text → Text → Option Text
  | [], t => some t
  | _ :: _, [] => none
  | p :: ps, c :: cs => if p = c then dropPrefix? ps cs else none

/-- `dropPrefix?` takes off exactly the given beginning. -/
theorem dropPrefix?_eq_some {p t rest : Text} : dropPrefix? p t = some rest ↔ t = p ++ rest := by
  induction p generalizing t with
  | nil => simp [dropPrefix?, eq_comm]
  | cons a p ih =>
    cases t with
    | nil => simp [dropPrefix?]
    | cons c cs =>
      rw [dropPrefix?]
      split
      · next h => simp [ih, h]
      · next h => simp [Ne.symm h]

/-- Whether a text begins with another. -/
def startsWith (t p : Text) : Bool := p.isPrefixOf t

/-- Whether a text ends with another. -/
def endsWith (t s : Text) : Bool := s.isSuffixOf t

/-- The texts before and after the first occurrence of `sought`, or `none` if it does not occur. -/
def cut? (sought : Text) : Text → Option (Text × Text)
  | [] => if sought = [] then some ([], []) else none
  | c :: rest =>
    match dropPrefix? sought (c :: rest) with
    | some after => some ([], after)
    | none => (cut? sought rest).map fun (before, after) => (c :: before, after)

/-- What `cut?` returns are the parts around an occurrence. -/
theorem eq_of_cut? {sought t before after : Text} (h : cut? sought t = some (before, after)) :
    t = before ++ sought ++ after := by
  induction t generalizing before with
  | nil =>
    rw [cut?] at h
    split at h
    · next hs => simp_all
    · simp at h
  | cons c rest ih =>
    rw [cut?] at h
    split at h
    · next a ha =>
      simp only [Option.some.injEq, Prod.mk.injEq] at h
      obtain ⟨rfl, rfl⟩ := h
      simpa using dropPrefix?_eq_some.1 ha
    · next ha =>
      simp only [Option.map_eq_some_iff] at h
      obtain ⟨⟨b, a⟩, hb, hp⟩ := h
      simp only [Prod.mk.injEq] at hp
      obtain ⟨rfl, rfl⟩ := hp
      simp [ih hb]

/-- Whether a text occurs in another. -/
def contains (t sought : Text) : Bool := (cut? sought t).isSome

/-- The texts before and after the last occurrence of `sought`, or `none` if it does not occur. -/
def cutLast? (sought : Text) : Text → Option (Text × Text)
  | [] => if sought = [] then some ([], []) else none
  | c :: rest =>
    match cutLast? sought rest with
    | some (before, after) => some (c :: before, after)
    | none => (dropPrefix? sought (c :: rest)).map fun after => ([], after)

/-- What `cutLast?` returns are the parts around an occurrence. -/
theorem eq_of_cutLast? {sought t before after : Text}
    (h : cutLast? sought t = some (before, after)) : t = before ++ sought ++ after := by
  induction t generalizing before after with
  | nil =>
    rw [cutLast?] at h
    split at h
    · next hs => simp_all
    · simp at h
  | cons c rest ih =>
    rw [cutLast?] at h
    split at h
    · next b a hb =>
      simp only [Option.some.injEq, Prod.mk.injEq] at h
      obtain ⟨rfl, rfl⟩ := h
      simp [ih hb]
    · next hb =>
      simp only [Option.map_eq_some_iff, Prod.mk.injEq] at h
      obtain ⟨a, ha, rfl, rfl⟩ := h
      simpa using dropPrefix?_eq_some.1 ha

/-- A text without the characters at its end that satisfy a condition. -/
def dropEndWhile (p : Char → Bool) (t : Text) : Text := (t.reverse.dropWhile p).reverse

end Text

end PatchTrail
