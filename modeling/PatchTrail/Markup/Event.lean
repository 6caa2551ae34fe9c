import PatchTrail.Markup.Attribute

/-!
# Tags in the order of a document

A document is read as the sequence of its tags up to the first fault, if there is one. Text between
tags, comments, declarations and the like are passed over. End tags have to match the tags that are
open, but at the end of a document tags may be left open.
-/

namespace PatchTrail.Markup

/-- A tag, with what stands between its brackets. -/
inductive Event where
  | start (content : Text)
  | empty (content : Text)
  | stop (name : Text)
deriving DecidableEq, Repr

/-- The name that the inside of a tag begins with. -/
def tagName (content : Text) : Text := content.takeWhile (!isSpace ·)

/-! ## Where markup ends -/

/-- Puts a character in front of the first of two texts. -/
def consFirst (c : Char) : Text × Text → Text × Text
  | (first, rest) => (c :: first, rest)

/-- Cuts at the bracket that closes a tag. A bracket between quotes closes nothing. -/
def cutTag? : (quote? : Option Char) → Text → Option (Text × Text)
  | _, [] => none
  | none, c :: rest =>
    if c = '>' then some ([], rest)
    else if c = '"' ∨ c = '\'' then (cutTag? (some c) rest).map (consFirst c)
    else (cutTag? none rest).map (consFirst c)
  | some q, c :: rest =>
    (cutTag? (if c = q then none else some q) rest).map (consFirst c)

/-- Cuts at the first bracket before which a condition holds. `before` is what has been passed
over, the last character first. -/
def cutWhere? (holds : Text → Bool) : (before : Text) → Text → Option (Text × Text)
  | _, [] => none
  | before, c :: rest =>
    if c = '>' ∧ holds before then some (before.reverse, rest)
    else cutWhere? holds (c :: before) rest

theorem length_lt_of_cutTag? {quote? : Option Char} {text content rest : Text}
    (h : cutTag? quote? text = some (content, rest)) : rest.length < text.length := by
  induction text generalizing quote? content with
  | nil => cases quote? <;> simp [cutTag?] at h
  | cons c more ih =>
    cases quote? with
    | none =>
      rw [cutTag?] at h
      split at h
      · simp only [Option.some.injEq, Prod.mk.injEq] at h
        simp [h.2]
      · split at h <;>
        · simp only [Option.map_eq_some_iff] at h
          obtain ⟨⟨a, b⟩, hab, he⟩ := h
          simp only [consFirst, Prod.mk.injEq] at he
          have := ih (he.2 ▸ hab)
          simp only [List.length_cons]
          omega
    | some q =>
      rw [cutTag?] at h
      simp only [Option.map_eq_some_iff] at h
      obtain ⟨⟨a, b⟩, hab, he⟩ := h
      simp only [consFirst, Prod.mk.injEq] at he
      have := ih (he.2 ▸ hab)
      simp only [List.length_cons]
      omega

theorem length_lt_of_cutWhere? {holds : Text → Bool} {before text content rest : Text}
    (h : cutWhere? holds before text = some (content, rest)) : rest.length < text.length := by
  induction text generalizing before with
  | nil => simp [cutWhere?] at h
  | cons c more ih =>
    rw [cutWhere?] at h
    split at h
    · simp only [Option.some.injEq, Prod.mk.injEq] at h
      simp [h.2]
    · have := ih h
      simp only [List.length_cons]
      omega

/-- Whether a comment may end here, given its text backwards. -/
def endsComment (before : Text) : Bool := decide (4 < before.length) && before.startsWith "--"

/-- Whether a stretch of plain data may end here, given its text backwards. -/
def endsData (before : Text) : Bool := before.startsWith "]]"

/-- Whether a declaration of the document's type may end here: all brackets inside are closed. -/
def endsDoctype (before : Text) : Bool := before.count '<' == before.count '>'

/-- Whether an instruction may end here, given its text backwards. -/
def endsInstruction (before : Text) : Bool := before.startsWith "?"

/-! ## Declarations -/

/-- Whether a text begins with another one, which is in capital letters, in either case. -/
def startsWithAnyCase (t capitals : Text) : Bool :=
  (t.take capitals.length).map Char.toUpper == capitals

/-- Passes over a declaration, which begins with an exclamation mark. -/
def skipDeclaration (text : Text) : Except Fault { rest : Text // rest.length < text.length } :=
  let endWith (holds : Text → Bool) (fault : Fault) (isProper : Text → Except Fault Unit) :
      Except Fault { rest : Text // rest.length < text.length } :=
    match h : cutWhere? holds [] text with
    | none => .error fault
    | some (content, rest) =>
      match isProper content with
      | .ok () => .ok ⟨rest, length_lt_of_cutWhere? h⟩
      | .error f => .error f
  match text[1]? with
  | some '-' =>
    endWith endsComment .openComment fun content =>
      if content.startsWith "!--" then .ok () else .error .openComment
  | some '[' =>
    endWith endsData .openData fun content =>
      if content.startsWith "![CDATA[" then .ok () else .error .openData
  | some c =>
    if c = 'D' ∨ c = 'd' then
      endWith endsDoctype .openDoctype fun content =>
        if startsWithAnyCase content "!DOCTYPE" then
          if (content.drop 8).all isSpace then .error .unnamedDoctype else .ok ()
        else .error .openDoctype
    else .error .unknownMarkup
  | none => .error .unknownMarkup

/-! ## Documents -/

/-- The tags of a document up to the first fault, and the fault. -/
structure Reading where
  events : List Event
  fault? : Option Fault
deriving DecidableEq, Repr

/-- Puts a tag in front of others. -/
def Reading.cons (e : Event) (r : Reading) : Reading := { r with events := e :: r.events }

/-- The name of an end tag, behind which blanks may stand. -/
def endName (content : Text) : Text :=
  if content.all isSpace then content else content.dropEndWhile isSpace

/-- Reads on in a text, in which tags with some names are open, the innermost first. -/
def readFrom (opened : List Text) (text : Text) : Reading :=
  match h : text.dropWhile (· != '<') with
  | [] => ⟨[], none⟩
  | _ :: rest =>
    have shorter : rest.length < text.length := by
      have := (List.dropWhile_suffix (l := text) (· != '<')).length_le
      rw [h, List.length_cons] at this
      exact this
    match rest.head? with
    | none => ⟨[], some .openTag⟩
    | some '!' =>
      match skipDeclaration rest with
      | .error f => ⟨[], some f⟩
      | .ok ⟨after, _⟩ => readFrom opened after
    | some '?' =>
      match hc : cutWhere? endsInstruction [] rest with
      | none => ⟨[], some .openInstruction⟩
      | some (content, after) =>
        have := length_lt_of_cutWhere? hc
        if content.length < 2 then ⟨[], some .openInstruction⟩ else readFrom opened after
    | some '/' =>
      match hc : cutTag? none rest with
      | none => ⟨[], some .openTag⟩
      | some (content, after) =>
        have := length_lt_of_cutTag? hc
        let name := endName content.tail
        match opened with
        | [] => ⟨[], some (.unmatchedEnd name)⟩
        | expected :: outer =>
          if name = expected then (readFrom outer after).cons (.stop name)
          else ⟨[], some (.mismatchedEnd expected name)⟩
    | some _ =>
      match hc : cutTag? none rest with
      | none => ⟨[], some .openTag⟩
      | some (content, after) =>
        have := length_lt_of_cutTag? hc
        if content.getLast? = some '/' then
          (readFrom opened after).cons (.empty content.dropLast)
        else (readFrom (tagName content :: opened) after).cons (.start content)
  termination_by text.length

/-- Reads a document. -/
def read (document : Text) : Reading := readFrom [] document

end PatchTrail.Markup
