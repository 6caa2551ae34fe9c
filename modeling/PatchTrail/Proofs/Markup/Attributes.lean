import PatchTrail.Markup.Event
import PatchTrail.Proofs.Except
import PatchTrail.Proofs.Text.Pieces
import Mathlib.Data.List.TakeWhile

/-!
# The inside of a tag

A tag has attributes if what stands behind its name falls into them (`Reads`): each is a key, an
equals sign and a value between two quotes of a kind, with blanks in front of each of these. Nothing
else is read (`attributesFrom_eq_ok_iff`). A key is one word, so two words in front of the first
equals sign are no attributes (`Reads.not_twoWords`), and the last attribute ends with a quote
(`Reads.last`).

Attributes can be written one behind the other, each behind a blank and with its value between
double quotes. If no value holds a quote, the tag ends at its own bracket (`cutTag?_written`) and has
just these attributes (`attributesFrom_written`).
-/

namespace PatchTrail.Markup

variable {s t key value rest : Text} {size : Nat} {seen : List (Text × Nat)}
  {keys : List Text} {attrs : List Attribute} {q c : Char}

/-! ## One attribute -/

theorem takeWhile_append_cons {p : Char → Bool} (h : ∀ d ∈ s, p d = true)
    (hc : p c = false) (t : Text) : (s ++ c :: t).takeWhile p = s := by
  rw [List.takeWhile_append_of_pos h, List.takeWhile_cons_of_neg (by rw [hc]; decide),
    List.append_nil]

theorem dropWhile_append_cons {p : Char → Bool} (h : ∀ d ∈ s, p d = true)
    (hc : p c = false) (t : Text) : (s ++ c :: t).dropWhile p = c :: t := by
  rw [List.dropWhile_append_of_pos h, List.dropWhile_cons_of_neg (by rw [hc]; decide)]

/-- A key is one word without an equals sign, which may be its first character. -/
structure IsKey (key : Text) : Prop where
  full : key ≠ []
  head : ∀ c ∈ key.head?, isSpace c = false
  tail : ∀ c ∈ key.tail, endsKey c = false

/-- A quote of either kind. -/
def IsQuote (c : Char) : Prop := c = '"' ∨ c = '\''

theorem IsQuote.not_isSpace (h : IsQuote c) : isSpace c = false := by
  rcases h with rfl | rfl <;> rfl

/-- A way to write an attribute: a key, an equals sign and a value between two quotes of a kind, with
blanks in front of each of them. -/
structure Spelling where
  lead : Text
  key : Text
  left : Text
  right : Text
  quote : Char
  raw : Text
  lead_blank : ∀ c ∈ lead, isSpace c = true
  key_word : IsKey key
  left_blank : ∀ c ∈ left, isSpace c = true
  right_blank : ∀ c ∈ right, isSpace c = true
  quote_kind : IsQuote quote
  raw_closed : quote ∉ raw

/-- What an attribute begins with, up to its first quote. -/
def Spelling.head (a : Spelling) : Text :=
  a.lead ++ (a.key ++ (a.left ++ '=' :: (a.right ++ [a.quote])))

/-- An attribute in front of a text. -/
def Spelling.text (a : Spelling) (rest : Text) : Text := a.head ++ (a.raw ++ a.quote :: rest)

theorem Spelling.text_eq (a : Spelling) (rest : Text) : a.text rest =
    a.lead ++ (a.key ++ (a.left ++ '=' :: (a.right ++ a.quote :: (a.raw ++ a.quote :: rest)))) := by
  simp [text, head]

/-- The parts into which a reader of attributes cuts an attribute in front of a text: its key, what
stands behind the equals sign, and what stands between the quotes. -/
theorem Spelling.cut_text (a : Spelling) (rest : Text) :
    ∃ c more behind inner, a.key = c :: more ∧
      (a.text rest).dropWhile isSpace = c :: (more ++ behind) ∧
      (more ++ behind).takeWhile (!endsKey ·) = more ∧
      ((more ++ behind).dropWhile (!endsKey ·)).dropWhile isSpace = '=' :: inner ∧
      inner.dropWhile isSpace = a.quote :: (a.raw ++ a.quote :: rest) ∧
      (a.raw ++ a.quote :: rest).takeWhile (· != a.quote) = a.raw ∧
      (a.raw ++ a.quote :: rest).dropWhile (· != a.quote) = a.quote :: rest := by
  rw [a.text_eq]
  obtain ⟨lead, key, left, right, q, raw, hlead, hkey, hleft, hright, hq, hraw⟩ := a
  dsimp only
  obtain ⟨c, more, rfl⟩ := List.exists_cons_of_ne_nil hkey.full
  have hc : isSpace c = false := hkey.head c rfl
  have hmore : ∀ d ∈ more, (!endsKey d) = true := fun d hd => by rw [hkey.tail d hd]; rfl
  have hbody : ∀ d ∈ raw, (d != q) = true := fun d hd =>
    bne_iff_ne.mpr fun heq => hraw (heq ▸ hd)
  obtain ⟨inner, hinner⟩ : ∃ inner, inner = right ++ q :: (raw ++ q :: rest) := ⟨_, rfl⟩
  obtain ⟨behind, hbehind⟩ : ∃ behind, behind = left ++ '=' :: inner := ⟨_, rfl⟩
  rw [← hinner, ← hbehind]
  have ends : ∃ d later, behind = d :: later ∧ (!endsKey d) = false := by
    cases left with
    | nil => exact ⟨_, _, hbehind, rfl⟩
    | cons d later =>
        have hd : endsKey d = true := by simp [endsKey, hleft d List.mem_cons_self]
        exact ⟨d, _, hbehind, by rw [hd]; rfl⟩
  obtain ⟨d, later, hlater, hd⟩ := ends
  refine ⟨c, more, behind, inner, rfl, ?_, ?_, ?_, ?_, ?_, ?_⟩
  · rw [List.cons_append, dropWhile_append_cons hlead hc]
  · rw [hlater, takeWhile_append_cons hmore hd]
  · rw [hlater, dropWhile_append_cons hmore hd, ← hlater, hbehind,
      dropWhile_append_cons hleft (by decide)]
  · rw [hinner, dropWhile_append_cons hright hq.not_isSpace]
  · exact takeWhile_append_cons hbody (by simp) _
  · exact dropWhile_append_cons hbody (by simp) _

/-- An attribute with a new key is read, and then the others. -/
theorem attributesFrom_next (a : Spelling) (new : a.key ∉ seen.map Prod.fst) (size : Nat)
    (rest : Text) :
    ∃ position, attributesFrom size seen (a.text rest) = do
      let v ← unescape a.raw
      return ⟨a.key, v⟩ :: (← attributesFrom size (seen ++ [(a.key, position)]) rest) := by
  obtain ⟨c, more, behind, inner, hkey, begins, name, equals, opens, inside, closes⟩ :=
    a.cut_text rest
  rw [hkey] at new ⊢
  have fresh : seen.find? (fun k => k.1 == c :: more) = none := by
    rw [List.find?_eq_none]
    intro k hk heq
    exact new (List.mem_map.mpr ⟨k, hk, by simpa using heq⟩)
  refine ⟨size - Text.size (c :: (more ++ behind)), ?_⟩
  rw [attributesFrom]
  -- each test of the reader is decided by one of the parts
  split
  · next heq =>
      rw [begins] at heq
      cases heq
  · next heq =>
      rw [begins] at heq
      cases heq
      split
      · next heq =>
          rw [equals] at heq
          cases heq
          simp only [name, fresh]
          split
          · next heq =>
              rw [opens] at heq
              cases heq
          · next heq =>
              rw [opens] at heq
              cases heq
              rw [if_pos (show a.quote = '"' ∨ a.quote = '\'' from a.quote_kind)]
              split
              · next heq =>
                  rw [closes] at heq
                  cases heq
              · next heq =>
                  rw [closes] at heq
                  cases heq
                  rw [inside]
      · next other =>
          rw [equals] at other
          exact absurd rfl (other _)

theorem attributesFrom_blank (h : ∀ c ∈ s, isSpace c = true) :
    attributesFrom size seen s = .ok [] := by
  rw [attributesFrom]
  split
  · rfl
  · next heq =>
      rw [List.dropWhile_eq_nil_iff.mpr h] at heq
      cases heq

/-! ## All attributes -/

/-- A text falls into attributes with keys that are new and all different. -/
inductive Reads : (keys : List Text) → Text → List Attribute → Prop where
  | done {keys : List Text} {s : Text} (blank : ∀ c ∈ s, isSpace c = true) : Reads keys s []
  | next {keys : List Text} {rest value : Text} {attrs : List Attribute} (a : Spelling)
      (hvalue : unescape a.raw = .ok value) (new : a.key ∉ keys)
      (more : Reads (keys ++ [a.key]) rest attrs) :
      Reads keys (a.text rest) (⟨a.key, value⟩ :: attrs)

theorem Reads.attributesFrom_eq (h : Reads keys s attrs) (hseen : seen.map Prod.fst = keys)
    (size : Nat) : attributesFrom size seen s = .ok attrs := by
  induction h generalizing seen with
  | done blank => exact attributesFrom_blank blank
  | @next keys rest _ _ a hvalue new more ih =>
      obtain ⟨position, step⟩ := attributesFrom_next a (hseen ▸ new) size rest
      have hnext : (seen ++ [(a.key, position)]).map Prod.fst = keys ++ [a.key] := by
        rw [List.map_append, hseen]
        rfl
      rw [step, hvalue]
      simp only [ih hnext]
      rfl

theorem eq_append_of_dropWhile {p : Char → Bool} (h : s.dropWhile p = c :: t) :
    s = s.takeWhile p ++ c :: t ∧ p c = false := by
  refine ⟨by rw [← h, List.takeWhile_append_dropWhile], ?_⟩
  have head := List.head?_dropWhile_not p s
  rw [h] at head
  simpa using head

/-- A text that a reader cuts into the parts of an attribute is that attribute in front of what it
leaves. -/
theorem exists_spelling {d q : Char} {more value body : Text} (hs : s.dropWhile isSpace = c :: more)
    (hequals : (more.dropWhile (!endsKey ·)).dropWhile isSpace = '=' :: value)
    (hquote : value.dropWhile isSpace = q :: body) (hq : IsQuote q)
    (hclose : body.dropWhile (· != q) = d :: rest) :
    ∃ a : Spelling, a.key = c :: more.takeWhile (!endsKey ·) ∧
      a.raw = body.takeWhile (· != q) ∧ s = a.text rest := by
  have blanks (t : Text) : ∀ c ∈ t.takeWhile isSpace, isSpace c = true :=
    fun c => List.mem_takeWhile_imp
  obtain ⟨whole, hc⟩ := eq_append_of_dropWhile hs
  obtain ⟨equals, -⟩ := eq_append_of_dropWhile hequals
  obtain ⟨quoted, -⟩ := eq_append_of_dropWhile hquote
  obtain ⟨closed, hd⟩ := eq_append_of_dropWhile hclose
  obtain rfl : d = q := by simpa using hd
  have name := List.takeWhile_append_dropWhile (p := (!endsKey ·)) (l := more)
  rw [equals, quoted, closed] at name
  rw [← name] at whole
  let a : Spelling :=
    { lead := s.takeWhile isSpace
      key := c :: more.takeWhile (!endsKey ·)
      left := (more.dropWhile (!endsKey ·)).takeWhile isSpace
      right := value.takeWhile isSpace
      quote := d
      raw := body.takeWhile (· != d)
      lead_blank := blanks s
      key_word :=
        { full := List.cons_ne_nil _ _
          head := by
            rintro e ⟨⟩
            exact hc
          tail := fun e he => by simpa using List.mem_takeWhile_imp he }
      left_blank := blanks (more.dropWhile (!endsKey ·))
      right_blank := blanks value
      quote_kind := hq
      raw_closed := fun he => by simpa using List.mem_takeWhile_imp he }
  exact ⟨a, rfl, rfl, whole.trans (a.text_eq rest).symm⟩

theorem Spelling.length_lt_text (a : Spelling) (rest : Text) :
    rest.length < (a.text rest).length := by
  rw [a.text_eq]
  simp only [List.length_append, List.length_cons]
  omega

theorem reads_of_attributesFrom (h : attributesFrom size seen s = .ok attrs) :
    Reads (seen.map Prod.fst) s attrs := by
  induction hlength : s.length using Nat.strongRecOn generalizing s seen attrs with
  | _ n ih =>
  rw [attributesFrom] at h
  split at h
  · next hs =>
      cases h
      exact .done (List.dropWhile_eq_nil_iff.mp hs)
  · next c more hs =>
      simp only at h
      split at h
      · next value hequals =>
          split at h
          · cases h
          · next new =>
              split at h
              · cases h
              · next q body hquote =>
                  split at h
                  · next hq =>
                      split at h
                      · cases h
                      · next d rest hclose =>
                          obtain ⟨v, hvalue, h⟩ := bind_eq_ok_iff.mp h
                          obtain ⟨found, hfound, h⟩ := bind_eq_ok_iff.mp h
                          cases h
                          obtain ⟨a, hkey, hraw, rfl⟩ := exists_spelling hs hequals hquote hq hclose
                          rw [← hkey] at new hfound ⊢
                          rw [← hraw] at hvalue
                          have behind := ih _ (hlength ▸ a.length_lt_text rest) hfound rfl
                          rw [List.map_append] at behind
                          refine .next a hvalue ?_ behind
                          rw [List.find?_eq_none] at new
                          intro he
                          obtain ⟨k, hk, heq⟩ := List.mem_map.mp he
                          exact new k hk (beq_iff_eq.mpr heq)
                  · cases h
      · cases h

/-- **Exactly the attributes into which a text falls are read.** -/
theorem attributesFrom_eq_ok_iff :
    attributesFrom size seen s = .ok attrs ↔ Reads (seen.map Prod.fst) s attrs :=
  ⟨reads_of_attributesFrom, fun h => h.attributesFrom_eq rfl size⟩

theorem exists_seen (keys : List Text) : ∃ seen : List (Text × Nat), seen.map Prod.fst = keys :=
  ⟨keys.map fun key => (key, 0), by simp [Function.comp_def]⟩

theorem Reads.unique {attrs' : List Attribute} (h : Reads keys s attrs) (h' : Reads keys s attrs') :
    attrs' = attrs := by
  obtain ⟨seen, hseen⟩ := exists_seen keys
  exact Except.ok.inj
    ((h'.attributesFrom_eq hseen 0).symm.trans (h.attributesFrom_eq hseen 0))

/-- What is read of an attribute and what stands behind it. -/
theorem reads_text_iff (a : Spelling) (new : a.key ∉ keys) : Reads keys (a.text rest) attrs ↔
    ∃ value more, unescape a.raw = .ok value ∧ Reads (keys ++ [a.key]) rest more ∧
      attrs = ⟨a.key, value⟩ :: more := by
  constructor
  · intro h
    obtain ⟨seen, hseen⟩ := exists_seen keys
    obtain ⟨position, step⟩ := attributesFrom_next a (by rwa [hseen]) 0 rest
    rw [h.attributesFrom_eq hseen] at step
    obtain ⟨value, hvalue, step⟩ := bind_eq_ok_iff.mp step.symm
    obtain ⟨more, hmore, step⟩ := bind_eq_ok_iff.mp step
    cases step
    have behind := reads_of_attributesFrom hmore
    rw [List.map_append, hseen] at behind
    exact ⟨value, more, hvalue, behind, rfl⟩
  · rintro ⟨value, more, hvalue, behind, rfl⟩
    exact .next a hvalue new behind

theorem Spelling.quote_ne (a : Spelling) {c : Char} (hc : isSpace c = true ∨ c = '<') :
    a.quote ≠ c := by
  rintro rfl
  rcases hc with hc | hc
  · rw [a.quote_kind.not_isSpace] at hc
    cases hc
  · rcases a.quote_kind with hq | hq <;>
    · rw [hq] at hc
      cases hc

/-- Only blanks stand in front of a line feed and a bracket that an attribute begins with. -/
theorem Spelling.head_feed (a : Spelling) {x z : Text} (h : a.head = x ++ '\n' :: '<' :: z) :
    ∀ c ∈ x, isSpace c = true := by
  have notBlank {t : Text} (ht : ∀ c ∈ t, isSpace c = true) : '<' ∉ t := fun hmem =>
    absurd (ht _ hmem) (by decide)
  have behind : '<' ∉ a.left ++ '=' :: (a.right ++ [a.quote]) := by
    simp only [List.mem_append, List.mem_cons, List.not_mem_nil, or_false, not_or]
    exact ⟨notBlank a.left_blank, by decide, notBlank a.right_blank, (a.quote_ne (.inr rfl)).symm⟩
  have whole : (a.lead ++ a.key) ++ (a.left ++ '=' :: (a.right ++ [a.quote])) =
      (x ++ ['\n']) ++ '<' :: z := by
    simpa [head] using h
  obtain ⟨y, front, -⟩ := Text.mem_front_of_append behind whole
  rw [List.append_assoc] at front
  rcases List.append_eq_append_iff.mp front with ⟨x', rfl, hkey⟩ | ⟨w, hlead, -⟩
  · cases x' with
    | nil => simpa using a.lead_blank
    | cons d x' =>
        -- the line feed would be in the key
        have ends := a.key_word.tail '\n' (by simp [hkey])
        cases ends
  · exact fun c hc => a.lead_blank c (hlead ▸ List.mem_append_left _ hc)

/-- A line feed and a bracket stand in front of the key of an attribute, in its value, or behind
it. -/
theorem Spelling.feed (a : Spelling) {x z : Text} (h : a.text rest = x ++ '\n' :: '<' :: z) :
    (∀ c ∈ x, isSpace c = true) ∨
      (∃ u v, x = a.head ++ u ∧ a.raw = u ++ '\n' :: v ∧ v ++ a.quote :: rest = '<' :: z) ∨
      ∃ x', x = a.head ++ (a.raw ++ a.quote :: x') ∧ rest = x' ++ '\n' :: '<' :: z := by
  have feed : a.quote ≠ '\n' := a.quote_ne (.inl rfl)
  have behind {u : Text} (hx : x = a.head ++ u)
      (h : a.raw ++ a.quote :: rest = u ++ '\n' :: '<' :: z) :
      (∃ u v, x = a.head ++ u ∧ a.raw = u ++ '\n' :: v ∧ v ++ a.quote :: rest = '<' :: z) ∨
        ∃ x', x = a.head ++ (a.raw ++ a.quote :: x') ∧ rest = x' ++ '\n' :: '<' :: z := by
    rcases List.append_eq_append_iff.mp h with ⟨w, rfl, hrest⟩ | ⟨w, hraw, hrest⟩
    · cases w with
      | nil => exact absurd (List.cons.inj hrest).1 feed
      | cons c x' =>
          obtain ⟨rfl, rest⟩ := List.cons.inj hrest
          exact .inr ⟨x', hx, rest⟩
    · cases w with
      | nil => exact absurd (List.cons.inj hrest).1.symm feed
      | cons c v =>
          obtain ⟨rfl, rest⟩ := List.cons.inj hrest
          exact .inl ⟨u, v, hx, hraw, rest.symm⟩
  rcases List.append_eq_append_iff.mp h with ⟨u, hx, hrest⟩ | ⟨v, hhead, hrest⟩
  · exact .inr (behind hx hrest)
  · rcases v with _ | ⟨c, _ | ⟨c', v⟩⟩
    · exact .inr (behind (u := []) (by simpa using hhead.symm) hrest.symm)
    · -- the last character of the head is a quote
      obtain ⟨rfl, -⟩ := List.cons.inj hrest
      have last := congrArg List.getLast? hhead
      simp only [head, List.getLast?_append, List.getLast?_cons, Option.some_or,
        Option.getD_some] at last
      exact absurd (Option.some.inj last) feed
    · obtain ⟨rfl, rest⟩ := List.cons.inj hrest
      obtain ⟨rfl, -⟩ := List.cons.inj rest
      exact .inl (a.head_feed hhead)

/-! ## Texts that are no attributes -/

/-- Behind the last attribute stand blanks, if anything. -/
theorem Reads.last (h : Reads keys s attrs) : ∀ c ∈ s.getLast?, isSpace c = true ∨ IsQuote c := by
  induction h with
  | done blank => exact fun c hc => .inl (blank c (List.mem_of_getLast? hc))
  | @next _ rest _ _ a _ _ _ ih =>
      intro c hc
      rw [Spelling.text, ← List.append_assoc, List.getLast?_append_cons] at hc
      cases rest with
      | nil =>
          cases hc
          exact .inr a.quote_kind
      | cons d rest => exact ih c (by rwa [List.getLast?_cons_cons] at hc)

/-- Two words in front of the first equals sign are no key. -/
theorem Reads.not_twoWords {u : Text} {g e : Char} (hu : '=' ∉ u) (hc : endsKey c = false)
    (hg : isSpace g = true) (he : endsKey e = false) (t : Text) :
    ¬ Reads keys (u ++ c :: g :: e :: t) attrs := by
  obtain ⟨hcEquals, hcSpace⟩ := Bool.or_eq_false_iff.mp hc
  obtain ⟨heEquals, heSpace⟩ := Bool.or_eq_false_iff.mp he
  have front : '=' ∉ u ++ [c, g, e] := by
    have hgEquals : g ≠ '=' := fun heq => absurd hg (by rw [heq]; decide)
    have words : '=' ∉ [c, g, e] := by
      simp only [List.mem_cons, List.not_mem_nil, or_false, not_or]
      exact ⟨Ne.symm (of_decide_eq_false hcEquals), hgEquals.symm,
        Ne.symm (of_decide_eq_false heEquals)⟩
    exact fun hmem => (List.mem_append.mp hmem).elim hu words
  have unblank {v : Text} {x : Char} (hv : ∀ y ∈ v, isSpace y = true) (hx : isSpace x = false) :
      x ∉ v := fun hmem => by
    rw [hv x hmem] at hx
    cases hx
  intro h
  generalize hs : u ++ c :: g :: e :: t = s at h
  cases h with
  | done blank => exact unblank blank hcSpace (by simp [← hs])
  | @next _ rest _ _ a =>
      have whole : (u ++ [c, g, e]) ++ t = (a.lead ++ (a.key ++ a.left)) ++
          '=' :: (a.right ++ a.quote :: (a.raw ++ a.quote :: rest)) := by
        simpa [a.text_eq] using hs
      -- the words stand in front of the equals sign, and the first of them in the key
      obtain ⟨y, words, -⟩ := Text.mem_back_of_append front whole
      have words : a.lead ++ (a.key ++ a.left) = u ++ c :: (g :: e :: y) := by simpa using words
      obtain ⟨u', -, behind⟩ := Text.mem_back_of_append (unblank a.lead_blank hcSpace) words
      obtain ⟨y', hkey, hrest⟩ := Text.mem_front_of_append (unblank a.left_blank hcSpace) behind
      cases y' with
      | nil =>
          have hleft : g :: e :: y = a.left := hrest
          exact unblank a.left_blank heSpace (hleft ▸ List.mem_cons_of_mem g List.mem_cons_self)
      | cons g' y' =>
          obtain ⟨rfl, -⟩ := List.cons.inj hrest
          have inner : g ∈ a.key.tail := by
            rw [hkey]
            cases u' <;> simp
          have := a.key_word.tail g inner
          rw [endsKey, hg, Bool.or_true] at this
          cases this

/-! ## Attributes as they are written -/

/-- An attribute as it is written in front of a text. -/
def written (key value rest : Text) : Text := ' ' :: (key ++ '=' :: '"' :: (value ++ '"' :: rest))

@[simp] theorem written_append (key value s t : Text) :
    written key value s ++ t = written key value (s ++ t) := by
  simp only [written, List.cons_append, List.append_assoc]

/-! ## Where the tag ends -/

/-- Puts a text in front of the first of two. -/
def prependFirst (s : Text) (p : Text × Text) : Text × Text := (s ++ p.1, p.2)

theorem prependFirst_comp (s t : Text) :
    prependFirst s ∘ prependFirst t = prependFirst (s ++ t) := by
  funext p
  simp [prependFirst]

/-- Between quotes nothing else ends. -/
theorem cutTag?_inside {q : Char} (h : q ∉ s) (t : Text) :
    cutTag? (some q) (s ++ t) = (cutTag? (some q) t).map (prependFirst s) := by
  induction s with
  | nil => exact (Option.map_id_apply ..).symm
  | cons c s ih =>
      obtain ⟨hc, hs⟩ := List.ne_and_not_mem_of_not_mem_cons h
      rw [List.cons_append, cutTag?, if_neg (Ne.symm hc), ih hs, Option.map_map]
      rfl

theorem cutTag?_quoted {q : Char} (h : q ∉ s) (t : Text) :
    cutTag? (some q) (s ++ q :: t) = (cutTag? none t).map (prependFirst (s ++ [q])) := by
  rw [cutTag?_inside h, cutTag?, if_pos rfl, Option.map_map]
  congr 1
  funext p
  simp [prependFirst, consFirst]

/-- Whether a character neither ends a tag nor begins what stands between quotes. -/
def isPlain (c : Char) : Bool := c != '>' && c != '"' && c != '\''

theorem cutTag?_plain (h : s.all isPlain) (t : Text) :
    cutTag? none (s ++ t) = (cutTag? none t).map (prependFirst s) := by
  induction s with
  | nil => exact (Option.map_id_apply ..).symm
  | cons c s ih =>
      simp only [List.all_cons, isPlain, Bool.and_eq_true, bne_iff_ne] at h
      obtain ⟨⟨⟨hbracket, hdouble⟩, hsingle⟩, hs⟩ := h
      have quotes : ¬ (c = '"' ∨ c = '\'') := by
        rintro (heq | heq)
        · exact hdouble heq
        · exact hsingle heq
      rw [List.cons_append, cutTag?, if_neg hbracket, if_neg quotes, ih hs, Option.map_map]
      rfl

/-- The bracket that closes a tag is found behind a text between two quotes of a kind. -/
theorem cutTag?_pair (before : s.all isPlain) (quote : IsQuote q) (hvalue : q ∉ value) (t : Text) :
    cutTag? none (s ++ q :: (value ++ q :: t)) =
      (cutTag? none t).map (prependFirst (s ++ q :: (value ++ [q]))) := by
  have quotes : q = '"' ∨ q = '\'' := quote
  have bracket : q ≠ '>' := by
    rcases quotes with rfl | rfl <;> decide
  rw [cutTag?_plain before, cutTag?, if_neg bracket, if_pos quotes, cutTag?_quoted hvalue,
    Option.map_map, Option.map_map]
  congr 1
  funext p
  simp [prependFirst, consFirst]

/-- The bracket that closes a tag is found behind an attribute. -/
theorem cutTag?_written (hkey : key.all isPlain) (hvalue : '"' ∉ value) (t : Text) :
    cutTag? none (written key value t) =
      (cutTag? none t).map (prependFirst (written key value [])) := by
  have before : (' ' :: (key ++ ['='])).all isPlain := by
    rw [List.all_cons, List.all_append, hkey]
    rfl
  have split (t : Text) : written key value t =
      ' ' :: (key ++ ['=']) ++ '"' :: (value ++ '"' :: t) := by
    simp [written]
  rw [split, cutTag?_pair before (.inl rfl) hvalue, split]

/-- An attribute that is written is read. -/
theorem attributesFrom_written (size : Nat) (seen : List (Text × Nat)) (key rest : Text)
    (hkey : IsKey key) (hvalue : '"' ∉ value) (new : key ∉ seen.map Prod.fst) :
    ∃ position, attributesFrom size seen (written key value rest) = do
      let v ← unescape value
      return ⟨key, v⟩ :: (← attributesFrom size (seen ++ [(key, position)]) rest) := by
  let a : Spelling :=
    { lead := [' '], key, left := [], right := [], quote := '"', raw := value
      lead_blank := List.all_eq_true.mp rfl, key_word := hkey
      left_blank := List.all_eq_true.mp rfl, right_blank := List.all_eq_true.mp rfl
      quote_kind := .inl rfl, raw_closed := hvalue }
  have text : written key value rest = a.text rest := (a.text_eq rest).symm
  rw [text]
  exact attributesFrom_next a new size rest

end PatchTrail.Markup
