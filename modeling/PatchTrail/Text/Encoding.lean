import PatchTrail.Text.Basic

/-!
# Texts as bytes

Files hold bytes, and a file is a text if its bytes are valid UTF-8. Reading and writing are
inverse: `decode?_encode` and `encode_of_decode?`. Texts are in the order of their bytes:
`bytes_lt_iff`.
-/

namespace PatchTrail.Text

/-- The UTF-8 bytes of a text. -/
def encode (t : Text) : ByteArray := (String.ofList t).toByteArray

/-- The text that some bytes encode, or `none` if they are not valid UTF-8. -/
def decode? (bytes : ByteArray) : Option Text := (String.fromUTF8? bytes).map String.toList

@[simp] theorem decode?_encode (t : Text) : decode? (encode t) = some t := by
  have h : (String.ofList t).toByteArray.IsValidUTF8 := (String.ofList t).isValidUTF8
  rw [decode?, encode, String.fromUTF8?, dif_pos h]
  exact congrArg some String.toList_ofList

theorem encode_of_decode? {bytes : ByteArray} {t : Text} (h : decode? bytes = some t) :
    encode t = bytes := by
  simp only [decode?, String.fromUTF8?] at h
  split at h
  · simp only [Option.map_some, Option.some.injEq] at h
    rw [encode, ← h, String.ofList_toList]
    rfl
  · simp at h

/-!
## Ranges of bytes

Positions in a text are counted in bytes. A position inside of a character is none at all, so a
range can be replaced only if it begins and ends between characters.
-/

/-- A text cut behind so many bytes, unless this is in the middle of a character or behind the
end. -/
def splitAtSize? (n : Nat) : Text → Option (Text × Text)
  | [] => if n = 0 then some ([], []) else none
  | c :: rest =>
    if n = 0 then some ([], c :: rest)
    else if c.utf8Size ≤ n then
      (splitAtSize? (n - c.utf8Size) rest).map fun (before, after) => (c :: before, after)
    else none

/-- A text with another one in the place of a range of bytes. -/
def replaceRange? (t : Text) (start stop : Nat) (new : Text) : Option Text :=
  if stop < start then none
  else do
    let (before, rest) ← splitAtSize? start t
    let (_, after) ← splitAtSize? (stop - start) rest
    return before ++ new ++ after

theorem splitAtSize?_append (s t : Text) : splitAtSize? s.size (s ++ t) = some (s, t) := by
  induction s with
  | nil => cases t <;> simp [splitAtSize?]
  | cons c s ih =>
    have pos : c.utf8Size ≠ 0 := Nat.ne_of_gt c.utf8Size_pos
    simp [splitAtSize?, pos, ih]

/-- A range is replaced that begins and ends between characters. -/
theorem replaceRange?_append (before old after new : Text) :
    replaceRange? (before ++ old ++ after) before.size (before.size + old.size) new =
      some (before ++ new ++ after) := by
  unfold replaceRange?
  rw [if_neg (by omega), List.append_assoc, splitAtSize?_append, Nat.add_sub_cancel_left]
  simp [splitAtSize?_append]

example : replaceRange? "é" 1 2 [] = none := by decide

/-!
## The order of bytes

Texts are compared character by character, and bytes are compared byte by byte. It makes no
difference which of the two is done (`bytes_lt_iff`): of two characters the smaller one has the
smaller first byte if they take different numbers of bytes, and otherwise smaller digits at the
first place where they differ, so that whatever comes behind the characters does not matter
(`encodeChar_lt`).
-/

/-- The bytes of a text, one after the other. -/
def bytes (t : Text) : List UInt8 := (encode t).data.toList

theorem bytes_eq (t : Text) : bytes t = t.flatMap String.utf8EncodeChar := by
  unfold bytes encode
  rw [String.toByteArray_ofList, List.utf8Encode, List.data_toByteArray]

@[simp] theorem bytes_nil : bytes [] = [] := bytes_eq []

theorem bytes_cons (c : Char) (t : Text) : bytes (c :: t) = String.utf8EncodeChar c ++ bytes t := by
  rw [bytes_eq, bytes_eq, List.flatMap_cons]

theorem byte_lt_iff {m n : Nat} (hm : m < 256) (hn : n < 256) :
    UInt8.ofNat m < UInt8.ofNat n ↔ m < n := by
  rw [UInt8.lt_iff_toNat_lt, UInt8.toNat_ofNat_of_lt' hm, UInt8.toNat_ofNat_of_lt' hn]

theorem byte_eq_iff {m n : Nat} (hm : m < 256) (hn : n < 256) :
    UInt8.ofNat m = UInt8.ofNat n ↔ m = n := by
  rw [← UInt8.toNat_inj, UInt8.toNat_ofNat_of_lt' hm, UInt8.toNat_ofNat_of_lt' hn]

/-- The bytes of the smaller of two characters come first, whatever comes behind them. -/
theorem encodeChar_lt {c d : Char} (h : c < d) (s t : List UInt8) :
    String.utf8EncodeChar c ++ s < String.utf8EncodeChar d ++ t := by
  have hlt : c.val.toNat < d.val.toNat := h
  have hd : d.val.toNat < 0x110000 := by
    have valid := d.valid
    simp only [UInt32.isValidChar, Nat.isValidChar] at valid
    omega
  unfold String.utf8EncodeChar
  generalize c.val.toNat = m at *
  generalize d.val.toNat = n at *
  dsimp only
  -- One case for each number of bytes of the one and of the other. The bytes stand for numbers
  -- below 256, whose offsets tell the number of bytes and whose rests are the digits.
  repeat' split
  all_goals
    simp (disch := omega) only [List.cons_append, List.nil_append, List.cons_lt_cons_iff,
      byte_lt_iff, byte_eq_iff, Nat.mod_eq_of_lt, Nat.add_lt_add_iff_right,
      Nat.add_right_cancel_iff]
    omega

theorem bytes_lt_bytes {s t : Text} (h : s < t) : bytes s < bytes t := by
  induction s generalizing t with
  | nil =>
    cases t with
    | nil => exact absurd h (List.lt_irrefl [])
    | cons d t =>
      obtain ⟨x, xs, hd⟩ : ∃ x xs, String.utf8EncodeChar d = x :: xs :=
        List.exists_cons_of_ne_nil String.utf8EncodeChar_ne_nil
      rw [bytes_nil, bytes_cons, hd]
      exact List.nil_lt_cons x _
  | cons c s ih =>
    cases t with
    | nil => exact absurd h (List.not_lt_nil _)
    | cons d t =>
      rw [bytes_cons, bytes_cons]
      rcases List.cons_lt_cons_iff.mp h with hlt | ⟨rfl, hlt⟩
      · exact encodeChar_lt hlt _ _
      · exact List.append_left_lt (ih hlt)

/-- Texts are in the order of their bytes. -/
theorem bytes_lt_iff {s t : Text} : bytes s < bytes t ↔ s < t := by
  refine ⟨fun h => ?_, bytes_lt_bytes⟩
  rcases Std.lt_trichotomy s t with hlt | rfl | hgt
  · exact hlt
  · exact absurd h (List.lt_irrefl _)
  · exact absurd h (List.lt_asymm (bytes_lt_bytes hgt))

end PatchTrail.Text
