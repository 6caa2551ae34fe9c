/-!
# Ranges of code points

A set of code points is kept as an array of closed intervals in increasing order. The tables of
the Unicode standard are written down as texts of hexadecimal intervals, `41-5a 61-7a aa`, which
`Ranges.ofHex` reads; `Ranges.contains` searches by halving. Sets can be put together like any
others (`Ranges.union`, `Ranges.complement`), and the bytes of their characters can be given the
same way (`Ranges.sequences`).
-/

namespace PatchTrail.Unicode

/-- Closed intervals of code points, increasing and separated. -/
abbrev Ranges := Array (Nat × Nat)

namespace Ranges

/-- The value of a hexadecimal digit in lower case; every other character counts as zero. -/
def hexValue (c : Char) : Nat :=
  if '0' ≤ c ∧ c ≤ '9' then c.toNat - 48
  else if 'a' ≤ c ∧ c ≤ 'f' then c.toNat - 87
  else 0

/-- Reads intervals off a text. `low` is the lower end once a dash has been read, `value` the
number being read, if one has begun. -/
def readHex : List Char → (low value : Option Nat) → Ranges → Ranges
  | [], low, value, done =>
    match value with
    | none => done
    | some n => done.push (low.getD n, n)
  | c :: rest, low, value, done =>
    if c = '-' then readHex rest value none done
    else if c.isWhitespace then
      match value with
      | none => readHex rest none none done
      | some n => readHex rest none none (done.push (low.getD n, n))
    else readHex rest low (some (value.getD 0 * 16 + hexValue c)) done

/-- The intervals written in a text such as `41-5a 61-7a aa`. -/
def ofHex (text : String) : Ranges := readHex text.toList none none #[]

/-- Searches the intervals with indices from `low` up to but not including `high`; `steps` bounds
the number of halvings. -/
def search (ranges : Ranges) (code : Nat) : (steps low high : Nat) → Bool
  | 0, _, _ => false
  | steps + 1, low, high =>
    if low < high then
      let middle := (low + high) / 2
      match ranges[middle]? with
      | none => false
      | some (first, last) =>
        if code < first then search ranges code steps low middle
        else if last < code then search ranges code steps (middle + 1) high
        else true
    else false

/-- Whether a code point lies in one of the intervals. -/
def contains (ranges : Ranges) (code : Nat) : Bool :=
  search ranges code (ranges.size + 1) 0 ranges.size

end Ranges

end PatchTrail.Unicode

/-!
## Set operations on ranges

Union, complement, intersection and difference of sets of code points. All of them return closed
intervals in increasing order that neither meet nor touch.
-/

namespace PatchTrail.Unicode.Ranges

/-- The greatest code point. -/
def top : Nat := 0x10ffff

/-- Puts intervals together that meet or touch. The intervals have to come in the order of their
lower ends; `low` and `high` are the ends of the one being built. -/
def merge (low high : Nat) : List (Nat × Nat) → List (Nat × Nat)
  | [] => [(low, high)]
  | (a, b) :: rest =>
    if a ≤ high + 1 then merge low (max high b) rest else (low, high) :: merge a b rest

/-- The set that some intervals make up, in whatever order they come. -/
def ofList (intervals : List (Nat × Nat)) : Ranges :=
  match intervals.mergeSort fun a b => decide (a.1 ≤ b.1) with
  | [] => #[]
  | (a, b) :: rest => (merge a b rest).toArray

/-- The code points of either set. -/
def union (a b : Ranges) : Ranges := ofList (a.toList ++ b.toList)

/-- The gaps between increasing intervals, from `low` up to `high`. -/
def gaps (low high : Nat) : List (Nat × Nat) → List (Nat × Nat)
  | [] => if low ≤ high then [(low, high)] else []
  | (a, b) :: rest =>
    if low < a then (low, a - 1) :: gaps (b + 1) high rest else gaps (max low (b + 1)) high rest

/-- The code points up to `high` that are not in a set. -/
def complement (high : Nat) (a : Ranges) : Ranges := (gaps 0 high (ofList a.toList).toList).toArray

/-- The code points of both sets. -/
def intersection (a b : Ranges) : Ranges :=
  complement top (union (complement top a) (complement top b))

/-- The code points of the first set that are not in the second. -/
def difference (a b : Ranges) : Ranges := complement top (union (complement top a) b)

/-- The code points of exactly one of two sets. -/
def symmetricDifference (a b : Ranges) : Ranges := union (difference a b) (difference b a)

/-- Whether a set has only code points below a bound. -/
def isBelow (bound : Nat) (a : Ranges) : Bool := a.all fun (_, last) => decide (last < bound)

/-!
## The bytes of the characters of a set

The characters between two others, encoded in UTF-8, are the byte sequences that a few sequences of
intervals of bytes stand for: each takes one byte from every interval in turn. Surrogates have no
encoding and are left out.
-/

/-- How many numbers so many continuation bytes tell apart. -/
def continuations : (count : Nat) → Nat
  | 0 => 1
  | count + 1 => 64 * continuations count

/-- The sequences for the numbers from `low` to `high`, written as a byte that begins at `mark` and
so many continuation bytes, which begin at 128. -/
def byteSequences : (count mark low high : Nat) → List (List (Nat × Nat))
  | 0, mark, low, high => [[(mark + low, mark + high)]]
  | count + 1, mark, low, high =>
    let block := continuations (count + 1)
    let a := low / block
    let b := high / block
    let behind (lead least greatest : Nat) : List (List (Nat × Nat)) :=
      (byteSequences count 128 least greatest).map ((mark + lead, mark + lead) :: ·)
    if a = b then behind a (low % block) (high % block)
    else
      let startsInside := decide (low % block ≠ 0)
      let endsInside := decide (high % block ≠ block - 1)
      let first := if startsInside then behind a (low % block) (block - 1) else []
      let last := if endsInside then behind b 0 (high % block) else []
      let a := if startsInside then a + 1 else a
      let stop := if endsInside then b else b + 1
      let middle :=
        if a < stop then [(mark + a, mark + stop - 1) :: List.replicate (count + 1) (128, 191)]
        else []
      first ++ middle ++ last

/-- The stretches of code points that are encoded alike: how many continuation bytes there are,
where the first byte begins, and the first and last code point. -/
def encodings : List (Nat × Nat × Nat × Nat) :=
  [(0, 0, 0, 0x7f), (1, 192, 0x80, 0x7ff), (2, 224, 0x800, 0xd7ff), (2, 224, 0xe000, 0xffff),
    (3, 240, 0x10000, 0x10ffff)]

/-- The sequences for the characters of an interval. -/
def intervalSequences (low high : Nat) : List (List (Nat × Nat)) :=
  encodings.flatMap fun (count, mark, first, last) =>
    if max low first ≤ min high last then
      byteSequences count mark (max low first) (min high last)
    else []

/-- The sequences for the characters of a set. -/
def sequences (s : Ranges) : List (List (Nat × Nat)) :=
  s.toList.flatMap fun (low, high) => intervalSequences low high

end PatchTrail.Unicode.Ranges
