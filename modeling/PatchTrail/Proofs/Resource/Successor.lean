import PatchTrail.Proofs.Resource.Tables
import Mathlib.Data.List.Nodup

/-!
# The id behind the greatest

A new resource gets the number behind the greatest id of its kind, however the ids of the table are
written, and this number is written in one way only: in hexadecimal, with small letters and without
zeros in front (`isHexOf_iff`). Everything else about a successful definition is a question of what
stands in the table (`allocate_iff_successor`).

So the new id is none of its kind. Other kinds are not looked at: if one of them has the number
behind the greatest id, then two resources share it (`allocate_unique_iff`, `allocate_collides`).
-/

namespace PatchTrail.Resource

open Definition (tableEnd)

variable {d : Definition} {es : List Entry} {table out written : Text} {kind : Text} {m n : Nat}

/-! ## Numerals -/

/-- A text is the numeral of a number in base sixteen, with small letters and without zeros in front
of it. -/
structure IsHexOf (n : Nat) (t : Text) : Prop where
  small : ∀ c ∈ t, c.isUpper = false
  digits : ∃ ds, AreDigits 16 t ds ∧ ds.head? ≠ some 0 ∧ valueOfDigits 16 ds = n

theorem valueOfDigits_concat (base : Nat) (ds : List Nat) (d : Nat) :
    valueOfDigits base (ds ++ [d]) = valueOfDigits base ds * base + d := by
  unfold valueOfDigits
  rw [List.foldl_append, List.foldl_cons, List.foldl_nil]

/-- Digits of which the first is not zero are written when their number is. -/
theorem toDigits_valueOfDigits {ds : List Nat} (full : ds ≠ []) (first : ds.head? ≠ some 0)
    (lt : ∀ d ∈ ds, d < 16) : 0 < valueOfDigits 16 ds ∧
      Nat.toDigits 16 (valueOfDigits 16 ds) = ds.map Nat.digitChar := by
  induction ds using List.reverseRecOn with
  | nil => exact absurd rfl full
  | append_singleton ds d ih =>
      have hd : d < 16 := lt d (List.mem_append_right _ List.mem_cons_self)
      rw [valueOfDigits_concat, Nat.toDigits_eq_if (by decide)]
      cases ds with
      | nil =>
          have pos : d ≠ 0 := fun zero => first (by simp [zero])
          simp only [valueOfDigits, List.foldl_nil, Nat.zero_mul, Nat.zero_add, if_pos hd]
          exact ⟨Nat.pos_of_ne_zero pos, rfl⟩
      | cons a ds =>
          obtain ⟨pos, written⟩ := ih (List.cons_ne_nil _ _) first
            fun d hd => lt d (List.mem_append_left _ hd)
          have front : (valueOfDigits 16 (a :: ds) * 16 + d) / 16 = valueOfDigits 16 (a :: ds) := by
            omega
          have last : (valueOfDigits 16 (a :: ds) * 16 + d) % 16 = d := by omega
          rw [if_neg (by omega), front, last, written, List.map_append]
          exact ⟨by omega, rfl⟩

theorem exists_digits (pos : 0 < n) : ∃ ds : List Nat, ds ≠ [] ∧ ds.head? ≠ some 0 ∧
    (∀ d ∈ ds, d < 16) ∧ valueOfDigits 16 ds = n := by
  induction n using Nat.strongRecOn with
  | _ n ih =>
      by_cases small : n < 16
      · exact ⟨[n], by simp, by simp; omega, by simpa using small, by simp [valueOfDigits]⟩
      · obtain ⟨ds, full, first, lt, value⟩ := ih (n / 16) (by omega) (by omega)
        refine ⟨ds ++ [n % 16], by simp, ?_, ?_, ?_⟩
        · rwa [List.head?_append_of_ne_nil _ full]
        · intro d hd
          rcases List.mem_append.mp hd with hd | hd
          · exact lt d hd
          · rw [List.mem_singleton.mp hd]
            omega
        · rw [valueOfDigits_concat, value]
          omega

theorem digitChar_of_small {c : Char} {d : Nat} (h : digitValue? c = some d) (lt : d < 16)
    (small : c.isUpper = false) : c = d.digitChar := by
  have decimal : ∀ d < 10, Char.ofNat (d + 48) = d.digitChar := by decide
  have letter : ∀ d < 16, 10 ≤ d → Char.ofNat (d + 87) = d.digitChar := by decide
  unfold digitValue? at h
  simp only at h
  split at h
  · cases h
    rw [← decimal _ (by omega), Nat.sub_add_cancel (by omega), Char.ofNat_toNat]
  · split at h
    · cases h
      rw [← letter _ lt (by omega), Nat.sub_add_cancel (by omega), Char.ofNat_toNat]
    · split at h
      · next capital =>
          have upper : c.isUpper = true := decide_eq_true capital
          rw [upper] at small
          cases small
      · cases h

theorem eq_map_digitChar {t : Text} {ds : List Nat} (digits : AreDigits 16 t ds)
    (small : ∀ c ∈ t, c.isUpper = false) : t = ds.map Nat.digitChar := by
  obtain ⟨values, lt⟩ := digits
  induction t generalizing ds with
  | nil =>
      rw [List.map_nil, eq_comm, List.map_eq_nil_iff] at values
      rw [values, List.map_nil]
  | cons c t ih =>
      cases ds with
      | nil => cases values
      | cons d ds =>
          rw [List.map_cons, List.map_cons, List.cons.injEq] at values
          rw [List.forall_mem_cons] at small lt
          rw [List.map_cons, digitChar_of_small values.1 lt.1 small.1,
            ← ih small.2 values.2 lt.2]

/-- A number has one numeral of this kind. -/
theorem isHexOf_iff (pos : 0 < n) {t : Text} : IsHexOf n t ↔ t = Text.hexOfNat n := by
  constructor
  · rintro ⟨small, ds, digits, first, rfl⟩
    have full : ds ≠ [] := by
      rintro rfl
      exact absurd pos (by decide)
    unfold Text.hexOfNat
    rw [(toDigits_valueOfDigits full first digits.2).2]
    exact eq_map_digitChar digits small
  · rintro rfl
    have digit : ∀ d < 16, digitValue? d.digitChar = some d ∧ d.digitChar.isUpper = false := by
      decide
    obtain ⟨ds, full, first, lt, rfl⟩ := exists_digits pos
    unfold Text.hexOfNat
    rw [(toDigits_valueOfDigits full first lt).2]
    refine ⟨fun c hc => ?_, ds, ⟨?_, lt⟩, first, rfl⟩
    · obtain ⟨d, hd, rfl⟩ := List.mem_map.mp hc
      exact (digit d (lt d hd)).2
    · rw [List.map_map]
      exact List.map_congr_left fun d hd => (digit d (lt d hd)).1

/-! ## The greatest id of a kind -/

theorem mem_idsOf : n ∈ idsOf kind es ↔ ∃ e ∈ es, e.kind = kind ∧ parseId? e.id = some n := by
  unfold idsOf
  simp only [List.mem_filterMap, List.mem_filter, decide_eq_true_eq, and_assoc]

/-- A number is the greatest id of a kind if an entry of the kind has it and none has a greater
one. -/
theorem greatest?_eq_some_iff : greatest? kind es = some m ↔
    (∃ e ∈ es, e.kind = kind ∧ parseId? e.id = some m) ∧
      ∀ e ∈ es, ∀ n, e.kind = kind → parseId? e.id = some n → n ≤ m := by
  unfold greatest?
  rw [List.max?_eq_some_iff, mem_idsOf]
  refine and_congr_right fun _ => ⟨fun bound e he n hkind hid => ?_, fun bound n hn => ?_⟩
  · exact bound n (mem_idsOf.mpr ⟨e, he, hkind, hid⟩)
  · obtain ⟨e, he, hkind, hid⟩ := mem_idsOf.mp hn
    exact bound e he n hkind hid

theorem mem_keys_iff : d.key ∈ es.map Entry.key ↔ ∃ e ∈ es, e.kind = d.kind ∧ e.name = d.name := by
  simp only [List.mem_map, Entry.key, Definition.key, Prod.mk.injEq]

/-- **A new resource gets the id behind the greatest one of its kind**, and its line stands where
the last line began that begins with the end of the table. -/
theorem allocate_iff_successor : d.allocate table = .ok (some (out, written)) ↔
    ∃ es m digits before after, entries table = .ok es ∧
      (∀ e ∈ es, e.kind = d.kind →
        e.name ≠ d.name ∧ ∃ n, parseId? e.id = some n ∧ n ≤ m ∧ some n ≠ parseId? written) ∧
      (∃ e ∈ es, e.kind = d.kind ∧ parseId? e.id = some m) ∧ m + 1 < Nat.pow 2 32 ∧
      written = "0x" ++ digits ∧ IsHexOf (m + 1) digits ∧ parseId? written = some (m + 1) ∧
      Text.LastAt "\n</resources>" table before after ∧
      out = before ++
        ("\n    <public type=\"" ++ d.kind ++ "\" name=\"" ++ d.name ++ "\" id=\"" ++ written ++ "\" />") ++
          "\n</resources>" ++ after := by
  rw [allocate_eq_some_iff]
  constructor
  · rintro ⟨es, m, before, after, read, new, legible, greatest, room, last, rfl, rfl⟩
    obtain ⟨taken, bound⟩ := greatest?_eq_some_iff.mp greatest
    refine ⟨es, m, Text.hexOfNat (m + 1), before, after, read, fun e he hkind => ⟨fun hname => ?_, ?_⟩,
      taken, room, rfl, (isHexOf_iff (Nat.succ_pos m)).mpr rfl, parseId?_renderId room, last, rfl⟩
    · exact new (mem_keys_iff.mpr ⟨e, he, hkind, hname⟩)
    · obtain ⟨n, hid⟩ := Option.isSome_iff_exists.mp (legible e he hkind)
      have le := bound e he n hkind hid
      refine ⟨n, hid, le, ?_⟩
      rw [parseId?_renderId room]
      exact fun same => absurd (Option.some.inj same) (by omega)
  · rintro ⟨es, m, digits, before, after, read, others, taken, room, rfl, hex, -, last, rfl⟩
    obtain rfl := (isHexOf_iff (Nat.succ_pos m)).mp hex
    refine ⟨es, m, before, after, read, fun there => ?_, fun e he hkind => ?_, ?_, room, last, rfl,
      rfl⟩
    · obtain ⟨e, he, hkind, hname⟩ := mem_keys_iff.mp there
      exact (others e he hkind).1 hname
    · obtain ⟨-, n, hid, -⟩ := others e he hkind
      rw [hid]
      rfl
    · refine greatest?_eq_some_iff.mpr ⟨taken, fun e he n hkind hid => ?_⟩
      obtain ⟨-, n', hid', le, -⟩ := others e he hkind
      cases hid.symm.trans hid'
      exact le

/-- Ids in different bases are compared as numbers: here the one in octal is the greatest. -/
example : Definition.standing ⟨[], "id", "c"⟩ none
    [⟨"id", "a", "0x10"⟩, ⟨"id", "b", "021"⟩, ⟨"string", "s", "99"⟩] = .ok (.new (some 17)) := by
  decide

/-! ## Ids of other kinds -/

/-- **A new id is that of another resource only if another kind has the number behind the greatest
id of the kind**, and then it is that of this resource only. -/
theorem allocate_unique_iff (h : d.allocate table = .ok (some (out, written)))
    (read : entries table = .ok es) (distinct : (es.map fun e => parseId? e.id).Nodup) :
    ∃ m, greatest? d.kind es = some m ∧ parseId? written = some (m + 1) ∧
      ((∀ e ∈ es, parseId? e.id ≠ parseId? written) ↔
        ∀ e ∈ es, e.kind ≠ d.kind → parseId? e.id ≠ some (m + 1)) ∧
      ∀ e ∈ es, parseId? e.id = parseId? written →
        e.kind ≠ d.kind ∧ ∀ e' ∈ es, parseId? e'.id = parseId? written → e' = e := by
  obtain ⟨es', m, before, after, read', new, -, greatest, room, -, rfl, -⟩ :=
    allocate_eq_some_iff.mp h
  cases read.symm.trans read'
  have bound := (greatest?_eq_some_iff.mp greatest).2
  have own : ∀ e ∈ es, e.kind = d.kind → parseId? e.id ≠ some (m + 1) := fun e he hkind hid =>
    absurd (bound e he _ hkind hid) (by omega)
  have single : ∀ e ∈ es, ∀ e' ∈ es, parseId? e'.id = parseId? e.id → e' = e :=
    fun e he e' he' same => List.inj_on_of_nodup_map distinct he' he same
  refine ⟨m, greatest, parseId?_renderId room, ?_, fun e he same => ?_⟩
  · rw [parseId?_renderId room]
    refine ⟨fun free e he _ => free e he, fun free e he => ?_⟩
    by_cases hkind : e.kind = d.kind
    · exact own e he hkind
    · exact free e he hkind
  · refine ⟨fun hkind => own e he hkind (same.trans (parseId?_renderId room)), fun e' he' same' => ?_⟩
    exact single e he e' he' (same'.trans same.symm)

/-- Two resources of different kinds with ids that follow each other. -/
def adjoining : List Entry := [⟨"id", "a", "0x1"⟩, ⟨"string", "s", "0x2"⟩]

theorem legible_adjoining : Legible adjoining := by
  unfold Legible
  decide

theorem distinct_adjoining : (adjoining.map fun e => parseId? e.id).Nodup := by decide

/-- The kind with the greater id can go on without touching the other. -/
theorem allocate_unique_iff_behind :
    ∃ out, Definition.allocate ⟨[], "string", "t"⟩ (printed adjoining) =
        .ok (some (out, "0x3")) ∧
      entries (printed adjoining) = .ok adjoining ∧
      (adjoining.map fun e => parseId? e.id).Nodup ∧
      ∀ e ∈ adjoining, parseId? e.id ≠ parseId? "0x3" := by
  have greatest : greatest? "string" adjoining = some 2 := by decide
  have read := entries_printed adjoining
  obtain ⟨out, h⟩ := allocate_printed (d := ⟨[], "string", "t"⟩) legible_adjoining (by decide)
    greatest (by decide)
  obtain ⟨m, greatest', -, unique, -⟩ := allocate_unique_iff h read distinct_adjoining
  cases greatest.symm.trans greatest'
  refine ⟨out, h, read, distinct_adjoining, unique.mpr ?_⟩
  decide

/-- The other kind runs into it: both ids are the number two. -/
theorem allocate_collides :
    ∃ out, Definition.allocate ⟨[], "id", "b"⟩ (printed adjoining) = .ok (some (out, "0x2")) ∧
      entries (printed adjoining) = .ok adjoining ∧ Legible adjoining ∧
      (adjoining.map fun e => parseId? e.id).Nodup ∧
      ∃ e ∈ adjoining, parseId? e.id = some 2 ∧ parseId? "0x2" = some 2 := by
  have greatest : greatest? "id" adjoining = some 1 := by decide
  obtain ⟨out, h⟩ := allocate_printed (d := ⟨[], "id", "b"⟩) legible_adjoining (by decide)
    greatest (by decide)
  exact ⟨out, h, entries_printed adjoining, legible_adjoining, distinct_adjoining,
    ⟨"string", "s", "0x2"⟩, by decide, by decide, by decide⟩

end PatchTrail.Resource
