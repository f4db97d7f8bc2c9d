import Mathlib.Data.List.Basic

/-!
# UTF-8, character by character

The byte sequences that encode one character, by lead byte, and why no other sequence does: `sequence_iff` holds the table against the
encoding of Lean's characters, which are the Unicode scalar values. A byte string is well formed when it is a row of such sequences;
the lead byte says how long the first one is, so there is only one way to read it.
-/

namespace Utf8

/-- A byte after the first. -/
def Tail (b : UInt8) : Prop := 0x80 ≤ b ∧ b ≤ 0xBF

instance (b : UInt8) : Decidable (Tail b) := inferInstanceAs (Decidable (_ ∧ _))

/-- The encodings of one character: nothing overlong, no surrogate, nothing above U+10FFFF. -/
inductive Sequence : List UInt8 → Prop where
  | one {a : UInt8} (ha : a ≤ 0x7F) : Sequence [a]
  | two {a b : UInt8} (ha : 0xC2 ≤ a ∧ a ≤ 0xDF) (hb : Tail b) : Sequence [a, b]
  | three {a b c : UInt8} (ha : 0xE0 ≤ a ∧ a ≤ 0xEF) (hb : Tail b) (hc : Tail c) (hlong : a = 0xE0 → 0xA0 ≤ b)
      (hsurrogate : a = 0xED → b < 0xA0) : Sequence [a, b, c]
  | four {a b c d : UInt8} (ha : 0xF0 ≤ a ∧ a ≤ 0xF4) (hb : Tail b) (hc : Tail c) (hd : Tail d) (hlong : a = 0xF0 → 0x90 ≤ b)
      (hrange : a = 0xF4 → b ≤ 0x8F) : Sequence [a, b, c, d]

/-- How many bytes the character of a lead byte takes. -/
def width (a : UInt8) : Nat := if a ≤ 0x7F then 1 else if a ≤ 0xDF then 2 else if a ≤ 0xEF then 3 else 4

/-- A sequence has a leading byte. -/
theorem Sequence.ne_nil {bs : List UInt8} (h : Sequence bs) : bs ≠ [] := by
  cases h <;> simp

/-- The lead byte says how long the sequence is. -/
theorem Sequence.length_eq {a : UInt8} {bs : List UInt8} (h : Sequence (a :: bs)) : (a :: bs).length = width a := by
  unfold width
  cases h with
  | one ha => rw [if_pos ha]; rfl
  | two ha hb => rw [if_neg (by have := ha.1; simp only [UInt8.le_iff_toNat_le] at *; simp at *; omega), if_pos ha.2]; rfl
  | three ha hb hc hl hs =>
    rw [if_neg (by have := ha.1; simp only [UInt8.le_iff_toNat_le] at *; simp at *; omega),
      if_neg (by have := ha.1; simp only [UInt8.le_iff_toNat_le] at *; simp at *; omega), if_pos ha.2]
    rfl
  | four ha hb hc hd hl hr =>
    rw [if_neg (by have := ha.1; simp only [UInt8.le_iff_toNat_le] at *; simp at *; omega),
      if_neg (by have := ha.1; simp only [UInt8.le_iff_toNat_le] at *; simp at *; omega),
      if_neg (by have := ha.1; simp only [UInt8.le_iff_toNat_le] at *; simp at *; omega)]
    rfl

/-! ## Characters -/

/-- A scalar value as a character. -/
theorem exists_char {n : Nat} (h : n < 0xD800 ∨ (0xDFFF < n ∧ n < 0x110000)) : ∃ c : Char, c.val.toNat = n :=
  ⟨Char.ofNatAux n h, rfl⟩

/-- A character's number is outside of the surrogates and below the end of the code space. -/
theorem char_bounds (c : Char) : c.val.toNat < 0xD800 ∨ (0xDFFF < c.val.toNat ∧ c.val.toNat < 0x110000) := c.valid

/-- Bytes are the same when their values are. -/
theorem ofNat_eq {n : Nat} {b : UInt8} (h : n = b.toNat) : UInt8.ofNat n = b := by
  rw [h]
  exact UInt8.ofNat_toNat

/-- Each sequence is the encoding of a character. -/
theorem Sequence.exists_char {bs : List UInt8} (h : Sequence bs) : ∃ c : Char, String.utf8EncodeChar c = bs := by
  cases h with
  | @one a ha =>
    simp only [UInt8.le_iff_toNat_le] at ha
    simp at ha
    obtain ⟨c, hc⟩ := Utf8.exists_char (n := a.toNat) (by omega)
    refine ⟨c, ?_⟩
    unfold String.utf8EncodeChar
    simp only [hc]
    rw [if_pos (by omega)]
    exact congrArg (fun b => [b]) (ofNat_eq rfl)
  | @two a b ha hb =>
    simp only [Tail, UInt8.le_iff_toNat_le] at ha hb
    simp at ha hb
    obtain ⟨c, hc⟩ := Utf8.exists_char (n := (a.toNat - 0xC0) * 64 + (b.toNat - 0x80)) (by omega)
    refine ⟨c, ?_⟩
    unfold String.utf8EncodeChar
    simp only [hc]
    rw [if_neg (by omega), if_pos (by omega), ofNat_eq (b := a) (by omega), ofNat_eq (b := b) (by omega)]
  | @three a b c ha hb hc hl hs =>
    simp only [Tail, UInt8.le_iff_toNat_le, UInt8.lt_iff_toNat_lt, ← UInt8.toNat_inj] at ha hb hc hl hs
    simp at ha hb hc hl hs
    obtain ⟨x, hx⟩ := Utf8.exists_char (n := (a.toNat - 0xE0) * 4096 + (b.toNat - 0x80) * 64 + (c.toNat - 0x80)) (by omega)
    refine ⟨x, ?_⟩
    unfold String.utf8EncodeChar
    simp only [hx]
    rw [if_neg (by omega), if_neg (by omega), if_pos (by omega), ofNat_eq (b := a) (by omega), ofNat_eq (b := b) (by omega),
      ofNat_eq (b := c) (by omega)]
  | @four a b c d ha hb hc hd hl hr =>
    simp only [Tail, UInt8.le_iff_toNat_le, ← UInt8.toNat_inj] at ha hb hc hd hl hr
    simp at ha hb hc hd hl hr
    obtain ⟨x, hx⟩ := Utf8.exists_char
      (n := (a.toNat - 0xF0) * 262144 + (b.toNat - 0x80) * 4096 + (c.toNat - 0x80) * 64 + (d.toNat - 0x80)) (by omega)
    refine ⟨x, ?_⟩
    unfold String.utf8EncodeChar
    simp only [hx]
    rw [if_neg (by omega), if_neg (by omega), if_neg (by omega), ofNat_eq (b := a) (by omega), ofNat_eq (b := b) (by omega),
      ofNat_eq (b := c) (by omega), ofNat_eq (b := d) (by omega)]

/-- The encoding of a character is a sequence. -/
theorem sequence_encode (c : Char) : Sequence (String.utf8EncodeChar c) := by
  have hc := char_bounds c
  unfold String.utf8EncodeChar
  generalize c.val.toNat = v at hc
  dsimp only
  split
  · refine .one ?_
    simp only [UInt8.le_iff_toNat_le, UInt8.toNat_ofNat']
    simp
    omega
  · split
    · refine .two ?_ ?_ <;> simp only [Tail, UInt8.le_iff_toNat_le, UInt8.toNat_ofNat'] <;> simp <;> omega
    · split
      · refine .three ?_ ?_ ?_ ?_ ?_ <;>
          simp only [Tail, UInt8.le_iff_toNat_le, UInt8.lt_iff_toNat_lt, ← UInt8.toNat_inj, UInt8.toNat_ofNat'] <;> simp <;> omega
      · refine .four ?_ ?_ ?_ ?_ ?_ ?_ <;>
          simp only [Tail, UInt8.le_iff_toNat_le, ← UInt8.toNat_inj, UInt8.toNat_ofNat'] <;> simp <;> omega

/-- The table holds the encodings of the scalar values and nothing else. -/
theorem sequence_iff {bs : List UInt8} : Sequence bs ↔ ∃ c : Char, String.utf8EncodeChar c = bs := by
  refine ⟨Sequence.exists_char, ?_⟩
  rintro ⟨c, rfl⟩
  exact sequence_encode c

/-! ## Byte strings -/

/-- A byte string that encodes a sequence of characters. -/
def WellFormed (bs : List UInt8) : Prop := ∃ cs : List Char, cs.flatMap String.utf8EncodeChar = bs

/-- The empty text is well formed. -/
theorem wellFormed_nil : WellFormed [] := ⟨[], rfl⟩

/-- A string that is well formed and not empty begins with the sequence of a character. -/
theorem WellFormed.split {bs : List UInt8} (h : WellFormed bs) (hbs : bs ≠ []) :
    ∃ xs ys, bs = xs ++ ys ∧ Sequence xs ∧ WellFormed ys := by
  obtain ⟨cs, rfl⟩ := h
  cases cs with
  | nil => exact absurd rfl hbs
  | cons c cs => exact ⟨_, _, List.flatMap_cons .., sequence_encode c, cs, rfl⟩

/-- A sequence in front keeps a text well formed. -/
theorem Sequence.append {xs ys : List UInt8} (hx : Sequence xs) (hy : WellFormed ys) : WellFormed (xs ++ ys) := by
  obtain ⟨c, rfl⟩ := sequence_iff.mp hx
  obtain ⟨cs, rfl⟩ := hy
  exact ⟨c :: cs, List.flatMap_cons ..⟩

/-- Two sequences at the beginning of one string are the same. -/
theorem Sequence.unique {xs xs' ys ys' : List UInt8} (hx : Sequence xs) (hx' : Sequence xs') (h : xs ++ ys = xs' ++ ys') :
    xs = xs' ∧ ys = ys' := by
  obtain ⟨a, as, rfl⟩ := List.exists_cons_of_ne_nil hx.ne_nil
  obtain ⟨b, bs, rfl⟩ := List.exists_cons_of_ne_nil hx'.ne_nil
  obtain rfl : a = b := (List.cons.inj h).1
  exact List.append_inj h (hx.length_eq.trans hx'.length_eq.symm)

/-- Behind the sequence of a character, a string is well formed when the rest of it is. -/
theorem wellFormed_append {xs ys : List UInt8} (hx : Sequence xs) : WellFormed (xs ++ ys) ↔ WellFormed ys := by
  refine ⟨fun h => ?_, hx.append⟩
  obtain ⟨xs', ys', he, hx', hy'⟩ := h.split (by simp [hx.ne_nil])
  exact (hx.unique hx' he).2 ▸ hy'

end Utf8
