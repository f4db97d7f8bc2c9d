import MarketDataGateway.Lib.Ascii
import Mathlib.Algebra.Order.Field.Rat
import Mathlib.Data.Rat.Cast.CharZero
import Mathlib.Order.Bounds.Basic
import Mathlib.Tactic.FieldSimp
import Mathlib.Tactic.Positivity

/-!
# Plain decimals

Digits with at most one point between them, the number they stand for, and how many places behind the point it takes: a number has no
fewer places than the last digit that counts says.
-/

namespace Decimal

open Ascii

def Digits (text : Bytes) : Prop := ∀ byte ∈ text, isDigit byte = true

/-- Digits, and digits behind a point where there is one. -/
inductive Plain : Bytes → Prop where
  | whole {whole : Bytes} (hwhole : whole ≠ []) (digits : Digits whole) : Plain whole
  | point {whole fraction : Bytes} (hwhole : whole ≠ []) (digits : Digits whole) (hfraction : fraction ≠ [])
      (digits' : Digits fraction) : Plain (whole ++ code '.' :: fraction)

/-- A text before and behind its first point. -/
def split (text : Bytes) : Bytes × Bytes :=
  match find (code '.') text with
  | none => (text, [])
  | some point => (text.take point, text.drop (point + 1))

/-- The number that a plain decimal stands for. -/
def value (text : Bytes) : ℚ := decimalValue (split text).1 + decimalValue (split text).2 / 10 ^ (split text).2.length

/-- The places behind the point that a number can be written with. -/
def Places (q : ℚ) : Set Nat := {n | ∃ k : Int, q * 10 ^ n = k}

variable {whole fraction text : Bytes}

/-- There is no point among digits. -/
theorem Digits.no_point (h : Digits whole) : code '.' ∉ whole := by
  intro hmem
  exact absurd (h _ hmem) (by decide)

/-- A plain decimal is not empty. -/
theorem Plain.ne_nil (h : Plain text) : text ≠ [] := by
  cases h with
  | whole hwhole => exact hwhole
  | point => simp

/-- Without a point all of the text is the whole part. -/
theorem split_of_no_point (h : code '.' ∉ text) : split text = (text, []) := by
  unfold split
  rw [find_eq_none.mpr h]

/-- The first point divides the whole part from the fraction. -/
theorem split_point (h : code '.' ∉ whole) : split (whole ++ code '.' :: fraction) = (whole, fraction) := by
  unfold split
  rw [find_append h]
  simp

/-- Digits without a point have their decimal value. -/
theorem value_whole (h : Digits whole) : value whole = decimalValue whole := by
  simp [value, split_of_no_point h.no_point, decimalValue]

/-- The point divides by a power of ten. -/
theorem value_point (h : Digits whole) :
    value (whole ++ code '.' :: fraction) = decimalValue (whole ++ fraction) / 10 ^ fraction.length := by
  unfold value
  rw [split_point h.no_point, decimalValue_append]
  dsimp only
  push_cast
  field_simp

/-- No text has a negative value. -/
theorem value_nonneg (text : Bytes) : 0 ≤ value text := by
  unfold value
  positivity

/-! ## Zero -/

/-- A plain decimal is zero when every digit of it is. -/
theorem Plain.value_eq_zero (h : Plain text) : value text = 0 ↔ ∀ byte ∈ text, byte = code '0' ∨ byte = code '.' := by
  cases h with
  | whole hwhole hdigits =>
    rw [value_whole hdigits, Nat.cast_eq_zero, decimalValue_eq_zero hdigits]
    refine forall₂_congr fun byte hbyte => (or_iff_left ?_).symm
    rintro rfl
    exact hdigits.no_point hbyte
  | @point whole fraction hwhole hdigits hfraction hdigits' =>
    rw [value_point hdigits, div_eq_zero_iff, or_iff_left (by positivity), Nat.cast_eq_zero,
      decimalValue_eq_zero (List.forall_mem_append.mpr ⟨hdigits, hdigits'⟩)]
    constructor
    · intro hzero byte hbyte
      rcases List.mem_append.mp hbyte with hbyte | hbyte
      · exact .inl (hzero byte (List.mem_append_left _ hbyte))
      · rcases List.mem_cons.mp hbyte with rfl | hbyte
        · exact .inr rfl
        · exact .inl (hzero byte (List.mem_append_right _ hbyte))
    · intro hzero byte hbyte
      rcases List.mem_append.mp hbyte with hbyte | hbyte
      · refine (hzero byte (List.mem_append_left _ hbyte)).resolve_right ?_
        rintro rfl
        exact hdigits.no_point hbyte
      · refine (hzero byte (List.mem_append_right _ (List.mem_cons_of_mem _ hbyte))).resolve_right ?_
        rintro rfl
        exact Digits.no_point hdigits' hbyte

/-- A plain decimal is positive just when a digit in it is not zero. -/
theorem Plain.value_pos (h : Plain text) : 0 < value text ↔ ∃ byte ∈ text, byte ≠ code '0' ∧ byte ≠ code '.' := by
  rw [(value_nonneg text).lt_iff_ne', ne_eq, h.value_eq_zero]
  push Not
  rfl

/-! ## Places -/

/-- A number whose last digit counts has as many places as it is written with. -/
theorem isLeast_places {n s : Nat} (h : s = 0 ∨ n % 10 ≠ 0) : IsLeast (Places (n / 10 ^ s)) s := by
  constructor
  · exact ⟨n, by push_cast; field_simp⟩
  · rintro t ⟨k, hk⟩
    by_contra hlt
    rw [not_le] at hlt
    obtain ⟨d, rfl⟩ := Nat.exists_eq_add_of_lt hlt
    refine (h.resolve_left (by omega)) ?_
    -- With fewer places, the number is a multiple of ten.
    have hten : (n : ℚ) = (k * 10 ^ d * 10 : Int) := by
      rw [div_mul_eq_mul_div, div_eq_iff (by positivity), pow_add, pow_add] at hk
      have hcancel : (n : ℚ) * 10 ^ t = (k * 10 ^ d * 10) * 10 ^ t := by rw [hk]; ring
      push_cast
      exact mul_right_cancel₀ (by positivity) hcancel
    have hint : (n : Int) = k * 10 ^ d * 10 := by exact_mod_cast hten
    omega

/-- Zeros behind the last digit of a fraction do not count. -/
theorem value_point_zeros (fraction : Bytes) (h : Digits whole) (n : Nat) :
    value (whole ++ code '.' :: (fraction ++ List.replicate n (code '0'))) =
      decimalValue (whole ++ fraction) / 10 ^ fraction.length := by
  rw [value_point h, ← List.append_assoc, decimalValue_append (whole ++ fraction), decimalValue_zeros]
  simp only [List.length_append, List.length_replicate, add_zero, pow_add]
  push_cast
  field_simp

end Decimal
