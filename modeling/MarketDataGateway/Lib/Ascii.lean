import Mathlib.Data.List.TakeWhile
import Mathlib.Data.List.Induction
import Mathlib.Tactic.Ring

/-!
# Reading ASCII bytes

The searches and the number scanner that a standard library has on byte strings, and what a search or a number that was read says about
the bytes.
-/

namespace Ascii

abbrev Bytes := List UInt8

/-- The ASCII code of a character. -/
def code (c : Char) : UInt8 := UInt8.ofNat c.toNat

def bytes (text : String) : Bytes := text.toList.map code

/-- A text has one byte for each character. -/
theorem length_bytes (text : List Char) : (bytes (String.ofList text)).length = text.length := by
  simp [bytes]

/-- Where a byte first stands. -/
def find (byte : UInt8) (value : Bytes) : Option Nat := value.findIdx? (· == byte)

/-- Where a byte last stands. -/
def rfind (byte : UInt8) (value : Bytes) : Option Nat := (find byte value.reverse).map fun i => value.length - 1 - i

/-- Where the last byte stands that is another one. -/
def findLastNot (byte : UInt8) (value : Bytes) : Option Nat :=
  (value.reverse.findIdx? (· != byte)).map fun i => value.length - 1 - i

def isDigit (byte : UInt8) : Bool := code '0' ≤ byte && byte ≤ code '9'

def decimalValue (digits : Bytes) : Nat := digits.foldl (fun n byte => 10 * n + (byte.toNat - (code '0').toNat)) 0

/-- `std::from_chars` for an unsigned number of 32 bits: the number that the text begins with and what follows it, or `none` when
there is none or it is too large. -/
def fromChars (text : Bytes) : Option (Nat × Bytes) :=
  let digits := text.takeWhile isDigit
  if digits.isEmpty || 2 ^ 32 ≤ decimalValue digits then none else some (decimalValue digits, text.dropWhile isDigit)

/-! ## What was found -/

variable {byte : UInt8} {value : Bytes} {i : Nat}

/-- Dropping up to and with a byte leaves what is behind it. -/
theorem drop_cons (before : Bytes) (byte : UInt8) (after : Bytes) :
    (before ++ byte :: after).drop (before.length + 1) = after := by
  simp

/-- Nothing is found just when the byte does not occur. -/
theorem find_eq_none : find byte value = none ↔ byte ∉ value := by
  unfold find
  simp only [List.findIdx?_eq_none_iff, beq_eq_false_iff_ne, ne_eq]
  constructor
  · intro h hmem
    exact h byte hmem rfl
  · rintro h b hb rfl
    exact h hb

/-- The first occurrence is found. -/
theorem find_append {before after : Bytes} (h : byte ∉ before) : find byte (before ++ byte :: after) = some before.length := by
  unfold find
  rw [List.findIdx?_append, List.findIdx?_eq_none_iff.mpr]
  · simp [List.findIdx?_cons]
  · intro b hb
    simp only [beq_eq_false_iff_ne]
    rintro rfl
    exact h hb

/-- What is found is the first occurrence. -/
theorem find_eq_some (h : find byte value = some i) :
    ∃ before after, value = before ++ byte :: after ∧ byte ∉ before ∧ before.length = i := by
  unfold find at h
  obtain ⟨hi, hbyte, hbefore⟩ := List.findIdx?_eq_some_iff_getElem.mp h
  simp only [beq_iff_eq] at hbyte
  refine ⟨value.take i, value.drop (i + 1), ?_, ?_, by simp; omega⟩
  · rw [← hbyte, List.getElem_cons_drop, List.take_append_drop]
  · intro hmem
    obtain ⟨j, hj, he⟩ := List.getElem_of_mem hmem
    rw [List.getElem_take] at he
    simp only [List.length_take] at hj
    exact hbefore j (by omega) (by simpa using he)

/-- The last occurrence is found from behind. -/
theorem rfind_append {before after : Bytes} (h : byte ∉ after) : rfind byte (before ++ byte :: after) = some before.length := by
  unfold rfind
  rw [List.reverse_append, List.reverse_cons, List.append_assoc, List.singleton_append, find_append (by simpa using h)]
  simp

/-- What is found from behind is the last occurrence. -/
theorem rfind_eq_some (h : rfind byte value = some i) :
    ∃ before after, value = before ++ byte :: after ∧ byte ∉ after ∧ before.length = i := by
  unfold rfind at h
  obtain ⟨j, hj, rfl⟩ := Option.map_eq_some_iff.mp h
  obtain ⟨after, before, he, hafter, rfl⟩ := find_eq_some hj
  have hvalue : value = before.reverse ++ byte :: after.reverse := by
    rw [← List.reverse_reverse value, he]
    simp
  refine ⟨before.reverse, after.reverse, hvalue, by simpa using hafter, ?_⟩
  rw [hvalue]
  simp

/-- A text that is not one byte over and over ends with a run of it behind some other byte. -/
theorem findLastNot_cases (byte : UInt8) (value : Bytes) :
    (findLastNot byte value = none ∧ value = List.replicate value.length byte) ∨
      ∃ before last n, value = before ++ last :: List.replicate n byte ∧ last ≠ byte ∧
        findLastNot byte value = some before.length := by
  unfold findLastNot
  cases h : value.reverse.findIdx? (· != byte) with
  | none =>
    refine .inl ⟨rfl, List.eq_replicate_iff.mpr ⟨rfl, fun b hb => ?_⟩⟩
    simpa using List.findIdx?_eq_none_iff.mp h b (by simpa using hb)
  | some i =>
    obtain ⟨hi, hlast, hrun⟩ := List.findIdx?_eq_some_iff_getElem.mp h
    have hlength : i < value.length := by simpa using hi
    have hvalue : value.reverse = List.replicate i byte ++ value.reverse[i] :: value.reverse.drop (i + 1) := by
      rw [List.getElem_cons_drop]
      nth_rewrite 1 [← List.take_append_drop i value.reverse]
      congr 1
      refine List.eq_replicate_iff.mpr ⟨by simp; omega, fun b hb => ?_⟩
      obtain ⟨j, hj, rfl⟩ := List.getElem_of_mem hb
      rw [List.getElem_take]
      simp only [List.length_take] at hj
      simpa using hrun j (by omega)
    refine .inr ⟨(value.reverse.drop (i + 1)).reverse, value.reverse[i], i, ?_, by simpa using hlast, ?_⟩
    · have hback := congrArg List.reverse hvalue
      rw [List.reverse_reverse] at hback
      simpa using hback
    · simp
      omega

/-- A text of one byte alone has no other byte in it. -/
theorem findLastNot_replicate (byte : UInt8) (n : Nat) : findLastNot byte (List.replicate n byte) = none := by
  unfold findLastNot
  rw [Option.map_eq_none_iff, List.findIdx?_eq_none_iff]
  intro b hb
  simpa using (List.mem_replicate.mp (List.mem_reverse.mp hb)).2

/-- The last byte that differs is the one before the repetitions. -/
theorem findLastNot_append {before : Bytes} {last byte : UInt8} (hlast : last ≠ byte) (n : Nat) :
    findLastNot byte (before ++ last :: List.replicate n byte) = some before.length := by
  rcases findLastNot_cases byte (before ++ last :: List.replicate n byte) with ⟨-, hrun⟩ | ⟨before', last', n', heq, hlast', hfind⟩
  · have hmem : last ∈ before ++ last :: List.replicate n byte := by simp
    rw [hrun] at hmem
    exact absurd (List.mem_replicate.mp hmem).2 hlast
  · rw [hfind]
    -- The run behind the last other byte is as long in either reading.
    have htake := congrArg (fun text => (text.reverse.takeWhile (· == byte)).length) heq
    have hcount : ∀ {before : Bytes} {last : UInt8} (n : Nat), last ≠ byte →
        ((before ++ last :: List.replicate n byte).reverse.takeWhile (· == byte)).length = n := by
      intro before last n hne
      rw [List.reverse_append, List.reverse_cons, List.reverse_replicate, List.append_assoc, List.takeWhile_append_of_pos (by simp)]
      simp [hne]
    simp only [hcount n hlast, hcount n' hlast'] at htake
    have hlength := congrArg List.length heq
    simp only [List.length_append, List.length_cons, List.length_replicate] at hlength
    congr 1
    omega

/-! ## Numbers -/

/-- The digits in front count for as many powers of ten as digits follow. -/
theorem decimalValue_append (xs ys : Bytes) : decimalValue (xs ++ ys) = decimalValue xs * 10 ^ ys.length + decimalValue ys := by
  unfold decimalValue
  rw [List.foldl_append]
  generalize xs.foldl (fun n byte => 10 * n + (byte.toNat - (code '0').toNat)) 0 = n
  induction ys using List.reverseRecOn with
  | nil => simp
  | append_singleton ys y ih =>
    simp only [List.foldl_append, List.foldl_cons, List.foldl_nil, ih, List.length_append, List.length_singleton, pow_succ]
    ring

/-- A single digit counts for itself. -/
theorem decimalValue_singleton (byte : UInt8) : decimalValue [byte] = byte.toNat - (code '0').toNat := by
  simp [decimalValue]

/-- Zeros count for nothing. -/
theorem decimalValue_zeros (n : Nat) : decimalValue (List.replicate n (code '0')) = 0 := by
  induction n with
  | zero => rfl
  | succ n ih => rw [List.replicate_succ', decimalValue_append, ih, decimalValue_singleton]; simp

/-- A digit other than zero counts. -/
theorem digit_bounds {byte : UInt8} (h : isDigit byte = true) (hne : byte ≠ code '0') :
    0 < byte.toNat - (code '0').toNat ∧ byte.toNat - (code '0').toNat < 10 := by
  simp only [isDigit, Bool.and_eq_true, decide_eq_true_eq, UInt8.le_iff_toNat_le, ne_eq, ← UInt8.toNat_inj, code] at *
  simp at *
  omega

/-- A number is zero when all of its digits are. -/
theorem decimalValue_eq_zero {digits : Bytes} (h : ∀ byte ∈ digits, isDigit byte = true) :
    decimalValue digits = 0 ↔ ∀ byte ∈ digits, byte = code '0' := by
  induction digits using List.reverseRecOn with
  | nil => simp [decimalValue]
  | append_singleton digits byte ih =>
    rw [decimalValue_append, decimalValue_singleton, List.forall_mem_append, List.forall_mem_singleton,
      ← ih fun b hb => h b (List.mem_append_left _ hb)]
    simp only [List.length_singleton, pow_one, Nat.add_eq_zero_iff, Nat.mul_eq_zero, OfNat.ofNat_ne_zero, or_false]
    refine and_congr_right fun _ => ⟨fun hzero => ?_, ?_⟩
    · by_contra hne
      have := digit_bounds (h byte (by simp)) hne
      omega
    · rintro rfl
      simp

/-- A number that a whole text was read as is written with digits and nothing else. -/
theorem fromChars_digits {number : Nat} (h : fromChars value = some (number, [])) :
    value ≠ [] ∧ ∀ b ∈ value, isDigit b = true := by
  unfold fromChars at h
  dsimp only at h
  split at h
  · cases h
  · rename_i hnot
    simp only [Option.some.injEq, Prod.mk.injEq] at h
    refine ⟨?_, List.dropWhile_eq_nil_iff.mp h.2⟩
    rintro rfl
    exact hnot (by simp)

/-! ## Pieces between separators -/

/-- A byte of a row of pieces is a separator or it is in one of the pieces. -/
theorem mem_intercalate {separator b : UInt8} {pieces : List Bytes} (h : b ∈ [separator].intercalate pieces) :
    b = separator ∨ ∃ piece ∈ pieces, b ∈ piece := by
  induction pieces with
  | nil => simp [List.intercalate] at h
  | cons piece pieces ih =>
    cases pieces with
    | nil => exact .inr ⟨piece, by simp, by simpa [List.intercalate] using h⟩
    | cons next pieces =>
      rw [List.intercalate_cons_cons] at h
      rcases List.mem_append.mp h with h | h
      · rcases List.mem_append.mp h with h | h
        · exact .inr ⟨piece, by simp, h⟩
        · exact .inl (by simpa using h)
      · rcases ih h with h | ⟨p, hp, h⟩
        · exact .inl h
        · exact .inr ⟨p, List.mem_cons_of_mem _ hp, h⟩

/-- A row of short pieces is short. -/
theorem length_intercalate (separator : UInt8) {pieces : List Bytes} {bound : Nat} (h : ∀ piece ∈ pieces, piece.length ≤ bound) :
    ([separator].intercalate pieces).length ≤ pieces.length * (bound + 1) := by
  induction pieces with
  | nil => simp [List.intercalate]
  | cons piece pieces ih =>
    have hpiece := h piece (by simp)
    cases pieces with
    | nil => simpa [List.intercalate] using by omega
    | cons next pieces =>
      have hrest := ih fun p hp => h p (List.mem_cons_of_mem _ hp)
      rw [List.intercalate_cons_cons]
      rw [List.length_cons (a := piece), Nat.succ_mul]
      simp only [List.length_append, List.length_singleton]
      omega

end Ascii
