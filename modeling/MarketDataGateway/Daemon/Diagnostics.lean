import MarketDataGateway.Lib.Ascii
import MarketDataGateway.Lib.Delimited

/-!
# Texts in a diagnostic

A recovery diagnostic is one line of text in which strings from the network stand. What is written of a string is a token in double
quotes; it has no more than 256 of the string's bytes, and a field behind it says whether any were left out.
-/

namespace MarketDataGateway.Daemon

open Ascii Delimited

def kRecoveryDiagnosticStringLimit : Nat := 256

def hex : Bytes := bytes "0123456789ABCDEF"

def quote : UInt8 := 0x22

def backslash : UInt8 := 0x5C

/-- What `write_escaped` puts out for one byte. -/
def escape (byte : UInt8) : Bytes :=
  if byte = backslash then [backslash, backslash]
  else if byte = quote then [backslash, quote]
  else if byte = code '\n' then [backslash, code 'n']
  else if byte = code '\r' then [backslash, code 'r']
  else if byte = code '\t' then [backslash, code 't']
  else if 0x20 ≤ byte ∧ byte ≤ 0x7E then [byte]
  else [backslash, code 'x'] ++ (hex[(byte >>> 4).toNat]?).toList ++ (hex[(byte &&& 0x0F).toNat]?).toList

def writeEscaped (output value : Bytes) : Bytes :=
  let size := min value.length kRecoveryDiagnosticStringLimit
  (value.take size).foldl (fun output byte => output ++ escape byte) (output ++ [quote]) ++ [quote]

def writeBoundedString (output name value : Bytes) : Bytes :=
  writeEscaped (output ++ bytes " " ++ name ++ bytes "=") value ++ bytes " " ++ name ++ bytes "_truncated=" ++
    (if kRecoveryDiagnosticStringLimit < value.length then bytes "yes" else bytes "no")

/-! ## Reading -/

def Printable (byte : UInt8) : Prop := 0x20 ≤ byte ∧ byte ≤ 0x7E

instance (byte : UInt8) : Decidable (Printable byte) := inferInstanceAs (Decidable (_ ∧ _))

/-- Text between quotes: every quote and every backslash in it is escaped. -/
inductive Escaped : Bytes → Prop where
  | nil : Escaped []
  | plain {byte text} (hq : byte ≠ quote) (hb : byte ≠ backslash) (h : Escaped text) : Escaped (byte :: text)
  | pair {byte text} (h : Escaped text) : Escaped (backslash :: byte :: text)

/-- The text up to the quote that ends it, and what follows; `taken` says that a backslash has taken the next byte with it. -/
def readToken (taken : Bool) : Bytes → Option (Bytes × Bytes)
  | [] => none
  | byte :: rest =>
    if byte = quote ∧ taken = false then some ([], rest)
    else (readToken (byte = backslash ∧ taken = false) rest).map fun r => (byte :: r.1, r.2)

def hexValue (digit : UInt8) : Option UInt8 := (find digit hex).map UInt8.ofNat

/-- The byte that an escape stands for, and what follows. -/
def unescape : Bytes → Option (UInt8 × Bytes)
  | [] => none
  | byte :: rest =>
    if byte ≠ backslash then some (byte, rest)
    else
      match rest with
      | [] => none
      | letter :: rest =>
        if letter = backslash ∨ letter = quote then some (letter, rest)
        else if letter = code 'n' then some (code '\n', rest)
        else if letter = code 'r' then some (code '\r', rest)
        else if letter = code 't' then some (code '\t', rest)
        else if letter = code 'x' then
          match rest with
          | high :: low :: rest =>
            match hexValue high, hexValue low with
            | some high, some low => some (16 * high + low, rest)
            | _, _ => none
          | _ => none
        else none

/-! ## One byte -/

/-- A digit of a hexadecimal number. -/
structure Digit (digit value : UInt8) : Prop where
  value : hexValue digit = some value
  printable : Printable digit
  plain : digit ≠ quote ∧ digit ≠ backslash

/-- The table has the digit of each number below sixteen. -/
theorem hex_digit {value : UInt8} (h : value.toNat < 16) : ∃ digit, hex[value.toNat]? = some digit ∧ Digit digit value := by
  have hdigits : ∀ n : Fin 16, ∃ digit, hex[n.val]? = some digit ∧ hexValue digit = some (UInt8.ofNat n.val) ∧
      Printable digit ∧ digit ≠ quote ∧ digit ≠ backslash := by decide
  obtain ⟨digit, hdigit, hvalue, hprintable, hplain⟩ := hdigits ⟨value.toNat, h⟩
  rw [UInt8.ofNat_toNat] at hvalue
  exact ⟨digit, hdigit, hvalue, hprintable, hplain⟩

/-- The upper half of a byte is its quotient by sixteen. -/
theorem high_digit (byte : UInt8) : (byte >>> 4).toNat = byte.toNat / 16 := by
  simp [UInt8.toNat_shiftRight, Nat.shiftRight_eq_div_pow]

/-- The lower half of a byte is its remainder by sixteen. -/
theorem low_digit (byte : UInt8) : (byte &&& 0x0F).toNat = byte.toNat % 16 := by
  simp only [UInt8.toNat_and]
  exact Nat.and_two_pow_sub_one_eq_mod byte.toNat 4

/-- A byte is what its two digits say. -/
theorem digits_byte (byte : UInt8) : (16 : UInt8) * (byte >>> 4) + (byte &&& 0x0F) = byte := by
  apply UInt8.toNat_inj.mp
  have hbyte := byte.toNat_lt
  simp only [UInt8.toNat_add, UInt8.toNat_mul, high_digit, low_digit]
  simp
  omega

/-- The three forms of an escape: a backslash and a letter, the byte itself, or a backslash, an `x` and two digits. -/
theorem escape_cases (byte : UInt8) :
    (∃ letter, escape byte = [backslash, letter] ∧ Printable letter ∧
      ∀ rest, unescape (backslash :: letter :: rest) = some (byte, rest)) ∨
    (escape byte = [byte] ∧ Printable byte ∧ byte ≠ quote ∧ byte ≠ backslash) ∨
    (∃ high low, escape byte = [backslash, code 'x', high, low] ∧ Digit high (byte >>> 4) ∧ Digit low (byte &&& 0x0F)) := by
  by_cases hb : byte = backslash
  · subst hb
    exact Or.inl ⟨backslash, rfl, by decide, fun rest => rfl⟩
  by_cases hq : byte = quote
  · subst hq
    exact Or.inl ⟨quote, rfl, by decide, fun rest => rfl⟩
  by_cases hn : byte = code '\n'
  · subst hn
    exact Or.inl ⟨code 'n', rfl, by decide, fun rest => rfl⟩
  by_cases hr : byte = code '\r'
  · subst hr
    exact Or.inl ⟨code 'r', rfl, by decide, fun rest => rfl⟩
  by_cases ht : byte = code '\t'
  · subst ht
    exact Or.inl ⟨code 't', rfl, by decide, fun rest => rfl⟩
  by_cases hp : 0x20 ≤ byte ∧ byte ≤ 0x7E
  · exact Or.inr (Or.inl ⟨by simp [escape, hb, hq, hn, hr, ht, hp], hp, hq, hb⟩)
  · have hbyte := byte.toNat_lt
    obtain ⟨high, hhigh, hdigit⟩ := @hex_digit (byte >>> 4) (by rw [high_digit]; omega)
    obtain ⟨low, hlow, hdigit'⟩ := @hex_digit (byte &&& 0x0F) (by rw [low_digit]; omega)
    refine Or.inr (Or.inr ⟨high, low, ?_, hdigit, hdigit'⟩)
    rw [escape, if_neg hb, if_neg hq, if_neg hn, if_neg hr, if_neg ht, if_neg hp, hhigh, hlow]
    rfl

/-- An escape is read as its byte, whatever follows. -/
theorem unescape_escape (byte : UInt8) (rest : Bytes) : unescape (escape byte ++ rest) = some (byte, rest) := by
  rcases escape_cases byte with ⟨letter, he, -, hread⟩ | ⟨he, -, -, hb⟩ | ⟨high, low, he, hhigh, hlow⟩
  · rw [he]
    exact hread rest
  · rw [he]
    simp [unescape, hb]
  · rw [he]
    simp [unescape, hhigh.value, hlow.value, digits_byte, show code 'x' ≠ backslash by decide, show code 'x' ≠ quote by decide,
      show code 'x' ≠ code 'n' by decide, show code 'x' ≠ code 'r' by decide, show code 'x' ≠ code 't' by decide]

/-- Reading a byte takes up some of the text. -/
theorem unescape_shorter (text : Bytes) (byte : UInt8) (rest : Bytes) (h : unescape text = some (byte, rest)) :
    rest.length < text.length := by
  unfold unescape at h
  grind

def escapes : Code UInt8 UInt8 where
  write := escape
  read := unescape
  read_write := unescape_escape
  read_shorter := unescape_shorter

/-- An escaped byte does not begin with a quote. -/
theorem escape_head (byte : UInt8) : (escape byte).head? ≠ some quote := by
  rcases escape_cases byte with ⟨letter, he, -, -⟩ | ⟨he, -, hq, -⟩ | ⟨high, low, he, -, -⟩
  · simp [he, show backslash ≠ quote by decide]
  · simp [he, hq]
  · simp [he, show backslash ≠ quote by decide]

/-- An escaped byte is printable. -/
theorem escape_printable (byte : UInt8) : ∀ b ∈ escape byte, Printable b := by
  rcases escape_cases byte with ⟨letter, he, hl, -⟩ | ⟨he, hp, -, -⟩ | ⟨high, low, he, hhigh, hlow⟩
  · simp [he, hl, show Printable backslash by decide]
  · simp [he, hp]
  · simp [he, hhigh.printable, hlow.printable, show Printable backslash by decide, show Printable (code 'x') by decide]

/-- An escaped byte in front keeps a text escaped. -/
theorem escape_escaped (byte : UInt8) {text : Bytes} (h : Escaped text) : Escaped (escape byte ++ text) := by
  rcases escape_cases byte with ⟨letter, he, -, -⟩ | ⟨he, -, hq, hb⟩ | ⟨high, low, he, hhigh, hlow⟩
  · rw [he]
    exact .pair h
  · rw [he]
    exact .plain hq hb h
  · rw [he]
    exact .pair (.plain hhigh.plain.1 hhigh.plain.2 (.plain hlow.plain.1 hlow.plain.2 h))

/-! ## A string -/

/-- What is written of a string stands behind what there was: a quote, the escapes of its first bytes, and a quote. -/
theorem writeEscaped_eq (output value : Bytes) :
    writeEscaped output value = output ++ quote :: escapes.writeRow quote (value.take kRecoveryDiagnosticStringLimit) := by
  have htake : value.take (min value.length kRecoveryDiagnosticStringLimit) = value.take kRecoveryDiagnosticStringLimit := by
    rw [Nat.min_comm, ← List.take_eq_take_min]
  rw [writeEscaped, htake, List.foldl_append_eq_append]
  simp [Code.writeRow, escapes, List.flatMap_def]

/-- Escaped bytes are an escaped text. -/
theorem flatMap_escaped (row : Bytes) : Escaped (row.flatMap escape) := by
  induction row with
  | nil => exact .nil
  | cons byte row ih =>
    rw [List.flatMap_cons]
    exact escape_escaped byte ih

/-- A reader of escaped text finds the quote behind it. -/
theorem readToken_escaped {text : Bytes} (h : Escaped text) (rest : Bytes) :
    readToken false (text ++ quote :: rest) = some (text, rest) := by
  induction h with
  | nil => simp [readToken]
  | @plain byte text hq hb h ih => simp [readToken, hq, hb, ih]
  | @pair byte text h ih => simp [readToken, show backslash ≠ quote by decide, ih]

/-- The string behind a quote, and what follows the token. -/
def readEscaped : Bytes → Option (Bytes × Bytes)
  | [] => none
  | byte :: rest => if byte = quote then escapes.readRow quote rest else none

/-- What was written is read back, up to the limit. -/
theorem readEscaped_writeEscaped (value rest : Bytes) :
    readEscaped (writeEscaped [] value ++ rest) = some (value.take kRecoveryDiagnosticStringLimit, rest) := by
  rw [writeEscaped_eq, List.nil_append, List.cons_append, readEscaped, if_pos rfl]
  exact escapes.readRow_writeRow (fun byte _ => escape_head byte) rest

/-- What is written of a string is a token of printable characters that ends with its own last quote and tells the string's first 256
bytes; the field behind it tells whether there were more. -/
theorem escaping_is_reversible (value : Bytes) :
    (∀ output, ∃ body, writeEscaped output value = output ++ quote :: body ++ [quote] ∧
      Escaped body ∧ (∀ byte ∈ body, Printable byte) ∧ ∀ rest, readToken false (body ++ quote :: rest) = some (body, rest)) ∧
    (∀ rest, readEscaped (writeEscaped [] value ++ rest) = some (value.take kRecoveryDiagnosticStringLimit, rest)) ∧
    (∀ other, value.length ≤ kRecoveryDiagnosticStringLimit → other.length ≤ kRecoveryDiagnosticStringLimit →
      writeEscaped [] value = writeEscaped [] other → value = other) ∧
    ∀ output name, (bytes "_truncated=yes" <:+ writeBoundedString output name value ↔
      kRecoveryDiagnosticStringLimit < value.length) := by
  refine ⟨fun output => ?_, fun rest => readEscaped_writeEscaped value rest, fun other hv ho he => ?_, fun output name => ?_⟩
  · refine ⟨(value.take kRecoveryDiagnosticStringLimit).flatMap escape, ?_, flatMap_escaped _, ?_,
      readToken_escaped (flatMap_escaped _)⟩
    · simp [writeEscaped_eq, Code.writeRow, escapes]
    · intro byte hbyte
      obtain ⟨source, -, hsource⟩ := List.mem_flatMap.mp hbyte
      exact escape_printable source byte hsource
  · have hread := readEscaped_writeEscaped value []
    rw [he, readEscaped_writeEscaped other [], List.take_of_length_le hv, List.take_of_length_le ho] at hread
    cases hread
    rfl
  · unfold writeBoundedString
    split
    · rename_i hmore
      exact iff_of_true ⟨_, by rw [show bytes "_truncated=yes" = bytes "_truncated=" ++ bytes "yes" from rfl, ← List.append_assoc]⟩ hmore
    · rename_i hnot
      refine iff_of_false ?_ hnot
      rintro ⟨before, he⟩
      rw [show bytes "_truncated=yes" = bytes "_truncated=y" ++ bytes "es" from rfl, ← List.append_assoc] at he
      have hlast := List.append_inj_right' he rfl
      exact absurd hlast (by decide)

end MarketDataGateway.Daemon
