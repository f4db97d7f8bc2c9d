import MarketDataGateway.Lib.Ascii

/-!
# Numeric addresses

The texts of IPv4 and IPv6 addresses, piece by piece between their separators: four decimal octets, or eight groups of hexadecimal
digits with one run of zeros left out at `::`, where the last two groups may be written as an IPv4 address. A text of either form is
short and has few kinds of characters.
-/

namespace IpLiteral

open Ascii

def isHexDigit (byte : UInt8) : Bool :=
  isDigit byte || (code 'a' ≤ byte && byte ≤ code 'f') || (code 'A' ≤ byte && byte ≤ code 'F')

/-- A number up to 255 without leading zeros. -/
def Octet (piece : Bytes) : Prop :=
  piece ≠ [] ∧ piece.length ≤ 3 ∧ (∀ byte ∈ piece, isDigit byte = true) ∧ decimalValue piece ≤ 255 ∧
    (piece.head? = some (code '0') → piece.length = 1)

instance (piece : Bytes) : Decidable (Octet piece) := inferInstanceAs (Decidable (_ ∧ _))

def V4 (text : Bytes) : Prop := (text.splitOn (code '.')).length = 4 ∧ ∀ piece ∈ text.splitOn (code '.'), Octet piece

instance (text : Bytes) : Decidable (V4 text) := inferInstanceAs (Decidable (_ ∧ _))

def Group (piece : Bytes) : Prop := piece ≠ [] ∧ piece.length ≤ 4 ∧ ∀ byte ∈ piece, isHexDigit byte = true

instance (piece : Bytes) : Decidable (Group piece) := inferInstanceAs (Decidable (_ ∧ _))

/-- How many groups the pieces stand for; an IPv4 address at the end stands for two. -/
def groupCount : List Bytes → Option Nat
  | [] => none
  | [piece] => if Group piece then some 1 else if V4 piece then some 2 else none
  | piece :: rest => if Group piece then (groupCount rest).map (· + 1) else none

/-- How many groups a text without `::` stands for. -/
def groups (text : Bytes) : Option Nat := if text = [] then some 0 else groupCount (text.splitOn (code ':'))

/-- The text before and behind a `::` stands for fewer than eight groups. -/
def Compressed (before after : Bytes) : Prop :=
  code '.' ∉ before ∧ (groups before).isSome = true ∧ (groups after).isSome = true ∧
    (groups before).getD 0 + (groups after).getD 0 < 8

instance (before after : Bytes) : Decidable (Compressed before after) := inferInstanceAs (Decidable (_ ∧ _))

def V6 (text : Bytes) : Prop :=
  groups text = some 8 ∨
    ∃ i < text.length, text[i]? = some (code ':') ∧ text[i + 1]? = some (code ':') ∧ Compressed (text.take i) (text.drop (i + 2))

instance (text : Bytes) : Decidable (V6 text) := inferInstanceAs (Decidable (_ ∨ _))

/-! ## Characters -/

/-- What the text of an IPv4 address is made of. -/
def V4Character (byte : UInt8) : Prop := isDigit byte = true ∨ byte = code '.'

/-- What the text of an IPv6 address is made of. -/
def V6Character (byte : UInt8) : Prop := isHexDigit byte = true ∨ byte = code '.' ∨ byte = code ':'

/-- What may stand in an IPv4 address may stand in an IPv6 address. -/
theorem V4Character.toV6 {byte : UInt8} (h : V4Character byte) : V6Character byte := by
  rcases h with h | h
  · exact .inl (by simp [isHexDigit, h])
  · exact .inr (.inl h)

/-- An IPv4 address is made of digits and points. -/
theorem V4.characters {text : Bytes} (h : V4 text) : ∀ byte ∈ text, V4Character byte := by
  intro byte hbyte
  rw [← @List.intercalate_splitOn _ text _ _ (code '.')] at hbyte
  rcases mem_intercalate hbyte with hdot | ⟨piece, hpiece, hmem⟩
  · exact .inr hdot
  · exact .inl ((h.2 piece hpiece).2.2.1 byte hmem)

/-- An IPv4 address is not empty. -/
theorem V4.ne_nil {text : Bytes} (h : V4 text) : text ≠ [] := by
  rintro rfl
  exact absurd h.1 (by decide)

/-- An IPv4 address has at most sixteen characters, four for each of its numbers. -/
theorem V4.length_le {text : Bytes} (h : V4 text) : text.length ≤ 16 := by
  have hle := length_intercalate (code '.') fun piece hpiece => (h.2 piece hpiece).2.1
  rw [List.intercalate_splitOn, h.1] at hle
  exact hle

/-- The pieces of a row of groups. -/
def Piece (piece : Bytes) : Prop := Group piece ∨ V4 piece

/-- The pieces between colons are hexadecimal digits or an IPv4 address. -/
theorem Piece.characters {piece : Bytes} (h : Piece piece) : ∀ byte ∈ piece, V6Character byte := by
  intro byte hbyte
  rcases h with h | h
  · exact .inl (h.2.2 byte hbyte)
  · exact (h.characters byte hbyte).toV6

/-- A piece is no longer than an IPv4 address. -/
theorem Piece.length_le {piece : Bytes} (h : Piece piece) : piece.length ≤ 16 := by
  rcases h with h | h
  · exact h.2.1.trans (by decide)
  · exact h.length_le

/-- Pieces that are counted are well formed, and each counts for a group at least. -/
theorem groupCount_pieces {pieces : List Bytes} {n : Nat} (h : groupCount pieces = some n) :
    (∀ piece ∈ pieces, Piece piece) ∧ pieces.length ≤ n := by
  induction pieces generalizing n with
  | nil => cases h
  | cons piece rest ih =>
    cases rest with
    | nil =>
      simp only [groupCount] at h
      split at h
      · rename_i hgroup
        cases h
        exact ⟨by simpa using .inl hgroup, by simp⟩
      · split at h
        · rename_i hv4
          cases h
          exact ⟨by simpa using .inr hv4, by simp⟩
        · cases h
    | cons next rest =>
      simp only [groupCount] at h
      split at h
      · rename_i hgroup
        obtain ⟨m, hm, rfl⟩ := Option.map_eq_some_iff.mp h
        obtain ⟨hpieces, hlength⟩ := ih hm
        exact ⟨List.forall_mem_cons.mpr ⟨.inl hgroup, hpieces⟩, Nat.succ_le_succ hlength⟩
      · cases h

/-- A text that splits into groups has only characters of an IPv6 address. -/
theorem groups_characters {text : Bytes} {n : Nat} (h : groups text = some n) : ∀ byte ∈ text, V6Character byte := by
  unfold groups at h
  split at h
  · rename_i hnil
    simp [hnil]
  · intro byte hbyte
    rw [← @List.intercalate_splitOn _ text _ _ (code ':')] at hbyte
    rcases mem_intercalate hbyte with hcolon | ⟨piece, hpiece, hmem⟩
    · exact .inr (.inr hcolon)
    · exact ((groupCount_pieces h).1 piece hpiece).characters byte hmem

/-- A group and its colon take up at most seventeen characters. -/
theorem groups_length {text : Bytes} {n : Nat} (h : groups text = some n) : text.length ≤ n * 17 := by
  unfold groups at h
  split at h
  · rename_i hnil
    simp [hnil]
  · obtain ⟨hpieces, hn⟩ := groupCount_pieces h
    have hle := length_intercalate (code ':') fun piece hpiece => (hpieces piece hpiece).length_le
    rw [List.intercalate_splitOn] at hle
    exact hle.trans (Nat.mul_le_mul_right _ hn)

/-- Two neighbouring bytes cut a text into what is before them and what is behind them. -/
theorem take_cons_cons_drop {text : Bytes} {i : Nat} {a b : UInt8} (ha : text[i]? = some a) (hb : text[i + 1]? = some b) :
    text = text.take i ++ a :: b :: text.drop (i + 2) := by
  obtain ⟨hi, rfl⟩ := List.getElem?_eq_some_iff.mp ha
  obtain ⟨hi', rfl⟩ := List.getElem?_eq_some_iff.mp hb
  rw [List.getElem_cons_drop, List.getElem_cons_drop, List.take_append_drop]

/-- An IPv6 address, compressed or not, has only the characters of one. -/
theorem V6.characters {text : Bytes} (h : V6 text) : ∀ byte ∈ text, V6Character byte := by
  rcases h with h | ⟨i, hi, ha, hb, -, hbefore, hafter, -⟩
  · exact groups_characters h
  · obtain ⟨m, hm⟩ := Option.isSome_iff_exists.mp hbefore
    obtain ⟨n, hn⟩ := Option.isSome_iff_exists.mp hafter
    intro byte hbyte
    rw [take_cons_cons_drop ha hb] at hbyte
    simp only [List.mem_append, List.mem_cons] at hbyte
    rcases hbyte with hbyte | hbyte | hbyte | hbyte
    · exact groups_characters hm byte hbyte
    · exact .inr (.inr hbyte)
    · exact .inr (.inr hbyte)
    · exact groups_characters hn byte hbyte

/-- An IPv6 address is not empty. -/
theorem V6.ne_nil {text : Bytes} (h : V6 text) : text ≠ [] := by
  rintro rfl
  exact absurd h (by decide)

/-- Eight groups at their longest bound an IPv6 address. -/
theorem V6.length_le {text : Bytes} (h : V6 text) : text.length ≤ 136 := by
  rcases h with h | ⟨i, hi, ha, hb, -, hbefore, hafter, hcount⟩
  · exact groups_length h
  · obtain ⟨m, hm⟩ := Option.isSome_iff_exists.mp hbefore
    obtain ⟨n, hn⟩ := Option.isSome_iff_exists.mp hafter
    rw [hm, hn] at hcount
    simp only [Option.getD_some] at hcount
    have hlength := congrArg List.length (take_cons_cons_drop ha hb)
    have hleft := groups_length hm
    have hright := groups_length hn
    simp only [List.length_append, List.length_cons] at hlength
    omega

end IpLiteral
