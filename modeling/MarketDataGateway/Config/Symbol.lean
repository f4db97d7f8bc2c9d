import MarketDataGateway.Lib.Ascii
import MarketDataGateway.Lib.Utf8

/-!
# Symbols of a configuration

The scanner that decides which byte strings are symbols, byte by byte and with every read checked against the end of the string. A
symbol is an opaque identity: strict UTF-8 without ASCII control bytes, blanks or DEL, and nothing is normalised.
-/

namespace MarketDataGateway.Config

open Ascii (Bytes)

/-- A read at or past the end. -/
structure OutOfRange where
  offset : Nat
  deriving DecidableEq, Repr

def byteAt (value : Bytes) (offset : Nat) : Except OutOfRange UInt8 :=
  match value[offset]? with
  | some byte => .ok byte
  | none => .error ⟨offset⟩

def isContinuation (byte : UInt8) : Bool := 0x80 ≤ byte && byte ≤ 0xBF

/-- The loop of `valid_symbol`, from an offset on. -/
def validSymbolFrom (value : Bytes) (offset : Nat) : Except OutOfRange Bool :=
  if h : offset < value.length then do
    let lead ← byteAt value offset
    if lead ≤ 0x7F then
      if lead ≤ 0x20 || lead = 0x7F then pure false
      else validSymbolFrom value (offset + 1)
    else if 0xC2 ≤ lead && lead ≤ 0xDF then
      if offset + 1 ≥ value.length then pure false
      else do
        let second ← byteAt value (offset + 1)
        if !isContinuation second then pure false
        else validSymbolFrom value (offset + 2)
    else if 0xE0 ≤ lead && lead ≤ 0xEF then
      if offset + 2 ≥ value.length then pure false
      else do
        let second ← byteAt value (offset + 1)
        let third ← byteAt value (offset + 2)
        if !isContinuation third || (lead = 0xE0 && second < 0xA0) || (lead = 0xED && second ≥ 0xA0) ||
            !isContinuation second then pure false
        else validSymbolFrom value (offset + 3)
    else if 0xF0 ≤ lead && lead ≤ 0xF4 then
      if offset + 3 ≥ value.length then pure false
      else do
        let second ← byteAt value (offset + 1)
        let third ← byteAt value (offset + 2)
        let fourth ← byteAt value (offset + 3)
        if !isContinuation third || !isContinuation fourth || (lead = 0xF0 && second < 0x90) ||
            (lead = 0xF4 && second > 0x8F) || !isContinuation second then pure false
        else validSymbolFrom value (offset + 4)
    else pure false
  else pure true
termination_by value.length - offset

def validSymbol (value : Bytes) : Except OutOfRange Bool :=
  if value.isEmpty then pure false else validSymbolFrom value 0

/-! ## What the scanner accepts -/

/-- Neither a control byte nor a blank nor DEL. -/
def Printable (byte : UInt8) : Prop := 0x20 < byte ∧ byte ≠ 0x7F

/-- A sequence of Unicode scalar values, encoded, without the bytes that no symbol may have. -/
def Text (value : Bytes) : Prop := Utf8.WellFormed value ∧ ∀ byte ∈ value, Printable byte

/-- The empty text is one. -/
theorem text_nil : Text [] := ⟨Utf8.wellFormed_nil, fun _ h => absurd h List.not_mem_nil⟩

/-- A text begins with printable bytes. -/
theorem text_append {bs rest : Bytes} (h : Utf8.Sequence bs) :
    Text (bs ++ rest) ↔ (∀ byte ∈ bs, Printable byte) ∧ Text rest := by
  unfold Text
  rw [Utf8.wellFormed_append h, List.forall_mem_append]
  exact and_left_comm

/-- A text that is not empty begins with a character. -/
theorem Text.split {value : Bytes} (h : Text value) (hv : value ≠ []) :
    ∃ bs rest, value = bs ++ rest ∧ Utf8.Sequence bs ∧ (∀ byte ∈ bs, Printable byte) ∧ Text rest := by
  obtain ⟨bs, rest, rfl, hbs, -⟩ := h.1.split hv
  exact ⟨bs, rest, rfl, hbs, (text_append hbs).mp h⟩

/-- A byte above the ASCII range is none of those that a symbol may not have. -/
theorem printable_of_high {byte : UInt8} (h : 0x80 ≤ byte) : Printable byte := by
  simp only [Printable, UInt8.le_iff_toNat_le, UInt8.lt_iff_toNat_lt, ne_eq, ← UInt8.toNat_inj] at *
  simp at *
  omega

/-- How far one pass of the loop goes from here, or `none` where it gives up. -/
def advance : Bytes → Option Nat
  | [] => none
  | lead :: rest =>
    if lead ≤ 0x7F then if lead ≤ 0x20 || lead = 0x7F then none else some 1
    else if 0xC2 ≤ lead && lead ≤ 0xDF then
      match rest with
      | second :: _ => if !isContinuation second then none else some 2
      | _ => none
    else if 0xE0 ≤ lead && lead ≤ 0xEF then
      match rest with
      | second :: third :: _ =>
        if !isContinuation third || (lead = 0xE0 && second < 0xA0) || (lead = 0xED && second ≥ 0xA0) ||
            !isContinuation second then none
        else some 3
      | _ => none
    else if 0xF0 ≤ lead && lead ≤ 0xF4 then
      match rest with
      | second :: third :: fourth :: _ =>
        if !isContinuation third || !isContinuation fourth || (lead = 0xF0 && second < 0x90) ||
            (lead = 0xF4 && second > 0x8F) || !isContinuation second then none
        else some 4
      | _ => none
    else none

/-- A byte behind an offset is found there. -/
theorem byteAt_drop {value rest : Bytes} {offset k : Nat} {byte : UInt8} (h : value.drop offset = rest) (hk : rest[k]? = some byte) :
    byteAt value (offset + k) = .ok byte := by
  unfold byteAt
  rw [← List.getElem?_drop, h, hk]

/-- One pass of the loop, in terms of what is left of the string. -/
theorem validSymbolFrom_step {value : Bytes} {offset : Nat} (h : offset < value.length) :
    validSymbolFrom value offset =
      match advance (value.drop offset) with
      | some k => validSymbolFrom value (offset + k)
      | none => .ok false := by
  have hlength : (value.drop offset).length = value.length - offset := List.length_drop ..
  rw [validSymbolFrom, dif_pos h]
  rcases hrest : value.drop offset with _ | ⟨lead, rest⟩
  · rw [hrest] at hlength
    simp at hlength
    omega
  rw [hrest] at hlength
  simp only [List.length_cons] at hlength
  have hlead : byteAt value offset = .ok lead := byteAt_drop (k := 0) hrest rfl
  simp only [hlead, bind, Except.bind, advance, pure, Except.pure]
  split
  · split <;> rfl
  · split
    · rcases rest with _ | ⟨second, rest⟩
      · rw [if_pos (by simp at hlength; omega)]
      · rw [if_neg (by simp at hlength; omega), byteAt_drop (k := 1) hrest rfl]
        dsimp only
        split <;> rfl
    · split
      · rcases rest with _ | ⟨second, _ | ⟨third, rest⟩⟩
        · rw [if_pos (by simp at hlength; omega)]
        · rw [if_pos (by simp at hlength; omega)]
        · rw [if_neg (by simp at hlength; omega), byteAt_drop (k := 1) hrest rfl, byteAt_drop (k := 2) hrest rfl]
          dsimp only
          split <;> rfl
      · split
        · rcases rest with _ | ⟨second, _ | ⟨third, _ | ⟨fourth, rest⟩⟩⟩
          · rw [if_pos (by simp at hlength; omega)]
          · rw [if_pos (by simp at hlength; omega)]
          · rw [if_pos (by simp at hlength; omega)]
          · rw [if_neg (by simp at hlength; omega), byteAt_drop (k := 1) hrest rfl, byteAt_drop (k := 2) hrest rfl,
              byteAt_drop (k := 3) hrest rfl]
            dsimp only
            split <;> rfl
        · rfl

/-- The mask for continuation bytes is exact. -/
theorem isContinuation_iff {byte : UInt8} : isContinuation byte = true ↔ Utf8.Tail byte := by
  simp [isContinuation, Utf8.Tail]

/-- A pass of the loop goes over the sequence of one printable character. -/
theorem advance_sound {value : Bytes} {k : Nat} (h : advance value = some k) :
    ∃ bs rest, value = bs ++ rest ∧ bs.length = k ∧ Utf8.Sequence bs ∧ ∀ byte ∈ bs, Printable byte := by
  unfold advance at h
  split at h
  · cases h
  · rename_i lead rest
    split at h
    · rename_i hlead
      split at h
      · cases h
      · rename_i hbad
        simp only [Bool.or_eq_true, decide_eq_true_eq, not_or, UInt8.not_le] at hbad
        cases h
        exact ⟨[lead], rest, rfl, rfl, .one hlead, by simpa [Printable] using hbad⟩
    · rename_i hascii
      have hhigh : 0x80 ≤ lead := by
        simp only [UInt8.le_iff_toNat_le] at *
        simp at *
        omega
      split at h
      · rename_i hlead
        split at h
        · rename_i second rest
          split at h
          · cases h
          · rename_i hcont
            simp only [Bool.not_eq_true', Bool.not_eq_false] at hcont
            rw [isContinuation_iff] at hcont
            simp only [Bool.and_eq_true, decide_eq_true_eq] at hlead
            cases h
            refine ⟨[lead, second], rest, rfl, rfl, .two hlead hcont, ?_⟩
            simpa using ⟨printable_of_high hhigh, printable_of_high hcont.1⟩
        · cases h
      · split at h
        · rename_i hlead
          split at h
          · rename_i second third rest
            split at h
            · cases h
            · rename_i hcont
              simp only [Bool.or_eq_true, Bool.and_eq_true, Bool.not_eq_true', decide_eq_true_eq, not_or, not_and, ge_iff_le,
                UInt8.not_lt, UInt8.not_le, Bool.not_eq_false] at hcont
              obtain ⟨⟨⟨hthird, hlong⟩, hsurrogate⟩, hsecond⟩ := hcont
              rw [isContinuation_iff] at hthird hsecond
              simp only [Bool.and_eq_true, decide_eq_true_eq] at hlead
              cases h
              refine ⟨[lead, second, third], rest, rfl, rfl, .three hlead hsecond hthird hlong hsurrogate, ?_⟩
              simpa using ⟨printable_of_high hhigh, printable_of_high hsecond.1, printable_of_high hthird.1⟩
          · cases h
        · split at h
          · rename_i hlead
            split at h
            · rename_i second third fourth rest
              split at h
              · cases h
              · rename_i hcont
                simp only [Bool.or_eq_true, Bool.and_eq_true, Bool.not_eq_true', decide_eq_true_eq, not_or, not_and, gt_iff_lt,
                  UInt8.not_lt, Bool.not_eq_false] at hcont
                obtain ⟨⟨⟨⟨hthird, hfourth⟩, hlong⟩, hrange⟩, hsecond⟩ := hcont
                rw [isContinuation_iff] at hthird hfourth hsecond
                simp only [Bool.and_eq_true, decide_eq_true_eq] at hlead
                cases h
                refine ⟨[lead, second, third, fourth], rest, rfl, rfl, .four hlead hsecond hthird hfourth hlong hrange, ?_⟩
                simpa using ⟨printable_of_high hhigh, printable_of_high hsecond.1, printable_of_high hthird.1,
                  printable_of_high hfourth.1⟩
            · cases h
          · cases h

/-- A pass of the loop goes over every printable character. -/
theorem advance_complete {bs rest : Bytes} (h : Utf8.Sequence bs) (hp : ∀ byte ∈ bs, Printable byte) :
    advance (bs ++ rest) = some bs.length := by
  have hascii : ∀ {a b : UInt8}, 0x80 ≤ b → b ≤ a → ¬a ≤ 0x7F := by
    intro a b hb hab
    simp only [UInt8.le_iff_toNat_le] at *
    simp at *
    omega
  cases h with
  | one ha =>
    obtain ⟨hlow, hdel⟩ := hp _ (List.mem_singleton.mpr rfl)
    simp only [advance, List.cons_append, List.nil_append, if_pos ha]
    rw [if_neg (by simpa using ⟨hlow, hdel⟩)]
    rfl
  | two ha hb =>
    simp only [advance, List.cons_append, List.nil_append]
    rw [if_neg (hascii (by decide) ha.1), if_pos (by simpa using ha), if_neg (by simpa using isContinuation_iff.mpr hb)]
    rfl
  | three ha hb hc hl hs =>
    simp only [advance, List.cons_append, List.nil_append]
    rw [if_neg (hascii (by decide) ha.1), if_neg, if_pos (by simpa using ha), if_neg]
    · rfl
    · simp only [Bool.or_eq_true, Bool.and_eq_true, Bool.not_eq_true', decide_eq_true_eq, not_or, not_and, ge_iff_le, UInt8.not_lt,
        UInt8.not_le, Bool.not_eq_false]
      exact ⟨⟨⟨isContinuation_iff.mpr hc, hl⟩, hs⟩, isContinuation_iff.mpr hb⟩
    · simp only [Bool.and_eq_true, decide_eq_true_eq, not_and]
      intro _ hle
      have := ha.1
      simp only [UInt8.le_iff_toNat_le] at *
      simp at *
      omega
  | four ha hb hc hd hl hr =>
    have hlead : ∀ {low high : UInt8}, high ≤ 0xEF → ∀ {a : UInt8}, 0xF0 ≤ a → ¬((decide (low ≤ a) && decide (a ≤ high)) = true) := by
      intro low high hhigh a ha hle
      simp only [Bool.and_eq_true, decide_eq_true_eq, UInt8.le_iff_toNat_le] at *
      simp at *
      omega
    simp only [advance, List.cons_append, List.nil_append]
    rw [if_neg (hascii (by decide) ha.1), if_neg (hlead (by decide) ha.1), if_neg (hlead (by decide) ha.1),
      if_pos (by simpa using ha), if_neg]
    · rfl
    · simp only [Bool.or_eq_true, Bool.and_eq_true, Bool.not_eq_true', decide_eq_true_eq, not_or, not_and, gt_iff_lt, UInt8.not_lt,
        Bool.not_eq_false]
      exact ⟨⟨⟨⟨isContinuation_iff.mpr hc, isContinuation_iff.mpr hd⟩, hl⟩, hr⟩, isContinuation_iff.mpr hb⟩

/-- From any offset the scanner comes to an end without a read past the end of the string, and it accepts when what is left is a
text. -/
theorem validSymbolFrom_spec (value : Bytes) (offset : Nat) :
    ∃ accepted, validSymbolFrom value offset = .ok accepted ∧ (accepted = true ↔ Text (value.drop offset)) := by
  induction hn : value.length - offset using Nat.strongRecOn generalizing offset with
  | _ n ih =>
    by_cases h : offset < value.length
    · rw [validSymbolFrom_step h]
      have hne : value.drop offset ≠ [] := by simpa using h
      cases hadvance : advance (value.drop offset) with
      | none =>
        refine ⟨false, rfl, by simp, fun htext => ?_⟩
        obtain ⟨bs, rest, he, hbs, hp, -⟩ := htext.split hne
        rw [he, advance_complete hbs hp] at hadvance
        cases hadvance
      | some k =>
        obtain ⟨bs, rest, he, rfl, hbs, hp⟩ := advance_sound hadvance
        have hpos : 0 < bs.length := List.length_pos_iff.mpr hbs.ne_nil
        obtain ⟨accepted, hok, hiff⟩ := ih (value.length - (offset + bs.length)) (by omega) (offset + bs.length) rfl
        have hrest : value.drop (offset + bs.length) = rest := by rw [← List.drop_drop, he, List.drop_left]
        refine ⟨accepted, hok, ?_⟩
        rw [hiff, hrest, he, text_append hbs]
        exact (and_iff_right hp).symm
    · refine ⟨true, ?_, ?_⟩
      · rw [validSymbolFrom, dif_neg h]
        rfl
      · rw [List.drop_eq_nil_of_le (by omega)]
        simpa using text_nil

/-- What a symbol is: a text that is not empty. -/
def Identity (value : Bytes) : Prop := value ≠ [] ∧ Text value

/-- The scan comes to an end, and accepts just the identities. -/
theorem validSymbol_spec (value : Bytes) :
    ∃ accepted, validSymbol value = .ok accepted ∧ (accepted = true ↔ Identity value) := by
  unfold validSymbol
  cases value with
  | nil => exact ⟨false, rfl, by simp [Identity]⟩
  | cons lead rest =>
    obtain ⟨accepted, hok, hiff⟩ := validSymbolFrom_spec (lead :: rest) 0
    refine ⟨accepted, hok, ?_⟩
    rw [hiff, List.drop_zero]
    simp [Identity]

end MarketDataGateway.Config
