import MarketDataGateway.Lib.Decimal

/-!
# Decimal texts

What the exchange's decimal texts are checked for, and the scale that is read off the quantum of a product. The scale is the position of
the last digit of the fraction that is not zero, and that is the least number of places that the quantum can be written with.
-/

namespace MarketDataGateway.Protocol

open Ascii Decimal

inductive ProtocolErrorCode where
  | invalidJson | invalidShape | invalidField | wrongEvent | wrongSymbol | invalidQuantum | invalidMarketMetadata
  deriving DecidableEq, Repr

structure ProtocolError where
  code : ProtocolErrorCode
  field : String
  message : String
  deriving DecidableEq, Repr

/-- A scale that the projection library can hold. -/
structure DecimalScale (maximum : Nat) where
  value : UInt32
  within : value.toNat ≤ maximum
  deriving DecidableEq

/-- `DecimalScale::create` of the projection library. -/
def DecimalScale.create (maximum : Nat) (value : UInt32) : Option (DecimalScale maximum) :=
  if h : value.toNat ≤ maximum then some ⟨value, h⟩ else none

def quantumError (message : String) : ProtocolError := ⟨.invalidQuantum, "quantum", message⟩

/-- A sign stands at the front. -/
def signed (value : Bytes) : Bool := value.head? = some (code '+') || value.head? = some (code '-')

/-- A point stands behind the first one. -/
def secondPoint (value : Bytes) : Bool :=
  match find (code '.') value with
  | none => false
  | some decimal => (find (code '.') (value.drop (decimal + 1))).isSome

/-- Digits, and digits behind the point where there is one. -/
def plainSyntax (value : Bytes) : Bool :=
  !((split value).1.isEmpty || !(split value).1.all isDigit ||
    ((find (code '.') value).isSome && (split value).2.isEmpty) || !(split value).2.all isDigit)

def decimalScaleFromQuantum (maximum : Nat) (quantum : Bytes) : Except ProtocolError (DecimalScale maximum) :=
  if quantum.isEmpty then .error (quantumError "decimal quantum is empty")
  else if signed quantum then .error (quantumError "decimal quantum must not contain a sign")
  else if secondPoint quantum then .error (quantumError "decimal quantum has multiple decimal points")
  else if !plainSyntax quantum then .error (quantumError "decimal quantum must use plain decimal syntax")
  else
    let nonzeroWhole := (split quantum).1.any (· != code '0')
    let significantEnd := findLastNot (code '0') (split quantum).2
    if !nonzeroWhole && significantEnd.isNone then .error (quantumError "decimal quantum must be greater than zero")
    else
      let scale := match significantEnd with
        | none => 0
        | some last => last + 1
      match DecimalScale.create maximum (UInt32.ofNat scale) with
      | none => .error (quantumError "decimal quantum exceeds Projection scale capacity")
      | some created => .ok created

/-- Zero is told from other numbers by a character of the text that is not `0`. -/
def plainDecimal (value : Bytes) (allowZero : Bool) : Bool :=
  if value.isEmpty || signed value then false
  else if secondPoint value then false
  else if !plainSyntax value then false
  else allowZero || value.any (· != code '0')

/-! ## Syntax -/

/-- The scan for digits is exact. -/
theorem digits_iff {text : Bytes} : text.all isDigit = true ↔ Digits text := List.all_eq_true

variable {text whole fraction : Bytes}

/-- A plain decimal has no sign. -/
theorem plain_unsigned (h : Plain text) : signed text = false := by
  have hdigit : ∀ {whole : Bytes} (rest : Bytes), whole ≠ [] → Digits whole → signed (whole ++ rest) = false := by
    intro whole rest hne hdigits
    obtain ⟨front, whole, rfl⟩ := List.exists_cons_of_ne_nil hne
    have hfront := hdigits front (by simp)
    simp only [signed, List.cons_append, List.head?_cons, Option.some.injEq, Bool.or_eq_false_iff, decide_eq_false_iff_not]
    constructor <;> (rintro rfl; exact absurd hfront (by decide))
  cases h with
  | whole hwhole hdigits => simpa using hdigit [] hwhole hdigits
  | point hwhole hdigits => exact hdigit _ hwhole hdigits

/-- A plain decimal has no second point. -/
theorem plain_one_point (h : Plain text) : secondPoint text = false := by
  unfold secondPoint
  cases h with
  | whole _ hdigits => rw [find_eq_none.mpr hdigits.no_point]
  | point _ hdigits _ hdigits' =>
    rw [find_append hdigits.no_point]
    dsimp only
    rw [drop_cons, find_eq_none.mpr (Digits.no_point hdigits')]
    rfl

/-- A plain decimal passes the scan. -/
theorem plainSyntax_of_plain (h : Plain text) : plainSyntax text = true := by
  unfold plainSyntax
  cases h with
  | whole hwhole hdigits =>
    rw [find_eq_none.mpr hdigits.no_point, split_of_no_point hdigits.no_point]
    simp [hwhole, digits_iff.mpr hdigits]
  | point hwhole hdigits hfraction hdigits' =>
    rw [split_point hdigits.no_point]
    simp [hwhole, hfraction, digits_iff.mpr hdigits, digits_iff.mpr hdigits']

/-- What passes the scan is a plain decimal. -/
theorem plain_of_plainSyntax (h : plainSyntax text = true) : Plain text := by
  unfold plainSyntax at h
  cases hfind : find (code '.') text with
  | none =>
    rw [split_of_no_point (find_eq_none.mp hfind)] at h
    simp only [Bool.not_eq_true', Bool.or_eq_false_iff, Bool.not_eq_false', List.isEmpty_eq_false_iff, digits_iff] at h
    exact .whole h.1.1.1 h.1.1.2
  | some point =>
    obtain ⟨whole, fraction, rfl, hpoint, rfl⟩ := find_eq_some hfind
    rw [hfind, split_point hpoint] at h
    simp only [Option.isSome_some, Bool.true_and, Bool.not_eq_true', Bool.or_eq_false_iff, Bool.not_eq_false',
      List.isEmpty_eq_false_iff, digits_iff] at h
    obtain ⟨⟨⟨hwhole, hdigits⟩, hfraction⟩, hdigits'⟩ := h
    exact .point hwhole hdigits hfraction hdigits'

/-- The scan is exact. -/
theorem plain_iff : Plain text ↔ plainSyntax text = true := ⟨plainSyntax_of_plain, plain_of_plainSyntax⟩

/-- What the check of a decimal text accepts. -/
theorem plainDecimal_iff {allowZero : Bool} :
    plainDecimal text allowZero = true ↔ Plain text ∧ (allowZero = true ∨ ∃ byte ∈ text, byte ≠ code '0') := by
  unfold plainDecimal
  by_cases h : Plain text
  · rw [if_neg (by simp [h.ne_nil, plain_unsigned h]), if_neg (by simp [plain_one_point h]), if_neg (by simp [plain_iff.mp h])]
    simp [h]
  · have hshape : plainSyntax text = false := Bool.not_eq_true _ ▸ mt plain_iff.mpr h
    rw [hshape]
    simp [h]

/-! ## The scale of a quantum -/

/-- The position of the last digit of the fraction that is not zero. -/
def significantPlaces (text : Bytes) : Nat :=
  match findLastNot (code '0') (split text).2 with
  | none => 0
  | some last => last + 1

/-- The places are fewer than the characters. -/
theorem significantPlaces_le (text : Bytes) : significantPlaces text ≤ text.length := by
  have hfraction : (split text).2.length ≤ text.length := by
    unfold split
    split
    · exact Nat.zero_le _
    · rw [List.length_drop]
      exact Nat.sub_le ..
  unfold significantPlaces
  rcases findLastNot_cases (code '0') (split text).2 with ⟨hfind, -⟩ | ⟨before, last, n, heq, -, hfind⟩
  · rw [hfind]
    exact Nat.zero_le _
  · rw [hfind]
    rw [heq] at hfraction
    simp only [List.length_append, List.length_cons] at hfraction
    dsimp only
    omega

/-- Without a point there are no places. -/
theorem significantPlaces_whole (h : Digits whole) : significantPlaces whole = 0 := by
  unfold significantPlaces
  rw [split_of_no_point h.no_point]
  rfl

/-- Zeros behind the point are not significant. -/
theorem significantPlaces_zeros (h : Digits whole) (n : Nat) :
    significantPlaces (whole ++ code '.' :: List.replicate n (code '0')) = 0 := by
  unfold significantPlaces
  rw [split_point h.no_point, findLastNot_replicate]

/-- The last digit that is not zero is the last significant place. -/
theorem significantPlaces_point (h : Digits whole) {last : UInt8} (hlast : last ≠ code '0') (n : Nat) :
    significantPlaces (whole ++ code '.' :: (fraction ++ last :: List.replicate n (code '0'))) = fraction.length + 1 := by
  unfold significantPlaces
  rw [split_point h.no_point, findLastNot_append hlast]

/-- A fraction is zeros, or a digit that counts stands before its zeros. -/
theorem fraction_cases (fraction : Bytes) :
    fraction = List.replicate fraction.length (code '0') ∨
      ∃ before last n, fraction = before ++ last :: List.replicate n (code '0') ∧ last ≠ code '0' := by
  rcases findLastNot_cases (code '0') fraction with ⟨-, hzeros⟩ | ⟨before, last, n, heq, hlast, -⟩
  · exact .inl hzeros
  · exact .inr ⟨before, last, n, heq, hlast⟩

/-- A number whose last digit is not zero is no multiple of ten. -/
theorem decimalValue_last {before : Bytes} {last : UInt8} (hdigit : isDigit last = true) (hlast : last ≠ code '0') :
    decimalValue (before ++ [last]) % 10 ≠ 0 := by
  have hbounds := digit_bounds hdigit hlast
  rw [decimalValue_append, decimalValue_singleton, List.length_singleton, pow_one]
  omega

/-- The significant places are the fewest that hold the value. -/
theorem significantPlaces_isLeast (h : Plain text) : IsLeast (Places (value text)) (significantPlaces text) := by
  cases h with
  | whole _ hdigits =>
    rw [value_whole hdigits, significantPlaces_whole hdigits]
    simpa using isLeast_places (n := decimalValue text) (.inl rfl)
  | @point whole fraction hwhole hdigits _ hdigits' =>
    rcases fraction_cases fraction with hzeros | ⟨before, last, n, rfl, hlast⟩
    · rw [hzeros, significantPlaces_zeros hdigits]
      have hvalue := value_point_zeros [] hdigits fraction.length
      rw [List.nil_append] at hvalue
      rw [hvalue]
      exact isLeast_places (.inl rfl)
    · have hvalue := value_point_zeros (before ++ [last]) hdigits n
      rw [List.append_assoc, List.singleton_append, ← List.append_assoc] at hvalue
      rw [significantPlaces_point hdigits hlast, hvalue, List.length_append, List.length_singleton]
      exact isLeast_places (.inr (decimalValue_last (hdigits' last (by simp)) hlast))

/-- The check that a quantum is not zero. -/
theorem zero_check_iff (h : Plain text) :
    (!(split text).1.any (· != code '0') && (findLastNot (code '0') (split text).2).isNone) = true ↔ value text = 0 := by
  rw [h.value_eq_zero]
  cases h with
  | whole _ hdigits =>
    rw [split_of_no_point hdigits.no_point]
    simp only [Bool.and_eq_true, Bool.not_eq_true', List.any_eq_false, bne_iff_ne, ne_eq, not_not]
    refine ⟨fun hzero byte hbyte => .inl (hzero.1 byte hbyte), fun hzero => ⟨fun byte hbyte => ?_, rfl⟩⟩
    refine (hzero byte hbyte).resolve_right ?_
    rintro rfl
    exact hdigits.no_point hbyte
  | @point whole fraction _ hdigits _ hdigits' =>
    rw [split_point hdigits.no_point]
    simp only [Bool.and_eq_true, Bool.not_eq_true', List.any_eq_false, bne_iff_ne, ne_eq, not_not, Option.isNone_iff_eq_none]
    constructor
    · rintro ⟨hzero, hnone⟩ byte hbyte
      rcases findLastNot_cases (code '0') fraction with ⟨-, hzeros⟩ | ⟨before, last, n, -, -, hsome⟩
      · simp only [List.mem_append, List.mem_cons] at hbyte
        rcases hbyte with hbyte | hbyte | hbyte
        · exact .inl (hzero byte hbyte)
        · exact .inr hbyte
        · exact .inl ((List.eq_replicate_iff.mp hzeros).2 byte hbyte)
      · cases hnone.symm.trans hsome
    · intro hzero
      refine ⟨fun byte hbyte => (hzero byte (by simp [hbyte])).resolve_right ?_, ?_⟩
      · rintro rfl
        exact hdigits.no_point hbyte
      · have hzeros : fraction = List.replicate fraction.length (code '0') := by
          refine List.eq_replicate_iff.mpr ⟨rfl, fun byte hbyte => (hzero byte (by simp [hbyte])).resolve_right ?_⟩
          rintro rfl
          exact Digits.no_point hdigits' hbyte
        rw [hzeros, findLastNot_replicate]

/-- What a plain decimal gives: the scale of its significant places, when it is not zero and the library can hold them. -/
theorem decimalScaleFromQuantum_plain (maximum : Nat) (h : Plain text) :
    decimalScaleFromQuantum maximum text =
      if value text = 0 then .error (quantumError "decimal quantum must be greater than zero")
      else match DecimalScale.create maximum (UInt32.ofNat (significantPlaces text)) with
        | none => .error (quantumError "decimal quantum exceeds Projection scale capacity")
        | some created => .ok created := by
  unfold decimalScaleFromQuantum
  rw [if_neg (by simp [h.ne_nil]), if_neg (by simp [plain_unsigned h]), if_neg (by simp [plain_one_point h]),
    if_neg (by simp [plain_iff.mp h])]
  dsimp only
  exact if_congr (zero_check_iff h) rfl rfl

/-- A quantum with a scale is a plain decimal. -/
theorem plain_of_decimalScaleFromQuantum {maximum : Nat} {scale : DecimalScale maximum}
    (h : decimalScaleFromQuantum maximum text = .ok scale) : Plain text := by
  rw [plain_iff]
  by_contra hplain
  unfold decimalScaleFromQuantum at h
  rw [Bool.not_eq_true] at hplain
  rw [hplain] at h
  split at h
  · cases h
  · split at h
    · cases h
    · split at h
      · cases h
      · simp at h

/-- An accepted quantum is a positive plain decimal, and its scale has as many places as its value takes. -/
theorem decimalScaleFromQuantum_ok {maximum : Nat} (hsize : text.length < 2 ^ 32) {scale : DecimalScale maximum} :
    decimalScaleFromQuantum maximum text = .ok scale ↔ Plain text ∧ 0 < value text ∧ scale.value.toNat = significantPlaces text := by
  have hplaces : (UInt32.ofNat (significantPlaces text)).toNat = significantPlaces text :=
    UInt32.toNat_ofNat_of_lt' (lt_of_le_of_lt (significantPlaces_le text) hsize)
  constructor
  · intro h
    have hplain := plain_of_decimalScaleFromQuantum h
    rw [decimalScaleFromQuantum_plain maximum hplain] at h
    split at h
    · cases h
    · rename_i hzero
      refine ⟨hplain, lt_of_le_of_ne (value_nonneg text) (Ne.symm hzero), ?_⟩
      unfold DecimalScale.create at h
      split at h
      · cases h
      · rename_i created hcreated
        split at hcreated
        · cases hcreated
          cases h
          exact hplaces
        · cases hcreated
  · rintro ⟨hplain, hpos, hscale⟩
    obtain ⟨value', hwithin⟩ := scale
    obtain rfl : value' = UInt32.ofNat (significantPlaces text) := by
      rw [← UInt32.toNat_inj, hplaces]
      exact hscale
    rw [decimalScaleFromQuantum_plain maximum hplain, if_neg hpos.ne']
    unfold DecimalScale.create
    rw [dif_pos hwithin]

/-! ## Zeros at either end -/

/-- Zeros are digits. -/
theorem digits_zeros (n : Nat) : Digits (List.replicate n (code '0')) := by
  intro byte hbyte
  rw [(List.mem_replicate.mp hbyte).2]
  decide

/-- Zeros before the whole part change nothing. -/
theorem decimalScaleFromQuantum_prefix (maximum n : Nat) (h : Plain text) :
    decimalScaleFromQuantum maximum (List.replicate n (code '0') ++ text) = decimalScaleFromQuantum maximum text := by
  cases h with
  | whole hwhole hdigits =>
    have hdigits' : Digits (List.replicate n (code '0') ++ text) := List.forall_mem_append.mpr ⟨digits_zeros n, hdigits⟩
    rw [decimalScaleFromQuantum_plain maximum (.whole (by simp [hwhole]) hdigits'),
      decimalScaleFromQuantum_plain maximum (.whole hwhole hdigits), significantPlaces_whole hdigits', significantPlaces_whole hdigits,
      value_whole hdigits', value_whole hdigits, decimalValue_append, decimalValue_zeros, zero_mul, zero_add]
  | @point whole fraction hwhole hdigits hfraction hdigits' =>
    have hzeros : Digits (List.replicate n (code '0') ++ whole) := List.forall_mem_append.mpr ⟨digits_zeros n, hdigits⟩
    have hplaces : significantPlaces (List.replicate n (code '0') ++ whole ++ code '.' :: fraction) =
        significantPlaces (whole ++ code '.' :: fraction) := by
      unfold significantPlaces
      rw [split_point hzeros.no_point, split_point hdigits.no_point]
    rw [← List.append_assoc, decimalScaleFromQuantum_plain maximum (.point (by simp [hwhole]) hzeros hfraction hdigits'),
      decimalScaleFromQuantum_plain maximum (.point hwhole hdigits hfraction hdigits'), hplaces, value_point hzeros,
      value_point hdigits, List.append_assoc, decimalValue_append, decimalValue_zeros, zero_mul, zero_add]

/-- Zeros behind the fraction change nothing. -/
theorem decimalScaleFromQuantum_suffix (maximum n : Nat) (h : Plain text) (hpoint : code '.' ∈ text) :
    decimalScaleFromQuantum maximum (text ++ List.replicate n (code '0')) = decimalScaleFromQuantum maximum text := by
  cases h with
  | whole _ hdigits => exact absurd hpoint hdigits.no_point
  | @point whole fraction hwhole hdigits hfraction hdigits' =>
    have hdigits'' : Digits (fraction ++ List.replicate n (code '0')) := List.forall_mem_append.mpr ⟨hdigits', digits_zeros n⟩
    have hplaces : significantPlaces (whole ++ code '.' :: (fraction ++ List.replicate n (code '0'))) =
        significantPlaces (whole ++ code '.' :: fraction) := by
      rcases fraction_cases fraction with hzeros | ⟨before, last, m, rfl, hlast⟩
      · rw [hzeros, List.replicate_append_replicate, significantPlaces_zeros hdigits, significantPlaces_zeros hdigits]
      · rw [List.append_assoc, List.cons_append, List.replicate_append_replicate, significantPlaces_point hdigits hlast,
          significantPlaces_point hdigits hlast]
    rw [List.append_assoc, List.cons_append, decimalScaleFromQuantum_plain maximum (.point hwhole hdigits (by simp [hfraction]) hdigits''),
      decimalScaleFromQuantum_plain maximum (.point hwhole hdigits hfraction hdigits'), hplaces, value_point_zeros _ hdigits,
      value_point hdigits]

/-- A quantum gives a scale when it is a positive plain decimal whose places the library can hold, and then the scale is the least
number of places that it can be written with; so zeros before the whole part or behind the fraction change nothing. -/
theorem decimal_scale_is_least (maximum : Nat) (quantum : Bytes) (hsize : quantum.length < 2 ^ 32) :
    ((∃ scale, decimalScaleFromQuantum maximum quantum = .ok scale) ↔
      Plain quantum ∧ 0 < value quantum ∧ ∃ s ≤ maximum, IsLeast (Places (value quantum)) s) ∧
    (∀ scale, decimalScaleFromQuantum maximum quantum = .ok scale → IsLeast (Places (value quantum)) scale.value.toNat) ∧
    (Plain quantum → ∀ n,
      decimalScaleFromQuantum maximum (List.replicate n (code '0') ++ quantum) = decimalScaleFromQuantum maximum quantum) ∧
    (Plain quantum → code '.' ∈ quantum → ∀ n,
      decimalScaleFromQuantum maximum (quantum ++ List.replicate n (code '0')) = decimalScaleFromQuantum maximum quantum) := by
  have hleast : ∀ scale, decimalScaleFromQuantum maximum quantum = .ok scale →
      IsLeast (Places (value quantum)) scale.value.toNat := by
    intro scale h
    obtain ⟨hplain, -, hscale⟩ := (decimalScaleFromQuantum_ok hsize).mp h
    rw [hscale]
    exact significantPlaces_isLeast hplain
  refine ⟨⟨?_, ?_⟩, hleast, fun h n => decimalScaleFromQuantum_prefix maximum n h,
    fun h hpoint n => decimalScaleFromQuantum_suffix maximum n h hpoint⟩
  · rintro ⟨scale, h⟩
    obtain ⟨hplain, hpos, -⟩ := (decimalScaleFromQuantum_ok hsize).mp h
    exact ⟨hplain, hpos, scale.value.toNat, scale.within, hleast scale h⟩
  · rintro ⟨hplain, hpos, s, hs, hsleast⟩
    have hplaces : s = significantPlaces quantum := hsleast.unique (significantPlaces_isLeast hplain)
    have hnat : (UInt32.ofNat (significantPlaces quantum)).toNat = significantPlaces quantum :=
      UInt32.toNat_ofNat_of_lt' (lt_of_le_of_lt (significantPlaces_le quantum) hsize)
    exact ⟨⟨UInt32.ofNat (significantPlaces quantum), by rw [hnat, ← hplaces]; exact hs⟩,
      (decimalScaleFromQuantum_ok hsize).mpr ⟨hplain, hpos, hnat⟩⟩

/-- A hundredth has two places. -/
theorem decimal_scale_is_least_hundredth :
    ∃ scale : DecimalScale 18, decimalScaleFromQuantum 18 (bytes "0.01000000") = .ok scale ∧
      IsLeast (Places (value (bytes "0.01000000"))) scale.value.toNat :=
  have h : decimalScaleFromQuantum 18 (bytes "0.01000000") = .ok ⟨2, by decide⟩ := by decide +kernel
  ⟨_, h, (decimal_scale_is_least 18 (bytes "0.01000000") (by decide)).2.1 _ h⟩

end MarketDataGateway.Protocol
