import MarketDataGateway.Lib.Collect
import MarketDataGateway.Protocol.Events

/-!
# Exchange information

The parsers of the two markets' metadata: which entry of the symbols is the requested one, and which of its filters give the quanta of its
prices and quantities. Both loops keep what they find and fail on a second one, so neither depends on an order, and what is accepted is
the only entry and the only filters there are.
-/

namespace MarketDataGateway.Protocol

open Ascii Collect

structure NumericSpec (maximum : Nat) where
  priceScale : DecimalScale maximum
  quantityScale : DecimalScale maximum
  deriving DecidableEq

/-- The metadata of either market. -/
structure ProductMetadata (maximum : Nat) where
  tickSize : Bytes
  stepSize : Bytes
  numericSpec : NumericSpec maximum
  deriving DecidableEq

def metadataError (field message : String) : ProtocolError := ⟨.invalidMarketMetadata, field, message⟩

/-! ## The requested entry -/

def named (requestedSymbol : Bytes) (candidate : Json) : Bool := stringField candidate "symbol" = some requestedSymbol

/-- One pass of the loop over the symbols. -/
def selectEntry (requestedSymbol : Bytes) (selected : Option Json) (candidate : Json) : Except ProtocolError (Option Json) :=
  if !candidate.isObject then .error (metadataError "symbols" "each exchangeInfo symbol must be an object")
  else
    match stringField candidate "symbol" with
    | none => .error (metadataError "symbol" "each exchangeInfo symbol needs a string symbol")
    | some symbolName =>
      if symbolName = requestedSymbol then
        if selected.isSome then .error (metadataError "symbol" "exchangeInfo contains a duplicate requested symbol")
        else .ok (some candidate)
      else .ok selected

/-! ## Its filters -/

structure Quanta where
  tickSize : Option Bytes := none
  stepSize : Option Bytes := none
  deriving DecidableEq, Repr

def ofType (type : String) (filter : Json) : Bool := stringField filter "filterType" = some (bytes type)

/-- One pass of the loop over the filters. -/
def readFilter (quanta : Quanta) (filter : Json) : Except ProtocolError Quanta :=
  if !filter.isObject then .error (metadataError "filters" "each symbol filter must be an object")
  else
    match stringField filter "filterType" with
    | none => .error (metadataError "filterType" "each symbol filter needs a string filterType")
    | some type =>
      if type = bytes "PRICE_FILTER" then
        match quanta.tickSize, stringField filter "tickSize" with
        | none, some value => .ok { quanta with tickSize := some value }
        | _, _ => .error (metadataError "PRICE_FILTER" "exactly one valid PRICE_FILTER is required")
      else if type = bytes "LOT_SIZE" then
        match quanta.stepSize, stringField filter "stepSize" with
        | none, some value => .ok { quanta with stepSize := some value }
        | _, _ => .error (metadataError "LOT_SIZE" "exactly one valid LOT_SIZE is required")
      else .ok quanta

/-! ## The two markets -/

/-- Where the parsers of the two markets differ. -/
structure MarketRules where
  unroutable : ProtocolError
  missing : ProtocolError
  tradable : Json → Except ProtocolError Unit
  filters : ProtocolError

def spotRules : MarketRules where
  unroutable := metadataError "symbol" "requested Spot symbol cannot be represented by a Binance route"
  missing := metadataError "symbol" "exchangeInfo must contain the requested Spot symbol"
  tradable selected :=
    if stringField selected "status" ≠ some (bytes "TRADING") then
      .error (metadataError "status" "requested Spot symbol must be TRADING")
    else if booleanField selected "isSpotTradingAllowed" ≠ some true then
      .error (metadataError "isSpotTradingAllowed" "requested Spot symbol trading must be allowed")
    else .ok ()
  filters := metadataError "filters" "requested Spot symbol filters must be an array"

def usdmRules : MarketRules where
  unroutable := metadataError "symbol" "requested USD-M symbol cannot be represented by a Binance route"
  missing := metadataError "symbol" "exchangeInfo must contain the requested USD-M symbol"
  tradable selected :=
    if stringField selected "contractType" ≠ some (bytes "PERPETUAL") then
      .error (metadataError "contractType" "requested USD-M symbol contractType must be PERPETUAL")
    else if stringField selected "status" ≠ some (bytes "TRADING") then
      .error (metadataError "status" "requested USD-M perpetual symbol must be TRADING")
    else .ok ()
  filters := metadataError "filters" "requested USD-M symbol filters must be an array"

def parseQuanta (maximum : Nat) (quanta : Quanta) : Except ProtocolError (ProductMetadata maximum) :=
  match quanta.tickSize, quanta.stepSize with
  | some tickSize, some stepSize => do
    let priceScale ← decimalScaleFromQuantum maximum tickSize
    let quantityScale ← decimalScaleFromQuantum maximum stepSize
    pure ⟨tickSize, stepSize, ⟨priceScale, quantityScale⟩⟩
  | _, _ => .error (metadataError "filters" "PRICE_FILTER and LOT_SIZE are both required")

def parseEntry (rules : MarketRules) (maximum : Nat) (selected : Json) : Except ProtocolError (ProductMetadata maximum) := do
  rules.tradable selected
  match selected.find "filters" with
  | some (.array filters) => do
    let quanta ← filters.foldlM readFilter {}
    parseQuanta maximum quanta
  | _ => .error rules.filters

def parseSymbols (rules : MarketRules) (maximum : Nat) (requestedSymbol : Bytes) (symbols : List Json) :
    Except ProtocolError (ProductMetadata maximum) := do
  let selected ← symbols.foldlM (selectEntry requestedSymbol) none
  match selected with
  | none => .error rules.missing
  | some entry => parseEntry rules maximum entry

def parseInfo (rules : MarketRules) (maximum : Nat) (root : Json) (requestedSymbol : Bytes) :
    Except ProtocolError (ProductMetadata maximum) :=
  if (spotStreamSymbol requestedSymbol).isNone then .error rules.unroutable
  else
    match root.find "symbols" with
    | some (.array symbols) => parseSymbols rules maximum requestedSymbol symbols
    | _ => .error (metadataError "symbols" "exchangeInfo symbols must be an array")

def parseExchangeInfo (maximum : Nat) (decode : Bytes → Except DecodeFailure Json) (payload requestedSymbol : Bytes) :
    Except ProtocolError (ProductMetadata maximum) := do
  let root ← parseJson decode payload
  parseInfo spotRules maximum root requestedSymbol

def parseUsdmExchangeInfo (maximum : Nat) (decode : Bytes → Except DecodeFailure Json) (payload requestedSymbol : Bytes) :
    Except ProtocolError (ProductMetadata maximum) := do
  let root ← parseJson decode payload
  parseInfo usdmRules maximum root requestedSymbol

/-! ## What the loops keep -/

variable {requestedSymbol : Bytes}

/-- A list that an option with room for one value can begin with. -/
theorem exists_toList_of_prefix {α β : Type} (f : α → β) {o : Option α} {xs : List β}
    (h : xs <+: o.toList.map f) : ∃ o' : Option α, o'.toList.map f = xs := by
  cases o with
  | none => exact ⟨none, (List.prefix_nil.mp h).symm⟩
  | some a =>
    cases xs with
    | nil => exact ⟨none, rfl⟩
    | cons x xs =>
      obtain ⟨hx, hxs⟩ := List.cons_prefix_cons.mp h
      exact ⟨some a, by rw [hx, List.prefix_nil.mp hxs]; rfl⟩

/-- The loop over the symbols collects those that are named as requested. -/
theorem collects_selectEntry (requestedSymbol : Bytes) :
    Collects (selectEntry requestedSymbol) (fun c => c.isObject = true ∧ (stringField c "symbol").isSome = true)
      (fun (_ : Unit) s => s.toList) (fun _ c => if named requestedSymbol c then [c] else []) where
  step_iff s c t := by
    unfold selectEntry named
    cases hobject : c.isObject with
    | false => simp
    | true =>
      cases hsymbol : stringField c "symbol" with
      | none => simp
      | some symbolName =>
        by_cases heq : symbolName = requestedSymbol
        · cases s <;> cases t <;> simp [heq]
        · cases s <;> cases t <;> simp [heq]
  ext s t h := by
    have := h ()
    cases s <;> cases t <;> simp_all
  initial t xs h := by
    obtain ⟨s, hs⟩ := exists_toList_of_prefix id (by simpa using h ())
    exact ⟨s, fun _ => by simpa using hs⟩

/-- The two kinds of filters that are read. -/
inductive FilterKind where
  | price | lot

def FilterKind.type : FilterKind → String
  | price => "PRICE_FILTER"
  | lot => "LOT_SIZE"

def FilterKind.quantum : FilterKind → String
  | price => "tickSize"
  | lot => "stepSize"

def Quanta.of : FilterKind → Quanta → Option Bytes
  | .price, quanta => quanta.tickSize
  | .lot, quanta => quanta.stepSize

/-- There are two kinds of filters. -/
theorem FilterKind.forall_iff {P : FilterKind → Prop} : (∀ kind, P kind) ↔ P .price ∧ P .lot :=
  ⟨fun h => ⟨h _, h _⟩, fun h kind => by cases kind <;> simp [h]⟩

/-- The loop over the filters collects the quanta of each kind. -/
theorem collects_readFilter :
    Collects readFilter (fun f => f.isObject = true ∧ (stringField f "filterType").isSome = true)
      (fun (kind : FilterKind) quanta => (quanta.of kind).toList.map some)
      (fun kind f => if ofType kind.type f then [stringField f kind.quantum] else []) where
  step_iff s f t := by
    unfold readFilter ofType
    cases hobject : f.isObject with
    | false => simp
    | true =>
      cases htype : stringField f "filterType" with
      | none => simp
      | some type =>
        obtain ⟨tick, lotStep⟩ := s
        obtain ⟨tick', lotStep'⟩ := t
        have hkinds : bytes "LOT_SIZE" ≠ bytes "PRICE_FILTER" := by decide
        rw [FilterKind.forall_iff]
        by_cases hprice : type = bytes "PRICE_FILTER"
        · cases hvalue : stringField f "tickSize" <;> cases tick <;> cases tick' <;> cases lotStep <;> cases lotStep' <;>
            simp [hprice, hvalue, hkinds.symm, Quanta.of, FilterKind.type, FilterKind.quantum]
        · by_cases hlot : type = bytes "LOT_SIZE"
          · cases hvalue : stringField f "stepSize" <;> cases tick <;> cases tick' <;> cases lotStep <;> cases lotStep' <;>
              simp [hlot, hvalue, hkinds, Quanta.of, FilterKind.type, FilterKind.quantum]
          · cases tick <;> cases tick' <;> cases lotStep <;> cases lotStep' <;>
              simp [hprice, hlot, Quanta.of, FilterKind.type]
  ext s t h := by
    obtain ⟨tick, lotStep⟩ := s
    obtain ⟨tick', lotStep'⟩ := t
    have hprice := h .price
    have hlot := h .lot
    cases tick <;> cases tick' <;> cases lotStep <;> cases lotStep' <;> simp_all [Quanta.of]
  initial t xs h := by
    obtain ⟨tick, htick⟩ := exists_toList_of_prefix some (h .price)
    obtain ⟨lotStep, hstep⟩ := exists_toList_of_prefix some (h .lot)
    refine ⟨⟨tick, lotStep⟩, fun kind => ?_⟩
    cases kind with
    | price => exact htick
    | lot => exact hstep

/-! ## What is accepted -/

/-- The only entry of the requested symbol, its only filter of either kind, and the scales of what those filters say. -/
def Unambiguous (root : Json) (requestedSymbol : Bytes) {maximum : Nat} (metadata : ProductMetadata maximum) : Prop :=
  ∃ symbols entry filters price lot, root.find "symbols" = some (.array symbols) ∧ symbols.filter (named requestedSymbol) = [entry] ∧
    entry.find "filters" = some (.array filters) ∧
    filters.filter (ofType "PRICE_FILTER") = [price] ∧ stringField price "tickSize" = some metadata.tickSize ∧
    filters.filter (ofType "LOT_SIZE") = [lot] ∧ stringField lot "stepSize" = some metadata.stepSize ∧
    decimalScaleFromQuantum maximum metadata.tickSize = .ok metadata.numericSpec.priceScale ∧
    decimalScaleFromQuantum maximum metadata.stepSize = .ok metadata.numericSpec.quantityScale

variable {rules : MarketRules} {maximum : Nat} {metadata : ProductMetadata maximum} {root : Json}

/-- The scales are those of the two quanta. -/
theorem parseQuanta_ok {quanta : Quanta} (h : parseQuanta maximum quanta = .ok metadata) :
    quanta.tickSize = some metadata.tickSize ∧ quanta.stepSize = some metadata.stepSize ∧
      decimalScaleFromQuantum maximum metadata.tickSize = .ok metadata.numericSpec.priceScale ∧
      decimalScaleFromQuantum maximum metadata.stepSize = .ok metadata.numericSpec.quantityScale := by
  unfold parseQuanta at h
  split at h
  · rename_i tickSize stepSize htick hstep
    obtain ⟨priceScale, hprice, h⟩ := exists_of_bind_ok h
    obtain ⟨quantityScale, hquantity, h⟩ := exists_of_bind_ok h
    cases h
    exact ⟨htick, hstep, hprice, hquantity⟩
  · cases h

/-- A filter of each kind is the only one, and its quantum is the one that was read. -/
theorem readFilters_ok {filters : List Json} {quanta : Quanta} (h : filters.foldlM readFilter {} = .ok quanta) (kind : FilterKind)
    {value : Bytes} (hvalue : quanta.of kind = some value) :
    ∃ filter, filters.filter (ofType kind.type) = [filter] ∧ stringField filter kind.quantum = some value := by
  obtain ⟨-, hkept⟩ := collects_readFilter.foldlM_iff.mp h
  have hkind := hkept kind
  rw [flatMap_ite, hvalue] at hkind
  have hnothing : Quanta.of kind {} = none := by cases kind <;> rfl
  rw [hnothing] at hkind
  simp only [Option.toList_none, List.map_nil, List.nil_append, Option.toList_some, List.map_cons] at hkind
  obtain ⟨filter, hfilter, hquantum⟩ := List.map_eq_singleton_iff.mp hkind
  exact ⟨filter, hfilter, hquantum⟩

/-- The metadata is parsed from the array of symbols. -/
theorem parseInfo_ok (h : parseInfo rules maximum root requestedSymbol = .ok metadata) :
    ∃ symbols, root.find "symbols" = some (.array symbols) ∧ parseSymbols rules maximum requestedSymbol symbols = .ok metadata := by
  unfold parseInfo at h
  split at h
  · cases h
  · split at h
    · rename_i symbols hsymbols
      exact ⟨symbols, hsymbols, h⟩
    · cases h

/-- What is parsed is said by one entry, and by one filter of each kind. -/
theorem parseInfo_unambiguous (h : parseInfo rules maximum root requestedSymbol = .ok metadata) :
    Unambiguous root requestedSymbol metadata := by
  obtain ⟨symbols, hsymbols, h⟩ := parseInfo_ok h
  obtain ⟨selected, hselected, h⟩ := exists_of_bind_ok h
  obtain ⟨-, hkept⟩ := (collects_selectEntry requestedSymbol).foldlM_iff.mp hselected
  have hentry := hkept ()
  rw [flatMap_ite_self] at hentry
  cases selected with
  | none => cases h
  | some entry =>
    obtain ⟨-, -, h⟩ := exists_of_bind_ok h
    split at h
    · rename_i filters hfilters
      obtain ⟨quanta, hquanta, h⟩ := exists_of_bind_ok h
      obtain ⟨htick, hstep, hprice, hquantity⟩ := parseQuanta_ok h
      obtain ⟨price, hpriceFilter, hpriceQuantum⟩ := readFilters_ok hquanta .price htick
      obtain ⟨lot, hlotFilter, hlotQuantum⟩ := readFilters_ok hquanta .lot hstep
      exact ⟨symbols, entry, filters, price, lot, hsymbols, by simpa using hentry, hfilters, hpriceFilter, hpriceQuantum, hlotFilter,
        hlotQuantum, hprice, hquantity⟩
    · cases h

/-! ## Rearrangements -/

/-- Two entries that differ at most in the order of their filters. -/
structure SameEntry (entry entry' : Json) : Prop where
  object : entry.isObject = entry'.isObject
  members : ∀ name, bytes name ≠ bytes "filters" → entry.find name = entry'.find name
  filters : entry.find "filters" = entry'.find "filters" ∨
    ∃ filters filters', entry.find "filters" = some (.array filters) ∧ entry'.find "filters" = some (.array filters') ∧
      filters.Perm filters'

/-- The symbols of two roots are the same up to their order and the order of their filters. -/
def Rearranged (root root' : Json) : Prop :=
  ∃ symbols middle symbols', root.find "symbols" = some (.array symbols) ∧ root'.find "symbols" = some (.array symbols') ∧
    List.Forall₂ SameEntry symbols middle ∧ middle.Perm symbols'

/-- Entries that differ in order only do so both ways. -/
theorem SameEntry.symm {entry entry' : Json} (h : SameEntry entry entry') : SameEntry entry' entry where
  object := h.object.symm
  members name hname := (h.members name hname).symm
  filters := h.filters.imp Eq.symm fun ⟨filters, filters', hf, hf', hperm⟩ => ⟨filters', filters, hf', hf, hperm.symm⟩

/-- Outside of the filters such entries have the same strings. -/
theorem SameEntry.stringField {entry entry' : Json} (h : SameEntry entry entry') {name : String} (hname : bytes name ≠ bytes "filters") :
    stringField entry name = stringField entry' name := by
  unfold Protocol.stringField
  rw [h.members name hname]

/-- Outside of the filters such entries have the same flags. -/
theorem SameEntry.booleanField {entry entry' : Json} (h : SameEntry entry entry') {name : String} (hname : bytes name ≠ bytes "filters") :
    booleanField entry name = booleanField entry' name := by
  unfold Protocol.booleanField
  rw [h.members name hname]

/-- The rules of a market do not look at the filters. -/
def MarketRules.Blind (rules : MarketRules) : Prop := ∀ entry entry', SameEntry entry entry' → rules.tradable entry = rules.tradable entry'

/-- The rules of the spot market do not look at the filters. -/
theorem spotRules_blind : spotRules.Blind := by
  intro entry entry' h
  unfold spotRules
  dsimp only
  rw [h.stringField (by decide), h.booleanField (by decide)]

/-- The rules of the USD-M market do not look at the filters. -/
theorem usdmRules_blind : usdmRules.Blind := by
  intro entry entry' h
  unfold usdmRules
  dsimp only
  rw [h.stringField (by decide), h.stringField (by decide)]

/-- Two selections, of entries that are the same up to their filters. -/
def SameSelection : Option Json → Option Json → Prop
  | none, none => True
  | some entry, some entry' => SameEntry entry entry'
  | _, _ => False

/-- Entries that differ in order only are selected alike. -/
theorem selectEntry_same {selected selected' : Option Json} {candidate candidate' : Json} {next : Option Json}
    (hs : SameSelection selected selected') (hc : SameEntry candidate candidate')
    (h : selectEntry requestedSymbol selected candidate = .ok next) :
    ∃ next', selectEntry requestedSymbol selected' candidate' = .ok next' ∧ SameSelection next next' := by
  unfold selectEntry at h ⊢
  rw [← hc.object, ← hc.stringField (by decide)]
  split at h
  · cases h
  · rename_i hobject
    rw [if_neg hobject]
    split at h
    · cases h
    · split at h
      · rename_i hname
        rw [if_pos hname]
        split at h
        · cases h
        · rename_i hnone
          cases h
          cases selected <;> cases selected' <;> simp_all [SameSelection]
      · rename_i hname
        rw [if_neg hname]
        cases h
        exact ⟨selected', rfl, hs⟩

/-- There is at most one quantum of each kind. -/
theorem readFilters_short (kind : FilterKind) (quanta : Quanta) : ((quanta.of kind).toList.map some).length ≤ 1 := by
  cases quanta.of kind <;> simp

/-- Entries that differ in order only are parsed alike. -/
theorem parseEntry_same (hblind : rules.Blind) {entry entry' : Json} (he : SameEntry entry entry')
    (h : parseEntry rules maximum entry = .ok metadata) : parseEntry rules maximum entry' = .ok metadata := by
  unfold parseEntry at h ⊢
  rw [← hblind entry entry' he]
  obtain ⟨done, htradable, h⟩ := exists_of_bind_ok h
  rw [htradable]
  rcases he.filters with hsame | ⟨filters, filters', hf, hf', hperm⟩
  · rw [← hsame]
    exact h
  · rw [hf] at h
    rw [hf']
    obtain ⟨quanta, hquanta, h⟩ := exists_of_bind_ok h
    have hquanta' := (collects_readFilter.foldlM_perm readFilters_short hperm).mp hquanta
    show (filters'.foldlM readFilter {} >>= parseQuanta maximum) = .ok metadata
    rw [hquanta']
    exact h

/-- Lists of such entries are parsed alike. -/
theorem parseSymbols_same (hblind : rules.Blind) {symbols symbols' : List Json} (hs : List.Forall₂ SameEntry symbols symbols')
    (h : parseSymbols rules maximum requestedSymbol symbols = .ok metadata) :
    parseSymbols rules maximum requestedSymbol symbols' = .ok metadata := by
  obtain ⟨selected, hselected, h⟩ := exists_of_bind_ok h
  obtain ⟨selected', hselected', hsame⟩ := foldlM_forall₂ (S := SameSelection) (f := selectEntry requestedSymbol) (g := selectEntry requestedSymbol)
    (fun _ _ _ _ _ hs hc hstep => selectEntry_same hs hc hstep) hs (s := none) (t := none) trivial hselected
  unfold parseSymbols
  rw [hselected']
  cases selected with
  | none => cases h
  | some entry =>
    cases selected' with
    | none => exact hsame.elim
    | some entry' => exact parseEntry_same hblind hsame h

/-- The order of the symbols does not matter. -/
theorem parseSymbols_perm {symbols symbols' : List Json} (hperm : symbols.Perm symbols')
    (h : parseSymbols rules maximum requestedSymbol symbols = .ok metadata) :
    parseSymbols rules maximum requestedSymbol symbols' = .ok metadata := by
  obtain ⟨selected, hselected, h⟩ := exists_of_bind_ok h
  have hshort : ∀ (_ : Unit) (s : Option Json), s.toList.length ≤ 1 := by
    intro _ s
    cases s <;> simp
  unfold parseSymbols
  rw [((collects_selectEntry requestedSymbol).foldlM_perm hshort hperm).mp hselected]
  exact h

/-- Either root is accepted, with the same metadata, when the other one is. -/
theorem parseInfo_rearranged (hblind : rules.Blind) {root' : Json} (h : Rearranged root root') :
    parseInfo rules maximum root requestedSymbol = .ok metadata ↔ parseInfo rules maximum root' requestedSymbol = .ok metadata := by
  obtain ⟨symbols, middle, symbols', hs, hs', hsame, hperm⟩ := h
  unfold parseInfo
  rw [hs, hs']
  split
  · simp
  · constructor
    · intro h
      exact parseSymbols_perm hperm (parseSymbols_same hblind hsame h)
    · intro h
      exact parseSymbols_same hblind (List.Forall₂.flip (hsame.imp fun _ _ h => h.symm)) (parseSymbols_perm hperm.symm h)

/-- For both markets, neither the acceptance nor the metadata depends on the order of the symbols or of any entry's filters; and what is
accepted is the only entry of the requested symbol, with the scales of its only filters. -/
theorem exchange_info_is_order_independent (maximum : Nat) (decode : Bytes → Except DecodeFailure Json) (requestedSymbol : Bytes) :
    ∀ parse ∈ [parseExchangeInfo, parseUsdmExchangeInfo],
      (∀ payload payload' root root', decode payload = .ok root → decode payload' = .ok root' → Rearranged root root' →
        ∀ metadata, parse maximum decode payload requestedSymbol = .ok metadata ↔
          parse maximum decode payload' requestedSymbol = .ok metadata) ∧
      (∀ payload root metadata, decode payload = .ok root → parse maximum decode payload requestedSymbol = .ok metadata →
        Unambiguous root requestedSymbol metadata) := by
  have hmarket : ∀ rules : MarketRules, rules.Blind →
      (∀ payload payload' root root', decode payload = .ok root → decode payload' = .ok root' → Rearranged root root' →
        ∀ metadata, (do parseInfo rules maximum (← parseJson decode payload) requestedSymbol) = .ok metadata ↔
          (do parseInfo rules maximum (← parseJson decode payload') requestedSymbol) = .ok metadata) ∧
      (∀ payload root metadata, decode payload = .ok root →
        (do parseInfo rules maximum (← parseJson decode payload) requestedSymbol) = .ok metadata →
        Unambiguous root requestedSymbol metadata) := by
    intro rules hblind
    unfold parseJson
    refine ⟨fun payload payload' root root' hroot hroot' hrearranged metadata => ?_, fun payload root metadata hroot h => ?_⟩
    · rw [hroot, hroot']
      exact parseInfo_rearranged hblind hrearranged
    · rw [hroot] at h
      exact parseInfo_unambiguous h
  intro parse hparse
  simp only [List.mem_cons, List.not_mem_nil, or_false] at hparse
  rcases hparse with rfl | rfl
  · exact hmarket spotRules spotRules_blind
  · exact hmarket usdmRules usdmRules_blind

/-! ## Two products -/

def samplePriceFilter : Json := .object [(bytes "filterType", .string (bytes "PRICE_FILTER")), (bytes "tickSize", .string (bytes "0.010"))]

def sampleLotFilter : Json := .object [(bytes "filterType", .string (bytes "LOT_SIZE")), (bytes "stepSize", .string (bytes "1.0"))]

def sampleEntry (symbol : String) (filters : List Json) : Json :=
  .object [(bytes "symbol", .string (bytes symbol)), (bytes "status", .string (bytes "TRADING")),
    (bytes "isSpotTradingAllowed", .boolean true), (bytes "filters", .array filters)]

def sampleInfo (symbols : List Json) : Json := .object [(bytes "symbols", .array symbols)]

/-- A library that decodes one payload to two products, and every other one to the same products in another order. -/
def sampleInfoDecode (payload : Bytes) : Except DecodeFailure Json :=
  .ok (if payload = bytes "info" then
    sampleInfo [sampleEntry "ETHUSDT" [], sampleEntry "BTCUSDT" [samplePriceFilter, sampleLotFilter]]
  else sampleInfo [sampleEntry "BTCUSDT" [sampleLotFilter, samplePriceFilter], sampleEntry "ETHUSDT" []])

/-- The sample with its parts in another order gives the same metadata. -/
theorem exchange_info_is_order_independent_sample :
    parseExchangeInfo 18 sampleInfoDecode (bytes "other") (bytes "BTCUSDT") =
      .ok ⟨bytes "0.010", bytes "1.0", ⟨⟨2, by decide⟩, ⟨0, by decide⟩⟩⟩ := by
  obtain ⟨horder, -⟩ := exchange_info_is_order_independent 18 sampleInfoDecode (bytes "BTCUSDT") parseExchangeInfo (by simp)
  refine (horder (bytes "info") (bytes "other") _ _ rfl rfl ?_ _).mp (by rfl)
  refine ⟨_, [sampleEntry "ETHUSDT" [], sampleEntry "BTCUSDT" [sampleLotFilter, samplePriceFilter]], _, rfl, rfl, ?_, List.Perm.swap ..⟩
  refine .cons ⟨rfl, fun _ _ => rfl, .inl rfl⟩ (.cons ⟨rfl, fun name hname => ?_, .inr ⟨_, _, rfl, rfl, List.Perm.swap ..⟩⟩ .nil)
  simp only [sampleEntry, Json.find, List.lookup_cons, beq_eq_false_iff_ne.mpr hname, List.lookup_nil]

end MarketDataGateway.Protocol
