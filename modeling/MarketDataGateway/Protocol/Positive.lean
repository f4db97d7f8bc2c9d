import MarketDataGateway.Protocol.Fidelity

/-!
# Prices and quantities of trades and tickers

What the decimal check of a field that must be positive lets through: the positive plain decimals, and every zero that is written with a
point, since the point is a character other than `0`. A trade or a ticker is accepted when its fields are there and pass their checks.
-/

namespace MarketDataGateway.Protocol

open Ascii Decimal MarketRuntime

def Positive (text : Bytes) : Prop := Plain text ∧ 0 < value text

def NonNegative (text : Bytes) : Prop := Plain text ∧ 0 ≤ value text

/-- A zero that is written with a point. -/
def PointedZero (text : Bytes) : Prop := Plain text ∧ value text = 0 ∧ code '.' ∈ text

/-- Where zero is allowed the check is exact. -/
theorem plainDecimal_true_iff {text : Bytes} : plainDecimal text true = true ↔ NonNegative text := by
  rw [plainDecimal_iff]
  simp [NonNegative, value_nonneg]

/-- Where zero is not allowed the check still lets a zero with a point pass. -/
theorem plainDecimal_false_iff {text : Bytes} : plainDecimal text false = true ↔ Positive text ∨ PointedZero text := by
  rw [plainDecimal_iff, Positive, PointedZero, ← and_or_left]
  refine and_congr_right fun hplain => ?_
  simp only [Bool.false_eq_true, false_or]
  constructor
  · rintro ⟨byte, hbyte, hne⟩
    by_cases hvalue : value text = 0
    · have hpoint := ((hplain.value_eq_zero.mp hvalue) byte hbyte).resolve_left hne
      exact .inr ⟨hvalue, hpoint ▸ hbyte⟩
    · exact .inl (lt_of_le_of_ne (value_nonneg text) (Ne.symm hvalue))
  · rintro (hpos | ⟨-, hpoint⟩)
    · obtain ⟨byte, hbyte, hne, -⟩ := hplain.value_pos.mp hpos
      exact ⟨byte, hbyte, hne⟩
    · exact ⟨code '.', hpoint, by decide⟩

/-- Of the texts that pass for positive, the positive ones are those that are no zero with a point. -/
theorem positive_iff_of_plainDecimal {text : Bytes} (h : plainDecimal text false = true) : Positive text ↔ ¬PointedZero text := by
  constructor
  · rintro ⟨-, hpos⟩ ⟨-, hzero, -⟩
    exact hpos.ne' hzero
  · intro hnot
    exact (plainDecimal_false_iff.mp h).resolve_right hnot

/-! ## Accepted trades and tickers -/

/-- An object that is a trade of a symbol, whatever its decimals are. -/
def IsAggTrade (data : Json) (symbol price quantity : Bytes) : Prop :=
  stringField data "e" = some (bytes "aggTrade") ∧ stringField data "s" = some symbol ∧
    (∀ name ∈ ["a", "f", "l", "E", "T"], ∃ n, unsignedField data name = some n) ∧
    (∀ name ∈ ["m", "M"], ∃ b, booleanField data name = some b) ∧
    stringField data "p" = some price ∧ stringField data "q" = some quantity

/-- An object that is a ticker of a symbol, whatever its decimals are. -/
def IsBookTicker (data : Json) (symbol bidPrice bidQuantity askPrice askQuantity : Bytes) : Prop :=
  stringField data "s" = some symbol ∧ (∃ n, unsignedField data "u" = some n) ∧ stringField data "b" = some bidPrice ∧
    stringField data "B" = some bidQuantity ∧ stringField data "a" = some askPrice ∧ stringField data "A" = some askQuantity

variable {data root : Json} {receivedAt : ClockSample} {connectionId requestedSymbol : Bytes}

/-- A string that is found is a member. -/
theorem isSome_of_stringField {name : String} {text : Bytes} (h : stringField data name = some text) :
    (data.find name).isSome = true := by
  rw [stringField_eq_some.mp h]
  rfl

/-- A number that is found is a member. -/
theorem isSome_of_unsignedField {name : String} {n : UInt64} (h : unsignedField data name = some n) :
    (data.find name).isSome = true := by
  rw [unsignedField_eq_some.mp h]
  rfl

/-- A flag that is found is a member. -/
theorem isSome_of_booleanField {name : String} {b : Bool} (h : booleanField data name = some b) :
    (data.find name).isSome = true := by
  rw [booleanField_eq_some.mp h]
  rfl

/-- The decimals of a parsed trade have passed the check. -/
theorem parseAggTrade_ok {trade : AggTrade} (h : parseAggTrade data receivedAt connectionId requestedSymbol = .ok trade) :
    stringField data "p" = some trade.price ∧ stringField data "q" = some trade.quantity ∧
      plainDecimal trade.price false = true ∧ plainDecimal trade.quantity false = true := by
  unfold parseAggTrade at h
  split at h
  · cases h
  · split at h
    · cases h
    · split at h
      · cases h
      · split at h
        · rename_i hp hq _ _ _ _ _ _
          split at h
          · cases h
          · rename_i hdecimals
            simp only [Bool.or_eq_true, Bool.not_eq_true', not_or, Bool.not_eq_false] at hdecimals
            cases h
            exact ⟨hp, hq, hdecimals⟩
        · cases h

/-- A trade whose decimals pass their checks is accepted with them. -/
theorem parseAggTrade_accepts {price quantity : Bytes} (receivedAt : ClockSample) (connectionId : Bytes)
    (h : IsAggTrade data requestedSymbol price quantity)
    (hprice : plainDecimal price false = true) (hquantity : plainDecimal quantity false = true) :
    ∃ trade, parseAggTrade data receivedAt connectionId requestedSymbol = .ok trade ∧ trade.price = price ∧ trade.quantity = quantity := by
  obtain ⟨he, hs, hunsigned, hboolean, hp, hq⟩ := h
  obtain ⟨aggregateId, ha⟩ := hunsigned "a" (by simp)
  obtain ⟨firstTradeId, hf⟩ := hunsigned "f" (by simp)
  obtain ⟨lastTradeId, hl⟩ := hunsigned "l" (by simp)
  obtain ⟨eventTime, hE⟩ := hunsigned "E" (by simp)
  obtain ⟨tradeTime, hT⟩ := hunsigned "T" (by simp)
  obtain ⟨buyerIsMaker, hm⟩ := hboolean "m" (by simp)
  obtain ⟨bestMatch, hM⟩ := hboolean "M" (by simp)
  have hkeys : hasRequiredKeys data aggTradeKeys = true := by
    rw [hasRequiredKeys_iff]
    refine ⟨isObject_of_find (stringField_eq_some.mp he), ?_⟩
    simp [aggTradeKeys, isSome_of_stringField he, isSome_of_stringField hs, isSome_of_stringField hp, isSome_of_stringField hq,
      isSome_of_unsignedField ha, isSome_of_unsignedField hf, isSome_of_unsignedField hl, isSome_of_unsignedField hE,
      isSome_of_unsignedField hT, isSome_of_booleanField hm, isSome_of_booleanField hM]
  unfold parseAggTrade
  rw [if_neg (by simp [hkeys]), if_neg (by simp [he]), if_neg (by simp [hs]), ha, hp, hq, hf, hl, hE, hT, hm, hM]
  dsimp only
  rw [if_neg (by simp [hprice, hquantity])]
  exact ⟨_, rfl, rfl, rfl⟩

/-- The decimals of a parsed ticker have passed the check. -/
theorem parseBookTicker_ok {ticker : BookTicker} (h : parseBookTicker data receivedAt connectionId requestedSymbol = .ok ticker) :
    stringField data "b" = some ticker.bestBidPrice ∧ stringField data "a" = some ticker.bestAskPrice ∧
      plainDecimal ticker.bestBidPrice false = true ∧ plainDecimal ticker.bestBidQuantity true = true ∧
      plainDecimal ticker.bestAskPrice false = true ∧ plainDecimal ticker.bestAskQuantity true = true := by
  unfold parseBookTicker at h
  split at h
  · cases h
  · split at h
    · cases h
    · split at h
      · rename_i hb _ ha _
        split at h
        · cases h
        · rename_i hdecimals
          simp only [Bool.or_eq_true, Bool.not_eq_true', not_or, Bool.not_eq_false] at hdecimals
          cases h
          exact ⟨hb, ha, hdecimals.1.1.1, hdecimals.1.1.2, hdecimals.1.2, hdecimals.2⟩
      · cases h

/-- A ticker whose decimals pass their checks is accepted with them. -/
theorem parseBookTicker_accepts {bidPrice bidQuantity askPrice askQuantity : Bytes} (receivedAt : ClockSample) (connectionId : Bytes)
    (h : IsBookTicker data requestedSymbol bidPrice bidQuantity askPrice askQuantity) (hbid : plainDecimal bidPrice false = true)
    (hbidQuantity : plainDecimal bidQuantity true = true) (hask : plainDecimal askPrice false = true)
    (haskQuantity : plainDecimal askQuantity true = true) :
    ∃ ticker, parseBookTicker data receivedAt connectionId requestedSymbol = .ok ticker ∧ ticker.bestBidPrice = bidPrice ∧
      ticker.bestBidQuantity = bidQuantity ∧ ticker.bestAskPrice = askPrice ∧ ticker.bestAskQuantity = askQuantity := by
  obtain ⟨hs, ⟨updateId, hu⟩, hb, hB, ha, hA⟩ := h
  have hkeys : hasRequiredKeys data bookTickerKeys = true := by
    rw [hasRequiredKeys_iff]
    refine ⟨isObject_of_find (stringField_eq_some.mp hs), ?_⟩
    simp [bookTickerKeys, isSome_of_stringField hs, isSome_of_unsignedField hu, isSome_of_stringField hb, isSome_of_stringField hB,
      isSome_of_stringField ha, isSome_of_stringField hA]
  unfold parseBookTicker
  rw [if_neg (by simp [hkeys]), if_neg (by simp [hs]), hu, hb, hB, ha, hA]
  dsimp only
  rw [if_neg (by simp [hbid, hbidQuantity, hask, haskQuantity])]
  exact ⟨_, rfl, rfl, rfl, rfl, rfl⟩

/-! ## Through the envelope -/

/-- An accepted frame was one of the streams, with the data of the envelope. -/
theorem parseCombinedObject_ok {frame : CombinedFrame} (h : parseCombinedObject root receivedAt connectionId requestedSymbol = .ok frame) :
    ∃ streamSymbol stream members, root.find "data" = some (.object members) ∧
      parseStream streamSymbol stream (.object members) receivedAt connectionId requestedSymbol = .ok frame := by
  unfold parseCombinedObject at h
  split at h
  · cases h
  · rename_i streamSymbol _
    split at h
    · cases h
    · split at h
      · rename_i stream members _ hdata
        split at h
        · cases h
        · exact ⟨streamSymbol, stream, members, hdata, h⟩
      · cases h

/-- A value behind a map comes from one before it. -/
theorem exists_of_map_ok {ε α β : Type} {x : Except ε α} {f : α → β} {b : β} (h : x.map f = .ok b) : ∃ a, x = .ok a ∧ f a = b := by
  cases x with
  | error e => cases h
  | ok a => exact ⟨a, rfl, Except.ok.inj h⟩

/-- The shutdown stream gives depth frames. -/
theorem parseShutdownStream_ok {frame : CombinedFrame}
    (h : parseShutdownStream data receivedAt connectionId requestedSymbol = .ok frame) : ∃ depth : DepthFrame, depth.combined = frame := by
  unfold parseShutdownStream at h
  split at h
  · cases h
  · obtain ⟨depth, -, rfl⟩ := exists_of_map_ok h
    exact ⟨depth, rfl⟩

/-- Only the stream of trades gives trades. -/
theorem parseStream_aggTrade {streamSymbol stream : Bytes} {trade : AggTrade}
    (h : parseStream streamSymbol stream data receivedAt connectionId requestedSymbol = .ok (.event (.aggTrade trade))) :
    parseAggTrade data receivedAt connectionId requestedSymbol = .ok trade := by
  unfold parseStream at h
  split at h
  · obtain ⟨depth, hdepth⟩ := parseShutdownStream_ok h
    cases depth <;> cases hdepth
  · split at h
    · obtain ⟨depth, -, hdepth⟩ := exists_of_map_ok h
      cases depth <;> cases hdepth
    · split at h
      · obtain ⟨trade', htrade, heq⟩ := exists_of_map_ok h
        cases heq
        exact htrade
      · split at h
        · obtain ⟨ticker, -, heq⟩ := exists_of_map_ok h
          cases heq
        · cases h

/-- Only the stream of tickers gives tickers. -/
theorem parseStream_bookTicker {streamSymbol stream : Bytes} {ticker : BookTicker}
    (h : parseStream streamSymbol stream data receivedAt connectionId requestedSymbol = .ok (.event (.bookTicker ticker))) :
    parseBookTicker data receivedAt connectionId requestedSymbol = .ok ticker := by
  unfold parseStream at h
  split at h
  · obtain ⟨depth, hdepth⟩ := parseShutdownStream_ok h
    cases depth <;> cases hdepth
  · split at h
    · obtain ⟨depth, -, hdepth⟩ := exists_of_map_ok h
      cases depth <;> cases hdepth
    · split at h
      · obtain ⟨trade, -, heq⟩ := exists_of_map_ok h
        cases heq
      · split at h
        · obtain ⟨ticker', hticker, heq⟩ := exists_of_map_ok h
          cases heq
          exact hticker
        · cases h

/-- The streams of trades and of depth have different names. -/
theorem aggTradeStream_ne_depth (streamSymbol : Bytes) : aggTradeStream streamSymbol ≠ depthStream streamSymbol := by
  intro heq
  exact absurd (List.append_cancel_left heq) (by decide)

/-- The streams of tickers and of depth have different names. -/
theorem bookTickerStream_ne_depth (streamSymbol : Bytes) : bookTickerStream streamSymbol ≠ depthStream streamSymbol := by
  intro heq
  exact absurd (List.append_cancel_left heq) (by decide)

/-- The streams of tickers and of trades have different names. -/
theorem bookTickerStream_ne_aggTrade (streamSymbol : Bytes) : bookTickerStream streamSymbol ≠ aggTradeStream streamSymbol := by
  intro heq
  exact absurd (List.append_cancel_left heq) (by decide)

/-- A frame of the stream of trades is parsed as a trade. -/
theorem parseStream_on_aggTrade {streamSymbol : Bytes} (hroute : spotStreamSymbol requestedSymbol = some streamSymbol) :
    parseStream streamSymbol (aggTradeStream streamSymbol) data receivedAt connectionId requestedSymbol =
      (parseAggTrade data receivedAt connectionId requestedSymbol).map fun trade => .event (.aggTrade trade) := by
  have hshutdown : aggTradeStream streamSymbol ≠ bytes "!serverShutdown" := stream_ne_shutdown hroute
  unfold parseStream
  rw [if_neg hshutdown, if_neg (aggTradeStream_ne_depth _), if_pos rfl]

/-- A frame of the stream of tickers is parsed as a ticker. -/
theorem parseStream_on_bookTicker {streamSymbol : Bytes} (hroute : spotStreamSymbol requestedSymbol = some streamSymbol) :
    parseStream streamSymbol (bookTickerStream streamSymbol) data receivedAt connectionId requestedSymbol =
      (parseBookTicker data receivedAt connectionId requestedSymbol).map fun ticker => .event (.bookTicker ticker) := by
  have hshutdown : bookTickerStream streamSymbol ≠ bytes "!serverShutdown" := stream_ne_shutdown hroute
  unfold parseStream
  rw [if_neg hshutdown, if_neg (bookTickerStream_ne_depth _), if_neg (bookTickerStream_ne_aggTrade _), if_pos rfl]

/-- No text that must be positive is a zero with a point. -/
def NoPointedZero (root : Json) (names : List String) : Prop :=
  ∀ data, root.find "data" = some data → ∀ name ∈ names, ∀ text, stringField data name = some text → ¬PointedZero text

variable {decode : Bytes → Except DecodeFailure Json} {payload : Bytes}

/-- An accepted trade has the data of the envelope. -/
theorem parseCombinedEventFrame_aggTrade (hdecode : decode payload = .ok root) {trade : AggTrade}
    (h : parseCombinedEventFrame decode payload receivedAt connectionId requestedSymbol = .ok (.event (.aggTrade trade))) :
    ∃ data, root.find "data" = some data ∧ parseAggTrade data receivedAt connectionId requestedSymbol = .ok trade := by
  unfold parseCombinedEventFrame parseJson at h
  rw [hdecode] at h
  obtain ⟨streamSymbol, stream, members, hdata, hstream⟩ := parseCombinedObject_ok h
  exact ⟨_, hdata, parseStream_aggTrade hstream⟩

/-- An accepted ticker has the data of the envelope. -/
theorem parseCombinedEventFrame_bookTicker (hdecode : decode payload = .ok root) {ticker : BookTicker}
    (h : parseCombinedEventFrame decode payload receivedAt connectionId requestedSymbol = .ok (.event (.bookTicker ticker))) :
    ∃ data, root.find "data" = some data ∧ parseBookTicker data receivedAt connectionId requestedSymbol = .ok ticker := by
  unfold parseCombinedEventFrame parseJson at h
  rw [hdecode] at h
  obtain ⟨streamSymbol, stream, members, hdata, hstream⟩ := parseCombinedObject_ok h
  exact ⟨_, hdata, parseStream_bookTicker hstream⟩

/-- Two fields that must be positive are positive when neither is a zero with a point. -/
theorem positive_iff_noPointedZero {data : Json} {first second : String} {text text' : Bytes} (hdata : root.find "data" = some data)
    (hfirst : stringField data first = some text) (hsecond : stringField data second = some text')
    (hplain : plainDecimal text false = true) (hplain' : plainDecimal text' false = true) :
    Positive text ∧ Positive text' ↔ NoPointedZero root [first, second] := by
  rw [positive_iff_of_plainDecimal hplain, positive_iff_of_plainDecimal hplain']
  constructor
  · rintro ⟨hnot, hnot'⟩ data' hdata' name hname other hother
    obtain rfl := Option.some.inj (hdata.symm.trans hdata')
    simp only [List.mem_cons, List.not_mem_nil, or_false] at hname
    rcases hname with rfl | rfl
    · exact Option.some.inj (hfirst.symm.trans hother) ▸ hnot
    · exact Option.some.inj (hsecond.symm.trans hother) ▸ hnot'
  · intro hnone
    exact ⟨hnone data hdata first (by simp) text hfirst, hnone data hdata second (by simp) text' hsecond⟩

/-- The prices and quantities of an accepted trade are positive, and so are the prices of an accepted ticker, just when none of them is a
zero that the payload writes with a point; and all decimals that satisfy their conditions are accepted. -/
theorem decimals_positive_iff_no_pointed_zero (decode : Bytes → Except DecodeFailure Json) (payload : Bytes) (root : Json)
    (receivedAt : ClockSample) (connectionId requestedSymbol : Bytes) (hdecode : decode payload = .ok root) :
    (∀ trade, parseCombinedEventFrame decode payload receivedAt connectionId requestedSymbol = .ok (.event (.aggTrade trade)) →
      (Positive trade.price ∧ Positive trade.quantity ↔ NoPointedZero root ["p", "q"])) ∧
    (∀ ticker, parseCombinedEventFrame decode payload receivedAt connectionId requestedSymbol = .ok (.event (.bookTicker ticker)) →
      ((Positive ticker.bestBidPrice ∧ Positive ticker.bestAskPrice) ∧ NonNegative ticker.bestBidQuantity ∧
        NonNegative ticker.bestAskQuantity ↔ NoPointedZero root ["b", "a"])) ∧
    ∀ streamSymbol members, spotStreamSymbol requestedSymbol = some streamSymbol → connectionId ≠ [] →
      root.find "data" = some (.object members) →
      (root.find "stream" = some (.string (aggTradeStream streamSymbol)) → ∀ price quantity,
        IsAggTrade (.object members) requestedSymbol price quantity → Positive price → Positive quantity →
        ∃ trade, parseCombinedEventFrame decode payload receivedAt connectionId requestedSymbol = .ok (.event (.aggTrade trade)) ∧
          trade.price = price ∧ trade.quantity = quantity) ∧
      (root.find "stream" = some (.string (bookTickerStream streamSymbol)) → ∀ bidPrice bidQuantity askPrice askQuantity,
        IsBookTicker (.object members) requestedSymbol bidPrice bidQuantity askPrice askQuantity → Positive bidPrice →
        NonNegative bidQuantity → Positive askPrice → NonNegative askQuantity →
        ∃ ticker, parseCombinedEventFrame decode payload receivedAt connectionId requestedSymbol = .ok (.event (.bookTicker ticker)) ∧
          ticker.bestBidPrice = bidPrice ∧ ticker.bestBidQuantity = bidQuantity ∧ ticker.bestAskPrice = askPrice ∧
          ticker.bestAskQuantity = askQuantity) := by
  refine ⟨?_, ?_, ?_⟩
  · intro trade h
    obtain ⟨data, hdata, hparse⟩ := parseCombinedEventFrame_aggTrade hdecode h
    obtain ⟨hp, hq, hprice, hquantity⟩ := parseAggTrade_ok hparse
    exact positive_iff_noPointedZero hdata hp hq hprice hquantity
  · intro ticker h
    obtain ⟨data, hdata, hparse⟩ := parseCombinedEventFrame_bookTicker hdecode h
    obtain ⟨hb, ha, hbid, hbidQuantity, hask, haskQuantity⟩ := parseBookTicker_ok hparse
    rw [and_iff_left ⟨plainDecimal_true_iff.mp hbidQuantity, plainDecimal_true_iff.mp haskQuantity⟩]
    exact positive_iff_noPointedZero hdata hb ha hbid hask
  · intro streamSymbol members hroute hconnection hdata
    unfold parseCombinedEventFrame parseJson
    rw [hdecode]
    refine ⟨?_, ?_⟩
    · intro hstream price quantity htrade hprice hquantity
      obtain ⟨trade, hparse, rfl, rfl⟩ := parseAggTrade_accepts receivedAt connectionId htrade
        (plainDecimal_false_iff.mpr (.inl hprice)) (plainDecimal_false_iff.mpr (.inl hquantity))
      refine ⟨trade, ?_, rfl, rfl⟩
      refine (parseCombinedObject_envelope hroute hconnection hstream hdata).trans ?_
      rw [parseStream_on_aggTrade hroute, hparse]
      rfl
    · intro hstream bidPrice bidQuantity askPrice askQuantity hticker hbid hbidQuantity hask haskQuantity
      obtain ⟨ticker, hparse, rfl, rfl, rfl, rfl⟩ := parseBookTicker_accepts receivedAt connectionId
        hticker (plainDecimal_false_iff.mpr (.inl hbid)) (plainDecimal_true_iff.mpr hbidQuantity)
        (plainDecimal_false_iff.mpr (.inl hask)) (plainDecimal_true_iff.mpr haskQuantity)
      refine ⟨ticker, ?_, rfl, rfl, rfl, rfl⟩
      refine (parseCombinedObject_envelope hroute hconnection hstream hdata).trans ?_
      rw [parseStream_on_bookTicker hroute, hparse]
      rfl

/-! ## A trade at no price -/

/-- A trade of one unit at a price. -/
def tradeAt (price : Bytes) : Json :=
  .object [(bytes "data", .object [(bytes "e", .string (bytes "aggTrade")), (bytes "E", .unsigned 1),
      (bytes "s", .string (bytes "BTCUSDT")), (bytes "a", .unsigned 1), (bytes "p", .string price), (bytes "q", .string (bytes "1")),
      (bytes "f", .unsigned 1), (bytes "l", .unsigned 1), (bytes "T", .unsigned 1), (bytes "m", .boolean true),
      (bytes "M", .boolean true)]), (bytes "stream", .string (bytes "btcusdt@aggTrade"))]

def acceptedTradeAt (price : Bytes) : AggTrade :=
  ⟨aggTradeMetadata (bytes "BTCUSDT") (bytes "c") ⟨1, 2⟩ 1 1, 1, price, bytes "1", 1, 1, 1, true⟩

/-- A trade at 1.50 has positive decimals. -/
theorem decimals_positive_iff_no_pointed_zero_trade :
    Positive (bytes "1.50") ∧ Positive (bytes "1") ↔ NoPointedZero (tradeAt (bytes "1.50")) ["p", "q"] :=
  (decimals_positive_iff_no_pointed_zero (fun _ => .ok (tradeAt (bytes "1.50"))) [] _ ⟨1, 2⟩ (bytes "c") (bytes "BTCUSDT") rfl).1
    (acceptedTradeAt (bytes "1.50")) rfl

/-- A trade is accepted at a price of `0.0`. -/
theorem decimals_not_positive :
    ¬∀ (decode : Bytes → Except DecodeFailure Json) (payload : Bytes) (receivedAt : ClockSample) (connectionId requestedSymbol : Bytes)
      (trade : AggTrade), parseCombinedEventFrame decode payload receivedAt connectionId requestedSymbol = .ok (.event (.aggTrade trade)) →
      Positive trade.price ∧ Positive trade.quantity := by
  intro h
  obtain ⟨⟨-, hpos⟩, -⟩ := h (fun _ => .ok (tradeAt (bytes "0.0"))) [] ⟨1, 2⟩ (bytes "c") (bytes "BTCUSDT")
    (acceptedTradeAt (bytes "0.0")) rfl
  have hzero : value (bytes "0.0") = 0 := by decide +kernel
  exact absurd hpos hzero.not_gt

end MarketDataGateway.Protocol
