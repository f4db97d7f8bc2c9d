import MarketDataGateway.Protocol.UsdM

/-!
# Faithful depth frames

What an accepted depth frame says is what stands in the payload, field by field and level by level, and nothing of a payload is left of a
frame that is not accepted. The combined parser hands a depth event on to the decoder of raw frames, so the two agree.
-/

namespace MarketDataGateway.Protocol

open Ascii MarketRuntime Status

/-- What both markets carry over from a depth object. -/
structure Faithful (root : Json) (requestedSymbol : Bytes) (update : DepthUpdate) : Prop where
  first : root.find "U" = some (.unsigned update.firstUpdateId)
  final : root.find "u" = some (.unsigned update.finalUpdateId)
  eventTime : root.find "E" = update.metadata.exchangeEventTimeMs.map .unsigned
  symbol : root.find "s" = some (.string requestedSymbol) ∧ update.metadata.symbol = requestedSymbol
  bids : root.find "b" = some (.array (update.bids.map PriceLevel.toJson))
  asks : root.find "a" = some (.array (update.asks.map PriceLevel.toJson))

/-- The fields that only the USD-M market has are left out. -/
structure FaithfulSpot (root : Json) (requestedSymbol : Bytes) (update : DepthUpdate) : Prop extends
    Faithful root requestedSymbol update where
  market : update.metadata.market = .spot
  previousFinal : root.find "pu" = none ∧ update.previousFinalUpdateId = none
  transactionTime : update.metadata.exchangeTransactionTimeMs = none

/-- The fields that may be left out are there when they are in the payload. -/
structure FaithfulUsdm (root : Json) (requestedSymbol : Bytes) (update : DepthUpdate) : Prop extends
    Faithful root requestedSymbol update where
  market : update.metadata.market = .usdMPerpetual
  previousFinal : root.find "pu" = update.previousFinalUpdateId.map .unsigned
  transactionTime : root.find "T" = update.metadata.exchangeTransactionTimeMs.map .unsigned

variable {root : Json} {receivedAt : ClockSample} {connectionId requestedSymbol : Bytes} {update : DepthUpdate}

/-- The sides of an update are those of the payload; all else was there before. -/
theorem appendSides_ok {h : hasRequiredKeys root depthUpdateKeys = true} {base : DepthUpdate} {frame : DepthFrame}
    (hbids : base.bids = []) (hasks : base.asks = []) (hframe : appendSides root h base = .ok frame) :
    ∃ bids asks : List PriceLevel, frame = .update { base with bids, asks } ∧
      root.find "b" = some (.array (bids.map PriceLevel.toJson)) ∧ root.find "a" = some (.array (asks.map PriceLevel.toJson)) := by
  unfold appendSides at hframe
  obtain ⟨bids, hb, hframe⟩ := exists_of_bind_ok hframe
  obtain ⟨asks, ha, hframe⟩ := exists_of_bind_ok hframe
  obtain ⟨bidSide, hbidSide, rfl⟩ := appendLevels_ok hb
  obtain ⟨askSide, haskSide, rfl⟩ := appendLevels_ok ha
  cases hframe
  refine ⟨bidSide, askSide, by rw [hbids, hasks]; rfl, ?_, ?_⟩
  · rw [← hbidSide]
    exact Json.find_member _
  · rw [← haskSide]
    exact Json.find_member _

/-- A shutdown notice is parsed as one. -/
theorem parseServerShutdown_ok {frame : DepthFrame} (h : parseServerShutdown root = .ok frame) : ∃ notice, frame = .shutdown notice := by
  unfold parseServerShutdown at h
  split at h
  · cases h
  · split at h
    · cases h
    · cases h
      exact ⟨_, rfl⟩

/-- An accepted Spot frame is a shutdown notice or a faithful update. -/
theorem parseDepthObject_ok {frame : DepthFrame} (h : parseDepthObject root receivedAt connectionId requestedSymbol = .ok frame) :
    (stringField root "e" = some (bytes "serverShutdown") ∧ ∃ notice, frame = .shutdown notice) ∨
      (stringField root "e" = some (bytes "depthUpdate") ∧ ∃ update, frame = .update update ∧ FaithfulSpot root requestedSymbol update) := by
  unfold parseDepthObject at h
  split at h
  · cases h
  · split at h
    · cases h
    · rename_i event hevent
      split at h
      · rename_i hshutdown
        exact .inl ⟨hshutdown ▸ hevent, parseServerShutdown_ok h⟩
      · split at h
        · cases h
        · rename_i hdepth
          split at h
          · rename_i hkeys
            split at h
            · cases h
            · rename_i hsymbol
              split at h
              · rename_i eventTime first final hE hU hu
                split at h
                · cases h
                · obtain ⟨bids, asks, rfl, hb, ha⟩ := appendSides_ok rfl rfl h
                  refine .inr ⟨not_not.mp hdepth ▸ hevent, _, rfl, ?_⟩
                  exact {
                    first := unsignedField_eq_some.mp hU
                    final := unsignedField_eq_some.mp hu
                    eventTime := unsignedField_eq_some.mp hE
                    symbol := ⟨stringField_eq_some.mp (not_not.mp hsymbol), rfl⟩
                    bids := hb
                    asks := ha
                    market := rfl
                    previousFinal := ⟨by simpa [Json.contains] using hkeys.2, rfl⟩
                    transactionTime := rfl }
              · cases h
          · cases h

/-- A field that is not wrongly typed is left out or unsigned. -/
theorem find_of_not_wronglyTyped {name : String} (h : ¬wronglyTyped root name = true) :
    root.find name = (unsignedField root name).map .unsigned := by
  unfold wronglyTyped Json.contains at h
  cases hfind : root.find name with
  | none =>
    unfold unsignedField
    rw [hfind]
    rfl
  | some found =>
    rw [hfind] at h
    obtain ⟨n, hn⟩ := Option.ne_none_iff_exists'.mp (by simpa using h)
    rw [hn, ← hfind, unsignedField_eq_some.mp hn]
    rfl

/-- An accepted USD-M frame is a shutdown notice or a faithful update. -/
theorem parseUsdmDepthObject_ok {frame : DepthFrame}
    (h : parseUsdmDepthObject root receivedAt connectionId requestedSymbol = .ok frame) :
    (stringField root "e" = some (bytes "serverShutdown") ∧ ∃ notice, frame = .shutdown notice) ∨
      (stringField root "e" = some (bytes "depthUpdate") ∧ ∃ update, frame = .update update ∧ FaithfulUsdm root requestedSymbol update) := by
  unfold parseUsdmDepthObject at h
  split at h
  · cases h
  · split at h
    · cases h
    · rename_i event hevent
      split at h
      · rename_i hshutdown
        exact .inl ⟨hshutdown ▸ hevent, parseServerShutdown_ok h⟩
      · split at h
        · cases h
        · rename_i hdepth
          split at h
          · split at h
            · cases h
            · rename_i hsymbol
              split at h
              · cases h
              · split at h
                · cases h
                · split at h
                  · rename_i eventTime first final hE hU hu
                    split at h
                    · cases h
                    · rename_i hT
                      split at h
                      · cases h
                      · rename_i hpu
                        split at h
                        · cases h
                        · obtain ⟨bids, asks, rfl, hb, ha⟩ := appendSides_ok rfl rfl h
                          refine .inr ⟨not_not.mp hdepth ▸ hevent, _, rfl, ?_⟩
                          exact {
                            first := unsignedField_eq_some.mp hU
                            final := unsignedField_eq_some.mp hu
                            eventTime := unsignedField_eq_some.mp hE
                            symbol := ⟨stringField_eq_some.mp (not_not.mp hsymbol), rfl⟩
                            bids := hb
                            asks := ha
                            market := rfl
                            previousFinal := find_of_not_wronglyTyped hpu
                            transactionTime := find_of_not_wronglyTyped hT }
                  · cases h
          · cases h

/-! ## Frames that are turned down -/

/-- A side of a depth object with a level that is none. -/
def MalformedSide (root : Json) : Prop :=
  ∃ name ∈ ["b", "a"], ∃ items, root.find name = some (.array items) ∧ ∃ level ∈ items, Malformed level

/-- A faithful document has no malformed side. -/
theorem Faithful.sides (h : Faithful root requestedSymbol update) : ¬MalformedSide root := by
  have hside : ∀ {levels : List PriceLevel} {items : List Json}, some (Json.array (levels.map PriceLevel.toJson)) = some (.array items) →
      ¬∃ level ∈ items, Malformed level := by
    rintro levels items heq ⟨level, hlevel, hmalformed⟩
    cases heq
    obtain ⟨wellFormed, -, rfl⟩ := List.mem_map.mp hlevel
    exact hmalformed wellFormed rfl
  rintro ⟨name, hname, items, hfind, hmalformed⟩
  simp only [List.mem_cons, List.not_mem_nil, or_false] at hname
  rcases hname with rfl | rfl
  · exact hside (h.bids.symm.trans hfind) hmalformed
  · exact hside (h.asks.symm.trans hfind) hmalformed

/-- What makes a depth update of either market an error. -/
def Broken (root : Json) (requestedSymbol : Bytes) : Prop :=
  MalformedSide root ∨ root.find "s" ≠ some (.string requestedSymbol)

/-- A faithful document is not broken. -/
theorem Faithful.not_broken (h : Faithful root requestedSymbol update) : ¬Broken root requestedSymbol := by
  rintro (hside | hsymbol)
  · exact h.sides hside
  · exact hsymbol h.symbol.1

/-- A broken document is refused, and so is one with the other market's field. -/
theorem parseDepthObject_error (he : stringField root "e" = some (bytes "depthUpdate"))
    (h : Broken root requestedSymbol ∨ root.contains "pu" = true) :
    ∃ e, parseDepthObject root receivedAt connectionId requestedSymbol = .error e := by
  cases hparse : parseDepthObject root receivedAt connectionId requestedSymbol with
  | error e => exact ⟨e, rfl⟩
  | ok frame =>
    exfalso
    rcases parseDepthObject_ok hparse with ⟨hshutdown, -⟩ | ⟨-, update, -, hfaithful⟩
    · exact absurd (he.symm.trans hshutdown) (by decide)
    · rcases h with h | hpu
      · exact hfaithful.not_broken h
      · rw [Json.contains, hfaithful.previousFinal.1] at hpu
        cases hpu

/-- A broken document is refused, and so is one whose own fields have wrong types. -/
theorem parseUsdmDepthObject_error (he : stringField root "e" = some (bytes "depthUpdate"))
    (h : Broken root requestedSymbol ∨ wronglyTyped root "pu" = true ∨ wronglyTyped root "T" = true) :
    ∃ e, parseUsdmDepthObject root receivedAt connectionId requestedSymbol = .error e := by
  have htyped : ∀ {name : String} {n : Option UInt64}, root.find name = n.map .unsigned → ¬wronglyTyped root name = true := by
    intro name n hfind hwrong
    unfold wronglyTyped Json.contains unsignedField at hwrong
    rw [hfind] at hwrong
    cases n <;> simp at hwrong
  cases hparse : parseUsdmDepthObject root receivedAt connectionId requestedSymbol with
  | error e => exact ⟨e, rfl⟩
  | ok frame =>
    exfalso
    rcases parseUsdmDepthObject_ok hparse with ⟨hshutdown, -⟩ | ⟨-, update, -, hfaithful⟩
    · exact absurd (he.symm.trans hshutdown) (by decide)
    · rcases h with h | hpu | hT
      · exact hfaithful.not_broken h
      · exact htyped hfaithful.previousFinal hpu
      · exact htyped hfaithful.transactionTime hT

/-! ## Raw and combined frames -/

/-- A stream is named after a symbol, so it is none of those that are not. -/
theorem streamSymbol_front {symbol streamSymbol : Bytes} (h : spotStreamSymbol symbol = some streamSymbol) :
    ∃ front rest, streamSymbol = front :: rest ∧ front ≠ code '!' := by
  unfold spotStreamSymbol at h
  split at h
  · cases h
  · rename_i hne
    obtain ⟨character, rest, rfl⟩ := List.exists_cons_of_ne_nil (by simpa using hne)
    rw [List.mapM_cons] at h
    obtain ⟨front, hfront, h⟩ := Option.bind_eq_some_iff.mp h
    obtain ⟨encoded, -, h⟩ := Option.bind_eq_some_iff.mp h
    cases h
    refine ⟨front, encoded, rfl, ?_⟩
    rintro rfl
    unfold streamCharacter at hfront
    split at hfront
    · rename_i hupper
      simp only [Bool.and_eq_true, decide_eq_true_eq, UInt8.le_iff_toNat_le, Option.some.injEq, ← UInt8.toNat_inj, UInt8.toNat_add,
        UInt8.toNat_sub, code] at hupper hfront
      simp at hupper hfront
      omega
    · split at hfront
      · rename_i hdigit
        cases hfront
        exact absurd hdigit (by decide)
      · cases hfront

/-- A symbol's stream is not the stream of the notices. -/
theorem stream_ne_shutdown {symbol streamSymbol suffix : Bytes} (h : spotStreamSymbol symbol = some streamSymbol) :
    streamSymbol ++ suffix ≠ bytes "!serverShutdown" := by
  obtain ⟨front, rest, rfl, hfront⟩ := streamSymbol_front h
  intro heq
  exact hfront (List.cons.inj heq).1

/-- An envelope that names a stream of the configured symbol is opened. -/
theorem parseCombinedObject_envelope {streamSymbol stream : Bytes} {members : List (Bytes × Json)}
    (hroute : spotStreamSymbol requestedSymbol = some streamSymbol) (hconnection : connectionId ≠ [])
    (hstream : root.find "stream" = some (.string stream)) (hdata : root.find "data" = some (.object members)) :
    parseCombinedObject root receivedAt connectionId requestedSymbol =
      parseStream streamSymbol stream (.object members) receivedAt connectionId requestedSymbol := by
  have hkeys : hasRequiredKeys root ["stream", "data"] = true := by
    rw [hasRequiredKeys_iff]
    refine ⟨isObject_of_find hstream, ?_⟩
    simp [hstream, hdata]
  unfold parseCombinedObject
  rw [hroute, stringField_eq_some.mpr hstream, hdata]
  dsimp only
  rw [if_neg (by simp [hkeys]), if_neg (by simpa using hconnection)]

/-- On the depth stream of the configured symbol, the combined parser gives what the raw one gives. -/
theorem parseCombinedObject_depth {streamSymbol : Bytes} {members : List (Bytes × Json)}
    (hroute : spotStreamSymbol requestedSymbol = some streamSymbol) (hconnection : connectionId ≠ [])
    (hstream : root.find "stream" = some (.string (depthStream streamSymbol))) (hdata : root.find "data" = some (.object members)) :
    parseCombinedObject root receivedAt connectionId requestedSymbol =
      (parseDepthObject (.object members) receivedAt connectionId requestedSymbol).map DepthFrame.combined := by
  rw [parseCombinedObject_envelope hroute hconnection hstream hdata]
  unfold parseStream depthStream
  rw [if_neg (stream_ne_shutdown hroute), if_pos rfl]

/-- The payload of a combined depth frame. -/
def depthEnvelope (streamSymbol : Bytes) (members : List (Bytes × Json)) : Json :=
  .object [(bytes "data", .object members), (bytes "stream", .string (depthStream streamSymbol))]

variable (decode : Bytes → Except DecodeFailure Json) (receivedAt : ClockSample) (connectionId requestedSymbol : Bytes)

/-- A depth object gives the same in a combined frame as on its own; what is accepted says what the payload says, and a malformed level, a
foreign symbol or a wrong optional field makes an error of the whole depth update. -/
theorem depth_frames_are_faithful :
    (∀ streamSymbol members combined raw, spotStreamSymbol requestedSymbol = some streamSymbol → connectionId ≠ [] →
      decode combined = .ok (depthEnvelope streamSymbol members) → decode raw = .ok (.object members) →
      parseCombinedEventFrame decode combined receivedAt connectionId requestedSymbol =
        (parseDepthFrame decode raw receivedAt connectionId requestedSymbol).map DepthFrame.combined) ∧
    (∀ payload root, decode payload = .ok root →
      (∀ update, parseDepthFrame decode payload receivedAt connectionId requestedSymbol = .ok (.update update) →
        FaithfulSpot root requestedSymbol update) ∧
      (∀ update, parseUsdmDepthFrame decode payload receivedAt connectionId requestedSymbol = .ok (.update update) →
        FaithfulUsdm root requestedSymbol update) ∧
      (stringField root "e" = some (bytes "depthUpdate") →
        (Broken root requestedSymbol ∨ root.contains "pu" = true →
          ∃ e, parseDepthFrame decode payload receivedAt connectionId requestedSymbol = .error e) ∧
        (Broken root requestedSymbol ∨ wronglyTyped root "pu" = true ∨ wronglyTyped root "T" = true →
          ∃ e, parseUsdmDepthFrame decode payload receivedAt connectionId requestedSymbol = .error e))) := by
  constructor
  · intro streamSymbol members combined raw hroute hconnection hcombined hraw
    have hdata : (depthEnvelope streamSymbol members).find "data" = some (.object members) := by
      rfl
    have hstream : (depthEnvelope streamSymbol members).find "stream" = some (.string (depthStream streamSymbol)) := by
      rfl
    unfold parseCombinedEventFrame parseDepthFrame parseJson
    rw [hcombined, hraw]
    exact parseCombinedObject_depth hroute hconnection hstream hdata
  · intro payload root hdecode
    unfold parseDepthFrame parseUsdmDepthFrame parseJson
    rw [hdecode]
    refine ⟨?_, ?_, fun he => ⟨parseDepthObject_error he, parseUsdmDepthObject_error he⟩⟩
    · intro update hparse
      rcases parseDepthObject_ok hparse with ⟨-, notice, heq⟩ | ⟨-, update', heq, hfaithful⟩
      · cases heq
      · cases heq
        exact hfaithful
    · intro update hparse
      rcases parseUsdmDepthObject_ok hparse with ⟨-, notice, heq⟩ | ⟨-, update', heq, hfaithful⟩
      · cases heq
      · cases heq
        exact hfaithful

/-! ## A depth update -/

def sampleDepthMembers : List (Bytes × Json) :=
  [(bytes "e", .string (bytes "depthUpdate")), (bytes "E", .unsigned 3), (bytes "s", .string (bytes "BTCUSDT")),
    (bytes "U", .unsigned 1), (bytes "u", .unsigned 2), (bytes "b", .array [.array [.string (bytes "4.0"), .string (bytes "1")]]),
    (bytes "a", .array [])]

/-- A library that decodes one payload to the depth object and every other one to its envelope. -/
def sampleDecode (payload : Bytes) : Except DecodeFailure Json :=
  .ok (if payload = bytes "raw" then .object sampleDepthMembers else depthEnvelope (bytes "btcusdt") sampleDepthMembers)

/-- The sample frame is parsed to its own levels. -/
theorem depth_frames_are_faithful_sample :
    ∃ update, parseCombinedEventFrame sampleDecode (bytes "combined") ⟨1, 2⟩ (bytes "c") (bytes "BTCUSDT") =
        .ok (.event (.depthUpdate update)) ∧
      update.bids = [⟨bytes "4.0", bytes "1"⟩] ∧ FaithfulSpot (.object sampleDepthMembers) (bytes "BTCUSDT") update := by
  obtain ⟨hagree, hfaithful⟩ := depth_frames_are_faithful sampleDecode ⟨1, 2⟩ (bytes "c") (bytes "BTCUSDT")
  refine ⟨⟨depthMetadata (bytes "BTCUSDT") (bytes "c") ⟨1, 2⟩ 3, 1, 2, none, [⟨bytes "4.0", bytes "1"⟩], []⟩, ?_, rfl, ?_⟩
  · rw [hagree (bytes "btcusdt") sampleDepthMembers (bytes "combined") (bytes "raw") (by decide) (by decide) rfl rfl]
    rfl
  · exact (hfaithful (bytes "raw") (.object sampleDepthMembers) rfl).1 _ rfl

end MarketDataGateway.Protocol
