import MarketDataGateway.Protocol.Spot

/-!
# USD-M frames

The depth parser of the perpetual market. It has the fields of the Spot decoder and four that may be left out: the number of the update
before, the time of the transaction, the pair and the type of the symbol.
-/

namespace MarketDataGateway.Protocol

open Ascii MarketRuntime Status

def unroutableUsdmSymbol : ProtocolError :=
  ⟨.invalidMarketMetadata, "symbol", "requested USD-M symbol cannot be represented by a Binance route"⟩

def usdmDepthMetadata (symbol connectionId : Bytes) (receivedAt : ClockSample) (exchangeEventTimeMs : UInt64)
    (transactionTimeMs : Option UInt64) : EventMetadata :=
  { market := .usdMPerpetual, symbol, producer := "gateway-g11-usdm", connectionId, stream := .diffDepth,
    schemaVersion := "depth-update.v1", exchangeEventTimeMs := some exchangeEventTimeMs,
    exchangeTransactionTimeMs := transactionTimeMs, receiveTimeUtcNs := receivedAt.utcNs,
    receiveMonotonicNs := receivedAt.monotonicNs }

/-- A field that need not be there is there with another type. -/
def wronglyTyped (root : Json) (name : String) : Bool := root.contains name && (unsignedField root name).isNone

def parseUsdmDepthObject (root : Json) (receivedAt : ClockSample) (connectionId requestedSymbol : Bytes) :
    Except ProtocolError DepthFrame :=
  if (usdmStreamSymbol requestedSymbol).isNone then .error unroutableUsdmSymbol
  else
    match stringField root "e" with
    | none => .error ⟨.invalidField, "e", "event type must be a string"⟩
    | some event =>
      if event = bytes "serverShutdown" then parseServerShutdown root
      else if event ≠ bytes "depthUpdate" then .error ⟨.wrongEvent, "e", "USD-M raw stream payload is not a depthUpdate"⟩
      else if h : hasRequiredKeys root depthUpdateKeys = true then
        if stringField root "s" ≠ some requestedSymbol then
          .error ⟨.wrongSymbol, "s", "USD-M depthUpdate symbol does not match the configured symbol"⟩
        else if root.contains "ps" && (stringField root "ps").isNone then
          .error ⟨.invalidField, "ps", "USD-M depthUpdate pair must be a string when present"⟩
        else if root.contains "st" && unsignedField root "st" ≠ some 1 then
          .error ⟨.invalidMarketMetadata, "st", "USD-M depthUpdate symbol type must be 1"⟩
        else
          match unsignedField root "E", unsignedField root "U", unsignedField root "u" with
          | some eventTime, some first, some final =>
            if wronglyTyped root "T" then
              .error ⟨.invalidField, "T", "USD-M transaction time must be uint64 when present"⟩
            else if wronglyTyped root "pu" then
              .error ⟨.invalidField, "pu", "USD-M previous final update ID must be uint64 when present"⟩
            else if connectionId.isEmpty then .error emptyConnectionId
            else
              appendSides root h ⟨usdmDepthMetadata requestedSymbol connectionId receivedAt eventTime (unsignedField root "T"), first,
                final, unsignedField root "pu", [], []⟩
          | _, _, _ => .error ⟨.invalidField, "sequence", "E, U, and u must be uint64 values"⟩
      else .error ⟨.invalidShape, "payload", "USD-M depthUpdate has an unexpected shape"⟩

def parseUsdmDepthFrame (decode : Bytes → Except DecodeFailure Json) (payload : Bytes) (receivedAt : ClockSample)
    (connectionId requestedSymbol : Bytes) : Except ProtocolError DepthFrame := do
  let root ← parseJson decode payload
  parseUsdmDepthObject root receivedAt connectionId requestedSymbol

end MarketDataGateway.Protocol
