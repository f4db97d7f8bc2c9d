import MarketDataGateway.Protocol.Events

/-!
# Spot frames

The parser of raw depth frames and the one of combined frames, which hands depth events on to the same decoder. The checks come in the
order of the source, and every error says which field it is about.
-/

namespace MarketDataGateway.Protocol

open Ascii MarketRuntime Status

def depthUpdateKeys : List String := ["e", "E", "s", "U", "u", "b", "a"]

def aggTradeKeys : List String := ["e", "E", "s", "a", "p", "q", "f", "l", "T", "m", "M"]

def bookTickerKeys : List String := ["u", "s", "b", "B", "a", "A"]

def unroutableSpotSymbol : ProtocolError :=
  ⟨.invalidMarketMetadata, "symbol", "requested Spot symbol cannot be represented by a Binance route"⟩

def emptyConnectionId : ProtocolError := ⟨.invalidField, "connection_id", "connection_id must be non-empty"⟩

/-- What the three `populate_event_metadata` have in common. -/
def spotEventMetadata (symbol connectionId : Bytes) (receivedAt : ClockSample) (stream : Stream) (schemaVersion : String) :
    EventMetadata :=
  { market := .spot, symbol, producer := "gateway-g4-spot", connectionId, stream, schemaVersion,
    receiveTimeUtcNs := receivedAt.utcNs, receiveMonotonicNs := receivedAt.monotonicNs }

def depthMetadata (symbol connectionId : Bytes) (receivedAt : ClockSample) (exchangeEventTimeMs : UInt64) : EventMetadata :=
  { spotEventMetadata symbol connectionId receivedAt .diffDepth "depth-update.v1" with
    exchangeEventTimeMs := some exchangeEventTimeMs }

def aggTradeMetadata (symbol connectionId : Bytes) (receivedAt : ClockSample) (exchangeEventTimeMs exchangeTradeTimeMs : UInt64) :
    EventMetadata :=
  { spotEventMetadata symbol connectionId receivedAt .aggTrade "agg-trade.v1" with
    exchangeEventTimeMs := some exchangeEventTimeMs, exchangeTradeTimeMs := some exchangeTradeTimeMs }

def bookTickerMetadata (symbol connectionId : Bytes) (receivedAt : ClockSample) : EventMetadata :=
  spotEventMetadata symbol connectionId receivedAt .bookTicker "book-ticker.v1"

/-- The branch of a depth parser that both markets share. -/
def parseServerShutdown (root : Json) : Except ProtocolError DepthFrame :=
  if !hasRequiredKeys root ["e", "E"] then .error ⟨.invalidShape, "payload", "serverShutdown has an unexpected shape"⟩
  else
    match unsignedField root "E" with
    | none => .error ⟨.invalidField, "E", "serverShutdown event time must be uint64"⟩
    | some eventTime => .ok (.shutdown ⟨eventTime⟩)

/-- The two sides of a depth update, which is dropped when one of them is malformed. -/
def appendSides (root : Json) (h : hasRequiredKeys root depthUpdateKeys = true) (update : DepthUpdate) :
    Except ProtocolError DepthFrame := do
  let bids ← appendLevels (root.member "b" (contains_of_required h (by decide))) update.bids "b"
  let asks ← appendLevels (root.member "a" (contains_of_required h (by decide))) update.asks "a"
  pure (.update { update with bids, asks })

def parseDepthObject (root : Json) (receivedAt : ClockSample) (connectionId requestedSymbol : Bytes) :
    Except ProtocolError DepthFrame :=
  if (spotStreamSymbol requestedSymbol).isNone then .error unroutableSpotSymbol
  else
    match stringField root "e" with
    | none => .error ⟨.invalidField, "e", "event type must be a string"⟩
    | some event =>
      if event = bytes "serverShutdown" then parseServerShutdown root
      else if event ≠ bytes "depthUpdate" then .error ⟨.wrongEvent, "e", "raw stream payload is not a depthUpdate"⟩
      -- `pu` numbers the updates of the USD-M market.
      else if h : hasRequiredKeys root depthUpdateKeys = true ∧ root.contains "pu" = false then
        if stringField root "s" ≠ some requestedSymbol then
          .error ⟨.wrongSymbol, "s", "depthUpdate symbol does not match the configured symbol"⟩
        else
          match unsignedField root "E", unsignedField root "U", unsignedField root "u" with
          | some eventTime, some first, some final =>
            if connectionId.isEmpty then .error emptyConnectionId
            else appendSides root h.1 ⟨depthMetadata requestedSymbol connectionId receivedAt eventTime, first, final, none, [], []⟩
          | _, _, _ => .error ⟨.invalidField, "sequence", "E, U, and u must be uint64 values"⟩
      else .error ⟨.invalidShape, "payload", "depthUpdate has an unexpected shape"⟩

def parseDepthFrame (decode : Bytes → Except DecodeFailure Json) (payload : Bytes) (receivedAt : ClockSample)
    (connectionId requestedSymbol : Bytes) : Except ProtocolError DepthFrame := do
  let root ← parseJson decode payload
  parseDepthObject root receivedAt connectionId requestedSymbol

/-! ## Combined frames -/

def DepthFrame.combined : DepthFrame → CombinedFrame
  | .update depth => .event (.depthUpdate depth)
  | .shutdown notice => .shutdown notice

/-- A shutdown is announced on a stream of its own; the check before this leaves nothing else that it could be. -/
def parseShutdownStream (data : Json) (receivedAt : ClockSample) (connectionId requestedSymbol : Bytes) :
    Except ProtocolError CombinedFrame :=
  if stringField data "e" ≠ some (bytes "serverShutdown") then
    .error ⟨.wrongEvent, "e", "server shutdown stream requires a serverShutdown event"⟩
  else (parseDepthObject data receivedAt connectionId requestedSymbol).map DepthFrame.combined

def parseAggTrade (data : Json) (receivedAt : ClockSample) (connectionId requestedSymbol : Bytes) : Except ProtocolError AggTrade :=
  if !hasRequiredKeys data aggTradeKeys then .error ⟨.invalidShape, "data", "aggTrade has an unexpected shape"⟩
  else if stringField data "e" ≠ some (bytes "aggTrade") then
    .error ⟨.wrongEvent, "e", "combined stream payload is not aggTrade"⟩
  else if stringField data "s" ≠ some requestedSymbol then
    .error ⟨.wrongSymbol, "s", "aggTrade symbol does not match the configured symbol"⟩
  else
    match unsignedField data "a", stringField data "p", stringField data "q", unsignedField data "f", unsignedField data "l",
      unsignedField data "E", unsignedField data "T", booleanField data "m", booleanField data "M" with
    | some aggregateId, some price, some quantity, some firstTradeId, some lastTradeId, some eventTime, some tradeTime,
      some buyerIsMaker, some _ =>
      if !plainDecimal price false || !plainDecimal quantity false then
        .error ⟨.invalidField, "aggTrade", "aggTrade fields have invalid types or decimal values"⟩
      else
        .ok ⟨aggTradeMetadata requestedSymbol connectionId receivedAt eventTime tradeTime, aggregateId, price, quantity, firstTradeId,
          lastTradeId, tradeTime, buyerIsMaker⟩
    | _, _, _, _, _, _, _, _, _ => .error ⟨.invalidField, "aggTrade", "aggTrade fields have invalid types or decimal values"⟩

def parseBookTicker (data : Json) (receivedAt : ClockSample) (connectionId requestedSymbol : Bytes) :
    Except ProtocolError BookTicker :=
  if !hasRequiredKeys data bookTickerKeys then .error ⟨.invalidShape, "data", "bookTicker has an unexpected shape"⟩
  else if stringField data "s" ≠ some requestedSymbol then
    .error ⟨.wrongSymbol, "s", "bookTicker symbol does not match the configured symbol"⟩
  else
    match unsignedField data "u", stringField data "b", stringField data "B", stringField data "a", stringField data "A" with
    | some updateId, some bidPrice, some bidQuantity, some askPrice, some askQuantity =>
      if !plainDecimal bidPrice false || !plainDecimal bidQuantity true || !plainDecimal askPrice false ||
          !plainDecimal askQuantity true then
        .error ⟨.invalidField, "bookTicker", "bookTicker fields have invalid types or decimal values"⟩
      else .ok ⟨bookTickerMetadata requestedSymbol connectionId receivedAt, updateId, bidPrice, bidQuantity, askPrice, askQuantity⟩
    | _, _, _, _, _ => .error ⟨.invalidField, "bookTicker", "bookTicker fields have invalid types or decimal values"⟩

def depthStream (streamSymbol : Bytes) : Bytes := streamSymbol ++ bytes "@depth@100ms"

def aggTradeStream (streamSymbol : Bytes) : Bytes := streamSymbol ++ bytes "@aggTrade"

def bookTickerStream (streamSymbol : Bytes) : Bytes := streamSymbol ++ bytes "@bookTicker"

/-- What a combined frame does once its envelope has been opened. -/
def parseStream (streamSymbol stream : Bytes) (data : Json) (receivedAt : ClockSample) (connectionId requestedSymbol : Bytes) :
    Except ProtocolError CombinedFrame :=
  if stream = bytes "!serverShutdown" then parseShutdownStream data receivedAt connectionId requestedSymbol
  else if stream = depthStream streamSymbol then
    (parseDepthObject data receivedAt connectionId requestedSymbol).map DepthFrame.combined
  else if stream = aggTradeStream streamSymbol then
    (parseAggTrade data receivedAt connectionId requestedSymbol).map fun trade => .event (.aggTrade trade)
  else if stream = bookTickerStream streamSymbol then
    (parseBookTicker data receivedAt connectionId requestedSymbol).map fun ticker => .event (.bookTicker ticker)
  else .error ⟨.wrongEvent, "stream", "combined stream is not configured for G9"⟩

def parseCombinedObject (root : Json) (receivedAt : ClockSample) (connectionId requestedSymbol : Bytes) :
    Except ProtocolError CombinedFrame :=
  match spotStreamSymbol requestedSymbol with
  | none => .error unroutableSpotSymbol
  | some streamSymbol =>
    if !hasRequiredKeys root ["stream", "data"] then
      .error ⟨.invalidShape, "payload", "combined stream envelope has an unexpected shape"⟩
    else
      match stringField root "stream", root.find "data" with
      | some stream, some (.object members) =>
        if connectionId.isEmpty then .error emptyConnectionId
        else parseStream streamSymbol stream (.object members) receivedAt connectionId requestedSymbol
      | _, _ => .error ⟨.invalidField, "stream", "combined stream and data must be valid"⟩

def parseCombinedEventFrame (decode : Bytes → Except DecodeFailure Json) (payload : Bytes) (receivedAt : ClockSample)
    (connectionId requestedSymbol : Bytes) : Except ProtocolError CombinedFrame := do
  let root ← parseJson decode payload
  parseCombinedObject root receivedAt connectionId requestedSymbol

end MarketDataGateway.Protocol
