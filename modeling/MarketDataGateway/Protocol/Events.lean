import MarketDataGateway.Protocol.Json
import MarketDataGateway.Runtime.Library
import MarketDataGateway.Status.Key

/-!
# Normalised events

The wire records that the protocol makes of a payload, and the price levels of the two sides of a depth frame.
-/

namespace MarketDataGateway.Protocol

open Ascii MarketRuntime Status

inductive Stream where
  | diffDepth | aggTrade | bookTicker
  deriving DecidableEq, Repr

structure EventMetadata where
  venue : Venue := .binance
  market : Market
  symbol : Bytes
  producer : String
  producerVersion : String := "1.0.0"
  connectionId : Bytes
  stream : Stream
  schemaVersion : String
  exchangeEventTimeMs : Option UInt64 := none
  exchangeTradeTimeMs : Option UInt64 := none
  exchangeTransactionTimeMs : Option UInt64 := none
  receiveTimeUtcNs : Nat
  receiveMonotonicNs : Nat
  deriving DecidableEq, Repr

structure PriceLevel where
  price : Bytes
  quantity : Bytes
  deriving DecidableEq, Repr

structure DepthUpdate where
  metadata : EventMetadata
  firstUpdateId : UInt64
  finalUpdateId : UInt64
  previousFinalUpdateId : Option UInt64 := none
  bids : List PriceLevel := []
  asks : List PriceLevel := []
  deriving DecidableEq, Repr

structure AggTrade where
  metadata : EventMetadata
  aggregateTradeId : UInt64
  price : Bytes
  quantity : Bytes
  firstTradeId : UInt64
  lastTradeId : UInt64
  tradeTimeMs : UInt64
  buyerIsMaker : Bool
  deriving DecidableEq, Repr

structure BookTicker where
  metadata : EventMetadata
  updateId : UInt64
  bestBidPrice : Bytes
  bestBidQuantity : Bytes
  bestAskPrice : Bytes
  bestAskQuantity : Bytes
  deriving DecidableEq, Repr

structure ServerShutdown where
  exchangeEventTimeMs : UInt64
  deriving DecidableEq, Repr

inductive NormalizedMarketEvent where
  | depthUpdate (update : DepthUpdate)
  | aggTrade (trade : AggTrade)
  | bookTicker (ticker : BookTicker)
  deriving DecidableEq, Repr

inductive DepthFrame where
  | update (update : DepthUpdate)
  | shutdown (shutdown : ServerShutdown)
  deriving DecidableEq, Repr

inductive CombinedFrame where
  | event (event : NormalizedMarketEvent)
  | shutdown (shutdown : ServerShutdown)
  deriving DecidableEq, Repr

/-! ## Routable symbols -/

def streamCharacter (character : UInt8) : Option UInt8 :=
  if code 'A' ≤ character && character ≤ code 'Z' then some (character - code 'A' + code 'a')
  else if isDigit character then some character
  else none

/-- The symbol in lower case, if a stream can be named after it. -/
def spotStreamSymbol (canonicalSymbol : Bytes) : Option Bytes :=
  if canonicalSymbol.isEmpty then none else canonicalSymbol.mapM streamCharacter

def usdmStreamSymbol (canonicalSymbol : Bytes) : Option Bytes := spotStreamSymbol canonicalSymbol

/-! ## Price levels -/

def appendLevel (fieldName : String) (output : List PriceLevel) (level : Json) : Except ProtocolError (List PriceLevel) :=
  match level with
  | .array [.string price, .string quantity] => .ok (output ++ [⟨price, quantity⟩])
  | _ => .error ⟨.invalidField, fieldName, "each depth level must be exactly two strings"⟩

def appendLevels (levels : Json) (output : List PriceLevel) (fieldName : String) : Except ProtocolError (List PriceLevel) :=
  match levels with
  | .array items => items.foldlM (appendLevel fieldName) output
  | _ => .error ⟨.invalidField, fieldName, "depth side must be an array"⟩

/-- A level as it stands in a payload. -/
def PriceLevel.toJson (level : PriceLevel) : Json := .array [.string level.price, .string level.quantity]

/-- What is not a level. -/
def Malformed (level : Json) : Prop := ∀ wellFormed : PriceLevel, level ≠ wellFormed.toJson

/-- A level that is appended is a well-formed one. -/
theorem appendLevel_ok {fieldName : String} {output output' : List PriceLevel} {level : Json}
    (h : appendLevel fieldName output level = .ok output') : ∃ wellFormed : PriceLevel,
      level = wellFormed.toJson ∧ output' = output ++ [wellFormed] := by
  unfold appendLevel at h
  split at h
  · rename_i price quantity
    cases h
    exact ⟨⟨price, quantity⟩, rfl, rfl⟩
  · cases h

/-- The levels that were appended are those of the array, in its order and with its texts. -/
theorem foldlM_appendLevel_ok {fieldName : String} {items : List Json} {output output' : List PriceLevel}
    (h : items.foldlM (appendLevel fieldName) output = .ok output') :
    ∃ levels : List PriceLevel, items = levels.map PriceLevel.toJson ∧ output' = output ++ levels := by
  induction items generalizing output with
  | nil =>
    cases h
    exact ⟨[], rfl, by simp⟩
  | cons item items ih =>
    rw [List.foldlM_cons] at h
    cases hitem : appendLevel fieldName output item with
    | error e =>
      rw [hitem] at h
      cases h
    | ok next =>
      rw [hitem] at h
      obtain ⟨level, rfl, rfl⟩ := appendLevel_ok hitem
      obtain ⟨levels, rfl, rfl⟩ := ih h
      exact ⟨level :: levels, rfl, by simp⟩

/-- The levels that are appended are a side of well-formed ones. -/
theorem appendLevels_ok {levels : Json} {output output' : List PriceLevel} {fieldName : String}
    (h : appendLevels levels output fieldName = .ok output') :
    ∃ side : List PriceLevel, levels = .array (side.map PriceLevel.toJson) ∧ output' = output ++ side := by
  unfold appendLevels at h
  split at h
  · rename_i items
    obtain ⟨side, rfl, houtput⟩ := foldlM_appendLevel_ok h
    exact ⟨side, rfl, houtput⟩
  · cases h

end MarketDataGateway.Protocol
