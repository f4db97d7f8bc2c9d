import MarketDataGateway.Lib.Ascii

/-!
# Market keys

A product is named by its venue, its market and the exact bytes of its symbol.
-/

namespace MarketDataGateway.Status

open Ascii

inductive Venue where
  | unspecified | binance
  deriving DecidableEq, Repr

inductive Market where
  | unspecified | spot | usdMPerpetual
  deriving DecidableEq, Repr

structure MarketKey where
  venue : Venue
  market : Market
  symbol : Bytes
  deriving DecidableEq, Repr

def spotBtcusdtKey : MarketKey := ⟨.binance, .spot, bytes "BTCUSDT"⟩

end MarketDataGateway.Status
