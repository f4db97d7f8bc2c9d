import MarketDataGateway.Protocol.ExchangeInfo
import MarketDataGateway.Routing.Keys
import MarketDataGateway.Transport.Network

/-!
# Metadata of the configured products

One body for each market that a key has is fetched; then each key, in the order of the keys, is given the numbers that the parser of its
market finds for its symbol.
-/

namespace MarketDataGateway.Routing

open Ascii BinanceTransport Protocol Status

inductive MetadataStage where
  | spotFetch | spotParse | usdmFetch | usdmParse
  deriving DecidableEq, Repr

structure MetadataError where
  stage : MetadataStage
  product : Option MarketKey
  message : String
  deriving DecidableEq, Repr

structure ResolvedProductSpec (maximum : Nat) where
  key : MarketKey
  numericSpec : NumericSpec maximum
  deriving DecidableEq

structure ProductionMetadata (maximum : Nat) where
  products : List (ResolvedProductSpec maximum)
  deriving DecidableEq

/-- What the two fetches give, of which either may fail. -/
structure MetadataSources where
  spotFetch : Except NetworkError Bytes
  usdmFetch : Except NetworkError Bytes

/-- What the protocol's parsers depend on: the largest scale and the JSON library. -/
structure Decoding where
  maximum : Nat
  decode : Bytes → Except DecodeFailure Json

def networkMessage (error : NetworkError) : String := error.stage ++ ": " ++ error.message

def protocolMessage (error : ProtocolError) : String := error.field ++ ": " ++ error.message

def hasMarket (marketKeys : List MarketKey) (market : Market) : Bool := marketKeys.any (·.market = market)

/-- The body of a market that some key has. -/
def fetchMarket (marketKeys : List MarketKey) (market : Market) (stage : MetadataStage) (fetch : Except NetworkError Bytes) :
    Except MetadataError (Option Bytes) :=
  if hasMarket marketKeys market then
    match fetch with
    | .error error => .error ⟨stage, none, networkMessage error⟩
    | .ok body => .ok (some body)
  else .ok none

def resolveParsed {maximum : Nat} (stage : MetadataStage) (key : MarketKey)
    (parsed : Except ProtocolError (ProductMetadata maximum)) : Except MetadataError (ResolvedProductSpec maximum) :=
  match parsed with
  | .error failure => .error ⟨stage, some key, protocolMessage failure⟩
  | .ok metadata => .ok ⟨key, metadata.numericSpec⟩

/-- One pass of the loop over the keys. The body of a key's market has been fetched. -/
def resolveProduct (d : Decoding) (spotBody usdmBody : Option Bytes) (key : MarketKey) :
    Except MetadataError (ResolvedProductSpec d.maximum) :=
  if key.venue ≠ .binance then .error ⟨.spotParse, some key, "unsupported configured venue"⟩
  else
    match key.market with
    | .spot =>
      if (spotStreamSymbol key.symbol).isNone then
        .error ⟨.spotParse, some key, "Spot symbol cannot be represented by a Binance route"⟩
      else resolveParsed .spotParse key (parseExchangeInfo d.maximum d.decode (spotBody.getD []) key.symbol)
    | .usdMPerpetual =>
      if (usdmStreamSymbol key.symbol).isNone then
        .error ⟨.usdmParse, some key, "USD-M symbol cannot be represented by a Binance route"⟩
      else resolveParsed .usdmParse key (parseUsdmExchangeInfo d.maximum d.decode (usdmBody.getD []) key.symbol)
    | .unspecified => .error ⟨.spotParse, some key, "unsupported configured market"⟩

def acquireProductionMetadata (d : Decoding) (marketKeys : List MarketKey) (sources : MetadataSources) :
    Except MetadataError (ProductionMetadata d.maximum) := do
  let spotBody ← fetchMarket marketKeys .spot .spotFetch sources.spotFetch
  let usdmBody ← fetchMarket marketKeys .usdMPerpetual .usdmFetch sources.usdmFetch
  let products ← (sortByKey id marketKeys).mapM (resolveProduct d spotBody usdmBody)
  pure ⟨products⟩

/-! ## What was resolved -/

variable {d : Decoding} {marketKeys marketKeys' : List MarketKey} {sources : MetadataSources}

/-- The numbers are what the parser of the key's own market found for its symbol in the body of that market. -/
inductive Resolved (d : Decoding) (sources : MetadataSources) (key : MarketKey) (numericSpec : NumericSpec d.maximum) : Prop where
  | spot (market : key.market = .spot) (body : Bytes) (metadata : ProductMetadata d.maximum) (fetched : sources.spotFetch = .ok body)
      (parsed : parseExchangeInfo d.maximum d.decode body key.symbol = .ok metadata) (spec : metadata.numericSpec = numericSpec)
  | usdm (market : key.market = .usdMPerpetual) (body : Bytes) (metadata : ProductMetadata d.maximum)
      (fetched : sources.usdmFetch = .ok body) (parsed : parseUsdmExchangeInfo d.maximum d.decode body key.symbol = .ok metadata)
      (spec : metadata.numericSpec = numericSpec)

/-- The market of a configured key has been fetched. -/
theorem fetchMarket_ok {market : Market} {stage : MetadataStage} {fetch : Except NetworkError Bytes} {body : Option Bytes}
    (h : fetchMarket marketKeys market stage fetch = .ok body) {key : MarketKey} (hkey : key ∈ marketKeys) (hmarket : key.market = market) :
    ∃ fetched, fetch = .ok fetched ∧ body = some fetched := by
  have hhas : hasMarket marketKeys market = true := List.any_eq_true.mpr ⟨key, hkey, by simpa using hmarket⟩
  unfold fetchMarket at h
  rw [if_pos hhas] at h
  split at h
  · cases h
  · rename_i fetched
    cases h
    exact ⟨fetched, rfl, rfl⟩

/-- The order of the keys does not decide what is fetched. -/
theorem fetchMarket_perm {market : Market} {stage : MetadataStage} {fetch : Except NetworkError Bytes} (h : marketKeys.Perm marketKeys') :
    fetchMarket marketKeys market stage fetch = fetchMarket marketKeys' market stage fetch := by
  have hhas : hasMarket marketKeys market = hasMarket marketKeys' market := h.any_eq
  unfold fetchMarket
  rw [hhas]

/-- The numbers that are resolved are those parsed for the key. -/
theorem resolveParsed_ok {maximum : Nat} {stage : MetadataStage} {key : MarketKey}
    {parsed : Except ProtocolError (ProductMetadata maximum)} {product : ResolvedProductSpec maximum}
    (h : resolveParsed stage key parsed = .ok product) : product.key = key ∧ ∃ metadata, parsed = .ok metadata ∧
      metadata.numericSpec = product.numericSpec := by
  unfold resolveParsed at h
  split at h
  · cases h
  · rename_i metadata
    cases h
    exact ⟨rfl, metadata, rfl, rfl⟩

/-- A loop over a list that goes well gives one value for each element, in its place. -/
theorem mapM_ok {ε α β : Type} {f : α → Except ε β} {xs : List α} {ys : List β} (h : xs.mapM f = .ok ys) :
    List.Forall₂ (fun x y => x ∈ xs ∧ f x = .ok y) xs ys := by
  induction xs generalizing ys with
  | nil =>
    cases h
    exact .nil
  | cons x xs ih =>
    rw [List.mapM_cons] at h
    obtain ⟨y, hy, h⟩ := exists_of_bind_ok h
    obtain ⟨rest, hrest, h⟩ := exists_of_bind_ok h
    cases h
    exact .cons ⟨List.mem_cons_self, hy⟩ ((ih hrest).imp fun _ _ h => ⟨List.mem_cons_of_mem _ h.1, h.2⟩)

/-- What holds of the second of any two elements in one place holds of every element of the second list. -/
theorem forall_mem_of_forall₂ {α β : Type} {P : β → Prop} {xs : List α} {ys : List β} (h : List.Forall₂ (fun _ y => P y) xs ys) :
    ∀ y ∈ ys, P y := by
  induction h with
  | nil =>
    intro y hy
    cases hy
  | cons hy _ ih =>
    intro y' hy'
    rcases List.mem_cons.mp hy' with rfl | hy'
    · exact hy
    · exact ih y' hy'

/-- A loop whose body goes well for every element gives the value of each. -/
theorem mapM_of_ok {ε α β : Type} {f : α → Except ε β} {g : α → β} {xs : List α} (h : ∀ x ∈ xs, f x = .ok (g x)) :
    xs.mapM f = .ok (xs.map g) := by
  induction xs with
  | nil => rfl
  | cons x xs ih =>
    rw [List.mapM_cons, h x List.mem_cons_self, ih fun y hy => h y (List.mem_cons_of_mem _ hy)]
    rfl

/-- The keys come in any order. -/
theorem acquireProductionMetadata_perm (h : marketKeys.Perm marketKeys') :
    acquireProductionMetadata d marketKeys sources = acquireProductionMetadata d marketKeys' sources := by
  unfold acquireProductionMetadata
  rw [fetchMarket_perm h, fetchMarket_perm h, sortByKey_keys_congr h]

/-- The products are those of the keys, in order. -/
theorem resolved_products {keys : List MarketKey} {products : List (ResolvedProductSpec d.maximum)}
    (h : List.Forall₂ (fun key product => product.key = key ∧ Resolved d sources product.key product.numericSpec) keys products) :
    products.map (·.key) = keys ∧ ∀ product ∈ products, Resolved d sources product.key product.numericSpec := by
  induction h with
  | nil => simp
  | cons hproduct _ ih => exact ⟨by rw [List.map_cons, ih.1, hproduct.1], List.forall_mem_cons.mpr ⟨hproduct.2, ih.2⟩⟩

/-- One product for each key, in the order of the keys, with the numbers of its own market and symbol. -/
theorem acquireProductionMetadata_ok {metadata : ProductionMetadata d.maximum}
    (h : acquireProductionMetadata d marketKeys sources = .ok metadata) :
    metadata.products.map (·.key) = sortByKey id marketKeys ∧
      ∀ product ∈ metadata.products, Resolved d sources product.key product.numericSpec := by
  obtain ⟨spotBody, hspot, h⟩ := exists_of_bind_ok h
  obtain ⟨usdmBody, husdm, h⟩ := exists_of_bind_ok h
  obtain ⟨products, hproducts, h⟩ := exists_of_bind_ok h
  cases h
  have hresolved : ∀ key ∈ marketKeys, ∀ product, resolveProduct d spotBody usdmBody key = .ok product →
      product.key = key ∧ Resolved d sources product.key product.numericSpec := by
    intro key hkey product hproduct
    unfold resolveProduct at hproduct
    split at hproduct
    · cases hproduct
    · split at hproduct
      · rename_i hmarket
        split at hproduct
        · cases hproduct
        · obtain ⟨rfl, metadata, hparsed, hspec⟩ := resolveParsed_ok hproduct
          obtain ⟨body, hfetched, rfl⟩ := fetchMarket_ok hspot hkey hmarket
          exact ⟨rfl, .spot hmarket body metadata hfetched hparsed hspec⟩
      · rename_i hmarket
        split at hproduct
        · cases hproduct
        · obtain ⟨rfl, metadata, hparsed, hspec⟩ := resolveParsed_ok hproduct
          obtain ⟨body, hfetched, rfl⟩ := fetchMarket_ok husdm hkey hmarket
          exact ⟨rfl, .usdm hmarket body metadata hfetched hparsed hspec⟩
      · cases hproduct
  refine resolved_products ((mapM_ok hproducts).imp fun key product hproduct => ?_)
  exact hresolved key ((sortByKey_perm id marketKeys).mem_iff.mp hproduct.1) product hproduct.2

end MarketDataGateway.Routing
