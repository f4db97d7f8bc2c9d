import MarketDataGateway.Routing.Metadata
import Mathlib.Data.List.Chain

/-!
# Configured products

The set of products that a gateway owns and the registry that its services are looked up in. The products are sorted before they are
made, and the registry sorts once more and refuses products that share a key or a service, so a lookup by key ends at the services of the
product that was made for it.
-/

namespace MarketDataGateway.Routing

open Ascii BinanceTransport Protocol Status

def kMaximumConfiguredProducts : Nat := 8

structure ProductRuntimeSpec (maximum : Nat) where
  key : MarketKey
  numericSpec : NumericSpec maximum
  deriving DecidableEq

inductive ServicePart where
  | runtime | recovery | eventPublication
  deriving DecidableEq, Repr

/-- A part of a product that lives at an address. -/
structure ServiceRef where
  owner : Nat
  part : ServicePart
  deriving DecidableEq, Repr

/-- Any of the three may be null. -/
structure MarketServices where
  key : MarketKey
  runtime : Option ServiceRef
  recovery : Option ServiceRef
  eventPublication : Option ServiceRef
  deriving DecidableEq, Repr

structure ProductRuntime (maximum : Nat) where
  address : Nat
  key : MarketKey
  numericSpec : NumericSpec maximum
  deriving DecidableEq

namespace ProductRuntime

variable {maximum : Nat}

def runtime (product : ProductRuntime maximum) : ServiceRef := ⟨product.address, .runtime⟩

def recovery (product : ProductRuntime maximum) : ServiceRef := ⟨product.address, .recovery⟩

def eventPublication (product : ProductRuntime maximum) : ServiceRef := ⟨product.address, .eventPublication⟩

def services (product : ProductRuntime maximum) : MarketServices :=
  ⟨product.key, some product.runtime, some product.recovery, some product.eventPublication⟩

end ProductRuntime

/-! ## The registry -/

def MarketServices.present (entry : MarketServices) : Bool :=
  entry.runtime.isSome && entry.recovery.isSome && entry.eventPublication.isSome

def MarketServices.shares (entry other : MarketServices) : Bool :=
  other.runtime = entry.runtime || other.recovery = entry.recovery || other.eventPublication = entry.eventPublication

/-- One pass of the constructor's loop: an entry against those before it. -/
def checkEntry (earlier : List MarketServices) (entry : MarketServices) : Except String Unit :=
  if earlier.getLast?.any fun previous => previous.key = entry.key then .error "configured registry keys must be unique"
  else if !entry.present then .error "configured registry services must be non-null"
  else if earlier.any entry.shares then .error "configured registry services must not alias between products"
  else .ok ()

def checkEntries : List MarketServices → List MarketServices → Except String Unit
  | _, [] => .ok ()
  | earlier, entry :: rest => do
    checkEntry earlier entry
    checkEntries (earlier ++ [entry]) rest

/-- What the constructor has found of the entries it has come by. -/
structure Checked (entries : List MarketServices) : Prop where
  adjacent : entries.IsChain fun a b => a.key ≠ b.key
  present : ∀ entry ∈ entries, entry.present = true
  apart : entries.Pairwise fun a b => b.shares a = false

/-- There is nothing to find without entries. -/
theorem checked_nil : Checked [] := ⟨.nil, by simp, .nil⟩

/-- One pass adds an entry to those that were found in order. -/
theorem checkEntry_ok {earlier : List MarketServices} {entry : MarketServices} (h : Checked earlier) :
    checkEntry earlier entry = .ok () ↔ Checked (earlier ++ [entry]) := by
  unfold checkEntry
  constructor
  · intro hcheck
    split at hcheck
    · cases hcheck
    · rename_i hkey
      split at hcheck
      · cases hcheck
      · rename_i hpresent
        split at hcheck
        · cases hcheck
        · rename_i hshares
          simp only [Option.any_eq_true, decide_eq_true_eq, not_exists, not_and] at hkey
          simp only [List.any_eq_true, not_exists, not_and, Bool.not_eq_true] at hshares
          refine ⟨List.isChain_append.mpr ⟨h.adjacent, .singleton _, ?_⟩, ?_, ?_⟩
          · intro previous hprevious y hy
            obtain rfl : entry = y := by simpa using hy
            exact hkey previous hprevious
          · intro other hother
            rcases List.mem_append.mp hother with hother | hother
            · exact h.present other hother
            · rw [List.mem_singleton.mp hother]
              simpa using hpresent
          · rw [List.pairwise_append]
            refine ⟨h.apart, List.pairwise_singleton .., fun a ha b hb => ?_⟩
            rw [List.mem_singleton.mp hb]
            exact hshares a ha
  · intro hchecked
    obtain ⟨-, -, hkey⟩ := List.isChain_append.mp hchecked.adjacent
    obtain ⟨-, -, hshares⟩ := List.pairwise_append.mp hchecked.apart
    rw [if_neg, if_neg, if_neg]
    · simp only [List.any_eq_true, not_exists, not_and, Bool.not_eq_true]
      exact fun a ha => hshares a ha entry (by simp)
    · simpa using hchecked.present entry (by simp)
    · simp only [Option.any_eq_true, decide_eq_true_eq, not_exists, not_and]
      exact fun previous hprevious => hkey previous hprevious entry (by simp)

/-- The loop goes through when it ends with all entries in order. -/
theorem checkEntries_ok {earlier rest : List MarketServices} (h : Checked earlier) :
    checkEntries earlier rest = .ok () ↔ Checked (earlier ++ rest) := by
  induction rest generalizing earlier with
  | nil => simpa [checkEntries] using h
  | cons entry rest ih =>
    rw [List.append_cons]
    cases hentry : checkEntry earlier entry with
    | error e =>
      simp only [checkEntries, hentry, bind, Except.bind, reduceCtorEq, false_iff]
      intro hchecked
      have hcheck := (checkEntry_ok h).mpr
        ⟨hchecked.adjacent.left_of_append, fun a ha => hchecked.present a (List.mem_append_left _ ha),
          (List.pairwise_append.mp hchecked.apart).1⟩
      rw [hentry] at hcheck
      cases hcheck
    | ok done =>
      simp only [checkEntries, hentry, bind, Except.bind]
      exact ih ((checkEntry_ok h).mp hentry)

/-- A finite view of the products' services that is sorted, unambiguous and without aliases. -/
structure MarketRuntimeRegistry where
  entries : List MarketServices
  sorted : Sorted (·.key) entries
  checked : Checked entries

def MarketRuntimeRegistry.create (entries : List MarketServices) : Except String MarketRuntimeRegistry :=
  if entries.isEmpty || kMaximumConfiguredProducts < entries.length then
    .error "configured registry requires between one and eight entries"
  else
    match h : checkEntries [] (sortByKey (·.key) entries) with
    | .error message => .error message
    | .ok _ => .ok ⟨sortByKey (·.key) entries, sortByKey_sorted _ _, (checkEntries_ok checked_nil).mp h⟩

def MarketRuntimeRegistry.find (registry : MarketRuntimeRegistry) (key : MarketKey) : Option MarketServices :=
  registry.entries.find? (·.key = key)

/-! ## The set of products -/

def makeProductRuntimeSpecs {maximum : Nat} (metadata : ProductionMetadata maximum) : List (ProductRuntimeSpec maximum) :=
  (sortByKey (·.key) metadata.products).map fun product => ⟨product.key, product.numericSpec⟩

/-- Two neighbours have one key. -/
def adjacentDuplicate {α : Type} (key : α → MarketKey) : List α → Bool
  | a :: b :: rest => key a = key b || adjacentDuplicate key (b :: rest)
  | _ => false

variable {maximum : Nat}

def prepare (specifications : List (ProductRuntimeSpec maximum)) : Except String (List (ProductRuntimeSpec maximum)) :=
  if specifications.isEmpty || kMaximumConfiguredProducts < specifications.length then
    .error "configured products require between one and eight specifications"
  else if adjacentDuplicate (·.key) (sortByKey (·.key) specifications) then
    .error "configured product specifications must have unique MarketKeys"
  else .ok (sortByKey (·.key) specifications)

/-- What the constructor of a product asks of its key. -/
def validateProductKey (key : MarketKey) : Except String Unit :=
  if key.venue ≠ .binance then .error "ProductRuntime requires Binance venue"
  else if key.symbol.isEmpty then .error "ProductRuntime symbol must be non-empty"
  else
    match key.market with
    | .spot =>
      if (spotStreamSymbol key.symbol).isNone then
        .error "ProductRuntime Spot symbol cannot be represented by a Binance route"
      else .ok ()
    | .usdMPerpetual =>
      if (usdmStreamSymbol key.symbol).isNone then
        .error "ProductRuntime USD-M symbol cannot be represented by a Binance route"
      else .ok ()
    | .unspecified => .error "ProductRuntime requires Spot or USD-M perpetual market"

/-- Each product is made at an address of its own, unless its constructor throws. -/
def constructOwners (specifications : List (ProductRuntimeSpec maximum)) : Except String (List (ProductRuntime maximum)) :=
  specifications.zipIdx.mapM fun (specification, address) => do
    validateProductKey specification.key
    pure ⟨address, specification.key, specification.numericSpec⟩

def makeRegistryEntries (owners : List (ProductRuntime maximum)) : List MarketServices := owners.map (·.services)

structure ConfiguredProductRuntimeSet (maximum : Nat) where
  owners : List (ProductRuntime maximum)
  registry : MarketRuntimeRegistry

def ConfiguredProductRuntimeSet.create (specifications : List (ProductRuntimeSpec maximum)) :
    Except String (ConfiguredProductRuntimeSet maximum) := do
  let prepared ← prepare specifications
  let owners ← constructOwners prepared
  let registry ← MarketRuntimeRegistry.create (makeRegistryEntries owners)
  pure ⟨owners, registry⟩

def ConfiguredProductRuntimeSet.find (products : ConfiguredProductRuntimeSet maximum) (key : MarketKey) :
    Option (ProductRuntime maximum) :=
  products.owners.find? (·.key = key)

end MarketDataGateway.Routing
