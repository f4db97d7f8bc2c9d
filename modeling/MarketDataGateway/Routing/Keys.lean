import Mathlib.Data.List.Lex
import Mathlib.Data.List.Sort
import Mathlib.Data.Prod.Lex
import MarketDataGateway.Status.Key

/-!
# The order of market keys

Products are kept in one order: by venue, by market and then by the bytes of the symbol. It is a strict total order, so a sort by it does
not depend on where it starts from, and a sorted list of different keys is sorted only once.
-/

namespace MarketDataGateway.Routing

open Ascii Status

/-- The number of a venue on the wire. -/
def venueNumber : Venue → Nat
  | .unspecified => 0
  | .binance => 1

def marketNumber : Market → Nat
  | .unspecified => 0
  | .spot => 1
  | .usdMPerpetual => 2

/-- `std::lexicographical_compare` of two byte strings. -/
def lexicographicalCompare : Bytes → Bytes → Bool
  | _, [] => false
  | [], _ :: _ => true
  | a :: as, b :: bs => if a < b then true else if b < a then false else lexicographicalCompare as bs

def marketKeyLess (left right : MarketKey) : Bool :=
  if left.venue ≠ right.venue then venueNumber left.venue < venueNumber right.venue
  else if left.market ≠ right.market then marketNumber left.market < marketNumber right.market
  else lexicographicalCompare left.symbol right.symbol

/-- `std::sort` by key: what is not less than another comes behind it. -/
def sortByKey {α : Type} (key : α → MarketKey) (xs : List α) : List α :=
  xs.insertionSort fun a b => marketKeyLess (key b) (key a) = false

/-! ## A strict total order -/

/-- A key as a row of numbers. -/
def rank (key : MarketKey) : ℕ ×ₗ ℕ ×ₗ List ℕ :=
  toLex (venueNumber key.venue, toLex (marketNumber key.market, key.symbol.map UInt8.toNat))

/-- The comparison is that of the bytes' numbers. -/
theorem lexicographicalCompare_iff (as bs : Bytes) :
    lexicographicalCompare as bs = true ↔ as.map UInt8.toNat < bs.map UInt8.toNat := by
  induction as generalizing bs with
  | nil => cases bs <;> simp [lexicographicalCompare]
  | cons a as ih =>
    cases bs with
    | nil => simp [lexicographicalCompare]
    | cons b bs =>
      rw [List.map_cons, List.map_cons, List.cons_lt_cons_iff, ← ih, lexicographicalCompare, ← UInt8.lt_iff_toNat_lt, UInt8.toNat_inj]
      split
      · rename_i hlt
        simp [hlt]
      · rename_i hlt
        split
        · rename_i hgt
          have hne : a ≠ b := by
            rintro rfl
            exact hlt hgt
          simp [hlt, hne]
        · rename_i hgt
          have heq : a = b := UInt8.le_antisymm (UInt8.not_lt.mp hgt) (UInt8.not_lt.mp hlt)
          simp [heq]

/-- Different venues have different numbers. -/
theorem venueNumber_injective : Function.Injective venueNumber := by
  intro a b h
  cases a <;> cases b <;> simp_all [venueNumber]

/-- Different markets have different numbers. -/
theorem marketNumber_injective : Function.Injective marketNumber := by
  intro a b h
  cases a <;> cases b <;> simp_all [marketNumber]

/-- Different keys have different ranks. -/
theorem rank_injective : Function.Injective rank := by
  rintro ⟨venue, market, symbol⟩ ⟨venue', market', symbol'⟩ h
  simp only [rank, EmbeddingLike.apply_eq_iff_eq, Prod.mk.injEq] at h
  obtain ⟨hvenue, hmarket, hsymbol⟩ := h
  rw [venueNumber_injective hvenue, marketNumber_injective hmarket,
    List.map_injective_iff.mpr (fun a b h => UInt8.toNat_inj.mp h) hsymbol]

/-- The comparison of keys is that of their ranks. -/
theorem marketKeyLess_iff (left right : MarketKey) : marketKeyLess left right = true ↔ rank left < rank right := by
  unfold marketKeyLess rank
  rw [Prod.Lex.toLex_lt_toLex, Prod.Lex.toLex_lt_toLex, ← lexicographicalCompare_iff, venueNumber_injective.eq_iff,
    marketNumber_injective.eq_iff]
  dsimp only
  split
  · rename_i hvenue
    simp [hvenue]
  · rename_i hvenue
    rw [not_not.mp hvenue]
    split
    · rename_i hmarket
      simp [hmarket]
    · rename_i hmarket
      rw [not_not.mp hmarket]
      simp

/-- A key that is not less has a rank at least as large. -/
theorem not_less_iff (left right : MarketKey) : marketKeyLess right left = false ↔ rank left ≤ rank right := by
  rw [← not_lt, ← marketKeyLess_iff, Bool.not_eq_true]

/-! ## Sorting -/

variable {α : Type} {key : α → MarketKey} {xs ys : List α}

/-- In the order of the keys. -/
def Sorted (key : α → MarketKey) (xs : List α) : Prop := xs.Pairwise fun a b => marketKeyLess (key b) (key a) = false

/-- Sorting keeps the elements. -/
theorem sortByKey_perm (key : α → MarketKey) (xs : List α) : (sortByKey key xs).Perm xs := List.perm_insertionSort ..

/-- Sorting sorts. -/
theorem sortByKey_sorted (key : α → MarketKey) (xs : List α) : Sorted key (sortByKey key xs) := by
  have htotal : Std.Total fun a b : α => marketKeyLess (key b) (key a) = false := by
    refine ⟨fun a b => ?_⟩
    rw [not_less_iff, not_less_iff]
    exact le_total ..
  have htrans : IsTrans α fun a b => marketKeyLess (key b) (key a) = false := by
    refine ⟨fun a b c hab hbc => ?_⟩
    rw [not_less_iff] at *
    exact hab.trans hbc
  exact List.pairwise_insertionSort ..

/-- Sorting leaves what is sorted. -/
theorem sortByKey_of_sorted (h : Sorted key xs) : sortByKey key xs = xs := List.Pairwise.insertionSort_eq h

/-- Lists of the same keys are sorted in the same way. -/
theorem sortByKey_keys_congr {xs ys : List MarketKey} (h : xs.Perm ys) : sortByKey id xs = sortByKey id ys := by
  refine List.Perm.eq_of_pairwise (fun a b _ _ hab hba => ?_) (sortByKey_sorted id xs) (sortByKey_sorted id ys)
    ((sortByKey_perm id xs).trans (h.trans (sortByKey_perm id ys).symm))
  rw [not_less_iff] at hab hba
  exact rank_injective (le_antisymm hab hba)

end MarketDataGateway.Routing
