import MarketDataGateway.Routing.Products

/-!
# From configuration to routing

The keys may be configured in any order: the set of products is the same, each key is routed to the services of its own product with the
numbers of its own market and symbol, and no two keys share any. Keys that were not configured are not found, and a duplicate is refused.
-/

namespace MarketDataGateway.Routing

open Ascii BinanceTransport Protocol Status

inductive ConfigurationError where
  | metadata (error : MetadataError)
  | products (message : String)
  deriving DecidableEq, Repr

/-- What a gateway is started with: the metadata of its keys, and the products that are made of it. -/
def configureProducts (d : Decoding) (marketKeys : List MarketKey) (sources : MetadataSources) :
    Except ConfigurationError (ConfiguredProductRuntimeSet d.maximum) :=
  match acquireProductionMetadata d marketKeys sources with
  | .error error => .error (.metadata error)
  | .ok metadata =>
    match ConfiguredProductRuntimeSet.create (makeProductRuntimeSpecs metadata) with
    | .error message => .error (.products message)
    | .ok products => .ok products

/-! ## Different keys -/

variable {α : Type} {key : α → MarketKey} {xs : List α} {maximum : Nat}

/-- Of a sorted list, neighbours are enough to compare. -/
theorem pairwise_of_adjacent (hsorted : Sorted key xs) (h : xs.IsChain fun a b => key a ≠ key b) :
    xs.Pairwise fun a b => key a ≠ key b := by
  induction xs with
  | nil => exact .nil
  | cons a rest ih =>
    obtain ⟨hfirst, hrest⟩ := List.pairwise_cons.mp hsorted
    refine List.pairwise_cons.mpr ⟨fun c hc => ?_, ih hrest h.tail⟩
    cases rest with
    | nil => cases hc
    | cons b rest =>
      have hab : rank (key a) < rank (key b) := by
        refine lt_of_le_of_ne ((not_less_iff _ _).mp (hfirst b List.mem_cons_self)) fun heq => ?_
        exact (List.isChain_cons_cons.mp h).1 (rank_injective heq)
      have hbc : rank (key b) ≤ rank (key c) := by
        rcases List.mem_cons.mp hc with rfl | hc
        · exact le_rfl
        · exact (not_less_iff _ _).mp ((List.pairwise_cons.mp hrest).1 c hc)
      intro heq
      rw [heq] at hab
      exact absurd hbc (not_le.mpr hab)

/-- Sorted keys that differ from their neighbours are all different. -/
theorem nodup_of_adjacent (hsorted : Sorted key xs) (h : xs.IsChain fun a b => key a ≠ key b) : (xs.map key).Nodup :=
  List.pairwise_map.mpr (pairwise_of_adjacent hsorted h)

/-- Different keys differ from their neighbours. -/
theorem adjacent_of_nodup (h : (xs.map key).Nodup) : xs.IsChain fun a b => key a ≠ key b :=
  List.Pairwise.isChain (List.pairwise_map.mp h)

/-- No neighbours are found with one key when none have one. -/
theorem adjacentDuplicate_eq_false : adjacentDuplicate key xs = false ↔ xs.IsChain fun a b => key a ≠ key b := by
  induction xs with
  | nil => simp [adjacentDuplicate]
  | cons a rest ih =>
    cases rest with
    | nil => simp [adjacentDuplicate]
    | cons b rest =>
      rw [List.isChain_cons_cons, ← ih, adjacentDuplicate]
      simp

/-- A lookup by key in a list of different keys ends at the element of the key. -/
theorem find_of_nodup (h : (xs.map key).Nodup) {a : α} (ha : a ∈ xs) : xs.find? (fun b => decide (key b = key a)) = some a := by
  induction xs with
  | nil => cases ha
  | cons b rest ih =>
    rw [List.map_cons, List.nodup_cons] at h
    rw [List.find?_cons]
    rcases List.mem_cons.mp ha with rfl | ha
    · simp
    · have hne : key b ≠ key a := by
        intro heq
        exact h.1 (heq ▸ List.mem_map_of_mem ha)
      rw [decide_eq_false hne]
      exact ih h.2 ha

/-- A lookup by another key finds nothing. -/
theorem find_eq_none {k : MarketKey} (h : k ∉ xs.map key) : xs.find? (fun b => decide (key b = k)) = none := by
  rw [List.find?_eq_none]
  intro b hb
  simp only [decide_eq_true_eq]
  rintro rfl
  exact h (List.mem_map_of_mem hb)

/-! ## The products that are made -/

/-- One to eight specifications with different keys are prepared in order. -/
theorem prepare_ok {specifications prepared : List (ProductRuntimeSpec maximum)} :
    prepare specifications = .ok prepared ↔ specifications ≠ [] ∧ specifications.length ≤ kMaximumConfiguredProducts ∧
      (specifications.map (·.key)).Nodup ∧ prepared = sortByKey (·.key) specifications := by
  have hnodup : ((sortByKey (·.key) specifications).map (·.key)).Nodup ↔ (specifications.map (·.key)).Nodup :=
    ((sortByKey_perm (·.key) specifications).map _).nodup_iff
  unfold prepare
  split
  · rename_i hsize
    simp only [Bool.or_eq_true, List.isEmpty_iff, decide_eq_true_eq] at hsize
    simp only [reduceCtorEq, false_iff, not_and]
    intro hne hlength
    rcases hsize with hsize | hsize
    · exact absurd hsize hne
    · omega
  · rename_i hsize
    simp only [Bool.or_eq_true, List.isEmpty_iff, decide_eq_true_eq, not_or, not_lt] at hsize
    split
    · rename_i hduplicate
      simp only [reduceCtorEq, false_iff, not_and]
      intro _ _ hkeys
      rw [adjacentDuplicate_eq_false.mpr (adjacent_of_nodup (hnodup.mpr hkeys))] at hduplicate
      cases hduplicate
    · rename_i hduplicate
      rw [Bool.not_eq_true, adjacentDuplicate_eq_false] at hduplicate
      have hkeys := hnodup.mp (nodup_of_adjacent (sortByKey_sorted _ _) hduplicate)
      simp [hsize, hkeys, eq_comm]

variable (specifications : List (ProductRuntimeSpec maximum))

/-- The products of specifications, each at the address of its place. -/
def placed : List (ProductRuntime maximum) :=
  specifications.mapIdx fun address specification => ⟨address, specification.key, specification.numericSpec⟩

/-- Specifications whose keys are valid are made into products. -/
theorem constructOwners_ok (h : ∀ specification ∈ specifications, validateProductKey specification.key = .ok ()) :
    constructOwners specifications = .ok (placed specifications) := by
  unfold placed
  rw [List.mapIdx_eq_zipIdx_map]
  refine mapM_of_ok ?_
  rintro ⟨specification, address⟩ hindexed
  have hvalid : validateProductKey specification.key = .ok () := h specification (List.fst_mem_of_mem_zipIdx hindexed)
  dsimp only
  rw [hvalid]
  rfl

/-- The products have the keys of their specifications. -/
theorem placed_keys : (placed specifications).map (·.key) = specifications.map (·.key) := by
  refine List.ext_getElem (by simp [placed]) fun i h h' => ?_
  simp [placed]

/-- The products have the numbers of their specifications. -/
theorem placed_specs :
    ∀ product ∈ placed specifications, ∃ specification ∈ specifications, specification.key = product.key ∧
      specification.numericSpec = product.numericSpec := by
  intro product hproduct
  obtain ⟨i, hi, rfl⟩ := List.getElem_of_mem hproduct
  have hlength : i < specifications.length := by simpa [placed] using hi
  exact ⟨specifications[i], List.getElem_mem hlength, by simp [placed], by simp [placed]⟩

/-- No two products are at one address. -/
theorem placed_addresses : (placed specifications).Pairwise fun a b => a.address ≠ b.address := by
  rw [List.pairwise_iff_getElem]
  intro i j hi hj hij
  simp only [placed, List.getElem_mapIdx, ne_eq]
  omega

/-- Products at different addresses have no service in common. -/
theorem services_apart {a b : ProductRuntime maximum} (h : a.address ≠ b.address) : b.services.shares a.services = false := by
  simp [MarketServices.shares, ProductRuntime.services, ProductRuntime.runtime, ProductRuntime.recovery,
    ProductRuntime.eventPublication, h]

/-- The registry finds the entries of different products in order. -/
theorem registry_entries_checked {owners : List (ProductRuntime maximum)} (hkeys : (owners.map (·.key)).Nodup)
    (haddresses : owners.Pairwise fun a b => a.address ≠ b.address) : Checked (makeRegistryEntries owners) := by
  refine ⟨?_, ?_, ?_⟩
  · apply adjacent_of_nodup
    unfold makeRegistryEntries
    rw [List.map_map]
    exact hkeys
  · intro entry hentry
    obtain ⟨product, -, rfl⟩ := List.mem_map.mp hentry
    rfl
  · exact List.pairwise_map.mpr (haddresses.imp services_apart)

/-- The registry takes entries that are sorted already as they are. -/
theorem registry_create_ok {entries : List MarketServices} (hne : entries ≠ []) (hlength : entries.length ≤ kMaximumConfiguredProducts)
    (hsorted : Sorted (·.key) entries) (hchecked : Checked entries) :
    ∃ registry, MarketRuntimeRegistry.create entries = .ok registry ∧ registry.entries = entries := by
  unfold MarketRuntimeRegistry.create
  rw [if_neg (by simp [hne, hlength])]
  have hsame := sortByKey_of_sorted hsorted
  split
  · rename_i message hmessage
    rw [hsame, (checkEntries_ok checked_nil).mpr hchecked] at hmessage
    cases hmessage
  · exact ⟨_, rfl, hsame⟩

/-- A registry has different keys. -/
theorem registry_create_nodup {entries : List MarketServices} {registry : MarketRuntimeRegistry}
    (h : MarketRuntimeRegistry.create entries = .ok registry) : (entries.map (·.key)).Nodup := by
  unfold MarketRuntimeRegistry.create at h
  split at h
  · cases h
  · split at h
    · cases h
    · cases h
      rename_i hchecked
      have hadjacent := ((checkEntries_ok checked_nil).mp hchecked).adjacent
      rw [List.nil_append] at hadjacent
      exact (((sortByKey_perm (·.key) entries).map _).nodup_iff).mp (nodup_of_adjacent (sortByKey_sorted _ _) hadjacent)

/-- Being sorted depends on the keys only. -/
theorem sorted_of_keys {β : Type} {key' : β → MarketKey} {ys : List β} (h : xs.map key = ys.map key') (hs : Sorted key xs) :
    Sorted key' ys := by
  have hkeys : (xs.map key).Pairwise fun a b => marketKeyLess b a = false := List.pairwise_map.mpr hs
  rw [h] at hkeys
  exact List.pairwise_map.mp hkeys

/-- Specifications of different valid keys give a set whose registry has the services of its products, in the order of the keys. -/
theorem create_ok (hne : specifications ≠ []) (hlength : specifications.length ≤ kMaximumConfiguredProducts)
    (hkeys : (specifications.map (·.key)).Nodup) (hvalid : ∀ specification ∈ specifications, validateProductKey specification.key = .ok ()) :
    ∃ products, ConfiguredProductRuntimeSet.create specifications = .ok products ∧
      products.owners = placed (sortByKey (·.key) specifications) ∧
      products.registry.entries = makeRegistryEntries products.owners := by
  have hperm := sortByKey_perm (·.key) specifications
  have hownerKeys := placed_keys (sortByKey (·.key) specifications)
  have hentryKeys : (makeRegistryEntries (placed (sortByKey (·.key) specifications))).map (·.key) =
      (sortByKey (·.key) specifications).map (·.key) := by
    unfold makeRegistryEntries
    rw [List.map_map]
    exact hownerKeys
  have hentryLength : (makeRegistryEntries (placed (sortByKey (·.key) specifications))).length = specifications.length := by
    have := congrArg List.length hentryKeys
    simpa [hperm.length_eq] using this
  obtain ⟨registry, hregistry, hentries⟩ := registry_create_ok
    (List.ne_nil_of_length_pos (by rw [hentryLength]; exact List.length_pos_iff.mpr hne)) (by rw [hentryLength]; exact hlength)
    (sorted_of_keys hentryKeys.symm (sortByKey_sorted _ _))
    (registry_entries_checked (by rw [hownerKeys]; exact ((hperm.map _).nodup_iff).mpr hkeys) (placed_addresses _))
  refine ⟨⟨_, registry⟩, ?_, rfl, hentries⟩
  unfold ConfiguredProductRuntimeSet.create
  have howners := constructOwners_ok (sortByKey (·.key) specifications) fun specification hspecification =>
    hvalid specification (hperm.mem_iff.mp hspecification)
  rw [prepare_ok.mpr ⟨hne, hlength, hkeys, rfl⟩]
  show (do
    let owners ← constructOwners (sortByKey (·.key) specifications)
    let registry ← MarketRuntimeRegistry.create (makeRegistryEntries owners)
    pure (⟨owners, registry⟩ : ConfiguredProductRuntimeSet maximum)) = _
  rw [howners]
  show (do
    let registry ← MarketRuntimeRegistry.create (makeRegistryEntries (placed (sortByKey (·.key) specifications)))
    pure _) = _
  rw [hregistry]
  rfl

/-- A set of products is made of specifications with different keys. -/
theorem create_nodup {products : ConfiguredProductRuntimeSet maximum}
    (h : ConfiguredProductRuntimeSet.create specifications = .ok products) : (specifications.map (·.key)).Nodup := by
  obtain ⟨prepared, hprepared, -⟩ := exists_of_bind_ok h
  exact (prepare_ok.mp hprepared).2.2.1

/-! ## Routing -/

/-- What a set of products and its registry make of the configured keys. -/
structure Routes (d : Decoding) (sources : MetadataSources) (marketKeys : List MarketKey)
    (products : ConfiguredProductRuntimeSet d.maximum) : Prop where
  keys : (products.owners.map (·.key)).Perm marketKeys
  sorted : products.owners.Pairwise fun a b => marketKeyLess a.key b.key = true
  found : ∀ key ∈ marketKeys, ∃ product ∈ products.owners, product.key = key ∧ products.find key = some product ∧
    products.registry.find key = some product.services ∧ Resolved d sources key product.numericSpec
  apart : ∀ key key' entry entry', key ≠ key' → products.registry.find key = some entry → products.registry.find key' = some entry' →
    entry.runtime ≠ entry'.runtime ∧ entry.recovery ≠ entry'.recovery ∧ entry.eventPublication ≠ entry'.eventPublication
  unconfigured : ∀ key, key ∉ marketKeys → products.find key = none ∧ products.registry.find key = none

/-- Of different entries of a registry, neither shares a service with the other. -/
theorem registry_apart (registry : MarketRuntimeRegistry) {key key' : MarketKey} {entry entry' : MarketServices} (hne : key ≠ key')
    (h : registry.find key = some entry) (h' : registry.find key' = some entry') :
    entry.runtime ≠ entry'.runtime ∧ entry.recovery ≠ entry'.recovery ∧ entry.eventPublication ≠ entry'.eventPublication := by
  have hkey : entry.key = key := by simpa using List.find?_some h
  have hkey' : entry'.key = key' := by simpa using List.find?_some h'
  have hentry : entry ≠ entry' := by
    rintro rfl
    exact hne (hkey.symm.trans hkey')
  have hsymm : Std.Symm fun a b : MarketServices => b.shares a = false := by
    refine ⟨fun a b hshares => ?_⟩
    simp only [MarketServices.shares, Bool.or_eq_false_iff, decide_eq_false_iff_not] at hshares ⊢
    exact ⟨⟨fun h => hshares.1.1 h.symm, fun h => hshares.1.2 h.symm⟩, fun h => hshares.2 h.symm⟩
  have hshares : entry'.shares entry = false :=
    registry.checked.apart.forall (List.mem_of_find?_eq_some h) (List.mem_of_find?_eq_some h') hentry
  simp only [MarketServices.shares, Bool.or_eq_false_iff, decide_eq_false_iff_not] at hshares
  exact ⟨hshares.1.1, hshares.1.2, hshares.2⟩

variable {d : Decoding} {marketKeys : List MarketKey} {sources : MetadataSources}

/-- The specifications have the keys of the metadata. -/
theorem makeProductRuntimeSpecs_keys {metadata : ProductionMetadata maximum} (h : Sorted (·.key) metadata.products) :
    (makeProductRuntimeSpecs metadata).map (·.key) = metadata.products.map (·.key) := by
  unfold makeProductRuntimeSpecs
  rw [sortByKey_of_sorted h, List.map_map]
  rfl

/-- The specifications have the numbers of the metadata. -/
theorem makeProductRuntimeSpecs_specs {metadata : ProductionMetadata maximum} :
    ∀ specification ∈ makeProductRuntimeSpecs metadata, ∃ product ∈ metadata.products, product.key = specification.key ∧
      product.numericSpec = specification.numericSpec := by
  intro specification hspecification
  obtain ⟨product, hproduct, rfl⟩ := List.mem_map.mp hspecification
  exact ⟨product, (sortByKey_perm _ _).mem_iff.mp hproduct, rfl, rfl⟩

/-- A key that was resolved passes the check of the product's constructor. -/
theorem resolveProduct_validates {spotBody usdmBody : Option Bytes} {key : MarketKey} {product : ResolvedProductSpec d.maximum}
    (h : resolveProduct d spotBody usdmBody key = .ok product) : product.key = key ∧ validateProductKey key = .ok () := by
  have hroute : ∀ {symbol : Bytes}, ¬(spotStreamSymbol symbol).isNone = true → symbol.isEmpty = false := by
    intro symbol hsome
    cases hempty : symbol.isEmpty with
    | false => rfl
    | true => exact absurd (by simp [spotStreamSymbol, hempty]) hsome
  unfold resolveProduct at h
  unfold validateProductKey
  split at h
  · cases h
  rename_i hvenue
  rw [if_neg hvenue]
  revert h
  cases key.market with
  | spot =>
    intro h
    dsimp only at h
    split at h
    · cases h
    · rename_i hsome
      refine ⟨(resolveParsed_ok h).1, ?_⟩
      rw [hroute hsome, if_neg Bool.false_ne_true]
      exact if_neg hsome
  | usdMPerpetual =>
    intro h
    dsimp only at h
    split at h
    · cases h
    · rename_i hsome
      refine ⟨(resolveParsed_ok h).1, ?_⟩
      rw [hroute hsome, if_neg Bool.false_ne_true]
      exact if_neg hsome
  | unspecified =>
    intro h
    cases h

/-- The constructor of a product asks nothing of a key that was not asked when its metadata was acquired. -/
theorem acquireProductionMetadata_validates {metadata : ProductionMetadata d.maximum}
    (h : acquireProductionMetadata d marketKeys sources = .ok metadata) :
    ∀ product ∈ metadata.products, validateProductKey product.key = .ok () := by
  obtain ⟨spotBody, -, h⟩ := exists_of_bind_ok h
  obtain ⟨usdmBody, -, h⟩ := exists_of_bind_ok h
  obtain ⟨products, hproducts, h⟩ := exists_of_bind_ok h
  cases h
  have hresolved := (mapM_ok hproducts).imp fun _ _ hresolved => resolveProduct_validates hresolved.2
  exact forall_mem_of_forall₂ (hresolved.imp fun key product hproduct => hproduct.1 ▸ hproduct.2)

/-- Keys whose metadata was acquired are made into products and routed to them. -/
theorem configureProducts_routes {metadata : ProductionMetadata d.maximum} (hne : marketKeys ≠ [])
    (hlength : marketKeys.length ≤ kMaximumConfiguredProducts) (hkeys : marketKeys.Nodup)
    (h : acquireProductionMetadata d marketKeys sources = .ok metadata) :
    ∃ products, configureProducts d marketKeys sources = .ok products ∧ Routes d sources marketKeys products := by
  obtain ⟨hproductKeys, hresolved⟩ := acquireProductionMetadata_ok h
  have hperm := sortByKey_perm id marketKeys
  have hsorted : Sorted (·.key) metadata.products :=
    sorted_of_keys (by rw [List.map_id, hproductKeys]) (sortByKey_sorted id marketKeys)
  have hspecKeys := (makeProductRuntimeSpecs_keys hsorted).trans hproductKeys
  have hspecNodup : ((makeProductRuntimeSpecs metadata).map (·.key)).Nodup := by
    rw [hspecKeys]
    exact hperm.nodup_iff.mpr hkeys
  have hspecLength : (makeProductRuntimeSpecs metadata).length = marketKeys.length := by
    rw [← List.length_map (f := (·.key)), hspecKeys, hperm.length_eq]
  have hspecValid : ∀ specification ∈ makeProductRuntimeSpecs metadata, validateProductKey specification.key = .ok () := by
    intro specification hspecification
    obtain ⟨product, hproduct, hkey, -⟩ := makeProductRuntimeSpecs_specs specification hspecification
    rw [← hkey]
    exact acquireProductionMetadata_validates h product hproduct
  obtain ⟨products, hproducts, howners, hentries⟩ := create_ok (makeProductRuntimeSpecs metadata)
    (List.ne_nil_of_length_pos (by rw [hspecLength]; exact List.length_pos_iff.mpr hne)) (by rw [hspecLength]; exact hlength) hspecNodup hspecValid
  have hownerKeys : (products.owners.map (·.key)).Perm marketKeys := by
    rw [howners, placed_keys]
    exact ((sortByKey_perm _ _).map _).trans (by rw [hspecKeys]; exact hperm)
  have hownerNodup : (products.owners.map (·.key)).Nodup := hownerKeys.nodup_iff.mpr hkeys
  have hentryKeys : products.registry.entries.map (·.key) = products.owners.map (·.key) := by
    rw [hentries]
    unfold makeRegistryEntries
    rw [List.map_map]
    rfl
  refine ⟨products, ?_, hownerKeys, ?_, ?_, ?_, ?_⟩
  · unfold configureProducts
    rw [h]
    dsimp only
    rw [hproducts]
  · have hownerSorted : Sorted (·.key) products.owners := by
      rw [howners]
      exact sorted_of_keys (placed_keys _).symm (sortByKey_sorted _ _)
    refine (hownerSorted.and (List.pairwise_map.mp hownerNodup)).imp fun {a b} hab => ?_
    rw [marketKeyLess_iff]
    exact lt_of_le_of_ne ((not_less_iff _ _).mp hab.1) fun heq => hab.2 (rank_injective heq)
  · intro key hkey
    obtain ⟨product, hproduct, rfl⟩ := List.mem_map.mp (hownerKeys.mem_iff.mpr hkey)
    have hentry : product.services ∈ products.registry.entries := by
      rw [hentries]
      exact List.mem_map_of_mem hproduct
    refine ⟨product, hproduct, rfl, find_of_nodup hownerNodup hproduct,
      find_of_nodup (by rw [hentryKeys]; exact hownerNodup) hentry, ?_⟩
    rw [howners] at hproduct
    obtain ⟨specification, hspecification, hspecKey, hspec⟩ := placed_specs _ product hproduct
    obtain ⟨resolved, hmem, hkey', hspec'⟩ := makeProductRuntimeSpecs_specs specification ((sortByKey_perm _ _).mem_iff.mp hspecification)
    rw [← hspecKey, ← hkey', ← hspec, ← hspec']
    exact hresolved resolved hmem
  · intro key key' entry entry' hne' hfind hfind'
    exact registry_apart products.registry hne' hfind hfind'
  · intro key hkey
    have hnone : key ∉ products.owners.map (·.key) := mt hownerKeys.mem_iff.mp hkey
    exact ⟨find_eq_none hnone, find_eq_none (by rw [hentryKeys]; exact hnone)⟩

/-- However the keys are listed, the products are the same, and each of one to eight different keys whose metadata was acquired is routed to
its own product; lists with a duplicate key are refused, by the set and by the registry. -/
theorem configured_products_are_routed (d : Decoding) (marketKeys : List MarketKey) (sources : MetadataSources) :
    (∀ marketKeys', marketKeys.Perm marketKeys' → configureProducts d marketKeys' sources = configureProducts d marketKeys sources) ∧
    (marketKeys ≠ [] → marketKeys.length ≤ kMaximumConfiguredProducts → marketKeys.Nodup → ∀ metadata,
      acquireProductionMetadata d marketKeys sources = .ok metadata →
      ∃ products, configureProducts d marketKeys sources = .ok products ∧ Routes d sources marketKeys products) ∧
    (¬marketKeys.Nodup → ∃ error, configureProducts d marketKeys sources = .error error) ∧
    (∀ specifications : List (ProductRuntimeSpec d.maximum), ¬(specifications.map (·.key)).Nodup →
      ∃ message, ConfiguredProductRuntimeSet.create specifications = .error message) ∧
    (∀ entries : List MarketServices, ¬(entries.map (·.key)).Nodup → ∃ message, MarketRuntimeRegistry.create entries = .error message) := by
  refine ⟨?_, ?_, ?_, ?_, ?_⟩
  · intro marketKeys' hperm
    unfold configureProducts
    rw [acquireProductionMetadata_perm hperm]
  · intro hne hlength hkeys metadata h
    exact configureProducts_routes hne hlength hkeys h
  · intro hduplicate
    unfold configureProducts
    split
    · exact ⟨_, rfl⟩
    · rename_i metadata hmetadata
      split
      · exact ⟨_, rfl⟩
      · rename_i products hproducts
        obtain ⟨hproductKeys, -⟩ := acquireProductionMetadata_ok hmetadata
        have hperm := sortByKey_perm id marketKeys
        have hsorted : Sorted (·.key) metadata.products :=
          sorted_of_keys (by rw [List.map_id, hproductKeys]) (sortByKey_sorted id marketKeys)
        have hnodup := create_nodup _ hproducts
        rw [makeProductRuntimeSpecs_keys hsorted, hproductKeys, hperm.nodup_iff] at hnodup
        exact absurd hnodup hduplicate
  · intro specifications hduplicate
    cases hcreate : ConfiguredProductRuntimeSet.create specifications with
    | error message => exact ⟨message, rfl⟩
    | ok products => exact absurd (create_nodup _ hcreate) hduplicate
  · intro entries hduplicate
    cases hcreate : MarketRuntimeRegistry.create entries with
    | error message => exact ⟨message, rfl⟩
    | ok registry => exact absurd (registry_create_nodup hcreate) hduplicate

/-! ## One symbol on two markets -/

def bothMarkets : List MarketKey := [⟨.binance, .usdMPerpetual, bytes "BTCUSDT"⟩, ⟨.binance, .spot, bytes "BTCUSDT"⟩]

def bothFilters (tickSize : String) : Json :=
  .array [.object [(bytes "filterType", .string (bytes "PRICE_FILTER")), (bytes "tickSize", .string (bytes tickSize))],
    .object [(bytes "filterType", .string (bytes "LOT_SIZE")), (bytes "stepSize", .string (bytes "1"))]]

/-- A library that decodes a body to the one product of its market. -/
def bothDecoding : Decoding where
  maximum := 18
  decode body := .ok (.object [(bytes "symbols", .array [.object [(bytes "symbol", .string (bytes "BTCUSDT")),
    (bytes "status", .string (bytes "TRADING")), (bytes "isSpotTradingAllowed", .boolean true),
    (bytes "contractType", .string (bytes "PERPETUAL")),
    (bytes "filters", bothFilters (if body = bytes "spot" then "0.01" else "0.1"))]])])

def bothSources : MetadataSources := ⟨.ok (bytes "spot"), .ok (bytes "usdm")⟩

/-- A product of each market is made and routed to. -/
theorem configured_products_are_routed_both_markets :
    ∃ products, configureProducts bothDecoding bothMarkets bothSources = .ok products ∧
      Routes bothDecoding bothSources bothMarkets products :=
  (configured_products_are_routed bothDecoding bothMarkets bothSources).2.1 (by decide) (by decide) (by decide)
    ⟨[⟨⟨.binance, .spot, bytes "BTCUSDT"⟩, ⟨2, by decide⟩, ⟨0, by decide⟩⟩,
      ⟨⟨.binance, .usdMPerpetual, bytes "BTCUSDT"⟩, ⟨1, by decide⟩, ⟨0, by decide⟩⟩]⟩ rfl

end MarketDataGateway.Routing
