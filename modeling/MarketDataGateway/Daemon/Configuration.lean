import MarketDataGateway.Config.Endpoint
import MarketDataGateway.Routing.Guarantees

/-!
# The configuration of the daemon

From a command line to the products that a gateway is started with. The file system, the JSON library and the network library are
parameters. Of a text the JSON library makes a document, and while it does so it shows its callback the keys at depth one, also those
that it shows a second time.
-/

namespace MarketDataGateway.Daemon

open Ascii Config Protocol Routing Status

def kMaximumDaemonConfigBytes : Nat := 64 * 1024

structure DaemonConfig where
  grpcListen : Bytes
  marketKeys : List MarketKey
  deriving DecidableEq, Repr

structure DaemonConfigError where
  message : Bytes
  deriving DecidableEq, Repr

inductive DaemonConfigResult where
  | config (config : DaemonConfig)
  | helpRequested
  | error (error : DaemonConfigError)
  deriving DecidableEq, Repr

def configError (message : String) : DaemonConfigError := ⟨bytes message⟩

/-! ## The file -/

/-- What the file system has under a name. -/
inductive ConfigFile where
  | unopened
  | unreadable
  | contents (contents : Bytes)
  deriving DecidableEq, Repr

/-- One byte more is read than is allowed. -/
def readConfigFile : ConfigFile → Except DaemonConfigError Bytes
  | .unopened => .error (configError "unable to open config file")
  | .unreadable => .error (configError "unable to read config file")
  | .contents contents =>
    let buffer := contents.take (kMaximumDaemonConfigBytes + 1)
    if kMaximumDaemonConfigBytes < buffer.length then .error (configError "config file exceeds 64 KiB limit") else .ok buffer

/-! ## The document -/

structure ParsedDocument where
  root : Json
  topLevelKeys : List Bytes

/-- An object has the keys that were shown, each once. -/
def ShowsKeys (parse : Bytes → Option ParsedDocument) : Prop :=
  ∀ text document members, parse text = some document → document.root = .object members →
    (members.map (·.1)).Nodup ∧ ∀ key, key ∈ members.map (·.1) ↔ key ∈ document.topLevelKeys

/-- Some key is in the set already when it is shown. -/
def duplicateKey (topLevelKeys : List Bytes) : List Bytes → Bool
  | [] => false
  | key :: rest => topLevelKeys.contains key || duplicateKey (key :: topLevelKeys) rest

def parseStrictJson (parse : Bytes → Option ParsedDocument) (contents : Bytes) : Except DaemonConfigError Json :=
  match parse contents with
  | none => .error (configError "malformed JSON")
  | some document =>
    if duplicateKey [] document.topLevelKeys then .error (configError "duplicate top-level JSON key") else .ok document.root

def requiredKeys : List String := ["grpc_listen", "spot_symbols", "usdm_symbols"]

/-- A root that has the required keys. -/
structure KeyedRoot where
  root : Json
  present : ∀ key ∈ requiredKeys, root.contains key = true

def KeyedRoot.at (keyed : KeyedRoot) (key : String) (h : key ∈ requiredKeys) : Json := keyed.root.member key (keyed.present key h)

/-- The first key that is not one of those required. -/
def unknownKey (members : List (Bytes × Json)) : Option Bytes :=
  (members.find? fun entry => !(requiredKeys.map bytes).contains entry.1).map (·.1)

def validateKeys (root : Json) : Except DaemonConfigError KeyedRoot :=
  match root with
  | .object members =>
    match unknownKey members with
    | some key => .error ⟨bytes "unknown top-level key: " ++ key⟩
    | none =>
      if h : ∀ key ∈ requiredKeys, (Json.object members).contains key = true then .ok ⟨.object members, h⟩
      else
        .error ⟨bytes "missing required top-level key: " ++
          ((requiredKeys.find? fun key => !(Json.object members).contains key).map bytes).getD []⟩
  | _ => .error (configError "config root must be an object")

def symbolEntry (field : String) : Json → Except DaemonConfigError Bytes
  | .string symbol => if symbol.isEmpty then .error (configError (field ++ " contains an empty symbol")) else .ok symbol
  | _ => .error (configError (field ++ " must be an array of strings"))

def symbols (field : String) : Json → Except DaemonConfigError (List Bytes)
  | .array entries => entries.mapM (symbolEntry field)
  | _ => .error (configError (field ++ " must be an array of strings"))

/-! ## The values -/

def listenAddress : Json → Except DaemonConfigError Bytes
  | .string listen => if listen.isEmpty then .error (configError "grpc_listen must not be empty") else .ok listen
  | _ => .error (configError "grpc_listen must be a string")

def checkListen (makeAddress : Bytes → Option Address) (listen : Bytes) : Except DaemonConfigError Unit :=
  match parseListenEndpoint listen with
  | .error error => .error (configError ("invalid grpc_listen [" ++ error.field ++ "]: " ++ error.message))
  | .ok _ =>
    if validLoopbackListenAddress makeAddress listen false then .ok ()
    else .error (configError "grpc_listen must use a numeric loopback address and a port in 1..65535")

def configuredKeys (spot usdm : List Bytes) : List MarketKey :=
  spot.map (⟨.binance, .spot, ·⟩) ++ usdm.map (⟨.binance, .usdMPerpetual, ·⟩)

def canonicalKeys (keys : List MarketKey) : Except DaemonConfigError (List MarketKey) :=
  if keys.isEmpty || kMaximumConfiguredProducts < keys.length then
    .error (configError "configured products require between one and eight symbols")
  else if adjacentDuplicate id (sortByKey id keys) then
    .error (configError "configured products contain a duplicate exact MarketKey")
  else .ok (sortByKey id keys)

/-- The surroundings of the program. -/
structure DaemonSurroundings where
  files : Bytes → ConfigFile
  parse : Bytes → Option ParsedDocument
  makeAddress : Bytes → Option Address

def loadDaemonConfig (w : DaemonSurroundings) (configPath : Bytes) : Except DaemonConfigError DaemonConfig := do
  let contents ← readConfigFile (w.files configPath)
  let root ← parseStrictJson w.parse contents
  let keyed ← validateKeys root
  let listen ← listenAddress (keyed.at "grpc_listen" (by decide))
  checkListen w.makeAddress listen
  let spot ← symbols "spot_symbols" (keyed.at "spot_symbols" (by decide))
  let usdm ← symbols "usdm_symbols" (keyed.at "usdm_symbols" (by decide))
  let keys ← canonicalKeys (configuredKeys spot usdm)
  pure ⟨listen, keys⟩

/-! ## The command line -/

/-- The arguments from the first on, behind the option and its value where they have been seen. -/
def configPath : Option Bytes → List Bytes → Except DaemonConfigError Bytes
  | none, [] => .error (configError "--config is required")
  | some path, [] => .ok path
  | seen, option :: rest =>
    if option ≠ bytes "--config" then .error ⟨bytes "unknown option: " ++ option⟩
    else if seen.isSome then .error (configError "duplicate option: --config")
    else
      match rest with
      | [] => .error (configError "missing value for option: --config")
      | value :: rest =>
        if value.isEmpty then .error (configError "missing value for option: --config") else configPath (some value) rest

/-- `arguments` are those behind the program's name. -/
def parseDaemonConfig (w : DaemonSurroundings) (arguments : List Bytes) : DaemonConfigResult :=
  if arguments = [bytes "--help"] then .helpRequested
  else
    match configPath none arguments with
    | .error error => .error error
    | .ok path =>
      match loadDaemonConfig w path with
      | .error error => .error error
      | .ok config => .config config

/-! ## What each check lets through -/

section

variable {contents path : Bytes} {value root : Json}

/-- A file is read when it is there and not too long. -/
theorem readConfigFile_ok {file : ConfigFile} :
    readConfigFile file = .ok contents ↔ file = .contents contents ∧ contents.length ≤ kMaximumDaemonConfigBytes := by
  cases file with
  | unopened | unreadable => simp [readConfigFile]
  | contents text =>
    simp only [readConfigFile, List.length_take, ConfigFile.contents.injEq]
    constructor
    · intro h
      split at h
      · cases h
      · rename_i hsize
        have hshort : text.length ≤ kMaximumDaemonConfigBytes := by omega
        have htext : text.take (kMaximumDaemonConfigBytes + 1) = contents := Except.ok.inj h
        rw [List.take_of_length_le (by omega)] at htext
        exact ⟨htext, htext ▸ hshort⟩
    · rintro ⟨rfl, hshort⟩
      rw [if_neg (by omega), List.take_of_length_le (by omega)]

/-- No key is shown twice when the keys are all different. -/
theorem duplicateKey_eq_false {seen keys : List Bytes} :
    duplicateKey seen keys = false ↔ keys.Nodup ∧ ∀ key ∈ keys, key ∉ seen := by
  induction keys generalizing seen with
  | nil => simp [duplicateKey]
  | cons key rest ih =>
    rw [duplicateKey, Bool.or_eq_false_iff, ih, List.nodup_cons]
    simp only [List.contains_eq_mem, decide_eq_false_iff_not, List.mem_cons, not_or, forall_eq_or_imp]
    constructor
    · rintro ⟨hseen, hrest, hkeys⟩
      exact ⟨⟨fun hmem => (hkeys key hmem).1 rfl, hrest⟩, hseen, fun k hk => (hkeys k hk).2⟩
    · rintro ⟨⟨hnot, hrest⟩, hseen, hkeys⟩
      refine ⟨hseen, hrest, fun k hk => ⟨?_, hkeys k hk⟩⟩
      rintro rfl
      exact hnot hk

/-- A text is accepted when it decodes to a document whose keys are shown once each. -/
theorem parseStrictJson_ok {parse : Bytes → Option ParsedDocument} : parseStrictJson parse contents = .ok root ↔
    ∃ document, parse contents = some document ∧ document.topLevelKeys.Nodup ∧ document.root = root := by
  unfold parseStrictJson
  split
  · rename_i h
    simp [h]
  · rename_i document h
    have hnodup : duplicateKey [] document.topLevelKeys = false ↔ document.topLevelKeys.Nodup := by
      simp [duplicateKey_eq_false]
    split
    · rename_i hduplicate
      simp only [h, Option.some.injEq, reduceCtorEq, false_iff]
      rintro ⟨document', rfl, hkeys, -⟩
      rw [hnodup.mpr hkeys] at hduplicate
      cases hduplicate
    · rename_i hduplicate
      simp [h, hnodup.mp (Bool.not_eq_true _ ▸ hduplicate)]

/-- No key is unknown when all of them are required ones. -/
theorem unknownKey_eq_none {members : List (Bytes × Json)} :
    unknownKey members = none ↔ ∀ key ∈ members.map (·.1), key ∈ requiredKeys.map bytes := by
  simp [unknownKey, List.find?_eq_none]

/-- A root is let through when it is an object and no key of it is unknown; it then has the required keys. -/
theorem validateKeys_ok {keyed : KeyedRoot} : validateKeys root = .ok keyed ↔
    keyed.root = root ∧ ∃ members, root = .object members ∧ ∀ key ∈ members.map (·.1), key ∈ requiredKeys.map bytes := by
  obtain ⟨root', hpresent⟩ := keyed
  cases root with
  | object members =>
    unfold validateKeys
    dsimp only
    split
    · rename_i key hunknown
      simp only [reduceCtorEq, false_iff, not_and, not_exists]
      rintro - members' he hkeys
      obtain rfl := Json.object.inj he
      rw [unknownKey_eq_none.mpr hkeys] at hunknown
      cases hunknown
    · rename_i hunknown
      have hkeys := unknownKey_eq_none.mp hunknown
      split
      · rename_i hall
        rw [Except.ok.injEq, KeyedRoot.mk.injEq]
        exact ⟨fun he => ⟨he.symm, members, rfl, hkeys⟩, fun he => he.1.symm⟩
      · rename_i hall
        simp only [reduceCtorEq, false_iff, not_and, not_exists]
        rintro rfl
        exact absurd hpresent hall
  | null | boolean _ | unsigned _ | integer _ | float _ | string _ | array _ =>
    simp [validateKeys]

/-- A required key has the value that is found for it. -/
theorem at_eq {keyed : KeyedRoot} {key : String} (h : key ∈ requiredKeys) : keyed.at key h = value ↔ keyed.root.find key = some value := by
  unfold KeyedRoot.at Json.member
  exact Option.eq_some_iff_get_eq.trans ⟨fun ⟨_, he⟩ => he, fun he => ⟨_, he⟩⟩ |>.symm

/-- The address is a string that is not empty. -/
theorem listenAddress_ok {listen : Bytes} : listenAddress value = .ok listen ↔ value = .string listen ∧ listen ≠ [] := by
  cases value with
  | string text =>
    simp only [listenAddress, List.isEmpty_iff, Json.string.injEq]
    split
    · rename_i hempty
      simp only [reduceCtorEq, false_iff, not_and, not_not]
      rintro rfl
      exact hempty
    · rename_i hne
      rw [Except.ok.injEq]
      exact ⟨fun he => ⟨he, he ▸ hne⟩, And.left⟩
  | null | boolean _ | unsigned _ | integer _ | float _ | array _ | object _ => simp [listenAddress]

/-- A symbol is a string that is not empty. -/
theorem symbolEntry_ok {field : String} {symbol : Bytes} : symbolEntry field value = .ok symbol ↔ value = .string symbol ∧ symbol ≠ [] := by
  cases value with
  | string text =>
    simp only [symbolEntry, List.isEmpty_iff, Json.string.injEq]
    split
    · rename_i hempty
      simp only [reduceCtorEq, false_iff, not_and, not_not]
      rintro rfl
      exact hempty
    · rename_i hne
      rw [Except.ok.injEq]
      exact ⟨fun he => ⟨he, he ▸ hne⟩, And.left⟩
  | null | boolean _ | unsigned _ | integer _ | float _ | array _ | object _ => simp [symbolEntry]

/-- The symbols are strings of which none is empty. -/
theorem mapM_symbolEntry_ok {field : String} {entries : List Json} {names : List Bytes} :
    entries.mapM (symbolEntry field) = .ok names ↔ entries = names.map .string ∧ [] ∉ names := by
  induction entries generalizing names with
  | nil =>
    rw [List.mapM_nil]
    constructor
    · intro h
      obtain rfl : [] = names := Except.ok.inj h
      simp
    · rintro ⟨he, -⟩
      obtain rfl := List.map_eq_nil_iff.mp he.symm
      rfl
  | cons entry rest ih =>
    rw [List.mapM_cons]
    constructor
    · intro h
      obtain ⟨symbol, hsymbol, h⟩ := exists_of_bind_ok h
      obtain ⟨others, hothers, h⟩ := exists_of_bind_ok h
      obtain rfl : symbol :: others = names := Except.ok.inj h
      obtain ⟨rfl, hne⟩ := symbolEntry_ok.mp hsymbol
      obtain ⟨rfl, hnot⟩ := ih.mp hothers
      refine ⟨rfl, fun hmem => ?_⟩
      rcases List.mem_cons.mp hmem with he | hmem
      · exact hne he.symm
      · exact hnot hmem
    · rintro ⟨he, hnot⟩
      cases names with
      | nil => cases he
      | cons symbol others =>
        obtain ⟨rfl, rfl⟩ := List.cons.inj he
        rw [List.mem_cons, not_or] at hnot
        rw [symbolEntry_ok.mpr ⟨rfl, fun h => hnot.1 h.symm⟩, ih.mpr ⟨rfl, hnot.2⟩]
        rfl

/-- The symbols are an array of strings of which none is empty. -/
theorem symbols_ok {field : String} {names : List Bytes} :
    symbols field value = .ok names ↔ value = .array (names.map .string) ∧ [] ∉ names := by
  cases value with
  | array entries => simp only [symbols, mapM_symbolEntry_ok, Json.array.injEq]
  | null | boolean _ | unsigned _ | integer _ | float _ | string _ | object _ => simp [symbols]

/-- The address is checked by both validators. -/
theorem checkListen_ok {makeAddress : Bytes → Option Address} {listen : Bytes} : checkListen makeAddress listen = .ok () ↔
    (∃ endpoint, parseListenEndpoint listen = .ok endpoint) ∧ validLoopbackListenAddress makeAddress listen false = true := by
  unfold checkListen
  split
  · rename_i h
    simp [h]
  · rename_i h
    split
    · rename_i hloopback
      simp [h, hloopback]
    · rename_i hloopback
      simp [hloopback]

/-- The keys are one to eight different ones, and are put in order. -/
theorem canonicalKeys_ok {keys canonical : List MarketKey} : canonicalKeys keys = .ok canonical ↔
    keys ≠ [] ∧ keys.length ≤ kMaximumConfiguredProducts ∧ keys.Nodup ∧ canonical = sortByKey id keys := by
  have hnodup : ((sortByKey id keys).map id).Nodup ↔ keys.Nodup := by
    rw [List.map_id]
    exact (sortByKey_perm id keys).nodup_iff
  unfold canonicalKeys
  split
  · rename_i hsize
    simp only [Bool.or_eq_true, List.isEmpty_iff, decide_eq_true_eq] at hsize
    simp only [reduceCtorEq, false_iff, not_and]
    intro hne hlength
    rcases hsize with hsize | hsize
    · exact absurd hsize hne
    · omega
  · rename_i hsize
    simp only [Bool.or_eq_true, List.isEmpty_iff, decide_eq_true_eq, not_or, not_lt] at hsize
    split
    · rename_i hduplicate
      simp only [reduceCtorEq, false_iff, not_and]
      intro _ _ hkeys
      rw [adjacentDuplicate_eq_false.mpr (adjacent_of_nodup (hnodup.mpr hkeys))] at hduplicate
      cases hduplicate
    · rename_i hduplicate
      rw [Bool.not_eq_true, adjacentDuplicate_eq_false] at hduplicate
      have hkeys := hnodup.mp (nodup_of_adjacent (sortByKey_sorted _ _) hduplicate)
      simp [hsize, hkeys, eq_comm]

/-- The keys are different when the symbols of each market are. -/
theorem configuredKeys_nodup {spot usdm : List Bytes} : (configuredKeys spot usdm).Nodup ↔ spot.Nodup ∧ usdm.Nodup := by
  unfold configuredKeys
  rw [List.nodup_append, List.nodup_map_iff (fun a b h => by simpa using h), List.nodup_map_iff (fun a b h => by simpa using h)]
  refine ⟨fun h => ⟨h.1, h.2.1⟩, fun h => ⟨h.1, h.2, ?_⟩⟩
  intro a ha b hb
  obtain ⟨x, -, rfl⟩ := List.mem_map.mp ha
  obtain ⟨y, -, rfl⟩ := List.mem_map.mp hb
  simp

/-- With a value seen, another argument is refused. -/
theorem configPath_seen {value : Bytes} {arguments : List Bytes} :
    configPath (some value) arguments = .ok path ↔ arguments = [] ∧ value = path := by
  cases arguments with
  | nil => simp [configPath]
  | cons option rest =>
    by_cases hoption : option = bytes "--config"
    · cases rest <;> simp [configPath, hoption]
    · cases rest <;> simp [configPath, hoption]

/-- The command line names a path and nothing else. -/
theorem configPath_ok {arguments : List Bytes} :
    configPath none arguments = .ok path ↔ arguments = [bytes "--config", path] ∧ path ≠ [] := by
  cases arguments with
  | nil => simp [configPath]
  | cons option rest =>
    by_cases hoption : option = bytes "--config"
    · subst hoption
      cases rest with
      | nil => simp [configPath]
      | cons value rest =>
        by_cases hvalue : value = []
        · subst hvalue
          have hrefused : configPath none (bytes "--config" :: [] :: rest) =
              .error (configError "missing value for option: --config") := by simp [configPath]
          rw [hrefused]
          simp only [reduceCtorEq, List.cons.injEq, true_and, false_iff, not_and, not_not]
          rintro ⟨rfl, -⟩
          rfl
        · have htaken : configPath none (bytes "--config" :: value :: rest) = configPath (some value) rest := by
            simp [configPath, hvalue]
          rw [htaken, configPath_seen]
          constructor
          · rintro ⟨rfl, rfl⟩
            exact ⟨rfl, hvalue⟩
          · rintro ⟨he, -⟩
            simp only [List.cons.injEq, true_and] at he
            exact ⟨he.2, he.1⟩
    · have hunknown : configPath none (option :: rest) = .error ⟨bytes "unknown option: " ++ option⟩ := by
        cases rest <;> simp [configPath, hoption]
      simp [hunknown, hoption]

end

/-! ## What a configuration is read from -/

/-- The document of a configuration: an object with the three keys, each once, an address to listen at that both validators accept, and
one to eight symbols, none of them empty and none twice for one market. -/
structure Describes (makeAddress : Bytes → Option Address) (document : ParsedDocument) (spot usdm : List Bytes) (config : DaemonConfig) :
    Prop where
  keys : document.topLevelKeys.Perm (requiredKeys.map bytes)
  listen : document.root.find "grpc_listen" = some (.string config.grpcListen)
  spotSymbols : document.root.find "spot_symbols" = some (.array (spot.map .string))
  usdmSymbols : document.root.find "usdm_symbols" = some (.array (usdm.map .string))
  endpoint : ∃ endpoint, parseListenEndpoint config.grpcListen = .ok endpoint
  loopback : validLoopbackListenAddress makeAddress config.grpcListen false = true
  named : [] ∉ spot ∧ [] ∉ usdm
  count : 0 < spot.length + usdm.length ∧ spot.length + usdm.length ≤ kMaximumConfiguredProducts
  distinct : spot.Nodup ∧ usdm.Nodup
  canonical : config.marketKeys = sortByKey id (configuredKeys spot usdm)

variable {w : DaemonSurroundings} {path : Bytes} {config : DaemonConfig}

/-- An object contains the keys of its members. -/
theorem contains_iff {members : List (Bytes × Json)} {key : String} :
    (Json.object members).contains key = true ↔ bytes key ∈ members.map (·.1) := by
  unfold Json.contains Json.find
  dsimp only
  rw [List.lookup_isSome_iff, List.mem_map]
  refine exists_congr fun entry => and_congr_right fun _ => ?_
  rw [beq_iff_eq, eq_comm]

/-- The keys of an object that is let through are the required ones. -/
theorem shown_keys (hshow : ShowsKeys w.parse) {contents : Bytes} {document : ParsedDocument} {members : List (Bytes × Json)}
    (hparse : w.parse contents = some document) (hroot : document.root = .object members) (hnodup : document.topLevelKeys.Nodup)
    (hknown : ∀ key ∈ members.map (·.1), key ∈ requiredKeys.map bytes)
    (hpresent : ∀ key ∈ requiredKeys, document.root.contains key = true) : document.topLevelKeys.Perm (requiredKeys.map bytes) := by
  obtain ⟨-, hmembers⟩ := hshow contents document members hparse hroot
  refine (List.perm_ext_iff_of_nodup hnodup (by decide)).mpr fun key => ?_
  rw [← hmembers key]
  refine ⟨hknown key, fun hkey => ?_⟩
  obtain ⟨name, hname, rfl⟩ := List.mem_map.mp hkey
  have hcontains := hpresent name hname
  rw [hroot] at hcontains
  exact contains_iff.mp hcontains

/-- A configuration is loaded just when the file describes it. -/
theorem loadDaemonConfig_ok (hshow : ShowsKeys w.parse) : loadDaemonConfig w path = .ok config ↔
    ∃ contents document spot usdm, w.files path = .contents contents ∧ contents.length ≤ kMaximumDaemonConfigBytes ∧
      w.parse contents = some document ∧ Describes w.makeAddress document spot usdm config := by
  constructor
  · intro h
    obtain ⟨contents, hcontents, h⟩ := exists_of_bind_ok h
    obtain ⟨root, hroot, h⟩ := exists_of_bind_ok h
    obtain ⟨keyed, hkeyed, h⟩ := exists_of_bind_ok h
    obtain ⟨listen, hlisten, h⟩ := exists_of_bind_ok h
    obtain ⟨_, hcheck, h⟩ := exists_of_bind_ok h
    obtain ⟨spot, hspot, h⟩ := exists_of_bind_ok h
    obtain ⟨usdm, husdm, h⟩ := exists_of_bind_ok h
    obtain ⟨keys, hkeys, h⟩ := exists_of_bind_ok h
    obtain rfl : (⟨listen, keys⟩ : DaemonConfig) = config := Except.ok.inj h
    obtain ⟨hfile, hlength⟩ := readConfigFile_ok.mp hcontents
    obtain ⟨document, hparse, hnodup, rfl⟩ := parseStrictJson_ok.mp hroot
    obtain ⟨hsame, members, hobject, hknown⟩ := validateKeys_ok.mp hkeyed
    obtain ⟨hlisten, -⟩ := listenAddress_ok.mp hlisten
    obtain ⟨hspot, hspotNamed⟩ := symbols_ok.mp hspot
    obtain ⟨husdm, husdmNamed⟩ := symbols_ok.mp husdm
    obtain ⟨hendpoint, hloopback⟩ := checkListen_ok.mp hcheck
    obtain ⟨hne, hcount, hdistinct, rfl⟩ := canonicalKeys_ok.mp hkeys
    rw [at_eq, hsame] at hlisten hspot husdm
    have hpresent : ∀ key ∈ requiredKeys, document.root.contains key = true := hsame ▸ keyed.present
    have hlengths : (configuredKeys spot usdm).length = spot.length + usdm.length := by simp [configuredKeys]
    refine ⟨contents, document, spot, usdm, hfile, hlength, hparse, shown_keys hshow hparse hobject hnodup hknown hpresent, hlisten, hspot,
      husdm, hendpoint, hloopback, ⟨hspotNamed, husdmNamed⟩, ⟨?_, hlengths ▸ hcount⟩, configuredKeys_nodup.mp hdistinct, rfl⟩
    rw [← hlengths]
    exact List.length_pos_iff.mpr hne
  · rintro ⟨contents, document, spot, usdm, hfile, hlength, hparse, hd⟩
    have hnodup : document.topLevelKeys.Nodup := hd.keys.nodup_iff.mpr (by decide)
    obtain ⟨members, hobject⟩ : ∃ members, document.root = .object members := by
      have hfound := hd.listen
      cases hroot : document.root with
      | object members => exact ⟨members, rfl⟩
      | null | boolean _ | unsigned _ | integer _ | float _ | string _ | array _ =>
        rw [hroot] at hfound
        cases hfound
    obtain ⟨-, hmembers⟩ := hshow contents document members hparse hobject
    have hknown : ∀ key ∈ members.map (·.1), key ∈ requiredKeys.map bytes := fun key hkey =>
      hd.keys.mem_iff.mp ((hmembers key).mp hkey)
    have hpresent : ∀ key ∈ requiredKeys, document.root.contains key = true := by
      intro key hkey
      rw [hobject, contains_iff, hmembers]
      exact hd.keys.mem_iff.mpr (List.mem_map_of_mem hkey)
    have hlisten : config.grpcListen ≠ [] := by
      intro hempty
      obtain ⟨endpoint, hendpoint⟩ := hd.endpoint
      rw [hempty] at hendpoint
      cases hendpoint
    have hlengths : (configuredKeys spot usdm).length = spot.length + usdm.length := by simp [configuredKeys]
    have hkeys : canonicalKeys (configuredKeys spot usdm) = .ok config.marketKeys :=
      canonicalKeys_ok.mpr ⟨List.length_pos_iff.mp (hlengths ▸ hd.count.1), hlengths ▸ hd.count.2, configuredKeys_nodup.mpr hd.distinct,
        hd.canonical⟩
    have hkeyed : validateKeys document.root = .ok ⟨document.root, hpresent⟩ := validateKeys_ok.mpr ⟨rfl, members, hobject, hknown⟩
    unfold loadDaemonConfig
    rw [readConfigFile_ok.mpr ⟨hfile, hlength⟩]
    dsimp only [bind, Except.bind]
    rw [parseStrictJson_ok.mpr ⟨document, hparse, hnodup, rfl⟩]
    dsimp only
    rw [hkeyed]
    dsimp only
    rw [listenAddress_ok.mpr ⟨(at_eq _).mpr hd.listen, hlisten⟩]
    dsimp only
    rw [checkListen_ok.mpr ⟨hd.endpoint, hd.loopback⟩]
    dsimp only
    rw [symbols_ok.mpr ⟨(at_eq _).mpr hd.spotSymbols, hd.named.1⟩]
    dsimp only
    rw [symbols_ok.mpr ⟨(at_eq _).mpr hd.usdmSymbols, hd.named.2⟩]
    dsimp only
    rw [hkeys]
    rfl

/-- A configuration is parsed just when the command line names a file that describes it. -/
theorem parseDaemonConfig_config (hshow : ShowsKeys w.parse) {arguments : List Bytes} : parseDaemonConfig w arguments = .config config ↔
    ∃ path contents document spot usdm, arguments = [bytes "--config", path] ∧ path ≠ [] ∧ w.files path = .contents contents ∧
      contents.length ≤ kMaximumDaemonConfigBytes ∧ w.parse contents = some document ∧
      Describes w.makeAddress document spot usdm config := by
  unfold parseDaemonConfig
  split
  · rename_i hhelp
    simp [hhelp]
  · split
    · rename_i error hpath
      simp only [reduceCtorEq, false_iff]
      rintro ⟨path, contents, document, spot, usdm, harguments, hne, -⟩
      rw [configPath_ok.mpr ⟨harguments, hne⟩] at hpath
      cases hpath
    · rename_i path hpath
      obtain ⟨rfl, hne⟩ := configPath_ok.mp hpath
      have hload : (∃ path' contents document spot usdm, [bytes "--config", path] = [bytes "--config", path'] ∧ path' ≠ [] ∧
          w.files path' = .contents contents ∧ contents.length ≤ kMaximumDaemonConfigBytes ∧ w.parse contents = some document ∧
          Describes w.makeAddress document spot usdm config) ↔ loadDaemonConfig w path = .ok config := by
        rw [loadDaemonConfig_ok hshow]
        constructor
        · rintro ⟨path', contents, document, spot, usdm, harguments, -, h⟩
          obtain rfl : path = path' := by simpa using harguments
          exact ⟨contents, document, spot, usdm, h⟩
        · rintro ⟨contents, document, spot, usdm, h⟩
          exact ⟨path, contents, document, spot, usdm, rfl, hne, h⟩
      rw [hload]
      split
      · rename_i error herror
        simp [herror]
      · rename_i config' hconfig
        simp [hconfig]

/-! ## What a configuration is good for -/

section

variable {makeAddress : Bytes → Option Address} {document document' : ParsedDocument} {spot spot' usdm usdm' : List Bytes}
  {config' : DaemonConfig}

/-- The configured keys are those of the two lists, in another order. -/
theorem Describes.perm (h : Describes makeAddress document spot usdm config) : config.marketKeys.Perm (configuredKeys spot usdm) := by
  rw [h.canonical]
  exact sortByKey_perm _ _

/-- The configured keys are different. -/
theorem Describes.nodup (h : Describes makeAddress document spot usdm config) : config.marketKeys.Nodup :=
  h.perm.nodup_iff.mpr (configuredKeys_nodup.mpr h.distinct)

/-- The configured keys are strictly sorted. -/
theorem Describes.sorted (h : Describes makeAddress document spot usdm config) :
    config.marketKeys.Pairwise fun a b => marketKeyLess a b = true := by
  have hsorted : Sorted id config.marketKeys := by
    rw [h.canonical]
    exact sortByKey_sorted _ _
  refine (hsorted.and h.nodup).imp fun {a b} hab => ?_
  rw [marketKeyLess_iff]
  exact lt_of_le_of_ne ((not_less_iff _ _).mp hab.1) fun heq => hab.2 (rank_injective heq)

/-- There are one to eight configured keys. -/
theorem Describes.length (h : Describes makeAddress document spot usdm config) :
    0 < config.marketKeys.length ∧ config.marketKeys.length ≤ kMaximumConfiguredProducts := by
  rw [h.perm.length_eq]
  simpa [configuredKeys] using h.count

/-- The order in which the symbols are listed does not matter. -/
theorem Describes.order (h : Describes makeAddress document spot usdm config) (h' : Describes makeAddress document' spot' usdm' config')
    (hlisten : config.grpcListen = config'.grpcListen) (hspot : spot.Perm spot') (husdm : usdm.Perm usdm') : config = config' := by
  have hkeys : config.marketKeys = config'.marketKeys := by
    rw [h.canonical, h'.canonical]
    exact sortByKey_keys_congr ((hspot.map _).append (husdm.map _))
  obtain ⟨listen, keys⟩ := config
  obtain ⟨listen', keys'⟩ := config'
  rw [DaemonConfig.mk.injEq]
  exact ⟨hlisten, hkeys⟩

/-- Once the metadata of its keys has been acquired, the set of products is made, in the order of the keys. -/
theorem Describes.products (h : Describes makeAddress document spot usdm config) {d : Decoding} {sources : MetadataSources}
    {metadata : ProductionMetadata d.maximum} (hmetadata : acquireProductionMetadata d config.marketKeys sources = .ok metadata) :
    ∃ products, configureProducts d config.marketKeys sources = .ok products ∧ products.owners.map (·.key) = config.marketKeys := by
  obtain ⟨products, hproducts, hroutes⟩ :=
    configureProducts_routes (List.length_pos_iff.mp h.length.1) h.length.2 h.nodup hmetadata
  refine ⟨products, hproducts, List.Perm.eq_of_pairwise (fun a b _ _ hab hba => ?_) (List.pairwise_map.mpr hroutes.sorted) h.sorted
    hroutes.keys⟩
  rw [marketKeyLess_iff] at hab hba
  exact absurd hab (lt_asymm hba)

end

/-- A command line gives a configuration exactly when it names a file whose text is the document of that configuration. The configured
products are in their order, each once, one to eight of them, whatever order the symbols are listed in; and the set of products is never
refused for them. -/
theorem daemon_configuration_is_exact (hshow : ShowsKeys w.parse) (arguments : List Bytes) (config : DaemonConfig) :
    (parseDaemonConfig w arguments = .config config ↔
      ∃ path contents document spot usdm, arguments = [bytes "--config", path] ∧ path ≠ [] ∧ w.files path = .contents contents ∧
        contents.length ≤ kMaximumDaemonConfigBytes ∧ w.parse contents = some document ∧
        Describes w.makeAddress document spot usdm config) ∧
    (parseDaemonConfig w arguments = .config config →
      (config.marketKeys.Pairwise fun a b => marketKeyLess a b = true) ∧
      0 < config.marketKeys.length ∧ config.marketKeys.length ≤ kMaximumConfiguredProducts ∧
      ∀ d sources metadata, acquireProductionMetadata d config.marketKeys sources = .ok metadata →
        ∃ products, configureProducts d config.marketKeys sources = .ok products ∧
          products.owners.map (·.key) = config.marketKeys) ∧
    ∀ document document' spot spot' usdm usdm' config', Describes w.makeAddress document spot usdm config →
      Describes w.makeAddress document' spot' usdm' config' → config.grpcListen = config'.grpcListen → spot.Perm spot' →
      usdm.Perm usdm' → config = config' := by
  refine ⟨parseDaemonConfig_config hshow, fun h => ?_, fun document document' spot spot' usdm usdm' config' hd hd' => hd.order hd'⟩
  obtain ⟨path, contents, document, spot, usdm, -, -, -, -, -, hd⟩ := (parseDaemonConfig_config hshow).mp h
  exact ⟨hd.sorted, hd.length.1, hd.length.2, fun d sources metadata hmetadata => hd.products hmetadata⟩

/-! ## A configuration with both markets -/

def sampleText : Bytes :=
  bytes "\x7b\"grpc_listen\":\"127.0.0.1:50051\",\"spot_symbols\":[\"ETHUSDT\",\"BTCUSDT\"],\"usdm_symbols\":[\"BTCUSDT\"]\x7d"

def sampleDocument : ParsedDocument where
  root := .object
    [(bytes "grpc_listen", .string (bytes "127.0.0.1:50051")),
      (bytes "spot_symbols", .array [.string (bytes "ETHUSDT"), .string (bytes "BTCUSDT")]),
      (bytes "usdm_symbols", .array [.string (bytes "BTCUSDT")])]
  topLevelKeys := requiredKeys.map bytes

def sampleSurroundings : DaemonSurroundings where
  files path := if path = bytes "daemon.json" then .contents sampleText else .unopened
  parse text := if text = sampleText then some sampleDocument else none
  makeAddress host := if host = bytes "127.0.0.1" then some ⟨false, true⟩ else none

def sampleConfig : DaemonConfig where
  grpcListen := bytes "127.0.0.1:50051"
  marketKeys := [⟨.binance, .spot, bytes "BTCUSDT"⟩, ⟨.binance, .spot, bytes "ETHUSDT"⟩, ⟨.binance, .usdMPerpetual, bytes "BTCUSDT"⟩]

/-- The sample document describes the sample configuration. -/
theorem sample_described : Describes sampleSurroundings.makeAddress sampleDocument [bytes "ETHUSDT", bytes "BTCUSDT"]
    [bytes "BTCUSDT"] sampleConfig where
  keys := .refl _
  listen := rfl
  spotSymbols := rfl
  usdmSymbols := rfl
  endpoint := ⟨_, rfl⟩
  loopback := by decide +kernel
  named := by decide
  count := by decide
  distinct := by decide +kernel
  canonical := by decide +kernel

/-- The sample file gives the sample configuration. -/
theorem daemon_configuration_is_exact_sample :
    parseDaemonConfig sampleSurroundings [bytes "--config", bytes "daemon.json"] = .config sampleConfig ∧
      ∃ path contents document spot usdm, [bytes "--config", bytes "daemon.json"] = [bytes "--config", path] ∧ path ≠ [] ∧
        sampleSurroundings.files path = .contents contents ∧ contents.length ≤ kMaximumDaemonConfigBytes ∧
        sampleSurroundings.parse contents = some document ∧
        Describes sampleSurroundings.makeAddress document spot usdm sampleConfig := by
  have hshow : ShowsKeys sampleSurroundings.parse := by
    intro text document members hparse hroot
    have hdocument : document = sampleDocument := by
      simp only [sampleSurroundings] at hparse
      split at hparse
      · exact (Option.some.inj hparse).symm
      · cases hparse
    subst hdocument
    obtain rfl := Json.object.inj hroot
    exact ⟨by decide, fun key => Iff.rfl⟩
  have hlength : sampleText.length ≤ kMaximumDaemonConfigBytes := (length_bytes _).trans_le (by decide)
  have hfile : sampleSurroundings.files (bytes "daemon.json") = .contents sampleText := by
    simp only [sampleSurroundings, if_true]
  have hparse : sampleSurroundings.parse sampleText = some sampleDocument := by
    simp only [sampleSurroundings, if_true]
  have hconfig := (daemon_configuration_is_exact hshow [bytes "--config", bytes "daemon.json"] sampleConfig).1.mpr
    ⟨bytes "daemon.json", sampleText, sampleDocument, _, _, rfl, by decide, hfile, hlength, hparse, sample_described⟩
  exact ⟨hconfig, (daemon_configuration_is_exact hshow _ sampleConfig).1.mp hconfig⟩

end MarketDataGateway.Daemon
