import MarketDataGateway.Config.Endpoint

/-!
# Validation of a configuration

The checks of `validate_config` in their order. What comes out of it is a configuration together with what was checked, so that one
that was not checked cannot be handed on.
-/

namespace MarketDataGateway.Config

open Ascii (Bytes)

/-- Any byte can stand where the enumeration names one venue. -/
inductive Venue where
  | binance
  | other (value : UInt8)
  deriving DecidableEq, Repr

inductive Market where
  | spot | usdMPerpetual
  | other (value : UInt8)
  deriving DecidableEq, Repr

structure GatewayConfig where
  venue : Venue
  market : Market
  symbol : Bytes
  grpcListen : ListenEndpoint
  queueCapacity : UInt32
  deriving DecidableEq, Repr

/-- The market is one of those that the gateway knows. -/
def Supported (config : GatewayConfig) : Prop :=
  config.venue = .binance ∧ (config.market = .spot ∨ config.market = .usdMPerpetual)

instance (config : GatewayConfig) : Decidable (Supported config) := inferInstanceAs (Decidable (_ ∧ _))

/-- What every configuration that is handed on satisfies. -/
structure Valid (config : GatewayConfig) : Prop where
  supported : Supported config
  symbol : validSymbol config.symbol = .ok true
  queueCapacity : config.queueCapacity ≠ 0
  host : validHostToken config.grpcListen.host = true
  port : config.grpcListen.port ≠ 0

structure ValidatedGatewayConfig where
  value : GatewayConfig
  valid : Valid value

abbrev ConfigResult := Except ConfigError ValidatedGatewayConfig

def invalidVenue : ConfigError := ⟨.invalidVenue, "venue", "only binance is supported"⟩

def invalidMarket : ConfigError := ⟨.invalidMarket, "market", "market must be spot or usd-m-perpetual"⟩

def invalidSymbol : ConfigError :=
  ⟨.invalidSymbol, "symbol", "symbol must be a non-empty strict UTF-8 scalar identity without ASCII C0/whitespace or DEL bytes"⟩

def invalidQueueCapacity : ConfigError := ⟨.invalidQueueCapacity, "queue-capacity", "queue capacity must be greater than zero"⟩

def validateEndpoint (config : GatewayConfig) (hsupported : Supported config) (hsymbol : validSymbol config.symbol = .ok true)
    (hcapacity : config.queueCapacity ≠ 0) : ConfigResult :=
  if h : !validHostToken config.grpcListen.host || config.grpcListen.port = 0 then
    .error (endpointError "endpoint must contain a non-empty safe ASCII host token and port")
  else
    .ok ⟨config, hsupported, hsymbol, hcapacity, by simp at h; exact h.1, by simp at h; exact h.2⟩

def validateConfig (config : GatewayConfig) : Except OutOfRange ConfigResult :=
  if hvenue : config.venue ≠ .binance then .ok (.error invalidVenue)
  else if hmarket : config.market ≠ .spot ∧ config.market ≠ .usdMPerpetual then .ok (.error invalidMarket)
  else
    match hsymbol : validSymbol config.symbol with
    | .error offset => .error offset
    | .ok false => .ok (.error invalidSymbol)
    | .ok true =>
      if hcapacity : config.queueCapacity = 0 then .ok (.error invalidQueueCapacity)
      else .ok (validateEndpoint config ⟨not_not.mp hvenue, by simpa [or_iff_not_imp_left] using hmarket⟩ hsymbol hcapacity)

/-- The endpoint is the last check, and it never blames the symbol. -/
theorem validateEndpoint_code {config : GatewayConfig} {hs : Supported config} {hsymbol : validSymbol config.symbol = .ok true}
    {hc : config.queueCapacity ≠ 0} {e : ConfigError} (h : validateEndpoint config hs hsymbol hc = .error e) :
    e.code = .invalidEndpoint := by
  unfold validateEndpoint at h
  split at h
  · cases h
    rfl
  · cases h

/-- Of a supported configuration, what is said about the symbol is what the scanner found. -/
theorem validateConfig_supported {config : GatewayConfig} {accepted : Bool} (hs : Supported config)
    (h : validSymbol config.symbol = .ok accepted) :
    ∃ result, validateConfig config = .ok result ∧
      ((∃ e, result = .error e ∧ e.code = .invalidSymbol) ↔ accepted = false) := by
  unfold validateConfig
  rw [dif_neg (not_not.mpr hs.1), dif_neg (by simpa [or_iff_not_imp_left] using hs.2)]
  split
  · rename_i offset hsymbol
    cases hsymbol.symm.trans h
  · rename_i hsymbol
    cases hsymbol.symm.trans h
    exact ⟨_, rfl, by simp [invalidSymbol]⟩
  · rename_i hsymbol
    cases hsymbol.symm.trans h
    split
    · exact ⟨_, rfl, by simp [invalidQueueCapacity]⟩
    · refine ⟨_, rfl, ?_⟩
      simp only [Bool.true_eq_false, iff_false, not_exists, not_and]
      intro e he
      rw [validateEndpoint_code he]
      decide

/-- Of any other configuration, nothing is said about the symbol. -/
theorem validateConfig_unsupported {config : GatewayConfig} (hs : ¬Supported config) :
    ∃ e, validateConfig config = .ok (.error e) ∧ e.code ≠ .invalidSymbol := by
  unfold validateConfig
  split
  · exact ⟨_, rfl, by decide⟩
  · rename_i hvenue
    split
    · exact ⟨_, rfl, by decide⟩
    · rename_i hmarket
      exact absurd ⟨not_not.mp hvenue, by simpa [or_iff_not_imp_left] using hmarket⟩ hs

/-- For every byte string the scanner comes to an end without a read past the end of it, it accepts the strict UTF-8 identities and
nothing else, and a configuration is turned down for its symbol when the symbol is not one of them. -/
theorem symbols_are_strict_utf8_identities (config : GatewayConfig) :
    ∃ accepted result, validSymbol config.symbol = .ok accepted ∧ (accepted = true ↔ Identity config.symbol) ∧
      validateConfig config = .ok result ∧
      ((∃ e, result = .error e ∧ e.code = .invalidSymbol) ↔ Supported config ∧ ¬Identity config.symbol) ∧
      ∀ validated, result = .ok validated → Identity config.symbol := by
  obtain ⟨accepted, hok, hiff⟩ := validSymbol_spec config.symbol
  by_cases hs : Supported config
  · obtain ⟨result, hresult, hsymbol⟩ := validateConfig_supported hs hok
    refine ⟨accepted, result, hok, hiff, hresult, ?_, ?_⟩
    · rw [hsymbol, ← hiff, Bool.not_eq_true]
      exact (and_iff_right hs).symm
    · rintro validated rfl
      rw [← hiff]
      have hnot := mt hsymbol.mpr (by simp)
      simpa using hnot
  · obtain ⟨e, hresult, hcode⟩ := validateConfig_unsupported hs
    refine ⟨accepted, _, hok, hiff, hresult, ?_, ?_⟩
    · constructor
      · rintro ⟨e', he, hcode'⟩
        cases he
        exact absurd hcode' hcode
      · rintro ⟨h, -⟩
        exact absurd h hs
    · intro validated he
      cases he

end MarketDataGateway.Config
