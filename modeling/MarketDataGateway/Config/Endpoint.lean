import MarketDataGateway.Config.Symbol

/-!
# Listen addresses

The two validators of the address that the server listens at: one splits a configured endpoint into host and port, the other one asks
whether the host is a numeric loopback address. What the network library makes of a host is a parameter.
-/

namespace MarketDataGateway.Config

open Ascii

inductive ConfigErrorCode where
  | invalidVenue | invalidMarket | invalidSymbol | invalidEndpoint | invalidQueueCapacity
  deriving DecidableEq, Repr

structure ConfigError where
  code : ConfigErrorCode
  field : String
  message : String
  deriving DecidableEq, Repr

structure ListenEndpoint where
  host : Bytes
  port : UInt16
  deriving DecidableEq, Repr

/-! ## The configured endpoint -/

def kMaxHostLength : Nat := 253

def isHostCharacter (byte : UInt8) : Bool :=
  (code 'a' ≤ byte && byte ≤ code 'z') || (code 'A' ≤ byte && byte ≤ code 'Z') || isDigit byte || byte = code '.' ||
    byte = code '-' || byte = code ':'

def validHostToken (value : Bytes) : Bool :=
  if value.isEmpty || kMaxHostLength < value.length then false else value.all isHostCharacter

def endpointError (message : String) : ConfigError := ⟨.invalidEndpoint, "grpc-listen", message⟩

def parsePort (host port : Bytes) : Except ConfigError ListenEndpoint :=
  if !validHostToken host || port.isEmpty then
    .error (endpointError "endpoint must contain a non-empty safe ASCII host token and port")
  else
    match fromChars port with
    | some (number, []) =>
      if number = 0 || 65535 < number then .error (endpointError "port must be an integer in the range 1..65535")
      else .ok ⟨host, UInt16.ofNat number⟩
    | _ => .error (endpointError "port must be an integer in the range 1..65535")

def parseListenEndpoint (value : Bytes) : Except ConfigError ListenEndpoint :=
  match value with
  | [] => .error (endpointError "endpoint is required")
  | front :: _ =>
    if front = code '[' then
      match find (code ']') value with
      | none => .error (endpointError "IPv6 endpoints must use [host]:port")
      | some closeBracket =>
        if value[closeBracket + 1]? ≠ some (code ':') then .error (endpointError "IPv6 endpoints must use [host]:port")
        else parsePort ((value.drop 1).take (closeBracket - 1)) (value.drop (closeBracket + 2))
    else
      match rfind (code ':') value with
      | none => .error (endpointError "endpoint must use host:port or [ipv6]:port")
      | some colon =>
        if find (code ':') value ≠ some colon then .error (endpointError "endpoint must use host:port or [ipv6]:port")
        else parsePort (value.take colon) (value.drop (colon + 1))

/-! ## The loopback address -/

/-- What is asked of an address of the network library. -/
structure Address where
  isV6 : Bool
  isLoopback : Bool
  deriving DecidableEq, Repr

/-- A listen address taken apart at its last colon; the host is without its brackets. -/
structure ListenParts where
  host : Bytes
  bracketed : Bool
  port : Bytes
  deriving DecidableEq, Repr

def listenParts (address : Bytes) : Option ListenParts :=
  match rfind (code ':') address with
  | none => none
  | some colon =>
    let host := address.take colon
    let bracketed := host.head? = some (code '[') && host.getLast? = some (code ']')
    some ⟨if bracketed then (host.drop 1).take (host.length - 2) else host, bracketed, address.drop (colon + 1)⟩

/-- `makeAddress` is the network library's. -/
def validLoopbackListenAddress (makeAddress : Bytes → Option Address) (address : Bytes) (allowEphemeralPort : Bool) : Bool :=
  match listenParts address with
  | none => false
  | some parts =>
    match fromChars parts.port with
    | some (number, []) =>
      if 65535 < number || (number = 0 && !allowEphemeralPort) || (find (code '%') parts.host).isSome then false
      else
        match makeAddress parts.host with
        | none => false
        | some ip => ip.isLoopback && parts.bracketed == ip.isV6
    | _ => false

end MarketDataGateway.Config
