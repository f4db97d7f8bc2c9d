import MarketDataGateway.Protocol.Quantum

/-!
# Decoded payloads

A payload as a JSON value, and the fields that the protocol reads from it. How a text is decoded is the JSON library's.
-/

namespace MarketDataGateway.Protocol

open Ascii

/-- A value of the JSON library; a number is kept as unsigned where it is a whole one that fits. -/
inductive Json where
  | null
  | boolean (value : Bool)
  | unsigned (value : UInt64)
  | integer (value : Int64)
  | float (bits : UInt64)
  | string (value : Bytes)
  | array (items : List Json)
  | object (members : List (Bytes × Json))

namespace Json

def isObject : Json → Bool
  | object _ => true
  | _ => false

def find (value : Json) (name : String) : Option Json :=
  match value with
  | object members => members.lookup (bytes name)
  | _ => none

def contains (value : Json) (name : String) : Bool := (value.find name).isSome

/-- The member of a name that is there. -/
def member (value : Json) (name : String) (h : value.contains name = true) : Json := (value.find name).get h

end Json

def hasRequiredKeys (value : Json) (expected : List String) : Bool := value.isObject && expected.all value.contains

def unsignedField (object : Json) (name : String) : Option UInt64 :=
  match object.find name with
  | some (.unsigned value) => some value
  | _ => none

def stringField (object : Json) (name : String) : Option Bytes :=
  match object.find name with
  | some (.string value) => some value
  | _ => none

def booleanField (object : Json) (name : String) : Option Bool :=
  match object.find name with
  | some (.boolean value) => some value
  | _ => none

/-- Why the library gave no value. -/
inductive DecodeFailure where
  | discarded | threw
  deriving DecidableEq, Repr

def parseJson (decode : Bytes → Except DecodeFailure Json) (payload : Bytes) : Except ProtocolError Json :=
  match decode payload with
  | .ok parsed => .ok parsed
  | .error .discarded => .error ⟨.invalidJson, "payload", "payload is not valid JSON"⟩
  | .error .threw => .error ⟨.invalidJson, "payload", "payload could not be decoded"⟩

/-- A step that went well leaves a value for the next one. -/
theorem exists_of_bind_ok {ε α β : Type} {x : Except ε α} {f : α → Except ε β} {b : β} (h : (x >>= f) = .ok b) :
    ∃ a, x = .ok a ∧ f a = .ok b := by
  cases x with
  | error e => cases h
  | ok a => exact ⟨a, rfl, h⟩

variable {value : Json} {name : String}

/-- A number is found when the member is one. -/
theorem unsignedField_eq_some {n : UInt64} : unsignedField value name = some n ↔ value.find name = some (.unsigned n) := by
  unfold unsignedField
  split
  · rename_i h
    simp [h]
  · rename_i h
    simp only [reduceCtorEq, false_iff]
    exact h n

/-- A string is found when the member is one. -/
theorem stringField_eq_some {text : Bytes} : stringField value name = some text ↔ value.find name = some (.string text) := by
  unfold stringField
  split
  · rename_i h
    simp [h]
  · rename_i h
    simp only [reduceCtorEq, false_iff]
    exact h text

/-- A flag is found when the member is one. -/
theorem booleanField_eq_some {b : Bool} : booleanField value name = some b ↔ value.find name = some (.boolean b) := by
  unfold booleanField
  split
  · rename_i h
    simp [h]
  · rename_i h
    simp only [reduceCtorEq, false_iff]
    exact h b

/-- Only objects have members. -/
theorem isObject_of_find {found : Json} (h : value.find name = some found) : value.isObject = true := by
  cases value with
  | object => rfl
  | _ => cases h

/-- A value whose members are there has the required keys. -/
theorem hasRequiredKeys_iff {expected : List String} :
    hasRequiredKeys value expected = true ↔ value.isObject = true ∧ ∀ name ∈ expected, (value.find name).isSome = true := by
  simp [hasRequiredKeys, Json.contains]

/-- A value with the required keys contains each of them. -/
theorem contains_of_required {expected : List String} (h : hasRequiredKeys value expected = true) (hname : name ∈ expected) :
    value.contains name = true := by
  simp only [hasRequiredKeys, Bool.and_eq_true, List.all_eq_true] at h
  exact h.2 name hname

/-- A member that is contained is found. -/
theorem Json.find_member (h : value.contains name = true) : value.find name = some (value.member name h) := by
  unfold Json.member
  exact (Option.some_get h).symm

end MarketDataGateway.Protocol
