import MarketDataGateway.Config.Endpoint
import MarketDataGateway.Lib.IpLiteral

/-!
# Where the two listen validators agree

Every address that the loopback validator accepts is taken apart in the same way by the endpoint parser, as long as it has no NUL byte:
the network library reads a host up to the first one, so what stands behind it is never looked at.
-/

namespace MarketDataGateway.Config

open Ascii IpLiteral

/-- What the network library promises about the texts that it reads. -/
structure MakeAddress (makeAddress : Bytes → Option Address) : Prop where
  reads : ∀ text, makeAddress text = makeAddress (text.takeWhile (· ≠ 0))
  accepts : ∀ text, 0 ∉ text → code '%' ∉ text → ((makeAddress text).isSome = true ↔ V4 text ∨ V6 text)
  family : ∀ text ip, 0 ∉ text → code '%' ∉ text → makeAddress text = some ip → (ip.isV6 = true ↔ V6 text)

/-- The endpoint parser finds the same host and the same port as the loopback validator, and the port can be listened at. -/
def Agree (address : Bytes) : Prop :=
  ∃ parts number, listenParts address = some parts ∧ fromChars parts.port = some (number, []) ∧ 1 ≤ number ∧ number ≤ 65535 ∧
    parseListenEndpoint address = .ok ⟨parts.host, UInt16.ofNat number⟩

/-! ## The parts of an address -/

/-- The host as it stands in the address. -/
def ListenParts.hostText (parts : ListenParts) : Bytes :=
  if parts.bracketed then code '[' :: parts.host ++ [code ']'] else parts.host

/-- An address is its host, a colon and its port. -/
theorem listenParts_text {address : Bytes} {parts : ListenParts} (h : listenParts address = some parts) :
    address = parts.hostText ++ code ':' :: parts.port ∧ code ':' ∉ parts.port := by
  unfold listenParts at h
  split at h
  · cases h
  · rename_i colon hcolon
    obtain ⟨host, port, rfl, hport, rfl⟩ := rfind_eq_some hcolon
    rw [List.take_left, drop_cons] at h
    cases h
    refine ⟨congrArg (· ++ code ':' :: port) ?_, hport⟩
    unfold ListenParts.hostText
    dsimp only
    by_cases hb : host.head? = some (code '[') ∧ host.getLast? = some (code ']')
    · rw [if_pos (by simpa using hb), if_pos (by simpa using hb)]
      obtain ⟨hhead, hlast⟩ := hb
      obtain ⟨rest, rfl⟩ := List.head?_eq_some_iff.mp hhead
      rcases List.eq_nil_or_concat rest with rfl | ⟨inner, last, rfl⟩
      · exact absurd hlast (by decide)
      · have hlast' : last = code ']' := by simpa [List.getLast?_cons, List.getLast?_append] using hlast
        simp [hlast']
    · rw [if_neg (by simpa using hb), if_neg (by simpa using hb)]

/-- A byte of an address is in the host, in the port or one of the separators. -/
theorem mem_address {address : Bytes} {parts : ListenParts} {byte : UInt8} (h : listenParts address = some parts)
    (hbyte : byte ∈ address) : byte ∈ parts.host ∨ byte ∈ parts.port ∨ byte ∈ [code '[', code ']', code ':'] := by
  rw [(listenParts_text h).1] at hbyte
  unfold ListenParts.hostText at hbyte
  split at hbyte
  · simp only [List.mem_append, List.mem_cons, List.not_mem_nil, or_false] at hbyte ⊢
    tauto
  · simp only [List.mem_append, List.mem_cons, List.not_mem_nil, or_false] at hbyte ⊢
    tauto

/-- The host is a part of the address. -/
theorem host_mem_address {address : Bytes} {parts : ListenParts} {byte : UInt8} (h : listenParts address = some parts)
    (hbyte : byte ∈ parts.host) : byte ∈ address := by
  rw [(listenParts_text h).1]
  unfold ListenParts.hostText
  split <;> simp [hbyte]

/-! ## What the loopback validator checked -/

/-- An accepted address has a host, a port in range and a loopback address. -/
theorem validLoopbackListenAddress_accepted {makeAddress : Bytes → Option Address} {address : Bytes}
    (h : validLoopbackListenAddress makeAddress address false = true) :
    ∃ parts number ip, listenParts address = some parts ∧ fromChars parts.port = some (number, []) ∧ 1 ≤ number ∧ number ≤ 65535 ∧
      code '%' ∉ parts.host ∧ makeAddress parts.host = some ip ∧ ip.isLoopback = true ∧ parts.bracketed = ip.isV6 := by
  unfold validLoopbackListenAddress at h
  split at h
  · cases h
  · rename_i parts hparts
    split at h
    · rename_i number hnumber
      split at h
      · cases h
      · rename_i hchecks
        split at h
        · cases h
        · rename_i ip hip
          simp only [Bool.not_false, Bool.and_true, Bool.or_eq_true, decide_eq_true_eq, not_or, Bool.not_eq_true,
            Option.isSome_eq_false_iff, Option.isNone_iff_eq_none, find_eq_none] at hchecks
          obtain ⟨⟨hmax, hzero⟩, hzone⟩ := hchecks
          simp only [Bool.and_eq_true, beq_iff_eq] at h
          exact ⟨parts, number, ip, hparts, hnumber, by omega, by omega, hzone, hip, h.1, h.2⟩
    · cases h

/-! ## What the endpoint parser makes of it -/

/-- The host of an endpoint passed the check of its token. -/
theorem parsePort_host {host port : Bytes} {endpoint : ListenEndpoint} (h : parsePort host port = .ok endpoint) :
    validHostToken endpoint.host = true := by
  unfold parsePort at h
  split at h
  · cases h
  · rename_i hchecks
    split at h
    · split at h
      · cases h
      · cases h
        simp only [Bool.or_eq_true, Bool.not_eq_true', not_or, Bool.not_eq_false] at hchecks
        exact hchecks.1
    · cases h

/-- A parsed host is a valid token. -/
theorem parseListenEndpoint_host {address : Bytes} {endpoint : ListenEndpoint} (h : parseListenEndpoint address = .ok endpoint) :
    validHostToken endpoint.host = true := by
  unfold parseListenEndpoint at h
  split at h
  · cases h
  · split at h
    · split at h
      · cases h
      · split at h
        · cases h
        · exact parsePort_host h
    · split at h
      · cases h
      · split at h
        · cases h
        · exact parsePort_host h

/-- A valid token is short, not empty, and made of the characters of a host. -/
theorem validHostToken_iff {host : Bytes} :
    validHostToken host = true ↔ host ≠ [] ∧ host.length ≤ kMaxHostLength ∧ ∀ byte ∈ host, isHostCharacter byte = true := by
  unfold validHostToken
  split
  · rename_i h
    simp only [Bool.or_eq_true, List.isEmpty_iff, decide_eq_true_eq] at h
    simp only [Bool.false_eq_true, false_iff, not_and]
    intro hne hlength
    rcases h with h | h
    · exact absurd h hne
    · omega
  · rename_i h
    simp only [Bool.or_eq_true, List.isEmpty_iff, decide_eq_true_eq, not_or, not_lt] at h
    simp [h]

/-- A valid host and a port in range are an endpoint. -/
theorem parsePort_ok {host port : Bytes} {number : Nat} (hhost : validHostToken host = true)
    (hport : fromChars port = some (number, [])) (hmin : 1 ≤ number) (hmax : number ≤ 65535) :
    parsePort host port = .ok ⟨host, UInt16.ofNat number⟩ := by
  unfold parsePort
  rw [hhost, if_neg (by simpa using (fromChars_digits hport).1), hport]
  dsimp only
  rw [if_neg (by simp; omega)]

/-- The characters of numeric addresses are among those of host tokens. -/
theorem hostCharacter_of_v6 {byte : UInt8} (h : V6Character byte) : isHostCharacter byte = true := by
  simp only [V6Character, isHexDigit, isHostCharacter, isDigit, Bool.or_eq_true, Bool.and_eq_true, decide_eq_true_eq,
    UInt8.le_iff_toNat_le, ← UInt8.toNat_inj, code] at *
  simp at *
  omega

/-- A host in brackets is what is between them. -/
theorem parseListenEndpoint_bracketed {host port : Bytes} (hhost : code ']' ∉ host) :
    parseListenEndpoint (code '[' :: (host ++ code ']' :: code ':' :: port)) = parsePort host port := by
  have hfind : find (code ']') (code '[' :: (host ++ code ']' :: code ':' :: port)) = some (host.length + 1) := by
    rw [← List.cons_append, find_append, List.length_cons]
    simp only [List.mem_cons, not_or]
    exact ⟨by decide, hhost⟩
  unfold parseListenEndpoint
  dsimp only
  rw [if_pos rfl, hfind]
  simp

/-- A host without brackets is what is before the colon. -/
theorem parseListenEndpoint_plain {host port : Bytes} (hne : host ≠ []) (hbracket : code '[' ∉ host) (hhost : code ':' ∉ host)
    (hport : code ':' ∉ port) : parseListenEndpoint (host ++ code ':' :: port) = parsePort host port := by
  unfold parseListenEndpoint
  rw [rfind_append hport, find_append hhost]
  obtain ⟨front, rest, rfl⟩ := List.exists_cons_of_ne_nil hne
  simp only [List.mem_cons, not_or] at hbracket
  rw [List.cons_append]
  dsimp only
  rw [if_neg (Ne.symm hbracket.1), ← List.cons_append, List.take_left, drop_cons]
  simp

/-! ## Agreement -/

variable {makeAddress : Bytes → Option Address} {address : Bytes}

/-- A text without a NUL is read to its end. -/
theorem takeWhile_of_no_nul {text : Bytes} (h : 0 ∉ text) : text.takeWhile (· ≠ 0) = text := by
  rw [List.takeWhile_eq_self_iff]
  intro byte hbyte
  simp only [ne_eq, decide_not, Bool.not_eq_true', decide_eq_false_iff_not]
  rintro rfl
  exact h hbyte

/-- A numeric host without brackets is a host token, and no separator stands in it. -/
theorem token_of_v6Characters {host : Bytes} (hne : host ≠ []) (hlength : host.length ≤ 136)
    (hcharacters : ∀ byte ∈ host, V6Character byte) : validHostToken host = true ∧ code '[' ∉ host ∧ code ']' ∉ host := by
  refine ⟨validHostToken_iff.mpr ⟨hne, hlength.trans (by decide), fun byte hbyte => hostCharacter_of_v6 (hcharacters byte hbyte)⟩,
    ?_, ?_⟩
  · intro hmem
    exact absurd (hostCharacter_of_v6 (hcharacters _ hmem)) (by decide)
  · intro hmem
    exact absurd (hostCharacter_of_v6 (hcharacters _ hmem)) (by decide)

/-- Without a NUL byte, the endpoint parser takes an accepted address apart in the same way. -/
theorem agree_of_no_nul (hmake : MakeAddress makeAddress) (h : validLoopbackListenAddress makeAddress address false = true)
    (hnul : 0 ∉ address) : Agree address := by
  obtain ⟨parts, number, ip, hparts, hnumber, hmin, hmax, hzone, hip, -, hbracketed⟩ := validLoopbackListenAddress_accepted h
  have hhostNul : 0 ∉ parts.host := mt (host_mem_address hparts) hnul
  have hliteral := (hmake.accepts parts.host hhostNul hzone).mp (by rw [hip]; rfl)
  have hfamily := hmake.family parts.host ip hhostNul hzone hip
  obtain ⟨htext, hport⟩ := listenParts_text hparts
  refine ⟨parts, number, hparts, hnumber, hmin, hmax, ?_⟩
  rw [htext]
  unfold ListenParts.hostText
  by_cases hv6 : ip.isV6 = true
  · have hv6text := hfamily.mp hv6
    obtain ⟨htoken, -, hclose⟩ := token_of_v6Characters hv6text.ne_nil hv6text.length_le hv6text.characters
    rw [if_pos (hbracketed.trans hv6), List.cons_append, List.cons_append, List.append_assoc, List.singleton_append,
      parseListenEndpoint_bracketed hclose]
    exact parsePort_ok htoken hnumber hmin hmax
  · have hv4 := hliteral.resolve_right (mt hfamily.mpr hv6)
    have hcharacters := fun byte hbyte => (hv4.characters byte hbyte).toV6
    obtain ⟨htoken, hopen, -⟩ := token_of_v6Characters hv4.ne_nil (hv4.length_le.trans (by decide)) hcharacters
    have hcolon : code ':' ∉ parts.host := fun hmem => by
      rcases hv4.characters _ hmem with hdigit | hdot
      · exact absurd hdigit (by decide)
      · exact absurd hdot (by decide)
    rw [if_neg (by rw [hbracketed]; exact hv6), parseListenEndpoint_plain hv4.ne_nil hopen hcolon hport]
    exact parsePort_ok htoken hnumber hmin hmax

/-- Where the endpoint parser finds the same host, no NUL byte stands in the address. -/
theorem no_nul_of_agree (h : Agree address) : 0 ∉ address := by
  obtain ⟨parts, number, hparts, hnumber, -, -, hparse⟩ := h
  have htoken := validHostToken_iff.mp (parseListenEndpoint_host hparse)
  intro hmem
  rcases mem_address hparts hmem with hhost | hport | hseparator
  · exact absurd (htoken.2.2 0 hhost) (by decide)
  · exact absurd ((fromChars_digits hnumber).2 0 hport) (by decide)
  · exact absurd hseparator (by decide)

/-- Of the addresses that the loopback validator accepts, the endpoint parser finds the same host and port in those that have no NUL
byte, and in no others. -/
theorem listen_validators_agree_iff_no_nul (hmake : MakeAddress makeAddress) :
    ∀ address, validLoopbackListenAddress makeAddress address false = true → (Agree address ↔ 0 ∉ address) :=
  fun _ h => ⟨no_nul_of_agree, agree_of_no_nul hmake h⟩

/-! ## A library that reads literals -/

/-- A network library that reads the texts of the two families, up to the first NUL byte. -/
def literalAddress (text : Bytes) : Option Address :=
  let literal := text.takeWhile (· ≠ 0)
  if V6 literal then
    some ⟨true, literal.getLast? = some (code '1') && literal.dropLast.all fun byte => byte = code ':' || byte = code '0'⟩
  else if V4 literal then some ⟨false, (literal.splitOn (code '.')).head? = some (bytes "127")⟩
  else none

/-- The literal reader behaves as the network library promises. -/
theorem makeAddress_literalAddress : MakeAddress literalAddress where
  reads text := by
    unfold literalAddress
    rw [List.takeWhile_idem]
  accepts text hnul _ := by
    unfold literalAddress
    dsimp only
    rw [takeWhile_of_no_nul hnul]
    split
    · rename_i hv6
      simp [hv6]
    · rename_i hv6
      split
      · rename_i hv4
        simp [hv4]
      · rename_i hv4
        simp [hv4, hv6]
  family text ip hnul _ h := by
    unfold literalAddress at h
    dsimp only at h
    rw [takeWhile_of_no_nul hnul] at h
    split at h
    · rename_i hv6
      cases h
      simp [hv6]
    · rename_i hv6
      split at h
      · cases h
        simp [hv6]
      · cases h

/-- The validators agree on the loopback address of IPv6. -/
theorem listen_validators_agree_iff_no_nul_v6_loopback :
    Agree (bytes "[::1]:50051") ↔ 0 ∉ bytes "[::1]:50051" :=
  listen_validators_agree_iff_no_nul makeAddress_literalAddress (bytes "[::1]:50051") (by decide +kernel)

/-- A loopback address with a NUL byte behind it. -/
def hiddenTail : Bytes := bytes "127.0.0.1" ++ 0 :: bytes ":50051"

/-- The loopback validator accepts an address that the endpoint parser turns down. -/
theorem listen_validators_disagree :
    ¬∀ makeAddress, MakeAddress makeAddress →
      ∀ address, validLoopbackListenAddress makeAddress address false = true → Agree address := by
  intro h
  have hagree := h literalAddress makeAddress_literalAddress hiddenTail (by decide +kernel)
  exact no_nul_of_agree hagree (by decide)

end MarketDataGateway.Config
