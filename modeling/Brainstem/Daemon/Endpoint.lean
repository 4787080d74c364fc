import Brainstem.Daemon.Config
import Brainstem.Lib.Split

/-!
# PUB endpoints

The endpoint that the PUB socket is bound to is text, made from the configured host and port.
Of a host that `validatePubBindHost` lets through, only an IPv6 literal has a colon, and
`pubEndpoint` puts it in brackets unless it is in brackets already.  So the last colon
separates the port:

    decodeEndpoint (pubEndpoint host port) = some (bareHost host, port)      (decode_pubEndpoint)
-/

namespace Brainstem.Daemon

/-- The host as the endpoint writes it. -/
def endpointHost (host : List Char) : List Char :=
  if ':' ∈ host ∧ host.head? ≠ some '[' then '[' :: host ++ [']'] else host

def pubEndpoint (host : String) (port : UInt16) : String :=
  if ':' ∈ host.toList ∧ host.toList.head? ≠ some '[' then s!"tcp://[{host}]:{port}"
  else s!"tcp://{host}:{port}"

/-- The host without the brackets around it. -/
def bareHost (host : List Char) : List Char := (unbracket host).getD host

/-- Host and port of an endpoint: what is before and after its last colon. -/
def decodeEndpoint (endpoint : String) : Option (List Char × ℕ) := do
  let address ← "tcp://".toList.isPrefixOf? endpoint.toList
  let (host, port) ← Split.rsplitOnce ':' address
  some (bareHost host, Nat.ofDigitChars 10 port 0)

/-- An IPv6 address, or one in brackets. -/
def IsIpv6Literal (net : NetParsers) (host : String) : Prop :=
  net.isIpv6Addr host = true ∨
    ∃ address, unbracket host.toList = some address ∧
      net.isIpv6Addr (String.ofList address) = true

/-- What is known of the parsers of the standard library: an address is one of two kinds, and
only one of these has colons. -/
structure NetParsers.Documented (net : NetParsers) (isIpv4Addr : String → Bool) : Prop where
  ipAddr : ∀ s, net.isIpAddr s = (isIpv4Addr s || net.isIpv6Addr s)
  ipv4 : ∀ s, isIpv4Addr s = true → ':' ∉ s.toList
  ipv6 : ∀ s, net.isIpv6Addr s = true → ':' ∈ s.toList ∧ '[' ∉ s.toList ∧ ']' ∉ s.toList

example : pubEndpoint "::1" 5556 = "tcp://[::1]:5556" ∧
    pubEndpoint "[::1]" 5556 = "tcp://[::1]:5556" ∧
    pubEndpoint "localhost" 5556 = "tcp://localhost:5556" := by decide

/-! ## The hosts that are accepted -/

theorem unbracket_eq_some {host address : List Char} :
    unbracket host = some address ↔ host = '[' :: address ++ [']'] := by
  unfold unbracket
  constructor
  · intro h
    split at h
    · next rest =>
      split at h
      · next hlast =>
        obtain ⟨inner, rfl⟩ := List.getLast?_eq_some_iff.1 hlast
        cases h
        rw [List.dropLast_concat, List.cons_append]
      · cases h
    · cases h
  · rintro rfl
    show (if (address ++ [']']).getLast? = some ']' then some (address ++ [']']).dropLast
      else none) = some address
    rw [if_pos List.getLast?_concat, List.dropLast_concat]

/-- Letters, digits, hyphens and dots. -/
theorem not_colon_of_isDnsHostname {host : List Char} (h : isDnsHostname host = true) :
    ':' ∉ host := by
  intro hcolon
  have hdot : ':' ≠ '.' := by decide
  have hname : ':' ∈ stripSuffix host '.' := by
    unfold stripSuffix
    split
    · next hlast =>
      obtain ⟨name, rfl⟩ := List.getLast?_eq_some_iff.1 hlast
      rw [List.dropLast_concat]
      rcases List.mem_append.1 hcolon with hname | hlast
      · exact hname
      · exact absurd (List.mem_singleton.1 hlast) hdot
    · exact hcolon
  unfold isDnsHostname at h
  have hlabels := (Bool.and_eq_true_iff.1 h).2
  rcases Split.mem_splitOn hname with heq | ⟨label, hlabel, hmem⟩
  · exact hdot heq
  · have hvalid := List.all_eq_true.1 hlabels label hlabel
    unfold isDnsLabel at hvalid
    have hchar := List.all_eq_true.1 (Bool.and_eq_true_iff.1 hvalid).2 ':' hmem
    revert hchar
    decide

variable {net : NetParsers} {isIpv4Addr : String → Bool} {host : String}

/-- In an accepted host, a colon means IPv6. -/
theorem colon_of_accepted (hnet : net.Documented isIpv4Addr)
    (hhost : validatePubBindHost net host = .ok ()) (hcolon : ':' ∈ host.toList) :
    IsIpv6Literal net host := by
  unfold validatePubBindHost at hhost
  dsimp only at hhost
  split at hhost
  · next hip =>
    rw [Bool.or_eq_true, Bool.or_eq_true, hnet.ipAddr, Option.any_eq_true, decide_eq_true_eq] at hip
    rcases hip with (hip | hbracketed) | hany
    · rcases (Bool.or_eq_true_iff).1 hip with hipv4 | hipv6
      · exact absurd hcolon (hnet.ipv4 host hipv4)
      · exact .inl hipv6
    · exact .inr hbracketed
    · have hstar : ':' ∉ "*".toList := by decide
      rw [hany] at hcolon
      exact absurd hcolon hstar
  · split at hhost
    · next hdns => exact absurd hcolon (not_colon_of_isDnsHostname hdns)
    · cases hhost

/-- An IPv6 literal is written as its address in brackets, whether it came in brackets or not. -/
theorem endpointHost_of_literal (hnet : net.Documented isIpv4Addr)
    (hliteral : IsIpv6Literal net host) :
    endpointHost host.toList = '[' :: bareHost host.toList ++ [']'] ∧
      ':' ∈ bareHost host.toList ∧ '[' ∉ bareHost host.toList ∧ ']' ∉ bareHost host.toList := by
  rcases hliteral with hbare | ⟨address, hbrackets, haddress⟩
  · obtain ⟨hcolon, hopen, hclose⟩ := hnet.ipv6 host hbare
    have hhead : host.toList.head? ≠ some '[' := fun h => hopen (List.mem_of_mem_head? h)
    have hself : bareHost host.toList = host.toList := by
      unfold bareHost
      cases hu : unbracket host.toList with
      | none => rfl
      | some address =>
        rw [unbracket_eq_some] at hu
        rw [hu] at hopen
        exact absurd List.mem_cons_self hopen
    rw [hself]
    unfold endpointHost
    rw [if_pos ⟨hcolon, hhead⟩]
    exact ⟨rfl, hcolon, hopen, hclose⟩
  · have hself : bareHost host.toList = address := by
      unfold bareHost
      rw [hbrackets]
      rfl
    have hchars := hnet.ipv6 _ haddress
    rw [String.toList_ofList] at hchars
    rw [hself]
    refine ⟨?_, hchars⟩
    rw [unbracket_eq_some] at hbrackets
    unfold endpointHost
    rw [if_neg (by rw [hbrackets]; simp), hbrackets]

theorem endpointHost_of_not_colon {host : List Char} (h : ':' ∉ host) : endpointHost host = host := by
  unfold endpointHost
  rw [if_neg fun hc => h hc.1]

theorem colon_iff (hnet : net.Documented isIpv4Addr)
    (hhost : validatePubBindHost net host = .ok ()) :
    ':' ∈ endpointHost host.toList ↔ IsIpv6Literal net host := by
  constructor
  · intro hcolon
    by_contra hliteral
    have hnone : ':' ∉ host.toList := fun h => hliteral (colon_of_accepted hnet hhost h)
    rw [endpointHost_of_not_colon hnone] at hcolon
    exact hnone hcolon
  · intro hliteral
    obtain ⟨hwritten, hcolon, -⟩ := endpointHost_of_literal hnet hliteral
    rw [hwritten]
    exact List.mem_append_left _ (List.mem_cons_of_mem _ hcolon)

/-- Written or not, the brackets come off again. -/
theorem bareHost_endpointHost (hnet : net.Documented isIpv4Addr)
    (hhost : validatePubBindHost net host = .ok ()) :
    bareHost (endpointHost host.toList) = bareHost host.toList := by
  by_cases hliteral : IsIpv6Literal net host
  · rw [(endpointHost_of_literal hnet hliteral).1]
    have hoff : ∀ address : List Char, bareHost ('[' :: address ++ [']']) = address := by
      intro address
      unfold bareHost
      rw [unbracket_eq_some.2 rfl]
      rfl
    exact hoff _
  · rw [endpointHost_of_not_colon fun h => hliteral (colon_of_accepted hnet hhost h)]

/-! ## Reading an endpoint back -/

/-- The port in decimal. -/
def portDigits (port : UInt16) : List Char := Nat.toDigits 10 port.toNat

theorem portDigits_eq (port : UInt16) : (toString port).toList = portDigits port := by
  show (Nat.repr port.toNat).toList = _
  rw [Nat.toList_repr]
  rfl

theorem not_colon_portDigits (port : UInt16) : ':' ∉ portDigits port := by
  intro h
  have hdigit := Nat.isDigit_of_mem_toDigits (by decide) (by decide) h
  revert hdigit
  decide

theorem toList_pubEndpoint (host : String) (port : UInt16) : (pubEndpoint host port).toList =
    "tcp://".toList ++ endpointHost host.toList ++ ':' :: portDigits port := by
  unfold pubEndpoint endpointHost
  rw [← portDigits_eq]
  split
  · show ("tcp://[" ++ host ++ "]:" ++ toString port : String).toList = _
    simp [String.toList_append]
  · show ("tcp://" ++ host ++ ":" ++ toString port : String).toList = _
    simp [String.toList_append]

/-- The last colon is the one before the port. -/
theorem rsplitOnce_pubEndpoint (host : String) (port : UInt16) :
    Split.rsplitOnce ':' (pubEndpoint host port).toList =
      some ("tcp://".toList ++ endpointHost host.toList, portDigits port) := by
  rw [toList_pubEndpoint]
  exact Split.rsplitOnce_append (not_colon_portDigits port)

theorem decode_pubEndpoint (hnet : net.Documented isIpv4Addr)
    (hhost : validatePubBindHost net host = .ok ()) (port : UInt16) :
    decodeEndpoint (pubEndpoint host port) = some (bareHost host.toList, port.toNat) := by
  have hport : Nat.ofDigitChars 10 (portDigits port) 0 = port.toNat := Nat.ofDigitChars_ten_toDigits
  unfold decodeEndpoint
  rw [toList_pubEndpoint, List.append_assoc, Split.isPrefixOf?_append]
  simp only [Option.bind_eq_bind, Option.bind_some,
    Split.rsplitOnce_append (not_colon_portDigits port), hport, bareHost_endpointHost hnet hhost]

/-- **Endpoints are uniquely decodable.**  The endpoint of an accepted host and a port is
`tcp://`, the host as it is or an IPv6 address in one pair of brackets, a colon and the port in
decimal.  Splitting it at the last colon gives port and host back, so endpoints that are equal
have the same port and, but for brackets, the same host. -/
theorem pub_endpoint_decodable (hnet : net.Documented isIpv4Addr)
    (hhost : validatePubBindHost net host = .ok ()) (port : UInt16) :
    (∃ h : List Char,
      (pubEndpoint host port).toList = "tcp://".toList ++ h ++ ':' :: portDigits port ∧
      (':' ∈ h ↔ IsIpv6Literal net host) ∧
      (IsIpv6Literal net host → h = '[' :: bareHost host.toList ++ [']'] ∧
        '[' ∉ bareHost host.toList ∧ ']' ∉ bareHost host.toList) ∧
      (¬IsIpv6Literal net host → h = host.toList) ∧
      Split.rsplitOnce ':' (pubEndpoint host port).toList =
        some ("tcp://".toList ++ h, portDigits port) ∧
      bareHost h = bareHost host.toList) ∧
    decodeEndpoint (pubEndpoint host port) = some (bareHost host.toList, port.toNat) ∧
    ∀ (host' : String) (port' : UInt16), validatePubBindHost net host' = .ok () →
      pubEndpoint host port = pubEndpoint host' port' →
      port = port' ∧ bareHost host.toList = bareHost host'.toList := by
  have hdecode := decode_pubEndpoint hnet hhost port
  refine ⟨⟨endpointHost host.toList, toList_pubEndpoint host port, colon_iff hnet hhost, ?_, ?_,
    rsplitOnce_pubEndpoint host port, bareHost_endpointHost hnet hhost⟩, hdecode, ?_⟩
  · intro hliteral
    obtain ⟨hwritten, -, hopen, hclose⟩ := endpointHost_of_literal hnet hliteral
    exact ⟨hwritten, hopen, hclose⟩
  · intro hliteral
    exact endpointHost_of_not_colon fun h => hliteral (colon_of_accepted hnet hhost h)
  · intro host' port' hhost' heq
    rw [heq, decode_pubEndpoint hnet hhost' port'] at hdecode
    obtain ⟨hsame, hport⟩ := Prod.mk.inj (Option.some.inj hdecode)
    exact ⟨UInt16.toNat_inj.1 hport.symm, hsame.symm⟩

/-- Parsers that know the two loopback addresses. -/
def NetParsers.loopback : NetParsers where
  isIpAddr s := s = "127.0.0.1" || s = "::1"
  isIpv6Addr s := s = "::1"
  isSocketAddr s := s = "127.0.0.1:8080"

theorem NetParsers.documented_loopback :
    NetParsers.loopback.Documented fun s => s = "127.0.0.1" where
  ipAddr _ := rfl
  ipv4 s h := by
    rw [of_decide_eq_true h]
    decide
  ipv6 s h := by
    rw [of_decide_eq_true h]
    decide

theorem pub_endpoint_decodable_loopback :
    decodeEndpoint (pubEndpoint "[::1]" 5556) = some (bareHost "[::1]".toList, 5556) ∧
      pubEndpoint "localhost" 5556 ≠ pubEndpoint "[::1]" 5556 := by
  have hbrackets : validatePubBindHost .loopback "[::1]" = .ok () := by decide
  have hlocal : validatePubBindHost .loopback "localhost" = .ok () := by decide
  obtain ⟨-, hdecode, hinjective⟩ :=
    pub_endpoint_decodable NetParsers.documented_loopback hbrackets 5556
  refine ⟨hdecode, fun heq => ?_⟩
  have hsame := (hinjective "localhost" 5556 hlocal heq.symm).2
  revert hsame
  decide

end Brainstem.Daemon
