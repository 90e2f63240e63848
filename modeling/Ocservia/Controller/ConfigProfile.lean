import Ocservia.Contract.ProfileTranscript
import Ocservia.Controller.Netip

/-!
# The Controller's canonical configuration

`configprofile/profile.go` decides which complete configurations the Controller may sign, and
`contracts/src/config_profile.rs` decides it again on the node. The two are written independently:
Go keeps the set of names that it has seen and compares the fields of TLS references one by one, and
each uses the number and address parsers of its own standard library.

The two encoders are the same function (`completeConfig_canonical`). Go writes lengths without
checking that they fit into 32 bits; what both accept is short enough (`profileLiteral_fits`,
`validTlsReference_fits`).
-/

namespace Ocservia

open Wire Wire.Format List Bool Nat

namespace ConfigProfile

section
variable (acceptsIPv6 : List Char → Bool)

/-! ## Literals -/

def validNetwork (value : String) : Bool :=
  match parsePrefix acceptsIPv6 value.toList with
  | some (.v4 ip, bits) =>
    1 ≤ bits && bits ≤ 30 && ip / 2 ^ (32 - bits) * 2 ^ (32 - bits) == ip &&
      prefixChars ip bits == value.toList
  | _ => false

/-- The loop of `label` over the bytes of a text. -/
def labelBytes (first : Bool) : Bytes → Bool
  | [] => true
  | b :: rest =>
    (isAsciiAlphanumeric b || (!first && isNamePunctuation b)) && labelBytes false rest

def label (value : String) (max : Nat) : Bool :=
  !(value.utf8ByteSize == 0 || max < value.utf8ByteSize || containsDotDot value.toList) &&
    labelBytes true (utf8 value)

def validLiteral (name value : String) : Bool :=
  match name with
  | "auth" => value == "plain[passwd=/etc/ocserv/ocpasswd]"
  | "socket-file" => value == "/run/ocserv.socket"
  | "device" => label value 15 && !value.toList.contains '.'
  | "ipv4-network" => validNetwork acceptsIPv6 value
  | "route" => value == "default" || validNetwork acceptsIPv6 value
  | "dns" =>
    match parseAddr acceptsIPv6 value.toList with
    | some (.v4 ip) =>
      dotted (octetsOf ip) == value.toList && ip != 0 && !(ip / 2 ^ 28 == 14)
    | _ => false
  | "tcp-port" | "udp-port" | "max-clients" | "max-same-clients" | "cookie-timeout" =>
    match parseUint value with
    | some n =>
      if toString n != value then false
      else if name == "cookie-timeout" then 60 ≤ n && n ≤ 86400
      else n ≤ 65535 && (0 < n || name == "udp-port")
    | none => false
  | _ => false

/-! ## The two literal checks agree -/

/-- A network of version 4 in its printed form. -/
def PrintedNetwork (value : List Char) : Prop :=
  ∃ ip n, ip < 2 ^ 32 ∧ (1 ≤ n ∧ n ≤ 30) ∧ ip % 2 ^ (32 - n) = 0 ∧ value = prefixChars ip n

theorem slash_not_mem_toDigits (n : Nat) : '/' ∉ Nat.toDigits 10 n := fun h =>
  absurd (isDigit_of_mem_toDigits (by decide) (by decide) h) (by decide)

theorem slash_not_mem_dotted (octets : List Nat) : '/' ∉ dotted octets := by
  intro h
  rcases mem_splitOn_or_eq (x := '.') h with h | ⟨part, hpart, hslash⟩
  · cases h
  cases octets with
  | nil => simp [dotted] at h
  | cons n octets =>
    rw [splitOn_dotted (by simp), mem_map] at hpart
    obtain ⟨n, -, rfl⟩ := hpart
    exact slash_not_mem_toDigits n hslash

theorem profileNetwork_iff : profileNetwork value = true ↔ PrintedNetwork value.toList := by
  unfold profileNetwork
  constructor
  · intro h
    split at h
    · cases h
    rename_i address bits hsplit
    obtain ⟨hvalue, -⟩ := splitOnce_eq_some.1 hsplit
    split at h
    · rename_i ip n hip hn
      simp only [and_eq_true, decide_eq_true_eq, beq_iff_eq] at h
      obtain ⟨⟨⟨hn1, hn30⟩, hprinted⟩, hmasked⟩ := h
      obtain ⟨hlt, haddress⟩ := parseIpv4_eq_some.1 hip
      refine ⟨ip, n, hlt, ⟨hn1, hn30⟩, hmasked, ?_⟩
      have hbits : bits = toDigits 10 n := by
        have := congrArg String.toList hprinted
        rwa [String.toList_ofList, (printed_digits n).1] at this
      rw [hvalue, haddress, hbits, prefixChars]
    · cases h
  · rintro ⟨ip, n, hlt, ⟨hn1, hn30⟩, hmasked, hvalue⟩
    have hsplit : splitOnce '/' value.toList = some (dotted (octetsOf ip), toDigits 10 n) :=
      splitOnce_eq_some.2 ⟨hvalue, slash_not_mem_dotted _⟩
    have hbits : String.ofList (toDigits 10 n) = toString n := repr_eq_ofList_toDigits.symm
    rw [hsplit]
    simp only
    rw [parseIpv4_eq_some.2 ⟨hlt, rfl⟩, hbits, (parseUnsigned_printed.2 ⟨by omega, rfl⟩).1]
    simp [hn1, hn30, hmasked]

theorem validNetwork_iff : validNetwork acceptsIPv6 value = true ↔ PrintedNetwork value.toList := by
  unfold validNetwork
  constructor
  · intro h
    split at h
    · rename_i ip n hfront
      simp only [and_eq_true, decide_eq_true_eq, beq_iff_eq] at h
      obtain ⟨⟨⟨hn1, hn30⟩, hmasked⟩, hprinted⟩ := h
      refine ⟨ip, n, ?_, ⟨hn1, hn30⟩, ?_, hprinted.symm⟩
      · unfold parsePrefix at hfront
        split at hfront
        · cases hfront
        rename_i bits address hsplit
        split at hfront
        · cases hfront
        · rename_i ip' haddr
          obtain ⟨m, -, hm⟩ := Option.map_eq_some_iff.1 hfront
          cases hm
          exact (parseIpv4_eq_some.1 ((parseAddr_v4 _).1 haddr)).1
        · obtain ⟨m, -, hm⟩ := Option.map_eq_some_iff.1 hfront
          cases hm
      · have hdvd : 2 ^ (32 - n) ∣ ip := ⟨_, by rw [mul_comm]; exact hmasked.symm⟩
        exact mod_eq_zero_of_dvd hdvd
    · cases h
  · rintro ⟨ip, n, hlt, ⟨hn1, hn30⟩, hmasked, hvalue⟩
    have hfront : parsePrefix acceptsIPv6 value.toList = some (.v4 ip, n) := by
      have hsplit : splitOnce '/' value.toList.reverse =
          some ((toDigits 10 n).reverse, (dotted (octetsOf ip)).reverse) :=
        splitOnce_eq_some.2 ⟨by simp [hvalue, prefixChars], by simpa using slash_not_mem_toDigits n⟩
      have haddr := (parseAddr_v4 acceptsIPv6).2 (parseIpv4_eq_some.2 ⟨hlt, rfl⟩)
      have hbits : parseBits (toDigits 10 n) 32 = some n :=
        parseBits_eq_some.2 ⟨by omega, rfl⟩
      unfold parsePrefix
      rw [hsplit]
      simp only [reverse_reverse]
      rw [haddr]
      simp only
      rw [hbits]
      rfl
    rw [hfront]
    simp only [and_eq_true, decide_eq_true_eq, beq_iff_eq]
    exact ⟨⟨⟨hn1, hn30⟩, Nat.div_mul_cancel (Nat.dvd_of_mod_eq_zero hmasked)⟩, hvalue.symm⟩

theorem labelBytes_eq (value : Bytes) : labelBytes true value = identifierBytes value := by
  have hrest : ∀ rest : Bytes, labelBytes false rest =
      rest.all fun c => isAsciiAlphanumeric c || isNamePunctuation c := by
    intro rest
    induction rest with
    | nil => rfl
    | cons b rest ih => simp [labelBytes, ih]
  cases value with
  | nil => rfl
  | cons b rest => simp [labelBytes, identifierBytes, hrest]

theorem label_eq (value : String) (max : Nat) : label value max = profileLabel value max := by
  unfold label profileLabel
  rw [labelBytes_eq, Bool.eq_iff_iff]
  simp only [Bool.and_eq_true, Bool.not_eq_true', Bool.or_eq_false_iff, beq_eq_false_iff_ne,
    decide_eq_false_iff_not, bne_iff_ne, decide_eq_true_eq]
  grind

theorem validNetwork_eq (value : String) :
    validNetwork acceptsIPv6 value = profileNetwork value := by
  rw [Bool.eq_iff_iff, validNetwork_iff, profileNetwork_iff]

/-- A number in its printed form: what remains of both number parsers after the comparison. -/
theorem printedNumber_iff {value : String} {p : Nat → Bool} :
    (match parseUint value with
      | some n => if toString n != value then false else p n
      | none => false) = true ↔ ∃ n, n < 2 ^ 32 ∧ value = toString n ∧ p n = true := by
  constructor
  · intro h
    split at h
    · rename_i n hn
      split at h
      · cases h
      · rename_i hprinted
        have := parseUint_printed.1 ⟨hn, by simpa using hprinted⟩
        exact ⟨n, this.1, this.2, h⟩
    · cases h
  · rintro ⟨n, hlt, rfl, hp⟩
    rw [(parseUint_printed.2 ⟨hlt, rfl⟩).1]
    simpa using hp

/-- The two number checks agree when they ask the same of the number. -/
theorem printedNumber_eq {value : String} {p low high : Nat → Bool}
    (hp : ∀ n, p n = (low n && high n)) :
    (match parseUint value with
      | some n => if toString n != value then false else p n
      | none => false) =
    match parseUnsigned 32 value with
    | some n => toString n == value && low n && high n
    | none => false := by
  rw [Bool.eq_iff_iff, printedNumber_iff]
  constructor
  · rintro ⟨n, hlt, rfl, h⟩
    rw [(parseUnsigned_printed.2 ⟨hlt, rfl⟩).1]
    simpa [hp] using h
  · intro h
    split at h
    · rename_i n hn
      simp only [and_eq_true, beq_iff_eq] at h
      obtain ⟨hlt, hvalue⟩ := parseUnsigned_printed.1 ⟨hn, h.1.1⟩
      exact ⟨n, hlt, hvalue, by rw [hp, h.1.2, h.2]; rfl⟩
    · cases h

theorem dns_iff {value : String} :
    (match parseAddr acceptsIPv6 value.toList with
      | some (.v4 ip) => dotted (octetsOf ip) == value.toList && ip != 0 && !(ip / 2 ^ 28 == 14)
      | _ => false) =
    match parseIpv4 value.toList with
    | some ip => ip != 0 && !(224 ≤ ip / 2 ^ 24 && ip / 2 ^ 24 ≤ 239)
    | none => false := by
  cases hip : parseIpv4 value.toList with
  | none =>
    split
    · rename_i ip haddr
      rw [(parseAddr_v4 acceptsIPv6).1 haddr] at hip
      cases hip
    · rfl
  | some ip =>
    rw [(parseAddr_v4 acceptsIPv6).2 hip]
    have hprinted := (parseIpv4_eq_some.1 hip).2
    have hmulticast : (ip / 2 ^ 28 == 14) = (224 ≤ ip / 2 ^ 24 && ip / 2 ^ 24 ≤ 239) := by
      rw [Bool.eq_iff_iff]
      simp only [beq_iff_eq, Bool.and_eq_true, decide_eq_true_eq]
      omega
    simp only [← hprinted, beq_self_eq_true, Bool.true_and, hmulticast]

/-- **The two literal checks are one**: what the Controller may sign the node accepts. -/
theorem validLiteral_eq (name value : String) :
    validLiteral acceptsIPv6 name value = profileLiteral name value := by
  unfold validLiteral profileLiteral
  split
  · rfl
  · rfl
  · exact congrArg (· && _) (label_eq value 15)
  · exact validNetwork_eq acceptsIPv6 value
  · exact congrArg _ (validNetwork_eq acceptsIPv6 value)
  · exact dns_iff acceptsIPv6
  iterate 5 exact printedNumber_eq fun n => rfl
  · split <;> first | rfl | simp_all

end

/-! ## What is accepted is short -/

theorem length_utf8_le (value : String) : (utf8 value).length ≤ 4 * value.toList.length := by
  have hvalue : utf8 value = value.toList.flatMap String.utf8EncodeChar := by
    rw [← utf8_ofList, String.ofList_toList]
  rw [hvalue]
  induction value.toList with
  | nil => simp
  | cons c cs ih =>
    have hc := Char.utf8Size_le_four c
    rw [flatMap_cons, length_append, String.length_utf8EncodeChar, length_cons]
    omega

theorem fits_of_length (h : value.toList.length ≤ 64) : text.Fits value := by
  have := length_utf8_le value
  show (utf8 value).length < 2 ^ 32
  omega

theorem fits_toString (h : n < 2 ^ 64) : text.Fits (toString n) := by
  refine fits_of_length ?_
  rw [(printed_digits n).1]
  exact (toDigits_length 10 n 20 (by decide) (by omega)).trans (by decide)

theorem length_dotted_octetsOf (h : ip < 2 ^ 32) : (dotted (octetsOf ip)).length ≤ 15 := by
  have hoctet : ∀ n < 256, (toDigits 10 n).length ≤ 3 := fun n hn =>
    toDigits_length 10 n 3 (by decide) (by omega)
  have ha := hoctet (ip / 2 ^ 24) (by omega)
  have hb := hoctet (ip / 2 ^ 16 % 256) (by omega)
  have hc := hoctet (ip / 2 ^ 8 % 256) (by omega)
  have hd := hoctet (ip % 256) (by omega)
  simp only [dotted, octetsOf, map_cons, map_nil, intercalate,
    intersperse_cons_cons, intersperse_singleton, flatten_cons, flatten_nil,
    length_append, length_cons, length_nil]
  omega

theorem fits_of_network (h : PrintedNetwork value.toList) : text.Fits value := by
  obtain ⟨ip, n, hlt, ⟨-, hn⟩, -, hvalue⟩ := h
  refine fits_of_length ?_
  have haddress := length_dotted_octetsOf hlt
  have hbits : (toDigits 10 n).length ≤ 2 := toDigits_length 10 n 2 (by decide) (by omega)
  rw [hvalue, prefixChars, length_append, length_cons]
  omega

theorem fits_of_label {value : String} {max : Nat} (hmax : max ≤ 64)
    (h : profileLabel value max = true) : text.Fits value := by
  simp only [profileLabel, and_eq_true, decide_eq_true_eq] at h
  have := h.1.1.2
  show (utf8 value).length < 2 ^ 32
  rw [length_utf8]
  omega

/-- The number of a literal that is accepted as one. -/
theorem fits_of_number {value : String} {low high : Nat → Bool}
    (h : (match parseUnsigned 32 value with
      | some n => toString n == value && low n && high n
      | none => false) = true) : text.Fits value := by
  split at h
  · rename_i n hn
    simp only [and_eq_true, beq_iff_eq] at h
    obtain ⟨hlt, rfl⟩ := parseUnsigned_printed.1 ⟨hn, h.1.1⟩
    exact fits_toString (by omega)
  · cases h

theorem profileLiteral_fits {name value : String} (h : profileLiteral name value = true) :
    text.Fits name ∧ text.Fits value := by
  have hconstant : ∀ {s : String}, (utf8 s).length < 2 ^ 32 → text.Fits s := fun h => h
  unfold profileLiteral at h
  split at h
  iterate 2
    obtain rfl := eq_of_beq h
    exact ⟨hconstant (by decide), hconstant (by decide)⟩
  · rw [and_eq_true] at h
    exact ⟨hconstant (by decide), fits_of_label (by decide) h.1⟩
  · exact ⟨hconstant (by decide), fits_of_network (profileNetwork_iff.1 h)⟩
  · refine ⟨hconstant (by decide), ?_⟩
    rcases or_eq_true_iff.1 h with h | h
    · obtain rfl := eq_of_beq h
      exact hconstant (by decide)
    · exact fits_of_network (profileNetwork_iff.1 h)
  · refine ⟨hconstant (by decide), ?_⟩
    split at h
    · rename_i ip hip
      obtain ⟨hlt, hvalue⟩ := parseIpv4_eq_some.1 hip
      refine fits_of_length ?_
      rw [hvalue]
      exact (length_dotted_octetsOf hlt).trans (by decide)
    · cases h
  iterate 5 exact ⟨hconstant (by decide), fits_of_number h⟩
  · cases h

theorem validTlsReference_fits {name : String} {server : Option NodeLocalTlsReference}
    {r : NodeLocalTlsReference} (h : validTlsReference name server r = true) :
    text.Fits name ∧ text.Fits r.version ∧ bytes.Fits r.caSha256 := by
  simp only [validTlsReference, and_eq_true, or_eq_true, beq_iff_eq] at h
  obtain ⟨⟨⟨⟨⟨⟨⟨⟨hname, -⟩, -⟩, hversion⟩, -⟩, -⟩, hca⟩, -⟩, -⟩ := h
  refine ⟨?_, fits_of_label (by decide) hversion, ?_⟩
  · have hlength : (utf8 name).length < 2 ^ 32 := by
      rcases hname with (rfl | rfl) | rfl <;> decide
    exact hlength
  · show r.caSha256.length < 2 ^ 32
    omega

/-! ## `Canonical` -/

/-- What the loop of `Canonical` carries: the names that it has seen besides the rest. -/
structure Scan where
  out : Bytes
  seen : List String
  previous : String
  serverRef : Option NodeLocalTlsReference
  (maxClients maxSame : Nat)

/-- `appendLength`, which would cut a length beyond 32 bits. -/
def appendLength (out data : Bytes) : Bytes := out ++ be 4 data.length ++ data

def zeroId : Bytes := List.replicate 16 0

/-- The checks of a TLS directive. -/
def validReference (name : String) (server : Option NodeLocalTlsReference)
    (ref : NodeLocalTlsReference) : Bool :=
  !(name != "server-cert" && name != "server-key" && name != "ca-cert") &&
  !(ref.secretRefId.length != 16 || ref.secretRefId == zeroId || !label ref.version 64 ||
    ref.certificateSha256.length != 32 || ref.spkiSha256.length != 32 ||
    (ref.caSha256.length != 0 && ref.caSha256.length != 32) ||
    (name == "ca-cert" && ref.caSha256.length != 32)) &&
  !server.any fun current =>
    current.secretRefId != ref.secretRefId || current.version != ref.version ||
      current.certificateSha256 != ref.certificateSha256 ||
      current.spkiSha256 != ref.spkiSha256 || current.caSha256 != ref.caSha256

section
variable (acceptsIPv6 : List Char → Bool)

/-- The loop body of `Canonical`; a literal checked to be a number is one, so the dropped error
cannot occur. -/
def scanStep (scan : Scan) (d : CompleteConfigDirective) : Option Scan :=
  if ¬ utf8 scan.previous < utf8 d.name then none
  else
    match d.value with
    | some (.literal value) =>
      if !validLiteral acceptsIPv6 d.name value then none
      else some {
        out := appendLength (appendLength scan.out (utf8 d.name) ++ [0]) (utf8 value)
        seen := d.name :: scan.seen
        previous := d.name
        serverRef := scan.serverRef
        maxClients := if d.name == "max-clients" then (parseUint value).getD 0 else scan.maxClients
        maxSame := if d.name == "max-same-clients" then (parseUint value).getD 0 else scan.maxSame }
    | some (.tls ref) =>
      if !validReference d.name scan.serverRef ref then none
      else some {
        out := appendLength (appendLength (appendLength scan.out (utf8 d.name) ++ [1] ++
          ref.secretRefId) (utf8 ref.version) ++ ref.certificateSha256 ++ ref.spkiSha256)
          ref.caSha256
        seen := d.name :: scan.seen
        previous := d.name
        serverRef := some ref
        maxClients := scan.maxClients
        maxSame := scan.maxSame }
    | none => none

section
variable (candidate : CompleteConfigCandidate)

def canonical : Option Bytes :=
  if candidate.nodeId.length != 16 || candidate.nodeId == zeroId ||
      2 ^ 63 - 1 < candidate.expectedRevision.toNat ||
      candidate.directives.length < requiredDirectives.length ||
      requiredDirectives.length + 2 < candidate.directives.length then none
  else
    (candidate.directives.foldlM (scanStep acceptsIPv6)
      ⟨utf8 "ocservia.complete-config.v1\x00" ++ candidate.nodeId ++
        be 8 candidate.expectedRevision.toNat ++ be 4 candidate.directives.length,
        [], "", none, 0, 0⟩).bind fun scan =>
      if !requiredDirectives.all (scan.seen.contains ·) then none
      else if scan.maxClients < scan.maxSame then none
      else some scan.out

/-! ## The two encoders are one -/

/-- The part of the Go loop's state that the Rust loop has too. -/
def Scan.shared (scan : Scan) : ProfileScan :=
  ⟨scan.out, scan.previous, scan.serverRef, scan.maxClients, scan.maxSame⟩

theorem all_zero_iff {id : Bytes} (h : id.length = 16) : id.all (· == 0) = (id == zeroId) := by
  rw [Bool.eq_iff_iff, all_eq_true, beq_iff_eq, zeroId, eq_replicate_iff]
  simp [h]

theorem validReference_eq (name : String) (server : Option NodeLocalTlsReference)
    (ref : NodeLocalTlsReference) :
    validReference name server ref = validTlsReference name server ref := by
  have hserver : ∀ current : NodeLocalTlsReference,
      (current.secretRefId != ref.secretRefId || current.version != ref.version ||
        current.certificateSha256 != ref.certificateSha256 ||
        current.spkiSha256 != ref.spkiSha256 || current.caSha256 != ref.caSha256) =
      (current != ref) := by
    intro current
    obtain ⟨⟩ := current
    obtain ⟨⟩ := ref
    rw [Bool.eq_iff_iff]
    simp only [Bool.or_eq_true, bne_iff_ne, ne_eq, NodeLocalTlsReference.mk.injEq]
    tauto
  by_cases hid : ref.secretRefId.length = 16
  · unfold validReference validTlsReference
    rw [all_zero_iff hid, label_eq, Bool.eq_iff_iff]
    simp only [hserver, hid, Bool.and_eq_true, Bool.not_eq_true', Bool.or_eq_false_iff,
      and_eq_false_iff, bne_eq_false_iff_eq, or_eq_true, beq_iff_eq, not_eq_false']
    tauto
  · have hne : (ref.secretRefId.length == 16) = false := by simpa using hid
    simp [validReference, validTlsReference, hne, bne]

theorem scannedNumber_of_valid (hkey : key = "max-clients" ∨ key = "max-same-clients")
    (h : profileLiteral name value = true) :
    scannedNumber name key value old =
      some (if name == key then (parseUint value).getD 0 else old) := by
  unfold scannedNumber
  split
  · rename_i hname
    obtain rfl := eq_of_beq hname
    have hnumber : ∃ n, parseUnsigned 32 value = some n ∧ toString n = value := by
      rcases hkey with rfl | rfl <;>
      · simp only [profileLiteral] at h
        split at h
        · rename_i n hn
          simp only [and_eq_true, beq_iff_eq] at h
          exact ⟨n, hn, h.1.1⟩
        · cases h
    obtain ⟨n, hn⟩ := hnumber
    rw [hn.1, (parseUint_printed.2 (parseUnsigned_printed.1 hn)).1]
    rfl
  · rfl

theorem lengthPrefixed_of_fits (h : bytes.Fits b) :
    lengthPrefixed b = some (be 4 b.length ++ b) := lengthPrefixed_of_lt h

/-- One round of the loops. -/
theorem scanStep_shared (scan : Scan) (d : CompleteConfigDirective) :
    (scanStep acceptsIPv6 scan d).map Scan.shared = scanDirective scan.shared d := by
  obtain ⟨name, value⟩ := d
  unfold scanStep
  by_cases horder : utf8 scan.previous < utf8 name
  · rw [if_neg (not_not.2 horder)]
    cases value with
    | none => rw [scanDirective_none]; rfl
    | some value =>
      cases value with
      | literal value =>
        rw [scanDirective_literal, if_pos (show utf8 scan.shared.previous < utf8 name from horder)]
        simp only [validLiteral_eq]
        cases hvalid : profileLiteral name value with
        | false => cases lengthPrefixed (utf8 name) <;> rfl
        | true =>
          obtain ⟨hname, hvalue⟩ := profileLiteral_fits hvalid
          rw [lengthPrefixed_of_fits hname, lengthPrefixed_of_fits hvalue,
            scannedNumber_of_valid (.inl rfl) hvalid, scannedNumber_of_valid (.inr rfl) hvalid]
          simp [Scan.shared, appendLength]
      | tls ref =>
        rw [scanDirective_tls, if_pos (show utf8 scan.shared.previous < utf8 name from horder)]
        simp only [validReference_eq]
        cases hvalid : validTlsReference name scan.serverRef ref with
        | false =>
          have hshared : validTlsReference name scan.shared.serverRef ref = false := hvalid
          rw [hshared]
          cases lengthPrefixed (utf8 name) <;> rfl
        | true =>
          have hshared : validTlsReference name scan.shared.serverRef ref = true := hvalid
          obtain ⟨hname, hversion, hca⟩ := validTlsReference_fits hvalid
          rw [hshared, lengthPrefixed_of_fits hname, lengthPrefixed_of_fits hversion,
            lengthPrefixed_of_fits hca]
          simp [Scan.shared, appendLength]
  · rw [if_pos horder]
    have hshared : ¬ utf8 scan.shared.previous < utf8 name := horder
    cases value with
    | none => rw [scanDirective_none]; rfl
    | some value =>
      cases value with
      | literal value => rw [scanDirective_literal, if_neg hshared]; rfl
      | tls ref => rw [scanDirective_tls, if_neg hshared]; rfl

/-- A run of the loops, from states that agree. -/
theorem scanSteps_shared (scan : Scan) (ds : List CompleteConfigDirective) :
    (ds.foldlM (scanStep acceptsIPv6) scan).map Scan.shared =
      ds.foldlM scanDirective scan.shared := by
  induction ds generalizing scan with
  | nil => rfl
  | cons d ds ih =>
    rw [foldlM_cons, foldlM_cons, ← scanStep_shared acceptsIPv6]
    cases scanStep acceptsIPv6 scan d with
    | none => rfl
    | some next => exact ih next

theorem scanStep_seen (h : scanStep acceptsIPv6 scan d = some scan') :
    scan'.seen = d.name :: scan.seen := by
  unfold scanStep at h
  obtain ⟨-, h⟩ := Option.ite_none_left_eq_some.1 h
  split at h
  iterate 2
    obtain ⟨-, h⟩ := Option.ite_none_left_eq_some.1 h
    cases h
    rfl
  · cases h

/-- After a run, the names that were seen are those of the directives. -/
theorem scanSteps_seen {scan scan' : Scan} {ds : List CompleteConfigDirective}
    (h : ds.foldlM (scanStep acceptsIPv6) scan = some scan') (name : String) :
    scan'.seen.contains name = (ds.any (·.name == name) || scan.seen.contains name) := by
  induction ds generalizing scan with
  | nil =>
    cases h
    rfl
  | cons d ds ih =>
    rw [foldlM_cons] at h
    obtain ⟨next, hnext, h⟩ := Option.bind_eq_some_iff.1 h
    have hcomm : (name == d.name) = (d.name == name) := BEq.comm
    rw [ih h, scanStep_seen acceptsIPv6 hnext, contains_cons, any_cons, hcomm]
    cases ds.any (·.name == name) <;> cases d.name == name <;> rfl

theorem profileHeadInvalid_eq : profileHeadInvalid candidate =
      (candidate.nodeId.length != 16 || candidate.nodeId == zeroId ||
        2 ^ 63 - 1 < candidate.expectedRevision.toNat ||
        candidate.directives.length < requiredDirectives.length ||
        requiredDirectives.length + 2 < candidate.directives.length) := by
  unfold profileHeadInvalid
  by_cases hid : candidate.nodeId.length = 16
  · have hlow : decide (2 ^ 63 - 1 < candidate.expectedRevision.toNat) =
        decide (2 ^ 63 ≤ candidate.expectedRevision.toNat) := decide_eq_decide.2 (by omega)
    have hcount : (decide (candidate.directives.length < requiredDirectives.length) ||
        decide (requiredDirectives.length + 2 < candidate.directives.length)) =
        !(decide (requiredDirectives.length ≤ candidate.directives.length) &&
          decide (candidate.directives.length ≤ requiredDirectives.length + 2)) := by
      rw [Bool.eq_iff_iff]
      simp only [Bool.or_eq_true, decide_eq_true_eq, Bool.not_eq_true', Bool.and_eq_false_iff,
        decide_eq_false_iff_not]
      omega
    rw [all_zero_iff hid, hlow, or_assoc (_ || decide (2 ^ 63 ≤ _)), hcount]
  · have hne : (candidate.nodeId.length != 16) = true := by simpa using hid
    simp [hne]

/-- The Controller's encoder is the node's. -/
theorem canonical_eq : canonical acceptsIPv6 candidate = canonicalProfile candidate := by
  rw [canonicalProfile_eq, profileHeadInvalid_eq]
  unfold canonical
  split
  · rfl
  -- the two loops run side by side, and the names seen are those of the directives
  have hshared : _ =
      candidate.directives.foldlM scanDirective ⟨profileHead candidate, "", none, 0, 0⟩ :=
    scanSteps_shared acceptsIPv6 ⟨profileHead candidate, [], "", none, 0, 0⟩ candidate.directives
  show (candidate.directives.foldlM (scanStep acceptsIPv6)
    ⟨profileHead candidate, [], "", none, 0, 0⟩).bind _ = _
  rw [← hshared]
  cases hscan : candidate.directives.foldlM (scanStep acceptsIPv6)
      ⟨profileHead candidate, [], "", none, 0, 0⟩ with
  | none => rfl
  | some scan =>
    have hseen : requiredDirectives.all (scan.seen.contains ·) =
        requiredDirectives.all fun name => candidate.directives.any (·.name == name) := by
      refine congrArg _ (funext fun name => ?_)
      rw [scanSteps_seen acceptsIPv6 hscan name]
      simp
    simp only [Option.bind_some, Option.map_some, hseen, Scan.shared]
    cases requiredDirectives.all fun name => candidate.directives.any (·.name == name) <;> simp

end

end

end ConfigProfile

/-- **Complete configurations have one canonical form**: the Controller's encoder and the node's
accept the same candidates with the same bytes, and the bytes determine the candidate. -/
theorem completeConfig_canonical (acceptsIPv6 : List Char → Bool) :
    (∀ candidate, ConfigProfile.canonical acceptsIPv6 candidate = canonicalProfile candidate) ∧
      ∀ candidate candidate' b, canonicalProfile candidate = some b →
        canonicalProfile candidate' = some b → candidate = candidate' :=
  ⟨ConfigProfile.canonical_eq acceptsIPv6, fun _ _ _ => canonicalProfile_inj⟩

def sampleTlsReference (version : String) : NodeLocalTlsReference :=
  ⟨(sampleUuid 6).1, version, List.replicate 32 1, List.replicate 32 2, []⟩

/-- A complete configuration for the sample node, with the TLS material of `version`. -/
def sampleCandidate (version : String) : CompleteConfigCandidate where
  nodeId := (sampleUuid 3).1
  expectedRevision := 4
  directives := [
    ⟨"auth", some (.literal "plain[passwd=/etc/ocserv/ocpasswd]")⟩,
    ⟨"cookie-timeout", some (.literal "300")⟩,
    ⟨"device", some (.literal "vpns")⟩,
    ⟨"dns", some (.literal "10.0.0.53")⟩,
    ⟨"ipv4-network", some (.literal "10.8.0.0/16")⟩,
    ⟨"max-clients", some (.literal "128")⟩,
    ⟨"max-same-clients", some (.literal "2")⟩,
    ⟨"server-cert", some (.tls (sampleTlsReference version))⟩,
    ⟨"server-key", some (.tls (sampleTlsReference version))⟩,
    ⟨"socket-file", some (.literal "/run/ocserv.socket")⟩,
    ⟨"tcp-port", some (.literal "443")⟩,
    ⟨"udp-port", some (.literal "0")⟩]

/-- Configurations with different TLS material have different transcripts. -/
theorem sampleCandidates_differ :
    (ConfigProfile.canonical (fun _ => false) (sampleCandidate "v1")).isSome = true ∧
      ConfigProfile.canonical (fun _ => false) (sampleCandidate "v1") ≠
        ConfigProfile.canonical (fun _ => false) (sampleCandidate "v2") := by
  obtain ⟨hequal, hinj⟩ := completeConfig_canonical fun _ => false
  have haccepted : (canonicalProfile (sampleCandidate "v1")).isSome = true := by decide +kernel
  refine ⟨by rw [hequal]; exact haccepted, fun h => ?_⟩
  obtain ⟨b, hb⟩ := Option.isSome_iff_exists.1 haccepted
  rw [hequal, hequal] at h
  have hsame := hinj _ _ b hb (h ▸ hb)
  exact absurd hsame (by decide)

end Ocservia
