import Ocservia.Contract.Receipt

/-!
# Text grammars shared by the validators

The Controller, the Agent and privd validate the same names, numbers and version strings before a
command is executed. This module has the grammars as the Rust crates define them: identifiers
(`validate_name`, `validate_semantic_name`), decimal numbers, the release identity of
`contracts/src/agent_upgrade.rs`, and the finite configuration profile of
`contracts/src/config_profile.rs` with its canonical transcript.
-/

namespace Ocservia

open Wire List

def isAsciiDigit (b : UInt8) : Bool := 48 ≤ b && b ≤ 57

def isAsciiAlphanumeric (b : UInt8) : Bool :=
  isAsciiDigit b || (65 ≤ b && b ≤ 90) || (97 ≤ b && b ≤ 122)

def isAsciiUppercase (b : UInt8) : Bool := 65 ≤ b && b ≤ 90

def isAsciiHexdigit (b : UInt8) : Bool :=
  isAsciiDigit b || (65 ≤ b && b ≤ 70) || (97 ≤ b && b ≤ 102)

def isAscii (value : String) : Bool := (utf8 value).all (· < 128)

/-- The characters `_`, `.` and `-`, which an identifier does not begin with. -/
def isNamePunctuation (b : UInt8) : Bool := b == 95 || b == 46 || b == 45

/-- Every byte is alphanumeric, or punctuation that is not first. -/
def identifierBytes : Bytes → Bool
  | [] => true
  | b :: bs =>
      isAsciiAlphanumeric b && bs.all (fun c => isAsciiAlphanumeric c || isNamePunctuation c)

/-- The identifier rule of `validate_name` and `validate_semantic_name`. -/
def validName (value : String) : Bool :=
  value.utf8ByteSize != 0 && value.utf8ByteSize ≤ 64 && identifierBytes (utf8 value)

/-- `str::parse` of an unsigned number of `w` bits: an optional `+`, then digits. -/
def parseUnsigned (w : Nat) (value : String) : Option Nat :=
  let digits := match value.toList with | '+' :: ds => ds | ds => ds
  if digits.isEmpty || !digits.all Char.isDigit then none
  else
    let n := digits.foldl (fun n c => 10 * n + (c.toNat - 48)) 0
    if n < 2 ^ w then some n else none

/-- The text consists of Unicode white space only, as `str::trim` sees it. -/
def isBlank (value : String) : Bool :=
  value.toList.all fun c =>
    (9 ≤ c.toNat && c.toNat ≤ 13) || c.toNat == 0x20 || c.toNat == 0x85 || c.toNat == 0xA0 ||
    c.toNat == 0x1680 || (0x2000 ≤ c.toNat && c.toNat ≤ 0x200A) || c.toNat == 0x2028 ||
    c.toNat == 0x2029 || c.toNat == 0x202F || c.toNat == 0x205F || c.toNat == 0x3000

/-- `get_version_num` of a UUID's bytes. -/
def uuidVersion (b : Bytes) : Nat := (b.getD 6 0).toNat / 16

/-- The two variant bits of a UUID's bytes. -/
def uuidVariant (b : Bytes) : Nat := (b.getD 8 0).toNat / 64

/-! ## DNS names -/

/-- One label of a DNS name: letters, digits and inner hyphens. -/
def validDnsLabel (label : Bytes) : Bool :=
  label.length != 0 && label.length ≤ 63 && label.head? != some 45 && label.getLast? != some 45 &&
    label.all fun b => isAsciiAlphanumeric b || b == 45

/-- The rule of `validDNSName` and of `valid_dns_name`: labels between dots. -/
def validDnsName (value : String) : Bool :=
  value.utf8ByteSize != 0 && value.utf8ByteSize ≤ 253 && (utf8 value).head? != some 46 &&
    (utf8 value).getLast? != some 46 && ((utf8 value).splitOn 46).all validDnsLabel

/-- A member of a list is the separator, or a member of one of the parts. -/
theorem mem_splitOn_or_eq {α : Type} [DecidableEq α] {x b : α} {xs : List α} (h : b ∈ xs) :
    b = x ∨ ∃ part ∈ xs.splitOn x, b ∈ part := by
  rw [← @intercalate_splitOn _ xs _ _ x] at h
  rw [intercalate, mem_flatten] at h
  obtain ⟨l, hl, hb⟩ := h
  have hmem : ∀ parts : List (List α), l ∈ parts.intersperse [x] → l = [x] ∨ l ∈ parts := by
    intro parts
    induction parts with
    | nil => simp
    | cons p parts ih =>
      cases parts with
      | nil => exact .inr
      | cons q parts =>
        simp only [intersperse_cons_cons, mem_cons]
        rintro (h | h | h)
        · exact .inr (.inl h)
        · exact .inl h
        · exact (ih h).imp id (by simp only [mem_cons]; exact .inr)
  rcases hmem _ hl with rfl | hl
  · exact .inl (mem_singleton.1 hb)
  · exact .inr ⟨l, hl, hb⟩

theorem lt_of_isAsciiAlphanumeric (h : isAsciiAlphanumeric b = true) : b < 128 := by
  simp only [isAsciiAlphanumeric, isAsciiDigit, Bool.or_eq_true, Bool.and_eq_true,
    decide_eq_true_eq, UInt8.le_iff_toNat_le] at h
  rw [UInt8.lt_iff_toNat_lt]
  simp at h ⊢
  omega

/-- A DNS name is not empty and has ASCII characters only. -/
theorem ascii_of_validDnsName {value : String} (h : validDnsName value = true) :
    value.utf8ByteSize ≠ 0 ∧ isAscii value = true := by
  simp only [validDnsName, Bool.and_eq_true, bne_iff_ne, all_eq_true, and_assoc] at h
  obtain ⟨hne, -, -, -, hlabels⟩ := h
  refine ⟨hne, all_eq_true.2 fun b hb => decide_eq_true ?_⟩
  rcases mem_splitOn_or_eq (x := 46) hb with rfl | ⟨label, hlabel, hb⟩
  · decide
  have hall := hlabels label hlabel
  simp only [validDnsLabel, Bool.and_eq_true, all_eq_true] at hall
  have hb := hall.2 b hb
  simp only [Bool.or_eq_true, beq_iff_eq] at hb
  rcases hb with hb | rfl
  · exact lt_of_isAsciiAlphanumeric hb
  · decide

/-! ## Release identity -/

def agentUpgradeCapabilities : List String := ["ocserv.agent.upgrade.v2", "ocserv.agent.upgrade.v1"]

def supportedCapability (value : String) : Option String :=
  agentUpgradeCapabilities.find? (· == value)

def validArchitecture (architecture : String) : Bool := ["amd64", "arm64"].contains architecture

def validNumber (value : List Char) : Bool :=
  !(value.isEmpty || (1 < value.length && value.head? == some '0') || !value.all Char.isDigit)

/-- One identifier of a version's prerelease or build list. -/
def validVersionIdentifier (prerelease : Bool) (identifier : List Char) : Bool :=
  if identifier.isEmpty then false
  else if identifier.all Char.isDigit then !prerelease || validNumber identifier
  else identifier.all (fun c => c.isAlphanum || c == '-')

def validIdentifierList (value : List Char) (prerelease : Bool) : Bool :=
  if value.isEmpty then false else (value.splitOn '.').all (validVersionIdentifier prerelease)

/-- The text before and after the first `c`, if there is one. -/
def splitOnce (c : Char) (value : List Char) : Option (List Char × List Char) :=
  match value.span (· != c) with
  | (before, _ :: after) => some (before, after)
  | (_, []) => none

def validTargetVersion (version : String) : Bool :=
  if version.utf8ByteSize < 5 || 128 < version.utf8ByteSize then false
  else
    let (core, build) := match splitOnce '+' version.toList with
      | some (before, after) => (before, validIdentifierList after false)
      | none => (version.toList, true)
    let (core, pre) := match splitOnce '-' core with
      | some (before, after) => (before, validIdentifierList after true)
      | none => (core, true)
    build && pre && match core.splitOn '.' with
      | [major, minor, patch] => validNumber major && validNumber minor && validNumber patch
      | _ => false

/-! ## The complete configuration profile -/

def planCapability : String := "ocserv.config.complete.plan"

def applyCapability : String := "ocserv.config.complete.apply"

/-- `REQUIRED`. -/
def requiredDirectives : List String :=
  ["auth", "cookie-timeout", "device", "dns", "ipv4-network", "max-clients", "max-same-clients",
    "server-cert", "server-key", "socket-file", "tcp-port", "udp-port"]

def containsDotDot : List Char → Bool
  | '.' :: '.' :: _ => true
  | _ :: cs => containsDotDot cs
  | [] => false

/-- `label`. -/
def profileLabel (value : String) (max : Nat) : Bool :=
  value.utf8ByteSize != 0 && value.utf8ByteSize ≤ max &&
    !containsDotDot value.toList && identifierBytes (utf8 value)

/-- One octet of `Ipv4Addr::from_str`: decimal without leading zeros, at most 255. -/
def parseOctet (value : List Char) : Option Nat :=
  if validNumber value && value.length ≤ 3 then
    let n := value.foldl (fun n c => 10 * n + (c.toNat - 48)) 0
    if n ≤ 255 then some n else none
  else none

/-- `Ipv4Addr::from_str`, as a 32-bit number. -/
def parseIpv4 (value : List Char) : Option Nat :=
  match value.splitOn '.' with
  | [a, b, c, d] => do
    let a ← parseOctet a
    let b ← parseOctet b
    let c ← parseOctet c
    let d ← parseOctet d
    return a * 2 ^ 24 + b * 2 ^ 16 + c * 2 ^ 8 + d
  | _ => none

/-- `network`. The parser of an address accepts its printed form only. -/
def profileNetwork (value : String) : Bool :=
  match splitOnce '/' value.toList with
  | none => false
  | some (address, bits) =>
    match parseIpv4 address, parseUnsigned 32 (String.ofList bits) with
    | some address, some n =>
      1 ≤ n && n ≤ 30 && String.ofList bits == toString n && address % 2 ^ (32 - n) == 0
    | _, _ => false

/-- `literal`. -/
def profileLiteral (name value : String) : Bool :=
  match name with
  | "auth" => value == "plain[passwd=/etc/ocserv/ocpasswd]"
  | "socket-file" => value == "/run/ocserv.socket"
  | "device" => profileLabel value 15 && !value.toList.contains '.'
  | "ipv4-network" => profileNetwork value
  | "route" => value == "default" || profileNetwork value
  | "dns" =>
    match parseIpv4 value.toList with
    | some ip => ip != 0 && !(224 ≤ ip / 2 ^ 24 && ip / 2 ^ 24 ≤ 239)
    | none => false
  | "cookie-timeout" =>
    match parseUnsigned 32 value with
    | some n => toString n == value && 60 ≤ n && n ≤ 86400
    | none => false
  | "tcp-port" | "udp-port" | "max-clients" | "max-same-clients" =>
    match parseUnsigned 32 value with
    | some n => toString n == value && n ≤ 65535 && (0 < n || name == "udp-port")
    | none => false
  | _ => false

/-- What the loop of `canonical` carries from one directive to the next. -/
structure ProfileScan where
  out : Bytes
  previous : String
  serverRef : Option NodeLocalTlsReference
  (maxClients maxSame : Nat)

/-- The checks of one pinned TLS directive. -/
def validTlsReference (name : String) (server : Option NodeLocalTlsReference)
    (r : NodeLocalTlsReference) : Bool :=
  (name == "server-cert" || name == "server-key" || name == "ca-cert") &&
    r.secretRefId.length == 16 && !r.secretRefId.all (· == 0) && profileLabel r.version 64 &&
    r.certificateSha256.length == 32 && r.spkiSha256.length == 32 &&
    (r.caSha256.length == 0 || r.caSha256.length == 32) &&
    !(name == "ca-cert" && r.caSha256.length != 32) &&
    !(server.any (· != r))

/-- The body of the loop of `canonical`. -/
def scanDirective (scan : ProfileScan) (d : CompleteConfigDirective) : Option ProfileScan := do
  if ¬ (utf8 scan.previous < utf8 d.name) then none
  let name ← lengthPrefixed (utf8 d.name)
  match ← d.value with
  | .literal value =>
    if !profileLiteral d.name value then none
    let text ← lengthPrefixed (utf8 value)
    let maxClients ← if d.name == "max-clients" then parseUnsigned 32 value else scan.maxClients
    let maxSame ← if d.name == "max-same-clients" then parseUnsigned 32 value else scan.maxSame
    return { scan with
      out := scan.out ++ name ++ [0] ++ text
      previous := d.name
      maxClients
      maxSame }
  | .tls reference =>
    if !validTlsReference d.name scan.serverRef reference then none
    let version ← lengthPrefixed (utf8 reference.version)
    let ca ← lengthPrefixed reference.caSha256
    return { scan with
      out := scan.out ++ name ++ [1] ++ reference.secretRefId ++ version ++
        reference.certificateSha256 ++ reference.spkiSha256 ++ ca
      previous := d.name
      serverRef := some reference }

/-- `config_profile::canonical`. -/
def canonicalProfile (candidate : CompleteConfigCandidate) : Option Bytes := do
  if candidate.nodeId.length != 16 || candidate.nodeId.all (· == 0) ||
      2 ^ 63 ≤ candidate.expectedRevision.toNat ||
      !(requiredDirectives.length ≤ candidate.directives.length &&
        candidate.directives.length ≤ requiredDirectives.length + 2) then none
  let head := utf8 "ocservia.complete-config.v1\x00" ++ candidate.nodeId ++
    be 8 candidate.expectedRevision.toNat ++ be 4 candidate.directives.length
  let scan ← candidate.directives.foldlM scanDirective
    { out := head, previous := "", serverRef := none, maxClients := 0, maxSame := 0 }
  if scan.maxClients < scan.maxSame ||
      !(requiredDirectives.all fun name => candidate.directives.any (·.name == name)) then none
  return scan.out

end Ocservia
