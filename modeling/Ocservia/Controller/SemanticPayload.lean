import Ocservia.Controller.CommandAuth
import Ocservia.Controller.ConfigProfile
import Ocservia.Privd.SemanticBinding

/-!
# The Controller's semantic payload hash

`semanticpayload/hash.go` has the semantic hash of a command a second time: the Controller puts its
own digest into the envelope (`populate`) and the node recomputes it. The transcript is the same,
the checks are not: the node has rules that the Controller does not check (`NodeRules`), and the
Controller refuses some addresses, key names and expiry times that the node accepts.

`semanticHash_agrees` says where the two agree. The signer itself does not look at the payload, nor
at the hash beyond its length.
-/

namespace Ocservia

open Wire Wire.Format Checked List Option Except CommandAuth SemanticPayloadHashVersion

namespace SemanticPayload

/-- Functions of other packages that the hash calls. -/
structure Library where
  /-- `net.ParseIP`, and `String` of what it parses. -/
  parseIP : String → Option String
  /-- `semver.IsValid`. -/
  semverIsValid : String → Bool
  /-- The texts that `netip.ParseAddr` accepts as IPv6 addresses. -/
  acceptsIPv6 : List Char → Bool

/-- An error with its text, unless the check passes. -/
def require (check : Bool) (text : String) : Except String Unit := Checked.require check text

/-! ## Encoders -/

def canonicalStrings (values : List String) : Bytes :=
  values.flatMap fun value => be 4 (utf8 value).length ++ utf8 value

def canonicalStringsAndBytes (values : List String) (value : Bytes) (revision : Nat) : Bytes :=
  canonicalStrings values ++ be 4 value.length ++ value ++ be 8 revision

def canonicalSecret (secret : Option SealedSecretV1) (purpose : SealedSecretPurpose) :
    Except String Bytes := do
  let secret ← Checked.get secret "sealed secret is malformed"
  require
    (!(secret.version != sealedSecretVersionV1 || secret.purpose != purpose.toInt32 ||
      isBlank secret.keyId || secret.ciphertext.length < 32 ||
      16 * 1024 < secret.ciphertext.length))
    "sealed secret is malformed"
  return be 4 (CommandAuth.uint32 secret.version) ++ be 4 (CommandAuth.uint32 secret.purpose) ++
    secret.ciphertext

/-- `GetKeyId` of a secret that may be missing. -/
def secretKeyId (secret : Option SealedSecretV1) : String := secret.elim "" SealedSecretV1.keyId

/-! ## Payload kinds -/

def configPlan (p : ConfigPlan) (version : SemanticPayloadHashVersion) : Except String Bytes := do
  require (p.candidateHash.length == 32) "candidate hash is malformed"
  return p.candidateHash ++ if version = .v2 then be 8 p.expectedRevision.toNat else []

def configApply (p : ConfigApply) : Except String Bytes := do
  require
    (!(p.candidateHash.length != 32 || p.expectedCurrentHash.length != 32 ||
      p.desiredRevision == 0))
    "configuration apply identity is malformed"
  return p.candidateHash ++ p.expectedCurrentHash ++ be 8 p.desiredRevision.toNat

/-- The cases of `UserCreate` and `UserPasswordRotate`. -/
def userSecret (p : UserSecret) : Except String Bytes := do
  let secret ← (canonicalSecret p.sealedPasswordV1 .userPassword).mapError
    fun _ => "user sealed secret is malformed"
  require (!(p.sealedPassword.length != 0 || p.secretKeyId != "")) "user sealed secret is malformed"
  return canonicalStringsAndBytes [p.username, secretKeyId p.sealedPasswordV1] secret
    p.desiredRevision.toNat

def certificateCsr (p : CertificateCsr) : Except String Bytes := do
  require (p.certificateId.length == 16) "certificate ID is malformed"
  return canonicalStringsAndBytes (p.commonName :: p.dnsNames) p.certificateId p.keyBits.toNat

def certificateP12 (p : CertificateP12) : Except String Bytes := do
  require (!(p.certificateId.length != 16 || p.artifactId.length != 16))
    "certificate artifact identity is malformed"
  let secret ← (canonicalSecret p.sealedPasswordV1 .certificateP12Password).mapError
    fun _ => "certificate P12 binding is malformed"
  let expires ← Checked.get p.artifactExpiresAt "certificate P12 binding is malformed"
  require
    (!(p.sealedPassword.length != 0 || p.secretKeyId != "" || p.certificateVersion == 0 ||
      !expires.isValid))
    "certificate P12 binding is malformed"
  return canonicalStringsAndBytes [secretKeyId p.sealedPasswordV1]
    (p.certificateId ++ p.artifactId ++ p.certificateChainPem ++ secret ++
      CommandAuth.writeInt64 expires.seconds ++ be 4 (CommandAuth.uint32 expires.nanos))
    p.certificateVersion.toNat

def certificateRevoke (p : CertificateRevoke) : Except String Bytes := do
  require (!(p.certificateId.length != 16 || isBlank p.reason))
    "certificate revoke payload is malformed"
  require (p.certificateVersion != 0) "certificate revoke version is malformed"
  return canonicalStringsAndBytes [p.reason] p.certificateId p.certificateVersion.toNat

section
variable (P : Platform) (L : Library)

/-- The candidate of a complete configuration and its `configprofile.Hash`. -/
def candidateHash (candidate : Option CompleteConfigCandidate) :
    Option (CompleteConfigCandidate × Bytes) := do
  let candidate ← candidate
  let canonical ← ConfigProfile.canonical L.acceptsIPv6 candidate
  return (candidate, (P.sha256 canonical).1)

section
variable (envelope : CommandEnvelope)

def completeConfigPlan (p : CompleteConfigPlan)
    (version : SemanticPayloadHashVersion) : Except String Bytes := do
  let (candidate, digest) ← Checked.get (candidateHash P L p.candidate)
    "complete config plan identity is malformed"
  require
    (!(version ≠ .v2 || digest != p.candidateHash || candidate.nodeId != envelope.nodeId))
    "complete config plan identity is malformed"
  return digest

def completeConfigApply (p : CompleteConfigApply)
    (version : SemanticPayloadHashVersion) : Except String Bytes := do
  let (candidate, digest) ← Checked.get (candidateHash P L p.candidate)
    "complete config apply identity is malformed"
  let expires ← Checked.get p.planExpiresAt "complete config apply identity is malformed"
  require
    (!(version ≠ .v2 || digest != p.candidateHash || candidate.nodeId != envelope.nodeId ||
      p.materializedHash.length != 32 || p.expectedCurrentHash.length != 32 ||
      p.desiredRevision ≤ candidate.expectedRevision || p.planId.length != 16 || !expires.isValid ||
      envelope.approvalId.length != 16 || envelope.approvalRequestSha256.length != 32))
    "complete config apply identity is malformed"
  return digest ++ p.materializedHash ++ p.expectedCurrentHash ++ be 8 p.desiredRevision.toNat ++
    p.planId ++ CommandAuth.writeInt64 expires.seconds ++ be 4 (CommandAuth.uint32 expires.nanos) ++
    envelope.approvalId ++ envelope.approvalRequestSha256

/-- The case of `IpBanRemove`: the address is in the form that it is printed in. -/
def ipBanRemove (ip : String) : Except String Bytes := do
  require (L.parseIP ip == some ip) "IP address is not canonical"
  return canonicalStrings [ip]

def validAgentUpgradeArchitecture (architecture : String) : Bool :=
  ["amd64", "arm64"].contains architecture

def validAgentUpgradeTargetVersion (version : String) : Bool :=
  if version.utf8ByteSize < 5 || 128 < version.utf8ByteSize then false
  else
    let core := version.toList.takeWhile (· != '+')
    let core := core.takeWhile (· != '-')
    core.count '.' == 2 && L.semverIsValid ("v" ++ version)

def agentUpgrade (p : AgentUpgrade) : Except String Bytes := do
  require
    (!(!validAgentUpgradeTargetVersion L p.targetVersion || p.packageSha256.length != 32 ||
      !validAgentUpgradeArchitecture p.architecture))
    "agent upgrade release identity is malformed"
  return canonicalStringsAndBytes [p.targetVersion, p.architecture] p.packageSha256 0

/-- The switch of `hash`: the number of the payload kind and its canonical bytes. -/
def canonicalPayload (version : SemanticPayloadHashVersion) :
    Option Payload → Except String (Nat × Bytes)
  | some .syntheticNoop => .ok (107, [])
  | some (.syntheticEcho message) => .ok (108, be 4 (utf8 message).length ++ utf8 message)
  | some (.sessionDisconnect p) => .ok (100, canonicalStrings [p.sessionId, p.bootId])
  | some .serviceReload => .ok (105, [])
  | some (.configPlan p) => (configPlan p version).map (103, ·)
  | some (.configApply p) => (configApply p).map (104, ·)
  | some (.completeConfigPlan p) => (completeConfigPlan P L envelope p version).map (129, ·)
  | some (.completeConfigApply p) => (completeConfigApply P L envelope p version).map (130, ·)
  | some (.sessionTerminate p) => .ok (112, canonicalStrings [p.sessionId, p.bootId])
  | some (.ipBanRemove ip) => (ipBanRemove L ip).map (113, ·)
  | some (.userCreate p) => (userSecret p).map (101, ·)
  | some (.userDisable p) =>
    .ok (102, canonicalStringsAndBytes [p.username] [] p.desiredRevision.toNat)
  | some (.userEnable p) =>
    .ok (116, canonicalStringsAndBytes [p.username] [] p.desiredRevision.toNat)
  | some (.userPasswordRotate p) => (userSecret p).map (114, ·)
  | some (.groupApply p) =>
    .ok (115, canonicalStringsAndBytes (p.groupName :: p.members) [] p.desiredRevision.toNat)
  | some (.certificateCsr p) => (certificateCsr p).map (117, ·)
  | some (.certificateP12 p) => (certificateP12 p).map (118, ·)
  | some (.certificateRevoke p) => (certificateRevoke p).map (119, ·)
  | some (.agentUpgrade p) => (agentUpgrade L p).map (128, ·)
  | some .simulationProbe | none => .error "command payload type is not reconcilable"

/-- The domain separator of a hash version. -/
def domainSeparator : SemanticPayloadHashVersion → Except String Bytes
  | .v1 => .ok (utf8 "ocservia.command.semantic-hash.v1\x00")
  | .v2 => .ok (utf8 "ocservia.command.semantic-hash.v2\x00")
  | .unspecified => .error "semantic payload hash version is unsupported"

/-- The bytes that `hash` digests. -/
def preimage (version : SemanticPayloadHashVersion) : Except String Bytes := do
  let (payloadKind, canonical) ← canonicalPayload P L envelope version envelope.payload
  let domain ← domainSeparator version
  return domain ++ envelope.nodeId ++ be 8 envelope.expectedRevision.toNat ++ be 4 payloadKind ++
    canonical

def hash (version : SemanticPayloadHashVersion) :
    Except String (FixedBytes 32) := (preimage P L envelope version).map P.sha256

end

/-- Fill the hash fields of an envelope. -/
def populate (version : SemanticPayloadHashVersion) (envelope : CommandEnvelope) :
    Except String CommandEnvelope := do
  let digest ← hash P L envelope version
  return { envelope with
    semanticPayloadHashVersion := version.toInt32
    semanticPayloadSha256 := digest.1 }

def populateV2 := populate P L .v2

end

/-! ## Rules of the node -/

/-- The rules for a payload that the node checks and the Controller does not. -/
def NodeRules : Payload → Prop
  | .syntheticEcho message => message.utf8ByteSize < 2 ^ 32
  | .sessionDisconnect p | .sessionTerminate p =>
    validSessionId p.sessionId = true ∧ p.bootId.utf8ByteSize ≠ 0 ∧ p.bootId.utf8ByteSize ≤ 64
  | .ipBanRemove ip => ip.utf8ByteSize < 2 ^ 32
  | .userCreate p | .userPasswordRotate p =>
    validName p.username = true ∧ p.desiredRevision ≠ 0 ∧
      (secretKeyId p.sealedPasswordV1).utf8ByteSize ≤ 128
  | .userDisable p | .userEnable p => validName p.username = true ∧ p.desiredRevision ≠ 0
  | .groupApply p =>
    (∀ name ∈ p.groupName :: p.members, validName name = true) ∧ p.desiredRevision ≠ 0
  | .certificateCsr p =>
    p.commonName ≠ "" ∧ p.dnsNames.length ≤ 32 ∧ validKeyBits p.keyBits = true ∧
      ∀ name ∈ p.commonName :: p.dnsNames, name.utf8ByteSize < 2 ^ 32
  | .certificateP12 p =>
    64 ≤ p.certificateChainPem.length ∧ p.certificateChainPem.length ≤ 256 * 1024 ∧
      (secretKeyId p.sealedPasswordV1).utf8ByteSize ≤ 128
  | .certificateRevoke p => p.reason.utf8ByteSize ≤ 128
  | .agentUpgrade p => validTargetVersion p.targetVersion = true
  | _ => True

/-! ## One payload on both sides -/

theorem canonicalStringsAndBytes_eq (values : List String) (value : Bytes) (revision : Nat) :
    canonicalStringsAndBytes values value revision =
      values.flatMap text.encode ++ (bytes.encode value ++ be 8 revision) := by
  simp [canonicalStringsAndBytes, canonicalStrings, bytes]
  rfl

theorem size_ne_zero_of_not_blank (h : isBlank value = false) : value.utf8ByteSize ≠ 0 := by
  intro hzero
  obtain rfl := String.utf8ByteSize_eq_zero_iff.1 hzero
  cases h

/-- A secret of the Controller is accepted by the node when the name of its key is not too long. -/
theorem canonicalSecret_ok (h : canonicalSecret o purpose = .ok b) :
    ∃ secret, o = some secret ∧
      (SecretAccepted secret purpose ↔ secret.keyId.utf8ByteSize ≤ 128) ∧
      b = secretMarker purpose ++ secret.ciphertext := by
  obtain ⟨secret, hsecret, h⟩ := get_bind.1 h
  obtain ⟨hchecks, h⟩ := require_bind.1 h
  cases h
  simp only [Bool.not_eq_true', Bool.or_eq_false_iff, bne_eq_false_iff_eq, decide_eq_false_iff_not,
    Nat.not_lt] at hchecks
  obtain ⟨⟨⟨⟨hversion, hpurpose⟩, hblank⟩, hlow⟩, hhigh⟩ := hchecks
  refine ⟨secret, hsecret, ⟨fun h => h.key.2, fun hkey => ?_⟩, ?_⟩
  · exact ⟨hversion, hpurpose, ⟨size_ne_zero_of_not_blank hblank, hkey⟩, hlow, hhigh⟩
  · rw [hversion, hpurpose]
    cases purpose <;> rfl

theorem userSecret_iff (h : userSecret p = .ok encoded) (b : Bytes) :
    canonicalSecretPayload p = .ok b ↔
      (validName p.username = true ∧ p.desiredRevision ≠ 0 ∧
        (secretKeyId p.sealedPasswordV1).utf8ByteSize ≤ 128) ∧ b = encoded := by
  obtain ⟨secretBytes, hsecret, h⟩ := bind_eq_ok.1 h
  obtain ⟨hlegacy, h⟩ := require_bind.1 h
  cases h
  obtain ⟨secret, hsealed, haccepted, rfl⟩ := canonicalSecret_ok (mapError_eq_ok_iff.1 hsecret)
  simp only [Bool.not_eq_true', Bool.or_eq_false_iff, bne_eq_false_iff_eq,
    length_eq_zero_iff] at hlegacy
  have hkey : secretKeyId p.sealedPasswordV1 = secret.keyId := by rw [hsealed]; rfl
  have hencoded : text.encode p.username ++ (text.encode secret.keyId ++
      (bytes.encode (secretMarker .userPassword ++ secret.ciphertext) ++
        u64.encode p.desiredRevision)) =
      canonicalStringsAndBytes [p.username, secretKeyId p.sealedPasswordV1]
        (secretMarker .userPassword ++ secret.ciphertext) p.desiredRevision.toNat := by
    rw [canonicalStringsAndBytes_eq, hkey]
    simp [u64, comap, nat]
  rw [canonicalSecretPayload_eq_ok, ← hencoded, hkey, ← haccepted]
  constructor
  · rintro ⟨secret', hp, rfl⟩
    cases hsealed.symm.trans hp.sealed
    exact ⟨⟨hp.username, hp.revision, hp.secret⟩, rfl⟩
  · rintro ⟨⟨hname, hrevision, hsecret⟩, rfl⟩
    exact ⟨secret, ⟨hname, hrevision, hlegacy.1, hlegacy.2, hsealed, hsecret⟩, rfl⟩

theorem named_iff (name : String) (values : List String) (revision : UInt64) (b : Bytes) :
    canonicalNamedPayload name values revision = .ok b ↔
      ((∀ value ∈ name :: values, validName value = true) ∧ revision ≠ 0) ∧
        b = canonicalStringsAndBytes (name :: values) [] revision.toNat := by
  rw [canonicalNamedPayload_eq_ok, canonicalStringsAndBytes_eq, and_assoc]
  rfl

theorem parseUnsigned_lt (h : parseUnsigned w value = some n) : n < 2 ^ w := by
  unfold parseUnsigned at h
  obtain ⟨-, h⟩ := ite_none_left_eq_some.1 h
  obtain ⟨hlt, h⟩ := ite_none_right_eq_some.1 h
  exact some.inj h ▸ hlt

theorem fits_of_validSessionId (h : validSessionId sessionId = true) : text.Fits sessionId := by
  unfold validSessionId at h
  split at h
  · rename_i n hn
    simp only [Bool.and_eq_true, beq_iff_eq] at h
    rw [← h.2]
    exact ConfigProfile.fits_toString (parseUnsigned_lt hn)
  · cases h

theorem session_iff (p : SessionRef) (b : Bytes) : canonicalSessionPayload p = .ok b ↔
    (validSessionId p.sessionId = true ∧ p.bootId.utf8ByteSize ≠ 0 ∧ p.bootId.utf8ByteSize ≤ 64) ∧
      b = canonicalStrings [p.sessionId, p.bootId] := by
  unfold canonicalSessionPayload
  rw [bind_eq_ok]
  simp only [requireClaim_eq_ok, Bool.and_eq_true, bne_iff_ne, decide_eq_true_eq]
  constructor
  · rintro ⟨_, ⟨⟨hsession, hne⟩, hle⟩, h⟩
    obtain ⟨-, h⟩ := appendSemanticBytes_bind_eq_ok.1 h
    obtain ⟨-, rfl⟩ := appendSemanticBytes_eq_ok.1 h
    exact ⟨⟨hsession, hne, hle⟩, by simp [canonicalStrings, bytes]⟩
  · rintro ⟨⟨hsession, hne, hle⟩, rfl⟩
    refine ⟨(), ⟨⟨hsession, hne⟩, hle⟩, ?_⟩
    refine appendSemanticBytes_bind_eq_ok.2 ⟨fits_of_validSessionId hsession, ?_⟩
    refine appendSemanticBytes_eq_ok.2 ⟨?_, by simp [canonicalStrings, bytes]⟩
    show p.bootId.utf8ByteSize < 2 ^ 32
    omega

theorem text_iff (value : String) (b : Bytes) : appendSemanticBytes [] (utf8 value) = .ok b ↔
    value.utf8ByteSize < 2 ^ 32 ∧ b = be 4 (utf8 value).length ++ utf8 value := by
  rw [appendSemanticBytes_eq_ok]
  rfl

theorem certificateCsr_iff (h : certificateCsr p = .ok encoded) (b : Bytes) :
    canonicalCertificateCsr p = .ok b ↔
      NodeRules (.certificateCsr p) ∧ b = encoded := by
  obtain ⟨hid, h⟩ := require_bind.1 h
  cases h
  have hid : p.certificateId.length = 16 := eq_of_beq hid
  have hfits : bytes.Fits p.certificateId := by
    show p.certificateId.length < 2 ^ 32
    omega
  unfold canonicalCertificateCsr
  rw [bind_eq_ok, canonicalStringsAndBytes_eq]
  simp only [requireClaim_eq_ok, Bool.and_eq_true, beq_iff_eq, bne_iff_ne, decide_eq_true_eq, hid,
    true_and, canonicalStringsAndBytes_eq_ok, hfits, NodeRules, ne_eq,
    String.utf8ByteSize_eq_zero_iff]
  constructor
  · rintro ⟨_, ⟨⟨hname, hcount⟩, hbits⟩, htexts, rfl⟩
    exact ⟨⟨hname, hcount, hbits, htexts⟩, rfl⟩
  · rintro ⟨⟨hname, hcount, hbits, htexts⟩, rfl⟩
    exact ⟨(), ⟨⟨hname, hcount⟩, hbits⟩, htexts, rfl⟩

theorem certificateRevoke_iff (h : certificateRevoke p = .ok encoded) (b : Bytes) :
    canonicalCertificateRevoke p = .ok b ↔
      NodeRules (.certificateRevoke p) ∧ b = encoded := by
  obtain ⟨hid, h⟩ := require_bind.1 h
  obtain ⟨hversion, h⟩ := require_bind.1 h
  cases h
  simp only [Bool.not_eq_true', Bool.or_eq_false_iff, bne_eq_false_iff_eq] at hid
  have hversion := bne_iff_ne.1 hversion
  have hne := size_ne_zero_of_not_blank hid.2
  have hfits : bytes.Fits p.certificateId := by
    show p.certificateId.length < 2 ^ 32
    omega
  unfold canonicalCertificateRevoke
  rw [bind_eq_ok, canonicalStringsAndBytes_eq]
  simp only [requireClaim_eq_ok, Bool.and_eq_true, beq_iff_eq, bne_iff_ne, decide_eq_true_eq, hid.1,
    hversion, hne, ne_eq, not_false_eq_true, true_and, and_true, canonicalStringsAndBytes_eq_ok,
    hfits, NodeRules, forall_mem_singleton]
  constructor
  · rintro ⟨_, hle, -, rfl⟩
    exact ⟨hle, rfl⟩
  · rintro ⟨hle, rfl⟩
    refine ⟨(), hle, ?_, rfl⟩
    show p.reason.utf8ByteSize < 2 ^ 32
    omega

theorem certificateP12_iff (h : certificateP12 p = .ok encoded) (b : Bytes) :
    canonicalCertificateP12 p = .ok b ↔
      NodeRules (.certificateP12 p) ∧ b = encoded := by
  unfold certificateP12 at h
  obtain ⟨hids, h⟩ := require_bind.1 h
  obtain ⟨secretBytes, hsecret, h⟩ := bind_eq_ok.1 h
  obtain ⟨expires, hexpires, h⟩ := bind_eq_ok.1 h
  obtain ⟨hchecks, h⟩ := require_bind.1 h
  cases h
  obtain ⟨secret, hsealed, haccepted, rfl⟩ := canonicalSecret_ok (mapError_eq_ok_iff.1 hsecret)
  have hexpires := get_eq_ok.1 hexpires
  simp only [Bool.not_eq_true', Bool.or_eq_false_iff, bne_eq_false_iff_eq, beq_eq_false_iff_ne,
    Bool.not_eq_false', length_eq_zero_iff, Timestamp.isValid, Bool.and_eq_true,
    decide_eq_true_eq] at hids hchecks
  obtain ⟨⟨⟨hpassword, hkeyId⟩, hversion⟩, ⟨⟨-, hlow⟩, hhigh⟩⟩ := hchecks
  have hkey : secretKeyId p.sealedPasswordV1 = secret.keyId := by rw [hsealed]; rfl
  have hnanos : uint32 expires.nanos = expires.nanos.toInt.toNat := by
    have := uint32_eq_iff.2 hlow
    omega
  have hencoded : p12Bytes p secret expires =
      canonicalStringsAndBytes [secretKeyId p.sealedPasswordV1]
        (p.certificateId ++ p.artifactId ++ p.certificateChainPem ++
          (secretMarker .certificateP12Password ++ secret.ciphertext) ++
          writeInt64 expires.seconds ++ be 4 (uint32 expires.nanos))
        p.certificateVersion.toNat := by
    rw [canonicalStringsAndBytes_eq, hkey, hnanos, writeInt64_eq]
    simp [p12Bytes, sealedChain, p12Marker, expiryBytes, u64, comap, nat]
  rw [canonicalCertificateP12_eq_ok, ← hencoded]
  simp only [NodeRules]
  rw [hkey, ← haccepted]
  constructor
  · rintro ⟨secret', expires', hp, rfl⟩
    cases hsealed.symm.trans hp.sealed
    cases hexpires.symm.trans hp.expiry
    exact ⟨⟨hp.chain.1, hp.chain.2, hp.secret⟩, rfl⟩
  · rintro ⟨⟨hchainLow, hchainHigh, hsecret⟩, rfl⟩
    exact ⟨secret, expires, ⟨hsealed, hexpires, hids.1, hids.2, ⟨hchainLow, hchainHigh⟩, hpassword,
      hkeyId, hversion, ⟨hlow, by omega⟩, hsecret⟩, rfl⟩

theorem configPlan_agrees (h : configPlan p version = .ok encoded) :
    canonicalConfigPlan p version = .ok encoded := by
  obtain ⟨hlength, h⟩ := require_bind.1 h
  cases h
  exact require_bind.2 ⟨hlength, rfl⟩

theorem configApply_agrees (h : configApply p = .ok encoded) :
    canonicalConfigApply p = .ok encoded := by
  obtain ⟨hchecks, h⟩ := require_bind.1 h
  cases h
  simp only [Bool.not_eq_true', Bool.or_eq_false_iff, bne_eq_false_iff_eq,
    beq_eq_false_iff_ne] at hchecks
  refine require_bind.2 ⟨?_, rfl⟩
  simp [hchecks.1.1, hchecks.1.2, hchecks.2]

/-- The digest of a complete configuration is the same on both sides. -/
theorem completeCandidate_of_candidateHash (h : candidateHash P L o = some x) :
    completeCandidate P o = .ok x := by
  obtain ⟨candidate, ho, h⟩ := bind_eq_some_iff.1 h
  obtain ⟨canonical, hcanonical, h⟩ := bind_eq_some_iff.1 h
  rw [ConfigProfile.canonical_eq] at hcanonical
  refine get_bind.2 ⟨candidate, ho, ?_⟩
  refine get_bind.2 ⟨canonical, hcanonical, ?_⟩
  exact congrArg ok (some.inj h)

theorem completeConfigPlan_agrees (h : completeConfigPlan P L envelope p version = .ok encoded) :
    canonicalCompletePlan P envelope p version = .ok encoded := by
  obtain ⟨⟨candidate, digest⟩, hcandidate, h⟩ := bind_eq_ok.1 h
  obtain ⟨hchecks, h⟩ := require_bind.1 h
  obtain rfl := ok.inj h
  have hcandidate := completeCandidate_of_candidateHash (get_eq_ok.1 hcandidate)
  simp only [Bool.not_eq_true', Bool.or_eq_false_iff, bne_eq_false_iff_eq, decide_eq_false_iff_not,
    not_not] at hchecks
  obtain ⟨⟨hversion, hdigest⟩, hnode⟩ := hchecks
  refine bind_eq_ok.2 ⟨_, hcandidate, ?_⟩
  refine require_bind.2 ⟨?_, congrArg ok hdigest.symm⟩
  simp [hversion, hdigest, hnode]

theorem completeConfigApply_agrees (h : completeConfigApply P L envelope p version = .ok encoded) :
    canonicalCompleteApply P envelope p version = .ok encoded := by
  obtain ⟨⟨candidate, digest⟩, hcandidate, h⟩ := bind_eq_ok.1 h
  obtain ⟨expires, hexpires, h⟩ := bind_eq_ok.1 h
  obtain ⟨hchecks, h⟩ := require_bind.1 h
  cases h
  have hcandidate := completeCandidate_of_candidateHash (get_eq_ok.1 hcandidate)
  simp only [Bool.not_eq_true', Bool.or_eq_false_iff, bne_eq_false_iff_eq, decide_eq_false_iff_not,
    not_not, Bool.not_eq_false', Timestamp.isValid, Bool.and_eq_true, decide_eq_true_eq,
    UInt64.not_le, and_assoc] at hchecks
  obtain ⟨hversion, hdigest, hnode, hmaterialized, hcurrent, hrevision, hplan, hsecondsLow,
    hsecondsHigh, hnanosLow, hnanosHigh, happroval, hrequest⟩ := hchecks
  have hnanos : be 4 (uint32 expires.nanos) = beInt 4 expires.nanos.toInt := rfl
  refine bind_eq_ok.2 ⟨_, hcandidate, ?_⟩
  refine get_bind.2 ⟨expires, get_eq_ok.1 hexpires, ?_⟩
  refine require_bind.2 ⟨?_, ?_⟩
  · simp [hversion, hdigest, hnode, hmaterialized, hcurrent, hrevision, hplan, hsecondsLow,
      hsecondsHigh, hnanosLow, hnanosHigh, happroval, hrequest]
  · rw [hnanos, writeInt64_eq, hdigest]
    rfl

theorem agentUpgrade_iff (h : agentUpgrade L p = .ok encoded) (b : Bytes) :
    canonicalAgentUpgrade p = .ok b ↔ NodeRules (.agentUpgrade p) ∧ b = encoded := by
  obtain ⟨hchecks, h⟩ := require_bind.1 h
  cases h
  simp only [Bool.not_eq_true', Bool.or_eq_false_iff, bne_eq_false_iff_eq, Bool.not_eq_false']
    at hchecks
  obtain ⟨⟨hversion, hpackage⟩, harchitecture⟩ := hchecks
  have hfits : bytes.Fits p.packageSha256 ∧
      ∀ value ∈ [p.targetVersion, p.architecture], text.Fits value := by
    have hsize : p.targetVersion.utf8ByteSize ≤ 128 := by
      unfold validAgentUpgradeTargetVersion at hversion
      split at hversion
      · cases hversion
      · rename_i hbounds
        simp only [Bool.or_eq_true, decide_eq_true_eq, not_or] at hbounds
        omega
    refine ⟨?_, ?_⟩
    · show p.packageSha256.length < 2 ^ 32
      omega
    · simp only [mem_cons, not_mem_nil, or_false, forall_eq_or_imp, forall_eq]
      constructor
      · show p.targetVersion.utf8ByteSize < 2 ^ 32
        omega
      · simp only [validAgentUpgradeArchitecture, contains_cons, contains_nil,
          Bool.or_false, Bool.or_eq_true, beq_iff_eq] at harchitecture
        show (utf8 p.architecture).length < 2 ^ 32
        rcases harchitecture with h | h <;> rw [h] <;> decide
  unfold canonicalAgentUpgrade
  rw [bind_eq_ok, canonicalStringsAndBytes_eq]
  simp only [requireClaim_eq_ok, Bool.and_eq_true, beq_iff_eq, hpackage,
    canonicalStringsAndBytes_eq_ok,
    hfits.1, true_and, and_true, NodeRules]
  constructor
  · rintro ⟨_, ⟨hvalid, -⟩, -, rfl⟩
    exact ⟨hvalid, rfl⟩
  · rintro ⟨hvalid, rfl⟩
    exact ⟨(), ⟨hvalid, harchitecture⟩, hfits.2, rfl⟩

/-- **One payload on both sides.** The node accepts a payload of the Controller exactly when it
keeps the node's own rules, and encodes it alike. -/
theorem canonicalPayload_iff
    (h : canonicalPayload P L envelope version (some payload) = .ok (kind, encoded)) :
    kind = payload.kind ∧ ∀ b, Ocservia.canonicalPayload P envelope version payload = .ok b ↔
      NodeRules payload ∧ b = encoded := by
  -- a kind without rules of its own: the node accepts whatever the Controller accepts
  have plain : ∀ {x : Except AuthorizationError Bytes}, x = .ok encoded →
      ∀ b, x = .ok b ↔ True ∧ b = encoded := fun h b => by rw [h, true_and, ok.injEq, eq_comm]
  have fixed : ∀ {k : Nat} {x : Except String Bytes},
      x.map (fun b => (k, b)) = .ok (kind, encoded) → kind = k ∧ x = .ok encoded := by
    intro k x hx
    obtain ⟨b, hb, hpair⟩ := map_eq_ok_iff.1 hx
    cases hpair
    exact ⟨rfl, hb⟩
  cases payload with
  | sessionDisconnect p | sessionTerminate p =>
    cases h
    exact ⟨rfl, session_iff p⟩
  | userCreate | userPasswordRotate =>
    obtain ⟨rfl, hp⟩ := fixed h
    exact ⟨rfl, userSecret_iff hp⟩
  | userDisable p | userEnable p =>
    cases h
    refine ⟨rfl, fun b => (named_iff p.username [] p.desiredRevision b).trans ?_⟩
    rw [forall_mem_singleton]
    rfl
  | groupApply p =>
    cases h
    exact ⟨rfl, named_iff p.groupName p.members p.desiredRevision⟩
  | configPlan p =>
    obtain ⟨rfl, hp⟩ := fixed h
    exact ⟨rfl, plain (configPlan_agrees hp)⟩
  | configApply p =>
    obtain ⟨rfl, hp⟩ := fixed h
    exact ⟨rfl, plain (configApply_agrees hp)⟩
  | completeConfigPlan p =>
    obtain ⟨rfl, hp⟩ := fixed h
    exact ⟨rfl, plain (completeConfigPlan_agrees hp)⟩
  | completeConfigApply p =>
    obtain ⟨rfl, hp⟩ := fixed h
    exact ⟨rfl, plain (completeConfigApply_agrees hp)⟩
  | serviceReload | syntheticNoop =>
    cases h
    exact ⟨rfl, plain rfl⟩
  | syntheticEcho message =>
    cases h
    exact ⟨rfl, text_iff message⟩
  | ipBanRemove ip =>
    obtain ⟨rfl, hp⟩ := fixed h
    obtain ⟨_, hp⟩ := of_bind hp
    cases hp
    refine ⟨rfl, fun b => (text_iff ip b).trans ?_⟩
    rw [canonicalStrings, flatMap_singleton]
    rfl
  | certificateCsr p =>
    obtain ⟨rfl, hp⟩ := fixed h
    exact ⟨rfl, certificateCsr_iff hp⟩
  | certificateP12 p =>
    obtain ⟨rfl, hp⟩ := fixed h
    exact ⟨rfl, certificateP12_iff hp⟩
  | certificateRevoke p =>
    obtain ⟨rfl, hp⟩ := fixed h
    exact ⟨rfl, certificateRevoke_iff hp⟩
  | agentUpgrade p =>
    obtain ⟨rfl, hp⟩ := fixed h
    exact ⟨rfl, agentUpgrade_iff hp⟩
  | simulationProbe => cases h

/-- Of an envelope that the Controller hashes the node has a transcript, the same, exactly when the
payload keeps its rules. -/
theorem semanticPreimage_iff (h : preimage P L envelope version = .ok encoded) :
    ∃ payload, envelope.payload = some payload ∧ ∀ b,
      semanticPreimage P envelope version = .ok b ↔ NodeRules payload ∧ b = encoded := by
  obtain ⟨⟨kind, canonical⟩, hcanonical, h⟩ := bind_eq_ok.1 h
  obtain ⟨domain, hdomain, h⟩ := bind_eq_ok.1 h
  cases h
  cases hp : envelope.payload with
  | none =>
    rw [hp] at hcanonical
    cases hcanonical
  | some payload =>
    rw [hp] at hcanonical
    obtain ⟨rfl, hagrees⟩ := canonicalPayload_iff hcanonical
    have hdomain : semanticDomain version = .ok domain := by
      cases version with
      | unspecified => cases hdomain
      | v1 | v2 => exact congrArg ok (ok.inj hdomain)
    refine ⟨payload, rfl, fun b => ⟨fun hb => ?_, fun ⟨hrules, hb⟩ => ?_⟩⟩
    · obtain ⟨payload', canonical', domain', hp', hcanonical', hdomain', rfl⟩ :=
        semanticPreimage_ok P hb
      cases hp.symm.trans hp'
      cases hdomain.symm.trans hdomain'
      obtain ⟨hrules, rfl⟩ := (hagrees canonical').1 hcanonical'
      exact ⟨hrules, rfl⟩
    · unfold semanticPreimage
      rw [hp]
      refine bind_eq_ok.2 ⟨canonical, (hagrees canonical).2 ⟨hrules, rfl⟩, ?_⟩
      exact bind_eq_ok.2 ⟨domain, hdomain, congrArg ok hb.symm⟩

/-- The node's check of a hash that the Controller computed. -/
theorem verifyPopulated_iff (h : populate P L version original = .ok populated)
    (proof : Option CommandAuthorizationProof) :
    ∃ payload, populated.payload = some payload ∧
      ((∃ hash, verifySemanticPayloadHash P { populated with authorization := proof } = .ok hash) ↔
        NodeRules payload) := by
  obtain ⟨digest, hdigest, h⟩ := bind_eq_ok.1 h
  obtain ⟨encoded, hencoded, rfl⟩ := map_eq_ok_iff.1 hdigest
  cases h
  obtain ⟨payload, hpayload, hagrees⟩ := semanticPreimage_iff hencoded
  refine ⟨payload, hpayload, ?_⟩
  have hversion : tryFrom version.toInt32 = some version := by
    cases version <;> rfl
  simp only [verifySemanticPayloadHash_eq_ok, semanticPayloadHash, map_eq_ok_iff]
  constructor
  · rintro ⟨hash, version', hversion', ⟨b, hb, -⟩, -⟩
    cases hversion.symm.trans hversion'
    exact ((hagrees b).1 hb).1
  · intro hrules
    exact ⟨P.sha256 encoded, version, hversion, ⟨encoded, (hagrees encoded).2 ⟨hrules, rfl⟩, rfl⟩,
      rfl⟩

end SemanticPayload

/-- **Two implementations of one hash.** Whatever both sides accept they hash the same bytes of. The
node accepts the hash of a signed envelope exactly when it is the digest of a transcript that the
node accepts; if the Controller computed it, exactly when the payload keeps the rules that only the
node has. -/
theorem semanticHash_agrees (P : Platform) (L : SemanticPayload.Library) :
    (∀ envelope version b b', SemanticPayload.preimage P L envelope version = .ok b →
      semanticPreimage P envelope version = .ok b' → b = b') ∧
    ∀ (signer : CommandAuth.Signer) envelope signed, signer.authorize P envelope = .ok signed →
      ((∃ hash, verifySemanticPayloadHash P signed = .ok hash) ↔
        ∃ version b, signed.semanticPayloadHashVersion = version.toInt32 ∧
          semanticPreimage P signed version = .ok b ∧
          (P.sha256 b).1 = signed.semanticPayloadSha256) ∧
      ∀ version original, SemanticPayload.populate P L version original = .ok envelope →
        ∃ payload, envelope.payload = some payload ∧
          ((∃ hash, verifySemanticPayloadHash P signed = .ok hash) ↔
            SemanticPayload.NodeRules payload) := by
  refine ⟨fun envelope version b b' h h' => ?_, fun signer envelope signed hsigned => ⟨?_, ?_⟩⟩
  · obtain ⟨payload, -, hagrees⟩ := SemanticPayload.semanticPreimage_iff h
    exact ((hagrees b').1 h').2.symm
  · simp only [verifySemanticPayloadHash_eq_ok, semanticPayloadHash, map_eq_ok_iff]
    constructor
    · rintro ⟨_, version, hversion, ⟨b, hb, rfl⟩, hequal⟩
      exact ⟨version, b, eq_of_tryFrom hversion, hb, hequal⟩
    · rintro ⟨version, b, hversion, hb, hequal⟩
      refine ⟨P.sha256 b, version, ?_, ⟨b, hb, rfl⟩, hequal⟩
      rw [hversion]
      cases version <;> rfl
  · intro version original hpopulated
    unfold CommandAuth.Signer.authorize at hsigned
    iterate 2 obtain ⟨_, hsigned⟩ := of_bind hsigned
    cases hsigned
    exact SemanticPayload.verifyPopulated_iff hpopulated _

def sampleGoLibrary : SemanticPayload.Library where
  parseIP ip := some ip
  semverIsValid _ := true
  acceptsIPv6 _ := false

/-- A command that disables `username`, with the hash of the sample platform. -/
def disableNamed (username : String) : CommandEnvelope :=
  sampleEnvelope .executeOrReplay (.userDisable ⟨username, 3⟩) "user.disable" "ocserv.users.write"

def disableSigned (username : String) : CommandEnvelope :=
  { disableNamed username with
    authorization := some ⟨1, sampleSigner.keyId samplePlatform, List.replicate 64 0⟩ }

/-- The hash of a command for a user with a proper name is accepted. -/
theorem properName_accepted :
    SemanticPayload.populateV2 samplePlatform sampleGoLibrary (disableNamed "alice") =
        .ok (disableNamed "alice") ∧
      sampleSigner.authorize samplePlatform (disableNamed "alice") = .ok (disableSigned "alice") ∧
      ∃ hash, verifySemanticPayloadHash samplePlatform (disableSigned "alice") = .ok hash := by
  have hpopulated :
      SemanticPayload.populateV2 samplePlatform sampleGoLibrary (disableNamed "alice") =
      .ok (disableNamed "alice") := by decide +kernel
  have hsigned : sampleSigner.authorize samplePlatform (disableNamed "alice") =
      .ok (disableSigned "alice") := by decide +kernel
  refine ⟨hpopulated, hsigned, ?_⟩
  obtain ⟨payload, hpayload, haccepted⟩ :=
    ((semanticHash_agrees samplePlatform sampleGoLibrary).2 _ _ _ hsigned).2 _ _ hpopulated
  cases hpayload
  exact haccepted.2 ⟨by decide +kernel, by decide⟩

/-- A name that is no identifier is hashed and signed, and the node refuses the hash. The signer has
no rule for names; `validateMutation` refuses it before an envelope is built. -/
theorem spacedName_refused :
    SemanticPayload.populateV2 samplePlatform sampleGoLibrary (disableNamed "a b") =
        .ok (disableNamed "a b") ∧
      sampleSigner.authorize samplePlatform (disableNamed "a b") = .ok (disableSigned "a b") ∧
      verifySemanticPayloadHash samplePlatform (disableSigned "a b") =
        .error (.claimsInvalid "name_invalid") := by
  refine ⟨?_, ?_, ?_⟩ <;> decide +kernel

end Ocservia
