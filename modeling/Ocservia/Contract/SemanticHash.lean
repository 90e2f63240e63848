import Ocservia.Lib.Checked
import Ocservia.Contract.Text

/-!
# The semantic payload hash

`canonical_semantic_payload_hash` of `command-authorization/src/lib.rs`: the identity of a command
is the digest of a hand-specified transcript, never of protobuf bytes. The transcript is a domain
separator for the version, the node, the expected revision, the number of the payload kind and the
canonical payload (`semanticPreimage`); the digest is taken last (`semanticPayloadHash`).

The number of the payload kind is part of the transcript, so two envelopes of one node with equal
transcripts have the same kind (`semanticPreimage_kind`).
-/

namespace Ocservia

open Wire Checked

inductive AuthorizationError where
  | missing
  | unsupportedVersion
  | unknownKey
  | signatureMalformed
  | signatureInvalid
  | claimsInvalid (code : String)
  | payloadUnsupported
deriving DecidableEq

def AuthorizationError.code : AuthorizationError → String
  | .missing => "command_authorization_missing"
  | .unsupportedVersion => "command_authorization_version_unsupported"
  | .unknownKey => "command_authorization_key_unknown"
  | .signatureMalformed => "command_authorization_signature_malformed"
  | .signatureInvalid => "command_authorization_signature_invalid"
  | .claimsInvalid code => code
  | .payloadUnsupported => "command_authorization_payload_unsupported"

def invalidClaim {α : Type} (code : String) : Except AuthorizationError α :=
  .error (.claimsInvalid code)

/-- Refuse with `code` unless the check passes. -/
def requireClaim (check : Bool) (code : String) : Except AuthorizationError Unit :=
  require check (.claimsInvalid code)

/-- The value of an option, or a refusal with `code`. -/
def claimOr {α : Type} (value : Option α) (code : String) : Except AuthorizationError α :=
  get value (.claimsInvalid code)

/-! ## Canonical payloads -/

def appendSemanticBytes (target value : Bytes) : Except AuthorizationError Bytes := do
  let encoded ← claimOr (lengthPrefixed value) "payload_size_invalid"
  return target ++ encoded

def validateSemanticName (value : String) : Except AuthorizationError Unit :=
  requireClaim (validName value) "name_invalid"

def validateSemanticRevision (value : UInt64) : Except AuthorizationError Unit :=
  requireClaim (value != 0) "revision_invalid"

/-- The values of `canonical_named_payload`, each checked and appended. -/
def appendNames (target : Bytes) : List String → Except AuthorizationError Bytes
  | [] => .ok target
  | value :: values => do
    validateSemanticName value
    appendNames (← appendSemanticBytes target (utf8 value)) values

def canonicalNamedPayload (name : String) (values : List String) (revision : UInt64) :
    Except AuthorizationError Bytes := do
  validateSemanticName name
  validateSemanticRevision revision
  let out ← appendSemanticBytes [] (utf8 name)
  let out ← appendNames out values
  return out ++ be 4 0 ++ be 8 revision.toNat

def canonicalSealedSecret (secret : SealedSecretV1) (purpose : SealedSecretPurpose) :
    Except AuthorizationError Bytes := do
  requireClaim
    (secret.version == sealedSecretVersionV1 && secret.purpose == purpose.toInt32 &&
      secret.keyId.utf8ByteSize != 0 && secret.keyId.utf8ByteSize ≤ 128 &&
      32 ≤ secret.ciphertext.length && secret.ciphertext.length ≤ 16 * 1024)
    "sealed_secret_invalid"
  return be 4 secret.version.toInt.toNat ++ be 4 secret.purpose.toInt.toNat ++ secret.ciphertext

def canonicalSecretPayload (p : UserSecret) : Except AuthorizationError Bytes := do
  validateSemanticName p.username
  validateSemanticRevision p.desiredRevision
  requireClaim (p.sealedPassword.isEmpty && p.secretKeyId.utf8ByteSize == 0)
    "sealed_secret_invalid"
  let secret ← claimOr p.sealedPasswordV1 "sealed_secret_missing"
  let secretBytes ← canonicalSealedSecret secret .userPassword
  let out ← appendSemanticBytes [] (utf8 p.username)
  let out ← appendSemanticBytes out (utf8 secret.keyId)
  let out ← appendSemanticBytes out secretBytes
  return out ++ be 8 p.desiredRevision.toNat

/-- The strings of `canonical_strings_and_bytes`, appended in order. -/
def appendStrings (target : Bytes) : List String → Except AuthorizationError Bytes
  | [] => .ok target
  | value :: values => do appendStrings (← appendSemanticBytes target (utf8 value)) values

def canonicalStringsAndBytes (values : List String) (bytes : Bytes) (revision : Nat) :
    Except AuthorizationError Bytes := do
  let out ← appendStrings [] values
  let out ← appendSemanticBytes out bytes
  return out ++ be 8 revision

/-- A session number in its printed form, which is not zero. -/
def validSessionId (sessionId : String) : Bool :=
  match parseUnsigned 64 sessionId with
  | some n => n != 0 && toString n == sessionId
  | none => false

def canonicalSessionPayload (p : SessionRef) : Except AuthorizationError Bytes := do
  requireClaim
    (validSessionId p.sessionId && p.bootId.utf8ByteSize != 0 && p.bootId.utf8ByteSize ≤ 64)
    "session_id_invalid"
  let out ← appendSemanticBytes [] (utf8 p.sessionId)
  appendSemanticBytes out (utf8 p.bootId)

/-- The canonical bytes of a `ConfigPlan`: version 2 also binds the expected revision. -/
def canonicalConfigPlan (p : ConfigPlan) (version : SemanticPayloadHashVersion) :
    Except AuthorizationError Bytes := do
  requireClaim (p.candidateHash.length == 32) "candidate_hash_invalid"
  return p.candidateHash ++ if version = .v2 then be 8 p.expectedRevision.toNat else []

/-- The canonical bytes of a `ConfigApply`. -/
def canonicalConfigApply (p : ConfigApply) : Except AuthorizationError Bytes := do
  requireClaim
    (p.candidateHash.length == 32 && p.expectedCurrentHash.length == 32 && p.desiredRevision != 0)
    "config_apply_invalid"
  return p.candidateHash ++ p.expectedCurrentHash ++ be 8 p.desiredRevision.toNat

/-- The two's complement of a signed number in `k` bytes. -/
def beInt (k : Nat) (n : Int) : Bytes := be k (n % (256 ^ k : Nat)).toNat

section
variable (P : Platform)

/-- The candidate of a complete configuration, whose digest is the given one. -/
def completeCandidate (candidate : Option CompleteConfigCandidate) :
    Except AuthorizationError (CompleteConfigCandidate × Bytes) := do
  let candidate ← claimOr candidate "complete_config_missing"
  let canonical ← claimOr (canonicalProfile candidate) "complete_config_invalid"
  return (candidate, (P.sha256 canonical).1)

section
variable (envelope : CommandEnvelope)

/-- The canonical bytes of a `CompleteConfigPlan`. -/
def canonicalCompletePlan (p : CompleteConfigPlan)
    (version : SemanticPayloadHashVersion) : Except AuthorizationError Bytes := do
  let (candidate, digest) ← completeCandidate P p.candidate
  requireClaim (version = .v2 && candidate.nodeId == envelope.nodeId && digest == p.candidateHash)
    "complete_config_identity_invalid"
  return p.candidateHash

/-- The canonical bytes of a `CompleteConfigApply`. -/
def canonicalCompleteApply (p : CompleteConfigApply)
    (version : SemanticPayloadHashVersion) : Except AuthorizationError Bytes := do
  let (candidate, digest) ← completeCandidate P p.candidate
  let expiry ← claimOr p.planExpiresAt "complete_config_expiry_missing"
  requireClaim
    (version = .v2 && candidate.nodeId == envelope.nodeId && digest == p.candidateHash &&
      p.materializedHash.length == 32 && p.expectedCurrentHash.length == 32 &&
      candidate.expectedRevision < p.desiredRevision && p.planId.length == 16 &&
      -62135596800 ≤ expiry.seconds.toInt && expiry.seconds.toInt ≤ 253402300799 &&
      0 ≤ expiry.nanos.toInt && expiry.nanos.toInt < 1000000000 &&
      envelope.approvalId.length == 16 && envelope.approvalRequestSha256.length == 32)
    "complete_config_identity_invalid"
  return p.candidateHash ++ p.materializedHash ++ p.expectedCurrentHash ++
    be 8 p.desiredRevision.toNat ++ p.planId ++ beInt 8 expiry.seconds.toInt ++
    beInt 4 expiry.nanos.toInt ++ envelope.approvalId ++ envelope.approvalRequestSha256

/-- The key sizes a certificate request may ask for. -/
def validKeyBits (bits : UInt32) : Bool := bits == 2048 || bits == 3072 || bits == 4096

/-- The canonical bytes of a `CertificateCsr`. -/
def canonicalCertificateCsr (p : CertificateCsr) : Except AuthorizationError Bytes := do
  requireClaim
    (p.certificateId.length == 16 && p.commonName.utf8ByteSize != 0 && p.dnsNames.length ≤ 32 &&
      validKeyBits p.keyBits)
    "certificate_csr_invalid"
  canonicalStringsAndBytes (p.commonName :: p.dnsNames) p.certificateId p.keyBits.toNat

/-- The canonical bytes of a `CertificateP12`. -/
def canonicalCertificateP12 (p : CertificateP12) : Except AuthorizationError Bytes := do
  let secret ← claimOr p.sealedPasswordV1 "certificate_p12_secret_missing"
  let expires ← claimOr p.artifactExpiresAt "certificate_p12_expiry_missing"
  requireClaim
    (p.certificateId.length == 16 && p.artifactId.length == 16 &&
      64 ≤ p.certificateChainPem.length && p.certificateChainPem.length ≤ 256 * 1024 &&
      p.sealedPassword.isEmpty && p.secretKeyId.utf8ByteSize == 0 && p.certificateVersion != 0 &&
      0 ≤ expires.nanos.toInt && expires.nanos.toInt ≤ 999999999)
    "certificate_p12_invalid"
  let secretBytes ← canonicalSealedSecret secret .certificateP12Password
  canonicalStringsAndBytes [secret.keyId]
    (p.certificateId ++ p.artifactId ++ p.certificateChainPem ++ secretBytes ++
      beInt 8 expires.seconds.toInt ++ be 4 expires.nanos.toInt.toNat)
    p.certificateVersion.toNat

/-- The canonical bytes of a `CertificateRevoke`. -/
def canonicalCertificateRevoke (p : CertificateRevoke) : Except AuthorizationError Bytes := do
  requireClaim
    (p.certificateId.length == 16 && p.reason.utf8ByteSize != 0 && p.reason.utf8ByteSize ≤ 128 &&
      p.certificateVersion != 0)
    "certificate_revoke_invalid"
  canonicalStringsAndBytes [p.reason] p.certificateId p.certificateVersion.toNat

/-- The canonical bytes of an `AgentUpgrade`. -/
def canonicalAgentUpgrade (p : AgentUpgrade) : Except AuthorizationError Bytes := do
  requireClaim
    (validTargetVersion p.targetVersion && p.packageSha256.length == 32 &&
      validArchitecture p.architecture)
    "agent_upgrade_invalid"
  canonicalStringsAndBytes [p.targetVersion, p.architecture] p.packageSha256 0

/-! ## The transcript and its digest -/

/-- The number of a payload kind, which is its field number in the envelope. -/
def Payload.kind : Payload → Nat
  | .sessionDisconnect _ => 100
  | .userCreate _ => 101
  | .userDisable _ => 102
  | .configPlan _ => 103
  | .configApply _ => 104
  | .serviceReload => 105
  | .simulationProbe => 106
  | .syntheticNoop => 107
  | .syntheticEcho _ => 108
  | .sessionTerminate _ => 112
  | .ipBanRemove _ => 113
  | .userPasswordRotate _ => 114
  | .groupApply _ => 115
  | .userEnable _ => 116
  | .certificateCsr _ => 117
  | .certificateP12 _ => 118
  | .certificateRevoke _ => 119
  | .agentUpgrade _ => 128
  | .completeConfigPlan _ => 129
  | .completeConfigApply _ => 130

section
variable (version : SemanticPayloadHashVersion)

/-- The canonical payload bytes of a command. -/
def canonicalPayload : Payload → Except AuthorizationError Bytes
  | .syntheticNoop | .serviceReload => .ok []
  | .syntheticEcho message => appendSemanticBytes [] (utf8 message)
  | .sessionDisconnect p | .sessionTerminate p => canonicalSessionPayload p
  | .configPlan p => canonicalConfigPlan p version
  | .configApply p => canonicalConfigApply p
  | .completeConfigPlan p => canonicalCompletePlan P envelope p version
  | .completeConfigApply p => canonicalCompleteApply P envelope p version
  | .certificateCsr p => canonicalCertificateCsr p
  | .certificateP12 p => canonicalCertificateP12 p
  | .certificateRevoke p => canonicalCertificateRevoke p
  | .agentUpgrade p => canonicalAgentUpgrade p
  | .ipBanRemove ip => appendSemanticBytes [] (utf8 ip)
  | .userCreate p | .userPasswordRotate p => canonicalSecretPayload p
  | .userDisable p | .userEnable p => canonicalNamedPayload p.username [] p.desiredRevision
  | .groupApply p => canonicalNamedPayload p.groupName p.members p.desiredRevision
  | .simulationProbe => .error .payloadUnsupported

/-- The domain separator of a hash version. -/
def semanticDomain : SemanticPayloadHashVersion → Except AuthorizationError Bytes
  | .v1 => .ok (utf8 "ocservia.command.semantic-hash.v1\x00")
  | .v2 => .ok (utf8 "ocservia.command.semantic-hash.v2\x00")
  | .unspecified => invalidClaim "semantic_hash_version_unsupported"

/-- The bytes that `canonical_semantic_payload_hash` digests. -/
def semanticPreimage : Except AuthorizationError Bytes := do
  match envelope.payload with
  | none => .error .payloadUnsupported
  | some payload =>
    let canonical ← canonicalPayload P envelope version payload
    let domain ← semanticDomain version
    return domain ++ envelope.nodeId ++ be 8 envelope.expectedRevision.toNat ++
      be 4 payload.kind ++ canonical

/-- `canonical_semantic_payload_hash`. -/
def semanticPayloadHash : Except AuthorizationError (FixedBytes 32) :=
  (semanticPreimage P envelope version).map P.sha256

end

def verifySemanticPayloadHash : Except AuthorizationError (FixedBytes 32) := do
  let version :=
    (SemanticPayloadHashVersion.tryFrom envelope.semanticPayloadHashVersion).getD .unspecified
  requireClaim (version != .unspecified) "semantic_hash_version_unsupported"
  let recomputed ← semanticPayloadHash P envelope version
  requireClaim (envelope.semanticPayloadSha256.length == 32) "semantic_payload_hash_missing"
  requireClaim (recomputed.1 == envelope.semanticPayloadSha256) "semantic_payload_hash_mismatch"
  return recomputed

end

theorem verifySemanticPayloadHash_eq_ok {envelope : CommandEnvelope} {hash : FixedBytes 32} :
    verifySemanticPayloadHash P envelope = .ok hash ↔
      ∃ version, SemanticPayloadHashVersion.tryFrom envelope.semanticPayloadHashVersion =
          some version ∧ semanticPayloadHash P envelope version = .ok hash ∧
        hash.1 = envelope.semanticPayloadSha256 := by
  constructor
  · intro h
    obtain ⟨hversion, h⟩ := require_bind.1 h
    obtain ⟨recomputed, hrecomputed, h⟩ := bind_eq_ok.1 h
    obtain ⟨_, h⟩ := of_bind h
    obtain ⟨_, hequal, h⟩ := bind_eq_ok.1 h
    cases h
    cases hv : SemanticPayloadHashVersion.tryFrom envelope.semanticPayloadHashVersion with
    | none =>
      rw [hv] at hversion
      cases hversion
    | some version =>
      rw [hv] at hrecomputed
      exact ⟨version, rfl, hrecomputed, eq_of_beq (require_eq_ok.1 hequal)⟩
  · rintro ⟨version, hv, hrecomputed, hequal⟩
    -- an unspecified version has no domain, hence no hash
    have hversion : version ≠ .unspecified := by
      rintro rfl
      obtain ⟨b, hb, -⟩ := Except.map_eq_ok_iff.1 hrecomputed
      unfold semanticPreimage at hb
      split at hb
      · cases hb
      · obtain ⟨_, hb⟩ := of_bind hb
        cases hb
    unfold verifySemanticPayloadHash
    rw [hv]
    refine require_bind.2 ⟨(bne_iff_ne.2 hversion), ?_⟩
    refine bind_eq_ok.2 ⟨hash, hrecomputed, ?_⟩
    refine require_bind.2 ⟨?_, ?_⟩
    · rw [← hequal, beq_iff_eq]
      exact hash.2
    exact require_bind.2 ⟨(beq_iff_eq.2 hequal), rfl⟩

/-! ## Reading a transcript -/

/-- What an accepted transcript is made of. -/
theorem semanticPreimage_ok (h : semanticPreimage P envelope version = .ok b) :
    ∃ payload canonical domain, envelope.payload = some payload ∧
      canonicalPayload P envelope version payload = .ok canonical ∧
      semanticDomain version = .ok domain ∧
      b = domain ++ envelope.nodeId ++ be 8 envelope.expectedRevision.toNat ++
        be 4 payload.kind ++ canonical := by
  unfold semanticPreimage at h
  cases hp : envelope.payload with
  | none => simp [hp] at h
  | some payload =>
    simp only [hp] at h
    cases hc : canonicalPayload P envelope version payload with
    | error e => simp [hc, bind, Except.bind] at h
    | ok canonical =>
      cases hd : semanticDomain version with
      | error e => simp [hc, hd, bind, Except.bind] at h
      | ok domain =>
        simp only [hc, hd, bind, Except.bind, pure, Except.pure, Except.ok.injEq] at h
        exact ⟨payload, canonical, domain, rfl, hc, rfl, h.symm⟩

theorem Payload.kind_lt (p : Payload) : p.kind < 256 ^ 4 := by
  cases p <;> simp [Payload.kind]

/-- **A transcript determines the payload kind**, for node identities of one length. -/
theorem semanticPreimage_kind (h : semanticPreimage P e version = .ok b)
    (h' : semanticPreimage P e' version = .ok b) (hn : e.nodeId.length = e'.nodeId.length)
    (hp : e.payload = some p) (hp' : e'.payload = some p') : p.kind = p'.kind := by
  obtain ⟨q, c, d, hq, -, hd, hb⟩ := semanticPreimage_ok P h
  obtain ⟨q', c', d', hq', -, hd', hb'⟩ := semanticPreimage_ok P h'
  obtain rfl : q = p := by simpa [hq] using hp
  obtain rfl : q' = p' := by simpa [hq'] using hp'
  obtain rfl : d = d' := by simpa [hd] using hd'
  -- the two transcripts agree up to the kind, whose width is fixed
  rw [hb] at hb'
  obtain ⟨h1, -⟩ := List.append_inj hb' (by simp [hn])
  obtain ⟨-, h2⟩ := List.append_inj h1 (by simp [hn])
  exact be_inj q.kind_lt q'.kind_lt h2

end

end Ocservia
