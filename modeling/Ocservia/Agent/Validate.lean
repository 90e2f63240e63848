import Ocservia.Agent.Journal
import Ocservia.Contract.Authorization

/-!
# Command validation on the Agent

`validate_command` of `agent/src/lib.rs`: every field of the envelope that execution relies on is
checked, the semantic hash is recomputed, and the Controller's signature is verified, before
anything is persisted. What validation establishes for the journal is `validateCommand_ok`.
-/

namespace Ocservia

open Wire Checked

def maxCommandBytes : Nat := 1024 * 1024

def maxManagedResources : Nat := 384

structure CommandContext where
  nodeId : Uuid
  authorizationRevision : UInt64
  capabilities : List String
  sessionExpiresAtUnixSeconds : Int64
  commandKeys : ControllerCommandKeyring
  nowUnixSeconds : Int64
  cancelled : Bool

/-- `CommandError`, without the fault that only the test harness injects. -/
inductive CommandError where
  | rejected (code : String)
  | identityConflict
  | payloadConflict
  | preEffectJournalFailure (source : JournalError)
  | outcomeUnknown (code : String) (record : CommandRecord) (source : JournalError)
deriving DecidableEq

/-- Reject with `code` unless the check passes. -/
def requireOr (check : Bool) (code : String) : Except CommandError Unit :=
  require check (.rejected code)

def fixed (n : Nat) (value : Bytes) (code : String) : Except CommandError (FixedBytes n) :=
  if h : value.length = n then .ok ⟨value, h⟩ else .error (.rejected code)

/-- An authorization error as the Agent reports it. -/
def authorizationRejected {α : Type} (x : Except AuthorizationError α) : Except CommandError α :=
  x.mapError fun e => .rejected e.code

/-! ## Payload checks -/

def validateName (value : String) : Except CommandError Unit :=
  requireOr (validName value) "name_invalid"

def validateRevision (value : UInt64) : Except CommandError Unit :=
  requireOr (value != 0) "revision_invalid"

def validateTypedSecret (secret : Option SealedSecretV1) (purpose : SealedSecretPurpose) :
    Except CommandError Unit :=
  match secret with
  | none => .error (.rejected "sealed_secret_invalid")
  | some s =>
    requireOr
      (s.version == sealedSecretVersionV1 && s.purpose == purpose.toInt32 &&
        s.keyId.utf8ByteSize != 0 && s.keyId.utf8ByteSize ≤ 128 && 32 ≤ s.ciphertext.length &&
        s.ciphertext.length ≤ 16 * 1024)
      "sealed_secret_invalid"

def validateSealedSecret (p : UserSecret) : Except CommandError Unit := do
  validateRevision p.desiredRevision
  requireOr (p.sealedPassword.isEmpty && p.secretKeyId.utf8ByteSize == 0) "sealed_secret_invalid"
  validateTypedSecret p.sealedPasswordV1 .userPassword

/-- The members of a group in strictly increasing order, each a valid name. -/
def validateMembers (previous : Option String) : List String → Except CommandError Unit
  | [] => .ok ()
  | member :: members => do
    validateName member
    requireOr (!(previous.any fun value => ¬ utf8 value < utf8 member)) "group_members_invalid"
    validateMembers (some member) members

section
variable (P : Platform)

def validateSessionPayload (p : SessionRef) : Except CommandError Unit := do
  requireOr (validSessionId p.sessionId) "session_id_invalid"
  requireOr (P.uuidParses p.bootId) "boot_id_invalid"

def validateAgentUpgrade (p : AgentUpgrade) : Except CommandError Unit := do
  requireOr (validTargetVersion p.targetVersion) "agent_upgrade_version_invalid"
  requireOr (p.packageSha256.length == 32) "agent_upgrade_digest_invalid"
  requireOr (validArchitecture p.architecture) "agent_upgrade_architecture_invalid"
  requireOr (P.runtimeArchitecture == some p.architecture) "agent_upgrade_architecture_mismatch"

/-- A candidate configuration with its digest. -/
def validCandidate (candidate candidateHash : Bytes) : Bool :=
  candidate.length != 0 && candidate.length ≤ 256 * 1024 && candidateHash.length == 32 &&
    (P.sha256 candidate).1 == candidateHash

section
variable (envelope : CommandEnvelope)

/-- The checks of `validate_payload` for one payload. -/
def checkPayload : Payload → Except CommandError Unit
  | .syntheticNoop | .serviceReload => .ok ()
  | .syntheticEcho message => requireOr (message.utf8ByteSize ≤ 4096) "payload_size_invalid"
  | .sessionDisconnect p | .sessionTerminate p => validateSessionPayload P p
  | .ipBanRemove ip =>
    match P.canonicalIp ip with
    | none => .error (.rejected "ip_invalid")
    | some canonical => requireOr (canonical == ip) "ip_not_canonical"
  | .configPlan p => requireOr (validCandidate P p.candidate p.candidateHash)
      "config_candidate_invalid"
  | .configApply p =>
    requireOr
      (validCandidate P p.candidate p.candidateHash && p.expectedCurrentHash.length == 32 &&
        p.desiredRevision != 0)
      "config_apply_invalid"
  | .completeConfigPlan _ | .completeConfigApply _ => do
    let _ ← authorizationRejected (semanticPayloadHash P envelope .v2)
  | .certificateCsr p =>
    requireOr
      (p.certificateId.length == 16 && p.commonName.utf8ByteSize != 0 &&
        p.commonName.utf8ByteSize ≤ 253 && p.dnsNames.length ≤ 32 && validKeyBits p.keyBits)
      "certificate_csr_invalid"
  | .certificateP12 p => do
    requireOr
      (p.certificateId.length == 16 && p.artifactId.length == 16 &&
        64 ≤ p.certificateChainPem.length && p.certificateChainPem.length ≤ 256 * 1024 &&
        p.sealedPassword.isEmpty && p.secretKeyId.utf8ByteSize == 0 &&
        p.certificateVersion != 0 && p.artifactExpiresAt.isSome)
      "certificate_p12_invalid"
    validateTypedSecret p.sealedPasswordV1 .certificateP12Password
  | .certificateRevoke p =>
    requireOr
      (p.certificateId.length == 16 && p.reason.utf8ByteSize != 0 && p.reason.utf8ByteSize ≤ 128 &&
        p.certificateVersion != 0)
      "certificate_revoke_invalid"
  | .userCreate p | .userPasswordRotate p => do
    validateName p.username
    validateSealedSecret p
  | .userDisable p | .userEnable p => do
    validateName p.username
    validateRevision p.desiredRevision
  | .groupApply p => do
    validateName p.groupName
    validateRevision p.desiredRevision
    requireOr (p.members.length ≤ maxManagedResources) "group_members_invalid"
    validateMembers none p.members
  | .agentUpgrade p => validateAgentUpgrade P p
  | .simulationProbe => .error (.rejected "capability_rejected")

/-- The capability that a checked payload needs and the result of a synthetic one. -/
def payloadCapability : Payload → Except CommandError (String × Bytes)
  | .syntheticNoop => .ok ("synthetic.noop", utf8 "noop:completed")
  | .syntheticEcho message => .ok ("synthetic.echo", utf8 message)
  | .sessionDisconnect _ => .ok ("ocserv.session.disconnect", [])
  | .sessionTerminate _ => .ok ("ocserv.session.terminate", [])
  | .ipBanRemove _ => .ok ("ocserv.ip_ban.remove", [])
  | .serviceReload => .ok ("ocserv.service.reload", [])
  | .configPlan _ => .ok ("ocserv.config.plan", [])
  | .configApply _ => .ok ("ocserv.config.apply", [])
  | .completeConfigPlan _ => .ok (planCapability, [])
  | .completeConfigApply _ => .ok (applyCapability, [])
  | .certificateCsr _ | .certificateP12 _ => .ok ("ocserv.certificate.issue", [])
  | .certificateRevoke _ => .ok ("ocserv.certificate.revoke", [])
  | .userCreate _ | .userDisable _ | .userEnable _ | .userPasswordRotate _ =>
    .ok ("ocserv.users.write", [])
  | .groupApply _ => .ok ("ocserv.groups.write", [])
  | .agentUpgrade _ =>
    match supportedCapability envelope.requiredCapability with
    | some capability => .ok (capability, [])
    | none => .error (.rejected "capability_rejected")
  | .simulationProbe => .error (.rejected "capability_rejected")

/-- `validate_payload`: the capability, the synthetic result, and whether it is external. -/
def validatePayload : Except CommandError (String × Bytes × Bool) :=
  match envelope.payload with
  | none => .error (.rejected "capability_rejected")
  | some payload => do
    checkPayload P envelope payload
    let (capability, result) ← payloadCapability envelope payload
    return (capability, result, !payload.synthetic)

/-! ## The envelope -/

structure ValidatedCommand where
  (key commandId : Uuid)
  payloadHash : FixedBytes 32
  hashVersion : SemanticPayloadHashVersion
  result : Bytes
  external : Bool

/-- The Agent's `verify_semantic_payload_hash`. -/
def verifyCommandHash (version : SemanticPayloadHashVersion) :
    Except CommandError (FixedBytes 32) := do
  requireOr (version != .unspecified) "semantic_hash_version_unsupported"
  let recomputed ← authorizationRejected (semanticPayloadHash P envelope version)
  requireOr (envelope.semanticPayloadSha256.length == 32) "semantic_payload_hash_missing"
  requireOr (recomputed.1 == envelope.semanticPayloadSha256) "semantic_payload_hash_mismatch"
  return recomputed

/-- The time, revision and session checks of `validate_command`. -/
def checkSession (context : CommandContext) : Except CommandError Unit := do
  requireOr (!context.cancelled) "command_cancelled"
  let issuedAt ← get envelope.issuedAt (.rejected "issued_at_missing")
  let expiresAt ← get envelope.expiresAt (.rejected "expires_at_missing")
  requireOr
    (!(expiresAt.seconds.toInt ≤ context.nowUnixSeconds.toInt &&
      envelope.deliveryMode != CommandDeliveryMode.reconcileOnly.toInt32))
    "command_expired"
  requireOr
    (!(saturatingAdd context.nowUnixSeconds.toInt maxFutureSkewSeconds < issuedAt.seconds.toInt))
    "clock_skew"
  requireOr
    (context.authorizationRevision != 0 &&
      envelope.expectedRevision == context.authorizationRevision)
    "revision_mismatch"
  requireOr (context.nowUnixSeconds.toInt < context.sessionExpiresAtUnixSeconds.toInt)
    "session_grant_expired"

def validateCommand (context : CommandContext) : Except CommandError ValidatedCommand := do
  requireOr (P.encodedLen envelope != 0 && P.encodedLen envelope ≤ maxCommandBytes)
    "command_size_invalid"
  requireOr
    (envelope.protocolVersion == commandProtocolVersion ||
      envelope.protocolVersion == legacyCommandProtocolVersion)
    "protocol_version_unsupported"
  let nodeId ← fixed 16 envelope.nodeId "node_id_invalid"
  requireOr (nodeId == context.nodeId) "node_id_mismatch"
  checkSession envelope context
  let (capability, result, external) ← validatePayload P envelope
  requireOr (context.capabilities.contains capability) "capability_rejected"
  let key ← fixed 16 envelope.idempotencyKey "idempotency_key_invalid"
  let commandId ← fixed 16 envelope.commandId "command_id_invalid"
  requireOr (uuidVersion key.1 == 7) "idempotency_key_invalid"
  requireOr (uuidVersion commandId.1 == 7) "command_id_invalid"
  let hashVersion ←
    get (SemanticPayloadHashVersion.tryFrom envelope.semanticPayloadHashVersion)
      (.rejected "semantic_hash_version_unsupported")
  let payloadHash ← verifyCommandHash P envelope hashVersion
  authorizationRejected (context.commandKeys.verify P envelope)
  return { key, commandId, payloadHash, hashVersion, result, external }

end

variable {hash : FixedBytes 32}

/-! ## What validation establishes -/

theorem requireOr_eq_ok :
    requireOr check code = .ok u ↔ check = true := require_eq_ok

theorem fixed_eq_ok : fixed n value code = .ok b ↔ b.1 = value :=
  refine_eq_ok (p := fun value : Bytes => value.length = n)

/-- A validated command has the envelope's identity and the digest of its transcript, and is
external unless it is synthetic. -/
structure Validated (envelope : CommandEnvelope) (context : CommandContext)
    (v : ValidatedCommand) : Prop where
  key : v.key.1 = envelope.idempotencyKey
  commandId : v.commandId.1 = envelope.commandId
  nodeId : envelope.nodeId = context.nodeId.1
  version : envelope.semanticPayloadHashVersion = v.hashVersion.toInt32
  hash : semanticPayloadHash P envelope v.hashVersion = .ok v.payloadHash
  payload : ∃ p, envelope.payload = some p ∧ v.external = !p.synthetic

theorem verifyCommandHash_ok (h : verifyCommandHash P envelope version = .ok hash) :
    semanticPayloadHash P envelope version = .ok hash := by
  unfold verifyCommandHash at h
  obtain ⟨-, h⟩ := of_bind h
  obtain ⟨recomputed, hr, h⟩ := bind_eq_ok.1 h
  iterate 2 obtain ⟨-, h⟩ := of_bind h
  obtain rfl : recomputed = hash := by simpa [pure, Except.pure] using h
  exact Except.mapError_eq_ok_iff.1 hr

theorem verifyCommandHash_claimed (h : verifyCommandHash P envelope version = .ok hash) :
    hash.1 = envelope.semanticPayloadSha256 := by
  unfold verifyCommandHash at h
  obtain ⟨-, h⟩ := of_bind h
  obtain ⟨recomputed, h⟩ := of_bind h
  obtain ⟨-, h⟩ := of_bind h
  obtain ⟨hclaimed, h⟩ := require_bind.1 h
  obtain rfl : recomputed = hash := by simpa [pure, Except.pure] using h
  simpa using hclaimed

theorem validatePayload_ok (h : validatePayload P envelope = .ok (capability, result, external)) :
    ∃ p, envelope.payload = some p ∧ external = !p.synthetic := by
  unfold validatePayload at h
  split at h
  · cases h
  rename_i p hp
  obtain ⟨-, h⟩ := of_bind h
  obtain ⟨⟨c, r⟩, -, h⟩ := bind_eq_ok.1 h
  simp only [pure, Except.pure, Except.ok.injEq, Prod.mk.injEq] at h
  exact ⟨p, hp, h.2.2.symm⟩

theorem validateCommand_ok (h : validateCommand P envelope context = .ok v) :
    Validated P envelope context v := by
  unfold validateCommand at h
  iterate 2 obtain ⟨-, h⟩ := of_bind h
  obtain ⟨nodeId, hnode, h⟩ := bind_eq_ok.1 h
  obtain ⟨hsame, h⟩ := require_bind.1 h
  obtain ⟨-, h⟩ := of_bind h
  obtain ⟨⟨capability, result, external⟩, hpay, h⟩ := bind_eq_ok.1 h
  obtain ⟨-, h⟩ := of_bind h
  obtain ⟨key, hkey, h⟩ := bind_eq_ok.1 h
  obtain ⟨commandId, hid, h⟩ := bind_eq_ok.1 h
  iterate 2 obtain ⟨-, h⟩ := of_bind h
  obtain ⟨version, hver, h⟩ := get_bind.1 h
  obtain ⟨hash, hhash, h⟩ := bind_eq_ok.1 h
  obtain ⟨-, h⟩ := of_bind h
  obtain rfl : _ = v := by simpa [pure, Except.pure] using h
  have hn : nodeId = context.nodeId := Subtype.ext (by simpa using hsame)
  exact {
    key := fixed_eq_ok.1 hkey
    commandId := fixed_eq_ok.1 hid
    nodeId := by rw [← hn]; exact (fixed_eq_ok.1 hnode).symm
    version := SemanticPayloadHashVersion.eq_of_tryFrom hver
    hash := verifyCommandHash_ok P hhash
    payload := validatePayload_ok P hpay }

/-- The hash of a validated command is the one its envelope names. -/
theorem validateCommand_hash (h : validateCommand P envelope context = .ok v) :
    v.payloadHash.1 = envelope.semanticPayloadSha256 := by
  unfold validateCommand at h
  iterate 5 obtain ⟨_, h⟩ := of_bind h
  obtain ⟨⟨capability, result, external⟩, -, h⟩ := bind_eq_ok.1 h
  iterate 6 obtain ⟨_, h⟩ := of_bind h
  obtain ⟨hash, hhash, h⟩ := bind_eq_ok.1 h
  obtain ⟨_, h⟩ := of_bind h
  obtain rfl : _ = v := by simpa [pure, Except.pure] using h
  exact verifyCommandHash_claimed P hhash

end

/-! ## A sample session -/

/-- The session in which the sample envelopes are delivered. -/
def sampleContext (now : Int64) : CommandContext where
  nodeId := sampleUuid 3
  authorizationRevision := 1
  capabilities := ["ocserv.users.write", "ocserv.config.apply", "synthetic.noop"]
  sessionExpiresAtUnixSeconds := 2000
  commandKeys := ⟨[("ed25519", [])]⟩
  nowUnixSeconds := now
  cancelled := false

end Ocservia
