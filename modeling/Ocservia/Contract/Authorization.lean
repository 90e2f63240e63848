import Ocservia.Contract.SemanticHash

/-!
# Controller command authorization

`command-authorization/src/lib.rs`: the Controller signs a claims record that is projected from the
envelope (`claimsFromEnvelopeV1`) and encoded by hand (`canonicalV1`). Agent and privd each verify
it against their pinned keys (`ControllerCommandKeyring.verify`, `verifyCommand`).
-/

namespace Ocservia

open Wire Checked Option Bool

def commandProtocolVersion : String := "1.2"

def legacyCommandProtocolVersion : String := "1.1"

def maxFutureSkewSeconds : Int := 300

def saturatingAdd (a b : Int) : Int := max (-2 ^ 63) (min (a + b) (2 ^ 63 - 1))

structure CommandAuthorizationV1 where
  authorizationVersion : Nat
  (keyId protocolVersion : String)
  (commandId idempotencyKey nodeId operationId : Uuid)
  (actorIdentity action requiredCapability : String)
  approvalId : Option Uuid
  approvalRequestSha256 : Option (FixedBytes 32)
  expectedRevision : UInt64
  semanticHashVersion : Nat
  semanticPayloadSha256 : FixedBytes 32
  (payloadKind deliveryMode : Nat)
  issuedAtSeconds : Int64
  issuedAtNanos : Nat
  expiresAtSeconds : Int64
  expiresAtNanos : Nat
deriving DecidableEq

/-- The action and the capability of a payload kind (`payload_authorization`). -/
def payloadAuthorization (envelope : CommandEnvelope) :
    Except AuthorizationError (Nat × String × String) :=
  match envelope.payload with
  | none | some .simulationProbe => .error .payloadUnsupported
  | some payload =>
    let authorized (action capability : String) := .ok (payload.kind, action, capability)
    match payload with
    | .sessionDisconnect _ => authorized "session.disconnect" "ocserv.session.disconnect"
    | .userCreate _ => authorized "user.create" "ocserv.users.write"
    | .userDisable _ => authorized "user.disable" "ocserv.users.write"
    | .configPlan _ => authorized "config.plan" "ocserv.config.plan"
    | .configApply _ => authorized "config.apply" "ocserv.config.apply"
    | .completeConfigPlan _ => authorized "config.plan" planCapability
    | .completeConfigApply _ => authorized "config.apply" applyCapability
    | .serviceReload => authorized "service.reload" "ocserv.service.reload"
    | .syntheticNoop => authorized "operation.create" "synthetic.noop"
    | .syntheticEcho _ => authorized "operation.create" "synthetic.echo"
    | .sessionTerminate _ => authorized "session.terminate" "ocserv.session.terminate"
    | .ipBanRemove _ => authorized "ip_ban.remove" "ocserv.ip_ban.remove"
    | .userPasswordRotate _ => authorized "user.password.rotate" "ocserv.users.write"
    | .groupApply _ => authorized "group.apply" "ocserv.groups.write"
    | .userEnable _ => authorized "user.enable" "ocserv.users.write"
    | .certificateCsr _ => authorized "certificate.issue" "ocserv.certificate.issue"
    | .certificateP12 _ => authorized "certificate.private_key.export" "ocserv.certificate.issue"
    | .certificateRevoke _ => authorized "certificate.revoke" "ocserv.certificate.revoke"
    | .agentUpgrade _ =>
      match supportedCapability envelope.requiredCapability with
      | some capability => authorized "agent.upgrade" capability
      | none => .error .payloadUnsupported
    | .simulationProbe => .error .payloadUnsupported

/-- `fixed`. -/
def fixedClaim (n : Nat) (value : Bytes) (code : String) :
    Except AuthorizationError (FixedBytes n) :=
  if h : value.length = n then .ok ⟨value, h⟩ else invalidClaim code

def optionalFixed (n : Nat) (value : Bytes) (code : String) :
    Except AuthorizationError (Option (FixedBytes n)) :=
  if value.isEmpty then .ok none else (fixedClaim n value code).map some

def timestampNanos (value : Int32) : Except AuthorizationError Nat := do
  requireClaim (0 ≤ value.toInt && value.toInt < 1000000000) "command_authorization_time_invalid"
  return value.toInt.toNat

def claimsFromEnvelopeV1 (envelope : CommandEnvelope) :
    Except AuthorizationError CommandAuthorizationV1 := do
  let proof ← get envelope.authorization .missing
  require (proof.version == commandAuthorizationVersionV1) .unsupportedVersion
  requireClaim
    (envelope.protocolVersion == commandProtocolVersion ||
      envelope.protocolVersion == legacyCommandProtocolVersion)
    "command_protocol_version_unsupported"
  let (payloadKind, action, capability) ← payloadAuthorization envelope
  requireClaim (envelope.action == action) "command_authorization_action_mismatch"
  requireClaim (envelope.requiredCapability == capability)
    "command_authorization_capability_mismatch"
  requireClaim
    (!isBlank envelope.actorId && envelope.actorId.utf8ByteSize ≤ 256 &&
      proof.keyId.utf8ByteSize != 0 && proof.keyId.utf8ByteSize ≤ 128)
    "command_authorization_identity_invalid"
  let issuedAt ← claimOr envelope.issuedAt "command_authorization_issued_at_missing"
  let expiresAt ← claimOr envelope.expiresAt "command_authorization_expires_at_missing"
  let issuedAtNanos ← timestampNanos issuedAt.nanos
  let expiresAtNanos ← timestampNanos expiresAt.nanos
  requireClaim
    (!(expiresAt.seconds.toInt < issuedAt.seconds.toInt ||
      (expiresAt.seconds == issuedAt.seconds && expiresAtNanos ≤ issuedAtNanos)))
    "command_authorization_time_order_invalid"
  requireClaim
    (SemanticPayloadHashVersion.tryFrom envelope.semanticPayloadHashVersion == some .v1 ||
      SemanticPayloadHashVersion.tryFrom envelope.semanticPayloadHashVersion == some .v2)
    "semantic_hash_version_unsupported"
  requireClaim (envelope.deliveryMode != 0) "delivery_mode_invalid"
  let approvalId ← optionalFixed 16 envelope.approvalId "approval_id_invalid"
  let approvalRequestSha256 ←
    optionalFixed 32 envelope.approvalRequestSha256 "approval_request_hash_invalid"
  requireClaim (!(approvalRequestSha256.isSome && approvalId.isNone))
    "approval_request_hash_without_id"
  let commandId ← fixedClaim 16 envelope.commandId "command_id_invalid"
  let idempotencyKey ← fixedClaim 16 envelope.idempotencyKey "idempotency_key_invalid"
  let nodeId ← fixedClaim 16 envelope.nodeId "node_id_invalid"
  let operationId ← fixedClaim 16 envelope.operationId "operation_id_invalid"
  requireClaim (0 ≤ envelope.semanticPayloadHashVersion.toInt) "semantic_hash_version_invalid"
  let semanticPayloadSha256 ←
    fixedClaim 32 envelope.semanticPayloadSha256 "semantic_payload_hash_missing"
  requireClaim (0 ≤ envelope.deliveryMode.toInt) "delivery_mode_invalid"
  return {
    authorizationVersion := 1
    keyId := proof.keyId
    protocolVersion := envelope.protocolVersion
    commandId, idempotencyKey, nodeId, operationId
    actorIdentity := envelope.actorId
    action := envelope.action
    requiredCapability := envelope.requiredCapability
    approvalId, approvalRequestSha256
    expectedRevision := envelope.expectedRevision
    semanticHashVersion := envelope.semanticPayloadHashVersion.toInt.toNat
    semanticPayloadSha256, payloadKind
    deliveryMode := envelope.deliveryMode.toInt.toNat
    issuedAtSeconds := issuedAt.seconds
    issuedAtNanos
    expiresAtSeconds := expiresAt.seconds
    expiresAtNanos }

/-- The claims that `claims_from_envelope_v1` projects are those of the envelope. -/
structure ClaimsOf (envelope : CommandEnvelope) (claims : CommandAuthorizationV1) : Prop where
  commandId : claims.commandId.1 = envelope.commandId
  idempotencyKey : claims.idempotencyKey.1 = envelope.idempotencyKey
  nodeId : claims.nodeId.1 = envelope.nodeId
  operationId : claims.operationId.1 = envelope.operationId
  expectedRevision : claims.expectedRevision = envelope.expectedRevision
  hash : claims.semanticPayloadSha256.1 = envelope.semanticPayloadSha256
  version : claims.semanticHashVersion = envelope.semanticPayloadHashVersion.toInt.toNat
  supported : SemanticPayloadHashVersion.tryFrom envelope.semanticPayloadHashVersion = some .v1 ∨
    SemanticPayloadHashVersion.tryFrom envelope.semanticPayloadHashVersion = some .v2
  times : ∃ issuedAt expiresAt, envelope.issuedAt = some issuedAt ∧
    envelope.expiresAt = some expiresAt ∧ claims.issuedAtSeconds = issuedAt.seconds ∧
    claims.expiresAtSeconds = expiresAt.seconds

variable {code : String} {n : Nat} {envelope : CommandEnvelope} {claims : CommandAuthorizationV1}

theorem requireClaim_eq_ok :
    requireClaim check code = .ok u ↔ check = true := require_eq_ok

theorem fixedClaim_eq_ok : fixedClaim n value code = .ok b ↔ b.1 = value :=
  refine_eq_ok (p := fun value : Bytes => value.length = n)

/-- `claims_from_envelope_v1` checks that action and capability are the payload's and that the
command expires after it was issued. -/
structure ClaimsChecked (envelope : CommandEnvelope) (claims : CommandAuthorizationV1) : Prop where
  authorized : ∃ kind, payloadAuthorization envelope =
    .ok (kind, envelope.action, envelope.requiredCapability)
  action : claims.action = envelope.action
  capability : claims.requiredCapability = envelope.requiredCapability
  times : ∃ issuedAt expiresAt, envelope.issuedAt = some issuedAt ∧
    envelope.expiresAt = some expiresAt ∧
    (0 ≤ issuedAt.nanos.toInt ∧ issuedAt.nanos.toInt < 1000000000) ∧
    (0 ≤ expiresAt.nanos.toInt ∧ expiresAt.nanos.toInt < 1000000000) ∧
    (issuedAt.seconds.toInt < expiresAt.seconds.toInt ∨
      (issuedAt.seconds = expiresAt.seconds ∧ issuedAt.nanos.toInt < expiresAt.nanos.toInt))

theorem timestampNanos_ok (h : timestampNanos value = .ok n) :
    (0 ≤ value.toInt ∧ value.toInt < 1000000000) ∧ (n : Int) = value.toInt := by
  obtain ⟨hcheck, h⟩ := require_bind.1 h
  simp only [and_eq_true, decide_eq_true_eq] at hcheck
  cases h
  exact ⟨hcheck, Int.toNat_of_nonneg hcheck.1⟩

theorem timestampNanos_lt (h : timestampNanos value = .ok n) : n < 1000000000 := by
  have := timestampNanos_ok h
  omega

theorem timestampNanos_of (h : (n : Int) = value.toInt) (hlt : n < 1000000000) :
    timestampNanos value = .ok n := by
  have hcheck : (0 ≤ value.toInt && value.toInt < 1000000000) = true := by
    simp only [and_eq_true, decide_eq_true_eq]
    omega
  refine require_bind.2 ⟨hcheck, ?_⟩
  rw [← h]
  rfl

theorem claimsFromEnvelopeV1_spec (h : claimsFromEnvelopeV1 envelope = .ok claims) :
    ClaimsOf envelope claims ∧ ClaimsChecked envelope claims ∧ claims.authorizationVersion = 1 ∧
      payloadAuthorization envelope =
        .ok (claims.payloadKind, claims.action, claims.requiredCapability) ∧
      (claims.deliveryMode : Int) = envelope.deliveryMode.toInt ∧
      claims.issuedAtNanos < 1000000000 ∧ claims.expiresAtNanos < 1000000000 := by
  iterate 3 obtain ⟨_, h⟩ := of_bind h
  obtain ⟨⟨payloadKind, action, capability⟩, hauthorized, h⟩ := bind_eq_ok.1 h
  obtain ⟨haction, h⟩ := require_bind.1 h
  obtain ⟨_, hcapability, h⟩ := bind_eq_ok.1 h
  obtain ⟨_, h⟩ := of_bind h
  obtain ⟨issuedAt, hissued, h⟩ := get_bind.1 h
  obtain ⟨expiresAt, hexpires, h⟩ := get_bind.1 h
  obtain ⟨issuedNanos, hissuedNanos, h⟩ := bind_eq_ok.1 h
  obtain ⟨expiresNanos, hexpiresNanos, h⟩ := bind_eq_ok.1 h
  obtain ⟨hordered, h⟩ := require_bind.1 h
  obtain ⟨hversion, h⟩ := require_bind.1 h
  iterate 4 obtain ⟨_, h⟩ := of_bind h
  obtain ⟨commandId, hcommand, h⟩ := bind_eq_ok.1 h
  obtain ⟨idempotencyKey, hkey, h⟩ := bind_eq_ok.1 h
  obtain ⟨nodeId, hnode, h⟩ := bind_eq_ok.1 h
  obtain ⟨operationId, hoperation, h⟩ := bind_eq_ok.1 h
  obtain ⟨_, h⟩ := of_bind h
  obtain ⟨hash, hhash, h⟩ := bind_eq_ok.1 h
  obtain ⟨hmode, h⟩ := require_bind.1 h
  cases h
  have haction : envelope.action = action := eq_of_beq haction
  have hcapability : envelope.requiredCapability = capability :=
    eq_of_beq (requireClaim_eq_ok.1 hcapability)
  rw [← haction, ← hcapability] at hauthorized
  have hlt := And.intro (timestampNanos_lt hissuedNanos) (timestampNanos_lt hexpiresNanos)
  obtain ⟨hissuedRange, hissuedNanos⟩ := timestampNanos_ok hissuedNanos
  obtain ⟨hexpiresRange, hexpiresNanos⟩ := timestampNanos_ok hexpiresNanos
  simp only [not_eq_true', or_eq_false_iff, and_eq_false_iff,
    decide_eq_false_iff_not, beq_eq_false_iff_ne, ne_eq, ← Int64.toInt_inj] at hordered
  refine ⟨?_, ?_, rfl, hauthorized, Int.toNat_of_nonneg (of_decide_eq_true hmode), hlt⟩
  · exact {
      commandId := fixedClaim_eq_ok.1 hcommand
      idempotencyKey := fixedClaim_eq_ok.1 hkey
      nodeId := fixedClaim_eq_ok.1 hnode
      operationId := fixedClaim_eq_ok.1 hoperation
      expectedRevision := rfl
      hash := fixedClaim_eq_ok.1 hhash
      version := rfl
      supported := by simpa using hversion
      times := ⟨issuedAt, expiresAt, hissued, hexpires, rfl, rfl⟩ }
  · refine ⟨⟨payloadKind, hauthorized⟩, rfl, rfl, issuedAt, expiresAt, hissued, hexpires,
      hissuedRange, hexpiresRange, ?_⟩
    rw [← Int64.toInt_inj]
    omega

def appendString (target : Bytes) (value : String) : Except AuthorizationError Bytes := do
  let encoded ← claimOr (lengthPrefixed (utf8 value)) "command_authorization_string_too_large"
  return target ++ encoded

def appendOptional {n : Nat} : Option (FixedBytes n) → Bytes
  | some value => 1 :: value.1
  | none => [0]

def canonicalV1 (claims : CommandAuthorizationV1) : Except AuthorizationError Bytes := do
  requireClaim
    (claims.authorizationVersion == 1 && claims.keyId != "" && claims.protocolVersion != "" &&
      claims.actorIdentity != "" && claims.action != "" && claims.requiredCapability != "" &&
      claims.semanticHashVersion != 0 && claims.payloadKind != 0 && claims.deliveryMode != 0 &&
      claims.issuedAtNanos < 1000000000 && claims.expiresAtNanos < 1000000000 &&
      !(claims.expiresAtSeconds.toInt < claims.issuedAtSeconds.toInt ||
        (claims.expiresAtSeconds == claims.issuedAtSeconds &&
          claims.expiresAtNanos ≤ claims.issuedAtNanos)) &&
      !(claims.approvalRequestSha256.isSome && claims.approvalId.isNone))
    "command_authorization_claims_invalid"
  let out := utf8 "ocservia/controller-command/v1\x00" ++ be 4 claims.authorizationVersion
  let out ← appendString out claims.keyId
  let out ← appendString out claims.protocolVersion
  let out := out ++ claims.commandId.1 ++ claims.idempotencyKey.1 ++ claims.nodeId.1 ++
    claims.operationId.1
  let out ← appendString out claims.actorIdentity
  let out ← appendString out claims.action
  let out ← appendString out claims.requiredCapability
  return out ++ appendOptional claims.approvalId ++ appendOptional claims.approvalRequestSha256 ++
    be 8 claims.expectedRevision.toNat ++ be 4 claims.semanticHashVersion ++
    claims.semanticPayloadSha256.1 ++ be 4 claims.payloadKind ++ be 4 claims.deliveryMode ++
    beInt 8 claims.issuedAtSeconds.toInt ++ be 4 claims.issuedAtNanos ++
    beInt 8 claims.expiresAtSeconds.toInt ++ be 4 claims.expiresAtNanos

/-- `ControllerCommandKeyring`: the pinned verification keys by key identifier. -/
structure ControllerCommandKeyring where
  keys : List (String × Bytes)

namespace ControllerCommandKeyring

variable (P : Platform)

section
variable (ring : ControllerCommandKeyring) (envelope : CommandEnvelope)

def verifyClaims : Except AuthorizationError CommandAuthorizationV1 := do
  let proof ← get envelope.authorization .missing
  require (proof.version == commandAuthorizationVersionV1) .unsupportedVersion
  let key ← get (ring.keys.lookup proof.keyId) .unknownKey
  let claims ← claimsFromEnvelopeV1 envelope
  let canonical ← canonicalV1 claims
  require (proof.signature.length == 64) .signatureMalformed
  require (P.verifyStrict key canonical proof.signature) .signatureInvalid
  return claims

def verify : Except AuthorizationError Unit := do
  let _ ← ring.verifyClaims P envelope

def verifyCommand (expectedNodeId : Uuid) (now : Int64) :
    Except AuthorizationError CommandAuthorizationV1 := do
  let claims ← ring.verifyClaims P envelope
  requireClaim (claims.nodeId == expectedNodeId) "node_id_mismatch"
  requireClaim (claims.expectedRevision != 0) "revision_invalid"
  requireClaim
    (!(claims.expiresAtSeconds.toInt ≤ now.toInt &&
      envelope.deliveryMode != CommandDeliveryMode.reconcileOnly.toInt32))
    "command_expired"
  requireClaim
    (!(saturatingAdd now.toInt maxFutureSkewSeconds < claims.issuedAtSeconds.toInt)) "clock_skew"
  let _ ← verifySemanticPayloadHash P envelope
  return claims

/-- A signature of the claims by the pinned key that the proof names. -/
def SignedClaims (claims : CommandAuthorizationV1) : Prop :=
  ∃ proof key canonical, envelope.authorization = some proof ∧
    ring.keys.lookup proof.keyId = some key ∧ canonicalV1 claims = .ok canonical ∧
    P.verifyStrict key canonical proof.signature = true

end

/-- What a verified command rests on. -/
structure VerifiedCommand (ring : ControllerCommandKeyring) (envelope : CommandEnvelope)
    (expectedNodeId : Uuid) (now : Int64) (claims : CommandAuthorizationV1) : Prop where
  projected : claimsFromEnvelopeV1 envelope = .ok claims
  signed : SignedClaims P ring envelope claims
  nodeId : claims.nodeId = expectedNodeId
  unexpired : envelope.deliveryMode ≠ CommandDeliveryMode.reconcileOnly.toInt32 →
    now.toInt < claims.expiresAtSeconds.toInt
  semanticHash : ∃ hash, verifySemanticPayloadHash P envelope = .ok hash

variable {ring : ControllerCommandKeyring} {envelope : CommandEnvelope}
  {claims : CommandAuthorizationV1}

theorem verifyClaims_ok (h : ring.verifyClaims P envelope = .ok claims) :
    claimsFromEnvelopeV1 envelope = .ok claims ∧ SignedClaims P ring envelope claims := by
  unfold verifyClaims at h
  obtain ⟨proof, hproof, h⟩ := get_bind.1 h
  obtain ⟨_, h⟩ := of_bind h
  obtain ⟨key, hkey, h⟩ := get_bind.1 h
  obtain ⟨projected, hprojected, h⟩ := bind_eq_ok.1 h
  obtain ⟨canonical, hcanonical, h⟩ := bind_eq_ok.1 h
  obtain ⟨_, h⟩ := of_bind h
  obtain ⟨hverify, h⟩ := require_bind.1 h
  cases h
  exact ⟨hprojected, proof, key, canonical, hproof, hkey,
    hcanonical, hverify⟩

/-- Every check of `verify_command`. -/
theorem verifyCommand_eq_ok_iff :
    ring.verifyCommand P envelope expectedNodeId now = .ok claims ↔
      ring.verifyClaims P envelope = .ok claims ∧ claims.nodeId = expectedNodeId ∧
        claims.expectedRevision ≠ 0 ∧
        (now.toInt < claims.expiresAtSeconds.toInt ∨
          envelope.deliveryMode = CommandDeliveryMode.reconcileOnly.toInt32) ∧
        claims.issuedAtSeconds.toInt ≤ saturatingAdd now.toInt maxFutureSkewSeconds ∧
        ∃ hash, verifySemanticPayloadHash P envelope = .ok hash := by
  simp only [verifyCommand, bind_eq_ok, requireClaim_eq_ok, beq_iff_eq, bne_iff_ne,
    not_eq_true', and_eq_false_iff, decide_eq_false_iff_not, bne_eq_false_iff_eq,
    Int.not_le, Int.not_lt]
  constructor
  · rintro ⟨verified, hclaims, _, hnode, _, hrevision, _, hexpired, _, hissued, hash, hhash, h⟩
    cases h
    exact ⟨hclaims, hnode, hrevision, hexpired, hissued, hash, hhash⟩
  · rintro ⟨hclaims, hnode, hrevision, hexpired, hissued, hash, hhash⟩
    exact ⟨claims, hclaims, (), hnode, (), hrevision, (), hexpired, (), hissued, hash, hhash, rfl⟩

theorem verifyCommand_verified (h : ring.verifyCommand P envelope expectedNodeId now = .ok claims) :
    VerifiedCommand P ring envelope expectedNodeId now claims := by
  obtain ⟨hclaims, hnode, -, hexpired, -, hash, hhash⟩ := (verifyCommand_eq_ok_iff P).1 h
  obtain ⟨hprojected, hsigned⟩ := verifyClaims_ok P hclaims
  exact {
    projected := hprojected
    signed := hsigned
    nodeId := hnode
    unexpired := fun hmode => hexpired.resolve_right hmode
    semanticHash := ⟨hash, hhash⟩ }

end ControllerCommandKeyring

/-! ## A sample command

The values on which concrete runs of the model are evaluated: a platform whose digest is constant
and whose signatures all verify, and an envelope that validation accepts with it. -/

/-- A platform to evaluate with. -/
def samplePlatform : Platform where
  sha256 _ := .fill 0
  verifyStrict _ _ _ := true
  encodedLen _ := 512
  encodeResult _ := []
  decodeConfigApplyResult _ := none
  encodeProof _ := [1]
  uuidParses _ := true
  uuidText _ := "00000000-0000-7000-8000-000000000000"
  canonicalIp ip := some ip
  runtimeArchitecture := some "amd64"

/-- An envelope of `payload`, authorized as `action` under `capability`. -/
def sampleEnvelope (mode : CommandDeliveryMode) (payload : Payload) (action capability : String) :
    CommandEnvelope where
  protocolVersion := "1.2"
  messageId := []
  commandId := (sampleUuid 1).1
  idempotencyKey := (sampleUuid 2).1
  nodeId := (sampleUuid 3).1
  sequence := 1
  issuedAt := some ⟨100, 0⟩
  expiresAt := some ⟨1000, 0⟩
  expectedRevision := 1
  traceparent := ""
  actorId := "operator"
  reason := ""
  payload := some payload
  deliveryMode := mode.toInt32
  semanticPayloadHashVersion := 2
  semanticPayloadSha256 := List.replicate 32 0
  operationId := (sampleUuid 2).1
  action := action
  requiredCapability := capability
  approvalId := []
  approvalRequestSha256 := []
  authorization := some ⟨1, "ed25519", List.replicate 64 0⟩

def sampleClaims (action requiredCapability : String) (payloadKind : Nat) :
    CommandAuthorizationV1 where
  authorizationVersion := 1
  keyId := "ed25519"
  protocolVersion := "1.2"
  commandId := sampleUuid 1
  idempotencyKey := sampleUuid 2
  nodeId := sampleUuid 3
  operationId := sampleUuid 2
  actorIdentity := "operator"
  action := action
  requiredCapability := requiredCapability
  approvalId := none
  approvalRequestSha256 := none
  expectedRevision := 1
  semanticHashVersion := 2
  semanticPayloadSha256 := .fill 0
  payloadKind := payloadKind
  deliveryMode := 1
  issuedAtSeconds := 100
  issuedAtNanos := 0
  expiresAtSeconds := 1000
  expiresAtNanos := 0

/-- An envelope that disables the user `alice` at desired revision `revision`. -/
def sampleDisable (mode : CommandDeliveryMode) (revision : UInt64) : CommandEnvelope :=
  sampleEnvelope mode (.userDisable ⟨"alice", revision⟩) "user.disable" "ocserv.users.write"

def disableClaims : CommandAuthorizationV1 := sampleClaims "user.disable" "ocserv.users.write" 102

end Ocservia
