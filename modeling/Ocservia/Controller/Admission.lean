import Ocservia.Controller.UserState
import Ocservia.Agent.Validate

/-!
# Admission of commands

`operations.validateCreate` and `userstate.validateMutation` (`MutationRequest.validate`) decide
which requests become commands, and the two `marshalEnvelope` functions turn an accepted request
into the envelope that is signed and stored. `Admitted` are the envelopes that the Controller can
produce.

The identifiers of a command come from `uuid.NewV7`, which sets the version and the variant
(`NewV7`); the semantic hash and the signature are whatever `PopulateV2` and `Signer.Authorize`
made, since the Agent and privd verify both. The parsers of other Go packages are inputs
(`GoLibrary`).
-/

namespace Ocservia

open Wire

/-- Functions of other Go packages that the admission calls. -/
structure GoLibrary where
  /-- `uuid.Parse`. -/
  uuidParse : String → Option Uuid
  /-- `net.ParseIP`, printed again. -/
  parseIP : String → Option String
  /-- `semver.IsValid`. -/
  semverIsValid : String → Bool

/-- The operation kinds of `operations.CreateRequest`. -/
inductive OperationKind where
  | syntheticNoop | syntheticEcho | sessionDisconnect | sessionTerminate | ipBanRemove
  | serviceReload | configPlan | configApply | certificateCSR | certificateP12 | certificateRevoke
  | agentUpgrade
deriving DecidableEq

/-- `ConfigPlanMetadata`, as far as it is checked. -/
structure ConfigPlanMetadata where
  (templateName candidateRedacted : String)

structure ArtifactMetadata where
  (tokenSHA256 requestHash : Bytes)
  expiresAt : Time

/-- `operations.CreateRequest`; the plan that `ApplyMetadata` holds is its only field. -/
structure CreateRequest where
  completeCandidate : Option CompleteConfigCandidate
  materializedHash : Bytes
  planExpiresAt : Option Timestamp
  nodeId : Uuid
  idempotencyKey : String
  expectedVersion : Int
  kind : OperationKind
  message : String
  (candidate candidateHash expectedCurrentHash : Bytes)
  (desiredRevision planRevision : UInt64)
  planMetadata : Option ConfigPlanMetadata
  applyPlanId : Option Uuid
  artifactMetadata : Option ArtifactMetadata
  ocservVersion : String
  planCapabilities : List String
  certificateId : Uuid
  commonName : String
  dnsNames : List String
  keyBits : UInt32
  certificateChain : Bytes
  sealedPassword : Option SealedSecretV1
  certificateVersion : UInt64
  artifactId : Uuid
  (revocationReason targetVersion : String)
  packageSHA256 : Bytes
  (architecture upgradeCapability : String)
  rolloutId : Uuid
  (sessionId bootId ip actorId : String)
  (actorIdentityId actorSessionId approvalId : Uuid)
  approvalRequestHash : Bytes
  (action reason : String)
  holdDispatch : Bool
  ttl : Time
  (requestId traceparent : String)

/-! ## Admission checks -/

def nilUuid : Uuid := .fill 0

/-- A UUID that is set and of version 7. -/
def isUuidV7 (id : Uuid) : Bool := id != nilUuid && uuidVersion id.1 == 7

/-- `strings.TrimSpace` leaves the text as it is. -/
def isTrimmed (value : String) : Bool :=
  value.toList.head?.all (fun c => !isBlank (String.singleton c)) &&
    value.toList.getLast?.all fun c => !isBlank (String.singleton c)

def validAgentUpgradeTargetVersion (G : GoLibrary) (version : String) : Bool :=
  5 ≤ version.utf8ByteSize && version.utf8ByteSize ≤ 128 &&
    (let core := (version.toList.span (· != '+')).1
     let core := (core.span (· != '-')).1
     core.count '.' == 2) &&
    G.semverIsValid ("v" ++ version)

/-- `google.protobuf.Timestamp.IsValid`, `CheckValid` in full: years 1 to 9999. -/
def Timestamp.isValid (t : Timestamp) : Bool :=
  -62135596800 ≤ t.seconds.toInt && t.seconds.toInt ≤ 253402300799 &&
    0 ≤ t.nanos.toInt && t.nanos.toInt < 1000000000

/-- `timestamppb.New`. -/
def timestampOf (t : Time) : Timestamp :=
  ⟨Int64.ofInt (t / oneSecond : Nat), Int32.ofNat (t % oneSecond * 1000)⟩

def validSealedP12 (secret : SealedSecretV1) : Bool :=
  secret.version == sealedSecretVersionV1 &&
    secret.purpose == SealedSecretPurpose.certificateP12Password.toInt32 &&
    !isBlank secret.keyId && secret.keyId.utf8ByteSize ≤ 128 && 32 ≤ secret.ciphertext.length &&
    secret.ciphertext.length ≤ 16 * 1024

namespace CreateRequest

variable (G : GoLibrary) (P : Platform) (r : CreateRequest)

/-- The checks of `validateCreate` on every request. -/
def validCommon : Bool :=
  isUuidV7 r.nodeId && 1 ≤ r.expectedVersion && r.requestId != "" && traceID r.traceparent != "" &&
    oneSecond ≤ r.ttl && r.ttl ≤ 24 * 3600 * oneSecond && 1 ≤ r.idempotencyKey.utf8ByteSize &&
    r.idempotencyKey.utf8ByteSize ≤ 128 && isTrimmed r.idempotencyKey

/-- The checks on the approval of a request and on its rollout. -/
def validRollout : Bool :=
  (r.approvalRequestHash.isEmpty || r.kind == .certificateP12 || r.kind == .certificateRevoke ||
      (r.kind == .agentUpgrade && r.rolloutId != nilUuid)) &&
    !(r.kind == .agentUpgrade && r.rolloutId == nilUuid && !r.approvalRequestHash.isEmpty) &&
    (r.rolloutId == nilUuid ||
      (uuidVersion r.rolloutId.1 == 7 && r.kind == .agentUpgrade &&
        r.approvalRequestHash.length == 32))

/-- The candidate of a configuration request and its digest. -/
def validCandidate : Bool :=
  r.candidate.length != 0 && r.candidate.length ≤ 256 * 1024 && r.candidateHash.length == 32 &&
    (P.sha256 r.candidate).1 == r.candidateHash && r.planRevision.toNat < 2 ^ 63

/-- The checks on a configuration plan. -/
def validPlan : Bool :=
  r.validCandidate P && r.expectedCurrentHash.isEmpty && r.desiredRevision == 0 &&
    r.applyPlanId.isNone &&
    r.planMetadata.any (fun m => !isBlank m.templateName && m.templateName.utf8ByteSize ≤ 128 &&
      m.candidateRedacted.utf8ByteSize != 0 && m.candidateRedacted.utf8ByteSize ≤ 256 * 1024) &&
    !r.planCapabilities.isEmpty && r.actorId != ""

/-- The checks on a configuration apply. -/
def validApply : Bool :=
  r.validCandidate P && r.expectedCurrentHash.length == 32 && r.planRevision < r.desiredRevision &&
    r.applyPlanId.any (· != nilUuid) && r.actorId != "" && r.actorIdentityId != nilUuid &&
    r.actorSessionId != nilUuid && r.approvalId != nilUuid

/-- The checks on a complete candidate, whose text is `configprofile.Canonical`. -/
def validComplete : Bool :=
  match r.completeCandidate with
  | some candidate =>
    canonicalProfile candidate == some r.candidate &&
      (r.kind == .configPlan || r.kind == .configApply) && candidate.nodeId == r.nodeId.1 &&
      candidate.expectedRevision == r.planRevision &&
      (r.kind != .configApply ||
        (r.materializedHash.length == 32 && r.planExpiresAt.any Timestamp.isValid)) &&
      (r.kind != .configPlan || (r.materializedHash.isEmpty && r.planExpiresAt.isNone))
  | none => r.materializedHash.isEmpty && r.planExpiresAt.isNone

/-- The checks on a certificate request. -/
def validCsr : Bool :=
  isUuidV7 r.certificateId && validDnsName r.commonName && r.dnsNames.length ≤ 32 &&
    (r.keyBits == 2048 || r.keyBits == 3072 || r.keyBits == 4096) && r.dnsNames.all validDnsName

/-- The checks on a certificate bundle; the clock is read twice. -/
def validP12 (now later : Time) : Bool :=
  isUuidV7 r.certificateId && r.certificateVersion != 0 && isUuidV7 r.artifactId &&
    64 ≤ r.certificateChain.length && r.certificateChain.length ≤ 256 * 1024 &&
    r.sealedPassword.any validSealedP12 &&
    r.artifactMetadata.any (fun m => m.tokenSHA256.length == 32 && m.requestHash.length == 32 &&
      now < m.expiresAt && m.expiresAt ≤ later + 30 * 60 * oneSecond)

/-- The checks on a revocation. -/
def validRevoke : Bool :=
  isUuidV7 r.certificateId && r.certificateVersion != 0 && !isBlank r.revocationReason &&
    r.revocationReason.utf8ByteSize ≤ 128

/-- The approval that a certificate bundle and a revocation need. -/
def validCertificateApproval : Bool :=
  r.approvalId != nilUuid && r.actorIdentityId != nilUuid && r.approvalRequestHash.length == 32

/-- The approval that a reload and an upgrade need. -/
def validHostApproval : Bool :=
  r.actorId != "" && r.actorIdentityId != nilUuid && r.actorSessionId != nilUuid &&
    r.approvalId != nilUuid

/-- The fields of a configuration request that other requests leave empty. -/
def noConfiguration : Bool :=
  r.candidate.isEmpty && r.candidateHash.isEmpty && r.expectedCurrentHash.isEmpty &&
    r.desiredRevision == 0 && r.planRevision == 0 && r.planMetadata.isNone &&
    r.applyPlanId.isNone && r.ocservVersion == "" && r.planCapabilities.isEmpty

/-- The checks on a session. -/
def validSession : Bool :=
  (parseUnsigned 64 r.sessionId).any (fun n => n != 0 && toString n == r.sessionId) &&
    (G.uuidParse r.bootId).any (· != nilUuid)

/-- The checks that depend on the kind of the request. -/
def validKind (now later : Time) : Bool :=
  match r.kind with
  | .syntheticNoop => r.message == ""
  | .syntheticEcho => true
  | .sessionDisconnect | .sessionTerminate => r.validSession G
  | .ipBanRemove => G.parseIP r.ip == some r.ip
  | .serviceReload => r.validHostApproval
  | .configPlan => r.validPlan P
  | .configApply => r.validApply P
  | .certificateCSR => r.validCsr
  | .certificateP12 => r.validP12 now later && r.validCertificateApproval
  | .certificateRevoke => r.validRevoke && r.validCertificateApproval
  | .agentUpgrade =>
    validAgentUpgradeTargetVersion G r.targetVersion && r.packageSHA256.length == 32 &&
      validArchitecture r.architecture && r.validHostApproval

def validateCreate (now later : Time) : Bool :=
  r.validCommon && r.validRollout && r.message.utf8ByteSize ≤ 4096 && r.validComplete &&
    r.validKind G P now later && !(r.holdDispatch && r.kind != .certificateRevoke) &&
    (r.kind == .configPlan || r.kind == .configApply || r.noConfiguration) &&
    (r.kind == .agentUpgrade ||
      (r.targetVersion == "" && r.packageSHA256.isEmpty && r.architecture == "")) &&
    (r.kind == .syntheticNoop || r.kind == .syntheticEcho ||
      (r.action != "" && r.reason != "" && r.reason.utf8ByteSize ≤ 512))

/-! ## Envelopes -/

/-- The payload that `operations.marshalEnvelope` builds. -/
def payload : Payload :=
  match r.kind with
  | .syntheticNoop => .syntheticNoop
  | .syntheticEcho => .syntheticEcho r.message
  | .sessionDisconnect => .sessionDisconnect ⟨r.sessionId, r.bootId⟩
  | .sessionTerminate => .sessionTerminate ⟨r.sessionId, r.bootId⟩
  | .ipBanRemove => .ipBanRemove r.ip
  | .serviceReload => .serviceReload
  | .configPlan =>
    match r.completeCandidate with
    | some candidate => .completeConfigPlan ⟨some candidate, r.candidateHash⟩
    | none => .configPlan ⟨r.candidate, r.candidateHash, r.planRevision⟩
  | .configApply =>
    match r.completeCandidate with
    | some candidate => .completeConfigApply ⟨some candidate, r.candidateHash,
        r.expectedCurrentHash, r.materializedHash, r.desiredRevision,
        (r.applyPlanId.getD nilUuid).1, r.planExpiresAt⟩
    | none => .configApply ⟨r.candidateHash, r.candidate, r.expectedCurrentHash, r.desiredRevision⟩
  | .certificateCSR => .certificateCsr ⟨r.certificateId.1, r.commonName, r.dnsNames, r.keyBits⟩
  | .certificateP12 => .certificateP12 {
      certificateId := r.certificateId.1
      certificateChainPem := r.certificateChain
      sealedPassword := []
      secretKeyId := ""
      artifactId := r.artifactId.1
      sealedPasswordV1 := r.sealedPassword
      certificateVersion := r.certificateVersion
      artifactExpiresAt := r.artifactMetadata.map fun m => timestampOf m.expiresAt }
  | .certificateRevoke =>
    .certificateRevoke ⟨r.certificateId.1, r.revocationReason, r.certificateVersion⟩
  | .agentUpgrade => .agentUpgrade ⟨r.targetVersion, r.packageSHA256, r.architecture⟩

/-- `capabilityFor`, and the capabilities of the synthetic kinds. -/
def capabilityFor : OperationKind → String
  | .syntheticNoop => "synthetic.noop"
  | .syntheticEcho => "synthetic.echo"
  | .sessionDisconnect => "ocserv.session.disconnect"
  | .sessionTerminate => "ocserv.session.terminate"
  | .ipBanRemove => "ocserv.ip_ban.remove"
  | .serviceReload => "ocserv.service.reload"
  | .configPlan => "ocserv.config.plan"
  | .configApply => "ocserv.config.apply"
  | .certificateCSR | .certificateP12 => "ocserv.certificate.issue"
  | .certificateRevoke => "ocserv.certificate.revoke"
  | .agentUpgrade => "ocserv.agent.upgrade.v2"

def requestCapability : String :=
  if r.kind = .agentUpgrade ∧ r.upgradeCapability ≠ "" then r.upgradeCapability
  else
    match r.completeCandidate, r.kind with
    | some _, .configPlan => planCapability
    | some _, .configApply => applyCapability
    | _, kind => capabilityFor kind

end CreateRequest

/-- An identifier made by `uuid.NewV7`. -/
structure NewV7 where
  id : Uuid
  version : uuidVersion id.1 = 7
  variant : uuidVariant id.1 = 2

/-- A fresh message identifier for the samples. -/
def sampleMessageId : NewV7 := ⟨sampleUuid 5, rfl, rfl⟩

/-- What `marshalEnvelope` is given besides the request, and what hashing and signing add. -/
structure Issue where
  (messageId commandId operationId : NewV7)
  authorizationRevision : UInt64
  (issuedAt expiresAt : Timestamp)
  semanticPayloadSha256 : Bytes
  authorization : CommandAuthorizationProof

/-- The fields that the two `marshalEnvelope` functions fill in the same way. -/
def Issue.envelope (issue : Issue) (nodeId : Bytes)
    (traceparent actorId reason action capability : String)
    (payload : Payload) (approvalId approvalRequestSha256 : Bytes) : CommandEnvelope where
  protocolVersion := commandProtocolVersion
  messageId := issue.messageId.id.1
  commandId := issue.commandId.id.1
  idempotencyKey := issue.operationId.id.1
  nodeId
  sequence := 1
  issuedAt := some issue.issuedAt
  expiresAt := some issue.expiresAt
  expectedRevision := issue.authorizationRevision
  traceparent
  actorId
  reason
  payload := some payload
  deliveryMode := CommandDeliveryMode.executeOrReplay.toInt32
  semanticPayloadHashVersion := SemanticPayloadHashVersion.v2.toInt32
  semanticPayloadSha256 := issue.semanticPayloadSha256
  operationId := issue.operationId.id.1
  action
  requiredCapability := capability
  approvalId
  approvalRequestSha256
  authorization := some issue.authorization

/-- `operations.marshalEnvelope`, with the defaults of `normalizedAuditIntent`. -/
def CreateRequest.marshalEnvelope (r : CreateRequest) (issue : Issue) : CommandEnvelope :=
  issue.envelope r.nodeId.1 r.traceparent (if r.actorId = "" then "developer" else r.actorId)
    (if r.reason = "" then "side-effect-free delivery validation" else r.reason)
    (if r.action = "" then "operation.create" else r.action) r.requestCapability r.payload
    (if r.approvalId = nilUuid then [] else r.approvalId.1) r.approvalRequestHash

/-- `actionFor`. -/
def MutationKind.action : MutationKind → String
  | .userCreate => "user.create"
  | .userDisable => "user.disable"
  | .userEnable => "user.enable"
  | .userPasswordRotate => "user.password.rotate"
  | .groupApply => "group.apply"

/-- `userstate.capabilityFor`. -/
def MutationKind.capability : MutationKind → String
  | .groupApply => "ocserv.groups.write"
  | _ => "ocserv.users.write"

def MutationRequest.marshalEnvelope (r : MutationRequest) (desiredRevision : UInt64)
    (issue : Issue) : CommandEnvelope :=
  issue.envelope r.nodeId r.traceparent r.actorId r.reason r.kind.action r.kind.capability
    (r.payload desiredRevision) [] []

/-- The envelopes that the Controller's admission produces. -/
inductive Admitted (G : GoLibrary) (P : Platform) : CommandEnvelope → Prop
  | create {r : CreateRequest} {now later : Time} (issue : Issue)
      (h : r.validateCreate G P now later = true) : Admitted G P (r.marshalEnvelope issue)
  | mutation {r : MutationRequest} {desiredRevision : UInt64} (issue : Issue)
      (h : r.validate = true) : Admitted G P (r.marshalEnvelope desiredRevision issue)

/-- The identifiers of an admitted command were generated, except that of the node. -/
theorem Admitted.variant (h : Admitted G P envelope) :
    uuidVariant envelope.commandId = 2 ∧ uuidVariant envelope.operationId = 2 ∧
      uuidVariant envelope.idempotencyKey = 2 := by
  cases h with
  | create issue _ =>
      exact ⟨issue.commandId.variant, issue.operationId.variant, issue.operationId.variant⟩
  | mutation issue _ =>
    exact ⟨issue.commandId.variant, issue.operationId.variant, issue.operationId.variant⟩

end Ocservia
