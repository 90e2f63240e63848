import Ocservia.Contract.Grants
import Ocservia.Privd.Execute

/-!
# Dispatching a request in privd

`dispatch_attested` of `privd/src/lib.rs`: a request is a signed command, an artifact operation
under a signed grant, or one of eight reads; every other shape is refused. The module has the
request as a client can send it (`PrivdFrame`), the verification of the owner fence that travels
with it (`verifyExecutionFence`, `verifyArtifactFence`), the whole of `validate_request`, and the
dispatcher, whose result keeps the calls it makes next to the response. `dispatch_authorized` says
what every call rests on.
-/

namespace Ocservia

open Wire Checked List Except ControllerCommandKeyring

/-! ## Requests -/

structure ArtifactReadRequest where
  grant : Option ArtifactGrantV1
  offset : UInt64
  connectionFence : Option ConnectionFenceV2
  fenceBinding : Option FenceBindingV2

structure ArtifactConsumeRequest where
  grant : Option ArtifactGrantV1
  sha256 : Bytes
  size : UInt64
  confirmOnly : Bool
  connectionFence : Option ConnectionFenceV2
  fenceBinding : Option FenceBindingV2

/-- The reads that a request may ask for without authorization. -/
inductive PrivdRead where
  | serviceStatus | ocservVersion | sessionList | ipBanList | configFingerprint | userList
  | groupList | upgradeResultList
deriving DecidableEq

/-- `privd_request::Operation`; the mutations of the earlier protocol, all refused, are one
constructor. -/
inductive PrivdOperation where
  | read (kind : PrivdRead)
  | artifactRead (value : ArtifactReadRequest)
  | artifactConsume (value : ArtifactConsumeRequest)
  | mutation

/-- A `PrivdRequest` of any shape. -/
structure PrivdFrame where
  requestId : Bytes
  deadlineUnixMs : UInt64
  acceptedAt : Option Timestamp
  authorizationCommand : Option StoredEnvelope
  operation : Option PrivdOperation
  privilegedMode : Int32

/-- The request of a frame that carries a command. -/
def PrivdFrame.request (frame : PrivdFrame) (command : CommandEnvelope) : PrivdRequest where
  requestId := frame.requestId
  deadlineUnixMs := frame.deadlineUnixMs
  acceptedAt := frame.acceptedAt
  authorizationCommand := command
  privilegedMode := frame.privilegedMode

/-- `ValidatedRequest`. -/
inductive ValidatedFrame where
  | read (kind : PrivdRead)
  | execute (envelope : StoredEnvelope) (claims : CommandAuthorizationV1) (acceptedAt : Timestamp)
  | reconcile (envelope : StoredEnvelope) (claims : CommandAuthorizationV1)
  | artifactRead (claims : ArtifactGrantClaimsV1) (offset : UInt64)
  | artifactConsume (claims : ArtifactGrantClaimsV1) (digest : Bytes) (size : UInt64)
      (confirmOnly : Bool)

/-- A validated command of `envelope`. -/
def ValidatedFrame.ofCommand (envelope : StoredEnvelope) : ValidatedRequest → ValidatedFrame
  | .execute claims accepted => .execute envelope claims accepted
  | .reconcile claims => .reconcile envelope claims

/-- What privd holds itself against: its node, its endpoint and the pinned Controller keys. -/
structure PrivdIdentity where
  nodeId : Uuid
  endpointId : FixedBytes 32
  commandKeys : ControllerCommandKeyring

def HostTime.instant (t : HostTime) : Instant := ⟨t.seconds, t.nanos⟩

namespace Privd

/-! ## Owner fences -/

def connectionFencingCapability : String := "ocserv.fencing.v2"

section
variable (P : Platform) (self : PrivdIdentity)

def verifyFenceCarriers (fence : Option ConnectionFenceV2) (binding : Option FenceBindingV2)
    (now : HostTime) : Except PrivdError (VerifiedConnectionFenceV2 × FenceBindingClaimsV2) :=
  match fence, binding with
  | some fence, some binding => do
    let verified ← privdAuthorization (self.commandKeys.verifyConnectionFenceV2At P fence
      self.nodeId self.endpointId now.instant)
    requirePrivd (!verified.leaseExpired now.instant) .permissionDenied
      "connection-owner lease expired"
    let claims ← privdAuthorization (self.commandKeys.verifyFenceBindingV2At P binding
      self.nodeId self.endpointId now.instant)
    return (verified, claims)
  | _, _ => .error ⟨.permissionDenied, "signed connection fence and binding required"⟩

def verifyExecutionFence (envelope : StoredEnvelope) (claims : CommandAuthorizationV1)
    (now : HostTime) : Except PrivdError Unit := do
  let (fence, binding) ←
    verifyFenceCarriers P self envelope.connectionFence envelope.fenceBinding now
  requirePrivd
    (binding.operationKind == FenceOperationKind.command.toNat &&
      binding.operationId == claims.commandId &&
      binding.capability == claims.requiredCapability &&
      claims.expectedRevision == fence.term.authorizationRevision &&
      fence.capabilities.contains binding.capability && binding.matchesFence fence)
    .permissionDenied "connection fence does not authorize this command"

def verifyArtifactFence (fence : Option ConnectionFenceV2) (binding : Option FenceBindingV2)
    (operationId : Uuid) (now : HostTime) : Except PrivdError Unit := do
  let (fence, binding) ← verifyFenceCarriers P self fence binding now
  requirePrivd
    (binding.operationKind == FenceOperationKind.artifact.toNat &&
      binding.operationId == operationId &&
      binding.capability == connectionFencingCapability &&
      fence.capabilities.contains binding.capability && binding.matchesFence fence)
    .permissionDenied "connection fence does not authorize this artifact operation"

/-! ## Artifact grants -/

def validateArtifactClaims (claims : ArtifactGrantClaimsV1) : Except PrivdError Unit :=
  requirePrivd
    ([claims.nodeId, claims.artifactId, claims.certificateId, claims.operationId,
        claims.grantId].all (fun value => uuidVersion value.1 == 7) &&
      claims.certificateVersion != 0 && claims.maxBytes != 0 &&
      claims.maxBytes.toNat ≤ 64 * 1024 * 1024 && claims.authorizedSubject != "" &&
      claims.authorizedSubject.utf8ByteSize ≤ 256)
    .invalidRequest "artifact grant claims invalid"

/-- The claims of the grant of an artifact operation. -/
def verifyGrant (grant : Option ArtifactGrantV1) (confirmOnly : Bool) (now : HostTime) :
    Except PrivdError ArtifactGrantClaimsV1 := do
  let grant ← Checked.get grant ⟨.permissionDenied, "artifact grant required"⟩
  let artifactId ← (sized 16 grant.artifactId).mapError fun _ =>
    ⟨.invalidRequest, "artifact ID invalid"⟩
  let claims ← privdAuthorization
    (if confirmOnly then
      self.commandKeys.verifyArtifactGrantForConfirmation P grant self.nodeId artifactId
        "certificate_p12" grant.maxBytes now.seconds
    else
      self.commandKeys.verifyArtifactGrant P grant self.nodeId artifactId "certificate_p12"
        grant.maxBytes now.seconds)
  validateArtifactClaims claims
  return claims

/-! ## The request -/

/-- The checks of `validate_request` before it looks at the command. -/
def validateHeader (frame : PrivdFrame) (now : HostTime) : Except PrivdError Unit := do
  validateUuid frame.requestId "request_id must be UUIDv7"
  requirePrivd (now.sinceEpoch && now.millis < 2 ^ 64) .unavailable "system clock unavailable"
  requirePrivd (now.millis < frame.deadlineUnixMs.toNat) .deadlineExceeded
    "request deadline exceeded"
  requirePrivd (frame.deadlineUnixMs.toNat - now.millis ≤ maxRequestLifetime) .invalidRequest
    "request deadline too far in future"

/-- The configuration against which the command of an envelope is validated. -/
def commandConfig (envelope : StoredEnvelope) : PrivdConfig where
  nodeId := self.nodeId
  commandKeys := self.commandKeys
  executionFence _ claims now := verifyExecutionFence P self envelope claims now

/-- `validate_request` for a signed command; `validateRequest` repeats the checks of the header. -/
def validateSigned (frame : PrivdFrame) (envelope : StoredEnvelope) (now : HostTime) :
    Except PrivdError ValidatedFrame := do
  requirePrivd frame.operation.isNone .invalidRequest "signed command request shape invalid"
  let validated ← validateRequest P (commandConfig P self envelope)
    (frame.request envelope.command) now
  return ValidatedFrame.ofCommand envelope validated

/-- The branch of `validate_request` for an artifact that is read. -/
def validateArtifactRead (value : ArtifactReadRequest) (now : HostTime) :
    Except PrivdError ValidatedFrame := do
  let claims ← verifyGrant P self value.grant false now
  verifyArtifactFence P self value.connectionFence value.fenceBinding claims.artifactId now
  requirePrivd (value.offset.toNat ≤ claims.maxBytes.toNat) .invalidRequest
    "artifact offset invalid"
  return .artifactRead claims value.offset

/-- The branch of `validate_request` for an artifact that is consumed. -/
def validateArtifactConsume (value : ArtifactConsumeRequest) (now : HostTime) :
    Except PrivdError ValidatedFrame := do
  let claims ← verifyGrant P self value.grant value.confirmOnly now
  verifyArtifactFence P self value.connectionFence value.fenceBinding claims.grantId now
  requirePrivd
    (value.sha256.length == 32 && value.size != 0 && value.size.toNat ≤ claims.maxBytes.toNat)
    .invalidRequest "artifact consumption evidence invalid"
  return .artifactConsume claims value.sha256 value.size value.confirmOnly

/-- The branch of `validate_request` for an operation without a command. -/
def validateUnsigned (operation : Option PrivdOperation) (now : HostTime) :
    Except PrivdError ValidatedFrame :=
  match operation with
  | some (.artifactRead value) => validateArtifactRead P self value now
  | some (.artifactConsume value) => validateArtifactConsume P self value now
  | some (.read kind) => .ok (.read kind)
  | some .mutation | none => .error ⟨.permissionDenied, "Controller command authorization required"⟩

/-- `validate_request`. -/
def validateFrame (frame : PrivdFrame) (now : HostTime) : Except PrivdError ValidatedFrame := do
  validateHeader frame now
  match frame.authorizationCommand with
  | some envelope => validateSigned P self frame envelope now
  | none =>
    requirePrivd frame.acceptedAt.isNone .invalidRequest
      "journal acceptance timestamp is only valid for execution"
    requirePrivd
      ((PrivilegedRequestMode.tryFrom frame.privilegedMode).getD .unspecified == .unspecified)
      .permissionDenied "Controller command authorization required"
    validateUnsigned P self frame.operation now

end

end Privd

/-! ## The dispatcher -/

/-- What privd does for a request that it accepts. -/
inductive PrivdCall where
  | executeRead (kind : PrivdRead)
  | executeSignedPayload (command : CommandEnvelope) (claims : CommandAuthorizationV1)
  | scheduleAgentUpgrade (payload : AgentUpgrade) (claims : CommandAuthorizationV1)
  | reconcileCommand (command : CommandEnvelope) (claims : CommandAuthorizationV1)
  | artifactRead (claims : ArtifactGrantClaimsV1) (offset : UInt64)
  | artifactConsume (claims : ArtifactGrantClaimsV1) (digest : Bytes) (size : UInt64)
      (confirmOnly : Bool)
deriving DecidableEq

/-- The claims with which a call reaches `execute_signed_payload` or the upgrade scheduler. -/
def PrivdCall.executes : PrivdCall → Option CommandAuthorizationV1
  | .executeSignedPayload _ claims | .scheduleAgentUpgrade _ claims => some claims
  | _ => none

/-- privd as a server: its identity, its attestation key and the host. -/
structure PrivdServer extends PrivdIdentity where
  attestationKey : SigningKey
  adapter : Adapter
  scheduleAndTrigger : UpgradeIntent → Except UpgradeStoreError Unit
  executeRead : PrivdRead → PrivdResult
  reconcileCommand : CommandEnvelope → CommandAuthorizationV1 → PrivdResponse
  artifactRead : ArtifactGrantClaimsV1 → UInt64 → Except AdapterError PrivdResult
  artifactConsume : ArtifactGrantClaimsV1 → Bytes → UInt64 → Bool → Except AdapterError PrivdResult
  /-- The deadline of the request passes before its answer. -/
  elapsed : Bool

namespace Privd

variable (P : Platform)

/-- The host on which the command of an envelope is executed. -/
def commandHost (server : PrivdServer) (envelope : StoredEnvelope) : PrivdHost where
  toPrivdConfig := commandConfig P server.toPrivdIdentity envelope
  attestationKey := server.attestationKey
  adapter := server.adapter
  scheduleAndTrigger := server.scheduleAndTrigger

/-- The operation of a command: an upgrade is scheduled, any other payload is executed. -/
def operationCall (command : CommandEnvelope) (claims : CommandAuthorizationV1) : PrivdCall :=
  match command.payload with
  | some (.agentUpgrade payload) => .scheduleAgentUpgrade payload claims
  | _ => .executeSignedPayload command claims

/-- What `execute_command` calls: the operation, unless the root store answers the command. -/
def executeCalls (host : PrivdHost) (command : CommandEnvelope) (claims : CommandAuthorizationV1) :
    List PrivdCall :=
  match reserveEffect host command claims (effectBinding P command claims) with
  | some _ => []
  | none => [operationCall command claims]

/-- `deadline_error`, as a response. -/
def deadlineError : PrivdResponse := responseError .deadlineExceeded "request deadline exceeded"

/-- The response under the deadline of the request. -/
def within (server : PrivdServer) (response : PrivdResponse) : PrivdResponse :=
  if server.elapsed then deadlineError else response

/-- `dispatch_attested`: the calls that a request leads to, and the response. -/
def dispatchAttested (server : PrivdServer) (frame : PrivdFrame) (now completed : HostTime) :
    List PrivdCall × PrivdResponse :=
  match validateFrame P server.toPrivdIdentity frame now with
  | .error e => ([], ⟨none, some e.result⟩)
  | .ok (.read kind) =>
    ([.executeRead kind], within server ⟨none, some (server.executeRead kind)⟩)
  | .ok (.execute envelope claims accepted) =>
    (executeCalls P (commandHost P server envelope) envelope.command claims,
      within server (executeCommand P (commandHost P server envelope)
        envelope.command claims accepted completed))
  | .ok (.reconcile envelope claims) =>
    ([.reconcileCommand envelope.command claims],
      within server (server.reconcileCommand envelope.command claims))
  | .ok (.artifactRead claims offset) =>
    ([.artifactRead claims offset], within server
      ⟨none, some (finishOperation "artifact_read" (server.artifactRead claims offset))⟩)
  | .ok (.artifactConsume claims digest size confirmOnly) =>
    ([.artifactConsume claims digest size confirmOnly], within server
      ⟨none, some (finishOperation "artifact_consume"
        (server.artifactConsume claims digest size confirmOnly))⟩)

/-! ## What a call rests on -/

/-- A fence and a binding of one operation to it, which both verify at the reading `now`. -/
structure OperationFenced (self : PrivdIdentity) (fence : ConnectionFenceV2)
    (binding : FenceBindingV2) (kind : FenceOperationKind) (operationId : Uuid)
    (capability : String) (now : HostTime) (owner : ConnectionFenceClaimsV2)
    (bound : FenceBindingClaimsV2) : Prop where
  ownerVerified :
    self.commandKeys.FenceVerified P fence self.nodeId self.endpointId now.instant owner
  boundVerified :
    self.commandKeys.BindingVerified P binding self.nodeId self.endpointId now.instant bound
  lease : owner.leaseUntil.le now.instant = false
  boundKind : bound.operationKind = kind.toNat
  boundOperation : bound.operationId = operationId
  boundCapability : bound.capability = capability
  listed : capability ∈ owner.capabilities
  sameTerm : bound.term = owner.term

/-- The carriers of a request fence the operation. -/
def Fenced (self : PrivdIdentity) (fence : Option ConnectionFenceV2)
    (binding : Option FenceBindingV2) (kind : FenceOperationKind) (operationId : Uuid)
    (capability : String) (now : HostTime) : Prop :=
  ∃ f b owner bound, fence = some f ∧ binding = some b ∧
    OperationFenced P self f b kind operationId capability now owner bound

/-- What the execution of a command rests on. -/
structure ExecutionAuthorized (self : PrivdIdentity) (envelope : StoredEnvelope)
    (claims : CommandAuthorizationV1) (now : HostTime) : Prop where
  claimsOf : ClaimsOf envelope.command claims
  signed : self.commandKeys.SignedClaims P envelope.command claims
  semanticHash : ∃ version, SemanticPayloadHashVersion.tryFrom
      envelope.command.semanticPayloadHashVersion = some version ∧
    semanticPayloadHash P envelope.command version = .ok claims.semanticPayloadSha256
  node : envelope.command.nodeId = self.nodeId.1
  unexpired : ∃ expiresAt, envelope.command.expiresAt = some expiresAt ∧
    now.seconds.toInt < expiresAt.seconds.toInt
  operation : ∃ kind, payloadAuthorization envelope.command =
    .ok (kind, envelope.command.action, envelope.command.requiredCapability)
  mode : envelope.command.mode ≠ .reconcileOnly
  fenced : Fenced P self envelope.connectionFence envelope.fenceBinding .command claims.commandId
    envelope.command.requiredCapability now

/-- What the reconciliation of a command rests on. -/
structure ReconcileAuthorized (self : PrivdIdentity) (envelope : StoredEnvelope)
    (claims : CommandAuthorizationV1) (now : HostTime) : Prop where
  verified :
    ControllerCommandKeyring.VerifiedCommand P self.commandKeys envelope.command self.nodeId
    now.seconds claims
  mode : envelope.command.mode = .reconcileOnly

/-- What an artifact operation rests on: a verified grant, and a fence that binds the operation. -/
structure ArtifactAuthorized (self : PrivdIdentity) (grant : Option ArtifactGrantV1)
    (fence : Option ConnectionFenceV2) (binding : Option FenceBindingV2)
    (operationId : Uuid) (confirmOnly : Bool) (now : HostTime)
    (claims : ArtifactGrantClaimsV1) : Prop where
  granted : ∃ g, grant = some g ∧ self.commandKeys.ArtifactGrantVerified P g self.nodeId
    claims.artifactId now.seconds (!confirmOnly) claims
  fenced : Fenced P self fence binding .artifact operationId connectionFencingCapability now

section
variable {P} {self : PrivdIdentity} {now : HostTime}

variable {fence : Option ConnectionFenceV2} {binding : Option FenceBindingV2}
  {envelope : StoredEnvelope}

variable {verified : VerifiedConnectionFenceV2} {bound : FenceBindingClaimsV2}
  {operationId : Uuid} {u : Unit} {frame : PrivdFrame}

theorem verifyFenceCarriers_ok
    (h : verifyFenceCarriers P self fence binding now = .ok (verified, bound)) :
    ∃ f b owner, fence = some f ∧ binding = some b ∧
      self.commandKeys.FenceVerified P f self.nodeId self.endpointId now.instant owner ∧
      verified = ⟨owner.term, owner.capabilities, owner.leaseUntil, owner.expiresAt⟩ ∧
      verified.leaseExpired now.instant = false ∧
      self.commandKeys.BindingVerified P b self.nodeId self.endpointId now.instant bound := by
  unfold verifyFenceCarriers at h
  split at h
  case h_1 f b =>
    obtain ⟨v, hfence, h⟩ := bind_eq_ok.1 h
    obtain ⟨hlease, h⟩ := require_bind.1 h
    obtain ⟨c, hbinding, h⟩ := bind_eq_ok.1 h
    cases h
    obtain ⟨owner, howner, hv⟩ :=
      verifyConnectionFenceV2At_ok (mapError_eq_ok_iff.1 hfence)
    refine ⟨f, b, owner, rfl, rfl, howner, hv, by simpa using hlease, ?_⟩
    exact verifyFenceBindingV2At_ok (mapError_eq_ok_iff.1 hbinding)
  case h_2 => cases h

/-- Carriers that verify fence the operation that their binding names. -/
theorem fenced_of_carriers
    (h : verifyFenceCarriers P self fence binding now = .ok (verified, bound))
    (hkind : bound.operationKind = kind.toNat) (hoperation : bound.operationId = operationId)
    (hcapability : bound.capability = capability)
    (hlisted : verified.capabilities.contains bound.capability = true)
    (hterm : bound.matchesFence verified = true) :
    Fenced P self fence binding kind operationId capability now := by
  obtain ⟨f, b, owner, hf, hb, howner, rfl, hlease, hbound⟩ := verifyFenceCarriers_ok h
  refine ⟨f, b, owner, bound, hf, hb, ?_⟩
  exact {
    ownerVerified := howner
    boundVerified := hbound
    lease := hlease
    boundKind := hkind
    boundOperation := hoperation
    boundCapability := hcapability
    listed := by
      rw [← hcapability]
      exact contains_iff_mem.1 hlisted
    sameTerm := eq_of_beq hterm }

theorem verifyExecutionFence_ok (h : verifyExecutionFence P self envelope claims now = .ok u) :
    Fenced P self envelope.connectionFence envelope.fenceBinding .command claims.commandId
      claims.requiredCapability now := by
  obtain ⟨⟨verified, bound⟩, hcarriers, h⟩ := bind_eq_ok.1 h
  have hcheck := requirePrivd_eq_ok.1 h
  simp only [Bool.and_eq_true, beq_iff_eq] at hcheck
  obtain ⟨⟨⟨⟨⟨hkind, hoperation⟩, hcapability⟩, -⟩, hlisted⟩, hterm⟩ := hcheck
  exact fenced_of_carriers hcarriers hkind hoperation hcapability hlisted hterm

theorem verifyArtifactFence_ok
    (h : verifyArtifactFence P self fence binding operationId now = .ok u) :
    Fenced P self fence binding .artifact operationId connectionFencingCapability now := by
  obtain ⟨⟨verified, bound⟩, hcarriers, h⟩ := bind_eq_ok.1 h
  have hcheck := requirePrivd_eq_ok.1 h
  simp only [Bool.and_eq_true, beq_iff_eq] at hcheck
  obtain ⟨⟨⟨⟨hkind, hoperation⟩, hcapability⟩, hlisted⟩, hterm⟩ := hcheck
  exact fenced_of_carriers hcarriers hkind hoperation hcapability hlisted hterm

theorem verifyGrant_ok (h : verifyGrant P self grant confirmOnly now = .ok claims) :
    ∃ g, grant = some g ∧ self.commandKeys.ArtifactGrantVerified P g self.nodeId claims.artifactId
      now.seconds (!confirmOnly) claims := by
  obtain ⟨g, hg, h⟩ := get_bind.1 h
  obtain ⟨artifactId, h⟩ := of_bind h
  obtain ⟨verified, hverified, h⟩ := bind_eq_ok.1 h
  obtain ⟨_, h⟩ := of_bind h
  obtain rfl := ok.inj h
  have hinner : self.commandKeys.verifyArtifactGrantInner P g self.nodeId artifactId
      "certificate_p12" g.maxBytes now.seconds (!confirmOnly) = .ok verified := by
    have hverified := mapError_eq_ok_iff.1 hverified
    cases confirmOnly with
    | true | false => exact hverified
  have hv := verifyArtifactGrantInner_ok hinner
  refine ⟨g, hg, ?_⟩
  rw [hv.artifact]
  exact hv

/-- An accepted execution is authorized. -/
theorem executionAuthorized
    (h : validateRequest P (commandConfig P self envelope) (frame.request envelope.command) now =
      .ok (.execute claims accepted)) : ExecutionAuthorized P self envelope claims now := by
  obtain ⟨hverified, -, hmode⟩ := validateRequest_parts h
  obtain ⟨hclaims, hchecked, -⟩ := claimsFromEnvelopeV1_spec hverified.projected
  have hnot : envelope.command.mode ≠ .reconcileOnly := by
    rcases hmode.mode with hm | hm
    iterate 2 exact fun hr => by cases hm.symm.trans hr
  have hdelivery : envelope.command.deliveryMode ≠ CommandDeliveryMode.reconcileOnly.toInt32 := by
    intro hd
    exact hnot (by rw [CommandEnvelope.mode, hd]; rfl)
  obtain ⟨hash, hhash⟩ := hverified.semanticHash
  obtain ⟨version, hversion, hcomputed, hdeclared⟩ := (verifySemanticPayloadHash_eq_ok P).1 hhash
  obtain ⟨issuedAt, expiresAt, -, hexpires, -, hseconds⟩ := hclaims.times
  have hfence := verifyExecutionFence_ok hmode.fence
  exact {
    claimsOf := hclaims
    signed := hverified.signed
    semanticHash := ⟨version, hversion, hcomputed.trans
      (congrArg ok (Subtype.ext (hdeclared.trans hclaims.hash.symm)))⟩
    node := hclaims.nodeId.symm.trans (congrArg Subtype.val hverified.nodeId)
    unexpired := ⟨expiresAt, hexpires, hseconds ▸ hverified.unexpired hdelivery⟩
    operation := hchecked.authorized
    mode := hnot
    fenced := hchecked.capability ▸ hfence }

end

/-- A call is the operation of the command of a frame, and the command is authorized. -/
def OperationAuthorized (self : PrivdIdentity) (frame : PrivdFrame) (now : HostTime)
    (call : PrivdCall) (claims : CommandAuthorizationV1) : Prop :=
  ∃ envelope, frame.authorizationCommand = some envelope ∧
    call = operationCall envelope.command claims ∧ ExecutionAuthorized P self envelope claims now

/-- What the dispatcher checked of a frame before it made a call. -/
def CallAuthorized (self : PrivdIdentity) (frame : PrivdFrame) (now : HostTime) : PrivdCall → Prop
  | .executeRead kind => frame.operation = some (.read kind)
  | .executeSignedPayload command claims =>
      OperationAuthorized P self frame now (.executeSignedPayload command claims) claims
  | .scheduleAgentUpgrade payload claims =>
      OperationAuthorized P self frame now (.scheduleAgentUpgrade payload claims) claims
  | .reconcileCommand command claims => ∃ envelope, frame.authorizationCommand = some envelope ∧
      envelope.command = command ∧ ReconcileAuthorized P self envelope claims now
  | .artifactRead claims offset => ∃ value, frame.operation = some (.artifactRead value) ∧
      value.offset = offset ∧ ArtifactAuthorized P self value.grant value.connectionFence
        value.fenceBinding claims.artifactId false now claims
  | .artifactConsume claims digest size confirmOnly => ∃ value,
      frame.operation = some (.artifactConsume value) ∧ value.sha256 = digest ∧
      value.size = size ∧ value.confirmOnly = confirmOnly ∧
      ArtifactAuthorized P self value.grant value.connectionFence value.fenceBinding claims.grantId
        confirmOnly now claims

section
variable {P} {self : PrivdIdentity} {frame : PrivdFrame} {now : HostTime}

/-- What a validated frame was validated from. -/
inductive FrameValidated (P : Platform) (self : PrivdIdentity) (frame : PrivdFrame)
    (now : HostTime) : ValidatedFrame → Prop
  | read {kind : PrivdRead} : frame.operation = some (.read kind) →
      FrameValidated P self frame now (.read kind)
  | execute {envelope : StoredEnvelope} {claims : CommandAuthorizationV1} {accepted : Timestamp} :
      frame.authorizationCommand = some envelope → ExecutionAuthorized P self envelope claims now →
      FrameValidated P self frame now (.execute envelope claims accepted)
  | reconcile {envelope : StoredEnvelope} {claims : CommandAuthorizationV1} :
      frame.authorizationCommand = some envelope → ReconcileAuthorized P self envelope claims now →
      FrameValidated P self frame now (.reconcile envelope claims)
  | artifactRead {value : ArtifactReadRequest} {claims : ArtifactGrantClaimsV1} :
      frame.operation = some (.artifactRead value) →
      ArtifactAuthorized P self value.grant value.connectionFence value.fenceBinding
        claims.artifactId false now claims →
      FrameValidated P self frame now (.artifactRead claims value.offset)
  | artifactConsume {value : ArtifactConsumeRequest} {claims : ArtifactGrantClaimsV1} :
      frame.operation = some (.artifactConsume value) →
      ArtifactAuthorized P self value.grant value.connectionFence value.fenceBinding
        claims.grantId value.confirmOnly now claims →
      FrameValidated P self frame now
        (.artifactConsume claims value.sha256 value.size value.confirmOnly)

variable {validated : ValidatedFrame}

variable {envelope : StoredEnvelope} {call : PrivdCall}

theorem validateSigned_ok (hcommand : frame.authorizationCommand = some envelope)
    (h : validateSigned P self frame envelope now = .ok validated) :
    FrameValidated P self frame now validated := by
  obtain ⟨_, h⟩ := of_bind h
  obtain ⟨request, hrequest, h⟩ := bind_eq_ok.1 h
  cases h
  cases request with
  | execute claims accepted => exact .execute hcommand (executionAuthorized hrequest)
  | reconcile claims =>
    obtain ⟨verified, hverified, -, hvalid⟩ := validateRequest_ok hrequest
    obtain ⟨rfl, hmode⟩ := validateMode_reconcile hvalid
    exact .reconcile hcommand ⟨hverified, hmode⟩

theorem validateUnsigned_ok (h : validateUnsigned P self frame.operation now = .ok validated) :
    FrameValidated P self frame now validated := by
  unfold validateUnsigned at h
  split at h
  case h_1 value hvalue =>
    obtain ⟨claims, hgrant, h⟩ := bind_eq_ok.1 h
    obtain ⟨_, hfence, h⟩ := bind_eq_ok.1 h
    obtain ⟨_, h⟩ := of_bind h
    cases h
    exact .artifactRead hvalue ⟨verifyGrant_ok hgrant, verifyArtifactFence_ok hfence⟩
  case h_2 value hvalue =>
    obtain ⟨claims, hgrant, h⟩ := bind_eq_ok.1 h
    obtain ⟨_, hfence, h⟩ := bind_eq_ok.1 h
    obtain ⟨_, h⟩ := of_bind h
    cases h
    exact .artifactConsume hvalue ⟨verifyGrant_ok hgrant, verifyArtifactFence_ok hfence⟩
  case h_3 kind hkind =>
    cases h
    exact .read hkind
  case h_4 | h_5 => cases h

theorem validateFrame_ok (h : validateFrame P self frame now = .ok validated) :
    FrameValidated P self frame now validated := by
  obtain ⟨_, h⟩ := of_bind h
  split at h
  case h_1 envelope hcommand => exact validateSigned_ok hcommand h
  case h_2 =>
    iterate 2 obtain ⟨_, h⟩ := of_bind h
    exact validateUnsigned_ok h

/-- The one call that an authorized execution may make is the operation of its command. -/
theorem callAuthorized_of_execute (hcommand : frame.authorizationCommand = some envelope)
    (hauthorized : ExecutionAuthorized P self envelope claims now)
    (h : call ∈ executeCalls P host envelope.command claims) :
    CallAuthorized P self frame now call := by
  unfold executeCalls at h
  split at h
  · cases h
  obtain rfl := mem_singleton.1 h
  have hoperation : OperationAuthorized P self frame now
      (operationCall envelope.command claims) claims := ⟨envelope, hcommand, rfl, hauthorized⟩
  unfold operationCall at hoperation ⊢
  split at hoperation
  iterate 2 exact hoperation

/-- **Every call is authorized**: each call of the dispatcher rests on the checks of its form. -/
theorem dispatch_authorized (server : PrivdServer) (frame : PrivdFrame) (now completed : HostTime)
    (h : call ∈ (dispatchAttested P server frame now completed).1) :
    CallAuthorized P server.toPrivdIdentity frame now call := by
  unfold dispatchAttested at h
  split at h
  case h_1 => cases h
  case h_2 hvalidated =>
    obtain rfl := mem_singleton.1 h
    cases validateFrame_ok hvalidated with
    | read hkind => exact hkind
  case h_3 hvalidated =>
    cases validateFrame_ok hvalidated with
    | execute hcommand hauthorized => exact callAuthorized_of_execute hcommand hauthorized h
  case h_4 hvalidated =>
    obtain rfl := mem_singleton.1 h
    cases validateFrame_ok hvalidated with
    | reconcile hcommand hauthorized => exact ⟨_, hcommand, rfl, hauthorized⟩
  case h_5 hvalidated =>
    obtain rfl := mem_singleton.1 h
    cases validateFrame_ok hvalidated with
    | artifactRead hvalue hauthorized => exact ⟨_, hvalue, rfl, hauthorized⟩
  case h_6 hvalidated =>
    obtain rfl := mem_singleton.1 h
    cases validateFrame_ok hvalidated with
    | artifactConsume hvalue hauthorized => exact ⟨_, hvalue, rfl, rfl, rfl, hauthorized⟩

end

/-- **Only authorized commands are executed.** A call that reaches `execute_signed_payload` or the
upgrade scheduler is the operation of the request's command, whose signature and semantic hash
verified, which is for this node, unexpired, and named after its payload, and to which a verified
fence of this node and endpoint binds an unexpired owner term that lists its capability. A command
that may only be reconciled reaches neither. -/
theorem executes_only_authorized (server : PrivdServer) (frame : PrivdFrame)
    (now completed : HostTime) (call : PrivdCall) (claims : CommandAuthorizationV1)
    (hcall : call ∈ (dispatchAttested P server frame now completed).1)
    (hexecutes : call.executes = some claims) :
    ∃ envelope, frame.authorizationCommand = some envelope ∧
      call = operationCall envelope.command claims ∧
      ExecutionAuthorized P server.toPrivdIdentity envelope claims now := by
  have hauthorized := dispatch_authorized server frame now completed hcall
  cases call with
  | executeSignedPayload command signed | scheduleAgentUpgrade payload signed =>
    cases hexecutes
    exact hauthorized
  | executeRead | reconcileCommand | artifactRead | artifactConsume => cases hexecutes

/-! ### A fenced command -/

/-- The request to disable `alice`, with its fence. -/
def sampleFrame (mode : CommandDeliveryMode) : PrivdFrame where
  requestId := (sampleUuid 6).1
  deadlineUnixMs := 510000
  acceptedAt := some ⟨500, 0⟩
  authorizationCommand := some ⟨sampleDisable mode 1, some (sampleFence 4 9),
    some (sampleBinding 4 9)⟩
  operation := none
  privilegedMode := 1

/-- privd on the host of `sampleAdapter`. -/
def sampleServer : PrivdServer where
  nodeId := sampleUuid 3
  endpointId := .fill 9
  commandKeys := ⟨[("ed25519", [])]⟩
  attestationKey := ⟨.fill 0, fun _ => .fill 0⟩
  adapter := sampleAdapter
  scheduleAndTrigger _ := .ok ()
  executeRead _ := .observation
  reconcileCommand _ _ := ⟨none, none⟩
  artifactRead _ _ := .error .unavailable
  artifactConsume _ _ _ _ := .error .unavailable
  elapsed := false

/-- The fenced command is executed, and it is authorized. -/
theorem disable_executed_authorized :
    (dispatchAttested samplePlatform sampleServer (sampleFrame .executeOrReplay)
      ⟨500, 0, by decide⟩ ⟨501, 0, by decide⟩).1 =
        [.executeSignedPayload (sampleDisable .executeOrReplay 1) disableClaims] ∧
    ∃ envelope, (sampleFrame .executeOrReplay).authorizationCommand = some envelope ∧
      PrivdCall.executeSignedPayload (sampleDisable .executeOrReplay 1) disableClaims =
        operationCall envelope.command disableClaims ∧
      ExecutionAuthorized samplePlatform sampleServer.toPrivdIdentity envelope disableClaims
        ⟨500, 0, by decide⟩ := by
  have hcalls : (dispatchAttested samplePlatform sampleServer (sampleFrame .executeOrReplay)
      ⟨500, 0, by decide⟩ ⟨501, 0, by decide⟩).1 =
        [.executeSignedPayload (sampleDisable .executeOrReplay 1) disableClaims] := by
    decide +kernel
  refine ⟨hcalls, ?_⟩
  refine executes_only_authorized samplePlatform sampleServer (sampleFrame .executeOrReplay)
    ⟨500, 0, by decide⟩ ⟨501, 0, by decide⟩ _ disableClaims ?_ rfl
  rw [hcalls]
  exact mem_singleton_self _

end Privd

end Ocservia
