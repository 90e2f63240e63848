import Ocservia.Controller.Recovery

/-!
# The Controller's command signer

`commandauth/authorization.go` and `commandauth/fence_v2.go`: the Controller projects an envelope to
its claims, encodes them and signs the bytes (`Signer.authorize`), and likewise the fence of an
ownership term and the binding of one operation to that term. The node has the projection and the
encoders a second time, in Rust.

`signed_verified_iff` says which of these the node accepts.
-/

namespace Ocservia

open Wire Checked Nat Except ControllerCommandKeyring Instant Fence

namespace CommandAuth

inductive SignerError where
  | message (text : String)
  /-- The error `command <claim> %q does not match payload`. -/
  | mismatch (claim value : String)
  /-- The error `<name> must contain exactly <n> bytes`. -/
  | length (name : String) (n : Nat)
deriving DecidableEq

/-- Return an error with a fixed text unless the check passes. -/
def require (check : Bool) (text : String) : Except SignerError Unit :=
  Checked.require check (.message text)

/-- A conversion `uint32(x)` of a signed number. -/
def uint32 (x : Int32) : Nat := (x.toInt % 2 ^ 32).toNat

/-! ## Claims of a command -/

def protocolVersion : String := "1.2"

def legacyProtocolVersion : String := "1.1"

def payloadAuthorization (envelope : CommandEnvelope) :
    Except SignerError (Nat × String × String) :=
  match envelope.payload with
  | some (.sessionDisconnect _) => .ok (100, "session.disconnect", "ocserv.session.disconnect")
  | some (.userCreate _) => .ok (101, "user.create", "ocserv.users.write")
  | some (.userDisable _) => .ok (102, "user.disable", "ocserv.users.write")
  | some (.configPlan _) => .ok (103, "config.plan", "ocserv.config.plan")
  | some (.configApply _) => .ok (104, "config.apply", "ocserv.config.apply")
  | some (.completeConfigPlan _) => .ok (129, "config.plan", "ocserv.config.complete.plan")
  | some (.completeConfigApply _) => .ok (130, "config.apply", "ocserv.config.complete.apply")
  | some .serviceReload => .ok (105, "service.reload", "ocserv.service.reload")
  | some .syntheticNoop => .ok (107, "operation.create", "synthetic.noop")
  | some (.syntheticEcho _) => .ok (108, "operation.create", "synthetic.echo")
  | some (.sessionTerminate _) => .ok (112, "session.terminate", "ocserv.session.terminate")
  | some (.ipBanRemove _) => .ok (113, "ip_ban.remove", "ocserv.ip_ban.remove")
  | some (.userPasswordRotate _) => .ok (114, "user.password.rotate", "ocserv.users.write")
  | some (.groupApply _) => .ok (115, "group.apply", "ocserv.groups.write")
  | some (.userEnable _) => .ok (116, "user.enable", "ocserv.users.write")
  | some (.certificateCsr _) => .ok (117, "certificate.issue", "ocserv.certificate.issue")
  | some (.certificateP12 _) =>
    .ok (118, "certificate.private_key.export", "ocserv.certificate.issue")
  | some (.certificateRevoke _) => .ok (119, "certificate.revoke", "ocserv.certificate.revoke")
  | some (.agentUpgrade _) =>
    if envelope.requiredCapability == "ocserv.agent.upgrade.v1" ||
        envelope.requiredCapability == "ocserv.agent.upgrade.v2" then
      .ok (128, "agent.upgrade", envelope.requiredCapability)
    else .error (.message "unsupported agent upgrade capability")
  | some .simulationProbe | none =>
    .error (.message "command payload does not support authorization v1")

/-- A byte string of `n` bytes under its field name. -/
def fixedBytes (n : Nat) (value : Bytes) (name : String) : Except SignerError (FixedBytes n) :=
  if h : value.length = n then .ok ⟨value, h⟩ else .error (.length name n)

def fixed16 := fixedBytes 16

def fixed32 := fixedBytes 32

/-- An empty byte string, or one of `n` bytes. -/
def optionalBytes (n : Nat) (value : Bytes) (name : String) :
    Except SignerError (Option (FixedBytes n)) :=
  if value.isEmpty then .ok none else (fixedBytes n value name).map some

def optional16 := optionalBytes 16

def optional32 := optionalBytes 32

/-- `ClaimsFromEnvelopeV1`. The fields of `ClaimsV1` are those of the node's claims. -/
def claimsFromEnvelopeV1 (envelope : CommandEnvelope) :
    Except SignerError CommandAuthorizationV1 := do
  let authorization ← Checked.get envelope.authorization
    (.message "command authorization proof is missing")
  require (authorization.version == commandAuthorizationVersionV1)
    "command authorization version is unsupported"
  require (envelope.protocolVersion == protocolVersion ||
      envelope.protocolVersion == legacyProtocolVersion)
    "command protocol version does not require authorization v1"
  let (payloadKind, expectedAction, expectedCapability) ← payloadAuthorization envelope
  Checked.require (envelope.action == expectedAction) (.mismatch "action" envelope.action)
  Checked.require (envelope.requiredCapability == expectedCapability)
    (.mismatch "capability" envelope.requiredCapability)
  require (!(isBlank envelope.actorId || 256 < envelope.actorId.utf8ByteSize ||
      128 < authorization.keyId.utf8ByteSize))
    "command authorization identity is invalid"
  let commandId ← fixed16 envelope.commandId "command_id"
  let idempotencyKey ← fixed16 envelope.idempotencyKey "idempotency_key"
  let nodeId ← fixed16 envelope.nodeId "node_id"
  let operationId ← fixed16 envelope.operationId "operation_id"
  let semanticPayloadSha256 ← fixed32 envelope.semanticPayloadSha256 "semantic_payload_sha256"
  require (envelope.semanticPayloadHashVersion == SemanticPayloadHashVersion.v1.toInt32 ||
      envelope.semanticPayloadHashVersion == SemanticPayloadHashVersion.v2.toInt32)
    "semantic payload hash version must be v1"
  let issuedAt ← Checked.get envelope.issuedAt
    (.message "command authorization timestamps are invalid")
  let expiresAt ← Checked.get envelope.expiresAt
    (.message "command authorization timestamps are invalid")
  require (issuedAt.isValid && expiresAt.isValid && issuedAt.asTime < expiresAt.asTime)
    "command authorization timestamps are invalid"
  require (envelope.deliveryMode != CommandDeliveryMode.unspecified.toInt32)
    "command delivery mode is invalid"
  let approvalId ← optional16 envelope.approvalId "approval_id"
  let approvalRequestSha256 ← optional32 envelope.approvalRequestSha256 "approval_request_sha256"
  require (!(approvalRequestSha256.isSome && approvalId.isNone))
    "approval request hash requires an approval ID"
  return {
    authorizationVersion := uint32 authorization.version
    keyId := authorization.keyId
    protocolVersion := envelope.protocolVersion
    commandId, idempotencyKey, nodeId, operationId
    actorIdentity := envelope.actorId
    action := envelope.action
    requiredCapability := envelope.requiredCapability
    approvalId, approvalRequestSha256
    expectedRevision := envelope.expectedRevision
    semanticHashVersion := uint32 envelope.semanticPayloadHashVersion
    semanticPayloadSha256, payloadKind
    deliveryMode := uint32 envelope.deliveryMode
    issuedAtSeconds := issuedAt.seconds
    issuedAtNanos := uint32 issuedAt.nanos
    expiresAtSeconds := expiresAt.seconds
    expiresAtNanos := uint32 expiresAt.nanos }

/-! ## Encoders -/

def writeString (target : Bytes) (value : String) : Except SignerError Bytes := do
  require (!(2 ^ 32 - 1 < value.utf8ByteSize)) "command authorization string exceeds uint32 length"
  return target ++ be 4 value.utf8ByteSize ++ utf8 value

/-- A loop of `writeString` over `values`. -/
def writeStrings (target : Bytes) : List String → Except SignerError Bytes
  | [] => .ok target
  | value :: values => do writeStrings (← writeString target value) values

/-- `writeOptional16` and `writeOptional32`. -/
def writeOptional {n : Nat} : Option (FixedBytes n) → Bytes
  | none => [0]
  | some value => [1] ++ value.1

def writeInt64 (value : Int64) : Bytes := be 8 (value.toInt % 2 ^ 64).toNat

def canonicalV1 (claims : CommandAuthorizationV1) : Except SignerError Bytes := do
  require
    (!(claims.authorizationVersion != 1 || claims.keyId == "" || claims.protocolVersion == "" ||
      claims.actorIdentity == "" || claims.action == "" || claims.requiredCapability == "" ||
      claims.semanticHashVersion == 0 || claims.payloadKind == 0 || claims.deliveryMode == 0 ||
      1000000000 ≤ claims.issuedAtNanos || 1000000000 ≤ claims.expiresAtNanos ||
      claims.expiresAtSeconds.toInt < claims.issuedAtSeconds.toInt ||
      (claims.expiresAtSeconds == claims.issuedAtSeconds &&
        claims.expiresAtNanos ≤ claims.issuedAtNanos)))
    "command authorization v1 claims are invalid"
  require (!(claims.approvalRequestSha256.isSome && claims.approvalId.isNone))
    "approval request hash requires an approval ID"
  let encoded := utf8 "ocservia/controller-command/v1\x00" ++ be 4 claims.authorizationVersion
  let encoded ← writeString encoded claims.keyId
  let encoded ← writeString encoded claims.protocolVersion
  let encoded := encoded ++ claims.commandId.1 ++ claims.idempotencyKey.1 ++ claims.nodeId.1 ++
    claims.operationId.1
  let encoded ← writeStrings encoded
    [claims.actorIdentity, claims.action, claims.requiredCapability]
  return encoded ++ writeOptional claims.approvalId ++ writeOptional claims.approvalRequestSha256 ++
    be 8 claims.expectedRevision.toNat ++ be 4 claims.semanticHashVersion ++
    claims.semanticPayloadSha256.1 ++ be 4 claims.payloadKind ++ be 4 claims.deliveryMode ++
    writeInt64 claims.issuedAtSeconds ++ be 4 claims.issuedAtNanos ++
    writeInt64 claims.expiresAtSeconds ++ be 4 claims.expiresAtNanos

/-- `ConnectionFenceV2SignatureVersion`. -/
def fenceSignatureVersion : Nat := 1

def leaseDeadlineAfter (until' since : Instant) : Bool :=
  since.seconds.toInt < until'.seconds.toInt ||
    (until'.seconds == since.seconds && since.nanos < until'.nanos)

def deadlineNotAfter (until' limit : Instant) : Bool :=
  until'.seconds.toInt < limit.seconds.toInt ||
    (until'.seconds == limit.seconds && until'.nanos ≤ limit.nanos)

/-- The last two conditions of each encoder: the proof expires no later than issued. -/
def expiryInvalid (issuedAt expiresAt : Instant) : Bool :=
  expiresAt.seconds.toInt < issuedAt.seconds.toInt ||
    (expiresAt.seconds == issuedAt.seconds && expiresAt.nanos ≤ issuedAt.nanos)

/-- The loop of `validateSortedCapabilities`; `first` is `index == 0`. -/
def validateSortedCapabilities (first : Bool) (previous : String) : List String → Bool
  | [] => true
  | capability :: rest =>
    if capability == "" || 128 < capability.utf8ByteSize ||
        (!first && utf8 capability ≤ utf8 previous) then false
    else validateSortedCapabilities false capability rest

/-- The seconds and the nanoseconds of an instant, as the fence encoders write them. -/
def writeInstant (value : Instant) : Bytes := writeInt64 value.seconds ++ be 4 value.nanos

/-- The owner of a term, as the fence encoders write it. -/
def writeOwner (term : FenceTerm) : Bytes :=
  term.ownerInstanceId.1 ++ be 8 term.ownerIncarnation.toNat ++ be 8 term.ownerEpoch.toNat ++
    term.connectionId.1 ++ be 8 term.authorizationRevision.toNat

/-- `CanonicalConnectionFenceV2`, with the signature version as an argument. -/
def canonicalConnectionFenceV2 (signatureVersion : Nat) (claims : ConnectionFenceClaimsV2) :
    Except SignerError Bytes := do
  require
    (!(signatureVersion != fenceSignatureVersion || claims.keyId == "" ||
      128 < claims.keyId.utf8ByteSize || claims.term.ownerEpoch == 0 ||
      claims.term.authorizationRevision == 0 || 1000000000 ≤ claims.leaseUntil.nanos ||
      1000000000 ≤ claims.issuedAt.nanos || 1000000000 ≤ claims.expiresAt.nanos ||
      !leaseDeadlineAfter claims.leaseUntil claims.issuedAt ||
      !deadlineNotAfter claims.leaseUntil claims.expiresAt ||
      expiryInvalid claims.issuedAt claims.expiresAt))
    "connection fence v2 claims are invalid"
  require
    (!(128 < claims.capabilities.length || !validateSortedCapabilities true "" claims.capabilities))
    "connection fence v2 capabilities are invalid"
  let encoded := utf8 "ocservia/connection-fence/v2\x00" ++ be 4 signatureVersion
  let encoded ← writeString encoded claims.keyId
  let encoded := encoded ++ claims.term.fenceId.1 ++ claims.nodeId.1 ++ claims.endpointId.1 ++
    writeOwner claims.term ++ be 4 claims.capabilities.length
  let encoded ← writeStrings encoded claims.capabilities
  return encoded ++ writeInstant claims.leaseUntil ++ writeInstant claims.issuedAt ++
    writeInstant claims.expiresAt

def canonicalFenceBindingV2 (signatureVersion : Nat) (claims : FenceBindingClaimsV2) :
    Except SignerError Bytes := do
  require
    (!(signatureVersion != fenceSignatureVersion || claims.keyId == "" ||
      128 < claims.keyId.utf8ByteSize || claims.operationKind == 0 || 4 < claims.operationKind ||
      claims.term.ownerEpoch == 0 || claims.term.authorizationRevision == 0 ||
      claims.capability == "" || 128 < claims.capability.utf8ByteSize ||
      1000000000 ≤ claims.issuedAt.nanos || 1000000000 ≤ claims.expiresAt.nanos ||
      expiryInvalid claims.issuedAt claims.expiresAt))
    "fence binding v2 claims are invalid"
  let encoded := utf8 "ocservia/fence-binding/v2\x00" ++ be 4 signatureVersion
  let encoded ← writeString encoded claims.keyId
  let encoded := encoded ++ be 4 claims.operationKind ++ claims.operationId.1 ++
    claims.term.fenceId.1 ++ claims.nodeId.1 ++ claims.endpointId.1 ++ writeOwner claims.term
  let encoded ← writeString encoded claims.capability
  return encoded ++ writeInstant claims.issuedAt ++ writeInstant claims.expiresAt

/-! ## The signer -/

/-- `Signer`: an Ed25519 key. `sign` is `ed25519.Sign` with the private key. -/
structure Signer where
  publicKey : Bytes
  sign : Bytes → FixedBytes 64

/-- A `time.Time`, as `Unix` and `Nanosecond` read it. -/
structure WallTime where
  seconds : Int64
  nanos : Nat
  nanos_lt : nanos < 1000000000

/-- The claims of a time. -/
def WallTime.instant (t : WallTime) : Instant := ⟨t.seconds, t.nanos⟩

/-- `timestamppb.New`. -/
def WallTime.timestamp (t : WallTime) : Timestamp := ⟨t.seconds, Int32.ofNat t.nanos⟩

namespace Signer

variable (P : Platform) (signer : Signer)

def keyId : String := "ed25519-sha256:" ++ hexEncode (P.sha256 signer.publicKey).1

/-- `Authorize`: the envelope with its proof. -/
def authorize (envelope : CommandEnvelope) : Except SignerError CommandEnvelope := do
  let proof : CommandAuthorizationProof := ⟨commandAuthorizationVersionV1, signer.keyId P, []⟩
  let claims ← claimsFromEnvelopeV1 { envelope with authorization := some proof }
  let canonical ← canonicalV1 claims
  return { envelope with
    authorization := some { proof with signature := (signer.sign canonical).1 } }

/-- The claims of a fence that the signer issues. -/
def fenceClaims (nodeId : Uuid) (endpointId : FixedBytes 32) (term : FenceTerm)
    (capabilities : List String) (leaseUntil issuedAt expiresAt : WallTime) :
    ConnectionFenceClaimsV2 where
  keyId := signer.keyId P
  nodeId := nodeId
  endpointId := endpointId
  term := term
  capabilities := capabilities
  leaseUntil := leaseUntil.instant
  issuedAt := issuedAt.instant
  expiresAt := expiresAt.instant

def issueConnectionFenceV2 (nodeId : Uuid) (endpointId : FixedBytes 32) (term : FenceTerm)
    (capabilities : List String) (leaseUntil issuedAt expiresAt : WallTime) :
    Except SignerError ConnectionFenceV2 := do
  let canonical ← canonicalConnectionFenceV2 fenceSignatureVersion
    (signer.fenceClaims P nodeId endpointId term capabilities leaseUntil issuedAt expiresAt)
  return {
    signatureVersion := 1
    keyId := signer.keyId P
    fenceId := term.fenceId.1
    nodeId := nodeId.1
    endpointId := endpointId.1
    ownerInstanceId := term.ownerInstanceId.1
    ownerIncarnation := term.ownerIncarnation
    ownerEpoch := term.ownerEpoch
    connectionId := term.connectionId.1
    authorizationRevision := term.authorizationRevision
    capabilities
    leaseUntil := some leaseUntil.timestamp
    issuedAt := some issuedAt.timestamp
    expiresAt := some expiresAt.timestamp
    signature := (signer.sign canonical).1 }

/-- The claims of a binding that the signer issues. -/
def bindingClaims (operationKind : Int32) (operationId nodeId : Uuid)
    (endpointId : FixedBytes 32) (term : FenceTerm) (capability : String)
    (issuedAt expiresAt : WallTime) : FenceBindingClaimsV2 where
  keyId := signer.keyId P
  operationKind := uint32 operationKind
  operationId := operationId
  nodeId := nodeId
  endpointId := endpointId
  term := term
  capability := capability
  issuedAt := issuedAt.instant
  expiresAt := expiresAt.instant

def issueFenceBindingV2 (operationKind : Int32) (operationId nodeId : Uuid)
    (endpointId : FixedBytes 32) (term : FenceTerm) (capability : String)
    (issuedAt expiresAt : WallTime) : Except SignerError FenceBindingV2 := do
  let canonical ← canonicalFenceBindingV2 fenceSignatureVersion
    (signer.bindingClaims P operationKind operationId nodeId endpointId term capability issuedAt
      expiresAt)
  return {
    signatureVersion := 1
    keyId := signer.keyId P
    operationKind
    operationId := operationId.1
    fenceId := term.fenceId.1
    nodeId := nodeId.1
    endpointId := endpointId.1
    ownerInstanceId := term.ownerInstanceId.1
    ownerIncarnation := term.ownerIncarnation
    ownerEpoch := term.ownerEpoch
    connectionId := term.connectionId.1
    authorizationRevision := term.authorizationRevision
    capability
    issuedAt := some issuedAt.timestamp
    expiresAt := some expiresAt.timestamp
    signature := (signer.sign canonical).1 }

end Signer

/-! ## The two encoders -/

theorem uint32_eq_iff : (uint32 x : Int) = x.toInt ↔ 0 ≤ x.toInt := by
  have hlow := x.toInt_lt
  unfold uint32
  omega

theorem writeInt64_eq (value : Int64) : writeInt64 value = beInt 8 value.toInt := rfl

theorem writeOptional_eq (value : Option (FixedBytes n)) :
    writeOptional value = appendOptional value := by
  cases value <;> rfl

theorem appendString_of_writeString (h : writeString target value = .ok b) :
    appendString target value = .ok b := by
  obtain ⟨hsize, h⟩ := require_bind.1 h
  simp only [Bool.not_eq_true', decide_eq_false_iff_not] at hsize
  have hfits : (utf8 value).length < 2 ^ 32 := by
    rw [length_utf8]
    omega
  refine get_bind.2 ⟨_, (lengthPrefixed_of_lt hfits), ?_⟩
  rw [← ok.inj h, List.append_assoc]
  rfl

theorem appendStrings_of_writeStrings (h : writeStrings target values = .ok b) :
    Fence.appendStrings target values = .ok b := by
  induction values generalizing target with
  | nil => exact congrArg ok (ok.inj h)
  | cons value values ih =>
    obtain ⟨out, hvalue, h⟩ := bind_eq_ok.1 h
    exact bind_eq_ok.2 ⟨out, appendString_of_writeString hvalue, ih h⟩

/-- The node encodes the claims of a command as the Controller does. -/
theorem canonicalV1_agrees (h : canonicalV1 claims = .ok b) :
    Ocservia.canonicalV1 claims = .ok b := by
  unfold canonicalV1 at h
  obtain ⟨hvalid, h⟩ := require_bind.1 h
  obtain ⟨happroved, h⟩ := require_bind.1 h
  obtain ⟨out₁, hkey, h⟩ := bind_eq_ok.1 h
  obtain ⟨out₂, hprotocol, h⟩ := bind_eq_ok.1 h
  obtain ⟨out₅, htexts, h⟩ := bind_eq_ok.1 h
  obtain ⟨out₃, hactor, htexts⟩ := bind_eq_ok.1 htexts
  obtain ⟨out₄, haction, htexts⟩ := bind_eq_ok.1 htexts
  obtain ⟨out₆, hcapability, htexts⟩ := bind_eq_ok.1 htexts
  cases htexts
  unfold Ocservia.canonicalV1
  refine require_bind.2 ⟨?_, ?_⟩
  · simp only [Bool.not_eq_true', Bool.or_eq_false_iff, bne_eq_false_iff_eq, beq_eq_false_iff_ne,
      decide_eq_false_iff_not, Bool.and_eq_true, not_le, and_assoc] at hvalid happroved ⊢
    simp only [beq_iff_eq, bne_iff_ne, decide_eq_true_eq]
    simpa only [and_assoc] using And.intro hvalid happroved
  refine bind_eq_ok.2 ⟨_, appendString_of_writeString hkey, ?_⟩
  refine bind_eq_ok.2 ⟨_, appendString_of_writeString hprotocol, ?_⟩
  refine bind_eq_ok.2 ⟨_, appendString_of_writeString hactor, ?_⟩
  refine bind_eq_ok.2 ⟨_, appendString_of_writeString haction, ?_⟩
  refine bind_eq_ok.2 ⟨_, appendString_of_writeString hcapability, ?_⟩
  rw [← ok.inj h, writeOptional_eq, writeOptional_eq, writeInt64_eq, writeInt64_eq]
  rfl

/-- Both sides authorize a payload under the same kind, action and capability. -/
theorem payloadAuthorization_agrees (h : payloadAuthorization envelope = .ok x) :
    Ocservia.payloadAuthorization envelope = .ok x := by
  unfold payloadAuthorization at h
  unfold Ocservia.payloadAuthorization
  cases hp : envelope.payload with
  | none => simp [hp] at h
  | some payload =>
    rw [hp] at h
    cases payload
    case simulationProbe => cases h
    case agentUpgrade p =>
      simp only at h ⊢
      split at h
      · rename_i hcapability
        cases h
        simp only [Bool.or_eq_true, beq_iff_eq] at hcapability
        rcases hcapability with hcapability | hcapability <;> rw [hcapability] <;> rfl
      · cases h
    all_goals exact congrArg ok (ok.inj h)

theorem fixedBytes_eq_ok : fixedBytes n value name = .ok b ↔ b.1 = value :=
  refine_eq_ok (p := fun value : Bytes => value.length = n)

theorem optionalFixed_of_optionalBytes (h : optionalBytes n value name = .ok o) :
    optionalFixed n value code = .ok o := by
  unfold optionalBytes at h
  unfold optionalFixed
  split at h
  · rename_i hempty
    rw [if_pos hempty]
    exact congrArg ok (ok.inj h)
  rename_i hne
  rw [if_neg hne]
  obtain ⟨b, hb, rfl⟩ := map_eq_ok_iff.1 h
  exact map_eq_ok_iff.2 ⟨b, fixedClaim_eq_ok.2 (fixedBytes_eq_ok.1 hb), rfl⟩

theorem uint32_eq (h : 0 ≤ x.toInt) : uint32 x = x.toInt.toNat := by
  rw [← uint32_eq_iff.2 h, Int.toNat_natCast]

/-- The node makes the Controller's claims of an envelope when the delivery mode is not negative. -/
theorem claims_agree (h : claimsFromEnvelopeV1 envelope = .ok claims)
    (hkey : claims.keyId ≠ "") (hnonneg : 0 ≤ envelope.deliveryMode.toInt) :
    Ocservia.claimsFromEnvelopeV1 envelope = .ok claims := by
  unfold claimsFromEnvelopeV1 at h
  obtain ⟨proof, hproof, h⟩ := get_bind.1 h
  obtain ⟨_, hproofVersion, h⟩ := bind_eq_ok.1 h
  obtain ⟨hprotocol, h⟩ := require_bind.1 h
  obtain ⟨⟨payloadKind, action, capability⟩, hauthorized, h⟩ := bind_eq_ok.1 h
  obtain ⟨haction, h⟩ := require_bind.1 h
  obtain ⟨_, hcapability, h⟩ := bind_eq_ok.1 h
  obtain ⟨hidentity, h⟩ := require_bind.1 h
  obtain ⟨commandId, hcommand, h⟩ := bind_eq_ok.1 h
  obtain ⟨idempotencyKey, hidempotency, h⟩ := bind_eq_ok.1 h
  obtain ⟨nodeId, hnode, h⟩ := bind_eq_ok.1 h
  obtain ⟨operationId, hoperation, h⟩ := bind_eq_ok.1 h
  obtain ⟨hash, hhash, h⟩ := bind_eq_ok.1 h
  obtain ⟨hversion, h⟩ := require_bind.1 h
  obtain ⟨issuedAt, hissued, h⟩ := get_bind.1 h
  obtain ⟨expiresAt, hexpires, h⟩ := get_bind.1 h
  obtain ⟨htimes, h⟩ := require_bind.1 h
  obtain ⟨hmode, h⟩ := require_bind.1 h
  obtain ⟨approvalId, happrovalId, h⟩ := bind_eq_ok.1 h
  obtain ⟨approvalHash, happrovalHash, h⟩ := bind_eq_ok.1 h
  obtain ⟨happroved, h⟩ := require_bind.1 h
  cases h
  have hproofVersion := require_eq_ok.1 hproofVersion
  simp only [Bool.not_eq_true', Bool.or_eq_false_iff, decide_eq_false_iff_not, not_lt]
    at hidentity
  simp only [Timestamp.isValid, Timestamp.asTime, Bool.and_eq_true, decide_eq_true_eq] at htimes
  obtain ⟨⟨⟨⟨-, hissuedLow⟩, hissuedHigh⟩, ⟨-, hexpiresLow⟩, hexpiresHigh⟩, hordered⟩ := htimes
  have hordered : issuedAt.seconds.toInt * 10 ^ 9 + issuedAt.nanos.toInt <
      expiresAt.seconds.toInt * 10 ^ 9 + expiresAt.nanos.toInt := of_decide_eq_true hordered
  have hissuedNanos := uint32_eq_iff.2 hissuedLow
  have hexpiresNanos := uint32_eq_iff.2 hexpiresLow
  simp only [Bool.or_eq_true, beq_iff_eq] at hversion
  have hversionNonneg : 0 ≤ envelope.semanticPayloadHashVersion.toInt := by
    rcases hversion with hversion | hversion <;> rw [hversion] <;> decide
  unfold Ocservia.claimsFromEnvelopeV1
  refine get_bind.2 ⟨proof, hproof, ?_⟩
  refine require_bind.2 ⟨hproofVersion, ?_⟩
  refine require_bind.2 ⟨hprotocol, ?_⟩
  refine bind_eq_ok.2 ⟨_, payloadAuthorization_agrees hauthorized, ?_⟩
  refine require_bind.2 ⟨haction, ?_⟩
  refine require_bind.2 ⟨require_eq_ok.1 hcapability, ?_⟩
  refine require_bind.2 ⟨?_, ?_⟩
  · have : proof.keyId ≠ "" := hkey
    simp [hidentity, this]
  refine get_bind.2 ⟨issuedAt, hissued, ?_⟩
  refine get_bind.2 ⟨expiresAt, hexpires, ?_⟩
  refine bind_eq_ok.2 ⟨_, timestampNanos_of hissuedNanos (by omega), ?_⟩
  refine bind_eq_ok.2 ⟨_, timestampNanos_of hexpiresNanos (by omega), ?_⟩
  refine require_bind.2 ⟨?_, ?_⟩
  · simp only [Bool.not_eq_true', Bool.or_eq_false_iff, Bool.and_eq_false_iff,
      decide_eq_false_iff_not, beq_eq_false_iff_ne, ne_eq, ← Int64.toInt_inj]
    omega
  refine require_bind.2 ⟨?_, ?_⟩
  · rcases hversion with hversion | hversion <;> rw [hversion] <;> rfl
  refine require_bind.2 ⟨hmode, ?_⟩
  refine bind_eq_ok.2 ⟨_, optionalFixed_of_optionalBytes happrovalId, ?_⟩
  refine bind_eq_ok.2 ⟨_, optionalFixed_of_optionalBytes happrovalHash, ?_⟩
  refine require_bind.2 ⟨happroved, ?_⟩
  refine bind_eq_ok.2 ⟨_, fixedClaim_eq_ok.2 (fixedBytes_eq_ok.1 hcommand), ?_⟩
  refine bind_eq_ok.2 ⟨_, fixedClaim_eq_ok.2 (fixedBytes_eq_ok.1 hidempotency), ?_⟩
  refine bind_eq_ok.2 ⟨_, fixedClaim_eq_ok.2 (fixedBytes_eq_ok.1 hnode), ?_⟩
  refine bind_eq_ok.2 ⟨_, fixedClaim_eq_ok.2 (fixedBytes_eq_ok.1 hoperation), ?_⟩
  refine require_bind.2 ⟨decide_eq_true hversionNonneg, ?_⟩
  refine bind_eq_ok.2 ⟨_, fixedClaim_eq_ok.2 (fixedBytes_eq_ok.1 hhash), ?_⟩
  refine require_bind.2 ⟨decide_eq_true hnonneg, ?_⟩
  rw [← uint32_eq hversionNonneg, ← uint32_eq hnonneg, eq_of_beq hproofVersion]
  rfl

theorem leaseDeadlineAfter_eq (until' since : Instant) :
    leaseDeadlineAfter until' since = !until'.le since := by
  rw [Bool.eq_iff_iff]
  simp only [leaseDeadlineAfter, le, Bool.or_eq_true, Bool.and_eq_true, decide_eq_true_eq,
    beq_iff_eq, Bool.not_eq_true', Bool.or_eq_false_iff, Bool.and_eq_false_iff,
    decide_eq_false_iff_not, beq_eq_false_iff_ne, ne_eq, ← Int64.toInt_inj]
  omega

theorem deadlineNotAfter_eq (until' limit : Instant) :
    deadlineNotAfter until' limit = until'.le limit := rfl

theorem expiryInvalid_eq (issuedAt expiresAt : Instant) :
    expiryInvalid issuedAt expiresAt = expiresAt.le issuedAt := rfl

theorem validateSortedCapabilities_eq (first : Bool) (previous : String) (l : List String) :
    validateSortedCapabilities first previous l =
      Fence.validCapabilities (if first then none else some previous) l := by
  induction l generalizing first previous with
  | nil => rfl
  | cons capability rest ih =>
    have hempty : (capability.utf8ByteSize != 0) = !(capability == "") := by
      rw [Bool.eq_iff_iff, bne_iff_ne, Bool.not_eq_true', beq_eq_false_iff_ne, Ne, Ne,
        String.utf8ByteSize_eq_zero_iff]
    have hsize :
        decide (capability.utf8ByteSize ≤ 128) = !decide (128 < capability.utf8ByteSize) := by
      rw [Bool.eq_iff_iff, Bool.not_eq_true', decide_eq_true_eq, decide_eq_false_iff_not, not_lt]
    have hless : decide (utf8 previous < utf8 capability) =
        !decide (utf8 capability ≤ utf8 previous) := by
      rw [Bool.eq_iff_iff, Bool.not_eq_true', decide_eq_true_eq, decide_eq_false_iff_not,
        List.not_le]
    rw [validateSortedCapabilities, validCapabilities, ih, hempty, hsize]
    cases first with
    | true => cases capability == "" <;> cases decide (128 < capability.utf8ByteSize) <;> rfl
    | false =>
      show _ = (_ && _ && decide (utf8 previous < utf8 capability) && _)
      rw [hless]
      cases capability == "" <;> cases decide (128 < capability.utf8ByteSize) <;>
        cases decide (utf8 capability ≤ utf8 previous) <;> rfl

/-- The node encodes the claims of a fence as the Controller does. -/
theorem canonicalConnectionFenceV2_agrees
    (h : canonicalConnectionFenceV2 fenceSignatureVersion claims = .ok b) :
    Fence.canonicalConnectionFenceV2 claims = .ok b := by
  unfold canonicalConnectionFenceV2 at h
  obtain ⟨hvalid, h⟩ := require_bind.1 h
  obtain ⟨hcapabilities, h⟩ := require_bind.1 h
  obtain ⟨out₁, hkey, h⟩ := bind_eq_ok.1 h
  obtain ⟨out₂, htexts, h⟩ := bind_eq_ok.1 h
  rw [leaseDeadlineAfter_eq, deadlineNotAfter_eq, expiryInvalid_eq] at hvalid
  rw [validateSortedCapabilities_eq] at hcapabilities
  simp only [Bool.not_eq_true', Bool.or_eq_false_iff, bne_eq_false_iff_eq, beq_eq_false_iff_ne,
    decide_eq_false_iff_not, Bool.not_eq_false', not_le, not_lt, if_true, and_assoc]
    at hvalid hcapabilities
  obtain ⟨-, hvalid⟩ := hvalid
  obtain ⟨hkeyNe, hkeyLe, hepoch, hrevision, htimes⟩ := hvalid
  obtain ⟨hcount, hsorted⟩ := hcapabilities
  unfold Fence.canonicalConnectionFenceV2
  refine require_bind.2 ⟨?_, ?_⟩
  · simp only [Bool.and_eq_true, bne_iff_ne, decide_eq_true_eq, Bool.not_eq_true', and_assoc]
    exact ⟨hkeyNe, hkeyLe, hepoch, hrevision, hcount, by simpa using htimes⟩
  refine require_bind.2 ⟨hsorted, ?_⟩
  refine bind_eq_ok.2 ⟨_, appendString_of_writeString hkey, ?_⟩
  refine bind_eq_ok.2 ⟨_, appendStrings_of_writeStrings htexts, ?_⟩
  exact congrArg ok (ok.inj h)

/-- The node encodes the claims of a binding as the Controller does. -/
theorem canonicalFenceBindingV2_agrees
    (h : canonicalFenceBindingV2 fenceSignatureVersion claims = .ok b) :
    Fence.canonicalFenceBindingV2 claims = .ok b := by
  unfold canonicalFenceBindingV2 at h
  obtain ⟨hvalid, h⟩ := require_bind.1 h
  obtain ⟨out₁, hkey, h⟩ := bind_eq_ok.1 h
  obtain ⟨out₂, hcapability, h⟩ := bind_eq_ok.1 h
  rw [expiryInvalid_eq] at hvalid
  simp only [Bool.not_eq_true', Bool.or_eq_false_iff, bne_eq_false_iff_eq, beq_eq_false_iff_ne,
    decide_eq_false_iff_not, not_le, not_lt, and_assoc] at hvalid
  unfold Fence.canonicalFenceBindingV2
  refine require_bind.2 ⟨?_, ?_⟩
  · simp only [Bool.and_eq_true, bne_iff_ne, decide_eq_true_eq, Bool.not_eq_true', and_assoc]
    exact hvalid.2
  refine bind_eq_ok.2 ⟨_, appendString_of_writeString hkey, ?_⟩
  refine bind_eq_ok.2 ⟨_, appendString_of_writeString hcapability, ?_⟩
  exact congrArg ok (ok.inj h)

/-! ## What the Controller signs, the node verifies -/

section
variable (P : Platform) (signer : Signer) (ring : ControllerCommandKeyring)

/-- The key of the signer is pinned in the ring, and its signatures verify. -/
structure Signer.PinnedIn : Prop where
  pinned : ring.keys.lookup (signer.keyId P) = some signer.publicKey
  verifies : ∀ message, P.verifyStrict signer.publicKey message (signer.sign message).1 = true

/-- A clock inside a validity window. -/
def Inside (issuedAt expiresAt : Instant) (now : WallTime) : Prop :=
  issuedAt.le now.instant = true ∧ expiresAt.le now.instant = false

/-- The proof signs the transcript of the claims that the Controller made of the envelope. -/
structure SignedAs (signed : CommandEnvelope) (claims : CommandAuthorizationV1)
    (canonical : Bytes) :
    Prop where
  projected : claimsFromEnvelopeV1 signed = .ok claims
  encoded : canonicalV1 claims = .ok canonical
  proof : signed.authorization =
    some ⟨commandAuthorizationVersionV1, signer.keyId P, (signer.sign canonical).1⟩

variable {P} {signer} {ring}

theorem signedAs_of_authorize (h : signer.authorize P envelope = .ok signed) :
    ∃ claims canonical, SignedAs P signer signed claims canonical := by
  unfold Signer.authorize at h
  obtain ⟨claims, hclaims, h⟩ := bind_eq_ok.1 h
  obtain ⟨canonical, hcanonical, h⟩ := bind_eq_ok.1 h
  cases h
  -- the claims do not depend on the signature of the proof
  exact ⟨claims, canonical, hclaims, hcanonical, rfl⟩

theorem canonicalV1_keyId (h : canonicalV1 claims = .ok b) : claims.keyId ≠ "" := by
  obtain ⟨_, hvalid, -⟩ := bind_eq_ok.1 h
  have hvalid := require_eq_ok.1 hvalid
  simp only [Bool.not_eq_true', Bool.or_eq_false_iff, beq_eq_false_iff_ne] at hvalid
  tauto

theorem verifySignature_sign (hring : signer.PinnedIn P ring) (canonical : Bytes) :
    ControllerCommandKeyring.verifySignature P signer.publicKey canonical
      (signer.sign canonical).1 = .ok () :=
  require_bind.2 ⟨(beq_iff_eq.2 (signer.sign canonical).2),
    require_of (hring.verifies canonical)⟩

/-- The node makes the same claims exactly when the delivery mode is not negative. -/
theorem claims_signed_iff (h : SignedAs P signer signed claims canonical) :
    Ocservia.claimsFromEnvelopeV1 signed = .ok claims ↔ 0 ≤ signed.deliveryMode.toInt := by
  constructor
  · intro hclaims
    rw [← (claimsFromEnvelopeV1_spec hclaims).2.2.2.2.1]
    exact Int.natCast_nonneg _
  · intro hmode
    exact claims_agree h.projected (canonicalV1_keyId h.encoded) hmode

theorem verifyClaims_signed_iff (hring : signer.PinnedIn P ring)
    (h : SignedAs P signer signed claims canonical) :
    ring.verifyClaims P signed = .ok claims ↔ 0 ≤ signed.deliveryMode.toInt := by
  rw [← claims_signed_iff h]
  refine ⟨fun hverified => (ring.verifyClaims_ok P hverified).1, fun hclaims => ?_⟩
  unfold verifyClaims
  refine get_bind.2 ⟨_, h.proof, ?_⟩
  refine require_bind.2 ⟨rfl, ?_⟩
  refine get_bind.2 ⟨_, hring.pinned, ?_⟩
  refine bind_eq_ok.2 ⟨claims, hclaims, ?_⟩
  refine bind_eq_ok.2 ⟨canonical, canonicalV1_agrees h.encoded, ?_⟩
  refine require_bind.2 ⟨beq_iff_eq.2 (signer.sign canonical).2, ?_⟩
  exact require_bind.2 ⟨hring.verifies canonical, rfl⟩

theorem seconds_le_of_le {a b : Instant} (h : a.le b = true) :
    a.seconds.toInt ≤ b.seconds.toInt := by
  simp only [le, Bool.or_eq_true, Bool.and_eq_true, decide_eq_true_eq, beq_iff_eq,
    ← Int64.toInt_inj] at h
  omega

/-- Inside its window a signed command is accepted exactly when it passes the node's own rules. -/
theorem verifyCommand_signed_iff (hring : signer.PinnedIn P ring)
    (h : SignedAs P signer signed claims canonical) {now : WallTime}
    (hinside : Inside ⟨claims.issuedAtSeconds, claims.issuedAtNanos⟩
      ⟨claims.expiresAtSeconds, claims.expiresAtNanos⟩ now) :
    ring.verifyCommand P signed claims.nodeId now.seconds = .ok claims ↔
      0 ≤ signed.deliveryMode.toInt ∧ claims.expectedRevision ≠ 0 ∧
        (now.seconds.toInt < claims.expiresAtSeconds.toInt ∨
          signed.deliveryMode = CommandDeliveryMode.reconcileOnly.toInt32) ∧
        ∃ hash, verifySemanticPayloadHash P signed = .ok hash := by
  have hissued : claims.issuedAtSeconds.toInt ≤
      saturatingAdd now.seconds.toInt maxFutureSkewSeconds := by
    have hle : claims.issuedAtSeconds.toInt ≤ now.seconds.toInt := seconds_le_of_le hinside.1
    have hlt := claims.issuedAtSeconds.toInt_lt
    have hlow := claims.issuedAtSeconds.le_toInt
    unfold saturatingAdd maxFutureSkewSeconds
    omega
  rw [ring.verifyCommand_eq_ok_iff, verifyClaims_signed_iff hring h]
  exact ⟨fun ⟨hmode, _, hrevision, hexpired, _, hhash⟩ => ⟨hmode, hrevision, hexpired, hhash⟩,
    fun ⟨hmode, hrevision, hexpired, hhash⟩ => ⟨hmode, rfl, hrevision, hexpired, hissued, hhash⟩⟩

theorem timestampNanos_timestamp (t : WallTime) :
    timestampNanos t.timestamp.nanos = .ok t.nanos := by
  have hlt := t.nanos_lt
  refine timestampNanos_of ?_ hlt
  exact (Int32.toInt_ofNat_of_lt (by omega)).symm

theorem exceedsFutureSkew_of_le {issuedAt now : Instant} (h : issuedAt.le now = true) :
    exceedsFutureSkew issuedAt now = false := by
  have hle := seconds_le_of_le h
  rw [Bool.eq_false_iff]
  intro hskew
  unfold exceedsFutureSkew maxFutureSkewSeconds at hskew
  simp only [Bool.and_eq_true, Bool.or_eq_true, decide_eq_true_eq, beq_iff_eq] at hskew
  omega

/-- A fence that the Controller signs is accepted inside its validity window. -/
theorem verifyConnectionFence_signed (hring : signer.PinnedIn P ring)
    (h : signer.issueConnectionFenceV2 P nodeId endpointId term capabilities leaseUntil issuedAt
      expiresAt = .ok fence) :
    let claims :=
      signer.fenceClaims P nodeId endpointId term capabilities leaseUntil issuedAt expiresAt
    ∃ canonical, canonicalConnectionFenceV2 fenceSignatureVersion claims = .ok canonical ∧
      fence.signature = (signer.sign canonical).1 ∧
      Fence.connectionFenceClaimsV2 fence = .ok claims ∧
      Fence.canonicalConnectionFenceV2 claims = .ok canonical ∧
      ∀ now, Inside issuedAt.instant expiresAt.instant now →
        ring.verifyConnectionFenceV2At P fence nodeId endpointId now.instant =
          .ok ⟨term, capabilities, leaseUntil.instant, expiresAt.instant⟩ := by
  intro claims
  unfold Signer.issueConnectionFenceV2 at h
  obtain ⟨canonical, hcanonical, h⟩ := bind_eq_ok.1 h
  have hagrees := canonicalConnectionFenceV2_agrees hcanonical
  have hclaims : connectionFenceClaimsV2 fence = .ok claims := by
    cases h
    unfold connectionFenceClaimsV2
    refine require_bind.2 ⟨rfl, ?_⟩
    iterate 3 refine get_bind.2 ⟨_, rfl, ?_⟩
    iterate 5 refine bind_eq_ok.2 ⟨_, fixedClaim_eq_ok.2 rfl, ?_⟩
    refine bind_eq_ok.2 ⟨_, timestampNanos_timestamp leaseUntil, ?_⟩
    refine bind_eq_ok.2 ⟨_, timestampNanos_timestamp issuedAt, ?_⟩
    exact bind_eq_ok.2 ⟨_, timestampNanos_timestamp expiresAt, rfl⟩
  cases h
  refine ⟨canonical, hcanonical, rfl, hclaims, hagrees, fun now hinside => ?_⟩
  unfold verifyConnectionFenceV2At
  refine require_bind.2 ⟨decide_eq_true now.nanos_lt, ?_⟩
  refine bind_eq_ok.2 ⟨_, hclaims, ?_⟩
  refine get_bind.2 ⟨_, hring.pinned, ?_⟩
  iterate 2 refine require_bind.2 ⟨beq_self_eq_true _, ?_⟩
  refine require_bind.2 ⟨congrArg not hinside.2, ?_⟩
  refine require_bind.2 ⟨congrArg not (exceedsFutureSkew_of_le hinside.1), ?_⟩
  refine bind_eq_ok.2 ⟨canonical, hagrees, ?_⟩
  exact bind_eq_ok.2 ⟨(), verifySignature_sign hring canonical, rfl⟩

theorem operationKindValue_of_uint32 (hpos : uint32 kind ≠ 0) (hle : uint32 kind ≤ 4) :
    Fence.operationKindValue kind = .ok (uint32 kind) := by
  have hlow := kind.le_toInt
  have hhigh := kind.toInt_lt
  have hvalue : (uint32 kind : Int) = kind.toInt := by
    rw [uint32_eq_iff]
    unfold uint32 at hle
    omega
  have hcheck : (1 ≤ kind.toInt && kind.toInt ≤ 4) = true := by
    simp only [Bool.and_eq_true, decide_eq_true_eq]
    omega
  refine require_bind.2 ⟨hcheck, ?_⟩
  rw [← hvalue]
  rfl

/-- A binding that the Controller signs is accepted inside its validity window. -/
theorem verifyFenceBinding_signed (hring : signer.PinnedIn P ring)
    (h : signer.issueFenceBindingV2 P operationKind operationId nodeId endpointId term capability
      issuedAt expiresAt = .ok binding) :
    let claims := signer.bindingClaims P operationKind operationId nodeId endpointId term capability
      issuedAt expiresAt
    ∃ canonical, canonicalFenceBindingV2 fenceSignatureVersion claims = .ok canonical ∧
      binding.signature = (signer.sign canonical).1 ∧
      Fence.canonicalFenceBindingV2 claims = .ok canonical ∧
      ∀ now, Inside issuedAt.instant expiresAt.instant now →
        ring.verifyFenceBindingV2At P binding nodeId endpointId now.instant = .ok claims := by
  intro claims
  unfold Signer.issueFenceBindingV2 at h
  obtain ⟨canonical, hcanonical, h⟩ := bind_eq_ok.1 h
  have hagrees := canonicalFenceBindingV2_agrees hcanonical
  have hkind : uint32 operationKind ≠ 0 ∧ uint32 operationKind ≤ 4 := by
    obtain ⟨_, hvalid, -⟩ := bind_eq_ok.1 hcanonical
    have hvalid := require_eq_ok.1 hvalid
    simp only [Bool.not_eq_true', Bool.or_eq_false_iff, beq_eq_false_iff_ne,
      decide_eq_false_iff_not, not_lt, and_assoc] at hvalid
    exact ⟨hvalid.2.2.2.1, hvalid.2.2.2.2.1⟩
  have hclaims : fenceBindingClaimsV2 binding = .ok claims := by
    cases h
    unfold fenceBindingClaimsV2
    refine require_bind.2 ⟨rfl, ?_⟩
    iterate 2 refine get_bind.2 ⟨_, rfl, ?_⟩
    refine bind_eq_ok.2 ⟨_, operationKindValue_of_uint32 hkind.1 hkind.2, ?_⟩
    iterate 6 refine bind_eq_ok.2 ⟨_, fixedClaim_eq_ok.2 rfl, ?_⟩
    refine bind_eq_ok.2 ⟨_, timestampNanos_timestamp issuedAt, ?_⟩
    exact bind_eq_ok.2 ⟨_, timestampNanos_timestamp expiresAt, rfl⟩
  cases h
  refine ⟨canonical, hcanonical, rfl, hagrees, fun now hinside => ?_⟩
  unfold verifyFenceBindingV2At
  refine require_bind.2 ⟨decide_eq_true now.nanos_lt, ?_⟩
  refine bind_eq_ok.2 ⟨_, hclaims, ?_⟩
  refine get_bind.2 ⟨_, hring.pinned, ?_⟩
  iterate 2 refine require_bind.2 ⟨beq_self_eq_true _, ?_⟩
  refine require_bind.2 ⟨congrArg not hinside.2, ?_⟩
  refine require_bind.2 ⟨congrArg not (exceedsFutureSkew_of_le hinside.1), ?_⟩
  refine bind_eq_ok.2 ⟨canonical, hagrees, ?_⟩
  exact bind_eq_ok.2 ⟨(), verifySignature_sign hring canonical, rfl⟩

end

end CommandAuth

/-! ## Cross-implementation acceptance -/

open CommandAuth in
/-- **What the Controller signs.** A command, a fence and a binding that the Controller signs have
the transcript that the node rebuilds. Inside its validity window, for its node, a fence or a
binding is accepted with the claims that were signed. A command is accepted exactly when its
delivery mode is not negative, its expected revision is not zero, the second of its expiry has not
begun (unless it is only to be reconciled), and its semantic hash is that of its payload. -/
theorem signed_verified_iff (P : Platform) (signer : Signer) (ring : ControllerCommandKeyring)
    (hring : signer.PinnedIn P ring) :
    (∀ envelope signed, signer.authorize P envelope = .ok signed →
      ∃ claims canonical, SignedAs P signer signed claims canonical ∧
        Ocservia.canonicalV1 claims = .ok canonical ∧
        (Ocservia.claimsFromEnvelopeV1 signed = .ok claims ↔ 0 ≤ signed.deliveryMode.toInt) ∧
        (ring.verifyClaims P signed = .ok claims ↔ 0 ≤ signed.deliveryMode.toInt) ∧
        ∀ now, Inside ⟨claims.issuedAtSeconds, claims.issuedAtNanos⟩
            ⟨claims.expiresAtSeconds, claims.expiresAtNanos⟩ now →
          (ring.verifyCommand P signed claims.nodeId now.seconds = .ok claims ↔
            0 ≤ signed.deliveryMode.toInt ∧ claims.expectedRevision ≠ 0 ∧
              (now.seconds.toInt < claims.expiresAtSeconds.toInt ∨
                signed.deliveryMode = CommandDeliveryMode.reconcileOnly.toInt32) ∧
              ∃ hash, verifySemanticPayloadHash P signed = .ok hash)) ∧
    (∀ nodeId endpointId term capabilities leaseUntil issuedAt expiresAt fence,
      signer.issueConnectionFenceV2 P nodeId endpointId term capabilities leaseUntil issuedAt
        expiresAt = .ok fence →
      ∃ canonical, CommandAuth.canonicalConnectionFenceV2 fenceSignatureVersion
          (signer.fenceClaims P nodeId endpointId term capabilities leaseUntil issuedAt expiresAt) =
            .ok canonical ∧
        fence.signature = (signer.sign canonical).1 ∧
        Fence.connectionFenceClaimsV2 fence =
          .ok (signer.fenceClaims P nodeId endpointId term capabilities leaseUntil issuedAt
            expiresAt) ∧
        Fence.canonicalConnectionFenceV2
          (signer.fenceClaims P nodeId endpointId term capabilities leaseUntil issuedAt expiresAt) =
            .ok canonical ∧
        ∀ now, Inside issuedAt.instant expiresAt.instant now →
          ring.verifyConnectionFenceV2At P fence nodeId endpointId now.instant =
            .ok ⟨term, capabilities, leaseUntil.instant, expiresAt.instant⟩) ∧
    ∀ operationKind operationId nodeId endpointId term capability issuedAt expiresAt binding,
      signer.issueFenceBindingV2 P operationKind operationId nodeId endpointId term capability
        issuedAt expiresAt = .ok binding →
      ∃ canonical, CommandAuth.canonicalFenceBindingV2 fenceSignatureVersion
          (signer.bindingClaims P operationKind operationId nodeId endpointId term capability
            issuedAt expiresAt) = .ok canonical ∧
        binding.signature = (signer.sign canonical).1 ∧
        Fence.canonicalFenceBindingV2
          (signer.bindingClaims P operationKind operationId nodeId endpointId term capability
            issuedAt expiresAt) = .ok canonical ∧
        ∀ now, Inside issuedAt.instant expiresAt.instant now →
          ring.verifyFenceBindingV2At P binding nodeId endpointId now.instant =
            .ok (signer.bindingClaims P operationKind operationId nodeId endpointId term capability
              issuedAt expiresAt) := by
  refine ⟨fun envelope signed h => ?_,
    fun _ _ _ _ _ _ _ _ h => verifyConnectionFence_signed hring h,
    fun _ _ _ _ _ _ _ _ _ h => verifyFenceBinding_signed hring h⟩
  obtain ⟨claims, canonical, hsigned⟩ := signedAs_of_authorize h
  exact ⟨claims, canonical, hsigned, canonicalV1_agrees hsigned.encoded, claims_signed_iff hsigned,
    verifyClaims_signed_iff hring hsigned, fun now => verifyCommand_signed_iff hring hsigned⟩

def sampleSigner : CommandAuth.Signer where
  publicKey := List.replicate 32 7
  sign _ := .fill 0

def sampleKeyring : ControllerCommandKeyring :=
  ⟨[(sampleSigner.keyId samplePlatform, sampleSigner.publicKey)]⟩

/-- The sample platform accepts every signature. -/
theorem sampleSigner_pinned : sampleSigner.PinnedIn samplePlatform sampleKeyring :=
  ⟨by simp [sampleKeyring], fun _ => rfl⟩

/-- A command that disables a user and expires `nanos` after second 1000. -/
def sampleUnsigned (nanos : Int32) : CommandEnvelope :=
  { sampleDisable .executeOrReplay 3 with expiresAt := some ⟨1000, nanos⟩ }

def sampleSigned (nanos : Int32) : CommandEnvelope :=
  { sampleUnsigned nanos with
    authorization := some ⟨1, sampleSigner.keyId samplePlatform, List.replicate 64 0⟩ }

/-- Second 500, inside the validity window of the sample command. -/
def sampleNow : CommandAuth.WallTime := ⟨500, 0, by decide⟩

/-- The sample command is signed and then accepted. -/
theorem sampleSigned_accepted :
    sampleSigner.authorize samplePlatform (sampleUnsigned 0) = .ok (sampleSigned 0) ∧
      ∃ claims, sampleKeyring.verifyCommand samplePlatform (sampleSigned 0) claims.nodeId 500 =
        .ok claims := by
  have hauthorized : sampleSigner.authorize samplePlatform (sampleUnsigned 0) =
      .ok (sampleSigned 0) := by decide +kernel
  obtain ⟨claims, canonical, hsigned, -, hclaims, -, hcommand⟩ :=
    (signed_verified_iff samplePlatform sampleSigner sampleKeyring sampleSigner_pinned).1 _ _
      hauthorized
  have hof := (claimsFromEnvelopeV1_spec (hclaims.2 (by decide))).1
  obtain ⟨issuedAt, expiresAt, hissued, hexpires, hissuedSeconds, hexpiresSeconds⟩ := hof.times
  cases hissued
  cases hexpires
  refine ⟨hauthorized, claims, (hcommand sampleNow ⟨?_, ?_⟩).2
    ⟨by decide, by rw [hof.expectedRevision]; decide, .inl (by rw [hexpiresSeconds]; decide),
      ⟨List.replicate 32 0, rfl⟩, by decide +kernel⟩⟩
  · simp only [le, hissuedSeconds, Bool.or_eq_true]
    exact .inl (by decide)
  · simp only [le, hexpiresSeconds, Bool.or_eq_false_iff, Bool.and_eq_false_iff]
    exact ⟨by decide, .inl (by decide)⟩

/-- A command that expires half a second after second 1000 is refused by its node when that second
has begun, inside its validity window. -/
theorem expirySecond_refused :
    sampleSigner.authorize samplePlatform (sampleUnsigned 500000000) =
        .ok (sampleSigned 500000000) ∧
      (sampleSigned 500000000).issuedAt = some ⟨100, 0⟩ ∧
      (sampleSigned 500000000).expiresAt = some ⟨1000, 500000000⟩ ∧
      ∃ now : CommandAuth.WallTime, now.seconds = 1000 ∧ now.nanos = 200000000 ∧
        CommandAuth.Inside ⟨100, 0⟩ ⟨1000, 500000000⟩ now ∧
        sampleKeyring.verifyCommand samplePlatform (sampleSigned 500000000) (sampleUuid 3)
          now.seconds = .error (.claimsInvalid "command_expired") := by
  refine ⟨by decide +kernel, rfl, rfl, ⟨1000, 200000000, by decide⟩, rfl, rfl, ⟨rfl, rfl⟩, ?_⟩
  decide +kernel

end Ocservia
