import Ocservia.Agent.Session
import Ocservia.Transport.Policy

/-!
# Sessions and owner fences of transportd

`transportd/src/lib.rs`: what transportd checks before it registers the session of an Agent
(`negotiate`), before it records an owner fence (`fenceRegistrationDecision`), before it relays a
command (`admitCommand`, `verifyCommandCarriers`) and before it admits an artifact, close or trust
operation of a node (`verifyOperationBinding`). Every function here is a computation between two
await points; `Transport.Service` has the tasks that call them.

`verifyCommandCarriers_ok` and `verifyOperationBinding_ok` are what an accepted command and an
admitted operation rest on.
-/

namespace Ocservia.Transport

open Wire Checked Except

inductive Code where
  | invalidArgument | permissionDenied | failedPrecondition | unavailable | resourceExhausted
  | notFound
deriving DecidableEq

structure Status where
  code : Code
  message : String
deriving DecidableEq

/-- What a transportd process is configured with, and what it takes from its libraries. -/
structure Host where
  platform : Platform
  keyring : Option ControllerCommandKeyring
  requireFencing : Bool
  /-- A live trust authority is configured. -/
  trust : Bool
  /-- `EndpointId::from_bytes` accepts the bytes. -/
  validKey : EndpointId → Bool
  /-- `SystemTime::try_from`. -/
  systemTime : Timestamp → Option Instant

def validateUuid (value : Bytes) (name : String) : Except Status Bytes := do
  require (value.length == 16) ⟨.invalidArgument, name ++ " must be a 16-byte UUID"⟩
  require (uuidVersion value == 7) ⟨.invalidArgument, name ++ " must be UUIDv7"⟩
  return value

/-- `fixed16` and `fixed32`. -/
def fixed (n : Nat) (value : Bytes) (message : String) : Except Status (FixedBytes n) :=
  if h : value.length = n then .ok ⟨value, h⟩ else .error ⟨.invalidArgument, message⟩

def fixed16 (value : Bytes) : Except Status Uuid :=
  fixed 16 value "identifier must be 16 bytes"

theorem fixed_eq_ok (h : fixed n value message = .ok b) : b.1 = value :=
  refine_eq_ok.1 h

/-! ## Registered fences -/

structure RegisteredFence where
  verified : VerifiedConnectionFenceV2
  fence : ConnectionFenceV2
  endpointId : EndpointId

/-- The owner epoch of a registered fence. -/
def RegisteredFence.epoch (fence : RegisteredFence) : UInt64 := fence.verified.term.ownerEpoch

inductive FenceRegistration where
  | apply | refresh | stale | epochCollision

def fenceRegistrationDecision (existing : Option RegisteredFence) (incoming : RegisteredFence) :
    FenceRegistration :=
  match existing with
  | none => .apply
  | some existing =>
    if incoming.epoch < existing.epoch then .stale
    else if existing.epoch = incoming.epoch ∧
        existing.verified.term.fenceId ≠ incoming.verified.term.fenceId then .epochCollision
    else if existing.verified.term.fenceId = incoming.verified.term.fenceId then .refresh
    else .apply

/-- The decision records the incoming fence. -/
def FenceRegistration.records : FenceRegistration → Bool
  | .apply | .refresh => true
  | .stale | .epochCollision => false

/-- A fence is recorded only over one of an epoch that is not higher. -/
theorem epoch_le_of_records
    (h : (fenceRegistrationDecision (some existing) incoming).records = true) :
    existing.epoch ≤ incoming.epoch := by
  simp only [fenceRegistrationDecision] at h
  split at h
  · cases h
  · rename_i hstale
    exact UInt64.not_lt.1 hstale

def sameFenceTerm (left right : VerifiedConnectionFenceV2) : Bool := left.term == right.term

/-! ## Handshakes -/

/-- `SessionHandshake`, as transportd reads it; `texts` are the versions, the release and the boot
id. -/
structure SessionHandshake where
  (protocolMajor protocolMinor : UInt32)
  (nodeId endpointId agentInstanceId : Bytes)
  (capabilities supportedCompressions texts : List String)
  maxMessageSize : UInt32
  nonce : Bytes

/-- `SessionHandshakeResponse`, as the trust authority sends it. -/
structure HandshakeResponse extends SessionHandshakeResponse where
  result : Int32
  maxMessageSize : UInt32

inductive TransportSessionMode where
  | readOnly | authorizedV11
deriving DecidableEq

structure NegotiatedSession where
  nodeId : Bytes
  maxMessageSize : UInt32
  negotiatedCapabilities : List String
  sessionMode : TransportSessionMode
  authorizationRevision : UInt64
  sessionExpiresAt : Option Instant
  fence : Option RegisteredFence

def protocolMajor : UInt32 := 1

def protocolMinor : UInt32 := 1

def maxFrameBytes : Nat := 1024 * 1024

/-- `HANDSHAKE_RESULT_ACCEPTED`. -/
def handshakeAccepted : Int32 := 1

/-- A check of a handshake, refused with its message. -/
def expect (check : Bool) (message : String) : Except String Unit := require check message

section
variable (handshake : SessionHandshake)
include handshake

def validateHandshake (remote : EndpointId) : Except String Unit := do
  let _ ← (validateUuid handshake.nodeId "node_id").mapError (·.message)
  let _ ← (validateUuid handshake.agentInstanceId "agent_instance_id").mapError (·.message)
  expect (handshake.endpointId == remote.1) "endpoint identity mismatch"
  expect (handshake.maxMessageSize != 0 && handshake.maxMessageSize.toNat ≤ maxFrameBytes)
    "message size incompatible"
  expect (16 ≤ handshake.nonce.length && handshake.nonce.length ≤ 64) "nonce size invalid"
  expect (handshake.capabilities.length ≤ 128 &&
      handshake.capabilities.all (fun value => value.length ≤ 128) &&
      handshake.supportedCompressions.length ≤ 16 &&
      handshake.texts.all fun value => value.length ≤ 256)
    "handshake field limit exceeded"

def validateProtocolVersion : Except String Unit :=
  expect (handshake.protocolMajor == protocolMajor && handshake.protocolMinor ≤ protocolMinor)
    "protocol version incompatible"

def staticReadOnlyHandshakeResponse : HandshakeResponse where
  result := handshakeAccepted
  protocolMajor := protocolMajor
  protocolMinor := 0
  maxMessageSize := handshake.maxMessageSize
  negotiatedCapabilities := Agent.readOnlySessionCapabilities.filter handshake.capabilities.contains
  sessionGrant := none
  connectionFence := none

/-- The negotiated capabilities: supported, of at most 128 bytes, strictly increasing. -/
def validNegotiatedCapabilities (supported : List String) (previous : Option String) :
    List String → Bool
  | [] => true
  | capability :: rest =>
    capability != "" && capability.utf8ByteSize ≤ 128 && supported.contains capability &&
      previous.all (fun value => utf8 value < utf8 capability) &&
      validNegotiatedCapabilities supported (some capability) rest

/-- The claims of a session grant that transportd compares. -/
def grantConsistent (endpoint : EndpointId)
    (response : HandshakeResponse) (grant : SessionGrantV1) : Bool :=
  grant.protocolMajor == response.protocolMajor && grant.protocolMinor == response.protocolMinor &&
    grant.nodeId == handshake.nodeId && grant.endpointId == endpoint.1 &&
    grant.authorizationRevision != 0 && grant.keyId != "" && grant.signature.length == 64 &&
    grant.negotiatedCapabilities == response.negotiatedCapabilities && grant.issuedAt.isSome &&
    grant.expiresAt.isSome

/-- The checks of a session that may mutate. -/
def validateSessionGrant (endpoint : EndpointId)
    (response : HandshakeResponse) (controllerAuthoritative : Bool) : Except String Unit := do
  expect controllerAuthoritative "mutation-capable sessions require Controller authority"
  let grant ← get response.sessionGrant "Controller session grant is required"
  expect (grantConsistent handshake endpoint response grant)
    "Controller session grant claims are inconsistent"

/-- The checks of a session of minor version zero. -/
def validateLegacySession (response : HandshakeResponse) : Except String Unit := do
  expect (response.negotiatedCapabilities.all Agent.isReadOnlySessionCapability)
    "legacy sessions may negotiate read-only capabilities only"
  expect response.sessionGrant.isNone "legacy session grant is invalid"

def validateNegotiatedSession (endpoint : EndpointId)
    (response : HandshakeResponse) (controllerAuthoritative : Bool) : Except String Unit := do
  expect (response.protocolMajor == protocolMajor && response.protocolMinor ≤ protocolMinor &&
      response.protocolMinor ≤ handshake.protocolMinor) "negotiated protocol version is invalid"
  expect (validNegotiatedCapabilities handshake.capabilities none response.negotiatedCapabilities)
    "negotiated capability set is invalid"
  if response.protocolMinor = 0 then validateLegacySession response
  else validateSessionGrant handshake endpoint response controllerAuthoritative

end

section
variable (host : Host)
include host

/-- The authorization revision and the expiry of a session. -/
def grantTerms : Option SessionGrantV1 → Except String (UInt64 × Option Instant)
  | none => .ok (0, none)
  | some grant => do
    let expiresAt ← get grant.expiresAt "session grant expiry is missing"
    let expiresAt ← get (host.systemTime expiresAt) "session grant expiry is invalid"
    return (grant.authorizationRevision, some expiresAt)

/-- The clock of a piece: `unix_now_parts` for the proofs, and again for the lease. -/
structure Clock where
  (now lease : Instant)

def verifySessionFence (nodeId : Bytes) (remote : EndpointId) (clock : Clock) :
    Option ConnectionFenceV2 → Except String (Option RegisteredFence)
  | none => .ok none
  | some fence => do
    let keyring ← get host.keyring "controller fence verification keyring is unavailable"
    let nodeId ← (fixed16 nodeId).mapError fun _ => "handshake node id is invalid"
    let verified ← (keyring.verifyConnectionFenceV2At host.platform fence nodeId remote
      clock.now).mapError fun _ => "controller connection fence is invalid"
    expect (!verified.leaseExpired clock.lease) "connection owner lease has expired"
    return some ⟨verified, fence, remote⟩

/-- The response to a handshake: the trust authority's, or without one that of the policy. -/
def handshakeResponse (policy : IdentityState) (handshake : SessionHandshake)
    (remote : EndpointId) (answer : HandshakeResponse) : Except String HandshakeResponse :=
  if host.trust then .ok answer
  else do
    validateProtocolVersion handshake
    expect (policy.matchesNode remote handshake.nodeId) "endpoint is not bound to the claimed node"
    return staticReadOnlyHandshakeResponse handshake

/-- `negotiate` on the answer of the trust authority; only an accepting response makes a session. -/
def negotiate (policy : IdentityState) (handshake : SessionHandshake)
    (remote : EndpointId) (answer : HandshakeResponse) (clock : Clock) :
    Except String (Option NegotiatedSession) := do
  validateHandshake handshake remote
  let response ← handshakeResponse host policy handshake remote answer
  if response.result ≠ handshakeAccepted then return none
  else do
    expect (response.maxMessageSize != 0 && response.maxMessageSize ≤ handshake.maxMessageSize &&
      response.maxMessageSize.toNat ≤ maxFrameBytes) "negotiated message size is invalid"
    validateNegotiatedSession handshake remote response host.trust
    let sessionMode := if response.protocolMinor = 0 then TransportSessionMode.readOnly
      else .authorizedV11
    let (authorizationRevision, sessionExpiresAt) ← grantTerms host response.sessionGrant
    let fence ← verifySessionFence host handshake.nodeId remote clock response.connectionFence
    expect (!(sessionMode == .authorizedV11 && host.requireFencing && fence.isNone))
      "mutation session requires a verified owner fence"
    return some {
      nodeId := handshake.nodeId
      maxMessageSize := response.maxMessageSize
      negotiatedCapabilities := response.negotiatedCapabilities
      sessionMode, authorizationRevision, sessionExpiresAt, fence }

/-! ## Registered sessions -/

/-- `RegisteredConnection`, with its connection's number and its metadata's identities. -/
structure RegisteredConnection where
  connection : Nat
  nodeId : Bytes
  endpointId : EndpointId
  maxMessageSize : Nat
  negotiatedCapabilities : List String
  sessionMode : TransportSessionMode
  authorizationRevision : UInt64
  sessionExpiresAt : Option Instant
  fence : Option RegisteredFence

/-- The entry of a negotiated session. -/
def NegotiatedSession.entry (session : NegotiatedSession) (connection : Nat)
    (remote : EndpointId) : RegisteredConnection where
  connection
  nodeId := session.nodeId
  endpointId := remote
  maxMessageSize := session.maxMessageSize.toNat
  negotiatedCapabilities := session.negotiatedCapabilities
  sessionMode := session.sessionMode
  authorizationRevision := session.authorizationRevision
  sessionExpiresAt := session.sessionExpiresAt
  fence := session.fence

/-! ## Commands -/

/-- The checks of `validate_command_dispatch` against the session, before the owner fence. -/
def admitCommand (session : RegisteredConnection) (command : CommandEnvelope) (length : Nat)
    (now : Instant) : Except Status Unit := do
  require (session.sessionMode != .readOnly)
    ⟨.permissionDenied, "read-only session does not permit command dispatch"⟩
  require (session.negotiatedCapabilities.contains command.requiredCapability)
    ⟨.permissionDenied, "command capability was not negotiated for this session"⟩
  require (session.authorizationRevision == 0 ||
      command.expectedRevision == session.authorizationRevision)
    ⟨.failedPrecondition, "command authorization revision does not match the active session"⟩
  require (!session.sessionExpiresAt.any fun expiresAt => expiresAt.le now)
    ⟨.failedPrecondition, "Controller session grant has expired"⟩
  require (length ≤ session.maxMessageSize)
    ⟨.resourceExhausted, "command exceeds the agent's negotiated message size"⟩

def requireKeyring : Except Status ControllerCommandKeyring :=
  get host.keyring
    ⟨.permissionDenied, "controller fence verification keyring is unavailable"⟩

/-- The fence and the binding that a command carries. -/
def commandCarriers (command : StoredEnvelope) :
    Except Status (ConnectionFenceV2 × FenceBindingV2) :=
  match command.connectionFence, command.fenceBinding with
  | some fence, some binding => .ok (fence, binding)
  | _, _ =>
    .error ⟨.permissionDenied, "fenced session commands must carry the owner fence and binding"⟩

def verifyCommandCarriers (keyring : ControllerCommandKeyring)
    (nodeId : Uuid) (endpoint : EndpointId) (command : StoredEnvelope) (clock : Clock) :
    Except Status (VerifiedConnectionFenceV2 × FenceBindingClaimsV2) := do
  let carriers ← commandCarriers command
  let verified ← (keyring.verifyConnectionFenceV2At host.platform carriers.1 nodeId endpoint
    clock.now).mapError fun _ => ⟨.permissionDenied, "command connection fence is invalid"⟩
  let claims ← (keyring.verifyFenceBindingV2At host.platform carriers.2 nodeId endpoint
    clock.now).mapError fun _ => ⟨.permissionDenied, "command fence binding is invalid"⟩
  require (claims.capability == command.command.requiredCapability &&
      verified.capabilities.contains claims.capability)
    ⟨.permissionDenied, "fence binding capability does not match the command capability"⟩
  require (claims.operationKind == FenceOperationKind.command.toNat &&
      claims.operationId.1 == command.command.commandId)
    ⟨.permissionDenied, "fence binding does not match the dispatched command"⟩
  require (!verified.leaseExpired clock.lease)
    ⟨.failedPrecondition, "command owner lease has expired"⟩
  return (verified, claims)

end

/-- What the fence and the binding of a relayed command rest on. -/
structure CarriersVerified (host : Host) (nodeId : Uuid) (endpoint : EndpointId)
    (command : StoredEnvelope) (clock : Clock) (verified : VerifiedConnectionFenceV2)
    (claims : FenceBindingClaimsV2) : Prop where
  /-- The fence is signed for the node and the endpoint of the session. -/
  fence : ∃ keyring fence, host.keyring = some keyring ∧ command.connectionFence = some fence ∧
    keyring.verifyConnectionFenceV2At host.platform fence nodeId endpoint clock.now = .ok verified
  /-- The binding is signed for the node and the endpoint of the session. -/
  binding : ∃ keyring binding, host.keyring = some keyring ∧ command.fenceBinding = some binding ∧
    keyring.verifyFenceBindingV2At host.platform binding nodeId endpoint clock.now = .ok claims
  capability : claims.capability = command.command.requiredCapability
  held : claims.capability ∈ verified.capabilities
  kind : claims.operationKind = FenceOperationKind.command.toNat
  operation : claims.operationId.1 = command.command.commandId
  lease : verified.leaseExpired clock.lease = false

theorem commandCarriers_ok (h : commandCarriers command = .ok carriers) :
    command.connectionFence = some carriers.1 ∧ command.fenceBinding = some carriers.2 := by
  unfold commandCarriers at h
  split at h
  · rename_i hfence hbinding
    cases h
    exact ⟨hfence, hbinding⟩
  · cases h

theorem verifyCommandCarriers_ok (hkeyring : host.keyring = some keyring)
    (h : verifyCommandCarriers host keyring nodeId endpoint command clock =
      .ok (verified, claims)) :
    CarriersVerified host nodeId endpoint command clock verified claims := by
  unfold verifyCommandCarriers at h
  obtain ⟨carriers, hcarriers, h⟩ := bind_eq_ok.1 h
  obtain ⟨hfence, hbinding⟩ := commandCarriers_ok hcarriers
  obtain ⟨v, hverified, h⟩ := bind_eq_ok.1 h
  obtain ⟨c, hclaims, h⟩ := bind_eq_ok.1 h
  obtain ⟨hcapability, h⟩ := require_bind.1 h
  obtain ⟨hoperation, h⟩ := require_bind.1 h
  obtain ⟨hlease, h⟩ := require_bind.1 h
  cases h
  simp only [Bool.and_eq_true, beq_iff_eq, List.contains_iff_mem] at hcapability hoperation
  exact {
    fence := ⟨keyring, _, hkeyring, hfence, mapError_eq_ok_iff.1 hverified⟩
    binding := ⟨keyring, _, hkeyring, hbinding, mapError_eq_ok_iff.1 hclaims⟩
    capability := hcapability.1
    held := hcapability.2
    kind := hoperation.1
    operation := hoperation.2
    lease := by simpa using hlease }

/-! ## Operations of a node -/

/-- The binding an operation presents to a node with the registered fence `registered`. -/
def verifyRegisteredBinding (host : Host) (registered : RegisteredFence) (nodeId : Uuid)
    (endpointHint : Option EndpointId) (sessionFence : Option RegisteredFence)
    (binding : Option FenceBindingV2) (kind : FenceOperationKind) (operationId : Bytes)
    (clock : Clock) : Except Status RegisteredFence := do
  let binding ← get binding
    ⟨.permissionDenied, "an owner fence binding is required for this operation"⟩
  let keyring ← requireKeyring host
  let endpoint := endpointHint.getD registered.endpointId
  let claims ← (keyring.verifyFenceBindingV2At host.platform binding nodeId endpoint
    clock.now).mapError fun _ => ⟨.permissionDenied, "fence binding is invalid"⟩
  require (claims.operationKind == kind.toNat && claims.operationId.1 == operationId)
    ⟨.permissionDenied, "fence binding does not match the requested operation"⟩
  require (registered.verified.capabilities.contains claims.capability)
    ⟨.permissionDenied, "fence binding capability is not held by the registered owner"⟩
  require (!registered.verified.leaseExpired clock.lease)
    ⟨.failedPrecondition, "the registered owner lease has expired"⟩
  require (claims.matchesFence registered.verified)
    ⟨.permissionDenied, "fence binding does not match the registered owner term"⟩
  require (sessionFence.isSome || kind != .artifact)
    ⟨.permissionDenied, "artifact operation requires a fenced active agent session"⟩
  require (sessionFence.all fun session =>
      session.endpointId == endpoint && sameFenceTerm session.verified registered.verified)
    ⟨.permissionDenied, "operation fence does not match the active agent session"⟩
  return registered

/-- `verify_operation_binding`, on the fence that is registered for the node. -/
def verifyOperationBinding (host : Host) (registered : Option RegisteredFence)
    (nodeId : Uuid) (endpointHint : Option EndpointId)
    (sessionFence : Option RegisteredFence) (binding : Option FenceBindingV2)
    (kind : FenceOperationKind) (operationId : Bytes) (clock : Clock) :
    Except Status (Option RegisteredFence) :=
  match registered with
  | none =>
    if binding.isNone && !host.requireFencing then .ok none
    else .error ⟨.permissionDenied, "no owner fence is registered for this node"⟩
  | some registered =>
    (verifyRegisteredBinding host registered nodeId endpointHint sessionFence binding kind
      operationId clock).map some

/-- What an operation that was admitted under the registered fence `registered` rests on. -/
structure OperationBound (host : Host) (registered : RegisteredFence) (nodeId : Uuid)
    (binding : Option FenceBindingV2) (kind : FenceOperationKind) (operationId : Bytes)
    (clock : Clock) : Prop where
  /-- A binding of the registered term is signed for the node, and names the operation. -/
  bound : ∃ keyring proof endpoint claims, host.keyring = some keyring ∧ binding = some proof ∧
    keyring.verifyFenceBindingV2At host.platform proof nodeId endpoint clock.now = .ok claims ∧
    claims.operationKind = kind.toNat ∧ claims.operationId.1 = operationId ∧
    claims.term = registered.verified.term ∧
    claims.capability ∈ registered.verified.capabilities
  lease : registered.verified.leaseExpired clock.lease = false

theorem verifyOperationBinding_ok
    (h : verifyOperationBinding host (some registered) nodeId endpointHint sessionFence binding kind
      operationId clock = .ok result) :
    OperationBound host registered nodeId binding kind operationId clock := by
  obtain ⟨r, h, -⟩ := map_eq_ok_iff.1 h
  unfold verifyRegisteredBinding at h
  obtain ⟨proof, hproof, h⟩ := get_bind.1 h
  obtain ⟨keyring, hkeyring, h⟩ := get_bind.1 h
  obtain ⟨claims, hclaims, h⟩ := bind_eq_ok.1 h
  obtain ⟨hoperation, h⟩ := require_bind.1 h
  obtain ⟨hcapability, h⟩ := require_bind.1 h
  obtain ⟨hlease, h⟩ := require_bind.1 h
  obtain ⟨hterm, h⟩ := require_bind.1 h
  simp only [Bool.and_eq_true, beq_iff_eq, List.contains_iff_mem] at hoperation hcapability
  refine ⟨⟨keyring, proof, _, claims, hkeyring, hproof,
    mapError_eq_ok_iff.1 hclaims, hoperation.1, hoperation.2,
    eq_of_beq hterm, hcapability⟩, ?_⟩
  simpa using hlease

/-! ## Trust updates -/

structure UpdateNodeTrustRequest where
  (nodeId endpointId : Bytes)
  state : Int32
  reason : String
  revision : UInt64
  operationId : Bytes
  fenceBinding : Option FenceBindingV2
deriving DecidableEq

/-- A trust update whose arguments were checked. -/
structure TrustCall where
  request : UpdateNodeTrustRequest
  nodeId : Uuid
  endpoint : EndpointId
  state : NodeTrustState
deriving DecidableEq

def NodeTrustState.tryFrom (value : Int32) : Option NodeTrustState :=
  if value = 0 then some .unspecified
  else if value = 1 then some .active
  else if value = 2 then some .revoked
  else none

def stateUpdateOperationId (P : Platform) (nodeId : Uuid) (endpointId : EndpointId)
    (state : Nat) (revision : UInt64) (reason : String) : Bytes :=
  (P.sha256 (utf8 "ocservia/state-update-operation/v1\x00" ++ nodeId.1 ++ endpointId.1 ++
    be 4 state ++ be 8 revision.toNat ++
    be 4 (min reason.utf8ByteSize (2 ^ 32 - 1)) ++ utf8 reason)).1.take 16

/-- The checks of `update_node_trust` on its arguments. -/
def validateTrustUpdate (host : Host) (request : UpdateNodeTrustRequest) :
    Except Status TrustCall := do
  let nodeId ← validateUuid request.nodeId "node_id"
  let endpoint ← fixed 32 request.endpointId "endpoint_id must be 32 bytes"
  require (request.reason != "" && request.reason.length ≤ 1024)
    ⟨.invalidArgument, "trust update reason is invalid"⟩
  require (request.revision != 0) ⟨.invalidArgument, "trust update revision is invalid"⟩
  require (host.validKey endpoint) ⟨.invalidArgument, "endpoint_id is invalid"⟩
  let state ← get (NodeTrustState.tryFrom request.state)
    ⟨.invalidArgument, "trust state is invalid"⟩
  require (state != .unspecified) ⟨.invalidArgument, "trust state is unspecified"⟩
  let nodeKey ← fixed16 nodeId
  require (request.operationId.isEmpty ||
      request.operationId == stateUpdateOperationId host.platform nodeKey endpoint
        request.state.toInt.toNat request.revision request.reason)
    ⟨.invalidArgument, "trust update operation identity does not match its carrier"⟩
  return ⟨request, nodeKey, endpoint, state⟩

/-- What the arguments of a checked trust update satisfy. -/
structure TrustCall.Valid (host : Host) (call : TrustCall) : Prop where
  node : call.nodeId.1 = call.request.nodeId
  revision : call.request.revision ≠ 0
  operation : call.request.operationId = [] ∨
    call.request.operationId = stateUpdateOperationId host.platform call.nodeId call.endpoint
      call.request.state.toInt.toNat call.request.revision call.request.reason

theorem validateTrustUpdate_ok (h : validateTrustUpdate host request = .ok call) :
    call.Valid host := by
  unfold validateTrustUpdate at h
  obtain ⟨nodeId, hnode, h⟩ := bind_eq_ok.1 h
  obtain ⟨endpoint, hendpoint, h⟩ := bind_eq_ok.1 h
  obtain ⟨_, h⟩ := of_bind h
  obtain ⟨hrevision, h⟩ := require_bind.1 h
  iterate 3 obtain ⟨_, h⟩ := of_bind h
  obtain ⟨nodeKey, hkey, h⟩ := bind_eq_ok.1 h
  obtain ⟨hoperation, h⟩ := require_bind.1 h
  cases h
  iterate 2 obtain ⟨_, hnode⟩ := of_bind hnode
  cases hnode
  refine ⟨fixed_eq_ok hkey, by simpa using hrevision, ?_⟩
  simpa using hoperation

end Ocservia.Transport
