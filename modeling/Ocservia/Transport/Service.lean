import Ocservia.Lib.Tasks
import Ocservia.Transport.Session

/-!
# The tasks of transportd

`transportd/src/lib.rs`: transportd keeps its sessions, the close tokens of their registration and
the owner fences in three maps, each behind an asynchronous lock of its own, and the identity
policy behind a blocking one. The connection handler and the gRPC handlers are tasks over that
state (`Task`), and a piece of a task runs from one await point to the next (`act`).

Only the lock of the sessions is held across an await, so that it is part of the state
(`Shared.registryLock`) and a piece that needs it waits until it is free. The pieces that read and
write the identity policy are separate too: another thread may run between them.
-/

namespace Ocservia.Transport

open Wire Tasks

/-! ## The shared state -/

/-- The registries of `Inner`, and the identity policy. A token is the number of its allocation. -/
structure Shared where
  policy : IdentityState
  connections : AList fun _ : Bytes => RegisteredConnection
  registrationTokens : AList fun _ : Bytes => Nat
  fences : AList fun _ : Bytes => RegisteredFence
  /-- The task that holds the lock of `connections` across an await. -/
  registryLock : Option Nat
  nextToken : Nat

namespace Shared

/-- The lock of the sessions, taken by a task that keeps it. -/
def lock (s : Shared) (id : Nat) : Shared := { s with registryLock := some id }

/-- The lock of the sessions, given back. -/
def unlock (s : Shared) : Shared := { s with registryLock := none }

/-- What dropping a task gives back. -/
def release (id : Nat) (s : Shared) : Shared :=
  if s.registryLock = some id then s.unlock else s

section
variable (s : Shared)

/-- A session is registered under its node. -/
def register (entry : RegisteredConnection) : Shared :=
  { s with connections := s.connections.insert entry.nodeId entry }

/-- The session of a node is removed. -/
def unregister (nodeId : Bytes) : Shared :=
  { s with connections := s.connections.erase nodeId }

/-- A fence is recorded for a node. -/
def record (nodeId : Bytes) (fence : RegisteredFence) : Shared :=
  { s with fences := s.fences.insert nodeId fence }

/-- The close token of a node is invalidated. -/
def dropToken (nodeId : Bytes) : Shared :=
  { s with registrationTokens := s.registrationTokens.erase nodeId }

/-- The tokens that some task still holds. -/
def retainTokens (live : Nat → Bool) : Shared :=
  { s with registrationTokens :=
      (s.registrationTokens.entries.filter fun entry => live entry.2).toAList }

/-- `registration_token`: the token of a node, a new one when no task holds the old one. -/
def registrationToken (live : Nat → Bool) (nodeId : Bytes) : Nat × Shared :=
  let s := s.retainTokens live
  match s.registrationTokens.lookup nodeId with
  | some token => (token, s)
  | none => (s.nextToken, { s with
      registrationTokens := s.registrationTokens.insert nodeId s.nextToken
      nextToken := s.nextToken + 1 })

end

end Shared

/-! ## The tasks -/

/-- The await points of `Shared::remove`. -/
inductive RemovePhase where
  | token | registry | publishing

/-- A connection of an Agent, with its handshake. -/
structure Incoming where
  connection : Nat
  remote : EndpointId
  handshake : SessionHandshake

/-- A handler of a connection; from `locked` to `registered`, and in `finishing`, it holds the
sessions' lock. -/
inductive AcceptPhase where
  | connecting
  | negotiating
  | negotiated (session : NegotiatedSession)
  | rechecking (session : NegotiatedSession) (token : Nat)
  | waiting (session : NegotiatedSession) (token : Nat)
  | locked (session : NegotiatedSession) (token : Nat)
  | unrevoked (session : NegotiatedSession) (token : Nat)
  | admitted (session : NegotiatedSession) (token : Nat)
  | fenced (session : NegotiatedSession) (token : Nat)
  | registered (session : NegotiatedSession) (token : Nat)
  | live (session : NegotiatedSession) (token : Nat)
  | finishing (session : NegotiatedSession) (token : Nat)

/-- `UpdateNodeTrustResponse`. -/
structure TrustResponse where
  disposition : PolicyUpdateDisposition
  retainedRevision : UInt64
  retainedState : NodeTrustState
deriving DecidableEq

/-- Where a call of `update_node_trust` stands, after its arguments were checked. -/
inductive TrustPhase where
  | binding
  | verified
  | read (previous : UInt64)
  | updated (previous : UInt64) (disposition : PolicyUpdateDisposition)
  | retained (previous : UInt64) (disposition : PolicyUpdateDisposition) (revision : UInt64)
  | looking (response : TrustResponse)
  | closing (response : TrustResponse) (phase : RemovePhase)
  | returning (response : TrustResponse)

/-- Where a call of `register_owner_fence` stands. -/
inductive FencePhase where
  | verifying
  | checking (fence : RegisteredFence)
  | deciding (fence : RegisteredFence)
  | retiring (fence : RegisteredFence)
  | removing (fence : RegisteredFence) (phase : RemovePhase)

/-- Where a call of `close_node` stands. -/
inductive ClosePhase where
  | binding
  | removing (phase : RemovePhase)

/-- A call of `validate_command_dispatch`: before it reads the session, or the owner fence without
or with a session fence. -/
inductive DispatchPhase where
  | looking
  | bare (session : RegisteredConnection)
  | fenced (session : RegisteredConnection) (fence : RegisteredFence)
      (verified : VerifiedConnectionFenceV2) (claims : FenceBindingClaimsV2) (clock : Clock)

/-- `CloseNodeRequest`, with its node checked. -/
structure CloseCall where
  nodeId : Uuid
  reason : String
  fenceBinding : Option FenceBindingV2

/-- The checks of `close_node` on its arguments. -/
def CloseCall.validate (call : CloseCall) : Except Status Unit := do
  let _ ← validateUuid call.nodeId.1 "node_id"
  Checked.require (call.reason.length ≤ 1024)
    ⟨.invalidArgument, "close reason exceeds 1024 characters"⟩

inductive OwnerFenceDisposition where
  | applied | refreshed | stale
deriving DecidableEq

structure RegisterOwnerFenceResponse where
  disposition : OwnerFenceDisposition
  retainedEpoch : UInt64
deriving DecidableEq

structure FetchArtifactRequest where
  (nodeId artifactId : Bytes)
  purpose : String
  maxBytes : UInt64
  grant : Option ArtifactGrantV1
  fenceBinding : Option FenceBindingV2

structure ConsumeArtifactRequest where
  nodeId : Bytes
  grant : Option ArtifactGrantV1
  sha256 : Bytes
  size : UInt64
  confirmOnly : Bool
  fenceBinding : Option FenceBindingV2

/-- An artifact operation with checked arguments: the node, and the identity to be bound. -/
structure ArtifactCall where
  nodeId : Uuid
  operationId : Bytes
  /-- What a read-only session is refused with. -/
  readOnlyMessage : String
  fenceBinding : Option FenceBindingV2
deriving DecidableEq

/-- The checks of `fetch_artifact` on its arguments; the binding names the artifact. -/
def validateFetchArtifact (request : FetchArtifactRequest) : Except Status ArtifactCall := do
  let nodeId ← validateUuid request.nodeId "node_id"
  let artifactId ← validateUuid request.artifactId "artifact_id"
  let grant ← Checked.get request.grant ⟨.permissionDenied, "artifact grant is required"⟩
  Checked.require (request.purpose == "certificate_p12" && request.maxBytes != 0 &&
      request.maxBytes.toNat ≤ 64 * 1024 * 1024 && grant.nodeId == request.nodeId &&
      grant.artifactId == request.artifactId && grant.purpose == request.purpose &&
      grant.maxBytes == request.maxBytes)
    ⟨.invalidArgument, "artifact request is invalid"⟩
  let nodeId ← fixed16 nodeId
  return ⟨nodeId, artifactId, "read-only session does not permit artifact fetch",
    request.fenceBinding⟩

/-- The checks of `consume_artifact` on its arguments; the binding names the grant. -/
def validateConsumeArtifact (request : ConsumeArtifactRequest) : Except Status ArtifactCall := do
  let nodeId ← validateUuid request.nodeId "node_id"
  let grant ← Checked.get request.grant ⟨.permissionDenied, "artifact grant is required"⟩
  Checked.require (grant.nodeId == request.nodeId && grant.artifactId.length == 16 &&
      grant.grantId.length == 16 && grant.purpose == "certificate_p12" &&
      request.sha256.length == 32 && request.size != 0 && request.size == grant.maxBytes)
    ⟨.invalidArgument, "artifact consumption request is invalid"⟩
  let nodeId ← fixed16 nodeId
  return ⟨nodeId, grant.grantId, "read-only session does not permit artifact consumption",
    request.fenceBinding⟩

/-- The request of an artifact operation. -/
inductive ArtifactRequest where
  | fetch (request : FetchArtifactRequest)
  | consume (request : ConsumeArtifactRequest)

/-- The checks of an artifact operation on its arguments. -/
def ArtifactRequest.validate : ArtifactRequest → Except Status ArtifactCall
  | .fetch request => validateFetchArtifact request
  | .consume request => validateConsumeArtifact request

/-- An artifact operation: before it reads the session, or the owner fence. -/
inductive ArtifactPhase where
  | looking
  | binding (session : RegisteredConnection)

/-- The tasks of transportd. -/
inductive Task where
  | accept (incoming : Incoming) (phase : AcceptPhase)
  | trust (call : TrustCall) (phase : TrustPhase)
  | registerFence (fence : ConnectionFenceV2) (phase : FencePhase)
  | close (call : CloseCall) (phase : ClosePhase)
  | dispatch (nodeId : Bytes) (command : StoredEnvelope) (length : Nat) (phase : DispatchPhase)
  | artifact (request : ArtifactRequest) (call : ArtifactCall) (phase : ArtifactPhase)
  | shutdown

/-- The token that the handler of a connection holds. -/
def AcceptPhase.token : AcceptPhase → Option Nat
  | .connecting | .negotiating | .negotiated _ => none
  | .rechecking _ token | .waiting _ token | .locked _ token | .unrevoked _ token
  | .admitted _ token | .fenced _ token | .registered _ token | .live _ token
  | .finishing _ token => some token

def Task.token : Task → Option Nat
  | .accept _ phase => phase.token
  | _ => none

/-- What an operation of a node asks for. -/
structure Operation where
  nodeId : Uuid
  kind : FenceOperationKind
  operationId : Bytes
  fenceBinding : Option FenceBindingV2
deriving DecidableEq

/-- What an observer sees of a piece. -/
inductive Event where
  | silent
  /-- A handler of a connection refused it. -/
  | rejected (message : String)
  | refused (status : Status)
  /-- The binding of an operation was verified. -/
  | admitted (operation : Operation)
  /-- `register_owner_fence` returned. -/
  | fenceReturned (response : RegisterOwnerFenceResponse)
  /-- `update_node_trust` returned. -/
  | trustReturned (call : TrustCall) (response : TrustResponse)
  /-- `validate_command_dispatch` returned the connection. -/
  | dispatched (nodeId : Bytes) (command : StoredEnvelope) (connection : Nat)
deriving DecidableEq

/-- What the environment supplies to a piece. -/
structure Input where
  clock : Clock
  /-- `SystemTime::now` at the check of a session's expiry. -/
  systemNow : Instant
  /-- The answer of the trust authority to a handshake. -/
  answer : HandshakeResponse
  /-- The answer of the trust authority to a recheck, if it gave one. -/
  recheck : Except String Bool

abbrev Piece := Option (Shared × Option Task × Event)

/-- A piece that only moves its task on. -/
def moves (s : Shared) (task : Task) : Piece := some (s, some task, .silent)

/-- A call that ends with a status. -/
def fails (s : Shared) (status : Status) : Piece := some (s, none, .refused status)

/-- A piece that needs the lock of the sessions. -/
def whenFree (s : Shared) (piece : Piece) : Piece := if s.registryLock.isNone then piece else none

theorem whenFree_eq_some (h : whenFree s piece = some r) :
    s.registryLock = none ∧ piece = some r := by
  unfold whenFree at h
  split at h
  · rename_i hfree
    exact ⟨Option.isNone_iff_eq_none.1 hfree, h⟩
  · cases h

/-! ## The pieces -/

/-- `Shared::remove`: `task` is the caller at an await point, `done` the piece that follows. -/
def removeAct (s : Shared) (id : Nat) (nodeId : Bytes) (task : RemovePhase → Task)
    (done : Shared → Piece) : RemovePhase → Piece
  | .token => moves (s.dropToken nodeId) (task .registry)
  | .registry => whenFree s <| match s.connections.lookup nodeId with
    | none => done s
    | some _ => moves ((s.unregister nodeId).lock id) (task .publishing)
  | .publishing => done s.unlock

/-- The handler of a connection refuses it; the lock it may hold is given back. -/
def rejects (s : Shared) (id : Nat) (message : String) : Piece :=
  some (s.release id, none, .rejected message)

section
variable (host : Host)
include host

/-- The pieces of `accept`. -/
def acceptAct (p : Pool Shared Task) (id : Nat) (incoming : Incoming)
    (phase : AcceptPhase) (input : Input) : Piece :=
  let s := p.shared
  let live token := p.any fun task => task.token == some token
  let goto phase s := moves s (.accept incoming phase)
  match phase with
  -- `after_handshake` of the security hook
  | .connecting =>
    if s.policy.isRevoked incoming.remote || !s.policy.permitsAgent incoming.remote then
      rejects s id "endpoint not permitted"
    else goto .negotiating s
  | .negotiating =>
    match negotiate host s.policy incoming.handshake incoming.remote input.answer input.clock with
    | .error message => rejects s id message
    | .ok none => some (s, none, .silent)
    | .ok (some session) => goto (.negotiated session) s
  | .negotiated session =>
    let (token, s) := s.registrationToken live session.nodeId
    goto (.rechecking session token) s
  | .rechecking session token =>
    if host.trust then
      match input.recheck with
      | .ok true => goto (.waiting session token) s
      | .ok false => rejects s id "endpoint trust changed during session registration"
      | .error message => rejects s id message
    else goto (.waiting session token) s
  | .waiting session token => whenFree s <| goto (.locked session token) (s.lock id)
  | .locked session token =>
    if s.policy.isRevoked incoming.remote then rejects s id "endpoint was revoked during handshake"
    else goto (.unrevoked session token) s
  | .unrevoked session token =>
    let (current, s) := s.registrationToken live session.nodeId
    if current = token then goto (.admitted session token) s
    else rejects s id "endpoint was revoked during handshake"
  | .admitted session token =>
    match session.fence with
    | none => goto (.fenced session token) s
    | some fence =>
      match fenceRegistrationDecision (s.fences.lookup session.nodeId) fence with
      | .stale => rejects s id "session fence epoch is lower than the registered owner epoch"
      | .epochCollision => rejects s id "two distinct fences claim the same owner epoch"
      | .apply | .refresh => goto (.fenced session token) (s.record session.nodeId fence)
  | .fenced session token =>
    goto (.registered session token)
      (s.register (session.entry incoming.connection incoming.remote))
  | .registered session token => goto (.live session token) s.unlock
  -- `finish_session`, when the connection has closed
  | .live session token => whenFree s <|
    match s.connections.lookup session.nodeId with
    | none => some (s, none, .silent)
    | some entry =>
      if entry.connection = incoming.connection then
        goto (.finishing session token) ((s.unregister session.nodeId).lock id)
      else some (s, none, .silent)
  | .finishing _ _ => some (s.unlock, none, .silent)

/-- The update changed the policy, and sessions of the node may have to be closed. -/
def TrustResponse.changed (response : TrustResponse) (call : TrustCall) (previous : UInt64) :
    Bool :=
  response.disposition == .applied && response.retainedRevision == call.request.revision &&
    response.retainedState == call.state && previous < response.retainedRevision

section
variable (s : Shared)

/-- The pieces of `update_node_trust`. -/
def trustAct (id : Nat) (call : TrustCall) (phase : TrustPhase) (input : Input) : Piece :=
  let goto phase s := moves s (.trust call phase)
  match phase with
  | .binding =>
    match verifyOperationBinding host (s.fences.lookup call.nodeId.1) call.nodeId
        (some call.endpoint) none call.request.fenceBinding .stateUpdate call.request.operationId
        input.clock with
    | .error status => fails s status
    | .ok _ => some (s, some (.trust call .verified), .admitted
        ⟨call.nodeId, .stateUpdate, call.request.operationId, call.request.fenceBinding⟩)
  | .verified => goto (.read (s.policy.revision call.endpoint)) s
  | .read previous =>
    let (disposition, policy) :=
      s.policy.update call.endpoint call.nodeId.1 call.state call.request.revision
    goto (.updated previous disposition) { s with policy }
  | .updated previous disposition =>
    goto (.retained previous disposition (s.policy.revision call.endpoint)) s
  | .retained previous disposition revision =>
    let response := ⟨disposition, revision, s.policy.retainedState call.endpoint⟩
    if response.changed call previous then goto (.looking response) s
    else goto (.returning response) s
  | .looking response => whenFree s <|
    if (s.connections.lookup call.nodeId.1).any fun entry =>
        entry.authorizationRevision < response.retainedRevision then
      goto (.closing response .token) s
    else goto (.returning response) s
  | .closing response phase =>
    removeAct s id call.nodeId.1 (fun phase => .trust call (.closing response phase))
      (goto (.returning response)) phase
  | .returning response => some (s, none, .trustReturned call response)

/-- The pieces of `register_owner_fence`. -/
def registerAct (id : Nat) (fence : ConnectionFenceV2)
    (phase : FencePhase) (input : Input) : Piece :=
  let goto phase s := moves s (.registerFence fence phase)
  let returns response s : Piece := some (s, none, .fenceReturned response)
  match phase with
  | .verifying =>
    let checked : Except Status RegisteredFence := do
      let nodeId ← validateUuid fence.nodeId "node_id"
      let endpointId ← fixed 32 fence.endpointId "identifier must be 32 bytes"
      let keyring ← requireKeyring host
      let nodeId ← fixed16 nodeId
      let verified ← (keyring.verifyConnectionFenceV2At host.platform fence nodeId endpointId
        input.clock.now).mapError fun _ => ⟨.permissionDenied, "owner fence is invalid"⟩
      Checked.require (!verified.leaseExpired input.clock.lease)
        ⟨.failedPrecondition, "owner fence lease has expired"⟩
      return ⟨verified, fence, endpointId⟩
    match checked with
    | .error status => fails s status
    | .ok registered => goto (.checking registered) s
  | .checking registered => whenFree s <|
    if (s.connections.lookup fence.nodeId).any fun entry =>
        entry.endpointId != registered.endpointId then
      fails s ⟨.permissionDenied, "owner fence endpoint does not match the registered session"⟩
    else goto (.deciding registered) s
  | .deciding registered =>
    match fenceRegistrationDecision (s.fences.lookup fence.nodeId) registered with
    | .stale => returns ⟨.stale, ((s.fences.lookup fence.nodeId).map (·.epoch)).getD 0⟩ s
    | .epochCollision =>
      fails s ⟨.invalidArgument, "owner epoch is already claimed by a different fence"⟩
    | .refresh => returns ⟨.refreshed, registered.epoch⟩ (s.record fence.nodeId registered)
    | .apply => goto (.retiring registered) (s.record fence.nodeId registered)
  -- `retire_superseded_owner`
  | .retiring registered => whenFree s <|
    if (s.connections.lookup fence.nodeId).any fun entry =>
        entry.sessionMode == .authorizedV11 && entry.fence.all fun held =>
          held.verified.term.fenceId != registered.verified.term.fenceId then
      goto (.removing registered .token) s
    else returns ⟨.applied, registered.epoch⟩ s
  | .removing registered phase =>
    removeAct s id fence.nodeId (fun phase => .registerFence fence (.removing registered phase))
      (returns ⟨.applied, registered.epoch⟩) phase

/-- The pieces of `close_node`. -/
def closeAct (id : Nat) (call : CloseCall) (phase : ClosePhase) (input : Input) : Piece :=
  match phase with
  | .binding =>
    match verifyOperationBinding host (s.fences.lookup call.nodeId.1) call.nodeId none none
        call.fenceBinding .connectionClose call.nodeId.1 input.clock with
    | .error status => fails s status
    | .ok _ => some (s, some (.close call (.removing .token)), .admitted
        ⟨call.nodeId, .connectionClose, call.nodeId.1, call.fenceBinding⟩)
  | .removing .registry => whenFree s <|
    match s.connections.lookup call.nodeId.1 with
    | none => fails s ⟨.notFound, "node is not connected"⟩
    | some _ => moves ((s.unregister call.nodeId.1).lock id) (.close call (.removing .publishing))
  | .removing phase =>
    removeAct s id call.nodeId.1 (fun phase => .close call (.removing phase))
      (fun s => some (s, none, .silent)) phase

/-- The part of `verify_command_fence` before it reads the owner fence. -/
def prepareCommandFence (nodeId : Bytes) (command : StoredEnvelope)
    (session : RegisteredConnection) (clock : Clock) : Except Status DispatchPhase :=
  match session.fence with
  | none => do
    Checked.require (command.connectionFence.isNone && command.fenceBinding.isNone)
      ⟨.permissionDenied, "command fence is not grounded in the session term"⟩
    Checked.require (!host.requireFencing)
      ⟨.permissionDenied, "command dispatch requires a fenced session"⟩
    let _ ← fixed16 nodeId
    return .bare session
  | some fence => do
    let keyring ← requireKeyring host
    let nodeId ← fixed16 nodeId
    let (verified, claims) ←
      verifyCommandCarriers host keyring nodeId fence.endpointId command clock
    return .fenced session fence verified claims clock

/-- The part of `verify_command_fence` after it has read the owner fence. -/
def checkCommandTerm (registered : Option RegisteredFence) (sessionFence : RegisteredFence)
    (verified : VerifiedConnectionFenceV2) (claims : FenceBindingClaimsV2) :
    Except Status Unit := do
  let registered ← Checked.get registered
    ⟨.permissionDenied, "no owner fence is registered for this node"⟩
  Checked.require (sameFenceTerm registered.verified verified &&
      sameFenceTerm sessionFence.verified verified)
    ⟨.permissionDenied, "command fence does not match the registered owner term"⟩
  Checked.require (claims.matchesFence verified)
    ⟨.permissionDenied, "command fence binding does not match the command fence term"⟩

/-- The pieces of `validate_command_dispatch`. -/
def dispatchAct (nodeId : Bytes) (command : StoredEnvelope)
    (length : Nat) (phase : DispatchPhase) (input : Input) : Piece :=
  match phase with
  | .looking => whenFree s <|
    match s.connections.lookup nodeId with
    | none => fails s ⟨.unavailable, "node is not connected"⟩
    | some session =>
      let prepared := do
        admitCommand session command.command length input.systemNow
        prepareCommandFence host nodeId command session input.clock
      match prepared with
      | .error status => fails s status
      | .ok phase => moves s (.dispatch nodeId command length phase)
  | .bare session =>
    if (s.fences.lookup nodeId).isSome then
      fails s ⟨.permissionDenied, "command dispatch requires the registered owner fence"⟩
    else some (s, none, .dispatched nodeId command session.connection)
  | .fenced session fence verified claims _ =>
    match checkCommandTerm (s.fences.lookup nodeId) fence verified claims with
    | .error status => fails s status
    | .ok _ => some (s, none, .dispatched nodeId command session.connection)

/-- The pieces of `fetch_artifact` and `consume_artifact`, up to the admission. -/
def artifactAct (request : ArtifactRequest) (call : ArtifactCall)
    (phase : ArtifactPhase) (input : Input) : Piece :=
  match phase with
  | .looking => whenFree s <|
    match s.connections.lookup call.nodeId.1 with
    | none => fails s ⟨.unavailable, "node is not connected"⟩
    | some session =>
      if session.sessionMode = .readOnly then fails s ⟨.permissionDenied, call.readOnlyMessage⟩
      else moves s (.artifact request call (.binding session))
  | .binding session =>
    match verifyOperationBinding host (s.fences.lookup call.nodeId.1) call.nodeId
        (some session.endpointId) session.fence call.fenceBinding .artifact call.operationId
        input.clock with
    | .error status => fails s status
    | .ok _ => some (s, none, .admitted ⟨call.nodeId, .artifact, call.operationId,
        call.fenceBinding⟩)

end

def act (p : Pool Shared Task) (id : Nat) (task : Task) (input : Input) : Piece :=
  match task with
  | .accept incoming phase => acceptAct host p id incoming phase input
  | .trust call phase => trustAct host p.shared id call phase input
  | .registerFence fence phase => registerAct host p.shared id fence phase input
  | .close call phase => closeAct host p.shared id call phase input
  | .dispatch nodeId command length phase =>
    dispatchAct host p.shared nodeId command length phase input
  | .artifact request call phase => artifactAct host p.shared request call phase input
  | .shutdown => whenFree p.shared <| some ({ p.shared with connections := ∅ }, none, .silent)

/-! ## The program -/

/-- A task at its start, with its arguments checked. -/
def Task.starts : Task → Bool
  | .accept _ .connecting => true
  | .trust call .binding => decide (validateTrustUpdate host call.request = .ok call)
  | .registerFence _ .verifying => true
  | .close call .binding => decide (call.validate = .ok ())
  | .dispatch _ _ _ .looking => true
  | .artifact request call .looking => decide (request.validate = .ok call)
  | .shutdown => true
  | _ => false

end

/-- The await points of a call of `update_node_trust`. -/
inductive TrustAwait where
  | binding | lookup | token | registry | publish
deriving DecidableEq

/-- The await point at which a call of `update_node_trust` stands. -/
def TrustPhase.await : TrustPhase → Option TrustAwait
  | .binding => some .binding
  | .looking _ => some .lookup
  | .closing _ .token => some .token
  | .closing _ .registry => some .registry
  | .closing _ .publishing => some .publish
  | .verified | .read _ | .updated _ _ | .retained _ _ _ | .returning _ => none

/-- The handler of a connection stands at an await point. -/
def AcceptPhase.awaits : AcceptPhase → Bool
  | .locked _ _ | .fenced _ _ => false
  | .admitted session _ => session.fence.isSome
  | _ => true

/-- The task stands at an await point. -/
def Task.awaits : Task → Bool
  | .accept _ phase => phase.awaits
  | .trust _ phase => phase.await.isSome
  | .registerFence _ .verifying => false
  | _ => true

/-- The policies a process starts with. -/
def Initial (policy : IdentityState) : Prop :=
  (∃ approved revoked, policy = .new approved revoked) ∨
    ∃ bindings, IdentityState.replaceSnapshot bindings = .ok policy

/-- transportd: any task may start at any time, and may be dropped at any of its await points. -/
def program (host : Host) : Program Shared Task Input Event where
  init s := Initial s.policy ∧ s.connections = ∅ ∧ s.registrationTokens = ∅ ∧ s.fences = ∅ ∧
    s.registryLock = none
  spawn _ task := task.starts host
  act := act host
  cancel := Task.awaits
  release := Shared.release

end Ocservia.Transport
