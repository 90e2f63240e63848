import Ocservia.Contract.Grants

/-!
# Agent sessions and their owner fence

`agent/src/main.rs`: a session is negotiated from the Controller's handshake response
(`negotiateSessionModeAtInstant`). A session that may mutate carries the verified fence of its owner
term, and becomes active only when it raises the durable floor of owner epochs to its own epoch
(`activate_session_connection_fence`). Every operation of such a session is verified against the
session's term and the floor (`verifyFencedOperation`). The floor is a row of eight big-endian
bytes, whose raise takes the larger number (`raise_spec`).
-/

namespace Ocservia

open Wire Checked ControllerCommandKeyring

/-! ## The floor of owner epochs -/

/-- `owner_fence_epoch_floor`; a stored value that is not eight bytes is an error. -/
def ownerFenceEpochFloor : Option Bytes → Option UInt64
  | none => some 0
  | some bytes => if bytes.length = 8 then some (UInt64.ofNat (ofBe bytes)) else none

/-- `raise_owner_fence_epoch_floor`: the value that is stored, and the result. -/
def raiseOwnerFenceEpochFloor (stored : Option Bytes) (epoch : UInt64) : Bytes × Option UInt64 :=
  let value := be 8 epoch.toNat
  let persisted := match stored with
    | none => value
    | some old => if old < value then value else old
  (persisted, ownerFenceEpochFloor (some persisted))

/-- The stored value is the encoding of the epoch `n`, or absent for none. -/
def FloorIs (stored : Option Bytes) (n : UInt64) : Prop :=
  stored = some (be 8 n.toNat) ∨ stored = none ∧ n = 0

theorem epoch_lt (n : UInt64) : n.toNat < 256 ^ 8 := by
  have := n.toNat_lt
  norm_num
  omega

theorem toNat_max (a b : UInt64) : (max a b).toNat = max a.toNat b.toNat := by
  change (if a ≤ b then b else a).toNat = _
  split
  iterate 2
    rename_i h
    rw [UInt64.le_iff_toNat_le] at h
    omega

theorem ownerFenceEpochFloor_encoded (n : UInt64) :
    ownerFenceEpochFloor (some (be 8 n.toNat)) = some n := by
  simp [ownerFenceEpochFloor, ofBe_be (epoch_lt n)]

theorem FloorIs.read (h : FloorIs stored n) : ownerFenceEpochFloor stored = some n := by
  rcases h with rfl | ⟨rfl, rfl⟩
  · exact ownerFenceEpochFloor_encoded n
  · rfl

/-- Raising stores and returns the larger epoch: encodings are ordered as the numbers. -/
theorem raise_spec (h : FloorIs stored n) (epoch : UInt64) :
    FloorIs (some (raiseOwnerFenceEpochFloor stored epoch).1) (max n epoch) ∧
      (raiseOwnerFenceEpochFloor stored epoch).2 = some (max n epoch) := by
  have hstored : (raiseOwnerFenceEpochFloor stored epoch).1 = be 8 (max n epoch).toNat := by
    rw [toNat_max]
    rcases h with rfl | ⟨rfl, rfl⟩
    · simp only [raiseOwnerFenceEpochFloor, be_lt_be (epoch_lt n) (epoch_lt epoch)]
      split
      · rename_i hlt
        rw [max_eq_right hlt.le]
      · rename_i hle
        rw [max_eq_left (not_lt.1 hle)]
    · rw [UInt64.toNat_zero, Nat.zero_max]
      rfl
  have hread : (raiseOwnerFenceEpochFloor stored epoch).2 =
      ownerFenceEpochFloor (some (raiseOwnerFenceEpochFloor stored epoch).1) := rfl
  rw [hread, hstored]
  exact ⟨.inl rfl, ownerFenceEpochFloor_encoded _⟩

/-! ## Sessions -/

/-- `SessionHandshakeResponse`, as far as the negotiation reads it. -/
structure SessionHandshakeResponse where
  (protocolMajor protocolMinor : UInt32)
  negotiatedCapabilities : List String
  sessionGrant : Option SessionGrantV1
  connectionFence : Option ConnectionFenceV2

/-- `SessionGrantAuthority`; the set of capabilities is a list without duplicates. -/
structure SessionGrantAuthority where
  negotiatedCapabilities : List String
  authorizationRevision : UInt64
  expiresAtUnixSeconds : Int64

inductive ActiveSessionAuthority where
  | signedReadOnlyV11 (grant : SessionGrantAuthority)
  | fencedV11 (grant : SessionGrantAuthority) (connectionFence : VerifiedConnectionFenceV2)

inductive AgentSessionMode where
  | readOnly (negotiatedCapabilities : List String)
  | authorizedV11 (authority : ActiveSessionAuthority)

/-- What the Agent holds a session against. -/
structure AgentIdentity where
  nodeId : Uuid
  endpointId : FixedBytes 32
  commandKeys : ControllerCommandKeyring

namespace Agent

def connectionFencingCapability : String := "ocserv.fencing.v2"

def readOnlySessionCapabilities : List String :=
  ["ocserv.config_fingerprint.read", "ocserv.ip_bans.read", "ocserv.sessions.read",
    "ocserv.status.read", "ocserv.version.read"]

def isReadOnlySessionCapability (capability : String) : Bool :=
  readOnlySessionCapabilities.contains capability

/-- The negotiated capabilities are supported, and strictly increasing. -/
def validNegotiated (supported : List String) (previous : Option String) : List String → Bool
  | [] => true
  | capability :: rest =>
    supported.contains capability && previous.all (fun value => utf8 value < utf8 capability) &&
      validNegotiated supported (some capability) rest

def sameCapabilitySet (capabilities expected : List String) : Bool :=
  capabilities.length == expected.length && capabilities.all expected.contains

/-- `invalid`, unless the check passes. -/
def requireValid (check : Bool) (text : String) : Except String Unit := require check text

/-- The error text of an authorization error. -/
def rejected {α : Type} (x : Except AuthorizationError α) : Except String α :=
  x.mapError fun e => "Controller command authorization rejected: " ++ e.code

section
variable (P : Platform) (self : AgentIdentity)

section
variable (response : SessionHandshakeResponse)

/-- The branch of `negotiate_session_mode_at_instant` for protocol 1.0. -/
def negotiateReadOnly : Except String AgentSessionMode := do
  requireValid
    (response.sessionGrant.isNone && response.connectionFence.isNone &&
      response.negotiatedCapabilities.all isReadOnlySessionCapability)
    "Controller read-only session is invalid"
  return .readOnly response.negotiatedCapabilities.dedup

/-- The branch of `negotiate_session_mode_at_instant` for a grant without connection fencing. -/
def negotiateUnfenced (grant : SessionGrantAuthority) : Except String AgentSessionMode := do
  requireValid response.connectionFence.isNone
    "Controller returned an unexpected connection fence"
  requireValid (grant.negotiatedCapabilities.all isReadOnlySessionCapability)
    "Controller mutation session omitted connection fencing"
  return .authorizedV11 (.signedReadOnlyV11 grant)

/-- The branch of `negotiate_session_mode_at_instant` for a grant with connection fencing. -/
def negotiateFenced (grant : SessionGrantAuthority)
    (now : Instant) : Except String AgentSessionMode := do
  let fence ← get response.connectionFence
    "Controller fencing session omitted its connection fence"
  let verified ← (self.commandKeys.verifyConnectionFenceV2At P fence self.nodeId self.endpointId
    now).mapError fun _ => "Controller connection fence is invalid"
  requireValid
    (verified.term.authorizationRevision == grant.authorizationRevision &&
      sameCapabilitySet verified.capabilities grant.negotiatedCapabilities)
    "Controller connection fence authority mismatch"
  return .authorizedV11 (.fencedV11 grant verified)

/-- The grant of a session, verified. -/
def verifyGrantAuthority (now : Instant) : Except String SessionGrantAuthority := do
  let grant ← get response.sessionGrant "Controller session grant is required"
  requireValid
    (grant.protocolMajor == response.protocolMajor &&
      grant.protocolMinor == response.protocolMinor &&
      grant.negotiatedCapabilities == response.negotiatedCapabilities)
    "Controller session grant response mismatch"
  let verified ← rejected (self.commandKeys.verifySessionGrant P grant self.nodeId self.endpointId
    now.seconds)
  requireValid (verified.negotiatedCapabilities == response.negotiatedCapabilities)
    "verified session capabilities do not match response"
  return ⟨verified.negotiatedCapabilities.dedup, verified.authorizationRevision,
    verified.expiresAtSeconds⟩

/-- The branch of `negotiate_session_mode_at_instant` for protocol 1.1. -/
def negotiateAuthorized (now : Instant) : Except String AgentSessionMode := do
  let grant ← verifyGrantAuthority P self response now
  if grant.negotiatedCapabilities.contains connectionFencingCapability then
    negotiateFenced P self response grant now
  else negotiateUnfenced response grant

def negotiateSessionModeAtInstant (supported : List String)
    (now : Instant) : Except String AgentSessionMode := do
  requireValid (response.protocolMajor == 1 && response.protocolMinor ≤ 1)
    "Controller session protocol is unsupported"
  requireValid (validNegotiated supported none response.negotiatedCapabilities)
    "Controller negotiated capability set is invalid"
  if response.protocolMinor == 0 then negotiateReadOnly response
  else negotiateAuthorized P self response now

end

/-! ## Activation -/

/-- `refresh_fence_epoch_floor`: the floor held after the stored one was read. -/
def refreshFenceEpochFloor (stored : Option Bytes) (floor : UInt64) : Option UInt64 :=
  (ownerFenceEpochFloor stored).map (max floor)

/-- `activate_session_connection_fence` up to its check: the floor then held, and whether the fence
passed. -/
def checkActivation (fence : VerifiedConnectionFenceV2) (stored : Option Bytes) (floor : UInt64)
    (now : Instant) : UInt64 × Bool :=
  if fence.leaseExpired now || fence.expiresAt.le now then (floor, false)
  else
    match refreshFenceEpochFloor stored floor with
    | none => (floor, false)
    | some read => (read, read < fence.term.ownerEpoch)

/-! ## Operations -/

/-- A stream of a session: a command, or an operation on an artifact under a grant. -/
inductive AgentStream where
  | command (envelope : StoredEnvelope)
  | artifactFetch (artifactId : Uuid) (connectionFence : Option ConnectionFenceV2)
      (fenceBinding : Option FenceBindingV2)
  | artifactConsume (grantId : Uuid) (connectionFence : Option ConnectionFenceV2)
      (fenceBinding : Option FenceBindingV2)
deriving DecidableEq

namespace AgentStream

def connectionFence : AgentStream → Option ConnectionFenceV2
  | .command envelope => envelope.connectionFence
  | .artifactFetch _ fence _ | .artifactConsume _ fence _ => fence

def fenceBinding : AgentStream → Option FenceBindingV2
  | .command envelope => envelope.fenceBinding
  | .artifactFetch _ _ binding | .artifactConsume _ _ binding => binding

/-- The kind of operation that the stream's handler asks the binding for. -/
def operationKind : AgentStream → FenceOperationKind
  | .command _ => .command
  | .artifactFetch .. | .artifactConsume .. => .artifact

/-- The operation that the stream's handler asks the binding for. -/
def operationId : AgentStream → Bytes
  | .command envelope => envelope.command.commandId
  | .artifactFetch id _ _ | .artifactConsume id _ _ => id.1

/-- The capability that the stream's handler asks the binding for. -/
def capability : AgentStream → String
  | .command envelope => envelope.command.requiredCapability
  | .artifactFetch .. | .artifactConsume .. => connectionFencingCapability

end AgentStream

/-- `verify_fenced_operation`; `same_fence_term` compares the terms. -/
def verifyFencedOperation (grant : SessionGrantAuthority) (active : VerifiedConnectionFenceV2)
    (floor : UInt64) (stream : AgentStream) (now : Instant) : Except String Unit := do
  let fence ← get stream.connectionFence "fenced operation omitted its connection fence"
  let binding ← get stream.fenceBinding "fenced operation omitted its fence binding"
  let verified ← (self.commandKeys.verifyConnectionFenceV2At P fence self.nodeId self.endpointId
    now).mapError fun _ => "operation connection fence is invalid"
  requireValid (!verified.leaseExpired now) "operation connection-owner lease has expired"
  requireValid
    (active.term.ownerEpoch == floor && verified.term.ownerEpoch == floor &&
      verified.term == active.term &&
      verified.term.authorizationRevision == grant.authorizationRevision &&
      sameCapabilitySet verified.capabilities grant.negotiatedCapabilities)
    "operation fence does not match the active session term"
  let claims ← (self.commandKeys.verifyFenceBindingV2At P binding self.nodeId self.endpointId
    now).mapError fun _ => "operation fence binding is invalid"
  requireValid
    (claims.operationKind == stream.operationKind.toNat &&
      claims.operationId.1 == stream.operationId && claims.capability == stream.capability &&
      grant.negotiatedCapabilities.contains stream.capability && claims.matchesFence verified)
    "operation fence binding does not match its carrier"

/-- `gate_signed_read_only_stale_diagnostic`; it accepts only to report a stale owner. -/
def gateSignedReadOnlyStaleDiagnostic (floor : UInt64) (fence : ConnectionFenceV2)
    (now : Instant) : Except String Unit := do
  let verified ← (self.commandKeys.verifyConnectionFenceV2At P fence self.nodeId self.endpointId
    now).mapError fun _ => "command connection fence is invalid"
  requireValid (!verified.leaseExpired now) "command connection-owner lease has expired"
  requireValid (verified.term.ownerEpoch < floor)
    "signed read-only session cannot authorize a non-stale command"

/-- What the handler of a stream decides before it goes on. -/
inductive StreamOutcome where
  | passed | staleOwner | refused
deriving DecidableEq

/-- The fence check of the stream handlers, under the authority of the session. -/
def checkStream (authority : ActiveSessionAuthority) (floor : UInt64) (stream : AgentStream)
    (now : Instant) : StreamOutcome :=
  match authority, stream with
  | .fencedV11 grant active, stream =>
    if (verifyFencedOperation P self grant active floor stream now).toBool then .passed
    else .refused
  | .signedReadOnlyV11 _, .command envelope =>
    match envelope.connectionFence with
    | none => .refused
    | some fence =>
      if (gateSignedReadOnlyStaleDiagnostic P self floor fence now).toBool then .staleOwner
      else .refused
  | .signedReadOnlyV11 _, _ => .refused

/-! ## What a passed operation rests on -/

/-- A passed operation carries a fence and a binding of the floor's epoch. -/
structure OperationPassed (active : VerifiedConnectionFenceV2) (floor : UInt64)
    (fence : ConnectionFenceV2) (binding : FenceBindingV2) : Prop where
  active_epoch : active.term.ownerEpoch = floor
  fence_epoch : fence.ownerEpoch = floor
  binding_epoch : binding.ownerEpoch = floor

variable {P} {self}

theorem verifyFencedOperation_ok
    (h : verifyFencedOperation P self grant active floor stream now = .ok u) :
    ∃ fence binding, stream.connectionFence = some fence ∧ stream.fenceBinding = some binding ∧
      OperationPassed active floor fence binding := by
  obtain ⟨fence, hfence, h⟩ := get_bind.1 h
  obtain ⟨binding, hbinding, h⟩ := get_bind.1 h
  obtain ⟨verified, hverified, h⟩ := bind_eq_ok.1 h
  obtain ⟨_, h⟩ := of_bind h
  obtain ⟨hterm, h⟩ := require_bind.1 h
  obtain ⟨claims, hclaims, h⟩ := bind_eq_ok.1 h
  have hbound := require_eq_ok.1 h
  simp only [Bool.and_eq_true, beq_iff_eq] at hterm hbound
  obtain ⟨owner, howner, rfl⟩ :=
    verifyConnectionFenceV2At_ok (Except.mapError_eq_ok_iff.1 hverified)
  have hcarried :=
    (verifyFenceBindingV2At_ok (Except.mapError_eq_ok_iff.1 hclaims)).claimsOf
  have hsame : claims.term = owner.term := eq_of_beq hbound.2
  have hepoch : owner.term.ownerEpoch = floor := hterm.1.1.1.2
  refine ⟨fence, binding, hfence, hbinding,
    hterm.1.1.1.1, ?_, ?_⟩
  · rw [← howner.claimsOf.ownerEpoch, hepoch]
  · rw [← hcarried.ownerEpoch, hsame, hepoch]

theorem checkStream_passed (h : checkStream P self authority floor stream now = .passed) :
    ∃ grant active fence binding, authority = .fencedV11 grant active ∧
      stream.connectionFence = some fence ∧ stream.fenceBinding = some binding ∧
      OperationPassed active floor fence binding := by
  unfold checkStream at h
  split at h
  case h_1 grant active =>
    cases hv : verifyFencedOperation P self grant active floor stream now with
    | error e => simp [hv, Except.toBool] at h
    | ok u =>
      obtain ⟨fence, binding, hfence, hbinding, hpassed⟩ := verifyFencedOperation_ok hv
      exact ⟨grant, active, fence, binding, rfl, hfence, hbinding, hpassed⟩
  case h_2 =>
    split at h
    · cases h
    · split at h <;> cases h
  case h_3 => cases h

end

end Agent

end Ocservia
