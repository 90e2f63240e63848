import Ocservia.Contract.Authorization

/-!
# Connection-owner fences

`command-authorization/src/lib.rs`: the Controller that owns the connection of a node signs a fence
for its ownership term (`ConnectionFenceV2`) and, for each operation, a binding of the operation to
that term (`FenceBindingV2`). Agent and privd verify both against their pinned keys at an instant of
their own clock. The six fields that identify a term, which `matches_fence` and `same_fence_term`
compare, are one record here (`FenceTerm`).

`verifyConnectionFenceV2At_ok` and `verifyFenceBindingV2At_ok` are what a verified fence and a
verified binding rest on.
-/

namespace Ocservia

open Wire Checked

/-! ## Messages and claims -/

structure ConnectionFenceV2 where
  signatureVersion : Int32
  keyId : String
  (fenceId nodeId endpointId ownerInstanceId : Bytes)
  (ownerIncarnation ownerEpoch : UInt64)
  connectionId : Bytes
  authorizationRevision : UInt64
  capabilities : List String
  (leaseUntil issuedAt expiresAt : Option Timestamp)
  signature : Bytes
deriving DecidableEq

structure FenceBindingV2 where
  signatureVersion : Int32
  keyId : String
  operationKind : Int32
  (operationId fenceId nodeId endpointId ownerInstanceId : Bytes)
  (ownerIncarnation ownerEpoch : UInt64)
  connectionId : Bytes
  authorizationRevision : UInt64
  capability : String
  (issuedAt expiresAt : Option Timestamp)
  signature : Bytes
deriving DecidableEq

/-- A `CommandEnvelope` with its owner-fence proofs, as it is stored and sent. -/
structure StoredEnvelope where
  command : CommandEnvelope
  connectionFence : Option ConnectionFenceV2
  fenceBinding : Option FenceBindingV2
deriving DecidableEq

/-- `FenceOperationKind`, without the unspecified kind. -/
inductive FenceOperationKind where
  | command | artifact | connectionClose | stateUpdate
deriving DecidableEq

def FenceOperationKind.toNat : FenceOperationKind → Nat
  | .command => 1
  | .artifact => 2
  | .connectionClose => 3
  | .stateUpdate => 4

/-- The fields that identify an ownership term. -/
structure FenceTerm where
  (fenceId ownerInstanceId : Uuid)
  (ownerIncarnation ownerEpoch : UInt64)
  connectionId : Uuid
  authorizationRevision : UInt64
deriving DecidableEq

/-- An instant with its nanoseconds. -/
structure Instant where
  seconds : Int64
  nanos : Nat
deriving DecidableEq

/-- The order of pairs of seconds and nanoseconds. -/
def Instant.le (a b : Instant) : Bool :=
  a.seconds.toInt < b.seconds.toInt || (a.seconds == b.seconds && a.nanos ≤ b.nanos)

structure ConnectionFenceClaimsV2 where
  keyId : String
  nodeId : Uuid
  endpointId : FixedBytes 32
  term : FenceTerm
  capabilities : List String
  (leaseUntil issuedAt expiresAt : Instant)
deriving DecidableEq

structure FenceBindingClaimsV2 where
  keyId : String
  operationKind : Nat
  (operationId nodeId : Uuid)
  endpointId : FixedBytes 32
  term : FenceTerm
  capability : String
  (issuedAt expiresAt : Instant)
deriving DecidableEq

structure VerifiedConnectionFenceV2 where
  term : FenceTerm
  capabilities : List String
  (leaseUntil expiresAt : Instant)

def VerifiedConnectionFenceV2.leaseExpired (fence : VerifiedConnectionFenceV2) (now : Instant) :
    Bool := fence.leaseUntil.le now

def FenceBindingClaimsV2.matchesFence (binding : FenceBindingClaimsV2)
    (fence : VerifiedConnectionFenceV2) : Bool := binding.term == fence.term

namespace Fence

/-- `FENCE_SIGNATURE_VERSION_ED25519_V1`, the wire number. -/
def signatureVersionEd25519V1 : Int32 := 1

def connectionFenceClaimsV2 (fence : ConnectionFenceV2) :
    Except AuthorizationError ConnectionFenceClaimsV2 := do
  require (fence.signatureVersion == signatureVersionEd25519V1) .unsupportedVersion
  let leaseUntil ← claimOr fence.leaseUntil "connection_fence_lease_until_missing"
  let issuedAt ← claimOr fence.issuedAt "connection_fence_issued_at_missing"
  let expiresAt ← claimOr fence.expiresAt "connection_fence_expires_at_missing"
  let fenceId ← fixedClaim 16 fence.fenceId "connection_fence_fence_id_invalid"
  let nodeId ← fixedClaim 16 fence.nodeId "connection_fence_node_invalid"
  let endpointId ← fixedClaim 32 fence.endpointId "connection_fence_endpoint_invalid"
  let ownerInstanceId ←
    fixedClaim 16 fence.ownerInstanceId "connection_fence_owner_instance_invalid"
  let connectionId ← fixedClaim 16 fence.connectionId "connection_fence_connection_invalid"
  let leaseNanos ← timestampNanos leaseUntil.nanos
  let issuedNanos ← timestampNanos issuedAt.nanos
  let expiresNanos ← timestampNanos expiresAt.nanos
  return {
    keyId := fence.keyId
    nodeId, endpointId
    term := ⟨fenceId, ownerInstanceId, fence.ownerIncarnation, fence.ownerEpoch, connectionId,
      fence.authorizationRevision⟩
    capabilities := fence.capabilities
    leaseUntil := ⟨leaseUntil.seconds, leaseNanos⟩
    issuedAt := ⟨issuedAt.seconds, issuedNanos⟩
    expiresAt := ⟨expiresAt.seconds, expiresNanos⟩ }

/-- `fence_operation_kind_value`. -/
def operationKindValue (value : Int32) : Except AuthorizationError Nat := do
  requireClaim (1 ≤ value.toInt && value.toInt ≤ 4) "fence_binding_operation_kind_invalid"
  return value.toInt.toNat

def fenceBindingClaimsV2 (binding : FenceBindingV2) :
    Except AuthorizationError FenceBindingClaimsV2 := do
  require (binding.signatureVersion == signatureVersionEd25519V1) .unsupportedVersion
  let issuedAt ← claimOr binding.issuedAt "fence_binding_issued_at_missing"
  let expiresAt ← claimOr binding.expiresAt "fence_binding_expires_at_missing"
  let operationKind ← operationKindValue binding.operationKind
  let operationId ← fixedClaim 16 binding.operationId "fence_binding_operation_invalid"
  let fenceId ← fixedClaim 16 binding.fenceId "fence_binding_fence_id_invalid"
  let nodeId ← fixedClaim 16 binding.nodeId "fence_binding_node_invalid"
  let endpointId ← fixedClaim 32 binding.endpointId "fence_binding_endpoint_invalid"
  let ownerInstanceId ←
    fixedClaim 16 binding.ownerInstanceId "fence_binding_owner_instance_invalid"
  let connectionId ← fixedClaim 16 binding.connectionId "fence_binding_connection_invalid"
  let issuedNanos ← timestampNanos issuedAt.nanos
  let expiresNanos ← timestampNanos expiresAt.nanos
  return {
    keyId := binding.keyId
    operationKind, operationId, nodeId, endpointId
    term := ⟨fenceId, ownerInstanceId, binding.ownerIncarnation, binding.ownerEpoch, connectionId,
      binding.authorizationRevision⟩
    capability := binding.capability
    issuedAt := ⟨issuedAt.seconds, issuedNanos⟩
    expiresAt := ⟨expiresAt.seconds, expiresNanos⟩ }

/-- The claims of a fence are its fields. -/
structure FenceClaimsOf (fence : ConnectionFenceV2) (claims : ConnectionFenceClaimsV2) : Prop where
  keyId : claims.keyId = fence.keyId
  nodeId : claims.nodeId.1 = fence.nodeId
  endpointId : claims.endpointId.1 = fence.endpointId
  fenceId : claims.term.fenceId.1 = fence.fenceId
  ownerInstanceId : claims.term.ownerInstanceId.1 = fence.ownerInstanceId
  ownerIncarnation : claims.term.ownerIncarnation = fence.ownerIncarnation
  ownerEpoch : claims.term.ownerEpoch = fence.ownerEpoch
  connectionId : claims.term.connectionId.1 = fence.connectionId
  authorizationRevision : claims.term.authorizationRevision = fence.authorizationRevision
  capabilities : claims.capabilities = fence.capabilities

/-- The claims of a binding are its fields. -/
structure BindingClaimsOf (binding : FenceBindingV2) (claims : FenceBindingClaimsV2) : Prop where
  keyId : claims.keyId = binding.keyId
  operationId : claims.operationId.1 = binding.operationId
  nodeId : claims.nodeId.1 = binding.nodeId
  endpointId : claims.endpointId.1 = binding.endpointId
  fenceId : claims.term.fenceId.1 = binding.fenceId
  ownerInstanceId : claims.term.ownerInstanceId.1 = binding.ownerInstanceId
  ownerIncarnation : claims.term.ownerIncarnation = binding.ownerIncarnation
  ownerEpoch : claims.term.ownerEpoch = binding.ownerEpoch
  connectionId : claims.term.connectionId.1 = binding.connectionId
  authorizationRevision : claims.term.authorizationRevision = binding.authorizationRevision
  capability : claims.capability = binding.capability

theorem connectionFenceClaimsV2_ok (h : connectionFenceClaimsV2 fence = .ok claims) :
    FenceClaimsOf fence claims := by
  unfold connectionFenceClaimsV2 at h
  iterate 4 obtain ⟨_, h⟩ := of_bind h
  obtain ⟨fenceId, hfence, h⟩ := bind_eq_ok.1 h
  obtain ⟨nodeId, hnode, h⟩ := bind_eq_ok.1 h
  obtain ⟨endpointId, hendpoint, h⟩ := bind_eq_ok.1 h
  obtain ⟨ownerInstanceId, hinstance, h⟩ := bind_eq_ok.1 h
  obtain ⟨connectionId, hconnection, h⟩ := bind_eq_ok.1 h
  iterate 3 obtain ⟨_, h⟩ := of_bind h
  cases h
  exact ⟨rfl, fixedClaim_eq_ok.1 hnode, fixedClaim_eq_ok.1 hendpoint, fixedClaim_eq_ok.1 hfence,
    fixedClaim_eq_ok.1 hinstance, rfl, rfl, fixedClaim_eq_ok.1 hconnection, rfl, rfl⟩

theorem fenceBindingClaimsV2_ok (h : fenceBindingClaimsV2 binding = .ok claims) :
    BindingClaimsOf binding claims := by
  unfold fenceBindingClaimsV2 at h
  iterate 4 obtain ⟨_, h⟩ := of_bind h
  obtain ⟨operationId, hoperation, h⟩ := bind_eq_ok.1 h
  obtain ⟨fenceId, hfence, h⟩ := bind_eq_ok.1 h
  obtain ⟨nodeId, hnode, h⟩ := bind_eq_ok.1 h
  obtain ⟨endpointId, hendpoint, h⟩ := bind_eq_ok.1 h
  obtain ⟨ownerInstanceId, hinstance, h⟩ := bind_eq_ok.1 h
  obtain ⟨connectionId, hconnection, h⟩ := bind_eq_ok.1 h
  iterate 2 obtain ⟨_, h⟩ := of_bind h
  cases h
  exact ⟨rfl, fixedClaim_eq_ok.1 hoperation, fixedClaim_eq_ok.1 hnode, fixedClaim_eq_ok.1 hendpoint,
    fixedClaim_eq_ok.1 hfence, fixedClaim_eq_ok.1 hinstance, rfl, rfl,
    fixedClaim_eq_ok.1 hconnection, rfl, rfl⟩

/-! ## Transcripts -/

def instantBytes (value : Instant) : Bytes := beInt 8 value.seconds.toInt ++ be 4 value.nanos

/-- The bytes of the owner of a term, as both transcripts have them after the endpoint. -/
def ownerBytes (term : FenceTerm) : Bytes :=
  term.ownerInstanceId.1 ++ be 8 term.ownerIncarnation.toNat ++ be 8 term.ownerEpoch.toNat ++
    term.connectionId.1 ++ be 8 term.authorizationRevision.toNat

/-- The capabilities of a fence: not empty, at most 128 bytes each, strictly increasing. -/
def validCapabilities (previous : Option String) : List String → Bool
  | [] => true
  | capability :: rest =>
    capability.utf8ByteSize != 0 && capability.utf8ByteSize ≤ 128 &&
      previous.all (fun value => utf8 value < utf8 capability) &&
      validCapabilities (some capability) rest

/-- The texts of a list, each behind its length. -/
def appendStrings (target : Bytes) : List String → Except AuthorizationError Bytes
  | [] => .ok target
  | value :: rest => do appendStrings (← appendString target value) rest

def canonicalConnectionFenceV2 (claims : ConnectionFenceClaimsV2) :
    Except AuthorizationError Bytes := do
  requireClaim
    (claims.keyId != "" && claims.keyId.utf8ByteSize ≤ 128 && claims.term.ownerEpoch != 0 &&
      claims.term.authorizationRevision != 0 && claims.capabilities.length ≤ 128 &&
      claims.leaseUntil.nanos < 1000000000 && claims.issuedAt.nanos < 1000000000 &&
      claims.expiresAt.nanos < 1000000000 && !claims.leaseUntil.le claims.issuedAt &&
      claims.leaseUntil.le claims.expiresAt && !claims.expiresAt.le claims.issuedAt)
    "connection_fence_claims_invalid"
  requireClaim (validCapabilities none claims.capabilities) "connection_fence_capabilities_invalid"
  let out := utf8 "ocservia/connection-fence/v2\x00" ++ be 4 1
  let out ← appendString out claims.keyId
  let out := out ++ claims.term.fenceId.1 ++ claims.nodeId.1 ++ claims.endpointId.1 ++
    ownerBytes claims.term ++ be 4 claims.capabilities.length
  let out ← appendStrings out claims.capabilities
  return out ++ instantBytes claims.leaseUntil ++ instantBytes claims.issuedAt ++
    instantBytes claims.expiresAt

def canonicalFenceBindingV2 (claims : FenceBindingClaimsV2) : Except AuthorizationError Bytes := do
  requireClaim
    (claims.keyId != "" && claims.keyId.utf8ByteSize ≤ 128 && claims.operationKind != 0 &&
      claims.operationKind ≤ 4 && claims.term.ownerEpoch != 0 &&
      claims.term.authorizationRevision != 0 && claims.capability != "" &&
      claims.capability.utf8ByteSize ≤ 128 && claims.issuedAt.nanos < 1000000000 &&
      claims.expiresAt.nanos < 1000000000 && !claims.expiresAt.le claims.issuedAt)
    "fence_binding_claims_invalid"
  let out := utf8 "ocservia/fence-binding/v2\x00" ++ be 4 1
  let out ← appendString out claims.keyId
  let out := out ++ be 4 claims.operationKind ++ claims.operationId.1 ++ claims.term.fenceId.1 ++
    claims.nodeId.1 ++ claims.endpointId.1 ++ ownerBytes claims.term
  let out ← appendString out claims.capability
  return out ++ instantBytes claims.issuedAt ++ instantBytes claims.expiresAt

end Fence

/-! ## Verification -/

/-- `timestamp_exceeds_future_skew`; an instant whose limit overflows exceeds nothing. -/
def exceedsFutureSkew (issuedAt now : Instant) : Bool :=
  now.seconds.toInt + maxFutureSkewSeconds < 2 ^ 63 &&
    (now.seconds.toInt + maxFutureSkewSeconds < issuedAt.seconds.toInt ||
      (now.seconds.toInt + maxFutureSkewSeconds == issuedAt.seconds.toInt &&
        now.nanos < issuedAt.nanos))

namespace ControllerCommandKeyring

variable (P : Platform) (ring : ControllerCommandKeyring)

/-- The signature of a proof under one of the pinned keys. -/
def verifySignature (key canonical signature : Bytes) : Except AuthorizationError Unit := do
  require (signature.length == 64) .signatureMalformed
  require (P.verifyStrict key canonical signature) .signatureInvalid

def verifyConnectionFenceV2At (fence : ConnectionFenceV2) (expectedNodeId : Uuid)
    (expectedEndpointId : FixedBytes 32) (now : Instant) :
    Except AuthorizationError VerifiedConnectionFenceV2 := do
  requireClaim (now.nanos < 1000000000) "connection_fence_clock_skew"
  let claims ← Fence.connectionFenceClaimsV2 fence
  let key ← get (ring.keys.lookup claims.keyId) .unknownKey
  requireClaim (claims.nodeId == expectedNodeId) "connection_fence_node_mismatch"
  requireClaim (claims.endpointId == expectedEndpointId) "connection_fence_endpoint_mismatch"
  requireClaim (!claims.expiresAt.le now) "connection_fence_expired"
  requireClaim (!exceedsFutureSkew claims.issuedAt now) "connection_fence_clock_skew"
  let canonical ← Fence.canonicalConnectionFenceV2 claims
  verifySignature P key canonical fence.signature
  return ⟨claims.term, claims.capabilities, claims.leaseUntil, claims.expiresAt⟩

def verifyFenceBindingV2At (binding : FenceBindingV2) (expectedNodeId : Uuid)
    (expectedEndpointId : FixedBytes 32) (now : Instant) :
    Except AuthorizationError FenceBindingClaimsV2 := do
  requireClaim (now.nanos < 1000000000) "fence_binding_clock_skew"
  let claims ← Fence.fenceBindingClaimsV2 binding
  let key ← get (ring.keys.lookup claims.keyId) .unknownKey
  requireClaim (claims.nodeId == expectedNodeId) "fence_binding_node_mismatch"
  requireClaim (claims.endpointId == expectedEndpointId) "fence_binding_endpoint_mismatch"
  requireClaim (!claims.expiresAt.le now) "fence_binding_expired"
  requireClaim (!exceedsFutureSkew claims.issuedAt now) "fence_binding_clock_skew"
  let canonical ← Fence.canonicalFenceBindingV2 claims
  verifySignature P key canonical binding.signature
  return claims

/-! ## What verification establishes -/

/-- A signature of `canonical` by the pinned key of `keyId`. -/
def SignedBy (keyId : String) (canonical signature : Bytes) : Prop :=
  ∃ key, ring.keys.lookup keyId = some key ∧ P.verifyStrict key canonical signature = true

/-- What the claims of a verified fence rest on. -/
structure FenceVerified (fence : ConnectionFenceV2) (nodeId : Uuid)
    (endpointId : FixedBytes 32) (now : Instant) (claims : ConnectionFenceClaimsV2) : Prop where
  claimsOf : Fence.FenceClaimsOf fence claims
  node : claims.nodeId = nodeId
  endpoint : claims.endpointId = endpointId
  unexpired : claims.expiresAt.le now = false
  issued : exceedsFutureSkew claims.issuedAt now = false
  signed : ∃ canonical, Fence.canonicalConnectionFenceV2 claims = .ok canonical ∧
    ring.SignedBy P claims.keyId canonical fence.signature

/-- What the claims of a verified binding rest on. -/
structure BindingVerified (binding : FenceBindingV2) (nodeId : Uuid)
    (endpointId : FixedBytes 32) (now : Instant) (claims : FenceBindingClaimsV2) : Prop where
  claimsOf : Fence.BindingClaimsOf binding claims
  node : claims.nodeId = nodeId
  endpoint : claims.endpointId = endpointId
  unexpired : claims.expiresAt.le now = false
  issued : exceedsFutureSkew claims.issuedAt now = false
  signed : ∃ canonical, Fence.canonicalFenceBindingV2 claims = .ok canonical ∧
    ring.SignedBy P claims.keyId canonical binding.signature

section
variable {P} {ring}

theorem signedBy_of_verify (hkey : ring.keys.lookup keyId = some key)
    (h : verifySignature P key canonical signature = .ok u) :
    ring.SignedBy P keyId canonical signature := by
  obtain ⟨_, h⟩ := of_bind h
  exact ⟨key, hkey, require_eq_ok.1 h⟩

theorem verifyConnectionFenceV2At_ok
    (h : ring.verifyConnectionFenceV2At P fence nodeId endpointId now = .ok verified) :
    ∃ claims, FenceVerified P ring fence nodeId endpointId now claims ∧
      verified = ⟨claims.term, claims.capabilities, claims.leaseUntil, claims.expiresAt⟩ := by
  unfold verifyConnectionFenceV2At at h
  obtain ⟨_, h⟩ := of_bind h
  obtain ⟨claims, hclaims, h⟩ := bind_eq_ok.1 h
  obtain ⟨key, hkey, h⟩ := get_bind.1 h
  obtain ⟨hnode, h⟩ := require_bind.1 h
  obtain ⟨hendpoint, h⟩ := require_bind.1 h
  obtain ⟨hexpired, h⟩ := require_bind.1 h
  obtain ⟨hissued, h⟩ := require_bind.1 h
  obtain ⟨canonical, hcanonical, h⟩ := bind_eq_ok.1 h
  obtain ⟨_, hsigned, h⟩ := bind_eq_ok.1 h
  refine ⟨claims, ?_, (Except.ok.inj h).symm⟩
  exact {
    claimsOf := Fence.connectionFenceClaimsV2_ok hclaims
    node := eq_of_beq hnode
    endpoint := eq_of_beq hendpoint
    unexpired := by simpa using hexpired
    issued := by simpa using hissued
    signed := ⟨canonical, hcanonical, signedBy_of_verify hkey hsigned⟩ }

theorem verifyFenceBindingV2At_ok
    (h : ring.verifyFenceBindingV2At P binding nodeId endpointId now = .ok claims) :
    BindingVerified P ring binding nodeId endpointId now claims := by
  unfold verifyFenceBindingV2At at h
  obtain ⟨_, h⟩ := of_bind h
  obtain ⟨claims, hclaims, h⟩ := bind_eq_ok.1 h
  obtain ⟨key, hkey, h⟩ := get_bind.1 h
  obtain ⟨hnode, h⟩ := require_bind.1 h
  obtain ⟨hendpoint, h⟩ := require_bind.1 h
  obtain ⟨hexpired, h⟩ := require_bind.1 h
  obtain ⟨hissued, h⟩ := require_bind.1 h
  obtain ⟨canonical, hcanonical, h⟩ := bind_eq_ok.1 h
  obtain ⟨_, hsigned, h⟩ := bind_eq_ok.1 h
  cases h
  exact {
    claimsOf := Fence.fenceBindingClaimsV2_ok hclaims
    node := eq_of_beq hnode
    endpoint := eq_of_beq hendpoint
    unexpired := by simpa using hexpired
    issued := by simpa using hissued
    signed := ⟨canonical, hcanonical, signedBy_of_verify hkey hsigned⟩ }

end

end ControllerCommandKeyring

/-! ## A sample fence -/

/-- A fence of the owner term of `epoch` over `connection`. -/
def sampleFence (epoch : UInt64) (connection : UInt8) : ConnectionFenceV2 where
  signatureVersion := 1
  keyId := "ed25519"
  fenceId := (sampleUuid 7).1
  nodeId := (sampleUuid 3).1
  endpointId := List.replicate 32 9
  ownerInstanceId := (sampleUuid 8).1
  ownerIncarnation := 1
  ownerEpoch := epoch
  connectionId := (sampleUuid connection).1
  authorizationRevision := 1
  capabilities := ["ocserv.fencing.v2", "ocserv.users.write"]
  leaseUntil := some ⟨530, 0⟩
  issuedAt := some ⟨490, 0⟩
  expiresAt := some ⟨530, 0⟩
  signature := List.replicate 64 0

/-- The binding of the sample command to that fence. -/
def sampleBinding (epoch : UInt64) (connection : UInt8) : FenceBindingV2 where
  signatureVersion := 1
  keyId := "ed25519"
  operationKind := 1
  operationId := (sampleUuid 1).1
  fenceId := (sampleUuid 7).1
  nodeId := (sampleUuid 3).1
  endpointId := List.replicate 32 9
  ownerInstanceId := (sampleUuid 8).1
  ownerIncarnation := 1
  ownerEpoch := epoch
  connectionId := (sampleUuid connection).1
  authorizationRevision := 1
  capability := "ocserv.users.write"
  issuedAt := some ⟨490, 0⟩
  expiresAt := some ⟨530, 0⟩
  signature := List.replicate 64 0

end Ocservia
