import Ocservia.Contract.Fence

/-!
# Session and artifact grants

`command-authorization/src/lib.rs`: besides commands and fences the Controller signs the authority
of one Agent session (`SessionGrantV1`) and the right to read and consume one certificate artifact
(`ArtifactGrantV1`). Both are verified like a fence, against the pinned keys and the local clock;
the confirmation of a consumed artifact does not ask for an unexpired grant.

`verifyArtifactGrantInner_ok` is what a verified artifact grant rests on.
-/

namespace Ocservia

open Wire Checked

structure SessionGrantV1 where
  version : Int32
  keyId : String
  (protocolMajor protocolMinor : UInt32)
  (nodeId endpointId : Bytes)
  authorizationRevision : UInt64
  negotiatedCapabilities : List String
  (issuedAt expiresAt : Option Timestamp)
  signature : Bytes

structure SessionGrantClaimsV1 where
  version : Nat
  keyId : String
  (protocolMajor protocolMinor : UInt32)
  nodeId : Uuid
  endpointId : FixedBytes 32
  authorizationRevision : UInt64
  negotiatedCapabilities : List String
  (issuedAt expiresAt : Instant)
deriving DecidableEq

structure VerifiedSessionGrant where
  authorizationRevision : UInt64
  negotiatedCapabilities : List String
  expiresAtSeconds : Int64

structure ArtifactGrantV1 where
  version : Int32
  keyId : String
  (nodeId artifactId certificateId : Bytes)
  certificateVersion : UInt64
  operationId : Bytes
  (authorizedSubject purpose : String)
  maxBytes : UInt64
  (issuedAt expiresAt : Option Timestamp)
  (grantId signature : Bytes)

structure ArtifactGrantClaimsV1 where
  version : Nat
  keyId : String
  (nodeId artifactId certificateId : Uuid)
  certificateVersion : UInt64
  operationId : Uuid
  (authorizedSubject purpose : String)
  maxBytes : UInt64
  (issuedAt expiresAt : Instant)
  grantId : Uuid
deriving DecidableEq

namespace Grant

/-- `SESSION_GRANT_VERSION_V1` and `ARTIFACT_GRANT_VERSION_V1`, the wire number. -/
def versionV1 : Int32 := 1

/-- The version of a grant as a `u32`. -/
def versionClaim (version : Int32) : Except AuthorizationError Nat := do
  require (0 ≤ version.toInt) .unsupportedVersion
  return version.toInt.toNat

def sessionGrantClaimsV1 (grant : SessionGrantV1) :
    Except AuthorizationError SessionGrantClaimsV1 := do
  let issuedAt ← claimOr grant.issuedAt "session_grant_issued_at_missing"
  let expiresAt ← claimOr grant.expiresAt "session_grant_expires_at_missing"
  let version ← versionClaim grant.version
  let nodeId ← fixedClaim 16 grant.nodeId "session_grant_node_invalid"
  let endpointId ← fixedClaim 32 grant.endpointId "session_grant_endpoint_invalid"
  let issuedNanos ← timestampNanos issuedAt.nanos
  let expiresNanos ← timestampNanos expiresAt.nanos
  return {
    version
    keyId := grant.keyId
    protocolMajor := grant.protocolMajor
    protocolMinor := grant.protocolMinor
    nodeId, endpointId
    authorizationRevision := grant.authorizationRevision
    negotiatedCapabilities := grant.negotiatedCapabilities
    issuedAt := ⟨issuedAt.seconds, issuedNanos⟩
    expiresAt := ⟨expiresAt.seconds, expiresNanos⟩ }

def artifactGrantClaimsV1 (grant : ArtifactGrantV1) :
    Except AuthorizationError ArtifactGrantClaimsV1 := do
  let issuedAt ← claimOr grant.issuedAt "artifact_grant_issued_at_missing"
  let expiresAt ← claimOr grant.expiresAt "artifact_grant_expires_at_missing"
  let version ← versionClaim grant.version
  let nodeId ← fixedClaim 16 grant.nodeId "artifact_grant_node_invalid"
  let artifactId ← fixedClaim 16 grant.artifactId "artifact_grant_artifact_invalid"
  let certificateId ← fixedClaim 16 grant.certificateId "artifact_grant_certificate_invalid"
  let operationId ← fixedClaim 16 grant.operationId "artifact_grant_operation_invalid"
  let issuedNanos ← timestampNanos issuedAt.nanos
  let expiresNanos ← timestampNanos expiresAt.nanos
  let grantId ← fixedClaim 16 grant.grantId "artifact_grant_id_invalid"
  return {
    version
    keyId := grant.keyId
    nodeId, artifactId, certificateId
    certificateVersion := grant.certificateVersion
    operationId
    authorizedSubject := grant.authorizedSubject
    purpose := grant.purpose
    maxBytes := grant.maxBytes
    issuedAt := ⟨issuedAt.seconds, issuedNanos⟩
    expiresAt := ⟨expiresAt.seconds, expiresNanos⟩
    grantId }

theorem sessionGrantClaimsV1_nanos (h : sessionGrantClaimsV1 grant = .ok claims) :
    claims.issuedAt.nanos < 1000000000 ∧ claims.expiresAt.nanos < 1000000000 := by
  unfold sessionGrantClaimsV1 at h
  iterate 5 obtain ⟨_, h⟩ := of_bind h
  obtain ⟨issuedNanos, hissued, h⟩ := bind_eq_ok.1 h
  obtain ⟨expiresNanos, hexpires, h⟩ := bind_eq_ok.1 h
  cases h
  exact ⟨timestampNanos_lt hissued, timestampNanos_lt hexpires⟩

theorem artifactGrantClaimsV1_nanos (h : artifactGrantClaimsV1 grant = .ok claims) :
    claims.issuedAt.nanos < 1000000000 ∧ claims.expiresAt.nanos < 1000000000 := by
  unfold artifactGrantClaimsV1 at h
  iterate 7 obtain ⟨_, h⟩ := of_bind h
  obtain ⟨issuedNanos, hissued, h⟩ := bind_eq_ok.1 h
  obtain ⟨expiresNanos, hexpires, h⟩ := bind_eq_ok.1 h
  obtain ⟨_, h⟩ := of_bind h
  cases h
  exact ⟨timestampNanos_lt hissued, timestampNanos_lt hexpires⟩

def canonicalSessionGrantV1 (claims : SessionGrantClaimsV1) : Except AuthorizationError Bytes := do
  requireClaim
    (claims.version == 1 && claims.keyId != "" && claims.protocolMajor != 0 &&
      claims.authorizationRevision != 0 && claims.negotiatedCapabilities.length ≤ 128 &&
      !claims.expiresAt.le claims.issuedAt)
    "session_grant_claims_invalid"
  requireClaim (Fence.validCapabilities none claims.negotiatedCapabilities)
    "session_grant_capabilities_invalid"
  let out := utf8 "ocservia/controller-session-grant/v1\x00" ++ be 4 claims.version
  let out ← appendString out claims.keyId
  let out := out ++ be 4 claims.protocolMajor.toNat ++ be 4 claims.protocolMinor.toNat ++
    claims.nodeId.1 ++ claims.endpointId.1 ++ be 8 claims.authorizationRevision.toNat ++
    be 4 claims.negotiatedCapabilities.length
  let out ← Fence.appendStrings out claims.negotiatedCapabilities
  return out ++ Fence.instantBytes claims.issuedAt ++ Fence.instantBytes claims.expiresAt

def canonicalArtifactGrantV1 (claims : ArtifactGrantClaimsV1) :
    Except AuthorizationError Bytes := do
  requireClaim
    (claims.version == 1 && claims.keyId != "" && claims.keyId.utf8ByteSize ≤ 128 &&
      claims.certificateVersion != 0 && claims.authorizedSubject != "" &&
      claims.authorizedSubject.utf8ByteSize ≤ 256 && claims.purpose == "certificate_p12" &&
      claims.maxBytes != 0 && claims.maxBytes.toNat ≤ 64 * 1024 * 1024 &&
      !claims.expiresAt.le claims.issuedAt)
    "artifact_grant_claims_invalid"
  let out := utf8 "ocservia/artifact-grant/v1\x00" ++ be 4 claims.version
  let out ← appendString out claims.keyId
  let out := out ++ claims.nodeId.1 ++ claims.artifactId.1 ++ claims.certificateId.1 ++
    be 8 claims.certificateVersion.toNat ++ claims.operationId.1
  let out ← appendString out claims.authorizedSubject
  let out ← appendString out claims.purpose
  return out ++ be 8 claims.maxBytes.toNat ++ Fence.instantBytes claims.issuedAt ++
    Fence.instantBytes claims.expiresAt ++ claims.grantId.1

end Grant

namespace ControllerCommandKeyring

variable (P : Platform) (ring : ControllerCommandKeyring)

def verifySessionGrant (grant : SessionGrantV1) (expectedNodeId : Uuid)
    (expectedEndpointId : FixedBytes 32) (now : Int64) :
    Except AuthorizationError VerifiedSessionGrant := do
  require (grant.version == Grant.versionV1) .unsupportedVersion
  let key ← get (ring.keys.lookup grant.keyId) .unknownKey
  let claims ← Grant.sessionGrantClaimsV1 grant
  requireClaim (claims.nodeId == expectedNodeId) "session_grant_node_mismatch"
  requireClaim (claims.endpointId == expectedEndpointId) "session_grant_endpoint_mismatch"
  requireClaim (now.toInt < claims.expiresAt.seconds.toInt) "session_grant_expired"
  requireClaim
    (claims.issuedAt.seconds.toInt ≤ saturatingAdd now.toInt maxFutureSkewSeconds)
    "session_grant_clock_skew"
  let canonical ← Grant.canonicalSessionGrantV1 claims
  verifySignature P key canonical grant.signature
  return ⟨claims.authorizationRevision, claims.negotiatedCapabilities, claims.expiresAt.seconds⟩

section
variable (grant : ArtifactGrantV1) (expectedNodeId expectedArtifactId : Uuid)
variable (expectedPurpose : String)
variable (expectedMaxBytes : UInt64)

def verifyArtifactGrantInner (now : Int64) (requireUnexpired : Bool) :
    Except AuthorizationError ArtifactGrantClaimsV1 := do
  require (grant.version == Grant.versionV1) .unsupportedVersion
  let key ← get (ring.keys.lookup grant.keyId) .unknownKey
  let claims ← Grant.artifactGrantClaimsV1 grant
  requireClaim (claims.nodeId == expectedNodeId) "artifact_grant_node_mismatch"
  requireClaim (claims.artifactId == expectedArtifactId) "artifact_grant_artifact_mismatch"
  requireClaim (claims.purpose == expectedPurpose && claims.maxBytes == expectedMaxBytes)
    "artifact_grant_request_mismatch"
  requireClaim (!requireUnexpired || now.toInt < claims.expiresAt.seconds.toInt)
    "artifact_grant_expired"
  requireClaim
    (claims.issuedAt.seconds.toInt ≤ saturatingAdd now.toInt maxFutureSkewSeconds)
    "artifact_grant_clock_skew"
  let canonical ← Grant.canonicalArtifactGrantV1 claims
  verifySignature P key canonical grant.signature
  return claims

def verifyArtifactGrant (now : Int64) : Except AuthorizationError ArtifactGrantClaimsV1 :=
  ring.verifyArtifactGrantInner P grant expectedNodeId expectedArtifactId expectedPurpose
    expectedMaxBytes now true

def verifyArtifactGrantForConfirmation (now : Int64) :
    Except AuthorizationError ArtifactGrantClaimsV1 :=
  ring.verifyArtifactGrantInner P grant expectedNodeId expectedArtifactId expectedPurpose
    expectedMaxBytes now false

end

/-! ## What verification establishes -/

/-- What the claims of a verified artifact grant rest on. -/
structure ArtifactGrantVerified (grant : ArtifactGrantV1) (nodeId artifactId : Uuid)
    (now : Int64) (requireUnexpired : Bool) (claims : ArtifactGrantClaimsV1) : Prop where
  projected : Grant.artifactGrantClaimsV1 grant = .ok claims
  node : claims.nodeId = nodeId
  artifact : claims.artifactId = artifactId
  unexpired : requireUnexpired = true → now.toInt < claims.expiresAt.seconds.toInt
  signed : ∃ canonical, Grant.canonicalArtifactGrantV1 claims = .ok canonical ∧
    ring.SignedBy P grant.keyId canonical grant.signature

section
variable {P} {ring} {nodeId : Uuid} {now : Int64}

theorem verifyArtifactGrantInner_ok
    (h : ring.verifyArtifactGrantInner P grant nodeId artifactId purpose maxBytes now
      requireUnexpired = .ok claims) :
    ArtifactGrantVerified P ring grant nodeId artifactId now requireUnexpired claims := by
  unfold verifyArtifactGrantInner at h
  obtain ⟨_, h⟩ := of_bind h
  obtain ⟨key, hkey, h⟩ := get_bind.1 h
  obtain ⟨claims, hclaims, h⟩ := bind_eq_ok.1 h
  obtain ⟨hnode, h⟩ := require_bind.1 h
  obtain ⟨hartifact, h⟩ := require_bind.1 h
  obtain ⟨_, h⟩ := of_bind h
  obtain ⟨hexpired, h⟩ := require_bind.1 h
  obtain ⟨_, h⟩ := of_bind h
  obtain ⟨canonical, hcanonical, h⟩ := bind_eq_ok.1 h
  obtain ⟨_, hsigned, h⟩ := bind_eq_ok.1 h
  cases h
  exact {
    projected := hclaims
    node := eq_of_beq hnode
    artifact := eq_of_beq hartifact
    unexpired := by
      rintro rfl
      simpa using hexpired
    signed := ⟨canonical, hcanonical, signedBy_of_verify hkey hsigned⟩ }

end

end ControllerCommandKeyring

end Ocservia
