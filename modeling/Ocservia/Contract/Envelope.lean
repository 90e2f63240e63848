import Ocservia.Lib.Wire

/-!
# The command envelope

The typed messages of `proto/ocserv/platform/agent/v1/agent.proto` that a command is made of: the
envelope, its payload variants, and the enumerations they carry. A protobuf enumeration travels as
a 32-bit number that need not be one of the named values; a field of such a type keeps the number,
and the named values are recovered where the source converts it (`tryFrom`).

Text is `String`, byte fields are `Bytes`, and integers have the width of the wire.
-/

namespace Ocservia

/-! ## Enumerations -/

inductive CommandDeliveryMode where
  | unspecified | executeOrReplay | reconcileOnly | retryIfEffectAbsent
deriving DecidableEq

namespace CommandDeliveryMode

/-- The number of a delivery mode on the wire. -/
def toInt32 : CommandDeliveryMode → Int32
  | .unspecified => 0
  | .executeOrReplay => 1
  | .reconcileOnly => 2
  | .retryIfEffectAbsent => 3

/-- The delivery mode of a wire number. -/
def tryFrom (n : Int32) : Option CommandDeliveryMode :=
  if n = 0 then some .unspecified
  else if n = 1 then some .executeOrReplay
  else if n = 2 then some .reconcileOnly
  else if n = 3 then some .retryIfEffectAbsent
  else none

end CommandDeliveryMode

inductive SemanticPayloadHashVersion where
  | unspecified | v1 | v2
deriving DecidableEq

namespace SemanticPayloadHashVersion

/-- The number of a hash version on the wire. -/
def toInt32 : SemanticPayloadHashVersion → Int32
  | .unspecified => 0
  | .v1 => 1
  | .v2 => 2

/-- The hash version of a wire number. -/
def tryFrom (n : Int32) : Option SemanticPayloadHashVersion :=
  if n = 0 then some .unspecified
  else if n = 1 then some .v1
  else if n = 2 then some .v2
  else none

theorem eq_of_tryFrom (h : tryFrom n = some v) : n = v.toInt32 := by
  unfold tryFrom at h
  split at h
  · cases h; assumption
  split at h
  · cases h; assumption
  split at h
  · cases h; assumption
  · cases h

end SemanticPayloadHashVersion

inductive SealedSecretPurpose where
  | unspecified | userPassword | certificateP12Password

/-- The number of a secret's purpose on the wire. -/
def SealedSecretPurpose.toInt32 : SealedSecretPurpose → Int32
  | .unspecified => 0
  | .userPassword => 1
  | .certificateP12Password => 2

/-- The wire number of `SealedSecretVersion::V1`. -/
def sealedSecretVersionV1 : Int32 := 1

/-- The wire number of `CommandAuthorizationVersion::V1`. -/
def commandAuthorizationVersionV1 : Int32 := 1

/-! ## Messages -/

structure Timestamp where
  seconds : Int64
  nanos : Int32
deriving DecidableEq

structure SealedSecretV1 where
  (version purpose : Int32)
  keyId : String
  ciphertext : Bytes
deriving DecidableEq

/-- The fields of `SessionDisconnect` and of `SessionTerminate`. -/
structure SessionRef where
  (sessionId bootId : String)
deriving DecidableEq

/-- The fields of `UserCreate` and of `UserPasswordRotate`. -/
structure UserSecret where
  username : String
  sealedPassword : Bytes
  secretKeyId : String
  desiredRevision : UInt64
  sealedPasswordV1 : Option SealedSecretV1
deriving DecidableEq

/-- The fields of `UserDisable` and of `UserEnable`. -/
structure UserRef where
  username : String
  desiredRevision : UInt64
deriving DecidableEq

structure GroupApply where
  groupName : String
  members : List String
  desiredRevision : UInt64
deriving DecidableEq

structure ConfigPlan where
  (candidate candidateHash : Bytes)
  expectedRevision : UInt64
deriving DecidableEq

structure ConfigApply where
  (candidateHash candidate expectedCurrentHash : Bytes)
  desiredRevision : UInt64
deriving DecidableEq

structure NodeLocalTlsReference where
  secretRefId : Bytes
  version : String
  (certificateSha256 spkiSha256 caSha256 : Bytes)
deriving DecidableEq

/-- The value of a `CompleteConfigDirective`. -/
inductive DirectiveValue where
  | literal (value : String)
  | tls (reference : NodeLocalTlsReference)
deriving DecidableEq

structure CompleteConfigDirective where
  name : String
  value : Option DirectiveValue
deriving DecidableEq

structure CompleteConfigCandidate where
  nodeId : Bytes
  expectedRevision : UInt64
  directives : List CompleteConfigDirective
deriving DecidableEq

structure CompleteConfigPlan where
  candidate : Option CompleteConfigCandidate
  candidateHash : Bytes
deriving DecidableEq

structure CompleteConfigApply where
  candidate : Option CompleteConfigCandidate
  (candidateHash expectedCurrentHash materializedHash : Bytes)
  desiredRevision : UInt64
  planId : Bytes
  planExpiresAt : Option Timestamp
deriving DecidableEq

structure CertificateCsr where
  certificateId : Bytes
  commonName : String
  dnsNames : List String
  keyBits : UInt32
deriving DecidableEq

structure CertificateP12 where
  (certificateId certificateChainPem sealedPassword : Bytes)
  secretKeyId : String
  artifactId : Bytes
  sealedPasswordV1 : Option SealedSecretV1
  certificateVersion : UInt64
  artifactExpiresAt : Option Timestamp
deriving DecidableEq

structure CertificateRevoke where
  certificateId : Bytes
  reason : String
  certificateVersion : UInt64
deriving DecidableEq

structure AgentUpgrade where
  targetVersion : String
  packageSha256 : Bytes
  architecture : String
deriving DecidableEq

/-- The `payload` variants of a command envelope. -/
inductive Payload where
  | sessionDisconnect (p : SessionRef)
  | userCreate (p : UserSecret)
  | userDisable (p : UserRef)
  | configPlan (p : ConfigPlan)
  | configApply (p : ConfigApply)
  | serviceReload
  | simulationProbe
  | syntheticNoop
  | syntheticEcho (message : String)
  | sessionTerminate (p : SessionRef)
  | ipBanRemove (ip : String)
  | userPasswordRotate (p : UserSecret)
  | groupApply (p : GroupApply)
  | userEnable (p : UserRef)
  | certificateCsr (p : CertificateCsr)
  | certificateP12 (p : CertificateP12)
  | certificateRevoke (p : CertificateRevoke)
  | agentUpgrade (p : AgentUpgrade)
  | completeConfigPlan (p : CompleteConfigPlan)
  | completeConfigApply (p : CompleteConfigApply)
deriving DecidableEq

/-- A payload whose effect is the journal's own: it is executed by the Agent itself. -/
def Payload.synthetic : Payload → Bool
  | .syntheticNoop | .syntheticEcho _ => true
  | _ => false

structure CommandAuthorizationProof where
  version : Int32
  keyId : String
  signature : Bytes
deriving DecidableEq

/-- `CommandEnvelope`, without the owner-fence proofs, which travel beside the command. -/
structure CommandEnvelope where
  protocolVersion : String
  (messageId commandId idempotencyKey nodeId : Bytes)
  sequence : UInt64
  (issuedAt expiresAt : Option Timestamp)
  expectedRevision : UInt64
  (traceparent actorId reason : String)
  payload : Option Payload
  (deliveryMode semanticPayloadHashVersion : Int32)
  (semanticPayloadSha256 operationId : Bytes)
  (action requiredCapability : String)
  (approvalId approvalRequestSha256 : Bytes)
  authorization : Option CommandAuthorizationProof
deriving DecidableEq

/-- The delivery mode of an envelope; a number outside the enumeration counts as unspecified. -/
def CommandEnvelope.mode (e : CommandEnvelope) : CommandDeliveryMode :=
  (CommandDeliveryMode.tryFrom e.deliveryMode).getD .unspecified

/-- A version 7 UUID. -/
def sampleUuid (n : UInt8) : Uuid :=
  ⟨[n, 0, 0, 0, 0, 0, 0x70, 0, 0x80, 0, 0, 0, 0, 0, 0, 0], rfl⟩

end Ocservia
