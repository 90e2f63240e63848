import Ocservia.Contract.Envelope

/-!
# Privileged results and their receipts

The messages with which privd answers a command (`agent-protocol/src/lib.rs`): the typed result or
error, and the root-signed proof of a terminal outcome (`PrivilegedResultProof` with its
`PrivdResultReceiptV1`). The response variants that only answer reads are one constructor
(`PrivdResult.observation`): no command outcome is made from them.

`Platform` collects the code outside this repository that the command path calls.
-/

namespace Ocservia

/-! ## Enumerations -/

inductive CommandResultState where
  | unspecified | succeeded | failed | unknown | rejected
deriving DecidableEq

/-- The number of a result state on the wire. -/
def CommandResultState.toInt32 : CommandResultState → Int32
  | .unspecified => 0
  | .succeeded => 1
  | .failed => 2
  | .unknown => 3
  | .rejected => 4

def CommandResultState.tryFrom (n : Int32) : Option CommandResultState :=
  [unspecified, succeeded, failed, unknown, rejected].find? (·.toInt32 = n)

/-- The wire number of `PrivdReceiptVersion::V1`. -/
def privdReceiptVersionV1 : Int32 := 1

inductive PrivilegedCommandKind where
  | unspecified | sessionDisconnect | sessionTerminate | ipBanRemove | serviceReload | userCreate
  | userDisable | userEnable | userPasswordRotate | groupApply | configPlan | configApply
  | certificateCsr | certificateP12 | certificateRevoke | agentUpgrade
deriving DecidableEq

/-- The number of a command kind on the wire. -/
def PrivilegedCommandKind.toInt32 : PrivilegedCommandKind → Int32
  | .unspecified => 0
  | .sessionDisconnect => 1
  | .sessionTerminate => 2
  | .ipBanRemove => 3
  | .serviceReload => 4
  | .userCreate => 5
  | .userDisable => 6
  | .userEnable => 7
  | .userPasswordRotate => 8
  | .groupApply => 9
  | .configPlan => 10
  | .configApply => 11
  | .certificateCsr => 12
  | .certificateP12 => 13
  | .certificateRevoke => 14
  | .agentUpgrade => 15

def PrivilegedCommandKind.tryFrom (n : Int32) : Option PrivilegedCommandKind :=
  [unspecified, sessionDisconnect, sessionTerminate, ipBanRemove, serviceReload, userCreate,
    userDisable, userEnable, userPasswordRotate, groupApply, configPlan, configApply,
    certificateCsr, certificateP12, certificateRevoke, agentUpgrade].find? (·.toInt32 = n)

theorem PrivilegedCommandKind.tryFrom_toInt32 (kind : PrivilegedCommandKind) :
    tryFrom kind.toInt32 = some kind := by
  cases kind <;> decide

inductive PrivilegedResultKind where
  | unspecified | mutation | configPlan | configApply | certificateCsr | certificateP12
  | certificateRevoke | error | agentUpgradeScheduled
deriving DecidableEq

/-- The number of a result kind on the wire. -/
def PrivilegedResultKind.toInt32 : PrivilegedResultKind → Int32
  | .unspecified => 0
  | .mutation => 1
  | .configPlan => 2
  | .configApply => 3
  | .certificateCsr => 4
  | .certificateP12 => 5
  | .certificateRevoke => 6
  | .error => 7
  | .agentUpgradeScheduled => 8

def PrivilegedResultKind.tryFrom (n : Int32) : Option PrivilegedResultKind :=
  [unspecified, mutation, configPlan, configApply, certificateCsr, certificateP12,
    certificateRevoke, error, agentUpgradeScheduled].find? (·.toInt32 = n)

theorem PrivilegedResultKind.tryFrom_toInt32 (kind : PrivilegedResultKind) :
    tryFrom kind.toInt32 = some kind := by
  cases kind <;> decide

inductive ErrorKind where
  | unspecified | invalidRequest | permissionDenied | deadlineExceeded | commandFailed
  | outputLimit | malformedOutput | unavailable | capacityExceeded
deriving DecidableEq

def ErrorKind.tryFrom (n : Int32) : Option ErrorKind :=
  if n = 0 then some .unspecified
  else if n = 1 then some .invalidRequest
  else if n = 2 then some .permissionDenied
  else if n = 3 then some .deadlineExceeded
  else if n = 4 then some .commandFailed
  else if n = 5 then some .outputLimit
  else if n = 6 then some .malformedOutput
  else if n = 7 then some .unavailable
  else if n = 8 then some .capacityExceeded
  else none

/-- The number of an error kind on the wire. -/
def ErrorKind.toInt32 : ErrorKind → Int32
  | .unspecified => 0
  | .invalidRequest => 1
  | .permissionDenied => 2
  | .deadlineExceeded => 3
  | .commandFailed => 4
  | .outputLimit => 5
  | .malformedOutput => 6
  | .unavailable => 7
  | .capacityExceeded => 8

/-! ## Results -/

structure ConfigPlanResult where
  candidateHash : Bytes
  diffRedacted : String
  warnings : List String
  (currentUnchanged stagingCleaned : Bool)
  (currentHash materializedHash : Bytes)
deriving DecidableEq

structure ConfigApplyResult where
  (candidateHash previousHash observedHash : Bytes)
  appliedRevision : UInt64
  (healthy rolledBack failedCritical : Bool)
  failureCode : String
deriving DecidableEq

structure CertificateCsrResult where
  (certificateId csrDer publicKeySha256 : Bytes)
deriving DecidableEq

structure CertificateArtifactResult where
  (certificateId artifactId artifactSha256 : Bytes)
  artifactSize : UInt64
deriving DecidableEq

structure CertificateRevokeResult where
  certificateId : Bytes
  keyRemoved : Bool
deriving DecidableEq

structure AgentUpgradeScheduledResult where
  operationId : Bytes
  targetVersion : String
  packageSha256 : Bytes
deriving DecidableEq

/-- `privd_response::Result`. -/
inductive PrivdResult where
  | mutation (applied : Bool)
  | configPlan (result : ConfigPlanResult)
  | configApply (result : ConfigApplyResult)
  | certificateCsr (result : CertificateCsrResult)
  | certificateRevoke (result : CertificateRevokeResult)
  | certificateP12 (result : CertificateArtifactResult)
  | agentUpgradeScheduled (result : AgentUpgradeScheduledResult)
  | error (kind : Int32) (detail : String)
  | observation
deriving DecidableEq

/-! ## Receipts -/

structure PrivdCertificateReceiptBindingV1 where
  (certificateId csrDerSha256 publicKeySha256 requestedSubjectSha256 rootEffectRecordId : Bytes)
deriving DecidableEq

structure PrivdResultReceiptV1 where
  receiptVersion : Int32
  nodeId : Bytes
  privdAttestationKeyId : String
  (commandId operationId idempotencyKey : Bytes)
  semanticPayloadHashVersion : Int32
  semanticPayloadSha256 : Bytes
  (commandKind resultKind terminalState : Int32)
  (resultBytesSha256 errorCodeSha256 effectRecordId : Bytes)
  effectSequence : UInt64
  (acceptedAt completedAt : Option Timestamp)
  replayed : Bool
  certificate : Option PrivdCertificateReceiptBindingV1
deriving DecidableEq

structure PrivilegedResultProof where
  version : Int32
  receiptV1 : Option PrivdResultReceiptV1
  signature : Bytes
deriving DecidableEq

structure CommandResult where
  (commandId idempotencyKey payloadSha256 : Bytes)
  state : Int32
  result : Bytes
  errorCode : String
  (acceptedAt completedAt : Option Timestamp)
  replayed : Bool
  semanticPayloadHashVersion : Int32
  privilegedResultProof : Option PrivilegedResultProof

/-- `PrivdResponse`, without the request id that pairs it with its request. -/
structure PrivdResponse where
  privilegedResultProof : Option PrivilegedResultProof
  result : Option PrivdResult
deriving DecidableEq

/-! ## The platform -/

/-- What is called outside this repository: digests, signatures, encodings and parsers. -/
structure Platform where
  sha256 : Bytes → FixedBytes 32
  /-- `VerifyingKey::verify_strict`, with the key and the signature as bytes. -/
  verifyStrict : Bytes → Bytes → Bytes → Bool
  /-- `Message::encoded_len` of an envelope. -/
  encodedLen : CommandEnvelope → Nat
  /-- `Message::encode_to_vec` of the message in a result variant. -/
  encodeResult : PrivdResult → Bytes
  /-- `proto.Unmarshal` of a `ConfigApplyResult`. -/
  decodeConfigApplyResult : Bytes → Option ConfigApplyResult
  /-- `Message::encode_to_vec` of a proof. -/
  encodeProof : PrivilegedResultProof → Bytes
  /-- `Uuid::parse_str(..).is_ok()`. -/
  uuidParses : String → Bool
  /-- `Uuid::to_string`. -/
  uuidText : Uuid → String
  /-- `IpAddr::from_str(..)`, printed back. -/
  canonicalIp : String → Option String
  /-- `agent_upgrade::runtime_architecture()`. -/
  runtimeArchitecture : Option String

end Ocservia
