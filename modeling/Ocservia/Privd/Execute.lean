import Ocservia.Privd.Attestation
import Ocservia.Privd.Validate

/-!
# Executing a command in privd

`execute_command` of `privd/src/lib.rs`: privd reserves the effect in its root-owned store, calls
the adapter operation of the payload (`executeSignedPayload`), and signs the outcome
(`buildResultProof`) before it records and returns it. What the host does during one execution is an
input: the adapter's operations (`Adapter`) and the upgrade scheduler answer as they like, except
that `certificate_csr` checks its arguments first (`certificateCsr`).
-/

namespace Ocservia

open Wire

/-! ## The adapter -/

/-- `AdapterError`; an error that is made of host details keeps its text. -/
inductive AdapterError where
  | invalidResource
  | resourceMetadata (text : String)
  | resourceIo (text : String)
  | userFileFormat (text : String)
  | invalidRequest
  | staleBoot
  | unavailable
  | deadlineExceeded
  | outputLimit
  | capacityExceeded
  | commandFailed (code : Option Int32)
  | malformedOutput
  | io (text : String)
deriving DecidableEq

namespace AdapterError

def display : AdapterError → String
  | .invalidResource => "fixed resource path invalid"
  | .resourceMetadata text | .resourceIo text | .userFileFormat text => text
  | .invalidRequest => "fixed operation argument invalid"
  | .staleBoot => "session boot identity is stale"
  | .unavailable => "fixed local resource unavailable"
  | .deadlineExceeded => "fixed read operation timed out"
  | .outputLimit => "fixed read operation output limit exceeded"
  | .capacityExceeded => "authoritative state capacity exceeded"
  | .commandFailed none => "fixed read operation failed (status None)"
  | .commandFailed (some code) =>
    "fixed read operation failed (status Some(" ++ toString code ++ "))"
  | .malformedOutput => "ocserv output format unsupported"
  | .io text => "fixed local resource failed: " ++ text

/-- The kind of the `PrivdError` that an adapter error becomes. -/
def kind : AdapterError → ErrorKind
  | .invalidResource | .malformedOutput | .resourceMetadata _ | .userFileFormat _ =>
    .malformedOutput
  | .invalidRequest | .staleBoot => .invalidRequest
  | .unavailable | .io _ | .resourceIo _ => .unavailable
  | .deadlineExceeded => .deadlineExceeded
  | .outputLimit => .outputLimit
  | .capacityExceeded => .capacityExceeded
  | .commandFailed _ => .commandFailed

/-- `PrivdError::from`. -/
def toPrivdError (e : AdapterError) : PrivdError :=
  ⟨e.kind, String.ofList (e.display.toList.take 256)⟩

end AdapterError

def PrivdError.result (e : PrivdError) : PrivdResult := .error e.kind.toInt32 e.detail

structure EffectIdentity where
  (commandId idempotencyKey : Uuid)
  semanticPayloadSha256 : FixedBytes 32
  expiresAtUnixSeconds : Int64
deriving DecidableEq

structure AuthorizedEffectIdentity where
  (nodeId commandId operationId idempotencyKey : Uuid)
  semanticPayloadSha256 : FixedBytes 32
  action : String
  authorizationRevision : UInt64
  (effectKind resourceKey : String)
  effectRevision : UInt64
  expiresAtUnixSeconds : Int64
  retryIfAbsent : Bool
deriving DecidableEq

/-- `AuthorizedEffectDecision`; a stored response is what `PrivdResponse::decode` makes of it. -/
inductive AuthorizedEffectDecision where
  | execute
  | replay (stored : Option PrivdResponse)
  | pending

/-- The operations of the adapter, as the host answers them during one execution. -/
structure Adapter where
  prepareAuthorizedEffect : AuthorizedEffectIdentity → Except AdapterError AuthorizedEffectDecision
  completeAuthorizedEffect : AuthorizedEffectIdentity → PrivdResponse → Except AdapterError Unit
  replayAuthorizedEffect :
    AuthorizedEffectIdentity → Except AdapterError (Option (Option PrivdResponse))
  (sessionDisconnect sessionTerminate : String → String → Except AdapterError Bool)
  ipBanRemove : String → Except AdapterError Bool
  serviceReload : Except AdapterError Bool
  userCreate : String → String → Bytes → UInt64 → EffectIdentity → Except AdapterError Bool
  (userDisable userEnable : String → UInt64 → EffectIdentity → Except AdapterError Bool)
  userPasswordRotate : String → String → Bytes → UInt64 → EffectIdentity → Except AdapterError Bool
  groupApply : String → List String → UInt64 → EffectIdentity → Except AdapterError Bool
  configPlan : Bytes → Bytes → Except AdapterError ConfigPlanResult
  completeConfigPlan : CompleteConfigPlan → Except AdapterError ConfigPlanResult
  configApply : Bytes → Bytes → Bytes → UInt64 → EffectIdentity →
    Except AdapterError ConfigApplyResult
  completeConfigApply : CompleteConfigApply → EffectIdentity → Except AdapterError ConfigApplyResult
  /-- `openssl req` with the key of the certificate, after the checks of its directory. -/
  opensslReq : Uuid → String → List String → UInt32 → Except AdapterError Bytes
  /-- `openssl pkey` on the key of the certificate. -/
  opensslPkey : Uuid → Except AdapterError Bytes
  certificateRevoke : Bytes → UInt64 → Except AdapterError CertificateRevokeResult
  certificateP12 : Bytes → Bytes → Bytes → SealedSecretV1 → UInt64 → Uuid → Int64 →
    Except AdapterError CertificateArtifactResult

inductive UpgradeStoreError where
  | invalid | identityConflict | activeConflict | unsafeStore | package | lifecycle | io

structure UpgradeIntent where
  (operationId commandId : Uuid)
  targetVersion : String
  packageSha256 : FixedBytes 32
  architecture : String
  semanticPayloadSha256 : FixedBytes 32

/-- privd during one execution: its configuration, its attestation key and what the host does. -/
structure PrivdHost extends PrivdConfig where
  attestationKey : SigningKey
  adapter : Adapter
  /-- `UpgradeScheduler::schedule_and_trigger`. -/
  scheduleAndTrigger : UpgradeIntent → Except UpgradeStoreError Unit

namespace Privd

/-! ## Adapter operations -/

/-- A byte string of the length that an operation needs. -/
def sized (n : Nat) (value : Bytes) : Except AdapterError (FixedBytes n) :=
  if h : value.length = n then .ok ⟨value, h⟩ else .error .invalidRequest

section
variable (P : Platform)

def certificateCsr (adapter : Adapter) (p : CertificateCsr) :
    Except AdapterError CertificateCsrResult := do
  let id ← sized 16 p.certificateId
  Checked.require
    (uuidVersion p.certificateId == 7 && validDnsName p.commonName && p.dnsNames.length ≤ 32 &&
      p.dnsNames.all validDnsName && validKeyBits p.keyBits)
    .invalidRequest
  let csr ← adapter.opensslReq id p.commonName p.dnsNames p.keyBits
  Checked.require (64 ≤ csr.length && csr.length ≤ 64 * 1024) .malformedOutput
  let publicKey ← adapter.opensslPkey id
  Checked.require (publicKey.length != 0 && publicKey.length ≤ 64 * 1024) .malformedOutput
  return ⟨p.certificateId, csr, (P.sha256 publicKey).1⟩

def upgradeStoreError : UpgradeStoreError → AdapterError
  | .io | .lifecycle => .unavailable
  | .invalid | .identityConflict | .activeConflict | .unsafeStore | .package => .invalidRequest

/-- `UpgradeIntent::new`. -/
def newUpgradeIntent (claims : CommandAuthorizationV1) (p : AgentUpgrade)
    (packageSha256 : FixedBytes 32) : Except UpgradeStoreError UpgradeIntent := do
  Checked.require
    (uuidVersion claims.operationId.1 == 7 && uuidVersion claims.commandId.1 == 7 &&
      validTargetVersion p.targetVersion && validArchitecture p.architecture)
    .invalid
  return ⟨claims.operationId, claims.commandId, p.targetVersion, packageSha256, p.architecture,
    claims.semanticPayloadSha256⟩

section
variable (host : PrivdHost)
include host

def scheduleAgentUpgrade (claims : CommandAuthorizationV1) (p : AgentUpgrade) :
    Except AdapterError AgentUpgradeScheduledResult := do
  let packageSha256 ← sized 32 p.packageSha256
  let intent ← (newUpgradeIntent claims p packageSha256).mapError upgradeStoreError
  (host.scheduleAndTrigger intent).mapError upgradeStoreError
  return ⟨claims.operationId.1, p.targetVersion, p.packageSha256⟩

def adapterEffect (claims : CommandAuthorizationV1) : EffectIdentity :=
  ⟨claims.commandId, claims.idempotencyKey, claims.semanticPayloadSha256, claims.expiresAtSeconds⟩

section
variable (command : CommandEnvelope)

/-- `execute_signed_payload`, and `schedule_agent_upgrade`: the name of the operation and its
result; validation has checked passwords and expiry. -/
def executeSignedPayload
    (claims : CommandAuthorizationV1) : String × Except AdapterError PrivdResult :=
  let effect := adapterEffect claims
  let secret (s : Option SealedSecretV1) : SealedSecretV1 := s.getD ⟨0, 0, "", []⟩
  match command.payload with
  | some (.sessionDisconnect p) =>
    ("session_disconnect", (host.adapter.sessionDisconnect p.sessionId p.bootId).map .mutation)
  | some (.sessionTerminate p) =>
    ("session_terminate", (host.adapter.sessionTerminate p.sessionId p.bootId).map .mutation)
  | some (.ipBanRemove ip) => ("ip_ban_remove", (host.adapter.ipBanRemove ip).map .mutation)
  | some .serviceReload => ("service_reload", host.adapter.serviceReload.map .mutation)
  | some (.userCreate p) =>
    ("user_create", (host.adapter.userCreate p.username (secret p.sealedPasswordV1).keyId
      (secret p.sealedPasswordV1).ciphertext p.desiredRevision effect).map .mutation)
  | some (.userDisable p) =>
    ("user_disable", (host.adapter.userDisable p.username p.desiredRevision effect).map .mutation)
  | some (.userEnable p) =>
    ("user_enable", (host.adapter.userEnable p.username p.desiredRevision effect).map .mutation)
  | some (.userPasswordRotate p) =>
    ("user_password_rotate",
      (host.adapter.userPasswordRotate p.username (secret p.sealedPasswordV1).keyId
        (secret p.sealedPasswordV1).ciphertext p.desiredRevision effect).map .mutation)
  | some (.groupApply p) =>
    ("group_apply",
      (host.adapter.groupApply p.groupName p.members p.desiredRevision effect).map .mutation)
  | some (.configPlan p) =>
    ("config_plan", (host.adapter.configPlan p.candidate p.candidateHash).map .configPlan)
  | some (.completeConfigPlan p) =>
    ("config_plan", (host.adapter.completeConfigPlan p).map .configPlan)
  | some (.completeConfigApply p) =>
    ("config_apply", (host.adapter.completeConfigApply p effect).map .configApply)
  | some (.configApply p) =>
    ("config_apply", (host.adapter.configApply p.candidate p.candidateHash p.expectedCurrentHash
      p.desiredRevision effect).map .configApply)
  | some (.certificateCsr p) =>
    ("certificate_csr", (certificateCsr P host.adapter p).map .certificateCsr)
  | some (.certificateRevoke p) =>
    ("certificate_revoke",
      (host.adapter.certificateRevoke p.certificateId p.certificateVersion).map .certificateRevoke)
  | some (.certificateP12 p) =>
    ("certificate_p12", (host.adapter.certificateP12 p.certificateId p.artifactId
      p.certificateChainPem (secret p.sealedPasswordV1) p.certificateVersion claims.operationId
      (p.artifactExpiresAt.getD ⟨0, 0⟩).seconds).map .certificateP12)
  | some (.agentUpgrade p) =>
    ("agent_upgrade_prepare", (scheduleAgentUpgrade host claims p).map .agentUpgradeScheduled)
  | some .simulationProbe | some .syntheticNoop | some (.syntheticEcho _) | none =>
    ("privileged_command", .error .invalidRequest)

def finishOperation (operation : String) : Except AdapterError PrivdResult → PrivdResult
  | .error e =>
    PrivdError.result { e.toPrivdError with detail := operation ++ ": " ++ e.toPrivdError.detail }
  | .ok (.error kind detail) => .error kind (operation ++ ": " ++ detail)
  | .ok result => result

/-- The outcome of the operation of a command. -/
def outcome (claims : CommandAuthorizationV1) : PrivdResult :=
  finishOperation (executeSignedPayload P host command claims).1
    (executeSignedPayload P host command claims).2

/-! ## The receipt -/

def terminalResultErrorCode (kind : Int32) : Option String :=
  match (ErrorKind.tryFrom kind).getD .unspecified with
  | .capacityExceeded => some "capacity_exceeded"
  | .invalidRequest | .permissionDenied | .malformedOutput => some "privd_rejected"
  | _ => none

def exactResultBytes : PrivdResult → Option Bytes
  | .error kind _ => (terminalResultErrorCode kind).map fun _ => []
  | .observation => none
  | result => some (P.encodeResult result)

def privilegedResultKind : PrivdResult → Option PrivilegedResultKind
  | .mutation _ => some .mutation
  | .configPlan _ => some .configPlan
  | .configApply _ => some .configApply
  | .certificateCsr _ => some .certificateCsr
  | .certificateP12 _ => some .certificateP12
  | .certificateRevoke _ => some .certificateRevoke
  | .agentUpgradeScheduled _ => some .agentUpgradeScheduled
  | .error kind _ => (terminalResultErrorCode kind).map fun _ => .error
  | .observation => none

def privilegedCommandKind : Option Payload → Option PrivilegedCommandKind
  | some (.sessionDisconnect _) => some .sessionDisconnect
  | some (.sessionTerminate _) => some .sessionTerminate
  | some (.ipBanRemove _) => some .ipBanRemove
  | some .serviceReload => some .serviceReload
  | some (.userCreate _) => some .userCreate
  | some (.userDisable _) => some .userDisable
  | some (.userEnable _) => some .userEnable
  | some (.userPasswordRotate _) => some .userPasswordRotate
  | some (.groupApply _) => some .groupApply
  | some (.configPlan _) | some (.completeConfigPlan _) => some .configPlan
  | some (.configApply _) | some (.completeConfigApply _) => some .configApply
  | some (.certificateCsr _) => some .certificateCsr
  | some (.certificateP12 _) => some .certificateP12
  | some (.certificateRevoke _) => some .certificateRevoke
  | some (.agentUpgrade _) => some .agentUpgrade
  | some .simulationProbe | some .syntheticNoop | some (.syntheticEcho _) | none => none

/-- A binding to a certificate without a certificate request. -/
def plainBinding (certificateId effectRecordId : Bytes) : PrivdCertificateReceiptBindingV1 :=
  ⟨certificateId, [], [], [], effectRecordId⟩

/-- `certificate_binding`; the inner option is the binding of the receipt. -/
def certificateBinding (result : PrivdResult)
    (effectRecordId : Bytes) : Option (Option PrivdCertificateReceiptBindingV1) :=
  match command.payload, result with
  | some (.certificateCsr request), .certificateCsr response =>
    match Attestation.requestedSubjectDigest P request with
    | .ok subject => some (some ⟨request.certificateId, (P.sha256 response.csrDer).1,
        response.publicKeySha256, subject.1, effectRecordId⟩)
    | .error _ => none
  | some (.certificateCsr request), .error kind _ =>
    if (terminalResultErrorCode kind).isSome then
      some (some (plainBinding request.certificateId effectRecordId))
    else none
  | some (.certificateP12 request), _ =>
    some (some (plainBinding request.certificateId effectRecordId))
  | some (.certificateRevoke request), _ =>
    some (some (plainBinding request.certificateId effectRecordId))
  | some (.certificateCsr _), _ => none
  | _, _ => some none

/-- The root effect record of a command. -/
def effectRecordId (nodeId : Uuid) (claims : CommandAuthorizationV1)
    (binding : CommandEffectBinding) : FixedBytes 32 :=
  P.sha256 (utf8 "ocservia/privd-root-effect-record/v1\x00" ++ nodeId.1 ++ claims.commandId.1 ++
    claims.operationId.1 ++ claims.idempotencyKey.1 ++ utf8 binding.effectKind ++
    be 8 binding.resourceKey.utf8ByteSize ++ utf8 binding.resourceKey ++
    be 8 binding.effectRevision.toNat)

/-- The code that a receipt binds: of a terminal error, and empty for a typed result. -/
def resultErrorCode : PrivdResult → Option String
  | .error kind _ => terminalResultErrorCode kind
  | _ => some ""

def terminalState : PrivdResult → CommandResultState
  | .error _ _ => .failed
  | _ => .succeeded

/-- What a receipt says about the result. -/
structure ResultClaims where
  commandKind : PrivilegedCommandKind
  resultKind : PrivilegedResultKind
  state : CommandResultState
  resultBytes : Bytes
  errorCode : String
  certificate : Option PrivdCertificateReceiptBindingV1

section
variable (claims : CommandAuthorizationV1) (accepted : Timestamp)

section
variable (binding : CommandEffectBinding)

/-- The receipt of `build_result_proof`. -/
def resultReceipt (completed : HostTime) (result : ResultClaims) : PrivdResultReceiptV1 where
  receiptVersion := privdReceiptVersionV1
  nodeId := host.nodeId.1
  privdAttestationKeyId := Attestation.keyId P host.attestationKey.verifyingKey
  commandId := claims.commandId.1
  operationId := claims.operationId.1
  idempotencyKey := claims.idempotencyKey.1
  semanticPayloadHashVersion := Int32.ofNat claims.semanticHashVersion
  semanticPayloadSha256 := claims.semanticPayloadSha256.1
  commandKind := result.commandKind.toInt32
  resultKind := result.resultKind.toInt32
  terminalState := result.state.toInt32
  resultBytesSha256 := (P.sha256 result.resultBytes).1
  errorCodeSha256 := (P.sha256 (utf8 result.errorCode)).1
  effectRecordId := (effectRecordId P host.nodeId claims binding).1
  effectSequence := max (max binding.effectRevision claims.expectedRevision) 1
  acceptedAt := some accepted
  completedAt := some completed.timestamp
  replayed := false
  certificate := result.certificate

/-- The claims that `build_result_proof` makes of a result. -/
def resultClaims (result : PrivdResult) : Option ResultClaims := do
  let resultBytes ← exactResultBytes P result
  let certificate ← certificateBinding P command result
    (effectRecordId P host.nodeId claims binding).1
  let commandKind ← privilegedCommandKind command.payload
  let resultKind ← privilegedResultKind result
  let errorCode ← resultErrorCode result
  return ⟨commandKind, resultKind, terminalState result, resultBytes, errorCode, certificate⟩

def buildResultProof (result : PrivdResult) (completed : HostTime) : Option PrivilegedResultProof :=
  if completed.sinceEpoch ∧ claims.semanticHashVersion < 2 ^ 31 then
    match resultClaims P host command claims binding result with
    | none => none
    | some r =>
      (Attestation.signReceipt P (resultReceipt P host claims accepted binding completed r)
        host.attestationKey).toOption
  else none

/-! ## The command -/

def authorizedEffect : AuthorizedEffectIdentity where
  nodeId := claims.nodeId
  commandId := claims.commandId
  operationId := claims.operationId
  idempotencyKey := claims.idempotencyKey
  semanticPayloadSha256 := claims.semanticPayloadSha256
  action := claims.action
  authorizationRevision := claims.expectedRevision
  effectKind := binding.effectKind
  resourceKey := binding.resourceKey
  effectRevision := binding.effectRevision
  expiresAtUnixSeconds := claims.expiresAtSeconds
  retryIfAbsent := CommandDeliveryMode.tryFrom command.deliveryMode == some .retryIfEffectAbsent

end

def fixedHostEffect : Bool :=
  match command.payload with
  | some (.sessionDisconnect _) | some (.sessionTerminate _) | some (.ipBanRemove _)
  | some .serviceReload => true
  | _ => false

def responseError (kind : ErrorKind) (detail : String) : PrivdResponse :=
  ⟨none, some (PrivdError.result ⟨kind, detail⟩)⟩

def adapterFailure (e : AdapterError) : PrivdResponse := ⟨none, some e.toPrivdError.result⟩

def decodeCachedResponse : Option PrivdResponse → PrivdResponse
  | some response =>
    if response.result.isSome && response.privilegedResultProof.isSome then response
    else responseError .unavailable "cached authorized effect result invalid"
  | none => responseError .unavailable "cached authorized effect result invalid"

def replayOnlyResponse (adapter : Adapter) (identity : AuthorizedEffectIdentity) : PrivdResponse :=
  match adapter.replayAuthorizedEffect identity with
  | .ok (some stored) => decodeCachedResponse stored
  | .ok none => responseError .unavailable "authorized effect outcome requires reconciliation"
  | .error e => adapterFailure e

/-- An error that decides nothing; it is returned without a receipt. -/
def undecided : PrivdResult → Bool
  | .error kind _ => (terminalResultErrorCode kind).isNone
  | _ => false

/-- `execute_command`, from the operation on: the outcome is attested and recorded. -/
def attestOutcome (binding : Option CommandEffectBinding) (completed : HostTime) : PrivdResponse :=
  let result := outcome P host command claims
  if undecided result then ⟨none, some result⟩
  else
    match binding with
    | none => responseError .unavailable "root effect identity unavailable"
    | some binding =>
      match buildResultProof P host command claims accepted binding result completed with
      | none => responseError .unavailable "result attestation unavailable"
      | some proof =>
        match host.adapter.completeAuthorizedEffect (authorizedEffect command claims binding)
            ⟨some proof, some result⟩ with
        | .error e => adapterFailure e
        | .ok () => ⟨some proof, some result⟩

/-- Whether `execute_command` reaches the operation, or the response instead. -/
def reserveEffect : Option CommandEffectBinding → Option PrivdResponse
  | none => none
  | some binding =>
    let identity := authorizedEffect command claims binding
    if identity.retryIfAbsent &&
        (fixedHostEffect command || command.protocolVersion == legacyCommandProtocolVersion) then
      some (replayOnlyResponse host.adapter identity)
    else
      match host.adapter.prepareAuthorizedEffect identity with
      | .ok .execute => none
      | .ok (.replay stored) => some (decodeCachedResponse stored)
      | .ok .pending =>
        -- The intent store is the idempotency authority of an upgrade: its retry goes on.
        match command.payload with
        | some (.agentUpgrade _) => none
        | _ => some (responseError .unavailable "authorized effect outcome requires reconciliation")
      | .error e => some (adapterFailure e)

def executeCommand (completed : HostTime) : PrivdResponse :=
  match reserveEffect host command claims (effectBinding P command claims) with
  | some response => response
  | none => attestOutcome P host command claims accepted (effectBinding P command claims) completed

end

end

end

end

end Privd

/-- A host whose root store works and whose `openssl` makes keys. -/
def sampleAdapter : Adapter where
  prepareAuthorizedEffect _ := .ok .execute
  completeAuthorizedEffect _ _ := .ok ()
  replayAuthorizedEffect _ := .ok none
  sessionDisconnect _ _ := .ok true
  sessionTerminate _ _ := .ok true
  ipBanRemove _ := .ok true
  serviceReload := .ok true
  userCreate _ _ _ _ _ := .ok true
  userDisable _ _ _ := .ok true
  userEnable _ _ _ := .ok true
  userPasswordRotate _ _ _ _ _ := .ok true
  groupApply _ _ _ _ := .ok true
  configPlan _ _ := .error .unavailable
  completeConfigPlan _ := .error .unavailable
  configApply _ _ _ _ _ := .error .unavailable
  completeConfigApply _ _ := .error .unavailable
  opensslReq _ _ _ _ := .ok (List.replicate 64 48)
  opensslPkey _ := .ok [48]
  certificateRevoke _ _ := .error .unavailable
  certificateP12 _ _ _ _ _ _ _ := .error .unavailable

end Ocservia
