import Ocservia.Controller.Config
import Ocservia.Controller.Receipts
import Ocservia.Controller.SemanticPayload

/-!
# Ingestion of command results

`IngestCommandResult` of `internal/transportevents/result.go`, which applies one result message
inside the transaction of its transport event. The message is checked against the stored command
(`checkMessage`, `checkRow`, `checkFields`, `checkHash`), its receipt is verified
(`Receipts.verifyResult`), the state that it reports is normalized (`effectiveState`), compared with
the state that the command already has (`contradiction`), and then stored and applied
(`applyResult`).

A call of the store can fail (`ResultEvent.faults`), and an error leaves the database as it was. The
row of `operations` is kept next to its command. The updates of the configuration, certificate,
artifact and upgrade tables are recorded as `Projection`s. Rows that only reports read and the
dispatch rows are left out, but for the failures of their calls.
-/

namespace Ocservia

open Wire Checked Except

/-! ## The database -/

/-- A `timestamptz` value. -/
inductive StoredTime where
  | null | negativeInfinity | positiveInfinity
  | finite (t : GoTime)
deriving DecidableEq

/-- `value.FromTime` accepts the time: its microseconds since 2000 are in range. -/
def storable (t : GoTime) : Bool :=
  -211813488000000000 ≤ t / 1000 - 946684800 * 10 ^ 6 &&
    t / 1000 - 946684800 * 10 ^ 6 < 9223371331200000000

/-- A row of `commands` with the state of its operation. -/
structure CommandRow where
  nodeId : Uuid
  /-- The stored envelope, when its bytes decode. -/
  envelope : Option StoredEnvelope
  state : CommandStatus
  /-- `operations.state`. -/
  operation : CommandStatus
  createdAt : StoredTime
  /-- `details_compacted_at IS NOT NULL`. -/
  compacted : Bool
deriving DecidableEq

/-- A row of `agent_command_results`. -/
structure ResultRow where
  (eventId commandId : Uuid)
  (idempotencyKey payloadHash : Bytes)
  hashVersion : Int32
  state : CommandStatus
  bytes : Bytes
  errorCode : String
  acceptedAt : Option Timestamp
  completedAt : Timestamp
  replayed : Bool
  /-- The receipt columns, which have no certificate binding. -/
  verification : Verification

/-- The row is a verified receipt with the identity of `v`. -/
def ResultRow.holdsReceipt (row : ResultRow) (v : Verification) : Bool :=
  row.verification.status == .verified && row.verification.keyId == v.keyId &&
    row.verification.effectRecordId == v.effectRecordId &&
    row.verification.effectSequence == v.effectSequence

/-- `certificates.state`, as results set it. -/
inductive CertificateProgress where
  | failed | unknown | csrReady | revoking | revoked
deriving DecidableEq

/-- `artifact_operations.state`, as results set it. -/
inductive ArtifactProgress where
  | failed | pending | ready

/-- An update of a table that follows the outcome of a command. -/
inductive Projection where
  /-- `ConfigOutcome`. -/
  | config (state : ApplyState) (failureCode : String) (revision : UInt64) (candidateHash : Bytes)
  /-- `CSROutcome`, with the receipt that vouches for the request. -/
  | csr (certificateId : Bytes) (state : CertificateProgress)
      (result : Option CertificateCsrResult) (receipt : Option Verification)
  /-- `RevokeOutcome`. -/
  | revoke (certificateId : Bytes) (state : CertificateProgress) (reason : String)
  /-- `ArtifactOutcome`, with the digest and size of a ready artifact. -/
  | artifact (artifactId : Bytes) (state : ArtifactProgress) (content : Option (Bytes × UInt64))
  /-- `UpgradeOutcome`. -/
  | upgrade (state : CommandStatus) (scheduled : Bool)

/-- The rows that results read and write. -/
structure ResultDatabase where
  commands : Uuid → Option CommandRow
  /-- `node_privd_attestation_keys`, by node and key. -/
  keys : Uuid → String → Option VerificationKey
  results : List ResultRow
  /-- The projections of each command, oldest first. -/
  projections : List (Uuid × Projection)

/-- The calls of the store and of the audit chain. -/
inductive StoreCall where
  | loadCommand | verificationKey | receipt | insertResult | workspace | alert | receiptAudit
  | eventId | updateCommand | updateOperation | completeOutbox | closeDispatch | configOutcome
  | csrOutcome | revokeOutcome | artifactOutcome | upgradeOutcome | appendEvent | resultAudit
  | scheduleRecovery

/-- A result event, with what its transaction finds. -/
structure ResultEvent where
  (eventId nodeId : Uuid)
  /-- The message, when the payload decodes. -/
  message : Option CommandResult
  (occurredAt observedAt : GoTime)
  /-- A live sending attempt of the command exists. -/
  dispatchInFlight : Bool
  /-- The rows that the transaction's snapshot shows to the receipt lookup. -/
  visible : ResultRow → Bool
  /-- `ConfigOutcome` found the plan of the operation. -/
  planMatched : Bool
  faults : StoreCall → Bool
  recovery : RecoveryEnv

inductive IngestError where
  /-- `invalidCommandResult`. -/
  | invalid (detail : String)
  | store (call : StoreCall)
  /-- A time is outside the range of the database. -/
  | timestamp
  | recovery (error : RecoveryError)

/-- `x509.ParseCertificateRequest`, as far as it is compared. -/
structure ParsedCsr where
  /-- `CheckSignature() == nil`. -/
  signatureValid : Bool
  /-- The length of the modulus of an RSA key. -/
  rsaBits : Option Nat
  commonName : String
  /-- The object identifiers of `Subject.Names`. -/
  subjectTypes : List (List Nat)
  dnsNames : List String
  /-- The number of e-mail addresses, IP addresses and URIs. -/
  otherNames : Nat
  extensionIds : List (List Nat)
  /-- `x509.MarshalPKIXPublicKey`. -/
  publicKey : Option Bytes

/-- What ingestion calls in other Go packages. -/
structure ResultLibrary where
  receipts : ReceiptLibrary
  semantic : SemanticPayload.Library
  /-- `proto.Marshal` of a synthetic payload. -/
  marshalSynthetic : Payload → Option Bytes
  parseCsr : Bytes → Option ParsedCsr
  decodeRevoke : Bytes → Option CertificateRevokeResult
  decodeArtifact : Bytes → Option CertificateArtifactResult
  decodeScheduled : Bytes → Option AgentUpgradeScheduledResult

/-- The key lookup of a transaction. -/
def ResultDatabase.lookup (db : ResultDatabase) (e : ResultEvent) : KeyLookup :=
  fun nodeId keyId =>
    if e.faults .verificationKey then .error () else .ok (db.keys nodeId keyId)

namespace Ingestion

def check (passes : Bool) (detail : String) : Except IngestError Unit :=
  require passes (.invalid detail)

def call (e : ResultEvent) (c : StoreCall) : Except IngestError Unit :=
  require (!e.faults c) (.store c)

/-- A call of the store that is only made under a condition. -/
def callWhen (condition : Bool) (e : ResultEvent) (c : StoreCall) : Except IngestError Unit :=
  require (!condition || !e.faults c) (.store c)

/-! ## The checks of the message -/

def clockSkew : Int := 300 * 10 ^ 9

/-- `uuid.FromBytes`, of version 7. -/
def uuidV7 (value : Bytes) : Option Uuid :=
  if h : value.length = 16 then
    if uuidVersion value = 7 then some ⟨value, h⟩ else none
  else none

def validText (value : String) (maxBytes : Nat) : Bool :=
  value != "" && value.utf8ByteSize ≤ maxBytes && !(utf8 value).contains 0

/-- The state that a result reports. -/
def reportedState (state : Int32) : Option CommandStatus :=
  if state = CommandResultState.succeeded.toInt32 then some .succeeded
  else if state = CommandResultState.failed.toInt32 then some .failed
  else if state = CommandResultState.unknown.toInt32 then some .unknown
  else if state = CommandResultState.rejected.toInt32 then some .rejected
  else none

/-- The checks before the database is read. -/
def checkMessage (e : ResultEvent) (r : CommandResult) :
    Except IngestError (Uuid × Timestamp × CommandStatus) := do
  let commandId ← get (uuidV7 r.commandId)
    (.invalid "command result command_id must be UUIDv7")
  let _ ← get (uuidV7 r.idempotencyKey)
    (.invalid "command result idempotency_key must be UUIDv7")
  let completed ← get (r.completedAt.filter (·.isValid))
    (.invalid "command result completed_at is invalid")
  check (completed.asTime ≤ e.observedAt + clockSkew && completed.asTime ≤ e.occurredAt + clockSkew)
    "command result completed_at exceeds clock skew bound"
  check (r.result.length ≤ 2 ^ 20 && (r.errorCode == "" || validText r.errorCode 128))
    "command result field is invalid"
  let state ← get (reportedState r.state) (.invalid "command result state is invalid")
  require (storable e.observedAt && storable completed.asTime) .timestamp
  return (commandId, completed, state)

def loadCommand (db : ResultDatabase) (e : ResultEvent) (commandId : Uuid) :
    Except IngestError CommandRow := do
  call e .loadCommand
  get ((db.commands commandId).filter (·.nodeId == e.nodeId))
    (.invalid "command result does not match a dispatched command")

/-- `semanticpayload.ValidateVersion`. -/
def supportedVersion (version : Int32) : Bool :=
  (SemanticPayloadHashVersion.tryFrom version).isSome

/-- The checks of the stored command. -/
def checkRow (e : ResultEvent) (r : CommandResult) (row : CommandRow) :
    Except IngestError StoredEnvelope := do
  check (!row.compacted) "command detail is retired; terminal identity remains immutable"
  check (row.state != .queued || e.dispatchInFlight)
    "queued command result has no current sending attempt"
  let envelope ← get row.envelope (.invalid "stored command envelope is invalid")
  check (envelope.command.idempotencyKey == r.idempotencyKey)
    "command result idempotency key mismatch"
  check (supportedVersion envelope.command.semanticPayloadHashVersion)
    "stored command semantic payload hash version is invalid"
  check (supportedVersion r.semanticPayloadHashVersion)
    "command result semantic payload hash version is invalid"
  return envelope

/-- The later of the issue and the creation of a command. -/
def lowerBound (issued : GoTime) : StoredTime → Option GoTime
  | .null | .positiveInfinity => none
  | .negativeInfinity => some issued
  | .finite created => some (max issued created)

/-- The fields of a rejection. -/
def checkRejected (r : CommandResult) : Except IngestError Unit :=
  check (r.acceptedAt.isNone && r.errorCode != "" && r.result.isEmpty &&
    (r.payloadSha256.isEmpty || r.payloadSha256.length == 32))
    "rejected command result fields are invalid"

/-- The fields of a result of an accepted command. -/
def checkAccepted (r : CommandResult) (bound : GoTime) (completed : Timestamp)
    (state : CommandStatus) : Except IngestError Unit := do
  let accepted ← get
    (r.acceptedAt.filter fun t => t.isValid && r.payloadSha256.length == 32)
    (.invalid "accepted command result fields are invalid")
  check (bound - clockSkew ≤ accepted.asTime && accepted.asTime ≤ completed.asTime)
    "command result accepted_at is invalid"
  check (state != .succeeded || r.errorCode == "")
    "succeeded command result must not contain an error code"
  check (!(state == .failed || state == .unknown) || r.errorCode != "")
    "non-success command result requires an error code"
  check (state != .unknown || r.result.isEmpty)
    "unknown command result must not contain result bytes"

/-- The times and fields of a result. -/
def checkFields (row : CommandRow) (command : CommandEnvelope) (r : CommandResult)
    (completed : Timestamp) (state : CommandStatus) : Except IngestError Unit := do
  let issued ← get (command.issuedAt.filter (·.isValid))
    (.invalid "stored command issued_at is invalid")
  let bound ← get (lowerBound issued.asTime row.createdAt)
    (.invalid "stored command creation is later than the result")
  check (bound - clockSkew ≤ completed.asTime) "command result completed_at precedes issued_at"
  if state = .rejected then checkRejected r else checkAccepted r bound completed state

section
variable (P : Platform) (L : ResultLibrary) (command : CommandEnvelope)

def legacySyntheticPayloadHash : Option (FixedBytes 32) :=
  match command.payload with
  | some .syntheticNoop => (L.marshalSynthetic .syntheticNoop).map fun payload =>
      P.sha256 (utf8 "synthetic.noop" ++ command.nodeId ++ be 8 command.expectedRevision.toNat ++
        payload)
  | some (.syntheticEcho text) => (L.marshalSynthetic (.syntheticEcho text)).map fun payload =>
      P.sha256 (utf8 "synthetic.echo" ++ command.nodeId ++ be 8 command.expectedRevision.toNat ++
        payload)
  | _ => none

/-- The semantic hash that a result of a version must report. -/
def expectedHash (version : Int32) : Option (FixedBytes 32) :=
  match SemanticPayloadHashVersion.tryFrom version with
  | some .v1 => (SemanticPayload.hash P L.semantic command .v1).toOption
  | some .v2 => (SemanticPayload.hash P L.semantic command .v2).toOption
  | some .unspecified | none => legacySyntheticPayloadHash P L command

/-- The version of the reported hash. -/
def checkHashVersion (r : CommandResult) (state : CommandStatus) : Except IngestError Unit :=
  if state = .rejected ∧ r.payloadSha256 = [] then
    check (r.semanticPayloadHashVersion == SemanticPayloadHashVersion.unspecified.toInt32)
      "rejected command result must not declare a payload hash version"
  else
    check (r.semanticPayloadHashVersion == command.semanticPayloadHashVersion)
      "command result semantic payload hash version mismatch"

/-- The reported hash, when there is one. -/
def checkHash (r : CommandResult) : Except IngestError Unit :=
  if r.payloadSha256.length = 32 then do
    let expected ← get (expectedHash P L command r.semanticPayloadHashVersion)
      (.invalid "stored command semantic payload cannot be hashed")
    check (r.payloadSha256 == expected.1) "command result payload hash mismatch"
  else .ok ()

/-! ## Normalization

A message that does not have the form of its kind makes the outcome unknown; the texts of these
errors are not reported, so a normalizer answers `none`. -/

def decodeWith {α : Type} (decode : Bytes → Option α) (bytes : Bytes) : Option α :=
  if bytes = [] then none else decode bytes

/-- The state of the command after a configuration apply. -/
def applyOutcome : ApplyState → CommandStatus
  | .succeeded => .succeeded
  | .rolledBack => .rolledBack
  | _ => .failed

/-- `normalizeConfigApplyResult`. -/
def normalizeApply (state : CommandStatus)
    (bytes : Bytes) : Option (CommandStatus × Option ConfigApplyResult) :=
  match configApplyBinding command with
  | none => some (state, none)
  | some apply =>
    if state ≠ .succeeded then some (state, none)
    else
      (decodeWith P.decodeConfigApplyResult bytes).bind fun result =>
        (normalizeConfigApplyResult apply result).map fun outcome =>
          (applyOutcome outcome, some result)

/-- The certificate request in a result is the one that was asked for. -/
def csrMatches (request : CertificateCsr) (result : CertificateCsrResult) : Bool :=
  result.certificateId == request.certificateId && 64 ≤ result.csrDer.length &&
    result.csrDer.length ≤ 64 * 1024 && result.publicKeySha256.length == 32 &&
    (L.parseCsr result.csrDer).any fun csr =>
      csr.signatureValid && (csr.rsaBits.any fun bits => UInt32.ofNat bits == request.keyBits) &&
        csr.commonName == request.commonName && csr.subjectTypes == [[2, 5, 4, 3]] &&
        sortTexts request.dnsNames == sortTexts csr.dnsNames && csr.otherNames == 0 &&
        csr.extensionIds.all (· == [2, 5, 29, 17]) &&
        csr.publicKey.any fun key => result.publicKeySha256 == (P.sha256 key).1

def normalizeCertificateCSRResult
    (state : CommandStatus) (bytes : Bytes) : Option (Option CertificateCsrResult) :=
  match command.payload with
  | some (.certificateCsr request) =>
    if state ≠ .succeeded then some none
    else ((decodeWith L.receipts.decodeCsr bytes).filter (csrMatches P L request)).map some
  | _ => some none

end

def normalizeCertificateRevokeResult (L : ResultLibrary) (command : CommandEnvelope)
    (state : CommandStatus) (bytes : Bytes) : Option (Option CertificateRevokeResult) :=
  match command.payload with
  | some (.certificateRevoke request) =>
    if state ≠ .succeeded then some none
    else ((decodeWith L.decodeRevoke bytes).filter fun result =>
      result.certificateId == request.certificateId && result.keyRemoved).map some
  | _ => some none

def normalizeCertificateArtifactResult (L : ResultLibrary) (command : CommandEnvelope)
    (state : CommandStatus) (bytes : Bytes) : Option (Option CertificateArtifactResult) :=
  match command.payload with
  | some (.certificateP12 request) =>
    if state ≠ .succeeded then some none
    else ((decodeWith L.decodeArtifact bytes).filter fun result =>
      result.certificateId == request.certificateId && result.artifactId == request.artifactId &&
        result.artifactSha256.length == 32 && result.artifactSize != 0 &&
        result.artifactSize ≤ 64 * 1024 * 1024).map some
  | _ => some none

/-- `validateAgentUpgradeScheduledResult`. -/
def scheduledMatches (L : ResultLibrary) (command : CommandEnvelope) (upgrade : AgentUpgrade)
    (bytes : Bytes) : Bool :=
  (decodeWith L.decodeScheduled bytes).any fun scheduled =>
    scheduled.operationId == command.operationId &&
      scheduled.targetVersion == upgrade.targetVersion &&
      scheduled.packageSha256 == upgrade.packageSha256

/-- `GetAgentUpgrade`. -/
def agentUpgrade (command : CommandEnvelope) : Option AgentUpgrade :=
  match command.payload with
  | some (.agentUpgrade upgrade) => some upgrade
  | _ => none

section
variable (P : Platform) (L : ResultLibrary) (command : CommandEnvelope) (v : Verification)
  (state : CommandStatus) (bytes : Bytes)

/-- A receipt was needed and did not verify. -/
def unverified : Bool := v.status != .notRequired && v.status != .verified

/-- The state that the normalizers are given. -/
def normalizationState : CommandStatus := if unverified v then .unknown else state

/-- One of the typed normalizers failed. -/
def malformed : Bool :=
  (normalizeApply P command (normalizationState v state) bytes).isNone ||
    (normalizeCertificateCSRResult P L command (normalizationState v state) bytes).isNone ||
    (normalizeCertificateRevokeResult L command (normalizationState v state) bytes).isNone ||
    (normalizeCertificateArtifactResult L command (normalizationState v state) bytes).isNone

/-- The upgrade whose scheduling a result acknowledges. -/
def acknowledgedUpgrade : Option AgentUpgrade :=
  if malformed P L command v state bytes ∨ normalizationState v state ≠ .succeeded then none
  else agentUpgrade command

def upgradeScheduled : Bool :=
  (acknowledgedUpgrade P L command v state bytes).any fun upgrade =>
    scheduledMatches L command upgrade bytes

/-- `normalizationErr != nil`. -/
def normalizationFailed : Bool :=
  malformed P L command v state bytes ||
    ((acknowledgedUpgrade P L command v state bytes).any fun upgrade =>
      !scheduledMatches L command upgrade bytes) ||
    unverified v

def effectiveState : CommandStatus :=
  if normalizationFailed P L command v state bytes then .unknown
  else if upgradeScheduled P L command v state bytes then .accepted
  else ((normalizeApply P command (normalizationState v state) bytes).map (·.1)).getD .unknown

/-- `applyResult`. -/
def normalizedApply : Option ConfigApplyResult :=
  if normalizationFailed P L command v state bytes then none
  else (normalizeApply P command (normalizationState v state) bytes).bind (·.2)

end

/-- The reason that a recovery is scheduled for; a failed verification is overwritten. -/
def recoveryReason (failed : Bool) (r : CommandResult) : String :=
  if failed then "outcome_requires_reconciliation" else r.errorCode

/-- Whether a result is only evidence about a terminal command, or an error. -/
def contradiction (current effective : CommandStatus) (failed : Bool) : Except IngestError Bool :=
  if current.settled ∧ current ≠ effective then
    if failed then .ok true
    else .error (.invalid "command result contradicts a terminal state")
  else if current = .expired ∨ current = .superseded then
    .error (.invalid "command result contradicts a terminal state")
  else .ok false

/-- `Receipt`: the result is a repetition of a stored one. -/
def replayOf (db : ResultDatabase) (e : ResultEvent) (commandId : Uuid)
    (v : Verification) : Except IngestError Bool :=
  if v.status ≠ .verified then .ok false
  else if e.faults .receipt then .error (.store .receipt)
  else
    match db.results.find? fun row => e.visible row && row.holdsReceipt v with
    | none => .ok false
    | some row =>
      if row.commandId = commandId ∧ row.verification.receiptSha256 = v.receiptSha256 then .ok true
      else .error (.invalid "privd effect receipt was replayed across command identities")

/-- `InsertResult`: the event is new, and no row holds the same verified receipt. -/
def insertResult (db : ResultDatabase) (e : ResultEvent) (row : ResultRow) :
    Except IngestError Unit :=
  require (!e.faults .insertResult &&
    (db.results.all fun old => old.eventId != row.eventId) &&
    (row.verification.status != .verified ||
      db.results.all fun old => !old.holdsReceipt row.verification))
    (.store .insertResult)

section
variable (e : ResultEvent)

/-- The alert and the audit event of a receipt that did not verify. -/
def reportUnverified (v : Verification) : Except IngestError Unit := do
  callWhen (unverified v) e .workspace
  callWhen (unverified v) e .alert
  callWhen (unverified v) e .receiptAudit

/-! ## Recovery -/

def fixedHostEffect (command : CommandEnvelope) : Bool :=
  match command.payload with
  | some (.sessionDisconnect _) | some (.sessionTerminate _) | some (.ipBanRemove _)
  | some .serviceReload => true
  | _ => false

/-- The reasons after which the Controller observes the outcome. -/
def reconciledReasons : List String :=
  ["outcome_requires_reconciliation", "result_persistence_failed", "privd_transport_unknown",
    "privd_outcome_unknown"]

/-- The mode in which a command is delivered again, if it is. -/
def recoveryMode (command : CommandEnvelope) (reason : String) (observedAt : GoTime) :
    Except IngestError (Option CommandDeliveryMode) :=
  if reason = "effect_absent" then
    if command.deliveryMode ≠ CommandDeliveryMode.reconcileOnly.toInt32 then
      .error (.invalid "effect absence was not observed during reconciliation")
    else if fixedHostEffect command ∨ command.protocolVersion ≠ commandProtocolVersion then .ok none
    else if command.expiresAt.any fun expires => expires.isValid && observedAt < expires.asTime then
      .ok (some .retryIfEffectAbsent)
    else .ok none
  else if reconciledReasons.contains reason then .ok (some .reconcileOnly)
  else .ok none

section
variable (envelope : StoredEnvelope)

/-- The envelope that a recovery in a mode stores. -/
def recoverAs (mode : CommandDeliveryMode) : Except IngestError StoredEnvelope := do
  let (recovered, deadline) ←
    (prepareRecoveryEnvelope e.recovery envelope mode e.observedAt true).2.mapError .recovery
  require (storable deadline && storable e.observedAt) .timestamp
  call e .scheduleRecovery
  return recovered

/-- `scheduleCommandRecovery`: the envelope that is stored afterwards. -/
def scheduleCommandRecovery (reason : String) : Except IngestError StoredEnvelope := do
  match ← recoveryMode envelope.command reason e.observedAt with
  | none => .ok envelope
  | some mode => recoverAs e envelope mode

/-- The envelope of a command after a result. -/
def recovered (effective : CommandStatus) (reason : String) : Except IngestError StoredEnvelope :=
  if effective = .unknown then scheduleCommandRecovery e envelope reason else .ok envelope

end

/-! ## Projections -/

/-- A state of a command as a state of `config_apply_operations`. -/
def asApplyState : CommandStatus → ApplyState
  | .queued => .queued
  | .dispatched => .dispatched
  | .accepted => .accepted
  | .running => .running
  | .unknown => .unknown
  | .succeeded => .succeeded
  | .failed | .rejected | .superseded => .failed
  | .rolledBack => .rolledBack
  | .expired => .expired

/-- The configuration state that follows an apply. -/
def applyState (operation : CommandStatus) : Option ConfigApplyResult → ApplyState
  | some result =>
    if result.failedCritical then .failedCritical
    else if result.rolledBack then .rolledBack
    else asApplyState operation
  | none => asApplyState operation

/-- The failure code of a configuration apply. -/
def applyFailureCode (r : CommandResult) : Option ConfigApplyResult → String
  | some result => if result.failureCode = "" then r.errorCode else result.failureCode
  | none => r.errorCode

/-- The projection that follows a command's outcome. -/
def projection (P : Platform) (L : ResultLibrary) (command : CommandEnvelope) (r : CommandResult)
    (v : Verification) (state effective operation : CommandStatus) : Option Projection :=
  match command.payload with
  | some (.configApply _) | some (.completeConfigApply _) =>
    (configApplyBinding command).map fun apply =>
      let result := normalizedApply P L command v state r.result
      .config (applyState operation result) (applyFailureCode r result) apply.desiredRevision
        apply.candidateHash
  | some (.certificateCsr request) =>
    let result := (normalizeCertificateCSRResult P L command (normalizationState v state)
      r.result).join
    let progress : CertificateProgress :=
      if effective = .unknown then .unknown
      else if effective = .succeeded ∧ result.isSome then .csrReady else .failed
    some (.csr request.certificateId progress result
      (if progress = .csrReady ∧ v.status = .verified ∧ v.certificate.isSome then some v else none))
  | some (.certificateRevoke request) =>
    let result := (normalizeCertificateRevokeResult L command (normalizationState v state)
      r.result).join
    some (.revoke request.certificateId
      (if effective = .unknown then .unknown
        else if effective = .succeeded ∧ result.isSome then .revoked else .revoking)
      request.reason)
  | some (.certificateP12 request) =>
    let result := (normalizeCertificateArtifactResult L command (normalizationState v state)
      r.result).join
    some (
      if effective = .unknown then .artifact request.artifactId .pending none
      else if effective = .succeeded then
        match result with
        | some artifact => .artifact request.artifactId .ready
            (some (artifact.artifactSha256, artifact.artifactSize))
        | none => .artifact request.artifactId .failed none
      else .artifact request.artifactId .failed none)
  | some (.agentUpgrade _) =>
    some (.upgrade operation (upgradeScheduled P L command v state r.result))
  | _ => none

/-- The checks of a projection, and the call that writes it. -/
def writeProjection (command : CommandEnvelope) : Except IngestError Unit :=
  match command.payload with
  | some (.configApply _) | some (.completeConfigApply _) => do
    call e .configOutcome
    check e.planMatched "configuration apply result has no immutable plan"
  | some (.certificateCsr request) => do
    check (request.certificateId.length == 16) "certificate command ID is invalid"
    call e .csrOutcome
  | some (.certificateRevoke request) => do
    check (request.certificateId.length == 16) "certificate revoke ID is invalid"
    call e .revokeOutcome
  | some (.certificateP12 request) => do
    check (request.artifactId.length == 16) "certificate artifact ID is invalid"
    call e .artifactOutcome
  | some (.agentUpgrade _) => call e .upgradeOutcome
  | _ => .ok ()

/-! ## Applying a result -/

def resultRow (commandId : Uuid) (r : CommandResult)
    (completed : Timestamp) (state : CommandStatus) (v : Verification) : ResultRow where
  eventId := e.eventId
  commandId := commandId
  idempotencyKey := r.idempotencyKey
  payloadHash := r.payloadSha256
  hashVersion := r.semanticPayloadHashVersion
  state := state
  bytes := r.result
  errorCode := r.errorCode
  acceptedAt := r.acceptedAt
  completedAt := completed
  replayed := r.replayed
  verification := { v with certificate := none }

end

/-- The state of the operation of a command. -/
def operationState (effective : CommandStatus) : CommandStatus :=
  if effective = .rejected then .failed else effective

section
variable (P : Platform) (L : ResultLibrary) (db : ResultDatabase) (e : ResultEvent)
  (commandId : Uuid) (row : CommandRow) (envelope : StoredEnvelope) (r : CommandResult)
  (completed : Timestamp) (state : CommandStatus) (v : Verification)

/-- The database with the row of the result. -/
def inserted : ResultDatabase :=
  { db with results := db.results ++ [resultRow e commandId r completed state v] }

/-- The database with the result applied to its command. -/
def applied (after : StoredEnvelope) : ResultDatabase :=
  { inserted db e commandId r completed state v with
    commands := Function.update db.commands commandId (some { row with
      state := effectiveState P L envelope.command v state r.result
      operation := operationState (effectiveState P L envelope.command v state r.result)
      envelope := some after })
    projections := db.projections ++
      ((projection P L envelope.command r v state
        (effectiveState P L envelope.command v state r.result)
        (operationState (effectiveState P L envelope.command v state r.result))).map
          (commandId, ·)).toList }

/-- The updates of a command that a result still changes. -/
def updateRows : Except IngestError ResultDatabase := do
  call e .updateOperation
  check row.operation.mutable "command result does not match a mutable operation"
  callWhen (effectiveState P L envelope.command v state r.result).settled e .completeOutbox
  callWhen e.dispatchInFlight e .closeDispatch
  writeProjection e envelope.command
  call e .appendEvent
  callWhen (effectiveState P L envelope.command v state r.result).settled e .resultAudit
  let after ← recovered e envelope (effectiveState P L envelope.command v state r.result)
    (recoveryReason (normalizationFailed P L envelope.command v state r.result) r)
  return applied P L db e commandId row envelope r completed state v after

/-- `UpdateCommand`, and what follows when it changed the command. -/
def applyResult : Except IngestError ResultDatabase := do
  call e .eventId
  call e .updateCommand
  if row.state.mutable then updateRows P L db e commandId row envelope r completed state v
  else .ok (inserted db e commandId r completed state v)

/-- The row of a new result, and its effect unless it is only evidence. -/
def recordResult (evidenceOnly : Bool) : Except IngestError ResultDatabase := do
  insertResult db e (resultRow e commandId r completed state v)
  reportUnverified e v
  if evidenceOnly then .ok (inserted db e commandId r completed state v)
  else applyResult P L db e commandId row envelope r completed state v

/-- The part of `IngestCommandResult` after the receipt was verified. -/
def storeResult : Except IngestError ResultDatabase := do
  let evidenceOnly ← contradiction row.state (effectiveState P L envelope.command v state r.result)
    (normalizationFailed P L envelope.command v state r.result)
  let repeated ← replayOf db e commandId v
  if repeated then .ok db
  else recordResult P L db e commandId row envelope r completed state v evidenceOnly

end

/-- `IngestCommandResult`: the database afterwards, or an error that rolls back. -/
def ingestCommandResult (P : Platform) (L : ResultLibrary) (db : ResultDatabase)
    (e : ResultEvent) : Except IngestError ResultDatabase := do
  let r ← get e.message (.invalid "structured Agent command result protobuf is invalid")
  let (commandId, completed, state) ← checkMessage e r
  let row ← loadCommand db e commandId
  let envelope ← checkRow e r row
  checkFields row envelope.command r completed state
  checkHashVersion envelope.command r state
  checkHash P L envelope.command r
  require (r.acceptedAt.all fun t => storable t.asTime) .timestamp
  storeResult P L db e commandId row envelope r completed state
    (Receipts.verifyResult P L.receipts (db.lookup e) e.nodeId envelope.command r)

/-! ## One ingestion -/

/-- What an accepted message refers to. -/
structure Loaded (db : ResultDatabase) (e : ResultEvent) (commandId : Uuid)
    (row : CommandRow) (envelope : StoredEnvelope) (r : CommandResult) (state : CommandStatus) :
    Prop where
  message : e.message = some r
  identity : r.commandId = commandId.1
  reported : reportedState r.state = some state
  found : db.commands commandId = some row
  nodeId : row.nodeId = e.nodeId
  decoded : row.envelope = some envelope

theorem uuidV7_eq_some {value : Bytes} {id : Uuid} (h : uuidV7 value = some id) :
    value = id.1 := by
  unfold uuidV7 at h
  split at h
  · split at h
    · rw [← Option.some.inj h]
    · cases h
  · cases h

theorem checkMessage_ok (h : checkMessage e r = .ok (commandId, completed, state)) :
    r.commandId = commandId.1 ∧ reportedState r.state = some state := by
  obtain ⟨id, hid, h⟩ := get_bind.1 h
  iterate 4 obtain ⟨_, h⟩ := of_bind h
  obtain ⟨_, hstate, h⟩ := get_bind.1 h
  obtain ⟨_, h⟩ := of_bind h
  cases h
  exact ⟨uuidV7_eq_some hid, hstate⟩

theorem loadCommand_ok (h : loadCommand db e commandId = .ok row) :
    db.commands commandId = some row ∧ row.nodeId = e.nodeId := by
  obtain ⟨_, h⟩ := of_bind h
  obtain ⟨hrow, hnode⟩ := Option.filter_eq_some_iff.1 (get_eq_ok.1 h)
  exact ⟨hrow, beq_iff_eq.1 hnode⟩

theorem checkRow_ok (h : checkRow e r row = .ok envelope) : row.envelope = some envelope := by
  iterate 2 obtain ⟨_, h⟩ := of_bind h
  obtain ⟨_, henvelope, h⟩ := get_bind.1 h
  iterate 3 obtain ⟨_, h⟩ := of_bind h
  cases h
  exact henvelope

/-- The envelope that a result leaves is one of the same command. -/
theorem recovered_same (h : recovered e envelope effective reason = .ok after) :
    SameAuthority after.command envelope.command := by
  unfold recovered at h
  split at h
  · obtain ⟨mode, h⟩ := of_bind h
    cases mode with
    | none =>
      cases h
      exact .refl _
    | some mode =>
      obtain ⟨⟨produced, deadline⟩, hprepare, h⟩ := bind_eq_ok.1 h
      iterate 2 obtain ⟨_, h⟩ := of_bind h
      obtain rfl := ok.inj h
      have hspec := prepareRecoveryEnvelope_spec e.recovery envelope mode e.observedAt true
      refine (hspec.produced produced ?_).2.1.same
      rw [withoutDeadline, mapError_eq_ok_iff.1 hprepare]
      rfl
  · cases h
    exact .refl _

/-- An ingestion of a loaded result does nothing, or stores the result, or also applies it to a
command that results still change. -/
inductive Effect (P : Platform) (L : ResultLibrary) (db : ResultDatabase) (e : ResultEvent)
    (commandId : Uuid) (row : CommandRow) (envelope : StoredEnvelope) (r : CommandResult)
    (completed : Timestamp) (state : CommandStatus) (v : Verification) : ResultDatabase → Prop
  | none : Effect P L db e commandId row envelope r completed state v db
  | stored (hnew : insertResult db e (resultRow e commandId r completed state v) = .ok ()) :
      Effect P L db e commandId row envelope r completed state v
        (inserted db e commandId r completed state v)
  | applied {after : StoredEnvelope}
      (hnew : insertResult db e (resultRow e commandId r completed state v) = .ok ())
      (hmutable : row.state.mutable = true) (hsame : SameAuthority after.command envelope.command) :
      Effect P L db e commandId row envelope r completed state v
        (applied P L db e commandId row envelope r completed state v after)

theorem recordResult_ok
    (h : recordResult P L db e commandId row envelope r completed state v evidenceOnly = .ok db') :
    Effect P L db e commandId row envelope r completed state v db' := by
  obtain ⟨_, hnew, h⟩ := bind_eq_ok.1 h
  obtain ⟨_, h⟩ := of_bind h
  split at h
  · cases h
    exact .stored hnew
  iterate 2 obtain ⟨_, h⟩ := of_bind h
  split at h
  · rename_i hmutable
    iterate 7 obtain ⟨_, h⟩ := of_bind h
    obtain ⟨after, hafter, h⟩ := bind_eq_ok.1 h
    cases h
    exact .applied hnew hmutable (recovered_same hafter)
  · cases h
    exact .stored hnew

/-- An accepted message is of a command of its node, and acts by its receipt. -/
theorem ingestCommandResult_cases (h : ingestCommandResult P L db e = .ok db') :
    ∃ commandId row envelope r completed state, Loaded db e commandId row envelope r state ∧
      Effect P L db e commandId row envelope r completed state
        (Receipts.verifyResult P L.receipts (db.lookup e) e.nodeId envelope.command r) db' := by
  obtain ⟨r, hr, h⟩ := get_bind.1 h
  obtain ⟨⟨commandId, completed, state⟩, hmessage, h⟩ := bind_eq_ok.1 h
  obtain ⟨row, hrow, h⟩ := bind_eq_ok.1 h
  obtain ⟨envelope, henvelope, h⟩ := bind_eq_ok.1 h
  iterate 4 obtain ⟨_, h⟩ := of_bind h
  obtain ⟨hid, hstate⟩ := checkMessage_ok hmessage
  obtain ⟨hload, hnode⟩ := loadCommand_ok hrow
  refine ⟨commandId, row, envelope, r, completed, state,
    ⟨hr, hid, hstate, hload, hnode, checkRow_ok henvelope⟩, ?_⟩
  iterate 2 obtain ⟨_, h⟩ := of_bind h
  split at h
  · cases h
    exact .none
  · exact recordResult_ok h

end Ingestion

end Ocservia
