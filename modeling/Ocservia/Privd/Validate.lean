import Ocservia.Contract.Authorization

/-!
# Command validation in privd

`validate_request` of `privd/src/lib.rs` for a request that carries a Controller-signed command:
privd trusts none of the Agent's checks. It verifies the signature and the semantic hash against its
own keys and clock, checks the payload again (`validatePrivilegedPayload`), and takes the time at
which the Agent accepted the command from the request. The signed owner fence of a command travels
beside it; whether `verify_execution_fence` accepts it is an input (`PrivdConfig.executionFence`).

`validateRequest_execute` is what an accepted execution rests on.
-/

namespace Ocservia

open Wire Checked

structure PrivdError where
  kind : ErrorKind
  detail : String
deriving DecidableEq

/-- A reading of the host clock (`SystemTime`), as seconds and nanoseconds of the Unix epoch. -/
structure HostTime where
  seconds : Int64
  nanos : Nat
  nanos_lt : nanos < 1000000000

namespace HostTime

/-- The reading is not before the epoch. -/
def sinceEpoch (t : HostTime) : Bool := 0 ≤ t.seconds.toInt

def millis (t : HostTime) : Nat := t.seconds.toInt.toNat * 1000 + t.nanos / 1000000

def timestamp (t : HostTime) : Timestamp := ⟨t.seconds, Int32.ofNat t.nanos⟩

end HostTime

inductive PrivilegedRequestMode where
  | unspecified | execute | reconcile
deriving DecidableEq

/-- The request mode of a wire number. -/
def PrivilegedRequestMode.tryFrom (n : Int32) : Option PrivilegedRequestMode :=
  if n = 0 then some .unspecified
  else if n = 1 then some .execute
  else if n = 2 then some .reconcile
  else none

/-- A `PrivdRequest` with an `authorization_command` and no other operation. -/
structure PrivdRequest where
  requestId : Bytes
  deadlineUnixMs : UInt64
  acceptedAt : Option Timestamp
  authorizationCommand : CommandEnvelope
  privilegedMode : Int32

/-- `ValidatedRequest`, for a command. -/
inductive ValidatedRequest where
  | execute (claims : CommandAuthorizationV1) (acceptedAt : Timestamp)
  | reconcile (claims : CommandAuthorizationV1)
deriving DecidableEq

structure CommandEffectBinding where
  (effectKind resourceKey : String)
  effectRevision : UInt64
deriving DecidableEq

/-- What privd is started with. -/
structure PrivdConfig where
  nodeId : Uuid
  commandKeys : ControllerCommandKeyring
  /-- `verify_execution_fence` at a clock reading. -/
  executionFence : CommandEnvelope → CommandAuthorizationV1 → HostTime → Except PrivdError Unit

/-- Refuse with an error of `kind` unless the check passes. -/
def requirePrivd (check : Bool) (kind : ErrorKind) (detail : String) : Except PrivdError Unit :=
  require check ⟨kind, detail⟩

/-- `authorization_error`. -/
def privdAuthorization {α : Type} (x : Except AuthorizationError α) : Except PrivdError α :=
  x.mapError fun e => ⟨.permissionDenied, e.code⟩

/-! ## Payload checks -/

namespace Privd

/-- `MAX_REQUEST_LIFETIME`, in milliseconds. -/
def maxRequestLifetime : Nat := 30000

def maxManagedResources : Nat := 384

def validateUuid (value : Bytes) (detail : String) : Except PrivdError Unit :=
  requirePrivd (value.length == 16 && uuidVersion value == 7) .invalidRequest detail

def validateSealedSecret (secret : Option SealedSecretV1) (purpose : SealedSecretPurpose) :
    Except PrivdError Unit :=
  match secret with
  | none => .error ⟨.invalidRequest, "sealed secret required"⟩
  | some s =>
    requirePrivd
      (s.version == sealedSecretVersionV1 && s.purpose == purpose.toInt32 &&
        s.keyId.utf8ByteSize != 0 && s.keyId.utf8ByteSize ≤ 128 && 32 ≤ s.ciphertext.length &&
        s.ciphertext.length ≤ 16 * 1024)
      .invalidRequest "sealed secret invalid"

/-- The checks on the password of `UserCreate` and of `UserPasswordRotate`. -/
def validateUserSecret (p : UserSecret) : Except PrivdError Unit := do
  validateSealedSecret p.sealedPasswordV1 .userPassword
  requirePrivd (p.sealedPassword.isEmpty && p.secretKeyId.utf8ByteSize == 0) .invalidRequest
    "user secret binding invalid"

/-- The members of a group are strictly increasing. -/
def membersIncreasing : List String → Bool
  | a :: b :: rest => utf8 a < utf8 b && membersIncreasing (b :: rest)
  | _ => true

section
variable (P : Platform)

def validateCandidate (candidate candidateHash : Bytes) : Except PrivdError Unit :=
  requirePrivd
    (candidate.length != 0 && candidate.length ≤ 256 * 1024 && candidateHash.length == 32 &&
      (P.sha256 candidate).1 == candidateHash)
    .invalidRequest "configuration candidate binding invalid"

def validateSession (p : SessionRef) : Except PrivdError Unit :=
  match parseUnsigned 64 p.sessionId with
  | none => .error ⟨.invalidRequest, "session ID invalid"⟩
  | some n =>
    requirePrivd (n != 0 && toString n == p.sessionId && P.uuidParses p.bootId) .invalidRequest
      "session target invalid"

def validateUpgradeRelease (p : AgentUpgrade) : Except PrivdError Unit := do
  requirePrivd (validTargetVersion p.targetVersion) .invalidRequest
    "agent upgrade target version invalid"
  requirePrivd (p.packageSha256.length == 32) .invalidRequest
    "agent upgrade package digest invalid"
  requirePrivd (validArchitecture p.architecture) .invalidRequest
    "agent upgrade architecture invalid"
  requirePrivd (P.runtimeArchitecture == some p.architecture) .invalidRequest
    "agent upgrade architecture does not match this host"

section
variable (command : CommandEnvelope)

/-- The checks of `validate_privileged_payload` on the payload. -/
def checkPrivilegedPayload : Option Payload → Except PrivdError Unit
  | some (.configPlan p) => validateCandidate P p.candidate p.candidateHash
  | some (.configApply p) => validateCandidate P p.candidate p.candidateHash
  | some (.completeConfigPlan _) | some (.completeConfigApply _) => do
    let _ ← privdAuthorization (semanticPayloadHash P command .v2)
  | some (.sessionDisconnect p) | some (.sessionTerminate p) => validateSession P p
  | some (.ipBanRemove ip) =>
    match P.canonicalIp ip with
    | none => .error ⟨.invalidRequest, "IP address invalid"⟩
    | some canonical =>
        requirePrivd (canonical == ip) .invalidRequest "IP address must be canonical"
  | some (.groupApply p) =>
    requirePrivd (p.members.length ≤ maxManagedResources && membersIncreasing p.members)
      .invalidRequest "group members invalid"
  | some (.certificateCsr p) => validateUuid p.certificateId "certificate ID invalid"
  | some (.certificateRevoke p) => do
    validateUuid p.certificateId "certificate ID invalid"
    requirePrivd (p.certificateVersion != 0) .invalidRequest "certificate version invalid"
  | some (.certificateP12 p) => do
    validateUuid p.certificateId "certificate ID invalid"
    validateUuid p.artifactId "artifact ID invalid"
    validateSealedSecret p.sealedPasswordV1 .certificateP12Password
    requirePrivd
      (p.sealedPassword.isEmpty && p.secretKeyId.utf8ByteSize == 0 && p.certificateVersion != 0 &&
        p.artifactExpiresAt.isSome)
      .invalidRequest "P12 secret binding invalid"
  | some (.userCreate p) | some (.userPasswordRotate p) => validateUserSecret p
  | some .serviceReload | some (.userDisable _) | some (.userEnable _) => .ok ()
  | some (.agentUpgrade p) => validateUpgradeRelease P p
  | some .simulationProbe | some .syntheticNoop | some (.syntheticEcho _) | none =>
    .error ⟨.permissionDenied, "payload is not a privileged privd command"⟩

section
variable (claims : CommandAuthorizationV1)

def validatePrivilegedPayload : Except PrivdError Unit := do
  requirePrivd
    ([claims.commandId, claims.idempotencyKey, claims.nodeId, claims.operationId].all
      fun value => uuidVersion value.1 == 7)
    .invalidRequest "signed command UUID identity invalid"
  checkPrivilegedPayload P command command.payload

/-! ## The root effect -/

/-- The identity of a certificate's effect: the UUID of `id`, at the expected revision. -/
def certificateEffect (effectKind : String) (id : Bytes) : Option CommandEffectBinding :=
  if h : id.length = 16 then some ⟨effectKind, P.uuidText ⟨id, h⟩, claims.expectedRevision⟩
  else none

def effectBinding : Option CommandEffectBinding :=
  match command.payload with
  | some (.sessionDisconnect p) =>
    some ⟨"session_disconnect", p.bootId ++ ":" ++ p.sessionId, claims.expectedRevision⟩
  | some (.sessionTerminate p) =>
    some ⟨"session_terminate", p.bootId ++ ":" ++ p.sessionId, claims.expectedRevision⟩
  | some (.ipBanRemove ip) => some ⟨"ip_ban_remove", ip, claims.expectedRevision⟩
  | some .serviceReload => some ⟨"service_reload", "ocserv.service", claims.expectedRevision⟩
  | some (.userCreate p) => some ⟨"user_create", p.username, p.desiredRevision⟩
  | some (.userDisable p) => some ⟨"user_disable", p.username, p.desiredRevision⟩
  | some (.userEnable p) => some ⟨"user_enable", p.username, p.desiredRevision⟩
  | some (.userPasswordRotate p) => some ⟨"user_password_rotate", p.username, p.desiredRevision⟩
  | some (.groupApply p) => some ⟨"group_apply", p.groupName, p.desiredRevision⟩
  | some (.configPlan p) =>
    some ⟨"config_plan", hexEncode p.candidateHash, claims.expectedRevision⟩
  | some (.completeConfigPlan p) =>
    some ⟨"config_plan", hexEncode p.candidateHash, claims.expectedRevision⟩
  | some (.configApply p) => some ⟨"config_apply", "ocserv.conf", p.desiredRevision⟩
  | some (.completeConfigApply p) => some ⟨"config_apply", "ocserv.conf", p.desiredRevision⟩
  | some (.certificateCsr p) => certificateEffect P claims "certificate_csr" p.certificateId
  | some (.certificateRevoke p) => certificateEffect P claims "certificate_revoke" p.certificateId
  | some (.certificateP12 p) =>
    if h : p.certificateId.length = 16 ∧ p.artifactId.length = 16 then
      some ⟨"certificate_p12", P.uuidText ⟨p.certificateId, h.1⟩ ++ ":" ++
        P.uuidText ⟨p.artifactId, h.2⟩, claims.expectedRevision⟩
    else none
  | some (.agentUpgrade p) =>
    some ⟨"agent_upgrade_prepare", p.targetVersion ++ ":" ++ hexEncode p.packageSha256,
      claims.expectedRevision⟩
  | some .simulationProbe | some .syntheticNoop | some (.syntheticEcho _) | none => none

end

end

/-! ## The request -/

/-- The branch of `validate_request` on the request mode and the delivery mode. -/
def validateMode (config : PrivdConfig) (request : PrivdRequest) (claims : CommandAuthorizationV1)
    (now : HostTime) : Except PrivdError ValidatedRequest :=
  match (PrivilegedRequestMode.tryFrom request.privilegedMode).getD .unspecified,
      request.authorizationCommand.mode with
  | .execute, .executeOrReplay | .execute, .retryIfEffectAbsent => do
    let accepted ← get request.acceptedAt
      ⟨.invalidRequest, "journal acceptance timestamp required"⟩
    requirePrivd
      (claims.issuedAtSeconds.toInt ≤ accepted.seconds.toInt &&
        accepted.seconds.toInt ≤ saturatingAdd now.seconds.toInt 300 &&
        0 ≤ accepted.nanos.toInt && accepted.nanos.toInt < 1000000000)
      .invalidRequest "journal acceptance timestamp invalid"
    config.executionFence request.authorizationCommand claims now
    return .execute claims accepted
  | .reconcile, .reconcileOnly => do
    requirePrivd (effectBinding P request.authorizationCommand claims).isSome .invalidRequest
      "command does not support privileged reconciliation"
    return .reconcile claims
  | _, _ => .error ⟨.permissionDenied, "signed command delivery mode mismatch"⟩

/-- `validate_request`, for a request that carries a signed command. -/
def validateRequest (config : PrivdConfig) (request : PrivdRequest) (now : HostTime) :
    Except PrivdError ValidatedRequest := do
  validateUuid request.requestId "request_id must be UUIDv7"
  requirePrivd now.sinceEpoch .unavailable "system clock unavailable"
  requirePrivd (now.millis < request.deadlineUnixMs.toNat) .deadlineExceeded
    "request deadline exceeded"
  requirePrivd (request.deadlineUnixMs.toNat - now.millis ≤ maxRequestLifetime) .invalidRequest
    "request deadline too far in future"
  requirePrivd
    ((PrivilegedRequestMode.tryFrom request.privilegedMode).getD .unspecified != .unspecified)
    .invalidRequest "signed command request shape invalid"
  let claims ← privdAuthorization
    (config.commandKeys.verifyCommand P request.authorizationCommand config.nodeId now.seconds)
  validatePrivilegedPayload P request.authorizationCommand claims
  validateMode P config request claims now

/-! ## What validation establishes -/

variable {P}

theorem requirePrivd_eq_ok :
    requirePrivd check kind detail = .ok u ↔ check = true := require_eq_ok

theorem validateUuid_ok (h : validateUuid value detail = .ok u) :
    value.length = 16 ∧ uuidVersion value = 7 := by
  have hcheck := requirePrivd_eq_ok.1 h
  simp only [Bool.and_eq_true, beq_iff_eq] at hcheck
  exact hcheck

/-- The payloads that privd executes. -/
def privileged : Payload → Bool
  | .simulationProbe | .syntheticNoop | .syntheticEcho _ => false
  | _ => true

/-- The certificate that a payload names. -/
def certificateOf : Payload → Option Bytes
  | .certificateCsr p => some p.certificateId
  | .certificateP12 p => some p.certificateId
  | .certificateRevoke p => some p.certificateId
  | _ => none

/-- A payload that privd accepts is privileged, and the certificate it names is a UUID. -/
theorem checkPrivilegedPayload_ok (h : checkPrivilegedPayload P command payload = .ok u) :
    ∃ p, payload = some p ∧ privileged p = true ∧
      ∀ id, certificateOf p = some id → id.length = 16 ∧ uuidVersion id = 7 := by
  cases payload with
  | none => cases h
  | some p =>
    refine ⟨p, rfl, ?_, fun id hid => ?_⟩
    · cases p with
      | simulationProbe | syntheticNoop | syntheticEcho => cases h
      | _ => rfl
    · cases p with
      | certificateCsr p =>
        cases hid
        exact validateUuid_ok h
      | certificateRevoke p | certificateP12 p =>
        cases hid
        obtain ⟨_, hid, -⟩ := bind_eq_ok.1 h
        exact validateUuid_ok hid
      | _ => cases hid

/-- A payload that privd accepts has a root effect. -/
theorem effectBinding_of_checked (h : checkPrivilegedPayload P command command.payload = .ok u)
    (claims : CommandAuthorizationV1) :
    ∃ binding, effectBinding P command claims = some binding := by
  obtain ⟨p, hp, hprivileged, hid⟩ := checkPrivilegedPayload_ok h
  unfold effectBinding certificateEffect
  rw [hp] at h ⊢
  cases p with
  | simulationProbe | syntheticNoop | syntheticEcho => cases hprivileged
  | certificateCsr p | certificateRevoke p => exact ⟨_, dif_pos (hid _ rfl).1⟩
  | certificateP12 p =>
    obtain ⟨_, h⟩ := of_bind h
    obtain ⟨_, hartifact, -⟩ := bind_eq_ok.1 h
    exact ⟨_, dif_pos ⟨(hid _ rfl).1, (validateUuid_ok hartifact).1⟩⟩
  | _ => exact ⟨_, rfl⟩

/-- What an accepted execution rests on. -/
structure Executable (P : Platform) (config : PrivdConfig) (request : PrivdRequest)
    (claims : CommandAuthorizationV1) (accepted : Timestamp) : Prop where
  claimsOf : ClaimsOf request.authorizationCommand claims
  nodeId : claims.nodeId = config.nodeId
  payload : checkPrivilegedPayload P request.authorizationCommand
    request.authorizationCommand.payload = .ok ()
  identities : ∀ id ∈ [claims.commandId, claims.idempotencyKey, claims.nodeId, claims.operationId],
    uuidVersion id.1 = 7
  acceptedAt : request.acceptedAt = some accepted
  issued : claims.issuedAtSeconds.toInt ≤ accepted.seconds.toInt
  nanos : 0 ≤ accepted.nanos.toInt ∧ accepted.nanos.toInt < 1000000000

theorem validateRequest_sinceEpoch (h : validateRequest P config request now = .ok validated) :
    now.sinceEpoch = true := by
  obtain ⟨_, h⟩ := of_bind h
  obtain ⟨_, hepoch, -⟩ := bind_eq_ok.1 h
  exact requirePrivd_eq_ok.1 hepoch

/-- Before an execution: the delivery may execute, the acceptance time is in order, and the fence
authorizes the command. -/
structure ModeAccepted (config : PrivdConfig) (request : PrivdRequest)
    (claims : CommandAuthorizationV1) (accepted : Timestamp) (now : HostTime) : Prop where
  mode : request.authorizationCommand.mode = .executeOrReplay ∨
    request.authorizationCommand.mode = .retryIfEffectAbsent
  acceptedAt : request.acceptedAt = some accepted
  issued : claims.issuedAtSeconds.toInt ≤ accepted.seconds.toInt
  nanos : 0 ≤ accepted.nanos.toInt ∧ accepted.nanos.toInt < 1000000000
  fence : config.executionFence request.authorizationCommand claims now = .ok ()

theorem validateMode_execute
    (h : validateMode P config request verified now = .ok (.execute claims accepted)) :
    claims = verified ∧ ModeAccepted config request claims accepted now := by
  unfold validateMode at h
  split at h
  case h_1 | h_2 =>
    rename_i hmode
    obtain ⟨stamp, hstamp, h⟩ := get_bind.1 h
    obtain ⟨hcheck, h⟩ := require_bind.1 h
    obtain ⟨_, hfence, h⟩ := bind_eq_ok.1 h
    cases h
    simp only [Bool.and_eq_true, decide_eq_true_eq] at hcheck
    exact ⟨rfl, by simp [hmode], hstamp, hcheck.1.1.1,
      ⟨hcheck.1.2, hcheck.2⟩, hfence⟩
  case h_3 =>
    obtain ⟨_, h⟩ := of_bind h
    cases h
  case h_4 => cases h

theorem validateMode_reconcile
    (h : validateMode P config request verified now = .ok (.reconcile claims)) :
    claims = verified ∧ request.authorizationCommand.mode = .reconcileOnly := by
  unfold validateMode at h
  split at h
  case h_1 | h_2 =>
    iterate 3 obtain ⟨_, h⟩ := of_bind h
    cases h
  case h_3 =>
    rename_i hmode
    obtain ⟨_, h⟩ := of_bind h
    cases h
    exact ⟨rfl, hmode⟩
  case h_4 => cases h

/-- The three parts of an accepted request: the verified command, its payload and its mode. -/
theorem validateRequest_ok (h : validateRequest P config request now = .ok validated) :
    ∃ claims, ControllerCommandKeyring.VerifiedCommand P config.commandKeys
        request.authorizationCommand config.nodeId now.seconds claims ∧
      validatePrivilegedPayload P request.authorizationCommand claims = .ok () ∧
      validateMode P config request claims now = .ok validated := by
  unfold validateRequest at h
  iterate 5 obtain ⟨_, h⟩ := of_bind h
  obtain ⟨claims, hverified, h⟩ := bind_eq_ok.1 h
  obtain ⟨_, hprivileged, h⟩ := bind_eq_ok.1 h
  exact ⟨claims, ControllerCommandKeyring.verifyCommand_verified P
    (Except.mapError_eq_ok_iff.1 hverified), hprivileged, h⟩

theorem validateRequest_parts
    (h : validateRequest P config request now = .ok (.execute claims accepted)) :
    ControllerCommandKeyring.VerifiedCommand P config.commandKeys request.authorizationCommand
        config.nodeId now.seconds claims ∧
      validatePrivilegedPayload P request.authorizationCommand claims = .ok () ∧
      ModeAccepted config request claims accepted now := by
  obtain ⟨verified, hverified, hprivileged, h⟩ := validateRequest_ok h
  obtain ⟨rfl, hmode⟩ := validateMode_execute h
  exact ⟨hverified, hprivileged, hmode⟩

theorem validateRequest_execute
    (h : validateRequest P config request now = .ok (.execute claims accepted)) :
    Executable P config request claims accepted := by
  obtain ⟨hverified, hprivileged, hmode⟩ := validateRequest_parts h
  obtain ⟨hids, hpayload⟩ := require_bind.1 hprivileged
  rw [List.all_eq_true] at hids
  exact {
    claimsOf := (claimsFromEnvelopeV1_spec hverified.projected).1
    nodeId := hverified.nodeId
    payload := hpayload
    identities := fun id hid => by simpa using hids id hid
    acceptedAt := hmode.acceptedAt
    issued := hmode.issued
    nanos := hmode.nanos }

end

end Privd

end Ocservia
