import Ocservia.Lib.Trace
import Ocservia.Contract.Text
import Ocservia.Controller.Commands

/-!
# Desired users and groups

`internal/userstate/service.go`: a mutation of one user or group of a node takes the next desired
revision of the resource, or replaces a command of the current revision that was never applied, and
enqueues a command that carries the revision. `Mutate` runs in one transaction that locks the node
and the desired row; dispatch, results and expiry of the commands run between its statements. It is
therefore cut in two: `Mutation.begin` ends with the read of the previous command
(`revisionReplacement`), `Mutation.commit` begins with the statements that supersede pending
commands. The checks on other rows are left out; a mutation may be given up at any point instead.
-/

namespace Ocservia

/-! ## Requests -/

inductive MutationKind where
  | userCreate | userDisable | userEnable | userPasswordRotate | groupApply
deriving DecidableEq

structure SealedSecret where
  version : UInt32
  (purpose keyId : String)
  ciphertext : Bytes

structure MutationRequest where
  nodeId : Bytes
  kind : MutationKind
  (name idempotencyKey : String)
  members : List String
  sealedPassword : Option SealedSecret
  expectedVersion : Int
  ttl : Time
  (actorId reason requestId traceparent : String)

def isLowerHex (c : Char) : Bool := ('0' ≤ c && c ≤ '9') || ('a' ≤ c && c ≤ 'f')

/-- `tracecontext.TraceID`; the empty text stands for a traceparent that is not accepted. -/
def traceID (value : String) : String :=
  if value.utf8ByteSize ≠ 55 then ""
  else
    match value.toList.splitOn '-' with
    | [version, trace, span, flags] =>
      if version = ['0', '0'] ∧ trace.length = 32 ∧ span.length = 16 ∧ flags.length = 2 ∧
          trace.all isLowerHex ∧ span.all isLowerHex ∧ flags.all isLowerHex ∧
          ¬ trace.all (· == '0') ∧ ¬ span.all (· == '0') then String.ofList trace
      else ""
    | _ => ""

namespace MutationRequest

def maxManagedResources : Nat := 384

/-- The checks of `validateMutation` on a sealed password. -/
def validPassword (secret : SealedSecret) : Bool :=
  secret.version == 1 && secret.purpose == "user_password" && secret.keyId != "" &&
    secret.keyId.utf8ByteSize ≤ 128 && 32 ≤ secret.ciphertext.length &&
    secret.ciphertext.length ≤ 4096

/-- `validateMutation`. -/
def validate (request : MutationRequest) : Bool :=
  !request.nodeId.all (· == 0) && validName request.name && request.idempotencyKey != "" &&
    request.idempotencyKey.utf8ByteSize ≤ 128 && 0 ≤ request.expectedVersion &&
    oneSecond ≤ request.ttl && request.ttl ≤ 24 * 3600 * oneSecond && !isBlank request.actorId &&
    !isBlank request.reason && request.reason.utf8ByteSize ≤ 512 && request.requestId != "" &&
    traceID request.traceparent != "" &&
    (if request.kind = .userCreate ∨ request.kind = .userPasswordRotate then
      request.sealedPassword.any validPassword
    else request.sealedPassword.isNone) &&
    (if request.kind = .groupApply then
      request.members.length ≤ maxManagedResources && request.members.all validName
    else request.members.isEmpty)

def sealedSecretProto (secret : SealedSecret) : SealedSecretV1 :=
  ⟨secret.version.toInt32, SealedSecretPurpose.userPassword.toInt32, secret.keyId,
    secret.ciphertext⟩

/-- `slices.Compact`: of equal neighbours only the first stays. -/
def compact : List String → List String
  | a :: b :: rest => if a = b then compact (b :: rest) else a :: compact (b :: rest)
  | rest => rest

def normalizeMembers (members : List String) : List String :=
  compact (members.mergeSort fun a b => decide (Wire.utf8 a ≤ Wire.utf8 b))

/-- The payload of `marshalEnvelope`. -/
def payload (request : MutationRequest) (desiredRevision : UInt64) : Payload :=
  let secret : UserSecret :=
    ⟨request.name, [], "", desiredRevision, request.sealedPassword.map sealedSecretProto⟩
  match request.kind with
  | .userCreate => .userCreate secret
  | .userDisable => .userDisable ⟨request.name, desiredRevision⟩
  | .userEnable => .userEnable ⟨request.name, desiredRevision⟩
  | .userPasswordRotate => .userPasswordRotate secret
  | .groupApply => .groupApply ⟨request.name, normalizeMembers request.members, desiredRevision⟩

end MutationRequest

/-- The desired revision that a command on a user or group carries. -/
def Payload.userRevision : Payload → Option UInt64
  | .userCreate p | .userPasswordRotate p => some p.desiredRevision
  | .userDisable p | .userEnable p => some p.desiredRevision
  | .groupApply p => some p.desiredRevision
  | _ => none

theorem MutationRequest.payload_userRevision (request : MutationRequest) (revision : UInt64) :
    (request.payload revision).userRevision = some revision := by
  unfold payload
  cases request.kind <;> rfl

/-! ## Rows -/

/-- The errors of `Mutate` about the state of the resource. -/
inductive MutationError where
  | invalidRequest | versionConflict | revisionPending | revisionRecovery | notFound

/-- A row of `desired_users` or `desired_groups`. -/
structure Desired where
  (version revision : Nat)

/-- A command on the resource. -/
structure ResourceCommand where
  kind : MutationKind
  expectedVersion : Nat
  command : Command

def ResourceCommand.revision (rc : ResourceCommand) : Nat := rc.expectedVersion + 1

/-- The rows of one user or group: its desired row and its commands, newest first. -/
structure ResourceRows where
  desired : Option Desired
  commands : List ResourceCommand

namespace ResourceRows

section
variable (rows : ResourceRows)

/-- The revision of the desired row, `0` without one. -/
def revision : Nat := (rows.desired.map (·.revision)).getD 0

/-- `LastRevision`: the newest command of a revision. -/
def lastRevision (revision : Nat) : Option ResourceCommand :=
  rows.commands.find? (·.revision = revision)

/-- The latest outcome recorded for a revision. -/
def outcome (revision : Nat) : Option CommandStatus :=
  (rows.lastRevision revision).map (·.command.state)

def lockDesired (kind : MutationKind) : Except MutationError (Nat × Nat) :=
  match rows.desired with
  | some d => .ok (d.version, d.revision)
  | none =>
    if kind = .userCreate ∨ kind = .groupApply then .ok (0, 0) else .error .notFound

/-- `revisionReplacement`; `safeRejected` is what the results stored for a rejected command say. -/
def revisionReplacement (kind : MutationKind) (safeRejected : Bool)
    (currentRevision : Nat) : Except MutationError Bool :=
  if currentRevision = 0 then .ok false
  else
    match rows.lastRevision currentRevision with
    | none => .ok false
    | some previous =>
      match previous.command.state with
      | .succeeded => .ok false
      | .failed | .expired | .rolledBack =>
        if previous.kind ≠ kind then .error .revisionRecovery else .ok true
      | .rejected =>
        if safeRejected = false ∨ previous.kind ≠ kind then .error .revisionRecovery else .ok true
      | .queued => if previous.kind = kind then .ok false else .error .revisionPending
      | .dispatched | .accepted | .running | .unknown | .superseded => .error .revisionPending

end

end ResourceRows

/-! ## Mutate -/

/-- A mutation that has locked the desired row and read the previous command. -/
structure Mutation where
  request : MutationRequest
  (currentVersion currentRevision : Nat)
  /-- The state in which the previous command was read. -/
  previous : Option CommandStatus
  replaceRevision : Bool

namespace Mutation

/-- `Mutate`, up to the read of the previous command. -/
def begin (rows : ResourceRows) (request : MutationRequest) (safeRejected : Bool) :
    Except MutationError Mutation :=
  if request.validate = false then .error .invalidRequest
  else
    match rows.lockDesired request.kind with
    | .error e => .error e
    | .ok (currentVersion, currentRevision) =>
      if (currentVersion : Int) ≠ request.expectedVersion then .error .versionConflict
      else
        match rows.revisionReplacement request.kind safeRejected currentRevision with
        | .error e => .error e
        | .ok replaceRevision =>
          if request.kind = .userCreate ∧ 0 < currentVersion ∧ replaceRevision = false then
            .error .versionConflict
          else
            .ok ⟨request, currentVersion, currentRevision, rows.outcome currentRevision,
              replaceRevision⟩

/-- `SupersedePending` on one command: of the kind and the current revision of the mutation. -/
def superseded (m : Mutation) (rc : ResourceCommand) : Option ResourceCommand :=
  if m.request.kind ≠ .userCreate ∧ rc.kind = m.request.kind ∧ rc.revision = m.currentRevision then
    rc.command.supersede.map fun command => { rc with command }
  else none

/-- A pending command is superseded. -/
def coalesced (m : Mutation) (rows : ResourceRows) : Bool :=
  rows.commands.any fun rc => (m.superseded rc).isSome

/-- `Mutate`, from `supersedePending` on. -/
def commit (m : Mutation) (rows : ResourceRows) (now : Time) : ResourceRows :=
  let replaces := m.coalesced rows || m.replaceRevision
  -- Replacing a command that never applied must not leave a revision gap.
  let nextRevision := if replaces then m.currentRevision else m.currentRevision + 1
  let commandExpectedRevision := if replaces then m.currentRevision - 1 else m.currentRevision
  let command := Command.enqueued (m.request.payload (UInt64.ofNat nextRevision)) false
    (now + m.request.ttl) now
  { desired := some ⟨m.currentVersion + 1, nextRevision⟩
    commands := ⟨m.request.kind, commandExpectedRevision, command⟩ ::
      rows.commands.map fun rc => (m.superseded rc).getD rc }

end Mutation

end Ocservia
