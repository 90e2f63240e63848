import Ocservia.Lib.Durable
import Ocservia.Agent.Validate

/-!
# The command executor

`CommandExecutor` of `agent/src/lib.rs`, as programs over the durable journal (`Durable`): each
journal call is one transaction, and between two transactions the process may crash. The external
operations hand out and settle the permission to call privd; `deliver` executes the synthetic
commands, whose effect is the journal's own.
-/

namespace Ocservia

/-- A program of the executor. -/
abbrev Agent (α : Type) := Durable Journal CommandError α

structure CommandOutcome where
  record : CommandRecord
  replayed : Bool
deriving DecidableEq

structure ExternalCommand where
  (key commandId : Uuid)
  acceptedAt : Int64
deriving DecidableEq

inductive ExternalPreparation where
  | execute (command : ExternalCommand)
  | replay (outcome : CommandOutcome)
deriving DecidableEq

inductive ExternalEffectObservation where
  | appliedExact | supersededByNewerRevision | absent | unknown
deriving DecidableEq

/-- The error code that `reconcile_external` stores. -/
def ExternalEffectObservation.code : ExternalEffectObservation → String
  | .appliedExact => "attested_result_missing"
  | .supersededByNewerRevision => "attested_result_superseded"
  | .absent => "effect_absent"
  | .unknown => "manual_reconciliation_required"

inductive DesiredRevisionFence where
  | current | superseded | gap

namespace Agent

/-! ## Journal calls -/

/-- A check that does not touch the journal. -/
def check {α : Type} (x : Except CommandError α) : Agent α := .read fun _ => x

def command (key : Uuid) : Agent (Option CommandRecord) := .read fun j => .ok (j.command key)

def syntheticEffect (key : Uuid) : Agent (Option SyntheticEffect) :=
  .read fun j => .ok (j.syntheticEffect key)

/-- A journal transaction before the effect. -/
def preEffect {α : Type} (f : Journal → Except JournalError (α × Journal)) : Agent α :=
  (Durable.transact f).mapErr .preEffectJournalFailure

/-- A transaction after the effect, whose failure leaves the outcome unknown. -/
def postEffect {α : Type} (code : String) (before : CommandRecord)
    (f : Journal → Except JournalError (α × Journal)) : Agent α :=
  (Durable.transact f).mapErr (.outcomeUnknown code before)

section
variable (v : ValidatedCommand)

/-- `journal.accept_command(..)` for a validated command. -/
def accept (now : Int64) : Agent AcceptOutcome :=
  preEffect (Journal.acceptCommand v.key v.commandId v.payloadHash v.hashVersion.toInt32 now)

/-- `journal.transition_command(..)` before the effect. -/
def transition (key : Uuid) (fromStates : List CommandState) (toState : CommandState)
    (result : Option Bytes) (errorCode : Option String) (now : Int64) : Agent CommandRecord :=
  preEffect (Journal.transitionCommand key fromStates toState result errorCode now)

/-! ## Revision fence and record lookup -/

section
variable (envelope : CommandEnvelope)

/-- The `desired_resource` of the executor. -/
def desiredResource : Option AppliedResourceRevision :=
  match envelope.payload with
  | some (.userCreate p) | some (.userPasswordRotate p) =>
    some ⟨"user", p.username, p.desiredRevision⟩
  | some (.userDisable p) | some (.userEnable p) => some ⟨"user", p.username, p.desiredRevision⟩
  | some (.groupApply p) => some ⟨"group", p.groupName, p.desiredRevision⟩
  | some (.configApply p) => some ⟨"config", "ocserv.conf", p.desiredRevision⟩
  | some (.completeConfigApply p) => some ⟨"config", "ocserv.conf", p.desiredRevision⟩
  | _ => none

/-- The fence of a desired revision against the applied one. -/
def fenceAt (resource : AppliedResourceRevision) (j : Journal) :
    Except CommandError DesiredRevisionFence :=
  if resource.revision = 0 then .error (.rejected "desired_revision_invalid")
  else
    let expectedPrevious := resource.revision.toNat - 1
    let localRevision := (j.appliedRevision resource.resourceType resource.resourceKey).getD 0
    .ok (match compare localRevision expectedPrevious with
      | .eq => .current
      | .gt => .superseded
      | .lt => .gap)

def desiredRevisionFence : Agent DesiredRevisionFence :=
  .read fun j =>
    match desiredResource envelope with
    | none => .ok .current
    | some resource => fenceAt resource j

def requireCurrentDesiredRevision : Agent Unit := do
  match ← desiredRevisionFence envelope with
  | .current => pure ()
  | .superseded => throw (.rejected "effect_superseded_by_newer_revision")
  | .gap => throw (.rejected "revision_gap")

end

/-- `matching_record`, on the records found by key and by command id. -/
def matchRecord : Option CommandRecord → Option CommandRecord → Except CommandError CommandRecord
  | some byKey, some byCommand =>
    if byKey.idempotencyKey = byCommand.idempotencyKey ∧ byKey.commandId = v.commandId then
      if byKey.payloadHashVersion ≠ v.hashVersion.toInt32 then
        .error (.rejected "semantic_hash_version_conflict")
      else if byKey.payloadSha256 = v.payloadHash then .ok byKey
      else .error .payloadConflict
    else .error .identityConflict
  | none, none => .error (.rejected "command_not_accepted")
  | _, _ => .error .identityConflict

/-- `matching_record`, with its refusal as a value. -/
def matchingRecord : Agent (Except CommandError CommandRecord) :=
  .read fun j => .ok (matchRecord v (j.command v.key) (j.commandById v.commandId))

/-- The record of a known command, or of one that is accepted now (the flag). -/
def matchingOrAccepted (now : Int64) : Agent (CommandRecord × Bool) := do
  match ← matchingRecord v with
  | .ok record => return (record, false)
  | .error (.rejected "command_not_accepted") =>
    match ← accept v now with
    | .accepted record | .replay record => return (record, true)
    | .payloadConflict _ => throw .payloadConflict
    | .identityConflict _ => throw .identityConflict
  | .error error => throw error

end

section
variable (P : Platform) (envelope : CommandEnvelope) (context : CommandContext)

/-- `validate_command` and the check that the command is external. -/
def validateExternal : Agent ValidatedCommand :=
  check do
    let v ← validateCommand P envelope context
    requireOr v.external "external_command_required"
    return v

/-! ## External operations -/

/-- The replay branch of `prepare_external`. -/
def replayExternal (record : CommandRecord) (v : ValidatedCommand) (now : Int64) :
    Agent CommandRecord :=
  if record.state.terminal || (record.state == .unknown &&
      record.errorCode == some "outcome_requires_reconciliation") then
    pure record
  else
    transition v.key [.accepted, .running, .unknown] .unknown none
      (some "outcome_requires_reconciliation") now

def prepareExternal : Agent ExternalPreparation := do
  let v ← validateExternal P envelope context
  let known ← command v.key
  let _ ← (if known.isNone then requireCurrentDesiredRevision envelope else pure () : Agent Unit)
  match ← accept v context.nowUnixSeconds with
  | .payloadConflict _ => throw .payloadConflict
  | .identityConflict _ => throw .identityConflict
  | .replay record =>
    let record ← replayExternal record v context.nowUnixSeconds
    return .replay ⟨record, true⟩
  | .accepted _ =>
    let _ ← transition v.key [.accepted] .running none none context.nowUnixSeconds
    return .execute ⟨v.key, v.commandId, context.nowUnixSeconds⟩

def beginAttestedRecovery : Agent ExternalCommand := do
  let v ← validateExternal P envelope context
  let (record, _) ← matchingOrAccepted v context.nowUnixSeconds
  let _ ← check (requireOr (record.state == .accepted || record.state == .unknown)
    "reconciliation_state_invalid")
  let record ← transition v.key [.accepted, .unknown] .running none none context.nowUnixSeconds
  return ⟨v.key, v.commandId, record.acceptedAt⟩

/-- The record of the key, which must be there. -/
def acceptedBefore (key : Uuid) : Agent CommandRecord :=
  .read fun j => Checked.get (j.command key) (.rejected "command_not_accepted")

/-- The state, result and error code that `complete_external_attested` stores. -/
def completion : Except String Bytes → CommandState × Option Bytes × Option String
  | .ok bytes =>
    if bytes.length ≤ maxCommandBytes then (.succeeded, some bytes, none)
    else (.failed, none, some "result_too_large")
  | .error code => (.failed, none, some code)

section
variable (permit : ExternalCommand)

def completeExternalAttested (result : Except String Bytes)
    (proof : Bytes) (now : Int64) : Agent CommandOutcome := do
  let (state, bytes, code) := completion result
  let before ← acceptedBefore permit.key
  let record ← postEffect "attested_result_persistence_failed" before
    (Journal.transitionCommandAttested permit.key [.running] state bytes code proof now)
  if record.commandId ≠ permit.commandId then throw .identityConflict
  else return ⟨record, false⟩

def completeExternalAppliedAttested
    (resource : AppliedResourceRevision) (result proof : Bytes) (now : Int64) :
    Agent CommandOutcome := do
  let before ← acceptedBefore permit.key
  let record ← postEffect "attested_result_persistence_failed" before
    (Journal.completeExternalWithRevisionAttested permit.key permit.commandId resource result
      proof now)
  return ⟨record, false⟩

def markExternalUnknown (code : String) (now : Int64) : Agent CommandOutcome := do
  let record ← transition permit.key [.running] .unknown none (some code) now
  if record.commandId ≠ permit.commandId then throw .identityConflict
  else return ⟨record, false⟩

end

/-- The observation that counts once the revision fence is known. -/
def fencedObservation (rebuiltJournal : Bool) (observation : ExternalEffectObservation) :
    DesiredRevisionFence → Except CommandError ExternalEffectObservation
  | .current => .ok observation
  | .superseded => .ok .supersededByNewerRevision
  | .gap =>
    if rebuiltJournal && observation == .appliedExact then .ok observation
    else .error (.rejected "revision_gap")

def reconcileExternal (observation : ExternalEffectObservation) : Agent CommandOutcome := do
  let v ← validateExternal P envelope context
  let (record, rebuiltJournal) ← matchingOrAccepted v context.nowUnixSeconds
  if record.state.terminal then return ⟨record, true⟩
  else
    let fence ← desiredRevisionFence envelope
    let observation ← check (fencedObservation rebuiltJournal observation fence)
    let record ← transition v.key [.accepted, .running, .unknown] .unknown none
      (some observation.code) context.nowUnixSeconds
    return ⟨record, true⟩

def retryExternal : Agent ExternalCommand := do
  let v ← validateExternal P envelope context
  let found ← matchingRecord v
  let record ← check found
  let _ ← check (requireOr (record.state == .unknown && record.errorCode == some "effect_absent")
    "reconciliation_required")
  requireCurrentDesiredRevision envelope
  let _ ← transition v.key [.unknown] .running none none context.nowUnixSeconds
  return ⟨v.key, v.commandId, record.acceptedAt⟩

/-! ## Synthetic commands -/

def reconcileReplay (record : CommandRecord) (v : ValidatedCommand) (now : Int64)
    (explicit : Bool) : Agent CommandOutcome := do
  if record.state.terminal then return ⟨record, true⟩
  else
    match ← syntheticEffect v.key with
    | some effect =>
      if effect.payloadSha256 ≠ v.payloadHash then
        throw (.rejected "idempotency_payload_conflict")
      else
        let record ← postEffect "result_persistence_failed" record
          (Journal.transitionCommand v.key [.accepted, .running, .unknown] .succeeded
            (some effect.result) none now)
        return ⟨record, true⟩
    | none =>
      let errorCode := if explicit then "effect_absent" else "outcome_requires_reconciliation"
      if record.state == .unknown && record.errorCode == some errorCode then
        return ⟨record, true⟩
      else
        let record ← transition v.key [.accepted, .running, .unknown] .unknown none
          (some errorCode) now
        return ⟨record, true⟩

/-- `journal.execute_and_complete_synthetic(..)` for a validated command. -/
def completeSynthetic (v : ValidatedCommand) (now : Int64) : Agent CommandRecord :=
  preEffect
    (Journal.executeAndCompleteSynthetic v.key v.commandId v.payloadHash v.result now)

def execute : Agent CommandOutcome := do
  let v ← check (validateCommand P envelope context)
  match ← accept v context.nowUnixSeconds with
  | .payloadConflict _ => throw .payloadConflict
  | .identityConflict _ => throw .identityConflict
  | .replay record => reconcileReplay record v context.nowUnixSeconds false
  | .accepted _ =>
    let _ ← transition v.key [.accepted] .running none none context.nowUnixSeconds
    let record ← completeSynthetic v context.nowUnixSeconds
    return ⟨record, false⟩

def reconcile : Agent CommandOutcome := do
  let v ← check (validateCommand P envelope context)
  let found ← matchingRecord v
  let record ← check found
  reconcileReplay record v context.nowUnixSeconds true

def retryUnknown : Agent CommandOutcome := do
  if envelope.protocolVersion = legacyCommandProtocolVersion then reconcile P envelope context
  else
    let v ← check (validateCommand P envelope context)
    let found ← matchingRecord v
    let record ← check found
    let _ ← check (requireOr (record.state == .unknown) "command_not_unknown")
    let _ ← check (requireOr (record.errorCode == some "effect_absent") "reconciliation_required")
    match ← syntheticEffect v.key with
    | some _ => reconcileReplay record v context.nowUnixSeconds false
    | none =>
      let _ ← transition v.key [.unknown] .running none none context.nowUnixSeconds
      let record ← completeSynthetic v context.nowUnixSeconds
      return ⟨record, true⟩

def deliver : Agent CommandOutcome :=
  match envelope.mode with
  | .executeOrReplay => execute P envelope context
  | .reconcileOnly => reconcile P envelope context
  | .retryIfEffectAbsent => retryUnknown P envelope context
  | .unspecified => throw (.rejected "delivery_mode_invalid")

end

end Agent

end Ocservia
