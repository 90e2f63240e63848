import Ocservia.Lib.Trace
import Ocservia.Agent.External

/-!
# Delivering a command on the Agent

`execute_external_command` of `agent/src/main.rs` and the routing before it: a delivery of an
external payload asks privd and settles the journal record from its answer, every other delivery
goes to the synthetic executor. What privd answers is an input (`PrivdAnswers`).

`agentSystem` is one journal under any sequence of deliveries of given envelopes, each of which may
be cut by a crash.
-/

namespace Ocservia

open Durable Journal Spec

/-- What privd answers during one delivery, and the observed effect. -/
structure PrivdAnswers where
  (command reconcile : Option PrivdResponse)
  observed : ExternalEffectObservation

def terminalPrivdErrorCode (kind : Int32) : Option String :=
  match (ErrorKind.tryFrom kind).getD .unspecified with
  | .capacityExceeded => some "capacity_exceeded"
  | .invalidRequest | .permissionDenied | .malformedOutput => some "privd_rejected"
  | _ => none

/-- A terminal outcome: an applied mutation, a typed result, or a terminal error. -/
def PrivdResult.terminal : PrivdResult → Bool
  | .mutation applied => applied
  | .configPlan _ | .configApply _ | .certificateCsr _ | .certificateRevoke _ | .certificateP12 _
  | .agentUpgradeScheduled _ => true
  | .error kind _ => (terminalPrivdErrorCode kind).isSome
  | .observation => false

namespace Agent

section
variable (P : Platform)

/-- `response_proof`: the proof of a well-formed receipt and its completion time. -/
def responseProof (response : PrivdResponse) : Option (Bytes × Int64) :=
  match response.privilegedResultProof with
  | none => none
  | some proof =>
    if proof.version ≠ privdReceiptVersionV1 ∨ proof.signature.length ≠ 64 then none
    else
      match proof.receiptV1 with
      | none => none
      | some receipt =>
        if receipt.receiptVersion ≠ privdReceiptVersionV1 then none
        else
          match receipt.completedAt with
          | none => none
          | some completedAt =>
            if completedAt.seconds.toInt < 0 then none
            else if (P.encodeProof proof).length ≤ 65536 then
              some (P.encodeProof proof, completedAt.seconds)
            else none

section
variable (envelope : CommandEnvelope)

/-- A certificate resource: the UUID of `id`, at the expected revision. -/
def certificateResource (resourceType : String) (id : Bytes) : Option AppliedResourceRevision :=
  if h : id.length = 16 then some ⟨resourceType, P.uuidText ⟨id, h⟩, envelope.expectedRevision⟩
  else none

/-- The `desired_resource` of `main.rs`, which names the certificate resources too. -/
def resultResource : Option AppliedResourceRevision :=
  match envelope.payload with
  | some (.certificateCsr p) => certificateResource P envelope "certificate_key" p.certificateId
  | some (.certificateRevoke p) =>
    certificateResource P envelope "certificate_revoke" p.certificateId
  | some (.certificateP12 p) => certificateResource P envelope "certificate_artifact" p.artifactId
  | _ => desiredResource envelope

/-- How a terminal outcome is stored. -/
inductive Storage where
  /-- With the result or the error code alone. -/
  | attested (result : Except String Bytes)
  /-- Together with the applied revision. -/
  | applied (resource : AppliedResourceRevision) (result : Bytes)
  /-- The outcome is not terminal. -/
  | undecided
  /-- A configuration result for a payload without a resource. -/
  | refused

/-- The branch of `execute_external_command` that an answered result takes. -/
def storageOf : Option PrivdResult → Storage
  | some (.mutation true) =>
    match resultResource P envelope with
    | some resource => .applied resource (P.encodeResult (.mutation true))
    | none => .attested (.ok (P.encodeResult (.mutation true)))
  | some (.configApply result) =>
    match resultResource P envelope with
    | some resource => .applied resource (P.encodeResult (.configApply result))
    | none => .refused
  | some (.configPlan result) => .attested (.ok (P.encodeResult (.configPlan result)))
  | some (.certificateCsr result) => .attested (.ok (P.encodeResult (.certificateCsr result)))
  | some (.certificateRevoke result) => .attested (.ok (P.encodeResult (.certificateRevoke result)))
  | some (.certificateP12 result) => .attested (.ok (P.encodeResult (.certificateP12 result)))
  | some (.agentUpgradeScheduled result) =>
    .attested (.ok (P.encodeResult (.agentUpgradeScheduled result)))
  | some (.error kind _) =>
    match terminalPrivdErrorCode kind with
    | some code => .attested (.error code)
    | none => .undecided
  | some (.mutation false) | some .observation | none => .undecided

end

/-- Only the resource of the payload is stored as applied. -/
theorem storageOf_applied {P : Platform} {envelope : CommandEnvelope} {result : Option PrivdResult}
    {resource : AppliedResourceRevision} {bytes : Bytes}
    (h : storageOf P envelope result = .applied resource bytes) :
    resultResource P envelope = some resource := by
  unfold storageOf at h
  split at h
  all_goals first | cases h | skip
  iterate 2
    split at h
    · rename_i res hres
      cases h
      exact hres
    · cases h
  · split at h <;> cases h

section
variable (envelope : CommandEnvelope)

/-- What `execute_external_command` does with privd's answer to a permitted command. -/
def settleResponse (permit : ExternalCommand) (now : Int64) :
    Option PrivdResponse → Agent CommandOutcome
  | none => markExternalUnknown permit "privd_transport_unknown" now
  | some response =>
    match responseProof P response with
    | none => markExternalUnknown permit "privd_receipt_missing_or_malformed" now
    | some (proof, completedAt) =>
      match storageOf P envelope response.result with
      | .attested result => completeExternalAttested permit result proof completedAt
      | .applied resource result =>
        completeExternalAppliedAttested permit resource result proof completedAt
      | .undecided => markExternalUnknown permit "privd_outcome_unknown" now
      | .refused => throw (.rejected "config_apply_invalid")

def executeExternalCommand (context : CommandContext)
    (privd : PrivdAnswers) : Agent CommandOutcome :=
  match envelope.mode with
  | .executeOrReplay => do
    match ← prepareExternal P envelope context with
    | .execute permit => settleResponse P envelope permit context.nowUnixSeconds privd.command
    | .replay outcome => return outcome
  | .reconcileOnly =>
    if (privd.reconcile.bind (responseProof P)).isSome then do
      let permit ← beginAttestedRecovery P envelope context
      settleResponse P envelope permit context.nowUnixSeconds privd.reconcile
    else reconcileExternal P envelope context privd.observed
  | .retryIfEffectAbsent => do
    let permit ← retryExternal P envelope context
    settleResponse P envelope permit context.nowUnixSeconds privd.command
  | .unspecified => throw (.rejected "delivery_mode_invalid")

/-- The payloads that `handle_command_stream` routes to `execute_external_command`. -/
def routesExternal : Bool :=
  match envelope.payload with
  | none | some .simulationProbe => false
  | some payload => !payload.synthetic

/-- The execution of one delivered command in `handle_command_stream`. -/
def handleCommand (context : CommandContext) (privd : PrivdAnswers) : Agent CommandOutcome :=
  if routesExternal envelope then executeExternalCommand P envelope context privd
  else deliver P envelope context

end

end

/-! ## Its writes -/

/-- The answer that a delivery from `j₀` settles a command from: of the execution, with the fence
current, or a receipt that privd kept. -/
inductive Answered (P : Platform) (envelope : CommandEnvelope) (privd : PrivdAnswers) (j₀ : Journal)
    (response : PrivdResponse) : Prop where
  | command (answer : privd.command = some response) (fence : FenceCurrent envelope j₀)
  | reconcile (answer : privd.reconcile = some response)
      (proof : (responseProof P response).isSome = true)

/-- `A` admits what a delivery of an external command from `j₀` may write. -/
structure DeliveryAllows (P : Platform) (envelope : CommandEnvelope) (privd : PrivdAnswers)
    (j₀ : Journal) (A : JournalWrite → Prop) : Prop where
  allows : AllowsFor A envelope
  unknown : ∀ key : Uuid, key.1 = envelope.idempotencyKey → AllowsUnknown A key
  attested : ∀ response result old new, Answered P envelope privd j₀ response →
    storageOf P envelope response.result = .attested result →
    old.idempotencyKey.1 = envelope.idempotencyKey → SameIdentity old new →
    new.state = (completion result).1 → A (.attested old new)
  applied : ∀ response resource bytes now old new, Answered P envelope privd j₀ response →
    storageOf P envelope response.result = .applied resource bytes →
    old.idempotencyKey.1 = envelope.idempotencyKey → SameIdentity old new →
    new.state = .succeeded → A (.applied resource now old new)

theorem settleResponse_spec (hA : DeliveryAllows P envelope privd j₀ A)
    (hkey : permit.key.1 = envelope.idempotencyKey)
    (hans : ∀ r, response = some r → Answered P envelope privd j₀ r) :
    Spec Pre (settleResponse P envelope permit now response) (Via A) (fun _ _ => True) := by
  have hallows : Allows A permit.key := hA.allows permit.key hkey
  unfold settleResponse
  split
  · exact markExternalUnknown_spec hallows (by decide)
  rename_i r
  split
  · exact markExternalUnknown_spec hallows (by decide)
  split
  · rename_i result hst
    refine completeExternalAttested_spec fun old new hold hs hstate => ?_
    exact hA.attested r result old new (hans r rfl) hst (by rw [hold, hkey]) hs hstate
  · rename_i resource bytes hst
    refine completeExternalAppliedAttested_spec fun old new hold hs hstate => ?_
    exact hA.applied r resource bytes _ old new (hans r rfl) hst (by rw [hold, hkey]) hs hstate
  · exact markExternalUnknown_spec hallows (by decide)
  · exact throw _

/-- **What a delivery of an external command may write.** -/
theorem executeExternalCommand_spec (hA : DeliveryAllows P envelope privd j₀ A) :
    Spec (· = j₀) (executeExternalCommand P envelope context privd) (Via A) (fun _ _ => True) := by
  unfold executeExternalCommand
  split
  · refine bind (prepareExternal_spec hA.allows j₀) fun prep => ?_
    cases prep with
    | replay outcome => exact pure fun _ _ => trivial
    | execute permit =>
      refine assume (F := permit.key.1 = envelope.idempotencyKey ∧ FenceCurrent envelope j₀)
        (fun j h => ?_) fun hp => settleResponse_spec hA hp.1 fun r hr => .command hr hp.2
      obtain ⟨hi, -, hrev⟩ := h permit rfl
      exact ⟨hi.key, hi.fence.of_revisions hrev.symm⟩
  · split
    · rename_i hproof
      refine bind (beginAttestedRecovery_spec hA.allows) fun permit => ?_
      refine assume (fun j h => h) fun hkey => settleResponse_spec hA hkey fun r hr => ?_
      rw [hr] at hproof
      exact .reconcile hr hproof
    · exact reconcileExternal_spec hA.allows hA.unknown
  · refine bind (retryExternal_spec hA.allows j₀) fun permit => ?_
    refine assume (F := permit.key.1 = envelope.idempotencyKey ∧ FenceCurrent envelope j₀)
      (fun j h => ?_) fun hp => settleResponse_spec hA hp.1 fun r hr => .command hr hp.2
    obtain ⟨hi, hrev, -⟩ := h
    exact ⟨hi.key, hi.fence.of_revisions hrev.symm⟩
  · exact throw _

end Agent

/-! ## The system -/

/-- One delivery: envelope, session, privd's answers, and what was observed. -/
structure Delivery where
  envelope : CommandEnvelope
  context : CommandContext
  privd : PrivdAnswers
  observed : Observation Journal CommandError CommandOutcome

/-- One journal under deliveries from `E`, each possibly cut by a crash. -/
def agentSystem (P : Platform) (E : Set CommandEnvelope) : LTS Journal Delivery where
  init j := j = Journal.fresh
  step j ℓ j' := ℓ.envelope ∈ E ∧
    (Agent.handleCommand P ℓ.envelope ℓ.context ℓ.privd).Exec j ℓ.observed ∧
    j' = ℓ.observed.after j

/-! ## Sample deliveries -/

/-- The delivery that runs to its end from `j`. -/
def completedDelivery (P : Platform) (envelope : CommandEnvelope) (context : CommandContext)
    (privd : PrivdAnswers) (j : Journal) : Delivery where
  envelope := envelope
  context := context
  privd := privd
  observed := ⟨(Agent.handleCommand P envelope context privd).writes j,
    some ((Agent.handleCommand P envelope context privd).result j)⟩

theorem completedDelivery_step (P : Platform) (envelope : CommandEnvelope)
    (context : CommandContext) (privd : PrivdAnswers) (j : Journal) (he : envelope ∈ E) :
    (agentSystem P E).step j (completedDelivery P envelope context privd j)
      ((Agent.handleCommand P envelope context privd).final j) :=
  ⟨he, .complete, rfl⟩

/-- A receipt of the sample command, completed at `now`. -/
def sampleReceipt (now : Int64) : PrivdResultReceiptV1 where
  receiptVersion := 1
  nodeId := (sampleUuid 3).1
  privdAttestationKeyId := "privd"
  commandId := (sampleUuid 1).1
  operationId := (sampleUuid 2).1
  idempotencyKey := (sampleUuid 2).1
  semanticPayloadHashVersion := 2
  semanticPayloadSha256 := List.replicate 32 0
  commandKind := PrivilegedCommandKind.userDisable.toInt32
  resultKind := PrivilegedResultKind.mutation.toInt32
  terminalState := 3
  resultBytesSha256 := List.replicate 32 0
  errorCodeSha256 := []
  effectRecordId := (sampleUuid 4).1
  effectSequence := 1
  acceptedAt := some ⟨now, 0⟩
  completedAt := some ⟨now, 0⟩
  replayed := false
  certificate := none

/-- The answer that the mutation was applied at `now`, with its receipt. -/
def sampleApplied (now : Int64) : PrivdResponse where
  privilegedResultProof := some ⟨1, some (sampleReceipt now), List.replicate 64 0⟩
  result := some (.mutation true)

end Ocservia
