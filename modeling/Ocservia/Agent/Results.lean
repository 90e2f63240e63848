import Ocservia.Agent.Settle

/-!
# The result message of a command

`command_result` of `agent/src/main.rs` builds the message that reports a command from its journal
record: the times and the replay flag are those of the stored receipt when there is one. What a
settled record reports is what privd's receipt is about (`settled_reports`), except for an outcome
that the journal does not store as it is: a mutation that was not applied, and a result that is too
large.
-/

namespace Ocservia

open Durable Journal Privd Option Except

namespace Agent

/-- The result state of a journal state. -/
def resultState : CommandState → CommandResultState
  | .succeeded => .succeeded
  | .failed => .failed
  | .unknown | .accepted | .running => .unknown

/-- `command_result`; `decodeProof` is `PrivilegedResultProof::decode`. -/
def commandResult (decodeProof : Bytes → Option PrivilegedResultProof) (record : CommandRecord)
    (replayed : Bool) : CommandResult :=
  let proof := record.privilegedResultProof.bind decodeProof
  let receipt := proof.bind (·.receiptV1)
  { commandId := record.commandId.1
    idempotencyKey := record.idempotencyKey.1
    payloadSha256 := record.payloadSha256.1
    state := (resultState record.state).toInt32
    result := record.result.getD []
    errorCode := record.errorCode.getD ""
    acceptedAt := (receipt.bind (·.acceptedAt)).or (some ⟨record.acceptedAt, 0⟩)
    completedAt := (receipt.bind (·.completedAt)).or (some ⟨record.updatedAt, 0⟩)
    replayed := receipt.any (·.replayed) || (proof.isNone && replayed)
    semanticPayloadHashVersion := record.payloadHashVersion
    privilegedResultProof := proof }

/-! ## What a settled record holds -/

/-- The record `record` of the command of `r` holds an outcome and its proof. -/
structure HoldsOutcome (r record : CommandRecord) (state : CommandState) (result : Option Bytes)
    (errorCode : Option String) (proof : Bytes) : Prop where
  same : SameIdentity r record
  state : record.state = state
  result : record.result = result
  errorCode : record.errorCode = errorCode
  proof : record.privilegedResultProof = some proof

/-- What the answer to a permitted command leaves, when it does not fail. -/
inductive SettledRecord (P : Platform) (envelope : CommandEnvelope) (result : Option PrivdResult)
    (r : CommandRecord) (proof : Bytes) (record : CommandRecord) : Prop where
  | attested (stored : Except String Bytes)
      (storage : storageOf P envelope result = .attested stored)
      (holds : HoldsOutcome r record (completion stored).1 (completion stored).2.1
        (completion stored).2.2 proof)
  | applied (resource : AppliedResourceRevision) (bytes : Bytes)
      (storage : storageOf P envelope result = .applied resource bytes)
      (size : bytes.length ≤ maxCommandBytes)
      (holds : HoldsOutcome r record .succeeded (some bytes) none proof)
  | undecided (storage : storageOf P envelope result = .undecided) (state : record.state = .unknown)
      (same : SameIdentity r record)

theorem SettledRecord.same {P : Platform} {envelope : CommandEnvelope} {result : Option PrivdResult}
    {r record : CommandRecord} {proof : Bytes}
    (h : SettledRecord P envelope result r proof record) : SameIdentity r record := by
  cases h with
  | attested _ _ hholds | applied _ _ _ _ hholds => exact hholds.same
  | undecided _ _ hsame => exact hsame

section
variable {j : Journal}

/-- A bind that returns returned its first value. -/
theorem result_bind_ok {α β : Type} {m : Agent α} {f : α → Agent β} {j : Journal} {b : β}
    (h : (m >>= f).result j = .ok b) :
    ∃ a, m.result j = .ok a ∧ (f a).result (m.final j) = .ok b := by
  rw [result_bind] at h
  cases hm : m.result j with
  | error e => rw [hm] at h; cases h
  | ok a => rw [hm] at h; exact ⟨a, rfl, h⟩

theorem result_transact_ok (h : ((transact f).mapErr g).result j = .ok a) :
    ∃ j', f j = .ok (a, j') := by
  rw [result_mapErr] at h
  have h := mapError_eq_ok_iff.1 h
  cases hf : f j with
  | error e =>
    rw [(transact_error hf).2] at h
    cases h
  | ok x =>
    rw [(transact_ok hf).2] at h
    exact ⟨x.2, by rw [← ok.inj h]⟩

section
variable (h : Completes j key permit r)
include h

theorem Completes.eq_of_found (hold : j.command permit.key = some old) : r = old :=
  some.inj (h.found.symm.trans (h.sameKey ▸ hold))

theorem completeExternalAttested_record {stored : Except String Bytes} {proof : Bytes}
    (hrun : (completeExternalAttested permit stored proof now).result j = .ok out) :
    HoldsOutcome r out.record (completion stored).1 (completion stored).2.1
      (completion stored).2.2 proof := by
  unfold completeExternalAttested at hrun
  obtain ⟨before, hbefore, hrun⟩ := result_bind_ok hrun
  obtain ⟨record, hrecord, hrun⟩ := result_bind_ok hrun
  obtain ⟨j', hrecord⟩ := result_transact_ok hrecord
  obtain ⟨old, hold, -, -, hr, -⟩ := transitionCommandAttested_ok hrecord
  obtain rfl : r = old := h.eq_of_found hold
  have hout : out.record = record := by
    split at hrun
    · cases hrun
    · exact (congrArg CommandOutcome.record (ok.inj hrun)).symm
  rw [hout, hr]
  exact ⟨⟨rfl, rfl, rfl, rfl, rfl⟩, rfl, rfl, rfl, rfl⟩

theorem completeExternalAppliedAttested_record
    {resource : AppliedResourceRevision} {bytes proof : Bytes}
    (hrun : (completeExternalAppliedAttested permit resource bytes proof now).result j = .ok out) :
    bytes.length ≤ maxCommandBytes ∧
      HoldsOutcome r out.record .succeeded (some bytes) none proof := by
  unfold completeExternalAppliedAttested at hrun
  obtain ⟨before, hbefore, hrun⟩ := result_bind_ok hrun
  obtain ⟨record, hrecord, hrun⟩ := result_bind_ok hrun
  obtain ⟨j', hrecord⟩ := result_transact_ok hrecord
  have hout : out.record = record := (congrArg CommandOutcome.record (ok.inj hrun)).symm
  unfold Journal.completeExternalWithRevisionAttested at hrecord
  split at hrecord
  · cases hrecord
  rename_i hvalid
  simp only [validResource, Bool.or_eq_true, Bool.not_eq_true', not_or, Bool.not_eq_false,
    Bool.and_eq_true, decide_eq_true_eq] at hvalid
  obtain ⟨old, _, hold, -, -, -, hr, -⟩ := completeWithRevision_ok hrecord
  obtain rfl : r = old := h.eq_of_found hold
  rw [hout, hr]
  exact ⟨hvalid.1.2, ⟨rfl, rfl, rfl, rfl, rfl⟩, rfl, rfl, rfl, rfl⟩

theorem markExternalUnknown_record {code : String}
    (hrun : (markExternalUnknown permit code now).result j = .ok out) :
    out.record.state = .unknown ∧ SameIdentity r out.record := by
  unfold markExternalUnknown at hrun
  obtain ⟨record, hrecord, hrun⟩ := result_bind_ok hrun
  obtain ⟨j', hrecord⟩ := result_transact_ok hrecord
  obtain ⟨old, hold, -, hr, -⟩ := transitionCommand_ok hrecord
  obtain rfl : r = old := h.eq_of_found hold
  have hout : out.record = record := by
    split at hrun
    · cases hrun
    · exact (congrArg CommandOutcome.record (ok.inj hrun)).symm
  rw [hout, hr]
  exact ⟨rfl, rfl, rfl, rfl, rfl, rfl⟩

/-- **What a well-formed answer leaves in the record of a permitted command.** -/
theorem settleResponse_record (hproof : responseProof P response = some (proof, completedAt))
    (hrun : (settleResponse P envelope permit now (some response)).result j = .ok out) :
    SettledRecord P envelope response.result r proof out.record := by
  simp only [settleResponse, hproof] at hrun
  cases hstorage : storageOf P envelope response.result with
  | attested stored =>
    rw [hstorage] at hrun
    exact .attested stored hstorage (completeExternalAttested_record h hrun)
  | applied resource bytes =>
    rw [hstorage] at hrun
    obtain ⟨hsize, hholds⟩ := completeExternalAppliedAttested_record h hrun
    exact .applied resource bytes hstorage hsize hholds
  | undecided =>
    rw [hstorage] at hrun
    obtain ⟨hstate, hsame⟩ := markExternalUnknown_record h hrun
    exact .undecided hstorage hstate hsame
  | refused =>
    rw [hstorage] at hrun
    cases hrun

end

end

/-! ## What the message reports -/

/-- The message reports the outcome that the receipt of `result` is about. -/
structure Reports (P : Platform) (result : PrivdResult) (message : CommandResult) : Prop where
  state : message.state = (terminalState result).toInt32
  bytes : exactResultBytes P result = some message.result
  code : resultErrorCode result = some message.errorCode

/-- The outcomes stored as they are: an applied mutation, and a result within the limit. -/
structure StoredAsIs (P : Platform) (result : PrivdResult) : Prop where
  applied : result ≠ .mutation false
  size : ∀ bytes, exactResultBytes P result = some bytes → bytes.length ≤ maxCommandBytes

section
variable {P : Platform} {envelope : CommandEnvelope} {result : PrivdResult}

/-- **A settled record reports the outcome of its receipt exactly when it is stored as it is**;
otherwise its state is another one. -/
theorem settled_reports (h : SettledRecord P envelope (some result) r proof record)
    (hdecided : undecided result = false) (hobserved : result ≠ .observation)
    (decodeProof : Bytes → Option PrivilegedResultProof) (replayed : Bool) :
    (StoredAsIs P result → Reports P result (commandResult decodeProof record replayed) ∧
      record.privilegedResultProof = some proof) ∧
    (¬ StoredAsIs P result →
      (commandResult decodeProof record replayed).state ≠ (terminalState result).toInt32 ∧
        (record.privilegedResultProof = some proof ∨
          (commandResult decodeProof record replayed).state =
            CommandResultState.unknown.toInt32)) := by
  rcases storageOf_cases P envelope result with ⟨hstorage, hopen⟩ |
    ⟨kind, detail, code, rfl, hcode, hstorage⟩ | ⟨bytes, hbytes, hempty, hterminal, hterm, hstorage⟩
  · have hfalse : result = .mutation false := by
      cases result with
      | mutation applied => exact congrArg _ hopen
      | error kind detail =>
        cases hcode : terminalResultErrorCode kind with
        | none => simp [undecided, hcode] at hdecided
        | some code => cases (congrArg isSome hcode).symm.trans hopen
      | observation => exact absurd rfl hobserved
      | _ => cases hopen
    subst hfalse
    refine ⟨fun hs => absurd rfl hs.applied, fun _ => ?_⟩
    cases h with
    | undecided _ hstate _ =>
      have hunknown : (commandResult decodeProof record replayed).state =
          CommandResultState.unknown.toInt32 := by
        simp [commandResult, resultState, hstate]
      rw [hunknown]
      exact ⟨by decide, .inr rfl⟩
    | attested _ hs _ | applied _ _ hs _ _ => cases hstorage.symm.trans hs
  · have hcode : terminalResultErrorCode kind = some code := hcode
    have hasis : StoredAsIs P (.error kind detail) := by
      refine ⟨fun hne => (by cases hne), fun bytes hbytes => ?_⟩
      simp only [exactResultBytes, hcode, map_some, some.injEq] at hbytes
      simp [← hbytes]
    refine ⟨fun _ => ?_, fun hno => absurd hasis hno⟩
    cases h with
    | undecided hs _ _ | applied _ _ hs _ _ => cases hstorage.symm.trans hs
    | attested stored hs hholds =>
      cases hstorage.symm.trans hs
      refine ⟨⟨?_, ?_, ?_⟩, hholds.proof⟩
      · simp [commandResult, hholds.state, completion, resultState, terminalState]
      · simp [commandResult, hholds.result, completion, exactResultBytes, hcode]
      · simp [commandResult, hholds.errorCode, completion, resultErrorCode, hcode]
  have hasis : bytes.length ≤ maxCommandBytes → StoredAsIs P result := by
    refine fun hle => ⟨?_, fun b hb => some.inj (hbytes.symm.trans hb) ▸ hle⟩
    rintro rfl
    cases hterm
  cases h with
  | undecided hs _ _ =>
    rcases hstorage with hst | ⟨_, hst⟩ | hst <;> (rw [hst] at hs; cases hs)
  | attested stored hs hholds =>
    have hstored : stored = .ok bytes := by
      rcases hstorage with hst | ⟨_, hst⟩ | hst <;> (rw [hst] at hs; cases hs)
      rfl
    subst hstored
    by_cases hle : bytes.length ≤ maxCommandBytes
    · refine ⟨fun _ => ⟨⟨?_, ?_, ?_⟩, hholds.proof⟩, fun hno => absurd (hasis hle) hno⟩
      · simp [commandResult, hholds.state, completion, hle, resultState, hterminal]
      · simp [commandResult, hholds.result, completion, hle, hbytes]
      · simp [commandResult, hholds.errorCode, completion, hle, hempty]
    · refine ⟨fun hs => absurd (hs.size bytes hbytes) hle, fun _ => ?_⟩
      refine ⟨?_, .inl hholds.proof⟩
      simp [commandResult, hholds.state, completion, hle, resultState, hterminal,
        CommandResultState.toInt32]
  | applied resource stored hs hsize hholds =>
    have hstored : stored = bytes := by
      rcases hstorage with hst | ⟨_, hst⟩ | hst <;> (rw [hst] at hs; cases hs)
      rfl
    subst hstored
    refine ⟨fun _ => ⟨⟨?_, ?_, ?_⟩, hholds.proof⟩, fun hno => absurd (hasis hsize) hno⟩
    · simp [commandResult, hholds.state, resultState, hterminal]
    · simp [commandResult, hholds.result, hbytes]
    · simp [commandResult, hholds.errorCode, hempty]

end

end Agent

end Ocservia
