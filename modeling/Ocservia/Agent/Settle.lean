import Ocservia.Agent.Invariant
import Ocservia.Privd.Execute

/-!
# Settling a command from its receipt

A `ReconcileOnly` delivery for which privd returns a receipt goes through `begin_attested_recovery`
and the completion that the answered result selects (`storageOf`). When this settles the record is
`receipt_settles_iff`: a crash after the record became `Running` makes every later receipt bounce
(`receipt_refused_after_crash`) until a delivery without a receipt moves the record to `Unknown`.
-/

namespace Ocservia

open Durable Journal Agent

/-- The record of `key` is terminal and carries `proof`. -/
def Journal.SettledWith (j : Journal) (key : Uuid) (proof : Bytes) : Prop :=
  ∃ r ∈ j.command key, r.state.terminal = true ∧ r.privilegedResultProof = some proof

instance (j : Journal) (key : Uuid) (proof : Bytes) :
    Decidable (j.SettledWith key proof) := by
  unfold Journal.SettledWith; infer_instance

/-- A record that is running is not settled. -/
theorem Journal.not_settled_of_running {j : Journal} {key : Uuid} {r : CommandRecord}
    (hr : j.command key = some r) (hs : r.state = .running) (proof : Bytes) :
    ¬ j.SettledWith key proof := by
  rintro ⟨r', hr', ht, -⟩
  obtain rfl : r = r' := by simpa [hr] using hr'
  rw [hs] at ht
  cases ht

/-- The Agent accepts an external command whose record is open or missing. -/
structure Pending (P : Platform) (j : Journal) (envelope : CommandEnvelope)
    (context : CommandContext) (v : ValidatedCommand) : Prop where
  validated : validateCommand P envelope context = .ok v
  external : Agent.routesExternal envelope = true
  record : (∃ r, j.command v.key = some r ∧ Agent.RecordFor v r ∧ r.state.terminal = false) ∨
    (j.command v.key = none ∧ j.commandById v.commandId = none)

/-- Protobuf writes what is set, so a proof that names its version is not empty. -/
def Platform.EncodesVersion (P : Platform) : Prop :=
  ∀ proof : PrivilegedResultProof, proof.version ≠ 0 → P.encodeProof proof ≠ []

namespace Agent

/-- The journal can store the outcome: a revision is valid and not behind. -/
def Storable (j : Journal) : Storage → Prop
  | .attested _ => True
  | .applied resource result => validResource resource result = true ∧ j.NotAhead resource
  | .undecided | .refused => False

instance (j : Journal) (storage : Storage) : Decidable (Storable j storage) := by
  unfold Storable
  split <;> infer_instance

/-! ## What the answer is -/

/-- A terminal error is stored as its code, another terminal result as its bytes, the rest not at
all. -/
theorem storageOf_cases (P : Platform) (envelope : CommandEnvelope) (result : PrivdResult) :
    (storageOf P envelope (some result) = .undecided ∧ result.terminal = false) ∨
    (∃ kind detail code, result = .error kind detail ∧ terminalPrivdErrorCode kind = some code ∧
      storageOf P envelope (some result) = .attested (.error code)) ∨
    (∃ bytes, Privd.exactResultBytes P result = some bytes ∧
      Privd.resultErrorCode result = some "" ∧ Privd.terminalState result = .succeeded ∧
      result.terminal = true ∧ (storageOf P envelope (some result) = .attested (.ok bytes) ∨
        (∃ resource, storageOf P envelope (some result) = .applied resource bytes) ∨
        storageOf P envelope (some result) = .refused)) := by
  cases result with
  | mutation applied =>
    cases applied with
    | false => exact .inl ⟨rfl, rfl⟩
    | true =>
      refine .inr (.inr ⟨_, rfl, rfl, rfl, rfl, ?_⟩)
      simp only [storageOf]
      cases resultResource P envelope with
      | none => exact .inl rfl
      | some resource => exact .inr (.inl ⟨resource, rfl⟩)
  | configApply value =>
    refine .inr (.inr ⟨_, rfl, rfl, rfl, rfl, ?_⟩)
    simp only [storageOf]
    cases resultResource P envelope with
    | none => exact .inr (.inr rfl)
    | some resource => exact .inr (.inl ⟨resource, rfl⟩)
  | error kind detail =>
    cases hcode : terminalPrivdErrorCode kind with
    | none => exact .inl (by simp [storageOf, PrivdResult.terminal, hcode])
    | some code => exact .inr (.inl ⟨kind, detail, code, rfl, hcode, by simp [storageOf, hcode]⟩)
  | observation => exact .inl ⟨rfl, rfl⟩
  | _ => exact .inr (.inr ⟨_, rfl, rfl, rfl, rfl, .inl rfl⟩)

/-- What a well-formed answer carries. -/
theorem responseProof_ok (h : responseProof P response = some (proof, completedAt)) :
    ∃ p : PrivilegedResultProof, p.version = privdReceiptVersionV1 ∧
      (P.encodeProof p).length ≤ 65536 ∧ P.encodeProof p = proof := by
  unfold responseProof at h
  split at h
  · cases h
  rename_i p hp
  split at h
  · cases h
  rename_i hver
  simp only [not_or, not_not] at hver
  split at h
  · cases h
  split at h
  · cases h
  split at h
  · cases h
  split at h
  · cases h
  split at h
  · rename_i hlen
    simp only [Option.some.injEq, Prod.mk.injEq] at h
    exact ⟨p, hver.1, hlen, h.1⟩
  · cases h

/-- What `complete_external_attested` stores is within the bounds when the error code is. -/
theorem completion_valid {result : Except String Bytes}
    (h : ∀ code, result = .error code → validOutcome none (some code) = true) :
    (completion result).1.terminal = true ∧
      validOutcome (completion result).2.1 (completion result).2.2 = true := by
  cases result with
  | error code => exact ⟨rfl, h code rfl⟩
  | ok bytes =>
    by_cases hlen : bytes.length ≤ maxCommandBytes
    · simp only [completion, hlen, if_true]
      refine ⟨rfl, ?_⟩
      have : ¬ 1024 * 1024 < bytes.length := Nat.not_lt.2 hlen
      simp [validOutcome, this]
    · simp only [completion, hlen, if_false]
      exact ⟨rfl, by decide⟩

theorem terminalPrivdErrorCode_valid (h : terminalPrivdErrorCode kind = some code) :
    validOutcome none (some code) = true := by
  unfold terminalPrivdErrorCode at h
  split at h <;> cases h <;> decide

/-- The error code of an outcome stored without a revision is in bounds. -/
theorem storageOf_attested_error {result : PrivdResult} {code : String}
    (h : storageOf P envelope (some result) = .attested (.error code)) :
    validOutcome none (some code) = true := by
  rcases storageOf_cases P envelope result with ⟨hst, -⟩ | ⟨_, _, _, -, hcode, hst⟩ |
    ⟨_, -, -, -, -, hst | ⟨_, hst⟩ | hst⟩
  all_goals cases hst.symm.trans h
  exact terminalPrivdErrorCode_valid hcode

/-! ## Completing a running record -/

theorem acceptedBefore_yields (hold : j.command key = some old) :
    Yields (acceptedBefore key) j (.ok old) j :=
  Yields.read (Checked.get_eq_ok.2 hold)

/-- The permit `permit` may complete the running record `r` of `key` in `j`. -/
structure Completes (j : Journal) (key : Uuid) (permit : ExternalCommand)
    (r : CommandRecord) : Prop where
  sameKey : permit.key = key
  found : j.command key = some r
  running : r.state = .running
  commandId : r.commandId = permit.commandId

/-- `complete_external_attested` settles a running record. -/
theorem completeExternalAttested_yields (h : Completes j key permit r) {now : Int64}
    {result : Except String Bytes}
    (hcode : ∀ code, result = .error code → validOutcome none (some code) = true)
    (hproof : validProof proof = true) :
    ∃ outcome j', Yields (completeExternalAttested permit result proof now) j (.ok outcome) j' ∧
      j'.SettledWith key proof := by
  obtain ⟨hkey, hfound, hrun, hid⟩ := h
  subst hkey
  obtain ⟨ht, hv⟩ := completion_valid hcode
  have hm : r.state ∈ [CommandState.running] := by simp [hrun]
  let r' := { r with state := (completion result).1, result := (completion result).2.1,
                     errorCode := (completion result).2.2, privilegedResultProof := some proof,
                     updatedAt := now }
  have hok : j.transitionCommandAttested permit.key [.running] (completion result).1
      (completion result).2.1 (completion result).2.2 proof now = .ok (r', j.setCommand r') := by
    simp [transitionCommandAttested, ht, hv, hproof, hfound, hm, r']
  refine ⟨⟨r', false⟩, j.setCommand r', ?_, ?_⟩
  · unfold completeExternalAttested
    refine Yields.bind (acceptedBefore_yields hfound) ?_
    refine Yields.bind ((Yields.commit hok).mapErr _) ?_
    rw [if_neg (not_not.2 hid)]
    exact Yields.pure _ _
  · have hw : Rewrites j (j.setCommand r') r r' :=
      rewrites_setCommand hfound ⟨rfl, rfl, rfl, rfl, rfl⟩
    refine ⟨r', ?_, ht, rfl⟩
    rw [hw.command, if_pos (command_key hfound).symm]
    rfl

/-- `complete_external_applied_attested` settles a running record when the revision can be stored,
and otherwise changes nothing. -/
theorem completeExternalAppliedAttested_yields (h : Completes j key permit r) {now : Int64}
    {resource : AppliedResourceRevision} {result : Bytes} (hproof : validProof proof = true) :
    (Storable j (.applied resource result) →
      ∃ outcome j', Yields (completeExternalAppliedAttested permit resource result proof now) j
        (.ok outcome) j' ∧ j'.SettledWith key proof) ∧
    (¬ Storable j (.applied resource result) →
      ∃ e, Yields (completeExternalAppliedAttested permit resource result proof now) j
        (.error e) j) := by
  obtain ⟨hkey, hfound, hrun, hid⟩ := h
  subst hkey
  constructor
  · rintro ⟨hv, ha⟩
    obtain ⟨r', j', hok, hr', hst, hp⟩ :=
      completeAttested_of now hfound hid hrun hproof hv ha
    refine ⟨⟨r', false⟩, j', ?_, r', hr', by rw [hst]; rfl, hp⟩
    refine Yields.bind (acceptedBefore_yields hfound) ?_
    exact Yields.bind ((Yields.commit hok).mapErr _) (Yields.pure _ _)
  · intro hno
    obtain ⟨e, herr⟩ := completeAttested_error permit.key permit.commandId proof now hno
    refine ⟨.outcomeUnknown "attested_result_persistence_failed" r e, ?_⟩
    refine Yields.bind (acceptedBefore_yields hfound) ?_
    exact ((Yields.rollback herr).mapErr _).abort _

/-! ## Beginning the recovery -/

theorem validateExternal_yields (hv : validateCommand P envelope context = .ok v)
    (hroute : routesExternal envelope = true) :
    Yields (validateExternal P envelope context) j (.ok v) j := by
  have hext : v.external = true := by
    obtain ⟨p, hp, hext⟩ := (validateCommand_ok P hv).payload
    rw [hext]
    unfold routesExternal at hroute
    rw [hp] at hroute
    cases p <;> first | rfl | cases hroute
  refine Yields.read ?_
  simp [hv, hext, bind, Except.bind, requireOr, Checked.require, pure, Except.pure]

/-- The record of a known command is found by its key and by its id. -/
theorem matchingOrAccepted_found (hu : j.UniqueIds) (hr : j.command v.key = some r)
    (hfor : RecordFor v r) (now : Int64) :
    Yields (matchingOrAccepted v now) j (.ok (r, false)) j := by
  have hid : j.commandById v.commandId = some r := by
    rw [← hfor.commandId]
    exact hu.commandById hr
  have hmatch : matchRecord v (j.command v.key) (j.commandById v.commandId) = .ok r := by
    rw [hr, hid]
    simp [matchRecord, hfor.commandId, hfor.payloadHashVersion, hfor.payloadSha256]
  refine Yields.bind (Yields.read (r := .ok (.ok r)) (by rw [hmatch])) ?_
  exact Yields.pure _ _

/-- A command without record is accepted. -/
theorem matchingOrAccepted_missing (hk : j.command v.key = none)
    (hid : j.commandById v.commandId = none) (now : Int64) :
    Yields (matchingOrAccepted v now) j (.ok (recordOf v now, true))
      { j with commands := j.commands.insert (recordOf v now) hk } := by
  have hmatch : matchRecord v (j.command v.key) (j.commandById v.commandId) =
      .error (.rejected "command_not_accepted") := by
    rw [hk, hid]
    rfl
  have hacc : j.acceptCommand v.key v.commandId v.payloadHash v.hashVersion.toInt32 now =
      .ok (.accepted (recordOf v now),
        { j with commands := j.commands.insert (recordOf v now) hk }) := by
    unfold acceptCommand
    rw [dif_pos hk, hid]
    rfl
  refine Yields.bind (Yields.read (r := .ok (.error (.rejected "command_not_accepted")))
    (by rw [hmatch])) ?_
  exact Yields.bind ((Yields.commit hacc).mapErr _) (Yields.pure _ _)

/-- From an `Accepted` or `Unknown` record recovery leaves a running one and a permit to complete
it. -/
theorem recovery_yields (hv : validateCommand P envelope context = .ok v)
    (hroute : routesExternal envelope = true)
    (hm : Yields (matchingOrAccepted v context.nowUnixSeconds) j (.ok (r, flag)) j')
    (hr : j'.command v.key = some r) (hid : r.commandId = v.commandId)
    (hs : r.state = .accepted ∨ r.state = .unknown) :
    ∃ permit r₁, Yields (beginAttestedRecovery P envelope context) j (.ok permit)
        (j'.setCommand r₁) ∧ Completes (j'.setCommand r₁) v.key permit r₁ := by
  have hmem : r.state ∈ [CommandState.accepted, .unknown] := by simpa using hs
  let r₁ := { r with state := .running, result := none, errorCode := none,
                     updatedAt := context.nowUnixSeconds }
  refine ⟨⟨v.key, v.commandId, r₁.acceptedAt⟩, r₁, ?_, ?_⟩
  · refine Yields.bind (validateExternal_yields hv hroute) ?_
    refine Yields.bind hm ?_
    have hcheck : requireOr (r.state == .accepted || r.state == .unknown)
        "reconciliation_state_invalid" = .ok () := by
      refine requireOr_eq_ok.2 ?_
      rcases hs with hs | hs <;> rw [hs] <;> rfl
    refine Yields.bind (Yields.read hcheck) ?_
    exact Yields.bind ((Yields.commit (transitionCommand_of hr hmem rfl)).mapErr _)
      (Yields.pure _ _)
  · have hw : Rewrites j' (j'.setCommand r₁) r r₁ :=
      rewrites_setCommand hr ⟨rfl, rfl, rfl, rfl, rfl⟩
    refine ⟨rfl, ?_, rfl, hid⟩
    rw [hw.command, if_pos (command_key hr).symm]

/-! ## Settling -/

/-- A well-formed terminal answer settles a running record when the outcome can be stored. -/
theorem settleResponse_yields (envelope : CommandEnvelope) (hP : P.EncodesVersion)
    (h : Completes j key permit r) (hproof : responseProof P response = some (proof, completedAt))
    {result : PrivdResult} (hresult : response.result = some result)
    (hterm : result.terminal = true) (now : Int64) :
    (Storable j (storageOf P envelope response.result) →
      ∃ outcome j', Yields (settleResponse P envelope permit now (some response)) j
        (.ok outcome) j' ∧ j'.SettledWith key proof) ∧
    (¬ Storable j (storageOf P envelope response.result) →
      ∃ e, Yields (settleResponse P envelope permit now (some response)) j (.error e) j) := by
  have hvalid : validProof proof = true := by
    obtain ⟨p, hver, hlen, rfl⟩ := responseProof_ok hproof
    have hne : P.encodeProof p ≠ [] := hP p (by rw [hver]; decide)
    simp [validProof, hne, hlen]
  simp only [settleResponse, hproof, hresult]
  cases hst : storageOf P envelope (some result) with
  | attested stored =>
    refine ⟨fun _ => ?_, fun hno => absurd trivial hno⟩
    refine completeExternalAttested_yields h (fun code hcode => ?_) hvalid
    exact storageOf_attested_error (hst.trans (by rw [hcode]))
  | applied resource bytes => exact completeExternalAppliedAttested_yields h hvalid
  | undecided =>
    rcases storageOf_cases P envelope result with ⟨-, hopen⟩ | ⟨_, _, _, -, -, hst'⟩ |
      ⟨_, -, -, -, -, hst' | ⟨_, hst'⟩ | hst'⟩
    · cases hterm.symm.trans hopen
    all_goals cases hst.symm.trans hst'
  | refused => exact ⟨fun hno => hno.elim, fun _ => ⟨_, Yields.throw _ _⟩⟩

/-- A pending record that is not running begins its recovery and is running. -/
theorem pending_recovery (hu : j.UniqueIds) (hp : Pending P j envelope context v)
    (hrun : ∀ r ∈ j.command v.key, r.state ≠ .running) :
    ∃ permit r₁ j₁, Yields (beginAttestedRecovery P envelope context) j (.ok permit) j₁ ∧
      Completes j₁ v.key permit r₁ ∧ j₁.appliedRevisions = j.appliedRevisions := by
  rcases hp.record with ⟨r, hr, hfor, hopen⟩ | ⟨hk, hid⟩
  · have hs : r.state = .accepted ∨ r.state = .unknown := by
      have hne := hrun r hr
      cases hst : r.state with
      | accepted => exact .inl rfl
      | unknown => exact .inr rfl
      | running => exact absurd hst hne
      | succeeded | failed => rw [hst] at hopen; cases hopen
    obtain ⟨permit, r₁, hy, hc⟩ := recovery_yields hp.validated hp.external
      (matchingOrAccepted_found hu hr hfor _) hr hfor.commandId hs
    exact ⟨permit, r₁, _, hy, hc, rfl⟩
  · have hins : Journal.command
        { j with commands := j.commands.insert (recordOf v context.nowUnixSeconds) hk } v.key =
        some (recordOf v context.nowUnixSeconds) :=
      (KeyedTable.get?_insert j.commands (recordOf v context.nowUnixSeconds) hk v.key).trans
        (if_pos rfl)
    obtain ⟨permit, r₁, hy, hc⟩ := recovery_yields hp.validated hp.external
      (matchingOrAccepted_missing hk hid _) hins rfl (.inl rfl)
    exact ⟨permit, r₁, _, hy, hc, rfl⟩

end Agent

/-- **When a receipt settles a command.** From every reachable journal, a `ReconcileOnly` delivery
of a pending external command with a well-formed receipt of a terminal outcome settles the record
exactly when it is not `Running` and the journal can store the outcome; otherwise the delivery fails
and leaves the record unsettled. -/
theorem receipt_settles_iff (P : Platform) (hP : P.EncodesVersion) {E : Set CommandEnvelope}
    {j : Journal} (hj : (agentSystem P E).Reachable j) {envelope : CommandEnvelope}
    {context : CommandContext} {v : ValidatedCommand} (hp : Pending P j envelope context v)
    (hmode : envelope.mode = .reconcileOnly) {privd : PrivdAnswers} {response : PrivdResponse}
    (hans : privd.reconcile = some response) {proof : Bytes} {completedAt : Int64}
    (hproof : Agent.responseProof P response = some (proof, completedAt)) {result : PrivdResult}
    (hresult : response.result = some result) (hterm : result.terminal = true) :
    (((Agent.handleCommand P envelope context privd).final j).SettledWith v.key proof ↔
      (∀ r ∈ j.command v.key, r.state ≠ .running) ∧
        Agent.Storable j (Agent.storageOf P envelope response.result)) ∧
    (((Agent.handleCommand P envelope context privd).final j).SettledWith v.key proof ↔
      ∃ outcome, (Agent.handleCommand P envelope context privd).result j = .ok outcome) := by
  have hu := agentSystem_uniqueIds hj
  let settle := fun permit =>
    settleResponse P envelope permit context.nowUnixSeconds (some response)
  have hrec : handleCommand P envelope context privd =
      beginAttestedRecovery P envelope context >>= settle :=
    by simp [handleCommand, hp.external, executeExternalCommand, hmode, hans, hproof, settle]
  rw [hrec]
  by_cases hrun : ∀ r ∈ j.command v.key, r.state ≠ .running
  · obtain ⟨permit, r₁, j₁, hy, hc, hrev⟩ := pending_recovery hu hp hrun
    have hsettle := settleResponse_yields envelope hP hc hproof hresult hterm
      context.nowUnixSeconds
    have hstorable : ∀ storage, Storable j₁ storage ↔ Storable j storage := by
      intro storage
      cases storage with
      | applied resource result => simp only [Storable, NotAhead, appliedRevision, hrev]
      | attested | undecided | refused => rfl
    rw [hstorable] at hsettle
    by_cases hst : Agent.Storable j (storageOf P envelope response.result)
    · obtain ⟨outcome, j', hy', hset⟩ := hsettle.1 hst
      have hall := hy.bind (f := settle) hy'
      rw [hall.final, hall.result]
      exact ⟨⟨fun _ => ⟨hrun, hst⟩, fun _ => hset⟩, ⟨fun _ => ⟨outcome, rfl⟩, fun _ => hset⟩⟩
    -- the completion rolls back and leaves the record running
    obtain ⟨e, hy'⟩ := hsettle.2 hst
    have hall := hy.bind (f := settle) hy'
    have hno := not_settled_of_running hc.found hc.running proof
    rw [hall.final, hall.result]
    exact ⟨⟨fun h => absurd h hno, fun h => absurd h.2 hst⟩, fun h => absurd h hno, by simp⟩
  · simp only [not_forall, not_not] at hrun
    obtain ⟨r, hr, hs⟩ := hrun
    have hr : j.command v.key = some r := hr
    have hfor : Agent.RecordFor v r := by
      rcases hp.record with ⟨r', hr', hfor, -⟩ | ⟨hk, -⟩
      · obtain rfl : r = r' := by simpa [hr] using hr'
        exact hfor
      · cases hk.symm.trans hr
    -- a running record makes `begin_attested_recovery` refuse
    have hrefused : Yields (beginAttestedRecovery P envelope context) j
        (.error (.rejected "reconciliation_state_invalid")) j := by
      refine Yields.bind (validateExternal_yields hp.validated hp.external) ?_
      refine Yields.bind (matchingOrAccepted_found hu hr hfor _) ?_
      refine Yields.abort (Yields.read ?_) _
      rw [hs]
      rfl
    have hall := hrefused.abort settle
    have hno := not_settled_of_running hr hs proof
    rw [hall.final, hall.result]
    exact ⟨⟨fun h => absurd h hno, fun h => absurd hs (h.1 r hr)⟩, fun h => absurd h hno, by simp⟩

/-! ## A crash after the record became running -/

/-- privd does not reply to the execution and has the receipt afterwards. -/
def lateAnswers : PrivdAnswers := ⟨none, some (sampleApplied 250), .unknown⟩

/-- The sample command as the executor knows it. -/
def sampleValidated : ValidatedCommand :=
  ⟨sampleUuid 2, sampleUuid 1, .fill 0, .v2, [], true⟩

/-- The execution of the sample command from a fresh journal. -/
def sampleExecution : Agent CommandOutcome :=
  Agent.handleCommand samplePlatform (sampleDisable .executeOrReplay 1) (sampleContext 200)
    lateAnswers

/-- The journal when a crash cuts the execution after its second write. -/
def crashedJournal : Journal :=
  ((sampleExecution.writes Journal.fresh).take 2).getLastD Journal.fresh

/-- The journal when the execution completes without an answer. -/
def unansweredJournal : Journal := sampleExecution.final Journal.fresh

theorem crashedJournal_reachable :
    (agentSystem samplePlatform Set.univ).Reachable crashedJournal :=
  (LTS.Reachable.start rfl).snoc
    (a := ⟨sampleDisable .executeOrReplay 1, sampleContext 200, lateAnswers,
      (sampleExecution.writes fresh).take 2, none⟩)
    ⟨trivial, .crash (List.take_prefix 2 _), rfl⟩

/-- The record is running after the crash, and the delivery with the receipt is refused and changes
nothing. -/
theorem receipt_refused_after_crash :
    (agentSystem samplePlatform Set.univ).Reachable crashedJournal ∧
    Pending samplePlatform crashedJournal (sampleDisable .reconcileOnly 1) (sampleContext 300)
      sampleValidated ∧
    Agent.responseProof samplePlatform (sampleApplied 250) = some ([1], 250) ∧
    (PrivdResult.mutation true).terminal = true ∧
    let delivery := handleCommand samplePlatform (sampleDisable .reconcileOnly 1)
      (sampleContext 300) lateAnswers
    delivery.result crashedJournal = .error (.rejected "reconciliation_state_invalid") ∧
      ¬ (delivery.final crashedJournal).SettledWith (sampleUuid 2) [1] := by
  refine ⟨crashedJournal_reachable, ⟨rfl, rfl, .inl ⟨_, rfl, ⟨rfl, rfl, rfl⟩, rfl⟩⟩, rfl, rfl, rfl,
    by decide⟩

/-- Without an answer the record is `Unknown`, and the receipt settles it. -/
theorem receipt_settles_unanswered :
    ((Agent.handleCommand samplePlatform (sampleDisable .reconcileOnly 1) (sampleContext 300)
      lateAnswers).final unansweredJournal).SettledWith (sampleUuid 2) [1] := by
  have hj : (agentSystem samplePlatform Set.univ).Reachable unansweredJournal :=
    (LTS.Reachable.start rfl).snoc (completedDelivery_step samplePlatform
      (sampleDisable .executeOrReplay 1) (sampleContext 200) lateAnswers fresh trivial)
  have hp : Pending samplePlatform unansweredJournal (sampleDisable .reconcileOnly 1)
      (sampleContext 300) sampleValidated := ⟨rfl, rfl, .inl ⟨_, rfl, ⟨rfl, rfl, rfl⟩, rfl⟩⟩
  have hproof : responseProof samplePlatform (sampleApplied 250) = some ([1], 250) := rfl
  exact (receipt_settles_iff samplePlatform (fun _ _ h => by cases h) hj hp rfl rfl
    hproof rfl rfl).1.2 (by decide)

end Ocservia
