import Ocservia.Agent.Executor

/-!
# What one durable write of the Agent can do

Every program of the executor is a sequence of journal transactions of five kinds. `JournalWrite`
names them, and `JournalWrite.Effect` says once what each does to the journal: an acceptance adds a
fresh record, every other write rewrites one record that was not terminal and keeps its identity,
and only a completion with a revision touches the applied revisions. The specifications of the
transactions take a condition `A` on writes and conclude that the transaction only does `A` writes
(`Via A`).
-/

namespace Ocservia

open Durable Journal Spec

/-- A record as `accept_command` inserts it. -/
structure CommandRecord.Fresh (r : CommandRecord) : Prop where
  state : r.state = .accepted
  errorCode : r.errorCode = none
  proof : r.privilegedResultProof = none

/-- One durable write of the executor. -/
inductive JournalWrite where
  /-- A transaction that commits the journal as it found it. -/
  | idle
  | accept (record : CommandRecord)
  /-- `transition_command` rewrites a record. -/
  | transition (old new : CommandRecord)
  /-- `transition_command_attested` completes a record with a proof. -/
  | attested (old new : CommandRecord)
  /-- `complete_external_with_revision_attested`: with a proof and a revision. -/
  | applied (resource : AppliedResourceRevision) (now : Int64) (old new : CommandRecord)
  /-- `execute_and_complete_synthetic` completes a synthetic record. -/
  | synthetic (old new : CommandRecord)

namespace JournalWrite

/-- What a write does to the journal. -/
inductive Effect : JournalWrite → Journal → Journal → Prop where
  | idle {j : Journal} : Effect .idle j j
  | accept {j : Journal} {r : CommandRecord} (hk : j.command r.idempotencyKey = none)
      (hid : j.commandById r.commandId = none) (hf : r.Fresh) :
      Effect (.accept r) j { j with commands := j.commands.insert r hk }
  | transition {j j' : Journal} {old new : CommandRecord} (h : Rewrites j j' old new)
      (hopen : old.state.terminal = false)
      (hp : new.privilegedResultProof = old.privilegedResultProof)
      (hr : j'.appliedRevisions = j.appliedRevisions) : Effect (.transition old new) j j'
  | attested {j j' : Journal} {old new : CommandRecord} (h : Rewrites j j' old new)
      (hopen : old.state = .running) (ht : new.state.terminal = true)
      (hp : new.privilegedResultProof.isSome) (hr : j'.appliedRevisions = j.appliedRevisions) :
      Effect (.attested old new) j j'
  | applied {j j' : Journal} {resource : AppliedResourceRevision} {now : Int64}
      {old new : CommandRecord} (h : Rewrites j j' old new) (hopen : old.state = .running)
      (ht : new.state = .succeeded) (hp : new.privilegedResultProof.isSome)
      (hle : j.NotAhead resource)
      (hr : j'.appliedRevisions = j.appliedRevisions.upsert (appliedRow resource now)) :
      Effect (.applied resource now old new) j j'
  | synthetic {j j' : Journal} {old new : CommandRecord} (h : Rewrites j j' old new)
      (hopen : old.state = .running) (ht : new.state = .succeeded)
      (hp : new.privilegedResultProof = old.privilegedResultProof)
      (hr : j'.appliedRevisions = j.appliedRevisions) : Effect (.synthetic old new) j j'

variable {w : JournalWrite}

/-- A write leaves the records, inserts one, or rewrites an open one. -/
theorem Effect.records (h : w.Effect j j') :
    j' = j ∨
    (∃ r, w = .accept r ∧ r.Fresh ∧ j.commandById r.commandId = none ∧
      j.command r.idempotencyKey = none ∧ j'.commands.rows = j.commands.rows ++ [r] ∧
      ∀ k, j'.command k = if k = r.idempotencyKey then some r else j.command k) ∨
    ∃ old new, Rewrites j j' old new ∧ old.state.terminal = false ∧
      (w = .transition old new ∨ w = .attested old new ∨ (∃ res now, w = .applied res now old new) ∨
        w = .synthetic old new) := by
  cases h with
  | idle => exact .inl rfl
  | @accept _ r hk hid hf =>
    refine .inr (.inl ⟨r, rfl, hf, hid, hk, rfl, fun k => ?_⟩)
    exact KeyedTable.get?_insert j.commands r hk k
  | @transition _ _ old new h ho => exact .inr (.inr ⟨old, new, h, ho, .inl rfl⟩)
  | @attested _ _ old new h ho =>
    exact .inr (.inr ⟨old, new, h, by rw [ho]; rfl, .inr (.inl rfl)⟩)
  | @applied _ _ res now old new h ho =>
    exact .inr (.inr ⟨old, new, h, by rw [ho]; rfl,
      .inr (.inr (.inl ⟨res, now, rfl⟩))⟩)
  | @synthetic _ _ old new h ho =>
    exact .inr (.inr ⟨old, new, h, by rw [ho]; rfl,
      .inr (.inr (.inr rfl))⟩)

/-- **A record survives every write**: it keeps its identity, and a terminal one is not touched. -/
theorem Effect.record_kept (h : w.Effect j j') (hr : j.command k = some r) :
    ∃ r', j'.command k = some r' ∧ SameIdentity r r' ∧ (r.state.terminal = true → r' = r) := by
  have hself : SameIdentity r r := ⟨rfl, rfl, rfl, rfl, rfl⟩
  rcases h.records with rfl | ⟨a, -, -, -, hnone, -, hc⟩ | ⟨old, new, hw, ho, -⟩
  · exact ⟨r, hr, hself, fun _ => rfl⟩
  · refine ⟨r, ?_, hself, fun _ => rfl⟩
    have hne : k ≠ a.idempotencyKey := by
      rintro rfl
      cases hnone.symm.trans hr
    rw [hc k, if_neg hne, hr]
  by_cases hk : k = old.idempotencyKey
  · subst hk
    obtain rfl : old = r := by
      have := hw.found.symm.trans hr
      simpa using this
    refine ⟨new, by rw [hw.command, if_pos rfl], hw.same, fun ht => ?_⟩
    cases ho.symm.trans ht
  · exact ⟨r, by rw [hw.command, if_neg hk, hr], hself, fun _ => rfl⟩

/-- The write touches no record but that of `key`. -/
def onlyKey (key : Uuid) : JournalWrite → Prop
  | .idle => True
  | .accept r => r.idempotencyKey = key
  | .transition old _ | .attested old _ | .applied _ _ old _ | .synthetic old _ =>
    old.idempotencyKey = key

theorem Effect.command_other (h : w.Effect j j') (hw : w.onlyKey key) (hk : k ≠ key) :
    j'.command k = j.command k := by
  rcases h.records with rfl | ⟨r, rfl, -, -, -, -, hc⟩ | ⟨old, new, hrw, -, hcase⟩
  · rfl
  · have hr : r.idempotencyKey = key := hw
    rw [hc k, hr, if_neg hk]
  · have hold : old.idempotencyKey = key := by
      rcases hcase with rfl | rfl | ⟨_, _, rfl⟩ | rfl <;> exact hw
    rw [hrw.command, hold, if_neg hk]

end JournalWrite

/-- The step guarantee of a program that only does `A` writes. -/
def Via (A : JournalWrite → Prop) (j j' : Journal) : Prop := ∃ w, A w ∧ w.Effect j j'

/-! ## The transactions of the executor -/

namespace Agent

/-- The record with which a validated command is accepted. -/
def recordOf (v : ValidatedCommand) (now : Int64) : CommandRecord :=
  acceptedRecord v.key v.commandId v.payloadHash v.hashVersion.toInt32 now

/-- The record of `v`: it has the command id, the hash and the hash version of `v`. -/
structure RecordFor (v : ValidatedCommand) (r : CommandRecord) : Prop where
  commandId : r.commandId = v.commandId
  payloadSha256 : r.payloadSha256 = v.payloadHash
  payloadHashVersion : r.payloadHashVersion = v.hashVersion.toInt32

/-- After `accept`: the command was unknown and has its record now, or the record was found, or the
journal refused. -/
def AcceptPost (Pre : Journal → Prop) (v : ValidatedCommand) (now : Int64) (o : AcceptOutcome)
    (j : Journal) : Prop :=
  match o with
  | .accepted r => r = recordOf v now ∧ j.command v.key = some r ∧
      ∃ j₀, Pre j₀ ∧ j₀.command v.key = none ∧ j.appliedRevisions = j₀.appliedRevisions
  | .replay r => Pre j ∧ j.command v.key = some r ∧ RecordFor v r
  | .payloadConflict _ | .identityConflict _ => True

theorem accept_spec (v : ValidatedCommand) (now : Int64) (hidle : A .idle)
    (haccept : A (.accept (recordOf v now))) :
    Spec Pre (accept v now) (Via A) (AcceptPost Pre v now) := by
  refine mapErr (transact fun j o j' hj h => ?_)
  rcases acceptCommand_cases h with ⟨hk, hid, rfl, rfl⟩ | ⟨rfl, r, hr, h1, h2, h3, rfl⟩ |
    ⟨rfl, r, rfl | rfl⟩
  · refine ⟨⟨_, haccept, .accept hk hid ⟨rfl, rfl, rfl⟩⟩, rfl, ?_, j, hj, hk, rfl⟩
    exact (KeyedTable.get?_insert j.commands (recordOf v now) hk v.key).trans (if_pos rfl)
  · exact ⟨⟨_, hidle, .idle⟩, hj, hr, h1, h2, h3⟩
  iterate 2 exact ⟨⟨_, hidle, .idle⟩, trivial⟩

/-- What is known after a transition of `key`: which record it rewrote, and to what. -/
def TransitionPost (Pre : Journal → Prop) (key : Uuid) (fromStates : List CommandState)
    (toState : CommandState) (result : Option Bytes) (errorCode : Option String) (now : Int64)
    (r : CommandRecord) (j' : Journal) : Prop :=
  ∃ j old, Pre j ∧ j.command key = some old ∧ old.state ∈ fromStates ∧
    r = { old with state := toState, result, errorCode, updatedAt := now } ∧
    Rewrites j j' old r ∧ j'.appliedRevisions = j.appliedRevisions

/-- The transaction `transition_command` from open states, its error wrapped in any way. -/
theorem transition_spec {fromStates : List CommandState} {result : Option Bytes} {ε : Type}
    {wrap : JournalError → ε} (hfrom : ∀ c ∈ fromStates, c.terminal = false)
    (hA : ∀ j old, Pre j → j.command key = some old → old.state ∈ fromStates →
      A (.transition old { old with state := toState, result, errorCode, updatedAt := now })) :
    Spec Pre
      ((transact (transitionCommand key fromStates toState result errorCode now)).mapErr wrap)
      (Via A) (TransitionPost Pre key fromStates toState result errorCode now) := by
  refine mapErr (transact fun j r j' hj h => ?_)
  obtain ⟨old, hold, hm, rfl, rfl⟩ := transitionCommand_ok h
  have hs : SameIdentity old
      { old with state := toState, result, errorCode, updatedAt := now } :=
    ⟨rfl, rfl, rfl, rfl, rfl⟩
  have hw := rewrites_setCommand hold hs
  exact ⟨⟨_, hA j old hj hold hm, .transition hw (hfrom _ hm) rfl rfl⟩,
    j, old, hj, hold, hm, rfl, hw, rfl⟩

theorem attested_spec {result : Option Bytes} {proof : Bytes} {code : String}
    {before : CommandRecord}
    (hA : ∀ old new, old.idempotencyKey = key → SameIdentity old new → new.state = toState →
      A (.attested old new)) :
    Spec Pre
      (postEffect code before
        (transitionCommandAttested key [.running] toState result errorCode proof now))
      (Via A) (fun _ _ => True) := by
  refine mapErr (transact fun j r j' hj h => ?_)
  obtain ⟨old, hold, hm, ht, rfl, rfl⟩ := transitionCommandAttested_ok h
  have hs : SameIdentity old { old with
      state := toState, result, errorCode, privilegedResultProof := some proof,
      updatedAt := now } := ⟨rfl, rfl, rfl, rfl, rfl⟩
  have hrun : old.state = .running := by simpa using hm
  exact ⟨⟨_, hA old _ (command_key hold) hs rfl,
    .attested (rewrites_setCommand hold hs) hrun ht rfl rfl⟩, trivial⟩

theorem applied_spec {id : Uuid} {resource : AppliedResourceRevision}
    {result proof : Bytes} {code : String} {before : CommandRecord}
    (hA : ∀ old new, old.idempotencyKey = key → SameIdentity old new → new.state = .succeeded →
      A (.applied resource now old new)) :
    Spec Pre
      (postEffect code before
        (completeExternalWithRevisionAttested key id resource result proof now))
      (Via A) (fun _ _ => True) := by
  refine mapErr (transact fun j r j' hj h => ?_)
  unfold completeExternalWithRevisionAttested at h
  split at h
  · cases h
  obtain ⟨old, j₁, hold, -, hm, hu, rfl, rfl⟩ := completeWithRevision_ok h
  obtain ⟨hle, rfl⟩ := upsertRevision_ok hu
  have hrun : old.state = .running := by simpa using hm
  have hs : SameIdentity old { old with
      state := .succeeded, result := some result, errorCode := none,
      privilegedResultProof := some proof <|> old.privilegedResultProof, updatedAt := now } :=
    ⟨rfl, rfl, rfl, rfl, rfl⟩
  refine ⟨⟨_, hA old _ (command_key hold) hs rfl, .applied ?_ hrun rfl rfl hle rfl⟩, trivial⟩
  exact { found := by rw [command_key hold]; exact hold, commands := rfl, same := hs }

/-- Completing a synthetic command from a journal in which its record is `old`. -/
theorem synthetic_spec
    (hA : ∀ j old new, Pre j → j.command v.key = some old → old.payloadSha256 = v.payloadHash →
      SameIdentity old new → A (.synthetic old new)) :
    Spec Pre (completeSynthetic v now) (Via A) (fun _ _ => True) := by
  refine mapErr (transact fun j r j' hj h => ?_)
  obtain ⟨old, hold, -, hh, hrun, rfl, hc, hr⟩ := executeAndCompleteSynthetic_ok h
  have hs : SameIdentity old { old with
      state := .succeeded, result := some v.result, errorCode := none, updatedAt := now } :=
    ⟨rfl, rfl, rfl, rfl, rfl⟩
  refine ⟨⟨_, hA j old _ hj hold hh hs, .synthetic ?_ hrun rfl rfl hr⟩, trivial⟩
  exact { found := by rw [command_key hold]; exact hold, commands := hc, same := hs }

/-! ## Reads -/

theorem check_spec : Spec Pre (check x) (Via A) (fun a j => Pre j ∧ x = .ok a) :=
  read fun _ _ hj h => ⟨hj, h⟩

theorem command_spec (key : Uuid) :
    Spec Pre (command key) (Via A) (fun o j => Pre j ∧ o = j.command key) :=
  read fun j o hj h => ⟨hj, by simpa using h.symm⟩

theorem acceptedBefore_spec (key : Uuid) :
    Spec Pre (acceptedBefore key) (Via A) (fun r j => Pre j ∧ j.command key = some r) :=
  read fun _ _ hj h => ⟨hj, Checked.get_eq_ok.1 h⟩

end Agent

end Ocservia
