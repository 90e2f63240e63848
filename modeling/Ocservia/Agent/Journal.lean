import Ocservia.Lib.KeyedTable
import Ocservia.Contract.Envelope

/-!
# The Agent command journal

The SQLite journal of `command-journal/src/lib.rs`: the command records, the synthetic effects with
their counter, and the applied resource revisions. Each function is one statement or one transaction
of the source; it returns the journal it commits, or the error with which it rolls back. That
command ids are unique like the primary keys is proved in `Ocservia.Agent.Invariant`. The other
tables are not touched by command execution and are left out.
-/

namespace Ocservia

open Except

inductive CommandState where
  | accepted | running | succeeded | failed | unknown
deriving DecidableEq

/-- A terminal state: a result was stored and is never replaced. -/
def CommandState.terminal : CommandState → Bool
  | .succeeded | .failed => true
  | .accepted | .running | .unknown => false

structure CommandRecord where
  (idempotencyKey commandId : Uuid)
  payloadSha256 : FixedBytes 32
  payloadHashVersion : Int32
  state : CommandState
  result : Option Bytes
  errorCode : Option String
  privilegedResultProof : Option Bytes
  (acceptedAt updatedAt : Int64)
deriving DecidableEq

inductive AcceptOutcome where
  | accepted (record : CommandRecord)
  | replay (record : CommandRecord)
  | payloadConflict (record : CommandRecord)
  | identityConflict (record : CommandRecord)

/-- A row of `synthetic_effects`. -/
structure SyntheticEffect where
  idempotencyKey : Uuid
  payloadSha256 : FixedBytes 32
  result : Bytes
  executedAt : Int64

/-- `AppliedResourceRevision`, the argument of a completion. -/
structure AppliedResourceRevision where
  (resourceType resourceKey : String)
  revision : UInt64

/-- A row of `applied_resource_revisions`. -/
structure AppliedRevisionRow where
  (resourceType resourceKey : String)
  revision : Nat
  updatedAt : Int64

/-- The `rusqlite::Error` values that the journal itself raises. -/
inductive JournalError where
  | invalidQuery
  | queryReturnedNoRows
deriving DecidableEq

structure Journal where
  commands : KeyedTable Uuid CommandRecord CommandRecord.idempotencyKey
  syntheticEffects : KeyedTable Uuid SyntheticEffect SyntheticEffect.idempotencyKey
  executions : Nat
  appliedRevisions : KeyedTable (String × String) AppliedRevisionRow
    (fun row => (row.resourceType, row.resourceKey))

namespace Journal

/-- A journal as `Journal::open` creates it. -/
def fresh : Journal := ⟨∅, ∅, 0, ∅⟩

def command (j : Journal) (key : Uuid) : Option CommandRecord := j.commands.get? key

def commandById (j : Journal) (id : Uuid) : Option CommandRecord :=
  j.commands.rows.find? (fun r => r.commandId = id)

def syntheticEffect (j : Journal) (key : Uuid) : Option SyntheticEffect :=
  j.syntheticEffects.get? key

def appliedRevision (j : Journal) (resourceType resourceKey : String) : Option Nat :=
  (j.appliedRevisions.get? (resourceType, resourceKey)).map (·.revision)

/-- The record that `accept_command` inserts. -/
def acceptedRecord (key id : Uuid) (hash : FixedBytes 32) (version : Int32) (now : Int64) :
    CommandRecord where
  idempotencyKey := key
  commandId := id
  payloadSha256 := hash
  payloadHashVersion := version
  state := .accepted
  result := none
  errorCode := none
  privilegedResultProof := none
  acceptedAt := now
  updatedAt := now

def acceptCommand (key id : Uuid) (hash : FixedBytes 32) (version : Int32) (now : Int64)
    (j : Journal) : Except JournalError (AcceptOutcome × Journal) :=
  if h : j.command key = none then
    match j.commandById id with
    | none =>
      let record := acceptedRecord key id hash version now
      .ok (.accepted record, { j with commands := j.commands.insert record h })
    | some existing => .ok (.identityConflict existing, j)
  else
    match j.command key, j.commandById id with
    | some byKey, some byCommand =>
      if byKey.idempotencyKey = byCommand.idempotencyKey ∧ byKey.commandId = id then
        if byKey.payloadSha256 = hash ∧ byKey.payloadHashVersion = version then
          .ok (.replay byKey, j)
        else .ok (.payloadConflict byKey, j)
      else .ok (.identityConflict byKey, j)
    | some existing, none => .ok (.identityConflict existing, j)
    | none, _ => .error .queryReturnedNoRows

/-- The bounds on a stored result and error code. -/
def validOutcome (result : Option Bytes) (errorCode : Option String) : Bool :=
  !(result.any fun value => 1024 * 1024 < value.length) &&
    !(errorCode.any fun value => value.utf8ByteSize = 0 ∨ 128 < value.utf8ByteSize)

/-- The bounds on a stored proof. -/
def validProof (proof : Bytes) : Bool := !proof.isEmpty && proof.length ≤ 65536

/-- Overwrite the record of its key. -/
def setCommand (j : Journal) (record : CommandRecord) : Journal :=
  { j with commands := j.commands.set record }

/-- `transition_command`. The proof column is not written. -/
def transitionCommand (key : Uuid) (fromStates : List CommandState)
    (toState : CommandState) (result : Option Bytes) (errorCode : Option String) (now : Int64)
    (j : Journal) :
    Except JournalError (CommandRecord × Journal) :=
  if fromStates.isEmpty || !validOutcome result errorCode then .error .invalidQuery
  else
    match j.command key with
    | none => .error .queryReturnedNoRows
    | some current =>
      if current.state ∉ fromStates then .error .invalidQuery
      else
        let record := { current with state := toState, result, errorCode, updatedAt := now }
        .ok (record, j.setCommand record)

def transitionCommandAttested (key : Uuid) (fromStates : List CommandState)
    (toState : CommandState) (result : Option Bytes) (errorCode : Option String) (proof : Bytes)
    (now : Int64) (j : Journal) : Except JournalError (CommandRecord × Journal) :=
  if fromStates.isEmpty || !toState.terminal || !validOutcome result errorCode ||
    !validProof proof then
    .error .invalidQuery
  else
    match j.command key with
    | none => .error .queryReturnedNoRows
    | some current =>
      if current.state ∉ fromStates then .error .invalidQuery
      else
        let record := { current with
          state := toState, result, errorCode, privilegedResultProof := some proof,
          updatedAt := now }
        .ok (record, j.setCommand record)

section
variable (resource : AppliedResourceRevision)

/-- The bounds that every completion with a revision checks first. -/
def validResource (result : Bytes) : Bool :=
  ["user", "group", "config"].contains resource.resourceType &&
    resource.resourceKey.utf8ByteSize != 0 && resource.resourceKey.utf8ByteSize ≤ 64 &&
    resource.revision != 0 && resource.revision.toNat < 2 ^ 63 && result.length ≤ 1024 * 1024

/-- The row that a completion at `resource` stores. -/
def appliedRow (now : Int64) : AppliedRevisionRow where
  resourceType := resource.resourceType
  resourceKey := resource.resourceKey
  revision := resource.revision.toNat
  updatedAt := now

/-- The upsert of an applied revision, which never lowers it, and the check of the stored one. -/
def upsertRevision (now : Int64) (j : Journal) : Except JournalError Journal :=
  let stored := j.appliedRevision resource.resourceType resource.resourceKey
  if stored.any (resource.revision.toNat < ·) then .error .invalidQuery
  else .ok { j with appliedRevisions := j.appliedRevisions.upsert (appliedRow resource now) }

end

section
variable (key id : Uuid)

/-- The transaction of the completions with a revision: the record of `key` must be of the command
and in one of `fromStates`; revision and record are written together. -/
def completeWithRevision (fromStates : List CommandState)
    (resource : AppliedResourceRevision) (result : Bytes) (proof : Option Bytes) (now : Int64)
    (j : Journal) : Except JournalError (CommandRecord × Journal) :=
  match j.command key with
  | none => .error .queryReturnedNoRows
  | some record =>
    if record.commandId ≠ id ∨ record.state ∉ fromStates then .error .invalidQuery
    else
      match j.upsertRevision resource now with
      | .error e => .error e
      | .ok j' =>
        let completed := { record with
          state := .succeeded
          result := some result
          errorCode := none
          privilegedResultProof := proof <|> record.privilegedResultProof
          updatedAt := now }
        .ok (completed, j'.setCommand completed)

section
variable (resource : AppliedResourceRevision)

def completeExternalWithRevision
    (result : Bytes) (now : Int64) (j : Journal) : Except JournalError (CommandRecord × Journal) :=
  if !validResource resource result then .error .invalidQuery
  else j.completeWithRevision key id [.running] resource result none now

def completeExternalWithRevisionAttested (result proof : Bytes) (now : Int64) (j : Journal) :
    Except JournalError (CommandRecord × Journal) :=
  if !validResource resource result || !validProof proof then .error .invalidQuery
  else j.completeWithRevision key id [.running] resource result (some proof) now

def reconcileExternalWithRevision
    (result : Bytes) (now : Int64) (j : Journal) : Except JournalError (CommandRecord × Journal) :=
  if !validResource resource result then .error .invalidQuery
  else j.completeWithRevision key id [.accepted, .running, .unknown] resource result none now

end

def executeAndCompleteSynthetic (hash : FixedBytes 32) (result : Bytes)
    (now : Int64) (j : Journal) : Except JournalError (CommandRecord × Journal) :=
  if 1024 * 1024 < result.length then .error .invalidQuery
  else
    match j.command key with
    | none => .error .queryReturnedNoRows
    | some record =>
      if record.commandId ≠ id ∨ record.payloadSha256 ≠ hash ∨ record.state ≠ .running then
        .error .invalidQuery
      else
        let completed := { record with
          state := .succeeded, result := some result, errorCode := none, updatedAt := now }
        if h : j.syntheticEffects.get? key = none then
          let effect : SyntheticEffect := ⟨key, hash, result, now⟩
          let j' := { j with
            syntheticEffects := j.syntheticEffects.insert effect h
            executions := j.executions + 1 }
          .ok (completed, j'.setCommand completed)
        else if j.syntheticEffects.get? key |>.any
            (fun existing => existing.payloadSha256 ≠ hash ∨ existing.result ≠ result) then
          .error .invalidQuery
        else .ok (completed, j.setCommand completed)

end

/-! ## What each transaction does -/

/-- The stored revision does not exceed that of `resource`. -/
def NotAhead (j : Journal) (resource : AppliedResourceRevision) : Prop :=
  ∀ n ∈ j.appliedRevision resource.resourceType resource.resourceKey, n ≤ resource.revision.toNat

instance (j : Journal) (resource : AppliedResourceRevision) : Decidable (j.NotAhead resource) := by
  unfold NotAhead; infer_instance

/-- The fields of a record that are fixed when it is accepted. -/
structure SameIdentity (old new : CommandRecord) : Prop where
  key : new.idempotencyKey = old.idempotencyKey
  commandId : new.commandId = old.commandId
  payloadSha256 : new.payloadSha256 = old.payloadSha256
  payloadHashVersion : new.payloadHashVersion = old.payloadHashVersion
  acceptedAt : new.acceptedAt = old.acceptedAt

/-- The write replaces the record `old` by `new`, keeping its identity. -/
structure Rewrites (j j' : Journal) (old new : CommandRecord) : Prop where
  found : j.command old.idempotencyKey = some old
  commands : j'.commands = j.commands.set new
  same : SameIdentity old new

variable {j j' : Journal} {key id : Uuid} {fromStates : List CommandState}

theorem command_key (h : j.command key = some r) : r.idempotencyKey = key :=
  KeyedTable.key_of_get? h

theorem Rewrites.command (h : Rewrites j j' old new) (k : Uuid) :
    j'.command k = if k = old.idempotencyKey then some new else j.command k := by
  have hf : j.commands.get? new.idempotencyKey = some old := by
    rw [h.same.key]; exact h.found
  simp only [Journal.command, h.commands]
  rw [KeyedTable.get?_set_of_mem hf, h.same.key]

theorem rewrites_setCommand (h : j.command key = some old) (hs : SameIdentity old new) :
    Rewrites j (j.setCommand new) old new where
  found := by rw [command_key h]; exact h
  commands := rfl
  same := hs

/-- Accepting inserts a fresh record when neither key nor id is known, and changes nothing else. -/
theorem acceptCommand_cases {hash : FixedBytes 32} {version : Int32} {o : AcceptOutcome}
    (h : j.acceptCommand key id hash version now = .ok (o, j')) :
    (∃ hk : j.command key = none, j.commandById id = none ∧
      o = .accepted (acceptedRecord key id hash version now) ∧
      j' = { j with commands := j.commands.insert (acceptedRecord key id hash version now) hk }) ∨
    (j' = j ∧ ∃ r, j.command key = some r ∧ r.commandId = id ∧ r.payloadSha256 = hash ∧
      r.payloadHashVersion = version ∧ o = .replay r) ∨
    (j' = j ∧ ∃ r, o = .payloadConflict r ∨ o = .identityConflict r) := by
  unfold acceptCommand at h
  split at h
  · rename_i hk
    split at h
    · rename_i hid
      simp only [ok.injEq, Prod.mk.injEq] at h
      exact .inl ⟨hk, hid, h.1.symm, h.2.symm⟩
    · rename_i existing _
      simp only [ok.injEq, Prod.mk.injEq] at h
      exact .inr (.inr ⟨h.2.symm, existing, .inr h.1.symm⟩)
  split at h
  · rename_i byKey byCommand hbk _
    split at h
    · rename_i hm
      split at h
      · rename_i hh
        cases h
        exact .inr (.inl ⟨rfl, byKey, hbk, hm.2, hh.1, hh.2, rfl⟩)
      · cases h
        exact .inr (.inr ⟨rfl, byKey, .inl rfl⟩)
    · cases h
      exact .inr (.inr ⟨rfl, byKey, .inr rfl⟩)
  · rename_i existing _ _
    cases h
    exact .inr (.inr ⟨rfl, existing, .inr rfl⟩)
  · cases h

/-- A transition rewrites the record of its key, which was in an allowed state. -/
theorem transitionCommand_ok
    (h : j.transitionCommand key fromStates toState result errorCode now = .ok (r, j')) :
    ∃ old, j.command key = some old ∧ old.state ∈ fromStates ∧
      r = { old with state := toState, result, errorCode, updatedAt := now } ∧
      j' = j.setCommand r := by
  unfold transitionCommand at h
  split at h
  · cases h
  split at h
  · cases h
  rename_i current hc
  split at h
  · cases h
  · rename_i hm
    cases h
    exact ⟨current, hc, not_not.1 hm, rfl, rfl⟩

/-- An attested transition rewrites its record to a terminal state with the proof. -/
theorem transitionCommandAttested_ok
    (h : j.transitionCommandAttested key fromStates toState result errorCode proof now =
      .ok (r, j')) :
    ∃ old, j.command key = some old ∧ old.state ∈ fromStates ∧ toState.terminal = true ∧
      r = { old with
        state := toState, result, errorCode, privilegedResultProof := some proof,
        updatedAt := now } ∧
      j' = j.setCommand r := by
  unfold transitionCommandAttested at h
  split at h
  · cases h
  rename_i hg
  split at h
  · cases h
  rename_i current hc
  split at h
  · cases h
  rename_i hm
  cases h
  refine ⟨current, hc, not_not.1 hm, ?_, rfl, rfl⟩
  simp only [Bool.or_eq_true, Bool.not_eq_true', not_or, Bool.not_eq_false] at hg
  exact hg.1.1.2

/-- The revision upsert succeeds exactly when the stored revision is not larger. -/
theorem upsertRevision_ok (h : j.upsertRevision resource now = .ok j') :
    j.NotAhead resource ∧
    j' = { j with appliedRevisions := j.appliedRevisions.upsert (appliedRow resource now) } := by
  unfold upsertRevision at h
  simp only at h
  split at h
  · cases h
  rename_i hs
  simp only [ok.injEq] at h
  refine ⟨fun n hn => ?_, h.symm⟩
  have hn : j.appliedRevision resource.resourceType resource.resourceKey = some n := hn
  simpa [hn] using hs

/-- A completion with a revision writes the record and the revision together. -/
theorem completeWithRevision_ok
    (h : j.completeWithRevision key id fromStates resource result proof now = .ok (r, j')) :
    ∃ old j₁, j.command key = some old ∧ old.commandId = id ∧ old.state ∈ fromStates ∧
      j.upsertRevision resource now = .ok j₁ ∧
      r = { old with
        state := .succeeded, result := some result, errorCode := none,
        privilegedResultProof := proof <|> old.privilegedResultProof, updatedAt := now } ∧
      j' = j₁.setCommand r := by
  unfold completeWithRevision at h
  split at h
  · cases h
  rename_i record hc
  split at h
  · cases h
  rename_i hm
  simp only [not_or, not_not] at hm
  split at h
  · cases h
  · rename_i j₁ hu
    cases h
    exact ⟨record, j₁, hc, hm.1, hm.2, hu, rfl, rfl⟩

/-- A synthetic completion rewrites its running record and no applied revision. -/
theorem executeAndCompleteSynthetic_ok {hash : FixedBytes 32} {result : Bytes}
    (h : j.executeAndCompleteSynthetic key id hash result now = .ok (r, j')) :
    ∃ old, j.command key = some old ∧ old.commandId = id ∧ old.payloadSha256 = hash ∧
      old.state = .running ∧
      r = { old with
        state := .succeeded, result := some result, errorCode := none, updatedAt := now } ∧
      j'.commands = j.commands.set r ∧ j'.appliedRevisions = j.appliedRevisions := by
  unfold executeAndCompleteSynthetic at h
  split at h
  · cases h
  split at h
  · cases h
  rename_i record hc
  split at h
  · cases h
  rename_i hm
  simp only [not_or, not_not] at hm
  simp only at h
  split at h
  · cases h
    exact ⟨record, hc, hm.1, hm.2.1, hm.2.2, rfl, rfl, rfl⟩
  split at h
  · cases h
  · cases h
    exact ⟨record, hc, hm.1, hm.2.1, hm.2.2, rfl, rfl, rfl⟩

/-! ## When a transaction commits -/

theorem ne_nil_of_mem_state (h : c ∈ fromStates) : fromStates.isEmpty = false := by
  cases fromStates with
  | nil => cases h
  | cons a l => rfl

theorem transitionCommand_of (hold : j.command key = some old) (hm : old.state ∈ fromStates)
    (hv : validOutcome result errorCode = true) :
    j.transitionCommand key fromStates toState result errorCode now =
      .ok ({ old with state := toState, result, errorCode, updatedAt := now },
        j.setCommand { old with state := toState, result, errorCode, updatedAt := now }) := by
  simp [transitionCommand, ne_nil_of_mem_state hm, hv, hold, hm]

theorem upsertRevision_of :
    (j.NotAhead resource → j.upsertRevision resource now =
      .ok { j with appliedRevisions := j.appliedRevisions.upsert (appliedRow resource now) }) ∧
    (¬ j.NotAhead resource → j.upsertRevision resource now = .error .invalidQuery) := by
  unfold NotAhead upsertRevision
  cases j.appliedRevision resource.resourceType resource.resourceKey with
  | none => simp
  | some n => simp

/-- A completion of a running record commits when the resource is valid and no larger revision
stored. -/
theorem completeAttested_of (now : Int64) (hold : j.command key = some old)
    (hid : old.commandId = id) (hs : old.state = .running) (hp : validProof proof = true)
    (hv : validResource resource result = true) (ha : j.NotAhead resource) :
    ∃ r j', j.completeExternalWithRevisionAttested key id resource result proof now =
        .ok (r, j') ∧ j'.command key = some r ∧ r.state = .succeeded ∧
      r.privilegedResultProof = some proof := by
  let r : CommandRecord := { old with
    state := .succeeded
    result := some result
    errorCode := none
    privilegedResultProof := some proof
    updatedAt := now }
  let j₁ : Journal :=
    { j with appliedRevisions := j.appliedRevisions.upsert (appliedRow resource now) }
  refine ⟨r, j₁.setCommand r, ?_, ?_, rfl, rfl⟩
  · simp [completeExternalWithRevisionAttested, completeWithRevision, hv, hp, hold, hid, hs,
      upsertRevision_of.1 ha, j₁, r]
  · have hk : old.idempotencyKey = key := command_key hold
    have hold₁ : j₁.command key = some old := hold
    have hw : Rewrites j₁ (j₁.setCommand r) old r :=
      rewrites_setCommand hold₁ ⟨rfl, rfl, rfl, rfl, rfl⟩
    rw [hw.command, if_pos hk.symm]

/-- Otherwise it rolls back. -/
theorem completeAttested_error (key id : Uuid) (proof : Bytes) (now : Int64)
    (h : ¬ (validResource resource result = true ∧ j.NotAhead resource)) :
    ∃ e, j.completeExternalWithRevisionAttested key id resource result proof now = .error e := by
  cases hx : j.completeExternalWithRevisionAttested key id resource result proof now with
  | error e => exact ⟨e, rfl⟩
  | ok x =>
    refine absurd ?_ h
    unfold completeExternalWithRevisionAttested at hx
    split at hx
    · cases hx
    rename_i hv
    simp only [Bool.or_eq_true, Bool.not_eq_true', not_or, Bool.not_eq_false] at hv
    obtain ⟨old, j₁, -, -, -, hu, -⟩ := completeWithRevision_ok hx
    exact ⟨hv.1, (upsertRevision_ok hu).1⟩

end Journal

end Ocservia
