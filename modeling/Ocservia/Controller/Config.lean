import Ocservia.Contract.Receipt

/-!
# Configuration applies on the Controller

The Controller keeps, for each node, the applied and the desired configuration revision and a lock
(`node_config_state`), and the state of each configuration apply (`config_apply_operations`). The
desired revision is advanced when an apply is admitted (`AdvanceDesiredRevision`); the other columns
follow the results of the Agent (`ConfigOutcome`). A node without a row reads as zero revisions
without lock. The other checks of the admission can only refuse an apply and are left out.
-/

namespace Ocservia

/-- The states of `config_apply_operations`. -/
inductive ApplyState where
  | queued | dispatched | accepted | running | unknown
  | succeeded | failed | rolledBack | failedCritical | expired
deriving DecidableEq

/-- The states that `HasActiveApply` looks for. -/
def ApplyState.active : ApplyState → Bool
  | .queued | .dispatched | .accepted | .running | .unknown => true
  | .succeeded | .failed | .rolledBack | .failedCritical | .expired => false

/-- The terminal states that a result with a configuration outcome leads to. -/
def ApplyState.outcome : ApplyState → Bool
  | .succeeded | .rolledBack | .failedCritical => true
  | .queued | .dispatched | .accepted | .running | .unknown | .failed | .expired => false

theorem ApplyState.outcome_of_active {state : ApplyState} (h : state.active = true) :
    state.outcome = false := by
  cases state <;> first | rfl | cases h

/-- A row of `node_config_state`. -/
structure NodeConfigState where
  (revision desiredRevision : Nat)
  locked : Bool
deriving DecidableEq

namespace NodeConfigState

def missing : NodeConfigState := ⟨0, 0, false⟩

/-- The refusals of the admission fence. -/
inductive Refusal where
  | staleRevision | configApplyActive
deriving DecidableEq

section
variable (state : NodeConfigState)

/-- The configuration fence of `Service.Create` for an apply of a plan. -/
def admitApply (planRevision : Nat) (desiredRevision : UInt64)
    (applyActive : Bool) : Except Refusal Unit :=
  if state.locked ∨ state.revision ≠ planRevision ∨ state.desiredRevision < state.revision ∨
      desiredRevision.toNat ≠ state.desiredRevision + 1 then
    .error .staleRevision
  else if applyActive then .error .configApplyActive
  else .ok ()

def advanceDesiredRevision (revision : UInt64) : Option NodeConfigState :=
  if state.desiredRevision = revision.toNat - 1 then
    some { state with desiredRevision := revision.toNat }
  else none

/-- `ConfigOutcome`, on the node's row. -/
def configOutcome (applyState : ApplyState) (revision : UInt64) : NodeConfigState :=
  match applyState with
  | .succeeded =>
    { revision := revision.toNat
      desiredRevision := max state.desiredRevision revision.toNat
      locked := false }
  | .failedCritical =>
    { state with desiredRevision := max state.desiredRevision revision.toNat, locked := true }
  | _ => state

/-- The operator's removal of the lock. -/
def unlock : NodeConfigState := { state with locked := false }

end

end NodeConfigState

structure ConfigApplyIdentity where
  (candidateHash currentHash materializedHash : Bytes)
  desiredRevision : UInt64

def configApplyBinding (envelope : CommandEnvelope) : Option ConfigApplyIdentity :=
  match envelope.payload with
  | some (.configApply p) =>
    some ⟨p.candidateHash, p.expectedCurrentHash, p.candidateHash, p.desiredRevision⟩
  | some (.completeConfigApply p) =>
    some ⟨p.candidateHash, p.expectedCurrentHash, p.materializedHash, p.desiredRevision⟩
  | _ => none

/-- `normalizeConfigApplyResult` on the message of a succeeded result. -/
def normalizeConfigApplyResult (apply : ConfigApplyIdentity) (result : ConfigApplyResult) :
    Option ApplyState :=
  if result.candidateHash ≠ apply.candidateHash ∨ result.previousHash ≠ apply.currentHash then none
  else if result.healthy ∧ ¬ result.rolledBack ∧ ¬ result.failedCritical ∧
      result.failureCode = "" ∧ result.observedHash = apply.materializedHash ∧
      result.appliedRevision = apply.desiredRevision then
    some .succeeded
  else if result.healthy ∧ result.rolledBack ∧ ¬ result.failedCritical ∧
      result.appliedRevision = 0 ∧ result.observedHash = apply.currentHash ∧
      (result.failureCode = "health_check_failed" ∨
        result.failureCode = "recovered_health_check_failed") then
    some .rolledBack
  else if ¬ result.healthy ∧ ¬ result.rolledBack ∧ result.failedCritical ∧
      result.appliedRevision = 0 ∧ result.observedHash = [] ∧
      (result.failureCode = "rollback_failed" ∨
        result.failureCode = "recovery_rollback_failed") then
    some .failedCritical
  else none

theorem normalizeConfigApplyResult_outcome
    (h : normalizeConfigApplyResult apply result = some state) : state.outcome = true := by
  unfold normalizeConfigApplyResult at h
  split at h
  · cases h
  split at h
  · cases h
    rfl
  split at h
  · cases h
    rfl
  split at h
  · cases h
    rfl
  · cases h

namespace NodeConfigState

theorem admit_ok {state : NodeConfigState} {planRevision : Nat} {desiredRevision : UInt64}
    {applyActive : Bool} (h : state.admitApply planRevision desiredRevision applyActive = .ok ()) :
    desiredRevision.toNat = state.desiredRevision + 1 := by
  unfold admitApply at h
  split at h
  · cases h
  rename_i hfence
  simp only [not_or, not_not, Bool.not_eq_true] at hfence
  exact hfence.2.2.2

end NodeConfigState

end Ocservia
