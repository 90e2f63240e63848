import Ocservia.Contract.Envelope

/-!
# The dispatch state of a command on the Controller

One command of the Controller with the rows that its dispatch reads and writes: the row of
`commands`, its row of `outbox_events`, the latest row of `command_attempts` and its row of
`node_command_leases` (`Command`). Each function is one transaction, or one statement of a larger
transaction, of `internal/database/postgres/operation_*.go`, `user_state.go` and
`command_result.go`, with the guards of its callers. It returns the rows it commits, or `none` where
the transaction has no effect on the command.

Time is that of the database, in microseconds; the observation clock of the Controller is taken to
agree with it. A claim writes the lease, the lock of the outbox row and the attempt together, so the
lease token stands for the claim and the worker ids are left out. The row of `operations` follows
the state of its command. The columns that only reports read are left out.
-/

namespace Ocservia

open Option

/-- A point in time. -/
abbrev Time := Nat

def oneSecond : Time := 1000000

def recoveryCommandTTL : Time := 300 * oneSecond

def commandResultResponseTimeout : Time := 20 * oneSecond

def reconciliationAttemptLimit : Nat := 64

/-- The attempts up to which `Reap` schedules the follow-up of an expired sending lease. -/
def maxSendingAttempts : Nat := 3

/-! ## Rows -/

/-- The states of `commands`. -/
inductive CommandStatus where
  | queued | dispatched | accepted | running | unknown
  | succeeded | failed | rejected | rolledBack | expired | superseded
deriving DecidableEq

/-- The states that a result still changes. -/
def CommandStatus.mutable : CommandStatus → Bool
  | .queued | .dispatched | .accepted | .running | .unknown => true
  | .succeeded | .failed | .rejected | .rolledBack | .expired | .superseded => false

/-- The states of a command whose frame was sent and whose result is awaited. -/
def CommandStatus.awaiting : CommandStatus → Bool
  | .dispatched | .accepted | .running => true
  | .queued | .unknown | .succeeded | .failed | .rejected | .rolledBack | .expired
  | .superseded => false

/-- The states of a command that counts as never delivered. -/
def CommandStatus.undelivered : CommandStatus → Bool
  | .queued | .expired | .superseded => true
  | .dispatched | .accepted | .running | .unknown | .succeeded | .failed | .rejected
  | .rolledBack => false

/-- The terminal states that a result leads to. -/
def CommandStatus.settled : CommandStatus → Bool
  | .succeeded | .failed | .rejected | .rolledBack => true
  | .queued | .dispatched | .accepted | .running | .unknown | .expired | .superseded => false

/-- The states of `command_attempts`. -/
inductive AttemptState where
  | sending | sent | failed | unknown
deriving DecidableEq

/-- The latest row of `command_attempts`. -/
structure Attempt where
  state : AttemptState
  (startedAt finishedAt : Time)

/-- A row of `node_command_leases`. -/
structure Lease where
  token : Nat
  leasedUntil : Time

/-- A command with its outbox row, its latest attempt and its lease. -/
structure Command where
  payload : Payload
  /-- The stored envelope has the legacy protocol version. -/
  legacy : Bool
  /-- The delivery mode of the stored envelope. -/
  mode : CommandDeliveryMode
  /-- The deadline inside the envelope, which recovery keeps. -/
  deadline : Time
  state : CommandStatus
  /-- `commands.expires_at`. -/
  expiresAt : Time
  /-- `outbox_events.published_at IS NOT NULL`. -/
  published : Bool
  /-- `outbox_events.locked_until`, when the row is locked. -/
  lockedUntil : Option Time
  availableAt : Time
  attempts : Nat
  attempt : Option Attempt
  lease : Option Lease
  /-- When the latest result was stored. -/
  resultAt : Option Time
  /-- An agent upgrade whose scheduling was acknowledged by a verified result. -/
  acked : Bool

namespace Command

/-- The rows that `EnqueueCommand` inserts. -/
def enqueued (payload : Payload) (legacy : Bool) (expiresAt availableAt : Time) : Command where
  payload := payload
  legacy := legacy
  mode := .executeOrReplay
  deadline := expiresAt
  state := .queued
  expiresAt := expiresAt
  published := false
  lockedUntil := none
  availableAt := availableAt
  attempts := 0
  attempt := none
  lease := none
  resultAt := none
  acked := false

section
variable (c : Command)

/-- The command has a row in `config_apply_operations`. -/
def isConfigApply : Bool :=
  match c.payload with
  | .configApply _ | .completeConfigApply _ => true
  | _ => false

def isAgentUpgrade : Bool :=
  match c.payload with
  | .agentUpgrade _ => true
  | _ => false

def fixedHostEffect : Bool :=
  match c.payload with
  | .sessionDisconnect _ | .sessionTerminate _ | .ipBanRemove _ | .serviceReload => true
  | _ => false

/-- The latest attempt is in the given state. -/
def attemptIs (state : AttemptState) : Bool := c.attempt.any (·.state = state)

/-- The lease with `token` is held and has not expired. -/
def leaseValid (token : Nat) (now : Time) : Bool :=
  c.lease.any fun l => l.token = token ∧ now < l.leasedUntil

/-- The outbox row is locked and the lock has not expired. -/
def locked (now : Time) : Bool := c.lockedUntil.any (now < ·)

/-- A result was stored after the latest attempt started. -/
def resultAfterAttempt : Bool :=
  match c.resultAt, c.attempt with
  | some at_, some a => a.startedAt ≤ at_
  | _, _ => false

/-- `dispatchInFlight` of `LoadCommand`. -/
def inFlight (now : Time) : Bool :=
  c.lease.any (now < ·.leasedUntil) && c.locked now && c.attemptIs .sending

/-- The outbox row waits for a dispatch. -/
def pending : Bool := !c.published && c.lockedUntil.isNone

/-! ## Dispatch -/

/-- A claim: `DispatchCandidates` selects the command and `ClaimDispatch` leases it. -/
def claim (token : Nat) (leasedUntil now : Time) : Option Command :=
  if c.published = false ∧ c.availableAt ≤ now ∧ c.locked now = false ∧
      (c.state = .queued ∨ c.state = .unknown) ∧ now < c.expiresAt ∧ c.lease = none then
    some { c with
      lease := some ⟨token, leasedUntil⟩
      lockedUntil := some leasedUntil
      attempts := c.attempts + 1
      attempt := some ⟨.sending, now, now⟩ }
  else none

/-- The latest attempt ends in `state`. -/
def finishAttempt (state : AttemptState) (now : Time) : Command :=
  { c with attempt := c.attempt.map fun a => { a with state, finishedAt := now } }

/-- `CloseDispatch`: the attempt is sent and the lease is gone. -/
def closeDispatch (now : Time) : Command :=
  { c.finishAttempt .sent now with lease := none }

/-- `PublishDispatch`, and the outbox update of a terminal outcome. -/
def publish : Command := { c with published := true, lockedUntil := none }

/-- `RecordDispatched`: a reconcile-only delivery leaves an unknown command unknown. -/
def recordDispatched : Command :=
  if c.state = .unknown ∧ c.mode = .reconcileOnly then c else { c with state := .dispatched }

/-- `MarkSentWithEnvelope`, while the lease exists. -/
def markSent (token : Nat) (now : Time) : Option Command :=
  if c.leaseValid token now = false ∨ c.attemptIs .sending = false then none
  else if c.resultAfterAttempt then
    some ((if c.locked now then c.publish else c).closeDispatch now)
  else if c.locked now ∧ (c.state = .queued ∨ c.state = .unknown) then
    some (c.publish.recordDispatched.closeDispatch now)
  else none

/-- `MarkFailed`: the guards of `finishDispatch` and `FailDispatch`. -/
def markFailed (token : Nat) (now : Time) : Option Command :=
  if c.leaseValid token now ∧ c.attemptIs .sending ∧ c.locked now ∧ ¬ c.resultAfterAttempt then
    some { c.finishAttempt .failed now with
      lockedUntil := none
      availableAt := now + oneSecond
      lease := none }
  else none

/-- `ExpireQueued`. -/
def expire (now : Time) : Option Command :=
  if c.state = .queued ∧ c.expiresAt ≤ now ∧ c.lease = none then
    some { c.publish with state := .expired }
  else none

/-- `SupersedePending`, of operations and of the desired user state. -/
def supersede : Option Command :=
  if c.state = .queued ∧ c.lockedUntil = none ∧ c.lease = none then
    some { c with state := .superseded, published := true }
  else none

end

/-! ## Recovery -/

section
variable (c : Command)

/-- The envelope that `PrepareRecoveryEnvelope` makes, and the stored deadline. Only an original
legacy dispatch gets the current protocol. -/
def prepareRecovery (mode : CommandDeliveryMode) (now : Time) : Command :=
  { c with
    mode
    legacy := c.legacy && c.mode != .executeOrReplay
    expiresAt :=
      if mode = .reconcileOnly then max c.deadline (now + recoveryCommandTTL) else c.deadline }

section
variable (now : Time)

/-- The outbox row becomes available again. -/
def schedule : Command :=
  { c with published := false, lockedUntil := none, availableAt := now }

/-- The command whose sending lease expired, before its outbox row is decided. -/
def lost : Command :=
  { c.finishAttempt .unknown now with state := .unknown }

/-- `reconcileExpiredSending`: an expired sending lease leaves the outcome unknown. -/
def reconcileExpiredSending : Option Command :=
  if c.lease.any (·.leasedUntil ≤ now) ∧ c.attemptIs .sending ∧
      (c.state = .queued ∨ c.state = .unknown) ∧ c.acked = false ∧ c.published = false ∧
      c.lockedUntil ≠ none then
    if c.state = .queued ∨ c.attempts < maxSendingAttempts then
      if c.mode ≠ .reconcileOnly then
        some (((c.lost now).prepareRecovery .reconcileOnly now).schedule now)
      else if now < c.expiresAt then some ((c.lost now).schedule now)
      else some (c.lost now).publish
    else some (c.lost now).publish
  else none

/-- `reconcileExpiredApplies` for one command. -/
def reconcileExpiredApply : Option Command :=
  if c.isConfigApply ∧ c.state.awaiting ∧ c.expiresAt ≤ now then
    some (({ c with state := .unknown }.prepareRecovery .reconcileOnly now).schedule now)
  else none

/-- `reconcileMissingResults` for one command. -/
def reconcileMissingResult : Option Command :=
  if c.state.awaiting ∧ c.acked = false ∧ c.published ∧ c.lockedUntil = none ∧
      c.attempt.any (fun a => a.state = .sent ∧ a.finishedAt + commandResultResponseTimeout ≤ now) ∧
      c.lease = none then
    if c.attempts < reconciliationAttemptLimit then
      some (({ c with state := .unknown }.prepareRecovery .reconcileOnly now).schedule now)
    else some { c with state := .unknown }
  else none

/-- `continueReconciliations` for one command. -/
def continueReconciliation : Option Command :=
  if c.state = .unknown ∧ c.published ∧ c.lockedUntil = none ∧
      c.attempts < reconciliationAttemptLimit ∧
      c.attempt.any (fun a => a.state = .sent ∧ a.finishedAt + commandResultResponseTimeout ≤ now) ∧
      now < c.expiresAt ∧ c.lease = none ∧ c.acked = false ∧ c.mode = .reconcileOnly then
    some (c.schedule now)
  else none

/-- `DeleteExpiredLeases` for one command. -/
def deleteExpiredLease : Option Command :=
  if c.lease.any (·.leasedUntil ≤ now) ∧ c.attemptIs .sending = false then
    some { c with lease := none }
  else none

/-- `RecoverAmbiguousDispatched`, for a dispatch not on the new connection. -/
def reconnect : Option Command :=
  if (c.state.awaiting ∨ c.state = .unknown) ∧ c.acked = false ∧ c.published ∧
      c.lockedUntil = none ∧ c.lease = none then
    some (({ c with state := .unknown }.prepareRecovery .reconcileOnly now).schedule now)
  else none

end

/-- `applyAgentUpgradeTerminal` and `UpgradeTerminal`: an agent upgrade ends as its durable evidence
decides; one still unknown at the deadline of its reconciliation expires. (When its operation was
unknown already, this is no event of the command.) -/
def upgradeTerminal (decision : CommandStatus) : Option Command :=
  if c.isAgentUpgrade ∧ c.state.mutable ∧ (decision = .unknown ∨ decision.settled) then
    some { c.publish with state := if decision = .unknown then .expired else decision }
  else none

end

/-! ## Results -/

end Command

/-- The status of a receipt verification. -/
inductive ReceiptStatus where
  | notRequired | verified | refused
deriving DecidableEq

/-- What the ingestion makes of a message: the reported state, the error code, the status of the
receipt, and the state after the check of the typed result, if it passes. -/
structure ResultReport where
  state : CommandStatus
  errorCode : String
  receipt : ReceiptStatus
  normalized : Option CommandStatus

namespace ResultReport

/-- The result cannot be trusted as it stands. -/
def untrusted (r : ResultReport) : Bool := r.receipt = .refused || r.normalized.isNone

/-- The state that a report leads to for an upgrade or another command. -/
def effective (r : ResultReport) (upgrade : Bool) : CommandStatus :=
  match r.receipt, r.normalized with
  | .refused, _ | _, none => .unknown
  | _, some state => if upgrade ∧ state = .succeeded then .accepted else state

/-- The reason by which recovery is chosen. -/
def recoveryReason (r : ResultReport) : String :=
  if r.untrusted then "outcome_requires_reconciliation" else r.errorCode

/-- A report as the ingestion makes it: a receipt status that a privileged command cannot avoid for
a terminal state and that no rejection passes, and a normalized state that keeps every state but
success. -/
structure Conforms (r : ResultReport) (external : Bool) : Prop where
  reported : r.state = .succeeded ∨ r.state = .failed ∨ r.state = .unknown ∨ r.state = .rejected
  required : external = true → r.state ≠ .unknown → r.receipt ≠ .notRequired
  rejected : r.state = .rejected → r.receipt ≠ .verified
  kept : r.receipt ≠ .refused → r.state ≠ .succeeded → r.normalized = some r.state
  typed : ∀ state, r.receipt ≠ .refused → r.state = .succeeded → r.normalized = some state →
    state = .succeeded ∨ state = .rolledBack ∨ state = .failed

instance (r : ResultReport) (external : Bool) : Decidable (r.Conforms external) :=
  decidable_of_iff
    ((r.state = .succeeded ∨ r.state = .failed ∨ r.state = .unknown ∨ r.state = .rejected) ∧
      (external = true → r.state ≠ .unknown → r.receipt ≠ .notRequired) ∧
      (r.state = .rejected → r.receipt ≠ .verified) ∧
      (r.receipt ≠ .refused → r.state ≠ .succeeded → r.normalized = some r.state) ∧
      ∀ state ∈ r.normalized, r.receipt ≠ .refused → r.state = .succeeded →
        state = .succeeded ∨ state = .rolledBack ∨ state = .failed)
    ⟨fun ⟨h1, h2, h3, h4, h5⟩ => ⟨h1, h2, h3, h4, fun state hr hs hn => h5 state hn hr hs⟩,
      fun h => ⟨h.reported, h.required, h.rejected, h.kept, fun state hn hr hs =>
        h.typed state hr hs hn⟩⟩

end ResultReport

namespace Command

section
variable (c : Command)

/-- The mode in which a result with the reason is recovered; an absence that no reconciliation
observed is refused. -/
def recoveryMode (reason : String) (now : Time) : Option (Option CommandDeliveryMode) :=
  if reason = "effect_absent" then
    if c.mode ≠ .reconcileOnly then none
    else if c.fixedHostEffect ∨ c.legacy ∨ c.deadline ≤ now then some none
    else some (some .retryIfEffectAbsent)
  else if reason ∈ ["outcome_requires_reconciliation", "result_persistence_failed",
      "privd_transport_unknown", "privd_outcome_unknown"] then some (some .reconcileOnly)
  else some none

def scheduleCommandRecovery (reason : String) (now : Time) : Option Command :=
  (c.recoveryMode reason now).map fun
    | some mode => (c.prepareRecovery mode now).schedule now
    | none => c

/-- The rows after an ingestion that changes the state to `state`: `UpdateCommand`, `CompleteOutbox`
and `CloseDispatch`. -/
def settle (state : CommandStatus) (now : Time) : Command :=
  let c₁ : Command := { c with state }
  let c₂ := if state.settled then c₁.publish else c₁
  if c.inFlight now then c₂.closeDispatch now else c₂

/-- The stored result; a verified success acknowledges the scheduling of an agent upgrade. -/
def storeResult (r : ResultReport) (now : Time) : Command :=
  { c with
    resultAt := some now
    acked := c.acked || (c.isAgentUpgrade && r.state = .succeeded && r.receipt = .verified) }

/-- `IngestCommandResult` from the report on; a stored receipt ends it before. -/
def ingest (r : ResultReport) (now : Time) : Option Command :=
  if c.state = .queued ∧ c.inFlight now = false then none
  else if c.state = .expired ∨ c.state = .superseded then none
  else if c.state.settled ∧ c.state ≠ r.effective c.isAgentUpgrade ∧ r.untrusted = false then none
  else if c.state.mutable = false then some (c.storeResult r now)
  else if r.effective c.isAgentUpgrade = .unknown then
    ((c.storeResult r now).settle .unknown now).scheduleCommandRecovery r.recoveryReason now
  else some ((c.storeResult r now).settle (r.effective c.isAgentUpgrade) now)

end

end Command

/-! ## Events -/

/-- The transactions on a command. -/
inductive CommandEvent where
  | claim (token : Nat) (leasedUntil : Time)
  | markSent (token : Nat)
  | markFailed (token : Nat)
  | expire
  | supersede
  | reconcileExpiredSending
  | reconcileExpiredApply
  | reconcileMissingResult
  | continueReconciliation
  | deleteExpiredLease
  | reconnect
  | upgradeTerminal (decision : CommandStatus)
  | ingest (report : ResultReport)

/-- The rows after an event at `now`. -/
def Command.next (c : Command) (now : Time) : CommandEvent → Option Command
  | .claim token leasedUntil => c.claim token leasedUntil now
  | .markSent token => c.markSent token now
  | .markFailed token => c.markFailed token now
  | .expire => c.expire now
  | .supersede => c.supersede
  | .reconcileExpiredSending => c.reconcileExpiredSending now
  | .reconcileExpiredApply => c.reconcileExpiredApply now
  | .reconcileMissingResult => c.reconcileMissingResult now
  | .continueReconciliation => c.continueReconciliation now
  | .deleteExpiredLease => c.deleteExpiredLease now
  | .reconnect => c.reconnect now
  | .upgradeTerminal decision => c.upgradeTerminal decision
  | .ingest report => c.ingest report now

/-- An ingested report is one that the ingestion makes. -/
def CommandEvent.Conforms (c : Command) : CommandEvent → Prop
  | .ingest report => report.Conforms (!c.payload.synthetic)
  | _ => True

/-- An event that neither dispatches the command nor closes it as undelivered. -/
def CommandEvent.background : CommandEvent → Bool
  | .claim _ _ | .markSent _ | .markFailed _ | .expire | .supersede => false
  | .reconcileExpiredSending | .reconcileExpiredApply | .reconcileMissingResult
  | .continueReconciliation | .deleteExpiredLease | .reconnect | .upgradeTerminal _ | .ingest _ =>
    true

instance (c : Command) (event : CommandEvent) : Decidable (event.Conforms c) := by
  cases event <;> unfold CommandEvent.Conforms <;> infer_instance

/-! ## What an event does to the state -/

/-- A report leads to an unknown or a settled state; only an upgrade is accepted. -/
theorem ResultReport.Conforms.effective {r : ResultReport} {external : Bool}
    (h : r.Conforms external) (upgrade : Bool) :
    r.effective upgrade = .unknown ∨ (upgrade = true ∧ r.effective upgrade = .accepted) ∨
      (r.effective upgrade).settled = true := by
  unfold ResultReport.effective
  split
  · exact .inl rfl
  · exact .inl rfl
  rename_i state hnormalized hne
  by_cases hs : r.state = .succeeded
  · rcases h.typed state hne hs hnormalized with rfl | rfl | rfl
    · cases upgrade
      · exact .inr (.inr rfl)
      · exact .inr (.inl ⟨rfl, rfl⟩)
    iterate 2 exact .inr (.inr (by simp [CommandStatus.settled]))
  have hkept := h.kept hne hs
  rw [hnormalized] at hkept
  obtain rfl : state = r.state := by simpa using hkept
  have hif : (if upgrade = true ∧ r.state = .succeeded then .accepted else r.state) = r.state :=
    if_neg fun hc => hs hc.2
  rw [hif]
  rcases h.reported with hr | hr | hr | hr
  · exact absurd hr hs
  · exact .inr (.inr (by rw [hr]; rfl))
  · exact .inl hr
  · exact .inr (.inr (by rw [hr]; rfl))

namespace Command

variable {c c' : Command}

theorem markSent_cases (h : c.markSent token now = some c') :
    c.leaseValid token now = true ∧ c.attemptIs .sending = true ∧
      ((c.resultAfterAttempt = true ∧
          c' = (if c.locked now then c.publish else c).closeDispatch now) ∨
        (c.locked now = true ∧ (c.state = .queued ∨ c.state = .unknown) ∧
          c' = c.publish.recordDispatched.closeDispatch now)) := by
  unfold markSent at h
  split at h
  · cases h
  next hg =>
  rw [not_or, Bool.not_eq_false, Bool.not_eq_false] at hg
  refine ⟨hg.1, hg.2, ?_⟩
  split at h
  · next hr =>
    cases h
    exact .inl ⟨hr, rfl⟩
  · obtain ⟨hs, hc⟩ := ite_none_right_eq_some.1 h
    cases hc
    exact .inr ⟨hs.1, hs.2, rfl⟩

theorem reconcileExpiredSending_cases (h : c.reconcileExpiredSending now = some c') :
    (c.state = .queued ∨ c.state = .unknown) ∧ c.attemptIs .sending = true ∧
      c.published = false ∧ c.lockedUntil ≠ none ∧
      ((c.mode ≠ .reconcileOnly ∧ (c.state = .queued ∨ c.attempts < maxSendingAttempts) ∧
          c' = ((c.lost now).prepareRecovery .reconcileOnly now).schedule now) ∨
        (c.mode = .reconcileOnly ∧ (c.state = .queued ∨ c.attempts < maxSendingAttempts) ∧
          c' = (c.lost now).schedule now) ∨
        c' = (c.lost now).publish) := by
  obtain ⟨⟨-, ha, hs, -, hp, hl⟩, hc⟩ := ite_none_right_eq_some.1 h
  refine ⟨hs, ha, hp, hl, ?_⟩
  split at hc
  · next hn =>
    split at hc
    · next hm =>
      cases hc
      exact .inl ⟨hm, hn, rfl⟩
    next hm =>
    split at hc
    · cases hc
      exact .inr (.inl ⟨not_not.1 hm, hn, rfl⟩)
    · cases hc
      exact .inr (.inr rfl)
  · cases hc
    exact .inr (.inr rfl)

theorem reconcileMissingResult_cases (h : c.reconcileMissingResult now = some c') :
    c.state.awaiting = true ∧ c.published = true ∧ c.lockedUntil = none ∧ c.lease = none ∧
      ((c.attempts < reconciliationAttemptLimit ∧
          c' = ({ c with state := .unknown }.prepareRecovery .reconcileOnly now).schedule now) ∨
        c' = { c with state := .unknown }) := by
  obtain ⟨⟨hs, -, hp, hl, -, hn⟩, hc⟩ := ite_none_right_eq_some.1 h
  refine ⟨hs, hp, hl, hn, ?_⟩
  split at hc
  · next ha =>
    cases hc
    exact .inl ⟨ha, rfl⟩
  · cases hc
    exact .inr rfl

theorem scheduleCommandRecovery_cases (h : c.scheduleCommandRecovery reason now = some c') :
    (c.recoveryMode reason now = some none ∧ c' = c) ∨
      ∃ mode, c.recoveryMode reason now = some (some mode) ∧
        c' = (c.prepareRecovery mode now).schedule now := by
  obtain ⟨mode, hm, rfl⟩ := map_eq_some_iff.1 h
  cases mode with
  | none => exact .inl ⟨hm, rfl⟩
  | some mode => exact .inr ⟨mode, hm, rfl⟩

/-- An ingestion only stores the result of a closed command; an open one, queued only with its
dispatch in flight, gets the effective state. -/
theorem ingest_cases (h : c.ingest r now = some c') :
    (c.state.mutable = false ∧ c.state.undelivered = false ∧ c' = c.storeResult r now) ∨
      (c.state.mutable = true ∧ (c.state = .queued → c.inFlight now = true) ∧
        ((r.effective c.isAgentUpgrade = .unknown ∧
            ((c.storeResult r now).settle .unknown now).scheduleCommandRecovery r.recoveryReason
              now = some c') ∨
          (r.effective c.isAgentUpgrade ≠ .unknown ∧
            c' = (c.storeResult r now).settle (r.effective c.isAgentUpgrade) now))) := by
  unfold ingest at h
  split at h
  · cases h
  next hq =>
  split at h
  · cases h
  · next hclosed =>
  split at h
  · cases h
  split at h
  · next hm =>
    cases h
    refine .inl ⟨hm, ?_, rfl⟩
    rw [not_or] at hclosed
    cases hs : c.state <;>
      simp_all [CommandStatus.mutable, CommandStatus.undelivered]
  next hm =>
  refine .inr ⟨by simpa using hm, fun hs => by simpa [hs] using hq, ?_⟩
  split at h
  · next he => exact .inl ⟨he, h⟩
  · next he =>
    cases h
    exact .inr ⟨he, rfl⟩

/-- Beside the state, an ingestion closes a dispatch in flight and publishes the row of a terminal
outcome. -/
theorem settle_eq (c : Command) (state : CommandStatus) (now : Time) : ∃ attempt lease,
    c.settle state now = { c with
      state
      attempt
      lease
      published := c.published || state.settled
      lockedUntil := if state.settled = true then none else c.lockedUntil } := by
  refine ⟨(c.settle state now).attempt, (c.settle state now).lease, ?_⟩
  unfold settle
  cases hs : state.settled <;> cases hf : c.inFlight now <;>
    simp [publish, closeDispatch, finishAttempt]

@[simp] theorem settle_state (state : CommandStatus) : (c.settle state now).state = state := by
  obtain ⟨_, _, h⟩ := c.settle_eq state now
  rw [h]

@[simp] theorem settle_payload (state : CommandStatus) :
    (c.settle state now).payload = c.payload := by
  obtain ⟨_, _, h⟩ := c.settle_eq state now
  rw [h]

/-- Recovery leaves the state to the result that asks for it. -/
theorem scheduleCommandRecovery_state (h : c.scheduleCommandRecovery reason now = some c') :
    c'.state = c.state := by
  rcases scheduleCommandRecovery_cases h with ⟨-, rfl⟩ | ⟨_, -, rfl⟩ <;> rfl

/-- **The outcome of a command is final**: no event changes a state that is not open. -/
theorem next_frozen (h : c.next now event = some c') (hm : c.state.mutable = false) :
    c'.state = c.state := by
  have hq : c.state ≠ .queued := fun hc => by simp [hc, CommandStatus.mutable] at hm
  have hu : c.state ≠ .unknown := fun hc => by simp [hc, CommandStatus.mutable] at hm
  have hqu : ¬ (c.state = .queued ∨ c.state = .unknown) := not_or.2 ⟨hq, hu⟩
  have hw : c.state.awaiting ≠ true := fun hc => by
    cases hs : c.state <;> simp [hs, CommandStatus.mutable, CommandStatus.awaiting] at hm hc
  cases event with
  | claim token leasedUntil => exact absurd (ite_none_right_eq_some.1 h).1.2.2.2.1 hqu
  | markSent token =>
    obtain ⟨-, -, ⟨-, rfl⟩ | ⟨-, hs, -⟩⟩ := markSent_cases h
    · split <;> rfl
    · exact absurd hs hqu
  | markFailed | deleteExpiredLease =>
    obtain ⟨-, hc⟩ := ite_none_right_eq_some.1 h
    cases hc
    rfl
  | expire | supersede => exact absurd (ite_none_right_eq_some.1 h).1.1 hq
  | reconcileExpiredSending => exact absurd (reconcileExpiredSending_cases h).1 hqu
  | reconcileExpiredApply => exact absurd (ite_none_right_eq_some.1 h).1.2.1 hw
  | reconcileMissingResult => exact absurd (reconcileMissingResult_cases h).1 hw
  | continueReconciliation => exact absurd (ite_none_right_eq_some.1 h).1.1 hu
  | reconnect => exact absurd (ite_none_right_eq_some.1 h).1.1 (not_or.2 ⟨hw, hu⟩)
  | upgradeTerminal decision =>
    exact absurd (ite_none_right_eq_some.1 h).1.2.1 (by simp [hm])
  | ingest report =>
    rcases ingest_cases h with ⟨-, -, rfl⟩ | ⟨hc, -⟩
    · rfl
    · simp [hm] at hc

/-- A background event leads to a state of a delivered command or drops an ended lease, unless it is
the deadline of an upgrade. -/
theorem next_background {event : CommandEvent} (hb : event.background = true)
    (hdeadline : event ≠ .upgradeTerminal .unknown) (hconf : event.Conforms c)
    (h : c.next now event = some c') :
    c'.state.undelivered = false ∨
      (c.attemptIs .sending = false ∧ c' = { c with lease := none }) := by
  cases event with
  | claim | markSent | markFailed | expire | supersede => cases hb
  | reconcileExpiredSending =>
    obtain ⟨-, -, -, -, ⟨-, -, rfl⟩ | ⟨-, -, rfl⟩ | rfl⟩ := reconcileExpiredSending_cases h <;>
      exact .inl rfl
  | reconcileMissingResult =>
    obtain ⟨-, -, -, -, ⟨-, rfl⟩ | rfl⟩ := reconcileMissingResult_cases h <;> exact .inl rfl
  | reconcileExpiredApply | reconnect =>
    obtain ⟨-, hc⟩ := ite_none_right_eq_some.1 h
    cases hc
    exact .inl rfl
  | continueReconciliation =>
    obtain ⟨⟨hs, -⟩, hc⟩ := ite_none_right_eq_some.1 h
    cases hc
    exact .inl (by rw [show (c.schedule now).state = c.state from rfl, hs]; rfl)
  | deleteExpiredLease =>
    obtain ⟨⟨-, ha⟩, hc⟩ := ite_none_right_eq_some.1 h
    cases hc
    exact .inr ⟨ha, rfl⟩
  | upgradeTerminal decision =>
    obtain ⟨⟨-, -, hs⟩, hc⟩ := ite_none_right_eq_some.1 h
    have hne : decision ≠ .unknown := fun he => hdeadline (by rw [he])
    have hsettled := hs.resolve_left hne
    cases hc
    left
    change (if decision = .unknown then _ else decision).undelivered = false
    rw [if_neg hne]
    cases decision <;> first | rfl | cases hsettled
  | ingest report =>
    have heffective := hconf.effective c.isAgentUpgrade
    have hdelivered : (report.effective c.isAgentUpgrade).undelivered = false := by
      rcases heffective with he | ⟨-, he⟩ | he
      iterate 2 rw [he]; rfl
      · cases hs : report.effective c.isAgentUpgrade <;>
          first | rfl | simp [hs, CommandStatus.settled] at he
    rcases ingest_cases h with ⟨-, hs, rfl⟩ | ⟨-, -, ⟨-, hr⟩ | ⟨-, rfl⟩⟩
    · exact .inl hs
    · exact .inl (by rw [scheduleCommandRecovery_state hr, settle_state]; rfl)
    · exact .inl (by rw [settle_state]; exact hdelivered)

/-- No event changes the payload. -/
theorem next_payload (h : c.next now event = some c') : c'.payload = c.payload := by
  cases event with
  | markSent token =>
    obtain ⟨-, -, ⟨-, rfl⟩ | ⟨-, -, rfl⟩⟩ := markSent_cases h
    · split <;> rfl
    · simp only [closeDispatch, finishAttempt, recordDispatched]
      split <;> rfl
  | reconcileExpiredSending =>
    obtain ⟨-, -, -, -, ⟨-, -, rfl⟩ | ⟨-, -, rfl⟩ | rfl⟩ := reconcileExpiredSending_cases h <;> rfl
  | reconcileMissingResult =>
    obtain ⟨-, -, -, -, ⟨-, rfl⟩ | rfl⟩ := reconcileMissingResult_cases h <;> rfl
  | ingest report =>
    rcases ingest_cases h with ⟨-, -, rfl⟩ | ⟨-, -, ⟨-, hr⟩ | ⟨-, rfl⟩⟩
    · rfl
    · rcases scheduleCommandRecovery_cases hr with ⟨-, rfl⟩ | ⟨_, -, rfl⟩ <;>
        exact settle_payload .unknown
    · exact settle_payload _
  | _ =>
    obtain ⟨-, hc⟩ := ite_none_right_eq_some.1 h
    cases hc
    rfl

end Command

end Ocservia
