import Ocservia.Lib.Trace
import Ocservia.Controller.Commands

/-!
# How often a command is recovered

The recovery dispatches that the Controller schedules for one command on its own: one is scheduled
when an expired sending lease, an expired apply, a missing result, a continued reconciliation or the
ingestion of a result that leaves the outcome unknown makes the outbox row wait for a dispatch.

The reaping functions compare the attempts with the limit of 64, the ingestion of a result does not
(`unverifiable_results_unbounded`). When it does (`IngestionLimited`), the limit holds
(`scheduled_le_limit`): each recovery follows a claim of its own, and the expiry of an apply, which
does not look at the attempts, finds the command dispatched for execution.
-/

namespace Ocservia

open Option CommandStatus CommandEvent Nat

/-! ## The system -/

/-- An event by which the Controller schedules recovery on its own. -/
def CommandEvent.recovers : CommandEvent → Bool
  | .reconcileExpiredSending | .reconcileExpiredApply | .reconcileMissingResult
  | .continueReconciliation | .ingest _ => true
  | .claim _ _ | .markSent _ | .markFailed _ | .expire | .supersede | .deleteExpiredLease
  | .reconnect | .upgradeTerminal _ => false

/-- The recoveries that an event schedules: one, if the outbox row begins to wait for one. -/
def CommandEvent.schedules (event : CommandEvent) (c c' : Command) : Nat :=
  if event.recovers = true ∧ c.pending = false ∧ c'.pending = true then 1 else 0

/-- A command, with the number of recovery dispatches scheduled for it. -/
structure RecoveryWorld where
  now : Time
  command : Command
  scheduled : Nat

/-- What happens to a command. -/
inductive RecoveryEvent where
  | tick (later : Time)
  | command (event : CommandEvent)

namespace RecoveryWorld

/-- A command that was just enqueued. -/
def start (payload : Payload) (legacy : Bool) (now expiresAt availableAt : Time) : RecoveryWorld :=
  ⟨now, Command.enqueued payload legacy expiresAt availableAt, 0⟩

/-- The world after an event, if the event can happen. -/
def next (w : RecoveryWorld) : RecoveryEvent → Option RecoveryWorld
  | .tick later => if w.now ≤ later then some { w with now := later } else none
  | .command event =>
    if event.Conforms w.command then
      (w.command.next w.now event).map fun c =>
        { w with command := c, scheduled := w.scheduled + event.schedules w.command c }
    else none

end RecoveryWorld

/-- The life of a command that was enqueued with the given values. -/
def recoverySystem (payload : Payload) (legacy : Bool) (now expiresAt availableAt : Time) :
    LTS RecoveryWorld RecoveryEvent :=
  .ofFun (.start payload legacy now expiresAt availableAt) RecoveryWorld.next

/-- An ingestion schedules recovery only below the attempt limit. -/
def IngestionLimited (w : RecoveryWorld) (event : RecoveryEvent) (_ : RecoveryWorld) : Prop :=
  match event with
  | .command (.ingest r) => w.command.state.mutable = true →
      r.effective w.command.isAgentUpgrade = .unknown →
      (w.command.recoveryMode r.recoveryReason w.now).any Option.isSome = true →
      w.command.attempts < reconciliationAttemptLimit
  | _ => True

instance (w : RecoveryWorld) (event : RecoveryEvent) (w' : RecoveryWorld) :
    Decidable (IngestionLimited w event w') := by
  unfold IngestionLimited
  split <;> infer_instance

theorem CommandStatus.mutable_of_awaiting {state : CommandStatus} (h : state.awaiting = true) :
    state.mutable = true := by
  cases state <;> first | rfl | cases h

theorem CommandStatus.closed_of_settled {state : CommandStatus} (h : state.settled = true) :
    state.mutable = false ∧ state.awaiting = false ∧ state ≠ .queued := by
  cases state <;> first | exact ⟨rfl, rfl, nofun⟩ | cases h

/-! ## The invariant -/

/-- The recoveries scheduled for an open command were all claimed, but for one that waits; the first
claim was the original. -/
def Command.Counted (c : Command) (scheduled : Nat) : Prop :=
  if c.pending = true then scheduled ≤ c.attempts else scheduled < c.attempts

/-- The invariant of a command with the number of its recovery dispatches. -/
structure RecoveryInv (c : Command) (scheduled : Nat) : Prop where
  /-- A queued command was never recovered. -/
  queued : c.state = .queued → scheduled = 0
  counted : c.state.mutable = true → c.Counted scheduled
  /-- The limit is reached only by an apply that expired, which then is only observed. -/
  limited : scheduled < reconciliationAttemptLimit ∨
    (scheduled = reconciliationAttemptLimit ∧ c.isConfigApply = true ∧ c.mode = .reconcileOnly ∧
      c.state.awaiting = false)

namespace RecoveryInv

variable {c c' : Command} {event : CommandEvent}

theorem counted_of_lt (h : scheduled < c.attempts) : c.Counted scheduled := by
  unfold Command.Counted
  split <;> omega

theorem counted_of_pending (hp : c.pending = true) (h : scheduled ≤ c.attempts) :
    c.Counted scheduled := by
  unfold Command.Counted
  rwa [if_pos hp]

theorem counted_congr (hp : c'.pending = c.pending) (ha : c'.attempts = c.attempts)
    (h : c.Counted scheduled) : c'.Counted scheduled := by
  unfold Command.Counted at h ⊢
  rwa [hp, ha]

theorem start (payload : Payload) (legacy : Bool) (expiresAt availableAt : Time) :
    RecoveryInv (Command.enqueued payload legacy expiresAt availableAt) 0 where
  queued _ := rfl
  counted _ := le_refl 0
  limited := .inl (by decide)

theorem le_limit (hI : RecoveryInv c scheduled) : scheduled ≤ reconciliationAttemptLimit := by
  rcases hI.limited with h | ⟨h, -⟩
  · exact le_of_lt h
  · exact le_of_eq h

theorem isConfigApply_eq (h : c'.payload = c.payload) : c'.isConfigApply = c.isConfigApply := by
  unfold Command.isConfigApply
  rw [h]

/-- An event that schedules nothing and leads to no dispatched state of an apply. -/
theorem keep (hI : RecoveryInv c scheduled) (hpayload : c'.payload = c.payload)
    (hqueued : c'.state = .queued → c.state = .queued)
    (hcounted : c'.state.mutable = true → c'.Counted scheduled)
    (hlimited : c.isConfigApply = true → c.mode = .reconcileOnly → c.state ≠ .queued →
      c.state.awaiting = false → c'.mode = .reconcileOnly ∧ c'.state.awaiting = false) :
    RecoveryInv c' scheduled := by
  refine ⟨fun hq => hI.queued (hqueued hq), hcounted, ?_⟩
  rcases hI.limited with h | ⟨h, ha, hm, hs⟩
  · exact .inl h
  have hne : c.state ≠ .queued := by
    intro hq
    rw [hI.queued hq] at h
    cases h
  obtain ⟨hm', hs'⟩ := hlimited ha hm hne hs
  exact .inr ⟨h, isConfigApply_eq hpayload ▸ ha, hm', hs'⟩

/-- What one more recovery dispatch adds up to: it follows a claim of its own. -/
theorem schedules_le (hI : RecoveryInv c scheduled) (hopen : c.state.mutable = true) :
    scheduled + event.schedules c c' ≤ c.attempts := by
  have hcounted := hI.counted hopen
  unfold Command.Counted at hcounted
  unfold schedules
  cases hp : c.pending with
  | true =>
    rw [if_pos hp] at hcounted
    simpa using hcounted
  | false =>
    rw [if_neg (by simp [hp])] at hcounted
    split <;> omega

/-- An event that schedules recovery below a bound on the attempts. -/
theorem scheduled_below (hI : RecoveryInv c scheduled) (hopen : c.state.mutable = true)
    (hstate : c'.state ≠ .queued) (hpending : c'.pending = true)
    (hattempts : c'.attempts = c.attempts)
    (hlt : scheduled + event.schedules c c' < reconciliationAttemptLimit) :
    RecoveryInv c' (scheduled + event.schedules c c') := by
  refine ⟨fun hq => absurd hq hstate, fun _ => counted_of_pending hpending ?_, .inl hlt⟩
  rw [hattempts]
  exact hI.schedules_le hopen

/-- An event that schedules nothing. -/
theorem unscheduled (h : event.recovers = false ∨ c.pending = true ∨ c'.pending = false)
    (hI : RecoveryInv c' scheduled) : RecoveryInv c' (scheduled + event.schedules c c') := by
  have hzero : event.schedules c c' = 0 := by
    unfold schedules
    rcases h with h | h | h <;> simp [h]
  rwa [hzero, add_zero]

theorem unscheduled_of_pending_eq (hp : c'.pending = c.pending)
    (hI : RecoveryInv c' scheduled) : RecoveryInv c' (scheduled + event.schedules c c') := by
  cases hc : c.pending with
  | true => exact unscheduled (.inr (.inl hc)) hI
  | false => exact unscheduled (.inr (.inr (hp.trans hc))) hI

theorem schedules_le_one : event.schedules c c' ≤ 1 := by
  unfold schedules
  split <;> omega

/-! ### Dispatch -/

theorem pending_of_locked (h : c.locked now = true) : c.pending = false := by
  unfold Command.locked at h
  unfold Command.pending
  cases hl : c.lockedUntil with
  | none => simp [hl] at h
  | some until_ => simp

section
variable (hI : RecoveryInv c scheduled)
include hI

/-- A command that does not wait has a claim that no recovery dispatch accounts for. -/
theorem lt_attempts (hopen : c.state.mutable = true)
    (hp : c.pending = false) : scheduled < c.attempts := by
  have h := hI.counted hopen
  unfold Command.Counted at h
  rwa [if_neg (by simp [hp])] at h

theorem claim (h : c.claim token leasedUntil now = some c') : RecoveryInv c' scheduled := by
  obtain ⟨⟨-, -, -, hs, -, -⟩, hc⟩ := ite_none_right_eq_some.1 h
  cases hc
  have hopen : c.state.mutable = true := by rcases hs with hs | hs <;> rw [hs] <;> rfl
  refine hI.keep rfl id (fun _ => counted_of_lt ?_) fun _ hm _ ha => ⟨hm, ha⟩
  have hle : scheduled ≤ c.attempts := by
    have h := hI.counted hopen
    unfold Command.Counted at h
    split at h <;> omega
  exact lt_succ_of_le hle

theorem markSent (h : c.markSent token now = some c') : RecoveryInv c' scheduled := by
  obtain ⟨-, -, ⟨-, rfl⟩ | ⟨hl, hs, rfl⟩⟩ := Command.markSent_cases h
  · by_cases hl : c.locked now = true
    · rw [if_pos hl]
      refine hI.keep rfl id (fun hopen => counted_of_lt ?_) fun _ hm _ ha => ⟨hm, ha⟩
      exact hI.lt_attempts hopen (pending_of_locked hl)
    · rw [if_neg hl]
      exact hI.keep rfl id (fun hopen => counted_congr rfl rfl (hI.counted hopen))
        fun _ hm _ ha => ⟨hm, ha⟩
  have hopen : c.state.mutable = true := by rcases hs with hs | hs <;> rw [hs] <;> rfl
  have hlt := hI.lt_attempts hopen (pending_of_locked hl)
  -- A reconcile-only delivery of an unknown command leaves it unknown.
  have hrecord : c.publish.recordDispatched =
      if c.state = .unknown ∧ c.mode = .reconcileOnly then c.publish
      else { c.publish with state := .dispatched } := rfl
  rw [hrecord]
  split
  · next hu =>
    exact hI.keep rfl id (fun _ => counted_of_lt hlt) fun _ hm _ ha => ⟨hm, ha⟩
  · next hu =>
    refine hI.keep rfl nofun (fun _ => counted_of_lt hlt) fun _ hm hq _ => ?_
    exact absurd ⟨hs.resolve_left hq, hm⟩ hu

theorem markFailed (h : c.markFailed token now = some c') : RecoveryInv c' scheduled := by
  obtain ⟨⟨-, -, hl, -⟩, hc⟩ := ite_none_right_eq_some.1 h
  cases hc
  refine hI.keep rfl id (fun hopen => counted_of_lt ?_) fun _ hm _ ha => ⟨hm, ha⟩
  exact hI.lt_attempts hopen (pending_of_locked hl)

/-! ### Recovery -/

theorem reconcileExpiredSending (h : c.reconcileExpiredSending now = some c') :
    RecoveryInv c' (scheduled + CommandEvent.reconcileExpiredSending.schedules c c') := by
  obtain ⟨hs, -, -, hl, hcases⟩ := Command.reconcileExpiredSending_cases h
  have hopen : c.state.mutable = true := by rcases hs with hs | hs <;> rw [hs] <;> rfl
  have hlt : c.state = .queued ∨ c.attempts < maxSendingAttempts →
      scheduled + CommandEvent.reconcileExpiredSending.schedules c c' <
        reconciliationAttemptLimit := by
    unfold reconciliationAttemptLimit maxSendingAttempts
    rintro (hq | ha)
    · have hone : CommandEvent.reconcileExpiredSending.schedules c c' ≤ 1 := schedules_le_one
      rw [hI.queued hq]
      omega
    · have hle : scheduled + CommandEvent.reconcileExpiredSending.schedules c c' ≤ c.attempts :=
        hI.schedules_le hopen
      omega
  rcases hcases with ⟨-, ha, rfl⟩ | ⟨-, ha, rfl⟩ | rfl
  iterate 2 exact hI.scheduled_below hopen nofun rfl rfl (hlt ha)
  · have hpending : c.pending = false := by
      simp [Command.pending, isNone_eq_false_iff, isSome_iff_ne_none.2 hl]
    exact unscheduled (.inr (.inr rfl)) (hI.keep rfl nofun
      (fun _ => counted_of_lt (hI.lt_attempts hopen hpending)) fun _ hm _ _ => ⟨hm, rfl⟩)

theorem reconcileExpiredApply (h : c.reconcileExpiredApply now = some c') :
    RecoveryInv c' (scheduled + CommandEvent.reconcileExpiredApply.schedules c c') := by
  obtain ⟨⟨happly, hs, -⟩, hc⟩ := ite_none_right_eq_some.1 h
  cases hc
  have hopen := mutable_of_awaiting hs
  -- The command is dispatched, so the limit is not reached.
  have hlt : scheduled < reconciliationAttemptLimit := by
    rcases hI.limited with h | ⟨-, -, -, ha⟩
    · exact h
    · simp [hs] at ha
  refine ⟨nofun, fun _ => counted_of_pending rfl (hI.schedules_le hopen), ?_⟩
  rcases Nat.lt_or_eq_of_le (Nat.le_trans (Nat.add_le_add_left schedules_le_one scheduled) hlt)
    with hb | hb
  · exact .inl hb
  · exact .inr ⟨hb, happly, rfl, rfl⟩

theorem reconcileMissingResult (h : c.reconcileMissingResult now = some c') :
    RecoveryInv c' (scheduled + CommandEvent.reconcileMissingResult.schedules c c') := by
  obtain ⟨hs, hp, hl, -, hcases⟩ := Command.reconcileMissingResult_cases h
  have hopen := mutable_of_awaiting hs
  rcases hcases with ⟨ha, rfl⟩ | rfl
  · exact hI.scheduled_below hopen nofun rfl rfl (lt_of_le_of_lt (hI.schedules_le hopen) ha)
  · have hpending : c.pending = false := by simp [Command.pending, hp]
    exact unscheduled (.inr (.inr hpending)) (hI.keep rfl nofun
      (fun _ => counted_of_lt (hI.lt_attempts hopen hpending)) fun _ hm _ _ => ⟨hm, rfl⟩)

theorem continueReconciliation (h : c.continueReconciliation now = some c') :
    RecoveryInv c' (scheduled + CommandEvent.continueReconciliation.schedules c c') := by
  obtain ⟨⟨hs, -, -, ha, -⟩, hc⟩ := ite_none_right_eq_some.1 h
  cases hc
  have hopen : c.state.mutable = true := by rw [hs]; rfl
  have hne : (c.schedule now).state ≠ .queued := by
    change c.state ≠ .queued
    rw [hs]
    nofun
  exact hI.scheduled_below hopen hne rfl rfl (lt_of_le_of_lt (hI.schedules_le hopen) ha)

theorem reconnect (h : c.reconnect now = some c') : RecoveryInv c' scheduled := by
  obtain ⟨⟨hs, -, hp, -, -⟩, hc⟩ := ite_none_right_eq_some.1 h
  cases hc
  have hopen : c.state.mutable = true := by
    rcases hs with hs | hs
    · exact mutable_of_awaiting hs
    · rw [hs]
      rfl
  have hpending : c.pending = false := by simp [Command.pending, hp]
  exact hI.keep rfl nofun (fun _ => counted_of_lt (hI.lt_attempts hopen hpending))
    fun _ _ _ _ => ⟨rfl, rfl⟩

/-! ### Results -/

theorem ingest {r : ResultReport} (hconf : r.Conforms external) (h : c.ingest r now = some c')
    (hC : IngestionLimited ⟨now, c, scheduled⟩ (.command (.ingest r)) w') :
    RecoveryInv c' (scheduled + (CommandEvent.ingest r).schedules c c') := by
  rcases Command.ingest_cases h with ⟨-, -, rfl⟩ | ⟨hopen, -, ⟨he, hr⟩ | ⟨hne, rfl⟩⟩
  · -- The command is closed: only the result is stored.
    exact unscheduled_of_pending_eq rfl (hI.keep rfl id
      (fun hopen => counted_congr rfl rfl (hI.counted hopen)) fun _ hm _ ha => ⟨hm, ha⟩)
  · obtain ⟨attempt, lease, hsettle⟩ := (c.storeResult r now).settle_eq .unknown now
    rw [hsettle] at hr
    rcases Command.scheduleCommandRecovery_cases hr with ⟨-, rfl⟩ | ⟨mode, hmode, rfl⟩
    · have hp : ({ c.storeResult r now with
          state := .unknown
          attempt
          lease
          published := c.published || settled .unknown
          lockedUntil := c.lockedUntil } : Command).pending = c.pending := by
        simp [Command.pending, settled]
      exact unscheduled_of_pending_eq hp (hI.keep rfl (fun hq => by cases hq)
        (fun _ => counted_congr hp rfl (hI.counted hopen)) fun _ hm _ _ => ⟨hm, rfl⟩)
    · have hlt : c.attempts < reconciliationAttemptLimit := by
        refine hC hopen he ?_
        have hmode' : c.recoveryMode r.recoveryReason now = some (some mode) := hmode
        rw [hmode']
        rfl
      exact hI.scheduled_below hopen (fun hq => by cases hq) rfl rfl
        (lt_of_le_of_lt (hI.schedules_le hopen) hlt)
  obtain ⟨attempt, lease, hsettle⟩ :=
    (c.storeResult r now).settle_eq (r.effective c.isAgentUpgrade) now
  rw [hsettle]
  rcases hconf.effective c.isAgentUpgrade with he | ⟨hup, he⟩ | he
  · exact absurd he hne
  · -- An acknowledged upgrade is no apply, and its outbox row stays as it is.
    rw [he]
    have hp : ({ c.storeResult r now with
        state := .accepted
        attempt
        lease
        published := c.published || settled .accepted
        lockedUntil := c.lockedUntil } : Command).pending = c.pending := by
      simp [Command.pending, settled]
    refine unscheduled_of_pending_eq hp (hI.keep rfl (fun hq => by cases hq)
      (fun _ => counted_congr hp rfl (hI.counted hopen)) fun ha => ?_)
    cases hpl : c.payload <;> simp [Command.isConfigApply, Command.isAgentUpgrade, hpl] at ha hup
  · have hclosed := closed_of_settled he
    refine unscheduled (.inr (.inr (by simp [Command.pending, he]))) (hI.keep rfl
      (fun hq => absurd hq hclosed.2.2) (fun hm => ?_) fun _ hm _ _ => ⟨hm, hclosed.2.1⟩)
    simp [hclosed.1] at hm

/-! ### Every event -/

/-- Every event keeps the invariant, if the ingestion keeps to the limit. -/
theorem next (hconf : event.Conforms c) (h : c.next now event = some c')
    (hC : IngestionLimited ⟨now, c, scheduled⟩ (.command event) w') :
    RecoveryInv c' (scheduled + event.schedules c c') := by
  cases event with
  | claim token leasedUntil => exact unscheduled (.inl rfl) (hI.claim h)
  | markSent token => exact unscheduled (.inl rfl) (hI.markSent h)
  | markFailed token => exact unscheduled (.inl rfl) (hI.markFailed h)
  | expire | supersede =>
    obtain ⟨-, hc⟩ := ite_none_right_eq_some.1 h
    cases hc
    exact unscheduled (.inl rfl) (hI.keep rfl nofun nofun fun _ hm _ _ => ⟨hm, rfl⟩)
  | reconcileExpiredSending => exact hI.reconcileExpiredSending h
  | reconcileExpiredApply => exact hI.reconcileExpiredApply h
  | reconcileMissingResult => exact hI.reconcileMissingResult h
  | continueReconciliation => exact hI.continueReconciliation h
  | deleteExpiredLease =>
    obtain ⟨-, hc⟩ := ite_none_right_eq_some.1 h
    cases hc
    exact unscheduled (.inl rfl) (hI.keep rfl id
      (fun hopen => counted_congr rfl rfl (hI.counted hopen)) fun _ hm _ ha => ⟨hm, ha⟩)
  | reconnect => exact unscheduled (.inl rfl) (hI.reconnect h)
  | upgradeTerminal decision =>
    obtain ⟨⟨-, -, hs⟩, hc⟩ := ite_none_right_eq_some.1 h
    cases hc
    rcases hs with rfl | hs
    · exact unscheduled (.inl rfl) (hI.keep rfl nofun nofun fun _ hm _ _ => ⟨hm, rfl⟩)
    have hclosed := closed_of_settled hs
    have hne : decision ≠ .unknown := by
      rintro rfl
      cases hs
    rw [if_neg hne]
    refine unscheduled (.inl rfl) (hI.keep rfl (fun hq => absurd hq hclosed.2.2) (fun hm => ?_)
      fun _ hm _ _ => ⟨hm, hclosed.2.1⟩)
    change decision.mutable = true at hm
    simp [hclosed.1] at hm
  | ingest r => exact hI.ingest hconf h hC

end

end RecoveryInv

/-! ## Results -/

/-- **Automatic recovery is bounded** by the attempt limit, in every run in which the ingestion of
results keeps to it. -/
theorem scheduled_le_limit {payload : Payload} {legacy : Bool} {now expiresAt availableAt : Time}
    {w : RecoveryWorld}
    (h : ((recoverySystem payload legacy now expiresAt availableAt).restrict
      IngestionLimited).Reachable w) : w.scheduled ≤ reconciliationAttemptLimit := by
  have hI : RecoveryInv w.command w.scheduled := by
    refine h.invariant (fun w => RecoveryInv w.command w.scheduled) ?_ ?_
    · rintro w rfl
      exact .start payload legacy expiresAt availableAt
    · rintro w event w' - hI ⟨hs, hC⟩
      change w.next event = some w' at hs
      cases event with
      | tick later =>
        obtain ⟨-, ht⟩ := ite_none_right_eq_some.1 hs
        cases ht
        exact hI
      | command event =>
        obtain ⟨hconf, hn⟩ := ite_none_right_eq_some.1 hs
        obtain ⟨c, hc, rfl⟩ := map_eq_some_iff.1 hn
        exact hI.next hconf hc hC
  exact hI.le_limit

/-- A result whose receipt is refused. -/
def unverifiableResult : ResultReport := ⟨.succeeded, "", .refused, none⟩

/-- A delivery that is answered by a result that cannot be verified. -/
def answeredDelivery : List RecoveryEvent :=
  [.command (.claim 1 (30 * oneSecond)), .command (.markSent 1),
    .command (.ingest unverifiableResult)]

/-- One recovery dispatch below the limit. -/
theorem scheduled_le_limit_once :
    ∃ w : RecoveryWorld, ((recoverySystem .serviceReload false 0 (60 * oneSecond) 0).restrict
      IngestionLimited).Reachable w ∧ w.scheduled = 1 ∧
      w.scheduled ≤ reconciliationAttemptLimit := by
  have h : (answeredDelivery.foldlM (LTS.guarded RecoveryWorld.next IngestionLimited)
      (.start .serviceReload false 0 (60 * oneSecond) 0)).any
        (fun w => w.scheduled = 1) = true := by
    decide +kernel
  obtain ⟨w, hw, hone⟩ := any_eq_true .. |>.1 h
  have hreach : ((recoverySystem .serviceReload false 0 (60 * oneSecond) 0).restrict
      IngestionLimited).Reachable w := ⟨_, LTS.ofFun_restrict_run hw⟩
  exact ⟨w, hreach, of_decide_eq_true hone, scheduled_le_limit hreach⟩

/-! ## A node whose results cannot be verified -/

/-- The command after `n` answered deliveries at time `0`: it waits for its first delivery or a
reconciliation. -/
def RecoveryWorld.waiting (payload : Payload) (legacy : Bool) (expiresAt : Time) :
    Nat → RecoveryWorld
  | 0 => .start payload legacy 0 expiresAt 0
  | n + 1 =>
    ⟨0, { Command.enqueued payload false expiresAt 0 with
      mode := .reconcileOnly
      state := .unknown
      expiresAt := max expiresAt recoveryCommandTTL
      attempts := n + 1
      attempt := some ⟨.sent, 0, 0⟩
      resultAt := some 0 }, n + 1⟩

/-- **A delivery that is answered by a result that cannot be verified is followed by another.** -/
theorem RecoveryWorld.waiting_again (hpos : 0 < expiresAt) (n : Nat) :
    answeredDelivery.foldlM RecoveryWorld.next (waiting payload legacy expiresAt n) =
      some (waiting payload legacy expiresAt (n + 1)) := by
  have hconf : ∀ external, unverifiableResult.Conforms external := by
    rintro (_ | _) <;> decide
  have heffective : ∀ upgrade, unverifiableResult.effective upgrade = .unknown := fun _ => rfl
  have hreason : unverifiableResult.recoveryReason = "outcome_requires_reconciliation" := rfl
  have hreceipt : unverifiableResult.receipt = .refused := rfl
  have hlease : 0 < 30 * oneSecond := by decide
  -- The first delivery finds the command queued, a later one finds it unknown.
  cases n <;>
    simp [answeredDelivery, waiting, RecoveryWorld.next, start, hpos, hconf, Command.next,
      Command.enqueued, CommandEvent.Conforms, schedules, recovers,
      Command.pending, Command.claim, Command.locked, Command.markSent, Command.leaseValid, hlease,
      Command.attemptIs, Command.resultAfterAttempt, Command.publish, Command.recordDispatched,
      Command.closeDispatch, Command.finishAttempt, Command.ingest, Command.inFlight, heffective,
      settled, mutable, Command.settle, Command.storeResult, hreceipt,
      Command.scheduleCommandRecovery, Command.recoveryMode, hreason, Command.prepareRecovery,
      Command.schedule]

/-- The deliveries of a command whose results cannot be verified. -/
def unverifiableRun (n : Nat) : List RecoveryEvent :=
  match n with
  | 0 => []
  | n + 1 => unverifiableRun n ++ answeredDelivery

/-- Every delivery of the run schedules a recovery dispatch. -/
theorem unverifiableRun_scheduled (payload : Payload) (legacy : Bool) (expiresAt : Time)
    (hpos : 0 < expiresAt) (n : Nat) :
    (recoverySystem payload legacy 0 expiresAt 0).Run (unverifiableRun n)
      (.waiting payload legacy expiresAt n) := by
  induction n with
  | zero => exact .start rfl
  | succ n ih =>
    exact ih.steps (LTS.Steps.of_foldlM (fun _ _ _ hs => hs) (RecoveryWorld.waiting_again hpos n))

/-- **Results that cannot be verified are recovered without bound.** After the first delivery and 64
reconciliations with such a result, 65 recoveries are scheduled, and one more with every further
answer. -/
theorem unverifiable_results_unbounded :
    ∃ w : RecoveryWorld, (recoverySystem .serviceReload false 0 (60 * oneSecond) 0).Run
      (unverifiableRun 65) w ∧ w.scheduled = 65 ∧ reconciliationAttemptLimit < w.scheduled := by
  exact ⟨_, unverifiableRun_scheduled .serviceReload false _ (by simp [oneSecond]) 65, rfl,
    by decide⟩

end Ocservia
