import Mathlib.Logic.Function.Basic
import Ocservia.Lib.Trace
import Ocservia.Controller.Commands

/-!
# Dispatch attempts of a command

`internal/operations/worker.go` on one command, with the SendCommand call of each attempt: the
worker claims the command, transportd may write the frame to the Agent stream, and the call replies
to the worker, which records the attempt as sent or as failed. A call replies that the frame was
accepted only after transportd wrote it, but it may report an error before or after the write. A
worker may stop at any point.

A failed attempt releases the lease and leaves a queued command queued, where expiry and
supersession look at the lease only, so a command whose frame was written may be closed as
undelivered (`failed_send_closes_written`), unless no error and no deadline hides a write
(`DeliveryKnown`, `written_not_undelivered`).
-/

namespace Ocservia

open Option Command

/-! ## The system -/

/-- How far the SendCommand call of an attempt has come. -/
inductive SendPhase where
  | sending | accepted | failed
deriving DecidableEq

/-- The SendCommand call of an attempt. -/
structure SendJob where
  /-- transportd wrote the frame to the Agent stream. -/
  wrote : Bool
  phase : SendPhase
deriving DecidableEq

/-- A command with its attempts, by their lease tokens. -/
structure DispatchWorld where
  now : Time
  command : Command
  jobs : Nat → Option SendJob

/-- What happens to a command and its attempts. -/
inductive DispatchEvent where
  | tick (later : Time)
  | claim (token : Nat) (leasedUntil : Time)
  | write (token : Nat)
  | reply (token : Nat) (accepted : Bool)
  | markSent (token : Nat)
  | markFailed (token : Nat)
  | expire
  | supersede
  | background (event : CommandEvent)

namespace DispatchWorld

/-- A command that was just enqueued. -/
def start (payload : Payload) (legacy : Bool) (now expiresAt availableAt : Time) : DispatchWorld :=
  ⟨now, Command.enqueued payload legacy expiresAt availableAt, fun _ => none⟩

section
variable (w : DispatchWorld)

/-- The attempt of `token` changes to `job`. -/
def setJob (token : Nat) (job : SendJob) : DispatchWorld :=
  { w with jobs := Function.update w.jobs token (some job) }

/-- The command changes as the event says, if it can happen. -/
def onCommand (event : CommandEvent) : Option DispatchWorld :=
  (w.command.next w.now event).map fun command => { w with command }

/-- The world after an event, if the event can happen. -/
def next : DispatchEvent → Option DispatchWorld
  | .tick later => if w.now ≤ later then some { w with now := later } else none
  | .claim token leasedUntil =>
    -- Lease tokens are fresh.
    if w.jobs token = none then
      (w.onCommand (.claim token leasedUntil)).map (·.setJob token ⟨false, .sending⟩)
    else none
  | .write token =>
    match w.jobs token with
    | some job => if job.phase ≠ .accepted then some (w.setJob token ⟨true, job.phase⟩) else none
    | none => none
  | .reply token accepted =>
    match w.jobs token with
    | some job =>
      if job.phase = .sending ∧ (accepted = true → job.wrote = true) then
        some (w.setJob token ⟨job.wrote, if accepted then .accepted else .failed⟩)
      else none
    | none => none
  | .markSent token =>
    if (w.jobs token).any (·.phase = .accepted) then w.onCommand (.markSent token) else none
  | .markFailed token =>
    if (w.jobs token).any (·.phase = .failed) then w.onCommand (.markFailed token) else none
  | .expire => w.onCommand .expire
  | .supersede => w.onCommand .supersede
  | .background event =>
    if event.background = true ∧ event.Conforms w.command then w.onCommand event else none

/-- In some attempt the frame was written to the Agent stream. -/
def Written : Prop := ∃ token, ∃ job ∈ w.jobs token, job.wrote = true

end

end DispatchWorld

/-- The dispatch of a command that was enqueued with the given values. -/
def dispatchSystem (payload : Payload) (legacy : Bool) (now expiresAt availableAt : Time) :
    LTS DispatchWorld DispatchEvent :=
  .ofFun (.start payload legacy now expiresAt availableAt) DispatchWorld.next

/-- A step reports no error on a written frame of a queued command, writes no frame of an
undelivered command after an error, and closes no upgrade by a deadline. -/
def DeliveryKnown (w : DispatchWorld) (event : DispatchEvent) (_ : DispatchWorld) : Prop :=
  match event with
  | .reply token false => w.command.state = .queued → ∀ job ∈ w.jobs token, job.wrote = false
  | .write token => w.command.state.undelivered = true → ∀ job ∈ w.jobs token, job.phase ≠ .failed
  | .background (.upgradeTerminal .unknown) => False
  | _ => True

instance (w : DispatchWorld) (event : DispatchEvent) (w' : DispatchWorld) :
    Decidable (DeliveryKnown w event w') := by
  unfold DeliveryKnown
  split <;> infer_instance

/-! ## The invariant -/

/-- The call has failed without writing the frame. -/
def SendJob.Unsent (job : SendJob) : Prop := job.phase = .failed ∧ job.wrote = false

/-- The attempt of `token` holds the lease of the command and its call has not failed. -/
def Command.HeldBy (c : Command) (token : Nat) (job : SendJob) : Prop :=
  job.phase ≠ .failed ∧ ∃ lease, c.lease = some lease ∧ lease.token = token

/-- The invariant of the attempts. -/
structure DeliveryInv (w : DispatchWorld) : Prop where
  /-- A queued command has no result. -/
  noResult : w.command.state = .queued → w.command.resultAt = none
  /-- The lease of a queued command is that of an attempt that is sending. -/
  leased : w.command.state = .queued → w.command.lease ≠ none →
    w.command.attemptIs .sending = true
  /-- The attempts of a queued command failed unwritten, but for the one that holds the lease. -/
  queued : w.command.state = .queued → ∀ token, ∀ job ∈ w.jobs token,
    job.Unsent ∨ w.command.HeldBy token job
  /-- All attempts of a command that was closed as undelivered failed without a write. -/
  closed : w.command.state = .expired ∨ w.command.state = .superseded →
    ∀ token, ∀ job ∈ w.jobs token, job.Unsent

/-- The states of a command that was not delivered. -/
theorem CommandStatus.undelivered_iff {state : CommandStatus} :
    state.undelivered = true ↔ state = .queued ∨ state = .expired ∨ state = .superseded := by
  cases state <;> simp [undelivered]

namespace DeliveryInv

/-- A command that was just enqueued has no attempts. -/
theorem start (payload : Payload) (legacy : Bool) (now expiresAt availableAt : Time) :
    DeliveryInv (.start payload legacy now expiresAt availableAt) where
  noResult _ := rfl
  leased _ h := absurd rfl h
  queued _ token job h := by simp [DispatchWorld.start] at h
  closed h := by rcases h with h | h <;> cases h

/-- Once the command counts as delivered nothing is left to show. -/
theorem of_delivered (h : w.command.state.undelivered = false) : DeliveryInv w := by
  have hn : ¬ (w.command.state = .queued ∨ w.command.state = .expired ∨
      w.command.state = .superseded) := by
    rw [← CommandStatus.undelivered_iff, h]
    exact Bool.false_ne_true
  rw [not_or] at hn
  exact ⟨fun hq => absurd hq hn.1, fun hq => absurd hq hn.1, fun hq => absurd hq hn.1,
    fun hc => absurd hc hn.2⟩

section
variable (hI : DeliveryInv w)
include hI

/-- The step of one SendCommand call, to a job that the invariant allows. -/
theorem setJob (hqueued : w.command.state = .queued → job.Unsent ∨ w.command.HeldBy token job)
    (hclosed : w.command.state = .expired ∨ w.command.state = .superseded → job.Unsent) :
    DeliveryInv (w.setJob token job) := by
  have hjobs : ∀ token' job', job' ∈ (w.setJob token job).jobs token' →
      (token' = token ∧ job' = job) ∨ job' ∈ w.jobs token' := by
    intro token' job' h
    by_cases ht : token' = token
    · subst ht
      left
      simpa [DispatchWorld.setJob, eq_comm] using h
    · right
      simpa [DispatchWorld.setJob, ht] using h
  refine ⟨hI.noResult, hI.leased, fun hq token' job' h => ?_, fun hc token' job' h => ?_⟩
  · rcases hjobs token' job' h with ⟨rfl, rfl⟩ | h
    · exact hqueued hq
    · exact hI.queued hq token' job' h
  · rcases hjobs token' job' h with ⟨rfl, rfl⟩ | h
    · exact hclosed hc
    · exact hI.closed hc token' job' h

/-- While no attempt holds the lease, every attempt of a queued command failed unsent. -/
theorem unsent (hq : w.command.state = .queued)
    (hlease : w.command.lease = none) (token : Nat) (job : SendJob) (h : job ∈ w.jobs token) :
    job.Unsent := by
  rcases hI.queued hq token job h with h | ⟨-, lease, hl, -⟩
  · exact h
  · simp [hlease] at hl

/-- A claim takes a lease that nobody holds. -/
theorem claim (h : w.command.next w.now (.claim token leasedUntil) = some c) :
    DeliveryInv ({ w with command := c }.setJob token ⟨false, .sending⟩) := by
  obtain ⟨⟨-, -, -, hs, -, hlease⟩, hc⟩ := ite_none_right_eq_some.1 h
  cases hc
  have hopen : ¬ (w.command.state = .expired ∨ w.command.state = .superseded) := by
    rcases hs with hs | hs <;> simp [hs]
  have hI' : DeliveryInv { w with
      command := { w.command with
        lease := some ⟨token, leasedUntil⟩
        lockedUntil := some leasedUntil
        attempts := w.command.attempts + 1
        attempt := some ⟨.sending, w.now, w.now⟩ } } :=
    ⟨hI.noResult, fun _ _ => rfl, fun hq t j hj => .inl (hI.unsent hq hlease t j hj),
      fun hcl => absurd hcl hopen⟩
  exact hI'.setJob (fun _ => .inr ⟨by simp, _, rfl, rfl⟩) fun hcl => absurd hcl hopen

/-- An attempt recorded as sent leaves the command delivered: a queued one has no result yet. -/
theorem markSent (h : w.command.next w.now (.markSent token) = some c) :
    DeliveryInv { w with command := c } := by
  obtain ⟨-, -, ⟨hr, rfl⟩ | ⟨-, -, rfl⟩⟩ := markSent_cases h
  · have hq : w.command.state ≠ .queued := by
      intro hq
      simp [resultAfterAttempt, hI.noResult hq] at hr
    have hstate : ((if w.command.locked w.now then w.command.publish else w.command).closeDispatch
        w.now).state = w.command.state := by
      split <;> rfl
    refine ⟨fun hc => absurd (hstate ▸ hc) hq, fun hc => absurd (hstate ▸ hc) hq,
      fun hc => absurd (hstate ▸ hc) hq, fun hc => hI.closed ?_⟩
    rwa [hstate] at hc
  · refine of_delivered ?_
    change (recordDispatched w.command.publish).state.undelivered = false
    unfold recordDispatched
    split
    · next hu => rw [hu.1]; rfl
    · rfl

/-- A failed attempt gives up the lease that it holds. -/
theorem markFailed (hjob : job ∈ w.jobs token) (hf : job.phase = .failed)
    (h : w.command.next w.now (.markFailed token) = some c) :
    DeliveryInv { w with command := c } := by
  obtain ⟨⟨hvalid, -⟩, hc⟩ := ite_none_right_eq_some.1 h
  cases hc
  obtain ⟨lease, hlease, hv⟩ := any_eq_true .. |>.1 hvalid
  have htoken : lease.token = token := (of_decide_eq_true hv).1
  refine ⟨hI.noResult, fun _ hl => absurd rfl hl, fun hq token' job' hj => ?_, hI.closed⟩
  rcases hI.queued hq token' job' hj with hu | ⟨hne, lease', hlease', htoken'⟩
  · exact .inl hu
  -- The attempt that holds the lease is the one that failed.
  cases hlease'.symm.trans hlease
  obtain rfl : token' = token := htoken'.symm.trans htoken
  cases hj.symm.trans hjob
  exact absurd hf hne

/-- Expiry and supersession close a queued command without a lease. -/
theorem close (hq : w.command.state = .queued)
    (hlease : w.command.lease = none) (hs : c.state = .expired ∨ c.state = .superseded) :
    DeliveryInv { w with command := c } := by
  have hne : c.state ≠ .queued := by
    intro hc
    rcases hs with hs | hs <;> simp [hc] at hs
  exact ⟨fun h => absurd h hne, fun h => absurd h hne, fun h => absurd h hne,
    fun _ => hI.unsent hq hlease⟩

/-- A background event keeps the lease of an attempt that is sending. -/
theorem background (hb : event.background = true) (hdeadline : event ≠ .upgradeTerminal .unknown)
    (hconf : event.Conforms w.command) (h : w.command.next w.now event = some c) :
    DeliveryInv { w with command := c } := by
  rcases next_background hb hdeadline hconf h with hs | ⟨ha, rfl⟩
  · exact of_delivered hs
  refine ⟨hI.noResult, fun _ hl => absurd rfl hl, fun hq token' job' hj => .inl ?_, hI.closed⟩
  have hlease : w.command.lease = none := by
    by_contra hl
    simp [hI.leased hq hl] at ha
  exact hI.unsent hq hlease token' job' hj

/-- Every step that hides no write keeps the invariant. -/
theorem step (hs : w.next event = some w')
    (hC : DeliveryKnown w event w') : DeliveryInv w' := by
  cases event with
  | tick later =>
    obtain ⟨-, h⟩ := ite_none_right_eq_some.1 hs
    cases h
    exact ⟨hI.noResult, hI.leased, hI.queued, hI.closed⟩
  | claim token leasedUntil =>
    obtain ⟨-, h⟩ := ite_none_right_eq_some.1 hs
    obtain ⟨w₁, h₁, rfl⟩ := map_eq_some_iff.1 h
    obtain ⟨c, hc, rfl⟩ := map_eq_some_iff.1 h₁
    exact hI.claim hc
  | write token =>
    simp only [DispatchWorld.next] at hs
    split at hs
    · next job hjob =>
      obtain ⟨-, h⟩ := ite_none_right_eq_some.1 hs
      cases h
      have hphase : w.command.state.undelivered = true → job.phase ≠ .failed :=
        fun hu => hC hu job hjob
      refine hI.setJob (fun hq => ?_) fun hcl => ?_
      · rcases hI.queued hq token job hjob with hun | ⟨hne, hl⟩
        · exact absurd hun.1 (hphase (by rw [hq]; rfl))
        · exact .inr ⟨hne, hl⟩
      · have hu : w.command.state.undelivered = true :=
          CommandStatus.undelivered_iff.2 (.inr hcl)
        exact absurd (hI.closed hcl token job hjob).1 (hphase hu)
    · cases hs
  | reply token accepted =>
    simp only [DispatchWorld.next] at hs
    split at hs
    · next job hjob =>
      obtain ⟨⟨hsending, -⟩, h⟩ := ite_none_right_eq_some.1 hs
      cases h
      have hne : ¬ job.Unsent := fun hun => by simp [hun.1] at hsending
      refine hI.setJob (fun hq => ?_) fun hcl => absurd (hI.closed hcl token job hjob) hne
      rcases hI.queued hq token job hjob with hun | ⟨-, hl⟩
      · exact absurd hun hne
      · cases accepted with
        | true => exact .inr ⟨by simp, hl⟩
        | false => exact .inl ⟨rfl, hC hq job hjob⟩
    · cases hs
  | markSent token =>
    obtain ⟨-, h⟩ := ite_none_right_eq_some.1 hs
    obtain ⟨c, hc, rfl⟩ := map_eq_some_iff.1 h
    exact hI.markSent hc
  | markFailed token =>
    obtain ⟨hjob, h⟩ := ite_none_right_eq_some.1 hs
    obtain ⟨job, hjob, hf⟩ := any_eq_true .. |>.1 hjob
    obtain ⟨c, hc, rfl⟩ := map_eq_some_iff.1 h
    exact hI.markFailed hjob (of_decide_eq_true hf) hc
  | expire | supersede =>
    obtain ⟨c, hc, rfl⟩ := map_eq_some_iff.1 hs
    obtain ⟨⟨hq, -, hl⟩, hc⟩ := ite_none_right_eq_some.1 hc
    cases hc
    exact hI.close hq hl (by simp)
  | background event =>
    obtain ⟨⟨hb, hconf⟩, h⟩ := ite_none_right_eq_some.1 hs
    obtain ⟨c, hc, rfl⟩ := map_eq_some_iff.1 h
    refine hI.background hb ?_ hconf hc
    rintro rfl
    exact hC

end

end DeliveryInv

/-! ## Results -/

/-- **A command whose frame was written is never closed as undelivered**, in every run in which no
error or deadline hides a write. -/
theorem written_not_undelivered {payload : Payload} {legacy : Bool}
    {now expiresAt availableAt : Time} {w : DispatchWorld}
    (h : ((dispatchSystem payload legacy now expiresAt availableAt).restrict
      DeliveryKnown).Reachable w) (hw : w.Written) :
    w.command.state ≠ .expired ∧ w.command.state ≠ .superseded := by
  have hI : DeliveryInv w := by
    refine h.invariant DeliveryInv ?_ ?_
    · rintro w rfl
      exact .start payload legacy now expiresAt availableAt
    · intro w event w' _ hI hs
      exact hI.step hs.1 hs.2
  obtain ⟨token, job, hjob, hwrote⟩ := hw
  have hopen : ¬ (w.command.state = .expired ∨ w.command.state = .superseded) := by
    intro hcl
    have hun := (hI.closed hcl token job hjob).2
    simp [hwrote] at hun
  exact not_or.1 hopen

/-- The command of the sample runs, an apply of a group without members. -/
def groupPayload : Payload := .groupApply ⟨"staff", [], 1⟩

/-- A dispatch that is recorded as sent. -/
def sentDispatch : List DispatchEvent :=
  [.claim 1 (30 * oneSecond), .write 1, .reply 1 true, .markSent 1]

/-- A command whose dispatch was recorded is not closed as undelivered. -/
theorem written_not_undelivered_sent :
    ∃ w : DispatchWorld, ((dispatchSystem groupPayload false 0 (60 * oneSecond) 0).restrict
      DeliveryKnown).Reachable w ∧ w.Written ∧
      w.command.state ≠ .expired ∧ w.command.state ≠ .superseded := by
  have h : (sentDispatch.foldlM (LTS.guarded DispatchWorld.next DeliveryKnown)
      (.start groupPayload false 0 (60 * oneSecond) 0)).any
        (fun w => w.jobs 1 = some ⟨true, .accepted⟩) = true := by
    decide +kernel
  obtain ⟨w, hw, hjob⟩ := any_eq_true .. |>.1 h
  have hreach : ((dispatchSystem groupPayload false 0 (60 * oneSecond) 0).restrict
      DeliveryKnown).Reachable w := ⟨_, LTS.ofFun_restrict_run hw⟩
  have hwritten : w.Written := ⟨1, _, of_decide_eq_true hjob, rfl⟩
  exact ⟨w, hreach, hwritten, written_not_undelivered hreach hwritten⟩

/-- A dispatch whose frame is written and whose call then reports an error. -/
def failedSend : List DispatchEvent :=
  [.claim 1 (30 * oneSecond), .write 1, .reply 1 false, .markFailed 1]

/-- **A failed call closes a written command**: queued without a lease, it expires or is superseded,
although the Agent has it. -/
theorem failed_send_closes_written :
    (∃ w : DispatchWorld, (dispatchSystem groupPayload false 0 (60 * oneSecond) 0).Run
      (failedSend ++ [.tick (60 * oneSecond), .expire]) w ∧ w.Written ∧
        w.command.state = .expired) ∧
    ∃ w : DispatchWorld, (dispatchSystem groupPayload false 0 (60 * oneSecond) 0).Run
      (failedSend ++ [.supersede]) w ∧ w.Written ∧ w.command.state = .superseded := by
  have h : ∀ (t : List DispatchEvent) (state : CommandStatus),
      (t.foldlM DispatchWorld.next (.start groupPayload false 0 (60 * oneSecond) 0)).any
        (fun w => w.jobs 1 = some ⟨true, .failed⟩ ∧ w.command.state = state) = true →
      ∃ w : DispatchWorld, (dispatchSystem groupPayload false 0 (60 * oneSecond) 0).Run t w ∧
        w.Written ∧ w.command.state = state := by
    intro t state h
    obtain ⟨w, hw, hp⟩ := any_eq_true .. |>.1 h
    obtain ⟨hjob, hstate⟩ := of_decide_eq_true hp
    exact ⟨w, LTS.ofFun_run hw, ⟨1, _, hjob, rfl⟩, hstate⟩
  exact ⟨h _ _ (by decide +kernel), h _ _ (by decide +kernel)⟩

end Ocservia
