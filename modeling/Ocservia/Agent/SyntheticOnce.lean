import Ocservia.Agent.Invariant

/-!
# Synthetic commands execute exactly once

The effect of a synthetic command is a row of the journal itself, so that "executed" can be counted:
`execute_and_complete_synthetic` inserts the row, raises the counter and completes the record in one
transaction. `executeInjected` is `execute` with the crash point that its caller may select; a call
may also be cut between any two transactions (`Durable.Exec`).

`SyntheticInv` links the three tables. Every transaction of the synthetic operations keeps it
(`KeepsLink`), so it holds of every journal that any sequence of calls leaves:
`synthetic_exactly_once`.
-/

namespace Ocservia

open Durable Journal Agent Spec KeyedTable

/-! ## Injected crashes -/

inductive CrashPoint where
  | afterAccepted | beforeSideEffect | afterSideEffect | afterResult
deriving DecidableEq

/-- The errors of `execute`, with the variant `InjectedCrash` that only it returns. -/
inductive ExecuteError where
  | command (e : CommandError)
  | injectedCrash (point : CrashPoint)
deriving DecidableEq

namespace Agent

def inject (selected : Option CrashPoint) (point : CrashPoint) :
    Durable Journal ExecuteError Unit :=
  if selected = some point then throw (.injectedCrash point) else pure ()

section
variable (P : Platform)

/-- `execute`, with the crash point that the caller selects. -/
def executeInjected (envelope : CommandEnvelope) (context : CommandContext)
    (crash : Option CrashPoint) : Durable Journal ExecuteError CommandOutcome := do
  let v ← (check (validateCommand P envelope context)).mapErr .command
  match ← (accept v context.nowUnixSeconds).mapErr .command with
  | .payloadConflict _ => throw (.command .payloadConflict)
  | .identityConflict _ => throw (.command .identityConflict)
  | .replay record => (reconcileReplay record v context.nowUnixSeconds false).mapErr .command
  | .accepted _ =>
    inject crash .afterAccepted
    let _ ← (transition v.key [.accepted] .running none none context.nowUnixSeconds).mapErr .command
    inject crash .beforeSideEffect
    let record ← (completeSynthetic v context.nowUnixSeconds).mapErr .command
    inject crash .afterSideEffect
    inject crash .afterResult
    return ⟨record, false⟩

/-- Without a crash point it is the `execute` that `deliver` calls. -/
theorem executeInjected_none (envelope : CommandEnvelope) (context : CommandContext) :
    executeInjected P envelope context none = (execute P envelope context).mapErr .command := by
  unfold executeInjected execute
  rw [mapErr_bind]
  congr 1
  funext v
  rw [mapErr_bind]
  congr 1
  funext o
  cases o with
  | accepted r =>
    simp only [mapErr_bind]
    rfl
  | _ => rfl

end

end Agent

/-! ## The link between the tables -/

/-- A record has succeeded exactly when its key has an effect row, and with its result. -/
def CommandRecord.Agrees (r : CommandRecord) : Option SyntheticEffect → Prop
  | none => r.state ≠ .succeeded
  | some e => r.state = .succeeded ∧ r.result = some e.result

/-- The counter, the effect rows and the records belong together. -/
structure SyntheticInv (j : Journal) : Prop where
  counter : j.executions = j.syntheticEffects.rows.length
  owned : ∀ k e, j.syntheticEffect k = some e → ∃ r, j.command k = some r
  agrees : ∀ k r, j.command k = some r → r.Agrees (j.syntheticEffect k)

/-- The transaction keeps the link. -/
def KeepsLink (j j' : Journal) : Prop := SyntheticInv j → SyntheticInv j'

theorem syntheticInv_fresh : SyntheticInv Journal.fresh :=
  ⟨rfl, by simp [Journal.syntheticEffect, Journal.fresh], by simp [Journal.command, Journal.fresh]⟩

variable {r : CommandRecord}

section
variable (hI : SyntheticInv j)
include hI

/-- An open record has no effect row. -/
theorem SyntheticInv.absent (hr : j.command k = some r)
    (hs : r.state ≠ .succeeded) : j.syntheticEffect k = none := by
  have h := hI.agrees k r hr
  cases he : j.syntheticEffect k with
  | none => rfl
  | some e =>
    rw [he] at h
    exact absurd h.1 hs

/-- Rewriting a record keeps the link when the new one agrees with its row. -/
theorem SyntheticInv.setCommand (hold : j.command k = some old)
    (hs : SameIdentity old new) (h : new.Agrees (j.syntheticEffect k)) :
    SyntheticInv (j.setCommand new) := by
  have hget := (rewrites_setCommand hold hs).command
  rw [command_key hold] at hget
  refine ⟨hI.counter, fun k' e he => ?_, fun k' r hr => ?_⟩
  · obtain ⟨r, hr⟩ := hI.owned k' e he
    by_cases hk : k' = k
    · exact ⟨new, by rw [hget, if_pos hk]⟩
    · exact ⟨r, by rw [hget, if_neg hk, hr]⟩
  · rw [hget] at hr
    split at hr
    · rename_i hk
      cases hr
      exact hk ▸ h
    · exact hI.agrees k' r hr

/-- A command that is accepted has no effect row, since its key has no record. -/
theorem SyntheticInv.insert (hk : j.command r.idempotencyKey = none)
    (hs : r.state = .accepted) : SyntheticInv { j with commands := j.commands.insert r hk } := by
  have hget : ∀ k, ({ j with commands := j.commands.insert r hk } : Journal).command k =
      if k = r.idempotencyKey then some r else j.command k :=
    get?_insert j.commands r hk
  have hnone : j.syntheticEffect r.idempotencyKey = none := by
    cases he : j.syntheticEffect r.idempotencyKey with
    | none => rfl
    | some e =>
      obtain ⟨r', hr'⟩ := hI.owned _ e he
      cases hk.symm.trans hr'
  refine ⟨hI.counter, fun k e he => ?_, fun k x hx => ?_⟩
  · obtain ⟨r', hr'⟩ := hI.owned k e he
    by_cases hkr : k = r.idempotencyKey
    · exact ⟨r, by rw [hget, if_pos hkr]⟩
    · exact ⟨r', by rw [hget, if_neg hkr, hr']⟩
  · rw [hget] at hx
    split at hx
    · rename_i hkr
      cases hx
      have hagrees : r.Agrees none := by simp [CommandRecord.Agrees, hs]
      exact hkr ▸ hnone ▸ hagrees
    · exact hI.agrees k x hx

/-- The effect row is inserted and counted as its record is completed. -/
theorem SyntheticInv.execute (hold : j.command k = some old)
    (hs : SameIdentity old new) (hkey : effect.idempotencyKey = k)
    (hnone : j.syntheticEffects.get? effect.idempotencyKey = none) (hst : new.state = .succeeded)
    (hres : new.result = some effect.result) :
    SyntheticInv (Journal.setCommand { j with
      syntheticEffects := j.syntheticEffects.insert effect hnone
      executions := j.executions + 1 } new) := by
  have hget : ∀ k', (Journal.setCommand { j with
      syntheticEffects := j.syntheticEffects.insert effect hnone
      executions := j.executions + 1 } new).command k' =
        if k' = k then some new else j.command k' := by
    intro k'
    have h := (rewrites_setCommand hold hs).command k'
    rw [command_key hold] at h
    exact h
  have heff : ∀ k', (Journal.setCommand { j with
      syntheticEffects := j.syntheticEffects.insert effect hnone
      executions := j.executions + 1 } new).syntheticEffect k' =
        if k' = k then some effect else j.syntheticEffect k' := by
    intro k'
    have h := get?_insert j.syntheticEffects effect hnone k'
    rw [hkey] at h
    exact h
  refine ⟨?_, fun k' e he => ?_, fun k' r hr => ?_⟩
  · have hlen : (j.syntheticEffects.insert effect hnone).rows.length =
        j.syntheticEffects.rows.length + 1 := by simp [KeyedTable.insert]
    show j.executions + 1 = _
    rw [hI.counter]
    exact hlen.symm
  · rw [heff] at he
    by_cases hk : k' = k
    · exact ⟨new, by rw [hget, if_pos hk]⟩
    · rw [if_neg hk] at he
      obtain ⟨r, hr⟩ := hI.owned k' e he
      exact ⟨r, by rw [hget, if_neg hk, hr]⟩
  · rw [hget] at hr
    rw [heff]
    by_cases hk : k' = k
    · rw [if_pos hk] at hr ⊢
      cases hr
      exact ⟨hst, hres⟩
    · rw [if_neg hk] at hr ⊢
      exact hI.agrees k' r hr

end

/-! ## The transactions -/

/-- `execute_and_complete_synthetic` keeps the link. -/
theorem executeAndCompleteSynthetic_keeps {key id : Uuid} {hash : FixedBytes 32}
    {result : Bytes} {now : Int64} {j' : Journal}
    (h : j.executeAndCompleteSynthetic key id hash result now = .ok (r, j')) : KeepsLink j j' := by
  intro hI
  unfold executeAndCompleteSynthetic at h
  split at h
  · cases h
  split at h
  · cases h
  rename_i old hold
  split at h
  · cases h
  rename_i hm
  simp only [not_or, not_not] at hm
  have hs : SameIdentity old
      { old with
        state := .succeeded, result := some result, errorCode := none, updatedAt := now } :=
    ⟨rfl, rfl, rfl, rfl, rfl⟩
  have hnone : j.syntheticEffects.get? key = none :=
    hI.absent hold (by rw [hm.2.2]; decide)
  -- by the link the row cannot be there while the record is running
  simp only [hnone, dif_pos] at h
  cases h
  exact hI.execute hold hs rfl hnone rfl rfl

namespace Agent

theorem accept_keeps (v : ValidatedCommand) (now : Int64) :
    Spec Pre (accept v now) KeepsLink (fun _ _ => True) := by
  refine mapErr (transact fun j o j' hj h => ⟨?_, trivial⟩)
  rcases acceptCommand_cases h with ⟨hk, -, -, rfl⟩ | ⟨rfl, -⟩ | ⟨rfl, -⟩
  · exact fun hI => hI.insert (r := recordOf v now) hk rfl
  · exact id
  · exact id

/-- A transition between open states keeps the link. -/
theorem transition_keeps (hfrom : CommandState.succeeded ∉ fromStates) (hto : toState ≠ .succeeded)
    :
    Spec Pre (transition key fromStates toState none errorCode now) KeepsLink
      (fun _ _ => True) := by
  refine mapErr (transact fun j r j' hj h => ⟨fun hI => ?_, trivial⟩)
  obtain ⟨old, hold, hm, rfl, rfl⟩ := transitionCommand_ok h
  have hopen : old.state ≠ .succeeded := fun hs => hfrom (hs ▸ hm)
  refine hI.setCommand hold ⟨rfl, rfl, rfl, rfl, rfl⟩ ?_
  rw [hI.absent hold hopen]
  exact hto

theorem completeSynthetic_keeps (v : ValidatedCommand) (now : Int64) :
    Spec Pre (completeSynthetic v now) KeepsLink (fun _ _ => True) :=
  mapErr (transact fun _ _ _ _ h => ⟨executeAndCompleteSynthetic_keeps h, trivial⟩)

theorem check_keeps : Spec Pre (check x) KeepsLink (fun _ _ => True) :=
  read fun _ _ _ _ => trivial

/-! ## The entry points -/

theorem reconcileReplay_keeps (record : CommandRecord) (v : ValidatedCommand) (now : Int64)
    (explicit : Bool) :
    Spec Pre (reconcileReplay record v now explicit) KeepsLink (fun _ _ => True) := by
  unfold reconcileReplay
  split
  · exact pure fun _ _ => trivial
  refine bind (Q := fun found j => j.syntheticEffect v.key = found)
    (read fun j found _ h => Except.ok.inj h) fun found => ?_
  cases found with
  | some effect =>
    dsimp only
    split
    · exact throw _
    · refine bind (mapErr (transact fun j r j' hj h => ⟨fun hI => ?_, trivial⟩))
        fun _ => pure fun _ _ => trivial
      obtain ⟨old, hold, -, rfl, rfl⟩ := transitionCommand_ok h
      refine hI.setCommand hold ⟨rfl, rfl, rfl, rfl, rfl⟩ ?_
      rw [hj]
      exact ⟨rfl, rfl⟩
  | none =>
    dsimp only
    generalize (if explicit = true then _ else _ : String) = errorCode
    split
    · exact pure fun _ _ => trivial
    · exact bind (transition_keeps (by decide) (by decide)) fun _ =>
        pure fun _ _ => trivial

theorem reconcile_keeps : Spec Pre (reconcile P envelope context) KeepsLink (fun _ _ => True) :=
  bind check_keeps fun v => bind (Q := fun _ _ => True) (read fun _ _ _ _ => trivial)
    fun _ => bind check_keeps fun record => reconcileReplay_keeps record v _ true

theorem retryUnknown_keeps :
    Spec Pre (retryUnknown P envelope context) KeepsLink (fun _ _ => True) := by
  unfold retryUnknown
  split
  · exact reconcile_keeps
  refine bind check_keeps fun v => bind (Q := fun _ _ => True)
    (read fun _ _ _ _ => trivial) fun _ => ?_
  refine bind check_keeps fun record => bind check_keeps fun _ => ?_
  refine bind check_keeps fun _ => bind (Q := fun _ _ => True)
    (read fun _ _ _ _ => trivial) fun found => ?_
  cases found with
  | some effect => exact reconcileReplay_keeps record v _ false
  | none =>
    exact bind (transition_keeps (by decide) (by decide)) fun _ =>
      bind (completeSynthetic_keeps v _) fun _ => pure fun _ _ => trivial

theorem inject_keeps : Spec Pre (inject selected point) KeepsLink (fun _ _ => True) := by
  unfold inject
  split
  · exact throw _
  · exact pure fun _ _ => trivial

theorem executeInjected_keeps :
    Spec Pre (executeInjected P envelope context crash) KeepsLink (fun _ _ => True) := by
  refine bind check_keeps.mapErr fun v => bind (accept_keeps v _).mapErr fun o => ?_
  cases o with
  | payloadConflict | identityConflict => exact throw _
  | replay r => exact (reconcileReplay_keeps r v _ false).mapErr
  | accepted r =>
    refine bind inject_keeps fun _ => ?_
    refine bind (transition_keeps (by decide) (by decide)).mapErr fun _ => ?_
    refine bind inject_keeps fun _ => ?_
    refine bind (completeSynthetic_keeps v _).mapErr fun record => ?_
    refine bind inject_keeps fun _ => ?_
    exact bind inject_keeps fun _ => pure fun _ _ => trivial

theorem execute_keeps : Spec Pre (execute P envelope context) KeepsLink (fun _ _ => True) where
  guar j hj := by
    have h : Guar KeepsLink j ((executeInjected P envelope context none).writes j) :=
      executeInjected_keeps.guar j hj
    rw [executeInjected_none] at h
    exact h
  post _ _ _ _ := trivial

theorem deliver_keeps : Spec Pre (deliver P envelope context) KeepsLink (fun _ _ => True) := by
  unfold deliver
  split
  · exact execute_keeps
  · exact reconcile_keeps
  · exact retryUnknown_keeps
  · exact throw _

end Agent

/-! ## Sequences of calls -/

/-- The entry points for synthetic commands. -/
inductive SyntheticCall where
  | execute (crash : Option CrashPoint)
  | deliver
  | reconcile
  | retryUnknown

/-- One call: its entry point, the command and the session in which it arrives. -/
structure SyntheticDelivery where
  call : SyntheticCall
  envelope : CommandEnvelope
  context : CommandContext

def SyntheticDelivery.program (P : Platform) (d : SyntheticDelivery) :
    Durable Journal ExecuteError CommandOutcome :=
  match d.call with
  | .execute crash => Agent.executeInjected P d.envelope d.context crash
  | .deliver => (Agent.deliver P d.envelope d.context).mapErr .command
  | .reconcile => (Agent.reconcile P d.envelope d.context).mapErr .command
  | .retryUnknown => (Agent.retryUnknown P d.envelope d.context).mapErr .command

/-- The journal under any calls, each possibly cut by a crash. -/
def syntheticSystem (P : Platform) : LTS Journal SyntheticDelivery where
  init j := j = Journal.fresh
  step j d j' := ∃ o, (d.program P).Exec j o ∧ o.after j = j'

theorem SyntheticDelivery.program_keeps (P : Platform) (d : SyntheticDelivery) :
    Spec (fun _ => True) (d.program P) KeepsLink (fun _ _ => True) := by
  unfold program
  split
  · exact executeInjected_keeps
  · exact deliver_keeps.mapErr
  · exact reconcile_keeps.mapErr
  · exact retryUnknown_keeps.mapErr

/-- A call leaves a journal that it made durable, or the one it started from. -/
theorem syntheticInv_step (hI : SyntheticInv j) (h : (syntheticSystem P).step j d j') :
    SyntheticInv j' := by
  obtain ⟨o, ho, rfl⟩ := h
  have hguar := (d.program_keeps P).exec trivial ho
  have hall := hguar.invariant SyntheticInv (fun _ _ hk => hk) hI
  exact hall _ List.getLastD_mem_cons

theorem syntheticInv_of_run (h : (syntheticSystem P).Run t j) : SyntheticInv j := by
  refine h.state_invariant SyntheticInv ?_ fun _ _ _ _ hI hs => syntheticInv_step hI hs
  rintro _ rfl
  exact syntheticInv_fresh

/-- **Synthetic commands execute exactly once.** After any calls with crashes anywhere, the counter
is the number of effect rows, a key has at most one row, and a record has succeeded exactly when its
key has a row, with the row's result. -/
theorem synthetic_exactly_once {P : Platform} {t : List SyntheticDelivery} {j : Journal}
    (h : (syntheticSystem P).Run t j) :
    j.executions = j.syntheticEffects.rows.length ∧
    (∀ e ∈ j.syntheticEffects, ∀ e' ∈ j.syntheticEffects,
      e.idempotencyKey = e'.idempotencyKey → e = e') ∧
    (∀ e ∈ j.syntheticEffects, ∃ r ∈ j.commands, r.idempotencyKey = e.idempotencyKey) ∧
    ∀ r ∈ j.commands,
      (r.state = .succeeded ↔ ∃ e ∈ j.syntheticEffects, e.idempotencyKey = r.idempotencyKey) ∧
      ∀ e ∈ j.syntheticEffects, e.idempotencyKey = r.idempotencyKey →
        r.result = some e.result := by
  have hI := syntheticInv_of_run h
  have hrow : ∀ e ∈ j.syntheticEffects, j.syntheticEffect e.idempotencyKey = some e :=
    fun e he => get?_of_mem he
  refine ⟨hI.counter, fun e he e' he' hk => eq_of_key he he' hk, fun e he => ?_,
    fun r hr => ⟨⟨fun hs => ?_, ?_⟩, fun e he hk => ?_⟩⟩
  · obtain ⟨r, hr⟩ := hI.owned _ e (hrow e he)
    exact ⟨r, mem_of_get? hr, command_key hr⟩
  · have hagrees := hI.agrees _ r (get?_of_mem hr)
    cases he : j.syntheticEffect r.idempotencyKey with
    | none =>
      rw [he] at hagrees
      exact absurd hs hagrees
    | some e => exact ⟨e, mem_of_get? he, key_of_get? he⟩
  · rintro ⟨e, he, hk⟩
    have hagrees := hI.agrees _ r (get?_of_mem hr)
    rw [← hk, hrow e he] at hagrees
    exact hagrees.1
  · have hagrees := hI.agrees _ r (get?_of_mem hr)
    rw [← hk, hrow e he] at hagrees
    exact hagrees.2

theorem syntheticSystem_completed (P : Platform) (d : SyntheticDelivery) (j : Journal) :
    (syntheticSystem P).step j d ((d.program P).final j) :=
  ⟨_, .complete, rfl⟩

/-- The call that crashes after its effect. -/
def crashedNoop : SyntheticDelivery :=
  ⟨.execute (some .afterSideEffect), hashedNoop, sampleContext 300⟩

/-- The command was executed, its caller crashed, and it was delivered again. -/
def redeliveredJournal : Journal :=
  ((⟨.deliver, hashedNoop, sampleContext 400⟩ : SyntheticDelivery).program summingPlatform).final
    ((crashedNoop.program summingPlatform).final Journal.fresh)

theorem redeliveredJournal_run : (syntheticSystem summingPlatform).Run
    [crashedNoop, ⟨.deliver, hashedNoop, sampleContext 400⟩] redeliveredJournal := by
  have h0 : (syntheticSystem summingPlatform).init Journal.fresh := rfl
  have h1 := (LTS.Run.start h0).snoc (syntheticSystem_completed summingPlatform crashedNoop _)
  exact h1.snoc (syntheticSystem_completed summingPlatform _ _)

/-- The first call reports the crash, and its effect stands once. -/
theorem redelivered_exactly_once :
    (crashedNoop.program summingPlatform).result Journal.fresh =
      .error (.injectedCrash .afterSideEffect) ∧
    redeliveredJournal.executions = 1 ∧
    ∀ r ∈ redeliveredJournal.commands, r.state = .succeeded ↔
      ∃ e ∈ redeliveredJournal.syntheticEffects, e.idempotencyKey = r.idempotencyKey :=
  ⟨by decide +kernel, by decide +kernel,
    fun r hr => ((synthetic_exactly_once redeliveredJournal_run).2.2.2 r hr).1⟩

end Ocservia
