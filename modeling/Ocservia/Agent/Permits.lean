import Ocservia.Lib.Trace
import Ocservia.Agent.External

/-!
# Execution permits are single-use

One journal and any sequence of calls of the external operations, with any arguments, each of which
may be cut by a crash between two durable writes (`externalSystem`). A permit to call privd is an
`Execute` from `prepare_external` or an `ExternalCommand` from `retry_external`
(`ExternalStep.permits`).

The evidence that `retry_external` needs, a record in state `Unknown` with the code `effect_absent`,
is a single-use token in the sense of `LTS.Token`: only `reconcile_external` stores it, handing out
a permit consumes it, and the first permit of a key is free (`effectAbsent_token`).
-/

namespace Ocservia

open Durable Journal JournalWrite

/-- The codes that `execute_external_command` passes to `mark_external_unknown`. -/
inductive UnknownCode where
  | privdReceiptMissingOrMalformed | privdOutcomeUnknown | privdTransportUnknown

def UnknownCode.text : UnknownCode → String
  | .privdReceiptMissingOrMalformed => "privd_receipt_missing_or_malformed"
  | .privdOutcomeUnknown => "privd_outcome_unknown"
  | .privdTransportUnknown => "privd_transport_unknown"

/-- One call of an external operation. -/
inductive ExternalCall where
  | prepareExternal (envelope : CommandEnvelope) (context : CommandContext)
  | beginAttestedRecovery (envelope : CommandEnvelope) (context : CommandContext)
  | completeExternalAttested (permit : ExternalCommand) (result : Except String Bytes)
      (proof : Bytes) (now : Int64)
  | completeExternalAppliedAttested (permit : ExternalCommand)
      (resource : AppliedResourceRevision) (result proof : Bytes) (now : Int64)
  | markExternalUnknown (permit : ExternalCommand) (code : UnknownCode) (now : Int64)
  | reconcileExternal (envelope : CommandEnvelope) (context : CommandContext)
      (observation : ExternalEffectObservation)
  | retryExternal (envelope : CommandEnvelope) (context : CommandContext)

inductive Reply where
  | prepared (preparation : ExternalPreparation)
  | command (permit : ExternalCommand)
  | outcome (outcome : CommandOutcome)

def ExternalCall.run (P : Platform) : ExternalCall → Agent Reply
  | .prepareExternal e c => do return .prepared (← Agent.prepareExternal P e c)
  | .beginAttestedRecovery e c => do return .command (← Agent.beginAttestedRecovery P e c)
  | .completeExternalAttested permit result proof now => do
    return .outcome (← Agent.completeExternalAttested permit result proof now)
  | .completeExternalAppliedAttested permit resource result proof now => do
    return .outcome (← Agent.completeExternalAppliedAttested permit resource result proof now)
  | .markExternalUnknown permit code now => do
    return .outcome (← Agent.markExternalUnknown permit code.text now)
  | .reconcileExternal e c observation => do
    return .outcome (← Agent.reconcileExternal P e c observation)
  | .retryExternal e c => do return .command (← Agent.retryExternal P e c)

/-- A step: a call and what was observed of it. -/
structure ExternalStep where
  call : ExternalCall
  observed : Observation Journal CommandError Reply

/-- One journal under any external calls, each possibly cut by a crash. -/
def externalSystem (P : Platform) : LTS Journal ExternalStep where
  init j := j = Journal.fresh
  step j ℓ j' := (ℓ.call.run P).Exec j ℓ.observed ∧ j' = ℓ.observed.after j

/-- The step handed out an execution permit for `key`. -/
def ExternalStep.permits (key : Uuid) (ℓ : ExternalStep) : Prop :=
  match ℓ.call, ℓ.observed.reply with
  | .prepareExternal _ _, some (.ok (.prepared (.execute permit))) => permit.key = key
  | .retryExternal _ _, some (.ok (.command permit)) => permit.key = key
  | _, _ => False

instance (key : Uuid) : DecidablePred (ExternalStep.permits key) := fun ℓ => by
  unfold ExternalStep.permits
  split <;> infer_instance

/-- The record of `key` is `Unknown` with the code `effect_absent`. -/
def Journal.effectAbsent (key : Uuid) (j : Journal) : Prop :=
  ∃ r ∈ j.command key, r.state = .unknown ∧ r.errorCode = some "effect_absent"

instance (key : Uuid) : DecidablePred (Journal.effectAbsent key) := fun j => by
  unfold Journal.effectAbsent; infer_instance

/-- A `reconcile_external` call on `key` that stored `effect_absent`, cut afterwards or not. -/
def ExternalStep.storesAbsent (key : Uuid) (ℓ : ExternalStep) : Prop :=
  match ℓ.call with
  | .reconcileExternal envelope _ _ =>
    envelope.idempotencyKey = key.1 ∧ ∃ j ∈ ℓ.observed.trail, j.effectAbsent key
  | _ => False

instance (key : Uuid) : DecidablePred (ExternalStep.storesAbsent key) := fun ℓ => by
  unfold ExternalStep.storesAbsent
  split <;> infer_instance

/-! ## What each write does to the token -/

/-- The write stores `effect_absent` for `key`. -/
def JournalWrite.grantsAbsent (key : Uuid) : JournalWrite → Prop
  | .transition _ new =>
    new.idempotencyKey = key ∧ new.state = .unknown ∧ new.errorCode = some "effect_absent"
  | _ => False

/-- The write stores `effect_absent` for no key. -/
def JournalWrite.quiet (w : JournalWrite) : Prop := ∀ key, ¬ w.grantsAbsent key

/-- The write stores `effect_absent` for the key of `envelope` at most. -/
def JournalWrite.grantsFor (envelope : CommandEnvelope) (w : JournalWrite) : Prop :=
  ∀ key, w.grantsAbsent key → key.1 = envelope.idempotencyKey

theorem allows_quiet (key : Uuid) : Allows JournalWrite.quiet key where
  idle _ h := h
  accept _ _ _ h := h
  transition _ _ _ _ _ hcode _ h := hcode h.2.1 h.2.2

theorem allows_grantsFor (envelope : CommandEnvelope) (key : Uuid) :
    Allows (JournalWrite.grantsFor envelope) key where
  idle _ h := h.elim
  accept _ _ _ h := h.elim
  transition _ _ _ _ _ hcode _ h := absurd h.2.2 (hcode h.2.1)

variable {w : JournalWrite}

/-- A write leaves the token only if it was there or the write stores it. -/
theorem JournalWrite.Effect.effectAbsent_of (h : w.Effect j j') (ht : j'.effectAbsent key) :
    j.effectAbsent key ∨ w.grantsAbsent key := by
  -- a rewritten record carries the token only if it is new and `Unknown`
  have hrw : ∀ {old new : CommandRecord}, Journal.Rewrites j j' old new →
      j.effectAbsent key ∨ (new.idempotencyKey = key ∧ new.state = .unknown ∧
        new.errorCode = some "effect_absent") := by
    intro old new hw
    obtain ⟨r, hr, hs, hc⟩ := ht
    rw [hw.command] at hr
    split at hr
    · rename_i hk
      obtain rfl : new = r := by simpa using hr
      exact .inr ⟨by rw [hw.same.key, hk], hs, hc⟩
    · exact .inl ⟨r, hr, hs, hc⟩
  cases h with
  | idle => exact .inl ht
  | @accept _ r hk hid hf =>
    obtain ⟨r', hr', hs, hc⟩ := ht
    have hl := KeyedTable.get?_insert j.commands r hk key
    simp only [command, hl] at hr'
    split at hr'
    · obtain rfl : r = r' := by simpa using hr'
      cases hf.state.symm.trans hs
    · exact .inl ⟨r', hr', hs, hc⟩
  | transition hw => exact hrw hw
  | attested hw _ ht' | applied hw _ ht' | synthetic hw _ ht' =>
    refine (hrw hw).imp_right fun hn => ?_
    rw [hn.2.1] at ht'
    cases ht'

/-- A record that is there stays there. -/
theorem JournalWrite.Effect.command_ne_none (h : w.Effect j j') (hk : j.command key ≠ none) :
    j'.command key ≠ none := by
  obtain ⟨r, hr⟩ := Option.ne_none_iff_exists'.1 hk
  obtain ⟨r', hr', -⟩ := h.record_kept hr
  simp [hr']

/-! ## What each call does to the token -/

/-- Every call but `reconcile_external` writes quietly. -/
theorem ExternalCall.run_quiet (call : ExternalCall)
    (hcall : ∀ e c o, call ≠ .reconcileExternal e c o) :
    Spec (fun _ => True) (call.run P) (Via JournalWrite.quiet) (fun _ _ => True) := by
  have any : ∀ {α : Type} {m : Agent α} {Q : α → Journal → Prop} (f : α → Reply),
      Spec (fun _ => True) m (Via quiet) Q →
      Spec (fun _ => True) (m >>= fun a => pure (f a)) (Via quiet)
        (fun _ _ => True) := fun f h =>
    (h.map f).weaken (fun _ h => h) (fun _ _ h => h) (fun _ _ _ => trivial)
  have hA : ∀ e, AllowsFor quiet e := fun e key _ => allows_quiet key
  cases call with
  | prepareExternal e c => exact any _ (Spec.pointwise (Agent.prepareExternal_spec (hA e)))
  | beginAttestedRecovery e c => exact any _ (Agent.beginAttestedRecovery_spec (hA e))
  | completeExternalAttested permit result proof now =>
    exact any _ (Agent.completeExternalAttested_spec fun _ _ _ _ _ _ h => h)
  | completeExternalAppliedAttested permit resource result proof now =>
    exact any _ (Agent.completeExternalAppliedAttested_spec fun _ _ _ _ _ _ h => h)
  | markExternalUnknown permit code now =>
    exact any _ (Agent.markExternalUnknown_spec (allows_quiet _) (by cases code <;> decide))
  | reconcileExternal e c o => exact absurd rfl (hcall e c o)
  | retryExternal e c => exact any _ (Spec.pointwise (Agent.retryExternal_spec (hA e)))

/-- `reconcile_external` stores `effect_absent` for the key of its envelope at most. -/
theorem ExternalCall.run_reconcile (e : CommandEnvelope) (c : CommandContext)
    (o : ExternalEffectObservation) :
    Spec (fun _ => True) ((ExternalCall.reconcileExternal e c o).run P)
      (Via (JournalWrite.grantsFor e)) (fun _ _ => True) := by
  have hunknown : ∀ key : Uuid, key.1 = e.idempotencyKey →
      AllowsUnknown (grantsFor e) key := by
    intro key hkey old new hold hs _ key' h
    rw [← h.1, hs.key, hold, hkey]
  have hspec : Spec (fun _ => True) (Agent.reconcileExternal P e c o)
      (Via (grantsFor e)) (fun _ _ => True) :=
    Agent.reconcileExternal_spec (fun key _ => allows_grantsFor e key) hunknown
  exact (hspec.map Reply.outcome).weaken (fun _ h => h) (fun _ _ h => h) (fun _ _ _ => trivial)

/-- The durable writes of every call are journal writes. -/
theorem ExternalCall.run_writes (call : ExternalCall) :
    Spec (fun _ => True) (call.run P) (Via fun _ => True) (fun _ _ => True) := by
  by_cases h : ∃ e c o, call = .reconcileExternal e c o
  · obtain ⟨e, c, o, rfl⟩ := h
    refine (ExternalCall.run_reconcile e c o).weaken (fun _ h => h) ?_ (fun _ _ h => h)
    rintro j j' ⟨w, -, he⟩
    exact ⟨w, trivial, he⟩
  simp only [not_exists] at h
  refine (call.run_quiet h).weaken (fun _ h => h) ?_ (fun _ _ h => h)
  rintro j j' ⟨w, -, he⟩
  exact ⟨w, trivial, he⟩

section
variable (h : (externalSystem P).step j ℓ j')
include h

/-- A step that stores no `effect_absent` for `key` leaves no token that was not there. -/
theorem token_of_step (ht : j'.effectAbsent key) : j.effectAbsent key ∨ ℓ.storesAbsent key := by
  obtain ⟨hx, rfl⟩ := h
  obtain ⟨call, o⟩ := ℓ
  have hmem : o.after j ∈ j :: o.trail := List.getLastD_mem_cons
  -- a trail of writes that do not grant the token cannot end with it
  have kept : ∀ {A : JournalWrite → Prop}, (∀ w, A w → ¬ w.grantsAbsent key) →
      Guar (Via A) j o.trail → j.effectAbsent key := by
    intro A hA hg
    by_contra hno
    refine hg.invariant (fun j => ¬ j.effectAbsent key) ?_ hno _ hmem ht
    rintro s s' ⟨w, hw, he⟩ hs hs'
    exact (he.effectAbsent_of hs').elim hs (hA w hw)
  by_cases hcall : ∃ e c obs, call = .reconcileExternal e c obs
  · obtain ⟨e, c, obs, rfl⟩ := hcall
    have hg := (ExternalCall.run_reconcile e c obs).exec trivial hx
    by_cases hkey : e.idempotencyKey = key.1
    · rcases List.mem_cons.1 hmem with heq | hin
      · exact .inl (heq ▸ ht)
      · exact .inr ⟨hkey, _, hin, ht⟩
    · exact .inl (kept (fun w hw hgr => hkey (hw key hgr).symm) hg)
  · simp only [not_exists] at hcall
    exact .inl (kept (fun w hw => hw key) ((call.run_quiet hcall).exec trivial hx))

/-- No step removes a record. -/
theorem fresh_of_step (hn : j'.command key = none) : j.command key = none := by
  obtain ⟨hx, rfl⟩ := h
  by_contra hsome
  have hg := ℓ.call.run_writes.exec trivial hx
  refine hg.invariant (fun j => j.command key ≠ none) ?_ hsome _ List.getLastD_mem_cons hn
  rintro s s' ⟨w, -, he⟩ hs
  exact he.command_ne_none hs

/-- What a permit of `prepare_external` rests on. -/
theorem prepare_issued (hcall : ℓ.call = .prepareExternal e c)
    (hreply : ℓ.observed.reply = some (.ok (.prepared (.execute permit)))) :
    Agent.Issued e permit j' ∧ j.command permit.key = none ∧
      j'.appliedRevisions = j.appliedRevisions := by
  obtain ⟨hx, rfl⟩ := h
  rw [hcall] at hx
  obtain ⟨-, hres, hfin⟩ := hx.of_reply hreply
  obtain ⟨prep, hprep, hq⟩ :=
    ((Agent.prepareExternal_spec (A := quiet) (fun key _ => allows_quiet key) j).map
      Reply.prepared).post j _ rfl hres
  obtain rfl : ExternalPreparation.execute permit = prep := by simpa using hprep
  exact hfin ▸ hq permit rfl

/-- What a permit of `retry_external` rests on. -/
theorem retry_issued (hcall : ℓ.call = .retryExternal e c)
    (hreply : ℓ.observed.reply = some (.ok (.command permit))) :
    Agent.Issued e permit j' ∧ j'.appliedRevisions = j.appliedRevisions ∧
      j.effectAbsent permit.key := by
  obtain ⟨hx, rfl⟩ := h
  rw [hcall] at hx
  obtain ⟨-, hres, hfin⟩ := hx.of_reply hreply
  obtain ⟨cmd, hcmd, hq⟩ :=
    ((Agent.retryExternal_spec (A := quiet) (fun key _ => allows_quiet key) j).map
      Reply.command).post j _ rfl hres
  obtain rfl : permit = cmd := by simpa using hcmd
  exact hfin ▸ hq

/-- A permit finds no record of the key or its token, and leaves the record running. -/
theorem permit_step (hp : ℓ.permits key) : (j.command key = none ∨ j.effectAbsent key) ∧
      ∃ r, j'.command key = some r ∧ r.state = .running := by
  unfold ExternalStep.permits at hp
  split at hp
  · rename_i hcall hreply
    obtain ⟨hi, hnone, -⟩ := prepare_issued h hcall hreply
    exact hp ▸ ⟨.inl hnone, hi.running⟩
  · rename_i hcall hreply
    obtain ⟨hi, -, habsent⟩ := retry_issued h hcall hreply
    exact hp ▸ ⟨.inr habsent, hi.running⟩
  · exact hp.elim

end

/-- **`effect_absent` is a single-use token**: permits consume it, and only `reconcile_external` on
the key stores it. -/
theorem effectAbsent_token (P : Platform) (key : Uuid) :
    (externalSystem P).Token (ExternalStep.permits key) (ExternalStep.storesAbsent key)
      (fun j => j.command key = none) (Journal.effectAbsent key) where
  needs h hp := (permit_step h hp).1
  spends h hp := by
    obtain ⟨r, hr, hs⟩ := (permit_step h hp).2
    refine ⟨by simp [hr], ?_⟩
    rintro ⟨r', hr', hs', -⟩
    obtain rfl : r = r' := by simpa [hr] using hr'
    cases hs.symm.trans hs'
  fresh_of h hn := fresh_of_step h hn
  token_of h ht := token_of_step h ht

/-- **Agent permits are single-use.** Over every sequence of external calls with crashes anywhere, a
key has at most one permit more than `reconcile_external` calls on it that stored `effect_absent`,
and between any two permits stands such a store. -/
theorem permits_single_use (P : Platform) (key : Uuid) {t : List ExternalStep}
    {j : Journal} (h : (externalSystem P).Run t j) :
    t.countP (ExternalStep.permits key) ≤ 1 + t.countP (ExternalStep.storesAbsent key) ∧
      LTS.Separated (ExternalStep.permits key) (ExternalStep.storesAbsent key) t := by
  refine ⟨?_, (effectAbsent_token P key).separated h⟩
  rw [Nat.add_comm]
  exact (effectAbsent_token P key).count_le h

/-! ## A run with two permits -/

/-- The steps of calls that all complete, from `j`. -/
def completedSteps (P : Platform) : Journal → List ExternalCall → List ExternalStep
  | _, [] => []
  | j, call :: calls =>
    ⟨call, (call.run P).writes j, some ((call.run P).result j)⟩ ::
      completedSteps P ((call.run P).final j) calls

/-- Calls that all complete are a run. -/
theorem completedSteps_steps (P : Platform) (j : Journal) (calls : List ExternalCall) :
    ∃ j', (externalSystem P).Steps j (completedSteps P j calls) j' := by
  induction calls generalizing j with
  | nil => exact ⟨j, .nil⟩
  | cons call calls ih =>
    obtain ⟨j', h⟩ := ih ((call.run P).final j)
    exact ⟨j', .cons ⟨.complete, rfl⟩ h⟩

/-- An execution whose reply is lost, the observation that its effect is absent, and the retry. -/
def retriedCalls : List ExternalCall :=
  [.prepareExternal (sampleDisable .executeOrReplay 1) (sampleContext 200),
    .reconcileExternal (sampleDisable .reconcileOnly 1) (sampleContext 300) .absent,
    .retryExternal (sampleDisable .retryIfEffectAbsent 1) (sampleContext 400),
    .retryExternal (sampleDisable .retryIfEffectAbsent 1) (sampleContext 500)]

/-- The retried command has two permits and one store; a second retry gets none. -/
theorem permits_single_use_retried :
    let t := completedSteps samplePlatform fresh retriedCalls
    t.countP (ExternalStep.permits (sampleUuid 2)) = 2 ∧
      t.countP (ExternalStep.storesAbsent (sampleUuid 2)) = 1 ∧
      LTS.Separated (ExternalStep.permits (sampleUuid 2))
        (ExternalStep.storesAbsent (sampleUuid 2)) t := by
  obtain ⟨j, hs⟩ := completedSteps_steps samplePlatform fresh retriedCalls
  have hr := (LTS.Run.start (M := externalSystem samplePlatform) rfl).steps hs
  exact ⟨by decide, by decide, (permits_single_use samplePlatform (sampleUuid 2) hr).2⟩

end Ocservia
