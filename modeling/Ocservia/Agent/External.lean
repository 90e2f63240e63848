import Ocservia.Agent.Writes

/-!
# Specifications of the external operations

One specification for each external operation of the executor: which writes it may do, and what
holds when it hands out a permit. They are parametric in the condition `A` on writes. `Allows A key`
says that `A` admits what every external operation on `key` may do: accept a fresh record, and move
the record to an open state other than `Unknown` with the code `effect_absent`, the one-shot
evidence that `retry_external` consumes. What an operation may write beyond that is an assumption of
its own specification.
-/

namespace Ocservia

open Durable Journal Spec

/-- `A` admits the writes that every external operation on `key` may do. -/
structure Allows (A : JournalWrite → Prop) (key : Uuid) : Prop where
  idle : A .idle
  accept : ∀ r : CommandRecord, r.idempotencyKey = key → A (.accept r)
  transition : ∀ old new : CommandRecord, old.idempotencyKey = key → SameIdentity old new →
    new.state.terminal = false →
    (new.state = .unknown → new.errorCode ≠ some "effect_absent") → A (.transition old new)

/-- `A` admits moving the record of `key` to `Unknown` with any code. -/
def AllowsUnknown (A : JournalWrite → Prop) (key : Uuid) : Prop :=
  ∀ old new : CommandRecord, old.idempotencyKey = key → SameIdentity old new →
    new.state = .unknown → A (.transition old new)

/-- `Allows` for the key of an envelope. -/
def AllowsFor (A : JournalWrite → Prop) (envelope : CommandEnvelope) : Prop :=
  ∀ key : Uuid, key.1 = envelope.idempotencyKey → Allows A key

/-- The applied revision is the one before the desired one. -/
def FenceCurrent (envelope : CommandEnvelope) (j : Journal) : Prop :=
  ∀ resource, Agent.desiredResource envelope = some resource →
    (j.appliedRevision resource.resourceType resource.resourceKey).getD 0 + 1 =
      resource.revision.toNat

theorem FenceCurrent.of_revisions (h : FenceCurrent envelope j)
    (hr : j'.appliedRevisions = j.appliedRevisions) : FenceCurrent envelope j' := by
  intro resource hres
  simp only [appliedRevision, hr]
  exact h resource hres

namespace Agent

/-! ## Checks and lookups -/

theorem validateExternal_spec
    (h : ∀ v, Validated P envelope context v → Spec Pre (m v) (Via A) Q) :
    Spec Pre (validateExternal P envelope context >>= m) (Via A) Q := by
  refine bind check_spec fun v => ?_
  refine assume (fun j h => h.2) fun hv => ?_
  obtain ⟨v', hv, hsame⟩ := Checked.bind_eq_ok.1 hv
  obtain ⟨-, hsame⟩ := Checked.require_bind.1 hsame
  cases hsame
  exact (h v (validateCommand_ok P hv)).weaken (fun _ h => h.1) (fun _ _ h => h) fun _ _ h => h

theorem fenceAt_current (h : fenceAt resource j = .ok .current) :
    (j.appliedRevision resource.resourceType resource.resourceKey).getD 0 + 1 =
      resource.revision.toNat := by
  unfold fenceAt at h
  split at h
  · cases h
  rename_i h0
  have hpos : 0 < resource.revision.toNat := by
    rcases Nat.eq_zero_or_pos resource.revision.toNat with hz | hz
    · exact absurd (UInt64.toNat_inj.1 hz) h0
    · exact hz
  simp only [Except.ok.injEq] at h
  split at h
  · rename_i hc
    rw [Nat.compare_eq_eq] at hc
    omega
  · cases h
  · cases h

theorem requireCurrent_spec :
    Spec Pre (requireCurrentDesiredRevision envelope) (Via A)
      (fun _ j => Pre j ∧ FenceCurrent envelope j) := by
  refine bind (Q := fun fence j => Pre j ∧ (fence = .current → FenceCurrent envelope j))
    (read fun j fence hj h => ⟨hj, ?_⟩) fun fence => ?_
  · rintro rfl resource hr
    simp only [hr] at h
    exact fenceAt_current h
  · cases fence with
    | current => exact pure fun _ h => ⟨h.1, h.2 rfl⟩
    | superseded | gap => exact throw _

theorem matchRecord_ok (h : matchRecord v byKey byCommand = .ok r) :
    byKey = some r ∧ RecordFor v r := by
  unfold matchRecord at h
  split at h
  · split at h
    · rename_i hid
      split at h
      · cases h
      rename_i hver
      split at h
      · rename_i hhash
        cases h
        exact ⟨rfl, hid.2, hhash, not_not.1 hver⟩
      · cases h
    · cases h
  · cases h
  · cases h

theorem matchingRecord_spec :
    Spec Pre (matchingRecord v) (Via A)
      (fun found j => Pre j ∧
        found = matchRecord v (j.command v.key) (j.commandById v.commandId)) :=
  read fun _ _ hj h => ⟨hj, by simpa using h.symm⟩

theorem matchingOrAccepted_spec (hA : Allows A v.key) :
    Spec Pre (matchingOrAccepted v now) (Via A)
      (fun o j => j.command v.key = some o.1 ∧ RecordFor v o.1) := by
  refine bind matchingRecord_spec fun found => ?_
  split
  · rename_i record
    refine pure fun j h => ?_
    exact matchRecord_ok h.2.symm
  · refine bind (accept_spec v now hA.idle (hA.accept _ rfl)) fun o => ?_
    cases o with
    | accepted r =>
      refine pure fun j h => ?_
      obtain ⟨rfl, hj, -⟩ := h
      exact ⟨hj, rfl, rfl, rfl⟩
    | replay r => exact pure fun j h => ⟨h.2.1, h.2.2⟩
    | payloadConflict | identityConflict => exact throw _
  · exact throw _

/-- A transition of the record of `key` to an open state without `effect_absent`. -/
theorem openTransition_spec (hA : Allows A key) (hfrom : ∀ c ∈ fromStates, c.terminal = false)
    (hto : toState.terminal = false) (hcode : toState = .unknown → errorCode ≠ some "effect_absent")
    :
    Spec Pre (transition key fromStates toState none errorCode now) (Via A)
      (TransitionPost Pre key fromStates toState none errorCode now) :=
  transition_spec hfrom fun _ old _ hold _ =>
    hA.transition old _ (command_key hold) ⟨rfl, rfl, rfl, rfl, rfl⟩ hto hcode

/-! ## Permits -/

/-- When a permit is handed out the record is running and the revision fence is current. -/
structure Issued (envelope : CommandEnvelope) (permit : ExternalCommand) (j : Journal) : Prop where
  key : permit.key.1 = envelope.idempotencyKey
  running : ∃ r, j.command permit.key = some r ∧ r.state = .running
  fence : FenceCurrent envelope j

/-- The record of a key after a write that sets it to running. -/
theorem running_of_rewrites (hold : j.command key = some old) (hw : Rewrites j j' old new)
    (hs : new.state = .running) : ∃ r, j'.command key = some r ∧ r.state = .running :=
  ⟨new, by rw [hw.command, if_pos (command_key hold).symm], hs⟩

/-- `prepare_external` issues a permit only for an unknown key, with the fence current. -/
theorem prepareExternal_spec (hA : AllowsFor A envelope) (j₀ : Journal) :
    Spec (· = j₀) (prepareExternal P envelope context) (Via A)
      (fun o j => ∀ permit, o = .execute permit →
        Issued envelope permit j ∧ j₀.command permit.key = none ∧
          j.appliedRevisions = j₀.appliedRevisions) := by
  refine validateExternal_spec fun v hv => ?_
  have hAv : Allows A v.key := hA v.key hv.key
  refine bind (command_spec v.key) fun known => ?_
  -- the fence is checked exactly when the key has no record
  refine bind (Q := fun _ j => j = j₀ ∧
    (j.command v.key = none → FenceCurrent envelope j)) ?_ fun _ => ?_
  · split
    · refine requireCurrent_spec.weaken (fun _ h => h) (fun _ _ h => h) ?_
      rintro - j ⟨⟨rfl, -⟩, hf⟩
      exact ⟨rfl, fun _ => hf⟩
    · rename_i hk
      refine pure ?_
      rintro j ⟨rfl, rfl⟩
      refine ⟨rfl, fun hn => ?_⟩
      simp [hn] at hk
  refine bind (accept_spec v context.nowUnixSeconds hAv.idle (hAv.accept _ rfl)) fun o => ?_
  cases o with
  | payloadConflict | identityConflict => exact throw _
  | replay r =>
    refine bind (Q := fun _ _ => True) ?_ fun r' => pure fun _ _ _ h => by cases h
    unfold replayExternal
    split
    · exact pure fun _ _ => trivial
    · exact (openTransition_spec hAv (by decide) rfl (by decide)).weaken (fun _ h => h)
        (fun _ _ h => h) fun _ _ _ => trivial
  | accepted r =>
    refine bind (openTransition_spec hAv (by decide) rfl (by decide)) fun r' => pure ?_
    rintro j ⟨j₁, old, ⟨rfl, hj₁, j₂, ⟨rfl, hf⟩, hnone, hr₁⟩, hold, -, rfl, hw, hr₂⟩ permit ⟨⟩
    exact ⟨⟨hv.key, running_of_rewrites hold hw rfl, (hf hnone).of_revisions (hr₂.trans hr₁)⟩,
      hnone, hr₂.trans hr₁⟩

/-- `retry_external` issues a permit only for an `Unknown` record with `effect_absent`, with the
fence current. -/
theorem retryExternal_spec (hA : AllowsFor A envelope) (j₀ : Journal) :
    Spec (· = j₀) (retryExternal P envelope context) (Via A)
      (fun permit j => Issued envelope permit j ∧ j.appliedRevisions = j₀.appliedRevisions ∧
        ∃ r, j₀.command permit.key = some r ∧ r.state = .unknown ∧
          r.errorCode = some "effect_absent") := by
  refine validateExternal_spec fun v hv => ?_
  have hAv : Allows A v.key := hA v.key hv.key
  refine bind matchingRecord_spec fun found => ?_
  refine bind check_spec fun record => ?_
  refine bind check_spec fun _ => ?_
  refine bind requireCurrent_spec fun _ => ?_
  refine bind (openTransition_spec hAv (by decide) rfl (by decide)) fun r' => pure ?_
  rintro j ⟨j₁, old, ⟨⟨⟨⟨rfl, rfl⟩, hrec⟩, habs⟩, hf⟩, hold, -, rfl, hw, hr⟩
  obtain ⟨hrec, -⟩ := matchRecord_ok hrec
  have hstate := requireOr_eq_ok.1 habs
  simp only [Bool.and_eq_true, beq_iff_eq] at hstate
  exact ⟨⟨hv.key, running_of_rewrites hold hw rfl, hf.of_revisions hr⟩, hr, record, hrec, hstate⟩

/-! ## The operations without permit -/

/-- `begin_attested_recovery` returns a permit for the key of its envelope. -/
theorem beginAttestedRecovery_spec (hA : AllowsFor A envelope) :
    Spec Pre (beginAttestedRecovery P envelope context) (Via A)
      (fun permit _ => permit.key.1 = envelope.idempotencyKey) := by
  refine validateExternal_spec fun v hv => ?_
  have hAv : Allows A v.key := hA v.key hv.key
  refine bind (matchingOrAccepted_spec hAv) fun o => ?_
  refine bind check_spec fun _ => ?_
  exact bind (openTransition_spec hAv (by decide) rfl (by decide))
    fun r => pure fun _ _ => hv.key

/-- `complete_external_attested` completes the record of its permit. -/
theorem completeExternalAttested_spec {result : Except String Bytes}
    (hA : ∀ old new, old.idempotencyKey = permit.key → SameIdentity old new →
      new.state = (completion result).1 → A (.attested old new)) :
    Spec Pre (completeExternalAttested permit result proof now) (Via A) (fun _ _ => True) := by
  refine bind (acceptedBefore_spec permit.key) fun before => ?_
  refine bind (attested_spec hA) fun record => ?_
  split
  · exact throw _
  · exact pure fun _ _ => trivial

/-- `complete_external_applied_attested` completes its permit's record with a revision. -/
theorem completeExternalAppliedAttested_spec {result : Bytes}
    (hA : ∀ old new, old.idempotencyKey = permit.key → SameIdentity old new →
      new.state = .succeeded → A (.applied resource now old new)) :
    Spec Pre (completeExternalAppliedAttested permit resource result proof now) (Via A)
      (fun _ _ => True) := by
  refine bind (acceptedBefore_spec permit.key) fun before => ?_
  exact bind (applied_spec hA) fun record => pure fun _ _ => trivial

/-- `mark_external_unknown` with a code other than `effect_absent`. -/
theorem markExternalUnknown_spec (hA : Allows A permit.key) (hcode : code ≠ "effect_absent") :
    Spec Pre (markExternalUnknown permit code now) (Via A) (fun _ _ => True) := by
  refine bind (openTransition_spec hA (by decide) rfl (by simpa using hcode))
    fun record => ?_
  split
  · exact throw _
  · exact pure fun _ _ => trivial

/-- `reconcile_external` also stores the observed code, `effect_absent` among them. -/
theorem reconcileExternal_spec (hA : AllowsFor A envelope)
    (hunknown : ∀ key : Uuid, key.1 = envelope.idempotencyKey → AllowsUnknown A key) :
    Spec Pre (reconcileExternal P envelope context observation) (Via A) (fun _ _ => True) := by
  refine validateExternal_spec fun v hv => ?_
  refine bind (matchingOrAccepted_spec (hA v.key hv.key)) fun o => ?_
  dsimp only
  split
  · exact pure fun _ _ => trivial
  refine bind (Q := fun _ _ => True) (read fun _ _ _ _ => trivial) fun fence => ?_
  refine bind check_spec fun obs => ?_
  refine bind (transition_spec (by decide) fun j old _ hold _ => ?_) fun r =>
    pure fun _ _ => trivial
  exact hunknown v.key hv.key old _ (command_key hold) ⟨rfl, rfl, rfl, rfl, rfl⟩ rfl

end Agent

end Ocservia
