import Ocservia.Agent.Permits

/-!
# Desired-revision ordering

The applied revision of a resource is written by the completions with a revision alone, in the
transaction that completes the record, and never lowered by them (`RevisionCompletion`). Along the
runs of `externalSystem` this gives the order of desired revisions on the Agent
(`revision_ordering`).
-/

namespace Ocservia

open Durable Journal Agent Observation

/-! ## The completions of the journal -/

/-- The three transactions that complete a record with a revision. -/
inductive RevisionCompletion where
  | complete
  | completeAttested (proof : Bytes)
  | reconcile

/-- The transaction of a completion. -/
def RevisionCompletion.run (key id : Uuid) (resource : AppliedResourceRevision)
    (result : Bytes) (now : Int64) :
    RevisionCompletion → Journal → Except JournalError (CommandRecord × Journal)
  | .complete => completeExternalWithRevision key id resource result now
  | .completeAttested proof =>
    completeExternalWithRevisionAttested key id resource result proof now
  | .reconcile => reconcileExternalWithRevision key id resource result now

/-- In `j'` the record of `key` succeeded with exactly the revision of `resource`; the other
revisions are those of `j`. -/
structure AppliedTogether (j j' : Journal) (key : Uuid)
    (resource : AppliedResourceRevision) : Prop where
  record : ∃ r, j'.command key = some r ∧ r.state = .succeeded
  revision : j'.appliedRevision resource.resourceType resource.resourceKey =
    some resource.revision.toNat
  others : ∀ t k, (t, k) ≠ (resource.resourceType, resource.resourceKey) →
    j'.appliedRevision t k = j.appliedRevision t k

variable {j j' : Journal}

/-- The revisions after the upsert of `resource`. -/
theorem appliedRevision_upsert
    (h : j'.appliedRevisions = j.appliedRevisions.upsert (appliedRow resource now)) (t k : String) :
    j'.appliedRevision t k =
      if (t, k) = (resource.resourceType, resource.resourceKey) then some resource.revision.toNat
      else j.appliedRevision t k := by
  have hget := KeyedTable.get?_upsert j.appliedRevisions (appliedRow resource now) (t, k)
  simp only [appliedRevision, h, hget]
  by_cases hk : (t, k) = (resource.resourceType, resource.resourceKey)
  · rw [if_pos hk]
    exact (congrArg _ (if_pos hk)).trans rfl
  · rw [if_neg hk]
    exact congrArg _ (if_neg hk)

theorem completeWithRevision_together {key id : Uuid} {fromStates : List CommandState}
    {result : Bytes} {proof : Option Bytes} {r : CommandRecord}
    (h : j.completeWithRevision key id fromStates resource result proof now = .ok (r, j')) :
    j.NotAhead resource ∧ AppliedTogether j j' key resource := by
  obtain ⟨old, j₁, hold, -, -, hu, hr, hj⟩ := completeWithRevision_ok h
  obtain ⟨hle, hj₁⟩ := upsertRevision_ok hu
  have hfound : j₁.command key = some old := by rw [hj₁]; exact hold
  have hs : SameIdentity old r := by rw [hr]; exact ⟨rfl, rfl, rfl, rfl, rfl⟩
  have hw : Rewrites j₁ j' old r := by rw [hj]; exact rewrites_setCommand hfound hs
  have hrev : j'.appliedRevisions = j.appliedRevisions.upsert (appliedRow resource now) := by
    rw [hj, hj₁]
    rfl
  refine ⟨hle, ⟨r, ?_, by rw [hr]⟩, ?_, fun t k hne => ?_⟩
  · rw [hw.command, if_pos (command_key hold).symm]
  · rw [appliedRevision_upsert hrev, if_pos rfl]
  · rw [appliedRevision_upsert hrev, if_neg hne]

/-- A completion commits record and revision together, when no larger revision is stored. -/
theorem RevisionCompletion.run_ok (c : RevisionCompletion) {key id : Uuid} {result : Bytes}
    {r : CommandRecord} (h : c.run key id resource result now j = .ok (r, j')) :
    j.NotAhead resource ∧ AppliedTogether j j' key resource := by
  cases c with
  | complete =>
    simp only [run, completeExternalWithRevision] at h
    split at h
    · cases h
    · exact completeWithRevision_together h
  | completeAttested proof =>
    simp only [run, completeExternalWithRevisionAttested] at h
    split at h
    · cases h
    · exact completeWithRevision_together h
  | reconcile =>
    simp only [run, reconcileExternalWithRevision] at h
    split at h
    · cases h
    · exact completeWithRevision_together h

/-! ## Revisions along a run -/

/-- No revision of `j` is lowered in `j'`. -/
def RevisionsKept (j j' : Journal) : Prop :=
  ∀ t k n, j.appliedRevision t k = some n → ∃ n', j'.appliedRevision t k = some n' ∧ n ≤ n'

theorem RevisionsKept.of_eq (h : j'.appliedRevisions = j.appliedRevisions) :
    RevisionsKept j j' := by
  intro t k n hn
  refine ⟨n, ?_, le_refl n⟩
  rw [← hn]
  simp only [appliedRevision, h]

theorem RevisionsKept.trans (h : RevisionsKept j₁ j₂) (h' : RevisionsKept j₂ j₃) :
    RevisionsKept j₁ j₃ := by
  intro t k n hn
  obtain ⟨n₂, hn₂, hle₂⟩ := h t k n hn
  obtain ⟨n₃, hn₃, hle₃⟩ := h' t k n₂ hn₂
  exact ⟨n₃, hn₃, hle₂.trans hle₃⟩

/-- No write lowers a revision. -/
theorem JournalWrite.Effect.revisionsKept {w : JournalWrite} (h : w.Effect j j') :
    RevisionsKept j j' := by
  cases h with
  | idle | accept => exact .of_eq rfl
  | transition hw ho hp hr | attested hw ho ht hp hr | synthetic hw ho ht hp hr => exact .of_eq hr
  | @applied _ _ resource now old new hw ho ht hp hle hr =>
    intro t k n hn
    rw [appliedRevision_upsert hr]
    by_cases hk : (t, k) = (resource.resourceType, resource.resourceKey)
    · rw [if_pos hk]
      obtain ⟨rfl, rfl⟩ := Prod.mk.injEq .. ▸ hk
      exact ⟨_, rfl, hle n hn⟩
    · rw [if_neg hk]
      exact ⟨n, hn, le_refl n⟩

/-- The step handed out a permit for `envelope`. -/
def ExternalStep.issues (envelope : CommandEnvelope) (ℓ : ExternalStep) : Prop :=
  match ℓ.call, ℓ.observed.reply with
  | .prepareExternal e _, some (.ok (.prepared (.execute _))) => e = envelope
  | .retryExternal e _, some (.ok (.command _)) => e = envelope
  | _, _ => False

theorem step_revisionsKept (h : (externalSystem P).step j ℓ j') : RevisionsKept j j' := by
  obtain ⟨hx, rfl⟩ := h
  have hg := ℓ.call.run_writes.exec trivial hx
  refine hg.invariant (RevisionsKept j) ?_ (.of_eq rfl) _ List.getLastD_mem_cons
  rintro s s' ⟨w, -, he⟩ hs
  exact hs.trans he.revisionsKept

/-- A permit is handed out only with the fence current, before and after the step. -/
theorem issues_fence (h : (externalSystem P).step j ℓ j') (hi : ℓ.issues envelope) :
    FenceCurrent envelope j ∧ FenceCurrent envelope j' := by
  unfold ExternalStep.issues at hi
  split at hi
  · rename_i hcall hreply
    obtain ⟨hissued, -, hrev⟩ := prepare_issued h hcall hreply
    exact hi ▸ ⟨hissued.fence.of_revisions hrev.symm, hissued.fence⟩
  · rename_i hcall hreply
    obtain ⟨hissued, hrev, -⟩ := retry_issued h hcall hreply
    exact hi ▸ ⟨hissued.fence.of_revisions hrev.symm, hissued.fence⟩
  · exact hi.elim

/-! ## Completions along a run -/

/-- `complete_external_applied_attested` fails without a write, or stores both in one. -/
theorem completeApplied_writes (permit : ExternalCommand) (resource : AppliedResourceRevision)
    (result proof : Bytes) (now : Int64) (j : Journal) :
    let m := completeExternalAppliedAttested permit resource result proof now
    (m.writes j = [] ∧ ∃ e, m.result j = .error e) ∨
      ∃ j', m.writes j = [j'] ∧ j.NotAhead resource ∧ AppliedTogether j j' permit.key resource := by
  simp only [completeExternalAppliedAttested, acceptedBefore, postEffect,
    writes_bind, result_bind, writes_read, result_read, final_read, writes_mapErr, result_mapErr]
  cases hc : j.command permit.key with
  | none => exact .inl ⟨rfl, _, rfl⟩
  | some before =>
    cases hf : j.completeExternalWithRevisionAttested permit.key permit.commandId resource result
        proof now with
    | error e => simp [Checked.get, transact_error hf]
    | ok x =>
      obtain ⟨r, j'⟩ := x
      refine .inr ⟨j', ?_, (RevisionCompletion.completeAttested proof).run_ok hf⟩
      simp [Checked.get, transact_ok hf]

/-- What a step on the applied revisions is. -/
structure OrderedStep (j : Journal) (ℓ : ExternalStep) (j' : Journal) : Prop where
  /-- No revision decreases. -/
  kept : RevisionsKept j j'
  /-- A permit for desired revision `r` finds the applied revision `r - 1`. -/
  permits : ∀ envelope, ℓ.issues envelope → FenceCurrent envelope j ∧ FenceCurrent envelope j'
  /-- A completion stores `Succeeded` and the revision in one write, or it writes nothing. -/
  completes : ∀ permit resource result proof now,
    ℓ.call = .completeExternalAppliedAttested permit resource result proof now →
    (ℓ.observed.trail = [j'] ∧ AppliedTogether j j' permit.key resource) ∨
      (ℓ.observed.trail = [] ∧ j' = j ∧ ∀ reply, ℓ.observed.reply ≠ some (.ok reply))
  /-- A completion that finds a larger revision writes nothing. -/
  refuses : ∀ permit resource result proof now,
    ℓ.call = .completeExternalAppliedAttested permit resource result proof now →
    ¬ j.NotAhead resource → ℓ.observed.trail = [] ∧ j' = j

theorem step_completes (h : (externalSystem P).step j ℓ j') {permit : ExternalCommand}
    {resource : AppliedResourceRevision} {result proof : Bytes} {now : Int64}
    (hcall : ℓ.call = .completeExternalAppliedAttested permit resource result proof now) :
    (ℓ.observed.trail = [j'] ∧ j.NotAhead resource ∧ AppliedTogether j j' permit.key resource) ∨
      (ℓ.observed.trail = [] ∧ j' = j ∧ ∀ reply, ℓ.observed.reply ≠ some (.ok reply)) := by
  obtain ⟨hx, rfl⟩ := h
  rw [hcall] at hx
  have hmap := writes_map (completeExternalAppliedAttested permit resource result proof now)
    Reply.outcome j
  rcases completeApplied_writes permit resource result proof now j with
    ⟨hw, e, he⟩ | ⟨s, hw, hle, ht⟩
  · have hnil := hx.silent (hmap.trans hw)
    refine .inr ⟨hnil, by simp [after, hnil], fun reply hreply => ?_⟩
    rcases hx.reply_eq with hno | hres
    · cases hno.symm.trans hreply
    · rw [hres] at hreply
      simp only [ExternalCall.run, (bind_error he).2, Option.some.injEq] at hreply
      cases hreply
  · rcases hx.single (hmap.trans hw) with hone | ⟨hnil, hno⟩
    · have hafter : ℓ.observed.after j = s := by simp [after, hone]
      rw [hafter]
      exact .inl ⟨hone, hle, ht⟩
    · refine .inr ⟨hnil, by simp [after, hnil], fun reply hreply => ?_⟩
      cases hno.symm.trans hreply

theorem orderedStep (h : (externalSystem P).step j ℓ j') : OrderedStep j ℓ j' where
  kept := step_revisionsKept h
  permits _ hi := issues_fence h hi
  completes permit resource result proof now hcall := by
    rcases step_completes h hcall with ⟨hone, -, ht⟩ | hnone
    · exact .inl ⟨hone, ht⟩
    · exact .inr hnone
  refuses permit resource result proof now hcall hahead := by
    rcases step_completes h hcall with ⟨-, hle, -⟩ | ⟨hnil, hj, -⟩
    · exact absurd hle hahead
    · exact ⟨hnil, hj⟩

/-- **Desired-revision ordering on the Agent.** Along every run no applied revision decreases; a
permit for desired revision `r` is issued only while the applied revision is `r - 1`; a completion
at `r` makes the record `Succeeded` and the applied revision `r` in one write or changes nothing;
and one that finds a larger applied revision changes nothing. -/
theorem revision_ordering (P : Platform) {j₀ j₁ : Journal} {u : List ExternalStep}
    (h : (externalSystem P).Steps j₀ u j₁) :
    RevisionsKept j₀ j₁ ∧
      ∀ pre ℓ post, u = pre ++ ℓ :: post →
        ∃ j j', (externalSystem P).Steps j₀ pre j ∧ (externalSystem P).step j ℓ j' ∧
          (externalSystem P).Steps j' post j₁ ∧ OrderedStep j ℓ j' := by
  refine ⟨h.related (R := RevisionsKept) (fun _ => .of_eq rfl) RevisionsKept.trans
    fun _ _ _ => step_revisionsKept, ?_⟩
  rintro pre ℓ post rfl
  obtain ⟨j, j', hpre, hs, hpost⟩ := h.split
  exact ⟨j, j', hpre, hs, hpost, orderedStep hs⟩

/-! ## Two revisions of one user -/

/-- Revision 1 is prepared and applied, and revision 2 is prepared after it. -/
def orderedCalls : List ExternalCall :=
  [.prepareExternal (sampleDisable .executeOrReplay 1) (sampleContext 200),
    .completeExternalAppliedAttested ⟨sampleUuid 2, sampleUuid 1, 200⟩ ⟨"user", "alice", 1⟩ [] [1]
      210,
    .prepareExternal
      { sampleDisable .executeOrReplay 2 with
        commandId := (sampleUuid 5).1
        idempotencyKey := (sampleUuid 6).1
        operationId := (sampleUuid 6).1 }
      (sampleContext 300)]

/-- Both permits are issued, the second because revision 1 is applied by then. -/
theorem revision_ordering_sample :
    let t := completedSteps samplePlatform fresh orderedCalls
    t.map (fun ℓ => decide (ℓ.permits (sampleUuid 2) ∨ ℓ.permits (sampleUuid 6))) =
      [true, false, true] ∧
    ∃ j₁, RevisionsKept fresh j₁ ∧ (externalSystem samplePlatform).Steps fresh t j₁ := by
  obtain ⟨j₁, hs⟩ := completedSteps_steps samplePlatform fresh orderedCalls
  exact ⟨by decide, j₁, (revision_ordering samplePlatform hs).1, hs⟩

end Ocservia
