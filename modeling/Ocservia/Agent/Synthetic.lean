import Ocservia.Agent.Dispatch

/-!
# Specifications of the synthetic operations

`deliver` completes a record without a proof, which no external operation does, and only the record
of the synthetic command that it validated. `SyntheticAllows A v` says that the condition `A` on
writes admits what `deliver` may do for the validated command `v`; `handleCommand_spec` joins it
with what `execute_external_command` may do. `JournalWrite.completesOnly R` is the condition that a
write stores a terminal state without a proof in records with `R` alone; every delivery satisfies it
(`handleCommand_completesOnly`).
-/

namespace Ocservia

open Durable Journal Spec

/-- A write that completes without a proof only records that satisfy `R`. -/
def JournalWrite.completesOnly (R : CommandRecord → Prop) : JournalWrite → Prop
  | .transition old new => new.state.terminal = true → R old
  | .synthetic old _ => R old
  | .idle | .accept _ | .attested _ _ | .applied _ _ _ _ => True

namespace Agent

/-- `A` admits what the synthetic operations may write for the validated command `v`. -/
structure SyntheticAllows (A : JournalWrite → Prop) (v : ValidatedCommand) : Prop where
  idle : A .idle
  accept : ∀ r : CommandRecord, r.idempotencyKey = v.key → A (.accept r)
  opens : ∀ old new : CommandRecord, old.idempotencyKey = v.key → new.state.terminal = false →
    A (.transition old new)
  completes : ∀ old new : CommandRecord, old.idempotencyKey = v.key → RecordFor v old →
    A (.transition old new) ∧ A (.synthetic old new)

/-- What the synthetic operations know once they found or accepted the record of `v`. -/
def HasRecord (v : ValidatedCommand) (j : Journal) : Prop :=
  ∃ r, j.command v.key = some r ∧ RecordFor v r

theorem HasRecord.recordFor (h : HasRecord v j) (hr : j.command v.key = some r) :
    RecordFor v r := by
  obtain ⟨r', hr', hfor⟩ := h
  obtain rfl : r = r' := by simpa [hr] using hr'
  exact hfor

/-- A transition of the record of `v` leaves a record of `v`. -/
theorem TransitionPost.hasRecord {Pre : Journal → Prop} {toState : CommandState}
    {result : Option Bytes} {errorCode : Option String} {j' : Journal}
    (hPre : ∀ j, Pre j → HasRecord v j)
    (h : TransitionPost Pre v.key fromStates toState result errorCode now r j') :
    HasRecord v j' := by
  obtain ⟨j, old, hj, hold, -, hr', hw, -⟩ := h
  have hfor : RecordFor v old := (hPre j hj).recordFor hold
  have hcmd : j'.command v.key = some r := by rw [hw.command, if_pos (command_key hold).symm]
  subst hr'
  exact ⟨_, hcmd, hfor.commandId, hfor.payloadSha256, hfor.payloadHashVersion⟩

theorem reconcileReplay_spec (hA : SyntheticAllows A v) :
    Spec (HasRecord v) (reconcileReplay record v now explicit) (Via A) (fun _ _ => True) := by
  unfold reconcileReplay
  split
  · exact pure fun _ _ => trivial
  refine bind (Q := fun _ => HasRecord v) (read fun _ _ hj _ => hj) fun found => ?_
  cases found with
  | some effect =>
    dsimp only
    split
    · exact throw _
    refine bind (transition_spec (by decide) ?_) fun r =>
      pure fun _ _ => trivial
    -- the stored effect completes the record of the command itself
    intro j old hj hold _
    exact (hA.completes old _ (command_key hold) (hj.recordFor hold)).1
  | none =>
    dsimp only
    generalize (if explicit = true then _ else _ : String) = errorCode
    split
    · exact pure fun _ _ => trivial
    · refine bind (transition_spec (by decide) fun j old _ hold _ => ?_)
        fun r => pure fun _ _ => trivial
      exact hA.opens old _ (command_key hold) rfl

/-- Running a command whose record is there and completing it with its effect. -/
theorem runSynthetic_spec (hfrom : ∀ c ∈ fromStates, c.terminal = false) (hA : SyntheticAllows A v)
    :
    Spec (HasRecord v)
      (do
        let _ ← transition v.key fromStates .running none none now
        let record ← completeSynthetic v now
        return (⟨record, replayed⟩ : CommandOutcome))
      (Via A) (fun _ _ => True) := by
  refine bind (Q := fun _ => HasRecord v) ?_ fun _ => ?_
  · exact (transition_spec hfrom fun j old _ hold _ => hA.opens old _ (command_key hold) rfl).weaken
      (fun _ h => h) (fun _ _ h => h) fun _ _ h => h.hasRecord fun _ h => h
  · refine bind (synthetic_spec ?_) fun record => pure fun _ _ => trivial
    intro j old new hj hold _ _
    exact (hA.completes old new (command_key hold) (hj.recordFor hold)).2

theorem execute_spec (hA : ∀ v, Validated P envelope context v → SyntheticAllows A v) :
    Spec (fun _ => True) (execute P envelope context) (Via A) (fun _ _ => True) := by
  refine bind check_spec fun v => ?_
  refine assume (fun j h => h.2) fun hv => ?_
  have hAv : SyntheticAllows A v := hA v (validateCommand_ok P hv)
  refine bind (accept_spec v context.nowUnixSeconds hAv.idle (hAv.accept _ rfl)) fun o => ?_
  cases o with
  | payloadConflict | identityConflict => exact throw _
  | replay r =>
    refine (reconcileReplay_spec hAv).weaken ?_ (fun _ _ h => h) (fun _ _ h => h)
    rintro j ⟨-, hr, hfor⟩
    exact ⟨r, hr, hfor⟩
  | accepted r =>
    refine (runSynthetic_spec (by decide) hAv).weaken ?_ (fun _ _ h => h) (fun _ _ h => h)
    rintro j ⟨rfl, hr, -⟩
    exact ⟨_, hr, rfl, rfl, rfl⟩

/-- `matching_record` for a validated command, which then has its record. -/
theorem matched_spec {α : Type} {Q : α → Journal → Prop}
    {f : ValidatedCommand → CommandRecord → Agent α}
    (h : ∀ v r, Validated P envelope context v → Spec (HasRecord v) (f v r) (Via A) Q) :
    Spec (fun _ => True)
      (do
        let v ← check (validateCommand P envelope context)
        let found ← matchingRecord v
        let record ← check found
        f v record)
      (Via A) Q := by
  refine bind check_spec fun v => ?_
  refine assume (fun j h => h.2) fun hv => ?_
  refine bind matchingRecord_spec fun found => ?_
  refine bind check_spec fun record => ?_
  refine (h v record (validateCommand_ok P hv)).weaken ?_ (fun _ _ h => h) (fun _ _ h => h)
  rintro j ⟨⟨-, rfl⟩, hm⟩
  exact ⟨record, matchRecord_ok hm⟩

theorem reconcile_spec (hA : ∀ v, Validated P envelope context v → SyntheticAllows A v) :
    Spec (fun _ => True) (reconcile P envelope context) (Via A) (fun _ _ => True) :=
  matched_spec fun v _ hv => reconcileReplay_spec (hA v hv)

theorem retryUnknown_spec (hA : ∀ v, Validated P envelope context v → SyntheticAllows A v) :
    Spec (fun _ => True) (retryUnknown P envelope context) (Via A) (fun _ _ => True) := by
  unfold retryUnknown
  split
  · exact reconcile_spec hA
  refine matched_spec fun v record hv => ?_
  iterate 2 refine bind check_spec fun _ => ?_
  refine bind (Q := fun _ => HasRecord v)
    (read fun _ _ hj _ => hj.1.1) fun found => ?_
  cases found with
  | some effect => exact reconcileReplay_spec (hA v hv)
  | none => exact runSynthetic_spec (by decide) (hA v hv)

/-- **What a delivery may write**, by the route that its envelope takes. -/
theorem handleCommand_spec
    (hexternal : routesExternal envelope = true → DeliveryAllows P envelope privd j₀ A)
    (hsynthetic : routesExternal envelope = false →
      ∀ v, Validated P envelope context v → SyntheticAllows A v) :
    Spec (· = j₀) (handleCommand P envelope context privd) (Via A) (fun _ _ => True) := by
  unfold handleCommand
  split
  · rename_i hroute
    exact executeExternalCommand_spec (hexternal hroute)
  rename_i hroute
  have hroute : routesExternal envelope = false := by simpa using hroute
  have hA := hsynthetic hroute
  refine weaken (P := fun _ => True) (Q := fun _ _ => True) ?_ (fun _ _ => trivial)
    (fun _ _ h => h) (fun _ _ h => h)
  unfold deliver
  split
  · exact execute_spec hA
  · exact reconcile_spec hA
  · exact retryUnknown_spec hA
  · exact throw _

/-- The records of an envelope that `handle_command_stream` routes to `deliver`. -/
def DeliveredRecord (P : Platform) (envelope : CommandEnvelope) (context : CommandContext)
    (r : CommandRecord) : Prop :=
  routesExternal envelope = false ∧ ∃ v, Validated P envelope context v ∧ RecordFor v r

/-- **Without a proof a delivery completes only records of its own envelope**, in `deliver`. -/
theorem handleCommand_completesOnly :
    Spec (fun _ => True) (handleCommand P envelope context privd)
      (Via (JournalWrite.completesOnly (DeliveredRecord P envelope context)))
      (fun _ _ => True) := by
  have hopen : ∀ {R : CommandRecord → Prop} {old new : CommandRecord},
      new.state.terminal = false → (JournalWrite.transition old new).completesOnly R := by
    intro R old new h ht
    cases h.symm.trans ht
  refine pointwise fun j => handleCommand_spec (fun _ => ?_) fun hroute v hv => ?_
  · exact {
      allows := fun key _ => ⟨trivial, fun _ _ => trivial, fun _ _ _ _ ht _ => hopen ht⟩
      unknown := fun key _ old new _ _ hs => hopen (by rw [hs]; rfl)
      attested := fun _ _ _ _ _ _ _ _ _ => trivial
      applied := fun _ _ _ _ _ _ _ _ _ _ _ => trivial }
  · exact {
      idle := trivial
      accept := fun _ _ => trivial
      opens := fun _ _ _ ht => hopen ht
      completes := fun old _ _ hfor =>
        ⟨fun _ => ⟨hroute, v, hv, hfor⟩, hroute, v, hv, hfor⟩ }

end Agent

end Ocservia
