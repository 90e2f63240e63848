import Mathlib.Data.UInt
import Ocservia.Agent.Synthetic

/-!
# The journal invariant

The invariant of the journal under deliveries and crashes (`agentSystem`) has three parts:
`UniqueIds`, `Keeps` and `Attested`. The first two follow from what a single write can do
(`JournalWrite.Effect`). The third needs the routing, and that SHA-256 does not collide on the
transcripts of the delivered envelopes (`CollisionFree`): a record belongs to a command by its
payload hash, and a transcript determines the payload kind, hence the route.
-/

namespace Ocservia

open Durable Journal List Agent KeyedTable

/-! ## Identities -/

/-- Two records with one command id are records of one key. -/
def Journal.UniqueIds (j : Journal) : Prop :=
  ∀ k k' r r', j.command k = some r → j.command k' = some r' → r.commandId = r'.commandId → k = k'

variable {j j' : Journal} {w : JournalWrite}

theorem Journal.commandById_ne {id : Uuid} (h : j.commandById id = none)
    (hr : j.command k = some r) : r.commandId ≠ id := by
  intro hid
  have hmem : r ∈ j.commands.rows := mem_of_get? hr
  have hno := find?_eq_none.1 h r hmem
  simp [hid] at hno

/-- With unique ids, the record of a key is also the one found by its command id. -/
theorem Journal.UniqueIds.commandById (hu : j.UniqueIds) (hr : j.command k = some r) :
    j.commandById r.commandId = some r := by
  cases hf : j.commandById r.commandId with
  | none => exact absurd rfl (commandById_ne hf hr)
  | some r' =>
    have hmem : r' ∈ j.commands := mem_of_find?_eq_some hf
    have hid : r'.commandId = r.commandId := by simpa using find?_some hf
    have hr' : j.command r'.idempotencyKey = some r' := get?_of_mem hmem
    have hk : r'.idempotencyKey = k := hu _ _ r' r hr' hr hid
    rw [hk, hr] at hr'
    exact hr'.symm

/-- An insertion or a rewrite keeps command ids unique. -/
theorem JournalWrite.Effect.uniqueIds (h : w.Effect j j') (hu : j.UniqueIds) : j'.UniqueIds := by
  rcases h.records with rfl | ⟨a, -, -, hid, -, -, hc⟩ | ⟨old, new, hw, -, -⟩
  · exact hu
  · -- the id of the inserted record was not there
    intro k k' r r' hr hr' heq
    rw [hc] at hr hr'
    split at hr
    · rename_i hk
      split at hr'
      · rename_i hk'
        rw [hk, hk']
      · obtain rfl : a = r := by simpa using hr
        exact absurd heq.symm (commandById_ne hid hr')
    · split at hr'
      · obtain rfl : a = r' := by simpa using hr'
        exact absurd heq (commandById_ne hid hr)
      · exact hu k k' r r' hr hr' heq
  · -- every record after the rewrite stands for the one with its key and its id before
    have before : ∀ k r, j'.command k = some r →
        ∃ r₀, j.command k = some r₀ ∧ r₀.commandId = r.commandId := by
      intro k r hr
      rw [hw.command] at hr
      split at hr
      · rename_i hk
        obtain rfl : new = r := by simpa using hr
        exact ⟨old, by rw [hk]; exact hw.found, hw.same.commandId.symm⟩
      · exact ⟨r, hr, rfl⟩
    intro k k' r r' hr hr' heq
    obtain ⟨r₀, hr₀, hid⟩ := before k r hr
    obtain ⟨r₀', hr₀', hid'⟩ := before k' r' hr'
    exact hu k k' r₀ r₀' hr₀ hr₀' (by rw [hid, hid', heq])

/-! ## What survives -/

/-- Every record of `j` keeps its identity in `j'`, and a terminal one is the same record. -/
def Keeps (j j' : Journal) : Prop :=
  ∀ k r, j.command k = some r →
    ∃ r', j'.command k = some r' ∧ SameIdentity r r' ∧ (r.state.terminal = true → r' = r)

theorem Keeps.refl (j : Journal) : Keeps j j :=
  fun _ r hr => ⟨r, hr, ⟨rfl, rfl, rfl, rfl, rfl⟩, fun _ => rfl⟩

theorem Keeps.trans (h : Keeps j₁ j₂) (h' : Keeps j₂ j₃) : Keeps j₁ j₃ := by
  intro k r hr
  obtain ⟨r₂, hr₂, hs₂, ht₂⟩ := h k r hr
  obtain ⟨r₃, hr₃, hs₃, ht₃⟩ := h' k r₂ hr₂
  refine ⟨r₃, hr₃, ?_, fun ht => ?_⟩
  · exact ⟨hs₃.key.trans hs₂.key, hs₃.commandId.trans hs₂.commandId,
      hs₃.payloadSha256.trans hs₂.payloadSha256,
      hs₃.payloadHashVersion.trans hs₂.payloadHashVersion, hs₃.acceptedAt.trans hs₂.acceptedAt⟩
  · have h2 : r₂ = r := ht₂ ht
    subst h2
    exact ht₃ ht

theorem JournalWrite.Effect.keeps (h : w.Effect j j') : Keeps j j' := fun _ _ hr => h.record_kept hr

/-! ## Proofs -/

section
variable (P : Platform) (E : Set CommandEnvelope)

/-- The transcripts of two envelopes collide under SHA-256. -/
def Collide (e e' : CommandEnvelope) (version : SemanticPayloadHashVersion) : Prop :=
  match semanticPreimage P e version, semanticPreimage P e' version with
  | .ok b, .ok b' => P.sha256 b = P.sha256 b' ∧ b ≠ b'
  | _, _ => False

instance (e e' : CommandEnvelope) (version : SemanticPayloadHashVersion) :
    Decidable (Collide P e e' version) := by
  unfold Collide
  split <;> infer_instance

/-- No two envelopes of `E` have colliding transcripts. -/
def CollisionFree : Prop := ∀ e ∈ E, ∀ e' ∈ E, ∀ version, ¬ Collide P e e' version

/-- The record belongs to an envelope of `E` that is routed to `execute_external_command`. -/
def ExternalRecord (r : CommandRecord) : Prop :=
  ∃ e ∈ E, Agent.routesExternal e = true ∧
    ∃ c v, Validated P e c v ∧ Agent.RecordFor v r

/-- External records are terminal exactly when they carry a proof; no other open record has one. -/
structure Attested (j : Journal) : Prop where
  terminal_of_proof : ∀ k r, j.command k = some r → r.privilegedResultProof.isSome →
    r.state.terminal = true
  proof_of_terminal : ∀ k r, j.command k = some r → ExternalRecord P E r →
    r.state.terminal = true → r.privilegedResultProof.isSome

end

/-- The payload kind decides the route. -/
theorem Agent.routesExternal_kind (h : e.payload = some p) :
    Agent.routesExternal e = !decide (106 ≤ p.kind ∧ p.kind ≤ 108) := by
  unfold routesExternal
  rw [h]
  cases p <;> rfl

/-- **A record belongs to commands of one route**, in a collision-free set of envelopes. -/
theorem CollisionFree.route_eq (hE : CollisionFree P E) (he : e ∈ E) (he' : e' ∈ E)
    (hv : Validated P e c v) (hv' : Validated P e' c' v') (hr : Agent.RecordFor v r)
    (hr' : Agent.RecordFor v' r) : Agent.routesExternal e = Agent.routesExternal e' := by
  have hver : v'.hashVersion = v.hashVersion := by
    have hcode := hr'.payloadHashVersion.symm.trans hr.payloadHashVersion
    revert hcode
    cases v'.hashVersion <;> cases v.hashVersion <;> decide
  obtain ⟨b, hb, hsha⟩ := Except.map_eq_ok_iff.1 hv.hash
  have hh' := hv'.hash
  rw [hver] at hh'
  obtain ⟨b', hb', hsha'⟩ := Except.map_eq_ok_iff.1 hh'
  have hsame : P.sha256 b = P.sha256 b' := by
    rw [hsha, hsha', ← hr.payloadSha256, ← hr'.payloadSha256]
  -- equal digests of one version come from one transcript
  have hbb : b = b' := by
    by_contra hne
    refine hE e he e' he' v.hashVersion ?_
    unfold Collide
    rw [hb, hb']
    exact ⟨hsame, hne⟩
  subst hbb
  obtain ⟨p, hp, -⟩ := hv.payload
  obtain ⟨p', hp', -⟩ := hv'.payload
  have hlen : e.nodeId.length = e'.nodeId.length := by
    rw [hv.nodeId, hv'.nodeId, c.nodeId.2, c'.nodeId.2]
  have hkind : p.kind = p'.kind := semanticPreimage_kind P hb hb' hlen hp hp'
  rw [routesExternal_kind hp, routesExternal_kind hp', hkind]

/-- No record of an external command is one that `deliver` may complete. -/
theorem CollisionFree.not_delivered (hE : CollisionFree P E) (he : e ∈ E)
    (hr : ExternalRecord P E r) : ¬ Agent.DeliveredRecord P e c r := by
  rintro ⟨hroute, v, hv, hfor⟩
  obtain ⟨e', he', hroute', c', v', hv', hfor'⟩ := hr
  have := hE.route_eq he he' hv hv' hfor hfor'
  rw [hroute, hroute'] at this
  cases this

theorem ExternalRecord.of_same (hs : SameIdentity old new) (h : ExternalRecord P E new) :
    ExternalRecord P E old := by
  obtain ⟨e, he, hroute, c, v, hv, hfor⟩ := h
  exact ⟨e, he, hroute, c, v, hv, hs.commandId.symm.trans hfor.commandId,
    hs.payloadSha256.symm.trans hfor.payloadSha256,
    hs.payloadHashVersion.symm.trans hfor.payloadHashVersion⟩

/-- `Attested` after a rewrite, from what holds of the new record. -/
theorem Attested.rewrite (h : Attested P E j) (hw : Rewrites j j' old new)
    (h1 : new.privilegedResultProof.isSome → new.state.terminal = true)
    (h2 : ExternalRecord P E old → new.state.terminal = true → new.privilegedResultProof.isSome) :
    Attested P E j' := by
  constructor
  · intro k r hr hp
    rw [hw.command] at hr
    split at hr
    · obtain rfl : new = r := by simpa using hr
      exact h1 hp
    · exact h.terminal_of_proof k r hr hp
  · intro k r hr hx ht
    rw [hw.command] at hr
    split at hr
    · obtain rfl : new = r := by simpa using hr
      exact h2 (hx.of_same hw.same) ht
    · exact h.proof_of_terminal k r hr hx ht

/-- A write that completes no external record without a proof keeps them attested. -/
theorem JournalWrite.Effect.attested_of (h : w.Effect j j') (hw : w.completesOnly R)
    (hR : ∀ r, ExternalRecord P E r → ¬ R r) (ha : Attested P E j) : Attested P E j' := by
  -- an open record carries no proof
  have hopen : ∀ {old new : CommandRecord}, Rewrites j j' old new → old.state.terminal = false →
      new.privilegedResultProof = old.privilegedResultProof →
      ¬ new.privilegedResultProof.isSome := by
    intro old new hrw ho hp hsome
    rw [hp] at hsome
    have := ha.terminal_of_proof _ old hrw.found hsome
    cases ho.symm.trans this
  cases h with
  | idle => exact ha
  | @accept _ a hk hid hf =>
    have hc : ∀ k, Journal.command { j with commands := j.commands.insert a hk } k =
        if k = a.idempotencyKey then some a else j.command k :=
      fun k => get?_insert j.commands a hk k
    constructor
    · intro k r hr hp
      rw [hc] at hr
      split at hr
      · obtain rfl : a = r := by simpa using hr
        rw [hf.proof] at hp
        cases hp
      · exact ha.terminal_of_proof k r hr hp
    · intro k r hr hx ht
      rw [hc] at hr
      split at hr
      · obtain rfl : a = r := by simpa using hr
        rw [hf.state] at ht
        cases ht
      · exact ha.proof_of_terminal k r hr hx ht
  | transition hrw ho hp =>
    exact ha.rewrite hrw (fun hsome => absurd hsome (hopen hrw ho hp))
      (fun hx ht => absurd (hw ht) (hR _ hx))
  | attested hrw ho ht hp => exact ha.rewrite hrw (fun _ => ht) (fun _ _ => hp)
  | applied hrw ho ht hp => exact ha.rewrite hrw (fun _ => by rw [ht]; rfl) (fun _ _ => hp)
  | synthetic hrw ho ht hp =>
    exact ha.rewrite hrw (fun _ => by rw [ht]; rfl) (fun hx _ => absurd hw (hR _ hx))

/-! ## Runs -/

/-- What every write of a delivery keeps, the delivery keeps. -/
theorem agentSystem_step_invariant (I : Journal → Prop) (h : (agentSystem P E).step j ℓ j')
    (hI : ∀ w s s', w.completesOnly (Agent.DeliveredRecord P ℓ.envelope ℓ.context) →
      JournalWrite.Effect w s s' → I s → I s') (hj : I j) : I j' := by
  obtain ⟨-, hexec, rfl⟩ := h
  refine (handleCommand_completesOnly.exec trivial hexec).invariant I ?_ hj _ getLastD_mem_cons
  rintro s s' ⟨w, hw, he⟩ hs
  exact hI w s s' hw he hs

theorem agentSystem_uniqueIds (h : (agentSystem P E).Reachable j) : j.UniqueIds := by
  refine h.invariant Journal.UniqueIds ?_ ?_
  · rintro j rfl k k' r r' hr
    cases hr
  · rintro j ℓ j' - hu hs
    exact agentSystem_step_invariant Journal.UniqueIds hs (fun w s s' _ he hu => he.uniqueIds hu) hu

theorem agentSystem_attested (hE : CollisionFree P E) (h : (agentSystem P E).Reachable j) :
    Attested P E j := by
  refine h.invariant (Attested P E) ?_ ?_
  · rintro j rfl
    constructor
    iterate 2
      intro k r hr
      cases hr
  · rintro j ℓ j' - ha hs
    refine agentSystem_step_invariant (Attested P E) hs (fun w s s' hw he ha => ?_) ha
    exact he.attested_of hw (fun r hx => hE.not_delivered hs.1 hx) ha

theorem agentSystem_keeps (h : (agentSystem P E).Steps j t j') : Keeps j j' := by
  refine h.related Keeps.refl Keeps.trans fun s a s' hs => ?_
  exact agentSystem_step_invariant (Keeps s) hs (fun w s₁ s₂ _ he hk => hk.trans he.keeps)
    (Keeps.refl s)

/-- **The Agent journal invariant.** In every reachable journal two records have one idempotency key
exactly when they have one command id; whatever follows, a record keeps its hash and its acceptance
time, and a terminal record stays as it is; and a record of an external command is terminal exactly
when it carries a proof. -/
theorem journal_invariant (P : Platform) (E : Set CommandEnvelope) (hE : CollisionFree P E)
    {j : Journal} (hj : (agentSystem P E).Reachable j) :
    (∀ r ∈ j.commands, ∀ r' ∈ j.commands,
      r.idempotencyKey = r'.idempotencyKey ↔ r.commandId = r'.commandId) ∧
    (∀ t j', (agentSystem P E).Steps j t j' → Keeps j j') ∧
    ∀ r ∈ j.commands, ExternalRecord P E r →
      (r.state.terminal = true ↔ r.privilegedResultProof.isSome) := by
  have hu := agentSystem_uniqueIds hj
  have ha := agentSystem_attested hE hj
  refine ⟨fun r hr r' hr' => ⟨fun hk => ?_, fun hid => ?_⟩, fun t j' => agentSystem_keeps,
    fun r hr hx => ⟨fun ht => ?_, fun hp => ?_⟩⟩
  · rw [eq_of_key hr hr' hk]
  · exact hu _ _ r r' (get?_of_mem hr) (get?_of_mem hr') hid
  · exact ha.proof_of_terminal _ r (get?_of_mem hr) hx ht
  · exact ha.terminal_of_proof _ r (get?_of_mem hr) hp

/-! ## A journal with both kinds of records -/

/-- A sample platform whose digest tells the sample transcripts apart. -/
def summingPlatform : Platform :=
  { samplePlatform with sha256 := fun b => ⟨List.replicate 32 b.sum, by simp⟩ }

/-- The envelope with the digest of its transcript. -/
def withHash (P : Platform) (e : CommandEnvelope) : CommandEnvelope :=
  { e with semanticPayloadSha256 := ((semanticPayloadHash P e .v2).toOption.map (·.1)).getD [] }

def hashedDisable : CommandEnvelope := withHash summingPlatform (sampleDisable .executeOrReplay 1)

/-- A sample synthetic envelope with another identity. -/
def hashedNoop : CommandEnvelope :=
  withHash summingPlatform
    { sampleEnvelope .executeOrReplay .syntheticNoop "operation.create" "synthetic.noop" with
      commandId := (sampleUuid 5).1
      idempotencyKey := (sampleUuid 6).1
      operationId := (sampleUuid 6).1 }

/-- The answers of a privd that applied the mutation. -/
def appliedAnswers : PrivdAnswers := ⟨some (sampleApplied 200), none, .unknown⟩

/-- The journal after both sample commands were delivered. -/
def mixedJournal : Journal :=
  let j :=
    (Agent.handleCommand summingPlatform hashedDisable (sampleContext 200) appliedAnswers).final
    Journal.fresh
  (Agent.handleCommand summingPlatform hashedNoop (sampleContext 300) appliedAnswers).final j

theorem collisionFree_mixed : CollisionFree summingPlatform {hashedDisable, hashedNoop} := by
  rintro e (rfl | rfl) e' (rfl | rfl) version <;> cases version <;> decide +kernel

theorem mixedJournal_reachable :
    (agentSystem summingPlatform {hashedDisable, hashedNoop}).Reachable mixedJournal := by
  have h0 : (agentSystem summingPlatform {hashedDisable, hashedNoop}).Reachable Journal.fresh :=
    .start rfl
  have h1 := h0.snoc (completedDelivery_step summingPlatform hashedDisable (sampleContext 200)
    appliedAnswers _ (.inl rfl))
  exact h1.snoc (completedDelivery_step summingPlatform hashedNoop (sampleContext 300)
    appliedAnswers _ (.inr rfl))

/-- Both commands succeeded, only the external one with a proof. -/
theorem journal_invariant_mixed :
    mixedJournal.commands.rows.map (fun r => (r.state, r.privilegedResultProof.isSome)) =
      [(.succeeded, true), (.succeeded, false)] ∧
    ∀ r ∈ mixedJournal.commands,
      ExternalRecord summingPlatform {hashedDisable, hashedNoop} r →
      (r.state.terminal = true ↔ r.privilegedResultProof.isSome) :=
  ⟨by decide +kernel,
    (journal_invariant summingPlatform _ collisionFree_mixed mixedJournal_reachable).2.2⟩

end Ocservia
