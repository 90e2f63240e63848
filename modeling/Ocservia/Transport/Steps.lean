import Ocservia.Transport.Service

/-!
# What a piece of a task can do

Every result about the runs of transportd rests on one case analysis of its pieces. A piece changes
the policy, the sessions and the owner fences in one of five ways (`Change`), and it takes and gives
back the lock of the sessions in an orderly way (`LockStep`). `act_spec` is that analysis, and
`lock_held` its first consequence: a task in a phase that holds the lock holds it, so that no two
tasks are in such a phase.
-/

namespace Ocservia.Transport

open Tasks Checked Option Prod

/-! ## The changes -/

/-- The node and the fence that the next piece of a task decides about. -/
def Task.registering : Task → Option (Bytes × RegisteredFence)
  | .accept _ (.admitted session _) => session.fence.map fun fence => (session.nodeId, fence)
  | .registerFence fence (.deciding registered) => some (fence.nodeId, registered)
  | _ => none

/-- What a piece of the task does to the policy, the sessions and the fences. -/
inductive Change (s : Shared) : Task → Shared → Prop where
  | keeps {t : Task} {s' : Shared} : s'.policy = s.policy → s'.connections = s.connections →
      s'.fences = s.fences → Change s t s'
  /-- A trust update changes the policy. -/
  | updates {call : TrustCall} {previous : UInt64} {s' : Shared} :
      s'.policy =
        (s.policy.update call.endpoint call.nodeId.1 call.state call.request.revision).2 →
      s'.connections = s.connections → s'.fences = s.fences →
      Change s (.trust call (.read previous)) s'
  /-- The fence of the task is recorded over one that does not outrank it. -/
  | records {t : Task} {s' : Shared} {nodeId : Bytes} {fence : RegisteredFence} :
      s'.policy = s.policy → s'.connections = s.connections →
      s'.fences = s.fences.insert nodeId fence →
      (fenceRegistrationDecision (s.fences.lookup nodeId) fence).records = true →
      t.registering = some (nodeId, fence) → Change s t s'
  /-- A session that passed every check is registered. -/
  | registers {incoming : Incoming} {session : NegotiatedSession} {token : Nat} {s' : Shared} :
      s'.policy = s.policy →
      s'.connections = s.connections.insert session.nodeId
        (session.entry incoming.connection incoming.remote) →
      s'.fences = s.fences → Change s (.accept incoming (.fenced session token)) s'
  | removes {t : Task} {s' : Shared} : s'.policy = s.policy →
      (∀ node entry, s'.connections.lookup node = some entry →
        s.connections.lookup node = some entry) →
      s'.fences = s.fences → Change s t s'

/-- The task is in a phase that holds the lock of the sessions. -/
def Task.holds : Task → Bool
  | .accept _ (.locked _ _) | .accept _ (.unrevoked _ _) | .accept _ (.admitted _ _)
  | .accept _ (.fenced _ _) | .accept _ (.registered _ _) | .accept _ (.finishing _ _)
  | .trust _ (.closing _ .publishing) | .registerFence _ (.removing _ .publishing)
  | .close _ (.removing .publishing) => true
  | _ => false

/-- A piece leads to a phase that holds the lock only with the lock, and takes it only when free. -/
structure LockStep (s : Shared) (id : Nat) (s' : Shared) (t' : Option Task) : Prop where
  holds : ∀ u ∈ t', u.holds = true → s'.registryLock = some id
  moved : s'.registryLock = s.registryLock ∨ s.registryLock = none ∨ s.registryLock = some id

/-- The session that the handler of a connection has negotiated. -/
def AcceptPhase.session : AcceptPhase → Option NegotiatedSession
  | .connecting | .negotiating => none
  | .negotiated session | .rechecking session _ | .waiting session _ | .locked session _
  | .unrevoked session _ | .admitted session _ | .fenced session _ | .registered session _
  | .live session _ | .finishing session _ => some session

/-- The handler found its endpoint not revoked, and has yet to register the session. -/
def AcceptPhase.passed : AcceptPhase → Bool
  | .unrevoked _ _ | .admitted _ _ | .fenced _ _ => true
  | _ => false

/-- The task registers a fence, closes a node or shuts down. -/
def Task.plain : Task → Bool
  | .registerFence _ _ | .close _ _ | .shutdown => true
  | _ => false

/-- A piece of a task leads to a later phase of it. -/
inductive Follows (host : Host) (s : Shared) : Task → Task → Prop where
  /-- A session is of the handshake's node, and passes only while its endpoint is not revoked. -/
  | accept {incoming : Incoming} {phase phase' : AcceptPhase} :
      (∀ x ∈ phase'.session, x ∈ phase.session ∨ x.nodeId = incoming.handshake.nodeId) →
      (phase'.passed = true →
        phase.passed = true ∨ s.policy.isRevoked incoming.remote = false) →
      Follows host s (.accept incoming phase) (.accept incoming phase')
  | trust {call : TrustCall} {phase phase' : TrustPhase} :
      Follows host s (.trust call phase) (.trust call phase')
  | dispatch {nodeId : Bytes} {command : StoredEnvelope} {length : Nat}
      {phase phase' : DispatchPhase} :
      Follows host s (.dispatch nodeId command length phase)
        (.dispatch nodeId command length phase')
  | artifact {request : ArtifactRequest} {call : ArtifactCall} {phase phase' : ArtifactPhase} :
      Follows host s (.artifact request call phase) (.artifact request call phase')
  | plain {t u : Task} : t.plain = true → u.plain = true → Follows host s t u

/-- What a piece does. -/
structure PieceSpec (host : Host) (s : Shared) (id : Nat) (t : Task) (s' : Shared)
    (t' : Option Task) : Prop where
  change : Change s t s'
  lock : LockStep s id s' t'
  follows : ∀ u ∈ t', Follows host s t u

/-! ## The events -/

/-- The event says nothing of an admission, a trust update or a dispatch. -/
def Event.quiet : Event → Bool
  | .admitted _ | .trustReturned _ _ | .dispatched _ _ _ => false
  | _ => true

/-- The event of a piece, with the check it rests on. -/
inductive Emits (host : Host) (s : Shared) (input : Input) : Task → Event → Prop where
  | quiet {t : Task} {e : Event} : e.quiet = true → Emits host s input t e
  | trustAdmitted {call : TrustCall} {result : Option RegisteredFence} :
      verifyOperationBinding host (s.fences.lookup call.nodeId.1) call.nodeId
        (some call.endpoint) none call.request.fenceBinding .stateUpdate call.request.operationId
        input.clock = .ok result →
      Emits host s input (.trust call .binding) (.admitted
        ⟨call.nodeId, .stateUpdate, call.request.operationId, call.request.fenceBinding⟩)
  | trustReturned {call : TrustCall} {response : TrustResponse} :
      Emits host s input (.trust call (.returning response)) (.trustReturned call response)
  | closeAdmitted {call : CloseCall} {result : Option RegisteredFence} :
      verifyOperationBinding host (s.fences.lookup call.nodeId.1) call.nodeId none none
        call.fenceBinding .connectionClose call.nodeId.1 input.clock = .ok result →
      Emits host s input (.close call .binding) (.admitted
        ⟨call.nodeId, .connectionClose, call.nodeId.1, call.fenceBinding⟩)
  | artifactAdmitted {request : ArtifactRequest} {call : ArtifactCall}
      {session : RegisteredConnection} {result : Option RegisteredFence} :
      verifyOperationBinding host (s.fences.lookup call.nodeId.1) call.nodeId
        (some session.endpointId) session.fence call.fenceBinding .artifact call.operationId
        input.clock = .ok result →
      Emits host s input (.artifact request call (.binding session)) (.admitted
        ⟨call.nodeId, .artifact, call.operationId, call.fenceBinding⟩)
  | dispatchedBare {nodeId : Bytes} {command : StoredEnvelope} {length : Nat}
      {session : RegisteredConnection} : s.fences.lookup nodeId = none →
      Emits host s input (.dispatch nodeId command length (.bare session))
        (.dispatched nodeId command session.connection)
  | dispatchedFenced {nodeId : Bytes} {command : StoredEnvelope} {length : Nat}
      {session : RegisteredConnection} {fence : RegisteredFence}
      {verified : VerifiedConnectionFenceV2} {claims : FenceBindingClaimsV2} {clock : Clock}
      {u : Unit} : checkCommandTerm (s.fences.lookup nodeId) fence verified claims = .ok u →
      Emits host s input
        (.dispatch nodeId command length (.fenced session fence verified claims clock))
        (.dispatched nodeId command session.connection)

/-- What a piece does, with its event. -/
structure ActSpec (host : Host) (s : Shared) (id : Nat) (t : Task) (input : Input) (s' : Shared)
    (t' : Option Task) (e : Event) : Prop extends PieceSpec host s id t s' t' where
  emits : Emits host s input t e

variable {s s' : Shared} {id : Nat} {t : Task} {e : Event}

theorem Change.refl : Change s t s := .keeps rfl rfl rfl

variable {P : Task → Prop}

/-- Nothing is left to say of a task that has ended. -/
theorem of_ended : ∀ u ∈ (none : Option Task), P u := by
  intro u hu
  cases hu

theorem of_moved (h : P u) : ∀ v ∈ some u, P v := by
  intro v hv
  cases hv
  exact h

theorem LockStep.ended (h : s'.registryLock = s.registryLock) : LockStep s id s' none :=
  ⟨of_ended, .inl h⟩

theorem LockStep.idle (hu : u.holds = false) (h : s'.registryLock = s.registryLock) :
    LockStep s id s' (some u) := by
  refine ⟨of_moved fun hholds => ?_, .inl h⟩
  cases hu.symm.trans hholds

theorem LockStep.taken (hfree : s.registryLock = none) (h : s'.registryLock = some id) :
    LockStep s id s' (some u) :=
  ⟨fun _ _ _ => h, .inr (.inl hfree)⟩

theorem LockStep.kept (hheld : s.registryLock = some id) (h : s'.registryLock = s.registryLock) :
    LockStep s id s' (some u) :=
  ⟨fun _ _ _ => h.trans hheld, .inl h⟩

theorem LockStep.given (hheld : s.registryLock = some id) (ht' : ∀ u ∈ t', u.holds = false) :
    LockStep s id s' t' := by
  refine ⟨fun u hu hholds => ?_, .inr (.inr hheld)⟩
  rw [ht' u hu] at hholds
  cases hholds

/-- A piece of a handler that neither negotiates the session nor passes the check of the policy. -/
theorem Follows.same (hsession : ∀ {x}, x ∈ phase'.session →
      x ∈ phase.session ∨ x.nodeId = incoming.handshake.nodeId) (hpassed : phase'.passed = false) :
    Follows host s (.accept incoming phase) (.accept incoming phase') := by
  refine .accept (fun _ => hsession) fun h => ?_
  cases hpassed.symm.trans h

theorem moves_eq (h : moves s u = some (s', t', e)) : s' = s ∧ t' = some u := by
  cases h
  exact ⟨rfl, rfl⟩

theorem ends_eq (h : some (s₁, (none : Option Task), e₁) = some (s', t', e)) :
    s' = s₁ ∧ t' = none := by
  cases h
  exact ⟨rfl, rfl⟩

theorem ActSpec.leads (h : moves s₁ u = some (s', t', e)) (hchange : Change s t s₁)
    (hlock : LockStep s id s₁ (some u)) (hfollows : Follows host s t u) :
    ActSpec host s id t input s' t' e := by
  cases h
  exact ⟨⟨hchange, hlock, of_moved hfollows⟩, .quiet rfl⟩

/-- A piece that only goes on to the next phase. -/
theorem ActSpec.goes (h : moves s u = some (s', t', e)) (hu : u.holds = false)
    (hfollows : Follows host s t u) : ActSpec host s id t input s' t' e :=
  .leads h .refl (.idle hu rfl) hfollows

theorem ActSpec.ends (h : some (s₁, (none : Option Task), e₁) = some (s', t', e))
    (hchange : Change s t s₁) (hlock : LockStep s id s₁ none) (hemits : Emits host s input t e₁) :
    ActSpec host s id t input s' t' e := by
  cases h
  exact ⟨⟨hchange, hlock, of_ended⟩, hemits⟩

/-- A piece that only ends its task. -/
theorem ActSpec.stops (h : some (s, (none : Option Task), e₁) = some (s', t', e))
    (hemits : Emits host s input t e₁) : ActSpec host s id t input s' t' e :=
  .ends h .refl (.ended rfl) hemits

theorem ActSpec.fails (h : fails s status = some (s', t', e)) : ActSpec host s id t input s' t' e :=
  .stops h (.quiet rfl)

theorem release_lock (s : Shared) (id : Nat) :
    (s.release id).registryLock = s.registryLock ∨ s.registryLock = some id := by
  unfold Shared.release
  split
  · rename_i h
    exact .inr h
  · exact .inl rfl

theorem release_keeps (s : Shared) (id : Nat) :
    (s.release id).policy = s.policy ∧ (s.release id).connections = s.connections ∧
      (s.release id).fences = s.fences := by
  unfold Shared.release
  split <;> exact ⟨rfl, rfl, rfl⟩

theorem ActSpec.rejects (h : rejects s id message = some (s', t', e)) :
    ActSpec host s id t input s' t' e := by
  obtain ⟨hp, hc, hf⟩ := release_keeps s id
  refine .ends h (.keeps hp hc hf) ⟨of_ended, ?_⟩ (.quiet rfl)
  rcases release_lock s id with hlock | hlock
  · exact .inl hlock
  · exact .inr (.inr hlock)

theorem token_keeps (s : Shared) (live : Nat → Bool) (node : Bytes) :
    (s.registrationToken live node).2.policy = s.policy ∧
      (s.registrationToken live node).2.connections = s.connections ∧
      (s.registrationToken live node).2.fences = s.fences ∧
      (s.registrationToken live node).2.registryLock = s.registryLock := by
  unfold Shared.registrationToken
  dsimp only
  split <;> exact ⟨rfl, rfl, rfl, rfl⟩

theorem unregister_shrinks (s : Shared) (node : Bytes)
    (h : (s.unregister node).connections.lookup n = some entry) :
    s.connections.lookup n = some entry := by
  unfold Shared.unregister at h
  by_cases hn : n = node
  · subst hn
    simp at h
  · rwa [AList.lookup_erase_ne hn] at h

/-! ## The pieces -/

/-- The pieces of a removal. -/
theorem removeAct_spec (task : RemovePhase → Task)
    (htask : ∀ phase, (task phase).holds = true ↔ phase = .publishing)
    (hdone : ∀ {s₁ s' t' e}, done s₁ = some (s', t', e) → s' = s₁ ∧ e.quiet = true ∧
      ∀ u ∈ t', u.holds = false ∧ Follows host s (task phase) u)
    (hheld : phase = .publishing → s.registryLock = some id)
    (hnext : ∀ phase', Follows host s (task phase) (task phase'))
    (h : removeAct s id node task done phase = some (s', t', e)) :
    ActSpec host s id (task phase) input s' t' e := by
  cases phase with
  | token =>
    refine .leads h (.keeps rfl rfl rfl) (.idle ?_ rfl) (hnext _)
    rw [← Bool.not_eq_true, htask]
    intro hphase
    cases hphase
  | registry =>
    obtain ⟨hfree, h⟩ := whenFree_eq_some h
    split at h
    · obtain ⟨rfl, he, hu⟩ := hdone h
      refine ⟨⟨.refl, ⟨fun u hmem hholds => ?_, .inl rfl⟩, fun u hmem => (hu u hmem).2⟩, .quiet he⟩
      rw [(hu u hmem).1] at hholds
      cases hholds
    · exact .leads h (.removes rfl (fun _ _ => unregister_shrinks s node) rfl) (.taken hfree rfl)
        (hnext _)
  | publishing =>
    obtain ⟨rfl, he, hu⟩ := hdone h
    exact ⟨⟨.keeps rfl rfl rfl, .given (hheld rfl) fun u hmem => (hu u hmem).1,
      fun u hmem => (hu u hmem).2⟩, .quiet he⟩

/-- A session is negotiated for the node of the handshake. -/
theorem negotiate_node
    (h : negotiate host policy handshake remote answer clock = .ok (some session)) :
    session.nodeId = handshake.nodeId := by
  unfold negotiate at h
  iterate 2 obtain ⟨_, h⟩ := of_bind h
  split at h
  · cases h
  iterate 5 obtain ⟨_, h⟩ := of_bind h
  cases h
  rfl

/-- The pieces of the handler of a connection. -/
theorem acceptAct_spec
    (hheld : (Task.accept incoming phase).holds = true → p.shared.registryLock = some id)
    (h : acceptAct host p id incoming phase input = some (s', t', e)) :
    ActSpec host p.shared id (.accept incoming phase) input s' t' e := by
  cases phase with
  | connecting =>
    simp only [acceptAct] at h
    split at h
    · exact .rejects h
    · exact .goes h rfl (.same .inl rfl)
  | negotiating =>
    simp only [acceptAct] at h
    split at h
    · exact .rejects h
    · exact .stops h (.quiet rfl)
    rename_i session hsession
    refine .goes h rfl (.same (fun hx => .inr ?_) rfl)
    cases hx
    exact negotiate_node hsession
  | negotiated session =>
    obtain ⟨hp, hc, hf, hl⟩ := token_keeps p.shared _ session.nodeId
    exact .leads h (.keeps hp hc hf) (.idle rfl hl) (.same .inl rfl)
  | rechecking session token =>
    simp only [acceptAct] at h
    split at h
    · split at h
      · exact .goes h rfl (.same .inl rfl)
      iterate 2 exact .rejects h
    · exact .goes h rfl (.same .inl rfl)
  | waiting session token =>
    obtain ⟨hfree, h⟩ := whenFree_eq_some h
    exact .leads h (.keeps rfl rfl rfl) (.taken hfree rfl) (.same .inl rfl)
  | locked session token =>
    simp only [acceptAct] at h
    split at h
    · exact .rejects h
    rename_i hrevoked
    exact .leads h .refl (.kept (hheld rfl) rfl)
      (.accept (fun _ => .inl) fun _ => .inr (Bool.eq_false_iff.2 hrevoked))
  | unrevoked session token =>
    simp only [acceptAct] at h
    obtain ⟨hp, hc, hf, hl⟩ := token_keeps p.shared
      (fun token => p.any fun task => task.token == some token) session.nodeId
    split at h
    · exact .leads h (.keeps hp hc hf) (.kept (hheld rfl) hl) (.accept (fun _ => .inl) .inl)
    obtain ⟨hp', hc', hf'⟩ := release_keeps (p.shared.registrationToken
      (fun token => p.any fun task => task.token == some token) session.nodeId).2 id
    exact .ends h (.keeps (hp'.trans hp) (hc'.trans hc) (hf'.trans hf))
      (.given (hheld rfl) of_ended) (.quiet rfl)
  | admitted session token =>
    simp only [acceptAct] at h
    split at h
    · exact .leads h .refl (.kept (hheld rfl) rfl) (.accept (fun _ => .inl) .inl)
    rename_i fence hfence
    split at h
    iterate 2 exact .rejects h
    all_goals
      rename_i hdecision
      refine .leads h (.records rfl rfl rfl (by rw [hdecision]; rfl) ?_) (.kept (hheld rfl) rfl)
        (.accept (fun _ => .inl) .inl)
      rw [Task.registering, hfence]
      rfl
  | fenced session token =>
    exact .leads h (.registers rfl rfl rfl) (.kept (hheld rfl) rfl) (.same .inl rfl)
  | registered session token =>
    exact .leads h (.keeps rfl rfl rfl) (.given (hheld rfl) (of_moved rfl)) (.same .inl rfl)
  | live session token =>
    obtain ⟨hfree, h⟩ := whenFree_eq_some h
    split at h
    · exact .stops h (.quiet rfl)
    split at h
    · exact .leads h (.removes rfl (fun _ _ => unregister_shrinks p.shared session.nodeId) rfl)
        (.taken hfree rfl) (.same .inl rfl)
    · exact .stops h (.quiet rfl)
  | finishing session token =>
    exact .ends h (.keeps rfl rfl rfl) (.given (hheld rfl) of_ended) (.quiet rfl)

/-- The pieces of a trust update. -/
theorem trustAct_spec (hheld : (Task.trust call phase).holds = true → s.registryLock = some id)
    (h : trustAct host s id call phase input = some (s', t', e)) :
    ActSpec host s id (.trust call phase) input s' t' e := by
  cases phase with
  | binding =>
    simp only [trustAct] at h
    split at h
    · exact .fails h
    rename_i hresult
    cases h
    exact ⟨⟨.refl, .idle rfl rfl, of_moved .trust⟩, .trustAdmitted hresult⟩
  | verified | updated =>
    exact .goes h rfl .trust
  | read previous =>
    exact .leads h (.updates rfl rfl rfl) (.idle rfl rfl) .trust
  | retained previous disposition revision =>
    simp only [trustAct] at h
    split at h <;>
    · exact .goes h rfl .trust
  | looking response =>
    obtain ⟨-, h⟩ := whenFree_eq_some h
    split at h <;>
    · exact .goes h rfl .trust
  | closing response phase =>
    simp only [trustAct] at h
    refine removeAct_spec (fun phase => .trust call (.closing response phase))
      (fun phase => ?_) (fun h => ?_) (fun hp => hheld (by rw [hp]; rfl)) (fun _ => .trust) h
    · cases phase <;> simp [Task.holds]
    · cases h
      exact ⟨rfl, rfl, of_moved ⟨rfl, .trust⟩⟩
  | returning response =>
    exact .stops h .trustReturned

/-- The pieces of a fence registration. -/
theorem registerAct_spec
    (hheld : (Task.registerFence fence phase).holds = true → s.registryLock = some id)
    (h : registerAct host s id fence phase input = some (s', t', e)) :
    ActSpec host s id (.registerFence fence phase) input s' t' e := by
  cases phase with
  | verifying =>
    simp only [registerAct] at h
    split at h
    · exact .fails h
    · exact .goes h rfl (.plain rfl rfl)
  | checking registered =>
    obtain ⟨-, h⟩ := whenFree_eq_some h
    split at h
    · exact .fails h
    · exact .goes h rfl (.plain rfl rfl)
  | deciding registered =>
    simp only [registerAct] at h
    split at h
    · exact .stops h (.quiet rfl)
    · exact .fails h
    · rename_i hdecision
      exact .ends h (.records rfl rfl rfl (by rw [hdecision]; rfl) rfl) (.ended rfl) (.quiet rfl)
    · rename_i hdecision
      exact .leads h (.records rfl rfl rfl (by rw [hdecision]; rfl) rfl) (.idle rfl rfl)
        (.plain rfl rfl)
  | retiring registered =>
    obtain ⟨-, h⟩ := whenFree_eq_some h
    split at h
    · exact .goes h rfl (.plain rfl rfl)
    · exact .stops h (.quiet rfl)
  | removing registered phase =>
    simp only [registerAct] at h
    refine removeAct_spec (fun phase => .registerFence fence (.removing registered phase))
      (fun phase => ?_) (fun h => ?_) (fun hp => hheld (by rw [hp]; rfl))
      (fun _ => .plain rfl rfl) h
    · cases phase <;> simp [Task.holds]
    · cases h
      exact ⟨rfl, rfl, of_ended⟩

/-- The pieces of a close. -/
theorem closeAct_spec (hheld : (Task.close call phase).holds = true → s.registryLock = some id)
    (h : closeAct host s id call phase input = some (s', t', e)) :
    ActSpec host s id (.close call phase) input s' t' e := by
  cases phase with
  | binding =>
    simp only [closeAct] at h
    split at h
    · exact .fails h
    rename_i hresult
    cases h
    exact ⟨⟨.refl, .idle rfl rfl, of_moved (.plain rfl rfl)⟩, .closeAdmitted hresult⟩
  | removing phase =>
    cases phase with
    | token => exact .leads h (.keeps rfl rfl rfl) (.idle rfl rfl) (.plain rfl rfl)
    | registry =>
      obtain ⟨hfree, h⟩ := whenFree_eq_some h
      split at h
      · exact .fails h
      · exact .leads h (.removes rfl (fun _ _ => unregister_shrinks s call.nodeId.1) rfl)
          (.taken hfree rfl) (.plain rfl rfl)
    | publishing => exact .ends h (.keeps rfl rfl rfl) (.given (hheld rfl) of_ended) (.quiet rfl)

/-- The pieces of a dispatch. -/
theorem dispatchAct_spec
    (h : dispatchAct host s node command length phase input = some (s', t', e)) :
    ActSpec host s id (.dispatch node command length phase) input s' t' e := by
  cases phase with
  | looking =>
    obtain ⟨-, h⟩ := whenFree_eq_some h
    split at h
    · exact .fails h
    dsimp only at h
    split at h
    · exact .fails h
    · exact .goes h rfl .dispatch
  | bare session =>
    simp only [dispatchAct] at h
    split at h
    · exact .fails h
    · rename_i hnone
      exact .stops h (.dispatchedBare (by simpa using hnone))
  | fenced session fence verified claims clock =>
    simp only [dispatchAct] at h
    split at h
    · exact .fails h
    · rename_i hterm
      exact .stops h (.dispatchedFenced hterm)

/-- The pieces of an artifact operation. -/
theorem artifactAct_spec (h : artifactAct host s request call phase input = some (s', t', e)) :
    ActSpec host s id (.artifact request call phase) input s' t' e := by
  cases phase with
  | looking =>
    obtain ⟨-, h⟩ := whenFree_eq_some h
    split at h
    · exact .fails h
    · split at h
      · exact .fails h
      · exact .goes h rfl .artifact
  | binding session =>
    simp only [artifactAct] at h
    split at h
    · exact .fails h
    · rename_i hresult
      exact .stops h (.artifactAdmitted hresult)

/-- **What a piece of a task can do.** -/
theorem act_spec (hheld : t.holds = true → p.shared.registryLock = some id)
    (h : act host p id t input = some (s', t', e)) : ActSpec host p.shared id t input s' t' e := by
  cases t with
  | accept incoming phase => exact acceptAct_spec hheld h
  | trust call phase => exact trustAct_spec hheld h
  | registerFence fence phase => exact registerAct_spec hheld h
  | close call phase => exact closeAct_spec hheld h
  | dispatch node command length phase => exact dispatchAct_spec h
  | artifact request call phase => exact artifactAct_spec h
  | shutdown =>
    obtain ⟨-, h⟩ := whenFree_eq_some h
    exact .ends h (.removes rfl (fun _ _ hl => by simp at hl) rfl) (.ended rfl) (.quiet rfl)

/-! ## The lock -/

/-- The rule for starting tasks that the results below need: tasks start at their start. -/
def Rules (host : Host) (spawn : Pool Shared Task → Task → Bool) : Prop :=
  ∀ p t, spawn p t = true → t.starts host = true

theorem holds_of_starts (h : t.starts host = true) : t.holds = false := by
  unfold Task.starts at h
  split at h <;> first | rfl | cases h

/-- A task in a phase that holds the lock of the sessions holds it, in every interleaving. -/
theorem lock_outline (R : Rules host spawn) :
    Program.Outline ((program host).under spawn cancel) (fun _ => True)
      (fun s id t => t.holds = true → s.registryLock = some id) where
  init _ _ := trivial
  spawn _ _ _ _ hspawn hholds := by
    rw [holds_of_starts (R _ _ hspawn)] at hholds
    cases hholds
  act _ _ hJ ht hact := ⟨trivial, (act_spec (hJ _ _ ht) hact).lock.holds⟩
  interfere _ _ hJ ht hact j u hj hu hholds := by
    have hlock := hJ j u hu hholds
    rcases (act_spec (hJ _ _ ht) hact).lock.moved with h | h | h
    · rw [h, hlock]
    · cases hlock.symm.trans h
    · rw [hlock] at h
      exact absurd (some_inj.1 h) hj
  cancel {p id t} _ hJ ht _ := by
    refine ⟨trivial, fun j u hj hu hholds => ?_⟩
    have hlock := hJ j u hu hholds
    rcases release_lock p.shared id with h | h
    · exact h.trans hlock
    · rw [hlock] at h
      exact absurd (some_inj.1 h) hj

theorem lock_held (R : Rules host spawn)
    (hr : ((program host).under spawn cancel).lts.Reachable p) (hu : p.task j = some u)
    (hholds : u.holds = true) : p.shared.registryLock = some j := by
  obtain ⟨tr, hrun⟩ := hr
  exact ((lock_outline R).run hrun).2 j u hu hholds

/-- What a step of a task does, in every interleaving. -/
theorem reachable_act_spec (R : Rules host spawn)
    (hr : ((program host).under spawn cancel).lts.Reachable p) (ht : p.task id = some t)
    (h : act host p id t input = some (s', t', e)) : PieceSpec host p.shared id t s' t' :=
  (act_spec (lock_held R hr ht) h).toPieceSpec

/-- What the event of a step rests on. -/
theorem reachable_act_emits (R : Rules host spawn)
    (hr : ((program host).under spawn cancel).lts.Reachable p) (ht : p.task id = some t)
    (h : act host p id t input = some (s', t', e)) : Emits host p.shared input t e :=
  (act_spec (lock_held R hr ht) h).emits

end Ocservia.Transport
