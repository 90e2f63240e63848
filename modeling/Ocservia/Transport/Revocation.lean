import Ocservia.Transport.Steps

/-!
# Revocation closes sessions

`transportd/src/lib.rs`: when `update_node_trust` returns that a revocation was applied, no session
of the endpoint with an older authorization revision should be registered, then or later. The
handler changes the policy first and looks for a session afterwards, while a session that registers
checks the policy under the lock of the sessions. It closes sessions only when its own call raised
the revision, so a call that is dropped after it changed the policy leaves the session to a retry
that closes nothing.

A `Discipline` says how the callers behave. The promise is kept under a sound one (`promised_run`):
calls for one endpoint do not overlap, an endpoint belongs to one node, and no call is dropped
between the change of the policy and the removal of the session. `Transport.RevocationGap` shows
that each of these is needed.

The invariant of all tasks together is `SafeAt`.
-/

namespace Ocservia.Transport

open Tasks Option AList Prod

/-! ## Disciplines of the callers -/

/-- How `update_node_trust` is called. -/
structure Discipline where
  /-- Calls for one endpoint do not overlap. -/
  serial : Bool
  /-- Sessions and calls name the node that the endpoint belongs to. -/
  bound : Bool
  /-- The await points at which a call may be dropped. -/
  cancel : TrustAwait → Bool

def Task.trusts : Task → Option EndpointId
  | .trust call _ => some call.endpoint
  | _ => none

/-- The task names the node that its endpoint belongs to. -/
def Task.atHome (home : EndpointId → Bytes) : Task → Bool
  | .accept incoming _ => incoming.handshake.nodeId == home incoming.remote
  | .trust call _ => call.nodeId.1 == home call.endpoint
  | _ => true

namespace Discipline

def spawn (d : Discipline) (host : Host) (home : EndpointId → Bytes) (p : Pool Shared Task)
    (t : Task) : Bool :=
  t.starts host && (!d.bound || t.atHome home) &&
    (!d.serial || t.trusts.all fun endpoint => !p.any fun u => u.trusts == some endpoint)

def mayCancel (d : Discipline) : Task → Bool
  | .trust _ phase => phase.await.any d.cancel
  | t => t.awaits

/-- transportd under a discipline. -/
def program (d : Discipline) (host : Host) (home : EndpointId → Bytes) :
    Program Shared Task Input Event :=
  (Transport.program host).under (d.spawn host home) d.mayCancel

/-- The disciplines under which a revocation closes sessions. -/
structure Sound (d : Discipline) : Prop where
  serial : d.serial = true
  bound : d.bound = true
  lookup : d.cancel .lookup = false
  token : d.cancel .token = false
  registry : d.cancel .registry = false

theorem rules (d : Discipline) (host : Host) (home : EndpointId → Bytes) :
    Rules host (d.spawn host home) := by
  intro p t h
  simp only [spawn, Bool.and_eq_true] at h
  exact h.1.1

end Discipline

/-- In the trace a call with state revoked returned that it was applied. -/
def RevocationReturned (t : List (Label Task Input Event)) (call : TrustCall) : Prop :=
  ∃ id input response, Label.act id input (.trustReturned call response) ∈ t ∧
    call.state = .revoked ∧ response.disposition = .applied

/-- After a revocation returned, no session of the endpoint with a lower authorization revision is
registered. -/
def RevocationCloses (t : List (Label Task Input Event)) (s : Shared) : Prop :=
  ∀ call, RevocationReturned t call → ∀ node entry, s.connections.lookup node = some entry →
    entry.endpointId = call.endpoint → call.request.revision ≤ entry.authorizationRevision

/-! ## Calls that do not overlap -/

variable {d : Discipline} {p : Pool Shared Task} {id : Nat} {t : Task}

theorem Follows.trusts (h : Follows host s t u) : u.trusts = t.trusts := by
  cases h with
  | accept | trust | dispatch | artifact => rfl
  | plain ht hu =>
    have hplain : ∀ {v : Task}, v.plain = true → v.trusts = none := by
      intro v hv
      cases v <;> first | rfl | cases hv
    rw [hplain ht, hplain hu]

/-- The trust updates of one endpoint in flight are one task. -/
def Serial (p : Pool Shared Task) : Prop :=
  ∀ i j t u endpoint, p.task i = some t → p.task j = some u → t.trusts = some endpoint →
    u.trusts = some endpoint → i = j

theorem Serial.of_tasks (h : Serial p)
    (hsub : ∀ i u, p'.task i = some u → ∃ t, p.task i = some t ∧ u.trusts = t.trusts) :
    Serial p' := by
  intro i j t u endpoint hi hj ht hu
  obtain ⟨t₀, hi₀, ht₀⟩ := hsub i t hi
  obtain ⟨u₀, hj₀, hu₀⟩ := hsub j u hj
  exact h i j t₀ u₀ endpoint hi₀ hj₀ (ht₀ ▸ ht) (hu₀ ▸ hu)

theorem serial_spawn (h : Serial p) (hserial : d.serial = true)
    (hspawn : d.spawn host home p t = true) : Serial (p.put id (some t)) := by
  simp only [Discipline.spawn, hserial, Bool.and_eq_true, Bool.not_true, Bool.false_or] at hspawn
  have hfresh : ∀ j u endpoint, p.task j = some u → t.trusts = some endpoint →
      u.trusts ≠ some endpoint := by
    intro j u endpoint hj ht hu
    have hall := hspawn.2
    rw [ht] at hall
    have hany : (p.any fun u => u.trusts == some endpoint) = false := by simpa using hall
    have := Pool.any_eq_false hany hj
    rw [hu] at this
    simp at this
  intro i j v w endpoint hi hj hv hw
  obtain ⟨hid, hi⟩ | ⟨-, hi⟩ := Pool.of_task_put hi
  · obtain ⟨hjd, -⟩ | ⟨-, hj⟩ := Pool.of_task_put hj
    · rw [hid, hjd]
    · cases hi
      exact absurd hw (hfresh j w endpoint hj hv)
  obtain ⟨-, hj⟩ | ⟨-, hj⟩ := Pool.of_task_put hj
  · cases hj
    exact absurd hv (hfresh i v endpoint hi hw)
  · exact h i j v w endpoint hi hj hv hw

theorem serial_reachable (hserial : d.serial = true)
    (hr : (d.program host home).lts.Reachable p) : Serial p := by
  refine hr.invariant Serial (fun p h0 i j t u endpoint hi => ?_) fun p a p' hr hS hs => ?_
  · simp [Pool.task, h0.2] at hi
  · cases hs with
    | spawn _ hspawn => exact serial_spawn hS hserial hspawn
    | @act id t i s t' e ht hact =>
      have hspec := reachable_act_spec (d.rules host home) hr ht hact
      refine hS.of_tasks fun j u hput => ?_
      obtain ⟨rfl, hu⟩ | ⟨hj, hu⟩ := Pool.of_task_put hput
      · exact ⟨t, ht, (hspec.follows u hu).trusts⟩
      · exact ⟨u, hu, rfl⟩
    | @cancel id t ht hc =>
      refine hS.of_tasks fun j u hu => ?_
      obtain ⟨-, ⟨⟩⟩ | ⟨-, hu⟩ := Pool.of_task_put hu
      exact ⟨u, hu, rfl⟩

/-! ## Endpoints that belong to one node -/

/-- The task, with the session it has negotiated, is about the node of its endpoint. -/
def Task.AtHome (home : EndpointId → Bytes) : Task → Prop
  | .accept incoming phase => incoming.handshake.nodeId = home incoming.remote ∧
      ∀ session ∈ phase.session, session.nodeId = home incoming.remote
  | .trust call _ => call.nodeId.1 = home call.endpoint
  | _ => True

theorem Follows.atHome (h : Follows host s t u) (ht : t.AtHome home) : u.AtHome home := by
  cases h with
  | accept hsession =>
    refine ⟨ht.1, fun session hs => ?_⟩
    rcases hsession session hs with hs | hs
    · exact ht.2 session hs
    · exact hs.trans ht.1
  | trust => exact ht
  | dispatch => trivial
  | artifact => trivial
  | plain _ hu => cases u <;> trivial

theorem atHome_of_starts (hs : t.starts host = true) (h : t.atHome home = true) :
    t.AtHome home := by
  cases t with
  | accept incoming phase =>
    cases phase with
    | connecting => exact ⟨eq_of_beq h, by simp [AcceptPhase.session]⟩
    | _ => cases hs
  | trust call phase => exact eq_of_beq h
  | _ => trivial

/-- A session in the registry after a piece was there before, or the piece registers it. -/
theorem Change.lookup (h : Change s t s') (hl : s'.connections.lookup node = some entry) :
    s.connections.lookup node = some entry ∨ ∃ incoming session token,
      t = .accept incoming (.fenced session token) ∧ node = session.nodeId ∧
        entry.endpointId = incoming.remote := by
  cases h with
  | keeps _ hc _ | updates _ hc _ | records _ hc _ _ _ => exact .inl (hc ▸ hl)
  | removes _ hc _ => exact .inl (hc node entry hl)
  | @registers incoming session token _ _ hc _ =>
    rw [hc] at hl
    by_cases hn : node = session.nodeId
    · subst hn
      rw [lookup_insert] at hl
      cases hl
      exact .inr ⟨incoming, session, token, rfl, rfl, rfl⟩
    · exact .inl (by rwa [lookup_insert_ne hn] at hl)

/-- Every session is registered under the node that its endpoint belongs to. -/
theorem home_outline (hbound : d.bound = true) :
    Program.Outline (d.program host home)
      (fun s => ∀ node entry, s.connections.lookup node = some entry →
        node = home entry.endpointId)
      (fun _ _ t => t.AtHome home) where
  init s h0 node entry hl := by
    rw [h0.2.1] at hl
    simp at hl
  spawn _ _ _ _ hspawn := by
    have hspawn' : d.spawn host home _ _ = true := hspawn
    simp only [Discipline.spawn, hbound, Bool.and_eq_true, Bool.not_true,
      Bool.false_or] at hspawn'
    exact atHome_of_starts hspawn'.1.1 hspawn'.1.2
  act hr hI hJ ht hact := by
    have hspec := reachable_act_spec (d.rules host home) hr ht hact
    refine ⟨fun node entry hl => ?_, fun u hu => (hspec.follows u hu).atHome (hJ _ _ ht)⟩
    obtain hl | ⟨incoming, session, token, rfl, rfl, he⟩ := hspec.change.lookup hl
    · exact hI node entry hl
    · rw [he]
      exact (hJ _ _ ht).2 session rfl
  interfere _ _ hJ _ _ j u _ hu := hJ j u hu
  cancel {p id t} hI hJ _ _ := by
    refine ⟨fun node entry hl => ?_, fun j u _ hu => hJ j u hu⟩
    have hc := (release_keeps p.shared id).2.1
    exact hI node entry (hc ▸ hl)

/-! ## What a call knows of the policy -/

/-- The policy says what the call asked for. -/
def AppliedNow (policy : IdentityState) (call : TrustCall) : Prop :=
  policy.revision call.endpoint = call.request.revision ∧
    (call.state = .revoked → policy.isRevoked call.endpoint = true)

/-- What a call knows of the policy in each phase, while no other call for its endpoint runs. -/
def TrustPhase.Knows (policy : IdentityState) (call : TrustCall) : TrustPhase → Prop
  | .binding | .verified => True
  | .read previous => previous = policy.revision call.endpoint
  | .updated _ disposition => disposition = .applied → AppliedNow policy call
  | .retained _ disposition revision => revision = policy.revision call.endpoint ∧
      (disposition = .applied → AppliedNow policy call)
  | .looking response | .closing response _ => AppliedNow policy call ∧
      response.retainedRevision = call.request.revision
  | .returning response => response.disposition = .applied → AppliedNow policy call

/-- What a task knows of the policy. -/
def Task.Knows (host : Host) (policy : IdentityState) : Task → Prop
  | .trust call phase => call.Valid host ∧ phase.Knows policy call
  | _ => True

theorem TrustPhase.Knows.congr {policy' : IdentityState} {phase : TrustPhase}
    (h : phase.Knows policy call)
    (hrevoked : policy'.isRevoked call.endpoint = policy.isRevoked call.endpoint)
    (hrevision : policy'.revision call.endpoint = policy.revision call.endpoint) :
    phase.Knows policy' call := by
  have hnow : AppliedNow policy call → AppliedNow policy' call :=
    fun ha => ⟨hrevision.trans ha.1, fun hs => hrevoked.trans (ha.2 hs)⟩
  cases phase with
  | binding | verified => trivial
  | read previous => exact Eq.trans h hrevision.symm
  | updated | returning => exact fun ha => hnow (h ha)
  | retained previous disposition revision =>
    exact ⟨h.1.trans hrevision.symm, fun ha => hnow (h.2 ha)⟩
  | looking response | closing response phase => exact ⟨hnow h.1, h.2⟩

/-- The phase a removal leads to. -/
theorem removeAct_next (h : removeAct s id node task (moves · after) phase = some (s', t', e)) :
    t' = some after ∨ ∃ phase', t' = some (task phase') := by
  cases phase with
  | token => exact .inr ⟨_, (moves_eq h).2⟩
  | registry =>
    obtain ⟨-, h⟩ := whenFree_eq_some h
    split at h
    · exact .inl (moves_eq h).2
    · exact .inr ⟨_, (moves_eq h).2⟩
  | publishing => exact .inl (moves_eq h).2

/-- A call learns from its own pieces what the policy says. -/
theorem trustAct_knows (hvalid : call.Valid host) (hk : phase.Knows s.policy call)
    (h : trustAct host s id call phase input = some (s', t', e)) :
    ∀ u ∈ t', u.Knows host s'.policy := by
  cases phase with
  | binding =>
    simp only [trustAct] at h
    split at h
    · cases h
      exact of_ended
    · obtain ⟨-, h2⟩ := mk.inj (some_inj.1 h)
      obtain rfl := (mk.inj h2).1
      exact of_moved ⟨hvalid, trivial⟩
  | verified =>
    obtain ⟨rfl, rfl⟩ := moves_eq h
    exact of_moved ⟨hvalid, rfl⟩
  | read previous =>
    obtain ⟨rfl, rfl⟩ := moves_eq h
    refine of_moved ⟨hvalid, fun hd => ?_⟩
    obtain ⟨-, happlied, -⟩ := IdentityState.update_spec hvalid.revision
      (mk.eta (p := s.policy.update call.endpoint call.nodeId.1 call.state
        call.request.revision)).symm
    exact ⟨(happlied hd).revision, (happlied hd).revoked⟩
  | updated previous disposition =>
    obtain ⟨rfl, rfl⟩ := moves_eq h
    exact of_moved ⟨hvalid, rfl, hk⟩
  | retained previous disposition revision =>
    simp only [trustAct] at h
    split at h
    · rename_i hchanged
      obtain ⟨rfl, rfl⟩ := moves_eq h
      simp only [TrustResponse.changed, Bool.and_eq_true, beq_iff_eq] at hchanged
      exact of_moved ⟨hvalid, hk.2 hchanged.1.1.1, hchanged.1.1.2⟩
    · obtain ⟨rfl, rfl⟩ := moves_eq h
      exact of_moved ⟨hvalid, hk.2⟩
  | looking response =>
    obtain ⟨-, h⟩ := whenFree_eq_some h
    split at h
    · obtain ⟨rfl, rfl⟩ := moves_eq h
      exact of_moved ⟨hvalid, hk⟩
    · obtain ⟨rfl, rfl⟩ := moves_eq h
      exact of_moved ⟨hvalid, fun _ => hk.1⟩
  | closing response phase =>
    have hpolicy : s'.policy = s.policy := by
      simp only [trustAct] at h
      cases phase with
      | token | publishing => rw [(moves_eq h).1]; rfl
      | registry =>
        obtain ⟨-, h⟩ := whenFree_eq_some h
        split at h
        · rw [(moves_eq h).1]
        · rw [(moves_eq h).1]; rfl
    rw [hpolicy]
    simp only [trustAct] at h
    rcases removeAct_next h with rfl | ⟨phase', rfl⟩
    · exact of_moved ⟨hvalid, fun _ => hk.1⟩
    · exact of_moved ⟨hvalid, hk⟩
  | returning response =>
    obtain ⟨rfl, rfl⟩ := ends_eq h
    exact of_ended

/-- A piece changes the policy only for the endpoint of its own call. -/
theorem Change.policy_other (h : Change s t s') (hk : t.Knows host s.policy)
    (hne : t.trusts ≠ some endpoint) :
    s'.policy.isRevoked endpoint = s.policy.isRevoked endpoint ∧
      s'.policy.revision endpoint = s.policy.revision endpoint := by
  cases h with
  | keeps hp _ _ | records hp _ _ _ _ | registers hp _ _ | removes hp _ _ =>
      rw [hp]; exact ⟨rfl, rfl⟩
  | @updates call previous _ hp _ _ =>
    obtain ⟨-, -, hothers⟩ := IdentityState.update_spec hk.1.revision
      (mk.eta (p := s.policy.update call.endpoint call.nodeId.1 call.state
        call.request.revision)).symm
    rw [hp]
    exact hothers endpoint fun he => hne (congrArg some he.symm)

theorem knows_of_trusts (h : t.trusts = none) : t.Knows host policy := by
  cases t with
  | trust call phase => cases h
  | _ => trivial

theorem knows_of_starts (h : t.starts host = true) : t.Knows host policy := by
  cases t with
  | trust call phase =>
    cases phase with
    | binding => exact ⟨validateTrustUpdate_ok (of_decide_eq_true h), trivial⟩
    | _ => cases h
  | _ => trivial

theorem knows_outline (hserial : d.serial = true) :
    Program.Outline (d.program host home) (fun _ => True)
      (fun s _ t => t.Knows host s.policy) where
  init _ _ := trivial
  spawn _ _ _ _ hspawn := knows_of_starts (d.rules host home _ _ hspawn)
  act {p id t i s t' e} hr _ hJ ht hact := by
    refine ⟨trivial, ?_⟩
    have hk := hJ _ _ ht
    have hspec := reachable_act_spec (d.rules host home) hr ht hact
    cases t with
    | trust call phase => exact trustAct_knows hk.1 hk.2 hact
    | _ => exact fun u hu => knows_of_trusts (hspec.follows u hu).trusts
  interfere {p id t i s t' e} hr _ hJ ht hact j u hj hu := by
    have hspec := reachable_act_spec (d.rules host home) hr ht hact
    have hk := hJ j u hu
    cases u with
    | trust call phase =>
      have hne : t.trusts ≠ some call.endpoint := by
        intro he
        exact hj (serial_reachable hserial hr j id _ t call.endpoint hu ht rfl he)
      obtain ⟨hrevoked, hrevision⟩ := hspec.change.policy_other (hJ _ _ ht) hne
      exact ⟨hk.1, hk.2.congr hrevoked hrevision⟩
    | _ => trivial
  cancel {p id t} _ hJ _ _ := by
    refine ⟨trivial, fun j u _ hu => ?_⟩
    have hpolicy : ((d.program host home).release id p.shared).policy = p.shared.policy :=
      (release_keeps p.shared id).1
    rw [hpolicy]
    exact hJ j u hu

/-! ## The invariant of all tasks -/

/-- The call revoked the endpoint, and will look for a session of its node. -/
def Task.willLook (endpoint : EndpointId) : Task → Prop
  | .trust call (.updated previous disposition) => call.endpoint = endpoint ∧
      call.state = .revoked ∧ disposition = .applied ∧ previous < call.request.revision
  | .trust call (.retained previous disposition _) => call.endpoint = endpoint ∧
      call.state = .revoked ∧ disposition = .applied ∧ previous < call.request.revision
  | .trust call (.looking _) => call.endpoint = endpoint
  | _ => False

/-- The call will remove the session of its node. -/
def Task.willRemove (endpoint : EndpointId) : Task → Prop
  | .trust call (.closing _ .token) | .trust call (.closing _ .registry) =>
    call.endpoint = endpoint
  | _ => False

/-- The session of the endpoint has passed the check of the policy, and is to be registered. -/
def Task.passes (endpoint : EndpointId) : Task → Prop
  | .accept incoming phase => incoming.remote = endpoint ∧ phase.passed = true
  | _ => False

/-- No session of the endpoint is older than the revision of the policy. -/
def Clean (s : Shared) (endpoint : EndpointId) : Prop :=
  ∀ node entry, s.connections.lookup node = some entry → entry.endpointId = endpoint →
    s.policy.revision endpoint ≤ entry.authorizationRevision

/-- Some task in flight satisfies `P`. -/
def InFlight (p : Pool Shared Task) (P : Task → Prop) : Prop := ∃ id t, p.task id = some t ∧ P t

/-- While the endpoint is revoked, a call will look for its session, or none will be registered and
those registered will be removed or are not older than the revocation. -/
def SafeAt (p : Pool Shared Task) (endpoint : EndpointId) : Prop :=
  p.shared.policy.isRevoked endpoint = true →
    InFlight p (Task.willLook endpoint) ∨
      ¬ InFlight p (Task.passes endpoint) ∧
        (InFlight p (Task.willRemove endpoint) ∨ Clean p.shared endpoint)

theorem willLook_trusts (h : t.willLook endpoint) : t.trusts = some endpoint := by
  unfold Task.willLook at h
  split at h
  iterate 2 exact congrArg some h.1
  · exact congrArg some h
  · exact h.elim

theorem willRemove_trusts (h : t.willRemove endpoint) : t.trusts = some endpoint := by
  unfold Task.willRemove at h
  split at h
  iterate 2 exact congrArg some h
  · exact h.elim

theorem passes_holds (h : t.passes endpoint) : t.holds = true := by
  cases t with
  | accept incoming phase => cases phase <;> first | rfl | cases h.2
  | _ => exact h.elim

/-- A task with `P` is still in flight after a piece that keeps `P` of its own task. -/
theorem InFlight.act (h : InFlight p P) (ht : p.task id = some t) (hkeep : P t → ∃ u ∈ t', P u) :
    InFlight ((p.withShared s').put id t') P := by
  obtain ⟨j, u, hu, hP⟩ := h
  by_cases hj : j = id
  · subst hj
    cases ht.symm.trans hu
    obtain ⟨v, hv, hPv⟩ := hkeep hP
    exact ⟨j, v, by simpa using hv, hPv⟩
  · exact ⟨j, u, by rw [Pool.task_put_ne _ _ hj]; exact hu, hP⟩

/-- A task that satisfies `P` after a piece did so before, unless the piece led to it. -/
theorem InFlight.of_act (h : InFlight ((p.withShared s').put id t') P) (ht : p.task id = some t)
    (hnew : ∀ u ∈ t', P u → P t) : InFlight p P := by
  obtain ⟨j, u, hput, hP⟩ := h
  obtain ⟨rfl, hu⟩ | ⟨hj, hu⟩ := Pool.of_task_put hput
  · exact ⟨j, t, ht, hnew u hu hP⟩
  · exact ⟨j, u, hu, hP⟩

/-- A piece that is not about the endpoint keeps the invariant. -/
theorem SafeAt.frame (h : SafeAt p endpoint) (ht : p.task id = some t)
    (hrevoked : s'.policy.isRevoked endpoint = p.shared.policy.isRevoked endpoint)
    (hrevision : s'.policy.revision endpoint = p.shared.policy.revision endpoint)
    (hconn : ∀ node entry, s'.connections.lookup node = some entry → entry.endpointId = endpoint →
      p.shared.connections.lookup node = some entry)
    (hlook : t.willLook endpoint → ∃ u ∈ t', u.willLook endpoint)
    (hremove : t.willRemove endpoint → ∃ u ∈ t', u.willRemove endpoint)
    (hpasses : p.shared.policy.isRevoked endpoint = true →
      ∀ u ∈ t', u.passes endpoint → t.passes endpoint) :
    SafeAt ((p.withShared s').put id t') endpoint := by
  intro hr
  rw [Pool.shared_put, Pool.shared_withShared, hrevoked] at hr
  rcases h hr with hl | ⟨hp, hl⟩
  · exact .inl (hl.act ht hlook)
  refine .inr ⟨fun hpass => hp (hpass.of_act ht (hpasses hr)), ?_⟩
  rcases hl with hl | hclean
  · exact .inl (hl.act ht hremove)
  refine .inr fun node entry hentry he => ?_
  rw [Pool.shared_put, Pool.shared_withShared] at hentry ⊢
  rw [hrevision]
  exact hclean node entry (hconn node entry hentry he) he

/-- What is known of every reachable state under a sound discipline. -/
structure Known (host : Host) (home : EndpointId → Bytes) (p : Pool Shared Task) : Prop where
  serial : Serial p
  lock : ∀ j u, p.task j = some u → u.holds = true → p.shared.registryLock = some j
  sessions : ∀ node entry, p.shared.connections.lookup node = some entry →
    node = home entry.endpointId
  tasks : ∀ j u, p.task j = some u → u.AtHome home
  knows : ∀ j u, p.task j = some u → u.Knows host p.shared.policy

/-- A session of the endpoint of a call is registered under the node of the call. -/
theorem Known.node_eq (hk : Known host home p) (ht : p.task id = some (.trust call phase))
    (hl : p.shared.connections.lookup node = some entry) (he : entry.endpointId = call.endpoint) :
    node = call.nodeId.1 := by
  have hhome : call.nodeId.1 = home call.endpoint := hk.tasks _ _ ht
  rw [hk.sessions node entry hl, he, hhome]

theorem known (hd : d.Sound) (hr : (d.program host home).lts.Reachable p) :
    Known host home p := by
  obtain ⟨tr, hrun⟩ := hr
  have hhome := (home_outline hd.bound).run hrun
  exact {
    serial := serial_reachable hd.serial ⟨tr, hrun⟩
    lock := fun j u => lock_held (d.rules host home) ⟨tr, hrun⟩
    sessions := hhome.1
    tasks := hhome.2
    knows := ((knows_outline hd.serial).run hrun).2 }

/-- No piece lets a session of a revoked endpoint pass the check of the policy. -/
theorem PieceSpec.passes_of_revoked (hspec : PieceSpec host p.shared id t s' t')
    (hrevoked : p.shared.policy.isRevoked endpoint = true) :
    ∀ u ∈ t', u.passes endpoint → t.passes endpoint := by
  intro u hu hp
  have hfollows := hspec.follows u hu
  cases hfollows with
  | accept _ hpassed =>
    refine ⟨hp.1, (hpassed hp.2).resolve_right fun hfree => ?_⟩
    rw [hp.1, hrevoked] at hfree
    cases hfree
  | trust | dispatch | artifact => exact hp.elim
  | plain _ hplain => cases u <;> trivial

/-! ### Pieces of the handler of a connection -/

theorem SafeAt.accept (h : SafeAt p endpoint) (ht : p.task id = some (.accept incoming phase))
    (hspec : PieceSpec host p.shared id (.accept incoming phase) s' t') :
    SafeAt ((p.withShared s').put id t') endpoint := by
  have hpolicy : s'.policy = p.shared.policy := by
    cases hspec.change <;> assumption
  by_cases hreg : ∃ session token, phase = .fenced session token ∧ incoming.remote = endpoint
  · -- a session of the endpoint is registered: it had passed the check, so a call will look for it
    obtain ⟨session, token, rfl, he⟩ := hreg
    intro hr
    rw [Pool.shared_put, Pool.shared_withShared, hpolicy] at hr
    rcases h hr with hl | ⟨hp, -⟩
    · exact .inl (hl.act ht fun hl => hl.elim)
    · exact absurd ⟨id, _, ht, he, rfl⟩ hp
  refine h.frame ht (by rw [hpolicy]) (by rw [hpolicy]) (fun node entry hl he => ?_)
    (fun hl => hl.elim) (fun hl => hl.elim) hspec.passes_of_revoked
  refine (hspec.change.lookup hl).resolve_right ?_
  rintro ⟨_, session, token, ⟨⟩, -, he'⟩
  exact hreg ⟨session, token, rfl, he'.symm.trans he⟩

/-! ### Pieces of a trust update -/

def Task.connects : Task → Bool
  | .accept _ _ => true
  | _ => false

/-- Only the handler of a connection registers sessions. -/
theorem Change.lookup_of_connects (h : Change s t s') (ht : t.connects = false)
    (hl : s'.connections.lookup node = some entry) : s.connections.lookup node = some entry := by
  refine (h.lookup hl).resolve_right ?_
  rintro ⟨_, _, _, rfl, -⟩
  cases ht

/-- A piece of a call for another endpoint. -/
theorem SafeAt.trust_other (h : SafeAt p endpoint) (hk : Known host home p)
    (ht : p.task id = some (.trust call phase))
    (hspec : PieceSpec host p.shared id (.trust call phase) s' t') (hne : call.endpoint ≠ endpoint)
    :
    SafeAt ((p.withShared s').put id t') endpoint := by
  have hne' : (Task.trust call phase).trusts ≠ some endpoint :=
    fun he => hne (some_inj.1 he)
  obtain ⟨hrevoked, hrevision⟩ := hspec.change.policy_other (hk.knows _ _ ht) hne'
  refine h.frame ht hrevoked hrevision (fun _ _ hl _ => hspec.change.lookup_of_connects rfl hl)
    (fun hl => absurd (willLook_trusts hl) hne') (fun hl => absurd (willRemove_trusts hl) hne')
    hspec.passes_of_revoked

/-- A piece of a call for the endpoint that leaves the policy as it is. -/
theorem SafeAt.trust_keeps (h : SafeAt p endpoint) (ht : p.task id = some (.trust call phase))
    (hspec : PieceSpec host p.shared id (.trust call phase) s' t')
    (hpolicy : s'.policy = p.shared.policy)
    (hlook : (Task.trust call phase).willLook endpoint → ∃ u ∈ t', u.willLook endpoint)
    (hremove : (Task.trust call phase).willRemove endpoint → ∃ u ∈ t', u.willRemove endpoint) :
    SafeAt ((p.withShared s').put id t') endpoint :=
  h.frame ht (by rw [hpolicy]) (by rw [hpolicy])
    (fun _ _ hl _ => hspec.change.lookup_of_connects rfl hl) hlook hremove hspec.passes_of_revoked

/-- The policy changes: a revocation that raised the revision will look for a session; another
update keeps what is known. -/
theorem SafeAt.trust_read (h : SafeAt p call.endpoint) (hk : Known host home p)
    (ht : p.task id = some (.trust call (.read previous)))
    (hact : trustAct host p.shared id call (.read previous) input = some (s', t', e))
    (hspec : PieceSpec host p.shared id (.trust call (.read previous)) s' t') :
    SafeAt ((p.withShared s').put id t') call.endpoint := by
  obtain ⟨hvalid, hprevious⟩ := hk.knows _ _ ht
  have hprevious : previous = p.shared.policy.revision call.endpoint := hprevious
  obtain ⟨hsame, happlied, -⟩ := IdentityState.update_spec hvalid.revision
    (mk.eta (p := p.shared.policy.update call.endpoint call.nodeId.1 call.state
      call.request.revision)).symm
  obtain ⟨rfl, rfl⟩ := moves_eq hact
  by_cases hd : (p.shared.policy.update call.endpoint call.nodeId.1 call.state
      call.request.revision).1 = .applied
  · have ha := happlied hd
    rcases ha.raised with hpolicy | ⟨hlt, hstate | hfree⟩
    · exact h.trust_keeps ht hspec hpolicy (fun hl => hl.elim) (fun hl => hl.elim)
    · exact fun _ => .inl ⟨id, _, Pool.task_put_self _ _ _, rfl, hstate, hd, hprevious ▸ hlt⟩
    by_cases hstate : call.state = .revoked
    · exact fun _ => .inl ⟨id, _, Pool.task_put_self _ _ _, rfl, hstate, hd, hprevious ▸ hlt⟩
    intro hrevoked
    rw [Pool.shared_put, Pool.shared_withShared] at hrevoked
    have hkept := ha.kept hstate
    rw [hfree] at hkept
    exact absurd (hrevoked.symm.trans hkept) (by simp)
  · exact h.trust_keeps ht hspec (hsame hd) (fun hl => hl.elim) (fun hl => hl.elim)

/-- The piece that reads the retained state: a call that revoked the endpoint goes on to look. -/
theorem trust_retained_looks
    (hknows : (TrustPhase.retained previous disposition revision).Knows p.shared.policy call)
    (hact : trustAct host p.shared id call (.retained previous disposition revision) input =
      some (s', t', e))
    (hlook : (Task.trust call (.retained previous disposition revision)).willLook endpoint) :
    ∃ u ∈ t', u.willLook endpoint := by
  obtain ⟨he, hstate, hd, hlt⟩ := hlook
  obtain ⟨hrevision, happlied⟩ := hknows
  obtain ⟨hnow, hrevoked⟩ := happlied hd
  simp only [trustAct] at hact
  split at hact
  · exact ⟨_, (moves_eq hact).2, he⟩
  rename_i hchanged
  refine absurd ?_ hchanged
  simp only [TrustResponse.changed, Bool.and_eq_true, beq_iff_eq, decide_eq_true_eq]
  have hretained : p.shared.policy.retainedState call.endpoint = call.state := by
    rw [IdentityState.retainedState, if_pos (hrevoked hstate), hstate]
  exact ⟨⟨⟨hd, hrevision.trans hnow⟩, hretained⟩, by rw [hrevision, hnow]; exact hlt⟩

/-- The look for a session: the lock is free, so none is about to be registered, and one kept is not
older than the update. -/
theorem SafeAt.trust_looking (hk : Known host home p)
    (ht : p.task id = some (.trust call (.looking response)))
    (hact : trustAct host p.shared id call (.looking response) input = some (s', t', e)) :
    SafeAt ((p.withShared s').put id t') call.endpoint := by
  obtain ⟨-, ⟨hnow, -⟩, hresponse⟩ := hk.knows _ _ ht
  obtain ⟨hfree, hact⟩ := whenFree_eq_some hact
  have hnone : ∀ {u : Task}, ¬ u.passes call.endpoint →
      ¬ InFlight ((p.withShared p.shared).put id (some u)) (Task.passes call.endpoint) := by
    rintro u hu ⟨j, v, hput, hp⟩
    obtain ⟨rfl, hv⟩ | ⟨hj, hv⟩ := Pool.of_task_put hput
    · cases hv
      exact hu hp
    · have hlock := hk.lock j v hv (passes_holds hp)
      cases hfree.symm.trans hlock
  intro _
  right
  split at hact
  · obtain ⟨rfl, rfl⟩ := moves_eq hact
    exact ⟨hnone (fun hp => hp.elim), .inl ⟨id, _, Pool.task_put_self _ _ _, rfl⟩⟩
  rename_i hclose
  obtain ⟨rfl, rfl⟩ := moves_eq hact
  refine ⟨hnone (fun hp => hp.elim), .inr fun node entry hl he => ?_⟩
  rw [Pool.shared_put, Pool.shared_withShared] at hl ⊢
  rw [hk.node_eq ht hl he] at hl
  rw [hl, any_some, decide_eq_true_eq, hresponse] at hclose
  rw [hnow]
  exact UInt64.not_lt.1 hclose

/-- The removal: then the endpoint has no session, since they are registered under its node. -/
theorem SafeAt.trust_registry (h : SafeAt p call.endpoint) (hk : Known host home p)
    (ht : p.task id = some (.trust call (.closing response .registry)))
    (hact : trustAct host p.shared id call (.closing response .registry) input = some (s', t', e))
    (hspec : PieceSpec host p.shared id (.trust call (.closing response .registry)) s' t') :
    SafeAt ((p.withShared s').put id t') call.endpoint := by
  obtain ⟨-, hact⟩ := whenFree_eq_some hact
  have hgone : s'.policy = p.shared.policy ∧ s'.connections.lookup call.nodeId.1 = none := by
    split at hact
    · rename_i hnone
      rw [(moves_eq hact).1]
      exact ⟨rfl, hnone⟩
    · rw [(moves_eq hact).1]
      exact ⟨rfl, lookup_erase _ _⟩
  intro hr
  rw [Pool.shared_put, Pool.shared_withShared, hgone.1] at hr
  rcases h hr with hl | ⟨hp, -⟩
  · exact .inl (hl.act ht fun hl => hl.elim)
  refine .inr ⟨fun hpass => hp (hpass.of_act ht (hspec.passes_of_revoked hr)),
    .inr fun node entry hl he => ?_⟩
  rw [Pool.shared_put, Pool.shared_withShared] at hl
  rw [hk.node_eq ht (hspec.change.lookup_of_connects rfl hl) he, hgone.2] at hl
  cases hl

/-- A piece of a call for the endpoint. -/
theorem SafeAt.trust_own (h : SafeAt p call.endpoint) (hk : Known host home p)
    (ht : p.task id = some (.trust call phase))
    (hact : trustAct host p.shared id call phase input = some (s', t', e))
    (hspec : PieceSpec host p.shared id (.trust call phase) s' t') :
    SafeAt ((p.withShared s').put id t') call.endpoint := by
  cases phase with
  | binding =>
    have hpolicy : s'.policy = p.shared.policy := by cases hspec.change <;> assumption
    exact h.trust_keeps ht hspec hpolicy (fun hl => hl.elim) (fun hl => hl.elim)
  | verified =>
    exact h.trust_keeps ht hspec (by rw [(moves_eq hact).1]) (fun hl => hl.elim)
      (fun hl => hl.elim)
  | read previous => exact h.trust_read hk ht hact hspec
  | updated previous disposition =>
    obtain ⟨rfl, rfl⟩ := moves_eq hact
    exact h.trust_keeps ht hspec rfl (fun hl => ⟨_, rfl, hl⟩) (fun hl => hl.elim)
  | retained previous disposition revision =>
    have hpolicy : s'.policy = p.shared.policy := by cases hspec.change <;> assumption
    exact h.trust_keeps ht hspec hpolicy (trust_retained_looks (hk.knows _ _ ht).2 hact)
      (fun hl => hl.elim)
  | looking response => exact .trust_looking hk ht hact
  | closing response phase =>
    cases phase with
    | token =>
      obtain ⟨rfl, rfl⟩ := moves_eq hact
      exact h.trust_keeps ht hspec rfl (fun hl => hl.elim) (fun hl => ⟨_, rfl, hl⟩)
    | registry => exact h.trust_registry hk ht hact hspec
    | publishing =>
      obtain ⟨rfl, rfl⟩ := moves_eq hact
      exact h.trust_keeps ht hspec rfl (fun hl => hl.elim) (fun hl => hl.elim)
  | returning response =>
    obtain ⟨rfl, rfl⟩ := ends_eq hact
    exact h.trust_keeps ht hspec rfl (fun hl => hl.elim) (fun hl => hl.elim)

/-! ### Every step -/

/-- A piece of any task keeps the invariant. -/
theorem SafeAt.act (h : SafeAt p endpoint) (hk : Known host home p) (ht : p.task id = some t)
    (hact : Transport.act host p id t input = some (s', t', e))
    (hspec : PieceSpec host p.shared id t s' t') :
    SafeAt ((p.withShared s').put id t') endpoint := by
  cases t with
  | accept incoming phase => exact h.accept ht hspec
  | trust call phase =>
    by_cases he : call.endpoint = endpoint
    · subst he
      exact h.trust_own hk ht hact hspec
    · exact h.trust_other hk ht hspec he
  | _ =>
    have hpolicy : s'.policy = p.shared.policy := by cases hspec.change <;> assumption
    exact h.frame ht (by rw [hpolicy]) (by rw [hpolicy])
      (fun _ _ hl _ => hspec.change.lookup_of_connects rfl hl) (fun hl => hl.elim)
      (fun hl => hl.elim) hspec.passes_of_revoked

/-- Dropping a task keeps the invariant, unless it has still to look for or remove a session. -/
theorem SafeAt.cancel (h : SafeAt p endpoint) (hd : d.Sound) (ht : p.task id = some t)
    (hcancel : d.mayCancel t = true) :
    SafeAt ((p.withShared (p.shared.release id)).put id none) endpoint := by
  obtain ⟨hpolicy, hconn, -⟩ := release_keeps p.shared id
  refine h.frame ht (by rw [hpolicy]) (by rw [hpolicy]) (fun node entry hl _ => hconn ▸ hl)
    (fun hl => ?_) (fun hl => ?_) (fun _ => of_ended)
  · unfold Task.willLook at hl
    split at hl
    · cases hcancel
    · cases hcancel
    · simp [Discipline.mayCancel, TrustPhase.await, hd.lookup] at hcancel
    · exact hl.elim
  · unfold Task.willRemove at hl
    split at hl
    · simp [Discipline.mayCancel, TrustPhase.await, hd.token] at hcancel
    · simp [Discipline.mayCancel, TrustPhase.await, hd.registry] at hcancel
    · exact hl.elim

/-- A task that starts has no session that passed the check. -/
theorem InFlight.passes_spawn (h : InFlight (p.put id (some t)) (Task.passes endpoint))
    (hstarts : t.starts host = true) : InFlight p (Task.passes endpoint) := by
  obtain ⟨j, u, hput, hpass⟩ := h
  obtain ⟨rfl, hu⟩ | ⟨hj, hu⟩ := Pool.of_task_put hput
  · cases hu
    have := passes_holds hpass
    rw [holds_of_starts hstarts] at this
    cases this
  · exact ⟨j, u, hu, hpass⟩

theorem SafeAt.spawn (h : SafeAt p endpoint) (hnone : p.task id = none)
    (hstarts : t.starts host = true) : SafeAt (p.put id (some t)) endpoint := by
  have hkeep : ∀ {P : Task → Prop}, InFlight p P → InFlight (p.put id (some t)) P := by
    rintro P ⟨j, u, hu, hP⟩
    refine ⟨j, u, ?_, hP⟩
    rw [Pool.task_put_ne _ _ ?_]
    · exact hu
    · rintro rfl
      cases hnone.symm.trans hu
  intro hr
  rw [Pool.shared_put] at hr
  rcases h hr with hl | ⟨hp, hl⟩
  · exact .inl (hkeep hl)
  refine .inr ⟨fun hpass => hp (hpass.passes_spawn hstarts), ?_⟩
  rcases hl with hl | hclean
  · exact .inl (hkeep hl)
  · refine .inr fun node entry hentry he => ?_
    rw [Pool.shared_put] at hentry ⊢
    exact hclean node entry hentry he

/-- **The invariant holds in every reachable state under a sound discipline.** -/
theorem safe (hd : d.Sound) (hr : (d.program host home).lts.Reachable p) (endpoint : EndpointId) :
    SafeAt p endpoint := by
  refine hr.invariant (fun p => SafeAt p endpoint) (fun p h0 _ => .inr ⟨?_, .inr ?_⟩)
    fun p a p' hr hS hs => ?_
  · rintro ⟨j, u, hu, -⟩
    simp [Pool.task, h0.2] at hu
  · intro node entry hl
    rw [h0.1.2.1] at hl
    simp at hl
  · cases hs with
    | spawn hnone hspawn => exact hS.spawn hnone (d.rules host home _ _ hspawn)
    | act ht hact =>
      exact hS.act (known hd hr) ht hact (reachable_act_spec (d.rules host home) hr ht hact)
    | cancel ht hc => exact hS.cancel hd ht hc

/-! ## The promise -/

/-- What holds of a revocation that has returned. -/
structure Promised (p : Pool Shared Task) (call : TrustCall) : Prop where
  revoked : p.shared.policy.isRevoked call.endpoint = true
  passes : ¬ InFlight p (Task.passes call.endpoint)
  sessions : ∀ node entry, p.shared.connections.lookup node = some entry →
    entry.endpointId = call.endpoint → call.request.revision ≤ entry.authorizationRevision

/-- A piece of any task keeps the promise: the endpoint stays revoked, and no session passes. -/
theorem Promised.act (h : Promised p call) (hk : t.Knows host p.shared.policy)
    (ht : p.task id = some t) (hspec : PieceSpec host p.shared id t s' t') :
    Promised ((p.withShared s').put id t') call := by
  refine ⟨?_, fun hpass => h.passes (hpass.of_act ht (hspec.passes_of_revoked h.revoked)),
    fun node entry hl he => ?_⟩
  · rw [Pool.shared_put, Pool.shared_withShared]
    cases hspec.change with
    | keeps hp _ _ | records hp _ _ _ _ | registers hp _ _ | removes hp _ _ =>
      rw [hp]
      exact h.revoked
    | updates hp _ _ =>
      rw [hp]
      exact IdentityState.revoked_update hk.1.revision (mk.eta).symm h.revoked
  · rw [Pool.shared_put, Pool.shared_withShared] at hl
    obtain hl | ⟨_, _, _, rfl, -, he'⟩ := hspec.change.lookup hl
    · exact h.sessions node entry hl he
    · exact absurd ⟨id, _, ht, he'.symm.trans he, rfl⟩ h.passes

theorem Promised.spawn (h : Promised p call) (hstarts : t.starts host = true) :
    Promised (p.put id (some t)) call := by
  exact ⟨by simpa using h.revoked, fun hpass => h.passes (hpass.passes_spawn hstarts),
    by simpa using h.sessions⟩

theorem Promised.cancel (h : Promised p call) (ht : p.task id = some t) :
    Promised ((p.withShared (p.shared.release id)).put id none) call := by
  obtain ⟨hpolicy, hconn, -⟩ := release_keeps p.shared id
  refine ⟨?_, fun hpass => h.passes (hpass.of_act ht of_ended), fun node entry hl => ?_⟩
  · rw [Pool.shared_put, Pool.shared_withShared, hpolicy]
    exact h.revoked
  · rw [Pool.shared_put, Pool.shared_withShared, hconn] at hl
    exact h.sessions node entry hl

/-- When the call returns, it is the only one in flight for the endpoint. -/
theorem promised_return (hd : d.Sound) (hr : (d.program host home).lts.Reachable p)
    (ht : p.task id = some (.trust call (.returning response))) (hstate : call.state = .revoked)
    (happlied : response.disposition = .applied) : Promised p call := by
  have hk := known hd hr
  obtain ⟨hrevision, hrevoked⟩ := (hk.knows _ _ ht).2 happlied
  have hrevoked := hrevoked hstate
  have honly : ∀ {P : Task → Prop}, (∀ {u}, P u → u.trusts = some call.endpoint) →
      ¬ P (.trust call (.returning response)) → ¬ InFlight p P := by
    rintro P hP hnot ⟨j, u, hu, hPu⟩
    obtain rfl := hk.serial j id u _ call.endpoint hu ht (hP hPu) rfl
    cases ht.symm.trans hu
    exact hnot hPu
  rcases safe hd hr call.endpoint hrevoked with hl | ⟨hpass, hl | hclean⟩
  · exact absurd hl (honly willLook_trusts fun h => h)
  · exact absurd hl (honly willRemove_trusts fun h => h)
  · refine ⟨hrevoked, hpass, fun node entry hentry he => ?_⟩
    rw [← hrevision]
    exact hclean node entry hentry he

/-- The promise of every revocation that returned holds in every later state. -/
theorem promised_run (hd : d.Sound) (h : (d.program host home).lts.Run tr p)
    (hreturned : RevocationReturned tr call) : Promised p call := by
  refine h.invariant (fun tr p => ∀ call, RevocationReturned tr call → Promised p call) ?_ ?_ call
    hreturned
  · rintro p - call ⟨_, _, _, hmem, -⟩
    cases hmem
  · rintro tr p a p' hrun hI hs call ⟨id, input, response, hmem, hstate, happlied⟩
    have hr : (d.program host home).lts.Reachable p := ⟨tr, hrun⟩
    -- the promise holds before the step, which keeps it
    have hbefore : Promised p call := by
      rcases List.mem_append.1 hmem with hmem | hmem
      · exact hI call ⟨id, input, response, hmem, hstate, happlied⟩
      obtain rfl := List.mem_singleton.1 hmem
      cases hs with
      | act ht hact =>
        have hemits := reachable_act_emits (d.rules host home) hr ht hact
        cases hemits with
        | quiet hq => cases hq
        | trustReturned => exact promised_return hd hr ht hstate happlied
    cases hs with
    | spawn _ hspawn => exact hbefore.spawn (d.rules host home _ _ hspawn)
    | cancel ht hc => exact hbefore.cancel ht
    | act ht hact =>
      exact hbefore.act ((known hd hr).knows _ _ ht) ht
        (reachable_act_spec (d.rules host home) hr ht hact)

end Ocservia.Transport
