import Ocservia.Transport.Steps

/-!
# transportd relays only the registered owner's operations

`transportd/src/lib.rs`: the sessions and the owner fences are read under different locks, by
`verify_command_fence` for commands and by `verify_operation_binding` for everything else. The
results here hold in every interleaving of all tasks.

A fence is recorded only over one of a lower or the same epoch, and never removed, so the registered
epoch of a node never decreases (`epoch_grows`). A command passes `validate_command_dispatch` only
as `Relayed` says, and an operation of a node with a registered fence is admitted only as
`Task.Bound` says.
-/

namespace Ocservia.Transport

open Tasks Checked Option Pool Except

section
variable {id : Nat} {t : Task}

/-- transportd starts its tasks at their start. -/
theorem program_rules (host : Host) : Rules host (program host).spawn := fun _ _ h => h

theorem program_act_spec (hr : (program host).lts.Reachable p) (ht : p.task id = some t)
    (h : act host p id t input = some (s', t', e)) : PieceSpec host p.shared id t s' t' :=
  reachable_act_spec (program_rules host) hr ht h

/-! ## The registered epoch -/

/-- Registered fences stay registered, at their epoch or a higher one. -/
def FencesGrow (s s' : Shared) : Prop :=
  ∀ node fence, s.fences.lookup node = some fence →
    ∃ fence', s'.fences.lookup node = some fence' ∧ fence.epoch ≤ fence'.epoch

theorem FencesGrow.of_eq (h : s'.fences = s.fences) : FencesGrow s s' := by
  intro node fence hl
  exact ⟨fence, by rw [h, hl], UInt64.le_refl _⟩

theorem FencesGrow.trans (h : FencesGrow s₁ s₂) (h' : FencesGrow s₂ s₃) : FencesGrow s₁ s₃ := by
  intro node fence hl
  obtain ⟨fence', hl', hle⟩ := h node fence hl
  obtain ⟨fence'', hl'', hle'⟩ := h' node fence' hl'
  exact ⟨fence'', hl'', UInt64.le_trans hle hle'⟩

/-- A piece of a task lets the fences grow. -/
theorem Change.fencesGrow (h : Change s t s') : FencesGrow s s' := by
  cases h with
  | keeps _ _ hf | updates _ _ hf | registers _ _ hf | removes _ _ hf => exact .of_eq hf
  | @records _ _ nodeId fence _ _ hf hrecords _ =>
    intro node existing hl
    by_cases hn : node = nodeId
    · subst hn
      rw [hl] at hrecords
      exact ⟨fence, by rw [hf, AList.lookup_insert], epoch_le_of_records hrecords⟩
    · exact ⟨existing, by rw [hf, AList.lookup_insert_ne hn, hl], UInt64.le_refl _⟩

theorem step_fencesGrow (hr : (program host).lts.Reachable p)
    (hs : (program host).lts.step p a p') :
    FencesGrow p.shared p'.shared := by
  cases hs with
  | spawn _ _ => exact .of_eq (by rw [shared_put])
  | act ht hact =>
    rw [shared_put, shared_withShared]
    exact (program_act_spec hr ht hact).change.fencesGrow
  | @cancel j t ht _ =>
    rw [shared_put, shared_withShared]
    exact .of_eq (release_keeps p.shared j).2.2

/-- The owner epoch registered for a node never decreases while the process runs. -/
theorem epoch_grows (hrun : (program host).lts.Run tr p) (hsteps : (program host).lts.Steps p u p')
    : FencesGrow p.shared p'.shared :=
  hrun.related (R := fun p p' => FencesGrow p.shared p'.shared) (fun _ => .of_eq rfl)
    FencesGrow.trans (fun _ _ _ hr hs => step_fencesGrow hr hs) hsteps

/-- A node without a registered fence never had one. -/
theorem never_registered (hrun : (program host).lts.Run tr p)
    (hsteps : (program host).lts.Steps p u p') (hnone : p'.shared.fences.lookup node = none) :
    p.shared.fences.lookup node = none := by
  rw [eq_none_iff_forall_ne_some]
  intro fence hl
  obtain ⟨fence', hl', -⟩ := epoch_grows hrun hsteps node fence hl
  cases hnone.symm.trans hl'

/-! ## Commands -/

/-- A dispatch reads the sessions: what it finds in `q`, and has checked at the clocks of `input`
when it goes on to `phase`. -/
structure LooksUp (host : Host) (id : Nat) (nodeId : Bytes) (command : StoredEnvelope)
    (length : Nat)
    (phase : DispatchPhase) (session : RegisteredConnection) (q : Pool Shared Task)
    (input : Input) :
    Prop where
  task : q.task id = some (.dispatch nodeId command length .looking)
  found : q.shared.connections.lookup nodeId = some session
  admitted : admitCommand session command.command length input.systemNow = .ok ()
  prepared : prepareCommandFence host nodeId command session input.clock = .ok phase

/-- A dispatch that goes on has found a session. -/
theorem dispatchAct_goes
    (h : dispatchAct host s nodeId command length phase input = some (s', some u, e)) :
    phase = .looking ∧ ∃ session phase', u = .dispatch nodeId command length phase' ∧
      s.connections.lookup nodeId = some session ∧
      admitCommand session command.command length input.systemNow = .ok () ∧
      prepareCommandFence host nodeId command session input.clock = .ok phase' := by
  cases phase with
  | looking =>
    obtain ⟨-, h⟩ := whenFree_eq_some h
    split at h
    · cases h
    rename_i session hsession
    dsimp only at h
    split at h
    · cases h
    rename_i phase' hprepared
    obtain ⟨_, hadmit, hprepare⟩ := bind_eq_ok.1 hprepared
    cases h
    exact ⟨rfl, session, phase', rfl, hsession, hadmit, hprepare⟩
  | bare | fenced =>
    simp only [dispatchAct] at h
    split at h
    iterate 2 cases h

/-- A dispatch that has gone on did so in its last piece, from the session that it found. -/
def DispatchKnows (host : Host) (tr : List (Label Task Input Event)) (p : Pool Shared Task) :
    Prop :=
  ∀ id nodeId command length phase, p.task id = some (.dispatch nodeId command length phase) →
    phase = .looking ∨ (program host).Last id
      (fun q input => ∃ session, LooksUp host id nodeId command length phase session q input) tr p

/-- A dispatch knows its session in every interleaving. -/
theorem dispatchKnows_run (hrun : (program host).lts.Run tr p) : DispatchKnows host tr p := by
  refine hrun.invariant (DispatchKnows host) (fun p h0 id nodeId command length phase ht => ?_)
    fun tr p a p' hrun hI hs j nodeId command length phase hput => ?_
  · simp [task, h0.2] at ht
  · have hs' := hs
    cases hs with
    | @spawn id t hnone hspawn =>
      obtain ⟨rfl, hj⟩ | ⟨hid, hj⟩ := of_task_put hput
      · cases hj
        cases phase with
        | looking => exact .inl rfl
        | _ => cases hspawn
      · exact (hI j _ _ _ _ hj).imp_right fun h => h.snoc hs' hid.symm
    | @act id t i s t' e ht hact =>
      obtain ⟨rfl, rfl⟩ | ⟨hid, hj⟩ := of_task_put hput
      · cases (program_act_spec ⟨tr, hrun⟩ ht hact).follows _ rfl with
        | dispatch =>
          obtain ⟨rfl, session, _, hphase, hfound, hadmitted, hprepared⟩ := dispatchAct_goes hact
          cases hphase
          exact .inr (.now hrun hs' ⟨session, ht, hfound, hadmitted, hprepared⟩)
        | plain _ hplain => cases hplain
      · exact (hI j _ _ _ _ hj).imp_right fun h => h.snoc hs' hid.symm
    | @cancel id t ht hc =>
      obtain ⟨-, ⟨⟩⟩ | ⟨hid, hj⟩ := of_task_put hput
      exact (hI j _ _ _ _ hj).imp_right fun h => h.snoc hs' hid.symm

/-- How a command passes: under the session's `fence` and the node's `registered` one, with carriers
verified at `clock`, or bare without either. -/
inductive CommandTerm (host : Host) (nodeId : Bytes) (command : StoredEnvelope)
    (session : RegisteredConnection) (clock : Clock)
    (registered : Option RegisteredFence) : Prop where
  | fenced {node : Uuid} {fence owner : RegisteredFence} {verified : VerifiedConnectionFenceV2}
      {claims : FenceBindingClaimsV2} :
      node.1 = nodeId → session.fence = some fence → registered = some owner →
      CarriersVerified host node fence.endpointId command clock verified claims →
      verified.term = fence.verified.term → verified.term = owner.verified.term →
      claims.term = verified.term → CommandTerm host nodeId command session clock registered
  | bare : session.fence = none → registered = none → command.connectionFence = none →
      command.fenceBinding = none → CommandTerm host nodeId command session clock registered

/-- The first part of the check of a command's fence. -/
theorem prepareCommandFence_ok
    (h : prepareCommandFence host nodeId command session clock = .ok phase) :
    (session.fence = none ∧ command.connectionFence = none ∧ command.fenceBinding = none ∧
        phase = .bare session) ∨
      ∃ node fence verified claims, node.1 = nodeId ∧ session.fence = some fence ∧
        CarriersVerified host node fence.endpointId command clock verified claims ∧
        phase = .fenced session fence verified claims clock := by
  unfold prepareCommandFence at h
  split at h
  · rename_i hfence
    obtain ⟨hbare, h⟩ := require_bind.1 h
    iterate 2 obtain ⟨_, h⟩ := of_bind h
    simp only [Bool.and_eq_true, isNone_iff_eq_none] at hbare
    exact .inl ⟨hfence, hbare.1, hbare.2, (ok.inj h).symm⟩
  rename_i fence hfence
  obtain ⟨keyring, hkeyring, h⟩ := get_bind.1 h
  obtain ⟨node, hnode, h⟩ := bind_eq_ok.1 h
  obtain ⟨⟨verified, claims⟩, hcarriers, h⟩ := bind_eq_ok.1 h
  exact .inr ⟨node, fence, verified, claims, fixed_eq_ok hnode, hfence,
    verifyCommandCarriers_ok hkeyring hcarriers, (ok.inj h).symm⟩

/-- The second part of the check of a command's fence. -/
theorem checkCommandTerm_ok (h : checkCommandTerm registered fence verified claims = .ok u) :
    ∃ owner, registered = some owner ∧ verified.term = fence.verified.term ∧
      verified.term = owner.verified.term ∧ claims.term = verified.term := by
  unfold checkCommandTerm at h
  obtain ⟨owner, howner, h⟩ := get_bind.1 h
  obtain ⟨hterms, h⟩ := require_bind.1 h
  simp only [sameFenceTerm, Bool.and_eq_true, beq_iff_eq] at hterms
  exact ⟨owner, howner, hterms.2.symm, hterms.1.symm,
    eq_of_beq (require_eq_ok.1 h)⟩

/-- What a command that the task `id` lets pass in `p`, after the trace `tr`, rests on. -/
structure Relayed (host : Host) (tr : List (Label Task Input Event))
    (p : Pool Shared Task) (id : Nat)
    (nodeId : Bytes) (command : StoredEnvelope) (connection : Nat) : Prop where
  /-- In its last piece the call found the session registered, and the carriers, verified then, have
  the terms of that session and of the fence registered now. -/
  term : ∃ length phase, (program host).Last id (fun q input => ∃ session,
    session.connection = connection ∧ LooksUp host id nodeId command length phase session q input ∧
    CommandTerm host nodeId command session input.clock (p.shared.fences.lookup nodeId)) tr p
  /-- When there is none registered now, there never was one. -/
  never : p.shared.fences.lookup nodeId = none → ∀ tr₀ u q, tr = tr₀ ++ u →
    (program host).lts.Run tr₀ q → (program host).lts.Steps q u p →
    q.shared.fences.lookup nodeId = none

/-- Every command that passes is relayed so. -/
theorem relayed (hrun : (program host).lts.Run tr p)
    (hs : (program host).lts.step p (.act id input e) p')
    (he : e = .dispatched nodeId command connection) :
    Relayed host tr p id nodeId command connection := by
  refine ⟨?_, fun hnone tr₀ u q _ hq hsteps => never_registered hq hsteps hnone⟩
  cases hs with
  | @act _ t _ s t' _ ht hact =>
    subst he
    have hemits := reachable_act_emits (program_rules host) ⟨tr, hrun⟩ ht hact
    cases hemits with
    | quiet hq => cases hq
    | @dispatchedBare _ _ length session hnone =>
      rcases dispatchKnows_run hrun _ _ _ _ _ ht with hlooking | hlast
      · cases hlooking
      refine ⟨length, .bare session, hlast.imp ?_⟩
      rintro q input ⟨session', hlook⟩
      rcases prepareCommandFence_ok hlook.prepared with ⟨hfence, hcf, hfb, hphase⟩ | hfenced
      · obtain rfl := DispatchPhase.bare.inj hphase
        exact ⟨session, rfl, hlook, .bare hfence hnone hcf hfb⟩
      · obtain ⟨_, _, _, _, -, -, -, hphase⟩ := hfenced
        cases hphase
    | @dispatchedFenced _ _ length session fence verified claims clock _ hterm =>
      rcases dispatchKnows_run hrun _ _ _ _ _ ht with hlooking | hlast
      · cases hlooking
      obtain ⟨owner, howner, hsession, hregistered, hclaims⟩ := checkCommandTerm_ok hterm
      refine ⟨length, .fenced session fence verified claims clock, hlast.imp ?_⟩
      rintro q input ⟨session', hlook⟩
      rcases prepareCommandFence_ok hlook.prepared with hbare | hfenced
      · cases hbare.2.2.2
      obtain ⟨node, fence', verified', claims', hnode, hfence, hcarriers, hphase⟩ := hfenced
      obtain ⟨rfl, rfl, rfl, rfl, rfl⟩ := DispatchPhase.fenced.inj hphase
      exact ⟨session, rfl, hlook,
        .fenced hnode hfence howner hcarriers hsession hregistered hclaims⟩

/-! ## Operations -/

/-- The operation of a task: kind, node and identity, as its request has them. -/
def Task.operation (host : Host) : Task → Option (FenceOperationKind × Bytes × Bytes)
  | .trust call _ => some (.stateUpdate, call.request.nodeId,
      stateUpdateOperationId host.platform call.nodeId call.endpoint
        call.request.state.toInt.toNat call.request.revision call.request.reason)
  | .close call _ => some (.connectionClose, call.nodeId.1, call.nodeId.1)
  | .artifact (.fetch request) _ _ => some (.artifact, request.nodeId, request.artifactId)
  | .artifact (.consume request) _ _ =>
    request.grant.map fun grant => (.artifact, request.nodeId, grant.grantId)
  | _ => none

/-- The binding that the request of a task presents. -/
def Task.fenceBinding : Task → Option FenceBindingV2
  | .trust call _ => call.request.fenceBinding
  | .close call _ => call.fenceBinding
  | .artifact (.fetch request) _ _ => request.fenceBinding
  | .artifact (.consume request) _ _ => request.fenceBinding
  | _ => none

/-- The arguments of a task in flight were checked. -/
def Task.Checked (host : Host) : Task → Prop
  | .trust call _ => call.Valid host
  | .artifact request call _ => request.validate = .ok call
  | _ => True

theorem Follows.checked (h : Follows host s t u) (ht : t.Checked host) : u.Checked host := by
  cases h with
  | accept | dispatch => trivial
  | trust | artifact => exact ht
  | plain _ hu => cases u <;> trivial

theorem checked_of_starts (h : t.starts host = true) : t.Checked host := by
  cases t with
  | trust call phase =>
    cases phase with
    | binding => exact validateTrustUpdate_ok (of_decide_eq_true h)
    | _ => cases h
  | artifact request call phase =>
    cases phase with
    | looking =>
      have hvalid : request.validate = .ok call := of_decide_eq_true h
      exact hvalid
    | binding => cases h
  | _ => trivial

theorem checked_outline (host : Host) :
    Program.Outline (program host) (fun _ => True) (fun _ _ t => t.Checked host) where
  init _ _ := trivial
  spawn _ _ _ _ hspawn := checked_of_starts hspawn
  act hr _ hJ ht hact := by
    refine ⟨trivial, fun u hu => ?_⟩
    exact ((program_act_spec hr ht hact).follows u hu).checked (hJ _ _ ht)
  interfere _ _ hJ _ _ j u _ hu := hJ j u hu
  cancel _ hJ _ _ := ⟨trivial, fun j u _ hu => hJ j u hu⟩

theorem validateUuid_ok (h : validateUuid value name = .ok result) : result = value := by
  unfold validateUuid at h
  iterate 2 obtain ⟨_, h⟩ := of_bind h
  exact (ok.inj h).symm

/-- A checked artifact operation has node, identity and binding of its request. -/
theorem ArtifactRequest.validate_ok (h : request.validate = .ok call) (phase : ArtifactPhase) :
    (Task.artifact request call phase).operation host =
        some (.artifact, call.nodeId.1, call.operationId) ∧
      (Task.artifact request call phase).fenceBinding = call.fenceBinding := by
  cases request with
  | fetch request =>
    simp only [validate, validateFetchArtifact] at h
    obtain ⟨nodeId, hnode, h⟩ := bind_eq_ok.1 h
    obtain ⟨artifactId, hartifact, h⟩ := bind_eq_ok.1 h
    iterate 2 obtain ⟨_, h⟩ := of_bind h
    obtain ⟨node, hfixed, h⟩ := bind_eq_ok.1 h
    cases h
    refine ⟨?_, rfl⟩
    simp only [Task.operation, validateUuid_ok hartifact, fixed_eq_ok hfixed, validateUuid_ok hnode]
  | consume request =>
    simp only [validate, validateConsumeArtifact] at h
    obtain ⟨nodeId, hnode, h⟩ := bind_eq_ok.1 h
    obtain ⟨grant, hgrant, h⟩ := get_bind.1 h
    obtain ⟨_, h⟩ := of_bind h
    obtain ⟨node, hfixed, h⟩ := bind_eq_ok.1 h
    cases h
    refine ⟨?_, rfl⟩
    simp [Task.operation, hgrant, fixed_eq_ok hfixed, validateUuid_ok hnode]

/-- The task's binding is verified, of the registered term, and for its operation. -/
def Task.Bound (host : Host) (t : Task) (nodeId : Uuid) (registered : RegisteredFence)
    (clock : Clock) : Prop :=
  ∃ kind operationId, t.operation host = some (kind, nodeId.1, operationId) ∧
    OperationBound host registered nodeId t.fenceBinding kind operationId clock

/-- A binding names sixteen bytes, so a trust update's has the identity of its arguments. -/
theorem trust_bound (hvalid : call.Valid host)
    (h : OperationBound host registered call.nodeId call.request.fenceBinding .stateUpdate
      call.request.operationId clock) :
    (Task.trust call phase).Bound host call.nodeId registered clock := by
  refine ⟨.stateUpdate, _, ?_, h⟩
  rcases hvalid.operation with hempty | hderived
  · obtain ⟨_, _, _, claims, -, -, -, -, hid, -⟩ := h.bound
    have hlength := claims.operationId.2
    rw [hid, hempty] at hlength
    cases hlength
  · rw [Task.operation, ← hvalid.node, hderived]

theorem operation_bound (hr : (program host).lts.Reachable p)
    (hs : (program host).lts.step p (.act id input e) p') (he : e = .admitted operation)
    (hfence : p.shared.fences.lookup operation.nodeId.1 = some registered) :
    ∃ t, p.task id = some t ∧ t.Bound host operation.nodeId registered input.clock := by
  obtain ⟨tr, hrun⟩ := hr
  have hchecked := ((checked_outline host).run hrun).2
  cases hs with
  | @act _ t _ s t' _ ht hact =>
    subst he
    refine ⟨t, ht, ?_⟩
    have hcheckedt := hchecked _ _ ht
    have hemits := reachable_act_emits (program_rules host) ⟨tr, hrun⟩ ht hact
    cases hemits with
    | quiet hq => cases hq
    | trustAdmitted hok =>
      dsimp only at hfence
      rw [hfence] at hok
      exact trust_bound hcheckedt (verifyOperationBinding_ok hok)
    | closeAdmitted hok =>
      dsimp only at hfence
      rw [hfence] at hok
      exact ⟨_, _, rfl, verifyOperationBinding_ok hok⟩
    | artifactAdmitted hok =>
      dsimp only at hfence
      rw [hfence] at hok
      obtain ⟨hoperation, hbinding⟩ := ArtifactRequest.validate_ok hcheckedt _
      refine ⟨_, _, hoperation, ?_⟩
      rw [hbinding]
      exact verifyOperationBinding_ok hok

/-- **transportd relays only the registered owner's operations**: the registered epochs never
decrease, a command passes only under the terms of its session and of the registered fence, and an
operation of a node with a registered fence is admitted only under a binding of that term for it. -/
theorem relays_registered_owner (hrun : (program host).lts.Run tr p) :
    (∀ u p', (program host).lts.Steps p u p' → FencesGrow p.shared p'.shared) ∧
    (∀ id input nodeId command connection p',
      (program host).lts.step p (.act id input (.dispatched nodeId command connection)) p' →
      Relayed host tr p id nodeId command connection) ∧
    ∀ id input operation registered p',
      (program host).lts.step p (.act id input (.admitted operation)) p' →
      p.shared.fences.lookup operation.nodeId.1 = some registered →
      ∃ t, p.task id = some t ∧ t.Bound host operation.nodeId registered input.clock := by
  refine ⟨fun u p' hsteps => epoch_grows hrun hsteps, ?_, ?_⟩
  · intro id input nodeId command connection p' hs
    exact relayed hrun hs rfl
  · intro id input operation registered p' hs hfence
    exact operation_bound ⟨tr, hrun⟩ hs rfl hfence

end

/-! ## A command of the owner -/

namespace Owned

/-- A process with Controller keys, which requires fencing. -/
def host : Host where
  platform := samplePlatform
  keyring := some ⟨[("ed25519", [])]⟩
  requireFencing := true
  trust := true
  validKey _ := true
  systemTime value := some ⟨value.seconds, 0⟩

def endpoint : EndpointId := .fill 9

/-- transportd with a snapshot that approves the endpoint. -/
def start : Pool Shared Task :=
  ⟨⟨⟨(∅ : AList _).insert endpoint (sampleUuid 3).1, ∅, (∅ : AList _).insert endpoint 1, true⟩,
    ∅, ∅, ∅, none, 0⟩, ∅⟩

theorem start_init : (program host).lts.init start :=
  ⟨⟨.inr ⟨[⟨endpoint, (sampleUuid 3).1, .active, 1⟩], rfl⟩, rfl, rfl, rfl, rfl⟩, rfl⟩

def incoming : Incoming where
  connection := 0
  remote := endpoint
  handshake :=
    { protocolMajor := 1, protocolMinor := 1, nodeId := (sampleUuid 3).1
      endpointId := endpoint.1, agentInstanceId := (sampleUuid 5).1
      capabilities := ["ocserv.users.write"], supportedCompressions := [], texts := []
      maxMessageSize := 4096, nonce := List.replicate 16 0 }

/-- The trust authority grants the session with the fence of epoch five. -/
def input : Input where
  clock := ⟨⟨500, 0⟩, ⟨500, 0⟩⟩
  systemNow := ⟨500, 0⟩
  answer :=
    { result := 1, maxMessageSize := 4096, protocolMajor := 1, protocolMinor := 1
      negotiatedCapabilities := ["ocserv.users.write"]
      sessionGrant := some
        { version := 1, keyId := "k", protocolMajor := 1, protocolMinor := 1
          nodeId := (sampleUuid 3).1, endpointId := endpoint.1, authorizationRevision := 1
          negotiatedCapabilities := ["ocserv.users.write"], issuedAt := some ⟨490, 0⟩
          expiresAt := some ⟨530, 0⟩, signature := List.replicate 64 0 }
      connectionFence := some (sampleFence 5 6) }
  recheck := .ok true

/-- A command of the owner of epoch five. -/
def command : StoredEnvelope :=
  ⟨sampleDisable .executeOrReplay 1, some (sampleFence 5 6), some (sampleBinding 5 6)⟩

/-- The session is registered with its fence, and the dispatch has verified the command. -/
def trace : List (Label Task Input Event) :=
  .spawn 0 (.accept incoming .connecting) :: List.replicate 10 (.act 0 input .silent) ++
    [.spawn 1 (.dispatch (sampleUuid 3).1 command 512 .looking), .act 1 input .silent]

/-- The dispatch returns the connection. -/
def passes : Label Task Input Event :=
  .act 1 input (.dispatched (sampleUuid 3).1 command 0)

end Owned

/-- A command of the registered owner passes, under its fence. -/
theorem ownedCommand_relayed : ∃ p, (program Owned.host).lts.Run Owned.trace p ∧
    (p.shared.fences.lookup (sampleUuid 3).1).isSome = true ∧
    Relayed Owned.host Owned.trace p 1 (sampleUuid 3).1 Owned.command 0 := by
  have h : (Owned.trace.foldlM (program Owned.host).next Owned.start).any
      (fun p => ((program Owned.host).next p Owned.passes).isSome &&
        (p.shared.fences.lookup (sampleUuid 3).1).isSome) = true := by
    decide +kernel
  cases hrun : Owned.trace.foldlM (program Owned.host).next Owned.start with
  | none => simp [hrun] at h
  | some p =>
    simp only [hrun, any_some, Bool.and_eq_true] at h
    obtain ⟨p', hp'⟩ := isSome_iff_exists.1 h.1
    have hr := Program.run_of_next Owned.start_init hrun
    exact ⟨p, hr, h.2, (relays_registered_owner hr).2.1 1 Owned.input _ _ _ p'
      (Program.step_of_next hp')⟩

end Ocservia.Transport
