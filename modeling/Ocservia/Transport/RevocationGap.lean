import Ocservia.Transport.Revocation

/-!
# Where a revocation leaves a session behind

Each condition of a sound discipline is needed: without it there is a run in which
`update_node_trust` returns that a revocation was applied while an older session of the endpoint
stays registered. In the runs (`Gap`) a session is registered, and its endpoint is revoked by a call
that is dropped and retried, by two calls that overlap, or by a call for another node than the
session claims. `revocation_closes_sessions_iff` puts both directions together.
-/

namespace Ocservia.Transport

open Tasks List Option Bool

/-! ## Stricter and freer disciplines -/

/-- A discipline that allows what another one allows. -/
structure Discipline.Allows (d d' : Discipline) : Prop where
  serial : d'.serial = true → d.serial = true
  bound : d'.bound = true → d.bound = true
  cancel : ∀ point, d.cancel point = true → d'.cancel point = true

theorem Discipline.Allows.run {d d' : Discipline} {host : Host} {home : EndpointId → Bytes}
    {p : Pool Shared Task} (h : d.Allows d') {tr : List (Label Task Input Event)}
    (hrun : (d.program host home).lts.Run tr p) :
    (d'.program host home).lts.Run tr p := by
  refine Program.Run.mono (fun p t hspawn => ?_) (fun t hcancel => ?_) hrun
  · simp only [Discipline.spawn, and_eq_true, or_eq_true, not_eq_true'] at hspawn ⊢
    obtain ⟨⟨hstarts, hbound⟩, hserial⟩ := hspawn
    refine ⟨⟨hstarts, hbound.imp_left fun hb => ?_⟩, hserial.imp_left fun hs => ?_⟩
    · rw [← not_eq_true] at hb ⊢
      exact fun hb' => hb (h.bound hb')
    · rw [← not_eq_true] at hs ⊢
      exact fun hs' => hs (h.serial hs')
  · cases t with
    | trust call phase =>
      obtain ⟨hsome, hc⟩ := (any_eq_true_iff_get _ _).1 hcancel
      exact (any_eq_true_iff_get _ _).2 ⟨hsome, h.cancel _ hc⟩
    | _ => exact hcancel

/-- The strictest discipline. -/
def strict : Discipline := ⟨true, true, fun _ => false⟩

/-- The strictest discipline, except that a call may be dropped at `point`. -/
def dropping (point : TrustAwait) : Discipline := { strict with cancel := (· == point) }

/-! ## A session that outlives its revocation -/

namespace Gap

/-- A process with a live trust authority. -/
def host : Host where
  platform := samplePlatform
  keyring := none
  requireFencing := false
  trust := true
  validKey _ := true
  systemTime value := some ⟨value.seconds, 0⟩

def endpoint : EndpointId := .fill 9

/-- The node that the endpoint belongs to. -/
def node : Uuid := sampleUuid 3

def otherNode : Uuid := sampleUuid 4

/-- The snapshot approves the endpoint at revision three. -/
def policy : IdentityState :=
  ⟨(∅ : AList _).insert endpoint node.1, ∅, (∅ : AList _).insert endpoint 3, true⟩

theorem policy_initial : Initial policy :=
  .inr ⟨[⟨endpoint, node.1, .active, 3⟩], rfl⟩

/-- transportd before its first connection. -/
def start : Pool Shared Task := ⟨⟨policy, ∅, ∅, ∅, none, 0⟩, ∅⟩

theorem start_init (d : Discipline) (home : EndpointId → Bytes) :
    (d.program host home).lts.init start :=
  ⟨⟨policy_initial, rfl, rfl, rfl, rfl⟩, rfl⟩

section
variable (claimed : Uuid)

/-- The handshake of the endpoint, which claims the node `claimed`. -/
def handshake : SessionHandshake where
  protocolMajor := 1
  protocolMinor := 1
  nodeId := claimed.1
  endpointId := endpoint.1
  agentInstanceId := (sampleUuid 5).1
  capabilities := []
  supportedCompressions := []
  texts := []
  maxMessageSize := 4096
  nonce := List.replicate 16 0

/-- The grant of the session at authorization revision three. -/
def grant : SessionGrantV1 where
  version := 1
  keyId := "k"
  protocolMajor := 1
  protocolMinor := 1
  nodeId := claimed.1
  endpointId := endpoint.1
  authorizationRevision := 3
  negotiatedCapabilities := []
  issuedAt := some ⟨490, 0⟩
  expiresAt := some ⟨530, 0⟩
  signature := List.replicate 64 0

/-- What the trust authority answers, at every piece. -/
def input : Input where
  clock := ⟨⟨500, 0⟩, ⟨500, 0⟩⟩
  systemNow := ⟨500, 0⟩
  answer :=
    { result := 1, maxMessageSize := 4096, protocolMajor := 1, protocolMinor := 1
      negotiatedCapabilities := [], sessionGrant := some (grant claimed), connectionFence := none }
  recheck := .ok true

/-- The revocation of the endpoint at revision four. -/
def call : TrustCall where
  request := ⟨node.1, endpoint.1, 2, "r", 4, [], none⟩
  nodeId := node
  endpoint := endpoint
  state := .revoked

/-- `n` silent pieces of a task. -/
def pieces (id n : Nat) : List (Label Task Input Event) :=
  List.replicate n (.act id (input claimed) .silent)

/-- The endpoint connects and its session is registered. -/
def connects : List (Label Task Input Event) :=
  .spawn 0 (.accept ⟨0, endpoint, handshake claimed⟩ .connecting) :: pieces claimed 0 10

/-- A call begins, its binding is verified, and it takes `n` more pieces. -/
def calls (id n : Nat) : List (Label Task Input Event) :=
  .spawn id (.trust call .binding) ::
    .act id (input claimed) (.admitted ⟨node, .stateUpdate, [], none⟩) :: pieces claimed id n

/-- The call returns that the revocation was applied. -/
def returns (id : Nat) : Label Task Input Event :=
  .act id (input claimed) (.trustReturned call ⟨.applied, 4, .revoked⟩)

/-- A call is dropped after `n` pieces, and the caller retries it. -/
def droppedTrace (n : Nat) : List (Label Task Input Event) :=
  connects node ++ calls node 1 n ++ [.cancel 1] ++ calls node 2 4 ++ [returns node 2]

/-- A call is on its way to look for the session when the same call is made again. -/
def overlappingTrace : List (Label Task Input Event) :=
  connects node ++ calls node 1 4 ++ calls node 2 4 ++ [returns node 2]

/-- The session claims a node that the endpoint does not belong to. -/
def foreignTrace : List (Label Task Input Event) :=
  connects otherNode ++ calls otherNode 1 5 ++ [returns otherNode 1]

theorem mem_droppedTrace (n : Nat) : returns node 2 ∈ droppedTrace n :=
  mem_append_right _ (mem_singleton_self _)

theorem mem_overlappingTrace : returns node 2 ∈ overlappingTrace :=
  mem_append_right _ (mem_singleton_self _)

theorem mem_foreignTrace : returns otherNode 1 ∈ foreignTrace :=
  mem_append_right _ (mem_singleton_self _)

/-- The session of the endpoint is still registered at revision three. -/
def outlived (p : Pool Shared Task) : Bool :=
  (p.shared.connections.lookup claimed.1).any fun entry =>
    entry.endpointId == endpoint && entry.authorizationRevision == 3

end

variable {tr : List (Label Task Input Event)} {d : Discipline}

theorem broken {id : Nat} {p : Pool Shared Task} (hreturned : returns claimed id ∈ tr)
    (houtlived : outlived claimed p = true) : ¬ RevocationCloses tr p.shared := by
  intro h
  unfold outlived at houtlived
  cases hl : p.shared.connections.lookup claimed.1 with
  | none => simp [hl] at houtlived
  | some entry =>
    simp only [hl, any_some, and_eq_true, beq_iff_eq] at houtlived
    have := h call ⟨id, _, _, hreturned, rfl, rfl⟩ claimed.1 entry hl houtlived.1
    rw [houtlived.2] at this
    exact absurd this (by decide)

/-- A run of the trace that ends with the session still registered. -/
theorem run_of_outlived
    (h : ((tr.foldlM (d.program host home).next start).any (outlived claimed)) = true) :
    ∃ p, (d.program host home).lts.Run tr p ∧ outlived claimed p = true := by
  cases hrun : tr.foldlM (d.program host home).next start with
  | none => simp [hrun] at h
  | some p =>
    rw [hrun] at h
    exact ⟨p, Program.run_of_next (start_init d home) hrun, h⟩

/-- A revocation that is dropped before it looks for the session, and retried. -/
theorem lookup_outlived : ((droppedTrace 4).foldlM ((dropping .lookup).program host
    fun _ => node.1).next start).any (outlived node) = true := by
  decide +kernel

theorem token_outlived : ((droppedTrace 5).foldlM ((dropping .token).program host
    fun _ => node.1).next start).any (outlived node) = true := by
  decide +kernel

theorem registry_outlived : ((droppedTrace 6).foldlM ((dropping .registry).program host
    fun _ => node.1).next start).any (outlived node) = true := by
  decide +kernel

theorem overlapping_outlived : (overlappingTrace.foldlM
    (Discipline.program { strict with serial := false } host fun _ => node.1).next
    start).any (outlived node) = true := by
  decide +kernel

theorem foreign_outlived : (foreignTrace.foldlM
    (Discipline.program { strict with bound := false } host fun _ => node.1).next
    start).any (outlived otherNode) = true := by
  decide +kernel

/-- A discipline that lets a session outlive its revocation does not keep the promise. -/
theorem not_closes {d' : Discipline} {id : Nat} (hallows : d.Allows d')
    (hreturned : returns claimed id ∈ tr)
    (h : (tr.foldlM (d.program host fun _ => node.1).next start).any (outlived claimed) = true) :
    ¬ ∀ host home tr p, (d'.program host home).lts.Run tr p → RevocationCloses tr p.shared := by
  intro hall
  obtain ⟨p, hrun, houtlived⟩ := run_of_outlived h
  exact broken hreturned houtlived (hall _ _ _ p (hallows.run hrun))

theorem dropping_allows (h : d.cancel point = true) :
    (dropping point).Allows d where
  serial _ := rfl
  bound _ := rfl
  cancel other hother := by
    obtain rfl : other = point := eq_of_beq hother
    exact h

end Gap

/-- The revocation is dropped before it looks for the session and retried; the retry returns as
applied, and the older session stays. -/
theorem retried_revocation_leaves_session :
    ∃ p, ((dropping .lookup).program Gap.host fun _ => Gap.node.1).lts.Run (Gap.droppedTrace 4) p ∧
      ¬ RevocationCloses (Gap.droppedTrace 4) p.shared := by
  obtain ⟨p, hrun, houtlived⟩ := Gap.run_of_outlived Gap.lookup_outlived
  exact ⟨p, hrun, Gap.broken (Gap.mem_droppedTrace 4) houtlived⟩

/-- **A revocation closes the older sessions of its endpoint, in every interleaving, exactly under
the sound disciplines of the callers.** -/
theorem revocation_closes_sessions_iff (d : Discipline) :
    (∀ host home tr p, (d.program host home).lts.Run tr p → RevocationCloses tr p.shared) ↔
      d.Sound := by
  constructor
  · intro hall
    -- a condition that fails allows one of the runs with a session that outlives its revocation
    refine ⟨?_, ?_, ?_, ?_, ?_⟩
    · by_contra hserial
      refine Gap.not_closes ⟨fun hs => absurd hs hserial, fun _ => rfl, fun _ hc => ?_⟩
        Gap.mem_overlappingTrace Gap.overlapping_outlived hall
      cases hc
    · by_contra hbound
      refine Gap.not_closes ⟨fun _ => rfl, fun hb => absurd hb hbound, fun _ hc => ?_⟩
        Gap.mem_foreignTrace Gap.foreign_outlived hall
      cases hc
    · rw [← not_eq_true]
      intro hcancel
      exact Gap.not_closes (Gap.dropping_allows hcancel) (Gap.mem_droppedTrace _)
        Gap.lookup_outlived hall
    · rw [← not_eq_true]
      intro hcancel
      exact Gap.not_closes (Gap.dropping_allows hcancel) (Gap.mem_droppedTrace _)
        Gap.token_outlived hall
    · rw [← not_eq_true]
      intro hcancel
      exact Gap.not_closes (Gap.dropping_allows hcancel) (Gap.mem_droppedTrace _)
        Gap.registry_outlived hall
  · intro hd host home tr p hrun call hreturned
    exact (promised_run hd hrun hreturned).sessions

end Ocservia.Transport
