import Ocservia.Lib.Checked
import Ocservia.Lib.Trace
import Ocservia.Transport.Policy

/-!
# Snapshots and updates of the identity policy

Over every sequence of snapshot loads and updates the three maps of the policy stay consistent
(`IdentityState.Consistent`): no endpoint is both approved and revoked, and no node is bound to two
approved endpoints. Between snapshots no revision decreases and a revoked endpoint is not approved
again.

The updates of one endpoint and node reach transportd in any order and any number of times. When
only the last of them revokes (`TrustHistory`), a policy that nothing else has closed to them
(`IdentityState.Open`) ends in the state of the last one, whatever the order (`deliver_holds`). Any
other may refuse them, and the command line may approve and revoke one endpoint:
`refused_updates_do_not_converge`.
-/

namespace Ocservia.Transport

open List AList

/-- What happens to the identity policy. -/
inductive PolicyEvent where
  /-- A trust snapshot is loaded, or refused. -/
  | load (bindings : List IdentityState.SnapshotBinding) (accepted : Bool)
  | update (endpoint : EndpointId) (nodeId : Bytes) (state : NodeTrustState) (revision : UInt64)
      (disposition : PolicyUpdateDisposition)

def PolicyEvent.isUpdate : PolicyEvent → Bool
  | load _ _ => false
  | update .. => true

namespace IdentityState

inductive Step : IdentityState → PolicyEvent → IdentityState → Prop where
  | load {s s' : IdentityState} {bindings : List SnapshotBinding} :
      replaceSnapshot bindings = .ok s' → Step s (.load bindings true) s'
  | refused {s : IdentityState} {bindings : List SnapshotBinding} {message : String} :
      replaceSnapshot bindings = .error message → Step s (.load bindings false) s
  | update {s s' : IdentityState} {endpoint : EndpointId} {nodeId : Bytes} {state : NodeTrustState}
      {revision : UInt64} {disposition : PolicyUpdateDisposition} :
      s.update endpoint nodeId state revision = (disposition, s') →
      Step s (.update endpoint nodeId state revision disposition) s'

/-- No endpoint is both approved and revoked, and no node is bound to two approved endpoints. -/
structure Consistent (s : IdentityState) : Prop where
  disjoint : ∀ endpoint, s.isRevoked endpoint = true → s.approved.lookup endpoint = none
  single : ∀ endpoint other nodeId, s.approved.lookup endpoint = some nodeId →
    s.approved.lookup other = some nodeId → endpoint = other

/-- The policy of a process, from what its command line approves and revokes. -/
def system : LTS IdentityState PolicyEvent where
  init s := (∃ approved revoked, s = .new approved revoked) ∧ s.Consistent
  step := Step

variable {s s' : IdentityState} {revision : UInt64}

/-! ## Updates -/

theorem lookup_insert_ite (m : AList fun _ : EndpointId => β) (endpoint : EndpointId) (value : β)
    (other : EndpointId) :
    (m.insert endpoint value).lookup other =
      if other = endpoint then some value else m.lookup other := by
  split
  · rename_i h
    rw [h, lookup_insert]
  · rename_i h
    rw [lookup_insert_ne h]

/-- Without a conflict, an endpoint that is approved for the node is the one of the update. -/
theorem activeConflict_eq_false :
    s.activeConflict endpoint nodeId = false ↔
      ∀ other node, s.approved.lookup other = some node → (other = endpoint ↔ node = nodeId) := by
  rw [activeConflict, any_eq_false]
  constructor
  · intro h other node hother
    have := h ⟨other, node⟩ (mem_lookup_iff.1 hother)
    grind
  · rintro h ⟨other, node⟩ hmem
    have := h other node (mem_lookup_iff.2 hmem)
    grind

section
variable (hs : s.Consistent)
include hs

/-- An endpoint not revoked is approved, where neither it nor the node is bound elsewhere. -/
theorem Consistent.approve (hfree : s.isRevoked endpoint = false)
    (hbound : ∀ other node, s.approved.lookup other = some node →
      (other = endpoint ↔ node = nodeId)) :
    Consistent { s with approved := s.approved.insert endpoint nodeId } := by
  refine ⟨fun e he => ?_, fun e e' node he he' => ?_⟩
  · have hne : e ≠ endpoint := by
      rintro rfl
      rw [show s.isRevoked e = true from he] at hfree
      cases hfree
    rw [lookup_insert_ne hne]
    exact hs.disjoint e he
  · rw [lookup_insert_ite] at he he'
    have := hs.single e e' node
    grind

theorem Consistent.change (h : s.change endpoint nodeId state = some s') : s'.Consistent := by
  rcases change_approved h with ⟨-, hfree, hconflict, rfl⟩ | ⟨-, -, rfl⟩
  · exact hs.approve hfree (activeConflict_eq_false.1 hconflict)
  refine ⟨fun e he => ?_, fun e e' node he he' => ?_⟩
  · by_cases hne : e = endpoint
    · subst hne
      exact lookup_erase _ _
    · rw [lookup_erase_ne hne]
      refine hs.disjoint e ?_
      simpa [isRevoked, lookup_insert_ne hne] using he
  · have hlookup : ∀ {e : EndpointId} {node : Bytes},
        (s.approved.erase endpoint).lookup e = some node → s.approved.lookup e = some node := by
      intro e node h
      by_cases hne : e = endpoint
      · subst hne
        rw [lookup_erase] at h
        cases h
      · rwa [lookup_erase_ne hne] at h
    exact hs.single e e' node (hlookup he) (hlookup he')

theorem Consistent.withRevisions (revisions : AList fun _ : EndpointId => UInt64) :
    Consistent { s with revisions } :=
  ⟨hs.disjoint, hs.single⟩

theorem Consistent.update
    (h : s.update endpoint nodeId state revision = (disposition, s')) : s'.Consistent := by
  rcases update_cases h with ⟨rfl, -⟩ | ⟨-, -, -, changed, hchanged, rfl⟩
  · exact hs
  · exact (hs.change hchanged).withRevisions _

end

/-! ## Snapshots -/

/-- While a snapshot is built, exactly the approved and revoked endpoints have a revision. -/
structure Building (s : IdentityState) : Prop where
  consistent : s.Consistent
  known : ∀ endpoint, s.revisions.lookup endpoint = none →
    s.approved.lookup endpoint = none ∧ s.isRevoked endpoint = false

theorem Building.addBinding (hs : s.Building) (h : s.addBinding b = .ok s') : s'.Building := by
  unfold IdentityState.addBinding at h
  split at h
  · cases h
  rename_i hfresh
  have hnew : s.revisions.lookup b.endpoint = none := by
    simp only [not_or] at hfresh
    simpa using hfresh.2.2.2
  obtain ⟨happroved, hrevoked⟩ := hs.known _ hnew
  have hknown : ∀ {e : EndpointId},
      (s.revisions.insert b.endpoint b.revision).lookup e = none →
      e ≠ b.endpoint ∧ s.approved.lookup e = none ∧ s.isRevoked e = false := by
    intro e he
    by_cases hne : e = b.endpoint
    · subst hne
      simp at he
    · rw [lookup_insert_ne hne] at he
      exact ⟨hne, hs.known e he⟩
  dsimp only at h
  split at h
  · split at h
    · cases h
    rename_i hbound
    cases h
    have hbound : ∀ other node, s.approved.lookup other = some node →
        (other = b.endpoint ↔ node = b.nodeId) := by
      intro other node hother
      constructor
      · rintro rfl
        cases happroved.symm.trans hother
      · rintro rfl
        refine absurd (any_eq_true.2 ⟨⟨other, b.nodeId⟩, mem_lookup_iff.1 hother, ?_⟩) hbound
        exact beq_self_eq_true _
    refine ⟨(hs.consistent.approve hrevoked hbound).withRevisions _, fun e he => ?_⟩
    obtain ⟨hne, hlookup, hfree⟩ := hknown he
    exact ⟨by rw [lookup_insert_ne hne, hlookup], hfree⟩
  · cases h
    refine ⟨⟨fun e he => ?_, hs.consistent.single⟩, fun e he => ?_⟩
    · by_cases hne : e = b.endpoint
      · subst hne
        exact happroved
      · refine hs.consistent.disjoint e ?_
        simpa [isRevoked, lookup_insert_ne hne] using he
    · obtain ⟨hne, hlookup, hfree⟩ := hknown he
      exact ⟨hlookup, by simpa [isRevoked, lookup_insert_ne hne] using hfree⟩
  · cases h

theorem Building.foldlM {bindings : List SnapshotBinding} (hs : s.Building)
    (h : bindings.foldlM IdentityState.addBinding s = .ok s') : s'.Building := by
  induction bindings generalizing s with
  | nil =>
    cases h
    exact hs
  | cons b bindings ih =>
    rw [foldlM_cons] at h
    obtain ⟨s₁, hb, h⟩ := Checked.bind_eq_ok.1 h
    exact ih (hs.addBinding hb) h

/-- An accepted snapshot is consistent. -/
theorem consistent_replaceSnapshot (h : replaceSnapshot bindings = .ok s) : s.Consistent := by
  have hempty : Building ⟨∅, ∅, ∅, true⟩ :=
    ⟨⟨fun _ _ => rfl, fun _ _ _ he => by simp at he⟩, fun _ _ => ⟨rfl, rfl⟩⟩
  exact (hempty.foldlM h).consistent

theorem Consistent.step (hs : s.Consistent) (h : Step s ev s') : s'.Consistent := by
  cases h with
  | load h => exact consistent_replaceSnapshot h
  | refused _ => exact hs
  | update h => exact hs.update h

theorem consistent_run (h : system.Run t s) : s.Consistent :=
  h.state_invariant Consistent (fun _ (h0 : system.init _) => h0.2)
    fun _ _ _ _ hs hstep => hs.step hstep

/-! ## Between snapshots -/

/-- No revision of `s'` is lower than in `s`, and what `s` revokes, `s'` revokes. -/
def Advances (s s' : IdentityState) : Prop :=
  ∀ endpoint, s.revision endpoint ≤ s'.revision endpoint ∧
    (s.isRevoked endpoint = true → s'.isRevoked endpoint = true)

theorem advances_update (h : s.update endpoint nodeId state revision = (disposition, s')) :
    s.Advances s' := by
  intro e
  rcases update_cases h with ⟨rfl, -⟩ | ⟨-, hle, -, changed, hchanged, rfl⟩
  · exact ⟨UInt64.le_refl _, id⟩
  obtain ⟨hrevisions, hrevoked, hkept, -, hothers⟩ := change_spec hchanged
  have hrevision : changed.revision e = s.revision e := by
    rw [IdentityState.revision, IdentityState.revision, hrevisions]
  refine ⟨?_, fun he => ?_⟩
  · rw [revision_insert, hrevision]
    split
    · rename_i hne
      subst hne
      exact hle
    · exact UInt64.le_refl _
  · show changed.isRevoked e = true
    by_cases hne : e = endpoint
    · subst hne
      by_cases hstate : state = .revoked
      · exact hrevoked hstate
      · rw [hkept hstate, he]
    · rw [hothers e hne, he]

theorem advances_steps (h : system.Steps s u s') (hu : ∀ ev ∈ u, ev.isUpdate = true) :
    s.Advances s' := by
  induction h with
  | nil => exact fun _ => ⟨UInt64.le_refl _, id⟩
  | @cons s s₁ s₂ ev u hstep _ ih =>
    have hrest := ih fun ev hev => hu ev (mem_cons_of_mem _ hev)
    cases hstep with
    | load _ | refused _ => exact absurd (hu _ mem_cons_self) (by simp [PolicyEvent.isUpdate])
    | update hupdate =>
      intro e
      obtain ⟨hle, hrevoked⟩ := advances_update hupdate e
      obtain ⟨hle', hrevoked'⟩ := hrest e
      exact ⟨UInt64.le_trans hle hle', fun he => hrevoked' (hrevoked he)⟩

/-! ## Updates in any order -/

/-- A trust update of a given endpoint and node. -/
structure TrustUpdate where
  state : NodeTrustState
  revision : UInt64
deriving DecidableEq

/-- The policy after the updates of an endpoint and node, in the order of their delivery. -/
def deliver (s : IdentityState) (endpoint : EndpointId) (nodeId : Bytes)
    (order : List TrustUpdate) : IdentityState :=
  order.foldl (fun s u => (s.update endpoint nodeId u.state u.revision).2) s

/-- The updates of an endpoint and node: the last is one update, and no other revokes; revisions and
states are as `update_node_trust` checks. -/
structure TrustHistory (updates : List TrustUpdate) (last : TrustUpdate) : Prop where
  mem : last ∈ updates
  highest : ∀ u ∈ updates, u.revision < last.revision ∨ u = last
  active : ∀ u ∈ updates, u ≠ last → u.state = .active
  specified : last.state ≠ .unspecified
  revision : ∀ u ∈ updates, u.revision ≠ 0

/-- The policy holds an endpoint as an update says. -/
structure Holds (s : IdentityState) (endpoint : EndpointId) (nodeId : Bytes) (u : TrustUpdate) :
    Prop where
  revision : s.revision endpoint = u.revision
  retained : s.retainedState endpoint = u.state
  approved : s.approved.lookup endpoint = if u.state = .active then some nodeId else none
  revoked : s.revoked.lookup endpoint = if u.state = .revoked then some nodeId else none

/-- The endpoint is at a lower revision and has room; it is not revoked, and neither it nor the node
is bound elsewhere, or it is revoked, for no other node, and the last update revokes. -/
structure Open (s : IdentityState) (endpoint : EndpointId) (nodeId : Bytes) (last : TrustUpdate) :
    Prop where
  revoked : ∀ node, s.revoked.lookup endpoint = some node →
    last.state = .revoked ∧ (node = [] ∨ node = nodeId)
  bound : s.isRevoked endpoint = false →
    ∀ other node, s.approved.lookup other = some node → (other = endpoint ↔ node = nodeId)
  lower : s.revision endpoint < last.revision
  room : (s.revisions.lookup endpoint).isSome = true ∨
    s.revisions.keys.length < maxTrustSnapshotBindings

section
variable {last u : TrustUpdate}

/-- An update that is above the retained revision and has room makes its change. -/
theorem update_above (hlt : s.revision endpoint < revision)
    (hroom : (s.revisions.lookup endpoint).isSome = true ∨
      s.revisions.keys.length < maxTrustSnapshotBindings)
    (h : s.change endpoint nodeId state = some changed) :
    s.update endpoint nodeId state revision =
      (.applied, { changed with revisions := changed.revisions.insert endpoint revision }) := by
  have hfull : ¬((s.revisions.lookup endpoint).isNone = true ∧
      maxTrustSnapshotBindings ≤ s.revisions.keys.length) := by
    rintro ⟨hnone, hfull⟩
    rcases hroom with hsome | hroom
    · rw [Option.isNone_iff_eq_none] at hnone
      rw [hnone] at hsome
      cases hsome
    · omega
  have hstale : ¬ revision < s.revision endpoint := UInt64.lt_asymm hlt
  have hequal : ¬(revision = s.revision endpoint ∧ s.revision endpoint ≠ 0) := by
    rintro ⟨rfl, -⟩
    exact UInt64.lt_irrefl _ hlt
  rw [update, if_neg hfull, if_neg hstale, if_neg hequal, h]

/-- At the retained revision, and below it, an update changes nothing. -/
theorem update_not_above (hzero : revision ≠ 0) (hle : ¬ s.revision endpoint < revision) :
    (s.update endpoint nodeId state revision).2 = s := by
  unfold update
  split
  · rfl
  split
  · rfl
  rename_i hstale
  rw [if_pos]
  have heq : revision = s.revision endpoint :=
    UInt64.le_antisymm (UInt64.not_lt.1 hle) (UInt64.not_lt.1 hstale)
  exact ⟨heq, heq ▸ hzero⟩

/-- A change that the policy does not accept leaves it as it is. -/
theorem update_refused (h : s.change endpoint nodeId state = none) :
    (s.update endpoint nodeId state revision).2 = s := by
  rcases update_cases (s := s) rfl with ⟨hsame, -⟩ | ⟨-, -, -, changed, hchanged, -⟩
  · exact hsame
  · rw [h] at hchanged
    cases hchanged

/-- An open policy accepts an approval of an endpoint that is not revoked. -/
theorem Open.change_active (hs : s.Open endpoint nodeId last)
    (hfree : s.isRevoked endpoint = false) :
    s.change endpoint nodeId .active =
      some { s with approved := s.approved.insert endpoint nodeId } := by
  simp [change, hfree, activeConflict_eq_false.2 (hs.bound hfree)]

/-- An open policy accepts a revocation. -/
theorem Open.change_revoked (hs : s.Open endpoint nodeId last) (hc : s.Consistent) :
    s.change endpoint nodeId .revoked = some { s with
      approved := s.approved.erase endpoint
      revoked := s.revoked.insert endpoint nodeId } := by
  have hfree : s.revokedConflict endpoint nodeId = false := by
    cases hrevoked : s.revoked.lookup endpoint with
    | some node =>
      obtain ⟨-, hnode⟩ := hs.revoked node hrevoked
      have hnone := hc.disjoint endpoint (by simp [isRevoked, hrevoked])
      rcases hnode with rfl | rfl <;> simp [revokedConflict, hrevoked, hnone]
    | none =>
      cases hlookup : s.approved.lookup endpoint with
      | none => simp [revokedConflict, hrevoked, hlookup]
      | some node =>
        have : node = nodeId :=
          (hs.bound (by simp [isRevoked, hrevoked]) endpoint node hlookup).1 rfl
        simp [revokedConflict, hrevoked, hlookup, this]
  simp [change, hfree]

/-- An update below the last one leaves an open policy open. -/
theorem Open.update (hs : s.Open endpoint nodeId last) (hactive : u.state = .active)
    (hlt : u.revision < last.revision) (hzero : u.revision ≠ 0) :
    Open (s.update endpoint nodeId u.state u.revision).2 endpoint nodeId last := by
  by_cases habove : s.revision endpoint < u.revision
  · cases hfree : s.isRevoked endpoint with
    | true =>
      rw [update_refused (by simp [change, hactive, hfree])]
      exact hs
    | false =>
      rw [hactive, update_above habove hs.room (hs.change_active hfree)]
      refine ⟨hs.revoked, fun _ other node hother => ?_, ?_, .inl ?_⟩
      · dsimp only at hother
        rw [lookup_insert_ite] at hother
        have := hs.bound hfree other node
        grind
      · rwa [revision_insert, if_pos rfl]
      · simp
  · rw [update_not_above hzero habove]
    exact hs

/-- The last update brings an open policy to its state. -/
theorem Open.update_last (hs : s.Open endpoint nodeId last) (hc : s.Consistent)
    (hspecified : last.state ≠ .unspecified) :
    Holds (s.update endpoint nodeId last.state last.revision).2 endpoint nodeId last := by
  cases hstate : last.state with
  | unspecified => exact absurd hstate hspecified
  | active =>
    have hnone : s.revoked.lookup endpoint = none := by
      rw [Option.eq_none_iff_forall_ne_some]
      intro node hnode
      have := (hs.revoked node hnode).1
      rw [hstate] at this
      cases this
    rw [update_above hs.lower hs.room (hs.change_active (by simp [isRevoked, hnone]))]
    refine ⟨by rw [revision_insert, if_pos rfl], ?_, ?_, ?_⟩
    · simp [retainedState, isRevoked, hnone, hstate]
    · simp [hstate]
    · simp [hnone, hstate]
  | revoked =>
    rw [update_above hs.lower hs.room (hs.change_revoked hc)]
    refine ⟨by rw [revision_insert, if_pos rfl], ?_, ?_, ?_⟩
    · simp [retainedState, isRevoked, hstate]
    · simp [hstate]
    · simp [hstate]

/-- Once the last update holds, no update of the history changes the policy. -/
theorem Holds.update (hs : s.Holds endpoint nodeId last) (hu : TrustHistory updates last)
    (hmem : u ∈ updates) : (s.update endpoint nodeId u.state u.revision).2 = s := by
  refine update_not_above (hu.revision u hmem) ?_
  rw [hs.revision]
  rcases hu.highest u hmem with hlt | rfl
  · exact UInt64.lt_asymm hlt
  · exact UInt64.lt_irrefl _

theorem Holds.deliver (hs : s.Holds endpoint nodeId last) (hu : TrustHistory updates last)
    (hsub : ∀ u ∈ order, u ∈ updates) : s.deliver endpoint nodeId order = s := by
  induction order with
  | nil => rfl
  | cons u order ih =>
    rw [IdentityState.deliver, foldl_cons, hs.update hu (hsub u mem_cons_self)]
    exact ih fun v hv => hsub v (mem_cons_of_mem _ hv)

/-- In any order and number, the updates bring an open policy to the state of the last one. -/
theorem deliver_holds (hu : TrustHistory updates last) (hc : s.Consistent)
    (hs : s.Open endpoint nodeId last) (hsub : ∀ u ∈ order, u ∈ updates) (hlast : last ∈ order) :
    (s.deliver endpoint nodeId order).Holds endpoint nodeId last := by
  -- up to the first delivery of the last update the policy stays open, afterwards it does not
  -- change
  induction order generalizing s with
  | nil => cases hlast
  | cons u order ih =>
    have hrest : ∀ v ∈ order, v ∈ updates := fun v hv => hsub v (mem_cons_of_mem _ hv)
    have hmem := hsub u mem_cons_self
    rw [deliver, foldl_cons]
    by_cases heq : u = last
    · subst heq
      have hholds := hs.update_last hc hu.specified
      have := hholds.deliver hu hrest
      rw [deliver] at this
      rwa [this]
    · have hlt := (hu.highest u hmem).resolve_right heq
      have hopen := hs.update (hu.active u hmem heq) hlt (hu.revision u hmem)
      refine ih (hc.update rfl) hopen hrest ?_
      exact (mem_cons.1 hlast).resolve_left fun e => heq e.symm

end

/-- **The identity policy over every sequence of snapshot loads and updates.** -/
theorem endpoint_trust_policy {t : List PolicyEvent} (h : system.Run t s) :
    s.Consistent ∧
      (∀ u s', system.Steps s u s' → (∀ ev ∈ u, ev.isUpdate = true) → ∀ endpoint,
        s.revision endpoint ≤ s'.revision endpoint ∧
          (s.isRevoked endpoint = true →
            s'.isRevoked endpoint = true ∧ s'.approved.lookup endpoint = none)) ∧
      (∀ endpoint nodeId state revision disposition s',
        s.update endpoint nodeId state revision = (disposition, s') → disposition ≠ .applied →
          s' = s) ∧
      ∀ endpoint nodeId updates last order, TrustHistory updates last →
        s.Open endpoint nodeId last → (∀ u, u ∈ order ↔ u ∈ updates) →
          (s.deliver endpoint nodeId order).Holds endpoint nodeId last := by
  refine ⟨consistent_run h, fun u s' hsteps hu endpoint => ?_, ?_, ?_⟩
  · obtain ⟨hle, hrevoked⟩ := advances_steps hsteps hu endpoint
    refine ⟨hle, fun he => ⟨hrevoked he, ?_⟩⟩
    exact (consistent_run (h.steps hsteps)).disjoint endpoint (hrevoked he)
  · intro endpoint nodeId state revision disposition s' hupdate hd
    rcases update_cases hupdate with ⟨hsame, -⟩ | ⟨happlied, -⟩
    · exact hsame
    · exact absurd happlied hd
  · intro endpoint nodeId updates last order hu hopen horder
    exact deliver_holds hu (consistent_run h) hopen (fun u hmem => (horder u).1 hmem)
      ((horder last).2 hu.mem)

/-! ## Policies that refuse -/

namespace Sample

def sampleEndpoint (n : UInt8) : EndpointId := .fill n

def node : Bytes := List.replicate 16 7

/-- A snapshot that binds the node to the first endpoint, after a revocation of the second. -/
def snapshot : List SnapshotBinding :=
  [⟨sampleEndpoint 1, node, .active, 3⟩, ⟨sampleEndpoint 2, node, .revoked, 1⟩]

/-- An approval at revision 1 and a revocation at revision 2. -/
def updates : List TrustUpdate := [⟨.active, 1⟩, ⟨.revoked, 2⟩]

theorem updates_history : TrustHistory updates ⟨.revoked, 2⟩ where
  mem := by decide
  highest := by decide
  active := by decide
  specified := by decide
  revision := by decide

/-- The policy of an empty command line. -/
theorem start_init : system.init (.new ∅ []) :=
  ⟨⟨∅, [], rfl⟩, fun _ _ => rfl, fun _ _ _ h => by cases h⟩

/-- The policy after the snapshot. -/
def bound : IdentityState :=
  ⟨AList.singleton (sampleEndpoint 1) node, AList.singleton (sampleEndpoint 2) node,
    (AList.singleton (sampleEndpoint 1) 3).insert (sampleEndpoint 2) 1, true⟩

theorem snapshot_bound : replaceSnapshot snapshot = .ok bound := by
  rfl

theorem bound_run : system.Run [.load snapshot true] bound :=
  .snoc (.start start_init) (.load snapshot_bound)

end Sample

/-- The revocation overtakes the approval and is repeated: an unknown endpoint ends revoked at
revision 2, and so does one revoked at 1. -/
theorem overtaken_approval_converges :
    (∃ t, system.Run t Sample.bound) ∧
    ∀ s endpoint, (s, endpoint) ∈ [(.new ∅ [], Sample.sampleEndpoint 1),
        (Sample.bound, Sample.sampleEndpoint 2)] →
      (s.deliver endpoint Sample.node [⟨.revoked, 2⟩, ⟨.active, 1⟩, ⟨.revoked, 2⟩]).Holds endpoint
        Sample.node ⟨.revoked, 2⟩ := by
  have horder : ∀ u : TrustUpdate, u ∈ [⟨.revoked, 2⟩, ⟨.active, 1⟩, ⟨.revoked, 2⟩] ↔
      u ∈ Sample.updates := by
    intro u
    simp only [Sample.updates, mem_cons, not_mem_nil, or_false]
    tauto
  refine ⟨⟨_, Sample.bound_run⟩, fun s endpoint hmem => ?_⟩
  rcases mem_cons.1 hmem with h | hmem
  · cases h
    exact (endpoint_trust_policy (.start Sample.start_init)).2.2.2 _ _ _ _ _ Sample.updates_history
      ⟨nofun, fun _ _ _ h => (by cases h), by decide, .inr (by decide)⟩ horder
  · cases mem_singleton.1 hmem
    refine (endpoint_trust_policy Sample.bound_run).2.2.2 _ _ _ _ _ Sample.updates_history
      ⟨fun node h => ⟨rfl, .inr ?_⟩, fun h => absurd h (by decide), by decide, .inl (by decide)⟩
      horder
    exact (Option.some_inj.1 h).symm

/-- A command line may approve and revoke one endpoint; and a snapshot's binding may refuse an
approval. -/
theorem refused_updates_do_not_converge :
    ¬ (IdentityState.new (AList.singleton (Sample.sampleEndpoint 1) Sample.node)
      [Sample.sampleEndpoint 1]).Consistent ∧
    ∃ s, system.Run [.load Sample.snapshot true] s ∧ TrustHistory [⟨.active, 1⟩] ⟨.active, 1⟩ ∧
      ¬ (s.deliver (Sample.sampleEndpoint 3) Sample.node [⟨.active, 1⟩]).Holds
        (Sample.sampleEndpoint 3)
        Sample.node ⟨.active, 1⟩ := by
  refine ⟨fun h => ?_, Sample.bound, Sample.bound_run, ?_, fun h => ?_⟩
  · have := h.disjoint (Sample.sampleEndpoint 1) (by decide)
    cases this
  · exact ⟨by decide, by decide, by decide, by decide, by decide⟩
  · have := h.revision
    revert this
    decide

end IdentityState

end Ocservia.Transport
