import Mathlib.Data.List.AList
import Ocservia.Lib.Wire

/-!
# The identity policy of transportd

`transportd/src/lib.rs`: which endpoints are approved for which node, which are revoked, and at
which revision the Controller last said so. A policy comes from the command line
(`IdentityState.new`) or from the trust snapshot that is loaded before the endpoint is bound
(`IdentityState.replaceSnapshot`); afterwards only `update` changes it.

`update_spec` is what one update does; a revoked endpoint stays revoked (`revoked_update`).
-/

namespace Ocservia.Transport

/-- `EndpointId`: the bytes of an endpoint's public key. -/
abbrev EndpointId := FixedBytes 32

inductive NodeTrustState where
  | unspecified | active | revoked
deriving DecidableEq

inductive PolicyUpdateDisposition where
  | applied | stale | rejected
deriving DecidableEq

def maxTrustSnapshotBindings : Nat := 8192

/-- `IdentityState`. An endpoint that was revoked on the command line has the empty node. -/
structure IdentityState where
  (approved revoked : AList fun _ : EndpointId => Bytes)
  revisions : AList fun _ : EndpointId => UInt64
  synchronized : Bool

namespace IdentityState

def new (approved : AList fun _ : EndpointId => Bytes) (revoked : List EndpointId) :
    IdentityState where
  approved
  revoked := (revoked.map fun endpoint => ⟨endpoint, []⟩).toAList
  revisions := (revoked.map fun endpoint => ⟨endpoint, UInt64.ofNat (2 ^ 64 - 1)⟩).toAList
  synchronized := true

/-- One binding of a trust snapshot. -/
structure SnapshotBinding where
  endpoint : EndpointId
  nodeId : Bytes
  state : NodeTrustState
  revision : UInt64

section
variable (s : IdentityState)

/-- One turn of the loop of `replace_snapshot`. -/
def addBinding (b : SnapshotBinding) : Except String IdentityState :=
  if b.nodeId.length ≠ 16 ∨ b.revision = 0 ∨ maxTrustSnapshotBindings ≤ s.revisions.keys.length ∨
      (s.revisions.lookup b.endpoint).isSome then
    .error "trust snapshot is invalid or exceeds capacity"
  else
    let s := { s with revisions := s.revisions.insert b.endpoint b.revision }
    match b.state with
    | .active =>
      if s.approved.entries.any fun entry => entry.2 == b.nodeId then
        .error "trust snapshot contains a duplicate node binding"
      else .ok { s with approved := s.approved.insert b.endpoint b.nodeId }
    | .revoked => .ok { s with revoked := s.revoked.insert b.endpoint b.nodeId }
    | .unspecified => .error "trust snapshot state is invalid"

/-- `replace_snapshot`: the policy of the bindings; a refused snapshot leaves the old policy. -/
def replaceSnapshot (bindings : List SnapshotBinding) : Except String IdentityState :=
  bindings.foldlM addBinding ⟨∅, ∅, ∅, true⟩

section
variable (endpoint : EndpointId)

/-- `permits` for the Agent protocol. -/
def permitsAgent : Bool :=
  s.synchronized && (s.revoked.lookup endpoint).isNone && (s.approved.lookup endpoint).isSome

section
variable (nodeId : Bytes)

def matchesNode : Bool :=
  s.approved.lookup endpoint == some nodeId

/-- `revoked`. -/
def isRevoked : Bool :=
  (s.revoked.lookup endpoint).isSome

def revision : UInt64 :=
  (s.revisions.lookup endpoint).getD 0

def retainedState : NodeTrustState :=
  if s.isRevoked endpoint then .revoked
  else if (s.approved.lookup endpoint).isSome then .active
  else .unspecified

/-- The policy already says what an update of the retained revision asks for. -/
def agrees : NodeTrustState → Bool
  | .active => s.approved.lookup endpoint == some nodeId
  | .revoked => (s.revoked.lookup endpoint).any fun bound => bound.isEmpty || bound == nodeId
  | .unspecified => false

/-- An approved binding that an update to active contradicts. -/
def activeConflict : Bool :=
  s.approved.entries.any fun entry =>
    (entry.1 == endpoint && entry.2 != nodeId) || (entry.1 != endpoint && entry.2 == nodeId)

/-- A binding that an update to revoked contradicts. -/
def revokedConflict : Bool :=
  ((s.approved.lookup endpoint).any fun bound => bound != nodeId) ||
    ((s.revoked.lookup endpoint).any fun bound => !bound.isEmpty && bound != nodeId)

/-- The policy after an accepted change, without the revision. -/
def change : NodeTrustState → Option IdentityState
  | .active =>
    if s.isRevoked endpoint || s.activeConflict endpoint nodeId then none
    else some { s with approved := s.approved.insert endpoint nodeId }
  | .revoked =>
    if s.revokedConflict endpoint nodeId then none
    else some { s with
      approved := s.approved.erase endpoint
      revoked := s.revoked.insert endpoint nodeId }
  | .unspecified => none

def update (state : NodeTrustState) (revision : UInt64) : PolicyUpdateDisposition × IdentityState :=
  if (s.revisions.lookup endpoint).isNone ∧ maxTrustSnapshotBindings ≤ s.revisions.keys.length then
    (.rejected, s)
  else if revision < s.revision endpoint then (.stale, s)
  else if revision = s.revision endpoint ∧ s.revision endpoint ≠ 0 then
    (if s.agrees endpoint nodeId state then .applied else .rejected, s)
  else match s.change endpoint nodeId state with
    | none => (.rejected, s)
    | some s' => (.applied, { s' with revisions := s'.revisions.insert endpoint revision })

end

end

end

/-! ## What an update does -/

variable {s s' : IdentityState} {revision : UInt64}

/-- What an applied update leaves. -/
structure Applied (s s' : IdentityState) (endpoint : EndpointId) (state : NodeTrustState)
    (revision : UInt64) : Prop where
  /-- The endpoint was at the revision or is raised to it, if revoked by a revocation only. -/
  raised : s' = s ∨ s.revision endpoint < revision ∧
    (state = .revoked ∨ s.isRevoked endpoint = false)
  revision : s'.revision endpoint = revision
  /-- A revocation leaves the endpoint revoked. -/
  revoked : state = .revoked → s'.isRevoked endpoint = true
  /-- Any other update leaves the revocations as they are. -/
  kept : state ≠ .revoked → s'.isRevoked endpoint = s.isRevoked endpoint

/-- What an accepted change makes. -/
theorem change_approved (h : s.change endpoint nodeId state = some s') :
    (state = .active ∧ s.isRevoked endpoint = false ∧ s.activeConflict endpoint nodeId = false ∧
      s' = { s with approved := s.approved.insert endpoint nodeId }) ∨
    (state = .revoked ∧ s.revokedConflict endpoint nodeId = false ∧ s' = { s with
      approved := s.approved.erase endpoint
      revoked := s.revoked.insert endpoint nodeId }) := by
  cases state with
  | active =>
    simp only [change] at h
    split at h
    · cases h
    · rename_i hfree
      simp only [Bool.or_eq_true, not_or, Bool.not_eq_true] at hfree
      exact .inl ⟨rfl, hfree.1, hfree.2, (Option.some_inj.1 h).symm⟩
  | revoked =>
    simp only [change] at h
    split at h
    · cases h
    · rename_i hfree
      exact .inr ⟨rfl, Bool.eq_false_of_not_eq_true hfree, (Option.some_inj.1 h).symm⟩
  | unspecified => cases h

/-- What an accepted change does to the revocations. -/
theorem change_spec (h : s.change endpoint nodeId state = some s') :
    s'.revisions = s.revisions ∧
      (state = .revoked → s'.isRevoked endpoint = true) ∧
      (state ≠ .revoked → s'.isRevoked endpoint = s.isRevoked endpoint) ∧
      (state = .revoked ∨ s.isRevoked endpoint = false) ∧
      ∀ other ≠ endpoint, s'.isRevoked other = s.isRevoked other := by
  rcases change_approved h with ⟨rfl, hfree, -, rfl⟩ | ⟨rfl, -, rfl⟩
  · exact ⟨rfl, nofun, fun _ => rfl, .inr hfree, fun _ _ => rfl⟩
  · refine ⟨rfl, fun _ => ?_, fun hne => absurd rfl hne, .inl rfl, fun other hother => ?_⟩
    · simp [isRevoked]
    · simp [isRevoked, AList.lookup_insert_ne hother]

theorem revision_insert (s : IdentityState) (endpoint other : EndpointId) (revision : UInt64) :
    IdentityState.revision { s with revisions := s.revisions.insert endpoint revision } other =
      if other = endpoint then revision else s.revision other := by
  unfold IdentityState.revision
  split
  · rename_i h
    subst h
    simp
  · rename_i h
    simp [AList.lookup_insert_ne h]

/-- An update leaves the policy, being applied where it holds already, or makes an accepted change
at a revision not lower. -/
theorem update_cases (h : s.update endpoint nodeId state revision = (disposition, s')) :
    (s' = s ∧ (disposition = .applied → revision = s.revision endpoint ∧
      s.agrees endpoint nodeId state = true)) ∨
    (disposition = .applied ∧ s.revision endpoint ≤ revision ∧
      ¬ (revision = s.revision endpoint ∧ s.revision endpoint ≠ 0) ∧
      ∃ changed, s.change endpoint nodeId state = some changed ∧
        s' = { changed with revisions := changed.revisions.insert endpoint revision }) := by
  unfold update at h
  split at h
  · cases h
    exact .inl ⟨rfl, nofun⟩
  split at h
  · cases h
    exact .inl ⟨rfl, nofun⟩
  rename_i hstale
  split at h
  · rename_i hequal
    obtain ⟨hd, rfl⟩ := Prod.mk.inj h
    refine .inl ⟨rfl, fun happlied => ⟨hequal.1, ?_⟩⟩
    rw [happlied] at hd
    by_contra hagrees
    rw [if_neg hagrees] at hd
    cases hd
  rename_i hother
  cases hc : s.change endpoint nodeId state with
  | none =>
    rw [hc] at h
    cases h
    exact .inl ⟨rfl, nofun⟩
  | some changed =>
    rw [hc] at h
    cases h
    exact .inr ⟨rfl, UInt64.not_lt.1 hstale, hother, changed, rfl, rfl⟩

/-- **What one update does.** -/
theorem update_spec (hrevision : revision ≠ 0)
    (h : s.update endpoint nodeId state revision = (disposition, s')) :
    (disposition ≠ .applied → s' = s) ∧
      (disposition = .applied → Applied s s' endpoint state revision) ∧
      ∀ other ≠ endpoint, s'.isRevoked other = s.isRevoked other ∧
        s'.revision other = s.revision other := by
  rcases update_cases h with ⟨rfl, happlied⟩ | ⟨rfl, hle, hother, changed, hc, rfl⟩
  · refine ⟨fun _ => rfl, fun hd => ?_, fun _ _ => ⟨rfl, rfl⟩⟩
    obtain ⟨hequal, hagrees⟩ := happlied hd
    refine ⟨.inl rfl, hequal.symm, ?_, fun _ => rfl⟩
    rintro rfl
    obtain ⟨hbound, -⟩ := (Option.any_eq_true_iff_get _ _).1 hagrees
    exact hbound
  obtain ⟨hrev, hrevoked, hkept, hfree, hothers⟩ := change_spec hc
  refine ⟨fun hne => absurd rfl hne, fun _ => ⟨.inr ⟨?_, hfree⟩, ?_, hrevoked, hkept⟩, ?_⟩
  · -- the revision is not below the retained one, and equal to it only at zero
    rw [UInt64.le_iff_toNat_le] at hle
    rw [UInt64.lt_iff_toNat_lt]
    have hne : revision ≠ s.revision endpoint := by
      rintro rfl
      exact hother ⟨rfl, hrevision⟩
    have hne' : revision.toNat ≠ (s.revision endpoint).toNat :=
      fun e => hne (UInt64.toNat_inj.1 e)
    omega
  · rw [revision_insert, if_pos rfl]
  · intro other hne
    refine ⟨hothers other hne, ?_⟩
    rw [revision_insert, if_neg hne, IdentityState.revision, IdentityState.revision, hrev]

/-- A revoked endpoint stays revoked. -/
theorem revoked_update (hrevision : revision ≠ 0)
    (h : s.update endpoint nodeId state revision = (disposition, s'))
    (hrevoked : s.isRevoked other = true) : s'.isRevoked other = true := by
  obtain ⟨hsame, happlied, hothers⟩ := update_spec hrevision h
  by_cases hne : other = endpoint
  · subst hne
    by_cases hd : disposition = .applied
    · have ha := happlied hd
      by_cases hs : state = .revoked
      · exact ha.revoked hs
      · rw [ha.kept hs, hrevoked]
    · rw [hsame hd, hrevoked]
  · rw [(hothers other hne).1, hrevoked]

end IdentityState

end Ocservia.Transport
