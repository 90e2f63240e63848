import Ocservia.Transport.Relay

/-!
# Renewals of an owner lease

`transportd/src/lib.rs`: a Controller draws the id of a fence when it opens the session of a node,
and renews its lease by signing the fence of that session again with a later deadline. transportd
keeps one fence of each node, and a fence with the id of the registered one replaces it
(`FenceRegistration.refresh`), whatever its deadline is.

The Controller signs with one id only fences of one session (`ofSession`). The registered epoch and
term are then as they should be over every run. The registered deadline is, when no fence comes
after one of its id with a later deadline (`inOrder`).
-/

namespace Ocservia

open Option Instant

theorem Instant.le_iff {a b : Instant} : a.le b = true ↔
    a.seconds.toInt < b.seconds.toInt ∨ a.seconds.toInt = b.seconds.toInt ∧ a.nanos ≤ b.nanos := by
  simp only [le, Bool.or_eq_true, Bool.and_eq_true, decide_eq_true_eq, beq_iff_eq,
    Int64.toInt_inj]

theorem Instant.le_trans (h : Instant.le a b = true) (h' : b.le c = true) : a.le c = true := by
  rw [le_iff] at h h' ⊢
  omega

namespace Transport

open Tasks

def RegisteredFence.lease (fence : RegisteredFence) : Instant := fence.verified.leaseUntil

/-- The registered fence and the one of the same id that the next piece of a task brings. -/
def renewal (p : Pool Shared Task) :
    Label Task Input Event → Option (RegisteredFence × RegisteredFence)
  | .act id _ _ => do
    let (nodeId, fence) ← (p.task id).bind Task.registering
    let registered ← p.shared.fences.lookup nodeId
    if registered.verified.term.fenceId = fence.verified.term.fenceId then some (registered, fence)
    else none
  | _ => none

/-- `signFence`: a fence with the id of the registered one is of the same session. -/
def ofSession (p : Pool Shared Task) (a : Label Task Input Event) : Bool :=
  (renewal p a).all fun x => sameFenceTerm x.1.verified x.2.verified

/-- A fence with the id of the registered one does not have an earlier deadline. -/
def inOrder (p : Pool Shared Task) (a : Label Task Input Event) : Bool :=
  (renewal p a).all fun x => x.1.lease.le x.2.lease

/-- A registered fence gives way to a higher epoch, or to one of its term in the relation `R`. -/
def FencesKept (R : RegisteredFence → RegisteredFence → Prop) (s s' : Shared) : Prop :=
  ∀ node registered, s.fences.lookup node = some registered →
    ∃ fence, s'.fences.lookup node = some fence ∧ (registered.epoch < fence.epoch ∨
      sameFenceTerm registered.verified fence.verified = true ∧ R registered fence)

/-- The lease of the second fence does not end earlier. -/
def Renews (registered fence : RegisteredFence) : Prop := registered.lease.le fence.lease = true

section
variable {host : Host} {R : RegisteredFence → RegisteredFence → Prop} {s s' : Shared}
  {p p' : Pool Shared Task} {a : Label Task Input Event}

theorem FencesKept.of_eq (hrefl : ∀ fence, R fence fence) (h : s'.fences = s.fences) :
    FencesKept R s s' := by
  intro node registered hl
  exact ⟨registered, by rw [h, hl], .inr ⟨beq_self_eq_true _, hrefl _⟩⟩

theorem FencesKept.trans {s'' : Shared} (htrans : ∀ f g h, R f g → R g h → R f h)
    (h : FencesKept R s s') (h' : FencesKept R s' s'') : FencesKept R s s'' := by
  intro node f hf
  obtain ⟨g, hg, hfg⟩ := h node f hf
  obtain ⟨k, hk, hgk⟩ := h' node g hg
  refine ⟨k, hk, ?_⟩
  have hepoch : ∀ {f g : RegisteredFence}, sameFenceTerm f.verified g.verified = true →
      f.epoch = g.epoch := fun h => congrArg FenceTerm.ownerEpoch (eq_of_beq h)
  rcases hfg with hlt | ⟨hterm, hR⟩ <;> rcases hgk with hlt' | ⟨hterm', hR'⟩
  · exact .inl (UInt64.lt_trans hlt hlt')
  · exact .inl (hepoch hterm' ▸ hlt)
  · exact .inl (hepoch hterm ▸ hlt')
  · exact .inr ⟨beq_iff_eq.2 ((eq_of_beq hterm).trans (eq_of_beq hterm')), htrans f g k hR hR'⟩

/-- A fence is recorded over one of a lower epoch, or of the same id. -/
theorem epoch_lt_or_fenceId {registered fence : RegisteredFence}
    (h : (fenceRegistrationDecision (some registered) fence).records = true) :
    registered.epoch < fence.epoch ∨
      registered.verified.term.fenceId = fence.verified.term.fenceId := by
  have hle := epoch_le_of_records h
  by_cases heq : registered.epoch = fence.epoch
  · refine .inr (by_contra fun hne => ?_)
    rw [fenceRegistrationDecision, if_neg (by rw [heq]; exact UInt64.lt_irrefl _),
      if_pos ⟨heq, hne⟩] at h
    cases h
  · exact .inl (UInt64.lt_of_le_of_ne hle heq)

/-- A step leaves the fences as they are, or records the fence that its task brings. -/
theorem step_fences (hr : (program host).lts.Reachable p) (hs : (program host).lts.step p a p') :
    p'.shared.fences = p.shared.fences ∨ ∃ node fence,
      p'.shared.fences = p.shared.fences.insert node fence ∧
      (fenceRegistrationDecision (p.shared.fences.lookup node) fence).records = true ∧
      renewal p a = (p.shared.fences.lookup node).bind fun registered =>
        if registered.verified.term.fenceId = fence.verified.term.fenceId then
          some (registered, fence)
        else none := by
  cases hs with
  | spawn _ _ => exact .inl (by rw [Pool.shared_put])
  | @cancel j t ht _ =>
    rw [Pool.shared_put, Pool.shared_withShared]
    exact .inl (release_keeps p.shared j).2.2
  | @act id t input s t' e ht hact =>
    rw [Pool.shared_put, Pool.shared_withShared]
    have hchange := (program_act_spec hr ht hact).change
    cases hchange with
    | keeps _ _ hf | updates _ _ hf | registers _ _ hf | removes _ _ hf => exact .inl hf
    | @records _ _ node fence _ _ hf hrecords hregistering =>
      exact .inr ⟨node, fence, hf, hrecords, by simp [renewal, ht, hregistering]⟩

/-- A step keeps the fences of a session in a relation in which its renewals are. -/
theorem step_fencesKept (hrefl : ∀ fence, R fence fence) (hr : (program host).lts.Reachable p)
    (hs : (program host).lts.step p a p') (hsession : ofSession p a = true)
    (hR : ∀ x ∈ renewal p a, R x.1 x.2) : FencesKept R p.shared p'.shared := by
  obtain hf | ⟨node, fence, hf, hrecords, hrenewal⟩ := step_fences hr hs
  · exact .of_eq hrefl hf
  intro other registered hl
  rw [hf]
  by_cases hn : other = node
  · subst hn
    refine ⟨fence, AList.lookup_insert _, ?_⟩
    rw [hl] at hrecords
    rcases epoch_lt_or_fenceId hrecords with hlt | hid
    · exact .inl hlt
    rw [hl, bind_some, if_pos hid] at hrenewal
    rw [ofSession, hrenewal] at hsession
    exact .inr ⟨hsession, hR _ hrenewal⟩
  · exact ⟨registered, by rw [AList.lookup_insert_ne hn, hl],
      .inr ⟨beq_self_eq_true _, hrefl _⟩⟩

theorem renews_of_inOrder (h : inOrder p a = true) : ∀ x ∈ renewal p a, Renews x.1 x.2 := by
  intro x hx
  rwa [inOrder, mem_def.1 hx] at h

/-- A step that changes the fences keeps the leases exactly when it brings its renewal in order. -/
theorem step_renews_iff (hr : (program host).lts.Reachable p) (hs : (program host).lts.step p a p')
    (hsession : ofSession p a = true) :
    FencesKept Renews p.shared p'.shared ↔
      p'.shared.fences = p.shared.fences ∨ inOrder p a = true := by
  have hrefl : ∀ fence, Renews fence fence := fun _ => le_iff.2 (by omega)
  constructor
  · intro hkept
    obtain hf | ⟨node, fence, hf, -, hrenewal⟩ := step_fences hr hs
    · exact .inl hf
    right
    rw [inOrder, all_eq_true]
    intro x hx
    rw [hrenewal] at hx
    obtain ⟨registered, hl, hx⟩ := bind_eq_some_iff.1 hx
    obtain ⟨hid, hx⟩ := ite_none_right_eq_some.1 hx
    cases hx
    rw [hl, bind_some, if_pos hid] at hrenewal
    rw [ofSession, hrenewal] at hsession
    obtain ⟨fence', hl', hkept⟩ := hkept node registered hl
    rw [hf, AList.lookup_insert] at hl'
    cases hl'
    -- a fence of the term is of its epoch
    refine (hkept.resolve_left fun hlt => ?_).2
    rw [show registered.epoch = fence.epoch from
      congrArg FenceTerm.ownerEpoch (eq_of_beq hsession)] at hlt
    exact UInt64.lt_irrefl _ hlt
  · rintro (hf | horder)
    · exact .of_eq hrefl hf
    · exact step_fencesKept hrefl hr hs hsession (renews_of_inOrder horder)

/-- So does a run of the steps `C` when their renewals are in the relation. -/
theorem run_fencesKept {C : Pool Shared Task → Label Task Input Event → Pool Shared Task → Prop}
    (hrefl : ∀ fence, R fence fence) (htrans : ∀ f g h, R f g → R g h → R f h)
    (hC : ∀ p a p', C p a p' → ofSession p a = true ∧ ∀ x ∈ renewal p a, R x.1 x.2)
    (hrun : ((program host).lts.restrict C).Run tr p)
    (hsteps : ((program host).lts.restrict C).Steps p u p') : FencesKept R p.shared p'.shared := by
  refine LTS.Run.related (R := fun p p' => FencesKept R p.shared p'.shared)
    (fun _ => .of_eq hrefl rfl) (.trans htrans) ?_ hrun hsteps
  rintro p a p' ⟨tr, hr⟩ ⟨hs, hc⟩
  exact step_fencesKept hrefl ⟨tr, hr.of_restrict⟩ hs (hC p a p' hc).1 (hC p a p' hc).2

/-- **Owner lease renewals**, when fences of one id are of one session: the registered epoch of a
node never decreases, and fences registered at one epoch have one term. When moreover no fence comes
after one of its id with a later deadline, the registered lease of an epoch never ends earlier, and
a step that changes the registered fences keeps this only then. -/
theorem owner_lease_renewals (host : Host) :
    (∀ tr p u p', ((program host).lts.restrict fun p a _ => ofSession p a = true).Run tr p →
      ((program host).lts.restrict fun p a _ => ofSession p a = true).Steps p u p' →
      FencesKept (fun _ _ => True) p.shared p'.shared) ∧
    (∀ tr p u p', ((program host).lts.restrict fun p a _ => ofSession p a = true ∧
        inOrder p a = true).Run tr p →
      ((program host).lts.restrict fun p a _ => ofSession p a = true ∧
        inOrder p a = true).Steps p u p' →
      FencesKept Renews p.shared p'.shared) ∧
    ∀ p a p', (program host).lts.Reachable p → (program host).lts.step p a p' →
      ofSession p a = true → (FencesKept Renews p.shared p'.shared ↔
        p'.shared.fences = p.shared.fences ∨ inOrder p a = true) := by
  refine ⟨?_, ?_, fun p a p' => step_renews_iff⟩
  · intro tr p u p' hrun hsteps
    refine run_fencesKept (fun _ => trivial) (fun _ _ _ _ _ => trivial) ?_ hrun hsteps
    exact fun p a p' hsession => ⟨hsession, fun _ _ => trivial⟩
  · intro tr p u p' hrun hsteps
    refine run_fencesKept (fun fence => le_iff.2 (by omega)) (fun _ _ _ => le_trans) ?_
      hrun hsteps
    exact fun p a p' ⟨hsession, horder⟩ => ⟨hsession, renews_of_inOrder horder⟩

end

/-! ## A renewal -/

namespace Renewal

/-- The fence of epoch five with the deadline of its renewal. -/
def renewed : ConnectionFenceV2 :=
  { sampleFence 5 6 with leaseUntil := some ⟨545, 0⟩, expiresAt := some ⟨845, 0⟩ }

/-- `register_owner_fence` up to its decision. -/
def presents (id : Nat) (fence : ConnectionFenceV2) : List (Label Task Input Event) :=
  .spawn id (.registerFence fence .verifying) :: List.replicate 2 (.act id Owned.input .silent)

/-- The call that registers a fence over one of its id returns. -/
def refreshes (id : Nat) : Label Task Input Event :=
  .act id Owned.input (.fenceReturned ⟨.refreshed, 5⟩)

/-- The registered lease of the sample node. -/
def deadline (p : Pool Shared Task) : Option Instant :=
  (p.shared.fences.lookup (sampleUuid 3).1).map RegisteredFence.lease

/-- The first fence is registered, and the other one is about to be. -/
def trace (first second : ConnectionFenceV2) : List (Label Task Input Event) :=
  presents 0 first ++ .act 0 Owned.input .silent :: presents 1 second

theorem last_step {C : Pool Shared Task → Label Task Input Event → Pool Shared Task → Prop}
    [∀ p a p', Decidable (C p a p')] (before after : Option Instant)
    (h : (t.foldlM (LTS.guarded (program Owned.host).next C) Owned.start).any (fun p =>
      deadline p == before && (LTS.guarded (program Owned.host).next C p a).any
        fun p' => deadline p' == after) = true) :
    ∃ p p', deadline p = before ∧ deadline p' = after ∧
      ((program Owned.host).lts.restrict C).Run t p ∧
      ((program Owned.host).lts.restrict C).step p a p' := by
  obtain ⟨p, hp, h⟩ := (any_eq_true _ _).1 h
  obtain ⟨hbefore, h⟩ := Bool.and_eq_true_iff.1 h
  obtain ⟨p', hp', hafter⟩ := (any_eq_true _ _).1 h
  have hstep := LTS.restrict_step_of_guarded (C := C) (M := (program Owned.host).lts)
    (fun _ _ _ => Program.step_of_next)
  exact ⟨p, p', eq_of_beq hbefore, eq_of_beq hafter, .of_foldlM hstep Owned.start_init hp,
    hstep p a p' hp'⟩

end Renewal

open Renewal in
/-- The renewal of a lease is registered over its first fence. -/
theorem renewal_registered : ∃ p p', deadline p = some ⟨530, 0⟩ ∧ deadline p' = some ⟨545, 0⟩ ∧
    FencesKept Renews p.shared p'.shared := by
  obtain ⟨p, p', hbefore, hafter, hrun, hstep⟩ := last_step (some ⟨530, 0⟩)
    (some ⟨545, 0⟩) (C := fun p a _ => ofSession p a = true ∧ inOrder p a = true)
    (t := trace (sampleFence 5 6) renewed) (a := refreshes 1) (by decide +kernel)
  exact ⟨p, p', hbefore, hafter,
    (owner_lease_renewals Owned.host).2.1 _ p _ p' hrun (.cons hstep .nil)⟩

open Renewal in
/-- The first fence of the session, presented again, undoes the renewal of its lease. -/
theorem renewal_undone : ∃ p p', deadline p = some ⟨545, 0⟩ ∧ deadline p' = some ⟨530, 0⟩ ∧
    ((program Owned.host).lts.restrict fun p a _ => ofSession p a = true).Run
      (trace renewed (sampleFence 5 6)) p ∧
    ((program Owned.host).lts.restrict fun p a _ => ofSession p a = true).step p (refreshes 1)
      p' :=
  last_step _ _ (by decide +kernel)

end Transport

end Ocservia
