import Ocservia.Controller.Rollout

/-!
# The order of a rollout's batches

What each statement of a rollout keeps, whichever transaction runs it: the batches before the
current one are done, those after it are untouched, and a skipped canary holds the rollout paused
(`Ordered`). A statement on nodes keeps this order when it changes rows of the current batch only
(`Ordered.updateNodes`), and no statement takes a success back or moves a node to another batch
(`Follows`).
-/

namespace Ocservia

namespace Rollout

open Wire

/-! ## What a statement may change -/

theorem Store.mem_updateNodes {s : Store} {p : Node → Bool} {set : Node → Node}
    {hset : ∀ n, (set n).nodeId = n.nodeId} {n' : Node} :
    n' ∈ (s.updateNodes p set hset).nodes ↔ ∃ n ∈ s.nodes, (if p n then set n else n) = n' := by
  rw [updateNodes, KeyedTable.mem_update]

/-- A node that is finished and not stopped is done. -/
theorem NodeState.done_of_finished {state : NodeState} (hf : state.unfinished = false)
    (hs : state.stopped = false) : state = .succeeded ∨ state = .skipped := by
  cases state <;> simp_all [unfinished, stopped]

def Succeeded (s : Store) (k : Uuid) : Prop :=
  ∃ n ∈ s.nodes, n.nodeId = k ∧ n.state = .succeeded

/-- What every statement keeps: the nodes and their batches, and success. -/
structure Follows (s s' : Store) : Prop where
  currentBatch : s.rollout.currentBatch ≤ s'.rollout.currentBatch
  origin : ∀ n' ∈ s'.nodes, ∃ n ∈ s.nodes, n.nodeId = n'.nodeId ∧ n.batch = n'.batch
  succeeded : ∀ k, Succeeded s k → Succeeded s' k

namespace Follows

theorem refl (s : Store) : Follows s s where
  currentBatch := le_rfl
  origin n' hn' := ⟨n', hn', rfl, rfl⟩
  succeeded _ hk := hk

theorem trans (h : Follows s s') (h' : Follows s' s'') : Follows s s'' where
  currentBatch := h.currentBatch.trans h'.currentBatch
  origin n'' hn'' := by
    obtain ⟨n', hn', hid', hb'⟩ := h'.origin n'' hn''
    obtain ⟨n, hn, hid, hb⟩ := h.origin n' hn'
    exact ⟨n, hn, hid.trans hid', hb.trans hb'⟩
  succeeded k hk := h'.succeeded k (h.succeeded k hk)

/-- Statements on the rollout row alone. -/
theorem of_nodes_eq (hn : s'.nodes = s.nodes)
    (hb : s.rollout.currentBatch ≤ s'.rollout.currentBatch) : Follows s s' where
  currentBatch := hb
  origin n' hn' := ⟨n', hn ▸ hn', rfl, rfl⟩
  succeeded k := by rintro ⟨n, hm, hk⟩; exact ⟨n, hn ▸ hm, hk⟩

/-- A statement on nodes that keeps the batch of a row, and its state where it is `succeeded`. -/
theorem updateNodes {p : Node → Bool} {set : Node → Node} {hset : ∀ n, (set n).nodeId = n.nodeId}
    (hbatch : ∀ n, (set n).batch = n.batch)
    (hsucc : ∀ n, p n → n.state = .succeeded → (set n).state = .succeeded) :
    Follows s (s.updateNodes p set hset) where
  currentBatch := le_rfl
  origin n' hn' := by
    obtain ⟨n, hn, rfl⟩ := Store.mem_updateNodes.1 hn'
    refine ⟨n, hn, ?_, ?_⟩ <;> split <;> simp [hset, hbatch]
  succeeded k := by
    rintro ⟨n, hn, rfl, hs⟩
    refine ⟨_, Store.mem_updateNodes.2 ⟨n, hn, rfl⟩, ?_, ?_⟩ <;> split
    · exact hset n
    · rfl
    · exact hsucc n ‹_› hs
    · exact hs

end Follows

/-! ## The order of the batches -/

/-- The invariant of every statement. -/
structure Ordered (s : Store) : Prop where
  stopOnFailure : s.rollout.stopOnFailure = true
  /-- No batch has more nodes than the batch size. -/
  size : ∀ b, s.nodes.rows.countP (fun n => n.batch = b) ≤ s.rollout.batchSize
  /-- A rollout with nodes has a canary. -/
  canary : ∀ n ∈ s.nodes, ∃ m ∈ s.nodes, m.batch = 0
  /-- The batches before the current one are done. -/
  earlier : ∀ n ∈ s.nodes, n.batch < s.rollout.currentBatch →
    n.state = .succeeded ∨ n.state = .skipped
  canarySucceeded : ∀ n ∈ s.nodes, n.batch = 0 → 0 < s.rollout.currentBatch → n.state = .succeeded
  /-- The batches after the current one are untouched. -/
  later : ∀ n ∈ s.nodes, s.rollout.currentBatch < n.batch →
    n.state = .pending ∧ n.dispatchLease = none
  leased : ∀ n ∈ s.nodes, n.dispatchLease ≠ none → n.state = .pending
  /-- A skipped canary holds the rollout. -/
  canarySkipped : ∀ n ∈ s.nodes, n.batch = 0 → n.state = .skipped → s.rollout.state = .paused
  keys : ∀ u ∈ s.upgrades,
    u.idempotencyKey = dispatchKey s.rollout.id u.request.nodeId u.request.attempt

/-- The rollout has reached the batch of the node `k`. -/
def Reached (s : Store) (k : Uuid) : Prop :=
  ∀ n ∈ s.nodes, n.nodeId = k → n.batch ≤ s.rollout.currentBatch

theorem Reached.follows (h : Reached s k) (hf : Follows s s') : Reached s' k := by
  intro n' hn' hk
  obtain ⟨n, hn, hid, hb⟩ := hf.origin n' hn'
  exact hb ▸ (h n hn (hid.trans hk)).trans hf.currentBatch

namespace Ordered

section
variable (h : Ordered s)
include h

section
variable (hn : n ∈ s.nodes)
include hn

/-- An unfinished node that the rollout has reached is in the current batch. -/
theorem batch_eq (hu : n.state.unfinished)
    (hb : n.batch ≤ s.rollout.currentBatch) : n.batch = s.rollout.currentBatch := by
  by_contra hne
  rcases h.earlier n hn (by omega) with e | e <;> simp [e, NodeState.unfinished] at hu

/-- A node that is not pending and not done is in the current batch. -/
theorem batch_eq_of_ne_pending (hp : n.state ≠ .pending)
    (hd : ¬ (n.state = .succeeded ∨ n.state = .skipped)) : n.batch = s.rollout.currentBatch := by
  rcases Nat.lt_trichotomy n.batch s.rollout.currentBatch with hlt | heq | hgt
  · exact absurd (h.earlier n hn hlt) hd
  · exact heq
  · exact absurd (h.later n hn hgt).1 hp

/-- A skipped canary is in the current batch. -/
theorem batch_eq_of_canarySkipped (h0 : n.batch = 0)
    (hs : n.state = .skipped) : n.batch = s.rollout.currentBatch := by
  by_contra hne
  have := h.canarySucceeded n hn h0 (by omega)
  cases hs.symm.trans this

/-- A stopped node is in the current batch. -/
theorem batch_eq_of_stopped (hs : n.state.stopped) : n.batch = s.rollout.currentBatch := by
  refine h.batch_eq_of_ne_pending hn ?_ ?_ <;> cases e : n.state <;> simp_all [NodeState.stopped]

end

/-- A statement on nodes of the current batch keeps the order. -/
theorem updateNodes {p : Node → Bool} {set : Node → Node}
    {hset : ∀ n, (set n).nodeId = n.nodeId} (hbatch : ∀ n, (set n).batch = n.batch)
    (hcur : ∀ n ∈ s.nodes, p n → set n = n ∨ n.batch = s.rollout.currentBatch)
    (hlease : ∀ n ∈ s.nodes, p n → (set n).dispatchLease ≠ none → (set n).state = .pending)
    (hskip : ∀ n ∈ s.nodes, p n → n.batch = 0 → (set n).state = .skipped →
      s.rollout.state = .paused) :
    Ordered (s.updateNodes p set hset) := by
  -- a rewritten row is an old one, or a row of the current batch under the condition
  have hcases : ∀ n' ∈ (s.updateNodes p set hset).nodes,
      n' ∈ s.nodes ∨
        ∃ n ∈ s.nodes, p n ∧ n' = set n ∧ n'.batch = n.batch ∧
          n.batch = s.rollout.currentBatch := by
    intro n' hn'
    obtain ⟨n, hn, rfl⟩ := Store.mem_updateNodes.1 hn'
    by_cases hp : p n
    · rw [if_pos hp]
      rcases hcur n hn hp with e | hb
      · rw [e]; exact .inl hn
      · exact .inr ⟨n, hn, hp, rfl, hbatch n, hb⟩
    · rw [if_neg hp]; exact .inl hn
  have himage : ∀ n, (if p n then set n else n).batch = n.batch := by
    intro n; split <;> simp [hbatch]
  refine ⟨h.stopOnFailure, fun b => ?_, fun n' hn' => ?_, fun n' hn' hlt => ?_,
    fun n' hn' h0 hpos => ?_, fun n' hn' hgt => ?_, fun n' hn' hl => ?_,
    fun n' hn' h0 hs => ?_, h.keys⟩
  · have hrows : (s.updateNodes p set hset).nodes.rows =
        s.nodes.rows.map fun n => if p n then set n else n := rfl
    rw [hrows, List.countP_map]
    simp only [Function.comp_def, himage]
    exact h.size b
  · obtain ⟨n, hn, rfl⟩ := Store.mem_updateNodes.1 hn'
    obtain ⟨m, hm, h0⟩ := h.canary n hn
    exact ⟨_, Store.mem_updateNodes.2 ⟨m, hm, rfl⟩, (himage m).trans h0⟩
  · rcases hcases n' hn' with hold | ⟨n, _, _, _, hb, hc⟩
    · exact h.earlier n' hold hlt
    · exact absurd (hb.trans hc) (Nat.ne_of_lt hlt)
  · rcases hcases n' hn' with hold | ⟨n, hn, hp, rfl, hb, hc⟩
    · exact h.canarySucceeded n' hold h0 hpos
    · exact absurd (hc.symm.trans (hb ▸ h0)) (Nat.ne_of_gt hpos)
  · rcases hcases n' hn' with hold | ⟨n, _, _, _, hb, hc⟩
    · exact h.later n' hold hgt
    · exact absurd (hb.trans hc) (Nat.ne_of_gt hgt)
  · rcases hcases n' hn' with hold | ⟨n, hn, hp, rfl, _, _⟩
    · exact h.leased n' hold hl
    · exact hlease n hn hp hl
  · rcases hcases n' hn' with hold | ⟨n, hn, hp, rfl, hb, _⟩
    · exact h.canarySkipped n' hold h0 hs
    · exact hskip n hn hp (hb ▸ h0) hs

/-- A change of the state of the rollout keeps the order, unless it frees a skipped canary. -/
theorem setRolloutState (code : String)
    (hskip : ∀ n ∈ s.nodes, n.batch = 0 → n.state = .skipped → state = .paused) :
    Ordered (s.setRolloutState state code) :=
  ⟨h.stopOnFailure, h.size, h.canary, h.earlier, h.canarySucceeded, h.later, h.leased, hskip,
    h.keys⟩

/-- The next batch begins when the current one is done, its canary included. -/
theorem advance (hrun : s.rollout.state ≠ .paused)
    (hdone : ∀ n ∈ s.nodes, n.batch = s.rollout.currentBatch →
      n.state = .succeeded ∨ n.state = .skipped) :
    Ordered (s.setRolloutBatch (s.rollout.currentBatch + 1)) := by
  have hdone' : ∀ n ∈ s.nodes, n.batch < s.rollout.currentBatch + 1 →
      n.state = .succeeded ∨ n.state = .skipped := by
    intro n hn hlt
    rcases Nat.lt_succ_iff_lt_or_eq.1 hlt with hlt | heq
    · exact h.earlier n hn hlt
    · exact hdone n hn heq
  refine ⟨h.stopOnFailure, h.size, h.canary, hdone', fun n hn h0 _ => ?_, fun n hn hgt => ?_,
    h.leased, h.canarySkipped, h.keys⟩
  · rcases hdone' n hn (by omega) with e | e
    · exact e
    · exact absurd (h.canarySkipped n hn h0 e) hrun
  · exact h.later n hn (Nat.lt_of_succ_lt hgt)

end

end Ordered

/-! ## The statements one by one -/

section Statements

variable {s : Store}

theorem Ordered.setRolloutNodeOutcome (h : Ordered s) (node : Uuid) (u : UpgradeState)
    (code : String) : Ordered (s.setRolloutNodeOutcome node u.outcome code) := by
  have hrunning : ∀ n : Node, decide (n.nodeId = node ∧ n.state = .running) = true →
      n.state = .running := fun n hp => (of_decide_eq_true hp).2
  refine h.updateNodes (fun _ => rfl) (fun n hn hp => .inr ?_) (fun n hn hp hl => ?_)
    (fun n hn hp h0 hs => by cases u <;> cases hs)
  · exact h.batch_eq_of_ne_pending hn (by simp [hrunning n hp]) (by simp [hrunning n hp])
  · have hpending := h.leased n hn hl
    rw [hrunning n hp] at hpending
    cases hpending

theorem Follows.setRolloutNodeOutcome (node : Uuid) (state : NodeState) (code : String) :
    Follows s (s.setRolloutNodeOutcome node state code) := by
  refine Follows.updateNodes (fun _ => rfl) fun n hp hs => ?_
  rw [(of_decide_eq_true hp).2] at hs
  cases hs

theorem Store.claimable_iff :
    claimable node time n = true ↔
      n.nodeId = node ∧ n.state = .pending ∧ n.dispatchLease.all (· ≤ time) :=
  decide_eq_true_iff

theorem Store.pendingNode_iff : pendingNode node n = true ↔ n.nodeId = node ∧ n.state = .pending :=
  decide_eq_true_iff

theorem Ordered.claimRolloutNode (h : Ordered s) (hr : Reached s node) (version : Int)
    (attempt : Nat) (lease time : DbTime) :
    Ordered (s.claimRolloutNode node version attempt lease time) := by
  refine h.updateNodes (fun _ => rfl) (fun n hn hp => .inr ?_) (fun n hn hp _ => ?_)
    (fun n hn _ h0 hs => h.canarySkipped n hn h0 hs)
  · obtain ⟨hid, hs, -⟩ := Store.claimable_iff.1 hp
    exact h.batch_eq hn (by rw [hs]; rfl) (hr n hn hid)
  · exact (Store.claimable_iff.1 hp).2.1

theorem Follows.claimRolloutNode (node : Uuid) (version : Int) (attempt : Nat)
    (lease time : DbTime) : Follows s (s.claimRolloutNode node version attempt lease time) :=
  Follows.updateNodes (fun _ => rfl) fun _ _ hs => hs

theorem Ordered.attachRolloutOperation (h : Ordered s) (hr : Reached s node)
    (operation : Uuid) (version : String) :
    Ordered (s.attachRolloutOperation node operation version) := by
  refine h.updateNodes (fun _ => rfl) (fun n hn hp => .inr ?_) (fun _ _ _ hl => absurd rfl hl)
    (fun _ _ _ _ hs => by cases hs)
  obtain ⟨hid, hs⟩ := Store.pendingNode_iff.1 hp
  exact h.batch_eq hn (by rw [hs]; rfl) (hr n hn hid)

theorem Follows.attachRolloutOperation (node operation : Uuid) (version : String) :
    Follows s (s.attachRolloutOperation node operation version) := by
  refine Follows.updateNodes (fun _ => rfl) fun n hp hs => ?_
  rw [(Store.pendingNode_iff.1 hp).2] at hs
  cases hs

theorem Ordered.releaseRolloutClaim (h : Ordered s) (hr : Reached s node) :
    Ordered (s.releaseRolloutClaim node) := by
  refine h.updateNodes (fun _ => rfl) (fun n hn hp => ?_) (fun _ _ _ hl => absurd rfl hl)
    (fun n hn _ h0 hs => h.canarySkipped n hn h0 hs)
  -- only a pending node has a lease to lose
  by_cases hl : n.dispatchLease = none
  · left; cases n; cases hl; rfl
  · right
    exact h.batch_eq hn (by rw [h.leased n hn hl]; rfl) (hr n hn (of_decide_eq_true hp))

theorem Follows.releaseRolloutClaim (node : Uuid) :
    Follows s (s.releaseRolloutClaim node) :=
  Follows.updateNodes (fun _ => rfl) fun _ _ hs => hs

/-- A skip writes nothing, or pauses the rollout. -/
theorem skipRolloutNode_cases (node : Uuid) (batch : Nat) (reason : String) :
    s.skipRolloutNode node batch reason = s ∨
      (s.skipRolloutNode node batch reason).rollout =
        { s.rollout with state := .paused, pauseCode := "node_skipped" } := by
  unfold Store.skipRolloutNode
  split
  · exact .inr rfl
  · exact .inl rfl

theorem Ordered.markSkipped (h : Ordered s) (hpaused : s.rollout.state = .paused)
    (hr : Reached s node) (reason : String) : Ordered (s.markSkipped node reason) := by
  refine h.updateNodes (fun _ => rfl) (fun n hn hp => .inr ?_) (fun _ _ _ hl => absurd rfl hl)
    (fun _ _ _ _ _ => hpaused)
  obtain ⟨hid, hs⟩ := Store.pendingNode_iff.1 hp
  exact h.batch_eq hn (by rw [hs]; rfl) (hr n hn hid)

theorem Ordered.clearClaims (h : Ordered s) (hpaused : s.rollout.state = .paused) :
    Ordered (s.clearClaims s.rollout.currentBatch) :=
  h.updateNodes (fun _ => rfl) (fun _ _ hp => .inr (of_decide_eq_true hp).1)
    (fun _ _ _ hl => absurd rfl hl) (fun _ _ _ _ _ => hpaused)

theorem Ordered.skipRolloutNode (h : Ordered s) (hr : Reached s node)
    (hbatch : ∀ n ∈ s.nodes, n.nodeId = node → n.batch = batch) (reason : String) :
    Ordered (s.skipRolloutNode node batch reason) := by
  unfold Store.skipRolloutNode
  split
  next hm =>
    obtain ⟨m, hmem, hp⟩ := List.any_eq_true.1 hm
    obtain ⟨hid, hs⟩ := Store.pendingNode_iff.1 hp
    obtain rfl : batch = s.rollout.currentBatch :=
      (hbatch m hmem hid).symm.trans (h.batch_eq hmem (by rw [hs]; rfl) (hr m hmem hid))
    -- the pause is the last statement, but the order is that of the paused rollout throughout
    have hpause : Ordered (s.setRolloutState .paused "node_skipped") :=
      h.setRolloutState "node_skipped" fun _ _ _ _ => rfl
    exact (hpause.markSkipped rfl hr reason).clearClaims rfl
  next => exact h

theorem Follows.skipRolloutNode (node : Uuid) (batch : Nat) (reason : String) :
    Follows s (s.skipRolloutNode node batch reason) := by
  unfold Store.skipRolloutNode
  split
  · have hmark : Follows s (s.markSkipped node reason) := by
      refine Follows.updateNodes (fun _ => rfl) fun n hp hs => ?_
      rw [(Store.pendingNode_iff.1 hp).2] at hs
      cases hs
    have hclear :
        Follows (s.markSkipped node reason) ((s.markSkipped node reason).clearClaims batch) :=
      Follows.updateNodes (fun _ => rfl) fun _ _ hs => hs
    exact (hmark.trans hclear).trans (.of_nodes_eq rfl le_rfl)
  · exact .refl s

theorem Store.requeued_iff :
    requeued batch n = true ↔
      n.batch = batch ∧ (n.state.stopped ∨ n.state = .skipped ∧ n.batch = 0) :=
  decide_eq_true_iff

/-- The rows after a resume: no canary is skipped and no node is stopped. -/
theorem requeueNodes_states (h : Ordered s) {n' : Node}
    (hn' : n' ∈ (s.requeueNodes s.rollout.currentBatch).nodes) :
    ¬ (n'.batch = 0 ∧ n'.state = .skipped) ∧ n'.state.stopped = false := by
  obtain ⟨n, hn, rfl⟩ := Store.mem_updateNodes.1 hn'
  split
  next => exact ⟨nofun, rfl⟩
  next hp =>
    have hnot := fun e => hp (Store.requeued_iff.2 e)
    constructor
    · rintro ⟨h0, hs⟩
      exact hnot ⟨h.batch_eq_of_canarySkipped hn h0 hs, .inr ⟨hs, h0⟩⟩
    · by_contra hs
      have hs := Bool.eq_true_of_not_eq_false hs
      exact hnot ⟨h.batch_eq_of_stopped hn hs, .inl hs⟩

theorem Ordered.resumeRollout (h : Ordered s) (hpaused : s.rollout.state = .paused) :
    Ordered (s.resumeRollout s.rollout.currentBatch) := by
  rw [Store.resumeRollout, if_pos hpaused]
  have hrequeue : Ordered (s.requeueNodes s.rollout.currentBatch) :=
    h.updateNodes (fun _ => rfl) (fun n _ hp => .inr (Store.requeued_iff.1 hp).1)
      (fun _ _ _ hl => absurd rfl hl) (fun _ _ _ _ hs => by cases hs)
  exact hrequeue.setRolloutState "" fun n hn h0 hs =>
    absurd ⟨h0, hs⟩ (requeueNodes_states h hn).1

theorem Follows.resumeRollout (batch : Nat) : Follows s (s.resumeRollout batch) := by
  have hrequeue : Follows s (s.requeueNodes batch) := by
    refine Follows.updateNodes (fun _ => rfl) fun n hp hs => ?_
    rcases (Store.requeued_iff.1 hp).2 with e | ⟨e, -⟩
    iterate 2 rw [hs] at e; cases e
  unfold Store.resumeRollout
  split
  · exact hrequeue.trans (.of_nodes_eq rfl le_rfl)
  · exact hrequeue

end Statements

end Rollout

end Ocservia
