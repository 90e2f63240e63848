import Mathlib.Logic.Relation
import Ocservia.Controller.RolloutOrder

/-!
# Safety of staged rollouts

The controllers that advance one rollout share its rows and each keep in memory what a dispatch has
left to do. Advance passes, resumes and recorded skips hold the lock of the rollout row; the two
statements that attach an operation and release a claim do not (`Unlocked`), so that they may come
between the statements of an advance pass. A crash loses tasks.

The order of the batches (`Ordered`) holds at every statement. `Halted` holds between transactions:
a rollout with a stopped node is paused. `Step.spec` says what a step from a safe state keeps and
may claim, and `rollout_safety` what follows for every run.
-/

namespace Ocservia

open Option List KeyedTable

namespace Rollout

open Wire Relation

/-! ## The system -/

/-- The rows, and what the controllers have left to do. -/
structure System where
  store : Store
  tasks : List Task

/-- The statements of a dispatch that do not lock the rollout row. -/
inductive Unlocked : System → System → Prop where
  | attach {S : System} {node operation : Uuid} {version : String} :
      .attach node operation version ∈ S.tasks →
      Unlocked S ⟨S.store.attachRolloutOperation node operation version,
        S.tasks.erase (.attach node operation version)⟩
  | release {S : System} {node : Uuid} :
      .release node ∈ S.tasks →
      Unlocked S ⟨S.store.releaseRolloutClaim node, S.tasks.erase (.release node)⟩

/-- What a step shows. -/
inductive Event where
  | prepared (claims : List Claim)
  | dispatched (claim : Claim) (operation : Option Upgrade)
  | recorded
  | skipped (node : Uuid)
  | resumed
  | outcome (key : String)
  | crashed

/-- The transactions of the controllers, the outcomes of the operations, and crashes. -/
inductive Step : System → Event → System → Prop where
  -- the rows are read in `S₁` and written in `S₂`; in between, other dispatches are recorded
  | prepare {S S₁ S₂ : System} {inv : Inventory} {time : DbTime} {claims : List Claim}
      {advanced : Bool} {s' : Store} :
      DbTime.fromTime inv.now = some time →
      S.store.rollout.state = .queued ∨ S.store.rollout.state = .running →
      ReflTransGen Unlocked ⟨beginAdvance S.store, S.tasks⟩ S₁ → ReflTransGen Unlocked S₁ S₂ →
      evaluateRolloutBatch inv time S₁.store.nodes.rows S₂.store = some (claims, advanced, s') →
      Step S (.prepared claims) ⟨s', S₂.tasks ++ claims.map .dispatch⟩
  | dispatch {S : System} {inv : Inventory} {claim : Claim} {operation : Option Upgrade}
      {task : Option Task} {s' : Store} :
      .dispatch claim ∈ S.tasks →
      dispatchRolloutNode inv S.store claim = (operation, task, s') →
      Step S (.dispatched claim operation) ⟨s', S.tasks.erase (.dispatch claim) ++ task.toList⟩
  | record {S S' : System} : Unlocked S S' → Step S .recorded S'
  | skip {S : System} {node : Uuid} {reason : String} :
      .skip node reason ∈ S.tasks →
      Step S (.skipped node) ⟨recordRolloutNodeSkipped S.store node reason,
        S.tasks.erase (.skip node reason)⟩
  | resume {S : System} :
      S.store.rollout.state = .paused →
      Step S .resumed ⟨S.store.resumeRollout S.store.rollout.currentBatch, S.tasks⟩
  -- delivery and reconciliation of an operation, which the rollout only reads
  | outcome {S : System} {u : Upgrade} {state : UpgradeState} {completed : Bool} :
      u ∈ S.store.upgrades → u.completed = false →
      Step S (.outcome u.idempotencyKey)
        ⟨{ S.store with upgrades := S.store.upgrades.set { u with state, completed } }, S.tasks⟩
  | crash {S : System} {tasks : List Task} :
      tasks ⊆ S.tasks → Step S .crashed ⟨S.store, tasks⟩

/-- What `CreateAgentRollout` commits. -/
structure Created (S : System) : Prop where
  state : S.store.rollout.state = .queued
  currentBatch : S.store.rollout.currentBatch = 0
  stopOnFailure : S.store.rollout.stopOnFailure = true
  batchSize : 1 ≤ S.store.rollout.batchSize
  nodes : ∃ eligible, S.store.nodes.rows = insertedNodes S.store.rollout.batchSize eligible
  upgrades : S.store.upgrades.rows = []
  tasks : S.tasks = []

/-- The controllers at work on one rollout. -/
def system : LTS System Event := ⟨Created, Step⟩

variable {s' s : Store}

/-- An advance pass that nothing interrupts is a step. -/
theorem Step.of_prepareRolloutAdvance
    (hstate : S.store.rollout.state = .queued ∨ S.store.rollout.state = .running)
    (h : prepareRolloutAdvance inv S.store = some (claims, progressed, s')) :
    Step S (.prepared claims) ⟨s', S.tasks ++ claims.map .dispatch⟩ := by
  obtain ⟨time, htime, h⟩ := bind_eq_some_iff.1 h
  rw [if_neg (by rcases hstate with e | e <;> simp [e])] at h
  obtain ⟨⟨claims', advanced, s₁⟩, he, h⟩ := map_eq_some_iff.1 h
  obtain ⟨rfl, -, rfl⟩ : claims' = claims ∧ _ ∧ s₁ = s' := by simpa using h
  exact @Step.prepare S _ ⟨beginAdvance S.store, S.tasks⟩ _ _ _ _ _ htime hstate .refl .refl he

/-! ## Statements outside the lock -/

/-- The order of the store, with every task on a node that the rollout has reached. -/
structure Settled (S : System) : Prop where
  ordered : Ordered S.store
  reached : ∀ t ∈ S.tasks, Reached S.store t.nodeId

/-- What happens outside the lock to rows read before: a pending node runs. -/
structure Snapshot (old s : Store) : Prop where
  rollout : s.rollout = old.rollout
  origin : ∀ n' ∈ s.nodes, ∃ n ∈ old.nodes, n.nodeId = n'.nodeId ∧ n.batch = n'.batch ∧
    (n'.state = n.state ∨ n.state = .pending ∧ n'.state = .running)

theorem Snapshot.refl (s : Store) : Snapshot s s :=
  ⟨rfl, fun n' hn' => ⟨n', hn', rfl, rfl, .inl rfl⟩⟩

theorem Snapshot.trans (h : Snapshot s s') (h' : Snapshot s' s'') : Snapshot s s'' := by
  refine ⟨h'.rollout.trans h.rollout, fun n'' hn'' => ?_⟩
  obtain ⟨n', hn', hid', hb', hs'⟩ := h'.origin n'' hn''
  obtain ⟨n, hn, hid, hb, hs⟩ := h.origin n' hn'
  refine ⟨n, hn, hid.trans hid', hb.trans hb', ?_⟩
  rcases hs with hs | ⟨hp, hr⟩
  · rcases hs' with hs' | ⟨hp', hr'⟩
    · exact .inl (hs'.trans hs)
    · exact .inr ⟨hs.symm.trans hp', hr'⟩
  · rcases hs' with hs' | ⟨hp', hr'⟩
    · exact .inr ⟨hp, hs'.trans hr⟩
    · exact .inr ⟨hp, hr'⟩

/-- A node that is stopped was stopped when the rows were read. -/
theorem Snapshot.stopped (h : Snapshot old s) (hold : ∀ n ∈ old.nodes, n.state.stopped = false) :
    ∀ n ∈ s.nodes, n.state.stopped = false := by
  intro n' hn'
  obtain ⟨n, hn, -, -, hs | ⟨-, hr⟩⟩ := h.origin n' hn'
  · rw [hs]; exact hold n hn
  · rw [hr]; rfl

/-- The rows of one node in the store and in the rows read before are of one batch. -/
theorem Snapshot.batch (h : Snapshot old s) (hn : n ∈ old.nodes) (hn' : n' ∈ s.nodes)
    (hid : n'.nodeId = n.nodeId) : n'.batch = n.batch := by
  obtain ⟨m, hm, hmid, hmb, -⟩ := h.origin n' hn'
  rw [← hmb, eq_of_key hm hn (hmid.trans hid)]

theorem Snapshot.updateNodes {p : Node → Bool} {set : Node → Node}
    {hset : ∀ n, (set n).nodeId = n.nodeId} (hbatch : ∀ n, (set n).batch = n.batch)
    (hstate : ∀ n, p n → (set n).state = n.state ∨ n.state = .pending ∧ (set n).state = .running) :
    Snapshot s (s.updateNodes p set hset) := by
  refine ⟨rfl, fun n' hn' => ?_⟩
  obtain ⟨n, hn, rfl⟩ := Store.mem_updateNodes.1 hn'
  split
  next hp => exact ⟨n, hn, (hset n).symm, (hbatch n).symm, hstate n hp⟩
  next => exact ⟨n, hn, rfl, rfl, .inl rfl⟩

theorem Snapshot.attachRolloutOperation (node operation : Uuid) (version : String) :
    Snapshot s (s.attachRolloutOperation node operation version) :=
  Snapshot.updateNodes (fun _ => rfl) fun _ hp => .inr ⟨(Store.pendingNode_iff.1 hp).2, rfl⟩

theorem Snapshot.releaseRolloutClaim (node : Uuid) :
    Snapshot s (s.releaseRolloutClaim node) :=
  Snapshot.updateNodes (fun _ => rfl) fun _ _ => .inl rfl

namespace Unlocked

section
variable (h : Unlocked S S')
include h

theorem follows : Follows S.store S'.store := by
  cases h with
  | attach _ => exact .attachRolloutOperation _ _ _
  | release _ => exact .releaseRolloutClaim _

theorem settled (hs : Settled S) : Settled S' := by
  have hf := h.follows
  cases h with
  | attach ht =>
    exact ⟨hs.ordered.attachRolloutOperation (hs.reached _ ht) _ _,
      fun t hmem => (hs.reached t (mem_of_mem_erase hmem)).follows hf⟩
  | release ht =>
    exact ⟨hs.ordered.releaseRolloutClaim (hs.reached _ ht),
      fun t hmem => (hs.reached t (mem_of_mem_erase hmem)).follows hf⟩

theorem snapshot : Snapshot S.store S'.store := by
  cases h with
  | attach _ => exact .attachRolloutOperation _ _ _
  | release _ => exact .releaseRolloutClaim _

theorem upgrades : S'.store.upgrades = S.store.upgrades := by
  cases h <;> rfl

end

/-- What a sequence of such statements keeps. -/
theorem many (h : ReflTransGen Unlocked S S') (hs : Settled S) :
    Settled S' ∧ Follows S.store S'.store ∧ Snapshot S.store S'.store ∧
      S'.store.upgrades = S.store.upgrades := by
  induction h with
  | refl => exact ⟨hs, .refl _, .refl _, rfl⟩
  | tail _ hstep ih =>
    obtain ⟨hs', hf, hsnap, hu⟩ := ih
    exact ⟨hstep.settled hs', hf.trans hstep.follows, hsnap.trans hstep.snapshot,
      hstep.upgrades.trans hu⟩

end Unlocked

/-! ## The advance pass -/

/-- A pass starts on a running rollout with the order kept. -/
theorem beginAdvance_spec (h : Ordered s)
    (hstate : s.rollout.state = .queued ∨ s.rollout.state = .running) :
    Ordered (beginAdvance s) ∧ Follows s (beginAdvance s) ∧
      (beginAdvance s).rollout.state = .running ∧
      (beginAdvance s).rollout.currentBatch = s.rollout.currentBatch ∧
      (beginAdvance s).upgrades = s.upgrades ∧
      (beginAdvance s).rollout.id = s.rollout.id := by
  -- the roll-up writes node rows only
  have hfold : ∀ (l : List (Uuid × UpgradeState)) (s : Store), Ordered s →
      let s' := l.foldl (fun s t =>
        s.setRolloutNodeOutcome t.1 t.2.outcome (outcomeCode t.2.outcome)) s
      Ordered s' ∧ Follows s s' ∧ s'.rollout = s.rollout ∧ s'.upgrades = s.upgrades := by
    intro l
    induction l with
    | nil => exact fun s hs => ⟨hs, .refl s, rfl, rfl⟩
    | cons t l ih =>
      intro s hs
      obtain ⟨ho, hf, hr, hu⟩ := ih _ (hs.setRolloutNodeOutcome t.1 t.2 (outcomeCode t.2.outcome))
      exact ⟨ho, (Follows.setRolloutNodeOutcome _ _ _).trans hf, hr, hu⟩
  unfold beginAdvance rollUpTerminalRolloutNodes
  split
  next hq =>
    have hnone : ∀ n ∈ s.nodes, n.batch = 0 → n.state = .skipped → State.running = .paused :=
      fun n hn h0 hs => absurd (h.canarySkipped n hn h0 hs) (by simp [hq])
    obtain ⟨ho, hf, hr, hu⟩ := hfold (terminalRolloutNodes _) _
      (h.setRolloutState s.rollout.pauseCode hnone)
    have hstart : Follows s (s.setRolloutState .running s.rollout.pauseCode) :=
      .of_nodes_eq rfl le_rfl
    exact ⟨ho, hstart.trans hf, by rw [hr]; rfl, by rw [hr]; rfl, hu, by rw [hr]; rfl⟩
  next hq =>
    obtain ⟨ho, hf, hr, hu⟩ := hfold (terminalRolloutNodes s) s h
    exact ⟨ho, hf, by rw [hr]; exact hstate.resolve_left hq, by rw [hr], hu, by rw [hr]⟩

theorem preflight_skip (h : preflight inv time s nodes = .error (.skip node reason)) :
    node ∈ nodes := by
  induction nodes with
  | nil => cases h
  | cons n rest ih =>
    unfold preflight at h
    split at h
    · exact mem_cons_of_mem _ (ih h)
    split at h
    · cases h
    split at h
    · cases h; exact mem_cons_self
    cases hr : preflight inv time s rest with
    | ok l => rw [hr] at h; cases h
    | error e =>
      rw [hr] at h
      cases h
      exact mem_cons_of_mem _ (ih hr)

theorem preflight_ok (h : preflight inv time s nodes = .ok eligible) :
    ∀ e ∈ eligible, e.1 ∈ nodes := by
  induction nodes generalizing eligible with
  | nil => cases h; intro e he; cases he
  | cons n rest ih =>
    unfold preflight at h
    split at h
    · exact fun e he => mem_cons_of_mem _ (ih h e he)
    split at h
    · cases h
    split at h
    · cases h
    cases hr : preflight inv time s rest with
    | error e => rw [hr] at h; cases h
    | ok l =>
      rw [hr] at h
      cases h
      intro e he
      rcases mem_cons.1 he with rfl | he
      · exact mem_cons_self
      · exact mem_cons_of_mem _ (ih hr e he)

/-- Claims change no state, and claim pending nodes of the list. -/
theorem claimEligible_spec (h : Ordered s) (hr : ∀ e ∈ eligible, Reached s e.1.nodeId)
    (he : claimEligible inv time eligible s = some (claims, s')) :
    Ordered s' ∧ Follows s s' ∧ s'.rollout = s.rollout ∧ s'.upgrades = s.upgrades ∧
      (∀ n' ∈ s'.nodes, ∃ n ∈ s.nodes, n.nodeId = n'.nodeId ∧ n.state = n'.state) ∧
      ∀ c ∈ claims, (∃ e ∈ eligible, e.1.nodeId = c.node.nodeId) ∧
        ∃ n ∈ s.nodes, n.nodeId = c.node.nodeId ∧ n.state = .pending := by
  induction eligible generalizing s claims with
  | nil =>
    cases he
    exact ⟨h, .refl _, rfl, rfl, fun n hn => ⟨n, hn, rfl, rfl⟩, fun c hc => by cases hc⟩
  | cons e rest ih =>
    obtain ⟨node, o, digest⟩ := e
    unfold claimEligible at he
    split at he
    next version lease _ _ =>
      dsimp only at he
      split at he
      next hm =>
        obtain ⟨⟨claims', s₁⟩, hrest, heq⟩ := map_eq_some_iff.1 he
        cases heq
        have hf : Follows s (s.claimRolloutNode node.nodeId version (max 1 node.dispatchAttempt)
          lease time) := .claimRolloutNode _ _ _ _ _
        have hback : ∀ n₁ ∈ (s.claimRolloutNode node.nodeId version (max 1 node.dispatchAttempt)
            lease time).nodes, ∃ n ∈ s.nodes, n.nodeId = n₁.nodeId ∧ n.state = n₁.state := by
          intro n₁ hn₁
          obtain ⟨n, hn, rfl⟩ := Store.mem_updateNodes.1 hn₁
          refine ⟨n, hn, ?_, ?_⟩ <;> split <;> rfl
        obtain ⟨ho, hf', hroll, hup, hst, hcl⟩ := ih
          (h.claimRolloutNode (hr _ mem_cons_self) version _ lease time)
          (fun e he => (hr e (mem_cons_of_mem _ he)).follows hf) hrest
        refine ⟨ho, hf.trans hf', hroll, hup, fun n' hn' => ?_, fun c hc => ?_⟩
        · obtain ⟨n₁, hn₁, hid₁, hs₁⟩ := hst n' hn'
          obtain ⟨n, hn, hid, hs⟩ := hback n₁ hn₁
          exact ⟨n, hn, hid.trans hid₁, hs.trans hs₁⟩
        · rcases mem_cons.1 hc with rfl | hc
          · obtain ⟨n, hn, hp⟩ := any_eq_true.1 hm
            obtain ⟨hid, hs, -⟩ := Store.claimable_iff.1 hp
            exact ⟨⟨_, mem_cons_self, rfl⟩, n, hn, hid, hs⟩
          · obtain ⟨⟨e, he, hid⟩, n₁, hn₁, hid₁, hs₁⟩ := hcl c hc
            obtain ⟨n, hn, hid₂, hs₂⟩ := hback n₁ hn₁
            exact ⟨⟨e, mem_cons_of_mem _ he, hid⟩, n, hn, hid₂.trans hid₁, hs₂.trans hs₁⟩
      next =>
        obtain ⟨ho, hf, hroll, hup, hst, hcl⟩ :=
          ih h (fun e he => hr e (mem_cons_of_mem _ he)) he
        refine ⟨ho, hf, hroll, hup, hst, fun c hc => ?_⟩
        obtain ⟨⟨e, he, hid⟩, hn⟩ := hcl c hc
        exact ⟨⟨e, mem_cons_of_mem _ he, hid⟩, hn⟩
    next => cases he

/-- What an evaluation decides, by the state of the rows it read. -/
inductive Decision (inv : Inventory) (time : DbTime) (nodes : List Node) (s : Store) :
    List Claim → Store → Prop where
  | pause {code : String} : Decision inv time nodes s [] (s.setRolloutState .paused code)
  | skip {node : Node} {reason : String} :
      (∀ n ∈ nodes, n.state.stopped = false) → node ∈ nodes →
      node.batch = s.rollout.currentBatch →
      Decision inv time nodes s [] (s.skipRolloutNode node.nodeId node.batch reason)
  | claim {eligible : List (Node × Observation × FixedBytes 32)} {claims : List Claim}
      {s' : Store} :
      (∀ n ∈ nodes, n.state.stopped = false) →
      (∀ e ∈ eligible, e.1 ∈ nodes ∧ e.1.batch = s.rollout.currentBatch) →
      claimEligible inv time eligible s = some (claims, s') → Decision inv time nodes s claims s'
  | advance :
      (∀ n ∈ nodes, n.state.stopped = false) →
      (∀ n ∈ nodes, n.batch = s.rollout.currentBatch → n.state.unfinished = false) →
      Decision inv time nodes s [] (s.setRolloutBatch (s.rollout.currentBatch + 1))
  | complete {state : State} {code : String} :
      (∀ n ∈ nodes, n.state.stopped = false) →
      Decision inv time nodes s [] (s.setRolloutState state code)

theorem decision_of_evaluate (hstop : s.rollout.stopOnFailure = true)
    (h : evaluateRolloutBatch inv time nodes s = some (claims, advanced, s')) :
    Decision inv time nodes s claims s' := by
  unfold evaluateRolloutBatch at h
  cases hfind : nodes.find? (·.state.stopped) with
  | some blocked =>
    rw [hfind, hstop] at h
    cases h
    exact .pause
  | none =>
    have hnone : ∀ n ∈ nodes, n.state.stopped = false := by
      intro n hn
      exact Bool.eq_false_of_not_eq_true (find?_eq_none.1 hfind n hn)
    rw [hfind] at h
    dsimp only at h
    split at h
    next =>
      obtain ⟨⟨claims', s₁⟩, hc, heq⟩ := map_eq_some_iff.1 h
      obtain ⟨rfl, -, rfl⟩ : claims' = claims ∧ _ ∧ s₁ = s' := by simpa using heq
      unfold claimRolloutPendingNodes at hc
      split at hc
      next => cases hc
      next node reason hp =>
        cases hc
        obtain ⟨hmem, hb⟩ := mem_filter.1 (preflight_skip hp)
        exact .skip hnone hmem (of_decide_eq_true hb)
      next eligible hp =>
        refine .claim hnone (fun e he => ?_) hc
        obtain ⟨hmem, hb⟩ := mem_filter.1 (preflight_ok hp e he)
        exact ⟨hmem, of_decide_eq_true hb⟩
    next hcomplete =>
      split at h
      next =>
        cases h
        refine .advance hnone fun n hn hb => ?_
        by_contra hu
        exact hcomplete (.inr (any_eq_true.2
          ⟨n, mem_filter.2 ⟨hn, decide_eq_true hb⟩, Bool.eq_true_of_not_eq_false hu⟩))
      next =>
        split at h
        iterate 2 cases h; exact .complete hnone

/-- A stopped node holds the rollout paused. -/
def Halted (s : Store) : Prop := ∀ n ∈ s.nodes, n.state.stopped → s.rollout.state = .paused

/-- What an evaluation keeps and claims; the rows it reads may be older than those it writes. -/
theorem Decision.spec (h : Ordered s) (hrun : s.rollout.state = .running) (hsnap : Snapshot old s)
    (hd : Decision inv time old.nodes.rows s claims s') :
    Ordered s' ∧ Follows s s' ∧ Halted s' ∧ s'.upgrades = s.upgrades ∧
      s'.rollout.id = s.rollout.id ∧
      (claims ≠ [] → ∀ n ∈ s'.nodes, n.state.stopped = false) ∧
      ∀ c ∈ claims, ∃ n ∈ s.nodes, n.nodeId = c.node.nodeId ∧ n.state = .pending ∧
        n.batch = s.rollout.currentBatch := by
  have hfree : ∀ n ∈ s.nodes, n.batch = 0 → n.state = .skipped → False := by
    intro n hn h0 hs
    have := h.canarySkipped n hn h0 hs
    cases hrun.symm.trans this
  have hhalted : ∀ {s' : Store}, (∀ n ∈ s'.nodes, n.state.stopped = false) → Halted s' := by
    intro s' hn n hmem hs
    rw [hn n hmem] at hs
    cases hs
  cases hd with
  | pause =>
    exact ⟨h.setRolloutState _ fun _ _ _ _ => rfl, .of_nodes_eq rfl le_rfl, fun _ _ _ => rfl, rfl,
      rfl, fun hne => absurd rfl hne, fun c hc => by cases hc⟩
  | @skip node reason hnone hmem hb =>
    have hbatch : ∀ n ∈ s.nodes, n.nodeId = node.nodeId → n.batch = node.batch :=
      fun n hn hid => hsnap.batch hmem hn hid
    have hreach : Reached s node.nodeId := fun n hn hid => ((hbatch n hn hid).trans hb).le
    refine ⟨h.skipRolloutNode hreach hbatch reason, .skipRolloutNode _ _ _, ?_, ?_, ?_,
      fun hne => absurd rfl hne, fun c hc => by cases hc⟩
    · rcases skipRolloutNode_cases (s := s) node.nodeId node.batch reason with e | e
      · rw [e]; exact hhalted (hsnap.stopped hnone)
      · intro _ _ _; rw [e]
    iterate 2 unfold Store.skipRolloutNode; split <;> rfl
  | @claim eligible _ _ hnone hel hc =>
    have hbatch : ∀ e ∈ eligible, ∀ n ∈ s.nodes, n.nodeId = e.1.nodeId →
        n.batch = s.rollout.currentBatch :=
      fun e he n hn hid => (hsnap.batch (hel e he).1 hn hid).trans (hel e he).2
    obtain ⟨ho, hf, hroll, hup, hst, hcl⟩ :=
      claimEligible_spec h (fun e he n hn hid => (hbatch e he n hn hid).le) hc
    have hnone' : ∀ n ∈ s'.nodes, n.state.stopped = false := by
      intro n' hn'
      obtain ⟨n, hn, -, hs⟩ := hst n' hn'
      rw [← hs]
      exact hsnap.stopped hnone n hn
    refine ⟨ho, hf, hhalted hnone', hup, by rw [hroll], fun _ => hnone', fun c hc => ?_⟩
    obtain ⟨⟨e, he, hide⟩, n, hn, hid, hs⟩ := hcl c hc
    exact ⟨n, hn, hid, hs, hbatch e he n hn (hid.trans hide.symm)⟩
  | advance hnone hdone =>
    refine ⟨h.advance (by simp [hrun]) fun n' hn' hb' => ?_, .of_nodes_eq rfl (Nat.le_succ _),
      hhalted (hsnap.stopped hnone), rfl, rfl, fun hne => absurd rfl hne, fun c hc => by cases hc⟩
    obtain ⟨n, hn, -, hb, hs⟩ := hsnap.origin n' hn'
    have hfin := hdone n hn (hb.trans hb')
    have hstopped := hsnap.stopped hnone n' hn'
    rcases hs with hs | ⟨hp, -⟩
    · exact NodeState.done_of_finished (hs ▸ hfin) hstopped
    · rw [hp] at hfin; cases hfin
  | complete hnone =>
    exact ⟨h.setRolloutState _ fun n hn h0 hs => (hfree n hn h0 hs).elim, .of_nodes_eq rfl le_rfl,
      hhalted (hsnap.stopped hnone), rfl, rfl, fun hne => absurd rfl hne, fun c hc => by cases hc⟩

/-! ## Dispatch -/

/-- An operation for a claim is created or replayed only while its node is pending. -/
theorem recheckClaim_ok (h : recheckClaim inv time s r = .ok ()) :
    ∃ n ∈ s.nodes, n.nodeId = r.nodeId ∧ n.state = .pending := by
  unfold recheckClaim at h
  split at h
  · cases h
  split at h
  · cases h
  split at h
  · cases h
  next hlive =>
    have hl : liveClaim s r.nodeId time = true := by
      simpa using fun e => hlive (.inl e)
    obtain ⟨-, hany⟩ := of_decide_eq_true hl
    cases hget : s.nodes.get? r.nodeId with
    | none => rw [hget] at hany; cases hany
    | some n =>
      rw [hget] at hany
      exact ⟨n, mem_of_get? hget, key_of_get? hget,
        (of_decide_eq_true hany).1⟩

/-- What `Create` returns: an operation under the key of the request, old or new. -/
theorem create_ok (h : create inv s r = .ok (u, s')) :
    (∃ n ∈ s.nodes, n.nodeId = r.nodeId ∧ n.state = .pending) ∧
      u.idempotencyKey = dispatchKey s.rollout.id r.nodeId r.attempt ∧ u ∈ s'.upgrades ∧
      (s' = s ∨ u.request = r ∧ ∃ hk, s' = { s with upgrades := s.upgrades.insert u hk }) := by
  unfold create at h
  split at h
  · cases h
  split at h
  · cases h
  next time _ =>
  split at h
  · cases h
  next hre =>
  refine ⟨recheckClaim_ok hre, ?_⟩
  split at h
  next existing hget =>
    split at h
    · cases h
      exact ⟨key_of_get? hget, mem_of_get? hget, .inl rfl⟩
    · cases h
  next hget =>
    unfold insertUpgrade at h
    split at h
    · cases h
    split at h
    · cases h
    split at h
    · cases h
    · cases h
      exact ⟨rfl, (mem_insert (h := hget)).2 (.inr rfl), .inr ⟨rfl, hget, rfl⟩⟩

/-- A dispatch writes no row of the rollout and its nodes, and leaves a task on its own node. -/
theorem dispatchRolloutNode_spec (h : dispatchRolloutNode inv s claim = (operation, task, s')) :
    s'.rollout = s.rollout ∧ s'.nodes = s.nodes ∧
      (∀ t ∈ task, t.nodeId = claim.node.nodeId) ∧
      (operation = none ∧ s' = s ∨
        ∃ u, operation = some u ∧ create inv s claim.request = .ok (u, s')) := by
  unfold dispatchRolloutNode at h
  split at h
  · cases h; exact ⟨rfl, rfl, fun t ht => (by cases ht), .inl ⟨rfl, rfl⟩⟩
  split at h
  next u s₁ hc =>
    cases h
    obtain ⟨-, -, -, rfl | ⟨-, hk, rfl⟩⟩ := create_ok hc
    iterate 2 exact ⟨rfl, rfl, by rintro t ⟨⟩; rfl, .inr ⟨u, rfl, hc⟩⟩
  next e hc =>
    cases h
    refine ⟨rfl, rfl, fun t ht => ?_, .inl ⟨rfl, rfl⟩⟩
    cases e <;> cases ht <;> rfl

/-- Dispatches keep the order. -/
theorem Ordered.dispatchRolloutNode (h : Ordered s)
    (hd : dispatchRolloutNode inv s claim = (operation, task, s')) : Ordered s' := by
  obtain ⟨hr, hn, -, ⟨-, rfl⟩ | ⟨u, -, hc⟩⟩ := dispatchRolloutNode_spec hd
  · exact h
  obtain ⟨-, hkey, -, rfl | ⟨hreq, hk, rfl⟩⟩ := create_ok hc
  · exact h
  refine ⟨h.stopOnFailure, h.size, h.canary, h.earlier, h.canarySucceeded, h.later, h.leased,
    h.canarySkipped, fun v hv => ?_⟩
  rcases (mem_insert (h := hk)).1 hv with hv | rfl
  · exact h.keys v hv
  · rw [hkey, hreq]

/-! ## Every step -/

/-- The invariant between transactions. -/
structure Safe (S : System) : Prop extends Settled S where
  halted : Halted S.store

def Event.claims : Event → List Claim
  | .prepared claims => claims
  | _ => []

/-- The step claims the node or gets an upgrade operation for it. -/
def Event.Dispatches (k : Uuid) : Event → Prop
  | .prepared claims => ∃ c ∈ claims, c.node.nodeId = k
  | .dispatched claim operation => operation.isSome ∧ claim.node.nodeId = k
  | _ => False

/-- What a step from a safe state keeps and may claim. -/
structure StepSpec (S : System) (e : Event) (S' : System) : Prop where
  safe : Safe S'
  follows : Follows S.store S'.store
  rolloutId : S'.store.rollout.id = S.store.rollout.id
  /-- Claimed nodes are of the current batch. -/
  claimed : ∀ c ∈ e.claims, ∀ n ∈ S.store.nodes, n.nodeId = c.node.nodeId →
    n.batch = S.store.rollout.currentBatch
  /-- No stopped node is left when nodes are claimed. -/
  unstopped : e.claims ≠ [] → ∀ n ∈ S'.store.nodes, n.state.stopped = false
  /-- A node that has succeeded is not dispatched. -/
  fresh : ∀ k, Succeeded S.store k → ¬ e.Dispatches k
  /-- A paused rollout claims nothing and stays paused until it is resumed. -/
  paused : S.store.rollout.state = .paused → e ≠ .resumed →
    e.claims = [] ∧ S'.store.rollout.state = .paused
  /-- No operation is lost. -/
  upgrades : ∀ u ∈ S.store.upgrades, ∃ u' ∈ S'.store.upgrades,
    u'.idempotencyKey = u.idempotencyKey ∧ u'.operationId = u.operationId

/-- The upgrades of two stores, when the second only adds rows. -/
theorem upgrades_of_eq (h : s'.upgrades = s.upgrades) :
    ∀ u ∈ s.upgrades, ∃ u' ∈ s'.upgrades,
      u'.idempotencyKey = u.idempotencyKey ∧ u'.operationId = u.operationId :=
  fun u hu => ⟨u, h ▸ hu, rfl, rfl⟩

/-- A row of a node that has succeeded is not pending. -/
theorem Succeeded.ne_pending (h : Succeeded s k) (hn : n ∈ s.nodes) (hid : n.nodeId = k) :
    n.state ≠ .pending := by
  obtain ⟨m, hm, hmid, hs⟩ := h
  rw [eq_of_key hn hm (hid.trans hmid.symm), hs]
  exact nofun

theorem Safe.prepare (h : Safe S)
    (hstate : S.store.rollout.state = .queued ∨ S.store.rollout.state = .running)
    (h₁ : ReflTransGen Unlocked ⟨beginAdvance S.store, S.tasks⟩ S₁)
    (h₂ : ReflTransGen Unlocked S₁ S₂)
    (he : evaluateRolloutBatch inv time S₁.store.nodes.rows S₂.store =
      some (claims, advanced, s')) :
    StepSpec S (.prepared claims) ⟨s', S₂.tasks ++ claims.map .dispatch⟩ := by
  obtain ⟨ho₀, hf₀, hrun₀, hcur₀, hup₀, hid₀⟩ := beginAdvance_spec h.ordered hstate
  have hs₀ : Settled ⟨beginAdvance S.store, S.tasks⟩ :=
    ⟨ho₀, fun t ht => (h.reached t ht).follows hf₀⟩
  obtain ⟨hs₁, hf₁, hsnap₁, hup₁⟩ := Unlocked.many h₁ hs₀
  obtain ⟨hs₂, hf₂, hsnap₂, hup₂⟩ := Unlocked.many h₂ hs₁
  have hroll : S₂.store.rollout = (beginAdvance S.store).rollout :=
    hsnap₂.rollout.trans hsnap₁.rollout
  have hrun : S₂.store.rollout.state = .running := by rw [hroll, hrun₀]
  have hcur : S₂.store.rollout.currentBatch = S.store.rollout.currentBatch := by rw [hroll, hcur₀]
  have hf : Follows S.store S₂.store := (hf₀.trans hf₁).trans hf₂
  obtain ⟨ho', hf', hhalt, hup', hid', hunst, hcl⟩ :=
    Decision.spec hs₂.ordered hrun hsnap₂ (decision_of_evaluate hs₂.ordered.stopOnFailure he)
  -- a claimed node is of the current batch, in the rows before the pass as in those it wrote
  have hbatch : ∀ c ∈ claims, ∀ n ∈ S.store.nodes, n.nodeId = c.node.nodeId →
      n.batch = S.store.rollout.currentBatch := by
    intro c hc n hn hid
    obtain ⟨m, hm, hmid, -, hmb⟩ := hcl c hc
    obtain ⟨n₀, hn₀, hid₀, hb₀⟩ := hf.origin m hm
    rw [eq_of_key hn hn₀ (hid.trans (hid₀.trans hmid).symm), hb₀, hmb, hcur]
  refine ⟨⟨⟨ho', fun t ht => ?_⟩, hhalt⟩, hf.trans hf', ?_, hbatch, hunst, fun k hk => ?_,
    fun hp => ?_, upgrades_of_eq (by rw [hup', hup₂, hup₁, hup₀])⟩
  · rcases mem_append.1 ht with ht | ht
    · exact (hs₂.reached t ht).follows hf'
    · obtain ⟨c, hc, rfl⟩ := mem_map.1 ht
      refine Reached.follows (fun n hn hid => ?_) (hf.trans hf')
      exact (hbatch c hc n hn hid).le
  · exact hid'.trans ((congrArg Row.id hroll).trans hid₀)
  · rintro ⟨c, hc, hid⟩
    obtain ⟨m, hm, hmid, hpend, -⟩ := hcl c hc
    exact (hf.succeeded k hk).ne_pending hm (hmid.trans hid) hpend
  · rcases hstate with e | e <;> rw [e] at hp <;> cases hp

theorem Safe.dispatch (h : Safe S) (ht : .dispatch claim ∈ S.tasks)
    (hd : dispatchRolloutNode inv S.store claim = (operation, task, s')) :
    StepSpec S (.dispatched claim operation)
      ⟨s', S.tasks.erase (.dispatch claim) ++ task.toList⟩ := by
  obtain ⟨hr, hn, hnode, hop⟩ := dispatchRolloutNode_spec hd
  have hf : Follows S.store s' := .of_nodes_eq hn (by rw [hr])
  refine ⟨⟨⟨h.ordered.dispatchRolloutNode hd, fun t hmem => ?_⟩, fun n hmem hs => ?_⟩, hf,
    by rw [hr], fun c hc => (by cases hc), fun hne => absurd rfl hne, fun k hk => ?_,
    fun hp _ => ⟨rfl, by rw [hr]; exact hp⟩, ?_⟩
  · rcases mem_append.1 hmem with hmem | hmem
    · exact (h.reached t (mem_of_mem_erase hmem)).follows hf
    · rw [hnode t (mem_toList.1 hmem)]
      exact (h.reached _ ht).follows hf
  · rw [hr]; exact h.halted n (hn ▸ hmem) hs
  · rintro ⟨hsome, hid⟩
    rcases hop with ⟨rfl, -⟩ | ⟨u, rfl, hc⟩
    · cases hsome
    · obtain ⟨⟨n, hmem, hnid, hs⟩, -⟩ := create_ok hc
      exact hk.ne_pending hmem (hnid.trans hid) hs
  · rcases hop with ⟨-, rfl⟩ | ⟨u, -, hc⟩
    · exact upgrades_of_eq rfl
    · obtain ⟨-, -, -, rfl | ⟨-, hk, rfl⟩⟩ := create_ok hc
      · exact upgrades_of_eq rfl
      · exact fun v hv => ⟨v, (mem_insert (h := hk)).2 (.inl hv), rfl, rfl⟩

/-- A step that claims and dispatches nothing. -/
theorem StepSpec.quiet (hsafe : Safe S') (hf : Follows S.store S'.store)
    (hid : S'.store.rollout.id = S.store.rollout.id) (hclaims : e.claims = [])
    (hdisp : ∀ k, ¬ e.Dispatches k)
    (hpaused : S.store.rollout.state = .paused → e ≠ .resumed → S'.store.rollout.state = .paused)
    (hup : ∀ u ∈ S.store.upgrades, ∃ u' ∈ S'.store.upgrades, u'.idempotencyKey = u.idempotencyKey ∧
      u'.operationId = u.operationId) :
    StepSpec S e S' where
  safe := hsafe
  follows := hf
  rolloutId := hid
  claimed c hc := by rw [hclaims] at hc; cases hc
  unstopped hne := absurd hclaims hne
  fresh k _ := hdisp k
  paused hp hne := ⟨hclaims, hpaused hp hne⟩
  upgrades := hup

theorem Safe.record (h : Safe S) (hu : Unlocked S S') : StepSpec S .recorded S' := by
  have hsnap := hu.snapshot
  refine .quiet ⟨hu.settled h.toSettled, fun n' hn' hs => ?_⟩ hu.follows (by rw [hsnap.rollout]) rfl
    (fun _ => id) (fun hp _ => by rw [hsnap.rollout]; exact hp) (upgrades_of_eq hu.upgrades)
  obtain ⟨n, hn, -, -, e | ⟨-, e⟩⟩ := hsnap.origin n' hn'
  · rw [hsnap.rollout]; exact h.halted n hn (e ▸ hs)
  · rw [e] at hs; cases hs

theorem Safe.skip (h : Safe S) (ht : .skip node reason ∈ S.tasks) :
    StepSpec S (.skipped node) ⟨recordRolloutNodeSkipped S.store node reason,
      S.tasks.erase (.skip node reason)⟩ := by
  have hreach : Reached S.store node := h.reached _ ht
  unfold recordRolloutNodeSkipped
  cases hget : S.store.nodes.get? node with
  | none =>
    exact .quiet ⟨⟨h.ordered, fun t hmem => h.reached t (mem_of_mem_erase hmem)⟩, h.halted⟩
      (.refl _) rfl rfl (fun _ => id) (fun hp _ => hp) (upgrades_of_eq rfl)
  | some row =>
    have hbatch : ∀ n ∈ S.store.nodes, n.nodeId = node → n.batch = row.batch := by
      intro n hn hid
      rw [eq_of_key hn (mem_of_get? hget)
        (hid.trans (key_of_get? hget).symm)]
    have hf : Follows S.store (S.store.skipRolloutNode node row.batch reason) :=
      .skipRolloutNode _ _ _
    have hup : (S.store.skipRolloutNode node row.batch reason).upgrades = S.store.upgrades := by
      unfold Store.skipRolloutNode; split <;> rfl
    have hcases := skipRolloutNode_cases (s := S.store) node row.batch reason
    refine .quiet ⟨⟨h.ordered.skipRolloutNode hreach hbatch reason,
      fun t hmem => (h.reached t (mem_of_mem_erase hmem)).follows hf⟩, fun n hn hs => ?_⟩ hf ?_
      rfl (fun _ => id) (fun hp _ => ?_) (upgrades_of_eq hup)
    · rcases hcases with e | e
      · dsimp only at hn ⊢
        rw [e] at hn ⊢
        exact h.halted n hn hs
      · dsimp only; rw [e]
    · rcases hcases with e | e <;> (dsimp only; rw [e])
    · rcases hcases with e | e
      · dsimp only; rw [e]; exact hp
      · dsimp only; rw [e]

theorem Safe.resume (h : Safe S) (hp : S.store.rollout.state = .paused) :
    StepSpec S .resumed ⟨S.store.resumeRollout S.store.rollout.currentBatch, S.tasks⟩ := by
  have hf : Follows S.store (S.store.resumeRollout S.store.rollout.currentBatch) := .resumeRollout _
  have heq : S.store.resumeRollout S.store.rollout.currentBatch =
      (S.store.requeueNodes S.store.rollout.currentBatch).setRolloutState .running "" := by
    rw [Store.resumeRollout, if_pos hp]
  refine .quiet ⟨⟨h.ordered.resumeRollout hp, fun t ht => (h.reached t ht).follows hf⟩,
    fun n hn hs => ?_⟩ hf ?_ rfl (fun _ => id) (fun _ hne => absurd rfl hne) ?_
  · dsimp only at hn
    rw [heq] at hn
    rw [(requeueNodes_states h.ordered hn).2] at hs
    cases hs
  · dsimp only; rw [heq]; rfl
  · exact upgrades_of_eq (by dsimp only; rw [heq]; rfl)

theorem Safe.outcome (h : Safe S) (hu : u ∈ S.store.upgrades) :
    StepSpec S (.outcome u.idempotencyKey)
      ⟨{ S.store with upgrades := S.store.upgrades.set { u with state, completed } }, S.tasks⟩ := by
  have hf : Follows S.store
      { S.store with upgrades := S.store.upgrades.set { u with state, completed } } :=
    .of_nodes_eq rfl le_rfl
  refine .quiet ⟨⟨⟨h.ordered.stopOnFailure, h.ordered.size, h.ordered.canary, h.ordered.earlier,
    h.ordered.canarySucceeded, h.ordered.later, h.ordered.leased, h.ordered.canarySkipped,
    fun v hv => ?_⟩, fun t ht => (h.reached t ht).follows hf⟩, h.halted⟩ hf rfl rfl (fun _ => id)
    (fun hp _ => hp) fun v hv => ?_
  · obtain ⟨w, hw, rfl⟩ := mem_set.1 hv
    split
    · exact h.ordered.keys u hu
    · exact h.ordered.keys w hw
  · refine ⟨_, mem_set.2 ⟨v, hv, rfl⟩, ?_⟩
    split
    next hk =>
      obtain rfl := eq_of_key hv hu hk
      exact ⟨rfl, rfl⟩
    next => exact ⟨rfl, rfl⟩

/-- Every step from a safe state. -/
theorem Step.spec (hs : Safe S) (h : Step S e S') : StepSpec S e S' := by
  cases h with
  | prepare _ hstate h₁ h₂ he => exact hs.prepare hstate h₁ h₂ he
  | dispatch ht hd => exact hs.dispatch ht hd
  | record hu => exact hs.record hu
  | skip ht => exact hs.skip ht
  | resume hp => exact hs.resume hp
  | outcome hu _ => exact hs.outcome hu
  | crash hsub =>
    exact .quiet ⟨⟨hs.ordered, fun t ht => hs.reached t (hsub ht)⟩, hs.halted⟩ (.refl _) rfl rfl
      (fun _ => id) (fun hp _ => hp) (upgrades_of_eq rfl)

/-! ## Every run -/

/-- The ordinals of one batch are consecutive, and no more than the batch size. -/
theorem countP_rolloutBatchForOrdinal (hsize : 1 ≤ size) (count b : Nat) :
    (List.range count).countP (fun i => rolloutBatchForOrdinal i size = b) ≤ size := by
  -- the first ordinal of the batch, and how many it may have
  obtain ⟨first, width, hwidth, hin⟩ : ∃ first width, width ≤ size ∧
      ∀ i, rolloutBatchForOrdinal i size = b → i ∈ range' first width := by
    cases b with
    | zero =>
      refine ⟨0, 1, hsize, fun i hi => ?_⟩
      unfold rolloutBatchForOrdinal at hi
      split at hi
      · simpa
      · simp at hi
    | succ b =>
      refine ⟨1 + b * size, size, le_rfl, fun i hi => ?_⟩
      unfold rolloutBatchForOrdinal at hi
      split at hi
      · omega
      next hne =>
        have hdiv : (i - 1) / size = b := by omega
        have hlow : b * size ≤ i - 1 := (Nat.le_div_iff_mul_le (by omega)).1 hdiv.ge
        have hhigh : i - 1 < b * size + size := by
          have := (Nat.div_lt_iff_lt_mul (by omega : 0 < size)).1 (Nat.lt_succ_of_le hdiv.le)
          rwa [Nat.succ_mul] at this
        rw [mem_range'_1]
        omega
  rw [countP_eq_length_filter]
  have hsub : (range count).filter (fun i => decide (rolloutBatchForOrdinal i size = b)) ⊆
      range' first width := by
    intro i hi
    exact hin i (of_decide_eq_true (mem_filter.1 hi).2)
  calc _ ≤ (range' first width).length :=
        (subperm_of_subset (List.Nodup.filter _ nodup_range) hsub).length_le
    _ ≤ size := by rw [length_range']; exact hwidth

theorem mem_insertedNodes (h : n ∈ insertedNodes size eligible) :
    n.state = .pending ∧ n.dispatchLease = none ∧
      ∃ m ∈ insertedNodes size eligible, m.batch = 0 := by
  cases eligible with
  | nil => cases h
  | cons k rest =>
    obtain ⟨i, -, rfl⟩ := mem_mapIdx.1 h
    exact ⟨rfl, rfl, insertedNode size 0 k, by simp [insertedNodes], rfl⟩

theorem countP_insertedNodes (hsize : 1 ≤ size) (eligible : List Uuid) (b : Nat) :
    (insertedNodes size eligible).countP (fun n => n.batch = b) ≤ size := by
  have hmap : (insertedNodes size eligible).map Node.batch =
      (range eligible.length).map (rolloutBatchForOrdinal · size) := by
    unfold insertedNodes
    rw [List.mapIdx_eq_zipIdx_map, List.map_map, List.range_eq_range', ← List.zipIdx_map_snd,
      List.map_map]
    rfl
  calc (insertedNodes size eligible).countP (fun n => n.batch = b)
      = ((insertedNodes size eligible).map Node.batch).countP (· = b) := by
        rw [countP_map]; rfl
    _ = (range eligible.length).countP (fun i => rolloutBatchForOrdinal i size = b) := by
        rw [hmap, countP_map]; rfl
    _ ≤ size := countP_rolloutBatchForOrdinal hsize _ b

/-- A created rollout is safe. -/
theorem Created.safe (h : Created S) : Safe S := by
  obtain ⟨eligible, hrows⟩ := h.nodes
  have hnew : ∀ n ∈ S.store.nodes, n.state = .pending ∧ n.dispatchLease = none ∧
      ∃ m ∈ S.store.nodes, m.batch = 0 := by
    intro n hn
    rw [KeyedTable.mem_def, hrows] at hn
    obtain ⟨hs, hl, m, hm, h0⟩ := mem_insertedNodes hn
    exact ⟨hs, hl, m, by rw [KeyedTable.mem_def, hrows]; exact hm, h0⟩
  have hordered : Ordered S.store := by
    refine ⟨h.stopOnFailure, fun b => ?_, fun n hn => (hnew n hn).2.2, fun n hn hlt => ?_,
      fun n hn _ hpos => ?_, fun n hn _ => ⟨(hnew n hn).1, (hnew n hn).2.1⟩,
      fun n hn _ => (hnew n hn).1, fun n hn _ hs => ?_, fun u hu => ?_⟩
    · rw [hrows]; exact countP_insertedNodes h.batchSize eligible b
    · rw [h.currentBatch] at hlt; omega
    · rw [h.currentBatch] at hpos; omega
    · rw [(hnew n hn).1] at hs; cases hs
    · rw [KeyedTable.mem_def, h.upgrades] at hu; cases hu
  refine ⟨⟨hordered, fun t ht => ?_⟩, fun n hn hs => ?_⟩
  · rw [h.tasks] at ht; cases ht
  · rw [(hnew n hn).1] at hs; cases hs

/-- Every reachable state is safe. -/
theorem safe_of_reachable (h : system.Reachable S) : Safe S :=
  h.invariant Safe (fun _ => Created.safe) fun _ _ _ _ hs hstep => (Step.spec hs hstep).safe

/-- A node is claimed or running. -/
def Node.engaged (n : Node) : Bool :=
  n.state = .running ∨ n.state = .pending ∧ n.dispatchLease.isSome

theorem engaged_le_batchSize (h : Safe S) :
    S.store.nodes.rows.countP Node.engaged ≤ S.store.rollout.batchSize := by
  refine (countP_mono_left fun n hn he => ?_).trans
    (h.ordered.size S.store.rollout.currentBatch)
  rcases of_decide_eq_true he with hr | ⟨hp, hl⟩
  · exact decide_eq_true
      (h.ordered.batch_eq_of_ne_pending hn (by simp [hr]) (by simp [hr]))
  refine decide_eq_true (h.ordered.batch_eq hn (by rw [hp]; rfl) ?_)
  by_contra hgt
  rw [(h.ordered.later n hn (by omega)).2] at hl
  cases hl

/-- A node that has succeeded keeps its success and is never dispatched again. -/
theorem succeeded_forever (hs : Safe S) (h : system.Steps S u S') (hk : Succeeded S.store k) :
    Succeeded S'.store k ∧ ∀ e ∈ u, ¬ e.Dispatches k := by
  induction h with
  | nil => exact ⟨hk, fun e he => by cases he⟩
  | cons ha _ ih =>
    have hstep := Step.spec hs ha
    obtain ⟨hk', hrest⟩ := ih hstep.safe (hstep.follows.succeeded k hk)
    refine ⟨hk', fun e he => ?_⟩
    rcases mem_cons.1 he with rfl | he
    · exact hstep.fresh k hk
    · exact hrest e he

/-- A paused rollout claims nothing until it is resumed. -/
theorem paused_claims_nothing (hs : Safe S) (h : system.Steps S u S')
    (hp : S.store.rollout.state = .paused) (hu : .resumed ∉ u) : ∀ e ∈ u, e.claims = [] := by
  induction h with
  | nil => exact fun e he => by cases he
  | @cons _ _ _ a _ ha _ ih =>
    have hstep := Step.spec hs ha
    have hne : a ≠ .resumed := fun e => hu (e ▸ mem_cons_self)
    obtain ⟨hc, hp'⟩ := hstep.paused hp hne
    intro e he
    rcases mem_cons.1 he with rfl | he
    · exact hc
    · exact ih hstep.safe hp' (fun hmem => hu (mem_cons_of_mem _ hmem)) e he

/-- Every operation that a dispatch got is in the table, under the key of the dispatch. -/
theorem dispatched_recorded (h : system.Run t S) :
    ∀ c u, .dispatched c (some u) ∈ t → ∃ v ∈ S.store.upgrades,
      v.idempotencyKey = dispatchKey S.store.rollout.id c.node.nodeId c.node.dispatchAttempt ∧
        v.operationId = u.operationId := by
  refine h.invariant (fun t S => ∀ c u, .dispatched c (some u) ∈ t → ∃ v ∈ S.store.upgrades,
    v.idempotencyKey = dispatchKey S.store.rollout.id c.node.nodeId c.node.dispatchAttempt ∧
      v.operationId = u.operationId) (fun _ _ _ _ hmem => by cases hmem) ?_
  intro t S a S' hr ih ha c u hmem
  have hstep := Step.spec (safe_of_reachable ⟨t, hr⟩) ha
  rcases mem_append.1 hmem with hmem | hmem
  · obtain ⟨v, hv, hkey, hid⟩ := ih c u hmem
    obtain ⟨v', hv', hkey', hid'⟩ := hstep.upgrades v hv
    exact ⟨v', hv', by rw [hkey', hkey, hstep.rolloutId], hid'.trans hid⟩
  obtain rfl := mem_singleton.1 hmem
  cases ha with
  | dispatch _ hd =>
    obtain ⟨hroll, -, -, ⟨he, -⟩ | ⟨w, hw, hc⟩⟩ := dispatchRolloutNode_spec hd
    · cases he
    · cases hw
      obtain ⟨-, hkey, hin, -⟩ := create_ok hc
      exact ⟨u, hin, by rw [hroll]; exact hkey, rfl⟩

/-- The earlier batches of a node are done, and the canary has succeeded. -/
def EarlierDone (s : Store) (batch : Nat) : Prop :=
  (∀ n ∈ s.nodes, n.batch < batch → n.state = .succeeded ∨ n.state = .skipped) ∧
    (0 < batch → (∃ n ∈ s.nodes, n.batch = 0) ∧ ∀ n ∈ s.nodes, n.batch = 0 → n.state = .succeeded)

/-- The safety of a staged rollout: a node is claimed only after its earlier batches; one that
succeeded is never dispatched again; the nodes claimed or running are no more than the batch size; a
stopped node of the current batch ends the claims until a resume, and a pass that finds one claims
nothing; and an attempt for a node has one operation. -/
theorem rollout_safety {t : List Event} {S : System} (h : system.Run t S) :
    (∀ e S', system.step S e S' → ∀ c ∈ e.claims, ∀ n ∈ S.store.nodes,
      n.nodeId = c.node.nodeId → EarlierDone S.store n.batch) ∧
    (∀ n ∈ S.store.nodes, n.state = .succeeded → ∀ u S', system.Steps S u S' →
      Succeeded S'.store n.nodeId ∧ ∀ e ∈ u, ¬ e.Dispatches n.nodeId) ∧
    S.store.nodes.rows.countP Node.engaged ≤ S.store.rollout.batchSize ∧
    (∀ n ∈ S.store.nodes, n.batch = S.store.rollout.currentBatch → n.state.stopped →
      ∀ u S', system.Steps S u S' → .resumed ∉ u → ∀ e ∈ u, e.claims = []) ∧
    (∀ e S', system.step S e S' → e.claims ≠ [] → ∀ n ∈ S'.store.nodes,
      n.state.stopped = false) ∧
    (∀ v ∈ S.store.upgrades, ∀ w ∈ S.store.upgrades, v.request.nodeId = w.request.nodeId →
      v.request.attempt = w.request.attempt → v = w) ∧
    ∀ c c' u u', .dispatched c (some u) ∈ t → .dispatched c' (some u') ∈ t →
      c.node.nodeId = c'.node.nodeId → c.node.dispatchAttempt = c'.node.dispatchAttempt →
      u.operationId = u'.operationId := by
  have hs : Safe S := safe_of_reachable ⟨t, h⟩
  refine ⟨fun e S' hstep c hc n hn hid => ?_, fun n hn hsucc u S' hsteps => ?_,
    engaged_le_batchSize hs, fun n hn _ hstop u S' hsteps hu => ?_, fun e S' hstep => ?_,
    fun v hv w hw hnode hattempt => ?_, fun c c' u u' hu hu' hnode hattempt => ?_⟩
  · have hb := (Step.spec hs hstep).claimed c hc n hn hid
    rw [hb]
    refine ⟨hs.ordered.earlier, fun hpos => ⟨hs.ordered.canary n hn, fun m hm h0 => ?_⟩⟩
    exact hs.ordered.canarySucceeded m hm h0 hpos
  · exact succeeded_forever hs hsteps ⟨n, hn, rfl, hsucc⟩
  · exact paused_claims_nothing hs hsteps (hs.halted n hn hstop) hu
  · exact (Step.spec hs hstep).unstopped
  · refine eq_of_key hv hw ?_
    rw [hs.ordered.keys v hv, hs.ordered.keys w hw, hnode, hattempt]
  · obtain ⟨v, hv, hkey, hid⟩ := dispatched_recorded h c u hu
    obtain ⟨v', hv', hkey', hid'⟩ := dispatched_recorded h c' u' hu'
    have heq : v = v' := eq_of_key hv hv' (by rw [hkey, hkey', hnode, hattempt])
    rw [← hid, heq, hid']

/-- A rollout of two nodes, one to a batch, as it is created. -/
def pairRollout : System where
  store :=
    { rollout := ⟨.fill 7, "2.0.0", .queued, "", 1, 0, true⟩
      nodes := ⟨insertedNodes 1 [.fill 1, .fill 2],
        by decide⟩
      upgrades := ∅ }
  tasks := []

/-- Surroundings in which every node may be upgraded. -/
def readyInventory : Inventory where
  now := 946684800 * 10 ^ 9
  catalog := some fun _ _ => some (.fill 3)
  node _ := some ⟨.active, 1⟩
  snapshot _ := some ⟨"amd64", "1.0.0", some 0⟩
  capability _ := some true
  otherUpgrade _ := false
  admission _ := none
  requestHash _ := .fill 0
  operationId := .fill 9

/-- A controller undisturbed: it runs its first task, or else the open upgrade succeeds, or else it
advances. -/
def advance (S : System) : Event × System :=
  match S.tasks, S.store.upgrades.rows.find? (!·.completed) with
  | .dispatch claim :: rest, _ =>
    let r := dispatchRolloutNode readyInventory S.store claim
    (.dispatched claim r.1, ⟨r.2.2, rest ++ r.2.1.toList⟩)
  | .attach node operation version :: rest, _ =>
    (.recorded, ⟨S.store.attachRolloutOperation node operation version, rest⟩)
  | _, some u =>
    (.outcome u.idempotencyKey, ⟨{ S.store with
      upgrades := S.store.upgrades.set { u with state := .succeeded, completed := true } },
      S.tasks⟩)
  | _, none =>
    match prepareRolloutAdvance readyInventory S.store with
    | some r => (.prepared r.1, ⟨r.2.2, S.tasks ++ r.1.map .dispatch⟩)
    | none => (.crashed, S)

theorem step_advance (hstate : S.store.rollout.state = .queued ∨ S.store.rollout.state = .running) :
    Step S (advance S).1 (advance S).2 := by
  obtain ⟨store, tasks⟩ := S
  unfold advance
  split
  next claim rest htasks =>
    obtain rfl : tasks = _ := htasks
    rcases hr : dispatchRolloutNode readyInventory store claim with ⟨operation, task, s'⟩
    simpa [hr] using Step.dispatch (S := ⟨store, .dispatch claim :: rest⟩) (mem_cons_self ..) hr
  next node operation version rest htasks =>
    obtain rfl : tasks = _ := htasks
    simpa using Step.record (.attach (S := ⟨store, .attach node operation version :: rest⟩)
      (mem_cons_self ..))
  next hfind _ _ =>
    exact .outcome (mem_of_find?_eq_some hfind) (by simpa using find?_some hfind)
  next =>
    split
    next hpass => exact .of_prepareRolloutAdvance hstate hpass
    next => exact .crash fun _ ht => ht

/-- The rollout of two nodes after a number of these steps. -/
def pairStage (k : Nat) : System := (fun S => (advance S).2)^[k] pairRollout

/-- The controller upgrades the canary, and its sixth step claims the second node. -/
theorem pairRollout_batches : ∃ t S e S', system.Run t S ∧ system.step S e S' ∧
    e.claims.map (·.node.batch) = [1] ∧ EarlierDone S.store 1 := by
  have hstate : ∀ k < 6, (pairStage k).store.rollout.state = .queued ∨
      (pairStage k).store.rollout.state = .running := by decide +kernel
  have hrun : ∀ k ≤ 5, ∃ t, system.Run t (pairStage k) := by
    intro k hk
    induction k with
    | zero => exact ⟨[], .start ⟨rfl, rfl, rfl, le_rfl, ⟨_, rfl⟩, rfl, rfl⟩⟩
    | succ k ih =>
      obtain ⟨t, ht⟩ := ih (by omega)
      rw [pairStage, Function.iterate_succ_apply']
      exact ⟨_, ht.snoc (step_advance (hstate k (by omega)))⟩
  obtain ⟨t, ht⟩ := hrun 5 le_rfl
  have hstep := step_advance (hstate 5 (by omega))
  have hbatch : (advance (pairStage 5)).1.claims.map (·.node.batch) = [1] := by decide +kernel
  have hmem : ∃ n ∈ (pairStage 5).store.nodes.rows, n.batch = 1 ∧
      ∃ c ∈ (advance (pairStage 5)).1.claims, n.nodeId = c.node.nodeId := by decide +kernel
  obtain ⟨n, hn, hb, c, hc, hid⟩ := hmem
  exact ⟨t, _, _, _, ht, hstep, hbatch, hb ▸ (rollout_safety ht).1 _ _ hstep c hc n hn hid⟩

end Rollout

end Ocservia
