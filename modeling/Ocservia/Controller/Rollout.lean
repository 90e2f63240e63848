import Ocservia.Controller.AuditEvidence

/-!
# Staged agent rollouts

A rollout upgrades the nodes of one approved request in batches: a canary of one node, then batches
of at most `batch_size` nodes. An advance pass (`prepareRolloutAdvance`) rolls up the outcomes of
finished upgrade operations, pauses at the first node that did not succeed, moves to the next batch
or claims the pending nodes of the current one. A claimed node is dispatched outside the lock of the
rollout row (`dispatchRolloutNode`): its upgrade operation is created under a key made of rollout,
node and attempt, and the node is then marked running, skipped or free again in a transaction of its
own.

What the controller does not decide (the clock, the inventory of nodes, the release catalog, the
admission checks that have nothing to do with rollouts) is an `Inventory`. The audit records of the
transitions are left out.
-/

namespace Ocservia

namespace Rollout

open Wire

/-! ## Rows -/

/-- `agent_rollouts.state`, as far as the coordinator writes it. -/
inductive State where
  | queued
  | running
  | paused
  | succeeded
  | failed
deriving DecidableEq

/-- `agent_rollout_nodes.state`. -/
inductive NodeState where
  | pending
  | running
  | succeeded
  | failed
  | rolledBack
  | unknown
  | skipped
deriving DecidableEq

namespace NodeState

def text : NodeState → String
  | pending => "pending"
  | running => "running"
  | succeeded => "succeeded"
  | failed => "failed"
  | rolledBack => "rolled_back"
  | unknown => "unknown"
  | skipped => "skipped"

/-- The states at which `evaluateRolloutBatch` stops the rollout. -/
def stopped : NodeState → Bool
  | failed | unknown | rolledBack => true
  | _ => false

/-- The states of a node whose batch is not complete. -/
def unfinished : NodeState → Bool
  | pending | running => true
  | _ => false

end NodeState

/-- A row of `agent_rollout_nodes`. The dispatch version 0 is the SQL null. -/
structure Node where
  nodeId : Uuid
  (ordinal batch : Nat)
  state : NodeState
  operationId : Option Uuid
  (fromVersion failureCode : String)
  dispatchVersion : Int
  dispatchAttempt : Nat
  dispatchLease : Option DbTime
deriving DecidableEq

/-- The row of `agent_rollouts`. -/
structure Row where
  id : Uuid
  targetVersion : String
  state : State
  pauseCode : String
  (batchSize currentBatch : Nat)
  stopOnFailure : Bool

/-- `agent_upgrade_operations.state`. -/
inductive UpgradeState where
  | queued
  | accepted
  | running
  | succeeded
  | failed
  | rolledBack
  | unknown
deriving DecidableEq

/-- The part of a `CreateRequest` that is not the same for every dispatch of the rollout. -/
structure UpgradeRequest where
  nodeId : Uuid
  attempt : Nat
  expectedVersion : Int
  packageSha256 : FixedBytes 32
  architecture : String

/-- An upgrade operation that a dispatch of the rollout created. -/
structure Upgrade where
  operationId : Uuid
  idempotencyKey : String
  request : UpgradeRequest
  state : UpgradeState
  completed : Bool

/-- The rows of one rollout, with the schema's keys: one row a node, one idempotency key a
workspace. -/
structure Store where
  rollout : Row
  nodes : KeyedTable Uuid Node Node.nodeId
  upgrades : KeyedTable String Upgrade Upgrade.idempotencyKey

/-- `rolloutBatchForOrdinal`: the canary alone, then `batchSize` ordinals to a batch. -/
def rolloutBatchForOrdinal (ordinal batchSize : Nat) : Nat :=
  if ordinal = 0 then 0 else 1 + (ordinal - 1) / batchSize

/-- The row that `InsertRolloutNode` writes, with the defaults of the schema. -/
def insertedNode (batchSize ordinal : Nat) (nodeId : Uuid) : Node where
  nodeId := nodeId
  ordinal := ordinal
  batch := rolloutBatchForOrdinal ordinal batchSize
  state := .pending
  operationId := none
  fromVersion := ""
  failureCode := ""
  dispatchVersion := 0
  dispatchAttempt := 0
  dispatchLease := none

/-- The rows that `CreateAgentRollout` inserts for the eligible nodes. -/
def insertedNodes (batchSize : Nat) (eligible : List Uuid) : List Node :=
  eligible.mapIdx (insertedNode batchSize)

/-! ## Statements -/

namespace Store

section
variable (s : Store)

/-- `UPDATE agent_rollout_nodes SET … WHERE …`. -/
def updateNodes (p : Node → Bool) (set : Node → Node)
    (hset : ∀ n, (set n).nodeId = n.nodeId) : Store :=
  { s with
    nodes := s.nodes.update (fun n => if p n then set n else n) fun n => by split <;> simp [hset] }

/-- Whether the statement with the condition `p` changes a row. -/
def matching (p : Node → Bool) : Bool := s.nodes.rows.any p

def setRolloutState (state : State) (code : String) : Store :=
  { s with rollout := { s.rollout with state := state, pauseCode := code } }

def setRolloutBatch (batch : Nat) : Store :=
  { s with rollout := { s.rollout with currentBatch := batch } }

section
variable (node : Uuid)

def setRolloutNodeOutcome (state : NodeState) (code : String) : Store :=
  s.updateNodes (fun n => n.nodeId = node ∧ n.state = .running)
    (fun n => { n with state := state, failureCode := code }) fun _ => rfl

/-- The condition of `ClaimRolloutNode`. -/
def claimable (time : DbTime) (n : Node) : Bool :=
  n.nodeId = node ∧ n.state = .pending ∧ n.dispatchLease.all (· ≤ time)

def claimRolloutNode (version : Int) (attempt : Nat) (lease time : DbTime) : Store :=
  s.updateNodes (claimable node time)
    (fun n => { n with dispatchVersion := version, dispatchAttempt := attempt,
                       dispatchLease := some lease }) fun _ => rfl

/-- The condition of `SkipRolloutNode` and `AttachRolloutOperation`. -/
def pendingNode (n : Node) : Bool := n.nodeId = node ∧ n.state = .pending

/-- The first statement of `SkipRolloutNode`. -/
def markSkipped (reason : String) : Store :=
  s.updateNodes (pendingNode node)
    (fun n => { n with state := .skipped, failureCode := reason, dispatchLease := none })
    fun _ => rfl

end

/-- The second statement of `SkipRolloutNode`. -/
def clearClaims (batch : Nat) : Store :=
  s.updateNodes (fun n => n.batch = batch ∧ n.state = .pending)
    (fun n => { n with dispatchLease := none }) fun _ => rfl

end

section
variable (s : Store)

/-- `SkipRolloutNode`: a skipped node takes its batch's claims with it and pauses the rollout. -/
def skipRolloutNode (node : Uuid) (batch : Nat) (reason : String) : Store :=
  if s.matching (pendingNode node) then
    ((s.markSkipped node reason).clearClaims batch).setRolloutState .paused "node_skipped"
  else s

def attachRolloutOperation (node operation : Uuid) (fromVersion : String) : Store :=
  s.updateNodes (pendingNode node)
    (fun n => { n with state := .running, operationId := some operation,
                       fromVersion := fromVersion, dispatchLease := none }) fun _ => rfl

/-- `ReleaseRolloutClaim`, which looks at no state. -/
def releaseRolloutClaim (node : Uuid) : Store :=
  s.updateNodes (fun n => n.nodeId = node) (fun n => { n with dispatchLease := none }) fun _ => rfl

/-- The condition of `ResumeRollout`: a stopped node of the batch, or a skipped canary. -/
def requeued (batch : Nat) (n : Node) : Bool :=
  n.batch = batch ∧ (n.state.stopped ∨ n.state = .skipped ∧ n.batch = 0)

/-- The first statement of `ResumeRollout`. -/
def requeueNodes (batch : Nat) : Store :=
  s.updateNodes (requeued batch)
    (fun n => { n with state := .pending, failureCode := "", dispatchVersion := 0,
                       dispatchAttempt := n.dispatchAttempt + 1, dispatchLease := none })
    fun _ => rfl

def resumeRollout (batch : Nat) : Store :=
  if s.rollout.state = .paused then (s.requeueNodes batch).setRolloutState .running ""
  else s.requeueNodes batch

/-- `HasActiveUpgrade`, for the operations of the rollout. -/
def hasActiveUpgrade (node : Uuid) : Bool :=
  s.upgrades.rows.any fun u => u.request.nodeId = node ∧ u.completed = false ∧
    u.state ∈ [UpgradeState.queued, .accepted, .running, .unknown]

/-- The upgrade row of an operation. -/
def upgrade? (operation : Uuid) : Option Upgrade :=
  s.upgrades.rows.find? fun u => u.operationId = operation

end

end Store

/-! ## The surroundings of a rollout -/

/-- `nodes.status`. -/
inductive NodeStatus where
  | pending
  | active
  | revoked
  | offline
deriving DecidableEq

/-- `RolloutObservation`. -/
structure Observation where
  status : NodeStatus
  (architecture agentVersion : String)
  lastHeartbeatAt : Option DbTime
  (capabilityOk upgradeActive : Bool)
deriving DecidableEq

/-- The errors of `Create` that a dispatch tells apart; `other` is any other. -/
inductive CreateError where
  | staleRevision
  | capabilityMissing
  | upgradeActive
  | nodeUnavailable
  | approvalNotReady
  | idempotencyConflict
  | rolloutState
  | backlogExceeded
  | other

/-- A row of `nodes`. -/
structure InventoryNode where
  status : NodeStatus
  version : Int

/-- A row of `node_observed_snapshots`. -/
structure ObservedSnapshot where
  (architecture agentVersion : String)
  lastHeartbeatAt : Option DbTime

/-- What a transaction finds outside the rows of the rollout. -/
structure Inventory where
  now : GoTime
  /-- The trusted release catalog, when one is installed: version and architecture to digest. -/
  catalog : Option (String → String → Option (FixedBytes 32))
  node : Uuid → Option InventoryNode
  snapshot : Uuid → Option ObservedSnapshot
  /-- The approval of the upgrade capability, when the node reported one. -/
  capability : Uuid → Option Bool
  /-- Whether an upgrade that the rollout did not create is active on the node. -/
  otherUpgrade : Uuid → Bool
  /-- The checks of `Create` apart from rollouts: attestation, capability, approval and backlog. -/
  admission : Uuid → Option CreateError
  requestHash : UpgradeRequest → FixedBytes 32
  /-- The identifier of the next operation. -/
  operationId : Uuid

def upgradeHeartbeatFresh (now : GoTime) (heartbeat : Option DbTime) : Bool :=
  match DbTime.fromTime (now - 90 * 10 ^ 9), heartbeat with
  | some cutoff, some h => (if now % 1000 ≠ 0 then cutoff + 1 else cutoff) ≤ h
  | _, _ => false

/-- `rolloutNodeEligibility`: the digest to install, or the reason against the node. -/
def rolloutNodeEligibility (inv : Inventory) (o : Observation) (target : String) :
    Except String (FixedBytes 32) :=
  if o.status ≠ .active ∧ o.status ≠ .offline then .error "not_trusted"
  else if o.status = .offline then .error "offline"
  else if upgradeHeartbeatFresh inv.now o.lastHeartbeatAt = false then .error "stale"
  else if o.architecture = "" then .error "missing_release_metadata"
  else
    match inv.catalog.bind fun lookup => lookup target o.architecture with
    | none => .error "missing_release_metadata"
    | some digest =>
      if o.capabilityOk = false then .error "missing_capability"
      else if o.upgradeActive then .error "upgrade_in_progress"
      else .ok digest

/-- `Store.RolloutObservation`: no row without the node. -/
def rolloutObservation (inv : Inventory) (s : Store) (node : Uuid) : Option Observation :=
  (inv.node node).map fun row =>
    { status := row.status
      architecture := ((inv.snapshot node).map (·.architecture)).getD ""
      agentVersion := ((inv.snapshot node).map (·.agentVersion)).getD ""
      lastHeartbeatAt := (inv.snapshot node).bind (·.lastHeartbeatAt)
      capabilityOk := (inv.capability node).getD false
      upgradeActive := inv.otherUpgrade node || s.hasActiveUpgrade node }

/-! ## The advance pass -/

/-- `claimedRolloutNode`. -/
structure Claim where
  node : Node
  observation : Observation
  digest : FixedBytes 32
deriving DecidableEq

/-- The outcome that a finished operation leaves to its node; closed without one it is unknown. -/
def UpgradeState.outcome : UpgradeState → NodeState
  | .succeeded => .succeeded
  | .failed => .failed
  | .rolledBack => .rolledBack
  | _ => .unknown

/-- The failure code that `rollUpTerminalRolloutNodes` stores with an outcome. -/
def outcomeCode : NodeState → String
  | .failed => "upgrade_failed"
  | .rolledBack => "upgrade_rolled_back"
  | .unknown => "outcome_unknown"
  | _ => ""

/-- `TerminalRolloutNodes`: the running nodes whose operation is completed, with its state. -/
def terminalRolloutNodes (s : Store) : List (Uuid × UpgradeState) :=
  s.nodes.rows.filterMap fun n =>
    if n.state = .running then
      ((n.operationId.bind s.upgrade?).filter (·.completed)).map fun u => (n.nodeId, u.state)
    else none

def rollUpTerminalRolloutNodes (s : Store) : Store :=
  (terminalRolloutNodes s).foldl
    (fun s t => s.setRolloutNodeOutcome t.1 t.2.outcome (outcomeCode t.2.outcome)) s

/-- What ends a preflight: an error of the store, or a node that may not be dispatched. -/
inductive PreflightStop where
  | failed
  | skip (node : Node) (reason : String)

/-- The preflight of `claimRolloutPendingNodes`: all pending nodes of the batch without a live lease
must be eligible. -/
def preflight (inv : Inventory) (time : DbTime) (s : Store) :
    List Node → Except PreflightStop (List (Node × Observation × FixedBytes 32))
  | [] => .ok []
  | node :: rest =>
    if node.state ≠ .pending ∨ node.dispatchLease.any (time < ·) then preflight inv time s rest
    else
      match rolloutObservation inv s node.nodeId with
      | none => .error .failed
      | some o =>
        match rolloutNodeEligibility inv o s.rollout.targetVersion with
        | .error reason => .error (.skip node reason)
        | .ok digest => (preflight inv time s rest).map ((node, o, digest) :: ·)

/-- `rolloutDispatchLease`, in nanoseconds. -/
def rolloutDispatchLease : Int := 30 * 10 ^ 9

/-- The version a claim pins: the one of an earlier claim, or that of the node now. -/
def claimVersion (inv : Inventory) (node : Node) : Option Int :=
  if 0 < node.dispatchVersion then some node.dispatchVersion
  else (inv.node node.nodeId).map (·.version)

/-- The claims of `claimRolloutPendingNodes`, one eligible node after the other. -/
def claimEligible (inv : Inventory) (time : DbTime) :
    List (Node × Observation × FixedBytes 32) → Store → Option (List Claim × Store)
  | [], s => some ([], s)
  | (node, o, digest) :: rest, s =>
    match claimVersion inv node, DbTime.fromTime (inv.now + rolloutDispatchLease) with
    | some version, some lease =>
      let attempt := max 1 node.dispatchAttempt
      if s.matching (Store.claimable node.nodeId time) then
        (claimEligible inv time rest
          (s.claimRolloutNode node.nodeId version attempt lease time)).map
          fun r => (⟨{ node with dispatchVersion := version, dispatchAttempt := attempt }, o,
            digest⟩ :: r.1, r.2)
      else claimEligible inv time rest s
    | _, _ => none

def claimRolloutPendingNodes (inv : Inventory) (time : DbTime) (current : List Node) (s : Store) :
    Option (List Claim × Store) :=
  match preflight inv time s current with
  | .error .failed => none
  | .error (.skip node reason) => some ([], s.skipRolloutNode node.nodeId node.batch reason)
  | .ok eligible => claimEligible inv time eligible s

/-- `evaluateRolloutBatch` on the rows `nodes` that it read: the claims, whether it made progress,
and the store. -/
def evaluateRolloutBatch (inv : Inventory) (time : DbTime) (nodes : List Node) (s : Store) :
    Option (List Claim × Bool × Store) :=
  match nodes.find? (·.state.stopped), s.rollout.stopOnFailure with
  | some blocked, true =>
    some ([], false, s.setRolloutState .paused ("node_" ++ blocked.state.text))
  | _, _ =>
    let current := nodes.filter (fun n => n.batch = s.rollout.currentBatch)
    if current = [] ∨ current.any (·.state.unfinished) then
      (claimRolloutPendingNodes inv time current s).map fun r => (r.1, !r.1.isEmpty, r.2)
    else if nodes.any (fun n => n.batch ≠ s.rollout.currentBatch ∧ n.state.unfinished) then
      some ([], true, s.setRolloutBatch (s.rollout.currentBatch + 1))
    else if nodes.any (fun n => n.state = .succeeded) then
      some ([], false, s.setRolloutState .succeeded "")
    else some ([], false, s.setRolloutState .failed "all_nodes_skipped")

/-- An advance pass begins: a queued rollout runs, finished operations are rolled up. -/
def beginAdvance (s : Store) : Store :=
  rollUpTerminalRolloutNodes
    (if s.rollout.state = .queued then s.setRolloutState .running s.rollout.pauseCode else s)

/-- `prepareRolloutAdvance`, nothing coming between its statements: the claims, the progress, and
the store. -/
def prepareRolloutAdvance (inv : Inventory) (s : Store) : Option (List Claim × Bool × Store) :=
  (DbTime.fromTime inv.now).bind fun time =>
    if s.rollout.state ≠ .queued ∧ s.rollout.state ≠ .running then some ([], false, s)
    else
      (evaluateRolloutBatch inv time (beginAdvance s).nodes.rows (beginAdvance s)).map fun r =>
        (r.1, s.rollout.state = .queued || r.2.1 || !r.1.isEmpty, r.2.2)

/-! ## Dispatch -/

def dispatchKey (rollout node : Uuid) (attempt : Nat) : String :=
  "agent-rollout:" ++ uuidText rollout ++ ":" ++ uuidText node ++ ":" ++ toString attempt

def Claim.request (c : Claim) : UpgradeRequest where
  nodeId := c.node.nodeId
  attempt := c.node.dispatchAttempt
  expectedVersion := c.node.dispatchVersion
  packageSha256 := c.digest
  architecture := c.observation.architecture

/-- The error of `Create` for a node that `rolloutNodeEligibility` refuses. -/
def refusal (reason : String) : CreateError :=
  if reason = "not_trusted" ∨ reason = "offline" then .nodeUnavailable
  else if reason = "missing_capability" then .capabilityMissing
  else if reason = "upgrade_in_progress" then .upgradeActive
  else .staleRevision

/-- The condition of `Create` on the row that `LockRolloutClaim` reads. -/
def liveClaim (s : Store) (node : Uuid) (time : DbTime) : Bool :=
  s.rollout.state = .running ∧
    (s.nodes.get? node).any fun n => n.state = .pending ∧ n.dispatchLease.any (time < ·)

/-- The checks of `Create` on the claim of a rollout, up to the idempotency lookup. -/
def recheckClaim (inv : Inventory) (time : DbTime) (s : Store) (r : UpgradeRequest) :
    Except CreateError Unit :=
  match inv.node r.nodeId with
  | none => .error .nodeUnavailable
  | some row =>
    if row.status ≠ .active ∧ row.status ≠ .offline then .error .nodeUnavailable
    else if liveClaim s r.nodeId time = false ∨ inv.catalog.isNone then .error .rolloutState
    else
      match inv.snapshot r.nodeId, inv.capability r.nodeId with
      | none, _ => .error .staleRevision
      | _, none => .error .capabilityMissing
      | some snapshot, some capability =>
        let o : Observation :=
          ⟨row.status, snapshot.architecture, snapshot.agentVersion, snapshot.lastHeartbeatAt,
            capability, inv.otherUpgrade r.nodeId || s.hasActiveUpgrade r.nodeId⟩
        match rolloutNodeEligibility inv o s.rollout.targetVersion with
        | .error reason => .error (refusal reason)
        | .ok digest =>
          if o.architecture ≠ r.architecture ∨ digest ≠ r.packageSha256 then .error .staleRevision
          else .ok ()

/-- The end of `Create` for a request whose key no operation has yet. -/
def insertUpgrade (inv : Inventory) (s : Store) (r : UpgradeRequest)
    (h : s.upgrades.get? (dispatchKey s.rollout.id r.nodeId r.attempt) = none) :
    Except CreateError (Upgrade × Store) :=
  if (inv.node r.nodeId).map (·.version) ≠ some r.expectedVersion then .error .staleRevision
  else
    match inv.admission r.nodeId with
    | some e => .error e
    | none =>
      if inv.otherUpgrade r.nodeId ∨ s.hasActiveUpgrade r.nodeId then .error .upgradeActive
      else
        let u : Upgrade :=
          ⟨inv.operationId, dispatchKey s.rollout.id r.nodeId r.attempt, r, .queued, false⟩
        .ok (u, { s with upgrades := s.upgrades.insert u h })

/-- `Create` for a dispatch: the operation, new or replayed, and the store. -/
def create (inv : Inventory) (s : Store) (r : UpgradeRequest) :
    Except CreateError (Upgrade × Store) :=
  if r.expectedVersion < 1 then .error .other
  else
    match DbTime.fromTime inv.now with
    | none => .error .other
    | some time =>
      match recheckClaim inv time s r with
      | .error e => .error e
      | .ok _ =>
        match h : s.upgrades.get? (dispatchKey s.rollout.id r.nodeId r.attempt) with
        | some existing =>
          if inv.requestHash existing.request = inv.requestHash r then .ok (existing, s)
          else .error .idempotencyConflict
        | none => insertUpgrade inv s r h

/-- What a dispatch leaves to do in a transaction of its own. -/
inductive Task where
  | dispatch (claim : Claim)
  | attach (node operation : Uuid) (fromVersion : String)
  | skip (node : Uuid) (reason : String)
  | release (node : Uuid)
deriving DecidableEq

def Task.nodeId : Task → Uuid
  | .dispatch claim => claim.node.nodeId
  | .attach node _ _ => node
  | .skip node _ => node
  | .release node => node

/-- What `dispatchRolloutNode` does about an error of `Create`. -/
def afterError (node : Uuid) : CreateError → Option Task
  | .staleRevision => some (.skip node "version_state_changed")
  | .capabilityMissing => some (.skip node "missing_capability")
  | .upgradeActive => some (.skip node "upgrade_in_progress")
  | .nodeUnavailable => some (.skip node "node_unavailable")
  | .approvalNotReady => some (.skip node "approval_unavailable")
  | .idempotencyConflict => some (.skip node "dispatch_conflict")
  | .rolloutState => none
  | .backlogExceeded => some (.release node)
  | .other => none

/-- `dispatchRolloutNode` to the end of `Create`: the operation, the task left, and the store. -/
def dispatchRolloutNode (inv : Inventory) (s : Store) (claim : Claim) :
    Option Upgrade × Option Task × Store :=
  if s.rollout.state ≠ .running then (none, none, s)
  else
    match create inv s claim.request with
    | .ok (u, s') =>
      (some u, some (.attach claim.node.nodeId u.operationId claim.observation.agentVersion), s')
    | .error e => (none, afterError claim.node.nodeId e, s)

def recordRolloutNodeSkipped (s : Store) (node : Uuid) (reason : String) : Store :=
  match s.nodes.get? node with
  | none => s
  | some row => s.skipRolloutNode node row.batch reason

end Rollout

end Ocservia
