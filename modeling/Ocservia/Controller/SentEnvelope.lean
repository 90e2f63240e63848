import Ocservia.Controller.Ingestion
import Ocservia.Controller.Ownership

/-!
# The envelope of a sent dispatch

`MarkSentWithEnvelope` of `operations/dispatch.go` is given the bytes that transport accepted for a
claimed dispatch. `validateSentEnvelope` compares them with the claimed envelope, and one
transaction then stores them and closes the dispatch, or keeps the state that a result has left.

`decode` is `proto.Unmarshal`; it also returns what the message has beside the modelled fields,
which `proto.Equal` compares too. The rows are those of the command of the dispatch, and the lease
token stands for its outbox row and its attempt.
-/

namespace Ocservia

open Wire Checked

/-- `Dispatch`: a claimed command. -/
structure Dispatch where
  (commandId operationId nodeId : Uuid)
  leaseToken : Nat
  envelope : Bytes

namespace Dispatch

variable (d : Dispatch)

/-- The owner proofs of a sent command, which are both absent or belong together. -/
def proofsConsistent : Option ConnectionFenceV2 → Option FenceBindingV2 → Bool
  | none, none => true
  | some fence, some binding =>
    binding.operationKind == 1 && fence.fenceId.length == 16 &&
      fence.ownerInstanceId.length == 16 && fence.connectionId.length == 16 &&
      fence.fenceId == binding.fenceId && fence.nodeId == d.nodeId.1 &&
      binding.nodeId == d.nodeId.1 && binding.operationId == d.commandId.1 &&
      fence.ownerInstanceId == binding.ownerInstanceId &&
      fence.ownerIncarnation == binding.ownerIncarnation &&
      fence.ownerIncarnation.toNat < 2 ^ 63 && fence.ownerEpoch != 0 &&
      fence.ownerEpoch.toNat < 2 ^ 63 && fence.ownerEpoch == binding.ownerEpoch &&
      fence.connectionId == binding.connectionId &&
      fence.authorizationRevision == binding.authorizationRevision
  | _, _ => false

section
variable [DecidableEq ρ] (decode : Bytes → Option (StoredEnvelope × ρ)) (encoded : Bytes)

def validateSentEnvelope : Except String Unit := do
  require (!(encoded.isEmpty || 2 ^ 20 < encoded.length))
    "operations: sent command envelope size is invalid"
  let claimed ← get (decode d.envelope) "decode claimed command envelope"
  let sent ← get (decode encoded) "decode sent command envelope"
  require (sent.1.command.commandId == d.commandId.1 &&
      sent.1.command.operationId == d.operationId.1 && sent.1.command.nodeId == d.nodeId.1)
    "operations: sent command envelope identity is inconsistent"
  require (claimed.1.command == sent.1.command && claimed.2 == sent.2)
    "operations: sent command changed fields outside owner proofs"
  require (d.proofsConsistent sent.1.connectionFence sent.1.fenceBinding)
    "operations: sent command owner proofs are inconsistent"

def guardDispatchAuthority (owners : OwnerTable) (at_ checkedAt : DbTime) :
    Option ConnectionFenceV2 → Except String Unit
  | none => .ok ()
  | some fence => do
    let owner ← get (Ingestion.uuidV7 fence.ownerInstanceId)
      "operations: sent command owner instance is not UUIDv7"
    let connection ← get (Ingestion.uuidV7 fence.connectionId)
      "operations: sent command connection is not UUIDv7"
    (owners.assert ⟨⟨owner, fence.ownerIncarnation.toNat⟩, d.nodeId, connection,
      fence.ownerEpoch.toNat⟩ at_ checkedAt).mapError fun _ => "not owner"

end

end Dispatch

/-- The rows that the completion of a dispatch reads and writes. -/
structure DispatchRows where
  command : Command
  /-- `commands.envelope`. -/
  envelope : Bytes
  /-- `details_compacted_at IS NOT NULL`. -/
  compacted : Bool
  /-- The attempts that ended sent: the token of their lease, and when they started. -/
  sent : List (Nat × Time)

namespace DispatchRows

variable (r : DispatchRows) (encoded : Bytes)

/-- `CompletedDispatch`: whether a result came after the attempt, which has ended sent. -/
def completedDispatch (token : Nat) : Option Bool :=
  (r.sent.lookup token).map fun startedAt => r.command.resultAt.any (startedAt ≤ ·)

def preserveResultEnvelope : Except String DispatchRows :=
  match r.command.state with
  | .succeeded | .failed | .rejected | .rolledBack =>
    .ok (if r.compacted then r else { r with envelope := encoded })
  | .unknown => .ok r
  | _ => .error "agent result did not advance command"

/-- `RecordDispatched`, after the check of the state. -/
def recordDispatched (mode : CommandDeliveryMode) : Except String DispatchRows :=
  match r.command.state, mode with
  | .unknown, .reconcileOnly => .ok { r with envelope := encoded }
  | .queued, _ | .unknown, _ =>
    .ok { r with command := { r.command with state := .dispatched }, envelope := encoded }
  | _, _ => .error "dispatch command is no longer mutable"

/-- `PublishDispatch`, of a worker that holds the lock, and `CloseDispatch`. -/
def closeDispatch (token : Nat) (now : Time) : DispatchRows :=
  { r with
    command := (if r.command.locked now then r.command.publish else r.command).closeDispatch now
    sent := (token, (r.command.attempt.map (·.startedAt)).getD now) :: r.sent }

/-- The transaction of `finishDispatch` for a sent envelope. -/
def finishDispatch (token : Nat) (mode : CommandDeliveryMode) (now : Time) :
    Except String DispatchRows :=
  if !r.command.lease.any (·.token = token) then do
    let result ← get (r.completedDispatch token) "confirm result-completed dispatch"
    if result then r.preserveResultEnvelope encoded
    else do
      require (r.envelope == encoded) "dispatch lease is no longer valid"
      return r
  else do
    require (r.command.leaseValid token now && r.command.attemptIs .sending)
      "dispatch lease is no longer valid"
    require (r.command.locked now || r.command.resultAfterAttempt)
      "dispatch outbox lock is no longer valid"
    let r' ← if r.command.resultAfterAttempt then r.preserveResultEnvelope encoded
      else r.recordDispatched encoded mode
    return r'.closeDispatch token now

end DispatchRows

section
variable [DecidableEq ρ] (decode : Bytes → Option (StoredEnvelope × ρ)) (owners : OwnerTable)

def markSentWithEnvelope (r : DispatchRows) (d : Dispatch) (encoded : Bytes) (now : Time)
    (at_ checkedAt : DbTime) : Except String DispatchRows := do
  d.validateSentEnvelope decode encoded
  let sent ← get (decode encoded) "decode sent command delivery mode"
  d.guardDispatchAuthority owners at_ checkedAt sent.1.connectionFence
  r.finishDispatch encoded d.leaseToken sent.1.command.mode now

end

/-! ## What is recorded -/

/-- The sent envelope is the claimed one but for the owner proofs. -/
structure SameButProofs (d : Dispatch) (claimed sent : StoredEnvelope) : Prop where
  command : sent.command = claimed.command
  together : sent.connectionFence.isSome = sent.fenceBinding.isSome
  agree : ∀ fence binding, sent.connectionFence = some fence → sent.fenceBinding = some binding →
    fence.fenceId = binding.fenceId ∧ fence.ownerInstanceId = binding.ownerInstanceId ∧
      fence.ownerIncarnation = binding.ownerIncarnation ∧ fence.ownerEpoch = binding.ownerEpoch ∧
      fence.connectionId = binding.connectionId ∧
      fence.authorizationRevision = binding.authorizationRevision ∧
      fence.nodeId = d.nodeId.1 ∧ binding.nodeId = d.nodeId.1 ∧
      binding.operationId = d.commandId.1 ∧ binding.operationKind = 1

section
variable [DecidableEq ρ] {decode : Bytes → Option (StoredEnvelope × ρ)} {r r' : DispatchRows}

theorem SameButProofs.of_consistent (hcommand : claimed.command = sent.command)
    (h : d.proofsConsistent sent.connectionFence sent.fenceBinding = true) :
    SameButProofs d claimed sent := by
  refine ⟨hcommand.symm, ?_, ?_⟩
  · generalize sent.connectionFence = fence, sent.fenceBinding = binding at h
    cases fence <;> cases binding <;> first | rfl | cases h
  · intro fence binding hfence hbinding
    simp only [hfence, hbinding, Dispatch.proofsConsistent, Bool.and_eq_true, beq_iff_eq] at h
    tauto

theorem Dispatch.validateSentEnvelope_ok (h : d.validateSentEnvelope decode encoded = .ok u) :
    ∃ claimed sent rest, decode d.envelope = some (claimed, rest) ∧
      decode encoded = some (sent, rest) ∧ SameButProofs d claimed sent := by
  unfold validateSentEnvelope at h
  obtain ⟨-, h⟩ := require_bind.1 h
  obtain ⟨claimed, hclaimed, h⟩ := get_bind.1 h
  obtain ⟨sent, hsent, h⟩ := get_bind.1 h
  obtain ⟨-, h⟩ := require_bind.1 h
  obtain ⟨hsame, h⟩ := require_bind.1 h
  simp only [Bool.and_eq_true, beq_iff_eq] at hsame
  refine ⟨claimed.1, sent.1, sent.2, ?_, hsent, .of_consistent hsame.1 (require_eq_ok.1 h)⟩
  rw [hclaimed, ← hsame.2]

namespace DispatchRows

/-- The lease with the token is live and the latest attempt is being sent. -/
def Held (r : DispatchRows) (token : Nat) (now : Time) : Prop :=
  r.command.leaseValid token now = true ∧ r.command.attemptIs .sending = true

/-- The command becomes dispatched with the envelope under the lease and attempt of the dispatch, or
its state stays. -/
structure Recorded (r r' : DispatchRows) (encoded : Bytes) (token : Nat) (now : Time) : Prop where
  envelope : r'.envelope = r.envelope ∨ r'.envelope = encoded
  state : r'.command.state = r.command.state ∨
    r'.command.state = .dispatched ∧ r'.envelope = encoded ∧ r.Held token now ∧
      r.command.locked now = true ∧ r.command.resultAfterAttempt = false
  cause : r' = r ∨ r.completedDispatch token = some true ∨ r.Held token now

theorem preserveResultEnvelope_ok (h : r.preserveResultEnvelope encoded = .ok r') :
    r'.command = r.command ∧ (r'.envelope = r.envelope ∨ r'.envelope = encoded) := by
  unfold preserveResultEnvelope at h
  split at h
  iterate 4
    cases h
    split <;> exact ⟨rfl, by simp⟩
  · cases h
    exact ⟨rfl, .inl rfl⟩
  · cases h

theorem recordDispatched_ok (h : r.recordDispatched encoded mode = .ok r') :
    r'.envelope = encoded ∧
      (r'.command.state = r.command.state ∨ r'.command.state = .dispatched) := by
  unfold recordDispatched at h
  split at h
  · cases h
    exact ⟨rfl, .inl rfl⟩
  iterate 2
    cases h
    exact ⟨rfl, .inr rfl⟩
  · cases h

theorem closeDispatch_state : (closeDispatch r token now).command.state = r.command.state := by
  unfold closeDispatch
  dsimp only
  split <;> rfl

theorem finishDispatch_ok (h : r.finishDispatch encoded token mode now = .ok r') :
    r.Recorded r' encoded token now := by
  unfold finishDispatch at h
  split at h
  · obtain ⟨result, hresult, h⟩ := get_bind.1 h
    cases result with
    | false =>
      obtain ⟨-, h⟩ := require_bind.1 h
      cases h
      exact ⟨.inl rfl, .inl rfl, .inl rfl⟩
    | true =>
      obtain ⟨hcommand, henvelope⟩ := preserveResultEnvelope_ok h
      exact ⟨henvelope, .inl (by rw [hcommand]), .inr (.inl hresult)⟩
  obtain ⟨hheld, h⟩ := require_bind.1 h
  obtain ⟨hlocked, h⟩ := require_bind.1 h
  have hheld : r.Held token now := by simpa [Held] using hheld
  rw [Bool.or_eq_true] at hlocked
  dsimp only at h
  split at h
  · obtain ⟨r₁, h₁, h⟩ := bind_eq_ok.1 h
    cases h
    obtain ⟨hcommand, henvelope⟩ := preserveResultEnvelope_ok h₁
    exact ⟨henvelope, .inl (by rw [closeDispatch_state, hcommand]), .inr (.inr hheld)⟩
  rename_i hresult
  obtain ⟨r₁, h₁, h⟩ := bind_eq_ok.1 h
  cases h
  obtain ⟨henvelope, hstate⟩ := recordDispatched_ok h₁
  refine ⟨.inr henvelope, ?_, .inr (.inr hheld)⟩
  rw [closeDispatch_state]
  exact hstate.imp_right fun hstate => ⟨hstate, henvelope, hheld,
    hlocked.resolve_right hresult, eq_false_of_ne_true hresult⟩

/-- A completion with the mode of the command makes the step of its state machine. -/
theorem finishDispatch_markSent (hlease : r.command.lease.any (·.token = token) = true)
    (h : r.finishDispatch encoded token r.command.mode now = .ok r') :
    r.command.markSent token now = some r'.command := by
  simp only [finishDispatch, hlease] at h
  obtain ⟨hheld, h⟩ := require_bind.1 h
  obtain ⟨hlocked, h⟩ := require_bind.1 h
  simp only [Bool.and_eq_true, Bool.or_eq_true] at hheld hlocked
  simp only [Command.markSent, hheld.1, hheld.2]
  split at h
  · rename_i hresult
    obtain ⟨r₁, h₁, h⟩ := bind_eq_ok.1 h
    cases h
    simp [hresult, closeDispatch, (preserveResultEnvelope_ok h₁).1]
  rename_i hresult
  obtain ⟨r₁, h₁, h⟩ := bind_eq_ok.1 h
  cases h
  have hlocked : r.command.lockedUntil.any (now < ·) = true := hlocked.resolve_right hresult
  unfold recordDispatched at h₁
  split at h₁ <;> cases h₁ <;>
    simp_all [closeDispatch, Command.locked, Command.publish, Command.recordDispatched]

end DispatchRows

theorem sent_envelope_recorded
    (h : markSentWithEnvelope decode owners r d encoded now at_ checkedAt = .ok r') :
    ∃ claimed sent rest, decode d.envelope = some (claimed, rest) ∧
      decode encoded = some (sent, rest) ∧ SameButProofs d claimed sent ∧
      r.Recorded r' encoded d.leaseToken now := by
  obtain ⟨_, hvalid, h⟩ := bind_eq_ok.1 h
  obtain ⟨claimed, sent, rest, hclaimed, hsent, hsame⟩ := Dispatch.validateSentEnvelope_ok hvalid
  iterate 2 obtain ⟨_, h⟩ := of_bind h
  exact ⟨claimed, sent, rest, hclaimed, hsent, hsame, DispatchRows.finishDispatch_ok h⟩

/-- While the lease exists, a sent envelope that is recorded is a step of the state machine of the
command, in the mode of the claimed envelope. -/
theorem markSentWithEnvelope_refines (hlease : r.command.lease.any (·.token = d.leaseToken) = true)
    (hmode : ∀ claimed rest, decode d.envelope = some (claimed, rest) →
      claimed.command.mode = r.command.mode)
    (h : markSentWithEnvelope decode owners r d encoded now at_ checkedAt = .ok r') :
    r.command.markSent d.leaseToken now = some r'.command := by
  obtain ⟨_, hvalid, h⟩ := bind_eq_ok.1 h
  obtain ⟨claimed, sent, rest, hclaimed, hsent, hsame⟩ := Dispatch.validateSentEnvelope_ok hvalid
  obtain ⟨decoded, hdecoded, h⟩ := get_bind.1 h
  obtain ⟨_, h⟩ := of_bind h
  cases hdecoded.symm.trans hsent
  rw [hsame.command, hmode claimed rest hclaimed] at h
  exact DispatchRows.finishDispatch_markSent hlease h

end

def sampleDispatch : Dispatch := ⟨sampleUuid 1, sampleUuid 2, sampleUuid 3, 9, [1]⟩

/-- The claimed bytes have no owner proofs, all others have those of epoch 1. -/
def sampleDecode (encoded : Bytes) : Option (StoredEnvelope × Unit) :=
  let command := sampleDisable .executeOrReplay 1
  some (if encoded = [1] then ⟨command, none, none⟩
    else ⟨command, some (sampleFence 1 6), some (sampleBinding 1 6)⟩, ())

def sampleOwners : OwnerTable :=
  KeyedTable.insert ∅ ⟨⟨⟨sampleUuid 8, 1⟩, sampleUuid 3, sampleUuid 6, 1⟩, 30⟩ rfl

def sampleRows : DispatchRows where
  command := { Command.enqueued (.userDisable ⟨"alice", 1⟩) false 1000 0 with
    lease := some ⟨9, 100⟩, lockedUntil := some 100, attempt := some ⟨.sending, 0, 0⟩ }
  envelope := [1]
  compacted := false
  sent := []

def sampleMarked : Except String DispatchRows :=
  markSentWithEnvelope sampleDecode sampleOwners sampleRows sampleDispatch [2] 5 0 0

theorem sampleRows_recorded : ∃ r', sampleMarked = .ok r' ∧ r'.command.state = .dispatched ∧
    ∃ claimed sent rest, sampleDecode [1] = some (claimed, rest) ∧
      sampleDecode [2] = some (sent, rest) ∧ SameButProofs sampleDispatch claimed sent ∧
      sampleRows.Recorded r' [2] 9 5 := by
  have hmarked : sampleMarked = .ok _ := rfl
  exact ⟨_, hmarked, rfl, sent_envelope_recorded hmarked⟩

/-- The sample dispatch makes that step. -/
theorem sampleRows_markSent : ∃ r', sampleMarked = .ok r' ∧
    sampleRows.command.markSent 9 5 = some r'.command := by
  have hmarked : sampleMarked = .ok _ := rfl
  exact ⟨_, hmarked, markSentWithEnvelope_refines rfl (fun _ _ h => by cases h; rfl) hmarked⟩

end Ocservia
