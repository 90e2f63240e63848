import Ocservia.Contract.Fence
import Ocservia.Controller.Admission

/-!
# Recovery envelopes

`operations/recovery.go`: when the outcome of a command is not known, the Controller signs a new
envelope for the same command, to observe it or, once its effect is known to be absent, to execute
it again. `prepareRecoveryEnvelope` works on the decoded envelope in place, so a call that fails
after its first write leaves the object changed; the model returns the object next to the result,
and a chain of calls (`RecoveryChain`) goes on from the object whether the call succeeded or not.

`prepareRecoveryEnvelope_spec` is the inversion of one call, `recovery_keeps_authority` what a chain
keeps.
-/

namespace Ocservia

open Wire

/-- A `time.Time`, in nanoseconds of the Unix epoch. -/
abbrev GoTime := Int

/-- The zero value of `time.Time`, the start of year 1. -/
def GoTime.zero : GoTime := -62135596800 * 10 ^ 9

def Timestamp.asTime (t : Timestamp) : GoTime := t.seconds.toInt * 10 ^ 9 + t.nanos.toInt

/-- `recoveryCommandTTL`, in nanoseconds. -/
def recoveryCommandTTLNanos : Int := 300 * 10 ^ 9

/-- `commandauth.Signer`: its key, the transcript of an envelope's claims, and its signatures. -/
structure CommandSigner where
  keyId : String
  transcript : CommandEnvelope → Option Bytes
  sign : Bytes → Bytes

/-- The errors of the recovery functions. -/
inductive RecoveryError where
  | invalidRequest | expiryInvalid | legacyExecution | retryExpired | messageId | unauthorized

/-- What a call is given besides the envelope: the signer, and what `uuid.NewV7` answers. -/
structure RecoveryEnv where
  signer : Option CommandSigner
  messageId : Option NewV7

namespace StoredEnvelope

section
variable (e : StoredEnvelope)

/-- The envelope before its claims are signed: `Authorize` replaces the proof first. -/
def unsigned (keyId : String) : StoredEnvelope :=
  { e with command := { e.command with
      authorization := some ⟨commandAuthorizationVersionV1, keyId, []⟩ } }

/-- The envelope with a signature of its claims. -/
def signed (keyId : String) (signature : Bytes) : StoredEnvelope :=
  { e with command := { e.command with
      authorization := some ⟨commandAuthorizationVersionV1, keyId, signature⟩ } }

/-- The upgrade of an original legacy dispatch to the current protocol. -/
def upgraded : StoredEnvelope :=
  if e.command.protocolVersion = legacyCommandProtocolVersion ∧
      e.command.deliveryMode = CommandDeliveryMode.executeOrReplay.toInt32 then
    { e with command := { e.command with protocolVersion := commandProtocolVersion } }
  else e

/-- The attempt metadata of a recovery envelope; the connection proofs are stripped. -/
def attempt (messageId : Bytes) (mode : CommandDeliveryMode) : StoredEnvelope where
  command := { e.command with messageId, deliveryMode := mode.toInt32 }
  connectionFence := none
  fenceBinding := none

end

end StoredEnvelope

/-- `Signer.Authorize`: the envelope afterwards, and whether it succeeded. -/
def CommandSigner.authorize (signer : CommandSigner) (e : StoredEnvelope) : StoredEnvelope × Bool :=
  match signer.transcript (e.unsigned signer.keyId).command with
  | some canonical => (e.signed signer.keyId (signer.sign canonical), true)
  | none => (e.unsigned signer.keyId, false)

/-- The observation deadline that is returned with a recovery envelope. -/
def observationDeadline (expiresAt observedAt : GoTime) (mode : CommandDeliveryMode)
    (extendReconcileTTL : Bool) : GoTime :=
  if extendReconcileTTL ∧ mode = .reconcileOnly ∧
    expiresAt < observedAt + recoveryCommandTTLNanos then
    observedAt + recoveryCommandTTLNanos
  else expiresAt

/-- `prepareRecoveryEnvelope`: the object afterwards, and the signed envelope with its deadline, or
an error. -/
def prepareRecoveryEnvelope (env : RecoveryEnv) (e : StoredEnvelope) (mode : CommandDeliveryMode)
    (observedAt : GoTime) (extendReconcileTTL : Bool) :
    StoredEnvelope × Except RecoveryError (StoredEnvelope × GoTime) :=
  match env.signer with
  | none => (e, .error .invalidRequest)
  | some signer =>
    if observedAt = GoTime.zero ∨ (mode ≠ .reconcileOnly ∧ mode ≠ .retryIfEffectAbsent) then
      (e, .error .invalidRequest)
    else
      match e.command.expiresAt with
      | none => (e, .error .expiryInvalid)
      | some expires =>
        if expires.isValid = false then (e, .error .expiryInvalid)
        else if mode = .retryIfEffectAbsent ∧
            e.upgraded.command.protocolVersion ≠ commandProtocolVersion then
          (e.upgraded, .error .legacyExecution)
        else if mode ≠ .reconcileOnly ∧
            observationDeadline expires.asTime observedAt mode extendReconcileTTL ≤ observedAt then
          (e.upgraded, .error .retryExpired)
        else
          match env.messageId with
          | none => (e.upgraded, .error .messageId)
          | some id =>
            match signer.authorize (e.upgraded.attempt id.id.1 mode) with
            | (produced, true) => (produced, .ok (produced,
                observationDeadline expires.asTime observedAt mode extendReconcileTTL))
            | (object, false) => (object, .error .unauthorized)

/-- The two exported forms of a recovery call. -/
inductive RecoveryCall where
  | prepare (mode : CommandDeliveryMode) (observedAt : GoTime)
  | continuation (observedAt : GoTime)

def RecoveryCall.observedAt : RecoveryCall → GoTime
  | .prepare _ observedAt | .continuation observedAt => observedAt

/-- The outcome of a call without the deadline. -/
def withoutDeadline (r : StoredEnvelope × Except RecoveryError (StoredEnvelope × GoTime)) :
    StoredEnvelope × Except RecoveryError StoredEnvelope := (r.1, r.2.map (·.1))

/-- `PrepareRecoveryEnvelope` and `prepareRecoveryContinuationEnvelope`; the second returns no
deadline. -/
def RecoveryCall.run (env : RecoveryEnv) (e : StoredEnvelope) :
    RecoveryCall → StoredEnvelope × Except RecoveryError StoredEnvelope
  | .prepare mode observedAt =>
    withoutDeadline (prepareRecoveryEnvelope env e mode observedAt true)
  | .continuation observedAt =>
    if e.command.deliveryMode = CommandDeliveryMode.reconcileOnly.toInt32 then
      withoutDeadline (prepareRecoveryEnvelope env e .reconcileOnly observedAt false)
    else (e, .error .invalidRequest)

/-- The envelope objects that chains of calls lead to from an original envelope. -/
inductive RecoveryChain (original : StoredEnvelope) : StoredEnvelope → Prop
  | original : RecoveryChain original original
  | call {e : StoredEnvelope} (env : RecoveryEnv) (c : RecoveryCall)
      (h : RecoveryChain original e) :
      RecoveryChain original (c.run env e).1

/-! ## One call -/

/-- Envelopes of one command agree but for protocol, message, delivery mode and proofs. -/
structure SameAuthority (a b : CommandEnvelope) : Prop where
  commandId : a.commandId = b.commandId
  operationId : a.operationId = b.operationId
  idempotencyKey : a.idempotencyKey = b.idempotencyKey
  nodeId : a.nodeId = b.nodeId
  payload : a.payload = b.payload
  hashVersion : a.semanticPayloadHashVersion = b.semanticPayloadHashVersion
  hash : a.semanticPayloadSha256 = b.semanticPayloadSha256
  issuedAt : a.issuedAt = b.issuedAt
  expiresAt : a.expiresAt = b.expiresAt

theorem SameAuthority.refl (a : CommandEnvelope) : SameAuthority a a :=
  ⟨rfl, rfl, rfl, rfl, rfl, rfl, rfl, rfl, rfl⟩

theorem SameAuthority.trans (hab : SameAuthority a b) (hbc : SameAuthority b c) :
    SameAuthority a c where
  commandId := hab.commandId.trans hbc.commandId
  operationId := hab.operationId.trans hbc.operationId
  idempotencyKey := hab.idempotencyKey.trans hbc.idempotencyKey
  nodeId := hab.nodeId.trans hbc.nodeId
  payload := hab.payload.trans hbc.payload
  hashVersion := hab.hashVersion.trans hbc.hashVersion
  hash := hab.hash.trans hbc.hash
  issuedAt := hab.issuedAt.trans hbc.issuedAt
  expiresAt := hab.expiresAt.trans hbc.expiresAt

theorem SameAuthority.symm (h : SameAuthority a b) : SameAuthority b a where
  commandId := h.commandId.symm
  operationId := h.operationId.symm
  idempotencyKey := h.idempotencyKey.symm
  nodeId := h.nodeId.symm
  payload := h.payload.symm
  hashVersion := h.hashVersion.symm
  hash := h.hash.symm
  issuedAt := h.issuedAt.symm
  expiresAt := h.expiresAt.symm

/-- An envelope that a call of mode `mode` writes into: the attempt of the upgraded envelope. -/
structure Attempted (e out : StoredEnvelope) (mode : CommandDeliveryMode) : Prop where
  same : SameAuthority out.command e.command
  protocol : out.command.protocolVersion = e.upgraded.command.protocolVersion
  mode : out.command.deliveryMode = mode.toInt32
  fence : out.connectionFence = none
  binding : out.fenceBinding = none

/-- The upgrade of a legacy dispatch changes its protocol only. -/
theorem upgraded_same (e : StoredEnvelope) : SameAuthority e.upgraded.command e.command := by
  unfold StoredEnvelope.upgraded
  split
  · exact ⟨rfl, rfl, rfl, rfl, rfl, rfl, rfl, rfl, rfl⟩
  · exact SameAuthority.refl _

/-- What `authorize` signs is an attempt of the mode. -/
theorem authorize_attempted (signer : CommandSigner) (e : StoredEnvelope) (id : Bytes)
    (mode : CommandDeliveryMode) :
    Attempted e (signer.authorize (e.upgraded.attempt id mode)).1 mode := by
  obtain ⟨h₁, h₂, h₃, h₄, h₅, h₆, h₇, h₈, h₉⟩ := upgraded_same e
  unfold CommandSigner.authorize
  split
  iterate 2 exact ⟨⟨h₁, h₂, h₃, h₄, h₅, h₆, h₇, h₈, h₉⟩, rfl, rfl, rfl, rfl⟩

/-- A call leaves the object, upgrades it, or writes an attempt into it; it produces an attempt, at
a time and under a protocol that its mode allows. -/
structure CallSpec (e object : StoredEnvelope) (produced : Option StoredEnvelope)
    (mode : CommandDeliveryMode) (observedAt : GoTime) : Prop where
  written : object = e ∨ object = e.upgraded ∨
    (Attempted e object mode ∧ (mode = .reconcileOnly ∨ mode = .retryIfEffectAbsent) ∧
      (mode = .retryIfEffectAbsent →
        e.upgraded.command.protocolVersion = commandProtocolVersion))
  produced : ∀ out, produced = some out → out = object ∧ Attempted e out mode ∧
    (mode = .reconcileOnly ∨ mode = .retryIfEffectAbsent) ∧
    (mode = .retryIfEffectAbsent → e.upgraded.command.protocolVersion = commandProtocolVersion ∧
      ∃ expires, e.command.expiresAt = some expires ∧ observedAt < expires.asTime)

/-- A call that fails at once leaves the object. -/
theorem CallSpec.refused (e : StoredEnvelope) (mode : CommandDeliveryMode) (observedAt : GoTime) :
    CallSpec e e none mode observedAt :=
  ⟨.inl rfl, fun _ h => by cases h⟩

/-- A call that fails after the upgrade leaves the upgraded object. -/
theorem CallSpec.upgrade (e : StoredEnvelope) (mode : CommandDeliveryMode) (observedAt : GoTime) :
    CallSpec e e.upgraded none mode observedAt :=
  ⟨.inr (.inl rfl), fun _ h => by cases h⟩

/-- Where a call may fail, and what it has written by then. -/
theorem prepareRecoveryEnvelope_spec (env : RecoveryEnv) (e : StoredEnvelope)
    (mode : CommandDeliveryMode) (observedAt : GoTime) (extend : Bool) :
    CallSpec e (withoutDeadline (prepareRecoveryEnvelope env e mode observedAt extend)).1
      (withoutDeadline (prepareRecoveryEnvelope env e mode observedAt extend)).2.toOption
      mode observedAt := by
  unfold prepareRecoveryEnvelope
  split
  · exact .refused e mode observedAt
  rename_i signer _
  split
  · exact .refused e mode observedAt
  rename_i hmode
  split
  · exact .refused e mode observedAt
  rename_i expires hexpires
  split
  · exact .refused e mode observedAt
  split
  · exact .upgrade e mode observedAt
  rename_i hprotocol
  split
  · exact .upgrade e mode observedAt
  rename_i hdeadline
  split
  · exact .upgrade e mode observedAt
  rename_i id _
  have hmodes : mode = .reconcileOnly ∨ mode = .retryIfEffectAbsent := by
    by_contra hneither
    simp only [not_or] at hneither
    exact hmode (.inr hneither)
  have hretry : mode = .retryIfEffectAbsent →
      e.upgraded.command.protocolVersion = commandProtocolVersion := by
    intro hm
    by_contra hversion
    exact hprotocol ⟨hm, hversion⟩
  have htime : mode = .retryIfEffectAbsent → observedAt < expires.asTime := by
    rintro rfl
    rw [observationDeadline, if_neg (by simp)] at hdeadline
    by_contra hlate
    exact hdeadline ⟨by decide, not_lt.1 hlate⟩
  have hattempt := authorize_attempted signer e id.id.1 mode
  split
  · rename_i produced hauthorize
    rw [hauthorize] at hattempt
    refine ⟨.inr (.inr ⟨hattempt, hmodes, hretry⟩), ?_⟩
    intro out hout
    cases hout
    exact ⟨rfl, hattempt, hmodes, fun hm => ⟨hretry hm, expires, hexpires, htime hm⟩⟩
  · rename_i object hauthorize
    rw [hauthorize] at hattempt
    exact ⟨.inr (.inr ⟨hattempt, hmodes, hretry⟩), fun _ h => by cases h⟩

/-- Every call has a mode and does what `CallSpec` says. -/
theorem RecoveryCall.run_spec (env : RecoveryEnv) (e : StoredEnvelope) (c : RecoveryCall) :
    ∃ mode, CallSpec e (c.run env e).1 (c.run env e).2.toOption mode c.observedAt := by
  cases c with
  | prepare mode observedAt => exact ⟨mode, prepareRecoveryEnvelope_spec env e mode observedAt true⟩
  | continuation observedAt =>
    refine ⟨.reconcileOnly, ?_⟩
    simp only [RecoveryCall.run]
    split
    · exact prepareRecoveryEnvelope_spec env e .reconcileOnly observedAt false
    · exact .refused e _ observedAt

/-! ## Chains of calls -/

/-- The wire number of the delivery mode of an original dispatch. -/
abbrev executeMode : Int32 := CommandDeliveryMode.executeOrReplay.toInt32

/-- Only an original legacy dispatch is upgraded. -/
theorem upgraded_eq_self {e : StoredEnvelope}
    (h : ¬ (e.command.protocolVersion = legacyCommandProtocolVersion ∧
      e.command.deliveryMode = executeMode)) : e.upgraded = e := if_neg h

/-- An upgraded envelope has the current protocol. -/
theorem upgraded_protocol {e : StoredEnvelope}
    (hprotocol : e.command.protocolVersion = legacyCommandProtocolVersion)
    (hmode : e.command.deliveryMode = executeMode) :
    e.upgraded.command.protocolVersion = commandProtocolVersion := by
  rw [StoredEnvelope.upgraded, if_pos ⟨hprotocol, hmode⟩]

/-- Only the original can be a legacy dispatch, and an object from a legacy recovery envelope stays
one. -/
structure ChainInv (original e : StoredEnvelope) : Prop where
  same : SameAuthority e.command original.command
  protocol : e.command.protocolVersion = original.command.protocolVersion ∨
    (original.command.protocolVersion = legacyCommandProtocolVersion ∧
      original.command.deliveryMode = executeMode ∧
      e.command.protocolVersion = commandProtocolVersion)
  dispatch : e.command.protocolVersion = legacyCommandProtocolVersion →
    e.command.deliveryMode = executeMode → e = original
  recovery : original.command.protocolVersion = legacyCommandProtocolVersion →
    original.command.deliveryMode ≠ executeMode →
    e.command.protocolVersion = legacyCommandProtocolVersion ∧
      e.command.deliveryMode ≠ executeMode

/-- The original is where a chain begins. -/
theorem ChainInv.original (original : StoredEnvelope) : ChainInv original original where
  same := SameAuthority.refl _
  protocol := .inl rfl
  dispatch _ _ := rfl
  recovery h₁ h₂ := ⟨h₁, h₂⟩

/-- The upgrade of an object changes the protocol of the original dispatch only. -/
theorem ChainInv.upgraded_protocol {original e : StoredEnvelope} (h : ChainInv original e) :
    e.upgraded.command.protocolVersion = original.command.protocolVersion ∨
      (original.command.protocolVersion = legacyCommandProtocolVersion ∧
        original.command.deliveryMode = executeMode ∧
        e.upgraded.command.protocolVersion = commandProtocolVersion) := by
  by_cases hlegacy : e.command.protocolVersion = legacyCommandProtocolVersion ∧
      e.command.deliveryMode = executeMode
  · obtain rfl := h.dispatch hlegacy.1 hlegacy.2
    exact .inr ⟨hlegacy.1, hlegacy.2, Ocservia.upgraded_protocol hlegacy.1 hlegacy.2⟩
  · rw [upgraded_eq_self hlegacy]
    exact h.protocol

/-- The upgrade keeps the invariant. -/
theorem ChainInv.upgraded {original e : StoredEnvelope} (h : ChainInv original e) :
    ChainInv original e.upgraded where
  same := (upgraded_same e).trans h.same
  protocol := h.upgraded_protocol
  dispatch hprotocol hmode := by
    by_cases hlegacy : e.command.protocolVersion = legacyCommandProtocolVersion ∧
        e.command.deliveryMode = executeMode
    · rw [Ocservia.upgraded_protocol hlegacy.1 hlegacy.2] at hprotocol
      exact absurd hprotocol (by decide)
    · rw [upgraded_eq_self hlegacy] at hprotocol hmode ⊢
      exact h.dispatch hprotocol hmode
  recovery h₁ h₂ := by
    obtain ⟨hprotocol, hmode⟩ := h.recovery h₁ h₂
    rw [upgraded_eq_self fun hlegacy => hmode hlegacy.2]
    exact ⟨hprotocol, hmode⟩

/-- An attempt keeps the invariant: it is no legacy dispatch. -/
theorem ChainInv.attempted {original e out : StoredEnvelope} {mode : CommandDeliveryMode}
    (h : ChainInv original e) (ha : Attempted e out mode)
    (hmode : mode = .reconcileOnly ∨ mode = .retryIfEffectAbsent) : ChainInv original out := by
  have hexecute : out.command.deliveryMode ≠ executeMode := by
    rw [ha.mode]
    rcases hmode with rfl | rfl <;> decide
  refine ⟨ha.same.trans h.same, ?_, fun _ hm => absurd hm hexecute, fun h₁ h₂ => ⟨?_, hexecute⟩⟩
  · rw [ha.protocol]
    exact h.upgraded_protocol
  · rw [ha.protocol]
    exact (h.upgraded.recovery h₁ h₂).1

/-- The invariant holds along every chain. -/
theorem RecoveryChain.inv {original e : StoredEnvelope} (h : RecoveryChain original e) :
    ChainInv original e := by
  induction h with
  | original => exact ChainInv.original original
  | @call e env c _ ih =>
    obtain ⟨mode, hspec⟩ := c.run_spec env e
    rcases hspec.written with hobject | hobject | ⟨ha, hmode, -⟩
    · rw [hobject]
      exact ih
    · rw [hobject]
      exact ih.upgraded
    · exact ih.attempted ha hmode

/-- Recovery never extends executable authority. Every envelope of a chain of recovery calls is the
original command with its identities, payload, semantic hash and times, without owner fence or
binding. The protocol changes from 1.1 to 1.2 only, directly from the original dispatch. An
executable envelope has protocol 1.2 and was produced before the original's expiry, and none comes
from a recovery envelope of protocol 1.1. -/
theorem recovery_keeps_authority {original e out : StoredEnvelope}
    (hchain : RecoveryChain original e)
    (env : RecoveryEnv) (c : RecoveryCall) (hrun : (c.run env e).2 = .ok out) :
    SameAuthority out.command original.command ∧
    out.connectionFence = none ∧ out.fenceBinding = none ∧
    (out.command.protocolVersion ≠ e.command.protocolVersion →
      e = original ∧ e.command.deliveryMode = executeMode ∧
        e.command.protocolVersion = legacyCommandProtocolVersion ∧
        out.command.protocolVersion = commandProtocolVersion) ∧
    (out.command.deliveryMode = CommandDeliveryMode.reconcileOnly.toInt32 ∨
      out.command.deliveryMode = CommandDeliveryMode.retryIfEffectAbsent.toInt32) ∧
    (out.command.deliveryMode = CommandDeliveryMode.retryIfEffectAbsent.toInt32 →
      out.command.protocolVersion = commandProtocolVersion ∧
        ∃ expires, original.command.expiresAt = some expires ∧ c.observedAt < expires.asTime) ∧
    (original.command.protocolVersion = legacyCommandProtocolVersion →
      original.command.deliveryMode ≠ executeMode →
      out.command.deliveryMode = CommandDeliveryMode.reconcileOnly.toInt32) := by
  have hinv := hchain.inv
  obtain ⟨mode, hspec⟩ := c.run_spec env e
  obtain ⟨-, ha, hmode, hretry⟩ := hspec.produced out (Except.toOption_eq_some_iff.2 hrun)
  refine ⟨ha.same.trans hinv.same, ha.fence, ha.binding, ?_, ?_, ?_, ?_⟩
  · intro hchanged
    have hlegacy : e.command.protocolVersion = legacyCommandProtocolVersion ∧
        e.command.deliveryMode = executeMode := by
      by_contra hnot
      rw [ha.protocol, upgraded_eq_self hnot] at hchanged
      exact hchanged rfl
    exact ⟨hinv.dispatch hlegacy.1 hlegacy.2, hlegacy.2, hlegacy.1,
      ha.protocol.trans (upgraded_protocol hlegacy.1 hlegacy.2)⟩
  · rw [ha.mode]
    exact hmode.imp (congrArg _) (congrArg _)
  · intro hm
    rw [ha.mode] at hm
    have hmode : mode = .retryIfEffectAbsent := by
      rcases hmode with rfl | rfl
      · exact absurd hm (by decide)
      · rfl
    obtain ⟨hprotocol, expires, hexpires, hbefore⟩ := hretry hmode
    exact ⟨ha.protocol.trans hprotocol, expires, hinv.same.expiresAt ▸ hexpires, hbefore⟩
  · intro hlegacy hrecovery
    rw [ha.mode]
    rcases hmode with rfl | rfl
    · rfl
    · obtain ⟨hprotocol, -⟩ := hretry rfl
      rw [(hinv.upgraded.recovery hlegacy hrecovery).1] at hprotocol
      exact absurd hprotocol (by decide)

/-- A signer, and a fresh message identifier. -/
def sampleRecoveryEnv : RecoveryEnv :=
  ⟨some ⟨"ed25519", fun _ => some [], fun _ => List.replicate 64 0⟩, some sampleMessageId⟩

/-- A dispatch of protocol 1.1 that expires at second 1000. -/
def sampleLegacyDispatch : StoredEnvelope :=
  ⟨{ sampleDisable .executeOrReplay 1 with protocolVersion := legacyCommandProtocolVersion },
    none, none⟩

/-- A legacy dispatch is observed at second 700 and, found absent, retried at second 800. -/
theorem recovery_keeps_authority_retry :
    ∃ out, ((RecoveryCall.prepare .retryIfEffectAbsent (800 * 10 ^ 9)).run sampleRecoveryEnv
        ((RecoveryCall.prepare .reconcileOnly (700 * 10 ^ 9)).run sampleRecoveryEnv
          sampleLegacyDispatch).1).2 = .ok out ∧
      SameAuthority out.command sampleLegacyDispatch.command ∧
      out.command.protocolVersion = commandProtocolVersion :=
  ⟨_, rfl, (recovery_keeps_authority
    (.call sampleRecoveryEnv (.prepare .reconcileOnly (700 * 10 ^ 9)) .original) sampleRecoveryEnv
    (.prepare .retryIfEffectAbsent (800 * 10 ^ 9)) rfl).1, rfl⟩

end Ocservia
