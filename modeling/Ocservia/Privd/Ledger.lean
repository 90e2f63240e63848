import Ocservia.Lib.KeyedTable
import Ocservia.Lib.Trace
import Ocservia.Privd.Execute

/-!
# The ledger of authorized effects

`prepare_authorized`, `complete_authorized` and `replay_authorized` of the adapter's `EffectStore`:
the table `authorized_effects` that privd asks before it executes a command and in which it keeps
the response. Each call is one transaction, and the table is the only state that outlives a call, so
a crash between transactions is a history that goes on with other calls. An event of a history
(`LedgerEvent`) records the reply that the transaction computed, whether or not its caller survives
to see it; a call may also fail without an effect. The table is written by the store alone, so the
authentication codes of its records are left out.

`call_rows` is the inversion of one call. From it follow the invariant of a command's history
(`LedgerInv`) and `ledger_at_most_once`. The callers in `execute_command` add that retry grants of
fixed host effects and legacy grants only replay (`reserveEffect_replayOnly`).
-/

namespace Ocservia

open Wire Checked List Option KeyedTable Except Privd

/-! ## Records -/

inductive AuthorizedState where
  | prepared | applied
deriving DecidableEq

/-- `AuthorizedEffectRecord`; its identity holds the stored expiry, and whether the mode is that of
a retry grant. -/
structure AuthorizedRecord where
  identity : AuthorizedEffectIdentity
  state : AuthorizedState
  response : Bytes
deriving DecidableEq

/-- The response that a record stores. -/
def AuthorizedRecord.stored (r : AuthorizedRecord) : Option Bytes :=
  match r.state with
  | .applied => some r.response
  | .prepared => none

/-- `authorized_effects`. -/
abbrev Ledger :=
  KeyedTable Uuid AuthorizedRecord (fun r : AuthorizedRecord => r.identity.commandId)

def maxEffectRecords : Nat := 65536

def maxFrameBytes : Nat := 384 * 1024

def validEffectLabel (value : String) (maximum : Nat) : Bool :=
  value.utf8ByteSize != 0 && value.utf8ByteSize ≤ maximum &&
    (utf8 value).all fun b => isAsciiAlphanumeric b || b == 46 || b == 95 || b == 45

def validEffectResource (value : String) : Bool :=
  value.utf8ByteSize != 0 && value.utf8ByteSize ≤ 512 &&
    (utf8 value).all fun b => 33 ≤ b && b ≤ 126 && b != 92

/-- The checks of `validate_authorized_effect`. -/
def validAuthorizedEffect (identity : AuthorizedEffectIdentity) (now : Int) : Bool :=
  ([identity.commandId, identity.idempotencyKey, identity.nodeId, identity.operationId].all
      fun value => uuidVersion value.1 == 7) &&
    identity.authorizationRevision != 0 && identity.effectRevision != 0 &&
    now < identity.expiresAtUnixSeconds.toInt && validEffectLabel identity.action 128 &&
    validEffectLabel identity.effectKind 128 && validEffectResource identity.resourceKey

def validateAuthorizedEffect (identity : AuthorizedEffectIdentity) (now : Int) :
    Except AdapterError Unit :=
  require (validAuthorizedEffect identity now) .invalidRequest

/-- The fields that `validate_same_authorized_effect` compares: all but the expiry and the mode. -/
def AuthorizedEffectIdentity.sameEffect (a b : AuthorizedEffectIdentity) : Bool :=
  a.commandId == b.commandId && a.idempotencyKey == b.idempotencyKey && a.nodeId == b.nodeId &&
    a.operationId == b.operationId && a.semanticPayloadSha256 == b.semanticPayloadSha256 &&
    a.action == b.action && a.authorizationRevision == b.authorizationRevision &&
    a.effectKind == b.effectKind && a.resourceKey == b.resourceKey &&
    a.effectRevision == b.effectRevision

/-- A record with the expiry and the mode of another identity of the same effect. -/
def AuthorizedRecord.renew (r : AuthorizedRecord) (identity : AuthorizedEffectIdentity)
    (state : AuthorizedState) (response : Bytes) : AuthorizedRecord where
  identity := { r.identity with
    expiresAtUnixSeconds := identity.expiresAtUnixSeconds, retryIfAbsent := identity.retryIfAbsent }
  state := state
  response := response

/-! ## Calls -/

/-- `AuthorizedEffectDecision`, with the stored bytes. -/
inductive LedgerDecision where
  | execute
  | replay (response : Bytes)
  | pending
deriving DecidableEq

section
variable (ledger : Ledger)

/-- The decision about a command that has a record. -/
def decideExisting (existing : AuthorizedRecord)
    (identity : AuthorizedEffectIdentity) : LedgerDecision × Ledger :=
  match existing.state with
  | .applied => (.replay existing.response, ledger)
  | .prepared =>
    if identity.retryIfAbsent && !existing.identity.retryIfAbsent then
      (.execute, ledger.set (existing.renew identity .prepared existing.response))
    else (.pending, ledger)

/-- `prune_expired_authorized_effects`. -/
def pruneExpired (now : Int) : Ledger :=
  ledger.filter fun r =>
    !(r.state == .applied && r.identity.expiresAtUnixSeconds.toInt ≤ now)

/-- The reservation of a command that has no record. -/
def reserve (now : Int) (identity : AuthorizedEffectIdentity)
    (h : ledger.get? identity.commandId = none) : Except AdapterError (LedgerDecision × Ledger) :=
  if ledger.rows.any fun r => r.identity.idempotencyKey == identity.idempotencyKey then
    .error .invalidRequest
  else if maxEffectRecords ≤ (pruneExpired ledger now).rows.length then .error .unavailable
  else if 2 ^ 63 ≤ identity.authorizationRevision.toNat ∨
    2 ^ 63 ≤ identity.effectRevision.toNat then
    .error .invalidRequest
  else
    .ok (.execute, (pruneExpired ledger now).insert ⟨identity, .prepared, []⟩
      (by rw [pruneExpired, KeyedTable.get?_filter, h]; rfl))

def prepareAuthorized (now : Int) (identity : AuthorizedEffectIdentity) :
    Except AdapterError (LedgerDecision × Ledger) := do
  validateAuthorizedEffect identity now
  match h : ledger.get? identity.commandId with
  | some existing => do
    require (existing.identity.sameEffect identity) .invalidRequest
    return decideExisting ledger existing identity
  | none => reserve ledger now identity h

/-- The update of a record by a response. -/
def storeResponse (existing : AuthorizedRecord)
    (identity : AuthorizedEffectIdentity) (response : Bytes) : Except AdapterError Ledger :=
  match existing.state with
  | .applied => if existing.response = response then .ok ledger else .error .invalidRequest
  | .prepared => .ok (ledger.set (existing.renew identity .applied response))

section
variable (identity : AuthorizedEffectIdentity)

/-- `complete_authorized`; an effect that completed just before its expiry is still recorded. -/
def completeAuthorized (response : Bytes) : Except AdapterError Ledger := do
  require (response.length != 0 && response.length ≤ maxFrameBytes) .outputLimit
  validateAuthorizedEffect identity 0
  let existing ← get (ledger.get? identity.commandId) .unavailable
  require (existing.identity.sameEffect identity) .invalidRequest
  storeResponse ledger existing identity response

/-- The response that `replay_authorized` finds. -/
def storedFor : Option AuthorizedRecord → Except AdapterError (Option Bytes)
  | none => .ok none
  | some record => do
    require (record.identity.sameEffect identity) .invalidRequest
    return record.stored

def replayAuthorized : Except AdapterError (Option Bytes) := do
  validateAuthorizedEffect identity 0
  storedFor identity (ledger.get? identity.commandId)

end

end

inductive LedgerCall where
  | prepare (identity : AuthorizedEffectIdentity)
  | complete (identity : AuthorizedEffectIdentity) (response : Bytes)
  | replay (identity : AuthorizedEffectIdentity)

def LedgerCall.identity : LedgerCall → AuthorizedEffectIdentity
  | .prepare identity | .complete identity _ | .replay identity => identity

inductive LedgerReply where
  | decision (d : LedgerDecision)
  | completed
  | replayed (response : Option Bytes)
deriving DecidableEq

/-- One call: its reply and the table that it commits. -/
def Ledger.call (ledger : Ledger) (now : Int) :
    LedgerCall → Except AdapterError (LedgerReply × Ledger)
  | .prepare identity =>
    (prepareAuthorized ledger now identity).map fun p => (.decision p.1, p.2)
  | .complete identity response =>
    (completeAuthorized ledger identity response).map fun l => (.completed, l)
  | .replay identity => (replayAuthorized ledger identity).map fun r => (.replayed r, ledger)

/-! ## Histories -/

/-- A call of a history, with the clock and the reply of its transaction. -/
structure LedgerEvent where
  now : Int
  call : LedgerCall
  reply : Except AdapterError LedgerReply

section
variable (id : Uuid)

/-- The event gives an execution of the command `id`, for a first delivery or a retry grant. -/
def LedgerEvent.executes (retry : Bool) (ev : LedgerEvent) : Bool :=
  match ev.call, ev.reply with
  | .prepare identity, .ok (.decision .execute) =>
    identity.commandId == id && identity.retryIfAbsent == retry
  | _, _ => false

/-- The response that the event stores for the command `id`. -/
def LedgerEvent.stores (ev : LedgerEvent) : Option Bytes :=
  match ev.call, ev.reply with
  | .complete identity response, .ok .completed =>
    if identity.commandId = id then some response else none
  | _, _ => none

/-- The event returns a stored response of the command `id`. -/
def LedgerEvent.returns (ev : LedgerEvent) : Option Bytes :=
  match ev.call, ev.reply with
  | .prepare identity, .ok (.decision (.replay response)) =>
    if identity.commandId = id then some response else none
  | .replay identity, .ok (.replayed response) => if identity.commandId = id then response else none
  | _, _ => none

/-- The first response that a history stores for the command `id`. -/
def firstStored (t : List LedgerEvent) : Option Bytes :=
  t.findSome? (LedgerEvent.stores id)

end

/-- The table and the last reading of the clock. -/
structure LedgerWorld where
  ledger : Ledger
  clock : Int

/-- The ledger's histories: the clock does not go back, and all envelopes of a command expire
together. -/
def ledgerSystem (expiry : Uuid → Int64) : LTS LedgerWorld LedgerEvent where
  init w := w.ledger = ∅
  step w ev w' :=
    w.clock ≤ ev.now ∧ ev.call.identity.expiresAtUnixSeconds = expiry ev.call.identity.commandId ∧
      w'.clock = ev.now ∧
      ((∃ reply, w.ledger.call ev.now ev.call = .ok (reply, w'.ledger) ∧ ev.reply = .ok reply) ∨
        ((∃ e, ev.reply = .error e) ∧ w'.ledger = w.ledger))

/-! ## One call -/

/-- What a call does to the record of its own command. -/
inductive OwnStep (ledger : Ledger) (now : Int) :
    LedgerCall → LedgerReply → Option AuthorizedRecord → Option AuthorizedRecord → Prop
  | insert {identity : AuthorizedEffectIdentity} (hnow : now < identity.expiresAtUnixSeconds.toInt)
      (hfree : ∀ r ∈ ledger, r.identity.idempotencyKey ≠ identity.idempotencyKey) :
      OwnStep ledger now (.prepare identity) (.decision .execute) none
        (some ⟨identity, .prepared, []⟩)
  | grant {identity : AuthorizedEffectIdentity} {r : AuthorizedRecord}
      (hsame : r.identity.sameEffect identity = true) (hstate : r.state = .prepared)
      (hretry : identity.retryIfAbsent = true) (hfirst : r.identity.retryIfAbsent = false) :
      OwnStep ledger now (.prepare identity) (.decision .execute) (some r)
        (some (r.renew identity .prepared r.response))
  | pending {identity : AuthorizedEffectIdentity} {r : AuthorizedRecord} :
      OwnStep ledger now (.prepare identity) (.decision .pending) (some r) (some r)
  | replay {identity : AuthorizedEffectIdentity} {r : AuthorizedRecord}
      (hstate : r.state = .applied) :
      OwnStep ledger now (.prepare identity) (.decision (.replay r.response)) (some r) (some r)
  | store {identity : AuthorizedEffectIdentity} {response : Bytes} {r : AuthorizedRecord}
      (hsame : r.identity.sameEffect identity = true) (hstate : r.state = .prepared) :
      OwnStep ledger now (.complete identity response) .completed (some r)
        (some (r.renew identity .applied response))
  | again {identity : AuthorizedEffectIdentity} {r : AuthorizedRecord}
      (hstate : r.state = .applied) :
      OwnStep ledger now (.complete identity r.response) .completed (some r) (some r)
  | read {identity : AuthorizedEffectIdentity} {found : Option AuthorizedRecord} :
      OwnStep ledger now (.replay identity) (.replayed (found.bind AuthorizedRecord.stored)) found
        found

/-- What a call does to the record of another command: nothing, unless it prunes it. -/
def OtherStep (now : Int) (before after : Option AuthorizedRecord) : Prop :=
  after = before ∨ (∃ r, before = some r ∧ r.identity.expiresAtUnixSeconds.toInt ≤ now) ∧
    after = none

section
variable {ledger ledger' : Ledger}

@[simp] theorem renew_commandId (r : AuthorizedRecord) (identity : AuthorizedEffectIdentity)
    (state : AuthorizedState) (response : Bytes) :
    (r.renew identity state response).identity.commandId = r.identity.commandId := rfl

/-- A renewed record replaces the record of its command and no other. -/
theorem get?_renew (hr : ledger.get? identity.commandId = some r) (state : AuthorizedState)
    (response : Bytes) (k : Uuid) :
    (ledger.set (r.renew identity state response)).get? k =
      if k = identity.commandId then some (r.renew identity state response)
      else ledger.get? k := by
  have hkey : r.identity.commandId = identity.commandId :=
    (get?_eq_some_iff.1 hr).2
  have hfound : ledger.get? (r.renew identity state response).identity.commandId = some r := by
    rw [renew_commandId, hkey]; exact hr
  rw [get?_set_of_mem hfound, renew_commandId, hkey]

theorem otherStep_prune (r : Option AuthorizedRecord) :
    OtherStep now r (r.filter fun r =>
      !(r.state == .applied && r.identity.expiresAtUnixSeconds.toInt ≤ now)) := by
  cases r with
  | none => exact .inl rfl
  | some r =>
    rw [filter_some]
    split
    · exact .inl rfl
    rename_i h
    simp only [Bool.not_eq_true', Bool.and_eq_false_iff, not_or, Bool.not_eq_false,
      decide_eq_true_eq] at h
    exact .inr ⟨⟨r, rfl, h.2⟩, rfl⟩

theorem expires_of_valid (h : validateAuthorizedEffect identity now = .ok ()) :
    now < identity.expiresAtUnixSeconds.toInt := by
  have h := require_eq_ok.1 h
  simp only [validAuthorizedEffect, Bool.and_eq_true, decide_eq_true_eq] at h
  exact h.1.1.1.2

theorem prepareAuthorized_rows (h : prepareAuthorized ledger now identity = .ok (d, ledger')) :
    OwnStep ledger now (.prepare identity) (.decision d) (ledger.get? identity.commandId)
        (ledger'.get? identity.commandId) ∧
      ∀ k, k ≠ identity.commandId → OtherStep now (ledger.get? k) (ledger'.get? k) := by
  obtain ⟨_, hvalid, h⟩ := bind_eq_ok.1 h
  split at h
  · rename_i r hr
    obtain ⟨hsame, h⟩ := require_bind.1 h
    have h := ok.inj h
    unfold decideExisting at h
    split at h
    · rename_i hstate
      cases h
      exact ⟨hr ▸ .replay hstate, fun _ _ => .inl rfl⟩
    rename_i hstate
    split at h
    · rename_i hgrant
      simp only [Bool.and_eq_true, Bool.not_eq_true'] at hgrant
      cases h
      refine ⟨?_, fun k hk => .inl ?_⟩
      · rw [get?_renew hr, if_pos rfl, hr]
        exact .grant hsame hstate hgrant.1 hgrant.2
      · rw [get?_renew hr, if_neg hk]
    · cases h
      exact ⟨hr ▸ .pending, fun _ _ => .inl rfl⟩
  · rename_i hnone
    unfold reserve at h
    split at h
    · cases h
    rename_i hfree
    split at h
    · cases h
    split at h
    · cases h
    cases h
    refine ⟨?_, fun k hk => ?_⟩
    · rw [get?_insert, if_pos rfl, hnone]
      refine .insert (expires_of_valid hvalid) fun r hr heq => hfree ?_
      exact any_eq_true.2 ⟨r, hr, beq_iff_eq.2 heq⟩
    · rw [get?_insert, if_neg hk, pruneExpired, get?_filter]
      exact otherStep_prune _

theorem completeAuthorized_rows (h : completeAuthorized ledger identity response = .ok ledger') :
    OwnStep ledger now (.complete identity response) .completed (ledger.get? identity.commandId)
        (ledger'.get? identity.commandId) ∧
      ∀ k, k ≠ identity.commandId → OtherStep now (ledger.get? k) (ledger'.get? k) := by
  iterate 2 obtain ⟨_, h⟩ := of_bind h
  obtain ⟨r, hr, h⟩ := bind_eq_ok.1 h
  obtain ⟨hsame, h⟩ := require_bind.1 h
  have hr := get_eq_ok.1 hr
  unfold storeResponse at h
  split at h
  · rename_i hstate
    split at h
    · rename_i hresponse
      cases h
      subst hresponse
      exact ⟨hr ▸ .again hstate, fun _ _ => .inl rfl⟩
    · cases h
  · rename_i hstate
    cases h
    refine ⟨?_, fun k hk => .inl ?_⟩
    · rw [get?_renew hr, if_pos rfl, hr]
      exact .store hsame hstate
    · rw [get?_renew hr, if_neg hk]

theorem replayAuthorized_eq (h : replayAuthorized ledger identity = .ok response) :
    response = (ledger.get? identity.commandId).bind AuthorizedRecord.stored := by
  obtain ⟨_, h⟩ := of_bind h
  cases hr : ledger.get? identity.commandId with
  | none => rw [hr] at h; exact (ok.inj h).symm
  | some r =>
    rw [hr] at h
    obtain ⟨_, h⟩ := of_bind h
    exact (ok.inj h).symm

/-- What a call does to the records that lookups find. -/
theorem call_rows (h : ledger.call now c = .ok (reply, ledger')) :
    OwnStep ledger now c reply (ledger.get? c.identity.commandId)
        (ledger'.get? c.identity.commandId) ∧
      ∀ k, k ≠ c.identity.commandId → OtherStep now (ledger.get? k) (ledger'.get? k) := by
  cases c with
  | prepare identity =>
    obtain ⟨⟨d, l⟩, hp, h⟩ := map_eq_ok_iff.1 h
    cases h
    exact prepareAuthorized_rows hp
  | complete identity response =>
    obtain ⟨l, hc, h⟩ := map_eq_ok_iff.1 h
    cases h
    exact completeAuthorized_rows hc
  | replay identity =>
    obtain ⟨response, hr, h⟩ := map_eq_ok_iff.1 h
    cases h
    rw [replayAuthorized_eq hr]
    exact ⟨.read, fun _ _ => .inl rfl⟩

end

/-! ## The history of a command -/

/-- The event does not execute the command `id`. -/
def Idle (id : Uuid) (ev : LedgerEvent) : Prop := ∀ retry, ev.executes id retry = false

/-- The event neither executes nor completes the command `id`. -/
def Quiet (id : Uuid) (ev : LedgerEvent) : Prop := Idle id ev ∧ ev.stores id = none

/-- Nothing was executed or stored for the command `id`. -/
def Untouched (t : List LedgerEvent) (id : Uuid) : Prop :=
  firstStored id t = none ∧ ∀ retry, t.countP (LedgerEvent.executes id retry) = 0

/-- What the record of a command says about its history. -/
structure Traced (expiry : Uuid → Int64) (t : List LedgerEvent) (id : Uuid)
    (r : AuthorizedRecord) : Prop where
  expires : r.identity.expiresAtUnixSeconds = expiry id
  /-- The record holds the first response, and none before that. -/
  stored : firstStored id t = r.stored
  /-- A grant is used up when the record shows it. -/
  grant : r.state = .prepared → r.identity.retryIfAbsent = false →
    t.countP (LedgerEvent.executes id true) = 0

/-- A command's record is gone only if it expired, and an expired command is not executed again. -/
structure LedgerInv (expiry : Uuid → Int64) (t : List LedgerEvent) (w : LedgerWorld)
    (id : Uuid) : Prop where
  present : ∀ r, w.ledger.get? id = some r → Traced expiry t id r
  absent : w.ledger.get? id = none → (expiry id).toInt ≤ w.clock ∨ Untouched t id
  once : ∀ retry, t.countP (LedgerEvent.executes id retry) ≤ 1

section
variable {t : List LedgerEvent} {id : Uuid}

theorem firstStored_snoc (id : Uuid) (t : List LedgerEvent) (ev : LedgerEvent) :
    firstStored id (t ++ [ev]) = (firstStored id t).or (ev.stores id) := by
  simp [firstStored, findSome?_append]

theorem countP_snoc (p : LedgerEvent → Bool) (t : List LedgerEvent) (ev : LedgerEvent) :
    (t ++ [ev]).countP p = t.countP p + if p ev then 1 else 0 := by
  simp [countP_append, countP_singleton]

theorem Quiet.firstStored (h : Quiet id ev) : firstStored id (t ++ [ev]) = firstStored id t := by
  rw [firstStored_snoc, h.2, or_none]

theorem Idle.countP (h : Idle id ev) (retry : Bool) :
    (t ++ [ev]).countP (LedgerEvent.executes id retry) =
      t.countP (LedgerEvent.executes id retry) := by
  rw [countP_snoc, h retry, if_neg Bool.false_ne_true, Nat.add_zero]

theorem quiet_of_error (h : ev.reply = .error e) : Quiet id ev := by
  obtain ⟨now, call, reply⟩ := ev
  obtain rfl : reply = .error e := h
  cases call <;> exact ⟨fun _ => rfl, rfl⟩

theorem quiet_of_ne (h : id ≠ ev.call.identity.commandId) : Quiet id ev := by
  obtain ⟨now, call, reply⟩ := ev
  refine ⟨fun retry => ?_, ?_⟩
  · unfold LedgerEvent.executes
    split
    · rename_i identity hc _
      simp only at hc
      subst hc
      rw [Bool.and_eq_false_iff, beq_eq_false_iff_ne]
      exact .inl (Ne.symm h)
    · rfl
  · unfold LedgerEvent.stores
    split
    · rename_i identity response hc _
      simp only at hc
      subst hc
      exact if_neg (Ne.symm h)
    · rfl

theorem Traced.quiet (h : Traced expiry t id r) (hq : Quiet id ev) :
    Traced expiry (t ++ [ev]) id r where
  expires := h.expires
  stored := hq.firstStored.trans h.stored
  grant hs hr := (hq.1.countP true).trans (h.grant hs hr)

theorem Untouched.quiet (h : Untouched t id) (hq : Quiet id ev) : Untouched (t ++ [ev]) id :=
  ⟨hq.firstStored.trans h.1, fun retry => (hq.1.countP retry).trans (h.2 retry)⟩

/-- An event that is quiet about a command and keeps its record keeps the invariant. -/
theorem LedgerInv.quiet (hI : LedgerInv expiry t w id) (hq : Quiet id ev)
    (hclock : w.clock ≤ w'.clock) (hrow : w'.ledger.get? id = w.ledger.get? id) :
    LedgerInv expiry (t ++ [ev]) w' id where
  present r hr := (hI.present r (hrow ▸ hr)).quiet hq
  absent hn := (hI.absent (hrow ▸ hn)).imp (fun h => h.trans hclock) (fun h => h.quiet hq)
  once retry := (hq.1.countP retry).trans_le (hI.once retry)

/-- A pruned command is expired. -/
theorem LedgerInv.prune (hI : LedgerInv expiry t w id) (hq : Quiet id ev)
    (hr : w.ledger.get? id = some r) (hexpired : r.identity.expiresAtUnixSeconds.toInt ≤ w'.clock)
    (hgone : w'.ledger.get? id = none) : LedgerInv expiry (t ++ [ev]) w' id where
  present r hr' := by cases hgone.symm.trans hr'
  absent _ := .inl ((hI.present r hr).expires ▸ hexpired)
  once retry := (hq.1.countP retry).trans_le (hI.once retry)

theorem executes_self (retry : Bool) :
    LedgerEvent.executes identity.commandId retry
      ⟨now, .prepare identity, .ok (.decision .execute)⟩ = (identity.retryIfAbsent == retry) := by
  simp [LedgerEvent.executes]

/-- A command without a record that is not expired is untouched. -/
theorem LedgerInv.untouched {identity : AuthorizedEffectIdentity}
    (hI : LedgerInv expiry t w identity.commandId)
    (hexpiry : identity.expiresAtUnixSeconds = expiry identity.commandId)
    (hnone : w.ledger.get? identity.commandId = none) (hclock : w.clock ≤ now)
    (hnow : now < identity.expiresAtUnixSeconds.toInt) : Untouched t identity.commandId := by
  refine (hI.absent hnone).resolve_left fun hexpired => ?_
  rw [hexpiry] at hnow
  omega

/-- A history that executes a command at most once, and whose record is traced. -/
theorem LedgerInv.of_traced (hrow : w.ledger.get? id = some r) (h : Traced expiry t id r)
    (honce : ∀ retry, t.countP (LedgerEvent.executes id retry) ≤ 1) : LedgerInv expiry t w id where
  present r' hr' := some.inj (hrow.symm.trans hr') ▸ h
  absent hn := by cases hrow.symm.trans hn
  once := honce

/-- The first execution of a command. -/
theorem LedgerInv.insert (hI : LedgerInv expiry t w identity.commandId)
    (hexpiry : identity.expiresAtUnixSeconds = expiry identity.commandId)
    (hnone : w.ledger.get? identity.commandId = none) (hclock : w.clock ≤ now)
    (hnow : now < identity.expiresAtUnixSeconds.toInt)
    (hrow : w'.ledger.get? identity.commandId = some ⟨identity, .prepared, []⟩) :
    LedgerInv expiry (t ++ [⟨now, .prepare identity, .ok (.decision .execute)⟩]) w'
      identity.commandId := by
  have huntouched := hI.untouched hexpiry hnone hclock hnow
  refine .of_traced hrow ⟨hexpiry, ?_, fun _ hfirst => ?_⟩ fun retry => ?_
  · rw [firstStored_snoc, huntouched.1]
    rfl
  · rw [countP_snoc, huntouched.2 true, executes_self]
    simp only at hfirst
    simp [hfirst]
  · rw [countP_snoc, huntouched.2 retry]
    split <;> omega

/-- The execution under a retry grant. -/
theorem LedgerInv.grant (hI : LedgerInv expiry t w identity.commandId)
    (hexpiry : identity.expiresAtUnixSeconds = expiry identity.commandId)
    (hr : w.ledger.get? identity.commandId = some r) (hstate : r.state = .prepared)
    (hretry : identity.retryIfAbsent = true)
    (hfirst : r.identity.retryIfAbsent = false)
    (hrow : w'.ledger.get? identity.commandId = some (r.renew identity .prepared r.response)) :
    LedgerInv expiry (t ++ [⟨now, .prepare identity, .ok (.decision .execute)⟩]) w'
      identity.commandId := by
  have htraced := hI.present r hr
  refine .of_traced hrow ⟨hexpiry, ?_, fun _ hfalse => ?_⟩ fun retry => ?_
  · rw [firstStored_snoc, htraced.stored, AuthorizedRecord.stored, hstate]
    rfl
  · rw [AuthorizedRecord.renew, hretry] at hfalse
    cases hfalse
  · rw [countP_snoc, executes_self, hretry]
    cases retry with
    | false => exact hI.once false
    | true => rw [htraced.grant hstate hfirst]; rfl

theorem idle_complete : Idle id ⟨now, .complete identity response, .ok .completed⟩ := fun _ => rfl

/-- The first response of a command. -/
theorem Traced.store (h : Traced expiry t identity.commandId r)
    (hexpiry : identity.expiresAtUnixSeconds = expiry identity.commandId)
    (hstate : r.state = .prepared) :
    Traced expiry (t ++ [⟨now, .complete identity response, .ok .completed⟩]) identity.commandId
      (r.renew identity .applied response) where
  expires := hexpiry
  stored := by
    rw [firstStored_snoc, h.stored, AuthorizedRecord.stored, hstate]
    exact if_pos rfl
  grant hprepared := by cases hprepared

/-- A repeated response changes nothing. -/
theorem Traced.again (h : Traced expiry t identity.commandId r) (hstate : r.state = .applied) :
    Traced expiry (t ++ [⟨now, .complete identity r.response, .ok .completed⟩])
      identity.commandId r where
  expires := h.expires
  stored := by
    rw [firstStored_snoc, h.stored, AuthorizedRecord.stored, hstate]
    rfl
  grant hprepared := by cases hstate.symm.trans hprepared

/-- A call on the command itself keeps the invariant. -/
theorem LedgerInv.own (hI : LedgerInv expiry t w call.identity.commandId)
    (hexpiry : call.identity.expiresAtUnixSeconds = expiry call.identity.commandId)
    (hnow : w.clock ≤ now) (hclock : w'.clock = now)
    (hrow : OwnStep w.ledger now call reply (w.ledger.get? call.identity.commandId)
      (w'.ledger.get? call.identity.commandId)) :
    LedgerInv expiry (t ++ [⟨now, call, .ok reply⟩]) w' call.identity.commandId := by
  have hmono : w.clock ≤ w'.clock := by omega
  generalize hbefore : w.ledger.get? call.identity.commandId = before at hrow
  generalize hafter : w'.ledger.get? call.identity.commandId = after at hrow
  cases hrow with
  | insert hunexpired _ => exact hI.insert hexpiry hbefore hnow hunexpired hafter
  | grant _ hstate hretry hfirst => exact hI.grant hexpiry hbefore hstate hretry hfirst hafter
  | pending | replay | read => exact hI.quiet ⟨fun _ => rfl, rfl⟩ hmono (hafter.trans hbefore.symm)
  | store _ hstate =>
    exact .of_traced hafter ((hI.present _ hbefore).store hexpiry hstate) fun retry =>
      (idle_complete.countP retry).trans_le (hI.once retry)
  | again hstate =>
    exact .of_traced hafter ((hI.present _ hbefore).again hstate) fun retry =>
      (idle_complete.countP retry).trans_le (hI.once retry)

theorem LedgerInv.step (hI : LedgerInv expiry t w id) (hs : (ledgerSystem expiry).step w ev w') :
    LedgerInv expiry (t ++ [ev]) w' id := by
  obtain ⟨hnow, hexpiry, hclock, ⟨reply, hcall, hreply⟩ | ⟨⟨e, herror⟩, hledger⟩⟩ := hs
  · obtain ⟨hown, hother⟩ := call_rows hcall
    obtain ⟨now, call, reply'⟩ := ev
    obtain rfl : reply' = .ok reply := hreply
    by_cases hid : id = call.identity.commandId
    · subst hid
      exact hI.own hexpiry hnow hclock hown
    have hq : Quiet id ⟨now, call, .ok reply⟩ := quiet_of_ne hid
    rcases hother id hid with hkept | ⟨⟨r, hr, hexpired⟩, hgone⟩
    · exact hI.quiet hq (hnow.trans_eq hclock.symm) hkept
    · exact hI.prune hq hr (hexpired.trans_eq hclock.symm) hgone
  · exact hI.quiet (quiet_of_error herror) (hnow.trans_eq hclock.symm) (by rw [hledger])

/-- The invariant holds of every command along every history. -/
theorem ledgerInv (h : (ledgerSystem expiry).Run t w) (id : Uuid) :
    LedgerInv expiry t w id := by
  refine h.invariant (fun t w => LedgerInv expiry t w id) (fun w hw => ?_)
    fun t w ev w' _ hI hs => hI.step hs
  have hempty : w.ledger.get? id = none := by
    rw [show w.ledger = ∅ from hw]
    rfl
  exact ⟨fun r hr => (by rw [hempty] at hr; cases hr), fun _ => .inr ⟨rfl, fun _ => rfl⟩,
    fun _ => Nat.zero_le _⟩

/-! ## Idempotency keys -/

/-- No two records have one idempotency key. -/
def KeysUnique (ledger : Ledger) : Prop :=
  ∀ k k' r r', ledger.get? k = some r → ledger.get? k' = some r' →
    r.identity.idempotencyKey = r'.identity.idempotencyKey → k = k'

/-- A record after a call is one from before with the same key, or the inserted one. -/
theorem record_before {ledger ledger' : Ledger} {call : LedgerCall} {reply : LedgerReply}
    (h : ledger.call now call = .ok (reply, ledger')) {k : Uuid}
    (hr : ledger'.get? k = some r) :
    (∃ r₀, ledger.get? k = some r₀ ∧ r₀.identity.idempotencyKey = r.identity.idempotencyKey) ∨
      (k = call.identity.commandId ∧
        ∀ r₀ ∈ ledger, r₀.identity.idempotencyKey ≠ r.identity.idempotencyKey) := by
  obtain ⟨hown, hother⟩ := call_rows h
  by_cases hk : k = call.identity.commandId
  · subst hk
    rw [hr] at hown
    generalize hbefore : ledger.get? call.identity.commandId = before at hown
    cases hown with
    | insert _ hfree => exact .inr ⟨rfl, hfree⟩
    | grant | pending | replay | store | again | read => exact .inl ⟨_, rfl, rfl⟩
  · rcases hother k hk with hkept | ⟨-, hgone⟩
    · exact .inl ⟨r, hkept ▸ hr, rfl⟩
    · cases hgone.symm.trans hr

theorem KeysUnique.step (hU : KeysUnique w.ledger) (hs : (ledgerSystem expiry).step w ev w') :
    KeysUnique w'.ledger := by
  obtain ⟨-, -, -, ⟨reply, hcall, -⟩ | ⟨-, hledger⟩⟩ := hs
  · intro k k' r r' hr hr' hkey
    rcases record_before hcall hr with ⟨r₀, hr₀, h₀⟩ | ⟨rfl, hfree⟩
    · rcases record_before hcall hr' with ⟨r₁, hr₁, h₁⟩ | ⟨rfl, hfree⟩
      · exact hU k k' r₀ r₁ hr₀ hr₁ ((h₀.trans hkey).trans h₁.symm)
      · exact absurd (h₀.trans hkey) (hfree r₀ (mem_of_get? hr₀))
    · rcases record_before hcall hr' with ⟨r₁, hr₁, h₁⟩ | ⟨rfl, -⟩
      · exact absurd (h₁.trans hkey.symm) (hfree r₁ (mem_of_get? hr₁))
      · rfl
  · rw [hledger]
    exact hU

theorem keysUnique (h : (ledgerSystem expiry).Run t w) : KeysUnique w.ledger := by
  refine h.state_invariant (fun w => KeysUnique w.ledger) (fun w hw => ?_)
    fun w ev w' _ hU hs => hU.step hs
  intro k k' r r' hr
  rw [show w.ledger = ∅ from hw] at hr
  cases hr

/-! ## At most once -/

/-- What the next call of a history may answer. -/
structure NextReply (t : List LedgerEvent) (ledger : Ledger) (ev : LedgerEvent) : Prop where
  /-- An execution is the first of its kind, before any stored response, and no other command holds
  the key. -/
  execute : ∀ retry, ev.executes ev.call.identity.commandId retry = true →
    firstStored ev.call.identity.commandId t = none ∧
      t.countP (LedgerEvent.executes ev.call.identity.commandId retry) = 0 ∧
      ∀ r ∈ ledger, r.identity.idempotencyKey = ev.call.identity.idempotencyKey →
        r.identity.commandId = ev.call.identity.commandId
  /-- A replay is the first stored response. -/
  replay : ∀ response, ev.returns ev.call.identity.commandId = some response →
    firstStored ev.call.identity.commandId t = some response

theorem sameEffect_idempotencyKey {a b : AuthorizedEffectIdentity} (h : a.sameEffect b = true) :
    a.idempotencyKey = b.idempotencyKey := by
  simp only [AuthorizedEffectIdentity.sameEffect, Bool.and_eq_true, beq_iff_eq, and_assoc] at h
  exact h.2.1

theorem nextReply (h : (ledgerSystem expiry).Run t w) (hs : (ledgerSystem expiry).step w ev w') :
    NextReply t w.ledger ev := by
  have hI := ledgerInv h ev.call.identity.commandId
  have honce := (hI.step hs).once
  obtain ⟨hnow, hexpiry, hclock, ⟨reply, hcall, hreply⟩ | ⟨⟨e, herror⟩, -⟩⟩ := hs
  · obtain ⟨hown, -⟩ := call_rows hcall
    obtain ⟨now, call, reply'⟩ := ev
    obtain rfl : reply' = .ok reply := hreply
    generalize hbefore : w.ledger.get? call.identity.commandId = before at hown
    generalize w'.ledger.get? call.identity.commandId = after at hown
    have hcount : ∀ retry, LedgerEvent.executes call.identity.commandId retry
        ⟨now, call, .ok reply⟩ = true →
        t.countP (LedgerEvent.executes call.identity.commandId retry) = 0 := by
      intro retry he
      have hle := honce retry
      rw [countP_snoc] at hle
      simp only [he, if_true] at hle
      omega
    cases hown with
    | @insert identity hunexpired hfree =>
      exact ⟨fun retry he => ⟨(hI.untouched hexpiry hbefore hnow hunexpired).1, hcount retry he,
        fun r hr hkey => absurd hkey (hfree r hr)⟩, fun _ hr => by cases hr⟩
    | @grant identity r hsame hstate _ _ =>
      refine ⟨fun retry he => ⟨?_, hcount retry he, fun r' hr' hkey => ?_⟩,
        fun _ hr => by cases hr⟩
      · rw [(hI.present r hbefore).stored, AuthorizedRecord.stored, hstate]
      · exact keysUnique h _ _ r' r (get?_of_mem hr') hbefore
          (hkey.trans (sameEffect_idempotencyKey hsame).symm)
    | pending | store | again => exact ⟨fun _ he => (by cases he), fun _ hr => (by cases hr)⟩
    | @replay identity r hstate =>
      refine ⟨fun _ he => (by cases he), fun response hr => ?_⟩
      rw [(hI.present r hbefore).stored, AuthorizedRecord.stored, hstate]
      exact (if_pos rfl).symm.trans hr
    | @read identity =>
      refine ⟨fun _ he => (by cases he), fun response hr => ?_⟩
      have hr : before.bind AuthorizedRecord.stored = some response := (if_pos rfl).symm.trans hr
      obtain ⟨r, rfl, hstored⟩ := bind_eq_some_iff.1 hr
      exact (hI.present r hbefore).stored.trans hstored
  · have hq : Quiet ev.call.identity.commandId ev := quiet_of_error herror
    refine ⟨fun retry he => ?_, fun response hr => ?_⟩
    · rw [hq.1 retry] at he
      cases he
    · obtain ⟨now, call, reply⟩ := ev
      obtain rfl : reply = .error e := herror
      cases call <;> cases hr

end

/-! ## The calls of `execute_command` -/

namespace Privd

/-- A stored response as privd decodes it. -/
def decodedDecision (decode : Bytes → Option PrivdResponse) :
    LedgerDecision → AuthorizedEffectDecision
  | .execute => .execute
  | .replay response => .replay (decode response)
  | .pending => .pending

/-- The adapter answers the calls of one execution from the table, at the time `now`. -/
structure AnswersFrom (adapter : Adapter) (decode : Bytes → Option PrivdResponse) (ledger : Ledger)
    (now : Int) : Prop where
  prepare : ∀ identity, adapter.prepareAuthorizedEffect identity =
    (prepareAuthorized ledger now identity).map fun p => decodedDecision decode p.1
  replay : ∀ identity, adapter.replayAuthorizedEffect identity =
    (replayAuthorized ledger identity).map fun r => r.map decode

/-- A grant that only replays: of the legacy protocol, or for an effect without a proof. -/
def replayOnly (command : CommandEnvelope) : Bool :=
  CommandDeliveryMode.tryFrom command.deliveryMode == some .retryIfEffectAbsent &&
    (fixedHostEffect command || command.protocolVersion == legacyCommandProtocolVersion)

/-- A replay-only grant never reaches the operation. -/
theorem reserveEffect_replayOnly (h : replayOnly command = true) :
    reserveEffect host command claims (some binding) ≠ none := by
  have hguard : ((authorizedEffect command claims binding).retryIfAbsent &&
      (fixedHostEffect command || command.protocolVersion == legacyCommandProtocolVersion)) =
        true := h
  unfold reserveEffect
  dsimp only
  rw [if_pos hguard]
  exact some_ne_none _

/-- A command other than an upgrade reaches its operation only by a decision to execute. -/
theorem execute_of_reserveEffect (hA : AnswersFrom host.adapter decode ledger now)
    (hupgrade : ∀ p, command.payload ≠ some (.agentUpgrade p))
    (h : reserveEffect host command claims (some binding) = none) :
    replayOnly command = false ∧
      ∃ ledger', prepareAuthorized ledger now (authorizedEffect command claims binding) =
        .ok (.execute, ledger') := by
  have hreplay : replayOnly command = false := by
    rw [← Bool.not_eq_true]
    exact fun hr => reserveEffect_replayOnly hr h
  refine ⟨hreplay, ?_⟩
  have hguard : ((authorizedEffect command claims binding).retryIfAbsent &&
      (fixedHostEffect command || command.protocolVersion == legacyCommandProtocolVersion)) =
        false := hreplay
  unfold reserveEffect at h
  dsimp only at h
  rw [hguard, if_neg Bool.false_ne_true, hA.prepare] at h
  cases hp : prepareAuthorized ledger now (authorizedEffect command claims binding) with
  | error e => rw [hp] at h; cases h
  | ok p =>
    obtain ⟨d, ledger'⟩ := p
    rw [hp] at h
    cases d with
    | execute => exact ⟨ledger', rfl⟩
    | replay response => cases h
    | pending =>
      -- only the payload of an upgrade goes on from here
      simp only [decodedDecision] at h
      cases h

end Privd

/-- An execution that is no retry is the first that its command ever had. -/
theorem untouched_of_execute (h : (ledgerSystem expiry).Run t w) (hclock : w.clock ≤ now)
    (hexpiry : identity.expiresAtUnixSeconds = expiry identity.commandId)
    (hretry : identity.retryIfAbsent = false)
    (hp : prepareAuthorized w.ledger now identity = .ok (.execute, ledger')) :
    Untouched t identity.commandId := by
  obtain ⟨hown, -⟩ := prepareAuthorized_rows hp
  generalize hbefore : w.ledger.get? identity.commandId = before at hown
  generalize ledger'.get? identity.commandId = after at hown
  cases hown with
  | insert hunexpired _ =>
    exact (ledgerInv h identity.commandId).untouched hexpiry hbefore hclock hunexpired
  | grant _ _ hgrant _ =>
    cases hretry.symm.trans hgrant

/-- **The ledger is at most once.** A command is executed at most once for a first delivery and at
most once for a retry grant; the next call executes a command only before any response was stored
for it, returns only the first stored response, and executes an idempotency key only for the command
that holds it. In `execute_command`, a fixed host effect reaches its operation only if its command
was never executed, and a legacy retry grant never does. -/
theorem ledger_at_most_once (h : (ledgerSystem expiry).Run t w) :
    (∀ id retry, t.countP (LedgerEvent.executes id retry) ≤ 1) ∧
    (∀ ev w', (ledgerSystem expiry).step w ev w' → NextReply t w.ledger ev) ∧
    (∀ host decode now command claims binding, Privd.AnswersFrom host.adapter decode w.ledger now →
      w.clock ≤ now → claims.expiresAtSeconds = expiry claims.commandId →
      Privd.fixedHostEffect command = true →
      Privd.reserveEffect host command claims (some binding) = none →
      Untouched t claims.commandId) ∧
    ∀ host command claims binding,
      CommandDeliveryMode.tryFrom command.deliveryMode = some .retryIfEffectAbsent →
      command.protocolVersion = legacyCommandProtocolVersion →
      Privd.reserveEffect host command claims (some binding) ≠ none := by
  refine ⟨fun id => (ledgerInv h id).once, fun ev w' => nextReply h, ?_, ?_⟩
  · intro host decode now command claims binding hA hclock hexpiry hfixed hnone
    have hupgrade : ∀ p, command.payload ≠ some (.agentUpgrade p) := by
      intro p hp
      rw [fixedHostEffect, hp] at hfixed
      cases hfixed
    obtain ⟨hreplay, ledger', hp⟩ := execute_of_reserveEffect hA hupgrade hnone
    refine untouched_of_execute h hclock hexpiry ?_ hp
    simp only [replayOnly, hfixed, Bool.true_or, Bool.and_true] at hreplay
    exact hreplay
  · intro host command claims binding hmode hlegacy
    exact reserveEffect_replayOnly (by simp [replayOnly, hmode, hlegacy])

/-! ### A retried command -/

/-- The identity of a command that disables a user, for a first delivery or a retry grant. -/
def sampleIdentity (retry : Bool) : AuthorizedEffectIdentity where
  nodeId := sampleUuid 3
  commandId := sampleUuid 1
  operationId := sampleUuid 4
  idempotencyKey := sampleUuid 2
  semanticPayloadSha256 := .fill 0
  action := "user.disable"
  authorizationRevision := 1
  effectKind := "user_disable"
  resourceKey := "alice"
  effectRevision := 1
  expiresAtUnixSeconds := 1000
  retryIfAbsent := retry

def sampleRecord (retry : Bool) : AuthorizedRecord := ⟨sampleIdentity retry, .prepared, []⟩

def sampleLedger (retry : Bool) : Ledger := ⟨[sampleRecord retry], List.nodup_singleton _⟩

/-- The command is executed, and once more after its outcome was lost. -/
def sampleHistory : List LedgerEvent :=
  [⟨500, .prepare (sampleIdentity false), .ok (.decision .execute)⟩,
    ⟨600, .prepare (sampleIdentity true), .ok (.decision .execute)⟩]

theorem sampleHistory_run :
    (ledgerSystem fun _ => 1000).Run sampleHistory ⟨sampleLedger true, 600⟩ := by
  have hfirst : (ledgerSystem fun _ => 1000).step ⟨∅, 0⟩
      ⟨500, .prepare (sampleIdentity false), .ok (.decision .execute)⟩ ⟨sampleLedger false, 500⟩ :=
    ⟨by decide, rfl, rfl, .inl ⟨_, by decide +kernel, rfl⟩⟩
  have hretry : (ledgerSystem fun _ => 1000).step ⟨sampleLedger false, 500⟩
      ⟨600, .prepare (sampleIdentity true), .ok (.decision .execute)⟩ ⟨sampleLedger true, 600⟩ :=
    ⟨by decide, rfl, rfl, .inl ⟨_, by decide +kernel, rfl⟩⟩
  exact .snoc (.snoc (.start rfl) hfirst) hretry

/-- Both executions happen, and no history has more. -/
theorem ledger_at_most_once_retried :
    sampleHistory.countP (LedgerEvent.executes (sampleUuid 1) false) = 1 ∧
      sampleHistory.countP (LedgerEvent.executes (sampleUuid 1) true) = 1 ∧
      ∀ id retry, sampleHistory.countP (LedgerEvent.executes id retry) ≤ 1 :=
  ⟨by decide +kernel, by decide +kernel, (ledger_at_most_once sampleHistory_run).1⟩

end Ocservia
