import Ocservia.Controller.Recovery
import Ocservia.Controller.Values

/-!
# The audit chain

`audit/chain.go`: an event is stored with the hash of the previous event of its workspace, a hash of
its own content and of that link, and a code under the key of the process. `AppendChainTx` links to
the event that is last in the order of times and ids, and `Manager.verifyTx` replays the events in
that order.

The new event has the time that the clock of the database shows, which need not be last; then the
event comes before the one that it links to (`append_valid_iff`, `earlier_reading_breaks_chain`).
-/

namespace Ocservia

open Wire Option List

/-! ## Records -/

/-- `ChainRecord`. An empty summary stands for none. -/
structure ChainRecord where
  (eventId workspaceId : Uuid)
  (actorType actorId action resourceType : String)
  resourceId : Uuid
  (requestId traceId reason result errorType : String)
  (sessionId nodeId commandId approvalId : Option Uuid)
  (beforeSummary afterSummary : Bytes)
  occurredAt : DbTime

def uuidNil : Uuid := .fill 0

/-- A row of `audit_events`. -/
structure AuditRow where
  (id workspaceId : Uuid)
  occurredAt : DbTime
  (actorType actorId : String)
  sessionId : Option Uuid
  (action resourceType : String)
  (resourceId nodeId : Option Uuid)
  requestId : String
  traceId : Option String
  (commandId approvalId : Option Uuid)
  result : String
  reason : Option String
  (beforeSummary afterSummary : Option Bytes)
  errorType : Option String
  previousEventHash : Option (FixedBytes 32)
  eventHash : FixedBytes 32
  authVersion : Nat
  eventKeyId : Option String
  eventMac : Option (FixedBytes 32)
  compactedAt : Option DbTime
  compactionKeyId : Option String
  compactionMac : Option (FixedBytes 32)

/-- The order of times and ids, which are compared as bytes. -/
def AuditRow.Before (a b : AuditRow) : Prop :=
  a.occurredAt < b.occurredAt ∨ (a.occurredAt = b.occurredAt ∧ ofBe a.id.1 < ofBe b.id.1)

instance (a b : AuditRow) : Decidable (a.Before b) := inferInstanceAs (Decidable (_ ∨ _))

structure CheckpointRecord where
  eventId : Uuid
  (eventHash signature : FixedBytes 32)

/-- The tables of the chain: the events, and the checkpoints of a workspace, oldest first. -/
structure AuditStore where
  events : KeyedTable Uuid AuditRow AuditRow.id
  checkpoints : Uuid → List CheckpointRecord

/-- `Events`: the events of a workspace, in order. -/
def AuditStore.inOrder (store : AuditStore) (workspaceId : Uuid) : List AuditRow :=
  (store.events.rows.filter fun row => row.workspaceId = workspaceId).reverse.insertionSort
    fun a b => ¬ b.Before a

/-- `Previous`: the hash of the last event. -/
def AuditStore.previous (store : AuditStore) (workspaceId : Uuid) :
    Option (FixedBytes 32) :=
  (store.inOrder workspaceId).getLast?.map AuditRow.eventHash

/-- The hashes, the JSON package and the database. -/
structure AuditPlatform where
  sha256 : Bytes → FixedBytes 32
  hmac : Bytes → Bytes → FixedBytes 32
  /-- `json.Marshal` of the payload of a link and a record. -/
  marshalPayload : Option (FixedBytes 32) → ChainRecord → Option Bytes
  /-- `json.Marshal` of the compaction of a payload, a hash, a code and a time. -/
  marshalCompaction : Bytes → FixedBytes 32 → Option (FixedBytes 32) → DbTime → Bytes
  /-- `json.Unmarshal` to a value with numbers of 64-bit floating point, and `json.Marshal` of it.
  -/
  remarshal : Bytes → Option Bytes
  /-- The decoder that keeps the numbers. -/
  json : JsonText
  /-- The text that a `jsonb` column gives back for the text that it was given. -/
  stored : Bytes → Bytes
  /-- The foreign keys and the checks of the table on texts. -/
  admits : AuditRow → Bool

structure EventAuthenticator where
  keyId : String
  key : FixedBytes 32

/-- `Manager`, whose only event key is the current one. -/
structure AuditManager where
  checkpointKey : Bytes
  current : EventAuthenticator

/-- `newManager`, with the authenticator of the process. -/
def newManager (checkpointKey : Bytes) (auth : EventAuthenticator) : AuditManager :=
  ⟨checkpointKey, auth⟩

/-- `eventKeys`. -/
def AuditManager.eventKey (m : AuditManager) (keyId : String) : Option (FixedBytes 32) :=
  if keyId = m.current.keyId then some m.current.key else none

variable (P : AuditPlatform)

def signEvent (key eventHash : FixedBytes 32) : FixedBytes 32 :=
  P.hmac key.1 (utf8 "ocservia/audit-event/v1\x00" ++ eventHash.1)

/-- `canonicalJSON`, with the empty text for none. -/
def canonicalJSON (input : Bytes) : Option Bytes :=
  if input = [] ∨ input = utf8 "null" then some []
  else (P.remarshal input).or (parseJSONB P.json input)

def encodeChainPayload (previous : Option (FixedBytes 32)) (record : ChainRecord) :
    Option Bytes := do
  let before ← canonicalJSON P record.beforeSummary
  let after ← canonicalJSON P record.afterSummary
  P.marshalPayload previous { record with beforeSummary := before, afterSummary := after }

/-! ## Appending -/

/-- Why `AppendChainTx` fails. -/
inductive AuditError where
  | invalidResult
  | assignOrder
  | summary
  | encodePayload
  | append

def summaryValue (raw : Bytes) : Option (Option Bytes) :=
  if raw = [] then some none else (parseJSONB P.json raw).map some

def nullableString (s : String) : Option String := if s = "" then none else some s

def nullableID (id : Uuid) : Option Uuid := if id = uuidNil then none else some id

/-- The row that `AppendChainTx` inserts. -/
def chainRow (auth : EventAuthenticator) (record : ChainRecord) (before after : Option Bytes)
    (previous : Option (FixedBytes 32)) (digest : FixedBytes 32) : AuditRow where
  id := record.eventId
  workspaceId := record.workspaceId
  occurredAt := record.occurredAt
  actorType := record.actorType
  actorId := record.actorId
  sessionId := record.sessionId
  action := record.action
  resourceType := record.resourceType
  resourceId := nullableID record.resourceId
  nodeId := record.nodeId
  requestId := record.requestId
  traceId := nullableString record.traceId
  commandId := record.commandId
  approvalId := record.approvalId
  result := record.result
  reason := nullableString record.reason
  beforeSummary := before
  afterSummary := after
  errorType := nullableString record.errorType
  previousEventHash := previous
  eventHash := digest
  authVersion := 1
  eventKeyId := some auth.keyId
  eventMac := some (signEvent P auth.key digest)
  compactedAt := none
  compactionKeyId := none
  compactionMac := none

/-- `Append`: the primary key and the other constraints of the table. -/
def insertEvent (store : AuditStore) (row : AuditRow) : Except AuditError AuditStore :=
  match h : store.events.get? row.id with
  | some _ => .error .append
  | none =>
    if P.admits row then .ok { store with events := store.events.insert row h }
    else .error .append

/-- The id of the event of a record: its own, or a generated one. -/
def ChainRecord.idOr (record : ChainRecord) (generated : Uuid) : Uuid :=
  if record.eventId = uuidNil then generated else record.eventId

/-- The record that is stored, with its defaults and its time. -/
def completedRecord (record : ChainRecord) (at_ : DbTime) (generated : Uuid)
    (before after : Option Bytes) : ChainRecord :=
  { record with
    result := if record.result = "" then "intent" else record.result
    occurredAt := at_
    eventId := record.idOr generated
    beforeSummary := before.getD []
    afterSummary := after.getD [] }

/-- `AppendChainTx` at a reading of the clock, one step under the workspace's lock; `generated` is
the id of a record without one. -/
def appendChain (auth : EventAuthenticator) (store : AuditStore) (clock : GoTime)
    (generated : Uuid) (record : ChainRecord) :
    Except AuditError (AuditRow × AuditStore) :=
  if record.result ∉ ["", "intent", "succeeded", "failed"] then .error .invalidResult
  else match (DbTime.fromTime clock).bind DbTime.time with
  | none => .error .assignOrder
  | some at_ =>
    match summaryValue P record.beforeSummary, summaryValue P record.afterSummary with
    | some before, some after =>
      let completed := completedRecord record at_ generated before after
      let previous := store.previous record.workspaceId
      match encodeChainPayload P previous completed with
      | none => .error .encodePayload
      | some payload =>
        let row := chainRow P auth completed before after previous (P.sha256 payload)
        (insertEvent P store row).map fun store' => (row, store')
    | _, _ => .error .summary

/-! ## Verifying -/

/-- A summary that was read from its column. -/
def readSummary : Option Bytes → Option Bytes
  | none => some []
  | some text => parseJSONB P.json (P.stored text)

/-- The record of a row, as `verifyTx` scans it. -/
def readRecord (row : AuditRow) : Option ChainRecord := do
  let at_ ← row.occurredAt.time
  let before ← readSummary P row.beforeSummary
  let after ← readSummary P row.afterSummary
  return {
    eventId := row.id
    workspaceId := row.workspaceId
    actorType := row.actorType
    actorId := row.actorId
    action := row.action
    resourceType := row.resourceType
    resourceId := row.resourceId.getD uuidNil
    requestId := row.requestId
    traceId := row.traceId.getD ""
    reason := row.reason.getD ""
    result := row.result
    errorType := row.errorType.getD ""
    sessionId := row.sessionId
    nodeId := row.nodeId
    commandId := row.commandId
    approvalId := row.approvalId
    beforeSummary := before
    afterSummary := after
    occurredAt := at_ }

section
variable (m : AuditManager)

def validCheckpoint (workspaceId : Uuid) (c : CheckpointRecord) : Bool :=
  32 ≤ m.checkpointKey.length &&
    c.signature == P.hmac m.checkpointKey (workspaceId.1 ++ c.eventId.1 ++ c.eventHash.1)

def isTransitionRecord (record : ChainRecord) : Bool :=
  record.actorType == "controller" && record.actorId == "audit-auth-v1" &&
    record.action == "audit.auth.transition" && record.resourceType == "audit_chain" &&
    record.resourceId == record.workspaceId && record.result == "succeeded"

def compactionMac (key : FixedBytes 32) (record : ChainRecord) (previous : Option (FixedBytes 32))
    (hash : FixedBytes 32) (originalMac : Option (FixedBytes 32)) (at_ : DbTime) :
    Option (FixedBytes 32) :=
  (encodeChainPayload P previous record).map fun payload =>
    P.hmac key.1 (utf8 "ocservia/audit-detail-compaction/v1\x00" ++
      P.marshalCompaction payload hash originalMac at_)

def compactionAge : Int := 90 * 24 * 3600 * 10 ^ 6

def validCompaction (record : ChainRecord) (row : AuditRow) (at_ : DbTime) : Bool :=
  match row.compactionKeyId.bind m.eventKey, at_.time with
  | some key, some when_ =>
    record.reason == "" && record.beforeSummary == [] && record.afterSummary == [] &&
      record.action != "audit.auth.transition" &&
      !decide (when_ < record.occurredAt + compactionAge) &&
      (match compactionMac P key record row.previousEventHash row.eventHash row.eventMac at_ with
        | some expected => row.compactionMac == some expected
        | none => false)
  | _, _ => false

/-- What `verifyTx` has seen so far. -/
structure ChainVerification where
  (events compactedEvents : Nat)
  valid : Bool
  previous : Option (FixedBytes 32)
  previousId : Uuid
  checkpointHash : Option (FixedBytes 32)
  seenAuthenticated : Bool

/-- The hash of an event is that of its content, or has the evidence of a compaction. -/
def hashValid (record : ChainRecord) (row : AuditRow) (payload : Bytes) : Bool :=
  match row.compactedAt with
  | some at_ => row.authVersion == 1 && validCompaction P m record row at_
  | none => row.compactionKeyId.isNone && row.compactionMac.isNone &&
      row.eventHash == P.sha256 payload

section
variable (checkpoints : List CheckpointRecord)

/-- The first authenticated event is the transition, at a checkpoint of the others. -/
def transitionAnchored (v : ChainVerification) (record : ChainRecord) : Bool :=
  match checkpoints.reverse.find? fun c => c.eventId == v.previousId with
  | some c => validCheckpoint P m record.workspaceId c && some c.eventHash == v.previous &&
      isTransitionRecord record
  | none => false

/-- The authentication of an event. -/
def authValid (v : ChainVerification) (record : ChainRecord) (row : AuditRow) : Bool :=
  match row.authVersion with
  | 0 => !v.seenAuthenticated && row.eventKeyId.isNone && row.eventMac.isNone
  | 1 => (v.seenAuthenticated || v.events == 0 || transitionAnchored P m checkpoints v record) &&
      (match row.eventKeyId.bind m.eventKey with
        | some key => row.eventMac == some (signEvent P key row.eventHash)
        | none => false)
  | _ => false

/-- The body of the loop of `verifyTx`. -/
def verifyEvent (v : ChainVerification) (row : AuditRow) : Option ChainVerification := do
  let record ← readRecord P row
  let payload ← encodeChainPayload P v.previous record
  return {
    events := v.events + 1
    compactedEvents := v.compactedEvents + if row.compactedAt.isSome then 1 else 0
    valid := v.valid && (row.previousEventHash == v.previous && hashValid P m record row payload &&
      authValid P m checkpoints v record row)
    previous := some row.eventHash
    previousId := row.id
    checkpointHash :=
      if (checkpoints.getLast?.any fun c => c.eventId == row.id) then some row.eventHash
      else v.checkpointHash
    seenAuthenticated := v.seenAuthenticated || row.authVersion == 1 }

end

/-- `Verification`. -/
structure AuditVerification where
  (events compactedEvents : Nat)
  (valid checkpoint : Bool)

/-- The start of `verifyTx`. -/
def ChainVerification.start : ChainVerification := ⟨0, 0, true, none, uuidNil, none, false⟩

/-- `verifyTx`; `none` is an error. -/
def verifyTx (store : AuditStore) (workspaceId : Uuid)
    (allowLegacyOnly : Bool) : Option AuditVerification := do
  let checkpoints := store.checkpoints workspaceId
  let v ← (store.inOrder workspaceId).foldlM (verifyEvent P m checkpoints) .start
  let legacyOnly := v.events != 0 && !v.seenAuthenticated
  return {
    events := v.events
    compactedEvents := v.compactedEvents
    valid := v.valid && !(legacyOnly && !allowLegacyOnly)
    checkpoint := match checkpoints.getLast? with
      | none => v.events == 0
      | some latest => v.checkpointHash == some latest.eventHash &&
          validCheckpoint P m workspaceId latest }

/-- `Verify` reports the chain of a workspace as valid. -/
def ChainValid (store : AuditStore) (workspaceId : Uuid) : Prop :=
  ∃ report, verifyTx P m store workspaceId false = some report ∧ report.valid = true

end

instance (m : AuditManager) (store : AuditStore) (workspaceId : Uuid) :
    Decidable (ChainValid P m store workspaceId) :=
  decidable_of_iff ((verifyTx P m store workspaceId false).any AuditVerification.valid = true)
    (Option.any_eq_true _ _)

/-! ## The order of the events -/

section Order
variable {P} {store store' : AuditStore}

theorem insertEvent_ok (h : insertEvent P store row = .ok store') :
    store'.checkpoints = store.checkpoints ∧ store'.events.rows = store.events.rows ++ [row] := by
  unfold insertEvent at h
  split at h
  · cases h
  split at h
  · cases h
    exact ⟨rfl, rfl⟩
  · cases h

/-- An inserted event is placed before the first event that is not before it. -/
theorem inOrder_insert (h : store'.events.rows = store.events.rows ++ [row]) :
    store'.inOrder row.workspaceId =
      (store.inOrder row.workspaceId).takeWhile (fun e => e.Before row) ++
        row :: (store.inOrder row.workspaceId).dropWhile (fun e => e.Before row) := by
  rw [AuditStore.inOrder, h, filter_append, filter_cons_of_pos (by simp), filter_nil,
    reverse_append, reverse_singleton, singleton_append, insertionSort_cons,
    orderedInsert_eq_take_drop]
  simp only [not_not]
  rfl

end Order

/-! ## The replay -/

section Replay
variable {P} {rows : List AuditRow}

/-- What one event adds to a verification. -/
theorem verifyEvent_some (h : verifyEvent P m checkpoints v row = some v') :
    ∃ record payload, readRecord P row = some record ∧
      encodeChainPayload P v.previous record = some payload ∧
      v'.valid = (v.valid && (row.previousEventHash == v.previous &&
        hashValid P m record row payload && authValid P m checkpoints v record row)) ∧
      v'.previous = some row.eventHash := by
  obtain ⟨record, hrecord, h⟩ := bind_eq_some_iff.1 h
  obtain ⟨payload, hpayload, h⟩ := bind_eq_some_iff.1 h
  cases h
  exact ⟨record, payload, hrecord, hpayload, rfl, rfl⟩

/-- A chain that is not valid stays so. -/
theorem replay_valid (h : rows.foldlM (verifyEvent P m checkpoints) v = some v')
    (hvalid : v'.valid = true) : v.valid = true := by
  induction rows generalizing v with
  | nil =>
    cases h
    exact hvalid
  | cons row rows ih =>
    rw [foldlM_cons] at h
    obtain ⟨v₁, h₁, h⟩ := bind_eq_some_iff.1 h
    obtain ⟨_, _, -, -, hv₁, -⟩ := verifyEvent_some h₁
    have := ih h
    rw [hv₁, Bool.and_eq_true] at this
    exact this.1

/-- The link after the events is the hash of the last of them. -/
theorem replay_previous (h : rows.foldlM (verifyEvent P m checkpoints) v = some v') :
    v'.previous = (rows.getLast?.map AuditRow.eventHash).or v.previous := by
  induction rows generalizing v with
  | nil =>
    cases h
    rfl
  | cons row rows ih =>
    rw [foldlM_cons] at h
    obtain ⟨v₁, h₁, h⟩ := bind_eq_some_iff.1 h
    obtain ⟨_, _, -, -, -, hprevious⟩ := verifyEvent_some h₁
    rw [ih h, hprevious]
    cases hrows : rows.getLast? with
    | none => simp [getLast?_eq_none_iff.1 hrows]
    | some last => simp [getLast?_cons, hrows]

end Replay

/-! ## An appended event -/

section Append
variable {P} {auth : EventAuthenticator} {store store' : AuditStore} {row : AuditRow}
  {record : ChainRecord}

/-- What `AppendChainTx` inserts. -/
structure Appended (P : AuditPlatform) (auth : EventAuthenticator) (store : AuditStore)
    (record : ChainRecord) (row : AuditRow) (completed : ChainRecord) (payload : Bytes) : Prop where
  workspace : row.workspaceId = record.workspaceId
  read : readRecord P row = some completed
  encoded : encodeChainPayload P (store.previous record.workspaceId) completed = some payload
  link : row.previousEventHash = store.previous record.workspaceId
  hash : row.eventHash = P.sha256 payload
  authVersion : row.authVersion = 1
  keyId : row.eventKeyId = some auth.keyId
  mac : row.eventMac = some (signEvent P auth.key row.eventHash)
  notCompacted : row.compactedAt = none ∧ row.compactionKeyId = none ∧ row.compactionMac = none

theorem DbTime.time_eq {t u : DbTime} (h : t.time = some u) : t = u :=
  some.inj (ite_none_right_eq_some.1 h).2

theorem DbTime.time_idem {t u : DbTime} (h : t.time = some u) : u.time = some u := by
  rwa [DbTime.time_eq h] at h

theorem readSummary_stored (hjson : P.json.Faithful P.stored) (h : summaryValue P raw = some before)
    : readSummary P before = some (before.getD []) := by
  unfold summaryValue at h
  split at h
  · cases h
    rfl
  · obtain ⟨text, htext, rfl⟩ := map_eq_some_iff.1 h
    exact parseJSONB_stored hjson htext

theorem nullableString_getD (s : String) : (nullableString s).getD "" = s := by
  unfold nullableString
  split
  · rename_i h
    exact h.symm
  · rfl

theorem nullableID_getD (id : Uuid) : (nullableID id).getD uuidNil = id := by
  unfold nullableID
  split
  · rename_i h
    exact h.symm
  · rfl

theorem appendChain_ok (hjson : P.json.Faithful P.stored)
    (h : appendChain P auth store clock generated record = .ok (row, store')) :
    (∃ completed payload, Appended P auth store record row completed payload) ∧
      DbTime.fromTime clock = some row.occurredAt ∧ row.id = record.idOr generated ∧
      insertEvent P store row = .ok store' := by
  unfold appendChain at h
  split at h
  · cases h
  split at h
  · cases h
  rename_i at_ htime
  split at h
  · rename_i before after hbefore hafter
    dsimp only at h
    split at h
    · cases h
    rename_i payload hpayload
    obtain ⟨inserted, hinsert, heq⟩ := Except.map_eq_ok_iff.1 h
    cases heq
    obtain ⟨t, hclock, ht⟩ := bind_eq_some_iff.1 htime
    refine ⟨⟨completedRecord record at_ generated before after, payload, rfl, ?_,
      hpayload, rfl, rfl,
      rfl, rfl, rfl, rfl, rfl, rfl⟩, hclock.trans (congrArg some (DbTime.time_eq ht)), rfl, hinsert⟩
    simp only [readRecord, chainRow, completedRecord, DbTime.time_idem ht,
      readSummary_stored hjson hbefore, readSummary_stored hjson hafter, nullableString_getD,
      nullableID_getD]
    rfl
  · cases h

variable {completed : ChainRecord} {payload checkpointKey : Bytes}
  {checkpoints : List CheckpointRecord}

/-- At the end of a chain, the event is verified. -/
theorem Appended.verified (h : Appended P auth store record row completed payload)
    (hprevious : v.previous = store.previous record.workspaceId) (hvalid : v.valid = true)
    (hauth : v.events = 0 ∨ v.seenAuthenticated = true) :
    ∃ v', verifyEvent P (newManager checkpointKey auth) checkpoints v row = some v' ∧
      v'.valid = true ∧ v'.seenAuthenticated = true := by
  have hkey : row.eventKeyId.bind (newManager checkpointKey auth).eventKey = some auth.key := by
    rw [h.keyId]
    exact if_pos rfl
  have hhash : hashValid P (newManager checkpointKey auth) completed row payload = true := by
    simp [hashValid, h.notCompacted, h.hash]
  have hauthValid :
      authValid P (newManager checkpointKey auth) checkpoints v completed row = true := by
    rw [authValid, h.authVersion, hkey, h.mac]
    rcases hauth with h0 | hseen
    · simp [h0]
    · simp [hseen]
  unfold verifyEvent
  rw [h.read, hprevious]
  simp only [bind_eq_bind, bind_some, h.encoded]
  exact ⟨_, rfl, by simp [hvalid, h.link, hhash, hauthValid], by simp [h.authVersion]⟩

end Append

/-! ## The chain after an append -/

section Chain
variable {P}

theorem chainValid_iff : ChainValid P m store workspaceId ↔
    ∃ v,
      (store.inOrder workspaceId).foldlM (verifyEvent P m (store.checkpoints workspaceId)) .start =
      some v ∧ v.valid = true ∧ (v.events = 0 ∨ v.seenAuthenticated = true) := by
  constructor
  · rintro ⟨report, hreport, hvalid⟩
    obtain ⟨v, hv, heq⟩ := bind_eq_some_iff.1 hreport
    cases heq
    refine ⟨v, hv, ?_⟩
    simpa [or_iff_not_imp_left] using hvalid
  · rintro ⟨v, hv, hvalid, hauth⟩
    rw [ChainValid, verifyTx, hv]
    refine ⟨_, rfl, ?_⟩
    simpa [or_iff_not_imp_left, hvalid] using hauth

/-- An event that is placed before the last one does not have the link of its place. -/
theorem link_misplaced {rows : List AuditRow}
    (hdistinct : rows.Pairwise fun a b => a.eventHash ≠ b.eventHash) {p : AuditRow → Bool}
    (hmisplaced : rows.dropWhile p ≠ []) :
    rows.getLast?.map AuditRow.eventHash ≠
      (rows.takeWhile p).getLast?.map AuditRow.eventHash := by
  rw [← @takeWhile_append_dropWhile _ p rows] at hdistinct
  have hlast : rows.getLast? = (rows.dropWhile p).getLast? := by
    conv_lhs => rw [← @takeWhile_append_dropWhile _ p rows]
    rw [getLast?_append_of_ne_nil _ hmisplaced]
  obtain ⟨last, hlast'⟩ := ne_none_iff_exists'.1 (mt getLast?_eq_none_iff.1 hmisplaced)
  rw [hlast, hlast']
  cases htake : (rows.takeWhile p).getLast? with
  | none => exact some_ne_none _
  | some e =>
    intro heq
    exact (pairwise_append.1 hdistinct).2.2 e (mem_of_getLast? htake) last
      (mem_of_getLast? hlast') (some.inj heq).symm

/-- The chain of a workspace stays valid under an append exactly when every event has an earlier
time than the reading of the clock, or its time and a smaller id; that two events of the chain have
one hash is excluded. -/
theorem append_valid_iff (hjson : P.json.Faithful P.stored)
    (happend : appendChain P auth store clock generated record = .ok (row, store'))
    (hvalid : ChainValid P (newManager checkpointKey auth) store workspaceId)
    (hdistinct : (store.inOrder workspaceId).Pairwise fun a b => a.eventHash ≠ b.eventHash) :
    ChainValid P (newManager checkpointKey auth) store' workspaceId ↔
      (workspaceId = record.workspaceId → ∀ at_, DbTime.fromTime clock = some at_ →
        ∀ e ∈ store.inOrder workspaceId, e.occurredAt < at_ ∨
          e.occurredAt = at_ ∧ ofBe e.id.1 < ofBe (record.idOr generated).1) := by
  obtain ⟨⟨completed, payload, happended⟩, hclock, hid, hinsert⟩ := appendChain_ok hjson happend
  obtain ⟨hcheckpoints, hrows⟩ := insertEvent_ok hinsert
  by_cases hworkspace : workspaceId = record.workspaceId
  · subst hworkspace
    have horder := inOrder_insert hrows
    rw [happended.workspace] at horder
    obtain ⟨v, hv, hv_valid, hv_auth⟩ := chainValid_iff.1 hvalid
    rw [chainValid_iff, hcheckpoints, horder]
    constructor
    · rintro ⟨v', hv', hv'_valid, -⟩ - at_ hat e he
      obtain rfl : row.occurredAt = at_ := some.inj (hclock.symm.trans hat)
      rw [← hid]
      by_contra hnot
      have hmisplaced :
          (store.inOrder record.workspaceId).dropWhile (fun e => e.Before row) ≠ [] := by
        intro hnil
        exact hnot (of_decide_eq_true (dropWhile_eq_nil_iff.1 hnil e he))
      -- The replay reaches the new event with the link of the events before it.
      rw [foldlM_append] at hv'
      obtain ⟨v₁, hv₁, hv'⟩ := bind_eq_some_iff.1 hv'
      rw [foldlM_cons] at hv'
      obtain ⟨v₂, hv₂, hv'⟩ := bind_eq_some_iff.1 hv'
      obtain ⟨_, _, -, -, hv₂_valid, -⟩ := verifyEvent_some hv₂
      have hlink : row.previousEventHash = v₁.previous := by
        have := replay_valid hv' hv'_valid
        simp only [hv₂_valid, Bool.and_eq_true, beq_iff_eq] at this
        exact this.2.1.1
      rw [happended.link, replay_previous hv₁] at hlink
      refine link_misplaced hdistinct hmisplaced (hlink.trans ?_)
      exact or_none
    · intro hlast
      have hall : ∀ e ∈ store.inOrder record.workspaceId, decide (e.Before row) = true :=
        fun e he => decide_eq_true (by simpa [AuditRow.Before, hid] using hlast rfl _ hclock e he)
      have hprevious : v.previous = store.previous record.workspaceId :=
        (replay_previous hv).trans or_none
      obtain ⟨v', hv', hvalid', hseen⟩ := @Appended.verified _ _ _ _ _ _ _ checkpointKey
        (store.checkpoints record.workspaceId) _ happended hprevious hv_valid hv_auth
      refine ⟨v', ?_, hvalid', .inr hseen⟩
      rw [takeWhile_eq_self_iff.2 hall, dropWhile_eq_nil_iff.2 hall, foldlM_append, hv]
      simp only [bind_eq_bind, bind_some, foldlM_cons, foldlM_nil]
      rw [hv']
      rfl
  · have hother : workspaceId ≠ row.workspaceId := happended.workspace ▸ hworkspace
    have hsame : store'.inOrder workspaceId = store.inOrder workspaceId := by
      simp [AuditStore.inOrder, hrows, filter_append, Ne.symm hother]
    rw [chainValid_iff, hcheckpoints, hsame, ← chainValid_iff]
    exact ⟨fun _ h => absurd h hworkspace, fun _ => hvalid⟩

end Chain

/-! ## A clock that goes back -/

/-- For the samples: a payload is its event's id and link, and no summary is JSON. -/
def sampleAudit : AuditPlatform where
  sha256 b := ⟨(b ++ List.replicate 32 0).take 32, by simp⟩
  hmac key b := ⟨(b.drop 24 ++ key ++ List.replicate 32 0).take 32, by simp; omega⟩
  marshalPayload previous record :=
    some (record.eventId.1 ++ (previous.map Subtype.val).getD [])
  marshalCompaction payload hash _ _ := payload ++ hash.1
  remarshal _ := none
  json := ⟨fun _ => none, fun _ => none, fun _ => []⟩
  stored text := text
  admits _ := true

def sampleAuth : EventAuthenticator := ⟨"test-audit-event-v1", .fill 7⟩

/-- A record with an id of its own. -/
def sampleEvent (i : UInt8) : ChainRecord where
  eventId := sampleUuid i
  workspaceId := sampleUuid 1
  actorType := "controller"
  actorId := "sample"
  action := "sample.event"
  resourceType := "workspace"
  resourceId := sampleUuid 1
  requestId := "sample"
  traceId := ""
  reason := ""
  result := "succeeded"
  errorType := ""
  sessionId := none
  nodeId := none
  commandId := none
  approvalId := none
  beforeSummary := []
  afterSummary := []
  occurredAt := 0

/-- An append of a record with the id `i`, at the microsecond `at_` of the year 2000. -/
def sampleAppend (store : AuditStore) (i : UInt8) (at_ : Int) :
    Except AuditError (AuditRow × AuditStore) :=
  appendChain sampleAudit sampleAuth store ((946684800 * 10 ^ 6 + at_) * 1000) uuidNil
    (sampleEvent i)

/-- The store after appends, which is empty if one fails. -/
def sampleStore (appends : List (UInt8 × Int)) : AuditStore :=
  (appends.foldlM (fun store a => (sampleAppend store a.1 a.2).toOption.map Prod.snd)
    ⟨∅, fun _ => []⟩).getD ⟨∅, fun _ => []⟩

/-- The chain of the samples is valid. -/
abbrev SampleValid (store : AuditStore) : Prop :=
  ChainValid sampleAudit (newManager [] sampleAuth) store (sampleUuid 1)

/-- The chain with events at the times 5 and 6. -/
def sampleChain : AuditStore := sampleStore [(3, 5), (4, 6)]

/-- A record at time 6 with a larger id, or at a later time, keeps that chain valid. -/
theorem later_reading_keeps_chain :
    (∃ x, sampleAppend sampleChain 5 6 = .ok x ∧ SampleValid x.2) ∧
      ∃ x, sampleAppend sampleChain 5 7 = .ok x ∧ SampleValid x.2 := by
  have hvalid : SampleValid sampleChain := by decide +kernel
  have hdistinct : (sampleChain.inOrder (sampleUuid 1)).Pairwise
      fun a b => a.eventHash ≠ b.eventHash := by decide +kernel
  have hok : ∀ at_ ∈ [(6 : Int), 7], (sampleAppend sampleChain 5 at_).isOk = true := by
    decide +kernel
  have hlast : ∀ at_ ∈ [(6 : Int), 7],
      ∀ t ∈ DbTime.fromTime ((946684800 * 10 ^ 6 + at_) * 1000),
      ∀ e ∈ sampleChain.inOrder (sampleUuid 1), e.occurredAt < t ∨
        e.occurredAt = t ∧ ofBe e.id.1 < ofBe ((sampleEvent 5).idOr uuidNil).1 := by decide +kernel
  have keeps : ∀ at_ ∈ [(6 : Int), 7],
      ∃ x, sampleAppend sampleChain 5 at_ = .ok x ∧ SampleValid x.2 := by
    intro at_ hat
    cases happend : sampleAppend sampleChain 5 at_ with
    | error e =>
      have := hok at_ hat
      rw [happend] at this
      cases this
    | ok x =>
      refine ⟨x, rfl, (append_valid_iff ⟨?_, ?_, ?_⟩ happend hvalid hdistinct).2 fun _ t ht =>
        hlast at_ hat t ht⟩
      all_goals exact fun h => nomatch h
  exact ⟨keeps 6 (by simp), keeps 7 (by simp)⟩

/-- After times 5 and 6, a record at time 4, or at time 6 with a smaller id, breaks the chain. -/
theorem earlier_reading_breaks_chain :
    SampleValid (sampleStore [(3, 5), (4, 6)]) ∧
    ¬ SampleValid (sampleStore [(3, 5), (4, 6), (5, 4)]) ∧
    ¬ SampleValid (sampleStore [(3, 5), (4, 6), (2, 6)]) := by
  refine ⟨?_, ?_, ?_⟩ <;> decide +kernel

end Ocservia
