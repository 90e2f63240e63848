import Ocservia.Controller.Ingestion
import Ocservia.System.VerifiedReceipts

/-!
# No unverified privileged outcome

The commands of the Controller over every history of result events, key changes and dispatch
bookkeeping (`ingestionSystem`). An event may carry any message, forged, reordered or repeated; one
that is refused leaves the database as it was. The reconciliation of an agent upgrade with the
evidence of its restart is another path, and not part of this system.

A root-executed command only leaves the unknown state by a verified receipt
(`verified_of_effective`). From the inversion of one ingestion follow what one step can do to a
command (`step_command`, `step_outcome`, `step_terminal`) and the invariant that a receipt is stored
once (`receiptsUnique`).
-/

namespace Ocservia

open Wire Ingestion Option Receipts Function

/-! ## The system -/

/-- How the dispatcher, the reaper, a superseding mutation and the retention change a command. -/
inductive Bookkeeping : Option CommandRow → CommandRow → Prop
  /-- `EnqueueCommand`. -/
  | enqueue {row : CommandRow} (hstate : row.state = .queued) : Bookkeeping none row
  /-- A dispatch, a lost outcome, an expiry or a supersession. -/
  | progress {row : CommandRow} {envelope after : StoredEnvelope} {next operation : CommandStatus}
      (hmutable : row.state.mutable = true) (henvelope : row.envelope = some envelope)
      (hsame : SameAuthority after.command envelope.command)
      (hnext : next ∈ [CommandStatus.dispatched, .unknown, .expired, .superseded]) :
      Bookkeeping (some row) { row with envelope := some after, state := next, operation }
  /-- `Compact` of the history retention, of a terminal command. -/
  | compact {row : CommandRow} {header : Option StoredEnvelope}
      (hterminal : row.state.mutable = false) :
      Bookkeeping (some row) { row with envelope := header, compacted := true }

/-- What happens to the commands of the Controller. -/
inductive IngestionLabel where
  | ingest (e : ResultEvent)
  /-- A key of a node is activated, revoked, replaced or removed. -/
  | setKey (nodeId : Uuid) (keyId : String) (key : Option VerificationKey)
  /-- Another transaction of the Controller changes a command. -/
  | bookkeeping (id : Uuid)

/-- The database after an event; a refused event is rolled back. -/
def ResultDatabase.ingest (P : Platform) (L : ResultLibrary) (db : ResultDatabase)
    (e : ResultEvent) : ResultDatabase :=
  match ingestCommandResult P L db e with
  | .ok db' => db'
  | .error _ => db

/-- The database with another row of a key. -/
def ResultDatabase.setKey (db : ResultDatabase) (nodeId : Uuid) (keyId : String)
    (key : Option VerificationKey) : ResultDatabase :=
  { db with keys := fun n k => if n = nodeId ∧ k = keyId then key else db.keys n k }

/-- The two rows are verified receipts with one identity. -/
def SameReceipt (a b : ResultRow) : Prop :=
  a.verification.status = .verified ∧ b.verification.status = .verified ∧
    a.verification.keyId = b.verification.keyId ∧
    a.verification.effectRecordId = b.verification.effectRecordId ∧
    a.verification.effectSequence = b.verification.effectSequence

/-- The unique index over verified receipts. -/
def ReceiptsUnique (db : ResultDatabase) : Prop :=
  db.results.Pairwise fun a b => ¬ SameReceipt a b

/-- The commands of the Controller. A run starts in any database that its index admits. -/
def ingestionSystem (P : Platform) (L : ResultLibrary) : LTS ResultDatabase IngestionLabel where
  init := ReceiptsUnique
  step db label db' :=
    match label with
    | .ingest e => db' = db.ingest P L e
    | .setKey nodeId keyId key => db' = db.setKey nodeId keyId key
    | .bookkeeping id => ∃ row, Bookkeeping (db.commands id) row ∧
        db' = { db with commands := Function.update db.commands id (some row) }

/-! ## What a verified receipt claims -/

/-- Every claim of the receipt is the value of the stored envelope and of the result. -/
structure ClaimsEqual (P : Platform) (nodeId : Uuid) (envelope : CommandEnvelope)
    (result : CommandResult) (receipt : PrivdResultReceiptV1) : Prop where
  nodeId : receipt.nodeId = nodeId.1 ∧ receipt.nodeId = envelope.nodeId
  commandId : receipt.commandId = result.commandId ∧ receipt.commandId = envelope.commandId
  operationId : receipt.operationId = envelope.operationId
  idempotencyKey : receipt.idempotencyKey = result.idempotencyKey ∧
    receipt.idempotencyKey = envelope.idempotencyKey
  hashVersion : receipt.semanticPayloadHashVersion = result.semanticPayloadHashVersion ∧
    receipt.semanticPayloadHashVersion = envelope.semanticPayloadHashVersion
  payloadHash : receipt.semanticPayloadSha256 = result.payloadSha256 ∧
    receipt.semanticPayloadSha256 = envelope.semanticPayloadSha256
  commandKind : receipt.commandKind = (Receipts.commandKind envelope).toInt32
  resultKind : receipt.resultKind = (Receipts.resultKind envelope result).toInt32
  terminalState : receipt.terminalState = result.state
  resultBytes : receipt.resultBytesSha256 = (P.sha256 result.result).1
  errorCode : receipt.errorCodeSha256 = (P.sha256 (utf8 result.errorCode)).1
  acceptedAt : receipt.acceptedAt = result.acceptedAt
  completedAt : receipt.completedAt = result.completedAt
  replayed : receipt.replayed = result.replayed

theorem claimsEqual_of_match
    (h : Receipts.receiptClaimsMatch P L nodeId envelope result receipt = true) :
    ClaimsEqual P nodeId envelope result receipt := by
  simp only [receiptClaimsMatch, Bool.and_eq_true, beq_iff_eq, and_assoc] at h
  obtain ⟨hn, hn', hc, hc', ho, hi, hi', hv, hv', hp, hp', hk, hr, ht, hb, he, ha, hd, hrep, -⟩ := h
  exact ⟨⟨hn, hn'⟩, ⟨hc, hc'⟩, ho, ⟨hi, hi'⟩, ⟨hv, hv'⟩, ⟨hp, hp'⟩, hk, hr, ht, hb, he,
    ha, hd, hrep⟩

/-- An active key of the command's node signed the receipt, and its claims are those of the stored
envelope and the result. -/
def VerifiedBy (P : Platform) (L : ResultLibrary) (db : ResultDatabase) (e : ResultEvent)
    (id : Uuid) (row : CommandRow) (envelope : StoredEnvelope) : Prop :=
  ∃ result proof receipt canonical completed key,
    e.message = some result ∧ result.commandId = id.1 ∧
      db.keys row.nodeId receipt.privdAttestationKeyId = some key ∧ key.active = true ∧
      Receipts.Verified P L.receipts (db.lookup e) row.nodeId envelope.command result proof receipt
        canonical completed key ∧
      ClaimsEqual P row.nodeId envelope.command result receipt

theorem verifySignature_ne_notRequired (h : v.status ≠ .notRequired) :
    (Receipts.verifySignature L lookup nodeId signature canonical completed v).status ≠
      .notRequired := by
  unfold verifySignature
  split
  · exact h
  · exact fun h => by cases h
  split
  · exact fun h => by cases h
  split
  · exact h
  · split
    · exact h
    · exact fun h => by cases h

/-- A receipt is needed for every terminal result of a root-executed command. -/
theorem not_required
    (h : (Receipts.verifyResult P L lookup nodeId envelope result).status = .notRequired) :
    Receipts.commandKind envelope = .unspecified ∨
      Receipts.receiptRequired result.state = false := by
  by_contra hneeded
  unfold verifyResult at h
  rw [if_neg hneeded] at h
  split at h
  · cases h
  split at h
  · cases h
  split at h
  · cases h
  split at h
  · cases h
  split at h
  · cases h
  split at h
  · dsimp only at h
    split at h
    · exact verifySignature_ne_notRequired (fun h => by cases h) h
    · cases h
  · cases h

/-! ## The states that a result leads to -/

theorem normalizeApply_cases (h : normalizeApply P command state bytes = some normalized) :
    normalized.1 = state ∨
      (state = .succeeded ∧ (normalized.1 = .rolledBack ∨ normalized.1 = .failed)) := by
  unfold normalizeApply at h
  split at h
  · cases h
    exact .inl rfl
  split at h
  · cases h
    exact .inl rfl
  rename_i hstate
  obtain ⟨result, -, h⟩ := bind_eq_some_iff.1 h
  obtain ⟨outcome, -, rfl⟩ := map_eq_some_iff.1 h
  have hs : state = .succeeded := Decidable.not_not.1 hstate
  cases outcome with
  | succeeded => exact .inl hs.symm
  | rolledBack => exact .inr ⟨hs, .inl rfl⟩
  | _ => exact .inr ⟨hs, .inr rfl⟩

theorem upgradeScheduled_cases (h : upgradeScheduled P L command v state bytes = true) :
    normalizationState v state = .succeeded ∧ (agentUpgrade command).isSome = true := by
  unfold upgradeScheduled acknowledgedUpgrade at h
  split at h
  · cases h
  rename_i hguard
  simp only [not_or, Decidable.not_not] at hguard
  refine ⟨hguard.2, ?_⟩
  cases hu : agentUpgrade command with
  | none => rw [hu] at h; cases h
  | some upgrade => rfl

/-- A result leads to the unknown state, or with its receipt to the state that it reports, of an
upgrade's scheduling, or of an apply. -/
theorem effectiveState_cases (h : effectiveState P L command v state bytes ≠ .unknown) :
    unverified v = false ∧
      (effectiveState P L command v state bytes = state ∨
        (state = .succeeded ∧
          ((effectiveState P L command v state bytes = .accepted ∧
              (agentUpgrade command).isSome = true) ∨
            effectiveState P L command v state bytes = .rolledBack ∨
            effectiveState P L command v state bytes = .failed))) := by
  have hfailed : normalizationFailed P L command v state bytes = false := by
    by_contra hf
    rw [Bool.not_eq_false] at hf
    exact h (by rw [effectiveState, if_pos hf])
  have hverified : unverified v = false := by
    simp only [normalizationFailed, Bool.or_eq_false_iff] at hfailed
    exact hfailed.2
  have hstate : normalizationState v state = state := by rw [normalizationState, hverified]; rfl
  refine ⟨hverified, ?_⟩
  unfold effectiveState at h ⊢
  rw [hfailed, if_neg Bool.false_ne_true] at h ⊢
  split
  · rename_i hscheduled
    obtain ⟨hs, hu⟩ := upgradeScheduled_cases hscheduled
    exact .inr ⟨hstate ▸ hs, .inl ⟨rfl, hu⟩⟩
  rename_i hscheduled
  rw [if_neg hscheduled, hstate] at h
  rw [hstate]
  cases hn : normalizeApply P command state bytes with
  | none => rw [hn] at h; exact absurd rfl h
  | some normalized =>
    rcases normalizeApply_cases hn with heq | ⟨hs, hout⟩
    · exact .inl heq
    · exact .inr ⟨hs, .inr hout⟩

theorem reportedState_cases (h : reportedState n = some state) :
    (state = .succeeded ∧ n = CommandResultState.succeeded.toInt32) ∨
      (state = .failed ∧ n = CommandResultState.failed.toInt32) ∨ state = .unknown ∨
      (state = .rejected ∧ n = CommandResultState.rejected.toInt32) := by
  unfold reportedState at h
  split_ifs at h with hs hf hu hr <;> cases h
  · exact .inl ⟨rfl, hs⟩
  · exact .inr (.inl ⟨rfl, hf⟩)
  · exact .inr (.inr (.inl rfl))
  · exact .inr (.inr (.inr ⟨rfl, hr⟩))

theorem receiptRequired_of_reported (h : reportedState n = some state) (hs : state ≠ .unknown) :
    Receipts.receiptRequired n = true := by
  rcases reportedState_cases h with ⟨-, rfl⟩ | ⟨-, rfl⟩ | hu | ⟨-, rfl⟩
  · rfl
  · rfl
  · exact absurd hu hs
  · rfl

section
variable {id : Uuid}

abbrev ResultEvent.verification (P : Platform) (L : ResultLibrary) (db : ResultDatabase)
    (e : ResultEvent) (envelope : StoredEnvelope) (r : CommandResult) : Verification :=
  Receipts.verifyResult P L.receipts (db.lookup e) e.nodeId envelope.command r

section
variable (hl : Loaded db e id row envelope r state)
include hl

/-- A result of a root-executed command leads to the unknown state unless its receipt verified. -/
theorem verified_of_effective (hkind : Receipts.commandKind envelope.command ≠ .unspecified)
    (h : effectiveState P L envelope.command (e.verification P L db envelope r) state r.result ≠
      .unknown) : (e.verification P L db envelope r).status = .verified := by
  obtain ⟨hverified, hstate⟩ := effectiveState_cases h
  have hreported : state ≠ .unknown := by
    rintro rfl
    rcases hstate with heq | ⟨hs, -⟩
    · exact h heq
    · cases hs
  simp only [unverified, Bool.and_eq_false_iff, bne_eq_false_iff_eq] at hverified
  rcases hverified with hnot | hverified
  · rcases not_required hnot with hunspecified | hrequired
    · exact absurd hunspecified hkind
    · rw [receiptRequired_of_reported hl.reported hreported] at hrequired
      cases hrequired
  · exact hverified

theorem verifiedBy_of_status (h : (e.verification P L db envelope r).status = .verified) :
    VerifiedBy P L db e id row envelope := by
  obtain ⟨proof, receipt, canonical, t, key, hv⟩ := verifyResult_verified_iff.1 h
  rw [← hl.nodeId] at hv
  refine ⟨r, proof, receipt, canonical, t, key, hl.message, hl.identity, ?_, hv.active, hv,
    claimsEqual_of_match hv.claims⟩
  have hkey := hv.key
  unfold ResultDatabase.lookup at hkey
  split at hkey
  · cases hkey
  · exact Except.ok.inj hkey

/-- A verified receipt reports success or failure. -/
theorem not_rejected_of_verified
    (h : (e.verification P L db envelope r).status = .verified) : state ≠ .rejected := by
  rintro rfl
  obtain ⟨proof, receipt, canonical, t, key, hv⟩ := verifyResult_verified_iff.1 h
  obtain ⟨accepted, _, -, -, hvalid, -⟩ := canonicalReceiptV1_eq_some hv.canonical
  simp only [validReceipt, Bool.and_eq_true, Bool.or_eq_true, beq_iff_eq] at hvalid
  have hstate := hl.reported
  rw [← (claimsEqual_of_match hv.claims).terminalState] at hstate
  rcases hvalid.1.2 with heq | heq <;> rw [heq] at hstate <;> cases hstate

/-- A result never rejects a root-executed command. -/
theorem effective_ne_rejected (hkind : Receipts.commandKind envelope.command ≠ .unspecified) :
    effectiveState P L envelope.command (e.verification P L db envelope r) state r.result ≠
      .rejected := by
  intro h
  have hknown : effectiveState P L envelope.command (e.verification P L db envelope r) state
      r.result ≠ .unknown := by rw [h]; exact fun hne => by cases hne
  have hverified := verified_of_effective hl hkind hknown
  rcases (effectiveState_cases hknown).2 with heq | ⟨-, ⟨ha, -⟩ | hb | hf⟩
  · exact not_rejected_of_verified hl hverified (heq.symm.trans h)
  · cases ha.symm.trans h
  · cases hb.symm.trans h
  · cases hf.symm.trans h

end

/-! ## One step -/

/-- An ingestion keeps the state of a command, or the command is the loaded one, still changed by
results, and gets the effective state. -/
theorem ingest_command (hrow : db.commands id = some row) :
    ∃ row', (db.ingest P L e).commands id = some row' ∧
      (row'.state = row.state ∨
        ∃ envelope r state, Loaded db e id row envelope r state ∧ row.state.mutable = true ∧
          row'.state = effectiveState P L envelope.command (e.verification P L db envelope r) state
            r.result) := by
  unfold ResultDatabase.ingest
  cases hi : ingestCommandResult P L db e with
  | error _ => exact ⟨row, hrow, .inl rfl⟩
  | ok db' =>
    obtain ⟨commandId, loaded, envelope, r, completed, state, hl, heffect⟩ :=
      ingestCommandResult_cases hi
    cases heffect with
    | none | stored => exact ⟨row, hrow, .inl rfl⟩
    | applied _ hmutable _ =>
      by_cases hid : id = commandId
      · subst hid
        cases hl.found.symm.trans hrow
        exact ⟨_, update_self .., .inr ⟨envelope, r, state, hl, hmutable, rfl⟩⟩
      · exact ⟨row, (update_of_ne hid ..).trans hrow, .inl rfl⟩

section
variable (hs : (ingestionSystem P L).step db label db')
include hs

/-- A step changes a command's state by an ingestion of its result or by bookkeeping, while results
still change it. -/
theorem step_command (hrow : db.commands id = some row) : ∃ row', db'.commands id = some row' ∧
      (row'.state = row.state ∨ (row.state.mutable = true ∧
        (row'.state ∈ [CommandStatus.dispatched, .unknown, .expired, .superseded] ∨
          ∃ e envelope r state, label = .ingest e ∧ Loaded db e id row envelope r state ∧
            row'.state = effectiveState P L envelope.command (e.verification P L db envelope r)
              state r.result))) := by
  cases label with
  | ingest e =>
    obtain rfl : db' = db.ingest P L e := hs
    obtain ⟨row', hrow', hkept | ⟨envelope, r, state, hl, hmutable, heffective⟩⟩ :=
      ingest_command (P := P) (L := L) (e := e) hrow
    · exact ⟨row', hrow', .inl hkept⟩
    · exact ⟨row', hrow', .inr ⟨hmutable, .inr ⟨e, envelope, r, state, rfl, hl, heffective⟩⟩⟩
  | setKey nodeId keyId key =>
    obtain rfl : db' = db.setKey nodeId keyId key := hs
    exact ⟨row, hrow, .inl rfl⟩
  | bookkeeping target =>
    obtain ⟨written, hb, rfl⟩ := hs
    by_cases hid : id = target
    · subst hid
      rw [hrow] at hb
      refine ⟨written, update_self .., ?_⟩
      cases hb with
      | progress hmutable _ _ hnext => exact .inr ⟨hmutable, .inl hnext⟩
      | compact _ => exact .inl rfl
    · exact ⟨row, (update_of_ne hid ..).trans hrow, .inl rfl⟩

/-- The states of a command that report an outcome of a privileged execution. -/
def CommandStatus.outcome (s : CommandStatus) : Bool :=
  s == .succeeded || s == .failed || s == .rolledBack || s == .accepted

/-- A root-executed command gets an outcome only by a verified ingestion, is accepted only as an
upgrade, and never rejected. -/
structure OutcomeVerified (P : Platform) (L : ResultLibrary) (db : ResultDatabase)
    (label : IngestionLabel) (id : Uuid) (row row' : CommandRow)
    (envelope : StoredEnvelope) : Prop where
  verified : row'.state ≠ row.state → row'.state.outcome = true →
    ∃ e, label = .ingest e ∧ VerifiedBy P L db e id row envelope
  upgrade : row'.state ≠ row.state → row'.state = .accepted →
    (agentUpgrade envelope.command).isSome = true
  rejected : row'.state = .rejected → row.state = .rejected

theorem step_outcome (hrow : db.commands id = some row) (hrow' : db'.commands id = some row')
    (henvelope : row.envelope = some envelope)
    (hkind : Receipts.commandKind envelope.command ≠ .unspecified) :
    OutcomeVerified P L db label id row row' envelope := by
  obtain ⟨written, hwritten, hcases⟩ := step_command hs hrow
  obtain rfl : written = row' := some.inj (hwritten.symm.trans hrow')
  rcases hcases with hkept | ⟨-, hnext | ⟨e, stored, r, state, hlabel, hl, heffective⟩⟩
  · exact ⟨fun hne => absurd hkept hne, fun hne => absurd hkept hne, fun h => hkept.symm.trans h⟩
  · simp only [List.mem_cons, List.not_mem_nil, or_false] at hnext
    have hno : written.state.outcome = false ∧ written.state ≠ .accepted ∧
        written.state ≠ .rejected := by
      rcases hnext with h | h | h | h <;> rw [h] <;> decide
    refine ⟨fun _ ho => ?_, fun _ ha => absurd ha hno.2.1, fun hr => absurd hr hno.2.2⟩
    cases hno.1.symm.trans ho
  obtain rfl : stored = envelope := some.inj (hl.decoded.symm.trans henvelope)
  have hknown : written.state ≠ .unknown → effectiveState P L stored.command
      (e.verification P L db stored r) state r.result ≠ .unknown :=
    fun hne heq => hne (heffective.trans heq)
  refine ⟨fun _ houtcome => ?_, fun _ haccepted => ?_, fun hrejected => ?_⟩
  · have hne : written.state ≠ .unknown := fun h => by rw [h] at houtcome; cases houtcome
    exact ⟨e, hlabel, verifiedBy_of_status hl (verified_of_effective hl hkind (hknown hne))⟩
  · have hne : written.state ≠ .unknown := fun h => by cases h.symm.trans haccepted
    rw [heffective] at haccepted
    rcases (effectiveState_cases (hknown hne)).2 with heq | ⟨-, ⟨-, hu⟩ | hb | hf⟩
    · -- no message reports the accepted state
      rcases reportedState_cases (heq.symm.trans haccepted ▸ hl.reported) with
        ⟨h, -⟩ | ⟨h, -⟩ | h | ⟨h, -⟩ <;> cases h
    · exact hu
    · cases hb.symm.trans haccepted
    · cases hf.symm.trans haccepted
  · exact absurd (heffective.symm.trans hrejected) (effective_ne_rejected hl hkind)

/-- Every terminal command of the first database is in the same state in the second. -/
def TerminalKept (db db' : ResultDatabase) : Prop :=
  ∀ id row, db.commands id = some row → row.state.mutable = false →
    ∃ row', db'.commands id = some row' ∧ row'.state = row.state

theorem step_terminal : TerminalKept db db' := by
  intro id row hrow hterminal
  obtain ⟨row', hrow', hkept | ⟨hmutable, -⟩⟩ := step_command hs hrow
  · exact ⟨row', hrow', hkept⟩
  · cases hterminal.symm.trans hmutable

end

theorem TerminalKept.trans (h : TerminalKept db₁ db₂) (h' : TerminalKept db₂ db₃) :
    TerminalKept db₁ db₃ := by
  intro id row hrow hterminal
  obtain ⟨row₂, hrow₂, hstate₂⟩ := h id row hrow hterminal
  obtain ⟨row₃, hrow₃, hstate₃⟩ := h' id row₂ hrow₂ (hstate₂ ▸ hterminal)
  exact ⟨row₃, hrow₃, hstate₃.trans hstate₂⟩

/-! ## Receipts are stored once -/

theorem holdsReceipt_of_same (h : SameReceipt a b) : a.holdsReceipt b.verification = true := by
  obtain ⟨hv, -, hk, he, hs⟩ := h
  simp [ResultRow.holdsReceipt, hv, hk, he, hs, BEq.rfl]

theorem receiptsUnique_insert {row : ResultRow} (hI : ReceiptsUnique db)
    (hnew : insertResult db e row = .ok ()) :
    (db.results ++ [row]).Pairwise fun a b => ¬ SameReceipt a b := by
  have hfree := Checked.require_eq_ok.1 hnew
  simp only [Bool.and_eq_true, Bool.or_eq_true, bne_iff_ne, ne_eq, List.all_eq_true,
    Bool.not_eq_true'] at hfree
  refine List.pairwise_append.2 ⟨hI, List.pairwise_singleton .., ?_⟩
  intro old hold new hmem hsame
  obtain rfl := List.mem_singleton.1 hmem
  rcases hfree.2 with hunverified | hfresh
  · exact hunverified hsame.2.1
  · have := holdsReceipt_of_same hsame
    rw [hfresh old hold] at this
    cases this

theorem receiptsUnique_step (hI : ReceiptsUnique db)
    (hs : (ingestionSystem P L).step db label db') : ReceiptsUnique db' := by
  cases label with
  | ingest e =>
    obtain rfl : db' = db.ingest P L e := hs
    unfold ResultDatabase.ingest
    cases hi : ingestCommandResult P L db e with
    | error _ => exact hI
    | ok db' =>
      obtain ⟨_, _, _, _, _, _, -, heffect⟩ := ingestCommandResult_cases hi
      cases heffect with
      | none => exact hI
      | stored hnew | applied hnew _ _ => exact receiptsUnique_insert hI hnew
  | setKey nodeId keyId key =>
    obtain rfl : db' = db.setKey nodeId keyId key := hs
    exact hI
  | bookkeeping target =>
    obtain ⟨_, -, rfl⟩ := hs
    exact hI

theorem receiptsUnique (h : (ingestionSystem P L).Reachable db) : ReceiptsUnique db :=
  h.invariant ReceiptsUnique (fun _ h0 => h0) fun _ _ _ _ hI hs => receiptsUnique_step hI hs

theorem commandId_of_sameReceipt (hI : ReceiptsUnique db) (ha : a ∈ db.results)
    (hb : b ∈ db.results) (h : SameReceipt a b) : a.commandId = b.commandId := by
  by_contra hne
  have hsymm : Std.Symm fun a b : ResultRow => ¬ SameReceipt a b :=
    ⟨fun _ _ hn h => hn ⟨h.2.1, h.1, h.2.2.1.symm, h.2.2.2.1.symm, h.2.2.2.2.symm⟩⟩
  exact hI.forall ha hb (fun heq => hne (congrArg ResultRow.commandId heq)) h

/-- **No unverified privileged outcome.** The next step gives a root-executed command an outcome
only by a verified ingestion and never rejects it; a terminal command keeps its state; and a
verified receipt is stored for one command. -/
theorem privileged_outcome_verified (h : (ingestionSystem P L).Reachable db) :
    (∀ label db', (ingestionSystem P L).step db label db' → ∀ id row row' envelope,
      db.commands id = some row → db'.commands id = some row' → row.envelope = some envelope →
      Receipts.commandKind envelope.command ≠ .unspecified →
      OutcomeVerified P L db label id row row' envelope) ∧
    (∀ labels db', (ingestionSystem P L).Steps db labels db' → TerminalKept db db') ∧
    ∀ a ∈ db.results, ∀ b ∈ db.results, SameReceipt a b → a.commandId = b.commandId := by
  refine ⟨fun label db' hs id row row' envelope => step_outcome hs, fun labels db' hsteps => ?_,
    fun a ha b hb => commandId_of_sameReceipt (receiptsUnique h) ha hb⟩
  have hrefl : ∀ db, TerminalKept db db := fun _ _ row hrow _ => ⟨row, hrow, rfl⟩
  exact hsteps.related hrefl TerminalKept.trans fun _ _ _ hs => step_terminal hs

end

/-! ### A verified ingestion -/

/-- Libraries of the Controller that decode no certificate message. -/
def sampleResultLibrary : ResultLibrary where
  receipts := sampleReceiptLibrary
  semantic := sampleGoLibrary
  marshalSynthetic _ := none
  parseCsr _ := none
  decodeRevoke _ := none
  decodeArtifact _ := none
  decodeScheduled _ := none

/-- A dispatched command that disables a user. -/
def disableRow : CommandRow where
  nodeId := sampleUuid 3
  envelope := some disableStored
  state := .dispatched
  operation := .dispatched
  createdAt := .finite (100 * 10 ^ 9)
  compacted := false

/-- A database with that command and an active key of its node. -/
def disableDatabase : ResultDatabase where
  commands id := if id = sampleUuid 1 then some disableRow else none
  keys _ _ := some ⟨List.replicate 32 0, true, 0, none⟩
  results := []
  projections := []

/-- The event with the result that the Agent reports for the command. -/
def disableEvent : ResultEvent where
  eventId := sampleUuid 9
  nodeId := sampleUuid 3
  message := some (Agent.commandResult (fun _ => some (disableProof ⟨900, 0, zero_lt_second⟩))
    (disableRecord ⟨900, 0, zero_lt_second⟩) false)
  occurredAt := 901 * 10 ^ 9
  observedAt := 902 * 10 ^ 9
  dispatchInFlight := false
  visible _ := true
  planMatched := true
  faults _ := false
  recovery := ⟨none, none⟩

/-- The result of the command is ingested, and the command succeeds by a verified receipt. -/
theorem disable_outcome_verified :
    ∃ row', (disableDatabase.ingest samplePlatform sampleResultLibrary disableEvent).commands
        (sampleUuid 1) = some row' ∧ row'.state = .succeeded ∧
      OutcomeVerified samplePlatform sampleResultLibrary disableDatabase (.ingest disableEvent)
        (sampleUuid 1) disableRow row' disableStored := by
  have hreachable :
      (ingestionSystem samplePlatform sampleResultLibrary).Reachable disableDatabase :=
    .start List.Pairwise.nil
  have hrow : (disableDatabase.ingest samplePlatform sampleResultLibrary disableEvent).commands
      (sampleUuid 1) = some { disableRow with state := .succeeded, operation := .succeeded } := by
    decide +kernel
  have hstep : (ingestionSystem samplePlatform sampleResultLibrary).step disableDatabase
      (.ingest disableEvent) _ := rfl
  exact ⟨_, hrow, rfl, (privileged_outcome_verified hreachable).1 _ _ hstep _ _ _ _
    (by decide +kernel) hrow rfl (by decide)⟩

end Ocservia
