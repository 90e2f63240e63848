import Ocservia.Agent.Results
import Ocservia.Controller.Receipts
import Ocservia.Lib.Format
import Ocservia.System.AttestedExecution

/-!
# Receipts from privd to the Controller

Three programs build the claims of a receipt: privd signs them, the Agent reports the outcome from
its journal record, and the Controller compares both with the envelope it stored. `SignedExecution`
is an execution that privd signed, `SettledDelivery` what the Agent made of the answer, and the
envelopes of the three are any forms of one command (`RecoveryChain`).

`signed_receipt_verified_iff` says when the Controller verifies the result. privd checks the expiry
when it starts and not when it signs, so an execution that ends after it has an effect and a receipt
that no Controller accepts (`late_receipt_refused`). A transcript is of one receipt
(`receipt_of_transcript`).
-/

namespace Ocservia

open Wire Privd Durable Journal Option Agent Receipts List

/-! ## What privd signs -/

/-- An execution of `request` that privd started at `started` and signed at `completed`. -/
structure SignedExecution (P : Platform) (host : PrivdHost) (request : PrivdRequest)
    (claims : CommandAuthorizationV1) (accepted : Timestamp) (started completed : HostTime)
    (binding : CommandEffectBinding) (proof : PrivilegedResultProof) : Prop where
  validated : validateRequest P host.toPrivdConfig request started = .ok (.execute claims accepted)
  effect : effectBinding P request.authorizationCommand claims = some binding
  signed : buildResultProof P host request.authorizationCommand claims accepted binding
    (outcome P host request.authorizationCommand claims) completed = some proof

namespace Privd

section
variable {command : CommandEnvelope} {result : PrivdResult}

/-- The parts of the claims about a result. -/
theorem resultClaims_some (h : resultClaims P host command claims binding result = some r) :
    exactResultBytes P result = some r.resultBytes ∧
      certificateBinding P command result (effectRecordId P host.nodeId claims binding).1 =
        some r.certificate ∧
      privilegedCommandKind command.payload = some r.commandKind ∧
      privilegedResultKind result = some r.resultKind ∧
      resultErrorCode result = some r.errorCode ∧ r.state = terminalState result := by
  unfold resultClaims at h
  simp only [bind_eq_bind, bind_eq_some_iff] at h
  obtain ⟨bytes, hbytes, certificate, hcertificate, commandKind, hck, resultKind, hrk, code, hcode,
    h⟩ := h
  cases h
  exact ⟨hbytes, hcertificate, hck, hrk, hcode, rfl⟩

/-- **What a signed proof is**: the transcript of a valid receipt, under the key of the host. -/
theorem buildResultProof_some
    (h : buildResultProof P host command claims accepted binding result completed = some proof) :
    ∃ r, resultClaims P host command claims binding result = some r ∧
      Attestation.ValidReceipt (resultReceipt P host claims accepted binding completed r) accepted
        completed.timestamp ∧
      proof =
        ⟨privdReceiptVersionV1, some (resultReceipt P host claims accepted binding completed r),
        (host.attestationKey.sign (Attestation.receiptTranscript
          (resultReceipt P host claims accepted binding completed r) accepted
          completed.timestamp)).1⟩ := by
  unfold buildResultProof at h
  split at h
  · cases hr : resultClaims P host command claims binding result with
    | none => rw [hr] at h; cases h
    | some r =>
      rw [hr] at h
      simp only [Except.toOption_eq_some_iff, Attestation.signReceipt_ok_iff] at h
      obtain ⟨a, c, hv, -, hproof⟩ := h
      have ha : accepted = a := some.inj hv.acceptedAt
      have hc : completed.timestamp = c := some.inj hv.completedAt
      rw [← ha, ← hc] at hv hproof
      exact ⟨r, rfl, hv, hproof⟩
  · cases h

theorem decided_of_bytes (h : exactResultBytes P result = some bytes) :
    undecided result = false ∧ result ≠ .observation := by
  cases result with
  | error kind detail =>
    cases hcode : terminalResultErrorCode kind with
    | none => simp [exactResultBytes, hcode] at h
    | some code => exact ⟨by simp [undecided, hcode], fun hne => by cases hne⟩
  | observation => cases h
  | _ => exact ⟨rfl, fun hne => by cases hne⟩

end

end Privd

/-! ## Agreement of the claims -/

namespace Receipts

section
variable {result : PrivdResult}

theorem commandKind_eq (hp : envelope.payload = some p)
    (h : privilegedCommandKind (some p) = some kind) :
    commandKind envelope = kind ∧ kind ≠ .unspecified := by
  unfold commandKind
  rw [hp]
  cases p with
  | simulationProbe | syntheticNoop | syntheticEcho => cases h
  | _ =>
    cases h
    exact ⟨rfl, by decide⟩

/-- The Controller expects the result kind that privd signed. -/
theorem resultKind_eq (hp : envelope.payload = some p) (hprivileged : privileged p = true)
    (hout : Outcome p result) (hkind : privilegedResultKind result = some kind)
    (hstate : message.state = (terminalState result).toInt32) :
    resultKind envelope message = kind := by
  unfold resultKind
  rw [hstate]
  cases hout with
  | @error code detail h =>
    subst h
    cases hcode : terminalResultErrorCode code with
    | none => simp [privilegedResultKind, hcode] at hkind
    | some text =>
      simp only [privilegedResultKind, hcode, map_some, some.injEq] at hkind
      rw [terminalState, if_pos rfl, hkind]
  | typed htyped hno =>
    cases htyped.symm.trans hkind
    have hsucceeded : terminalState result = .succeeded := by
      cases result with
      | error code detail => exact absurd rfl (hno code detail)
      | _ => rfl
    rw [hsucceeded, if_neg (by decide)]
    unfold commandKind
    rw [hp]
    cases p with
    | simulationProbe | syntheticNoop | syntheticEcho => cases hprivileged
    | _ => rfl

theorem plainBindingMatches_plainBinding {id : Bytes}
    (hcertificate : receipt.certificate = some (plainBinding id record))
    (hrecord : receipt.effectRecordId = record) : plainBindingMatches id receipt = true := by
  simp [plainBindingMatches, hcertificate, plainBinding, hrecord, certificateBindingEmpty]

/-- The Controller accepts the certificate binding that privd signed. -/
theorem certificateClaimsMatch_signed {command : CommandEnvelope} (hL : L.KeepsLowercase)
    (hdecode : ∀ r, result = .certificateCsr r →
      L.decodeCsr (P.encodeResult (.certificateCsr r)) = some r)
    (hpayload : envelope.payload = command.payload)
    (hstate : message.state = (terminalState result).toInt32)
    (hbytes : exactResultBytes P result = some message.result)
    (hbinding : certificateBinding P command result record = some receipt.certificate)
    (hrecord : receipt.effectRecordId = record) :
    certificateClaimsMatch P L envelope message receipt = true := by
  unfold certificateClaimsMatch certificateBinding at *
  rw [hpayload]
  split at hbinding
  · -- a created certificate request
    rename_i request response hp
    cases hsubject : Attestation.requestedSubjectDigest P request with
    | error e => rw [hsubject] at hbinding; cases hbinding
    | ok subject =>
      rw [hsubject] at hbinding
      obtain ⟨hdigestable, rfl⟩ := (Attestation.requestedSubjectDigest_ok_iff P).1 hsubject
      have hcsr : L.decodeCsr message.result = some response := by
        rw [← some.inj hbytes]
        exact hdecode response rfl
      simp only [hp, hstate, terminalState]
      rw [if_neg (by decide), ← some.inj hbinding, hrecord]
      simp [hcsr, requestedSubjectDigest_of_digestable P hL hdigestable]
  · rename_i request kind detail hp
    split at hbinding
    · simp only [hp, hstate, terminalState, if_true]
      exact plainBindingMatches_plainBinding (some.inj hbinding).symm hrecord
    · cases hbinding
  iterate 2
    rename_i request _ hp
    simp only [hp]
    exact plainBindingMatches_plainBinding (some.inj hbinding).symm hrecord
  · cases hbinding
  · have hnone : receipt.certificate = none := (some.inj hbinding).symm
    rw [hnone]
    split
    all_goals first | rfl | simp_all

end

end Receipts

/-! ## The result message -/

/-- The Agent settled the record from privd's answer, in a delivery of `delivered`. -/
structure SettledDelivery (P : Platform) (delivered : CommandEnvelope) (result : PrivdResult)
    (proof : PrivilegedResultProof) (record : CommandRecord) : Prop where
  settled : ∃ context v j permit r now out, validateCommand P delivered context = .ok v ∧
    Agent.RecordFor v r ∧ Agent.Completes j v.key permit r ∧
    (Agent.settleResponse P delivered permit now (some ⟨some proof, some result⟩)).result j =
      .ok out ∧ record = out.record

/-- Encodings and signatures work across the three programs, for one proof and result. -/
structure Interoperates (P : Platform) (L : ReceiptLibrary)
    (decodeProof : Bytes → Option PrivilegedResultProof) (host : PrivdHost) (result : PrivdResult)
    (proof : PrivilegedResultProof) : Prop where
  decode : decodeProof (P.encodeProof proof) = some proof
  encoded : (P.encodeProof proof).length ≤ 65536
  marshal : ∃ encoded, L.marshalProof proof = some encoded ∧ encoded.length ≠ 0 ∧
    encoded.length ≤ 64 * 1024
  verify : ∀ bytes, L.verify host.attestationKey.verifyingKey.1 bytes
    (host.attestationKey.sign bytes).1 = true
  csr : ∀ r, result = .certificateCsr r →
    L.decodeCsr (P.encodeResult (.certificateCsr r)) = some r
  lowercase : L.KeepsLowercase

/-- The attestation key of the host is an active key of the node at the completion. -/
structure KeyActive (P : Platform) (host : PrivdHost) (lookup : KeyLookup) (completed : HostTime) :
    Prop where
  active : ∃ k, lookup host.nodeId (Attestation.keyId P host.attestationKey.verifyingKey) =
      .ok (some k) ∧ k.active = true ∧ k.publicKey = host.attestationKey.verifyingKey.1 ∧
    k.activatedAt ≤ completed.timestamp.asTime ∧
    ∀ t, k.validUntil = some t → completed.timestamp.asTime ≤ t

/-- The executions whose receipts verify: the outcome is stored as it is, sequence and times are in
Go's range, and the command had not expired at completion. -/
structure Verifiable (P : Platform) (command : CommandEnvelope) (claims : CommandAuthorizationV1)
    (binding : CommandEffectBinding) (result : PrivdResult) (completed : HostTime) : Prop where
  stored : Agent.StoredAsIs P result
  sequence : (max (max binding.effectRevision claims.expectedRevision) 1).toNat < 2 ^ 63
  window : ∃ issued expires, command.issuedAt = some issued ∧ command.expiresAt = some expires ∧
    0 ≤ issued.seconds.toInt ∧ expires.seconds.toInt ≤ 253402300799 ∧
    completed.timestamp.asTime ≤ expires.asTime

section
variable {host : PrivdHost}

variable {a c : Timestamp}

theorem seconds_le_of_asTime {b : Timestamp} (ha : 0 ≤ a.nanos.toInt)
    (hb : b.nanos.toInt < 1000000000) (h : a.asTime ≤ b.asTime) :
    a.seconds.toInt ≤ b.seconds.toInt := by
  have h : a.seconds.toInt * 10 ^ 9 + a.nanos.toInt ≤
    (b.seconds.toInt * 10 ^ 9 + b.nanos.toInt : Int) := h
  omega

/-- The answer that privd signed is well formed for the Agent. -/
theorem responseProof_of_valid {p : PrivilegedResultProof} {r : PrivdResultReceiptV1}
    {result : PrivdResult} (hversion : p.version = privdReceiptVersionV1)
    (hsignature : p.signature.length = 64) (hreceipt : p.receiptV1 = some r)
    (hv : Attestation.ValidReceipt r a c) (hsize : (P.encodeProof p).length ≤ 65536) :
    Agent.responseProof P ⟨some p, some result⟩ = some (P.encodeProof p, c.seconds) := by
  have hseconds : ¬ c.seconds.toInt < 0 := by
    have h := hv.completedValid
    simp only [Attestation.validTimestamp, Bool.and_eq_true, decide_eq_true_eq] at h
    omega
  unfold responseProof
  simp only [hversion, hsignature, hreceipt, hv.version, hv.completedAt]
  rw [if_neg (by simp), if_neg (by simp), if_neg hseconds, if_pos hsize]

/-- The claims are those of the receipt, up to the window of the command. -/
theorem receiptClaimsMatch_iff (hx : Executable P host.toPrivdConfig request claims accepted)
    (hL : Interoperates P L decodeProof host
      (outcome P host request.authorizationCommand claims) proof)
    (hr : resultClaims P host request.authorizationCommand claims binding
      (outcome P host request.authorizationCommand claims) = some r)
    (hsame : SameAuthority stored request.authorizationCommand)
    (hreports : Agent.Reports P (outcome P host request.authorizationCommand claims) message)
    (hids : message.commandId = claims.commandId.1 ∧
      message.idempotencyKey = claims.idempotencyKey.1 ∧
      message.payloadSha256 = claims.semanticPayloadSha256.1 ∧
      message.semanticPayloadHashVersion = Int32.ofNat claims.semanticHashVersion)
    (htimes : message.acceptedAt = some accepted ∧ message.completedAt = some completed.timestamp ∧
      message.replayed = false) :
    Receipts.receiptClaimsMatch P L host.nodeId stored message
        (resultReceipt P host claims accepted binding completed r) = true ↔
      Receipts.receiptWithinCommandWindow stored
        (resultReceipt P host claims accepted binding completed r) = true := by
  obtain ⟨p, hp, hprivileged, -⟩ := checkPrivilegedPayload_ok hx.payload
  have hstored : stored.payload = some p := hsame.payload.trans hp
  obtain ⟨hbytes, hcertificate, hck, hrk, hcode, hstate⟩ := resultClaims_some hr
  rw [hp] at hck
  obtain ⟨hcommandKind, -⟩ := commandKind_eq hstored hck
  have hresultKind := resultKind_eq hstored hprivileged
    (outcome_spec P host claims hp hprivileged) hrk hreports.state
  have hmatch : certificateClaimsMatch P L stored message
      (resultReceipt P host claims accepted binding completed r) = true :=
    certificateClaimsMatch_signed hL.lowercase hL.csr hsame.payload hreports.state
      hreports.bytes hcertificate rfl
  obtain ⟨-, hversion⟩ := hx.claimsOf.hashVersion
  have hmessage : r.resultBytes = message.result := some.inj (hbytes.symm.trans hreports.bytes)
  have herror : r.errorCode = message.errorCode := some.inj (hcode.symm.trans hreports.code)
  simp only [receiptClaimsMatch, Bool.and_eq_true, beq_iff_eq, and_assoc]
  constructor
  · rintro ⟨-, -, -, -, -, -, -, -, -, -, -, -, -, -, -, -, -, -, -, hwindow, -⟩
    exact hwindow
  · intro hwindow
    refine ⟨rfl, ?_, hids.1.symm, ?_, ?_, hids.2.1.symm, ?_, hids.2.2.2.symm, ?_, hids.2.2.1.symm,
      ?_, ?_, ?_, ?_, ?_, ?_, htimes.1.symm, htimes.2.1.symm, htimes.2.2.symm, hwindow, hmatch⟩
    · rw [hsame.nodeId, ← hx.claimsOf.nodeId, hx.nodeId]
      rfl
    · exact hx.claimsOf.commandId.trans hsame.commandId.symm
    · exact hx.claimsOf.operationId.trans hsame.operationId.symm
    · exact hx.claimsOf.idempotencyKey.trans hsame.idempotencyKey.symm
    · exact hversion.trans hsame.hashVersion.symm
    · exact hx.claimsOf.hash.trans hsame.hash.symm
    · exact congrArg PrivilegedCommandKind.toInt32 hcommandKind.symm
    · exact congrArg PrivilegedResultKind.toInt32 hresultKind.symm
    · exact (congrArg CommandResultState.toInt32 hstate).trans hreports.state.symm
    · exact congrArg (fun b => (P.sha256 b).1) hmessage
    · exact congrArg (fun c => (P.sha256 (utf8 c)).1) herror

/-- A receipt is in the command's window exactly when the times are in Go's range and the completion
is not after the expiry. -/
theorem receiptWithinCommandWindow_iff
    (h : validateRequest P host.toPrivdConfig request started = .ok (.execute claims accepted))
    (hsame : SameAuthority stored request.authorizationCommand) :
    Receipts.receiptWithinCommandWindow stored
        (resultReceipt P host claims accepted binding completed r) = true ↔
      ∃ issued expires, request.authorizationCommand.issuedAt = some issued ∧
        request.authorizationCommand.expiresAt = some expires ∧ 0 ≤ issued.seconds.toInt ∧
        expires.seconds.toInt ≤ 253402300799 ∧ completed.timestamp.asTime ≤ expires.asTime := by
  have hx := validateRequest_execute h
  obtain ⟨issued, expires, hissued, hexpires, hin, hen, hordered⟩ :=
    (claimsFromEnvelopeV1_spec (validateRequest_parts h).1.projected).2.1.times
  obtain ⟨issued', _, hissued', _, hseconds, -⟩ := hx.claimsOf.times
  cases hissued.symm.trans hissued'
  have haccepted : issued.seconds.toInt ≤ accepted.seconds.toInt := hseconds ▸ hx.issued
  have hle : issued.asTime ≤ expires.asTime := by
    show issued.seconds.toInt * 10 ^ 9 + issued.nanos.toInt ≤
      (expires.seconds.toInt * 10 ^ 9 + expires.nanos.toInt : Int)
    rw [← Int64.toInt_inj] at hordered
    omega
  have hsecondsLe := seconds_le_of_asTime hin.1 hen.2 hle
  have hvalid : ∀ t : Timestamp, 0 ≤ t.nanos.toInt ∧ t.nanos.toInt < 1000000000 →
      (validTimestamp t = true ↔
        0 ≤ t.seconds.toInt ∧ t.seconds.toInt ≤ 253402300799) := by
    intro t ht
    simp only [validTimestamp, Timestamp.isValid, Bool.and_eq_true, decide_eq_true_eq]
    omega
  unfold receiptWithinCommandWindow
  simp only [resultReceipt, hsame.issuedAt, hsame.expiresAt, hissued, hexpires, Bool.and_eq_true,
    decide_eq_true_eq, hvalid issued hin, hvalid expires hen, some.injEq]
  constructor
  · rintro ⟨⟨⟨⟨hi, he⟩, -⟩, -⟩, hcompleted⟩
    exact ⟨issued, expires, rfl, rfl, hi.1, he.2, hcompleted⟩
  · rintro ⟨_, _, rfl, rfl, hi, he, hcompleted⟩
    exact ⟨⟨⟨⟨⟨hi, by omega⟩, by omega, he⟩, hle⟩, haccepted⟩, hcompleted⟩

/-- The message of a record with the proof has the command's identities and the receipt's times. -/
theorem commandResult_signed (hx : Executable P host.toPrivdConfig request claims accepted)
    (hsame : SameAuthority delivered request.authorizationCommand)
    (hv : validateCommand P delivered context = .ok v) (hfor : Agent.RecordFor v old)
    (hpermit : Agent.Completes j v.key permit old) (hid : SameIdentity old record)
    (hproof : record.privilegedResultProof.bind decodeProof = some proof)
    (hreceipt : proof.receiptV1 = some receipt) (ha : receipt.acceptedAt = some a)
    (hc : receipt.completedAt = some c) (hreplayed : receipt.replayed = false) (replayed : Bool) :
    let message := commandResult decodeProof record replayed
    (message.commandId = claims.commandId.1 ∧
      message.idempotencyKey = claims.idempotencyKey.1 ∧
      message.payloadSha256 = claims.semanticPayloadSha256.1 ∧
      message.semanticPayloadHashVersion = Int32.ofNat claims.semanticHashVersion) ∧
    (message.acceptedAt = some a ∧ message.completedAt = some c ∧ message.replayed = false) ∧
    message.privilegedResultProof = some proof := by
  have hvalid := validateCommand_ok P hv
  refine ⟨⟨?_, ?_, ?_, ?_⟩, ⟨?_, ?_, ?_⟩, hproof⟩
  · show record.commandId.1 = _
    rw [hid.commandId, hfor.commandId, hvalid.commandId, hsame.commandId, hx.claimsOf.commandId]
  · show record.idempotencyKey.1 = _
    rw [hid.key, command_key hpermit.found, hvalid.key, hsame.idempotencyKey,
      hx.claimsOf.idempotencyKey]
  · show record.payloadSha256.1 = _
    rw [hid.payloadSha256, hfor.payloadSha256, validateCommand_hash P hv, hsame.hash,
      hx.claimsOf.hash]
  · show record.payloadHashVersion = _
    rw [hid.payloadHashVersion, hfor.payloadHashVersion, ← hvalid.version, hsame.hashVersion,
      hx.claimsOf.hashVersion.2]
  · simp [commandResult, hproof, hreceipt, ha]
  · simp [commandResult, hproof, hreceipt, hc]
  · simp [commandResult, hproof, hreceipt, hreplayed]

/-- **When the Controller verifies a receipt that privd signed.** The message that the Agent builds
from its record is verified against any form of the command that the Controller stored exactly when
the execution is `Verifiable`; then the Controller rebuilds the bytes that privd signed and the
claims match. -/
theorem signed_receipt_verified_iff {original executed delivered stored : StoredEnvelope}
    {lookup : KeyLookup} {record : CommandRecord}
    (hexecuted : RecoveryChain original executed) (hdelivered : RecoveryChain original delivered)
    (hstored : RecoveryChain original stored)
    (hcommand : executed.command = request.authorizationCommand)
    (hsigned : SignedExecution P host request claims accepted started completed binding proof)
    (hagent : SettledDelivery P delivered.command
      (outcome P host request.authorizationCommand claims) proof record)
    (hL : Interoperates P L decodeProof host (outcome P host request.authorizationCommand claims)
      proof)
    (hkey : KeyActive P host lookup completed) (replayed : Bool) :
    ((Receipts.verifyResult P L lookup host.nodeId stored.command
        (Agent.commandResult decodeProof record replayed)).status = .verified ↔
      Verifiable P request.authorizationCommand claims binding
        (outcome P host request.authorizationCommand claims) completed) ∧
    (Verifiable P request.authorizationCommand claims binding
        (outcome P host request.authorizationCommand claims) completed →
      ∃ receipt bytes, proof.receiptV1 = some receipt ∧
        Receipts.canonicalReceiptV1 receipt = some bytes ∧
        proof.signature = (host.attestationKey.sign bytes).1 ∧
        Receipts.receiptClaimsMatch P L host.nodeId stored.command
          (Agent.commandResult decodeProof record replayed) receipt = true) := by
  have hx := validateRequest_execute hsigned.validated
  have hrequest : SameAuthority original.command request.authorizationCommand :=
    hcommand ▸ hexecuted.inv.same.symm
  have hsame := hstored.inv.same.trans hrequest
  obtain ⟨r, hr, hvalid, hproof⟩ := buildResultProof_some hsigned.signed
  obtain ⟨hbytes, -, hck, -, -, hstate⟩ := resultClaims_some hr
  obtain ⟨hdecided, hobserved⟩ := decided_of_bytes hbytes
  have hversion : proof.version = privdReceiptVersionV1 := by rw [hproof]
  have hreceipt :
      proof.receiptV1 = some (resultReceipt P host claims accepted binding completed r) := by
    rw [hproof]
  have hlength : proof.signature.length = 64 := by
    rw [hproof]
    exact (host.attestationKey.sign _).2
  obtain ⟨context, v, j, permit, old, now, out, hv, hfor, hpermit, hrun, rfl⟩ := hagent.settled
  have hsettled := settleResponse_record hpermit
    (responseProof_of_valid hversion hlength hreceipt hvalid hL.encoded) hrun
  obtain ⟨hasis, hother⟩ := settled_reports hsettled hdecided hobserved decodeProof replayed
  have hmessage := fun (h : out.record.privilegedResultProof.bind decodeProof = some proof) =>
    commandResult_signed hx (hdelivered.inv.same.trans hrequest) hv hfor hpermit hsettled.same h
      hreceipt hvalid.acceptedAt hvalid.completedAt rfl replayed
  by_cases has : Agent.StoredAsIs P (outcome P host request.authorizationCommand claims)
  · obtain ⟨hreports, hstoredProof⟩ := hasis has
    obtain ⟨hids, htimes, hcarried⟩ := hmessage (by rw [hstoredProof]; exact hL.decode)
    have hclaims := (receiptClaimsMatch_iff hx hL hr hsame hreports hids htimes).trans
      (receiptWithinCommandWindow_iff hsigned.validated hsame)
    have hrebuilt : Verifiable P request.authorizationCommand claims binding
        (outcome P host request.authorizationCommand claims) completed →
        canonicalReceiptV1 (resultReceipt P host claims accepted binding completed r) =
          some (Attestation.receiptTranscript
            (resultReceipt P host claims accepted binding completed r) accepted
            completed.timestamp) := by
      intro hverifiable
      obtain ⟨issued, expires, -, hexpires, -, hrange, hbefore⟩ := hverifiable.window
      refine canonicalReceiptV1_of_valid hvalid hverifiable.sequence ?_
      obtain ⟨_, expires', -, hexpires', -, hen, -⟩ :=
        (claimsFromEnvelopeV1_spec (validateRequest_parts hsigned.validated).1.projected).2.1.times
      cases hexpires.symm.trans hexpires'
      have hcv := hvalid.completedValid
      simp only [Attestation.validTimestamp, Bool.and_eq_true, decide_eq_true_eq] at hcv
      exact (seconds_le_of_asTime hcv.1.2 hen.2 hbefore).trans hrange
    refine ⟨⟨fun hverified => ?_, fun hverifiable => ?_⟩, fun hverifiable => ?_⟩
    · obtain ⟨p, receipt, bytes, t, k, h⟩ := verifyResult_verified_iff.1 hverified
      cases h.proof.symm.trans hcarried
      cases h.receipt.symm.trans hreceipt
      obtain ⟨a, c, ha, hc, hgo, -⟩ := canonicalReceiptV1_eq_some h.canonical
      cases hvalid.acceptedAt.symm.trans ha
      cases hvalid.completedAt.symm.trans hc
      exact ⟨has, ((validReceipt_iff hvalid).1 hgo).1, hclaims.1 h.claims⟩
    · obtain ⟨k, hlookup, hactive, hpublic, hfrom, huntil⟩ := hkey.active
      obtain ⟨p, hp, -⟩ := checkPrivilegedPayload_ok hx.payload
      rw [hp] at hck
      obtain ⟨hkind, hne⟩ := commandKind_eq (hsame.payload.trans hp) hck
      refine verifyResult_verified_iff.2 ⟨proof, _, _, completed.timestamp, k, {
        kind := hkind ▸ hne
        required := ?_
        proof := hcarried
        marshal := hL.marshal
        version := hversion
        receipt := hreceipt
        canonical := hrebuilt hverifiable
        completed := hvalid.completedAt
        claims := hclaims.2 hverifiable.window
        key := hlookup
        active := hactive
        publicKey := hpublic ▸ host.attestationKey.verifyingKey.2
        activated := hfrom
        valid := huntil
        signatureLength := hlength
        signature := ?_ }⟩
      · rw [hreports.state]
        cases outcome P host request.authorizationCommand claims <;> rfl
      · rw [hpublic, hproof]
        exact hL.verify _
    · exact ⟨_, _, hreceipt, hrebuilt hverifiable, by rw [hproof], hclaims.2 hverifiable.window⟩
  · obtain ⟨hne, hcarried⟩ := hother has
    refine ⟨⟨fun hverified => ?_, fun hverifiable => absurd hverifiable.stored has⟩,
      fun hverifiable => absurd hverifiable.stored has⟩
    obtain ⟨p, receipt, bytes, t, k, h⟩ := verifyResult_verified_iff.1 hverified
    rcases hcarried with hcarried | hunknown
    · -- the stored proof is the signed one, so its terminal state is not that of the message
      obtain ⟨-, -, hcarried⟩ := hmessage (by rw [hcarried]; exact hL.decode)
      cases h.proof.symm.trans hcarried
      cases h.receipt.symm.trans hreceipt
      have hterminal := h.claims
      simp only [receiptClaimsMatch, Bool.and_eq_true, beq_iff_eq, and_assoc] at hterminal
      obtain ⟨-, -, -, -, -, -, -, -, -, -, -, -, -, hterminal, -⟩ := hterminal
      exact absurd (hterminal.symm.trans (congrArg CommandResultState.toInt32 hstate)) hne
    · have hrequired := h.required
      rw [hunknown] at hrequired
      exact absurd hrequired (by decide)

end

/-! ## A slow execution -/

/-- The Agent's request to disable `alice`, accepted at second 200; the command expires at 1000. -/
def disableRequest : PrivdRequest where
  requestId := (sampleUuid 6).1
  deadlineUnixMs := 1005000
  acceptedAt := some ⟨200, 0⟩
  authorizationCommand := sampleDisable .executeOrReplay 1
  privilegedMode := 1

def disableBinding : CommandEffectBinding := ⟨"user_disable", "alice", 1⟩

/-- The proof that privd signs for an execution that completes at `completed`. -/
def disableProof (completed : HostTime) : PrivilegedResultProof :=
  ⟨1, some (resultReceipt samplePlatform sampleHost disableClaims ⟨200, 0⟩ disableBinding completed
    ⟨.userDisable, .mutation, .succeeded, [], "", none⟩), List.replicate 64 0⟩

/-- The permit under which the Agent asked for the execution. -/
def disablePermit : ExternalCommand := ⟨sampleUuid 2, sampleUuid 1, 200⟩

/-- Libraries of the Controller whose signatures all verify. -/
def sampleReceiptLibrary : ReceiptLibrary :=
  ⟨fun _ _ _ => true, fun _ => some [1], fun _ => none, id⟩

/-- The attestation key of the node, active since the epoch. -/
def sampleKeys : KeyLookup := fun _ _ => .ok (some ⟨List.replicate 32 0, true, 0, none⟩)

theorem zero_lt_second : 0 < 1000000000 := by decide

/-- The record that the Agent settles from the signed answer. -/
def disableRecord (completed : HostTime) : CommandRecord where
  idempotencyKey := sampleUuid 2
  commandId := sampleUuid 1
  payloadSha256 := .fill 0
  payloadHashVersion := 2
  state := .succeeded
  result := some []
  errorCode := none
  privilegedResultProof := some [1]
  acceptedAt := 200
  updatedAt := completed.seconds

/-- The stored envelope of the command, as it was sent. -/
def disableStored : StoredEnvelope := ⟨sampleDisable .executeOrReplay 1, none, none⟩

/-- privd signs the execution, whenever it completes after the epoch. -/
theorem disable_signed
    (h : (buildResultProof samplePlatform sampleHost (sampleDisable .executeOrReplay 1)
      disableClaims
      ⟨200, 0⟩ disableBinding (.mutation true) completed) = some (disableProof completed)) :
    SignedExecution samplePlatform sampleHost disableRequest disableClaims ⟨200, 0⟩
      ⟨995, 0, by decide⟩ completed disableBinding (disableProof completed) :=
  ⟨by decide +kernel, by decide +kernel, h⟩

theorem disable_settled
    (h : (Agent.settleResponse samplePlatform
      (sampleDisable .executeOrReplay 1) disablePermit 1002
      (some ⟨some (disableProof completed), some (.mutation true)⟩)).result crashedJournal =
        .ok ⟨disableRecord completed, false⟩) :
    SettledDelivery samplePlatform (sampleDisable .executeOrReplay 1) (.mutation true)
      (disableProof completed) (disableRecord completed) :=
  ⟨sampleContext 200, sampleValidated, crashedJournal, disablePermit, _, 1002, _, rfl,
    ⟨rfl, rfl, rfl⟩, ⟨rfl, rfl, rfl, rfl⟩, h, rfl⟩

theorem sample_interoperates (completed : HostTime) : Interoperates samplePlatform
    sampleReceiptLibrary (fun _ => some (disableProof completed)) sampleHost (.mutation true)
    (disableProof completed) where
  decode := rfl
  encoded := by simp [samplePlatform]
  marshal := ⟨[1], rfl, by decide, by decide⟩
  verify _ := rfl
  csr _ h := by cases h
  lowercase _ _ _ := rfl

theorem sample_keyActive (h : (0 : Int) ≤ completed.timestamp.asTime) :
    KeyActive samplePlatform sampleHost sampleKeys completed :=
  ⟨_, rfl, rfl, rfl, h, fun _ ht => by cases ht⟩

/-- An execution that completes at second 999 is verified. -/
theorem signed_receipt_verified_in_time :
    (Receipts.verifyResult samplePlatform sampleReceiptLibrary sampleKeys (sampleUuid 3)
      disableStored.command (Agent.commandResult
        (fun _ => some (disableProof ⟨999, 0, by decide⟩)) (disableRecord ⟨999, 0, by decide⟩)
        false)).status = .verified := by
  have hchain : RecoveryChain disableStored disableStored := .original
  have hiff := signed_receipt_verified_iff hchain hchain hchain rfl
    (@disable_signed ⟨999, 0, by decide⟩ (by decide +kernel))
    (disable_settled (by decide +kernel)) (sample_interoperates _)
    (sample_keyActive (by decide +kernel)) false
  refine hiff.1.2 ⟨⟨by decide +kernel, ?_⟩, by decide +kernel, _, _, rfl, rfl, by decide, by decide,
    by decide +kernel⟩
  rintro bytes hbytes
  cases hbytes
  decide +kernel

/-- An execution from second 995 to 1001, within the deadline of the request but after the command
expired at 1000: the effect is applied and signed, and the Controller refuses the receipt. -/
theorem late_receipt_refused :
    SignedExecution samplePlatform sampleHost disableRequest disableClaims ⟨200, 0⟩
      ⟨995, 0, by decide⟩ ⟨1001, 0, by decide⟩ disableBinding (disableProof ⟨1001, 0, by decide⟩) ∧
    outcome samplePlatform sampleHost disableRequest.authorizationCommand disableClaims =
      .mutation true ∧
    SettledDelivery samplePlatform (sampleDisable .executeOrReplay 1) (.mutation true)
      (disableProof ⟨1001, 0, by decide⟩) (disableRecord ⟨1001, 0, by decide⟩) ∧
    KeyActive samplePlatform sampleHost sampleKeys ⟨1001, 0, by decide⟩ ∧
    (Receipts.verifyResult samplePlatform sampleReceiptLibrary sampleKeys (sampleUuid 3)
      disableStored.command (Agent.commandResult
        (fun _ => some (disableProof ⟨1001, 0, by decide⟩)) (disableRecord ⟨1001, 0, by decide⟩)
        false)).failureReason = "receipt_claim_mismatch" :=
  ⟨disable_signed (by decide +kernel), by decide +kernel, disable_settled (by decide +kernel),
    sample_keyActive (by decide +kernel), by decide +kernel⟩

/-! ## One receipt for a transcript -/

section
open Format

theorem framed_front (ha : a.length < 2 ^ 32) (hb : b.length < 2 ^ 32) :
    framed a ++ s = framed b ++ t ↔ a = b ∧ s = t :=
  bytes.front_iff ha hb

theorem word_front {a b : UInt64} : be 8 a.toNat ++ s = be 8 b.toNat ++ t ↔ a = b ∧ s = t :=
  u64.front_iff (u64_fits a) (u64_fits b)

theorem enumBytes_front : enumBytes a ++ s = enumBytes b ++ t ↔ a = b ∧ s = t :=
  (u32.comap Int32.toUInt32 fun _ _ => congrArg Int32.ofUInt32).front_iff (u32_fits _) (u32_fits _)

theorem timestampBytes_front : timestampBytes a ++ s = timestampBytes b ++ t ↔ a = b ∧ s = t := by
  have hseconds : a.seconds.toUInt64 = b.seconds.toUInt64 ↔ a.seconds = b.seconds :=
    ⟨congrArg Int64.ofUInt64, congrArg _⟩
  have hnanos := @enumBytes_front a.nanos s b.nanos t
  cases a
  cases b
  simp_all [timestampBytes, enumBytes, word_front, and_assoc]

theorem certificateBytes_inj (ha : (certificateBytes a).length ≤ 2048)
    (hb : (certificateBytes b).length ≤ 2048) (h : certificateBytes a = certificateBytes b) :
    a = b := by
  cases a <;> cases b
  case none.none => rfl
  case some.some a b =>
    simp only [certificateBytes, framed, length_append] at ha hb
    have h := congrArg (· ++ []) h
    simp (disch := omega) only [certificateBytes, append_assoc, append_cancel_left_eq,
      framed_front] at h
    cases a
    cases b
    simp_all
  all_goals cases (cons.inj h).1

/-- The bytes that privd or the Controller writes for a receipt. -/
def EncodesReceipt (r : PrivdResultReceiptV1) (out : Bytes) : Prop :=
  Attestation.canonicalReceiptV1 r = .ok out ∨ Receipts.canonicalReceiptV1 r = some out

/-- Both write the transcript of the Controller, within the limit. -/
theorem EncodesReceipt.written (h : EncodesReceipt r out) : ∃ accepted completed,
    r.acceptedAt = some accepted ∧ r.completedAt = some completed ∧ out.length ≤ 2048 ∧
      transcript r accepted completed = out := by
  rcases h with h | h
  · obtain ⟨accepted, completed, hv, hout⟩ := Attestation.canonicalReceiptV1_ok_iff.1 h
    exact ⟨accepted, completed, hv.acceptedAt, hv.completedAt,
      hout ▸ Attestation.length_receiptTranscript hv, (transcript_of_valid hv).trans hout.symm⟩
  · unfold Receipts.canonicalReceiptV1 at h
    split at h
    · rename_i accepted completed ha hc
      obtain ⟨⟨-, hlength⟩, hout⟩ := ite_none_right_eq_some.1 h
      exact ⟨accepted, completed, ha, hc, some_inj.1 hout ▸ hlength, some_inj.1 hout⟩
    · cases h

/-- **A signed transcript is of one receipt**, whichever of privd and the Controller wrote it. -/
theorem receipt_of_transcript (ha : EncodesReceipt a out) (hb : EncodesReceipt b out) : a = b := by
  have hflag : ∀ {x y : Bool} {s t : Bytes},
      [if x then 1 else 0] ++ s = [if y then 1 else 0] ++ t ↔ x = y ∧ s = t := by
    intro x y s t
    cases x <;> cases y <;> simp
  obtain ⟨_, _, hat, hac, hal, ha⟩ := ha.written
  obtain ⟨_, _, hbt, hbc, hbl, hb⟩ := hb.written
  have h := ha.trans hb.symm
  rw [← ha] at hal
  rw [← hb] at hbl
  unfold transcript at hal hbl h
  simp only [length_append, framed, length_be] at hal hbl
  simp (disch := omega) only [append_assoc, append_cancel_left_eq, enumBytes_front,
    framed_front, word_front, timestampBytes_front, hflag, utf8_injective.eq_iff] at h
  have hcertificate := @certificateBytes_inj a.certificate b.certificate (by omega) (by omega)
  cases a
  cases b
  simp_all

end

/-- The receipt of the sample execution is the only one with its bytes. -/
theorem disable_receipt_of_transcript : ∃ r out,
    (disableProof ⟨999, 0, by decide⟩).receiptV1 = some r ∧ EncodesReceipt r out ∧
      ∀ b, EncodesReceipt b out → b = r := by
  have h : (disableProof ⟨999, 0, by decide⟩).receiptV1.any
      (fun r => (canonicalReceiptV1 r).isSome) = true := by
    decide +kernel
  obtain ⟨r, hr, h⟩ := (any_eq_true _ _).1 h
  obtain ⟨out, hout⟩ := isSome_iff_exists.1 h
  exact ⟨r, out, hr, .inr hout, fun b hb => receipt_of_transcript hb (.inr hout)⟩

end Ocservia
