import Ocservia.Controller.Recovery
import Ocservia.Privd.Attestation

/-!
# Verification of result receipts

`internal/privdattestation/receipt.go`: the Controller trusts a terminal result of a root-executed
command only with a receipt whose canonical form it can rebuild (`canonicalReceiptV1`), whose claims
equal the stored envelope and the result message (`receiptClaimsMatch`), and whose signature
verifies under an active key of the node (`verifyResult`). Unlike the encoder of privd it bounds the
effect sequence and the completion time, and does not look at the variant of an identifier.
-/

namespace Ocservia

open Wire SemanticPayloadHashVersion Attestation

/-- A row of `node_privd_attestation_keys`, as `VerificationKey` reads it. -/
structure VerificationKey where
  publicKey : Bytes
  /-- `state = 'active'`. -/
  active : Bool
  activatedAt : GoTime
  validUntil : Option GoTime

/-- What a key lookup answers: an error, no row, or the row. -/
abbrev KeyLookup := Uuid → String → Except Unit (Option VerificationKey)

/-- Functions of other Go packages that receipt verification calls. -/
structure ReceiptLibrary where
  /-- `ed25519.Verify`. -/
  verify : Bytes → Bytes → Bytes → Bool
  /-- `proto.Marshal` of a proof. -/
  marshalProof : PrivilegedResultProof → Option Bytes
  /-- `proto.Unmarshal` of a `CertificateCsrResult`. -/
  decodeCsr : Bytes → Option CertificateCsrResult
  /-- `strings.ToLower`. -/
  toLower : String → String

inductive VerificationStatus where
  | notRequired | verified | missing | invalid | unknownKey | revokedKey
deriving DecidableEq

structure Verification where
  status : VerificationStatus
  (failureReason keyId : String)
  effectRecordId : Bytes
  effectSequence : UInt64
  (receiptSha256 encodedProof : Bytes)
  certificate : Option PrivdCertificateReceiptBindingV1

/-- A verification without a readable receipt. -/
def Verification.plain (status : VerificationStatus) (failureReason : String)
    (encodedProof : Bytes) : Verification :=
  ⟨status, failureReason, "", [], 0, [], encodedProof, none⟩

theorem toNat_eq_of_toInt_nonneg {w : Nat} {x : BitVec w} (h : 0 ≤ x.toInt) :
    x.toNat = x.toInt.toNat := by
  rw [BitVec.toInt_eq_toNat_of_lt (BitVec.toInt_pos_iff.1 h), Int.toNat_natCast]

/-- Times in Go and timestamps in Rust have one order. -/
theorem Timestamp.asTime_le_iff (ha : 0 ≤ a.nanos.toInt ∧ a.nanos.toInt < 1000000000)
    (hb : 0 ≤ b.nanos.toInt ∧ b.nanos.toInt < 1000000000) :
    a.asTime ≤ b.asTime ↔ Attestation.timestampAfter a b = false := by
  simp only [Timestamp.asTime, timestampAfter, Bool.or_eq_false_iff,
    Bool.and_eq_false_iff, decide_eq_false_iff_not, beq_eq_false_iff_ne, ne_eq, ← Int64.toInt_inj]
  show a.seconds.toInt * 10 ^ 9 + a.nanos.toInt ≤ (b.seconds.toInt * 10 ^ 9 + b.nanos.toInt : Int) ↔
    _
  omega

/-- `strings.ToLower` leaves a text of lower-case ASCII as it is. -/
def ReceiptLibrary.KeepsLowercase (L : ReceiptLibrary) : Prop :=
  ∀ s : String, isAscii s = true → utf8 s = Attestation.toAsciiLowercase (utf8 s) → L.toLower s = s

namespace Receipts

/-! ## Field checks -/

def validTimestamp (value : Timestamp) : Bool := value.isValid && 0 ≤ value.seconds.toInt

def validUUIDv7 (value : Bytes) : Bool := value.length == 16 && uuidVersion value == 7

def validKeyID (value : String) : Bool :=
  value.utf8ByteSize == Attestation.keyIdPrefix.utf8ByteSize + 64 &&
    (utf8 Attestation.keyIdPrefix).isPrefixOf (utf8 value) &&
    ((utf8 value).drop Attestation.keyIdPrefix.utf8ByteSize).all
      fun b => isAsciiDigit b || (97 ≤ b && b ≤ 102)

/-- The kinds whose receipts are bound to a certificate. -/
def certificateKind (kind : Int32) : Bool :=
  kind == PrivilegedCommandKind.certificateCsr.toInt32 ||
    kind == PrivilegedCommandKind.certificateP12.toInt32 ||
    kind == PrivilegedCommandKind.certificateRevoke.toInt32

/-- The checks of `validReceipt` on the certificate binding. -/
def validCertificate (commandKind resultKind : Int32) :
    Option PrivdCertificateReceiptBindingV1 → Bool
  | none => !certificateKind commandKind
  | some binding =>
    certificateKind commandKind && validUUIDv7 binding.certificateId &&
      16 ≤ binding.rootEffectRecordId.length && binding.rootEffectRecordId.length ≤ 32 &&
      if resultKind = PrivilegedResultKind.certificateCsr.toInt32 then
        binding.csrDerSha256.length == 32 && binding.publicKeySha256.length == 32 &&
          binding.requestedSubjectSha256.length == 32
      else
        binding.csrDerSha256.isEmpty && binding.publicKeySha256.isEmpty &&
          binding.requestedSubjectSha256.isEmpty

section
variable (receipt : PrivdResultReceiptV1)

/-- `validReceipt`, for a receipt with both times. -/
def validReceipt (accepted completed : Timestamp) : Bool :=
  receipt.receiptVersion == privdReceiptVersionV1 && validUUIDv7 receipt.nodeId &&
    validUUIDv7 receipt.commandId && validUUIDv7 receipt.operationId &&
    validUUIDv7 receipt.idempotencyKey && validKeyID receipt.privdAttestationKeyId &&
    receipt.semanticPayloadSha256.length == 32 && receipt.resultBytesSha256.length == 32 &&
    receipt.errorCodeSha256.length == 32 && 16 ≤ receipt.effectRecordId.length &&
    receipt.effectRecordId.length ≤ 32 && receipt.effectSequence != 0 &&
    receipt.effectSequence.toNat < 2 ^ 63 && validTimestamp accepted && validTimestamp completed &&
    accepted.asTime ≤ completed.asTime &&
    (receipt.semanticPayloadHashVersion == SemanticPayloadHashVersion.v1.toInt32 ||
      receipt.semanticPayloadHashVersion == SemanticPayloadHashVersion.v2.toInt32) &&
    receipt.commandKind != 0 && receipt.resultKind != 0 &&
    (receipt.terminalState == CommandResultState.succeeded.toInt32 ||
      receipt.terminalState == CommandResultState.failed.toInt32) &&
    validCertificate receipt.commandKind receipt.resultKind receipt.certificate

/-! ## The canonical form -/

/-- `appendBytes`, as the bytes it appends. -/
def framed (value : Bytes) : Bytes := be 4 value.length ++ value

/-- `appendU32` of an enumeration number. -/
def enumBytes (value : Int32) : Bytes := be 4 value.toUInt32.toNat

/-- `appendTimestamp`. -/
def timestampBytes (value : Timestamp) : Bytes :=
  be 8 value.seconds.toUInt64.toNat ++ be 4 value.nanos.toUInt32.toNat

/-- The certificate part of the canonical form. -/
def certificateBytes : Option PrivdCertificateReceiptBindingV1 → Bytes
  | none => [0]
  | some binding =>
    [1] ++ framed binding.certificateId ++ framed binding.csrDerSha256 ++
      framed binding.publicKeySha256 ++ framed binding.requestedSubjectSha256 ++
      framed binding.rootEffectRecordId

/-- The bytes that `CanonicalReceiptV1` writes. -/
def transcript (accepted completed : Timestamp) : Bytes :=
  utf8 "ocservia/privd-result-receipt/v1\x00" ++ enumBytes receipt.receiptVersion ++
    framed receipt.nodeId ++ framed (utf8 receipt.privdAttestationKeyId) ++
    framed receipt.commandId ++ framed receipt.operationId ++ framed receipt.idempotencyKey ++
    enumBytes receipt.semanticPayloadHashVersion ++ framed receipt.semanticPayloadSha256 ++
    enumBytes receipt.commandKind ++ enumBytes receipt.resultKind ++
    enumBytes receipt.terminalState ++ framed receipt.resultBytesSha256 ++
    framed receipt.errorCodeSha256 ++ framed receipt.effectRecordId ++
    be 8 receipt.effectSequence.toNat ++ timestampBytes accepted ++ timestampBytes completed ++
    [if receipt.replayed then 1 else 0] ++ certificateBytes receipt.certificate

def canonicalReceiptV1 : Option Bytes :=
  match receipt.acceptedAt, receipt.completedAt with
  | some accepted, some completed =>
    if validReceipt receipt accepted completed ∧
        (transcript receipt accepted completed).length ≤ 2048 then
      some (transcript receipt accepted completed)
    else none
  | _, _ => none

end

/-- The names of `RequestedSubjectDigest`, in order. -/
def appendNames (L : ReceiptLibrary) (output : Bytes) : List String → Option Bytes
  | [] => some output
  | name :: names =>
    if name.utf8ByteSize ≠ 0 ∧ name.utf8ByteSize ≤ 253 ∧ name = L.toLower name then
      appendNames L (output ++ framed (utf8 name)) names
    else none

def requestedSubjectDigest (P : Platform) (L : ReceiptLibrary) (request : CertificateCsr) :
    Option (FixedBytes 32) :=
  if validUUIDv7 request.certificateId ∧ request.commonName.utf8ByteSize ≠ 0 ∧
      request.commonName.utf8ByteSize ≤ 253 ∧ 2048 ≤ request.keyBits ∧ request.keyBits ≤ 8192 ∧
      request.dnsNames.length ≤ 64 ∧ neighboursDiffer (sortTexts request.dnsNames) then
    (appendNames L (utf8 "ocservia/certificate-requested-subject/v1\x00" ++
      framed request.certificateId ++ framed (utf8 request.commonName) ++
      be 4 request.keyBits.toNat ++ be 4 (sortTexts request.dnsNames).length)
      (sortTexts request.dnsNames)).map P.sha256
  else none

/-! ## Claims -/

section
variable (envelope : CommandEnvelope)

def commandKind : PrivilegedCommandKind :=
  match envelope.payload with
  | some (.sessionDisconnect _) => .sessionDisconnect
  | some (.sessionTerminate _) => .sessionTerminate
  | some (.ipBanRemove _) => .ipBanRemove
  | some .serviceReload => .serviceReload
  | some (.userCreate _) => .userCreate
  | some (.userDisable _) => .userDisable
  | some (.userEnable _) => .userEnable
  | some (.userPasswordRotate _) => .userPasswordRotate
  | some (.groupApply _) => .groupApply
  | some (.configPlan _) | some (.completeConfigPlan _) => .configPlan
  | some (.configApply _) | some (.completeConfigApply _) => .configApply
  | some (.certificateCsr _) => .certificateCsr
  | some (.certificateP12 _) => .certificateP12
  | some (.certificateRevoke _) => .certificateRevoke
  | some (.agentUpgrade _) => .agentUpgrade
  | some .simulationProbe | some .syntheticNoop | some (.syntheticEcho _) | none => .unspecified

def resultKind (result : CommandResult) : PrivilegedResultKind :=
  if result.state = CommandResultState.failed.toInt32 then .error
  else
    match commandKind envelope with
    | .configPlan => .configPlan
    | .configApply => .configApply
    | .certificateCsr => .certificateCsr
    | .certificateP12 => .certificateP12
    | .certificateRevoke => .certificateRevoke
    | .agentUpgrade => .agentUpgradeScheduled
    | _ => .mutation

def receiptWithinCommandWindow (receipt : PrivdResultReceiptV1) : Bool :=
  match envelope.issuedAt, envelope.expiresAt, receipt.acceptedAt, receipt.completedAt with
  | some issued, some expires, some accepted, some completed =>
    validTimestamp issued && validTimestamp expires && issued.asTime ≤ expires.asTime &&
      issued.seconds.toInt ≤ accepted.seconds.toInt && completed.asTime ≤ expires.asTime
  | _, _, _, _ => false

end

def certificateBindingEmpty (binding : PrivdCertificateReceiptBindingV1) : Bool :=
  binding.csrDerSha256.isEmpty && binding.publicKeySha256.isEmpty &&
    binding.requestedSubjectSha256.isEmpty

/-- A binding to the certificate and the root effect alone. -/
def plainBindingMatches (certificateId : Bytes) (receipt : PrivdResultReceiptV1) : Bool :=
  receipt.certificate.any fun binding =>
    binding.certificateId == certificateId &&
      binding.rootEffectRecordId == receipt.effectRecordId && certificateBindingEmpty binding

def certificateClaimsMatch (P : Platform) (L : ReceiptLibrary) (envelope : CommandEnvelope)
    (result : CommandResult) (receipt : PrivdResultReceiptV1) : Bool :=
  match envelope.payload with
  | some (.certificateCsr request) =>
    if result.state = CommandResultState.failed.toInt32 then
      plainBindingMatches request.certificateId receipt
    else
      receipt.certificate.any fun binding =>
        binding.certificateId == request.certificateId &&
          binding.rootEffectRecordId == receipt.effectRecordId &&
          (L.decodeCsr result.result).any fun csr =>
            (requestedSubjectDigest P L request).any fun subject =>
              binding.csrDerSha256 == (P.sha256 csr.csrDer).1 &&
                binding.publicKeySha256 == csr.publicKeySha256 &&
                binding.requestedSubjectSha256 == subject.1
  | some (.certificateP12 request) => plainBindingMatches request.certificateId receipt
  | some (.certificateRevoke request) => plainBindingMatches request.certificateId receipt
  | _ => receipt.certificate.isNone

def receiptClaimsMatch (P : Platform) (L : ReceiptLibrary) (nodeId : Uuid)
    (envelope : CommandEnvelope) (result : CommandResult) (receipt : PrivdResultReceiptV1) : Bool :=
  receipt.nodeId == nodeId.1 && receipt.nodeId == envelope.nodeId &&
    receipt.commandId == result.commandId && receipt.commandId == envelope.commandId &&
    receipt.operationId == envelope.operationId &&
    receipt.idempotencyKey == result.idempotencyKey &&
    receipt.idempotencyKey == envelope.idempotencyKey &&
    receipt.semanticPayloadHashVersion == result.semanticPayloadHashVersion &&
    receipt.semanticPayloadHashVersion == envelope.semanticPayloadHashVersion &&
    receipt.semanticPayloadSha256 == result.payloadSha256 &&
    receipt.semanticPayloadSha256 == envelope.semanticPayloadSha256 &&
    receipt.commandKind == (commandKind envelope).toInt32 &&
    receipt.resultKind == (resultKind envelope result).toInt32 &&
    receipt.terminalState == result.state &&
    receipt.resultBytesSha256 == (P.sha256 result.result).1 &&
    receipt.errorCodeSha256 == (P.sha256 (utf8 result.errorCode)).1 &&
    receipt.acceptedAt == result.acceptedAt && receipt.completedAt == result.completedAt &&
    receipt.replayed == result.replayed && receiptWithinCommandWindow envelope receipt &&
    certificateClaimsMatch P L envelope result receipt

/-! ## Verification -/

/-- The result states that need a receipt when the command is root-executed. -/
def receiptRequired (state : Int32) : Bool :=
  state == CommandResultState.succeeded.toInt32 || state == CommandResultState.failed.toInt32 ||
    state == CommandResultState.rejected.toInt32

/-- The end of `verifyResult`: the key of a receipt whose claims match, and its signature. -/
def verifySignature (L : ReceiptLibrary) (lookup : KeyLookup) (nodeId : Uuid)
    (signature canonical : Bytes) (completed : Timestamp) (verification : Verification) :
    Verification :=
  match lookup nodeId verification.keyId with
  | .error () => { verification with failureReason := "receipt_key_lookup_failed" }
  | .ok none =>
    { verification with status := .unknownKey, failureReason := "receipt_key_unknown" }
  | .ok (some key) =>
    if key.active = false ∨ key.publicKey.length ≠ 32 then
      { verification with status := .revokedKey, failureReason := "receipt_key_revoked" }
    else if completed.asTime < key.activatedAt ∨ key.validUntil.any (· < completed.asTime) then
      { verification with failureReason := "receipt_key_outside_validity" }
    else if signature.length ≠ 64 ∨ L.verify key.publicKey canonical signature = false then
      { verification with failureReason := "receipt_signature_invalid" }
    else { verification with status := .verified, failureReason := "" }

def verifyResult (P : Platform) (L : ReceiptLibrary) (lookup : KeyLookup) (nodeId : Uuid)
    (envelope : CommandEnvelope) (result : CommandResult) : Verification :=
  if commandKind envelope = .unspecified ∨ receiptRequired result.state = false then
    .plain .notRequired "" []
  else
    match result.privilegedResultProof with
    | none => .plain .missing "receipt_missing" []
    | some proof =>
      match L.marshalProof proof with
      | none => .plain .invalid "receipt_malformed" []
      | some encoded =>
        if encoded.length = 0 ∨ 64 * 1024 < encoded.length then
          .plain .invalid "receipt_malformed" []
        else
          match proof.receiptV1 with
          | none => .plain .invalid "receipt_version_unsupported" encoded
          | some receipt =>
            if proof.version ≠ privdReceiptVersionV1 ∨
                receipt.receiptVersion ≠ privdReceiptVersionV1 then
              .plain .invalid "receipt_version_unsupported" encoded
            else
              match canonicalReceiptV1 receipt, receipt.completedAt with
              | some canonical, some completed =>
                let mismatch : Verification := ⟨.invalid, "receipt_claim_mismatch",
                  receipt.privdAttestationKeyId, receipt.effectRecordId, receipt.effectSequence,
                  (P.sha256 canonical).1, encoded, receipt.certificate⟩
                if receiptClaimsMatch P L nodeId envelope result receipt then
                  verifySignature L lookup nodeId proof.signature canonical completed mismatch
                else mismatch
              | _, _ => .plain .invalid "receipt_malformed" encoded

/-- What a verified result rests on: its proof `p`, the receipt `r`, the signed form, and the key
`k`. -/
structure Verified (P : Platform) (L : ReceiptLibrary) (lookup : KeyLookup) (nodeId : Uuid)
    (envelope : CommandEnvelope) (result : CommandResult) (p : PrivilegedResultProof)
    (r : PrivdResultReceiptV1) (bytes : Bytes) (t : Timestamp) (k : VerificationKey) : Prop where
  kind : commandKind envelope ≠ .unspecified
  required : receiptRequired result.state = true
  proof : result.privilegedResultProof = some p
  marshal : ∃ encoded, L.marshalProof p = some encoded ∧ encoded.length ≠ 0 ∧
    encoded.length ≤ 64 * 1024
  version : p.version = privdReceiptVersionV1
  receipt : p.receiptV1 = some r
  canonical : canonicalReceiptV1 r = some bytes
  completed : r.completedAt = some t
  claims : receiptClaimsMatch P L nodeId envelope result r = true
  key : lookup nodeId r.privdAttestationKeyId = .ok (some k)
  active : k.active = true
  publicKey : k.publicKey.length = 32
  activated : k.activatedAt ≤ t.asTime
  valid : ∀ u, k.validUntil = some u → t.asTime ≤ u
  signatureLength : p.signature.length = 64
  signature : L.verify k.publicKey bytes p.signature = true

/-- The key of the node is active, its period covers the completion, it signed. -/
theorem verifySignature_verified_iff (hv : v.status = .invalid) :
    (verifySignature L lookup nodeId signature canonical completed v).status = .verified ↔
      ∃ key, lookup nodeId v.keyId = .ok (some key) ∧ key.active = true ∧
        key.publicKey.length = 32 ∧ key.activatedAt ≤ completed.asTime ∧
        (∀ t, key.validUntil = some t → completed.asTime ≤ t) ∧ signature.length = 64 ∧
        L.verify key.publicKey canonical signature = true := by
  unfold verifySignature
  cases hlookup : lookup nodeId v.keyId with
  | error e => simp [hv]
  | ok found =>
    cases found with
    | none => simp
    | some key =>
      simp only [Except.ok.injEq, Option.some.injEq, exists_eq_left']
      split
      · rename_i h
        simp only [false_iff, reduceCtorEq]
        rintro ⟨hactive, hlength, -⟩
        rcases h with h | h
        · cases h.symm.trans hactive
        · exact h hlength
      rename_i h
      simp only [not_or, Bool.not_eq_false, not_not] at h
      split
      · rename_i hvalid
        simp only [hv, reduceCtorEq, false_iff]
        rintro ⟨-, -, hfrom, huntil, -⟩
        rcases hvalid with hbefore | hafter
        · exact absurd hfrom (Int.not_le.2 hbefore)
        · cases ht : key.validUntil with
          | none => simp [ht] at hafter
          | some t => exact absurd (huntil t ht) (Int.not_le.2 (by simpa [ht] using hafter))
      rename_i hvalid
      simp only [not_or, Int.not_lt, Bool.not_eq_true] at hvalid
      have huntil : ∀ t, key.validUntil = some t → completed.asTime ≤ t := by
        intro t ht
        simpa [ht] using hvalid.2
      split
      · rename_i hsig
        simp only [hv, reduceCtorEq, false_iff]
        rintro ⟨-, -, -, -, hlength, hverify⟩
        rcases hsig with hsig | hsig
        · exact hsig hlength
        · cases hsig.symm.trans hverify
      · rename_i hsig
        simp only [not_or, not_not, Bool.not_eq_false] at hsig
        simp only [true_iff]
        exact ⟨h.1, h.2, hvalid.1, huntil, hsig.1, hsig.2⟩

/-- A canonical form is the transcript of a valid receipt. -/
theorem canonicalReceiptV1_eq_some (h : canonicalReceiptV1 receipt = some bytes) :
    ∃ accepted completed, receipt.acceptedAt = some accepted ∧
      receipt.completedAt = some completed ∧ validReceipt receipt accepted completed = true ∧
      bytes = transcript receipt accepted completed := by
  unfold canonicalReceiptV1 at h
  split at h
  · rename_i accepted completed ha hc
    split at h
    · rename_i hvalid
      exact ⟨accepted, completed, ha, hc, hvalid.1, (Option.some.inj h).symm⟩
    · cases h
  · cases h

/-- **A result is verified exactly when a key of the node signed the receipt and its claims are
those of the envelope and the result.** -/
theorem verifyResult_verified_iff :
    (verifyResult P L lookup nodeId envelope result).status = .verified ↔
      ∃ p r bytes t k, Verified P L lookup nodeId envelope result p r bytes t k := by
  constructor
  · intro h
    unfold verifyResult at h
    split at h
    · cases h
    rename_i hneeded
    simp only [not_or, Bool.not_eq_false] at hneeded
    split at h
    · cases h
    rename_i p hp
    split at h
    · cases h
    rename_i encoded hencoded
    split at h
    · cases h
    rename_i hsize
    simp only [not_or, Nat.not_lt] at hsize
    split at h
    · cases h
    rename_i r hr
    split at h
    · cases h
    rename_i hversion
    simp only [not_or, not_not] at hversion
    split at h
    · rename_i bytes t hbytes ht
      dsimp only at h
      split at h
      · rename_i hclaims
        obtain ⟨k, hk, hactive, hlength, hfrom, huntil, hsl, hs⟩ :=
          (verifySignature_verified_iff rfl).1 h
        exact ⟨p, r, bytes, t, k, hneeded.1, hneeded.2, hp,
          ⟨encoded, hencoded, hsize.1, hsize.2⟩, hversion.1, hr, hbytes, ht, hclaims,
          hk, hactive, hlength, hfrom, huntil, hsl, hs⟩
      · cases h
    · cases h
  · rintro ⟨p, r, bytes, t, k, h⟩
    obtain ⟨encoded, hencoded, hne, hle⟩ := h.marshal
    have hreceipt : r.receiptVersion = privdReceiptVersionV1 := by
      obtain ⟨_, _, -, -, hvalid, -⟩ := canonicalReceiptV1_eq_some h.canonical
      simp only [validReceipt, Bool.and_eq_true, beq_iff_eq, and_assoc] at hvalid
      exact hvalid.1
    unfold verifyResult
    rw [if_neg (by simp [h.kind, h.required]), h.proof]
    simp only [hencoded]
    rw [if_neg (by omega), h.receipt]
    simp only
    rw [if_neg (by simp [h.version, hreceipt]), h.canonical, h.completed]
    simp only
    rw [if_pos h.claims]
    exact (verifySignature_verified_iff rfl).2 ⟨k, h.key, h.active, h.publicKey, h.activated,
      h.valid, h.signatureLength, h.signature⟩

/-! ## The receipts of privd -/

/-- Go and Rust write the named values alike. -/
theorem enumBytes_of_nonneg {value : Int32} (h : 0 ≤ value.toInt) :
    enumBytes value = be 4 value.toInt.toNat :=
  congrArg (be 4) (toNat_eq_of_toInt_nonneg h)

/-- Go and Rust write valid timestamps alike. -/
theorem timestampBytes_of_valid {value : Timestamp} (h : Attestation.validTimestamp value = true) :
    timestampBytes value = Attestation.timestampBytes value := by
  simp only [Attestation.validTimestamp, Bool.and_eq_true, decide_eq_true_eq] at h
  have hseconds : be 8 value.seconds.toUInt64.toNat = beInt 8 value.seconds.toInt := by
    have hlt : value.seconds.toInt < 2 ^ 63 := value.seconds.toInt_lt
    rw [beInt, Int.emod_eq_of_lt h.1.1 (by omega)]
    exact congrArg (be 8) (toNat_eq_of_toInt_nonneg h.1.1)
  have hnanos : value.nanos.toUInt32.toNat = value.nanos.toInt.toNat :=
    toNat_eq_of_toInt_nonneg h.1.2
  rw [timestampBytes, Attestation.timestampBytes, hseconds, hnanos]

theorem framed_eq : framed = Attestation.framed := rfl

/-- Go and Rust write certificate bindings alike. -/
theorem certificateBytes_eq : certificateBytes = Attestation.certificateBytes := by
  funext certificate
  cases certificate <;> rfl

/-- The Controller rebuilds the transcript that privd signs. -/
theorem transcript_of_valid (hv : Attestation.ValidReceipt receipt accepted completed) :
    transcript receipt accepted completed =
      Attestation.receiptTranscript receipt accepted completed := by
  obtain ⟨hversion, hsemantic, hcommand, hresult, hstate⟩ := hv.kinds_nonneg
  unfold transcript receiptTranscript receiptDomain
  simp only [enumBytes_of_nonneg hversion,
    enumBytes_of_nonneg hsemantic, enumBytes_of_nonneg hcommand, enumBytes_of_nonneg hresult,
    enumBytes_of_nonneg hstate, timestampBytes_of_valid hv.acceptedValid,
    timestampBytes_of_valid hv.completedValid, framed_eq, certificateBytes_eq]

/-- Go asks for the version only. -/
theorem validUUIDv7_of_uuidV7 (h : Attestation.uuidV7 value = true) : validUUIDv7 value = true := by
  simp only [uuidV7, Bool.and_eq_true] at h
  simp [validUUIDv7, h.1.1, h.1.2]

/-- Key ids that privd accepts the Controller accepts. -/
theorem validKeyID_of_validKeyId (h : Attestation.validKeyId value = true) :
    validKeyID value = true := by
  simp only [validKeyId, validKeyID, Bool.and_eq_true, List.all_eq_true] at h ⊢
  refine ⟨h.1, fun b hb => ?_⟩
  have hd := h.2 b hb
  simp only [isAsciiHexdigit, isAsciiUppercase, Bool.or_eq_true, Bool.and_eq_true,
    Bool.not_eq_true', Bool.and_eq_false_iff, decide_eq_true_eq, decide_eq_false_iff_not,
    UInt8.le_iff_toNat_le] at hd ⊢
  grind

/-- A binding that privd accepts is accepted by the Controller. -/
theorem validCertificate_of_valid
    (h : Attestation.validCertificateBinding command result certificate = true) :
    validCertificate command.toInt32 result.toInt32 certificate = true := by
  have hkind : certificateKind command.toInt32 = certificateCommand command := by
    cases command <;> decide
  have hcsr : result.toInt32 = PrivilegedResultKind.certificateCsr.toInt32 ↔
      result = .certificateCsr := by
    cases result <;> decide
  cases certificate with
  | none => rwa [validCertificate, hkind]
  | some binding =>
    simp only [validCertificateBinding, Bool.and_eq_true] at h
    simp only [validCertificate, hkind, hcsr, Bool.and_eq_true]
    exact ⟨⟨⟨⟨h.1.1.1.1, validUUIDv7_of_uuidV7 h.1.1.1.2⟩, h.1.1.2⟩, h.1.2⟩, h.2⟩

/-- Go bounds the year besides. -/
theorem validTimestamp_iff (h : Attestation.validTimestamp value = true) :
    validTimestamp value = true ↔ value.seconds.toInt ≤ 253402300799 := by
  simp only [Attestation.validTimestamp, Bool.and_eq_true, decide_eq_true_eq] at h
  simp only [validTimestamp, Timestamp.isValid, Bool.and_eq_true, decide_eq_true_eq]
  omega

theorem toInt32_ne_zero {kind : PrivilegedCommandKind} (h : kind ≠ .unspecified) :
    kind.toInt32 ≠ 0 := by
  cases kind with
  | unspecified => exact absurd rfl h
  | _ => decide

theorem resultKind_toInt32_ne_zero {kind : PrivilegedResultKind} (h : kind ≠ .unspecified) :
    kind.toInt32 ≠ 0 := by
  cases kind with
  | unspecified => exact absurd rfl h
  | _ => decide

/-- A receipt of privd is valid for the Controller when its sequence and completion are in Go's
range. -/
theorem validReceipt_iff (hv : Attestation.ValidReceipt receipt accepted completed) :
    validReceipt receipt accepted completed = true ↔
      receipt.effectSequence.toNat < 2 ^ 63 ∧ completed.seconds.toInt ≤ 253402300799 := by
  obtain ⟨command, result, hcommand, hresult, hcne, hrne, hcert⟩ := hv.kinds
  have hck : receipt.commandKind = command.toInt32 :=
    eq_of_find hcommand
  have hrk : receipt.resultKind = result.toInt32 :=
    eq_of_find hresult
  have hversion : receipt.semanticPayloadHashVersion = v1.toInt32 ∨
      receipt.semanticPayloadHashVersion = v2.toInt32 :=
    hv.semantic.imp eq_of_tryFrom
      eq_of_tryFrom
  have hstate : receipt.terminalState = CommandResultState.succeeded.toInt32 ∨
      receipt.terminalState = CommandResultState.failed.toInt32 :=
    hv.state.imp (fun h => eq_of_find h) (fun h => eq_of_find h)
  have hav := hv.acceptedValid
  have hcv := hv.completedValid
  simp only [Attestation.validTimestamp, Bool.and_eq_true, decide_eq_true_eq] at hav hcv
  have hordered := (Timestamp.asTime_le_iff ⟨hav.1.2, hav.2⟩ ⟨hcv.1.2, hcv.2⟩).2 hv.ordered
  have hseconds : accepted.seconds.toInt ≤ completed.seconds.toInt := by
    have h := hv.ordered
    simp only [timestampAfter, Bool.or_eq_false_iff, decide_eq_false_iff_not] at h
    omega
  simp only [validReceipt, Bool.and_eq_true, beq_iff_eq, bne_iff_ne, decide_eq_true_eq,
    Bool.or_eq_true, validTimestamp_iff hv.acceptedValid, validTimestamp_iff hv.completedValid,
    and_assoc]
  constructor
  · rintro ⟨-, -, -, -, -, -, -, -, -, -, -, -, hseq, -, hcompleted, -⟩
    exact ⟨hseq, hcompleted⟩
  · rintro ⟨hseq, hcompleted⟩
    refine ⟨hv.version, validUUIDv7_of_uuidV7 hv.nodeId, validUUIDv7_of_uuidV7 hv.commandId,
      validUUIDv7_of_uuidV7 hv.operationId, validUUIDv7_of_uuidV7 hv.idempotencyKey,
      validKeyID_of_validKeyId hv.keyId, hv.payloadHash, hv.resultHash, hv.errorHash,
      hv.effectRecordId.1, hv.effectRecordId.2, hv.effectSequence, hseq, by omega, hcompleted,
      hordered, hversion, ?_, ?_, hstate, ?_⟩
    · rw [hck]; exact toInt32_ne_zero hcne
    · rw [hrk]; exact resultKind_toInt32_ne_zero hrne
    · rw [hck, hrk]; exact validCertificate_of_valid hcert

/-- **The Controller rebuilds the bytes that privd signs**, unless sequence or completion are out of
range. -/
theorem canonicalReceiptV1_of_valid (hv : Attestation.ValidReceipt receipt accepted completed)
    (hseq : receipt.effectSequence.toNat < 2 ^ 63)
    (hcompleted : completed.seconds.toInt ≤ 253402300799) :
    canonicalReceiptV1 receipt =
      some (Attestation.receiptTranscript receipt accepted completed) := by
  have hlength := length_receiptTranscript hv
  have hvalid := (validReceipt_iff hv).2 ⟨hseq, hcompleted⟩
  unfold canonicalReceiptV1
  rw [hv.acceptedAt, hv.completedAt]
  simp only
  rw [transcript_of_valid hv, if_pos ⟨hvalid, hlength⟩]

/-- Lower-case names are written as they are. -/
theorem appendNames_of_encodable (hL : L.KeepsLowercase)
    (h : ∀ name ∈ names, Attestation.EncodableName name) (output : Bytes) :
    appendNames L output names =
      some (output ++ names.flatMap fun name => Attestation.framed (utf8 name)) := by
  induction names generalizing output with
  | nil => simp [appendNames]
  | cons name names ih =>
    obtain ⟨⟨hne, hsize, hascii⟩, hlower⟩ := h name (by simp)
    have hnames : ∀ n ∈ names, Attestation.EncodableName n := fun n hn => h n (by simp [hn])
    rw [appendNames, if_pos ⟨hne, by omega, (hL name hascii hlower).symm⟩, ih hnames, framed_eq,
      List.flatMap_cons, List.append_assoc]

/-- The Controller digests the subject that privd digests. -/
theorem requestedSubjectDigest_of_digestable (P : Platform) (hL : L.KeepsLowercase)
    (h : Attestation.Digestable request) :
    requestedSubjectDigest P L request =
      some (P.sha256 (Attestation.subjectTranscript request)) := by
  have hperm := sortTexts_perm request.dnsNames
  have hnames : ∀ name ∈ sortTexts request.dnsNames, Attestation.EncodableName name :=
    fun name hname => h.names name (hperm.mem_iff.1 hname)
  have hcn := h.commonName
  unfold requestedSubjectDigest subjectTranscript subjectDomain
  rw [if_pos ⟨validUUIDv7_of_uuidV7 h.certificateId, hcn.1, hcn.2.1.trans (by decide), h.keyBits.1,
    h.keyBits.2, h.count, (neighboursDiffer_sortTexts _).2 h.distinct⟩,
    appendNames_of_encodable hL hnames, hperm.length_eq, framed_eq]
  rfl

end Receipts

end Ocservia
