import Ocservia.Contract.Authorization

/-!
# Canonical result receipts

`privd-attestation/src/lib.rs`: privd signs a terminal outcome as a receipt whose transcript is
written by hand (`canonicalReceiptV1`). The encoder re-validates every field of the receipt under
its own rules (`validateReceipt`), after the effect it attests; a certificate request enters through
the digest of its requested subject (`requestedSubjectDigest`).

A receipt is encoded exactly when it is valid (`canonicalReceiptV1_ok_iff`): what the append
functions check again, and the limit on the size of a transcript, follow from validity.
-/

namespace Ocservia

open Wire Checked Except List

inductive ReceiptError where
  | missing | unsupportedVersion | malformed | signatureInvalid

/-- An attestation key of the node: its public half, and the signatures it makes. -/
structure SigningKey where
  verifyingKey : FixedBytes 32
  sign : Bytes → FixedBytes 64

namespace Attestation

def receiptDomain : Bytes := utf8 "ocservia/privd-result-receipt/v1\x00"

/-- The domain of the requested subject's transcript. -/
def subjectDomain : Bytes := utf8 "ocservia/certificate-requested-subject/v1\x00"

def keyIdPrefix : String := "ed25519-sha256:"

def maxCanonicalBytes : Nat := 2048

def keyId (P : Platform) (key : FixedBytes 32) : String :=
  keyIdPrefix ++ hexEncode (P.sha256 key.1).1

/-! ## Field checks -/

def uuidV7 (value : Bytes) : Bool :=
  value.length == 16 && uuidVersion value == 7 && uuidVariant value == 2

def validKeyId (value : String) : Bool :=
  value.utf8ByteSize == keyIdPrefix.utf8ByteSize + 64 &&
    (utf8 keyIdPrefix).isPrefixOf (utf8 value) &&
    ((utf8 value).drop keyIdPrefix.utf8ByteSize).all
      fun b => isAsciiHexdigit b && !isAsciiUppercase b

def validTimestamp (value : Timestamp) : Bool :=
  0 ≤ value.seconds.toInt && 0 ≤ value.nanos.toInt && value.nanos.toInt < 1000000000

/-- The comparison of two timestamps as pairs of seconds and nanoseconds. -/
def timestampAfter (a b : Timestamp) : Bool :=
  b.seconds.toInt < a.seconds.toInt ||
    (a.seconds == b.seconds && b.nanos.toInt < a.nanos.toInt)

/-- The commands whose receipts are bound to a certificate. -/
def certificateCommand : PrivilegedCommandKind → Bool
  | .certificateCsr | .certificateP12 | .certificateRevoke => true
  | _ => false

def validCertificateBinding (command : PrivilegedCommandKind) (result : PrivilegedResultKind) :
    Option PrivdCertificateReceiptBindingV1 → Bool
  | none => !certificateCommand command
  | some binding =>
    certificateCommand command && uuidV7 binding.certificateId &&
      16 ≤ binding.rootEffectRecordId.length && binding.rootEffectRecordId.length ≤ 32 &&
      if result = .certificateCsr then
        binding.csrDerSha256.length == 32 && binding.publicKeySha256.length == 32 &&
          binding.requestedSubjectSha256.length == 32
      else
        binding.csrDerSha256.isEmpty && binding.publicKeySha256.isEmpty &&
          binding.requestedSubjectSha256.isEmpty

def validateReceipt (receipt : PrivdResultReceiptV1) : Except ReceiptError Unit := do
  let semantic := (SemanticPayloadHashVersion.tryFrom receipt.semanticPayloadHashVersion).getD
    .unspecified
  let command := (PrivilegedCommandKind.tryFrom receipt.commandKind).getD .unspecified
  let result := (PrivilegedResultKind.tryFrom receipt.resultKind).getD .unspecified
  let state := (CommandResultState.tryFrom receipt.terminalState).getD .unspecified
  let accepted ← Checked.get receipt.acceptedAt .malformed
  let completed ← Checked.get receipt.completedAt .malformed
  Checked.require
    (receipt.receiptVersion == privdReceiptVersionV1 && uuidV7 receipt.nodeId &&
      uuidV7 receipt.commandId && uuidV7 receipt.operationId && uuidV7 receipt.idempotencyKey &&
      validKeyId receipt.privdAttestationKeyId && (semantic == .v1 || semantic == .v2) &&
      command != .unspecified && result != .unspecified &&
      (state == .succeeded || state == .failed) && receipt.semanticPayloadSha256.length == 32 &&
      receipt.resultBytesSha256.length == 32 && receipt.errorCodeSha256.length == 32 &&
      16 ≤ receipt.effectRecordId.length && receipt.effectRecordId.length ≤ 32 &&
      receipt.effectSequence != 0 && validTimestamp accepted && validTimestamp completed &&
      !timestampAfter accepted completed &&
      validCertificateBinding command result receipt.certificate)
    .malformed

/-! ## The transcript -/

def appendBytes (output value : Bytes) : Except ReceiptError Bytes := do
  let encoded ← Checked.get (lengthPrefixed value) .malformed
  return output ++ encoded

def appendString (output : Bytes) (value : String) : Except ReceiptError Bytes := do
  Checked.require (value.utf8ByteSize != 0 && value.utf8ByteSize ≤ 128 && isAscii value) .malformed
  appendBytes output (utf8 value)

/-- An enumeration number, converted with `u32::try_from`. -/
def appendKind (output : Bytes) (value : Int32) : Except ReceiptError Bytes := do
  Checked.require (0 ≤ value.toInt) .malformed
  return output ++ be 4 value.toInt.toNat

def appendTimestamp (output : Bytes) (value : Timestamp) : Except ReceiptError Bytes := do
  Checked.require (validTimestamp value) .malformed
  return output ++ beInt 8 value.seconds.toInt ++ be 4 value.nanos.toInt.toNat

def appendCertificate (output : Bytes) :
    Option PrivdCertificateReceiptBindingV1 → Except ReceiptError Bytes
  | none => .ok (output ++ [0])
  | some binding => do
    let out ← appendBytes (output ++ [1]) binding.certificateId
    let out ← appendBytes out binding.csrDerSha256
    let out ← appendBytes out binding.publicKeySha256
    let out ← appendBytes out binding.requestedSubjectSha256
    appendBytes out binding.rootEffectRecordId

def canonicalReceiptV1 (receipt : PrivdResultReceiptV1) : Except ReceiptError Bytes := do
  validateReceipt receipt
  let accepted ← Checked.get receipt.acceptedAt .malformed
  let completed ← Checked.get receipt.completedAt .malformed
  let out ← appendKind receiptDomain receipt.receiptVersion
  let out ← appendBytes out receipt.nodeId
  let out ← appendString out receipt.privdAttestationKeyId
  let out ← appendBytes out receipt.commandId
  let out ← appendBytes out receipt.operationId
  let out ← appendBytes out receipt.idempotencyKey
  let out ← appendKind out receipt.semanticPayloadHashVersion
  let out ← appendBytes out receipt.semanticPayloadSha256
  let out ← appendKind out receipt.commandKind
  let out ← appendKind out receipt.resultKind
  let out ← appendKind out receipt.terminalState
  let out ← appendBytes out receipt.resultBytesSha256
  let out ← appendBytes out receipt.errorCodeSha256
  let out ← appendBytes out receipt.effectRecordId
  let out ← appendTimestamp (out ++ be 8 receipt.effectSequence.toNat) accepted
  let out ← appendTimestamp out completed
  let out ← appendCertificate (out ++ [if receipt.replayed then 1 else 0]) receipt.certificate
  Checked.require (out.length ≤ maxCanonicalBytes) .malformed
  return out

def signReceipt (P : Platform) (receipt : PrivdResultReceiptV1) (key : SigningKey) :
    Except ReceiptError PrivilegedResultProof := do
  let canonical ← canonicalReceiptV1 receipt
  Checked.require (receipt.privdAttestationKeyId == keyId P key.verifyingKey) .malformed
  return ⟨privdReceiptVersionV1, some receipt, (key.sign canonical).1⟩

/-! ## The requested subject -/

/-- `str::to_ascii_lowercase`, on the bytes of a text. -/
def toAsciiLowercase (value : Bytes) : Bytes :=
  value.map fun b => if isAsciiUppercase b then b + 32 else b

/-- The names of `requested_subject_digest`, each checked and appended. -/
def appendNames (output : Bytes) : List String → Except ReceiptError Bytes
  | [] => .ok output
  | name :: names => do
    Checked.require
      (name.utf8ByteSize != 0 && name.utf8ByteSize ≤ 253 &&
        utf8 name == toAsciiLowercase (utf8 name))
      .malformed
    appendNames (← appendString output name) names

def requestedSubjectDigest (P : Platform) (request : CertificateCsr) :
    Except ReceiptError (FixedBytes 32) := do
  Checked.require
    (uuidV7 request.certificateId && request.commonName.utf8ByteSize != 0 &&
      request.commonName.utf8ByteSize ≤ 253 && 2048 ≤ request.keyBits && request.keyBits ≤ 8192 &&
      request.dnsNames.length ≤ 64)
    .malformed
  let names := sortTexts request.dnsNames
  Checked.require (neighboursDiffer names) .malformed
  let out ← appendBytes subjectDomain request.certificateId
  let out ← appendString out request.commonName
  let out ← appendNames (out ++ be 4 request.keyBits.toNat ++ be 4 names.length) names
  return P.sha256 out

/-! ## What the encoder accepts -/

/-- A byte string behind its length. -/
def framed (value : Bytes) : Bytes := be 4 value.length ++ value

def timestampBytes (value : Timestamp) : Bytes :=
  beInt 8 value.seconds.toInt ++ be 4 value.nanos.toInt.toNat

/-- The bytes of a certificate binding, or of its absence. -/
def certificateBytes : Option PrivdCertificateReceiptBindingV1 → Bytes
  | none => [0]
  | some binding =>
    [1] ++ framed binding.certificateId ++ framed binding.csrDerSha256 ++
      framed binding.publicKeySha256 ++ framed binding.requestedSubjectSha256 ++
      framed binding.rootEffectRecordId

/-- The transcript of a receipt with its two times. -/
def receiptTranscript (receipt : PrivdResultReceiptV1) (accepted completed : Timestamp) : Bytes :=
  receiptDomain ++ be 4 receipt.receiptVersion.toInt.toNat ++ framed receipt.nodeId ++
    framed (utf8 receipt.privdAttestationKeyId) ++ framed receipt.commandId ++
    framed receipt.operationId ++ framed receipt.idempotencyKey ++
    be 4 receipt.semanticPayloadHashVersion.toInt.toNat ++ framed receipt.semanticPayloadSha256 ++
    be 4 receipt.commandKind.toInt.toNat ++ be 4 receipt.resultKind.toInt.toNat ++
    be 4 receipt.terminalState.toInt.toNat ++ framed receipt.resultBytesSha256 ++
    framed receipt.errorCodeSha256 ++ framed receipt.effectRecordId ++
    be 8 receipt.effectSequence.toNat ++ timestampBytes accepted ++ timestampBytes completed ++
    [if receipt.replayed then 1 else 0] ++ certificateBytes receipt.certificate

/-- What `validate_receipt` establishes. -/
structure ValidReceipt (receipt : PrivdResultReceiptV1) (accepted completed : Timestamp) :
    Prop where
  acceptedAt : receipt.acceptedAt = some accepted
  completedAt : receipt.completedAt = some completed
  version : receipt.receiptVersion = privdReceiptVersionV1
  nodeId : uuidV7 receipt.nodeId = true
  commandId : uuidV7 receipt.commandId = true
  operationId : uuidV7 receipt.operationId = true
  idempotencyKey : uuidV7 receipt.idempotencyKey = true
  keyId : validKeyId receipt.privdAttestationKeyId = true
  semantic : SemanticPayloadHashVersion.tryFrom receipt.semanticPayloadHashVersion = some .v1 ∨
    SemanticPayloadHashVersion.tryFrom receipt.semanticPayloadHashVersion = some .v2
  state : CommandResultState.tryFrom receipt.terminalState = some .succeeded ∨
    CommandResultState.tryFrom receipt.terminalState = some .failed
  payloadHash : receipt.semanticPayloadSha256.length = 32
  resultHash : receipt.resultBytesSha256.length = 32
  errorHash : receipt.errorCodeSha256.length = 32
  effectRecordId : 16 ≤ receipt.effectRecordId.length ∧ receipt.effectRecordId.length ≤ 32
  effectSequence : receipt.effectSequence ≠ 0
  acceptedValid : validTimestamp accepted = true
  completedValid : validTimestamp completed = true
  ordered : timestampAfter accepted completed = false
  kinds : ∃ command result, PrivilegedCommandKind.tryFrom receipt.commandKind = some command ∧
    PrivilegedResultKind.tryFrom receipt.resultKind = some result ∧ command ≠ .unspecified ∧
    result ≠ .unspecified ∧ validCertificateBinding command result receipt.certificate = true

variable {output out : Bytes}

variable {toInt32 : α → Int32} {kinds : List α}

theorem getD_eq_iff (h : d ≠ a) : x.getD d = a ↔ x = some a := by
  cases x <;> simp [h]

theorem getD_ne_iff : x.getD d ≠ d ↔ ∃ a, x = some a ∧ a ≠ d := by
  cases x <;> simp

/-- **The checks of `validate_receipt` are `ValidReceipt`.** -/
theorem validateReceipt_ok_iff :
    validateReceipt receipt = .ok u ↔
      ∃ accepted completed, ValidReceipt receipt accepted completed := by
  unfold validateReceipt
  simp only [bind_eq_ok, get_eq_ok, require_eq_ok, Bool.and_eq_true,
    beq_iff_eq, decide_eq_true_eq, Bool.or_eq_true, bne_iff_ne, Bool.not_eq_true', and_assoc]
  constructor
  · rintro ⟨accepted, ha, completed, hc, hver, hnode, hcmd, hop, hidem, hkey, hsem, hck, hrk, hst,
      hph, hrh, heh, hr16, hr32, hseq, hav, hcv, hord, hcert⟩
    obtain ⟨command, hcommand, hcne⟩ := getD_ne_iff.1 hck
    obtain ⟨result, hresult, hrne⟩ := getD_ne_iff.1 hrk
    rw [hcommand, hresult] at hcert
    exact ⟨accepted, completed, {
      acceptedAt := ha, completedAt := hc, version := hver, nodeId := hnode, commandId := hcmd
      operationId := hop, idempotencyKey := hidem, keyId := hkey
      semantic := hsem.imp (getD_eq_iff (by decide)).1 (getD_eq_iff (by decide)).1
      state := hst.imp (getD_eq_iff (by decide)).1 (getD_eq_iff (by decide)).1
      payloadHash := hph, resultHash := hrh, errorHash := heh, effectRecordId := ⟨hr16, hr32⟩
      effectSequence := hseq, acceptedValid := hav, completedValid := hcv, ordered := hord
      kinds := ⟨command, result, hcommand, hresult, hcne, hrne, hcert⟩ }⟩
  · rintro ⟨accepted, completed, h⟩
    obtain ⟨command, result, hcommand, hresult, hcne, hrne, hcert⟩ := h.kinds
    refine ⟨accepted, h.acceptedAt, completed, h.completedAt, ?_⟩
    rw [hcommand, hresult]
    have hsem := h.semantic.imp (getD_eq_iff (d := .unspecified) (by decide)).2
      (getD_eq_iff (d := .unspecified) (by decide)).2
    have hst := h.state.imp (getD_eq_iff (d := .unspecified) (by decide)).2
      (getD_eq_iff (d := .unspecified) (by decide)).2
    exact ⟨h.version, h.nodeId, h.commandId, h.operationId, h.idempotencyKey, h.keyId, hsem, hcne,
      hrne, hst, h.payloadHash, h.resultHash, h.errorHash, h.effectRecordId.1, h.effectRecordId.2,
      h.effectSequence, h.acceptedValid, h.completedValid, h.ordered, hcert⟩

/-- A byte string that fits is appended behind its length. -/
theorem appendBytes_of_lt (h : value.length < 2 ^ 32) :
    appendBytes output value = .ok (output ++ framed value) := by
  rw [appendBytes, lengthPrefixed_of_lt h]
  rfl

/-- A text that `append_string` accepts. -/
def EncodableText (value : String) : Prop :=
  value.utf8ByteSize ≠ 0 ∧ value.utf8ByteSize ≤ 128 ∧ isAscii value = true

/-- A text is appended when it is encodable. -/
theorem appendString_ok_iff :
    appendString output value = .ok out ↔
      EncodableText value ∧ out = output ++ framed (utf8 value) := by
  have happend : value.utf8ByteSize ≤ 128 →
      appendBytes output (utf8 value) = .ok (output ++ framed (utf8 value)) :=
    fun h => appendBytes_of_lt (lt_of_le_of_lt (length_utf8 value ▸ h) (by decide))
  simp only [appendString, bind_eq_ok, require_eq_ok, Bool.and_eq_true,
    bne_iff_ne, decide_eq_true_eq, EncodableText]
  constructor
  · rintro ⟨-, ⟨⟨h0, h⟩, hascii⟩, hout⟩
    rw [happend h] at hout
    exact ⟨⟨h0, h, hascii⟩, (ok.inj hout).symm⟩
  · rintro ⟨⟨h0, h, hascii⟩, rfl⟩
    exact ⟨(), ⟨⟨h0, h⟩, hascii⟩, happend h⟩

/-- An enumeration is appended when it is not negative. -/
theorem appendKind_of_nonneg (h : 0 ≤ value.toInt) :
    appendKind output value = .ok (output ++ be 4 value.toInt.toNat) := by
  rw [appendKind, require_of (decide_eq_true h)]
  rfl

/-- A valid timestamp is appended. -/
theorem appendTimestamp_of_valid (h : validTimestamp value = true) :
    appendTimestamp output value = .ok (output ++ timestampBytes value) := by
  rw [appendTimestamp, require_of h, timestampBytes, ← append_assoc]
  rfl

theorem length_of_uuidV7 (h : uuidV7 value = true) : value.length = 16 := by
  simp only [uuidV7, Bool.and_eq_true, beq_iff_eq] at h
  exact h.1.1

/-- A binding that the receipt's checks accept has short fields. -/
theorem appendCertificate_of_valid (h : validCertificateBinding command result certificate = true) :
    appendCertificate output certificate = .ok (output ++ certificateBytes certificate) ∧
      (certificateBytes certificate).length ≤ 165 := by
  cases certificate with
  | none => exact ⟨rfl, by simp [certificateBytes]⟩
  | some binding =>
    simp only [validCertificateBinding, Bool.and_eq_true, decide_eq_true_eq] at h
    obtain ⟨⟨⟨⟨-, hid⟩, -⟩, hroot⟩, hdigests⟩ := h
    have hid := length_of_uuidV7 hid
    have hsizes : binding.csrDerSha256.length ≤ 32 ∧ binding.publicKeySha256.length ≤ 32 ∧
        binding.requestedSubjectSha256.length ≤ 32 := by
      split at hdigests
      · simp only [Bool.and_eq_true, beq_iff_eq] at hdigests
        omega
      · simp only [Bool.and_eq_true, List.isEmpty_iff] at hdigests
        simp [hdigests.1.1, hdigests.1.2, hdigests.2]
    obtain ⟨hcsr, hpub, hsub⟩ := hsizes
    refine ⟨?_, ?_⟩
    · simp only [appendCertificate]
      rw [appendBytes_of_lt (by omega)]
      show (appendBytes _ _ >>= _) = _
      rw [appendBytes_of_lt (by omega)]
      show (appendBytes _ _ >>= _) = _
      rw [appendBytes_of_lt (by omega)]
      show (appendBytes _ _ >>= _) = _
      rw [appendBytes_of_lt (by omega)]
      show appendBytes _ _ = _
      rw [appendBytes_of_lt (by omega)]
      simp [certificateBytes]
    · simp only [certificateBytes, framed, length_append, length_be, length_singleton]
      omega

theorem lt_of_isAsciiHexdigit (h : isAsciiHexdigit b = true) : b < 128 := by
  simp only [isAsciiHexdigit, isAsciiDigit, Bool.or_eq_true, Bool.and_eq_true, decide_eq_true_eq,
    UInt8.le_iff_toNat_le] at h
  rw [UInt8.lt_iff_toNat_lt]
  simp at h ⊢
  omega

/-- A key id has the length of its form and is ASCII. -/
theorem ascii_of_validKeyId (h : validKeyId value = true) :
    value.utf8ByteSize = 79 ∧ isAscii value = true := by
  simp only [validKeyId, Bool.and_eq_true, beq_iff_eq, isPrefixOf_iff_prefix] at h
  obtain ⟨⟨hlen, rest, hrest⟩, hdigits⟩ := h
  refine ⟨hlen, ?_⟩
  have hdrop : (utf8 value).drop keyIdPrefix.utf8ByteSize = rest := by
    rw [← hrest]
    exact drop_left
  rw [hdrop, all_eq_true] at hdigits
  rw [isAscii, ← hrest, all_append, Bool.and_eq_true]
  refine ⟨by decide, all_eq_true.2 fun b hb => ?_⟩
  have hb := hdigits b hb
  rw [Bool.and_eq_true] at hb
  exact decide_eq_true (lt_of_isAsciiHexdigit hb.1)

/-- The key id of a key is valid. -/
theorem validKeyId_keyId (P : Platform) (key : FixedBytes 32) :
    validKeyId (keyId P key) = true := by
  have hutf : utf8 (keyId P key) = utf8 keyIdPrefix ++ utf8 (hexEncode (P.sha256 key.1).1) :=
    utf8_append _ _
  have hlen : (keyId P key).utf8ByteSize = keyIdPrefix.utf8ByteSize + 64 := by
    rw [← length_utf8, hutf, length_append, length_utf8_hexEncode, (P.sha256 key.1).2]
    rfl
  have hdrop : (utf8 (keyId P key)).drop keyIdPrefix.utf8ByteSize =
      utf8 (hexEncode (P.sha256 key.1).1) := by
    rw [hutf]
    exact drop_left
  simp only [validKeyId, Bool.and_eq_true, beq_iff_eq, isPrefixOf_iff_prefix]
  refine ⟨⟨hlen, hutf ▸ prefix_append _ _⟩, ?_⟩
  rw [hdrop, all_eq_true]
  intro d hd
  obtain ⟨n, hn, rfl⟩ := mem_utf8_hexEncode hd
  clear hd
  revert n
  decide

/-- The wire number of an enumeration value is the number it was found by. -/
theorem eq_of_find (h : kinds.find? (fun a => toInt32 a = n) = some a) : n = toInt32 a :=
  have ha := find?_some h
  (of_decide_eq_true ha).symm

/-- The number of a named value is not negative. -/
theorem nonneg_of_find (hkinds : ∀ a ∈ kinds, 0 ≤ (toInt32 a).toInt)
    (h : kinds.find? (fun a => toInt32 a = n) = some a) : 0 ≤ n.toInt := by
  rw [eq_of_find h]
  exact hkinds a (mem_of_find?_eq_some h)

/-- The enumerations of a valid receipt can be appended. -/
theorem ValidReceipt.kinds_nonneg (h : ValidReceipt receipt accepted completed) :
    0 ≤ receipt.receiptVersion.toInt ∧ 0 ≤ receipt.semanticPayloadHashVersion.toInt ∧
      0 ≤ receipt.commandKind.toInt ∧ 0 ≤ receipt.resultKind.toInt ∧
      0 ≤ receipt.terminalState.toInt := by
  obtain ⟨command, result, hcommand, hresult, -⟩ := h.kinds
  refine ⟨by rw [h.version]; decide, ?_, ?_, ?_, ?_⟩
  · rcases h.semantic with hv | hv <;>
      (rw [SemanticPayloadHashVersion.eq_of_tryFrom hv]; decide)
  · exact nonneg_of_find (by decide) hcommand
  · exact nonneg_of_find (by decide) hresult
  · rcases h.state with hst | hst <;> exact nonneg_of_find (by decide) hst

theorem length_receiptDomain : receiptDomain.length = 33 := rfl

/-- A valid receipt has a transcript within the limit. -/
theorem length_receiptTranscript (hv : ValidReceipt receipt accepted completed) :
    (receiptTranscript receipt accepted completed).length ≤ maxCanonicalBytes := by
  obtain ⟨_, _, -, -, -, -, hbinding⟩ := hv.kinds
  have hcertificate := (@appendCertificate_of_valid [] _ _ _ hbinding).2
  have hkey := (ascii_of_validKeyId hv.keyId).1
  have hrecord := hv.effectRecordId
  unfold maxCanonicalBytes receiptTranscript
  simp only [framed, timestampBytes, beInt, length_append, length_be, length_utf8,
    length_singleton, length_receiptDomain, length_of_uuidV7 hv.nodeId,
    length_of_uuidV7 hv.commandId, length_of_uuidV7 hv.operationId,
    length_of_uuidV7 hv.idempotencyKey, hv.payloadHash, hv.resultHash, hv.errorHash, hkey]
  omega

/-- **A receipt is encoded exactly when it is valid**, and the encoding is its transcript. -/
theorem canonicalReceiptV1_ok_iff :
    canonicalReceiptV1 receipt = .ok out ↔ ∃ accepted completed,
      ValidReceipt receipt accepted completed ∧
        out = receiptTranscript receipt accepted completed := by
  have hvalid : ∀ accepted completed, ValidReceipt receipt accepted completed →
      canonicalReceiptV1 receipt = .ok (receiptTranscript receipt accepted completed) := by
    intro accepted completed hv
    obtain ⟨hversion, hsemantic, hcommand, hresult, hstate⟩ := hv.kinds_nonneg
    obtain ⟨_, _, -, -, -, -, hbinding⟩ := hv.kinds
    obtain ⟨hkey, hascii⟩ := ascii_of_validKeyId hv.keyId
    have hnode := length_of_uuidV7 hv.nodeId
    have hcmd := length_of_uuidV7 hv.commandId
    have hop := length_of_uuidV7 hv.operationId
    have hidem := length_of_uuidV7 hv.idempotencyKey
    have hphash := hv.payloadHash
    have hrhash := hv.resultHash
    have hehash := hv.errorHash
    have hrecord := hv.effectRecordId
    have hcheck : validateReceipt receipt = .ok () :=
      validateReceipt_ok_iff.2 ⟨accepted, completed, hv⟩
    rw [canonicalReceiptV1, hcheck, hv.acceptedAt, hv.completedAt]
    have hstring : ∀ output, appendString output receipt.privdAttestationKeyId =
        .ok (output ++ framed (utf8 receipt.privdAttestationKeyId)) :=
      fun output => appendString_ok_iff.2 ⟨⟨by omega, by omega, hascii⟩, rfl⟩
    simp (disch := omega) only [Checked.get, ok_bind, appendKind_of_nonneg,
      appendBytes_of_lt, hstring, appendTimestamp_of_valid hv.acceptedValid,
      appendTimestamp_of_valid hv.completedValid,
      (appendCertificate_of_valid hbinding).1]
    exact require_bind.2
      ⟨(decide_eq_true (length_receiptTranscript hv)), rfl⟩
  constructor
  · intro h
    obtain ⟨_, hcheck, -⟩ := bind_eq_ok.1 h
    obtain ⟨accepted, completed, hv⟩ := validateReceipt_ok_iff.1 hcheck
    exact ⟨accepted, completed, hv, ok.inj (h.symm.trans (hvalid _ _ hv))⟩
  · rintro ⟨accepted, completed, hv, hout⟩
    rw [hout]
    exact hvalid _ _ hv

/-! ## What has a subject digest -/

/-- A name that `requested_subject_digest` accepts: short, ASCII and in lower case. -/
def EncodableName (name : String) : Prop :=
  EncodableText name ∧ utf8 name = toAsciiLowercase (utf8 name)

/-- The requests that `requested_subject_digest` accepts. -/
structure Digestable (request : CertificateCsr) : Prop where
  certificateId : uuidV7 request.certificateId = true
  commonName : EncodableText request.commonName
  keyBits : 2048 ≤ request.keyBits ∧ request.keyBits ≤ 8192
  count : request.dnsNames.length ≤ 64
  distinct : request.dnsNames.Nodup
  names : ∀ name ∈ request.dnsNames, EncodableName name

/-- The transcript of a requested subject. -/
def subjectTranscript (request : CertificateCsr) : Bytes :=
  subjectDomain ++ framed request.certificateId ++ framed (utf8 request.commonName) ++
    be 4 request.keyBits.toNat ++ be 4 request.dnsNames.length ++
    (sortTexts request.dnsNames).flatMap fun name => framed (utf8 name)

/-- Names are appended when each is encodable. -/
theorem appendNames_ok_iff :
    appendNames output names = .ok out ↔
      (∀ name ∈ names, EncodableName name) ∧
        out = output ++ names.flatMap fun name => framed (utf8 name) := by
  induction names generalizing output with
  | nil => simp [appendNames, eq_comm]
  | cons name names ih =>
    simp only [appendNames, bind_eq_ok, require_eq_ok, appendString_ok_iff, ih,
      Bool.and_eq_true, bne_iff_ne, decide_eq_true_eq, beq_iff_eq, forall_mem_cons,
      flatMap_cons, EncodableName]
    constructor
    · rintro ⟨-, ⟨-, hlower⟩, _, ⟨htext, rfl⟩, hnames, rfl⟩
      exact ⟨⟨⟨htext, hlower⟩, hnames⟩, append_assoc ..⟩
    · rintro ⟨⟨⟨htext, hlower⟩, hnames⟩, rfl⟩
      have hlength : name.utf8ByteSize ≤ 253 := htext.2.1.trans (by decide)
      exact ⟨(), ⟨⟨htext.1, hlength⟩, hlower⟩, _, ⟨htext, rfl⟩, hnames,
        (append_assoc ..).symm⟩

/-- **A subject has a digest exactly when it is `Digestable`.** -/
theorem requestedSubjectDigest_ok_iff (P : Platform) :
    requestedSubjectDigest P request = .ok digest ↔
      Digestable request ∧ digest = P.sha256 (subjectTranscript request) := by
  have hsorted := fun name => (sortTexts_perm request.dnsNames).mem_iff (a := name)
  have hcount := (sortTexts_perm request.dnsNames).length_eq
  simp only [requestedSubjectDigest, bind_eq_ok, require_eq_ok,
    appendString_ok_iff, appendNames_ok_iff, neighboursDiffer_sortTexts, hsorted, hcount,
    Bool.and_eq_true, decide_eq_true_eq, bne_iff_ne, and_assoc]
  constructor
  · rintro ⟨-, hid, -, -, hlow, hhigh, hle, -, hnodup, out, hout, _, htext, rfl, _, hnames, rfl,
      hdigest⟩
    have hsize := length_of_uuidV7 hid
    rw [appendBytes_of_lt (by omega)] at hout
    cases hout
    exact ⟨⟨hid, htext, ⟨hlow, hhigh⟩, hle, hnodup, hnames⟩, (ok.inj hdigest).symm⟩
  · rintro ⟨h, rfl⟩
    have hsize := length_of_uuidV7 h.certificateId
    have hcn : request.commonName.utf8ByteSize ≤ 253 := h.commonName.2.1.trans (by decide)
    exact ⟨(), h.certificateId, h.commonName.1, hcn, h.keyBits.1, h.keyBits.2, h.count, (),
      h.distinct, _, appendBytes_of_lt (by omega), _, h.commonName, rfl, _, h.names, rfl, rfl⟩

/-! ## Signing -/

/-- What `sign_receipt` signs is the transcript of a valid receipt of its own key. -/
theorem signReceipt_ok_iff (P : Platform) :
    signReceipt P receipt key = .ok proof ↔ ∃ accepted completed,
      ValidReceipt receipt accepted completed ∧
        receipt.privdAttestationKeyId = keyId P key.verifyingKey ∧
        proof = ⟨privdReceiptVersionV1, some receipt,
          (key.sign (receiptTranscript receipt accepted completed)).1⟩ := by
  simp only [signReceipt, bind_eq_ok, canonicalReceiptV1_ok_iff, require_eq_ok,
    beq_iff_eq]
  constructor
  · rintro ⟨canonical, ⟨accepted, completed, hv, hcanonical⟩, -, hkey, hproof⟩
    rw [hcanonical] at hproof
    exact ⟨accepted, completed, hv, hkey, (ok.inj hproof).symm⟩
  · rintro ⟨accepted, completed, hv, hkey, hproof⟩
    exact ⟨_, ⟨accepted, completed, hv, rfl⟩, (), hkey, congrArg ok hproof.symm⟩

end Attestation

end Ocservia
