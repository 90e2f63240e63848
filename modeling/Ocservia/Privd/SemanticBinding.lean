import Ocservia.Contract.ProfileTranscript
import Ocservia.Privd.Validate

/-!
# What a semantic hash binds

`canonical_semantic_payload_hash` writes each payload kind in its own way. For every kind but
certificate packaging the canonical bytes of version 2 determine the payload
(`semanticPayload_binds`): fields are of fixed width, or stand behind their length, or are lists
that end a fixed number of bytes before the end of the payload. Two kinds name the digest of a
candidate in its place, and the bytes bind the candidate only as far as the digest was checked,
which `validate_candidate` of privd does (`candidateBound_of_checked`).

A `CertificateP12` has its chain and its sealed password side by side, without a length between
them: `certificateP12_binds_iff` says when the bytes determine the parts.
-/

namespace Ocservia

open Wire Wire.Format Checked List

/-! ## Fields -/

variable {values values' : List String} {secret secret' : SealedSecretV1}
  {purpose : SealedSecretPurpose}

/-- The checked appends as formats, one lemma for each. -/
theorem appendSemanticBytes_bind_eq_ok {value : Bytes} {f : Bytes → Except AuthorizationError α}
    {a : α} :
    (appendSemanticBytes target value >>= f) = .ok a ↔
      bytes.Fits value ∧ f (target ++ bytes.encode value) = .ok a := by
  unfold appendSemanticBytes
  constructor
  · intro h
    obtain ⟨out, hout, h⟩ := bind_eq_ok.1 h
    obtain ⟨encoded, hencoded, hout⟩ := bind_eq_ok.1 hout
    obtain ⟨hfits, rfl⟩ := lengthPrefixed_eq_some.1 (get_eq_ok.1 hencoded)
    cases hout
    exact ⟨hfits, h⟩
  · rintro ⟨hfits, h⟩
    have hencoded := lengthPrefixed_eq_some.2 ⟨hfits, rfl⟩
    exact bind_eq_ok.2
      ⟨_, get_bind.2 ⟨_, hencoded, rfl⟩, h⟩

theorem appendSemanticBytes_eq_ok {value out : Bytes} :
    appendSemanticBytes target value = .ok out ↔
      bytes.Fits value ∧ out = target ++ bytes.encode value := by
  have h := @appendSemanticBytes_bind_eq_ok _ target value pure out
  rw [bind_pure] at h
  rw [h]
  exact and_congr_right fun _ => ⟨fun h => (Except.ok.inj h).symm, fun h => h ▸ rfl⟩

theorem appendStrings_bind_eq_ok :
    (appendStrings target values >>= f) = .ok a ↔
      (∀ value ∈ values, text.Fits value) ∧
        f (target ++ values.flatMap text.encode) = .ok a := by
  induction values generalizing target with
  | nil =>
    simp only [appendStrings, Except.ok_bind]
    simp
  | cons value values ih =>
    rw [appendStrings, bind_assoc, appendSemanticBytes_bind_eq_ok, ih, forall_mem_cons,
      and_assoc, flatMap_cons, ← append_assoc]
    rfl

theorem fits_of_validName (h : validName value = true) : text.Fits value := by
  simp only [validName, Bool.and_eq_true, decide_eq_true_eq] at h
  have := h.1.2
  show value.utf8ByteSize < 2 ^ 32
  omega

/-- Names that are accepted are appended like any texts. -/
theorem appendNames_bind_eq_ok :
    (appendNames target values >>= f) = .ok a ↔
      (∀ value ∈ values, validName value = true) ∧
        f (target ++ values.flatMap text.encode) = .ok a := by
  induction values generalizing target with
  | nil => simp [appendNames, Except.ok_bind]
  | cons value values ih =>
    rw [appendNames, bind_assoc, bind_eq_ok, forall_mem_cons, flatMap_cons,
      ← append_assoc]
    constructor
    · rintro ⟨_, hname, h⟩
      rw [bind_assoc, appendSemanticBytes_bind_eq_ok, ih] at h
      exact ⟨⟨requireClaim_eq_ok.1 hname, h.2.1⟩, h.2.2⟩
    · rintro ⟨⟨hname, hnames⟩, h⟩
      refine ⟨(), requireClaim_eq_ok.2 hname, ?_⟩
      rw [bind_assoc, appendSemanticBytes_bind_eq_ok, ih]
      exact ⟨fits_of_validName hname, hnames, h⟩

theorem text_encode_ne_nil (s : String) : text.encode s ≠ [] := bytes_encode_ne_nil (utf8 s)

/-- Texts before an end of known length are determined by the whole. -/
theorem texts_inj (hvalues : ∀ value ∈ values, text.Fits value)
    (hvalues' : ∀ value ∈ values', text.Fits value) (hlength : s.length = t.length)
    (h : values.flatMap text.encode ++ s = values'.flatMap text.encode ++ t) :
    values = values' ∧ s = t := by
  obtain ⟨htexts, hst⟩ := append_inj' h hlength
  exact ⟨text.flatMap_encode_inj text_encode_ne_nil hvalues hvalues' htexts, hst⟩

/-! ## Payload kinds -/

/-- Names end 12 bytes before the end of the payload. -/
theorem canonicalNamedPayload_eq_ok :
    canonicalNamedPayload name values revision = .ok b ↔
      (∀ value ∈ name :: values, validName value = true) ∧ revision ≠ 0 ∧
        b = (name :: values).flatMap text.encode ++ (be 4 0 ++ u64.encode revision) := by
  unfold canonicalNamedPayload validateSemanticName validateSemanticRevision
  simp only [bind_eq_ok, requireClaim_eq_ok, bne_iff_ne]
  rw [forall_mem_cons]
  constructor
  · rintro ⟨_, hname, _, hrevision, out, hout, h⟩
    obtain ⟨-, rfl⟩ := appendSemanticBytes_eq_ok.1 hout
    obtain ⟨hvalues, h⟩ := appendNames_bind_eq_ok.1 (bind_eq_ok.2 h)
    cases h
    exact ⟨⟨hname, hvalues⟩, hrevision, by simp [flatMap_cons, text, u64, comap, nat]⟩
  · rintro ⟨⟨hname, hvalues⟩, hrevision, rfl⟩
    refine ⟨(), hname, (), hrevision, _,
      appendSemanticBytes_eq_ok.2 ⟨fits_of_validName hname, rfl⟩, ?_⟩
    rw [← bind_eq_ok, appendNames_bind_eq_ok]
    exact ⟨hvalues, by simp [flatMap_cons, text, u64, comap, nat, pure, Except.pure]⟩

theorem u64_length (n : UInt64) : (u64.encode n).length = 8 := length_be 8 n.toNat

/-- So they are determined without a count. -/
theorem canonicalNamedPayload_inj (h : canonicalNamedPayload name values revision = .ok b)
    (h' : canonicalNamedPayload name' values' revision' = .ok b) :
    name = name' ∧ values = values' ∧ revision = revision' := by
  obtain ⟨hvalid, -, rfl⟩ := canonicalNamedPayload_eq_ok.1 h
  obtain ⟨hvalid', -, hb⟩ := canonicalNamedPayload_eq_ok.1 h'
  obtain ⟨hnames, hrest⟩ := texts_inj (fun v hv => fits_of_validName (hvalid v hv))
    (fun v hv => fits_of_validName (hvalid' v hv)) (by simp [u64_length]) hb
  obtain ⟨rfl, rfl⟩ := cons.inj hnames
  exact ⟨rfl, rfl, u64.encode_inj (u64_fits _) (u64_fits _) (append_cancel_left hrest)⟩

/-- Texts, then bytes behind their length, then a revision. -/
theorem canonicalStringsAndBytes_eq_ok :
    canonicalStringsAndBytes values data revision = .ok b ↔
      (∀ value ∈ values, text.Fits value) ∧ bytes.Fits data ∧
        b = values.flatMap text.encode ++ (bytes.encode data ++ be 8 revision) := by
  unfold canonicalStringsAndBytes
  rw [appendStrings_bind_eq_ok, appendSemanticBytes_bind_eq_ok]
  simp only [nil_append, append_assoc, pure, Except.pure, Except.ok.injEq]
  rw [eq_comm (a := b)]

/-- Texts before data of a known length: the certificate request, the revocation, the upgrade. -/
theorem canonicalStringsAndBytes_inj (hlength : data.length = data'.length) (hr : revision < 2 ^ 64)
    (hr' : revision' < 2 ^ 64) (h : canonicalStringsAndBytes values data revision = .ok b)
    (h' : canonicalStringsAndBytes values' data' revision' = .ok b) :
    values = values' ∧ data = data' ∧ revision = revision' := by
  obtain ⟨hvalues, hdata, rfl⟩ := canonicalStringsAndBytes_eq_ok.1 h
  obtain ⟨hvalues', hdata', hb⟩ := canonicalStringsAndBytes_eq_ok.1 h'
  obtain ⟨rfl, hrest⟩ := texts_inj hvalues hvalues' (by simp [bytes, hlength]) hb
  obtain ⟨rfl, hrevision⟩ := bytes.front hdata hdata' hrest
  exact ⟨rfl, rfl, be_inj (by simpa using hr) (by simpa using hr') hrevision⟩

/-- The two numbers before the ciphertext of a sealed secret. -/
def secretMarker (purpose : SealedSecretPurpose) : Bytes :=
  be 4 1 ++ be 4 purpose.toInt32.toInt.toNat

/-- What an accepted sealed secret is. -/
structure SecretAccepted (secret : SealedSecretV1) (purpose : SealedSecretPurpose) : Prop where
  version : secret.version = sealedSecretVersionV1
  purpose : secret.purpose = purpose.toInt32
  key : secret.keyId.utf8ByteSize ≠ 0 ∧ secret.keyId.utf8ByteSize ≤ 128
  ciphertext : 32 ≤ secret.ciphertext.length ∧ secret.ciphertext.length ≤ 16 * 1024

/-- A sealed secret is its marker and its ciphertext. -/
theorem canonicalSealedSecret_eq_ok : canonicalSealedSecret secret purpose = .ok b ↔
      SecretAccepted secret purpose ∧ b = secretMarker purpose ++ secret.ciphertext := by
  unfold canonicalSealedSecret
  constructor
  · intro h
    obtain ⟨hchecks, h⟩ := require_bind.1 h
    simp only [Bool.and_eq_true, beq_iff_eq, bne_iff_ne, decide_eq_true_eq] at hchecks
    obtain ⟨⟨⟨⟨⟨hversion, hpurpose⟩, hne⟩, hle⟩, hlow⟩, hhigh⟩ := hchecks
    cases h
    refine ⟨⟨hversion, hpurpose, ⟨hne, hle⟩, hlow, hhigh⟩, ?_⟩
    rw [hversion, hpurpose]
    rfl
  · rintro ⟨⟨hversion, hpurpose, ⟨hne, hle⟩, hlow, hhigh⟩, rfl⟩
    refine require_bind.2 ⟨?_, ?_⟩
    · simp only [Bool.and_eq_true, beq_iff_eq, bne_iff_ne, decide_eq_true_eq]
      exact ⟨⟨⟨⟨⟨hversion, hpurpose⟩, hne⟩, hle⟩, hlow⟩, hhigh⟩
    · rw [hversion, hpurpose]
      rfl

/-- Accepted secrets of one purpose are determined by their key and their ciphertext. -/
theorem SecretAccepted.ext (h : SecretAccepted secret purpose) (h' : SecretAccepted secret' purpose)
    (hkey : secret.keyId = secret'.keyId) (hcipher : secret.ciphertext = secret'.ciphertext) :
    secret = secret' := by
  obtain ⟨version, p, keyId, ciphertext⟩ := secret
  obtain ⟨version', p', keyId', ciphertext'⟩ := secret'
  have hversion : version = version' := h.version.trans h'.version.symm
  have hpurpose : p = p' := h.purpose.trans h'.purpose.symm
  obtain rfl : keyId = keyId' := hkey
  obtain rfl : ciphertext = ciphertext' := hcipher
  rw [hversion, hpurpose]

/-- What an accepted user secret is. -/
structure UserSecretAccepted (p : UserSecret) (secret : SealedSecretV1) : Prop where
  username : validName p.username = true
  revision : p.desiredRevision ≠ 0
  password : p.sealedPassword = []
  secretKeyId : p.secretKeyId = ""
  sealed : p.sealedPasswordV1 = some secret
  secret : SecretAccepted secret .userPassword

theorem SecretAccepted.fits (h : SecretAccepted secret purpose) : text.Fits secret.keyId ∧
      bytes.Fits (secretMarker purpose ++ secret.ciphertext) := by
  have hkey := h.key.2
  have hcipher := h.ciphertext.2
  constructor
  · show secret.keyId.utf8ByteSize < 2 ^ 32
    omega
  · show length _ < 2 ^ 32
    rw [length_append, secretMarker, length_append, length_be, length_be]
    omega

/-- A user secret is accepted in one form only. -/
theorem canonicalSecretPayload_eq_ok :
    canonicalSecretPayload p = .ok b ↔ ∃ secret, UserSecretAccepted p secret ∧
      b = text.encode p.username ++ (text.encode secret.keyId ++
        (bytes.encode (secretMarker .userPassword ++ secret.ciphertext) ++
          u64.encode p.desiredRevision)) := by
  unfold canonicalSecretPayload
  constructor
  · intro h
    obtain ⟨hname, h⟩ := require_bind.1 h
    obtain ⟨hrevision, h⟩ := require_bind.1 h
    obtain ⟨hlegacy, h⟩ := require_bind.1 h
    obtain ⟨secret, hsecret, h⟩ := get_bind.1 h
    obtain ⟨secretBytes, hbytes, h⟩ := bind_eq_ok.1 h
    obtain ⟨haccepted, rfl⟩ := canonicalSealedSecret_eq_ok.1 hbytes
    iterate 3 obtain ⟨-, h⟩ := appendSemanticBytes_bind_eq_ok.1 h
    cases h
    simp only [Bool.and_eq_true, List.isEmpty_iff, beq_iff_eq, String.utf8ByteSize_eq_zero_iff]
      at hlegacy
    refine ⟨secret, ⟨hname, bne_iff_ne.1 hrevision,
      hlegacy.1, hlegacy.2, hsecret, haccepted⟩, ?_⟩
    simp [text, comap, u64, nat]
  · rintro ⟨secret, h, rfl⟩
    refine require_bind.2 ⟨h.username, ?_⟩
    refine require_bind.2 ⟨(bne_iff_ne.2 h.revision), ?_⟩
    refine require_bind.2 ⟨?_, ?_⟩
    · simp [h.password, h.secretKeyId]
    refine get_bind.2 ⟨secret, h.sealed, ?_⟩
    refine bind_eq_ok.2 ⟨_, canonicalSealedSecret_eq_ok.2 ⟨h.secret, rfl⟩, ?_⟩
    refine appendSemanticBytes_bind_eq_ok.2 ⟨fits_of_validName h.username, ?_⟩
    refine appendSemanticBytes_bind_eq_ok.2 ⟨h.secret.fits.1, ?_⟩
    refine appendSemanticBytes_bind_eq_ok.2 ⟨h.secret.fits.2, ?_⟩
    simp [text, comap, u64, nat, pure, Except.pure]

theorem canonicalSecretPayload_inj (h : canonicalSecretPayload p = .ok b)
    (h' : canonicalSecretPayload p' = .ok b) : p = p' := by
  obtain ⟨secret, hp, rfl⟩ := canonicalSecretPayload_eq_ok.1 h
  obtain ⟨secret', hp', hb⟩ := canonicalSecretPayload_eq_ok.1 h'
  obtain ⟨hnames, hb⟩ :=
    text.front (fits_of_validName hp.username) (fits_of_validName hp'.username) hb
  obtain ⟨hkeys, hb⟩ := text.front hp.secret.fits.1 hp'.secret.fits.1 hb
  obtain ⟨hsecrets, hrevision⟩ := bytes.front hp.secret.fits.2 hp'.secret.fits.2 hb
  obtain rfl := hp.secret.ext hp'.secret hkeys (append_cancel_left hsecrets)
  have hrevisions := u64.encode_inj (u64_fits _) (u64_fits _) hrevision
  have hpassword := hp.password.trans hp'.password.symm
  have hkeyId := hp.secretKeyId.trans hp'.secretKeyId.symm
  have hsealed := hp.sealed.trans hp'.sealed.symm
  cases p; cases p'; simp_all

theorem canonicalSessionPayload_inj (h : canonicalSessionPayload p = .ok b)
    (h' : canonicalSessionPayload p' = .ok b) : p = p' := by
  have hread : ∀ {q : SessionRef}, canonicalSessionPayload q = .ok b →
      (text.pair text).Fits (q.sessionId, q.bootId) ∧
        b = (text.pair text).encode (q.sessionId, q.bootId) := by
    intro q hq
    unfold canonicalSessionPayload at hq
    obtain ⟨_, hq⟩ := of_bind hq
    obtain ⟨hsession, hq⟩ := appendSemanticBytes_bind_eq_ok.1 hq
    obtain ⟨hboot, rfl⟩ := appendSemanticBytes_eq_ok.1 hq
    exact ⟨⟨hsession, hboot⟩, rfl⟩
  obtain ⟨hfits, rfl⟩ := hread h
  obtain ⟨hfits', hb⟩ := hread h'
  obtain ⟨hsession, hboot⟩ := Prod.mk.inj ((text.pair text).encode_inj hfits hfits' hb)
  cases p; cases p'; simp_all

theorem appendSemanticBytes_text_inj (h : appendSemanticBytes [] (utf8 s) = .ok b)
    (h' : appendSemanticBytes [] (utf8 s') = .ok b) : s = s' := by
  obtain ⟨hfits, rfl⟩ := appendSemanticBytes_eq_ok.1 h
  obtain ⟨hfits', hb⟩ := appendSemanticBytes_eq_ok.1 h'
  exact text.encode_inj hfits hfits' hb

theorem canonicalCertificateCsr_inj (h : canonicalCertificateCsr p = .ok b)
    (h' : canonicalCertificateCsr p' = .ok b) : p = p' := by
  obtain ⟨hchecks, h⟩ := require_bind.1 h
  obtain ⟨hchecks', h'⟩ := require_bind.1 h'
  simp only [Bool.and_eq_true, beq_iff_eq] at hchecks hchecks'
  have hbits : ∀ n : UInt32, n.toNat < 2 ^ 64 := fun n => n.toNat_lt.trans (by decide)
  obtain ⟨hnames, hid, hkeyBits⟩ := canonicalStringsAndBytes_inj
    (hchecks.1.1.1.trans hchecks'.1.1.1.symm) (hbits _) (hbits _) h h'
  obtain ⟨hcommon, hdns⟩ := cons.inj hnames
  have hkeyBits := UInt32.toNat_inj.1 hkeyBits
  cases p; cases p'; simp_all

theorem canonicalCertificateRevoke_inj (h : canonicalCertificateRevoke p = .ok b)
    (h' : canonicalCertificateRevoke p' = .ok b) : p = p' := by
  obtain ⟨hchecks, h⟩ := require_bind.1 h
  obtain ⟨hchecks', h'⟩ := require_bind.1 h'
  simp only [Bool.and_eq_true, beq_iff_eq] at hchecks hchecks'
  obtain ⟨hreason, hid, hversion⟩ := canonicalStringsAndBytes_inj
    (hchecks.1.1.1.trans hchecks'.1.1.1.symm) (UInt64.toNat_lt _) (UInt64.toNat_lt _) h h'
  have hversion := UInt64.toNat_inj.1 hversion
  cases p; cases p'; simp_all

theorem canonicalAgentUpgrade_inj (h : canonicalAgentUpgrade p = .ok b)
    (h' : canonicalAgentUpgrade p' = .ok b) : p = p' := by
  obtain ⟨hchecks, h⟩ := require_bind.1 h
  obtain ⟨hchecks', h'⟩ := require_bind.1 h'
  simp only [Bool.and_eq_true, beq_iff_eq] at hchecks hchecks'
  obtain ⟨htexts, hpackage, -⟩ := canonicalStringsAndBytes_inj (hchecks.1.2.trans hchecks'.1.2.symm)
    (by decide) (by decide) h h'
  cases p; cases p'; simp_all

/-! ## Configurations are bound through their digest -/

section
variable (P : Platform)

/-- The byte strings whose digest stands in a payload in their place. -/
def digested : Payload → List Bytes
  | .configPlan p => [p.candidate]
  | .configApply p => [p.candidate]
  | .completeConfigPlan p => (p.candidate.bind canonicalProfile).toList
  | .completeConfigApply p => (p.candidate.bind canonicalProfile).toList
  | _ => []

/-- The digest has no collision between what the two payloads digest. -/
def NoCollision (p p' : Payload) : Prop :=
  ∀ x ∈ digested p, ∀ y ∈ digested p', P.sha256 x = P.sha256 y → x = y

/-- A candidate has the digest that the payload names for it. -/
def CandidateBound : Payload → Prop
  | .configPlan p => (P.sha256 p.candidate).1 = p.candidateHash
  | .configApply p => (P.sha256 p.candidate).1 = p.candidateHash
  | _ => True

/-- privd checks the digest of a candidate before it executes the command. -/
theorem candidateBound_of_checked (h : Privd.checkPrivilegedPayload P command (some p) = .ok u) :
    CandidateBound P p := by
  have hread : ∀ {candidate candidateHash : Bytes},
      Privd.validateCandidate P candidate candidateHash = .ok u →
        (P.sha256 candidate).1 = candidateHash := by
    intro candidate candidateHash h
    have hchecks := require_eq_ok.1 h
    simp only [Bool.and_eq_true, beq_iff_eq] at hchecks
    exact hchecks.2
  cases p with
  | configPlan | configApply => exact hread h
  | _ => trivial

/-- Byte strings with the digest that is named for both are equal where it does not collide. -/
theorem bound_inj (h : (P.sha256 x).1 = digest) (h' : (P.sha256 y).1 = digest')
    (hdigest : digest = digest') (hcollision : P.sha256 x = P.sha256 y → x = y) : x = y :=
  hcollision (Subtype.ext (h.trans (hdigest.trans h'.symm)))

/-- A plan is two fields of fixed width. -/
theorem canonicalConfigPlan_ok (h : canonicalConfigPlan p .v2 = .ok b) :
    p.candidateHash.length = 32 ∧ b = p.candidateHash ++ u64.encode p.expectedRevision := by
  obtain ⟨hchecks, h⟩ := require_bind.1 h
  cases h
  exact ⟨eq_of_beq hchecks, rfl⟩

/-- An apply is three fields of fixed width. -/
theorem canonicalConfigApply_ok (h : canonicalConfigApply p = .ok b) :
    ((raw 32).pair ((raw 32).pair u64)).Fits
        (p.candidateHash, p.expectedCurrentHash, p.desiredRevision) ∧
      b = ((raw 32).pair ((raw 32).pair u64)).encode
        (p.candidateHash, p.expectedCurrentHash, p.desiredRevision) := by
  obtain ⟨hchecks, h⟩ := require_bind.1 h
  cases h
  simp only [Bool.and_eq_true, beq_iff_eq] at hchecks
  refine ⟨⟨hchecks.1.1, hchecks.1.2, u64_fits _⟩, ?_⟩
  simp [pair, raw, u64, comap, nat]

/-- A complete candidate is named by the digest of its transcript. -/
theorem completeCandidate_ok (h : completeCandidate P candidate = .ok (c, digest)) :
    ∃ b, candidate = some c ∧ canonicalProfile c = some b ∧ digest = (P.sha256 b).1 := by
  obtain ⟨c', hc, h⟩ := bind_eq_ok.1 h
  obtain ⟨b, hb, h⟩ := get_bind.1 h
  cases h
  exact ⟨b, get_eq_ok.1 hc, hb, rfl⟩

/-- The bytes of a plan are the digest of its candidate. -/
theorem canonicalCompletePlan_ok (h : canonicalCompletePlan P e p version = .ok b) :
    b = p.candidateHash ∧ ∃ c profile, p.candidate = some c ∧ canonicalProfile c = some profile ∧
      (P.sha256 profile).1 = p.candidateHash := by
  obtain ⟨⟨c, digest⟩, hc, hrest⟩ := bind_eq_ok.1 h
  obtain ⟨profile, hcandidate, hprofile, rfl⟩ := completeCandidate_ok P hc
  obtain ⟨hchecks, hb⟩ := require_bind.1 hrest
  simp only [Bool.and_eq_true, beq_iff_eq] at hchecks
  exact ⟨(Except.ok.inj hb).symm, c, profile, hcandidate, hprofile, hchecks.2⟩

/-- Candidates of one digest are equal where the digest does not collide. -/
theorem candidate_eq (hcollision : ∀ x ∈ (candidate.bind canonicalProfile).toList,
      ∀ y ∈ (candidate'.bind canonicalProfile).toList, P.sha256 x = P.sha256 y → x = y)
    (hc : candidate = some c) (hc' : candidate' = some c')
    (hprofile : canonicalProfile c = some profile) (hprofile' : canonicalProfile c' = some profile')
    (hdigest : (P.sha256 profile).1 = (P.sha256 profile').1) : candidate = candidate' := by
  subst hc hc'
  have hsame : profile = profile' :=
    hcollision profile (by simp [hprofile]) profile' (by simp [hprofile']) (Subtype.ext hdigest)
  subst hsame
  rw [canonicalProfile_inj hprofile hprofile']

/-- The fields of a complete configuration's application, before the approval. -/
def completeApplyFormat : Format (Bytes × Bytes × Bytes × UInt64 × Bytes × Int × Int) :=
  (raw 32).pair <| (raw 32).pair <| (raw 32).pair <| u64.pair <| (raw 16).pair <|
    (int 8).pair (int 4)

/-- The bytes of an apply, with its expiry and approval. -/
theorem canonicalCompleteApply_ok (h : canonicalCompleteApply P e p version = .ok b) :
    ∃ c profile expiry, p.candidate = some c ∧ canonicalProfile c = some profile ∧
      (P.sha256 profile).1 = p.candidateHash ∧ p.planExpiresAt = some expiry ∧
      completeApplyFormat.Fits (p.candidateHash, p.materializedHash, p.expectedCurrentHash,
        p.desiredRevision, p.planId, expiry.seconds.toInt, expiry.nanos.toInt) ∧
      b = completeApplyFormat.encode (p.candidateHash, p.materializedHash, p.expectedCurrentHash,
        p.desiredRevision, p.planId, expiry.seconds.toInt, expiry.nanos.toInt) ++
        (e.approvalId ++ e.approvalRequestSha256) := by
  obtain ⟨⟨c, digest⟩, hc, hrest⟩ := bind_eq_ok.1 h
  obtain ⟨profile, hcandidate, hprofile, rfl⟩ := completeCandidate_ok P hc
  obtain ⟨expiry, hexpiry, hrest⟩ := get_bind.1 hrest
  obtain ⟨hchecks, hb⟩ := require_bind.1 hrest
  cases hb
  simp only [Bool.and_eq_true, beq_iff_eq, decide_eq_true_eq] at hchecks
  obtain ⟨⟨⟨⟨⟨⟨⟨⟨⟨⟨⟨-, hdigest⟩, hmaterialized⟩, hcurrent⟩, -⟩, hplan⟩, hlow⟩, hhigh⟩, hn0⟩, hn⟩,
    -⟩, -⟩ :=
    hchecks
  refine ⟨c, profile, expiry, hcandidate, hprofile, hdigest, hexpiry,
    ⟨?_, hmaterialized, hcurrent, u64_fits _, hplan, ?_, ?_⟩, ?_⟩
  · show p.candidateHash.length = 32
    rw [← hdigest]
    exact (P.sha256 profile).2
  · show -(256 ^ 8 : Nat) ≤ 2 * expiry.seconds.toInt ∧ 2 * expiry.seconds.toInt < (256 ^ 8 : Nat)
    omega
  · show -(256 ^ 4 : Nat) ≤ 2 * expiry.nanos.toInt ∧ 2 * expiry.nanos.toInt < (256 ^ 4 : Nat)
    omega
  · simp [completeApplyFormat, pair, raw, u64, comap, nat, int, beInt]

/-- The digest determines the candidate, and the format the rest. -/
theorem canonicalCompleteApply_inj
    (hcollision : NoCollision P (.completeConfigApply p) (.completeConfigApply p'))
    (h : canonicalCompleteApply P e p version = .ok b)
    (h' : canonicalCompleteApply P e' p' version' = .ok b) : p = p' := by
  obtain ⟨c, profile, expiry, hc, hprofile, hdigest, hexpiry, hfits, rfl⟩ :=
    canonicalCompleteApply_ok P h
  obtain ⟨c', profile', expiry', hc', hprofile', hdigest', hexpiry', hfits', hb⟩ :=
    canonicalCompleteApply_ok P h'
  obtain ⟨hfields, -⟩ := completeApplyFormat.front hfits hfits' hb
  simp only [Prod.mk.injEq] at hfields
  obtain ⟨hhash, hmaterialized, hcurrent, hrevision, hplan, hseconds, hnanos⟩ := hfields
  have hcandidate : p.candidate = p'.candidate :=
    candidate_eq P hcollision hc hc' hprofile hprofile' (by rw [hdigest, hdigest', hhash])
  have hexpiries : p.planExpiresAt = p'.planExpiresAt := by
    rw [hexpiry, hexpiry']
    obtain ⟨seconds, nanos⟩ := expiry
    obtain ⟨seconds', nanos'⟩ := expiry'
    rw [show seconds = seconds' from Int64.toInt_inj.1 hseconds,
      show nanos = nanos' from Int32.toInt_inj.1 hnanos]
  cases p; cases p'; simp_all

/-- **The canonical bytes of version 2 bind the payload**: payloads of one kind, other than
certificate packaging, with the same bytes are equal, where candidates have the digests named for
them and the digest does not collide. -/
theorem semanticPayload_binds {e e' : CommandEnvelope} {p p' : Payload} {b : Bytes}
    (hkind : p.kind = p'.kind) (hp12 : p.kind ≠ 118)
    (h : canonicalPayload P e .v2 p = .ok b) (h' : canonicalPayload P e' .v2 p' = .ok b)
    (hbound : CandidateBound P p) (hbound' : CandidateBound P p')
    (hcollision : NoCollision P p p') : p = p' := by
  cases p <;> cases p' <;> try cases hkind
  case sessionDisconnect.sessionDisconnect | sessionTerminate.sessionTerminate =>
    rw [canonicalSessionPayload_inj h h']
  case userCreate.userCreate | userPasswordRotate.userPasswordRotate =>
    rw [canonicalSecretPayload_inj h h']
  case userDisable.userDisable p p' | userEnable.userEnable p p' =>
    obtain ⟨hname, -, hrevision⟩ := canonicalNamedPayload_inj h h'
    cases p; cases p'; simp_all
  case groupApply.groupApply p p' =>
    obtain ⟨hname, hmembers, hrevision⟩ := canonicalNamedPayload_inj h h'
    cases p; cases p'; simp_all
  case configPlan.configPlan p p' =>
    obtain ⟨hlength, rfl⟩ := canonicalConfigPlan_ok h
    obtain ⟨hlength', hb⟩ := canonicalConfigPlan_ok h'
    obtain ⟨hhash, hrevision⟩ := append_inj hb (hlength.trans hlength'.symm)
    have hrevision := u64.encode_inj (u64_fits _) (u64_fits _) hrevision
    have hcandidate := bound_inj P hbound hbound' hhash (hcollision _ (by simp [digested]) _
      (by simp [digested]))
    cases p; cases p'; simp_all
  case configApply.configApply p p' =>
    obtain ⟨hfits, rfl⟩ := canonicalConfigApply_ok h
    obtain ⟨hfits', hb⟩ := canonicalConfigApply_ok h'
    have hfields := ((raw 32).pair ((raw 32).pair u64)).encode_inj hfits hfits' hb
    simp only [Prod.mk.injEq] at hfields
    obtain ⟨hhash, hcurrent, hrevision⟩ := hfields
    have hcandidate := bound_inj P hbound hbound' hhash (hcollision _ (by simp [digested]) _
      (by simp [digested]))
    cases p; cases p'; simp_all
  case serviceReload.serviceReload | syntheticNoop.syntheticNoop => rfl
  case simulationProbe.simulationProbe => cases h
  case syntheticEcho.syntheticEcho | ipBanRemove.ipBanRemove =>
    rw [appendSemanticBytes_text_inj h h']
  case certificateCsr.certificateCsr => rw [canonicalCertificateCsr_inj h h']
  case certificateP12.certificateP12 => exact absurd rfl hp12
  case certificateRevoke.certificateRevoke => rw [canonicalCertificateRevoke_inj h h']
  case agentUpgrade.agentUpgrade => rw [canonicalAgentUpgrade_inj h h']
  case completeConfigPlan.completeConfigPlan p p' =>
    obtain ⟨rfl, c, profile, hc, hprofile, hdigest⟩ := canonicalCompletePlan_ok P h
    obtain ⟨hhash, c', profile', hc', hprofile', hdigest'⟩ := canonicalCompletePlan_ok P h'
    have hcandidate : p.candidate = p'.candidate :=
      candidate_eq P hcollision hc hc' hprofile hprofile' (by rw [hdigest, hdigest', hhash])
    cases p; cases p'; simp_all
  case completeConfigApply.completeConfigApply => rw [canonicalCompleteApply_inj P hcollision h h']

end

/-- The sample command of a payload, as far as its canonical bytes look at it. -/
def sampleCommand (payload : Payload) : CommandEnvelope :=
  sampleEnvelope .executeOrReplay payload "" ""

def sampleGroup : GroupApply := ⟨"operators", ["alice", "bob"], 4⟩

/-- Two commands whose bytes are those of one group have that group. -/
theorem groupApply_bound :
    ∃ b, canonicalPayload samplePlatform (sampleCommand (.groupApply sampleGroup)) .v2
        (.groupApply sampleGroup) = .ok b ∧
      canonicalPayload samplePlatform (sampleCommand .serviceReload) .v2
        (.groupApply sampleGroup) = .ok b ∧
      Payload.groupApply sampleGroup = .groupApply sampleGroup := by
  have haccepted : ∃ b, canonicalPayload samplePlatform (sampleCommand .serviceReload) .v2
      (.groupApply sampleGroup) = .ok b := ⟨_, rfl⟩
  obtain ⟨b, hb⟩ := haccepted
  have hsame : canonicalPayload samplePlatform (sampleCommand (.groupApply sampleGroup)) .v2
      (.groupApply sampleGroup) = .ok b := hb
  exact ⟨b, hsame, hb, semanticPayload_binds samplePlatform rfl (show 115 ≠ 118 by decide) hsame hb
    trivial trivial nofun⟩

/-- A plan that names `List.replicate 32 0` as the digest of `candidate`. -/
def namedPlan (candidate : Bytes) : Payload := .configPlan ⟨candidate, List.replicate 32 0, 1⟩

/-- The canonical bytes of a plan do not depend on its candidate. -/
theorem configPlan_candidate_unbound :
    (namedPlan [1]).kind = (namedPlan [2]).kind ∧
    (∃ b,
      canonicalPayload samplePlatform (sampleCommand (namedPlan [1])) .v2 (namedPlan [1]) = .ok b ∧
      canonicalPayload samplePlatform (sampleCommand (namedPlan [2])) .v2 (namedPlan [2]) = .ok b) ∧
    namedPlan [1] ≠ namedPlan [2] :=
  ⟨rfl, ⟨_, rfl, rfl⟩, by decide⟩

/-! ## Certificate packaging -/

/-- The marker between the chain and the ciphertext of a package. -/
def p12Marker : Bytes := secretMarker .certificateP12Password

theorem length_p12Marker : p12Marker.length = 8 := rfl

/-- The chain and the sealed password of a package, side by side. -/
def sealedChain (p : CertificateP12) (secret : SealedSecretV1) : Bytes :=
  p.certificateChainPem ++ (p12Marker ++ secret.ciphertext)

/-- The expiry of an artifact in its canonical form. -/
def expiryBytes (expires : Timestamp) : Bytes :=
  beInt 8 expires.seconds.toInt ++ be 4 expires.nanos.toInt.toNat

/-- What an accepted package is. -/
structure P12Accepted (p : CertificateP12) (secret : SealedSecretV1) (expires : Timestamp) :
    Prop where
  sealed : p.sealedPasswordV1 = some secret
  expiry : p.artifactExpiresAt = some expires
  certificateId : p.certificateId.length = 16
  artifactId : p.artifactId.length = 16
  chain : 64 ≤ p.certificateChainPem.length ∧ p.certificateChainPem.length ≤ 256 * 1024
  password : p.sealedPassword = []
  secretKeyId : p.secretKeyId = ""
  version : p.certificateVersion ≠ 0
  nanos : 0 ≤ expires.nanos.toInt ∧ expires.nanos.toInt ≤ 999999999
  secret : SecretAccepted secret .certificateP12Password

def p12Bytes (p : CertificateP12) (secret : SealedSecretV1) (expires : Timestamp) : Bytes :=
  text.encode secret.keyId ++
    (bytes.encode (p.certificateId ++ p.artifactId ++ sealedChain p secret ++
      expiryBytes expires) ++
      u64.encode p.certificateVersion)

/-- The parts of an accepted package fit behind their lengths. -/
theorem P12Accepted.fits (h : P12Accepted p secret expires) :
    text.Fits secret.keyId ∧
      bytes.Fits (p.certificateId ++ p.artifactId ++ sealedChain p secret ++
        expiryBytes expires) := by
  constructor
  · show secret.keyId.utf8ByteSize < 2 ^ 32
    have := h.secret.key.2
    omega
  · have hchain := h.chain.2
    have hcipher := h.secret.ciphertext.2
    show length _ < 2 ^ 32
    simp only [length_append, h.certificateId, h.artifactId, sealedChain, length_p12Marker,
      expiryBytes, beInt, length_be]
    omega

/-- A package is accepted in one form only. -/
theorem canonicalCertificateP12_eq_ok :
    canonicalCertificateP12 p = .ok b ↔
      ∃ secret expires, P12Accepted p secret expires ∧ b = p12Bytes p secret expires := by
  unfold canonicalCertificateP12
  constructor
  · intro h
    obtain ⟨secret, hsecret, h⟩ := get_bind.1 h
    obtain ⟨expires, hexpires, h⟩ := get_bind.1 h
    obtain ⟨hchecks, h⟩ := require_bind.1 h
    obtain ⟨secretBytes, hbytes, h⟩ := bind_eq_ok.1 h
    obtain ⟨haccepted, rfl⟩ := canonicalSealedSecret_eq_ok.1 hbytes
    obtain ⟨-, -, rfl⟩ := canonicalStringsAndBytes_eq_ok.1 h
    simp only [Bool.and_eq_true, beq_iff_eq, bne_iff_ne, decide_eq_true_eq, List.isEmpty_iff,
      String.utf8ByteSize_eq_zero_iff] at hchecks
    obtain ⟨⟨⟨⟨⟨⟨⟨⟨hid, hartifact⟩, hlow⟩, hhigh⟩, hpassword⟩, hkey⟩, hversion⟩, hn0⟩, hn⟩ :=
      hchecks
    refine ⟨secret, expires, ⟨hsecret, hexpires, hid,
      hartifact, ⟨hlow, hhigh⟩, hpassword, hkey, hversion, ⟨hn0, hn⟩, haccepted⟩, ?_⟩
    simp [p12Bytes, sealedChain, p12Marker, expiryBytes, u64, comap, nat]
  · rintro ⟨secret, expires, h, rfl⟩
    refine get_bind.2 ⟨secret, h.sealed, ?_⟩
    refine get_bind.2 ⟨expires, h.expiry, ?_⟩
    refine require_bind.2 ⟨?_, ?_⟩
    · simp [h.certificateId, h.artifactId, h.chain, h.password, h.secretKeyId, h.version, h.nanos]
    refine bind_eq_ok.2 ⟨_, canonicalSealedSecret_eq_ok.2 ⟨h.secret, rfl⟩, ?_⟩
    unfold canonicalStringsAndBytes
    refine appendStrings_bind_eq_ok.2 ⟨by simpa using h.fits.1, ?_⟩
    have hdata := h.fits.2
    simp only [sealedChain, p12Marker, expiryBytes, ← append_assoc] at hdata ⊢
    refine appendSemanticBytes_bind_eq_ok.2 ⟨hdata, ?_⟩
    simp [p12Bytes, sealedChain, p12Marker, expiryBytes, u64, comap, nat]
    rfl

/-- Where `s` can be cut into an acceptable chain, the marker and an acceptable ciphertext. -/
def CutAt (s : Bytes) (i : Nat) : Prop :=
  (64 ≤ i ∧ i ≤ 256 * 1024) ∧ (s.drop i).take 8 = p12Marker ∧ i + 40 ≤ s.length ∧
    s.length ≤ i + 8 + 16 * 1024

section
variable (h : P12Accepted p secret expires)
include h

/-- The end of the chain is a place to cut. -/
theorem cutAt_sealedChain : CutAt (sealedChain p secret) p.certificateChainPem.length := by
  have hcipher := h.secret.ciphertext
  refine ⟨h.chain, ?_, ?_, ?_⟩
  · rw [sealedChain, drop_left, take_append_of_le_length (by rw [length_p12Marker]),
      take_of_length_le (by rw [length_p12Marker])]
  iterate 2
    simp only [sealedChain, length_append, length_p12Marker]
    omega

/-- The package that results from cutting the sealed chain at another place. -/
def recut (p : CertificateP12) (secret : SealedSecretV1) (i : Nat) : CertificateP12 :=
  { p with
    certificateChainPem := (sealedChain p secret).take i
    sealedPasswordV1 := some { secret with ciphertext := (sealedChain p secret).drop (i + 8) } }

/-- A package that is cut elsewhere is accepted with the same bytes. -/
theorem recut_accepted (hi : CutAt (sealedChain p secret) i) :
    canonicalCertificateP12 (recut p secret i) = .ok (p12Bytes p secret expires) := by
  obtain ⟨⟨hlow, hhigh⟩, hmarker, hlong, hshort⟩ := hi
  have hcut : sealedChain (recut p secret i)
      { secret with ciphertext := (sealedChain p secret).drop (i + 8) } = sealedChain p secret := by
    calc (sealedChain p secret).take i ++ (p12Marker ++ (sealedChain p secret).drop (i + 8))
        = (sealedChain p secret).take i ++
          (((sealedChain p secret).drop i).take 8 ++ ((sealedChain p secret).drop i).drop 8) := by
          rw [hmarker, drop_drop]
      _ = sealedChain p secret := by rw [take_append_drop, take_append_drop]
  refine canonicalCertificateP12_eq_ok.2
    ⟨{ secret with ciphertext := (sealedChain p secret).drop (i + 8) }, expires, ?_, ?_⟩
  · refine ⟨rfl, h.expiry, h.certificateId, h.artifactId, ?_, h.password, h.secretKeyId, h.version,
      h.nanos, h.secret.version, h.secret.purpose, h.secret.key, ?_⟩
    · simp only [recut, length_take]
      omega
    · simp only [length_drop]
      omega
  · simp only [p12Bytes, hcut]
    rfl

/-- Packages with the same data whose chains have one length are the same. -/
theorem p12_eq_of_length (h' : P12Accepted p' secret' expires')
    (hlength : p.certificateChainPem.length = p'.certificateChainPem.length)
    (hkeys : secret.keyId = secret'.keyId)
    (hids : p.certificateId = p'.certificateId ∧ p.artifactId = p'.artifactId)
    (hsealed : sealedChain p secret = sealedChain p' secret')
    (htime : expiryBytes expires = expiryBytes expires')
    (hversion : p.certificateVersion = p'.certificateVersion) : p = p' := by
  obtain ⟨hchain, hcipher⟩ := append_inj hsealed hlength
  have hsecrets : secret = secret' := h.secret.ext h'.secret hkeys (append_cancel_left hcipher)
  have hexpires : expires = expires' := by
    have hseconds : ∀ t : Timestamp, (int 8).Fits t.seconds.toInt := fun t => i64_fits t.seconds
    obtain ⟨hs, hn⟩ := (int 8).front (hseconds expires) (hseconds expires') htime
    have hnanos := be_inj (by have := h.nanos; omega) (by have := h'.nanos; omega) hn
    have hn0 := h.nanos
    have hn0' := h'.nanos
    obtain ⟨seconds, nanos⟩ := expires
    obtain ⟨seconds', nanos'⟩ := expires'
    rw [show seconds = seconds' from Int64.toInt_inj.1 hs,
      show nanos = nanos' from Int32.toInt_inj.1 (by simp only at *; omega)]
  have hpassword := h.password.trans h'.password.symm
  have hkeyId := h.secretKeyId.trans h'.secretKeyId.symm
  have hv1 : p.sealedPasswordV1 = p'.sealedPasswordV1 := by rw [h.sealed, h'.sealed, hsecrets]
  have hexpiry : p.artifactExpiresAt = p'.artifactExpiresAt := by rw [h.expiry, h'.expiry, hexpires]
  cases p; cases p'
  simp only [CertificateP12.mk.injEq]
  exact ⟨hids.1, hchain, hpassword, hkeyId, hids.2, hv1, hversion, hexpiry⟩

end

/-- **When the bytes of a package bind its parts**: exactly when chain and sealed password can be
cut only at the end of the chain. -/
theorem certificateP12_binds_iff {p : CertificateP12} {secret : SealedSecretV1} {b : Bytes}
    (h : canonicalCertificateP12 p = .ok b) (hsecret : p.sealedPasswordV1 = some secret) :
    (∀ p', canonicalCertificateP12 p' = .ok b → p' = p) ↔
      ∀ i, CutAt (sealedChain p secret) i → i = p.certificateChainPem.length := by
  obtain ⟨secret', expires, haccepted, rfl⟩ := canonicalCertificateP12_eq_ok.1 h
  cases haccepted.sealed.symm.trans hsecret
  constructor
  · intro hbinds i hi
    have hchain := congrArg (fun q => q.certificateChainPem.length)
      (hbinds _ (recut_accepted haccepted hi))
    have hlong := hi.2.2.1
    simp only [recut, length_take] at hchain
    omega
  · intro hcut p' h'
    obtain ⟨other, expires', haccepted', hb⟩ := canonicalCertificateP12_eq_ok.1 h'
    obtain ⟨hkeys, hb⟩ := text.front haccepted.fits.1 haccepted'.fits.1 hb
    obtain ⟨hdata, hversion⟩ := bytes.front haccepted.fits.2 haccepted'.fits.2 hb
    obtain ⟨hfront, htime⟩ := append_inj' hdata (by simp [expiryBytes, beInt])
    obtain ⟨hids, hsealed⟩ := append_inj hfront (by
      simp [haccepted.certificateId, haccepted.artifactId, haccepted'.certificateId,
        haccepted'.artifactId])
    have hids := append_inj hids (haccepted.certificateId.trans haccepted'.certificateId.symm)
    -- the other package cuts the same bytes, so it cuts them at the same place
    have hlength := hcut _ (hsealed ▸ cutAt_sealedChain haccepted')
    exact (p12_eq_of_length haccepted haccepted' hlength.symm hkeys hids hsealed htime
      (u64.encode_inj (u64_fits _) (u64_fits _) hversion)).symm

/-- A package of 64 bytes of chain with the given password. -/
def samplePackage (ciphertext : Bytes) : CertificateP12 where
  certificateId := (sampleUuid 4).1
  certificateChainPem := List.replicate 64 65
  sealedPassword := []
  secretKeyId := ""
  artifactId := (sampleUuid 5).1
  sealedPasswordV1 := some ⟨1, 2, "key", ciphertext⟩
  certificateVersion := 1
  artifactExpiresAt := some ⟨1000, 0⟩

theorem samplePackage_accepted (h : 32 ≤ ciphertext.length ∧ ciphertext.length ≤ 16 * 1024) :
    P12Accepted (samplePackage ciphertext) ⟨1, 2, "key", ciphertext⟩ ⟨1000, 0⟩ where
  sealed := rfl
  expiry := rfl
  certificateId := rfl
  artifactId := rfl
  chain := by simp [samplePackage]
  password := rfl
  secretKeyId := rfl
  version := by simp [samplePackage]
  nanos := by decide
  secret := ⟨rfl, rfl, show "key".utf8ByteSize ≠ 0 ∧ "key".utf8ByteSize ≤ 128 by decide, h⟩

/-- A password that contains the marker. -/
def markedPassword : Bytes := List.replicate 32 1 ++ p12Marker ++ List.replicate 32 2

/-- The bytes of the package with that password, cut at the marker inside it. -/
def shiftedPackage : CertificateP12 :=
  { samplePackage (List.replicate 32 2) with
    certificateChainPem := List.replicate 64 65 ++ p12Marker ++ List.replicate 32 1 }

/-- Two packages with different chains and different passwords, and the same canonical bytes. -/
theorem certificateP12_ambiguous :
    (∃ b, canonicalCertificateP12 (samplePackage markedPassword) = .ok b ∧
      canonicalCertificateP12 shiftedPackage = .ok b) ∧
    (samplePackage markedPassword).certificateChainPem ≠ shiftedPackage.certificateChainPem ∧
    (samplePackage markedPassword).sealedPasswordV1 ≠ shiftedPackage.sealedPasswordV1 := by
  have haccepted := samplePackage_accepted (show 32 ≤ markedPassword.length ∧ _ by decide)
  have hcut :
      CutAt (sealedChain (samplePackage markedPassword) ⟨1, 2, "key", markedPassword⟩) 104 :=
    ⟨by decide, by decide +kernel, by decide +kernel, by decide +kernel⟩
  have hshifted : recut (samplePackage markedPassword) ⟨1, 2, "key", markedPassword⟩ 104 =
      shiftedPackage := by decide +kernel
  refine ⟨⟨_, canonicalCertificateP12_eq_ok.2 ⟨_, _, haccepted, rfl⟩, ?_⟩, ?_, ?_⟩
  · rw [← hshifted]
    exact recut_accepted haccepted hcut
  · decide +kernel
  · decide +kernel

/-- The bytes of a package with a shortest password can be cut at the end of its chain only. -/
theorem shortPassword_bound : ∃ b,
    canonicalCertificateP12 (samplePackage (List.replicate 32 2)) = .ok b ∧
      ∀ p', canonicalCertificateP12 p' = .ok b → p' = samplePackage (List.replicate 32 2) := by
  have haccepted := samplePackage_accepted (show 32 ≤ (replicate 32 2).length ∧ _ by decide)
  have hok := canonicalCertificateP12_eq_ok.2 ⟨_, _, haccepted, rfl⟩
  refine ⟨_, hok, (certificateP12_binds_iff hok rfl).2 fun i hi => ?_⟩
  obtain ⟨⟨hlow, -⟩, -, hlong, -⟩ := hi
  have hlength : (sealedChain (samplePackage (replicate 32 2))
      ⟨1, 2, "key", replicate 32 2⟩).length = 104 := by decide +kernel
  show i = 64
  omega

end Ocservia
