import Ocservia.Privd.Execute

/-!
# Attested outcomes

An execution that ends in a typed result or a terminal error is *attested* when its response carries
a signed receipt. The receipt encoder checks the identities of the command, the certificate and the
requested subject under its own rules, after the effect: `buildResultProof_isSome_iff` says exactly
when it accepts what validation let through (`Attestable`), and `attested_iff` of
`Ocservia.System.AttestedExecution` what that means for the response.
-/

namespace Ocservia

open Wire Checked List Attestation Except SemanticPayloadHashVersion

namespace HostTime

theorem nanos_toInt (t : HostTime) : t.timestamp.nanos.toInt = t.nanos := by
  have h := t.nanos_lt
  exact Int32.toInt_ofNat_of_lt (by omega)

theorem validTimestamp_timestamp {t : HostTime} (h : t.sinceEpoch = true) :
    Attestation.validTimestamp t.timestamp = true := by
  have hn := t.nanos_lt
  have hs : 0 ≤ t.timestamp.seconds.toInt := of_decide_eq_true h
  simp only [validTimestamp, t.nanos_toInt, Bool.and_eq_true, decide_eq_true_eq]
  omega

end HostTime

theorem ClaimsOf.hashVersion {envelope : CommandEnvelope} {claims : CommandAuthorizationV1}
    (h : ClaimsOf envelope claims) : claims.semanticHashVersion < 2 ^ 31 ∧
      Int32.ofNat claims.semanticHashVersion = envelope.semanticPayloadHashVersion := by
  rw [h.version]
  rcases h.supported with hv | hv <;>
    (rw [eq_of_tryFrom hv]; decide)

namespace Privd

/-! ## Outcomes -/

/-- The kind of the typed result of a payload. -/
def resultKindOf : Payload → PrivilegedResultKind
  | .configPlan _ | .completeConfigPlan _ => .configPlan
  | .configApply _ | .completeConfigApply _ => .configApply
  | .certificateCsr _ => .certificateCsr
  | .certificateP12 _ => .certificateP12
  | .certificateRevoke _ => .certificateRevoke
  | .agentUpgrade _ => .agentUpgradeScheduled
  | _ => .mutation

/-- What the operation of a payload ends in. -/
inductive Outcome (p : Payload) (result : PrivdResult) : Prop where
  | error {kind : Int32} {detail : String} (h : result = .error kind detail)
  | typed (kind : privilegedResultKind result = some (resultKindOf p))
      (noError : ∀ kind detail, result ≠ .error kind detail)

/-- The result of an operation is the error of the operation, or its typed value. -/
theorem finishOperation_map (operation : String) (x : Except AdapterError α)
    (hf : ∀ a kind detail, f a ≠ .error kind detail) :
    (∃ kind detail, finishOperation operation (x.map f) = .error kind detail) ∨
      ∃ a, x = .ok a ∧ finishOperation operation (x.map f) = f a := by
  cases x with
  | error e => exact .inl ⟨_, _, rfl⟩
  | ok a =>
    refine .inr ⟨a, rfl, ?_⟩
    simp only [finishOperation]
    split
    · rename_i h
      cases h
    · rename_i kind detail h
      exact absurd (ok.inj h) (hf a kind detail)
    · rename_i h
      exact (ok.inj h).symm

theorem Outcome.of_map (operation : String) (x : Except AdapterError α)
    (hkind : ∀ a, privilegedResultKind (f a) = some (resultKindOf p))
    (hf : ∀ a kind detail, f a ≠ .error kind detail) :
    Outcome p (finishOperation operation (x.map f)) := by
  rcases finishOperation_map operation x hf with ⟨kind, detail, h⟩ | ⟨a, -, h⟩
  · exact .error h
  · exact .typed (h ▸ hkind a) fun kind detail => h ▸ hf a kind detail

theorem outcome_spec (P : Platform) (host : PrivdHost) {command : CommandEnvelope}
    (claims : CommandAuthorizationV1) {p : Payload} (hp : command.payload = some p)
    (hprivileged : privileged p = true) : Outcome p (outcome P host command claims) := by
  unfold outcome executeSignedPayload
  rw [hp]
  cases p with
  | simulationProbe | syntheticNoop | syntheticEcho => cases hprivileged
  | _ => exact Outcome.of_map _ _ (fun _ => rfl) (fun _ _ _ h => by cases h)

/-- What `certificate_csr` checks before it makes a key. -/
structure CsrAccepted (p : CertificateCsr) : Prop where
  commonName : validDnsName p.commonName = true
  count : p.dnsNames.length ≤ 32
  names : ∀ name ∈ p.dnsNames, validDnsName name = true
  keyBits : validKeyBits p.keyBits = true

theorem certificateCsr_ok (h : certificateCsr P adapter p = .ok result) :
    CsrAccepted p ∧ result.publicKeySha256.length = 32 := by
  unfold certificateCsr at h
  obtain ⟨id, h⟩ := of_bind h
  obtain ⟨hcheck, h⟩ := require_bind.1 h
  obtain ⟨csr, h⟩ := of_bind h
  obtain ⟨_, h⟩ := of_bind h
  obtain ⟨publicKey, h⟩ := of_bind h
  obtain ⟨_, h⟩ := of_bind h
  cases h
  simp only [Bool.and_eq_true, decide_eq_true_eq, all_eq_true, and_assoc] at hcheck
  obtain ⟨-, hcn, hcount, hnames, hbits⟩ := hcheck
  exact ⟨⟨hcn, hcount, hnames, hbits⟩, (P.sha256 publicKey).2⟩

/-- A certificate request that ends in a typed result was accepted by the adapter. -/
theorem outcome_csr (hp : command.payload = some (.certificateCsr p))
    (h : outcome P host command claims = .certificateCsr result) :
    CsrAccepted p ∧ result.publicKeySha256.length = 32 := by
  unfold outcome executeSignedPayload at h
  rw [hp] at h
  rcases finishOperation_map "certificate_csr" (certificateCsr P host.adapter p)
    (f := .certificateCsr) (fun _ _ _ h => by cases h) with ⟨kind, detail, herror⟩ | ⟨a, ha, hok⟩
  · cases herror.symm.trans h
  · cases hok.symm.trans h
    exact certificateCsr_ok ha

/-! ## When an outcome is attested -/

/-- The subjects that the receipt encoder can digest, among those the adapter makes keys for. -/
structure PlainSubject (p : CertificateCsr) : Prop where
  commonName : p.commonName.utf8ByteSize ≤ 128
  distinct : p.dnsNames.Nodup
  names : ∀ name ∈ p.dnsNames,
    name.utf8ByteSize ≤ 128 ∧ utf8 name = Attestation.toAsciiLowercase (utf8 name)

/-- What the receipt encoder asks of a command and its result beyond what validation checked. -/
structure Attestable (command : CommandEnvelope) (result : PrivdResult) : Prop where
  identities : ∀ id ∈ [command.nodeId, command.commandId, command.operationId,
    command.idempotencyKey], uuidVariant id = 2
  certificate : ∀ p id, command.payload = some p → certificateOf p = some id → uuidVariant id = 2
  subject : ∀ p r, command.payload = some (.certificateCsr p) → result = .certificateCsr r →
    PlainSubject p

theorem uuidV7_iff {id : Bytes} (hlength : id.length = 16) (hversion : uuidVersion id = 7) :
    Attestation.uuidV7 id = true ↔ uuidVariant id = 2 := by
  simp [uuidV7, hlength, hversion]

theorem CsrAccepted.digestable_iff (h : CsrAccepted p)
    (hid : Attestation.uuidV7 p.certificateId = true) :
    Attestation.Digestable p ↔ PlainSubject p := by
  constructor
  · intro hd
    exact ⟨hd.commonName.2.1, hd.distinct, fun name hname =>
      ⟨(hd.names name hname).1.2.1, (hd.names name hname).2⟩⟩
  · intro hs
    obtain ⟨hne, hascii⟩ := ascii_of_validDnsName h.commonName
    have hbits : 2048 ≤ p.keyBits ∧ p.keyBits ≤ 8192 := by
      have hkey := h.keyBits
      simp only [validKeyBits, Bool.or_eq_true, beq_iff_eq] at hkey
      rcases hkey with (hkey | hkey) | hkey <;> (rw [hkey]; decide)
    refine ⟨hid, ⟨hne, hs.commonName, hascii⟩, hbits, h.count.trans (by decide), hs.distinct, ?_⟩
    intro name hname
    obtain ⟨hne, hascii⟩ := ascii_of_validDnsName (h.names name hname)
    exact ⟨⟨hne, (hs.names name hname).1, hascii⟩, (hs.names name hname).2⟩

theorem one_le_max (a : UInt64) : max a 1 ≠ 0 := by
  show (if a ≤ 1 then 1 else a) ≠ 0
  split
  · decide
  · rename_i h
    rintro rfl
    exact h (by decide)

/-- The receipt of an accepted execution is valid up to the identities and the certificate. -/
theorem validReceipt_resultReceipt_iff
    (hx : Executable P host.toPrivdConfig request claims accepted)
    (hepoch : 0 ≤ accepted.seconds.toInt)
    {completed : HostTime} (hcompleted : completed.sinceEpoch = true)
    (hordered : Attestation.timestampAfter accepted completed.timestamp = false)
    (binding : CommandEffectBinding) {r : ResultClaims}
    (hstate : r.state = .succeeded ∨ r.state = .failed) (hck : r.commandKind ≠ .unspecified)
    (hrk : r.resultKind ≠ .unspecified) :
    (∃ a c,
      Attestation.ValidReceipt (resultReceipt P host claims accepted binding completed r) a c) ↔
      (∀ id ∈ [claims.nodeId, claims.commandId, claims.operationId, claims.idempotencyKey],
        Attestation.uuidV7 id.1 = true) ∧
      Attestation.validCertificateBinding r.commandKind r.resultKind r.certificate = true := by
  constructor
  · rintro ⟨a, c, hv⟩
    obtain ⟨command, result, hcommand, hresult, -, -, hcert⟩ := hv.kinds
    cases (PrivilegedCommandKind.tryFrom_toInt32 _).symm.trans hcommand
    cases (PrivilegedResultKind.tryFrom_toInt32 _).symm.trans hresult
    refine ⟨?_, hcert⟩
    intro id hid
    simp only [mem_cons, not_mem_nil, or_false] at hid
    rcases hid with rfl | rfl | rfl | rfl
    · rw [hx.nodeId]; exact hv.nodeId
    · exact hv.commandId
    · exact hv.operationId
    · exact hv.idempotencyKey
  · rintro ⟨hids, hcert⟩
    obtain ⟨-, hversion⟩ := hx.claimsOf.hashVersion
    have hnode := hids claims.nodeId (by simp)
    rw [hx.nodeId] at hnode
    refine ⟨accepted, completed.timestamp, {
      acceptedAt := rfl
      completedAt := rfl
      version := rfl
      nodeId := hnode
      commandId := hids claims.commandId (by simp)
      operationId := hids claims.operationId (by simp)
      idempotencyKey := hids claims.idempotencyKey (by simp)
      keyId := validKeyId_keyId P _
      semantic := ?_
      state := ?_
      payloadHash := claims.semanticPayloadSha256.2
      resultHash := (P.sha256 _).2
      errorHash := (P.sha256 _).2
      effectRecordId := ?_
      effectSequence := one_le_max _
      acceptedValid := ?_
      completedValid := HostTime.validTimestamp_timestamp hcompleted
      ordered := hordered
      kinds := ⟨r.commandKind, r.resultKind, PrivilegedCommandKind.tryFrom_toInt32 _,
        PrivilegedResultKind.tryFrom_toInt32 _, hck, hrk, hcert⟩ }⟩
    · show tryFrom (Int32.ofNat claims.semanticHashVersion) = _ ∨
        tryFrom (Int32.ofNat claims.semanticHashVersion) = _
      rw [hversion]
      exact hx.claimsOf.supported
    · show CommandResultState.tryFrom r.state.toInt32 = _ ∨
        CommandResultState.tryFrom r.state.toInt32 = _
      rcases hstate with hs | hs
      · rw [hs]; exact .inl (by decide)
      · rw [hs]; exact .inr (by decide)
    · have hlength := (effectRecordId P host.nodeId claims binding).2
      show 16 ≤ (effectRecordId P host.nodeId claims binding).1.length ∧
        (effectRecordId P host.nodeId claims binding).1.length ≤ 32
      omega
    · simp only [validTimestamp, Bool.and_eq_true, decide_eq_true_eq]
      exact ⟨⟨hepoch, hx.nanos.1⟩, hx.nanos.2⟩

/-- The result of an operation decides the command: a typed result, or a terminal error. -/
theorem resultClaims_eq {P : Platform} {host : PrivdHost} {command : CommandEnvelope}
    {claims : CommandAuthorizationV1} {binding : CommandEffectBinding} {p : Payload}
    {result : PrivdResult} (hp : command.payload = some p) (hprivileged : privileged p = true)
    (hout : Outcome p result) (hdecided : undecided result = false) :
    ∃ commandKind resultKind bytes code,
      privilegedCommandKind (some p) = some commandKind ∧ commandKind ≠ .unspecified ∧
      privilegedResultKind result = some resultKind ∧ resultKind ≠ .unspecified ∧
      resultClaims P host command claims binding result =
        (certificateBinding P command result (effectRecordId P host.nodeId claims binding).1).map
          fun certificate =>
            ⟨commandKind, resultKind, terminalState result, bytes, code, certificate⟩ := by
  have hck : ∃ kind, privilegedCommandKind (some p) = some kind ∧ kind ≠ .unspecified := by
    cases p with
    | simulationProbe | syntheticNoop | syntheticEcho => cases hprivileged
    | _ => exact ⟨_, rfl, by decide⟩
  obtain ⟨commandKind, hck, hckne⟩ := hck
  have hresult : ∃ kind bytes code, privilegedResultKind result = some kind ∧
      kind ≠ .unspecified ∧ exactResultBytes P result = some bytes ∧
      resultErrorCode result = some code := by
    cases hout with
    | @error kind detail h =>
      subst h
      have hsome : (terminalResultErrorCode kind).isSome = true := by
        simpa [undecided] using hdecided
      obtain ⟨code, hcode⟩ := Option.isSome_iff_exists.1 hsome
      exact ⟨.error, [], code, by simp [privilegedResultKind, hcode], by decide,
        by simp [exactResultBytes, hcode], hcode⟩
    | typed hkind hno =>
      cases result with
      | error kind detail => exact absurd rfl (hno kind detail)
      | observation => cases hkind
      | _ => exact ⟨_, _, _, rfl, by decide, rfl, rfl⟩
  obtain ⟨resultKind, bytes, code, hrk, hrkne, hbytes, hcode⟩ := hresult
  refine ⟨commandKind, resultKind, bytes, code, hck, hckne, hrk, hrkne, ?_⟩
  unfold resultClaims
  rw [hbytes, hp, hck, hrk, hcode]
  cases certificateBinding P command result (effectRecordId P host.nodeId claims binding).1 <;> rfl

theorem validCertificateBinding_plainBinding {command : PrivilegedCommandKind}
    {result : PrivilegedResultKind} {id record : Bytes}
    (hcommand : Attestation.certificateCommand command = true)
    (hresult : result ≠ .certificateCsr) (hrecord : record.length = 32) :
    Attestation.validCertificateBinding command result (some (plainBinding id record)) = true ↔
      Attestation.uuidV7 id = true := by
  simp [validCertificateBinding, plainBinding, hcommand, hresult, hrecord]

/-- The certificate binding of a decided outcome is valid exactly when the certificate is a UUID of
the RFC variant and the subject can be digested. -/
theorem certificateBinding_valid_iff {P : Platform} {host : PrivdHost} {command : CommandEnvelope}
    {claims : CommandAuthorizationV1} {p : Payload} (hp : command.payload = some p)
    (hprivileged : privileged p = true)
    (hid : ∀ id, certificateOf p = some id → id.length = 16 ∧ uuidVersion id = 7)
    (hdecided : undecided (outcome P host command claims) = false)
    {record : Bytes} (hrecord : record.length = 32)
    {commandKind : PrivilegedCommandKind} (hck : privilegedCommandKind (some p) = some commandKind)
    {resultKind : PrivilegedResultKind}
    (hrk : privilegedResultKind (outcome P host command claims) = some resultKind) :
    (∃ certificate,
      certificateBinding P command (outcome P host command claims) record = some certificate ∧
        Attestation.validCertificateBinding commandKind resultKind certificate = true) ↔
      (∀ id, certificateOf p = some id → uuidVariant id = 2) ∧
        ∀ q r, p = .certificateCsr q → outcome P host command claims = .certificateCsr r →
          PlainSubject q := by
  have hout := outcome_spec P host claims hp hprivileged
  have hcsr :=
    fun q (hq : p = .certificateCsr q) r (hr : outcome P host command claims = .certificateCsr r) =>
    outcome_csr (hq ▸ hp) hr
  generalize outcome P host command claims = result at *
  unfold certificateBinding
  rw [hp]
  cases p with
  | simulationProbe | syntheticNoop | syntheticEcho => cases hprivileged
  | certificateCsr q =>
    obtain ⟨hlength, hversion⟩ := hid _ rfl
    cases hck
    cases hout with
    | @error kind detail h =>
      subst h
      have hsome : (terminalResultErrorCode kind).isSome = true := by
        simpa [undecided] using hdecided
      obtain ⟨code, hcode⟩ := Option.isSome_iff_exists.1 hsome
      simp only [privilegedResultKind, hcode, Option.map_some, Option.some.injEq] at hrk
      subst hrk
      simp only [hcode, Option.isSome_some, if_true, Option.some.injEq, exists_eq_left']
      rw [validCertificateBinding_plainBinding rfl (by decide) hrecord, uuidV7_iff hlength hversion]
      simp [certificateOf]
    | typed hkind hno =>
      cases result with
      | certificateCsr r =>
        cases hrk
        obtain ⟨haccepted, hpublic⟩ := hcsr q rfl r rfl
        have hdigest := haccepted.digestable_iff
        cases hd : requestedSubjectDigest P q with
        | error e =>
          have hnot : ¬ Attestation.Digestable q := fun h => by
            rw [(requestedSubjectDigest_ok_iff P).2 ⟨h, rfl⟩] at hd
            cases hd
          simp only [hd, certificateOf, Option.some.injEq, forall_eq', Payload.certificateCsr.injEq,
            PrivdResult.certificateCsr.injEq, reduceCtorEq, false_and, exists_false, false_iff,
            not_and]
          intro hvariant hsubject
          exact hnot ((hdigest ((uuidV7_iff hlength hversion).2 hvariant)).2 (hsubject _ _ rfl rfl))
        | ok digest =>
          obtain ⟨hdigestable, -⟩ := (requestedSubjectDigest_ok_iff P).1 hd
          have hv7 := hdigestable.certificateId
          simp only [hd, certificateOf, Option.some.injEq, forall_eq',
            Payload.certificateCsr.injEq, exists_eq_left']
          refine ⟨fun _ => ⟨(uuidV7_iff hlength hversion).1 hv7, ?_⟩, fun _ => ?_⟩
          · rintro _ _ rfl -
            exact (hdigest hv7).1 hdigestable
          · simp [validCertificateBinding, certificateCommand, hv7, hrecord,
              hpublic, (P.sha256 r.csrDer).2, digest.2]
      | error kind detail => exact absurd rfl (hno kind detail)
      | _ => cases hkind
  | certificateP12 q | certificateRevoke q =>
    obtain ⟨hlength, hversion⟩ := hid _ rfl
    cases hck
    have hne : resultKind ≠ .certificateCsr := by
      rintro rfl
      cases hout with
      | @error kind detail h =>
        subst h
        simp [privilegedResultKind] at hrk
      | typed hkind _ => cases hkind.symm.trans hrk
    simp only [Option.some.injEq, exists_eq_left']
    rw [validCertificateBinding_plainBinding rfl hne hrecord, uuidV7_iff hlength hversion]
    simp [certificateOf]
  | _ =>
    cases hck
    simp [certificateOf, validCertificateBinding, certificateCommand]

section
variable {host : PrivdHost}
variable (hx : Executable P host.toPrivdConfig request claims accepted)
include hx

/-- The identities of a receipt are those of the command. -/
theorem identities_iff :
    (∀ id ∈ [claims.nodeId, claims.commandId, claims.operationId, claims.idempotencyKey],
      Attestation.uuidV7 id.1 = true) ↔
    ∀ id ∈ [request.authorizationCommand.nodeId, request.authorizationCommand.commandId,
      request.authorizationCommand.operationId, request.authorizationCommand.idempotencyKey],
      uuidVariant id = 2 := by
  have hv := hx.identities
  simp only [forall_mem_cons, not_mem_nil, false_implies, implies_true, and_true] at hv ⊢
  rw [uuidV7_iff claims.nodeId.2 hv.2.2.1, uuidV7_iff claims.commandId.2 hv.1,
    uuidV7_iff claims.operationId.2 hv.2.2.2, uuidV7_iff claims.idempotencyKey.2 hv.2.1,
    hx.claimsOf.nodeId, hx.claimsOf.commandId, hx.claimsOf.operationId, hx.claimsOf.idempotencyKey]

/-- The proof of a decided outcome exists exactly when the outcome is attestable. -/
theorem buildResultProof_isSome_iff (hcommand : request.authorizationCommand = command)
    (hresult : outcome P host command claims = result)
    (hepoch : 0 ≤ accepted.seconds.toInt) {completed : HostTime}
    (hcompleted : completed.sinceEpoch = true)
    (hordered : Attestation.timestampAfter accepted completed.timestamp = false)
    (binding : CommandEffectBinding) (hdecided : undecided result = false) :
    (∃ proof, buildResultProof P host command claims accepted binding result completed =
      some proof) ↔ Attestable command result := by
  obtain ⟨p, hp, hprivileged, hid⟩ := checkPrivilegedPayload_ok hx.payload
  rw [hcommand] at hp
  have hspec := outcome_spec P host claims hp hprivileged
  rw [hresult] at hspec
  obtain ⟨commandKind, resultKind, bytes, code, hck, hckne, hrk, hrkne, hclaims⟩ :=
    @resultClaims_eq P host _ claims binding _ _ hp hprivileged hspec hdecided
  have hcert := certificateBinding_valid_iff hp hprivileged hid (hresult ▸ hdecided)
    (effectRecordId P host.nodeId claims binding).2 hck (hresult ▸ hrk)
  rw [hresult] at hcert
  have hstate : ∀ result, terminalState result = .succeeded ∨ terminalState result = .failed := by
    intro result
    cases result <;> simp [terminalState]
  have hvalid := fun certificate => validReceipt_resultReceipt_iff hx hepoch hcompleted hordered
    binding (r := ⟨commandKind, resultKind, terminalState result, bytes, code, certificate⟩)
    (hstate _) hckne hrkne
  have hbuild : (∃ proof, buildResultProof P host command claims accepted binding result completed =
      some proof) ↔
      ∃ certificate, certificateBinding P command result
          (effectRecordId P host.nodeId claims binding).1 = some certificate ∧
        ∃ a c, Attestation.ValidReceipt (resultReceipt P host claims accepted binding completed
          ⟨commandKind, resultKind, terminalState result, bytes, code, certificate⟩) a c := by
    unfold buildResultProof
    rw [if_pos ⟨hcompleted, hx.claimsOf.hashVersion.1⟩, hclaims]
    cases certificateBinding P command result (effectRecordId P host.nodeId claims binding).1 with
    | none => simp
    | some certificate =>
      simp only [Option.map_some, toOption_eq_some_iff, signReceipt_ok_iff,
        Option.some.injEq, exists_eq_left']
      constructor
      · rintro ⟨proof, a, c, hv, -⟩
        exact ⟨a, c, hv⟩
      · rintro ⟨a, c, hv⟩
        exact ⟨_, a, c, hv, rfl, rfl⟩
  rw [hbuild]
  simp only [hvalid, identities_iff hx, hcommand]
  constructor
  · rintro ⟨certificate, hbinding, hids, hok⟩
    obtain ⟨hvariant, hsubject⟩ := hcert.1 ⟨certificate, hbinding, hok⟩
    refine ⟨hids, ?_, ?_⟩
    · rintro q id hq
      cases hp.symm.trans hq
      exact hvariant id
    · rintro q r hq
      exact hsubject q r (Option.some.inj (hp.symm.trans hq))
  · rintro ⟨hids, hvariant, hsubject⟩
    obtain ⟨certificate, hbinding, hok⟩ := hcert.2 ⟨fun id => hvariant p id hp,
      fun q r hq => hsubject q r (hq ▸ hp)⟩
    exact ⟨certificate, hbinding, hids, hok⟩

end

/-- The response to an outcome with a proof: the outcome and its receipt, once recorded. -/
def recordedResponse (host : PrivdHost) (command : CommandEnvelope)
    (claims : CommandAuthorizationV1) (binding : CommandEffectBinding) (result : PrivdResult)
    (proof : PrivilegedResultProof) : PrivdResponse :=
  match host.adapter.completeAuthorizedEffect (authorizedEffect command claims binding)
      ⟨some proof, some result⟩ with
  | .error e => adapterFailure e
  | .ok () => ⟨some proof, some result⟩

end Privd

end Ocservia
