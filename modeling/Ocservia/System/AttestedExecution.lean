import Ocservia.Controller.Admission
import Ocservia.Privd.Attested

/-!
# Attestation of admitted commands

A command passes three validators before its effect: the Controller's admission, the Agent's
`validate_command` and privd's `validate_request`. None of them checks everything that the receipt
encoder checks after the effect. `AdmittedExecution` is an execution of a command that all three
accepted, on a host whose clock does not run backwards; `attested_iff` says which of these
executions end with a receipt.
-/

namespace Ocservia

open Wire Privd Attestation

theorem HostTime.sinceEpoch_of_ordered {a b : HostTime} (ha : a.sinceEpoch = true)
    (h : Attestation.timestampAfter a.timestamp b.timestamp = false) : b.sinceEpoch = true := by
  have hs : ¬ b.seconds.toInt < a.seconds.toInt := by
    simp only [timestampAfter, HostTime.timestamp, Bool.or_eq_false_iff] at h
    exact of_decide_eq_false h.1
  simp only [HostTime.sinceEpoch, decide_eq_true_eq] at ha ⊢
  omega

theorem timestampAfter_trans (hab : Attestation.timestampAfter a b = false)
    (hbc : Attestation.timestampAfter b c = false) : Attestation.timestampAfter a c = false := by
  simp only [timestampAfter, Bool.or_eq_false_iff, Bool.and_eq_false_iff,
    decide_eq_false_iff_not, beq_eq_false_iff_ne, ne_eq, ← Int64.toInt_inj] at hab hbc ⊢
  omega

/-- All three accepted the command: the Agent at `accepted`, privd from `started` to `completed`. -/
structure AdmittedExecution (G : GoLibrary) (P : Platform) (context : CommandContext)
    (host : PrivdHost) (request : PrivdRequest) (claims : CommandAuthorizationV1)
    (accepted : Timestamp) (started completed : HostTime) : Prop where
  admitted : Admitted G P request.authorizationCommand
  agent : ∃ v, validateCommand P request.authorizationCommand context = .ok v
  privd : validateRequest P host.toPrivdConfig request started = .ok (.execute claims accepted)
  acceptedEpoch : 0 ≤ accepted.seconds.toInt
  acceptedFirst : Attestation.timestampAfter accepted started.timestamp = false
  completedLast : Attestation.timestampAfter started.timestamp completed.timestamp = false

/-- An admitted command is attestable when node and certificate are UUIDs of the RFC variant and the
subject of a created request is plain. -/
theorem Admitted.attestable_iff (h : Admitted G P command) :
    Attestable command result ↔
      uuidVariant command.nodeId = 2 ∧
      (∀ p id, command.payload = some p → certificateOf p = some id → uuidVariant id = 2) ∧
      ∀ p r, command.payload = some (.certificateCsr p) → result = .certificateCsr r →
        PlainSubject p := by
  obtain ⟨hcommand, hoperation, hkey⟩ := h.variant
  constructor
  · rintro ⟨hids, hcertificate, hsubject⟩
    exact ⟨hids _ (by simp), hcertificate, hsubject⟩
  · rintro ⟨hnode, hcertificate, hsubject⟩
    refine ⟨?_, hcertificate, hsubject⟩
    intro id hid
    simp only [List.mem_cons, List.not_mem_nil, or_false] at hid
    rcases hid with rfl | rfl | rfl | rfl
    · exact hnode
    · exact hcommand
    · exact hoperation
    · exact hkey

/-- An execution of an admitted command that reaches the operation and ends in a typed result or a
terminal error is signed and answered with its receipt exactly when the node and the certificate are
UUIDs of the RFC variant and a created certificate has a plain subject: a common name of at most 128
bytes, and distinct lower-case DNS names of at most 128 bytes. Any other ends in `result attestation
unavailable`. -/
theorem attested_iff {G : GoLibrary} {P : Platform} {context : CommandContext} {host : PrivdHost}
    {request : PrivdRequest} {claims : CommandAuthorizationV1} {accepted : Timestamp}
    {started completed : HostTime}
    (h : AdmittedExecution G P context host request claims accepted started completed)
    (hreached : reserveEffect host request.authorizationCommand claims
      (effectBinding P request.authorizationCommand claims) = none)
    (hdecided : undecided (outcome P host request.authorizationCommand claims) = false) :
    ∃ binding, effectBinding P request.authorizationCommand claims = some binding ∧
      ((∃ proof, buildResultProof P host request.authorizationCommand claims accepted binding
            (outcome P host request.authorizationCommand claims) completed = some proof ∧
          executeCommand P host request.authorizationCommand claims accepted completed =
            recordedResponse host request.authorizationCommand claims binding
              (outcome P host request.authorizationCommand claims) proof) ↔
        uuidVariant request.authorizationCommand.nodeId = 2 ∧
        (∀ p id, request.authorizationCommand.payload = some p → certificateOf p = some id →
          uuidVariant id = 2) ∧
        ∀ p r, request.authorizationCommand.payload = some (.certificateCsr p) →
          outcome P host request.authorizationCommand claims = .certificateCsr r →
          PlainSubject p) ∧
      (¬ (∃ proof, buildResultProof P host request.authorizationCommand claims accepted binding
            (outcome P host request.authorizationCommand claims) completed = some proof ∧
          executeCommand P host request.authorizationCommand claims accepted completed =
            recordedResponse host request.authorizationCommand claims binding
              (outcome P host request.authorizationCommand claims) proof) →
        executeCommand P host request.authorizationCommand claims accepted completed =
          responseError .unavailable "result attestation unavailable") := by
  have hx := validateRequest_execute h.privd
  obtain ⟨binding, hbinding⟩ := effectBinding_of_checked hx.payload claims
  have hstarted := validateRequest_sinceEpoch h.privd
  have hbuild := buildResultProof_isSome_iff hx rfl rfl h.acceptedEpoch
    (HostTime.sinceEpoch_of_ordered hstarted h.completedLast)
    (timestampAfter_trans h.acceptedFirst h.completedLast) binding hdecided
  have hrun : executeCommand P host request.authorizationCommand claims accepted completed =
      attestOutcome P host request.authorizationCommand claims accepted (some binding)
        completed := by
    rw [executeCommand, hbinding, ← hbinding, hreached]
  rw [h.admitted.attestable_iff] at hbuild
  refine ⟨binding, hbinding, ?_⟩
  rw [hrun, ← hbuild]
  unfold attestOutcome
  simp only [hdecided, Bool.false_eq_true, if_false]
  refine ⟨⟨fun ⟨proof, hproof, _⟩ => ⟨proof, hproof⟩, fun ⟨proof, hproof⟩ => ?_⟩, fun h => ?_⟩
  · refine ⟨proof, hproof, ?_⟩
    rw [hproof]
    rfl
  · have hnone := Option.eq_none_iff_forall_ne_some.2 fun proof hproof =>
      h ⟨proof, hproof, by rw [hproof]; rfl⟩
    rw [hnone]

/-! ## A certificate request -/

/-- Go parsers that accept every text. -/
def sampleLibrary : GoLibrary := ⟨fun _ => some (sampleUuid 9), some, fun _ => true⟩

/-- A request for a certificate of `vpn.example` with further DNS names. -/
def sampleCsrRequest (dnsNames : List String) : CreateRequest where
  completeCandidate := none
  materializedHash := []
  planExpiresAt := none
  nodeId := sampleUuid 3
  idempotencyKey := "certificate"
  expectedVersion := 1
  kind := .certificateCSR
  message := ""
  candidate := []
  candidateHash := []
  expectedCurrentHash := []
  desiredRevision := 0
  planRevision := 0
  planMetadata := none
  applyPlanId := none
  artifactMetadata := none
  ocservVersion := ""
  planCapabilities := []
  certificateId := sampleUuid 4
  commonName := "vpn.example"
  dnsNames
  keyBits := 3072
  certificateChain := []
  sealedPassword := none
  certificateVersion := 0
  artifactId := nilUuid
  revocationReason := ""
  targetVersion := ""
  packageSHA256 := []
  architecture := ""
  upgradeCapability := ""
  rolloutId := nilUuid
  sessionId := ""
  bootId := ""
  ip := ""
  actorId := "operator"
  actorIdentityId := nilUuid
  actorSessionId := nilUuid
  approvalId := nilUuid
  approvalRequestHash := []
  action := "certificate.issue"
  reason := "issue"
  holdDispatch := false
  ttl := 900 * oneSecond
  requestId := "request"
  traceparent := "00-0123456789abcdef0123456789abcdef-0123456789abcdef-01"

/-- The identifiers, times, digest and signature of the command. -/
def sampleIssue : Issue where
  messageId := sampleMessageId
  commandId := ⟨sampleUuid 1, rfl, rfl⟩
  operationId := ⟨sampleUuid 2, rfl, rfl⟩
  authorizationRevision := 1
  issuedAt := ⟨100, 0⟩
  expiresAt := ⟨1000, 0⟩
  semanticPayloadSha256 := List.replicate 32 0
  authorization := ⟨1, "ed25519", List.replicate 64 0⟩

/-- privd on the host of `sampleAdapter`. -/
def sampleHost : PrivdHost where
  nodeId := sampleUuid 3
  commandKeys := ⟨[("ed25519", [])]⟩
  executionFence _ _ _ := .ok ()
  attestationKey := ⟨.fill 0, fun _ => .fill 0⟩
  adapter := sampleAdapter
  scheduleAndTrigger _ := .ok ()

/-- The Agent's request to privd for the command. -/
def sampleRequest (dnsNames : List String) : PrivdRequest where
  requestId := (sampleUuid 6).1
  deadlineUnixMs := 510000
  acceptedAt := some ⟨500, 0⟩
  authorizationCommand := (sampleCsrRequest dnsNames).marshalEnvelope sampleIssue
  privilegedMode := 1

def csrClaims : CommandAuthorizationV1 :=
  sampleClaims "certificate.issue" "ocserv.certificate.issue" 117

/-- The session of the Agent that delivers the command. -/
def sampleCsrContext : CommandContext :=
  { sampleContext 500 with capabilities := ["ocserv.certificate.issue"] }

/-- The three validators accept the command under these checks, which a fixed request evaluates. -/
theorem sampleAdmittedExecution
    (hcreate : (sampleCsrRequest dnsNames).validateCreate sampleLibrary samplePlatform 0 0 = true)
    (hagent : (validateCommand samplePlatform (sampleRequest dnsNames).authorizationCommand
      sampleCsrContext).toBool = true)
    (hprivd : validateRequest samplePlatform sampleHost.toPrivdConfig (sampleRequest dnsNames)
      ⟨500, 0, by decide⟩ = .ok (.execute csrClaims ⟨500, 0⟩)) :
    AdmittedExecution sampleLibrary samplePlatform sampleCsrContext sampleHost
      (sampleRequest dnsNames) csrClaims ⟨500, 0⟩ ⟨500, 0, by decide⟩ ⟨501, 0, by decide⟩ where
  admitted := .create sampleIssue hcreate
  agent := by
    cases hv : validateCommand samplePlatform (sampleRequest dnsNames).authorizationCommand
        sampleCsrContext with
    | ok v => exact ⟨v, rfl⟩
    | error e =>
      rw [hv] at hagent
      cases hagent
  privd := hprivd
  acceptedEpoch := by decide
  acceptedFirst := by decide
  completedLast := by decide

/-- A request for `vpn.example` is attested. -/
theorem attested_lowercase :
    ∃ binding, effectBinding samplePlatform (sampleRequest ["vpn.example"]).authorizationCommand
        csrClaims = some binding ∧
      ∃ proof, executeCommand samplePlatform sampleHost
          (sampleRequest ["vpn.example"]).authorizationCommand csrClaims ⟨500, 0⟩
          ⟨501, 0, by decide⟩ =
        recordedResponse sampleHost (sampleRequest ["vpn.example"]).authorizationCommand
          csrClaims binding (outcome samplePlatform sampleHost
            (sampleRequest ["vpn.example"]).authorizationCommand csrClaims) proof := by
  obtain ⟨binding, hbinding, hiff, -⟩ := attested_iff
    (@sampleAdmittedExecution ["vpn.example"] (by decide +kernel) (by decide +kernel)
      (by decide +kernel))
    (by decide +kernel) (by decide +kernel)
  have hcertificate :
      ∀ p id, (sampleRequest ["vpn.example"]).authorizationCommand.payload = some p →
      certificateOf p = some id → uuidVariant id = 2 := by
    rintro p id hp hid
    cases hp
    cases hid
    decide +kernel
  have hsubject : ∀ p r, (sampleRequest ["vpn.example"]).authorizationCommand.payload =
        some (.certificateCsr p) →
      outcome samplePlatform sampleHost (sampleRequest ["vpn.example"]).authorizationCommand
        csrClaims = .certificateCsr r → PlainSubject p := by
    rintro p r hp -
    obtain rfl := Payload.certificateCsr.inj (Option.some.inj hp)
    exact ⟨by decide +kernel, by decide +kernel, by decide +kernel⟩
  obtain ⟨proof, -, hrun⟩ := hiff.2 ⟨by decide +kernel, hcertificate, hsubject⟩
  exact ⟨binding, hbinding, proof, hrun⟩

/-- A request for `VPN.example` passes all three validators and is executed, and the response
carries no receipt. -/
theorem uppercase_name_unattested :
    AdmittedExecution sampleLibrary samplePlatform sampleCsrContext sampleHost
      (sampleRequest ["VPN.example"]) csrClaims ⟨500, 0⟩ ⟨500, 0, by decide⟩
      ⟨501, 0, by decide⟩ ∧
    outcome samplePlatform sampleHost (sampleRequest ["VPN.example"]).authorizationCommand
        csrClaims =
      .certificateCsr ⟨(sampleUuid 4).1, List.replicate 64 48, List.replicate 32 0⟩ ∧
    executeCommand samplePlatform sampleHost (sampleRequest ["VPN.example"]).authorizationCommand
        csrClaims ⟨500, 0⟩ ⟨501, 0, by decide⟩ =
      responseError .unavailable "result attestation unavailable" :=
  ⟨sampleAdmittedExecution (by decide +kernel) (by decide +kernel) (by decide +kernel),
    by decide +kernel, by decide +kernel⟩

end Ocservia
