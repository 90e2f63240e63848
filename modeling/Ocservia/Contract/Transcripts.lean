import Ocservia.Contract.Grants
import Ocservia.Lib.Format

/-!
# Signed transcripts

`command-authorization/src/lib.rs`: one Controller key signs commands, session grants, artifact
grants, connection fences and fence bindings, each as a transcript written by hand. Behind its
domain separator each transcript is a combination of fields that are read from the front
(`commandFormat` and the others), and the separators differ within their first 22 bytes
(`SignedKind.format`), so they are unambiguous (`transcripts_unambiguous`).
-/

namespace Ocservia

open Wire Wire.Format Checked Fence Except Grant

/-! ## Fields -/

/-- A text is appended behind its length when it fits. -/
theorem appendString_eq_ok :
    appendString target value = .ok out ↔ text.Fits value ∧ out = target ++ text.encode value := by
  constructor
  · intro h
    obtain ⟨encoded, hencoded, h⟩ := bind_eq_ok.1 h
    obtain ⟨hfits, rfl⟩ := lengthPrefixed_eq_some.1 (get_eq_ok.1 hencoded)
    exact ⟨hfits, (ok.inj h).symm⟩
  · rintro ⟨hfits, rfl⟩
    have hencoded := lengthPrefixed_eq_some.2 ⟨hfits, rfl⟩
    exact get_bind.2 ⟨_, hencoded, rfl⟩

/-- A text that is appended fits, and what follows goes on from its bytes. -/
theorem appendString_bind_eq_ok :
    (appendString target value >>= f) = .ok a ↔
      text.Fits value ∧ f (target ++ text.encode value) = .ok a := by
  rw [bind_eq_ok]
  constructor
  · rintro ⟨out, hout, h⟩
    obtain ⟨hfits, rfl⟩ := appendString_eq_ok.1 hout
    exact ⟨hfits, h⟩
  · rintro ⟨hfits, h⟩
    exact ⟨_, appendString_eq_ok.2 ⟨hfits, rfl⟩, h⟩

/-- So is a list of texts. -/
theorem Fence.appendStrings_eq_ok :
    Fence.appendStrings target values = .ok out ↔
      (∀ value ∈ values, text.Fits value) ∧ out = target ++ values.flatMap text.encode := by
  induction values generalizing target with
  | nil => simp [appendStrings, eq_comm]
  | cons value values ih =>
    rw [appendStrings, appendString_bind_eq_ok, ih, List.forall_mem_cons, and_assoc]
    simp

theorem Fence.appendStrings_bind_eq_ok :
    (Fence.appendStrings target values >>= f) = .ok a ↔
      (∀ value ∈ values, text.Fits value) ∧
        f (target ++ values.flatMap text.encode) = .ok a := by
  rw [bind_eq_ok]
  constructor
  · rintro ⟨out, hout, h⟩
    obtain ⟨hfits, rfl⟩ := appendStrings_eq_ok.1 hout
    exact ⟨hfits, h⟩
  · rintro ⟨hfits, h⟩
    exact ⟨_, appendStrings_eq_ok.2 ⟨hfits, rfl⟩, h⟩

/-- An optional block as a format. -/
theorem appendOptional_eq (value : Option (FixedBytes n)) :
    appendOptional value = (block n).optional.encode value := by
  cases value <;> rfl

/-- Seconds and nanoseconds of an instant. -/
def instantFormat : Format Instant :=
  (i64.pair (nat 4)).comap (fun i => (i.seconds, i.nanos)) fun a b h => by
    cases a
    cases b
    simpa using h

theorem instantFormat_fits (h : i.nanos < 1000000000) : instantFormat.Fits i :=
  ⟨i64_fits _, by simp only [nat]; omega⟩

/-- The owner of a term, as both fence transcripts have it after the endpoint. -/
def ownerFormat : Format (Uuid × UInt64 × UInt64 × Uuid × UInt64) :=
  (block 16).pair (u64.pair (u64.pair ((block 16).pair u64)))

/-! ## Transcripts of the five kinds -/

/-- The claims of a command in the order of its transcript. -/
def commandFormat : Format CommandAuthorizationV1 :=
  ((nat 4).pair <| text.pair <| text.pair <| (block 16).pair <| (block 16).pair <|
    (block 16).pair <| (block 16).pair <| text.pair <| text.pair <| text.pair <|
    (block 16).optional.pair <| (block 32).optional.pair <| u64.pair <| (nat 4).pair <|
    (block 32).pair <| (nat 4).pair <| (nat 4).pair <| i64.pair <| (nat 4).pair <|
    i64.pair (nat 4)).comap
    (fun c => (c.authorizationVersion, c.keyId, c.protocolVersion, c.commandId, c.idempotencyKey,
      c.nodeId, c.operationId, c.actorIdentity, c.action, c.requiredCapability, c.approvalId,
      c.approvalRequestSha256, c.expectedRevision, c.semanticHashVersion, c.semanticPayloadSha256,
      c.payloadKind, c.deliveryMode, c.issuedAtSeconds, c.issuedAtNanos, c.expiresAtSeconds,
      c.expiresAtNanos))
    fun a b h => by
      cases a
      cases b
      simpa only [CommandAuthorizationV1.mk.injEq, Prod.mk.injEq] using h

/-- The claims of a session grant in the order of its transcript. -/
def sessionFormat : Format SessionGrantClaimsV1 :=
  ((nat 4).pair <| text.pair <| u32.pair <| u32.pair <| (block 16).pair <| (block 32).pair <|
    u64.pair <| text.counted.pair <| instantFormat.pair instantFormat).comap
    (fun c => (c.version, c.keyId, c.protocolMajor, c.protocolMinor, c.nodeId, c.endpointId,
      c.authorizationRevision, c.negotiatedCapabilities, c.issuedAt, c.expiresAt))
    fun a b h => by
      cases a
      cases b
      simpa only [SessionGrantClaimsV1.mk.injEq, Prod.mk.injEq] using h

/-- The claims of an artifact grant in the order of its transcript. -/
def artifactFormat : Format ArtifactGrantClaimsV1 :=
  ((nat 4).pair <| text.pair <| (block 16).pair <| (block 16).pair <| (block 16).pair <|
    u64.pair <| (block 16).pair <| text.pair <| text.pair <| u64.pair <| instantFormat.pair <|
    instantFormat.pair (block 16)).comap
    (fun c => (c.version, c.keyId, c.nodeId, c.artifactId, c.certificateId, c.certificateVersion,
      c.operationId, c.authorizedSubject, c.purpose, c.maxBytes, c.issuedAt, c.expiresAt,
      c.grantId))
    fun a b h => by
      cases a
      cases b
      simpa only [ArtifactGrantClaimsV1.mk.injEq, Prod.mk.injEq] using h

/-- The claims of a connection fence in the order of its transcript. -/
def fenceFormat : Format ConnectionFenceClaimsV2 :=
  ((nat 4).pair <| text.pair <| (block 16).pair <| (block 16).pair <| (block 32).pair <|
    ownerFormat.pair <| text.counted.pair <| instantFormat.pair <|
    instantFormat.pair instantFormat).comap
    (fun c => (1, c.keyId, c.term.fenceId, c.nodeId, c.endpointId,
      (c.term.ownerInstanceId, c.term.ownerIncarnation, c.term.ownerEpoch, c.term.connectionId,
        c.term.authorizationRevision),
      c.capabilities, c.leaseUntil, c.issuedAt, c.expiresAt))
    fun a b h => by
      obtain ⟨_, _, _, ⟨⟩, _⟩ := a
      obtain ⟨_, _, _, ⟨⟩, _⟩ := b
      simp only [Prod.mk.injEq] at h
      simp only [ConnectionFenceClaimsV2.mk.injEq, FenceTerm.mk.injEq]
      tauto

/-- The claims of a fence binding in the order of its transcript. -/
def bindingFormat : Format FenceBindingClaimsV2 :=
  ((nat 4).pair <| text.pair <| (nat 4).pair <| (block 16).pair <| (block 16).pair <|
    (block 16).pair <| (block 32).pair <| ownerFormat.pair <| text.pair <|
    instantFormat.pair instantFormat).comap
    (fun c => (1, c.keyId, c.operationKind, c.operationId, c.term.fenceId, c.nodeId, c.endpointId,
      (c.term.ownerInstanceId, c.term.ownerIncarnation, c.term.ownerEpoch, c.term.connectionId,
        c.term.authorizationRevision),
      c.capability, c.issuedAt, c.expiresAt))
    fun a b h => by
      obtain ⟨_, _, _, _, _, ⟨⟩, _⟩ := a
      obtain ⟨_, _, _, _, _, ⟨⟩, _⟩ := b
      simp only [Prod.mk.injEq] at h
      simp only [FenceBindingClaimsV2.mk.injEq, FenceTerm.mk.injEq]
      tauto

/-! ## The encoders write these formats -/

/-- The authorized kind is that of the payload. -/
theorem payloadAuthorization_kind
    (h : payloadAuthorization envelope = .ok (kind, action, capability)) :
    ∃ payload, envelope.payload = some payload ∧ kind = payload.kind := by
  cases hpayload : envelope.payload with
  | none => simp [payloadAuthorization, hpayload] at h
  | some payload =>
    refine ⟨payload, rfl, ?_⟩
    cases payload with
    | simulationProbe => simp [payloadAuthorization, hpayload] at h
    | agentUpgrade p =>
      simp only [payloadAuthorization, hpayload] at h
      split at h
      · exact (Prod.mk.inj (ok.inj h)).1.symm
      · cases h
    | _ =>
      simp only [payloadAuthorization, hpayload, ok.injEq, Prod.mk.injEq] at h
      exact h.1.symm

/-- Each encoder writes its separator and its format. -/
theorem canonicalV1_ok (hclaims : claimsFromEnvelopeV1 envelope = .ok claims)
    (h : canonicalV1 claims = .ok b) :
    commandFormat.Fits claims ∧
      b = utf8 "ocservia/controller-command/v1\x00" ++ commandFormat.encode claims := by
  obtain ⟨hof, -, hauthorizationVersion, hauthorized, hmode, hissued, hexpires⟩ :=
    claimsFromEnvelopeV1_spec hclaims
  unfold canonicalV1 at h
  obtain ⟨_, h⟩ := of_bind h
  obtain ⟨hkey, h⟩ := appendString_bind_eq_ok.1 h
  obtain ⟨hprotocol, h⟩ := appendString_bind_eq_ok.1 h
  obtain ⟨hactor, h⟩ := appendString_bind_eq_ok.1 h
  obtain ⟨haction, h⟩ := appendString_bind_eq_ok.1 h
  obtain ⟨hcapability, h⟩ := appendString_bind_eq_ok.1 h
  obtain rfl := ok.inj h
  -- the numbers of the claims are those of 32-bit fields of the envelope
  obtain ⟨payload, -, hkind⟩ := payloadAuthorization_kind hauthorized
  have hkindLt := payload.kind_lt
  have hversion := hof.version
  have hversionLt := envelope.semanticPayloadHashVersion.toInt_lt
  have hmodeLt := envelope.deliveryMode.toInt_lt
  refine ⟨⟨?_, hkey, hprotocol, trivial, trivial, trivial, trivial, hactor, haction, hcapability,
    fun _ _ => trivial, fun _ _ => trivial, u64_fits _, ?_, trivial, ?_, ?_, i64_fits _, ?_,
    i64_fits _, ?_⟩, ?_⟩
  · show claims.authorizationVersion < 256 ^ 4
    rw [hauthorizationVersion]
    decide
  · show claims.semanticHashVersion < 256 ^ 4
    omega
  · show claims.payloadKind < 256 ^ 4
    omega
  · show claims.deliveryMode < 256 ^ 4
    omega
  · show claims.issuedAtNanos < 256 ^ 4
    omega
  · show claims.expiresAtNanos < 256 ^ 4
    omega
  · simp only [appendOptional_eq]
    simp [commandFormat, comap, pair, nat, block, u64, i64, beInt, int]

theorem instantBytes_eq (i : Instant) : Fence.instantBytes i = instantFormat.encode i := rfl

theorem ownerBytes_eq (term : FenceTerm) : Fence.ownerBytes term =
    ownerFormat.encode (term.ownerInstanceId, term.ownerIncarnation, term.ownerEpoch,
      term.connectionId, term.authorizationRevision) := by
  simp [ownerBytes, ownerFormat, pair, block, u64, comap, nat]

theorem canonicalSessionGrantV1_ok (hclaims : Grant.sessionGrantClaimsV1 grant = .ok claims)
    (h : Grant.canonicalSessionGrantV1 claims = .ok b) : sessionFormat.Fits claims ∧
      b = utf8 "ocservia/controller-session-grant/v1\x00" ++ sessionFormat.encode claims := by
  obtain ⟨hissued, hexpires⟩ := sessionGrantClaimsV1_nanos hclaims
  unfold canonicalSessionGrantV1 at h
  obtain ⟨hchecks, h⟩ := require_bind.1 h
  simp only [Bool.and_eq_true, beq_iff_eq, decide_eq_true_eq] at hchecks
  obtain ⟨⟨⟨⟨⟨hversion, -⟩, -⟩, -⟩, hcount⟩, -⟩ := hchecks
  obtain ⟨_, h⟩ := of_bind h
  obtain ⟨hkey, h⟩ := appendString_bind_eq_ok.1 h
  obtain ⟨hcapabilities, h⟩ := appendStrings_bind_eq_ok.1 h
  cases h
  refine ⟨⟨?_, hkey, u32_fits _, u32_fits _, trivial, trivial, u64_fits _, ⟨?_, hcapabilities⟩,
    instantFormat_fits hissued, instantFormat_fits hexpires⟩, ?_⟩
  · show claims.version < 256 ^ 4
    omega
  · show claims.negotiatedCapabilities.length < 2 ^ 32
    omega
  · simp [sessionFormat, comap, pair, nat, block, u64, u32, counted, instantBytes_eq]

theorem canonicalArtifactGrantV1_ok (hclaims : Grant.artifactGrantClaimsV1 grant = .ok claims)
    (h : Grant.canonicalArtifactGrantV1 claims = .ok b) : artifactFormat.Fits claims ∧
      b = utf8 "ocservia/artifact-grant/v1\x00" ++ artifactFormat.encode claims := by
  obtain ⟨hissued, hexpires⟩ := artifactGrantClaimsV1_nanos hclaims
  unfold canonicalArtifactGrantV1 at h
  obtain ⟨hchecks, h⟩ := require_bind.1 h
  simp only [Bool.and_eq_true, beq_iff_eq] at hchecks
  have hversion : claims.version = 1 := hchecks.1.1.1.1.1.1.1.1.1
  obtain ⟨hkey, h⟩ := appendString_bind_eq_ok.1 h
  obtain ⟨hsubject, h⟩ := appendString_bind_eq_ok.1 h
  obtain ⟨hpurpose, h⟩ := appendString_bind_eq_ok.1 h
  cases h
  refine ⟨⟨?_, hkey, trivial, trivial, trivial, u64_fits _, trivial, hsubject, hpurpose, u64_fits _,
    instantFormat_fits hissued, instantFormat_fits hexpires, trivial⟩, ?_⟩
  · show claims.version < 256 ^ 4
    omega
  · simp [artifactFormat, comap, pair, nat, block, u64, instantBytes_eq]

theorem canonicalConnectionFenceV2_ok (h : Fence.canonicalConnectionFenceV2 claims = .ok b) :
    fenceFormat.Fits claims ∧
      b = utf8 "ocservia/connection-fence/v2\x00" ++ fenceFormat.encode claims := by
  unfold canonicalConnectionFenceV2 at h
  obtain ⟨hchecks, h⟩ := require_bind.1 h
  simp only [Bool.and_eq_true, decide_eq_true_eq] at hchecks
  obtain ⟨⟨⟨⟨⟨⟨⟨-, hcount⟩, hlease⟩, hissued⟩, hexpires⟩, -⟩, -⟩, -⟩ := hchecks
  obtain ⟨_, h⟩ := of_bind h
  obtain ⟨hkey, h⟩ := appendString_bind_eq_ok.1 h
  obtain ⟨hcapabilities, h⟩ := appendStrings_bind_eq_ok.1 h
  cases h
  refine ⟨⟨by simp [nat], hkey, trivial, trivial, trivial,
    ⟨trivial, u64_fits _, u64_fits _, trivial, u64_fits _⟩, ⟨?_, hcapabilities⟩,
    instantFormat_fits hlease, instantFormat_fits hissued, instantFormat_fits hexpires⟩, ?_⟩
  · show claims.capabilities.length < 2 ^ 32
    omega
  · simp [fenceFormat, comap, pair, nat, block, counted, instantBytes_eq, ownerBytes_eq]

theorem canonicalFenceBindingV2_ok (h : Fence.canonicalFenceBindingV2 claims = .ok b) :
    bindingFormat.Fits claims ∧
      b = utf8 "ocservia/fence-binding/v2\x00" ++ bindingFormat.encode claims := by
  unfold canonicalFenceBindingV2 at h
  obtain ⟨hchecks, h⟩ := require_bind.1 h
  simp only [Bool.and_eq_true, decide_eq_true_eq] at hchecks
  obtain ⟨⟨⟨⟨⟨⟨⟨⟨-, hkind⟩, -⟩, -⟩, -⟩, -⟩, hissued⟩, hexpires⟩, -⟩ := hchecks
  obtain ⟨hkey, h⟩ := appendString_bind_eq_ok.1 h
  obtain ⟨hcapability, h⟩ := appendString_bind_eq_ok.1 h
  cases h
  refine ⟨⟨by simp [nat], hkey, ?_, trivial, trivial, trivial, trivial,
    ⟨trivial, u64_fits _, u64_fits _, trivial, u64_fits _⟩, hcapability,
    instantFormat_fits hissued, instantFormat_fits hexpires⟩, ?_⟩
  · show claims.operationKind < 256 ^ 4
    omega
  · simp [bindingFormat, comap, pair, nat, block, instantBytes_eq, ownerBytes_eq]

/-! ## One key, five kinds -/

/-- What the Controller signs. -/
inductive SignedKind where
  | command | sessionGrant | artifactGrant | connectionFence | fenceBinding
deriving DecidableEq

namespace SignedKind

def domain : SignedKind → Bytes
  | .command => utf8 "ocservia/controller-command/v1\x00"
  | .sessionGrant => utf8 "ocservia/controller-session-grant/v1\x00"
  | .artifactGrant => utf8 "ocservia/artifact-grant/v1\x00"
  | .connectionFence => utf8 "ocservia/connection-fence/v2\x00"
  | .fenceBinding => utf8 "ocservia/fence-binding/v2\x00"

/-- The separators differ before the shortest of them ends. -/
def format : Format SignedKind :=
  Format.marks domain 22 (fun kind => by cases kind <;> decide) fun a b h => by
    revert h
    cases a <;> cases b <;> decide

end SignedKind

/-- A message that the Controller signs. -/
inductive SignedMessage where
  | command (envelope : CommandEnvelope)
  | sessionGrant (grant : SessionGrantV1)
  | artifactGrant (grant : ArtifactGrantV1)
  | connectionFence (fence : ConnectionFenceV2)
  | fenceBinding (binding : FenceBindingV2)

/-- The claims of a signed message. -/
inductive SignedClaims where
  | command (claims : CommandAuthorizationV1)
  | sessionGrant (claims : SessionGrantClaimsV1)
  | artifactGrant (claims : ArtifactGrantClaimsV1)
  | connectionFence (claims : ConnectionFenceClaimsV2)
  | fenceBinding (claims : FenceBindingClaimsV2)
deriving DecidableEq

def SignedClaims.kind : SignedClaims → SignedKind
  | .command _ => .command
  | .sessionGrant _ => .sessionGrant
  | .artifactGrant _ => .artifactGrant
  | .connectionFence _ => .connectionFence
  | .fenceBinding _ => .fenceBinding

/-- The claims that the verifier of its kind projects from a message. -/
def SignedMessage.claims : SignedMessage → Except AuthorizationError SignedClaims
  | .command envelope => (claimsFromEnvelopeV1 envelope).map .command
  | .sessionGrant grant => (Grant.sessionGrantClaimsV1 grant).map .sessionGrant
  | .artifactGrant grant => (Grant.artifactGrantClaimsV1 grant).map .artifactGrant
  | .connectionFence fence => (Fence.connectionFenceClaimsV2 fence).map .connectionFence
  | .fenceBinding binding => (Fence.fenceBindingClaimsV2 binding).map .fenceBinding

/-- The transcript of claims, which the signature is checked against. -/
def SignedClaims.canonical : SignedClaims → Except AuthorizationError Bytes
  | .command claims => canonicalV1 claims
  | .sessionGrant claims => Grant.canonicalSessionGrantV1 claims
  | .artifactGrant claims => Grant.canonicalArtifactGrantV1 claims
  | .connectionFence claims => Fence.canonicalConnectionFenceV2 claims
  | .fenceBinding claims => Fence.canonicalFenceBindingV2 claims

/-- The bytes of claims behind their separator. -/
def SignedClaims.body : SignedClaims → Bytes
  | .command claims => commandFormat.encode claims
  | .sessionGrant claims => sessionFormat.encode claims
  | .artifactGrant claims => artifactFormat.encode claims
  | .connectionFence claims => fenceFormat.encode claims
  | .fenceBinding claims => bindingFormat.encode claims

/-- Claims whose fields fit the widths of their transcript. -/
def SignedClaims.Fits : SignedClaims → Prop
  | .command claims => commandFormat.Fits claims
  | .sessionGrant claims => sessionFormat.Fits claims
  | .artifactGrant claims => artifactFormat.Fits claims
  | .connectionFence claims => fenceFormat.Fits claims
  | .fenceBinding claims => bindingFormat.Fits claims

/-- An accepted message is written as its separator and its fields. -/
theorem SignedMessage.canonical_ok {message : SignedMessage} {claims : SignedClaims}
    (hclaims : message.claims = .ok claims) (hb : claims.canonical = .ok b) :
    claims.Fits ∧ b = claims.kind.domain ++ claims.body := by
  cases message with
  | command envelope =>
    obtain ⟨c, hc, rfl⟩ := map_eq_ok_iff.1 hclaims
    exact canonicalV1_ok hc hb
  | sessionGrant grant =>
    obtain ⟨c, hc, rfl⟩ := map_eq_ok_iff.1 hclaims
    exact canonicalSessionGrantV1_ok hc hb
  | artifactGrant grant =>
    obtain ⟨c, hc, rfl⟩ := map_eq_ok_iff.1 hclaims
    exact canonicalArtifactGrantV1_ok hc hb
  | connectionFence fence =>
    obtain ⟨c, hc, rfl⟩ := map_eq_ok_iff.1 hclaims
    exact canonicalConnectionFenceV2_ok hb
  | fenceBinding binding =>
    obtain ⟨c, hc, rfl⟩ := map_eq_ok_iff.1 hclaims
    exact canonicalFenceBindingV2_ok hb

/-- Claims of one kind are determined by their bytes. -/
theorem SignedClaims.body_inj {claims claims' : SignedClaims} (hkind : claims.kind = claims'.kind)
    (hfits : claims.Fits) (hfits' : claims'.Fits) (h : claims.body = claims'.body) :
    claims = claims' := by
  cases claims with
  | command c =>
    cases claims' with
    | command c' => exact congrArg _ (commandFormat.encode_inj hfits hfits' h)
    | _ => cases hkind
  | sessionGrant c =>
    cases claims' with
    | sessionGrant c' => exact congrArg _ (sessionFormat.encode_inj hfits hfits' h)
    | _ => cases hkind
  | artifactGrant c =>
    cases claims' with
    | artifactGrant c' => exact congrArg _ (artifactFormat.encode_inj hfits hfits' h)
    | _ => cases hkind
  | connectionFence c =>
    cases claims' with
    | connectionFence c' => exact congrArg _ (fenceFormat.encode_inj hfits hfits' h)
    | _ => cases hkind
  | fenceBinding c =>
    cases claims' with
    | fenceBinding c' => exact congrArg _ (bindingFormat.encode_inj hfits hfits' h)
    | _ => cases hkind

/-- **Signed transcripts are unambiguous**: two accepted messages with one transcript have the same
claims, and transcripts of different kinds do not begin one another. -/
theorem transcripts_unambiguous {message message' : SignedMessage} {claims claims' : SignedClaims}
    {b b' : Bytes} (hclaims : message.claims = .ok claims) (hb : claims.canonical = .ok b)
    (hclaims' : message'.claims = .ok claims') (hb' : claims'.canonical = .ok b') :
    (b = b' → claims = claims') ∧ (claims.kind ≠ claims'.kind → ¬ b <+: b') := by
  obtain ⟨hfits, rfl⟩ := SignedMessage.canonical_ok hclaims hb
  obtain ⟨hfits', rfl⟩ := SignedMessage.canonical_ok hclaims' hb'
  constructor
  · intro h
    obtain ⟨hkind, hbody⟩ := SignedKind.format.front trivial trivial h
    exact SignedClaims.body_inj hkind hfits hfits' hbody
  · rintro hne ⟨rest, h⟩
    rw [List.append_assoc] at h
    exact hne (SignedKind.format.front trivial trivial h).1

def sampleFenceClaims : ConnectionFenceClaimsV2 where
  keyId := "ed25519"
  nodeId := sampleUuid 3
  endpointId := .fill 9
  term := ⟨sampleUuid 7, sampleUuid 8, 1, 1, sampleUuid 4, 1⟩
  capabilities := ["ocserv.fencing.v2", "ocserv.users.write"]
  leaseUntil := ⟨530, 0⟩
  issuedAt := ⟨490, 0⟩
  expiresAt := ⟨530, 0⟩

def sampleBindingClaims : FenceBindingClaimsV2 where
  keyId := "ed25519"
  operationKind := 1
  operationId := sampleUuid 1
  nodeId := sampleUuid 3
  endpointId := .fill 9
  term := ⟨sampleUuid 7, sampleUuid 8, 1, 1, sampleUuid 4, 1⟩
  capability := "ocserv.users.write"
  issuedAt := ⟨490, 0⟩
  expiresAt := ⟨530, 0⟩

/-- A fence and a binding of one ownership term, both accepted. -/
theorem fence_and_binding_differ : ∃ b b',
    (SignedMessage.connectionFence (sampleFence 1 4)).claims =
      .ok (.connectionFence sampleFenceClaims) ∧
    (SignedClaims.connectionFence sampleFenceClaims).canonical = .ok b ∧
    (SignedMessage.fenceBinding (sampleBinding 1 4)).claims =
      .ok (.fenceBinding sampleBindingClaims) ∧
    (SignedClaims.fenceBinding sampleBindingClaims).canonical = .ok b' ∧ b ≠ b' ∧ ¬ b <+: b' := by
  have hfence : (SignedMessage.connectionFence (sampleFence 1 4)).claims =
      .ok (.connectionFence sampleFenceClaims) := by decide
  have hbinding : (SignedMessage.fenceBinding (sampleBinding 1 4)).claims =
      .ok (.fenceBinding sampleBindingClaims) := by decide
  refine ⟨_, _, hfence, rfl, hbinding, rfl, fun h => ?_, ?_⟩
  · cases (transcripts_unambiguous hfence rfl hbinding rfl).1 h
  · exact (transcripts_unambiguous hfence rfl hbinding rfl).2 nofun

end Ocservia
