import Ocservia.Lib.Format
import Ocservia.Privd.UserEffects

/-!
# What the codes of the effect store authenticate

The adapter's `EffectStore` has one key. Under it stand the codes of authorized effects, of
certificate artifacts, of desired effects, of the authoritative files and of the store's own
identity. Behind its separator each input is a sequence of fields that are read from the front, but
for that of a desired effect: its kind and its resource end with a NUL, and its state is read from
the back, where no name of a state ends another (`stateAtEnd`). So an input is of one thing
(`effect_codes_unambiguous`).
-/

namespace Ocservia

open Wire Wire.Format List

/-! ## Records -/

/-- `ArtifactRecord.state`. -/
inductive ArtifactState where
  | prepared | available | leased | consumed | expired | revoked
deriving DecidableEq

/-- `ArtifactRecord`, without its code. -/
structure ArtifactRecord where
  (artifactId certificateId : Uuid)
  certificateVersion : UInt64
  operationId : Uuid
  contentSha256 : FixedBytes 32
  contentSize : UInt64
  artifactExpiresAt : Int64
  state : ArtifactState
  activeGrantId : Option Uuid
  activeSubject : String
  grantExpiresAt : Option Int64
  activeOffset : UInt64

/-- `EffectRecord` as it is read, without its code: the table may hold any texts. -/
structure EffectRow where
  (mutationKind resourceKey : String)
  revision : UInt64
  identity : EffectIdentity
  state : EffectState
  (beforeHmac afterHmac : FixedBytes 32)
deriving DecidableEq

def EffectKind.name : EffectKind → String
  | .userCreate => "user_create"
  | .userDisable => "user_disable"
  | .userEnable => "user_enable"
  | .userPasswordRotate => "user_password_rotate"
  | .groupApply => "group_apply"
  | .configApply => "config_apply"

def EffectState.name : EffectState → String
  | .prepared => "prepared"
  | .applied => "applied"
  | .absent => "absent"

def AuthorizedState.name : AuthorizedState → String
  | .prepared => "prepared"
  | .applied => "applied"

def ArtifactState.name : ArtifactState → String
  | .prepared => "prepared"
  | .available => "available"
  | .leased => "leased"
  | .consumed => "consumed"
  | .expired => "expired"
  | .revoked => "revoked"

def EffectRecord.row (r : EffectRecord (FixedBytes 32)) : EffectRow :=
  ⟨r.request.kind.name, r.request.key, r.request.revision, r.request.identity, r.state,
    r.beforeHmac,
    r.afterHmac⟩

/-! ## Inputs -/

/-- `append_effect_field`. -/
def effectField : Format Bytes where
  Fits b := b.length < 2 ^ 64
  encode b := be 8 (min b.length (2 ^ 64 - 1)) ++ b
  front {a b s t} ha hb h := by
    have hfits : ∀ n, (nat 8).Fits (min n (2 ^ 64 - 1)) := by
      intro n
      show min n (2 ^ 64 - 1) < 256 ^ 8
      omega
    rw [List.append_assoc, List.append_assoc] at h
    obtain ⟨hlength, h⟩ := (nat 8).front (hfits _) (hfits _) h
    exact List.append_inj h (by omega)

def effectText : Format String := effectField.comap utf8 utf8_injective

/-- The fields of `authenticate_authorized_record`. -/
def authorizedFormat : Format AuthorizedRecord :=
  ((block 16).pair <| (block 16).pair <| (block 16).pair <| (block 16).pair <| (block 32).pair <|
    effectText.pair <| u64.pair <| effectText.pair <| effectText.pair <| u64.pair <| i64.pair <|
    (effectText.comap AuthorizedState.name fun a b => by cases a <;> cases b <;> decide).pair <|
    (i64.comap (fun retry : Bool => if retry then 3 else 1) fun a b => by
      cases a <;> cases b <;> decide).pair effectField).comap
    (fun r => (r.identity.commandId, r.identity.idempotencyKey, r.identity.nodeId,
      r.identity.operationId, r.identity.semanticPayloadSha256, r.identity.action,
      r.identity.authorizationRevision, r.identity.effectKind, r.identity.resourceKey,
      r.identity.effectRevision, r.identity.expiresAtUnixSeconds, r.state, r.identity.retryIfAbsent,
      r.response))
    fun a b h => by
      obtain ⟨⟨⟩, _⟩ := a
      obtain ⟨⟨⟩, _⟩ := b
      simp only [Prod.mk.injEq] at h
      simp only [AuthorizedRecord.mk.injEq, AuthorizedEffectIdentity.mk.injEq]
      tauto

/-- The fields of `authenticate_artifact_record`. -/
def artifactRecordFormat : Format ArtifactRecord :=
  ((block 16).pair <| (block 16).pair <| u64.pair <| (block 16).pair <| (block 32).pair <|
    u64.pair <| i64.pair <|
    (effectText.comap ArtifactState.name fun a b => by cases a <;> cases b <;> decide).pair <|
    (block 16).optional.pair <| effectText.pair <| i64.optional.pair u64).comap
    (fun r => (r.artifactId, r.certificateId, r.certificateVersion, r.operationId, r.contentSha256,
      r.contentSize, r.artifactExpiresAt, r.state, r.activeGrantId, r.activeSubject,
      r.grantExpiresAt, r.activeOffset))
    fun a b h => by
      cases a
      cases b
      simpa only [ArtifactRecord.mk.injEq, Prod.mk.injEq] using h

/-- The fields between the texts and the state of `authenticate_record`. -/
def identityFormat : Format (UInt64 × EffectIdentity) :=
  u64.pair (((block 16).pair <| (block 16).pair <| (block 32).pair i64).comap
    (fun i => (i.commandId, i.idempotencyKey, i.semanticPayloadSha256, i.expiresAtUnixSeconds))
    fun a b h => by
      cases a
      cases b
      simpa only [EffectIdentity.mk.injEq, Prod.mk.injEq] using h)

/-- `authenticate_record`, behind its separator. -/
def EffectRow.body (r : EffectRow) : Bytes :=
  utf8 r.mutationKind ++ 0 :: utf8 r.resourceKey ++
    0 :: identityFormat.encode (r.revision, r.identity) ++
    utf8 r.state.name ++ (r.beforeHmac.1 ++ r.afterHmac.1)

/-- What the store authenticates. -/
inductive Authenticated where
  | authorized (r : AuthorizedRecord)
  | artifact (r : ArtifactRecord)
  | desired (r : EffectRow)
  | file (bytes : Bytes)
  | storeIdentity (storeId : Uuid)

namespace Authenticated

inductive Kind where
  | authorized | artifact | desired | file | storeIdentity
deriving DecidableEq

def Kind.separator : Kind → Bytes
  | .authorized => utf8 "ocservia.authorized-effect-record.v1\x00"
  | .artifact => utf8 "ocservia.certificate-artifact-record.v1\x00"
  | .desired => utf8 "ocservia.desired-effect-record.v1\x00"
  | .file => utf8 "ocservia.authoritative-file.v1\x00"
  | .storeIdentity => utf8 "ocservia.effect-store-identity.v1\x00"

/-- The separators differ before the shortest of them ends. -/
def Kind.format : Format Kind :=
  Format.marks separator 17 (fun kind => by cases kind <;> decide) fun a b h => by
    revert h
    cases a <;> cases b <;> decide

def kind : Authenticated → Kind
  | .authorized _ => .authorized
  | .artifact _ => .artifact
  | .desired _ => .desired
  | .file _ => .file
  | .storeIdentity _ => .storeIdentity

def body : Authenticated → Bytes
  | .authorized r => authorizedFormat.encode r
  | .artifact r => artifactRecordFormat.encode r
  | .desired r => r.body
  | .file bytes => bytes
  | .storeIdentity storeId => storeId.1

/-- What `hmac_sha256` is given. -/
def input (a : Authenticated) : Bytes := a.kind.separator ++ a.body

/-- A row that can be read: its texts have the length of a buffer. -/
def Sized : Authenticated → Prop
  | .authorized r => authorizedFormat.Fits r
  | .artifact r => artifactRecordFormat.Fits r
  | _ => True

/-- What the store makes a code of: a desired effect was validated. -/
def Made (a : Authenticated) : Prop :=
  a.Sized ∧ ∀ row, a = .desired row →
    ∃ (r : EffectRecord (FixedBytes 32)) (now : Int), r.request.validate now = .ok () ∧ row = r.row

end Authenticated

/-! ## A desired effect -/

/-- No name of a state ends another. -/
def stateAtEnd : Format EffectState :=
  Format.marks (fun s => (utf8 s.name).reverse) 6 (fun s => by cases s <;> decide) fun a b h => by
    revert h
    cases a <;> cases b <;> decide

theorem nul_notMem_of_validName (h : validName value = true) : 0 ∉ utf8 value := by
  simp only [validName, Bool.and_eq_true] at h
  intro hmem
  cases hutf : utf8 value with
  | nil => rw [hutf] at hmem; cases hmem
  | cons b bs =>
    have hname := h.2
    rw [hutf, identifierBytes, Bool.and_eq_true, all_eq_true] at hname
    rw [hutf] at hmem
    rcases mem_cons.1 hmem with rfl | hmem
    · exact absurd hname.1 (by decide)
    · exact absurd (hname.2 0 hmem) (by decide)

/-- The bytes of a row determine it, once its kind and its resource have no NUL. -/
theorem EffectRow.body_inj {r r' : EffectRow} (hkind : 0 ∉ utf8 r.mutationKind)
    (hkey : 0 ∉ utf8 r.resourceKey) (h : r.body = r'.body) : r = r' := by
  obtain ⟨hfront, hfiles⟩ := append_inj' h (by simp [r.beforeHmac.2, r.afterHmac.2,
    r'.beforeHmac.2, r'.afterHmac.2])
  obtain ⟨hbefore, hafter⟩ := append_inj hfiles (r.beforeHmac.2.trans r'.beforeHmac.2.symm)
  have hback := congrArg reverse hfront
  rw [@reverse_append _ _ (utf8 r.state.name), @reverse_append _ _ (utf8 r'.state.name)]
    at hback
  obtain ⟨hstate, hback⟩ := stateAtEnd.front trivial trivial hback
  have hlength : ∀ x, (identityFormat.encode x).length = 80 := by
    intro x
    simp [identityFormat, pair, comap, block, u64, i64, nat, int, x.2.commandId.2,
      x.2.idempotencyKey.2, x.2.semanticPayloadSha256.2]
  obtain ⟨htexts, hfields⟩ := append_inj' (reverse_injective hback) (by simp [hlength])
  obtain ⟨hkinds, -, hkeys⟩ := (append_cons_inj_of_notMem hkind hkey).1 htexts
  have hidentity := identityFormat.encode_inj ⟨u64_fits _, trivial, trivial, trivial, i64_fits _⟩
    ⟨u64_fits _, trivial, trivial, trivial, i64_fits _⟩ (cons.inj hfields).2
  cases r
  cases r'
  simp only [Prod.mk.injEq] at hidentity
  simp only [EffectRow.mk.injEq]
  exact ⟨utf8_inj.1 hkinds, utf8_inj.1 hkeys, hidentity.1, hidentity.2, hstate, Subtype.ext hbefore,
    Subtype.ext hafter⟩

theorem EffectKind.nul_notMem_name (kind : EffectKind) : 0 ∉ utf8 kind.name := by
  cases kind <;> decide

namespace Authenticated

/-- **The inputs of the codes are unambiguous**: a row read with the input of something that the
store makes a code of is that. -/
theorem effect_codes_unambiguous {a b : Authenticated} (ha : a.Made) (hb : b.Sized)
    (h : a.input = b.input) : a = b := by
  obtain ⟨hkind, hbody⟩ := Kind.format.front trivial trivial h
  cases a with
  | authorized r =>
    cases b with
    | authorized r' => exact congrArg _ (authorizedFormat.encode_inj ha.1 hb hbody)
    | _ => cases hkind
  | artifact r =>
    cases b with
    | artifact r' => exact congrArg _ (artifactRecordFormat.encode_inj ha.1 hb hbody)
    | _ => cases hkind
  | desired row =>
    cases b with
    | desired row' =>
      obtain ⟨r, now, hvalid, rfl⟩ := ha.2 row rfl
      have hchecks := Checked.require_eq_ok.1 hvalid
      simp only [Bool.and_eq_true] at hchecks
      exact congrArg _ (EffectRow.body_inj r.request.kind.nul_notMem_name
        (nul_notMem_of_validName hchecks.1.1.1.2) hbody)
    | _ => cases hkind
  | file bytes =>
    cases b with
    | file bytes' => exact congrArg _ hbody
    | _ => cases hkind
  | storeIdentity storeId =>
    cases b with
    | storeIdentity storeId' => exact congrArg _ (Subtype.ext hbody)
    | _ => cases hkind

/-- The record of the sample creation, once it was prepared. -/
def sampleEffect : EffectRecord (FixedBytes 32) :=
  ⟨UserFile.sampleCreation, .prepared, ⟨List.replicate 32 1, rfl⟩, ⟨List.replicate 32 2, rfl⟩⟩

/-- A row with the texts of that record and the same input is its row. -/
theorem sampleEffect_read :
    let row : EffectRow := ⟨"user_create", "alice", 1, UserFile.sampleCreation.identity, .prepared,
      ⟨replicate 32 1, rfl⟩, ⟨replicate 32 2, rfl⟩⟩
    input (.desired sampleEffect.row) = input (.desired row) ∧ sampleEffect.row = row := by
  intro row
  have hinput : input (.desired sampleEffect.row) = input (.desired row) := by decide +kernel
  have hmade : Made (.desired sampleEffect.row) :=
    ⟨trivial, fun _ h => ⟨sampleEffect, 500, by decide +kernel, (desired.inj h).symm⟩⟩
  exact ⟨hinput, desired.inj (effect_codes_unambiguous hmade trivial hinput)⟩

end Authenticated

end Ocservia
