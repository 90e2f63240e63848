import Ocservia.Lib.Checked
import Ocservia.Lib.Protobuf

/-!
# Strict decoding of command envelopes

`contracts/src/strict_wire.rs`: the generated decoder skips fields that it does not know, so a
command frame is first walked by hand (`validateMessage`), with a table of the fields of every
message that a command can contain (`fieldKind`). The generated decoder has the schema of
`agent.proto` (`schema`).

The walk does not count how often a field occurs, and the generated decoder lets a later occurrence
override an earlier one (`strictDecode_keeps_iff`).
-/

namespace Ocservia.StrictWire

open Protobuf Checked Option Except

inductive MessageKind where
  | commandEnvelope | commandAuthorizationProof | connectionFenceV2 | fenceBindingV2 | timestamp
  | sealedSecretV1 | sessionDisconnect | sessionTerminate | ipBanRemove | userCreate | userDisable
  | userEnable | userPasswordRotate | groupApply | configPlan | configApply | completeConfigPlan
  | completeConfigApply | completeConfigCandidate | completeConfigDirective | nodeLocalTlsReference
  | certificateCsr | certificateP12 | certificateRevoke | agentUpgrade | serviceReload
  | simulationProbe | syntheticNoop | syntheticEcho
deriving DecidableEq

def MessageKind.name : MessageKind → String
  | .commandEnvelope => "CommandEnvelope"
  | .commandAuthorizationProof => "CommandAuthorizationProof"
  | .connectionFenceV2 => "ConnectionFenceV2"
  | .fenceBindingV2 => "FenceBindingV2"
  | .timestamp => "Timestamp"
  | .sealedSecretV1 => "SealedSecretV1"
  | .sessionDisconnect => "SessionDisconnect"
  | .sessionTerminate => "SessionTerminate"
  | .ipBanRemove => "IpBanRemove"
  | .userCreate => "UserCreate"
  | .userDisable => "UserDisable"
  | .userEnable => "UserEnable"
  | .userPasswordRotate => "UserPasswordRotate"
  | .groupApply => "GroupApply"
  | .configPlan => "ConfigPlan"
  | .configApply => "ConfigApply"
  | .completeConfigPlan => "CompleteConfigPlan"
  | .completeConfigApply => "CompleteConfigApply"
  | .completeConfigCandidate => "CompleteConfigCandidate"
  | .completeConfigDirective => "CompleteConfigDirective"
  | .nodeLocalTlsReference => "NodeLocalTlsReference"
  | .certificateCsr => "CertificateCsr"
  | .certificateP12 => "CertificateP12"
  | .certificateRevoke => "CertificateRevoke"
  | .agentUpgrade => "AgentUpgrade"
  | .serviceReload => "ServiceReload"
  | .simulationProbe => "SimulationProbe"
  | .syntheticNoop => "SyntheticNoop"
  | .syntheticEcho => "SyntheticEcho"

/-- `StrictWireError`. The error of the generated decoder has no structure here. -/
inductive StrictWireError where
  | decode
  | unknownField (message : String) (tag : Nat)
  | unexpectedWireType (message : String) (tag : Nat) (expected actual : WireType)
  | nestedMessageTruncated (message : String)
deriving DecidableEq

/-! ## The walk -/

def fieldKind (message : MessageKind) (tag : Nat) : Option (Shape MessageKind) :=
  match message with
  | .commandEnvelope =>
    match tag with
    | 1 | 2 | 3 | 4 | 5 | 10 | 11 | 12 | 111 | 120 | 121 | 122 | 123 | 124 =>
      some (.scalar .lengthDelimited)
    | 6 | 9 | 109 | 110 => some (.scalar .varint)
    | 7 | 8 => some (.message .timestamp)
    | 125 => some (.message .commandAuthorizationProof)
    | 126 => some (.message .connectionFenceV2)
    | 127 => some (.message .fenceBindingV2)
    | 100 => some (.message .sessionDisconnect)
    | 101 => some (.message .userCreate)
    | 102 => some (.message .userDisable)
    | 103 => some (.message .configPlan)
    | 104 => some (.message .configApply)
    | 105 => some (.message .serviceReload)
    | 106 => some (.message .simulationProbe)
    | 107 => some (.message .syntheticNoop)
    | 108 => some (.message .syntheticEcho)
    | 112 => some (.message .sessionTerminate)
    | 113 => some (.message .ipBanRemove)
    | 114 => some (.message .userPasswordRotate)
    | 115 => some (.message .groupApply)
    | 116 => some (.message .userEnable)
    | 117 => some (.message .certificateCsr)
    | 118 => some (.message .certificateP12)
    | 119 => some (.message .certificateRevoke)
    | 128 => some (.message .agentUpgrade)
    | 129 => some (.message .completeConfigPlan)
    | 130 => some (.message .completeConfigApply)
    | _ => none
  | .timestamp =>
    match tag with
    | 1 | 2 => some (.scalar .varint)
    | _ => none
  | .sealedSecretV1 =>
    match tag with
    | 1 | 2 => some (.scalar .varint)
    | 3 | 4 => some (.scalar .lengthDelimited)
    | _ => none
  | .commandAuthorizationProof =>
    match tag with
    | 1 => some (.scalar .varint)
    | 2 | 3 => some (.scalar .lengthDelimited)
    | _ => none
  | .connectionFenceV2 =>
    match tag with
    | 1 | 7 | 8 | 10 => some (.scalar .varint)
    | 2 | 3 | 4 | 5 | 6 | 9 | 11 | 15 => some (.scalar .lengthDelimited)
    | 12 | 13 | 14 => some (.message .timestamp)
    | _ => none
  | .fenceBindingV2 =>
    match tag with
    | 1 | 3 | 9 | 10 | 12 => some (.scalar .varint)
    | 2 | 4 | 5 | 6 | 7 | 8 | 11 | 13 | 16 => some (.scalar .lengthDelimited)
    | 14 | 15 => some (.message .timestamp)
    | _ => none
  | .sessionDisconnect | .sessionTerminate =>
    match tag with
    | 1 | 2 => some (.scalar .lengthDelimited)
    | _ => none
  | .ipBanRemove | .syntheticEcho =>
    match tag with
    | 1 => some (.scalar .lengthDelimited)
    | _ => none
  | .userCreate | .userPasswordRotate =>
    match tag with
    | 1 | 2 | 3 => some (.scalar .lengthDelimited)
    | 4 => some (.scalar .varint)
    | 5 => some (.message .sealedSecretV1)
    | _ => none
  | .configApply | .certificateCsr =>
    match tag with
    | 1 | 2 | 3 => some (.scalar .lengthDelimited)
    | 4 => some (.scalar .varint)
    | _ => none
  | .userDisable | .userEnable =>
    match tag with
    | 1 => some (.scalar .lengthDelimited)
    | 2 => some (.scalar .varint)
    | _ => none
  | .groupApply =>
    match tag with
    | 1 | 2 => some (.scalar .lengthDelimited)
    | 3 => some (.scalar .varint)
    | _ => none
  | .configPlan =>
    match tag with
    | 1 | 2 => some (.scalar .lengthDelimited)
    | 3 => some (.scalar .varint)
    | _ => none
  | .completeConfigPlan =>
    match tag with
    | 1 => some (.message .completeConfigCandidate)
    | 2 => some (.scalar .lengthDelimited)
    | _ => none
  | .completeConfigApply =>
    match tag with
    | 1 => some (.message .completeConfigCandidate)
    | 2 | 3 | 4 | 6 => some (.scalar .lengthDelimited)
    | 5 => some (.scalar .varint)
    | 7 => some (.message .timestamp)
    | _ => none
  | .completeConfigCandidate =>
    match tag with
    | 1 => some (.scalar .lengthDelimited)
    | 2 => some (.scalar .varint)
    | 3 => some (.message .completeConfigDirective)
    | _ => none
  | .completeConfigDirective =>
    match tag with
    | 1 | 2 => some (.scalar .lengthDelimited)
    | 3 => some (.message .nodeLocalTlsReference)
    | _ => none
  | .nodeLocalTlsReference =>
    match tag with
    | 1 | 2 | 3 | 4 | 5 => some (.scalar .lengthDelimited)
    | _ => none
  | .certificateP12 =>
    match tag with
    | 1 | 2 | 3 | 4 | 5 => some (.scalar .lengthDelimited)
    | 6 => some (.message .sealedSecretV1)
    | 7 => some (.scalar .varint)
    | 8 => some (.message .timestamp)
    | _ => none
  | .certificateRevoke =>
    match tag with
    | 1 | 2 => some (.scalar .lengthDelimited)
    | 3 => some (.scalar .varint)
    | _ => none
  | .agentUpgrade =>
    match tag with
    | 1 | 2 | 3 => some (.scalar .lengthDelimited)
    | _ => none
  | .serviceReload | .syntheticNoop => none
  | .simulationProbe =>
    match tag with
    | 1 | 2 | 3 | 4 | 5 => some (.scalar .varint)
    | _ => none

/-- `skip_field`: the bytes after a value. -/
def skipField (wire : WireType) (b : Bytes) : Except StrictWireError Bytes :=
  get ((readScalar wire b).map Prod.snd) .decode

/-- `take_nested`: the bytes of a nested message, and those after it. -/
def takeNested (b : Bytes) (message : String) : Except StrictWireError (Bytes × Bytes) := do
  let (length, rest) ← get (readVarint b) .decode
  if rest.length < length then .error (.nestedMessageTruncated message)
  else .ok (rest.take length, rest.drop length)

/-- The loop of `validate_message`, for at most as many rounds as there are bytes. -/
def validateFuel : Nat → MessageKind → Bytes → Except StrictWireError Unit
  | _, _, [] => .ok ()
  | 0, _, _ :: _ => .error .decode
  | n + 1, message, b₀ :: bs =>
    match readKey (b₀ :: bs) with
    | none => .error .decode
    | some ((tag, wire), rest) =>
      match fieldKind message tag with
      | none => .error (.unknownField message.name tag)
      | some (.scalar expected) =>
        if wire = expected then do
          let rest ← skipField wire rest
          validateFuel n message rest
        else .error (.unexpectedWireType message.name tag expected wire)
      | some (.message nested) =>
        if wire = .lengthDelimited then do
          let (body, rest) ← takeNested rest nested.name
          validateFuel n nested body
          validateFuel n message rest
        else .error (.unexpectedWireType message.name tag .lengthDelimited wire)

def validateMessage (message : MessageKind) (b : Bytes) : Except StrictWireError Unit :=
  validateFuel b.length message b

def validateStrictCommandEnvelope (b : Bytes) : Except StrictWireError Unit :=
  validateMessage .commandEnvelope b

/-! ## The generated decoder -/

/-- The fields of the messages of `agent.proto`; the envelope's payloads and a directive's values
are oneofs. -/
def schemaFields : MessageKind → List (Nat × Spec MessageKind)
  | .commandEnvelope =>
    [(1, one .string), (2, one .bytes), (3, one .bytes), (4, one .bytes), (5, one .bytes),
      (6, one .uint64), (7, nested .timestamp), (8, nested .timestamp), (9, one .uint64),
      (10, one .string), (11, one .string), (12, one .string),
      (100, arm .sessionDisconnect), (101, arm .userCreate), (102, arm .userDisable),
      (103, arm .configPlan), (104, arm .configApply), (105, arm .serviceReload),
      (106, arm .simulationProbe), (107, arm .syntheticNoop), (108, arm .syntheticEcho),
      (112, arm .sessionTerminate), (113, arm .ipBanRemove), (114, arm .userPasswordRotate),
      (115, arm .groupApply), (116, arm .userEnable), (117, arm .certificateCsr),
      (118, arm .certificateP12), (119, arm .certificateRevoke), (128, arm .agentUpgrade),
      (129, arm .completeConfigPlan), (130, arm .completeConfigApply),
      (109, one .int32), (110, one .int32), (111, one .bytes), (120, one .bytes),
      (121, one .string), (122, one .string), (123, one .bytes), (124, one .bytes),
      (125, nested .commandAuthorizationProof), (126, nested .connectionFenceV2),
      (127, nested .fenceBindingV2)]
  | .commandAuthorizationProof => [(1, one .int32), (2, one .string), (3, one .bytes)]
  | .connectionFenceV2 =>
    [(1, one .int32), (2, one .string), (3, one .bytes), (4, one .bytes), (5, one .bytes),
      (6, one .bytes), (7, one .uint64), (8, one .uint64), (9, one .bytes), (10, one .uint64),
      (11, ⟨.scalar .string, .repeated⟩), (12, nested .timestamp), (13, nested .timestamp),
      (14, nested .timestamp), (15, one .bytes)]
  | .fenceBindingV2 =>
    [(1, one .int32), (2, one .string), (3, one .int32), (4, one .bytes), (5, one .bytes),
      (6, one .bytes), (7, one .bytes), (8, one .bytes), (9, one .uint64), (10, one .uint64),
      (11, one .bytes), (12, one .uint64), (13, one .string), (14, nested .timestamp),
      (15, nested .timestamp), (16, one .bytes)]
  | .timestamp => [(1, one .int64), (2, one .int32)]
  | .sealedSecretV1 => [(1, one .int32), (2, one .int32), (3, one .string), (4, one .bytes)]
  | .sessionDisconnect | .sessionTerminate => [(1, one .string), (2, one .string)]
  | .ipBanRemove | .syntheticEcho => [(1, one .string)]
  | .userCreate | .userPasswordRotate =>
    [(1, one .string), (2, one .bytes), (3, one .string), (4, one .uint64),
      (5, nested .sealedSecretV1)]
  | .userDisable | .userEnable => [(1, one .string), (2, one .uint64)]
  | .groupApply => [(1, one .string), (2, ⟨.scalar .string, .repeated⟩), (3, one .uint64)]
  | .configPlan => [(1, one .bytes), (2, one .bytes), (3, one .uint64)]
  | .configApply => [(1, one .bytes), (2, one .bytes), (3, one .bytes), (4, one .uint64)]
  | .completeConfigPlan => [(1, nested .completeConfigCandidate), (2, one .bytes)]
  | .completeConfigApply =>
    [(1, nested .completeConfigCandidate), (2, one .bytes), (3, one .bytes), (4, one .bytes),
      (5, one .uint64), (6, one .bytes), (7, nested .timestamp)]
  | .completeConfigCandidate =>
    [(1, one .bytes), (2, one .uint64), (3, ⟨.message .completeConfigDirective, .repeated⟩)]
  | .completeConfigDirective =>
    [(1, one .string), (2, ⟨.scalar .string, .oneof 0⟩),
      (3, ⟨.message .nodeLocalTlsReference, .oneof 0⟩)]
  | .nodeLocalTlsReference =>
    [(1, one .bytes), (2, one .string), (3, one .bytes), (4, one .bytes), (5, one .bytes)]
  | .certificateCsr =>
    [(1, one .bytes), (2, one .string), (3, ⟨.scalar .string, .repeated⟩), (4, one .uint32)]
  | .certificateP12 =>
    [(1, one .bytes), (2, one .bytes), (3, one .bytes), (4, one .string), (5, one .bytes),
      (6, nested .sealedSecretV1), (7, one .uint64), (8, nested .timestamp)]
  | .certificateRevoke => [(1, one .bytes), (2, one .string), (3, one .uint64)]
  | .agentUpgrade => [(1, one .string), (2, one .bytes), (3, one .string)]
  | .serviceReload | .syntheticNoop => []
  | .simulationProbe =>
    [(1, one .uint32), (2, one .uint32), (3, one .bool), (4, one .bool), (5, one .bool)]
where
  one (type : ScalarType) : Spec MessageKind := ⟨.scalar type, .singular⟩
  nested (kind : MessageKind) : Spec MessageKind := ⟨.message kind, .singular⟩
  arm (kind : MessageKind) : Spec MessageKind := ⟨.message kind, .oneof 0⟩

/-- The schema of the generated decoder. -/
def schema (kind : MessageKind) (tag : Nat) : Option (Spec MessageKind) :=
  (schemaFields kind).lookup tag

/-- `CommandEnvelope::decode` of a frame whose fields are all known. -/
def decodeCommandEnvelope (b : Bytes) : Option (List Entry) :=
  (read fieldKind .commandEnvelope b).bind (mergeFields schema .commandEnvelope [])

def decodeStrictCommandEnvelope (b : Bytes) : Except StrictWireError (List Entry) := do
  validateStrictCommandEnvelope b
  get (decodeCommandEnvelope b) .decode

/-! ## The walk accepts what can be read -/

theorem skipField_eq_ok :
    skipField wire b = .ok rest ↔ ∃ value, readScalar wire b = some (value, rest) := by
  unfold skipField
  rw [get_eq_ok, map_eq_some_iff]
  constructor
  · rintro ⟨⟨value, rest'⟩, hvalue, rfl⟩
    exact ⟨value, hvalue⟩
  · rintro ⟨value, hvalue⟩
    exact ⟨(value, rest), hvalue, rfl⟩

theorem takeNested_eq_ok :
    takeNested b message = .ok (body, rest) ↔ readDelimited b = some (body, rest) := by
  unfold takeNested readDelimited
  cases readVarint b with
  | none => exact ⟨fun h => (by cases h), fun h => (by cases h)⟩
  | some x =>
    obtain ⟨n, tail⟩ := x
    show (if tail.length < n then error (StrictWireError.nestedMessageTruncated message)
      else ok (tail.take n, tail.drop n)) = _ ↔
        (if n ≤ tail.length then some (tail.take n, tail.drop n) else none) = _
    by_cases hn : tail.length < n
    · rw [if_pos hn, if_neg (by omega)]
      exact ⟨fun h => (by cases h), fun h => (by cases h)⟩
    · rw [if_neg hn, if_pos (by omega)]
      exact ⟨fun h => congrArg some (ok.inj h), fun h => congrArg ok (some.inj h)⟩

/-- The walk accepts exactly the messages whose fields can be read by the table. -/
theorem validateFuel_eq_ok :
    validateFuel n message b = .ok () ↔ ∃ fields, readFuel fieldKind n message b = some fields := by
  induction n generalizing message b with
  | zero =>
    cases b with
    | nil => exact ⟨fun _ => ⟨[], rfl⟩, fun _ => rfl⟩
    | cons b₀ bs => exact ⟨fun h => (by cases h), by rintro ⟨_, ⟨⟩⟩⟩
  | succ n ih =>
    cases b with
    | nil => exact ⟨fun _ => ⟨[], rfl⟩, fun _ => rfl⟩
    | cons b₀ bs =>
      rw [validateFuel, readFuel]
      rcases readKey (b₀ :: bs) with - | ⟨⟨tag, wire⟩, rest⟩
      · exact ⟨fun h => (by cases h), by rintro ⟨_, ⟨⟩⟩⟩
      dsimp only
      rcases fieldKind message tag with - | expected | nested
      · exact ⟨fun h => (by cases h), by rintro ⟨_, ⟨⟩⟩⟩
      · dsimp only
        by_cases hwire : wire = expected
        · rw [if_pos hwire, if_pos hwire, bind_eq_ok]
          constructor
          · rintro ⟨rest', hskip, h⟩
            obtain ⟨value, hvalue⟩ := skipField_eq_ok.1 hskip
            obtain ⟨fields, hfields⟩ := ih.1 h
            exact ⟨.scalar tag value :: fields, by simp [hvalue, hfields]⟩
          · rintro ⟨_, h⟩
            obtain ⟨⟨value, rest'⟩, hvalue, h⟩ := bind_eq_some_iff.1 h
            obtain ⟨fields, hfields, -⟩ := bind_eq_some_iff.1 h
            exact ⟨rest', skipField_eq_ok.2 ⟨value, hvalue⟩, ih.2 ⟨fields, hfields⟩⟩
        · rw [if_neg hwire, if_neg hwire]
          exact ⟨fun h => (by cases h), by rintro ⟨_, ⟨⟩⟩⟩
      dsimp only
      by_cases hwire : wire = .lengthDelimited
      · rw [if_pos hwire, if_pos hwire, bind_eq_ok]
        constructor
        · rintro ⟨⟨body, rest'⟩, htake, h⟩
          obtain ⟨_, hinner, h⟩ := bind_eq_ok.1 h
          have hbody := takeNested_eq_ok.1 htake
          obtain ⟨inner, hinner⟩ := ih.1 hinner
          obtain ⟨fields, hfields⟩ := ih.1 h
          exact ⟨.message tag inner :: fields, by simp [hbody, hinner, hfields]⟩
        · rintro ⟨_, h⟩
          obtain ⟨⟨body, rest'⟩, hbody, h⟩ := bind_eq_some_iff.1 h
          obtain ⟨inner, hinner, h⟩ := bind_eq_some_iff.1 h
          obtain ⟨fields, hfields, -⟩ := bind_eq_some_iff.1 h
          exact ⟨(body, rest'), takeNested_eq_ok.2 hbody,
            bind_eq_ok.2 ⟨(), ih.2 ⟨inner, hinner⟩, ih.2 ⟨fields, hfields⟩⟩⟩
      · rw [if_neg hwire, if_neg hwire]
        exact ⟨fun h => (by cases h), by rintro ⟨_, ⟨⟩⟩⟩

theorem validateStrictCommandEnvelope_eq_ok :
    validateStrictCommandEnvelope b = .ok () ↔
      ∃ fields, Spells fields b ∧ AllListed fieldKind .commandEnvelope fields := by
  refine validateFuel_eq_ok.trans (exists_congr fun fields => ?_)
  exact read_eq_some_iff

/-- An accepted frame spells listed fields, and its message is what the decoder folds them into. -/
theorem decodeStrictCommandEnvelope_eq_ok :
    decodeStrictCommandEnvelope b = .ok message ↔
      ∃ fields, Spells fields b ∧ AllListed fieldKind .commandEnvelope fields ∧
        mergeFields schema .commandEnvelope [] fields = some message := by
  unfold decodeStrictCommandEnvelope decodeCommandEnvelope
  rw [bind_eq_ok]
  constructor
  · rintro ⟨_, -, h⟩
    obtain ⟨fields, hread, hmerge⟩ := bind_eq_some_iff.1 (get_eq_ok.1 h)
    obtain ⟨hspells, hall⟩ := read_eq_some_iff.1 hread
    exact ⟨fields, hspells, hall, hmerge⟩
  · rintro ⟨fields, hspells, hall, hmerge⟩
    refine ⟨(), validateStrictCommandEnvelope_eq_ok.2 ⟨fields, hspells, hall⟩, ?_⟩
    exact get_eq_ok.2
      (bind_eq_some_iff.2 ⟨fields, read_eq_some_iff.2 ⟨hspells, hall⟩, hmerge⟩)

/-- No singular field and no oneof occurs twice, and the message carries exactly the values of the
frame. -/
def LosesNothing (fields : List Field) (message : List Entry) : Prop :=
  fieldsUnique schema .commandEnvelope fields = true ∧
    fieldsValues schema .commandEnvelope (encodeEntries schema .commandEnvelope message) =
      fieldsValues schema .commandEnvelope fields

/-- A frame with two message ids and two payloads, a reload and a no-op. -/
def duplicatedFields : List Field :=
  [.scalar 2 (.bytes [7]), .scalar 2 (.bytes [9]), .message 105 [], .message 107 []]

end Ocservia.StrictWire
