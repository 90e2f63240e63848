import Mathlib.Logic.Encodable.Basic
import Ocservia.Controller.Audit
import Ocservia.Lib.Decimal
import Ocservia.Lib.JsonTree

/-!
# What the audit chain is evidence of

`encodeChainPayload` hashes a JSON text of the record, so a change of a stored event is noticed when
the text changes. The text is the compact encoding of a struct (`payloadMembers`); it determines
every field (`payloadMembers_inj`). The summaries go through `canonicalJSON` first: decoded to a
value whose numbers are 64-bit floating point (`floatTree`) and encoded again, or, when a number is
too large for that, printed as they are stored (`exactTree`).

`tampering_evident_iff`: a change is noticed when it changes what the event is evidence of
(`evidence`).
-/

namespace Ocservia

open Wire JsonTree Option Nat Decimal JsonWriter

/-! ## Numbers of 64-bit floating point -/

/-- The finite number `mantissa * 2 ^ exponent`, with a sign. -/
structure Float64 where
  negative : Bool
  mantissa : Nat
  exponent : Int
deriving DecidableEq

/-- A quotient, rounded to the nearest number, and to the even one of two. -/
def roundQuotient (n d : Nat) : Nat :=
  if 2 * (n % d) < d ∨ (2 * (n % d) = d ∧ n / d % 2 = 0) then n / d else n / d + 1

/-- The place of the leading bit of a positive quotient. -/
def leadingBit (n d : Nat) : Int :=
  let k : Int := Nat.log2 n - Nat.log2 d
  if n * 2 ^ (-k).toNat < d * 2 ^ k.toNat then k - 1 else k

/-- `strconv.ParseFloat` of a JSON number: the nearest one with 53 bits, unless too large. -/
def parseFloat (n : JsonNumber) : Option Float64 :=
  let digits := (n.integer ++ n.fraction).foldl (fun v d => v * 10 + d.1) 0
  let scale := n.exponent - n.fraction.length
  let num := digits * 10 ^ scale.toNat
  let den := 10 ^ (-scale).toNat
  if num = 0 then some ⟨n.negative, 0, -1074⟩
  else
    let e := max (leadingBit num den - 52) (-1074)
    let m := roundQuotient (num * 2 ^ (-e).toNat) (den * 2 ^ e.toNat)
    -- Rounding up may reach the next power of two.
    let rounded : Float64 := if m = 2 ^ 53 then ⟨n.negative, 2 ^ 52, e + 1⟩ else ⟨n.negative, m, e⟩
    if 971 < rounded.exponent then none else some rounded

/-! ## Encodings -/

/-- The texts of the packages of the platform. -/
structure AuditEncoding where
  /-- `base64.StdEncoding`. -/
  base64 : Bytes → String
  /-- `time.Time.MarshalJSON`, which refuses the years after 9999. -/
  timeText : DbTime → Option String
  /-- `json.Marshal` of a number. -/
  floatText : Float64 → Bytes
  /-- A text of RFC 3339 determines the microsecond. -/
  timeText_inj : ∀ {t u s}, timeText t = some s → timeText u = some s → t = u
  /-- The shortest text that is parsed as the number. -/
  floatText_inj : Function.Injective floatText
  floatText_number : ∀ x, NumberText (floatText x)

section Trees
variable (E : AuditEncoding)

/-- Members in the order of their keys. -/
def sortMembers (members : List (String × Tree)) : List (String × Tree) :=
  members.insertionSort fun a b => utf8 a.1 ≤ utf8 b.1

mutual

/-- `json.Unmarshal` to a value with numbers of floating point, as `json.Marshal` encodes it. -/
def floatTree : Json → Option Tree
  | .null => some .null
  | .bool b => some (.bool b)
  | .string s => some (.string s)
  | .number n => (parseFloat n).map fun x => .number (E.floatText x)
  | .array items => (floatItems items).map .array
  | .object members => (floatMembers members).map fun members => .object (sortMembers members)

def floatItems : List Json → Option (List Tree)
  | [] => some []
  | item :: rest => do
    let t ← floatTree item
    let ts ← floatItems rest
    return t :: ts

def floatMembers : List (String × Json) → Option (List (String × Tree))
  | [] => some []
  | (key, value) :: rest => do
    let t ← floatTree value
    let ts ← floatMembers rest
    return (key, t) :: ts

end

mutual

/-- The value as `appendJSON` prints it, with its numbers as they are. -/
def exactTree : Json → Tree
  | .null => .null
  | .bool b => .bool b
  | .string s => .string s
  | .number n => .number n.printed.text
  | .array items => .array (exactItems items)
  | .object members => .object (exactMembers members)

def exactItems : List Json → List Tree
  | [] => []
  | item :: rest => exactTree item :: exactItems rest

def exactMembers : List (String × Json) → List (String × Tree)
  | [] => []
  | (key, value) :: rest => (key, exactTree value) :: exactMembers rest

end

end Trees

/-- The text of a summary, with the empty text for none. -/
def summaryText : Option Tree → Bytes
  | none => []
  | some t => t.print

/-- A summary is a JSON value. -/
def ProperSummary (summary : Option Tree) : Prop := ∀ t ∈ summary, t.Proper

/-- `uuid.UUID.String`. -/
def uuidText (id : Uuid) : String :=
  hexEncode (id.1.take 4) ++ "-" ++ hexEncode ((id.1.drop 4).take 2) ++ "-" ++
    hexEncode ((id.1.drop 6).take 2) ++ "-" ++ hexEncode ((id.1.drop 8).take 2) ++ "-" ++
    hexEncode (id.1.drop 10)

/-- A member with `omitempty`. -/
def omitEmpty (key : String) (value : Option Tree) : List (String × Tree) :=
  value.toList.map fun t => (key, t)

/-- The fields that are always written. -/
def requiredMembers (E : AuditEncoding) (previous : Option (FixedBytes 32)) (record : ChainRecord)
    (occurredAt : String) : List (String × Tree) :=
  [("previous", previous.elim .null fun hash => .string (E.base64 hash.1)),
    ("event_id", .string (uuidText record.eventId)),
    ("workspace_id", .string (uuidText record.workspaceId)),
    ("occurred_at", .string occurredAt),
    ("actor_type", .string record.actorType),
    ("actor_id", .string record.actorId),
    ("action", .string record.action),
    ("resource_type", .string record.resourceType),
    ("resource_id", .string (uuidText record.resourceId)),
    ("request_id", .string record.requestId),
    ("trace_id", .string record.traceId),
    ("result", .string record.result),
    ("reason", .string record.reason)]

/-- The fields that are left out when they are empty. -/
def optionalMembers (record : ChainRecord) (before after : Option Tree) : List (String × Tree) :=
  omitEmpty "SessionID" (record.sessionId.map fun id => .string (uuidText id)) ++
  (omitEmpty "NodeID" (record.nodeId.map fun id => .string (uuidText id)) ++
  (omitEmpty "CommandID" (record.commandId.map fun id => .string (uuidText id)) ++
  (omitEmpty "ApprovalID" (record.approvalId.map fun id => .string (uuidText id)) ++
  (omitEmpty "BeforeSummary" before ++
  (omitEmpty "AfterSummary" after ++
  omitEmpty "error_type" ((nullableString record.errorType).map .string))))))

/-- The struct of `encodeChainPayload`. -/
def payloadMembers (E : AuditEncoding) (previous : Option (FixedBytes 32)) (record : ChainRecord)
    (occurredAt : String) (before after : Option Tree) : List (String × Tree) :=
  requiredMembers E previous record occurredAt ++ optionalMembers record before after

/-- The platform encodes JSON as the package documents it. -/
structure AuditPlatform.Encodes (P : AuditPlatform) (E : AuditEncoding) : Prop where
  escape : P.json.escape = quote
  remarshal : ∀ text,
    P.remarshal text = ((P.json.decode text).bind (floatTree E)).map Tree.print
  marshalPayload : ∀ {previous record before after}, ProperSummary before → ProperSummary after →
    record.beforeSummary = summaryText before → record.afterSummary = summaryText after →
    P.marshalPayload previous record = (E.timeText record.occurredAt).map fun occurredAt =>
      (Tree.object (payloadMembers E previous record occurredAt before after)).print

/-! ## Canonical summaries -/

/-- `canonicalJSON`, before the text. -/
def canonicalTree (P : AuditPlatform) (E : AuditEncoding) (text : Bytes) : Option (Option Tree) :=
  if text = [] ∨ text = utf8 "null" then some none
  else match (P.json.decode text).bind (floatTree E) with
    | some t => some (some t)
    | none =>
      if (parseJSONB P.json text).isSome then (P.json.decode text).map fun v => some (exactTree v)
      else none

section Canonical
variable {P : AuditPlatform}

theorem properMembers_sort (h : ProperMembers members) : ProperMembers (sortMembers members) := by
  rw [properMembers_iff] at h ⊢
  intro member hmember
  exact h member ((List.perm_insertionSort _ _).mem_iff.1 hmember)

mutual

theorem floatTree_proper : ∀ {v : Json} {t : Tree}, floatTree E v = some t → t.Proper
  | .null, t, h | .bool _, t, h | .string _, t, h => by
    cases h
    trivial
  | .number n, t, h => by
    rw [floatTree] at h
    obtain ⟨x, -, rfl⟩ := map_eq_some_iff.1 h
    exact E.floatText_number x
  | .array items, t, h => by
    rw [floatTree] at h
    obtain ⟨ts, hts, rfl⟩ := map_eq_some_iff.1 h
    exact floatItems_proper hts
  | .object members, t, h => by
    rw [floatTree] at h
    obtain ⟨ts, hts, rfl⟩ := map_eq_some_iff.1 h
    exact properMembers_sort (floatMembers_proper hts)

theorem floatItems_proper : ∀ {items : List Json} {ts : List Tree},
    floatItems E items = some ts → ProperItems ts
  | [], ts, h => by
    cases h
    trivial
  | item :: rest, ts, h => by
    rw [floatItems] at h
    obtain ⟨t, ht, h⟩ := bind_eq_some_iff.1 h
    obtain ⟨tail, htail, h⟩ := bind_eq_some_iff.1 h
    cases h
    exact ⟨floatTree_proper ht, floatItems_proper htail⟩

theorem floatMembers_proper : ∀ {members : List (String × Json)} {ts : List (String × Tree)},
    floatMembers E members = some ts → ProperMembers ts
  | [], ts, h => by
    cases h
    trivial
  | (key, value) :: rest, ts, h => by
    rw [floatMembers] at h
    obtain ⟨t, ht, h⟩ := bind_eq_some_iff.1 h
    obtain ⟨tail, htail, h⟩ := bind_eq_some_iff.1 h
    cases h
    exact ⟨floatTree_proper ht, floatMembers_proper htail⟩

end

theorem JsonNumber.text_number {n : JsonNumber} (h : n.integer ≠ []) : NumberText n.text := by
  have hdigits : ∀ digits : List (Fin 10), ∀ b ∈ digitsText digits, numberByte b = true := by
    intro digits b hb
    obtain ⟨d, -, rfl⟩ := List.mem_map.1 hb
    exact (by decide : ∀ d : Fin 10, numberByte (0x30 + d.1.toUInt8) = true) d
  obtain ⟨negative, integer, fraction, exponent⟩ := n
  constructor
  · have hne : digitsText integer ≠ [] := by simpa [digitsText] using h
    simp [text, hne]
  · intro b hb
    simp only [text, List.mem_append] at hb
    rcases hb with (hb | hb) | hb
    · cases negative with
      | true =>
        obtain rfl := List.mem_singleton.1 hb
        rfl
      | false => cases hb
    · exact hdigits _ b hb
    · split at hb
      · cases hb
      · rcases List.mem_cons.1 hb with rfl | hb
        · rfl
        · exact hdigits _ b hb

theorem DecimalNumber.literal_number (d : DecimalNumber) : NumberText d.literal.text := by
  refine JsonNumber.text_number ?_
  unfold literal
  split
  · exact List.cons_ne_nil _ _
  intro hnil
  have hlength := length_trimZeros (d.padded.take d.point)
  rw [show trimZeros (d.padded.take d.point) = [] from hnil, List.length_nil] at hlength
  omega

variable {w w' : JsonWriter} {text : Bytes}

theorem JsonWriter.write_text (h : w.write n text = some w') : w'.text = w.text ++ text := by
  obtain ⟨-, heq⟩ := ite_none_left_eq_some.1 h
  cases heq
  rfl

theorem JsonWriter.comma_text (h : w.comma first = some w') :
    w'.text = w.text ++ if first then [] else [0x2c] := by
  cases first with
  | true =>
    cases h
    simp
  | false => exact write_text h

theorem appendJSONString_text (h : appendJSONString quote s w = some w') :
    w'.text = w.text ++ quote s := by
  iterate 2 obtain ⟨-, h⟩ := ite_none_left_eq_some.1 h
  exact write_text h

mutual

/-- What `appendJSON` prints. -/
theorem appendJSON_text : ∀ {v : Json} {w w' : JsonWriter}, appendJSON quote v w = some w' →
    w'.text = w.text ++ (exactTree v).print ∧ (exactTree v).Proper
  | .null, w, w', h | .bool true, w, w', h | .bool false, w, w', h =>
    ⟨write_text h, trivial⟩
  | .string s, w, w', h => ⟨appendJSONString_text h, trivial⟩
  | .number n, w, w', h => by
    rw [appendJSON] at h
    obtain ⟨d, hd, h⟩ := bind_eq_some_iff.1 h
    rw [exactTree, JsonNumber.printed, hd]
    exact ⟨write_text h, d.literal_number⟩
  | .array items, w, w', h => by
    rw [appendJSON] at h
    obtain ⟨w₁, hopen, h⟩ := bind_eq_some_iff.1 h
    obtain ⟨w₂, hitems, hclose⟩ := bind_eq_some_iff.1 h
    obtain ⟨htext, hproper⟩ := appendItems_text hitems
    refine ⟨?_, hproper⟩
    rw [write_text hclose]
    refine htext.trans ?_
    rw [write_text hopen, List.append_assoc]
    rfl
  | .object members, w, w', h => by
    rw [appendJSON] at h
    obtain ⟨w₁, hopen, h⟩ := bind_eq_some_iff.1 h
    obtain ⟨w₂, hmembers, hclose⟩ := bind_eq_some_iff.1 h
    obtain ⟨htext, hproper⟩ := appendMembers_text hmembers
    refine ⟨?_, hproper⟩
    rw [write_text hclose]
    refine htext.trans ?_
    rw [write_text hopen, List.append_assoc]
    rfl

theorem appendItems_text : ∀ {items : List Json} {first : Bool} {w w' : JsonWriter},
    appendItems quote first items w = some w' →
      w'.text ++ [0x5d] = w.text ++ printItems first (exactItems items) ∧
        ProperItems (exactItems items)
  | [], first, w, w', h => by
    cases h
    exact ⟨rfl, trivial⟩
  | item :: rest, first, w, w', h => by
    rw [appendItems] at h
    obtain ⟨w₁, hcomma, h⟩ := bind_eq_some_iff.1 h
    obtain ⟨w₂, hitem, hrest⟩ := bind_eq_some_iff.1 h
    obtain ⟨htext, hproper⟩ := appendJSON_text hitem
    obtain ⟨htail, hproperTail⟩ := appendItems_text hrest
    refine ⟨?_, hproper, hproperTail⟩
    rw [htail, htext, comma_text hcomma, exactItems, printItems]
    simp

theorem appendMembers_text : ∀ {members : List (String × Json)} {first : Bool} {w w' : JsonWriter},
    appendMembers quote first members w = some w' →
      w'.text ++ [0x7d] = w.text ++ printMembers first (exactMembers members) ∧
        ProperMembers (exactMembers members)
  | [], first, w, w', h => by
    cases h
    exact ⟨rfl, trivial⟩
  | (key, value) :: rest, first, w, w', h => by
    rw [appendMembers] at h
    obtain ⟨w₁, hcomma, h⟩ := bind_eq_some_iff.1 h
    obtain ⟨w₂, hkey, h⟩ := bind_eq_some_iff.1 h
    obtain ⟨w₃, hcolon, h⟩ := bind_eq_some_iff.1 h
    obtain ⟨w₄, hvalue, hrest⟩ := bind_eq_some_iff.1 h
    obtain ⟨htext, hproper⟩ := appendJSON_text hvalue
    obtain ⟨htail, hproperTail⟩ := appendMembers_text hrest
    refine ⟨?_, hproper, hproperTail⟩
    rw [htail, htext, write_text hcolon, appendJSONString_text hkey,
      comma_text hcomma, exactMembers, printMembers]
    simp only [List.append_assoc]
    rfl

end

/-- What `ParseJSONB` prints. -/
theorem parseJSONB_text (hP : P.Encodes E) (h : parseJSONB P.json text = some out) :
    ∃ v, P.json.decode text = some v ∧ out = (exactTree v).print ∧ (exactTree v).Proper := by
  unfold parseJSONB at h
  obtain ⟨-, h⟩ := ite_none_right_eq_some.1 h
  obtain ⟨numbers, -, h⟩ := bind_eq_some_iff.1 h
  obtain ⟨-, h⟩ := ite_none_right_eq_some.1 h
  obtain ⟨v, hv, h⟩ := bind_eq_some_iff.1 h
  obtain ⟨w, hw, h⟩ := bind_eq_some_iff.1 h
  cases h
  rw [hP.escape] at hw
  obtain ⟨htext, hproper⟩ := appendJSON_text hw
  exact ⟨v, hv, htext, hproper⟩

/-- `canonicalJSON` is the text of the canonical value. -/
theorem canonicalJSON_eq (hP : P.Encodes E) (text : Bytes) :
    canonicalJSON P text = (canonicalTree P E text).map summaryText := by
  unfold canonicalJSON canonicalTree
  by_cases hempty : text = [] ∨ text = utf8 "null"
  · rw [if_pos hempty, if_pos hempty]
    rfl
  rw [if_neg hempty, if_neg hempty, hP.remarshal]
  cases hfloat : (P.json.decode text).bind (floatTree E) with
  | some t => rfl
  | none =>
    cases hparse : parseJSONB P.json text with
    | none => rfl
    | some out =>
      obtain ⟨v, hv, rfl, -⟩ := parseJSONB_text hP hparse
      rw [hv]
      rfl

theorem canonicalTree_proper (hP : P.Encodes E) (h : canonicalTree P E text = some summary) :
    ProperSummary summary := by
  unfold canonicalTree at h
  split at h
  · cases h
    exact fun t ht => by cases ht
  split at h
  · rename_i t hfloat
    cases h
    obtain ⟨v, -, ht⟩ := bind_eq_some_iff.1 hfloat
    intro t' ht'
    cases ht'
    exact floatTree_proper ht
  obtain ⟨hparse, h⟩ := ite_none_right_eq_some.1 h
  obtain ⟨v, hv, rfl⟩ := map_eq_some_iff.1 h
  obtain ⟨out, hout⟩ := isSome_iff_exists.1 hparse
  obtain ⟨v', hv', -, hproper⟩ := parseJSONB_text hP hout
  cases hv.symm.trans hv'
  intro t ht
  cases ht
  exact hproper

end Canonical

/-! ## The payload determines the record -/

theorem hexEncode_inj (h : hexEncode a = hexEncode b) : a = b := by
  have hutf8 : utf8 (hexEncode a) = utf8 (hexEncode b) := by rw [h]
  rw [utf8_hexEncode, utf8_hexEncode] at hutf8
  clear h
  induction a generalizing b with
  | nil =>
    cases b with
    | nil => rfl
    | cons y b => cases hutf8
  | cons x a ih =>
    cases b with
    | nil => cases hutf8
    | cons y b =>
      simp only [List.flatMap_cons, List.cons_append, List.nil_append, List.cons.injEq] at hutf8
      obtain ⟨hhigh, hlow, hrest⟩ := hutf8
      have hx : x.toNat < 256 := x.toNat_lt
      have hy : y.toNat < 256 := y.toNat_lt
      have hhigh' := hexDigit_inj (by omega) (by omega) hhigh
      have hlow' := hexDigit_inj (by omega) (by omega) hlow
      have hxy : x = y := UInt8.toNat_inj.1 (by omega)
      rw [hxy, ih hrest]

/-- The dashes of an id are none of its digits. -/
theorem utf8_uuidText (id : Uuid) :
    (utf8 (uuidText id)).filter (· ≠ 0x2d) = utf8 (hexEncode id.1) := by
  have hdigits : ∀ x : Bytes, (utf8 (hexEncode x)).filter (· ≠ 0x2d) = utf8 (hexEncode x) := by
    intro x
    refine List.filter_eq_self.2 fun b hb => ?_
    obtain ⟨n, hn, rfl⟩ := mem_utf8_hexEncode hb
    interval_cases n <;> rfl
  have hdash : (utf8 "-").filter (· ≠ 0x2d) = [] := rfl
  have hparts : id.1.take 4 ++ ((id.1.drop 4).take 2 ++ ((id.1.drop 6).take 2 ++
      ((id.1.drop 8).take 2 ++ id.1.drop 10))) = id.1 := by
    rw [← List.drop_drop (i := 2) (j := 8), List.take_append_drop]
    rw [← List.drop_drop (i := 2) (j := 6), List.take_append_drop]
    rw [← List.drop_drop (i := 2) (j := 4), List.take_append_drop, List.take_append_drop]
  rw [uuidText]
  simp only [utf8_append, List.filter_append, hdigits, hdash, List.nil_append, List.append_assoc]
  nth_rewrite 6 [← hparts]
  simp [utf8_hexEncode]

theorem uuidText_inj (h : uuidText a = uuidText b) : a = b := by
  have hdigits := utf8_uuidText a
  rw [h, utf8_uuidText] at hdigits
  exact Subtype.ext (hexEncode_inj (utf8_inj.1 hdigits)).symm

theorem uuidText_map_inj {a b : Option Uuid}
    (h : (a.map fun id => Tree.string (uuidText id)) = b.map fun id => .string (uuidText id)) :
    a = b := by
  cases a with
  | none =>
    cases b with
    | none => rfl
    | some y => cases h
  | some x =>
    cases b with
    | none => cases h
    | some y =>
      have htext : uuidText x = uuidText y := Tree.string.inj (some.inj h)
      rw [uuidText_inj htext]

theorem nullableString_map_inj {a b : String}
    (h : ((nullableString a).map Tree.string) = (nullableString b).map .string) : a = b := by
  have hnull : nullableString a = nullableString b :=
    map_injective (fun _ _ => Tree.string.inj) h
  rw [← nullableString_getD a, ← nullableString_getD b, hnull]

/-- A member that is present or left out, before members with other keys. -/
theorem omitEmpty_append_inj {a b : Option Tree} {l m : List (String × Tree)}
    (hno : l.lookup key = none ∧ m.lookup key = none)
    (h : omitEmpty key a ++ l = omitEmpty key b ++ m) : a = b ∧ l = m := by
  cases a with
  | none =>
    cases b with
    | none => exact ⟨rfl, h⟩
    | some t =>
      have hlookup := congrArg (List.lookup key) h
      simp [omitEmpty, hno.1] at hlookup
  | some s =>
    cases b with
    | none =>
      have hlookup := congrArg (List.lookup key) h
      simp [omitEmpty, hno.2] at hlookup
    | some t =>
      obtain ⟨hhead, htail⟩ := List.cons.inj h
      exact ⟨congrArg some (Prod.mk.inj hhead).2, htail⟩

theorem lookup_omitEmpty {key' : String} (hne : key ≠ key') (value : Option Tree) :
    (omitEmpty key' value).lookup key = none := by
  cases value with
  | none => rfl
  | some t =>
    have hkey : (key == key') = false := beq_eq_false_iff_ne.2 hne
    simp [omitEmpty, List.lookup_cons, hkey]

/-- A record without its summaries. -/
def ChainRecord.bare (record : ChainRecord) : ChainRecord :=
  { record with beforeSummary := [], afterSummary := [] }

/-- The fields left out when empty are determined by those that are not. -/
theorem optionalMembers_inj {record' : ChainRecord} {before' after' : Option Tree}
    (h : optionalMembers record before after = optionalMembers record' before' after') :
    (record.sessionId = record'.sessionId ∧ record.nodeId = record'.nodeId ∧
      record.commandId = record'.commandId ∧ record.approvalId = record'.approvalId ∧
      record.errorType = record'.errorType) ∧ before = before' ∧ after = after' := by
  unfold optionalMembers at h
  obtain ⟨hsession, h⟩ := omitEmpty_append_inj
    (by simp [List.lookup_append, lookup_omitEmpty]) h
  obtain ⟨hnode, h⟩ := omitEmpty_append_inj
    (by simp [List.lookup_append, lookup_omitEmpty]) h
  obtain ⟨hcommand, h⟩ := omitEmpty_append_inj
    (by simp [List.lookup_append, lookup_omitEmpty]) h
  obtain ⟨happroval, h⟩ := omitEmpty_append_inj
    (by simp [List.lookup_append, lookup_omitEmpty]) h
  obtain ⟨hbefore, h⟩ := omitEmpty_append_inj
    (by simp [List.lookup_append, lookup_omitEmpty]) h
  obtain ⟨hafter, h⟩ := omitEmpty_append_inj (by simp [lookup_omitEmpty]) h
  obtain ⟨herror, -⟩ := @omitEmpty_append_inj _ _ _ [] [] ⟨rfl, rfl⟩ (by simpa using h)
  exact ⟨⟨uuidText_map_inj hsession, uuidText_map_inj hnode, uuidText_map_inj hcommand,
    uuidText_map_inj happroval, nullableString_map_inj herror⟩, hbefore, hafter⟩

/-- Payloads of one link have the same members only if the records agree up to summary texts. -/
theorem payloadMembers_inj (hat : E.timeText record.occurredAt = some at_)
    (hat' : E.timeText record'.occurredAt = some at')
    (h : payloadMembers E previous record at_ before after =
      payloadMembers E previous record' at' before' after') :
    record.bare = record'.bare ∧ before = before' ∧ after = after' := by
  have hlength : (requiredMembers E previous record at_).length =
      (requiredMembers E previous record' at').length := by
    simp [requiredMembers]
  obtain ⟨hrequired, hoptional⟩ := List.append_inj h hlength
  simp only [requiredMembers, List.cons.injEq, Prod.mk.injEq, true_and, Tree.string.injEq,
    and_true] at hrequired
  obtain ⟨hevent, hworkspace, htime, hactorType, hactorId, haction, hresourceType,
    hresource, hrequest,
    htrace, hresult, hreason⟩ := hrequired
  obtain ⟨⟨hsession, hnode, hcommand, happroval, herror⟩, hsummaries⟩ :=
    optionalMembers_inj hoptional
  refine ⟨?_, hsummaries⟩
  have hoccurred : record.occurredAt = record'.occurredAt := E.timeText_inj hat (htime ▸ hat')
  obtain ⟨⟩ := record
  obtain ⟨⟩ := record'
  simp only [ChainRecord.bare, ChainRecord.mk.injEq]
  exact ⟨uuidText_inj hevent, uuidText_inj hworkspace, hactorType, hactorId, haction, hresourceType,
    uuidText_inj hresource, hrequest, htrace, hreason, hresult, herror, hsession, hnode, hcommand,
    happroval, trivial, trivial, hoccurred⟩

/-! ## Evidence -/

/-- What an event is evidence of: its record, and its summaries as `canonicalJSON` leaves them. -/
structure Evidence where
  record : ChainRecord
  (before after : Option Tree)

/-- What a record is hashed as. -/
def recordEvidence (P : AuditPlatform) (E : AuditEncoding) (record : ChainRecord) :
    Option Evidence := do
  let before ← canonicalTree P E record.beforeSummary
  let after ← canonicalTree P E record.afterSummary
  return ⟨record.bare, before, after⟩

/-- What a stored event is evidence of, if it can be read. -/
def evidence (P : AuditPlatform) (E : AuditEncoding) (row : AuditRow) : Option Evidence :=
  (readRecord P row).bind (recordEvidence P E)

/-- The payload of evidence behind a link. -/
def Evidence.payload (E : AuditEncoding) (previous : Option (FixedBytes 32)) (e : Evidence) :
    Option Bytes :=
  (E.timeText e.record.occurredAt).map fun occurredAt =>
    (Tree.object (payloadMembers E previous e.record occurredAt e.before e.after)).print

section Evidence
/-- `encodeChainPayload` depends on the evidence only. -/
theorem encodeChainPayload_eq (hP : P.Encodes E) (record : ChainRecord) :
    encodeChainPayload P previous record =
      (recordEvidence P E record).bind (Evidence.payload E previous) := by
  unfold encodeChainPayload recordEvidence
  rw [canonicalJSON_eq hP, canonicalJSON_eq hP]
  cases hbefore : canonicalTree P E record.beforeSummary with
  | none => rfl
  | some before =>
    cases hafter : canonicalTree P E record.afterSummary with
    | none => rfl
    | some after =>
      exact hP.marshalPayload (canonicalTree_proper hP hbefore) (canonicalTree_proper hP hafter)
        rfl rfl

variable {e : Evidence}

theorem proper_payload (hbefore : ProperSummary e.before) (hafter : ProperSummary e.after) :
    (Tree.object (payloadMembers E previous e.record occurredAt e.before e.after)).Proper := by
  have hstring : ∀ {α : Type} (value : Option α) (text : α → String),
      ProperSummary (value.map fun x => .string (text x)) := by
    intro α value text t ht
    obtain ⟨x, -, rfl⟩ := map_eq_some_iff.1 ht
    trivial
  have hsummary : ∀ {key : String} {summary : Option Tree} {member : String × Tree},
      ProperSummary summary → member ∈ omitEmpty key summary → member.2.Proper := by
    intro key summary member hsummary hmember
    simp only [omitEmpty, List.mem_map, mem_toList] at hmember
    obtain ⟨t, ht, rfl⟩ := hmember
    exact hsummary t ht
  rw [Tree.Proper, properMembers_iff]
  intro member hmember
  rcases List.mem_append.1 hmember with hmember | hmember
  · simp only [requiredMembers, List.mem_cons, List.not_mem_nil, or_false] at hmember
    rcases hmember with rfl | rfl | rfl | rfl | rfl | rfl | rfl | rfl | rfl | rfl | rfl | rfl | rfl
    · cases previous <;> trivial
    all_goals trivial
  simp only [optionalMembers, List.mem_append] at hmember
  rcases hmember with hm | hm | hm | hm | hm | hm | hm
  iterate 4 exact hsummary (hstring _ _) hm
  · exact hsummary hbefore hm
  · exact hsummary hafter hm
  · exact hsummary (hstring _ _) hm

theorem recordEvidence_spec (hP : P.Encodes E) (h : recordEvidence P E record = some e) :
    e.record = record.bare ∧ ProperSummary e.before ∧ ProperSummary e.after := by
  obtain ⟨before, hbefore, h⟩ := bind_eq_some_iff.1 h
  obtain ⟨after, hafter, h⟩ := bind_eq_some_iff.1 h
  cases h
  exact ⟨rfl, canonicalTree_proper hP hbefore, canonicalTree_proper hP hafter⟩

/-- Records with one payload behind a link are the same evidence. -/
theorem recordEvidence_of_payload (hP : P.Encodes E)
    (h : encodeChainPayload P previous record = some payload)
    (h' : encodeChainPayload P previous record' = some payload) :
    recordEvidence P E record = recordEvidence P E record' := by
  rw [encodeChainPayload_eq hP] at h h'
  obtain ⟨e, he, hpayload⟩ := bind_eq_some_iff.1 h
  obtain ⟨e', he', hpayload'⟩ := bind_eq_some_iff.1 h'
  obtain ⟨at_, hat, hprint⟩ := map_eq_some_iff.1 hpayload
  obtain ⟨at', hat', hprint'⟩ := map_eq_some_iff.1 hpayload'
  obtain ⟨hbare, hbefore, hafter⟩ := recordEvidence_spec hP he
  obtain ⟨hbare', hbefore', hafter'⟩ := recordEvidence_spec hP he'
  have htree := Tree.print_inj (proper_payload hbefore hafter)
    (proper_payload hbefore' hafter') (hprint.trans hprint'.symm)
  obtain ⟨hrecord, hb, ha⟩ := payloadMembers_inj hat hat' (Tree.object.inj htree)
  rw [hbare, hbare'] at hrecord
  have hrecord' : e.record = e'.record := (hbare.trans hrecord).trans hbare'.symm
  obtain ⟨_, _, _⟩ := e
  obtain ⟨_, _, _⟩ := e'
  subst hrecord' hb ha
  rw [he, he']

end Evidence

/-! ## A changed event -/

/-- Another content under the hashes and the codes of a row. -/
structure AuditRow.SameSeal (row' row : AuditRow) : Prop where
  id : row'.id = row.id
  workspaceId : row'.workspaceId = row.workspaceId
  previousEventHash : row'.previousEventHash = row.previousEventHash
  eventHash : row'.eventHash = row.eventHash
  authVersion : row'.authVersion = row.authVersion
  eventKeyId : row'.eventKeyId = row.eventKeyId
  eventMac : row'.eventMac = row.eventMac
  compactedAt : row'.compactedAt = row.compactedAt
  compactionKeyId : row'.compactionKeyId = row.compactionKeyId
  compactionMac : row'.compactionMac = row.compactionMac

/-- The payload that `verifyTx` hashes for a stored event, behind the stored link. -/
def storedPayload (P : AuditPlatform) (row : AuditRow) : Option Bytes :=
  (readRecord P row).bind (encodeChainPayload P row.previousEventHash)

/-- SHA-256 tells the payloads of two contents apart. -/
def Distinguishes (P : AuditPlatform) (row row' : AuditRow) : Prop :=
  ∀ payload payload', storedPayload P row = some payload → storedPayload P row' = some payload' →
    P.sha256 payload = P.sha256 payload' → payload = payload'

/-- The store with another row under the id of `row'`. -/
def AuditStore.tampered (store : AuditStore) (row' : AuditRow) : AuditStore :=
  { store with events := store.events.set row' }

section Tampering
variable {store : AuditStore}

/-- An uncompacted event of a valid chain has the hash of its content behind its link. -/
theorem eventHash_of_valid (hvalid : ChainValid P m store workspaceId)
    (hrow : row ∈ store.inOrder workspaceId) (huncompacted : row.compactedAt = none) :
    ∃ payload, storedPayload P row = some payload ∧ row.eventHash = P.sha256 payload := by
  obtain ⟨v, hv, hvv, -⟩ := chainValid_iff.1 hvalid
  obtain ⟨front, rest, hsplit⟩ := List.append_of_mem hrow
  rw [hsplit, List.foldlM_append] at hv
  obtain ⟨v₁, -, hv⟩ := bind_eq_some_iff.1 hv
  rw [List.foldlM_cons] at hv
  obtain ⟨v₂, hv₂, hv⟩ := bind_eq_some_iff.1 hv
  obtain ⟨record, payload, hread, hpayload, hv₂_valid, -⟩ := verifyEvent_some hv₂
  have hchecks := replay_valid hv hvv
  simp only [hv₂_valid, Bool.and_eq_true, beq_iff_eq] at hchecks
  obtain ⟨-, ⟨hlink, hhash⟩, -⟩ := hchecks
  rw [hashValid, huncompacted] at hhash
  simp only [Bool.and_eq_true, beq_iff_eq] at hhash
  refine ⟨payload, bind_eq_some_iff.2 ⟨record, hread, ?_⟩, hhash.2⟩
  rw [hlink]
  exact hpayload

theorem mem_inOrder : row ∈ store.inOrder workspaceId ↔
    row ∈ store.events ∧ row.workspaceId = workspaceId := by
  rw [AuditStore.inOrder, (List.perm_insertionSort _ _).mem_iff, List.mem_reverse, List.mem_filter,
    decide_eq_true_eq, KeyedTable.mem_def]

theorem mem_tampered (hrow : row ∈ store.inOrder workspaceId) (hseal : row'.SameSeal row) :
    row' ∈ (store.tampered row').inOrder workspaceId := by
  obtain ⟨hmem, hworkspace⟩ := mem_inOrder.1 hrow
  refine mem_inOrder.2 ⟨?_, hseal.workspaceId.trans hworkspace⟩
  rw [AuditStore.tampered, KeyedTable.set, KeyedTable.mem_update]
  exact ⟨row, hmem, if_pos hseal.id.symm⟩

/-- A change of the evidence is reported. -/
theorem tampering_evident (hP : P.Encodes E) (hvalid : ChainValid P m store workspaceId)
    (hrow : row ∈ store.inOrder workspaceId) (huncompacted : row.compactedAt = none)
    (hseal : row'.SameSeal row) (hsha : Distinguishes P row row')
    (hvalid' : ChainValid P m (store.tampered row') workspaceId) :
    evidence P E row' = evidence P E row := by
  obtain ⟨payload, hpayload, hhash⟩ := eventHash_of_valid hvalid hrow huncompacted
  obtain ⟨payload', hpayload', hhash'⟩ :=
    eventHash_of_valid hvalid' (mem_tampered hrow hseal) (hseal.compactedAt.trans huncompacted)
  rw [hseal.eventHash, hhash] at hhash'
  have hsame := hsha payload payload' hpayload hpayload' hhash'
  subst hsame
  obtain ⟨record, hread, hencode⟩ := bind_eq_some_iff.1 hpayload
  obtain ⟨record', hread', hencode'⟩ := bind_eq_some_iff.1 hpayload'
  rw [hseal.previousEventHash] at hencode'
  rw [evidence, evidence, hread, hread']
  exact recordEvidence_of_payload hP hencode' hencode

/-- The content that takes the place of the one under its id. -/
def replacedBy (row' x : AuditRow) : AuditRow := if x.id = row'.id then row' else x

/-- A change that leaves the evidence leaves the place of the event. -/
theorem inOrder_tampered (hrow : row ∈ store.inOrder workspaceId) (hseal : row'.SameSeal row)
    (htime : row'.occurredAt = row.occurredAt) :
    (store.tampered row').inOrder workspaceId =
      (store.inOrder workspaceId).map (replacedBy row') := by
  obtain ⟨hmem, -⟩ := mem_inOrder.1 hrow
  have hsame : ∀ x ∈ store.events, (replacedBy row' x).id = x.id ∧
      (replacedBy row' x).workspaceId = x.workspaceId ∧
      (replacedBy row' x).occurredAt = x.occurredAt := by
    intro x hx
    unfold replacedBy
    split
    · rename_i hid
      obtain rfl := KeyedTable.eq_of_key hmem hx (hseal.id.symm.trans hid.symm)
      exact ⟨hseal.id, hseal.workspaceId, htime⟩
    · exact ⟨rfl, rfl, rfl⟩
  have hfilter : ((store.events.set row').rows.filter fun x => x.workspaceId = workspaceId) =
      (store.events.rows.filter fun x => x.workspaceId = workspaceId).map (replacedBy row') := by
    show (store.events.rows.map (replacedBy row')).filter _ = _
    rw [List.filter_map]
    congr 1
    refine List.filter_congr fun x hx => ?_
    simp [(hsame x hx).2.1]
  rw [AuditStore.inOrder, AuditStore.tampered, hfilter, ← List.map_reverse, AuditStore.inOrder]
  refine (List.map_insertionSort _ _ _ _ fun a ha b hb => ?_).symm
  obtain ⟨hida, -, htimea⟩ := hsame a (List.mem_filter.1 (List.mem_reverse.1 ha)).1
  obtain ⟨hidb, -, htimeb⟩ := hsame b (List.mem_filter.1 (List.mem_reverse.1 hb)).1
  unfold AuditRow.Before
  rw [hida, hidb, htimea, htimeb]

theorem isTransitionRecord_bare (record : ChainRecord) :
    isTransitionRecord record.bare = isTransitionRecord record := rfl

/-- Two contents that are the same evidence are verified alike. -/
theorem verifyEvent_tampered (hP : P.Encodes E) (huncompacted : row.compactedAt = none)
    (hseal : row'.SameSeal row) (hevidence : evidence P E row' = evidence P E row)
    (hread : ∃ e, evidence P E row = some e) (v : ChainVerification) :
    verifyEvent P m checkpoints v row' = verifyEvent P m checkpoints v row := by
  obtain ⟨e, he⟩ := hread
  obtain ⟨record, hrecord, hre⟩ := bind_eq_some_iff.1 he
  obtain ⟨record', hrecord', hre'⟩ := bind_eq_some_iff.1 (hevidence.trans he)
  have hbare : record'.bare = record.bare :=
    (recordEvidence_spec hP hre').1.symm.trans (recordEvidence_spec hP hre).1
  have hpayload :
      encodeChainPayload P v.previous record' = encodeChainPayload P v.previous record := by
    rw [encodeChainPayload_eq hP, encodeChainPayload_eq hP, hre, hre']
  have hhash :
      ∀ payload, hashValid P m record' row' payload = hashValid P m record row payload := by
    intro payload
    simp only [hashValid, hseal.compactedAt, huncompacted, hseal.compactionKeyId,
      hseal.compactionMac,
      hseal.eventHash]
  have hanchored : transitionAnchored P m checkpoints v record' =
      transitionAnchored P m checkpoints v record := by
    have hworkspace : record'.workspaceId = record.workspaceId :=
      (congrArg ChainRecord.workspaceId hbare :)
    have htransition : isTransitionRecord record' = isTransitionRecord record := by
      rw [← isTransitionRecord_bare record', hbare, isTransitionRecord_bare]
    simp only [transitionAnchored, hworkspace, htransition]
  have hauth :
      authValid P m checkpoints v record' row' = authValid P m checkpoints v record row := by
    simp only [authValid, hanchored, hseal.authVersion, hseal.eventKeyId, hseal.eventMac,
      hseal.eventHash]
  unfold verifyEvent
  rw [hrecord, hrecord']
  simp [hpayload, hhash, hauth, hseal.previousEventHash, hseal.eventHash, hseal.id,
    hseal.compactedAt, hseal.authVersion]

/-- The replay of a chain in which one event is replaced by one verified alike. -/
theorem replay_tampered {rows : List AuditRow} {checkpoints : List CheckpointRecord}
    {v : ChainVerification} (hunique : ∀ x ∈ rows, x.id = row'.id → x = row)
    (halike : ∀ v, verifyEvent P m checkpoints v row' = verifyEvent P m checkpoints v row) :
    (rows.map (replacedBy row')).foldlM (verifyEvent P m checkpoints) v =
      rows.foldlM (verifyEvent P m checkpoints) v := by
  induction rows generalizing v with
  | nil => rfl
  | cons x rows ih =>
    have hx :
        verifyEvent P m checkpoints v (replacedBy row' x) = verifyEvent P m checkpoints v x := by
      unfold replacedBy
      split
      · rename_i hid
        rw [hunique x List.mem_cons_self hid, halike]
      · rfl
    rw [List.map_cons, List.foldlM_cons, List.foldlM_cons, hx]
    congr 1
    funext w
    exact ih fun y hy => hunique y (List.mem_cons_of_mem _ hy)

/-- The time of an event is part of its evidence. -/
theorem occurredAt_of_evidence (hP : P.Encodes E) (h : evidence P E row = some e) :
    e.record.occurredAt = row.occurredAt := by
  obtain ⟨record, hrecord, he⟩ := bind_eq_some_iff.1 h
  obtain ⟨at_, hat, hrecord⟩ := bind_eq_some_iff.1 hrecord
  obtain ⟨before, -, hrecord⟩ := bind_eq_some_iff.1 hrecord
  obtain ⟨after, -, hrecord⟩ := bind_eq_some_iff.1 hrecord
  cases hrecord
  obtain ⟨-, hat⟩ := ite_none_right_eq_some.1 hat
  rw [(recordEvidence_spec hP he).1]
  exact (some.inj hat).symm

/-- **Tampering is evident when it changes the evidence.** When the content of an uncompacted event
of a valid chain is replaced under its hashes and codes, the chain is reported as not valid exactly
when the new content cannot be read, or differs in a field, or in a summary after its numbers are
rounded. That the two payloads have one SHA-256 hash is excluded. -/
theorem tampering_evident_iff (hP : P.Encodes E) (hvalid : ChainValid P m store workspaceId)
    (hrow : row ∈ store.inOrder workspaceId) (huncompacted : row.compactedAt = none)
    (hseal : row'.SameSeal row) (hsha : Distinguishes P row row') :
    ¬ChainValid P m (store.tampered row') workspaceId ↔ evidence P E row' ≠ evidence P E row := by
  refine not_congr ⟨tampering_evident hP hvalid hrow huncompacted hseal hsha, fun hevidence => ?_⟩
  have hread : ∃ e, evidence P E row = some e := by
    obtain ⟨payload, hpayload, -⟩ := eventHash_of_valid hvalid hrow huncompacted
    obtain ⟨record, hrecord, hencode⟩ := bind_eq_some_iff.1 hpayload
    rw [encodeChainPayload_eq hP] at hencode
    obtain ⟨e, he, -⟩ := bind_eq_some_iff.1 hencode
    exact ⟨e, bind_eq_some_iff.2 ⟨record, hrecord, he⟩⟩
  have htime : row'.occurredAt = row.occurredAt := by
    obtain ⟨e, he⟩ := hread
    rw [← occurredAt_of_evidence hP he, ← occurredAt_of_evidence hP (hevidence.trans he)]
  obtain ⟨v, hv, hvv, hauth⟩ := chainValid_iff.1 hvalid
  refine chainValid_iff.2 ⟨v, ?_, hvv, hauth⟩
  rw [inOrder_tampered hrow hseal htime, ← hv]
  refine replay_tampered (fun x hx hid => ?_) fun w =>
    verifyEvent_tampered hP huncompacted hseal hevidence hread w
  exact KeyedTable.eq_of_key (mem_inOrder.1 hx).1 (mem_inOrder.1 hrow).1 (hid.trans hseal.id)

end Tampering

/-! ## A summary with a large number -/

theorem utf8_repr (n : Nat) :
    utf8 n.repr = (Nat.toDigits 10 n).flatMap String.utf8EncodeChar := utf8_ofList _

theorem repr_number (n : Nat) : NumberText (utf8 n.repr) := by
  have hdigit : ∀ d < 10, ∀ b ∈ String.utf8EncodeChar (digitChar d), numberByte b = true := by
    intro d hd b hb
    rw [utf8EncodeChar_digitChar (by omega), List.mem_singleton] at hb
    subst hb
    interval_cases d <;> rfl
  rw [utf8_repr]
  constructor
  · obtain ⟨c, cs, hcs⟩ := List.exists_cons_of_ne_nil (@toDigits_ne_nil n 10)
    simp [hcs, String.utf8EncodeChar_ne_nil]
  · intro b hb
    obtain ⟨c, hc, hb⟩ := List.mem_flatMap.1 hb
    have hc' := isDigit_of_mem_toDigits (by decide) (by decide) hc
    rw [← digitChar_of_isDigit hc'] at hb
    obtain ⟨hle, hge⟩ := toNat_of_isDigit hc'
    exact hdigit _ (by omega) b hb

theorem repr_inj {m n : Nat} (h : m.repr = n.repr) : m = n := by
  have hdigits : toDigits 10 m = toDigits 10 n := String.ofList_injective h
  rw [← value_toDigits m, hdigits, value_toDigits]

def digitsLiteral (negative : Bool) (text : Bytes) : JsonNumber :=
  ⟨negative, text.map fun b => ⟨(b.toNat - 48) % 10, Nat.mod_lt _ (by decide)⟩, [], 0⟩

/-- The text of the integer part of a number. -/
def integerText (x : Float64) : Bytes :=
  (if x.negative then [0x2d] else []) ++
    utf8 (x.mantissa * 2 ^ x.exponent.toNat / 2 ^ (-x.exponent).toNat).repr

theorem integerText_number (x : Float64) : NumberText (integerText x) := by
  have := repr_number (x.mantissa * 2 ^ x.exponent.toNat / 2 ^ (-x.exponent).toNat)
  unfold integerText
  cases x.negative with
  | false => exact this
  | true => exact ⟨List.cons_ne_nil _ _, List.forall_mem_cons.2 ⟨rfl, this.2⟩⟩

/-- The number of an integer without an exponent. -/
def parseInteger (text : Bytes) : Option Float64 :=
  if 0x65 ∈ text then none
  else parseFloat (digitsLiteral (text.head? = some 0x2d) (text.dropWhile (· = 0x2d)))

/-- Texts for the samples: integers of up to 21 bytes as the encoder writes them, all else as
numbers. -/
def sampleEncoding : AuditEncoding where
  base64 := hexEncode
  timeText t := some (Encodable.encode (t : Int)).repr
  floatText x :=
    if (integerText x).length ≤ 21 ∧ parseInteger (integerText x) = some x then integerText x
    else utf8 (Encodable.encode (x.negative, x.mantissa, x.exponent)).repr ++ [0x65]
  timeText_inj ht hu :=
    Encodable.encode_injective (repr_inj (Option.some.inj (ht.trans hu.symm)))
  floatText_inj x y h := by
    have hother : ∀ text, parseInteger (text ++ [0x65]) = none := fun text => by simp [parseInteger]
    dsimp only at h
    split at h <;> rename_i hx <;> split at h <;> rename_i hy
    · exact Option.some.inj (hx.2.symm.trans (h ▸ hy.2))
    · rw [h, hother] at hx
      cases hx.2
    · rw [← h, hother] at hy
      cases hy.2
    have hcode := repr_inj (utf8_inj.1 (List.append_cancel_right h))
    obtain ⟨hsign, hmantissa, hexponent⟩ := by simpa using hcode
    cases x
    cases y
    simp_all
  floatText_number x := by
    split
    · exact integerText_number x
    · refine ⟨by simp, fun b hb => ?_⟩
      rcases List.mem_append.1 hb with hb | hb
      · exact (repr_number _).2 b hb
      · obtain rfl := List.mem_singleton.1 hb
        rfl

/-- The texts of natural numbers, as the samples decode them. -/
def decodeDigits (text : Bytes) : Option Json :=
  if text ≠ [] ∧ text.head? ≠ some 0x30 ∧ text.all (fun b => 0x30 ≤ b ∧ b ≤ 0x39) then
    some (.number (digitsLiteral false text))
  else none

/-- A text that stands for itself inside of another. -/
def rawMessage (text : Bytes) : Option Tree := if text = [] then none else some (.number text)

/-- The samples, with payloads as the JSON package writes them. -/
def evidenceAudit : AuditPlatform where
  __ := sampleAudit
  sha256 b := ⟨(b.reverse ++ List.replicate 32 0).take 32, by simp⟩
  marshalPayload previous record :=
    (sampleEncoding.timeText record.occurredAt).map fun occurredAt =>
      (Tree.object (payloadMembers sampleEncoding previous record occurredAt
        (rawMessage record.beforeSummary) (rawMessage record.afterSummary))).print
  remarshal text := ((decodeDigits text).bind (floatTree sampleEncoding)).map Tree.print
  json := ⟨fun text => (decodeDigits text).map Json.numbers, decodeDigits, quote⟩

theorem printMembers_append (h : ∀ first, printMembers first l = printMembers first m)
    (front : List (String × Tree)) (first : Bool) :
    printMembers first (front ++ l) = printMembers first (front ++ m) := by
  induction front generalizing first with
  | nil => exact h first
  | cons member front ih => rw [List.cons_append, List.cons_append, printMembers, printMembers, ih]

/-- A summary is embedded as its text. -/
theorem printMembers_rawMessage (hproper : ProperSummary summary) (first : Bool) :
    printMembers first (omitEmpty key (rawMessage (summaryText summary)) ++ l) =
      printMembers first (omitEmpty key summary ++ l) := by
  cases summary with
  | none => rfl
  | some t =>
    rw [summaryText, rawMessage, if_neg (print_ne_nil (hproper t rfl))]
    rfl

theorem print_rawMessage (hbefore : ProperSummary before) (hafter : ProperSummary after) :
    (Tree.object (payloadMembers E previous record occurredAt (rawMessage (summaryText before))
      (rawMessage (summaryText after)))).print =
      (Tree.object (payloadMembers E previous record occurredAt before after)).print := by
  refine congrArg (_ :: ·) ?_
  iterate 5 refine printMembers_append (fun first => ?_) _ _
  rw [printMembers_rawMessage hbefore]
  exact printMembers_append (printMembers_rawMessage hafter) _ _

theorem evidenceAudit_encodes : evidenceAudit.Encodes sampleEncoding where
  escape := rfl
  remarshal _ := rfl
  marshalPayload hbefore hafter hb ha := by
    simp only [evidenceAudit, hb, ha, print_rawMessage hbefore hafter]

/-- The store after the append of one event, with the summary 9007199254740993. -/
def evidenceStore : AuditStore :=
  ((appendChain evidenceAudit sampleAuth ⟨∅, fun _ => []⟩ ((946684800 * 10 ^ 6 + 5) * 1000) uuidNil
    { sampleEvent 3 with afterSummary := utf8 "9007199254740993" }).toOption.map Prod.snd).getD
      ⟨∅, fun _ => []⟩

/-- The chain of the sample is valid. -/
abbrev EvidenceValid (store : AuditStore) : Prop :=
  ChainValid evidenceAudit (newManager [] sampleAuth) store (sampleUuid 1)

/-- A change of the error type of the event is reported. -/
theorem changedError_noticed : ∃ row ∈ evidenceStore.inOrder (sampleUuid 1),
    (¬EvidenceValid (evidenceStore.tampered { row with errorType := some "forged" }) ↔
      evidence evidenceAudit sampleEncoding { row with errorType := some "forged" } ≠
        evidence evidenceAudit sampleEncoding row) := by
  have hvalid : EvidenceValid evidenceStore := by decide +kernel
  have hrow : ∃ row ∈ evidenceStore.inOrder (sampleUuid 1), row.compactedAt = none ∧
      (storedPayload evidenceAudit row).map evidenceAudit.sha256 ≠
        (storedPayload evidenceAudit { row with errorType := some "forged" }).map
          evidenceAudit.sha256 := by decide +kernel
  obtain ⟨row, hmem, huncompacted, hsha⟩ := hrow
  refine ⟨row, hmem, tampering_evident_iff evidenceAudit_encodes hvalid hmem huncompacted
    ⟨rfl, rfl, rfl, rfl, rfl, rfl, rfl, rfl, rfl, rfl⟩ ?_⟩
  intro payload payload' hpayload hpayload' heq
  rw [hpayload, hpayload', map_some, map_some, heq] at hsha
  exact absurd rfl hsha

/-- The summary 9007199254740993 is replaced by 9007199254740992, which rounds to the same number,
unnoticed. -/
theorem roundedSummary_unnoticed :
    EvidenceValid evidenceStore ∧ ∃ row ∈ evidenceStore.inOrder (sampleUuid 1),
      row.compactedAt = none ∧ row.afterSummary = some (utf8 "9007199254740993") ∧
        EvidenceValid (evidenceStore.tampered
          { row with afterSummary := some (utf8 "9007199254740992") }) := by
  decide +kernel

end Ocservia
