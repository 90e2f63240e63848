import Ocservia.Lib.Wire

/-!
# Messages on the protobuf wire

A message on the wire is a sequence of fields, each a key (field number and wire type) before a
value; a length-delimited value may itself be a message. What a number means is said by a table
(`Shape`), and what a receiver makes of it by a schema (`Spec`).

`Spells fields b` says that `b` is a spelling of `fields`, and `read` finds the spelling in which
every field is listed (`read_eq_some_iff`). `mergeFields` folds the fields of a message into a value
the way the generated decoders do: a later occurrence of a singular field overrides an earlier one,
a later message is merged into an earlier one, and a later arm of a oneof replaces the earlier arm.
`encodeEntries` are the fields that are written for a value.

When no singular field and no oneof occurs twice, at any depth, decoding takes every field as it is
(`mergeFields_of_unique`), and what is encoded again has all the values (`values_encodeEntries`).
-/

namespace Protobuf

open Option Nat

/-! ## Reading -/

/-- A number in base 128, lowest digit first, in at most `k` bytes; of the tenth only one bit is
left. -/
def varint : Nat → Bytes → Option (Nat × Bytes)
  | 0, _ => none
  | _, [] => none
  | k + 1, b :: rest =>
    if b < 128 then if k = 0 ∧ 2 ≤ b then none else some (b.toNat, rest)
    else (varint k rest).map fun (n, rest) => (n * 128 + (b.toNat - 128), rest)

/-- `decode_varint`. -/
def readVarint (b : Bytes) : Option (Nat × Bytes) := varint 10 b

inductive WireType where
  | varint | sixtyFourBit | lengthDelimited | startGroup | endGroup | thirtyTwoBit
deriving DecidableEq

/-- The wire type of the low bits of a key. -/
def WireType.parse : Nat → Option WireType
  | 0 => some .varint
  | 1 => some .sixtyFourBit
  | 2 => some .lengthDelimited
  | 3 => some .startGroup
  | 4 => some .endGroup
  | 5 => some .thirtyTwoBit
  | _ => none

/-- `decode_key`: a field number that is not zero and a wire type, in 32 bits. -/
def readKey (b : Bytes) : Option ((Nat × WireType) × Bytes) := do
  let (key, rest) ← readVarint b
  let wire ← WireType.parse (key % 8)
  if 2 ^ 32 ≤ key ∨ key / 8 = 0 then none else some ((key / 8, wire), rest)

/-- A length and that many bytes. -/
def readDelimited (b : Bytes) : Option (Bytes × Bytes) :=
  match readVarint b with
  | some (n, rest) => if n ≤ rest.length then some (rest.take n, rest.drop n) else none
  | none => none

/-- The value of a field that is not a message. -/
inductive Raw where
  | varint (n : Nat)
  | bytes (b : Bytes)
deriving DecidableEq

def Raw.wire : Raw → WireType
  | .varint _ => .varint
  | .bytes _ => .lengthDelimited

/-- The value behind a key; no table here lists the other wire types. -/
def readScalar : WireType → Bytes → Option (Raw × Bytes)
  | .varint, b => (readVarint b).map fun (n, rest) => (.varint n, rest)
  | .lengthDelimited, b => (readDelimited b).map fun (value, rest) => (.bytes value, rest)
  | _, _ => none

inductive Field where
  | scalar (tag : Nat) (value : Raw)
  | message (tag : Nat) (fields : List Field)

def Field.tag : Field → Nat
  | .scalar tag _ => tag
  | .message tag _ => tag

/-- What a table lists for a field number: a wire type, or a nested message. -/
inductive Shape (K : Type) where
  | scalar (wire : WireType)
  | message (kind : K)
deriving DecidableEq

/-- `b` is a spelling of the fields: numbers may be written with more digits than they need. -/
inductive Spells : List Field → Bytes → Prop
  | nil : Spells [] []
  | scalar {tag : Nat} {value : Raw} {fields : List Field} {b b₁ b₂ : Bytes} :
    readKey b = some ((tag, value.wire), b₁) → readScalar value.wire b₁ = some (value, b₂) →
    Spells fields b₂ → Spells (.scalar tag value :: fields) b
  | message {tag : Nat} {inner fields : List Field} {b b₁ b₂ body : Bytes} :
    readKey b = some ((tag, .lengthDelimited), b₁) → readDelimited b₁ = some (body, b₂) →
    Spells inner body → Spells fields b₂ → Spells (.message tag inner :: fields) b

section
variable (table : K → Nat → Option (Shape K))

mutual

/-- The table lists the field, and every field inside it, with its wire type. -/
def Listed (kind : K) : Field → Prop
  | .scalar tag value => table kind tag = some (.scalar value.wire)
  | .message tag fields => ∃ k, table kind tag = some (.message k) ∧ AllListed k fields

/-- Every field of a message is listed. -/
def AllListed (kind : K) : List Field → Prop
  | [] => True
  | field :: fields => Listed kind field ∧ AllListed kind fields

end

/-- The fields of a message, each listed. Every round consumes a byte, so the length bounds the
rounds. -/
def readFuel : Nat → K → Bytes → Option (List Field)
  | _, _, [] => some []
  | 0, _, _ :: _ => none
  | n + 1, kind, b₀ :: bs =>
    match readKey (b₀ :: bs) with
    | none => none
    | some ((tag, wire), rest) =>
      match table kind tag with
      | none => none
      | some (.scalar expected) =>
        if wire = expected then do
          let (value, rest) ← readScalar wire rest
          let fields ← readFuel n kind rest
          return .scalar tag value :: fields
        else none
      | some (.message k) =>
        if wire = .lengthDelimited then do
          let (body, rest) ← readDelimited rest
          let inner ← readFuel n k body
          let fields ← readFuel n kind rest
          return .message tag inner :: fields
        else none

/-- The fields of a message, each of which the table lists. -/
def read (kind : K) (b : Bytes) : Option (List Field) := readFuel table b.length kind b

/-! ### Every round consumes input -/

theorem varint_length (h : varint k b = some (n, rest)) : rest.length < b.length := by
  induction k generalizing b n with
  | zero => cases h
  | succ k ih =>
    cases b with
    | nil => cases h
    | cons x b =>
      rw [varint] at h
      split at h
      · split at h
        · cases h
        · cases h
          simp
      · obtain ⟨⟨n', rest'⟩, hrest, h⟩ := map_eq_some_iff.1 h
        obtain ⟨-, rfl⟩ := Prod.mk.inj h
        exact lt_succ_of_lt (ih hrest)

theorem readKey_length (h : readKey b = some (key, rest)) : rest.length < b.length := by
  obtain ⟨⟨n, rest'⟩, hn, h⟩ := bind_eq_some_iff.1 h
  obtain ⟨wire, -, h⟩ := bind_eq_some_iff.1 h
  obtain ⟨-, h⟩ := ite_none_left_eq_some.1 h
  cases h
  exact varint_length hn

theorem readDelimited_length (h : readDelimited b = some (body, rest)) :
    body.length < b.length ∧ rest.length < b.length := by
  unfold readDelimited at h
  split at h
  · rename_i n rest' hn
    have hlength := varint_length hn
    obtain ⟨hle, h⟩ := ite_none_right_eq_some.1 h
    cases h
    rw [List.length_take, List.length_drop]
    omega
  · cases h

theorem readScalar_length (h : readScalar wire b = some (value, rest)) :
    rest.length < b.length := by
  cases wire with
  | varint =>
    obtain ⟨⟨n, rest'⟩, hn, h⟩ := map_eq_some_iff.1 h
    cases h
    exact varint_length hn
  | lengthDelimited =>
    obtain ⟨⟨body, rest'⟩, hbody, h⟩ := map_eq_some_iff.1 h
    cases h
    exact (readDelimited_length hbody).2
  | _ => cases h

theorem readScalar_wire (h : readScalar wire b = some (value, rest)) : value.wire = wire := by
  cases wire with
  | varint | lengthDelimited =>
    obtain ⟨_, -, h⟩ := map_eq_some_iff.1 h
    cases h
    rfl
  | _ => cases h

theorem not_readKey_nil : readKey [] ≠ some (key, rest) := by
  intro h
  exact absurd (readKey_length h) (not_lt_zero _)

variable {table}

theorem readFuel_nil :
    readFuel table n kind [] = some fields ↔ Spells fields [] ∧ AllListed table kind fields := by
  rw [readFuel]
  constructor
  · intro h
    cases h
    exact ⟨.nil, trivial⟩
  · rintro ⟨hspells, -⟩
    cases hspells with
    | nil => rfl
    | scalar hkey | message hkey => exact absurd hkey not_readKey_nil

/-- The reader finds the spelling of fields that the table lists, and nothing else. -/
theorem readFuel_eq_some_iff (hn : b.length ≤ n) :
    readFuel table n kind b = some fields ↔ Spells fields b ∧ AllListed table kind fields := by
  induction n generalizing kind b fields with
  | zero =>
    obtain rfl := List.length_eq_zero_iff.1 (le_zero.1 hn)
    exact readFuel_nil
  | succ n ih =>
    cases b with
    | nil => exact readFuel_nil
    | cons b₀ bs =>
      constructor
      · intro h
        rw [readFuel] at h
        split at h
        · cases h
        rename_i tag wire rest hkey
        have hrest := readKey_length hkey
        split at h
        · cases h
        · rename_i expected hlisted
          obtain ⟨hwire, hrun⟩ := ite_none_right_eq_some.1 h
          obtain ⟨⟨value, rest'⟩, hvalue, hrun⟩ := bind_eq_some_iff.1 hrun
          obtain ⟨tail, htail, hrun⟩ := bind_eq_some_iff.1 hrun
          cases hrun
          have hlength := readScalar_length hvalue
          subst hwire
          obtain rfl := readScalar_wire hvalue
          obtain ⟨hspells, hall⟩ := (ih (by simp only [List.length_cons] at *; omega)).1 htail
          exact ⟨.scalar hkey hvalue hspells, hlisted, hall⟩
        rename_i k hlisted
        obtain ⟨hwire, hrun⟩ := ite_none_right_eq_some.1 h
        obtain ⟨⟨body, rest'⟩, hbody, hrun⟩ := bind_eq_some_iff.1 hrun
        obtain ⟨inner, hinner, hrun⟩ := bind_eq_some_iff.1 hrun
        obtain ⟨tail, htail, hrun⟩ := bind_eq_some_iff.1 hrun
        cases hrun
        subst hwire
        obtain ⟨hbodyLength, hlength⟩ := readDelimited_length hbody
        obtain ⟨hinnerSpells, hinnerAll⟩ :=
          (ih (by simp only [List.length_cons] at *; omega)).1 hinner
        obtain ⟨hspells, hall⟩ := (ih (by simp only [List.length_cons] at *; omega)).1 htail
        exact ⟨.message hkey hbody hinnerSpells hspells, ⟨k, hlisted, hinnerAll⟩, hall⟩
      · rintro ⟨hspells, hall⟩
        rw [readFuel]
        cases hspells with
        | @scalar tag value fields _ b₁ b₂ hkey hvalue hspells =>
          have hrest := readKey_length hkey
          have hlength := readScalar_length hvalue
          have htail : readFuel table n kind b₂ = some fields :=
            (ih (by simp only [List.length_cons] at *; omega)).2 ⟨hspells, hall.2⟩
          have hlisted : table kind tag = some (.scalar value.wire) := hall.1
          simp [hkey, hlisted, hvalue, htail]
        | @message tag inner fields _ b₁ b₂ body hkey hbody hinner hspells =>
          have hrest := readKey_length hkey
          obtain ⟨hbodyLength, hlength⟩ := readDelimited_length hbody
          obtain ⟨⟨k, hlisted, hinnerAll⟩, hall⟩ := hall
          have hinner : readFuel table n k body = some inner :=
            (ih (by simp only [List.length_cons] at *; omega)).2 ⟨hinner, hinnerAll⟩
          have htail : readFuel table n kind b₂ = some fields :=
            (ih (by simp only [List.length_cons] at *; omega)).2 ⟨hspells, hall⟩
          simp [hkey, hlisted, hbody, hinner, htail]

theorem read_eq_some_iff :
    read table kind b = some fields ↔ Spells fields b ∧ AllListed table kind fields :=
  readFuel_eq_some_iff (le_refl _)

end

/-! ## Decoding -/

/-- The types of scalar fields; an enumeration is an `int32`. -/
inductive ScalarType where
  | uint64 | int64 | uint32 | int32 | bool | string | bytes
deriving DecidableEq

/-- How often a field may occur. -/
inductive Label where
  | singular
  | repeated
  /-- An arm of the oneof `group`. -/
  | oneof (group : Nat)
deriving DecidableEq

inductive FieldType (K : Type) where
  | scalar (type : ScalarType)
  | message (kind : K)
deriving DecidableEq

/-- What a schema says about a field number. -/
structure Spec (K : Type) where
  type : FieldType K
  label : Label
deriving DecidableEq

/-- A decoded scalar. A text is kept as its bytes. -/
inductive Scalar where
  | number (n : Int)
  | flag (b : Bool)
  | text (b : Bytes)
  | bytes (b : Bytes)
deriving DecidableEq

/-- The two's complement number of the low `w` bits. -/
def signed (w n : Nat) : Int :=
  if n % 2 ^ w < 2 ^ (w - 1) then (n % 2 ^ w : Nat) else (n % 2 ^ w : Nat) - 2 ^ w

/-- The scalar of a type that a value on the wire stands for. -/
def ScalarType.convert : ScalarType → Raw → Option Scalar
  | .uint64, .varint n => some (.number (n % 2 ^ 64 : Nat))
  | .int64, .varint n => some (.number (signed 64 n))
  | .uint32, .varint n => some (.number (n % 2 ^ 32 : Nat))
  | .int32, .varint n => some (.number (signed 32 n))
  | .bool, .varint n => some (.flag (n != 0))
  | .string, .bytes b => if ByteArray.validateUTF8 ⟨b.toArray⟩ then some (.text b) else none
  | .bytes, .bytes b => some (.bytes b)
  | _, _ => none

/-- The value that is written for a scalar. -/
def Scalar.raw : Scalar → Raw
  | .number n => .varint (n % 2 ^ 64).toNat
  | .flag b => .varint b.toNat
  | .text b => .bytes b
  | .bytes b => .bytes b

/-- The value that a field has when it is absent. -/
def Scalar.isDefault : Scalar → Bool
  | .number n => n == 0
  | .flag b => !b
  | .text b => b.isEmpty
  | .bytes b => b.isEmpty

/-- A field of a decoded message; a repeated field has one entry for each element. -/
inductive Entry where
  | scalar (tag : Nat) (value : Scalar)
  | message (tag : Nat) (entries : List Entry)

def Entry.tag : Entry → Nat
  | .scalar tag _ => tag
  | .message tag _ => tag

section
variable (schema : K → Nat → Option (Spec K))

/-- The field `tag` takes the place of the field `tag'`. -/
def conflicts (kind : K) (tag tag' : Nat) : Bool :=
  match schema kind tag with
  | none => false
  | some spec =>
    match spec.label with
    | .singular => tag == tag'
    | .repeated => false
    | .oneof group => (schema kind tag').any fun spec' => spec'.label == .oneof group

/-- Set a field of a message, or append an element of a repeated field. -/
def put (kind : K) (m : List Entry) (e : Entry) : List Entry :=
  m.filter (fun e' => !conflicts schema kind e.tag e'.tag) ++ [e]

/-- The message that a new occurrence of the message field `tag` is merged into. -/
def existing (kind : K) (tag : Nat) : List Entry → List Entry
  | [] => []
  | .message tag' entries :: m =>
    if tag' = tag ∧ conflicts schema kind tag tag then entries else existing kind tag m
  | .scalar _ _ :: m => existing kind tag m

mutual

/-- One step of a decoder. -/
def mergeField (kind : K) (m : List Entry) : Field → Option (List Entry)
  | .scalar tag value =>
    match schema kind tag with
    | some ⟨.scalar type, _⟩ =>
      (type.convert value).map fun v => put schema kind m (.scalar tag v)
    | _ => none
  | .message tag fields =>
    match schema kind tag with
    | some ⟨.message k, _⟩ =>
      (mergeFields k (existing schema kind tag m) fields).map fun inner =>
        put schema kind m (.message tag inner)
    | _ => none

/-- The fields of a message, one after the other. -/
def mergeFields (kind : K) (m : List Entry) : List Field → Option (List Entry)
  | [] => some m
  | field :: fields =>
    match mergeField kind m field with
    | some m => mergeFields kind m fields
    | none => none

end

mutual

/-- The fields written for an entry; a singular scalar with its default value is not written. -/
def encodeEntry (kind : K) : Entry → List Field
  | .scalar tag value =>
    match schema kind tag with
    | some ⟨.scalar _, label⟩ =>
      if label = .singular ∧ value.isDefault then [] else [.scalar tag value.raw]
    | _ => []
  | .message tag entries =>
    match schema kind tag with
    | some ⟨.message k, _⟩ => [.message tag (encodeEntries k entries)]
    | _ => []

/-- The fields that are written for a message, up to their order. -/
def encodeEntries (kind : K) : List Entry → List Field
  | [] => []
  | e :: es => encodeEntry kind e ++ encodeEntries kind es

end

mutual

/-- The values of a field, with the numbers on the way to each; a singular scalar with its default
is none. -/
def fieldValues (kind : K) : Field → List (List Nat × Option Scalar)
  | .scalar tag value =>
    match schema kind tag with
    | some ⟨.scalar type, label⟩ =>
      match type.convert value with
      | some v => if label = .singular ∧ v.isDefault then [] else [([tag], some v)]
      | none => []
    | _ => []
  | .message tag fields =>
    match schema kind tag with
    | some ⟨.message k, _⟩ =>
      ([tag], none) :: (fieldsValues k fields).map fun x => (tag :: x.1, x.2)
    | _ => []

/-- The values that the fields of a message carry. -/
def fieldsValues (kind : K) : List Field → List (List Nat × Option Scalar)
  | [] => []
  | field :: fields => fieldValues kind field ++ fieldsValues kind fields

end

mutual

/-- No field inside the field takes the place of another. -/
def fieldUnique (kind : K) : Field → Bool
  | .scalar _ _ => true
  | .message tag fields =>
    match schema kind tag with
    | some ⟨.message k, _⟩ => fieldsUnique k fields
    | _ => true

/-- No singular field and no oneof occurs twice in a message, at any depth. -/
def fieldsUnique (kind : K) : List Field → Bool
  | [] => true
  | field :: fields =>
    fieldUnique kind field && fields.all (fun g => !conflicts schema kind g.tag field.tag) &&
      fieldsUnique kind fields

end

/-! ### Without conflicts nothing is lost -/

/-- A scalar that was converted is written as a value that converts to it. -/
theorem convert_raw {type : ScalarType} {value : Raw} {v : Scalar}
    (h : type.convert value = some v) : type.convert v.raw = some v := by
  cases value with
  | varint n =>
    cases type with
    | uint64 | uint32 =>
      cases h
      show some (Scalar.number _) = some (Scalar.number _)
      congr 2
      omega
    | int64 =>
      cases h
      show some (Scalar.number (signed 64 _)) = some (Scalar.number (signed 64 n))
      congr 2
      unfold signed
      simp only [reducePow, reduceSub]
      split <;> split <;> omega
    | int32 =>
      cases h
      show some (Scalar.number (signed 32 _)) = some (Scalar.number (signed 32 n))
      congr 2
      unfold signed
      simp only [reducePow, reduceSub]
      split <;> split <;> omega
    | bool =>
      cases h
      cases hn : n != 0 <;> rfl
    | string | bytes => cases h
  | bytes b =>
    cases type with
    | string =>
      obtain ⟨hvalid, hv⟩ := ite_none_right_eq_some.1 h
      cases hv
      exact h
    | bytes =>
      cases h
      rfl
    | _ => cases h

variable {schema}

mutual

/-- The entry that a field stands for by itself. -/
def entry (schema : K → Nat → Option (Spec K)) (kind : K) : Field → Option Entry
  | .scalar tag value =>
    match schema kind tag with
    | some ⟨.scalar type, _⟩ => (type.convert value).map (.scalar tag)
    | _ => none
  | .message tag fields =>
    match schema kind tag with
    | some ⟨.message k, _⟩ => (entries schema k fields).map (.message tag)
    | _ => none

/-- The entries that fields stand for by themselves. -/
def entries (schema : K → Nat → Option (Spec K)) (kind : K) : List Field → Option (List Entry)
  | [] => some []
  | field :: fields =>
    match entry schema kind field, entries schema kind fields with
    | some e, some es => some (e :: es)
    | _, _ => none

end

theorem tag_of_entry (h : entry schema kind field = some e) : e.tag = field.tag := by
  cases field with
  | scalar tag value =>
    rw [entry] at h
    split at h
    · obtain ⟨v, -, rfl⟩ := map_eq_some_iff.1 h
      rfl
    · cases h
  | message tag fields =>
    rw [entry] at h
    split at h
    · obtain ⟨es, -, rfl⟩ := map_eq_some_iff.1 h
      rfl
    · cases h

/-- A field that takes the place of nothing is appended. -/
theorem put_of_fresh (h : ∀ e' ∈ m, conflicts schema kind e.tag e'.tag = false) :
    put schema kind m e = m ++ [e] := by
  unfold put
  rw [List.filter_eq_self.2]
  intro e' he'
  rw [h e' he']
  rfl

theorem existing_of_fresh (h : ∀ e ∈ m, conflicts schema kind tag e.tag = false) :
    existing schema kind tag m = [] := by
  induction m with
  | nil => rfl
  | cons e m ih =>
    have hm : existing schema kind tag m = [] := ih fun e' he' => h e' (List.mem_cons_of_mem _ he')
    cases e with
    | scalar tag' value =>
      rw [existing]
      exact hm
    | message tag' inner =>
      rw [existing, if_neg, hm]
      rintro ⟨rfl, hself⟩
      have := h _ List.mem_cons_self
      rw [show (Entry.message tag' inner).tag = tag' from rfl, hself] at this
      cases this

mutual

/-- A field that takes the place of nothing is appended as the entry that it stands for. -/
theorem mergeField_of_unique {kind : K} {m : List Entry} (field : Field)
    (hunique : fieldUnique schema kind field = true)
    (hfresh : ∀ e ∈ m, conflicts schema kind field.tag e.tag = false) :
    mergeField schema kind m field = (entry schema kind field).map fun e => m ++ [e] := by
  cases field with
  | scalar tag value =>
    rw [mergeField, entry]
    split
    · rw [map_map]
      congr 1
      funext v
      exact put_of_fresh hfresh
    · rfl
  | message tag fields =>
    rw [fieldUnique] at hunique
    rw [mergeField, entry]
    split
    · rename_i k label hspec
      rw [hspec] at hunique
      have hexisting : existing schema kind tag m = [] := existing_of_fresh hfresh
      rw [hexisting, mergeFields_of_unique fields hunique (by simp), map_map,
        map_map]
      congr 1
      funext es
      exact put_of_fresh hfresh
    · rfl

/-- Fields that take the place of nothing are appended as the entries that they stand for. -/
theorem mergeFields_of_unique {kind : K} {m : List Entry} (fields : List Field)
    (hunique : fieldsUnique schema kind fields = true)
    (hfresh : ∀ e ∈ m, ∀ field ∈ fields, conflicts schema kind field.tag e.tag = false) :
    mergeFields schema kind m fields = (entries schema kind fields).map fun es => m ++ es := by
  cases fields with
  | nil => simp [mergeFields, entries]
  | cons field fields =>
    simp only [fieldsUnique, Bool.and_eq_true, List.all_eq_true, Bool.not_eq_true'] at hunique
    obtain ⟨⟨hfield, hlater⟩, hfields⟩ := hunique
    rw [mergeFields, entries, mergeField_of_unique field hfield fun e he =>
      hfresh e he field List.mem_cons_self]
    cases he : entry schema kind field with
    | none => rfl
    | some e =>
      have hrest : ∀ e' ∈ m ++ [e], ∀ g ∈ fields, conflicts schema kind g.tag e'.tag = false := by
        intro e' he' g hg
        rcases List.mem_append.1 he' with hm | hlast
        · exact hfresh e' hm g (List.mem_cons_of_mem _ hg)
        · rw [List.mem_singleton.1 hlast, tag_of_entry he]
          exact hlater g hg
      show mergeFields schema kind (m ++ [e]) fields = _
      rw [mergeFields_of_unique fields hfields hrest]
      cases entries schema kind fields with
      | none => rfl
      | some es => simp

end

theorem fieldsValues_append (fields fields' : List Field) :
    fieldsValues schema kind (fields ++ fields') =
      fieldsValues schema kind fields ++ fieldsValues schema kind fields' := by
  induction fields with
  | nil => rfl
  | cons field fields ih => rw [List.cons_append, fieldsValues, fieldsValues, ih, List.append_assoc]

mutual

/-- What is written for an entry carries the values of the field that it was decoded from. -/
theorem values_encodeEntry {kind : K} (field : Field) {e : Entry}
    (h : entry schema kind field = some e) :
    fieldsValues schema kind (encodeEntry schema kind e) = fieldValues schema kind field := by
  cases field with
  | scalar tag value =>
    rw [entry] at h
    split at h
    · rename_i type label hspec
      obtain ⟨v, hv, rfl⟩ := map_eq_some_iff.1 h
      simp only [encodeEntry, fieldValues, hspec, hv]
      split
      · rfl
      · rename_i hdefault
        simp only [fieldsValues, fieldValues, hspec, convert_raw hv, if_neg hdefault,
          List.append_nil]
    · cases h
  | message tag fields =>
    rw [entry] at h
    split at h
    · rename_i k label hspec
      obtain ⟨es, hes, rfl⟩ := map_eq_some_iff.1 h
      simp [encodeEntry, fieldsValues, fieldValues, hspec, values_encodeEntries fields hes]
    · cases h

/-- What is written for entries carries the values of the fields they were decoded from. -/
theorem values_encodeEntries {kind : K} (fields : List Field) {es : List Entry}
    (h : entries schema kind fields = some es) :
    fieldsValues schema kind (encodeEntries schema kind es) = fieldsValues schema kind fields := by
  cases fields with
  | nil =>
    cases h
    rfl
  | cons field fields =>
    rw [entries] at h
    split at h
    · rename_i e es' he hes
      cases h
      rw [encodeEntries, fieldsValues_append, values_encodeEntry field he,
        values_encodeEntries fields hes, fieldsValues]
    · cases h

end

end

end Protobuf
