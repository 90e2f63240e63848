import Mathlib.Data.List.TakeWhile
import Ocservia.Lib.Wire

/-!
# Values of the database

`database/value`: the timestamps and the JSON values that the stores read and write.

`ParseJSONB` reads a text with the JSON decoder, which leaves the numbers as they are written, and
prints it in one form: the members of an object in the order of their keys, strings as the encoder
escapes them, and numbers as decimals without an exponent that keep their scale (`newDecimal`). The
form is a fixed point (`appendJSON_canonical`), so a value that was printed, stored and read back is
printed in the same way (`parseJSONB_stored`).

The decoder and the encoder of strings are parameters. The model lists the members of an object in
the order in which `appendJSON` writes them, by length of the key and then by its bytes.
-/

namespace Ocservia

open Wire List Option

/-! ## Timestamps -/

/-- `value.Timestamp`, without the SQL null: microseconds, with two values for the infinities. -/
abbrev DbTime := Int

namespace DbTime

def minTimestamp : Int := -211813488000000000

def endTimestamp : Int := 9223371331200000000

/-- `NegativeInfinity` or `PositiveInfinity`. -/
def infinite (t : DbTime) : Bool := t == -2 ^ 63 || t == 2 ^ 63 - 1

/-- `Timestamp.Add`, of a duration in nanoseconds. -/
def add (t : DbTime) (duration : Int) : Option DbTime :=
  let delta := duration.tdiv 1000
  if infinite t then some t
  else if t < minTimestamp ∨ endTimestamp ≤ t then none
  else if (0 < delta ∧ endTimestamp - 1 - delta < t) ∨ (delta < 0 ∧ t < minTimestamp - delta) then
    none
  else some (t + delta)

/-- `FromTime`: the microseconds since 2000 of a time in nanoseconds since 1970. -/
def fromTime (nanoseconds : Int) : Option DbTime :=
  let micros := nanoseconds / 1000 - 946684800 * 10 ^ 6
  if minTimestamp ≤ micros ∧ micros < endTimestamp then some micros else none

/-- `Timestamp.Time`, which refuses the infinities. -/
def time (t : DbTime) : Option DbTime :=
  if minTimestamp ≤ t ∧ t < endTimestamp then some t else none

end DbTime

/-! ## JSON numbers -/

/-- The literal of a number: the digits before and after the point, and the exponent. -/
structure JsonNumber where
  negative : Bool
  (integer fraction : List (Fin 10))
  exponent : Int

structure DecimalNumber where
  negative : Bool
  digits : List (Fin 10)
  integerDigits : Int
  (scale leading : Nat)
  zero : Bool
  size : Nat

/-- The zeros at the front. -/
def leadingZeros (digits : List (Fin 10)) : Nat := (digits.takeWhile (· == 0)).length

/-- The length of the text of a number, which `newDecimal` knows without building it. -/
def decimalSize (negative zero : Bool) (integerDigits : Int) (scale leading : Nat) : Nat :=
  let kept := integerDigits.toNat - min leading integerDigits.toNat
  if zero then if 0 < scale then 2 + scale else 1
  else (if 0 < kept then kept else 1) + (if 0 < scale then 1 + scale else 0) +
    if negative then 1 else 0

/-- `newDecimal`: the number, unless its exponent, scale or count of integer digits is too large. -/
def newDecimal (n : JsonNumber) : Option DecimalNumber :=
  let digits := n.integer ++ n.fraction
  let scale := (n.fraction.length - n.exponent : Int).toNat
  let integerDigits : Int := digits.length - n.fraction.length + n.exponent
  let leading := leadingZeros digits
  if 1073741823 < n.exponent ∨ n.exponent < -1073741823 then none
  else if 16383 < scale then none
  else if leading = digits.length then
    some ⟨n.negative, digits, integerDigits, scale, leading, true,
      decimalSize n.negative true integerDigits scale leading⟩
  else if 131072 < integerDigits - leading then none
  else
    some ⟨n.negative, digits, integerDigits, scale, leading, false,
      decimalSize n.negative false integerDigits scale leading⟩

/-- The digits without the zeros at the front, or one zero. -/
def trimZeros (digits : List (Fin 10)) : List (Fin 10) :=
  match digits.dropWhile (· == 0) with
  | [] => [0]
  | trimmed => trimmed

namespace DecimalNumber

/-- The digits with the zeros that `String` puts before and after them. -/
def padded (d : DecimalNumber) : List (Fin 10) :=
  let digits := List.replicate (1 - d.integerDigits).toNat 0 ++ d.digits
  digits ++ List.replicate (d.integerDigits - digits.length).toNat 0

/-- The digits of the padded ones that stand before the point. -/
def point (d : DecimalNumber) : Nat := (max d.integerDigits 1).toNat

/-- `decimalNumber.String`, as a literal. -/
def literal (d : DecimalNumber) : JsonNumber :=
  if d.zero then ⟨false, [0], List.replicate d.scale 0, 0⟩
  else ⟨d.negative, trimZeros (d.padded.take d.point),
    if 0 < d.scale then d.padded.drop d.point else [], 0⟩

end DecimalNumber

def digitsText (digits : List (Fin 10)) : Bytes := digits.map fun d : Fin 10 => 0x30 + d.1.toUInt8

/-- The text of a literal without exponent. -/
def JsonNumber.text (n : JsonNumber) : Bytes :=
  (if n.negative then [0x2d] else []) ++ digitsText n.integer ++
    if n.fraction = [] then [] else 0x2e :: digitsText n.fraction

theorem JsonNumber.length_text (n : JsonNumber) :
    n.text.length = (if n.negative then 1 else 0) + n.integer.length +
      if 0 < n.fraction.length then 1 + n.fraction.length else 0 := by
  obtain ⟨negative, integer, fraction, exponent⟩ := n
  cases negative <;> cases fraction <;> simp [text, digitsText] <;> omega

/-! ### Zeros at the front -/

theorem leadingZeros_le (digits : List (Fin 10)) : leadingZeros digits ≤ digits.length :=
  (takeWhile_sublist _).length_le

variable {d : DecimalNumber}

theorem leadingZeros_eq_length : leadingZeros digits = digits.length ↔ ∀ d ∈ digits, d = 0 := by
  constructor
  · intro h d hd
    have hself := ( takeWhile_prefix (· == 0)).eq_of_length h
    exact eq_of_beq (takeWhile_eq_self_iff.1 hself d hd)
  · intro h
    rw [leadingZeros, takeWhile_eq_self_iff.2 fun d hd => beq_iff_eq.2 (h d hd)]

theorem leadingZeros_take (n : Nat) (digits : List (Fin 10)) :
    leadingZeros (digits.take n) = min n (leadingZeros digits) := by
  rw [leadingZeros, ← take_takeWhile, length_take, leadingZeros]

theorem leadingZeros_zeros_append (n : Nat) (digits : List (Fin 10)) :
    leadingZeros (List.replicate n 0 ++ digits) = n + leadingZeros digits := by
  rw [leadingZeros, takeWhile_append_of_pos (by simp), length_append,
    length_replicate, leadingZeros]

theorem leadingZeros_append (h : leadingZeros digits ≠ digits.length) (rest : List (Fin 10)) :
    leadingZeros (digits ++ rest) = leadingZeros digits := by
  rw [leadingZeros, takeWhile_append]
  exact congrArg length (if_neg h)

theorem length_trimZeros (digits : List (Fin 10)) :
    (trimZeros digits).length = max (digits.length - leadingZeros digits) 1 := by
  have hlen : leadingZeros digits + (digits.dropWhile (· == 0)).length = digits.length := by
    rw [leadingZeros, ← length_append, takeWhile_append_dropWhile]
  unfold trimZeros
  split
  · rename_i hnil
    rw [hnil, length_nil] at hlen
    rw [length_singleton]
    omega
  · rename_i hne
    have hpos := length_pos_iff.2 hne
    omega

theorem trimZeros_idem (digits : List (Fin 10)) :
    trimZeros (trimZeros digits) = trimZeros digits := by
  cases h : digits.dropWhile (· == 0) with
  | nil =>
    rw [show trimZeros digits = [0] by rw [trimZeros, h]]
    rfl
  | cons d rest =>
    have hd : (d == 0) = false := by
      have hhead := head_dropWhile_not (· == 0) (h ▸ cons_ne_nil d rest)
      simpa [h] using hhead
    rw [show trimZeros digits = d :: rest by rw [trimZeros, h], trimZeros, dropWhile_cons, hd]
    rfl

theorem trimZeros_zero (h : ∀ d ∈ trimZeros digits, d = 0) : ∀ d ∈ digits, d = 0 := by
  cases hdrop : digits.dropWhile (· == 0) with
  | nil => exact fun d hd => eq_of_beq (dropWhile_eq_nil_iff.1 hdrop d hd)
  | cons e rest =>
    have hhead := head_dropWhile_not (· == 0) (hdrop ▸ cons_ne_nil e rest)
    rw [show trimZeros digits = e :: rest by rw [trimZeros, hdrop]] at h
    simp [hdrop, h e mem_cons_self] at hhead

/-! ### The printed literal is a fixed point -/

/-- What `newDecimal` answers of: the digits and the place of the point determine the rest. -/
structure DecimalNumber.Checked (d : DecimalNumber) : Prop where
  scale : d.scale = (d.digits.length - d.integerDigits).toNat
  scale_le : d.scale ≤ 16383
  zero : d.zero = true ↔ leadingZeros d.digits = d.digits.length
  integerDigits_le : d.zero = false → d.integerDigits ≤ 131072 + leadingZeros d.digits
  size : d.size = decimalSize d.negative d.zero d.integerDigits d.scale (leadingZeros d.digits)

namespace DecimalNumber

theorem length_padded (d : DecimalNumber) :
    d.padded.length = d.point + (d.digits.length - d.integerDigits).toNat := by
  simp only [padded, point, length_append, length_replicate]
  omega

/-- The digits after the point, which are as many as the scale. -/
theorem Checked.fraction (h : d.Checked) :
    (if 0 < d.scale then d.padded.drop d.point else []) = d.padded.drop d.point ∧
      (d.padded.drop d.point).length = d.scale := by
  have hlen : (d.padded.drop d.point).length = d.scale := by
    rw [length_drop, length_padded, h.scale]
    omega
  refine ⟨?_, hlen⟩
  split
  · rfl
  · exact (eq_nil_of_length_eq_zero (by omega)).symm

theorem leadingZeros_padded (h : leadingZeros d.digits ≠ d.digits.length) :
    leadingZeros d.padded = (1 - d.integerDigits).toNat + leadingZeros d.digits := by
  have hzeros := leadingZeros_zeros_append (1 - d.integerDigits).toNat d.digits
  have hle := leadingZeros_le d.digits
  rw [padded, leadingZeros_append ?_, hzeros]
  rw [hzeros, length_append, length_replicate]
  omega

end DecimalNumber

theorem newDecimal_checked (h : newDecimal n = some d) : d.Checked := by
  simp only [newDecimal] at h
  split at h
  · cases h
  split at h
  · cases h
  rename_i hscale
  have hlen : (n.fraction.length - n.exponent).toNat = ((n.integer ++ n.fraction).length -
      ((n.integer ++ n.fraction).length - n.fraction.length + n.exponent : Int)).toNat := by
    omega
  split at h
  · rename_i hzero
    cases h
    exact ⟨hlen, Nat.not_lt.1 hscale, ⟨fun _ => hzero, fun _ => rfl⟩, nofun, rfl⟩
  rename_i hzero
  split at h
  · cases h
  rename_i hdigits
  cases h
  refine ⟨hlen, Nat.not_lt.1 hscale, ⟨nofun, fun h => absurd h hzero⟩, fun _ => ?_, rfl⟩
  dsimp only
  omega

/-- The digits before the point, as `newDecimal` counts them. -/
theorem DecimalNumber.length_integer (h : leadingZeros d.digits ≠ d.digits.length) :
    (trimZeros (d.padded.take d.point)).length =
      max (d.integerDigits.toNat - min (leadingZeros d.digits) d.integerDigits.toNat) 1 := by
  rw [length_trimZeros, leadingZeros_take, leadingZeros_padded h, length_take, length_padded,
    point]
  omega

theorem DecimalNumber.Checked.nonzero (h : d.Checked) (hzero : d.zero = false) :
    leadingZeros d.digits ≠ d.digits.length := by
  rw [Ne, ← h.zero, hzero]
  exact Bool.false_ne_true

/-- The size is the length of the text. -/
theorem DecimalNumber.Checked.length_text (h : d.Checked) : d.literal.text.length = d.size := by
  rw [h.size, decimalSize, literal]
  cases hzero : d.zero with
  | true =>
    rw [if_pos rfl, if_pos rfl, JsonNumber.length_text, length_replicate]
    by_cases hscale : 0 < d.scale
    · simp only [hscale, if_true, length_singleton, Bool.false_eq_true, if_false]
      omega
    · simp [hscale]
  | false =>
    rw [if_neg Bool.false_ne_true, if_neg Bool.false_ne_true, h.fraction.1, JsonNumber.length_text]
    dsimp only
    rw [h.fraction.2, length_integer (h.nonzero hzero)]
    generalize d.integerDigits.toNat - min (leadingZeros d.digits) d.integerDigits.toNat = kept
    by_cases hkept : 0 < kept
    · rw [if_pos hkept, Nat.max_eq_left hkept]
      omega
    · rw [if_neg hkept, Nat.max_eq_right (by omega)]
      omega

/-- A literal in the printed form is read as itself. -/
theorem newDecimal_printed (hexponent : n.exponent = 0) (htrim : trimZeros n.integer = n.integer)
    (hfraction : n.fraction.length ≤ 16383) (hinteger : n.integer.length ≤ 131072)
    (hzero : (∀ d ∈ n.integer ++ n.fraction, d = 0) → n.negative = false) :
    ∃ d, newDecimal n = some d ∧ d.literal = n := by
  obtain ⟨negative, integer, fraction, exponent⟩ := n
  obtain rfl : exponent = 0 := hexponent
  dsimp only at htrim hfraction hinteger hzero
  have hpos : 1 ≤ integer.length := by
    rw [← htrim, length_trimZeros]
    omega
  simp only [newDecimal]
  rw [if_neg (by omega), if_neg (by omega)]
  by_cases hall : leadingZeros (integer ++ fraction) = (integer ++ fraction).length
  · have hzeros := leadingZeros_eq_length.1 hall
    rw [if_pos hall]
    refine ⟨_, rfl, ?_⟩
    have hone : integer = [0] := by
      rw [← htrim, trimZeros, dropWhile_eq_nil_iff.2 fun d hd =>
        beq_iff_eq.2 (hzeros d (mem_append_left _ hd))]
    have hrest : fraction = replicate fraction.length 0 :=
      eq_replicate_iff.2 ⟨rfl, fun d hd => hzeros d (mem_append_right _ hd)⟩
    rw [DecimalNumber.literal, if_pos rfl]
    simp only [Int.sub_zero, Int.toNat_natCast]
    rw [hzero hzeros, ← hrest, hone]
  rw [if_neg hall, if_neg (by simp only [length_append]; omega)]
  refine ⟨_, rfl, ?_⟩
  have hpoint : ((integer ++ fraction).length - fraction.length + 0 : Int) = integer.length := by
    simp only [length_append]
    omega
  have hnone : (1 - (integer.length : Int)).toNat = 0 ∧
      (integer.length - ((integer ++ fraction).length : Int)).toNat = 0 := by
    simp only [length_append]
    omega
  simp only [DecimalNumber.literal, DecimalNumber.padded, DecimalNumber.point, hpoint, hnone.1,
    hnone.2, replicate_zero, nil_append, append_nil, Bool.false_eq_true, if_false]
  rw [show (max (integer.length : Int) 1).toNat = integer.length by omega, take_left,
    drop_left, htrim]
  cases fraction <;> simp

/-- What a number prints as, prints as itself. -/
theorem newDecimal_literal (h : newDecimal n = some d) :
    ∃ d', newDecimal d.literal = some d' ∧ d'.literal = d.literal ∧ d'.size = d.size := by
  have hd := newDecimal_checked h
  obtain ⟨d', hnew, hliteral⟩ : ∃ d', newDecimal d.literal = some d' ∧ d'.literal = d.literal := by
    cases hzero : d.zero with
    | true =>
      rw [DecimalNumber.literal, if_pos hzero]
      refine newDecimal_printed rfl rfl ?_ (by simp) fun _ => rfl
      rw [length_replicate]
      exact hd.scale_le
    | false =>
      have hne := hd.nonzero hzero
      have hdigits := hd.integerDigits_le hzero
      rw [DecimalNumber.literal, if_neg (by rw [hzero]; exact Bool.false_ne_true), hd.fraction.1]
      refine newDecimal_printed rfl (trimZeros_idem _) ?_ ?_ fun hall => ?_
      · exact (Nat.le_of_eq hd.fraction.2).trans hd.scale_le
      · dsimp only
        rw [DecimalNumber.length_integer hne]
        omega
      · -- All digits would be zero.
        have hpadded : ∀ x ∈ d.padded, x = 0 := by
          intro x hx
          rw [← take_append_drop d.point d.padded] at hx
          rcases mem_append.1 hx with hx | hx
          · exact trimZeros_zero (fun y hy => hall y (mem_append_left _ hy)) x hx
          · exact hall x (mem_append_right _ hx)
        refine absurd (leadingZeros_eq_length.2 fun x hx => hpadded x ?_) hne
        exact mem_append_left _ (mem_append_right _ hx)
  refine ⟨d', hnew, hliteral, ?_⟩
  rw [← (newDecimal_checked hnew).length_text, hliteral, hd.length_text]

/-! ## JSON values -/

inductive Json where
  | null
  | bool (value : Bool)
  | string (value : String)
  | number (value : JsonNumber)
  | array (items : List Json)
  | object (members : List (String × Json))

structure JsonWriter where
  text : Bytes
  left : Nat

/-- A write after `reserve(n)`. -/
def JsonWriter.write (w : JsonWriter) (n : Nat) (text : Bytes) : Option JsonWriter :=
  if w.left < n then none else some ⟨w.text ++ text, w.left - n⟩

/-- The comma before all but the first. -/
def JsonWriter.comma (w : JsonWriter) (first : Bool) : Option JsonWriter :=
  if first then some w else w.write 1 (utf8 ",")

/-- `appendJSON` of a string. -/
def appendJSONString (escape : String → Bytes) (s : String) (w : JsonWriter) : Option JsonWriter :=
  if '\x00' ∈ s.toList then none
  else if w.left < s.utf8ByteSize + 2 then none
  else w.write (escape s).length (escape s)

mutual

def appendJSON (escape : String → Bytes) : Json → JsonWriter → Option JsonWriter
  | .null, w => w.write 4 (utf8 "null")
  | .bool true, w => w.write 4 (utf8 "true")
  | .bool false, w => w.write 5 (utf8 "false")
  | .string s, w => appendJSONString escape s w
  | .number n, w => do
    let number ← newDecimal n
    w.write number.size number.literal.text
  | .array items, w => do
    let w ← w.write 1 (utf8 "[")
    let w ← appendItems escape true items w
    w.write 1 (utf8 "]")
  | .object members, w => do
    let w ← w.write 1 (utf8 "\x7b")
    let w ← appendMembers escape true members w
    w.write 1 (utf8 "\x7d")

/-- The items of an array, with a comma before each but the first. -/
def appendItems (escape : String → Bytes) : Bool → List Json → JsonWriter → Option JsonWriter
  | _, [], w => some w
  | first, item :: rest, w => do
    let w ← w.comma first
    let w ← appendJSON escape item w
    appendItems escape false rest w

/-- The members of an object, with a comma before each but the first. -/
def appendMembers (escape : String → Bytes) :
    Bool → List (String × Json) → JsonWriter → Option JsonWriter
  | _, [], w => some w
  | first, (key, value) :: rest, w => do
    let w ← w.comma first
    let w ← appendJSONString escape key w
    let w ← w.write 1 (utf8 ":")
    let w ← appendJSON escape value w
    appendMembers escape false rest w

end

/-- The literal that a number prints as. -/
def JsonNumber.printed (n : JsonNumber) : JsonNumber :=
  match newDecimal n with
  | some d => d.literal
  | none => n

mutual

/-- The value with its numbers as they print. -/
def Json.canonical : Json → Json
  | .null => .null
  | .bool b => .bool b
  | .string s => .string s
  | .number n => .number n.printed
  | .array items => .array (Json.canonicalItems items)
  | .object members => .object (Json.canonicalMembers members)

def Json.canonicalItems : List Json → List Json
  | [] => []
  | item :: rest => item.canonical :: Json.canonicalItems rest

def Json.canonicalMembers : List (String × Json) → List (String × Json)
  | [] => []
  | (key, value) :: rest => (key, value.canonical) :: Json.canonicalMembers rest

end

mutual

def Json.numbers : Json → List JsonNumber
  | .number n => [n]
  | .array items => Json.itemNumbers items
  | .object members => Json.memberNumbers members
  | _ => []

def Json.itemNumbers : List Json → List JsonNumber
  | [] => []
  | item :: rest => item.numbers ++ Json.itemNumbers rest

def Json.memberNumbers : List (String × Json) → List JsonNumber
  | [] => []
  | (_, value) :: rest => value.numbers ++ Json.memberNumbers rest

end

section
variable (escape : String → Bytes)

mutual

/-- A value prints as its canonical form does. -/
theorem appendJSON_canonical : ∀ (v : Json) (w : JsonWriter),
    appendJSON escape v.canonical w = appendJSON escape v w
  | .null, _ | .bool _, _ | .string _, _ => by rw [Json.canonical]
  | .number n, w => by
    rw [Json.canonical, appendJSON, appendJSON, JsonNumber.printed]
    cases h : newDecimal n with
    | none => simp [h]
    | some d =>
      obtain ⟨d', hnew, hliteral, hsize⟩ := newDecimal_literal h
      simp [hnew, hliteral, hsize]
  | .array items, w => by
    rw [Json.canonical, appendJSON, appendJSON]
    simp only [appendItems_canonical items]
  | .object members, w => by
    rw [Json.canonical, appendJSON, appendJSON]
    simp only [appendMembers_canonical members]

theorem appendItems_canonical : ∀ (items : List Json) (first : Bool) (w : JsonWriter),
    appendItems escape first (Json.canonicalItems items) w = appendItems escape first items w
  | [], _, _ => by rw [Json.canonicalItems]
  | item :: rest, first, w => by
    rw [Json.canonicalItems, appendItems, appendItems]
    simp only [appendJSON_canonical item, appendItems_canonical rest]

theorem appendMembers_canonical :
    ∀ (members : List (String × Json)) (first : Bool) (w : JsonWriter),
    appendMembers escape first (Json.canonicalMembers members) w =
      appendMembers escape first members w
  | [], _, _ => by rw [Json.canonicalMembers]
  | (key, value) :: rest, first, w => by
    rw [Json.canonicalMembers, appendMembers, appendMembers]
    simp only [appendJSON_canonical value, appendMembers_canonical rest]

end

mutual

/-- Every number of a value that prints is in range. -/
theorem appendJSON_numbers : ∀ {v : Json} {w w' : JsonWriter},
    appendJSON escape v w = some w' → ∀ n ∈ v.numbers, (newDecimal n).isSome = true
  | .null, _, _, _, _, h | .bool _, _, _, _, _, h | .string _, _, _, _, _, h => by
    simp [Json.numbers] at h
  | .number m, w, w', h, n, hn => by
    rw [appendJSON] at h
    obtain ⟨d, hd, -⟩ := bind_eq_some_iff.1 h
    rw [Json.numbers, mem_singleton] at hn
    rw [hn, hd]
    rfl
  | .array items, w, w', h, n, hn => by
    rw [appendJSON] at h
    obtain ⟨w₁, -, h⟩ := bind_eq_some_iff.1 h
    obtain ⟨w₂, hitems, -⟩ := bind_eq_some_iff.1 h
    rw [Json.numbers] at hn
    exact appendItems_numbers hitems n hn
  | .object members, w, w', h, n, hn => by
    rw [appendJSON] at h
    obtain ⟨w₁, -, h⟩ := bind_eq_some_iff.1 h
    obtain ⟨w₂, hmembers, -⟩ := bind_eq_some_iff.1 h
    rw [Json.numbers] at hn
    exact appendMembers_numbers hmembers n hn

theorem appendItems_numbers : ∀ {items : List Json} {first : Bool} {w w' : JsonWriter},
    appendItems escape first items w = some w' →
      ∀ n ∈ Json.itemNumbers items, (newDecimal n).isSome = true
  | [], _, _, _, _, _, hn => by simp [Json.itemNumbers] at hn
  | item :: rest, first, w, w', h, n, hn => by
    rw [appendItems] at h
    obtain ⟨w₁, -, h⟩ := bind_eq_some_iff.1 h
    obtain ⟨w₂, hitem, hrest⟩ := bind_eq_some_iff.1 h
    rw [Json.itemNumbers] at hn
    rcases mem_append.1 hn with hn | hn
    · exact appendJSON_numbers hitem n hn
    · exact appendItems_numbers hrest n hn

theorem appendMembers_numbers : ∀ {members : List (String × Json)} {first : Bool}
    {w w' : JsonWriter}, appendMembers escape first members w = some w' →
      ∀ n ∈ Json.memberNumbers members, (newDecimal n).isSome = true
  | [], _, _, _, _, _, hn => by simp [Json.memberNumbers] at hn
  | (key, value) :: rest, first, w, w', h, n, hn => by
    rw [appendMembers] at h
    obtain ⟨w₁, -, h⟩ := bind_eq_some_iff.1 h
    obtain ⟨w₂, -, h⟩ := bind_eq_some_iff.1 h
    obtain ⟨w₃, -, h⟩ := bind_eq_some_iff.1 h
    obtain ⟨w₄, hvalue, hrest⟩ := bind_eq_some_iff.1 h
    rw [Json.memberNumbers] at hn
    rcases mem_append.1 hn with hn | hn
    · exact appendJSON_numbers hvalue n hn
    · exact appendMembers_numbers hrest n hn

end

end

/-! ## JSON texts -/

/-- The value of four hexadecimal digits. -/
def hexWord (a b c d : UInt8) : Option Nat := do
  let digit (x : UInt8) : Option Nat :=
    if 0x30 ≤ x ∧ x ≤ 0x39 then some (x.toNat - 0x30)
    else if 0x61 ≤ x ∧ x ≤ 0x66 then some (x.toNat - 0x57)
    else if 0x41 ≤ x ∧ x ≤ 0x46 then some (x.toNat - 0x37)
    else none
  return (((← digit a) * 16 + (← digit b)) * 16 + (← digit c)) * 16 + (← digit d)

/-- `validEscapes`: no escaped NUL and no lone surrogate in a string. -/
def validEscapes (inString : Bool) : Bytes → Bool
  | [] => true
  | c :: rest =>
    if c = 0x22 then validEscapes (!inString) rest
    else if !inString || c ≠ 0x5c then validEscapes inString rest
    else match rest with
      | [] => false
      | 0x75 :: a :: b :: c :: d :: rest =>
        match hexWord a b c d with
        | none => false
        | some u =>
          if u = 0 ∨ (0xdc00 ≤ u ∧ u ≤ 0xdfff) then false
          else if 0xd800 ≤ u ∧ u ≤ 0xdbff then
            match rest with
            | 0x5c :: 0x75 :: a :: b :: c :: d :: rest =>
              match hexWord a b c d with
              | none => false
              | some low =>
                  if low < 0xdc00 ∨ 0xdfff < low then false else validEscapes inString rest
            | _ => false
          else validEscapes inString rest
      | e :: rest => if e = 0x75 then false else validEscapes inString rest

/-- The JSON package on texts of UTF-8. -/
structure JsonText where
  /-- The numbers among the tokens of a text. -/
  tokens : Bytes → Option (List JsonNumber)
  /-- The value that a text is one of, with its numbers as they are written. -/
  decode : Bytes → Option Json
  /-- `json.Marshal` of a string. -/
  escape : String → Bytes

def maxJSONBBytes : Nat := 8 * 2 ^ 20

/-- `ParseJSONB` of a text. -/
def parseJSONB (J : JsonText) (data : Bytes) : Option Bytes :=
  if validEscapes false data then do
    let numbers ← J.tokens data
    if numbers.all fun n => (newDecimal n).isSome then
      let v ← J.decode data
      return (← appendJSON J.escape v ⟨[], maxJSONBBytes⟩).text
    else none
  else none

/-- A `jsonb` column gives back the value that it was given, in a text of its own. -/
structure JsonText.Faithful (J : JsonText) (stored : Bytes → Bytes) : Prop where
  escapes : ∀ {data v w}, J.decode data = some v →
    appendJSON J.escape v ⟨[], maxJSONBBytes⟩ = some w → validEscapes false (stored w.text) = true
  tokens : ∀ {data v w}, J.decode data = some v →
    appendJSON J.escape v ⟨[], maxJSONBBytes⟩ = some w →
      J.tokens (stored w.text) = some v.canonical.numbers
  decode : ∀ {data v w}, J.decode data = some v →
    appendJSON J.escape v ⟨[], maxJSONBBytes⟩ = some w →
      J.decode (stored w.text) = some v.canonical

/-- A value that was printed, stored and read prints in the same way. -/
theorem parseJSONB_stored (hJ : J.Faithful stored) (h : parseJSONB J data = some text) :
    parseJSONB J (stored text) = some text := by
  unfold parseJSONB at h
  split at h
  · obtain ⟨numbers, -, h⟩ := bind_eq_some_iff.1 h
    split at h
    · obtain ⟨v, hv, h⟩ := bind_eq_some_iff.1 h
      obtain ⟨w, hw, h⟩ := bind_eq_some_iff.1 h
      cases h
      have hcanonical := (appendJSON_canonical J.escape v ⟨[], maxJSONBBytes⟩).trans hw
      have hnumbers : (v.canonical.numbers.all fun n => (newDecimal n).isSome) = true :=
        all_eq_true.2 (appendJSON_numbers J.escape hcanonical)
      rw [parseJSONB, if_pos (hJ.escapes hv hw), hJ.tokens hv hw, bind_eq_bind,
        bind_some, if_pos hnumbers, hJ.decode hv hw]
      simp [hcanonical]
    · cases h
  · cases h

end Ocservia
