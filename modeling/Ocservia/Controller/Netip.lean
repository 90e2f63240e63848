import Mathlib.Data.List.TakeDrop
import Mathlib.Data.List.TakeWhile
import Mathlib.Data.Nat.Digits.Defs
import Ocservia.Contract.Text
import Ocservia.Lib.Decimal

/-!
# Numbers and addresses of the two standard libraries

The Controller reads numbers with `strconv` and addresses with `net/netip`, the node with
`str::parse` and `Ipv4Addr::from_str`. `parseIPv4Fields_eq` relates the loop of `net/netip`, by
induction over the text, to the octets between the dots, which is how the Rust parser reads an
address. Both accept an address in its printed form only (`parseIpv4_eq_some`), and a number that is
compared with its printed form is the same number for both.
-/

namespace Ocservia

open Wire Option

/-! ## Addresses in dotted decimal -/

/-- `validNumber` accepts the numerals that are printed. -/
theorem validNumber_iff : validNumber digits = true ↔ Decimal.Canonical digits := by
  unfold validNumber
  simp only [Bool.not_eq_true', Bool.or_eq_false_iff, List.isEmpty_eq_false_iff,
    Bool.and_eq_false_imp, decide_eq_true_eq, beq_eq_false_iff_ne, Bool.not_eq_false',
    List.all_eq_true]
  constructor
  · rintro ⟨⟨hne, hzero⟩, hdigit⟩
    refine ⟨hne, hdigit, fun h => ?_⟩
    have hpos := List.length_pos_iff.2 hne
    by_contra hlength
    exact hzero (by omega) h
  · rintro ⟨hne, hdigit, hzero⟩
    refine ⟨⟨hne, fun hlength h => ?_⟩, hdigit⟩
    have := hzero h
    omega

/-- An octet is accepted in its printed form only. -/
theorem parseOctet_eq_some : parseOctet digits = some n ↔ n ≤ 255 ∧ digits = Nat.toDigits 10 n := by
  unfold parseOctet
  constructor
  · intro h
    obtain ⟨hvalid, h⟩ := ite_none_right_eq_some.1 h
    obtain ⟨hle, h⟩ := ite_none_right_eq_some.1 h
    cases h
    simp only [Bool.and_eq_true] at hvalid
    exact ⟨hle, (Decimal.toDigits_value (validNumber_iff.1 hvalid.1)).symm⟩
  · rintro ⟨hle, rfl⟩
    have hvalue := Decimal.value_toDigits n
    have hlength : (Nat.toDigits 10 n).length ≤ 3 :=
      Nat.toDigits_length 10 n 3 (by decide) (by omega)
    have hvalid := validNumber_iff.2 (Decimal.toDigits_canonical n)
    rw [if_pos (by simp [hvalid, hlength])]
    show (if Decimal.value (Nat.toDigits 10 n) ≤ 255 then some (Decimal.value _) else none) = some n
    rw [hvalue, if_pos hle]

/-- The printed form of the address with the given octets. -/
def dotted (octets : List Nat) : List Char := ['.'].intercalate (octets.map (Nat.toDigits 10))

def octetsOf (ip : Nat) : List Nat := [ip / 2 ^ 24, ip / 2 ^ 16 % 256, ip / 2 ^ 8 % 256, ip % 256]

/-- The number of an address with the given octets. -/
def ofOctets (octets : List Nat) : Nat := octets.foldl (fun n octet => n * 256 + octet) 0

/-- No numeral has a dot. -/
theorem dot_not_mem_toDigits (n : Nat) : '.' ∉ Nat.toDigits 10 n := fun h =>
  absurd (Nat.isDigit_of_mem_toDigits (by decide) (by decide) h) (by decide)

variable {octets : List Nat}

/-- Split at its dots, a dotted text gives its numerals. -/
theorem splitOn_dotted (h : octets ≠ []) :
    (dotted octets).splitOn '.' = octets.map (Nat.toDigits 10) := by
  refine List.splitOn_intercalate '.' ?_ (by simpa using h)
  simp only [List.mem_map, forall_exists_index, and_imp, forall_apply_eq_imp_iff₂]
  exact fun n _ => dot_not_mem_toDigits n

/-- The octets between the dots of a text. -/
def splitOctets (value : List Char) : Option (List Nat) := (value.splitOn '.').mapM parseOctet

/-- Octets are read from their numerals only. -/
theorem mapM_parseOctet_eq_some :
    parts.mapM parseOctet = some octets ↔
      (∀ n ∈ octets, n ≤ 255) ∧ parts = octets.map (Nat.toDigits 10) := by
  induction parts generalizing octets with
  | nil => cases octets <;> simp
  | cons part parts ih =>
    rw [List.mapM_cons]
    simp only [bind_eq_bind, bind_eq_some_iff, parseOctet_eq_some, ih]
    constructor
    · rintro ⟨n, ⟨hn, rfl⟩, rest, ⟨hrest, rfl⟩, h⟩
      cases h
      exact ⟨List.forall_mem_cons.2 ⟨hn, hrest⟩, rfl⟩
    · cases octets with
      | nil => simp
      | cons n octets =>
        rintro ⟨hle, h⟩
        obtain ⟨rfl, rfl⟩ := List.cons.inj h
        exact ⟨n, ⟨hle n (by simp), rfl⟩, octets, ⟨fun m hm => hle m (by simp [hm]), rfl⟩, rfl⟩

/-- The octets that are split off are those of the dotted text. -/
theorem splitOctets_eq_some (hne : octets ≠ []) :
    splitOctets value = some octets ↔ (∀ n ∈ octets, n ≤ 255) ∧ value = dotted octets := by
  rw [splitOctets, mapM_parseOctet_eq_some]
  refine and_congr_right fun _ => ⟨fun h => ?_, ?_⟩
  · rw [dotted, ← h, List.intercalate_splitOn]
  · rintro rfl
    exact splitOn_dotted hne

/-- `Ipv4Addr::from_str` reads four octets. -/
theorem parseIpv4_eq (value : List Char) :
    parseIpv4 value = (splitOctets value).bind fun octets =>
      if octets.length = 4 then some (ofOctets octets) else none := by
  unfold parseIpv4 splitOctets
  generalize value.splitOn '.' = parts
  match parts with
  | [] => rfl
  | [a] => cases ha : parseOctet a <;> simp [ha]
  | [a, b] => cases ha : parseOctet a <;> cases hb : parseOctet b <;> simp [ha, hb]
  | [a, b, c] =>
    cases ha : parseOctet a <;> cases hb : parseOctet b <;> cases hc : parseOctet c <;>
      simp [ha, hb, hc]
  | [a, b, c, d] =>
    cases ha : parseOctet a <;> cases hb : parseOctet b <;> cases hc : parseOctet c <;>
      cases hd : parseOctet d <;> simp [ha, hb, hc, hd, ofOctets]
    omega
  | a :: b :: c :: d :: e :: rest =>
    symm
    rw [bind_eq_none_iff]
    intro octets h
    have hlength := congrArg List.length (mapM_parseOctet_eq_some.1 h).2
    simp at hlength
    rw [if_neg (by omega)]

namespace ConfigProfile

/-! ## `net/netip` -/

/-- The loop of `parseIPv4Fields` of `net/netip`: `fields` are the octets so far, `val` and `digLen`
value and digits of the current one. -/
def parseIPv4Fields (val digLen : Nat) (fields : List Nat) (previous : Option Char) :
    List Char → Option (List Nat)
  | [] => if fields.length < 3 then none else some (fields ++ [val])
  | c :: rest =>
    if c.isDigit then
      if digLen == 1 && val == 0 then none
      else if 255 < val * 10 + (c.toNat - 48) then none
      else parseIPv4Fields (val * 10 + (c.toNat - 48)) (digLen + 1) fields (some c) rest
    else if c == '.' then
      if previous == none || rest.isEmpty || previous == some '.' then none
      else if fields.length == 3 then none
      else parseIPv4Fields 0 0 (fields ++ [val]) (some c) rest
    else none

/-- The octets of a text, after those of `fields`, when there are four of them. -/
def fourOctets (fields : List Nat) (parts : List (List Char)) : Option (List Nat) :=
  (parts.mapM parseOctet).bind fun octets =>
    if fields.length + octets.length = 4 then some (fields ++ octets) else none

variable {previous : Option Char} {read rest : List Char}

/-- A part that is no octet fails the rest. -/
theorem fourOctets_cons_none (h : parseOctet part = none) :
    fourOctets fields (part :: parts) = none := by
  simp [fourOctets, List.mapM_cons, h]

/-- An octet joins those read before it. -/
theorem fourOctets_cons_some (h : parseOctet part = some n) :
    fourOctets fields (part :: parts) = fourOctets (fields ++ [n]) parts := by
  simp only [fourOctets, List.mapM_cons, h, bind_eq_bind, bind_some]
  cases parts.mapM parseOctet with
  | none => rfl
  | some octets => simp [Nat.add_comm, Nat.add_left_comm]

/-- More than four octets are refused. -/
theorem fourOctets_too_long (h : 4 < fields.length + parts.length) :
    fourOctets fields parts = none := by
  rw [fourOctets, bind_eq_none_iff]
  intro octets hoctets
  have hlength := congrArg List.length (mapM_parseOctet_eq_some.1 hoctets).2
  rw [List.length_map] at hlength
  rw [if_neg (by omega)]

/-- The digits `read` of the current octet, as the loop knows them. -/
structure Reading (val digLen : Nat) (previous : Option Char) (read : List Char) : Prop where
  digit : ∀ c ∈ read, c.isDigit = true
  zero : read.head? = some '0' → read.length = 1
  value : val = Decimal.value read
  le : val ≤ 255
  length : digLen = read.length
  previous : read = [] ↔ previous = none ∨ previous = some '.'

section
variable (h : Reading val digLen previous read)
include h

/-- The digits read so far are the octet that the loop holds. -/
theorem Reading.parseOctet (hne : read ≠ []) : parseOctet read = some val := by
  have hprinted := Decimal.toDigits_value ⟨hne, h.digit, h.zero⟩
  rw [parseOctet_eq_some]
  exact ⟨h.le, by rw [h.value, hprinted]⟩

/-- One digit of value zero is the digit zero. -/
theorem Reading.eq_zero (hlength : digLen = 1) (hzero : val = 0) : read = ['0'] := by
  obtain ⟨c, rfl⟩ := List.length_eq_one_iff.1 (h.length.symm.trans hlength)
  have hprinted := Decimal.toDigits_value ⟨by simp, h.digit, h.zero⟩
  rw [← h.value, hzero] at hprinted
  exact hprinted.symm

/-- A further digit that leaves the octet in range. -/
theorem Reading.digit_read (hc : c.isDigit = true)
    (hdot : c ≠ '.') (hzero : ¬ (digLen = 1 ∧ val = 0))
    (hvalue : Decimal.value (read ++ [c]) = val') (hle : val' ≤ 255) :
    Reading val' (digLen + 1) (some c) (read ++ [c]) where
  digit := by
    intro d hd
    rcases List.mem_append.1 hd with hd | hd
    · exact h.digit d hd
    · rw [List.mem_singleton.1 hd]
      exact hc
  zero := by
    intro hhead
    cases read with
    | nil => rfl
    | cons d read =>
      -- a zero that is read as a first digit is the whole numeral
      cases hhead
      have hlength := h.zero rfl
      obtain rfl : read = [] := by simpa using hlength
      exact absurd ⟨h.length, h.value⟩ hzero
  value := hvalue.symm
  le := hle
  length := by rw [List.length_append, h.length, List.length_singleton]
  previous := by simp [hdot]

end

/-- An octet has digits only. -/
theorem parseOctet_none_of_digit (hc : c.isDigit = false) :
    parseOctet (read ++ c :: rest) = none := by
  refine eq_none_iff_forall_ne_some.2 fun n hn => ?_
  have h := (parseOctet_eq_some.1 hn).2
  have hmem : c ∈ Nat.toDigits 10 n := by
    rw [← h]
    simp
  rw [Nat.isDigit_of_mem_toDigits (by decide) (by decide) hmem] at hc
  cases hc

/-- No digits after a value over 255 make an octet. -/
theorem parseOctet_none_of_large (h : 255 < Decimal.value read) :
    parseOctet (read ++ rest) = none := by
  refine eq_none_iff_forall_ne_some.2 fun n hn => ?_
  obtain ⟨hle, hdigits⟩ := parseOctet_eq_some.1 hn
  have hvalue := Decimal.value_toDigits n
  rw [← hdigits] at hvalue
  have := Decimal.value_le_value_append read rest
  omega

/-- An octet of two digits or more has no leading zero. -/
theorem parseOctet_none_of_leading_zero : parseOctet ('0' :: c :: rest) = none := by
  refine eq_none_iff_forall_ne_some.2 fun n hn => ?_
  have hcanonical := Decimal.toDigits_canonical n
  rw [← (parseOctet_eq_some.1 hn).2] at hcanonical
  simpa using hcanonical.zero rfl

/-- The next character moves from the rest to what is read. -/
theorem modifyHead_append_cons (parts : List (List Char)) :
    (parts.modifyHead (List.cons c)).modifyHead (read ++ ·) =
      parts.modifyHead ((read ++ [c]) ++ ·) := by
  cases parts <;> simp

/-- A character that is no dot stays in the first part. -/
theorem splitOn_dot_cons (h : c ≠ '.') :
    (c :: rest).splitOn '.' = (rest.splitOn '.').modifyHead (List.cons c) := by
  rw [List.splitOn_cons_eq_if_modifyHead, if_neg (by simpa using h)]

/-- A dot ends an empty first part. -/
theorem splitOn_dot_dot (rest : List Char) :
    ('.' :: rest).splitOn '.' = [] :: rest.splitOn '.' := by
  rw [List.splitOn_cons_eq_if_modifyHead, if_pos (by simp)]

section
variable (value : List Char)

/-- There is always a first part. -/
theorem splitOn_dot_ne_nil : value.splitOn '.' ≠ [] := List.splitOn_ne_nil _ _

/-- **The loop reads the octets between the dots**, the first continuing the one being read. -/
theorem parseIPv4Fields_eq (h : Reading val digLen previous read)
    (hfields : fields.length ≤ 3) (hend : value = [] → read ≠ [] ∨ fields.length < 3) :
    parseIPv4Fields val digLen fields previous value =
      fourOctets fields ((value.splitOn '.').modifyHead (read ++ ·)) := by
  induction value generalizing val digLen fields previous read with
  | nil =>
    simp only [parseIPv4Fields, List.splitOn_nil, List.modifyHead_cons, List.append_nil]
    by_cases hread : read = []
    · subst hread
      rw [if_pos ((hend rfl).resolve_left (by simp)), fourOctets_cons_none rfl]
    rw [fourOctets_cons_some (h.parseOctet hread)]
    simp only [fourOctets, List.mapM_nil, pure_def, bind_some, List.append_nil,
      List.length_append, List.length_cons, List.length_nil]
    split
    · rw [if_neg (by omega)]
    · rw [if_pos (by omega)]
  | cons c rest ih =>
    rw [parseIPv4Fields]
    obtain ⟨part, parts, hparts⟩ := List.exists_cons_of_ne_nil (splitOn_dot_ne_nil rest)
    by_cases hc : c.isDigit = true
    · -- a digit continues the octet being read
      have hdot : c ≠ '.' := by
        rintro rfl
        cases hc
      rw [if_pos hc, splitOn_dot_cons hdot, modifyHead_append_cons]
      by_cases hzero : digLen = 1 ∧ val = 0
      · obtain rfl := h.eq_zero hzero.1 hzero.2
        rw [if_pos (by simpa using hzero), hparts, List.modifyHead_cons]
        exact (fourOctets_cons_none parseOctet_none_of_leading_zero).symm
      rw [if_neg (by simpa using hzero)]
      have hvalue : Decimal.value (read ++ [c]) = val * 10 + (c.toNat - 48) := by
        rw [Decimal.value_append_singleton, ← h.value, Nat.mul_comm]
      by_cases hlarge : 255 < val * 10 + (c.toNat - 48)
      · rw [if_pos hlarge, hparts, List.modifyHead_cons]
        exact (fourOctets_cons_none (parseOctet_none_of_large (by omega))).symm
      · rw [if_neg hlarge]
        exact ih (h.digit_read hc hdot hzero hvalue (by omega)) hfields fun _ => .inl (by simp)
    by_cases hdot : c = '.'
    · -- a dot ends the octet being read
      subst hdot
      rw [if_neg hc, if_pos (by simp), splitOn_dot_dot, List.modifyHead_cons, List.append_nil]
      by_cases hread : read = []
      · have hprevious := h.previous.1 hread
        subst hread
        rw [if_pos (by rcases hprevious with rfl | rfl <;> simp), fourOctets_cons_none rfl]
      have hprevious : previous ≠ none ∧ previous ≠ some '.' :=
        not_or.1 fun hp => hread (h.previous.2 hp)
      rw [fourOctets_cons_some (h.parseOctet hread)]
      cases rest with
      | nil => simp [fourOctets_cons_none (show parseOctet [] = none from rfl)]
      | cons d rest =>
        rw [if_neg (by simp [hprevious])]
        by_cases hfull : fields.length = 3
        · rw [if_pos (by simpa using hfull), fourOctets_too_long]
          have := List.length_pos_iff.2 (splitOn_dot_ne_nil (d :: rest))
          simp only [List.length_append, List.length_cons, List.length_nil]
          omega
        rw [if_neg (by simpa using hfull)]
        have hnext : Reading 0 0 (some '.') [] := ⟨by simp, by simp, rfl, by decide, rfl, by simp⟩
        rw [ih hnext (by simp; omega) (by simp), hparts]
        rfl
    · rw [if_neg hc, if_neg (by simpa using hdot), splitOn_dot_cons hdot,
        modifyHead_append_cons, hparts, List.modifyHead_cons, List.append_assoc,
        List.singleton_append]
      exact (fourOctets_cons_none (parseOctet_none_of_digit (by simpa using hc))).symm

def parseIPv4 : Option Nat := (parseIPv4Fields 0 0 [] none value).map ofOctets

/-- **Go and Rust read the same addresses.** -/
theorem parseIPv4_eq : parseIPv4 value = parseIpv4 value := by
  have hstart : Reading 0 0 none [] := ⟨by simp, by simp, rfl, by decide, rfl, by simp⟩
  obtain ⟨part, parts, hparts⟩ := List.exists_cons_of_ne_nil (splitOn_dot_ne_nil value)
  have hfields : parseIPv4Fields 0 0 [] none value = fourOctets [] (value.splitOn '.') := by
    rw [parseIPv4Fields_eq value hstart (by simp) (by simp), hparts]
    rfl
  rw [parseIPv4, hfields, parseIpv4_eq, fourOctets, splitOctets]
  cases (value.splitOn '.').mapM parseOctet with
  | none => rfl
  | some octets =>
    simp only [bind_some, List.length_nil, Nat.zero_add, List.nil_append]
    split <;> rfl

end

/-- A `netip.Addr`: the profile looks into addresses of version 4 only. -/
inductive Addr where
  | v4 (ip : Nat)
  | v6

section
-- `parseIPv6` of `net/netip`: whether it accepts a text does not matter to the profile
variable (acceptsIPv6 : List Char → Bool)

def parseAddr (value : List Char) : Option Addr :=
  match value.find? (fun c => c == '.' || c == ':' || c == '%') with
  | some '.' => (parseIPv4 value).map .v4
  | some ':' => if acceptsIPv6 value then some .v6 else none
  | _ => none

/-- The number of bits of a prefix: `strconv.Atoi` of a text without sign and leading zero. -/
def parseBits (bits : List Char) (maxBits : Nat) : Option Nat :=
  if 1 < bits.length && !bits.head?.any (fun c => '1' ≤ c && c ≤ '9') then none
  else if bits.isEmpty || !bits.all Char.isDigit then none
  else if Decimal.value bits ≤ maxBits then some (Decimal.value bits) else none

/-- `netip.ParsePrefix`, which splits at the last slash. -/
def parsePrefix (value : List Char) : Option (Addr × Nat) :=
  match splitOnce '/' value.reverse with
  | none => none
  | some (bits, address) =>
    match parseAddr acceptsIPv6 address.reverse with
    | none => none
    | some (.v4 ip) => (parseBits bits.reverse 32).map fun n => (.v4 ip, n)
    | some .v6 => (parseBits bits.reverse 128).map fun n => (.v6, n)

/-- The printed form of a prefix of version 4. -/
def prefixChars (ip bits : Nat) : List Char := dotted (octetsOf ip) ++ '/' :: Nat.toDigits 10 bits

/-- `strconv.ParseUint` in base 10 with 32 bits: digits only. -/
def parseUint (value : String) : Option Nat :=
  if value.toList.isEmpty || !value.toList.all Char.isDigit then none
  else if Decimal.value value.toList < 2 ^ 32 then some (Decimal.value value.toList) else none

/-! ## The two standard libraries agree -/

/-- The cut is at the first `c`. -/
theorem splitOnce_eq_some :
    splitOnce c value = some (before, after) ↔ value = before ++ c :: after ∧ c ∉ before := by
  unfold splitOnce
  rw [List.span_eq_takeWhile_dropWhile]
  constructor
  · intro h
    split at h
    · rename_i before' d after' heq
      cases h
      obtain ⟨hbefore, hafter⟩ := Prod.mk.inj heq
      have hd : d = c := by
        have := List.head?_dropWhile_not (p := (· != c)) (l := value)
        rw [hafter] at this
        simpa using this
      subst hd
      refine ⟨?_, fun hmem => ?_⟩
      · rw [← hbefore, ← hafter, List.takeWhile_append_dropWhile]
      · rw [← hbefore] at hmem
        simpa using List.mem_takeWhile_imp hmem
    · cases h
  · rintro ⟨rfl, hmem⟩
    have hall : ∀ d ∈ before, (d != c) = true := fun d hd => by
      rw [bne_iff_ne]
      rintro rfl
      exact hmem hd
    rw [List.takeWhile_append_of_pos hall, List.dropWhile_append_of_pos hall]
    simp

/-- An address is read from its dotted text only. -/
theorem parseIpv4_eq_some :
    parseIpv4 value = some ip ↔ ip < 2 ^ 32 ∧ value = dotted (octetsOf ip) := by
  rw [parseIpv4_eq, bind_eq_some_iff]
  constructor
  · rintro ⟨octets, hoctets, h⟩
    obtain ⟨hlength, h⟩ := ite_none_right_eq_some.1 h
    cases h
    obtain ⟨hle, rfl⟩ := (splitOctets_eq_some (by rintro rfl; cases hlength)).1 hoctets
    obtain ⟨a, b, c, d, rfl⟩ := List.length_eq_four.1 hlength
    simp only [List.mem_cons, List.not_mem_nil, or_false, forall_eq_or_imp, forall_eq] at hle
    have hoctets : octetsOf (ofOctets [a, b, c, d]) = [a, b, c, d] := by
      simp only [octetsOf, ofOctets, List.foldl_cons, List.foldl_nil, List.cons.injEq, and_true]
      omega
    rw [hoctets]
    refine ⟨?_, rfl⟩
    simp only [ofOctets, List.foldl_cons, List.foldl_nil]
    omega
  · rintro ⟨hlt, rfl⟩
    refine ⟨octetsOf ip, (splitOctets_eq_some (by simp [octetsOf])).2 ⟨?_, rfl⟩, ?_⟩
    · simp only [octetsOf, List.mem_cons, List.not_mem_nil, or_false, forall_eq_or_imp, forall_eq]
      omega
    · rw [if_pos (show (octetsOf ip).length = 4 from rfl)]
      simp only [octetsOf, ofOctets, List.foldl_cons, List.foldl_nil, some.injEq]
      omega

/-- An address in dotted decimal starts with digits and a dot. -/
theorem dotted_octetsOf (ip : Nat) : ∃ rest, dotted (octetsOf ip) =
    Nat.toDigits 10 (ip / 2 ^ 24) ++ '.' :: rest :=
  ⟨dotted [ip / 2 ^ 16 % 256, ip / 2 ^ 8 % 256, ip % 256], by
    simp [dotted, octetsOf, List.intercalate, List.intersperse]⟩

/-- The dotted addresses of `ParseAddr` are those of `parseIPv4`. -/
theorem parseAddr_v4 : parseAddr acceptsIPv6 value = some (.v4 ip) ↔ parseIpv4 value = some ip := by
  unfold parseAddr
  rw [parseIPv4_eq]
  constructor
  · intro h
    split at h
    · simpa using h
    · simp at h
    · cases h
  · intro h
    obtain ⟨-, rfl⟩ := parseIpv4_eq_some.1 h
    obtain ⟨rest, hrest⟩ := dotted_octetsOf ip
    have hnone : (Nat.toDigits 10 (ip / 2 ^ 24)).find? (fun c => c == '.' || c == ':' || c == '%') =
        none := by
      rw [List.find?_eq_none]
      intro c hc
      have hdigit := Nat.isDigit_of_mem_toDigits (by decide) (by decide) hc
      simp only [Bool.or_eq_true, beq_iff_eq]
      rintro ((rfl | rfl) | rfl) <;> cases hdigit
    have hfind : (dotted (octetsOf ip)).find? (fun c => c == '.' || c == ':' || c == '%') =
        some '.' := by
      rw [hrest, List.find?_append, hnone]
      rfl
    rw [hfind, h]
    rfl

/-- A prefix length is read from its printed form only. -/
theorem parseBits_eq_some :
    parseBits bits maxBits = some n ↔ n ≤ maxBits ∧ bits = Nat.toDigits 10 n := by
  unfold parseBits
  simp only [ite_none_left_eq_some, ite_none_right_eq_some, some.injEq]
  constructor
  · rintro ⟨hfirst, hdigits, hle, rfl⟩
    simp only [Bool.or_eq_true, not_or, List.isEmpty_iff, Bool.not_eq_true', Bool.not_eq_false,
      List.all_eq_true] at hdigits
    refine ⟨hle, (Decimal.toDigits_value ⟨hdigits.1, hdigits.2, fun hzero => ?_⟩).symm⟩
    have hpos := List.length_pos_iff.2 hdigits.1
    by_contra hlength
    exact hfirst (by simp [hzero]; omega)
  · rintro ⟨hle, rfl⟩
    have hcanonical := Decimal.toDigits_canonical n
    refine ⟨fun hfirst => ?_, ?_, by rw [Decimal.value_toDigits]; exact hle,
      Decimal.value_toDigits n⟩
    · simp only [Bool.and_eq_true, decide_eq_true_eq, Bool.not_eq_true'] at hfirst
      obtain ⟨c, hc⟩ := ne_none_iff_exists.1
        (fun hnone => hcanonical.ne_nil (List.head?_eq_none_iff.1 hnone))
      have hdigit := Decimal.toNat_of_isDigit (hcanonical.digit c (List.mem_of_head? hc.symm))
      have hne : c ≠ '0' := by
        rintro rfl
        have := hcanonical.zero hc.symm
        omega
      rw [← hc] at hfirst
      simp only [any_some, Bool.and_eq_false_imp, decide_eq_true_eq,
        decide_eq_false_iff_not] at hfirst
      have hzero : c.toNat ≠ 48 := fun h => hne (Char.toNat_inj.1 h)
      refine hfirst.2 ?_ ?_
      · show 49 ≤ c.toNat
        omega
      · show c.toNat ≤ 57
        omega
    · simp only [Bool.or_eq_true, not_or, List.isEmpty_iff, Bool.not_eq_true', Bool.not_eq_false,
        List.all_eq_true]
      exact ⟨hcanonical.ne_nil, hcanonical.digit⟩

/-- The printed form of a number is a text of digits. -/
theorem printed_digits (n : Nat) :
    (toString n).toList = Nat.toDigits 10 n ∧
      ((toString n).toList.isEmpty || !(toString n).toList.all Char.isDigit) = false := by
  have hcanonical := Decimal.toDigits_canonical n
  have hdigits : (toString n).toList = Nat.toDigits 10 n := Nat.toList_repr
  rw [hdigits]
  refine ⟨rfl, ?_⟩
  rw [Bool.or_eq_false_iff, List.isEmpty_eq_false_iff, Bool.not_eq_false', List.all_eq_true]
  exact ⟨hcanonical.ne_nil, hcanonical.digit⟩

/-- `ParseUint` reads back exactly the printed words of 32 bits. -/
theorem parseUint_printed :
    parseUint value = some n ∧ toString n = value ↔ n < 2 ^ 32 ∧ value = toString n := by
  unfold parseUint
  constructor
  · rintro ⟨h, rfl⟩
    obtain ⟨-, h⟩ := ite_none_left_eq_some.1 h
    obtain ⟨hlt, h⟩ := ite_none_right_eq_some.1 h
    exact ⟨some.inj h ▸ hlt, rfl⟩
  · rintro ⟨hlt, rfl⟩
    obtain ⟨hdigits, hvalid⟩ := printed_digits n
    rw [hvalid, hdigits, Decimal.value_toDigits, if_pos hlt]
    exact ⟨rfl, rfl⟩

/-- A text without a sign is read alike. -/
theorem parseUnsigned_of_head (h : value.toList.head? ≠ some '+') :
    parseUnsigned 32 value = parseUint value := by
  unfold parseUnsigned parseUint
  generalize value.toList = digits at *
  split
  · simp at h
  · rfl

/-- So does the parser of the node. -/
theorem parseUnsigned_printed :
    parseUnsigned 32 value = some n ∧ toString n = value ↔ n < 2 ^ 32 ∧ value = toString n := by
  have hsign : value = toString n → value.toList.head? ≠ some '+' := by
    rintro rfl hplus
    rw [(printed_digits n).1] at hplus
    exact absurd ((Decimal.toDigits_canonical n).digit '+' (List.mem_of_head? hplus)) (by decide)
  rw [← parseUint_printed]
  refine and_congr_left fun hprinted => ?_
  rw [parseUnsigned_of_head (hsign hprinted.symm)]

end

end ConfigProfile

end Ocservia
