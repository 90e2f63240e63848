import Mathlib.Data.List.Sort
import Mathlib.Tactic.IntervalCases
import Mathlib.Tactic.Tauto

/-!
# Byte strings and big-endian encodings

The canonical transcripts of a protocol are concatenations of fixed-width big-endian numbers,
fixed-width byte strings and length-prefixed byte strings. This module has the encoders and the
facts that make a transcript readable from the front: each encoder has a known length, and is
injective on the values it represents. Text enters a transcript as its UTF-8 bytes, in which order
and hexadecimal digits are understood.
-/

abbrev Bytes := List UInt8

abbrev FixedBytes (n : Nat) := { b : Bytes // b.length = n }

/-- A UUID, as its bytes. -/
abbrev Uuid := FixedBytes 16

/-- The string of equal bytes. -/
def FixedBytes.fill {n : Nat} (b : UInt8) : FixedBytes n :=
  ⟨List.replicate n b, List.length_replicate⟩

namespace Wire

open List

/-- The `k` low bytes of `n`, most significant first. -/
def be : Nat → Nat → Bytes
  | 0, _ => []
  | k + 1, n => be k (n / 256) ++ [(n % 256).toUInt8]

@[simp] theorem length_be (k n : Nat) : (be k n).length = k := by
  induction k generalizing n with
  | zero => rfl
  | succ k ih => simp [be, ih]

theorem toUInt8_mod_inj (h : (m % 256).toUInt8 = (n % 256).toUInt8) : m % 256 = n % 256 := by
  have := congrArg UInt8.toNat h
  simpa using this

/-- Big-endian encoding is injective on the numbers that fit. -/
theorem be_inj (hm : m < 256 ^ k) (hn : n < 256 ^ k) (h : be k m = be k n) : m = n := by
  induction k generalizing m n with
  | zero => simp at hm hn; omega
  | succ k ih =>
    obtain ⟨h1, h2⟩ := append_inj' h rfl
    rw [Nat.pow_succ] at hm hn
    have hq : m / 256 = n / 256 :=
      ih (Nat.div_lt_of_lt_mul (by omega)) (Nat.div_lt_of_lt_mul (by omega)) h1
    have hr := toUInt8_mod_inj (singleton_inj.1 h2)
    omega

/-- The number that a byte string encodes, most significant byte first. -/
def ofBe (b : Bytes) : Nat := b.foldl (fun n x => n * 256 + x.toNat) 0

theorem ofBe_be (h : n < 256 ^ k) : ofBe (be k n) = n := by
  induction k generalizing n with
  | zero =>
    simp at h
    simp [be, ofBe, h]
  | succ k ih =>
    rw [Nat.pow_succ] at h
    have hq : ofBe (be k (n / 256)) = n / 256 := ih (Nat.div_lt_of_lt_mul (by omega))
    simp only [ofBe] at hq
    simp only [be, ofBe, foldl_append, foldl_cons, foldl_nil, hq]
    have hbyte : (n % 256).toUInt8.toNat = n % 256 := by simp
    omega

/-- Byte strings of one length are compared at their last byte when they agree before it. -/
theorem append_singleton_lt {a b : Bytes} (h : a.length = b.length) :
    a ++ [x] < b ++ [y] ↔ a < b ∨ a = b ∧ x < y := by
  induction a generalizing b with
  | nil =>
    obtain rfl := length_eq_zero_iff.1 h.symm
    simp [cons_lt_cons_iff]
  | cons c a ih =>
    cases b with
    | nil => cases h
    | cons d b =>
      rw [cons_append, cons_append, cons_lt_cons_iff, cons_lt_cons_iff,
        ih (Nat.succ.inj h), cons.injEq]
      tauto

/-- Big-endian encodings are ordered as the numbers that they encode. -/
theorem be_lt_be (hm : m < 256 ^ k) (hn : n < 256 ^ k) : be k m < be k n ↔ m < n := by
  induction k generalizing m n with
  | zero =>
    simp at hm hn
    simp [be, hm, hn]
  | succ k ih =>
    rw [Nat.pow_succ] at hm hn
    have hqm : m / 256 < 256 ^ k := Nat.div_lt_of_lt_mul (by omega)
    have hqn : n / 256 < 256 ^ k := Nat.div_lt_of_lt_mul (by omega)
    have heq : be k (m / 256) = be k (n / 256) ↔ m / 256 = n / 256 :=
      ⟨be_inj hqm hqn, fun h => by rw [h]⟩
    have hlt : (m % 256).toUInt8 < (n % 256).toUInt8 ↔ m % 256 < n % 256 := by
      simp [UInt8.lt_iff_toNat_lt]
    rw [be, be, append_singleton_lt (by simp), ih hqm hqn, heq, hlt]
    omega

def utf8 (s : String) : Bytes := s.toByteArray.data.toList

theorem length_utf8 (s : String) : (utf8 s).length = s.utf8ByteSize := rfl

theorem utf8_inj : utf8 s = utf8 t ↔ s = t := by
  refine ⟨fun h => String.toByteArray_inj.1 (ByteArray.ext (Array.toList_inj.1 h)),
    fun h => h ▸ rfl⟩

theorem utf8_injective : Function.Injective utf8 := fun _ _ => utf8_inj.1

theorem utf8_append (s t : String) : utf8 (s ++ t) = utf8 s ++ utf8 t := by
  simp [utf8, String.toByteArray_append]

theorem utf8_ofList (l : List Char) : utf8 (String.ofList l) = l.flatMap String.utf8EncodeChar := by
  simp [utf8, utf8Encode, String.toByteArray_ofList]

/-- A byte string behind its length as a 32-bit number, when the length fits. -/
def lengthPrefixed (b : Bytes) : Option Bytes :=
  if b.length < 2 ^ 32 then some (be 4 b.length ++ b) else none

theorem lengthPrefixed_of_lt (h : b.length < 2 ^ 32) :
    lengthPrefixed b = some (be 4 b.length ++ b) := if_pos h

/-! ## Hexadecimal text -/

/-- The hexadecimal digits of a byte string, in lower case. -/
def hexEncode (b : Bytes) : String :=
  String.ofList (b.flatMap fun x => [Nat.digitChar (x.toNat / 16), Nat.digitChar (x.toNat % 16)])

theorem utf8EncodeChar_digitChar (h : n < 16) :
    String.utf8EncodeChar (Nat.digitChar n) = [(Nat.digitChar n).toNat.toUInt8] := by
  interval_cases n <;> rfl

theorem utf8_hexEncode (b : Bytes) :
    utf8 (hexEncode b) = b.flatMap fun x =>
      [(Nat.digitChar (x.toNat / 16)).toNat.toUInt8,
        (Nat.digitChar (x.toNat % 16)).toNat.toUInt8] := by
  rw [hexEncode, utf8_ofList, flatMap_assoc]
  congr 1
  funext x
  have hx : x.toNat < 256 := x.toNat_lt
  simp [utf8EncodeChar_digitChar (n := x.toNat / 16) (by omega),
    utf8EncodeChar_digitChar (n := x.toNat % 16) (by omega)]

theorem length_utf8_hexEncode (b : Bytes) : (utf8 (hexEncode b)).length = 2 * b.length := by
  rw [utf8_hexEncode]
  induction b with
  | nil => rfl
  | cons x b ih => simp at ih ⊢; omega

theorem mem_utf8_hexEncode (h : d ∈ utf8 (hexEncode b)) :
    ∃ n < 16, d = (Nat.digitChar n).toNat.toUInt8 := by
  rw [utf8_hexEncode, mem_flatMap] at h
  obtain ⟨x, -, hd⟩ := h
  have hx : x.toNat < 256 := x.toNat_lt
  rcases mem_pair.1 hd with rfl | rfl
  · exact ⟨x.toNat / 16, by omega, rfl⟩
  · exact ⟨x.toNat % 16, by omega, rfl⟩

/-! ## Sorted texts -/

section
variable (l : List String)

/-- Texts in the order of their bytes. -/
def sortTexts : List String := l.insertionSort fun a b => utf8 a ≤ utf8 b

/-- No text equals the one after it. -/
def neighboursDiffer : List String → Bool
  | a :: b :: rest => a != b && neighboursDiffer (b :: rest)
  | _ => true

theorem neighboursDiffer_iff : neighboursDiffer l = true ↔ l.IsChain (· ≠ ·) := by
  fun_induction neighboursDiffer l with
  | case1 a b rest ih => simp [ih]
  | case2 l h =>
    match l, h with
    | [], _ => simp
    | [a], _ => simp
    | a :: b :: rest, h => exact absurd rfl (h a b rest)

theorem sortTexts_perm : (sortTexts l).Perm l := perm_insertionSort _ l

/-- Sorting brings equal texts together: neighbours differ when there is no duplicate at all. -/
theorem neighboursDiffer_sortTexts : neighboursDiffer (sortTexts l) = true ↔ l.Nodup := by
  rw [neighboursDiffer_iff, ← (sortTexts_perm l).nodup_iff]
  refine ⟨fun hchain => ?_, fun hnodup => hnodup.isChain⟩
  have hsorted : (sortTexts l).Pairwise fun a b => utf8 a ≤ utf8 b := by
    have : Std.Total (fun a b : String => utf8 a ≤ utf8 b) := ⟨fun a b => List.le_total _ _⟩
    have : IsTrans String (fun a b : String => utf8 a ≤ utf8 b) := ⟨fun a b c => List.le_trans⟩
    exact pairwise_insertionSort _ l
  -- Neighbours of a sorted list that differ are strictly increasing, and so are all pairs.
  have hlt : (sortTexts l).IsChain fun a b => utf8 a < utf8 b := by
    rw [isChain_iff_getElem] at hchain ⊢
    have hle := isChain_iff_getElem.1 hsorted.isChain
    intro i hi
    exact List.not_le.1 fun h => hchain i hi (utf8_inj.1 (List.le_antisymm (hle i hi) h))
  have : Trans (fun a b : String => utf8 a < utf8 b) (fun a b => utf8 a < utf8 b)
    (fun a b => utf8 a < utf8 b) := ⟨fun h h' => List.lt_trans h h'⟩
  exact (List.isChain_iff_pairwise.1 hlt).imp fun {a b} h hab => by
    subst hab
    exact List.lt_irrefl _ h

end

end Wire
