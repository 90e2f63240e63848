import Mathlib.Algebra.Order.Group.Unbundled.Int
import Ocservia.Lib.Wire

/-!
# Formats that are read from the front

A `Format` is a way of writing values that is read from the front: an encoder with the values that
it represents, and the proof that the front of a byte string determines the value and the rest.
Formats are put together from the fields of a record (`pair`), an absent or present part
(`optional`), two alternatives (`either`) and a counted list (`counted`), so an encoder that is
written as such a combination is injective by construction (`Format.encode_inj`). A sequence that is
neither counted nor terminated is determined by the whole of its bytes only
(`Format.flatMap_encode_inj`).
-/

namespace Wire

open List

/-- A way of writing the values of a type that fit it, which can be read from the front. -/
structure Format (α : Type) where
  /-- The values that the format represents. -/
  Fits : α → Prop
  encode : α → Bytes
  /-- The front of a byte string determines the value and what follows it. -/
  front : ∀ {a b : α} {s t : Bytes}, Fits a → Fits b → encode a ++ s = encode b ++ t → a = b ∧ s = t

namespace Format

theorem encode_inj (F : Format α) (ha : F.Fits a) (hb : F.Fits b) (h : F.encode a = F.encode b) :
    a = b :=
  (F.front ha hb (s := []) (t := []) (by rw [h])).1

/-- Where a field begins, two byte strings agree exactly when the field and the rest do. -/
theorem front_iff (F : Format α) (ha : F.Fits a) (hb : F.Fits b) :
    F.encode a ++ s = F.encode b ++ t ↔ a = b ∧ s = t := by
  refine ⟨F.front ha hb, ?_⟩
  rintro ⟨rfl, rfl⟩
  rfl

/-! ## Fields -/

/-- A byte string of a known length, as it is. -/
def block (n : Nat) : Format (FixedBytes n) where
  Fits _ := True
  encode := Subtype.val
  front {a b _ _} _ _ h :=
    have ⟨hab, hst⟩ := List.append_inj h (a.2.trans b.2.symm)
    ⟨Subtype.ext hab, hst⟩

/-- A byte string that is known to have length `n`, as it is. -/
def raw (n : Nat) : Format Bytes where
  Fits b := b.length = n
  encode := id
  front ha hb h := List.append_inj h (ha.trans hb.symm)

/-- A number in `k` bytes, most significant first. -/
def nat (k : Nat) : Format Nat where
  Fits n := n < 256 ^ k
  encode := be k
  front ha hb h :=
    have ⟨hab, hst⟩ := List.append_inj h (by rw [length_be, length_be])
    ⟨be_inj ha hb hab, hst⟩

/-- Signed numbers of `w` values around zero are determined by their residues. -/
theorem eq_of_residue (hm : -w ≤ 2 * m ∧ 2 * m < w) (hn : -w ≤ 2 * n ∧ 2 * n < w)
    (h : (m % w).toNat = (n % w).toNat) : m = n := by
  have hw : (w : Int) ≠ 0 := by omega
  have hmod : m % w = n % w := by
    have hm0 := Int.emod_nonneg m hw
    have hn0 := Int.emod_nonneg n hw
    omega
  have hdvd : (w : Int) ∣ m - n :=
    Int.dvd_of_emod_eq_zero (Int.emod_eq_emod_iff_emod_sub_eq_zero.1 hmod)
  have hzero := Int.eq_zero_of_abs_lt_dvd hdvd (abs_lt.2 ⟨by omega, by omega⟩)
  omega

/-- A signed number in `k` bytes, as its two's complement. -/
def int (k : Nat) : Format Int where
  Fits n := -(256 ^ k : Nat) ≤ 2 * n ∧ 2 * n < (256 ^ k : Nat)
  encode n := be k (n % (256 ^ k : Nat)).toNat
  front {m n _ _} hm hn h := by
    obtain ⟨hmn, hst⟩ := List.append_inj h (by rw [length_be, length_be])
    have hlt : ∀ n : Int, (n % (256 ^ k : Nat)).toNat < 256 ^ k := fun n => by
      have hpos : 0 < 256 ^ k := Nat.pow_pos (by decide)
      have := Int.emod_lt_of_pos n (Int.natCast_pos.2 hpos)
      omega
    exact ⟨eq_of_residue hm hn (be_inj (hlt m) (hlt n) hmn), hst⟩

/-- One of several marks that differ within their first `n` bytes. -/
def marks (mark : α → Bytes) (n : Nat) (hn : ∀ a, n ≤ (mark a).length)
    (hinj : Function.Injective fun a => (mark a).take n) : Format α where
  Fits _ := True
  encode := mark
  front {a b s t} _ _ h := by
    have htake := congrArg (List.take n) h
    rw [List.take_append_of_le_length (hn a), List.take_append_of_le_length (hn b)] at htake
    obtain rfl := hinj htake
    exact ⟨rfl, List.append_cancel_left h⟩

/-- A byte string behind its length as a 32-bit number. -/
def bytes : Format Bytes where
  Fits b := b.length < 2 ^ 32
  encode b := be 4 b.length ++ b
  front {a b s t} ha hb h := by
    rw [List.append_assoc, List.append_assoc] at h
    obtain ⟨hlength, h⟩ := (nat 4).front ha hb h
    exact List.append_inj h hlength

theorem lengthPrefixed_eq_some :
    lengthPrefixed b = some out ↔ bytes.Fits b ∧ out = bytes.encode b := by
  unfold lengthPrefixed
  split
  · rename_i h
    simp only [bytes, h, true_and, Option.some.injEq]
    exact eq_comm
  · rename_i h
    exact ⟨nofun, fun hfits => absurd hfits.1 h⟩

/-! ## Combinations -/

/-- A value that is written as what `f` makes of it. -/
def comap (F : Format β) (f : α → β) (hf : Function.Injective f) : Format α where
  Fits a := F.Fits (f a)
  encode a := F.encode (f a)
  front ha hb h :=
    have ⟨hab, hst⟩ := F.front ha hb h
    ⟨hf hab, hst⟩

/-- A text behind its length. -/
def text : Format String := bytes.comap utf8 utf8_injective

def u32 : Format UInt32 := (nat 4).comap UInt32.toNat fun _ _ => UInt32.toNat_inj.1

def u64 : Format UInt64 := (nat 8).comap UInt64.toNat fun _ _ => UInt64.toNat_inj.1

def i64 : Format Int64 := (int 8).comap Int64.toInt fun _ _ => Int64.toInt_inj.1

theorem u32_fits (n : UInt32) : u32.Fits n := n.toNat_lt

theorem u64_fits (n : UInt64) : u64.Fits n := n.toNat_lt

theorem i64_fits (n : Int64) : i64.Fits n := by
  have hle := n.le_toInt
  have hlt := n.toInt_lt
  simp only [i64, comap, int]
  omega

section
variable (F : Format α)

/-- Two values after one another. -/
def pair (G : Format β) : Format (α × β) where
  Fits p := F.Fits p.1 ∧ G.Fits p.2
  encode p := F.encode p.1 ++ G.encode p.2
  front {a b s t} ha hb h := by
    rw [List.append_assoc, List.append_assoc] at h
    obtain ⟨h1, h⟩ := F.front ha.1 hb.1 h
    obtain ⟨h2, h⟩ := G.front ha.2 hb.2 h
    exact ⟨Prod.ext h1 h2, h⟩

/-- One of two alternatives, behind a byte that tells which. -/
def either (G : Format β) : Format (α ⊕ β) where
  Fits := Sum.elim F.Fits G.Fits
  encode := Sum.elim (fun a => 0 :: F.encode a) (fun b => 1 :: G.encode b)
  front {x y s t} hx hy h := by
    cases x with
    | inl a =>
      cases y with
      | inl b =>
        obtain ⟨hab, hst⟩ := F.front hx hy (List.cons.inj h).2
        exact ⟨congrArg _ hab, hst⟩
      | inr b => exact absurd (List.cons.inj h).1 (by decide)
    | inr a =>
      cases y with
      | inl b => exact absurd (List.cons.inj h).1 (by decide)
      | inr b =>
        obtain ⟨hab, hst⟩ := G.front hx hy (List.cons.inj h).2
        exact ⟨congrArg _ hab, hst⟩

/-- A part that may be absent, behind a byte that tells whether it is present. -/
def optional : Format (Option α) where
  Fits o := ∀ a ∈ o, F.Fits a
  encode
    | none => [0]
    | some a => 1 :: F.encode a
  front {x y s t} hx hy h := by
    cases x with
    | none =>
      cases y with
      | none => exact ⟨rfl, (List.cons.inj h).2⟩
      | some b => exact absurd (List.cons.inj h).1 (by decide)
    | some a =>
      cases y with
      | none => exact absurd (List.cons.inj h).1 (by decide)
      | some b =>
        obtain ⟨hab, hst⟩ := F.front (hx a rfl) (hy b rfl) (List.cons.inj h).2
        exact ⟨congrArg some hab, hst⟩

/-- A part that is known to be present. -/
def present : Format (Option α) where
  Fits o := ∃ a ∈ o, F.Fits a
  encode o := o.elim [] F.encode
  front {x y s t} hx hy h := by
    obtain ⟨a, rfl, ha⟩ := hx
    obtain ⟨b, rfl, hb⟩ := hy
    obtain ⟨rfl, hst⟩ := F.front ha hb h
    exact ⟨rfl, hst⟩

/-- As many values as are known to follow. -/
theorem flatMap_front {l m : List α} {s t : Bytes} (hl : ∀ a ∈ l, F.Fits a)
    (hm : ∀ a ∈ m, F.Fits a) (hlength : l.length = m.length)
    (h : l.flatMap F.encode ++ s = m.flatMap F.encode ++ t) : l = m ∧ s = t := by
  induction l generalizing m with
  | nil =>
    obtain rfl := length_eq_zero_iff.1 hlength.symm
    exact ⟨rfl, h⟩
  | cons a l ih =>
    cases m with
    | nil => cases hlength
    | cons b m =>
      rw [flatMap_cons, flatMap_cons, append_assoc, append_assoc] at h
      obtain ⟨rfl, hrest⟩ := F.front (hl a (by simp)) (hm b (by simp)) h
      obtain ⟨rfl, hst⟩ := ih (fun x hx => hl x (by simp [hx])) (fun x hx => hm x (by simp [hx]))
        (Nat.succ.inj hlength) hrest
      exact ⟨rfl, hst⟩

/-- A list behind its number of values. -/
def counted : Format (List α) where
  Fits l := l.length < 2 ^ 32 ∧ ∀ a ∈ l, F.Fits a
  encode l := be 4 l.length ++ l.flatMap F.encode
  front {l m s t} hl hm h := by
    rw [List.append_assoc, List.append_assoc] at h
    obtain ⟨hlength, h⟩ := (nat 4).front hl.1 hm.1 h
    exact F.flatMap_front hl.2 hm.2 hlength h

/-- A sequence of values that are never empty is determined by its bytes alone. -/
theorem flatMap_encode_inj (hF : ∀ a, F.encode a ≠ []) {l m : List α}
    (hl : ∀ a ∈ l, F.Fits a) (hm : ∀ a ∈ m, F.Fits a)
    (h : l.flatMap F.encode = m.flatMap F.encode) : l = m := by
  induction l generalizing m with
  | nil =>
    cases m with
    | nil => rfl
    | cons b m => exact absurd (append_eq_nil_iff.1 h.symm).1 (hF b)
  | cons a l ih =>
    cases m with
    | nil => exact absurd (append_eq_nil_iff.1 h).1 (hF a)
    | cons b m =>
      rw [flatMap_cons, flatMap_cons] at h
      obtain ⟨rfl, hrest⟩ := F.front (hl a (by simp)) (hm b (by simp)) h
      rw [ih (fun x hx => hl x (by simp [hx])) (fun x hx => hm x (by simp [hx])) hrest]

end

theorem bytes_encode_ne_nil (b : Bytes) : bytes.encode b ≠ [] := fun h => by
  have := congrArg length h
  simp [bytes] at this

end Format

end Wire
