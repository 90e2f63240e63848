import Ocservia.Lib.Wire

/-!
# JSON texts

A JSON value with its numbers as texts (`Tree`), and the compact text that an encoder writes for it
(`Tree.print`): no white space, strings with the escapes of an encoder that keeps a text safe inside
of HTML, members and items in the order of the value.

The text determines the value. A string ends at its closing quote, an array and an object at their
closing brackets; a number ends where no more of the characters of a number follow, so a value is
read from the front of a text when the rest does not begin with such a character
(`Tree.print_front`).
-/

namespace JsonTree

open Wire List

/-! ## Strings -/

/-- A character is read from the front of its encoding. -/
theorem utf8EncodeChar_front (h : String.utf8EncodeChar c ++ s = String.utf8EncodeChar d ++ t) :
    c = d ∧ s = t := by
  have hdecode : some c = some d := by
    rw [← @ByteArray.utf8DecodeChar?_utf8EncodeChar_append s.toByteArray c,
      ← @ByteArray.utf8DecodeChar?_utf8EncodeChar_append t.toByteArray d, ← toByteArray_append,
      ← toByteArray_append, h]
  cases hdecode
  exact ⟨rfl, append_cancel_left h⟩

/-- The characters that are escaped with one letter. -/
def shortEscape (c : Char) : Option UInt8 :=
  if c = '"' then some 0x22
  else if c = '\\' then some 0x5c
  else if c = '\x08' then some 0x62
  else if c = '\x0c' then some 0x66
  else if c = '\n' then some 0x6e
  else if c = '\r' then some 0x72
  else if c = '\t' then some 0x74
  else none

/-- The characters that are escaped with their number. -/
def longEscape (c : Char) : Bool :=
  decide (c.toNat < 0x20) || c == '<' || c == '>' || c == '&' || c == '\u2028' ||
    c == '\u2029'

def hexDigit (n : Nat) : UInt8 := (Nat.digitChar n).toNat.toUInt8

/-- A number of 16 bits in hexadecimal digits. -/
def hex4 (n : Nat) : Bytes :=
  [hexDigit (n / 4096), hexDigit (n / 256 % 16), hexDigit (n / 16 % 16), hexDigit (n % 16)]

/-- The text of a character inside of a string. -/
def escapeChar (c : Char) : Bytes :=
  match shortEscape c with
  | some x => [0x5c, x]
  | none => if longEscape c then 0x5c :: 0x75 :: hex4 c.toNat else String.utf8EncodeChar c

def quote (s : String) : Bytes := 0x22 :: (s.toList.flatMap escapeChar ++ [0x22])

theorem hexDigit_inj (hm : m < 16) (hn : n < 16) (h : hexDigit m = hexDigit n) : m = n := by
  have hall : ∀ m < 16, ∀ n < 16, hexDigit m = hexDigit n → m = n := by decide
  exact hall m hm n hn h

/-- Four hexadecimal digits are read from the front. -/
theorem hex4_front (hm : m < 65536) (hn : n < 65536) (h : hex4 m ++ s = hex4 n ++ t) :
    m = n ∧ s = t := by
  obtain ⟨hdigits, hst⟩ := append_inj h rfl
  simp only [hex4, cons.injEq, and_true] at hdigits
  obtain ⟨h1, h2, h3, h4⟩ := hdigits
  have e1 := hexDigit_inj (by omega) (by omega) h1
  have e2 := hexDigit_inj (by omega) (by omega) h2
  have e3 := hexDigit_inj (by omega) (by omega) h3
  have e4 := hexDigit_inj (by omega) (by omega) h4
  exact ⟨by omega, hst⟩

/-- A character with a long escape fits in it. -/
theorem lt_of_longEscape (h : longEscape c = true) : c.toNat < 65536 := by
  simp only [longEscape, Bool.or_eq_true, decide_eq_true_eq, beq_iff_eq] at h
  rcases h with ((((h | rfl) | rfl) | rfl) | rfl) | rfl
  · omega
  all_goals decide

/-- The character that is escaped with a letter. -/
def ofShort (x : UInt8) : Option Char :=
  if x = 0x22 then some '"'
  else if x = 0x5c then some '\\'
  else if x = 0x62 then some '\x08'
  else if x = 0x66 then some '\x0c'
  else if x = 0x6e then some '\n'
  else if x = 0x72 then some '\r'
  else if x = 0x74 then some '\t'
  else none

/-- A short escape names its character. -/
theorem ofShort_shortEscape (h : shortEscape c = some x) : ofShort x = some c := by
  unfold shortEscape at h
  split_ifs at h with h1 h2 h3 h4 h5 h6 h7
  all_goals
    cases h
    subst c
    rfl

/-- The three ways in which a character is written. -/
theorem escapeChar_cases (c : Char) :
    (∃ x, shortEscape c = some x ∧ escapeChar c = [0x5c, x]) ∨
      (longEscape c = true ∧ escapeChar c = 0x5c :: 0x75 :: hex4 c.toNat) ∨
      (c ≠ '"' ∧ c ≠ '\\' ∧ escapeChar c = String.utf8EncodeChar c) := by
  unfold escapeChar
  cases hshort : shortEscape c with
  | some x => exact .inl ⟨x, rfl, rfl⟩
  | none =>
    by_cases hlong : longEscape c = true
    · exact .inr (.inl ⟨hlong, if_pos hlong⟩)
    refine .inr (.inr ⟨?_, ?_, if_neg hlong⟩)
    iterate 2
      rintro rfl
      cases hshort

/-- A character that stands for itself does not begin with a backslash or a quote. -/
theorem plain_ne_backslash (hc : c ≠ '\\') : String.utf8EncodeChar c ++ s ≠ 0x5c :: t := by
  intro h
  exact hc (utf8EncodeChar_front (show _ = String.utf8EncodeChar '\\' ++ t from h)).1

/-- No escape begins with the closing quote. -/
theorem escapeChar_ne_quote : escapeChar c ++ s ≠ 0x22 :: t := by
  intro h
  rcases escapeChar_cases c with ⟨x, -, hx⟩ | ⟨-, hx⟩ | ⟨hquote, -, hx⟩
  iterate 2
    rw [hx] at h
    exact absurd (cons.inj h).1 (by decide)
  · rw [hx] at h
    exact hquote (utf8EncodeChar_front (show _ = String.utf8EncodeChar '"' ++ t from h)).1

/-- An escaped character is read from the front. -/
theorem escapeChar_front (h : escapeChar c ++ s = escapeChar d ++ t) : c = d ∧ s = t := by
  rcases escapeChar_cases c with ⟨x, hx, hc⟩ | ⟨hlong, hc⟩ | ⟨-, hback, hc⟩ <;>
    rcases escapeChar_cases d with ⟨y, hy, hd⟩ | ⟨hlong', hd⟩ | ⟨-, hback', hd⟩ <;>
      rw [hc, hd] at h
  · simp only [cons_append, nil_append, cons.injEq, true_and] at h
    obtain ⟨rfl, hst⟩ := h
    exact ⟨Option.some.inj ((ofShort_shortEscape hx).symm.trans (ofShort_shortEscape hy)), hst⟩
  · simp only [cons_append, nil_append, cons.injEq, true_and] at h
    obtain ⟨rfl, -⟩ := h
    cases ofShort_shortEscape hx
  · exact absurd h.symm (plain_ne_backslash hback')
  · simp only [cons_append, nil_append, cons.injEq, true_and] at h
    obtain ⟨rfl, -⟩ := h
    cases ofShort_shortEscape hy
  · simp only [cons_append, cons.injEq, true_and] at h
    obtain ⟨hn, hst⟩ := hex4_front (lt_of_longEscape hlong) (lt_of_longEscape hlong') h
    exact ⟨Char.toNat_inj.1 hn, hst⟩
  · exact absurd h.symm (plain_ne_backslash hback')
  iterate 2 exact absurd h (plain_ne_backslash hback)
  · exact utf8EncodeChar_front h

/-- Escaped characters are read up to the closing quote. -/
theorem escaped_front {a b : List Char} {s t : Bytes}
    (h : a.flatMap escapeChar ++ 0x22 :: s = b.flatMap escapeChar ++ 0x22 :: t) :
    a = b ∧ s = t := by
  induction a generalizing b with
  | nil =>
    cases b with
    | nil => exact ⟨rfl, (cons.inj h).2⟩
    | cons d b =>
      rw [flatMap_cons, append_assoc] at h
      exact absurd h.symm escapeChar_ne_quote
  | cons c a ih =>
    cases b with
    | nil =>
      rw [flatMap_cons, append_assoc] at h
      exact absurd h escapeChar_ne_quote
    | cons d b =>
      rw [flatMap_cons, flatMap_cons, append_assoc, append_assoc] at h
      obtain ⟨rfl, hrest⟩ := escapeChar_front h
      obtain ⟨rfl, hst⟩ := ih hrest
      exact ⟨rfl, hst⟩

/-- A string is read from the front. -/
theorem quote_front (h : quote a ++ s = quote b ++ t) : a = b ∧ s = t := by
  simp only [quote, cons_append, append_assoc, cons.injEq, true_and,
    nil_append] at h
  obtain ⟨hab, hst⟩ := escaped_front h
  exact ⟨String.toList_inj.1 hab, hst⟩

/-! ## Values -/

/-- A value, with the texts of its numbers. -/
inductive Tree where
  | null
  | bool (value : Bool)
  | string (value : String)
  | number (text : Bytes)
  | array (items : List Tree)
  | object (members : List (String × Tree))

mutual

/-- The text of a value. -/
def Tree.print : Tree → Bytes
  | .null => utf8 "null"
  | .bool true => utf8 "true"
  | .bool false => utf8 "false"
  | .string s => quote s
  | .number text => text
  | .array items => 0x5b :: printItems true items
  | .object members => 0x7b :: printMembers true members

/-- The items and the closing bracket, with a comma before each item but the first. -/
def printItems : Bool → List Tree → Bytes
  | _, [] => [0x5d]
  | first, item :: rest => (if first then [] else [0x2c]) ++ (item.print ++ printItems false rest)

/-- The members and the closing bracket, with a comma before each member but the first. -/
def printMembers : Bool → List (String × Tree) → Bytes
  | _, [] => [0x7d]
  | first, (key, value) :: rest =>
    (if first then [] else [0x2c]) ++
      (quote key ++ 0x3a :: (value.print ++ printMembers false rest))

end

def numberByte (b : UInt8) : Bool :=
  decide (0x30 ≤ b ∧ b ≤ 0x39) || b == 0x2d || b == 0x2b || b == 0x2e || b == 0x65 || b == 0x45

/-- A text that can stand for a number. -/
def NumberText (text : Bytes) : Prop := text ≠ [] ∧ ∀ b ∈ text, numberByte b = true

mutual

/-- The numbers of a value are number texts. -/
def Tree.Proper : Tree → Prop
  | .number text => NumberText text
  | .array items => ProperItems items
  | .object members => ProperMembers members
  | _ => True

def ProperItems : List Tree → Prop
  | [] => True
  | item :: rest => item.Proper ∧ ProperItems rest

def ProperMembers : List (String × Tree) → Prop
  | [] => True
  | (_, value) :: rest => value.Proper ∧ ProperMembers rest

end

theorem properMembers_iff : ProperMembers members ↔ ∀ member ∈ members, member.2.Proper := by
  induction members with
  | nil => simp [ProperMembers]
  | cons member members ih => simp [ProperMembers, ih]

/-- A rest of a text that does not continue a number. -/
def Stops (rest : Bytes) : Prop := ∀ b ∈ rest.head?, numberByte b = false

theorem stops_nil : Stops [] := fun b hb => by cases hb

/-- A list of items does not continue a number. -/
theorem stops_items : Stops (printItems false items ++ rest) := by
  intro b hb
  cases items with
  | nil | cons =>
    cases hb
    rfl

/-- A list of members does not continue a number. -/
theorem stops_members : Stops (printMembers false members ++ rest) := by
  intro b hb
  cases members with
  | nil | cons =>
    cases hb
    rfl

/-- A number ends where a rest that stops begins. -/
theorem takeWhile_number (htext : NumberText text) (hrest : Stops rest) :
    (text ++ rest).takeWhile numberByte = text := by
  rw [takeWhile_append_of_pos htext.2]
  cases rest with
  | nil => simp
  | cons b rest => simp [hrest b rfl]

/-- A number is read from the front of a rest that stops. -/
theorem number_front (htext : NumberText text) (htext' : NumberText text') (hrest : Stops rest)
    (hrest' : Stops rest') (h : text ++ rest = text' ++ rest') : text = text' ∧ rest = rest' := by
  have htake := congrArg (takeWhile numberByte) h
  rw [takeWhile_number htext hrest, takeWhile_number htext' hrest'] at htake
  subst htake
  exact ⟨rfl, append_cancel_left h⟩

/-- The kind of a value, which its first character tells. -/
def Tree.kind : Tree → Nat
  | .null => 0
  | .bool true => 1
  | .bool false => 2
  | .string _ => 3
  | .number _ => 4
  | .array _ => 5
  | .object _ => 6

/-- The kind that a first character tells. -/
def kindOf (b : UInt8) : Nat :=
  if b = 0x6e then 0 else if b = 0x74 then 1 else if b = 0x66 then 2 else if b = 0x22 then 3
  else if b = 0x5b then 5 else if b = 0x7b then 6 else if numberByte b then 4 else 7

/-- A character of a number begins numbers only. -/
theorem kindOf_numberByte (h : numberByte b = true) : kindOf b = 4 := by
  unfold kindOf
  split_ifs
  case neg => rfl
  all_goals
    subst b
    cases h

/-- The first character shows the kind of a value. -/
theorem print_head {v : Tree} (hv : v.Proper) :
    ∃ b text, v.print = b :: text ∧ kindOf b = v.kind := by
  cases v with
  | null => exact ⟨0x6e, _, rfl, rfl⟩
  | bool value =>
    cases value with
    | true => exact ⟨0x74, _, rfl, rfl⟩
    | false => exact ⟨0x66, _, rfl, rfl⟩
  | string value => exact ⟨0x22, _, rfl, rfl⟩
  | number text =>
    obtain ⟨hne, hall⟩ := hv
    obtain ⟨b, rest, rfl⟩ := exists_cons_of_ne_nil hne
    exact ⟨b, rest, rfl, kindOf_numberByte (hall b mem_cons_self)⟩
  | array items => exact ⟨0x5b, _, rfl, rfl⟩
  | object members => exact ⟨0x7b, _, rfl, rfl⟩

theorem print_ne_nil {v : Tree} (hv : v.Proper) : v.print ≠ [] := by
  obtain ⟨b, text, hprint, -⟩ := print_head hv
  rw [hprint]
  exact cons_ne_nil _ _

/-- Values at the front of one text have one kind. -/
theorem kind_eq_of_print {v w : Tree} {s t : Bytes} (hv : v.Proper) (hw : w.Proper)
    (h : v.print ++ s = w.print ++ t) : v.kind = w.kind := by
  obtain ⟨b, text, hprint, hb⟩ := print_head hv
  obtain ⟨b', text', hprint', hb'⟩ := print_head hw
  rw [hprint, hprint'] at h
  rw [← hb, ← hb', (cons.inj h).1]

/-- An item does not begin with the closing bracket. -/
theorem print_ne_bracket {v : Tree} {s t : Bytes} (hv : v.Proper) : v.print ++ s ≠ 0x5d :: t := by
  intro h
  obtain ⟨b, text, hprint, hb⟩ := print_head hv
  rw [hprint] at h
  have hkind : (7 : Nat) = v.kind := by
    rw [← hb, (cons.inj h).1]
    rfl
  cases v with
  | bool value => cases value <;> cases hkind
  | _ => cases hkind

mutual

/-- **The text of a value determines the value**, in front of a rest that does not continue a
number. -/
theorem Tree.print_front (v w : Tree) {s t : Bytes} (hv : v.Proper) (hw : w.Proper) (hs : Stops s)
    (ht : Stops t) (h : v.print ++ s = w.print ++ t) : v = w ∧ s = t := by
  have hkind := kind_eq_of_print hv hw h
  cases v with
  | null =>
    cases w with
    | null => exact ⟨rfl, append_cancel_left h⟩
    | bool value => cases value <;> cases hkind
    | _ => cases hkind
  | bool value =>
    cases value with
    | true =>
      cases w with
      | bool value' =>
        cases value' with
        | true => exact ⟨rfl, append_cancel_left h⟩
        | false => cases hkind
      | _ => cases hkind
    | false =>
      cases w with
      | bool value' =>
        cases value' with
        | true => cases hkind
        | false => exact ⟨rfl, append_cancel_left h⟩
      | _ => cases hkind
  | string value =>
    cases w with
    | string value' =>
      obtain ⟨rfl, hst⟩ := quote_front h
      exact ⟨rfl, hst⟩
    | bool value' => cases value' <;> cases hkind
    | _ => cases hkind
  | number text =>
    cases w with
    | number text' =>
      obtain ⟨rfl, hst⟩ := number_front hv hw hs ht h
      exact ⟨rfl, hst⟩
    | bool value' => cases value' <;> cases hkind
    | _ => cases hkind
  | array items =>
    cases w with
    | array items' =>
      obtain ⟨rfl, hst⟩ := printItems_front true items items' hv hw (cons.inj h).2
      exact ⟨rfl, hst⟩
    | bool value' => cases value' <;> cases hkind
    | _ => cases hkind
  | object members =>
    cases w with
    | object members' =>
      obtain ⟨rfl, hst⟩ := printMembers_front true members members' hv hw (cons.inj h).2
      exact ⟨rfl, hst⟩
    | bool value' => cases value' <;> cases hkind
    | _ => cases hkind

/-- The items are read up to the closing bracket. -/
theorem printItems_front (first : Bool) (l m : List Tree) (hl : ProperItems l) (hm : ProperItems m)
    (h : printItems first l ++ s = printItems first m ++ t) : l = m ∧ s = t := by
  cases l with
  | nil =>
    cases m with
    | nil => exact ⟨rfl, (cons.inj h).2⟩
    | cons w m =>
      cases first with
      | true =>
        simp only [printItems, if_true, nil_append, append_assoc] at h
        exact absurd h.symm (print_ne_bracket hm.1)
      | false => exact absurd (cons.inj h).1 (by decide)
  | cons v l =>
    cases m with
    | nil =>
      cases first with
      | true =>
        simp only [printItems, if_true, nil_append, append_assoc] at h
        exact absurd h (print_ne_bracket hl.1)
      | false => exact absurd (cons.inj h).1 (by decide)
    | cons w m =>
      simp only [printItems, append_assoc, append_cancel_left_eq] at h
      obtain ⟨rfl, hrest⟩ := v.print_front w hl.1 hm.1 stops_items stops_items h
      obtain ⟨rfl, hst⟩ := printItems_front false l m hl.2 hm.2 hrest
      exact ⟨rfl, hst⟩

/-- The members are read up to the closing brace. -/
theorem printMembers_front (first : Bool) (l m : List (String × Tree)) (hl : ProperMembers l)
    (hm : ProperMembers m) (h : printMembers first l ++ s = printMembers first m ++ t) :
    l = m ∧ s = t := by
  cases l with
  | nil =>
    cases m with
    | nil => exact ⟨rfl, (cons.inj h).2⟩
    | cons member m => cases first <;> exact absurd (cons.inj h).1 (by decide)
  | cons member l =>
    cases m with
    | nil => cases first <;> exact absurd (cons.inj h).1 (by decide)
    | cons member' m =>
      obtain ⟨key, v⟩ := member
      obtain ⟨key', w⟩ := member'
      simp only [printMembers, append_assoc, append_cancel_left_eq, cons_append] at h
      obtain ⟨rfl, hvalue⟩ := quote_front h
      obtain ⟨rfl, hrest⟩ :=
        v.print_front w hl.1 hm.1 stops_members stops_members (cons.inj hvalue).2
      obtain ⟨rfl, hst⟩ := printMembers_front false l m hl.2 hm.2 hrest
      exact ⟨rfl, hst⟩

end

theorem Tree.print_inj {v w : Tree} (hv : v.Proper) (hw : w.Proper) (h : v.print = w.print) :
    v = w :=
  (v.print_front w hv hw stops_nil stops_nil (by rw [h])).1

end JsonTree
