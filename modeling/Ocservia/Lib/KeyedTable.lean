import Mathlib.Data.List.Nodup

/-!
# Tables with a primary key

A table is a list of rows in which no two rows share their key (`KeyedTable`): the primary key
constraint of the database is a field, so a table that breaks it cannot be built. A row is looked
up by its key (`get?`), added under a key that is not there (`insert`), rewritten in place
(`update`, and `set` for the one row of its key), and removed (`filter`).

The lemmas describe every operation by what a lookup returns afterwards, so that a model never
unfolds the row list.
-/

/-- A table of rows `ρ` with primary key `key : ρ → κ`. -/
structure KeyedTable (κ ρ : Type) (key : ρ → κ) where
  /-- The rows, in insertion order. -/
  rows : List ρ
  /-- The primary key constraint. -/
  nodup : (rows.map key).Nodup

namespace KeyedTable

open List

variable {κ ρ : Type} {key : ρ → κ}

variable {t : KeyedTable κ ρ key}

theorem ext (h : t.rows = u.rows) : t = u := by
  cases t; cases u; cases h; rfl

instance [DecidableEq ρ] : DecidableEq (KeyedTable κ ρ key) := fun t u =>
  decidable_of_iff (t.rows = u.rows) ⟨ext, fun h => h ▸ rfl⟩

def empty : KeyedTable κ ρ key := ⟨[], List.nodup_nil⟩

instance : EmptyCollection (KeyedTable κ ρ key) := ⟨empty⟩

instance : Membership ρ (KeyedTable κ ρ key) := ⟨fun t r => r ∈ t.rows⟩

theorem mem_def : r ∈ t ↔ r ∈ t.rows := Iff.rfl

/-- Two rows of a table with one key are one row. -/
theorem eq_of_key (h : r ∈ t) (h' : r' ∈ t) (hk : key r = key r') : r = r' :=
  inj_on_of_nodup_map t.nodup h h' hk

section Get
variable [DecidableEq κ]

def get? (t : KeyedTable κ ρ key) (k : κ) : Option ρ := t.rows.find? (fun r => key r = k)

@[simp] theorem get?_empty (k : κ) : (∅ : KeyedTable κ ρ key).get? k = none := rfl

variable {t : KeyedTable κ ρ key} {k : κ} {r x : ρ}

theorem get?_eq_some_iff : t.get? k = some r ↔ r ∈ t ∧ key r = k := by
  constructor
  · intro h
    exact ⟨mem_of_find?_eq_some h, by simpa using find?_some h⟩
  · rintro ⟨hr, rfl⟩
    cases h : t.get? (key r) with
    | none => simp [get?] at h; exact absurd rfl (h r hr)
    | some r' =>
      have hr' : r' ∈ t := mem_of_find?_eq_some h
      rw [eq_of_key hr' hr (by simpa using find?_some h)]

theorem get?_eq_none_iff : t.get? k = none ↔ ∀ r ∈ t, key r ≠ k := by
  simp [get?, mem_def]

theorem key_of_get? (h : t.get? k = some r) : key r = k :=
  (get?_eq_some_iff.1 h).2

theorem mem_of_get? (h : t.get? k = some r) : r ∈ t :=
  (get?_eq_some_iff.1 h).1

theorem get?_of_mem (h : r ∈ t) : t.get? (key r) = some r :=
  get?_eq_some_iff.2 ⟨h, rfl⟩

/-! ## Adding a row -/

/-- Add the row `r`, whose key has no row yet. -/
def insert (t : KeyedTable κ ρ key) (r : ρ) (h : t.get? (key r) = none) :
    KeyedTable κ ρ key where
  rows := t.rows ++ [r]
  nodup := by
    rw [List.map_append, List.map_singleton, List.nodup_append]
    refine ⟨t.nodup, by simp, ?_⟩
    simp only [List.mem_map, List.mem_singleton]
    rintro _ ⟨x, hx, rfl⟩ _ rfl
    exact get?_eq_none_iff.1 h x hx

theorem mem_insert : x ∈ t.insert r h ↔ x ∈ t ∨ x = r := by
  simp [mem_def, insert]

section
variable (t : KeyedTable κ ρ key)

theorem get?_insert (r : ρ) (h : t.get? (key r) = none) (k : κ) :
    (t.insert r h).get? k = if k = key r then some r else t.get? k := by
  by_cases hk : k = key r
  · rw [if_pos hk, get?_eq_some_iff, mem_insert]
    exact ⟨.inr rfl, hk.symm⟩
  · have : ¬ key r = k := fun e => hk e.symm
    simp [get?, insert, find?_append, hk, this]

/-! ## Rewriting rows -/

/-- Rewrite every row by `f`, which keeps the key. -/
def update (f : ρ → ρ) (hf : ∀ r, key (f r) = key r) : KeyedTable κ ρ key where
  rows := t.rows.map f
  nodup := by simpa [Function.comp_def, hf] using t.nodup

theorem get?_update (f : ρ → ρ) (hf : ∀ r, key (f r) = key r) (k : κ) :
    (t.update f hf).get? k = (t.get? k).map f := by
  rw [get?, update, find?_map]
  simp only [Function.comp_def, hf, get?]

end

omit [DecidableEq κ] in
theorem mem_update : x ∈ t.update f hf ↔ ∃ r ∈ t, f r = x := by
  simp [mem_def, update]

/-- Overwrite the row that has the key of `r`, if there is one. -/
def set (t : KeyedTable κ ρ key) (r : ρ) : KeyedTable κ ρ key :=
  t.update (fun x => if key x = key r then r else x) (fun x => by split <;> simp_all)

theorem mem_set : x ∈ t.set r ↔ ∃ y ∈ t, (if key y = key r then r else y) = x := by
  rw [set, mem_update]

theorem get?_set (t : KeyedTable κ ρ key) (r : ρ) (k : κ) :
    (t.set r).get? k = if k = key r then (t.get? k).map (fun _ => r) else t.get? k := by
  rw [set, get?_update]
  cases h : t.get? k with
  | none => simp
  | some x => have := key_of_get? h; subst this; split <;> simp_all

/-- Overwriting a row changes the lookup of its key only. -/
theorem get?_set_of_mem (h : t.get? (key r) = some x) (k : κ) :
    (t.set r).get? k = if k = key r then some r else t.get? k := by
  rw [get?_set]
  split
  · rename_i hk; rw [hk, h]; rfl
  · rfl

section
variable (t : KeyedTable κ ρ key)

/-- Overwrite the row that has the key of `r`, or add `r`. -/
def upsert (r : ρ) : KeyedTable κ ρ key :=
  if h : t.get? (key r) = none then t.insert r h else t.set r

theorem get?_upsert (r : ρ) (k : κ) :
    (t.upsert r).get? k = if k = key r then some r else t.get? k := by
  unfold upsert
  split
  · rw [get?_insert]
  · rename_i h
    obtain ⟨x, hx⟩ := Option.ne_none_iff_exists'.1 h
    exact get?_set_of_mem hx k

/-! ## Removing rows -/

def filter (p : ρ → Bool) : KeyedTable κ ρ key where
  rows := t.rows.filter p
  nodup := (List.Sublist.map key List.filter_sublist).nodup t.nodup

end

omit [DecidableEq κ] in
theorem mem_filter : r ∈ t.filter p ↔ r ∈ t ∧ p r := by
  simp [mem_def, filter]

theorem get?_filter (t : KeyedTable κ ρ key) (p : ρ → Bool) (k : κ) :
    (t.filter p).get? k = (t.get? k).filter p := by
  apply Option.ext
  intro r
  rw [get?_eq_some_iff, mem_filter, Option.filter_eq_some_iff, get?_eq_some_iff]
  tauto

end Get

end KeyedTable
