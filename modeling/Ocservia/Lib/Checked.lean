import Mathlib.Logic.Basic

/-!
# Inverting a sequence of checks

A validator is a sequence of checks in the `Except` monad. When it accepts, every check passed and
every intermediate value is known; the lemmas peel an accepted sequence apart one check at a time,
so that no proof unfolds the monad.
-/

namespace Except

variable {x : Except ε α}

theorem ok_bind (a : α) (f : α → Except ε β) : (.ok a >>= f) = f a := rfl

theorem map_eq_ok_iff : x.map f = .ok b ↔ ∃ a, x = .ok a ∧ f a = b := by
  cases x with
  | error | ok => simp [Except.map]

@[simp] theorem mapError_error (e : ε) : (.error e : Except ε α).mapError f = .error (f e) := rfl

@[simp] theorem mapError_ok (a : α) : (.ok a : Except ε α).mapError f = .ok a := rfl

theorem mapError_eq_ok_iff : x.mapError f = .ok a ↔ x = .ok a := by
  cases x with
  | error | ok => simp

theorem toOption_eq_some_iff : x.toOption = some a ↔ x = .ok a := by
  cases x with
  | error | ok => simp [Except.toOption]

end Except

namespace Checked

/-- An accepted sequence accepted its first part, and the rest on the value of that part. -/
theorem bind_eq_ok {x : Except ε α} : (x >>= f) = .ok b ↔ ∃ a, x = .ok a ∧ f a = .ok b := by
  cases x with
  | error | ok => simp [bind, Except.bind]

/-- The rest of an accepted sequence, where the value of its first part says nothing. -/
theorem of_bind {x : Except ε α} (h : (x >>= f) = .ok b) : ∃ a, f a = .ok b := by
  obtain ⟨a, -, h⟩ := bind_eq_ok.1 h
  exact ⟨a, h⟩

/-- Refuse with `e` unless the check passes. -/
def require (check : Bool) (e : ε) : Except ε Unit := if check then .ok () else .error e

/-- The value of an option, or a refusal with `e`. -/
def get (value : Option α) (e : ε) : Except ε α :=
  match value with
  | some a => .ok a
  | none => .error e

variable {value : Option α}

theorem require_eq_ok : require check e = .ok u ↔ check = true := by
  cases check <;> simp [require]

theorem require_of (h : check = true) : require check e = .ok () :=
  require_eq_ok.2 h

theorem get_eq_ok : get value e = .ok a ↔ value = some a := by
  cases value <;> simp [get]

/-- An accepted sequence that starts with a check. -/
theorem require_bind : (require check e >>= f) = .ok b ↔ check = true ∧ f () = .ok b := by
  rw [bind_eq_ok]
  exact ⟨fun ⟨_, hcheck, h⟩ => ⟨require_eq_ok.1 hcheck, h⟩,
    fun ⟨hcheck, h⟩ => ⟨(), require_of hcheck, h⟩⟩

/-- An accepted sequence that starts with a required value. -/
theorem get_bind : (get value e >>= f) = .ok b ↔ ∃ a, value = some a ∧ f a = .ok b := by
  simp only [bind_eq_ok, get_eq_ok]

/-- A value that is refined by a check is kept as it is. -/
theorem refine_eq_ok {p : α → Prop} [Decidable (p a)] {b : { x // p x }} :
    (if h : p a then .ok ⟨a, h⟩ else .error e : Except ε { x // p x }) = .ok b ↔ b.1 = a := by
  split
  · simp only [Except.ok.injEq, Subtype.ext_iff]
    exact eq_comm
  rename_i h
  simp only [reduceCtorEq, false_iff]
  rintro rfl
  exact h b.2

end Checked
