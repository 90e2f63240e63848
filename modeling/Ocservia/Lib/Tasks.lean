import Mathlib.Data.List.AList
import Ocservia.Lib.Trace

/-!
# Tasks over a shared state

A program of cooperating tasks has one shared state and any number of tasks in flight, each with a
local state of its own (`Tasks.Pool`). A task acts in atomic pieces, from one await point to the
next (`Tasks.Program.act`), and the pieces of different tasks interleave in any order. A task that
stands at an await point may be dropped there; what it held is then released.

`Program.Outline.run` is the rule of Owicki and Gries: an assertion about the shared state and one
about each task in flight hold along every run when the pieces of a task keep its own assertion and
those of all the others. `Program.Contract` is the rely-guarantee form of it. `Program.Run.mono`
moves a run to a program that starts and drops tasks more freely.
-/

namespace Tasks

open Option

/-- A shared state, and the tasks in flight by their number. -/
structure Pool (σ τ : Type) where
  shared : σ
  tasks : AList fun _ : Nat => τ

namespace Pool

section
variable (p : Pool σ τ)

/-- The task in flight under a number. -/
def task (id : Nat) : Option τ := p.tasks.lookup id

/-- The pool in which the task `id` has the local state `t`, or has ended. -/
def put (id : Nat) : Option τ → Pool σ τ
  | some t => { p with tasks := p.tasks.insert id t }
  | none => { p with tasks := p.tasks.erase id }

/-- The pool with another shared state. -/
def withShared (s : σ) : Pool σ τ := { p with shared := s }

/-- Some task in flight satisfies `f`. -/
def any (f : τ → Bool) : Bool := p.tasks.entries.any fun entry => f entry.2

@[simp] theorem shared_put (id : Nat) (t : Option τ) : (p.put id t).shared = p.shared := by
  cases t <;> rfl

@[simp] theorem shared_withShared (s : σ) : (p.withShared s).shared = s := rfl

@[simp] theorem task_withShared (s : σ) (id : Nat) : (p.withShared s).task id = p.task id := rfl

theorem task_put (id : Nat) (t : Option τ) (j : Nat) :
    (p.put id t).task j = if j = id then t else p.task j := by
  by_cases h : j = id
  · subst h
    cases t <;> simp [put, task]
  · cases t <;> simp [put, task, h, AList.lookup_insert_ne, AList.lookup_erase_ne]

@[simp] theorem task_put_self (id : Nat) (t : Option τ) : (p.put id t).task id = t := by
  simp [task_put]

end

variable {id j : Nat} {p : Pool σ τ}

theorem task_put_ne (p : Pool σ τ) (t : Option τ) (h : j ≠ id) :
    (p.put id t).task j = p.task j := by
  simp [task_put, h]

/-- A task in flight after an update is the updated one, or was in flight before. -/
theorem of_task_put (h : (p.put id t).task j = some u) :
    j = id ∧ t = some u ∨ j ≠ id ∧ p.task j = some u := by
  rw [task_put] at h
  split at h
  next hj => exact .inl ⟨hj, h⟩
  next hj => exact .inr ⟨hj, h⟩

theorem any_eq_false (h : p.any f = false) (ht : p.task id = some t) : f t = false := by
  rw [any, List.any_eq_false] at h
  have hmem : (⟨id, t⟩ : Sigma fun _ : Nat => τ) ∈ p.tasks.entries := AList.mem_lookup_iff.1 ht
  simpa using h _ hmem

end Pool

/-- Tasks with local states `τ` over a shared state `σ`; `ι` are the inputs of a piece, `ε` its
events. -/
structure Program (σ τ ι ε : Type) where
  /-- The shared states a run may start in. -/
  init : σ → Prop
  spawn : Pool σ τ → τ → Bool
  /-- One piece of the task `id`: the shared state after it, the local state unless the task has
  ended, and the event. -/
  act : Pool σ τ → Nat → τ → ι → Option (σ × Option τ × ε)
  /-- The local states in which a task may be dropped. -/
  cancel : τ → Bool
  /-- What dropping the task `id` releases. -/
  release : Nat → σ → σ

/-- What happens in a step of a program. -/
inductive Label (τ ι ε : Type) where
  | spawn (id : Nat) (task : τ)
  | act (id : Nat) (input : ι) (event : ε)
  | cancel (id : Nat)

/-- The task whose step it is. -/
def Label.id : Label τ ι ε → Nat
  | .spawn id _ | .act id _ _ | .cancel id => id

namespace Program

variable {M : Program σ τ ι ε}

/-- The steps of a program. -/
inductive Step (M : Program σ τ ι ε) : Pool σ τ → Label τ ι ε → Pool σ τ → Prop where
  | spawn {p : Pool σ τ} {id : Nat} {t : τ} : p.task id = none → M.spawn p t = true →
      Step M p (.spawn id t) (p.put id (some t))
  | act {p : Pool σ τ} {id : Nat} {t : τ} {i : ι} {s : σ} {t' : Option τ} {e : ε} :
      p.task id = some t → M.act p id t i = some (s, t', e) →
      Step M p (.act id i e) ((p.withShared s).put id t')
  | cancel {p : Pool σ τ} {id : Nat} {t : τ} : p.task id = some t → M.cancel t = true →
      Step M p (.cancel id) ((p.withShared (M.release id p.shared)).put id none)

/-- The transition system of a program: no task is in flight at first. -/
def lts (M : Program σ τ ι ε) : LTS (Pool σ τ) (Label τ ι ε) where
  init p := M.init p.shared ∧ p.tasks = ∅
  step := Step M

/-- The step of a label, computed. -/
def next [DecidableEq ε] (M : Program σ τ ι ε) (p : Pool σ τ) :
    Label τ ι ε → Option (Pool σ τ)
  | .spawn id t => if (p.task id).isNone && M.spawn p t then some (p.put id (some t)) else none
  | .act id i e => do
    let t ← p.task id
    let (s, t', e') ← M.act p id t i
    if e' = e then some ((p.withShared s).put id t') else none
  | .cancel id => do
    let t ← p.task id
    if M.cancel t then some ((p.withShared (M.release id p.shared)).put id none) else none

theorem step_of_next [DecidableEq ε] (h : M.next p a = some p') : Step M p a p' := by
  cases a with
  | spawn id t =>
    simp only [next, ite_none_right_eq_some, Bool.and_eq_true, isNone_iff_eq_none] at h
    obtain ⟨⟨hnone, hspawn⟩, h⟩ := h
    cases h
    exact .spawn hnone hspawn
  | act id i e =>
    obtain ⟨t, ht, h⟩ := bind_eq_some_iff.1 h
    obtain ⟨⟨s, t', e'⟩, hact, h⟩ := bind_eq_some_iff.1 h
    dsimp only at h
    rw [ite_none_right_eq_some] at h
    obtain ⟨he, h⟩ := h
    cases h
    exact .act ht (he ▸ hact)
  | cancel id =>
    obtain ⟨t, ht, h⟩ := bind_eq_some_iff.1 h
    rw [ite_none_right_eq_some] at h
    obtain ⟨hcancel, h⟩ := h
    cases h
    exact .cancel ht hcancel

/-- A run is found by computing it. -/
theorem run_of_next [DecidableEq ε] (h0 : M.lts.init start) (h : t.foldlM M.next start = some p) :
    M.lts.Run t p :=
  LTS.Run.of_foldlM (fun _ _ _ hs => step_of_next hs) h0 h

/-! ## The last piece of a task -/

/-- On a run `tr` to `p`, the last step of the task `id` is a piece taken in a state and on an input
with `P`. -/
def Last (M : Program σ τ ι ε) (id : Nat) (P : Pool σ τ → ι → Prop) (tr : List (Label τ ι ε))
    (p : Pool σ τ) : Prop :=
  ∃ tr₀ i e u q q', tr = tr₀ ++ .act id i e :: u ∧ M.lts.Run tr₀ q ∧
    M.lts.step q (.act id i e) q' ∧ M.lts.Steps q' u p ∧ (∀ a ∈ u, a.id ≠ id) ∧ P q i

variable {id : Nat}

/-- The piece that a task has just taken is its last one. -/
theorem Last.now (h : M.lts.Run tr p) (hs : M.lts.step p (.act id i e) p') (hP : P p i) :
    M.Last id P (tr ++ [.act id i e]) p' :=
  ⟨tr, i, e, [], p, p', rfl, h, hs, .nil, by simp, hP⟩

/-- It is so until the task takes another step. -/
theorem Last.snoc (h : M.Last id P tr p) (hs : M.lts.step p a p') (ha : a.id ≠ id) :
    M.Last id P (tr ++ [a]) p' := by
  obtain ⟨tr₀, i, e, u, q, q', rfl, hrun, hact, hsteps, hothers, hP⟩ := h
  refine ⟨tr₀, i, e, u ++ [a], q, q', by simp, hrun, hact, hsteps.append (.cons hs .nil), ?_, hP⟩
  intro b hb
  rcases List.mem_append.1 hb with hb | hb
  · exact hothers b hb
  · rwa [List.mem_singleton.1 hb]

/-- What follows from `P` held at the last piece too. -/
theorem Last.imp (h : M.Last id P tr p) (hPQ : ∀ q i, P q i → Q q i) : M.Last id Q tr p := by
  obtain ⟨tr₀, i, e, u, q, q', htr, hrun, hact, hsteps, hothers, hP⟩ := h
  exact ⟨tr₀, i, e, u, q, q', htr, hrun, hact, hsteps, hothers, hPQ q i hP⟩

/-! ## Another discipline -/

/-- The program with other rules for starting and dropping its tasks. -/
def under (M : Program σ τ ι ε) (spawn : Pool σ τ → τ → Bool) (cancel : τ → Bool) :
    Program σ τ ι ε :=
  { M with spawn, cancel }

/-- A run under rules is a run under any rules that allow what they allow. -/
theorem Run.mono {spawn spawn' : Pool σ τ → τ → Bool} {cancel cancel' : τ → Bool}
    (hspawn : ∀ p t, spawn p t = true → spawn' p t = true)
    (hcancel : ∀ t, cancel t = true → cancel' t = true) (h : (M.under spawn cancel).lts.Run t p) :
    (M.under spawn' cancel').lts.Run t p := by
  induction h with
  | start h0 => exact .start h0
  | snoc _ hs ih =>
    refine .snoc ih ?_
    cases hs with
    | spawn hnone hs => exact .spawn hnone (hspawn _ _ hs)
    | act ht hact => exact .act ht hact
    | cancel ht hc => exact .cancel ht (hcancel _ hc)

/-! ## Proof outlines -/

/-- Every task in flight satisfies its assertion. -/
def Annotated (J : σ → Nat → τ → Prop) (p : Pool σ τ) : Prop :=
  ∀ id t, p.task id = some t → J p.shared id t

/-- A proof outline: a piece keeps the assertion `I` about the shared state, establishes `J` of the
local state it leads to, and does not interfere with the other tasks' `J`. -/
structure Outline (M : Program σ τ ι ε) (I : σ → Prop) (J : σ → Nat → τ → Prop) : Prop where
  init : ∀ s, M.init s → I s
  spawn : ∀ {p id t}, M.lts.Reachable p → I p.shared → Annotated J p → p.task id = none →
    M.spawn p t = true → J p.shared id t
  act : ∀ {p id t i s t' e}, M.lts.Reachable p → I p.shared → Annotated J p →
    p.task id = some t → M.act p id t i = some (s, t', e) → I s ∧ ∀ u ∈ t', J s id u
  interfere : ∀ {p id t i s t' e}, M.lts.Reachable p → I p.shared → Annotated J p →
    p.task id = some t → M.act p id t i = some (s, t', e) →
    ∀ j u, j ≠ id → p.task j = some u → J s j u
  cancel : ∀ {p id t}, I p.shared → Annotated J p → p.task id = some t → M.cancel t = true →
    I (M.release id p.shared) ∧
      ∀ j u, j ≠ id → p.task j = some u → J (M.release id p.shared) j u

/-- **A proof outline holds along every run.** -/
theorem Outline.run (O : Outline M I J) (h : M.lts.Run t p) : I p.shared ∧ Annotated J p := by
  refine h.state_invariant (fun p => I p.shared ∧ Annotated J p) ?_ ?_
  · rintro p ⟨h0, hempty⟩
    refine ⟨O.init _ h0, fun id t ht => ?_⟩
    simp [Pool.task, hempty] at ht
  · rintro p a p' hr ⟨hI, hJ⟩ hs
    cases hs with
    | @spawn id t hnone hspawn =>
      refine ⟨by simpa using hI, fun j u hput => ?_⟩
      rw [Pool.shared_put]
      obtain ⟨rfl, hu⟩ | ⟨-, hu⟩ := Pool.of_task_put hput
      · cases hu
        exact O.spawn hr hI hJ hnone hspawn
      · exact hJ j u hu
    | @act id t i s t' e ht hact =>
      obtain ⟨hI', hJ'⟩ := O.act hr hI hJ ht hact
      refine ⟨by simpa using hI', fun j u hput => ?_⟩
      rw [Pool.shared_put, Pool.shared_withShared]
      obtain ⟨rfl, hu⟩ | ⟨hj, hu⟩ := Pool.of_task_put hput
      · exact hJ' u hu
      · exact O.interfere hr hI hJ ht hact j u hj hu
    | @cancel id t ht hc =>
      obtain ⟨hI', hJ'⟩ := O.cancel hI hJ ht hc
      refine ⟨by simpa using hI', fun j u hu => ?_⟩
      rw [Pool.shared_put, Pool.shared_withShared]
      obtain ⟨-, ⟨⟩⟩ | ⟨hj, hu⟩ := Pool.of_task_put hu
      exact hJ' j u hj hu

/-! ## Rely and guarantee -/

/-- A contract: assertions `I` about the shared state and `J` about each task, and a relation `R`
that the pieces guarantee, under which the assertions of the others are stable. -/
structure Contract (M : Program σ τ ι ε) (I : σ → Prop) (R : Nat → σ → σ → Prop)
    (J : σ → Nat → τ → Prop) : Prop where
  init : ∀ s, M.init s → I s
  spawn : ∀ {p id t}, I p.shared → M.spawn p t = true → J p.shared id t
  act : ∀ {p id t i s t' e}, I p.shared → J p.shared id t → M.act p id t i = some (s, t', e) →
    I s ∧ R id p.shared s ∧ ∀ u ∈ t', J s id u
  cancel : ∀ {id t s}, I s → J s id t → M.cancel t = true →
    I (M.release id s) ∧ R id s (M.release id s)
  stable : ∀ {id j s s' u}, j ≠ id → I s → R id s s' → J s j u → J s' j u

namespace Contract

theorem outline (C : Contract M I R J) : Outline M I J where
  init := C.init
  spawn _ hI _ _ hspawn := C.spawn hI hspawn
  act _ hI hJ ht hact := by
    obtain ⟨hI', -, hJ'⟩ := C.act hI (hJ _ _ ht) hact
    exact ⟨hI', hJ'⟩
  interfere _ hI hJ ht hact j u hj hu :=
    C.stable hj hI (C.act hI (hJ _ _ ht) hact).2.1 (hJ j u hu)
  cancel hI hJ ht hc := by
    obtain ⟨hI', hR⟩ := C.cancel hI (hJ _ _ ht) hc
    exact ⟨hI', fun j u hj hu => C.stable hj hI hR (hJ j u hu)⟩

/-- What the contract says of a reachable state. -/
theorem reachable (C : Contract M I R J) (h : M.lts.Reachable p) : I p.shared ∧ Annotated J p := by
  obtain ⟨t, ht⟩ := h
  exact C.outline.run ht

/-- Every step of a run is one that some task guarantees, or leaves the shared state alone. -/
theorem step (C : Contract M I R J) (h : M.lts.Reachable p) (hs : M.lts.step p a p') :
    p'.shared = p.shared ∨ ∃ id, R id p.shared p'.shared := by
  obtain ⟨hI, hJ⟩ := C.reachable h
  cases hs with
  | spawn _ _ => exact .inl (Pool.shared_put _ _ _)
  | @act id t i s t' e ht hact =>
    refine .inr ⟨id, ?_⟩
    simpa using (C.act hI (hJ _ _ ht) hact).2.1
  | @cancel id t ht hc =>
    refine .inr ⟨id, ?_⟩
    simpa using (C.cancel hI (hJ _ _ ht) hc).2

end Contract

end Program

end Tasks
