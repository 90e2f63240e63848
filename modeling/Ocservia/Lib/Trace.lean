import Mathlib.Data.List.Basic

/-!
# Labelled transition systems and their traces

A system is a set of initial states and a labelled step relation. A run is recorded by the list of
its labels, oldest first, and the state it ends in (`LTS.Run`). Every safety result of this
development is an induction over runs, packaged once: `LTS.Run.invariant` for a property of the
trace and the state it leads to, `LTS.Run.state_invariant` for a property of the state alone. A
system whose steps a function computes is run by evaluating the function (`LTS.ofFun`).

A *single-use token* (`LTS.Token`) is a capability that one kind of step grants and another
consumes: there is at most one use more than there are grants (`LTS.Token.count_le`). A *restricted
run* is a run of the subsystem whose steps satisfy a condition (`LTS.restrict`).
-/

/-- A labelled transition system over states `σ` with labels `ℓ`. -/
structure LTS (σ ℓ : Type) where
  init : σ → Prop
  /-- `step s a s'`: from `s` the step labelled `a` leads to `s'`. -/
  step : σ → ℓ → σ → Prop

namespace LTS

open List

variable {σ ℓ : Type} {M : LTS σ ℓ}

/-- `M.Run t s`: a run of `M` from an initial state has the labels `t`, oldest first, and ends in
`s`. -/
inductive Run (M : LTS σ ℓ) : List ℓ → σ → Prop where
  | start {s : σ} : M.init s → Run M [] s
  | snoc {t : List ℓ} {s s' : σ} {a : ℓ} : Run M t s → M.step s a s' → Run M (t ++ [a]) s'

/-- A state is reachable when some run ends in it. -/
def Reachable (M : LTS σ ℓ) (s : σ) : Prop := ∃ t, M.Run t s

variable {s s' : σ} {a : ℓ} {t pre post u : List ℓ} {next : σ → ℓ → Option σ}

theorem Reachable.start (h : M.init s) : M.Reachable s := ⟨[], .start h⟩

theorem Reachable.snoc (h : M.Reachable s) (hs : M.step s a s') : M.Reachable s' := by
  obtain ⟨t, ht⟩ := h
  exact ⟨t ++ [a], .snoc ht hs⟩

/-- The invariant rule: what holds of the empty trace and is kept by every step from a reachable
state holds of every run. -/
theorem Run.invariant (I : List ℓ → σ → Prop) (h0 : ∀ s, M.init s → I [] s)
    (hs : ∀ t s a s', M.Run t s → I t s → M.step s a s' → I (t ++ [a]) s') (h : M.Run t s) :
    I t s := by
  induction h with
  | start h => exact h0 _ h
  | snoc hr ha ih => exact hs _ _ _ _ hr ih ha

/-- The invariant rule for a property of the state alone. -/
theorem Run.state_invariant (I : σ → Prop) (h0 : ∀ s, M.init s → I s)
    (hs : ∀ s a s', M.Reachable s → I s → M.step s a s' → I s') (h : M.Run t s) : I s :=
  h.invariant (fun _ s => I s) h0 fun t s a s' hr hi ha => hs s a s' ⟨t, hr⟩ hi ha

theorem Reachable.invariant (I : σ → Prop) (h0 : ∀ s, M.init s → I s)
    (hs : ∀ s a s', M.Reachable s → I s → M.step s a s' → I s') (h : M.Reachable s) : I s := by
  obtain ⟨t, ht⟩ := h
  exact ht.state_invariant I h0 hs

/-- The state in which a label of a run was taken, and the run up to it. -/
theorem Run.at_label (h : M.Run t s) (e : t = pre ++ a :: post) :
    ∃ s₁ s₂, M.Run pre s₁ ∧ M.step s₁ a s₂ := by
  induction h generalizing post with
  | start _ => simp at e
  | @snoc t s s' b hr hb ih =>
    rcases eq_nil_or_concat post with rfl | ⟨post', x, rfl⟩
    · obtain ⟨rfl, e2⟩ := append_inj' e rfl
      obtain rfl := singleton_inj.1 e2
      exact ⟨s, s', hr, hb⟩
    · have e' : t ++ [b] = (pre ++ a :: post') ++ [x] := by simpa using e
      exact ih (append_inj' e' rfl).1

/-! ## Continuing a run -/

/-- `M.Steps s t s'`: from `s` the steps labelled `t`, in order, lead to `s'`. -/
inductive Steps (M : LTS σ ℓ) : σ → List ℓ → σ → Prop where
  | nil {s : σ} : Steps M s [] s
  | cons {s s' s'' : σ} {a : ℓ} {t : List ℓ} :
      M.step s a s' → Steps M s' t s'' → Steps M s (a :: t) s''

variable {s'' start : σ} {R : σ → σ → Prop}

theorem Steps.append (h : M.Steps s t s') (h' : M.Steps s' u s'') : M.Steps s (t ++ u) s'' := by
  induction h with
  | nil => exact h'
  | cons ha _ ih => exact .cons ha (ih h')

/-- The steps up to a label, the step of that label, and the steps after it. -/
theorem Steps.split (h : M.Steps s (pre ++ a :: post) s'') :
    ∃ s₁ s₂, M.Steps s pre s₁ ∧ M.step s₁ a s₂ ∧ M.Steps s₂ post s'' := by
  induction pre generalizing s with
  | nil =>
    cases h with
    | cons ha hs => exact ⟨_, _, .nil, ha, hs⟩
  | cons b pre ih =>
    cases h with
    | cons hb hs =>
      obtain ⟨s₁, s₂, h1, ha, h2⟩ := ih hs
      exact ⟨s₁, s₂, .cons hb h1, ha, h2⟩

/-- What a reflexive and transitive relation says of every step it says of steps in a row. -/
theorem Steps.related (hrefl : ∀ s, R s s) (htrans : ∀ {s₁ s₂ s₃}, R s₁ s₂ → R s₂ s₃ → R s₁ s₃)
    (hstep : ∀ s a s', M.step s a s' → R s s') (h : M.Steps s t s') : R s s' := by
  induction h with
  | nil => exact hrefl _
  | cons ha _ ih => exact htrans (hstep _ _ _ ha) ih

/-- A run is continued by steps from its end. -/
theorem Run.steps (h : M.Run t s) (h' : M.Steps s u s') : M.Run (t ++ u) s' := by
  induction h' generalizing t with
  | nil => simpa using h
  | cons ha _ ih => simpa using ih (h.snoc ha)

/-- What it says of every step from a reachable state it says of the states of a run. -/
theorem Run.related (hrefl : ∀ s, R s s) (htrans : ∀ {s₁ s₂ s₃}, R s₁ s₂ → R s₂ s₃ → R s₁ s₃)
    (hstep : ∀ s a s', M.Reachable s → M.step s a s' → R s s') (hrun : M.Run t s)
    (h : M.Steps s u s') : R s s' := by
  induction h generalizing t with
  | nil => exact hrefl _
  | cons ha _ ih => exact htrans (hstep _ _ _ ⟨t, hrun⟩ ha) (ih (hrun.snoc ha))

/-! ## Restricting the steps -/

/-- The system `M` with only those steps that satisfy `C`. -/
def restrict (M : LTS σ ℓ) (C : σ → ℓ → σ → Prop) : LTS σ ℓ where
  init := M.init
  step s a s' := M.step s a s' ∧ C s a s'

theorem Run.of_restrict (h : (M.restrict C).Run t s) : M.Run t s := by
  induction h with
  | start h0 => exact .start h0
  | snoc _ hs ih => exact .snoc ih hs.1

/-! ## Systems given by a function -/

/-- The system that starts in `start` and steps as `next` computes. -/
def ofFun (start : σ) (next : σ → ℓ → Option σ) : LTS σ ℓ where
  init s := s = start
  step s a s' := next s a = some s'

/-- Steps that a function computes are steps of every system that has them. -/
theorem Steps.of_foldlM (hnext : ∀ s a s', next s a = some s' → M.step s a s')
    (h : t.foldlM next s = some s') : M.Steps s t s' := by
  induction t generalizing s with
  | nil =>
    cases h
    exact .nil
  | cons a t ih =>
    rw [foldlM_cons] at h
    obtain ⟨s₁, hs, ht⟩ := Option.bind_eq_some_iff.1 h
    exact .cons (hnext _ _ _ hs) (ih ht)

theorem Run.of_foldlM (hnext : ∀ s a s', next s a = some s' → M.step s a s') (h0 : M.init start)
    (h : t.foldlM next start = some s) : M.Run t s :=
  (Run.start h0).steps (Steps.of_foldlM hnext h)

theorem ofFun_run (h : t.foldlM next start = some s) : (ofFun start next).Run t s :=
  Run.of_foldlM (fun _ _ _ hs => hs) rfl h

/-- The step function that takes only the steps that satisfy `C`. -/
def guarded (next : σ → ℓ → Option σ) (C : σ → ℓ → σ → Prop) [∀ s a s', Decidable (C s a s')]
    (s : σ) (a : ℓ) : Option σ :=
  (next s a).filter fun s' => C s a s'

theorem restrict_step_of_guarded [∀ s a s', Decidable (C s a s')]
    (hnext : ∀ s a s', next s a = some s' → M.step s a s') (s : σ) (a : ℓ) (s' : σ)
    (h : guarded next C s a = some s') : (M.restrict C).step s a s' := by
  obtain ⟨hs, hC⟩ := Option.filter_eq_some_iff.1 h
  exact ⟨hnext _ _ _ hs, of_decide_eq_true hC⟩

theorem ofFun_restrict_run [∀ s a s', Decidable (C s a s')]
    (h : t.foldlM (guarded next C) start = some s) : ((ofFun start next).restrict C).Run t s :=
  Run.of_foldlM (restrict_step_of_guarded fun _ _ _ hs => hs) rfl h

/-! ## Single-use tokens -/

/-- Between any two labels of `t` that satisfy `use` stands a label that satisfies `grant`. -/
def Separated (use grant : ℓ → Prop) (t : List ℓ) : Prop :=
  ∀ pre a mid b post, t = pre ++ a :: mid ++ b :: post → use a → use b → ∃ c ∈ mid, grant c

/-- Every label of `t` that satisfies `use` has an earlier one that satisfies `grant`. -/
def Gated (use grant : ℓ → Prop) (t : List ℓ) : Prop :=
  ∀ mid b post, t = mid ++ b :: post → use b → ∃ c ∈ mid, grant c

section Count
variable {use grant : ℓ → Prop}

variable {a : ℓ} {t : List ℓ}

theorem Separated.tail (h : Separated use grant (a :: t)) : Separated use grant t := by
  rintro pre x mid y post rfl hx hy
  exact h (a :: pre) x mid y post (by simp) hx hy

theorem Separated.gated (h : Separated use grant (a :: t)) (ha : use a) : Gated use grant t := by
  rintro mid b post rfl hb
  exact h [] a mid b post (by simp) ha hb

theorem Gated.not_use (h : Gated use grant (a :: t)) : ¬ use a := by
  intro ha
  obtain ⟨c, hc, _⟩ := h [] a t rfl ha
  cases hc

theorem Gated.tail (h : Gated use grant (a :: t)) (ha : ¬ grant a) : Gated use grant t := by
  rintro mid b post rfl hb
  obtain ⟨c, hc, hg⟩ := h (a :: mid) b post rfl hb
  rcases mem_cons.1 hc with rfl | hc
  · exact absurd hg ha
  · exact ⟨c, hc, hg⟩

variable [DecidablePred use] [DecidablePred grant]

/-- A separated trace has at most one use more than grants, and none if a grant comes first. -/
theorem Separated.count_le_aux (t : List ℓ) (h : Separated use grant t) :
    (Gated use grant t → t.countP use ≤ t.countP grant) ∧
      t.countP use ≤ t.countP grant + 1 := by
  induction t with
  | nil => simp
  | cons a t ih =>
    obtain ⟨ih1, ih2⟩ := ih h.tail
    simp only [countP_cons, decide_eq_true_eq]
    refine ⟨fun hg => ?_, ?_⟩
    · have hu := hg.not_use
      by_cases hgr : grant a
      · simp only [hu, hgr, if_true, if_false]; omega
      · have := ih1 (hg.tail hgr)
        simp only [hu, hgr, if_false]; omega
    · by_cases hu : use a
      · have := ih1 (h.gated hu)
        simp only [hu, if_true]; split <;> omega
      · simp only [hu, if_false]; split <;> omega

theorem Separated.count_le (h : Separated use grant t) : t.countP use ≤ t.countP grant + 1 :=
  (h.count_le_aux t).2

end Count

/-- A label of a trace with one more label is the last one, or lies in the trace before. -/
theorem snoc_eq_append_cons (e : t ++ [a] = pre ++ b :: post) :
    (t = pre ∧ a = b ∧ post = []) ∨ ∃ post', post = post' ++ [a] ∧ t = pre ++ b :: post' := by
  rcases eq_nil_or_concat post with rfl | ⟨post', x, rfl⟩
  · obtain ⟨e1, e2⟩ := append_inj' e rfl
    exact .inl ⟨e1, singleton_inj.1 e2, rfl⟩
  · have e' : t ++ [a] = (pre ++ b :: post') ++ [x] := by simpa using e
    obtain ⟨e1, e2⟩ := append_inj' e' rfl
    exact .inr ⟨post', by simp [singleton_inj.1 e2], e1⟩

/-- A single-use token of `M`: a `use` consumes it, or the one use that is free in a `fresh` state;
only a `grant` puts it back, and nothing makes a state fresh again. -/
structure Token (M : LTS σ ℓ) (use grant : ℓ → Prop) (fresh token : σ → Prop) : Prop where
  /-- A use needs the token or a fresh state. -/
  needs : ∀ {s a s'}, M.step s a s' → use a → fresh s ∨ token s
  /-- A use leaves neither. -/
  spends : ∀ {s a s'}, M.step s a s' → use a → ¬ fresh s' ∧ ¬ token s'
  /-- A state after a step is fresh only if it was so before. -/
  fresh_of : ∀ {s a s'}, M.step s a s' → fresh s' → fresh s
  /-- The token is there after a step only if it was there before or the step grants it. -/
  token_of : ∀ {s a s'}, M.step s a s' → token s' → token s ∨ grant a

namespace Token

variable {use grant : ℓ → Prop} {fresh token : σ → Prop}

/-- While the state is fresh nothing was used, and while the token is there a grant follows the last
use. -/
def Held (use grant : ℓ → Prop) (fresh token : σ → Prop) (t : List ℓ) (s : σ) : Prop :=
  (fresh s → ∀ a ∈ t, ¬ use a) ∧
    (token s → ∀ pre a mid, t = pre ++ a :: mid → use a → ∃ c ∈ mid, grant c)

variable {t : List ℓ} {s : σ}

theorem held (T : M.Token use grant fresh token) (h : M.Run t s) :
    Held use grant fresh token t s := by
  refine h.invariant (Held use grant fresh token) (fun s _ => ⟨by simp, by simp⟩) ?_
  rintro t s a s' - ⟨hf, ht⟩ hs
  refine ⟨fun hfr b hb hub => ?_, fun htk pre b mid e hub => ?_⟩
  · rcases mem_append.1 hb with hb | hb
    · exact hf (T.fresh_of hs hfr) b hb hub
    · obtain rfl := mem_singleton.1 hb
      exact (T.spends hs hub).1 hfr
  · rcases snoc_eq_append_cons e with ⟨-, rfl, -⟩ | ⟨mid', rfl, e'⟩
    · exact absurd htk (T.spends hs hub).2
    · rcases T.token_of hs htk with htk | hg
      · obtain ⟨c, hc, hg⟩ := ht htk pre b mid' e' hub
        exact ⟨c, by simp [hc], hg⟩
      · exact ⟨a, by simp, hg⟩

/-- **Between two uses of a single-use token there is a grant.** -/
theorem separated (T : M.Token use grant fresh token) (h : M.Run t s) : Separated use grant t := by
  refine h.invariant (fun t _ => Separated use grant t) (fun s _ => ?_) ?_
  · rintro pre a mid b post e
    simp at e
  · rintro t s a s' hr hsep hs pre b mid c post e hub huc
    rcases snoc_eq_append_cons e with ⟨e', rfl, -⟩ | ⟨post', -, e'⟩
    · obtain ⟨hf, ht⟩ := T.held hr
      rcases T.needs hs huc with hfr | htk
      · exact absurd hub (hf hfr b (by simp [e']))
      · exact ht htk pre b mid e' hub
    · exact hsep pre b mid c post' e' hub huc

/-- **A single-use token is used at most once more than it is granted.** -/
theorem count_le [DecidablePred use] [DecidablePred grant] (T : M.Token use grant fresh token)
    (h : M.Run t s) : t.countP use ≤ t.countP grant + 1 :=
  (T.separated h).count_le

end Token

end LTS
