import Mathlib.Data.List.Chain
import Mathlib.Data.List.Infix

/-!
# Programs over a durable store

A program over a store `σ` reads the store and commits transactions to it, and ends in a value or an
error. A crash leaves the store after some number of its transactions, so a program is the list of
stores it leaves durable, one for each transaction, together with its result (`Durable`). A call
that completes leaves the last of these stores; one that is cut by a crash leaves any earlier one
and returns nothing (`Durable.Exec`).

The rules of `Durable.Spec P m G Q` follow the program text, and a crashed call inherits the
guarantee `G` of the whole program (`Spec.exec`). The outcome of a complete run is derived by the
rules of `Durable.Yields`.
-/

/-- A program over the durable store `σ`, with errors `ε` and values `α`: the stores it commits,
oldest first, and its result. -/
def Durable (σ ε α : Type) : Type := σ → List σ × Except ε α

namespace Durable

open List

/-- The stores that `m` commits when started from `s`. -/
def writes (m : Durable σ ε α) (s : σ) : List σ := (m s).1

/-- What `m` returns when started from `s`. -/
def result (m : Durable σ ε α) (s : σ) : Except ε α := (m s).2

/-- The store that a complete run of `m` from `s` leaves. -/
def final (m : Durable σ ε α) (s : σ) : σ := (m.writes s).getLastD s

/-- Return a value without touching the store. -/
protected def pure (a : α) : Durable σ ε α := fun _ => ([], .ok a)

/-- Fail without touching the store. -/
protected def throw (e : ε) : Durable σ ε α := fun _ => ([], .error e)

/-- Run `m`, then `f` on its value from the store `m` leaves. An error of `m` ends the program. -/
protected def bind (m : Durable σ ε α) (f : α → Durable σ ε β) : Durable σ ε β := fun s =>
  match m.result s with
  | .error e => (m.writes s, .error e)
  | .ok a => (m.writes s ++ (f a).writes (m.final s), (f a).result (m.final s))

instance : Monad (Durable σ ε) where
  pure := Durable.pure
  bind := Durable.bind

instance : MonadExceptOf ε (Durable σ ε) where
  throw := Durable.throw
  tryCatch m h := fun s =>
    match m.result s with
    | .ok a => (m.writes s, .ok a)
    | .error e => (m.writes s ++ (h e).writes (m.final s), (h e).result (m.final s))

def read (f : σ → Except ε α) : Durable σ ε α := fun s => ([], f s)

/-- One transaction: it commits a store with a value, or rolls back with an error. -/
def transact (f : σ → Except ε (α × σ)) : Durable σ ε α := fun s =>
  match f s with
  | .ok (a, s') => ([s'], .ok a)
  | .error e => ([], .error e)

/-- Rewrite the error of a program. -/
def mapErr (f : ε → ε') (m : Durable σ ε α) : Durable σ ε' α := fun s =>
  (m.writes s, (m.result s).mapError f)

/-! ## What each construct commits and returns -/

@[simp] theorem writes_pure (a : α) (s : σ) : (pure a : Durable σ ε α).writes s = [] := rfl
@[simp] theorem result_pure (a : α) (s : σ) : (pure a : Durable σ ε α).result s = .ok a := rfl
@[simp] theorem writes_throw (e : ε) (s : σ) : (throw e : Durable σ ε α).writes s = [] := rfl
@[simp] theorem result_throw (e : ε) (s : σ) : (throw e : Durable σ ε α).result s = .error e := rfl
section
variable (f : σ → Except ε α)

@[simp] theorem writes_read (s : σ) : (read f).writes s = [] := rfl
@[simp] theorem result_read (s : σ) : (read f).result s = f s := rfl
@[simp] theorem final_read (s : σ) : (read f).final s = s := rfl

end

@[simp] theorem writes_mapErr (f : ε → ε') (m : Durable σ ε α) (s : σ) :
    (m.mapErr f).writes s = m.writes s := rfl

@[simp] theorem result_mapErr (f : ε → ε') (m : Durable σ ε α) (s : σ) :
    (m.mapErr f).result s = (m.result s).mapError f := rfl

@[simp] theorem final_mapErr (f : ε → ε') (m : Durable σ ε α) (s : σ) :
    (m.mapErr f).final s = m.final s := rfl

/-- The commits of a sequence are those of its parts, up to an error. -/
theorem writes_bind (m : Durable σ ε α) (f : α → Durable σ ε β) (s : σ) :
    (m >>= f).writes s = m.writes s ++
      (match m.result s with | .error _ => [] | .ok a => (f a).writes (m.final s)) := by
  change (Durable.bind m f s).1 = _
  unfold Durable.bind
  cases m.result s <;> simp

/-- A sequence returns what its second part does, unless the first fails. -/
theorem result_bind (m : Durable σ ε α) (f : α → Durable σ ε β) (s : σ) :
    (m >>= f).result s =
      match m.result s with | .error e => .error e | .ok a => (f a).result (m.final s) := by
  change (Durable.bind m f s).2 = _
  unfold Durable.bind
  cases m.result s <;> rfl

variable {m : Durable σ ε α}

/-- A sequence whose first part returns goes on from the store it left. -/
theorem bind_ok (h : m.result s = .ok a) :
    (m >>= f).writes s = m.writes s ++ (f a).writes (m.final s) ∧
      (m >>= f).result s = (f a).result (m.final s) := by
  simp [writes_bind, result_bind, h]

/-- A sequence whose first part fails stops there. -/
theorem bind_error (h : m.result s = .error e) :
    (m >>= f).writes s = m.writes s ∧ (m >>= f).result s = .error e := by
  simp [writes_bind, result_bind, h]

/-- Errors may be rewritten part by part. -/
theorem mapErr_bind (g : ε → ε') (m : Durable σ ε α) (f : α → Durable σ ε β) :
    (m >>= f).mapErr g = m.mapErr g >>= fun a => (f a).mapErr g := by
  funext s
  change (_, _) = Durable.bind _ _ s
  unfold Durable.bind
  rw [result_mapErr, writes_bind, result_bind]
  cases m.result s with
  | error e => exact Prod.ext (append_nil _) rfl
  | ok a => rfl

/-- Wrapping the value of a program adds no write. -/
theorem writes_map (m : Durable σ ε α) (f : α → β) (s : σ) :
    (m >>= fun a => Pure.pure (f a)).writes s = m.writes s := by
  rw [writes_bind]
  cases m.result s <;> simp

/-- A transaction that succeeds commits one store. -/
theorem transact_ok (h : f s = .ok (a, s')) :
    (transact f).writes s = [s'] ∧ (transact f).result s = .ok a := by
  simp [transact, writes, result, h]

/-- A transaction that fails commits nothing. -/
theorem transact_error (h : f s = .error e) :
    (transact f).writes s = [] ∧ (transact f).result s = .error e := by
  simp [transact, writes, result, h]

/-- The last store of two consecutive trails. -/
theorem getLastD_append (ws ws' : List σ) (s : σ) :
    (ws ++ ws').getLastD s = ws'.getLastD (ws.getLastD s) := by
  induction ws generalizing s with
  | nil => rfl
  | cons x ws ih => rw [cons_append, getLastD_cons, ih, getLastD_cons]

/-- The last store of a sequence is that of its second part. -/
theorem final_bind (h : m.result s = .ok a) : (m >>= f).final s = (f a).final (m.final s) := by
  simp only [final, (bind_ok h).1, getLastD_append]

/-! ## Complete runs -/

/-- A complete run of `m` from `s` returns `r` and leaves the store `s'`. -/
structure Yields (m : Durable σ ε α) (s : σ) (r : Except ε α) (s' : σ) : Prop where
  result : m.result s = r
  final : m.final s = s'

/-- The evaluation rules: one for each way to build a program. -/
theorem Yields.pure (a : α) (s : σ) : Yields (Pure.pure a : Durable σ ε α) s (.ok a) s := ⟨rfl, rfl⟩

theorem Yields.throw (e : ε) (s : σ) : Yields (throw e : Durable σ ε α) s (.error e) s := ⟨rfl, rfl⟩

theorem Yields.read (h : f s = r) :
    Yields (read f) s r s := ⟨h, rfl⟩

/-- A transaction commits its store. -/
theorem Yields.commit (h : f s = .ok (a, s')) : Yields (transact f) s (.ok a) s' :=
  ⟨(transact_ok h).2, by simp [Durable.final, (transact_ok h).1]⟩

/-- A failed transaction leaves the store. -/
theorem Yields.rollback (h : f s = .error e) : Yields (transact f) s (.error e) s :=
  ⟨(transact_error h).2, by simp [Durable.final, (transact_error h).1]⟩

/-- Rewriting the error changes only the reply. -/
theorem Yields.mapErr (h : Yields m s r s') (f : ε → ε') :
    Yields (m.mapErr f) s (r.mapError f) s' :=
  ⟨by rw [result_mapErr, h.result], by rw [final_mapErr, h.final]⟩

/-- The rule of sequences. -/
theorem Yields.bind (h : Yields m s (.ok a) s₁) (hf : Yields (f a) s₁ r s₂) :
    Yields (m >>= f) s r s₂ :=
  ⟨by rw [(bind_ok h.result).2, h.final, hf.result], by rw [final_bind h.result, h.final, hf.final]⟩

/-- A failed first part ends a sequence. -/
theorem Yields.abort (h : Yields m s (.error e) s') (f : α → Durable σ ε β) :
    Yields (m >>= f) s (.error e) s' :=
  ⟨(bind_error h.result).2, by rw [Durable.final, (bind_error h.result).1]; exact h.final⟩

/-! ## Calls and crashes -/

/-- What is observed of a call: the stores it made durable, and its result unless a crash cut it. -/
structure Observation (σ ε α : Type) where
  /-- The stores the call made durable, oldest first. -/
  trail : List σ
  /-- What the call returned, if it did. -/
  reply : Option (Except ε α)

/-- The store that a call leaves when it started from `s`. -/
def Observation.after (o : Observation σ ε α) (s : σ) : σ := o.trail.getLastD s

/-- `m.Exec s o`: a call of `m` from `s` may be observed as `o`, complete or cut after some
transactions. -/
inductive Exec (m : Durable σ ε α) (s : σ) : Observation σ ε α → Prop where
  | complete : Exec m s ⟨m.writes s, some (m.result s)⟩
  | crash {ws : List σ} : ws <+: m.writes s → Exec m s ⟨ws, none⟩

section
variable (h : m.Exec s o)
include h

/-- A crash leaves the first of the commits. -/
theorem Exec.trail_initial : o.trail <+: m.writes s := by
  cases h with
  | complete => exact prefix_rfl
  | crash h => exact h

/-- A call that returned ran to its end. -/
theorem Exec.of_reply (hr : o.reply = some r) :
    o.trail = m.writes s ∧ m.result s = r ∧ o.after s = m.final s := by
  cases h with
  | complete => exact ⟨rfl, by simpa using hr, rfl⟩
  | crash => simp at hr

/-- A call returns what its program returns, or nothing. -/
theorem Exec.reply_eq : o.reply = none ∨ o.reply = some (m.result s) := by
  cases h with
  | complete => exact .inr rfl
  | crash => exact .inl rfl

/-- A call of a program that writes nothing leaves the store. -/
theorem Exec.silent (hw : m.writes s = []) : o.trail = [] := by
  have hp := h.trail_initial
  rw [hw] at hp
  exact prefix_nil.1 hp

/-- A call of a program with one write does it, or is cut before it. -/
theorem Exec.single (hw : m.writes s = [s']) :
    o.trail = [s'] ∨ (o.trail = [] ∧ o.reply = none) := by
  cases h with
  | complete => exact .inl hw
  | crash hp =>
    rw [hw] at hp
    rcases prefix_cons_iff.1 hp with rfl | ⟨ws, rfl, hws⟩
    · exact .inr ⟨rfl, rfl⟩
    · obtain rfl := prefix_nil.1 hws
      exact .inl rfl

end

/-! ## Step guarantees -/

/-- The stores `ws`, committed in order from `s`, are each a `G` step from the one before. -/
def Guar (G : σ → σ → Prop) (s : σ) (ws : List σ) : Prop := List.IsChain G (s :: ws)

@[simp] theorem guar_nil (G : σ → σ → Prop) (s : σ) : Guar G s [] := isChain_singleton s

/-- A trail is a `G` chain step by step. -/
theorem guar_cons : Guar G s (s' :: ws) ↔ G s s' ∧ Guar G s' ws := isChain_cons_cons

/-- Two trails in a row are a `G` chain when each is. -/
theorem guar_append : Guar G s (ws ++ ws') ↔ Guar G s ws ∧ Guar G (ws.getLastD s) ws' := by
  induction ws generalizing s with
  | nil => simp
  | cons x ws ih =>
    rw [cons_append, guar_cons, guar_cons, ih, and_assoc, getLastD_cons]

/-- A crash keeps a guarantee: what is left of the trail is a `G` chain. -/
theorem Guar.initial (h : Guar G s ws) (hp : ws' <+: ws) : Guar G s ws' := by
  obtain ⟨r, rfl⟩ := hp
  exact (guar_append.1 h).1

/-- A property that every `G` step keeps holds of every store of a `G` trail. -/
theorem Guar.invariant (I : σ → Prop) (hI : ∀ s s', G s s' → I s → I s') (h : Guar G s ws)
    (hs : I s) : ∀ s' ∈ s :: ws, I s' := by
  induction ws generalizing s with
  | nil => simpa using hs
  | cons x ws ih =>
    obtain ⟨hx, hws⟩ := guar_cons.1 h
    intro s' hs'
    rcases mem_cons.1 hs' with rfl | hs'
    · exact hs
    · exact ih hws (hI s x hx hs) s' hs'

/-- `Spec P m G Q`: from a store with `P`, every transaction of `m` is a `G` step, and a value `a`
is returned with a store in `Q a`. -/
structure Spec (P : σ → Prop) (m : Durable σ ε α) (G : σ → σ → Prop) (Q : α → σ → Prop) :
    Prop where
  /-- Every transaction is a `G` step. -/
  guar : ∀ s, P s → Guar G s (m.writes s)
  /-- A returned value satisfies the postcondition. -/
  post : ∀ s a, P s → m.result s = .ok a → Q a (m.final s)

/-- The rule of a value: nothing is written. -/
theorem Spec.pure (h : ∀ s, P s → Q a s) : Spec P (pure a : Durable σ ε α) G Q where
  guar s _ := guar_nil G s
  post s b hs hb := by
    obtain rfl : a = b := by simpa using hb
    exact h s hs

/-- An error satisfies every specification. -/
theorem Spec.throw (e : ε) : Spec P (throw e : Durable σ ε α) G Q where
  guar s _ := guar_nil G s
  post s b _ hb := by simp at hb

/-- The rule of a read: nothing is written. -/
theorem Spec.read {f : σ → Except ε α} (h : ∀ s a, P s → f s = .ok a → Q a s) :
    Spec P (read f) G Q where
  guar s _ := guar_nil G s
  post s a hs ha := h s a hs ha

/-- The rule of a transaction: the store it commits is a `G` step with `Q`. -/
theorem Spec.transact {f : σ → Except ε (α × σ)}
    (h : ∀ s a s', P s → f s = .ok (a, s') → G s s' ∧ Q a s') : Spec P (transact f) G Q where
  guar s hs := by
    cases hf : f s with
    | error e => simp [(transact_error hf).1]
    | ok r =>
      obtain ⟨a, s'⟩ := r
      rw [(transact_ok hf).1, guar_cons]
      exact ⟨(h s a s' hs hf).1, guar_nil G s'⟩
  post s a hs ha := by
    cases hf : f s with
    | error e => simp [(transact_error hf).2] at ha
    | ok r =>
      obtain ⟨b, s'⟩ := r
      obtain rfl : b = a := by simpa [(transact_ok hf).2] using ha
      have hfin : (Durable.transact f).final s = s' := by simp [final, (transact_ok hf).1]
      rw [hfin]
      exact (h s b s' hs hf).2

/-- Rewriting the error keeps a specification. -/
theorem Spec.mapErr (h : Spec P m G Q) :
    Spec P (m.mapErr f) G Q where
  guar s hs := h.guar s hs
  post s a hs ha := by
    refine h.post s a hs ?_
    rw [result_mapErr] at ha
    cases hr : m.result s with
    | error e =>
      rw [hr] at ha
      cases ha
    | ok b =>
      rw [hr] at ha
      cases ha
      rfl

/-- The rule of sequences: the first part establishes what the second needs. -/
theorem Spec.bind (h : Spec P m G Q) (hf : ∀ a, Spec (Q a) (f a) G R) : Spec P (m >>= f) G R where
  guar s hs := by
    rw [writes_bind, guar_append]
    refine ⟨h.guar s hs, ?_⟩
    cases hr : m.result s with
    | error e => exact guar_nil _ _
    | ok a => exact (hf a).guar _ (h.post s a hs hr)
  post s b hs hb := by
    rw [result_bind] at hb
    cases hr : m.result s with
    | error e => simp [hr] at hb
    | ok a =>
      simp only [hr] at hb
      rw [final_bind hr]
      exact (hf a).post _ b (h.post s a hs hr) hb

/-- The rule of consequence. -/
theorem Spec.weaken (h : Spec P m G Q) (hP : ∀ s, P' s → P s) (hG : ∀ s s', G s s' → G' s s')
    (hQ : ∀ a s, Q a s → Q' a s) : Spec P' m G' Q' where
  guar s hs := (h.guar s (hP s hs)).imp (fun _ _ => hG _ _)
  post s a hs ha := hQ _ _ (h.post s a (hP s hs) ha)

/-- A fact that the precondition implies may be assumed for the whole program. -/
theorem Spec.assume (hF : ∀ s, P s → F) (h : F → Spec P m G Q) :
    Spec P m G Q where
  guar s hs := (h (hF s hs)).guar s hs
  post s a hs ha := (h (hF s hs)).post s a hs ha

/-- A guarantee that holds from each store separately holds from every store. -/
theorem Spec.pointwise {Q : σ → α → σ → Prop} (h : ∀ s₀, Spec (· = s₀) m G (Q s₀)) :
    Spec P m G (fun _ _ => True) where
  guar s _ := (h s).guar s rfl
  post _ _ _ _ := trivial

/-- Wrapping the value of a program keeps its guarantee. -/
theorem Spec.map (h : Spec P m G Q) (f : α → β) :
    Spec P (m >>= fun a => Pure.pure (f a)) G (fun b s => ∃ a, b = f a ∧ Q a s) :=
  h.bind fun a => Spec.pure fun _ hs => ⟨a, rfl, hs⟩

/-- **A call inherits the guarantee of its program**, whether it completes or a crash cuts it. -/
theorem Spec.exec (h : Spec P m G Q) (hs : P s) (ho : m.Exec s o) : Guar G s o.trail :=
  (h.guar s hs).initial ho.trail_initial

end Durable
