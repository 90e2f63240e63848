import Mathlib.Algebra.BigOperators.Group.Finset.Piecewise
import Mathlib.Algebra.Order.BigOperators.Group.Finset
import Ocservia.Contract.Text
import Ocservia.Lib.KeyedTable

/-!
# Usage of VPN sessions

`ingestTx` of `telemetry/service.go` takes the sessions of a batch that is newer than the snapshot
of the node, and `RecordTx` of `userusage/usage.go` adds to the totals of a user what a session has
grown by since its cursor: the last reading under its id and connection time. Times are in
microseconds, as the database keeps them.

The log of a history has the sessions of the batches that updated the snapshot, as they were
observed (`observe`). What the log says each session has grown by is what the totals are
(`usage_exact`).
-/

namespace Ocservia.Usage

open Wire Finset Option List

inductive Direction where
  | rx | tx

/-- `SessionObservation`, and the sample that the Controller makes of it. -/
structure Sample where
  (sessionId username : String)
  connected : Int
  bytes : Direction → Nat

abbrev Sample.key (x : Sample) : String × Int := (x.sessionId, x.connected)

/-- A batch that `validateBatch` accepts: no two of its sessions have one id. -/
structure Batch where
  id : Uuid
  observedAt : Int
  sessions : List Sample
  distinct : (sessions.map Sample.sessionId).Nodup

/-- A row of `user_usage_cursors`. -/
structure Cursor where
  sample : Sample
  observedAt : Int

abbrev Cursor.key (c : Cursor) : String × Int := c.sample.key

inductive Period where
  | monthly (start : Int)
  | lifetime
  deriving DecidableEq

/-- The rows of one node. A user without a row in `observed_user_usage` has used nothing. -/
structure Store where
  batches : List Uuid := []
  snapshot : Option Int := none
  cursors : KeyedTable (String × Int) Cursor Cursor.key := ∅
  usage : String → Period → Direction → Nat := fun _ _ _ => 0

def addUsage (s : Store) (username : String) (period : Period) (delta : Direction → Nat) : Store :=
  { s with usage := fun u p d =>
      if u = username ∧ p = period then min (2 ^ 63 - 1) (s.usage u p d + delta d)
      else s.usage u p d }

/-- The growth of a counter. A lower reading is a counter that has started again. -/
def growth (prior current : Nat) : Nat := if current < prior then current else current - prior

section
variable (monthStart : Int → Int)

/-- One round of the loop of `RecordTx`; `none` is `ErrInvalidSample`. -/
def recordSample (observed : Int) (s : Store) (x : Sample) : Option Store :=
  let prior := s.cursors.get? x.key
  if prior.any (observed ≤ ·.observedAt) then some s
  else if prior.any (·.sample.username ≠ x.username) then none
  else
    let delta := fun d => growth (prior.elim 0 (·.sample.bytes d)) (x.bytes d)
    let s := { s with cursors := s.cursors.upsert ⟨x, observed⟩ }
    some (addUsage (addUsage s x.username (.monthly (monthStart observed)) delta)
      x.username .lifetime delta)

def recordTx (observed : Int) (s : Store) (samples : List Sample) : Option Store :=
  samples.foldlM (recordSample monthStart observed) s

/-- `ingestTx`; `none` rolls the transaction back. -/
def ingestTx (s : Store) (b : Batch) : Option Store :=
  if b.id ∈ s.batches then some s
  else
    let s := { s with batches := b.id :: s.batches }
    if s.snapshot.any (b.observedAt ≤ ·) then some s
    else recordTx monthStart b.observedAt { s with snapshot := some b.observedAt } b.sessions

/-! ## The observations behind the totals -/

/-- Sessions with the time of their batch, the newest first. -/
abbrev Log := List (Int × Sample)

/-- A batch after others, and what it adds to the observations. -/
def observe (r : Store × Log) (b : Batch) : Store × Log :=
  let s := (ingestTx monthStart r.1 b).getD r.1
  (s, if s.snapshot = r.1.snapshot then r.2
    else (b.sessions.map (b.observedAt, ·)).reverse ++ r.2)

def Period.covers (time : Int) : Period → Bool
  | .monthly start => start = monthStart time
  | .lifetime => true

/-- The last observation of a session. -/
def latest (k : String × Int) (log : Log) : Option (Int × Sample) := log.find? (·.2.key = k)

/-- What the sessions of a user have grown by in a period, each from its observation before. -/
def total (u : String) (p : Period) (d : Direction) : Log → Nat
  | [] => 0
  | (t, x) :: older => total u p d older +
      if u = x.username ∧ p.covers monthStart t then
        growth ((latest x.key older).elim 0 (·.2.bytes d)) (x.bytes d) else 0

end

variable {monthStart : Int → Int} {s s' : Store} {log : Log}

/-- The rows hold what has been observed. -/
structure Accounted (monthStart : Int → Int) (log : Log) (s : Store) : Prop where
  cursors : ∀ k, s.cursors.get? k = (latest k log).map fun e => ⟨e.2, e.1⟩
  usage : ∀ u p d, s.usage u p d = min (2 ^ 63 - 1) (total monthStart u p d log)

theorem mem_of_latest (h : latest k log = some e) : e ∈ log ∧ e.2.key = k :=
  ⟨mem_of_find?_eq_some h, by simpa using find?_some h⟩

theorem total_le_append (monthStart : Int → Int) (u : String) (p : Period) (d : Direction)
    (new log : Log) : total monthStart u p d log ≤ total monthStart u p d (new ++ log) := by
  induction new with
  | nil => exact le_rfl
  | cons e new ih => exact ih.trans (Nat.le_add_right _ _)

/-- A round of `RecordTx` accounts for a later sample, unless the session had another user. -/
theorem Accounted.recordSample (h : Accounted monthStart log s)
    (hlate : ∀ e ∈ log, e.2.key = x.key → e.1 < t) :
    (recordSample monthStart t s x = none ∧
      ∃ e ∈ log, e.2.key = x.key ∧ e.2.username ≠ x.username) ∨
    ∃ s', recordSample monthStart t s x = some s' ∧ Accounted monthStart ((t, x) :: log) s' ∧
      s'.snapshot = s.snapshot := by
  unfold Usage.recordSample
  dsimp only
  rw [h.cursors]
  split
  next hold =>
    obtain ⟨c, hc, hle⟩ := (any_eq_true _ _).1 hold
    obtain ⟨e, he, rfl⟩ := map_eq_some_iff.1 hc
    exact absurd (hlate e (mem_of_latest he).1 (mem_of_latest he).2)
      (not_lt.2 (of_decide_eq_true hle))
  split
  next hname =>
    obtain ⟨c, hc, hne⟩ := (any_eq_true _ _).1 hname
    obtain ⟨e, he, rfl⟩ := map_eq_some_iff.1 hc
    exact .inl ⟨rfl, e, (mem_of_latest he).1, (mem_of_latest he).2, of_decide_eq_true hne⟩
  refine .inr ⟨_, rfl, ⟨fun k => ?_, fun u p d => ?_⟩, rfl⟩
  · show (s.cursors.upsert ⟨x, t⟩).get? k = _
    rw [KeyedTable.get?_upsert, h.cursors k]
    by_cases hk : k = x.key
    · simp [hk, latest]
    · simp [hk, Ne.symm hk, latest]
  · have hprior :
        ((latest x.key log).map fun e => (⟨e.2, e.1⟩ : Cursor)).elim 0 (·.sample.bytes d) =
        (latest x.key log).elim 0 (·.2.bytes d) := by
      cases latest x.key log <;> rfl
    have hold := h.usage u p d
    rw [total, ← hprior]
    by_cases hu : u = x.username
    · cases p with
      | lifetime | monthly m =>
        simp only [addUsage, hu, Period.covers]
        split_ifs
        all_goals
          simp_all
          try omega
    · simp [addUsage, hu, hold]

/-- `RecordTx` accounts for the samples of a later batch, unless a session had another user. -/
theorem Accounted.recordTx (h : Accounted monthStart log s)
    (hdistinct : (samples.map Sample.sessionId).Nodup)
    (hlate : ∀ e ∈ log, ∀ x ∈ samples, e.2.key = x.key → e.1 < t) :
    (recordTx monthStart t s samples = none ∧
      ∃ x ∈ samples, ∃ e ∈ log, e.2.key = x.key ∧ e.2.username ≠ x.username) ∨
    ∃ s', recordTx monthStart t s samples = some s' ∧
      Accounted monthStart ((samples.map (t, ·)).reverse ++ log) s' ∧ s'.snapshot = s.snapshot := by
  induction samples generalizing s log with
  | nil => exact .inr ⟨s, rfl, h, rfl⟩
  | cons x rest ih =>
    rw [List.map_cons, List.nodup_cons] at hdistinct
    have hx : ∀ y ∈ rest, x.key ≠ y.key := fun y hy e =>
      hdistinct.1 (mem_map.2 ⟨y, hy, (congrArg Prod.fst e).symm⟩)
    unfold Usage.recordTx
    rw [foldlM_cons]
    obtain ⟨hnone, e, he, hne⟩ | ⟨s₁, hsome, h₁, hsnap₁⟩ :=
      h.recordSample (x := x) fun e he => hlate e he x mem_cons_self
    · exact .inl ⟨by rw [hnone]; rfl, x, mem_cons_self, e, he, hne⟩
    rw [hsome]
    obtain ⟨hnone, y, hy, e, he, hne⟩ | ⟨s', hsome', h', hsnap⟩ :=
      ih h₁ hdistinct.2 (forall_mem_cons.2 ⟨fun y hy e => (hx y hy e).elim,
        fun e he y hy => hlate e he y (mem_cons_of_mem _ hy)⟩)
    · refine .inl ⟨hnone, y, mem_cons_of_mem _ hy, e, ?_, hne⟩
      refine (mem_cons.1 he).resolve_left ?_
      rintro rfl
      exact hx y hy hne.1
    · exact .inr ⟨s', hsome', by simpa using h', hsnap.trans hsnap₁⟩

/-! ## Every sequence of batches -/

/-- The rows and the observations after a sequence of batches. -/
structure Ingested (monthStart : Int → Int) (history : List Batch) (r : Store × Log) : Prop
    extends Accounted monthStart r.2 r.1 where
  newest : ∀ e ∈ r.2, ∃ n ∈ r.1.snapshot, e.1 ≤ n
  observed : ∀ e ∈ r.2, ∃ b ∈ history, e.1 = b.observedAt ∧ e.2 ∈ b.sessions

/-- A batch is a repeat or too old, or one of its sessions had another user, or its sessions are
observed, later than all before. -/
def Takes (r : Store × Log) (b : Batch) (log : Log) : Prop :=
  log = r.2 ∧ (b.id ∈ r.1.batches ∨ (∃ n ∈ r.1.snapshot, b.observedAt ≤ n) ∨
      ∃ x ∈ b.sessions, ∃ e ∈ r.2, e.2.key = x.key ∧ e.2.username ≠ x.username) ∨
    log = (b.sessions.map (b.observedAt, ·)).reverse ++ r.2 ∧ ∀ e ∈ r.2, e.1 < b.observedAt

theorem Ingested.observe (h : Ingested monthStart history r) (b : Batch) :
    Ingested monthStart (history ++ [b]) (observe monthStart r b) ∧
      Takes r b (observe monthStart r b).2 := by
  obtain ⟨s, log⟩ := r
  have hold : ∀ e ∈ log, ∃ b' ∈ history ++ [b], e.1 = b'.observedAt ∧ e.2 ∈ b'.sessions := by
    intro e he
    obtain ⟨b', hb', hsample⟩ := h.observed e he
    exact ⟨b', mem_append_left _ hb', hsample⟩
  have hkept : Ingested monthStart (history ++ [b]) (s, log) := ⟨h.toAccounted, h.newest, hold⟩
  have hsame : Accounted monthStart log { s with
      batches := b.id :: s.batches, snapshot := some b.observedAt } := ⟨h.cursors, h.usage⟩
  unfold Usage.observe ingestTx
  dsimp only
  by_cases hrepeat : b.id ∈ s.batches
  · simp only [if_pos hrepeat, getD_some, if_true]
    exact ⟨hkept, .inl ⟨rfl, .inl hrepeat⟩⟩
  by_cases holder : s.snapshot.any (b.observedAt ≤ ·)
  · simp only [if_neg hrepeat, if_pos holder, getD_some, if_true]
    obtain ⟨n, hn, hle⟩ := (any_eq_true _ _).1 holder
    exact ⟨⟨⟨h.cursors, h.usage⟩, h.newest, hold⟩,
      .inl ⟨rfl, .inr (.inl ⟨n, hn, of_decide_eq_true hle⟩)⟩⟩
  rw [if_neg hrepeat, if_neg holder]
  have hlate : ∀ e ∈ log, e.1 < b.observedAt := by
    intro e he
    obtain ⟨n, hn, hle⟩ := h.newest e he
    by_contra hnot
    exact holder ((any_eq_true _ _).2 ⟨n, hn, decide_eq_true (by omega)⟩)
  obtain ⟨hnone, hbad⟩ | ⟨s', hsome, hacc, hsnap⟩ :=
    hsame.recordTx b.distinct fun e he _ _ _ => hlate e he
  · simp only [hnone, getD_none, if_true]
    exact ⟨hkept, .inl ⟨rfl, .inr (.inr hbad)⟩⟩
  have hnew : ¬ s'.snapshot = s.snapshot := by
    rw [hsnap]
    intro heq
    exact holder (by simp [← heq])
  simp only [hsome, getD_some, if_neg hnew]
  refine ⟨⟨hacc, fun e he => ⟨b.observedAt, hsnap, ?_⟩, fun e he => ?_⟩, .inr ⟨rfl, hlate⟩⟩
  all_goals rcases mem_append.1 he with he | he
  · obtain ⟨x, -, rfl⟩ := mem_map.1 (mem_reverse.1 he)
    exact le_rfl
  · exact (hlate e he).le
  · obtain ⟨x, hx, rfl⟩ := mem_map.1 (mem_reverse.1 he)
    exact ⟨b, by simp, rfl, hx⟩
  · exact hold e he

theorem ingested (monthStart : Int → Int) (history : List Batch) :
    Ingested monthStart history (history.foldl (Usage.observe monthStart) ({}, [])) := by
  induction history using reverseRecOn with
  | nil => exact ⟨⟨fun _ => rfl, fun _ _ _ => rfl⟩, nofun, nofun⟩
  | append_singleton history b ih =>
    rw [foldl_append]
    exact (ih.observe b).1

/-! ## Months -/

section
variable {M : Finset Int}

/-- Each increase falls into one month. -/
theorem sum_total (hM : ∀ e ∈ log, monthStart e.1 ∈ M) :
    ∑ m ∈ M, total monthStart u (.monthly m) d log = total monthStart u .lifetime d log := by
  induction log with
  | nil => simp [total]
  | cons e older ih =>
    obtain ⟨he, holder⟩ := forall_mem_cons.1 hM
    by_cases hu : u = e.2.username
    · simp [total, Period.covers, sum_add_distrib, ih holder, ← hu, he]
    · simp [total, ih holder, hu]

/-- Without saturation the months of a user add up to the lifetime. -/
theorem Accounted.sum_months (h : Accounted monthStart log s)
    (hM : ∀ e ∈ log, monthStart e.1 ∈ M) (hmax : s.usage u .lifetime d < 2 ^ 63 - 1) :
    ∑ m ∈ M, s.usage u (.monthly m) d = s.usage u .lifetime d := by
  have hlife := h.usage u .lifetime d
  have hsum : ∑ m ∈ M, total monthStart u (.monthly m) d log = s.usage u .lifetime d := by
    rw [sum_total hM]
    omega
  rw [← hsum]
  refine sum_congr rfl fun m hm => ?_
  rw [h.usage]
  have hle := single_le_sum (f := fun m => total monthStart u (.monthly m) d log)
    (fun _ _ => Nat.zero_le _) hm
  omega

end

/-- Usage accounting is exact: each total is what the sessions of the user have grown by between
their observations, up to the largest counter; below it the months add up to the lifetime; with the
next batch no total decreases, a repeated or older batch is not observed, and a newer one is unless
it gives a session to another user. -/
theorem usage_exact (monthStart : Int → Int) (history : List Batch) :
    let r := history.foldl (observe monthStart) ({}, [])
    (∀ e ∈ r.2, ∃ b ∈ history, e.1 = b.observedAt ∧ e.2 ∈ b.sessions) ∧
    (∀ u p d, r.1.usage u p d = min (2 ^ 63 - 1) (total monthStart u p d r.2)) ∧
    (∀ u d, r.1.usage u .lifetime d < 2 ^ 63 - 1 →
      ∑ m ∈ (r.2.map (monthStart ·.1)).toFinset, r.1.usage u (.monthly m) d =
        r.1.usage u .lifetime d) ∧
    ∀ b, (∀ u p d, r.1.usage u p d ≤ (observe monthStart r b).1.usage u p d) ∧
      Takes r b (observe monthStart r b).2 := by
  intro r
  have h : Ingested monthStart history r := ingested monthStart history
  refine ⟨h.observed, h.usage, fun u d hmax => ?_, fun b => ⟨fun u p d => ?_, (h.observe b).2⟩⟩
  · refine h.sum_months (fun e he => ?_) hmax
    exact mem_toFinset.2 (mem_map.2 ⟨e, he, rfl⟩)
  · obtain ⟨new, hnew⟩ : ∃ new, (observe monthStart r b).2 = new ++ r.2 := by
      rcases (h.observe b).2 with ⟨hlog, -⟩ | ⟨hlog, -⟩
      · exact ⟨[], hlog⟩
      · exact ⟨_, hlog⟩
    rw [h.usage, (h.observe b).1.usage, hnew]
    have := total_le_append monthStart u p d new r.2
    omega

end Ocservia.Usage
