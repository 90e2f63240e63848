import Mathlib.Data.List.Induction
import Mathlib.Data.List.Sort
import Mathlib.Data.Prod.Lex
import Ocservia.Contract.Text

/-!
# The telemetry buffer of the Agent

`command-journal/src/lib.rs`: telemetry batches wait in a table until the Controller takes them. An
insert may push the table over its limit of bytes; rows are then evicted, of the lowest priority the
oldest first (priority 1 is the highest). The table is a list in the order of eviction, which is the
order that the statement of the loop selects by. Every call is one transaction.
-/

namespace Ocservia

open Wire List

structure TelemetryRow where
  batchId : Uuid
  priority : Nat
  (observedAt expiresAt : Int)
  payload : Bytes
deriving DecidableEq

/-- `ORDER BY priority DESC,observed_at ASC,batch_id`. -/
def TelemetryRow.EvictedFirst (a b : TelemetryRow) : Prop :=
  toLex (-(a.priority : Int), toLex (a.observedAt, ofBe a.batchId.1)) ≤
    toLex (-(b.priority : Int), toLex (b.observedAt, ofBe b.batchId.1))

/-- `ORDER BY priority,observed_at,batch_id`. -/
def TelemetryRow.DeliveredFirst (a b : TelemetryRow) : Prop :=
  toLex (a.priority, toLex (a.observedAt, ofBe a.batchId.1)) ≤
    toLex (b.priority, toLex (b.observedAt, ofBe b.batchId.1))

open TelemetryRow

instance : DecidableRel EvictedFirst := fun _ _ => inferInstanceAs (Decidable (_ ≤ _))

instance : DecidableRel DeliveredFirst := fun _ _ => inferInstanceAs (Decidable (_ ≤ _))

instance : Std.Total EvictedFirst := ⟨fun _ _ => le_total _ _⟩

instance : IsTrans TelemetryRow EvictedFirst := ⟨fun _ _ _ => le_trans⟩

/-- The tables `telemetry_buffer` and `telemetry_drop_counters`. -/
structure TelemetryBuffer where
  rows : List TelemetryRow := []
  dropped : Nat → Nat := fun _ => 0
  sorted : rows.Pairwise EvictedFirst := by simp

/-- What became of the rows of a call. -/
structure Fates where
  stored : List TelemetryRow := []
  acknowledged : List TelemetryRow := []
  expired : List TelemetryRow := []
  evicted : List TelemetryRow := []

namespace TelemetryBuffer

def incrementDrop (dropped : Nat → Nat) (priority count : Nat) : Nat → Nat :=
  fun p => if p = priority then dropped p + count else dropped p

/-- The drops of rows, one by one. -/
def countDrops (dropped : Nat → Nat) (rows : List TelemetryRow) : Nat → Nat :=
  rows.foldl (fun dropped row => incrementDrop dropped row.priority 1) dropped

section
variable (b : TelemetryBuffer)

/-- `prune_expired_telemetry`, with the rows that it deletes. -/
def pruneExpired (now : Int) : TelemetryBuffer × List TelemetryRow :=
  let gone := fun row : TelemetryRow =>
    row.expiresAt ≤ now || row.observedAt ≤ max (now - 300) (-2 ^ 63)
  ({ rows := b.rows.filter (!gone ·)
     dropped := countDrops b.dropped (b.rows.filter gone)
     sorted := b.sorted.filter _ }, b.rows.filter gone)

/-- `SELECT coalesce(sum(length(payload)),0)`. -/
def totalBytes (rows : List TelemetryRow) : Nat := (rows.map (·.payload.length)).sum

/-- The loop of `enqueue_telemetry`: the rows that it evicts, and the others. -/
def evict (maxBytes : Nat) : List TelemetryRow → List TelemetryRow × List TelemetryRow
  | [] => ([], [])
  | row :: rows =>
    if totalBytes (row :: rows) ≤ maxBytes then ([], row :: rows)
    else (row :: (evict maxBytes rows).1, (evict maxBytes rows).2)

theorem evict_append (maxBytes : Nat) (rows : List TelemetryRow) :
    (evict maxBytes rows).1 ++ (evict maxBytes rows).2 = rows := by
  induction rows with
  | nil => rfl
  | cons row rows ih =>
    unfold evict
    split
    · rfl
    · simp [ih]

theorem sorted_evict {rows : List TelemetryRow} (h : rows.Pairwise EvictedFirst) :
    (evict maxBytes rows).2.Pairwise EvictedFirst := by
  rw [← evict_append maxBytes rows] at h
  exact (pairwise_append.mp h).2.1

/-- `INSERT ... ON CONFLICT(batch_id) DO NOTHING`. -/
def insert (row : TelemetryRow) : List TelemetryRow × TelemetryBuffer :=
  if b.rows.any (·.batchId = row.batchId) then ([], b)
  else ([row], { b with
    rows := b.rows.orderedInsert EvictedFirst row
    sorted := b.sorted.orderedInsert row b.rows })

/-- The loop on the tables. -/
def evictExcess (maxBytes : Nat) : List TelemetryRow × TelemetryBuffer :=
  ((evict maxBytes b.rows).1,
    { rows := (evict maxBytes b.rows).2
      dropped := countDrops b.dropped (evict maxBytes b.rows).1
      sorted := sorted_evict b.sorted })

/-- Whether the batch was retained, the buffer, and what became of the rows. -/
def enqueueTelemetry (row : TelemetryRow) (now : Int) (maxBytes : Nat) :
    Option (Bool × TelemetryBuffer × Fates) :=
  if !(1 ≤ row.priority && row.priority ≤ 4) || row.payload.isEmpty ||
      512 * 1024 < row.payload.length || row.expiresAt ≤ row.observedAt || maxBytes == 0 then none
  else
    let (b, expired) := b.pruneExpired now
    let (stored, b) := b.insert row
    let (evicted, b) := b.evictExcess maxBytes
    some (b.rows.any (·.batchId = row.batchId), b, { stored, expired, evicted })

def telemetryPending (limit : Nat) (now : Int) :
    Option (List (Uuid × Bytes) × TelemetryBuffer × Fates) :=
  if limit = 0 ∨ 256 < limit then none
  else
    let (b, expired) := b.pruneExpired now
    let pending := (b.rows.insertionSort DeliveredFirst).take limit
    some (pending.map fun row => (row.batchId, row.payload), b, { expired })

def acknowledgeTelemetry (batchId : Uuid) : TelemetryBuffer × Fates :=
  ({ b with rows := b.rows.filter (·.batchId ≠ batchId), sorted := b.sorted.filter _ },
    { acknowledged := b.rows.filter (·.batchId = batchId) })

end

/-! ## Runs -/

inductive Call where
  | enqueue (row : TelemetryRow) (now : Int) (maxBytes : Nat)
  | pending (limit : Nat) (now : Int)
  | acknowledge (batchId : Uuid)

/-- A call; one that fails changes nothing. -/
def call (b : TelemetryBuffer) : Call → TelemetryBuffer × Fates
  | .enqueue row now maxBytes => ((b.enqueueTelemetry row now maxBytes).map (·.2)).getD (b, {})
  | .pending limit now => ((b.telemetryPending limit now).map (·.2)).getD (b, {})
  | .acknowledge batchId => b.acknowledgeTelemetry batchId

/-- The buffer after calls, and what became of every row. -/
def run : List Call → TelemetryBuffer × Fates :=
  List.foldl (fun (b, f) c =>
    let (b, g) := b.call c
    (b, ⟨f.stored ++ g.stored, f.acknowledged ++ g.acknowledged, f.expired ++ g.expired,
      f.evicted ++ g.evicted⟩)) ({}, {})

/-- Every row is in the buffer or has one fate; expired and evicted rows are counted. -/
structure Accounts (b b' : TelemetryBuffer) (f : Fates) : Prop where
  rows : (b.rows ++ f.stored).Perm (b'.rows ++ f.acknowledged ++ f.expired ++ f.evicted)
  dropped : ∀ p, b'.dropped p = b.dropped p + (f.expired ++ f.evicted).countP (·.priority = p)

theorem countDrops_apply : ∀ (rows : List TelemetryRow) (dropped : Nat → Nat) (p : Nat),
    countDrops dropped rows p = dropped p + rows.countP (·.priority = p)
  | [], _, _ => rfl
  | row :: rows, dropped, p => by
    rw [countDrops, foldl_cons, ← countDrops, countDrops_apply rows, countP_cons]
    unfold incrementDrop
    by_cases h : p = row.priority
    · simp only [h, if_true, decide_true]
      omega
    · simp [h, Ne.symm h]

theorem Accounts.refl (b : TelemetryBuffer) : Accounts b b {} := by
  constructor <;> simp

theorem Accounts.trans (h : Accounts b b' f) (h' : Accounts b' b'' g) :
    Accounts b b'' ⟨f.stored ++ g.stored, f.acknowledged ++ g.acknowledged,
      f.expired ++ g.expired, f.evicted ++ g.evicted⟩ := by
  constructor
  · rw [perm_iff_count]
    intro row
    have := h.rows.count_eq row
    have := h'.rows.count_eq row
    simp only [count_append] at *
    omega
  · intro p
    have := h.dropped p
    have := h'.dropped p
    simp only [countP_append] at *
    omega

theorem pruneExpired_accounts (b : TelemetryBuffer) (now : Int) :
    Accounts b (b.pruneExpired now).1 { expired := (b.pruneExpired now).2 } where
  rows := by
    have := filter_append_perm (fun row : TelemetryRow =>
      row.expiresAt ≤ now || row.observedAt ≤ max (now - 300) (-2 ^ 63)) b.rows
    simpa [pruneExpired] using this.symm.trans perm_append_comm
  dropped p := by simp [pruneExpired, countDrops_apply]

theorem insert_accounts (b : TelemetryBuffer) (row : TelemetryRow) :
    Accounts b (b.insert row).2 { stored := (b.insert row).1 } := by
  unfold insert
  split
  · exact .refl b
  · refine ⟨?_, by simp⟩
    simpa using perm_append_comm.trans (perm_orderedInsert EvictedFirst row b.rows).symm

theorem evictExcess_accounts (b : TelemetryBuffer) (maxBytes : Nat) :
    Accounts b (b.evictExcess maxBytes).2 { evicted := (b.evictExcess maxBytes).1 } where
  rows := by
    have := (List.Perm.of_eq (evict_append maxBytes b.rows).symm).trans perm_append_comm
    simpa [evictExcess] using this
  dropped p := by simp [evictExcess, countDrops_apply]

/-- An accepted insert prunes, inserts and evicts. -/
theorem enqueueTelemetry_spec
    (h : enqueueTelemetry b row now maxBytes = some (retained, b', f)) :
    Accounts b b' f ∧ ∃ b₁ : TelemetryBuffer, (f.evicted, b') = b₁.evictExcess maxBytes := by
  unfold enqueueTelemetry at h
  split at h
  · cases h
  simp only [Option.some.injEq, Prod.mk.injEq] at h
  obtain ⟨-, rfl, rfl⟩ := h
  refine ⟨?_, _, rfl⟩
  have hpruned := (b.pruneExpired_accounts now).trans (insert_accounts _ row)
  simpa only [append_nil, nil_append] using
    hpruned.trans (evictExcess_accounts _ maxBytes)

theorem call_accounts (b : TelemetryBuffer) (c : Call) : Accounts b (b.call c).1 (b.call c).2 := by
  cases c with
  | enqueue row now maxBytes =>
    cases h : b.enqueueTelemetry row now maxBytes with
    | none => simpa [call, h] using Accounts.refl b
    | some r => simpa [call, h] using (enqueueTelemetry_spec h).1
  | pending limit now =>
    by_cases h : limit = 0 ∨ 256 < limit
    · simpa [call, telemetryPending, h] using Accounts.refl b
    · simpa [call, telemetryPending, h] using b.pruneExpired_accounts now
  | acknowledge batchId =>
    refine ⟨?_, by simp [call, acknowledgeTelemetry]⟩
    have := filter_append_perm (fun row : TelemetryRow => row.batchId = batchId) b.rows
    simpa [call, acknowledgeTelemetry] using this.symm.trans perm_append_comm

theorem run_accounts (calls : List Call) : Accounts {} (run calls).1 (run calls).2 := by
  induction calls using reverseRecOn with
  | nil => exact .refl _
  | append_singleton calls c ih =>
    rw [run, foldl_concat]
    exact ih.trans (call_accounts _ c)

/-- The loop stops at the limit, and a row goes only when it and the rows after it exceed it. -/
theorem evict_spec {rows : List TelemetryRow} : totalBytes (evict maxBytes rows).2 ≤ maxBytes ∧
    ∀ pre row post, (evict maxBytes rows).1 = pre ++ row :: post →
      maxBytes < totalBytes (row :: post ++ (evict maxBytes rows).2) := by
  induction rows with
  | nil => simp [evict, totalBytes]
  | cons first rows ih =>
    unfold evict
    split
    · exact ⟨‹_›, by simp⟩
    refine ⟨ih.1, fun pre row post h => ?_⟩
    cases pre with
    | nil =>
      cases h
      rw [cons_append, evict_append]
      omega
    | cons _ pre =>
      exact ih.2 pre row post (cons.inj h).2

/-- Each stored row is pending or has exactly one other fate, and the counters of drops count the
expired and the evicted rows once. An accepted insert ends within the limit of bytes, and evicts the
lowest and oldest rows only while the limit is exceeded. -/
theorem telemetry_buffer_accounts :
    (∀ calls, Accounts {} (run calls).1 (run calls).2) ∧
    ∀ b row now maxBytes retained b' f,
      enqueueTelemetry b row now maxBytes = some (retained, b', f) →
      totalBytes b'.rows ≤ maxBytes ∧
      ∀ pre r post, f.evicted = pre ++ r :: post →
        maxBytes < totalBytes (r :: post ++ b'.rows) ∧ ∀ x ∈ post ++ b'.rows, r.EvictedFirst x := by
  refine ⟨run_accounts, fun b row now maxBytes retained b' f h => ?_⟩
  obtain ⟨-, b₁, hevict⟩ := enqueueTelemetry_spec h
  obtain ⟨hfate, rfl⟩ := Prod.mk.inj hevict
  rw [hfate]
  refine ⟨evict_spec.1, fun pre r post hevicted => ⟨evict_spec.2 pre r post hevicted, ?_⟩⟩
  have hsorted := b₁.sorted
  rw [← evict_append maxBytes b₁.rows, hevicted, append_assoc] at hsorted
  exact (pairwise_cons.mp (pairwise_append.mp hsorted).2.1).1

def sampleRow (id : UInt8) (priority : Nat) (observedAt : Int) (bytes : Nat) : TelemetryRow :=
  ⟨.fill id, priority, observedAt, 1000, List.replicate bytes 0⟩

/-- An older row is evicted and then the row that was to be admitted as well. -/
theorem evicted_in_vain :
    let before := run [.enqueue (sampleRow 1 1 100 5) 100 8, .enqueue (sampleRow 2 4 101 3) 101 8]
    ((before.1.enqueueTelemetry (sampleRow 3 4 102 4) 102 8).map fun (retained, b, f) =>
      (retained, b.rows, f.evicted)) =
    some (false, [sampleRow 1 1 100 5], [sampleRow 2 4 101 3, sampleRow 3 4 102 4]) := by
  decide

/-- The eviction of the two rows: the older one goes first, and the rest fits. -/
theorem sampleRow_enqueued :
    let before := run [.enqueue (sampleRow 1 1 100 5) 100 8, .enqueue (sampleRow 2 4 101 3) 101 8]
    ∃ b f, before.1.enqueueTelemetry (sampleRow 3 4 102 4) 102 8 = some (false, b, f) ∧
      f.evicted = [sampleRow 2 4 101 3, sampleRow 3 4 102 4] ∧ totalBytes b.rows ≤ 8 ∧
      (sampleRow 2 4 101 3).EvictedFirst (sampleRow 3 4 102 4) := by
  intro before
  obtain ⟨b, f, h, hevicted⟩ : ∃ b f, before.1.enqueueTelemetry (sampleRow 3 4 102 4) 102 8 =
      some (false, b, f) ∧ f.evicted = [sampleRow 2 4 101 3, sampleRow 3 4 102 4] :=
    ⟨_, _, rfl, rfl⟩
  obtain ⟨hfits, horder⟩ := telemetry_buffer_accounts.2 _ _ _ _ _ _ _ h
  exact ⟨b, f, h, hevicted, hfits, (horder [] _ _ hevicted).2 _ (by simp)⟩

end TelemetryBuffer

end Ocservia
