import Mathlib.Data.List.Dedup
import Ocservia.Controller.UserUsage

/-!
# Usage of VPN sessions, from the Agent to the totals

`build_telemetry` of the Agent puts the listed sessions of a node into a batch, and the Controller
adds up what it observes (`Ocservia.Controller.UserUsage`). A listing has neither the connection
times nor the counters of its sessions, so a session is accounted for as one session
(`OneAccounted`) only if it is listed at one time, before it transfers bytes (`agent_usage_iff`).
-/

namespace Ocservia.Usage

open Wire List

/-- A listing of the sessions, as ocserv has them, and when its batch is built. -/
structure Listing where
  batchId : Uuid
  now : Int
  sessions : List Sample
  distinct : (sessions.map Sample.sessionId).Nodup

/-- `build_telemetry`: the batch has neither connection times nor counters. -/
def Listing.batch (l : Listing) : Batch where
  id := l.batchId
  observedAt := l.now
  sessions := l.sessions.map fun v => { v with connected := l.now, bytes := fun _ => 0 }
  distinct := by simpa [Function.comp_def] using l.distinct

/-- The rows after the batches of an Agent. -/
def ingestAll (monthStart : Int → Int) (listings : List Listing) : Store :=
  listings.foldl (fun s l => (ingestTx monthStart s l.batch).getD s) {}

/-- The sessions with their listing times as ocserv has them, the newest first. -/
def readings (listings : List Listing) : Log :=
  (listings.flatMap fun l => l.sessions.map (l.now, ·)).reverse

/-- One VPN session is one accounted session. -/
structure OneAccounted (monthStart : Int → Int) (listings : List Listing) : Prop where
  /-- The batches have id, one connection time and counters of a session; the cursors are theirs. -/
  carried : ∃ time : String × Int → Int,
    (∀ l ∈ listings, l.batch.sessions =
      l.sessions.map fun v => { v with connected := time v.key }) ∧
    ∀ c ∈ (ingestAll monthStart listings).cursors, ∃ l ∈ listings, ∃ v ∈ l.sessions,
      c.key = (v.sessionId, time v.key)
  /-- There are no more cursors than sessions. -/
  bounded : (ingestAll monthStart listings).cursors.rows.length ≤
    ((listings.flatMap Listing.sessions).map Sample.key).dedup.length
  /-- The totals of a user are what the sessions have transferred. -/
  totals : ∀ u p d, (ingestAll monthStart listings).usage u p d =
    min (2 ^ 63 - 1) (total monthStart u p d (readings listings))

/-- A cursor that a listed session has: it connected when it was observed. -/
def Listed (listings : List Listing) (c : Cursor) : Prop :=
  ∃ l ∈ listings, ∃ v ∈ l.sessions,
    c = ⟨{ v with connected := l.now, bytes := fun _ => 0 }, l.now⟩

/-- What the Controller has of the listings. -/
structure Recorded (listings : List Listing) (s : Store) : Prop where
  cursors : ∀ c ∈ s.cursors, Listed listings c
  usage : ∀ u p d, s.usage u p d = 0

/-- A counter of zero never grows. -/
theorem total_of_zero (monthStart : Int → Int) (h : ∀ e ∈ log, e.2.bytes = fun _ => 0) :
    total monthStart u p d log = 0 := by
  induction log with
  | nil => rfl
  | cons e older ih =>
    obtain ⟨he, holder⟩ := forall_mem_cons.1 h
    simp [total, ih holder, he, growth]

/-- Every cursor is that of a listing, and nothing is counted. -/
theorem recorded_ingestAll (monthStart : Int → Int) (listings : List Listing) :
    Recorded listings (ingestAll monthStart listings) := by
  have h := ingested monthStart (listings.map Listing.batch)
  have hstore : ∀ (history : List Batch) (r : Store × Log),
      (history.foldl (observe monthStart) r).1 =
        history.foldl (fun s b => (ingestTx monthStart s b).getD s) r.1 := by
    intro history
    induction history with
    | nil => exact fun _ => rfl
    | cons b history ih => exact fun _ => ih _
  have hstore := hstore (listings.map Listing.batch) ({}, [])
  rw [foldl_map (g := fun s b => (ingestTx monthStart s b).getD s)] at hstore
  generalize (listings.map Listing.batch).foldl (observe monthStart) ({}, []) = r at h hstore
  have hlisted : ∀ e ∈ r.2, Listed listings ⟨e.2, e.1⟩ := by
    rintro ⟨t, x⟩ he
    obtain ⟨b, hb, rfl, hx⟩ := h.observed _ he
    obtain ⟨l, hl, rfl⟩ := mem_map.1 hb
    obtain ⟨v, hv, rfl⟩ := mem_map.1 hx
    exact ⟨l, hl, v, hv, rfl⟩
  unfold ingestAll
  rw [← hstore]
  refine ⟨fun c hc => ?_, fun u p d => ?_⟩
  · have hget := KeyedTable.get?_of_mem hc
    rw [h.cursors] at hget
    obtain ⟨e, he, rfl⟩ := Option.map_eq_some_iff.1 hget
    exact hlisted e (mem_of_latest he).1
  · rw [h.usage, total_of_zero]
    · rfl
    intro e he
    obtain ⟨_, -, _, -, hc⟩ := hlisted e he
    rw [(Cursor.mk.inj hc).1]

section
variable {listings : List Listing} {time : String × Int → Int}

/-- The batches describe the sessions exactly when each is listed at its connection time and
transferred nothing. -/
theorem batch_describes_iff :
    (∀ l ∈ listings, l.batch.sessions =
      l.sessions.map fun v => { v with connected := time v.key }) ↔
      ∀ l ∈ listings, ∀ v ∈ l.sessions, l.now = time v.key ∧ v.bytes = fun _ => 0 := by
  refine forall₂_congr fun l _ => ?_
  rw [Listing.batch, map_inj_left]
  refine forall₂_congr fun v _ => ?_
  simp only [Sample.mk.injEq, true_and, eq_comm (a := v.bytes)]

/-- The keys of the cursors are different, and each is that of a session. -/
theorem Recorded.length_le (h : Recorded listings s)
    (htime : ∀ l ∈ listings, ∀ v ∈ l.sessions, l.now = time v.key) :
    s.cursors.rows.length ≤ ((listings.flatMap Listing.sessions).map Sample.key).dedup.length := by
  have hsub : s.cursors.rows.map Cursor.key ⊆
      ((listings.flatMap Listing.sessions).map Sample.key).dedup.map fun k => (k.1, time k) := by
    intro k hk
    obtain ⟨c, hc, rfl⟩ := mem_map.1 hk
    obtain ⟨l, hl, v, hv, rfl⟩ := h.cursors c hc
    refine mem_map.2 ⟨v.key, ?_, by rw [← htime l hl v hv]⟩
    rw [mem_dedup]
    exact mem_map_of_mem (mem_flatMap.2 ⟨l, hl, hv⟩)
  simpa using (subperm_of_subset s.cursors.nodup hsub).length_le

/-- **When one VPN session is one accounted session.** A cursor has the time of a listing as its
connection time, and no total ever grows; so exactly when all its listings are at one time and it
has transferred nothing. -/
theorem agent_usage_iff (monthStart : Int → Int) (listings : List Listing) :
    (∀ c ∈ (ingestAll monthStart listings).cursors, c.sample.connected = c.observedAt ∧
      ∃ l ∈ listings, l.now = c.observedAt ∧ ∃ v ∈ l.sessions, v.sessionId = c.sample.sessionId) ∧
    (∀ u p d, (ingestAll monthStart listings).usage u p d = 0) ∧
    (OneAccounted monthStart listings ↔
      (∀ l ∈ listings, ∀ v ∈ l.sessions, ∀ l' ∈ listings, ∀ v' ∈ l'.sessions, v.key = v'.key →
        l.now = l'.now) ∧
      ∀ l ∈ listings, ∀ v ∈ l.sessions, v.bytes = fun _ => 0) := by
  have h := recorded_ingestAll monthStart listings
  refine ⟨fun c hc => ?_, h.usage, fun hone => ?_, fun ⟨hwhen, hzero⟩ => ?_⟩
  · obtain ⟨l, hl, v, hv, rfl⟩ := h.cursors c hc
    exact ⟨rfl, l, hl, rfl, v, hv, rfl⟩
  · obtain ⟨time, hbatch, -⟩ := hone.carried
    have hcarried := batch_describes_iff.1 hbatch
    refine ⟨fun l hl v hv l' hl' v' hv' hkey => ?_, fun l hl v hv => (hcarried l hl v hv).2⟩
    rw [(hcarried l hl v hv).1, (hcarried l' hl' v' hv').1, hkey]
  -- the listing time of a session is a function of the session
  have hlisted : ∀ k, ∃ t, ∀ l ∈ listings, ∀ v ∈ l.sessions, v.key = k → l.now = t := by
    intro k
    by_cases hk : ∃ l ∈ listings, ∃ v ∈ l.sessions, v.key = k
    · obtain ⟨l, hl, v, hv, rfl⟩ := hk
      exact ⟨l.now, fun l' hl' v' hv' hkey => hwhen l' hl' v' hv' l hl v hv hkey⟩
    · exact ⟨0, fun l hl v hv hkey => absurd ⟨l, hl, v, hv, hkey⟩ hk⟩
  choose time htime using hlisted
  have htime : ∀ l ∈ listings, ∀ v ∈ l.sessions, l.now = time v.key :=
    fun l hl v hv => htime v.key l hl v hv rfl
  refine ⟨⟨time, batch_describes_iff.2 fun l hl v hv => ⟨htime l hl v hv, hzero l hl v hv⟩, ?_⟩,
    h.length_le htime, fun u p d => ?_⟩
  · intro c hc
    obtain ⟨l, hl, v, hv, rfl⟩ := h.cursors c hc
    exact ⟨l, hl, v, hv, by rw [← htime l hl v hv]⟩
  · rw [h.usage, total_of_zero]
    · rfl
    intro e he
    obtain ⟨l, hl, hl'⟩ := mem_flatMap.1 (mem_reverse.1 he)
    obtain ⟨v, hv, rfl⟩ := mem_map.1 hl'
    exact hzero l hl v hv

end

/-- Two sessions, each listed once, before it transfers bytes. -/
def newSessions : List Listing :=
  [⟨.fill 1, 1, [⟨"1", "alice", 0, fun _ => 0⟩], by decide⟩,
    ⟨.fill 2, 2, [⟨"2", "bob", 1, fun _ => 0⟩], by decide⟩]

/-- Each of them is one accounted session. -/
theorem newSessions_accounted : OneAccounted (fun _ => 0) newSessions ∧
    (ingestAll (fun _ => 0) newSessions).cursors.rows.length = 2 := by
  refine ⟨(agent_usage_iff (fun _ => 0) newSessions).2.2.2 ⟨by decide, fun l hl v hv => ?_⟩,
    by decide +kernel⟩
  rcases mem_pair.1 hl with rfl | rfl
  all_goals
    obtain rfl := mem_singleton.1 hv
    rfl

/-- One session, listed in two seconds, with a thousand bytes each way. -/
def sampleListings : List Listing :=
  [⟨.fill 1, 1, [⟨"1", "alice", 0, fun _ => 1000⟩], by decide⟩,
    ⟨.fill 2, 2, [⟨"1", "alice", 0, fun _ => 1000⟩], by decide⟩]

/-- The session has two cursors, and its bytes are not counted. -/
theorem session_counted_twice : ¬ OneAccounted (fun _ => 0) sampleListings ∧
    (ingestAll (fun _ => 0) sampleListings).cursors.rows.length = 2 ∧
    (ingestAll (fun _ => 0) sampleListings).usage "alice" .lifetime .rx = 0 ∧
    total (fun _ => 0) "alice" .lifetime .rx (readings sampleListings) = 1000 :=
  ⟨fun h => absurd h.bounded (by decide +kernel), by decide +kernel⟩

end Ocservia.Usage
