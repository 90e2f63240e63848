import Ocservia.Controller.UserState

/-!
# Revisions of a user or group

The commands on one user or group of a node, under every interleaving of mutations, dispatch,
results, expiry and supersession (`userSystem`). A mutation takes a new revision only when the
command of the current one succeeded, or when that command is still queued and a worker holds it. In
the second case the revision is passed before its outcome is known. While no passed revision is
abandoned, a command is claimed only behind a revision that succeeded (`claim_follows_success`); a
released dispatch that expires leaves a gap (`released_dispatch_leaves_gap`).
-/

namespace Ocservia

open List ResourceCommand Mutation Command Option Nat

/-! ## The system -/

/-- The rows of the resource, with the mutation that has the resource locked. -/
structure UserWorld where
  now : Time
  rows : ResourceRows
  mutation : Option Mutation

/-- What happens to the resource. -/
inductive UserEvent where
  | tick (later : Time)
  | begin (request : MutationRequest) (safeRejected : Bool)
  | commit
  | abort
  | command (i : Nat) (event : CommandEvent)

namespace ResourceRows

/-- `DispatchCandidates` and `ClaimDispatch` ask that no earlier revision is open and that the node
has no lease. -/
def Dispatchable (rows : ResourceRows) (rc : ResourceCommand) : Prop :=
  (∀ prior ∈ rows.commands, prior.expectedVersion < rc.expectedVersion →
    prior.command.state.mutable = false) ∧ ∀ other ∈ rows.commands, other.command.lease = none

instance (rows : ResourceRows) (rc : ResourceCommand) : Decidable (rows.Dispatchable rc) :=
  inferInstanceAs (Decidable (_ ∧ _))

/-- The events of one command; on a user or group only a mutation supersedes. -/
def Admits (rows : ResourceRows) (rc : ResourceCommand) : CommandEvent → Prop
  | .claim _ _ => rows.Dispatchable rc
  | .supersede => False
  | event => event.Conforms rc.command

instance (rows : ResourceRows) (rc : ResourceCommand) (event : CommandEvent) :
    Decidable (rows.Admits rc event) :=
  match event with
  | .claim _ _ => inferInstanceAs (Decidable (rows.Dispatchable rc))
  | .supersede => inferInstanceAs (Decidable False)
  | .ingest report =>
      inferInstanceAs (Decidable (CommandEvent.Conforms rc.command (.ingest report)))
  | .markSent _ | .markFailed _ | .expire | .reconcileExpiredSending | .reconcileExpiredApply
  | .reconcileMissingResult | .continueReconciliation | .deleteExpiredLease | .reconnect
  | .upgradeTerminal _ => inferInstanceAs (Decidable True)

/-- The command at `i` changes to `c`. -/
def setCommand (rows : ResourceRows) (i : Nat) (rc : ResourceCommand) (c : Command) :
    ResourceRows :=
  { rows with commands := rows.commands.set i { rc with command := c } }

end ResourceRows

namespace UserWorld

/-- No resource, and no commands. -/
def start : UserWorld := ⟨0, ⟨none, []⟩, none⟩

/-- The world after an event, if the event can happen. -/
def next (w : UserWorld) : UserEvent → Option UserWorld
  | .tick later => if w.now ≤ later then some { w with now := later } else none
  | .begin request safeRejected =>
    match w.mutation, Mutation.begin w.rows request safeRejected with
    | none, .ok m => some { w with mutation := some m }
    | _, _ => none
  | .commit =>
    match w.mutation with
    | some m => some { w with rows := m.commit w.rows w.now, mutation := none }
    | none => none
  | .abort => some { w with mutation := none }
  | .command i event =>
    match w.rows.commands[i]? with
    | some rc =>
      if w.rows.Admits rc event then
        (rc.command.next w.now event).map fun c => { w with rows := w.rows.setCommand i rc c }
      else none
    | none => none

end UserWorld

/-- The commands of one user or group. -/
def userSystem : LTS UserWorld UserEvent := .ofFun UserWorld.start UserWorld.next

/-! ## The condition -/

/-- The command is open, or it succeeded. -/
def CommandStatus.promising (state : CommandStatus) : Bool := state.mutable || state = .succeeded

/-- A step abandons no passed revision: a predecessor read as queued and not superseded is open or
succeeded still, and a command of a passed revision leaves the open states only for success. -/
def NoRevisionAbandoned (w : UserWorld) (event : UserEvent) (_ : UserWorld) : Prop :=
  match event with
  | .commit => ∀ m ∈ w.mutation, m.previous = some .queued → m.coalesced w.rows = false →
      ∀ state ∈ w.rows.outcome m.currentRevision, state.promising = true
  | .command i event => ∀ rc ∈ w.rows.commands[i]?, ∀ c ∈ rc.command.next w.now event,
      rc.revision < w.rows.revision → rc.command.state.mutable = true → c.state.promising = true
  | _ => True

instance (w : UserWorld) (event : UserEvent) (w' : UserWorld) :
    Decidable (NoRevisionAbandoned w event w') := by
  cases event <;> unfold NoRevisionAbandoned <;> infer_instance

/-! ## Outcomes -/

section Outcome

/-- Replacing an element by one that the predicate does not tell apart changes the first match only
there. -/
theorem find?_set_cases {α : Type} {p : α → Bool} {a b : α} {l : List α} {i : Nat}
    (hi : l[i]? = some a) (hp : p b = p a) :
    (l.set i b).find? p = l.find? p ∨
      (p a = true ∧ l.find? p = some a ∧ (l.set i b).find? p = some b) := by
  induction l generalizing i with
  | nil => simp at hi
  | cons x l ih =>
    cases i with
    | zero =>
      obtain rfl : x = a := by simpa using hi
      cases hx : p x with
      | false | true => simp [hx, hp]
    | succ i =>
      cases hx : p x with
      | false => simpa [hx] using ih (by simpa using hi)
      | true => simp [hx]

variable {rows : ResourceRows}

/-- A command that changes is seen in the outcome of its own revision at most. -/
theorem ResourceRows.setCommand_outcome (hi : rows.commands[i]? = some rc) :
    (rows.setCommand i rc c).outcome r = rows.outcome r ∨
      (r = rc.revision ∧ rows.outcome r = some rc.command.state ∧
        (rows.setCommand i rc c).outcome r = some c.state) := by
  rcases find?_set_cases (p := fun x => decide (x.revision = r))
    (b := { rc with command := c }) hi rfl with h | ⟨hr, h, h'⟩
  · exact .inl (congrArg (Option.map _) h)
  · refine .inr ⟨(of_decide_eq_true hr).symm, ?_, ?_⟩
    · exact congrArg (Option.map (·.command.state)) h
    · exact congrArg (Option.map (·.command.state)) h'

variable {m : Mutation}

theorem Mutation.superseded_spec (h : m.superseded x = some y) :
    x.revision = m.currentRevision ∧ y.revision = x.revision ∧
      y.command.payload = x.command.payload := by
  obtain ⟨⟨-, -, hr⟩, hy⟩ := ite_none_right_eq_some.1 h
  obtain ⟨command, hc, rfl⟩ := map_eq_some_iff.1 hy
  obtain ⟨-, hc⟩ := ite_none_right_eq_some.1 hc
  cases hc
  exact ⟨hr, rfl, rfl⟩

/-- Supersession keeps revision and payload, and a command of another revision altogether. -/
theorem Mutation.superseded_getD (m : Mutation) (x : ResourceCommand) :
    ((m.superseded x).getD x).revision = x.revision ∧
      ((m.superseded x).getD x).command.payload = x.command.payload ∧
      (x.revision ≠ m.currentRevision → (m.superseded x).getD x = x) := by
  cases h : m.superseded x with
  | none => exact ⟨rfl, rfl, fun _ => rfl⟩
  | some y =>
    obtain ⟨hr, hy, hp⟩ := superseded_spec h
    exact ⟨hy, hp, fun hne => absurd hr hne⟩

/-- The revision of a commit. -/
theorem Mutation.commit_revision :
    (m.commit rows now).revision =
      if (m.coalesced rows || m.replaceRevision) = true then m.currentRevision
      else m.currentRevision + 1 := rfl

/-- The commands of a commit: the enqueued one is of the revision of the commit. -/
theorem Mutation.commit_commands (now : Time)
    (h : (m.coalesced rows || m.replaceRevision) = true → 0 < m.currentRevision) :
    ∃ new : ResourceCommand, new.revision = (m.commit rows now).revision ∧
      new.command.payload.userRevision = some (UInt64.ofNat new.revision) ∧
      (m.commit rows now).commands =
        new :: rows.commands.map fun x => (m.superseded x).getD x := by
  refine ⟨_, ?_, ?_, rfl⟩
  · rw [commit_revision]
    by_cases hr : (m.coalesced rows || m.replaceRevision) = true
    · have := h hr
      simp only [hr, if_true, revision]
      omega
    · simp only [hr, revision]
      rfl
  · simp only [enqueued, MutationRequest.payload_userRevision, revision]
    by_cases hr : (m.coalesced rows || m.replaceRevision) = true
    · have := h hr
      simp only [hr, if_true, Nat.sub_add_cancel this]
    · simp only [hr]
      rfl

/-- A commit keeps the outcomes of other revisions, and of its own when nothing is superseded. -/
theorem Mutation.commit_outcome
    (h : (m.coalesced rows || m.replaceRevision) = true → 0 < m.currentRevision)
    (hr : r ≠ (m.commit rows now).revision) (hc : r ≠ m.currentRevision ∨ m.coalesced rows = false)
    :
    (m.commit rows now).outcome r = rows.outcome r := by
  obtain ⟨new, hn, -, hcommands⟩ := commit_commands now h
  have hne : decide (new.revision = r) = false := decide_eq_false (by rw [hn]; exact Ne.symm hr)
  unfold ResourceRows.outcome ResourceRows.lastRevision
  rw [hcommands, find?_cons, hne]
  simp only [find?_map, Option.map_map]
  have hp : ((fun x : ResourceCommand => decide (x.revision = r)) ∘
      fun x => (m.superseded x).getD x) = fun x => decide (x.revision = r) := by
    funext x
    simp only [Function.comp_apply, (m.superseded_getD x).1]
  rw [hp]
  cases hf : rows.commands.find? fun x => decide (x.revision = r) with
  | none => rfl
  | some x =>
    have hx : x.revision = r := by simpa using find?_some hf
    have hkeep : (m.superseded x).getD x = x := by
      rcases hc with hc | hc
      · exact (m.superseded_getD x).2.2 (by rw [hx]; exact hc)
      have hnone : m.superseded x = none := by
        have := any_eq_false.1 hc x (mem_of_find?_eq_some hf)
        simpa using this
      rw [hnone, getD_none]
    simp [hkeep]

end Outcome

/-! ## The invariant -/

/-- What a mutation read is still so: the revision, and the outcome of a previous closed command. -/
structure Mutation.Reads (m : Mutation) (rows : ResourceRows) : Prop where
  revision : m.currentRevision = rows.revision
  replaces : m.replaceRevision = true → 0 < m.currentRevision
  follows : m.replaceRevision = false → 0 < m.currentRevision →
    m.previous = some .queued ∨ m.previous = some .succeeded
  frozen : ∀ state, m.previous = some state → state.mutable = false →
    rows.outcome m.currentRevision = some state

/-- The invariant of the system without abandoned revisions. -/
structure RevisionInv (w : UserWorld) : Prop where
  /-- The current revision has a command. -/
  current : 0 < w.rows.revision → (w.rows.outcome w.rows.revision).isSome = true
  /-- No command is of a later revision, and a command carries its revision. -/
  commands : ∀ rc ∈ w.rows.commands, rc.revision ≤ w.rows.revision ∧
    rc.command.payload.userRevision = some (UInt64.ofNat rc.revision)
  /-- The latest command of a revision that was passed is open or succeeded. -/
  passed : ∀ r, 0 < r → r < w.rows.revision →
    ∃ state, w.rows.outcome r = some state ∧ state.promising = true
  reads : ∀ m, w.mutation = some m → m.Reads w.rows

section Begin

variable {rows : ResourceRows} {request : MutationRequest}

/-- A revision that is not replaced was read as missing, queued or succeeded. -/
theorem ResourceRows.revisionReplacement_spec {kind : MutationKind} {revision : Nat}
    {replace : Bool} (h : rows.revisionReplacement kind safeRejected revision = .ok replace) :
    (replace = true → 0 < revision) ∧
      (replace = false → 0 < revision → (rows.outcome revision).isSome = true →
        rows.outcome revision = some .queued ∨ rows.outcome revision = some .succeeded) := by
  unfold revisionReplacement at h
  unfold outcome
  split at h
  · next hz =>
    cases h
    exact ⟨nofun, fun _ hpos => absurd hz (pos_iff_ne_zero.1 hpos)⟩
  next hz =>
  refine ⟨fun _ => pos_of_ne_zero hz, fun hr _ => ?_⟩
  subst hr
  cases hl : rows.lastRevision revision with
  | none => exact fun hs => by simp at hs
  | some previous =>
    intro _
    rw [hl] at h
    -- Every other state of the previous command is replaced or refused.
    cases hst : previous.command.state with
    | queued => exact .inl (by simp [hst])
    | succeeded => exact .inr (by simp [hst])
    | failed | expired | rolledBack | rejected =>
      simp only [hst] at h
      split at h <;> cases h
    | dispatched | accepted | running | unknown | superseded =>
      simp only [hst] at h
      cases h

theorem Mutation.begin_ok (h : Mutation.begin rows request safeRejected = .ok m) :
    m.currentRevision = rows.revision ∧ m.previous = rows.outcome m.currentRevision ∧
      rows.revisionReplacement request.kind safeRejected m.currentRevision =
        .ok m.replaceRevision := by
  unfold begin at h
  split at h
  · cases h
  split at h
  · cases h
  next version revision hlock =>
  split at h
  · cases h
  split at h
  · cases h
  next replace hreplace =>
  split at h
  · cases h
  cases h
  refine ⟨?_, rfl, hreplace⟩
  unfold ResourceRows.lockDesired at hlock
  unfold ResourceRows.revision
  cases hd : rows.desired with
  | some d =>
    rw [hd] at hlock
    cases hlock
    rfl
  | none =>
    rw [hd] at hlock
    simp only at hlock
    split at hlock <;> cases hlock
    rfl

theorem Mutation.begin_reads
    (hcurrent : 0 < rows.revision → (rows.outcome rows.revision).isSome = true)
    (h : Mutation.begin rows request safeRejected = .ok m) : m.Reads rows := by
  obtain ⟨hrevision, hprevious, hreplace⟩ := begin_ok h
  obtain ⟨hpos, hfollows⟩ := rows.revisionReplacement_spec hreplace
  refine ⟨hrevision, hpos, fun hr hz => ?_, fun state hs _ => ?_⟩
  · rw [hprevious]
    exact hfollows hr hz (by rw [hrevision] at hz ⊢; exact hcurrent hz)
  · rw [← hprevious, hs]

end Begin

namespace RevisionInv

theorem start : RevisionInv UserWorld.start where
  current h := absurd h (lt_irrefl 0)
  commands _ h := by simp [UserWorld.start] at h
  passed r _ h := absurd h (not_lt_zero r)
  reads m h := by simp [UserWorld.start] at h

/-- The step of a mutation that commits. -/
theorem commit (hI : RevisionInv w) (hm : w.mutation = some m)
    (hC : ∀ state, m.previous = some .queued → m.coalesced w.rows = false →
      w.rows.outcome m.currentRevision = some state → state.promising = true) :
    RevisionInv { w with rows := m.commit w.rows w.now, mutation := none } := by
  have hreads := hI.reads m hm
  have hpos : (m.coalesced w.rows || m.replaceRevision) = true → 0 < m.currentRevision := by
    intro h
    rcases Bool.or_eq_true_iff.1 h with hc | hr
    · obtain ⟨x, -, hx⟩ := any_eq_true.1 hc
      obtain ⟨y, hy⟩ := isSome_iff_exists.1 hx
      rw [← (superseded_spec hy).1]
      exact succ_pos _
    · exact hreads.replaces hr
  obtain ⟨new, hn, hcarried, hcommands⟩ := commit_commands w.now hpos
  have hle : w.rows.revision ≤ (m.commit w.rows w.now).revision := by
    rw [commit_revision, ← hreads.revision]
    split <;> omega
  refine ⟨fun _ => ?_, ?_, ?_, fun m' hm' => by cases hm'⟩
  · -- The enqueued command is the newest one of the revision.
    have hfind : (m.commit w.rows w.now).lastRevision (m.commit w.rows w.now).revision =
        some new := by
      unfold ResourceRows.lastRevision
      rw [hcommands, find?_cons, decide_eq_true hn]
    exact congrArg Option.isSome (congrArg (Option.map _) hfind)
  · intro rc hrc
    rcases mem_cons.1 (hcommands ▸ hrc) with rfl | hrc
    · exact ⟨le_of_eq hn, hcarried⟩
    · obtain ⟨x, hx, rfl⟩ := mem_map.1 hrc
      obtain ⟨hbounded, hcarries⟩ := hI.commands x hx
      rw [(m.superseded_getD x).1, (m.superseded_getD x).2.1]
      exact ⟨le_trans hbounded hle, hcarries⟩
  · intro r hr hlt
    change r < (m.commit w.rows w.now).revision at hlt
    have hne : r ≠ (m.commit w.rows w.now).revision := Nat.ne_of_lt hlt
    rw [commit_revision] at hlt
    by_cases hcur : r = m.currentRevision
    · -- Only a mutation that replaces nothing passes the current revision.
      subst hcur
      by_cases hrep : (m.coalesced w.rows || m.replaceRevision) = true
      · simp [hrep] at hlt
      obtain ⟨hco, hre⟩ : m.coalesced w.rows = false ∧ m.replaceRevision = false := by
        simpa using hrep
      have hout := commit_outcome hpos hne (.inr hco)
      have hsome := hI.current (hreads.revision ▸ hr)
      rw [← hreads.revision] at hsome
      obtain ⟨state, hstate⟩ := isSome_iff_exists.1 hsome
      refine ⟨state, hout.trans hstate, ?_⟩
      rcases hreads.follows hre hr with hq | hs
      · exact hC state hq hco hstate
      · have := hreads.frozen .succeeded hs rfl
        obtain rfl : state = .succeeded := by simpa [hstate] using this
        rfl
    · obtain ⟨state, hstate, hp⟩ := hI.passed r hr (by
        rw [← hreads.revision]
        split at hlt <;> omega)
      exact ⟨state, (commit_outcome hpos hne (.inl hcur)).trans hstate, hp⟩

/-- The step of one command. -/
theorem command (hI : RevisionInv w) (hi : w.rows.commands[i]? = some rc)
    (hc : rc.command.next w.now event = some c)
    (hC : rc.revision < w.rows.revision → rc.command.state.mutable = true →
      c.state.promising = true) : RevisionInv { w with rows := w.rows.setCommand i rc c } := by
  have hmem : rc ∈ w.rows.commands := mem_of_getElem? hi
  refine ⟨fun hpos => ?_, fun x hx => ?_, fun r hr hlt => ?_, fun m hm => ?_⟩
  · rcases w.rows.setCommand_outcome hi with h | ⟨-, -, h⟩
    · exact (congrArg isSome h).trans (hI.current hpos)
    · exact congrArg isSome h
  · rcases mem_or_eq_of_mem_set hx with hx | rfl
    · exact hI.commands x hx
    · obtain ⟨hbounded, hcarries⟩ := hI.commands rc hmem
      exact ⟨hbounded, (congrArg _ (next_payload hc)).trans hcarries⟩
  · obtain ⟨state, hstate, hp⟩ := hI.passed r hr hlt
    rcases w.rows.setCommand_outcome (c := c) (r := r) hi with h | ⟨rfl, hold, hnew⟩
    · exact ⟨state, h.trans hstate, hp⟩
    refine ⟨c.state, hnew, ?_⟩
    cases hmut : rc.command.state.mutable with
    | true => exact hC hlt hmut
    | false =>
      rw [next_frozen hc hmut]
      cases hstate.symm.trans hold
      exact hp
  · have hreads := hI.reads m hm
    refine ⟨hreads.revision, hreads.replaces, hreads.follows, fun state hs hfrozen => ?_⟩
    have hstate := hreads.frozen state hs hfrozen
    rcases w.rows.setCommand_outcome hi with h | ⟨-, hold, hnew⟩
    · exact h.trans hstate
    · cases hstate.symm.trans hold
      exact hnew.trans (congrArg some (next_frozen hc hfrozen))

/-- Every step that abandons no revision keeps the invariant. -/
theorem step (hI : RevisionInv w) (hs : userSystem.step w event w')
    (hC : NoRevisionAbandoned w event w') : RevisionInv w' := by
  change w.next event = some w' at hs
  cases event with
  | tick later =>
    obtain ⟨-, h⟩ := ite_none_right_eq_some.1 hs
    cases h
    exact ⟨hI.current, hI.commands, hI.passed, hI.reads⟩
  | begin request safeRejected =>
    simp only [UserWorld.next] at hs
    split at hs
    · next m _ hbegin =>
      cases hs
      refine ⟨hI.current, hI.commands, hI.passed, fun m' hm' => ?_⟩
      cases hm'
      exact begin_reads hI.current hbegin
    · cases hs
  | commit =>
    simp only [UserWorld.next] at hs
    split at hs
    · next m hm =>
      cases hs
      exact hI.commit hm fun state hq hco hst => hC m hm hq hco state hst
    · cases hs
  | abort =>
    cases hs
    exact ⟨hI.current, hI.commands, hI.passed, fun m hm => by cases hm⟩
  | command i event =>
    simp only [UserWorld.next] at hs
    split at hs
    · next rc hi =>
      obtain ⟨-, h⟩ := ite_none_right_eq_some.1 hs
      obtain ⟨c, hc, rfl⟩ := map_eq_some_iff.1 h
      exact hI.command hi hc fun hlt hm => hC rc hi c hc hlt hm
    · cases hs

theorem reachable (h : (userSystem.restrict NoRevisionAbandoned).Reachable w) : RevisionInv w := by
  refine h.invariant RevisionInv ?_ ?_
  · rintro w rfl
    exact start
  · intro w event w' _ hI hs
    exact hI.step hs.1 hs.2

end RevisionInv

/-! ## Claims -/

/-- **A command is dispatched only behind a revision that succeeded**, when no revision is
abandoned: the latest outcome for the revision before its own, if there is one, is success. -/
theorem claim_follows_success {w w' : UserWorld} {i token : Nat} {leasedUntil : Time}
    (h : (userSystem.restrict NoRevisionAbandoned).Reachable w)
    (hs : userSystem.step w (.command i (.claim token leasedUntil)) w') :
    ∃ rc : ResourceCommand, w.rows.commands[i]? = some rc ∧
      rc.command.payload.userRevision = some (UInt64.ofNat rc.revision) ∧
      (rc.revision = 1 ∨ w.rows.outcome (rc.revision - 1) = some .succeeded) := by
  have hI := RevisionInv.reachable h
  change w.next _ = some w' at hs
  simp only [UserWorld.next] at hs
  split at hs
  · next rc hi =>
    have hmem : rc ∈ w.rows.commands := mem_of_getElem? hi
    obtain ⟨hadmits, -⟩ := ite_none_right_eq_some.1 hs
    obtain ⟨hle, hcarries⟩ := hI.commands rc hmem
    refine ⟨rc, hi, hcarries, ?_⟩
    rcases Nat.eq_zero_or_pos rc.expectedVersion with hz | hpos
    · exact .inl (by simp [revision, hz])
    right
    have hrev : rc.revision - 1 = rc.expectedVersion := rfl
    rw [hrev]
    obtain ⟨state, hout, hp⟩ := hI.passed rc.expectedVersion hpos hle
    -- The latest command of the revision before is closed, or the claim would not select this one.
    obtain ⟨prior, hlast, hstate⟩ := map_eq_some_iff.1 hout
    have hprior : prior.revision = rc.expectedVersion := by simpa using find?_some hlast
    have hclosed := hadmits.1 prior (mem_of_find?_eq_some hlast) (by
      unfold revision at hprior
      omega)
    rw [hstate] at hclosed
    have hsucceeded : state = .succeeded := by simpa [CommandStatus.promising, hclosed] using hp
    rw [hout, hsucceeded]
  · cases hs

/-- An apply of the group `staff` on a node. -/
def sampleGroupApply (expectedVersion : Int) (ttl : Time) : MutationRequest where
  nodeId := List.replicate 16 1
  kind := .groupApply
  name := "staff"
  idempotencyKey := "request"
  members := []
  sealedPassword := none
  expectedVersion := expectedVersion
  ttl := ttl
  actorId := "admin"
  reason := "change"
  requestId := "request"
  traceparent := "00-0123456789abcdef0123456789abcdef-0123456789abcdef-01"

/-- A first apply is claimed and succeeds, and a second one is admitted. -/
def appliedInOrder : List UserEvent :=
  [.begin (sampleGroupApply 0 (60 * oneSecond)) false, .commit,
    .command 0 (.claim 1 (30 * oneSecond)),
    .command 0 (.ingest ⟨.succeeded, "", .verified, some .succeeded⟩),
    .begin (sampleGroupApply 1 (60 * oneSecond)) false, .commit]

/-- The claim of the second apply behind the success of the first. -/
theorem claim_follows_success_second :
    ∃ w w' : UserWorld, (userSystem.restrict NoRevisionAbandoned).Reachable w ∧
      userSystem.step w (.command 0 (.claim 2 (30 * oneSecond))) w' ∧
      ∃ rc : ResourceCommand, w.rows.commands[0]? = some rc ∧
        rc.command.payload.userRevision = some (UInt64.ofNat rc.revision) ∧
        (rc.revision = 1 ∨ w.rows.outcome (rc.revision - 1) = some .succeeded) := by
  have h : (appliedInOrder.foldlM (LTS.guarded UserWorld.next NoRevisionAbandoned)
      UserWorld.start).any
        (fun w => (w.next (.command 0 (.claim 2 (30 * oneSecond)))).isSome) = true := by
    decide +kernel
  obtain ⟨w, hw, hnext⟩ := Option.any_eq_true .. |>.1 h
  obtain ⟨w', hw'⟩ := Option.isSome_iff_exists.1 hnext
  have hreach : (userSystem.restrict NoRevisionAbandoned).Reachable w :=
    ⟨_, LTS.ofFun_restrict_run hw⟩
  exact ⟨w, w', hreach, hw', claim_follows_success hreach hw'⟩

/-- A second apply is admitted while a worker holds the first, which then expires. -/
def releasedDispatch : List UserEvent :=
  [.begin (sampleGroupApply 0 (60 * oneSecond)) false, .commit,
    .command 0 (.claim 1 (30 * oneSecond)),
    .begin (sampleGroupApply 1 (3600 * oneSecond)) false, .commit,
    .command 1 (.markFailed 1), .tick (60 * oneSecond), .command 1 .expire]

/-- **A released dispatch leaves a gap.** The apply of revision 2 is claimed although revision 1
expired. -/
theorem released_dispatch_leaves_gap :
    ∃ (w w' : UserWorld) (rc : ResourceCommand), userSystem.Run releasedDispatch w ∧
      userSystem.step w (.command 0 (.claim 2 (90 * oneSecond))) w' ∧
      w.rows.commands[0]? = some rc ∧ rc.revision = 2 ∧ w.rows.outcome 1 = some .expired := by
  have h : (releasedDispatch.foldlM UserWorld.next UserWorld.start).any (fun w =>
      (w.next (.command 0 (.claim 2 (90 * oneSecond)))).isSome &&
        w.rows.commands[0]?.any (·.revision = 2) && w.rows.outcome 1 = some .expired) = true := by
    decide +kernel
  obtain ⟨w, hw, hp⟩ := Option.any_eq_true .. |>.1 h
  simp only [Bool.and_eq_true, decide_eq_true_eq] at hp
  obtain ⟨⟨hnext, hrc⟩, hout⟩ := hp
  obtain ⟨w', hw'⟩ := Option.isSome_iff_exists.1 hnext
  obtain ⟨rc, hi, hrev⟩ := Option.any_eq_true .. |>.1 hrc
  exact ⟨w, w', rc, LTS.ofFun_run hw, hw', hi, of_decide_eq_true hrev, hout⟩

end Ocservia
