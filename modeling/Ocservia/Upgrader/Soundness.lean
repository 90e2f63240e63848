import Ocservia.Upgrader.Store

/-!
# What a successful upgrade rests on

The tasks of `Upgrader.Store` are put under a contract. What a task guarantees to the others
(`Guarantee`): intents and the records of a finished operation never change, the installed files and
the results change only under the execution lock, and intents and new states only under the schedule
lock. In return a runner knows, from one piece to the next, that the intent it loaded is the
committed one, that its operation is not finished, and what it found at the installed paths
(`RunnerOk`).
-/

namespace Ocservia.Upgrader

open Wire Tasks Checked Option

namespace World

variable {s : World} {dir : OperationDir}

/-- Writing one directory keeps the others. -/
theorem dir_put : (s.put op dir).dir o = if o = op then some dir else s.dir o := by
  by_cases h : o = op
  · subst h
    simp [put, World.dir]
  · simp [put, World.dir, h]

/-- A missing directory has no intent. -/
theorem intent_getD : ((s.dir op).getD {}).intent = s.intent op := by
  cases h : s.dir op <;> simp [intent, h]

/-- A missing directory has no state. -/
theorem state_getD : ((s.dir op).getD {}).state = s.state op := by
  cases h : s.dir op <;> simp [state, h]

/-- A missing directory has no result. -/
theorem result_getD : ((s.dir op).getD {}).result = s.result op := by
  cases h : s.dir op <;> simp [result, h]

@[simp] theorem intent_put :
    (s.put op dir).intent o = if o = op then dir.intent else s.intent o := by
  by_cases h : o = op <;> simp [intent, dir_put, h]

@[simp] theorem state_put : (s.put op dir).state o = if o = op then dir.state else s.state o := by
  by_cases h : o = op <;> simp [state, dir_put, h]

@[simp] theorem result_put :
    (s.put op dir).result o = if o = op then dir.result else s.result o := by
  by_cases h : o = op <;> simp [result, dir_put, h]

/-- The operation has reached a terminal state. -/
def Terminal (s : World) (op : Uuid) : Prop :=
  ∃ state, s.state op = some state ∧ state.isTerminal = true

/-- The operation is scheduled and has not reached a terminal state. -/
def Active (s : World) (op : Uuid) : Prop :=
  ∃ state, s.state op = some state ∧ state.isTerminal = false

/-- An active operation is not finished. -/
theorem Active.not_terminal (h : s.Active op) : ¬ s.Terminal op := by
  rintro ⟨state, hstate, hterminal⟩
  obtain ⟨state', hstate', hactive⟩ := h
  rw [some_inj.1 (hstate'.symm.trans hstate), hterminal] at hactive
  cases hactive

end World

/-! ## The contract -/

/-- What the pieces of the task `id` do to the files. -/
structure Guarantee (id : Nat) (s s' : World) : Prop where
  intent : ∀ op i, s.intent op = some i → s'.intent op = some i
  settled : ∀ op, s.Terminal op → s'.state op = s.state op ∧ s'.result op = s.result op
  run : s.runLock ≠ some id → s'.installed = s.installed ∧
    ∀ op, s'.result op = s.result op ∧ (s.state op ≠ none → s'.state op = s.state op)
  schedule : s.scheduleLock ≠ some id →
    ∀ op, s'.intent op = s.intent op ∧ (s.state op = none → s'.state op = none)
  runLock : ∀ j, j ≠ id → s.runLock = some j → s'.runLock = some j
  scheduleLock : ∀ j, j ≠ id → s.scheduleLock = some j → s'.scheduleLock = some j

namespace Guarantee

variable {id : Nat}

/-- A piece that changes nothing. -/
theorem refl : Guarantee id s s := by
  constructor <;> simp

/-- A piece that gives its locks back. -/
theorem release : Guarantee id s (s.release id) := by
  constructor
  case runLock => simp +contextual [World.release]
  case scheduleLock => simp +contextual [World.release]
  all_goals simp [World.release, World.intent, World.state, World.result, World.dir]

/-- A piece that takes the free execution lock. -/
theorem lock (h : s.runLock = none) : Guarantee id s { s with runLock := some id } := by
  constructor <;> simp [h, World.intent, World.state, World.result, World.dir]

/-- A piece that takes the free schedule lock. -/
theorem lockSchedule (h : s.scheduleLock = none) :
    Guarantee id s { s with scheduleLock := some id } := by
  constructor <;> simp [h, World.intent, World.state, World.result, World.dir]

/-- A piece that ends by giving the schedule lock back. -/
theorem unlockSchedule (hG : Guarantee id s s') (h : s.scheduleLock = some id) :
    Guarantee id s { s' with scheduleLock := none } where
  intent := hG.intent
  settled := hG.settled
  run := hG.run
  schedule := hG.schedule
  runLock := hG.runLock
  scheduleLock _ hj hlock := absurd (some_inj.1 (hlock.symm.trans h)) hj

/-- Only the holder of the execution lock changes what is installed. -/
theorem install (h : s.runLock = some id) : Guarantee id s { s with installed } := by
  constructor <;> simp [h, World.intent, World.state, World.result, World.dir]

/-- A runner writes records of an operation that is active. -/
theorem record (h : s.runLock = some id) (hactive : s.Active op)
    (hintent : dir.intent = s.intent op) (hstate : dir.state ≠ none) :
    Guarantee id s (s.put op dir) := by
  have ⟨state, hop, _⟩ := hactive
  constructor
  case settled =>
    intro o ho
    have hne : o ≠ op := by
      rintro rfl
      exact hactive.not_terminal ho
    simp [hne]
  case run => simp [h]
  case schedule =>
    intro _ o
    by_cases ho : o = op <;> simp_all
  case intent =>
    intro o i hi
    by_cases ho : o = op <;> simp_all
  all_goals simp [World.put]

/-- A scheduler writes records of an operation that has no state. -/
theorem commit (h : s.scheduleLock = some id) (hnone : s.state op = none)
    (hintent : ∀ i, s.intent op = some i → dir.intent = some i) (hresult : dir.result = s.result op)
    :
    Guarantee id s (s.put op dir) := by
  constructor
  case settled =>
    rintro o ⟨state, hstate, -⟩
    have hne : o ≠ op := by
      rintro rfl
      cases hnone.symm.trans hstate
    simp [hne]
  case run =>
    refine fun _ => ⟨rfl, fun o => ?_⟩
    by_cases ho : o = op <;> simp_all
  case schedule => simp [h]
  case intent =>
    intro o i hi
    by_cases ho : o = op <;> simp_all
  all_goals simp [World.put]

end Guarantee

/-- The installed file is the binary of a package, or collides with it under SHA-256. -/
def Reproduces (host : Host) (file : InstalledFile) (binary : PackageFile) : Prop :=
  ∃ bytes, file = .regular bytes ∧
    (bytes = binary.bytes ∨ bytes ≠ binary.bytes ∧ host.sha256 bytes = host.sha256 binary.bytes)

/-- `Reproduces` is what the digests check. -/
theorem reproduces_iff : Reproduces host file binary ↔ digestMatches host binary file = true := by
  cases file with
  | regular bytes =>
    by_cases h : bytes = binary.bytes <;> simp [Reproduces, digestMatches, h, Subtype.ext_iff]
  | absent | other => simp [Reproduces, digestMatches]

/-- The target is a package that the verifier unpacked from an archive with the intent's digest. -/
def Target.Verified (host : Host) (target : Target) : Prop :=
  host.sha256 target.archive = target.intent.packageSha256 ∧
    host.unpack target.archive = some target.package

/-- A verified package for the intent is installed, and the commit record names its archive. -/
def Certified (host : Host) (s : World) (op : Uuid) : Prop :=
  ∃ target : Target, s.intent op = some target.intent ∧ target.Verified host ∧
    Reproduces host s.installed.agent target.package.agent ∧
    Reproduces host s.installed.privd target.package.privd ∧
    readInstallationCommit s.installed.commit =
      .ok (some (utf8 (hexEncode target.intent.packageSha256.1)))

/-- Neither binary of the target is installed. -/
def Target.Untouched (target : Target) (installed : Installed) : Prop :=
  installed.agent ≠ .regular target.package.agent.bytes ∧
    installed.privd ≠ .regular target.package.privd.bytes

/-- A committed target has its archive in the commit record. -/
theorem committed_eq_true {target : Target} {installed : Installed}
    (h : target.committed installed = .ok true) :
    readInstallationCommit installed.commit =
      .ok (some (utf8 (hexEncode target.intent.packageSha256.1))) := by
  obtain ⟨record, hrecord, htrue⟩ := Except.map_eq_ok_iff.1 h
  rw [hrecord, eq_of_beq htrue]

/-- `execute` goes on only with a verified package for the intent. -/
theorem preparePackage_ok (h : preparePackage host intent spool copied = .ok target) :
    target.intent = intent ∧ target.Verified host := by
  iterate 4 obtain ⟨_, h⟩ := of_bind h
  obtain ⟨⟨package, marker⟩, hverify, h⟩ := bind_eq_ok.1 h
  iterate 3 obtain ⟨_, h⟩ := of_bind h
  cases h
  have hverify := get_eq_ok.1 hverify
  unfold verifyAgentPackage at hverify
  split at hverify
  · rename_i hdigest
    obtain ⟨_, hunpack, heq⟩ := map_eq_some_iff.1 hverify
    cases heq
    exact ⟨rfl, hdigest, hunpack⟩
  · cases hverify

namespace RunPhase

@[simp] def intent : RunPhase → Option UpgradeIntent
  | loaded i | pending i | locked i | executing i | recording i _ => some i
  | prepared t | starting t _ | restarting t | launching t | lifecycle t | completed t =>
      some t.intent
  | opened | recorded _ | closing => none

/-- The package that the runner verified. -/
@[simp] def target : RunPhase → Option Target
  | prepared t | starting t _ | restarting t | launching t | lifecycle t | completed t => some t
  | _ => none

/-- The runner holds the execution lock. -/
@[simp] def holds : RunPhase → Bool
  | opened | loaded _ | pending _ => false
  | _ => true

@[simp] def executes : RunPhase → Bool
  | opened | loaded _ | pending _ | locked _ | closing => false
  | _ => true

/-- The runner is about to record a success. -/
@[simp] def succeeds : RunPhase → Bool
  | starting _ replaced => replaced
  | restarting _ | recording _ (.finished _) | recorded (.finished _) => true
  | _ => false

/-- The package whose lifecycle the runner is about to start. -/
@[simp] def launches : RunPhase → Option Target
  | starting t false | launching t => some t
  | _ => none

end RunPhase

/-- What a runner knows of the files. -/
structure RunnerOk (host : Host) (s : World) (id : Nat) (op : Uuid) (phase : RunPhase) :
    Prop where
  knows : ∀ i ∈ phase.intent, s.intent op = some i
  verified : ∀ t ∈ phase.target, t.Verified host
  holds : phase.holds = true → s.runLock = some id
  active : phase.executes = true → s.Active op
  succeeds : phase.succeeds = true → Certified host s op
  launches : ∀ t ∈ phase.launches, t.Untouched s.installed

/-- A scheduler that still has to write the intent. -/
@[simp] def SchedulePhase.blank : SchedulePhase → Bool
  | scanning _ _ | creating | committing => true
  | _ => false

/-- What a call of `schedule_and_trigger` knows of the files. -/
structure SchedulerOk (s : World) (id : Nat) (intent : UpgradeIntent) (phase : SchedulePhase) :
    Prop where
  holds : phase ≠ .waiting → phase ≠ .triggering → s.scheduleLock = some id
  stateless : phase.blank = true ∨ phase = .accepting → s.state intent.operationId = none
  blank : phase.blank = true → s.intent intent.operationId = none

/-- What a task knows of the files. -/
def TaskOk (host : Host) (s : World) (id : Nat) : Task → Prop
  | .runner op phase => RunnerOk host s id op phase
  | .scheduler intent phase => SchedulerOk s id intent phase
  | .reader .. => True

/-- What the tasks know is stable under what the others guarantee. -/
theorem TaskOk.stable {host : Host} {s s' : World} {id j : Nat} {t : Task} (hj : j ≠ id)
    (hG : Guarantee id s s') (h : TaskOk host s j t) : TaskOk host s' j t := by
  cases t with
  | reader => trivial
  | runner op phase =>
    have hrun : phase.holds = true → s'.installed = s.installed ∧
        ∀ op, s'.result op = s.result op ∧ (s.state op ≠ none → s'.state op = s.state op) := by
      refine fun hholds => hG.run ?_
      rw [h.holds hholds]
      simpa using hj
    have hholds : phase.executes = true ∨ phase.succeeds = true ∨ phase.launches ≠ none →
        phase.holds = true := by
      cases phase <;> simp
    refine ⟨fun i hi => hG.intent op i (h.knows i hi), h.verified,
      fun hphase => hG.runLock j hj (h.holds hphase), fun hphase => ?_, fun hphase => ?_,
      fun t ht => ?_⟩
    · obtain ⟨state, hstate, hactive⟩ := h.active hphase
      refine ⟨state, ?_, hactive⟩
      rw [((hrun (hholds (.inl hphase))).2 op).2 (by simp [hstate]), hstate]
    · obtain ⟨target, hintent, hcertified⟩ := h.succeeds hphase
      rw [← (hrun (hholds (.inr (.inl hphase)))).1] at hcertified
      exact ⟨target, hG.intent op _ hintent, hcertified⟩
    · rw [(hrun (hholds (.inr (.inr (ne_none_iff_exists'.2 ⟨t, ht⟩))))).1]
      exact h.launches t ht
  | scheduler intent phase =>
    have hblank : phase.blank = true ∨ phase = .accepting →
        phase ≠ .waiting ∧ phase ≠ .triggering := by
      cases phase <;> simp
    have hschedule : phase.blank = true ∨ phase = .accepting → s.scheduleLock ≠ some id := by
      intro hphase
      rw [h.holds (hblank hphase).1 (hblank hphase).2]
      simpa using hj
    refine ⟨fun h1 h2 => hG.scheduleLock j hj (h.holds h1 h2), fun hphase => ?_, fun hphase => ?_⟩
    · exact (hG.schedule (hschedule hphase) _).2 (h.stateless hphase)
    · rw [(hG.schedule (hschedule (.inl hphase)) _).1]
      exact h.blank hphase

/-! ## The pieces keep the contract -/

section Pieces
variable {id : Nat}

/-- What an event promises about the files in which it happens. -/
def Backed (host : Host) (s : World) : Event → Prop
  | .wrote op .succeeded => Certified host s op
  | .launched op target => s.intent op = some target.intent ∧ target.Verified host ∧
      target.Untouched s.installed
  | .executes op => s.Active op
  | _ => True

/-- A piece does what others rely on, its task knows where it stands, its event is backed. -/
def Keeps (host : Host) (s : World) (id : Nat) (piece : Piece) : Prop :=
  Guarantee id s piece.1 ∧ (∀ u ∈ piece.2.1, TaskOk host piece.1 id u) ∧ Backed host s piece.2.2

/-- A piece that goes on with `t` after a change. -/
theorem keeps_next (hG : Guarantee id s s') (h : TaskOk host s' id t) (hevent : Backed host s e) :
    Keeps host s id (s', some t, e) := by
  refine ⟨hG, ?_, hevent⟩
  rintro u ⟨⟩
  exact h

/-- A piece that ends its task. -/
theorem keeps_ends (h : Backed host s e) : Keeps host s id (ends s id e) :=
  ⟨.release, by rintro u ⟨⟩, h⟩

/-- A piece that only moves on. -/
theorem keeps_goes (h : TaskOk host s id t) : Keeps host s id (goes s t) :=
  keeps_next .refl h trivial

/-- A piece that ends on a finished operation and goes on with an active one. -/
theorem keeps_unlessTerminal (h : s.Active op → Keeps host s id next) :
    Keeps host s id (unlessTerminal s id op next) := by
  unfold unlessTerminal
  split
  · exact keeps_ends trivial
  rename_i state hstate
  split
  · exact keeps_ends trivial
  · rename_i hactive
    exact h ⟨state, hstate, by simpa using hactive⟩

/-- The phase needs no more than another one. -/
structure RunPhase.Needs (next phase : RunPhase) : Prop where
  intent : ∀ i ∈ next.intent, i ∈ phase.intent
  target : ∀ t ∈ next.target, t ∈ phase.target
  holds : next.holds = true → phase.holds = true
  succeeds : next.succeeds = true → phase.succeeds = true
  launches : ∀ t ∈ next.launches, t ∈ phase.launches

/-- What a runner knows survives a record that it writes for its operation. -/
theorem RunnerOk.write (h : RunnerOk host s id op phase) (hn : next.Needs phase)
    (hintent : dir.intent = s.intent op) (hactive : next.executes = true → (s.put op dir).Active op)
    :
    RunnerOk host (s.put op dir) id op next := by
  refine ⟨fun i hi => ?_, fun t ht => h.verified t (hn.target t ht),
    fun hholds => h.holds (hn.holds hholds), hactive, fun hsucceeds => ?_,
    fun t ht => h.launches t (hn.launches t ht)⟩
  · simp [hintent, h.knows i (hn.intent i hi)]
  · obtain ⟨target, hknows, hcertified⟩ := h.succeeds (hn.succeeds hsucceeds)
    exact ⟨target, by simp [hintent, hknows], hcertified⟩

/-- A runner goes on without touching the files. -/
theorem RunnerOk.goes (h : RunnerOk host s id op phase) (hn : next.Needs phase)
    (hactive : next.executes = true → s.Active op) : Keeps host s id (goes s (.runner op next)) :=
  keeps_goes ⟨fun i hi => h.knows i (hn.intent i hi), fun t ht => h.verified t (hn.target t ht),
    fun hholds => h.holds (hn.holds hholds), hactive, fun hs => h.succeeds (hn.succeeds hs),
    fun t ht => h.launches t (hn.launches t ht)⟩

/-- A refusal records a failure of the operation that the runner executes. -/
theorem RunnerOk.refuse {phase : RunPhase} {intent : UpgradeIntent} {failure : UpgradeStoreError}
    (h : RunnerOk host s id op phase) (hi : phase.intent = some intent)
    (hexecutes : phase.executes = true) : Keeps host s id (refuse s op intent failure) := by
  refine h.goes ⟨?_, ?_, fun _ => ?_, ?_, ?_⟩ fun _ => h.active hexecutes
  · rintro i ⟨⟩
    exact hi
  all_goals cases phase <;> simp_all

/-- `execute` has found the package installed, or nothing of it. -/
theorem keeps_inspect {target : Target} (h : RunnerOk host s id op (.prepared target)) :
    Keeps host s id (inspect host s id op target) := by
  have hknows := h.knows _ rfl
  unfold inspect
  split
  · exact keeps_ends trivial
  rename_i committed hcommitted
  dsimp only
  split
  · exact h.refuse rfl rfl
  rename_i hnot
  refine keeps_goes ⟨h.knows, h.verified, h.holds, h.active, fun hreplaced => ?_, fun t ht => ?_⟩
  · simp only [RunPhase.succeeds, Bool.and_eq_true] at hreplaced
    obtain ⟨⟨rfl, hagent⟩, hprivd⟩ := hreplaced
    exact ⟨target, hknows, h.verified _ rfl, reproduces_iff.2 hagent, reproduces_iff.2 hprivd,
      committed_eq_true hcommitted⟩
  · -- a matching binary without all the evidence would have been refused
    generalize hreplaced : (committed && _ && _) = replaced at ht hnot
    cases replaced with
    | true => cases ht
    | false =>
      cases ht
      simp only [Bool.not_false, Bool.true_and, Bool.or_eq_true, not_or, Bool.not_eq_true] at hnot
      refine ⟨fun heq => ?_, fun heq => ?_⟩
      iterate 2 simp [heq, digestMatches] at hnot

/-- The script has installed the package, or the runner refuses. -/
theorem keeps_confirm {target : Target} (h : RunnerOk host s id op (.completed target)) :
    Keeps host s id (confirm host s id op target) := by
  have hknows := h.knows _ rfl
  unfold confirm
  split
  · exact h.refuse rfl rfl
  rename_i hmatches
  simp only [Bool.or_eq_true, Bool.not_eq_true', not_or, Bool.not_eq_false] at hmatches
  split
  · exact keeps_ends trivial
  · rename_i hcommitted
    refine keeps_goes ⟨h.knows, ?_, h.holds, h.active, fun _ => ?_, ?_⟩
    · simp [RunPhase.target]
    · exact ⟨target, hknows, h.verified _ rfl, reproduces_iff.2 hmatches.1,
        reproduces_iff.2 hmatches.2, committed_eq_true hcommitted⟩
    · simp [RunPhase.launches]
  · exact h.refuse rfl rfl

/-- A runner writes a success when it knows that the package is installed. -/
theorem RunnerOk.backed (h : RunnerOk host s id op phase)
    (hsucceeds : (∃ i, phase = .recording i verdict) ∨ phase = .recorded verdict) :
    Backed host s (.wrote op verdict.state) := by
  cases verdict with
  | refused failure => trivial
  | finished detail =>
    refine h.succeeds ?_
    obtain ⟨i, rfl⟩ | rfl := hsucceeds <;> rfl

/-- The pieces of a runner, by its phases. -/
theorem runAct_ok {phase : RunPhase} {piece : Piece} (h : RunnerOk host s id op phase)
    (hact : runAct host s id op phase input = some piece) : Keeps host s id piece := by
  cases phase <;> cases input <;> try cases hact
  case opened.proceed =>
    simp only [runAct] at hact
    split at hact
    all_goals cases hact
    · exact keeps_ends trivial
    · rename_i intent hintent
      refine keeps_goes ⟨?_, by simp, by simp, by simp, by simp, by simp⟩
      rintro i ⟨⟩
      exact hintent
  case loaded.proceed =>
    exact keeps_unlessTerminal fun _ => h.goes (by constructor <;> simp) (by simp)
  case pending.proceed =>
    simp only [runAct] at hact
    split at hact
    all_goals cases hact
    · exact keeps_ends trivial
    · rename_i hlock
      refine keeps_next (.lock (by simpa using hlock)) ?_ trivial
      exact ⟨h.knows, by simp, fun _ => rfl, by simp, by simp, by simp⟩
  case locked.proceed =>
    exact keeps_unlessTerminal fun hactive => keeps_next .refl
      ⟨h.knows, by simp, h.holds, fun _ => hactive, by simp, by simp⟩ hactive
  case executing.archive =>
    simp only [runAct] at hact
    split at hact
    all_goals cases hact
    · exact h.refuse rfl rfl
    · rename_i target hprepare
      obtain ⟨hintent, hverified⟩ := preparePackage_ok hprepare
      refine keeps_goes ⟨?_, ?_, h.holds, h.active, by simp, by simp⟩
      · rintro i ⟨⟩
        exact h.knows _ (by simp [hintent])
      · rintro t ⟨⟩
        exact hverified
  case prepared.proceed => exact keeps_inspect h
  case starting.proceed target replaced =>
    refine keeps_next (.record (h.holds rfl) (h.active rfl) World.intent_getD (by simp)) ?_ trivial
    refine h.write ?_ World.intent_getD fun _ => ⟨.running, by simp, rfl⟩
    cases replaced <;> constructor <;> simp
  case restarting.process =>
    simp only [runAct] at hact
    split at hact
    all_goals cases hact
    · exact h.refuse rfl rfl
    · exact h.goes (by constructor <;> simp) h.active
  case launching.process =>
    simp only [runAct] at hact
    split at hact
    all_goals cases hact
    iterate 2 exact h.refuse rfl rfl
    exact keeps_next .refl ⟨h.knows, h.verified, h.holds, h.active, by simp, by simp⟩
      ⟨h.knows _ rfl, h.verified _ rfl, h.launches _ rfl⟩
  case lifecycle.script =>
    exact keeps_next (.install (h.holds rfl))
      ⟨h.knows, h.verified, h.holds, h.active, by simp, by simp⟩ trivial
  case lifecycle.process target failure =>
    cases failure with
    | some failure =>
      cases hact
      exact h.refuse rfl rfl
    | none =>
      cases hact
      exact h.goes (by constructor <;> simp) h.active
  case completed.proceed => exact keeps_confirm h
  case recording.clock intent verdict seconds =>
    obtain ⟨state, hstate, hactive⟩ := h.active rfl
    refine keeps_next (.record (h.holds rfl) (h.active rfl) World.intent_getD ?_) ?_ ?_
    · simp [World.state_getD, hstate]
    · refine h.write ?_ World.intent_getD fun _ =>
        ⟨state, by simp [World.state_getD, hstate], hactive⟩
      cases verdict <;> constructor <;> simp
    · exact h.backed (.inl ⟨_, rfl⟩)
  case recorded.proceed verdict =>
    refine keeps_next (.record (h.holds rfl) (h.active rfl) World.intent_getD (by simp)) ?_ ?_
    · exact h.write (by constructor <;> simp) World.intent_getD (by simp)
    · exact h.backed (.inr rfl)
  case closing.proceed => exact keeps_ends trivial

/-- `schedule_and_trigger` goes on as the records of its operation say. -/
theorem keeps_schedulePieces (h : SchedulerOk s id intent .locked) :
    Keeps host s id (schedulePieces s id intent) := by
  have hlock := h.holds (by simp) (by simp)
  have hscan (absent : Bool) (rest : List Uuid) (hintent : s.intent intent.operationId = none)
      (hstate : s.state intent.operationId = none) :
      Keeps host s id (goes s (.scheduler intent (.scanning absent rest))) :=
    keeps_goes ⟨fun _ _ => hlock, fun _ => hstate, fun _ => hintent⟩
  unfold schedulePieces
  dsimp only
  split
  · rename_i hdir
    exact hscan _ _ (by simp [World.intent, hdir]) (by simp [World.state, hdir])
  rename_i dir hdir
  split
  · rename_i hintent hstate
    exact hscan _ _ (by simp [World.intent, hdir, hintent]) (by simp [World.state, hdir, hstate])
  · exact keeps_ends trivial
  split
  · exact keeps_ends trivial
  split
  · rename_i hstate
    refine keeps_goes ⟨fun _ _ => hlock, fun _ => ?_, by simp⟩
    simpa [World.state, hdir] using hstate
  · exact keeps_next (.unlockSchedule .refl hlock) ⟨by simp, by simp, by simp⟩ trivial

/-- A scheduler that still has to write the intent goes on. -/
theorem SchedulerOk.goes (h : SchedulerOk s id intent phase) (hblank : phase.blank = true) :
    Keeps host s id (goes s (.scheduler intent next)) := by
  refine keeps_goes ⟨fun _ _ => h.holds ?_ ?_, fun _ => h.stateless (.inl hblank),
    fun _ => h.blank hblank⟩
  all_goals
    rintro rfl
    cases hblank

/-- The pieces of a scheduler, by its phases. -/
theorem scheduleAct_ok (h : SchedulerOk s id intent phase)
    (hact : scheduleAct s id intent phase input = some piece) : Keeps host s id piece := by
  have hlock := h.holds
  cases phase
  case' scanning absent rest => cases rest
  all_goals cases input <;> try cases hact
  case waiting.proceed =>
    simp only [scheduleAct] at hact
    split at hact
    all_goals cases hact
    rename_i hfree
    exact keeps_next (.lockSchedule (by simpa using hfree))
      ⟨fun _ _ => rfl, by simp, by simp⟩ trivial
  case locked.proceed => exact keeps_schedulePieces h
  case scanning.nil.proceed => exact h.goes rfl
  case scanning.cons.proceed =>
    simp only [scheduleAct] at hact
    split at hact
    · cases hact
      exact keeps_ends trivial
    split at hact
    all_goals cases hact
    · exact h.goes rfl
    · exact keeps_ends trivial
  case creating.proceed =>
    simp only [scheduleAct] at hact
    split at hact
    all_goals cases hact
    · exact keeps_ends trivial
    rename_i hdir
    have hresult : s.result intent.operationId = none := by
      simp only [isSome_iff_ne_none, ne_eq, not_not] at hdir
      simp [World.result, hdir]
    refine keeps_next
      (.commit (hlock nofun nofun) (h.stateless (.inl rfl)) ?_ hresult.symm) ?_ trivial
    · simp [h.blank rfl]
    · exact ⟨fun _ _ => hlock nofun nofun, by simp, by simp⟩
  case committing.proceed =>
    refine keeps_next (.commit (hlock nofun nofun) (h.stateless (.inl rfl)) ?_ World.result_getD) ?_
      trivial
    · simp [h.blank rfl]
    · refine ⟨fun _ _ => hlock nofun nofun, fun _ => ?_, by simp⟩
      simp [World.write, World.state_getD, h.stateless (.inl rfl)]
  case accepting.proceed =>
    refine keeps_next (.unlockSchedule (.commit (hlock nofun nofun) (h.stateless (.inr rfl)) ?_
      World.result_getD) (hlock nofun nofun)) ⟨by simp, by simp, by simp⟩ trivial
    intro i hi
    rw [← hi]
    exact World.intent_getD
  case triggering.process failure => cases failure <;> exact keeps_ends trivial

/-- The pieces of a reader: it lists the operations, reads one of them, or returns. -/
theorem readerAct_cases (h : (Task.reader limit rest results).act host s id input = some piece) :
    (∃ order, piece = goes s (.reader limit (some order) results)) ∨
    (∃ failure, piece = ends s id (.failed failure)) ∨
    piece = ends s id (.reported (recent limit results)) ∨
    ∃ op more outcome, readEntry host s op = .ok outcome ∧
      piece = goes s (.reader limit (some more) (results ++ outcome.toList)) := by
  rcases rest with - | - | ⟨op, more⟩ <;> cases input <;> try cases h
  case none.listing order =>
    simp only [Task.act] at h
    split at h
    all_goals cases h
    exact .inl ⟨order, rfl⟩
  case some.nil.proceed => exact .inr (.inr (.inl rfl))
  case some.cons.proceed =>
    simp only [Task.act] at h
    split at h
    all_goals cases h
    · exact .inr (.inl ⟨_, rfl⟩)
    · exact .inr (.inr (.inr ⟨op, more, _, ‹_›, rfl⟩))

/-- Every piece keeps the contract. -/
theorem act_ok (h : TaskOk host s id t) (hact : t.act host s id input = some piece) :
    Keeps host s id piece := by
  cases t with
  | runner op phase => exact runAct_ok h hact
  | scheduler intent phase => exact scheduleAct_ok h hact
  | reader limit rest results =>
    obtain ⟨_, rfl⟩ | ⟨_, rfl⟩ | rfl | ⟨_, _, _, -, rfl⟩ := readerAct_cases hact
    · exact keeps_goes trivial
    iterate 2 exact keeps_ends trivial
    exact keeps_goes trivial

end Pieces

/-- The tasks keep the contract, whichever of them crash. -/
theorem contract (host : Host) (cancel : Task → Bool) :
    (program host cancel).Contract (fun _ => True) Guarantee (TaskOk host) where
  init _ _ := trivial
  spawn {p id t} _ hspawn := by
    cases t with
    | runner op phase =>
      cases phase <;> simp [program, Task.starts] at hspawn
      exact ⟨by simp, by simp, by simp, by simp, by simp, by simp⟩
    | scheduler intent phase =>
      cases phase <;> simp [program, Task.starts] at hspawn
      exact ⟨by simp, by simp, by simp⟩
    | reader => trivial
  act {p id t i s t' e} _ h hact := by
    obtain ⟨hG, hnext, -⟩ := act_ok h hact
    exact ⟨trivial, hG, hnext⟩
  cancel _ _ _ := ⟨trivial, .release⟩
  stable hj _ hG h := h.stable hj hG

section
variable (hrun : (program host cancel).lts.Run tr p)
include hrun

/-- In a reachable state each task knows where it stands. -/
theorem task_ok {id : Nat} {t : Task} (ht : p.task id = some t) : TaskOk host p.shared id t :=
  ((contract host cancel).reachable ⟨tr, hrun⟩).2 id t ht

/-- Every event of a run is backed by the files in which it happens. -/
theorem backed {id : Nat} {input : Input} {e : Event}
    (hstep : (program host cancel).lts.step p (.act id input e) p') : Backed host p.shared e := by
  cases hstep with
  | act ht hact => exact (act_ok (task_ok hrun ht) hact).2.2

/-- A finished operation stays finished. -/
theorem terminal_step (hstep : (program host cancel).lts.step p a p') (h : p.shared.Terminal op) :
    p'.shared.Terminal op := by
  obtain heq | ⟨id, hG⟩ := (contract host cancel).step ⟨tr, hrun⟩ hstep
  · rwa [heq]
  · obtain ⟨state, hstate, hterminal⟩ := h
    exact ⟨state, ((hG.settled op ⟨state, hstate, hterminal⟩).1.trans hstate), hterminal⟩

end

/-- **A recorded success is sound.** With crashes at any piece: a success is written only while the
verified package is installed and committed, the lifecycle script is started only over other
binaries, a finished operation is not executed and stays finished, and one runner executes at a
time. -/
theorem upgrade_success_sound (hrun : (program host cancel).lts.Run tr p)
    {a : Label Task Input Event} (hstep : (program host cancel).lts.step p a p') :
    (∀ id input op, a = .act id input (.wrote op .succeeded) → Certified host p.shared op) ∧
    (∀ id input op target, a = .act id input (.launched op target) →
      p.shared.intent op = some target.intent ∧ target.Verified host ∧
        target.Untouched p.shared.installed) ∧
    (∀ op, p.shared.Terminal op →
      (∀ id input, a ≠ .act id input (.executes op)) ∧
      (∀ id phase, p.task id = some (.runner op phase) → phase.executes = false) ∧
      p'.shared.Terminal op) ∧
    (∀ id id' op op' phase phase', p.task id = some (.runner op phase) →
      p.task id' = some (.runner op' phase') → phase.executes = true → phase'.executes = true →
      id = id') := by
  have hlock {id : Nat} {op : Uuid} {phase : RunPhase}
      (ht : p.task id = some (.runner op phase)) (hexecutes : phase.executes = true) :
      p.shared.runLock = some id := by
    have hok : RunnerOk host p.shared id op phase := task_ok hrun ht
    refine hok.holds ?_
    cases phase <;> simp_all
  refine ⟨?_, ?_, fun op hterminal => ⟨?_, ?_, terminal_step hrun hstep hterminal⟩, ?_⟩
  · rintro id input op rfl
    exact backed hrun hstep
  · rintro id input op target rfl
    exact backed hrun hstep
  · rintro id input rfl
    exact World.Active.not_terminal (backed hrun hstep) hterminal
  · intro id phase ht
    by_contra hexecutes
    have hok : RunnerOk host p.shared id op phase := task_ok hrun ht
    exact (hok.active (by simpa using hexecutes)).not_terminal hterminal
  · intro id id' op op' phase phase' ht ht' hexecutes hexecutes'
    exact some_inj.1 ((hlock ht hexecutes).symm.trans (hlock ht' hexecutes'))

/-- **Records are durable.** Whatever crashes and restarts follow, a committed intent is never
replaced, and the records of a finished operation never change. -/
theorem records_durable (hrun : (program host cancel).lts.Run tr p)
    (hsteps : (program host cancel).lts.Steps p u p') :
    (∀ op i, p.shared.intent op = some i → p'.shared.intent op = some i) ∧
    ∀ op, p.shared.Terminal op → p'.shared.state op = p.shared.state op ∧
      p'.shared.result op = p.shared.result op := by
  induction hsteps generalizing tr with
  | nil => exact ⟨fun _ _ h => h, fun _ _ => ⟨rfl, rfl⟩⟩
  | cons hstep _ ih =>
    obtain ⟨hintent, hrecords⟩ := ih (hrun.snoc hstep)
    obtain heq | ⟨id, hG⟩ := (contract host cancel).step ⟨tr, hrun⟩ hstep
    · rw [← heq]
      exact ⟨hintent, hrecords⟩
    · refine ⟨fun op i h => hintent op i (hG.intent op i h), fun op h => ?_⟩
      obtain ⟨hstate, hresult⟩ := hrecords op (terminal_step hrun hstep h)
      obtain ⟨hstate', hresult'⟩ := hG.settled op h
      exact ⟨hstate.trans hstate', hresult.trans hresult'⟩

namespace Sample

def digest (n : UInt8) : FixedBytes 32 := .fill n

def binary (n : UInt8) : PackageFile := ⟨[n], true⟩

/-- Packages of one byte: an archive is the name of its digest. -/
def host : Host where
  sha256 bytes := digest (bytes.headD 0)
  resultSha256 record := digest (if record.state = .succeeded then 1 else 0)
  runtimeArchitecture := some "amd64"
  realHost := false
  unpack _ := some ⟨"agent", binary 1, binary 2, binary 3⟩

def intent : UpgradeIntent := ⟨sampleUuid 1, sampleUuid 2, "1.0", digest 7, "amd64", digest 0⟩

def target : Target := ⟨intent, [7], ⟨"agent", binary 1, binary 2, binary 3⟩⟩

/-- The files after a complete installation. -/
def installed : Installed where
  agent := .regular [1]
  privd := .regular [2]
  commit := .regular (utf8 "archive_sha256=" ++ utf8 (hexEncode (digest 7).1) ++ [10])

def start : Pool World Task := ⟨⟨∅, none, none, ⟨.absent, .absent, .absent⟩⟩, ∅⟩

/-- The empty directory is where runs start. -/
theorem start_init : (program host cancel).lts.init start :=
  ⟨⟨rfl, rfl, rfl⟩, rfl⟩

/-- An operation is scheduled. -/
def schedules : List (Label Task Input Event) :=
  .spawn 0 (.scheduler intent .waiting) :: List.replicate 5 (.act 0 .proceed .silent) ++
    [.act 0 .proceed (.wrote (sampleUuid 1) .accepted)]

/-- A runner installs the package, up to its records. -/
def installs : List (Label Task Input Event) :=
  .spawn 1 (.runner (sampleUuid 1) .opened) :: List.replicate 3 (.act 1 .proceed .silent) ++
    [.act 1 .proceed (.executes (sampleUuid 1)), .act 1 (.archive (.ok [7]) (.ok [7])) .silent,
      .act 1 .proceed .silent, .act 1 .proceed (.wrote (sampleUuid 1) .running),
      .act 1 (.process none) (.launched (sampleUuid 1) target), .act 1 (.script installed) .silent,
      .act 1 (.process none) .silent, .act 1 .proceed .silent]

/-- The runner writes the result. -/
def succeeds : Label Task Input Event := .act 1 (.clock 5) (.wrote (sampleUuid 1) .succeeded)

end Sample

/-- A package is installed, and its success is written. -/
theorem sampleUpgrade_sound : ∃ p p', (program Sample.host fun _ => true).lts.Run
    (Sample.schedules ++ Sample.installs) p ∧
    (program Sample.host fun _ => true).lts.step p Sample.succeeds p' ∧
    Certified Sample.host p.shared (sampleUuid 1) := by
  have h : ((Sample.schedules ++ Sample.installs).foldlM (program Sample.host fun _ => true).next
      Sample.start).any (fun p => ((program Sample.host fun _ => true).next p
        Sample.succeeds).isSome) = true := by
    decide +kernel
  obtain ⟨p, hp, h⟩ := (any_eq_true _ _).1 h
  obtain ⟨p', hp'⟩ := isSome_iff_exists.1 h
  have hrun := Program.run_of_next Sample.start_init hp
  have hstep := Program.step_of_next hp'
  exact ⟨p, p', hrun, hstep, (upgrade_success_sound hrun hstep).1 _ _ _ rfl⟩

/-- The success is recorded, and another runner starts and finds it. -/
def Sample.rerun : List (Label Task Input Event) :=
  [.act 1 .proceed .done, .spawn 2 (.runner (sampleUuid 1) .opened), .act 2 .proceed .silent,
    .act 2 .proceed .done]

/-- The intent and the outcome of the sample package outlive another runner. -/
theorem sampleUpgrade_durable : ∃ p p', (program Sample.host fun _ => true).lts.Run
    (Sample.schedules ++ Sample.installs ++
      [Sample.succeeds, .act 1 .proceed (.wrote (sampleUuid 1) .succeeded)]) p ∧
    (program Sample.host fun _ => true).lts.Steps p Sample.rerun p' ∧
    p'.shared.intent (sampleUuid 1) = some Sample.intent ∧
    p'.shared.state (sampleUuid 1) = some .succeeded ∧
    p'.shared.result (sampleUuid 1) = some
      ((Verdict.finished "verified package lifecycle completed").record Sample.intent 5) := by
  have h : ((Sample.schedules ++ Sample.installs ++
      [Sample.succeeds, .act 1 .proceed (.wrote (sampleUuid 1) .succeeded)]).foldlM
        (program Sample.host fun _ => true).next Sample.start).any (fun p =>
      p.shared.intent (sampleUuid 1) = some Sample.intent ∧
      p.shared.state (sampleUuid 1) = some .succeeded ∧
      p.shared.result (sampleUuid 1) = some
        ((Verdict.finished "verified package lifecycle completed").record Sample.intent 5) ∧
      (Sample.rerun.foldlM (program Sample.host fun _ => true).next p).isSome) = true := by
    decide +kernel
  obtain ⟨p, hp, h⟩ := (any_eq_true _ _).1 h
  obtain ⟨hintent, hstate, hresult, h⟩ := of_decide_eq_true h
  obtain ⟨p', hp'⟩ := isSome_iff_exists.1 h
  have hrun := Program.run_of_next Sample.start_init hp
  have hsteps : (program Sample.host fun _ => true).lts.Steps p Sample.rerun p' :=
    .of_foldlM (fun _ _ _ hs => Program.step_of_next hs) hp'
  obtain ⟨hkept, hfinal⟩ := records_durable hrun hsteps
  obtain ⟨hstate', hresult'⟩ := hfinal _ ⟨_, hstate, rfl⟩
  exact ⟨p, p', hrun, hsteps, hkept _ _ hintent, hstate'.trans hstate, hresult'.trans hresult⟩

end Ocservia.Upgrader
