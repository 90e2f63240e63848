import Ocservia.Upgrader.Soundness

/-!
# Whether a reported outcome is final

`write_terminal` writes the result record before the state record. `read_recent_results` looks at
the result only, and `run` decides from the state whether to execute again. A runner that ends
between the two writes leaves an outcome that is reported and then replaced by the next runner. When
no runner ends there, an outcome that has been reported stays.
-/

namespace Ocservia.Upgrader

open Wire Tasks Checked Option Pool List

/-- The tasks that may end early: all, or all but a runner between its two records. -/
def mayEnd (interrupt : Bool) : Task → Bool
  | .runner _ (.recorded _) => interrupt
  | _ => true

/-- The outcome has been returned by `read_recent_results`. -/
def Reported (tr : List (Label Task Input Event)) (outcome : DurableUpgradeResult) : Prop :=
  ∃ id input results, .act id input (.reported results) ∈ tr ∧ outcome ∈ results

/-- Two reads never return different outcomes of an operation. -/
def OutcomesFinal (tr : List (Label Task Input Event)) : Prop :=
  ∀ outcome outcome', Reported tr outcome → Reported tr outcome' →
    outcome.record.operationId = outcome'.record.operationId →
    outcome.record.state = outcome'.record.state ∧ outcome.sha256 = outcome'.sha256

/-- The outcome is the one on file. -/
def Filed (host : Host) (s : World) (outcome : DurableUpgradeResult) : Prop :=
  s.result outcome.record.operationId = some outcome.record ∧
    outcome.sha256 = host.resultSha256 outcome.record

theorem readEntry_filed (h : readEntry host s op = .ok (some outcome)) : Filed host s outcome := by
  iterate 2 obtain ⟨_, h⟩ := of_bind h
  split at h
  · cases h
  rename_i record hresult
  obtain ⟨hid, h⟩ := require_bind.1 h
  iterate 3 obtain ⟨_, h⟩ := of_bind h
  cases h
  obtain rfl := eq_of_beq hid
  exact ⟨hresult, rfl⟩

theorem mem_of_mem_recent (h : outcome ∈ recent limit results) : outcome ∈ results :=
  (perm_insertionSort _ _).mem_iff.1 (mem_of_mem_take h)

/-- The outcomes that a reader has collected. -/
@[simp] def Task.read : Task → List DurableUpgradeResult
  | .reader _ _ results => results
  | _ => []

section Pieces
variable {id : Nat}

/-- A piece that writes no result and reports none. -/
def Quiet (s : World) (piece : Piece) : Prop :=
  (∀ op, piece.1.result op = s.result op) ∧ (∀ u ∈ piece.2.1, u.read = []) ∧
    ∀ results, piece.2.2 ≠ .reported results

theorem quiet_unlessTerminal {next : Piece} (h : Quiet s next) :
    Quiet s (unlessTerminal s id op next) := by
  unfold unlessTerminal
  split
  · simp [Quiet, ends, World.release, World.result, World.dir]
  · split
    · simp [Quiet, ends, World.release, World.result, World.dir]
    · exact h

variable {t : Task}

theorem quiet_inspect : Quiet s (inspect host s id op target) := by
  unfold inspect
  split
  · simp [Quiet, ends, World.release, World.result, World.dir]
  · dsimp only
    split <;> simp [Quiet, refuse, goes]

theorem quiet_confirm : Quiet s (confirm host s id op target) := by
  unfold confirm
  split
  · simp [Quiet, refuse, goes]
  · split <;> simp [Quiet, refuse, goes, ends, World.release, World.result, World.dir]

/-- A new state of an operation leaves the results. -/
theorem result_write_state (s : World) (op : Uuid) (state : OperationState) (o : Uuid) :
    (s.write op fun dir => { dir with state := some state }).result o = s.result o := by
  by_cases ho : o = op <;> simp [World.write, ho, World.result_getD]

/-- A runner writes a result in one piece, and goes on to write the state. -/
theorem runAct_quiet (hact : runAct host s id op phase input = some piece) :
    Quiet s piece ∨ ∃ intent verdict s', phase = .recording intent verdict ∧
      piece = (s', some (.runner op (.recorded verdict)), .wrote op verdict.state) ∧
      ∀ o, o ≠ op → s'.result o = s.result o := by
  cases phase <;> cases input <;> try cases hact
  case loaded.proceed => exact .inl (quiet_unlessTerminal (by simp [Quiet, goes]))
  case locked.proceed => exact .inl (quiet_unlessTerminal (by simp [Quiet]))
  case prepared.proceed => exact .inl quiet_inspect
  case completed.proceed => exact .inl quiet_confirm
  case recording.clock intent verdict seconds =>
    refine .inr ⟨intent, verdict, _, rfl, rfl, fun o ho => ?_⟩
    simp [World.write, ho]
  case starting.proceed => exact .inl ⟨result_write_state s op .running, by simp, by simp⟩
  case recorded.proceed verdict =>
    exact .inl ⟨result_write_state s op verdict.state, by simp, by simp⟩
  case lifecycle.process target failure =>
    cases failure <;> cases hact <;> exact .inl (by simp [Quiet, refuse, goes])
  -- the pieces that decide from what they find
  case opened.proceed | pending.proceed | executing.archive | restarting.process
    | launching.process =>
    simp only [runAct] at hact
    split at hact
    all_goals
      cases hact
      exact .inl (by simp [Quiet, refuse, goes, ends, World.release, World.result, World.dir])
  all_goals exact .inl (by simp [Quiet, goes, ends, World.release, World.result, World.dir])

/-- A scheduler writes no result. -/
theorem scheduleAct_quiet (hact : scheduleAct s id intent phase input = some piece) :
    Quiet s piece := by
  cases phase
  case' scanning absent rest => cases rest
  all_goals cases input <;> try cases hact
  case locked.proceed =>
    unfold schedulePieces
    dsimp only
    repeat' split
    all_goals simp [Quiet, goes, ends, World.release, World.result, World.dir]
  case waiting.proceed =>
    simp only [scheduleAct] at hact
    split at hact <;> cases hact
    simp [Quiet, goes, World.result, World.dir]
  case scanning.nil.proceed => simp [Quiet, goes]
  case scanning.cons.proceed =>
    simp only [scheduleAct] at hact
    repeat' split at hact
    all_goals
      cases hact
      simp [Quiet, goes, ends, World.release, World.result, World.dir]
  case creating.proceed =>
    simp only [scheduleAct] at hact
    split at hact
    all_goals cases hact
    · simp [Quiet, ends, World.release, World.result, World.dir]
    refine ⟨fun o => ?_, by simp [goes], by simp [goes]⟩
    by_cases ho : o = intent.operationId
    · simp_all [goes, World.result, World.dir_put]
    · simp [goes, ho]
  case committing.proceed =>
    refine ⟨fun o => ?_, by simp [goes], by simp [goes]⟩
    by_cases ho : o = intent.operationId <;> simp [goes, World.write, ho, World.result_getD]
  case accepting.proceed =>
    exact ⟨result_write_state s intent.operationId .accepted, by simp, by simp⟩
  case triggering.process failure =>
    cases failure <;> simp [Quiet, ends, World.release, World.result, World.dir]

/-- Results are only written by a runner that goes on to write the state. -/
theorem act_result (hact : t.act host s id input = some (s', t', e)) :
    (∀ op, s'.result op = s.result op) ∨ ∃ op intent verdict,
      t = .runner op (.recording intent verdict) ∧ t' = some (.runner op (.recorded verdict)) ∧
        ∀ o, o ≠ op → s'.result o = s.result o := by
  cases t with
  | runner op phase =>
    obtain hquiet | ⟨intent, verdict, s', rfl, heq, hother⟩ := runAct_quiet hact
    · exact .inl hquiet.1
    · obtain ⟨rfl, rfl, rfl⟩ := heq
      exact .inr ⟨op, intent, verdict, rfl, rfl, hother⟩
  | scheduler intent phase => exact .inl (scheduleAct_quiet hact).1
  | reader limit rest results =>
    left
    obtain ⟨_, h⟩ | ⟨_, h⟩ | h | ⟨_, _, _, -, h⟩ := readerAct_cases hact
    all_goals
      cases h
      simp [World.release, World.result, World.dir]

/-- What a piece reads is on file, and what it reports has been read. -/
theorem act_reads (hact : t.act host s id input = some (s', t', e)) :
    (∀ u ∈ t', ∀ outcome ∈ u.read, outcome ∈ t.read ∨ Filed host s outcome) ∧
      ∀ results, e = .reported results → ∀ outcome ∈ results, outcome ∈ t.read := by
  cases t with
  | runner op phase =>
    obtain ⟨-, hread, hevent⟩ | ⟨intent, verdict, s', rfl, heq, -⟩ := runAct_quiet hact
    · simp_all
    · obtain ⟨rfl, rfl, rfl⟩ := heq
      simp
  | scheduler intent phase =>
    obtain ⟨-, hread, hevent⟩ := scheduleAct_quiet hact
    simp_all
  | reader limit rest results =>
    obtain ⟨_, h⟩ | ⟨_, h⟩ | h | ⟨op, _, found, hentry, h⟩ := readerAct_cases hact
    all_goals cases h
    · simp +contextual
    · simp
    · refine ⟨by simp, ?_⟩
      rintro results ⟨⟩ outcome ho
      exact mem_of_mem_recent ho
    · refine ⟨?_, by simp⟩
      rintro u ⟨⟩ outcome ho
      refine (mem_append.1 ho).imp_right fun ho => ?_
      obtain rfl := mem_toList.1 ho
      exact readEntry_filed hentry

end Pieces

/-- What is reported stays on file, as long as no runner ends between its two records. -/
structure Kept (host : Host) (tr : List (Label Task Input Event)) (p : Pool World Task) : Prop where
  settled : ∀ op record, p.shared.result op = some record → p.shared.Terminal op ∨
    ∃ id verdict, p.task id = some (.runner op (.recorded verdict))
  reads : ∀ id t, p.task id = some t → ∀ outcome ∈ t.read, Filed host p.shared outcome
  reported : ∀ outcome, Reported tr outcome → Filed host p.shared outcome

theorem Kept.result_step (h : Kept host tr p) (hrun : (program host cancel).lts.Run tr p)
    (hstep : (program host cancel).lts.step p a p') (hresult : p.shared.result op = some record) :
    p'.shared.result op = some record := by
  cases hstep with
  | spawn => simpa using hresult
  | cancel => simpa [program, World.release, World.result, World.dir] using hresult
  | @act id t i s t' e ht hact =>
    obtain hsame | ⟨o, intent, verdict, rfl, rfl, hother⟩ := act_result hact
    · simpa [hsame] using hresult
    by_cases ho : op = o
    · -- the operation is being executed, so its result is not there yet
      subst ho
      have hok : RunnerOk host p.shared id op (.recording intent verdict) := task_ok hrun ht
      exfalso
      obtain hterminal | ⟨j, v, hj⟩ := h.settled op record hresult
      · exact (hok.active rfl).not_terminal hterminal
      · have hok' : RunnerOk host p.shared j op (.recorded v) := task_ok hrun hj
        cases (hok.holds rfl).symm.trans (hok'.holds rfl)
        cases ht.symm.trans hj
    · simpa [hother op ho] using hresult

/-- A runner between its two records stays there until it has written the second. -/
theorem recorded_step (hstep : (program host (mayEnd false)).lts.step p a p') {id : Nat}
    {verdict : Verdict} (h : p.task id = some (.runner op (.recorded verdict))) :
    p'.shared.Terminal op ∨ p'.task id = some (.runner op (.recorded verdict)) := by
  cases hstep with
  | @spawn j t hnone _ =>
    refine .inr ?_
    rw [task_put_ne, h]
    rintro rfl
    simp [hnone] at h
  | @cancel j t ht hc =>
    refine .inr ?_
    rw [task_put_ne, task_withShared, h]
    rintro rfl
    cases ht.symm.trans h
    cases hc
  | @act j t i s t' e ht hact =>
    by_cases hj : id = j
    · subst hj
      cases ht.symm.trans h
      cases i <;> try cases hact
      refine .inl ⟨verdict.state, ?_, ?_⟩
      · simp [World.write]
      · cases verdict <;> rfl
    · exact .inr (by simpa [task_put_ne, hj] using h)

theorem Kept.step (h : Kept host tr p) (hrun : (program host (mayEnd false)).lts.Run tr p)
    (hstep : (program host (mayEnd false)).lts.step p a p') : Kept host (tr ++ [a]) p' := by
  have hfiled {outcome : DurableUpgradeResult} (ho : Filed host p.shared outcome) :
      Filed host p'.shared outcome := ⟨h.result_step hrun hstep ho.1, ho.2⟩
  have hsettled {op : Uuid} {r : ResultRecord} (hr : p.shared.result op = some r) :
      p'.shared.Terminal op ∨ ∃ id verdict, p'.task id = some (.runner op (.recorded verdict)) := by
    obtain hterminal | ⟨id, verdict, ht⟩ := h.settled op r hr
    · exact .inl (terminal_step hrun hstep hterminal)
    · exact (recorded_step hstep ht).imp_right fun ht => ⟨id, verdict, ht⟩
  have hreported (hsilent : ∀ id input results, a ≠ .act id input (.reported results)) :
      ∀ outcome, Reported (tr ++ [a]) outcome → Filed host p'.shared outcome := by
    rintro outcome ⟨id, input, results, hmem, ho⟩
    obtain hmem | hmem := mem_append.1 hmem
    · exact hfiled (h.reported outcome ⟨id, input, results, hmem, ho⟩)
    · exact absurd (mem_singleton.1 hmem).symm (hsilent _ _ _)
  cases hstep with
  | @spawn id t hnone hspawn =>
    refine ⟨fun op record hr => hsettled (by simpa using hr), fun j u hput outcome ho => ?_,
      hreported (by simp)⟩
    obtain ⟨rfl, hu⟩ | ⟨-, hu⟩ := of_task_put hput
    · cases hu
      cases t with
      | reader limit rest results =>
        cases rest <;> cases results <;> simp [program, Task.starts] at hspawn ho
      | _ => cases ho
    · exact hfiled (h.reads j u hu outcome ho)
  | @cancel id t ht hc =>
    refine ⟨fun op record hr => hsettled (r := record) ?_, fun j u hu outcome ho => ?_,
      hreported (by simp)⟩
    · simpa [program, World.release, World.result, World.dir] using hr
    · obtain ⟨-, ⟨⟩⟩ | ⟨-, hu⟩ := of_task_put hu
      exact hfiled (h.reads j u hu outcome ho)
  | @act id t i s t' e ht hact =>
    obtain ⟨hread, hevent⟩ := act_reads hact
    refine ⟨fun op record hr => ?_, fun j u hput outcome ho => ?_, ?_⟩
    · rw [shared_put, shared_withShared] at hr
      obtain hsame | ⟨o, intent, verdict, rfl, rfl, hother⟩ := act_result hact
      · exact hsettled ((hsame op).symm.trans hr)
      · by_cases ho : op = o
        · exact .inr ⟨id, verdict, by simp [ho]⟩
        · exact hsettled ((hother op ho).symm.trans hr)
    · obtain ⟨rfl, hu⟩ | ⟨-, hu⟩ := of_task_put hput
      · exact hfiled ((hread u hu outcome ho).elim (h.reads j t ht outcome) fun hf => hf)
      · exact hfiled (h.reads j u hu outcome ho)
    · rintro outcome ⟨j, input, results, hmem, ho⟩
      obtain hmem | hmem := mem_append.1 hmem
      · exact hfiled (h.reported outcome ⟨j, input, results, hmem, ho⟩)
      · obtain ⟨rfl, rfl, rfl⟩ := Label.act.inj (mem_singleton.1 hmem)
        exact hfiled (h.reads _ t ht outcome (hevent results rfl outcome ho))

theorem Kept.run (hrun : (program host (mayEnd false)).lts.Run tr p) : Kept host tr p := by
  induction hrun with
  | @start p h0 =>
    obtain ⟨⟨hempty, -, -⟩, htasks⟩ := h0
    refine ⟨fun op record hr => ?_, fun id t ht => ?_, ?_⟩
    · simp [World.result, World.dir, hempty] at hr
    · simp [task, htasks] at ht
    · rintro outcome ⟨_, _, _, hmem, -⟩
      cases hmem
  | snoc hrun hstep ih => exact ih.step hrun hstep

namespace Sample

/-- The error of `validate_spool_file` for a package that is not there. -/
def noRelease : UpgradeStoreError :=
  .package "trusted package spool does not provide the authorized release"

/-- The runner ends after its first record, and the next one finds no package in the spool. -/
def interrupted : List (Label Task Input Event) :=
  .cancel 1 :: .spawn 1 (.runner (sampleUuid 1) .opened) ::
    List.replicate 3 (.act 1 .proceed .silent) ++
    [.act 1 .proceed (.executes (sampleUuid 1)),
      .act 1 (.archive (.error noRelease) (.ok [])) .silent,
      .act 1 (.clock 6) (.wrote (sampleUuid 1) .failed)]

/-- The outcomes are read. -/
def reports (verdict : Verdict) (seconds : UInt64) : List (Label Task Input Event) :=
  let record := verdict.record intent seconds
  [.spawn 2 (.reader 1 none []), .act 2 (.listing [sampleUuid 1]) .silent, .act 2 .proceed .silent,
    .act 2 .proceed (.reported [⟨record, host.resultSha256 record⟩])]

/-- An outcome is reported before and after the second run. -/
def revised : List (Label Task Input Event) :=
  schedules ++ installs ++ [succeeds] ++
    reports (.finished "verified package lifecycle completed") 5 ++
    interrupted ++ reports (.refused noRelease) 6

theorem revised_run : ∃ p, (program host (mayEnd true)).lts.Run revised p := by
  have h : (revised.foldlM (program host (mayEnd true)).next start).isSome = true := by
    decide +kernel
  obtain ⟨p, hp⟩ := isSome_iff_exists.1 h
  exact ⟨p, Program.run_of_next start_init hp⟩

theorem revised_not_final : ¬ OutcomesFinal revised := by
  intro hfinal
  have hreported (verdict : Verdict) (seconds : UInt64)
      (h : ∀ a ∈ reports verdict seconds, a ∈ revised) :
      Reported revised
        ⟨verdict.record intent seconds, host.resultSha256 (verdict.record intent seconds)⟩ :=
    ⟨2, .proceed, _, h _ (by simp [reports]), mem_singleton.2 rfl⟩
  have hstate := (hfinal _ _
    (hreported (.finished "verified package lifecycle completed") 5 (by simp +contextual [revised]))
    (hreported (.refused noRelease) 6 (by simp +contextual [revised])) rfl).1
  cases hstate

end Sample

/-- A success is reported, and then a failure of the same operation. -/
theorem reported_success_revised : ∃ p,
    (program Sample.host (mayEnd true)).lts.Run Sample.revised p ∧
      ¬ OutcomesFinal Sample.revised := by
  obtain ⟨p, hrun⟩ := Sample.revised_run
  exact ⟨p, hrun, Sample.revised_not_final⟩

/-- **A reported outcome is final exactly when no runner ends between its two records.** -/
theorem outcomes_final_iff (interrupt : Bool) :
    (∀ host tr p, (program host (mayEnd interrupt)).lts.Run tr p → OutcomesFinal tr) ↔
      interrupt = false := by
  constructor
  · intro h
    by_contra hinterrupt
    obtain rfl : interrupt = true := by simpa using hinterrupt
    obtain ⟨p, hrun⟩ := Sample.revised_run
    exact Sample.revised_not_final (h _ _ p hrun)
  · rintro rfl host tr p hrun outcome outcome' h h' hid
    obtain ⟨hfiled, hdigest⟩ := (Kept.run hrun).reported outcome h
    obtain ⟨hfiled', hdigest'⟩ := (Kept.run hrun).reported outcome' h'
    rw [hid, hfiled'] at hfiled
    have hrecord := some_inj.1 hfiled
    exact ⟨by rw [hrecord], by rw [hdigest, hdigest', hrecord]⟩

end Ocservia.Upgrader
