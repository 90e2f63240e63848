import Ocservia.Privd.UserEffects

/-!
# The command at a revision

`EffectStore` of the adapter over whole runs: any number of tasks call it, with files of any
content, and a task marks an effect only after its own `prepare` told it to proceed. A call that
fails rolls back and is left out, and so are crashes: a crashed task makes no further call.

A call changes the state of rows and keeps their requests, and only `prepare` puts another request
in place, one of a higher revision or of the same command (`prepare_ok`). So the row of a resource
only moves on (`Kept`), and a revision belongs to the first command that the store accepted for it.
-/

namespace Ocservia

open List Option EffectTable

namespace EffectTable

variable {μ : Type} {e e' : EffectTable μ} {request : EffectRequest}

/-- The rows are about the same requests. -/
def SameRequests (e e' : EffectTable μ) : Prop :=
  ∀ k, (e'.get? k).map (·.request) = (e.get? k).map (·.request)

theorem SameRequests.setState {r : EffectRecord μ} (h : e.get? r.request.slot = some r)
    (state : EffectState) : SameRequests e (e.setState r state) := by
  intro k
  rw [get?_setState h]
  split
  · rename_i hk
    rw [hk, h]
    rfl
  · rfl

/-- The row of the command's resource has the command, or a higher revision. -/
def Holds (e : EffectTable μ) (c : EffectCommand) : Prop :=
  ∃ r, e.get? c.slot = some r ∧ (c.revision < r.request.revision ∨ r.request.command = c)

/-- The row of a resource stays with its command, or gives way to a higher revision. -/
def Kept (e e' : EffectTable μ) : Prop := ∀ c, Holds e c → Holds e' c

theorem SameRequests.kept (h : SameRequests e e') : Kept e e' := by
  intro c ⟨r, hr, hc⟩
  have hk := h c.slot
  rw [hr] at hk
  obtain ⟨r', hr', hrequest⟩ := map_eq_some_iff.1 hk
  exact ⟨r', hr', by rwa [hrequest]⟩

/-- The row of the request's resource has the command of the request. -/
def Current (e : EffectTable μ) (request : EffectRequest) : Prop :=
  ∃ r, e.get? request.slot = some r ∧ r.request.command = request.command

/-- A revision of a resource belongs to one command. -/
theorem Current.unique {c : EffectCommand} (h : Current e request) (hc : Holds e c)
    (hslot : c.slot = request.slot) (hrevision : c.revision = request.revision) :
    c = request.command := by
  obtain ⟨r, hr, hcommand⟩ := h
  obtain ⟨r', hr', hle⟩ := hc
  cases hr.symm.trans (hslot ▸ hr')
  rcases hle with hlt | rfl
  · have hsame : r.request.revision = request.revision := congrArg EffectCommand.revision hcommand
    rw [hrevision, hsame] at hlt
    exact absurd hlt (UInt64.lt_irrefl _)
  · exact hcommand

theorem Current.setState {r : EffectRecord μ} (hr : e.get? request.slot = some r)
    (hcommand : r.request.command = request.command) (state : EffectState) :
    Kept e (e.setState r state) ∧ Current (e.setState r state) request := by
  have hslot := slot_of_get? hr
  refine ⟨(SameRequests.setState (hslot ▸ hr) state).kept, { r with state }, ?_, hcommand⟩
  rw [get?_setState (hslot ▸ hr), if_pos hslot.symm]

variable [DecidableEq μ] {current before after : μ} {reply : PrepareEffect} {r : EffectRecord μ}

theorem reviewPrepared_same {records : List (EffectRecord μ)} (hR : Reviewed records e)
    (h : reviewPrepared request current records e = .ok e') : SameRequests e e' := by
  induction records generalizing e with
  | nil =>
    cases h
    exact fun _ => rfl
  | cons r records ih =>
    rcases reviewPrepared_cons h with ⟨-, h⟩ | ⟨-, -, h⟩
    · split at h
      · exact ih hR.tail h
      · intro k
        rw [ih (hR.setState _) h k, SameRequests.setState (hR.rows r mem_cons_self).1 _ k]
    · exact ih hR.tail h

omit [DecidableEq μ] in
/-- The request takes the place of a lower revision, or of its own command. -/
theorem recordPrepared_current (hlast : ∀ r, e.get? request.slot = some r →
      r.request.revision < request.revision ∨ r.request.command = request.command)
    (h : recordPrepared e request before after = .ok (reply, e')) :
    Kept e e' ∧ Current e' request := by
  obtain ⟨-, rfl⟩ := recordPrepared_ok h
  have hget := KeyedTable.get?_upsert e ⟨request, .prepared, before, after⟩
  refine ⟨fun c ⟨r, hr, hc⟩ => ?_, _, (hget _).trans (if_pos rfl), rfl⟩
  rw [Holds, hget]
  split
  · rename_i hk
    refine ⟨_, rfl, ?_⟩
    rcases hc with hlt | rfl <;> rcases hlast r (hk ▸ hr) with hlt' | hcommand
    · exact .inl (UInt64.lt_trans hlt hlt')
    · have hsame : r.request.revision = request.revision :=
        congrArg EffectCommand.revision hcommand
      exact .inl (hsame ▸ hlt)
    · exact .inl hlt'
    · exact .inr hcommand.symm
  · exact ⟨r, hr, hc⟩

omit [DecidableEq μ] in
theorem command_of_same (hr : e.get? request.slot = some r)
    (hrevision : r.request.revision = request.revision)
    (hsame : r.request.sameEffect request ≠ false) : r.request.command = request.command :=
  EffectRequest.command_eq (slot_of_get? hr) hrevision (Bool.eq_true_of_not_eq_false hsame)

theorem prepareExisting_current (hr : e.get? request.slot = some r)
    (h : prepareExisting e request r before after = .ok (reply, e')) :
    Kept e e' ∧ Current e' request := by
  have hput : r.request.revision < request.revision ∨ r.request.command = request.command →
      recordPrepared e request before after = .ok (reply, e') → Kept e e' ∧ Current e' request := by
    refine fun hlast => recordPrepared_current fun x hx => ?_
    cases hr.symm.trans hx
    exact hlast
  rw [prepareExisting] at h
  split at h
  · cases h
  rename_i hle
  split at h
  · rename_i hne
    exact hput (.inl (UInt64.lt_of_le_of_ne (UInt64.not_lt.1 hle) hne)) h
  rename_i heq
  split at h
  · cases h
  rename_i hsame
  have hcommand := command_of_same hr (not_not.1 heq) hsame
  repeat' split at h
  all_goals first
    | exact hput (.inr hcommand) h
    | cases h; exact ⟨fun _ => id, r, hr, hcommand⟩
    | cases h; exact Current.setState hr hcommand _
    | cases h

/-- After a successful `prepare` the row has the command of the request. -/
theorem prepare_ok {now : Int} (h : e.prepare now request before after = .ok (reply, e')) :
    Kept e e' ∧ Current e' request := by
  rw [prepare] at h
  obtain ⟨_, -, h⟩ := Checked.bind_eq_ok.1 h
  obtain ⟨e₁, hreview, h⟩ := Checked.bind_eq_ok.1 h
  have hkept := (reviewPrepared_same (reviewed_preparedEffects e _) hreview).kept
  suffices Kept e₁ e' ∧ Current e' request from
    ⟨fun c hc => this.1 c (hkept c hc), this.2⟩
  split at h
  · rename_i hr
    exact prepareExisting_current hr h
  rename_i hnone
  split at h
  · cases h
  · exact recordPrepared_current (by simp [hnone]) h

theorem observe_ok {o : DesiredEffectObservation} (h : e.observe request current = .ok (o, e')) :
    Kept e e' ∧ (o.state = .appliedExact → Current e' request) := by
  rw [observe] at h
  obtain ⟨_, -, h⟩ := Checked.bind_eq_ok.1 h
  split at h
  · cases h
    exact ⟨fun _ => id, fun ho => by cases ho⟩
  rename_i r hr
  have h := Except.ok.inj h
  simp only [observeExisting, observePrepared] at h
  split at h
  · cases h
    exact ⟨fun _ => id, fun ho => by cases ho⟩
  rename_i hle
  split at h
  · cases h
    exact ⟨fun _ => id, fun ho => by cases ho⟩
  rename_i hge
  split at h
  · cases h
    exact ⟨fun _ => id, fun ho => by cases ho⟩
  rename_i hsame
  have hcommand :=
    command_of_same hr (UInt64.le_antisymm (UInt64.not_lt.1 hle) (UInt64.not_lt.1 hge)) hsame
  repeat' split at h
  all_goals first
    | cases h; exact ⟨fun _ => id, fun _ => ⟨r, hr, hcommand⟩⟩
    | cases h
      exact ⟨(Current.setState hr hcommand _).1, fun _ => (Current.setState hr hcommand _).2⟩

end EffectTable

/-! ## Runs of the store -/

/-- A call of the store that succeeds. -/
inductive EffectCall (μ : Type) where
  | prepare (now : Int) (request : EffectRequest) (before after : μ) (reply : PrepareEffect)
  | mark (request : EffectRequest) (state : EffectState)
  | observe (request : EffectRequest) (current : μ) (observation : DesiredEffectObservation)

namespace EffectCall

variable {μ : Type}

/-- The command that the call reports as applied. -/
def applied : EffectCall μ → Option EffectCommand
  | .prepare _ request _ _ .alreadyApplied => some request.command
  | .mark request .applied => some request.command
  | .observe request _ ⟨.appliedExact, _⟩ => some request.command
  | _ => none

/-- The store, and the requests whose tasks may mark them. -/
inductive Step [DecidableEq μ] : EffectTable μ × List EffectRequest → EffectCall μ →
    EffectTable μ × List EffectRequest → Prop where
  | prepare {e e' : EffectTable μ} {tasks : List EffectRequest} {now : Int}
      {request : EffectRequest} {before after : μ} {reply : PrepareEffect} :
      e.prepare now request before after = .ok (reply, e') →
      Step (e, tasks) (.prepare now request before after reply)
        (e', if reply = .proceed then request :: tasks else tasks)
  | mark {e e' : EffectTable μ} {tasks : List EffectRequest} {request : EffectRequest}
      {state : EffectState} : request ∈ tasks → e.mark request state = .ok e' →
      Step (e, tasks) (.mark request state) (e', tasks)
  | observe {e e' : EffectTable μ} {tasks : List EffectRequest} {request : EffectRequest}
      {current : μ} {o : DesiredEffectObservation} :
      e.observe request current = .ok (o, e') →
        Step (e, tasks) (.observe request current o) (e', tasks)

/-- The calls of all tasks on a store that starts empty. -/
def system (μ : Type) [DecidableEq μ] : LTS (EffectTable μ × List EffectRequest) (EffectCall μ) :=
  ⟨fun w => w = (∅, []), Step⟩

variable {w w' : EffectTable μ × List EffectRequest} {a : EffectCall μ} {t : List (EffectCall μ)}

theorem step_kept [DecidableEq μ] (h : (system μ).step w a w') : w.1.Kept w'.1 := by
  cases h with
  | prepare h => exact (prepare_ok h).1
  | mark _ h =>
    obtain ⟨r, hr, rfl⟩ := mark_ok h
    exact (EffectTable.SameRequests.setState (slot_of_get? hr ▸ hr) _).kept
  | observe h => exact (observe_ok h).1

/-- The commands that tasks proceed with or that were applied: the store holds each, and no two have
one revision of a resource. -/
structure Identified (t : List (EffectCall μ)) (w : EffectTable μ × List EffectRequest)
    (known : List EffectCommand) : Prop where
  tasks : ∀ r ∈ w.2, r.command ∈ known
  applied : ∀ a ∈ t, ∀ c ∈ a.applied, c ∈ known
  holds : ∀ c ∈ known, w.1.Holds c
  unique : ∀ c ∈ known, ∀ d ∈ known, c.slot = d.slot → c.revision = d.revision → c = d

theorem Identified.kept {known : List EffectCommand} (h : Identified t w known)
    (hkept : w.1.Kept w'.1) (htasks : w'.2 = w.2) (ha : ∀ c ∈ a.applied, c ∈ known) :
    Identified (t ++ [a]) w' known where
  tasks r hr := h.tasks r (htasks ▸ hr)
  applied b hb c hc := by
    rcases mem_append.1 hb with hb | hb
    · exact h.applied b hb c hc
    · rw [mem_singleton.1 hb] at hc
      exact ha c hc
  holds c hc := hkept c (h.holds c hc)
  unique := h.unique

/-- A command becomes known while the store has it. -/
theorem Identified.learn {known : List EffectCommand} {request : EffectRequest}
    (h : Identified t w known) (hkept : w.1.Kept w'.1)
    (hcurrent : w'.1.Current request)
    (htasks : ∀ r ∈ w'.2, r ∈ w.2 ∨ r = request) (ha : ∀ c ∈ a.applied, c = request.command) :
    Identified (t ++ [a]) w' (request.command :: known) where
  tasks r hr := by
    rcases htasks r hr with hr | rfl
    · exact mem_cons_of_mem _ (h.tasks r hr)
    · exact mem_cons_self
  applied b hb c hc := by
    rcases mem_append.1 hb with hb | hb
    · exact mem_cons_of_mem _ (h.applied b hb c hc)
    · rw [mem_singleton.1 hb] at hc
      exact ha c hc ▸ mem_cons_self
  holds c hc := by
    rcases mem_cons.1 hc with rfl | hc
    · obtain ⟨r, hr, hc⟩ := hcurrent
      exact ⟨r, hr, .inr hc⟩
    · exact hkept c (h.holds c hc)
  unique c hc d hd hslot hrevision := by
    have hold : ∀ c ∈ known, c.slot = request.slot → c.revision = request.revision →
        c = request.command :=
      fun c hc => hcurrent.unique (hkept c (h.holds c hc))
    rcases mem_cons.1 hc with rfl | hc <;> rcases mem_cons.1 hd with rfl | hd
    · rfl
    · exact (hold d hd hslot.symm hrevision.symm).symm
    · exact hold c hc hslot hrevision
    · exact h.unique c hc d hd hslot hrevision

theorem run_identified [DecidableEq μ] (h : (system μ).Run t w) :
    ∃ known, Identified t w known := by
  refine h.invariant (fun t w => ∃ known, Identified t w known) ?_ ?_
  · rintro w rfl
    exact ⟨[], nofun, nofun, nofun, nofun⟩
  · rintro t w a w' - ⟨known, hI⟩ hs
    have hkept := step_kept hs
    cases hs with
    | @prepare e e' tasks now request before after reply h =>
      refine ⟨_, hI.learn hkept (prepare_ok h).2 (fun r hr => ?_) fun c hc => ?_⟩
      · dsimp only at hr
        split at hr
        · exact (mem_cons.1 hr).symm
        · exact .inl hr
      · cases reply with
        | proceed => cases hc
        | alreadyApplied => exact (some.inj hc).symm
    | @mark e e' tasks request state hmem h =>
      refine ⟨known, hI.kept hkept rfl fun c hc => ?_⟩
      cases state with
      | applied => exact some.inj hc ▸ hI.tasks request hmem
      | prepared | absent => cases hc
    | @observe e e' tasks request current o h =>
      obtain ⟨state, revision⟩ := o
      cases state with
      | appliedExact =>
        refine ⟨_, hI.learn hkept ((observe_ok h).2 rfl) (fun r hr => .inl hr)
          fun c hc => (some.inj hc).symm⟩
      | unknown | absent | supersededByNewerRevision => exact ⟨known, hI.kept hkept rfl nofun⟩

/-- **A revision of a resource belongs to one command**: the stored revision never decreases and its
command does not change, and two commands reported as applied at one revision of a kind and resource
are the same. -/
theorem desired_effect_identity [DecidableEq μ] (h : (system μ).Run t w) :
    (∀ u w', (system μ).Steps w u w' → ∀ k r, w.1.get? k = some r → ∃ r', w'.1.get? k = some r' ∧
      (r.request.revision < r'.request.revision ∨ r'.request.command = r.request.command)) ∧
      ∀ a ∈ t, ∀ b ∈ t, ∀ c ∈ a.applied, ∀ d ∈ b.applied, c.slot = d.slot →
        c.revision = d.revision → c = d := by
  refine ⟨fun u w' hsteps k r hr => ?_, fun a ha b hb c hc d hd => ?_⟩
  · have hkept := hsteps.related (R := fun w w' => w.1.Kept w'.1) (fun _ _ => id)
      (fun h h' c hc => h' c (h c hc)) fun _ _ _ => step_kept
    obtain rfl := slot_of_get? hr
    exact hkept r.request.command ⟨r, hr, .inr rfl⟩
  · obtain ⟨known, hI⟩ := run_identified h
    exact hI.unique c (hI.applied a ha c hc) d (hI.applied b hb d hd)

/-- Whatever follows, the row of a creation keeps its command or moves to a higher revision. -/
theorem creation_identified : ∃ w, (system (List UInt8)).Run
    [.prepare 500 UserFile.sampleCreation [] [97] .proceed] w ∧
    ∀ u w', (system (List UInt8)).Steps w u w' → ∀ k r, w.1.get? k = some r →
      ∃ r', w'.1.get? k = some r' ∧ (r.request.revision < r'.request.revision ∨
        r'.request.command = r.request.command) := by
  have hrun : (system (List UInt8)).Run [.prepare 500 UserFile.sampleCreation [] [97] .proceed]
      (UserFile.sampleStore, [UserFile.sampleCreation]) :=
    .snoc (.start rfl) (Step.prepare (by decide +kernel))
  exact ⟨_, hrun, (desired_effect_identity hrun).1⟩

end EffectCall

end Ocservia
