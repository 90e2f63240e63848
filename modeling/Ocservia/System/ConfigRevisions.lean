import Ocservia.System.ConfigSystem

/-!
# Configuration revisions across Controller and Agent

The invariant of the configuration system (`configSystem_inv`): with `m` revisions applied on the
Agent, the record of the `i`-th apply succeeded exactly when it is among the first `m`. A delivery
keeps it because a completion with a revision is licensed, by the revision fence or by a receipt of
an execution that passed the fence earlier, and finds its record open.

An apply that ends without an effect therefore blocks every later one (`next_apply_current_iff`),
and applies take effect in order (`applies_in_order`).
-/

namespace Ocservia

open Durable Journal Option Agent NodeConfigState ConfigWorld

/-! ## Steps -/

section
variable {P : Platform} {w w' : ConfigWorld}

variable {i : Nat} {key : Uuid} {j : Journal} {envelope : CommandEnvelope}
  {identity : ConfigApplyIdentity}

/-- An event that changes the state of one apply. -/
theorem ConfigInv.modify (h : ConfigInv w) (ha : w.applies[i]? = some a) (node : NodeConfigState)
    (hd : node.desiredRevision = w.node.desiredRevision)
    (f : ConfigApplyOperation → ConfigApplyOperation) (hf : ∀ a, (f a).command = a.command)
    (hs : Consistent w.journal (f a)) : ConfigInv { w.modify i f with node } := by
  -- the applies before and after have the same commands
  have back : ∀ {k : Nat} {b : ConfigApplyOperation}, (w.applies.modify i f)[k]? = some b →
      ∃ b₀, w.applies[k]? = some b₀ ∧ b.command = b₀.command ∧ Consistent w.journal b := by
    intro k b hb
    rw [List.getElem?_modify] at hb
    obtain ⟨b₀, hb₀, rfl⟩ := map_eq_some_iff.1 hb
    refine ⟨b₀, hb₀, ?_⟩
    by_cases hik : i = k
    · subst hik
      obtain rfl : a = b₀ := by simpa [ha] using hb₀
      simpa [hf] using hs
    · simpa [hik] using h.consistent b₀ (List.mem_of_getElem? hb₀)
  have forth : ∀ {k : Nat} {b : ConfigApplyOperation}, w.applies[k]? = some b →
      ∃ b', (w.applies.modify i f)[k]? = some b' ∧ b'.command = b.command := by
    intro k b hb
    rw [List.getElem?_modify, hb]
    refine ⟨_, rfl, ?_⟩
    split <;> simp [hf]
  exact {
    desired := by simpa [ConfigWorld.modify, hd] using h.desired
    numbered := fun k b hb => by
      obtain ⟨b₀, hb₀, hbb, -⟩ := back hb
      rw [hbb]
      exact h.numbered k b₀ hb₀
    distinct := fun k l b c hb hc hkey => by
      obtain ⟨b₀, hb₀, hbb, -⟩ := back hb
      obtain ⟨c₀, hc₀, hcc, -⟩ := back hc
      exact h.distinct k l b₀ c₀ hb₀ hc₀ (by rw [← hbb, ← hcc, hkey])
    known := fun key r hr => by
      refine (h.known key r hr).imp_left ?_
      rintro ⟨b, hb, hkey⟩
      obtain ⟨k, hk⟩ := List.mem_iff_getElem?.1 hb
      obtain ⟨b', hb', hbb⟩ := forth hk
      exact ⟨b', List.mem_of_getElem? hb', by rw [hbb, hkey]⟩
    inOrder :=
      { succeeded := fun k b hb => by
          obtain ⟨b₀, hb₀, hbb, -⟩ := back hb
          rw [hbb]
          exact h.inOrder.succeeded k b₀ hb₀
        bounded := by simpa [ConfigWorld.modify] using h.inOrder.bounded }
    executed := fun key hx => by
      obtain ⟨k, b, hb, hkey, hle⟩ := h.executed key hx
      obtain ⟨b', hb', hbb⟩ := forth hb
      exact ⟨k, b', hb', by rw [hbb, hkey], hle⟩
    consistent := fun b hb => by
      obtain ⟨k, hk⟩ := List.mem_iff_getElem?.1 hb
      obtain ⟨-, -, -, hc⟩ := back hk
      exact hc }

/-- A new node has no applies and no records. -/
theorem configInv_start : ConfigInv ConfigWorld.start where
  desired := rfl
  numbered i a h := by simp [start] at h
  distinct i k a b h := by simp [start] at h
  known key r h := by cases h
  inOrder :=
    { succeeded := fun i a h => by simp [start] at h
      bounded := le_refl 0 }
  executed key h := by cases h
  consistent a h := by cases h

/-- Admitting an apply appends it with the next revision; the journal knows nothing of it. -/
theorem ConfigInv.admission (h : ConfigInv w) {command : ConfigCommand} {planRevision : Nat}
    (hs : (configSystem P).step w (.admission command planRevision) w') : ConfigInv w' := by
  obtain ⟨hadmitted, hfresh, hother, node, hnode, rfl⟩ := hs
  have hrev := admit_ok hadmitted
  have hrev' : command.identity.desiredRevision.toNat = w.applies.length + 1 := by
    rw [hrev, h.desired]
  have hnone : w.journal.command command.key = none := by
    cases hc : w.journal.command command.key with
    | none => rfl
    | some r =>
      rcases h.known _ r hc with ⟨a, ha, hk⟩ | ho
      · exact absurd hk (hfresh a ha)
      · exact absurd ho hother
  have hnode' : node.desiredRevision = w.applies.length + 1 := by
    unfold advanceDesiredRevision at hnode
    split at hnode
    · cases hnode
      exact hrev'
    · cases hnode
  -- an apply of the longer list is an old one or the new one at its end
  have hget : ∀ (i : Nat) (a : ConfigApplyOperation),
      (w.applies ++ [⟨command, .queued, false⟩])[i]? = some a →
      w.applies[i]? = some a ∨ (i = w.applies.length ∧ a = ⟨command, .queued, false⟩) := by
    intro i a ha
    rcases Nat.lt_or_ge i w.applies.length with hi | hi
    · rw [List.getElem?_append_left hi] at ha
      exact .inl ha
    rw [List.getElem?_append_right hi] at ha
    obtain ⟨hlt, hget⟩ := List.getElem?_eq_some_iff.1 ha
    simp only [List.length_singleton] at hlt
    have hi' : i = w.applies.length := by omega
    refine .inr ⟨hi', ?_⟩
    simp [hi'] at ha
    exact ha.symm
  have hnot : ¬ w.journal.Succeeded command.key := by
    rintro ⟨r, hr, -⟩
    cases hnone.symm.trans hr
  exact {
    desired := by simp [hnode']
    numbered := fun i a ha => by
      rcases hget i a ha with hold | ⟨rfl, rfl⟩
      · exact h.numbered i a hold
      · exact hrev'
    distinct := fun i k a b ha hb hkey => by
      rcases hget i a ha with holda | ⟨rfl, rfl⟩
      · rcases hget k b hb with holdb | ⟨rfl, rfl⟩
        · exact h.distinct i k a b holda holdb hkey
        · exact absurd hkey (hfresh a (List.mem_of_getElem? holda))
      · rcases hget k b hb with holdb | ⟨rfl, rfl⟩
        · exact absurd hkey.symm (hfresh b (List.mem_of_getElem? holdb))
        · rfl
    known := fun key r hr => by
      rcases h.known key r hr with ⟨a, ha, hk⟩ | ho
      · exact .inl ⟨a, List.mem_append_left _ ha, hk⟩
      · exact .inr ho
    inOrder :=
      { succeeded := fun i a ha => by
          rcases hget i a ha with hold | ⟨rfl, rfl⟩
          · exact h.inOrder.succeeded i a hold
          · exact iff_of_false hnot (not_lt.2 h.inOrder.bounded)
        bounded := by
          have := h.inOrder.bounded
          simp only [List.length_append, List.length_singleton]
          omega }
    executed := fun key hx => by
      obtain ⟨i, a, ha, hkey, hle⟩ := h.executed key hx
      have hi : i < w.applies.length := (List.getElem?_eq_some_iff.1 ha).1
      exact ⟨i, a, by rw [List.getElem?_append_left hi]; exact ha, hkey, hle⟩
    consistent := fun a ha => by
      rcases List.mem_append.1 ha with hold | hnew
      · exact h.consistent a hold
      obtain rfl := List.mem_singleton.1 hnew
      exact {
        unsent := fun _ => hnone
        outcome := fun he => by cases he
        failed := fun he => by cases he } }

/-- What a delivery that touches only the record of `key` leaves for the applies. -/
theorem ConfigInv.deliver_frame (h : ConfigInv w) {j' : Journal} {executed : List Uuid}
    {others : List Uuid} (hother : ∀ k, k ≠ key → j'.command k = w.journal.command k)
    (hkeeps : Keeps w.journal j') (hsent : ∀ a ∈ w.applies, a.command.key = key → a.sent = true)
    (hknown : (∃ a ∈ w.applies, a.command.key = key) ∨ key ∈ others)
    (hsub : ∀ k ∈ w.others, k ∈ others) (hle : w.journal.appliedConfig ≤ j'.appliedConfig)
    (horder : InOrder w.applies j')
    (hx : ∀ k ∈ executed, k ∈ w.executed ∨ ∃ (i : Nat) (a : ConfigApplyOperation),
      w.applies[i]? = some a ∧ a.command.key = k ∧ i ≤ j'.appliedConfig) :
    ConfigInv { w with journal := j', executed, others } where
  desired := h.desired
  numbered := h.numbered
  distinct := h.distinct
  known k r hr := by
    by_cases hk : k = key
    · subst hk
      exact hknown
    have hr : j'.command k = some r := hr
    rw [hother k hk] at hr
    rcases h.known k r hr with ha | ho
    · exact .inl ha
    · exact .inr (hsub k ho)
  inOrder := horder
  executed k hk := by
    rcases hx k hk with hold | hnew
    · obtain ⟨i, a, ha, hkey, hi⟩ := h.executed k hold
      exact ⟨i, a, ha, hkey, hi.trans hle⟩
    · exact hnew
  consistent a ha := by
    have hc := h.consistent a ha
    -- a terminal record of the journal before is the record after
    have kept : ∀ {r : CommandRecord}, w.journal.command a.command.key = some r →
        r.state.terminal = true → j'.command a.command.key = some r := by
      intro r hr ht
      obtain ⟨r', hr', -, heq⟩ := hkeeps _ r hr
      rw [hr', heq ht]
    exact {
      unsent := fun hns => by
        have hk : a.command.key ≠ key := by
          intro hk
          rw [hsent a ha hk] at hns
          cases hns
        change j'.command _ = none
        rw [hother _ hk]
        exact hc.unsent hns
      outcome := fun ho => by
        obtain ⟨r, hr, hs⟩ := hc.outcome ho
        exact ⟨r, kept hr (by rw [hs]; rfl), hs⟩
      failed := fun hf => by
        obtain ⟨r, hr, hs⟩ := hc.failed hf
        exact ⟨r, kept hr (by rw [hs]; rfl), hs⟩ }

/-- The trail of a delivery whose writes satisfy `A` and touch only the record of `key`. -/
theorem Guar.frame {A : JournalWrite → Prop} {o : Observation Journal CommandError CommandOutcome}
    (hg : Guar (Via A) j o.trail) (hA : ∀ w, A w → w.onlyKey key) :
    (∀ k, k ≠ key → (o.after j).command k = j.command k) ∧ Keeps j (o.after j) := by
  refine hg.invariant (fun s => (∀ k, k ≠ key → s.command k = j.command k) ∧ Keeps j s) ?_
    ⟨fun _ _ => rfl, Keeps.refl j⟩ _ List.getLastD_mem_cons
  rintro s s' ⟨w, hw, he⟩ ⟨hother, hk⟩
  refine ⟨fun k hne => ?_, hk.trans he.keeps⟩
  rw [he.command_other (hA w hw) hne, hother k hne]

/-- A delivery of another command changes nothing for the applies. -/
theorem ConfigInv.deliverOther (h : ConfigInv w)
    (hs : (configSystem P).step w (.deliverOther key d) w') : ConfigInv w' := by
  obtain ⟨hb, hk, hfresh, hx, rfl⟩ := hs
  have hg := Durable.Spec.exec (deliver_otherWrite hk hb) rfl hx
  obtain ⟨hother, hkeeps⟩ := Guar.frame hg fun w hw => hw.1
  have happlied : (d.observed.after w.journal).appliedConfig = w.journal.appliedConfig := by
    refine hg.invariant (fun s => s.appliedConfig = w.journal.appliedConfig) ?_ rfl _
      List.getLastD_mem_cons
    rintro s s' ⟨_, hw, he⟩ hs
    rw [hw.appliedConfig he, hs]
  have hsucc : ∀ a ∈ w.applies, ((d.observed.after w.journal).Succeeded a.command.key ↔
      w.journal.Succeeded a.command.key) := by
    intro a ha
    unfold Succeeded
    rw [hother _ (hfresh a ha)]
  refine h.deliver_frame hother hkeeps (fun a ha hka => absurd hka (hfresh a ha))
    (.inr List.mem_cons_self) (fun k ho => List.mem_cons_of_mem _ ho) (le_of_eq happlied.symm) ?_
    (fun k hx => .inl hx)
  constructor
  · intro i a ha
    rw [hsucc a (List.mem_of_getElem? ha), happlied]
    exact h.inOrder.succeeded i a ha
  · rw [happlied]
    exact h.inOrder.bounded

/-- One write of a delivery of the `i`-th apply keeps the applied revisions in order. -/
theorem InOrder.configWrite (h : ConfigInv w) {a : ConfigApplyOperation}
    (ha : w.applies[i]? = some a) {licensed : Prop} {x : JournalWrite} {j' : Journal}
    (hx : x.configWrite a.command.key a.command.identity.desiredRevision licensed)
    (he : x.Effect j j') (hlic : licensed → i ≤ j.appliedConfig) (ho : InOrder w.applies j) :
    InOrder w.applies j' ∧ j.appliedConfig ≤ j'.appliedConfig := by
  have hi : i < w.applies.length := (List.getElem?_eq_some_iff.1 ha).1
  rcases hx.cases he with ⟨happ, hsucc⟩ | ⟨hl, hnot, happ, hsucc⟩
  · refine ⟨⟨fun k b hb => ?_, by rw [happ]; exact ho.bounded⟩, le_of_eq happ.symm⟩
    rw [hsucc, happ]
    exact ho.succeeded k b hb
  -- the record is open, so its revision is not among the applied ones: it is the next
  have hge : ¬ i < j.appliedConfig := fun hlt => hnot ((ho.succeeded i a ha).2 hlt)
  have heq : j.appliedConfig = i := by
    have := hlic hl
    omega
  rw [h.numbered i a ha] at happ
  refine ⟨⟨fun k b hb => ?_, by omega⟩, by omega⟩
  rw [hsucc, ho.succeeded k b hb, happ, heq]
  constructor
  · rintro (hk | hlt)
    · have := h.distinct k i b a hb ha hk
      omega
    · omega
  · intro hlt
    rcases Nat.lt_or_ge k i with hk | hk
    · exact .inr hk
    left
    obtain rfl : k = i := by omega
    obtain rfl : a = b := by simpa [ha] using hb
    rfl

/-- The fence of an apply passes at the revision after the applied one. -/
theorem FenceCurrent.appliedConfig (hb : configApplyBinding envelope = some identity)
    (h : FenceCurrent envelope j) : j.appliedConfig + 1 = identity.desiredRevision.toNat :=
  h _ (configApplyBinding_resource (P := samplePlatform) hb).1

/-- A permit is issued only behind the fence. -/
theorem PermitIssued.fence (h : PermitIssued P envelope context j) : FenceCurrent envelope j := by
  have hA : AllowsFor (fun _ => True) envelope :=
    fun _ _ => ⟨trivial, fun _ _ => trivial, fun _ _ _ _ _ _ => trivial⟩
  rcases h with ⟨-, permit, hp⟩ | ⟨-, permit, hp⟩
  · obtain ⟨hi, -, hrev⟩ := (prepareExternal_spec hA j).post j _ rfl hp permit rfl
    exact hi.fence.of_revisions hrev.symm
  · obtain ⟨hi, hrev, -⟩ := (retryExternal_spec hA j).post j _ rfl hp
    exact hi.fence.of_revisions hrev.symm

/-- A delivery of an apply keeps the applied revisions in order. -/
theorem ConfigInv.deliver (h : ConfigInv w) (hs : (configSystem P).step w (.deliver i d ran) w') :
    ConfigInv w' := by
  obtain ⟨a, ha, hsent, hsame, hconf, hx, hran, rfl⟩ := hs
  have hmem : a ∈ w.applies := List.mem_of_getElem? ha
  have hb : configApplyBinding d.envelope = some a.command.identity := by
    have := a.command.bound
    unfold configApplyBinding at this ⊢
    rw [hsame.payload]
    exact this
  have hk : d.envelope.idempotencyKey = a.command.key.1 := by rw [hsame.key, a.command.keyed]
  have hnum := h.numbered i a ha
  -- an answer is one to an execution at this revision, or a receipt of an earlier one
  have hlic : ∀ response, Agent.Answered P d.envelope d.privd w.journal response →
      i ≤ w.journal.appliedConfig := by
    intro response hans
    cases hans with
    | command answer fence =>
      have := fence.appliedConfig hb
      omega
    | reconcile answer proof =>
      obtain ⟨k, b, hbk, hkey, hle⟩ := h.executed _ (hconf.receipt response answer proof)
      rw [← h.distinct k i b a hbk ha hkey]
      exact hle
  have hroute := (configApplyBinding_resource (P := P) hb).2.2
  have hg := Durable.Spec.exec (handleCommand_spec
    (fun _ => deliveryAllows_config hk hb hconf.result hlic)
    (fun hr => absurd hroute (by simp [hr]))) rfl hx
  obtain ⟨hother, hkeeps⟩ := Guar.frame hg fun w hw => hw.1
  obtain ⟨horder, hle⟩ : InOrder w.applies (d.observed.after w.journal) ∧
      w.journal.appliedConfig ≤ (d.observed.after w.journal).appliedConfig := by
    refine hg.invariant
      (fun s => InOrder w.applies s ∧ w.journal.appliedConfig ≤ s.appliedConfig) ?_
      ⟨h.inOrder, le_refl _⟩ _ List.getLastD_mem_cons
    rintro s s' ⟨x, hxw, he⟩ ⟨ho, hle⟩
    obtain ⟨ho', hle'⟩ := InOrder.configWrite h ha hxw he (fun hl => hl.trans hle) ho
    exact ⟨ho', hle.trans hle'⟩
  refine h.deliver_frame hother hkeeps ?_ (.inl ⟨a, hmem, rfl⟩) (fun _ ho => ho) hle horder ?_
  · intro b hbm hkey
    obtain ⟨k, hbk⟩ := List.mem_iff_getElem?.1 hbm
    obtain rfl : k = i := h.distinct k i b a hbk ha hkey
    obtain rfl : a = b := by simpa [ha] using hbk
    exact hsent
  · intro k hk
    cases ran with
    | false => exact .inl hk
    | true =>
      rcases List.mem_cons.1 hk with rfl | hk
      · have := (hran rfl).fence.appliedConfig hb
        exact .inr ⟨i, a, ha, rfl, by omega⟩
      · exact .inl hk

/-- The state that a terminal record is ingested as. -/
theorem ingestedState_cases (h : ingestedState P identity r = some state) :
    (r.state = .succeeded ∧ (state.outcome = true ∨ state = .unknown)) ∨
      (r.state = .failed ∧ state = .failed) := by
  unfold ingestedState at h
  split at h
  · rename_i hs
    refine .inl ⟨hs, ?_⟩
    cases h
    cases hn : ((r.result.filter (· ≠ [])).bind P.decodeConfigApplyResult).bind
        (normalizeConfigApplyResult identity) with
    | none => exact .inr rfl
    | some state =>
      obtain ⟨result, -, hnorm⟩ := bind_eq_some_iff.1 hn
      exact .inl (normalizeConfigApplyResult_outcome hnorm)
  · rename_i hs
    cases h
    exact .inr ⟨hs, rfl⟩
  iterate 3 cases h

/-- Ingesting the result of an apply keeps its state consistent with its record. -/
theorem ConfigInv.ingest (h : ConfigInv w) (hs : (configSystem P).step w (.ingest i) w') :
    ConfigInv w' := by
  obtain ⟨a, r, state, ha, -, hr, -, hstate, rfl⟩ := hs
  have hc := h.consistent a (List.mem_of_getElem? ha)
  have hi : i < w.applies.length := (List.getElem?_eq_some_iff.1 ha).1
  have hle : a.command.identity.desiredRevision.toNat ≤ w.node.desiredRevision := by
    rw [h.numbered i a ha, h.desired]
    omega
  have hdesired : (w.node.configOutcome state a.command.identity.desiredRevision).desiredRevision =
      w.node.desiredRevision := by
    cases state <;> simp [configOutcome, hle]
  refine h.modify ha _ hdesired _ (fun _ => rfl) ?_
  rcases ingestedState_cases hstate with ⟨hsucc, hout⟩ | ⟨hfail, rfl⟩
  · have hne : state ≠ .failed := by
      rintro rfl
      rcases hout with hout | hout
      iterate 2 cases hout
    exact {
      unsent := hc.unsent
      outcome := fun _ => ⟨r, hr, hsucc⟩
      failed := fun he => absurd he hne }
  · exact {
      unsent := hc.unsent
      outcome := fun he => by cases he
      failed := fun _ => ⟨r, hr, hfail⟩ }

/-- Every event keeps the invariant. -/
theorem ConfigInv.step (h : ConfigInv w) (hs : (configSystem P).step w event w') :
    ConfigInv w' := by
  -- an active state asks nothing of the journal
  have active : ∀ {a : ConfigApplyOperation} {state : ApplyState}, a ∈ w.applies →
      state.active = true → Consistent w.journal { a with state } := by
    intro a state ha hact
    have hc := h.consistent a ha
    exact {
      unsent := hc.unsent
      outcome := fun he => by
        change state.outcome = true at he
        rw [ApplyState.outcome_of_active hact] at he
        cases he
      failed := fun he => by
        change state = .failed at he
        subst he
        cases hact }
  cases event with
  | admission command planRevision => exact h.admission hs
  | send i =>
    obtain ⟨a, ha, rfl⟩ := hs
    have hc := h.consistent a (List.mem_of_getElem? ha)
    exact h.modify ha w.node rfl _ (fun _ => rfl) { hc with unsent := fun he => by cases he }
  | dispatch i =>
    obtain ⟨a, ha, -, -, rfl⟩ := hs
    exact h.modify ha w.node rfl _ (fun _ => rfl) (active (List.mem_of_getElem? ha) rfl)
  | expire i =>
    obtain ⟨a, ha, -, rfl⟩ := hs
    have hc := h.consistent a (List.mem_of_getElem? ha)
    refine h.modify ha w.node rfl _ (fun _ => rfl) ?_
    exact {
      unsent := hc.unsent
      outcome := fun he => by cases he
      failed := fun he => by cases he }
  | deliver i d ran => exact h.deliver hs
  | deliverOther key d => exact h.deliverOther hs
  | lose i =>
    obtain ⟨a, ha, -, rfl⟩ := hs
    exact h.modify ha w.node rfl _ (fun _ => rfl) (active (List.mem_of_getElem? ha) rfl)
  | ingest i => exact h.ingest hs
  | unlock =>
    obtain rfl : w' = _ := hs
    exact { h with }

/-- The invariant holds in every history. -/
theorem configSystem_inv (h : (configSystem P).Reachable w) : ConfigInv w := by
  refine h.invariant ConfigInv ?_ ?_
  · rintro w rfl
    exact configInv_start
  · rintro w event w' - hi hs
    exact hi.step hs

/-! ## The next apply -/

/-- An apply that ended without an effect on the Agent. -/
def ConfigApplyOperation.Blocks (j : Journal) (a : ConfigApplyOperation) : Prop :=
  a.state = .failed ∨ a.state = .expired ∧ ¬ j.Succeeded a.command.key

/-- An apply that succeeded on the Agent was sent, and did not fail on the Controller. -/
theorem Consistent.of_succeeded (h : Consistent j a) (hs : j.Succeeded a.command.key) :
    a.state ≠ .failed ∧ a.sent = true := by
  obtain ⟨r, hr, hstate⟩ := hs
  constructor
  · intro hf
    obtain ⟨r', hr', hfailed⟩ := h.failed hf
    cases hr.symm.trans hr'
    cases hstate.symm.trans hfailed
  · cases hsent : a.sent with
    | true => rfl
    | false => cases hr.symm.trans (h.unsent hsent)

/-- A settled apply blocks the later ones exactly when it did not succeed on the Agent. -/
theorem Consistent.blocks_iff (h : Consistent j a) (hdone : a.state.active = false) :
    a.Blocks j ↔ ¬ j.Succeeded a.command.key := by
  constructor
  · rintro (hf | ⟨-, hnot⟩) hs
    · exact (h.of_succeeded hs).1 hf
    · exact hnot hs
  · intro hnot
    cases hstate : a.state with
    | failed => exact .inl hstate
    | expired => exact .inr ⟨hstate, hnot⟩
    | succeeded | rolledBack | failedCritical => exact absurd (h.outcome (by rw [hstate]; rfl)) hnot
    | queued | dispatched | accepted | running | unknown =>
      rw [hstate] at hdone
      cases hdone

/-- With every apply settled, all revisions are applied exactly when no apply blocks. -/
theorem ConfigInv.all_applied_iff (h : ConfigInv w)
    (hdone : ∀ a ∈ w.applies, a.state.active = false) :
    w.journal.appliedConfig = w.applies.length ↔ ∀ a ∈ w.applies, ¬ a.Blocks w.journal := by
  have hiff : ∀ a ∈ w.applies, (¬ a.Blocks w.journal ↔ w.journal.Succeeded a.command.key) :=
    fun a ha => not_iff_comm.1 ((h.consistent a ha).blocks_iff (hdone a ha)).symm
  constructor
  · intro hall a ha
    obtain ⟨i, hi⟩ := List.mem_iff_getElem?.1 ha
    rw [hiff a ha, h.inOrder.succeeded i a hi, hall]
    exact (List.getElem?_eq_some_iff.1 hi).1
  · intro hgood
    refine le_antisymm h.inOrder.bounded ?_
    -- the last apply succeeded, so all of them are applied
    rcases Nat.eq_zero_or_pos w.applies.length with h0 | hpos
    · omega
    obtain ⟨a, ha⟩ : ∃ a, w.applies[w.applies.length - 1]? = some a :=
      ⟨_, List.getElem?_eq_getElem (by omega)⟩
    have hmem := List.mem_of_getElem? ha
    have hlt := (h.inOrder.succeeded _ a ha).1 ((hiff a hmem).1 (hgood a hmem))
    omega

/-- The fence of a configuration apply at a revision that is not behind the journal. -/
theorem requireCurrent_config (hb : configApplyBinding envelope = some identity)
    (hle : j.appliedConfig + 1 ≤ identity.desiredRevision.toNat) :
    (Agent.requireCurrentDesiredRevision envelope).result j =
      if j.appliedConfig + 1 = identity.desiredRevision.toNat then .ok ()
      else .error (.rejected "revision_gap") := by
  have hres := (configApplyBinding_resource (P := samplePlatform) hb).1
  have hne : identity.desiredRevision ≠ 0 := by
    intro h0
    rw [h0] at hle
    simp at hle
  have happ : (j.appliedRevision "config" "ocserv.conf").getD 0 = j.appliedConfig := rfl
  unfold requireCurrentDesiredRevision desiredRevisionFence
  rw [result_bind]
  simp only [hres, result_read, final_read, fenceAt, hne, if_false, happ]
  by_cases heq : j.appliedConfig + 1 = identity.desiredRevision.toNat
  · have hc : compare j.appliedConfig (identity.desiredRevision.toNat - 1) = .eq := by
      rw [Nat.compare_eq_eq]
      omega
    simp [hc, heq]
  have hc : compare j.appliedConfig (identity.desiredRevision.toNat - 1) = .lt := by
    rw [Nat.compare_eq_lt]
    omega
  simp [hc, heq]

/-- **When the next configuration apply is current.** When every apply of a node is terminal, the
next one that the Controller admits has the revision after the Agent's applied one, and passes its
fence, exactly when no apply blocks; otherwise the fence refuses it as a revision gap. Only applies
that failed or expired block; one that failed does, and so does one that expired before a frame of
it was written. -/
theorem next_apply_current_iff (P : Platform) {w w' : ConfigWorld} {command : ConfigCommand}
    {planRevision : Nat} (hw : (configSystem P).Reachable w)
    (hdone : ∀ a ∈ w.applies, a.state.active = false)
    (hadmitted : (configSystem P).step w (.admission command planRevision) w') :
    (command.identity.desiredRevision.toNat = w.journal.appliedConfig + 1 ↔
      ∀ a ∈ w.applies, ¬ a.Blocks w.journal) ∧
    ((Agent.requireCurrentDesiredRevision command.envelope).result w.journal = .ok () ↔
      ∀ a ∈ w.applies, ¬ a.Blocks w.journal) ∧
    ((Agent.requireCurrentDesiredRevision command.envelope).result w.journal =
        .error (.rejected "revision_gap") ↔ ∃ a ∈ w.applies, a.Blocks w.journal) ∧
    ∀ a ∈ w.applies, (a.Blocks w.journal → a.state = .failed ∨ a.state = .expired) ∧
      (a.state = .failed ∨ a.state = .expired ∧ a.sent = false → a.Blocks w.journal) := by
  have hinv := configSystem_inv hw
  obtain ⟨hok, -, -, -⟩ := hadmitted
  have hrev := admit_ok hok
  rw [hinv.desired] at hrev
  have hbound := hinv.inOrder.bounded
  have hcur : command.identity.desiredRevision.toNat = w.journal.appliedConfig + 1 ↔
      ∀ a ∈ w.applies, ¬ a.Blocks w.journal := by
    rw [← hinv.all_applied_iff hdone, hrev]
    omega
  have hfence := requireCurrent_config (j := w.journal) command.bound (by omega)
  refine ⟨hcur, ?_, ?_, fun a ha => ⟨fun hblocks => hblocks.imp_right And.left, ?_⟩⟩
  · rw [← hcur, hfence]
    constructor
    · intro h
      split at h
      · rename_i heq
        exact heq.symm
      · cases h
    · intro h
      rw [if_pos h.symm]
  · have hneg :
        (∃ a ∈ w.applies, a.Blocks w.journal) ↔ ¬ ∀ a ∈ w.applies, ¬ a.Blocks w.journal := by
      simp
    rw [hneg, ← hcur, hfence]
    constructor
    · intro h heq
      rw [if_pos heq.symm] at h
      cases h
    · intro h
      rw [if_neg fun heq => h heq.symm]
  · rintro (hf | ⟨he, hns⟩)
    · exact .inl hf
    · refine .inr ⟨he, fun hs => ?_⟩
      cases hns.symm.trans ((hinv.consistent a ha).of_succeeded hs).2

/-- **Configuration applies take effect in order.** An apply whose outcome the Controller records,
and all before it, succeeded on the Agent, and so did all before one that privd executed; a frame of
each was written, and the Controller has none of them as failed. -/
theorem applies_in_order (hw : (configSystem P).Reachable w) {a b : ConfigApplyOperation} {k : Nat}
    (ha : w.applies[i]? = some a) (hb : w.applies[k]? = some b)
    (h : i ≤ k ∧ b.state.outcome = true ∨ i < k ∧ b.command.key ∈ w.executed) :
    w.journal.Succeeded a.command.key ∧ a.state ≠ .failed ∧ a.sent = true := by
  have hinv := configSystem_inv hw
  have hlt : i < w.journal.appliedConfig := by
    rcases h with ⟨hik, hout⟩ | ⟨hik, hexec⟩
    · have hsucc := (hinv.consistent b (List.mem_of_getElem? hb)).outcome hout
      exact hik.trans_lt ((hinv.inOrder.succeeded k b hb).1 hsucc)
    · obtain ⟨j, c, hc, hkey, hle⟩ := hinv.executed _ hexec
      obtain rfl := hinv.distinct j k c b hc hb hkey
      exact hik.trans_le hle
  have hsucc := (hinv.inOrder.succeeded i a ha).2 hlt
  exact ⟨hsucc, (hinv.consistent a (List.mem_of_getElem? ha)).of_succeeded hsucc⟩

end

/-! ## Two histories -/

/-- A configuration apply at `revision` with the `n`-th key. -/
def sampleApply (n : UInt8) (revision : UInt64) : ConfigCommand where
  envelope :=
    { sampleEnvelope .executeOrReplay
        (.configApply ⟨List.replicate 32 0, [1], List.replicate 32 0, revision⟩)
        "config.apply" "ocserv.config.apply" with
      commandId := (sampleUuid (n + 1)).1
      idempotencyKey := (sampleUuid n).1
      operationId := (sampleUuid n).1 }
  key := sampleUuid n
  identity := ⟨List.replicate 32 0, List.replicate 32 0, List.replicate 32 0, revision⟩
  keyed := rfl
  bound := rfl

/-- The node after its first apply was admitted. -/
def admittedWorld : ConfigWorld :=
  { ConfigWorld.start with node := ⟨0, 1, false⟩, applies := [⟨sampleApply 2 1, .queued, false⟩] }

/-- The first apply is admitted on a new node. -/
theorem admittedWorld_reachable (P : Platform) : (configSystem P).Reachable admittedWorld := by
  have hstep : (configSystem P).step start (.admission (sampleApply 2 1) 0) admittedWorld := by
    refine ⟨by decide +kernel, ?_, List.not_mem_nil, ⟨0, 1, false⟩, by decide +kernel, rfl⟩
    intro a ha
    exact absurd ha List.not_mem_nil
  exact (LTS.Reachable.start rfl).snoc hstep

/-- The node after its first apply expired. -/
def expiredWorld : ConfigWorld := admittedWorld.modify 0 fun a => { a with state := .expired }

/-- Once the first apply is settled, the second one is admitted. -/
theorem second_admitted (P : Platform) (state : ApplyState) (hdone : state.active = false)
    (sent : Bool) (revision : Nat) (journal : Journal) (executed : List Uuid) (hle : revision ≤ 1) :
    ∃ w',
      (configSystem P).step ⟨⟨revision, 1, false⟩, [⟨sampleApply 2 1, state, sent⟩], [], journal,
      executed⟩ (.admission (sampleApply 4 2) revision) w' := by
  refine ⟨_, ?_, fun a ha => ?_, List.not_mem_nil, ⟨revision, 2, false⟩, rfl, rfl⟩
  · have hactive : [(⟨sampleApply 2 1, state, sent⟩ : ConfigApplyOperation)].any
        (fun a => a.state.active) = false := by simp [hdone]
    simp only [admitApply, hactive]
    rw [if_neg]
    · rfl
    · simpa [sampleApply] using hle
  · obtain rfl := List.mem_singleton.1 ha
    change sampleUuid 2 ≠ sampleUuid 4
    decide

/-- **An expired apply blocks the next one**: the second, at revision 2, is refused by an Agent that
applied nothing. -/
theorem expired_apply_wedges :
    (configSystem samplePlatform).Reachable expiredWorld ∧
    expiredWorld.applies.map (·.state) = [.expired] ∧
    (∃ w', (configSystem samplePlatform).step expiredWorld (.admission (sampleApply 4 2) 0) w') ∧
    (Agent.prepareExternal samplePlatform (sampleApply 4 2).envelope (sampleContext 200)).result
      expiredWorld.journal = .error (.rejected "revision_gap") := by
  have hexpire : (configSystem samplePlatform).step admittedWorld (.expire 0) expiredWorld :=
    ⟨⟨sampleApply 2 1, .queued, false⟩, rfl, rfl, rfl⟩
  refine ⟨(admittedWorld_reachable _).snoc hexpire, rfl,
    second_admitted _ _ rfl _ _ _ _ (by decide), ?_⟩
  decide +kernel

/-- The result of the first sample apply. -/
def appliedResult : ConfigApplyResult where
  candidateHash := List.replicate 32 0
  previousHash := List.replicate 32 0
  observedHash := List.replicate 32 0
  appliedRevision := 1
  healthy := true
  rolledBack := false
  failedCritical := false
  failureCode := ""

/-- A platform that encodes the results of the sample history. -/
def applyPlatform : Platform :=
  { samplePlatform with
    encodeResult := fun _ => [1]
    decodeConfigApplyResult := fun _ => some appliedResult }

/-- The answers of a privd that applied the configuration. -/
def configAnswers : PrivdAnswers :=
  ⟨some { sampleApplied 200 with result := some (.configApply appliedResult) }, none, .unknown⟩

/-- The delivery of the first sample apply. -/
def applyDelivery : Delivery :=
  completedDelivery applyPlatform (sampleApply 2 1).envelope (sampleContext 200) configAnswers
    Journal.fresh

/-- The node after its first apply was delivered. -/
def deliveredWorld : ConfigWorld :=
  { admittedWorld with
    applies := [⟨sampleApply 2 1, .queued, true⟩]
    journal := applyDelivery.observed.after Journal.fresh
    executed := [sampleUuid 2] }

/-- The node after its first apply succeeded. -/
def succeededWorld : ConfigWorld :=
  { deliveredWorld with
    node := ⟨1, 1, false⟩
    applies := [⟨sampleApply 2 1, .succeeded, true⟩] }

/-- privd applies the first configuration. -/
theorem deliveredWorld_reachable : (configSystem applyPlatform).Reachable deliveredWorld := by
  have hsend : (configSystem applyPlatform).step admittedWorld (.send 0)
      { admittedWorld with applies := [⟨sampleApply 2 1, .queued, true⟩] } :=
    ⟨⟨sampleApply 2 1, .queued, false⟩, rfl, rfl⟩
  have hconf : PrivdConforms applyPlatform [] (sampleApply 2 1) configAnswers := by
    constructor
    · rintro response result (h | h) hr
      · cases h
        cases hr
        exact .inl ⟨_, rfl⟩
      · cases h
    · intro response h
      cases h
  have hpermit : PermitIssued applyPlatform (sampleApply 2 1).envelope (sampleContext 200)
      Journal.fresh := by
    refine .inl ⟨by decide, ⟨sampleUuid 2, sampleUuid 3, 200⟩, ?_⟩
    decide +kernel
  exact ((admittedWorld_reachable _).snoc hsend).snoc (a := .deliver 0 applyDelivery true)
    ⟨⟨sampleApply 2 1, .queued, true⟩, rfl, rfl, ⟨rfl, rfl⟩, hconf, .complete,
      fun _ => hpermit, rfl⟩

/-- The record of the first apply after its delivery. -/
theorem deliveredWorld_record : ∃ r, deliveredWorld.journal.command (sampleUuid 2) = some r ∧
    r.state = .succeeded ∧ r.privilegedResultProof.isSome = true ∧
      ingestedState applyPlatform (sampleApply 2 1).identity r = some .succeeded := by
  have hrecord : (deliveredWorld.journal.command (sampleUuid 2)).any (fun r =>
      r.state = .succeeded ∧ r.privilegedResultProof.isSome ∧
        ingestedState applyPlatform (sampleApply 2 1).identity r = some .succeeded) = true := by
    decide +kernel
  obtain ⟨r, hr, hp⟩ := any_eq_true .. |>.1 hrecord
  exact ⟨r, hr, of_decide_eq_true hp⟩

/-- The Controller ingests its result. -/
theorem succeededWorld_reachable : (configSystem applyPlatform).Reachable succeededWorld := by
  obtain ⟨r, hr, -, hproof, hstate⟩ := deliveredWorld_record
  have hingest : (configSystem applyPlatform).step deliveredWorld (.ingest 0) succeededWorld :=
    ⟨⟨sampleApply 2 1, .queued, true⟩, r, .succeeded, rfl, rfl, hr, hproof, hstate, rfl⟩
  exact deliveredWorld_reachable.snoc hingest

/-- The node after its first apply expired although it was delivered. -/
def lateWorld : ConfigWorld := deliveredWorld.modify 0 fun a => { a with state := .expired }

/-- After an apply that succeeded the next one is current, also when the first one expired. -/
theorem next_apply_current_succeeded :
    ((configSystem applyPlatform).Reachable succeededWorld ∧
      (Agent.requireCurrentDesiredRevision (sampleApply 4 2).envelope).result
        succeededWorld.journal = .ok ()) ∧
    (configSystem applyPlatform).Reachable lateWorld ∧
      (Agent.requireCurrentDesiredRevision (sampleApply 4 2).envelope).result
        lateWorld.journal = .ok () := by
  have hexpire : (configSystem applyPlatform).step deliveredWorld (.expire 0) lateWorld :=
    ⟨⟨sampleApply 2 1, .queued, true⟩, rfl, rfl, rfl⟩
  have hlate := deliveredWorld_reachable.snoc hexpire
  obtain ⟨_, hadmitted⟩ := second_admitted applyPlatform .succeeded rfl true 1
    deliveredWorld.journal [sampleUuid 2] le_rfl
  obtain ⟨_, hadmitted'⟩ := second_admitted applyPlatform .expired rfl true 0
    deliveredWorld.journal [sampleUuid 2] (Nat.zero_le 1)
  refine ⟨⟨succeededWorld_reachable, ?_⟩, hlate, ?_⟩
  · refine (next_apply_current_iff applyPlatform succeededWorld_reachable ?_ hadmitted).2.1.2 ?_
    · intro a ha
      obtain rfl := List.mem_singleton.1 ha
      rfl
    · rintro a ha (hf | ⟨he, -⟩)
      all_goals
        obtain rfl := List.mem_singleton.1 ha
        contradiction
  · refine (next_apply_current_iff applyPlatform hlate ?_ hadmitted').2.1.2 ?_
    · intro a ha
      obtain rfl := List.mem_singleton.1 ha
      rfl
    · rintro a ha (hf | ⟨-, hnot⟩)
      all_goals obtain rfl := List.mem_singleton.1 ha
      · cases hf
      · obtain ⟨r, hr, hs, -⟩ := deliveredWorld_record
        exact hnot ⟨r, hr, hs⟩

/-- The apply that succeeded has its record. -/
theorem succeededWorld_in_order : succeededWorld.journal.Succeeded (sampleUuid 2) :=
  (applies_in_order succeededWorld_reachable (i := 0) (k := 0) rfl rfl (.inl ⟨le_rfl, rfl⟩)).1

end Ocservia
