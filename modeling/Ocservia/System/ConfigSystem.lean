import Ocservia.Agent.Invariant
import Ocservia.Agent.Revisions
import Ocservia.Controller.Config

/-!
# The configuration system of a node

`configSystem` puts the Controller and the Agent together for one node: the Controller's row and its
applies, the Agent's journal under the real deliveries of `Ocservia.Agent.Dispatch`, and the set of
commands that privd executed, which bounds the receipts it can return later. A frame of an apply is
delivered only after it was sent. A queued apply may expire although a frame of it was sent, or is
sent later, by an attempt that was reported as failed; then the Controller takes no result for it.
Any other one it settles from the terminal record of the journal.

This module has the system and what a delivery may write to the journal;
`Ocservia.System.ConfigRevisions` proves that the Agent applies the revisions in order.
-/

namespace Ocservia

open Durable Journal

/-! ## The system -/

/-- An admitted configuration apply: the command with its key and its apply payload. -/
structure ConfigCommand where
  envelope : CommandEnvelope
  key : Uuid
  identity : ConfigApplyIdentity
  keyed : envelope.idempotencyKey = key.1
  bound : configApplyBinding envelope = some identity

/-- A row of `config_apply_operations` with its command. -/
structure ConfigApplyOperation where
  command : ConfigCommand
  state : ApplyState
  /-- A frame of the command was written to the Agent's stream. -/
  sent : Bool

/-- The configuration state of one node, on both sides. -/
structure ConfigWorld where
  /-- The Controller's row of the node. -/
  node : NodeConfigState
  /-- The applies, oldest first. -/
  applies : List ConfigApplyOperation
  /-- The keys of the node's other commands. -/
  others : List Uuid
  journal : Journal
  /-- The keys of the commands that privd executed. -/
  executed : List Uuid

namespace ConfigWorld

def start : ConfigWorld := ⟨.missing, [], [], Journal.fresh, []⟩

def modify (w : ConfigWorld) (i : Nat) (f : ConfigApplyOperation → ConfigApplyOperation) :
    ConfigWorld :=
  { w with applies := w.applies.modify i f }

end ConfigWorld

/-- The delivered envelope is the command, in its original or in a recovery form. -/
structure SameCommand (command : ConfigCommand) (envelope : CommandEnvelope) : Prop where
  payload : envelope.payload = command.envelope.payload
  key : envelope.idempotencyKey = command.envelope.idempotencyKey

/-- privd answers a configuration apply with a result or an error, and a reconcile request with a
receipt only if it executed the command. -/
structure PrivdConforms (P : Platform) (executed : List Uuid) (command : ConfigCommand)
    (privd : PrivdAnswers) : Prop where
  result : ∀ response result, privd.command = some response ∨ privd.reconcile = some response →
    response.result = some result →
    (∃ r, result = .configApply r) ∨ ∃ kind detail, result = .error kind detail
  receipt : ∀ response, privd.reconcile = some response →
    (Agent.responseProof P response).isSome = true → command.key ∈ executed

/-- The delivery hands out a permit to call privd. -/
def PermitIssued (P : Platform) (envelope : CommandEnvelope) (context : CommandContext)
    (j : Journal) : Prop :=
  (envelope.mode = .executeOrReplay ∧
    ∃ permit, (Agent.prepareExternal P envelope context).result j = .ok (.execute permit)) ∨
  (envelope.mode = .retryIfEffectAbsent ∧
    ∃ permit, (Agent.retryExternal P envelope context).result j = .ok permit)

/-- The state that the Controller stores for the verified result of a terminal record. -/
def ingestedState (P : Platform) (identity : ConfigApplyIdentity) (r : CommandRecord) :
    Option ApplyState :=
  match r.state with
  | .succeeded =>
    some (((r.result.filter (· ≠ [])).bind P.decodeConfigApplyResult |>.bind
      (normalizeConfigApplyResult identity)).getD .unknown)
  | .failed => some .failed
  | .accepted | .running | .unknown => none

/-- What happens to the configuration of a node. -/
inductive ConfigEvent where
  /-- The Controller admits an apply of a plan at `planRevision`. -/
  | admission (command : ConfigCommand) (planRevision : Nat)
  /-- A frame of the `i`-th apply is written to the Agent's stream, by any attempt. -/
  | send (i : Nat)
  /-- The Controller records that the `i`-th apply was dispatched. -/
  | dispatch (i : Nat)
  /-- `ExpireQueued`: the `i`-th apply expires before it is recorded as dispatched. -/
  | expire (i : Nat)
  /-- The Agent handles a frame of the `i`-th apply, during which privd may run it. -/
  | deliver (i : Nat) (delivery : Delivery) (ran : Bool)
  /-- The Agent handles a frame of another command. -/
  | deliverOther (key : Uuid) (delivery : Delivery)
  /-- The outcome of the `i`-th apply is uncertain to the Controller. -/
  | lose (i : Nat)
  /-- The Controller ingests the verified result of the `i`-th apply. -/
  | ingest (i : Nat)
  /-- An operator removes the lock. -/
  | unlock

/-- The configuration system of one node. -/
def configSystem (P : Platform) : LTS ConfigWorld ConfigEvent where
  init w := w = ConfigWorld.start
  step w event w' :=
    match event with
    | .admission command planRevision =>
      w.node.admitApply planRevision command.identity.desiredRevision
          (w.applies.any fun a => a.state.active) = .ok () ∧
        (∀ a ∈ w.applies, a.command.key ≠ command.key) ∧ command.key ∉ w.others ∧
        ∃ node, w.node.advanceDesiredRevision command.identity.desiredRevision = some node ∧
          w' = { w with node, applies := w.applies ++ [⟨command, .queued, false⟩] }
    | .send i => ∃ a, w.applies[i]? = some a ∧ w' = w.modify i fun a => { a with sent := true }
    | .dispatch i => ∃ a, w.applies[i]? = some a ∧ (a.state = .queued ∨ a.state = .unknown) ∧
        a.sent = true ∧ w' = w.modify i fun a => { a with state := .dispatched }
    | .expire i => ∃ a, w.applies[i]? = some a ∧ a.state = .queued ∧
        w' = w.modify i fun a => { a with state := .expired }
    | .deliver i d ran => ∃ a, w.applies[i]? = some a ∧ a.sent = true ∧
        SameCommand a.command d.envelope ∧ PrivdConforms P w.executed a.command d.privd ∧
        (Agent.handleCommand P d.envelope d.context d.privd).Exec w.journal d.observed ∧
        (ran = true → PermitIssued P d.envelope d.context w.journal) ∧
        w' = { w with
          journal := d.observed.after w.journal
          executed := if ran then a.command.key :: w.executed else w.executed }
    | .deliverOther key d => configApplyBinding d.envelope = none ∧
        d.envelope.idempotencyKey = key.1 ∧ (∀ a ∈ w.applies, a.command.key ≠ key) ∧
        (Agent.handleCommand P d.envelope d.context d.privd).Exec w.journal d.observed ∧
        w' = { w with journal := d.observed.after w.journal, others := key :: w.others }
    | .lose i => ∃ a, w.applies[i]? = some a ∧ a.state.active = true ∧
        w' = w.modify i fun a => { a with state := .unknown }
    | .ingest i => ∃ a r state, w.applies[i]? = some a ∧ a.state.active = true ∧
        w.journal.command a.command.key = some r ∧ r.privilegedResultProof.isSome = true ∧
        ingestedState P a.command.identity r = some state ∧
        w' = { w.modify i (fun a => { a with state }) with
          node := w.node.configOutcome state a.command.identity.desiredRevision }
    | .unlock => w' = { w with node := w.node.unlock }

/-! ## The invariant -/

/-- The applied configuration revision of a journal. -/
def Journal.appliedConfig (j : Journal) : Nat := (j.appliedRevision "config" "ocserv.conf").getD 0

def Journal.Succeeded (j : Journal) (key : Uuid) : Prop :=
  ∃ r, j.command key = some r ∧ r.state = .succeeded

/-- What the journal has for an apply, by its state on the Controller. -/
structure Consistent (j : Journal) (a : ConfigApplyOperation) : Prop where
  unsent : a.sent = false → j.command a.command.key = none
  outcome : a.state.outcome = true → j.Succeeded a.command.key
  failed : a.state = .failed → ∃ r, j.command a.command.key = some r ∧ r.state = .failed

/-- The Agent applied the first revisions, in order. -/
structure InOrder (applies : List ConfigApplyOperation) (j : Journal) : Prop where
  succeeded : ∀ (i : Nat) (a : ConfigApplyOperation), applies[i]? = some a →
    (j.Succeeded a.command.key ↔ i < j.appliedConfig)
  bounded : j.appliedConfig ≤ applies.length

/-- The invariant of the configuration system. -/
structure ConfigInv (w : ConfigWorld) : Prop where
  /-- The desired revision counts the applies. -/
  desired : w.node.desiredRevision = w.applies.length
  /-- The `i`-th apply has the revision after `i`. -/
  numbered : ∀ (i : Nat) (a : ConfigApplyOperation), w.applies[i]? = some a →
    a.command.identity.desiredRevision.toNat = i + 1
  distinct : ∀ (i k : Nat) (a b : ConfigApplyOperation), w.applies[i]? = some a →
    w.applies[k]? = some b → a.command.key = b.command.key → i = k
  /-- Every record belongs to an apply or to another command. -/
  known : ∀ key r, w.journal.command key = some r →
    (∃ a ∈ w.applies, a.command.key = key) ∨ key ∈ w.others
  inOrder : InOrder w.applies w.journal
  /-- privd executed an apply only when its revision was the next one. -/
  executed : ∀ key ∈ w.executed, ∃ (i : Nat) (a : ConfigApplyOperation),
    w.applies[i]? = some a ∧ a.command.key = key ∧ i ≤ w.journal.appliedConfig
  consistent : ∀ a ∈ w.applies, Consistent w.journal a

/-! ## The writes of a delivery -/

/-- The succeeded records after an open record was rewritten. -/
theorem Journal.Rewrites.succeeded (h : Rewrites j j' old new) (hopen : old.state.terminal = false)
    (k : Uuid) :
    j'.Succeeded k ↔ (k = old.idempotencyKey ∧ new.state = .succeeded) ∨ j.Succeeded k := by
  unfold Succeeded
  rw [h.command]
  by_cases hk : k = old.idempotencyKey
  · have hnot : ¬ ∃ r, j.command k = some r ∧ r.state = .succeeded := by
      rintro ⟨r, hr, hs⟩
      rw [hk, h.found] at hr
      obtain rfl : old = r := by simpa using hr
      rw [hs] at hopen
      cases hopen
    simp [hk, hk ▸ hnot]
  · simp [hk]

/-- A delivery of a configuration apply completes the record of `key` alone, as failed or, when
`licensed`, as applied at `revision`. -/
def JournalWrite.configWrite (key : Uuid) (revision : UInt64) (licensed : Prop)
    (w : JournalWrite) : Prop :=
  w.onlyKey key ∧
    match w with
    | .idle | .accept _ => True
    | .transition _ new => new.state.terminal = false
    | .attested _ new => new.state = .failed
    | .applied resource _ _ _ => resource = ⟨"config", "ocserv.conf", revision⟩ ∧ licensed
    | .synthetic _ _ => False

/-- What a delivery of another command may write: its own record, and no configuration revision. -/
def JournalWrite.otherWrite (key : Uuid) (w : JournalWrite) : Prop :=
  w.onlyKey key ∧
    match w with
    | .applied resource _ _ _ => resource.resourceType ≠ "config"
    | .idle | .accept _ | .transition _ _ | .attested _ _ | .synthetic _ _ => True

namespace JournalWrite

variable {w : JournalWrite} {j j' : Journal} {key : Uuid} {revision : UInt64}
  {licensed : Prop}

theorem appliedConfig_of_eq (h : j'.appliedRevisions = j.appliedRevisions) :
    j'.appliedConfig = j.appliedConfig := by
  simp only [appliedConfig, appliedRevision, h]

theorem otherWrite.appliedConfig (hw : w.otherWrite key) (h : w.Effect j j') :
    j'.appliedConfig = j.appliedConfig := by
  cases h with
  | idle | accept => rfl
  | transition hrw ho hp hr | attested hrw ho ht hp hr | synthetic hrw ho ht hp hr =>
    exact appliedConfig_of_eq hr
  | @applied _ _ resource now old new hrw ho ht hp hle hr =>
    have hne : resource.resourceType ≠ "config" := hw.2
    unfold appliedConfig
    rw [appliedRevision_upsert hr, if_neg]
    intro he
    exact hne (Prod.mk.inj he).1.symm

/-- Such a write leaves the revision and the succeeded records, or is licensed and makes the open
record of `key` succeeded. -/
theorem configWrite.cases (hw : w.configWrite key revision licensed) (h : w.Effect j j') :
    (j'.appliedConfig = j.appliedConfig ∧ ∀ k, j'.Succeeded k ↔ j.Succeeded k) ∨
    (licensed ∧ ¬ j.Succeeded key ∧ j'.appliedConfig = revision.toNat ∧
      ∀ k, j'.Succeeded k ↔ k = key ∨ j.Succeeded k) := by
  obtain ⟨hkey, hw⟩ := hw
  -- a rewrite to a state other than succeeded
  have quiet : ∀ {old new : CommandRecord}, Rewrites j j' old new → old.state.terminal = false →
      new.state ≠ .succeeded → ∀ k, j'.Succeeded k ↔ j.Succeeded k := by
    intro old new hrw ho hn k
    rw [hrw.succeeded ho]
    simp [hn]
  cases h with
  | idle => exact .inl ⟨rfl, fun k => Iff.rfl⟩
  | @accept _ r hk hid hf =>
    refine .inl ⟨rfl, fun k => ?_⟩
    have hc : command { j with commands := j.commands.insert r hk } k =
        if k = r.idempotencyKey then some r else j.command k :=
      KeyedTable.get?_insert j.commands r hk k
    unfold Succeeded
    rw [hc]
    by_cases hkr : k = r.idempotencyKey
    · simp [hkr, hk, hf.state]
    · simp [hkr]
  | @transition _ _ old new hrw ho hp hr =>
    refine .inl ⟨appliedConfig_of_eq hr, quiet hrw ho fun hs => ?_⟩
    have hopen : new.state.terminal = false := hw
    rw [hs] at hopen
    cases hopen
  | @attested _ _ old new hrw ho ht hp hr =>
    refine .inl ⟨appliedConfig_of_eq hr, quiet hrw (by rw [ho]; rfl) fun hs => ?_⟩
    have hfailed : new.state = .failed := hw
    cases hs.symm.trans hfailed
  | @applied _ _ resource now old new hrw ho ht hp hle hr =>
    obtain ⟨hres, hlic⟩ : resource = ⟨"config", "ocserv.conf", revision⟩ ∧ licensed := hw
    have hold : old.idempotencyKey = key := hkey
    have hopen : old.state.terminal = false := by rw [ho]; rfl
    refine .inr ⟨hlic, ?_, ?_, fun k => ?_⟩
    · rintro ⟨r, hfound, hs⟩
      rw [← hold, hrw.found] at hfound
      obtain rfl : old = r := by simpa using hfound
      cases ho.symm.trans hs
    · subst hres
      unfold appliedConfig
      rw [appliedRevision_upsert hr, if_pos rfl]
      rfl
    · rw [hrw.succeeded hopen, hold]
      simp [ht]
  | synthetic hrw ho ht hp hr => exact hw.elim

end JournalWrite

/-! ## Deliveries -/

section
variable {P : Platform} {envelope : CommandEnvelope} {identity : ConfigApplyIdentity}
  {privd : PrivdAnswers} {j₀ : Journal} {key : Uuid}

/-- The resource of a configuration apply. -/
theorem configApplyBinding_resource (h : configApplyBinding envelope = some identity) :
    Agent.desiredResource envelope = some ⟨"config", "ocserv.conf", identity.desiredRevision⟩ ∧
      Agent.resultResource P envelope = Agent.desiredResource envelope ∧
      Agent.routesExternal envelope = true := by
  unfold configApplyBinding at h
  unfold Agent.resultResource Agent.desiredResource Agent.routesExternal
  split at h
  iterate 2
    rename_i p hp
    cases h
    simp [hp, Payload.synthetic]
  · cases h

/-- A payload that is no configuration apply has no configuration resource. -/
theorem resultResource_of_other (h : configApplyBinding envelope = none)
    (hres : Agent.resultResource P envelope = some resource) :
    resource.resourceType ≠ "config" := by
  -- the resource types by payload: user, group and the three certificate types
  have hcert : ∀ {t : String} {id : Bytes}, t ≠ "config" →
      Agent.certificateResource P envelope t id = some resource →
      resource.resourceType ≠ "config" := by
    intro t id ht hc
    unfold Agent.certificateResource at hc
    split at hc
    · cases hc
      exact ht
    · cases hc
  unfold Agent.resultResource at hres
  split at hres
  iterate 3 exact hcert (by decide) hres
  · unfold Agent.desiredResource at hres
    unfold configApplyBinding at h
    split at hres <;> cases hres
    all_goals first | decide | simp_all

/-- A conforming answer is stored without its revision only as a failure. -/
theorem storageOf_config (hb : configApplyBinding envelope = some identity)
    {result : Option PrivdResult} {stored : Except String Bytes}
    (hr : ∀ r, result = some r → (∃ c, r = .configApply c) ∨ ∃ kind detail, r = .error kind detail)
    (h : Agent.storageOf P envelope result = .attested stored) :
    (Agent.completion stored).1 = .failed := by
  obtain ⟨hdesired, hsame, -⟩ := configApplyBinding_resource (P := P) hb
  cases result with
  | none => cases h
  | some r =>
    rcases hr r rfl with ⟨c, rfl⟩ | ⟨kind, detail, rfl⟩
    · simp only [Agent.storageOf, hsame, hdesired] at h
      cases h
    simp only [Agent.storageOf] at h
    split at h
    · cases h
      rfl
    · cases h

/-- What a delivery of a configuration apply may write, when its answers license an application. -/
theorem deliveryAllows_config (hk : envelope.idempotencyKey = key.1)
    (hb : configApplyBinding envelope = some identity)
    (hr : ∀ response result, privd.command = some response ∨ privd.reconcile = some response →
      response.result = some result →
      (∃ r, result = .configApply r) ∨ ∃ kind detail, result = .error kind detail)
    (hl : ∀ response, Agent.Answered P envelope privd j₀ response → licensed) :
    Agent.DeliveryAllows P envelope privd j₀
      (JournalWrite.configWrite key identity.desiredRevision licensed) := by
  have hkey : ∀ {k : Uuid}, k.1 = envelope.idempotencyKey → k = key := by
    intro k h
    exact Subtype.ext (h.trans hk)
  have hconf : ∀ response, Agent.Answered P envelope privd j₀ response → ∀ r,
      response.result = some r → (∃ c, r = .configApply c) ∨
        ∃ kind detail, r = .error kind detail := by
    intro response hans r hres
    cases hans with
    | command answer fence => exact hr response r (.inl answer) hres
    | reconcile answer proof => exact hr response r (.inr answer) hres
  have hresource : ∀ {resource : AppliedResourceRevision},
      Agent.resultResource P envelope = some resource →
      resource = ⟨"config", "ocserv.conf", identity.desiredRevision⟩ := by
    intro resource h
    obtain ⟨hdesired, hsame, -⟩ := configApplyBinding_resource (P := P) hb
    rw [hsame, hdesired] at h
    exact (Option.some.inj h).symm
  exact {
    allows := fun k h =>
      { idle := ⟨trivial, trivial⟩
        accept := fun r hrk => ⟨hrk.trans (hkey h), trivial⟩
        transition := fun old new hold _ ht _ => ⟨hold.trans (hkey h), ht⟩ }
    unknown := fun k h old new hold _ hs => ⟨hold.trans (hkey h), by
      change new.state.terminal = false
      rw [hs]
      rfl⟩
    attested := fun response result old new hans hst hold _ hs =>
      ⟨hkey hold, hs.trans (storageOf_config hb (hconf response hans) hst)⟩
    applied := fun response resource bytes now old new hans hst hold _ _ =>
      ⟨hkey hold, hresource (Agent.storageOf_applied hst), hl response hans⟩ }

/-- What a delivery of another command may write. -/
theorem deliver_otherWrite (hk : envelope.idempotencyKey = key.1)
    (hb : configApplyBinding envelope = none) :
    Spec (· = j₀) (Agent.handleCommand P envelope context privd)
      (Via (JournalWrite.otherWrite key)) (fun _ _ => True) := by
  have hkey : ∀ {k : Uuid}, k.1 = envelope.idempotencyKey → k = key := by
    intro k h
    exact Subtype.ext (h.trans hk)
  refine Agent.handleCommand_spec (fun _ => ?_) fun _ v hv => ?_
  · exact {
      allows := fun k h =>
        { idle := ⟨trivial, trivial⟩
          accept := fun r hrk => ⟨hrk.trans (hkey h), trivial⟩
          transition := fun old new hold _ _ _ => ⟨hold.trans (hkey h), trivial⟩ }
      unknown := fun k h old new hold _ _ => ⟨hold.trans (hkey h), trivial⟩
      attested := fun response result old new _ _ hold _ _ => ⟨hkey hold, trivial⟩
      applied := fun response resource bytes now old new _ hst hold _ _ =>
        ⟨hkey hold, resultResource_of_other hb (Agent.storageOf_applied hst)⟩ }
  · have hvk : v.key = key := hkey hv.key
    exact {
      idle := ⟨trivial, trivial⟩
      accept := fun r hrk => ⟨hrk.trans hvk, trivial⟩
      opens := fun old new hold _ => ⟨hold.trans hvk, trivial⟩
      completes := fun old new hold _ => ⟨⟨hold.trans hvk, trivial⟩, hold.trans hvk, trivial⟩ }

end

end Ocservia
