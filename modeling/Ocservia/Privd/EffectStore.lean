import Ocservia.Privd.Ledger

/-!
# The store of desired effects

`prepare`, `mark_applied`, `mark_absent` and `observe` of the adapter's `EffectStore`. The table
`desired_effects` keeps, for each kind of mutation and resource, the last command that was prepared,
with authentication codes of the file before and after it. The calls compare codes only, so they are
written over an arbitrary type of codes. A failed call rolls back and has no table to return. The
codes of the records themselves are left out: the store is the only writer of its table.

For a user request, a call at most promotes user rows (`Promotes`), and `prepare` may then put its
own row in place (`UserPrepared`). The calls of the configuration operations leave the user rows
alone (`ConfigCall.sameUsers`).
-/

namespace Ocservia

open Wire Checked KeyedTable Except List

/-! ## Records -/

/-- The kinds that `validate_effect_identity` accepts. -/
inductive EffectKind where
  | userCreate | userDisable | userEnable | userPasswordRotate | groupApply | configApply
deriving DecidableEq

/-- The arguments by which a call names an effect. -/
structure EffectRequest where
  kind : EffectKind
  key : String
  revision : UInt64
  identity : EffectIdentity
deriving DecidableEq

/-- What identifies the command of a request: all but the expiry. -/
structure EffectCommand where
  kind : EffectKind
  key : String
  revision : UInt64
  (commandId idempotencyKey : Uuid)
  payloadSha256 : FixedBytes 32
deriving DecidableEq

/-- The primary key of `desired_effects`. -/
abbrev EffectSlot := EffectKind × String

def EffectCommand.slot (c : EffectCommand) : EffectSlot := (c.kind, c.key)

namespace EffectRequest

def command (r : EffectRequest) : EffectCommand where
  kind := r.kind
  key := r.key
  revision := r.revision
  commandId := r.identity.commandId
  idempotencyKey := r.identity.idempotencyKey
  payloadSha256 := r.identity.semanticPayloadSha256

def slot (r : EffectRequest) : EffectSlot := (r.kind, r.key)

/-- `validate_same_effect`. -/
def sameEffect (a b : EffectRequest) : Bool :=
  a.identity.commandId == b.identity.commandId &&
    a.identity.idempotencyKey == b.identity.idempotencyKey &&
    a.identity.semanticPayloadSha256 == b.identity.semanticPayloadSha256

variable {a b : EffectRequest}

theorem command_eq (hs : a.slot = b.slot) (hr : a.revision = b.revision)
    (h : a.sameEffect b = true) :
    a.command = b.command := by
  simp only [slot, Prod.mk.injEq] at hs
  simp only [sameEffect, Bool.and_eq_true, beq_iff_eq] at h
  simp [command, hs, hr, h]

theorem slot_eq (h : a.command = b.command) : a.slot = b.slot := by
  have : a.command.slot = b.command.slot := by rw [h]
  exact this

/-- `validate_effect_context`; the type has the kinds and the sizes of the identifiers. -/
def validate (r : EffectRequest) (now : Int) : Except AdapterError Unit :=
  require
    (r.revision != 0 && validName r.key && uuidVersion r.identity.commandId.1 == 7 &&
      uuidVersion r.identity.idempotencyKey.1 == 7 &&
      decide (now < r.identity.expiresAtUnixSeconds.toInt))
    .invalidRequest

end EffectRequest

inductive EffectState where
  | prepared | applied | absent
deriving DecidableEq

structure EffectRecord (μ : Type) where
  request : EffectRequest
  state : EffectState
  (beforeHmac afterHmac : μ)
deriving DecidableEq

/-- `desired_effects`. -/
abbrev EffectTable (μ : Type) :=
  KeyedTable EffectSlot (EffectRecord μ) (fun r : EffectRecord μ => r.request.slot)

inductive PrepareEffect where
  | proceed | alreadyApplied
deriving DecidableEq

inductive DesiredEffectState where
  | unknown | appliedExact | absent | supersededByNewerRevision
deriving DecidableEq

structure DesiredEffectObservation where
  state : DesiredEffectState
  observedRevision : UInt64
deriving DecidableEq

/-! ## Calls -/

namespace EffectTable

section
variable {μ : Type}

/-- `update_effect_state`. -/
def setState (table : EffectTable μ) (r : EffectRecord μ) (state : EffectState) : EffectTable μ :=
  table.set { r with state := state }

/-- `query_prepared_effects`. -/
def preparedEffects (table : EffectTable μ) (configEffects : Bool) : List (EffectRecord μ) :=
  table.rows.filter fun r =>
    r.state == .prepared && (r.request.kind == .configApply) == configEffects

variable [DecidableEq μ]

/-- The loop of `prepare` over the prepared records. -/
def reviewPrepared (request : EffectRequest) (current : μ) :
    List (EffectRecord μ) → EffectTable μ → Except AdapterError (EffectTable μ)
  | [], table => .ok table
  | r :: rest, table =>
    if current = r.afterHmac then
      reviewPrepared request current rest
        (if r.request.kind = .configApply then table else table.setState r .applied)
    else if current ≠ r.beforeHmac ∨ r.request.command ≠ request.command then .error .unavailable
    else reviewPrepared request current rest table

section
variable (table : EffectTable μ)

/-- The statement that `prepare` ends with. -/
def recordPrepared (request : EffectRequest) (before after : μ) :
    Except AdapterError (PrepareEffect × EffectTable μ) :=
  if 2 ^ 63 ≤ request.revision.toNat then .error .invalidRequest
  else .ok (.proceed, table.upsert ⟨request, .prepared, before, after⟩)

/-- `prepare` of a resource that has a record. -/
def prepareExisting (request : EffectRequest) (existing : EffectRecord μ)
    (before after : μ) : Except AdapterError (PrepareEffect × EffectTable μ) :=
  if request.revision < existing.request.revision then .error .invalidRequest
  else if existing.request.revision ≠ request.revision then
    recordPrepared table request before after
  else if existing.request.sameEffect request = false then .error .invalidRequest
  else if existing.state = .applied then .ok (.alreadyApplied, table)
  else if before = existing.afterHmac then
    if request.kind = .configApply then .ok (.proceed, table)
    else .ok (.alreadyApplied, table.setState existing .applied)
  else if before ≠ existing.beforeHmac then .error .unavailable
  else recordPrepared table request before after

/-- `prepare`, on the codes of the two files. -/
def prepare (now : Int) (request : EffectRequest) (before after : μ) :
    Except AdapterError (PrepareEffect × EffectTable μ) := do
  request.validate now
  let table ← reviewPrepared request before
    (table.preparedEffects (request.kind == .configApply)) table
  match table.get? request.slot with
  | some existing => prepareExisting table request existing before after
  | none =>
    if maxEffectRecords ≤ table.rows.length then .error .unavailable
    else recordPrepared table request before after

section
variable (request : EffectRequest)

/-- `mark_applied` and `mark_absent`. -/
def mark (state : EffectState) : Except AdapterError (EffectTable μ) := do
  request.validate 0
  let r ← get (table.get? request.slot) .unavailable
  require (r.request.sameEffect request) .invalidRequest
  return table.setState r state

/-- `observe` of a prepared record. -/
def observePrepared (r : EffectRecord μ) (current : μ) : DesiredEffectState × EffectTable μ :=
  if current = r.afterHmac then
    if request.kind = .configApply then (.absent, table)
    else (.appliedExact, table.setState r .applied)
  else if current = r.beforeHmac then
    if request.kind = .configApply then (.absent, table.setState r .absent) else (.absent, table)
  else (.unknown, table)

/-- `observe` of a record of the resource. -/
def observeExisting (r : EffectRecord μ) (current : μ) : DesiredEffectObservation × EffectTable μ :=
  if request.revision < r.request.revision then
    (⟨.supersededByNewerRevision, r.request.revision⟩, table)
  else if r.request.revision < request.revision then (⟨.unknown, r.request.revision⟩, table)
  else if r.request.sameEffect request = false then (⟨.unknown, r.request.revision⟩, table)
  else
    match r.state with
    | .applied => (⟨.appliedExact, request.revision⟩, table)
    | .absent => (⟨.absent, request.revision⟩, table)
    | .prepared =>
      (⟨(observePrepared table request r current).1, request.revision⟩,
        (observePrepared table request r current).2)

/-- `observe`, on the code of the current file. -/
def observe (current : μ) : Except AdapterError (DesiredEffectObservation × EffectTable μ) := do
  request.validate 0
  match table.get? request.slot with
  | none => return (⟨.unknown, 0⟩, table)
  | some r => return observeExisting table request r current

end

end

end

/-! ## What a call changes -/

section
variable {μ : Type} {e e' : EffectTable μ} {current : μ}

/-- A user row stays, or it was not applied, has `current` as the code of the file after it, and
becomes applied. -/
def Promotes (current : μ) (e e' : EffectTable μ) : Prop :=
  ∀ k : EffectSlot, k.1 ≠ .configApply →
    e'.get? k = e.get? k ∨
      ∃ r, e.get? k = some r ∧ r.state ≠ .applied ∧ r.afterHmac = current ∧
        e'.get? k = some { r with state := .applied }

theorem Promotes.refl (current : μ) (e : EffectTable μ) : Promotes current e e :=
  fun _ _ => .inl rfl

variable {r : EffectRecord μ} {records : List (EffectRecord μ)}

theorem slot_of_get? (h : e.get? k = some r) : r.request.slot = k :=
  (get?_eq_some_iff.1 h).2

theorem get?_setState (h : e.get? r.request.slot = some r) (state : EffectState) (k : EffectSlot) :
    (e.setState r state).get? k =
      if k = r.request.slot then some { r with state := state } else e.get? k :=
  @get?_set_of_mem _ _ _ _ e { r with state := state } r h k

theorem Promotes.setState (h : e.get? r.request.slot = some r) (hs : r.state ≠ .applied)
    (hc : r.afterHmac = current) : Promotes current e (e.setState r .applied) := by
  intro k _
  rw [get?_setState h]
  split
  · rename_i hk
    exact .inr ⟨r, hk ▸ h, hs, hc, rfl⟩
  · exact .inl rfl

/-- A promoted row is not promoted again, so promotions compose. -/
theorem Promotes.trans (h : Promotes current e e') (h' : Promotes current e' e'') :
    Promotes current e e'' := by
  intro k hk
  rcases h k hk with h1 | ⟨r, hr, hs, hc, h1⟩
  · rw [← h1]
    exact h' k hk
  rcases h' k hk with h2 | ⟨r', hr', hs', -, -⟩
  · exact .inr ⟨r, hr, hs, hc, h2.trans h1⟩
  · cases h1.symm.trans hr'
    exact absurd rfl hs'

theorem mem_preparedEffects :
    r ∈ e.preparedEffects config ↔
      e.get? r.request.slot = some r ∧ r.state = .prepared ∧
        ((r.request.kind == .configApply) = config) := by
  rw [get?_eq_some_iff]
  simp [preparedEffects, mem_def]

/-- The records that the loop reads are rows of the table with different keys. -/
structure Reviewed (records : List (EffectRecord μ)) (e : EffectTable μ) : Prop where
  rows : ∀ r ∈ records, e.get? r.request.slot = some r ∧ r.state = .prepared
  nodup : (records.map fun r => r.request.slot).Nodup

theorem reviewed_preparedEffects (e : EffectTable μ) (config : Bool) :
    Reviewed (e.preparedEffects config) e where
  rows _ hr := ⟨(mem_preparedEffects.1 hr).1, (mem_preparedEffects.1 hr).2.1⟩
  nodup := (List.Sublist.map _ filter_sublist).nodup e.nodup

theorem Reviewed.tail (h : Reviewed (r :: records) e) : Reviewed records e :=
  ⟨fun x hx => h.rows x (mem_cons_of_mem _ hx), (nodup_cons.1 h.nodup).2⟩

/-- An update of the first record leaves the others as the loop read them. -/
theorem Reviewed.setState (h : Reviewed (r :: records) e) (state : EffectState) :
    Reviewed records (e.setState r state) := by
  refine ⟨fun x hx => ?_, h.tail.nodup⟩
  have hne : x.request.slot ≠ r.request.slot := by
    intro hk
    exact (nodup_cons.1 h.nodup).1 (mem_map.2 ⟨x, hx, hk⟩)
  rw [get?_setState (h.rows r mem_cons_self).1, if_neg hne]
  exact h.tail.rows x hx

variable [DecidableEq μ] {request : EffectRequest}

/-- One turn of the loop: the record is settled by the file, or it waits for this request. -/
theorem reviewPrepared_cons (h : reviewPrepared request current (r :: records) e = .ok e') :
    (r.afterHmac = current ∧
      reviewPrepared request current records
        (if r.request.kind = .configApply then e else e.setState r .applied) = .ok e') ∨
    (r.beforeHmac = current ∧ r.request.command = request.command ∧
      reviewPrepared request current records e = .ok e') := by
  rw [reviewPrepared] at h
  split at h
  · rename_i hc
    exact .inl ⟨hc.symm, h⟩
  split at h
  · cases h
  · rename_i hn
    obtain ⟨hb, hr⟩ := not_or.1 hn
    exact .inr ⟨(not_not.1 hb).symm, not_not.1 hr, h⟩

theorem reviewPrepared_promotes (hR : Reviewed records e)
    (h : reviewPrepared request current records e = .ok e') : Promotes current e e' := by
  induction records generalizing e with
  | nil =>
    obtain rfl : e = e' := ok.inj h
    exact .refl current e
  | cons r records ih =>
    obtain ⟨hr, hs⟩ := hR.rows r mem_cons_self
    rcases reviewPrepared_cons h with ⟨hc, h⟩ | ⟨-, -, h⟩
    · split at h
      · exact ih hR.tail h
      · have hs' : r.state ≠ .applied := by simp [hs]
        exact (Promotes.setState hr hs' hc).trans (ih (hR.setState _) h)
    · exact ih hR.tail h

/-- Where the loop ends, every user record it read has been promoted or waits for the request. -/
theorem reviewPrepared_settled (hR : Reviewed records e)
    (h : reviewPrepared request current records e = .ok e') (hr : r ∈ records)
    (hk : r.request.kind ≠ .configApply) :
    e'.get? r.request.slot = some { r with state := .applied } ∨
      r.beforeHmac = current ∧ r.request.command = request.command := by
  induction records generalizing e with
  | nil => cases hr
  | cons x records ih =>
    rcases reviewPrepared_cons h with ⟨-, h⟩ | ⟨hb, hc, h⟩
    · rcases mem_cons.1 hr with rfl | hr
      · rw [if_neg hk] at h
        have hset := get?_setState (hR.rows r mem_cons_self).1 .applied r.request.slot
        rw [if_pos rfl] at hset
        rcases reviewPrepared_promotes (hR.setState _) h r.request.slot hk
          with he | ⟨x, hx, hs, -, -⟩
        · exact .inl (he.trans hset)
        · cases hset.symm.trans hx
          exact absurd rfl hs
      · split at h
        · exact ih hR.tail h hr
        · exact ih (hR.setState _) h hr
    · rcases mem_cons.1 hr with rfl | hr
      · exact .inr ⟨hb, hc⟩
      · exact ih hR.tail h hr

/-- The loop over configuration records changes nothing. -/
theorem reviewPrepared_config (hk : ∀ r ∈ records, r.request.kind = .configApply)
    (h : reviewPrepared request current records e = .ok e') : e' = e := by
  induction records with
  | nil => exact (ok.inj h).symm
  | cons r records ih =>
    have hk' : ∀ r ∈ records, r.request.kind = .configApply :=
      fun x hx => hk x (mem_cons_of_mem _ hx)
    rcases reviewPrepared_cons h with ⟨-, h⟩ | ⟨-, -, h⟩
    · rw [if_pos (hk r mem_cons_self)] at h
      exact ih hk' h
    · exact ih hk' h

/-- What `prepare` did for a user request. -/
inductive UserPrepared (e e' : EffectTable μ) (request : EffectRequest) (before after : μ) :
    PrepareEffect → Prop where
  /-- The command is recorded as applied. -/
  | alreadyApplied (r : EffectRecord μ) : Promotes before e e' →
      e'.get? request.slot = some r → r.request.command = request.command → r.state = .applied →
      UserPrepared e e' request before after .alreadyApplied
  /-- The request replaces an older command of its resource, or its own attempt that left the file;
  no other command waits. -/
  | proceed (e₁ : EffectTable μ) : Promotes before e e₁ →
      (∀ r, e.get? r.request.slot = some r → r.request.kind ≠ .configApply →
        r.state = .prepared →
        e₁.get? r.request.slot = some { r with state := .applied } ∨
          r.request.command = request.command) →
      (∀ r, e₁.get? request.slot = some r → r.request.revision < request.revision ∨
        r.request.command = request.command ∧ r.state ≠ .applied ∧ r.afterHmac ≠ before) →
      e' = e₁.upsert ⟨request, .prepared, before, after⟩ →
      UserPrepared e e' request before after .proceed

variable {before after : μ} {reply : PrepareEffect} {o : DesiredEffectObservation}

omit [DecidableEq μ] in
/-- A request is recorded in the place of what its slot held. -/
theorem recordPrepared_ok (h : recordPrepared e request before after = .ok (reply, e')) :
    reply = .proceed ∧ e' = e.upsert ⟨request, .prepared, before, after⟩ := by
  rw [recordPrepared] at h
  split at h
  · cases h
  · cases h
    exact ⟨rfl, rfl⟩

theorem prepare_user (hk : request.kind ≠ .configApply)
    (h : e.prepare now request before after = .ok (reply, e')) :
    UserPrepared e e' request before after reply := by
  rw [prepare] at h
  obtain ⟨_, h⟩ := of_bind h
  obtain ⟨e₁, hrev, h⟩ := bind_eq_ok.1 h
  have hR := reviewed_preparedEffects e (request.kind == .configApply)
  have hP := reviewPrepared_promotes hR hrev
  have hsettled : ∀ r, e.get? r.request.slot = some r → r.request.kind ≠ .configApply →
      r.state = .prepared → e₁.get? r.request.slot = some { r with state := .applied } ∨
        r.request.command = request.command := by
    intro r hr hrk hs
    have hmem : r ∈ e.preparedEffects (request.kind == .configApply) :=
      mem_preparedEffects.2 ⟨hr, hs, by simp [hk, hrk]⟩
    exact (reviewPrepared_settled hR hrev hmem hrk).imp id And.right
  split at h
  · rename_i existing hex
    have hslot : existing.request.slot = request.slot := slot_of_get? hex
    rw [prepareExisting] at h
    split at h
    · cases h
    rename_i hle
    split at h
    · -- an older revision gives way
      rename_i hne
      obtain ⟨rfl, rfl⟩ := recordPrepared_ok h
      refine .proceed e₁ hP hsettled (fun r hr => ?_) rfl
      cases hex.symm.trans hr
      exact .inl (UInt64.lt_of_le_of_ne (UInt64.not_lt.1 hle) hne)
    rename_i heq
    split at h
    · cases h
    rename_i hsame
    have hcmd : existing.request.command = request.command :=
      EffectRequest.command_eq hslot (not_not.1 heq) (Bool.eq_true_of_not_eq_false hsame)
    split at h
    · rename_i hs
      cases h
      exact .alreadyApplied existing hP hex hcmd hs
    rename_i hs
    split at h
    · rename_i hafter
      cases h
      have hex' : e₁.get? existing.request.slot = some existing := hslot ▸ hex
      have hget : (e₁.setState existing .applied).get? request.slot =
          some { existing with state := .applied } := by
        rw [get?_setState hex', if_pos hslot.symm]
      exact .alreadyApplied _ (hP.trans (.setState hex' hs hafter.symm)) hget hcmd rfl
    rename_i hafter
    split at h
    · cases h
    obtain ⟨rfl, rfl⟩ := recordPrepared_ok h
    refine .proceed e₁ hP hsettled (fun r hr => ?_) rfl
    cases hex.symm.trans hr
    exact .inr ⟨hcmd, hs, fun hc => hafter hc.symm⟩
  · rename_i hnone
    split at h
    · cases h
    obtain ⟨rfl, rfl⟩ := recordPrepared_ok h
    refine .proceed e₁ hP hsettled (fun r hr => ?_) rfl
    cases hnone.symm.trans hr

omit [DecidableEq μ] in
theorem mark_ok (h : e.mark request state = .ok e') :
    ∃ r, e.get? request.slot = some r ∧ e' = e.setState r state := by
  rw [mark] at h
  obtain ⟨_, h⟩ := of_bind h
  obtain ⟨r, hr, h⟩ := get_bind.1 h
  obtain ⟨_, h⟩ := of_bind h
  exact ⟨r, hr, (ok.inj h).symm⟩

/-- What `observe` did for a user request. -/
structure UserObserved (e e' : EffectTable μ) (request : EffectRequest) (current : μ)
    (state : DesiredEffectState) : Prop where
  promotes : Promotes current e e'
  applied : state = .appliedExact → ∃ r, e'.get? request.slot = some r ∧
    r.request.command = request.command ∧ r.state = .applied
  absent : state = .absent → ∃ r, e.get? request.slot = some r ∧
    r.request.command = request.command ∧ r.state ≠ .applied ∧
      (r.state = .prepared → r.afterHmac ≠ current)

omit [DecidableEq μ] in
/-- An observation that neither confirms nor denies the effect, and changes nothing. -/
theorem UserObserved.silent (h1 : state ≠ .appliedExact) (h2 : state ≠ .absent) :
    UserObserved e e request current state :=
  ⟨.refl current e, fun h => absurd h h1, fun h => absurd h h2⟩

section
variable (hk : request.kind ≠ .configApply)
include hk

theorem observePrepared_user (hr : e.get? request.slot = some r)
    (hc : r.request.command = request.command) (hs : r.state = .prepared) :
    UserObserved e (observePrepared e request r current).2 request current
      (observePrepared e request r current).1 := by
  have hslot := slot_of_get? hr
  have hs' : r.state ≠ .applied := by simp [hs]
  rw [observePrepared]
  simp only [if_neg hk]
  split
  · rename_i ha
    have hr' : e.get? r.request.slot = some r := by rw [hslot, hr]
    refine ⟨.setState hr' hs' ha.symm, fun _ => ⟨{ r with state := .applied }, ?_, hc, rfl⟩, nofun⟩
    rw [get?_setState hr', if_pos hslot.symm]
  rename_i ha
  split
  · exact ⟨.refl current e, nofun, fun _ => ⟨r, hr, hc, hs', fun _ h => ha h.symm⟩⟩
  · exact .silent nofun nofun

theorem observeExisting_user (hr : e.get? request.slot = some r)
    (h : observeExisting e request r current = (o, e')) :
    UserObserved e e' request current o.state := by
  rw [observeExisting] at h
  split at h
  · cases h
    exact .silent nofun nofun
  rename_i hle
  split at h
  · cases h
    exact .silent nofun nofun
  rename_i hge
  split at h
  · cases h
    exact .silent nofun nofun
  rename_i hsame
  have hc : r.request.command = request.command :=
    EffectRequest.command_eq (slot_of_get? hr)
      (UInt64.le_antisymm (UInt64.not_lt.1 hle) (UInt64.not_lt.1 hge))
      (Bool.eq_true_of_not_eq_false hsame)
  split at h <;> rename_i hs <;> cases h
  · exact ⟨.refl current e, fun _ => ⟨r, hr, hc, hs⟩, nofun⟩
  · exact ⟨.refl current e, nofun, fun _ => ⟨r, hr, hc, by simp [hs], fun h => by simp [hs] at h⟩⟩
  · exact observePrepared_user hk hr hc hs

theorem observe_user
    (h : e.observe request current = .ok (o, e')) : UserObserved e e' request current o.state := by
  rw [observe] at h
  obtain ⟨_, h⟩ := of_bind h
  split at h
  · cases h
    exact .silent nofun nofun
  · rename_i r hr
    exact observeExisting_user hk hr (ok.inj h)

end

end

/-! ## Configuration calls -/

section
variable {μ : Type} {e e' : EffectTable μ}

def SameUsers (e e' : EffectTable μ) : Prop :=
  ∀ k : EffectSlot, k.1 ≠ .configApply → e'.get? k = e.get? k

theorem SameUsers.setState (h : e.get? k = some r) (hk : k.1 = .configApply) (state : EffectState) :
    SameUsers e (e.setState r state) := by
  intro k' hk'
  have hslot := slot_of_get? h
  rw [get?_setState (hslot ▸ h), if_neg]
  rintro rfl
  exact hk' (hslot ▸ hk)

variable [DecidableEq μ]

/-- The calls of the operations on the configuration. -/
inductive ConfigCall (e e' : EffectTable μ) : Prop where
  | prepare (now : Int) (request : EffectRequest) (before after : μ) (reply : PrepareEffect) :
      request.kind = .configApply → e.prepare now request before after = .ok (reply, e') →
      ConfigCall e e'
  | mark (request : EffectRequest) (state : EffectState) :
      request.kind = .configApply → e.mark request state = .ok e' → ConfigCall e e'
  | observe (request : EffectRequest) (current : μ) (o : DesiredEffectObservation) :
      request.kind = .configApply → e.observe request current = .ok (o, e') → ConfigCall e e'

variable {request : EffectRequest} {before after : μ} {reply : PrepareEffect}

omit [DecidableEq μ] in
/-- Recording a configuration apply leaves the user rows alone. -/
theorem SameUsers.recordPrepared (hk : request.kind = .configApply)
    (h : recordPrepared e request before after = .ok (reply, e')) : SameUsers e e' := by
  obtain ⟨-, rfl⟩ := recordPrepared_ok h
  intro k hk'
  rw [get?_upsert, if_neg]
  rintro rfl
  exact hk' hk

theorem prepare_config (hk : request.kind = .configApply)
    (h : e.prepare now request before after = .ok (reply, e')) : SameUsers e e' := by
  rw [prepare] at h
  obtain ⟨_, h⟩ := of_bind h
  obtain ⟨e₁, hrev, h⟩ := bind_eq_ok.1 h
  have he : e₁ = e := by
    refine reviewPrepared_config (fun r hr => ?_) hrev
    have := (mem_preparedEffects.1 hr).2.2
    simpa [hk] using this
  rw [he] at h
  split at h
  · rw [prepareExisting] at h
    repeat' split at h
    all_goals first
      | cases h; exact fun _ _ => rfl
      | exact .recordPrepared hk h
      | cases h
  · split at h
    · cases h
    · exact .recordPrepared hk h

theorem observe_config (hk : request.kind = .configApply)
    (h : e.observe request current = .ok (o, e')) : SameUsers e e' := by
  rw [observe] at h
  obtain ⟨_, h⟩ := of_bind h
  split at h
  · cases h
    exact fun _ _ => rfl
  rename_i r hr
  have h := ok.inj h
  simp only [observeExisting, observePrepared, if_pos hk] at h
  repeat' split at h
  all_goals first
    | cases h; exact fun _ _ => rfl
    | cases h; exact .setState hr hk _

/-- The operations on the configuration leave the user rows alone. -/
theorem ConfigCall.sameUsers (h : ConfigCall e e') : SameUsers e e' := by
  cases h with
  | prepare now request before after reply hk h => exact prepare_config hk h
  | mark request state hk h =>
    obtain ⟨r, hr, rfl⟩ := mark_ok h
    exact .setState hr hk state
  | observe request current o hk h => exact observe_config hk h

end

end EffectTable

end Ocservia
