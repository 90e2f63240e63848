import Ocservia.Agent.Session
import Ocservia.Lib.Trace
import Mathlib.Data.List.Nodup

/-!
# Owner fencing over one Agent journal

The Agent processes that have one journal open, over every interleaving of their steps. An
activation reads the stored floor of owner epochs, compares, and raises it in a second statement;
the handler of a stream reads the stored floor and verifies the operation against what it read.
Journals are opened without a lock, so another process may raise the floor between the two steps. A
process may end at any point.

`owner_law_of_turns` says when the law of ownership holds all the same; without its condition it
fails (`overlapping_agents_break_law`).
-/

namespace Ocservia

open Wire Agent List Option Function UInt64

/-- Where a process stands between two statements on the journal. -/
inductive AgentTask where
  | idle
  /-- The fence passed the check against the floor, which is not raised yet. -/
  | activating (grant : SessionGrantAuthority) (fence : VerifiedConnectionFenceV2)
  /-- The floor was read for a stream, which is not verified yet. -/
  | checking (stream : AgentStream)

/-- An Agent process: the floor that it holds, and its session. -/
structure AgentProcess where
  floor : UInt64
  task : AgentTask
  session : Option AgentSessionMode

/-- The stored floor, and the processes that have the journal open. -/
structure FencingWorld where
  stored : Option Bytes
  process : Nat → Option AgentProcess

/-- A step of a process, with what it observed. -/
inductive FencingEvent where
  /-- The Agent starts and loads the floor. -/
  | start (p : Nat)
  | stop (p : Nat)
  /-- The session ends, or a statement on the journal fails. -/
  | close (p : Nat)
  /-- A handshake, up to the check of its fence against the floor. -/
  | negotiate (p : Nat) (response : SessionHandshakeResponse) (supported : List String)
      (negotiatedAt activatedAt : Instant)
  /-- The floor is raised over `stored`; the session of a term is activated, or refused. -/
  | raise (p : Nat) (stored : UInt64) (activated : Option FenceTerm)
  /-- The floor is read for a stream. -/
  | refresh (p : Nat) (stream : AgentStream)
  /-- The stream is verified against `floor`, while `stored` is the stored one. -/
  | verify (p : Nat) (stream : AgentStream) (now : Instant) (floor stored : UInt64)
      (outcome : StreamOutcome)

/-- The process that takes the step. -/
def FencingEvent.process : FencingEvent → Nat
  | .start p | .stop p | .close p | .negotiate p .. | .raise p .. | .refresh p _ | .verify p .. => p

/-- The term of the session that an event activates. -/
def FencingEvent.activated : FencingEvent → Option FenceTerm
  | .raise _ _ activated => activated
  | _ => none

/-- The terms of the activated sessions, in the order of their activation. -/
def activations (t : List FencingEvent) : List FenceTerm := t.filterMap FencingEvent.activated

/-- An event adds the term that it activates, if any. -/
theorem activations_snoc (t : List FencingEvent) (ev : FencingEvent) :
    activations (t ++ [ev]) = activations t ++ ev.activated.toList := by
  rw [activations, filterMap_append, activations]
  cases h : ev.activated <;> simp [filterMap, h]

/-! ## Steps -/

namespace FencingWorld

/-- The world with the process `p` changed. -/
def set (w : FencingWorld) (p : Nat) (x : Option AgentProcess) : FencingWorld :=
  { w with process := Function.update w.process p x }

/-- The process after its session ended. -/
def closed (floor : UInt64) : AgentProcess := ⟨floor, .idle, none⟩

section
variable (P : Platform) (self : AgentIdentity)

/-- The process after `negotiate_and_activate_session`, up to the raise. -/
def negotiated (w : FencingWorld) (proc : AgentProcess) (response : SessionHandshakeResponse)
    (supported : List String) (negotiatedAt activatedAt : Instant) : AgentProcess :=
  match negotiateSessionModeAtInstant P self response supported negotiatedAt with
  | .error _ => proc
  | .ok (.authorizedV11 (.fencedV11 grant fence)) =>
    if (checkActivation fence w.stored proc.floor activatedAt).2 then
      ⟨(checkActivation fence w.stored proc.floor activatedAt).1, .activating grant fence, none⟩
    else closed (checkActivation fence w.stored proc.floor activatedAt).1
  | .ok mode => ⟨proc.floor, .idle, some mode⟩

/-- The process after the raise, of which `durable` is the result. -/
def raised (grant : SessionGrantAuthority) (fence : VerifiedConnectionFenceV2) (durable : UInt64) :
    AgentProcess × Option FenceTerm :=
  if durable = fence.term.ownerEpoch then
    (⟨durable, .idle, some (.authorizedV11 (.fencedV11 grant fence))⟩, some fence.term)
  else (closed durable, none)

/-- The process after the floor was read for a stream. -/
def refreshed (w : FencingWorld) (proc : AgentProcess) (stream : AgentStream) : AgentProcess :=
  match refreshFenceEpochFloor w.stored proc.floor with
  | some floor => { proc with floor, task := .checking stream }
  | none => closed proc.floor

/-- The process after a stream was verified; a refusal ends its session. -/
def verified (proc : AgentProcess) : StreamOutcome → AgentProcess
  | .refused => closed proc.floor
  | .passed | .staleOwner => { proc with task := .idle }

/-- The step of an event, if the process can take it and observes what the event says. -/
def next (w : FencingWorld) : FencingEvent → Option FencingWorld
  | .start p =>
    match w.process p, ownerFenceEpochFloor w.stored with
    | none, some floor => some (w.set p (some (closed floor)))
    | _, _ => none
  | .stop p =>
    match w.process p with
    | some _ => some (w.set p none)
    | none => none
  | .close p =>
    match w.process p with
    | some proc => some (w.set p (some (closed proc.floor)))
    | none => none
  | .negotiate p response supported negotiatedAt activatedAt =>
    match w.process p with
    | some ⟨floor, .idle, none⟩ => some (w.set p (some (negotiated P self w (closed floor) response
        supported negotiatedAt activatedAt)))
    | _ => none
  | .raise p stored activated =>
    match w.process p with
    | some ⟨_, .activating grant fence, _⟩ =>
      match (raiseOwnerFenceEpochFloor w.stored fence.term.ownerEpoch).2 with
      | some durable =>
        if ownerFenceEpochFloor w.stored = some stored ∧
            (raised grant fence durable).2 = activated then
          some (set ⟨some (raiseOwnerFenceEpochFloor w.stored fence.term.ownerEpoch).1, w.process⟩
            p (some (raised grant fence durable).1))
        else none
      | none => none
    | _ => none
  | .refresh p stream =>
    match w.process p with
    | some ⟨floor, .idle, some (.authorizedV11 authority)⟩ =>
      some (w.set p (some (refreshed w ⟨floor, .idle, some (.authorizedV11 authority)⟩ stream)))
    | _ => none
  | .verify p stream now floor stored outcome =>
    match w.process p with
    | some ⟨held, .checking checked, some (.authorizedV11 authority)⟩ =>
      if checked = stream ∧ held = floor ∧ ownerFenceEpochFloor w.stored = some stored ∧
          checkStream P self authority floor stream now = outcome then
        some (w.set p (some (verified ⟨floor, .checking stream, some (.authorizedV11 authority)⟩
          outcome)))
      else none
    | _ => none

end

end FencingWorld

/-- The Agents of one journal, which starts without a floor. -/
def fencingSystem (P : Platform) (self : AgentIdentity) : LTS FencingWorld FencingEvent :=
  .ofFun ⟨none, fun _ => none⟩ (FencingWorld.next P self)

/-! ## What a step does -/

/-- A process while `n` is stored: it holds no larger floor, and a fence to be activated is newer
than its floor. -/
structure ProcessOk (n : UInt64) (proc : AgentProcess) : Prop where
  floor_le : proc.floor.toNat ≤ n.toNat
  newer : ∀ grant fence, proc.task = .activating grant fence →
    proc.floor.toNat < fence.term.ownerEpoch.toNat

/-- A process that works with the floor `n` it has read. -/
def ReadFloor (n : UInt64) (proc : AgentProcess) : Prop := proc.task ≠ .idle → proc.floor = n

/-- A process after a step of its own, which read the floor if it is used later. -/
structure ProcessFresh (n : UInt64) (proc : AgentProcess) : Prop extends ProcessOk n proc where
  read : ReadFloor n proc

/-- A process without a task is fresh. -/
theorem ProcessFresh.of_idle (hle : proc.floor.toNat ≤ n.toNat) (hidle : proc.task = .idle) :
    ProcessFresh n proc :=
  ⟨⟨hle, fun _ _ ht => by cases hidle.symm.trans ht⟩, fun hne => absurd hidle hne⟩

/-- A larger stored floor changes nothing about a process. -/
theorem ProcessOk.mono (h : ProcessOk n proc) (hle : n.toNat ≤ m.toNat) :
    ProcessOk m proc := ⟨h.floor_le.trans hle, h.newer⟩

/-- A process that reads the floor holds the stored one. -/
theorem refresh_current (hn : FloorIs stored n) (hle : floor.toNat ≤ n.toNat) :
    refreshFenceEpochFloor stored floor = some n := by
  rw [refreshFenceEpochFloor, hn.read, map_some]
  refine congrArg some (UInt64.toNat_inj.1 ?_)
  rw [toNat_max]
  omega

namespace FencingWorld

/-- A handshake that goes on to the raise has a fence newer than the stored floor. -/
theorem negotiated_spec (hn : FloorIs w.stored n) (hle : floor.toNat ≤ n.toNat)
    (response : SessionHandshakeResponse) (supported : List String)
    (negotiatedAt activatedAt : Instant) :
    ProcessFresh n
      (negotiated P self w (closed floor) response supported negotiatedAt activatedAt) := by
  unfold negotiated
  split
  · exact .of_idle hle rfl
  · rename_i grant fence _
    unfold checkActivation
    split
    · exact .of_idle hle rfl
    rw [show refreshFenceEpochFloor w.stored (closed floor).floor = _ from refresh_current hn hle]
    dsimp only
    split
    · rename_i hcheck
      refine ⟨⟨le_rfl, fun grant' fence' ht => ?_⟩, fun _ => rfl⟩
      obtain ⟨-, rfl⟩ := AgentTask.activating.inj ht
      exact lt_iff_toNat_lt.1 (of_decide_eq_true hcheck)
    · exact .of_idle le_rfl rfl
  · exact .of_idle hle rfl

/-- The handler of a stream has read the stored floor. -/
theorem refreshed_spec (hn : FloorIs w.stored n) (hle : proc.floor.toNat ≤ n.toNat)
    (stream : AgentStream) : ProcessFresh n (refreshed w proc stream) := by
  rw [refreshed, refresh_current hn hle]
  exact ⟨⟨le_rfl, fun _ _ ht => by cases ht⟩, fun _ => rfl⟩

/-- A process is idle again after a verification. -/
theorem verified_spec (hle : proc.floor.toNat ≤ n.toNat) (outcome : StreamOutcome) :
    ProcessFresh n (verified proc outcome) := by
  cases outcome <;> exact .of_idle hle rfl

/-- A step that is no raise: it changes one process, which is fresh then. -/
structure LocalStep (n : UInt64) (w w' : FencingWorld) (p : Nat) : Prop where
  stored : w'.stored = w.stored
  others : ∀ q, q ≠ p → w'.process q = w.process q
  fresh : ∀ proc, w'.process p = some proc → ProcessFresh n proc

/-- A raise of the floor `n`, for a fence that the process holds. -/
structure RaiseStep (n : UInt64) (w w' : FencingWorld) (p : Nat) (fence : VerifiedConnectionFenceV2)
    (activated : Option FenceTerm) : Prop where
  stored : FloorIs w'.stored (max n fence.term.ownerEpoch)
  others : ∀ q, q ≠ p → w'.process q = w.process q
  own : ∃ proc, w'.process p = some proc ∧ proc.floor = max n fence.term.ownerEpoch ∧
    proc.task = .idle
  held : ∃ proc grant, w.process p = some proc ∧ proc.task = .activating grant fence
  activated : activated =
    if max n fence.term.ownerEpoch = fence.term.ownerEpoch then some fence.term else none

/-- A world with one process changed. -/
theorem localStep_set (h : ∀ proc, x = some proc → ProcessFresh n proc) :
    LocalStep n w (w.set p x) p where
  stored := rfl
  others := fun q hq => update_of_ne hq _ _
  fresh := fun proc hproc =>
    h proc (by rw [← hproc]; exact (update_self p x w.process).symm)

/-- A world with one process replaced by a fresh one. -/
theorem localStep_some (h : ProcessFresh n proc) : LocalStep n w (w.set p (some proc)) p :=
  localStep_set fun _ hproc => some.inj hproc ▸ h

/-- The step of a raise. -/
theorem next_raise (hn : FloorIs w.stored n) {stored : UInt64} {activated : Option FenceTerm}
    (h : next P self w (.raise p stored activated) = some w') :
    ∃ fence, RaiseStep n w w' p fence activated := by
  simp only [next] at h
  split at h
  case h_1 floor grant fence session hproc =>
    obtain ⟨hraised, hresult⟩ := raise_spec hn fence.term.ownerEpoch
    rw [hresult] at h
    dsimp only at h
    split at h
    case isTrue hmatch =>
      cases h
      refine ⟨fence, hraised, fun q hq => update_of_ne hq _ _, ?_,
        ⟨_, grant, hproc, rfl⟩, ?_⟩
      · refine ⟨(raised grant fence (max n fence.term.ownerEpoch)).1, update_self .., ?_⟩
        unfold raised
        split
        iterate 2 exact ⟨rfl, rfl⟩
      · rw [← hmatch.2, raised]
        split
        · rfl
        · rfl
    case isFalse => cases h
  case h_2 => cases h

/-- The step of any other event. -/
theorem next_local (hn : FloorIs w.stored n)
    (hok : ∀ p proc, w.process p = some proc → ProcessOk n proc)
    (hraise : ¬ ∃ p stored activated, ev = .raise p stored activated)
    (h : next P self w ev = some w') :
    ev.activated = none ∧ LocalStep n w w' ev.process := by
  cases ev with
  | raise p stored activated => exact absurd ⟨p, stored, activated, rfl⟩ hraise
  | start p =>
    simp only [next] at h
    split at h
    case h_1 floor _ hfloor =>
      cases h
      cases hfloor.symm.trans hn.read
      exact ⟨rfl, localStep_some (.of_idle le_rfl rfl)⟩
    case h_2 => cases h
  | stop p =>
    simp only [next] at h
    split at h
    · cases h
      exact ⟨rfl, localStep_set fun proc hproc => by cases hproc⟩
    · cases h
  | close p =>
    simp only [next] at h
    split at h
    case h_1 proc hproc =>
      cases h
      exact ⟨rfl, localStep_some (.of_idle (hok p proc hproc).floor_le rfl)⟩
    case h_2 => cases h
  | negotiate p response supported negotiatedAt activatedAt =>
    simp only [next] at h
    split at h
    case h_1 floor hproc =>
      cases h
      exact ⟨rfl, localStep_some (negotiated_spec hn (hok p _ hproc).floor_le response supported
        negotiatedAt activatedAt)⟩
    case h_2 => cases h
  | refresh p stream =>
    simp only [next] at h
    split at h
    case h_1 floor authority hproc =>
      cases h
      exact ⟨rfl, localStep_some (refreshed_spec hn (hok p _ hproc).floor_le stream)⟩
    case h_2 => cases h
  | verify p stream now floor stored outcome =>
    simp only [next] at h
    split at h
    case h_1 held checked authority hproc =>
      split at h
      case isTrue hmatch =>
        obtain ⟨-, rfl, -⟩ := hmatch
        cases h
        exact ⟨rfl, localStep_some (verified_spec (hok p _ hproc).floor_le outcome)⟩
      case isFalse => cases h
    case h_2 => cases h

end FencingWorld

/-! ## The invariant -/

/-- While `n` is stored, no floor held and no epoch activated is larger. -/
structure FencingInv (t : List FencingEvent) (w : FencingWorld) (n : UInt64) : Prop where
  stored : FloorIs w.stored n
  processes : ∀ p proc, w.process p = some proc → ProcessOk n proc
  activated_le : ∀ a ∈ activations t, a.ownerEpoch.toNat ≤ n.toNat

section
variable {n stored : UInt64} {fence : VerifiedConnectionFenceV2} {activated : Option FenceTerm}

/-- Nothing is stored at first. -/
theorem FencingInv.start : FencingInv [] ⟨none, fun _ => none⟩ 0 where
  stored := .inr ⟨rfl, rfl⟩
  processes := fun _ _ hproc => by cases hproc
  activated_le := fun _ ha => by cases ha

/-- A step of one process keeps the stored floor. -/
theorem FencingInv.local_step (hI : FencingInv t w n) (hnone : ev.activated = none)
    (h : FencingWorld.LocalStep n w w' p) : FencingInv (t ++ [ev]) w' n := by
  have hsame : activations (t ++ [ev]) = activations t := by
    rw [activations_snoc, hnone, toList_none, append_nil]
  refine ⟨h.stored ▸ hI.stored, fun q proc hproc => ?_, hsame ▸ hI.activated_le⟩
  by_cases hq : q = p
  · subst hq
    exact (h.fresh proc hproc).toProcessOk
  · exact hI.processes q proc (h.others q hq ▸ hproc)

/-- A session is activated only with the epoch that is stored after the raise. -/
theorem FencingWorld.RaiseStep.activated_epoch
    (h : RaiseStep n w w' p fence (some term)) :
    term.ownerEpoch = max n fence.term.ownerEpoch ∧ term = fence.term := by
  have hactivated := h.activated
  split at hactivated
  · rename_i htop
    cases hactivated
    exact ⟨htop.symm, rfl⟩
  · cases hactivated

/-- A raise moves the stored floor up to the epoch of its fence. -/
theorem FencingInv.raise_step (hI : FencingInv t w n)
    (h : FencingWorld.RaiseStep n w w' p fence activated) :
    FencingInv (t ++ [.raise p stored activated]) w' (max n fence.term.ownerEpoch) := by
  have hmax := toNat_max n fence.term.ownerEpoch
  have hle : n.toNat ≤ (max n fence.term.ownerEpoch).toNat := by omega
  refine ⟨h.stored, fun q proc hproc => ?_, fun a ha => ?_⟩
  · by_cases hq : q = p
    · subst hq
      obtain ⟨own, hown, hfloor, hidle⟩ := h.own
      cases hown.symm.trans hproc
      exact (ProcessFresh.of_idle (hfloor ▸ le_rfl) hidle).toProcessOk
    · exact (hI.processes q proc (h.others q hq ▸ hproc)).mono hle
  · rw [activations_snoc] at ha
    rcases mem_append.1 ha with ha | ha
    · exact (hI.activated_le a ha).trans hle
    obtain rfl : activated = some a := by simpa [FencingEvent.activated] using ha
    exact h.activated_epoch.1 ▸ le_rfl

/-- The two kinds of steps together. -/
theorem FencingInv.step (hI : FencingInv t w n) (h : (fencingSystem P self).step w ev w') :
    ∃ m, FencingInv (t ++ [ev]) w' m := by
  by_cases hraise : ∃ p stored activated, ev = .raise p stored activated
  · obtain ⟨p, stored, activated, rfl⟩ := hraise
    obtain ⟨fence, hstep⟩ := FencingWorld.next_raise hI.stored h
    exact ⟨_, hI.raise_step hstep⟩
  · obtain ⟨hnone, hstep⟩ := FencingWorld.next_local hI.stored hI.processes hraise h
    exact ⟨n, hI.local_step hnone hstep⟩

/-- The invariant holds after every run. -/
theorem fencingInv (h : (fencingSystem P self).Run t w) : ∃ n, FencingInv t w n := by
  refine h.invariant (fun t w => ∃ n, FencingInv t w n) ?_ ?_
  · rintro w rfl
    exact ⟨0, .start⟩
  · rintro t w ev w' - ⟨n, hI⟩ hstep
    exact hI.step hstep

/-- A step changes only the process that takes it. -/
theorem step_others (h : (fencingSystem P self).Run t w)
    (hstep : (fencingSystem P self).step w ev w')
    (hq : q ≠ ev.process) : w'.process q = w.process q := by
  obtain ⟨n, hI⟩ := fencingInv h
  by_cases hraise : ∃ p stored activated, ev = .raise p stored activated
  · obtain ⟨p, stored, activated, rfl⟩ := hraise
    obtain ⟨fence, hraise⟩ := FencingWorld.next_raise hI.stored hstep
    exact hraise.others q hq
  · exact (FencingWorld.next_local hI.stored hI.processes hraise hstep).2.others q hq

/-! ## Runs in which raises take turns -/

/-- A process raises the floor only while no other is between its read and its own raise or
verification. -/
def TakesTurns (w : FencingWorld) (ev : FencingEvent) (_ : FencingWorld) : Prop :=
  match ev with
  | .raise p _ _ => ∀ q, q ≠ p → ∀ proc, w.process q = some proc → proc.task = .idle
  | _ => True

/-- The system whose raises take turns. -/
def turnSystem (P : Platform) (self : AgentIdentity) : LTS FencingWorld FencingEvent :=
  (fencingSystem P self).restrict TakesTurns

/-- Besides, a floor that a process has read is the stored one until it is used. -/
structure TurnInv (t : List FencingEvent) (w : FencingWorld) (n : UInt64) : Prop
    extends FencingInv t w n where
  read : ∀ p proc, w.process p = some proc → ReadFloor n proc

/-- A raise finds no floor that was read and is still to be used. -/
theorem TurnInv.step (hI : TurnInv t w n) (h : (turnSystem P self).step w ev w') :
    ∃ m, TurnInv (t ++ [ev]) w' m := by
  by_cases hraise : ∃ p stored activated, ev = .raise p stored activated
  · obtain ⟨p, stored, activated, rfl⟩ := hraise
    obtain ⟨fence, hstep⟩ := FencingWorld.next_raise hI.stored h.1
    refine ⟨_, hI.raise_step hstep, fun q proc hproc hbusy => absurd ?_ hbusy⟩
    by_cases hq : q = p
    · subst hq
      obtain ⟨own, hown, -, hidle⟩ := hstep.own
      cases hown.symm.trans hproc
      exact hidle
    · exact h.2 q hq proc (hstep.others q hq ▸ hproc)
  · obtain ⟨hnone, hstep⟩ := FencingWorld.next_local hI.stored hI.processes hraise h.1
    refine ⟨n, hI.local_step hnone hstep, fun q proc hproc => ?_⟩
    by_cases hq : q = ev.process
    · subst hq
      exact (hstep.fresh proc hproc).read
    · exact hI.read q proc (hstep.others q hq ▸ hproc)

/-- The invariant holds after every run in which raises take turns. -/
theorem turnInv (h : (turnSystem P self).Run t w) : ∃ n, TurnInv t w n := by
  refine h.invariant (fun t w => ∃ n, TurnInv t w n) ?_ ?_
  · rintro w rfl
    exact ⟨0, .start, fun p proc hproc => by cases hproc⟩
  · rintro t w ev w' - ⟨n, hI⟩ hstep
    exact hI.step hstep

/-! ## The law of ownership -/

/-- Activated epochs never decrease, sessions of one epoch have one term, and no operation passes
under a fence or binding older than an activated term. -/
structure OwnerLaw (t : List FencingEvent) : Prop where
  monotone : (activations t).Pairwise fun a b => a.ownerEpoch ≤ b.ownerEpoch
  same_term : ∀ a ∈ activations t, ∀ b ∈ activations t, a.ownerEpoch = b.ownerEpoch → a = b
  no_stale : ∀ pre p stream now floor stored post,
    t = pre ++ .verify p stream now floor stored .passed :: post → ∀ a ∈ activations pre,
      (∀ fence, stream.connectionFence = some fence → a.ownerEpoch ≤ fence.ownerEpoch) ∧
      ∀ binding, stream.fenceBinding = some binding → a.ownerEpoch ≤ binding.ownerEpoch

/-- What relates each activated term to the next raise relates the activated terms in order. -/
theorem activations_pairwise {M : LTS FencingWorld FencingEvent} {R : FenceTerm → FenceTerm → Prop}
    (hraise : ∀ t w p stored term w', M.Run t w → M.step w (.raise p stored (some term)) w' →
      ∀ a ∈ activations t, R a term) (h : M.Run t w) : (activations t).Pairwise R := by
  refine h.invariant (fun t _ => (activations t).Pairwise R) (fun _ _ => .nil) ?_
  intro t w ev w' hrun ih hstep
  rw [activations_snoc]
  refine pairwise_append.2 ⟨ih, ?_, ?_⟩
  · cases ev.activated with
    | none => exact .nil
    | some term => exact pairwise_singleton _ _
  · intro a ha b hb
    cases ev with
    | raise p stored activated =>
      cases activated with
      | none => cases hb
      | some term =>
        obtain rfl := mem_singleton.1 hb
        exact hraise t w p stored b w' hrun hstep a ha
    | _ => cases hb

/-- **Activated epochs never decrease**, over every interleaving of the Agents of a journal. -/
theorem activations_monotone (h : (fencingSystem P self).Run t w) :
    (activations t).Pairwise fun a b => a.ownerEpoch ≤ b.ownerEpoch := by
  refine activations_pairwise ?_ h
  intro t w p stored term w' hrun hstep a ha
  obtain ⟨n, hI⟩ := fencingInv hrun
  obtain ⟨fence, hraise⟩ := FencingWorld.next_raise hI.stored hstep
  have hmax := toNat_max n fence.term.ownerEpoch
  have hle := hI.activated_le a ha
  rw [hraise.activated_epoch.1]
  exact le_iff_toNat_le.2 (by omega)

/-- When raises take turns, a fence is newer than the stored floor when activated. -/
theorem activations_increase (h : (turnSystem P self).Run t w) :
    (activations t).Pairwise fun a b => a.ownerEpoch < b.ownerEpoch := by
  refine activations_pairwise ?_ h
  intro t w p stored term w' hrun hstep a ha
  obtain ⟨n, hI⟩ := turnInv hrun
  obtain ⟨fence, hraise⟩ := FencingWorld.next_raise hI.stored hstep.1
  obtain ⟨-, rfl⟩ := hraise.activated_epoch
  obtain ⟨proc, grant, hproc, htask⟩ := hraise.held
  have hnewer := (hI.processes p proc hproc).newer grant fence htask
  have hread : proc.floor = n := hI.read p proc hproc (by simp [htask])
  have hle := hI.activated_le a ha
  rw [hread] at hnewer
  exact lt_iff_toNat_lt.2 (hle.trans_lt hnewer)

/-- An operation that passed has a fence and a binding of the floor that its process had read. -/
theorem passed_epochs
    (hstep : (fencingSystem P self).step w (.verify p stream now floor stored .passed) w') :
    (∃ proc, w.process p = some proc ∧ proc.floor = floor ∧ proc.task = .checking stream) ∧
      (∃ fence, stream.connectionFence = some fence ∧ fence.ownerEpoch = floor) ∧
      ∃ binding, stream.fenceBinding = some binding ∧ binding.ownerEpoch = floor := by
  simp only [fencingSystem, LTS.ofFun, FencingWorld.next] at hstep
  split at hstep
  case h_1 held checked authority hproc =>
    split at hstep
    case isTrue hmatch =>
      obtain ⟨rfl, rfl, -, houtcome⟩ := hmatch
      obtain ⟨grant, active, fence, binding, -, hfence, hbinding, hpassed⟩ :=
        checkStream_passed houtcome
      exact ⟨⟨_, hproc, rfl, rfl⟩, ⟨fence, hfence, hpassed.fence_epoch⟩, binding, hbinding,
        hpassed.binding_epoch⟩
    case isFalse => cases hstep
  case h_2 => cases hstep

/-- When raises take turns, no operation that passes is older than an activated term. -/
theorem passed_current (h : (turnSystem P self).Run t w)
    (hstep : (turnSystem P self).step w (.verify p stream now floor stored .passed) w')
    (ha : a ∈ activations t) :
    (∀ fence, stream.connectionFence = some fence → a.ownerEpoch ≤ fence.ownerEpoch) ∧
      ∀ binding, stream.fenceBinding = some binding → a.ownerEpoch ≤ binding.ownerEpoch := by
  obtain ⟨n, hI⟩ := turnInv h
  obtain ⟨⟨proc, hproc, rfl, htask⟩, ⟨fence, hfence, hf⟩, binding, hbinding, hb⟩ :=
    passed_epochs hstep.1
  have hread : proc.floor = n := hI.read p proc hproc (by simp [htask])
  have hbound : a.ownerEpoch ≤ proc.floor :=
    hread ▸ le_iff_toNat_le.2 (hI.activated_le a ha)
  refine ⟨fun f hcarried => ?_, fun b hcarried => ?_⟩
  · cases hfence.symm.trans hcarried
    rwa [hf]
  · cases hbinding.symm.trans hcarried
    rwa [hb]

/-- **When stale owners cannot command the Agent.** In every interleaving the activated epochs never
decrease; the law of ownership holds when no process raises the floor between another's read of it
and that one's raise or verification. -/
theorem owner_law_of_turns :
    (∀ t w, (fencingSystem P self).Run t w →
      (activations t).Pairwise fun a b => a.ownerEpoch ≤ b.ownerEpoch) ∧
    ∀ t w, (turnSystem P self).Run t w → OwnerLaw t := by
  refine ⟨fun t w => activations_monotone,
    fun t w h => ⟨activations_monotone h.of_restrict, ?_, ?_⟩⟩
  · intro a ha b hb
    -- Of two sessions one was activated later, with a larger epoch.
    exact inj_on_of_nodup_map (pairwise_map.2 ((activations_increase h).imp UInt64.ne_of_lt)) ha hb
  · rintro pre p stream now floor stored post rfl a ha
    obtain ⟨w₁, w₂, hrun, hstep⟩ := h.at_label rfl
    exact passed_current hrun hstep ha

end

/-! ## Agents that overlap -/

def sampleAgent : AgentIdentity where
  nodeId := sampleUuid 3
  endpointId := .fill 9
  commandKeys := ⟨[("ed25519", [])]⟩

/-- A handshake response of the owner term of `epoch` over `connection`. -/
def sampleHandshake (epoch : UInt64) (connection : UInt8) : SessionHandshakeResponse where
  protocolMajor := 1
  protocolMinor := 1
  negotiatedCapabilities := ["ocserv.fencing.v2", "ocserv.users.write"]
  sessionGrant := some {
    version := 1
    keyId := "ed25519"
    protocolMajor := 1
    protocolMinor := 1
    nodeId := (sampleUuid 3).1
    endpointId := List.replicate 32 9
    authorizationRevision := 1
    negotiatedCapabilities := ["ocserv.fencing.v2", "ocserv.users.write"]
    issuedAt := some ⟨490, 0⟩
    expiresAt := some ⟨2000, 0⟩
    signature := List.replicate 64 0 }
  connectionFence := some (sampleFence epoch connection)

/-- The term of that handshake. -/
def sampleTerm (epoch : UInt64) (connection : UInt8) : FenceTerm :=
  ⟨sampleUuid 7, sampleUuid 8, 1, epoch, sampleUuid connection, 1⟩

/-- A command under that term. -/
def sampleStream (epoch : UInt64) (connection : UInt8) : AgentStream :=
  .command ⟨sampleDisable .executeOrReplay 1, some (sampleFence epoch connection),
    some (sampleBinding epoch connection)⟩

/-- The handshake of process `p`. -/
def sampleNegotiate (p : Nat) (epoch : UInt64) (connection : UInt8) : FencingEvent :=
  .negotiate p (sampleHandshake epoch connection) ["ocserv.fencing.v2", "ocserv.users.write"]
    ⟨500, 0⟩ ⟨500, 0⟩

/-- A session of epoch 4 executes a command, and another Agent takes over with epoch 5. -/
def takeoverHistory : List FencingEvent :=
  [.start 0, sampleNegotiate 0 4 9, .raise 0 0 (some (sampleTerm 4 9)),
    .refresh 0 (sampleStream 4 9), .verify 0 (sampleStream 4 9) ⟨500, 0⟩ 4 4 .passed,
    .start 1, sampleNegotiate 1 5 10, .raise 1 4 (some (sampleTerm 5 10))]

/-- The same, but the takeover falls between the two statements of the command's check. -/
def overtakenHistory : List FencingEvent :=
  [.start 0, sampleNegotiate 0 4 9, .raise 0 0 (some (sampleTerm 4 9)),
    .refresh 0 (sampleStream 4 9), .start 1, sampleNegotiate 1 5 10,
    .raise 1 4 (some (sampleTerm 5 10))] ++
  [.verify 0 (sampleStream 4 9) ⟨500, 0⟩ 4 5 .passed]

/-- Two Agents check two terms of epoch 4 before either raises the floor. -/
def twinHistory : List FencingEvent :=
  [.start 0, .start 1, sampleNegotiate 0 4 9, sampleNegotiate 1 4 10,
    .raise 0 0 (some (sampleTerm 4 9)), .raise 1 4 (some (sampleTerm 4 10))]

instance (task : AgentTask) : Decidable (task = .idle) :=
  match task with
  | .idle => isTrue rfl
  | .activating .. | .checking _ => isFalse (by simp)

/-- Steps of the processes below `k`, taken while the others of these have no task. -/
def AloneBelow (k : Nat) (w : FencingWorld) (ev : FencingEvent) (_ : FencingWorld) : Prop :=
  ev.process < k ∧ ∀ q < k, q ≠ ev.process → ∀ proc ∈ w.process q, proc.task = .idle

instance : Decidable (AloneBelow k w ev w') := inferInstanceAs (Decidable (_ ∧ ∀ q < k, _))

/-- Processes that take their steps alone take turns. -/
theorem turns_of_alone (h : ((fencingSystem P self).restrict (AloneBelow k)).Run t w) :
    (turnSystem P self).Run t w ∧ ∀ q, k ≤ q → w.process q = none := by
  induction h with
  | start h0 =>
    cases h0
    exact ⟨.start rfl, fun _ _ => rfl⟩
  | @snoc t w w' ev hrun hstep ih =>
    obtain ⟨ih, hnone⟩ := ih
    obtain ⟨hstep, hlt, hidle⟩ := hstep
    refine ⟨ih.snoc ⟨hstep, ?_⟩, fun q hq => ?_⟩
    · cases ev with
      | raise p stored activated =>
        intro q hq proc hproc
        by_cases hk : q < k
        · exact hidle q hk hq proc hproc
        · cases (hnone q (by omega)).symm.trans hproc
      | _ => trivial
    · rw [step_others hrun.of_restrict hstep (by omega), hnone q hq]

/-- A history whose steps the system computes is a run. -/
theorem sample_run (h : (t.foldlM (FencingWorld.next samplePlatform sampleAgent)
      ⟨none, fun _ => none⟩).isSome = true) :
    ∃ w, (fencingSystem samplePlatform sampleAgent).Run t w :=
  (isSome_iff_exists.1 h).imp fun _ => LTS.ofFun_run

/-- In the takeover the raises take turns, and the law holds. -/
theorem owner_law_takeover : ∃ w, (turnSystem samplePlatform sampleAgent).Run takeoverHistory w ∧
    OwnerLaw takeoverHistory := by
  obtain ⟨w, hw⟩ := isSome_iff_exists.1 (show (takeoverHistory.foldlM (LTS.guarded
    (FencingWorld.next samplePlatform sampleAgent) (AloneBelow 2))
      ⟨none, fun _ => none⟩).isSome = true by decide +kernel)
  have hrun := (turns_of_alone (LTS.ofFun_restrict_run hw)).1
  exact ⟨w, hrun, owner_law_of_turns.2 takeoverHistory w hrun⟩

/-- With overlapping Agents, a command of epoch 4 passes after epoch 5 was activated, and two
sessions of epoch 4 with different connections are activated. -/
theorem overlapping_agents_break_law :
    (∃ w, (fencingSystem samplePlatform sampleAgent).Run overtakenHistory w) ∧
    ¬ OwnerLaw overtakenHistory ∧
    (∃ w, (fencingSystem samplePlatform sampleAgent).Run twinHistory w) ∧
    ¬ OwnerLaw twinHistory := by
  refine ⟨sample_run (by decide +kernel), fun h => ?_, sample_run (by decide +kernel), fun h => ?_⟩
  · have hstale := h.no_stale _ 0 (sampleStream 4 9) ⟨500, 0⟩ 4 5 [] rfl (sampleTerm 5 10)
      (by decide)
    exact absurd (hstale.1 (sampleFence 4 9) rfl) (by decide)
  · have hsame := h.same_term (sampleTerm 4 9) (by decide) (sampleTerm 4 10) (by decide) rfl
    exact absurd hsame (by decide)

end Ocservia
