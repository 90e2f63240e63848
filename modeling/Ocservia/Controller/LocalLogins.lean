import Mathlib.Logic.Function.Basic
import Ocservia.Lib.Tasks
import Ocservia.Lib.Wire

/-!
# Logins of a local identity and changes of its credential

`AuthenticateLocal` reads the credential and checks the password outside any transaction, and so
does `ChangeLocalPassword`. The transactions of `createSession`, `ChangeLocalPassword` and
`MutateLocalUser` lock the rows of the identity first and are therefore serial: each is one piece
here. The answers of their statements about other rows (attempts, approvals, audit) are inputs. A
call may be dropped at any time.
-/

namespace Ocservia.Auth

open Wire Tasks

/-- A row of `auth_sessions`; those of a local identity are never of the break-glass kind. -/
structure Session where
  expiresAt : Int
  revokedAt : Option Int := none

/-- The rows of one local identity. -/
structure Identity where
  passwordHash : String
  disabledAt : Option Int := none
  sessions : Uuid → Option Session := fun _ => none

namespace Identity

/-- `Session`: what a request with the cookie of a session authenticates as. -/
def session (s : Identity) (id : Uuid) (now : Int) : Option Session :=
  (s.sessions id).filter fun x => x.revokedAt.isNone && now < x.expiresAt && s.disabledAt.isNone

def revokeIdentitySessions (s : Identity) (now : Int) : Identity :=
  { s with sessions := fun id => (s.sessions id).map fun x =>
      { x with revokedAt := x.revokedAt.or (some now) } }

def setPassword (s : Identity) (hash : String) : Identity := { s with passwordHash := hash }

def disable (s : Identity) (now : Int) : Identity :=
  { s with disabledAt := s.disabledAt.or (some now) }

def insertSession (s : Identity) (id : Uuid) (expires : Int) : Identity :=
  { s with sessions := Function.update s.sessions id (some ⟨expires, none⟩) }

end Identity

/-- What a transaction does to the credential. -/
inductive Change where
  | setPassword (hash : String)
  | disable

def Identity.change (s : Identity) (now : Int) : Change → Identity
  | .setPassword hash => (s.setPassword hash).revokeIdentitySessions now
  | .disable => (s.disable now).revokeIdentitySessions now

/-- A call in flight. `verified` is the hash that its password passed. -/
inductive Task where
  | login (password : String) (verified : Option String)
  | changePassword (session : Uuid) (current hash : String) (verified : Option String)
  | mutateLocalUser (change : Change)

/-- `granted`: the statements about other rows let the transaction commit. -/
structure Input where
  now : Int
  sessionId : Uuid
  granted : Bool

inductive Event where
  | silent
  | created (sessionId : Uuid) (password : String)
  | changed
deriving DecidableEq

section
variable (verifyPassword : String → String → Bool) (sessionTTL : Int)

/-- The pieces of the calls. -/
def act (s : Identity) (t : Task) (input : Input) : Option (Identity × Option Task × Event) :=
  let commit change : Option (Identity × Option Task × Event) :=
    some (s.change input.now change, none, .changed)
  match t with
  | .login password none =>
    if verifyPassword s.passwordHash password && s.disabledAt.isNone then
      some (s, some (.login password (some s.passwordHash)), .silent)
    else some (s, none, .silent)
  -- `createSession`, from `LockCredential` on; the id of a session is a primary key
  | .login password (some hash) =>
    if s.passwordHash == hash && s.disabledAt.isNone && input.granted &&
        (s.sessions input.sessionId).isNone then
      some (s.insertSession input.sessionId (input.now + sessionTTL), none,
        .created input.sessionId password)
    else some (s, none, .silent)
  | .changePassword session current hash none =>
    if verifyPassword s.passwordHash current && s.disabledAt.isNone then
      some (s, some (.changePassword session current hash (some s.passwordHash)), .silent)
    else some (s, none, .silent)
  -- `LockActiveSession` and `LockPassword`
  | .changePassword session _ hash (some verified) =>
    if (s.session session input.now).isSome && s.passwordHash == verified && input.granted then
      commit (.setPassword hash)
    else some (s, none, .silent)
  | .mutateLocalUser change => if input.granted then commit change else some (s, none, .silent)

/-- The calls for one identity, from any number of Controllers. -/
def program : Program Identity Task Input Event where
  init _ := True
  spawn _
    | .login _ verified | .changePassword _ _ _ verified => verified.isNone
    | .mutateLocalUser _ => true
  act p _ := act verifyPassword sessionTTL p.shared
  cancel _ := true
  release _ s := s

end

/-- What a step does, as an observer sees it. -/
def eventOf : Label Task Input Event → Event
  | .act _ _ e => e
  | .spawn _ _ | .cancel _ => .silent

/-- What a login knows: its password passed the hash that it read. -/
def TaskOk (verifyPassword : String → String → Bool) : Task → Prop
  | .login password (some hash) => verifyPassword hash password = true
  | _ => True

/-- What a piece writes. -/
inductive Writes (verifyPassword : String → String → Bool) (s : Identity) : Identity → Event → Prop
  | nothing : Writes verifyPassword s s .silent
  | session {id : Uuid} {password : String} {expires : Int} :
      verifyPassword s.passwordHash password = true → s.disabledAt = none → s.sessions id = none →
      Writes verifyPassword s (s.insertSession id expires) (.created id password)
  | change {now : Int} {c : Change} : Writes verifyPassword s (s.change now c) .changed

variable {verifyPassword : String → String → Bool} {sessionTTL : Int} {s s' : Identity}
  {id : Uuid}

/-- **What a piece does.** -/
theorem act_spec (hok : TaskOk verifyPassword t)
    (h : act verifyPassword sessionTTL s t input = some (s', t', e)) :
    (∀ u ∈ t', TaskOk verifyPassword u) ∧ Writes verifyPassword s s' e := by
  have hends : some (s, (none : Option Task), Event.silent) = some (s', t', e) →
      (∀ u ∈ t', TaskOk verifyPassword u) ∧ Writes verifyPassword s s' e := by
    rintro ⟨⟩
    exact ⟨nofun, .nothing⟩
  unfold act at h
  dsimp only at h
  split at h <;> split at h
  · rename_i hvalid
    cases h
    refine ⟨?_, .nothing⟩
    rintro _ ⟨⟩
    exact (Bool.and_eq_true_iff.1 hvalid).1
  · exact hends h
  · rename_i hcommit
    simp only [Bool.and_eq_true, beq_iff_eq, Option.isNone_iff_eq_none] at hcommit
    obtain ⟨⟨⟨rfl, henabled⟩, -⟩, hfresh⟩ := hcommit
    cases h
    exact ⟨nofun, .session hok henabled hfresh⟩
  · exact hends h
  · cases h
    refine ⟨?_, .nothing⟩
    rintro _ ⟨⟩
    trivial
  · exact hends h
  iterate 2
    · cases h
      exact ⟨nofun, .change⟩
    · exact hends h

theorem outline : Program.Outline (program verifyPassword sessionTTL) (fun _ => True)
    (fun _ _ t => TaskOk verifyPassword t) where
  init _ _ := trivial
  spawn {p id t} _ _ _ _ hspawn := by
    cases t with
    | login password verified =>
      cases verified with
      | none => trivial
      | some hash => cases hspawn
    | changePassword | mutateLocalUser => trivial
  act _ _ hJ ht h := ⟨trivial, (act_spec (hJ _ _ ht) h).1⟩
  interfere _ _ hJ _ _ j u _ hu := hJ j u hu
  cancel _ hJ _ _ := ⟨trivial, fun j u _ hu => hJ j u hu⟩

theorem step_writes (hr : (program verifyPassword sessionTTL).lts.Reachable p)
    (hs : (program verifyPassword sessionTTL).lts.step p a p') :
    Writes verifyPassword p.shared p'.shared (eventOf a) := by
  obtain ⟨tr, hrun⟩ := hr
  cases hs with
  | spawn _ _ => simpa using .nothing
  | cancel _ _ => simpa using .nothing
  | act ht hact => simpa [eventOf] using (act_spec ((outline.run hrun).2 _ _ ht) hact).2

theorem sessions_change (s : Identity) (now : Int) (c : Change) (id : Uuid) :
    (s.change now c).sessions id =
      (s.sessions id).map fun x => { x with revokedAt := x.revokedAt.or (some now) } := by
  cases c <;> rfl

def Identity.Revoked (s : Identity) (id : Uuid) : Prop :=
  ∃ x, s.sessions id = some x ∧ x.revokedAt ≠ none

theorem revoked_change (h : s.sessions id ≠ none) : (s.change now c).Revoked id := by
  obtain ⟨x, hx⟩ := Option.ne_none_iff_exists'.1 h
  exact ⟨_, by rw [sessions_change, hx]; rfl, by simp⟩

/-- A revoked session stays so. -/
theorem Writes.revoked (h : Writes verifyPassword s s' e) (hr : s.Revoked id) : s'.Revoked id := by
  obtain ⟨x, hx, hrevoked⟩ := hr
  cases h with
  | nothing => exact ⟨x, hx, hrevoked⟩
  | @session new _ _ _ _ hfresh =>
    have hne : id ≠ new := by
      rintro rfl
      cases hfresh.symm.trans hx
    exact ⟨x, by simpa [Identity.insertSession, hne] using hx, hrevoked⟩
  | change => exact revoked_change (by simp [hx])

/-- **Changes of the credential fence logins**, in every interleaving. A step that inserts a session
is the commit of a login with the password in force, for an enabled identity. A step that changes
the credential or disables the identity is the commit of a change, and after it no earlier session
authenticates. -/
theorem credential_changes_fence (verifyPassword : String → String → Bool) (sessionTTL : Int) :
    let system := (program verifyPassword sessionTTL).lts
    (∀ p a p' id, system.Reachable p → system.step p a p' → p.shared.sessions id = none →
      p'.shared.sessions id ≠ none → ∃ password, eventOf a = .created id password ∧
        verifyPassword p.shared.passwordHash password = true ∧ p.shared.disabledAt = none) ∧
    (∀ p a p', system.Reachable p → system.step p a p' → eventOf a ≠ .changed →
      p'.shared.passwordHash = p.shared.passwordHash ∧ p'.shared.disabledAt = p.shared.disabledAt) ∧
    ∀ p a p' u q id now, system.Reachable p → system.step p a p' → eventOf a = .changed →
      system.Steps p' u q → p.shared.sessions id ≠ none → q.shared.session id now = none := by
  refine ⟨fun p a p' id hr hs hnone hsome => ?_, fun p a p' hr hs hchanged => ?_,
    fun p a p' u q id now hr hs hchanged hsteps hsome => ?_⟩
  · have hw := step_writes hr hs
    generalize p'.shared = s', eventOf a = e at hw hsome
    cases hw with
    | nothing => exact absurd hnone hsome
    | @session new password _ hvalid henabled _ =>
      have hid : id = new := by
        by_contra hne
        exact hsome (by simpa [Identity.insertSession, hne] using hnone)
      exact ⟨password, hid ▸ rfl, hvalid, henabled⟩
    | change => exact absurd (by rw [sessions_change, hnone]; rfl) hsome
  · have hw := step_writes hr hs
    generalize p'.shared = s', eventOf a = e at hw hchanged
    cases hw with
    | nothing | session => exact ⟨rfl, rfl⟩
    | change => exact absurd rfl hchanged
  · have hw := step_writes hr hs
    have hrevoked : p'.shared.Revoked id := by
      rw [hchanged] at hw
      generalize p'.shared = s' at hw
      cases hw with
      | change => exact revoked_change hsome
    obtain ⟨tr, hrun⟩ := hr
    obtain ⟨x, hx, hr'⟩ : q.shared.Revoked id :=
      (hrun.snoc hs).related (R := fun p q => p.shared.Revoked id → q.shared.Revoked id)
        (fun _ h => h) (fun h₁ h₂ h => h₂ (h₁ h)) (fun _ _ _ hr hs => (step_writes hr hs).revoked)
        hsteps hrevoked
    simp [Identity.session, hx, hr']

/-- A session of the old password, a login that passed with it, and a change about to commit. -/
def sampleTrace : List (Label Task Input Event) :=
  let input : Input := ⟨0, .fill 1, true⟩
  [.spawn 0 (.login "old" none), .act 0 input .silent, .act 0 input (.created (.fill 1) "old"),
    .spawn 1 (.login "old" none), .act 1 input .silent,
      .spawn 2 (.mutateLocalUser (.setPassword "new"))]

/-- The change commits; the session ends, and the login in flight is refused. -/
theorem changed_password_fences : ∃ p p' q,
    let system := (program (· == ·) 60).lts
    let login : Label Task Input Event := .act 1 ⟨1, .fill 2, true⟩ .silent
    system.Run sampleTrace p ∧ (p.shared.session (.fill 1) 1).isSome ∧
    system.step p (.act 2 ⟨1, .fill 1, true⟩ .changed) p' ∧ system.Steps p' [login] q ∧
    q.task 1 = none ∧ q.shared.sessions (.fill 2) = none ∧ q.shared.session (.fill 1) 1 = none := by
  have h : (sampleTrace.foldlM (program (· == ·) 60).next ⟨⟨"old", none, fun _ => none⟩, ∅⟩).any
      (fun p => (p.shared.session (.fill 1) 1).isSome ∧
        ((program (· == ·) 60).next p (.act 2 ⟨1, .fill 1, true⟩ .changed)).any fun p' =>
          ((program (· == ·) 60).next p' (.act 1 ⟨1, .fill 2, true⟩ .silent)).any fun q =>
            (q.task 1).isNone ∧ (q.shared.sessions (.fill 2)).isNone) = true := by
    decide +kernel
  simp only [Option.any_eq_true, decide_eq_true_eq, Option.isNone_iff_eq_none] at h
  obtain ⟨p, hp, hsession, p', hp', q, hq, htask, hnone⟩ := h
  have hrun := Program.run_of_next (M := program (· == ·) 60) ⟨trivial, rfl⟩ hp
  have hstep := Program.step_of_next hp'
  have hsteps := LTS.Steps.cons (M := (program (· == ·) 60).lts) (Program.step_of_next hq) .nil
  refine ⟨p, p', q, hrun, hsession, hstep, hsteps, htask, hnone, ?_⟩
  refine (credential_changes_fence _ _).2.2 p _ p' _ q _ _ ⟨_, hrun⟩ hstep rfl hsteps fun hno => ?_
  simp [Identity.session, hno] at hsession

end Ocservia.Auth
