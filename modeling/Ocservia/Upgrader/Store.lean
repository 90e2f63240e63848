import Mathlib.Data.UInt
import Ocservia.Contract.Text
import Ocservia.Lib.Checked
import Ocservia.Lib.Tasks

/-!
# Scheduling, running and reporting an upgrade

`upgrader/src/lib.rs`: privd commits an intent (`schedule_and_trigger`) and reports outcomes
(`read_recent_results`), and a standalone runner executes one operation (`UpgradeRunner::run`). They
are tasks over one directory of operations, the two lock files in it and the installed files.

A piece of a task is an access to these files. `write_atomic` replaces a record as a whole, and what
is written is read back: the texts of the records and the checks on owner and mode are left out. A
task may end at any piece, and its flocks go with it. What the spool holds and what the lifecycle
script does is chosen by the environment. The installed files are read together: while a runner
holds the execution lock, only its own script writes them.
-/

namespace Ocservia.Upgrader

open Wire Tasks

inductive UpgradeStoreError where
  | identityConflict
  | activeConflict
  | unsafeState (detail : String)
  | package (detail : String)
  | lifecycle (detail : String)
  | io (error : String)
deriving DecidableEq

/-- The `Display` text of an error. -/
def UpgradeStoreError.display : UpgradeStoreError → String
  | .identityConflict => "operation identity conflicts with a durable intent"
  | .activeConflict => "another upgrade operation is active on this node"
  | .unsafeState detail => "durable upgrade state unsafe: " ++ detail
  | .package detail => "trusted package refused: " ++ detail
  | .lifecycle detail => "package lifecycle failed: " ++ detail
  | .io error => "durable upgrade state I/O failed: " ++ error

inductive OperationState where
  | accepted | running | succeeded | failed | rolledBack
deriving DecidableEq

def OperationState.isTerminal : OperationState → Bool
  | succeeded | failed | rolledBack => true
  | accepted | running => false

structure UpgradeIntent where
  (operationId commandId : Uuid)
  targetVersion : String
  packageSha256 : FixedBytes 32
  architecture : String
  semanticPayloadSha256 : FixedBytes 32
deriving DecidableEq

/-- The record of `write_terminal`. -/
structure ResultRecord where
  state : OperationState
  operationId : Uuid
  targetVersion : String
  packageSha256 : FixedBytes 32
  completedUnix : UInt64
  detail : String
deriving DecidableEq

/-- The records of an operation directory. -/
structure OperationDir where
  intent : Option UpgradeIntent := none
  state : Option OperationState := none
  result : Option ResultRecord := none

/-- What stands at an installed path: nothing, a regular file, or anything else. -/
inductive InstalledFile where
  | absent
  | regular (bytes : Bytes)
  | other

/-- The installed binaries and the installation commit record. -/
structure Installed where
  (agent privd commit : InstalledFile)

/-- The operations directory with the holders of its lock files, and the installed files. -/
structure World where
  operations : AList fun _ : Uuid => OperationDir
  (runLock scheduleLock : Option Nat)
  installed : Installed

namespace World

section
variable (s : World) (op : Uuid)

def dir : Option OperationDir := s.operations.lookup op

def state : Option OperationState := (s.dir op).bind (·.state)

def result : Option ResultRecord := (s.dir op).bind (·.result)

def intent : Option UpgradeIntent := (s.dir op).bind (·.intent)

/-- The directory of an operation is created, or gets a record. -/
def put (dir : OperationDir) : World :=
  { s with operations := s.operations.insert op dir }

/-- A record is written into the directory of an operation. -/
def write (f : OperationDir → OperationDir) : World :=
  s.put op (f ((s.dir op).getD {}))

end

/-- The locks of a task that ends. -/
def release (id : Nat) (s : World) : World :=
  { s with
    runLock := if s.runLock = some id then none else s.runLock
    scheduleLock := if s.scheduleLock = some id then none else s.scheduleLock }

end World

/-- The error of an access to a file that is not there. -/
def notFound : UpgradeStoreError := .io "No such file or directory (os error 2)"

/-! ## Packages -/

/-- A file of an unpacked package; `executable` is what `validate_regular_executable` checks. -/
structure PackageFile where
  bytes : Bytes
  executable : Bool
deriving DecidableEq

structure Package where
  name : String
  (agent privd upgradeScript : PackageFile)
deriving DecidableEq

/-- The verification marker of a staged package. -/
structure Marker where
  version : Nat
  archiveSha256 : FixedBytes 32
  package : String
deriving DecidableEq

structure Host where
  sha256 : Bytes → FixedBytes 32
  /-- The SHA-256 digest of the text of a result record. -/
  resultSha256 : ResultRecord → FixedBytes 32
  runtimeArchitecture : Option String
  /-- The runner is bound to the root directory (`is_real_host`). -/
  realHost : Bool
  /-- The package that the verifier unpacks from an archive, when it passes its checks. -/
  unpack : Bytes → Option Package

/-- `verify-agent-package.sh`, on its own copy of the archive. -/
def verifyAgentPackage (host : Host) (archive : Bytes) (expected : FixedBytes 32) :
    Option (Package × Marker) :=
  if host.sha256 archive = expected then
    (host.unpack archive).map fun package => (package, ⟨1, expected, package.name⟩)
  else none

/-- What `execute` installs: the intent, and the verified package with its archive. -/
structure Target where
  intent : UpgradeIntent
  archive : Bytes
  package : Package
deriving DecidableEq

def validateRegularExecutable (file : PackageFile) : Except UpgradeStoreError Unit :=
  Checked.require file.executable (.package "trusted package executable has unsafe metadata")

/-- `execute` up to the digests of the binaries; `spool` is the archive as read, `copied` as the
verifier copies it. -/
def preparePackage (host : Host) (intent : UpgradeIntent)
    (spool copied : Except UpgradeStoreError Bytes) : Except UpgradeStoreError Target := do
  Checked.require (host.runtimeArchitecture == some intent.architecture)
    (.package "intent architecture mismatches this host")
  let archive ← spool
  Checked.require (host.sha256 archive == intent.packageSha256)
    (.package "spool package digest does not match the authorized intent")
  let archive ← copied.mapError fun failure =>
    .package ("package verification failed: " ++ failure.display)
  let (package, marker) ← Checked.get (verifyAgentPackage host archive intent.packageSha256)
    (.package "package verification failed: verified package staging refused the spool inputs")
  Checked.require (marker == ⟨1, intent.packageSha256, package.name⟩)
    (.package "verified package marker does not bind the authorized archive")
  validateRegularExecutable package.agent
  validateRegularExecutable package.privd
  return { intent, archive, package }

/-- The installed file has the digest of the package's binary (`sha256_if_present`). -/
def digestMatches (host : Host) (binary : PackageFile) : InstalledFile → Bool
  | .regular bytes => host.sha256 bytes == host.sha256 binary.bytes
  | .absent | .other => false

def readInstallationCommit : InstalledFile → Except UpgradeStoreError (Option Bytes)
  | .absent => .ok none
  | .other => .error (.unsafeState "installation commit record is not a bounded regular file")
  | .regular bytes => do
    Checked.require (bytes.length ≤ 96)
      (.unsafeState "installation commit record is not a bounded regular file")
    let rest := (bytes.dropPrefix? (utf8 "archive_sha256=")).getD []
    let digest := if rest.getLast? = some 10 then rest.dropLast else []
    Checked.require (digest.length == 64 &&
        digest.all fun byte => isAsciiDigit byte || (97 ≤ byte && byte ≤ 102))
      (.unsafeState "installation commit record is malformed")
    return some digest

/-- The installation commit record names the archive of a target. -/
def Target.committed (target : Target) (installed : Installed) : Except UpgradeStoreError Bool :=
  (readInstallationCommit installed.commit).map
    (· == some (utf8 (hexEncode target.intent.packageSha256.1)))

/-! ## The tasks -/

/-- How an execution ends: `finish` with a detail, or `refuse` with a failure. -/
inductive Verdict where
  | finished (detail : String)
  | refused (failure : UpgradeStoreError)

/-- The state that `write_terminal` records. -/
def Verdict.state : Verdict → OperationState
  | finished _ => .succeeded
  | refused _ => .failed

/-- The detail of `finish` or `refuse`. -/
def Verdict.detail : Verdict → String
  | finished detail => detail
  | refused failure => failure.display

/-- `bounded_detail`: the first 160 bytes, those that are not printable replaced. -/
def boundedDetail (detail : String) : String :=
  .ofList (((utf8 detail).take 160).map fun byte =>
    if 0x20 ≤ byte ∧ byte < 0x7f then Char.ofNat byte.toNat else '.')

/-- The record of `write_terminal`. -/
def Verdict.record (verdict : Verdict) (intent : UpgradeIntent) (completedUnix : UInt64) :
    ResultRecord where
  state := verdict.state
  operationId := intent.operationId
  targetVersion := intent.targetVersion
  packageSha256 := intent.packageSha256
  completedUnix := completedUnix
  detail := boundedDetail verdict.detail

/-- A runner; it holds the execution lock from `locked` on, and executes from `executing` on. -/
inductive RunPhase where
  | opened
  | loaded (intent : UpgradeIntent)
  | pending (intent : UpgradeIntent)
  | locked (intent : UpgradeIntent)
  | executing (intent : UpgradeIntent)
  | prepared (target : Target)
  | starting (target : Target) (replaced : Bool)
  | restarting (target : Target)
  | launching (target : Target)
  | lifecycle (target : Target)
  | completed (target : Target)
  | recording (intent : UpgradeIntent) (verdict : Verdict)
  | recorded (verdict : Verdict)
  | closing

/-- A call of `schedule_and_trigger`; it holds the schedule lock from `locked` until it leads to
`triggering`; in `scanning` siblings are left to look at. -/
inductive SchedulePhase where
  | waiting
  | locked
  | scanning (absent : Bool) (rest : List Uuid)
  | creating
  | committing
  | accepting
  | triggering

/-- `DurableUpgradeResult`: the outcome of an operation, with the digest of its record. -/
structure DurableUpgradeResult where
  record : ResultRecord
  sha256 : FixedBytes 32
deriving DecidableEq

/-- A runner, a call of `schedule_and_trigger`, or one of `read_recent_results` with the operations
left and the outcomes so far. -/
inductive Task where
  | runner (op : Uuid) (phase : RunPhase)
  | scheduler (intent : UpgradeIntent) (phase : SchedulePhase)
  | reader (limit : Nat) (rest : Option (List Uuid)) (results : List DurableUpgradeResult)

/-- What the environment supplies to a piece. -/
inductive Input where
  | proceed
  /-- The archive as the runner reads it and as the verifier copies it. -/
  | archive (spool copied : Except UpgradeStoreError Bytes)
  /-- An outcome of starting or running a process: its failure, if any. -/
  | process (failure : Option String)
  /-- The lifecycle script changes the installed files. -/
  | script (installed : Installed)
  | clock (seconds : UInt64)
  /-- The order in which a directory is listed. -/
  | listing (order : List Uuid)

/-- What an observer sees of a piece. -/
inductive Event where
  | silent
  /-- `execute` is entered. -/
  | executes (op : Uuid)
  /-- The lifecycle script of the package is started. -/
  | launched (op : Uuid) (target : Target)
  /-- A state or a result with this state is written. -/
  | wrote (op : Uuid) (state : OperationState)
  /-- A task returns an error, or a value that is not looked at. -/
  | failed (error : UpgradeStoreError)
  | done
  /-- `read_recent_results` returns. -/
  | reported (results : List DurableUpgradeResult)
deriving DecidableEq

/-- A piece of a task: the files after it, where the task stands, and the event. -/
abbrev Piece := World × Option Task × Event

section Pieces
variable (host : Host) (s : World) (id : Nat)

/-- The task returns. -/
def ends (event : Event) : Piece := (s.release id, none, event)

/-- The task goes on. -/
def goes (task : Task) : Piece := (s, some task, .silent)

section
variable (op : Uuid)

/-- `refuse`, before its records are written. -/
def refuse (intent : UpgradeIntent) (failure : UpgradeStoreError) : Piece :=
  goes s (.runner op (.recording intent (.refused failure)))

/-- `run` reads the state and goes on when it is not terminal. -/
def unlessTerminal (next : Piece) : Piece :=
  match s.state op with
  | none => ends s id (.failed notFound)
  | some state => if state.isTerminal then ends s id .done else next

/-- `execute` decides from the installed files whether the package is installed already. -/
def inspect (target : Target) : Piece :=
  let agentMatched := digestMatches host target.package.agent s.installed.agent
  let privdMatched := digestMatches host target.package.privd s.installed.privd
  match target.committed s.installed with
  | .error failure => ends s id (.failed failure)
  | .ok committed =>
    let replaced := committed && agentMatched && privdMatched
    if !replaced && (agentMatched || privdMatched) then
      refuse s op target.intent (.unsafeState
        "installation was interrupted before its commit record; the rollback snapshot is preserved")
    else goes s (.runner op (.starting target replaced))

/-- `execute` checks what a successful lifecycle script installed. -/
def confirm (target : Target) : Piece :=
  if !digestMatches host target.package.agent s.installed.agent ||
      !digestMatches host target.package.privd s.installed.privd then
    refuse s op target.intent
      (.lifecycle "lifecycle completed without installing the authorized binaries")
  else
    match target.committed s.installed with
    | .error failure => ends s id (.failed failure)
    | .ok true => goes s (.runner op (.recording target.intent
        (.finished "verified package lifecycle completed")))
    | .ok false => refuse s op target.intent
        (.lifecycle "lifecycle completed without recording the installation commit")

/-- The pieces of `UpgradeRunner::run` and `execute`. -/
def runAct : RunPhase → Input → Option Piece
  | .opened, .proceed =>
    match s.intent op with
    | none => some (ends s id (.failed notFound))
    | some intent => some (goes s (.runner op (.loaded intent)))
  | .loaded intent, .proceed =>
      some (unlessTerminal s id op (goes s (.runner op (.pending intent))))
  | .pending intent, .proceed =>
    if s.runLock.isSome then some (ends s id (.failed .activeConflict))
    else some (goes { s with runLock := some id } (.runner op (.locked intent)))
  | .locked intent, .proceed =>
    some (unlessTerminal s id op (s, some (.runner op (.executing intent)), .executes op))
  | .executing intent, .archive spool copied =>
    match preparePackage host intent spool copied with
    | .error failure => some (refuse s op intent failure)
    | .ok target => some (goes s (.runner op (.prepared target)))
  | .prepared target, .proceed => some (inspect host s id op target)
  | .starting target replaced, .proceed =>
    some (s.write op fun dir => { dir with state := some .running },
      some (.runner op (if replaced then .restarting target else .launching target)),
      .wrote op .running)
  | .restarting target, .process failure =>
    match failure.filter fun _ => host.realHost with
    | some failure =>
      some (refuse s op target.intent (.lifecycle ("service restart failed: " ++ failure)))
    | none => some (goes s (.runner op (.recording target.intent
        (.finished "verified package already installed"))))
  | .launching target, .process failure =>
    match failure, validateRegularExecutable target.package.upgradeScript with
    | some failure, _ => some (refuse s op target.intent (.lifecycle failure))
    | none, .error failure => some (refuse s op target.intent (.lifecycle failure.display))
    | none, .ok _ => some (s, some (.runner op (.lifecycle target)), .launched op target)
  | .lifecycle target, .script installed =>
    some (goes { s with installed } (.runner op (.lifecycle target)))
  | .lifecycle target, .process (some failure) =>
    some (refuse s op target.intent (.lifecycle failure))
  | .lifecycle target, .process none => some (goes s (.runner op (.completed target)))
  | .completed target, .proceed => some (confirm host s id op target)
  | .recording intent verdict, .clock seconds =>
    some (s.write op fun dir => { dir with result := some (verdict.record intent seconds) },
      some (.runner op (.recorded verdict)), .wrote op verdict.state)
  | .recorded verdict, .proceed =>
    some (s.write op fun dir => { dir with state := some verdict.state },
      some (.runner op .closing), .wrote op verdict.state)
  | .closing, .proceed => some (ends s id .done)
  | _, _ => none

/-- `schedule_and_trigger` after `read_operation_pieces`. -/
def schedulePieces (intent : UpgradeIntent) : Piece :=
  let siblings := s.operations.keys.erase intent.operationId
  match s.dir intent.operationId with
  | none => goes s (.scheduler intent (.scanning true siblings))
  | some dir =>
    match dir.intent, dir.state with
    | none, none => goes s (.scheduler intent (.scanning false siblings))
    | none, some _ => ends s id (.failed
        (.unsafeState "durable operation state exists without its immutable intent"))
    | some existing, state =>
      if existing ≠ intent then ends s id (.failed .identityConflict)
      else if state.isNone then goes s (.scheduler intent .accepting)
      else goes { s with scheduleLock := none } (.scheduler intent .triggering)

/-- The pieces of `schedule_and_trigger`. -/
def scheduleAct (intent : UpgradeIntent) : SchedulePhase → Input → Option Piece
  | .waiting, .proceed =>
    -- the schedule lock is taken with a blocking call
    if s.scheduleLock.isSome then none
    else some (goes { s with scheduleLock := some id } (.scheduler intent .locked))
  | .locked, .proceed => some (schedulePieces s id intent)
  | .scanning absent [], .proceed =>
    some (goes s (.scheduler intent (if absent then .creating else .committing)))
  | .scanning absent (candidate :: rest), .proceed =>
    match s.state candidate with
    | none => some (ends s id (.failed notFound))
    | some state =>
      if state.isTerminal then some (goes s (.scheduler intent (.scanning absent rest)))
      else some (ends s id (.failed .activeConflict))
  | .creating, .proceed =>
    if (s.dir intent.operationId).isSome then
      some (ends s id (.failed (.unsafeState "durable operation directory appeared concurrently")))
    else some (goes (s.put intent.operationId {}) (.scheduler intent .committing))
  | .committing, .proceed =>
    some (goes (s.write intent.operationId fun dir => { dir with intent := some intent })
      (.scheduler intent .accepting))
  | .accepting, .proceed =>
    some ({ s.write intent.operationId fun dir => { dir with state := some .accepted } with
        scheduleLock := none },
      some (.scheduler intent .triggering), .wrote intent.operationId .accepted)
  | .triggering, .process failure =>
    some (ends s id (failure.elim .done fun failure => .failed (.io failure)))
  | _, _ => none

/-- The newest outcomes, at most `limit` of them. -/
def recent (limit : Nat) (results : List DurableUpgradeResult) : List DurableUpgradeResult :=
  (results.insertionSort fun left right =>
    ofBe right.record.operationId.1 ≤ ofBe left.record.operationId.1).take (max 1 (min limit 32))

/-- `read_recent_results` reads one operation: nothing, or its outcome. -/
def readEntry : Except UpgradeStoreError (Option DurableUpgradeResult) := do
  let intent ← Checked.get (s.intent op) notFound
  Checked.require (intent.operationId == op)
    (.unsafeState "durable intent operation identity does not match its directory")
  match s.result op with
  | none => return none
  | some record => do
    Checked.require (record.operationId == op)
      (.unsafeState "durable result operation identity does not match its directory")
    Checked.require (record.targetVersion == intent.targetVersion &&
        record.packageSha256 == intent.packageSha256)
      (.unsafeState "durable result release identity does not match its intent")
    Checked.require record.state.isTerminal
      (.unsafeState "durable result records a non-terminal state")
    Checked.require (0 < record.completedUnix && record.completedUnix < 2 ^ 63)
      (.unsafeState "durable result completion time malformed")
    return some ⟨record, host.resultSha256 record⟩

end

def Task.act : Task → Input → Option Piece
  | runner op phase, input => runAct host s id op phase input
  | scheduler intent phase, input => scheduleAct s id intent phase input
  | reader limit none results, .listing order =>
    if order.isPerm s.operations.keys then
      some (goes s (reader limit (some order) results))
    else none
  | reader limit (some []) results, .proceed => some (ends s id (.reported (recent limit results)))
  | reader limit (some (op :: rest)) results, .proceed =>
    match readEntry host s op with
    | .error failure => some (ends s id (.failed failure))
    | .ok outcome => some (goes s (reader limit (some rest) (results ++ outcome.toList)))
  | _, _ => none

end Pieces

def Task.starts : Task → Bool
  | runner _ .opened | scheduler _ .waiting | reader _ none [] => true
  | _ => false

/-- The tasks over an empty directory; `cancel` says which may end before they return. -/
def program (host : Host) (cancel : Task → Bool) : Program World Task Input Event where
  init s := s.operations = ∅ ∧ s.runLock = none ∧ s.scheduleLock = none
  spawn _ t := t.starts
  act p id t input := t.act host p.shared id input
  cancel := cancel
  release := World.release

end Ocservia.Upgrader
