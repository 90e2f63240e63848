import Ocservia.Contract.Fence
import Ocservia.Controller.Values
import Ocservia.Lib.KeyedTable
import Ocservia.Lib.Trace

/-!
# Ownership of a node's connection

`connection_owner.go`: a table has one row for each node that was ever owned, with the latest term
and the deadline of its lease. `Acquire` starts a term under the next epoch, unless another identity
holds an unexpired lease; `Renew`, `Release` and `Assert` act for the exact term of the row while
its lease is live. Every call locks the row before it reads the clock of the database, so the calls
on a node form a sequence, along which the readings do not decrease (`ownershipSystem`).

What the calls are for is stated over their replies alone (`acquired`, `lease`, `Released`).
`NodeInv` connects the row of a node to them, and `ownership_exclusive` is the contract of the
package.
-/

namespace Ocservia

open List Option KeyedTable Except Int

/-! ## The table -/

/-- `ownerstore.Identity`. -/
structure OwnerIdentity where
  instanceId : Uuid
  incarnation : Int
deriving DecidableEq

/-- `ownerstore.Term`. -/
structure OwnerTerm where
  identity : OwnerIdentity
  (nodeId connectionId : Uuid)
  epoch : Int
deriving DecidableEq

/-- A row of `connection_owner_fencing`, without the time of its last write. -/
structure OwnerRow where
  term : OwnerTerm
  leaseUntil : DbTime

/-- `connection_owner_fencing`, with its primary key. -/
abbrev OwnerTable := KeyedTable Uuid OwnerRow fun r => r.term.nodeId

inductive OwnerError where
  /-- `database.ErrNotFound`. -/
  | notFound
  /-- `database.ErrConstraint`, or a constraint of the table. -/
  | constraint
  | timestamp
deriving DecidableEq

/-- The term that `Acquire` is called with, whose epoch is not read. -/
structure OwnerRequest where
  identity : OwnerIdentity
  (nodeId connectionId : Uuid)

/-- The term that a request is granted under an epoch. -/
def OwnerRequest.term (r : OwnerRequest) (epoch : Int) : OwnerTerm :=
  ⟨r.identity, r.nodeId, r.connectionId, epoch⟩

/-- `ownerstore.Lease`. -/
structure OwnerLease where
  epoch : Int
  deadline : DbTime
deriving DecidableEq

namespace OwnerTable

def maxInt64 : Int := 2 ^ 63 - 1

/-- `Acquire` on a row: another identity gets the term only after its lease; the epoch is the next
one. -/
def takeOver (row : OwnerRow) (request : OwnerRequest) (at_ : DbTime) : Except OwnerError Int :=
  if at_ < row.leaseUntil ∧ row.term.identity ≠ request.identity then .error .notFound
  else if row.term.epoch = maxInt64 then .error .constraint
  else .ok (row.term.epoch + 1)

section
variable (table : OwnerTable)

def acquire (request : OwnerRequest) (ttl : Int) (at_ : DbTime) :
    Except OwnerError (OwnerLease × OwnerTable) :=
  match at_.add ttl with
  | none => .error .timestamp
  | some deadline =>
    match h : table.get? request.nodeId with
    | none =>
      -- The table refuses a negative incarnation.
      if request.identity.incarnation < 0 then .error .constraint
      else .ok (⟨1, deadline⟩, table.insert ⟨request.term 1, deadline⟩ h)
    | some row =>
      match takeOver row request at_ with
      | .error e => .error e
      | .ok epoch =>
        if request.identity.incarnation < 0 then .error .constraint
        else .ok (⟨epoch, deadline⟩, table.set ⟨request.term epoch, deadline⟩)

section
variable (term : OwnerTerm)

/-- `lockLiveTerm`: the row of exactly this term, while its lease is live. -/
def lockLiveTerm (at_ : DbTime) : Except OwnerError OwnerRow :=
  match table.get? term.nodeId with
  | none => .error .notFound
  | some row =>
    if row.term = term ∧ at_ < row.leaseUntil then .ok row else .error .notFound

def renew (ttl : Int) (at_ : DbTime) : Except OwnerError (DbTime × OwnerTable) :=
  match lockLiveTerm table term at_ with
  | .error e => .error e
  | .ok _ =>
    match at_.add ttl with
    | none => .error .timestamp
    | some deadline => .ok (deadline, table.set ⟨term, deadline⟩)

def release (at_ : DbTime) : Except OwnerError OwnerTable :=
  match lockLiveTerm table term at_ with
  | .error e => .error e
  | .ok _ => .ok (table.set ⟨term, at_⟩)

/-- `Assert`: the query reads the clock, and the lease is compared with a second reading. -/
def assert (at_ checkedAt : DbTime) : Except OwnerError Unit :=
  match lockLiveTerm table term at_ with
  | .error e => .error e
  | .ok row => if row.leaseUntil ≤ checkedAt then .error .notFound else .ok ()

end

end

end OwnerTable

/-! ## Calls -/

inductive OwnershipCall where
  | acquire (request : OwnerRequest) (ttl : Int)
  | renew (term : OwnerTerm) (ttl : Int)
  | release (term : OwnerTerm)
  | assert (term : OwnerTerm)

def OwnershipCall.nodeId : OwnershipCall → Uuid
  | .acquire request _ => request.nodeId
  | .renew term _ | .release term | .assert term => term.nodeId

/-- The result of a call that succeeded. -/
inductive OwnershipReply where
  | lease (lease : OwnerLease)
  | renewed (deadline : DbTime)
  | done
deriving DecidableEq

/-- A call at its clock readings. -/
def OwnerTable.call (table : OwnerTable) (at_ checkedAt : DbTime) :
    OwnershipCall → Except OwnerError (OwnershipReply × OwnerTable)
  | .acquire request ttl => (table.acquire request ttl at_).map fun x => (.lease x.1, x.2)
  | .renew term ttl => (table.renew term ttl at_).map fun x => (.renewed x.1, x.2)
  | .release term => (table.release term at_).map fun table' => (.done, table')
  | .assert term => (table.assert term at_ checkedAt).map fun _ => (.done, table)

/-- A call with its readings and its reply. -/
structure OwnershipEvent where
  (at_ checkedAt : DbTime)
  call : OwnershipCall
  reply : Except OwnerError OwnershipReply

namespace OwnershipEvent

section
variable (ev : OwnershipEvent)

/-- The term that the call acquires. -/
def acquires : Option OwnerTerm :=
  match ev.call, ev.reply with
  | .acquire request _, .ok (.lease lease) => some (request.term lease.epoch)
  | _, _ => none

/-- The term whose ownership the call confirms by acting for it. -/
def exercises : Option OwnerTerm :=
  match ev.call, ev.reply with
  | .renew term _, .ok _ | .release term, .ok _ | .assert term, .ok _ => some term
  | _, _ => none

def releases (term : OwnerTerm) : Bool :=
  match ev.call, ev.reply with
  | .release released, .ok _ => released == term
  | _, _ => false

/-- The deadline that the call gives to the lease of the term. -/
def extends_ (term : OwnerTerm) : Option DbTime :=
  match ev.call, ev.reply with
  | .acquire request _, .ok (.lease lease) =>
    if request.term lease.epoch = term then some lease.deadline else none
  | .renew renewed _, .ok (.renewed deadline) => if renewed = term then some deadline else none
  | _, _ => none

end

end OwnershipEvent

/-- The table and the last reading of its clock. -/
structure OwnershipWorld where
  table : OwnerTable
  clock : DbTime

/-- The calls of any Controllers on the store, with a clock that never goes back. -/
def ownershipSystem : LTS OwnershipWorld OwnershipEvent where
  init w := w.table = ∅
  step w ev w' := w.clock ≤ ev.at_ ∧ ev.at_ ≤ ev.checkedAt ∧ w'.clock = ev.checkedAt ∧
    ((∃ reply, w.table.call ev.at_ ev.checkedAt ev.call = .ok (reply, w'.table) ∧
        ev.reply = .ok reply) ∨
      ∃ e, w.table.call ev.at_ ev.checkedAt ev.call = .error e ∧ ev.reply = .error e ∧
        w'.table = w.table)

/-! ## What the replies say -/

section
variable (t : List OwnershipEvent)

/-- The terms of a node that were acquired, oldest first. -/
def acquired (node : Uuid) : List OwnerTerm :=
  (t.filterMap OwnershipEvent.acquires).filter fun term => term.nodeId = node

/-- The deadline that the lease of a term was last given. -/
def lease (term : OwnerTerm) : Option DbTime :=
  (t.filterMap fun ev => ev.extends_ term).getLast?

def Released (term : OwnerTerm) : Prop :=
  ∃ ev ∈ t, ev.releases term = true

/-- One more event acquires at most its own term. -/
theorem acquired_snoc (ev : OwnershipEvent) (node : Uuid) : acquired (t ++ [ev]) node =
      acquired t node ++ (ev.acquires.toList.filter fun term => term.nodeId = node) := by
  rw [acquired, filterMap_append, filter_append, acquired]
  cases h : ev.acquires <;> simp [filterMap, h]

/-- One more event gives its term a new deadline and leaves the others. -/
theorem lease_snoc (ev : OwnershipEvent) (term : OwnerTerm) :
    lease (t ++ [ev]) term = (ev.extends_ term).or (lease t term) := by
  rw [lease, filterMap_append, lease]
  cases h : ev.extends_ term <;> simp [filterMap, h]

end

/-- A term is released by the last event or was before. -/
theorem released_snoc : Released (t ++ [ev]) term ↔ Released t term ∨ ev.releases term = true := by
  simp [Released, or_and_right, exists_or]

/-! ## What a call does to a row -/

/-- The row of a node before and after a call that succeeded. -/
inductive RowStep (at_ checkedAt : DbTime) :
    OwnershipCall → OwnershipReply → Option OwnerRow → Option OwnerRow → Prop
  | first {request : OwnerRequest} {ttl : Int} {deadline : DbTime} :
      RowStep at_ checkedAt (.acquire request ttl) (.lease ⟨1, deadline⟩) none
        (some ⟨request.term 1, deadline⟩)
  | next {request : OwnerRequest} {ttl : Int} {deadline : DbTime} {row : OwnerRow} :
      row.leaseUntil ≤ at_ ∨ row.term.identity = request.identity →
      RowStep at_ checkedAt (.acquire request ttl) (.lease ⟨row.term.epoch + 1, deadline⟩)
        (some row) (some ⟨request.term (row.term.epoch + 1), deadline⟩)
  | renew {row : OwnerRow} {ttl : Int} {deadline : DbTime} :
      at_ < row.leaseUntil →
      RowStep at_ checkedAt (.renew row.term ttl) (.renewed deadline) (some row)
        (some ⟨row.term, deadline⟩)
  | release {row : OwnerRow} :
      at_ < row.leaseUntil →
      RowStep at_ checkedAt (.release row.term) .done (some row) (some ⟨row.term, at_⟩)
  | assert {row : OwnerRow} :
      at_ < row.leaseUntil → checkedAt < row.leaseUntil →
      RowStep at_ checkedAt (.assert row.term) .done (some row) (some row)

namespace OwnerTable

variable {table table' : OwnerTable}

/-- `lockLiveTerm` finds the row with the term and a lease that has not ended. -/
theorem lockLiveTerm_ok {term : OwnerTerm} {row : OwnerRow}
    (h : lockLiveTerm table term at_ = .ok row) :
    table.get? term.nodeId = some row ∧ row.term = term ∧ at_ < row.leaseUntil := by
  unfold lockLiveTerm at h
  split at h
  · cases h
  rename_i found hrow
  split at h
  · rename_i hlive
    cases h
    exact ⟨hrow, hlive⟩
  · cases h

/-- A take-over counts the epoch up, and follows the lease or keeps the identity. -/
theorem takeOver_ok {row : OwnerRow} {request : OwnerRequest} {epoch : Int}
    (h : takeOver row request at_ = .ok epoch) :
    epoch = row.term.epoch + 1 ∧
      (row.leaseUntil ≤ at_ ∨ row.term.identity = request.identity) := by
  unfold takeOver at h
  split at h
  · cases h
  rename_i hheld
  split at h
  · cases h
  refine ⟨(ok.inj h).symm, ?_⟩
  by_cases hidentity : row.term.identity = request.identity
  · exact .inr hidentity
  · exact .inl (not_lt.1 fun hlive => hheld ⟨hlive, hidentity⟩)

/-- A call that succeeded changes the row of its node as `RowStep` says, and no other row. -/
structure CallStep (table table' : OwnerTable) (at_ checkedAt : DbTime) (call : OwnershipCall)
    (reply : OwnershipReply) : Prop where
  own : RowStep at_ checkedAt call reply (table.get? call.nodeId) (table'.get? call.nodeId)
  others : ∀ node, node ≠ call.nodeId → table'.get? node = table.get? node

/-- A call that writes the row of its node. -/
theorem CallStep.of_set {call : OwnershipCall} {r row : OwnerRow}
    (hrow : table.get? r.term.nodeId = some row) (hnode : call.nodeId = r.term.nodeId)
    (h : RowStep at_ checkedAt call reply (some row) (some r)) :
    CallStep table (table.set r) at_ checkedAt call reply := by
  have hget := get?_set_of_mem hrow
  refine ⟨?_, fun node hne => (hget node).trans (if_neg (hnode ▸ hne))⟩
  rw [hnode, hrow, hget, if_pos rfl]
  exact h

/-- `Acquire` inserts the row of a node or takes it over. -/
theorem acquire_ok {request : OwnerRequest} {ttl : Int} {granted : OwnerLease}
    (h : acquire table request ttl at_ = .ok (granted, table')) :
    CallStep table table' at_ checkedAt (.acquire request ttl) (.lease granted) := by
  unfold acquire at h
  split at h
  · cases h
  rename_i deadline _
  split at h
  · rename_i hnone
    split at h
    · cases h
    cases h
    have hget := get?_insert table ⟨request.term 1, deadline⟩ hnone
    refine ⟨?_, fun node hnode => (hget node).trans (if_neg hnode)⟩
    rw [OwnershipCall.nodeId, (hget request.nodeId).trans (if_pos rfl), hnone]
    exact .first
  rename_i row hrow
  split at h
  · cases h
  rename_i epoch hepoch
  obtain ⟨rfl, hfree⟩ := takeOver_ok hepoch
  split at h
  · cases h
  cases h
  exact .of_set hrow rfl (.next hfree)

/-- `Renew` moves the deadline of a live term. -/
theorem renew_ok {term : OwnerTerm} {ttl : Int} {deadline : DbTime}
    (h : renew table term ttl at_ = .ok (deadline, table')) :
    CallStep table table' at_ checkedAt (.renew term ttl) (.renewed deadline) := by
  unfold renew at h
  split at h
  · cases h
  rename_i row hlock
  obtain ⟨hrow, rfl, hlive⟩ := lockLiveTerm_ok hlock
  split at h
  · cases h
  rename_i until_ _
  obtain ⟨rfl, rfl⟩ := Prod.mk.inj (ok.inj h)
  exact .of_set hrow rfl (.renew hlive)

/-- `Release` ends the lease of a live term. -/
theorem release_ok {term : OwnerTerm} (h : release table term at_ = .ok table') :
    CallStep table table' at_ checkedAt (.release term) .done := by
  unfold release at h
  split at h
  · cases h
  rename_i row hlock
  obtain ⟨hrow, rfl, hlive⟩ := lockLiveTerm_ok hlock
  cases h
  exact .of_set hrow rfl (.release hlive)

/-- `Assert` finds a live term and writes nothing. -/
theorem assert_ok (h : assert table term at_ checkedAt = .ok u) :
    CallStep table table at_ checkedAt (.assert term) .done := by
  unfold assert at h
  split at h
  · cases h
  rename_i row hlock
  obtain ⟨hrow, rfl, hlive⟩ := lockLiveTerm_ok hlock
  split at h
  · cases h
  · rename_i hchecked
    refine ⟨?_, fun node _ => rfl⟩
    rw [OwnershipCall.nodeId, hrow]
    exact .assert hlive (not_le.1 hchecked)

/-- Every call that succeeds is a step on its row. -/
theorem call_ok {call : OwnershipCall} {reply : OwnershipReply}
    (h : table.call at_ checkedAt call = .ok (reply, table')) :
    CallStep table table' at_ checkedAt call reply := by
  cases call with
  | acquire request ttl =>
    obtain ⟨⟨granted, after⟩, hacquire, heq⟩ := map_eq_ok_iff.1 h
    cases heq
    exact acquire_ok hacquire
  | renew term ttl =>
    obtain ⟨⟨deadline, after⟩, hrenew, heq⟩ := map_eq_ok_iff.1 h
    cases heq
    exact renew_ok hrenew
  | release term =>
    obtain ⟨after, hrelease, heq⟩ := map_eq_ok_iff.1 h
    cases heq
    exact release_ok hrelease
  | assert term =>
    obtain ⟨u, hassert, heq⟩ := map_eq_ok_iff.1 h
    cases heq
    exact assert_ok hassert

end OwnerTable

/-! ## The row of a node -/

namespace OwnershipEvent

variable {ev : OwnershipEvent}

/-- An acquired term is of the node of its call. -/
theorem acquires_node (h : ev.acquires = some term) : term.nodeId = ev.call.nodeId := by
  obtain ⟨at_, checkedAt, call, reply⟩ := ev
  unfold acquires at h
  split at h
  · rename_i hcall _
    cases h
    exact (congrArg OwnershipCall.nodeId hcall).symm
  · cases h

/-- A released term is of the node of its call. -/
theorem releases_node (h : ev.releases term = true) : term.nodeId = ev.call.nodeId := by
  obtain ⟨at_, checkedAt, call, reply⟩ := ev
  unfold releases at h
  split at h
  · rename_i hcall _
    rw [← eq_of_beq h]
    exact (congrArg OwnershipCall.nodeId hcall).symm
  · cases h

/-- A term with a new deadline is of the node of its call. -/
theorem extends_node (h : ev.extends_ term = some deadline) : term.nodeId = ev.call.nodeId := by
  obtain ⟨at_, checkedAt, call, reply⟩ := ev
  unfold extends_ at h
  split at h
  iterate 2
    rename_i hcall _
    obtain ⟨rfl, -⟩ := ite_none_right_eq_some.1 h
    exact (congrArg OwnershipCall.nodeId hcall).symm
  · cases h

end OwnershipEvent

/-- The row of a node has its latest term and last deadline, or one that has passed if the term was
released. -/
structure NodeInv (t : List OwnershipEvent) (clock : DbTime) (node : Uuid)
    (row : Option OwnerRow) : Prop where
  latest : (acquired t node).getLast? = row.map OwnerRow.term
  ordered : (acquired t node).Pairwise fun a b => a.epoch < b.epoch
  released : ∀ term, term.nodeId = node → Released t term → term ∈ acquired t node
  expired : ∀ r, row = some r → Released t r.term → r.leaseUntil ≤ clock
  current : ∀ r, row = some r → ¬ Released t r.term → lease t r.term = some r.leaseUntil

/-- No acquired term is newer than the one in the row. -/
theorem NodeInv.epoch_le (hI : NodeInv t clock node (some r)) (ha : a ∈ acquired t node) :
    a.epoch ≤ r.term.epoch := by
  obtain ⟨init, hinit⟩ : ∃ init, acquired t node = init ++ [r.term] := by
    rw [← getLast?_eq_some_iff]
    exact hI.latest
  have hordered := hI.ordered
  rw [hinit] at ha hordered
  rcases mem_append.1 ha with ha | ha
  · exact le_of_lt ((pairwise_append.1 hordered).2.2 a ha _ (mem_singleton_self _))
  · rw [mem_singleton.1 ha]

/-- A node without a row was never acquired. -/
theorem NodeInv.acquired_nil (hI : NodeInv t clock node none) : acquired t node = [] :=
  getLast?_eq_none_iff.1 hI.latest

/-- An event that neither acquires nor releases a term of the node, nor extends a lease of it. -/
theorem NodeInv.frame (hI : NodeInv t clock node row)
    (hacquires : ∀ term, term.nodeId = node → ev.acquires ≠ some term)
    (hreleases : ∀ term, term.nodeId = node → ev.releases term = false)
    (hextends : ∀ term, term.nodeId = node → ev.extends_ term = none)
    (hrow : ∀ r, row = some r → r.term.nodeId = node) (hclock : clock ≤ checkedAt) :
    NodeInv (t ++ [ev]) checkedAt node row := by
  have hacquired : acquired (t ++ [ev]) node = acquired t node := by
    rw [acquired_snoc]
    cases h : ev.acquires with
    | none => simp
    | some term => simp [show term.nodeId ≠ node from fun hterm => hacquires term hterm h]
  have hreleased : ∀ term, term.nodeId = node → (Released (t ++ [ev]) term ↔ Released t term) := by
    intro term hterm
    rw [released_snoc, hreleases term hterm]
    simp
  refine ⟨hacquired ▸ hI.latest, hacquired ▸ hI.ordered, fun term hterm h => ?_, fun r hr h => ?_,
    fun r hr h => ?_⟩
  · rw [hacquired]
    exact hI.released term hterm ((hreleased term hterm).1 h)
  · exact (hI.expired r hr ((hreleased _ (hrow r hr)).1 h)).trans hclock
  · rw [lease_snoc, hextends _ (hrow r hr)]
    exact hI.current r hr (mt (hreleased _ (hrow r hr)).2 h)

/-- An acquired term is new: its epoch exceeds those before. -/
theorem NodeInv.acquire {ttl : Int} {request : OwnerRequest} {granted : OwnerLease}
    (hI : NodeInv t clock request.nodeId row)
    (hnew : ∀ a ∈ acquired t request.nodeId, a.epoch < granted.epoch) :
    NodeInv (t ++ [⟨at_, checkedAt, .acquire request ttl, .ok (.lease granted)⟩]) checkedAt
      request.nodeId (some ⟨request.term granted.epoch, granted.deadline⟩) := by
  have hacquired : acquired (t ++ [⟨at_, checkedAt, .acquire request ttl, .ok (.lease granted)⟩])
      request.nodeId = acquired t request.nodeId ++ [request.term granted.epoch] := by
    rw [acquired_snoc]
    simp [OwnershipEvent.acquires, OwnerRequest.term]
  have hfresh : ¬ Released (t ++ [⟨at_, checkedAt, .acquire request ttl, .ok (.lease granted)⟩])
      (request.term granted.epoch) := by
    rw [released_snoc]
    rintro (h | h)
    · exact absurd (hnew _ (hI.released _ rfl h)) (lt_irrefl _)
    · cases h
  refine ⟨by rw [hacquired, getLast?_concat]; rfl, ?_, fun term hterm h => ?_, fun r hr h => ?_,
    fun r hr h => ?_⟩
  · rw [hacquired]
    refine pairwise_append.2 ⟨hI.ordered, pairwise_singleton _ _, fun a ha b hb => ?_⟩
    rw [mem_singleton.1 hb]
    exact hnew a ha
  · rw [hacquired]
    rcases released_snoc.1 h with h | h
    · exact mem_append_left _ (hI.released term hterm h)
    · cases h
  · cases hr
    exact absurd h hfresh
  · cases hr
    rw [lease_snoc]
    simp [OwnershipEvent.extends_]

/-- An event that acquires nothing keeps the acquired terms. -/
theorem acquired_snoc_of_none (h : ev.acquires = none) (node : Uuid) :
    acquired (t ++ [ev]) node = acquired t node := by
  rw [acquired_snoc, h]
  simp

/-- A live row is of a term that was not released. -/
theorem NodeInv.not_released (hI : NodeInv t clock node (some r)) (hclock : clock ≤ at_)
    (hlive : at_ < r.leaseUntil) : ¬ Released t r.term :=
  fun h => absurd (lt_of_lt_of_le hlive ((hI.expired r rfl h).trans hclock)) (lt_irrefl _)

/-- A call that succeeded keeps the invariant of its own node. -/
theorem NodeInv.own_step (hI : NodeInv t clock call.nodeId row)
    (hrow : ∀ r, row = some r → r.term.nodeId = call.nodeId) (hclock : clock ≤ at_)
    (hchecked : at_ ≤ checkedAt) (h : RowStep at_ checkedAt call reply row row') :
    NodeInv (t ++ [⟨at_, checkedAt, call, .ok reply⟩]) checkedAt call.nodeId row' := by
  have hle : clock ≤ checkedAt := hclock.trans hchecked
  cases h with
  | first =>
    refine hI.acquire fun a ha => ?_
    exact absurd (hI.acquired_nil ▸ ha) not_mem_nil
  | @next request ttl deadline r hfree =>
    refine hI.acquire fun a ha => ?_
    exact lt_add_one_of_le (hI.epoch_le ha)
  | @renew r ttl deadline hlive =>
    have hnot : ¬ Released t r.term := hI.not_released hclock hlive
    have hsame : acquired (t ++ [⟨at_, checkedAt, .renew r.term ttl, .ok (.renewed deadline)⟩])
        r.term.nodeId = acquired t r.term.nodeId := acquired_snoc_of_none rfl _
    have hkept : ∀ term, Released (t ++ [⟨at_, checkedAt, .renew r.term ttl,
        .ok (.renewed deadline)⟩]) term ↔ Released t term := fun term => by
      simp [released_snoc, OwnershipEvent.releases]
    refine ⟨hsame ▸ hI.latest, hsame ▸ hI.ordered, fun term hterm h => ?_, ?_, ?_⟩
    · rw [show (OwnershipCall.renew r.term ttl).nodeId = r.term.nodeId from rfl, hsame]
      exact hI.released term hterm ((hkept term).1 h)
    · intro r' hr' h
      cases hr'
      exact absurd ((hkept _).1 h) hnot
    · intro r' hr' _
      cases hr'
      simp [lease_snoc, OwnershipEvent.extends_]
  | @release r hlive =>
    have hsame : acquired (t ++ [⟨at_, checkedAt, .release r.term, .ok .done⟩]) r.term.nodeId =
        acquired t r.term.nodeId := acquired_snoc_of_none rfl _
    refine ⟨hsame ▸ hI.latest, hsame ▸ hI.ordered, fun term hterm h => ?_, ?_, ?_⟩
    · rw [show (OwnershipCall.release r.term).nodeId = r.term.nodeId from rfl, hsame]
      rcases released_snoc.1 h with h | h
      · exact hI.released term hterm h
      · obtain rfl : r.term = term := eq_of_beq h
        exact mem_of_getLast? hI.latest
    · intro r' hr' _
      cases hr'
      exact hchecked
    · intro r' hr' h
      cases hr'
      exact absurd (released_snoc.2 (.inr (beq_self_eq_true _))) h
  | @assert r hlive hafter =>
    exact hI.frame (fun _ _ h => by cases h) (fun _ _ => rfl) (fun _ _ => rfl) hrow hle

/-- A call on another node keeps the invariant. -/
theorem NodeInv.other_step (hI : NodeInv t clock node row) (hnode : node ≠ ev.call.nodeId)
    (hrow : ∀ r, row = some r → r.term.nodeId = node) (hclock : clock ≤ checkedAt) :
    NodeInv (t ++ [ev]) checkedAt node row := by
  refine hI.frame (fun term hterm h => ?_) (fun term hterm => ?_) (fun term hterm => ?_) hrow hclock
  · exact hnode (hterm.symm.trans (OwnershipEvent.acquires_node h))
  · exact Bool.eq_false_iff.2 fun h => hnode (hterm.symm.trans (OwnershipEvent.releases_node h))
  · exact eq_none_iff_forall_ne_some.2 fun _ h =>
      hnode (hterm.symm.trans (OwnershipEvent.extends_node h))

/-- The invariant of every node. -/
def OwnershipInv (t : List OwnershipEvent) (w : OwnershipWorld) : Prop :=
  ∀ node, NodeInv t w.clock node (w.table.get? node)

/-- An empty table has no history. -/
theorem OwnershipInv.init (h : ownershipSystem.init w) : OwnershipInv [] w := by
  intro node
  have hnone : w.table.get? node = none := by
    rw [show w.table = ∅ from h]
    rfl
  rw [hnone]
  refine ⟨rfl, List.Pairwise.nil, fun _ _ h => ?_, fun _ h => ?_, fun _ h => ?_⟩
  · obtain ⟨_, hmem, -⟩ := h
    cases hmem
  · cases h
  · cases h

/-- A call keeps the invariant of its own node, and all others by their frame. -/
theorem OwnershipInv.step (hI : OwnershipInv t w) (h : ownershipSystem.step w ev w') :
    OwnershipInv (t ++ [ev]) w' := by
  obtain ⟨at_, checkedAt, call, reply⟩ := ev
  obtain ⟨hat, hchecked, hclock, hcall⟩ := h
  intro node
  have hrow : ∀ r, w.table.get? node = some r → r.term.nodeId = node :=
    fun r hr => (get?_eq_some_iff.1 hr).2
  rw [show w'.clock = checkedAt from hclock]
  rcases hcall with ⟨result, hok, hreply⟩ | ⟨e, -, hreply, htable⟩
  · obtain rfl : reply = .ok result := hreply
    have hstep := OwnerTable.call_ok hok
    by_cases hnode : node = call.nodeId
    · subst hnode
      exact (hI call.nodeId).own_step hrow hat hchecked hstep.own
    · rw [hstep.others node hnode]
      exact (hI node).other_step hnode hrow (hat.trans hchecked)
  · obtain rfl : reply = .error e := hreply
    rw [htable]
    refine (hI node).frame (fun _ _ h => ?_) (fun _ _ => ?_) (fun _ _ => ?_) hrow
      (hat.trans hchecked)
    · cases call <;> cases h
    iterate 2 cases call <;> rfl

/-- The invariant holds of every run. -/
theorem ownership_inv (h : ownershipSystem.Run t w) : OwnershipInv t w :=
  h.invariant OwnershipInv (fun _ => OwnershipInv.init) fun _ _ _ _ _ hI hs => hI.step hs

/-! ## Exclusive ownership -/

/-- The reading that the call compares the lease with last. -/
def OwnershipEvent.decidedAt (ev : OwnershipEvent) : DbTime :=
  match ev.call with
  | .assert _ => ev.checkedAt
  | _ => ev.at_

/-- What a call may do after the replies `t`. -/
structure OwnershipRule (t : List OwnershipEvent) (ev : OwnershipEvent) : Prop where
  /-- An acquired epoch is above every earlier one of the node. -/
  fresh : ∀ term, ev.acquires = some term → ∀ a ∈ acquired t term.nodeId, a.epoch < term.epoch
  /-- Another identity follows only a term that was released or whose lease expired. -/
  takeover : ∀ term prev, ev.acquires = some term →
    (acquired t term.nodeId).getLast? = some prev → prev.identity ≠ term.identity →
    Released t prev ∨ ∃ deadline, lease t prev = some deadline ∧ deadline ≤ ev.decidedAt
  /-- Only the latest term acts, while its lease is live. -/
  holder : ∀ term, ev.exercises = some term →
    (acquired t term.nodeId).getLast? = some term ∧ ¬ Released t term ∧
      ∃ deadline, lease t term = some deadline ∧ ev.decidedAt < deadline

/-- A live row is the latest term of its node, with its current lease. -/
theorem NodeInv.holder (hI : NodeInv t clock node (some r)) (hclock : clock ≤ at_)
    (hlive : at_ < r.leaseUntil) (hdecided : decidedAt < r.leaseUntil) :
    (acquired t node).getLast? = some r.term ∧ ¬ Released t r.term ∧
      ∃ deadline, lease t r.term = some deadline ∧ decidedAt < deadline := by
  have hnot := hI.not_released hclock hlive
  exact ⟨hI.latest, hnot, r.leaseUntil, hI.current r rfl hnot, hdecided⟩

/-- A call for the latest term, neither released nor past its lease, follows the rule. -/
theorem OwnershipRule.of_holder (hacquires : ev.acquires = none)
    (hexercises : ev.exercises = some term)
    (h : (acquired t term.nodeId).getLast? = some term ∧ ¬ Released t term ∧
      ∃ deadline, lease t term = some deadline ∧ ev.decidedAt < deadline) : OwnershipRule t ev := by
  refine ⟨fun _ hterm => ?_, fun _ _ hterm => ?_, fun term' hterm => ?_⟩
  iterate 2 cases hacquires.symm.trans hterm
  · cases hexercises.symm.trans hterm
    exact h

/-- What a call found in its row shows that it follows the rule. -/
theorem NodeInv.rule (hI : NodeInv t clock call.nodeId row) (hclock : clock ≤ at_)
    (h : RowStep at_ checkedAt call reply row row') :
    OwnershipRule t ⟨at_, checkedAt, call, .ok reply⟩ := by
  cases h with
  | first =>
    refine ⟨fun term hterm a ha => ?_, fun term prev hterm hprev => ?_,
      fun _ hterm => by cases hterm⟩
    · cases hterm
      exact absurd (hI.acquired_nil ▸ ha) not_mem_nil
    · cases hterm
      cases hI.latest.symm.trans hprev
  | @next request ttl deadline r hfree =>
    refine ⟨fun term hterm a ha => ?_, fun term prev hterm hprev hother => ?_,
      fun _ hterm => by cases hterm⟩
    · cases hterm
      exact lt_add_one_of_le (hI.epoch_le ha)
    · cases hterm
      cases hI.latest.symm.trans hprev
      by_cases hreleased : Released t r.term
      · exact .inl hreleased
      · exact .inr ⟨r.leaseUntil, hI.current r rfl hreleased, hfree.resolve_right hother⟩
  | renew hlive | release hlive => exact .of_holder rfl rfl (hI.holder hclock hlive hlive)
  | assert hlive hafter => exact .of_holder rfl rfl (hI.holder hclock hlive hafter)

/-- Every step from a state with the invariant follows the rule. -/
theorem OwnershipInv.rule (hI : OwnershipInv t w) (h : ownershipSystem.step w ev w') :
    OwnershipRule t ev := by
  obtain ⟨at_, checkedAt, call, reply⟩ := ev
  obtain ⟨hat, -, -, ⟨result, hok, hreply⟩ | ⟨e, -, hreply, -⟩⟩ := h
  · obtain rfl : reply = .ok result := hreply
    exact (hI call.nodeId).rule hat (OwnerTable.call_ok hok).own
  · obtain rfl : reply = .error e := hreply
    refine ⟨fun _ h => ?_, fun _ _ h => ?_, fun _ h => ?_⟩
    all_goals cases call <;> cases h

/-- The epochs of a node strictly increase; the next call follows the rule; and all calls that could
succeed next for a term of one node are for the same term. -/
theorem ownership_exclusive (h : ownershipSystem.Run t w) :
    (∀ node, (acquired t node).Pairwise fun a b => a.epoch < b.epoch) ∧
    (∀ ev w', ownershipSystem.step w ev w' → OwnershipRule t ev) ∧
    ∀ ev₁ w₁ ev₂ w₂ term₁ term₂, ownershipSystem.step w ev₁ w₁ → ownershipSystem.step w ev₂ w₂ →
      ev₁.exercises = some term₁ → ev₂.exercises = some term₂ → term₁.nodeId = term₂.nodeId →
      term₁ = term₂ := by
  have hI := ownership_inv h
  refine ⟨fun node => (hI node).ordered, fun ev w' hs => hI.rule hs, ?_⟩
  intro ev₁ w₁ ev₂ w₂ term₁ term₂ hs₁ hs₂ h₁ h₂ hnode
  have hlast₁ := ((hI.rule hs₁).holder term₁ h₁).1
  have hlast₂ := ((hI.rule hs₂).holder term₂ h₂).1
  rw [hnode, hlast₂] at hlast₁
  exact (some.inj hlast₁).symm

/-- The world after a call, if its reply is what the table answers. -/
def OwnershipWorld.perform (w : OwnershipWorld) (ev : OwnershipEvent) : Option OwnershipWorld :=
  if w.clock ≤ ev.at_ ∧ ev.at_ ≤ ev.checkedAt then
    match w.table.call ev.at_ ev.checkedAt ev.call, ev.reply with
    | .ok (reply, table), .ok expected =>
      if expected = reply then some ⟨table, ev.checkedAt⟩ else none
    | .error e, .error expected => if expected = e then some ⟨w.table, ev.checkedAt⟩ else none
    | _, _ => none
  else none

/-- Computed steps are steps. -/
theorem OwnershipWorld.perform_step (h : w.perform ev = some w') :
    ownershipSystem.step w ev w' := by
  obtain ⟨hclock, h⟩ := ite_none_right_eq_some.1 h
  split at h
  · rename_i reply table expected hcall hreply
    obtain ⟨rfl, hw⟩ := ite_none_right_eq_some.1 h
    cases hw
    exact ⟨hclock.1, hclock.2, rfl, .inl ⟨expected, hcall, hreply⟩⟩
  · rename_i e expected hcall hreply
    obtain ⟨rfl, hw⟩ := ite_none_right_eq_some.1 h
    cases hw
    exact ⟨hclock.1, hclock.2, rfl, .inr ⟨expected, hcall, hreply, rfl⟩⟩
  · cases h

/-- A request of the Controller instance `i` for one node. -/
def sampleOwner (i : UInt8) : OwnerRequest := ⟨⟨sampleUuid i, 1⟩, sampleUuid 3, sampleUuid (i + 8)⟩

/-- Instance 7 acquires, renews and releases a node, which instance 8 acquires before that lease's
end. -/
def handover : List OwnershipEvent :=
  [⟨0, 0, .acquire (sampleOwner 7) 30000, .ok (.lease ⟨1, 30⟩)⟩,
    ⟨10, 10, .acquire (sampleOwner 8) 30000, .error .notFound⟩,
    ⟨15, 15, .renew ((sampleOwner 7).term 1) 30000, .ok (.renewed 45)⟩,
    ⟨20, 20, .release ((sampleOwner 7).term 1), .ok .done⟩,
    ⟨25, 25, .acquire (sampleOwner 8) 30000, .ok (.lease ⟨2, 55⟩)⟩]

/-- The epochs of the handover, and the rule for whatever follows it. -/
theorem handover_exclusive : ∃ w, ownershipSystem.Run handover w ∧
    acquired handover (sampleUuid 3) = [(sampleOwner 7).term 1, (sampleOwner 8).term 2] ∧
    ∀ ev w', ownershipSystem.step w ev w' → OwnershipRule handover ev := by
  have hperformed : (handover.foldlM OwnershipWorld.perform ⟨∅, 0⟩).isSome = true := by
    decide +kernel
  obtain ⟨w, hw⟩ := isSome_iff_exists.1 hperformed
  have hinit : ownershipSystem.init ⟨∅, 0⟩ := rfl
  have hrun : ownershipSystem.Run handover w :=
    LTS.Run.of_foldlM (fun _ _ _ => OwnershipWorld.perform_step) hinit hw
  exact ⟨w, hrun, by decide, (ownership_exclusive hrun).2.1⟩

end Ocservia
