import AwikiOpenServer.Lib.Runs
import AwikiOpenServer.Messaging.Groups.Outcomes

/-!
# Draining the outbox, and the Host as a whole

`drain_group_outbox_once` takes a lock, selects a batch of due rows **once**, and then attempts them
one after the other; the status of a row is written after its attempt. Between the query and each
write other requests run, so a drain is not one step: `HostWorld` holds the store and the rest of
the batch of the pass that has the lock, and a pass advances one attempt at a time.

The Host as a whole is the transition system `HostStep`: hosted calls, drain passes, and the writes
of the rest of the server, which leave the hosted tables alone (`Store.Elsewhere`). A call may have
read the database before its transaction; the idempotency keys it saw there are a beginning of the
present ones.

## What may happen to a row

The peer accepts a notification, or an exception is raised (`AttemptOutcome`). The row is then
delivered, due again at a later time, or dead: after eight attempts, or at once where the peer does
not support the method. The write names the row by its id and asks that it is pending or to be
retried. Times are texts, as in the source, and compared as such; when a row is due again is decided
outside, so that no result rests on the backoff.

One of the hosted tables is not the Host's alone: a Home keeps the answers of other Hosts under the
operation ids of their commands. A server that does both makes the steps of `GroupServerStep`, in
`Messaging/Groups/Idempotency.lean`.

## Steps

`StoreStep` is what remains of a step when one looks at the store alone: a call, an attempt, a write
of the rest, or nothing. Invariants of the store are proved for it, and those that speak of the
batch as well for `HostStep`. An error rolls a call back, so a refused call is a step that changes
nothing (`afterCall`).
-/

namespace Awiki

open Py

/-! ### The drain -/

/-- The attempts after which a row is dead. -/
def MAX_DELIVERY_ATTEMPTS : ℕ := 8

/-- The row still has to be delivered. -/
def OutboxRow.isDue (r : OutboxRow) : Bool := r.status = .pending || r.status = .retry

/-- The rows of one `(group, target)` stream. -/
def OutboxRow.SameStream (r r' : OutboxRow) : Prop :=
  r.groupDid = r'.groupDid ∧ r.targetDid = r'.targetDid

instance (r r' : OutboxRow) : Decidable (r.SameStream r') := inferInstanceAs (Decidable (_ ∧ _))

/-- The `NOT EXISTS` predicate: nothing earlier in the stream is undelivered. -/
def OutboxRow.isUnblocked (outbox : List OutboxRow) (r : OutboxRow) : Bool :=
  outbox.all fun e ↦
    !decide (e.SameStream r ∧ e.groupEventSeq < r.groupEventSeq ∧ e.status ≠ .delivered)

/-- The batch of `_drain_group_outbox_locked`. -/
def selectBatch (st : Store) (limit : ℤ) (now : String) : List OutboxRow :=
  ((st.groupDeliveryOutbox.filter fun r ↦
      r.isDue && decide (r.nextAttemptAt ≤ now) &&
        r.isUnblocked st.groupDeliveryOutbox).insertionSort
    fun a b ↦ a.nextAttemptAt < b.nextAttemptAt ∨
      a.nextAttemptAt = b.nextAttemptAt ∧ a.createdAt ≤ b.createdAt).take
    (max 1 (min limit 100)).toNat

/-- What one attempt at a row came to: the peer accepted it, or an exception was raised. -/
inductive AttemptOutcome where
  | delivered
  | failed (notSupported : Bool) (lastError : String)

/-- The row after an attempt. `nextAttempt` is `_next_attempt(attempt_count)`. -/
def OutboxRow.afterAttempt (attempted r : OutboxRow) (outcome : AttemptOutcome)
    (now nextAttempt updatedAt : String) : OutboxRow :=
  let attemptCount := attempted.attemptCount + 1
  match outcome with
  | .delivered =>
    { r with
      status := .delivered, attemptCount := attemptCount, lastError := none,
      updatedAt := updatedAt }
  | .failed notSupported lastError =>
    let dead := decide (MAX_DELIVERY_ATTEMPTS ≤ attemptCount) || notSupported
    { r with
      status := if dead then .dead else .retry
      attemptCount := attemptCount
      nextAttemptAt := if dead then now else nextAttempt
      lastError := some lastError
      updatedAt := updatedAt }

/-- The status write after an attempt: `WHERE delivery_id = ? AND status IN ('pending',
'retry')`. -/
def recordAttempt (st : Store) (attempted : OutboxRow) (outcome : AttemptOutcome)
    (now nextAttempt updatedAt : String) : Store :=
  { st with
    groupDeliveryOutbox := Table.updateWhere
      (fun r ↦ decide (r.deliveryId = attempted.deliveryId) && r.isDue)
      (fun r ↦ attempted.afterAttempt r outcome now nextAttempt updatedAt) st.groupDeliveryOutbox }

/-! ### The Host -/

/-- A pass that holds `group_outbox_lock`: the time of its query and the rows not yet attempted. -/
structure DrainPass where
  now : String
  rows : List OutboxRow

/-- The state of the Host. -/
structure HostWorld where
  store : Store
  pass : Option DrainPass

/-- What the Host may do next. -/
inductive HostAction where
  | call (c : HostedCall)
  | beginDrain (limit : ℤ) (now : String)
  | attempt (outcome : AttemptOutcome) (nextAttempt updatedAt : String)
  | endDrain
  | elsewhere (st : Store)

/-- A write of the rest of the server: the hosted tables are as before.

One of these tables is not the Host's alone. `forward_group_command`, which serves the local members
of groups hosted elsewhere, keeps the answers of their Hosts in `group_operations` as well; it is
not a step of this kind, and a server that does both makes the steps of `GroupServerStep`. -/
structure Store.Elsewhere (st st' : Store) : Prop where
  hostedGroups : st'.hostedGroups = st.hostedGroups
  hostedGroupMembers : st'.hostedGroupMembers = st.hostedGroupMembers
  hostedGroupEvents : st'.hostedGroupEvents = st.hostedGroupEvents
  hostedGroupMessages : st'.hostedGroupMessages = st.hostedGroupMessages
  groupOperations : st'.groupOperations = st.groupOperations
  groupDeliveryOutbox : st'.groupDeliveryOutbox = st.groupDeliveryOutbox
  issued : st.issued ≤ st'.issued

/-- What an unlocked read may have seen: idempotency keys only accumulate. -/
def Past (seen st : Store) : Prop := seen.groupOperations <+: st.groupOperations

/-- The store after a call: an error rolls back. -/
def afterCall (settings : Settings) (st : Store) (c : HostedCall) : Store :=
  match hostedCall settings st c with
  | .ok (_, st') => st'
  | .error _ => st

/-- **One step of the Host.** A drain pass starts only when no other holds the lock, and may end
before its batch does: the process may stop. -/
inductive HostStep (settings : Settings) : HostWorld → HostAction → HostWorld → Prop where
  | call {w : HostWorld} (c : HostedCall) (hseen : Past c.seen w.store)
      (hreplayed : Past c.replayed w.store) :
      HostStep settings w (.call c) { w with store := afterCall settings w.store c }
  | beginDrain {w : HostWorld} (limit : ℤ) (now : String) (hfree : w.pass = none) :
      HostStep settings w (.beginDrain limit now)
        { w with pass := some { now := now, rows := selectBatch w.store limit now } }
  | attempt {w : HostWorld} {now : String} {row : OutboxRow} {rest : List OutboxRow}
      (outcome : AttemptOutcome) (nextAttempt updatedAt : String)
      (hpass : w.pass = some { now := now, rows := row :: rest }) :
      HostStep settings w (.attempt outcome nextAttempt updatedAt)
        { store := recordAttempt w.store row outcome now nextAttempt updatedAt
          pass := some { now := now, rows := rest } }
  | endDrain {w : HostWorld} : HostStep settings w .endDrain { w with pass := none }
  | elsewhere {w : HostWorld} (st : Store) (h : w.store.Elsewhere st) :
      HostStep settings w (.elsewhere st) { w with store := st }

/-- A Host that has not accepted anything yet. -/
structure HostWorld.Initial (w : HostWorld) : Prop where
  hostedGroups : w.store.hostedGroups = []
  hostedGroupMembers : w.store.hostedGroupMembers = []
  hostedGroupEvents : w.store.hostedGroupEvents = []
  hostedGroupMessages : w.store.hostedGroupMessages = []
  groupOperations : w.store.groupOperations = []
  groupDeliveryOutbox : w.store.groupDeliveryOutbox = []
  pass : w.pass = none

/-- The Host at installation. -/
def HostWorld.empty : HostWorld where
  store := {}
  pass := none

/-- It has not accepted anything. -/
theorem HostWorld.empty_initial : HostWorld.empty.Initial := ⟨rfl, rfl, rfl, rfl, rfl, rfl, rfl⟩

/-- The Host after a call that has read the present store. -/
def HostWorld.after (settings : Settings) (w : HostWorld) (c : Store → HostedCall) : HostWorld :=
  { w with store := afterCall settings w.store (c w.store) }

/-- The Host after a pass has made its query. -/
def HostWorld.drained (w : HostWorld) (limit : ℤ) (now : String) : HostWorld :=
  { w with pass := some { now := now, rows := selectBatch w.store limit now } }

/-- The Host after the next row of the pass has been attempted; without one, it is as it was. -/
def HostWorld.attempted (w : HostWorld) (outcome : AttemptOutcome)
    (nextAttempt updatedAt : String) : HostWorld :=
  match w.pass with
  | some { now := now, rows := row :: rest } =>
    { store := recordAttempt w.store row outcome now nextAttempt updatedAt
      pass := some { now := now, rows := rest } }
  | _ => w

/-- An attempt is a step. -/
theorem HostWorld.attempted_reached {settings : Settings} {w₀ w : HostWorld}
    (h : Runs.Reaches (HostStep settings) w₀ w) (outcome : AttemptOutcome)
    (nextAttempt updatedAt : String) :
    Runs.Reaches (HostStep settings) w₀ (w.attempted outcome nextAttempt updatedAt) := by
  unfold HostWorld.attempted
  split
  · rename_i hpass
    exact h.tail (.attempt outcome nextAttempt updatedAt hpass)
  · exact h

/-- A Host with one group of Alice and Bob, who was added after its creation. -/
def HostWorld.sample : HostWorld :=
  (HostWorld.empty.after .sample fun _ ↦ sampleCreate []).after .sample sampleAdd

/-- The Host gets there. -/
theorem HostWorld.sample_reached : Runs.Reaches (HostStep .sample) .empty .sample := by
  refine .tail (.tail (.refl _) (.call (sampleCreate []) ?_ ?_))
    (.call (sampleAdd _) List.prefix_rfl List.prefix_rfl) <;> exact List.prefix_rfl

/-! ### What a step does to the store -/

/-- **The four ways the store of the Host changes.** -/
inductive StoreStep (settings : Settings) (st : Store) : HostAction → Store → Prop where
  | unchanged {a : HostAction} : StoreStep settings st a st
  | created {st' : Store} {c : HostedCall} (result : Obj)
      (hcall : hostedCall settings st c = .ok (result, st')) (creation : Creation settings st st')
      (hresult : creation.result = result) (hmethod : c.method = .create)
      (hctx : VerifiedContext settings c.req c.params .create "service" creation.ctx)
      (creator : Option VerifiedHandleBinding) (prepared : List PreparedMember)
      (hprepared : PreparedFrom settings c creation.ctx creator prepared)
      (hmembers : creation.members = createdMembers settings creation.ctx creation.group.groupDid
        c.req.outside.now creator prepared) : StoreStep settings st (.call c) st'
  | advanced {st' : Store} {c : HostedCall} (result : Obj)
      (hcall : hostedCall settings st c = .ok (result, st')) (advance : Advance settings st st')
      (hresult : advance.result = result) (hmethod : advance.ctx.method = c.method) :
      StoreStep settings st (.call c) st'
  | attempted (row : OutboxRow) (outcome : AttemptOutcome) (now nextAttempt updatedAt : String) :
      StoreStep settings st (.attempt outcome nextAttempt updatedAt)
        (recordAttempt st row outcome now nextAttempt updatedAt)
  | elsewhere {st' : Store} (h : st.Elsewhere st') : StoreStep settings st (.elsewhere st') st'

/-- Every step of the Host changes its store in one of these ways. -/
theorem HostStep.storeStep {settings : Settings} {w w' : HostWorld} {a : HostAction}
    (h : HostStep settings w a w') : StoreStep settings w.store a w'.store := by
  cases h with
  | call c hseen hreplayed =>
    dsimp only
    unfold afterCall
    cases hcall : hostedCall settings w.store c with
    | error e => exact .unchanged
    | ok r =>
      obtain ⟨result, st'⟩ := r
      cases hostedCall_outcome hcall with
      | replayed => exact .unchanged
      | created creation hmethod hctx creator prepared hprepared hmembers =>
        exact .created _ hcall creation rfl hmethod hctx creator prepared hprepared hmembers
      | advanced advance hmethod => exact .advanced _ hcall advance rfl hmethod
  | beginDrain => exact .unchanged
  | attempt outcome nextAttempt updatedAt => exact .attempted _ outcome _ nextAttempt updatedAt
  | endDrain => exact .unchanged
  | elsewhere st h => exact .elsewhere h

end Awiki
