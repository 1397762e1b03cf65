import Mathlib.Data.List.Sort
import AwikiOpenServer.Messaging.Groups.Protocol

/-!
# Enqueueing notifications for remote members

A hosted event is announced to the Home of every remote active member by one outbox row per member.
Membership and profile events go out as `group.state_changed` with the event as body; a message goes
out as `group.incoming`, whose body is the sender's body laid **over** the control fields of the
Host, and whose target is the member instead of the group.

## Rows

A row is enqueued by `INSERT OR IGNORE`, with a new identifier and a key of group, sequence number,
target and method. `enqueue` is that statement and nothing more; that it never ignores a row is a
theorem about the server and not about the statement, so here it is shown under what it needs: the
sequence number is new to the outbox, and so are the identifiers (`enqueueAll_of_fresh`).

The envelope of a row is computed when it is enqueued, and is what is posted later, unchanged. What
a member's Home makes of an envelope is in `Messaging/Groups/Inbound.lean`, and whether the two fit
together in `Messaging/Groups/Envelope.lean`.

## Capacity

`ensureOutboxCapacity` is asked before an event, in the same transaction: it counts the remote
members of the group as they are then, beside the rows still pending. Messages and management
operations have different limits.
-/

namespace Awiki

open Py

/-- The member lives on another service. -/
def HostedMember.isRemote (settings : Settings) (m : HostedMember) : Bool :=
  m.homeServiceDid ≠ none && m.homeServiceDid ≠ some settings.serviceDid

/-- `_remote_members`. -/
def remoteMembers (settings : Settings) (st : Store) (groupDid : String) : List HostedMember :=
  ((st.activeMembers groupDid).filter (HostedMember.isRemote settings)).insertionSort
    fun a b ↦ a.agentDid ≤ b.agentDid

/-- Rows the outbox still has to deliver. -/
def pendingRows (st : Store) : ℕ :=
  (st.groupDeliveryOutbox.filter fun r ↦ r.status = .pending || r.status = .retry).length

/-- `ensure_outbox_capacity`. -/
def ensureOutboxCapacity (settings : Settings) (st : Store) (groupDid : String)
    (managementOperation : Bool) : Result Unit :=
  let additional := (remoteMembers settings st groupDid).length
  if additional = 0 then .ok ()
  else
    let pending := pendingRows st
    let reserve := max 10 (min 100 (settings.groupOutboxMaxPending / 100))
    let limit := settings.groupOutboxMaxPending + (if managementOperation then reserve else 0)
    require (decide (pending + additional ≤ limit))
      (.invalidParams "group.delivery_backlog_full"
        [("limit", .int settings.groupOutboxMaxPending), ("pending", .int pending)])

/-- The row `_enqueue` inserts, with the `n`-th identifier. -/
def outboxRow (n : ℕ) (groupDid : String) (groupEventSeq : ℕ) (targetDid targetServiceDid : String)
    (method : GroupMethod) (envelope : Obj) (createdAt : String) : OutboxRow where
  deliveryId := newId "gdlv" n
  groupDid := groupDid
  groupEventSeq := groupEventSeq
  targetDid := targetDid
  targetServiceDid := targetServiceDid
  method := method
  envelope := envelope
  status := .pending
  attemptCount := 0
  nextAttemptAt := createdAt
  lastError := none
  createdAt := createdAt
  updatedAt := createdAt

/-- `_enqueue`: `INSERT OR IGNORE`, so a row that repeats the delivery id or the
`(group, seq, target, method)` of another is dropped. -/
def enqueue (st : Store) (groupDid : String) (groupEventSeq : ℕ) (targetDid : String)
    (targetServiceDid : String) (method : GroupMethod) (envelope : Obj) (createdAt : String) :
    Store :=
  let row := outboxRow st.issued groupDid groupEventSeq targetDid targetServiceDid method envelope
    createdAt
  { st with
    groupDeliveryOutbox :=
      if st.groupDeliveryOutbox.any fun r ↦
          decide (r.deliveryId = row.deliveryId ∨ r.key = row.key) then st.groupDeliveryOutbox
      else st.groupDeliveryOutbox ++ [row]
    issued := st.issued + 1 }

/-- One row per member, with an envelope of its own. -/
def enqueueAll (st : Store) (groupDid : String) (groupEventSeq : ℕ) (method : GroupMethod)
    (envelopeFor : String → Obj) (createdAt : String) (members : List HostedMember) : Store :=
  members.foldl
    (fun st m ↦ enqueue st groupDid groupEventSeq m.agentDid (m.homeServiceDid.getD "None") method
      (envelopeFor m.agentDid) createdAt)
    st

/-- Target block of a notification to one member. -/
def agentTarget (targetDid : String) : Json :=
  .obj [("kind", .str "agent"), ("did", .str targetDid)]

/-- The `group.state_changed` notification of an event. -/
def stateChangedEnvelope (profile : WireProfile) (groupDid operationId : String) (event : Obj)
    (targetDid : String) : Obj :=
  [("jsonrpc", .str "2.0"), ("method", .str GroupMethod.stateChanged.text),
    ("params", .obj
      [("meta", .obj
        [("anp_version", .str "1.0"), ("profile", .str profile.text),
          ("security_profile", .str "transport-protected"), ("sender_did", .str groupDid),
          ("target", agentTarget targetDid), ("operation_id", .str operationId),
          ("content_type", .str "application/json")]),
        ("body", .obj event)])]

/-- The departed member a version 2 leave or removal still notifies. -/
def departedMember (settings : Settings) (st : Store) (group : HostedGroup) (event : Obj)
    (members : List HostedMember) : List HostedMember :=
  if group.wireProfile = .v2 ∧
      ((event.get "event_type").isStr "member-removed" ∨
        (event.get "event_type").isStr "member-left") then
    match event.get "subject_did" with
    | .str subject =>
      match st.hostedMember? group.groupDid subject with
      | some m =>
        if m.isRemote settings && members.all fun r ↦ r.agentDid ≠ m.agentDid then [m] else []
      | none => []
    | _ => []
  else []

/-- `enqueue_state_changed`. -/
def enqueueStateChanged (settings : Settings) (st : Store) (groupDid : String)
    (groupEventSeq : ℕ) (event : Obj) (createdAt : String) : Result Store := do
  let receipt ← orRaise (.key "group_receipt") (event.get "group_receipt").obj?
  let operationId ← orRaise (.key "operation_id") (Obj.get receipt "operation_id").str?
  let group ← orRaise (.type "'NoneType' object is not subscriptable") (st.hostedGroup? groupDid)
  let members := remoteMembers settings st groupDid
  let targets := members ++ departedMember settings st group event members
  return enqueueAll st groupDid groupEventSeq .stateChanged
    (stateChangedEnvelope group.wireProfile groupDid operationId event) createdAt targets

/-- The body of a `group.incoming` notification: the sender's body over the control fields. -/
def deliveryBody (groupDid : String) (groupStateVersion groupEventSeq : ℕ) (acceptedAt : String)
    (receipt body : Obj) : Obj :=
  Obj.merge
    [("group_did", .str groupDid), ("group_state_version", .str (toString groupStateVersion)),
      ("group_event_seq", .str (toString groupEventSeq)), ("accepted_at", .str acceptedAt),
      ("group_receipt", .obj receipt)]
    body

/-- The `group.incoming` notification of a message. -/
def incomingEnvelope (originalMeta auth body : Obj) (targetDid : String) : Obj :=
  [("jsonrpc", .str "2.0"), ("method", .str GroupMethod.incoming.text),
    ("params", .obj
      [("meta", .obj (originalMeta.set "target" (agentTarget targetDid))), ("auth", .obj auth),
        ("body", .obj body)])]

/-- `enqueue_incoming_message`. -/
def enqueueIncomingMessage (settings : Settings) (st : Store) (groupDid : String)
    (groupStateVersion groupEventSeq : ℕ) (originalMeta body auth receipt : Obj)
    (acceptedAt : String) : Store :=
  enqueueAll st groupDid groupEventSeq .incoming
    (incomingEnvelope originalMeta auth
      (deliveryBody groupDid groupStateVersion groupEventSeq acceptedAt receipt body))
    acceptedAt (remoteMembers settings st groupDid)

/-! ### What enqueueing does to the store -/

/-- A row with a new key and a new identifier is inserted. -/
theorem enqueue_of_fresh {st : Store} {groupDid targetDid : String} {groupEventSeq : ℕ}
    {method : GroupMethod} (targetServiceDid createdAt : String) (envelope : Obj)
    (hids : ∀ r ∈ st.groupDeliveryOutbox, ∃ n < st.issued, r.deliveryId = newId "gdlv" n)
    (hkey : ∀ r ∈ st.groupDeliveryOutbox,
      r.key ≠ (groupDid, groupEventSeq, targetDid, method)) :
    enqueue st groupDid groupEventSeq targetDid targetServiceDid method envelope createdAt =
      { st with
        groupDeliveryOutbox := st.groupDeliveryOutbox ++ [outboxRow st.issued groupDid groupEventSeq
          targetDid targetServiceDid method envelope createdAt]
        issued := st.issued + 1 } := by
  have hnone : st.groupDeliveryOutbox.any (fun r ↦
      decide (r.deliveryId = newId "gdlv" st.issued ∨
        r.key = (groupDid, groupEventSeq, targetDid, method))) = false := by
    rw [List.any_eq_false]
    intro r hr
    obtain ⟨n, hn, hid⟩ := hids r hr
    have hne : newId "gdlv" n ≠ newId "gdlv" st.issued := fun h ↦ by
      have := newId_injective "gdlv" h
      omega
    simp [hid, hne, hkey r hr]
  unfold enqueue
  have hrow : ∀ (n : ℕ), (outboxRow n groupDid groupEventSeq targetDid targetServiceDid method
      envelope createdAt).key = (groupDid, groupEventSeq, targetDid, method) := fun _ ↦ rfl
  have hid : ∀ (n : ℕ), (outboxRow n groupDid groupEventSeq targetDid targetServiceDid method
      envelope createdAt).deliveryId = newId "gdlv" n := fun _ ↦ rfl
  simp only [hrow, hid, hnone, Bool.false_eq_true, if_false]

/-- The rows `enqueueAll` appends, numbered from the next identifier on. -/
def outboxRows (n : ℕ) (groupDid : String) (groupEventSeq : ℕ) (method : GroupMethod)
    (envelopeFor : String → Obj) (createdAt : String) : List HostedMember → List OutboxRow
  | [] => []
  | m :: rest =>
    outboxRow n groupDid groupEventSeq m.agentDid (m.homeServiceDid.getD "None") method
        (envelopeFor m.agentDid) createdAt ::
      outboxRows (n + 1) groupDid groupEventSeq method envelopeFor createdAt rest

/-- **Every member gets its row**: at a sequence number the outbox has not used, `INSERT OR IGNORE`
never ignores. -/
theorem enqueueAll_of_fresh (groupDid createdAt : String) (groupEventSeq : ℕ)
    (method : GroupMethod) (envelopeFor : String → Obj) :
    ∀ (members : List HostedMember) (st : Store),
      (members.map HostedMember.agentDid).Nodup →
      (∀ r ∈ st.groupDeliveryOutbox, ∃ n < st.issued, r.deliveryId = newId "gdlv" n) →
      (∀ r ∈ st.groupDeliveryOutbox, r.groupDid = groupDid → r.groupEventSeq = groupEventSeq →
        r.targetDid ∉ members.map HostedMember.agentDid) →
      enqueueAll st groupDid groupEventSeq method envelopeFor createdAt members =
        { st with
          groupDeliveryOutbox := st.groupDeliveryOutbox ++
            outboxRows st.issued groupDid groupEventSeq method envelopeFor createdAt members
          issued := st.issued + members.length }
  | [], st, _, _, _ => by simp [enqueueAll, outboxRows]
  | m :: rest, st, hnodup, hids, hfresh => by
    rw [List.map_cons, List.nodup_cons] at hnodup
    have hkey : ∀ r ∈ st.groupDeliveryOutbox,
        r.key ≠ (groupDid, groupEventSeq, m.agentDid, method) := by
      intro r hr heq
      simp only [OutboxRow.key, Prod.mk.injEq] at heq
      exact hfresh r hr heq.1 heq.2.1 (by simp [heq.2.2.1])
    have hstep := enqueue_of_fresh (m.homeServiceDid.getD "None") createdAt
      (envelopeFor m.agentDid) hids hkey
    rw [enqueueAll, List.foldl_cons, hstep]
    have ih := enqueueAll_of_fresh groupDid createdAt groupEventSeq method envelopeFor rest
      { st with
        groupDeliveryOutbox := st.groupDeliveryOutbox ++ [outboxRow st.issued groupDid groupEventSeq
          m.agentDid (m.homeServiceDid.getD "None") method (envelopeFor m.agentDid) createdAt]
        issued := st.issued + 1 } hnodup.2 ?_ ?_
    · rw [enqueueAll] at ih
      rw [ih]
      simp [outboxRows, Nat.add_assoc, Nat.add_comm 1]
    · intro r hr
      rcases List.mem_append.mp hr with hr | hr
      · obtain ⟨n, hn, hid⟩ := hids r hr
        exact ⟨n, by dsimp only; omega, hid⟩
      · obtain rfl := List.mem_singleton.mp hr
        exact ⟨st.issued, by dsimp only; omega, rfl⟩
    · intro r hr hg hseq hmem
      rcases List.mem_append.mp hr with hr | hr
      · exact hfresh r hr hg hseq (by simp [hmem])
      · obtain rfl := List.mem_singleton.mp hr
        exact hnodup.1 hmem

end Awiki
