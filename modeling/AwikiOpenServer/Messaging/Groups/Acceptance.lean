import AwikiOpenServer.Messaging.Groups.Operations

/-!
# What an accepted hosted operation does

Nine handlers, one answer. An operation that succeeds either **replays** a stored result and leaves
the store alone, or **creates** a group at version 1 and sequence 1, or **advances** one existing
group by one event. The last case is recorded once, in the structure `Advance`, with everything
later invariants need: the head before and after, the event, the stored result, the message if there
is one, the roster, and the outbox rows with their targets.

No later module looks inside a handler again: the head and log invariant, the recipient completeness
and the FIFO property of the outbox are all derived from `Advance` and `Creation`.

## Two accepting tails

The handlers differ in what they check and in how they change the roster; from there on there are
two tails. `acceptStateChange` raises the version and the sequence number, signs a receipt, writes
the event, the head and the stored result, tells the local members and enqueues the notifications
for the others. `acceptMessage` does the same with a message and leaves the version alone.
`acceptStateChange_advance` and `acceptMessage_advance` are the two proofs that what they do is an
advance, and `commitCreate_creation` is the third case.

An advance is about stores before and after, with the roster in between: a departure takes its
member out of the roster before the tail runs, and the notifications go to the roster as it is then,
and to the member that has left (`departedRows`). `RosterStep` says what the nine operations may do
to it.

## What does not matter

Beside the hosted tables a tail writes the sync log and the projections of local members, and draws
identifiers for both. What is proved from an advance does not depend on any of these, so they are
all hidden behind one relation (`Store.Side`), with a lemma for each function that writes them.
-/

namespace Awiki

open Py

/-! ### Side tables

The sync log and the projections are rewritten at several points of an operation. None of the hosted
tables depends on them, so all those writes are summarized by one relation. -/

/-- Telling the members is a run of appends to the sync log: what relates the stores before and
after each of them relates the ends. -/
theorem syncActiveMembers_rel {R : Store → Store → Prop} {eventType now : String} {payload : Obj}
    (hrefl : ∀ s, R s s) (htrans : ∀ {a b c}, R a b → R b c → R a c)
    (hadd : ∀ s owner, R s (addSyncEvent s owner eventType payload now)) {st : Store}
    {groupDid : String} : R st (syncActiveMembers st groupDid eventType payload now) := by
  unfold syncActiveMembers
  suffices h : ∀ (members : List HostedMember) (b : Store), R b (members.foldl (fun s m ↦
      if userExists s m.agentDid then addSyncEvent s m.agentDid eventType payload now
      else s) b) from
    h _ st
  intro members
  induction members with
  | nil => exact hrefl
  | cons m rest ih =>
    intro b
    rw [List.foldl_cons]
    refine htrans ?_ (ih _)
    split
    · exact hadd b m.agentDid
    · exact hrefl b

/-- The two stores differ at most in the sync log, the projections and the identifiers drawn. -/
structure Store.Side (st st' : Store) : Prop where
  users : st'.users = st.users
  didDocuments : st'.didDocuments = st.didDocuments
  hostedGroups : st'.hostedGroups = st.hostedGroups
  hostedGroupMembers : st'.hostedGroupMembers = st.hostedGroupMembers
  hostedGroupEvents : st'.hostedGroupEvents = st.hostedGroupEvents
  hostedGroupMessages : st'.hostedGroupMessages = st.hostedGroupMessages
  groupOperations : st'.groupOperations = st.groupOperations
  groupDeliveryOutbox : st'.groupDeliveryOutbox = st.groupDeliveryOutbox
  issued : st.issued ≤ st'.issued

namespace Store.Side

/-- A store is beside itself. -/
theorem refl (st : Store) : st.Side st := ⟨rfl, rfl, rfl, rfl, rfl, rfl, rfl, rfl, le_refl _⟩

/-- One write after the other. -/
theorem trans {a b c : Store} (hab : a.Side b) (hbc : b.Side c) : a.Side c where
  users := hbc.users.trans hab.users
  didDocuments := hbc.didDocuments.trans hab.didDocuments
  hostedGroups := hbc.hostedGroups.trans hab.hostedGroups
  hostedGroupMembers := hbc.hostedGroupMembers.trans hab.hostedGroupMembers
  hostedGroupEvents := hbc.hostedGroupEvents.trans hab.hostedGroupEvents
  hostedGroupMessages := hbc.hostedGroupMessages.trans hab.hostedGroupMessages
  groupOperations := hbc.groupOperations.trans hab.groupOperations
  groupDeliveryOutbox := hbc.groupDeliveryOutbox.trans hab.groupDeliveryOutbox
  issued := hab.issued.trans hbc.issued

/-- An entry of the sync log. -/
theorem addSyncEvent (st : Store) (owner eventType : String) (payload : Obj) (now : String) :
    st.Side (addSyncEvent st owner eventType payload now) :=
  ⟨rfl, rfl, rfl, rfl, rfl, rfl, rfl, rfl, Nat.le_succ _⟩

/-- The entries of all members. -/
theorem syncActiveMembers (st : Store) (groupDid eventType : String) (payload : Obj)
    (now : String) : st.Side (syncActiveMembers st groupDid eventType payload now) :=
  syncActiveMembers_rel refl trans fun s owner ↦ addSyncEvent s owner eventType payload now

/-- The projections of local members. -/
theorem refreshHostedLocalProjections (settings : Settings) (st : Store)
    (groupDid updatedAt : String) :
    st.Side (refreshHostedLocalProjections settings st groupDid updatedAt) := by
  obtain ⟨views, memberViews, h⟩ :=
    refreshHostedLocalProjections_eq settings st groupDid updatedAt
  rw [h]
  exact ⟨rfl, rfl, rfl, rfl, rfl, rfl, rfl, rfl, le_refl _⟩

/-- What a state change tells them. -/
theorem tellLocalMembers (settings : Settings) (st : Store) (ctx : GroupRequest)
    (groupDid : String) (change : StateChange) (event : Obj) (now : String) :
    st.Side (tellLocalMembers settings st ctx groupDid change event now) := by
  unfold Awiki.tellLocalMembers
  refine trans ?_ (refreshHostedLocalProjections ..)
  have hsync := syncActiveMembers st groupDid change.syncEventType event now
  cases change.departed with
  | none => exact hsync
  | some did =>
    dsimp only
    split
    · exact hsync.trans (addSyncEvent ..)
    · exact hsync

/-- What a message does. -/
theorem projectHostedMessage (settings : Settings) (st : Store) (groupDid : String)
    (viewFor : String → GroupMessageView) :
    st.Side (projectHostedMessageForLocalMembers settings st groupDid viewFor) :=
  ⟨rfl, rfl, rfl, rfl, rfl, rfl, rfl, rfl, le_refl _⟩

end Store.Side

/-! ### The outbox -/

/-- Enqueueing touches the outbox and draws identifiers, nothing else. -/
theorem enqueueAll_eq (groupDid createdAt : String) (groupEventSeq : ℕ) (method : GroupMethod)
    (envelopeFor : String → Obj) (members : List HostedMember) (st : Store) :
    ∃ rows, enqueueAll st groupDid groupEventSeq method envelopeFor createdAt members =
      { st with groupDeliveryOutbox := rows, issued := st.issued + members.length } := by
  induction members generalizing st with
  | nil => exact ⟨_, rfl⟩
  | cons m rest ih =>
    obtain ⟨rows, hrows⟩ := ih (enqueue st groupDid groupEventSeq m.agentDid
      (m.homeServiceDid.getD "None") method (envelopeFor m.agentDid) createdAt)
    refine ⟨rows, ?_⟩
    rw [enqueueAll, List.foldl_cons]
    rw [enqueueAll] at hrows
    rw [hrows]
    simp only [enqueue, List.length_cons, Nat.add_assoc, Nat.add_comm 1]

/-! ### Single writes -/

/-- The event row a request writes. -/
def eventRow (st : Store) (ctx : GroupRequest) (groupDid : String) (stateVersion eventSeq : ℕ)
    (eventType : String) (payload receipt : Obj) (createdAt : String) : HostedEvent where
  groupDid := groupDid
  groupEventSeq := eventSeq
  eventId := newId "gevt" st.issued
  eventType := eventType
  groupStateVersion := stateVersion
  subjectMethod := ctx.method
  actorDid := ctx.senderDid
  payload := payload
  payloadDigest := ctx.payloadDigest
  receipt := receipt
  createdAt := createdAt

/-- An event is written when its number is free. -/
theorem writeEvent_eq_ok {st st' : Store} {ctx : GroupRequest} {groupDid eventType : String}
    {stateVersion eventSeq : ℕ} {payload receipt : Obj} {createdAt : String}
    (h : writeEvent st ctx groupDid stateVersion eventSeq eventType payload receipt createdAt =
      .ok st') :
    st' = { st with
      hostedGroupEvents := st.hostedGroupEvents ++
        [eventRow st ctx groupDid stateVersion eventSeq eventType payload receipt createdAt]
      issued := st.issued + 1 } := by
  unfold writeEvent at h
  obtain ⟨_, _, h⟩ := bind_eq_ok.mp h
  obtain ⟨events, hevents, h⟩ := bind_eq_ok.mp h
  rw [orRaise_eq_ok, Table.insert?_eq_some] at hevents
  rw [pure_eq_ok] at h
  rw [← h, hevents.2]
  rfl

/-- A version 2 acceptance only adds the acceptance members. -/
theorem standardV2Acceptance_get {ctx : GroupRequest} {result result' : Obj}
    (h : standardV2Acceptance ctx result = .ok result') {k : String}
    (hk : k ∉ ["accepted", "final_acceptance", "operation_id", "accepted_at"]) :
    result'.get k = result.get k := by
  unfold standardV2Acceptance at h
  split at h
  · rw [Except.ok.inj h]
  · obtain ⟨receipt, _, h⟩ := bind_eq_ok.mp h
    obtain ⟨acceptedAt, _, h⟩ := bind_eq_ok.mp h
    rw [pure_eq_ok] at h
    simp only [List.mem_cons, List.not_mem_nil, or_false, not_or] at hk
    obtain ⟨h₁, h₂, h₃, h₄⟩ := hk
    rw [← h, Obj.get_set_of_ne _ _ h₄, Obj.get_set_of_ne _ _ h₃, Obj.get_set_of_ne _ _ h₂,
      Obj.get_set_of_ne _ _ h₁]

/-- Accepting an accepted result again changes nothing. -/
theorem standardV2Acceptance_idem {ctx : GroupRequest} {result result' : Obj}
    (h : standardV2Acceptance ctx result = .ok result') :
    standardV2Acceptance ctx result' = .ok result' := by
  have hreceipt := standardV2Acceptance_get h (k := "group_receipt") (by decide)
  unfold standardV2Acceptance at h ⊢
  cases hprofile : ctx.profile with
  | v1 => rfl
  | v2 =>
    simp only [hprofile] at h ⊢
    obtain ⟨receipt, hobj, h⟩ := bind_eq_ok.mp h
    obtain ⟨acceptedAt, hat, h⟩ := bind_eq_ok.mp h
    rw [hreceipt]
    refine bind_eq_ok.mpr ⟨receipt, hobj, bind_eq_ok.mpr ⟨acceptedAt, hat, pure_eq_ok.mpr ?_⟩⟩
    rw [pure_eq_ok] at h
    subst h
    -- The four members are at the front, in the order in which they are set again.
    simp [Obj.set, Obj.erase, Obj.without, List.filter_filter]
    exact List.filter_congr fun p _ ↦ by rw [Bool.eq_iff_iff]; simp; tauto

/-- What the row of an operation remembers of its request, and of the result it stores. -/
structure GroupOperation.StoredBy (op : GroupOperation) (ctx : GroupRequest) : Prop where
  payloadDigest : op.payloadDigest = ctx.payloadDigest
  wireProfile : op.wireProfile = ctx.profile
  accepted : standardV2Acceptance ctx op.result = .ok op.result

/-- The row of an operation is written when its key is. -/
theorem storeOperation_eq_ok {st st' : Store} {ctx : GroupRequest} {scope : String}
    {result result' : Obj} {createdAt : String}
    (h : storeOperation st ctx scope result createdAt = .ok (result', st')) :
    standardV2Acceptance ctx result = .ok result' ∧
      ∃ op : GroupOperation, op.key = (ctx.senderDid, scope, ctx.method, ctx.operationId) ∧
        op.result = result' ∧ op.StoredBy ctx ∧ (∀ o ∈ st.groupOperations, o.key ≠ op.key) ∧
        st' = { st with groupOperations := st.groupOperations ++ [op] } := by
  unfold storeOperation at h
  obtain ⟨accepted, haccepted, h⟩ := bind_eq_ok.mp h
  obtain ⟨operations, hoperations, h⟩ := bind_eq_ok.mp h
  rw [orRaise_eq_ok, Table.insert?_eq_some] at hoperations
  rw [pure_eq_ok, Prod.mk.injEq] at h
  obtain ⟨rfl, rfl⟩ := h
  refine ⟨haccepted, _, rfl, rfl, ⟨rfl, rfl, standardV2Acceptance_idem haccepted⟩,
    hoperations.1, ?_⟩
  rw [hoperations.2]

/-! ### Receipts -/

/-- The document carries this version pair, as text. -/
def Carries (o : Obj) (stateVersion eventSeq : ℕ) : Prop :=
  o.get "group_state_version" = .str (toString stateVersion) ∧
    o.get "group_event_seq" = .str (toString eventSeq)

/-- The result holds the receipt and repeats its version pair. -/
def Reports (result receipt : Obj) (stateVersion eventSeq : ℕ) : Prop :=
  result.get "group_receipt" = .obj receipt ∧ Carries result stateVersion eventSeq

/-- A receipt that was signed is about its event. -/
theorem signedReceipt_eq_ok {st : Store} {req : Request} {ctx : GroupRequest} {groupDid : String}
    {stateVersion eventSeq : ℕ} {acceptedAt : String} {messageId : Option String} {receipt : Obj}
    (h : signedReceipt st req ctx groupDid stateVersion eventSeq acceptedAt messageId =
      .ok receipt) :
    ∃ proof : Json, proof.nanFree = true ∧ receipt =
      (receiptValue ctx groupDid stateVersion eventSeq acceptedAt messageId).set "proof" proof := by
  unfold signedReceipt at h
  obtain ⟨row, _, h⟩ := bind_eq_ok.mp h
  obtain ⟨proof, hproof, h⟩ := bind_eq_ok.mp h
  rw [pure_eq_ok] at h
  exact ⟨proof, req.outside.receiptProof_nanFree hproof, h.symm⟩

/-- A receipt carries the version pair it was signed for. -/
theorem receipt_carries {st : Store} {req : Request} {ctx : GroupRequest} {groupDid : String}
    {stateVersion eventSeq : ℕ} {acceptedAt : String} {messageId : Option String} {receipt : Obj}
    (h : signedReceipt st req ctx groupDid stateVersion eventSeq acceptedAt messageId =
      .ok receipt) : Carries receipt stateVersion eventSeq := by
  obtain ⟨proof, _, rfl⟩ := signedReceipt_eq_ok h
  constructor
  · rw [Obj.get_set_of_ne _ _ (by decide)]
    simp [receiptValue, Obj.get_cons]
  · rw [Obj.get_set_of_ne _ _ (by decide)]
    simp [receiptValue, Obj.get_cons]

/-- The acceptance of version 2 keeps what a result reports. -/
theorem Reports.standardV2Acceptance {ctx : GroupRequest} {result result' receipt : Obj}
    {stateVersion eventSeq : ℕ} (hr : Reports result receipt stateVersion eventSeq)
    (h : standardV2Acceptance ctx result = .ok result') :
    Reports result' receipt stateVersion eventSeq := by
  obtain ⟨hreceipt, hversion, hseq⟩ := hr
  refine ⟨?_, ?_, ?_⟩
  · rw [standardV2Acceptance_get h (by decide), hreceipt]
  · rw [standardV2Acceptance_get h (by decide), hversion]
  · rw [standardV2Acceptance_get h (by decide), hseq]

/-! ### Rosters -/

/-- **How an operation changes the roster of its group.** The option is the member whose membership
the operation ended. -/
inductive RosterStep (groupDid : String) (members : List HostedMember) :
    GroupMethod → Option String → List HostedMember → Prop where
  /-- An update or a message leaves the roster alone. -/
  | same {method : GroupMethod}
      (hmethod : method ∈ [.updateProfile, .updatePolicy, .send]) :
      RosterStep groupDid members method none members
  /-- A join or an add writes one active row, over an ended membership if there was one. -/
  | admitted {method : GroupMethod} (row : HostedMember) (hmethod : method ∈ [.join, .add])
      (hgroup : row.groupDid = groupDid) (hactive : row.status = .active) :
      RosterStep groupDid members method none
        (Table.upsert HostedMember.key row (fun _ ↦ row) members)
  /-- A leave or a removal ends one active membership. -/
  | ended {method : GroupMethod} (did now : String) (status : MemberStatus)
      (hmethod : method ∈ [.leave, .remove]) (hstatus : status ≠ .active)
      (hactive : ∃ m ∈ members, m.key = (groupDid, did) ∧ m.status = .active) :
      RosterStep groupDid members method (some did)
        (Table.updateWhere (fun m ↦ decide (m.key = (groupDid, did)))
          (fun m ↦ { m with status := status, endedAt := some now }) members)
  /-- A rebind moves an active membership to a DID without a row. -/
  | rebound (previousDid newDid home : String) (binding : VerifiedHandleBinding)
      (hfresh : ∀ m ∈ members, m.key ≠ (groupDid, newDid)) :
      RosterStep groupDid members .rebindMember none
        (rebindMember groupDid previousDid newDid home binding members)

/-- The rows of a departed member that still has to be told. -/
def departedRows (settings : Settings) (st : Store) (groupDid : String) :
    Option String → List HostedMember
  | none => []
  | some did =>
    match st.hostedMember? groupDid did with
    | some m =>
      if m.isRemote settings &&
          (remoteMembers settings st groupDid).all fun r ↦ r.agentDid ≠ m.agentDid then [m]
      else []
    | none => []

/-! ### The two ways the log grows -/

/-- State version after an event of this method: a message leaves it alone. -/
def nextVersion (method : GroupMethod) (version : ℕ) : ℕ :=
  if method = .send then version else version + 1

/-- **An existing group advanced by one event.** -/
structure Advance (settings : Settings) (st st' : Store) where
  ctx : GroupRequest
  /-- The group before the event. -/
  group : HostedGroup
  receipt : Obj
  result : Obj
  event : HostedEvent
  operation : GroupOperation
  message : Option HostedMessage
  /-- The member the operation removed from the roster. -/
  departed : Option String
  notification : GroupMethod
  envelopeFor : String → Obj
  /-- The store when the notifications are enqueued. -/
  enqueuing : Store
  update : HostedGroup → HostedGroup
  now : String
  found : st.hostedGroup? group.groupDid = some group
  profile : ctx.profile = group.wireProfile
  active : group.protocolState = .active
  groups : st'.hostedGroups = (writeHead st group.groupDid update
    (nextVersion ctx.method group.groupStateVersion) (group.groupEventSeq + 1) now).hostedGroups
  update_wireProfile : ∀ g, (update g).wireProfile = g.wireProfile
  update_protocolState : ∀ g, (update g).protocolState = g.protocolState
  events : st'.hostedGroupEvents = st.hostedGroupEvents ++ [event]
  event_key : event.key = (group.groupDid, group.groupEventSeq + 1)
  event_version : event.groupStateVersion = nextVersion ctx.method group.groupStateVersion
  event_method : event.subjectMethod = ctx.method
  event_receipt : event.receipt = receipt
  receipt_carries : Carries receipt (nextVersion ctx.method group.groupStateVersion)
    (group.groupEventSeq + 1)
  result_reports : Reports result receipt (nextVersion ctx.method group.groupStateVersion)
    (group.groupEventSeq + 1)
  operations : st'.groupOperations = st.groupOperations ++ [operation]
  operation_key : operation.key =
    (ctx.senderDid, group.groupDid, ctx.method, ctx.operationId)
  operation_result : operation.result = result
  operation_stored : operation.StoredBy ctx
  operation_fresh : ∀ o ∈ st.groupOperations, o.key ≠ operation.key
  messages : st'.hostedGroupMessages = st.hostedGroupMessages ++ message.toList
  message_key : ∀ m ∈ message, (m.groupDid, m.groupEventSeq) = event.key
  message_receipt : ∀ m ∈ message, m.receipt = receipt
  message_send : message.isSome = true → ctx.method = .send
  roster : RosterStep group.groupDid st.hostedGroupMembers ctx.method departed
    st'.hostedGroupMembers
  enqueuing_outbox : enqueuing.groupDeliveryOutbox = st.groupDeliveryOutbox
  enqueuing_issued : st.issued ≤ enqueuing.issued
  outbox : st'.groupDeliveryOutbox = (enqueueAll enqueuing group.groupDid (group.groupEventSeq + 1)
    notification envelopeFor now (remoteMembers settings st' group.groupDid ++
      departedRows settings st' group.groupDid
        (if ctx.profile = .v2 then departed else none))).groupDeliveryOutbox
  issued : (enqueueAll enqueuing group.groupDid (group.groupEventSeq + 1) notification envelopeFor
    now (remoteMembers settings st' group.groupDid ++ departedRows settings st' group.groupDid
      (if ctx.profile = .v2 then departed else none))).issued ≤ st'.issued
  didDocuments : st'.didDocuments = st.didDocuments
  users : st'.users = st.users

/-- **A group was created.** -/
structure Creation (settings : Settings) (st st' : Store) where
  ctx : GroupRequest
  group : HostedGroup
  receipt : Obj
  result : Obj
  event : HostedEvent
  operation : GroupOperation
  members : List HostedMember
  version : group.groupStateVersion = 1
  eventSeq : group.groupEventSeq = 1
  active : group.protocolState = .active
  fresh : ∀ g ∈ st.hostedGroups, g.groupDid ≠ group.groupDid
  domain : didBelongsToDomain group.groupDid settings.didDomain = true
  groups : st'.hostedGroups = st.hostedGroups ++ [group]
  events : st'.hostedGroupEvents = st.hostedGroupEvents ++ [event]
  event_key : event.key = (group.groupDid, 1)
  event_version : event.groupStateVersion = 1
  event_method : event.subjectMethod = .create
  event_receipt : event.receipt = receipt
  receipt_carries : Carries receipt 1 1
  result_reports : Reports result receipt 1 1
  operations : st'.groupOperations = st.groupOperations ++ [operation]
  operation_key : operation.key = (ctx.senderDid, settings.serviceDid, .create, ctx.operationId)
  operation_result : operation.result = result
  operation_stored : operation.StoredBy ctx
  operation_fresh : ∀ o ∈ st.groupOperations, o.key ≠ operation.key
  messages : st'.hostedGroupMessages = st.hostedGroupMessages
  roster : st'.hostedGroupMembers = st.hostedGroupMembers ++ members
  members_group : ∀ m ∈ members, m.groupDid = group.groupDid
  members_keyed : Table.Keyed HostedMember.key st.hostedGroupMembers →
    Table.Keyed HostedMember.key st'.hostedGroupMembers
  outbox : st'.groupDeliveryOutbox = st.groupDeliveryOutbox
  issued : st.issued ≤ st'.issued
  didDocuments : ∃ row : DidDocument, row.did = group.groupDid ∧
    st'.didDocuments = st.didDocuments ++ [row]
  users : st'.users = st.users

/-! ### The accepting tails -/

/-- The event type and the subject of a state change agree with the member it ends. -/
def StateChange.Coherent (change : StateChange) : Prop :=
  match change.departed with
  | some did => change.eventType ∈ ["member-removed", "member-left"] ∧
      change.eventFields.get "subject_did" = .str did
  | none => change.eventType ∉ ["member-removed", "member-left"]

/-- The head row after the write. -/
theorem hostedGroup?_writeHead {st : Store} {group : HostedGroup}
    (update : HostedGroup → HostedGroup) (stateVersion eventSeq : ℕ) (now : String)
    (hfound : st.hostedGroup? group.groupDid = some group) :
    (writeHead st group.groupDid update stateVersion eventSeq now).hostedGroup? group.groupDid =
      some (advanceHead update stateVersion eventSeq now group) := by
  unfold Store.hostedGroup? at *
  have hkey : ∀ g, (advanceHead update stateVersion eventSeq now g).groupDid = g.groupDid :=
    fun _ ↦ rfl
  simp only [writeHead]
  rw [Table.row?_updateWhere fun g _ ↦ hkey g, hfound]
  simp

/-- The member a departure is told to is the one that has left. -/
theorem departedMember_eq {settings : Settings} {st : Store} {group : HostedGroup} {event : Obj}
    {change : StateChange} {groupDid : String} (hgroup : group.groupDid = groupDid)
    (htype : event.get "event_type" = .str change.eventType)
    (hsubject : event.get "subject_did" = change.eventFields.get "subject_did")
    (hcoherent : change.Coherent) :
    departedMember settings st group event (remoteMembers settings st groupDid) =
      departedRows settings st groupDid
        (if group.wireProfile = .v2 then change.departed else none) := by
  subst hgroup
  unfold departedMember StateChange.Coherent at *
  cases hd : change.departed with
  | none =>
    rw [hd] at hcoherent
    have hne : ¬ (change.eventType = "member-removed" ∨ change.eventType = "member-left") := by
      simpa using hcoherent
    simp only [htype, Json.isStr_str, decide_eq_true_eq, hne, and_false, if_false, ite_self]
    rfl
  | some did =>
    rw [hd] at hcoherent
    have hin : change.eventType = "member-removed" ∨ change.eventType = "member-left" := by
      simpa using hcoherent.1
    simp only [htype, Json.isStr_str, decide_eq_true_eq, hin, and_true, hsubject, hcoherent.2]
    by_cases hv : group.wireProfile = .v2
    · rw [if_pos hv, if_pos hv]
      rfl
    · rw [if_neg hv, if_neg hv]
      rfl

/-- Remote members are read off the roster, -/
theorem remoteMembers_congr {settings : Settings} {a b : Store}
    (h : a.hostedGroupMembers = b.hostedGroupMembers) (groupDid : String) :
    remoteMembers settings a groupDid = remoteMembers settings b groupDid := by
  simp only [remoteMembers, Store.activeMembers, h]

/-- and so is the row of a departed one. -/
theorem departedRows_congr {settings : Settings} {a b : Store}
    (h : a.hostedGroupMembers = b.hostedGroupMembers) (groupDid : String) (did : Option String) :
    departedRows settings a groupDid did = departedRows settings b groupDid did := by
  cases did with
  | none => rfl
  | some did => simp only [departedRows, Store.hostedMember?, h, remoteMembers_congr h]

/-- The notifications of a state change go to the remote members and to the departed one. -/
theorem enqueueStateChanged_eq_ok {settings : Settings} {st st' : Store} {ctx : GroupRequest}
    {groupDid now : String} {change : StateChange} {stateVersion eventSeq : ℕ} {receipt : Obj}
    {head : HostedGroup}
    (h : enqueueStateChanged settings st groupDid eventSeq
      (stateEvent ctx groupDid change stateVersion eventSeq now receipt) now = .ok st')
    (hhead : st.hostedGroup? groupDid = some head) (hcoherent : change.Coherent) :
    ∃ operationId, st' = enqueueAll st groupDid eventSeq .stateChanged
      (stateChangedEnvelope head.wireProfile groupDid operationId
        (stateEvent ctx groupDid change stateVersion eventSeq now receipt)) now
      (remoteMembers settings st groupDid ++ departedRows settings st groupDid
        (if head.wireProfile = .v2 then change.departed else none)) := by
  unfold enqueueStateChanged at h
  obtain ⟨_, _, h⟩ := bind_eq_ok.mp h
  obtain ⟨operationId, _, h⟩ := bind_eq_ok.mp h
  obtain ⟨head', hhead', h⟩ := bind_eq_ok.mp h
  rw [orRaise_eq_ok, hhead] at hhead'
  obtain rfl := Option.some.inj hhead'
  rw [pure_eq_ok] at h
  have hdid : head.groupDid = groupDid := Table.key_of_row? hhead
  rw [departedMember_eq hdid (by simp [stateEvent, Obj.get_cons])
    (by simp [stateEvent, Obj.get_cons]) hcoherent] at h
  exact ⟨_, h.symm⟩

/-- **The state-changing tail advances the group by one event.** `members` is the roster the
operation has already written. -/
theorem acceptStateChange_advance {settings : Settings} {st st' : Store} {req : Request}
    {ctx : GroupRequest} {group : HostedGroup} {change : StateChange} {result : Obj}
    {members : List HostedMember}
    (h : acceptStateChange settings { st with hostedGroupMembers := members } req ctx group change =
      .ok (result, st'))
    (hfound : st.hostedGroup? group.groupDid = some group)
    (hprofile : ctx.profile = group.wireProfile) (hactive : group.protocolState = .active)
    (hmethod : ctx.method ≠ .send)
    (hupdate : ∀ g, (change.update g).wireProfile = g.wireProfile)
    (hstate : ∀ g, (change.update g).protocolState = g.protocolState)
    (hcoherent : change.Coherent)
    (hroster : RosterStep group.groupDid st.hostedGroupMembers ctx.method change.departed members) :
    ∃ a : Advance settings st st', a.ctx = ctx ∧ a.group = group ∧ a.result = result ∧
      a.update = change.update ∧ st'.hostedGroupMembers = members ∧
      a.departed = change.departed ∧ a.notification = .stateChanged ∧ a.now = req.outside.now ∧
      ∃ operationId, a.envelopeFor = stateChangedEnvelope group.wireProfile group.groupDid
        operationId (stateEvent ctx group.groupDid change (group.groupStateVersion + 1)
          (group.groupEventSeq + 1) req.outside.now a.receipt) := by
  have hversion : nextVersion ctx.method group.groupStateVersion = group.groupStateVersion + 1 := by
    simp [nextVersion, hmethod]
  unfold acceptStateChange at h
  obtain ⟨receipt, hreceipt, h⟩ := bind_eq_ok.mp h
  obtain ⟨st₁, hevent, h⟩ := bind_eq_ok.mp h
  obtain ⟨⟨result₁, st₂⟩, hop, h⟩ := bind_eq_ok.mp h
  obtain ⟨st₃, henqueue, h⟩ := bind_eq_ok.mp h
  rw [pure_eq_ok, Prod.mk.injEq] at h
  obtain ⟨rfl, rfl⟩ := h
  have hst₁ := writeEvent_eq_ok hevent
  obtain ⟨haccept, op, hkey, hopresult, hstored, hopfresh, hst₂⟩ := storeOperation_eq_ok hop
  -- Until the notifications are enqueued only side tables change.
  have hside := Store.Side.tellLocalMembers settings st₂ ctx group.groupDid change
    (stateEvent ctx group.groupDid change (group.groupStateVersion + 1) (group.groupEventSeq + 1)
      req.outside.now receipt) req.outside.now
  generalize tellLocalMembers settings st₂ ctx group.groupDid change _ _ = mid at hside henqueue
  subst hst₁ hst₂
  have hhead : mid.hostedGroup? group.groupDid = some (advanceHead change.update
      (group.groupStateVersion + 1) (group.groupEventSeq + 1) req.outside.now group) := by
    rw [Store.hostedGroup?, hside.hostedGroups]
    exact hostedGroup?_writeHead _ _ _ _ hfound
  obtain ⟨operationId, henq⟩ := enqueueStateChanged_eq_ok henqueue hhead hcoherent
  have hv2 : (advanceHead change.update (group.groupStateVersion + 1) (group.groupEventSeq + 1)
      req.outside.now group).wireProfile = ctx.profile := by
    rw [hprofile]
    exact hupdate group
  rw [hv2] at henq
  generalize henvelope : stateChangedEnvelope ctx.profile group.groupDid operationId
    (stateEvent ctx group.groupDid change (group.groupStateVersion + 1) (group.groupEventSeq + 1)
      req.outside.now receipt) = envelopeFor at henq
  obtain ⟨rows, hrows⟩ := enqueueAll_eq group.groupDid req.outside.now
    (group.groupEventSeq + 1) .stateChanged envelopeFor
    (remoteMembers settings mid group.groupDid ++ departedRows settings mid group.groupDid
      (if ctx.profile = .v2 then change.departed else none)) mid
  have hfinal := henq.trans hrows
  have hmembers : st₃.hostedGroupMembers = mid.hostedGroupMembers := by rw [hfinal]
  have hresult : Reports result₁ receipt (group.groupStateVersion + 1)
      (group.groupEventSeq + 1) := by
    refine Reports.standardV2Acceptance ⟨?_, ?_, ?_⟩ haccept <;> simp [Obj.get_cons]
  refine ⟨{
    ctx := ctx, group := group, receipt := receipt, result := result₁, operation := op,
    event := _, message := none, departed := change.departed, notification := .stateChanged,
    envelopeFor := envelopeFor, enqueuing := mid, update := change.update, now := req.outside.now,
    found := hfound, profile := hprofile, active := hactive, update_wireProfile := hupdate,
    update_protocolState := hstate,
    groups := by rw [hfinal, hversion]; exact hside.hostedGroups
    events := by rw [hfinal]; exact hside.hostedGroupEvents
    event_key := rfl
    event_version := hversion.symm
    event_method := rfl
    event_receipt := rfl
    receipt_carries := by rw [hversion]; exact receipt_carries hreceipt
    result_reports := by rw [hversion]; exact hresult
    operations := by rw [hfinal]; exact hside.groupOperations
    operation_key := hkey
    operation_result := hopresult
    operation_stored := hstored
    operation_fresh := hopfresh
    messages := by rw [hfinal, Option.toList_none, List.append_nil]; exact hside.hostedGroupMessages
    message_key := by simp
    message_receipt := by simp
    message_send := by simp
    roster := by rw [hmembers, hside.hostedGroupMembers]; exact hroster
    enqueuing_outbox := hside.groupDeliveryOutbox
    enqueuing_issued := (Nat.le_succ _).trans hside.issued
    outbox := by
      rw [remoteMembers_congr hmembers, departedRows_congr hmembers, ← henq]
    issued := by
      rw [remoteMembers_congr hmembers, departedRows_congr hmembers, ← henq]
    didDocuments := by rw [hfinal]; exact hside.didDocuments
    users := by rw [hfinal]; exact hside.users }, rfl, rfl, rfl, rfl,
    hmembers.trans hside.hostedGroupMembers, rfl, rfl, rfl, operationId, ?_⟩
  rw [← hprofile, henvelope]

/-- **The message tail advances the group by one event** and leaves the state version alone. -/
theorem acceptMessage_advance {settings : Settings} {st st' : Store} {req : Request}
    {ctx : GroupRequest} {group : HostedGroup} {messageId contentType : String} {result : Obj}
    (h : acceptMessage settings st req ctx group messageId contentType = .ok (result, st'))
    (hfound : st.hostedGroup? group.groupDid = some group)
    (hprofile : ctx.profile = group.wireProfile) (hactive : group.protocolState = .active)
    (hmethod : ctx.method = .send) :
    ∃ a : Advance settings st st', a.ctx = ctx ∧ a.group = group ∧ a.result = result ∧
      a.notification = .incoming ∧
      a.envelopeFor = incomingEnvelope ctx.metaObj ctx.auth (deliveryBody group.groupDid
        group.groupStateVersion (group.groupEventSeq + 1) req.outside.now a.receipt ctx.body) ∧
      a.receipt.get "group_did" = .str group.groupDid ∧
      a.receipt.get "accepted_at" = .str req.outside.now ∧ a.update = id ∧
      st'.hostedGroupMembers = st.hostedGroupMembers ∧ ∃ m, a.message = some m ∧
        m.messageId = messageId ∧ m.body = ctx.body ∧ m.contentType = contentType := by
  have hversion : nextVersion ctx.method group.groupStateVersion = group.groupStateVersion := by
    simp [nextVersion, hmethod]
  -- The writes of the tail, in the order of the source.
  unfold acceptMessage at h
  obtain ⟨receipt, hreceipt, h⟩ := bind_eq_ok.mp h
  obtain ⟨_, -, h⟩ := bind_eq_ok.mp h
  obtain ⟨st₁, hevent, h⟩ := bind_eq_ok.mp h
  obtain ⟨⟨result₁, st₂⟩, hop, h⟩ := bind_eq_ok.mp h
  rw [pure_eq_ok, Prod.mk.injEq] at h
  obtain ⟨rfl, rfl⟩ := h
  have hst₁ := writeEvent_eq_ok hevent
  obtain ⟨haccept, op, hkey, hopresult, hstored, hopfresh, hst₂⟩ := storeOperation_eq_ok hop
  -- Between the event and the outbox only the local views are written, and after it the sync logs:
  -- neither is a table the record speaks of.
  have hview := Store.Side.trans
    (.refreshHostedLocalProjections settings st₂ group.groupDid req.outside.now)
    (.projectHostedMessage settings _ group.groupDid (hostedMessageView ctx group.groupDid messageId
      contentType req.outside.now group.groupStateVersion (group.groupEventSeq + 1) receipt
      group.wireProfile))
  generalize projectHostedMessageForLocalMembers settings _ group.groupDid _ = mid at hview
  have htold := Store.Side.syncActiveMembers
    (enqueueIncomingMessage settings mid group.groupDid group.groupStateVersion
      (group.groupEventSeq + 1) ctx.metaObj ctx.body ctx.auth receipt req.outside.now)
    group.groupDid "group.message.created" (messageCreated group.groupDid messageId ctx.senderDid
      contentType (group.groupEventSeq + 1 : ℕ)) req.outside.now
  generalize syncActiveMembers _ group.groupDid _ _ _ = st₄ at htold
  subst hst₁ hst₂
  obtain ⟨rows, hrows⟩ := enqueueAll_eq group.groupDid req.outside.now
    (group.groupEventSeq + 1) .incoming
    (incomingEnvelope ctx.metaObj ctx.auth (deliveryBody group.groupDid
      group.groupStateVersion (group.groupEventSeq + 1) req.outside.now receipt ctx.body))
    (remoteMembers settings mid group.groupDid) mid
  have hmembers : st₄.hostedGroupMembers = mid.hostedGroupMembers := by
    rw [htold.hostedGroupMembers, enqueueIncomingMessage, hrows]
  have hresult : Reports result₁ receipt group.groupStateVersion (group.groupEventSeq + 1) := by
    refine Reports.standardV2Acceptance ⟨?_, ?_, ?_⟩ haccept <;> simp [Obj.get_cons]
  have hdeparted : ∀ p : WireProfile, departedRows settings st₄ group.groupDid
      (if p = .v2 then none else none) = [] := fun p ↦ by
    rw [ite_self]
    rfl
  have hissued : receipt.get "group_did" = .str group.groupDid ∧
      receipt.get "accepted_at" = .str req.outside.now := by
    obtain ⟨proof, -, rfl⟩ := signedReceipt_eq_ok hreceipt
    rw [Obj.get_set_of_ne _ _ (by decide), Obj.get_set_of_ne _ _ (by decide)]
    constructor <;> simp [receiptValue, Obj.get_cons]
  -- Each table of the last state is traced back to the statement that wrote it.
  refine ⟨{
    ctx := ctx, group := group, receipt := receipt, result := result₁, operation := op,
    event := _, message := some _, departed := none, notification := .incoming,
    envelopeFor := incomingEnvelope ctx.metaObj ctx.auth (deliveryBody group.groupDid
      group.groupStateVersion (group.groupEventSeq + 1) req.outside.now receipt ctx.body)
    enqueuing := mid, update := id, now := req.outside.now, found := hfound, profile := hprofile
    active := hactive
    update_wireProfile := fun _ ↦ rfl
    update_protocolState := fun _ ↦ rfl
    groups := by
      rw [htold.hostedGroups, enqueueIncomingMessage, hrows, hversion]
      exact hview.hostedGroups
    events := by
      rw [htold.hostedGroupEvents, enqueueIncomingMessage, hrows]
      exact hview.hostedGroupEvents
    event_key := rfl
    event_version := hversion.symm
    event_method := rfl
    event_receipt := rfl
    receipt_carries := by rw [hversion]; exact receipt_carries hreceipt
    result_reports := by rw [hversion]; exact hresult
    operations := by
      rw [htold.groupOperations, enqueueIncomingMessage, hrows]
      exact hview.groupOperations
    operation_key := hkey
    operation_result := hopresult
    operation_stored := hstored
    operation_fresh := hopfresh
    messages := by
      rw [htold.hostedGroupMessages, enqueueIncomingMessage, hrows]
      exact hview.hostedGroupMessages
    message_key := by rintro m ⟨rfl⟩; rfl
    message_receipt := by rintro m ⟨rfl⟩; rfl
    message_send := fun _ ↦ hmethod
    roster := by
      rw [hmembers, hview.hostedGroupMembers]
      exact .same (by simp [hmethod])
    enqueuing_outbox := hview.groupDeliveryOutbox
    enqueuing_issued := (Nat.le_succ _).trans hview.issued
    outbox := by
      rw [hdeparted, List.append_nil, remoteMembers_congr hmembers]
      exact htold.groupDeliveryOutbox
    issued := by
      rw [hdeparted, List.append_nil, remoteMembers_congr hmembers]
      exact htold.issued
    didDocuments := by
      rw [htold.didDocuments, enqueueIncomingMessage, hrows]
      exact hview.didDocuments
    users := by
      rw [htold.users, enqueueIncomingMessage, hrows]
      exact hview.users }, rfl, rfl, rfl, rfl, rfl, hissued.1, hissued.2, rfl,
    hmembers.trans hview.hostedGroupMembers, _, rfl, rfl, rfl, rfl⟩

/-! ### Creation -/

/-- A member is inserted when its key is free. -/
theorem insertMember_eq_ok {st st' : Store} {row : HostedMember}
    (h : insertMember st row = .ok st') : (∀ m ∈ st.hostedGroupMembers, m.key ≠ row.key) ∧
      st' = { st with hostedGroupMembers := st.hostedGroupMembers ++ [row] } := by
  unfold insertMember at h
  obtain ⟨_, _, h⟩ := bind_eq_ok.mp h
  obtain ⟨rows, hrows, h⟩ := bind_eq_ok.mp h
  rw [orRaise_eq_ok, Table.insert?_eq_some] at hrows
  rw [pure_eq_ok] at h
  exact ⟨hrows.1, by rw [← h, hrows.2]⟩

/-- So are the initial members, one after the other. -/
theorem insertMembers_eq_ok : ∀ {rows : List HostedMember} {st st' : Store},
    insertMembers st rows = .ok st' →
      st' = { st with hostedGroupMembers := st.hostedGroupMembers ++ rows } ∧
        (Table.Keyed HostedMember.key st.hostedGroupMembers →
          Table.Keyed HostedMember.key (st.hostedGroupMembers ++ rows))
  | [], st, st', h => by
    obtain rfl := Except.ok.inj h
    simp
  | row :: rest, st, st', h => by
    unfold insertMembers at h
    obtain ⟨st₁, hrow, h⟩ := bind_eq_ok.mp h
    obtain ⟨hfresh, rfl⟩ := insertMember_eq_ok hrow
    obtain ⟨rfl, hkeyed⟩ := insertMembers_eq_ok h
    refine ⟨by simp, fun hk ↦ ?_⟩
    simpa using hkeyed (hk.append hfresh)

/-- **A committed creation.** -/
theorem commitCreate_creation {settings : Settings} {st st' : Store} {req : Request}
    {ctx : GroupRequest} {groupDid : String} {document profile policy : Obj} {keyPath : String}
    {creator : Option VerifiedHandleBinding} {prepared : List PreparedMember} {result : Obj}
    (h : commitCreate settings st req ctx groupDid document profile policy keyPath creator
      prepared = .ok (result, st'))
    (hmethod : ctx.method = .create)
    (hdomain : didBelongsToDomain groupDid settings.didDomain = true) :
    ∃ c : Creation settings st st', c.ctx = ctx ∧ c.result = result ∧ c.group.groupDid = groupDid ∧
      c.members = createdMembers settings ctx groupDid req.outside.now creator prepared ∧
      c.group.policy = policy ∧ c.group.hostServiceDid = settings.serviceDid := by
  unfold commitCreate at h
  obtain ⟨groups, hgroups, h⟩ := bind_eq_ok.mp h
  obtain ⟨st₁, hinsert, h⟩ := bind_eq_ok.mp h
  obtain ⟨documents, -, h⟩ := bind_eq_ok.mp h
  obtain ⟨didDocuments, hdids, h⟩ := bind_eq_ok.mp h
  obtain ⟨receipt, hreceipt, h⟩ := bind_eq_ok.mp h
  obtain ⟨st₂, hevent, h⟩ := bind_eq_ok.mp h
  obtain ⟨⟨result₁, st₃⟩, hop, h⟩ := bind_eq_ok.mp h
  rw [pure_eq_ok, Prod.mk.injEq] at h
  obtain ⟨rfl, rfl⟩ := h
  rw [orRaise_eq_ok, Table.insert?_eq_some] at hgroups hdids
  obtain ⟨hst₁, hkeyed⟩ := insertMembers_eq_ok hinsert
  have hst₂ := writeEvent_eq_ok hevent
  obtain ⟨haccept, op, hkey, hopresult, hstored, hopfresh, hst₃⟩ := storeOperation_eq_ok hop
  -- The announcement and the views come last, and touch nothing a creation records.
  have hside := Store.Side.trans
    (.syncActiveMembers st₃ groupDid "group.created" [("group_did", .str groupDid)]
      req.outside.now)
    (.refreshHostedLocalProjections settings _ groupDid req.outside.now)
  generalize refreshHostedLocalProjections settings _ groupDid _ = st₄ at hside
  subst hst₁ hst₂ hst₃
  have hresult : Reports result₁ receipt 1 1 := by
    refine Reports.standardV2Acceptance ⟨?_, ?_, ?_⟩ haccept <;> simp [Obj.get_cons] <;> rfl
  refine ⟨{
    ctx := ctx, group := _, receipt := receipt, result := result₁, event := _, operation := op
    members := createdMembers settings ctx groupDid req.outside.now creator prepared
    version := ?_, eventSeq := ?_, active := ?_, fresh := hgroups.1, domain := hdomain
    groups := hside.hostedGroups.trans hgroups.2
    events := hside.hostedGroupEvents
    event_key := rfl
    event_version := rfl
    event_method := hmethod
    event_receipt := rfl
    receipt_carries := receipt_carries hreceipt
    result_reports := hresult
    operations := hside.groupOperations
    operation_key := by rw [hkey, hmethod]
    operation_result := hopresult
    operation_stored := hstored
    operation_fresh := hopfresh
    messages := hside.hostedGroupMessages
    roster := hside.hostedGroupMembers
    members_group := ?_
    members_keyed := fun hk ↦ by rw [hside.hostedGroupMembers]; exact hkeyed hk
    outbox := hside.groupDeliveryOutbox
    issued := le_trans (by dsimp only; omega) hside.issued
    didDocuments := ⟨_, rfl, hside.didDocuments.trans hdids.2⟩
    users := hside.users }, rfl, rfl, rfl, rfl, rfl, rfl⟩
  · rfl
  · rfl
  · rfl
  · intro m hm
    unfold createdMembers at hm
    rcases List.mem_cons.mp hm with rfl | hm
    · rfl
    · obtain ⟨p, -, rfl⟩ := List.mem_map.mp hm
      rfl

end Awiki
