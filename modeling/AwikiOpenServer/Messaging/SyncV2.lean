import AwikiOpenServer.Messaging.Groups.HomeVersions

/-!
# What the sync log becomes for a client

`sync.delta` hands a client the rows of its log, each rendered by `_sync_v2_event`. A row about a
group was stored as it arrived: for a remote group its payload **is the body of the Host's
notification**, with the owner's view of the group frozen under `_sync_group`. The rendering then
looks for the group in three places of that payload, and the first of them, `message.group_did`, is
one that no check of a state change ever reads.

So the event a client sees names the group of the notification exactly when the body does not bring
another one under `message` (`state_change_reports_own_group_iff`).

## Branches

`_sync_v2_event` goes by the type of a row: a message of a conversation or of a group, a watermark,
a change of a group, and everything else, which is passed on under a private name. Each branch makes
the members it adds (`SyncV2Branch`), and what all rows have is put around them. A branch that needs
the reference of a conversation draws it, so rendering goes from a store to a store.

Python's `a or b` takes the first value that is *true*, whatever its type; so a number or a list
under `group_did` is taken for a group, and fails where it is bound to a column. `eventGroupDid`
keeps this, and rows of this server do not do it.

## What is said of a state change

It goes from the acceptance of a notification to the page of a client, with anything between them.
`addSyncEvent_stateChanged` is the row an accepted state change appends; `syncV2Event_stateChanged`
is that it can always be rendered, in every later store, and what it reports on.
`SyncV2Event.ReportsOn` is what is asked of it: the group in all places where an event names one,
and the version pair of that group. The condition is about the body of the notification, and the
checks of the notification do not read it; `foreign_group_reported` is a body that passes them all.
-/

namespace Awiki

open Py

/-! ### Rendering a row -/

/-- One event of `sync.delta`. -/
structure SyncV2Event where
  eventId : String
  streamEpoch : String
  eventSeq : String
  eventType : String
  ignoreSafe : Bool
  accountId : String
  originDid : Json
  aggregateKind : String
  aggregateId : Json
  stateVersion : Json
  threadKey : Json
  occurredAt : String
  payload : Obj

/-- The members of an event the branches of `_sync_v2_event` differ in. -/
structure SyncV2Branch where
  eventType : String
  ignoreSafe : Bool
  aggregateKind : String
  aggregateId : Json
  stateVersion : Json
  threadKey : Json
  payload : Obj

/-- `conversation_ref`: the reference of a conversation, drawn on first use. -/
def conversationRef (outside : Outside) (st : Store) (owner peer : String) :
    Result (String × Store) :=
  let reference := outside.conversationRef owner peer
  let rows :=
    if st.directConversationRefs.any fun r ↦
        decide (r.ownerDid = owner ∧ (r.peerDid = peer ∨ r.conversationRef = reference)) then
      st.directConversationRefs
    else st.directConversationRefs ++ [⟨owner, peer, reference⟩]
  match Table.row? ConversationRef.key (owner, peer) rows with
  | some row => .ok (row.conversationRef, { st with directConversationRefs := rows })
  | none => .error (.type "'NoneType' object is not subscriptable")

/-- `original.get(key) if isinstance(original.get(key), dict) else {}`. -/
def memberOrEmpty (original : Obj) (key : String) : Obj := (original.get key).obj?.getD []

/-- `message.get("group_did") or original.get("group_did") or thread.get("group_did")`. -/
def eventGroupDid (original : Obj) : Json :=
  ((memberOrEmpty original "message").get "group_did").orElse
    ((original.get "group_did").orElse ((memberOrEmpty original "thread").get "group_did"))

/-- `message.get("sender_did") or original.get("sender_did")`. -/
def eventSenderDid (original : Obj) : Json :=
  ((memberOrEmpty original "message").get "sender_did").orElse (original.get "sender_did")

/-- A message of a conversation or of a group. -/
def messageBranch (outside : Outside) (st : Store) (row : SyncEvent) (owner : String) :
    Result (SyncV2Branch × Store) :=
  let original := row.payload
  let message := memberOrEmpty original "message"
  let isGroupMessage := startsWith "group.message." row.eventType
  let messageId := (message.get "message_id").orElse (original.get "message_id")
  let groupDid := eventGroupDid original
  let senderDid := eventSenderDid original
  let recipientDid := (message.get "recipient_did").orElse (message.get "receiver_did")
  let payload : Obj :=
    [("message_kind", .str (if isGroupMessage then "group_plain" else "direct_plain")),
      ("direction", .str (if senderDid.isStr owner then "outgoing/self" else "incoming")),
      ("sender_did_snapshot", senderDid),
      ("recipient_did_snapshot", recipientDid.orElse (.str owner)),
      ("client_message_id", messageId)]
  if isGroupMessage then
    .ok ({ eventType := "message.created", ignoreSafe := false, aggregateKind := "group_message",
           aggregateId := .str (outside.str messageId), stateVersion := .null,
           threadKey := .str (outside.str groupDid),
           payload := payload ++ [("group_did", groupDid)] }, st)
  else do
    let (reference, st) ← conversationRef outside st owner
      (outside.str ((memberOrEmpty original "thread").get "peer_did"))
    return ({ eventType := "message.created", ignoreSafe := false,
              aggregateKind := "direct_message", aggregateId := .str (outside.str messageId),
              stateVersion := .null, threadKey := .str reference, payload := payload }, st)

/-- A watermark: the stored payload is the event. -/
def readStateBranch (row : SyncEvent) : Result SyncV2Branch := do
  let threadKey ← orRaise (.key "thread_key") (row.payload.lookup "thread_key")
  let stateVersion ← orRaise (.key "state_version") (row.payload.lookup "state_version")
  return { eventType := "message.read_state_updated", ignoreSafe := false,
           aggregateKind := "read_state", aggregateId := threadKey, stateVersion := stateVersion,
           threadKey := threadKey, payload := row.payload }

/-- The group as the owner saw it. Older creation entries were sparse: only the accepted facts of
the first event are read back, never the current state. -/
def frozenGroup (outside : Outside) (st : Store) (row : SyncEvent) (groupDid : Json) :
    Result Obj :=
  match row.payload.get "_sync_group" with
  | .obj snapshot => .ok snapshot
  | _ =>
    if row.eventType = "group.created" then do
      let text ← bindText outside.reprFloat groupDid
      match st.hostedGroupEvents.find? fun e ↦
          decide (some e.groupDid = text ∧ e.groupEventSeq = 1) with
      | some accepted => return row.payload.merge accepted.payload
      | none => return row.payload
    else .ok row.payload

/-- The `membership` member of a group event. -/
def eventMembership (original snapshot : Obj) (owner : String) : Obj :=
  let subject : Obj :=
    [("subject_did", original.getD "subject_did" (.str owner)),
      ("actor_did", original.getD "actor_did" (.str owner))]
  if (original.get "subject_did").truthy then
    subject ++ [("status", original.getD "membership_status" (.str "active"))] ++
      (if (original.get "role").truthy then [("role", original.get "role")] else [])
  else if (snapshot.get "membership_status").truthy then
    subject ++ [("status", snapshot.get "membership_status"),
      ("role", snapshot.getD "member_role" (.str "member"))]
  else subject

/-- The `group` member of a group event. -/
def eventGroup (outside : Outside) (original snapshot : Obj) (groupDid : Json) : Obj :=
  [("group_did", groupDid),
    ("group_state_version",
      .str (outside.str (snapshot.getD "group_state_version" (.str "1")))),
    ("group_event_seq", .str (outside.str (snapshot.getD "group_event_seq"
      (original.getD "group_event_seq" (.str "1"))))),
    ("required_security_profile", .str "transport-protected")] ++
    match snapshot.get "group_profile" with
    | .obj profile => [("profile", .obj profile)]
    | _ => []

/-- A change of a group. -/
def groupBranch (outside : Outside) (st : Store) (row : SyncEvent) (owner : String) :
    Result SyncV2Branch := do
  let groupDid := eventGroupDid row.payload
  let snapshot ← frozenGroup outside st row groupDid
  return {
    eventType :=
      if (row.payload.get "subject_did").truthy then "group.member_changed"
      else "group.profile_updated"
    ignoreSafe := false
    aggregateKind := "group"
    aggregateId := .str (outside.str groupDid)
    stateVersion := .str (outside.str (snapshot.getD "group_state_version" (.str "1")))
    threadKey := .str (outside.str groupDid)
    payload := [("thread_kind", .str "group"),
      ("thread", .obj [("kind", .str "group"), ("group_did", groupDid)]),
      ("group", .obj (eventGroup outside row.payload snapshot groupDid)),
      ("membership", .obj (eventMembership row.payload snapshot owner))] }

/-- Everything else is passed on under a private name. -/
def otherBranch (outside : Outside) (row : SyncEvent) : SyncV2Branch where
  eventType := "awiki.open." ++ row.eventType
  ignoreSafe := true
  aggregateKind := "event"
  aggregateId := .str (outside.str ((row.payload.get "group_did").orElse (.str row.eventId)))
  stateVersion := .null
  threadKey :=
    if (eventGroupDid row.payload).truthy then .str (outside.str (eventGroupDid row.payload))
    else .null
  payload := row.payload

/-- The branch of a row, by its type. -/
def syncV2Branch (outside : Outside) (st : Store) (row : SyncEvent) (owner : String) :
    Result (SyncV2Branch × Store) :=
  if startsWith "direct.message." row.eventType || startsWith "group.message." row.eventType then
    messageBranch outside st row owner
  else if row.eventType = "read_state.updated" ∨ row.eventType = "message.read_state_updated" then
    (readStateBranch row).map fun b ↦ (b, st)
  else if startsWith "group." row.eventType && (eventGroupDid row.payload).truthy then
    (groupBranch outside st row owner).map fun b ↦ (b, st)
  else .ok (otherBranch outside row, st)

/-- `_sync_v2_event`: the rendered row, and the store with the conversation references drawn. -/
def syncV2Event (outside : Outside) (st : Store) (row : SyncEvent)
    (owner accountId epoch : String) : Result (SyncV2Event × Store) := do
  let (branch, st) ← syncV2Branch outside st row owner
  return ({
    eventId := row.eventId
    streamEpoch := epoch
    eventSeq := toString row.eventSeq
    eventType := branch.eventType
    ignoreSafe := branch.ignoreSafe
    accountId := accountId
    originDid := eventSenderDid row.payload
    aggregateKind := branch.aggregateKind
    aggregateId := branch.aggregateId
    stateVersion := branch.stateVersion
    threadKey := branch.threadKey
    occurredAt := row.createdAt
    payload := branch.payload }, st)

/-! ### The group an event is about -/

/-- The version pair of a group as `owner` sees it here. -/
def groupVersions (st : Store) (owner groupDid : String) : Option (ℤ × ℤ) :=
  match st.hostedGroup? groupDid with
  | some g => some (g.groupStateVersion, g.groupEventSeq)
  | none => (st.groupView? owner groupDid).map fun v ↦ (v.groupStateVersion, v.groupEventSeq)

/-- **The event reports on this group**: it names it everywhere, and carries its version pair. -/
structure SyncV2Event.ReportsOn (e : SyncV2Event) (groupDid : String) (pair : ℤ × ℤ) : Prop where
  aggregateId : e.aggregateId = .str groupDid
  threadKey : e.threadKey = .str groupDid
  thread : ∃ thread, e.payload.get "thread" = .obj thread ∧
    Obj.get thread "group_did" = .str groupDid
  group : ∃ group, e.payload.get "group" = .obj group ∧
    Obj.get group "group_did" = .str groupDid ∧
    Obj.get group "group_state_version" = .str (toString pair.1) ∧
    Obj.get group "group_event_seq" = .str (toString pair.2)
  stateVersion : e.stateVersion = .str (toString pair.1)

/-- The body of a notification brings another group under `message`. -/
def namesOtherGroup (body : Obj) (groupDid : String) : Bool :=
  let named := (memberOrEmpty body "message").get "group_did"
  named.truthy && !named.isStr groupDid

/-- A snapshot carries the version pair of its group. -/
theorem groupSnapshot_versions {st : Store} {owner groupDid : String} {pair : ℤ × ℤ}
    (h : groupVersions st owner groupDid = some pair) :
    ∃ snapshot : Obj, groupSnapshot st owner groupDid = some snapshot ∧
      snapshot.getD "group_state_version" (.str "1") = .str (toString pair.1) ∧
      ∀ d, snapshot.getD "group_event_seq" d = .str (toString pair.2) := by
  unfold groupVersions at h
  unfold groupSnapshot
  cases hhosted : st.hostedGroup? groupDid with
  | some g =>
    rw [hhosted] at h
    obtain rfl := Option.some.inj h
    exact ⟨_, rfl, rfl, fun _ ↦ rfl⟩
  | none =>
    rw [hhosted] at h
    obtain ⟨v, hv, rfl⟩ := Option.map_eq_some_iff.mp h
    simp only [hv]
    exact ⟨_, rfl, rfl, fun _ ↦ rfl⟩

/-- A group whose view was just written has versions here. -/
theorem exists_groupVersions_of_upsert (st : Store) {view : GroupView} {views : List GroupView}
    (hviews : st.groupViews = Table.upsert GroupView.key view (fun _ ↦ view) views) :
    ∃ pair, groupVersions st view.ownerDid view.groupDid = some pair := by
  have hview : st.groupView? view.ownerDid view.groupDid = some view := by
    show Table.row? GroupView.key view.key st.groupViews = some view
    rw [hviews, Table.row?_upsert fun _ _ ↦ rfl, if_pos rfl]
    cases Table.row? GroupView.key view.key views <;> rfl
  unfold groupVersions
  cases st.hostedGroup? view.groupDid with
  | some g => exact ⟨_, rfl⟩
  | none => exact ⟨_, by rw [hview]; rfl⟩

/-- The log row of a state change holds the body, and the group as it stands now. -/
theorem syncPayload_stateChanged {st : Store} {owner groupDid : String} {body : Obj}
    {pair : ℤ × ℤ} (hgroup : body.get "group_did" = .str groupDid)
    (hpair : groupVersions st owner groupDid = some pair) :
    ∃ snapshot : Obj, syncPayload st owner "group.state_changed" body =
        body.set "_sync_group" (.obj snapshot) ∧
      snapshot.getD "group_state_version" (.str "1") = .str (toString pair.1) ∧
      ∀ d, snapshot.getD "group_event_seq" d = .str (toString pair.2) := by
  obtain ⟨snapshot, hsnapshot, hversions⟩ := groupSnapshot_versions hpair
  have htype : (startsWith "group." "group.state_changed" &&
      !startsWith "group.message." "group.state_changed") = true := by decide
  refine ⟨snapshot, ?_, hversions⟩
  rw [syncPayload, if_pos htype, hgroup]
  simp only [hsnapshot]

/-- The group a stored body is rendered with. -/
theorem eventGroupDid_eq {body : Obj} {groupDid : String} (hne : groupDid ≠ "")
    (hgroup : body.get "group_did" = .str groupDid) (snapshot : Json) :
    (eventGroupDid (body.set "_sync_group" snapshot)).truthy = true ∧
      (eventGroupDid (body.set "_sync_group" snapshot) = .str groupDid ↔
        namesOtherGroup body groupDid = false) := by
  have hown : (body.set "_sync_group" snapshot).get "group_did" = .str groupDid := by
    rw [Obj.get_set_of_ne _ _ (by decide), hgroup]
  have hmessage : memberOrEmpty (body.set "_sync_group" snapshot) "message" =
      memberOrEmpty body "message" := by
    rw [memberOrEmpty, memberOrEmpty, Obj.get_set_of_ne _ _ (by decide)]
  have htext : (Json.str groupDid).truthy = true := by simpa using hne
  rw [eventGroupDid, namesOtherGroup, hmessage, hown]
  -- The body's own group is only looked at when `message` names none.
  cases hnamed : ((memberOrEmpty body "message").get "group_did").truthy with
  | false => simp [Json.orElse, hnamed, htext]
  | true => simp [Json.orElse, hnamed, ← Json.isStr_iff]

/-- **Rendering a state change**: it never fails, and it reports on the group that
`eventGroupDid` finds. -/
theorem syncV2Event_stateChanged {outside : Outside} {st : Store} {row : SyncEvent}
    {owner accountId epoch groupDid : String} {body snapshot : Obj} {pair : ℤ × ℤ}
    (htype : row.eventType = "group.state_changed")
    (hpayload : row.payload = body.set "_sync_group" (.obj snapshot))
    (htruthy : (eventGroupDid row.payload).truthy = true)
    (hversion : snapshot.getD "group_state_version" (.str "1") = .str (toString pair.1))
    (hseq : ∀ d, snapshot.getD "group_event_seq" d = .str (toString pair.2)) :
    ∃ event, syncV2Event outside st row owner accountId epoch = .ok (event, st) ∧
      (event.ReportsOn groupDid pair ↔ eventGroupDid row.payload = .str groupDid) := by
  have hbranch : syncV2Branch outside st row owner =
      (groupBranch outside st row owner).map fun b ↦ (b, st) := by
    have hgroup : (startsWith "group." row.eventType && (eventGroupDid row.payload).truthy) =
        true := by
      rw [htruthy, htype]
      decide
    rw [syncV2Branch, if_neg (by rw [htype]; decide), if_neg (by rw [htype]; decide),
      if_pos hgroup]
  have hfrozen : frozenGroup outside st row (eventGroupDid row.payload) = .ok snapshot := by
    rw [frozenGroup, hpayload, Obj.get_set_self]
  rw [syncV2Event, hbranch, groupBranch, hfrozen]
  refine ⟨_, rfl, fun h ↦ ?_, fun h ↦ ?_⟩
  · obtain ⟨thread, hthread, hdid⟩ := h.thread
    obtain rfl := Json.obj.inj hthread
    exact hdid
  · have hfields : Obj.get (eventGroup outside row.payload snapshot (.str groupDid))
          "group_did" = .str groupDid ∧
        Obj.get (eventGroup outside row.payload snapshot (.str groupDid))
          "group_state_version" = .str (toString pair.1) ∧
        Obj.get (eventGroup outside row.payload snapshot (.str groupDid))
          "group_event_seq" = .str (toString pair.2) := by
      simp [eventGroup, Obj.get_cons, hversion, hseq, Outside.str]
    exact {
      aggregateId := by simp only [h]; rfl
      threadKey := by simp only [h]; rfl
      thread := ⟨_, rfl, by simp [Obj.get_cons, h]⟩
      group := ⟨_, rfl, by rw [h]; exact hfields⟩
      stateVersion := by simp only [hversion]; rfl }

/-- The row a state change appends, whenever it is rendered. -/
theorem addSyncEvent_stateChanged {st : Store} {owner groupDid now : String} {body : Obj}
    {pair : ℤ × ℤ} {row : SyncEvent} (hne : groupDid ≠ "")
    (hgroup : body.get "group_did" = .str groupDid)
    (hpair : groupVersions st owner groupDid = some pair)
    (hrow : (addSyncEvent st owner "group.state_changed" body now).syncEvents =
      st.syncEvents ++ [row]) :
    row.ownerDid = owner ∧ ∀ outside later accountId epoch, ∃ event,
      syncV2Event outside later row owner accountId epoch = .ok (event, later) ∧
        (event.ReportsOn groupDid pair ↔ namesOtherGroup body groupDid = false) := by
  obtain ⟨snapshot, hpayload, hversion, hseq⟩ := syncPayload_stateChanged hgroup hpair
  obtain ⟨htruthy, hiff⟩ := eventGroupDid_eq hne hgroup (.obj snapshot)
  have hlast := (List.cons.inj (List.append_cancel_left hrow)).1
  have hstored : row.payload = body.set "_sync_group" (.obj snapshot) := by
    rw [← hlast]
    exact hpayload
  rw [← hstored] at htruthy hiff
  refine ⟨by rw [← hlast], fun outside later accountId epoch ↦ ?_⟩
  obtain ⟨event, hevent, hreports⟩ := syncV2Event_stateChanged (by rw [← hlast]) hstored htruthy
    hversion hseq
  exact ⟨event, hevent, hreports.trans hiff⟩

/-- **A notification reports on its own group, unless its body names another one.** For every
accepted state change that reached the log of its target, and whenever the row is rendered later:
the event names the notified group and carries its version pair if and only if the body has no other
group under `message`. -/
theorem state_change_reports_own_group_iff {settings : Settings} {st st' : Store} {req : Request}
    {params result : Obj} {row : SyncEvent}
    (h : groupStateChanged settings st req params = .ok (result, st'))
    (hrow : st'.syncEvents = st.syncEvents ++ [row]) :
    ∃ n pair, notificationContext settings st req params .stateChanged = .ok n ∧
      row.ownerDid = n.targetDid ∧ groupVersions st' n.targetDid n.groupDid = some pair ∧
      ∀ outside later accountId epoch, ∃ event,
        syncV2Event outside later row n.targetDid accountId epoch = .ok (event, later) ∧
          (event.ReportsOn n.groupDid pair ↔ namesOtherGroup n.body n.groupDid = false) := by
  unfold groupStateChanged at h
  obtain ⟨n, hn, h⟩ := bind_eq_ok.mp h
  obtain ⟨⟨receipt, v, s⟩, -, h⟩ := bind_eq_ok.mp h
  obtain ⟨eventType, -, h⟩ := bind_eq_ok.mp h
  obtain ⟨changedAt, -, h⟩ := bind_eq_ok.mp h
  obtain ⟨-, hgroup, hne⟩ := notificationContext_eq_ok hn
  rcases applyStateChanged_eq_ok h with ⟨records, rfl⟩ | ⟨records, rows, peer, -, rfl⟩
  · simp at hrow
  · obtain ⟨pair, hpair⟩ := exists_groupVersions_of_upsert
      { st with
        inboundPeerEvents := records
        groupViews := Table.upsert GroupView.key
          (eventView req n (st.groupView? n.targetDid n.groupDid) peer eventType changedAt v s)
          (fun _ ↦ eventView req n (st.groupView? n.targetDid n.groupDid) peer eventType
            changedAt v s) st.groupViews
        groupMemberViews := rows } rfl
    obtain ⟨howner, hrender⟩ := addSyncEvent_stateChanged hne hgroup hpair hrow
    exact ⟨n, pair, hn, howner, hpair, hrender⟩

/-- A state change accepted by the sample Home reaches the log and passes a test there. -/
theorem exists_accepted_of_check (body : Obj) (test : SyncEvent → Bool)
    (h : (match groupStateChanged .sample sampleHome peerRequest
      (sampleNotificationParams body) with
      | .ok (_, st') =>
        match st'.syncEvents with
        | [row] => test row
        | _ => false
      | .error _ => false) = true) :
    ∃ result st' row,
      groupStateChanged .sample sampleHome peerRequest (sampleNotificationParams body) =
        .ok (result, st') ∧
      st'.syncEvents = sampleHome.syncEvents ++ [row] ∧ test row = true := by
  split at h
  · rename_i result st' hok
    split at h
    · rename_i row hrow
      exact ⟨result, st', row, hok, hrow, h⟩
    · cases h
  · cases h

/-- The event with which Alice joined, plain. -/
theorem state_change_reports_own_group_sample :
    ∃ result st' row pair,
      groupStateChanged .sample sampleHome peerRequest
        (sampleNotificationParams (sampleEvent 3 5 "member-activated" "group.add" sampleJoined)) =
          .ok (result, st') ∧
      st'.syncEvents = sampleHome.syncEvents ++ [row] ∧
      ∀ outside later accountId epoch, ∃ event,
        syncV2Event outside later row alice accountId epoch = .ok (event, later) ∧
          event.ReportsOn remoteGroup pair := by
  obtain ⟨result, st', row, hok, hrow, -⟩ := exists_accepted_of_check
    (sampleEvent 3 5 "member-activated" "group.add" sampleJoined) (fun _ ↦ true)
    (by decide +kernel)
  obtain ⟨n, pair, hn, -, -, hrender⟩ := state_change_reports_own_group_iff hok hrow
  have hcheck : (match notificationContext .sample sampleHome peerRequest
      (sampleNotificationParams (sampleEvent 3 5 "member-activated" "group.add" sampleJoined))
        .stateChanged with
    | .ok n => decide (n.targetDid = alice ∧ n.groupDid = remoteGroup) &&
        !namesOtherGroup n.body n.groupDid
    | .error _ => false) = true := by decide +kernel
  rw [hn] at hcheck
  simp only [Bool.and_eq_true, decide_eq_true_eq, Bool.not_eq_true'] at hcheck
  obtain ⟨⟨htarget, hgroup⟩, hnames⟩ := hcheck
  refine ⟨result, st', row, pair, hok, hrow, fun outside later accountId epoch ↦ ?_⟩
  obtain ⟨event, hevent, hiff⟩ := hrender outside later accountId epoch
  rw [htarget] at hevent
  rw [hgroup] at hiff
  exact ⟨event, hevent, hiff.mpr (hgroup ▸ hnames)⟩

/-- A group of somebody else. -/
def otherGroup : String := "did:wba:other.example:groups:x"

/-- The same event, with another group under `message`. -/
def misleadingEvent : Obj :=
  sampleEvent 3 5 "member-activated" "group.add"
    (sampleJoined ++ [("message", .obj [("group_did", .str otherGroup)])])

/-- **A Host can make a client see a change of a group that is not its own.** -/
theorem foreign_group_reported :
    ¬ ∀ (settings : Settings) (st st' : Store) (req : Request) (params result : Obj)
      (row : SyncEvent) (n : Notification),
      groupStateChanged settings st req params = .ok (result, st') →
      st'.syncEvents = st.syncEvents ++ [row] →
      notificationContext settings st req params .stateChanged = .ok n →
      ∃ pair, groupVersions st' n.targetDid n.groupDid = some pair ∧
        ∀ outside later accountId epoch, ∃ event,
          syncV2Event outside later row n.targetDid accountId epoch = .ok (event, later) ∧
            event.ReportsOn n.groupDid pair := by
  intro hall
  obtain ⟨result, st', row, hok, hrow, hother⟩ := exists_accepted_of_check misleadingEvent
    (fun row ↦
      match syncV2Event .honest {} row alice "account" "1" with
      | .ok (event, _) => event.aggregateId.isStr otherGroup
      | .error _ => false) (by decide +kernel)
  have hcontext : (match notificationContext .sample sampleHome peerRequest
      (sampleNotificationParams misleadingEvent) .stateChanged with
    | .ok n => decide (n.targetDid = alice ∧ n.groupDid = remoteGroup)
    | .error _ => false) = true := by decide +kernel
  split at hcontext
  · rename_i n hn
    obtain ⟨htarget, hgroup⟩ := of_decide_eq_true hcontext
    obtain ⟨pair, -, hreports⟩ := hall _ _ _ _ _ _ _ n hok hrow hn
    obtain ⟨event, hevent, hreport⟩ := hreports .honest {} "account" "1"
    rw [htarget] at hevent
    simp only [hevent, Json.isStr_iff, hreport.aggregateId, hgroup] at hother
    exact absurd (Json.str.inj hother) (by decide)
  · cases hcontext

end Awiki
