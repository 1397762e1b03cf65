import Mathlib.Data.List.MinMax
import AwikiOpenServer.Messaging.Groups.Operations

/-!
# Notifications at a member's Home

A Host tells a member's Home of every event: `group.state_changed` carries the event, and
`group.incoming` carries a message whose body is the sender's body and the control fields of the
Host in one dictionary. The Home checks the peer, the receipt and, for a message, the sender's proof
over the **restored** original, then compares the sequence number with its projection: a gap is
refused, a repeated notification is answered as a duplicate, an event the projection has already
passed is consumed only when an authenticated snapshot or a forwarded command explains why.

## Two handlers, side by side

`group_state_changed` and `group_incoming` begin alike: the envelope, the peer, the receipt, the
marker of the notification. Where they go apart is when the projection is already past the event. A
state change is then consumed if a roster read covers it or if it is the departure a forwarded
command has already brought (`matchesForwardedTerminal`), and refused as stale otherwise. A message
is consumed in one case more: when it was accepted while the target was still a member
(`acceptedBeforeTerminal`), which is read off the stored answers and the member's own log.

The order of the checks is that of the source, since it decides what a notification is refused with.
The marker is written in the transaction **before** the last of them, and a refusal after it undoes
it (`Messaging/Groups/InboundOnce.lean`).

## What is outside

The signatures of the peer, of the receipt and of the sender's proof are checked by functions of the
request's outside, over the network; each is called with exactly the documents the source passes to
it, the restored original in particular. Numbers in a body are texts and are read as Python's `int`
reads them, with signs, blanks and underscores (`requireVersion`).
-/

namespace Awiki

open Py

/-- The members of a message body that belong to the Host. -/
def INCOMING_CONTROL_FIELDS : List String :=
  ["group_did", "group_state_version", "group_event_seq", "accepted_at", "group_receipt"]

/-- `_require_string` of the inbound module: any string that is not empty. -/
def requireNonEmpty (v : Json) (error : String) : Result String :=
  orRaise (.invalidParams error) (v.str?.filter (· ≠ ""))

/-- A value that passes is a text that is not empty. -/
theorem requireNonEmpty_eq_ok {v : Json} {error s : String} (h : requireNonEmpty v error = .ok s) :
    v = .str s ∧ s ≠ "" := by
  rw [requireNonEmpty, orRaise_eq_ok, Option.filter_eq_some_iff, Json.str?_eq_some] at h
  exact ⟨h.1, by simpa using h.2⟩

/-! ### The envelope -/

/-- A notification whose envelope and peer have been checked. -/
structure Notification where
  metaObj : Obj
  body : Obj
  profile : WireProfile
  targetDid : String
  groupDid : String
  /-- `_verified_peer_service_did(request)`. -/
  peer : Option String

/-- `_notification_context`. -/
def notificationContext (settings : Settings) (st : Store) (req : Request) (params : Obj)
    (method : GroupMethod) : Result Notification := do
  let metaObj ← orRaise (.invalidParams "group.notification_envelope_required")
    (params.get "_anp_meta").obj?
  let body ← orRaise (.invalidParams "group.notification_envelope_required")
    (params.get "_anp_body").obj?
  require (Obj.get metaObj "profile").hashable (.type "unhashable type")
  let profile ← orRaise (.invalidParams "group.notification_profile_invalid")
    (baseProfile (Obj.get metaObj "profile"))
  require ((Obj.get metaObj "security_profile").isStr "transport-protected")
    (.invalidParams "group.notification_profile_invalid")
  validateV2Shape method metaObj body
  let target ← orRaise (.invalidParams "group.notification_target_invalid")
    (Obj.get metaObj "target").obj?
  require ((Obj.get target "kind").isStr "agent")
    (.invalidParams "group.notification_target_invalid")
  let targetDid ← requireNonEmpty (Obj.get target "did") "group.notification_target_did_required"
  let groupDid ← requireNonEmpty (Obj.get body "group_did") "group_did_required"
  require (userExists st targetDid) (.unauthorized "group.notification_target_not_local")
  let peer ← verifyPeerRequestSignature settings req groupDid
  let service ← req.outside.discoverAnpService groupDid
  let declared ← discoveredGroupProfile service
  require (declared = profile) (.invalidParams "group.notification_profile_mismatch")
  require (method ≠ .stateChanged || (Obj.get metaObj "sender_did").isStr groupDid)
    (.unauthorized "group.state_changed_sender_mismatch")
  return { metaObj, body, profile, targetDid, groupDid, peer := peer.filter (· ≠ "") }

/-- `int(_require_string(value, error))`; a numeral that is none is `group.version_invalid`. -/
def requireVersion (v : Json) (error : String) : Result ℤ := do
  let text ← requireNonEmpty v error
  orRaise (.invalidParams "group.version_invalid") (ofText? text)

/-- The receipt speaks about the notification: the message it was issued for, or the method. -/
def receiptSubject (method : GroupMethod) (receipt body : Obj) : Bool :=
  if method = .incoming then
    (receipt.get "subject_method").isStr "group.send" &&
      Json.same (receipt.get "message_id") (body.get "message_id")
  else Json.same (receipt.get "subject_method") (body.get "subject_method")

/-- `_verified_receipt`: the receipt and the version pair. -/
def verifiedReceipt (st : Store) (req : Request) (body : Obj) (method : GroupMethod) :
    Result (Obj × ℤ × ℤ) := do
  let receipt ← orRaise (.invalidParams "group.invalid_group_receipt")
    (body.get "group_receipt").obj?
  let groupDid ← requireNonEmpty (body.get "group_did") "group_did_required"
  require ((Obj.get receipt "group_did").isStr groupDid)
    (.invalidParams "group.invalid_group_receipt")
  let stateVersion ← requireVersion (body.get "group_state_version") "group_state_version_required"
  let eventSeq ← requireVersion (body.get "group_event_seq") "group_event_seq_required"
  require ((Obj.get receipt "group_state_version").isStr (toString stateVersion) &&
      (Obj.get receipt "group_event_seq").isStr (toString eventSeq))
    (.invalidParams "group.invalid_group_receipt")
  require (receiptSubject method receipt body) (.invalidParams "group.invalid_group_receipt")
  let document ← resolveDidDocumentForProof st req groupDid
  require (req.outside.verifyGroupReceipt receipt document)
    (.invalidParams "group.invalid_group_receipt")
  return (receipt, stateVersion, eventSeq)

/-- `_record_inbound`: the store with the record added, or `none` for a notification that was
recorded before with the same digest. -/
def recordInbound (st : Store) (req : Request) (n : Notification) (method : GroupMethod)
    (eventSeq : ℤ) : Result (Option Store) := do
  let source ← orRaise (.unauthorized "missing_source_service_did") n.peer
  let digest ← req.outside.contentDigest n.body
  match Table.row? InboundPeerEvent.key (source, n.groupDid, eventSeq, n.targetDid, method)
      st.inboundPeerEvents with
  | some existing =>
    require (existing.payloadDigest = digest) (.conflict "group.inbound_event_conflict")
    return none
  | none =>
    return some { st with
      inboundPeerEvents := st.inboundPeerEvents ++ [{
        sourceServiceDid := source, groupDid := n.groupDid, groupEventSeq := eventSeq,
        targetDid := n.targetDid, method := method, payloadDigest := digest,
        receivedAt := req.outside.now }] }

/-- `_covered_by_observation`: a roster read from this Host has already seen the event. -/
def coveredByObservation (view : GroupView) (peer : Option String) (eventSeq stateVersion : ℤ) :
    Bool :=
  decide (peer = some view.hostServiceDid ∧ 0 < eventSeq ∧ eventSeq ≤ view.observedEventSeq ∧
    0 < stateVersion ∧ stateVersion ≤ view.observedStateVersion)

/-- The event type, the status and the result member of a forwarded leave or removal. -/
def terminalWords : GroupMethod → Option (String × String × String)
  | .leave => some ("member-left", "left", "leaver_did")
  | .remove => some ("member-removed", "removed", "member_did")
  | _ => none

/-- `_matches_forwarded_terminal`: the event is the one a forwarded leave or removal was answered
with, by its stored receipt and not only by its sequence number. -/
def matchesForwardedTerminal (st : Store) (n : Notification) (receipt : Obj) : Bool :=
  if n.profile ≠ .v2 || !(n.body.get "subject_did").isStr n.targetDid then false
  else
    match (receipt.get "subject_method").str?.bind GroupMethod.ofText? with
    | none => false
    | some method =>
      match terminalWords method with
      | none => false
      | some (eventType, status, subject) =>
        if (n.body.get "event_type").isStr eventType &&
            (n.body.get "membership_status").isStr status then
          match st.groupOperations.find? fun op ↦
              (receipt.get "actor_did").isStr op.senderDid && decide (op.groupScope = n.groupDid) &&
                decide (op.method = method) && (receipt.get "operation_id").isStr op.operationId &&
                decide (op.wireProfile = .v2) &&
                (receipt.get "payload_digest").isStr op.payloadDigest with
          | none => false
          | some op =>
            (op.result.get subject).isStr n.targetDid &&
              Json.same (op.result.get "group_receipt") (.obj receipt)
        else false

/-! ### State changes -/

/-- A version 2 member that had left is active again. -/
def isReactivation (n : Notification) (existing : Option GroupView) (eventType : String)
    (stateVersion : ℤ) : Bool :=
  n.profile = .v2 && existing.any fun v ↦
    decide (v.membershipStatus ≠ .active ∧ v.groupStateVersion < stateVersion) &&
      eventType = "member-activated" && (n.body.get "subject_did").isStr n.targetDid &&
      (n.body.get "membership_status").isStr "active"

/-- The event makes its target a member. -/
def isActivation (n : Notification) (eventType : String) : Bool :=
  eventType = "member-activated" && (n.body.get "subject_did").isStr n.targetDid &&
    (n.body.get "membership_status").isStr "active"

/-- The checks before the record: no gap, and no event for a stranger. -/
def requireInSequence (n : Notification) (existing : Option GroupView) (eventType : String)
    (stateVersion eventSeq : ℤ) : Result Unit :=
  match existing with
  | some v =>
    require (decide (eventSeq ≤ v.groupEventSeq + 1) ||
        isReactivation n existing eventType stateVersion)
      (.conflict "group.projection_gap")
  | none =>
    require (isActivation n eventType) (.unauthorized "group.projection_membership_required")

/-- What an event the projection has already reached comes to. -/
inductive Passed where
  /-- An authenticated snapshot was newer. -/
  | superseded
  /-- A forwarded command went further. -/
  | overtaken
  /-- The projection is rewritten. -/
  | applies

/-- The branch on `event_seq <= existing["group_event_seq"]`. -/
def passedEvent (st : Store) (n : Notification) (existing : Option GroupView) (receipt : Obj)
    (stateVersion eventSeq : ℤ) : Result Passed :=
  match existing with
  | none => .ok .applies
  | some v =>
    if v.groupEventSeq < eventSeq then .ok .applies
    else if coveredByObservation v n.peer eventSeq stateVersion then .ok .superseded
    else if matchesForwardedTerminal st n receipt then
      if eventSeq < v.groupEventSeq then .ok .overtaken else .ok .applies
    else .error (.conflict "group.projection_stale_event")

/-- Membership of the target after the event. -/
def statusAfter (n : Notification) (existing : Option GroupView) (eventType : String)
    (reactivated : Bool) : ViewStatus :=
  if (n.body.get "subject_did").isStr n.targetDid && eventType = "member-removed" then .removed
  else if (n.body.get "subject_did").isStr n.targetDid && eventType = "member-left" then .left
  else if reactivated then .active
  else (existing.map (·.membershipStatus)).getD .active

/-- Role of the target after the event. -/
def roleAfter (req : Request) (n : Notification) (existing : Option GroupView)
    (reactivated : Bool) : String :=
  match existing with
  | some v =>
    if reactivated then req.outside.str ((n.body.get "role").orElse (.str "member"))
    else v.memberRole
  | none => req.outside.str ((n.body.get "role").orElse (.str "member"))

/-- The projected group after the event. The host service of an existing row stays. -/
def eventView (req : Request) (n : Notification) (existing : Option GroupView) (peer : String)
    (eventType changedAt : String) (stateVersion eventSeq : ℤ) : GroupView :=
  let reactivated := isReactivation n existing eventType stateVersion
  { ownerDid := n.targetDid
    groupDid := n.groupDid
    hostServiceDid := (existing.map (·.hostServiceDid)).getD peer
    profile := (n.body.get "group_profile").obj?.getD ((existing.map (·.profile)).getD [])
    policy := (n.body.get "group_policy").obj?.getD ((existing.map (·.policy)).getD [])
    groupStateVersion := stateVersion
    groupEventSeq := eventSeq
    memberRole := roleAfter req n existing reactivated
    membershipStatus := statusAfter n existing eventType reactivated
    updatedAt := changedAt
    wireProfile := n.profile
    observedEventSeq := (existing.map (·.observedEventSeq)).getD 0
    observedStateVersion := (existing.map (·.observedStateVersion)).getD 0 }

/-- The status an event without one implies. -/
def impliedStatus (eventType : String) : String :=
  if eventType = "member-removed" then "removed"
  else if eventType = "member-left" then "left" else "active"

/-- The roster row of the subject; on conflict the time of joining stays. -/
def projectSubject (st : Store) (req : Request) (n : Notification) (eventType changedAt : String) :
    Result Store :=
  match n.body.get "subject_did" with
  | .str subjectDid => do
    let memberHandle ← bindText req.outside.reprFloat (n.body.get "subject_handle")
    let generation ← bindText req.outside.reprFloat (n.body.get "handle_binding_generation")
    let role ← bindTextNotNull req.outside.reprFloat ((n.body.get "role").orElse (.str "member"))
    let status ← bindTextNotNull req.outside.reprFloat
      ((n.body.get "membership_status").orElse (.str (impliedStatus eventType)))
    let row : GroupMemberView :=
      { ownerDid := n.targetDid, groupDid := n.groupDid, agentDid := subjectDid,
        memberHandle := memberHandle, handleBindingGeneration := generation, role := role,
        status := status, joinedAt := some changedAt, updatedAt := changedAt }
    return { st with
      groupMemberViews := Table.upsert GroupMemberView.key row
        (fun old ↦ { row with joinedAt := old.joinedAt }) st.groupMemberViews }
  | _ => .ok st

/-- The answer to a notification that changed nothing. -/
def consumed (word : String) : Obj := [("accepted", .bool true), (word, .bool true)]

/-- The transaction of `group_state_changed`. -/
def applyStateChanged (st : Store) (req : Request) (n : Notification) (receipt : Obj)
    (eventType changedAt : String) (stateVersion eventSeq : ℤ) : Result (Obj × Store) := do
  let existing := st.groupView? n.targetDid n.groupDid
  requireInSequence n existing eventType stateVersion eventSeq
  match ← recordInbound st req n .stateChanged eventSeq with
  | none => return (consumed "duplicate", st)
  | some st =>
    match ← passedEvent st n existing receipt stateVersion eventSeq with
    | .superseded => return (consumed "superseded", st)
    | .overtaken => return (consumed "duplicate", st)
    | .applies =>
      let peer ← orRaise (.integrity "NOT NULL constraint failed") n.peer
      let view := eventView req n existing peer eventType changedAt stateVersion eventSeq
      let st := { st with
        groupViews := Table.upsert GroupView.key view (fun _ ↦ view) st.groupViews }
      let st ← projectSubject st req n eventType changedAt
      return ([("accepted", .bool true), ("group_did", .str n.groupDid),
          ("group_event_seq", .str (toString eventSeq)), ("group_receipt", .obj receipt)],
        addSyncEvent st n.targetDid "group.state_changed" n.body req.outside.now)

/-- `group_state_changed`. -/
def groupStateChanged (settings : Settings) (st : Store) (req : Request) (params : Obj) :
    Result (Obj × Store) := do
  let n ← notificationContext settings st req params .stateChanged
  let (receipt, stateVersion, eventSeq) ← verifiedReceipt st req n.body .stateChanged
  let eventType ← requireNonEmpty (n.body.get "event_type") "group.event_type_required"
  let changedAt ← requireNonEmpty (n.body.get "changed_at") "group.changed_at_required"
  applyStateChanged st req n receipt eventType changedAt stateVersion eventSeq

/-! ### Messages -/

/-- A row of the target's own sync log that made it a member. -/
def isActivationRow (targetDid groupDid : String) (e : SyncEvent) : Bool :=
  decide (e.ownerDid = targetDid ∧ e.eventType = "group.state_changed") &&
    (e.payload.get "group_did").isStr groupDid && (e.payload.get "subject_did").isStr targetDid &&
    ((e.payload.get "event_type").isStr "member-activated" ||
      (e.payload.get "event_type").isStr "member-rebound") &&
    (e.payload.get "membership_status").isStr "active"

/-- The latest activation of the target in its own sync log. -/
def latestActivation (st : Store) (targetDid groupDid : String) : Option SyncEvent :=
  (st.syncEvents.filter (isActivationRow targetDid groupDid)).argmax SyncEvent.eventSeq

/-- A stored result of a forwarded leave or removal ended the projection where it stands. -/
def endedBy (view : GroupView) (targetDid subject : String) (op : GroupOperation) : Result Bool :=
  if (op.result.get subject).isStr targetDid then do
    let receipt ← orRaise (.type "object has no attribute 'get'")
      (op.result.getD "group_receipt" (.obj [])).obj?
    return (Obj.get receipt "group_event_seq").isStr (toString view.groupEventSeq) &&
      (Obj.get receipt "group_state_version").isStr (toString view.groupStateVersion)
  else .ok false

/-- The loop over the stored results: the first match decides. -/
def anyEndedBy (view : GroupView) (targetDid subject : String) : List GroupOperation → Result Bool
  | [] => .ok false
  | op :: rest => do
    let ended ← endedBy view targetDid subject op
    if ended then return true else anyEndedBy view targetDid subject rest

/-- `_accepted_before_terminal`: a message accepted while the target was still a member. -/
def acceptedBeforeTerminal (st : Store) (view : GroupView) (n : Notification)
    (eventSeq stateVersion : ℤ) : Result Bool :=
  if n.profile ≠ .v2 ∨ (view.membershipStatus ≠ .left ∧ view.membershipStatus ≠ .removed) then
    .ok false
  else if view.groupEventSeq ≤ eventSeq ∨ view.groupStateVersion ≤ stateVersion then .ok false
  else
    match latestActivation st n.targetDid n.groupDid with
    | none => .ok false
    | some activation => do
      let activated ← intOrRaise (activation.payload.get "group_event_seq")
      if eventSeq ≤ activated then return false
      else
        let method : GroupMethod := if view.membershipStatus = .left then .leave else .remove
        let subject := if view.membershipStatus = .left then "leaver_did" else "member_did"
        anyEndedBy view n.targetDid subject (st.groupOperations.filter fun op ↦
          decide (op.groupScope = n.groupDid ∧ op.method = method ∧ op.wireProfile = .v2))

/-- The body the sender signed, restored from a notification. -/
def originalBody (body : Obj) : Obj := body.without INCOMING_CONTROL_FIELDS

/-- The meta the sender signed, restored from a notification. -/
def originalMeta (metaObj : Obj) (groupDid : String) : Obj :=
  metaObj.set "target" (.obj [("kind", .str "group"), ("did", .str groupDid)])

/-- A message whose receipt and proof have been checked. -/
structure IncomingMessage where
  messageId : String
  operationId : String
  contentType : String
  senderDid : String
  acceptedAt : String
  receipt : Obj
  stateVersion : ℤ
  eventSeq : ℤ

/-- The verification of `group_incoming`. -/
def verifiedIncoming (st : Store) (req : Request) (params : Obj) (n : Notification) :
    Result IncomingMessage := do
  let messageId ← requireNonEmpty (n.metaObj.get "message_id") "anp_meta_message_id_required"
  let operationId ← requireNonEmpty (n.metaObj.get "operation_id") "anp_meta_operation_id_required"
  let contentType ← requireNonEmpty (n.metaObj.get "content_type") "anp_meta_content_type_required"
  let senderDid ← requireNonEmpty (n.metaObj.get "sender_did") "anp_meta_sender_did_required"
  let (receipt, stateVersion, eventSeq) ←
    verifiedReceipt st req (n.body.set "message_id" (.str messageId)) .incoming
  require ((receipt.get "actor_did").isStr senderDid &&
      (receipt.get "operation_id").isStr operationId)
    (.invalidParams "group.invalid_group_receipt")
  let acceptedAt ← orRaise (.invalidParams "group.invalid_group_receipt")
    (receipt.get "accepted_at").str?
  require ((n.body.get "accepted_at").isStr acceptedAt && req.outside.isAcceptanceTime acceptedAt)
    (.invalidParams "group.invalid_group_receipt")
  let auth ← orRaise (.invalidParams "group.invalid_group_receipt") (params.get "_anp_auth").obj?
  let proof ← orRaise (.invalidParams "group.invalid_group_receipt")
    (Obj.get auth "origin_proof").obj?
  require (Json.same (receipt.get "payload_digest") (Obj.get proof "contentDigest"))
    (.invalidParams "group.invalid_group_receipt")
  let document ← resolveDidDocumentForProof st req senderDid
  validateOriginProofStructure req auth GroupMethod.send.text (originalMeta n.metaObj n.groupDid)
    (originalBody n.body) document (some acceptedAt)
  return { messageId, operationId, contentType, senderDid, acceptedAt, receipt, stateVersion,
           eventSeq }

/-- The projected message. -/
def incomingView (n : Notification) (m : IncomingMessage) : GroupMessageView where
  ownerDid := n.targetDid
  groupDid := n.groupDid
  messageId := m.messageId
  groupEventSeq := m.eventSeq
  groupStateVersion := m.stateVersion
  senderDid := m.senderDid
  operationId := m.operationId
  contentType := m.contentType
  body := originalBody n.body
  receipt := m.receipt
  acceptedAt := m.acceptedAt
  wireProfile := n.profile

/-- The projected group after a message: each counter at its maximum. -/
def viewAfterMessage (n : Notification) (m : IncomingMessage) (v : GroupView) : GroupView :=
  { v with
    updatedAt := if v.groupEventSeq ≤ m.eventSeq then m.acceptedAt else v.updatedAt
    groupStateVersion := max v.groupStateVersion m.stateVersion
    groupEventSeq := max v.groupEventSeq m.eventSeq
    wireProfile := n.profile }

/-- `INSERT INTO group_message_views`. -/
def insertMessageView (st : Store) (row : GroupMessageView) : Result Store := do
  require (st.groupMessageViews.all fun r ↦
      !decide (r.ownerDid = row.ownerDid ∧ r.groupDid = row.groupDid ∧
        (r.messageId = row.messageId ∨ r.groupEventSeq = row.groupEventSeq)))
    (.integrity "group_message_views")
  return { st with groupMessageViews := st.groupMessageViews ++ [row] }

/-- The transaction of `group_incoming`. -/
def applyIncoming (st : Store) (req : Request) (n : Notification) (m : IncomingMessage) :
    Result (Obj × Store) := do
  let view ← orRaise (.unauthorized "group.projection_membership_required")
    (st.groupView? n.targetDid n.groupDid)
  let beforeTerminal ← acceptedBeforeTerminal st view n m.eventSeq m.stateVersion
  require (view.membershipStatus = .active || beforeTerminal)
    (.unauthorized "group.projection_membership_required")
  require (decide (m.eventSeq ≤ view.groupEventSeq + 1)) (.conflict "group.projection_gap")
  match ← recordInbound st req n .incoming m.eventSeq with
  | none => return (consumed "duplicate", st)
  | some st =>
    require (decide (view.groupEventSeq < m.eventSeq) || beforeTerminal ||
        coveredByObservation view n.peer m.eventSeq m.stateVersion)
      (.conflict "group.projection_stale_event")
    let st ← insertMessageView st (incomingView n m)
    let st := { st with
      groupViews := Table.updateWhere (fun v ↦ decide (v.key = (n.targetDid, n.groupDid)))
        (viewAfterMessage n m) st.groupViews }
    return ([("accepted", .bool true), ("group_did", .str n.groupDid),
        ("message_id", .str m.messageId), ("group_event_seq", .str (toString m.eventSeq))],
      addSyncEvent st n.targetDid "group.message.created"
        (messageCreated n.groupDid m.messageId m.senderDid m.contentType m.eventSeq)
        req.outside.now)

/-- `group_incoming`. -/
def groupIncoming (settings : Settings) (st : Store) (req : Request) (params : Obj) :
    Result (Obj × Store) := do
  let n ← notificationContext settings st req params .incoming
  let m ← verifiedIncoming st req params n
  applyIncoming st req n m

end Awiki
