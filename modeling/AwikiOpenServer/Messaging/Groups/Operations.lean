import AwikiOpenServer.Messaging.Groups.Service

/-!
# The nine hosted operations

Each operation is the source's handler of the same name, over the checks and the accepting tail of
`Service`. `hostedCall` dispatches on the method.

Five definitions make up the nine: join and add are `_membership_mutation`, leave and remove are
`_end_membership`, and the two updates are `_update_group`, as in the source; create, rebind and
send have handlers of their own. In each the order of the checks is kept, because it decides what a
request is refused with and which reads are made under the lock.

A handler is given the state its first reads have seen and, where it looks up the operation once
more before its transaction, the state of that look-up, beside the state its transaction begins
with. The handlers that do everything in one transaction ignore the others.
-/

namespace Awiki

open Py

/-! ### Creating a group -/

/-- An initial member of a new group, after resolution. -/
structure PreparedMember where
  did : String
  handle : Option String
  generation : Option String
  role : Role
  homeServiceDid : String

/-- The DID a member entry names: that of its resolved Handle, else `member_did`. -/
def memberDidOf (binding : Option VerifiedHandleBinding) (memberDid : Json) : Result String :=
  match binding with
  | some b => .ok b.did
  | none => requireText memberDid "group.member_did_required"

/-- The loop of `hosted_group_create` over `initial_members`; `dids` and `handles` were seen. -/
def prepareMembers (settings : Settings) (st : Store) (req : Request) :
    List Json → List String → List String → Result (List PreparedMember)
  | [], _, _ => .ok []
  | item :: rest, dids, handles => do
    let m ← orRaise (.invalidParams "group.initial_member_invalid") item.obj?
    require ((Obj.get m "member_did").isNull != (Obj.get m "member_handle").isNull)
      (.invalidParams "group.member_identifier_ambiguous")
    let binding ← resolveHandleField settings st req (Obj.get m "member_handle")
      "group.member_handle_invalid"
    let did ← memberDidOf binding (Obj.get m "member_did")
    let role ← requireRole (Obj.getD m "role" (.str "member")) (.invalidParams "group.role_invalid")
    require (!(dids.contains did || binding.any fun b ↦ handles.contains b.handle))
      (.conflict "group.initial_member_duplicate")
    let home ← homeServiceDid settings req did
    let more ← prepareMembers settings st req rest (did :: dids)
      ((binding.map (·.handle)).toList ++ handles)
    return { did, handle := binding.map (·.handle), generation := binding.map (·.bindingGeneration),
             role, homeServiceDid := home } :: more

/-- `UNIQUE(group_did, member_handle)`: no other member of the group has the handle. -/
def handleFree (st : Store) (groupDid agentDid : String) (handle : Option String) : Bool :=
  st.hostedGroupMembers.all fun m ↦
    !decide (m.groupDid = groupDid ∧ m.agentDid ≠ agentDid ∧ m.memberHandle ≠ none ∧
      m.memberHandle = handle)

/-- `INSERT INTO hosted_group_members`. -/
def insertMember (st : Store) (row : HostedMember) : Result Store := do
  require (handleFree st row.groupDid row.agentDid row.memberHandle)
    (.integrity "hosted_group_members.member_handle")
  let rows ← orRaise (.integrity "hosted_group_members")
    (Table.insert? HostedMember.key row st.hostedGroupMembers)
  return { st with hostedGroupMembers := rows }

/-- Insert several members, in order. -/
def insertMembers : Store → List HostedMember → Result Store
  | st, [] => .ok st
  | st, row :: rest => do
    let st ← insertMember st row
    insertMembers st rest

/-- The member rows of a new group: the creator as owner, then the initial members. -/
def createdMembers (settings : Settings) (ctx : GroupRequest) (groupDid now : String)
    (creator : Option VerifiedHandleBinding) (prepared : List PreparedMember) :
    List HostedMember :=
  { groupDid := groupDid, agentDid := ctx.senderDid, memberHandle := creator.map (·.handle),
    handleBindingGeneration := creator.map (·.bindingGeneration),
    homeServiceDid := some settings.serviceDid, role := .owner, status := .active,
    joinedAt := now, endedAt := none, addedBy := none } ::
  prepared.map fun p ↦
    { groupDid := groupDid, agentDid := p.did, memberHandle := p.handle,
      handleBindingGeneration := p.generation, homeServiceDid := some p.homeServiceDid,
      role := p.role, status := .active, joinedAt := now, endedAt := none,
      addedBy := some ctx.senderDid }

/-- The transaction of `hosted_group_create`. -/
def commitCreate (settings : Settings) (st : Store) (req : Request) (ctx : GroupRequest)
    (groupDid : String) (document profile policy : Obj) (keyPath : String)
    (creator : Option VerifiedHandleBinding) (prepared : List PreparedMember) :
    Result (Obj × Store) := do
  let now := req.outside.now
  let groups ← orRaise (.integrity "hosted_groups")
    (Table.insert? HostedGroup.groupDid
      { groupDid := groupDid, hostServiceDid := settings.serviceDid, creatorDid := ctx.senderDid,
        profile := profile, policy := policy, groupStateVersion := 1, groupEventSeq := 1,
        createdAt := now, updatedAt := now, wireProfile := ctx.profile, protocolState := .active }
      st.hostedGroups)
  let st := { st with hostedGroups := groups, issued := st.issued + 1 }
  let st ← insertMembers st (createdMembers settings ctx groupDid now creator prepared)
  let documents ← orRaise (.integrity "group_did_documents")
    (Table.insert? GroupDidDocument.groupDid
      { groupDid := groupDid, document := document, keyReference := keyPath, createdAt := now }
      st.groupDidDocuments)
  let didDocuments ← orRaise (.integrity "did_documents")
    (Table.insert? DidDocument.did
      { did := groupDid, document := .obj document, documentVersion := 1, updatedAt := now,
        status := .active, revokedAt := none }
      st.didDocuments)
  let st := { st with groupDidDocuments := documents, didDocuments := didDocuments }
  let receipt ← signedReceipt st req ctx groupDid 1 1 now none
  let result : Obj :=
    [("group_did", .str groupDid), ("group_state_version", .str "1"),
      ("group_event_seq", .str "1"), ("created_at", .str now), ("creator_did", .str ctx.senderDid),
      ("group_profile", .obj profile), ("group_policy", .obj policy),
      ("group_receipt", .obj receipt)] ++
      (match creator with
      | some b => [("creator_handle", .str b.handle),
          ("handle_binding_generation", .str b.bindingGeneration)]
      | none => [])
  let st ← writeEvent st ctx groupDid 1 1 "group-created"
    [("group_did", .str groupDid), ("creator_did", .str ctx.senderDid)] receipt now
  let (result, st) ← storeOperation st ctx settings.serviceDid result now
  let st := syncActiveMembers st groupDid "group.created" [("group_did", .str groupDid)] now
  return (result, refreshHostedLocalProjections settings st groupDid now)

/-- `hosted_group_create`. The request is checked against `seen`; the idempotency key is looked up
again, in `replayed`, before the transaction on `st` begins. -/
def hostedGroupCreate (settings : Settings) (seen replayed st : Store) (req : Request)
    (params : Obj) : Result (Obj × Store) := do
  let ctx ← requestContext settings seen req params .create "service"
  require (ctx.targetDid = settings.serviceDid) (.invalidParams "group.target_service_mismatch")
  require (req.surface ≠ .publicRpc && didBelongsToDomain ctx.senderDid settings.didDomain)
    (.unauthorized "group.remote_create_not_allowed")
  let profile ← validateProfile (ctx.body.getD "group_profile" (.obj []))
  let policy ← validatePolicy (ctx.body.get "group_policy")
  let initial ← orRaise (.invalidParams "group.initial_members_invalid")
    (ctx.body.getD "initial_members" (.arr [])).arr?
  let creator ← resolveHandleField settings seen req (ctx.body.get "creator_handle")
    "group.creator_handle_invalid"
  require (creator.all fun b ↦ b.did = ctx.senderDid)
    (.unauthorized "group.creator_handle_did_mismatch")
  let prepared ← prepareMembers settings seen req initial [ctx.senderDid]
    (creator.map (·.handle)).toList
  let limit ← policyMaxMembers policy
  require (decide ((prepared.length : ℤ) + 1 ≤ limit))
    (.invalidParams "group.max_members_exceeded")
  match ← operationReplay seen ctx settings.serviceDid with
  | some replay => return (replay, st)
  | none =>
    let groupId := newId "grp" st.issued
    let (groupDid, document) ← req.outside.generateGroupIdentity settings.didDomain groupId
      settings.anpServiceEndpoint settings.serviceDid ctx.profile
    let keyPath ← req.outside.persistGroupPrivateKey groupId
    match ← operationReplay replayed ctx settings.serviceDid with
    | some replay => return (replay, st)
    | none =>
      commitCreate settings st req ctx groupDid document profile policy keyPath creator prepared

/-! ### Joining and adding -/

/-- What the first phase of a join or an add determines. -/
structure Admission where
  targetDid : String
  role : Role
  addedBy : Option String
  binding : Option VerifiedHandleBinding

/-- Who may join, and who may add. -/
def requireAdmission (st : Store) (ctx : GroupRequest) (group : HostedGroup) : Result Unit :=
  if ctx.method = .join then requireOpenJoin group
  else do
    let actor ← activeMember st group.groupDid ctx.senderDid
    requirePermission group actor "add"

/-- The first phase of `_membership_mutation`, after the replay check. -/
def admissionOf (settings : Settings) (seen : Store) (req : Request) (ctx : GroupRequest)
    (group : HostedGroup) : Result Admission :=
  if ctx.method = .join then do
    requireAdmission seen ctx group
    let binding ← resolveHandleField settings seen req (ctx.body.get "member_handle")
      "group.member_handle_invalid"
    require (binding.all fun b ↦ b.did = ctx.senderDid) (.unauthorized "group.handle_did_mismatch")
    return { targetDid := ctx.senderDid, role := .member, addedBy := none, binding := binding }
  else do
    requireAdmission seen ctx group
    require ((ctx.body.get "member_did").isNull != (ctx.body.get "member_handle").isNull)
      (.invalidParams "group.member_identifier_ambiguous")
    let binding ← resolveHandleField settings seen req (ctx.body.get "member_handle")
      "group.member_handle_invalid"
    let targetDid ← memberDidOf binding (ctx.body.get "member_did")
    let role ← requireRole (ctx.body.getD "role" (.str "member"))
      (.invalidParams "group.role_invalid")
    return { targetDid := targetDid, role := role, addedBy := some ctx.senderDid,
             binding := binding }

/-- The state change a join or an add announces. -/
def activation (group : HostedGroup) (a : Admission) : StateChange where
  eventType := "member-activated"
  syncEventType := "group.member.activated"
  resultFields :=
    [("member_did", .str a.targetDid), ("membership_status", .str "active"),
      ("role", .str a.role.text)] ++
      (match a.binding with
      | some b => [("member_handle", .str b.handle),
          ("handle_binding_generation", .str b.bindingGeneration)]
      | none => [])
  eventFields :=
    [("subject_did", .str a.targetDid), ("membership_status", .str "active"),
      ("role", .str a.role.text), ("group_profile", .obj group.profile),
      ("group_policy", .obj group.policy)] ++
      (match a.binding with
      | some b => [("subject_handle", .str b.handle),
          ("handle_binding_generation", .str b.bindingGeneration)]
      | none => [])

/-- The member row a join or an add writes. -/
def admittedMember (groupDid home now : String) (a : Admission) : HostedMember where
  groupDid := groupDid
  agentDid := a.targetDid
  memberHandle := a.binding.map (·.handle)
  handleBindingGeneration := a.binding.map (·.bindingGeneration)
  homeServiceDid := some home
  role := a.role
  status := .active
  joinedAt := now
  endedAt := none
  addedBy := a.addedBy

/-- The second phase of `_membership_mutation`: everything is checked again under the lock. -/
def commitMembership (settings : Settings) (st : Store) (req : Request) (ctx : GroupRequest)
    (a : Admission) (home : String) : Result (Obj × Store) := do
  let group ← groupRow st ctx.targetDid (some ctx.profile) true
  match ← operationReplay st ctx group.groupDid with
  | some replay => return (replay, st)
  | none =>
    requireAdmission st ctx group
    require ((st.hostedMember? group.groupDid a.targetDid).all fun m ↦ decide (m.status ≠ .active))
      (.conflict "group.member_already_active")
    let limit ← policyMaxMembers group.policy
    require (decide (((st.activeMembers group.groupDid).length : ℤ) < limit))
      (.invalidParams "group.max_members_exceeded")
    let row := admittedMember group.groupDid home req.outside.now a
    require (handleFree st group.groupDid a.targetDid row.memberHandle)
      (.integrity "hosted_group_members.member_handle")
    let st := { st with
      hostedGroupMembers := Table.upsert HostedMember.key row (fun _ ↦ row) st.hostedGroupMembers }
    ensureOutboxCapacity settings st group.groupDid true
    acceptStateChange settings st req ctx group (activation group a)

/-- `_membership_mutation`, for `group.join` and `group.add`. -/
def membershipMutation (settings : Settings) (seen st : Store) (req : Request) (params : Obj)
    (method : GroupMethod) : Result (Obj × Store) := do
  let ctx ← requestContext settings seen req params method "group"
  let group ← groupRow seen ctx.targetDid (some ctx.profile) true
  match ← operationReplay seen ctx ctx.targetDid with
  | some replay => return (replay, st)
  | none =>
    let a ← admissionOf settings seen req ctx group
    let home ← homeServiceDid settings req a.targetDid
    commitMembership settings st req ctx a home

/-! ### Leaving and removing -/

/-- The state change a leave or a removal announces. -/
def departure (method : GroupMethod) (targetDid : String) : StateChange where
  eventType := if method = .leave then "member-left" else "member-removed"
  syncEventType := if method = .leave then "group.member-left" else "group.member-removed"
  resultFields :=
    if method = .leave then [("leaver_did", .str targetDid)]
    else [("member_did", .str targetDid), ("membership_status", .str "removed")]
  eventFields :=
    [("subject_did", .str targetDid),
      ("membership_status", .str (if method = .leave then "left" else "removed"))]
  departed := some targetDid

/-- The member whose membership a leave or a removal ends. -/
def departingDid (st : Store) (ctx : GroupRequest) (group : HostedGroup) : Result String := do
  let actor ← activeMember st group.groupDid ctx.senderDid
  if ctx.method = .leave then return ctx.senderDid
  else
    requirePermission group actor "remove"
    let targetDid ← requireText (ctx.body.get "member_did") "group.member_did_required"
    let _ ← activeMember st group.groupDid targetDid
    return targetDid

/-- `UPDATE hosted_group_members SET status = ?, ended_at = ?`. -/
def endMember (st : Store) (groupDid targetDid : String) (status : MemberStatus) (now : String) :
    Store :=
  { st with
    hostedGroupMembers := Table.updateWhere (fun m ↦ decide (m.key = (groupDid, targetDid)))
      (fun m ↦ { m with status := status, endedAt := some now }) st.hostedGroupMembers }

/-- `_end_membership`, for `group.leave` and `group.remove`. The capacity of the outbox is checked
before the update in version 2, where the departed member is still notified, and after it in
version 1. -/
def endMembership (settings : Settings) (seen st : Store) (req : Request) (params : Obj)
    (method : GroupMethod) : Result (Obj × Store) := do
  let ctx ← requestContext settings seen req params method "group"
  let group ← groupRow st ctx.targetDid (some ctx.profile) true
  match ← operationReplay st ctx group.groupDid with
  | some replay => return (replay, st)
  | none =>
    let targetDid ← departingDid st ctx group
    let ended := endMember st group.groupDid targetDid
      (if method = .leave then .left else .removed) req.outside.now
    ensureOutboxCapacity settings (if ctx.profile = .v2 then st else ended) group.groupDid true
    acceptStateChange settings ended req ctx group (departure method targetDid)

/-! ### Rebinding a Handle to a new DID -/

/-- The state change a rebind announces. -/
def rebinding (binding : VerifiedHandleBinding) (previousDid newDid : String) : StateChange where
  eventType := "member-credential-rebound"
  syncEventType := "group.member.credential_rebound"
  resultFields :=
    [("member_handle", .str binding.handle), ("previous_member_did", .str previousDid),
      ("member_did", .str newDid), ("handle_binding_generation", .str binding.bindingGeneration),
      ("membership_status", .str "active")]
  eventFields :=
    [("subject_handle", .str binding.handle), ("previous_subject_did", .str previousDid),
      ("subject_did", .str newDid), ("handle_binding_generation", .str binding.bindingGeneration),
      ("membership_status", .str "active")]

/-- The rows after the rebinding `UPDATE`. -/
def rebindMember (groupDid previousDid newDid home : String) (binding : VerifiedHandleBinding) :
    List HostedMember → List HostedMember :=
  Table.updateWhere
    (fun m ↦ decide (m.groupDid = groupDid ∧ m.memberHandle = some binding.handle ∧
      m.agentDid = previousDid ∧ m.status = .active))
    (fun m ↦ { m with
      agentDid := newDid, handleBindingGeneration := some binding.bindingGeneration,
      homeServiceDid := some home })

/-- `hosted_group_rebind_member`. -/
def hostedGroupRebindMember (settings : Settings) (seen st : Store) (req : Request)
    (params : Obj) : Result (Obj × Store) := do
  let ctx ← requestContext settings seen req params .rebindMember "group"
  let memberHandle ← requireText (ctx.body.get "member_handle") "group.member_handle_required"
  let previousDid ← requireText (ctx.body.get "previous_member_did")
    "group.previous_member_did_required"
  let newDid ← requireText (ctx.body.get "new_member_did") "group.new_member_did_required"
  let generation ← requireText (ctx.body.get "handle_binding_generation")
    "group.handle_binding_generation_required"
  require (ctx.senderDid = newDid) (.unauthorized "group.rebind_sender_mismatch")
  let binding ← resolveHandle settings seen req memberHandle
  require (binding.did = newDid) (.unauthorized "group.handle_did_mismatch")
  require (binding.bindingGeneration = generation)
    (.invalidParams "group.binding_generation_mismatch")
  let home ← homeServiceDid settings req newDid
  let group ← groupRow st ctx.targetDid (some ctx.profile) true
  match ← operationReplay st ctx group.groupDid with
  | some replay => return (replay, st)
  | none =>
    let member ← orRaise (.notFound "group.handle_member_not_found")
      ((st.hostedMember? group.groupDid previousDid).filter fun m ↦
        decide (m.memberHandle = some binding.handle ∧ m.status = .active))
    let previous ← orRaise (.invalidParams "group.did_only_member_cannot_rebind")
      member.handleBindingGeneration
    let newer ← req.outside.bindingGenerationIsNewer binding.bindingGeneration previous
    require newer (.conflict "group.binding_generation_not_advanced")
    require ((st.hostedMember? group.groupDid newDid).all fun m ↦ decide (m.status ≠ .active))
      (.conflict "group.rebind_target_already_member")
    -- An ended membership of the new DID still holds the primary key.
    require (st.hostedMember? group.groupDid newDid).isNone (.integrity "hosted_group_members")
    let st := { st with
      hostedGroupMembers := rebindMember group.groupDid previousDid newDid home binding
        st.hostedGroupMembers }
    ensureOutboxCapacity settings st group.groupDid true
    acceptStateChange settings st req ctx group (rebinding binding previousDid newDid)

/-! ### Updating the profile or the policy -/

/-- The state change an update announces. -/
def groupUpdate (method : GroupMethod) (value : Obj) : StateChange :=
  if method = .updateProfile then
    { eventType := "group-profile-updated", syncEventType := "group.group-profile-updated",
      resultFields := [("group_profile", .obj value)],
      eventFields := [("group_profile", .obj value)],
      update := fun g ↦ { g with profile := value } }
  else
    { eventType := "group-policy-updated", syncEventType := "group.group-policy-updated",
      resultFields := [("group_policy", .obj value)],
      eventFields := [("group_policy", .obj value)],
      update := fun g ↦ { g with policy := value } }

/-- The patched and validated profile or policy. -/
def patchedValue (method : GroupMethod) (group : HostedGroup) (patch : Obj) : Result Obj :=
  if method = .updateProfile then
    validateProfile (mergePatch (.obj group.profile) (.obj patch))
  else validatePolicy (mergePatch (.obj group.policy) (.obj patch))

/-- `_update_group`, for `group.update_profile` and `group.update_policy`. -/
def updateGroup (settings : Settings) (seen st : Store) (req : Request) (params : Obj)
    (method : GroupMethod) : Result (Obj × Store) := do
  let ctx ← requestContext settings seen req params method "group"
  let patchKey := if method = .updateProfile then "group_profile_patch" else "group_policy_patch"
  let patch ← orRaise (.invalidParams ("group." ++ patchKey ++ "_required"))
    (ctx.body.get patchKey).obj?
  let group ← groupRow st ctx.targetDid (some ctx.profile) true
  match ← operationReplay st ctx group.groupDid with
  | some replay => return (replay, st)
  | none =>
    let member ← activeMember st group.groupDid ctx.senderDid
    requirePermission group member
      (if method = .updateProfile then "update_profile" else "update_policy")
    ensureOutboxCapacity settings st group.groupDid true
    let value ← patchedValue method group patch
    acceptStateChange settings st req ctx group (groupUpdate method value)

/-! ### Sending a message -/

/-- The checks of `hosted_group_send` on the message itself. -/
def checkMessage (settings : Settings) (req : Request) (body : Obj) (contentType : String) :
    Result Unit := do
  require ((["text", "payload", "payload_b64u"].filter fun k ↦ body.has k).length = 1)
    (.invalidParams "group.message_content_required")
  require (contentType ≠ "text/plain" || (body.get "text").str?.isSome)
    (.invalidParams "message_body_text_required")
  require
    (!(["application/json", "application/anp-attachment-manifest+json"].contains contentType) ||
      (body.get "payload").obj?.isSome)
    (.invalidParams "message_body_payload_object_required")
  let size ← req.outside.canonicalSize body
  require (decide (size ≤ settings.groupMaxMessageBytes))
    (.invalidParams "group.message_too_large" [("limit", .int settings.groupMaxMessageBytes)])

/-- The sync payload of a stored message. -/
def messageCreated (groupDid messageId senderDid contentType : String) (eventSeq : ℤ) : Obj :=
  [("thread_kind", .str "group"),
    ("thread", .obj [("kind", .str "group"), ("group_did", .str groupDid)]),
    ("message", .obj
      [("id", .str (groupDid ++ ":" ++ toString eventSeq)), ("message_id", .str messageId),
        ("server_seq", .str (toString eventSeq)), ("group_event_seq", .str (toString eventSeq)),
        ("group_did", .str groupDid), ("sender_did", .str senderDid),
        ("content_type", .str contentType)])]

/-- The projected message of a local member. -/
def hostedMessageView (ctx : GroupRequest) (groupDid messageId contentType acceptedAt : String)
    (stateVersion eventSeq : ℕ) (receipt : Obj) (wireProfile : WireProfile) (ownerDid : String) :
    GroupMessageView where
  ownerDid := ownerDid
  groupDid := groupDid
  messageId := messageId
  groupEventSeq := eventSeq
  groupStateVersion := stateVersion
  senderDid := ctx.senderDid
  operationId := ctx.operationId
  contentType := contentType
  body := ctx.body
  receipt := receipt
  acceptedAt := acceptedAt
  wireProfile := wireProfile

/-- The accepting part of `hosted_group_send`: **only the event counter advances**. -/
def acceptMessage (settings : Settings) (st : Store) (req : Request) (ctx : GroupRequest)
    (group : HostedGroup) (messageId contentType : String) : Result (Obj × Store) := do
  let now := req.outside.now
  let groupDid := group.groupDid
  let stateVersion := group.groupStateVersion
  let eventSeq := group.groupEventSeq + 1
  let st := writeHead st groupDid id stateVersion eventSeq now
  let receipt ← signedReceipt st req ctx groupDid stateVersion eventSeq now (some messageId)
  require (st.hostedGroupMessages.all fun m ↦
      decide (m.messageId ≠ messageId ∧ (m.groupDid, m.groupEventSeq) ≠ (groupDid, eventSeq)))
    (.integrity "hosted_group_messages")
  let st := { st with
    hostedGroupMessages := st.hostedGroupMessages ++ [{
      messageId := messageId, groupDid := groupDid, groupEventSeq := eventSeq,
      senderDid := ctx.senderDid, operationId := ctx.operationId, body := ctx.body,
      contentType := contentType, originAuth := ctx.auth, receipt := receipt, createdAt := now,
      wireProfile := ctx.profile, metaJson := ctx.metaObj }] }
  let result : Obj :=
    [("accepted", .bool true), ("delivery_state", .str "accepted"),
      ("final_acceptance", .bool true), ("message_id", .str messageId),
      ("operation_id", .str ctx.operationId), ("group_did", .str groupDid),
      ("sender_did", .str ctx.senderDid), ("server_seq", .int eventSeq),
      ("group_event_seq", .str (toString eventSeq)),
      ("group_state_version", .str (toString stateVersion)), ("accepted_at", .str now),
      ("content_type", .str contentType), ("body", .obj ctx.body), ("group_receipt", .obj receipt)]
  let st ← writeEvent st ctx groupDid stateVersion eventSeq "group-message-created"
    [("group_did", .str groupDid), ("message_id", .str messageId),
      ("sender_did", .str ctx.senderDid), ("group_event_seq", .str (toString eventSeq))]
    receipt now
  let (result, st) ← storeOperation st ctx groupDid result now
  let st := refreshHostedLocalProjections settings st groupDid now
  let st := projectHostedMessageForLocalMembers settings st groupDid
    (hostedMessageView ctx groupDid messageId contentType now stateVersion eventSeq receipt
      group.wireProfile)
  let st := enqueueIncomingMessage settings st groupDid stateVersion eventSeq ctx.metaObj ctx.body
    ctx.auth receipt now
  return (result, syncActiveMembers st groupDid "group.message.created"
    (messageCreated groupDid messageId ctx.senderDid contentType eventSeq) now)

/-- `hosted_group_send`. -/
def hostedGroupSend (settings : Settings) (seen st : Store) (req : Request) (params : Obj) :
    Result (Obj × Store) := do
  let ctx ← requestContext settings seen req params .send "group"
  let messageId ← requireText (ctx.metaObj.get "message_id") "anp_meta_message_id_required"
  let contentType ← requireText (ctx.metaObj.get "content_type") "anp_meta_content_type_required"
  checkMessage settings req ctx.body contentType
  let group ← groupRow st ctx.targetDid (some ctx.profile) true
  match ← operationReplay st ctx group.groupDid with
  | some replay => return (replay, st)
  | none =>
    let member ← activeMember st group.groupDid ctx.senderDid
    requirePermission group member "send"
    ensureOutboxCapacity settings st group.groupDid false
    require (st.hostedGroupMessages.all fun m ↦ decide (m.messageId ≠ messageId))
      (.conflict "message_id_conflict" [("message_id", .str messageId)])
    acceptMessage settings st req ctx group messageId contentType

/-! ### Dispatch -/

/-- A call of a hosted operation. `seen` and `replayed` are the stores its unlocked reads saw. -/
structure HostedCall where
  method : GroupMethod
  req : Request
  params : Obj
  seen : Store
  replayed : Store

/-- One hosted operation against the store. -/
def hostedCall (settings : Settings) (st : Store) (call : HostedCall) : Result (Obj × Store) :=
  match call.method with
  | .create => hostedGroupCreate settings call.seen call.replayed st call.req call.params
  | .join => membershipMutation settings call.seen st call.req call.params .join
  | .add => membershipMutation settings call.seen st call.req call.params .add
  | .remove => endMembership settings call.seen st call.req call.params .remove
  | .leave => endMembership settings call.seen st call.req call.params .leave
  | .rebindMember => hostedGroupRebindMember settings call.seen st call.req call.params
  | .updateProfile => updateGroup settings call.seen st call.req call.params .updateProfile
  | .updatePolicy => updateGroup settings call.seen st call.req call.params .updatePolicy
  | .send => hostedGroupSend settings call.seen st call.req call.params
  | _ => .error { kind := .methodNotFound, message := "method_not_found" }

/-! ### Sample calls -/

/-- Parameters of a version 2 request, as the dispatcher hands them on. -/
def sampleParams (senderDid operationId targetKind targetDid : String) (extraMeta body : Obj) :
    Obj :=
  [("_anp_meta", .obj ([("profile", .str "anp.group.base.v2"),
      ("security_profile", .str "transport-protected"), ("sender_did", .str senderDid),
      ("operation_id", .str operationId),
      ("target", .obj [("kind", .str targetKind), ("did", .str targetDid)])] ++ extraMeta)),
    ("_anp_auth", .obj sampleAuth), ("_anp_body", .obj body)]

/-- A call of a local user against a store it has also read before. -/
def callAs (did : String) (method : GroupMethod) (params : Obj) (seen : Store) : HostedCall where
  method := method
  req := { surface := .localRpc, credentials := .bearer did, outside := .honest }
  params := params
  seen := seen
  replayed := seen

/-- Alice creates a group with these initial members. -/
def sampleCreate (initialMembers : List Json) : HostedCall :=
  callAs alice .create
    (sampleParams alice "op-create" "service" "did:wba:host.example" []
      [("group_profile", .obj [("display_name", .str "sample")]), ("group_policy", .obj []),
        ("initial_members", .arr initialMembers)])
    {}

/-- The group she gets. -/
def sampleGroup : String := "did:wba:host.example:groups:grp_0"

/-- Alice adds Bob. -/
def sampleAdd (seen : Store) : HostedCall :=
  callAs alice .add
    (sampleParams alice "op-add" "group" sampleGroup [] [("member_did", .str bob)]) seen

/-- Alice sends a message with this body. -/
def sampleSend (body : Obj) (seen : Store) : HostedCall :=
  callAs alice .send
    (sampleParams alice "op-send" "group" sampleGroup
      [("message_id", .str "msg-1"), ("content_type", .str "text/plain")] body)
    seen

end Awiki
