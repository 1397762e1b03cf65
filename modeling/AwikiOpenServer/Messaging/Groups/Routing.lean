import AwikiOpenServer.Messaging.Groups.Inbound

/-!
# Commands to a remote Host, and roster reads

A member's command on a remote group is forwarded to the Host. Its answer must carry a verified
receipt for exactly that command (`validateRemoteReceipt`); when the command ended a membership, the
Home applies the answer to its projection at once (`applyTerminalProjection`), without waiting for
the notification, and keeps the answer so that the late notification can be recognized.

A roster read replaces the projection from a snapshot of the Host, after its shape has been checked
(`validatedMemberSnapshot`). The HTTP exchange itself is not modelled: the Host's answer is an
argument.

## The answer is an argument

A command is verified and sent, and then the transaction that applies its answer begins. Whatever
happened in between, the Home knows the command and the answer, and reads its projection again; so
the transaction is a function of the store it finds, the command and the answer, and the results
about it quantify over all of these. What an honest Host would answer is a hypothesis where it is
needed, and stated there.

## Two versions

Answers of version 2 are kept, under the operation id of the command, in the same table in which a
Host keeps the results of its own operations; those of version 1 are not. A leave or a removal ends
the view of the member, a rebind moves what the previous DID had (`applyRebind`). An answer that is
behind the projection is not applied, by its sequence number.

Every check of a receipt fails with the same error, so a Host that answers wrongly learns nothing of
which check it was.
-/

namespace Awiki

open Py

/-- The methods whose answer carries a receipt. -/
def MUTATING_GROUP_METHODS : List GroupMethod :=
  [.join, .add, .remove, .leave, .rebindMember, .updateProfile, .updatePolicy, .send]

/-- A command as `forward_group_command` sends it. -/
structure ForwardedCommand where
  method : GroupMethod
  metaObj : Obj
  body : Obj
  auth : Json
  senderDid : String
  groupDid : String
  operationId : String

/-! ### The answer of the Host -/

/-- The checks on a version 2 answer beyond those of its receipt. -/
def validateV2Answer (c : ForwardedCommand) (result receipt : Obj) : Bool :=
  (result.get "accepted").isTrue &&
    (!result.has "final_acceptance" || (result.get "final_acceptance").isTrue) &&
    (result.get "group_did").isStr c.groupDid &&
    Json.same (result.get "operation_id") (c.metaObj.get "operation_id") &&
    Json.same (result.get "group_event_seq") (receipt.get "group_event_seq") &&
    Json.same (receipt.get "actor_did") (c.metaObj.get "sender_did") &&
    (!(c.method = .add || c.method = .remove) || (c.body.get "member_did").isNull ||
      Json.same (result.get "member_did") (c.body.get "member_did")) &&
    (c.method ≠ .leave || Json.same (result.get "leaver_did") (c.metaObj.get "sender_did"))

/-- `_validate_remote_receipt`: every failed check is the same error. -/
def validateRemoteReceipt (st : Store) (req : Request) (c : ForwardedCommand) (result : Obj) :
    Result Obj := do
  let receipt ← orRaise (.invalidParams "group.invalid_group_receipt")
    (result.get "group_receipt").obj?
  require (!(c.metaObj.get "profile").isStr WireProfile.v2.text ||
      validateV2Answer c result receipt)
    (.invalidParams "group.invalid_group_receipt")
  require ((Obj.get receipt "group_did").isStr c.groupDid &&
      (Obj.get receipt "subject_method").isStr c.method.text &&
      Json.same (Obj.get receipt "operation_id") (c.metaObj.get "operation_id") &&
      Json.same (Obj.get receipt "group_state_version") (result.get "group_state_version") &&
      (!result.has "group_event_seq" ||
        Json.same (Obj.get receipt "group_event_seq") (result.get "group_event_seq")) &&
      (c.method ≠ .send || Json.same (Obj.get receipt "message_id") (result.get "message_id")))
    (.invalidParams "group.invalid_group_receipt")
  let auth ← orRaise (.invalidParams "group.invalid_group_receipt") c.auth.obj?
  let proof ← orRaise (.invalidParams "group.invalid_group_receipt")
    (Obj.get auth "origin_proof").obj?
  require (Json.same (Obj.get receipt "payload_digest") (Obj.get proof "contentDigest"))
    (.invalidParams "group.invalid_group_receipt")
  let document ← resolveDidDocumentForProof st req c.groupDid
  require (req.outside.verifyGroupReceipt receipt document)
    (.invalidParams "group.invalid_group_receipt")
  return receipt

/-! ### A membership that ended -/

/-- Keep the answer of a version 2 leave or removal under its operation id. -/
def recordForwarded (st : Store) (req : Request) (c : ForwardedCommand) (result receipt : Obj) :
    Result Store := do
  let digest ← orRaise (.key "payload_digest") (receipt.lookup "payload_digest")
  match Table.row? GroupOperation.key (c.senderDid, c.groupDid, c.method, c.operationId)
      st.groupOperations with
  | some prior =>
    require (digest.isStr prior.payloadDigest && prior.wireProfile = .v2 &&
        Json.same (prior.result.get "group_receipt") (.obj receipt))
      (.conflict "group.remote_operation_receipt_conflict")
    return st
  | none =>
    let payloadDigest ← bindTextNotNull req.outside.reprFloat digest
    let acceptedAt ← orRaise (.key "accepted_at") (receipt.lookup "accepted_at")
    let createdAt ← bindTextNotNull req.outside.reprFloat acceptedAt
    return { st with
      groupOperations := st.groupOperations ++ [{
        senderDid := c.senderDid, groupScope := c.groupDid, method := c.method,
        operationId := c.operationId, payloadDigest := payloadDigest, result := result,
        createdAt := createdAt, wireProfile := .v2 }] }

/-- The view a terminal answer ends, at the answer's version pair. -/
def endedView (status : ViewStatus) (stateVersion eventSeq : ℤ) (updatedAt : String)
    (v : GroupView) : GroupView :=
  { v with
    membershipStatus := status
    groupStateVersion := stateVersion
    groupEventSeq := eventSeq
    updatedAt := updatedAt }

/-- `UPDATE group_views SET membership_status = … WHERE … AND group_event_seq <= ?`. -/
def endView (st : Store) (ownerDid groupDid : String) (status : ViewStatus)
    (stateVersion eventSeq : ℤ) (updatedAt : Option String) : Result Store :=
  match st.groupView? ownerDid groupDid with
  | some v =>
    if v.groupEventSeq ≤ eventSeq then do
      let updatedAt ← orRaise (.integrity "NOT NULL constraint failed") updatedAt
      return { st with
        groupViews := Table.updateWhere (fun r ↦ decide (r.key = (ownerDid, groupDid)))
          (endedView status stateVersion eventSeq updatedAt) st.groupViews }
    else .ok st
  | none => .ok st

/-- The view of a rebound member moves to its new DID; the primary key must be free. -/
def moveView (st : Store) (previousDid newDid groupDid : String) (updatedAt : Option String) :
    Result Store :=
  match st.groupView? previousDid groupDid with
  | some _ => do
    let updatedAt ← orRaise (.integrity "NOT NULL constraint failed") updatedAt
    require (previousDid = newDid || (st.groupView? newDid groupDid).isNone)
      (.integrity "group_views")
    return { st with
      groupViews := Table.updateWhere (fun r ↦ decide (r.key = (previousDid, groupDid)))
        (fun r ↦ { r with ownerDid := newDid, updatedAt := updatedAt }) st.groupViews }
  | none => .ok st

/-- The roster of a rebound member moves with it. -/
def moveMemberViews (st : Store) (previousDid newDid groupDid : String) : Result Store := do
  require (previousDid = newDid || st.groupMemberViews.all fun r ↦
      !decide (r.ownerDid = previousDid ∧ r.groupDid = groupDid ∧
        (Table.row? GroupMemberView.key (newDid, groupDid, r.agentDid)
          st.groupMemberViews).isSome = true))
    (.integrity "group_member_views")
  return { st with
    groupMemberViews := Table.updateWhere
      (fun r ↦ decide (r.ownerDid = previousDid ∧ r.groupDid = groupDid))
      (fun r ↦ { r with ownerDid := newDid }) st.groupMemberViews }

/-- So do the messages. -/
def moveMessageViews (st : Store) (previousDid newDid groupDid : String) : Result Store := do
  require (previousDid = newDid || st.groupMessageViews.all fun r ↦
      !decide (r.ownerDid = previousDid ∧ r.groupDid = groupDid) ||
        st.groupMessageViews.all fun r' ↦
          !decide (r'.ownerDid = newDid ∧ r'.groupDid = groupDid ∧
            (r'.messageId = r.messageId ∨ r'.groupEventSeq = r.groupEventSeq)))
    (.integrity "group_message_views")
  return { st with
    groupMessageViews := Table.updateWhere
      (fun r ↦ decide (r.ownerDid = previousDid ∧ r.groupDid = groupDid))
      (fun r ↦ { r with ownerDid := newDid }) st.groupMessageViews }

/-- The version pair of an answer; the receipt's sequence number stands in for a missing one. -/
def answerPair (result receipt : Obj) : Result (ℤ × ℤ) := do
  let stateVersion ← intOrRaise (result.get "group_state_version")
  let eventSeq ← intOrRaise ((result.get "group_event_seq").orElse (receipt.get "group_event_seq"))
  return (stateVersion, eventSeq)

/-- `result["group_receipt"]["accepted_at"]`, bound to a text column. -/
def boundAcceptedAt (req : Request) (receipt : Obj) : Result (Option String) := do
  let acceptedAt ← orRaise (.key "accepted_at") (receipt.lookup "accepted_at")
  bindText req.outside.reprFloat acceptedAt

/-- The rebinding part of `_apply_terminal_projection`. -/
def applyRebind (st : Store) (req : Request) (c : ForwardedCommand) (result receipt : Obj) :
    Result Store :=
  let previousDid := req.outside.str
    ((result.get "previous_member_did").orElse
      ((c.body.get "previous_member_did").orElse (.str "")))
  let newDid := req.outside.str
    ((result.get "member_did").orElse ((c.body.get "new_member_did").orElse (.str "")))
  if previousDid ≠ "" ∧ newDid ≠ "" then do
    let updatedAt ← boundAcceptedAt req receipt
    let st ← moveView st previousDid newDid c.groupDid updatedAt
    let st ← moveMemberViews st previousDid newDid c.groupDid
    moveMessageViews st previousDid newDid c.groupDid
  else .ok st

/-- The part of `_apply_terminal_projection` that ends a membership. -/
def applyEnding (settings : Settings) (st : Store) (req : Request) (c : ForwardedCommand)
    (result receipt : Obj) : Result Store :=
  if c.method = .leave then do
    let targetDid := req.outside.str ((result.get "leaver_did").orElse (.str c.senderDid))
    let (stateVersion, eventSeq) ← answerPair result receipt
    let updatedAt ← boundAcceptedAt req receipt
    endView st targetDid c.groupDid .left stateVersion eventSeq updatedAt
  else
    let targetDid := req.outside.str
      ((result.get "member_did").orElse ((c.body.get "member_did").orElse (.str "")))
    if targetDid ≠ "" ∧ didBelongsToDomain targetDid settings.didDomain then do
      let (stateVersion, eventSeq) ← answerPair result receipt
      let updatedAt ← boundAcceptedAt req receipt
      endView st targetDid c.groupDid .removed stateVersion eventSeq updatedAt
    else .ok st

/-- Version 2 answers are kept; version 1 answers are not. -/
def recordIfV2 (st : Store) (req : Request) (c : ForwardedCommand) (result receipt : Obj) :
    Result Store :=
  if (c.metaObj.get "profile").isStr WireProfile.v2.text then recordForwarded st req c result
    receipt
  else .ok st

/-- `_apply_terminal_projection`. -/
def applyTerminalProjection (settings : Settings) (st : Store) (req : Request)
    (c : ForwardedCommand) (result receipt : Obj) : Result Store :=
  if c.method = .leave ∨ c.method = .remove then do
    let st ← recordIfV2 st req c result receipt
    applyEnding settings st req c result receipt
  else if c.method = .rebindMember then applyRebind st req c result receipt
  else .ok st

/-- The command `forward_group_command` makes of a request. -/
def forwardedCommand (settings : Settings) (req : Request) (params : Obj) (method : GroupMethod) :
    Result ForwardedCommand := do
  require (req.surface = .localRpc) (.notFound "group.not_hosted")
  let metaObj ← orRaise (.unauthorized "missing_origin_proof") (params.get "_anp_meta").obj?
  let body ← orRaise (.unauthorized "missing_origin_proof") (params.get "_anp_body").obj?
  let senderDid ← orRaise (.unauthorized "sender_did_mismatch") (Obj.get metaObj "sender_did").str?
  let authenticated ← currentDid req true
  require (authenticated = some senderDid) (.unauthorized "sender_did_mismatch")
  let target ← orRaise (.invalidParams "anp_meta_target_kind_mismatch")
    (Obj.get metaObj "target").obj?
  require ((Obj.get target "kind").isStr "group") (.invalidParams "anp_meta_target_kind_mismatch")
  let groupDid ← requireNonEmpty (Obj.get target "did") "group_did_required"
  require (!didBelongsToDomain groupDid settings.didDomain) (.notFound "group.not_found")
  let service ← req.outside.discoverAnpService groupDid
  let declared ← discoveredGroupProfile service
  require ((Obj.get metaObj "profile").isStr declared.text)
    (.invalidParams "group.discovery_profile_mismatch")
  let _ ← requireNonEmpty (service.get "serviceEndpoint") "anp_service_endpoint_required"
  let operationId ← requireNonEmpty (Obj.get metaObj "operation_id")
    "anp_meta_operation_id_required"
  return { method, metaObj, body, auth := params.get "_anp_auth", senderDid, groupDid, operationId }

/-- `forward_group_command`, given the `result` member of the Host's answer. -/
def forwardGroupCommand (settings : Settings) (st : Store) (req : Request) (params : Obj)
    (method : GroupMethod) (result : Obj) : Result (Obj × Store) := do
  let c ← forwardedCommand settings req params method
  if method ∈ MUTATING_GROUP_METHODS then
    let receipt ← validateRemoteReceipt st req c result
    let st ← applyTerminalProjection settings st req c result receipt
    return (result, st)
  else return (result, st)

/-! ### Roster reads -/

/-- `isinstance(value, str) and value.isdigit()`. -/
def isDigitText (v : Json) : Bool :=
  match v with
  | .str s => isDigit s
  | _ => false

/-- The roster of a snapshot, normalized; `seen` are the members before. -/
def normalizedMembers : List Json → List String → Result (List Obj)
  | [], _ => .ok []
  | item :: rest, seen => do
    let m ← orRaise (.invalidParams "group.remote_snapshot_member_invalid") item.obj?
    let memberDid := Obj.getD m "member_did" (Obj.get m "agent_did")
    require ((Obj.get m "member_did").isNull || (Obj.get m "agent_did").isNull ||
        Json.same (Obj.get m "member_did") (Obj.get m "agent_did"))
      (.invalidParams "group.remote_snapshot_member_invalid")
    let did ← requireNonEmpty memberDid "group.remote_snapshot_member_invalid"
    require (!seen.contains did) (.invalidParams "group.remote_snapshot_member_invalid")
    let known ← inSet (Obj.get m "role") ["owner", "admin", "member"]
    require (known && (Obj.get m "status").isStr "active")
      (.invalidParams "group.remote_snapshot_member_invalid")
    let more ← normalizedMembers rest (did :: seen)
    return Obj.set m "member_did" (.str did) :: more

/-- `_validated_member_snapshot`. -/
def validatedMemberSnapshot (outside : Outside) (result : Obj)
    (groupDid ownerDid hostServiceDid : String) : Result Obj := do
  require ((result.get "group_did").isStr groupDid)
    (.invalidParams "group.remote_snapshot_identity_mismatch")
  require ((result.get "host_service_did").isNull ||
      (result.get "host_service_did").isStr hostServiceDid)
    (.invalidParams "group.remote_snapshot_identity_mismatch")
  require (isDigitText (result.get "group_state_version"))
    (.invalidParams "group.remote_snapshot_version_invalid"
      [("field", .str "group_state_version")])
  require ((result.get "group_event_seq").isNull || isDigitText (result.get "group_event_seq"))
    (.invalidParams "group.remote_snapshot_version_invalid" [("field", .str "group_event_seq")])
  let members ← orRaise (.invalidParams "group.remote_snapshot_member_list_required")
    (result.get "member_list").arr?
  let normalized ← normalizedMembers members []
  require (normalized.any fun m ↦ (m.get "member_did").isStr ownerDid)
    (.unauthorized "group.remote_snapshot_membership_required")
  require ((result.get "member_count").isNull ||
      outside.str (result.get "member_count") = toString normalized.length)
    (.conflict "group.remote_snapshot_member_count_mismatch")
  return (result.set "host_service_did" (.str hostServiceDid)).set "member_list"
    (.arr (normalized.map .obj))

/-- `refresh_remote_group_members`, given the `result` member of the Host's answer. -/
def refreshRemoteGroupMembers (st : Store) (req : Request) (groupDid : String) (result : Obj) :
    Result (Bool × Store) := do
  let authenticated ← currentDid req true
  let ownerDid ← orRaise (.unauthorized "missing_authentication") authenticated
  let service ← req.outside.discoverAnpService groupDid
  let _ ← requireNonEmpty (service.get "serviceEndpoint") "anp_service_endpoint_required"
  let hostServiceDid ← requireNonEmpty (service.get "serviceDid") "anp_service_did_required"
  let profile ← discoveredGroupProfile service
  let snapshot ← validatedMemberSnapshot req.outside result groupDid ownerDid hostServiceDid
  refreshRemoteMemberProjection st req.outside.reprFloat ownerDid snapshot profile req.outside.now

end Awiki
