import AwikiOpenServer.Messaging.Groups.Projection

/-!
# The Group Host

The nine operations on a hosted group. A request is first checked on its own (`requestContext`: the
envelope, the authenticated sender, the origin proof), then against the group, and is then accepted
in one transaction: the head counters advance, a signed receipt is issued, the event is appended to
the log, the result is stored under the operation id, members are told.

Every mutation but `group.create` and `group.send` ends in the same tail, `acceptStateChange`; the
source writes it out in each handler. A raised error rolls the transaction back, so an operation
returns either its result and the new store, or an error.

Join, add and create read the database before their transaction begins; that earlier store is a
parameter of its own.

## One tail for six handlers

The source repeats the accepting tail in every handler, with the same statements in the same order.
What differs from one to the next is a handful of values: the type of the event, its subject, the
fields it adds, the columns of the head it rewrites, the member that departs. `StateChange` is that
handful, and `acceptStateChange` the tail. Each handler in `Messaging/Groups/Operations.lean` builds
its own `StateChange`, so a reader can compare it with the source, value by value.

## Policies

`_validate_policy` checks and normalizes a policy in one pass and is the longest function of its
module. It is kept in one piece here; values of any type may stand anywhere in it, and comparing or
hashing them raises what Python raises. What comes of that is in `Messaging/Groups/Policies.lean`.

## Stored results

The result of an operation is stored before it is answered, and a repetition is answered with the
stored one (`operationReplay`), marked as a replay. The payload digest decides whether a request is
a repetition: under one key a different digest is refused.
-/

namespace Awiki

open Py

/-! ### Policies and profiles -/

/-- The most members a policy may allow. -/
def MAX_MEMBERS : ℤ := 100

/-- The keys of a policy. -/
def POLICY_KEYS : List String :=
  ["message_security_profile", "bootstrap_security_profile", "admission_mode", "permissions",
    "attachments_allowed", "max_members"]

/-- The keys of its permissions. -/
def PERMISSION_KEYS : List String := ["send", "add", "remove", "update_profile", "update_policy"]

/-- What a policy is filled up with. -/
def DEFAULT_POLICY : Obj :=
  [("message_security_profile", .str "transport-protected"),
    ("bootstrap_security_profile", .str "transport-protected"),
    ("admission_mode", .str "open-join"),
    ("permissions", .obj [("send", .str "member"), ("add", .str "admin"), ("remove", .str "admin"),
      ("update_profile", .str "admin"), ("update_policy", .str "owner")]),
    ("attachments_allowed", .bool false), ("max_members", .str "100")]

/-- `value not in ROLE_LEVEL`, as a check. -/
def requireRole (v : Json) (e : AwikiError) : Result Role :=
  if v.hashable then orRaise e (v.str?.bind Role.ofText?) else .error (.type "unhashable type")

/-- The keys of a dictionary, each once. -/
def dictKeys (o : Obj) : List String := (o.map Prod.fst).dedup

/-- `_validate_policy`. -/
def validatePolicy (value : Json) : Result Obj := do
  let given ← orRaise (.invalidParams "group.policy_required") value.obj?
  let extra := ((dictKeys given).filter fun k ↦ !POLICY_KEYS.contains k).insertionSort (· ≤ ·)
  require extra.isEmpty
    (.invalidParams "group.policy_fields_invalid" [("fields", .arr (extra.map .str))])
  let policy := Obj.merge DEFAULT_POLICY given
  require ((policy.get "message_security_profile").isStr "transport-protected" &&
      (policy.get "bootstrap_security_profile").isStr "transport-protected")
    (.invalidParams "group.security_profile_not_supported")
  let admission ← inSet (policy.get "admission_mode") ["open-join", "admin-add"]
  require admission (.invalidParams "group.admission_mode_invalid")
  let permissions ← orRaise (.invalidParams "group.permissions_invalid")
    (policy.get "permissions").obj?
  require ((dictKeys permissions).all PERMISSION_KEYS.contains &&
      PERMISSION_KEYS.all fun k ↦ Obj.has permissions k)
    (.invalidParams "group.permissions_invalid")
  (dictKeys permissions).forM fun k ↦ do
    let _ ← requireRole (Obj.get permissions k) (.invalidParams "group.permission_role_invalid")
  let maxMembers ← match intOf (policy.getD "max_members" (.int MAX_MEMBERS)) with
    | .ok n => .ok n
    | .error .overflowError => .error (.value "cannot convert float infinity to integer")
    | .error _ => .error (.invalidParams "group.max_members_invalid")
  require (1 ≤ maxMembers && maxMembers ≤ MAX_MEMBERS)
    (.invalidParams "group.max_members_exceeded" [("limit", .str (toString MAX_MEMBERS))])
  let policy := policy.set "max_members" (.str (toString maxMembers))
  require (match policy.getD "attachments_allowed" (.bool false) with
      | .bool _ => true
      | _ => false)
    (.invalidParams "group.attachments_allowed_invalid")
  return policy

/-- `_validate_profile`. -/
def validateProfile (value : Json) : Result Obj := do
  let given ← orRaise (.invalidParams "group.profile_required") value.obj?
  let profile := if Obj.has given "discoverability" then given
    else Obj.set given "discoverability" (.str "public")
  let known ← inSet (Obj.get profile "discoverability") ["public", "listed", "private"]
  require known (.invalidParams "group.discoverability_invalid")
  return profile

mutual

/-- `_merge_patch`. -/
def mergePatch (document : Json) : Json → Json
  | .obj patch => .obj (mergePatchFields (document.obj?.getD []) patch)
  | v => v

/-- The members of a patch, applied to a dictionary. -/
def mergePatchFields (document : Obj) : List (String × Json) → Obj
  | [] => document
  | (k, v) :: rest =>
    let merged := mergePatchFields document rest
    match v with
    | .null => merged.erase k
    | _ => merged.set k (mergePatch (document.get k) v)

end

/-! ### Requests -/

/-- `GroupRequest`: a request whose envelope and origin proof have been verified. -/
structure GroupRequest where
  method : GroupMethod
  senderDid : String
  operationId : String
  targetDid : String
  metaObj : Obj
  auth : Obj
  body : Obj
  payloadDigest : String
  profile : WireProfile

/-- `_home_service_did`. -/
def homeServiceDid (settings : Settings) (req : Request) (did : String) : Result String :=
  if didBelongsToDomain did settings.didDomain then .ok settings.serviceDid
  else do
    let service ← req.outside.discoverAnpService did
    requireText (service.get "serviceDid") "anp_service_did_required"

/-- `_split_handle`: the stored form `local@domain` and the full form `local.domain`. -/
def splitHandle (handle defaultDomain : String) : String × String :=
  let stripped := stripChars handle.toList
  let raw := if "wba://".toList.isPrefixOf stripped then stripped.drop 6 else stripped
  let parts : List Char × List Char :=
    if raw.contains '@' then ((partitionChars '@' raw).1, (partitionChars '@' raw).2.2)
    else if raw.contains '.' then ((partitionChars '.' raw).1, (partitionChars '.' raw).2.2)
    else (raw, defaultDomain.toList)
  (String.ofList (parts.1 ++ '@' :: parts.2), String.ofList (parts.1 ++ '.' :: parts.2))

/-- `_resolve_handle_binding`: an active local profile, else the WNS. -/
def resolveHandle (settings : Settings) (st : Store) (req : Request) (handle : String) :
    Result VerifiedHandleBinding :=
  let names := splitHandle handle settings.didDomain
  match st.profiles.findSome? fun p ↦
      if p.handle = names.1 then
        st.users.find? fun u ↦ decide (u.did = p.did ∧ u.revokedAt = none)
      else none with
  | some user =>
    .ok { handle := names.2, did := user.did, bindingGeneration := user.handleBindingGeneration }
  | none => req.outside.resolveHandleBinding handle

/-- A handle field: absent, or resolved; anything but a string is refused. -/
def resolveHandleField (settings : Settings) (st : Store) (req : Request) (v : Json)
    (error : String) : Result (Option VerifiedHandleBinding) :=
  match v with
  | .str handle => do return some (← resolveHandle settings st req handle)
  | .null => .ok none
  | _ => .error (.invalidParams error)

/-- On the public surface the peer that carries the request signs it too. -/
def requirePeer (settings : Settings) (req : Request) (senderDid : String) : Result Unit :=
  match req.surface with
  | .localRpc => .ok ()
  | .publicRpc => do
    let _ ← verifyPeerRequestSignature settings req senderDid

/-- `_request_context`. -/
def requestContext (settings : Settings) (st : Store) (req : Request) (params : Obj)
    (method : GroupMethod) (targetKind : String) : Result GroupRequest := do
  let metaObj ← orRaise (.unauthorized "missing_origin_proof") (params.get "_anp_meta").obj?
  let body ← orRaise (.unauthorized "missing_origin_proof") (params.get "_anp_body").obj?
  let auth ← orRaise (.unauthorized "missing_origin_proof") (params.get "_anp_auth").obj?
  require ((Obj.get auth "scheme").isStr "anp-rfc9421-origin-proof-v1")
    (.unauthorized "invalid_origin_proof_scheme")
  require (Obj.get metaObj "profile").hashable (.type "unhashable type")
  let profile ← orRaise
    (.invalidParams "anp_meta_profile_mismatch"
      [("expected", .str WireProfile.v1.text), ("actual", Obj.get metaObj "profile")])
    (baseProfile (Obj.get metaObj "profile"))
  validateV2Shape method metaObj body
  require ((Obj.get metaObj "security_profile").isStr "transport-protected")
    (.invalidParams "anp_meta_security_profile_mismatch"
      [("expected", .str "transport-protected"), ("actual", Obj.get metaObj "security_profile")])
  let senderDid ← requireText (Obj.get metaObj "sender_did") "anp_meta_sender_did_required"
  let operationId ← requireText (Obj.get metaObj "operation_id") "anp_meta_operation_id_required"
  let target ← orRaise (.invalidParams "anp_meta_target_required") (Obj.get metaObj "target").obj?
  require ((Obj.get target "kind").isStr targetKind)
    (.invalidParams "anp_meta_target_kind_mismatch"
      [("expected", .str targetKind), ("actual", Obj.get target "kind")])
  let targetDid ← requireText (Obj.get target "did") "anp_meta_target_did_required"
  let authenticated ← currentDid req (req.surface ≠ .publicRpc)
  require (authenticated.all (· = senderDid)) (.unauthorized "sender_did_mismatch")
  let document ← resolveDidDocumentForProof st req senderDid
  validateOriginProofStructure req auth method.text metaObj body document none
  requirePeer settings req senderDid
  let proof ← orRaise (.key "origin_proof") (Obj.get auth "origin_proof").obj?
  let payloadDigest ← orRaise (.key "contentDigest") (Obj.get proof "contentDigest").str?
  return { method, senderDid, operationId, targetDid, metaObj, auth, body, payloadDigest, profile }

/-! ### Operation results -/

/-- `_standard_v2_acceptance`. -/
def standardV2Acceptance (ctx : GroupRequest) (result : Obj) : Result Obj :=
  match ctx.profile with
  | .v1 => .ok result
  | .v2 => do
    let receipt ← orRaise (.key "group_receipt") (result.get "group_receipt").obj?
    let acceptedAt ← orRaise (.key "accepted_at") (receipt.lookup "accepted_at")
    return (((result.set "accepted" (.bool true)).set "final_acceptance" (.bool true)).set
      "operation_id" (.str ctx.operationId)).set "accepted_at" acceptedAt

/-- `_operation_replay`. -/
def operationReplay (st : Store) (ctx : GroupRequest) (scope : String) : Result (Option Obj) :=
  match Table.row? GroupOperation.key (ctx.senderDid, scope, ctx.method, ctx.operationId)
      st.groupOperations with
  | none => .ok none
  | some row => do
    require (row.wireProfile = ctx.profile && row.payloadDigest = ctx.payloadDigest)
      (.conflict "group.operation_id_conflict"
        [("operation_id", .str ctx.operationId), ("method", .str ctx.method.text)])
    let result ← standardV2Acceptance ctx row.result
    return some (result.set "idempotent_replay" (.bool true))

/-- `_store_operation`; also returns the result as it leaves the handler. -/
def storeOperation (st : Store) (ctx : GroupRequest) (scope : String) (result : Obj)
    (createdAt : String) : Result (Obj × Store) := do
  let result ← standardV2Acceptance ctx result
  let operations ← orRaise (.integrity "group_operations")
    (Table.insert? GroupOperation.key
      { senderDid := ctx.senderDid, groupScope := scope, method := ctx.method,
        operationId := ctx.operationId, payloadDigest := ctx.payloadDigest, result := result,
        createdAt := createdAt, wireProfile := ctx.profile }
      st.groupOperations)
  return (result, { st with groupOperations := operations })

/-! ### Reading a group -/

/-- `_group_row`. -/
def groupRow (st : Store) (groupDid : String) (profile : Option WireProfile) (writing : Bool) :
    Result HostedGroup := do
  let group ← orRaise (.notFound "group.not_found") (st.hostedGroup? groupDid)
  requireGroupProtocol group profile writing
  return group

/-- `_active_member`. -/
def activeMember (st : Store) (groupDid agentDid : String) : Result HostedMember :=
  orRaise (.unauthorized "group.not_member")
    ((st.hostedMember? groupDid agentDid).filter fun m ↦ decide (m.status = .active))

/-- `_require_permission`. -/
def requirePermission (group : HostedGroup) (member : HostedMember) (permission : String) :
    Result Unit := do
  let permissions ← orRaise (.key "permissions") (group.policy.get "permissions").obj?
  let minimum ← requireRole (Obj.get permissions permission) (.key permission)
  require (decide (minimum.level ≤ member.role.level))
    (.unauthorized "group.permission_denied" [("permission", .str permission)])

/-- `int(policy["max_members"])`. -/
def policyMaxMembers (policy : Obj) : Result ℤ := do
  let v ← orRaise (.key "max_members") (policy.lookup "max_members")
  intOrRaise v

/-- `policy["admission_mode"] != "open-join"` is refused. -/
def requireOpenJoin (group : HostedGroup) : Result Unit := do
  let mode ← orRaise (.key "admission_mode") (group.policy.lookup "admission_mode")
  require (mode.isStr "open-join") (.unauthorized "group.policy_violation")

/-! ### Accepting an event -/

/-- The receipt before it is signed. -/
def receiptValue (ctx : GroupRequest) (groupDid : String) (stateVersion eventSeq : ℕ)
    (acceptedAt : String) (messageId : Option String) : Obj :=
  [("receipt_type", .str (if ctx.method = .send then "group-message-accepted"
      else "group-operation-accepted")),
    ("group_did", .str groupDid), ("group_state_version", .str (toString stateVersion)),
    ("group_event_seq", .str (toString eventSeq)), ("subject_method", .str ctx.method.text),
    ("operation_id", .str ctx.operationId), ("actor_did", .str ctx.senderDid),
    ("accepted_at", .str acceptedAt), ("payload_digest", .str ctx.payloadDigest)] ++
    (messageId.map fun id ↦ ("message_id", Json.str id)).toList

/-- `_receipt`: signed with the key of the group. -/
def signedReceipt (st : Store) (req : Request) (ctx : GroupRequest) (groupDid : String)
    (stateVersion eventSeq : ℕ) (acceptedAt : String) (messageId : Option String) : Result Obj := do
  let row ← orRaise (.invalidParams "group_receipt_key_unavailable")
    (Table.row? GroupDidDocument.groupDid groupDid st.groupDidDocuments)
  let value := receiptValue ctx groupDid stateVersion eventSeq acceptedAt messageId
  let proof ← req.outside.receiptProof value row.keyReference
  return value.set "proof" proof

/-- `_write_event`. -/
def writeEvent (st : Store) (ctx : GroupRequest) (groupDid : String) (stateVersion eventSeq : ℕ)
    (eventType : String) (payload receipt : Obj) (createdAt : String) : Result Store := do
  let event : HostedEvent :=
    { groupDid := groupDid, groupEventSeq := eventSeq, eventId := newId "gevt" st.issued,
      eventType := eventType, groupStateVersion := stateVersion, subjectMethod := ctx.method,
      actorDid := ctx.senderDid, payload := payload, payloadDigest := ctx.payloadDigest,
      receipt := receipt, createdAt := createdAt }
  require (st.hostedGroupEvents.all fun e ↦ decide (e.eventId ≠ event.eventId))
    (.integrity "hosted_group_events.event_id")
  let events ← orRaise (.integrity "hosted_group_events")
    (Table.insert? HostedEvent.key event st.hostedGroupEvents)
  return { st with hostedGroupEvents := events, issued := st.issued + 1 }

/-- `_sync_active_members`. -/
def syncActiveMembers (st : Store) (groupDid eventType : String) (payload : Obj) (now : String) :
    Store :=
  (st.activeMembers groupDid).foldl
    (fun st' m ↦ if userExists st' m.agentDid then addSyncEvent st' m.agentDid eventType payload now
      else st')
    st

/-- A head row with new counters, and the columns `update` rewrites. -/
def advanceHead (update : HostedGroup → HostedGroup) (stateVersion eventSeq : ℕ)
    (updatedAt : String) (g : HostedGroup) : HostedGroup :=
  { update g with
    groupDid := g.groupDid, groupStateVersion := stateVersion, groupEventSeq := eventSeq,
    updatedAt := updatedAt }

/-- Write the head counters back. -/
def writeHead (st : Store) (groupDid : String) (update : HostedGroup → HostedGroup)
    (stateVersion eventSeq : ℕ) (updatedAt : String) : Store :=
  { st with
    hostedGroups := Table.updateWhere (fun g ↦ decide (g.groupDid = groupDid))
      (advanceHead update stateVersion eventSeq updatedAt) st.hostedGroups }

/-- What distinguishes the operations that change the state of a group. -/
structure StateChange where
  eventType : String
  syncEventType : String
  /-- Members of the result beside the common ones. -/
  resultFields : Obj
  /-- Members of the event beside the common ones. -/
  eventFields : Obj
  /-- The member a version 2 event ends. -/
  departed : Option String := none
  /-- The columns of the group row the operation rewrites. -/
  update : HostedGroup → HostedGroup := id

/-- The event of a state change, as announced to members. -/
def stateEvent (ctx : GroupRequest) (groupDid : String) (change : StateChange)
    (stateVersion eventSeq : ℕ) (changedAt : String) (receipt : Obj) : Obj :=
  [("group_did", .str groupDid), ("event_type", .str change.eventType),
    ("subject_method", .str ctx.method.text),
    ("group_state_version", .str (toString stateVersion)),
    ("group_event_seq", .str (toString eventSeq)), ("changed_at", .str changedAt),
    ("actor_did", .str ctx.senderDid), ("group_receipt", .obj receipt)] ++ change.eventFields

/-- What the members of this server learn of a state change: the sync log of the active ones and, in
version 2, of the departed one, then the local projections. -/
def tellLocalMembers (settings : Settings) (st : Store) (ctx : GroupRequest) (groupDid : String)
    (change : StateChange) (event : Obj) (now : String) : Store :=
  let st := syncActiveMembers st groupDid change.syncEventType event now
  let st := match change.departed with
    | some did =>
      if ctx.profile = .v2 && userExists st did then
        addSyncEvent st did change.syncEventType event now
      else st
    | none => st
  refreshHostedLocalProjections settings st groupDid now

/-- **The common tail** of join, add, leave, remove, rebind and the two updates: both counters
advance by one. -/
def acceptStateChange (settings : Settings) (st : Store) (req : Request) (ctx : GroupRequest)
    (group : HostedGroup) (change : StateChange) : Result (Obj × Store) := do
  let now := req.outside.now
  let groupDid := group.groupDid
  let stateVersion := group.groupStateVersion + 1
  let eventSeq := group.groupEventSeq + 1
  let st := writeHead st groupDid change.update stateVersion eventSeq now
  let receipt ← signedReceipt st req ctx groupDid stateVersion eventSeq now none
  let result : Obj :=
    [("group_did", .str groupDid), ("group_state_version", .str (toString stateVersion)),
      ("group_event_seq", .str (toString eventSeq)), ("group_receipt", .obj receipt)] ++
      change.resultFields
  let event := stateEvent ctx groupDid change stateVersion eventSeq now receipt
  let st ← writeEvent st ctx groupDid stateVersion eventSeq change.eventType event receipt now
  let (result, st) ← storeOperation st ctx groupDid result now
  let st := tellLocalMembers settings st ctx groupDid change event now
  let st ← enqueueStateChanged settings st groupDid eventSeq event now
  return (result, st)

end Awiki
