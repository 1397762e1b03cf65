import AwikiOpenServer.Messaging.ReadState
import AwikiOpenServer.Messaging.StandardSync

/-!
# Snapshot sessions

When a client cannot go on from its cursor, `_issue_snapshot_recovery` freezes its package, cuts it
into pages, signs a reference to each, links them by position and stores the whole as **one row**,
under a recovery id and the hash of a token. `sync_snapshot` later serves the pages of that row one
by one, to the subject the row is bound to, and looks a page up by the value of its reference. No
statement changes or deletes a session.

The two keyed functions of a server, the HMAC of page references and the hash of tokens, are fixed
for its lifetime (`SnapshotKeys`).

## What a package is made of

The groups an owner is in, with their rosters; the read states, by thread; and the messages of the
last two days, newest first. The section of notifications is always empty. A message is rendered as
ordinary sync renders it, from the row of the log that announced it, and left out when the row it is
about is gone or the owner cannot see it any more. The limits of the package are those of
`Messaging/StandardSync.lean`.

Rendering draws references of conversations, so putting a package together is a function to a result
and a store, and it goes row by row in the order of the source.

## Requests

A request comes from a device of a user, and `SyncSubject` is what the sync handlers make of it: the
account, the device, and the generation of its credentials. A session is bound to all of them
(`SnapshotSession.boundTo`). What a client has negotiated is a row of its own, looked up by the
instance of the client; without it no snapshot is issued.

## Order of the checks

`sync_snapshot` checks the form of the body first, then looks for the session and checks its
subject, the token and the expiry, and only then looks for the page: a client without the token
learns nothing about the references.
-/

namespace Awiki

open Py

/-! ### Devices -/

/-- `DeviceAccount`, with the members the sync handlers read. -/
structure DeviceAccount where
  did : String
  accountId : String
  deviceId : String
  authGeneration : ℕ

/-- A request of a client device. -/
structure DeviceRequest extends Request where
  /-- `request.state.device_account`. -/
  deviceAccount : Option DeviceAccount
  /-- `str.lower()`. -/
  lower : String → String

/-- `sign_page_ref` with the server's key, and `token_hash`. -/
structure SnapshotKeys where
  signPageRef : Obj → String
  tokenHash : String → String

/-- The subject of a request: `_sync_v2_identity` and `_auth_generation`. -/
structure SyncSubject where
  owner : String
  accountId : String
  deviceId : String
  authGeneration : ℕ
  deriving DecidableEq

/-- `_sync_v2_identity`, with `_auth_generation`. -/
def syncV2Identity (req : DeviceRequest) (params : Obj) : Result SyncSubject := do
  let authenticated ← currentDid req.toRequest true
  let owner ← orRaise (.unauthorized "missing_authentication") authenticated
  let account ← orRaise (.notSupported "sync.single_device_authorization_required")
    (req.deviceAccount.filter fun a ↦ decide (a.did = owner))
  let metaObj ← orRaise (.type "object has no attribute 'get'")
    (params.getD "_anp_meta" (.obj [])).obj?
  require ((Obj.get metaObj "sender_did").isNull || (Obj.get metaObj "sender_did").isStr owner)
    (.unauthorized "sender_did_mismatch")
  return {
    owner := owner
    accountId := account.accountId
    deviceId := account.deviceId
    authGeneration := if account.authGeneration = 0 then 1 else account.authGeneration }

/-- `_anp_body` when there is one, else the parameters themselves. -/
def syncBody (params : Obj) : Obj := (envelopePart params "_anp_body").getD params

/-- The row of a negotiation, if any. -/
def negotiation? (st : Store) (s : SyncSubject) (clientInstanceId : String) :
    Option CapabilityNegotiation :=
  st.syncCapabilityNegotiations.find? fun n ↦
    decide (n.accountId = s.accountId ∧ n.deviceId = s.deviceId ∧
      n.authGeneration = s.authGeneration ∧ n.clientInstanceId = clientInstanceId)

/-- `_negotiated_sync_capabilities`. -/
def negotiatedSyncCapabilities (st : Store) (s : SyncSubject) (clientInstanceId : String) :
    List String :=
  (((negotiation? st s clientInstanceId).filter fun n ↦ n.activationState = "active").map
    (·.negotiated)).getD []

/-- `_negotiation_snapshot_enabled`. -/
def negotiationSnapshotEnabled (st : Store) (s : SyncSubject) (clientInstanceId : String) : Bool :=
  (negotiation? st s clientInstanceId).any fun n ↦
    n.activationState = "active" && n.snapshotDelivery = some "paged_v1"

/-! ### What a package is made of -/

/-- `_project_message_content`. -/
def projectMessageContent (req : DeviceRequest) (body : Obj) (contentType : String) :
    String × Json :=
  if normalizeContentType req.outside req.lower (.str contentType) =
      ATTACHMENT_MANIFEST_CONTENT_TYPE then
    ("attachment_manifest", body.getD "payload" (.obj body))
  else
    match body.get "text" with
    | .str text => ("text", .str text)
    | _ =>
      if body.has "payload" then ("json", body.get "payload")
      else
        match body.get "payload_b64u" with
        | .str text => ("binary", .str text)
        | _ => ("json", .obj body)

/-- The members every message of ordinary sync has. -/
def syncMessageFields (req : DeviceRequest) (kind messageId serverSeq senderDid : String)
    (operationId : Json) (body : Obj) (contentType createdAt : String) : Obj :=
  let projected := projectMessageContent req body contentType
  [("message_id", .str messageId), ("server_seq", .str serverSeq), ("sender_did", .str senderDid),
    ("content_type", .str contentType), ("content", projected.2), ("body", .obj body),
    ("type", .str projected.1), ("created_at", .str createdAt), ("sent_at", .str createdAt),
    ("received_at", .str createdAt), ("operation_id", operationId), ("thread_kind", .str kind),
    ("client_msg_id", .str messageId), ("accepted_at", .str createdAt)]

/-- `_ordinary_sync_message` of a direct message. -/
def directSyncMessage (req : DeviceRequest) (st : Store) (owner : String) (m : DirectMessage)
    (v : DirectMessageView) : Result (Obj × Store) := do
  let peer := if m.senderDid = owner then m.recipientDid else m.senderDid
  let (reference, st) ← conversationRef req.outside st owner peer
  return (syncMessageFields req "direct" m.messageId (toString m.serverSeq) m.senderDid
      (textOrNull m.operationId) m.body m.contentType m.createdAt ++
    [("receiver_did", .str m.recipientDid), ("read_at", textOrNull v.readAt),
      ("is_read", .bool v.readAt.isSome), ("conversation_ref", .str reference)], st)

/-- What a group message adds. -/
def groupSyncFields (owner groupDid serverSeq : String) (receipt : Option Obj)
    (wireProfile : WireProfile) : Obj :=
  [("group_did", .str groupDid), ("receiver_did", .str owner), ("group_event_seq", .str serverSeq),
    ("wire_profile", .str wireProfile.text)] ++
    (receipt.map fun r ↦ ("group_receipt", Json.obj r)).toList

/-- `_ordinary_sync_message` of a group message, from the table it is in. -/
def groupSyncMessage (req : DeviceRequest) (st : Store) (source : GroupSource)
    (owner groupDid messageId : String) : Option Obj :=
  match source with
  | .hosted => (st.hostedGroupMessages.find? fun m ↦
      decide (m.groupDid = groupDid ∧ m.messageId = messageId)).map fun m ↦
    syncMessageFields req "group" m.messageId (toString m.groupEventSeq) m.senderDid
        (.str m.operationId) m.body m.contentType m.createdAt ++
      groupSyncFields owner m.groupDid (toString m.groupEventSeq) (some m.receipt) m.wireProfile
  | .projected => (st.groupMessageViews.find? fun m ↦
      decide (m.groupDid = groupDid ∧ m.messageId = messageId ∧ m.ownerDid = owner)).map fun m ↦
    syncMessageFields req "group" m.messageId (toString m.groupEventSeq) m.senderDid
        (.str m.operationId) m.body m.contentType m.acceptedAt ++
      groupSyncFields owner m.groupDid (toString m.groupEventSeq) (some m.receipt) m.wireProfile
  | .legacy => (st.groupMessages.find? fun m ↦
      decide (m.groupDid = groupDid ∧ m.messageId = messageId)).map fun m ↦
    syncMessageFields req "group" m.messageId (toString m.serverSeq) m.senderDid
        (textOrNull m.operationId) m.body m.contentType m.createdAt ++
      groupSyncFields owner m.groupDid (toString m.serverSeq) none .v1

/-- `_hydrated_sync_v2_message`. -/
def hydratedSyncV2Message (req : DeviceRequest) (st : Store) (owner messageId : String)
    (groupDid : Option Json) : Result (Option Obj × Store) :=
  match groupDid with
  | none =>
    match st.directMessages.findSome? fun m ↦
        if m.messageId = messageId then
          (Table.row? DirectMessageView.key (owner, messageId) st.directMessageViews).map
            fun v ↦ (m, v)
        else none with
    | some (m, v) => do
      let (message, st) ← directSyncMessage req st owner m v
      return (some message, st)
    | none => .ok (none, st)
  | some groupDid =>
    if groupDid.truthy then do
      let groupDid ← bindTextNotNull req.outside.reprFloat groupDid
      match groupSource st owner groupDid with
      | .ok source => return (groupSyncMessage req st source owner groupDid messageId, st)
      | .error _ => return (none, st)
    else .ok (none, st)

/-- A rendered event as a document. -/
def SyncV2Event.document (e : SyncV2Event) : Obj :=
  [("event_id", .str e.eventId), ("stream_epoch", .str e.streamEpoch),
    ("event_seq", .str e.eventSeq), ("event_type", .str e.eventType), ("schema_version", .int 1),
    ("ignore_safe", .bool e.ignoreSafe), ("account_id", .str e.accountId),
    ("recipient_device_id", .null), ("origin_did", e.originDid), ("origin_device_id", .null),
    ("aggregate_kind", .str e.aggregateKind), ("aggregate_id", e.aggregateId),
    ("state_version", e.stateVersion), ("thread_key", e.threadKey),
    ("occurred_at", .str e.occurredAt), ("payload", .obj e.payload), ("source", .obj [])]

/-- A message of a group: the events whose visibility goes by membership. -/
def SyncV2Event.isGroupMessage (e : SyncV2Event) : Bool :=
  e.eventType = "message.created" && (e.payload.get "message_kind").isStr "group_plain"

/-- The message of one row of the log, if the row is a recent plain message that is still there. -/
def recentPlainMessage (req : DeviceRequest) (st : Store) (s : SyncSubject) (epoch cutoff : String)
    (row : SyncEvent) : Result (Option Obj × Store) := do
  let (event, st) ← syncV2Event req.outside st row s.owner s.accountId epoch
  let messageId := event.payload.get "client_message_id"
  if event.eventType ≠ "message.created" || decide (event.occurredAt < cutoff) ||
      !messageId.truthy then
    return (none, st)
  else
    let (message, st) ← hydratedSyncV2Message req st s.owner (req.outside.str messageId)
      (if event.isGroupMessage then some (event.payload.get "group_did") else none)
    return (message.map fun m ↦ [("event", .obj event.document), ("message", .obj m)], st)

/-- The loop of `_recent_plain_message_items`. -/
def recentPlainMessages (req : DeviceRequest) (s : SyncSubject) (epoch cutoff : String) :
    List SyncEvent → Store → Result (List Obj × Store)
  | [], st => .ok ([], st)
  | row :: rest, st => do
    let (item, st) ← recentPlainMessage req st s epoch cutoff row
    let (items, st) ← recentPlainMessages req s epoch cutoff rest st
    return (item.toList ++ items, st)

/-- The rows of an owner's log up to a number, newest first. -/
def newestEvents (st : Store) (owner : String) (highest : ℕ) : List SyncEvent :=
  (st.syncEvents.filter fun e ↦ decide (e.ownerDid = owner ∧ e.eventSeq ≤ highest)).insertionSort
    fun a b ↦ b.eventSeq ≤ a.eventSeq

/-- `group_snapshot` with a configured host, which only a legacy group reports. -/
def baselineSnapshot (settings : Settings) (st : Store) (owner groupDid : String) : Option Obj :=
  (groupSnapshot st owner groupDid).map fun o ↦
    if (st.hostedGroup? groupDid).isNone && (st.groupView? owner groupDid).isNone &&
        settings.serviceDid ≠ "" then
      o.set "host_service_did" (.str settings.serviceDid)
    else o

/-- `group_baseline`. -/
def groupBaseline (settings : Settings) (st : Store) (owner : String) : List Obj :=
  let hosted := (st.hostedGroupMembers.filter fun m ↦ decide (m.agentDid = owner)).map
    HostedMember.groupDid
  let projected := (st.groupViews.filter fun v ↦ decide (v.ownerDid = owner)).map GroupView.groupDid
  let legacy := (st.groupMembers.filter fun m ↦ decide (m.memberDid = owner)).map
    LegacyMember.groupDid
  ((hosted ++ projected ++ legacy).dedup.insertionSort (· ≤ ·)).filterMap
    (baselineSnapshot settings st owner)

/-- `read_state_dto` of each row. -/
def readStateDtos (outside : Outside) (owner : String) :
    List ThreadReadState → Store → Result (List Obj × Store)
  | [], st => .ok ([], st)
  | row :: rest, st => do
    let (dto, st) ← readStateDto outside st owner row
    let (dtos, st) ← readStateDtos outside owner rest st
    return (dto :: dtos, st)

/-- The read states of an owner, by thread. -/
def ownReadStates (st : Store) (owner : String) : List ThreadReadState :=
  (st.threadReadStates.filter fun r ↦ decide (r.ownerDid = owner)).insertionSort
    fun a b ↦ a.threadId ≤ b.threadId

/-! ### Issuing a session -/

/-- The capability a client negotiates for snapshots in pages. -/
def SNAPSHOT_PAGING_V1 : String := "sync.snapshot_paging.v1"

/-- How far back the messages of a snapshot go. -/
def MESSAGE_CUTOFF_HOURS : ℕ := 48

/-- How long a session can be gone through. -/
def RECOVERY_TTL_SECONDS : ℕ := 600

/-- The lane of direct encrypted messages. -/
def LANE_P5 : String := "lanes.p5_device.v1"

/-- The lane of encrypted group messages. -/
def LANE_P6 : String := "lanes.p6_group.v1"

/-- The name of the deliveries of that lane. -/
def P6_DELIVERY : String := "p6.delivery_context.v1"

/-- `COMPAT_LANES`. -/
def COMPAT_LANES : List (String × String) := [(LANE_P5, "p5_device"), (LANE_P6, "p6_group")]

/-- `empty_compat_cursor`. -/
def emptyCompatCursor : Obj := [("stream_epoch", .str "1"), ("scan_seq", .str "0")]

/-- `attach_standard_bootstrap_fields`. -/
def attachStandardBootstrapFields (result : Obj) (snapshotPaging : Bool) (requested : List String)
    (clientInstanceId : String) : Result Obj := do
  let lanes : Obj := (COMPAT_LANES.filter fun l ↦ requested.contains l.1).map fun l ↦
    (l.2, .obj [("cursor", .obj emptyCompatCursor), ("committed_seq", .str "0")])
  require (!requested.contains LANE_P6 || clientInstanceId ≠ "")
    (.value "compatibility bootstrap requires the bound client instance")
  return result ++
    (if snapshotPaging then
      [("sync_capabilities", .arr (requested.map .str)),
        ("snapshot_capability", .obj [("schema", .int 3), ("delivery", .str "paged_v1")])]
    else []) ++
    (if lanes.isEmpty then [] else [("lanes", .obj lanes)]) ++
    (if requested.contains LANE_P6 then
      [("p6_delivery", .obj [("profile", .str P6_DELIVERY),
        ("client_instance_id", .str clientInstanceId), ("activated", .bool true)])]
    else [])

/-- A page with its digest, as `decorate_pages` leaves it. -/
structure DecoratedPage where
  page : Page
  digest : String

/-- `decorate_pages`. -/
def decoratePages (outside : Outside) : List Page → Result (List DecoratedPage)
  | [] => .ok []
  | page :: rest => do
    let digest ← outside.sha256Digest (.arr (page.items.map Json.obj))
    let more ← decoratePages outside rest
    return ⟨page, digest⟩ :: more

/-- The claims a page reference is signed over. -/
def pageClaims (resourceHash queryHash expiresAt : String) (position : ℕ) : Obj :=
  [("version", .int 1), ("profile", .str SNAPSHOT_PAGING_V1), ("resource_hash", .str resourceHash),
    ("query_hash", .str queryHash), ("position", .int position), ("expires_at", .str expiresAt)]

/-- What the pages of one session have in common. -/
structure SessionBinding where
  recoveryId : String
  manifestDigest : Json
  accountId : String
  deviceId : String
  expiresAt : String

/-- The claims of the page at a position. -/
def claimsAt (outside : Outside) (b : SessionBinding) (position : ℕ) : Result Obj := do
  let resourceHash ← outside.sha256Digest (.str b.recoveryId)
  let queryHash ← outside.sha256Digest (.obj
    [("manifest", b.manifestDigest), ("account_id", .str b.accountId),
      ("device_id", .str b.deviceId), ("position", .int position)])
  return pageClaims resourceHash queryHash b.expiresAt position

/-- The signing loop: the pages from `position` on, each with its reference. -/
def signPages (keys : SnapshotKeys) (outside : Outside) (b : SessionBinding) (position : ℕ) :
    List DecoratedPage → Result (List SnapshotPage)
  | [] => .ok []
  | d :: rest => do
    let claims ← claimsAt outside b position
    let more ← signPages keys outside b (position + 1) rest
    return {
      sectionName := d.page.name.text
      items := d.page.items
      returnedItems := d.page.items.length
      returnedEncodedBytes := d.page.returnedEncodedBytes
      pageDigest := d.digest
      hasMore := !rest.isEmpty
      pageRef := keys.signPageRef claims
      claims := claims
      nextPageRef := none } :: more

/-- The linking loop: each page names the next one. -/
def linkPages : List SnapshotPage → List SnapshotPage
  | [] => []
  | page :: rest =>
    { page with nextPageRef := if page.hasMore then rest.head?.map (·.pageRef) else none } ::
      linkPages rest

/-- `recovery_descriptor`. -/
def recoveryDescriptor (session : SnapshotSession) (token : String) : Obj :=
  [("recovery_id", .str session.recoveryId), ("token", .str token), ("snapshot_schema", .int 3),
    ("snapshot_delivery", .str "paged_v1"), ("stream_epoch", .str session.streamEpoch),
    ("snapshot_scan_seq", .str session.snapshotScanSeq),
    ("message_cutoff", .str session.messageCutoff), ("expires_at", .str session.expiresAt)]

/-- The first half of `_issue_snapshot_recovery`: what the package is made of, frozen now. -/
def frozenPackage (settings : Settings) (st : Store) (req : DeviceRequest) (s : SyncSubject)
    (epoch cutoff : String) (highest : ℕ) :
    Result (Sections × RecoveryBudget × HistoryPolicy × Store) := do
  let (readStates, st) ← readStateDtos req.outside s.owner (ownReadStates st s.owner) st
  let groups := groupBaseline settings st s.owner
  let (messages, st) ← recentPlainMessages req s epoch cutoff (newestEvents st s.owner highest) st
  let (package, budget, history) ← selectSnapshotPackage req.outside readStates groups [] messages
  return (package, budget, history, st)

/-- The second half: the row of a package. -/
def sessionRow (keys : SnapshotKeys) (req : DeviceRequest) (s : SyncSubject)
    (clientInstanceId epoch cutoff recoveryId : String) (highest : ℕ) (package : Sections)
    (budget : RecoveryBudget) (history : HistoryPolicy) : Result SnapshotSession := do
  let frozenAt := req.outside.now
  let expiresAt := req.outside.isoLater RECOVERY_TTL_SECONDS frozenAt
  let pages ← paginateSections req.outside package
  let decorated ← decoratePages req.outside pages
  let cursor : Obj := [("stream_epoch", .str epoch), ("scan_seq", .str (toString highest))]
  let manifest ← buildManifest req.outside frozenAt cursor package pages.length budget history
    cutoff
  let signed ← signPages keys req.outside
    ⟨recoveryId, manifest.get "manifest_digest", s.accountId, s.deviceId, expiresAt⟩ 0 decorated
  return {
    recoveryId := recoveryId
    ownerDid := s.owner
    accountId := s.accountId
    deviceId := s.deviceId
    authGeneration := s.authGeneration
    clientInstanceId := clientInstanceId
    streamEpoch := epoch
    snapshotScanSeq := toString highest
    tokenHash := keys.tokenHash req.outside.newRecoveryToken
    expiresAt := expiresAt
    frozenAt := frozenAt
    messageCutoff := cutoff
    manifest := manifest
    package := package.document
    pages := linkPages signed }

/-- `_issue_snapshot_recovery`. -/
def issueSnapshotRecovery (keys : SnapshotKeys) (settings : Settings) (st : Store)
    (req : DeviceRequest) (s : SyncSubject) (clientInstanceId epoch : String) (highest : ℕ) :
    Result (Obj × Store) := do
  let cutoff := req.outside.isoHoursAgo MESSAGE_CUTOFF_HOURS req.outside.now
  let (package, budget, history, st) ← frozenPackage settings st req s epoch cutoff highest
  let session ← sessionRow keys req s clientInstanceId epoch cutoff (newId "recovery" st.issued)
    highest package budget history
  let sessions ← orRaise (.integrity "sync_snapshot_sessions")
    (Table.insert? SnapshotSession.recoveryId session st.syncSnapshotSessions)
  let answer ← attachStandardBootstrapFields
    [("mode", .str "compact_recovery_required"), ("account_id", .str s.accountId),
      ("device_id", .str s.deviceId), ("server_time", .str req.outside.now),
      ("recovery", .obj (recoveryDescriptor session req.outside.newRecoveryToken))]
    true (negotiatedSyncCapabilities st s clientInstanceId) clientInstanceId
  return (answer, { st with syncSnapshotSessions := sessions, issued := st.issued + 1 })

/-! ### Serving a session -/

/-- `sync.invalid_request`. -/
def invalidRequest (details : Obj) : AwikiError :=
  .syncProtocol "sync.invalid_request" 4200 details

/-- `sync.recovery_token_invalid`. -/
def recoveryTokenInvalid (details : Obj := []) : AwikiError :=
  .syncProtocol "sync.recovery_token_invalid" 4216 details

/-- The keys of a body are exactly these. -/
def keysAre (body : Obj) (names : List String) : Bool :=
  (body.all fun p ↦ names.contains p.1) && names.all fun n ↦ body.has n

/-- The page reference of a request: absent, or a string that is not empty. -/
def requestedPageRef (body : Obj) : Result (Option String) :=
  if keysAre body ["recovery_id", "token"] then .ok none
  else if keysAre body ["recovery_id", "token", "page_ref"] then do
    let text ← orRaise (invalidRequest [("field", .str "page_ref")])
      ((body.get "page_ref").str?.filter (· ≠ ""))
    return some text
  else .error (invalidRequest [("reason", .str "sync.snapshot_body_invalid")])

/-- The session is that of the subject. -/
def SnapshotSession.boundTo (session : SnapshotSession) (s : SyncSubject) : Bool :=
  decide (session.ownerDid = s.owner ∧ session.accountId = s.accountId ∧
    session.deviceId = s.deviceId ∧ session.authGeneration = s.authGeneration)

/-- The page a request is served: the first one, or the first with the given reference, whose
signature is checked again. -/
def servedPage (keys : SnapshotKeys) (session : SnapshotSession) (pageRef : Option String) :
    Result SnapshotPage :=
  match pageRef with
  | none => orRaise (.type "list index out of range") session.pages.head?
  | some ref => do
    let page ← orRaise (recoveryTokenInvalid [("field", .str "page_ref")])
      (session.pages.find? fun p ↦ decide (p.pageRef = ref))
    require (ref = keys.signPageRef page.claims) (recoveryTokenInvalid [("field", .str "page_ref")])
    return page

/-- The `page` member of an answer. -/
def SnapshotPage.document (page : SnapshotPage) : Obj :=
  [("section", .str page.sectionName), ("items", .arr (page.items.map Json.obj)),
    ("returned_items", .int page.returnedItems),
    ("returned_encoded_bytes", .int page.returnedEncodedBytes),
    ("page_digest", .str page.pageDigest), ("has_more", .bool page.hasMore),
    ("next_page_ref", textOrNull page.nextPageRef)]

/-- The answer with a page; the first one also carries the manifest. -/
def snapshotAnswer (req : DeviceRequest) (session : SnapshotSession) (s : SyncSubject)
    (page : SnapshotPage) (withManifest : Bool) : Result Obj := do
  let binding : Obj :=
    [("mode", .str "compact_recovery"), ("recovery_id", .str session.recoveryId),
      ("account_id", .str s.accountId), ("device_id", .str s.deviceId),
      ("device_auth_generation", .str (toString s.authGeneration)),
      ("client_instance_id", .str session.clientInstanceId), ("server_time", .str req.outside.now),
      ("snapshot_schema", .int 3), ("snapshot_delivery", .str "paged_v1"),
      ("snapshot_cursor", .obj [("stream_epoch", .str session.streamEpoch),
        ("scan_seq", .str session.snapshotScanSeq)])]
  if withManifest then
    return binding ++ [("manifest", .obj session.manifest), ("page", .obj page.document)]
  else
    let digest ← orRaise (.key "manifest_digest") (session.manifest.lookup "manifest_digest")
    return binding ++ [("manifest_digest", digest), ("page", .obj page.document)]

/-- `sync_snapshot`: it only reads. -/
def syncSnapshot (keys : SnapshotKeys) (st : Store) (req : DeviceRequest) (params : Obj) :
    Result Obj := do
  let s ← syncV2Identity req params
  let body := syncBody params
  let pageRef ← requestedPageRef body
  let invalid := invalidRequest [("reason", .str "sync.snapshot_body_invalid")]
  let recoveryId ← orRaise invalid ((body.get "recovery_id").str?.filter (· ≠ ""))
  let token ← orRaise invalid ((body.get "token").str?.filter (· ≠ ""))
  let session ← orRaise recoveryTokenInvalid
    (Table.row? SnapshotSession.recoveryId recoveryId st.syncSnapshotSessions)
  require (session.boundTo s) (recoveryTokenInvalid [("reason", .str "subject_mismatch")])
  require (session.tokenHash = keys.tokenHash token) recoveryTokenInvalid
  require (!req.outside.expired session.expiresAt)
    (.syncProtocol "sync.recovery_token_expired" 4217)
  let page ← servedPage keys session pageRef
  snapshotAnswer req session s page pageRef.isNone

/-! ### A client -/

/-- Alice's device. -/
def aliceDevice : DeviceRequest where
  surface := .localRpc
  credentials := .bearer alice
  outside := .honest
  deviceAccount := some ⟨alice, "account-1", "device-1", 1⟩
  lower := id

/-- Alice on that device. -/
def aliceSubject : SyncSubject := ⟨alice, "account-1", "device-1", 1⟩

end Awiki
