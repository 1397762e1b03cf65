import AwikiOpenServer.Lib.Transactions
import AwikiOpenServer.Messaging.SyncLog

/-!
# Sending a direct message

`direct_send`, statement by statement. Its reads run in autocommit: the two look-ups of the users,
the sender's document, the look-ups of an earlier message, and **the `SELECT` that draws the next
`server_seq`**. The `INSERT` of the message is the first write, so only from there on does the
request hold the write lock. The statements of `add_sync_event` come after it and are one write
here: nobody else can write between them, and nobody else sees what they wrote.

A send to a member of another service is posted there first and stored here afterwards. The realtime
notifications that follow a commit do not touch the database and are left out.

## Statements

`Statements` is a program of queries, writes and checks. A query is given the state its connection
sees at that moment, a write the state it has written so far, and what lies between two statements
is up to the run. A computation on values is a `check`: it takes no time of its own. The functions
keep the order of the source, since it decides what a send is refused with, and which of its reads
see which state.

## The parameters

A request of the protocol comes with its envelope under `_anp_meta`, `_anp_body` and `_anp_auth`
(`envelopePart`), and a parameter of the request goes before the member of the envelope. All values
are JSON until they are bound to a column: an id need not be a text, and SQLite converts or refuses
it then (`bindText`). The checks of a body by its content type are `validateMessageBodyShape`; those
of the metadata are `validateSendEnvelopeMeta`.

## Rules

The end of the file is what later modules use: rules in the style of a program logic, for a state
that changes under the request until it writes. `directSend_guarded` reduces a result about the
commit of a send to `_store_direct_message`, and `storeDirectMessage_guarded` reduces that to the
`INSERT`, with what the last read before it has seen. What comes after the `INSERT` concerns other
tables, and a property of `direct_messages` survives it (`SurvivesViewsOf`, `SurvivesEvents`).
-/

namespace Awiki

open Py Transactions

/-- The statements of a request. -/
abbrev Statements (α : Type) := Program Store AwikiError α

/-- A computation without statements. -/
def check {α : Type} (x : Result α) : Statements α := .ofExcept x

/-- A check passes its value on, and the state is the same. -/
theorem guarded_bind_check {α β : Type} {I : Store → Prop} {R : Option Store → Store → Store → Prop}
    {Q : β → Option Store → Prop} {W : β → Store → Prop} {last : Option Store} {x : Result α}
    {f : α → Statements β} (h : ∀ a, x = .ok a → (f a).Guarded I R Q W last) :
    (check x >>= f).Guarded I R Q W last :=
  Program.guarded_bind_ofExcept h

/-- A send, with what it asks of the outside beside the common answers. -/
structure SendRequest extends Request where
  /-- `new_id("msg")`, or `new_id("gmsg")`. -/
  newMessageId : String
  /-- `new_id("op")`. -/
  newOperationId : String
  /-- `str.lower()`. -/
  lower : String → String
  /-- `datetime.fromisoformat` reads the text. -/
  isIsoFormat : String → Bool

/-! ### Envelopes -/

/-- The keys a direct body may have beside those of its content type. -/
def DIRECT_BODY_EXTENSION_KEYS : List String :=
  ["conversation_id", "reply_to_message_id", "annotations"]

/-- The keys the body of a group message may have. -/
def GROUP_BODY_EXTENSION_KEYS : List String :=
  ["thread_id", "reply_to_message_id", "annotations", "expected_group_state_version"]

/-- The content type of an attachment manifest. -/
def ATTACHMENT_MANIFEST_CONTENT_TYPE : String := "application/anp-attachment-manifest+json"

/-- A dictionary member of the parameters, when it is one. -/
def envelopePart (params : Obj) (key : String) : Option Obj := (params.get key).obj?

/-- `a or b` for dictionaries. -/
def dictOr (a : Option Obj) (b : Obj) : Obj := (a.filter fun o ↦ !o.isEmpty).getD b

/-- `_normalize_content_type`. -/
def normalizeContentType (outside : Outside) (lower : String → String) (raw : Json) : String :=
  let value := lower (String.ofList
    (stripChars (outside.str (raw.orElse (.str "text/plain"))).toList))
  if value = "" then "text/plain" else value

/-- `_validate_message_body_shape`; `extensionKeys` are those of the kind of message. -/
def validateMessageBodyShape (req : SendRequest) (body : Obj) (contentType : Json)
    (extensionKeys : List String) : Result Unit := do
  let normalized := normalizeContentType req.outside req.lower contentType
  let data : Obj := [("content_type", contentType)]
  let field ←
    if normalized = "text/plain" then do
      require (body.get "text").str?.isSome (.invalidParams "message_body_text_required" data)
      pure "text"
    else if normalized = "application/json" ∨ normalized = ATTACHMENT_MANIFEST_CONTENT_TYPE then do
      require (body.get "payload").obj?.isSome
        (.invalidParams "message_body_payload_object_required" data)
      pure "payload"
    else do
      require (!isBlank (req.outside.str ((body.get "payload_b64u").orElse (.str ""))))
        (.invalidParams "message_body_payload_b64u_required" data)
      pure "payload_b64u"
  let extra := (((body.map Prod.fst).dedup.filter fun k ↦
    !(k = field || extensionKeys.contains k))).insertionSort (· ≤ ·)
  require extra.isEmpty (.invalidParams "message_body_fields_mismatch_content_type"
    (data ++ [("fields", .arr (extra.map .str))]))

/-- `_should_validate_body_shape`. -/
def shouldValidateBodyShape (req : SendRequest) (params : Obj) (contentType : Json) : Bool :=
  (envelopePart params "_anp_body").isSome ||
    normalizeContentType req.outside req.lower contentType ≠ "text/plain"

/-- `_is_anp_envelope`. -/
def isAnpEnvelope (params : Obj) : Bool :=
  (envelopePart params "_anp_body").isSome || (envelopePart params "_anp_meta").isSome

/-- `_validate_send_envelope_meta`; a group message may also be of the version 2 profile. -/
def validateSendEnvelopeMeta (params metaObj : Obj) (targetKind : String) (targetDid : Json) :
    Result Unit :=
  if !isAnpEnvelope params then .ok ()
  else do
    let expected := if targetKind = "group" then "anp.group.base.v1" else "anp.direct.base.v1"
    let profile ← requireText (metaObj.get "profile") "anp_meta_profile_required"
    require (profile = expected || targetKind = "group" && profile = "anp.group.base.v2")
      (.invalidParams "anp_meta_profile_mismatch"
        [("expected", .str expected), ("actual", .str profile)])
    let security ← requireText (metaObj.get "security_profile") "anp_meta_security_profile_required"
    require (security = "transport-protected") (.invalidParams "anp_meta_security_profile_mismatch"
      [("expected", .str "transport-protected"), ("actual", .str security)])
    let _ ← requireText (metaObj.get "sender_did") "anp_meta_sender_did_required"
    let target ← orRaise (.invalidParams "anp_meta_target_required") (metaObj.get "target").obj?
    let kind ← requireText (Obj.get target "kind") "anp_meta_target_kind_required"
    require (kind = targetKind) (.invalidParams "anp_meta_target_kind_mismatch"
      [("expected", .str targetKind), ("actual", .str kind)])
    let metaTargetDid ← requireText (Obj.get target "did") "anp_meta_target_did_required"
    require (!targetDid.truthy || targetDid.isStr metaTargetDid)
      (.invalidParams "anp_meta_target_did_mismatch"
        [("expected", targetDid), ("actual", .str metaTargetDid)])
    let _ ← requireText (metaObj.get "operation_id") "anp_meta_operation_id_required"
    let _ ← requireText (metaObj.get "message_id") "anp_meta_message_id_required"
    let _ ← requireText (metaObj.get "content_type") "anp_meta_content_type_required"

/-- `_direct_body`. -/
def directBody (params : Obj) (contentType : Json) : Obj :=
  match params.get "body" with
  | .obj body => body
  | _ =>
    if params.has "payload" then [("payload", params.get "payload")]
    else if params.has "payload_b64u" then [("payload_b64u", params.get "payload_b64u")]
    else [("content_type", contentType), ("text", params.getD "text" (.str ""))]

/-- `_is_daemon_heartbeat`. -/
def isDaemonHeartbeat (req : SendRequest) (metaObj body : Obj) (contentType : Json) : Bool :=
  (metaObj.get "profile").isStr "anp.direct.base.v1" &&
    (metaObj.get "security_profile").isStr "transport-protected" &&
    normalizeContentType req.outside req.lower ((metaObj.get "content_type").orElse contentType) =
      "application/json" &&
    normalizeContentType req.outside req.lower contentType = "application/json" &&
    match body.get "payload" with
    | .obj payload =>
      (Obj.get payload "schema").isStr "awiki.agent.status.v1" &&
        (Obj.get payload "status_scope").isStr "daemon" &&
        (Obj.get payload "message").isStr "daemon heartbeat"
    | _ => false

/-! ### Storing -/

/-- The arguments of `_store_direct_message`. -/
structure DirectCommand where
  sender : Json
  recipient : Json
  body : Obj
  contentType : Json
  messageId : Json
  operationId : Json
  idempotencyOperationId : Json
  senderLocal : Bool
  recipientLocal : Bool
  deliveryState : String := "accepted"
  finalAcceptance : Bool := true
  metaObj : Obj
  auth : Option Obj
  originProofVerified : Bool

/-- `_direct_sync_event_payload`. -/
def directSyncEventPayload (req : SendRequest) (messageId peerDid senderDid recipientDid : Json)
    (serverSeq : ℕ) (contentType : Json) : Obj :=
  [("thread_kind", .str "direct"),
    ("thread", .obj [("kind", .str "direct"), ("peer_did", peerDid)]),
    ("message", .obj [("id", messageId), ("message_id", messageId),
      ("server_seq", .str (toString serverSeq)), ("sender_did", senderDid),
      ("receiver_did", recipientDid), ("recipient_did", recipientDid),
      ("content_type", .str (normalizeContentType req.outside req.lower contentType))])]

/-- The fields in which a stored message differs from a repeated request. -/
def directConflicts (row : DirectMessage) (c : DirectCommand) : List String :=
  [(!c.messageId.isStr row.messageId, "message_id"), (!c.sender.isStr row.senderDid, "sender_did"),
    (!c.recipient.isStr row.recipientDid, "recipient_did"),
    (!c.contentType.isStr row.contentType, "content_type"),
    (!Json.identical (.obj row.body) (.obj c.body), "body"),
    (!c.idempotencyOperationId.isNull &&
      !row.operationId.any fun id ↦ c.idempotencyOperationId.isStr id, "operation_id")].filterMap
    fun p ↦ if p.1 then some p.2 else none

/-- `_direct_idempotent_result_or_raise`. -/
def directIdempotentResultOrRaise (row : DirectMessage) (c : DirectCommand) : Result Obj := do
  let fields := directConflicts row c
  require fields.isEmpty (.conflict "message_id_conflict"
    [("message_id", .str row.messageId), ("fields", .arr (fields.map .str))])
  return [
    ("accepted", .bool (["accepted", "delivered"].contains c.deliveryState)),
    ("message_id", .str row.messageId),
    ("operation_id", (textOrNull row.operationId).orElse c.idempotencyOperationId),
    ("server_seq", .int row.serverSeq), ("sender_did", .str row.senderDid),
    ("recipient_did", .str row.recipientDid), ("target_did", .str row.recipientDid),
    ("delivery_state", .str c.deliveryState), ("final_acceptance", .bool c.finalAcceptance),
    ("accepted_at", .str row.createdAt), ("content_type", .str row.contentType),
    ("body", .obj row.body), ("idempotent_replay", .bool true)]

/-- `SELECT COALESCE(MAX(server_seq), 0) + 1`. -/
def nextSeq (numbers : List ℕ) : ℕ := numbers.foldr max 0 + 1

/-- The row of a new message. -/
def directMessageRow (req : SendRequest) (c : DirectCommand) (seq : ℕ) : Result DirectMessage := do
  let text := bindTextNotNull req.outside.reprFloat
  return {
    messageId := ← text c.messageId
    senderDid := ← text c.sender
    recipientDid := ← text c.recipient
    operationId := ← bindText req.outside.reprFloat c.operationId
    body := c.body
    contentType := ← text c.contentType
    createdAt := req.outside.now
    serverSeq := seq
    metaJson := if c.metaObj.isEmpty then none else some c.metaObj
    originAuth := c.auth.filter fun a ↦ !a.isEmpty
    originProofVerified := c.originProofVerified
    authoritativeSenderDid := ← text c.sender
    securityProfile := req.outside.str
      ((c.metaObj.get "security_profile").orElse (.str "transport-protected")) }

/-- `INSERT INTO direct_messages`: the message id is the primary key, and a sender uses an operation
id once. **Nothing constrains `server_seq`.** -/
def insertDirectMessage (st : Store) (row : DirectMessage) : Result Store := do
  require (st.directMessages.all fun m ↦
      !decide (m.senderDid = row.senderDid ∧ m.operationId ≠ none ∧
        m.operationId = row.operationId))
    (.integrity "direct_messages_sender_operation")
  let rows ← orRaise (.integrity "direct_messages")
    (Table.insert? DirectMessage.messageId row st.directMessages)
  return { st with directMessages := rows }

/-- The view of one side of the conversation and the entry of its sync log. -/
def showDirectMessage (req : SendRequest) (c : DirectCommand) (row : DirectMessage) (owner : String)
    (peer : Json) (peerDid : String) : Statements Unit := do
  .write fun st ↦ .ok { st with
    directMessageViews := Table.insertOrIgnore DirectMessageView.key
      { ownerDid := owner, messageId := row.messageId, peerDid := peerDid } st.directMessageViews }
  .write fun st ↦ .ok (addSyncEvent st owner "direct.message.created"
    (directSyncEventPayload req c.messageId peer c.sender c.recipient row.serverSeq c.contentType)
    req.outside.now)

/-- A stored message with the operation id of a request. -/
def messageOfOperation (req : SendRequest) (c : DirectCommand) (st : Store) :
    Result (Option DirectMessage) := do
  if c.idempotencyOperationId.isNull then return none
  else
    let sender ← bindText req.outside.reprFloat c.sender
    let operationId ← bindText req.outside.reprFloat c.idempotencyOperationId
    return st.directMessages.find? fun m ↦
      decide (some m.senderDid = sender ∧ operationId ≠ none ∧ m.operationId = operationId)

/-- A stored message with the message id of a request. -/
def messageOfId (req : SendRequest) (c : DirectCommand) (st : Store) :
    Result (Option DirectMessage) := do
  let messageId ← bindText req.outside.reprFloat c.messageId
  return st.directMessages.find? fun m ↦ decide (some m.messageId = messageId)

/-- The answer to a stored message. -/
def directAccepted (req : SendRequest) (c : DirectCommand) (seq : ℕ) : Obj :=
  [("accepted", .bool (["accepted", "delivered"].contains c.deliveryState)),
    ("message_id", c.messageId), ("operation_id", c.operationId), ("server_seq", .int seq),
    ("sender_did", c.sender), ("recipient_did", c.recipient), ("target_did", c.recipient),
    ("delivery_state", .str c.deliveryState), ("final_acceptance", .bool c.finalAcceptance),
    ("accepted_at", .str req.outside.now), ("content_type", c.contentType), ("body", .obj c.body)]

/-- The write statements of `_store_direct_message`, from the `INSERT` on. -/
def insertAndShow (req : SendRequest) (c : DirectCommand) (seq : ℕ) : Statements Obj := do
  let row ← check (directMessageRow req c seq)
  .write fun st ↦ insertDirectMessage st row
  .onlyIf c.senderLocal (showDirectMessage req c row row.senderDid c.recipient row.recipientDid)
  .onlyIf c.recipientLocal (showDirectMessage req c row row.recipientDid c.sender row.senderDid)
  return directAccepted req c seq

/-- `_store_direct_message`. -/
def storeDirectMessage (req : SendRequest) (c : DirectCommand) : Statements Obj := do
  let operationExisting ← .query (messageOfOperation req c)
  match ← check operationExisting with
  | some row => check (directIdempotentResultOrRaise row c)
  | none =>
    let existing ← .query (messageOfId req c)
    match ← check existing with
    | some row => check (directIdempotentResultOrRaise row c)
    | none =>
      let seq ← .query fun st ↦ nextSeq (st.directMessages.map DirectMessage.serverSeq)
      insertAndShow req c seq

/-! ### A recipient elsewhere -/

/-- `AwikiRemoteDeliveryError`. -/
def remoteDelivery (message : String) (recipient : Json) (data : Obj := []) : AwikiError :=
  .invalidParams message ([("recipient_did", recipient)] ++ data)

/-- `_validate_remote_direct_result`. -/
def validateRemoteDirectResult (req : SendRequest) (result : Obj)
    (recipient operationId messageId : Json) : Result Unit := do
  let data : Obj := [("remote_result", .obj result)]
  require (result.get "accepted").isTrue
    (remoteDelivery "remote_direct_not_accepted" recipient data)
  require (Json.same (result.get "message_id") messageId)
    (remoteDelivery "remote_direct_message_id_mismatch" recipient data)
  require (Json.same (result.get "operation_id") operationId)
    (remoteDelivery "remote_direct_operation_id_mismatch" recipient data)
  require (Json.same (result.get "target_did") recipient)
    (remoteDelivery "remote_direct_target_did_mismatch" recipient data)
  let acceptedAt ← orRaise (remoteDelivery "remote_direct_accepted_at_required" recipient data)
    (result.get "accepted_at").str?
  require (req.isIsoFormat acceptedAt)
    (remoteDelivery "remote_direct_accepted_at_invalid" recipient data)
  require (!(result.get "delivery_state").isStr "ephemeral")
    (remoteDelivery "remote_direct_ephemeral_not_durable" recipient data)

/-- The reply of the other service; only errors about the request itself are passed on. -/
def postRemoteDirect (req : SendRequest) (service payload : Obj) (recipient : Json) : Result Obj :=
  match req.outside.postSigned service payload with
  | .ok response => .ok response
  | .error e =>
    if e.kind = .invalidParams ∨ e.kind = .notFound then .error e
    else .error (remoteDelivery "remote_delivery_failed" recipient [("detail", .str e.message)])

/-- `_send_remote_direct`. -/
def sendRemoteDirect (req : SendRequest) (recipientDid : String)
    (recipient messageId operationId : Json) (metaObj body : Obj) (auth : Option Obj) :
    Result Obj := do
  let service ← req.outside.discoverAnpService recipientDid
  let payload : Obj :=
    [("jsonrpc", .str "2.0"), ("method", .str "direct.send"),
      ("params", .obj [("meta", .obj metaObj), ("auth", (auth.map Json.obj).getD .null),
        ("body", .obj body)]),
      ("id", operationId)]
  let response ← postRemoteDirect req service payload recipient
  require (!response.has "error") (remoteDelivery "remote_delivery_failed" recipient
    [("remote_error", response.get "error")])
  let result ← orRaise (remoteDelivery "remote_direct_result_required" recipient)
    (response.get "result").obj?
  validateRemoteDirectResult req result recipient operationId messageId
  return result

/-! ### The handler -/

/-- `_accept_ephemeral_direct`. -/
def acceptEphemeralDirect (req : SendRequest) (c : DirectCommand) : Obj :=
  [("accepted", .bool true), ("message_id", c.messageId), ("operation_id", c.operationId),
    ("sender_did", c.sender), ("recipient_did", c.recipient), ("target_did", c.recipient),
    ("delivery_state", .str "ephemeral"), ("final_acceptance", .bool true),
    ("accepted_at", .str req.outside.now), ("content_type", c.contentType), ("body", .obj c.body)]

/-- The origin proof of the sender, whose document is looked up first. -/
def verifySenderProof (req : SendRequest) (method sender : String) (metaObj body : Obj)
    (auth : Option Obj) : Statements Unit := do
  let document ← .query fun st ↦ resolveDidDocumentForProof st req.toRequest sender
  let document ← check document
  check
    (validateOriginProofStructure req.toRequest (auth.getD []) method metaObj body document none)

/-- A send that arrived from another service. -/
def receiveDirect (settings : Settings) (req : SendRequest) (c : DirectCommand) (sender : String) :
    Statements Obj := do
  check (require c.recipientLocal
    (.invalidParams "recipient_not_local" [("recipient_did", c.recipient)]))
  verifySenderProof req "direct.send" sender c.metaObj c.body c.auth
  let _ ← check (verifyPeerRequestSignature settings req.toRequest sender)
  if isDaemonHeartbeat req c.metaObj c.body c.contentType then return acceptEphemeralDirect req c
  else storeDirectMessage req { c with recipientLocal := true, originProofVerified := true }

/-- A send of a local user to a recipient on another service. -/
def sendElsewhere (settings : Settings) (req : SendRequest) (c : DirectCommand)
    (sender recipient : String) : Statements Obj := do
  check (require (!didBelongsToDomain recipient settings.didDomain)
    (.notFound "recipient_not_found" [("recipient_did", c.recipient)]))
  verifySenderProof req "direct.send" sender c.metaObj c.body c.auth
  let existing ← .query (messageOfId req c)
  match ← check existing with
  | some row => check (directIdempotentResultOrRaise row c)
  | none =>
    let remote ← check (sendRemoteDirect req recipient c.recipient c.messageId c.operationId
      c.metaObj c.body c.auth)
    storeDirectMessage req { c with
      senderLocal := true
      recipientLocal := false
      deliveryState := req.outside.str ((remote.get "delivery_state").orElse (.str "accepted"))
      finalAcceptance := (remote.getD "final_acceptance" (.bool true)).truthy
      originProofVerified := true }

/-- A send of a local user, once its proof has been checked. A message between local users is
stored with the body of the command, not that of the envelope. -/
def sendOnward (settings : Settings) (req : SendRequest) (c : DirectCommand) (body : Obj)
    (sender recipient : String) : Statements Obj :=
  if c.recipientLocal then
    if isDaemonHeartbeat req c.metaObj c.body c.contentType then pure (acceptEphemeralDirect req c)
    else storeDirectMessage req { c with body := body }
  else sendElsewhere settings req c sender recipient

/-- `direct_send`. -/
def directSend (settings : Settings) (req : SendRequest) (params : Obj) : Statements Obj := do
  let publicRpc := decide (req.surface = .publicRpc)
  let metaObj := (envelopePart params "_anp_meta").getD []
  let auth := envelopePart params "_anp_auth"
  let authenticated ← check (currentDid req.toRequest !publicRpc)
  let sender := (params.get "sender_did").orElse (textOrNull authenticated)
  let recipient := (params.get "recipient_did").orElse (params.get "to")
  let contentType := ((params.get "content_type").orElse (metaObj.get "content_type")).orElse
    (.str "text/plain")
  let body := directBody params contentType
  let proofBody := dictOr (envelopePart params "_anp_body") body
  check (validateSendEnvelopeMeta params metaObj "agent" recipient)
  .onlyIf (shouldValidateBodyShape req params contentType)
    (check (validateMessageBodyShape req proofBody contentType DIRECT_BODY_EXTENSION_KEYS))
  check (require (sender.truthy && recipient.truthy)
    (.invalidParams "sender_and_recipient_required"))
  check (require (publicRpc || authenticated.all fun did ↦ sender.isStr did)
    (.unauthorized "sender_did_mismatch"))
  let operationId := params.get "operation_id"
  let senderDid ← check (bindTextNotNull req.outside.reprFloat sender)
  let senderLocal ← .query fun st ↦ userExists st senderDid
  let recipientDid ← check (bindTextNotNull req.outside.reprFloat recipient)
  let recipientLocal ← .query fun st ↦ userExists st recipientDid
  let c : DirectCommand :=
    { sender := sender, recipient := recipient, body := proofBody, contentType := contentType,
      messageId := (params.get "message_id").orElse (.str req.newMessageId),
      operationId := operationId.orElse (.str req.newOperationId),
      idempotencyOperationId := operationId, senderLocal := senderLocal,
      recipientLocal := recipientLocal, metaObj := metaObj, auth := auth,
      originProofVerified := isAnpEnvelope params }
  if publicRpc then receiveDirect settings req c senderDid
  else
    check (require senderLocal (.unauthorized "sender_not_local" [("sender_did", sender)]))
    .onlyIf (isAnpEnvelope params)
      (verifySenderProof req "direct.send" senderDid metaObj proofBody auth)
    sendOnward settings req c body senderDid recipientDid

/-! ### What a send does, statement by statement

Whatever `direct_send` does before `_store_direct_message` only reads, so a rule about that function
carries over to every send; and of the writes of that function only the first is about
`direct_messages`. -/

section Guards

variable {I V : Store → Prop} {R : Option Store → Store → Store → Prop} {W : Obj → Store → Prop}
  {last : Option Store} {settings : Settings} {req : SendRequest}

/-- `V` survives a new view of this message. -/
def SurvivesViewsOf (messageId : String) (V : Store → Prop) : Prop :=
  ∀ st (view : DirectMessageView), view.messageId = messageId → V st →
    V { st with
      directMessageViews :=
        Table.insertOrIgnore DirectMessageView.key view st.directMessageViews }

/-- `V` survives a new announcement in the sync log. -/
def SurvivesEvents (V : Store → Prop) : Prop :=
  ∀ st owner eventType payload now, Announcement eventType payload → V st →
    V (addSyncEvent st owner eventType payload now)

/-- The view of one side and its entry in the log. -/
theorem showDirectMessage_wp {row : DirectMessage} (hviews : SurvivesViewsOf row.messageId V)
    (hevents : SurvivesEvents V) {c : DirectCommand} {owner : String} {peer : Json}
    {peerDid : String} {s : Store} (h : V s) :
    (showDirectMessage req c row owner peer peerDid).WP (fun _ s ↦ V s) s := by
  refine (Program.wp_bind _ _ _ _).mpr ?_
  rintro _ ⟨⟩ _ ⟨⟩
  exact hevents _ _ _ _ _ (.plain (by decide)) (hviews _ _ rfl h)

/-- What holds after the `INSERT` of a row holds at the commit. -/
theorem insertAndShow_guarded {V : DirectMessage → Store → Prop}
    {Q : Obj → Option Store → Prop}
    (hviews : ∀ row, SurvivesViewsOf row.messageId (V row))
    (hevents : ∀ row, SurvivesEvents (V row)) {c : DirectCommand} {seq : ℕ}
    (hinsert : ∀ row s s', directMessageRow req c seq = .ok row → I s →
      insertDirectMessage s row = .ok s' → R last s s' → V row s')
    (hdone : ∀ row s, directMessageRow req c seq = .ok row → V row s →
      W (directAccepted req c seq) s) :
    (insertAndShow req c seq).Guarded I R Q W last := by
  refine Program.guarded_bind_ofExcept fun row hrow ↦ Program.guarded_bind_write ?_
  intro s s' hs hs' hR
  have hV := hinsert row s s' hrow hs hs' hR
  have hshow : ∀ {b : Bool} {owner peerDid : String} {peer : Json} {s : Store}, V row s →
      (Program.onlyIf b (showDirectMessage req c row owner peer peerDid)).WP
        (fun _ s ↦ V row s) s :=
    fun h ↦ Program.wp_onlyIf h fun _ ↦ showDirectMessage_wp (hviews row) (hevents row) h
  refine (Program.wp_bind _ _ _ _).mpr ((hshow hV).mono fun _ s₁ h₁ ↦ ?_)
  exact (Program.wp_bind _ _ _ _).mpr ((hshow h₁).mono fun _ _ h₂ ↦ hdone row _ hrow h₂)

/-- The number a message is inserted with was drawn from the last read before. -/
theorem storeDirectMessage_guarded
    (h : ∀ c read, I read → (insertAndShow req c
      (nextSeq (read.directMessages.map DirectMessage.serverSeq))).Guarded I R (fun _ _ ↦ True) W
        (some read))
    (c : DirectCommand) (last : Option Store) :
    (storeDirectMessage req c).Guarded I R (fun _ _ ↦ True) W last := by
  refine Program.guarded_bind_query fun _ _ ↦ Program.guarded_bind_ofExcept fun existing _ ↦ ?_
  cases existing with
  | some row => exact Program.guarded_ofExcept.mpr fun _ _ ↦ trivial
  | none =>
    refine Program.guarded_bind_query fun _ _ ↦ Program.guarded_bind_ofExcept fun existing _ ↦ ?_
    cases existing with
    | some row => exact Program.guarded_ofExcept.mpr fun _ _ ↦ trivial
    | none => exact Program.guarded_bind_query fun read hread ↦ h c read hread

/-- The origin proof is checked without a write. -/
theorem verifySenderProof_guarded {Q : Unit → Option Store → Prop} {V : Unit → Store → Prop}
    {method sender : String} {metaObj body : Obj} {auth : Option Obj} (h : ∀ l, Q () l) :
    (verifySenderProof req method sender metaObj body auth).Guarded I R Q V last :=
  Program.guarded_bind_query fun s _ ↦ Program.guarded_bind_ofExcept fun _ _ ↦
    Program.guarded_ofExcept.mpr fun _ _ ↦ h (some s)

variable (hstore : ∀ c l, (storeDirectMessage req c).Guarded I R (fun _ _ ↦ True) W l)

include hstore

/-- A send from another service writes nothing before it is stored. -/
theorem receiveDirect_guarded (c : DirectCommand) (sender : String) :
    (receiveDirect settings req c sender).Guarded I R (fun _ _ ↦ True) W last := by
  refine Program.guarded_bind_ofExcept fun _ _ ↦ ?_
  refine (Program.guarded_bind _ _).mpr (verifySenderProof_guarded fun l ↦ ?_)
  refine Program.guarded_bind_ofExcept fun _ _ ↦ ?_
  split
  · trivial
  · exact hstore _ l

/-- Nor does a send to a recipient elsewhere, -/
theorem sendElsewhere_guarded (c : DirectCommand) (sender recipient : String) :
    (sendElsewhere settings req c sender recipient).Guarded I R (fun _ _ ↦ True) W last := by
  refine Program.guarded_bind_ofExcept fun _ _ ↦ ?_
  refine (Program.guarded_bind _ _).mpr (verifySenderProof_guarded fun l ↦ ?_)
  refine Program.guarded_bind_query fun s _ ↦ Program.guarded_bind_ofExcept fun existing _ ↦ ?_
  cases existing with
  | some row => exact Program.guarded_ofExcept.mpr fun _ _ ↦ trivial
  | none => exact Program.guarded_bind_ofExcept fun _ _ ↦ hstore _ (some s)

/-- nor a send of a local user to anybody. -/
theorem sendOnward_guarded (c : DirectCommand) (body : Obj) (sender recipient : String) :
    (sendOnward settings req c body sender recipient).Guarded I R (fun _ _ ↦ True) W last := by
  unfold sendOnward
  split
  · split
    · trivial
    · exact hstore _ last
  · exact sendElsewhere_guarded hstore c sender recipient

/-- **A send writes only in `_store_direct_message`.** -/
theorem directSend_guarded (params : Obj) :
    (directSend settings req params).Guarded I R (fun _ _ ↦ True) W last := by
  refine Program.guarded_bind_ofExcept fun authenticated _ ↦ ?_
  refine Program.guarded_bind_ofExcept fun _ _ ↦ ?_
  have hshape : ∀ {Q : Unit → Option Store → Prop} {V : Unit → Store → Prop} {c : Bool}
      {x : Result Unit}, Q () last → (Program.onlyIf c (check x)).Guarded I R Q V last :=
    fun h ↦ Program.guarded_onlyIf h fun _ ↦ Program.guarded_ofExcept.mpr fun _ _ ↦ h
  refine (Program.guarded_bind _ _).mpr (hshape ?_)
  refine Program.guarded_bind_ofExcept fun _ _ ↦ Program.guarded_bind_ofExcept fun _ _ ↦ ?_
  refine Program.guarded_bind_ofExcept fun senderDid _ ↦ Program.guarded_bind_query fun s _ ↦ ?_
  refine Program.guarded_bind_ofExcept fun recipientDid _ ↦ Program.guarded_bind_query fun s' _ ↦ ?_
  dsimp only
  split
  · exact receiveDirect_guarded hstore _ _
  · refine Program.guarded_bind_ofExcept fun _ _ ↦ (Program.guarded_bind _ _).mpr ?_
    exact Program.guarded_onlyIf (sendOnward_guarded hstore _ _ _ _) fun _ ↦
      verifySenderProof_guarded fun _ ↦ sendOnward_guarded hstore _ _ _ _

end Guards

end Awiki
