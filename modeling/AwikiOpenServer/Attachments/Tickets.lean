import AwikiOpenServer.Attachments.Lifecycle
import AwikiOpenServer.Lib.Urls

/-!
# Download tickets

An object is downloaded with a ticket: a row of `download_tickets` that names the object and a time.
`attachment_ticket` issues one to the owner of the object, or to somebody the owner has sent it to:
the recipient of a direct message of the owner, or a member of a group the owner has posted to,
whose message lists the object. `download_object` looks at the ticket only.

`download_was_granted` follows a download back through any run to the request its ticket was issued
for: whoever that was **was authenticated and had a right to the object at that moment**.

## Who asks

A request is local, with a bearer token, or comes from another service with a signature. A local one
without a binding is the owner's own; every other names its requester. `Identified` is what
authentication comes to, and it is a statement about the request: `ticketClaim_eq_ok` shows that
nobody gets past the checks without it. The check of a service signature itself is a parameter of
the request, as for the other peer requests.

## What a right is

`MayDownload` says in the terms of the tables what the source checks step by step: the requester
owns the object, or there is a stored message of the owner to them, or to a group they are in, that
lists it. A ticket grants the object *the request asks for* (`RequestsObject`), by its id or by the
last part of its URI, and no other; `Granted` joins the two, and `attachmentTicket_eq_ok` is that a
successful request issues one ticket, for that object, to a requester who has the right.

## Runs

A run mixes requests for tickets, served or refused, the calls about slots of
`Attachments/Lifecycle.lean`, and whatever else leaves tickets and objects alone (`TicketStep`). Two
facts are carried through: objects are never taken away and keep their ids apart
(`TicketStep.objects`), and only a request for a ticket makes one (`TicketStep.exists_of_new`). The
first turns the object of the ticket into the object that is served; the second finds the request.

The other way round, a ticket lasts: `issued_ticket_lasts` serves the object whenever the ticket is
presented before its expiry, whatever requests came between, and a cleanup at such a time spares it.
-/

namespace Awiki

open Py Runs Transactions

/-- A request for a ticket. -/
structure TicketRequest extends AttachmentRequest where
  /-- Fifteen minutes from now, as text. -/
  ticketExpiry : String
  /-- `urlsplit` accepts the authority of a URL. -/
  isAuthority : String → Bool

/-- `str.strip()`. -/
def stripText (s : String) : String := String.ofList (stripChars s.toList)

/-! ### Parameters -/

/-- `_object_id_from_uri`. -/
def objectIdFromUri (req : TicketRequest) (objectUri : Json) : Result (Option String) :=
  match objectUri with
  | .str uri =>
    if isBlank uri then .ok none
    else do
      let parsed ← orRaise (.value "Invalid IPv6 URL")
        (Url.parsedPath req.isAuthority (stripText uri))
      let path := if parsed = "" then stripText uri else parsed
      let trimmed := (path.toList.reverse.dropWhile (· = '/'))
      let objectId := String.ofList ((trimmed.takeWhile (· ≠ '/')).reverse)
      return if objectId = "" then none else some objectId
  | _ => .ok none

/-- `_is_anp_attachment_ticket_request`. -/
def isAnpTicketRequest (params : Obj) : Bool :=
  isCanonical params ||
    ["requester_did", "sender_did", "message_id", "message_security_profile", "message_target_did",
      "group_did"].any params.has

/-- `_normalize_ticket_security_profile`. -/
def normalizeTicketSecurityProfile (req : TicketRequest) (raw : Json) : Result String := do
  let value := stripText (req.outside.str (raw.orElse (.str "")))
  require (["transport-protected", "direct-e2ee", "group-e2ee"].contains value)
    (.invalidParams "message_security_profile_required")
  return value

/-- `_require_ticket_string`. -/
def requireTicketString (params : Obj) (key : String) : Result String := do
  let value ← requireText (params.get key) (key ++ "_required")
  return stripText value

/-- `_ticket_object_uri`. -/
def ticketObjectUri (settings : AttachmentSettings) (object : AttachmentObject) : String :=
  (object.objectUri.filter fun uri ↦ !isBlank uri).getD (settings.objectDownloadUri object.objectId)

/-- Where the message is that lists the object: one to a recipient, or one in a group. -/
inductive TicketContext where
  | direct (messageTargetDid : String)
  | group (groupDid : String)

/-- What a ticket is bound to. -/
structure TicketBinding where
  attachmentId : String
  objectUri : String
  requesterDid : String
  messageId : String
  messageSecurityProfile : String
  context : TicketContext

/-- A text that is not blank. -/
def presentText : Json → Option String
  | .str s => if isBlank s then none else some s
  | _ => none

/-- What `_ticket_direct_binding` and `_ticket_group_binding` have in common; `context` is the part
in which they differ. -/
def ticketBinding (req : TicketRequest) (params : Obj)
    (context : String → Result TicketContext) : Result TicketBinding := do
  let attachmentId ← requireTicketString params "attachment_id"
  let objectUri ← requireTicketString params "object_uri"
  let requesterDid ← requireTicketString params "requester_did"
  let messageId ← requireTicketString params "message_id"
  let messageSecurityProfile ←
    normalizeTicketSecurityProfile req (params.get "message_security_profile")
  require (!((presentText (params.get "message_target_did")).isSome &&
    (presentText (params.get "group_did")).isSome))
    (.invalidParams "exactly_one_message_target_or_group_required")
  let context ← context requesterDid
  return ⟨attachmentId, objectUri, requesterDid, messageId, messageSecurityProfile, context⟩

/-- `_ticket_direct_binding`. -/
def ticketDirectBinding (req : TicketRequest) (params : Obj) : Result TicketBinding :=
  ticketBinding req params fun requesterDid ↦ do
    let target ← orRaise (.invalidParams "message_target_did_required")
      (presentText (params.get "message_target_did"))
    require (target = requesterDid) (.unauthorized "attachment_requester_target_mismatch")
    return .direct target

/-- `_ticket_group_binding`. -/
def ticketGroupBinding (req : TicketRequest) (params : Obj) : Result TicketBinding :=
  ticketBinding req params fun _ ↦ do
    let groupDid ← orRaise (.invalidParams "group_did_required")
      (presentText (params.get "group_did"))
    return .group groupDid

/-- `_validate_attachment_ticket_meta`. -/
def validateAttachmentTicketMeta (settings : Settings) (params : Obj) : Result Unit :=
  match envelopePart params "_anp_meta" with
  | none => .ok ()
  | some metaObj => do
    let mismatch (message expected : String) (actual : Json) : AwikiError :=
      .invalidParams message [("expected", .str expected), ("actual", actual)]
    let profile ← requireText (metaObj.get "profile") "anp_attachment_profile_required"
    require (profile = "anp.attachment.v1")
      (mismatch "anp_attachment_profile_mismatch" "anp.attachment.v1" (.str profile))
    let security ← requireText (metaObj.get "security_profile")
      "anp_attachment_security_profile_required"
    require (security = "transport-protected")
      (mismatch "anp_attachment_security_profile_mismatch" "transport-protected" (.str security))
    let _ ← requireText (metaObj.get "sender_did") "anp_meta_sender_did_required"
    let _ ← requireText (metaObj.get "operation_id") "anp_meta_operation_id_required"
    let target ← orRaise (.invalidParams "anp_meta_target_required") (metaObj.get "target").obj?
    require ((Obj.get target "kind").isStr "service")
      (mismatch "anp_meta_target_kind_mismatch" "service" (Obj.get target "kind"))
    require ((Obj.get target "did").isStr settings.serviceDid)
      (mismatch "anp_meta_target_did_mismatch" settings.serviceDid (Obj.get target "did"))

/-! ### The message that lists an object -/

/-- An attachment of a manifest, under its id and the URI of its object. -/
def isAttachmentOf (attachmentId objectUri : String) (attachment : Json) : Bool :=
  match attachment.obj? with
  | some attachment =>
    match (Obj.get attachment "access_info").obj? with
    | some accessInfo => (Obj.get attachment "attachment_id").isStr attachmentId &&
        (Obj.get accessInfo "object_uri").isStr objectUri
    | none => false
  | none => false

/-- `_attachment_manifest_has_object`. -/
def attachmentManifestHasObject (body : Obj) (attachmentId objectUri : String) : Bool :=
  match (((body.get "payload").obj?.getD []).get "attachments").arr? with
  | some attachments => attachments.any (isAttachmentOf attachmentId objectUri)
  | none => false

/-- The first of the messages with this id, or the error when it does not list the object. -/
def requireManifest {μ : Type} (body : μ → Obj) (binding : TicketBinding) (found : Option μ) :
    Result Unit :=
  require (found.any fun m ↦
    attachmentManifestHasObject (body m) binding.attachmentId binding.objectUri)
    (.unauthorized "anp.attachment.grant_not_found")

/-- `_ensure_direct_attachment_context`. -/
def ensureDirectAttachmentContext (st : Store) (binding : TicketBinding)
    (senderDid ownerDid : String) (target : String) : Result Unit :=
  if binding.requesterDid = senderDid ∧ senderDid = ownerDid then .ok ()
  else requireManifest DirectMessage.body binding (st.directMessages.find? fun m ↦
    decide (m.messageId = binding.messageId ∧ m.senderDid = senderDid ∧ m.recipientDid = target))

/-- The body of the message of a group: of the old groups, or of a hosted one. -/
def groupMessageBody? (st : Store) (groupDid messageId senderDid : String) : Option Obj :=
  let old := st.groupMessages.find? fun m ↦
    decide (m.messageId = messageId ∧ m.groupDid = groupDid ∧ m.senderDid = senderDid)
  let hosted := st.hostedGroupMessages.find? fun m ↦
    decide (m.messageId = messageId ∧ m.groupDid = groupDid ∧ m.senderDid = senderDid)
  (old.map LegacyMessage.body).or (hosted.map HostedMessage.body)

/-- A member of the group: of the old groups, or an active one of a hosted group. -/
def isAttachmentMember (st : Store) (groupDid did : String) : Bool :=
  (st.groupMembers.any fun m ↦ decide (m.groupDid = groupDid ∧ m.memberDid = did)) ||
    st.hostedGroupMembers.any fun m ↦
      decide (m.groupDid = groupDid ∧ m.agentDid = did ∧ m.status = .active)

/-- `_ensure_group_attachment_context`. -/
def ensureGroupAttachmentContext (st : Store) (binding : TicketBinding)
    (senderDid groupDid : String) : Result Unit := do
  require (isAttachmentMember st groupDid binding.requesterDid)
    (.unauthorized "anp.attachment.unauthorized_requester")
  requireManifest id binding (groupMessageBody? st groupDid binding.messageId senderDid)

/-- The part of `attachment_ticket` that binds the ticket to the stored object. -/
def checkBinding (settings : AttachmentSettings) (st : Store) (object : AttachmentObject)
    (binding : TicketBinding) : Result Unit := do
  let mismatch (field : String) : AwikiError :=
    .invalidParams "anp.attachment.ticket_binding_mismatch" [("field", .str field)]
  require (binding.objectUri = ticketObjectUri settings object) (mismatch "object_uri")
  require ((object.sourceAttachmentId.filter (· ≠ "")).all (· = binding.attachmentId))
    (mismatch "attachment_id")
  match binding.context with
  | .group groupDid => ensureGroupAttachmentContext st binding object.ownerDid groupDid
  | .direct target => do
    require ([object.ownerDid, object.ownerDid, target].contains binding.requesterDid)
      (.unauthorized "anp.attachment.unauthorized_requester")
    ensureDirectAttachmentContext st binding object.ownerDid object.ownerDid target

/-! ### Issuing a ticket -/

/-- Who asks for the ticket, and what it is bound to. -/
structure TicketClaim where
  requester : Json
  binding : Option TicketBinding

/-- The object asked for: by its id, or by the last part of its URI. -/
def requestedObjectId (req : TicketRequest) (params : Obj) : Result Json :=
  if !(params.get "object_id").truthy && (params.get "object_uri").str?.isSome then
    (objectIdFromUri req (params.get "object_uri")).map textOrNull
  else .ok (params.get "object_id")

/-- The binding asked for. -/
def requestBinding (req : TicketRequest) (params : Obj) : Result TicketBinding :=
  if (params.get "group_did").truthy then ticketGroupBinding req params
  else ticketDirectBinding req params

/-- The meta of a request of the protocol is validated. -/
def checkTicketMeta (settings : Settings) (params : Obj) : Result Unit :=
  if isAnpTicketRequest params then validateAttachmentTicketMeta settings params else .ok ()

/-- The signature that stands for a requester of another service. -/
def checkHomeSignature (settings : Settings) (req : TicketRequest) (requester : String) :
    Result Unit :=
  if req.surface = .publicRpc then do
    let _ ← verifyPeerRequestSignature settings req.toRequest requester
  else .ok ()

/-- The part of `attachment_ticket` before the database: the object asked for, who asks, and the
binding. -/
def ticketClaim (settings : AttachmentSettings) (req : TicketRequest) (params : Obj) :
    Result (Json × TicketClaim) := do
  let objectId ← requestedObjectId req params
  require objectId.truthy (.invalidParams "object_id_required")
  let anpTicket := isAnpTicketRequest params
  checkTicketMeta settings.toSettings params
  let authenticated ← currentDid req.toRequest (decide (req.surface = .localRpc))
  let requester := (params.get "requester_did").orElse (textOrNull authenticated)
  require requester.truthy (.unauthorized "missing_requester_did")
  require ((authenticated.filter (· ≠ "")).all requester.isStr)
    (.unauthorized "requester_did_mismatch")
  if anpTicket then do
    let binding ← requestBinding req params
    checkHomeSignature settings.toSettings req binding.requesterDid
    return (objectId, ⟨.str binding.requesterDid, some binding⟩)
  else return (objectId, ⟨requester, none⟩)

/-- The check of a claim: its binding, or that the owner asks. -/
def checkClaim (settings : AttachmentSettings) (st : Store) (object : AttachmentObject)
    (claim : TicketClaim) : Result Unit :=
  match claim.binding with
  | some binding => checkBinding settings st object binding
  | none => require (claim.requester.isStr object.ownerDid)
    (.unauthorized "object_ticket_not_allowed")

/-- `INSERT INTO download_tickets`. -/
def insertTicket (row : DownloadTicket) (st : Store) : Result Store := do
  let rows ← orRaise (.integrity "download_tickets.ticket")
    (Table.insert? DownloadTicket.ticket row st.downloadTickets)
  return { st with downloadTickets := rows }

/-- The part of `attachment_ticket` with the database: the object and the store with the ticket. -/
def issueTicket (settings : AttachmentSettings) (req : TicketRequest) (objectId : Json)
    (claim : TicketClaim) (st : Store) : Result (AttachmentObject × Store) := do
  let bound ← bindText req.outside.reprFloat objectId
  let object ← orRaise (.notFound "object_not_found")
    (st.attachmentObjects.find? fun o ↦ decide (some o.objectId = bound))
  checkClaim settings st object claim
  let st' ← insertTicket ⟨newId "ticket" st.issued, object.objectId, req.ticketExpiry⟩
    { st with issued := st.issued + 1 }
  return (object, st')

/-- The members of a binding. -/
def bindingMembers (binding : TicketBinding) (ownerDid : String) : Obj :=
  [("attachment_id", .str binding.attachmentId), ("object_uri", .str binding.objectUri),
    ("requester_did", .str binding.requesterDid), ("message_id", .str binding.messageId),
    ("message_security_profile", .str binding.messageSecurityProfile),
    match binding.context with
    | .direct target => ("message_target_did", .str target)
    | .group groupDid => ("group_did", .str groupDid),
    ("sender_did", .str ownerDid)]

/-- The answer of `attachment_ticket`. -/
def ticketIssued (settings : AttachmentSettings) (req : TicketRequest) (params : Obj)
    (objectId : Json) (claim : TicketClaim) (object : AttachmentObject) (ticket : String) : Obj :=
  let attachmentId := (params.get "attachment_id").orElse (textOrNull object.sourceAttachmentId)
  let downloadUri := settings.objectDownloadUri (req.outside.str objectId) ++ "?ticket=" ++ ticket
  let ticketBinding : Obj := match claim.binding with
    | some binding => bindingMembers binding object.ownerDid
    | none => [("attachment_id", attachmentId),
        ("object_uri", .str (ticketObjectUri settings object)), ("requester_did", claim.requester)]
  let responseBinding := match envelopePart params "_anp_body" with
    | some body => body.erase "one_time"
    | none => ticketBinding
  canonicalAnswer (isAnpTicketRequest params)
    ["download_ticket_b64u", "expires_at", "ticket_binding"]
    [("ticket", .str ticket), ("download_ticket_b64u", .str ticket), ("object_id", objectId),
      ("attachment_id", attachmentId), ("download_url", .str downloadUri),
      ("download_uri", .str downloadUri),
      ("download_headers", .obj [("Authorization", .str ("Bearer " ++ ticket))]),
      ("ticket_binding", .obj responseBinding), ("expires_at", .str req.ticketExpiry)]

/-- `attachment_ticket`. -/
def attachmentTicket (settings : AttachmentSettings) (req : TicketRequest) (params : Obj)
    (st : Store) : Result (Obj × Store) := do
  let (objectId, claim) ← ticketClaim settings req params
  let (object, st') ← issueTicket settings req objectId claim st
  return (ticketIssued settings req params objectId claim object (newId "ticket" st.issued), st')

/-! ### Downloading -/

/-- The ticket of a download: the query's, or else the bearer token. -/
def downloadTicket (lower : String → String) (query authorization : Option String) :
    Option String :=
  match query.filter (· ≠ ""), authorization with
  | some ticket, _ => some ticket
  | none, some auth =>
    if startsWith "bearer " (lower auth) then
      some (String.ofList ((auth.toList.dropWhile (· ≠ ' ')).drop 1))
    else none
  | none, none => none

/-- `download_object`: the bytes and their content type. -/
def downloadObject (objectId : String) (ticket : Option String) (now : String) (st : Store)
    (files : Files) : Result (List UInt8 × String) := do
  let ticket ← orRaise (.unauthorized "missing_download_ticket") (ticket.filter (· ≠ ""))
  let object ← orRaise (.notFound "object_not_found") (st.attachmentObjects.find? fun o ↦
    decide (o.objectId = objectId) && st.downloadTickets.any fun t ↦
      decide (t.objectId = o.objectId ∧ t.ticket = ticket ∧ now < t.expiresAt))
  let bytes ← orRaise (.notFound "object_missing") (files object.path)
  return (bytes, object.contentType)

/-- `download_object` as it is routed: the ticket is the one of the query, or of the header. -/
def downloadRoute (lower : String → String) (objectId : String)
    (query authorization : Option String)
    (now : String) (st : Store) (files : Files) : Result (List UInt8 × String) :=
  downloadObject objectId (downloadTicket lower query authorization) now st files

/-! ### Who may have a ticket -/

/-- **A right to an object**: its owner's, that of somebody the owner sent it to, or that of a
member of a group the owner posted it to. -/
inductive MayDownload (settings : AttachmentSettings) (st : Store) (object : AttachmentObject) :
    String → Prop where
  | owner : MayDownload settings st object object.ownerDid
  | recipient (m : DirectMessage) (attachmentId : String) (hm : m ∈ st.directMessages)
      (hsender : m.senderDid = object.ownerDid)
      (hlists : attachmentManifestHasObject m.body attachmentId (ticketObjectUri settings object) =
        true) : MayDownload settings st object m.recipientDid
  | member (requester groupDid messageId attachmentId : String) (body : Obj)
      (hmember : isAttachmentMember st groupDid requester = true)
      (hmessage : groupMessageBody? st groupDid messageId object.ownerDid = some body)
      (hlists : attachmentManifestHasObject body attachmentId (ticketObjectUri settings object) =
        true) : MayDownload settings st object requester

/-- The requester is who they say: by a bearer token, or by the signature of their Home service. -/
def Identified (settings : AttachmentSettings) (req : TicketRequest) (requester : String) : Prop :=
  (∃ did, req.credentials = .bearer did ∧ (requester = did ∨ requester = stripText did)) ∨
    req.surface = .publicRpc ∧
      ∃ service, verifyPeerRequestSignature settings.toSettings req.toRequest requester =
        .ok service

/-- Whom a request is for: the `requester_did` it names, or else the user it comes from. -/
def RequestedBy (req : TicketRequest) (params : Obj) (requester : String) : Prop :=
  (∃ raw, params.get "requester_did" = .str raw ∧ requester = stripText raw) ∨
    params.get "requester_did" = .null ∧ req.credentials = .bearer requester

/-- The object a request asks for: the value it names it by is this id, as the database reads it. -/
def RequestsObject (req : TicketRequest) (params : Obj) (objectId : String) : Prop :=
  ∃ value, requestedObjectId req params = .ok value ∧
    bindText req.outside.reprFloat value = .ok (some objectId)

variable {settings : AttachmentSettings} {req : TicketRequest} {params : Obj} {st st' : Store}

/-- The message is there, and its manifest lists the object. -/
theorem requireManifest_eq_ok {μ : Type} {body : μ → Obj} {binding : TicketBinding}
    {found : Option μ}
    {u : Unit} : requireManifest body binding found = .ok u ↔ ∃ m, found = some m ∧
      attachmentManifestHasObject (body m) binding.attachmentId binding.objectUri = true := by
  rw [requireManifest, require_eq_ok, Option.any_eq_true]

/-- A binding that passes is a right to the object. -/
theorem mayDownload_of_checkBinding {object : AttachmentObject} {binding : TicketBinding} {u : Unit}
    (h : checkBinding settings st object binding = .ok u)
    (htarget : ∀ target, binding.context = .direct target → target = binding.requesterDid) :
    MayDownload settings st object binding.requesterDid := by
  simp only [checkBinding, bind_eq_ok, require_eq_ok, decide_eq_true_eq] at h
  obtain ⟨-, huri, -, -, h⟩ := h
  cases hcontext : binding.context with
  | group groupDid =>
    rw [hcontext] at h
    simp only [ensureGroupAttachmentContext, bind_eq_ok, require_eq_ok, requireManifest_eq_ok] at h
    obtain ⟨-, hmember, body, hmessage, hlists⟩ := h
    exact .member _ groupDid _ _ body hmember hmessage (huri ▸ hlists)
  | direct target =>
    rw [hcontext] at h
    simp only [bind_eq_ok, ensureDirectAttachmentContext] at h
    obtain ⟨-, -, h⟩ := h
    split at h
    · rename_i hown
      exact hown.1 ▸ .owner
    · obtain ⟨m, hfound, hlists⟩ := requireManifest_eq_ok.mp h
      obtain ⟨-, hsender, hrecipient⟩ : m.messageId = binding.messageId ∧
          m.senderDid = object.ownerDid ∧ m.recipientDid = target := by
        simpa using List.find?_some hfound
      rw [← htarget target hcontext, ← hrecipient]
      exact .recipient m _ (List.mem_of_find?_eq_some hfound) hsender (huri ▸ hlists)

/-- A binding names its requester by a text that is not empty. -/
theorem ticketBinding_eq_ok {context : String → Result TicketContext} {binding : TicketBinding}
    (h : ticketBinding req params context = .ok binding) :
    (∃ raw, params.get "requester_did" = .str raw ∧ raw ≠ "" ∧
      binding.requesterDid = stripText raw) ∧
      context binding.requesterDid = .ok binding.context := by
  simp only [ticketBinding, requireTicketString, bind_eq_ok, pure_eq_ok] at h
  obtain ⟨_, -, _, -, requesterDid, ⟨raw, hraw, rfl⟩, _, -, _, -, _, -, found, hcontext, rfl⟩ := h
  refine ⟨⟨raw, requireText_eq_ok hraw, ?_, rfl⟩, hcontext⟩
  rintro rfl
  rw [requireText_eq_ok hraw] at hraw
  cases hraw

/-- The binding of a request names the requester and, when it is direct, the requester as the
target. -/
theorem requestBinding_eq_ok {binding : TicketBinding}
    (h : requestBinding req params = .ok binding) :
    (∃ raw, params.get "requester_did" = .str raw ∧ raw ≠ "" ∧
      binding.requesterDid = stripText raw) ∧
      ∀ target, binding.context = .direct target → target = binding.requesterDid := by
  unfold requestBinding at h
  split at h
  · obtain ⟨hrequester, hcontext⟩ := ticketBinding_eq_ok h
    refine ⟨hrequester, fun target htarget ↦ ?_⟩
    simp only [bind_eq_ok, pure_eq_ok, htarget] at hcontext
    obtain ⟨_, -, hgroup⟩ := hcontext
    cases hgroup
  · obtain ⟨hrequester, hcontext⟩ := ticketBinding_eq_ok h
    refine ⟨hrequester, fun target htarget ↦ ?_⟩
    simp only [bind_eq_ok, pure_eq_ok, htarget, require_eq_ok, decide_eq_true_eq] at hcontext
    obtain ⟨_, -, _, hsame, hdirect⟩ := hcontext
    obtain rfl := TicketContext.direct.inj hdirect
    exact hsame

/-- Whoever is signed in came with a bearer token. -/
theorem currentDid_eq_some {req : Request} {required : Bool} {did : String}
    (h : currentDid req required = .ok (some did)) : req.credentials = .bearer did := by
  unfold currentDid at h
  split at h
  · obtain rfl := Option.some.inj (Except.ok.inj h)
    assumption
  · split at h <;> cases h
  · split at h <;> cases h

/-- A local request names somebody. -/
theorem currentDid_ne_none {req : Request} (h : req.surface ≠ .publicRpc) :
    currentDid req (decide (req.surface = .localRpc)) ≠ .ok none := by
  have hlocal : req.surface = .localRpc := by
    cases hsurface : req.surface with
    | localRpc => rfl
    | publicRpc => exact absurd hsurface h
  rw [hlocal, decide_eq_true rfl, currentDid]
  cases req.credentials <;> simp

/-- **Who asks is identified**, and a direct binding is for themselves. -/
theorem ticketClaim_eq_ok {objectId : Json} {claim : TicketClaim}
    (h : ticketClaim settings req params = .ok (objectId, claim))
    (hnamed : req.credentials ≠ .bearer "") :
    requestedObjectId req params = .ok objectId ∧
    ∃ requester, claim.requester = .str requester ∧ RequestedBy req params requester ∧
      Identified settings req requester ∧
      ∀ binding, claim.binding = some binding → binding.requesterDid = requester ∧
        ∀ target, binding.context = .direct target → target = requester := by
  simp only [ticketClaim, bind_eq_ok, require_eq_ok] at h
  obtain ⟨_, hobject, _, -, _, -, authenticated, hauthenticated, _, htruthy, _, hsame, h⟩ := h
  have hbearer : ∀ {did}, authenticated = some did → req.credentials = .bearer did ∧
      ((params.get "requester_did").orElse (textOrNull authenticated)).isStr did = true := by
    rintro did rfl
    have hcredentials := currentDid_eq_some hauthenticated
    have hne : did ≠ "" := fun hempty ↦ hnamed (hempty ▸ hcredentials)
    refine ⟨hcredentials, ?_⟩
    rw [Option.filter_some_pos (by simpa using hne), Option.all_some] at hsame
    exact hsame
  cases hanp : isAnpTicketRequest params with
  | false =>
    rw [hanp, if_neg Bool.false_ne_true, pure_eq_ok] at h
    obtain ⟨rfl, rfl⟩ := Prod.mk.inj h
    -- without `requester_did` the requester is the authenticated user
    have habsent : params.get "requester_did" = .null := by
      rw [isAnpTicketRequest, Bool.or_eq_false_iff, List.any_eq_false] at hanp
      exact Obj.get_of_has_eq_false (Bool.eq_false_iff.mpr (hanp.2 _ List.mem_cons_self))
    cases authenticated with
    | none =>
      rw [habsent] at htruthy
      cases htruthy
    | some did =>
      obtain ⟨hcredentials, hstr⟩ := hbearer rfl
      exact ⟨hobject, did, Json.isStr_iff.mp hstr, .inr ⟨habsent, hcredentials⟩,
        .inl ⟨did, hcredentials, .inl rfl⟩, fun _ ↦ nofun⟩
  | true =>
    rw [hanp, if_pos rfl] at h
    simp only [bind_eq_ok, pure_eq_ok] at h
    obtain ⟨binding, hbinding, _, hpeer, h⟩ := h
    obtain ⟨rfl, rfl⟩ := Prod.mk.inj h
    obtain ⟨⟨raw, hraw, hne, hstripped⟩, htarget⟩ := requestBinding_eq_ok hbinding
    refine ⟨hobject, binding.requesterDid, rfl, .inl ⟨raw, hraw, hstripped⟩, ?_,
      fun binding' hbinding' ↦ ?_⟩
    · unfold checkHomeSignature at hpeer
      split at hpeer
      · rename_i hsurface
        obtain ⟨service, hservice, -⟩ := bind_eq_ok.mp hpeer
        exact .inr ⟨hsurface, service, hservice⟩
      · rename_i hsurface
        cases authenticated with
        | none => exact absurd hauthenticated (currentDid_ne_none (by simpa using hsurface))
        | some did =>
          obtain ⟨hcredentials, hstr⟩ := hbearer rfl
          rw [hraw, Json.orElse, Json.truthy_str, if_pos (decide_eq_true hne)] at hstr
          obtain rfl : raw = did := by simpa using hstr
          exact .inl ⟨raw, hcredentials, .inr hstripped⟩
    · obtain rfl := Option.some.inj hbinding'
      exact ⟨rfl, htarget⟩

/-- What is granted to a requester: the object the request asks for, whom it is for, and the right
of theirs to it. -/
structure Granted (settings : AttachmentSettings) (req : TicketRequest) (params : Obj) (st : Store)
    (requester : String) (object : AttachmentObject) : Prop where
  requestedBy : RequestedBy req params requester
  identified : Identified settings req requester
  stored : object ∈ st.attachmentObjects
  requested : RequestsObject req params object.objectId
  right : MayDownload settings st object requester

/-- **What issuing a ticket does**: one row more, for the object asked for, to which the requester
has a right. -/
theorem attachmentTicket_eq_ok {answer : Obj}
    (h : attachmentTicket settings req params st = .ok (answer, st'))
    (hnamed : req.credentials ≠ .bearer "") :
    ∃ requester object, Granted settings req params st requester object ∧
      (∀ t ∈ st.downloadTickets, t.ticket ≠ newId "ticket" st.issued) ∧
      st' = { st with
        issued := st.issued + 1
        downloadTickets := st.downloadTickets ++
          [⟨newId "ticket" st.issued, object.objectId, req.ticketExpiry⟩] } := by
  simp only [attachmentTicket, bind_eq_ok, pure_eq_ok] at h
  obtain ⟨⟨objectId, claim⟩, hclaim, ⟨object, st₁⟩, hissue, h⟩ := h
  obtain ⟨-, rfl⟩ := Prod.mk.inj h
  obtain ⟨hrequested, requester, hrequester, hby, hidentified, hbinding⟩ :=
    ticketClaim_eq_ok hclaim hnamed
  simp only [issueTicket, insertTicket, bind_eq_ok, pure_eq_ok, orRaise_eq_ok,
    Table.insert?_eq_some] at hissue
  obtain ⟨bound, hbound, object', hfound, _, hchecked, _, ⟨rows, ⟨hfresh, rfl⟩, rfl⟩, h⟩ := hissue
  obtain ⟨rfl, rfl⟩ := Prod.mk.inj h
  have hid : some object'.objectId = bound := by simpa using List.find?_some hfound
  refine ⟨requester, object', ⟨hby, hidentified, List.mem_of_find?_eq_some hfound,
    ⟨objectId, hrequested, hid ▸ hbound⟩, ?_⟩, hfresh, rfl⟩
  unfold checkClaim at hchecked
  cases hcase : claim.binding with
  | some binding =>
    rw [hcase] at hchecked
    obtain ⟨rfl, htarget⟩ := hbinding binding hcase
    exact mayDownload_of_checkBinding hchecked htarget
  | none =>
    rw [hcase] at hchecked
    have howner := Json.isStr_iff.mp (require_eq_ok.mp hchecked)
    obtain rfl := Json.str.inj (hrequester.symm.trans howner)
    exact .owner

/-! ### Tickets beside everything else -/

/-- What happens on the server: a ticket is asked for, a call about slots is served, or a request
that has nothing to do with tickets and objects. -/
inductive TicketEvent where
  | issue (req : TicketRequest) (params : Obj)
  | attachment (call : AttachmentCall)
  | other

/-- One request is served. Nobody is called by the empty text. -/
def TicketStep (settings : AttachmentSettings) (σ : Store × Files) :
    TicketEvent → Store × Files → Prop
  | .issue req params, σ' => req.credentials ≠ .bearer "" ∧ σ'.2 = σ.2 ∧
      (σ'.1 = σ.1 ∨ ∃ answer, attachmentTicket settings req params σ.1 = .ok (answer, σ'.1))
  | .attachment call, σ' => CallStep settings σ call σ'
  | .other, σ' => σ'.1.attachmentObjects = σ.1.attachmentObjects ∧
      σ'.1.downloadTickets = σ.1.downloadTickets

/-- A cleanup leaves the tickets that have not expired. -/
def AttachmentCall.Spares : AttachmentCall → DownloadTicket → Prop
  | cleanup now, t => now < t.expiresAt
  | _, _ => True

/-- What a call about slots does to tickets and objects. -/
structure TicketsKept (call : AttachmentCall) (st st' : Store) : Prop where
  tickets : st'.downloadTickets ⊆ st.downloadTickets
  spared : ∀ t ∈ st.downloadTickets, call.Spares t → t ∈ st'.downloadTickets
  objects : st.attachmentObjects <+: st'.attachmentObjects
  keyed : Table.Keyed AttachmentObject.objectId st.attachmentObjects →
    Table.Keyed AttachmentObject.objectId st'.attachmentObjects

/-- Neither table is touched. -/
theorem TicketsKept.of_eq {call : AttachmentCall}
    (htickets : st'.downloadTickets = st.downloadTickets)
    (hobjects : st'.attachmentObjects = st.attachmentObjects) : TicketsKept call st st' where
  tickets := by rw [htickets]; exact List.Subset.refl _
  spared t ht _ := htickets ▸ ht
  objects := hobjects ▸ List.prefix_refl _
  keyed h := hobjects ▸ h

/-- Every call about slots, statement by statement. -/
theorem leaves_ticketsKept (call : AttachmentCall) (st : Store) :
    (call.prog settings).Leaves (TicketsKept call st) st := by
  -- Only the cleanup writes tickets, and only a commit writes objects.
  cases call with
  | createSlot req params =>
    refine FileProgram.leaves_bind_ofExcept fun owner _ ↦
      FileProgram.leaves_bind_ofExcept fun _ _ ↦ ?_
    rintro st₁ hdrawn
    obtain rfl := Except.ok.inj hdrawn
    refine FileProgram.leaves_bind_ofExcept fun slot _ ↦ ?_
    intro st₂ hinsert
    simp only [insertSlot, bind_eq_ok, pure_eq_ok] at hinsert
    obtain ⟨-, -, rows, -, rfl⟩ := hinsert
    exact .of_eq rfl rfl
  | upload req slotId token data =>
    refine FileProgram.leaves_bind_query.mpr (FileProgram.leaves_bind_ofExcept fun row _ ↦
      FileProgram.leaves_bind_ofExcept fun _ _ ↦ FileProgram.leaves_bind_ofExcept fun _ _ ↦
      FileProgram.leaves_bind_ofExcept fun _ _ ↦ FileProgram.leaves_bind_change ?_)
    intro st' hset
    obtain rfl := Except.ok.inj hset
    exact .of_eq rfl rfl
  | commit req params =>
    refine FileProgram.leaves_bind_ofExcept fun owner _ ↦
      FileProgram.leaves_bind_ofExcept fun binding _ ↦
      FileProgram.leaves_bind_query.mpr (FileProgram.leaves_bind_ofExcept fun row _ ↦
      FileProgram.leaves_bind_ofExcept fun _ _ ↦ FileProgram.leaves_bind_ofExcept fun _ _ ↦
      FileProgram.leaves_bind_inspect fun _ _ _ ↦ FileProgram.leaves_bind_inspect fun _ data _ ↦
      FileProgram.leaves_bind_ofExcept fun checked _ ↦ FileProgram.leaves_bind_change
      (FileProgram.leaves_bind_ofExcept fun object _ ↦ ?_))
    intro st₁ hinsert st₂ hset
    obtain rfl := Except.ok.inj hset
    simp only [insertObject, bind_eq_ok, pure_eq_ok, orRaise_eq_ok] at hinsert
    obtain ⟨rows, hrows, rfl⟩ := hinsert
    refine ⟨List.Subset.refl _, fun _ ht _ ↦ ht, ?_, fun hkeyed ↦ ?_⟩
    · rw [(Table.insert?_eq_some.mp hrows).2]
      exact List.prefix_append _ _
    · obtain ⟨hfresh, rfl⟩ := Table.insert?_eq_some.mp hrows
      exact hkeyed.append hfresh
  | abort req params =>
    refine FileProgram.leaves_bind_ofExcept fun owner _ ↦ FileProgram.leaves_bind_ofExcept
      fun _ _ ↦ FileProgram.leaves_bind_ofExcept fun slotId _ ↦ FileProgram.leaves_bind_query.mpr
      (FileProgram.leaves_bind_ofExcept fun row _ ↦ leaves_unlinkIfExists ?_)
    intro st' hset
    obtain rfl := Except.ok.inj hset
    exact .of_eq rfl rfl
  | cleanup now =>
    refine FileProgram.leaves_bind_query.mpr (leaves_removeSlots ?_)
    rintro _ ⟨⟩
    refine FileProgram.leaves_bind_query.mpr ?_
    rintro _ ⟨⟩
    refine ⟨List.filter_subset_self _, fun t ht hspared ↦ ?_, List.prefix_refl _, fun h ↦ h⟩
    have hspared : now < t.expiresAt := hspared
    exact List.mem_filter.mpr ⟨ht, by simpa using hspared⟩

/-- Every call about slots, served alone. -/
theorem CallStep.ticketsKept {σ σ' : Store × Files} {call : AttachmentCall}
    (h : CallStep settings σ call σ') : TicketsKept call σ.1 σ'.1 := by
  obtain rfl := h
  have hrun : ((call.prog settings).run σ.1 σ.2).2.1 = σ.1 ∨
      TicketsKept call σ.1 ((call.prog settings).run σ.1 σ.2).2.1 :=
    (leaves_ticketsKept call σ.1).runFrom σ.2
  rcases hrun with hrollback | hkept
  · rw [hrollback]
    exact .of_eq rfl rfl
  · exact hkept

/-- Objects are never taken away, and keep their ids apart. -/
theorem TicketStep.objects {σ σ' : Store × Files} {event : TicketEvent}
    (h : TicketStep settings σ event σ') :
    σ.1.attachmentObjects <+: σ'.1.attachmentObjects ∧
      (Table.Keyed AttachmentObject.objectId σ.1.attachmentObjects →
        Table.Keyed AttachmentObject.objectId σ'.1.attachmentObjects) := by
  have hsame : σ'.1.attachmentObjects = σ.1.attachmentObjects →
      σ.1.attachmentObjects <+: σ'.1.attachmentObjects ∧
      (Table.Keyed AttachmentObject.objectId σ.1.attachmentObjects →
        Table.Keyed AttachmentObject.objectId σ'.1.attachmentObjects) :=
    fun heq ↦ by rw [heq]; exact ⟨List.prefix_refl _, id⟩
  cases event with
  | issue req params =>
    obtain ⟨hnamed, -, hst | ⟨answer, hok⟩⟩ := h
    · exact hsame (by rw [hst])
    · obtain ⟨_, _, -, -, hst⟩ := attachmentTicket_eq_ok hok hnamed
      exact hsame (by rw [hst])
  | attachment call => exact ⟨h.ticketsKept.objects, h.ticketsKept.keyed⟩
  | other => exact hsame h.1

/-- Only a request for a ticket makes one. -/
theorem TicketStep.exists_of_new {σ σ' : Store × Files} {event : TicketEvent} {t : DownloadTicket}
    (h : TicketStep settings σ event σ') (hold : t ∉ σ.1.downloadTickets)
    (hnew : t ∈ σ'.1.downloadTickets) :
    ∃ req params answer requester object, event = .issue req params ∧
      attachmentTicket settings req params σ.1 = .ok (answer, σ'.1) ∧
      Granted settings req params σ.1 requester object ∧
      t = ⟨newId "ticket" σ.1.issued, object.objectId, req.ticketExpiry⟩ := by
  cases event with
  | issue req params =>
    obtain ⟨hnamed, -, hst | ⟨answer, hok⟩⟩ := h
    · exact absurd (hst ▸ hnew) hold
    · obtain ⟨requester, object, hgranted, -, hst⟩ := attachmentTicket_eq_ok hok hnamed
      rw [hst] at hnew
      obtain hnew | hnew := List.mem_append.mp hnew
      · exact absurd hnew hold
      · exact ⟨req, params, answer, requester, object, rfl, hok, hgranted,
          List.mem_singleton.mp hnew⟩
  | attachment call => exact absurd (h.ticketsKept.tickets hnew) hold
  | other => exact absurd (h.2 ▸ hnew) hold

/-- A download that succeeds has found its object, and a ticket to it that has not expired. -/
theorem downloadObject_eq_ok {objectId : String} {ticket : Option String} {now contentType : String}
    {files : Files} {bytes : List UInt8}
    (h : downloadObject objectId ticket now st files = .ok (bytes, contentType)) :
    ∃ object t, object ∈ st.attachmentObjects ∧ t ∈ st.downloadTickets ∧
      object.objectId = objectId ∧ t.objectId = objectId ∧ some t.ticket = ticket ∧
      now < t.expiresAt ∧ files object.path = some bytes ∧ contentType = object.contentType := by
  simp only [downloadObject, bind_eq_ok, pure_eq_ok, orRaise_eq_ok] at h
  obtain ⟨text, htext, object, hfound, bytes', hbytes, h⟩ := h
  obtain ⟨rfl, rfl⟩ := Prod.mk.inj h
  have hboth := List.find?_some hfound
  simp only [Bool.and_eq_true, decide_eq_true_eq, List.any_eq_true] at hboth
  obtain ⟨hid, t, ht, htid, hticket, hnow⟩ := hboth
  refine ⟨object, t, List.mem_of_find?_eq_some hfound, ht, hid, htid.trans hid, ?_, hnow,
    hbytes, rfl⟩
  rw [hticket, (Option.filter_eq_some_iff.mp htext).1]

/-- **Every download was granted.** A download that succeeds, in any run from a server without
tickets, goes back to a request for a ticket that succeeded: its ticket is the one of the download,
the object is the one it asks for, and the time is before its expiry. Whoever the request was for
was identified, and had a right to the object at that moment. -/
theorem download_was_granted {st₀ : Store} {files₀ files : Files}
    {objectId now contentType : String} {lower : String → String}
    {query authorization : Option String} {bytes : List UInt8}
    (hkeyed : Table.Keyed AttachmentObject.objectId st₀.attachmentObjects)
    (hnone : st₀.downloadTickets = [])
    (hrun : Reaches (TicketStep settings) (st₀, files₀) (st, files))
    (hdownload : downloadRoute lower objectId query authorization now st files =
      .ok (bytes, contentType)) :
    ∃ a req params b answer requester object, Reaches (TicketStep settings) (st₀, files₀) a ∧
      TicketStep settings a (.issue req params) b ∧ Reaches (TicketStep settings) b (st, files) ∧
      attachmentTicket settings req params a.1 = .ok (answer, b.1) ∧
      Granted settings req params a.1 requester object ∧ object.objectId = objectId ∧
      downloadTicket lower query authorization = some (newId "ticket" a.1.issued) ∧
      now < req.ticketExpiry ∧ files object.path = some bytes ∧
      contentType = object.contentType := by
  obtain ⟨object, t, hobject, ht, hid, htid, hticket, hnow, hbytes, htype⟩ :=
    downloadObject_eq_ok hdownload
  obtain ⟨a, event, b, hbefore, -, hstep, hafter, hold, hnew⟩ :=
    hrun.exists_step (P := fun σ ↦ t ∈ σ.1.downloadTickets) (by simp [hnone]) ht
  obtain ⟨req, params, answer, requester, object', rfl, hissued, hgranted, rfl⟩ :=
    hstep.exists_of_new hold hnew
  have hkeyed' : Table.Keyed AttachmentObject.objectId st.attachmentObjects :=
    hrun.invariant (I := fun σ ↦ Table.Keyed AttachmentObject.objectId σ.1.attachmentObjects) hkeyed
      fun hi hs ↦ hs.objects.2 hi
  have hgrown : a.1.attachmentObjects <+: st.attachmentObjects := by
    have hboth := ReachesWith.related (I := fun _ ↦ True)
      (R := fun σ σ' : Store × Files ↦ σ.1.attachmentObjects <+: σ'.1.attachmentObjects) hafter
      trivial (fun _ _ hs ↦ ⟨trivial, hs.objects.1⟩) (fun _ ↦ List.prefix_refl _)
      List.IsPrefix.trans
    exact hstep.objects.1.trans hboth
  -- no other object has the id of the ticket's
  obtain rfl : object = object' := hkeyed'.eq_of_key_eq hobject (hgrown.subset hgranted.stored)
    (hid.trans htid.symm)
  exact ⟨a, req, params, b, answer, requester, object, hbefore, hstep, hafter, hissued, hgranted,
    hid, hticket.symm, hnow, hbytes, htype⟩

/-! ### A ticket issued -/

/-- An object of Alice, -/
def sampleObject : AttachmentObject where
  objectId := "obj_0"
  sourceAttachmentId := some "att_1"
  objectUri := some "https://host.example/objects/obj_0"
  ownerDid := alice
  path := "objects/obj_0.bin"
  size := 1
  sha256 := "ca978112ca1bbdcafac231b39a23dc4da786eff8147c4e72b9807785afee48bb"
  contentType := "application/octet-stream"

/-- which she has sent to Carol, -/
def recipientOfSample : String := "did:wba:host.example:user:carol"

/-- in this message. -/
def sampleManifest : DirectMessage where
  messageId := "msg_1"
  senderDid := alice
  recipientDid := recipientOfSample
  operationId := none
  body := [("payload", .obj [("attachments", .arr [.obj [("attachment_id", .str "att_1"),
    ("access_info", .obj [("object_uri", .str "https://host.example/objects/obj_0")])]])])]
  contentType := ATTACHMENT_MANIFEST_CONTENT_TYPE
  createdAt := "2026-01-01T00:00:00Z"
  serverSeq := 1
  metaJson := none
  originAuth := none
  originProofVerified := true
  authoritativeSenderDid := alice
  securityProfile := "transport-protected"

/-- The store with the object and the message. -/
def storeWithObject : Store :=
  { attachmentObjects := [sampleObject], directMessages := [sampleManifest] }

/-- The bytes of the object. -/
def filesWithObject : Files := Function.update (fun _ ↦ none) "objects/obj_0.bin" (some [97])

/-- A request of Carol, -/
def TicketRequest.sample : TicketRequest where
  toAttachmentRequest := { AttachmentRequest.sample with credentials := .bearer recipientOfSample }
  ticketExpiry := "2026-01-01T00:15:00+00:00"
  isAuthority _ := true

/-- for a ticket to the object. -/
def ticketParams : Obj :=
  [("attachment_id", .str "att_1"), ("object_uri", .str "https://host.example/objects/obj_0"),
    ("requester_did", .str recipientOfSample), ("message_id", .str "msg_1"),
    ("message_security_profile", .str "transport-protected"),
    ("message_target_did", .str recipientOfSample)]

/-- The store with her ticket. -/
def storeWithTicket : Store :=
  match attachmentTicket .sample .sample ticketParams storeWithObject with
  | .ok (_, st) => st
  | .error _ => storeWithObject

/-- What is not refused has a result. -/
theorem exists_ok_of_isOk {α : Type} {x : Result α} (h : x.isOk = true) : ∃ a, x = .ok a := by
  cases x with
  | error e => cases h
  | ok a => exact ⟨a, rfl⟩

/-- Carol gets her ticket. -/
theorem attachmentTicket_sample : ∃ answer,
    attachmentTicket .sample .sample ticketParams storeWithObject =
      .ok (answer, storeWithTicket) := by
  obtain ⟨⟨answer, st⟩, hok⟩ :=
    exists_ok_of_isOk (show (attachmentTicket .sample .sample ticketParams
    storeWithObject).isOk = true by decide +kernel)
  exact ⟨answer, by rw [storeWithTicket, hok]⟩

/-- Carol downloads the object with her ticket, in the header. -/
theorem download_was_granted_sample : ∃ bytes contentType,
    downloadRoute id "obj_0" none (some "bearer ticket_0") "2026-01-01T00:01:00+00:00"
      storeWithTicket filesWithObject = .ok (bytes, contentType) ∧
    ∃ a req params b answer requester object,
      Reaches (TicketStep .sample) (storeWithObject, filesWithObject) a ∧
      TicketStep .sample a (.issue req params) b ∧
      Reaches (TicketStep .sample) b (storeWithTicket, filesWithObject) ∧
      attachmentTicket .sample req params a.1 = .ok (answer, b.1) ∧
      Granted .sample req params a.1 requester object ∧ object.objectId = "obj_0" ∧
      downloadTicket id none (some "bearer ticket_0") = some (newId "ticket" a.1.issued) ∧
      "2026-01-01T00:01:00+00:00" < req.ticketExpiry ∧
      filesWithObject object.path = some bytes ∧ contentType = object.contentType := by
  obtain ⟨⟨bytes, contentType⟩, hdownload⟩ := exists_ok_of_isOk (show (downloadRoute id "obj_0" none
    (some "bearer ticket_0") "2026-01-01T00:01:00+00:00" storeWithTicket filesWithObject).isOk =
      true by decide +kernel)
  have hstep : TicketStep .sample (storeWithObject, filesWithObject) (.issue .sample ticketParams)
      (storeWithTicket, filesWithObject) :=
    ⟨by decide, rfl, .inr attachmentTicket_sample⟩
  exact ⟨bytes, contentType, hdownload, download_was_granted (List.pairwise_singleton _ _) rfl
    ((Reaches.refl _).tail hstep) hdownload⟩

/-! ### How long a ticket lasts -/

/-- The event leaves a ticket of this expiry alone: it is no cleanup, or one before that time. -/
def TicketEvent.Spares (expiresAt : String) : TicketEvent → Prop
  | .attachment (.cleanup now) => now < expiresAt
  | _ => True

/-- A ticket that is spared stays. -/
theorem TicketStep.spared {σ σ' : Store × Files} {event : TicketEvent} {t : DownloadTicket}
    (h : TicketStep settings σ event σ') (hspares : event.Spares t.expiresAt)
    (ht : t ∈ σ.1.downloadTickets) : t ∈ σ'.1.downloadTickets := by
  cases event with
  | issue req params =>
    obtain ⟨hnamed, -, hst | ⟨answer, hok⟩⟩ := h
    · exact hst.symm ▸ ht
    · obtain ⟨_, _, -, -, hst⟩ := attachmentTicket_eq_ok hok hnamed
      rw [hst]
      exact List.mem_append_left _ ht
  | attachment call =>
    refine h.ticketsKept.spared t ht ?_
    cases call with
    | cleanup now => exact hspares
    | _ => trivial
  | other => exact h.2.symm ▸ ht

/-- The download of an object that is there, with a ticket that is. -/
theorem downloadObject_of_mem {object : AttachmentObject} {t : DownloadTicket} {now : String}
    {files : Files} (hkeyed : Table.Keyed AttachmentObject.objectId st.attachmentObjects)
    (hobject : object ∈ st.attachmentObjects) (ht : t ∈ st.downloadTickets)
    (hnow : now < t.expiresAt) (hne : t.ticket ≠ "") (hid : t.objectId = object.objectId) :
    downloadObject object.objectId (some t.ticket) now st files =
      match files object.path with
      | some bytes => .ok (bytes, object.contentType)
      | none => .error (.notFound "object_missing") := by
  let serves (o : AttachmentObject) : Bool := decide (o.objectId = object.objectId) &&
    st.downloadTickets.any fun t' ↦
      decide (t'.objectId = o.objectId ∧ t'.ticket = t.ticket ∧ now < t'.expiresAt)
  have hserves : serves object = true := by
    rw [Bool.and_eq_true, List.any_eq_true]
    exact ⟨decide_eq_true rfl, t, ht, decide_eq_true ⟨hid, rfl, hnow⟩⟩
  have hfound : st.attachmentObjects.find? serves = some object := by
    obtain ⟨found, hfound⟩ := Option.isSome_iff_exists.mp
      (List.find?_isSome.mpr ⟨object, hobject, hserves⟩)
    have hsame := List.find?_some hfound
    rw [Bool.and_eq_true, decide_eq_true_eq] at hsame
    rw [hfound, hkeyed.eq_of_key_eq (List.mem_of_find?_eq_some hfound) hobject hsame.1]
  have hticket : (some t.ticket).filter (fun s ↦ decide (s ≠ "")) = some t.ticket :=
    Option.filter_some_pos (decide_eq_true hne)
  rw [downloadObject, hticket, orRaise_some, ok_bind, hfound, orRaise_some, ok_bind]
  cases files object.path with
  | none => rfl
  | some bytes => rfl

/-- **A ticket lasts.** Once issued, a ticket serves its object whenever it is presented before its
expiry, whatever is asked for, uploaded, committed, aborted or cleaned up in between; all that can
be missing is the file. -/
theorem issued_ticket_lasts {answer : Obj} {files files' : Files} {st'' : Store} {now : String}
    (hkeyed : Table.Keyed AttachmentObject.objectId st.attachmentObjects)
    (hnamed : req.credentials ≠ .bearer "")
    (hissue : attachmentTicket settings req params st = .ok (answer, st'))
    (hrun : ReachesWith (TicketStep settings) (fun _ event ↦ event.Spares req.ticketExpiry)
      (st', files) (st'', files'))
    (hnow : now < req.ticketExpiry) :
    ∃ object ∈ st.attachmentObjects, ∃ ticket : String,
      answer.get "download_ticket_b64u" = .str ticket ∧
      downloadObject object.objectId (some ticket) now st'' files' =
        match files' object.path with
        | some bytes => .ok (bytes, object.contentType)
        | none => .error (.notFound "object_missing") := by
  obtain ⟨_, object, hgranted, -, rfl⟩ := attachmentTicket_eq_ok hissue hnamed
  have hobject := hgranted.stored
  refine ⟨object, hobject, newId "ticket" st.issued, ?_, ?_⟩
  · simp only [attachmentTicket, bind_eq_ok, pure_eq_ok] at hissue
    obtain ⟨⟨objectId, claim⟩, -, ⟨object', st₁⟩, -, h⟩ := hissue
    obtain ⟨rfl, -⟩ := Prod.mk.inj h
    unfold ticketIssued canonicalAnswer
    dsimp only
    split <;> rfl
  · have ht : ⟨newId "ticket" st.issued, object.objectId, req.ticketExpiry⟩ ∈
      st''.downloadTickets :=
      hrun.invariant (I := fun σ ↦
        (⟨newId "ticket" st.issued, object.objectId, req.ticketExpiry⟩ : DownloadTicket) ∈
          σ.1.downloadTickets)
        (List.mem_append_right _ (List.mem_singleton_self _)) fun hi hc hs ↦ hs.spared hc hi
    have hkept : Table.Keyed AttachmentObject.objectId st''.attachmentObjects ∧
        object ∈ st''.attachmentObjects :=
      hrun.invariant (I := fun σ ↦ Table.Keyed AttachmentObject.objectId σ.1.attachmentObjects ∧
        object ∈ σ.1.attachmentObjects) ⟨hkeyed, hobject⟩
        fun hi _ hs ↦ ⟨hs.objects.2 hi.1, hs.objects.1.subset hi.2⟩
    exact downloadObject_of_mem hkept.1 hkept.2 ht hnow (newId_ne_empty "ticket" st.issued) rfl

/-- The server after an event. -/
def TicketEvent.served (settings : AttachmentSettings) (σ : Store × Files) :
    TicketEvent → Store × Files
  | .issue req params =>
    match attachmentTicket settings req params σ.1 with
    | .ok (_, st) => (st, σ.2)
    | .error _ => σ
  | .attachment call => ((call.prog settings).run σ.1 σ.2).2
  | .other => σ

/-- Nobody asks under the empty name. -/
def TicketEvent.Named : TicketEvent → Prop
  | .issue req _ => req.credentials ≠ .bearer ""
  | _ => True

/-- What is served is a step. -/
theorem TicketEvent.step_served {event : TicketEvent} (h : event.Named) (σ : Store × Files) :
    TicketStep settings σ event (event.served settings σ) := by
  cases event with
  | issue req params =>
    simp only [TicketEvent.served]
    split
    · rename_i answer st hissue
      exact ⟨h, rfl, .inr ⟨answer, hissue⟩⟩
    · exact ⟨h, rfl, .inl rfl⟩
  | attachment call => rfl
  | other => exact ⟨rfl, rfl⟩

/-- Between the request and the download Alice uploads and commits an attachment, a cleanup runs,
and Carol asks for another ticket. -/
def whileItLasts : List TicketEvent :=
  [.attachment .sampleCreate, .attachment (.sampleUpload 1 [97]), .attachment (.sampleCommit 1),
    .attachment (.cleanup "2026-01-01T00:10:00+00:00"), .issue .sample ticketParams]

/-- The server after all of this. -/
def afterWhile : Store × Files :=
  whileItLasts.foldl (TicketEvent.served .sample) (storeWithTicket, filesWithObject)

/-- It is a run in which no cleanup comes too late. -/
theorem reaches_afterWhile : ReachesWith (TicketStep .sample)
    (fun _ event ↦ event.Spares TicketRequest.sample.ticketExpiry)
    (storeWithTicket, filesWithObject) afterWhile := by
  have hspares : ∀ event ∈ whileItLasts, event.Named ∧
      event.Spares TicketRequest.sample.ticketExpiry := by
    simp only [whileItLasts, List.mem_cons, List.not_mem_nil, or_false, forall_eq_or_imp, forall_eq]
    exact ⟨⟨trivial, trivial⟩, ⟨trivial, trivial⟩, ⟨trivial, trivial⟩,
      ⟨trivial, show "2026-01-01T00:10:00+00:00" < "2026-01-01T00:15:00+00:00" by decide +kernel⟩,
      ⟨show Credentials.bearer recipientOfSample ≠ .bearer "" by decide, trivial⟩⟩
  refine List.foldlRecOn (motive := fun σ : Store × Files ↦ ReachesWith (TicketStep .sample)
    (fun _ event ↦ event.Spares TicketRequest.sample.ticketExpiry)
    (storeWithTicket, filesWithObject) σ) whileItLasts _ (ReachesWith.refl _) ?_
  intro σ hσ event hevent
  obtain ⟨hnamed, hspared⟩ := hspares event hevent
  exact hσ.tail hspared (TicketEvent.step_served hnamed σ)

/-- Two objects and two tickets are there by then, and the first ticket still serves. -/
theorem issued_ticket_lasts_sample :
    afterWhile.1.attachmentObjects.length = 2 ∧ afterWhile.1.downloadTickets.length = 2 ∧
    ∃ answer, ∃ object ∈ storeWithObject.attachmentObjects,
      ∃ ticket : String, Obj.get answer "download_ticket_b64u" = .str ticket ∧
        downloadObject object.objectId (some ticket) "2026-01-01T00:12:00+00:00" afterWhile.1
            afterWhile.2 =
          match afterWhile.2 object.path with
          | some bytes => .ok (bytes, object.contentType)
          | none => .error (.notFound "object_missing") := by
  obtain ⟨answer, hissue⟩ := attachmentTicket_sample
  exact ⟨by decide +kernel, by decide +kernel, answer,
    issued_ticket_lasts (List.pairwise_singleton _ _)
    (by decide) hissue reaches_afterWhile (by decide +kernel)⟩

end Awiki
