import AwikiOpenServer.Messaging.Groups.Outbox
import AwikiOpenServer.Messaging.Snapshots

/-!
# How a group message is shown

Three readers turn the stored body of a group message and its content type into the `type` and the
`content` a client sees: `hosted_group_list_messages`, `projected_group_list_messages` and, for
ordinary sync, `_project_message_content`. Each has its own case analysis. The two lists compare the
content type as it was sent, sync compares it stripped and in lower case; and they look for `text`,
`payload` and `payload_b64u` in different orders, the list of a hosted group never for `text`.

`hosted_group_send` accepts a body with exactly one of the three (`AcceptedContent`), but binds it
to the content type for three content types only. **For these the readers agree, for any other only
on a binary body** (`group_message_seen_alike_iff`).

## The readers

Each list is modelled whole: the parameters with their checks, the page a request asks for, and the
documents it is answered with. What makes the result about three case analyses is
`hostedGroupListMessages_shown` and its sibling: every document of a page is `hostedListedMessage`
of a stored row, so its `type` and `content` are those of `hostedContent`. For sync the document is
the event of `Messaging/SyncV2.lean`.

`Shows o pair` is what is compared, the two members of a document; a reader that shows no content at
all differs from one that shows a null, and `SeenAlike` says that there is **one pair which all
three show**. The statement does not prefer any of them.

## Case by case

A body with one content member and a content type are compared in `content_agrees_iff`: for the
three bound content types, by what the binding says of the member, and for all others by the member.
`normalizeContentType_bound` is why the difference between comparing as sent and comparing in lower
case does not matter for the bound ones; it is also the only fact about `str.lower` that is needed.
-/

namespace Awiki

open Py Runs

/-! ### The two lists -/

/-- The page of messages a request asks for: what it has seen, and how many it takes. -/
def messagesPage (params : Obj) : Result (ℤ × ℤ) := do
  let since ← number (params.getD "since_event_seq" (params.getD "since_seq" (.int 0)))
  let limit ← number (params.getD "limit" (.int 50))
  require (decide (0 ≤ since ∧ 1 ≤ limit ∧ limit ≤ 100))
    (.invalidParams
      (if 100 < limit then "limit_too_large" else "group.messages_since_seq_invalid"))
  return (since, limit)
where
  /-- `int(value)`; the handlers do not catch an `OverflowError`. -/
  number (v : Json) : Result ℤ :=
    match intOf v with
    | .ok n => .ok n
    | .error .overflowError => .error (.value "cannot convert float infinity to integer")
    | .error _ => .error (.invalidParams "group.messages_since_seq_invalid")

/-- The type of a message that is not plain text, by its content type as it was sent. -/
def structuredType (contentType : String) : String :=
  if contentType = ATTACHMENT_MANIFEST_CONTENT_TYPE then "attachment_manifest"
  else if contentType = "application/json" then "json"
  else "binary"

/-- What the list of a hosted group shows. -/
def hostedContent (body : Obj) (contentType : String) : Result (String × Json) :=
  if contentType = "text/plain" then do
    let text ← orRaise (.key "text") (body.lookup "text")
    return ("text", text)
  else .ok (structuredType contentType, body.getD "payload" (body.get "payload_b64u"))

/-- What the list of a projected group shows. -/
def projectedContent (body : Obj) (contentType : String) : String × Json :=
  (if contentType = "text/plain" then "text" else structuredType contentType,
    body.getD "text" (body.getD "payload" (body.get "payload_b64u")))

/-- A message in the list of a hosted group. -/
def hostedListedMessage (m : HostedMessage) : Result Obj := do
  let shown ← hostedContent m.body m.contentType
  return [("id", .str m.messageId), ("message_id", .str m.messageId),
    ("group_did", .str m.groupDid), ("sender_did", .str m.senderDid),
    ("operation_id", .str m.operationId), ("body", .obj m.body), ("type", .str shown.1),
    ("content", shown.2), ("content_type", .str m.contentType),
    ("server_seq", .int m.groupEventSeq), ("group_event_seq", .str (toString m.groupEventSeq)),
    ("created_at", .str m.createdAt), ("group_receipt", .obj m.receipt)]

/-- A message in the list of a projected group. -/
def projectedListedMessage (v : GroupMessageView) : Obj :=
  let shown := projectedContent v.body v.contentType
  [("id", .str v.messageId), ("message_id", .str v.messageId), ("group_did", .str v.groupDid),
    ("sender_did", .str v.senderDid), ("operation_id", .str v.operationId),
    ("content_type", .str v.contentType), ("body", .obj v.body), ("content", shown.2),
    ("type", .str shown.1), ("server_seq", .int v.groupEventSeq),
    ("group_event_seq", .str (toString v.groupEventSeq)),
    ("group_state_version", .str (toString v.groupStateVersion)), ("group_receipt", .obj v.receipt),
    ("accepted_at", .str v.acceptedAt)]

/-- The page both lists answer with. -/
def listedPage (groupDid : String) (since : ℤ) (messages : List Obj) (hasMore : Bool)
    (source : String) : Obj :=
  let nextSeq := (messages.getLast?.map fun o ↦ Obj.get o "group_event_seq").getD
    (.str (toString since))
  [("group_did", .str groupDid), ("messages", .arr (messages.map .obj)),
    ("total", .int messages.length), ("has_more", .bool hasMore), ("next_since_seq", nextSeq),
    ("next_server_seq", nextSeq), ("source", .str source)]

/-- `hosted_group_list_messages`. -/
def hostedGroupListMessages (st : Store) (req : Request) (params : Obj) : Result Obj := do
  let authenticated ← currentDid req true
  let owner ← orRaise (.unauthorized "missing_authentication") authenticated
  let groupDid ← requireText (params.get "group_did") "group_did_required"
  let (since, limit) ← messagesPage params
  let _ ← groupRow st groupDid none false
  let _ ← activeMember st groupDid owner
  let since ← bindInt since
  let rows := ((st.hostedGroupMessages.filter fun m ↦
    decide (m.groupDid = groupDid ∧ since < m.groupEventSeq)).insertionSort
      fun a b ↦ a.groupEventSeq ≤ b.groupEventSeq).take (limit + 1).toNat
  let messages ← (rows.take limit.toNat).mapM hostedListedMessage
  return listedPage groupDid since messages (decide (limit < rows.length)) "local_projection"

/-- `projected_group_list_messages`. -/
def projectedGroupListMessages (st : Store) (req : Request) (params : Obj) : Result Obj := do
  let authenticated ← currentDid req true
  let owner ← orRaise (.unauthorized "missing_authentication") authenticated
  let groupDid ← requireText (params.get "group_did") "group_did_required"
  let (since, limit) ← messagesPage params
  require ((st.groupView? owner groupDid).any fun v ↦ v.membershipStatus = .active)
    (.notFound "group.projection_not_found")
  let since ← bindInt since
  let rows := ((st.groupMessageViews.filter fun v ↦
    decide (v.ownerDid = owner ∧ v.groupDid = groupDid ∧ since < v.groupEventSeq)).insertionSort
      fun a b ↦ a.groupEventSeq ≤ b.groupEventSeq).take (limit + 1).toNat
  let messages := (rows.take limit.toNat).map projectedListedMessage
  return listedPage groupDid since messages (decide (limit < rows.length)) "remote_projection"

/-- **The lists show stored rows**, of the group asked for, each as its own document. -/
theorem hostedGroupListMessages_shown {st : Store} {req : Request} {params page : Obj}
    (h : hostedGroupListMessages st req params = .ok page) :
    ∃ messages : List Obj, page.get "messages" = .arr (messages.map .obj) ∧
      ∀ o ∈ messages, ∃ m ∈ st.hostedGroupMessages, hostedListedMessage m = .ok o ∧
        params.get "group_did" = .str m.groupDid := by
  unfold hostedGroupListMessages at h
  obtain ⟨_, -, h⟩ := bind_eq_ok.mp h
  obtain ⟨owner, -, h⟩ := bind_eq_ok.mp h
  obtain ⟨groupDid, hgroupDid, h⟩ := bind_eq_ok.mp h
  obtain ⟨⟨since, limit⟩, -, h⟩ := bind_eq_ok.mp h
  obtain ⟨_, -, h⟩ := bind_eq_ok.mp h
  obtain ⟨_, -, h⟩ := bind_eq_ok.mp h
  obtain ⟨since', -, h⟩ := bind_eq_ok.mp h
  obtain ⟨messages, hmessages, h⟩ := bind_eq_ok.mp h
  rw [pure_eq_ok] at h
  refine ⟨messages, h ▸ rfl, fun o ho ↦ ?_⟩
  obtain ⟨m, hm, hlisted⟩ := mem_of_mapM_eq_ok hmessages ho
  have hrow := (List.mem_insertionSort _).mp (List.mem_of_mem_take (List.mem_of_mem_take hm))
  obtain ⟨hstored, hp⟩ := List.mem_filter.mp hrow
  have hgroup : m.groupDid = groupDid := (of_decide_eq_true hp).1
  exact ⟨m, hstored, hlisted, hgroup ▸ requireText_eq_ok hgroupDid⟩

/-- Likewise the list of a projected group. -/
theorem projectedGroupListMessages_shown {st : Store} {req : Request} {params page : Obj}
    (h : projectedGroupListMessages st req params = .ok page) :
    ∃ messages : List Obj, page.get "messages" = .arr (messages.map .obj) ∧
      ∀ o ∈ messages, ∃ v ∈ st.groupMessageViews, projectedListedMessage v = o ∧
        params.get "group_did" = .str v.groupDid := by
  unfold projectedGroupListMessages at h
  obtain ⟨_, -, h⟩ := bind_eq_ok.mp h
  obtain ⟨owner, -, h⟩ := bind_eq_ok.mp h
  obtain ⟨groupDid, hgroupDid, h⟩ := bind_eq_ok.mp h
  obtain ⟨⟨since, limit⟩, -, h⟩ := bind_eq_ok.mp h
  obtain ⟨_, -, h⟩ := bind_eq_ok.mp h
  obtain ⟨since', -, h⟩ := bind_eq_ok.mp h
  rw [pure_eq_ok] at h
  subst h
  refine ⟨_, rfl, fun o ho ↦ ?_⟩
  obtain ⟨v, hv, hlisted⟩ := List.mem_map.mp ho
  have hrow := (List.mem_insertionSort _).mp (List.mem_of_mem_take (List.mem_of_mem_take hv))
  obtain ⟨hstored, hp⟩ := List.mem_filter.mp hrow
  have hgroup : v.groupDid = groupDid := (of_decide_eq_true hp).2.1
  exact ⟨v, hstored, hlisted, hgroup ▸ requireText_eq_ok hgroupDid⟩

/-! ### What a send accepts -/

/-- The content types a send binds its body to. -/
def BOUND_CONTENT_TYPES : List String :=
  ["text/plain", "application/json", ATTACHMENT_MANIFEST_CONTENT_TYPE]

/-- **A body with one content member**, bound to the content type where it is one of the three. -/
inductive AcceptedContent (body : Obj) (contentType : String) : Prop where
  | text (v : Json) (htext : body.lookup "text" = some v) (hpayload : body.lookup "payload" = none)
      (hbinary : body.lookup "payload_b64u" = none)
      (hbound : contentType ∈ BOUND_CONTENT_TYPES → contentType = "text/plain" ∧
        ∃ t, v = .str t)
  | payload (v : Json) (htext : body.lookup "text" = none)
      (hpayload : body.lookup "payload" = some v) (hbinary : body.lookup "payload_b64u" = none)
      (hbound : contentType ≠ "text/plain")
  | binary (v : Json) (htext : body.lookup "text" = none) (hpayload : body.lookup "payload" = none)
      (hbinary : body.lookup "payload_b64u" = some v) (hbound : contentType ∉ BOUND_CONTENT_TYPES)

/-- A body that passes the checks of a send has one content member. -/
theorem checkMessage_acceptedContent {settings : Settings} {req : Request} {body : Obj}
    {contentType : String} (h : checkMessage settings req body contentType = .ok ()) :
    AcceptedContent body contentType := by
  unfold checkMessage at h
  obtain ⟨_, hone, h⟩ := bind_eq_ok.mp h
  obtain ⟨_, hplain, h⟩ := bind_eq_ok.mp h
  obtain ⟨_, hobject, -⟩ := bind_eq_ok.mp h
  rw [require_eq_ok] at hone hplain hobject
  have hplain : contentType = "text/plain" → ∃ t, body.get "text" = .str t := by
    intro heq
    obtain ⟨t, ht⟩ := Option.isSome_iff_exists.mp (by simpa [heq] using hplain)
    exact ⟨t, Json.str?_eq_some.mp ht⟩
  have hobject : contentType = "application/json" ∨
      contentType = ATTACHMENT_MANIFEST_CONTENT_TYPE → ∃ o, body.get "payload" = .obj o := by
    intro heq
    obtain ⟨o, ho⟩ := Option.isSome_iff_exists.mp (by
      rcases heq with rfl | rfl <;> simpa [ATTACHMENT_MANIFEST_CONTENT_TYPE] using hobject)
    exact ⟨o, Json.obj?_eq_some.mp ho⟩
  have hnull : ∀ {k : String}, body.lookup k = none → body.get k = .null := by
    intro k hk
    rw [Obj.get, Obj.getD, hk, Option.getD_none]
  cases htext : body.lookup "text" <;> cases hpayload : body.lookup "payload" <;>
    cases hbinary : body.lookup "payload_b64u" <;>
    simp [Obj.has, htext, hpayload, hbinary] at hone
  · refine .binary _ htext hpayload hbinary fun hmem ↦ ?_
    rcases List.mem_cons.mp hmem with heq | hmem
    · obtain ⟨t, ht⟩ := hplain heq
      simp [hnull htext] at ht
    · obtain ⟨o, ho⟩ := hobject (by simpa using hmem)
      simp [hnull hpayload] at ho
  · refine .payload _ htext hpayload hbinary fun heq ↦ ?_
    obtain ⟨t, ht⟩ := hplain heq
    simp [hnull htext] at ht
  · refine .text _ htext hpayload hbinary fun hmem ↦ ?_
    rcases List.mem_cons.mp hmem with heq | hmem
    · obtain ⟨t, ht⟩ := hplain heq
      exact ⟨heq, t, (Obj.get_eq_of_lookup htext).symm.trans ht⟩
    · obtain ⟨o, ho⟩ := hobject (by simpa using hmem)
      simp [hnull hpayload] at ho

/-! ### Who shows what -/

/-- `str.lower()`, on ASCII text. -/
def LowersAscii (lower : String → String) : Prop :=
  ∀ s : String, (∀ c ∈ s.toList, c.toNat < 128) →
    lower s = String.ofList (s.toList.map Char.toLower)

/-- A document shows this pair. -/
def Shows (o : Obj) (shown : String × Json) : Prop :=
  o.get "type" = .str shown.1 ∧ o.get "content" = shown.2

/-- **One pair for every reader**: the two lists, and ordinary sync. -/
def SeenAlike (req : DeviceRequest) (m : HostedMessage) (v : GroupMessageView) : Prop :=
  ∃ shown, (∃ o, hostedListedMessage m = .ok o ∧ Shows o shown) ∧
    Shows (projectedListedMessage v) shown ∧
    Shows (syncMessageFields req "group" m.messageId (toString m.groupEventSeq) m.senderDid
      (.str m.operationId) m.body m.contentType m.createdAt) shown

/-- The condition: a bound content type, or a binary body that sync does not take for a manifest. -/
def PlainlyTyped (req : DeviceRequest) (body : Obj) (contentType : String) : Prop :=
  contentType ∈ BOUND_CONTENT_TYPES ∨ (∃ b, body.get "payload_b64u" = .str b) ∧
    normalizeContentType req.outside req.lower (.str contentType) ≠ ATTACHMENT_MANIFEST_CONTENT_TYPE

section Readers

variable {req : DeviceRequest} {body : Obj} {contentType : String}

/-- The content types of the three kinds are what they are normalized to. -/
theorem normalizeContentType_bound (hlower : LowersAscii req.lower)
    (h : contentType ∈ BOUND_CONTENT_TYPES) :
    normalizeContentType req.outside req.lower (.str contentType) = contentType := by
  have hfixed : ∀ s ∈ BOUND_CONTENT_TYPES, s ≠ "" ∧ stripChars s.toList = s.toList ∧
      s.toList.all (fun c ↦ c.toNat < 128) ∧ s.toList.map Char.toLower = s.toList := by
    decide +kernel
  obtain ⟨hne, hstrip, hall, hsmall⟩ := hfixed contentType h
  have hascii : ∀ c ∈ contentType.toList, c.toNat < 128 := by simpa using hall
  have hlowered : req.lower contentType = contentType := by
    rw [hlower contentType hascii, hsmall, String.ofList_toList]
  have htruthy : (Json.str contentType).orElse (.str "text/plain") = .str contentType := by
    simp [Json.orElse, Json.truthy, hne]
  have hread : req.outside.str (.str contentType) = contentType := rfl
  simp only [normalizeContentType, htruthy, hread, hstrip, String.ofList_toList, hlowered,
    if_neg hne]

/-- A document shows one pair. -/
theorem shows_iff {o : Obj} {a b : String × Json} (h : Shows o a) : Shows o b ↔ b = a := by
  unfold Shows at h ⊢
  rw [h.1, h.2, Json.str.injEq, Prod.ext_iff, eq_comm, @eq_comm _ a.2]

/-- The documents show what the three case analyses come to. -/
theorem seenAlike_iff_content {m : HostedMessage} {v : GroupMessageView}
    (hbody : v.body = m.body) (hcontentType : v.contentType = m.contentType) :
    SeenAlike req m v ↔
      hostedContent m.body m.contentType = .ok (projectedContent m.body m.contentType) ∧
        projectMessageContent req m.body m.contentType =
          projectedContent m.body m.contentType := by
  have hprojected : Shows (projectedListedMessage v) (projectedContent m.body m.contentType) := by
    rw [← hbody, ← hcontentType]
    exact ⟨rfl, rfl⟩
  have hsync : Shows (syncMessageFields req "group" m.messageId (toString m.groupEventSeq)
      m.senderDid (.str m.operationId) m.body m.contentType m.createdAt)
      (projectMessageContent req m.body m.contentType) := ⟨rfl, rfl⟩
  have hhosted : ∀ shown, (∃ o, hostedListedMessage m = .ok o ∧ Shows o shown) ↔
      hostedContent m.body m.contentType = .ok shown := by
    intro shown
    unfold hostedListedMessage
    cases hostedContent m.body m.contentType with
    | error e => simp [bind, Except.bind]
    | ok seen =>
      refine ⟨?_, ?_⟩
      · rintro ⟨o, ho, hshows⟩
        obtain rfl := Except.ok.inj ho
        rw [(shows_iff (a := seen) ⟨rfl, rfl⟩).mp hshows]
      · rintro h
        obtain rfl := Except.ok.inj h
        exact ⟨_, rfl, rfl, rfl⟩
  simp only [SeenAlike, hhosted, shows_iff hprojected, shows_iff hsync]
  constructor
  · rintro ⟨shown, h, rfl, heq⟩
    exact ⟨h, heq.symm⟩
  · rintro ⟨h, heq⟩
    exact ⟨_, h, rfl, heq.symm⟩

/-- Any other content type makes a message binary in the lists. -/
theorem content_of_not_bound (h : contentType ∉ BOUND_CONTENT_TYPES) :
    contentType ≠ "text/plain" ∧ structuredType contentType = "binary" := by
  simp only [BOUND_CONTENT_TYPES, List.mem_cons, List.not_mem_nil, or_false, not_or] at h
  exact ⟨h.1, by rw [structuredType, if_neg h.2.2, if_neg h.2.1]⟩

/-- **Where the three case analyses agree.** -/
theorem content_agrees_iff (hlower : LowersAscii req.lower) (h : AcceptedContent body contentType) :
    (hostedContent body contentType = .ok (projectedContent body contentType) ∧
      projectMessageContent req body contentType = projectedContent body contentType) ↔
      PlainlyTyped req body contentType := by
  have hnormal : contentType ∈ BOUND_CONTENT_TYPES →
      normalizeContentType req.outside req.lower (.str contentType) = contentType :=
    normalizeContentType_bound hlower
  unfold PlainlyTyped projectMessageContent
  generalize normalizeContentType req.outside req.lower (.str contentType) = normalized at *
  -- By the member the body has. A bound content type decides it; any other is read differently.
  cases h with
  | text v htext hpayload hbinary hbound =>
    by_cases hmem : contentType ∈ BOUND_CONTENT_TYPES
    · obtain ⟨rfl, t, rfl⟩ := hbound hmem
      rw [hnormal hmem]
      simp [hostedContent, projectedContent, Obj.get, Obj.getD, htext, hmem,
        ATTACHMENT_MANIFEST_CONTENT_TYPE, orRaise, bind, Except.bind, pure, Except.pure]
    · -- The lists take the text for binary, which sync never does.
      obtain ⟨hplain, hbinaryType⟩ := content_of_not_bound hmem
      refine iff_of_false (fun h ↦ ?_) (by simp [hmem, Obj.get, Obj.getD, hbinary])
      have hkind := congrArg Prod.fst h.2
      rw [projectedContent, if_neg hplain, hbinaryType] at hkind
      simp only [Obj.get, Obj.getD, Obj.has, htext, hpayload, hbinary, Option.getD_some,
        Option.getD_none, Option.isSome_none, Bool.false_eq_true, if_false] at hkind
      split at hkind
      · simp at hkind
      · split at hkind <;> simp at hkind
  | payload v htext hpayload hbinary hbound =>
    by_cases hmem : contentType ∈ BOUND_CONTENT_TYPES
    · rw [hnormal hmem]
      have hkinds : contentType = "application/json" ∨
          contentType = ATTACHMENT_MANIFEST_CONTENT_TYPE := by
        simpa [BOUND_CONTENT_TYPES, hbound] using hmem
      rcases hkinds with rfl | rfl <;>
        simp [hostedContent, projectedContent, structuredType, Obj.get, Obj.getD, Obj.has, htext,
          hpayload, BOUND_CONTENT_TYPES, ATTACHMENT_MANIFEST_CONTENT_TYPE]
    · obtain ⟨hplain, hbinaryType⟩ := content_of_not_bound hmem
      refine iff_of_false (fun h ↦ ?_) (by simp [hmem, Obj.get, Obj.getD, hbinary])
      have hkind := congrArg Prod.fst h.2
      rw [projectedContent, if_neg hplain, hbinaryType] at hkind
      simp only [Obj.get, Obj.getD, Obj.has, htext, hpayload, Option.getD_some, Option.getD_none,
        Option.isSome_some, if_true] at hkind
      split at hkind <;> simp at hkind
  | binary v htext hpayload hbinary hmem =>
    obtain ⟨hplain, hbinaryType⟩ := content_of_not_bound hmem
    simp only [hostedContent, projectedContent, hplain, if_false, hbinaryType, Obj.get, Obj.getD,
      Obj.has, htext, hpayload, hbinary, Option.getD_some, Option.getD_none, Option.isSome_none,
      Bool.false_eq_true, true_and, hmem, false_or]
    by_cases hmanifest : normalized = ATTACHMENT_MANIFEST_CONTENT_TYPE
    · simp [hmanifest]
    · rw [if_neg hmanifest]
      cases v <;> simp [hmanifest]

end Readers

/-! ### Accepted messages -/

/-- **A send stores at most one message, and one it accepts.** -/
theorem hostedSend_acceptedContent {settings : Settings} {st st' : Store} {c : HostedCall}
    {result : Obj} (hsend : c.method = .send) (h : hostedCall settings st c = .ok (result, st'))
    {m : HostedMessage} (hm : m ∈ st'.hostedGroupMessages) (hnew : m ∉ st.hostedGroupMessages) :
    AcceptedContent m.body m.contentType := by
  cases hostedCall_accepted h with
  | replayed s hs ctx scope hmethod hreplay hsame => exact absurd (hsame ▸ hm) hnew
  | sent ctx group messageId contentType hmethod hctx hmessageId hcontentType hcheck hgroup hreplay
      hcapacity hfresh haccept =>
    obtain ⟨hfound, -, hprofile, hactive⟩ := groupRow_eq_ok hgroup
    obtain ⟨a, -, -, -, -, -, -, -, -, -, stored, hstored, -, hbody, htype⟩ :=
      acceptMessage_advance haccept hfound hprofile hactive (hctx.method_eq.trans hmethod)
    rw [a.messages, hstored] at hm
    obtain rfl : m = stored := by simpa [hnew] using hm
    rw [hbody, htype]
    exact checkMessage_acceptedContent hcheck
  | created => simp_all
  | admitted => simp_all
  | ended => simp_all
  | rebound => simp_all
  | updated => simp_all

/-- **One message is seen alike by every reader**, exactly if its content type is one of the three a
send binds, or its body is binary text and sync does not take it for a manifest. -/
theorem group_message_seen_alike_iff {settings : Settings} {st st' : Store} {c : HostedCall}
    {result : Obj} (hsend : c.method = .send) (h : hostedCall settings st c = .ok (result, st'))
    {m : HostedMessage} (hm : m ∈ st'.hostedGroupMessages) (hnew : m ∉ st.hostedGroupMessages)
    {req : DeviceRequest} (hlower : LowersAscii req.lower) {v : GroupMessageView}
    (hbody : v.body = m.body) (hcontentType : v.contentType = m.contentType) :
    SeenAlike req m v ↔ PlainlyTyped req m.body m.contentType := by
  rw [seenAlike_iff_content hbody hcontentType]
  exact content_agrees_iff hlower (hostedSend_acceptedContent hsend h hm hnew)

/-! ### Markdown -/

/-- Alice sends text under this content type to the sample group. -/
def sendText (contentType : String) : HostedCall :=
  callAs alice .send
    (sampleParams alice "op-send" "group" sampleGroup
      [("message_id", .str "msg-1"), ("content_type", .str contentType)]
      [("text", .str "# Hello")])
    HostWorld.sample.store

/-- The projection of a message with a member elsewhere. -/
def projectionOf (owner : String) (m : HostedMessage) : GroupMessageView where
  ownerDid := owner
  groupDid := m.groupDid
  messageId := m.messageId
  groupEventSeq := m.groupEventSeq
  groupStateVersion := 2
  senderDid := m.senderDid
  operationId := m.operationId
  contentType := m.contentType
  body := m.body
  receipt := m.receipt
  acceptedAt := m.createdAt
  wireProfile := m.wireProfile

/-- Alice's device, where `str.lower()` knows ASCII. -/
def lowerDevice : DeviceRequest :=
  { aliceDevice with lower := fun s ↦ String.ofList (s.toList.map Char.toLower) }

/-- It does. -/
theorem lowerDevice_lowersAscii : LowersAscii lowerDevice.lower := fun _ _ ↦ rfl

/-- What such a send stores. -/
theorem sendText_eq_ok (contentType : String) (p : HostedMessage → Bool)
    (h : (match hostedCall .sample HostWorld.sample.store (sendText contentType) with
      | .ok (_, st') => st'.hostedGroupMessages.any p
      | .error _ => false) = true) :
    ∃ result st' m, hostedCall .sample HostWorld.sample.store (sendText contentType) =
      .ok (result, st') ∧ m ∈ st'.hostedGroupMessages ∧ p m = true ∧
        m ∉ HostWorld.sample.store.hostedGroupMessages := by
  have hnone : HostWorld.sample.store.hostedGroupMessages.length = 0 := by decide +kernel
  split at h
  · next result st' hcall =>
    obtain ⟨m, hm, hp⟩ := List.any_eq_true.mp h
    refine ⟨result, st', m, hcall, hm, hp, ?_⟩
    rw [List.eq_nil_of_length_eq_zero hnone]
    exact List.not_mem_nil
  · cases h

/-- **Markdown is text to sync, and binary without content to the Host's list.** -/
theorem markdown_not_seen_alike :
    ¬ ∀ (w : HostWorld) (c : HostedCall) (result : Obj) (st' : Store) (m : HostedMessage)
      (req : DeviceRequest) (v : GroupMessageView),
      Reaches (HostStep .sample) .empty w → c.method = .send →
      hostedCall .sample w.store c = .ok (result, st') → m ∈ st'.hostedGroupMessages →
      m ∉ w.store.hostedGroupMessages → LowersAscii req.lower → v.body = m.body →
      v.contentType = m.contentType → SeenAlike req m v := by
  intro hall
  obtain ⟨result, st', m, hcall, hm, hp, hnew⟩ := sendText_eq_ok "text/markdown"
    (fun m ↦ decide (m.contentType = "text/markdown") && (m.body.get "payload_b64u").str?.isNone)
    (by decide +kernel)
  obtain ⟨htype, hnone⟩ := Bool.and_eq_true_iff.mp hp
  have hseen := hall .sample _ result st' m lowerDevice (projectionOf bob m)
    HostWorld.sample_reached rfl hcall hm hnew lowerDevice_lowersAscii rfl rfl
  rw [seenAlike_iff_content rfl rfl, content_agrees_iff lowerDevice_lowersAscii
    (hostedSend_acceptedContent rfl hcall hm hnew)] at hseen
  rcases hseen with hbound | ⟨⟨b, hb⟩, -⟩
  · rw [of_decide_eq_true htype] at hbound
    exact absurd hbound (by decide)
  · rw [hb] at hnone
    cases hnone

/-- Plain text is seen alike. -/
theorem group_message_seen_alike_plain :
    ∃ result st' m, hostedCall .sample HostWorld.sample.store (sendText "text/plain") =
      .ok (result, st') ∧ m ∈ st'.hostedGroupMessages ∧
        SeenAlike lowerDevice m (projectionOf bob m) := by
  obtain ⟨result, st', m, hcall, hm, hp, hnew⟩ := sendText_eq_ok "text/plain"
    (fun m ↦ decide (m.contentType = "text/plain")) (by decide +kernel)
  refine ⟨result, st', m, hcall, hm, (group_message_seen_alike_iff rfl hcall hm hnew
    lowerDevice_lowersAscii rfl rfl).mpr (.inl ?_)⟩
  rw [of_decide_eq_true hp]
  decide

end Awiki
