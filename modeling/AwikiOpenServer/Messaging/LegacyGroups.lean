import AwikiOpenServer.Messaging.DirectSend

/-!
# Groups without a Group DID host

`group_join`, `group_leave` and `group_send` of the groups the server had before it hosted Group
DIDs, statement by statement. As with direct messages, the number of a new message is read in
autocommit, before the `INSERT` takes the write lock.

## What they share with direct sends

The statements, the checks of the envelope and the rules are those of `Messaging/DirectSend.lean`,
and the three handlers are written in the same way: the checks first, then the reads in their order,
then the write statements. A repeated message is recognized by its operation id or its message id
and answered from the stored row, or refused with the fields in which it differs
(`groupIdempotentResultOrRaise`).

Only the message id is a key of `group_messages`. A group may therefore hold two messages of one
number, which is the subject of `Messaging/MessageNumbers.lean`.

## What they announce

A join, a departure and a message each put one entry into the log of every member, and the one who
leaves is told as well. What an entry may say is `Announcement`, and the rules at the end of the
file reduce a result about the commit of a handler to that: `groupJoin_guarded` and
`groupLeave_guarded` for any property that is indifferent to the members of legacy groups, and
`groupSend_guarded` for one about messages, with what the last read before the `INSERT` has seen.

A join from another service needs the signatures `verifyPeerJoin` lists; the signatures themselves
are checked outside, as everywhere.
-/

namespace Awiki

open Py Transactions

/-- `params.get("sender_did") or current_did(request, required=…)`: **the caller is only looked up
when the parameters name no sender**. -/
def senderOrCaller (req : Request) (params : Obj) (required : Bool) : Result Json :=
  if (params.get "sender_did").truthy then .ok (params.get "sender_did")
  else do return textOrNull (← currentDid req required)

/-- The rows of the members of a group. -/
def legacyMemberDids (st : Store) (groupDid : String) : List String :=
  (st.groupMembers.filter fun m ↦ decide (m.groupDid = groupDid)).map LegacyMember.memberDid

/-- One entry in the log of each owner. -/
def addSyncEvents (st : Store) (owners : List String) (eventType : String → String)
    (payload : Obj) (now : String) : Store :=
  owners.foldl (fun st owner ↦ addSyncEvent st owner (eventType owner) payload now) st

/-- `group_get_info`: the group the parameters name. -/
def legacyGroup (req : Request) (params : Obj) (st : Store) : Result LegacyGroup := do
  require (params.get "group_did").truthy (.invalidParams "group_did_required")
  let groupDid ← bindText req.outside.reprFloat (params.get "group_did")
  orRaise (.notFound "group_not_found")
    (st.groups.find? fun g ↦ decide (some g.groupDid = groupDid))

/-- The signatures a join from another service must carry. -/
def verifyPeerJoin (settings : Settings) (req : SendRequest) (params : Obj) (did : Json)
    (group : LegacyGroup) : Statements Unit := do
  let proofBody := dictOr (envelopePart params "_anp_body") [("group_did", .str group.groupDid)]
  verifySenderProof req "group.join" (req.outside.str did)
    ((envelopePart params "_anp_meta").getD []) proofBody (envelopePart params "_anp_auth")
  let _ ← check (verifyPeerRequestSignature settings req.toRequest (req.outside.str did))

/-- The write statements of `group_join`. -/
def admitLegacyMember (req : SendRequest) (group : LegacyGroup) (did : Json) (memberDid : String) :
    Statements Unit := do
  .write fun st ↦ do
    require (st.groups.any fun g ↦ decide (g.groupDid = group.groupDid))
      (.integrity "FOREIGN KEY constraint failed")
    return { st with
      groupMembers := Table.insertOrIgnore LegacyMember.key
        { groupDid := group.groupDid, memberDid := memberDid, role := "member",
          joinedAt := req.outside.now } st.groupMembers }
  .write fun st ↦ .ok (addSyncEvents st (legacyMemberDids st group.groupDid)
    (fun owner ↦ if did.isStr owner then "group.joined" else "group.member.joined")
    [("group_did", .str group.groupDid), ("member_did", did)] req.outside.now)

/-- `group_join`. -/
def groupJoin (settings : Settings) (req : SendRequest) (params : Obj) : Statements Obj := do
  let did ← check (senderOrCaller req.toRequest params (req.surface ≠ .publicRpc))
  check (require did.truthy (.invalidParams "sender_did_required"))
  let group ← .query (legacyGroup req.toRequest params)
  let group ← check group
  check (require (!(["invite_token", "join_token", "join_code"].any fun k ↦ params.has k))
    (.notSupported "group.join_credentials_not_supported"))
  .onlyIf (req.surface = .publicRpc) (verifyPeerJoin settings req params did group)
  check (require (group.joinMode = "open_join")
    (.notSupported "legacy_group_join_mode_not_supported"))
  let memberDid ← check (bindTextNotNull req.outside.reprFloat did)
  admitLegacyMember req group did memberDid
  return [("joined", .bool true), ("group_did", .str group.groupDid), ("member_did", did)]

/-- `_require_group_member`. -/
def requireGroupMember (groupDid memberDid : String) : Statements Unit := do
  let known ← .query fun st ↦ st.groups.any fun g ↦ decide (g.groupDid = groupDid)
  check (require known (.notFound "group_not_found"))
  let member ← .query fun st ↦ st.groupMembers.any fun m ↦ decide (m.key = (groupDid, memberDid))
  check (require member (.unauthorized "group.not_member"))

/-- The write statements of `group_leave`; the one who left is told too. -/
def dismissLegacyMember (req : SendRequest) (groupDid did : Json) (group member : String) :
    Statements Unit := do
  .write fun st ↦ .ok { st with
    groupMembers := st.groupMembers.filter fun m ↦ !decide (m.key = (group, member)) }
  .write fun st ↦ .ok (addSyncEvents st
    (req.outside.str did :: legacyMemberDids st group).dedup
    (fun owner ↦ if did.isStr owner then "group.left" else "group.member.left")
    [("group_did", groupDid), ("member_did", did)] req.outside.now)

/-- `group_leave`. -/
def groupLeave (req : SendRequest) (params : Obj) : Statements Obj := do
  let did ← check (senderOrCaller req.toRequest params true)
  let groupDid := params.get "group_did"
  check (require groupDid.truthy (.invalidParams "group_did_required"))
  let group ← check (bindTextNotNull req.outside.reprFloat groupDid)
  let member ← check (bindTextNotNull req.outside.reprFloat did)
  requireGroupMember group member
  dismissLegacyMember req groupDid did group member
  return [("left", .bool true), ("group_did", groupDid)]

/-! ### Messages -/

/-- What `group_send` has made of its parameters. -/
structure LegacySend where
  sender : Json
  groupDid : Json
  body : Obj
  contentType : Json
  messageId : Json
  operationId : Json

/-- The fields in which a stored message differs from a repeated request. -/
def legacyConflicts (row : LegacyMessage) (c : LegacySend) : List String :=
  [(!c.groupDid.isStr row.groupDid, "group_did"), (!c.sender.isStr row.senderDid, "sender_did"),
    (!c.contentType.isStr row.contentType, "content_type"),
    (!Json.identical (.obj row.body) (.obj c.body), "body"),
    (!c.operationId.isNull && !row.operationId.any fun id ↦ c.operationId.isStr id,
      "operation_id")].filterMap fun p ↦ if p.1 then some p.2 else none

/-- `_group_idempotent_result_or_raise`. -/
def groupIdempotentResultOrRaise (row : LegacyMessage) (c : LegacySend) : Result Obj := do
  let fields := legacyConflicts row c
  require fields.isEmpty (.conflict "message_id_conflict"
    [("message_id", .str row.messageId), ("fields", .arr (fields.map .str))])
  return [
    ("accepted", .bool true), ("delivery_state", .str "accepted"), ("final_acceptance", .bool true),
    ("message_id", .str row.messageId),
    ("operation_id", (textOrNull row.operationId).orElse c.operationId),
    ("group_did", .str row.groupDid), ("sender_did", .str row.senderDid),
    ("server_seq", .int row.serverSeq), ("group_event_seq", .str (toString row.serverSeq)),
    ("group_state_version", .str (toString row.serverSeq)), ("accepted_at", .str row.createdAt),
    ("content_type", .str row.contentType), ("body", .obj row.body),
    ("idempotent_replay", .bool true)]

/-- `_group_sync_event_payload`. -/
def groupSyncEventPayload (req : SendRequest) (c : LegacySend) (serverSeq : ℕ) : Obj :=
  [("thread_kind", .str "group"),
    ("thread", .obj [("kind", .str "group"), ("group_did", c.groupDid)]),
    ("message", .obj
      [("id", .str (req.outside.str c.groupDid ++ ":" ++ toString serverSeq)),
        ("message_id", c.messageId), ("server_seq", .str (toString serverSeq)),
        ("group_event_seq", .str (toString serverSeq)), ("group_did", c.groupDid),
        ("sender_did", c.sender),
        ("content_type", .str (normalizeContentType req.outside req.lower c.contentType))])]

/-- The row of a new message. -/
def legacyMessageRow (req : SendRequest) (c : LegacySend) (seq : ℕ) : Result LegacyMessage := do
  let text := bindTextNotNull req.outside.reprFloat
  return {
    messageId := ← text c.messageId
    groupDid := ← text c.groupDid
    senderDid := ← text c.sender
    operationId := ← bindText req.outside.reprFloat c.operationId
    body := c.body
    contentType := ← text c.contentType
    createdAt := req.outside.now
    serverSeq := seq }

/-- `INSERT INTO group_messages`: only the message id is a key. -/
def insertLegacyMessage (st : Store) (row : LegacyMessage) : Result Store := do
  require (st.groups.any fun g ↦ decide (g.groupDid = row.groupDid))
    (.integrity "FOREIGN KEY constraint failed")
  let rows ← orRaise (.integrity "group_messages")
    (Table.insert? LegacyMessage.messageId row st.groupMessages)
  return { st with groupMessages := rows }

/-- The write statements of `group_send`. -/
def insertAndAnnounce (req : SendRequest) (c : LegacySend) (seq : ℕ) : Statements Obj := do
  let row ← check (legacyMessageRow req c seq)
  .write fun st ↦ insertLegacyMessage st row
  .write fun st ↦ .ok (addSyncEvents st (legacyMemberDids st row.groupDid)
    (fun _ ↦ "group.message.created") (groupSyncEventPayload req c seq) req.outside.now)
  return [
    ("accepted", .bool true), ("delivery_state", .str "accepted"), ("final_acceptance", .bool true),
    ("message_id", c.messageId), ("operation_id", c.operationId), ("group_did", c.groupDid),
    ("sender_did", c.sender), ("server_seq", .int seq), ("group_event_seq", .str (toString seq)),
    ("group_state_version", .str (toString seq)), ("accepted_at", .str req.outside.now),
    ("content_type", c.contentType), ("body", .obj c.body)]

/-- The checks of `group_send` on its parameters. -/
def legacySend (req : SendRequest) (params : Obj) : Result LegacySend := do
  let metaObj := (envelopePart params "_anp_meta").getD []
  let sender ← senderOrCaller req.toRequest params true
  let groupDid := params.get "group_did"
  let contentType := ((params.get "content_type").orElse (metaObj.get "content_type")).orElse
    (.str "text/plain")
  let body := dictOr (envelopePart params "_anp_body")
    ((params.get "body").obj?.getD
      [("content_type", contentType), ("text", params.getD "text" (.str ""))])
  validateSendEnvelopeMeta params metaObj "group" groupDid
  if shouldValidateBodyShape req params contentType then
    validateMessageBodyShape req body contentType GROUP_BODY_EXTENSION_KEYS
  require groupDid.truthy (.invalidParams "group_did_required")
  return {
    sender := sender
    groupDid := groupDid
    body := body
    contentType := contentType
    messageId := (params.get "message_id").orElse (.str req.newMessageId)
    operationId := (params.get "operation_id").orElse (metaObj.get "operation_id") }

/-- `group_send`. -/
def groupSend (req : SendRequest) (params : Obj) : Statements Obj := do
  let c ← check (legacySend req params)
  let group ← check (bindTextNotNull req.outside.reprFloat c.groupDid)
  let member ← check (bindTextNotNull req.outside.reprFloat c.sender)
  let known ← .query fun st ↦ st.groupMembers.any fun m ↦ decide (m.key = (group, member))
  check (require known (.unauthorized "not_group_member"))
  let messageId ← check (bindText req.outside.reprFloat c.messageId)
  let existing ← .query fun st ↦
    st.groupMessages.find? fun m ↦ decide (some m.messageId = messageId)
  match existing with
  | some row => check (groupIdempotentResultOrRaise row c)
  | none =>
    let seq ← .query fun st ↦ nextSeq (st.groupMessages.map LegacyMessage.serverSeq)
    insertAndAnnounce req c seq

/-! ### What they do, statement by statement -/

section Guards

variable {I V : Store → Prop} {R : Option Store → Store → Store → Prop} {last : Option Store}
  {settings : Settings} {req : SendRequest}

/-- One entry for each owner. -/
theorem SurvivesEvents.addSyncEvents (hevents : SurvivesEvents V) {owners : List String}
    {eventType : String → String} {payload : Obj} {now : String} {st : Store}
    (hannounced : ∀ owner, Announcement (eventType owner) payload) (h : V st) :
    V (addSyncEvents st owners eventType payload now) := by
  unfold Awiki.addSyncEvents
  induction owners generalizing st with
  | nil => exact h
  | cons owner rest ih => exact ih (hevents _ _ _ _ _ (hannounced owner) h)

/-- Joining and leaving are announced under one of two names. -/
theorem announcement_ite {c : Prop} [Decidable c] {a b : String} {payload : Obj}
    (ha : Announcement a payload) (hb : Announcement b payload) :
    Announcement (if c then a else b) payload := by
  split
  · exact ha
  · exact hb

/-- `V` is indifferent to the members of legacy groups. -/
def IgnoresLegacyMembers (V : Store → Prop) : Prop :=
  ∀ st rows, V st → V { st with groupMembers := rows }

/-- A join changes members and announces. -/
theorem groupJoin_guarded (hmembers : IgnoresLegacyMembers I) (hevents : SurvivesEvents I)
    (params : Obj) :
    (groupJoin settings req params).Guarded I R (fun _ _ ↦ True) (fun _ s ↦ I s) last := by
  refine Program.guarded_bind_ofExcept fun did _ ↦ Program.guarded_bind_ofExcept fun _ _ ↦ ?_
  refine Program.guarded_bind_query fun s _ ↦ Program.guarded_bind_ofExcept fun group _ ↦ ?_
  refine Program.guarded_bind_ofExcept fun _ _ ↦ (Program.guarded_bind _ _).mpr ?_
  -- Whether or not a peer was verified, what is left is the two writes.
  suffices hrest : ∀ l, Program.Guarded I R (fun _ _ ↦ True) (fun _ s ↦ I s) l
      (do check (require (group.joinMode = "open_join")
            (.notSupported "legacy_group_join_mode_not_supported"))
          let memberDid ← check (bindTextNotNull req.outside.reprFloat did)
          admitLegacyMember req group did memberDid
          return [("joined", .bool true), ("group_did", .str group.groupDid),
            ("member_did", did)] : Statements Obj) by
    refine Program.guarded_onlyIf (hrest _) fun _ ↦ (Program.guarded_bind _ _).mpr ?_
    exact verifySenderProof_guarded fun l ↦ Program.guarded_bind_ofExcept fun _ _ ↦ hrest l
  intro l
  refine Program.guarded_bind_ofExcept fun _ _ ↦ Program.guarded_bind_ofExcept fun memberDid _ ↦ ?_
  refine (Program.guarded_bind _ _).mpr (Program.guarded_bind_write ?_)
  intro s s' hs hs' _
  obtain ⟨_, -, hs'⟩ := bind_eq_ok.mp hs'
  obtain rfl := pure_eq_ok.mp hs'
  rintro _ ⟨⟩
  refine hevents.addSyncEvents (fun _ ↦ announcement_ite ?_ ?_) (hmembers _ _ hs)
  · exact .plain (by decide)
  · exact .plain (by decide)

/-- So does a departure. -/
theorem groupLeave_guarded (hmembers : IgnoresLegacyMembers I) (hevents : SurvivesEvents I)
    (params : Obj) : (groupLeave req params).Guarded I R (fun _ _ ↦ True) (fun _ s ↦ I s) last := by
  refine Program.guarded_bind_ofExcept fun did _ ↦ Program.guarded_bind_ofExcept fun _ _ ↦ ?_
  refine Program.guarded_bind_ofExcept fun group _ ↦ Program.guarded_bind_ofExcept fun member _ ↦ ?_
  refine (Program.guarded_bind _ _).mpr (Program.guarded_bind_query fun _ _ ↦ ?_)
  refine Program.guarded_bind_ofExcept fun _ _ ↦ Program.guarded_bind_query fun _ _ ↦ ?_
  refine Program.guarded_ofExcept.mpr fun _ _ ↦ ?_
  refine (Program.guarded_bind _ _).mpr (Program.guarded_bind_write ?_)
  rintro s _ hs ⟨⟩ - _ ⟨⟩
  refine hevents.addSyncEvents (fun _ ↦ announcement_ite ?_ ?_) (hmembers _ _ hs)
  · exact .plain (by decide)
  · exact .plain (by decide)

/-- A message names its group. -/
theorem legacySend_truthy {params : Obj} {c : LegacySend} (h : legacySend req params = .ok c) :
    c.groupDid.truthy = true := by
  unfold legacySend at h
  obtain ⟨sender, _, h⟩ := bind_eq_ok.mp h
  obtain ⟨_, _, h⟩ := bind_eq_ok.mp h
  have hlast : ∀ {x : LegacySend}, x.groupDid = params.get "group_did" →
      (do require (params.get "group_did").truthy (.invalidParams "group_did_required")
          pure x : Result LegacySend) = .ok c → c.groupDid.truthy = true := by
    intro x hx hok
    obtain ⟨_, htruthy, hok⟩ := bind_eq_ok.mp hok
    rw [← pure_eq_ok.mp hok, hx]
    exact require_eq_ok.mp htruthy
  -- The shape of the body is checked on one of the two branches only.
  dsimp only at h
  split at h
  · obtain ⟨_, _, h⟩ := bind_eq_ok.mp h
    exact hlast rfl h
  · exact hlast rfl h

/-- A message is announced with the group it was stored under. -/
theorem groupSyncEventPayload_announcement {c : LegacySend} {seq : ℕ} {row : LegacyMessage}
    (h : legacyMessageRow req c seq = .ok row) (htruthy : c.groupDid.truthy = true) :
    Announcement "group.message.created" (groupSyncEventPayload req c seq) := by
  refine ⟨by decide, fun _ ↦ ?_⟩
  have hgroup : eventGroupDid (groupSyncEventPayload req c seq) = c.groupDid := by
    simp [eventGroupDid, memberOrEmpty, groupSyncEventPayload, Obj.get_cons, Json.orElse, htruthy]
  rw [hgroup]
  unfold legacyMessageRow at h
  obtain ⟨_, _, h⟩ := bind_eq_ok.mp h
  obtain ⟨groupDid, hgroupDid, -⟩ := bind_eq_ok.mp h
  exact bindable_of_bindTextNotNull hgroupDid

/-- What the `INSERT` of a message establishes, its announcement keeps. -/
theorem insertAndAnnounce_guarded (hevents : SurvivesEvents V) {c : LegacySend} {seq : ℕ}
    (htruthy : c.groupDid.truthy = true)
    (hinsert : ∀ row s s', legacyMessageRow req c seq = .ok row → I s →
      insertLegacyMessage s row = .ok s' → R last s s' → V s') :
    (insertAndAnnounce req c seq).Guarded I R (fun _ _ ↦ True) (fun _ s ↦ V s) last := by
  refine Program.guarded_bind_ofExcept fun row hrow ↦ Program.guarded_bind_write ?_
  intro s s' hs hs' hR
  rintro _ ⟨⟩
  exact hevents.addSyncEvents (fun _ ↦ groupSyncEventPayload_announcement hrow htruthy)
    (hinsert row s s' hrow hs hs' hR)

/-- Here too the number of a message was drawn from the last read before its `INSERT`. -/
theorem groupSend_guarded {W : Obj → Store → Prop}
    (h : ∀ c read, c.groupDid.truthy = true → I read → (insertAndAnnounce req c
      (nextSeq (read.groupMessages.map LegacyMessage.serverSeq))).Guarded I R (fun _ _ ↦ True) W
        (some read)) (params : Obj) :
    (groupSend req params).Guarded I R (fun _ _ ↦ True) W last := by
  refine Program.guarded_bind_ofExcept fun c hc ↦ Program.guarded_bind_ofExcept fun group _ ↦ ?_
  refine Program.guarded_bind_ofExcept fun member _ ↦ Program.guarded_bind_query fun _ _ ↦ ?_
  refine Program.guarded_bind_ofExcept fun _ _ ↦ Program.guarded_bind_ofExcept fun messageId _ ↦ ?_
  refine Program.guarded_bind_query fun s _ ↦ ?_
  cases s.groupMessages.find? fun m ↦ decide (some m.messageId = messageId) with
  | some row => exact Program.guarded_ofExcept.mpr fun _ _ ↦ trivial
  | none => exact Program.guarded_bind_query fun read hread ↦ h c read (legacySend_truthy hc) hread

end Guards

end Awiki
