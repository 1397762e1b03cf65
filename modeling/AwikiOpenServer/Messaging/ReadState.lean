import AwikiOpenServer.Messaging.SyncV2
import AwikiOpenServer.Messaging.DirectSend

/-!
# Read watermarks

How far an owner has read a thread is one row of `thread_read_states`. Two handlers write it:
`mark_read` moves the watermark of a thread to a message or a number, and `inbox_mark_read` marks
single messages and lets the watermark of a conversation follow as far as everything before it has
been read. Both hold the write lock from `BEGIN IMMEDIATE` on, so both are functions of the store.

## Threads

A thread is a conversation with a peer or a group, and a group is looked up in three places
(`GroupSource`): among the hosted groups, the projections and the legacy groups. `Thread` is what
`_thread_from_params` finds, with the id the row goes by. A client may also name a thread by its
key, which is looked up before the transaction begins: the state that look-up sees is an argument of
`markRead`, since another request may commit in between.

## The row

A mark names a message, a number, or both; a number that does not belong to the message is refused.
The row never moves back: `markedRow` takes the larger of the two numbers, and the message of the
mark only when it is at the watermark. **The row is written on every mark**, and an entry is put
into the log only when it is new or has advanced. `Messaging/ReadStateLog.lean` is about what comes
of that.

## What the handlers write

The last part says, for each handler, what a run that succeeds has written: the row, some views, and
an entry. `commitMarkRead_eq_ok` and `advanceDirectReadPrefix_eq_ok` are the forms the later modules
use, so that none of them opens the handlers again. An entry holds the wire form of the row
(`readStateDto`), and to word it may draw the reference of a conversation, which is one row of
`direct_conversation_refs` more (`RefDrawn`).
-/

namespace Awiki

open Py

/-! ### Threads and their messages -/

/-- Where the messages of a group are: `group_source`. -/
inductive GroupSource where
  | hosted
  | projected
  | legacy
  deriving DecidableEq, Repr

/-- `group_source`: the table, or an exception when the owner is not a member now. -/
def groupSource (st : Store) (owner groupDid : String) : Result GroupSource :=
  if (st.hostedGroup? groupDid).isSome then do
    require ((st.hostedMember? groupDid owner).any fun m ↦ decide (m.status = .active))
      (.unauthorized "group.not_member")
    return .hosted
  else if (st.groupView? owner groupDid).isSome then do
    require ((st.groupView? owner groupDid).any fun v ↦ decide (v.membershipStatus = .active))
      (.unauthorized "group.not_member")
    return .projected
  else do
    require (st.groupMembers.any fun m ↦ decide (m.key = (groupDid, owner)))
      (.unauthorized "group.not_member")
    return .legacy

/-- The messages of a group with their numbers. -/
def groupMessageNumbers (st : Store) (source : GroupSource) (owner groupDid : String) :
    List (String × ℤ) :=
  match source with
  | .hosted => (st.hostedGroupMessages.filter fun m ↦ decide (m.groupDid = groupDid)).map fun m ↦
      (m.messageId, (m.groupEventSeq : ℤ))
  | .projected => (st.groupMessageViews.filter fun m ↦
      decide (m.groupDid = groupDid ∧ m.ownerDid = owner)).map fun m ↦
        (m.messageId, m.groupEventSeq)
  | .legacy => (st.groupMessages.filter fun m ↦ decide (m.groupDid = groupDid)).map fun m ↦
      (m.messageId, (m.serverSeq : ℤ))

/-- `direct_messages JOIN direct_message_views`, for one conversation of an owner. -/
def conversationMessages (st : Store) (owner peer : String) :
    List (DirectMessage × DirectMessageView) :=
  st.directMessages.flatMap fun m ↦
    (st.directMessageViews.filter fun v ↦
      decide (v.messageId = m.messageId ∧ v.ownerDid = owner ∧ v.peerDid = peer)).map fun v ↦ (m, v)

/-- A thread, as `_thread_from_params` finds it. -/
inductive Thread where
  | direct (peer : Json)
  | group (groupDid : Json)

/-- The text after the given head, or the whole text. -/
def withoutHead (head text : String) : String :=
  if startsWith head text then String.ofList (text.toList.drop head.length) else text

/-- `_thread_from_params`: the thread and its id. -/
def threadFromParams (outside : Outside) (params : Obj) : Result (Thread × String) :=
  match (envelopePart params "thread").filter fun o ↦ !o.isEmpty with
  | some thread =>
    if (thread.get "kind").isStr "direct" && (thread.get "peer_did").truthy then
      .ok (.direct (thread.get "peer_did"), "direct:" ++ outside.str (thread.get "peer_did"))
    else if (thread.get "kind").isStr "group" && (thread.get "group_did").truthy then
      .ok (.group (thread.get "group_did"), "group:" ++ outside.str (thread.get "group_did"))
    else .error (.invalidParams "thread_required")
  | none =>
    if (params.get "thread_id").truthy then
      let raw := outside.str (params.get "thread_id")
      if startsWith "group:" raw then .ok (.group (.str (withoutHead "group:" raw)), raw)
      else .ok (.direct (.str (withoutHead "direct:" raw)), "direct:" ++ withoutHead "direct:" raw)
    else .error (.invalidParams "thread_required")

/-- The numbers of the messages of a thread, by message id. -/
def threadNumbers (outside : Outside) (st : Store) (owner : String) :
    Thread → Result (List (String × ℤ))
  | .direct peer => do
    let peer ← bindTextNotNull outside.reprFloat peer
    return (conversationMessages st owner peer).map fun p ↦ (p.1.messageId, (p.1.serverSeq : ℤ))
  | .group groupDid => do
    let groupDid ← bindTextNotNull outside.reprFloat groupDid
    let source ← groupSource st owner groupDid
    return groupMessageNumbers st source owner groupDid

/-- The peer or the group is given. -/
def Thread.isGiven : Thread → Bool
  | direct peer => peer.truthy
  | group groupDid => groupDid.truthy

/-- `_thread_message_seq`. -/
def threadMessageSeq (outside : Outside) (st : Store) (owner : String) (thread : Thread)
    (messageId : String) : Result ℤ := do
  require thread.isGiven (.invalidParams "thread_required")
  let numbers ← threadNumbers outside st owner thread
  orRaise (.invalidParams "read_state.watermark_mismatch") (numbers.lookup messageId)

/-! ### The wire form of a watermark -/

/-- A thread of two, by its id. -/
def ThreadReadState.isDirect (row : ThreadReadState) : Bool := startsWith "direct:" row.threadId

/-- The members of the wire form of a row whose thread goes by `key`. -/
def readStateFields (row : ThreadReadState) (key : String) : Obj :=
  [("thread_key", .str key), ("thread_kind", .str (if row.isDirect then "direct" else "group")),
    ("read_up_to_thread_seq", .str (toString row.readUpToSeq)),
    ("read_up_to_message_id", textOrNull row.readMessageId),
    ("state_version", .str (toString row.stateVersion)), ("updated_at", .str row.updatedAt),
    ("updated_by_device_id", .null)]

/-- `read_state_dto`: the value of a row in snapshots and in the log; a conversation is named by its
reference, which is drawn on first use. -/
def readStateDto (outside : Outside) (st : Store) (owner : String) (row : ThreadReadState) :
    Result (Obj × Store) := do
  let (key, st) ←
    if row.isDirect then conversationRef outside st owner (withoutHead "direct:" row.threadId)
    else .ok (withoutHead "group:" row.threadId, st)
  return (readStateFields row key, st)

/-- The row of a thread. -/
def Store.readState? (st : Store) (owner threadId : String) : Option ThreadReadState :=
  Table.row? ThreadReadState.key (owner, threadId) st.threadReadStates

/-- `INSERT INTO thread_read_states … ON CONFLICT DO UPDATE`. -/
def saveReadState (st : Store) (row : ThreadReadState) : Store :=
  { st with
    threadReadStates := Table.upsert ThreadReadState.key row (fun _ ↦ row) st.threadReadStates }

/-- Tell the owner's clients of the row as it stands now. -/
def announceReadState (outside : Outside) (st : Store) (row : ThreadReadState) : Result Store := do
  let (payload, st) ← readStateDto outside st row.ownerDid row
  return addSyncEvent st row.ownerDid "message.read_state_updated" payload outside.now

/-! ### `mark_read` -/

/-- `_validate_local_view_owner`. -/
def validateLocalViewOwner (params : Obj) (owner headName : String) : Result Unit := do
  let sender := ((envelopePart params "_anp_meta").getD []).get "sender_did"
  require (!sender.truthy || sender.isStr owner)
    (.unauthorized (headName ++ ".sender_did_mismatch"))
  let userDid := params.get "user_did"
  require (!userDid.truthy || userDid.isStr owner)
    (.unauthorized (headName ++ ".user_did_mismatch"))
  require (!((params.get "inbox_owner_did").truthy ||
      (params.get "inbox_auth_verification_method").truthy))
    (.notSupported "delegated_local_view_not_supported" [("method", .str headName)])

/-- `_parse_read_watermark_seq`. -/
def parseReadWatermarkSeq (raw : Json) : Result (Option ℤ) :=
  if raw.isNull || raw.isStr "" then .ok none
  else
    match intOf raw with
    | .ok n =>
      if n < 0 then .error (.invalidParams "read_state.server_seq_invalid") else .ok (some n)
    | .error .overflowError => .error (.value "cannot convert float infinity to integer")
    | .error _ => .error (.invalidParams "read_state.server_seq_invalid")

/-- `conversation_peer`. -/
def conversationPeer (outside : Outside) (st : Store) (owner : String) (reference : Json) :
    Result String := do
  let reference ← bindText outside.reprFloat reference
  let row ← orRaise (.invalidParams "sync.conversation_ref_unknown")
    (st.directConversationRefs.find? fun r ↦
      decide (r.ownerDid = owner ∧ some r.conversationRef = reference))
  return row.peerDid

/-- The thread of a request that names it by its key; `seen` is what the look-up saw. -/
def mappedParams (outside : Outside) (seen : Store) (owner : String) (params : Obj) : Result Obj :=
  match (envelopePart params "thread").filter fun o ↦ o.has "thread_key" with
  | none => .ok params
  | some thread =>
    if (thread.get "kind").isStr "direct" then do
      let peer ← conversationPeer outside seen owner (thread.get "thread_key")
      return params.set "thread" (.obj [("kind", .str "direct"), ("peer_did", .str peer)])
    else if (thread.get "kind").isStr "group" &&
        (thread.get "thread_key").str?.any fun key ↦ startsWith "did:" key then
      .ok (params.set "thread"
        (.obj [("kind", .str "group"), ("group_did", thread.get "thread_key")]))
    else .error (.invalidParams "thread_required")

/-- What `mark_read` has made of its parameters before it takes the lock. -/
structure MarkRead where
  owner : String
  thread : Thread
  threadId : String
  readMessageId : Json
  seq : Option ℤ

/-- The checks of `mark_read` on its parameters. -/
def markReadRequest (seen : Store) (req : Request) (params : Obj) : Result MarkRead := do
  let authenticated ← currentDid req true
  let owner ← orRaise (.unauthorized "missing_authentication") authenticated
  require (!(["event_seq", "since_event_seq", "next_event_seq", "checkpoint",
      "read_up_to_group_event_seq"].any fun k ↦ (params.get k).truthy))
    (.invalidParams "read_state.server_seq_invalid")
  validateLocalViewOwner params owner "read_state"
  let mapped ← mappedParams req.outside seen owner params
  let (thread, threadId) ← threadFromParams req.outside mapped
  let readMessageId := params.get "read_up_to_message_id"
  let seq ← parseReadWatermarkSeq
    (params.getD "read_up_to_server_seq" (params.get "read_up_to_seq"))
  require (seq.isSome || readMessageId.truthy) (.invalidParams "read_state.watermark_required")
  return { owner, thread, threadId, readMessageId, seq }

/-- The number a request marks: that of its message, which a given number must repeat. -/
def markedSeq (outside : Outside) (st : Store) (m : MarkRead) : Result ℤ :=
  if m.readMessageId.truthy then do
    let messageSeq ← threadMessageSeq outside st m.owner m.thread (outside.str m.readMessageId)
    require (m.seq.all (· = messageSeq)) (.invalidParams "read_state.watermark_mismatch")
    return messageSeq
  else orRaise (.type "assert seq is not None") m.seq

/-- The message the watermark is at after the mark: the one the request names, if the watermark is
there, or else the one it was at if it has not moved. -/
def markedMessageId (outside : Outside) (m : MarkRead) (previous : Option ThreadReadState) (seq : ℤ)
    (savedSeq : ℕ) : Result (Option String) :=
  if seq = savedSeq ∧ m.readMessageId.truthy = true then bindText outside.reprFloat m.readMessageId
  else if savedSeq = (previous.map (·.readUpToSeq)).getD 0 then
    .ok (previous.bind (·.readMessageId))
  else .ok none

/-- The row `mark_read` writes: the watermark never moves back, and a mark that does not advance it
keeps its version and its time. -/
def markedRow (outside : Outside) (m : MarkRead) (previous : Option ThreadReadState) (seq : ℤ) :
    Result ThreadReadState := do
  let previousSeq : ℕ := (previous.map (·.readUpToSeq)).getD 0
  let savedSeq := (max (previousSeq : ℤ) seq).toNat
  let advanced := decide (previousSeq < savedSeq)
  let readMessageId ← markedMessageId outside m previous seq savedSeq
  return {
    ownerDid := m.owner
    threadId := m.threadId
    readUpToSeq := savedSeq
    readMessageId := readMessageId
    stateVersion := (previous.map fun p ↦ p.stateVersion + advanced.toNat).getD 1
    updatedAt := ((previous.filter fun _ ↦ !advanced).map (·.updatedAt)).getD outside.now }

/-- `_apply_read_watermark`: the numbers of messages newly read and still unread, and the views. -/
def applyReadWatermark (outside : Outside) (st : Store) (m : MarkRead) (row : ThreadReadState)
    (previousSeq : ℕ) : Result (ℕ × ℕ × Store) := do
  require m.thread.isGiven (.invalidParams "thread_required")
  match m.thread with
  | .direct peer =>
    let peer ← bindTextNotNull outside.reprFloat peer
    let isRead : DirectMessageView → Bool := fun v ↦
      decide (v.ownerDid = m.owner ∧ v.peerDid = peer ∧ v.readAt = none) &&
        st.directMessages.any fun d ↦
          decide (d.messageId = v.messageId ∧ d.serverSeq ≤ row.readUpToSeq)
    let st' := { st with
      directMessageViews := Table.updateWhere isRead
        (fun v ↦ { v with readAt := some row.updatedAt }) st.directMessageViews }
    return ((st.directMessageViews.filter isRead).length,
      ((conversationMessages st' m.owner peer).filter fun p ↦ p.2.readAt = none).length, st')
  | .group groupDid =>
    let groupDid ← bindTextNotNull outside.reprFloat groupDid
    let source ← groupSource st m.owner groupDid
    let numbers := (groupMessageNumbers st source m.owner groupDid).map Prod.snd
    return ((numbers.filter fun n ↦ decide ((previousSeq : ℤ) < n ∧ n ≤ row.readUpToSeq)).length,
      (numbers.filter fun n ↦ decide ((row.readUpToSeq : ℤ) < n)).length, st)

/-- The answer of `mark_read`. -/
def markReadResult (params : Obj) (m : MarkRead) (previous : Option ThreadReadState)
    (row : ThreadReadState) (seq : ℤ) (updated unread : ℕ) : Obj :=
  let previousSeq := (previous.map (·.readUpToSeq)).getD 0
  let advanced := decide (previousSeq < row.readUpToSeq)
  let thread := match params.get "thread" with
    | .obj thread => thread
    | _ =>
      match m.thread with
      | .direct peer => [("kind", .str "direct"), ("peer_did", peer)]
      | .group groupDid => [("kind", .str "group"), ("group_did", groupDid)]
  let result : Obj :=
    [("user_did", .str m.owner), ("owner_did", .str m.owner), ("thread", .obj thread),
      ("thread_id", .str m.threadId), ("updated_count", .int updated),
      ("remote_acknowledged", .bool true), ("partial", .bool false), ("fallback_used", .bool false),
      ("pending_remote_ack", .bool false),
      ("read_watermark_server_seq", .str (toString row.readUpToSeq)),
      ("previous_read_watermark_server_seq",
        textOrNull (previous.map fun p ↦ toString p.readUpToSeq)),
      ("read_watermark_message_id", textOrNull row.readMessageId), ("advanced", .bool advanced),
      ("read_at", .str row.updatedAt), ("unread_count", .int unread),
      ("warnings", .arr (if advanced || seq = previousSeq then []
        else [.str "read_state.watermark_not_advanced"])),
      ("read_up_to_seq", .int row.readUpToSeq)]
  if (envelopePart params "_anp_meta").isSome then
    result.without ["owner_did", "thread_id", "read_up_to_seq"]
  else result

/-- The transaction of `mark_read`. **The row is written on every mark, the log only when the
watermark advances or the row is new.** -/
def commitMarkRead (st : Store) (req : Request) (params : Obj) (m : MarkRead) :
    Result (Obj × Store) := do
  let seq ← markedSeq req.outside st m
  let previous := st.readState? m.owner m.threadId
  let previousSeq := (previous.map (·.readUpToSeq)).getD 0
  let numbers ← threadNumbers req.outside st m.owner m.thread
  require (decide (seq ≤ (numbers.map Prod.snd).max?.getD 0))
    (.invalidParams "read_state.watermark_mismatch")
  let row ← markedRow req.outside m previous seq
  let (updated, unread, st) ← applyReadWatermark req.outside
    (saveReadState st row) m row previousSeq
  let result := markReadResult params m previous row seq updated unread
  if previousSeq < row.readUpToSeq ∨ previous = none then
    let st ← announceReadState req.outside st row
    return (result, st)
  else return (result, st)

/-- `mark_read`; `seen` is what the look-up of the thread key saw. -/
def markRead (seen st : Store) (req : Request) (params : Obj) : Result (Obj × Store) := do
  let m ← markReadRequest seen req params
  commitMarkRead st req params m

/-! ### `inbox_mark_read` -/

/-- A request of `inbox.mark_read`, with the order in which the set of peers is gone through. -/
structure InboxRequest extends Request where
  setOrder : List String → List String
  setOrder_perm : ∀ l, (setOrder l).Perm l

/-- `_message_ids_from_params`. -/
def messageIdsFromParams (params : Obj) : Result (List String) := do
  let raw := if (params.get "message_ids").isNull && !(params.get "message_id").isNull then
      .arr [params.get "message_id"]
    else params.get "message_ids"
  require (!raw.isNull) (.invalidParams "message_ids_required")
  let items ← orRaise (.invalidParams "message_ids_must_be_list") raw.arr?
  require (!items.isEmpty) (.invalidParams "message_ids_required")
  items.mapM fun item ↦ requireText item "message_id_invalid"

/-- The message the prefix of a conversation can be read up to, if that is further than before. -/
def prefixCandidate (st : Store) (owner peer : String) (previousSeq : ℕ) : Option DirectMessage :=
  let later := (conversationMessages st owner peer).filter fun p ↦
    decide (previousSeq < p.1.serverSeq)
  let firstUnread := ((later.filter fun p ↦ p.2.readAt = none).map fun p ↦ p.1.serverSeq).min?
  ((later.filter fun p ↦ p.2.readAt.isSome &&
    firstUnread.all fun n ↦ decide (p.1.serverSeq < n)).map Prod.fst).argmax
      DirectMessage.serverSeq

/-- `_advance_direct_read_prefix`: reading a later message does not mark an earlier one. -/
def advanceDirectReadPrefix (outside : Outside) (st : Store) (owner peer : String) :
    Result Store :=
  let threadId := "direct:" ++ peer
  let previous := st.readState? owner threadId
  match prefixCandidate st owner peer ((previous.map (·.readUpToSeq)).getD 0) with
  | none => .ok st
  | some candidate =>
    let row : ThreadReadState :=
      { ownerDid := owner, threadId := threadId, readUpToSeq := candidate.serverSeq,
        readMessageId := some candidate.messageId,
        stateVersion := (previous.map (·.stateVersion + 1)).getD 1, updatedAt := outside.now }
    announceReadState outside (saveReadState st row) row

/-- The loop over the peers of the marked messages. -/
def advancePrefixes (outside : Outside) (owner : String) : List String → Store → Result Store
  | [], st => .ok st
  | peer :: rest, st => do
    let st ← advanceDirectReadPrefix outside st owner peer
    advancePrefixes outside owner rest st

/-- The transaction of `inbox_mark_read`. -/
def commitInboxMarkRead (st : Store) (req : InboxRequest) (owner : String) (ids : List String) :
    Result (Obj × Store) := do
  let readAt := req.outside.now
  let visible := st.directMessageViews.filter fun v ↦
    decide (v.ownerDid = owner) && ids.contains v.messageId
  let isMarked : DirectMessageView → Bool := fun v ↦
    decide (v.ownerDid = owner ∧ v.readAt = none) && ids.contains v.messageId
  let marked := { st with
    directMessageViews := Table.updateWhere isMarked (fun v ↦ { v with readAt := some readAt })
      st.directMessageViews }
  let st' ← advancePrefixes req.outside owner (req.setOrder (visible.map (·.peerDid)).dedup) marked
  return ([("updated_count", .int (st.directMessageViews.filter isMarked).length),
    ("message_ids", .arr (visible.map fun v ↦ .str v.messageId)), ("read_at", .str readAt)], st')

/-- `inbox_mark_read`. -/
def inboxMarkRead (st : Store) (req : InboxRequest) (params : Obj) : Result (Obj × Store) := do
  let authenticated ← currentDid req.toRequest true
  let owner ← orRaise (.unauthorized "missing_authentication") authenticated
  validateLocalViewOwner params owner "inbox"
  let ids ← messageIdsFromParams params
  commitInboxMarkRead st req owner ids

/-! ### What the two handlers write -/

section Writes

variable {outside : Outside} {st st' : Store} {owner : String} {row : ThreadReadState}

/-- The references after one has been looked up: that of the peer is there, and the others are the
old ones. -/
structure RefDrawn (outside : Outside) (refs rows : List ConversationRef)
    (owner peer key : String) : Prop where
  drawn : Table.row? ConversationRef.key (owner, peer) rows = some ⟨owner, peer, key⟩
  rows : rows = refs ∨ rows = refs ++ [⟨owner, peer, key⟩] ∧
    ∀ r ∈ refs, r.ownerDid = owner → r.peerDid ≠ peer ∧ r.conversationRef ≠ key

/-- A reference that is looked up is there afterwards. -/
theorem conversationRef_eq_ok {peer key : String}
    (h : conversationRef outside st owner peer = .ok (key, st')) :
    ∃ rows, RefDrawn outside st.directConversationRefs rows owner peer key ∧
      st' = { st with directConversationRefs := rows } := by
  unfold conversationRef at h
  dsimp only at h
  split at h
  · rename_i r hr
    obtain ⟨rfl, rfl⟩ := Prod.mk.inj (Except.ok.inj h)
    have hkey : r.ownerDid = owner ∧ r.peerDid = peer := by
      simpa [ConversationRef.key] using Table.key_of_row? hr
    have hdrawn : r = ⟨owner, peer, r.conversationRef⟩ := by
      rw [← hkey.1, ← hkey.2]
    refine ⟨_, ⟨hr.trans (congrArg some hdrawn), ?_⟩, rfl⟩
    split
    · exact .inl rfl
    · rename_i hany
      refine .inr ?_
      have hnone : ∀ r' ∈ st.directConversationRefs, r'.ownerDid = owner →
          r'.peerDid ≠ peer ∧ r'.conversationRef ≠ outside.conversationRef owner peer := by
        simpa using hany
      -- The row found is the one just appended.
      rw [if_neg hany, Table.row?_append, Table.row?_eq_none.mpr fun r' hr' heq ↦ ?_] at hr
      · obtain rfl := Option.some.inj (by simpa [ConversationRef.key] using hr)
        exact ⟨rfl, hnone⟩
      · have hsame : r'.ownerDid = owner ∧ r'.peerDid = peer := by
          simpa [ConversationRef.key] using heq
        exact (hnone r' hr' hsame.1).1 hsame.2
  · cases h

/-- The thread of a row goes by `key`, once the references are `rows`. -/
inductive ThreadNamed (outside : Outside) (refs : List ConversationRef) (row : ThreadReadState) :
    List ConversationRef → String → Prop where
  | direct {rows : List ConversationRef} {key : String} (hdirect : row.isDirect = true)
      (hdrawn : RefDrawn outside refs rows row.ownerDid (withoutHead "direct:" row.threadId) key) :
      ThreadNamed outside refs row rows key
  | group (hgroup : row.isDirect = false) :
      ThreadNamed outside refs row refs (withoutHead "group:" row.threadId)

/-- A row is worded with the key of its thread. -/
theorem readStateDto_eq_ok {payload : Obj}
    (h : readStateDto outside st row.ownerDid row = .ok (payload, st')) :
    ∃ rows key, ThreadNamed outside st.directConversationRefs row rows key ∧
      payload = readStateFields row key ∧ st' = { st with directConversationRefs := rows } := by
  unfold readStateDto at h
  dsimp only at h
  split at h
  · rename_i hdirect
    obtain ⟨⟨key, st₁⟩, hkey, h⟩ := bind_eq_ok.mp h
    obtain ⟨rows, hdrawn, rfl⟩ := conversationRef_eq_ok hkey
    obtain ⟨rfl, rfl⟩ := Prod.mk.inj (pure_eq_ok.mp h)
    exact ⟨rows, key, .direct hdirect hdrawn, rfl, rfl⟩
  · rename_i hgroup
    obtain ⟨rfl, rfl⟩ := Prod.mk.inj (pure_eq_ok.mp h)
    exact ⟨_, _, .group (by simpa using hgroup), rfl, rfl⟩

/-- **Announcing a row**: one entry with its wire form, and perhaps a new reference. -/
theorem announceReadState_eq_ok (h : announceReadState outside st row = .ok st') :
    ∃ rows key, ThreadNamed outside st.directConversationRefs row rows key ∧
      st' = addSyncEvent { st with directConversationRefs := rows } row.ownerDid
        "message.read_state_updated" (readStateFields row key) outside.now := by
  unfold announceReadState at h
  obtain ⟨⟨payload, st₁⟩, hdto, h⟩ := bind_eq_ok.mp h
  obtain rfl := pure_eq_ok.mp h
  obtain ⟨rows, key, hnamed, rfl, rfl⟩ := readStateDto_eq_ok hdto
  exact ⟨rows, key, hnamed, rfl⟩

/-- An announced row is one entry more. -/
theorem announceReadState_grows (h : announceReadState outside st row = .ok st') :
    SyncLogGrows SyncEvent.Wellformed st.syncEvents st'.syncEvents := by
  obtain ⟨rows, key, -, rfl⟩ := announceReadState_eq_ok h
  refine addSyncEvent_grows fun e htype hpayload ↦ .inr ⟨htype, ?_, ?_⟩
  · rw [hpayload]
    rfl
  · rw [hpayload]
    rfl

/-- A mark sets views and nothing else. -/
theorem applyReadWatermark_eq_ok {m : MarkRead} {previousSeq updated unread : ℕ}
    (h : applyReadWatermark outside st m row previousSeq = .ok (updated, unread, st')) :
    ∃ views, st' = { st with directMessageViews := views } := by
  unfold applyReadWatermark at h
  obtain ⟨_, -, h⟩ := bind_eq_ok.mp h
  split at h
  · obtain ⟨peer, -, h⟩ := bind_eq_ok.mp h
    have hst := (Prod.mk.inj (Prod.mk.inj (pure_eq_ok.mp h)).2).2
    exact ⟨_, hst.symm⟩
  · obtain ⟨groupDid, -, h⟩ := bind_eq_ok.mp h
    obtain ⟨source, -, h⟩ := bind_eq_ok.mp h
    have hst := (Prod.mk.inj (Prod.mk.inj (pure_eq_ok.mp h)).2).2
    exact ⟨_, hst.symm⟩

/-- The transaction of `mark_read`, step by step. -/
theorem commitMarkRead_steps {req : Request} {params result : Obj} {m : MarkRead}
    (h : commitMarkRead st req params m = .ok (result, st')) :
    ∃ seq numbers row updated unread marked, markedSeq req.outside st m = .ok seq ∧
      threadNumbers req.outside st m.owner m.thread = .ok numbers ∧
      seq ≤ (numbers.map Prod.snd).max?.getD 0 ∧
      markedRow req.outside m (st.readState? m.owner m.threadId) seq = .ok row ∧
      applyReadWatermark req.outside (saveReadState st row) m row
        (((st.readState? m.owner m.threadId).map (·.readUpToSeq)).getD 0) =
          .ok (updated, unread, marked) ∧
      if ((st.readState? m.owner m.threadId).map (·.readUpToSeq)).getD 0 < row.readUpToSeq ∨
          st.readState? m.owner m.threadId = none then
        announceReadState req.outside marked row = .ok st'
      else st' = marked := by
  unfold commitMarkRead at h
  obtain ⟨seq, hseq, h⟩ := bind_eq_ok.mp h
  obtain ⟨numbers, hnumbers, h⟩ := bind_eq_ok.mp h
  obtain ⟨_, hhighest, h⟩ := bind_eq_ok.mp h
  obtain ⟨row, hrow, h⟩ := bind_eq_ok.mp h
  obtain ⟨⟨updated, unread, marked⟩, happly, h⟩ := bind_eq_ok.mp h
  refine ⟨seq, numbers, row, updated, unread, marked, hseq, hnumbers,
    of_decide_eq_true (require_eq_ok.mp hhighest), hrow, happly, ?_⟩
  dsimp only at h
  split at h
  · rename_i hnew
    rw [if_pos hnew]
    obtain ⟨st₂, hannounce, h⟩ := bind_eq_ok.mp h
    obtain ⟨-, rfl⟩ := Prod.mk.inj (pure_eq_ok.mp h)
    exact hannounce
  · rename_i hold
    rw [if_neg hold]
    exact (Prod.mk.inj (pure_eq_ok.mp h)).2.symm

/-- **What `mark_read` writes**: the row, some views, and an entry when the row is new or has
advanced. -/
theorem commitMarkRead_eq_ok {req : Request} {params result : Obj} {m : MarkRead}
    (h : commitMarkRead st req params m = .ok (result, st')) :
    ∃ seq row views, markedSeq req.outside st m = .ok seq ∧
      markedRow req.outside m (st.readState? m.owner m.threadId) seq = .ok row ∧
      if ((st.readState? m.owner m.threadId).map (·.readUpToSeq)).getD 0 < row.readUpToSeq ∨
          st.readState? m.owner m.threadId = none then
        announceReadState req.outside
          { saveReadState st row with directMessageViews := views } row = .ok st'
      else st' = { saveReadState st row with directMessageViews := views } := by
  obtain ⟨seq, numbers, row, updated, unread, marked, hseq, -, -, hrow, happly, hwrite⟩ :=
    commitMarkRead_steps h
  obtain ⟨views, rfl⟩ := applyReadWatermark_eq_ok happly
  exact ⟨seq, row, views, hseq, hrow, hwrite⟩

/-- `mark_read` lets the log grow. -/
theorem markRead_grows {seen : Store} {req : Request} {params result : Obj}
    (h : markRead seen st req params = .ok (result, st')) :
    SyncLogGrows SyncEvent.Wellformed st.syncEvents st'.syncEvents := by
  obtain ⟨m, -, h⟩ := bind_eq_ok.mp h
  obtain ⟨seq, row, views, -, -, h⟩ := commitMarkRead_eq_ok h
  split at h
  · have hgrows := announceReadState_grows h
    exact hgrows
  · exact .of_eq (by rw [h]; rfl)

/-- **What the prefix of a conversation writes**: nothing, or an advanced row with its entry. -/
theorem advanceDirectReadPrefix_eq_ok {peer : String}
    (h : advanceDirectReadPrefix outside st owner peer = .ok st') :
    st' = st ∨ ∃ row : ThreadReadState, row.key = (owner, "direct:" ++ peer) ∧
      announceReadState outside (saveReadState st row) row = .ok st' := by
  unfold advanceDirectReadPrefix at h
  dsimp only at h
  split at h
  · exact .inl (Except.ok.inj h).symm
  · exact .inr ⟨_, rfl, h⟩

/-- So does the loop over the peers, -/
theorem advancePrefixes_grows {peers : List String}
    (h : advancePrefixes outside owner peers st = .ok st') :
    SyncLogGrows SyncEvent.Wellformed st.syncEvents st'.syncEvents := by
  induction peers generalizing st with
  | nil => exact .of_eq (by rw [Except.ok.inj h])
  | cons peer rest ih =>
    obtain ⟨st₁, hstep, h⟩ := bind_eq_ok.mp h
    refine SyncLogGrows.trans ?_ (ih h)
    rcases advanceDirectReadPrefix_eq_ok hstep with rfl | ⟨row, -, hannounce⟩
    · exact .refl
    · have hgrows := announceReadState_grows hannounce
      exact hgrows

/-- What `inbox_mark_read` writes: the views of the named messages that were unread, then the
prefixes of the conversations they are in. -/
theorem inboxMarkRead_steps {req : InboxRequest} {params result : Obj}
    (h : inboxMarkRead st req params = .ok (result, st')) :
    ∃ owner ids, currentDid req.toRequest true = .ok (some owner) ∧
      messageIdsFromParams params = .ok ids ∧ advancePrefixes req.outside owner
      (req.setOrder ((st.directMessageViews.filter fun v ↦
        decide (v.ownerDid = owner) && ids.contains v.messageId).map (·.peerDid)).dedup)
      { st with
        directMessageViews := Table.updateWhere
          (fun v ↦ decide (v.ownerDid = owner ∧ v.readAt = none) && ids.contains v.messageId)
          (fun v ↦ { v with readAt := some req.outside.now }) st.directMessageViews } =
            .ok st' := by
  unfold inboxMarkRead at h
  obtain ⟨authenticated, hdid, h⟩ := bind_eq_ok.mp h
  obtain ⟨owner, howner, h⟩ := bind_eq_ok.mp h
  obtain ⟨_, -, h⟩ := bind_eq_ok.mp h
  obtain ⟨ids, hids, h⟩ := bind_eq_ok.mp h
  unfold commitInboxMarkRead at h
  obtain ⟨st₁, hprefixes, h⟩ := bind_eq_ok.mp h
  obtain ⟨-, rfl⟩ := Prod.mk.inj (pure_eq_ok.mp h)
  exact ⟨owner, ids, orRaise_eq_ok.mp howner ▸ hdid, hids, hprefixes⟩

/-- Beside views, `inbox_mark_read` writes what the loop writes. -/
theorem inboxMarkRead_eq_ok {req : InboxRequest} {params result : Obj}
    (h : inboxMarkRead st req params = .ok (result, st')) :
    ∃ owner peers views,
      advancePrefixes req.outside owner peers { st with directMessageViews := views } =
        .ok st' := by
  obtain ⟨owner, ids, -, -, hprefixes⟩ := inboxMarkRead_steps h
  exact ⟨owner, _, _, hprefixes⟩

/-- and so does `inbox_mark_read`. -/
theorem inboxMarkRead_grows {req : InboxRequest} {params result : Obj}
    (h : inboxMarkRead st req params = .ok (result, st')) :
    SyncLogGrows SyncEvent.Wellformed st.syncEvents st'.syncEvents := by
  obtain ⟨owner, peers, views, h⟩ := inboxMarkRead_eq_ok h
  have hgrows := advancePrefixes_grows h
  exact hgrows

end Writes

end Awiki
