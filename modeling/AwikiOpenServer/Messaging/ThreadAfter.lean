import AwikiOpenServer.Lib.Keyset
import AwikiOpenServer.Messaging.DeltaDrain

/-!
# Reading a thread: `sync.thread_after`

`thread_after_v2` serves the messages of one thread after a sequence number, at most `limit` of
them. A thread is named by a key: the reference of a conversation, or a Group DID, and the messages
of a group are in one of three tables. Whichever it is, the page is read by a sequence number, one
row more than asked for is read to know whether there are more, and the number of the last message
is the next cursor.

The rows of the four sources are one type here, `ThreadRow`, so the reading is `Keyset.page` over
it, and a client that follows `next_after_server_seq` is a reader of that library.

## What is asked of the numbers

Pages by a key see every row once when the rows have different keys and new ones are past those that
have been read. Neither is certain here: direct and legacy messages may share a number
(`Messaging/MessageNumbers.lean`). So the result asks for a thread whose messages have different
numbers, in every state of the reading (`ThreadOpen`, `ThreadAppended`), and the numbers are below
2^63, where the server's own check of a cursor ends.

## Layers

* `threadAfterV2_ok` serves every call of a client that is bound and may read the thread, and
  `ThreadPageOf` says what its answer is, in terms of `Keyset`: the next rows, whether there are
  more, and the number behind them. That every row can be shown is `ordinarySyncMessage_ok`; it may
  draw the reference of the conversation.
* `ThreadCalls` is the client, with appended messages between its calls, and `ThreadCalls.read` that
  it is a reader: what it was shown are the rows of pages, one behind the other.
* `thread_drain_complete` is then the theorem of the library, at these rows.
-/

namespace Awiki

open Py

/-! ### The rows of a thread -/

/-- A message as `thread_after_v2` reads it, from one of four sources. -/
inductive ThreadRow where
  | direct (m : DirectMessage) (v : DirectMessageView)
  | hosted (m : HostedMessage)
  | projected (v : GroupMessageView)
  | legacy (m : LegacyMessage)

/-- The number it is read by: `server_seq` or `group_event_seq`. -/
def ThreadRow.serverSeq : ThreadRow → ℤ
  | direct m _ => m.serverSeq
  | hosted m => m.groupEventSeq
  | projected v => v.groupEventSeq
  | legacy m => m.serverSeq

/-- What a thread key names. -/
inductive SyncThread where
  | group (source : GroupSource) (groupDid : String)
  | direct (peer : String)

/-- The thread of a key: `group_source` or `conversation_peer`. -/
def syncThread (outside : Outside) (st : Store) (owner key : String) : Result SyncThread :=
  if startsWith "did:" key then do
    let source ← groupSource st owner key
    return .group source key
  else do
    let peer ← conversationPeer outside st owner (.str key)
    return .direct peer

/-- The messages of a thread that an owner sees. -/
def SyncThread.rows (st : Store) (owner : String) : SyncThread → List ThreadRow
  | group .hosted groupDid =>
    (st.hostedGroupMessages.filter fun m ↦ decide (m.groupDid = groupDid)).map .hosted
  | group .projected groupDid => (st.groupMessageViews.filter fun v ↦
      decide (v.groupDid = groupDid ∧ v.ownerDid = owner)).map .projected
  | group .legacy groupDid =>
    (st.groupMessages.filter fun m ↦ decide (m.groupDid = groupDid)).map .legacy
  | direct peer => (conversationMessages st owner peer).map fun p ↦ .direct p.1 p.2

/-- `_ordinary_sync_message`. -/
def ordinarySyncMessage (req : DeviceRequest) (st : Store) (owner : String) :
    ThreadRow → Result (Obj × Store)
  | .direct m v => directSyncMessage req st owner m v
  | .hosted m =>
    .ok (syncMessageFields req "group" m.messageId (toString m.groupEventSeq) m.senderDid
      (.str m.operationId) m.body m.contentType m.createdAt ++
    groupSyncFields owner m.groupDid (toString m.groupEventSeq) (some m.receipt) m.wireProfile, st)
  | .projected v => .ok (syncMessageFields req "group" v.messageId (toString v.groupEventSeq)
      v.senderDid (.str v.operationId) v.body v.contentType v.acceptedAt ++
    groupSyncFields owner v.groupDid (toString v.groupEventSeq) (some v.receipt) v.wireProfile, st)
  | .legacy m => .ok (syncMessageFields req "group" m.messageId (toString m.serverSeq) m.senderDid
      (textOrNull m.operationId) m.body m.contentType m.createdAt ++
    groupSyncFields owner m.groupDid (toString m.serverSeq) none .v1, st)

/-- The messages of a page, one after the other. -/
def ordinarySyncMessages (req : DeviceRequest) (owner : String) :
    List ThreadRow → Store → Result (List Obj × Store)
  | [], st => .ok ([], st)
  | row :: rest, st => do
    let (message, st) ← ordinarySyncMessage req st owner row
    let (messages, st) ← ordinarySyncMessages req owner rest st
    return (message :: messages, st)

/-! ### `thread_after_v2` -/

/-- What `thread_after_v2` has read off its body. -/
structure ThreadRequest where
  threadKey : String
  after : ℕ
  limit : ℕ

/-- The limit of a request: an integer from 1 to 500. -/
def threadLimit (v : Json) : Option ℕ :=
  match v with
  | .int n => if 1 ≤ n ∧ n ≤ 500 then some n.toNat else none
  | _ => none

/-- The checks of `thread_after_v2` on its body. -/
def threadRequest (body : Obj) : Result ThreadRequest := do
  let invalid : AwikiError := .invalidParams "sync.thread_after_body_invalid"
  require (keysAre body ["thread_key", "after_server_seq", "limit"]) invalid
  let threadKey ← orRaise (.invalidParams "thread_key_required")
    ((body.get "thread_key").str?.filter (· ≠ ""))
  let after ← decimalCursor (body.get "after_server_seq") "after_server_seq" false
  require (after ≤ 2 ^ 63 - 1) invalid
  let limit ← orRaise invalid (threadLimit (body.get "limit"))
  return { threadKey, after, limit }

/-- A served page. -/
structure ThreadPage where
  messages : List Obj
  nextAfterServerSeq : Json
  hasMore : Bool

/-- The answer it is sent as. -/
def ThreadPage.document (page : ThreadPage) : Obj :=
  [("messages", .arr (page.messages.map Json.obj)),
    ("next_after_server_seq", page.nextAfterServerSeq), ("has_more", .bool page.hasMore),
    ("warnings", .arr [.str "single_device_pull_only"])]

/-- Where to go on: the number of the last message, or the old cursor. -/
def nextAfterServerSeq (after : ℕ) (messages : List Obj) : Result Json :=
  match messages.getLast? with
  | some message => orRaise (.key "server_seq") (message.lookup "server_seq")
  | none => .ok (.str (toString after))

/-- The transaction of `thread_after_v2`. -/
def threadPage (st : Store) (req : DeviceRequest) (owner : String) (d : ThreadRequest) :
    Result (ThreadPage × Store) := do
  let thread ← syncThread req.outside st owner d.threadKey
  let rows := Keyset.page ThreadRow.serverSeq (thread.rows st owner) d.after (d.limit + 1)
  let (messages, st) ← ordinarySyncMessages req owner (rows.take d.limit) st
  let next ← nextAfterServerSeq d.after messages
  return (⟨messages, next, decide (d.limit < rows.length)⟩, st)

/-- `thread_after_v2`. -/
def threadAfterV2 (st : Store) (req : DeviceRequest) (params : Obj) :
    Result (ThreadPage × Store) := do
  let s ← syncV2Identity req params
  let d ← threadRequest (syncBody params)
  threadPage st req s.owner d

/-! ### A request -/

/-- What a request that passes has asked for. -/
theorem threadRequest_eq_ok {body : Obj} {d : ThreadRequest} (h : threadRequest body = .ok d) :
    d.threadKey ≠ "" ∧ decimalCursor (body.get "after_server_seq") "after_server_seq" false =
      .ok d.after ∧ d.after < 2 ^ 63 ∧ 1 ≤ d.limit := by
  unfold threadRequest at h
  obtain ⟨_, -, h⟩ := bind_eq_ok.mp h
  obtain ⟨threadKey, hkey, h⟩ := bind_eq_ok.mp h
  obtain ⟨after, hafter, h⟩ := bind_eq_ok.mp h
  obtain ⟨_, hsmall, h⟩ := bind_eq_ok.mp h
  obtain ⟨limit, hlimit, h⟩ := bind_eq_ok.mp h
  obtain rfl := pure_eq_ok.mp h
  have hnonempty := (Option.filter_eq_some_iff.mp (orRaise_eq_ok.mp hkey)).2
  have hbound := of_decide_eq_true (require_eq_ok.mp hsmall)
  refine ⟨of_decide_eq_true hnonempty, hafter, by dsimp only; omega, ?_⟩
  have hlimit := orRaise_eq_ok.mp hlimit
  unfold threadLimit at hlimit
  split at hlimit
  · split at hlimit
    · obtain rfl := Option.some.inj hlimit
      dsimp only
      omega
    · cases hlimit
  · cases hlimit

/-- **The next request is a valid one.** -/
theorem threadRequest_next {key : String} {n limit : ℕ} (hkey : key ≠ "") (hn : n < 2 ^ 63)
    (hlimit : 1 ≤ limit ∧ limit ≤ 500) :
    threadRequest [("thread_key", .str key), ("after_server_seq", .str (toString n)),
      ("limit", .int limit)] = .ok ⟨key, n, limit⟩ := by
  have hbounds : (1 : ℤ) ≤ limit ∧ (limit : ℤ) ≤ 500 := by omega
  have hnamed : (some key).filter (· ≠ "") = some key := by simp [hkey]
  have hcursor := decimalCursor_toString (lt_trans hn (by norm_num)) "after_server_seq"
  have hsmall : n ≤ 2 ^ 63 - 1 := by omega
  have hasked : threadLimit (.int limit) = some limit := if_pos hbounds
  unfold threadRequest
  exact bind_eq_ok.mpr ⟨(), rfl, bind_eq_ok.mpr ⟨key, orRaise_eq_ok.mpr hnamed,
    bind_eq_ok.mpr ⟨n, hcursor, bind_eq_ok.mpr ⟨(), require_eq_ok.mpr (decide_eq_true hsmall),
      bind_eq_ok.mpr ⟨limit, orRaise_eq_ok.mpr hasked, rfl⟩⟩⟩⟩⟩

/-! ### A page -/

/-- A message of a page is the wire form of a row. -/
def ShowsRow (req : DeviceRequest) (owner : String) (message : Obj) (row : ThreadRow) : Prop :=
  ∃ st st', ordinarySyncMessage req st owner row = .ok (message, st')

/-- References have been drawn, and nothing else is different. -/
def RefsAdded (reference : String → String → String) (st st' : Store) : Prop :=
  ∃ more, RefsDerived reference (st.directConversationRefs ++ more) ∧
    st' = { st with directConversationRefs := st.directConversationRefs ++ more }

/-- Nothing has been drawn. -/
theorem RefsAdded.refl {reference : String → String → String} {st : Store}
    (h : RefsDerived reference st.directConversationRefs) : RefsAdded reference st st :=
  ⟨[], by rwa [List.append_nil], by rw [List.append_nil]⟩

/-- First the one, then the other. -/
theorem RefsAdded.trans {reference : String → String → String} {a b c : Store}
    (hab : RefsAdded reference a b) (hbc : RefsAdded reference b c) : RefsAdded reference a c := by
  obtain ⟨more, -, rfl⟩ := hab
  obtain ⟨more', hderived, rfl⟩ := hbc
  exact ⟨more ++ more', by rwa [← List.append_assoc], by rw [← List.append_assoc]⟩

section Page

variable {reference : String → String → String} {req : DeviceRequest} {st : Store} {owner : String}
  (hinj : ∀ owner, Function.Injective (reference owner))
  (houtside : req.outside.conversationRef = reference)
  (hrefs : RefsDerived reference st.directConversationRefs)

include hinj houtside hrefs

/-- **Every row can be shown**, and the message has the number of its row. -/
theorem ordinarySyncMessage_ok (row : ThreadRow) :
    ∃ message st', ordinarySyncMessage req st owner row = .ok (message, st') ∧
      RefsAdded reference st st' ∧
      message.lookup "server_seq" = some (.str (toString row.serverSeq)) := by
  cases row with
  | direct m v =>
    obtain ⟨key, st', hkey, hdraws⟩ := conversationRef_ok hinj houtside hrefs owner
      (if m.senderDid = owner then m.recipientDid else m.senderDid)
    have hadded : RefsAdded reference st st' := by
      obtain ⟨drawn, hderived, hst'⟩ := hdraws
      obtain ⟨rows, hdrawn, rfl⟩ := conversationRef_eq_ok hkey
      obtain rfl : rows = drawn := congrArg Store.directConversationRefs hst'
      rcases hdrawn.rows with rfl | ⟨rfl, -⟩
      · exact .refl hderived
      · exact ⟨_, hderived, rfl⟩
    unfold ordinarySyncMessage directSyncMessage
    dsimp only
    rw [hkey, ok_bind]
    exact ⟨_, _, rfl, hadded, rfl⟩
  | hosted m => exact ⟨_, _, rfl, .refl hrefs, rfl⟩
  | projected v => exact ⟨_, _, rfl, .refl hrefs, rfl⟩
  | legacy m => exact ⟨_, _, rfl, .refl hrefs, rfl⟩

/-- **Every page can be shown**: its messages are its rows, in their order. -/
theorem ordinarySyncMessages_ok (rows : List ThreadRow) :
    ∃ messages st', ordinarySyncMessages req owner rows st = .ok (messages, st') ∧
      RefsAdded reference st st' ∧ List.Forall₂ (ShowsRow req owner) messages rows ∧
      messages.map (·.lookup "server_seq") =
        rows.map fun row ↦ some (Json.str (toString row.serverSeq)) := by
  induction rows generalizing st with
  | nil => exact ⟨[], st, rfl, .refl hrefs, .nil, rfl⟩
  | cons row rest ih =>
    have hrow : ∃ message st', ordinarySyncMessage req st owner row = .ok (message, st') ∧ _ :=
      ordinarySyncMessage_ok hinj houtside hrefs row
    obtain ⟨message, st₁, hmessage, hadded, hnumber⟩ := hrow
    have hrefs₁ : RefsDerived reference st₁.directConversationRefs := by
      obtain ⟨more, hderived, rfl⟩ := hadded
      exact hderived
    obtain ⟨messages, st₂, hmessages, hadded', hshown, hnumbers⟩ := ih hrefs₁
    refine ⟨message :: messages, st₂, ?_, hadded.trans hadded',
      .cons ⟨st, st₁, hmessage⟩ hshown, ?_⟩
    · rw [ordinarySyncMessages, hmessage, ok_bind]
      dsimp only
      rw [hmessages, ok_bind]
      rfl
    · rw [List.map_cons, List.map_cons, hnumber, hnumbers]

end Page

/-! ### One call -/

/-- **A thread an owner can read**: its key names it, its messages have different numbers, and
references are derived. The numbers are in 64-bit columns. -/
structure ThreadOpen (reference : String → String → String) (owner key : String)
    (thread : SyncThread) (st : Store) : Prop where
  named : ∀ outside, syncThread outside st owner key = .ok thread
  distinct : ((thread.rows st owner).map ThreadRow.serverSeq).Nodup
  small : ∀ row ∈ thread.rows st owner, row.serverSeq < 2 ^ 63
  refs : RefsDerived reference st.directConversationRefs

/-- **A client asks for a page** of the thread, after a cursor. -/
structure AsksAfter (reference : String → String → String) (s : SyncSubject) (key : String)
    (cursor : Json) (req : DeviceRequest) (params : Obj) (d : ThreadRequest) : Prop where
  subject : syncV2Identity req params = .ok s
  request : threadRequest (syncBody params) = .ok d
  threadKey : d.threadKey = key
  cursor : (syncBody params).get "after_server_seq" = cursor
  references : req.outside.conversationRef = reference

namespace SyncThread

/-- The rows of a page. -/
def page (st : Store) (owner : String) (thread : SyncThread) (after limit : ℕ) : List ThreadRow :=
  Keyset.page ThreadRow.serverSeq (thread.rows st owner) after limit

/-- The number behind it. -/
def nextSeq (st : Store) (owner : String) (thread : SyncThread) (after limit : ℕ) : ℕ :=
  (Keyset.next ThreadRow.serverSeq (after : ℤ) (thread.page st owner after limit)).toNat

/-- It is the next key of the library. -/
theorem coe_nextSeq (st : Store) (owner : String) (thread : SyncThread) (after limit : ℕ) :
    (thread.nextSeq st owner after limit : ℤ) =
      Keyset.next ThreadRow.serverSeq (after : ℤ) (thread.page st owner after limit) := by
  have hle := Keyset.le_next ThreadRow.serverSeq (thread.rows st owner) (after : ℤ) limit
  exact Int.toNat_of_nonneg ((Int.natCast_nonneg after).trans hle)

end SyncThread

/-- **What a page is**: the next rows of the thread, the number of the last of them, and whether the
thread goes on behind it. -/
structure ThreadPageOf (thread : SyncThread) (st : Store) (req : DeviceRequest) (owner : String)
    (d : ThreadRequest) (page : ThreadPage) : Prop where
  messages : List.Forall₂ (ShowsRow req owner) page.messages (thread.page st owner d.after d.limit)
  next : page.nextAfterServerSeq = .str (toString (thread.nextSeq st owner d.after d.limit))
  hasMore : page.hasMore = true ↔
    ∃ row ∈ thread.rows st owner, (thread.nextSeq st owner d.after d.limit : ℤ) < row.serverSeq

section Call

variable {reference : String → String → String} {s : SyncSubject} {owner key : String}
  {thread : SyncThread} {st st' : Store} {req : DeviceRequest} {params : Obj} {cursor : Json}
  {d : ThreadRequest} {page : ThreadPage}

/-- References do not change what a key names, nor the messages. -/
theorem ThreadOpen.refsAdded (hopen : ThreadOpen reference owner key thread st)
    (h : RefsAdded reference st st') :
    ThreadOpen reference owner key thread st' ∧ thread.rows st' owner = thread.rows st owner := by
  obtain ⟨more, hderived, rfl⟩ := h
  have hrows : thread.rows { st with directConversationRefs := st.directConversationRefs ++ more }
      owner = thread.rows st owner := by
    cases thread with
    | group source groupDid => cases source <;> rfl
    | direct peer => rfl
  refine ⟨⟨fun outside ↦ ?_, ?_, ?_, hderived⟩, hrows⟩
  · have hnamed := hopen.named outside
    unfold syncThread at hnamed ⊢
    split at hnamed
    · rename_i hgroup
      rw [if_pos hgroup]
      exact hnamed
    · rename_i hdirect
      rw [if_neg hdirect]
      obtain ⟨peer, hpeer, hnamed⟩ := bind_eq_ok.mp hnamed
      refine bind_eq_ok.mpr ⟨peer, ?_, hnamed⟩
      obtain ⟨reference, href, hpeer⟩ := bind_eq_ok.mp hpeer
      obtain ⟨row, hrow, hpeer⟩ := bind_eq_ok.mp hpeer
      refine bind_eq_ok.mpr ⟨reference, href, bind_eq_ok.mpr ⟨row, orRaise_eq_ok.mpr ?_, hpeer⟩⟩
      rw [List.find?_append, orRaise_eq_ok.mp hrow]
      rfl
  · rw [hrows]
    exact hopen.distinct
  · rw [hrows]
    exact hopen.small

/-- The number behind a page is again one of a cursor. -/
theorem ThreadOpen.nextSeq_lt (hopen : ThreadOpen reference owner key thread st) {after : ℕ}
    (hafter : after < 2 ^ 63) (limit : ℕ) : thread.nextSeq st owner after limit < 2 ^ 63 := by
  have hnext := thread.coe_nextSeq st owner after limit
  have hsmall : Keyset.next ThreadRow.serverSeq (after : ℤ) (thread.page st owner after limit) <
      2 ^ 63 := by
    rcases (thread.page st owner after limit).eq_nil_or_concat' with hpage | ⟨init, row, hpage⟩
    · rw [hpage]
      show (after : ℤ) < 2 ^ 63
      omega
    · have hmem : row ∈ Keyset.after ThreadRow.serverSeq (thread.rows st owner) after := by
        refine List.mem_of_mem_take (i := limit) ?_
        show row ∈ thread.page st owner after limit
        rw [hpage]
        simp
      rw [hpage, Keyset.next, List.getLast?_concat]
      exact hopen.small row (Keyset.mem_after.mp hmem).1
  omega

/-- The cursor of an answer is the number of its last row. -/
theorem nextAfterServerSeq_ok {messages : List Obj} {rows : List ThreadRow} {after : ℕ}
    (h : messages.map (·.lookup "server_seq") =
      rows.map fun row ↦ some (Json.str (toString row.serverSeq))) :
    nextAfterServerSeq after messages =
      .ok (.str (toString (Keyset.next ThreadRow.serverSeq (after : ℤ) rows))) := by
  have hlast := congrArg List.getLast? h
  rw [List.getLast?_map, List.getLast?_map] at hlast
  unfold nextAfterServerSeq Keyset.next
  cases hmessage : messages.getLast? with
  | none =>
    rw [hmessage] at hlast
    rw [Option.map_eq_none_iff.mp hlast.symm]
    rfl
  | some message =>
    rw [hmessage] at hlast
    obtain ⟨row, hrow, hnumber⟩ := Option.map_eq_some_iff.mp hlast.symm
    rw [hrow]
    exact orRaise_eq_ok.mpr hnumber.symm

/-- **Every call is served.** -/
theorem threadAfterV2_ok (hinj : ∀ owner, Function.Injective (reference owner))
    (hopen : ThreadOpen reference s.owner key thread st)
    (hasks : AsksAfter reference s key cursor req params d) :
    ∃ page st', threadAfterV2 st req params = .ok (page, st') ∧ RefsAdded reference st st' ∧
      ThreadPageOf thread st req s.owner d page := by
  have hserved : ∃ messages st', ordinarySyncMessages req s.owner
      (thread.page st s.owner d.after d.limit) st = .ok (messages, st') ∧ _ :=
    ordinarySyncMessages_ok hinj hasks.references hopen.refs _
  obtain ⟨messages, st', hmessages, hadded, hshown, hnumbers⟩ := hserved
  -- One row more is read than shown.
  have hrows : (Keyset.page ThreadRow.serverSeq (thread.rows st s.owner) (d.after : ℤ)
      (d.limit + 1)).take d.limit = thread.page st s.owner d.after d.limit := by
    rw [Keyset.page, List.take_take, min_eq_left (by omega)]
    rfl
  have hmore : decide (d.limit < (Keyset.page ThreadRow.serverSeq (thread.rows st s.owner)
      (d.after : ℤ) (d.limit + 1)).length) = true ↔
      ∃ row ∈ thread.rows st s.owner, (thread.nextSeq st s.owner d.after d.limit : ℤ) <
        row.serverSeq := by
    rw [decide_eq_true_iff, Keyset.page, List.length_take, SyncThread.coe_nextSeq]
    refine Iff.trans ?_ (Keyset.lt_length_after_iff hopen.distinct)
    omega
  have hok : threadAfterV2 st req params =
      .ok (⟨messages, .str (toString (thread.nextSeq st s.owner d.after d.limit)), decide (d.limit <
        (Keyset.page ThreadRow.serverSeq (thread.rows st s.owner) (d.after : ℤ)
          (d.limit + 1)).length)⟩, st') := by
    unfold threadAfterV2
    rw [hasks.subject, ok_bind, hasks.request, ok_bind]
    unfold threadPage
    rw [hasks.threadKey, hopen.named, ok_bind]
    dsimp only
    rw [hrows, hmessages, ok_bind]
    dsimp only
    rw [nextAfterServerSeq_ok hnumbers, ok_bind, ← SyncThread.coe_nextSeq]
    rfl
  exact ⟨_, _, hok, hadded, hshown, rfl, hmore⟩

/-- What was served is such a page. -/
theorem AsksAfter.pageOf (hasks : AsksAfter reference s key cursor req params d)
    (hserved : threadAfterV2 st req params = .ok (page, st'))
    (hinj : ∀ owner, Function.Injective (reference owner))
    (hopen : ThreadOpen reference s.owner key thread st) :
    RefsAdded reference st st' ∧ ThreadPageOf thread st req s.owner d page := by
  have hanswer : ∃ page st', threadAfterV2 st req params = .ok (page, st') ∧ _ :=
    threadAfterV2_ok hinj hopen hasks
  obtain ⟨page₁, st₁, hok, hboth⟩ := hanswer
  rw [hserved] at hok
  obtain ⟨rfl, rfl⟩ := Prod.mk.inj (Except.ok.inj hok)
  exact hboth

end Call

/-! ### Call after call -/

/-- A page as it was served, in the store of that moment. -/
structure ServedThreadPage where
  store : Store
  req : DeviceRequest
  request : ThreadRequest
  page : ThreadPage

/-- The rows of the thread it shows. -/
def ServedThreadPage.rows (v : ServedThreadPage) (owner : String) (thread : SyncThread) :
    List ThreadRow :=
  thread.page v.store owner v.request.after v.request.limit

/-- **Between two calls** messages with larger numbers are appended to the thread, and anything else
may change. -/
structure ThreadAppended (reference : String → String → String) (owner key : String)
    (thread : SyncThread) (st later : Store) : Prop where
  threadOpen : ThreadOpen reference owner key thread later
  rows : Keyset.Appended ThreadRow.serverSeq (thread.rows st owner) (thread.rows later owner)

/-- **A client** calls with the `next_after_server_seq` of the page before, whatever it says of
more; the store and the cursor it has come to are those of its next call. -/
inductive ThreadCalls (reference : String → String → String) (s : SyncSubject) (key : String)
    (thread : SyncThread) : Store → Json → List ServedThreadPage → Store → Json → Prop where
  | nil (st : Store) (cursor : Json) : ThreadCalls reference s key thread st cursor [] st cursor
  | call {st st' later final : Store} {cursor cursor' : Json} {req : DeviceRequest} {params : Obj}
      {d : ThreadRequest} {page : ThreadPage} {rest : List ServedThreadPage}
      (hasks : AsksAfter reference s key cursor req params d)
      (hserved : threadAfterV2 st req params = .ok (page, st'))
      (hlater : ThreadAppended reference s.owner key thread st' later)
      (hrest : ThreadCalls reference s key thread later page.nextAfterServerSeq rest final
        cursor') :
      ThreadCalls reference s key thread st cursor (⟨st, req, d, page⟩ :: rest) final cursor'

section Calls

variable {reference : String → String → String} {s : SyncSubject} {key : String}
  {thread : SyncThread} {st final : Store} {cursor cursor' : Json} {served : List ServedThreadPage}
  {n : ℕ}

/-- A text that is a cursor of a request. -/
def IsCursor (cursor : Json) (n : ℕ) : Prop :=
  decimalCursor cursor "after_server_seq" false = .ok n ∧ n < 2 ^ 63

/-- What a request asks for goes by its cursor. -/
theorem AsksAfter.after_eq {req : DeviceRequest} {params : Obj} {d : ThreadRequest}
    (hasks : AsksAfter reference s key cursor req params d) (hcursor : IsCursor cursor n) :
    d.after = n := by
  obtain ⟨-, hafter, -, -⟩ := threadRequest_eq_ok hasks.request
  rw [hasks.cursor] at hafter
  exact Except.ok.inj (hafter.symm.trans hcursor.1)

/-- The cursor of a page is one of a request. -/
theorem ThreadPageOf.isCursor {req : DeviceRequest} {d : ThreadRequest} {page : ThreadPage}
    (h : ThreadPageOf thread st req s.owner d page)
    (hopen : ThreadOpen reference s.owner key thread st) (hafter : d.after < 2 ^ 63) :
    IsCursor page.nextAfterServerSeq (thread.nextSeq st s.owner d.after d.limit) := by
  have hlt := hopen.nextSeq_lt hafter d.limit
  refine ⟨?_, hlt⟩
  rw [h.next]
  exact decimalCursor_toString (lt_trans hlt (by norm_num)) _

/-- What a client has come to, and that it is a reader of the thread. -/
structure ThreadRead (reference : String → String → String) (s : SyncSubject) (key : String)
    (thread : SyncThread) (st : Store) (n : ℕ) (served : List ServedThreadPage) (final : Store)
    (cursor' : Json) (n' : ℕ) : Prop where
  threadOpen : ThreadOpen reference s.owner key thread final
  cursor : IsCursor cursor' n'
  reads : Keyset.Reads ThreadRow.serverSeq (thread.rows st s.owner) (n : ℤ)
    (served.map fun v ↦ v.rows s.owner thread) (thread.rows final s.owner) (n' : ℤ)
  pages : ∀ v ∈ served, ThreadPageOf thread v.store v.req s.owner v.request v.page
  limits : ∀ v ∈ served, 1 ≤ v.request.limit

/-- **A client of `thread_after_v2` is a reader of the thread.** -/
theorem ThreadCalls.read (hinj : ∀ owner, Function.Injective (reference owner))
    (h : ThreadCalls reference s key thread st cursor served final cursor')
    (hopen : ThreadOpen reference s.owner key thread st) (hcursor : IsCursor cursor n) :
    ∃ n', ThreadRead reference s key thread st n served final cursor' n' := by
  induction h generalizing n with
  | nil st cursor => exact ⟨n, hopen, hcursor, .nil _ _, by simp, by simp⟩
  | call hasks hserved hlater hrest ih =>
    rename_i st₀ st₁ later final cursor cursor' req params d page rest
    obtain ⟨hadded, hpage⟩ := hasks.pageOf hserved hinj hopen
    obtain ⟨-, hrows⟩ := hopen.refsAdded hadded
    obtain rfl := hasks.after_eq hcursor
    obtain ⟨n', hread⟩ := ih hlater.threadOpen (hpage.isCursor hopen hcursor.2)
    refine ⟨n', hread.threadOpen, hread.cursor, ?_, fun v hv ↦ ?_, fun v hv ↦ ?_⟩
    · have happended := hlater.rows
      have hreads := hread.reads
      rw [hrows] at happended
      rw [SyncThread.coe_nextSeq] at hreads
      exact .cons happended hreads
    · rcases List.mem_cons.mp hv with rfl | hv
      · exact hpage
      · exact hread.pages v hv
    · rcases List.mem_cons.mp hv with rfl | hv
      · exact (threadRequest_eq_ok hasks.request).2.2.2
      · exact hread.limits v hv

end Calls

/-- **Draining a thread is complete.** For a thread the owner can read, whose messages have
different numbers:

* every call is served; it shows the next rows, `has_more` says whether a message with a larger
  number exists at that moment, and its `next_after_server_seq` is the cursor of a valid request;
* the calls of a client that ends with a page without more, whatever is appended in between, show
  the messages after its first cursor: each once and in ascending order, and all of them that exist
  at the last call;
* as long as there are more, there are no more calls than messages after the first cursor. So once
  nothing is appended any more, the client comes to an end. -/
theorem thread_drain_complete {reference : String → String → String} {s : SyncSubject}
    {key : String} {thread : SyncThread} (hinj : ∀ owner, Function.Injective (reference owner)) :
    (∀ {st : Store} {cursor : Json} {req : DeviceRequest} {params : Obj} {d : ThreadRequest},
      ThreadOpen reference s.owner key thread st → AsksAfter reference s key cursor req params d →
      ∃ page st', threadAfterV2 st req params = .ok (page, st') ∧
        ThreadAppended reference s.owner key thread st st' ∧
        ThreadPageOf thread st req s.owner d page ∧
        ∀ limit : ℕ, 1 ≤ limit ∧ limit ≤ 500 → threadRequest [("thread_key", .str key),
            ("after_server_seq", page.nextAfterServerSeq), ("limit", .int limit)] =
          .ok ⟨key, thread.nextSeq st s.owner d.after d.limit, limit⟩) ∧
    (∀ {st last st' : Store} {cursor cursor' : Json} {n : ℕ} {served : List ServedThreadPage}
      {req : DeviceRequest} {params : Obj} {d : ThreadRequest} {page : ThreadPage},
      ThreadOpen reference s.owner key thread st → IsCursor cursor n →
      ThreadCalls reference s key thread st cursor served last cursor' →
      AsksAfter reference s key cursor' req params d →
      threadAfterV2 last req params = .ok (page, st') → page.hasMore = false →
      (served ++ [ServedThreadPage.mk last req d page]).flatMap
            (fun v ↦ v.rows s.owner thread) =
          Keyset.after ThreadRow.serverSeq (thread.rows last s.owner) (n : ℤ) ∧
        (Keyset.after ThreadRow.serverSeq (thread.rows last s.owner) (n : ℤ)).Pairwise
          (fun a b ↦ a.serverSeq < b.serverSeq) ∧
        ∀ v ∈ served ++ [ServedThreadPage.mk last req d page], List.Forall₂ (ShowsRow v.req s.owner)
          v.page.messages (v.rows s.owner thread)) ∧
    ∀ {st last : Store} {cursor cursor' : Json} {n : ℕ} {served : List ServedThreadPage},
      ThreadOpen reference s.owner key thread st → IsCursor cursor n →
      ThreadCalls reference s key thread st cursor served last cursor' →
      (∀ v ∈ served, v.page.hasMore = true) →
      served.length ≤
        (Keyset.after ThreadRow.serverSeq (thread.rows last s.owner) (n : ℤ)).length := by
  refine ⟨fun {st cursor req params d} hopen hasks ↦ ?_,
    fun {st last st' cursor cursor' n served req params d page} hopen hcursor hcalls hasks hserved
      hlast ↦ ?_, fun {st last cursor cursor' n served} hopen hcursor hcalls hmore ↦ ?_⟩
  · have hanswer : ∃ page st', threadAfterV2 st req params = .ok (page, st') ∧ _ :=
      threadAfterV2_ok hinj hopen hasks
    obtain ⟨page, st', hok, hadded, hpage⟩ := hanswer
    obtain ⟨hopen', hrows⟩ := hopen.refsAdded hadded
    obtain ⟨hkey, -, hafter, -⟩ := threadRequest_eq_ok hasks.request
    rw [hasks.threadKey] at hkey
    refine ⟨page, st', hok, ⟨hopen', hrows ▸ .refl _ _⟩, hpage, fun limit hlimit ↦ ?_⟩
    rw [hpage.next, threadRequest_next hkey (hopen.nextSeq_lt hafter d.limit) hlimit]
  · obtain ⟨n', hread⟩ := hcalls.read hinj hopen hcursor
    obtain ⟨-, hpage⟩ := hasks.pageOf hserved hinj hread.threadOpen
    obtain rfl := hasks.after_eq hread.cursor
    have hdistinct := hread.threadOpen.distinct
    have hall := hread.reads.flatten_append hdistinct
    -- Nothing is behind the last page, so it is all that is after its cursor.
    have hrest : thread.page last s.owner d.after d.limit =
        Keyset.after ThreadRow.serverSeq (thread.rows last s.owner) (d.after : ℤ) := by
      have hnone : ¬ d.limit <
          (Keyset.after ThreadRow.serverSeq (thread.rows last s.owner) (d.after : ℤ)).length := by
        rw [Keyset.lt_length_after_iff hdistinct]
        show ¬ ∃ row ∈ thread.rows last s.owner, Keyset.next ThreadRow.serverSeq (d.after : ℤ)
          (thread.page last s.owner d.after d.limit) < row.serverSeq
        rw [← SyncThread.coe_nextSeq, ← hpage.hasMore, hlast]
        exact Bool.false_ne_true
      exact List.take_of_length_le (not_lt.mp hnone)
    refine ⟨?_, Keyset.pairwise_after hdistinct _, fun v hv ↦ ?_⟩
    · rw [← hall, List.flatMap_append, List.flatMap_singleton, List.flatMap_def, ← hrest]
      rfl
    · rcases List.mem_append.mp hv with hv | hv
      · exact (hread.pages v hv).messages
      · rw [List.mem_singleton.mp hv]
        exact hpage.messages
  · obtain ⟨n', hread⟩ := hcalls.read hinj hopen hcursor
    have hlength := hread.reads.length_le hread.threadOpen.distinct fun p hp hnil ↦ ?_
    · rwa [List.length_map] at hlength
    · -- Where there are more, the page is full.
      obtain ⟨v, hv, rfl⟩ := List.mem_map.mp hp
      obtain ⟨row, hrow, hlt⟩ := (hread.pages v hv).hasMore.mp (hmore v hv)
      rw [SyncThread.coe_nextSeq, show thread.page v.store s.owner v.request.after v.request.limit =
        [] from hnil] at hlt
      have hmem : row ∈ Keyset.after ThreadRow.serverSeq (thread.rows v.store s.owner)
          (v.request.after : ℤ) := Keyset.mem_after.mpr ⟨hrow, hlt⟩
      rcases List.take_eq_nil_iff.mp hnil with hzero | hempty
      · have hpos := hread.limits v hv
        omega
      · rw [hempty] at hmem
        cases hmem

/-! ### A message arrives -/

/-- A group from before hosted groups. -/
def openGroupKey : String := "did:wba:host.example:groups:open"

/-- Alice reads the legacy group. -/
def openGroup : SyncThread := .group .legacy openGroupKey

/-- A message of the group. -/
def openGroupMessage (n : ℕ) : LegacyMessage where
  messageId := "m" ++ toString n
  groupDid := openGroupKey
  senderDid := carol
  operationId := none
  body := [("text", .str "hello")]
  contentType := "text/plain"
  createdAt := ""
  serverSeq := n

/-- The group with messages of these numbers. -/
def withMessages (numbers : List ℕ) : Store :=
  { sampleSenders with groupMessages := numbers.map openGroupMessage }

/-- Her device asks for so many messages after a number. -/
def askAfter (n limit : ℕ) : Obj :=
  [("thread_key", .str openGroupKey), ("after_server_seq", .str (toString n)),
    ("limit", .int limit)]

/-- Alice sees all of them. -/
theorem rows_withMessages (numbers : List ℕ) :
    openGroup.rows (withMessages numbers) alice =
      numbers.map fun n ↦ .legacy (openGroupMessage n) := by
  show ((numbers.map openGroupMessage).filter fun m ↦ decide (m.groupDid = openGroupKey)).map
    ThreadRow.legacy = _
  rw [List.filter_eq_self.mpr fun m hm ↦ ?_, List.map_map]
  · rfl
  · obtain ⟨n, -, rfl⟩ := List.mem_map.mp hm
    exact decide_eq_true rfl

/-- She may read the thread. -/
theorem threadOpen_withMessages (numbers : List ℕ) (hdistinct : numbers.Nodup)
    (hsmall : ∀ n ∈ numbers, n < 2 ^ 63) :
    ThreadOpen Outside.honest.conversationRef alice openGroupKey openGroup
      (withMessages numbers) where
  named _ := rfl
  distinct := by
    rw [rows_withMessages, List.map_map]
    exact hdistinct.map Nat.cast_injective
  small row hrow := by
    rw [rows_withMessages] at hrow
    obtain ⟨n, hn, rfl⟩ := List.mem_map.mp hrow
    have hlt := hsmall n hn
    show (n : ℤ) < 2 ^ 63
    omega
  refs _ hr := nomatch hr

/-- And her device may ask. -/
theorem asksAfter_sample (n limit : ℕ) (hn : n < 2 ^ 63) (hlimit : 1 ≤ limit ∧ limit ≤ 500) :
    AsksAfter Outside.honest.conversationRef aliceSubject openGroupKey
      (.str (toString n)) aliceDevice
      (askAfter n limit) ⟨openGroupKey, n, limit⟩ where
  subject := rfl
  request := threadRequest_next (by decide) hn hlimit
  threadKey := rfl
  cursor := rfl
  references := rfl

/-- One message a call, and the third one arrives after the first call. -/
theorem thread_drain_complete_with_arrival :
    ∃ first last page st', ThreadCalls Outside.honest.conversationRef aliceSubject openGroupKey
        openGroup (withMessages [1, 2]) (.str "0") [first] last (.str "1") ∧
      threadAfterV2 last aliceDevice (askAfter 1 2) = .ok (page, st') ∧ page.hasMore = false ∧
      (first.rows alice openGroup).map ThreadRow.serverSeq = [1] ∧
      (openGroup.page last alice 1 2).map ThreadRow.serverSeq = [2, 3] := by
  have hinj := conversationRef_honest_injective
  have hcomplete := @thread_drain_complete _ aliceSubject openGroupKey openGroup hinj
  have hopen := threadOpen_withMessages [1, 2] (by decide) (by decide)
  have hopen' := threadOpen_withMessages [1, 2, 3] (by decide) (by decide)
  have hasks := asksAfter_sample 0 1 (by decide) (by decide)
  have hasks' := asksAfter_sample 1 2 (by decide) (by decide)
  obtain ⟨page, st', hserved, -, hpage, -⟩ := hcomplete.1 hopen hasks
  obtain ⟨page', st'', hserved', -, hpage', -⟩ := hcomplete.1 hopen' hasks'
  obtain ⟨-, hrows⟩ := hopen.refsAdded (hasks.pageOf hserved hinj hopen).1
  have happended : Keyset.Appended ThreadRow.serverSeq (openGroup.rows st' alice)
      (openGroup.rows (withMessages [1, 2, 3]) alice) := by
    rw [show openGroup.rows st' alice = _ from hrows, rows_withMessages, rows_withMessages]
    refine ⟨[.legacy (openGroupMessage 3)], .refl _, fun r hr m hm ↦ ?_⟩
    obtain ⟨n, hn, rfl⟩ := List.mem_map.mp hr
    have hle : ∀ n ∈ [1, 2], n ≤ 2 := by decide
    have hn := hle n hn
    rw [List.mem_singleton.mp hm]
    show (n : ℤ) < 3
    omega
  have hnext : page.nextAfterServerSeq = .str "1" := by
    rw [hpage.next, show openGroup.nextSeq (withMessages [1, 2]) aliceSubject.owner 0 1 = 1 by
      decide +kernel]
    rfl
  have hlast : page'.hasMore = false := by
    rw [← Bool.not_eq_true, hpage'.hasMore, show openGroup.nextSeq (withMessages [1, 2, 3])
      aliceSubject.owner 1 2 = 3 by decide +kernel]
    rintro ⟨row, hrow, hlt⟩
    rw [show openGroup.rows _ aliceSubject.owner = _ from rows_withMessages _] at hrow
    obtain ⟨n, hn, rfl⟩ := List.mem_map.mp hrow
    have hle : ∀ n ∈ [1, 2, 3], n ≤ 3 := by decide
    have hn := hle n hn
    have hmore : ((3 : ℕ) : ℤ) < n := hlt
    omega
  have hcalls := ThreadCalls.call hasks hserved ⟨hopen', happended⟩ (.nil _ _)
  rw [hnext] at hcalls
  have hfirst : (openGroup.page (withMessages [1, 2]) alice 0 1).map ThreadRow.serverSeq = [1] := by
    decide +kernel
  have hsecond : (openGroup.page (withMessages [1, 2, 3]) alice 1 2).map ThreadRow.serverSeq =
      [2, 3] := by
    decide +kernel
  exact ⟨_, _, page', st'', hcalls, hserved', hlast, hfirst, hsecond⟩

end Awiki
