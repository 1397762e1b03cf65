import AwikiOpenServer.Messaging.Snapshots

/-!
# Reading the log: `sync.delta`

`sync_delta_v2` serves a client the rows of its owner's log after a cursor, at most `limit` of them.
The page is cut on **scanned** rows and filtered afterwards: a message of a group the owner is not a
member of now is scanned and left out, so the cursor moves past it. The numbers of the scanned rows
must be consecutive; where one is missing, nothing of the page is served and the client recovers
from a snapshot, or gets an error if it has not negotiated one.

## A request

The body has a cursor, a limit, a reason and an epoch, each of them checked before anything is read.
A cursor is a text of decimal digits without leading zeros (`decimalCursor`), and it is of an epoch:
a client that brings another one than that of its binding is sent to a snapshot as well, and one
that is ahead of the log is refused. The lanes of the compatible protocol come with the request and
have to be empty.

## A page

`scanRows` is the loop over the rows: it checks the number, renders the row, decides whether the
owner may see it now, and goes on. It comes to its events, or to a number that is missing, and the
handler decides what to do about that; what a row is rendered to is `Messaging/SyncV2.lean`. One row
more than the limit is read to know whether there are more, and the next cursor is that of the last
scanned row, shown or not.

The whole of a page is one transaction, so all of its rows are seen in one state.
-/

namespace Awiki

open Py

/-- `_log_gap`: how many rows an owner's log has, its highest number, and whether they differ. -/
def logGap (st : Store) (owner : String) : ℕ × ℕ × Bool :=
  let numbers := (st.syncEvents.filter fun e ↦ decide (e.ownerDid = owner)).map SyncEvent.eventSeq
  let highest := numbers.foldr max 0
  (numbers.length, highest, numbers.length ≠ highest)

/-- `SELECT COALESCE(MAX(event_seq),0)`. -/
def highestSeq (st : Store) (owner : String) : ℕ := (logGap st owner).2.1

/-- `decimal_cursor`: at most twenty ASCII digits, without a leading zero. -/
def decimalCursor (v : Json) (field : String) (positive : Bool) : Result ℕ := do
  let invalid : AwikiError := .invalidParams ("sync." ++ field ++ "_invalid")
  let text ← orRaise invalid v.str?
  let cs := text.toList
  require (!cs.isEmpty && cs.all Char.isDigit && !(1 < cs.length && cs.head? = some '0')) invalid
  require (cs.length ≤ 20) invalid
  let n ← orRaise invalid (ofText? text)
  require (!positive || n ≠ 0) invalid
  return n.toNat

/-- The reasons a client may give. -/
def DELTA_REASONS : List String :=
  ["session_start", "app_resume", "websocket_hint", "websocket_reconnect", "foreground_reconcile",
    "manual_refresh", "after_mutation"]

/-- What `sync_delta_v2` has read off its body. -/
structure DeltaRequest where
  epoch : String
  after : ℕ
  limit : ℕ

/-- `body.get("reason") not in reasons`. -/
def knownReason (v : Json) : Result Bool := inSet v DELTA_REASONS

/-- The checks of `sync_delta_v2` on its body. -/
def deltaRequest (body : Obj) : Result DeltaRequest := do
  let invalid : AwikiError := .invalidParams "sync.delta_body_invalid"
  require ((["cursor", "limit", "reason"].all fun k ↦ body.has k) &&
      body.all fun p ↦ ["cursor", "limit", "reason", "lanes", "p6_delivery"].contains p.1) invalid
  let cursor ← orRaise (.invalidParams "sync.invalid_cursor")
    ((body.get "cursor").obj?.filter fun c ↦ keysAre c ["stream_epoch", "scan_seq"])
  let _ ← decimalCursor (Obj.get cursor "stream_epoch") "stream_epoch" true
  let epoch ← orRaise invalid (Obj.get cursor "stream_epoch").str?
  let after ← decimalCursor (Obj.get cursor "scan_seq") "scan_seq" false
  let limit ← match body.get "limit" with
    | .int n => if 1 ≤ n ∧ n ≤ 500 then .ok n.toNat else .error invalid
    | _ => .error invalid
  let known ← knownReason (body.get "reason")
  require known invalid
  return { epoch, after, limit }

/-- One lane of a request: its cursor stands at the start of an empty stream. -/
def validateCompatLane (entry : Json) : Result Unit := do
  let lane ← orRaise (invalidRequest [("field", .str "lanes")])
    (entry.obj?.filter fun o ↦ keysAre o ["cursor", "committed_seq"])
  require (Json.same (Obj.get lane "cursor") (.obj emptyCompatCursor) &&
      (Obj.get lane "committed_seq").isStr "0")
    (invalidRequest [("field", .str "lanes.cursor"), ("reason", .str "empty_stream_required")])

/-- `empty_compat_delta_lanes`. -/
def emptyCompatDeltaLanes (body : Obj) (negotiated : List String) (clientInstanceId : String) :
    Result Obj :=
  let unpaired := invalidRequest [("reason", .str "p6_unpaired")]
  if !body.has "lanes" then do
    require (!body.has "p6_delivery") unpaired
    return []
  else do
    let allowed := (COMPAT_LANES.filter fun l ↦ negotiated.contains l.1).map Prod.snd
    let lanes ← orRaise
      (invalidRequest [("field", .str "lanes"), ("reason", .str "not_negotiated")])
      ((body.get "lanes").obj?.filter fun o ↦ !o.isEmpty && o.all fun p ↦ allowed.contains p.1)
    (dictKeys lanes).forM fun k ↦ validateCompatLane (Obj.get lanes k)
    if Obj.has lanes "p6_group" then
      require (Json.same (body.get "p6_delivery")
          (.obj [("profile", .str P6_DELIVERY), ("client_instance_id", .str clientInstanceId)]))
        (invalidRequest
          [("field", .str "p6_delivery"), ("reason", .str "client_instance_mismatch")])
    else require (!body.has "p6_delivery") unpaired
    return (dictKeys lanes).map fun k ↦
      (k, .obj [("events", .arr []), ("next_cursor", .obj emptyCompatCursor),
        ("has_more", .bool false)])

/-- The rows after a number, in order, at most so many. -/
def eventsAfter (st : Store) (owner : String) (after limit : ℕ) : List SyncEvent :=
  ((st.syncEvents.filter fun e ↦ decide (e.ownerDid = owner ∧ after < e.eventSeq)).insertionSort
    fun a b ↦ a.eventSeq ≤ b.eventSeq).take limit

/-- What the scan of a page comes to: its events, or a number that is missing. -/
inductive Scan where
  | events (events : List SyncV2Event)
  | gap

/-- Whether the owner may see an event now: only messages of groups go by membership. -/
def isVisible (outside : Outside) (st : Store) (owner : String) (e : SyncV2Event) : Result Bool :=
  if e.isGroupMessage then do
    let groupDid ← bindText outside.reprFloat (e.payload.get "group_did")
    match groupDid with
    | none => .ok false
    | some groupDid =>
      match groupSource st owner groupDid with
      | .ok _ => return true
      | .error _ => return false
  else .ok true

/-- The loop over the scanned rows; the next row must have number `expected`. -/
def scanRows (req : DeviceRequest) (s : SyncSubject) (epoch : String) (expected : ℕ) :
    List SyncEvent → Store → Result (Scan × Store)
  | [], st => .ok (.events [], st)
  | row :: rest, st =>
    if row.eventSeq ≠ expected then .ok (.gap, st)
    else do
      let (event, st) ← syncV2Event req.outside st row s.owner s.accountId epoch
      let visible ← isVisible req.outside st s.owner event
      let (scan, st) ← scanRows req s epoch (expected + 1) rest st
      match scan with
      | .gap => return (.gap, st)
      | .events events => return (.events (if visible then event :: events else events), st)

/-- A served page. -/
structure DeltaPage where
  events : List SyncV2Event
  nextEpoch : String
  nextSeq : ℕ
  hasMore : Bool
  lanes : Obj

/-- The `next_cursor` of a page. -/
def DeltaPage.nextCursor (page : DeltaPage) : Obj :=
  [("stream_epoch", .str page.nextEpoch), ("scan_seq", .str (toString page.nextSeq))]

/-- What `sync_delta_v2` answers: a page, or a descriptor to recover by. -/
inductive DeltaAnswer where
  | page (page : DeltaPage)
  | recovery (serverTime recovery : Json)

/-- The answer that sends a client to a snapshot. -/
def recoveryAnswer (keys : SnapshotKeys) (settings : Settings) (st : Store) (req : DeviceRequest)
    (s : SyncSubject) (clientInstanceId epoch : String) (highest : ℕ) (error : AwikiError) :
    Result (DeltaAnswer × Store) :=
  if negotiationSnapshotEnabled st s clientInstanceId then do
    let (issued, st) ← issueSnapshotRecovery keys settings st req s clientInstanceId epoch highest
    return (.recovery (issued.get "server_time") (issued.get "recovery"), st)
  else .error error

/-- The transaction of `sync_delta_v2` for a bound client. -/
def deltaPage (keys : SnapshotKeys) (settings : Settings) (st : Store) (req : DeviceRequest)
    (s : SyncSubject) (binding : SyncV2Binding) (d : DeltaRequest) (lanes : Obj) :
    Result (DeltaAnswer × Store) := do
  let epoch := toString binding.streamEpoch
  let highest := highestSeq st s.owner
  if d.epoch ≠ epoch then
    recoveryAnswer keys settings st req s binding.clientInstanceId epoch highest
      (.invalidParams "sync.cursor_epoch_mismatch")
  else
    require (d.after ≤ highest) (.invalidParams "sync.cursor_ahead")
    let rows := eventsAfter st s.owner d.after (d.limit + 1)
    let scanned := rows.take d.limit
    match ← scanRows req s epoch (d.after + 1) scanned st with
    | (.gap, st') =>
      recoveryAnswer keys settings st' req s binding.clientInstanceId epoch highest
        (.invalidParams "sync.retained_log_incomplete")
    | (.events events, st') =>
      return (.page {
        events := events
        nextEpoch := epoch
        nextSeq := (scanned.getLast?.map (·.eventSeq)).getD d.after
        hasMore := decide (d.limit < rows.length)
        lanes := lanes }, st')

/-- `sync_delta_v2`. -/
def syncDeltaV2 (keys : SnapshotKeys) (settings : Settings) (st : Store) (req : DeviceRequest)
    (params : Obj) : Result (DeltaAnswer × Store) := do
  let s ← syncV2Identity req params
  let body := syncBody params
  let d ← deltaRequest body
  let binding ← orRaise (.invalidParams "SYNC_BOOTSTRAP_REQUIRED")
    (st.syncV2Bindings.find? fun b ↦
      decide (b.ownerDid = s.owner ∧ b.deviceId = s.deviceId ∧ b.accountId = s.accountId))
  let lanes ← emptyCompatDeltaLanes body
    (negotiatedSyncCapabilities st s binding.clientInstanceId) binding.clientInstanceId
  deltaPage keys settings st req s binding d lanes

end Awiki
