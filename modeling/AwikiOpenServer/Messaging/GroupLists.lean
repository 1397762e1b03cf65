import AwikiOpenServer.Lib.Offsets
import AwikiOpenServer.Messaging.Groups.Routing
import AwikiOpenServer.Messaging.ThreadMessages

/-!
# The lists of groups and of members

`group.list` answers with the groups of the caller, `group.list_members` with the members of a
group. Both put the whole list together on every call and cut a page out of it by the offset in the
cursor (`Offsets.page`).

A list is put together of what three kinds of groups have: the groups the server hosts, the groups
hosted elsewhere that it keeps a projection of, and the legacy groups. For that the handlers of a
kind are called with a limit of a hundred in place of the caller's, and most of them keep it in
their query.

## Handlers over handlers

`_group_list_dispatch` and `_group_members_dispatch` are the routes of the two methods. They check
the request, call the handlers of each kind with parameters of their own, and put what comes back
into one list, under one form. The handlers are the ones that answer the same methods when only one
kind is asked for, so they are here once, with their own limits and their own orders: the hosted
groups by the time of their last update, the legacy groups by name, members by the time they joined.

The members of a group are those of one kind: the group is hosted here, or else projected, or else a
legacy group, and the first that applies decides. A projected roster is refreshed from its Host
before it is listed, and a Host that does not answer is no reason to fail: what the Host says, or
that it cannot be asked, is an argument (`refreshStatus`).

## Checks

Each parameter is checked where the source checks it, with its error. A cursor is a word with a
number behind it, `groups:` or `members:`. Limits are checked by two functions, which differ in what
they make of zero (`parseLocalViewLimit`, `groupListLimit`), and the handlers of a kind check the
hundred they are called with once more.
-/

namespace Awiki

open Py

/-! ### Parameters -/

/-- `current_did(request)`. -/
def requiredDid (req : Request) : Result String := do
  let authenticated ← currentDid req true
  orRaise (.unauthorized "missing_authentication") authenticated

/-- `_parse_non_negative_int`. -/
def parseNonNegativeInt (raw : Json) (field : String) (default : ℕ) : Result ℕ :=
  if raw.isNull || raw.isStr "" then .ok default
  else
    match intOf raw with
    | .ok n => if n < 0 then .error (.invalidParams (field ++ "_invalid")) else .ok n.toNat
    | .error .overflowError => .error (.value "cannot convert float infinity to integer")
    | .error _ => .error (.invalidParams (field ++ "_invalid"))

/-- `_parse_local_view_limit`. -/
def parseLocalViewLimit (raw : Json) (default : ℕ) : Result ℕ := do
  let limit ← parseNonNegativeInt raw "limit" default
  let limit := if limit = 0 then default else limit
  require (limit ≤ 100) (.invalidParams "limit_too_large")
  return limit

/-- The limit of `group.list` and of `hosted_group_list`: `int(…)` from 1 to 100. -/
def groupListLimit (params : Obj) : Result ℕ :=
  match intOf (params.getD "limit" (.int 50)) with
  | .ok n => if n < 1 ∨ 100 < n then .error (.invalidParams "limit_too_large") else .ok n.toNat
  | .error .overflowError => .error (.value "cannot convert float infinity to integer")
  | .error _ => .error (.invalidParams "limit_invalid")

/-- The offset in a cursor, which begins with a word; without a cursor, zero. -/
def cursorOffset (cursor : Json) (word error : String) : Result ℤ :=
  if cursor.isNull then .ok 0
  else do
    let text ← orRaise (.invalidParams error) (cursor.str?.filter (startsWith word))
    orRaise (.invalidParams error) (ofText? (withoutHead word text))

/-- `_validate_group_local_view`; without a group, `groupDid` is null. -/
def validateGroupLocalView (params : Obj) (owner : String) (groupDid : Json) : Result Unit := do
  validateLocalViewOwner params owner "group.local"
  match (((envelopePart params "_anp_meta").getD []).get "target").obj? with
  | none => return
  | some target => do
    let kind := Obj.get target "kind"
    let did := Obj.get target "did"
    require (!kind.truthy || kind.isStr "group")
      (.invalidParams "group.local_target_kind_mismatch" [("actual", kind)])
    require (!(groupDid.truthy && did.truthy) || Json.same did groupDid)
      (.invalidParams "group.local_target_did_mismatch" [("expected", groupDid), ("actual", did)])

/-! ### The groups of a caller -/

/-- `hosted_groups JOIN hosted_group_members`, where the owner is active. -/
def hostedMemberships (st : Store) (owner : String) : List (HostedGroup × HostedMember) :=
  st.hostedGroups.flatMap fun g ↦
    (st.hostedGroupMembers.filter fun m ↦
      decide (m.key = (g.groupDid, owner) ∧ m.status = .active)).map fun m ↦ (g, m)

/-- The projections of an owner who is active. -/
def activeViews (st : Store) (owner : String) : List GroupView :=
  st.groupViews.filter fun v ↦ decide (v.ownerDid = owner ∧ v.membershipStatus = .active)

/-- `groups JOIN group_members`, for one member. -/
def legacyMemberships (st : Store) (owner : String) : List LegacyGroup :=
  st.groups.flatMap fun g ↦
    (st.groupMembers.filter fun m ↦ decide (m.key = (g.groupDid, owner))).map fun _ ↦ g

/-- A hosted group in the list. -/
def hostedListEntry (st : Store) (p : HostedGroup × HostedMember) : Obj :=
  [("group_did", .str p.1.groupDid), ("host_service_did", .str p.1.hostServiceDid),
    ("group_state_version", .str (toString p.1.groupStateVersion)),
    ("group_event_seq", .str (toString p.1.groupEventSeq)), ("group_profile", .obj p.1.profile),
    ("group_policy", .obj p.1.policy), ("member_role", .str p.2.role.text),
    ("membership_status", .str p.2.status.text),
    ("member_count", .int (st.activeMembers p.1.groupDid).length),
    ("created_at", .str p.1.createdAt), ("updated_at", .str p.1.updatedAt)]

/-- The rows of the active members in a projection. -/
def activeMemberViews (st : Store) (owner groupDid : String) : List GroupMemberView :=
  st.groupMemberViews.filter fun v ↦
    decide (v.ownerDid = owner ∧ v.groupDid = groupDid ∧ v.status = "active")

/-- A projected group in the list. -/
def projectedListEntry (st : Store) (v : GroupView) : Obj :=
  [("group_did", .str v.groupDid), ("host_service_did", .str v.hostServiceDid),
    ("group_state_version", .str (toString v.groupStateVersion)),
    ("group_event_seq", .str (toString v.groupEventSeq)), ("group_profile", .obj v.profile),
    ("group_policy", .obj v.policy), ("member_role", .str v.memberRole),
    ("membership_status", .str v.membershipStatus.text),
    ("member_count", .int (activeMemberViews st v.ownerDid v.groupDid).length),
    ("updated_at", .str v.updatedAt)]

/-- `dict(row)` of a legacy group. -/
def LegacyGroup.row (g : LegacyGroup) : Obj :=
  [("group_did", .str g.groupDid), ("display_name", .str g.displayName),
    ("description", textOrNull g.description), ("join_mode", .str g.joinMode),
    ("created_at", .str g.createdAt)]

/-- `group_list`. -/
def groupList (st : Store) (req : Request) (params : Obj) : Result (List Obj) := do
  let did ← requiredDid req
  validateGroupLocalView params did .null
  let limit ← parseLocalViewLimit (params.get "limit") 50
  let rows := (legacyMemberships st did).insertionSort fun a b ↦ a.displayName ≤ b.displayName
  return (rows.take limit).map LegacyGroup.row

/-- `hosted_group_list`. -/
def hostedGroupList (st : Store) (req : Request) (params : Obj) : Result (List Obj) := do
  let owner ← requiredDid req
  let limit ← groupListLimit params
  let hosted := ((hostedMemberships st owner).insertionSort fun a b ↦
    b.1.updatedAt < a.1.updatedAt ∨ a.1.updatedAt = b.1.updatedAt ∧
      a.1.groupDid ≤ b.1.groupDid).take limit
  let views := ((activeViews st owner).insertionSort fun a b ↦
    b.updatedAt < a.updatedAt ∨ a.updatedAt = b.updatedAt ∧ a.groupDid ≤ b.groupDid).take limit
  let projections := Offsets.fresh (fun p : HostedGroup × HostedMember ↦ p.1.groupDid)
    GroupView.groupDid hosted views
  return (hosted.map (hostedListEntry st) ++ projections.map (projectedListEntry st)).take limit

/-- `my_role` and `member_status`, under the names older clients read. -/
def withOwnStanding (group : Obj) : Obj :=
  let group := if !group.has "my_role" && group.has "member_role" then
    group.set "my_role" (group.get "member_role") else group
  if !group.has "member_status" && group.has "membership_status" then
    group.set "member_status" (group.get "membership_status") else group

/-- A page of `group.list`. -/
structure GroupPage where
  groups : List Obj
  total : ℕ
  hasMore : Bool
  nextCursor : Option String

/-- The answer it is sent as. -/
def GroupPage.document (page : GroupPage) : Obj :=
  [("groups", .arr (page.groups.map Json.obj)), ("total", .int page.total),
    ("has_more", .bool page.hasMore), ("source", .str "local_projection")] ++
  (page.nextCursor.map fun cursor ↦ ("next_cursor", Json.str cursor)).toList

/-- The cursor of the next page, if there is one. -/
def nextCursor (word : String) (items : List Obj) (offset limit : ℕ) : Option String :=
  if Offsets.next items offset limit < items.length then
    some (word ++ toString (Offsets.next items offset limit)) else none

/-- `_group_list_dispatch`. -/
def groupListDispatch (st : Store) (req : Request) (params : Obj) : Result GroupPage := do
  let invalid : AwikiError := .invalidParams "group.local_cursor_invalid"
  let limit ← groupListLimit params
  let offset ← cursorOffset (params.get "cursor") "groups:" "group.local_cursor_invalid"
  require (0 ≤ offset) invalid
  let unpaged := (params.set "limit" (.int 100)).erase "cursor"
  let legacy ← groupList st req unpaged
  let hosted ← hostedGroupList st req unpaged
  let groups := (hosted ++ legacy).map withOwnStanding
  require (offset ≤ groups.length) invalid
  return {
    groups := Offsets.page groups offset.toNat limit
    total := groups.length
    hasMore := decide (Offsets.next groups offset.toNat limit < groups.length)
    nextCursor := nextCursor "groups:" groups offset.toNat limit }

/-! ### The members of a group -/

/-- Version 2 knows no handles. -/
def memberEntry (profile : WireProfile) (fields : Obj) : Obj :=
  if profile = .v2 then fields.without ["member_handle", "handle_binding_generation"] else fields

/-- A member of a hosted group in the list. -/
def hostedMemberEntry (profile : WireProfile) (m : HostedMember) : Obj :=
  memberEntry profile
    [("agent_did", .str m.agentDid), ("member_handle", textOrNull m.memberHandle),
      ("handle_binding_generation", textOrNull m.handleBindingGeneration),
      ("role", .str m.role.text), ("status", .str m.status.text), ("joined_at", .str m.joinedAt),
      ("added_by", textOrNull m.addedBy), ("member_did", .str m.agentDid)]

/-- A member of a projected group in the list. -/
def projectedMemberEntry (profile : WireProfile) (v : GroupMemberView) : Obj :=
  memberEntry profile
    [("owner_did", .str v.ownerDid), ("group_did", .str v.groupDid), ("agent_did", .str v.agentDid),
      ("member_handle", textOrNull v.memberHandle),
      ("handle_binding_generation", textOrNull v.handleBindingGeneration), ("role", .str v.role),
      ("status", .str v.status), ("joined_at", textOrNull v.joinedAt),
      ("updated_at", .str v.updatedAt), ("member_did", .str v.agentDid)]

/-- `dict(row)` of a member of a legacy group. -/
def LegacyMember.row (m : LegacyMember) : Obj :=
  [("group_did", .str m.groupDid), ("member_did", .str m.memberDid), ("role", .str m.role),
    ("joined_at", .str m.joinedAt)]

/-- `hosted_group_list_members`. -/
def hostedGroupListMembers (st : Store) (req : Request) (params : Obj) : Result (List Obj) := do
  let owner ← requiredDid req
  let groupDid ← requireText (params.get "group_did") "group_did_required"
  let group ← groupRow st groupDid none false
  let _ ← activeMember st groupDid owner
  let rows := (st.activeMembers groupDid).insertionSort fun a b ↦
    a.joinedAt < b.joinedAt ∨ a.joinedAt = b.joinedAt ∧ a.agentDid ≤ b.agentDid
  return rows.map (hostedMemberEntry group.wireProfile)

/-- The projection of an owner who is active. -/
def Store.activeView? (st : Store) (owner groupDid : String) : Option GroupView :=
  (st.groupView? owner groupDid).filter fun v ↦ decide (v.membershipStatus = .active)

/-- The order of a column in which `NULL` sorts first. -/
def nullsFirst : Option String → Option String → Bool
  | none, b => b.isSome
  | some a, some b => a < b
  | some _, none => false

/-- `projected_group_list_members`. -/
def projectedGroupListMembers (st : Store) (req : Request) (params : Obj) : Result (List Obj) := do
  let owner ← requiredDid req
  let groupDid ← requireText (params.get "group_did") "group_did_required"
  let view ← orRaise (.notFound "group.projection_not_found") (st.activeView? owner groupDid)
  let rows := (activeMemberViews st owner groupDid).insertionSort fun a b ↦
    nullsFirst a.joinedAt b.joinedAt ∨ a.joinedAt = b.joinedAt ∧ a.agentDid ≤ b.agentDid
  return rows.map (projectedMemberEntry view.wireProfile)

/-- The rows of the members of a legacy group. -/
def legacyMembers (st : Store) (groupDid : String) : List LegacyMember :=
  st.groupMembers.filter fun m ↦ decide (m.groupDid = groupDid)

/-- `group_members`, with the checks of `_require_group_member` in one connection. -/
def groupMembers (st : Store) (req : Request) (params : Obj) : Result (List Obj) := do
  let did ← requiredDid req
  let groupDid := params.get "group_did"
  require groupDid.truthy (.invalidParams "group_did_required")
  validateGroupLocalView params did groupDid
  let limit ← parseLocalViewLimit (params.get "limit") 100
  let groupDid ← bindTextNotNull req.outside.reprFloat groupDid
  require (st.groups.any fun g ↦ decide (g.groupDid = groupDid)) (.notFound "group_not_found")
  require (st.groupMembers.any fun m ↦ decide (m.key = (groupDid, did)))
    (.unauthorized "group.not_member")
  let rows := (legacyMembers st groupDid).insertionSort fun a b ↦ a.joinedAt ≤ b.joinedAt
  return (rows.take limit).map LegacyMember.row

/-- `is_hosted_group`. -/
def isHostedGroup (st : Store) (outside : Outside) (groupDid : Json) : Result Bool :=
  if groupDid.truthy then do
    let text ← bindTextNotNull outside.reprFloat groupDid
    return (st.hostedGroup? text).isSome
  else .ok false

/-- `has_group_projection`. -/
def hasGroupProjection (st : Store) (req : Request) (groupDid : Json) : Result Bool :=
  if groupDid.truthy then do
    let owner ← requiredDid req
    let text ← bindTextNotNull req.outside.reprFloat groupDid
    return (st.activeView? owner text).isSome
  else .ok false

/-- The members of a group, and what the answer says of where they come from. -/
structure MemberList where
  members : List Obj
  groupStateVersion : String
  source : GroupSource
  refresh : Option Obj := none

/-- `source` in the answer. -/
def GroupSource.listText : GroupSource → String
  | hosted => "hosted_projection"
  | projected => "remote_projection"
  | legacy => "legacy_local"

/-- The refresh of a projected roster in front of the list: its status, and the store after it. The
`answer` is the Host's, or what was raised on the way to it; an exception the server does not name
passes through. -/
def refreshStatus (st : Store) (req : Request) (groupDid : String) (answer : Result Obj) :
    Result (Obj × Store) :=
  let refresh : Result (Bool × Store) := do
    let result ← answer
    refreshRemoteGroupMembers st req groupDid result
  match refresh with
  | .ok (refreshed, st') =>
    .ok ([("status", .str (if refreshed then "refreshed" else "not_applied"))], st')
  | .error e =>
    if e.kind = .internal then .error e
    else .ok ([("status", .str "failed"), ("error", .str e.message)], st)

/-- The part of `_group_members_dispatch` that puts the list together. -/
def membersOfGroup (st : Store) (req : Request) (params : Obj) (answer : Result Obj) :
    Result (MemberList × Store) := do
  let allParams := params.set "limit" (.int 100)
  let groupDid := params.get "group_did"
  if ← isHostedGroup st req.outside groupDid then
    let members ← hostedGroupListMembers st req allParams
    let text ← bindTextNotNull req.outside.reprFloat groupDid
    let group ← orRaise (.type "'NoneType' object is not subscriptable") (st.hostedGroup? text)
    return ({
      members, groupStateVersion := toString group.groupStateVersion, source := .hosted }, st)
  else if ← hasGroupProjection st req groupDid then
    let named ← orRaise (.invalidParams "group_did_required") (groupDid.str?.filter (· ≠ ""))
    let (status, st) ← refreshStatus st req named answer
    let members ← projectedGroupListMembers st req allParams
    return ({ members, groupStateVersion := "1", source := .projected, refresh := some status }, st)
  else
    let members ← groupMembers st req allParams
    return ({ members, groupStateVersion := "1", source := .legacy }, st)

/-- A page of `group.list_members`. -/
structure MemberPage where
  groupDid : Json
  groupStateVersion : String
  members : List Obj
  total : ℕ
  hasMore : Bool
  source : GroupSource
  nextCursor : Option String
  refresh : Option Obj

/-- The answer it is sent as. -/
def MemberPage.document (page : MemberPage) : Obj :=
  [("group_did", page.groupDid), ("group_state_version", .str page.groupStateVersion),
    ("members", .arr (page.members.map Json.obj)), ("total", .int page.total),
    ("has_more", .bool page.hasMore), ("source", .str page.source.listText),
    ("warnings", .arr [])] ++
  (page.nextCursor.map fun cursor ↦ ("next_cursor", Json.str cursor)).toList ++
  (page.refresh.map fun status ↦ ("projection_refresh", Json.obj status)).toList

/-- `_group_members_dispatch`. -/
def groupMembersDispatch (st : Store) (req : Request) (params : Obj) (answer : Result Obj) :
    Result (MemberPage × Store) := do
  let (list, st) ← membersOfGroup st req params answer
  let limit ← parseLocalViewLimit (params.get "limit") 100
  let offset ← cursorOffset (params.get "cursor") "members:" "cursor_invalid"
  require (0 ≤ offset && offset ≤ list.members.length) (.invalidParams "cursor_invalid")
  return ({
    groupDid := params.get "group_did"
    groupStateVersion := list.groupStateVersion
    members := Offsets.page list.members offset.toNat limit
    total := list.members.length
    hasMore := decide (Offsets.next list.members offset.toNat limit < list.members.length)
    source := list.source
    nextCursor := nextCursor "members:" list.members offset.toNat limit
    refresh := list.refresh }, st)

end Awiki
