import AwikiOpenServer.Messaging.SyncContract
import AwikiOpenServer.Messaging.Groups.Delivery

/-!
# Projections of a group

What a member's Home keeps of a group: one `group_views` row per owner, the roster and the messages.
For the members that live on the Host itself the projection is rewritten after every event
(`refreshHostedLocalProjections`, `projectHostedMessageForLocalMembers`); for the members of a
remote group it is replaced from an authenticated snapshot of the Host
(`refreshRemoteMemberProjection`), which also records how far that snapshot reached.

## Values bound to columns

What comes over the network is JSON of any type, and is bound to columns of a declared type. SQLite
stores a number in a text column as its text, refuses containers, and has 64 bits for an integer
(`bindText`, `bindTextNotNull`, `bindInt`). The development uses these wherever the source binds a
value it has not checked: an id that is a number is then a text in the table, and is found again by
either.

## Upserts

`ON CONFLICT DO UPDATE` writes the columns it lists and keeps the others. For a view that is
refreshed these are the columns about observation, which say how far an authenticated snapshot has
reached, and for a roster row the time of joining. `refreshView` and the functions beside it are the
row that is left, given the old one.

A snapshot replaces the roster of an owner row by row, by a `DELETE` and as many `INSERT`s; a member
that is listed twice makes the second fail, and the transaction with it.
-/

namespace Awiki

open Py

/-! ### Values bound to text columns -/

/-- An integer bound to a parameter of a statement: SQLite has 64 bits for it. -/
def bindInt (n : ℤ) : Result ℤ :=
  if -2 ^ 63 ≤ n ∧ n < 2 ^ 63 then .ok n
  else .error (.value "Python int too large to convert to SQLite INTEGER")

/-- A document bound to a text column: numbers are stored as text and a NaN as NULL; containers are
refused, and integers that do not fit into 64 bits. -/
def bindText (reprFloat : PyFloat → String) : Json → Result (Option String)
  | .null => .ok none
  | .str s => .ok (some s)
  | .bool b => .ok (some (if b then "1" else "0"))
  | .int n => (bindInt n).map fun n ↦ some (toString n)
  | .float .nan => .ok none
  | .float x => .ok (some (reprFloat x))
  | _ => .error (.type "type is not supported")

/-- A document bound to a `NOT NULL` text column. -/
def bindTextNotNull (reprFloat : PyFloat → String) (v : Json) : Result String := do
  let text ← bindText reprFloat v
  orRaise (.integrity "NOT NULL constraint failed") text

/-- **What can be bound.** -/
theorem exists_bindText_iff {reprFloat : PyFloat → String} {v : Json} :
    (∃ text, bindText reprFloat v = .ok text) ↔ v.bindable = true := by
  cases v with
  | null => exact iff_of_true ⟨_, rfl⟩ rfl
  | bool b => exact iff_of_true ⟨_, rfl⟩ rfl
  | int n =>
    rw [bindText, bindInt, Json.bindable, decide_eq_true_eq]
    split
    · exact iff_of_true ⟨_, rfl⟩ ‹_›
    · exact iff_of_false (fun ⟨_, h⟩ ↦ nomatch h) ‹_›
  | float x => cases x <;> exact iff_of_true ⟨_, rfl⟩ rfl
  | str s => exact iff_of_true ⟨_, rfl⟩ rfl
  | arr l => exact iff_of_false (fun ⟨_, h⟩ ↦ nomatch h) Bool.false_ne_true
  | obj o => exact iff_of_false (fun ⟨_, h⟩ ↦ nomatch h) Bool.false_ne_true

/-- Whatever was bound can be bound. -/
theorem bindable_of_bindTextNotNull {reprFloat : PyFloat → String} {v : Json} {text : String}
    (h : bindTextNotNull reprFloat v = .ok text) : v.bindable = true := by
  obtain ⟨text, htext, -⟩ := bind_eq_ok.mp h
  exact exists_bindText_iff.mp ⟨text, htext⟩

/-- An integer is stored as its text. -/
theorem bindTextNotNull_int {reprFloat : PyFloat → String} {n : ℤ} {text : String}
    (h : bindTextNotNull reprFloat (.int n) = .ok text) : text = toString n := by
  obtain ⟨bound, hbound, htext⟩ := bind_eq_ok.mp h
  rw [bindText, bindInt] at hbound
  split at hbound
  · obtain rfl := Except.ok.inj hbound
    exact (Except.ok.inj htext).symm
  · cases hbound

/-- So is a number. -/
theorem bindTextNotNull_float {reprFloat : PyFloat → String} {x : PyFloat} {text : String}
    (h : bindTextNotNull reprFloat (.float x) = .ok text) : text = reprFloat x := by
  cases x with
  | nan => cases h
  | _ => exact (Except.ok.inj h).symm

/-- `int(value)` where nothing catches the exception. -/
def intOrRaise (v : Json) : Result ℤ :=
  match intOf v with
  | .ok n => .ok n
  | .error _ => .error (.value "invalid literal for int()")

/-! ### Members that live on the Host -/

/-- The `group_views` row of a local member of a hosted group. -/
def hostedView (group : HostedGroup) (owner : HostedMember) (updatedAt : String) : GroupView where
  ownerDid := owner.agentDid
  groupDid := group.groupDid
  hostServiceDid := group.hostServiceDid
  profile := group.profile
  policy := group.policy
  groupStateVersion := group.groupStateVersion
  groupEventSeq := group.groupEventSeq
  memberRole := owner.role.text
  membershipStatus := .active
  updatedAt := updatedAt
  wireProfile := group.wireProfile
  observedEventSeq := 0
  observedStateVersion := 0

/-- `ON CONFLICT DO UPDATE` of that row: the observation columns stay. -/
def refreshView (fresh old : GroupView) : GroupView :=
  { fresh with
    observedEventSeq := old.observedEventSeq
    observedStateVersion := old.observedStateVersion
    ownerDid := old.ownerDid
    groupDid := old.groupDid }

/-- The roster row of `member` in the view of `owner`. -/
def hostedMemberView (owner member : HostedMember) (updatedAt : String) : GroupMemberView where
  ownerDid := owner.agentDid
  groupDid := member.groupDid
  agentDid := member.agentDid
  memberHandle := member.memberHandle
  handleBindingGeneration := member.handleBindingGeneration
  role := member.role.text
  status := member.status.text
  joinedAt := some member.joinedAt
  updatedAt := updatedAt

/-- `refresh_hosted_local_projections`. -/
def refreshHostedLocalProjections (settings : Settings) (st : Store) (groupDid : String)
    (updatedAt : String) : Store :=
  match st.hostedGroup? groupDid with
  | none => st
  | some group =>
    let members := (st.hostedGroupMembers.filter fun m ↦ decide (m.groupDid = groupDid))
      |>.insertionSort fun a b ↦ a.joinedAt < b.joinedAt ∨ a.joinedAt = b.joinedAt ∧
        a.agentDid ≤ b.agentDid
    let localActive := members.filter fun m ↦
      decide (m.status = .active ∧ m.homeServiceDid = some settings.serviceDid)
    let views := localActive.foldl
      (fun views owner ↦
        let fresh := hostedView group owner updatedAt
        Table.upsert GroupView.key fresh (refreshView fresh) views)
      st.groupViews
    { st with
      groupViews := Table.updateWhere
        (fun v ↦ decide (v.groupDid = groupDid ∧ v.hostServiceDid = settings.serviceDid ∧
          ∀ m ∈ localActive, m.agentDid ≠ v.ownerDid))
        (fun v ↦ { v with membershipStatus := .inactive, updatedAt := updatedAt }) views
      groupMemberViews := localActive.foldl
        (fun rows owner ↦ members.foldl
          (fun rows member ↦
            let fresh := hostedMemberView owner member updatedAt
            Table.upsert GroupMemberView.key fresh (fun _ ↦ fresh) rows)
          rows)
        st.groupMemberViews }

/-- `project_hosted_message_for_local_members`. -/
def projectHostedMessageForLocalMembers (settings : Settings) (st : Store) (groupDid : String)
    (viewFor : String → GroupMessageView) : Store :=
  let owners := (st.activeMembers groupDid).filter fun m ↦
    decide (m.homeServiceDid = some settings.serviceDid)
  { st with
    groupMessageViews := owners.foldl
      (fun rows owner ↦
        let fresh := viewFor owner.agentDid
        if rows.any fun r ↦ decide (r.ownerDid = fresh.ownerDid ∧ r.groupDid = fresh.groupDid ∧
            (r.messageId = fresh.messageId ∨ r.groupEventSeq = fresh.groupEventSeq)) then rows
        else rows ++ [fresh])
      st.groupMessageViews }

/-- Only the projection tables are rewritten. -/
theorem refreshHostedLocalProjections_eq (settings : Settings) (st : Store)
    (groupDid updatedAt : String) :
    ∃ views memberViews, refreshHostedLocalProjections settings st groupDid updatedAt =
      { st with groupViews := views, groupMemberViews := memberViews } := by
  unfold refreshHostedLocalProjections
  cases st.hostedGroup? groupDid with
  | none => exact ⟨st.groupViews, st.groupMemberViews, rfl⟩
  | some group => exact ⟨_, _, rfl⟩

/-! ### Members of a remote group -/

/-- A roster row of an authenticated snapshot. -/
def snapshotMemberView (reprFloat : PyFloat → String) (ownerDid groupDid updatedAt : String)
    (member : Json) : Result GroupMemberView := do
  let m ← orRaise (.type "member is not a mapping") member.obj?
  let agentDid ← bindTextNotNull reprFloat (Obj.get m "member_did")
  let memberHandle ← bindText reprFloat (Obj.get m "member_handle")
  let generation ← bindText reprFloat (Obj.get m "handle_binding_generation")
  let role ← bindTextNotNull reprFloat (Obj.get m "role")
  let status ← bindTextNotNull reprFloat (Obj.get m "status")
  let joinedAt ← bindText reprFloat (Obj.get m "joined_at")
  return {
    ownerDid := ownerDid
    groupDid := groupDid
    agentDid := agentDid
    memberHandle := memberHandle
    handleBindingGeneration := generation
    role := role
    status := status
    joinedAt := joinedAt
    updatedAt := updatedAt }

/-- Insert the roster rows one by one; a repeated member violates the primary key. -/
def insertMemberViews (reprFloat : PyFloat → String) (ownerDid groupDid updatedAt : String) :
    List Json → List GroupMemberView → Result (List GroupMemberView)
  | [], rows => .ok rows
  | member :: rest, rows => do
    let row ← snapshotMemberView reprFloat ownerDid groupDid updatedAt member
    let rows ← orRaise (.integrity "group_member_views")
      (Table.insert? GroupMemberView.key row rows)
    insertMemberViews reprFloat ownerDid groupDid updatedAt rest rows

/-- The view after a refresh, by the version pair the snapshot carries. -/
def refreshedView (existing : GroupView) (snapshot : Obj) (stateVersion eventSeq : ℤ)
    (memberRole : String) (wireProfile : WireProfile) (hostServiceDid updatedAt : String) :
    GroupView :=
  { existing with
    hostServiceDid := hostServiceDid
    profile := (snapshot.get "group_profile").obj?.getD existing.profile
    policy := (snapshot.get "group_policy").obj?.getD existing.policy
    groupStateVersion := stateVersion
    groupEventSeq := eventSeq
    memberRole := memberRole
    membershipStatus := .active
    updatedAt := updatedAt
    wireProfile := wireProfile
    observedEventSeq := eventSeq
    observedStateVersion := stateVersion }

/-- `int(snapshot.get("group_event_seq", existing["group_event_seq"]))`. -/
def snapshotEventSeq (snapshot : Obj) (existing : GroupView) : Result ℤ :=
  match snapshot.lookup "group_event_seq" with
  | some v => intOrRaise v
  | none => .ok existing.groupEventSeq

/-- `refresh_remote_member_projection`: replace a remote roster from an authenticated snapshot.
`wireProfile` is the profile the caller has put into the snapshot. -/
def refreshRemoteMemberProjection (st : Store) (reprFloat : PyFloat → String) (ownerDid : String)
    (snapshot : Obj) (wireProfile : WireProfile) (updatedAt : String) : Result (Bool × Store) := do
  let groupDid ← orRaise (.key "group_did") (snapshot.get "group_did").str?
  match (st.groupView? ownerDid groupDid).filter fun v ↦ decide (v.membershipStatus = .active) with
  | none => return (false, st)
  | some existing =>
    let stateVersion ← intOrRaise (snapshot.get "group_state_version")
    let eventSeq ← snapshotEventSeq snapshot existing
    if stateVersion < existing.groupStateVersion ∨ eventSeq < existing.groupEventSeq then
      return (false, st)
    else
      let members ← orRaise (.key "member_list") (snapshot.get "member_list").arr?
      let owner ← orRaise (.value "StopIteration") (members.findSome? fun m ↦
        m.obj?.filter fun o ↦ (Obj.get o "member_did").isStr ownerDid)
      let memberRole ← bindTextNotNull reprFloat (Obj.get owner "role")
      let hostServiceDid := ((snapshot.get "host_service_did").str?.filter (· ≠ "")).getD
        existing.hostServiceDid
      let fresh := refreshedView existing snapshot stateVersion eventSeq memberRole wireProfile
        hostServiceDid updatedAt
      let rows ← insertMemberViews reprFloat ownerDid groupDid updatedAt members
        (st.groupMemberViews.filter fun r ↦ !decide (r.ownerDid = ownerDid ∧ r.groupDid = groupDid))
      let refreshed : Store :=
        { st with
          groupViews := Table.updateWhere (fun v ↦ decide (v.key = (ownerDid, groupDid)))
            (fun _ ↦ fresh) st.groupViews
          groupMemberViews := rows }
      -- A local observation, not a fabricated Host event: freeze the authenticated view for sync.
      if eventSeq > existing.observedEventSeq ∨ stateVersion > existing.observedStateVersion then
        return (true, addSyncEvent refreshed ownerDid "group.projection_refreshed"
          [("group_did", .str groupDid)] updatedAt)
      else return (true, refreshed)

end Awiki
