import AwikiOpenServer.Shared.Runtime

/-!
# The per-owner sync log

Every change an owner's client must learn of is appended to that owner's log. A group event freezes,
under `_sync_group`, the group as the owner saw it when the event was appended: from the hosted
group, else from the owner's projection, else from a legacy group.

`add_sync_event` is called by every handler that changes something a client sees, always inside of
the transaction that makes the change, and so under the write lock. It reads the highest number of
the owner, puts the group into the payload, and inserts the row. Three statements, and one function
of the store here: nothing of another connection is between them.

What a number is good for, and what the log of an owner looks like after any run of the server, is
the subject of `Messaging/SyncLog.lean` and `Messaging/LogWriters.lean`.
-/

namespace Awiki

open Py

/-- A nullable text column as a document. -/
def textOrNull : Option String → Json
  | some s => .str s
  | none => .null

/-- `host_service_did_for_group`: the first three parts of a DID. -/
def hostServiceDidForGroup (groupDid : String) : String :=
  let parts := splitChars ':' groupDid.toList
  if 3 ≤ parts.length ∧ parts.headD [] = "did".toList then
    String.ofList (List.intercalate [':'] (parts.take 3))
  else groupDid

/-- `group_snapshot`: the group as `owner` sees it now. -/
def groupSnapshot (st : Store) (owner groupDid : String) : Option Obj :=
  match st.hostedGroup? groupDid with
  | some g =>
    let member := st.hostedMember? groupDid owner
    some [("group_did", .str groupDid), ("host_service_did", .str g.hostServiceDid),
      ("creator_did", .str g.creatorDid),
      ("group_state_version", .str (toString g.groupStateVersion)),
      ("group_event_seq", .str (toString g.groupEventSeq)),
      ("required_security_profile", .str "transport-protected"), ("group_profile", .obj g.profile),
      ("member_role", .str ((member.map (·.role.text)).getD "member")),
      ("membership_status", .str ((member.map (·.status.text)).getD "removed")),
      ("member_count", .str (toString (st.activeMembers groupDid).length)),
      ("updated_at", .str g.updatedAt)]
  | none =>
    match st.groupView? owner groupDid with
    | some v =>
      let count := (st.groupMemberViews.filter fun m ↦
        decide (m.ownerDid = owner ∧ m.groupDid = groupDid ∧ m.status = "active")).length
      some [("group_did", .str groupDid), ("host_service_did", .str v.hostServiceDid),
        ("creator_did", .null), ("group_state_version", .str (toString v.groupStateVersion)),
        ("group_event_seq", .str (toString v.groupEventSeq)),
        ("required_security_profile", .str "transport-protected"),
        ("group_profile", .obj v.profile),
        ("member_role", .str (if v.memberRole = "" then "member" else v.memberRole)),
        ("membership_status", .str v.membershipStatus.text),
        ("member_count", .str (toString count)), ("updated_at", .str v.updatedAt)]
    | none =>
      match Table.row? LegacyGroup.groupDid groupDid st.groups with
      | none => none
      | some legacy =>
        let role := (st.groupMembers.find? fun m ↦
          decide (m.groupDid = groupDid ∧ m.memberDid = owner)).bind fun m ↦
            if m.role = "" then none else some m.role
        let count := (st.groupMembers.filter fun m ↦ decide (m.groupDid = groupDid)).length
        some [("group_did", .str groupDid),
          ("host_service_did", .str (hostServiceDidForGroup groupDid)), ("creator_did", .null),
          ("group_state_version", .str "1"), ("group_event_seq", .str "0"),
          ("required_security_profile", .str "transport-protected"),
          ("group_profile", .obj [("display_name", .str legacy.displayName),
            ("description", textOrNull legacy.description)]),
          ("member_role", .str (role.getD "member")),
          ("membership_status", .str (if role.isSome then "active" else "removed")),
          ("member_count", .str (toString count)), ("updated_at", .str legacy.createdAt)]

/-- `SELECT COALESCE(MAX(event_seq), 0) + 1 FROM sync_events WHERE owner_did = ?`. -/
def nextSyncSeq (st : Store) (owner : String) : ℕ :=
  ((st.syncEvents.filter fun e ↦ decide (e.ownerDid = owner)).map
    SyncEvent.eventSeq).foldr max 0 + 1

/-- The payload `add_sync_event` stores: a group event that is not about a message carries the
owner's current view of the group. -/
def syncPayload (st : Store) (owner eventType : String) (payload : Obj) : Obj :=
  if startsWith "group." eventType && !startsWith "group.message." eventType then
    match payload.get "group_did" with
    | .str groupDid =>
      match groupSnapshot st owner groupDid with
      | some snapshot => payload.set "_sync_group" (.obj snapshot)
      | none => payload
    | _ => payload
  else payload

/-- `add_sync_event`. -/
def addSyncEvent (st : Store) (owner eventType : String) (payload : Obj) (now : String) : Store :=
  { st with
    syncEvents := st.syncEvents ++ [{
      eventId := newId "sev" st.issued
      ownerDid := owner
      eventSeq := nextSyncSeq st owner
      eventType := eventType
      payload := syncPayload st owner eventType payload
      createdAt := now }]
    issued := st.issued + 1 }

end Awiki
