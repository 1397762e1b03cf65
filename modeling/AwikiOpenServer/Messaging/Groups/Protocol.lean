import AwikiOpenServer.Shared.Runtime

/-!
# Group protocol versions

A group speaks one of two base profiles. `validate_v2_shape` refuses, for a version 2 request, every
member that belongs to Handle identity or to device addressing; `require_group_protocol` refuses a
request in the other version and, while a group is being migrated, every write.

Both are called before anything is read from the database. Only structures that the protocol owns
are inspected: the body of a message may have whatever members it likes. Membership of a set is
asked of values of any type, and raises for those that cannot be hashed (`inSet`).
-/

namespace Awiki

open Py

/-- The members about Handles. -/
def HANDLE_FIELDS : List String :=
  ["member_handle", "creator_handle", "subject_handle", "handle_binding_generation",
    "binding_generation", "member_home_service_did", "wns", "wns_name"]

/-- The members about devices. -/
def DEVICE_FIELDS : List String :=
  ["device_id", "device_ids", "devices", "sender_device_id", "recipient_device_id",
    "recipient_device_ids", "member_device_id", "member_device_ids", "device_selector",
    "device_selectors", "device_list"]

/-- `value in names` for a set of strings: an unhashable value is a `TypeError`. -/
def inSet (v : Json) (names : List String) : Result Bool :=
  if v.hashable then .ok (names.any fun n ↦ v.isStr n) else .error (.type "unhashable type")

/-- Some key of `o` is among `names`. -/
def hasAny (o : Obj) (names : List String) : Bool := names.any fun n ↦ o.has n

/-- A base profile, when the value names one. -/
def baseProfile (v : Json) : Option WireProfile := v.str?.bind WireProfile.ofText?

/-- A `did:` string, as version 2 requires of member identifiers. -/
def isDidText (v : Json) : Bool :=
  match v with
  | .str s => startsWith "did:" s
  | _ => false

/-- The check of one initial member of a version 2 create. -/
def validateV2InitialMember (member : Json) : Result Unit := do
  let m ← orRaise (.invalidParams "group.v2_initial_member_invalid") member.obj?
  require ((m.map Prod.fst).all fun k ↦ ["member_did", "role"].contains k)
    (.invalidParams "group.v2_initial_member_invalid")
  require (isDidText (m.get "member_did")) (.invalidParams "group.member_did_required")
  let known ← inSet (m.getD "role" (.str "member")) ["member", "admin"]
  require known (.invalidParams "group.role_invalid")

/-- `validate_v2_shape`. Only protocol-owned structures are inspected: an application payload may
hold a field named `device_id`. -/
def validateV2Shape (method : GroupMethod) (metaObj body : Obj) : Result Unit :=
  if baseProfile (metaObj.get "profile") ≠ some .v2 then .ok ()
  else do
    require (method ≠ .rebindMember) (.notSupported "group.method_not_supported_in_v2")
    require (!hasAny body HANDLE_FIELDS) (.invalidParams "group.v2_handle_identity_not_allowed")
    let structures :=
      metaObj :: body :: ((metaObj.get "target").obj?.toList ++
        ["group_policy", "group_policy_patch", "group_profile", "group_profile_patch",
          "group_receipt"].filterMap fun field ↦ (body.get field).obj?)
    require (match body.get "group_receipt" with
        | .obj receipt => (Obj.get receipt "e2ee").isNull
        | _ => true)
      (.notSupported "group.e2ee_not_supported")
    require (!structures.any fun item ↦ hasAny item DEVICE_FIELDS)
      (.invalidParams "group.v2_device_selector_not_allowed")
    require (!(method = .join && body.has "member_did"))
      (.invalidParams "group.v2_join_uses_authenticated_did")
    if method = .create then
      let members ← orRaise (.invalidParams "group.initial_members_invalid")
        (body.getD "initial_members" (.arr [])).arr?
      members.forM validateV2InitialMember
    if method = .add ∨ method = .remove then
      require (isDidText (body.get "member_did")) (.invalidParams "group.member_did_required")
    if method = .add then
      let known ← inSet (body.getD "role" (.str "member")) ["member", "admin"]
      require known (.invalidParams "group.role_invalid")

/-- `require_group_protocol`; `profile` is the request's base profile, if it names one. -/
def requireGroupProtocol (group : HostedGroup) (profile : Option WireProfile) (writing : Bool) :
    Result Unit := do
  require (profile.all (· = group.wireProfile))
    (.notSupported "group.protocol_mismatch"
      [("required_profile", .str group.wireProfile.text)])
  require (!(writing && group.protocolState = .quiescing))
    (.notSupported "group.protocol_upgrade_in_progress")

/-- `discovered_group_profile`: the one base profile a discovered service declares. -/
def discoveredGroupProfile (service : Obj) : Result WireProfile :=
  let declared := ((service.getD "profiles" (.arr [])).arr?.getD []).filterMap baseProfile
  match [WireProfile.v1, WireProfile.v2].filter fun p ↦ declared.contains p with
  | [profile] => .ok profile
  | _ => .error (.invalidParams "group.discovery_profile_ambiguous")

end Awiki
