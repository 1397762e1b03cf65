import AwikiOpenServer.Messaging.Groups.Outbox

/-!
# Migrating a group to version 2

An operator moves a hosted group from `anp.group.base.v1` to `anp.group.base.v2` in two commands.
`prepare_group` checks the plan the operator has inspected, stops the writers of the group
(`quiescing`) and takes a backup; `apply_group` checks everything again and switches. `cancel_group`
gives the group back to its writers.

No command is one transaction. `prepare_group` writes, copies files and writes again; `apply_group`
reads, asks the Homes of all remote members and writes. What one half hands to the other is a
`MigrationTask`; between the halves anything else may run, further migrations included. The files,
the keys and the Homes are outside (`MigrationOutside`), and so is the digest.

## The plan

What an operator inspects is summed up in a digest: the group with its profile, policy and version
pair, its document, the fingerprint of its key, the roster, and its rows of the outbox.
`MigrationAnchor` is what the digest is taken of, and `inspectGroup` how it is put together from the
store and the outside. Each of the commands is given the digest the operator has seen, and refuses
to go on when the group comes to another one now.

A digest may be of two plans, and nothing is assumed about it. What is proved about a migration is
therefore about what was inspected and not about its digest (`Messaging/Groups/Cutover.lean`).

## Steps

`ServerStep` is one step of a server with its operators: a step of the Host, the first half of a
command, or a second half that is under way. A half that fails leaves the store alone, and is no
step. A second half may run at any time after its first, and it is not assumed that it runs once:
what it finds decides whether it goes on. The rest of the server writes no head of a group and no
migration record (`Store.KeepsHosting`).
-/

namespace Awiki

open Py

/-! ### The plan -/

/-- What the plan digest of `_inspect` is taken of. -/
structure MigrationAnchor where
  groupDid : String
  hostServiceDid : String
  wireProfile : WireProfile
  documentVersion : ℕ
  document : Obj
  keyFingerprint : String
  roster : List HostedMember
  profile : Obj
  policy : Obj
  groupStateVersion : ℕ
  groupEventSeq : ℕ
  /-- The delivery id and the envelope of every outbox row. -/
  deliveries : List (String × Obj)

/-- The answers from outside that one half of a command uses. -/
structure MigrationOutside where
  now : String
  /-- Loads the group key and checks it against the document; the fingerprint. -/
  groupKey : String → Obj → String → Result String
  signDidDocument : Obj → Result Obj
  /-- `_verify_backup`, of the manifest and its digest. -/
  verifyBackup : String × String → Result Unit
  /-- `_require_peer_v2`. -/
  requirePeerV2 : String → Result Unit

/-- The message services a DID document declares. -/
def messageServices (document : Obj) : List Obj :=
  ((document.get "service").arr?.getD []).filterMap fun s ↦
    s.obj?.filter fun o ↦ (Obj.get o "type").isStr "ANPMessageService"

/-- `_group_material`: the group, its document and the fingerprint of its key. -/
def groupMaterial (settings : Settings) (out : MigrationOutside) (st : Store) (groupDid : String) :
    Result (HostedGroup × GroupDidDocument × String) := do
  let group ← orRaise (.invalidParams "group.migration_not_owned") (st.hostedGroup? groupDid)
  let document ← orRaise (.invalidParams "group.migration_not_owned")
    (Table.row? GroupDidDocument.groupDid groupDid st.groupDidDocuments)
  require (group.hostServiceDid = settings.serviceDid)
    (.invalidParams "group.migration_not_owned")
  let fingerprint ← out.groupKey document.keyReference document.document groupDid
  require (match messageServices document.document with
      | [service] => (Obj.get service "serviceDid").isStr settings.serviceDid
      | _ => false)
    (.invalidParams "group.migration_service_binding_invalid")
  return (group, document, fingerprint)

/-- The outbox rows of a group, in the order of the inventory. -/
def deliveriesOf (st : Store) (groupDid : String) : List OutboxRow :=
  (st.groupDeliveryOutbox.filter fun r ↦ decide (r.groupDid = groupDid)).insertionSort
    fun a b ↦ a.deliveryId ≤ b.deliveryId

/-- The anchor of a group, given its material. -/
def anchorOf (st : Store) (group : HostedGroup) (document : GroupDidDocument)
    (fingerprint : String) : MigrationAnchor where
  groupDid := group.groupDid
  hostServiceDid := group.hostServiceDid
  wireProfile := group.wireProfile
  documentVersion := document.documentVersion
  document := document.document
  keyFingerprint := fingerprint
  roster :=
    (st.hostedGroupMembers.filter fun m ↦ decide (m.groupDid = group.groupDid)).insertionSort
    fun a b ↦ a.agentDid ≤ b.agentDid
  profile := group.profile
  policy := group.policy
  groupStateVersion := group.groupStateVersion
  groupEventSeq := group.groupEventSeq
  deliveries := (deliveriesOf st group.groupDid).map fun r ↦ (r.deliveryId, r.envelope)

/-- `_inspect`: the group and its anchor. -/
def inspectGroup (settings : Settings) (out : MigrationOutside) (st : Store) (groupDid : String) :
    Result (HostedGroup × MigrationAnchor) := do
  let (group, document, fingerprint) ← groupMaterial settings out st groupDid
  return (group, anchorOf st group document fingerprint)

/-! ### The commands -/

/-- Rewrite the row of a group. -/
def Store.rewriteGroup (st : Store) (groupDid : String) (f : HostedGroup → HostedGroup) : Store :=
  { st with
    hostedGroups := Table.updateWhere (fun g ↦ decide (g.groupDid = groupDid)) f st.hostedGroups }

/-- The migration record of a group. -/
def Store.migration? (st : Store) (groupDid : String) : Option GroupProtocolMigration :=
  Table.row? GroupProtocolMigration.groupDid groupDid st.groupProtocolMigrations

section Commands

variable (digest : MigrationAnchor → String) (settings : Settings) (out : MigrationOutside)
  (st : Store) (groupDid expected : String)

/-- `prepare_group` up to the backup: the preparation it has begun, or none if one is complete. -/
def prepareBegin : Result (Option String × Store) := do
  let preparationId := newId "gpm" st.issued
  let (_, anchor) ← inspectGroup settings out st groupDid
  require (anchor.wireProfile = .v1 && digest anchor = expected)
    (.conflict "group.migration_plan_changed")
  match (st.migration? groupDid).filter fun r ↦
      decide (r.state = .prepared ∧ r.planDigest = expected ∧ r.backup.isSome) with
  | some record =>
    record.backup.forM out.verifyBackup
    return (none, st)
  | none =>
    let document ← orRaise (.type "'NoneType' object is not subscriptable")
      (Table.row? GroupDidDocument.groupDid groupDid st.groupDidDocuments)
    let record : GroupProtocolMigration :=
      { groupDid := groupDid, planDigest := expected, state := .preparing,
        preparationId := preparationId, documentBefore := document.document, backup := none,
        preparedAt := out.now, appliedAt := none }
    let st := st.rewriteGroup groupDid fun g ↦ { g with protocolState := .quiescing }
    return (some preparationId, { st with
      groupProtocolMigrations := Table.upsert GroupProtocolMigration.groupDid record
        (fun _ ↦ record) st.groupProtocolMigrations
      issued := st.issued + 1 })

/-- `prepare_group` after the backup. -/
def prepareFinish (preparationId : String) (backup : String × String) : Result Store := do
  let (group, anchor) ← inspectGroup settings out st groupDid
  require (digest anchor = expected && group.protocolState = .quiescing)
    (.conflict "group.migration_plan_changed")
  require ((st.migration? groupDid).any fun r ↦
      decide (r.planDigest = expected ∧ r.preparationId = preparationId ∧ r.state = .preparing))
    (.conflict "group.migration_preparation_changed")
  return { st with
    groupProtocolMigrations := Table.updateWhere
      (fun r ↦ decide (r.groupDid = groupDid ∧ r.planDigest = expected ∧
        r.preparationId = preparationId ∧ r.state = .preparing))
      (fun r ↦ { r with state := .prepared, backup := some backup }) st.groupProtocolMigrations }

/-- `apply_group` up to its transaction: the record it has seen, or none if it was applied. -/
def applyBegin : Result (Option GroupProtocolMigration) := do
  let record ← orRaise (.conflict "group.migration_plan_changed")
    ((st.migration? groupDid).filter fun r ↦ decide (r.planDigest = expected))
  if record.state = .applied then
    let (group, _, _) ← groupMaterial settings out st groupDid
    require (group.wireProfile = .v2 && group.protocolState = .active)
      (.conflict "group.migration_state_inconsistent")
    return none
  else
    require (record.state = .prepared && record.backup.isSome)
      (.conflict "group.migration_not_prepared")
    record.backup.forM out.verifyBackup
    (remoteMembers settings st groupDid).forM fun m ↦ out.requirePeerV2 m.agentDid
    return some record

/-- A service entry with version 2 in the place of version 1. -/
def upgradeService (service : Json) : Result Json := do
  let s ← orRaise (.type "service is not a mapping") service.obj?
  if (Obj.get s "type").isStr "ANPMessageService" then
    let declared ← orRaise (.key "profiles") (Obj.get s "profiles").arr?
    let profiles := declared.map fun p ↦
      if p.isStr WireProfile.v1.text then .str WireProfile.v2.text else p
    require (profiles.any fun p ↦ p.isStr WireProfile.v2.text)
      (.invalidParams "group.migration_document_profile_invalid")
    return .obj (Obj.set s "profiles" (.arr profiles))
  else return service

/-- The transaction of `apply_group`. -/
def applyFinish (record : GroupProtocolMigration) : Result Store := do
  let latest ← orRaise (.conflict "group.migration_preparation_changed") (st.migration? groupDid)
  require (latest.state = .prepared && latest.preparationId = record.preparationId &&
      latest.backup.map Prod.snd = record.backup.map Prod.snd)
    (.conflict "group.migration_preparation_changed")
  let (group, anchor) ← inspectGroup settings out st groupDid
  require (group.protocolState = .quiescing && digest anchor = expected)
    (.conflict "group.migration_plan_changed")
  require ((deliveriesOf st groupDid).all fun r ↦ r.status = .delivered)
    (.conflict "group.migration_outbox_not_drained")
  let (_, document, _) ← groupMaterial settings out st groupDid
  let services ← orRaise (.key "service") (document.document.get "service").arr?
  let upgraded ← services.mapM upgradeService
  let signed ← out.signDidDocument (document.document.set "service" (.arr upgraded))
  let st := { st with
    groupDidDocuments := Table.updateWhere (fun d ↦ decide (d.groupDid = groupDid))
      (fun d ↦ { d with document := signed, documentVersion := d.documentVersion + 1 })
      st.groupDidDocuments
    didDocuments := Table.updateWhere (fun d ↦ decide (d.did = groupDid))
      (fun d ↦ { d with document := .obj signed, updatedAt := out.now }) st.didDocuments }
  let st := st.rewriteGroup groupDid fun g ↦ { g with wireProfile := .v2, protocolState := .active }
  let st := refreshHostedLocalProjections settings st groupDid out.now
  return { st with
    groupProtocolMigrations := Table.updateWhere
      (fun r ↦ decide (r.groupDid = groupDid ∧ r.planDigest = expected))
      (fun r ↦ { r with state := .applied, appliedAt := some out.now })
      st.groupProtocolMigrations }

/-- `cancel_group`. -/
def cancelGroup : Result Store := do
  require ((st.migration? groupDid).any fun r ↦
      decide (r.planDigest = expected ∧ r.state ≠ .applied))
    (.conflict "group.migration_cancel_rejected")
  let st := { st with
    hostedGroups := Table.updateWhere
      (fun g ↦ decide (g.groupDid = groupDid ∧ g.wireProfile = WireProfile.v1))
      (fun g ↦ { g with protocolState := .active }) st.hostedGroups }
  return { st with
    groupProtocolMigrations := Table.updateWhere (fun r ↦ decide (r.groupDid = groupDid))
      (fun r ↦ { r with state := .cancelled }) st.groupProtocolMigrations }

end Commands

/-! ### The server with its operators -/

/-- The second half of a command that has run its first. -/
inductive MigrationTask where
  | prepare (groupDid expected preparationId : String)
  | apply (groupDid expected : String) (record : GroupProtocolMigration)

/-- The Host and the commands under way. -/
structure ServerWorld where
  host : HostWorld
  tasks : List MigrationTask

/-- What may happen next: a step of the Host, or half a command. -/
inductive ServerAction where
  | host (a : HostAction)
  | prepareBegin (groupDid expected : String)
  | prepareFinish (groupDid : String)
  | applyBegin (groupDid expected : String)
  | applyFinish (groupDid : String)
  | cancel (groupDid expected : String)

/-- The rest of the server writes no migration record, no group document and no projection of a
group of this domain: the projections it keeps are of groups other services host. -/
structure Store.KeepsHosting (settings : Settings) (st st' : Store) : Prop where
  groupProtocolMigrations : st'.groupProtocolMigrations = st.groupProtocolMigrations
  groupDidDocuments : st'.groupDidDocuments = st.groupDidDocuments
  groupViews : Table.SameOn (fun v ↦ didBelongsToDomain v.groupDid settings.didDomain)
    st.groupViews st'.groupViews
  groupMemberViews : Table.SameOn (fun r ↦ didBelongsToDomain r.groupDid settings.didDomain)
    st.groupMemberViews st'.groupMemberViews

/-- The world with another store. -/
def ServerWorld.withStore (w : ServerWorld) (st : Store) : ServerWorld :=
  { w with host := { w.host with store := st } }

/-- **One step of the server.** A command that fails leaves the store as it was. -/
inductive ServerStep (digest : MigrationAnchor → String) (settings : Settings) :
    ServerWorld → ServerAction → ServerWorld → Prop where
  | host {w : ServerWorld} {a : HostAction} {host' : HostWorld}
      (hstep : HostStep settings w.host a host')
      (helsewhere : ∀ st, a = .elsewhere st → w.host.store.KeepsHosting settings st) :
      ServerStep digest settings w (.host a) { w with host := host' }
  | prepareBegin {w : ServerWorld} {out : MigrationOutside} {groupDid expected : String}
      {begun : Option String} {st' : Store}
      (h : prepareBegin digest settings out w.host.store groupDid expected = .ok (begun, st')) :
      ServerStep digest settings w (.prepareBegin groupDid expected)
        { (w.withStore st') with
          tasks := w.tasks ++ begun.toList.map (MigrationTask.prepare groupDid expected) }
  | prepareFinish {w : ServerWorld} {out : MigrationOutside} {groupDid expected : String}
      {preparationId : String} {backup : String × String} {st' : Store}
      (htask : .prepare groupDid expected preparationId ∈ w.tasks)
      (h : prepareFinish digest settings out w.host.store groupDid expected preparationId backup =
        .ok st') :
      ServerStep digest settings w (.prepareFinish groupDid) (w.withStore st')
  | applyBegin {w : ServerWorld} {out : MigrationOutside} {groupDid expected : String}
      {begun : Option GroupProtocolMigration}
      (h : applyBegin settings out w.host.store groupDid expected = .ok begun) :
      ServerStep digest settings w (.applyBegin groupDid expected)
        { w with tasks := w.tasks ++ begun.toList.map (MigrationTask.apply groupDid expected) }
  | applyFinish {w : ServerWorld} {out : MigrationOutside} {groupDid expected : String}
      {record : GroupProtocolMigration} {st' : Store}
      (htask : .apply groupDid expected record ∈ w.tasks)
      (h : applyFinish digest settings out w.host.store groupDid expected record = .ok st') :
      ServerStep digest settings w (.applyFinish groupDid) (w.withStore st')
  | cancel {w : ServerWorld} {groupDid expected : String} {st' : Store}
      (h : cancelGroup w.host.store groupDid expected = .ok st') :
      ServerStep digest settings w (.cancel groupDid expected) (w.withStore st')

end Awiki
