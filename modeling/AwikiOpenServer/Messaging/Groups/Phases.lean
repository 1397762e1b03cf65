import AwikiOpenServer.Messaging.Groups.ProjectionAgreement
import AwikiOpenServer.Messaging.LogWriters

/-!
# The phases of a migration

`prepare_group`, `apply_group` and `cancel_group` take a hosted group from version 1 to version 2 or
give it back. Each is several transactions with files and other services in between, and everything
else goes on meanwhile. What they are for is a machine with four phases, `Phase`: a group is served,
then **fenced** for one preparation, then migrated. The phase is read off the head of the group and
its migration record (`phaseOf`).

`CutoverStep` says once what a step of the server can do to one group, hosted calls and drains
included.

## The machine

`PhaseStep` is the machine on its own: which action takes which phase to which. It is an abstract
model, written from what a migration is for and not from the code, and the refinement is in
`Messaging/Groups/Cutover.lean`. A head and a record that fit no phase are possible as data, for
instance a group of version 2 with a preparation under way; that no reachable state has them is part
of what is proved.

## One group at a time

Commands name their group, and a hosted call has one, so a step is looked at through one group:
either it is another group's, and nothing an inspection reads of this one has changed (`SamePlan`),
or it is one of the few things that can happen to the group itself. `CutoverStep` has a constructor
for each, with the head and the record before and after, and `ServerStep.cutoverStep` is the case
analysis. The results about fences and plans are then about these constructors.

An inspection reads the head, the document, the roster and the outbox of a group. Hosted calls write
no documents, which is a lemma for each function they are made of; the rest follows from what an
`Advance` says (`hostedCall_group`).
-/

namespace Awiki

open Py Runs

/-! ### Phases -/

/-- Where a group is on its way to version 2. -/
inductive Phase where
  /-- There is no such group. -/
  | absent
  | serving (profile : WireProfile)
  /-- Its writers are stopped for this preparation. -/
  | fenced (preparationId : String) (backedUp : Bool)
  | migrated
  deriving DecidableEq, Repr

/-- The phase a head and a migration record stand for, if they fit together. -/
def phaseOf : Option HostedGroup → Option GroupProtocolMigration → Option Phase
  | none, none => some .absent
  | none, some _ => none
  | some g, none => if g.protocolState = .active then some (.serving g.wireProfile) else none
  | some g, some r =>
    match r.state with
    | .cancelled =>
      if g.protocolState = .active ∧ g.wireProfile = .v1 then some (.serving .v1) else none
    | .preparing =>
      if g.protocolState = .quiescing ∧ g.wireProfile = .v1 then
        some (.fenced r.preparationId false)
      else none
    | .prepared =>
      if g.protocolState = .quiescing ∧ g.wireProfile = .v1 ∧ r.backup.isSome then
        some (.fenced r.preparationId true)
      else none
    | .applied =>
      if g.protocolState = .active ∧ g.wireProfile = .v2 then some .migrated else none

/-- The phase of a group. -/
def Store.phase? (st : Store) (groupDid : String) : Option Phase :=
  phaseOf (st.hostedGroup? groupDid) (st.migration? groupDid)

/-- **The machine**, as one group sees it: what an action may do to its phase. -/
inductive PhaseStep (groupDid : String) : Phase → ServerAction → Phase → Prop
  | stay (phase : Phase) (a : ServerAction) : PhaseStep groupDid phase a phase
  | create (c : HostedCall) (profile : WireProfile) :
      PhaseStep groupDid .absent (.host (.call c)) (.serving profile)
  | fence (expected preparationId : String) :
      PhaseStep groupDid (.serving .v1) (.prepareBegin groupDid expected)
        (.fenced preparationId false)
  /-- A preparation that was begun again starts over. -/
  | refence (expected before after : String) (backedUp : Bool) :
      PhaseStep groupDid (.fenced before backedUp) (.prepareBegin groupDid expected)
        (.fenced after false)
  | backUp (preparationId : String) :
      PhaseStep groupDid (.fenced preparationId false) (.prepareFinish groupDid)
        (.fenced preparationId true)
  | apply (preparationId : String) :
      PhaseStep groupDid (.fenced preparationId true) (.applyFinish groupDid) .migrated
  | cancel (expected preparationId : String) (backedUp : Bool) :
      PhaseStep groupDid (.fenced preparationId backedUp) (.cancel groupDid expected) (.serving .v1)

/-- **What an inspection reads of a group**, and its log, are the same in the two stores. Deliveries
may have been attempted. -/
structure SamePlan (groupDid : String) (st st' : Store) : Prop where
  hostedGroups : Table.SameOn (fun g ↦ decide (g.groupDid = groupDid)) st.hostedGroups
    st'.hostedGroups
  groupDidDocuments : Table.SameOn (fun d ↦ decide (d.groupDid = groupDid)) st.groupDidDocuments
    st'.groupDidDocuments
  hostedGroupMembers : Table.SameOn (fun m ↦ decide (m.groupDid = groupDid)) st.hostedGroupMembers
    st'.hostedGroupMembers
  hostedGroupEvents : Table.SameOn (fun e ↦ decide (e.groupDid = groupDid)) st.hostedGroupEvents
    st'.hostedGroupEvents
  hostedGroupMessages : Table.SameOn (fun m ↦ decide (m.groupDid = groupDid))
    st.hostedGroupMessages st'.hostedGroupMessages
  deliveries : (st'.groupDeliveryOutbox.filter fun r ↦ decide (r.groupDid = groupDid)).map
      (fun r ↦ (r.deliveryId, r.envelope)) =
    (st.groupDeliveryOutbox.filter fun r ↦ decide (r.groupDid = groupDid)).map
      fun r ↦ (r.deliveryId, r.envelope)

namespace SamePlan

variable {groupDid : String} {st st' st'' : Store}

/-- Nothing has changed. -/
theorem refl (groupDid : String) (st : Store) : SamePlan groupDid st st :=
  ⟨rfl, rfl, rfl, rfl, rfl, rfl⟩

/-- First the one, then the other. -/
theorem trans (h : SamePlan groupDid st st') (h' : SamePlan groupDid st' st'') :
    SamePlan groupDid st st'' where
  hostedGroups := h.hostedGroups.trans h'.hostedGroups
  groupDidDocuments := h.groupDidDocuments.trans h'.groupDidDocuments
  hostedGroupMembers := h.hostedGroupMembers.trans h'.hostedGroupMembers
  hostedGroupEvents := h.hostedGroupEvents.trans h'.hostedGroupEvents
  hostedGroupMessages := h.hostedGroupMessages.trans h'.hostedGroupMessages
  deliveries := h'.deliveries.trans h.deliveries

/-- The rows of the group in the hosted tables, and its document. -/
theorem of_sameRows (h : SameRows groupDid st st')
    (hdocument : Table.SameOn (fun d ↦ decide (d.groupDid = groupDid)) st.groupDidDocuments
      st'.groupDidDocuments) : SamePlan groupDid st st' where
  hostedGroups := h.hostedGroups
  groupDidDocuments := hdocument
  hostedGroupMembers := h.hostedGroupMembers
  hostedGroupEvents := h.hostedGroupEvents
  hostedGroupMessages := h.hostedGroupMessages
  deliveries := congrArg (List.map _) h.groupDeliveryOutbox

/-- The head is the same, -/
theorem hostedGroup?_eq (h : SamePlan groupDid st st') :
    st'.hostedGroup? groupDid = st.hostedGroup? groupDid :=
  h.hostedGroups.row?_eq fun _ hr ↦ decide_eq_true hr

/-- the document is, -/
theorem document_eq (h : SamePlan groupDid st st') :
    Table.row? GroupDidDocument.groupDid groupDid st'.groupDidDocuments =
      Table.row? GroupDidDocument.groupDid groupDid st.groupDidDocuments :=
  h.groupDidDocuments.row?_eq fun _ hr ↦ decide_eq_true hr

/-- The delivery inventory, which is in the order of the delivery ids. -/
theorem map_deliveriesOf (h : SamePlan groupDid st st') :
    (deliveriesOf st' groupDid).map (fun r ↦ (r.deliveryId, r.envelope)) =
      (deliveriesOf st groupDid).map fun r ↦ (r.deliveryId, r.envelope) := by
  have hsorted : ∀ s : Store, (deliveriesOf s groupDid).map (fun r ↦ (r.deliveryId, r.envelope)) =
      ((s.groupDeliveryOutbox.filter fun r ↦ decide (r.groupDid = groupDid)).map fun r ↦
        (r.deliveryId, r.envelope)).insertionSort fun a b ↦ a.1 ≤ b.1 :=
    fun s ↦ List.map_insertionSort _ _ _ _ fun _ _ _ _ ↦ Iff.rfl
  rw [hsorted, hsorted, h.deliveries]

/-- and so is the anchor. -/
theorem anchorOf_eq (h : SamePlan groupDid st st') {group : HostedGroup}
    (hdid : group.groupDid = groupDid) (document : GroupDidDocument) (fingerprint : String) :
    anchorOf st' group document fingerprint = anchorOf st group document fingerprint := by
  subst hdid
  have hroster : st'.hostedGroupMembers.filter (fun m ↦ decide (m.groupDid = group.groupDid)) =
      st.hostedGroupMembers.filter fun m ↦ decide (m.groupDid = group.groupDid) :=
    h.hostedGroupMembers
  rw [anchorOf, anchorOf, hroster, h.map_deliveriesOf]

/-- **An inspection finds the same**, or fails in the same way. -/
theorem inspectGroup_eq (h : SamePlan groupDid st st') (settings : Settings)
    (out : MigrationOutside) :
    inspectGroup settings out st' groupDid = inspectGroup settings out st groupDid := by
  have hmaterial : groupMaterial settings out st' groupDid =
      groupMaterial settings out st groupDid := by
    rw [groupMaterial, groupMaterial, h.hostedGroup?_eq, h.document_eq]
  rw [inspectGroup, inspectGroup, hmaterial]
  cases hfound : groupMaterial settings out st groupDid with
  | error e => rfl
  | ok material =>
    obtain ⟨group, document, fingerprint⟩ := material
    unfold groupMaterial at hfound
    obtain ⟨found, hgroup, hfound⟩ := bind_eq_ok.mp hfound
    obtain ⟨document', -, hfound⟩ := bind_eq_ok.mp hfound
    obtain ⟨_, -, hfound⟩ := bind_eq_ok.mp hfound
    obtain ⟨_, -, hfound⟩ := bind_eq_ok.mp hfound
    obtain ⟨_, -, hfound⟩ := bind_eq_ok.mp hfound
    obtain ⟨rfl, -⟩ := Prod.mk.inj (pure_eq_ok.mp hfound)
    rw [ok_bind, ok_bind]
    dsimp only
    rw [h.anchorOf_eq (Table.key_of_row? (orRaise_eq_ok.mp hgroup))]

end SamePlan

/-! ### What the commands do -/

section Commands

variable {digest : MigrationAnchor → String} {settings : Settings} {out : MigrationOutside}
  {st st' : Store} {groupDid expected : String}

/-- An anchor has the version of its group. -/
theorem inspectGroup_wireProfile {group : HostedGroup} {anchor : MigrationAnchor}
    (h : inspectGroup settings out st groupDid = .ok (group, anchor)) :
    anchor.wireProfile = group.wireProfile := by
  unfold inspectGroup at h
  obtain ⟨⟨found, document, fingerprint⟩, -, h⟩ := bind_eq_ok.mp h
  obtain ⟨rfl, rfl⟩ := Prod.mk.inj (pure_eq_ok.mp h)
  rfl

/-- The store once a preparation has begun. -/
def Store.begun (st : Store) (groupDid : String) (record : GroupProtocolMigration) : Store :=
  { st.rewriteGroup groupDid fun g ↦ { g with protocolState := .quiescing } with
    groupProtocolMigrations := Table.upsert GroupProtocolMigration.groupDid record
      (fun _ ↦ record) st.groupProtocolMigrations
    issued := st.issued + 1 }

/-- **A preparation begins**, or a complete one is left as it is. -/
theorem prepareBegin_eq_ok {begun : Option String}
    (h : prepareBegin digest settings out st groupDid expected = .ok (begun, st')) :
    ∃ group anchor, inspectGroup settings out st groupDid = .ok (group, anchor) ∧
      group.wireProfile = .v1 ∧ digest anchor = expected ∧
      (begun = none ∧ st' = st ∨
        ∃ record : GroupProtocolMigration, begun = some record.preparationId ∧
          record.preparationId = newId "gpm" st.issued ∧ record.groupDid = groupDid ∧
          record.planDigest = expected ∧ record.state = .preparing ∧
          st' = st.begun groupDid record) := by
  unfold prepareBegin at h
  obtain ⟨⟨group, anchor⟩, hinspect, h⟩ := bind_eq_ok.mp h
  obtain ⟨_, hplan, h⟩ := bind_eq_ok.mp h
  have hplan' := require_eq_ok.mp hplan
  simp only [Bool.and_eq_true, decide_eq_true_eq] at hplan'
  refine ⟨group, anchor, hinspect, (inspectGroup_wireProfile hinspect).symm.trans hplan'.1,
    hplan'.2, ?_⟩
  split at h
  · obtain ⟨_, -, h⟩ := bind_eq_ok.mp h
    obtain ⟨rfl, rfl⟩ := Prod.mk.inj (pure_eq_ok.mp h)
    exact .inl ⟨rfl, rfl⟩
  · obtain ⟨document, -, h⟩ := bind_eq_ok.mp h
    obtain ⟨rfl, rfl⟩ := Prod.mk.inj (pure_eq_ok.mp h)
    exact .inr ⟨_, rfl, rfl, rfl, rfl, rfl, rfl⟩

/-- **A preparation is complete** once its backup is recorded. -/
theorem prepareFinish_eq_ok {preparationId : String} {backup : String × String}
    (h : prepareFinish digest settings out st groupDid expected preparationId backup = .ok st') :
    ∃ group anchor record, inspectGroup settings out st groupDid = .ok (group, anchor) ∧
      digest anchor = expected ∧ group.protocolState = .quiescing ∧
      st.migration? groupDid = some record ∧ record.planDigest = expected ∧
      record.preparationId = preparationId ∧ record.state = .preparing ∧
      st' = { st with
        groupProtocolMigrations := Table.updateWhere
          (fun r ↦ decide (r.groupDid = groupDid ∧ r.planDigest = expected ∧
            r.preparationId = preparationId ∧ r.state = .preparing))
          (fun r ↦ { r with state := .prepared, backup := some backup })
          st.groupProtocolMigrations } := by
  unfold prepareFinish at h
  obtain ⟨⟨group, anchor⟩, hinspect, h⟩ := bind_eq_ok.mp h
  obtain ⟨_, hplan, h⟩ := bind_eq_ok.mp h
  obtain ⟨_, hrecord, h⟩ := bind_eq_ok.mp h
  have hplan' := require_eq_ok.mp hplan
  have hrecord' := require_eq_ok.mp hrecord
  simp only [Bool.and_eq_true, decide_eq_true_eq] at hplan'
  rw [Option.any_eq_true] at hrecord'
  obtain ⟨record, hfound, hmatches⟩ := hrecord'
  obtain ⟨hdigest, hid, hstate⟩ := of_decide_eq_true hmatches
  exact ⟨group, anchor, record, hinspect, hplan'.1, hplan'.2, hfound, hdigest, hid, hstate,
    (pure_eq_ok.mp h).symm⟩

/-- The record an apply goes on with is of the plan it was asked for. -/
theorem applyBegin_eq_ok {begun : Option GroupProtocolMigration}
    (h : applyBegin settings out st groupDid expected = .ok begun) {record : GroupProtocolMigration}
    (hrecord : record ∈ begun) :
    st.migration? groupDid = some record ∧ record.planDigest = expected ∧
      record.state = .prepared := by
  unfold applyBegin at h
  obtain ⟨found, hfound, h⟩ := bind_eq_ok.mp h
  obtain ⟨hmigration, hdigest⟩ := Option.filter_eq_some_iff.mp (orRaise_eq_ok.mp hfound)
  split at h
  · obtain ⟨_, -, h⟩ := bind_eq_ok.mp h
    obtain ⟨_, -, h⟩ := bind_eq_ok.mp h
    rw [← pure_eq_ok.mp h] at hrecord
    cases hrecord
  · obtain ⟨_, hprepared, h⟩ := bind_eq_ok.mp h
    obtain ⟨_, -, h⟩ := bind_eq_ok.mp h
    obtain ⟨_, -, h⟩ := bind_eq_ok.mp h
    rw [← pure_eq_ok.mp h] at hrecord
    obtain rfl := Option.some.inj hrecord
    have hprepared' := require_eq_ok.mp hprepared
    simp only [Bool.and_eq_true, decide_eq_true_eq] at hprepared'
    exact ⟨hmigration, of_decide_eq_true hdigest, hprepared'.1⟩

/-- What an apply writes. -/
structure CutOver (st : Store) (groupDid expected : String) (st' : Store) : Prop where
  hostedGroups : st'.hostedGroups = Table.updateWhere (fun g ↦ decide (g.groupDid = groupDid))
    (fun g ↦ { g with wireProfile := .v2, protocolState := .active }) st.hostedGroups
  groupDidDocuments : ∃ signed, st'.groupDidDocuments =
    Table.updateWhere (fun d ↦ decide (d.groupDid = groupDid))
      (fun d ↦ { d with document := signed, documentVersion := d.documentVersion + 1 })
      st.groupDidDocuments
  groupProtocolMigrations : ∃ appliedAt, st'.groupProtocolMigrations =
    Table.updateWhere (fun r ↦ decide (r.groupDid = groupDid ∧ r.planDigest = expected))
      (fun r ↦ { r with state := .applied, appliedAt := appliedAt }) st.groupProtocolMigrations
  hostedGroupMembers : st'.hostedGroupMembers = st.hostedGroupMembers
  hostedGroupEvents : st'.hostedGroupEvents = st.hostedGroupEvents
  hostedGroupMessages : st'.hostedGroupMessages = st.hostedGroupMessages
  groupDeliveryOutbox : st'.groupDeliveryOutbox = st.groupDeliveryOutbox
  issued : st'.issued = st.issued

/-- **An apply** goes through only for the preparation it has seen, of the plan it was asked for,
with everything delivered. -/
theorem applyFinish_eq_ok {record : GroupProtocolMigration}
    (h : applyFinish digest settings out st groupDid expected record = .ok st') :
    ∃ latest group anchor, st.migration? groupDid = some latest ∧ latest.state = .prepared ∧
      latest.preparationId = record.preparationId ∧
      inspectGroup settings out st groupDid = .ok (group, anchor) ∧ digest anchor = expected ∧
      (∀ r ∈ st.groupDeliveryOutbox, r.groupDid = groupDid → r.status = .delivered) ∧
      CutOver st groupDid expected st' := by
  unfold applyFinish at h
  obtain ⟨latest, hlatest, h⟩ := bind_eq_ok.mp h
  obtain ⟨_, hsame, h⟩ := bind_eq_ok.mp h
  obtain ⟨⟨group, anchor⟩, hinspect, h⟩ := bind_eq_ok.mp h
  obtain ⟨_, hplan, h⟩ := bind_eq_ok.mp h
  obtain ⟨_, hdrained, h⟩ := bind_eq_ok.mp h
  obtain ⟨⟨_, document, _⟩, -, h⟩ := bind_eq_ok.mp h
  obtain ⟨services, -, h⟩ := bind_eq_ok.mp h
  obtain ⟨upgraded, -, h⟩ := bind_eq_ok.mp h
  obtain ⟨signed, -, h⟩ := bind_eq_ok.mp h
  have hsame' := require_eq_ok.mp hsame
  have hplan' := require_eq_ok.mp hplan
  have hdrained' := require_eq_ok.mp hdrained
  simp only [Bool.and_eq_true, decide_eq_true_eq] at hsame' hplan'
  refine ⟨latest, group, anchor, orRaise_eq_ok.mp hlatest, hsame'.1.1, hsame'.1.2, hinspect,
    hplan'.2, fun r hr hgroup ↦ ?_, ?_⟩
  · have hmem : r ∈ deliveriesOf st groupDid :=
      (List.mem_insertionSort _).mpr (List.mem_filter.mpr ⟨hr, decide_eq_true hgroup⟩)
    exact of_decide_eq_true (List.all_eq_true.mp hdrained' r hmem)
  · obtain ⟨views, memberViews, hrefresh⟩ := refreshHostedLocalProjections_eq settings
      ({ st with
        groupDidDocuments := Table.updateWhere (fun d ↦ decide (d.groupDid = groupDid))
          (fun d ↦ { d with document := signed, documentVersion := d.documentVersion + 1 })
          st.groupDidDocuments
        didDocuments := Table.updateWhere (fun d ↦ decide (d.did = groupDid))
          (fun d ↦ { d with document := .obj signed, updatedAt := out.now })
          st.didDocuments }.rewriteGroup groupDid fun g ↦
            { g with wireProfile := .v2, protocolState := .active }) groupDid out.now
    rw [← pure_eq_ok.mp h, hrefresh]
    exact ⟨rfl, ⟨_, rfl⟩, ⟨_, rfl⟩, rfl, rfl, rfl, rfl, rfl⟩

/-- **A cancel** is for a preparation of the plan, and takes no apply back. -/
theorem cancelGroup_eq_ok (h : cancelGroup st groupDid expected = .ok st') :
    ∃ record, st.migration? groupDid = some record ∧ record.planDigest = expected ∧
      record.state ≠ .applied ∧
      st' = { st with
        hostedGroups := Table.updateWhere
          (fun g ↦ decide (g.groupDid = groupDid ∧ g.wireProfile = WireProfile.v1))
          (fun g ↦ { g with protocolState := .active }) st.hostedGroups
        groupProtocolMigrations := Table.updateWhere (fun r ↦ decide (r.groupDid = groupDid))
          (fun r ↦ { r with state := .cancelled }) st.groupProtocolMigrations } := by
  unfold cancelGroup at h
  obtain ⟨_, hrecord, h⟩ := bind_eq_ok.mp h
  have hrecord' := require_eq_ok.mp hrecord
  rw [Option.any_eq_true] at hrecord'
  obtain ⟨record, hfound, hmatches⟩ := hrecord'
  obtain ⟨hdigest, hstate⟩ := of_decide_eq_true hmatches
  exact ⟨record, hfound, hdigest, hstate, (pure_eq_ok.mp h).symm⟩

end Commands

/-! ### What a hosted call does to the documents -/

section Documents

variable {settings : Settings} {st st' : Store} {req : Request} {ctx : GroupRequest}
  {group : HostedGroup} {result : Obj}

/-- Entries of the sync log are no documents, -/
theorem syncActiveMembers_groupDidDocuments (st : Store) (groupDid eventType : String)
    (payload : Obj) (now : String) :
    (syncActiveMembers st groupDid eventType payload now).groupDidDocuments =
      st.groupDidDocuments :=
  syncActiveMembers_rel (R := fun a b ↦ b.groupDidDocuments = a.groupDidDocuments)
    (fun _ ↦ rfl) (fun hab hbc ↦ hbc.trans hab) fun _ _ ↦ rfl

/-- nor are projections, -/
theorem refreshHostedLocalProjections_groupDidDocuments (settings : Settings) (st : Store)
    (groupDid updatedAt : String) :
    (refreshHostedLocalProjections settings st groupDid updatedAt).groupDidDocuments =
      st.groupDidDocuments := by
  obtain ⟨views, memberViews, h⟩ :=
    refreshHostedLocalProjections_eq settings st groupDid updatedAt
  rw [h]

/-- nor rows of the outbox, -/
theorem enqueueAll_groupDidDocuments (st : Store) (groupDid createdAt : String)
    (groupEventSeq : ℕ) (method : GroupMethod) (envelopeFor : String → Obj)
    (members : List HostedMember) :
    (enqueueAll st groupDid groupEventSeq method envelopeFor createdAt members).groupDidDocuments =
      st.groupDidDocuments := by
  obtain ⟨rows, h⟩ := enqueueAll_eq groupDid createdAt groupEventSeq method envelopeFor members st
  rw [h]

/-- nor is what local members are told, -/
theorem tellLocalMembers_groupDidDocuments (groupDid : String) (change : StateChange) (event : Obj)
    (now : String) :
    (tellLocalMembers settings st ctx groupDid change event now).groupDidDocuments =
      st.groupDidDocuments := by
  have hsync := syncActiveMembers_groupDidDocuments st groupDid change.syncEventType event now
  unfold tellLocalMembers
  rw [refreshHostedLocalProjections_groupDidDocuments]
  cases change.departed with
  | none => exact hsync
  | some did =>
    dsimp only
    split
    · exact hsync
    · exact hsync

/-- nor an event, -/
theorem writeEvent_groupDidDocuments {groupDid eventType createdAt : String}
    {stateVersion eventSeq : ℕ} {payload receipt : Obj}
    (h : writeEvent st ctx groupDid stateVersion eventSeq eventType payload receipt createdAt =
      .ok st') : st'.groupDidDocuments = st.groupDidDocuments := by
  rw [writeEvent_eq_ok h]

/-- nor a stored result. -/
theorem storeOperation_groupDidDocuments {scope createdAt : String} {result' : Obj}
    (h : storeOperation st ctx scope result createdAt = .ok (result', st')) :
    st'.groupDidDocuments = st.groupDidDocuments := by
  obtain ⟨-, op, -, -, -, -, rfl⟩ := storeOperation_eq_ok h
  rfl

/-- A state change writes no documents, -/
theorem acceptStateChange_groupDidDocuments {change : StateChange}
    (h : acceptStateChange settings st req ctx group change = .ok (result, st')) :
    st'.groupDidDocuments = st.groupDidDocuments := by
  unfold acceptStateChange at h
  obtain ⟨receipt, -, h⟩ := bind_eq_ok.mp h
  obtain ⟨st₁, hevent, h⟩ := bind_eq_ok.mp h
  obtain ⟨⟨result₁, st₂⟩, hop, h⟩ := bind_eq_ok.mp h
  obtain ⟨st₃, henqueue, h⟩ := bind_eq_ok.mp h
  obtain ⟨-, rfl⟩ := Prod.mk.inj (pure_eq_ok.mp h)
  unfold enqueueStateChanged at henqueue
  obtain ⟨_, -, henqueue⟩ := bind_eq_ok.mp henqueue
  obtain ⟨_, -, henqueue⟩ := bind_eq_ok.mp henqueue
  obtain ⟨_, -, henqueue⟩ := bind_eq_ok.mp henqueue
  rw [← pure_eq_ok.mp henqueue, enqueueAll_groupDidDocuments, tellLocalMembers_groupDidDocuments,
    storeOperation_groupDidDocuments hop, writeEvent_groupDidDocuments hevent]
  rfl

/-- nor does a message. -/
theorem acceptMessage_groupDidDocuments {messageId contentType : String}
    (h : acceptMessage settings st req ctx group messageId contentType = .ok (result, st')) :
    st'.groupDidDocuments = st.groupDidDocuments := by
  unfold acceptMessage at h
  obtain ⟨receipt, -, h⟩ := bind_eq_ok.mp h
  obtain ⟨_, -, h⟩ := bind_eq_ok.mp h
  obtain ⟨st₁, hevent, h⟩ := bind_eq_ok.mp h
  obtain ⟨⟨result₁, st₂⟩, hop, h⟩ := bind_eq_ok.mp h
  obtain ⟨-, rfl⟩ := Prod.mk.inj (pure_eq_ok.mp h)
  rw [syncActiveMembers_groupDidDocuments, enqueueIncomingMessage, enqueueAll_groupDidDocuments,
    projectHostedMessageForLocalMembers, refreshHostedLocalProjections_groupDidDocuments,
    storeOperation_groupDidDocuments hop, writeEvent_groupDidDocuments hevent]
  rfl

/-- A creation adds the document of its group. -/
theorem commitCreate_groupDidDocuments {groupDid keyPath : String} {document profile policy : Obj}
    {creator : Option VerifiedHandleBinding} {prepared : List PreparedMember}
    (h : commitCreate settings st req ctx groupDid document profile policy keyPath creator
      prepared = .ok (result, st')) :
    ∃ row : GroupDidDocument, row.groupDid = groupDid ∧
      st'.groupDidDocuments = st.groupDidDocuments ++ [row] := by
  unfold commitCreate at h
  obtain ⟨groups, -, h⟩ := bind_eq_ok.mp h
  obtain ⟨st₁, hinsert, h⟩ := bind_eq_ok.mp h
  obtain ⟨documents, hdocuments, h⟩ := bind_eq_ok.mp h
  obtain ⟨didDocuments, -, h⟩ := bind_eq_ok.mp h
  obtain ⟨receipt, -, h⟩ := bind_eq_ok.mp h
  obtain ⟨st₂, hevent, h⟩ := bind_eq_ok.mp h
  obtain ⟨⟨result₁, st₃⟩, hop, h⟩ := bind_eq_ok.mp h
  obtain ⟨-, rfl⟩ := Prod.mk.inj (pure_eq_ok.mp h)
  obtain ⟨rfl, -⟩ := insertMembers_eq_ok hinsert
  obtain ⟨-, rfl⟩ := Table.insert?_eq_some.mp (orRaise_eq_ok.mp hdocuments)
  refine ⟨⟨groupDid, document, keyPath, req.outside.now, 1⟩, rfl, ?_⟩
  rw [refreshHostedLocalProjections_groupDidDocuments, syncActiveMembers_groupDidDocuments,
    storeOperation_groupDidDocuments hop, writeEvent_groupDidDocuments hevent]

/-- **What a hosted call does to one group**: nothing, create it, or advance it. -/
theorem hostedCall_group {call : HostedCall} (h : hostedCall settings st call = .ok (result, st'))
    (groupDid : String) :
    SamePlan groupDid st st' ∨ (∃ c : Creation settings st st', c.group.groupDid = groupDid) ∨
      ∃ a : Advance settings st st', a.group.groupDid = groupDid := by
  cases hostedCall_tail h with
  | replayed s hs ctx scope hmethod hreplay hsame => exact .inl (hsame ▸ .refl _ _)
  | created ctx created keyPath document profile policy creator prepared hmethod hctx hprepared
      hdomain hcommit =>
    obtain ⟨c, -, -, rfl, -⟩ := commitCreate_creation hcommit hctx.method_eq hdomain
    by_cases hdid : c.group.groupDid = groupDid
    · exact .inr (.inl ⟨c, hdid⟩)
    · obtain ⟨href, hmessages⟩ := commitCreate_refreshed hcommit
      obtain ⟨row, hrow, hdocuments⟩ := commitCreate_groupDidDocuments hcommit
      refine .inl (.of_sameRows (c.sameRows (Ne.symm hdid) href hmessages) ?_)
      rw [hdocuments]
      exact .append fun d hd ↦ decide_eq_false (List.mem_singleton.mp hd ▸ hrow ▸ hdid)
  | changed ctx changed members change hmethod hctx hrow hreplay hchange hroster haccept =>
    obtain ⟨a, -, rfl, -⟩ := acceptStateChange_of_checked hmethod hctx hrow hchange hroster haccept
    by_cases hdid : a.group.groupDid = groupDid
    · exact .inr (.inr ⟨a, hdid⟩)
    · obtain ⟨href, hmessages⟩ := acceptStateChange_refreshed haccept
      refine .inl (.of_sameRows (a.sameRows (Ne.symm hdid) href hmessages) ?_)
      rw [acceptStateChange_groupDidDocuments haccept]
      exact .refl _ _
  | sent ctx sent messageId contentType hmethod hctx hrow hreplay haccept =>
    obtain ⟨hfound, htarget, hprofile, hactive⟩ := groupRow_eq_ok hrow
    obtain ⟨a, -, rfl, -⟩ := acceptMessage_advance haccept hfound hprofile hactive
      (hctx.method_eq.trans hmethod)
    by_cases hdid : a.group.groupDid = groupDid
    · exact .inr (.inr ⟨a, hdid⟩)
    · obtain ⟨href, hmessages⟩ := acceptMessage_refreshed haccept
      refine .inl (.of_sameRows (a.sameRows (Ne.symm hdid) href hmessages) ?_)
      rw [acceptMessage_groupDidDocuments haccept]
      exact .refl _ _

end Documents

/-! ### What a step does to one group -/

/-- A preparation id that was drawn. -/
def Store.Drew (st : Store) (preparationId : String) : Prop :=
  ∃ n < st.issued, preparationId = newId "gpm" n

/-- **The invariant**: head and record of every group stand for a phase, and an apply under way was
asked for the plan of the preparation it has seen. -/
structure CutoverInv (w : ServerWorld) : Prop where
  phases : ∀ groupDid, ∃ phase, w.host.store.phase? groupDid = some phase
  drew : ∀ {groupDid r}, w.host.store.migration? groupDid = some r →
    w.host.store.Drew r.preparationId
  tasks_drew : ∀ {groupDid expected record}, .apply groupDid expected record ∈ w.tasks →
    w.host.store.Drew record.preparationId
  tasks_plan : ∀ {groupDid expected record}, .apply groupDid expected record ∈ w.tasks →
    ∀ r, w.host.store.migration? groupDid = some r → r.preparationId = record.preparationId →
      r.planDigest = expected

/-- **What a step does to one group.** -/
inductive CutoverStep (digest : MigrationAnchor → String) (settings : Settings) (groupDid : String)
    (st : Store) : ServerAction → Store → Prop where
  | kept {a : ServerAction} {st' : Store} (hplan : SamePlan groupDid st st')
      (hrecord : st'.migration? groupDid = st.migration? groupDid) :
      CutoverStep digest settings groupDid st a st'
  | created {c : HostedCall} {st' : Store} {group : HostedGroup}
      (hnone : st.hostedGroup? groupDid = none) (hgroup : st'.hostedGroup? groupDid = some group)
      (hactive : group.protocolState = .active)
      (hrecord : st'.migration? groupDid = st.migration? groupDid) :
      CutoverStep digest settings groupDid st (.host (.call c)) st'
  | advanced {c : HostedCall} {st' : Store} {group group' : HostedGroup}
      (hgroup : st.hostedGroup? groupDid = some group) (hactive : group.protocolState = .active)
      (hgroup' : st'.hostedGroup? groupDid = some group')
      (hactive' : group'.protocolState = .active)
      (hprofile : group'.wireProfile = group.wireProfile)
      (hrecord : st'.migration? groupDid = st.migration? groupDid) :
      CutoverStep digest settings groupDid st (.host (.call c)) st'
  | begun {expected : String} {out : MigrationOutside} {group : HostedGroup}
      {anchor : MigrationAnchor} {record : GroupProtocolMigration} {st' : Store}
      (hinspect : inspectGroup settings out st groupDid = .ok (group, anchor))
      (hv1 : group.wireProfile = .v1) (hdigest : digest anchor = expected)
      (hid : record.preparationId = newId "gpm" st.issued) (hplan : record.planDigest = expected)
      (hstate : record.state = .preparing)
      (hinspect' : inspectGroup settings out st' groupDid =
        .ok ({ group with protocolState := .quiescing }, anchor))
      (hrecord' : st'.migration? groupDid = some record) (hissued : st.issued < st'.issued) :
      CutoverStep digest settings groupDid st (.prepareBegin groupDid expected) st'
  | backedUp {record : GroupProtocolMigration} {backup : String × String} {st' : Store}
      (hrecord : st.migration? groupDid = some record) (hstate : record.state = .preparing)
      (hplan : SamePlan groupDid st st')
      (hrecord' : st'.migration? groupDid =
        some { record with state := .prepared, backup := some backup }) :
      CutoverStep digest settings groupDid st (.prepareFinish groupDid) st'
  | applied {out : MigrationOutside} {record : GroupProtocolMigration} {group : HostedGroup}
      {anchor : MigrationAnchor} {appliedAt : Option String} {st' : Store}
      (hrecord : st.migration? groupDid = some record) (hstate : record.state = .prepared)
      (hinspect : inspectGroup settings out st groupDid = .ok (group, anchor))
      (hdigest : digest anchor = record.planDigest)
      (hdelivered : ∀ r ∈ st.groupDeliveryOutbox, r.groupDid = groupDid → r.status = .delivered)
      (hgroup' : st'.hostedGroup? groupDid =
        some { group with wireProfile := .v2, protocolState := .active })
      (hrecord' : st'.migration? groupDid =
        some { record with state := .applied, appliedAt := appliedAt }) :
      CutoverStep digest settings groupDid st (.applyFinish groupDid) st'
  | cancelled {expected : String} {record : GroupProtocolMigration} {st' : Store}
      (hrecord : st.migration? groupDid = some record) (hstate : record.state ≠ .applied)
      (hgroup' : st'.hostedGroup? groupDid = (st.hostedGroup? groupDid).map fun g ↦
        if g.wireProfile = .v1 then { g with protocolState := .active } else g)
      (hrecord' : st'.migration? groupDid = some { record with state := .cancelled }) :
      CutoverStep digest settings groupDid st (.cancel groupDid expected) st'

section Step

variable {digest : MigrationAnchor → String} {settings : Settings} {out : MigrationOutside}
  {st st' : Store} {groupDid target expected : String}

/-- A row of another group is not at `groupDid`. -/
theorem decide_group_eq_false {other : String} (hne : other ≠ groupDid) (h : target = other) :
    decide (target = groupDid) = false :=
  decide_eq_false fun heq ↦ hne (h.symm.trans heq)

/-- A rewrite of the head of another group. -/
theorem sameOn_hostedGroups {f : HostedGroup → HostedGroup} {p : HostedGroup → Bool}
    {rows : List HostedGroup} {other : String} (hne : other ≠ groupDid)
    (hp : ∀ g, p g = true → g.groupDid = other) (hf : ∀ g, (f g).groupDid = g.groupDid) :
    Table.SameOn (fun g : HostedGroup ↦ decide (g.groupDid = groupDid)) rows
      (Table.updateWhere p f rows) :=
  .updateWhere fun g hg ↦
    ⟨decide_group_eq_false hne (hp g hg), decide_group_eq_false hne ((hf g).trans (hp g hg))⟩

/-- A rewrite of the record of another group. -/
theorem migration?_updateWhere_of_ne {f : GroupProtocolMigration → GroupProtocolMigration}
    {p : GroupProtocolMigration → Bool} {other : String} (hne : other ≠ groupDid)
    (h : st'.groupProtocolMigrations = Table.updateWhere p f st.groupProtocolMigrations)
    (hp : ∀ r, p r = true → r.groupDid = other) (hf : ∀ r, (f r).groupDid = r.groupDid) :
    st'.migration? groupDid = st.migration? groupDid := by
  rw [Store.migration?, Store.migration?, h, Table.row?_updateWhere fun r _ ↦ hf r]
  cases hrow : Table.row? GroupProtocolMigration.groupDid groupDid st.groupProtocolMigrations with
  | none => rfl
  | some r =>
    have hpr : ¬ p r = true := fun hpr ↦ hne ((hp r hpr).symm.trans (Table.key_of_row? hrow))
    rw [Option.map_some, if_neg hpr]

/-- A rewrite of the record of this group. -/
theorem migration?_updateWhere_of_mem {f : GroupProtocolMigration → GroupProtocolMigration}
    {p : GroupProtocolMigration → Bool} {record : GroupProtocolMigration}
    (hrecord : st.migration? groupDid = some record) (hp : p record = true)
    (hf : ∀ r, (f r).groupDid = r.groupDid)
    (h : st'.groupProtocolMigrations = Table.updateWhere p f st.groupProtocolMigrations) :
    st'.migration? groupDid = some (f record) := by
  rw [Store.migration?] at hrecord ⊢
  rw [h, Table.row?_updateWhere fun r _ ↦ hf r, hrecord, Option.map_some, if_pos hp]

/-- A rewrite of some heads. -/
theorem map_hostedGroup?_updateWhere {f : HostedGroup → HostedGroup} {p : HostedGroup → Bool}
    (hf : ∀ g, (f g).groupDid = g.groupDid)
    (h : st'.hostedGroups = Table.updateWhere p f st.hostedGroups) :
    st'.hostedGroup? groupDid =
      (st.hostedGroup? groupDid).map fun g ↦ if p g then f g else g := by
  rw [Store.hostedGroup?, Store.hostedGroup?, h, Table.row?_updateWhere fun g _ ↦ hf g]

/-- A rewrite of the head of this group. -/
theorem hostedGroup?_updateWhere {f : HostedGroup → HostedGroup} {group : HostedGroup}
    (hgroup : st.hostedGroup? groupDid = some group) (hf : ∀ g, (f g).groupDid = g.groupDid)
    (h : st'.hostedGroups = Table.updateWhere (fun g ↦ decide (g.groupDid = groupDid)) f
      st.hostedGroups) : st'.hostedGroup? groupDid = some (f group) := by
  rw [map_hostedGroup?_updateWhere hf h, hgroup, Option.map_some,
    if_pos (decide_eq_true (Table.key_of_row? hgroup))]

/-- An attempt changes nothing that is inspected. -/
theorem SamePlan.attempted (groupDid : String) (st : Store) (row : OutboxRow)
    (outcome : AttemptOutcome) (now nextAttempt updatedAt : String) :
    SamePlan groupDid st (recordAttempt st row outcome now nextAttempt updatedAt) := by
  refine ⟨rfl, rfl, rfl, rfl, rfl, ?_⟩
  dsimp only [recordAttempt]
  induction st.groupDeliveryOutbox with
  | nil => rfl
  | cons r rest ih =>
    rw [Table.updateWhere, List.map_cons]
    rw [Table.updateWhere] at ih
    have hrow : ∀ r', r'.groupDid = r.groupDid → (r'.deliveryId, r'.envelope) =
        (r.deliveryId, r.envelope) →
        ((r' :: rest.map fun r ↦ if decide (r.deliveryId = row.deliveryId) && r.isDue then
          row.afterAttempt r outcome now nextAttempt updatedAt else r).filter fun r ↦
            decide (r.groupDid = groupDid)).map (fun r ↦ (r.deliveryId, r.envelope)) =
          ((r :: rest).filter fun r ↦ decide (r.groupDid = groupDid)).map fun r ↦
            (r.deliveryId, r.envelope) := by
      intro r' hgroup hentry
      rw [List.filter_cons, List.filter_cons, hgroup]
      split
      · rw [List.map_cons, List.map_cons, hentry, ih]
      · exact ih
    split
    · cases outcome with
      | delivered => exact hrow _ rfl rfl
      | failed => exact hrow _ rfl rfl
    · exact hrow r rfl rfl

/-- **A hosted call.** -/
theorem hostedCall_cutoverStep {c : HostedCall} {result : Obj}
    (h : hostedCall settings st c = .ok (result, st')) (groupDid : String) :
    CutoverStep digest settings groupDid st (.host (.call c)) st' := by
  have hrecord : st'.migration? groupDid = st.migration? groupDid := by
    rw [Store.migration?, Store.migration?, (hostedCall_announces h).groupProtocolMigrations]
  rcases hostedCall_group h groupDid with hplan | ⟨created, rfl⟩ | ⟨advance, rfl⟩
  · exact .kept hplan hrecord
  · have hnone : st.hostedGroup? created.group.groupDid = none :=
      Table.row?_eq_none.mpr created.fresh
    have hgroup : st'.hostedGroup? created.group.groupDid = some created.group := by
      rw [Store.hostedGroup?] at hnone ⊢
      rw [created.groups, Table.row?_append, hnone, if_pos rfl, Option.none_or]
    exact .created hnone hgroup created.active hrecord
  · exact .advanced advance.found advance.active
      (hostedGroup?_updateWhere (f := advanceHead advance.update _ _ _) advance.found
        (fun _ ↦ rfl) advance.groups)
      ((advance.update_protocolState _).trans advance.active) (advance.update_wireProfile _) hrecord

/-- The anchor does not tell that the writers are stopped. -/
theorem inspectGroup_begun {group : HostedGroup} {anchor : MigrationAnchor}
    (h : inspectGroup settings out st groupDid = .ok (group, anchor))
    (record : GroupProtocolMigration) :
    inspectGroup settings out (st.begun groupDid record) groupDid =
      .ok ({ group with protocolState := .quiescing }, anchor) := by
  have hgroup' : (st.begun groupDid record).hostedGroup? groupDid =
      some { group with protocolState := .quiescing } :=
    hostedGroup?_updateWhere (f := fun g ↦ { g with protocolState := .quiescing })
      (inspectGroup_found h) (fun _ ↦ rfl) rfl
  unfold inspectGroup groupMaterial at h ⊢
  obtain ⟨_, hmaterial, h⟩ := bind_eq_ok.mp h
  obtain ⟨found, hfound, hmaterial⟩ := bind_eq_ok.mp hmaterial
  obtain ⟨document, hdocument, hmaterial⟩ := bind_eq_ok.mp hmaterial
  obtain ⟨_, hhost, hmaterial⟩ := bind_eq_ok.mp hmaterial
  obtain ⟨fingerprint, hkey, hmaterial⟩ := bind_eq_ok.mp hmaterial
  obtain ⟨_, hservice, hmaterial⟩ := bind_eq_ok.mp hmaterial
  obtain rfl := pure_eq_ok.mp hmaterial
  obtain ⟨rfl, rfl⟩ := Prod.mk.inj (pure_eq_ok.mp h)
  rw [hgroup', orRaise_some, ok_bind, Store.begun, Store.rewriteGroup]
  dsimp only
  rw [hdocument, ok_bind, hhost, ok_bind, hkey, ok_bind, hservice]
  rfl

/-- **A preparation that begins.** -/
theorem begun_cutoverStep {group : HostedGroup} {anchor : MigrationAnchor}
    {record : GroupProtocolMigration}
    (hinspect : inspectGroup settings out st target = .ok (group, anchor))
    (hv1 : group.wireProfile = .v1) (hdigest : digest anchor = expected)
    (hid : record.preparationId = newId "gpm" st.issued) (hgroup : record.groupDid = target)
    (hplan : record.planDigest = expected) (hstate : record.state = .preparing)
    (groupDid : String) :
    CutoverStep digest settings groupDid st (.prepareBegin target expected)
      (st.begun target record) := by
  have hrow : (st.begun target record).migration? groupDid =
      if groupDid = target then some record else st.migration? groupDid := by
    rw [Store.migration?, Store.begun, Table.row?_upsert fun _ _ ↦ rfl, hgroup, Store.migration?]
    by_cases hdid : groupDid = target
    · rw [if_pos hdid, if_pos hdid]
      cases Table.row? GroupProtocolMigration.groupDid groupDid st.groupProtocolMigrations <;> rfl
    · rw [if_neg hdid, if_neg hdid]
  by_cases hdid : groupDid = target
  · subst hdid
    rw [if_pos rfl] at hrow
    exact .begun hinspect hv1 hdigest hid hplan hstate (inspectGroup_begun hinspect record) hrow
      (Nat.lt_succ_self _)
  · rw [if_neg hdid] at hrow
    exact .kept ⟨sameOn_hostedGroups (Ne.symm hdid) (fun _ ↦ of_decide_eq_true) fun _ ↦ rfl, rfl,
      rfl, rfl, rfl, rfl⟩ hrow

/-- **A preparation that is complete.** -/
theorem prepareFinish_cutoverStep {preparationId : String} {backup : String × String}
    (h : prepareFinish digest settings out st target expected preparationId backup = .ok st')
    (groupDid : String) :
    CutoverStep digest settings groupDid st (.prepareFinish target) st' := by
  obtain ⟨group, anchor, record, -, -, -, hrecord, hplan, hid, hstate, rfl⟩ := prepareFinish_eq_ok h
  by_cases hdid : target = groupDid
  · subst hdid
    exact .backedUp hrecord hstate ⟨rfl, rfl, rfl, rfl, rfl, rfl⟩ (migration?_updateWhere_of_mem
      (f := fun r ↦ { r with state := .prepared, backup := some backup }) hrecord
      (decide_eq_true ⟨Table.key_of_row? hrecord, hplan, hid, hstate⟩) (fun _ ↦ rfl) rfl)
  · exact .kept ⟨rfl, rfl, rfl, rfl, rfl, rfl⟩
      (migration?_updateWhere_of_ne hdid rfl (fun _ hr ↦ (of_decide_eq_true hr).1) fun _ ↦ rfl)

/-- An apply writes the record it was asked for, because the preparation it goes on with is of that
plan. -/
theorem applyFinish_cutoverStep {record : GroupProtocolMigration}
    (h : applyFinish digest settings out st target expected record = .ok st')
    (htask : ∀ r, st.migration? target = some r → r.preparationId = record.preparationId →
      r.planDigest = expected) (groupDid : String) :
    CutoverStep digest settings groupDid st (.applyFinish target) st' := by
  obtain ⟨latest, group, anchor, hlatest, hstate, hid, hinspect, hdigest, hdelivered, hcut⟩ :=
    applyFinish_eq_ok h
  obtain ⟨signed, hdocuments⟩ := hcut.groupDidDocuments
  obtain ⟨appliedAt, hrecords⟩ := hcut.groupProtocolMigrations
  by_cases hdid : target = groupDid
  · subst hdid
    have hplan := htask latest hlatest hid
    have hgroup := hostedGroup?_updateWhere
      (f := fun g ↦ { g with wireProfile := .v2, protocolState := .active })
      (inspectGroup_found hinspect) (fun _ ↦ rfl) hcut.hostedGroups
    have hrecord := migration?_updateWhere_of_mem
      (f := fun r ↦ { r with state := .applied, appliedAt := appliedAt }) hlatest
      (decide_eq_true ⟨Table.key_of_row? hlatest, hplan⟩) (fun _ ↦ rfl) hrecords
    exact .applied hlatest hstate hinspect (hdigest.trans hplan.symm) hdelivered hgroup hrecord
  · refine .kept ⟨?_, ?_, ?_, ?_, ?_, ?_⟩
      (migration?_updateWhere_of_ne hdid hrecords (fun _ hr ↦ (of_decide_eq_true hr).1)
        fun _ ↦ rfl)
    · rw [hcut.hostedGroups]
      exact sameOn_hostedGroups hdid (fun _ ↦ of_decide_eq_true) fun _ ↦ rfl
    · rw [hdocuments]
      refine .updateWhere fun d hd ↦ ?_
      have hother : decide (d.groupDid = groupDid) = false :=
        decide_group_eq_false hdid (of_decide_eq_true hd)
      exact ⟨hother, hother⟩
    · exact hcut.hostedGroupMembers ▸ .refl _ _
    · exact hcut.hostedGroupEvents ▸ .refl _ _
    · exact hcut.hostedGroupMessages ▸ .refl _ _
    · rw [hcut.groupDeliveryOutbox]

/-- **A cancel.** -/
theorem cancelGroup_cutoverStep (h : cancelGroup st target expected = .ok st')
    (groupDid : String) :
    CutoverStep digest settings groupDid st (.cancel target expected) st' := by
  obtain ⟨record, hrecord, -, hstate, rfl⟩ := cancelGroup_eq_ok h
  by_cases hdid : target = groupDid
  · subst hdid
    refine .cancelled hrecord hstate ?_ ?_
    · rw [map_hostedGroup?_updateWhere (f := fun g ↦ { g with protocolState := .active })
        (p := fun g ↦ decide (g.groupDid = target ∧ g.wireProfile = .v1)) (fun _ ↦ rfl) rfl]
      refine Option.map_congr fun g hg ↦ ?_
      have hkey : g.groupDid = target := Table.key_of_row? hg
      simp only [hkey, true_and, decide_eq_true_eq]
    · exact migration?_updateWhere_of_mem (f := fun r ↦ { r with state := .cancelled }) hrecord
        (decide_eq_true (Table.key_of_row? hrecord)) (fun _ ↦ rfl) rfl
  · exact .kept ⟨sameOn_hostedGroups hdid (fun _ hg ↦ (of_decide_eq_true hg).1) fun _ ↦ rfl, rfl,
      rfl, rfl, rfl, rfl⟩
      (migration?_updateWhere_of_ne hdid rfl (fun _ ↦ of_decide_eq_true) fun _ ↦ rfl)

/-- **Each step of the server does one of these things to each group.** -/
theorem ServerStep.cutoverStep {w w' : ServerWorld} {a : ServerAction}
    (h : ServerStep digest settings w a w') (hi : CutoverInv w) (groupDid : String) :
    CutoverStep digest settings groupDid w.host.store a w'.host.store := by
  cases h with
  | host hstep helsewhere =>
    cases hstep with
    | call c =>
      dsimp only
      unfold afterCall
      split
      · rename_i hcall
        exact hostedCall_cutoverStep hcall groupDid
      · exact .kept (.refl _ _) rfl
    | beginDrain => exact .kept (.refl _ _) rfl
    | attempt => exact .kept (.attempted ..) rfl
    | endDrain => exact .kept (.refl _ _) rfl
    | elsewhere st hst =>
      have hkept := helsewhere st rfl
      refine .kept ⟨?_, ?_, ?_, ?_, ?_, ?_⟩ ?_
      · exact hst.hostedGroups ▸ .refl _ _
      · exact hkept.groupDidDocuments ▸ .refl _ _
      · exact hst.hostedGroupMembers ▸ .refl _ _
      · exact hst.hostedGroupEvents ▸ .refl _ _
      · exact hst.hostedGroupMessages ▸ .refl _ _
      · rw [hst.groupDeliveryOutbox]
      · rw [Store.migration?, Store.migration?, hkept.groupProtocolMigrations]
  | prepareBegin h =>
    obtain ⟨group, anchor, hinspect, hv1, hdigest,
      ⟨-, rfl⟩ | ⟨record, -, hid, hgroup, hplan, hstate, rfl⟩⟩ := prepareBegin_eq_ok h
    · exact .kept (.refl _ _) rfl
    · exact begun_cutoverStep hinspect hv1 hdigest hid hgroup hplan hstate groupDid
  | prepareFinish _ h => exact prepareFinish_cutoverStep h groupDid
  | applyBegin => exact .kept (.refl _ _) rfl
  | applyFinish htask h => exact applyFinish_cutoverStep h (hi.tasks_plan htask) groupDid
  | cancel h => exact cancelGroup_cutoverStep h groupDid

end Step

end Awiki
