import AwikiOpenServer.Messaging.Groups.Outcomes

/-!
# What a refresh leaves in the projections

`refresh_hosted_local_projections` rewrites the view and the roster of every member that lives on
the Host. It only ever writes at keys of the roster it reads: a roster row whose member is no longer
in the hosted roster is not looked at, and keeps what it says.

This module says what is in the two tables afterwards (`Refreshed`), and that every accepted
operation ends with one refresh of its own group (`acceptStateChange_refreshed`,
`acceptMessage_refreshed`, `commitCreate_refreshed`). What follows for the agreement of Host and
projections is a matter of runs, and of another module.

## Two loops of upserts

A refresh is a loop over the local members of the group, and within it one over the members of the
roster: one row of `group_views` for each owner, and one of `group_member_views` for each owner and
member. As tables these are two folds of upserts, at keys that are all different
(`memberViewKeys_nodup`), so what is found at a key afterwards is the row that was written there,
and at any other key what was there before. `refresh_refreshed` is this, in the terms of a reader:
the view of an owner agrees with the head of the group and with the owner's own row
(`GroupView.Agrees`), and so does the roster, member by member.

## Before and after the refresh

An accepted operation writes much else, before and after its refresh. What the two tables need is
that nobody touches them in between (`Store.KeepsViews`), and that what is written to the messages
of the projections is of the own group (`SameMessageViews`). `RefreshedAt` puts it together: after
an accepted operation the projections of its group are those of a refresh, and those of all other
groups are as before.
-/

namespace Awiki

open Py

/-! ### The owners of local projections -/

/-- An active member that lives on this service. -/
def HostedMember.IsLocalActive (settings : Settings) (m : HostedMember) : Prop :=
  m.status = .active ∧ m.homeServiceDid = some settings.serviceDid

instance (settings : Settings) (m : HostedMember) : Decidable (m.IsLocalActive settings) :=
  inferInstanceAs (Decidable (_ ∧ _))

/-- The roster of a group, in the order of the query. -/
def rosterRows (st : Store) (groupDid : String) : List HostedMember :=
  (st.hostedGroupMembers.filter fun m ↦ decide (m.groupDid = groupDid)).insertionSort
    fun a b ↦ a.joinedAt < b.joinedAt ∨ a.joinedAt = b.joinedAt ∧ a.agentDid ≤ b.agentDid

/-- The members whose projections are rewritten. -/
def localOwners (settings : Settings) (st : Store) (groupDid : String) : List HostedMember :=
  (rosterRows st groupDid).filter fun m ↦ decide (m.IsLocalActive settings)

/-- The roster of a group is its rows. -/
theorem mem_rosterRows {st : Store} {groupDid : String} {m : HostedMember} :
    m ∈ rosterRows st groupDid ↔ m ∈ st.hostedGroupMembers ∧ m.groupDid = groupDid := by
  simp only [rosterRows, List.mem_insertionSort, List.mem_filter, decide_eq_true_eq]

/-- An owner is an active member that lives here. -/
theorem mem_localOwners {settings : Settings} {st : Store} {groupDid : String} {m : HostedMember} :
    m ∈ localOwners settings st groupDid ↔
      (m ∈ st.hostedGroupMembers ∧ m.groupDid = groupDid) ∧ m.IsLocalActive settings := by
  simp only [localOwners, List.mem_filter, mem_rosterRows, decide_eq_true_eq]

/-- Within one group the DID alone is a key. -/
theorem rosterRows_nodup {st : Store} (hk : Table.Keyed HostedMember.key st.hostedGroupMembers)
    (groupDid : String) : ((rosterRows st groupDid).map HostedMember.agentDid).Nodup := by
  have hperm := List.perm_insertionSort (fun a b : HostedMember ↦ a.joinedAt < b.joinedAt ∨
    a.joinedAt = b.joinedAt ∧ a.agentDid ≤ b.agentDid)
    (st.hostedGroupMembers.filter fun m ↦ decide (m.groupDid = groupDid))
  have hkeys : ((rosterRows st groupDid).map HostedMember.key).Nodup :=
    (hperm.map HostedMember.key).nodup_iff.mpr (hk.filter _)
  have hnodup := List.Nodup.of_map _ hkeys
  rw [List.nodup_map_iff_inj_on hnodup] at hkeys ⊢
  intro a ha b hb hab
  exact hkeys a ha b hb
    (Prod.ext ((mem_rosterRows.mp ha).2.trans (mem_rosterRows.mp hb).2.symm) hab)

/-! ### The refresh, as tables -/

/-- A refresh of a group that is there, as two loops. -/
theorem refreshHostedLocalProjections_of_found {settings : Settings} {st : Store}
    {groupDid : String} {group : HostedGroup} (updatedAt : String)
    (hfound : st.hostedGroup? groupDid = some group) :
    refreshHostedLocalProjections settings st groupDid updatedAt =
      { st with
        groupViews := Table.updateWhere
          (fun v ↦ decide (v.groupDid = groupDid ∧ v.hostServiceDid = settings.serviceDid ∧
            ∀ m ∈ localOwners settings st groupDid, m.agentDid ≠ v.ownerDid))
          (fun v ↦ { v with membershipStatus := .inactive, updatedAt := updatedAt })
          (Table.upsertAll GroupView.key (fun o ↦ hostedView group o updatedAt)
            (fun o ↦ refreshView (hostedView group o updatedAt))
            (localOwners settings st groupDid) st.groupViews)
        groupMemberViews := Table.upsertAll GroupMemberView.key
          (fun p ↦ hostedMemberView p.1 p.2 updatedAt)
          (fun p _ ↦ hostedMemberView p.1 p.2 updatedAt)
          ((localOwners settings st groupDid).flatMap fun o ↦
            (rosterRows st groupDid).map fun m ↦ (o, m))
          st.groupMemberViews } := by
  unfold refreshHostedLocalProjections
  rw [hfound]
  simp only [Table.upsertAll, List.foldl_flatMap, List.foldl_map]
  rfl

/-! ### What is in them afterwards -/

/-- The view says what the Host says of the group, and of its owner. -/
structure GroupView.Agrees (v : GroupView) (group : HostedGroup) (owner : HostedMember) : Prop where
  groupStateVersion : v.groupStateVersion = group.groupStateVersion
  groupEventSeq : v.groupEventSeq = group.groupEventSeq
  profile : v.profile = group.profile
  policy : v.policy = group.policy
  wireProfile : v.wireProfile = group.wireProfile
  memberRole : v.memberRole = owner.role.text
  membershipStatus : v.membershipStatus = .active

/-- A new view agrees with the Host, -/
theorem hostedView_agrees (group : HostedGroup) (owner : HostedMember) (updatedAt : String) :
    (hostedView group owner updatedAt).Agrees group owner := ⟨rfl, rfl, rfl, rfl, rfl, rfl, rfl⟩

/-- and so does one that is refreshed. -/
theorem refreshView_agrees (group : HostedGroup) (owner : HostedMember) (updatedAt : String)
    (old : GroupView) : (refreshView (hostedView group owner updatedAt) old).Agrees group owner :=
  ⟨rfl, rfl, rfl, rfl, rfl, rfl, rfl⟩

/-- **The projections of a group after a refresh**, from the tables before it. -/
structure Refreshed (settings : Settings) (st st' : Store) (group : HostedGroup) : Prop where
  /-- A view is its owner's, and agrees; or its owner has none, and is told so. -/
  views : ∀ v ∈ st'.groupViews, v.groupDid = group.groupDid →
    (∃ o ∈ localOwners settings st' group.groupDid, o.agentDid = v.ownerDid ∧ v.Agrees group o ∧
      (v.hostServiceDid = group.hostServiceDid)) ∨
    (∀ o ∈ localOwners settings st' group.groupDid, o.agentDid ≠ v.ownerDid) ∧
      ∃ v₀ ∈ st.groupViews, v₀.key = v.key ∧ v₀.hostServiceDid = v.hostServiceDid ∧
        (v₀.hostServiceDid = settings.serviceDid → v.membershipStatus = .inactive)
  hasView : ∀ o ∈ localOwners settings st' group.groupDid,
    ∃ v ∈ st'.groupViews, v.key = (o.agentDid, group.groupDid)
  /-- A roster row is one of the hosted roster, or **one that was not looked at**. -/
  members : ∀ r ∈ st'.groupMemberViews, r.groupDid = group.groupDid →
    (∃ o ∈ localOwners settings st' group.groupDid, ∃ m ∈ rosterRows st' group.groupDid,
      r.key = (o.agentDid, m.groupDid, m.agentDid) ∧ r.role = m.role.text ∧
        r.status = m.status.text) ∨
    r ∈ st.groupMemberViews ∧ ∀ o ∈ localOwners settings st' group.groupDid,
      ∀ m ∈ rosterRows st' group.groupDid, r.key ≠ (o.agentDid, m.groupDid, m.agentDid)
  hasMember : ∀ o ∈ localOwners settings st' group.groupDid, ∀ m ∈ rosterRows st' group.groupDid,
    ∃ r ∈ st'.groupMemberViews, r.key = (o.agentDid, m.groupDid, m.agentDid) ∧
      r.role = m.role.text ∧ r.status = m.status.text

/-- **A refresh writes no row of another group.** -/
theorem refresh_sameOn (settings : Settings) (st : Store) (groupDid updatedAt : String) :
    Table.SameOn (fun v ↦ decide (v.groupDid ≠ groupDid)) st.groupViews
        (refreshHostedLocalProjections settings st groupDid updatedAt).groupViews ∧
      Table.SameOn (fun r ↦ decide (r.groupDid ≠ groupDid)) st.groupMemberViews
        (refreshHostedLocalProjections settings st groupDid updatedAt).groupMemberViews := by
  cases hfound : st.hostedGroup? groupDid with
  | none =>
    rw [refreshHostedLocalProjections, hfound]
    exact ⟨.refl _ _, .refl _ _⟩
  | some group =>
    have hdid : group.groupDid = groupDid := Table.key_of_row? hfound
    rw [refreshHostedLocalProjections_of_found updatedAt hfound]
    constructor
    · refine (Table.SameOn.foldl _ fun t o _ ↦ ?_).trans (.updateWhere fun v hv ↦ ?_)
      · refine .upsert ⟨by simp [hostedView, hdid], fun v hv ↦ ?_⟩
        have hgroup : v.groupDid = groupDid := (congrArg Prod.snd hv).trans hdid
        exact ⟨by simp [hgroup], by simp [refreshView, hgroup]⟩
      · have hgroup := (of_decide_eq_true hv).1
        exact ⟨by simp [hgroup], by simp [hgroup]⟩
    · refine Table.SameOn.foldl _ fun t p hp ↦ ?_
      have hrow : p.2.groupDid = groupDid := by
        obtain ⟨o, -, hp⟩ := List.mem_flatMap.mp hp
        obtain ⟨m, hm, rfl⟩ := List.mem_map.mp hp
        exact (mem_rosterRows.mp hm).2
      refine .upsert ⟨by simp [hostedMemberView, hrow], fun r hr ↦ ?_⟩
      have hgroup : r.groupDid = groupDid := (congrArg (·.2.1) hr).trans hrow
      exact ⟨by simp [hgroup], by simp [hostedMemberView, hrow]⟩

section Refresh

variable {settings : Settings} {st : Store} {groupDid : String} {group : HostedGroup}
  {updatedAt : String}

/-- The pairs of an owner and a member have keys of their own. -/
theorem memberViewKeys_nodup (hk : Table.Keyed HostedMember.key st.hostedGroupMembers) :
    (((localOwners settings st groupDid).flatMap fun o ↦
      (rosterRows st groupDid).map fun m ↦ (o, m)).map fun p ↦
        (hostedMemberView p.1 p.2 updatedAt).key).Nodup := by
  have hmembers := rosterRows_nodup hk groupDid
  have howners : ((localOwners settings st groupDid).map HostedMember.agentDid).Nodup :=
    hmembers.sublist (List.filter_sublist.map _)
  have hpairs : ((localOwners settings st groupDid).flatMap fun o ↦
      (rosterRows st groupDid).map fun m ↦ (o, m)).Nodup :=
    (List.Nodup.of_map _ howners).product (List.Nodup.of_map _ hmembers)
  refine hpairs.map_on fun p hp q hq heq ↦ ?_
  obtain ⟨o, ho, m, hm, rfl⟩ := by simpa using hp
  obtain ⟨o', ho', m', hm', rfl⟩ := by simpa using hq
  have hkeys := Prod.mk.inj heq
  exact Prod.ext (List.inj_on_of_nodup_map howners ho ho' hkeys.1)
    (List.inj_on_of_nodup_map hmembers hm hm' (Prod.mk.inj hkeys.2).2)

/-- **The refresh.** -/
theorem refresh_refreshed (hk : Table.Keyed HostedMember.key st.hostedGroupMembers)
    (hfound : st.hostedGroup? group.groupDid = some group) :
    Refreshed settings st (refreshHostedLocalProjections settings st group.groupDid updatedAt)
      group := by
  rw [refreshHostedLocalProjections_of_found updatedAt hfound]
  -- The two upserts write each key once: an owner has one view, and one row for each member.
  have hmembers := rosterRows_nodup hk group.groupDid
  have howners : ((localOwners settings st group.groupDid).map fun o ↦
      (hostedView group o updatedAt).key).Nodup := by
    have hdids : ((localOwners settings st group.groupDid).map HostedMember.agentDid).Nodup :=
      hmembers.sublist (List.filter_sublist.map _)
    refine List.Nodup.of_map Prod.fst ?_
    rwa [List.map_map]
  have hviewkey : ∀ o (v : GroupView), v.key = (hostedView group o updatedAt).key →
      (refreshView (hostedView group o updatedAt) v).key = (hostedView group o updatedAt).key :=
    fun _ _ h ↦ h
  have hrowkey : ∀ (p : HostedMember × HostedMember) (r : GroupMemberView),
      r.key = (hostedMemberView p.1 p.2 updatedAt).key →
        (hostedMemberView p.1 p.2 updatedAt).key = (hostedMemberView p.1 p.2 updatedAt).key :=
    fun _ _ _ ↦ rfl
  have hpair : ∀ {p : HostedMember × HostedMember},
      p ∈ ((localOwners settings st group.groupDid).flatMap fun o ↦
        (rosterRows st group.groupDid).map fun m ↦ (o, m)) ↔
      p.1 ∈ localOwners settings st group.groupDid ∧ p.2 ∈ rosterRows st group.groupDid := by
    intro p
    simp only [List.mem_flatMap, List.mem_map]
    constructor
    · rintro ⟨o, ho, m, hm, rfl⟩
      exact ⟨ho, hm⟩
    · rintro ⟨ho, hm⟩
      exact ⟨p.1, ho, p.2, hm, rfl⟩
  -- What is in the tables after the refresh, and what must be: views first, then rows.
  refine ⟨fun v hv hgroup ↦ ?_, fun o ho ↦ ?_, fun r hr hgroup ↦ ?_, fun o ho m hm ↦ ?_⟩
  · obtain ⟨v₁, hv₁, hv⟩ := Table.mem_updateWhere.mp hv
    rcases Table.upserted_or_kept_all hviewkey howners hv₁ with ⟨o, ho, hwritten⟩ | ⟨hold, hne⟩
    · -- The view of an owner is not among those the last statement ends.
      have hwritten : o.agentDid = v₁.ownerDid ∧ v₁.Agrees group o ∧
          v₁.hostServiceDid = group.hostServiceDid := by
        rcases hwritten with rfl | ⟨v₀, -, hkey, rfl⟩
        · exact ⟨rfl, hostedView_agrees .., rfl⟩
        · exact ⟨(congrArg Prod.fst hkey).symm, refreshView_agrees .., rfl⟩
      have hkept : decide (v₁.groupDid = group.groupDid ∧
          v₁.hostServiceDid = settings.serviceDid ∧
          ∀ m ∈ localOwners settings st group.groupDid, m.agentDid ≠ v₁.ownerDid) = false :=
        decide_eq_false fun h ↦ h.2.2 o ho hwritten.1
      rw [hkept] at hv
      obtain rfl := hv
      exact .inl ⟨o, ho, hwritten⟩
    · have hsame : v₁.ownerDid = v.ownerDid ∧ v₁.groupDid = v.groupDid ∧
          v₁.hostServiceDid = v.hostServiceDid := by
        rw [← hv]
        split <;> exact ⟨rfl, rfl, rfl⟩
      have howner : ∀ o ∈ localOwners settings st group.groupDid, o.agentDid ≠ v.ownerDid :=
        fun o ho heq ↦ hne o ho (Prod.ext (hsame.1.trans heq.symm) (hsame.2.1.trans hgroup))
      refine .inr ⟨howner, v₁, hold, Prod.ext hsame.1 hsame.2.1, hsame.2.2, fun hhost ↦ ?_⟩
      have hended : decide (v₁.groupDid = group.groupDid ∧
          v₁.hostServiceDid = settings.serviceDid ∧
          ∀ m ∈ localOwners settings st group.groupDid, m.agentDid ≠ v₁.ownerDid) = true :=
        decide_eq_true ⟨hsame.2.1.trans hgroup, hhost, fun o ho ↦ hsame.1 ▸ howner o ho⟩
      rw [hended] at hv
      rw [← hv]
      rfl
  · obtain ⟨v, hv, hkey⟩ := Table.exists_key_upsertAll (t := st.groupViews) hviewkey ho
    refine ⟨_, Table.mem_updateWhere.mpr ⟨v, hv, rfl⟩, ?_⟩
    split <;> exact hkey
  · rcases Table.upserted_or_kept_all hrowkey (memberViewKeys_nodup hk) hr with
      ⟨p, hp, hwritten⟩ | ⟨hold, hne⟩
    · obtain ⟨ho, hm⟩ := hpair.mp hp
      refine .inl ⟨p.1, ho, p.2, hm, ?_⟩
      rcases hwritten with rfl | ⟨_, -, -, rfl⟩ <;> exact ⟨rfl, rfl, rfl⟩
    · exact .inr ⟨hold, fun o ho m hm ↦ hne (o, m) (hpair.mpr ⟨ho, hm⟩)⟩
  · obtain ⟨r, hr, hkey⟩ := Table.exists_key_upsertAll (t := st.groupMemberViews) hrowkey
      (hpair.mpr ⟨ho, hm⟩ : (o, m) ∈ _)
    refine ⟨r, hr, hkey, ?_⟩
    rcases Table.upserted_or_kept_all hrowkey (memberViewKeys_nodup hk) hr with
      ⟨p, hp, hwritten⟩ | ⟨-, hne⟩
    · -- The key tells which pair has written the row.
      have hsame : p = (o, m) := by
        have hpkey : (hostedMemberView p.1 p.2 updatedAt).key = r.key := by
          rcases hwritten with rfl | ⟨_, -, -, rfl⟩ <;> rfl
        exact List.inj_on_of_nodup_map (memberViewKeys_nodup hk) hp (hpair.mpr ⟨ho, hm⟩)
          (hpkey.trans hkey)
      subst hsame
      rcases hwritten with rfl | ⟨_, -, -, rfl⟩ <;> exact ⟨rfl, rfl⟩
    · exact absurd hkey (hne (o, m) (hpair.mpr ⟨ho, hm⟩))

end Refresh

/-! ### Every accepted operation refreshes its group -/

/-- The tables a refresh reads and writes are the same. -/
structure Store.KeepsViews (st st' : Store) : Prop where
  hostedGroups : st'.hostedGroups = st.hostedGroups
  hostedGroupMembers : st'.hostedGroupMembers = st.hostedGroupMembers
  groupViews : st'.groupViews = st.groupViews
  groupMemberViews : st'.groupMemberViews = st.groupMemberViews
  groupMessageViews : st'.groupMessageViews = st.groupMessageViews

namespace Store.KeepsViews

/-- Nothing is written. -/
theorem refl (st : Store) : st.KeepsViews st := ⟨rfl, rfl, rfl, rfl, rfl⟩

/-- One write after the other. -/
theorem trans {a b c : Store} (hab : a.KeepsViews b) (hbc : b.KeepsViews c) : a.KeepsViews c where
  hostedGroups := hbc.hostedGroups.trans hab.hostedGroups
  hostedGroupMembers := hbc.hostedGroupMembers.trans hab.hostedGroupMembers
  groupViews := hbc.groupViews.trans hab.groupViews
  groupMemberViews := hbc.groupMemberViews.trans hab.groupMemberViews
  groupMessageViews := hbc.groupMessageViews.trans hab.groupMessageViews

/-- Entries of the sync log are no views, -/
theorem syncActiveMembers (st : Store) (groupDid eventType : String) (payload : Obj)
    (now : String) : st.KeepsViews (syncActiveMembers st groupDid eventType payload now) :=
  syncActiveMembers_rel refl trans fun _ _ ↦ ⟨rfl, rfl, rfl, rfl, rfl⟩

/-- nor are rows of the outbox, -/
theorem enqueueAll (st : Store) (groupDid createdAt : String) (groupEventSeq : ℕ)
    (method : GroupMethod) (envelopeFor : String → Obj) (members : List HostedMember) :
    st.KeepsViews (enqueueAll st groupDid groupEventSeq method envelopeFor createdAt members) := by
  obtain ⟨rows, hrows⟩ :=
    enqueueAll_eq groupDid createdAt groupEventSeq method envelopeFor members st
  rw [hrows]
  exact ⟨rfl, rfl, rfl, rfl, rfl⟩

/-- nor is an event, -/
theorem writeEvent {st st' : Store} {ctx : GroupRequest} {groupDid eventType createdAt : String}
    {stateVersion eventSeq : ℕ} {payload receipt : Obj}
    (h : writeEvent st ctx groupDid stateVersion eventSeq eventType payload receipt createdAt =
      .ok st') : st.KeepsViews st' := by
  rw [writeEvent_eq_ok h]
  exact ⟨rfl, rfl, rfl, rfl, rfl⟩

/-- nor is a stored result. -/
theorem storeOperation {st st' : Store} {ctx : GroupRequest} {scope createdAt : String}
    {result result' : Obj} (h : storeOperation st ctx scope result createdAt = .ok (result', st')) :
    st.KeepsViews st' := by
  obtain ⟨-, op, -, -, -, -, rfl⟩ := storeOperation_eq_ok h
  exact ⟨rfl, rfl, rfl, rfl, rfl⟩

/-- What a state change tells its members, up to the refresh. -/
theorem toldMembers (st : Store) (groupDid eventType : String) (payload : Obj) (now : String)
    (departed : Option String) (tell : String → Bool) :
    st.KeepsViews (match departed with
      | some did =>
        if tell did then
          addSyncEvent (Awiki.syncActiveMembers st groupDid eventType payload now) did eventType
            payload now
        else Awiki.syncActiveMembers st groupDid eventType payload now
      | none => Awiki.syncActiveMembers st groupDid eventType payload now) := by
  have hsync := syncActiveMembers st groupDid eventType payload now
  cases departed with
  | none => exact hsync
  | some did =>
    dsimp only
    split
    · exact hsync.trans ⟨rfl, rfl, rfl, rfl, rfl⟩
    · exact hsync

/-- What a message tells its members, after it was projected. -/
theorem told_incoming (settings : Settings) (st : Store) (groupDid : String)
    (stateVersion eventSeq : ℕ) (ctx : GroupRequest) (receipt : Obj) (now : String)
    (payload : Obj) :
    st.KeepsViews (Awiki.syncActiveMembers (enqueueIncomingMessage settings st groupDid stateVersion
      eventSeq ctx.metaObj ctx.body ctx.auth receipt now) groupDid "group.message.created" payload
      now) :=
  trans (enqueueAll ..) (syncActiveMembers ..)

end Store.KeepsViews

/-- **The projections of one group were refreshed**, on top of the views there were. -/
def RefreshedAt (settings : Settings) (st st' : Store) (groupDid : String) : Prop :=
  ∃ s updatedAt, s.groupViews = st.groupViews ∧ s.groupMemberViews = st.groupMemberViews ∧
    s.hostedGroups = st'.hostedGroups ∧ s.hostedGroupMembers = st'.hostedGroupMembers ∧
    st'.groupViews = (refreshHostedLocalProjections settings s groupDid updatedAt).groupViews ∧
    st'.groupMemberViews =
      (refreshHostedLocalProjections settings s groupDid updatedAt).groupMemberViews

/-- Rows of other groups in the message views are as before. -/
def SameMessageViews (groupDid : String) (st st' : Store) : Prop :=
  Table.SameOn (fun v ↦ decide (v.groupDid ≠ groupDid)) st.groupMessageViews st'.groupMessageViews

/-- The hosted tables are not what a refresh writes. -/
theorem refresh_hosted (settings : Settings) (st : Store) (groupDid updatedAt : String) :
    (refreshHostedLocalProjections settings st groupDid updatedAt).hostedGroups =
        st.hostedGroups ∧
      (refreshHostedLocalProjections settings st groupDid updatedAt).hostedGroupMembers =
        st.hostedGroupMembers ∧
      (refreshHostedLocalProjections settings st groupDid updatedAt).groupMessageViews =
        st.groupMessageViews := by
  obtain ⟨views, memberViews, h⟩ :=
    refreshHostedLocalProjections_eq settings st groupDid updatedAt
  rw [h]
  exact ⟨rfl, rfl, rfl⟩

/-- A refresh between writes that keep the views. -/
theorem RefreshedAt.of_keeps {settings : Settings} {st s st' : Store} {groupDid updatedAt : String}
    (hviews : s.groupViews = st.groupViews) (hmembers : s.groupMemberViews = st.groupMemberViews)
    (hafter : (refreshHostedLocalProjections settings s groupDid updatedAt).KeepsViews st') :
    RefreshedAt settings st st' groupDid := by
  have hhosted := refresh_hosted settings s groupDid updatedAt
  exact ⟨s, updatedAt, hviews, hmembers, (hafter.hostedGroups.trans hhosted.1).symm,
    (hafter.hostedGroupMembers.trans hhosted.2.1).symm, hafter.groupViews, hafter.groupMemberViews⟩

/-- A projected message is one of its group. -/
theorem projectHostedMessage_sameMessageViews (settings : Settings) (st : Store)
    (groupDid : String) (viewFor : String → GroupMessageView)
    (hgroup : ∀ owner, (viewFor owner).groupDid = groupDid) :
    SameMessageViews groupDid st
      (projectHostedMessageForLocalMembers settings st groupDid viewFor) := by
  refine Table.SameOn.foldl _ fun rows o _ ↦ ?_
  dsimp only
  split
  · exact .refl _ _
  · exact .append fun v hv ↦ by simp [List.mem_singleton.mp hv, hgroup]

section Tails

variable {settings : Settings} {st st' : Store} {req : Request} {ctx : GroupRequest} {result : Obj}

/-- **An accepted state change refreshes its group.** -/
theorem acceptStateChange_refreshed {group : HostedGroup} {change : StateChange}
    (h : acceptStateChange settings st req ctx group change = .ok (result, st')) :
    RefreshedAt settings st st' group.groupDid ∧ SameMessageViews group.groupDid st st' := by
  unfold acceptStateChange at h
  obtain ⟨receipt, -, h⟩ := bind_eq_ok.mp h
  obtain ⟨st₁, hevent, h⟩ := bind_eq_ok.mp h
  obtain ⟨⟨result₁, st₂⟩, hop, h⟩ := bind_eq_ok.mp h
  obtain ⟨st₃, henqueue, h⟩ := bind_eq_ok.mp h
  rw [pure_eq_ok, Prod.mk.injEq] at h
  obtain ⟨-, rfl⟩ := h
  have hwritten := (Store.KeepsViews.writeEvent hevent).trans (.storeOperation hop)
  have hafter : ∀ s, enqueueStateChanged settings s group.groupDid (group.groupEventSeq + 1)
      (stateEvent ctx group.groupDid change (group.groupStateVersion + 1)
        (group.groupEventSeq + 1) req.outside.now receipt) req.outside.now = .ok st₃ →
      s.KeepsViews st₃ := by
    intro s hs
    unfold enqueueStateChanged at hs
    obtain ⟨_, -, hs⟩ := bind_eq_ok.mp hs
    obtain ⟨_, -, hs⟩ := bind_eq_ok.mp hs
    obtain ⟨_, -, hs⟩ := bind_eq_ok.mp hs
    rw [pure_eq_ok] at hs
    rw [← hs]
    exact .enqueueAll ..
  have hkept := hafter _ henqueue
  unfold tellLocalMembers at hkept
  have hbefore := hwritten.trans (Store.KeepsViews.toldMembers st₂ group.groupDid
    change.syncEventType (stateEvent ctx group.groupDid change (group.groupStateVersion + 1)
      (group.groupEventSeq + 1) req.outside.now receipt) req.outside.now change.departed
    fun did ↦ ctx.profile = .v2 && userExists (syncActiveMembers st₂ group.groupDid
      change.syncEventType (stateEvent ctx group.groupDid change (group.groupStateVersion + 1)
        (group.groupEventSeq + 1) req.outside.now receipt) req.outside.now) did)
  refine ⟨.of_keeps hbefore.groupViews hbefore.groupMemberViews hkept, ?_⟩
  rw [SameMessageViews, hkept.groupMessageViews, (refresh_hosted ..).2.2]
  exact hbefore.groupMessageViews ▸ .refl _ _

/-- **So does an accepted message,** -/
theorem acceptMessage_refreshed {group : HostedGroup} {messageId contentType : String}
    (h : acceptMessage settings st req ctx group messageId contentType = .ok (result, st')) :
    RefreshedAt settings st st' group.groupDid ∧ SameMessageViews group.groupDid st st' := by
  unfold acceptMessage at h
  obtain ⟨receipt, -, h⟩ := bind_eq_ok.mp h
  obtain ⟨_, -, h⟩ := bind_eq_ok.mp h
  obtain ⟨st₁, hevent, h⟩ := bind_eq_ok.mp h
  obtain ⟨⟨result₁, st₂⟩, hop, h⟩ := bind_eq_ok.mp h
  rw [pure_eq_ok, Prod.mk.injEq] at h
  obtain ⟨-, rfl⟩ := h
  have hbefore := (Store.KeepsViews.writeEvent hevent).trans (.storeOperation hop)
  have hhosted := refresh_hosted settings st₂ group.groupDid req.outside.now
  have hmessages := projectHostedMessage_sameMessageViews settings
    (refreshHostedLocalProjections settings st₂ group.groupDid req.outside.now) group.groupDid
    (hostedMessageView ctx group.groupDid messageId contentType req.outside.now
      group.groupStateVersion (group.groupEventSeq + 1) receipt group.wireProfile) fun _ ↦ rfl
  -- Only the message views change between the refresh and the notifications.
  have hafter := Store.KeepsViews.told_incoming settings (projectHostedMessageForLocalMembers
    settings (refreshHostedLocalProjections settings st₂ group.groupDid req.outside.now)
    group.groupDid (hostedMessageView ctx group.groupDid messageId contentType req.outside.now
      group.groupStateVersion (group.groupEventSeq + 1) receipt group.wireProfile))
    group.groupDid group.groupStateVersion (group.groupEventSeq + 1) ctx receipt req.outside.now
    (messageCreated group.groupDid messageId ctx.senderDid contentType
      (group.groupEventSeq + 1 : ℕ))
  refine ⟨⟨st₂, req.outside.now, hbefore.groupViews, hbefore.groupMemberViews,
    (hafter.hostedGroups.trans hhosted.1).symm, (hafter.hostedGroupMembers.trans hhosted.2.1).symm,
    hafter.groupViews, hafter.groupMemberViews⟩, ?_⟩
  rw [SameMessageViews] at hmessages ⊢
  rw [hafter.groupMessageViews]
  rw [hhosted.2.2, hbefore.groupMessageViews] at hmessages
  exact hmessages

/-- **and so does a creation.** -/
theorem commitCreate_refreshed {groupDid : String} {document profile policy : Obj}
    {keyPath : String} {creator : Option VerifiedHandleBinding} {prepared : List PreparedMember}
    (h : commitCreate settings st req ctx groupDid document profile policy keyPath creator
      prepared = .ok (result, st')) :
    RefreshedAt settings st st' groupDid ∧ SameMessageViews groupDid st st' := by
  unfold commitCreate at h
  obtain ⟨groups, -, h⟩ := bind_eq_ok.mp h
  obtain ⟨st₁, hinsert, h⟩ := bind_eq_ok.mp h
  obtain ⟨documents, -, h⟩ := bind_eq_ok.mp h
  obtain ⟨didDocuments, -, h⟩ := bind_eq_ok.mp h
  obtain ⟨receipt, -, h⟩ := bind_eq_ok.mp h
  obtain ⟨st₂, hevent, h⟩ := bind_eq_ok.mp h
  obtain ⟨⟨result₁, st₃⟩, hop, h⟩ := bind_eq_ok.mp h
  rw [pure_eq_ok, Prod.mk.injEq] at h
  obtain ⟨-, rfl⟩ := h
  obtain ⟨rfl, -⟩ := insertMembers_eq_ok hinsert
  have hbefore := ((Store.KeepsViews.writeEvent hevent).trans (.storeOperation hop)).trans
    (.syncActiveMembers st₃ groupDid "group.created" [("group_did", .str groupDid)]
      req.outside.now)
  refine ⟨.of_keeps hbefore.groupViews hbefore.groupMemberViews (.refl _), ?_⟩
  rw [SameMessageViews, (refresh_hosted ..).2.2]
  exact hbefore.groupMessageViews ▸ .refl _ _

end Tails

end Awiki
