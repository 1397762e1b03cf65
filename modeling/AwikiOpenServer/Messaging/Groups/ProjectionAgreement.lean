import AwikiOpenServer.Messaging.Groups.Independence
import AwikiOpenServer.Messaging.Groups.Migration
import AwikiOpenServer.Messaging.Groups.Recipients

/-!
# Local projections against the Host

After every hosted operation, and after a migration, the members that live on the Host see in their
projections what the Host stores: head, profile, policy, their own role, the active roster.

The roster is the delicate part, because a refresh writes only at keys of the hosted roster. A
member that leaves keeps its hosted row, so its row in the projections is rewritten as well; **only
a rebind takes a key out of the hosted roster**, and then the rows of the previous DID stay as they
were, active, with every other local owner. The invariant that makes the agreement go through says
that no such row exists (`ProjectionInv.ownRows`), and the condition on a run is that no rebind
leaves one.

## What agrees

`ProjectionAgrees` compares the group as it is hosted with what each local owner's rows say: the
view has the head's version pair, profile, policy and state, the owner's role and status, and the
active entries of the roster are the active members with their roles. It is stated in both
directions, so that an owner sees no member the Host does not have.

It holds after every operation and not during one, which is why the invariant is about the states
between transactions. An operation writes one group and refreshes it (`GroupWritten`), so its own
group agrees whatever was there before, up to orphans, and all others agree as they did.

## What else writes

A migration rewrites the head of a group twice and refreshes it when it is applied. While a
preparation is under way the state of the head differs and nothing else does; the invariant does not
speak of it (`ProjectionInv.restated`). Requests of the rest of the server write no hosted rows and
no projections of hosted groups.
-/

namespace Awiki

open Py Runs

/-! ### Agreement -/

/-- **The local projections of a group agree with the Host.** -/
structure ProjectionAgrees (settings : Settings) (st : Store) (group : HostedGroup) : Prop where
  /-- A local active member has its view, and it says what the Host says. -/
  views : ∀ o ∈ localOwners settings st group.groupDid,
    (∃ v ∈ st.groupViews, v.key = (o.agentDid, group.groupDid)) ∧
      ∀ v ∈ st.groupViews, v.key = (o.agentDid, group.groupDid) → v.Agrees group o
  /-- Its active roster rows are the active members. -/
  rosters : ∀ o ∈ localOwners settings st group.groupDid, ∀ did role,
    (∃ r ∈ st.groupMemberViews, r.key = (o.agentDid, group.groupDid, did) ∧ r.role = role ∧
        r.status = MemberStatus.active.text) ↔
      ∃ m ∈ rosterRows st group.groupDid, m.agentDid = did ∧ m.role.text = role ∧
        m.status = .active
  /-- Nobody else has an active view. -/
  owners : ∀ v ∈ st.groupViews, v.groupDid = group.groupDid → v.membershipStatus = .active →
    ∃ o ∈ localOwners settings st group.groupDid, o.agentDid = v.ownerDid

/-- A status is known by its text. -/
theorem MemberStatus.text_eq_active {s : MemberStatus} :
    s.text = MemberStatus.active.text ↔ s = .active := by
  cases s <;> simp [MemberStatus.text]

section Agreement

variable {settings : Settings} {st st' : Store} {group : HostedGroup}

/-- The owners are read off the roster. -/
theorem localOwners_congr (h : st'.hostedGroupMembers = st.hostedGroupMembers) (groupDid : String) :
    localOwners settings st' groupDid = localOwners settings st groupDid := by
  rw [localOwners, localOwners, rosterRows, rosterRows, h]

/-- A refresh at the end of an operation, as a fact about the store after it. -/
theorem RefreshedAt.refreshed (h : RefreshedAt settings st st' group.groupDid)
    (hk : Table.Keyed HostedMember.key st'.hostedGroupMembers)
    (hfound : st'.hostedGroup? group.groupDid = some group) :
    Refreshed settings st st' group := by
  obtain ⟨s, updatedAt, hviews, hmembers, hgroups, hroster, hviews', hmembers'⟩ := h
  rw [← hroster] at hk
  have hfound' : s.hostedGroup? group.groupDid = some group := by
    rw [Store.hostedGroup?, hgroups]
    exact hfound
  have href : Refreshed settings s
      (refreshHostedLocalProjections settings s group.groupDid updatedAt) group :=
    refresh_refreshed hk hfound'
  have hafter : (refreshHostedLocalProjections settings s group.groupDid
      updatedAt).hostedGroupMembers = st'.hostedGroupMembers :=
    (refresh_hosted settings s group.groupDid updatedAt).2.1.trans hroster
  have howners : localOwners settings (refreshHostedLocalProjections settings s group.groupDid
      updatedAt) group.groupDid = localOwners settings st' group.groupDid :=
    localOwners_congr hafter group.groupDid
  have hrows : rosterRows (refreshHostedLocalProjections settings s group.groupDid updatedAt)
      group.groupDid = rosterRows st' group.groupDid := by
    rw [rosterRows, rosterRows, hafter]
  obtain ⟨h₁, h₂, h₃, h₄⟩ := href
  rw [howners, ← hviews'] at h₁ h₂
  rw [howners, hrows, ← hmembers'] at h₃ h₄
  rw [hviews] at h₁
  rw [hmembers] at h₃
  exact ⟨h₁, h₂, h₃, h₄⟩

/-- **After a refresh the projections agree**, provided every active roster row is of a member the
refresh has looked at. -/
theorem Refreshed.agrees (h : Refreshed settings st st' group)
    (hk : Table.Keyed HostedMember.key st'.hostedGroupMembers)
    (hhosts : ∀ v ∈ st.groupViews, v.groupDid = group.groupDid →
      v.hostServiceDid = settings.serviceDid)
    (hrows : ∀ r ∈ st'.groupMemberViews, r.groupDid = group.groupDid →
      r.status = MemberStatus.active.text → r.ownerDid = r.agentDid ∨
        ∃ m ∈ rosterRows st' group.groupDid, m.agentDid = r.agentDid) :
    ProjectionAgrees settings st' group where
  views o ho := by
    refine ⟨h.hasView o ho, fun v hv hkey ↦ ?_⟩
    obtain ⟨howner, hgroup⟩ := Prod.mk.inj hkey
    rcases h.views v hv hgroup with ⟨o', ho', howner', hagrees, -⟩ | ⟨hnone, -⟩
    · -- The owners of a roster have different DIDs, so a view tells whose it is.
      have hsame : o' = o := by
        have hnodup : ((localOwners settings st' group.groupDid).map HostedMember.agentDid).Nodup :=
          (rosterRows_nodup hk group.groupDid).sublist (List.filter_sublist.map _)
        exact List.inj_on_of_nodup_map hnodup ho' ho (howner'.trans howner)
      exact hsame ▸ hagrees
    · exact absurd howner.symm (hnone o ho)
  rosters o ho did role := by
    constructor
    · rintro ⟨r, hr, hkey, hrole, hactive⟩
      obtain ⟨howner, hgroup, hdid⟩ : r.ownerDid = o.agentDid ∧ r.groupDid = group.groupDid ∧
        r.agentDid = did := ⟨congrArg (·.1) hkey, congrArg (·.2.1) hkey, congrArg (·.2.2) hkey⟩
      rcases h.members r hr hgroup with ⟨o', -, m, hm, hmkey, hmrole, hmstatus⟩ | ⟨-, hstale⟩
      · refine ⟨m, hm, ?_, hmrole.symm.trans hrole,
          MemberStatus.text_eq_active.mp (hmstatus.symm.trans hactive)⟩
        exact (congrArg (·.2.2) hmkey).symm.trans hdid
      · -- A row the refresh has not looked at is not active.
        obtain ⟨m, hm, hmdid⟩ : ∃ m ∈ rosterRows st' group.groupDid, m.agentDid = r.agentDid := by
          rcases hrows r hr hgroup hactive with hown | hmember
          · exact ⟨o, (List.mem_filter.mp ho).1, howner.symm.trans hown⟩
          · exact hmember
        refine absurd ?_ (hstale o ho m hm)
        rw [(mem_rosterRows.mp hm).2, hmdid, ← howner, ← hgroup]
        rfl
    · rintro ⟨m, hm, rfl, rfl, hactive⟩
      obtain ⟨r, hr, hkey, hrole, hstatus⟩ := h.hasMember o ho m hm
      rw [(mem_rosterRows.mp hm).2] at hkey
      exact ⟨r, hr, hkey, hrole, hstatus.trans (MemberStatus.text_eq_active.mpr hactive)⟩
  owners v hv hgroup hactive := by
    rcases h.views v hv hgroup with ⟨o, ho, howner, -⟩ | ⟨-, v₀, hv₀, hkey, -, hended⟩
    · exact ⟨o, ho, howner⟩
    · have hhost := hhosts v₀ hv₀ ((congrArg Prod.snd hkey).trans hgroup)
      rw [hended hhost] at hactive
      cases hactive

/-- Agreement reads one group: its head up to the protocol state, its members, its projections. -/
theorem ProjectionAgrees.congr {group' : HostedGroup} (h : ProjectionAgrees settings st group)
    (hdid : group'.groupDid = group.groupDid)
    (hagrees : ∀ v o, GroupView.Agrees v group o → GroupView.Agrees v group' o)
    (hmembers : Table.SameOn (fun m ↦ decide (m.groupDid = group.groupDid)) st.hostedGroupMembers
      st'.hostedGroupMembers)
    (hviews : Table.SameOn (fun v ↦ decide (v.groupDid = group.groupDid)) st.groupViews
      st'.groupViews)
    (hrows : Table.SameOn (fun r ↦ decide (r.groupDid = group.groupDid)) st.groupMemberViews
      st'.groupMemberViews) : ProjectionAgrees settings st' group' := by
  have hroster : rosterRows st' group.groupDid = rosterRows st group.groupDid := by
    rw [rosterRows, rosterRows]
    exact congrArg _ hmembers
  have howners : localOwners settings st' group.groupDid =
      localOwners settings st group.groupDid := by
    rw [localOwners, localOwners, hroster]
  have hview : ∀ {v : GroupView}, v.groupDid = group.groupDid →
      (v ∈ st'.groupViews ↔ v ∈ st.groupViews) := fun hv ↦ hviews.mem_iff (decide_eq_true hv)
  have hrow : ∀ {r : GroupMemberView}, r.groupDid = group.groupDid →
      (r ∈ st'.groupMemberViews ↔ r ∈ st.groupMemberViews) :=
    fun hr ↦ hrows.mem_iff (decide_eq_true hr)
  constructor
  · rw [hdid, howners]
    intro o ho
    obtain ⟨⟨v, hv, hkey⟩, hall⟩ := h.views o ho
    refine ⟨⟨v, (hview (congrArg Prod.snd hkey)).mpr hv, hkey⟩, fun v hv hkey ↦ ?_⟩
    exact hagrees v o (hall v ((hview (congrArg Prod.snd hkey)).mp hv) hkey)
  · rw [hdid, howners, hroster]
    intro o ho did role
    rw [← h.rosters o ho did role]
    refine ⟨?_, ?_⟩ <;> rintro ⟨r, hr, hkey, hrest⟩
    · exact ⟨r, (hrow (congrArg (·.2.1) hkey)).mp hr, hkey, hrest⟩
    · exact ⟨r, (hrow (congrArg (·.2.1) hkey)).mpr hr, hkey, hrest⟩
  · rw [hdid, howners]
    exact fun v hv hgroup hactive ↦ h.owners v ((hview hgroup).mp hv) hgroup hactive

end Agreement

/-! ### The invariant -/

/-- **What every reachable state has.** -/
structure ProjectionInv (settings : Settings) (st : Store) : Prop where
  groups_keyed : Table.Keyed HostedGroup.groupDid st.hostedGroups
  members_keyed : Table.Keyed HostedMember.key st.hostedGroupMembers
  owned : MembersOwned st
  hosts : ∀ g ∈ st.hostedGroups, g.hostServiceDid = settings.serviceDid ∧
    didBelongsToDomain g.groupDid settings.didDomain = true
  /-- A view of a group of this domain is one of a group hosted here. -/
  ownViews : ∀ v ∈ st.groupViews, didBelongsToDomain v.groupDid settings.didDomain = true →
    v.hostServiceDid = settings.serviceDid
  /-- **An active roster row is its owner's own, or its member is in the hosted roster.** -/
  ownRows : ∀ r ∈ st.groupMemberViews, didBelongsToDomain r.groupDid settings.didDomain = true →
    r.status = MemberStatus.active.text → r.ownerDid = r.agentDid ∨
      ∃ m ∈ st.hostedGroupMembers, m.key = (r.groupDid, r.agentDid)
  agrees : ∀ g ∈ st.hostedGroups, ProjectionAgrees settings st g

/-- **One group was written**, and its projections were refreshed at the end. -/
structure GroupWritten (settings : Settings) (st st' : Store) (group : HostedGroup) : Prop where
  found : st'.hostedGroup? group.groupDid = some group
  host : group.hostServiceDid = settings.serviceDid
  domain : didBelongsToDomain group.groupDid settings.didDomain = true
  groups_keyed : Table.Keyed HostedGroup.groupDid st'.hostedGroups
  members_keyed : Table.Keyed HostedMember.key st'.hostedGroupMembers
  otherGroups : ∀ h, h ≠ group.groupDid →
    Table.SameOn (fun g ↦ decide (g.groupDid = h)) st.hostedGroups st'.hostedGroups
  otherMembers : ∀ h, h ≠ group.groupDid →
    Table.SameOn (fun m ↦ decide (m.groupDid = h)) st.hostedGroupMembers st'.hostedGroupMembers
  refreshed : RefreshedAt settings st st' group.groupDid

/-- The members of a write keep their keys, as far as active roster rows of other owners depend on
them. -/
def KeepsListed (st st' : Store) (groupDid : String) : Prop :=
  ∀ r ∈ st.groupMemberViews, r.groupDid = groupDid → r.status = MemberStatus.active.text →
    r.ownerDid ≠ r.agentDid → (∃ m ∈ st.hostedGroupMembers, m.key = (groupDid, r.agentDid)) →
      ∃ m ∈ st'.hostedGroupMembers, m.key = (groupDid, r.agentDid)

section Steps

variable {settings : Settings} {st st' : Store}

/-- **The step lemma**, for writes of one group. -/
theorem ProjectionInv.written {group : HostedGroup} (hi : ProjectionInv settings st)
    (hw : GroupWritten settings st st' group) (hkept : KeepsListed st st' group.groupDid) :
    ProjectionInv settings st' := by
  have href := hw.refreshed.refreshed hw.members_keyed hw.found
  have hmem : group ∈ st'.hostedGroups := Table.mem_of_row? hw.found
  have hother : ∀ {g : HostedGroup}, g.groupDid ≠ group.groupDid →
      (g ∈ st'.hostedGroups ↔ g ∈ st.hostedGroups) :=
    fun hne ↦ (hw.otherGroups _ hne).mem_iff (decide_eq_true rfl)
  have hmember : ∀ {m : HostedMember}, m.groupDid ≠ group.groupDid →
      (m ∈ st'.hostedGroupMembers ↔ m ∈ st.hostedGroupMembers) :=
    fun hne ↦ (hw.otherMembers _ hne).mem_iff (decide_eq_true rfl)
  have hsame := fun h (hne : h ≠ group.groupDid) ↦ hw.refreshed.sameOn hne
  -- An active row about somebody else is one the refresh wrote, or an old one whose member the step
  -- has kept.
  have hrows : ∀ r ∈ st'.groupMemberViews, r.groupDid = group.groupDid →
      r.status = MemberStatus.active.text → r.ownerDid = r.agentDid ∨
        ∃ m ∈ rosterRows st' group.groupDid, m.agentDid = r.agentDid := by
    intro r hr hgroup hactive
    rcases href.members r hr hgroup with ⟨o, -, m, hm, hkey, -⟩ | ⟨hold, -⟩
    · exact .inr ⟨m, hm, (congrArg (·.2.2) hkey).symm⟩
    · by_cases hown : r.ownerDid = r.agentDid
      · exact .inl hown
      · rcases hi.ownRows r hold (hgroup ▸ hw.domain) hactive with h | hlisted
        · exact absurd h hown
        · obtain ⟨m, hm, hkey⟩ := hkept r hold hgroup hactive hown (hgroup ▸ hlisted)
          exact .inr ⟨m, mem_rosterRows.mpr ⟨hm, congrArg Prod.fst hkey⟩, congrArg Prod.snd hkey⟩
  -- Each field for the group that was written, by the refresh, and for the others, as before.
  refine ⟨hw.groups_keyed, hw.members_keyed, fun m hm ↦ ?_, fun g hg ↦ ?_, fun v hv hdomain ↦ ?_,
    fun r hr hdomain hactive ↦ ?_, fun g hg ↦ ?_⟩
  · by_cases hgroup : m.groupDid = group.groupDid
    · exact ⟨group, hmem, hgroup.symm⟩
    · obtain ⟨g, hg, hdid⟩ := hi.owned m ((hmember hgroup).mp hm)
      exact ⟨g, (hother (hdid ▸ hgroup)).mpr hg, hdid⟩
  · by_cases hgroup : g.groupDid = group.groupDid
    · obtain rfl := hw.groups_keyed.eq_of_key_eq hg hmem hgroup
      exact ⟨hw.host, hw.domain⟩
    · exact hi.hosts g ((hother hgroup).mp hg)
  · by_cases hgroup : v.groupDid = group.groupDid
    · rcases href.views v hv hgroup with ⟨_, -, -, -, hhost⟩ | ⟨-, v₀, hv₀, hkey, hhost, -⟩
      · exact hhost.trans hw.host
      · have hsame : v₀.groupDid = v.groupDid := congrArg Prod.snd hkey
        exact hhost.symm.trans (hi.ownViews v₀ hv₀ (by rwa [hsame]))
    · have hold := ((hsame _ hgroup).1.mem_iff (decide_eq_true rfl)).mp hv
      exact hi.ownViews v hold hdomain
  · by_cases hgroup : r.groupDid = group.groupDid
    · rcases hrows r hr hgroup hactive with hown | ⟨m, hm, hdid⟩
      · exact .inl hown
      · obtain ⟨hm, hmgroup⟩ := mem_rosterRows.mp hm
        exact .inr ⟨m, hm, Prod.ext (hmgroup.trans hgroup.symm) hdid⟩
    · have hold := ((hsame _ hgroup).2.mem_iff (decide_eq_true rfl)).mp hr
      rcases hi.ownRows r hold hdomain hactive with hown | ⟨m, hm, hkey⟩
      · exact .inl hown
      · have hsame : m.groupDid = r.groupDid := congrArg Prod.fst hkey
        exact .inr ⟨m, (hmember (by rwa [hsame])).mpr hm, hkey⟩
  · by_cases hgroup : g.groupDid = group.groupDid
    · obtain rfl := hw.groups_keyed.eq_of_key_eq hg hmem hgroup
      exact href.agrees hw.members_keyed
        (fun v hv hv' ↦ hi.ownViews v hv (hv' ▸ hw.domain)) hrows
    · exact (hi.agrees g ((hother hgroup).mp hg)).congr rfl (fun _ _ h ↦ h)
        (hw.otherMembers _ hgroup) (hsame _ hgroup).1 (hsame _ hgroup).2

/-- **The step lemma**, for steps that write no roster and of a head at most the protocol state. -/
theorem ProjectionInv.kept (hi : ProjectionInv settings st) {f : HostedGroup → HostedGroup}
    (hf : ∀ g, ∃ s, f g = { g with protocolState := s })
    (hgroups : st'.hostedGroups = st.hostedGroups.map f)
    (hmembers : st'.hostedGroupMembers = st.hostedGroupMembers)
    (hviews : Table.SameOn (fun v ↦ didBelongsToDomain v.groupDid settings.didDomain)
      st.groupViews st'.groupViews)
    (hrows : Table.SameOn (fun r ↦ didBelongsToDomain r.groupDid settings.didDomain)
      st.groupMemberViews st'.groupMemberViews) : ProjectionInv settings st' := by
  have hmem : ∀ {g'}, g' ∈ st'.hostedGroups → ∃ g ∈ st.hostedGroups, ∃ s,
      g' = { g with protocolState := s } := by
    intro g' hg'
    rw [hgroups] at hg'
    obtain ⟨g, hg, rfl⟩ := List.mem_map.mp hg'
    exact ⟨g, hg, hf g⟩
  refine ⟨?_, hmembers ▸ hi.members_keyed, fun m hm ↦ ?_, fun g' hg' ↦ ?_, fun v hv hdomain ↦ ?_,
    fun r hr hdomain hactive ↦ ?_, fun g' hg' ↦ ?_⟩
  · have hkeys : st'.hostedGroups.map HostedGroup.groupDid =
        st.hostedGroups.map HostedGroup.groupDid := by
      rw [hgroups, List.map_map]
      refine List.map_congr_left fun g _ ↦ ?_
      obtain ⟨s, hs⟩ := hf g
      rw [Function.comp_apply, hs]
    rw [Table.Keyed, hkeys]
    exact hi.groups_keyed
  · obtain ⟨g, hg, hdid⟩ := hi.owned m (hmembers ▸ hm)
    obtain ⟨s, hs⟩ := hf g
    refine ⟨f g, hgroups ▸ List.mem_map_of_mem hg, ?_⟩
    rw [hs]
    exact hdid
  · obtain ⟨g, hg, s, rfl⟩ := hmem hg'
    exact hi.hosts g hg
  · exact hi.ownViews v ((hviews.mem_iff hdomain).mp hv) hdomain
  · rw [hmembers]
    exact hi.ownRows r ((hrows.mem_iff hdomain).mp hr) hdomain hactive
  · obtain ⟨g, hg, s, rfl⟩ := hmem hg'
    have hdomain := (hi.hosts g hg).2
    refine (hi.agrees g hg).congr rfl (fun v o h ↦ ⟨h.1, h.2, h.3, h.4, h.5, h.6, h.7⟩)
      (hmembers ▸ .refl _ _) (hviews.mono fun v hv ↦ ?_) (hrows.mono fun r hr ↦ ?_)
    · rw [of_decide_eq_true hv]
      exact hdomain
    · rw [of_decide_eq_true hr]
      exact hdomain

/-- A step that writes none of it. -/
theorem ProjectionInv.same (hi : ProjectionInv settings st)
    (hgroups : st'.hostedGroups = st.hostedGroups)
    (hmembers : st'.hostedGroupMembers = st.hostedGroupMembers)
    (hviews : Table.SameOn (fun v ↦ didBelongsToDomain v.groupDid settings.didDomain)
      st.groupViews st'.groupViews)
    (hrows : Table.SameOn (fun r ↦ didBelongsToDomain r.groupDid settings.didDomain)
      st.groupMemberViews st'.groupMemberViews) : ProjectionInv settings st' :=
  hi.kept (f := id) (fun g ↦ ⟨g.protocolState, rfl⟩) (hgroups.trans (List.map_id _).symm) hmembers
    hviews hrows

end Steps

/-! ### Hosted calls -/

/-- **Only a rebind takes a key out of the roster**, and only the key of the previous DID. -/
theorem RosterStep.exists_key {groupDid : String} {members members' : List HostedMember}
    {method : GroupMethod} {departed : Option String}
    (h : RosterStep groupDid members method departed members')
    (hmethod : method ≠ .rebindMember) {k : String × String} (hk : ∃ m ∈ members, m.key = k) :
    ∃ m ∈ members', m.key = k := by
  obtain ⟨m, hm, hkey⟩ := hk
  cases h with
  | same => exact ⟨m, hm, hkey⟩
  | admitted row =>
    by_cases hrow : row.key = k
    · obtain ⟨m', hm', hkey'⟩ : ∃ m' ∈ Table.upsert HostedMember.key row (fun _ ↦ row) members,
          m'.key = row.key := Table.exists_key_upsert fun _ _ ↦ rfl
      exact ⟨m', hm', hkey'.trans hrow⟩
    · exact ⟨m, Table.mem_upsert_of_ne hm fun h ↦ hrow (h.symm.trans hkey), hkey⟩
  | ended did now status =>
    refine ⟨_, Table.mem_updateWhere.mpr ⟨m, hm, rfl⟩, ?_⟩
    split <;> exact hkey
  | rebound => exact absurd rfl hmethod

/-- A rebind keeps every key but that of the previous DID. -/
theorem rebindMember_exists_key {groupDid previousDid newDid home : String}
    {binding : VerifiedHandleBinding} {members : List HostedMember} {k : String × String}
    (hk : ∃ m ∈ members, m.key = k) (hne : k ≠ (groupDid, previousDid)) :
    ∃ m ∈ rebindMember groupDid previousDid newDid home binding members, m.key = k := by
  obtain ⟨m, hm, rfl⟩ := hk
  refine ⟨_, Table.mem_updateWhere.mpr ⟨m, hm, rfl⟩, ?_⟩
  split
  · next h =>
    obtain ⟨hgroup, -, hprevious, -⟩ := of_decide_eq_true h
    exact absurd (Prod.ext hgroup hprevious) hne
  · rfl

section Calls

variable {settings : Settings} {st st' : Store} {call : HostedCall} {result : Obj}

/-- An advance writes its group. -/
theorem Advance.groupWritten (a : Advance settings st st') (hi : ProjectionInv settings st)
    (hupdate : ∀ g, (a.update g).hostServiceDid = g.hostServiceDid)
    (href : RefreshedAt settings st st' a.group.groupDid) :
    ∃ group, group.groupDid = a.group.groupDid ∧ GroupWritten settings st st' group := by
  have hhost := hi.hosts a.group (Table.mem_of_row? a.found)
  have hfound : st'.hostedGroup? a.group.groupDid = some (advanceHead a.update
      (nextVersion a.ctx.method a.group.groupStateVersion) (a.group.groupEventSeq + 1) a.now
      a.group) := by
    rw [Store.hostedGroup?, a.groups]
    exact hostedGroup?_writeHead a.update _ _ a.now a.found
  refine ⟨advanceHead a.update (nextVersion a.ctx.method a.group.groupStateVersion)
    (a.group.groupEventSeq + 1) a.now a.group, rfl, hfound, (hupdate a.group).trans hhost.1,
    hhost.2, ?_, a.roster.keyed hi.members_keyed, fun h hne ↦ ?_,
    fun h hne ↦ a.roster.sameOn hne, href⟩
  · rw [a.groups, writeHead]
    exact hi.groups_keyed.updateWhere fun _ _ ↦ rfl
  · rw [a.groups, writeHead]
    refine .updateWhere fun g hg ↦ ?_
    have hother : decide (g.groupDid = h) = false :=
      decide_eq_false fun heq ↦ hne (heq.symm.trans (of_decide_eq_true hg))
    exact ⟨hother, hother⟩

/-- So does a creation, and nobody has listed members of the group yet. -/
theorem Creation.groupWritten (c : Creation settings st st') (hi : ProjectionInv settings st)
    (hhost : c.group.hostServiceDid = settings.serviceDid)
    (href : RefreshedAt settings st st' c.group.groupDid) :
    GroupWritten settings st st' c.group ∧ KeepsListed st st' c.group.groupDid := by
  have hkeyed : Table.Keyed HostedGroup.groupDid st'.hostedGroups := by
    rw [c.groups]
    exact hi.groups_keyed.append c.fresh
  refine ⟨⟨hkeyed.row?_of_mem (by simp [c.groups]), hhost, c.domain, hkeyed,
    c.members_keyed hi.members_keyed, fun h hne ↦ ?_, fun h hne ↦ ?_, href⟩, ?_⟩
  · rw [c.groups]
    exact .append fun g hg ↦ decide_eq_false (List.mem_singleton.mp hg ▸ Ne.symm hne)
  · rw [c.roster]
    exact .append fun m hm ↦ decide_eq_false (c.members_group m hm ▸ Ne.symm hne)
  · rintro r - - - - ⟨m, hm, hkey⟩
    obtain ⟨g, hg, hdid⟩ := hi.owned m hm
    exact absurd (hdid.trans (congrArg Prod.fst hkey)) (c.fresh g hg)

/-- The DID a rebind moves a membership away from. -/
def HostedCall.previousDid? (c : HostedCall) : Option String := do
  let body ← (c.params.get "_anp_body").obj?
  (Obj.get body "previous_member_did").str?

/-- **What goes wrong**: a rebind of a member that the roster of another local member lists. -/
def RebindOrphans (st : Store) (c : HostedCall) : Prop :=
  c.method = .rebindMember ∧ ∃ r ∈ st.groupMemberViews, c.targetDid? = some r.groupDid ∧
    c.previousDid? = some r.agentDid ∧ r.status = MemberStatus.active.text ∧
    r.ownerDid ≠ r.agentDid

/-- A state change after its checks. -/
theorem ProjectionInv.changed {ctx : GroupRequest} {group : HostedGroup}
    {members : List HostedMember} {change : StateChange} (hi : ProjectionInv settings st)
    (hmethod : call.method ≠ .send)
    (hctx : VerifiedContext settings call.req call.params call.method "group" ctx)
    (hgroup : groupRow st ctx.targetDid (some ctx.profile) true = .ok group)
    (hchange : change.Wellformed)
    (hroster : RosterStep group.groupDid st.hostedGroupMembers call.method change.departed members)
    (haccept : acceptStateChange settings { st with hostedGroupMembers := members } call.req ctx
      group change = .ok (result, st'))
    (hkept : KeepsListed st { st with hostedGroupMembers := members } group.groupDid) :
    ProjectionInv settings st' := by
  have href := (acceptStateChange_refreshed haccept).1
  obtain ⟨a, -, rfl, -, hupdate, hmembers, -⟩ :=
    acceptStateChange_of_checked hmethod hctx hgroup hchange hroster haccept
  obtain ⟨written, hdid, hw⟩ := a.groupWritten hi (hupdate ▸ hchange.hostServiceDid) href
  refine hi.written hw ?_
  rw [hdid, KeepsListed, hmembers]
  exact hkept

/-- **The step lemma**, for calls. -/
theorem HostedAccepted.projectionInv (h : HostedAccepted settings st call result st')
    (hi : ProjectionInv settings st) (hcond : ¬ RebindOrphans st call) :
    ProjectionInv settings st' := by
  by_cases hrebind : call.method = .rebindMember
  · cases h with
    | replayed s hs ctx scope hmethod hreplay hsame => exact hsame ▸ hi
    | rebound ctx group binding member previousDid newDid home hmethod hctx hgroup hreplay
        hprevious hnew hhome hmember hhandle hactive hfresh hcapacity haccept =>
      obtain ⟨-, htarget, -, -⟩ := groupRow_eq_ok hgroup
      have hroster := RosterStep.rebound previousDid newDid home binding
        (Table.row?_eq_none.mp hfresh)
      refine hi.changed (by simp [hmethod]) hctx hgroup (rebinding_wellformed binding previousDid
        newDid) (hmethod ▸ hroster) haccept fun r hr hdid hlisted hother hm ↦ ?_
      refine rebindMember_exists_key hm fun heq ↦ hcond ⟨hmethod, r, hr, ?_, ?_, hlisted, hother⟩
      · rw [hctx.targetDid?_eq, ← htarget, hdid]
      · rw [(Prod.mk.inj heq).2]
        simp [HostedCall.previousDid?, hctx.body, hprevious, Json.obj?, Json.str?]
    | created => simp_all
    | admitted => simp_all
    | ended => simp_all
    | updated => simp_all
    | sent => simp_all
  · cases h.tail with
    | replayed s hs ctx scope hmethod hreplay hsame => exact hsame ▸ hi
    | created ctx groupDid keyPath document profile policy creator prepared hmethod hctx hprepared
        hdomain hcommit =>
      have href := (commitCreate_refreshed hcommit).1
      obtain ⟨c, -, -, rfl, -, -, hhost⟩ := commitCreate_creation hcommit hctx.method_eq hdomain
      obtain ⟨hw, hkept⟩ := c.groupWritten hi hhost href
      exact hi.written hw hkept
    | changed ctx group members change hmethod hctx hgroup hreplay hchange hroster haccept =>
      exact hi.changed hmethod hctx hgroup hchange hroster haccept
        fun _ _ _ _ _ hm ↦ hroster.exists_key hrebind hm
    | sent ctx group messageId contentType hmethod hctx hgroup hreplay haccept =>
      obtain ⟨hfound, -, hprofile, hactive⟩ := groupRow_eq_ok hgroup
      have href := (acceptMessage_refreshed haccept).1
      obtain ⟨a, -, rfl, -, -, -, -, -, hupdate, hmembers, -⟩ :=
        acceptMessage_advance haccept hfound
        hprofile hactive (hctx.method_eq.trans hmethod)
      obtain ⟨written, hdid, hw⟩ := a.groupWritten hi (hupdate ▸ fun _ ↦ rfl) href
      refine hi.written hw fun _ _ _ _ _ hm ↦ ?_
      rw [hmembers, hdid]
      exact hdid ▸ hm

end Calls

/-! ### Migrations -/

section Migrations

variable {digest : MigrationAnchor → String} {settings : Settings} {out : MigrationOutside}
  {st st' : Store} {groupDid expected : String}

/-- A group that is inspected is there. -/
theorem inspectGroup_found {group : HostedGroup} {anchor : MigrationAnchor}
    (h : inspectGroup settings out st groupDid = .ok (group, anchor)) :
    st.hostedGroup? groupDid = some group := by
  unfold inspectGroup groupMaterial at h
  obtain ⟨_, hmaterial, h⟩ := bind_eq_ok.mp h
  obtain ⟨found, hfound, hmaterial⟩ := bind_eq_ok.mp hmaterial
  obtain ⟨document, -, hmaterial⟩ := bind_eq_ok.mp hmaterial
  obtain ⟨_, -, hmaterial⟩ := bind_eq_ok.mp hmaterial
  obtain ⟨_, -, hmaterial⟩ := bind_eq_ok.mp hmaterial
  obtain ⟨_, -, hmaterial⟩ := bind_eq_ok.mp hmaterial
  rw [pure_eq_ok] at hmaterial h
  subst hmaterial
  obtain ⟨rfl, -⟩ := Prod.mk.inj h
  exact orRaise_eq_ok.mp hfound

/-- **An apply writes its group**, and no roster. -/
theorem applyFinish_groupWritten {record : GroupProtocolMigration}
    (h : applyFinish digest settings out st groupDid expected record = .ok st')
    (hi : ProjectionInv settings st) :
    ∃ group, GroupWritten settings st st' group ∧
      st'.hostedGroupMembers = st.hostedGroupMembers := by
  unfold applyFinish at h
  obtain ⟨latest, -, h⟩ := bind_eq_ok.mp h
  obtain ⟨_, -, h⟩ := bind_eq_ok.mp h
  obtain ⟨⟨group, anchor⟩, hinspect, h⟩ := bind_eq_ok.mp h
  obtain ⟨_, -, h⟩ := bind_eq_ok.mp h
  obtain ⟨_, -, h⟩ := bind_eq_ok.mp h
  obtain ⟨⟨_, document, _⟩, -, h⟩ := bind_eq_ok.mp h
  obtain ⟨services, -, h⟩ := bind_eq_ok.mp h
  obtain ⟨upgraded, -, h⟩ := bind_eq_ok.mp h
  obtain ⟨signed, -, h⟩ := bind_eq_ok.mp h
  rw [pure_eq_ok] at h
  have hfound := inspectGroup_found hinspect
  obtain rfl : group.groupDid = groupDid := Table.key_of_row? hfound
  have hhost := hi.hosts group (Table.mem_of_row? hfound)
  -- After the refresh only the migration record is written.
  generalize hr : refreshHostedLocalProjections settings _ _ _ = r at h
  have hkept : r.KeepsViews st' := h ▸ ⟨rfl, rfl, rfl, rfl, rfl⟩
  rw [← hr] at hkept
  have href : RefreshedAt settings st st' group.groupDid := by
    refine .of_keeps ?_ ?_ hkept <;> rfl
  have hgroups : st'.hostedGroups = Table.updateWhere
      (fun g ↦ decide (g.groupDid = group.groupDid))
      (fun g ↦ { g with wireProfile := .v2, protocolState := .active }) st.hostedGroups :=
    hkept.hostedGroups.trans (refresh_hosted settings _ _ _).1
  have hmembers : st'.hostedGroupMembers = st.hostedGroupMembers :=
    hkept.hostedGroupMembers.trans (refresh_hosted settings _ _ _).2.1
  have hkeyed : Table.Keyed HostedGroup.groupDid st'.hostedGroups := by
    rw [hgroups]
    exact hi.groups_keyed.updateWhere fun _ _ ↦ rfl
  have hmem : { group with wireProfile := .v2, protocolState := .active } ∈ st'.hostedGroups := by
    rw [hgroups]
    exact Table.mem_updateWhere.mpr ⟨group, Table.mem_of_row? hfound, by simp⟩
  refine ⟨{ group with wireProfile := .v2, protocolState := .active },
    ⟨hkeyed.row?_of_mem hmem, hhost.1, hhost.2, hkeyed, hmembers ▸ hi.members_keyed,
      fun h hne ↦ ?_, fun _ _ ↦ hmembers ▸ .refl _ _, href⟩, hmembers⟩
  rw [hgroups]
  refine .updateWhere fun g hg ↦ ?_
  have hother : decide (g.groupDid = h) = false :=
    decide_eq_false fun heq ↦ hne (heq.symm.trans (of_decide_eq_true hg))
  exact ⟨hother, hother⟩

/-- A store that differs in the protocol state of groups alone, as far as this matters. -/
theorem ProjectionInv.restated (hi : ProjectionInv settings st) (p : HostedGroup → Bool)
    (s : ProtocolState)
    (hgroups : st'.hostedGroups =
      Table.updateWhere p (fun g ↦ { g with protocolState := s }) st.hostedGroups)
    (hmembers : st'.hostedGroupMembers = st.hostedGroupMembers)
    (hviews : st'.groupViews = st.groupViews)
    (hrows : st'.groupMemberViews = st.groupMemberViews) : ProjectionInv settings st' := by
  refine hi.kept (fun g ↦ ?_) hgroups hmembers (hviews ▸ .refl _ _) (hrows ▸ .refl _ _)
  by_cases hp : p g
  · exact ⟨s, if_pos hp⟩
  · exact ⟨g.protocolState, if_neg hp⟩

/-- **A preparation that begins.** -/
theorem ProjectionInv.prepareBegin {begun : Option String} (hi : ProjectionInv settings st)
    (h : prepareBegin digest settings out st groupDid expected = .ok (begun, st')) :
    ProjectionInv settings st' := by
  unfold Awiki.prepareBegin at h
  obtain ⟨⟨_, anchor⟩, -, h⟩ := bind_eq_ok.mp h
  obtain ⟨_, -, h⟩ := bind_eq_ok.mp h
  split at h
  · obtain ⟨_, -, h⟩ := bind_eq_ok.mp h
    rw [pure_eq_ok, Prod.mk.injEq] at h
    exact h.2 ▸ hi
  · obtain ⟨document, -, h⟩ := bind_eq_ok.mp h
    rw [pure_eq_ok, Prod.mk.injEq] at h
    rw [← h.2]
    exact hi.restated _ .quiescing rfl rfl rfl rfl

/-- **A preparation that is complete.** -/
theorem ProjectionInv.prepareFinish {preparationId : String} {backup : String × String}
    (hi : ProjectionInv settings st)
    (h : prepareFinish digest settings out st groupDid expected preparationId backup = .ok st') :
    ProjectionInv settings st' := by
  unfold Awiki.prepareFinish at h
  obtain ⟨⟨_, anchor⟩, -, h⟩ := bind_eq_ok.mp h
  obtain ⟨_, -, h⟩ := bind_eq_ok.mp h
  obtain ⟨_, -, h⟩ := bind_eq_ok.mp h
  rw [pure_eq_ok] at h
  rw [← h]
  exact hi.same rfl rfl (.refl _ _) (.refl _ _)

/-- **A cancel.** -/
theorem ProjectionInv.cancelGroup (hi : ProjectionInv settings st)
    (h : cancelGroup st groupDid expected = .ok st') : ProjectionInv settings st' := by
  unfold Awiki.cancelGroup at h
  obtain ⟨_, -, h⟩ := bind_eq_ok.mp h
  rw [pure_eq_ok] at h
  rw [← h]
  exact hi.restated _ .active rfl rfl rfl rfl

end Migrations

/-! ### Runs -/

/-- A server that has hosted nothing yet. -/
structure ServerWorld.Initial (settings : Settings) (w : ServerWorld) : Prop where
  host : w.host.Initial
  groupViews : ∀ v ∈ w.host.store.groupViews,
    didBelongsToDomain v.groupDid settings.didDomain = false
  groupMemberViews : ∀ r ∈ w.host.store.groupMemberViews,
    didBelongsToDomain r.groupDid settings.didDomain = false
  tasks : w.tasks = []

/-- **The condition on a step**: no rebind leaves a row of its previous DID with another owner. -/
def KeepsRosters (w : ServerWorld) (a : ServerAction) : Prop :=
  ∀ c, a = .host (.call c) → ¬ RebindOrphans w.host.store c

section Runs

variable {digest : MigrationAnchor → String} {settings : Settings}

/-- At first nothing is hosted. -/
theorem ProjectionInv.initial {w : ServerWorld} (h : w.Initial settings) :
    ProjectionInv settings w.host.store where
  groups_keyed := by simp [Table.Keyed, h.host.hostedGroups]
  members_keyed := by simp [Table.Keyed, h.host.hostedGroupMembers]
  owned := by simp [MembersOwned, h.host.hostedGroupMembers]
  hosts := by simp [h.host.hostedGroups]
  ownViews v hv hdomain := by simp [h.groupViews v hv] at hdomain
  ownRows r hr hdomain := by simp [h.groupMemberViews r hr] at hdomain
  agrees := by simp [h.host.hostedGroups]

/-- **One step of the server.** -/
theorem ServerStep.projectionInv {w w' : ServerWorld} {a : ServerAction}
    (h : ServerStep digest settings w a w') (hcond : KeepsRosters w a)
    (hi : ProjectionInv settings w.host.store) : ProjectionInv settings w'.host.store := by
  cases h with
  | host hstep helsewhere =>
    cases hstep with
    | call c =>
      dsimp only
      unfold afterCall
      split
      · next hcall => exact (hostedCall_accepted hcall).projectionInv hi (hcond c rfl)
      · exact hi
    | beginDrain => exact hi
    | attempt => exact hi.same rfl rfl (.refl _ _) (.refl _ _)
    | endDrain => exact hi
    | elsewhere st hst =>
      have hkept := helsewhere st rfl
      exact hi.same hst.hostedGroups hst.hostedGroupMembers hkept.groupViews hkept.groupMemberViews
  | prepareBegin h => exact hi.prepareBegin h
  | prepareFinish _ h => exact hi.prepareFinish h
  | applyBegin => exact hi
  | applyFinish _ h =>
    -- An apply writes no member, so all listed members stay.
    obtain ⟨group, hw, hmembers⟩ := applyFinish_groupWritten h hi
    refine hi.written hw fun _ _ _ _ _ hm ↦ ?_
    rwa [ServerWorld.withStore, hmembers]
  | cancel h => exact hi.cancelGroup h

/-- **The local projections agree with the Host**, in every state of every run in which no rebind
names as its previous member one that the roster of another local owner lists as active. -/
theorem local_projection_agrees {w₀ w : ServerWorld} (h₀ : w₀.Initial settings)
    (h : ReachesWith (ServerStep digest settings) KeepsRosters w₀ w) :
    ∀ group ∈ w.host.store.hostedGroups, ProjectionAgrees settings w.host.store group :=
  (h.invariant (I := fun w ↦ ProjectionInv settings w.host.store) (.initial h₀)
    fun hi hc hs ↦ hs.projectionInv hc hi).agrees

end Runs

/-! ### A rebind -/

/-- Bob's new DID. -/
def bobsNewDid : String := "did:wba:peer.example:user:bob-2"

/-- Parameters of a version 1 request. -/
def version1Params (senderDid operationId targetKind targetDid : String) (body : Obj) : Obj :=
  [("_anp_meta", .obj [("profile", .str "anp.group.base.v1"),
      ("security_profile", .str "transport-protected"), ("sender_did", .str senderDid),
      ("operation_id", .str operationId),
      ("target", .obj [("kind", .str targetKind), ("did", .str targetDid)])]),
    ("_anp_auth", .obj sampleAuth), ("_anp_body", .obj body)]

/-- Handles are bound to this DID. -/
def Outside.bound (did generation : String) : Outside :=
  { Outside.honest with
    resolveHandleBinding := fun handle ↦
      .ok { handle := handle, did := did, bindingGeneration := generation }
    bindingGenerationIsNewer := fun new old ↦ .ok (decide (old < new)) }

/-- Alice creates a version 1 group. -/
def version1Create : HostedCall :=
  callAs alice .create
    (version1Params alice "op-create" "service" "did:wba:host.example"
      [("group_profile", .obj []), ("group_policy", .obj []), ("initial_members", .arr [])])
    {}

/-- She adds Bob by his Handle. -/
def version1Add (seen : Store) : HostedCall :=
  { callAs alice .add
      (version1Params alice "op-add" "group" sampleGroup
        [("member_handle", .str "bob.peer.example")]) seen with
    req := { surface := .localRpc, credentials := .bearer alice, outside := .bound bob "1" } }

/-- The Handle moves, and Bob rebinds his membership through his own service. -/
def version1Rebind (seen : Store) : HostedCall :=
  { callAs bobsNewDid .rebindMember
      (version1Params bobsNewDid "op-rebind" "group" sampleGroup
        [("member_handle", .str "bob.peer.example"), ("previous_member_did", .str bob),
          ("new_member_did", .str bobsNewDid), ("handle_binding_generation", .str "2")]) seen with
    req := { surface := .publicRpc, credentials := .missing, outside := .bound bobsNewDid "2" } }

/-- The server at installation, and after calls that have read the present store. -/
def ServerWorld.empty : ServerWorld := ⟨.empty, []⟩

/-- The server after a call that has read the present store. -/
def ServerWorld.after (w : ServerWorld) (c : Store → HostedCall) : ServerWorld :=
  { w with host := w.host.after .sample c }

/-- Bob is a member, and then his new DID is. -/
def ServerWorld.added : ServerWorld :=
  (ServerWorld.empty.after fun _ ↦ version1Create).after version1Add

/-- The server after the rebind. -/
def ServerWorld.rebound : ServerWorld := ServerWorld.added.after version1Rebind

/-- A call that has read the present store, as a step of the server. -/
theorem ServerStep.after (digest : MigrationAnchor → String) (w : ServerWorld)
    (c : Store → HostedCall) (hseen : Past (c w.host.store).seen w.host.store)
    (hreplayed : Past (c w.host.store).replayed w.host.store) :
    ServerStep digest .sample w (.host (.call (c w.host.store))) (w.after c) :=
  .host (.call _ hseen hreplayed) fun _ h ↦ by cases h

/-- No step until then leaves a row behind. -/
theorem ServerWorld.added_reached (digest : MigrationAnchor → String) :
    ReachesWith (ServerStep digest .sample) KeepsRosters .empty .added := by
  refine .tail (.tail (.refl _) ?_ (.after digest .empty (fun _ ↦ version1Create) List.prefix_rfl
    List.prefix_rfl)) ?_ (.after digest _ version1Add List.prefix_rfl List.prefix_rfl)
  all_goals
    rintro c hc ⟨hmethod, -⟩
    cases hc
    cases hmethod

/-- **A rebind leaves the previous DID in the rosters of the others.** Alice's roster lists Bob
under both of his DIDs, the Host under the new one alone. -/
theorem rebind_orphans_roster :
    ¬ ∀ digest w, Reaches (ServerStep digest .sample) .empty w →
      ∀ group ∈ w.host.store.hostedGroups, ProjectionAgrees .sample w.host.store group := by
  intro hall
  have hreached : Reaches (ServerStep (fun _ ↦ "") .sample) .empty .rebound :=
    (ServerWorld.added_reached _).reaches.tail
      (.after _ _ version1Rebind List.prefix_rfl List.prefix_rfl)
  have hbad : (ServerWorld.rebound.host.store.hostedGroups.any fun g ↦
      (localOwners .sample ServerWorld.rebound.host.store g.groupDid).any fun o ↦
        (ServerWorld.rebound.host.store.groupMemberViews.any fun r ↦
          decide (r.key = (o.agentDid, g.groupDid, bob) ∧ r.role = "member" ∧
            r.status = MemberStatus.active.text)) &&
        (rosterRows ServerWorld.rebound.host.store g.groupDid).all fun m ↦
          decide (m.agentDid ≠ bob)) = true := by decide +kernel
  obtain ⟨g, hg, hbad⟩ := List.any_eq_true.mp hbad
  obtain ⟨o, ho, hbad⟩ := List.any_eq_true.mp hbad
  obtain ⟨hlisted, hgone⟩ := Bool.and_eq_true_iff.mp hbad
  obtain ⟨r, hr, hlisted⟩ := List.any_eq_true.mp hlisted
  obtain ⟨m, hm, hdid, -⟩ :=
    ((hall _ _ hreached g hg).rosters o ho bob "member").mp ⟨r, hr, of_decide_eq_true hlisted⟩
  exact of_decide_eq_true (List.all_eq_true.mp hgone m hm) hdid

/-- Before the rebind they agree. -/
theorem local_projection_agrees_sample :
    ServerWorld.added.host.store.groupMemberViews.length = 2 ∧
      ∀ group ∈ ServerWorld.added.host.store.hostedGroups,
        ProjectionAgrees .sample ServerWorld.added.host.store group :=
  ⟨by decide +kernel, local_projection_agrees
    ⟨HostWorld.empty_initial, List.forall_mem_nil _, List.forall_mem_nil _, rfl⟩
    (ServerWorld.added_reached fun _ ↦ "")⟩

end Awiki
