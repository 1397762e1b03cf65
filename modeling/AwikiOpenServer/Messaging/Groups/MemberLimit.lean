import AwikiOpenServer.Messaging.Groups.Recipients

/-!
# How many members a group may have

`max_members` is a text in the policy of the group. It is validated when the policy is written, by a
create or an update, and read again under the lock by the join or the add that counts against it.
The policy may be patched to any lower value while an admission waits for the network; that is
harmless, because **only an admission adds a member, and it counts and commits in one transaction**.

The invariant (`MemberLimitInv`) says that no stored policy allows more than `MAX_MEMBERS`, and that
no group has more active members than that. It does not say that a group keeps its own limit: a
policy may be patched below the number of members there are.

## The second half of the result

That no operation raises the number of active members above the limit in force is a statement about
a step, since the limit in force is the one in the state the step starts from. `RaisedWithinLimit`
says it of any two states: where a group has more active members than before, it has no more than
its policy allows. The case analysis is over the checks of the handlers
(`HostedAccepted.memberLimit`): an admission has counted, a creation has counted its initial members
against the policy it writes, a rebind moves a membership, and nothing else makes a member active.

Counting is by the columns of the roster (`HostedMember.activeIn`), so what an operation does to the
roster can be counted row by row. An admission rewrites a row that was there or adds one; only where
the row was not active does the number rise, and the handler has refused it otherwise.
-/

namespace Awiki

open Py Runs

/-! ### Limits of a policy -/

/-- The policy allows `MAX_MEMBERS` members at most. -/
def PolicyBounded (policy : Obj) : Prop := ∀ limit, policyMaxMembers policy = .ok limit →
  limit ≤ MAX_MEMBERS

/-- A validated policy has its limit as text, between 1 and `MAX_MEMBERS`. -/
theorem validatePolicy_bounded {value : Json} {policy : Obj}
    (h : validatePolicy value = .ok policy) : PolicyBounded policy := by
  unfold validatePolicy at h
  obtain ⟨given, -, h⟩ := bind_eq_ok.mp h
  obtain ⟨_, -, h⟩ := bind_eq_ok.mp h
  obtain ⟨_, -, h⟩ := bind_eq_ok.mp h
  obtain ⟨admission, -, h⟩ := bind_eq_ok.mp h
  obtain ⟨_, -, h⟩ := bind_eq_ok.mp h
  obtain ⟨permissions, -, h⟩ := bind_eq_ok.mp h
  obtain ⟨_, -, h⟩ := bind_eq_ok.mp h
  obtain ⟨_, -, h⟩ := bind_eq_ok.mp h
  -- The limit is a number; what `int` refuses is an error.
  split at h
  case h_2 => cases h
  case h_3 => cases h
  obtain ⟨maxMembers, -, h⟩ := bind_eq_ok.mp h
  obtain ⟨_, hrange, h⟩ := bind_eq_ok.mp h
  obtain ⟨_, -, h⟩ := bind_eq_ok.mp h
  have hpolicy := pure_eq_ok.mp h
  rw [require_eq_ok, Bool.and_eq_true, decide_eq_true_eq, decide_eq_true_eq] at hrange
  obtain ⟨hone, hmax⟩ := hrange
  obtain ⟨n, rfl⟩ := Int.eq_ofNat_of_zero_le (zero_le_one.trans hone)
  intro limit hlimit
  unfold policyMaxMembers at hlimit
  rw [← hpolicy, Obj.lookup_set, if_pos rfl] at hlimit
  have htext : intOrRaise (.str (toString (n : ℤ))) = .ok (n : ℤ) := by
    rw [intOrRaise, show toString (n : ℤ) = toString n from rfl, intOf_toString]
  have heq : limit = (n : ℤ) := Except.ok.inj (hlimit.symm.trans htext)
  exact heq ▸ hmax

/-! ### Counting active members -/

/-- The number of active members of a group. -/
def activeCount (st : Store) (groupDid : String) : ℕ := (st.activeMembers groupDid).length

/-- The row is of an active member of the group. -/
def HostedMember.activeIn (groupDid : String) (m : HostedMember) : Bool :=
  decide (m.groupDid = groupDid ∧ m.status = .active)

/-- Active members are counted off the roster. -/
theorem activeCount_eq (st : Store) (groupDid : String) :
    activeCount st groupDid = st.hostedGroupMembers.countP (HostedMember.activeIn groupDid) :=
  List.countP_eq_length_filter.symm

/-- The count is that of the roster. -/
theorem activeCount_congr {st st' : Store} (h : st'.hostedGroupMembers = st.hostedGroupMembers)
    (groupDid : String) : activeCount st' groupDid = activeCount st groupDid := by
  rw [activeCount_eq, activeCount_eq, h]

/-- An admission adds at most one active member, and only to its group. -/
theorem countP_admittedRoster {st : Store} {groupDid home now : String} {a : Admission}
    (hk : Table.Keyed HostedMember.key st.hostedGroupMembers) (g : String) :
    (admittedRoster st groupDid home now a).countP (HostedMember.activeIn g) ≤
      activeCount st g + (if g = groupDid then 1 else 0) := by
  rw [activeCount_eq, admittedRoster]
  split
  · exact hk.countP_upsert_le _
  · rename_i hne
    have hnot : (admittedMember groupDid home now a).activeIn g = false :=
      decide_eq_false fun h ↦ hne h.1.symm
    rw [Table.upsert]
    split
    · refine Table.countP_updateWhere_le fun r _ _ hr ↦ ?_
      rw [hnot] at hr
      cases hr
    · rw [List.countP_append, List.countP_singleton, hnot]
      exact le_rfl

/-- A departure adds nobody. -/
theorem countP_endMember_le {st : Store} {groupDid did now : String} {status : MemberStatus}
    (hstatus : status ≠ .active) (g : String) :
    (endMember st groupDid did status now).hostedGroupMembers.countP (HostedMember.activeIn g) ≤
      activeCount st g := by
  rw [activeCount_eq, endMember]
  refine Table.countP_updateWhere_le fun r _ _ hr ↦ ?_
  exact absurd (of_decide_eq_true hr).2 hstatus

/-- A rebind moves a membership; it does not add one. -/
theorem countP_rebindMember_le {st : Store} {groupDid previousDid newDid home : String}
    {binding : VerifiedHandleBinding} (g : String) :
    (rebindMember groupDid previousDid newDid home binding st.hostedGroupMembers).countP
      (HostedMember.activeIn g) ≤ activeCount st g := by
  rw [activeCount_eq, rebindMember]
  exact Table.countP_updateWhere_le fun r _ _ hr ↦ hr

/-! ### What a call does to the counts and the limits -/

/-- **Where the active members of a group become more, its limit is kept.** -/
def RaisedWithinLimit (st st' : Store) : Prop :=
  ∀ g ∈ st'.hostedGroups, activeCount st g.groupDid < activeCount st' g.groupDid →
    ∃ limit, policyMaxMembers g.policy = .ok limit ∧ (activeCount st' g.groupDid : ℤ) ≤ limit

/-- The invariant: bounded policies, bounded groups. -/
structure MemberLimitInv (st : Store) : Prop where
  policies : ∀ g ∈ st.hostedGroups, PolicyBounded g.policy
  counts : ∀ g ∈ st.hostedGroups, (activeCount st g.groupDid : ℤ) ≤ MAX_MEMBERS

section Step

variable {settings : Settings} {st st' : Store} {call : HostedCall} {result : Obj}

/-- An advance that adds nobody, and writes no policy but a validated one. -/
theorem Advance.memberLimit (a : Advance settings st st') (hi : MemberLimitInv st)
    (hlog : HostLogInv st)
    (hpolicy : (a.update a.group).policy = a.group.policy ∨ PolicyBounded (a.update a.group).policy)
    (hcount : ∀ g, activeCount st' g ≤ activeCount st g) :
    MemberLimitInv st' ∧ RaisedWithinLimit st st' := by
  have hgroup : a.group ∈ st.hostedGroups := Table.mem_of_row? a.found
  refine ⟨⟨fun g hg ↦ ?_, fun g hg ↦ ?_⟩, fun g _ hlt ↦ absurd hlt (Nat.not_lt.mpr (hcount _))⟩
  · rcases a.mem_groups hlog.groups_keyed hg with rfl | ⟨hg, -⟩
    · show PolicyBounded (a.update a.group).policy
      rcases hpolicy with hsame | hbounded
      · exact hsame ▸ hi.policies a.group hgroup
      · exact hbounded
    · exact hi.policies g hg
  · have hkept : ∀ g ∈ st.hostedGroups, (activeCount st' g.groupDid : ℤ) ≤ MAX_MEMBERS :=
      fun g hg ↦ (Int.ofNat_le.mpr (hcount g.groupDid)).trans (hi.counts g hg)
    rcases a.mem_groups hlog.groups_keyed hg with rfl | ⟨hg, -⟩
    · exact hkept a.group hgroup
    · exact hkept g hg

/-- **An admission**: one member more in the group it counted, under the policy it read. -/
theorem Advance.memberLimit_admitted (a : Advance settings st st') {limit : ℤ}
    (hi : MemberLimitInv st) (hlog : HostLogInv st)
    (hpolicy : (a.update a.group).policy = a.group.policy)
    (hlimit : policyMaxMembers a.group.policy = .ok limit)
    (hroom : (activeCount st a.group.groupDid : ℤ) < limit)
    (hcount : ∀ g, activeCount st' g ≤
      activeCount st g + (if g = a.group.groupDid then 1 else 0)) :
    MemberLimitInv st' ∧ RaisedWithinLimit st st' := by
  have hgroup : a.group ∈ st.hostedGroups := Table.mem_of_row? a.found
  have hown : (activeCount st' a.group.groupDid : ℤ) ≤ limit := by
    have hone := hcount a.group.groupDid
    rw [if_pos rfl] at hone
    omega
  have hothers : ∀ g, g ≠ a.group.groupDid → activeCount st' g ≤ activeCount st g := by
    intro g hne
    have hnone := hcount g
    rwa [if_neg hne] at hnone
  refine ⟨⟨fun g hg ↦ ?_, fun g hg ↦ ?_⟩, fun g hg hlt ↦ ?_⟩ <;>
    rcases a.mem_groups hlog.groups_keyed hg with rfl | ⟨hg, hne⟩
  · show PolicyBounded (a.update a.group).policy
    exact hpolicy ▸ hi.policies a.group hgroup
  · exact hi.policies g hg
  · exact hown.trans (hi.policies a.group hgroup limit hlimit)
  · exact (Int.ofNat_le.mpr (hothers _ hne)).trans (hi.counts g hg)
  · refine ⟨limit, ?_, hown⟩
    show policyMaxMembers (a.update a.group).policy = .ok limit
    rw [hpolicy, hlimit]
  · exact absurd hlt (Nat.not_lt.mpr (hothers _ hne))

/-- **A creation**: the group is new, and so are all its members. -/
theorem Creation.memberLimit (c : Creation settings st st') {limit : ℤ} (hi : MemberLimitInv st)
    (ho : MembersOwned st) (hbounded : PolicyBounded c.group.policy)
    (hlimit : policyMaxMembers c.group.policy = .ok limit)
    (hroom : (c.members.length : ℤ) ≤ limit) :
    MemberLimitInv st' ∧ RaisedWithinLimit st st' := by
  have hnone : activeCount st c.group.groupDid = 0 := by
    rw [activeCount_eq, List.countP_eq_zero]
    intro m hm hactive
    obtain ⟨g, hg, hdid⟩ := ho m hm
    exact c.fresh g hg (hdid.trans (of_decide_eq_true hactive).1)
  have hnew : (activeCount st' c.group.groupDid : ℤ) ≤ limit := by
    have hmembers := List.countP_le_length (p := HostedMember.activeIn c.group.groupDid)
      (l := c.members)
    rw [activeCount_eq] at hnone ⊢
    rw [c.roster, List.countP_append, hnone]
    omega
  have hold : ∀ g ∈ st.hostedGroups, activeCount st' g.groupDid = activeCount st g.groupDid := by
    intro g hg
    have hother : c.members.countP (HostedMember.activeIn g.groupDid) = 0 := by
      rw [List.countP_eq_zero]
      intro m hm hactive
      exact c.fresh g hg ((of_decide_eq_true hactive).1.symm.trans (c.members_group m hm))
    rw [activeCount_eq, activeCount_eq, c.roster, List.countP_append, hother, Nat.add_zero]
  refine ⟨⟨fun g hg ↦ ?_, fun g hg ↦ ?_⟩, fun g hg hlt ↦ ?_⟩ <;> rw [c.groups] at hg <;>
    rcases List.mem_append.mp hg with hg | hg
  · exact hi.policies g hg
  · exact List.mem_singleton.mp hg ▸ hbounded
  · rw [hold g hg]
    exact hi.counts g hg
  · rw [List.mem_singleton.mp hg]
    exact hnew.trans (hbounded limit hlimit)
  · rw [hold g hg] at hlt
    exact absurd hlt (lt_irrefl _)
  · rw [List.mem_singleton.mp hg]
    exact ⟨limit, hlimit, hnew⟩

/-- **The step lemma**, one case for each handler. -/
theorem HostedAccepted.memberLimit (h : HostedAccepted settings st call result st')
    (hi : MemberLimitInv st) (hlog : HostLogInv st) (ho : MembersOwned st)
    (hk : Table.Keyed HostedMember.key st.hostedGroupMembers) :
    MemberLimitInv st' ∧ RaisedWithinLimit st st' := by
  cases h with
  | replayed s hs ctx scope hmethod hreplay hsame =>
    subst hsame
    exact ⟨hi, fun g _ hlt ↦ absurd hlt (lt_irrefl _)⟩
  | created ctx groupDid keyPath document profile policy creator prepared limit hmethod hctx hpolicy
      hprepared hlimit hcount hdomain hcommit =>
    obtain ⟨c, -, -, -, hmembers, rfl, -⟩ := commitCreate_creation hcommit hctx.method_eq hdomain
    obtain ⟨value, hvalue⟩ := hpolicy
    refine c.memberLimit hi ho (validatePolicy_bounded hvalue) hlimit ?_
    rw [hmembers, createdMembers, List.length_cons, List.length_map]
    exact_mod_cast hcount
  -- The one operation that adds an active member, and the one that counts them first.
  | admitted ctx group a home limit hmethod hctx hgroup hreplay hhome hinactive hlimit hcount hfree
      hcapacity haccept =>
    have hsend : call.method ≠ .send := by rcases hmethod with hm | hm <;> simp [hm]
    obtain ⟨adv, -, rfl, -, hupdate, hroster, -⟩ := acceptStateChange_of_checked hsend hctx hgroup
      (activation_wellformed group a) (rosterStep_admitted hmethod) haccept
    refine adv.memberLimit_admitted hi hlog (by rw [hupdate]; rfl) hlimit hcount fun g ↦ ?_
    rw [activeCount_eq, hroster]
    exact countP_admittedRoster hk g
  | ended ctx group targetDid hmethod hctx hgroup hreplay htarget hcapacity haccept =>
    have hsend : call.method ≠ .send := by rcases hmethod with hm | hm <;> simp [hm]
    obtain ⟨adv, -, rfl, -, hupdate, hroster, -⟩ := acceptStateChange_of_checked hsend hctx hgroup
      (departure_wellformed hmethod targetDid) (rosterStep_ended hmethod htarget) haccept
    refine adv.memberLimit hi hlog (.inl (by rw [hupdate]; rfl)) fun g ↦ ?_
    rw [activeCount_eq, hroster]
    refine countP_endMember_le ?_ g
    rcases hmethod with hm | hm <;> simp [hm, endedStatus]
  -- A rebind ends one active row and adds one.
  | rebound ctx group binding member previousDid newDid home hmethod hctx hgroup hreplay hprevious
      hnew hhome hmember hhandle hmemberActive hfresh hcapacity haccept =>
    obtain ⟨adv, -, rfl, -, hupdate, hroster, -⟩ := acceptStateChange_of_checked (by simp [hmethod])
      hctx hgroup (rebinding_wellformed binding previousDid newDid)
      (hmethod ▸ .rebound previousDid newDid home binding (Table.row?_eq_none.mp hfresh)) haccept
    refine adv.memberLimit hi hlog (.inl (by rw [hupdate]; rfl)) fun g ↦ ?_
    rw [activeCount_eq, hroster]
    exact countP_rebindMember_le g
  | updated ctx group patch value hmethod hctx hgroup hreplay hcapacity hvalue haccept =>
    have hsend : call.method ≠ .send := by rcases hmethod with hm | hm <;> simp [hm]
    obtain ⟨hwell, hdeparted⟩ := groupUpdate_wellformed hmethod value
    have hsame : RosterStep group.groupDid st.hostedGroupMembers call.method
        (groupUpdate call.method value).departed st.hostedGroupMembers := by
      rw [hdeparted]
      exact .same (by rcases hmethod with hm | hm <;> simp [hm])
    obtain ⟨adv, -, rfl, -, hupdate, hroster, -⟩ :=
      acceptStateChange_of_checked hsend hctx hgroup hwell hsame haccept
    refine adv.memberLimit hi hlog ?_ fun g ↦ (activeCount_congr hroster g).le
    rw [hupdate]
    rcases hmethod with hm | hm
    · exact .inl (by rw [hm]; rfl)
    · -- What a policy update writes has been validated whole.
      rw [hm] at hvalue ⊢
      exact .inr (validatePolicy_bounded hvalue)
  | sent ctx group messageId contentType hmethod hctx hmessageId hcontentType hcheck hgroup hreplay
      hcapacity hfresh haccept =>
    obtain ⟨hfound, -, hprofile, hactive⟩ := groupRow_eq_ok hgroup
    obtain ⟨adv, -, rfl, -, -, -, -, -, hupdate, hroster, -⟩ := acceptMessage_advance haccept hfound
      hprofile hactive (hctx.method_eq.trans hmethod)
    exact adv.memberLimit hi hlog (.inl (by rw [hupdate]; rfl))
      fun g ↦ (activeCount_congr hroster g).le

end Step

/-! ### Runs -/

/-- A step that writes neither heads nor rosters. -/
theorem MemberLimitInv.congr {st st' : Store} (hi : MemberLimitInv st)
    (hgroups : st'.hostedGroups = st.hostedGroups)
    (hmembers : st'.hostedGroupMembers = st.hostedGroupMembers) :
    MemberLimitInv st' ∧ RaisedWithinLimit st st' := by
  have hcount := activeCount_congr hmembers
  refine ⟨⟨fun g hg ↦ hi.policies g (hgroups ▸ hg), fun g hg ↦ ?_⟩, fun g _ hlt ↦ ?_⟩
  · rw [hcount]
    exact hi.counts g (hgroups ▸ hg)
  · rw [hcount] at hlt
    exact absurd hlt (lt_irrefl _)

/-- **Every step of the Host.** -/
theorem HostStep.memberLimit {settings : Settings} {w w' : HostWorld} {a : HostAction}
    (h : HostStep settings w a w') (hi : MemberLimitInv w.store) (hlog : HostLogInv w.store)
    (ho : MembersOwned w.store) (hk : Table.Keyed HostedMember.key w.store.hostedGroupMembers) :
    MemberLimitInv w'.store ∧ RaisedWithinLimit w.store w'.store := by
  cases h with
  | call c hseen hreplayed =>
    show MemberLimitInv (afterCall settings w.store c) ∧
      RaisedWithinLimit w.store (afterCall settings w.store c)
    unfold afterCall
    split
    · rename_i result st' hcall
      exact (hostedCall_accepted hcall).memberLimit hi hlog ho hk
    · exact hi.congr rfl rfl
  | beginDrain => exact hi.congr rfl rfl
  | attempt => exact hi.congr rfl rfl
  | endDrain => exact hi.congr rfl rfl
  | elsewhere st h => exact hi.congr h.hostedGroups h.hostedGroupMembers

/-- **At most `MAX_MEMBERS`.** In every reachable state no group has more than `MAX_MEMBERS` active
members, and no step, whatever ran since the admission was first checked, raises the number of
active members of a group above the limit of the policy the group then has. -/
theorem active_member_cap {settings : Settings} {w₀ w : HostWorld} (h₀ : w₀.Initial)
    (h : Reaches (HostStep settings) w₀ w) :
    (∀ g ∈ w.store.hostedGroups, (activeCount w.store g.groupDid : ℤ) ≤ MAX_MEMBERS) ∧
      ∀ action w', HostStep settings w action w' → RaisedWithinLimit w.store w'.store := by
  obtain ⟨⟨hlog, hout⟩, ho, hi⟩ := Reaches.invariant
    (I := fun v ↦ (HostLogInv v.store ∧ OutboxInv v.store) ∧ MembersOwned v.store ∧
      MemberLimitInv v.store) h
    ⟨⟨.initial h₀, .initial h₀⟩, by simp [MembersOwned, h₀.hostedGroupMembers],
      by simp [h₀.hostedGroups], by simp [h₀.hostedGroups]⟩
    fun ⟨⟨hlog, hout⟩, ho, hi⟩ hs ↦ ⟨⟨hlog.step hs.storeStep, hout.step hlog hs.storeStep⟩,
      ho.step hlog hs.storeStep, (hs.memberLimit hi hlog ho hout.members_keyed).1⟩
  exact ⟨hi.counts, fun _ _ hs ↦ (hs.memberLimit hi hlog ho hout.members_keyed).2⟩

/-- The sample Host has two active members in its group, of a hundred it may have. -/
theorem active_member_cap_sample :
    (HostWorld.sample.store.hostedGroups.map fun g ↦
      activeCount HostWorld.sample.store g.groupDid) =
        [2] ∧
      ∀ g ∈ HostWorld.sample.store.hostedGroups,
        (activeCount HostWorld.sample.store g.groupDid : ℤ) ≤ MAX_MEMBERS :=
  ⟨by decide +kernel,
    (active_member_cap HostWorld.empty_initial HostWorld.sample_reached).1⟩

end Awiki
