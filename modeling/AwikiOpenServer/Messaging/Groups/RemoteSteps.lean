import AwikiOpenServer.Messaging.Groups.RemoteProjection

/-!
# One event of the Host, seen from a Home

The step lemmas of the remote projection. An event that `o` is not told of leads from `Following` to
`Following` by itself (`Following.untold`): a member becomes lost, and one that is away stays so. An
event it is told of has to be accepted. A message moves the version pair alone
(`Following.told_message`). A state change is applied over the projection of a member, which agreed
(`ToldChange.following_member`); otherwise the Home accepts only the event that makes `o` a member,
and that event carries everything (`ToldChange.following_activated`).

## A case analysis of two sides

`ToldChange` collects what is known when a state change is announced to `o` and its Home has
accepted it: the advance of the Host, the state change with its effect on the roster, what the Home
has written, and how the two stood before. The lemmas under it go by the kind of change, and within
each by whether it is about `o` itself or about somebody else:

* an update writes no roster on either side (`following_updated`);
* a join or an add writes one entry, on both sides the same (`following_admitted`);
* a leave or a removal writes one entry, of which the Home has to guess the role
  (`following_ended`); of `o` itself it ends the projection as well;
* a rebind writes two entries at the Host and one at the Home (`following_rebound`).

In each of them the rosters are functions of a DID that differ from the old ones at one place, so
that they agree afterwards is a fact about one entry (`entries_agree`), and the condition of the
run, `RosterReflected`, is what it needs.

An activation is different in that there may be no projection to start from, or one that ended long
ago: the Home writes the whole group from the event, and whatever happened in between is in it, but
for the roster.
-/

namespace Awiki

open Py Runs

/-! ### The Host around one event -/

section Host

variable {settings : Settings} {st st' : Store}

/-- A remote DID is active by its one row. -/
theorem remoteActive_iff (hk : Table.Keyed HostedMember.key st.hostedGroupMembers) {g o : String} :
    RemoteActive settings st g o ↔ ∃ m, st.hostedMember? g o = some m ∧ m.status = .active ∧
      m.isRemote settings = true := by
  constructor
  · rintro ⟨m, hm, hkey, hrest⟩
    exact ⟨m, by rw [Store.hostedMember?, ← hkey]; exact hk.row?_of_mem hm, hrest⟩
  · rintro ⟨m, hrow, hrest⟩
    exact ⟨m, Table.mem_of_row? hrow, Table.key_of_row? hrow, hrest⟩

/-- So what matters is that row. -/
theorem remoteActive_congr (hk : Table.Keyed HostedMember.key st.hostedGroupMembers)
    (hk' : Table.Keyed HostedMember.key st'.hostedGroupMembers) {g o : String}
    (h : st'.hostedMember? g o = st.hostedMember? g o) :
    RemoteActive settings st' g o ↔ RemoteActive settings st g o := by
  rw [remoteActive_iff hk', remoteActive_iff hk, h]

/-- The head of the group an advance is about, after it. -/
theorem Advance.hostedGroup?_self (a : Advance settings st st') :
    st'.hostedGroup? a.group.groupDid = some (advanceHead a.update
      (nextVersion a.ctx.method a.group.groupStateVersion) (a.group.groupEventSeq + 1) a.now
      a.group) := by
  have hfound := a.extends.found
  rwa [show a.event.groupDid = a.group.groupDid from congrArg Prod.fst a.event_key] at hfound

/-- Other groups keep their heads, -/
theorem Advance.hostedGroup?_of_ne (a : Advance settings st st') {g : String}
    (hne : g ≠ a.group.groupDid) : st'.hostedGroup? g = st.hostedGroup? g := by
  have hsame : Table.SameOn (fun group ↦ decide (group.groupDid = g)) st.hostedGroups
      st'.hostedGroups := by
    rw [a.groups, writeHead]
    refine .updateWhere fun group hgroup ↦ ?_
    have hother : decide (group.groupDid = g) = false :=
      decide_eq_false fun heq ↦ hne (heq.symm.trans (of_decide_eq_true hgroup))
    exact ⟨hother, hother⟩
  exact hsame.row?_eq fun _ hkey ↦ decide_eq_true hkey

/-- and their members. -/
theorem Advance.hostedMember?_of_ne (a : Advance settings st st') {g : String}
    (hne : g ≠ a.group.groupDid) (did : String) :
    st'.hostedMember? g did = st.hostedMember? g did :=
  (a.roster.sameOn hne).row?_eq fun _ hkey ↦ decide_eq_true (congrArg Prod.fst hkey)

/-- A creation changes neither the head nor the roster of another group. -/
theorem Creation.hostedGroup?_of_ne (c : Creation settings st st') {g : String}
    (hne : g ≠ c.group.groupDid) : st'.hostedGroup? g = st.hostedGroup? g := by
  have hsame : Table.SameOn (fun group ↦ decide (group.groupDid = g)) st.hostedGroups
      st'.hostedGroups := by
    rw [c.groups]
    exact .append fun group hgroup ↦ decide_eq_false (List.mem_singleton.mp hgroup ▸ Ne.symm hne)
  exact hsame.row?_eq fun _ hkey ↦ decide_eq_true hkey

/-- Nor does it change their members. -/
theorem Creation.hostedMember?_of_ne (c : Creation settings st st') {g : String}
    (hne : g ≠ c.group.groupDid) (did : String) :
    st'.hostedMember? g did = st.hostedMember? g did := by
  have hsame : Table.SameOn (fun m ↦ decide (m.groupDid = g)) st.hostedGroupMembers
      st'.hostedGroupMembers := by
    rw [c.roster]
    exact .append fun m hm ↦ decide_eq_false (c.members_group m hm ▸ Ne.symm hne)
  exact hsame.row?_eq fun _ hkey ↦ decide_eq_true (congrArg Prod.fst hkey)

end Host

/-! ### An event the member is not told of -/

section Untold

variable {settings : Settings} {st st' home : Store} {g o : String}

/-- A status is known by its text. -/
theorem ViewStatus.text_eq_active {s : ViewStatus} :
    s.text = MemberStatus.active.text ↔ s = .active := by
  cases s <;> simp [ViewStatus.text, MemberStatus.text]

/-- The records of a Home stay behind a head that advances. -/
theorem Following.records_le (h : Following settings st home g o) {group : HostedGroup}
    (hgroup : st.hostedGroup? g = some group) :
    ∀ e ∈ home.inboundPeerEvents, e.groupDid = g → e.targetDid = o →
      e.groupEventSeq ≤ group.groupEventSeq :=
  fun e he hg ho ↦ h.records e he hg ho group hgroup

/-- **An event that is not announced to the member**: if it was one, its Home has lost the group. -/
theorem Following.untold (a : Advance settings st st')
    (h : Following settings st home a.group.groupDid o) (hlog : HostLogInv st) (hi : OutboxInv st)
    (huntold : o ∉ a.recipients.map HostedMember.agentDid)
    (hcond : RosterReflected st st' a.group.groupDid o) :
    Following settings st' home a.group.groupDid o := by
  have hnotices : noticesFor st' a.group.groupDid o = noticesFor st a.group.groupDid o := by
    rw [a.noticesFor_eq hlog hi, if_neg huntold, List.append_nil]
  have htold : subjectsTold st' a.group.groupDid o = subjectsTold st a.group.groupDid o := by
    rw [subjectsTold, hnotices, subjectsTold]
  have hhead := a.hostedGroup?_self
  -- Every remote active member is told of every event, so this one is none.
  have hinactive : ¬ RemoteActive settings st' a.group.groupDid o := fun hactive ↦
    huntold ((a.mem_recipients hi.members_keyed o).mpr (.inl hactive))
  refine ⟨fun e he hg ho group' hgroup' ↦ ?_, ?_, ?_, ?_⟩
  · obtain rfl := Option.some.inj (hhead.symm.trans hgroup')
    have hle := h.records_le a.found e he hg ho
    show e.groupEventSeq ≤ ((a.group.groupEventSeq + 1 : ℕ) : ℤ)
    omega
  · rw [htold]
    exact h.unlisted
  · rw [hnotices]
    exact h.reached
  -- Each standing stays, but a member: it has been ended without a notice, and its view is behind
  -- for good.
  cases h.standing with
  | unknown hnil hview => exact .unknown (hnotices.trans hnil) hview
  | member hactive hagrees =>
    obtain ⟨group, view, owner, hgroup, hview, howner, hmirrors⟩ := hagrees.row
    obtain rfl := Option.some.inj (a.found.symm.trans hgroup)
    obtain ⟨m, hm, hstatus, -⟩ := (remoteActive_iff hi.members_keyed).mp hactive
    obtain rfl := Option.some.inj (howner.symm.trans hm)
    refine .lost _ view hhead hview ?_ ?_
    · have htext := hmirrors.membershipStatus
      rw [hstatus] at htext
      exact ViewStatus.text_eq_active.mp htext
    · rw [hmirrors.groupEventSeq]
      show (a.group.groupEventSeq : ℤ) < ((a.group.groupEventSeq + 1 : ℕ) : ℤ)
      omega
  | gone group view hgroup hv2 _ hview hstatus hseq hversion hroster hagrees =>
    obtain rfl := Option.some.inj (a.found.symm.trans hgroup)
    refine .gone _ view hhead ((a.update_wireProfile _).trans hv2) hinactive hview hstatus ?_ ?_ ?_
      fun hs ↦ ?_
    · show view.groupEventSeq ≤ ((a.group.groupEventSeq + 1 : ℕ) : ℤ)
      omega
    · show view.groupStateVersion ≤
        ((nextVersion a.ctx.method a.group.groupStateVersion : ℕ) : ℤ)
      unfold nextVersion
      split <;> omega
    · rw [htold]
      intro did hdid hne
      have hsame := hcond.missed (fun hchanged ↦ hchanged hnotices) a.group a.found hv2 did hdid hne
      rw [hroster did hdid hne, hsame]
    · have hbehind : view.groupEventSeq = ((a.group.groupEventSeq + 1 : ℕ) : ℤ) := hs
      omega
  | lost group view hgroup hview hstatus hseq =>
    obtain rfl := Option.some.inj (a.found.symm.trans hgroup)
    refine .lost _ view hhead hview hstatus ?_
    show view.groupEventSeq < ((a.group.groupEventSeq + 1 : ℕ) : ℤ)
    omega

end Untold

/-! ### An event the member is told of -/

section Told

variable {settings homeSettings : Settings} {st st' home home' : Store} {o : String}

/-- The notice of an event. -/
def Advance.notice (a : Advance settings st st') (targetDid : String) : Notice :=
  ⟨a.group.groupEventSeq + 1, a.notification, a.envelopeFor targetDid⟩

/-- Its target has one notice more, -/
theorem Advance.noticesFor_of_told (a : Advance settings st st') (hlog : HostLogInv st)
    (hi : OutboxInv st) (htold : o ∈ a.recipients.map HostedMember.agentDid) :
    noticesFor st' a.group.groupDid o = noticesFor st a.group.groupDid o ++ [a.notice o] := by
  rw [a.noticesFor_eq hlog hi, if_pos htold]
  rfl

/-- and has been told of its subjects. -/
theorem Advance.subjectsTold_of_told (a : Advance settings st st') (hlog : HostLogInv st)
    (hi : OutboxInv st) (htold : o ∈ a.recipients.map HostedMember.agentDid) :
    subjectsTold st' a.group.groupDid o =
      subjectsTold st a.group.groupDid o ++ (a.notice o).subjects := by
  rw [subjectsTold, a.noticesFor_of_told hlog hi htold, List.flatMap_append, subjectsTold,
    List.flatMap_singleton]

/-- A recipient is told. -/
theorem Advance.told (a : Advance settings st st') (hlog : HostLogInv st) (hi : OutboxInv st)
    (htold : o ∈ a.recipients.map HostedMember.agentDid) : Told st st' a.group.groupDid o := by
  rw [Told, a.noticesFor_of_told hlog hi htold]
  simp

/-- What every accepted notice keeps: the record of the event and the place of the projection. -/
theorem Following.of_told (a : Advance settings st st')
    (h : Following settings st home a.group.groupDid o) (hlog : HostLogInv st) (hi : OutboxInv st)
    (htold : o ∈ a.recipients.map HostedMember.agentDid)
    (hrecorded : ∃ e : InboundPeerEvent, e.groupEventSeq = (a.group.groupEventSeq + 1 : ℕ) ∧
      home'.inboundPeerEvents = home.inboundPeerEvents ++ [e])
    (hview : ∀ view ∈ home'.groupView? o a.group.groupDid,
      view.groupEventSeq = (a.group.groupEventSeq + 1 : ℕ))
    (hunlisted : ∀ did ∉ subjectsTold st' a.group.groupDid o,
      home'.viewEntry o a.group.groupDid did = none)
    (hstanding : Standing settings st' home' a.group.groupDid o) :
    Following settings st' home' a.group.groupDid o := by
  refine ⟨fun e he hg ho group' hgroup' ↦ ?_, hunlisted, fun view hv notice hnotice ↦ ?_, hstanding⟩
  · obtain rfl := Option.some.inj (a.hostedGroup?_self.symm.trans hgroup')
    show e.groupEventSeq ≤ ((a.group.groupEventSeq + 1 : ℕ) : ℤ)
    obtain ⟨new, hnew, hrecords⟩ := hrecorded
    rw [hrecords] at he
    rcases List.mem_append.mp he with he | he
    · have hle := h.records_le a.found e he hg ho
      omega
    · rw [List.mem_singleton.mp he, hnew]
  · rw [hview view hv]
    rw [a.noticesFor_of_told hlog hi htold] at hnotice
    rcases List.mem_append.mp hnotice with hnotice | hnotice
    · have hle := noticesFor_seq_le hlog hi a.found notice hnotice
      omega
    · rw [List.mem_singleton.mp hnotice]
      exact le_refl _

/-- The records of a Home are older than the next event. -/
theorem Following.records_lt (a : Advance settings st st')
    (h : Following settings st home a.group.groupDid o) :
    ∀ e ∈ home.inboundPeerEvents, e.groupDid = a.group.groupDid → e.targetDid = o →
      e.groupEventSeq < (a.group.groupEventSeq + 1 : ℕ) := by
  intro e he hg ho
  have hle := h.records_le a.found e he hg ho
  omega

/-- **A message that is announced to the member.** Only one with an agreeing projection accepts it,
and the projection agrees afterwards. -/
theorem Following.told_message {call : HostedCall} {result : Obj} (a : Advance settings st st')
    (h : Following settings st home a.group.groupDid o) (hlog : HostLogInv st) (hi : OutboxInv st)
    (hmessage : MessageAdvance settings call st st' result a) (hmethod : call.method = .send)
    (hupdate : a.update = id) (hroster : st'.hostedGroupMembers = st.hostedGroupMembers)
    (hplain : Obj.has a.ctx.body "group_receipt" = false)
    (htold : o ∈ a.recipients.map HostedMember.agentDid)
    (haccepts : Accepts homeSettings home (a.notice o) home') :
    Following settings st' home' a.group.groupDid o := by
  have hversion : nextVersion a.ctx.method a.group.groupStateVersion =
      a.group.groupStateVersion := by
    rw [nextVersion, if_pos (hmessage.verified.method_eq.trans hmethod)]
  have hcarries := a.receipt_carries
  rw [hversion] at hcarries
  have happlied : AppliedMessage home home' a.group.groupDid o a.group.groupStateVersion
      (a.group.groupEventSeq + 1) := by
    unfold Advance.notice at haccepts
    rw [hmessage.notification, hmessage.envelope] at haccepts
    exact haccepts.message hcarries hmessage.receipt_group hplain (h.records_lt a)
  obtain ⟨⟨old, new, hold, hnew, hgap, hv, hs, hprofile, hpolicy, hrole, hstatus⟩, hrecorded,
    hrows⟩ := happlied
  have hmembers : ∀ did, st'.hostedMember? a.group.groupDid did =
      st.hostedMember? a.group.groupDid did := fun did ↦ by
    rw [Store.hostedMember?, hroster, Store.hostedMember?]
  have hsame : RemoteActive settings st' a.group.groupDid o ↔
      RemoteActive settings st a.group.groupDid o :=
    remoteActive_congr hi.members_keyed (hroster ▸ hi.members_keyed) (hmembers o)
  -- Nobody leaves with a message, so its target is a member.
  have hactive : RemoteActive settings st a.group.groupDid o := by
    rcases (a.mem_recipients hi.members_keyed o).mp htold with hactive | ⟨-, -, hbefore, -⟩
    · exact hsame.mp hactive
    · rwa [show a.event.groupDid = a.group.groupDid from congrArg Prod.fst a.event_key] at hbefore
  have hsubjects : subjectsTold st' a.group.groupDid o = subjectsTold st a.group.groupDid o := by
    have hnone : (a.notice o).subjects = [] := by
      simp [Notice.subjects, Advance.notice, hmessage.notification]
    rw [a.subjectsTold_of_told hlog hi htold, hnone, List.append_nil]
  have hentries : ∀ did, home'.viewEntry o a.group.groupDid did =
      home.viewEntry o a.group.groupDid did := viewEntry_congr hrows o a.group.groupDid
  cases h.standing with
  | unknown _ hview => exact absurd (hold.symm.trans hview) (by simp)
  | gone _ _ _ _ hinactive => exact absurd hactive hinactive
  | lost group view hgroup hview _ hseq =>
    obtain rfl := Option.some.inj (a.found.symm.trans hgroup)
    obtain rfl := Option.some.inj (hold.symm.trans hview)
    omega
  | member _ hagrees =>
    obtain ⟨group, view, owner, hgroup, hview, howner, hmirrors⟩ := hagrees.row
    obtain rfl := Option.some.inj (a.found.symm.trans hgroup)
    obtain rfl := Option.some.inj (hold.symm.trans hview)
    have hold_seq := hmirrors.groupEventSeq
    have hold_version := hmirrors.groupStateVersion
    have hseq : new.groupEventSeq = (a.group.groupEventSeq + 1 : ℕ) := by omega
    refine .of_told a h hlog hi htold hrecorded (fun v hv ↦ ?_) ?_ (.member (hsame.mpr hactive) ?_)
    · obtain rfl := Option.some.inj (hnew.symm.trans hv)
      exact hseq
    · rw [hsubjects]
      exact fun did hdid ↦ (hentries did).trans (h.unlisted did hdid)
    · refine ⟨⟨_, new, owner, a.hostedGroup?_self, hnew, (hmembers o).trans howner, ?_⟩, ?_⟩
      · refine ⟨?_, hseq, hprofile.trans ?_, hpolicy.trans ?_, hrole.trans hmirrors.memberRole, ?_⟩
        · rw [hversion, hupdate]
          show new.groupStateVersion = (a.group.groupStateVersion : ℤ)
          omega
        · rw [hmirrors.profile, hupdate]
          rfl
        · rw [hmirrors.policy, hupdate]
          rfl
        · rw [hstatus, hmirrors.membershipStatus]
      · rw [hsubjects]
        intro did hdid
        rw [hentries, hagrees.roster did hdid, Store.rosterEntry, Store.rosterEntry, hmembers]

end Told

/-! ### A state change the member is told of -/

section Entries

variable {st st' home home' : Store} {g o t : String} {entry : String × String}
  {subjects : List String}

/-- The entries after one row was written. -/
theorem rosterEntry_of {row : HostedMember} (hroster : ∀ did, st'.hostedMember? g did =
      if did = t then some row else st.hostedMember? g did) (did : String) :
    st'.rosterEntry g did = if did = t then some (row.role.text, row.status.text)
      else st.rosterEntry g did := by
  rw [Store.rosterEntry, hroster, Store.rosterEntry]
  split <;> rfl

/-- One entry is written on both sides. -/
theorem entries_agree
    (hview : ∀ did, home'.viewEntry o g did = if did = t then some entry
      else home.viewEntry o g did)
    (hhost : ∀ did, st'.rosterEntry g did = if did = t then some entry else st.rosterEntry g did)
    (hold : ∀ did ∈ subjects, did ≠ t → home.viewEntry o g did = st.rosterEntry g did) :
    ∀ did ∈ subjects ++ [t], home'.viewEntry o g did = st'.rosterEntry g did := by
  intro did hdid
  rw [hview, hhost]
  by_cases heq : did = t
  · rw [if_pos heq, if_pos heq]
  · rw [if_neg heq, if_neg heq]
    rcases List.mem_append.mp hdid with hdid | hdid
    · exact hold did hdid heq
    · exact absurd (List.mem_singleton.mp hdid) heq

/-- Entries of DIDs that no event was about. -/
theorem unlisted_after {more : List String}
    (hview : ∀ did, home'.viewEntry o g did = if did = t then some entry
      else home.viewEntry o g did)
    (hold : ∀ did ∉ subjects, home.viewEntry o g did = none) :
    ∀ did ∉ subjects ++ t :: more, home'.viewEntry o g did = none := by
  intro did hdid
  rw [List.mem_append, List.mem_cons, not_or, not_or] at hdid
  rw [hview, if_neg hdid.2.1]
  exact hold did hdid.1

end Entries

section View

variable {view : GroupView} {group group' : HostedGroup} {owner owner' : HostedMember}
  {n : Notification} {req : Request} {peer eventType changedAt : String} {v s : ℤ}
  {subject previous role status profile policy : Json}

/-- An event that does not end the membership of its target leaves an active one active. -/
theorem statusAfter_of_active (hactive : view.membershipStatus = .active)
    (hother : (n.body.get "subject_did").isStr n.targetDid = false ∨
      eventType ≠ "member-removed" ∧ eventType ≠ "member-left") :
    statusAfter n (some view) eventType false = .active := by
  unfold statusAfter
  rcases hother with hother | ⟨hremoved, hleft⟩
  · simp [hother, hactive]
  · simp [hremoved, hleft, hactive]

/-- **The projected group after an event**, over one that agreed and was active. -/
theorem GroupView.Mirrors.eventView (hm : view.Mirrors group owner)
    (hactive : view.membershipStatus = .active)
    (hreads : EventReads n.body subject previous role status profile policy)
    (hv : v = group'.groupStateVersion) (hs : s = group'.groupEventSeq)
    (hprofile : group'.profile = profile.obj?.getD group.profile)
    (hpolicy : group'.policy = policy.obj?.getD group.policy) (hrole : owner'.role = owner.role)
    (hstatus : (statusAfter n (some view) eventType false).text = owner'.status.text) :
    (Awiki.eventView req n (some view) peer eventType changedAt v s).Mirrors group' owner' := by
  have hreactivated : isReactivation n (some view) eventType v = false := by
    simp [isReactivation, hactive]
  refine ⟨hv, hs, ?_, ?_, ?_, ?_⟩
  · rw [hprofile, ← hm.profile, ← hreads.profile]
    rfl
  · rw [hpolicy, ← hm.policy, ← hreads.policy]
    rfl
  · rw [hrole, ← hm.memberRole]
    simp [Awiki.eventView, hreactivated, roleAfter]
  · rw [← hstatus, ← hreactivated]
    rfl

/-- **The projected group after its owner became a member**, with no projection before or with one
of a member that had left. -/
theorem eventView_of_activated {existing : Option GroupView} {roleText : String}
    (hreads : EventReads n.body (.str n.targetDid) previous role (.str "active") profile policy)
    (hrole : role.orElse (.str "member") = .str roleText)
    (hexisting : ∀ view ∈ existing,
      n.profile = .v2 ∧ view.membershipStatus ≠ .active ∧ view.groupStateVersion < v) :
    (eventView req n existing peer "member-activated" changedAt v s).memberRole = roleText ∧
      (eventView req n existing peer "member-activated" changedAt v s).membershipStatus =
        .active := by
  cases existing with
  | none =>
    refine ⟨?_, by simp [eventView, statusAfter]⟩
    show req.outside.str ((n.body.get "role").orElse (.str "member")) = roleText
    rw [hreads.role, hrole]
    rfl
  | some view =>
    obtain ⟨hv2, hstatus, hversion⟩ := hexisting view rfl
    have hreactivated : isReactivation n (some view) "member-activated" v = true := by
      simp [isReactivation, hv2, hstatus, hversion, hreads.subject, hreads.status, Json.isStr]
    refine ⟨?_, by simp [eventView, statusAfter, hreactivated]⟩
    rw [eventView, hreactivated]
    show req.outside.str ((n.body.get "role").orElse (.str "member")) = roleText
    rw [hreads.role, hrole]
    rfl

end View

section Changed

variable {settings homeSettings : Settings} {st st' home home' : Store} {o : String}
  {call : HostedCall} {change : StateChange} {req : Request} {n : Notification}

/-- The event of a state change. -/
def Advance.changeEvent (a : Advance settings st st') (change : StateChange) (now : String) : Obj :=
  stateEvent a.ctx a.group.groupDid change (a.group.groupStateVersion + 1)
    (a.group.groupEventSeq + 1) now a.receipt

/-- **The Home of `o` has applied a state change it was told of.** -/
structure ToldChange (settings : Settings) (call : HostedCall) (st st' home home' : Store)
    (o : String) (a : Advance settings st st') (change : StateChange) (req : Request)
    (n : Notification) : Prop where
  told : o ∈ a.recipients.map HostedMember.agentDid
  accepted : ChangeAdvance settings call st st' a change
  applied : AppliedChange home home' a.group.groupDid o change.eventType call.req.outside.now
    a.group.wireProfile (a.changeEvent change call.req.outside.now)
    (a.group.groupStateVersion + 1) (a.group.groupEventSeq + 1) req n

/-- A member that was told of its departure, with a projection that agrees. -/
theorem Standing.of_departed {g : String} {row : HostedMember}
    (hrow : st'.hostedMember? g o = some row) (hdeparted : row.status ≠ .active)
    (hagrees : RemoteAgrees st' home' g o) (hinactive : ¬ RemoteActive settings st' g o)
    (hv2 : ∃ head, st'.hostedGroup? g = some head ∧ head.wireProfile = .v2) :
    Standing settings st' home' g o := by
  obtain ⟨group, view, owner, hgroup, hview, howner, hmirrors⟩ := hagrees.row
  obtain ⟨head, hhead, hprofile⟩ := hv2
  obtain rfl := Option.some.inj (hhead.symm.trans hgroup)
  obtain rfl := Option.some.inj (hrow.symm.trans howner)
  refine .gone head view hgroup hprofile hinactive hview (fun hactive ↦ hdeparted ?_)
    hmirrors.groupEventSeq.le hmirrors.groupStateVersion.le
    (fun did hdid _ ↦ hagrees.roster did hdid) fun _ ↦ hagrees
  have htext := hmirrors.membershipStatus
  rw [hactive] at htext
  exact MemberStatus.text_eq_active.mp htext.symm

namespace ToldChange

variable {a : Advance settings st st'}

/-- The head of the group after the event. -/
theorem head (ht : ToldChange settings call st st' home home' o a change req n) :
    st'.hostedGroup? a.group.groupDid = some (advanceHead change.update
      (a.group.groupStateVersion + 1) (a.group.groupEventSeq + 1) a.now a.group) := by
  rw [a.hostedGroup?_self, ht.accepted.version, ht.accepted.update]

/-- What the member has been told of, afterwards. -/
theorem subjectsTold_eq (ht : ToldChange settings call st st' home home' o a change req n)
    (hlog : HostLogInv st) (hi : OutboxInv st)
    {subject previous role status profile policy : Json}
    (hreads : EventReads change.eventFields subject previous role status profile policy) :
    subjectsTold st' a.group.groupDid o = subjectsTold st a.group.groupDid o ++
      (subject.str?.toList ++ previous.str?.toList) := by
  obtain ⟨operationId, henvelope⟩ := ht.accepted.envelope
  rw [a.subjectsTold_of_told hlog hi ht.told, Advance.notice, ht.accepted.notification, henvelope,
    subjects_of_reads (.of_fields hreads)]

/-- What the Home looks at is what the state change says. -/
theorem reads (ht : ToldChange settings call st st' home home' o a change req n)
    {subject previous role status profile policy : Json}
    (hreads : EventReads change.eventFields subject previous role status profile policy) :
    EventReads n.body subject previous role status profile policy := by
  rw [ht.applied.body]
  exact .of_fields hreads

/-- The relation after an applied event: what is left to show of it. -/
theorem following (ht : ToldChange settings call st st' home home' o a change req n)
    (h : Following settings st home a.group.groupDid o) (hlog : HostLogInv st) (hi : OutboxInv st)
    (hunlisted : ∀ did ∉ subjectsTold st' a.group.groupDid o,
      home'.viewEntry o a.group.groupDid did = none)
    (hstanding : Standing settings st' home' a.group.groupDid o) :
    Following settings st' home' a.group.groupDid o := by
  refine .of_told a h hlog hi ht.told ht.applied.recorded (fun view hv ↦ ?_) hunlisted hstanding
  obtain ⟨peer, hview⟩ := ht.applied.view
  obtain rfl := Option.some.inj (hview.symm.trans hv)
  rfl

/-- **An event of a member whose projection agrees**: the projection agrees afterwards, if its
roster does. -/
theorem agrees (ht : ToldChange settings call st st' home home' o a change req n)
    (hi : OutboxInv st) (hactive : RemoteActive settings st a.group.groupDid o)
    (hagrees : RemoteAgrees st home a.group.groupDid o)
    {subject previous role status profile policy : Json}
    (hreads : EventReads change.eventFields subject previous role status profile policy)
    (hprofile : (change.update a.group).profile = profile.obj?.getD a.group.profile)
    (hpolicy : (change.update a.group).policy = policy.obj?.getD a.group.policy)
    (howner : ∀ owner, st.hostedMember? a.group.groupDid o = some owner →
      owner.status = .active → ∃ owner', st'.hostedMember? a.group.groupDid o = some owner' ∧
        owner'.role = owner.role ∧ ∀ view : GroupView, view.membershipStatus = .active →
          (statusAfter n (some view) change.eventType false).text = owner'.status.text)
    (hroster : ∀ did ∈ subjectsTold st' a.group.groupDid o,
      home'.viewEntry o a.group.groupDid did = st'.rosterEntry a.group.groupDid did) :
    RemoteAgrees st' home' a.group.groupDid o := by
  obtain ⟨group, view, owner, hgroup, hview, hrow, hmirrors⟩ := hagrees.row
  obtain rfl := Option.some.inj (a.found.symm.trans hgroup)
  obtain ⟨m, hm, hstatus, -⟩ := (remoteActive_iff hi.members_keyed).mp hactive
  obtain rfl := Option.some.inj (hrow.symm.trans hm)
  obtain ⟨owner', hrow', hrole, hafter⟩ := howner owner hrow hstatus
  have hview_active : view.membershipStatus = .active := by
    have htext := hmirrors.membershipStatus
    rw [hstatus] at htext
    exact ViewStatus.text_eq_active.mp htext
  obtain ⟨peer, hview'⟩ := ht.applied.view
  rw [hview] at hview'
  refine ⟨⟨_, _, owner', ht.head, hview', hrow', ?_⟩, hroster⟩
  exact hmirrors.eventView hview_active (ht.reads hreads) rfl rfl hprofile hpolicy hrole
    (hafter view hview_active)

/-- An update of the profile or the policy. -/
theorem following_updated {value : Obj} (ht : ToldChange settings call st st' home home' o a
      (groupUpdate call.method value) req n)
    (h : Following settings st home a.group.groupDid o) (hlog : HostLogInv st) (hi : OutboxInv st)
    (hactive : RemoteActive settings st a.group.groupDid o)
    (hagrees : RemoteAgrees st home a.group.groupDid o)
    (hmethod : call.method = .updateProfile ∨ call.method = .updatePolicy)
    (hroster : ∀ did, st'.hostedMember? a.group.groupDid did =
      st.hostedMember? a.group.groupDid did) :
    Following settings st' home' a.group.groupDid o := by
  have hreads := groupUpdate_reads hmethod value
  have hsubjects := ht.subjectsTold_eq hlog hi hreads
  have hentries := ht.applied.viewEntry_of_none (ht.applied.body ▸ ht.reads hreads)
  have hactive' := (remoteActive_congr hi.members_keyed (a.roster.keyed hi.members_keyed)
    (hroster o)).mpr hactive
  simp only [Json.str?, Option.toList_none, List.append_nil] at hsubjects
  refine ht.following h hlog hi ?_ (.member hactive' ?_)
  · rw [hsubjects]
    exact fun did hdid ↦ (hentries did).trans (h.unlisted did hdid)
  refine ht.agrees hi hactive hagrees hreads ?_ ?_ (fun owner howner hstatus ↦ ?_) ?_
  · rcases hmethod with hm | hm <;> simp [groupUpdate, hm, Json.obj?]
  · rcases hmethod with hm | hm <;> simp [groupUpdate, hm, Json.obj?]
  · refine ⟨owner, (hroster o).trans howner, rfl, fun view hview ↦ ?_⟩
    rw [statusAfter_of_active hview (.inl (by rw [(ht.reads hreads).subject]; rfl)), hstatus]
    rfl
  · rw [hsubjects]
    intro did hdid
    rw [hentries, hagrees.roster did hdid, Store.rosterEntry, Store.rosterEntry, hroster]

/-- Somebody else joins or is added. -/
theorem following_admitted {ad : Admission} {row : HostedMember}
    (ht : ToldChange settings call st st' home home' o a (activation a.group ad) req n)
    (h : Following settings st home a.group.groupDid o) (hlog : HostLogInv st) (hi : OutboxInv st)
    (hactive : RemoteActive settings st a.group.groupDid o)
    (hagrees : RemoteAgrees st home a.group.groupDid o)
    (hinactive : ∀ m ∈ st.hostedMember? a.group.groupDid ad.targetDid, m.status ≠ .active)
    (hrole : row.role = ad.role) (hstatus : row.status = .active)
    (hroster : ∀ did, st'.hostedMember? a.group.groupDid did =
      if did = ad.targetDid then some row else st.hostedMember? a.group.groupDid did) :
    Following settings st' home' a.group.groupDid o := by
  have hne : o ≠ ad.targetDid := by
    rintro rfl
    obtain ⟨m, hm, hm_active, -⟩ := (remoteActive_iff hi.members_keyed).mp hactive
    exact hinactive m hm hm_active
  have hother : st'.hostedMember? a.group.groupDid o = st.hostedMember? a.group.groupDid o := by
    rw [hroster, if_neg hne]
  have hreads := activation_reads a.group ad
  have hsubjects := ht.subjectsTold_eq hlog hi hreads
  have hentries := ht.applied.viewEntry (ht.applied.body ▸ ht.reads hreads)
    (by cases ad.role <;> rfl : (Json.str ad.role.text).orElse _ = .str ad.role.text) (by decide)
  have hactive' := (remoteActive_congr hi.members_keyed (a.roster.keyed hi.members_keyed)
    hother).mpr hactive
  have hhost := rosterEntry_of hroster
  rw [hrole, hstatus] at hhost
  refine ht.following h hlog hi ?_ (.member hactive' ?_)
  · rw [hsubjects]
    exact unlisted_after hentries h.unlisted
  refine ht.agrees hi hactive hagrees hreads rfl rfl (fun owner howner howner_active ↦ ?_) ?_
  · refine ⟨owner, hother.trans howner, rfl, fun view hview ↦ ?_⟩
    rw [statusAfter_of_active hview (.inr (by simp [activation])), howner_active]
    rfl
  · rw [hsubjects]
    exact entries_agree hentries hhost fun did hdid _ ↦ hagrees.roster did hdid

/-- Somebody leaves or is removed, the member itself or another. Its event has no role, and the
Home writes `member`. -/
theorem following_ended {t : String} {member row : HostedMember}
    (ht : ToldChange settings call st st' home home' o a (departure call.method t) req n)
    (h : Following settings st home a.group.groupDid o) (hlog : HostLogInv st) (hi : OutboxInv st)
    (hactive : RemoteActive settings st a.group.groupDid o)
    (hagrees : RemoteAgrees st home a.group.groupDid o)
    (hcond : RosterReflected st st' a.group.groupDid o)
    (hmember : st.hostedMember? a.group.groupDid t = some member)
    (hmember_active : member.status = .active) (hrole : row.role = member.role)
    (hstatus : row.status = endedStatus call.method)
    (hroster : ∀ did, st'.hostedMember? a.group.groupDid did =
      if did = t then some row else st.hostedMember? a.group.groupDid did) :
    Following settings st' home' a.group.groupDid o := by
  have hdeparted : row.status ≠ .active := by
    rw [hstatus, endedStatus]
    split <;> simp
  have hplain : member.role = .member := by
    have hkey : member.key = (a.group.groupDid, t) := Table.key_of_row? hmember
    refine hcond.departed (a.told hlog hi ht.told) member (Table.mem_of_row? hmember)
      (congrArg Prod.fst hkey) hmember_active row ?_ hdeparted
    rw [show member.agentDid = t from congrArg Prod.snd hkey, hroster, if_pos rfl]
    rfl
  have hreads := departure_reads call.method t
  have hsubjects := ht.subjectsTold_eq hlog hi hreads
  have hentries : ∀ did, home'.viewEntry o a.group.groupDid did =
      if did = t then some ("member", if call.method = .leave then "left" else "removed")
      else home.viewEntry o a.group.groupDid did :=
    ht.applied.viewEntry (ht.applied.body ▸ ht.reads hreads) rfl (by split <;> decide)
  have hhost := rosterEntry_of hroster
  have htext : row.status.text = if call.method = .leave then "left" else "removed" := by
    rw [hstatus, endedStatus]
    split <;> rfl
  rw [hrole, hplain, htext] at hhost
  have hafter : RemoteAgrees st' home' a.group.groupDid o := by
    refine ht.agrees hi hactive hagrees hreads rfl rfl (fun owner howner howner_active ↦ ?_) ?_
    · by_cases hself : o = t
      · subst hself
        obtain rfl := Option.some.inj (hmember.symm.trans howner)
        refine ⟨row, by rw [hroster, if_pos rfl], hrole, fun view hview ↦ ?_⟩
        rw [htext, statusAfter, (ht.reads hreads).subject, ht.applied.target]
        by_cases hleave : call.method = .leave <;>
          simp [departure, hleave, Json.isStr, ViewStatus.text]
      · refine ⟨owner, by rw [hroster, if_neg hself, howner], rfl, fun view hview ↦ ?_⟩
        have hother : (n.body.get "subject_did").isStr n.targetDid = false := by
          rw [(ht.reads hreads).subject, ht.applied.target]
          simp [Json.isStr, Ne.symm hself]
        rw [statusAfter_of_active hview (.inl hother), howner_active]
        rfl
    · rw [hsubjects]
      exact entries_agree hentries hhost fun did hdid _ ↦ hagrees.roster did hdid
  refine ht.following h hlog hi ?_ ?_
  · rw [hsubjects]
    exact unlisted_after hentries h.unlisted
  by_cases hself : o = t
  · subst hself
    have hinactive : ¬ RemoteActive settings st' a.group.groupDid o := fun hact ↦ by
      obtain ⟨m, hm, hm_active, -⟩ :=
        (remoteActive_iff (a.roster.keyed hi.members_keyed)).mp hact
      rw [hroster, if_pos rfl] at hm
      exact hdeparted (Option.some.inj hm ▸ hm_active)
    -- Version 1 does not tell it, so the group is one of version 2.
    obtain ⟨-, hv2, -⟩ := ((a.mem_recipients hi.members_keyed o).mp ht.told).resolve_left hinactive
    rw [show a.event.groupDid = a.group.groupDid from congrArg Prod.fst a.event_key] at hv2
    exact .of_departed ((hroster o).trans (if_pos rfl)) hdeparted hafter hinactive hv2
  · have hother : st'.hostedMember? a.group.groupDid o = st.hostedMember? a.group.groupDid o := by
      rw [hroster, if_neg hself]
    exact .member ((remoteActive_congr hi.members_keyed (a.roster.keyed hi.members_keyed)
      hother).mpr hactive) hafter

/-- Somebody else's membership goes over to a new DID. Its event has no role either, and the Home
leaves the row of the previous DID as it is. -/
theorem following_rebound {binding : VerifiedHandleBinding} {previousDid newDid : String}
    {member row : HostedMember}
    (ht : ToldChange settings call st st' home home' o a (rebinding binding previousDid newDid)
      req n)
    (h : Following settings st home a.group.groupDid o) (hlog : HostLogInv st) (hi : OutboxInv st)
    (hactive : RemoteActive settings st a.group.groupDid o)
    (hagrees : RemoteAgrees st home a.group.groupDid o)
    (hcond : RosterReflected st st' a.group.groupDid o) (hprofile : a.group.wireProfile = .v1)
    (hmember : st.hostedMember? a.group.groupDid previousDid = some member)
    (hfresh : st.hostedMember? a.group.groupDid newDid = none) (hrole : row.role = member.role)
    (hstatus : row.status = .active)
    (hroster : ∀ did, st'.hostedMember? a.group.groupDid did =
      if did = newDid then some row else if did = previousDid then none
      else st.hostedMember? a.group.groupDid did) :
    Following settings st' home' a.group.groupDid o := by
  obtain ⟨m, hm, -⟩ := (remoteActive_iff hi.members_keyed).mp hactive
  have hnew : o ≠ newDid := by
    rintro rfl
    exact absurd (hm.symm.trans hfresh) (by simp)
  have hmoved : previousDid ≠ newDid := by
    rintro rfl
    exact absurd (hmember.symm.trans hfresh) (by simp)
  -- The member whose row goes over is not told: it has no row left, and the group is version 1.
  have hprevious : o ≠ previousDid := by
    rintro rfl
    rcases (a.mem_recipients hi.members_keyed o).mp ht.told with hact | ⟨-, ⟨head, hhead, hv2⟩, -⟩
    · obtain ⟨m', hm', -⟩ := (remoteActive_iff (a.roster.keyed hi.members_keyed)).mp hact
      rw [hroster, if_neg hnew, if_pos rfl] at hm'
      cases hm'
    · rw [show a.event.groupDid = a.group.groupDid from congrArg Prod.fst a.event_key,
        a.hostedGroup?_self] at hhead
      obtain rfl := Option.some.inj hhead
      have hv1 := (a.update_wireProfile a.group).trans hprofile
      exact absurd (hv1.symm.trans hv2) (by decide)
  obtain ⟨hplain, huntold⟩ : member.role = .member ∧
      previousDid ∉ subjectsTold st a.group.groupDid o := by
    have hkey : member.key = (a.group.groupDid, previousDid) := Table.key_of_row? hmember
    have hdid : member.agentDid = previousDid := congrArg Prod.snd hkey
    have hbound := hcond.rebound (a.told hlog hi ht.told) member (Table.mem_of_row? hmember)
      (congrArg Prod.fst hkey)
    rw [hdid, hroster, if_neg hmoved, if_pos rfl] at hbound
    exact hbound rfl
  have hother : st'.hostedMember? a.group.groupDid o = st.hostedMember? a.group.groupDid o := by
    rw [hroster, if_neg hnew, if_neg hprevious]
  have hreads := rebinding_reads binding previousDid newDid
  have hsubjects := ht.subjectsTold_eq hlog hi hreads
  have hentries : ∀ did, home'.viewEntry o a.group.groupDid did =
      if did = newDid then some ("member", "active")
      else home.viewEntry o a.group.groupDid did :=
    ht.applied.viewEntry (ht.applied.body ▸ ht.reads hreads) rfl (by decide)
  have hactive' := (remoteActive_congr hi.members_keyed (a.roster.keyed hi.members_keyed)
    hother).mpr hactive
  refine ht.following h hlog hi ?_ (.member hactive' ?_)
  · rw [hsubjects]
    exact unlisted_after hentries h.unlisted
  refine ht.agrees hi hactive hagrees hreads rfl rfl (fun owner howner howner_active ↦ ?_) ?_
  · refine ⟨owner, hother.trans howner, rfl, fun view hview ↦ ?_⟩
    rw [statusAfter_of_active hview (.inr (by simp [rebinding])), howner_active]
    rfl
  · rw [hsubjects]
    intro did hdid
    rw [hentries, Store.rosterEntry, hroster]
    by_cases hdid_new : did = newDid
    · rw [if_pos hdid_new, if_pos hdid_new, Option.map_some, hrole, hplain, hstatus]
      rfl
    rw [if_neg hdid_new, if_neg hdid_new]
    by_cases hdid_previous : did = previousDid
    · rw [if_pos hdid_previous, hdid_previous, h.unlisted _ huntold]
      rfl
    · rw [if_neg hdid_previous]
      refine hagrees.roster did ((List.mem_append.mp hdid).resolve_right fun hmem ↦ ?_)
      simp [Json.str?, hdid_new, hdid_previous] at hmem

/-- **A state change a member is told of.** -/
theorem following_member (ht : ToldChange settings call st st' home home' o a change req n)
    (h : Following settings st home a.group.groupDid o) (hlog : HostLogInv st) (hi : OutboxInv st)
    (hactive : RemoteActive settings st a.group.groupDid o)
    (hagrees : RemoteAgrees st home a.group.groupDid o)
    (hcond : RosterReflected st st' a.group.groupDid o) :
    Following settings st' home' a.group.groupDid o := by
  cases ht.accepted.effect with
  | admitted ad row hinactive hrole hstatus hroster =>
    exact ht.following_admitted h hlog hi hactive hagrees hinactive hrole hstatus hroster
  | ended t member row hmethod hmember hmember_active hrole hstatus hroster =>
    exact ht.following_ended h hlog hi hactive hagrees hcond hmember hmember_active hrole hstatus
      hroster
  | rebound binding previousDid newDid member row hprofile hmember hfresh hrole hstatus hroster =>
    exact ht.following_rebound h hlog hi hactive hagrees hcond hprofile hmember hfresh hrole hstatus
      hroster
  | updated value hmethod hroster =>
    exact ht.following_updated h hlog hi hactive hagrees hmethod hroster

/-- **The member itself becomes one**, for the first time or again. Its event carries the whole
group, and the role. -/
theorem following_activated {ad : Admission} {row : HostedMember}
    (ht : ToldChange settings call st st' home home' o a (activation a.group ad) req n)
    (h : Following settings st home a.group.groupDid o) (hlog : HostLogInv st) (hi : OutboxInv st)
    (hself : ad.targetDid = o)
    (hinactive : ∀ m ∈ st.hostedMember? a.group.groupDid ad.targetDid, m.status ≠ .active)
    (hrole : row.role = ad.role) (hstatus : row.status = .active)
    (hroster : ∀ did, st'.hostedMember? a.group.groupDid did =
      if did = ad.targetDid then some row else st.hostedMember? a.group.groupDid did)
    (hold : ∀ did ∈ subjectsTold st a.group.groupDid o, did ≠ o →
      home.viewEntry o a.group.groupDid did = st.rosterEntry a.group.groupDid did)
    (hexisting : ∀ view ∈ home.groupView? o a.group.groupDid, a.group.wireProfile = .v2 ∧
      view.membershipStatus ≠ .active ∧ view.groupStateVersion ≤ a.group.groupStateVersion) :
    Following settings st' home' a.group.groupDid o := by
  subst hself
  -- The member was not active and is told, and the departed are told only if they were active.
  have hactive : RemoteActive settings st' a.group.groupDid ad.targetDid := by
    refine ((a.mem_recipients hi.members_keyed _).mp ht.told).resolve_right ?_
    rintro ⟨-, -, hbefore, -⟩
    rw [show a.event.groupDid = a.group.groupDid from congrArg Prod.fst a.event_key] at hbefore
    obtain ⟨m, hm, hm_active, -⟩ := (remoteActive_iff hi.members_keyed).mp hbefore
    exact hinactive m hm hm_active
  have hreads := activation_reads a.group ad
  have hbody := ht.reads hreads
  have hsubjects := ht.subjectsTold_eq hlog hi hreads
  have horElse : (Json.str ad.role.text).orElse (.str "member") = .str ad.role.text := by
    cases ad.role <;> rfl
  have hentries := ht.applied.viewEntry (ht.applied.body ▸ hbody) horElse (by decide)
  have hhost := rosterEntry_of hroster
  rw [hrole, hstatus] at hhost
  refine ht.following h hlog hi ?_ (.member hactive ⟨?_, ?_⟩)
  · rw [hsubjects]
    exact unlisted_after hentries h.unlisted
  · obtain ⟨peer, hview⟩ := ht.applied.view
    have hbefore : ∀ view ∈ home.groupView? ad.targetDid a.group.groupDid, n.profile = .v2 ∧
        view.membershipStatus ≠ .active ∧
        view.groupStateVersion < ((a.group.groupStateVersion + 1 : ℕ) : ℤ) := fun view hmem ↦ by
      obtain ⟨hv2, hview_status, hversion⟩ := hexisting view hmem
      exact ⟨ht.applied.profile_eq.trans hv2, hview_status, by omega⟩
    obtain ⟨hview_role, hview_status⟩ := eventView_of_activated (ht.applied.target.symm ▸ hbody)
      horElse hbefore
    refine ⟨_, _, row, ht.head, hview, by rw [hroster, if_pos rfl], rfl, rfl, ?_, ?_, ?_, ?_⟩
    · rw [eventView, hbody.profile]
      rfl
    · rw [eventView, hbody.policy]
      rfl
    · rw [hrole]
      exact hview_role
    · rw [hstatus]
      exact congrArg ViewStatus.text hview_status
  · rw [hsubjects]
    exact entries_agree hentries hhost hold

/-- A DID that is active only after a state change of a version 2 group joined or was added. -/
theorem admitted_of_active (ht : ToldChange settings call st st' home home' o a change req n)
    (hi : OutboxInv st) (hv2 : a.group.wireProfile = .v2)
    (hinactive : ¬ RemoteActive settings st a.group.groupDid o)
    (hactive : RemoteActive settings st' a.group.groupDid o) :
    ∃ ad row, change = activation a.group ad ∧ ad.targetDid = o ∧
      (∀ m ∈ st.hostedMember? a.group.groupDid ad.targetDid, m.status ≠ .active) ∧
      row.role = ad.role ∧ row.status = .active ∧
      ∀ did, st'.hostedMember? a.group.groupDid did =
        if did = ad.targetDid then some row else st.hostedMember? a.group.groupDid did := by
  have hchanged : st'.hostedMember? a.group.groupDid o ≠ st.hostedMember? a.group.groupDid o :=
    fun hsame ↦ hinactive ((remoteActive_congr hi.members_keyed (a.roster.keyed hi.members_keyed)
      hsame).mp hactive)
  cases ht.accepted.effect with
  | admitted ad row hended hrole hstatus hroster =>
    refine ⟨ad, row, rfl, ?_, hended, hrole, hstatus, hroster⟩
    by_contra hother
    exact hchanged (by rw [hroster, if_neg (Ne.symm hother)])
  | ended t member row hmethod hmember hmember_active hrole hstatus hroster =>
    obtain ⟨m, hm, hm_active, -⟩ := (remoteActive_iff (a.roster.keyed hi.members_keyed)).mp hactive
    have hself : o = t := by
      by_contra hother
      exact hchanged (by rw [hroster, if_neg hother])
    rw [hroster, if_pos hself] at hm
    obtain rfl := Option.some.inj hm
    rw [hstatus, endedStatus] at hm_active
    split at hm_active <;> cases hm_active
  | rebound binding previousDid newDid member row hprofile =>
    exact absurd (hprofile.symm.trans hv2) (by decide)
  | updated value hmethod hroster => exact absurd (hroster o) hchanged

/-- A Home without a projection accepts only the event that makes its user a member. -/
theorem admitted_of_none (ht : ToldChange settings call st st' home home' o a change req n)
    (hnone : home.groupView? o a.group.groupDid = none) :
    ∃ ad row, change = activation a.group ad ∧ ad.targetDid = o ∧
      (∀ m ∈ st.hostedMember? a.group.groupDid ad.targetDid, m.status ≠ .active) ∧
      row.role = ad.role ∧ row.status = .active ∧
      ∀ did, st'.hostedMember? a.group.groupDid did =
        if did = ad.targetDid then some row else st.hostedMember? a.group.groupDid did := by
  have hactivation := ht.applied.inSequence
  rw [hnone] at hactivation
  have htype := require_eq_ok.mp hactivation
  simp only [isActivation, Bool.and_eq_true, decide_eq_true_eq, ht.applied.target] at htype
  obtain ⟨⟨htype, hsubject⟩, -⟩ := htype
  cases ht.accepted.effect with
  | admitted ad row hended hrole hstatus hroster =>
    rw [(ht.reads (activation_reads a.group ad)).subject] at hsubject
    exact ⟨ad, row, rfl, Json.str.inj (Json.isStr_iff.mp hsubject), hended, hrole, hstatus, hroster⟩
  | ended t member row hmethod =>
    rcases hmethod with hmethod | hmethod <;> simp [departure, hmethod] at htype
  | rebound => simp [rebinding] at htype
  | updated value hmethod =>
    rcases hmethod with hmethod | hmethod <;> simp [groupUpdate, hmethod] at htype

end ToldChange

/-- The projection is never ahead of the Host. -/
theorem Following.view_lt (a : Advance settings st st')
    (h : Following settings st home a.group.groupDid o) :
    ∀ view ∈ home.groupView? o a.group.groupDid,
      view.groupEventSeq < (a.group.groupEventSeq + 1 : ℕ) := by
  intro view hview
  cases h.standing with
  | unknown _ hnone => exact absurd (hnone.symm.trans hview) (by simp)
  | member _ hagrees =>
    obtain ⟨group, view', owner, hgroup, hview', -, hmirrors⟩ := hagrees.row
    obtain rfl := Option.some.inj (hview'.symm.trans hview)
    obtain rfl := Option.some.inj (a.found.symm.trans hgroup)
    have hseq := hmirrors.groupEventSeq
    omega
  | gone group view' hgroup _ _ hview' _ hseq =>
    obtain rfl := Option.some.inj (hview'.symm.trans hview)
    obtain rfl := Option.some.inj (a.found.symm.trans hgroup)
    omega
  | lost group view' hgroup hview' _ hseq =>
    obtain rfl := Option.some.inj (hview'.symm.trans hview)
    obtain rfl := Option.some.inj (a.found.symm.trans hgroup)
    omega

/-- The event of a state change, accepted. -/
theorem Following.toldChange (a : Advance settings st st')
    (h : Following settings st home a.group.groupDid o)
    (hchange : ChangeAdvance settings call st st' a change)
    (htold : o ∈ a.recipients.map HostedMember.agentDid)
    (haccepts : Accepts homeSettings home (a.notice o) home') :
    ∃ req n, ToldChange settings call st st' home home' o a change req n := by
  have hcarries := a.receipt_carries
  rw [hchange.version] at hcarries
  obtain ⟨operationId, henvelope⟩ := hchange.envelope
  unfold Advance.notice at haccepts
  rw [hchange.notification, henvelope] at haccepts
  obtain ⟨req, n, happlied⟩ := haccepts.stateChange hcarries (h.records_lt a) (h.view_lt a)
  exact ⟨req, n, htold, hchange, happlied⟩

/-- **A state change that is announced to the member.** -/
theorem Following.told_change (a : Advance settings st st')
    (h : Following settings st home a.group.groupDid o) (hlog : HostLogInv st) (hi : OutboxInv st)
    (hchange : ChangeAdvance settings call st st' a change)
    (htold : o ∈ a.recipients.map HostedMember.agentDid)
    (haccepts : Accepts homeSettings home (a.notice o) home')
    (hcond : RosterReflected st st' a.group.groupDid o) :
    Following settings st' home' a.group.groupDid o := by
  obtain ⟨req, n, ht⟩ := h.toldChange a hchange htold haccepts
  cases h.standing with
  | member hactive hagrees => exact ht.following_member h hlog hi hactive hagrees hcond
  | unknown hnil hnone =>
    obtain ⟨ad, row, rfl, hself, hinactive, hrole, hstatus, hroster⟩ := ht.admitted_of_none hnone
    refine ht.following_activated h hlog hi hself hinactive hrole hstatus hroster ?_ ?_
    · rw [subjectsTold, hnil]
      exact fun did hdid ↦ absurd hdid List.not_mem_nil
    · rw [hnone]
      exact fun view hview ↦ by cases hview
  | gone group view hgroup hv2 hinactive hview hstatus_view hseq hversion hroster_view =>
    obtain rfl := Option.some.inj (a.found.symm.trans hgroup)
    have hactive : RemoteActive settings st' a.group.groupDid o := by
      refine ((a.mem_recipients hi.members_keyed _).mp htold).resolve_right ?_
      rintro ⟨-, -, hbefore, -⟩
      rw [show a.event.groupDid = a.group.groupDid from congrArg Prod.fst a.event_key] at hbefore
      exact hinactive hbefore
    obtain ⟨ad, row, rfl, hself, hended, hrole, hstatus, hroster⟩ :=
      ht.admitted_of_active hi hv2 hinactive hactive
    refine ht.following_activated h hlog hi hself hended hrole hstatus hroster hroster_view ?_
    intro view' hview'
    obtain rfl := Option.some.inj (hview.symm.trans hview')
    exact ⟨hv2, hstatus_view, hversion⟩
  | lost group view hgroup hview hactive hseq =>
    obtain rfl := Option.some.inj (a.found.symm.trans hgroup)
    have hsequence := ht.applied.inSequence
    rw [hview] at hsequence
    have hpassed := require_eq_ok.mp hsequence
    simp only [isReactivation, hactive, Option.any_some, ne_eq, not_true_eq_false, false_and,
      decide_false, Bool.false_and, Bool.and_false, Bool.or_false, decide_eq_true_eq] at hpassed
    omega

end Changed

end Awiki
