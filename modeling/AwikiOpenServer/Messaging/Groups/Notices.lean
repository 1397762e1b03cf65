import AwikiOpenServer.Messaging.Groups.Recipients

/-!
# The notices of one member

What the Home of a remote member learns of a group is in the outbox rows with the member as target.
`noticesFor` reads them off, in order. An accepted event adds one notice, or none when the member is
not among its recipients (`Advance.noticesFor_eq`); nothing else touches the list.

Beside what is told stands what changes. `ChangeEffect` pairs the state change of an event with what
it does to the roster of its group, one constructor for each kind of handler, as an equation for the
row of **every** DID (`Store.hostedMember?`).

## Notices as a history

The list of notices is all of the Host's history that a member ever sees, so what a Home can know of
a group is a function of it. It only grows, by notices of later events (`NoticesGrow`), and the
notices up to an event are those of the state after it (`noticesFor_upto`). That lets a result about
a Home that has accepted some of the notices speak of the state of the Host in which the last of
them was written, whatever has happened there since.

The subjects of an event are the DIDs it is about: its subject and, for a rebind, the previous DID.
`subjectsTold` collects them over the notices of a member; a DID outside of it is one the Home may
know nothing of.

## Effects

`hostedCall_hostedEffect` joins the two sides for every call that succeeds: which event it has
announced, and what it has done to the roster. It comes from the case analysis of
`Messaging/Groups/Checks.lean`, with the rosters written as functions of a DID. For a rebind this
needs that the new DID has no row of its own, which the primary key of the roster decides.
-/

namespace Awiki

open Py Runs

/-! ### Notices -/

/-- A notification as it was enqueued for one member. -/
structure Notice where
  seq : ℕ
  method : GroupMethod
  envelope : Obj

/-- What the target of a row is sent. -/
def OutboxRow.notice (r : OutboxRow) : Notice := ⟨r.groupEventSeq, r.method, r.envelope⟩

/-- **The notices of a group for one member**, in the order in which they were enqueued. -/
def noticesFor (st : Store) (groupDid targetDid : String) : List Notice :=
  (st.groupDeliveryOutbox.filter fun r ↦
    decide (r.groupDid = groupDid ∧ r.targetDid = targetDid)).map OutboxRow.notice

/-- A member of the `params` of an envelope. -/
def Notice.param (n : Notice) (key : String) : Json :=
  ((n.envelope.get "params").obj?.getD []).get key

/-- The DIDs an event is about: its subject and, for a rebind, the previous DID of the member. -/
def eventSubjects (event : Obj) : List String :=
  (event.get "subject_did").str?.toList ++ (event.get "previous_subject_did").str?.toList

/-- The DIDs a notice is about. -/
def Notice.subjects (n : Notice) : List String :=
  if n.method = .stateChanged then eventSubjects ((n.param "body").obj?.getD []) else []

/-- The subjects of every event a member was told of. -/
def subjectsTold (st : Store) (groupDid targetDid : String) : List String :=
  (noticesFor st groupDid targetDid).flatMap Notice.subjects

/-- Notices are read off the outbox. -/
theorem noticesFor_congr {st st' : Store} (h : st'.groupDeliveryOutbox = st.groupDeliveryOutbox)
    (groupDid targetDid : String) :
    noticesFor st' groupDid targetDid = noticesFor st groupDid targetDid := by
  rw [noticesFor, noticesFor, h]

/-- The rows of one event, read by one target. -/
theorem notices_outboxRows {groupDid createdAt : String} {groupEventSeq : ℕ} {method : GroupMethod}
    {envelopeFor : String → Obj} {members : List HostedMember}
    (hnodup : (members.map HostedMember.agentDid).Nodup) (n : ℕ) (targetDid : String) :
    ((outboxRows n groupDid groupEventSeq method envelopeFor createdAt members).filter fun r ↦
        decide (r.groupDid = groupDid ∧ r.targetDid = targetDid)).map OutboxRow.notice =
      if targetDid ∈ members.map HostedMember.agentDid then
        [⟨groupEventSeq, method, envelopeFor targetDid⟩]
      else [] := by
  induction members generalizing n with
  | nil => rfl
  | cons m rest ih =>
    rw [List.map_cons, List.nodup_cons] at hnodup
    have hrest := ih hnodup.2 (n + 1)
    rw [outboxRows, List.filter_cons]
    by_cases hm : m.agentDid = targetDid
    · have hnot : targetDid ∉ rest.map HostedMember.agentDid := hm ▸ hnodup.1
      rw [if_neg hnot] at hrest
      simp only [outboxRow, hm, and_self, decide_true, if_true, List.map_cons, hrest,
        List.mem_cons, true_or]
      rfl
    · have hne : targetDid ≠ m.agentDid := fun h ↦ hm h.symm
      simp only [outboxRow, hm, and_false, decide_false, Bool.false_eq_true, if_false, hrest,
        List.map_cons, List.mem_cons, hne, false_or]

section Steps

variable {settings : Settings} {st st' : Store}

/-- Rows of one group are no notices of another. -/
theorem notices_outboxRows_of_ne {groupDid g createdAt targetDid : String} {groupEventSeq n : ℕ}
    {method : GroupMethod} {envelopeFor : String → Obj} {members : List HostedMember}
    (hne : groupDid ≠ g) :
    (outboxRows n groupDid groupEventSeq method envelopeFor createdAt members).filter
      (fun r ↦ decide (r.groupDid = g ∧ r.targetDid = targetDid)) = [] := by
  refine List.filter_eq_nil_iff.mpr fun r hr ↦ ?_
  obtain ⟨_, -, k, -, -, rfl⟩ := mem_outboxRows hr
  simp [outboxRow, hne]

/-- **An event adds one notice for each of its recipients**, and none for anybody else. -/
theorem Advance.noticesFor_eq (a : Advance settings st st') (hlog : HostLogInv st)
    (hi : OutboxInv st) (targetDid : String) :
    noticesFor st' a.group.groupDid targetDid = noticesFor st a.group.groupDid targetDid ++
      if targetDid ∈ a.recipients.map HostedMember.agentDid then
        [⟨a.group.groupEventSeq + 1, a.notification, a.envelopeFor targetDid⟩]
      else [] := by
  rw [noticesFor, (a.outbox_eq hlog hi).1, List.filter_append, List.map_append,
    notices_outboxRows (a.recipients_nodup hi.members_keyed)]
  rfl

/-- An event of another group adds none. -/
theorem Advance.noticesFor_of_ne (a : Advance settings st st') (hlog : HostLogInv st)
    (hi : OutboxInv st) {g : String} (hne : a.group.groupDid ≠ g) (targetDid : String) :
    noticesFor st' g targetDid = noticesFor st g targetDid := by
  rw [noticesFor, (a.outbox_eq hlog hi).1, List.filter_append, notices_outboxRows_of_ne hne,
    List.append_nil]
  rfl

/-- An attempt at a delivery changes no notice. -/
theorem noticesFor_recordAttempt (row : OutboxRow) (outcome : AttemptOutcome)
    (now nextAttempt updatedAt g targetDid : String) :
    noticesFor (recordAttempt st row outcome now nextAttempt updatedAt) g targetDid =
      noticesFor st g targetDid := by
  have hfields : ∀ r : OutboxRow, (row.afterAttempt r outcome now nextAttempt updatedAt).notice =
      r.notice ∧ (row.afterAttempt r outcome now nextAttempt updatedAt).groupDid = r.groupDid ∧
      (row.afterAttempt r outcome now nextAttempt updatedAt).targetDid = r.targetDid := by
    intro r
    cases outcome <;> exact ⟨rfl, rfl, rfl⟩
  rw [noticesFor, noticesFor, recordAttempt, Table.updateWhere, List.filter_map, List.map_map]
  have hread : ∀ r : OutboxRow,
      (if (decide (r.deliveryId = row.deliveryId) && r.isDue) = true then
        row.afterAttempt r outcome now nextAttempt updatedAt else r).notice = r.notice ∧
      (if (decide (r.deliveryId = row.deliveryId) && r.isDue) = true then
        row.afterAttempt r outcome now nextAttempt updatedAt else r).groupDid = r.groupDid ∧
      (if (decide (r.deliveryId = row.deliveryId) && r.isDue) = true then
        row.afterAttempt r outcome now nextAttempt updatedAt else r).targetDid = r.targetDid := by
    intro r
    split
    · exact hfields r
    · exact ⟨rfl, rfl, rfl⟩
  congr 1
  · funext r
    exact (hread r).1
  · refine List.filter_congr fun r _ ↦ ?_
    rw [Function.comp_apply, (hread r).2.1, (hread r).2.2]

/-- A group without a head has no notices. -/
theorem noticesFor_of_unknown (hi : OutboxInv st) {g : String} (hg : st.hostedGroup? g = none)
    (targetDid : String) : noticesFor st g targetDid = [] := by
  rw [noticesFor, List.map_eq_nil_iff, List.filter_eq_nil_iff]
  intro r hr hrow
  obtain ⟨group, hgroup, hdid, -⟩ := hi.seq_le r hr
  exact Table.row?_eq_none.mp hg group hgroup (hdid.trans (of_decide_eq_true hrow).1)

/-- Notices do not run ahead of the head. -/
theorem noticesFor_seq_le (hlog : HostLogInv st) (hi : OutboxInv st) {g targetDid : String}
    {group : HostedGroup} (hgroup : st.hostedGroup? g = some group) :
    ∀ n ∈ noticesFor st g targetDid, n.seq ≤ group.groupEventSeq := by
  intro n hn
  obtain ⟨r, hr, rfl⟩ := List.mem_map.mp hn
  obtain ⟨hmem, hrow⟩ := List.mem_filter.mp hr
  have hkey : group.groupDid = g := Table.key_of_row? hgroup
  exact hi.seq_fresh hlog (Table.mem_of_row? hgroup) hmem
    ((of_decide_eq_true hrow).1.trans hkey.symm)

/-- **Later notices are of later events.** -/
def NoticesGrow (g targetDid : String) (st st' : Store) : Prop :=
  (∀ group ∈ st.hostedGroup? g, ∃ group' ∈ st'.hostedGroup? g,
    group.groupEventSeq ≤ group'.groupEventSeq) ∧
  ∃ more, noticesFor st' g targetDid = noticesFor st g targetDid ++ more ∧
    ∀ n ∈ more, ∀ group ∈ st.hostedGroup? g, group.groupEventSeq < n.seq

/-- Nothing has been announced. -/
theorem NoticesGrow.refl (g targetDid : String) (st : Store) : NoticesGrow g targetDid st st :=
  ⟨fun group hgroup ↦ ⟨group, hgroup, le_refl _⟩, [], by simp, by simp⟩

/-- First the one, then the other. -/
theorem NoticesGrow.trans {g targetDid : String} {st'' : Store} (h : NoticesGrow g targetDid st st')
    (h' : NoticesGrow g targetDid st' st'') : NoticesGrow g targetDid st st'' := by
  obtain ⟨hheads, more, hmore, hlater⟩ := h
  obtain ⟨hheads', more', hmore', hlater'⟩ := h'
  refine ⟨fun group hgroup ↦ ?_, more ++ more', by rw [hmore', hmore, List.append_assoc],
    fun n hn group hgroup ↦ ?_⟩
  · obtain ⟨group', hgroup', hle⟩ := hheads group hgroup
    obtain ⟨group'', hgroup'', hle'⟩ := hheads' group' hgroup'
    exact ⟨group'', hgroup'', hle.trans hle'⟩
  · rcases List.mem_append.mp hn with hn | hn
    · exact hlater n hn group hgroup
    · obtain ⟨group', hgroup', hle⟩ := hheads group hgroup
      exact hle.trans_lt (hlater' n hn group' hgroup')

/-- Every step of the Host, -/
theorem StoreStep.noticesGrow {action : HostAction} (h : StoreStep settings st action st')
    (hlog : HostLogInv st) (hi : OutboxInv st) (g targetDid : String) :
    NoticesGrow g targetDid st st' := by
  have hlog' := hlog.step h
  have hheads : ∀ group ∈ st.hostedGroup? g, ∃ group' ∈ st'.hostedGroup? g,
      group.groupEventSeq ≤ group'.groupEventSeq := by
    intro group hgroup
    obtain ⟨group', hmem, hdid, hle⟩ := h.headsGrow hlog group (Table.mem_of_row? hgroup)
    have hkey : group'.groupDid = g := hdid.trans (Table.key_of_row? hgroup)
    exact ⟨group', hkey ▸ hlog'.groups_keyed.row?_of_mem hmem, hle⟩
  refine ⟨hheads, ?_⟩
  have hsame : noticesFor st' g targetDid = noticesFor st g targetDid →
      ∃ more, noticesFor st' g targetDid = noticesFor st g targetDid ++ more ∧
        ∀ n ∈ more, ∀ group ∈ st.hostedGroup? g, group.groupEventSeq < n.seq :=
    fun heq ↦ ⟨[], by rw [heq, List.append_nil], by simp⟩
  cases h with
  | unchanged => exact hsame rfl
  | created _ _ c => exact hsame (noticesFor_congr c.outbox g targetDid)
  | attempted row outcome now nextAttempt updatedAt =>
    exact hsame (noticesFor_recordAttempt row outcome now nextAttempt updatedAt g targetDid)
  | elsewhere h => exact hsame (noticesFor_congr h.groupDeliveryOutbox g targetDid)
  | advanced _ _ a =>
    by_cases hg : a.group.groupDid = g
    · subst hg
      refine ⟨_, a.noticesFor_eq hlog hi targetDid, fun n hn group hgroup ↦ ?_⟩
      obtain rfl := Option.some.inj (a.found.symm.trans hgroup)
      split at hn
      · rw [List.mem_singleton.mp hn]
        exact Nat.lt_succ_self _
      · cases hn
    · exact hsame (a.noticesFor_of_ne hlog hi hg targetDid)

/-- and every run. -/
theorem Reaches.noticesGrow {w₀ w w' : HostWorld} (h₀ : w₀.Initial)
    (h : Reaches (HostStep settings) w₀ w) (h' : Reaches (HostStep settings) w w')
    (g targetDid : String) : NoticesGrow g targetDid w.store w'.store :=
  ReachesWith.related (I := fun w ↦ HostLogInv w.store ∧ OutboxInv w.store)
    (R := fun a b ↦ NoticesGrow g targetDid a.store b.store) h' (HostInv.reaches h₀ h)
    (fun hi _ hs ↦ ⟨⟨hi.1.step hs.storeStep, hi.2.step hi.1 hs.storeStep⟩,
      hs.storeStep.noticesGrow hi.1 hi.2 g targetDid⟩)
    (fun a ↦ .refl g targetDid a.store) .trans

/-- **The notices up to an event are those of the state after it.** -/
theorem noticesFor_upto {w₀ w w' : HostWorld} (h₀ : w₀.Initial)
    (h : Reaches (HostStep settings) w₀ w) (h' : Reaches (HostStep settings) w w')
    {g targetDid : String} {group : HostedGroup} (hgroup : w.store.hostedGroup? g = some group) :
    (noticesFor w'.store g targetDid).filter (fun n ↦ decide (n.seq ≤ group.groupEventSeq)) =
      noticesFor w.store g targetDid := by
  obtain ⟨hlog, hi⟩ := HostInv.reaches h₀ h
  obtain ⟨-, more, hmore, hlater⟩ := Reaches.noticesGrow h₀ h h' g targetDid
  have hbefore : ∀ n ∈ noticesFor w.store g targetDid, n.seq ≤ group.groupEventSeq :=
    noticesFor_seq_le hlog hi hgroup
  rw [hmore, List.filter_append, List.filter_eq_self.mpr, List.filter_eq_nil_iff.mpr,
    List.append_nil]
  · intro n hn
    have := hlater n hn group hgroup
    simp only [decide_eq_true_eq]
    omega
  · exact fun n hn ↦ decide_eq_true (hbefore n hn)

end Steps

/-! ### Changes of the roster -/

/-- **What the event of a state change says, and what the operation does to the roster.** -/
inductive ChangeEffect (st st' : Store) (group : HostedGroup) (method : GroupMethod) :
    StateChange → Prop where
  /-- A join or an add: one DID without an active membership gets one. -/
  | admitted (a : Admission) (row : HostedMember)
      (hinactive : ∀ m ∈ st.hostedMember? group.groupDid a.targetDid, m.status ≠ .active)
      (hrole : row.role = a.role) (hstatus : row.status = .active)
      (hroster : ∀ did, st'.hostedMember? group.groupDid did =
        if did = a.targetDid then some row else st.hostedMember? group.groupDid did) :
      ChangeEffect st st' group method (activation group a)
  /-- A leave or a removal: the row stays, with its role. -/
  | ended (targetDid : String) (member row : HostedMember)
      (hmethod : method = .leave ∨ method = .remove)
      (hmember : st.hostedMember? group.groupDid targetDid = some member)
      (hactive : member.status = .active) (hrole : row.role = member.role)
      (hstatus : row.status = endedStatus method)
      (hroster : ∀ did, st'.hostedMember? group.groupDid did =
        if did = targetDid then some row else st.hostedMember? group.groupDid did) :
      ChangeEffect st st' group method (departure method targetDid)
  /-- A rebind: the row goes over to a DID without one, with its role. -/
  | rebound (binding : VerifiedHandleBinding) (previousDid newDid : String)
      (member row : HostedMember) (hprofile : group.wireProfile = .v1)
      (hmember : st.hostedMember? group.groupDid previousDid = some member)
      (hfresh : st.hostedMember? group.groupDid newDid = none) (hrole : row.role = member.role)
      (hstatus : row.status = .active)
      (hroster : ∀ did, st'.hostedMember? group.groupDid did =
        if did = newDid then some row
        else if did = previousDid then none else st.hostedMember? group.groupDid did) :
      ChangeEffect st st' group method (rebinding binding previousDid newDid)
  /-- An update of the profile or the policy leaves the roster alone. -/
  | updated (value : Obj) (hmethod : method = .updateProfile ∨ method = .updatePolicy)
      (hroster : ∀ did, st'.hostedMember? group.groupDid did =
        st.hostedMember? group.groupDid did) :
      ChangeEffect st st' group method (groupUpdate method value)

section Roster

variable {st st' : Store} {groupDid : String}

/-- The roster after a join or an add. -/
theorem hostedMember?_admitted {home now : String} {a : Admission}
    (h : st'.hostedGroupMembers = admittedRoster st groupDid home now a) (did : String) :
    st'.hostedMember? groupDid did =
      if did = a.targetDid then some (admittedMember groupDid home now a)
      else st.hostedMember? groupDid did := by
  have hkey : (admittedMember groupDid home now a).key = (groupDid, a.targetDid) := rfl
  rw [Store.hostedMember?, h, admittedRoster, Table.row?_upsert fun _ _ ↦ rfl, hkey]
  by_cases hdid : did = a.targetDid
  · rw [if_pos (by rw [hdid]), if_pos hdid]
    cases Table.row? HostedMember.key (groupDid, did) st.hostedGroupMembers <;> rfl
  · rw [if_neg (by simp [hdid]), if_neg hdid]
    rfl

/-- The roster after a leave or a removal. -/
theorem hostedMember?_ended {targetDid now : String} {status : MemberStatus} {member : HostedMember}
    (h : st'.hostedGroupMembers = (endMember st groupDid targetDid status now).hostedGroupMembers)
    (hmember : st.hostedMember? groupDid targetDid = some member) (did : String) :
    st'.hostedMember? groupDid did =
      if did = targetDid then some { member with status := status, endedAt := some now }
      else st.hostedMember? groupDid did := by
  have hrows : st'.hostedGroupMembers = Table.updateWhere
      (fun m ↦ decide (m.key = (groupDid, targetDid)))
      (fun m ↦ { m with status := status, endedAt := some now }) st.hostedGroupMembers := h
  have hkeep : ∀ m : HostedMember, decide (m.key = (groupDid, targetDid)) = true →
      { m with status := status, endedAt := some now }.key = m.key := fun _ _ ↦ rfl
  rw [Store.hostedMember?, hrows, Table.row?_updateWhere hkeep]
  rw [Store.hostedMember?] at hmember
  by_cases hdid : did = targetDid
  · subst hdid
    have hkey : member.key = (groupDid, did) := Table.key_of_row? hmember
    simp [hmember, hkey]
  · rw [if_neg hdid, Store.hostedMember?]
    cases hrow : Table.row? HostedMember.key (groupDid, did) st.hostedGroupMembers with
    | none => rfl
    | some m =>
      have hkey : m.key = (groupDid, did) := Table.key_of_row? hrow
      simp [hkey, hdid]

/-- The row of a member after a rebind. -/
def reboundMember (member : HostedMember) (newDid home : String)
    (binding : VerifiedHandleBinding) : HostedMember :=
  { member with
    agentDid := newDid, handleBindingGeneration := some binding.bindingGeneration,
    homeServiceDid := some home }

/-- A rebind moves one row, and keeps every other. -/
theorem mem_rebindMember {previousDid newDid home : String} {binding : VerifiedHandleBinding}
    {members : List HostedMember} {member : HostedMember}
    (hk : Table.Keyed HostedMember.key members) (hmem : member ∈ members)
    (hkey : member.key = (groupDid, previousDid))
    (hhandle : member.memberHandle = some binding.handle) (hactive : member.status = .active)
    (m' : HostedMember) :
    m' ∈ rebindMember groupDid previousDid newDid home binding members ↔
      m' = reboundMember member newDid home binding ∨
        m' ∈ members ∧ m'.key ≠ (groupDid, previousDid) := by
  -- The condition of the update picks the row of the previous DID.
  have hpicks : ∀ m ∈ members, decide (m.groupDid = groupDid ∧
      m.memberHandle = some binding.handle ∧ m.agentDid = previousDid ∧ m.status = .active) = true ↔
      m.key = (groupDid, previousDid) := by
    intro m hm
    rw [decide_eq_true_eq]
    refine ⟨fun h ↦ Prod.ext h.1 h.2.2.1, fun h ↦ ?_⟩
    obtain rfl := hk.eq_of_key_eq hm hmem (h.trans hkey.symm)
    exact ⟨congrArg Prod.fst h, hhandle, congrArg Prod.snd h, hactive⟩
  rw [rebindMember, Table.mem_updateWhere]
  constructor
  · rintro ⟨m, hm, rfl⟩
    split
    · rename_i hcond
      obtain rfl := hk.eq_of_key_eq hm hmem (((hpicks m hm).mp hcond).trans hkey.symm)
      exact .inl rfl
    · rename_i hcond
      exact .inr ⟨hm, fun heq ↦ hcond ((hpicks m hm).mpr heq)⟩
  · rintro (rfl | ⟨hm, hne⟩)
    · exact ⟨member, hmem, if_pos ((hpicks member hmem).mpr hkey)⟩
    · exact ⟨m', hm, if_neg fun hcond ↦ hne ((hpicks m' hm).mp hcond)⟩

/-- The roster after a rebind. -/
theorem hostedMember?_rebound {previousDid newDid home : String} {binding : VerifiedHandleBinding}
    {member : HostedMember} (hk : Table.Keyed HostedMember.key st.hostedGroupMembers)
    (hk' : Table.Keyed HostedMember.key st'.hostedGroupMembers)
    (h : st'.hostedGroupMembers = rebindMember groupDid previousDid newDid home binding
      st.hostedGroupMembers)
    (hmember : st.hostedMember? groupDid previousDid = some member)
    (hhandle : member.memberHandle = some binding.handle) (hactive : member.status = .active)
    (did : String) :
    st'.hostedMember? groupDid did =
      if did = newDid then some (reboundMember member newDid home binding)
      else if did = previousDid then none else st.hostedMember? groupDid did := by
  have hkey : member.key = (groupDid, previousDid) := Table.key_of_row? hmember
  have hmoved : ∀ m', m' ∈ st'.hostedGroupMembers ↔
      m' = reboundMember member newDid home binding ∨
        m' ∈ st.hostedGroupMembers ∧ m'.key ≠ (groupDid, previousDid) := fun m' ↦ by
    rw [h]
    exact mem_rebindMember hk (Table.mem_of_row? hmember) hkey hhandle hactive m'
  have hgroup : member.groupDid = groupDid := congrArg Prod.fst hkey
  have hnewkey : (reboundMember member newDid home binding).key = (groupDid, newDid) :=
    Prod.ext hgroup rfl
  -- Three DIDs: the new one has the row, the previous one none, any other what it had.
  by_cases hnew : did = newDid
  · rw [if_pos hnew, hnew, Store.hostedMember?, ← hnewkey]
    exact hk'.row?_of_mem ((hmoved _).mpr (.inl rfl))
  rw [if_neg hnew]
  have hother : ∀ m' ∈ st'.hostedGroupMembers, m'.key = (groupDid, did) →
      m' ∈ st.hostedGroupMembers ∧ m'.key ≠ (groupDid, previousDid) := by
    intro m' hm' heq
    refine ((hmoved m').mp hm').resolve_left fun hrow ↦ hnew ?_
    rw [hrow, hnewkey] at heq
    exact (congrArg Prod.snd heq).symm
  by_cases hprevious : did = previousDid
  · rw [if_pos hprevious]
    refine Table.row?_eq_none.mpr fun m' hm' heq ↦ (hother m' hm' heq).2 ?_
    rw [heq, hprevious]
  · rw [if_neg hprevious]
    cases hrow : st.hostedMember? groupDid did with
    | none => exact Table.row?_eq_none.mpr fun m' hm' heq ↦
        Table.row?_eq_none.mp hrow m' (hother m' hm' heq).1 heq
    | some m =>
      have hmkey : m.key = (groupDid, did) := Table.key_of_row? hrow
      rw [Store.hostedMember?, ← hmkey]
      refine hk'.row?_of_mem ((hmoved m).mpr (.inr ⟨Table.mem_of_row? hrow, ?_⟩))
      rw [hmkey]
      exact fun heq ↦ hprevious (congrArg Prod.snd heq)

end Roster

/-! ### What a call comes to -/

/-- **An accepted state change**: its advance, the event its notifications carry, its effect. -/
structure ChangeAdvance (settings : Settings) (call : HostedCall) (st st' : Store)
    (a : Advance settings st st') (change : StateChange) : Prop where
  method_eq : a.ctx.method = call.method
  notification : a.notification = .stateChanged
  envelope : ∃ operationId, a.envelopeFor = stateChangedEnvelope a.group.wireProfile
    a.group.groupDid operationId (stateEvent a.ctx a.group.groupDid change
      (a.group.groupStateVersion + 1) (a.group.groupEventSeq + 1) call.req.outside.now a.receipt)
  version : nextVersion a.ctx.method a.group.groupStateVersion = a.group.groupStateVersion + 1
  update : a.update = change.update
  effect : ChangeEffect st st' a.group call.method change

/-- **What a successful hosted call does to the groups that were there before.** -/
inductive HostedEffect (settings : Settings) (call : HostedCall) (st st' : Store) : Prop where
  | replayed (hsame : st' = st)
  | created (c : Creation settings st st')
  | changed (a : Advance settings st st') (change : StateChange)
      (hchange : ChangeAdvance settings call st st' a change)
  | sent (a : Advance settings st st') (result : Obj) (hmethod : call.method = .send)
      (hmessage : MessageAdvance settings call st st' result a) (hupdate : a.update = id)
      (hroster : st'.hostedGroupMembers = st.hostedGroupMembers)

section Calls

variable {settings : Settings} {st st' : Store} {call : HostedCall} {result : Obj}

/-- The tail of a state change with a known effect. -/
theorem HostedEffect.of_tail {ctx : GroupRequest} {group : HostedGroup}
    (members : List HostedMember) {change : StateChange} (hmethod : call.method ≠ .send)
    (hctx : VerifiedContext settings call.req call.params call.method "group" ctx)
    (hgroup : groupRow st ctx.targetDid (some ctx.profile) true = .ok group)
    (hchange : change.Wellformed)
    (hroster : RosterStep group.groupDid st.hostedGroupMembers call.method change.departed members)
    (haccept : acceptStateChange settings { st with hostedGroupMembers := members } call.req ctx
      group change = .ok (result, st'))
    (heffect : st'.hostedGroupMembers = members →
      Table.Keyed HostedMember.key st'.hostedGroupMembers →
      ChangeEffect st st' group call.method change)
    (hk : Table.Keyed HostedMember.key st.hostedGroupMembers) :
    HostedEffect settings call st st' := by
  obtain ⟨a, rfl, rfl, -, hupdate, hmembers, -, hnotification, -, henvelope⟩ :=
    acceptStateChange_of_checked hmethod hctx hgroup hchange hroster haccept
  refine .changed a change ⟨hctx.method_eq, hnotification, henvelope, ?_, hupdate,
    heffect hmembers (a.roster.keyed hk)⟩
  rw [nextVersion, hctx.method_eq, if_neg hmethod]

/-- A version 2 request never rebinds. -/
theorem VerifiedContext.profile_of_rebind {ctx : GroupRequest} {req : Request} {params : Obj}
    (h : VerifiedContext settings req params .rebindMember "group" ctx) : ctx.profile = .v1 := by
  cases hprofile : ctx.profile with
  | v1 => rfl
  | v2 =>
    have hshape := h.shape
    unfold validateV2Shape at hshape
    rw [if_neg (by rw [h.profile, hprofile]; simp)] at hshape
    obtain ⟨_, hrefused, -⟩ := bind_eq_ok.mp hshape
    simp [require_eq_ok] at hrefused

/-- **Every successful call has one of these effects.** -/
theorem hostedCall_hostedEffect (hk : Table.Keyed HostedMember.key st.hostedGroupMembers)
    (h : hostedCall settings st call = .ok (result, st')) : HostedEffect settings call st st' := by
  -- The effect is that of the tail the handler ends with; what is left for each is its member row.
  cases hostedCall_accepted h with
  | replayed s hs ctx scope hmethod hreplay hsame => exact .replayed hsame
  | created ctx groupDid keyPath document profile policy creator prepared limit hmethod hctx hpolicy
      hprepared hlimit hcount hdomain hcommit =>
    obtain ⟨c, -⟩ := commitCreate_creation hcommit hctx.method_eq hdomain
    exact .created c
  | admitted ctx group a home limit hmethod hctx hgroup hreplay hhome hinactive hlimit hcount hfree
      hcapacity haccept =>
    refine .of_tail _ (by rcases hmethod with hm | hm <;> simp [hm]) hctx hgroup
      (activation_wellformed group a) (rosterStep_admitted hmethod) haccept
      (fun hmembers _ ↦ ?_) hk
    exact .admitted a _ hinactive rfl rfl (hostedMember?_admitted hmembers)
  | ended ctx group targetDid hmethod hctx hgroup hreplay htarget hcapacity haccept =>
    obtain ⟨m, hm, hkey, hactive⟩ := departingDid_eq_ok htarget
    have hmember : st.hostedMember? group.groupDid targetDid = some m := by
      rw [Store.hostedMember?, ← hkey]
      exact hk.row?_of_mem hm
    refine .of_tail _ (by rcases hmethod with hm | hm <;> simp [hm]) hctx hgroup
      (departure_wellformed hmethod targetDid) (rosterStep_ended hmethod htarget) haccept
      (fun hmembers _ ↦ ?_) hk
    refine .ended targetDid m _ hmethod hmember hactive ?_ ?_ (hostedMember?_ended hmembers hmember)
    · rfl
    · rfl
  | rebound ctx group binding member previousDid newDid home hmethod hctx hgroup hreplay hprevious
      hnew hhome hmember hhandle hactive hfresh hcapacity haccept =>
    obtain ⟨-, -, hprofile, -⟩ := groupRow_eq_ok hgroup
    refine .of_tail _ (by simp [hmethod]) hctx hgroup
      (rebinding_wellformed binding previousDid newDid) ?_ haccept (fun hmembers hk' ↦ ?_) hk
    · rw [hmethod]
      exact .rebound previousDid newDid home binding (Table.row?_eq_none.mp hfresh)
    · rw [hmethod] at hctx
      refine .rebound binding previousDid newDid member _ ?_ hmember hfresh ?_ ?_
        (hostedMember?_rebound hk hk' hmembers hmember hhandle hactive)
      · rw [← hprofile, hctx.profile_of_rebind]
      · rfl
      · exact hactive
  | updated ctx group patch value hmethod hctx hgroup hreplay hcapacity hvalue haccept =>
    obtain ⟨hwellformed, hdeparted⟩ := groupUpdate_wellformed hmethod value
    refine .of_tail st.hostedGroupMembers
      (by rcases hmethod with hm | hm <;> simp [hm]) hctx hgroup hwellformed ?_ haccept
      (fun hmembers _ ↦ .updated value hmethod fun did ↦ ?_) hk
    swap
    · rw [Store.hostedMember?, hmembers, Store.hostedMember?]
    rw [hdeparted]
    exact .same (by rcases hmethod with hm | hm <;> simp [hm])
  | sent ctx group messageId contentType hmethod hctx hmessageId hcontentType hcheck hgroup hreplay
      hcapacity hfresh haccept =>
    obtain ⟨hfound, htarget, hprofile, hactive⟩ := groupRow_eq_ok hgroup
    obtain ⟨a, rfl, rfl, rfl, hnotification, henvelope, hreceipt, htime, hupdate, hmembers, -⟩ :=
      acceptMessage_advance haccept hfound hprofile hactive (hctx.method_eq.trans hmethod)
    exact .sent a a.result hmethod ⟨rfl, hctx, htarget, hnotification, henvelope, hreceipt, htime⟩
      hupdate hmembers

end Calls

end Awiki
