import AwikiOpenServer.Messaging.Groups.Fanout

/-!
# Who an event is announced to

The recipients of an event are decided in its transaction: the remote members that are active after
it and, in version 2, a remote member whose membership it ended. Eight of the nine operations end in
an `enqueue…`; `group.create` does not, so **its remote initial members are never told**
(`remote_initial_member_not_notified`). Every run whose creations name only members of this service
has the property (`recipients_complete`), and the recipients of an event never change afterwards
(`recipients_fixed`), with or without that condition.

## Exactly the recipients

`RecipientsComplete` asks two things of the rows of an event: their targets are exactly the DIDs it
is meant for, and no target has two. Who it is meant for is said in terms of the roster after the
operation, `RemoteActive`, and of the membership it has ended, `RemoteDeparted`, and not in terms of
the query that enqueues them. That the two agree is `Advance.mem_recipients`, by a case analysis
over what the operation did to the roster; that no target has two rows is the key of the roster.

## Later states

The result is about the rows in every later state, so nothing may add a row for an old event. An
event takes the next number of its group and the rows carry it, so rows are added at new numbers
only (`StoreStep.recipients_eq`); attempts rewrite rows without changing their targets, and no step
deletes one.

## The condition

It is on the calls of a run: a create names no initial member that lives elsewhere, by DID or
through a Handle that is bound to one (`CreatesLocally`). For all other operations nothing is asked.
-/

namespace Awiki

open Py Runs

/-- The targets of the rows for one event. -/
def recipients (st : Store) (groupDid : String) (n : ℕ) : List String :=
  (st.groupDeliveryOutbox.filter fun r ↦
    decide (r.groupDid = groupDid ∧ r.groupEventSeq = n)).map OutboxRow.targetDid

/-- A remote DID with an active membership. -/
def RemoteActive (settings : Settings) (st : Store) (groupDid did : String) : Prop :=
  ∃ m ∈ st.hostedGroupMembers, m.key = (groupDid, did) ∧ m.status = .active ∧
    m.isRemote settings = true

/-- The remote member a version 2 leave or removal ended. -/
def RemoteDeparted (settings : Settings) (before after : Store) (e : HostedEvent) (did : String) :
    Prop :=
  (e.subjectMethod = .leave ∨ e.subjectMethod = .remove) ∧
    (∃ head, after.hostedGroup? e.groupDid = some head ∧ head.wireProfile = .v2) ∧
    RemoteActive settings before e.groupDid did ∧ ¬ RemoteActive settings after e.groupDid did

/-- **Exactly one row for every recipient of the event, and no other row.** `before` and `after` are
the stores around its transaction, `later` the store the outbox is read in. -/
def RecipientsComplete (settings : Settings) (before after : Store) (e : HostedEvent)
    (later : Store) : Prop :=
  (recipients later e.groupDid e.groupEventSeq).Nodup ∧
    ∀ did, did ∈ recipients later e.groupDid e.groupEventSeq ↔
      RemoteActive settings after e.groupDid did ∨ RemoteDeparted settings before after e did

/-! ### The recipients of an advance -/

section Advance

variable {settings : Settings} {st st' : Store}

/-- The remote members of a group are the remote DIDs that are active. -/
theorem mem_remoteMembers_agentDid {groupDid did : String} :
    did ∈ (remoteMembers settings st groupDid).map HostedMember.agentDid ↔
      RemoteActive settings st groupDid did := by
  simp only [List.mem_map, mem_remoteMembers, RemoteActive, HostedMember.key, Prod.mk.injEq]
  constructor
  · rintro ⟨m, ⟨hm, hgroup, hactive, hremote⟩, hdid⟩
    exact ⟨m, hm, ⟨hgroup, hdid⟩, hactive, hremote⟩
  · rintro ⟨m, hm, ⟨hgroup, hdid⟩, hactive, hremote⟩
    exact ⟨m, ⟨hm, hgroup, hactive, hremote⟩, hdid⟩

/-- A departed member without an active membership is told exactly when it is remote. -/
theorem mem_departedRows {groupDid did d : String}
    (hkeyed : Table.Keyed HostedMember.key st.hostedGroupMembers)
    (hended : ∀ m ∈ st.hostedGroupMembers, m.key = (groupDid, did) → m.status ≠ .active) :
    d ∈ (departedRows settings st groupDid (some did)).map HostedMember.agentDid ↔
      d = did ∧ ∃ m ∈ st.hostedGroupMembers, m.key = (groupDid, did) ∧
        m.isRemote settings = true := by
  unfold departedRows
  dsimp only
  cases hrow : st.hostedMember? groupDid did with
  | none =>
    have hnone := Table.row?_eq_none.mp hrow
    simp only [List.map_nil, List.not_mem_nil, false_iff]
    rintro ⟨-, m, hm, hkey, -⟩
    exact hnone m hm hkey
  | some m =>
    have hm := Table.mem_of_row? hrow
    have hkey : m.key = (groupDid, did) := Table.key_of_row? hrow
    have hdid : m.agentDid = did := congrArg Prod.snd hkey
    have hother : (remoteMembers settings st groupDid).all (fun r ↦ r.agentDid ≠ m.agentDid) =
        true := by
      rw [List.all_eq_true]
      intro r hr
      obtain ⟨hr, hgroup, hactive, -⟩ := mem_remoteMembers.mp hr
      have hne : r.agentDid ≠ m.agentDid := fun heq ↦
        hended r hr (Prod.ext hgroup (heq.trans hdid)) hactive
      simpa using hne
    have hunique : (∃ r ∈ st.hostedGroupMembers, r.key = (groupDid, did) ∧
        r.isRemote settings = true) ↔ m.isRemote settings = true := by
      constructor
      · rintro ⟨r, hr, hrkey, hremote⟩
        rwa [hkeyed.eq_of_key_eq hm hr (hkey.trans hrkey.symm)]
      · exact fun hremote ↦ ⟨m, hm, hkey, hremote⟩
    dsimp only
    rw [hunique, hother, Bool.and_true]
    by_cases hremote : m.isRemote settings = true
    · simp [hremote, hdid]
    · simp [hremote]

/-- The members an ended membership leaves active. -/
theorem remoteActive_updateWhere {groupDid did now : String} {status : MemberStatus}
    (hstatus : status ≠ .active)
    (h : st'.hostedGroupMembers = Table.updateWhere (fun m ↦ decide (m.key = (groupDid, did)))
      (fun m ↦ { m with status := status, endedAt := some now }) st.hostedGroupMembers)
    (d : String) :
    RemoteActive settings st' groupDid d ↔ d ≠ did ∧ RemoteActive settings st groupDid d := by
  unfold RemoteActive
  rw [h]
  constructor
  · rintro ⟨m', hm', hkey, hactive, hremote⟩
    obtain ⟨m, hm, rfl⟩ := Table.mem_updateWhere.mp hm'
    by_cases hmkey : m.key = (groupDid, did)
    · simp only [hmkey, decide_true, if_true] at hactive
      exact absurd hactive hstatus
    · simp only [hmkey, decide_false, Bool.false_eq_true, if_false] at hkey hactive hremote
      refine ⟨?_, m, hm, hkey, hactive, hremote⟩
      rintro rfl
      exact hmkey hkey
  · rintro ⟨hne, m, hm, hkey, hactive, hremote⟩
    have hmkey : m.key ≠ (groupDid, did) := fun heq ↦
      hne (congrArg Prod.snd (hkey.symm.trans heq))
    exact ⟨m, Table.mem_updateWhere.mpr ⟨m, hm, by simp [hmkey]⟩, hkey, hactive, hremote⟩

/-- **The recipients of an advance** are those the event is meant for. -/
theorem Advance.mem_recipients (a : Advance settings st st')
    (hkeyed : Table.Keyed HostedMember.key st.hostedGroupMembers) (did : String) :
    did ∈ a.recipients.map HostedMember.agentDid ↔
      RemoteActive settings st' a.group.groupDid did ∨
        RemoteDeparted settings st st' a.event did := by
  have hdid : a.event.groupDid = a.group.groupDid := congrArg Prod.fst a.event_key
  have hkeyed' := a.roster.keyed hkeyed
  rw [recipients, List.map_append, List.mem_append, mem_remoteMembers_agentDid]
  refine or_congr_right ?_
  have hprofile : (∃ head, st'.hostedGroup? a.event.groupDid = some head ∧
      head.wireProfile = .v2) ↔ a.ctx.profile = .v2 := by
    have hhead := a.extends.found
    rw [hhead]
    constructor
    · rintro ⟨_, ⟨⟩, h⟩
      rw [a.profile, ← h]
      exact (a.update_wireProfile a.group).symm
    · intro h
      exact ⟨_, rfl, (a.update_wireProfile a.group).trans (a.profile ▸ h)⟩
  unfold RemoteDeparted
  rw [hprofile, hdid, a.event_method]
  have hroster := a.roster
  generalize hmembers : st'.hostedGroupMembers = members' at hroster
  generalize hdeparted : a.departed = departed at hroster
  generalize hmethod : a.ctx.method = method at hroster
  -- Only a leave or a removal ends a membership; the other operations have nobody to tell.
  have hnobody : ∀ p : WireProfile, did ∉ (departedRows settings st' a.group.groupDid
      (if p = .v2 then none else none)).map HostedMember.agentDid := fun p ↦ by
    rw [ite_self]
    exact List.not_mem_nil
  cases hroster with
  | same hmethod' =>
    refine iff_of_false (hnobody _) ?_
    rintro ⟨rfl | rfl, -⟩ <;> simp at hmethod'
  | admitted row hmethod' =>
    refine iff_of_false (hnobody _) ?_
    rintro ⟨rfl | rfl, -⟩ <;> simp at hmethod'
  | rebound =>
    refine iff_of_false (hnobody _) ?_
    rintro ⟨h | h, -⟩ <;> simp at h
  | ended ended now status hmethod' hstatus hactive =>
    by_cases hv2 : a.ctx.profile = .v2
    · have hended : ∀ m ∈ st'.hostedGroupMembers, m.key = (a.group.groupDid, ended) →
          m.status ≠ .active := by
        intro m' hm' hkey
        rw [hmembers] at hm'
        obtain ⟨m, hm, rfl⟩ := Table.mem_updateWhere.mp hm'
        by_cases hmkey : m.key = (a.group.groupDid, ended)
        · simpa [hmkey] using hstatus
        · simp [hmkey] at hkey
      rw [if_pos hv2, mem_departedRows hkeyed' hended, remoteActive_updateWhere hstatus hmembers]
      simp only [List.mem_cons, List.not_mem_nil, or_false] at hmethod'
      simp only [hmethod', hv2, true_and, not_and]
      -- The row of the departed member, before and after, is remote or not alike.
      obtain ⟨m₀, hm₀, hkey₀, hactive₀⟩ := hactive
      have hremote : (∃ m ∈ st'.hostedGroupMembers, m.key = (a.group.groupDid, ended) ∧
          m.isRemote settings = true) ↔ m₀.isRemote settings = true := by
        have hm₀' : { m₀ with status := status, endedAt := some now } ∈ st'.hostedGroupMembers := by
          rw [hmembers]
          exact Table.mem_updateWhere.mpr ⟨m₀, hm₀, by simp [hkey₀]⟩
        constructor
        · rintro ⟨m, hm, hkey, hr⟩
          have hsame := hkeyed'.eq_of_key_eq hm₀' hm (hkey₀.trans hkey.symm)
          rwa [← hsame] at hr
        · exact fun hr ↦ ⟨_, hm₀', hkey₀, hr⟩
      rw [hremote]
      constructor
      · rintro ⟨rfl, hr⟩
        exact ⟨⟨m₀, hm₀, hkey₀, hactive₀, hr⟩, fun hne ↦ absurd rfl hne⟩
      · rintro ⟨hbefore, hafter⟩
        by_cases hd : did = ended
        · subst hd
          obtain ⟨m, hm, hkey, -, hr⟩ := hbefore
          have hsame := hkeyed.eq_of_key_eq hm₀ hm (hkey₀.trans hkey.symm)
          exact ⟨rfl, hsame ▸ hr⟩
        · exact absurd hbefore (hafter hd)
    · rw [if_neg hv2]
      exact iff_of_false List.not_mem_nil fun h ↦ hv2 h.2.1

end Advance

/-! ### Members belong to groups -/

/-- Every member row is of a group that exists. -/
def MembersOwned (st : Store) : Prop :=
  ∀ m ∈ st.hostedGroupMembers, ∃ g ∈ st.hostedGroups, g.groupDid = m.groupDid

/-- An operation adds members of its own group only. -/
theorem RosterStep.mem_groupDid {groupDid : String} {members members' : List HostedMember}
    {method : GroupMethod} {departed : Option String}
    (h : RosterStep groupDid members method departed members') {m' : HostedMember}
    (hm' : m' ∈ members') : m'.groupDid = groupDid ∨ ∃ m ∈ members, m.groupDid = m'.groupDid := by
  cases h with
  | same => exact .inr ⟨m', hm', rfl⟩
  | admitted row _ hgroup =>
    unfold Table.upsert at hm'
    split at hm'
    · obtain ⟨m, hm, rfl⟩ := Table.mem_updateWhere.mp hm'
      split
      · exact .inl hgroup
      · exact .inr ⟨m, hm, rfl⟩
    · rcases List.mem_append.mp hm' with hm' | hm'
      · exact .inr ⟨m', hm', rfl⟩
      · exact .inl (List.mem_singleton.mp hm' ▸ hgroup)
  | ended did now status =>
    obtain ⟨m, hm, rfl⟩ := Table.mem_updateWhere.mp hm'
    exact .inr ⟨m, hm, by split <;> rfl⟩
  | rebound =>
    obtain ⟨m, hm, rfl⟩ := Table.mem_updateWhere.mp hm'
    exact .inr ⟨m, hm, by split <;> rfl⟩

/-- **Every step of the Host keeps this.** -/
theorem MembersOwned.step {settings : Settings} {st st' : Store} {action : HostAction}
    (ho : MembersOwned st) (hlog : HostLogInv st) (h : StoreStep settings st action st') :
    MembersOwned st' := by
  have hgrow := h.headsGrow hlog
  have hkept : ∀ m ∈ st.hostedGroupMembers, ∃ g ∈ st'.hostedGroups, g.groupDid = m.groupDid := by
    intro m hm
    obtain ⟨g, hg, hdid⟩ := ho m hm
    obtain ⟨g', hg', hdid', -⟩ := hgrow g hg
    exact ⟨g', hg', hdid'.trans hdid⟩
  cases h with
  | unchanged => exact ho
  | created _ _ c =>
    intro m hm
    rw [c.roster] at hm
    rcases List.mem_append.mp hm with hm | hm
    · exact hkept m hm
    · exact ⟨c.group, by simp [c.groups], (c.members_group m hm).symm⟩
  | advanced _ _ a =>
    intro m' hm'
    rcases a.roster.mem_groupDid hm' with hgroup | ⟨m, hm, hgroup⟩
    · obtain ⟨g', hg', hdid, -⟩ := a.mem_head
      exact ⟨g', hg', hdid.trans hgroup.symm⟩
    · obtain ⟨g', hg', hdid⟩ := hkept m hm
      exact ⟨g', hg', hdid.trans hgroup⟩
  | attempted => exact ho
  | elsewhere h =>
    intro m hm
    rw [h.hostedGroupMembers] at hm
    exact hkept m hm

/-! ### The recipients of a creation -/

/-- A DID a create names as an initial member, by itself or through the Handle it resolves. -/
def InitialDid (settings : Settings) (c : HostedCall) (did : String) : Prop :=
  ∃ body initial m, c.params.get "_anp_body" = .obj body ∧
    Obj.getD body "initial_members" (.arr []) = .arr initial ∧ Json.obj m ∈ initial ∧
    (Obj.get m "member_did" = .str did ∨ ∃ handle binding,
      Obj.get m "member_handle" = .str handle ∧
        resolveHandle settings c.seen c.req handle = .ok binding ∧ binding.did = did)

/-- **The condition**: a create names no initial member that lives on another service. -/
def CreatesLocally (settings : Settings) (_ : HostWorld) : HostAction → Prop
  | .call c => c.method = .create → ∀ did home, InitialDid settings c did →
      homeServiceDid settings c.req did = .ok home → home = settings.serviceDid
  | _ => True

/-- What the loop over the initial members has checked of each of them. -/
theorem prepareMembers_eq_ok {settings : Settings} {st : Store} {req : Request} :
    ∀ {initial : List Json} {dids handles : List String} {prepared : List PreparedMember},
      prepareMembers settings st req initial dids handles = .ok prepared → ∀ p ∈ prepared,
        homeServiceDid settings req p.did = .ok p.homeServiceDid ∧ ∃ m, Json.obj m ∈ initial ∧
          (Obj.get m "member_did" = .str p.did ∨ ∃ handle binding,
            Obj.get m "member_handle" = .str handle ∧
              resolveHandle settings st req handle = .ok binding ∧ binding.did = p.did)
  | [], _, _, _, h => by
    obtain rfl := Except.ok.inj h
    simp
  | item :: rest, dids, handles, prepared, h => by
    unfold prepareMembers at h
    obtain ⟨m, hm, h⟩ := bind_eq_ok.mp h
    obtain ⟨_, -, h⟩ := bind_eq_ok.mp h
    obtain ⟨binding, hbinding, h⟩ := bind_eq_ok.mp h
    obtain ⟨did, hdid, h⟩ := bind_eq_ok.mp h
    obtain ⟨role, -, h⟩ := bind_eq_ok.mp h
    obtain ⟨_, -, h⟩ := bind_eq_ok.mp h
    obtain ⟨home, hhome, h⟩ := bind_eq_ok.mp h
    obtain ⟨more, hmore, h⟩ := bind_eq_ok.mp h
    rw [pure_eq_ok] at h
    subst h
    rw [orRaise_eq_ok, Json.obj?_eq_some] at hm
    intro p hp
    rcases List.mem_cons.mp hp with rfl | hp
    · refine ⟨hhome, m, by simp [hm], ?_⟩
      cases binding with
      | none => exact .inl (requireText_eq_ok hdid)
      | some b =>
        obtain rfl := Except.ok.inj hdid
        unfold resolveHandleField at hbinding
        split at hbinding
        · rename_i handle hhandle
          obtain ⟨b', hb', heq⟩ := bind_eq_ok.mp hbinding
          rw [pure_eq_ok, Option.some.injEq] at heq
          subst heq
          exact .inr ⟨handle, b', hhandle, hb', rfl⟩
        · simp at hbinding
        · simp at hbinding
    · obtain ⟨hhome', m', hm', hrest⟩ := prepareMembers_eq_ok hmore p hp
      exact ⟨hhome', m', List.mem_cons_of_mem _ hm', hrest⟩

/-- A creation that names only local members has nobody to tell. -/
theorem createdMembers_local {settings : Settings} {c : HostedCall} {ctx : GroupRequest}
    {creator : Option VerifiedHandleBinding} {prepared : List PreparedMember}
    (hprepared : PreparedFrom settings c ctx creator prepared)
    (hbody : c.params.get "_anp_body" = .obj ctx.body)
    (hlocal : ∀ did home, InitialDid settings c did →
      homeServiceDid settings c.req did = .ok home → home = settings.serviceDid)
    (groupDid now : String) {m : HostedMember}
    (hm : m ∈ createdMembers settings ctx groupDid now creator prepared) :
    m.isRemote settings = false := by
  obtain ⟨initial, hinitial, hprepared⟩ := hprepared
  unfold createdMembers at hm
  rcases List.mem_cons.mp hm with rfl | hm
  · simp [HostedMember.isRemote]
  · obtain ⟨p, hp, rfl⟩ := List.mem_map.mp hm
    obtain ⟨hhome, m, hmem, hdid⟩ := prepareMembers_eq_ok hprepared p hp
    have hservice := hlocal p.did p.homeServiceDid
      ⟨ctx.body, initial, m, hbody, hinitial, hmem, hdid⟩ hhome
    simp [HostedMember.isRemote, hservice]

/-! ### The recipients stay -/

section Fixed

variable {settings : Settings} {st st' : Store}

/-- Rows that are added are added to their events. -/
theorem recipients_append {rows : List OutboxRow}
    (h : st'.groupDeliveryOutbox = st.groupDeliveryOutbox ++ rows) (groupDid : String) (n : ℕ) :
    recipients st' groupDid n = recipients st groupDid n ++
      (rows.filter fun r ↦ decide (r.groupDid = groupDid ∧ r.groupEventSeq = n)).map
        OutboxRow.targetDid := by
  rw [recipients, h, List.filter_append, List.map_append, recipients]

/-- Rows are added at the next sequence number only. -/
theorem StoreStep.recipients_eq {action : HostAction} (h : StoreStep settings st action st')
    (hlog : HostLogInv st) (hi : OutboxInv st) {groupDid : String} {n : ℕ}
    (hn : ∃ g ∈ st.hostedGroups, g.groupDid = groupDid ∧ n ≤ g.groupEventSeq) :
    recipients st' groupDid n = recipients st groupDid n := by
  cases h with
  | unchanged => rfl
  | created _ _ c => rw [recipients, c.outbox, recipients]
  | advanced _ _ a =>
    rw [recipients_append (a.outbox_eq hlog hi).1]
    -- The rows of an advance are those of the next event, and `n` is an old one.
    have hnone : (outboxRows a.enqueuing.issued a.group.groupDid (a.group.groupEventSeq + 1)
        a.notification a.envelopeFor a.now a.recipients).filter
          (fun r ↦ decide (r.groupDid = groupDid ∧ r.groupEventSeq = n)) = [] := by
      rw [List.filter_eq_nil_iff]
      intro r hr hmatch
      obtain ⟨hgroup, hseq⟩ := of_decide_eq_true hmatch
      obtain ⟨_, -, _, -, -, rfl⟩ := mem_outboxRows hr
      obtain ⟨g, hg, hdid, hle⟩ := hn
      have hsame : g = a.group := hlog.groups_keyed.eq_of_key_eq hg (Table.mem_of_row? a.found)
        (hdid.trans hgroup.symm)
      subst hsame
      have hseq' : a.group.groupEventSeq + 1 = n := hseq
      omega
    rw [hnone, List.map_nil, List.append_nil]
  | attempted row outcome now nextAttempt updatedAt =>
    have hfields := fun r ↦ OutboxRow.afterAttempt_fields row r outcome now nextAttempt updatedAt
    have hkeep : ∀ r : OutboxRow, (if decide (r.deliveryId = row.deliveryId) && r.isDue then
        row.afterAttempt r outcome now nextAttempt updatedAt else r).groupDid = r.groupDid ∧
        (if decide (r.deliveryId = row.deliveryId) && r.isDue then
          row.afterAttempt r outcome now nextAttempt updatedAt else r).groupEventSeq =
            r.groupEventSeq ∧
        (if decide (r.deliveryId = row.deliveryId) && r.isDue then
          row.afterAttempt r outcome now nextAttempt updatedAt else r).targetDid = r.targetDid := by
      intro r
      split
      · exact ⟨(hfields r).2.1, (hfields r).2.2.1, (hfields r).2.2.2⟩
      · exact ⟨rfl, rfl, rfl⟩
    simp only [recipients, recordAttempt, Table.updateWhere, List.filter_map, List.map_map,
      Function.comp_def, (hkeep _).1, (hkeep _).2.1, (hkeep _).2.2]
  | elsewhere h => rw [recipients, h.groupDeliveryOutbox, recipients]

/-- **The recipients of an event never change**, whatever the Host does afterwards. -/
theorem recipients_fixed {w₀ w w' : HostWorld} (h₀ : w₀.Initial)
    (h : Reaches (HostStep settings) w₀ w) (h' : Reaches (HostStep settings) w w')
    {groupDid : String} {n : ℕ}
    (hn : ∃ g ∈ w.store.hostedGroups, g.groupDid = groupDid ∧ n ≤ g.groupEventSeq) :
    recipients w'.store groupDid n = recipients w.store groupDid n := by
  have hinv := Reaches.invariant (I := fun v ↦ (HostLogInv v.store ∧ OutboxInv v.store) ∧
    (∃ g ∈ v.store.hostedGroups, g.groupDid = groupDid ∧ n ≤ g.groupEventSeq) ∧
      recipients v.store groupDid n = recipients w.store groupDid n) h'
    ⟨HostInv.reaches h₀ h, hn, rfl⟩ ?_
  · exact hinv.2.2
  · rintro a b l ⟨⟨hlog, hi⟩, hseq, heq⟩ hs
    exact ⟨⟨hlog.step hs.storeStep, hi.step hlog hs.storeStep⟩,
      (hs.storeStep.headsGrow hlog).seq_le hseq,
      (hs.storeStep.recipients_eq hlog hi hseq).trans heq⟩

end Fixed

/-! ### Accepted events -/

section Accepted

variable {settings : Settings} {st st' : Store}

/-- **An advance tells its recipients,** -/
theorem Advance.recipientsComplete (a : Advance settings st st') (hlog : HostLogInv st)
    (hi : OutboxInv st) : RecipientsComplete settings st st' a.event st' := by
  have hdid : a.event.groupDid = a.group.groupDid := congrArg Prod.fst a.event_key
  have hseq : a.event.groupEventSeq = a.group.groupEventSeq + 1 := congrArg Prod.snd a.event_key
  have hall : Awiki.recipients st' a.event.groupDid a.event.groupEventSeq =
      a.recipients.map HostedMember.agentDid := by
    rw [recipients_append (a.outbox_eq hlog hi).1, hdid, hseq]
    have hold : Awiki.recipients st a.group.groupDid (a.group.groupEventSeq + 1) = [] := by
      rw [Awiki.recipients, List.map_eq_nil_iff, List.filter_eq_nil_iff]
      intro r hr hmatch
      obtain ⟨hgroup, hrow⟩ := of_decide_eq_true hmatch
      have := hi.seq_fresh hlog (Table.mem_of_row? a.found) hr hgroup
      omega
    rw [hold, List.nil_append, List.filter_eq_self.mpr, map_targetDid_outboxRows]
    intro r hr
    obtain ⟨_, -, _, -, -, rfl⟩ := mem_outboxRows hr
    exact decide_eq_true ⟨rfl, rfl⟩
  refine ⟨?_, fun did ↦ ?_⟩
  · rw [hall]
    exact a.recipients_nodup hi.members_keyed
  · rw [hall, hdid]
    exact a.mem_recipients hi.members_keyed did

/-- **and so does a creation that has none.** -/
theorem Creation.recipientsComplete (c : Creation settings st st') (hi : OutboxInv st)
    (ho : MembersOwned st) (hlocal : ∀ m ∈ c.members, m.isRemote settings = false) :
    RecipientsComplete settings st st' c.event st' := by
  have hdid : c.event.groupDid = c.group.groupDid := congrArg Prod.fst c.event_key
  have hnone : recipients st' c.event.groupDid c.event.groupEventSeq = [] := by
    rw [recipients, c.outbox, List.map_eq_nil_iff, List.filter_eq_nil_iff]
    intro r hr hmatch
    obtain ⟨g, hg, hgdid, -⟩ := hi.seq_le r hr
    exact c.fresh g hg (hgdid.trans ((of_decide_eq_true hmatch).1.trans hdid))
  have hnobody : ∀ did, ¬ RemoteActive settings st' c.event.groupDid did := by
    rintro did ⟨m, hm, hkey, -, hremote⟩
    rw [c.roster] at hm
    rcases List.mem_append.mp hm with hm | hm
    · obtain ⟨g, hg, hgdid⟩ := ho m hm
      exact c.fresh g hg (hgdid.trans ((congrArg Prod.fst hkey).trans hdid))
    · rw [hlocal m hm] at hremote
      cases hremote
  rw [RecipientsComplete, hnone]
  refine ⟨List.nodup_nil, fun did ↦ iff_of_false List.not_mem_nil ?_⟩
  rintro (h | ⟨h, -⟩)
  · exact hnobody did h
  · rw [c.event_method] at h
    rcases h with h | h <;> cases h

/-- Right after the transaction the recipients are complete, and the head has reached the event. -/
theorem StoreStep.recipientsComplete {c : HostedCall} {e : HostedEvent}
    (h : StoreStep settings st (.call c) st') (hlog : HostLogInv st) (hi : OutboxInv st)
    (ho : MembersOwned st) {w : HostWorld} (hlocal : CreatesLocally settings w (.call c))
    (hevent : st'.hostedGroupEvents = st.hostedGroupEvents ++ [e]) :
    RecipientsComplete settings st st' e st' ∧ ∃ g ∈ st'.hostedGroups, g.groupDid = e.groupDid ∧
      e.groupEventSeq ≤ g.groupEventSeq := by
  have hlast : ∀ {e' : HostedEvent},
      st'.hostedGroupEvents = st.hostedGroupEvents ++ [e'] → e' = e := fun he' ↦ by
    simpa using he'.symm.trans hevent
  cases h with
  | unchanged => simp at hevent
  | created result hcall creation hresult hmethod hctx creator prepared hprepared hmembers =>
    obtain rfl := hlast creation.events
    refine ⟨creation.recipientsComplete hi ho fun m hm ↦ ?_, creation.group,
      by simp [creation.groups], (congrArg Prod.fst creation.event_key).symm, ?_⟩
    · rw [hmembers] at hm
      exact createdMembers_local hprepared hctx.body (hlocal hmethod) _ _ hm
    · rw [creation.eventSeq]
      exact (congrArg Prod.snd creation.event_key).le
  | advanced result hcall advance =>
    obtain rfl := hlast advance.events
    obtain ⟨g', hg', hdid, hseq⟩ := advance.mem_head
    exact ⟨advance.recipientsComplete hlog hi, g', hg',
      hdid.trans (congrArg Prod.fst advance.event_key).symm,
      ((congrArg Prod.snd advance.event_key).trans hseq).le⟩

end Accepted

/-- **Recipient completeness.** In every run in which no create names a remote initial member, every
event a call appends has, right away and in every later state, exactly one outbox row for each
remote DID that is active after it, one for the remote member a version 2 leave or removal ended,
and no other. -/
theorem recipients_complete {settings : Settings} {w₀ w w' w'' : HostWorld} {c : HostedCall}
    {e : HostedEvent} (h₀ : w₀.Initial)
    (h : ReachesWith (HostStep settings) (CreatesLocally settings) w₀ w)
    (hlocal : CreatesLocally settings w (.call c)) (hstep : HostStep settings w (.call c) w')
    (hevent : w'.store.hostedGroupEvents = w.store.hostedGroupEvents ++ [e])
    (hlater : Reaches (HostStep settings) w' w'') :
    RecipientsComplete settings w.store w'.store e w''.store := by
  have hreach := h.reaches
  obtain ⟨⟨hlog, hi⟩, ho⟩ := Reaches.invariant
    (I := fun v ↦ (HostLogInv v.store ∧ OutboxInv v.store) ∧ MembersOwned v.store) hreach
    ⟨⟨.initial h₀, .initial h₀⟩, by simp [MembersOwned, h₀.hostedGroupMembers]⟩
    fun hv hs ↦ ⟨⟨hv.1.1.step hs.storeStep, hv.1.2.step hv.1.1 hs.storeStep⟩,
      hv.2.step hv.1.1 hs.storeStep⟩
  have hnow := hstep.storeStep.recipientsComplete hlog hi ho hlocal hevent
  rw [RecipientsComplete, recipients_fixed h₀ (hreach.tail hstep) hlater hnow.2]
  exact hnow.1

/-- Alice creates a group with Bob as an initial member. -/
def remoteCreate : HostedCall := sampleCreate [.obj [("member_did", .str bob)]]

/-- **A remote initial member is never told.** Bob is an active member after the creation, and the
outbox has no row for it. -/
theorem remote_initial_member_not_notified :
    ¬ ∀ (w w' w'' : HostWorld) (c : HostedCall) (e : HostedEvent),
      Reaches (HostStep .sample) .empty w → HostStep .sample w (.call c) w' →
      w'.store.hostedGroupEvents = w.store.hostedGroupEvents ++ [e] →
      Reaches (HostStep .sample) w' w'' →
      RecipientsComplete .sample w.store w'.store e w''.store := by
  intro hall
  have hkeys : (afterCall .sample {} remoteCreate).hostedGroupEvents.map HostedEvent.key =
      [(sampleGroup, 1)] := by decide +kernel
  obtain ⟨e, he, hkey⟩ := List.map_eq_singleton_iff.mp hkeys
  have hcomplete := hall .empty _ _ remoteCreate e (.refl _)
    (.call remoteCreate List.prefix_rfl List.prefix_rfl) he (.refl _)
  have hdid : e.groupDid = sampleGroup := congrArg Prod.fst hkey
  have hbob : (afterCall .sample {} remoteCreate).hostedGroupMembers.any (fun m ↦
      decide (m.key = (sampleGroup, bob) ∧ m.status = .active) && m.isRemote .sample) = true := by
    decide +kernel
  have hnone : (afterCall .sample {} remoteCreate).groupDeliveryOutbox.length = 0 := by
    decide +kernel
  obtain ⟨m, hm, hmbob⟩ := List.any_eq_true.mp hbob
  rw [Bool.and_eq_true, decide_eq_true_eq] at hmbob
  have hmem := (hcomplete.2 bob).mpr (.inl ⟨m, hm, hdid ▸ hmbob.1.1, hmbob.1.2, hmbob.2⟩)
  rw [recipients] at hmem
  change bob ∈ (((afterCall .sample {} remoteCreate).groupDeliveryOutbox).filter _).map _ at hmem
  rw [List.eq_nil_of_length_eq_zero hnone] at hmem
  exact List.not_mem_nil hmem

/-- Adding Bob after the creation announces the event to him. -/
theorem recipients_complete_sample :
    ∃ (w : HostWorld) (e : HostedEvent),
      HostWorld.sample.store.hostedGroupEvents = w.store.hostedGroupEvents ++ [e] ∧
        RecipientsComplete .sample w.store HostWorld.sample.store e HostWorld.sample.store := by
  have hlocal : CreatesLocally .sample .empty (.call (sampleCreate [])) := by
    rintro - did home ⟨body, initial, m, hbody, hinitial, hm, -⟩
    have hbody' : body = [("group_profile", .obj [("display_name", .str "sample")]),
        ("group_policy", .obj []), ("initial_members", .arr [])] := (Json.obj.inj hbody).symm
    subst hbody'
    have hempty : initial = [] := (Json.arr.inj hinitial).symm
    simp [hempty] at hm
  have hcreated : ReachesWith (HostStep .sample) (CreatesLocally .sample) .empty
      (HostWorld.empty.after .sample fun _ ↦ sampleCreate []) :=
    (ReachesWith.refl _).tail hlocal (.call (sampleCreate []) List.prefix_rfl List.prefix_rfl)
  have hadd : HostStep .sample (HostWorld.empty.after .sample fun _ ↦ sampleCreate [])
      (.call (sampleAdd (HostWorld.empty.after .sample fun _ ↦ sampleCreate []).store)) .sample :=
    .call _ List.prefix_rfl List.prefix_rfl
  have hlonger : (afterCall .sample (HostWorld.empty.after .sample fun _ ↦ sampleCreate []).store
      (sampleAdd (HostWorld.empty.after .sample fun _ ↦ sampleCreate []).store)
        ).hostedGroupEvents.length =
      (HostWorld.empty.after .sample fun _ ↦
        sampleCreate []).store.hostedGroupEvents.length + 1 := by
    decide +kernel
  obtain ⟨_, e, -, hevent⟩ := hostedCall_of_longer_log hlonger
  exact ⟨_, e, hevent, recipients_complete HostWorld.empty_initial hcreated
    (by rintro ⟨⟩) hadd hevent (.refl _)⟩

end Awiki
