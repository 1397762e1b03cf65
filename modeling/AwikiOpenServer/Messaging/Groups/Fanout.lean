import AwikiOpenServer.Messaging.Groups.HostLog

/-!
# The outbox against the log

An accepted event is announced by `INSERT OR IGNORE`. The statement ignores a row that repeats a
delivery id or a `(group, seq, target, method)`; this module shows that it never does. Rows carry
sequence numbers the head has already reached (`OutboxInv.seq_le`) and identifiers already drawn
(`OutboxInv.ids`), so an event at the next sequence number finds both free, and **the outbox grows
by exactly one row per recipient** (`Advance.outbox_eq`).

## What is needed for it

Two recipients of one event must not be the same row. Recipients are the remote active members of
the roster and, at a version 2 departure, the member that has left; the roster has a key, and a
member that has left is no longer active, so they are different DIDs (`Advance.recipients_nodup`).
That every operation keeps the key of the roster is `RosterStep.keyed`.

Sequence numbers of a group only advance (`HeadsGrow`). Together with the agreement of heads and log
(`HostLogInv`, which this module builds on) this carries the invariant through calls, attempts and
the rest of the server; an attempt rewrites a row without touching what it is known by
(`OutboxRow.afterAttempt_fields`).

`HostInv.reaches` is where log and outbox are put together. The results about order, completeness
and capacity of deliveries all start from it.
-/

namespace Awiki

open Py Runs

/-! ### Recipients of an event -/

section Recipients

variable {settings : Settings} {st st' : Store}

/-- The rows an event is announced to: the remote active members after it and, for a version 2 leave
or removal, the departed member. -/
def Advance.recipients (a : Advance settings st st') : List HostedMember :=
  remoteMembers settings st' a.group.groupDid ++ departedRows settings st' a.group.groupDid
    (if a.ctx.profile = .v2 then a.departed else none)

/-- A remote member is an active row of the roster on another service. -/
theorem mem_remoteMembers {groupDid : String} {m : HostedMember} :
    m ∈ remoteMembers settings st groupDid ↔ m ∈ st.hostedGroupMembers ∧ m.groupDid = groupDid ∧
      m.status = .active ∧ m.isRemote settings = true := by
  simp only [remoteMembers, List.mem_insertionSort, Store.activeMembers, List.mem_filter,
    decide_eq_true_eq, and_assoc]

/-- No member is there twice. -/
theorem remoteMembers_nodup (hkeyed : Table.Keyed HostedMember.key st.hostedGroupMembers)
    (groupDid : String) :
    ((remoteMembers settings st groupDid).map HostedMember.agentDid).Nodup := by
  have hsub : ((st.activeMembers groupDid).filter (HostedMember.isRemote settings)).Sublist
      st.hostedGroupMembers := List.filter_sublist.trans List.filter_sublist
  have hkeys : (((st.activeMembers groupDid).filter (HostedMember.isRemote settings)).map
      HostedMember.key).Nodup := hkeyed.sublist (hsub.map _)
  have hperm := (List.perm_insertionSort (fun a b : HostedMember ↦ a.agentDid ≤ b.agentDid)
    ((st.activeMembers groupDid).filter (HostedMember.isRemote settings))).map HostedMember.agentDid
  refine hperm.nodup_iff.mpr ?_
  -- Within one group the DID alone is a key.
  have hgroup : ∀ {m}, m ∈ (st.activeMembers groupDid).filter (HostedMember.isRemote settings) →
      m.groupDid = groupDid := fun hm ↦
    (of_decide_eq_true (List.mem_filter.mp (List.mem_filter.mp hm).1).2).1
  have hnodup := List.Nodup.of_map _ hkeys
  rw [List.nodup_map_iff_inj_on hnodup] at hkeys ⊢
  intro a ha b hb hab
  exact hkeys a ha b hb (Prod.ext ((hgroup ha).trans (hgroup hb).symm) hab)

/-- A member that has left is told once. -/
theorem departedRows_nodup (groupDid : String) (did : Option String) :
    ((remoteMembers settings st groupDid ++ departedRows settings st groupDid did).map
        HostedMember.agentDid).Nodup ↔
      ((remoteMembers settings st groupDid).map HostedMember.agentDid).Nodup := by
  rw [List.map_append, List.nodup_append]
  refine ⟨fun h ↦ h.1, fun h ↦ ⟨h, ?_, ?_⟩⟩
  all_goals
    unfold departedRows
    split
    · simp
    · split
      · split
        · simp_all
        · simp
      · simp

end Recipients

/-! ### The new rows -/

section Rows

variable {n groupEventSeq : ℕ} {groupDid createdAt : String} {method : GroupMethod}
  {envelopeFor : String → Obj}

/-- A new row: its place in the log, its status, and an identifier of its own. -/
theorem mem_outboxRows {members : List HostedMember} {r : OutboxRow}
    (h : r ∈ outboxRows n groupDid groupEventSeq method envelopeFor createdAt members) :
    ∃ m ∈ members, ∃ k, n ≤ k ∧ k < n + members.length ∧
      r = outboxRow k groupDid groupEventSeq m.agentDid (m.homeServiceDid.getD "None") method
        (envelopeFor m.agentDid) createdAt := by
  induction members generalizing n with
  | nil => cases h
  | cons m rest ih =>
    rcases List.mem_cons.mp h with rfl | h
    · exact ⟨m, List.mem_cons_self, n, le_refl n, by simp, rfl⟩
    · obtain ⟨m', hm', k, hk, hk', rfl⟩ := ih h
      refine ⟨m', List.mem_cons_of_mem _ hm', k, by omega, ?_, rfl⟩
      rw [List.length_cons]
      omega

/-- Every recipient has its row. -/
theorem mem_outboxRows_of_mem {members : List HostedMember} {m : HostedMember} (hm : m ∈ members)
    (groupDid : String) (groupEventSeq : ℕ) (method : GroupMethod) (envelopeFor : String → Obj)
    (createdAt : String) :
    ∃ r ∈ outboxRows n groupDid groupEventSeq method envelopeFor createdAt members,
      r.key = (groupDid, groupEventSeq, m.agentDid, method) ∧
        r.envelope = envelopeFor m.agentDid := by
  induction members generalizing n with
  | nil => cases hm
  | cons m' rest ih =>
    rcases List.mem_cons.mp hm with rfl | hm
    · exact ⟨_, List.mem_cons_self, rfl, rfl⟩
    · obtain ⟨r, hr, hkey, henvelope⟩ := ih hm
      exact ⟨r, List.mem_cons_of_mem _ hr, hkey, henvelope⟩

/-- The rows are for the members, in their order. -/
theorem map_targetDid_outboxRows (members : List HostedMember) :
    (outboxRows n groupDid groupEventSeq method envelopeFor createdAt members).map
      OutboxRow.targetDid = members.map HostedMember.agentDid := by
  induction members generalizing n with
  | nil => rfl
  | cons m rest ih =>
    rw [outboxRows, List.map_cons, List.map_cons, ih]
    rfl

/-- Their identifiers are different. -/
theorem outboxRows_ids_nodup (members : List HostedMember) :
    ((outboxRows n groupDid groupEventSeq method envelopeFor createdAt members).map
      OutboxRow.deliveryId).Nodup := by
  induction members generalizing n with
  | nil => exact List.nodup_nil
  | cons m rest ih =>
    rw [outboxRows, List.map_cons, List.nodup_cons]
    refine ⟨fun hmem ↦ ?_, ih⟩
    obtain ⟨r, hr, heq⟩ := List.mem_map.mp hmem
    obtain ⟨_, -, k, hk, -, rfl⟩ := mem_outboxRows hr
    have hkn : k = n := newId_injective "gdlv" heq
    omega

end Rows

/-! ### The invariant -/

/-- **The outbox never runs ahead of the log.** -/
structure OutboxInv (st : Store) : Prop where
  members_keyed : Table.Keyed HostedMember.key st.hostedGroupMembers
  ids : ∀ r ∈ st.groupDeliveryOutbox, ∃ n < st.issued, r.deliveryId = newId "gdlv" n
  ids_keyed : Table.Keyed OutboxRow.deliveryId st.groupDeliveryOutbox
  seq_le : ∀ r ∈ st.groupDeliveryOutbox, ∃ g ∈ st.hostedGroups, g.groupDid = r.groupDid ∧
    r.groupEventSeq ≤ g.groupEventSeq

/-- Every operation keeps the primary key of the roster. -/
theorem RosterStep.keyed {groupDid : String} {members members' : List HostedMember}
    {method : GroupMethod} {departed : Option String}
    (h : RosterStep groupDid members method departed members')
    (hk : Table.Keyed HostedMember.key members) : Table.Keyed HostedMember.key members' := by
  cases h with
  | same => exact hk
  | admitted row => exact hk.upsert fun _ _ ↦ rfl
  | ended did now status => exact hk.updateWhere fun _ _ ↦ rfl
  | rebound previousDid newDid home binding hfresh =>
    refine hk.updateWhere_rekey (groupDid, previousDid) (groupDid, newDid) ?_ ?_ hfresh
    · intro m _ hm
      simp only [decide_eq_true_eq] at hm
      exact Prod.ext hm.1 hm.2.2.1
    · intro m hm
      simp only [decide_eq_true_eq] at hm
      exact Prod.ext hm.1 rfl

section Invariant

variable {settings : Settings} {st st' : Store}

/-- **An event has no recipient twice.** -/
theorem Advance.recipients_nodup (a : Advance settings st st')
    (hk : Table.Keyed HostedMember.key st.hostedGroupMembers) :
    (a.recipients.map HostedMember.agentDid).Nodup :=
  (departedRows_nodup _ _).mpr (remoteMembers_nodup (a.roster.keyed hk) _)

/-- At the next sequence number of a group the outbox has no row yet. -/
theorem OutboxInv.seq_fresh (hi : OutboxInv st) (hlog : HostLogInv st) {g : HostedGroup}
    (hg : g ∈ st.hostedGroups) {r : OutboxRow} (hr : r ∈ st.groupDeliveryOutbox)
    (hgroup : r.groupDid = g.groupDid) : r.groupEventSeq ≤ g.groupEventSeq := by
  obtain ⟨g', hg', hdid, hle⟩ := hi.seq_le r hr
  have hsame : g' = g := hlog.groups_keyed.eq_of_key_eq hg' hg (hdid.trans hgroup)
  exact hsame ▸ hle

/-- **One row per recipient**, and the identifiers they use are drawn. -/
theorem Advance.outbox_eq (a : Advance settings st st') (hlog : HostLogInv st)
    (hi : OutboxInv st) :
    st'.groupDeliveryOutbox = st.groupDeliveryOutbox ++
        outboxRows a.enqueuing.issued a.group.groupDid (a.group.groupEventSeq + 1) a.notification
          a.envelopeFor a.now a.recipients ∧
      a.enqueuing.issued + a.recipients.length ≤ st'.issued := by
  have hnew := enqueueAll_of_fresh a.group.groupDid a.now (a.group.groupEventSeq + 1)
    a.notification a.envelopeFor a.recipients a.enqueuing
      (a.recipients_nodup hi.members_keyed) ?_ ?_
  · have houtbox := a.outbox
    have hissued := a.issued
    change st'.groupDeliveryOutbox = (enqueueAll a.enqueuing a.group.groupDid
      (a.group.groupEventSeq + 1) a.notification a.envelopeFor a.now
      a.recipients).groupDeliveryOutbox at houtbox
    change (enqueueAll a.enqueuing a.group.groupDid (a.group.groupEventSeq + 1) a.notification
      a.envelopeFor a.now a.recipients).issued ≤ st'.issued at hissued
    rw [hnew] at houtbox hissued
    rw [a.enqueuing_outbox] at houtbox
    exact ⟨houtbox, hissued⟩
  · intro r hr
    rw [a.enqueuing_outbox] at hr
    obtain ⟨n, hn, hid⟩ := hi.ids r hr
    exact ⟨n, hn.trans_le a.enqueuing_issued, hid⟩
  · intro r hr hgroup hseq
    rw [a.enqueuing_outbox] at hr
    have := hi.seq_fresh hlog (Table.mem_of_row? a.found) hr hgroup
    omega

/-- The groups only advance. -/
def HeadsGrow (st st' : Store) : Prop :=
  ∀ g ∈ st.hostedGroups, ∃ g' ∈ st'.hostedGroups, g'.groupDid = g.groupDid ∧
    g.groupEventSeq ≤ g'.groupEventSeq

/-- The same groups. -/
theorem HeadsGrow.refl (st : Store) : HeadsGrow st st := fun g hg ↦ ⟨g, hg, rfl, le_refl _⟩

/-- An event moves one head. -/
theorem Advance.headsGrow (a : Advance settings st st')
    (hkeyed : Table.Keyed HostedGroup.groupDid st.hostedGroups) : HeadsGrow st st' := by
  intro g hg
  rw [a.groups, writeHead]
  refine ⟨_, Table.mem_updateWhere.mpr ⟨g, hg, rfl⟩, ?_⟩
  by_cases hdid : g.groupDid = a.group.groupDid
  · have hsame : g = a.group := hkeyed.eq_of_key_eq hg (Table.mem_of_row? a.found) hdid
    subst hsame
    simp [advanceHead]
  · simp [hdid]

/-- The head of the group an advance is about. -/
theorem Advance.mem_head (a : Advance settings st st') :
    ∃ g' ∈ st'.hostedGroups, g'.groupDid = a.group.groupDid ∧
      a.group.groupEventSeq + 1 = g'.groupEventSeq := by
  rw [a.groups, writeHead]
  refine ⟨_, Table.mem_updateWhere.mpr ⟨a.group, Table.mem_of_row? a.found, rfl⟩, ?_⟩
  simp [advanceHead]

/-- A number that was reached stays reached. -/
theorem HeadsGrow.seq_le (h : HeadsGrow st st') {groupDid : String} {n : ℕ}
    (hn : ∃ g ∈ st.hostedGroups, g.groupDid = groupDid ∧ n ≤ g.groupEventSeq) :
    ∃ g ∈ st'.hostedGroups, g.groupDid = groupDid ∧ n ≤ g.groupEventSeq := by
  obtain ⟨g, hg, hdid, hle⟩ := hn
  obtain ⟨g', hg', hdid', hle'⟩ := h g hg
  exact ⟨g', hg', hdid'.trans hdid, hle.trans hle'⟩

/-- Every step of the Host. -/
theorem StoreStep.headsGrow {action : HostAction} (h : StoreStep settings st action st')
    (hlog : HostLogInv st) : HeadsGrow st st' := by
  cases h with
  | unchanged => exact HeadsGrow.refl st
  | created _ _ c =>
    intro g hg
    exact ⟨g, by rw [c.groups]; exact List.mem_append_left _ hg, rfl, le_refl _⟩
  | advanced _ _ a => exact a.headsGrow hlog.groups_keyed
  | attempted => exact HeadsGrow.refl st
  | elsewhere h =>
    intro g hg
    exact ⟨g, by rw [h.hostedGroups]; exact hg, rfl, le_refl _⟩

/-- An event keeps the invariant, -/
theorem OutboxInv.advance (hi : OutboxInv st) (hlog : HostLogInv st)
    (a : Advance settings st st') : OutboxInv st' := by
  obtain ⟨houtbox, hissued⟩ := a.outbox_eq hlog hi
  have hmono := a.enqueuing_issued
  refine ⟨a.roster.keyed hi.members_keyed, ?_, ?_, ?_⟩
  · intro r hr
    rw [houtbox] at hr
    rcases List.mem_append.mp hr with hr | hr
    · obtain ⟨n, hn, hid⟩ := hi.ids r hr
      exact ⟨n, by omega, hid⟩
    · obtain ⟨_, -, k, -, hk, rfl⟩ := mem_outboxRows hr
      exact ⟨k, by omega, rfl⟩
  · rw [houtbox, Table.Keyed, List.map_append, List.nodup_append]
    refine ⟨hi.ids_keyed, outboxRows_ids_nodup _, fun id hid id' hid' heq ↦ ?_⟩
    obtain ⟨r, hr, rfl⟩ := List.mem_map.mp hid
    obtain ⟨r', hr', rfl⟩ := List.mem_map.mp hid'
    obtain ⟨n, hn, hrid⟩ := hi.ids r hr
    obtain ⟨_, -, k, hk, -, rfl⟩ := mem_outboxRows hr'
    have hnk : n = k := newId_injective "gdlv" (hrid.symm.trans heq)
    omega
  · intro r hr
    rw [houtbox] at hr
    rcases List.mem_append.mp hr with hr | hr
    · exact (a.headsGrow hlog.groups_keyed).seq_le (hi.seq_le r hr)
    · obtain ⟨_, -, k, -, -, rfl⟩ := mem_outboxRows hr
      obtain ⟨g', hg', hdid, hseq⟩ := a.mem_head
      exact ⟨g', hg', hdid, hseq.le⟩

/-- a creation does, -/
theorem OutboxInv.creation (hi : OutboxInv st) (c : Creation settings st st') : OutboxInv st' := by
  refine ⟨c.members_keyed hi.members_keyed, ?_, ?_, ?_⟩
  · intro r hr
    rw [c.outbox] at hr
    obtain ⟨n, hn, hid⟩ := hi.ids r hr
    exact ⟨n, hn.trans_le c.issued, hid⟩
  · rw [c.outbox]
    exact hi.ids_keyed
  · intro r hr
    rw [c.outbox] at hr
    obtain ⟨g, hg, hrest⟩ := hi.seq_le r hr
    exact ⟨g, by rw [c.groups]; exact List.mem_append_left _ hg, hrest⟩

/-- An attempt keeps the identity of the row. -/
theorem OutboxRow.afterAttempt_fields (attempted r : OutboxRow) (outcome : AttemptOutcome)
    (now nextAttempt updatedAt : String) :
    let r' := attempted.afterAttempt r outcome now nextAttempt updatedAt
    r'.deliveryId = r.deliveryId ∧ r'.groupDid = r.groupDid ∧
      r'.groupEventSeq = r.groupEventSeq ∧ r'.targetDid = r.targetDid := by
  cases outcome with
  | delivered => exact ⟨rfl, rfl, rfl, rfl⟩
  | failed => exact ⟨rfl, rfl, rfl, rfl⟩

/-- an attempt does, -/
theorem OutboxInv.attempted (hi : OutboxInv st) (row : OutboxRow) (outcome : AttemptOutcome)
    (now nextAttempt updatedAt : String) :
    OutboxInv (recordAttempt st row outcome now nextAttempt updatedAt) := by
  have hfields := fun r ↦ OutboxRow.afterAttempt_fields row r outcome now nextAttempt updatedAt
  refine ⟨hi.members_keyed, ?_, hi.ids_keyed.updateWhere fun r _ ↦ (hfields r).1, ?_⟩
  · intro r hr
    obtain ⟨r₀, hr₀, rfl⟩ := Table.mem_updateWhere.mp hr
    obtain ⟨n, hn, hid⟩ := hi.ids r₀ hr₀
    refine ⟨n, hn, ?_⟩
    split
    · exact (hfields r₀).1.trans hid
    · exact hid
  · intro r hr
    obtain ⟨r₀, hr₀, rfl⟩ := Table.mem_updateWhere.mp hr
    have hle := hi.seq_le r₀ hr₀
    split
    · rw [(hfields r₀).2.1, (hfields r₀).2.2.1]
      exact hle
    · exact hle

/-- and so does the rest of the server. -/
theorem OutboxInv.elsewhere (hi : OutboxInv st) (h : st.Elsewhere st') : OutboxInv st' := by
  refine ⟨?_, ?_, ?_, ?_⟩
  · rw [h.hostedGroupMembers]
    exact hi.members_keyed
  · rw [h.groupDeliveryOutbox]
    intro r hr
    obtain ⟨n, hn, hid⟩ := hi.ids r hr
    exact ⟨n, hn.trans_le h.issued, hid⟩
  · rw [h.groupDeliveryOutbox]
    exact hi.ids_keyed
  · rw [h.groupDeliveryOutbox, h.hostedGroups]
    exact hi.seq_le

/-- **The step lemma.** -/
theorem OutboxInv.step {action : HostAction} (hi : OutboxInv st) (hlog : HostLogInv st)
    (h : StoreStep settings st action st') : OutboxInv st' := by
  cases h with
  | unchanged => exact hi
  | created _ _ c => exact hi.creation c
  | advanced _ _ a => exact hi.advance hlog a
  | attempted row outcome now nextAttempt updatedAt => exact hi.attempted row outcome now _ _
  | elsewhere h => exact hi.elsewhere h

/-- At first the outbox is empty. -/
theorem OutboxInv.initial {w : HostWorld} (h : w.Initial) : OutboxInv w.store where
  members_keyed := by simp [Table.Keyed, h.hostedGroupMembers]
  ids := by simp [h.groupDeliveryOutbox]
  ids_keyed := by simp [Table.Keyed, h.groupDeliveryOutbox]
  seq_le := by simp [h.groupDeliveryOutbox]

/-- **Log and outbox in every reachable state.** -/
theorem HostInv.reaches {w₀ w : HostWorld} (h₀ : w₀.Initial)
    (h : Reaches (HostStep settings) w₀ w) : HostLogInv w.store ∧ OutboxInv w.store :=
  Reaches.invariant (I := fun w ↦ HostLogInv w.store ∧ OutboxInv w.store) h
    ⟨HostLogInv.initial h₀, OutboxInv.initial h₀⟩
    fun hi hs ↦ ⟨hi.1.step hs.storeStep, hi.2.step hi.1 hs.storeStep⟩

end Invariant

end Awiki
