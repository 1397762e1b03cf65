import AwikiOpenServer.Messaging.Groups.Outbox

/-!
# The head of a hosted group agrees with its log

Six handlers read the head counters, add to them and write them back, with error exits, capacity
checks and replays in between. The result is nevertheless one invariant, `LogOk`, per group: the log
is numbered `1, 2, …, group_event_seq`, and the state version after the `n`-th event is one more
than the number of events among the first `n`, the creation aside, that are not messages.

`LogOk` speaks about a list of events and two numbers; it grows by one event at a time
(`LogOk.append`), and that is all the step lemma needs.

## What the invariant covers

`HostLogInv` is the invariant of the store: `LogOk` for every group, and with it what is asked of
the other tables. A message row is the message of its event, a stored result reports the version
pair of an event of its method, and groups without a head have no events. Each of these grows with
the log, by the event that an `Advance` or a `Creation` writes.

The rows of the log are never rewritten or removed (`LogGrows`); this is a statement about all steps
of the Host, and it is what makes an event that was there once an event of every later state.

## Answers

What a call answers is compared with the log as well: the pair in the result is that of the event it
has written, and a call that answers with a stored result reports the pair of an earlier event of
the same method. `Extends` is the first case, and `HostLogInv.call` is that there is no third. A
call that was refused leaves no event, so a log that is longer after a call was made longer by it
(`hostedCall_of_longer_log`).
-/

namespace Awiki

open Py Runs

/-- The log of a group, in the order it was written. -/
def eventsOf (st : Store) (groupDid : String) : List HostedEvent :=
  st.hostedGroupEvents.filter fun e ↦ decide (e.groupDid = groupDid)

/-- An event that changes the state of the group. -/
def HostedEvent.isStateChange (e : HostedEvent) : Bool := e.subjectMethod ≠ .send

/-- **State version after the first `n` events**: one for the creation, and one for each later event
that is not a message. -/
def versionAfter (events : List HostedEvent) (n : ℕ) : ℕ :=
  1 + ((events.take n).drop 1).countP HostedEvent.isStateChange

/-- The log of one group, against the counters of its head. -/
structure LogOk (events : List HostedEvent) (version seq : ℕ) : Prop where
  /-- Every sequence number once, in order. -/
  seqs : events.map HostedEvent.groupEventSeq = List.range' 1 seq
  pos : 1 ≤ seq
  version_eq : version = versionAfter events seq
  event_version : ∀ e ∈ events, e.groupStateVersion = versionAfter events e.groupEventSeq
  event_receipt : ∀ e ∈ events, Carries e.receipt e.groupStateVersion e.groupEventSeq
  /-- The first event, and no other, is the creation. -/
  creation : ∀ e ∈ events, e.subjectMethod = .create ↔ e.groupEventSeq = 1

/-! ### The version as a function of the log -/

/-- The version does not decrease. -/
theorem versionAfter_mono (events : List HostedEvent) {m n : ℕ} (h : m ≤ n) :
    versionAfter events m ≤ versionAfter events n := by
  have hsub : ((events.take m).drop 1).Sublist ((events.take n).drop 1) :=
    (List.take_sublist_take_left h).drop 1
  have := hsub.countP_le (p := HostedEvent.isStateChange)
  unfold versionAfter
  omega

/-- An event more does not change the versions before it. -/
theorem versionAfter_append_of_le {events : List HostedEvent} {n : ℕ} (e : HostedEvent)
    (h : n ≤ events.length) : versionAfter (events ++ [e]) n = versionAfter events n := by
  rw [versionAfter, versionAfter, List.take_append_of_le_length h]

/-- It raises the version unless it is a message. -/
theorem versionAfter_append_length {events : List HostedEvent} (e : HostedEvent)
    (h : 1 ≤ events.length) :
    versionAfter (events ++ [e]) (events.length + 1) =
      versionAfter events events.length + (if e.isStateChange then 1 else 0) := by
  have htake : (events ++ [e]).take (events.length + 1) = events ++ [e] := by
    rw [List.take_of_length_le (by simp)]
  rw [versionAfter, versionAfter, htake, List.take_length, List.drop_append_of_le_length h,
    List.countP_append, List.countP_singleton, Nat.add_assoc]

namespace LogOk

variable {events : List HostedEvent} {version seq : ℕ}

/-- There are as many events as the head says. -/
theorem length_eq (h : LogOk events version seq) : events.length = seq := by
  have := congrArg List.length h.seqs
  simpa using this

/-- The number of an event is one the head has reached. -/
theorem seq_le (h : LogOk events version seq) {e : HostedEvent} (he : e ∈ events) :
    e.groupEventSeq ≤ seq := by
  have hmem : e.groupEventSeq ∈ List.range' 1 seq := h.seqs ▸ List.mem_map_of_mem he
  rw [List.mem_range'_1] at hmem
  omega

/-- A log of one creation. -/
theorem single {e : HostedEvent} (hseq : e.groupEventSeq = 1) (hversion : e.groupStateVersion = 1)
    (hmethod : e.subjectMethod = .create) (hreceipt : Carries e.receipt 1 1) : LogOk [e] 1 1 where
  seqs := by simp [hseq]
  pos := le_refl 1
  version_eq := by simp [versionAfter]
  event_version := by
    intro e' he'
    obtain rfl := List.mem_singleton.mp he'
    rw [hversion, hseq]
    simp [versionAfter]
  event_receipt := by
    intro e' he'
    obtain rfl := List.mem_singleton.mp he'
    rw [hversion, hseq]
    exact hreceipt
  creation := by
    intro e' he'
    obtain rfl := List.mem_singleton.mp he'
    simp [hmethod, hseq]

/-- **One more event.** -/
theorem append (h : LogOk events version seq) {e : HostedEvent} (hseq : e.groupEventSeq = seq + 1)
    (hversion : e.groupStateVersion = nextVersion e.subjectMethod version)
    (hmethod : e.subjectMethod ≠ .create)
    (hreceipt : Carries e.receipt e.groupStateVersion e.groupEventSeq) :
    LogOk (events ++ [e]) (nextVersion e.subjectMethod version) (seq + 1) := by
  have hlen := h.length_eq
  have hnext : nextVersion e.subjectMethod version = versionAfter (events ++ [e]) (seq + 1) := by
    have happend := versionAfter_append_length e (hlen ▸ h.pos)
    rw [hlen, ← h.version_eq] at happend
    rw [happend]
    by_cases hsend : e.subjectMethod = .send <;>
      simp [nextVersion, HostedEvent.isStateChange, hsend]
  have hold : ∀ e' ∈ events,
      versionAfter (events ++ [e]) e'.groupEventSeq = versionAfter events e'.groupEventSeq :=
    fun e' he' ↦ versionAfter_append_of_le e (hlen ▸ h.seq_le he')
  refine ⟨?_, by omega, hnext, ?_, ?_, ?_⟩
  · rw [List.map_append, h.seqs, List.map_singleton, hseq, List.range'_1_concat, Nat.add_comm 1]
  · intro e' he'
    rcases List.mem_append.mp he' with he' | he'
    · rw [hold e' he']
      exact h.event_version e' he'
    · obtain rfl := List.mem_singleton.mp he'
      rw [hversion, hseq]
      exact hnext
  · intro e' he'
    rcases List.mem_append.mp he' with he' | he'
    · exact h.event_receipt e' he'
    · obtain rfl := List.mem_singleton.mp he'
      exact hreceipt
  · intro e' he'
    rcases List.mem_append.mp he' with he' | he'
    · exact h.creation e' he'
    · obtain rfl := List.mem_singleton.mp he'
      have hpos := h.pos
      simp only [hmethod, hseq, false_iff]
      omega

/-- Versions do not decrease along the log. -/
theorem version_mono (h : LogOk events version seq) {e e' : HostedEvent} (he : e ∈ events)
    (he' : e' ∈ events) (hle : e.groupEventSeq ≤ e'.groupEventSeq) :
    e.groupStateVersion ≤ e'.groupStateVersion := by
  rw [h.event_version e he, h.event_version e' he']
  exact versionAfter_mono events hle

/-- The same, read along the list: its order is that of the sequence numbers. -/
theorem pairwise_version (h : LogOk events version seq) :
    events.Pairwise fun e e' ↦ e.groupStateVersion ≤ e'.groupStateVersion := by
  have hsorted : (events.map HostedEvent.groupEventSeq).Pairwise (· < ·) := by
    rw [h.seqs]
    exact List.pairwise_lt_range'
  rw [List.pairwise_map] at hsorted
  refine hsorted.imp_of_mem fun he he' hlt ↦ ?_
  exact h.version_mono he he' hlt.le

end LogOk

/-! ### The invariant of the store -/

/-- **Head and log agree**, for every group; messages and stored results point into the log. -/
structure HostLogInv (st : Store) : Prop where
  groups_keyed : Table.Keyed HostedGroup.groupDid st.hostedGroups
  log : ∀ g ∈ st.hostedGroups,
    LogOk (eventsOf st g.groupDid) g.groupStateVersion g.groupEventSeq
  owned : ∀ e ∈ st.hostedGroupEvents, ∃ g ∈ st.hostedGroups, g.groupDid = e.groupDid
  messages : ∀ m ∈ st.hostedGroupMessages, ∃ e ∈ st.hostedGroupEvents,
    e.key = (m.groupDid, m.groupEventSeq) ∧ e.subjectMethod = .send ∧ m.receipt = e.receipt
  operations : ∀ op ∈ st.groupOperations, ∃ e ∈ st.hostedGroupEvents,
    e.subjectMethod = op.method ∧
      Reports op.result e.receipt e.groupStateVersion e.groupEventSeq

/-- An event more is one of its group. -/
theorem eventsOf_append {st st' : Store} {e : HostedEvent}
    (h : st'.hostedGroupEvents = st.hostedGroupEvents ++ [e]) (groupDid : String) :
    eventsOf st' groupDid =
      eventsOf st groupDid ++ (if e.groupDid = groupDid then [e] else []) := by
  rw [eventsOf, h, List.filter_append, eventsOf]
  by_cases hg : e.groupDid = groupDid <;> simp [hg]

/-- The events of a group are those with its DID. -/
theorem mem_eventsOf {st : Store} {groupDid : String} {e : HostedEvent} :
    e ∈ eventsOf st groupDid ↔ e ∈ st.hostedGroupEvents ∧ e.groupDid = groupDid := by
  simp [eventsOf]

/-- A creation is no step of a roster. -/
theorem RosterStep.method_ne_create {groupDid : String} {members members' : List HostedMember}
    {method : GroupMethod} {departed : Option String}
    (h : RosterStep groupDid members method departed members') : method ≠ .create := by
  rintro rfl
  cases h with
  | same hmethod => simp at hmethod
  | admitted row hmethod => simp at hmethod
  | ended did now status hmethod => simp at hmethod

/-- The hosted tables the invariant reads are the same. -/
theorem HostLogInv.congr {st st' : Store} (hi : HostLogInv st)
    (hgroups : st'.hostedGroups = st.hostedGroups)
    (hevents : st'.hostedGroupEvents = st.hostedGroupEvents)
    (hmessages : st'.hostedGroupMessages = st.hostedGroupMessages)
    (hoperations : st'.groupOperations = st.groupOperations) : HostLogInv st' where
  groups_keyed := hgroups ▸ hi.groups_keyed
  log := by
    rw [hgroups]
    intro g hg
    rw [eventsOf, hevents]
    exact hi.log g hg
  owned := by
    rw [hgroups, hevents]
    exact hi.owned
  messages := by
    rw [hmessages, hevents]
    exact hi.messages
  operations := by
    rw [hoperations, hevents]
    exact hi.operations

/-- A creation keeps the invariant, -/
theorem HostLogInv.creation {settings : Settings} {st st' : Store} (hi : HostLogInv st)
    (c : Creation settings st st') : HostLogInv st' := by
  have hdid : c.event.groupDid = c.group.groupDid := congrArg Prod.fst c.event_key
  have hseq : c.event.groupEventSeq = 1 := congrArg Prod.snd c.event_key
  have hmem : ∀ {e}, e ∈ st.hostedGroupEvents → e ∈ st'.hostedGroupEvents := fun he ↦ by
    rw [c.events]
    exact List.mem_append_left _ he
  have hnew : c.event ∈ st'.hostedGroupEvents := by simp [c.events]
  -- A fresh group has no events yet: every event belongs to a group that already existed.
  have hnone : eventsOf st c.group.groupDid = [] := by
    rw [eventsOf, List.filter_eq_nil_iff]
    intro e he hg
    obtain ⟨g, hgmem, hgdid⟩ := hi.owned e he
    exact c.fresh g hgmem (hgdid.trans (by simpa using hg))
  refine ⟨?_, ?_, ?_, ?_, ?_⟩
  · rw [c.groups]
    exact hi.groups_keyed.append c.fresh
  · intro g hg
    rw [c.groups] at hg
    rw [eventsOf_append c.events]
    rcases List.mem_append.mp hg with hg | hg
    · rw [if_neg (by rw [hdid]; exact Ne.symm (c.fresh g hg)), List.append_nil]
      exact hi.log g hg
    · obtain rfl := List.mem_singleton.mp hg
      rw [if_pos hdid, hnone, List.nil_append, c.version, c.eventSeq]
      exact .single hseq c.event_version c.event_method (c.event_receipt ▸ c.receipt_carries)
  · intro e he
    rw [c.events] at he
    rw [c.groups]
    rcases List.mem_append.mp he with he | he
    · obtain ⟨g, hg, heq⟩ := hi.owned e he
      exact ⟨g, List.mem_append_left _ hg, heq⟩
    · obtain rfl := List.mem_singleton.mp he
      exact ⟨c.group, by simp, hdid.symm⟩
  · intro m hm
    rw [c.messages] at hm
    obtain ⟨e, he, hrest⟩ := hi.messages m hm
    exact ⟨e, hmem he, hrest⟩
  · intro op hop
    rw [c.operations] at hop
    rcases List.mem_append.mp hop with hop | hop
    · obtain ⟨e, he, hrest⟩ := hi.operations op hop
      exact ⟨e, hmem he, hrest⟩
    · obtain rfl := List.mem_singleton.mp hop
      have hmethod : c.operation.method = .create := congrArg (fun k ↦ k.2.2.1) c.operation_key
      refine ⟨c.event, hnew, c.event_method.trans hmethod.symm, ?_⟩
      rw [c.operation_result, c.event_receipt, c.event_version, hseq]
      exact c.result_reports

/-- The group rows after an advance: the head of one group moved, the others are as before. -/
theorem Advance.mem_groups {settings : Settings} {st st' : Store} (a : Advance settings st st')
    (hkeyed : Table.Keyed HostedGroup.groupDid st.hostedGroups) {g : HostedGroup}
    (hg : g ∈ st'.hostedGroups) :
    g = advanceHead a.update (nextVersion a.ctx.method a.group.groupStateVersion)
        (a.group.groupEventSeq + 1) a.now a.group ∨
      g ∈ st.hostedGroups ∧ g.groupDid ≠ a.group.groupDid := by
  rw [a.groups, writeHead, Table.mem_updateWhere] at hg
  obtain ⟨g₀, hg₀, rfl⟩ := hg
  by_cases hdid : g₀.groupDid = a.group.groupDid
  · have hsame : g₀ = a.group := hkeyed.eq_of_key_eq hg₀ (Table.mem_of_row? a.found) hdid
    left
    simp [hsame]
  · right
    simp [hdid, hg₀]

/-- and so does an advance. -/
theorem HostLogInv.advance {settings : Settings} {st st' : Store} (hi : HostLogInv st)
    (a : Advance settings st st') : HostLogInv st' := by
  have hdid : a.event.groupDid = a.group.groupDid := congrArg Prod.fst a.event_key
  have hseq : a.event.groupEventSeq = a.group.groupEventSeq + 1 := congrArg Prod.snd a.event_key
  have hmem : ∀ {e}, e ∈ st.hostedGroupEvents → e ∈ st'.hostedGroupEvents := fun he ↦ by
    rw [a.events]
    exact List.mem_append_left _ he
  have hnew : a.event ∈ st'.hostedGroupEvents := by simp [a.events]
  have hcarries : Carries a.event.receipt a.event.groupStateVersion a.event.groupEventSeq := by
    rw [a.event_receipt, a.event_version, hseq]
    exact a.receipt_carries
  -- Groups, their logs, events, messages and stored results, in the order of the fields. An old row
  -- keeps its event; the new ones belong to the event written.
  refine ⟨?_, ?_, ?_, ?_, ?_⟩
  · rw [a.groups]
    exact hi.groups_keyed.updateWhere fun _ _ ↦ rfl
  · intro g hg
    rw [eventsOf_append a.events]
    rcases a.mem_groups hi.groups_keyed hg with rfl | ⟨hg, hne⟩
    · have hlog := hi.log a.group (Table.mem_of_row? a.found)
      have hnext := hlog.append hseq (a.event_method ▸ a.event_version)
        (a.event_method ▸ a.roster.method_ne_create) hcarries
      rw [a.event_method] at hnext
      change LogOk (eventsOf st a.group.groupDid ++
        if a.event.groupDid = a.group.groupDid then [a.event] else []) _ _
      rw [if_pos hdid]
      exact hnext
    · rw [if_neg (by rw [hdid]; exact Ne.symm hne), List.append_nil]
      exact hi.log g hg
  · intro e he
    rw [a.events] at he
    have hgroup : ∀ g ∈ st.hostedGroups, ∃ g' ∈ st'.hostedGroups, g'.groupDid = g.groupDid := by
      intro g hg
      rw [a.groups, writeHead]
      refine ⟨_, Table.mem_updateWhere.mpr ⟨g, hg, rfl⟩, ?_⟩
      split <;> rfl
    rcases List.mem_append.mp he with he | he
    · obtain ⟨g, hg, heq⟩ := hi.owned e he
      obtain ⟨g', hg', heq'⟩ := hgroup g hg
      exact ⟨g', hg', heq'.trans heq⟩
    · obtain rfl := List.mem_singleton.mp he
      obtain ⟨g', hg', heq'⟩ := hgroup a.group (Table.mem_of_row? a.found)
      exact ⟨g', hg', heq'.trans hdid.symm⟩
  · intro m hm
    rw [a.messages] at hm
    rcases List.mem_append.mp hm with hm | hm
    · obtain ⟨e, he, hrest⟩ := hi.messages m hm
      exact ⟨e, hmem he, hrest⟩
    · have hm' : m ∈ a.message := by simpa using hm
      refine ⟨a.event, hnew, (a.message_key m hm').symm, ?_, ?_⟩
      · rw [a.event_method]
        exact a.message_send (by rw [Option.mem_def.mp hm']; rfl)
      · rw [a.message_receipt m hm', a.event_receipt]
  · intro op hop
    rw [a.operations] at hop
    rcases List.mem_append.mp hop with hop | hop
    · obtain ⟨e, he, hrest⟩ := hi.operations op hop
      exact ⟨e, hmem he, hrest⟩
    · obtain rfl := List.mem_singleton.mp hop
      have hmethod : a.operation.method = a.ctx.method :=
        congrArg (fun k ↦ k.2.2.1) a.operation_key
      refine ⟨a.event, hnew, a.event_method.trans hmethod.symm, ?_⟩
      rw [a.operation_result, a.event_receipt, a.event_version, hseq]
      exact a.result_reports

/-- **The step lemma.** -/
theorem HostLogInv.step {settings : Settings} {st st' : Store} {action : HostAction}
    (hi : HostLogInv st) (h : StoreStep settings st action st') : HostLogInv st' := by
  cases h with
  | unchanged => exact hi
  | created _ _ creation => exact hi.creation creation
  | advanced _ _ advance => exact hi.advance advance
  | attempted => exact hi.congr rfl rfl rfl rfl
  | elsewhere h =>
    exact hi.congr h.hostedGroups h.hostedGroupEvents h.hostedGroupMessages h.groupOperations

/-- At first there are no groups. -/
theorem HostLogInv.initial {w : HostWorld} (h : w.Initial) : HostLogInv w.store where
  groups_keyed := by simp [Table.Keyed, h.hostedGroups]
  log := by simp [h.hostedGroups]
  owned := by simp [h.hostedGroupEvents]
  messages := by simp [h.hostedGroupMessages]
  operations := by simp [h.groupOperations]

/-- **The run lemma.** -/
theorem HostLogInv.reaches {settings : Settings} {w₀ w : HostWorld} (h₀ : w₀.Initial)
    (h : Reaches (HostStep settings) w₀ w) : HostLogInv w.store :=
  Reaches.invariant (I := fun w ↦ HostLogInv w.store) h (HostLogInv.initial h₀)
    fun hi hs ↦ hi.step hs.storeStep

/-! ### The log only grows -/

/-- Rows of the log and of the messages are never rewritten or removed. -/
def LogGrows (st st' : Store) : Prop :=
  st.hostedGroupEvents <+: st'.hostedGroupEvents ∧
    st.hostedGroupMessages <+: st'.hostedGroupMessages

/-- Every step of the Host adds rows at most, -/
theorem StoreStep.logGrows {settings : Settings} {st st' : Store} {action : HostAction}
    (h : StoreStep settings st action st') : LogGrows st st' := by
  cases h with
  | unchanged => exact ⟨List.prefix_rfl, List.prefix_rfl⟩
  | created _ _ c =>
    exact ⟨c.events ▸ List.prefix_append _ _, c.messages ▸ List.prefix_rfl⟩
  | advanced _ _ a =>
    exact ⟨a.events ▸ List.prefix_append _ _, a.messages ▸ List.prefix_append _ _⟩
  | attempted => exact ⟨List.prefix_rfl, List.prefix_rfl⟩
  | elsewhere h =>
    exact ⟨h.hostedGroupEvents ▸ List.prefix_rfl, h.hostedGroupMessages ▸ List.prefix_rfl⟩

/-- and so does every run. -/
theorem Reaches.logGrows {settings : Settings} {w w' : HostWorld}
    (h : Reaches (HostStep settings) w w') : LogGrows w.store w'.store :=
  ReachesWith.related (I := fun _ ↦ True) (R := fun a b ↦ LogGrows a.store b.store) h trivial
    (fun _ _ hs ↦ ⟨trivial, hs.storeStep.logGrows⟩)
    (fun _ ↦ ⟨List.prefix_rfl, List.prefix_rfl⟩)
    fun hab hbc ↦ ⟨hab.1.trans hbc.1, hab.2.trans hbc.2⟩

/-- A call that made the log longer was accepted and appended its event. -/
theorem hostedCall_of_longer_log {settings : Settings} {st : Store} {c : HostedCall}
    (h : (afterCall settings st c).hostedGroupEvents.length = st.hostedGroupEvents.length + 1) :
    ∃ result e, hostedCall settings st c = .ok (result, afterCall settings st c) ∧
      (afterCall settings st c).hostedGroupEvents = st.hostedGroupEvents ++ [e] := by
  cases hcall : hostedCall settings st c with
  | error e =>
    simp [afterCall, hcall] at h
  | ok r =>
    obtain ⟨result, st'⟩ := r
    have hst' : afterCall settings st c = st' := by simp [afterCall, hcall]
    rw [hst'] at h ⊢
    cases hostedCall_outcome hcall with
    | replayed => simp at h
    | created creation => exact ⟨_, creation.event, rfl, creation.events⟩
    | advanced advance => exact ⟨_, advance.event, rfl, advance.events⟩

/-! ### What an accepted call answers -/

/-- **A call that extended the log.** The event it wrote, the receipt it answered with, the message
row if there is one, and the head after it carry one version pair. -/
structure Extends (method : GroupMethod) (st : Store) (result : Obj) (st' : Store)
    (e : HostedEvent) (head : HostedGroup) : Prop where
  events : st'.hostedGroupEvents = st.hostedGroupEvents ++ [e]
  found : st'.hostedGroup? e.groupDid = some head
  method_eq : e.subjectMethod = method
  version : e.groupStateVersion = head.groupStateVersion
  seq : e.groupEventSeq = head.groupEventSeq
  reports : Reports result e.receipt head.groupStateVersion head.groupEventSeq
  messages : ∃ new, st'.hostedGroupMessages = st.hostedGroupMessages ++ new ∧
    ∀ m ∈ new, (m.groupDid, m.groupEventSeq) = e.key ∧ m.receipt = e.receipt
  /-- A message advances the event counter alone. -/
  send : method = .send → ∃ before, st.hostedGroup? e.groupDid = some before ∧
    head.groupStateVersion = before.groupStateVersion ∧
    head.groupEventSeq = before.groupEventSeq + 1
  others : ∀ g ∈ st.hostedGroups, g.groupDid ≠ e.groupDid → g ∈ st'.hostedGroups

/-- A creation answers with its event, -/
theorem Creation.extends {settings : Settings} {st st' : Store} (c : Creation settings st st')
    (hkeyed : Table.Keyed HostedGroup.groupDid st'.hostedGroups) :
    Extends .create st c.result st' c.event c.group := by
  have hdid : c.event.groupDid = c.group.groupDid := congrArg Prod.fst c.event_key
  have hseq : c.event.groupEventSeq = 1 := congrArg Prod.snd c.event_key
  have hmem : c.group ∈ st'.hostedGroups := by simp [c.groups]
  refine {
    events := c.events
    found := by rw [hdid]; exact hkeyed.row?_of_mem hmem
    method_eq := c.event_method
    version := c.event_version.trans c.version.symm
    seq := hseq.trans c.eventSeq.symm
    reports := ?_
    messages := ⟨[], by simp [c.messages], by simp⟩
    send := by simp
    others := fun g hg _ ↦ by rw [c.groups]; exact List.mem_append_left _ hg }
  rw [c.event_receipt, c.version, c.eventSeq]
  exact c.result_reports

/-- and so does an advance. -/
theorem Advance.extends {settings : Settings} {st st' : Store} (a : Advance settings st st') :
    Extends a.ctx.method st a.result st' a.event
      (advanceHead a.update (nextVersion a.ctx.method a.group.groupStateVersion)
        (a.group.groupEventSeq + 1) a.now a.group) := by
  have hdid : a.event.groupDid = a.group.groupDid := congrArg Prod.fst a.event_key
  refine {
    events := a.events
    found := ?_
    method_eq := a.event_method
    version := a.event_version
    seq := congrArg Prod.snd a.event_key
    reports := a.event_receipt ▸ a.result_reports
    messages := ⟨a.message.toList, a.messages, fun m hm ↦ ?_⟩
    send := fun hsend ↦ ⟨a.group, hdid ▸ a.found, ?_, rfl⟩
    others := fun g hg hne ↦ ?_ }
  · have hhead := hostedGroup?_writeHead a.update
      (nextVersion a.ctx.method a.group.groupStateVersion) (a.group.groupEventSeq + 1) a.now a.found
    rw [hdid]
    unfold Store.hostedGroup? at *
    rw [a.groups]
    exact hhead
  · have hm' : m ∈ a.message := by simpa using hm
    exact ⟨a.message_key m hm', (a.message_receipt m hm').trans a.event_receipt.symm⟩
  · simp [advanceHead, nextVersion, hsend]
  · rw [a.groups, writeHead, Table.mem_updateWhere]
    rw [hdid] at hne
    exact ⟨g, hg, by simp [hne]⟩

/-- The answer of a call is either that of an earlier event of the same method, or it extends the
log. -/
theorem HostLogInv.call {settings : Settings} {st st' : Store} {c : HostedCall} {result : Obj}
    (hi : HostLogInv st) (hseen : Past c.seen st) (hreplayed : Past c.replayed st)
    (h : hostedCall settings st c = .ok (result, st')) :
    (st' = st ∧ ∃ e ∈ st.hostedGroupEvents, e.subjectMethod = c.method ∧
        Reports result e.receipt e.groupStateVersion e.groupEventSeq) ∨
      ∃ e head, Extends c.method st result st' e head := by
  cases hostedCall_outcome h with
  | replayed s hs op hop hmethod hreplays =>
    -- What an unlocked read saw is still there.
    have hop' : op ∈ st.groupOperations := by
      simp only [List.mem_cons, List.not_mem_nil, or_false] at hs
      rcases hs with rfl | rfl | rfl
      · exact hseen.subset hop
      · exact hreplayed.subset hop
      · exact hop
    obtain ⟨e, he, hem, hreceipt, hversion, hseq⟩ := hi.operations op hop'
    refine .inl ⟨rfl, e, he, hem.trans hmethod, ?_, ?_, ?_⟩
    · rw [hreplays.1, hreceipt]
    · rw [hreplays.2.1, hversion]
    · rw [hreplays.2.2, hseq]
  | created creation hmethod =>
    have hkeyed := (hi.creation creation).groups_keyed
    exact .inr ⟨_, _, hmethod ▸ creation.extends hkeyed⟩
  | advanced advance hmethod => exact .inr ⟨_, _, hmethod ▸ advance.extends⟩

/-- **Head and log agree in every reachable state.** For every group of every reachable state: the
log is numbered `1, …, group_event_seq`; the state version is one plus the number of later events
that are not messages; each row carries the version the head had after its event, its receipt the
same pair, and versions do not decrease. Message rows carry the pair and the receipt of their event.
Every accepted call answers with the pair of a row of the log, and an extension of the log leaves
the head at the pair of the new row. Rows, once written, stay. -/
theorem hosted_head_agrees_with_log {settings : Settings} {w₀ w : HostWorld} (h₀ : w₀.Initial)
    (h : Reaches (HostStep settings) w₀ w) :
    (∀ g ∈ w.store.hostedGroups,
      (eventsOf w.store g.groupDid).map HostedEvent.groupEventSeq =
          List.range' 1 g.groupEventSeq ∧
        g.groupStateVersion =
          1 + ((eventsOf w.store g.groupDid).drop 1).countP HostedEvent.isStateChange ∧
        (∀ e ∈ eventsOf w.store g.groupDid,
          e.groupStateVersion = versionAfter (eventsOf w.store g.groupDid) e.groupEventSeq ∧
            Carries e.receipt e.groupStateVersion e.groupEventSeq ∧
            (e.subjectMethod = .create ↔ e.groupEventSeq = 1)) ∧
        (eventsOf w.store g.groupDid).Pairwise
          (fun e e' ↦ e.groupStateVersion ≤ e'.groupStateVersion)) ∧
    (∀ m ∈ w.store.hostedGroupMessages, ∃ e ∈ w.store.hostedGroupEvents,
      e.key = (m.groupDid, m.groupEventSeq) ∧ e.subjectMethod = .send ∧ m.receipt = e.receipt) ∧
    (∀ (c : HostedCall) (result : Obj) (st' : Store), Past c.seen w.store →
      Past c.replayed w.store → hostedCall settings w.store c = .ok (result, st') →
        (st' = w.store ∧ ∃ e ∈ w.store.hostedGroupEvents, e.subjectMethod = c.method ∧
            Reports result e.receipt e.groupStateVersion e.groupEventSeq) ∨
          ∃ e head, Extends c.method w.store result st' e head) ∧
    ∀ w', Reaches (HostStep settings) w w' → LogGrows w.store w'.store := by
  have hi := HostLogInv.reaches h₀ h
  refine ⟨fun g hg ↦ ?_, hi.messages, fun c result st' hseen hreplayed hcall ↦
    hi.call hseen hreplayed hcall, fun w' h' ↦ Reaches.logGrows h'⟩
  have hlog := hi.log g hg
  have hversion := hlog.version_eq
  rw [versionAfter, ← hlog.length_eq, List.take_length] at hversion
  exact ⟨hlog.seqs, hversion,
    fun e he ↦ ⟨hlog.event_version e he, hlog.event_receipt e he, hlog.creation e he⟩,
    hlog.pairwise_version⟩

/-- The sample Host: two events, at version 2. -/
theorem hosted_head_agrees_with_log_sample :
    HostWorld.sample.store.hostedGroups.map (fun g ↦ (g.groupStateVersion, g.groupEventSeq)) =
        [(2, 2)] ∧
      ∀ g ∈ HostWorld.sample.store.hostedGroups,
        (eventsOf HostWorld.sample.store g.groupDid).map HostedEvent.groupEventSeq =
          List.range' 1 g.groupEventSeq :=
  ⟨by decide +kernel, fun g hg ↦ ((hosted_head_agrees_with_log HostWorld.empty_initial
    HostWorld.sample_reached).1 g hg).1⟩

end Awiki
