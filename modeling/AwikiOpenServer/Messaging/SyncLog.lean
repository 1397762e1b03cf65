import Mathlib.Data.List.Range
import AwikiOpenServer.Messaging.SyncV2

/-!
# Numbers of the sync log

`add_sync_event` draws the next number of an owner's log and writes the row in the same statement
sequence, always under the write lock. So whatever a transaction does, the log grows by rows that
each took the next number of their owner (`SyncLogGrows`), and a log that is **gapless** stays so:
the numbers of an owner are `1, …, n` in the order of the rows.

Most writers append *announcements*: rows that can be rendered in any store and are not about a
watermark. What such a transaction does to the tables of this module is one relation,
`Store.Announces`, proved once per writer.

## Growth

`SyncLogGrows P` is the closure of "one row more, with the next number of its owner, in `P`". It is
reflexive and transitive, so a transaction that calls `add_sync_event` any number of times, for any
owners, is covered by composing; and gaplessness, what holds of every row, and that rows stay are
inductions over it, done once (`gaplessFor`, `forall_mem`, `exists_append`). The maximum a number is
drawn from is the length of a gapless log (`GaplessFor.nextNumber_eq`), which is all the arithmetic
there is.

## Rows that can be rendered

What the server writes is later handed to clients by functions that read the stored payload again,
and may stumble over what they find there. `Announcement` lists what is handed to `add_sync_event`
outside of the read-state handlers: a row about a group has a group that can be bound, whichever of
its three mentions is read. `SyncEvent.Wellformed` is the same of a stored row, or that it is the
wire form of a watermark. That every page of the log can be served rests on it.
-/

namespace Awiki

open Py

/-! ### Growth -/

/-- The rows of an owner, in the order they were written. -/
def ownLog (log : List SyncEvent) (owner : String) : List SyncEvent :=
  log.filter fun e ↦ decide (e.ownerDid = owner)

/-- Their numbers. -/
def logNumbers (log : List SyncEvent) (owner : String) : List ℕ :=
  (ownLog log owner).map SyncEvent.eventSeq

/-- The number `add_sync_event` draws. -/
def nextNumber (log : List SyncEvent) (owner : String) : ℕ := (logNumbers log owner).foldr max 0 + 1

/-- **How a log grows**: row by row, each with the next number of its owner, all of them in `P`. -/
inductive SyncLogGrows (P : SyncEvent → Prop) (log : List SyncEvent) : List SyncEvent → Prop where
  | refl : SyncLogGrows P log log
  | append {log' : List SyncEvent} (e : SyncEvent) (h : SyncLogGrows P log log')
      (hseq : e.eventSeq = nextNumber log' e.ownerDid) (hrow : P e) :
      SyncLogGrows P log (log' ++ [e])

namespace SyncLogGrows

variable {P Q : SyncEvent → Prop} {a b c : List SyncEvent}

/-- Nothing has been added. -/
theorem of_eq (h : b = a) : SyncLogGrows P a b := h ▸ .refl

/-- First the one, then the other. -/
theorem trans (hab : SyncLogGrows P a b) (hbc : SyncLogGrows P b c) : SyncLogGrows P a c := by
  induction hbc with
  | refl => exact hab
  | append e _ hseq hrow ih => exact ih.append e hseq hrow

/-- The rows of a log that grows may be asked for less. -/
theorem mono (h : SyncLogGrows P a b) (hPQ : ∀ e, P e → Q e) : SyncLogGrows Q a b := by
  induction h with
  | refl => exact .refl
  | append e _ hseq hrow ih => exact ih.append e hseq (hPQ e hrow)

/-- The old rows stay, and the new ones are in `P`. -/
theorem exists_append (h : SyncLogGrows P a b) : ∃ rows, b = a ++ rows ∧ ∀ e ∈ rows, P e := by
  induction h with
  | refl => exact ⟨[], by simp, by simp⟩
  | append e _ _ hrow ih =>
    obtain ⟨rows, rfl, hrows⟩ := ih
    refine ⟨rows ++ [e], by simp, fun e' he' ↦ ?_⟩
    rcases List.mem_append.mp he' with he' | he'
    · exact hrows e' he'
    · exact List.mem_singleton.mp he' ▸ hrow

/-- What holds of every row goes on to hold. -/
theorem forall_mem (h : SyncLogGrows P a b) (ha : ∀ e ∈ a, P e) : ∀ e ∈ b, P e := by
  obtain ⟨rows, rfl, hrows⟩ := h.exists_append
  intro e he
  exact (List.mem_append.mp he).elim (ha e) (hrows e)

end SyncLogGrows

/-! ### Gapless logs -/

/-- The rows of an owner are numbered `1, …, n`. -/
abbrev GaplessFor (log : List SyncEvent) (owner : String) : Prop :=
  logNumbers log owner = List.range' 1 (logNumbers log owner).length

/-- **A gapless log**: the rows of each owner are numbered `1, …, n`. -/
def Gapless (log : List SyncEvent) : Prop := ∀ owner, GaplessFor log owner

/-- An empty log is without gaps. -/
theorem Gapless.nil : Gapless [] := fun _ ↦ rfl

/-- The rows of an owner, in two logs one after the other. -/
theorem ownLog_append (a b : List SyncEvent) (owner : String) :
    ownLog (a ++ b) owner = ownLog a owner ++ ownLog b owner := List.filter_append ..

/-- And their numbers. -/
theorem logNumbers_append (a b : List SyncEvent) (owner : String) :
    logNumbers (a ++ b) owner = logNumbers a owner ++ logNumbers b owner := by
  simp [logNumbers, ownLog_append]

/-- The maximum of consecutive numbers from one is the last. -/
theorem foldr_max_range' (n : ℕ) : (List.range' 1 n).foldr max 0 = n := by
  refine le_antisymm (List.max_le_of_forall_le _ n fun k hk ↦ ?_) ?_
  · rw [List.mem_range'_1] at hk
    omega
  · cases n with
    | zero => exact Nat.zero_le _
    | succ n =>
      have hmem : n + 1 ∈ List.range' 1 (n + 1) := by
        rw [List.mem_range'_1]
        omega
      exact List.le_max_of_le hmem le_rfl

/-- The next number of a gapless log is one more than the rows it has. -/
theorem GaplessFor.nextNumber_eq {log : List SyncEvent} {owner : String}
    (h : GaplessFor log owner) : nextNumber log owner = (logNumbers log owner).length + 1 := by
  rw [nextNumber, h, foldr_max_range', List.length_range']

/-- **A gapless log stays gapless.** -/
theorem SyncLogGrows.gaplessFor {P : SyncEvent → Prop} {log log' : List SyncEvent} {owner : String}
    (h : SyncLogGrows P log log') (hlog : GaplessFor log owner) : GaplessFor log' owner := by
  induction h with
  | refl => exact hlog
  | append e _ hseq _ ih =>
    rw [GaplessFor, logNumbers_append]
    by_cases howner : e.ownerDid = owner
    · have hone : logNumbers [e] owner = [e.eventSeq] := by simp [logNumbers, ownLog, howner]
      rw [hone, List.length_append, List.length_singleton, List.range'_concat, ← ih, hseq,
        howner, ih.nextNumber_eq]
      simp [Nat.add_comm]
    · have hnone : logNumbers [e] owner = [] := by simp [logNumbers, ownLog, howner]
      rw [hnone, List.append_nil]
      exact ih

/-- So it is for every owner. -/
theorem SyncLogGrows.gapless {P : SyncEvent → Prop} {log log' : List SyncEvent}
    (h : SyncLogGrows P log log') (hlog : Gapless log) : Gapless log' := fun owner ↦
  h.gaplessFor (hlog owner)

/-! ### Announcements -/

/-- What is handed to `add_sync_event` outside the read-state handlers: nothing about a watermark,
and the group of a message or of a creation is a value that can be bound to a text column. -/
structure Announcement (eventType : String) (payload : Obj) : Prop where
  notReadState : eventType ≠ "read_state.updated" ∧ eventType ≠ "message.read_state_updated"
  groupDid : startsWith "group.message." eventType = true ∨ eventType = "group.created" →
    (eventGroupDid payload).bindable = true

/-- Entries of the other types say nothing a rendering could stumble over. -/
theorem Announcement.plain {eventType : String} {payload : Obj}
    (h : (eventType ≠ "read_state.updated" ∧ eventType ≠ "message.read_state_updated") ∧
      ¬ (startsWith "group.message." eventType = true ∨ eventType = "group.created")) :
    Announcement eventType payload :=
  ⟨h.1, fun hgroup ↦ absurd hgroup h.2⟩

/-- A row that announces something. -/
def SyncEvent.IsAnnouncement (e : SyncEvent) : Prop := Announcement e.eventType e.payload

/-- A row about a watermark, as `read_state_dto` words it. -/
structure SyncEvent.IsWatermark (e : SyncEvent) : Prop where
  eventType : e.eventType = "message.read_state_updated"
  threadKey : e.payload.has "thread_key" = true
  stateVersion : e.payload.has "state_version" = true

/-- A row the server writes. -/
def SyncEvent.Wellformed (e : SyncEvent) : Prop := e.IsAnnouncement ∨ e.IsWatermark

/-- A row all of whose mentions of a group can be bound. -/
theorem eventGroupDid_bindable {payload : Obj}
    (hmessage : ((memberOrEmpty payload "message").get "group_did").bindable = true)
    (hown : (payload.get "group_did").bindable = true)
    (hthread : ((memberOrEmpty payload "thread").get "group_did").bindable = true) :
    (eventGroupDid payload).bindable = true :=
  Json.bindable_orElse hmessage (Json.bindable_orElse hown hthread)

/-- Freezing the group does not change which group a row is about. -/
theorem eventGroupDid_syncPayload (st : Store) (owner eventType : String) (payload : Obj) :
    eventGroupDid (syncPayload st owner eventType payload) = eventGroupDid payload := by
  have hset : ∀ v, eventGroupDid (payload.set "_sync_group" v) = eventGroupDid payload := by
    intro v
    simp only [eventGroupDid, memberOrEmpty]
    rw [Obj.get_set_of_ne _ _ (by decide), Obj.get_set_of_ne _ _ (by decide),
      Obj.get_set_of_ne _ _ (by decide)]
  unfold syncPayload
  split
  · split
    · split
      · exact hset _
      · rfl
    · rfl
  · rfl

/-- The row `add_sync_event` writes took the next number of its owner. -/
theorem addSyncEvent_grows {P : SyncEvent → Prop} {st : Store} {owner eventType now : String}
    {payload : Obj}
    (hrow : ∀ e : SyncEvent, e.eventType = eventType →
      e.payload = syncPayload st owner eventType payload → P e) :
    SyncLogGrows P st.syncEvents (addSyncEvent st owner eventType payload now).syncEvents :=
  .append _ .refl rfl (hrow _ rfl rfl)

/-- An announcement is one row more. -/
theorem addSyncEvent_grows_announcement {st : Store} {owner eventType now : String}
    {payload : Obj} (h : Announcement eventType payload) :
    SyncLogGrows SyncEvent.IsAnnouncement st.syncEvents
      (addSyncEvent st owner eventType payload now).syncEvents := by
  refine addSyncEvent_grows fun e htype hpayload ↦ ⟨htype ▸ h.notReadState, fun hgroup ↦ ?_⟩
  rw [hpayload, eventGroupDid_syncPayload]
  exact h.groupDid (htype ▸ hgroup)

/-! ### Transactions that only announce -/

/-- **What a transaction outside the read-state handlers does to the log** and to the tables that go
with it. -/
structure Store.Announces (st st' : Store) : Prop where
  log : SyncLogGrows SyncEvent.IsAnnouncement st.syncEvents st'.syncEvents
  threadReadStates : st'.threadReadStates = st.threadReadStates
  directConversationRefs : st'.directConversationRefs = st.directConversationRefs
  groupProtocolMigrations : st'.groupProtocolMigrations = st.groupProtocolMigrations

namespace Store.Announces

/-- A transaction may write nothing. -/
theorem refl (st : Store) : st.Announces st := ⟨.refl, rfl, rfl, rfl⟩

/-- One transaction after the other. -/
theorem trans {a b c : Store} (hab : a.Announces b) (hbc : b.Announces c) : a.Announces c where
  log := hab.log.trans hbc.log
  threadReadStates := hbc.threadReadStates.trans hab.threadReadStates
  directConversationRefs := hbc.directConversationRefs.trans hab.directConversationRefs
  groupProtocolMigrations := hbc.groupProtocolMigrations.trans hab.groupProtocolMigrations

/-- An announcement announces. -/
theorem addSyncEvent (st : Store) {owner eventType now : String} {payload : Obj}
    (h : Announcement eventType payload) :
    st.Announces (addSyncEvent st owner eventType payload now) :=
  ⟨addSyncEvent_grows_announcement h, rfl, rfl, rfl⟩

end Store.Announces

end Awiki
