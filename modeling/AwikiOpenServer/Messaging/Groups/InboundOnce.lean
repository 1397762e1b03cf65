import AwikiOpenServer.Messaging.Groups.HomeVersions

/-!
# A notification takes effect at most once

A Host repeats a notification until it is answered, and anybody can send one that will be refused.
The Home keeps a marker per `(source service, group, event, target, method)`. It is written
**before** the last checks, so two things have to fit: every refusal after it must undo it, and
every answer after it must keep it.

A refusal is an exception and leaves through the rollback of the connection, so it leaves nothing;
an acceptance is one of three kinds (`InboundOutcome`): a repetition of a marked notification, which
changes nothing, or a first one, which adds the marker and at most one event and one message, or a
first one that is only marked. At most one effect per marker follows over whole runs, whatever other
requests write in between (`inbound_effects_at_most_once`).

The peer, the receipt and the proof are checked over the network and **before** the transaction is
open. The checks therefore run against a store of their own (`seen`), which may be any earlier one.

## Runs

An action is a notification of either kind, with the store its checks have seen, or the write of any
other request, which is any function of the store that leaves the markers alone (`OtherWrite`). That
the other writers of a Home are such functions is shown for those that come closest: an answer that
is applied, and a roster read. A run is a list of actions, and the effects of a key over a run are
what the notifications with that key append to the log and to the messages (`appendedBy`).

The induction has two phases. Until a notification with the key is accepted nothing is appended
under it, and the first that is accepted appends one row of either kind at most and leaves a marker.
From then on the marker stays, and a notification that finds its marker changes nothing
(`Store.Marked.unchanged`).
-/

namespace Awiki

open Py Runs

/-! ### Checks and transaction -/

/-- A state change whose peer and receipt have been checked. -/
structure VerifiedStateChange where
  n : Notification
  receipt : Obj
  eventType : String
  changedAt : String
  stateVersion : ℤ
  eventSeq : ℤ

/-- The part of `group_state_changed` before its transaction. -/
def verifyStateChanged (settings : Settings) (seen : Store) (req : Request) (params : Obj) :
    Result VerifiedStateChange := do
  let n ← notificationContext settings seen req params .stateChanged
  let (receipt, stateVersion, eventSeq) ← verifiedReceipt seen req n.body .stateChanged
  let eventType ← requireNonEmpty (n.body.get "event_type") "group.event_type_required"
  let changedAt ← requireNonEmpty (n.body.get "changed_at") "group.changed_at_required"
  return { n, receipt, eventType, changedAt, stateVersion, eventSeq }

/-- The part of `group_incoming` before its transaction. -/
def verifyIncoming (settings : Settings) (seen : Store) (req : Request) (params : Obj) :
    Result (Notification × IncomingMessage) := do
  let n ← notificationContext settings seen req params .incoming
  let m ← verifiedIncoming seen req params n
  return (n, m)

/-- A write of any other request: it leaves the markers alone. -/
structure OtherWrite where
  write : Store → Store
  inboundPeerEvents_write : ∀ st, (write st).inboundPeerEvents = st.inboundPeerEvents

/-- What happens at a Home, one transaction at a time. A notification brings the store its checks
were made against. -/
inductive InboundAction where
  | stateChanged (seen : Store) (req : Request) (params : Obj)
  | incoming (seen : Store) (req : Request) (params : Obj)
  | other (w : OtherWrite)

/-- The answer to an action and the store it commits. -/
def inboundCall (settings : Settings) (st : Store) : InboundAction → Result (Obj × Store)
  | .stateChanged seen req params => do
    let v ← verifyStateChanged settings seen req params
    applyStateChanged st req v.n v.receipt v.eventType v.changedAt v.stateVersion v.eventSeq
  | .incoming seen req params => do
    let (n, m) ← verifyIncoming settings seen req params
    applyIncoming st req n m
  | .other w => .ok ([], w.write st)

/-- Against one store this is `group_state_changed`. -/
theorem inboundCall_stateChanged (settings : Settings) (st : Store) (req : Request) (params : Obj) :
    inboundCall settings st (.stateChanged st req params) =
      groupStateChanged settings st req params := by
  simp only [inboundCall, verifyStateChanged, groupStateChanged, bind_assoc, pure_bind]

/-- Against one store this is `group_incoming`. -/
theorem inboundCall_incoming (settings : Settings) (st : Store) (req : Request) (params : Obj) :
    inboundCall settings st (.incoming st req params) = groupIncoming settings st req params := by
  simp only [inboundCall, verifyIncoming, groupIncoming, bind_assoc, pure_bind]

/-- The store after an action: a refusal rolls back. -/
def afterInbound (settings : Settings) (st : Store) (a : InboundAction) : Store :=
  match inboundCall settings st a with
  | .ok (_, st') => st'
  | .error _ => st

/-- The store after a run of actions. -/
def inboundRun (settings : Settings) (st : Store) (actions : List InboundAction) : Store :=
  actions.foldl (afterInbound settings) st

/-- The action is refused in this store. -/
def InboundAction.Refused (settings : Settings) (st : Store) (a : InboundAction) : Prop :=
  ∃ e, inboundCall settings st a = .error e

/-- What a notification is marked under. -/
abbrev InboundKey := String × String × ℤ × String × GroupMethod

/-- The key of a notification that passes its checks. -/
def InboundAction.key? (settings : Settings) : InboundAction → Option InboundKey
  | .stateChanged seen req params =>
    match verifyStateChanged settings seen req params with
    | .ok v => v.n.peer.map fun source ↦
        (source, v.n.groupDid, v.eventSeq, v.n.targetDid, .stateChanged)
    | .error _ => none
  | .incoming seen req params =>
    match verifyIncoming settings seen req params with
    | .ok (n, m) => n.peer.map fun source ↦
        (source, n.groupDid, m.eventSeq, n.targetDid, .incoming)
    | .error _ => none
  | .other _ => none

/-! ### What an accepted notification does -/

/-- Nothing, or one more at the end. -/
def AppendsAtMostOne {α : Type} (l l' : List α) : Prop := l' = l ∨ ∃ a, l' = l ++ [a]

/-- **What an accepted notification does**: nothing, when it was marked before; else it is marked,
and adds at most one event and at most one message. -/
inductive InboundOutcome (key : InboundKey) (st st' : Store) : Prop where
  | repeated (hmarked : (Table.row? InboundPeerEvent.key key st.inboundPeerEvents).isSome = true)
      (hsame : st' = st)
  | first (row : InboundPeerEvent) (hkey : row.key = key)
      (hfresh : Table.row? InboundPeerEvent.key key st.inboundPeerEvents = none)
      (hmarked : st'.inboundPeerEvents = st.inboundPeerEvents ++ [row])
      (hevents : AppendsAtMostOne st.syncEvents st'.syncEvents)
      (hviews : AppendsAtMostOne st.groupMessageViews st'.groupMessageViews)

section Outcomes

variable {st st' : Store} {req : Request}

/-- A marker is only written where there is none, and a repetition has one. -/
theorem recordInbound_eq_ok {n : Notification} {method : GroupMethod} {eventSeq : ℤ}
    {recorded : Option Store} (h : recordInbound st req n method eventSeq = .ok recorded) :
    ∃ source, n.peer = some source ∧
      match recorded with
      | none => (Table.row? InboundPeerEvent.key
          (source, n.groupDid, eventSeq, n.targetDid, method) st.inboundPeerEvents).isSome = true
      | some st₁ => ∃ row : InboundPeerEvent,
          row.key = (source, n.groupDid, eventSeq, n.targetDid, method) ∧
          Table.row? InboundPeerEvent.key (source, n.groupDid, eventSeq, n.targetDid, method)
            st.inboundPeerEvents = none ∧
          st₁ = { st with inboundPeerEvents := st.inboundPeerEvents ++ [row] } := by
  unfold recordInbound at h
  obtain ⟨source, hsource, h⟩ := bind_eq_ok.mp h
  obtain ⟨digest, -, h⟩ := bind_eq_ok.mp h
  refine ⟨source, orRaise_eq_ok.mp hsource, ?_⟩
  split at h
  · rename_i existing hrow
    obtain ⟨_, -, h⟩ := bind_eq_ok.mp h
    obtain rfl := pure_eq_ok.mp h
    rw [hrow]
    rfl
  · rename_i hrow
    obtain rfl := pure_eq_ok.mp h
    exact ⟨_, rfl, hrow, rfl⟩

/-- **The outcome of a state change.** -/
theorem applyStateChanged_outcome {n : Notification} {receipt result : Obj}
    {eventType changedAt : String} {v s : ℤ}
    (h : applyStateChanged st req n receipt eventType changedAt v s = .ok (result, st')) :
    ∃ source, n.peer = some source ∧
      InboundOutcome (source, n.groupDid, s, n.targetDid, .stateChanged) st st' := by
  unfold applyStateChanged at h
  obtain ⟨_, -, h⟩ := bind_eq_ok.mp h
  obtain ⟨recorded, hrecorded, h⟩ := bind_eq_ok.mp h
  obtain ⟨source, hsource, hrecorded⟩ := recordInbound_eq_ok hrecorded
  refine ⟨source, hsource, ?_⟩
  cases recorded with
  | none =>
    rw [pure_eq_ok, Prod.mk.injEq] at h
    exact .repeated hrecorded h.2.symm
  | some st₁ =>
    obtain ⟨row, hkey, hfresh, rfl⟩ := hrecorded
    obtain ⟨passed, -, h⟩ := bind_eq_ok.mp h
    cases passed with
    | superseded =>
      rw [pure_eq_ok, Prod.mk.injEq] at h
      obtain ⟨-, rfl⟩ := h
      exact .first row hkey hfresh rfl (.inl rfl) (.inl rfl)
    | overtaken =>
      rw [pure_eq_ok, Prod.mk.injEq] at h
      obtain ⟨-, rfl⟩ := h
      exact .first row hkey hfresh rfl (.inl rfl) (.inl rfl)
    | applies =>
      obtain ⟨peer, -, h⟩ := bind_eq_ok.mp h
      obtain ⟨st₂, hsubject, h⟩ := bind_eq_ok.mp h
      obtain ⟨rows, rfl⟩ := projectSubject_eq_ok hsubject
      rw [pure_eq_ok, Prod.mk.injEq] at h
      obtain ⟨-, rfl⟩ := h
      exact .first row hkey hfresh rfl (.inr ⟨_, rfl⟩) (.inl rfl)

/-- **The outcome of a message.** -/
theorem applyIncoming_outcome {n : Notification} {m : IncomingMessage} {result : Obj}
    (h : applyIncoming st req n m = .ok (result, st')) :
    ∃ source, n.peer = some source ∧
      InboundOutcome (source, n.groupDid, m.eventSeq, n.targetDid, .incoming) st st' := by
  unfold applyIncoming at h
  obtain ⟨view, -, h⟩ := bind_eq_ok.mp h
  obtain ⟨beforeTerminal, -, h⟩ := bind_eq_ok.mp h
  obtain ⟨_, -, h⟩ := bind_eq_ok.mp h
  obtain ⟨_, -, h⟩ := bind_eq_ok.mp h
  obtain ⟨recorded, hrecorded, h⟩ := bind_eq_ok.mp h
  obtain ⟨source, hsource, hrecorded⟩ := recordInbound_eq_ok hrecorded
  refine ⟨source, hsource, ?_⟩
  cases recorded with
  | none =>
    rw [pure_eq_ok, Prod.mk.injEq] at h
    exact .repeated hrecorded h.2.symm
  | some st₁ =>
    obtain ⟨row, hkey, hfresh, rfl⟩ := hrecorded
    obtain ⟨_, -, h⟩ := bind_eq_ok.mp h
    obtain ⟨st₂, hinsert, h⟩ := bind_eq_ok.mp h
    unfold insertMessageView at hinsert
    obtain ⟨_, -, hinsert⟩ := bind_eq_ok.mp hinsert
    obtain rfl := pure_eq_ok.mp hinsert
    rw [pure_eq_ok, Prod.mk.injEq] at h
    obtain ⟨-, rfl⟩ := h
    exact .first row hkey hfresh rfl (.inr ⟨_, rfl⟩) (.inr ⟨_, rfl⟩)

end Outcomes

variable {settings : Settings} {st st' : Store} {a : InboundAction} {key : InboundKey}

/-- **The step lemma.** An accepted action is a notification with its outcome, or the write of
another request. -/
theorem inboundCall_eq_ok {result : Obj} (h : inboundCall settings st a = .ok (result, st')) :
    (∃ key, a.key? settings = some key ∧ InboundOutcome key st st') ∨
      a.key? settings = none ∧ st'.inboundPeerEvents = st.inboundPeerEvents := by
  cases a with
  | stateChanged seen req params =>
    obtain ⟨v, hv, h⟩ := bind_eq_ok.mp h
    obtain ⟨source, hsource, houtcome⟩ := applyStateChanged_outcome h
    refine .inl ⟨_, ?_, houtcome⟩
    simp [InboundAction.key?, hv, hsource]
  | incoming seen req params =>
    obtain ⟨⟨n, m⟩, hv, h⟩ := bind_eq_ok.mp h
    obtain ⟨source, hsource, houtcome⟩ := applyIncoming_outcome h
    refine .inl ⟨_, ?_, houtcome⟩
    simp [InboundAction.key?, hv, hsource]
  | other w =>
    obtain ⟨-, rfl⟩ := Prod.mk.inj (Except.ok.inj h)
    exact .inr ⟨rfl, w.inboundPeerEvents_write st⟩

/-! ### The other requests of a Home -/

section Others

variable {req : Request} {result receipt : Obj} {c : ForwardedCommand}

/-- The tables an answer of a remote Host is applied to. -/
def Store.withForwarded (st : Store) (ops : List GroupOperation) (views : List GroupView)
    (rows : List GroupMemberView) (messages : List GroupMessageView) : Store :=
  { st with
    groupOperations := ops
    groupViews := views
    groupMemberViews := rows
    groupMessageViews := messages }

/-- An answer may be kept. -/
theorem recordIfV2_writes (h : recordIfV2 st req c result receipt = .ok st') :
    ∃ ops, st.groupOperations <+: ops ∧ st' = { st with groupOperations := ops } := by
  unfold recordIfV2 recordForwarded at h
  split at h
  · obtain ⟨digest, -, h⟩ := bind_eq_ok.mp h
    split at h
    · obtain ⟨_, -, h⟩ := bind_eq_ok.mp h
      exact ⟨_, List.prefix_rfl, (pure_eq_ok.mp h).symm⟩
    · obtain ⟨payloadDigest, -, h⟩ := bind_eq_ok.mp h
      obtain ⟨acceptedAt, -, h⟩ := bind_eq_ok.mp h
      obtain ⟨createdAt, -, h⟩ := bind_eq_ok.mp h
      exact ⟨_, List.prefix_append _ _, (pure_eq_ok.mp h).symm⟩
  · exact ⟨_, List.prefix_rfl, (Except.ok.inj h).symm⟩

/-- A view may be ended. -/
theorem endView_writes {ownerDid groupDid : String} {status : ViewStatus} {v s : ℤ}
    {updatedAt : Option String} (h : endView st ownerDid groupDid status v s updatedAt = .ok st') :
    ∃ views, st' = { st with groupViews := views } := by
  unfold endView at h
  split at h
  · split at h
    · obtain ⟨time, -, h⟩ := bind_eq_ok.mp h
      exact ⟨_, (pure_eq_ok.mp h).symm⟩
    · exact ⟨st.groupViews, (Except.ok.inj h).symm⟩
  · exact ⟨st.groupViews, (Except.ok.inj h).symm⟩

/-- The answer to a leave or a removal writes views. -/
theorem applyEnding_writes (h : applyEnding settings st req c result receipt = .ok st') :
    ∃ views, st' = { st with groupViews := views } := by
  unfold applyEnding at h
  split at h
  · obtain ⟨⟨v, s⟩, -, h⟩ := bind_eq_ok.mp h
    obtain ⟨updatedAt, -, h⟩ := bind_eq_ok.mp h
    exact endView_writes h
  · dsimp only at h
    split at h
    · obtain ⟨⟨v, s⟩, -, h⟩ := bind_eq_ok.mp h
      obtain ⟨updatedAt, -, h⟩ := bind_eq_ok.mp h
      exact endView_writes h
    · exact ⟨st.groupViews, (Except.ok.inj h).symm⟩

/-- The answer to a rebind writes views, rosters and messages. -/
theorem applyRebind_writes (h : applyRebind st req c result receipt = .ok st') :
    ∃ views rows messages, st' = st.withForwarded st.groupOperations views rows messages := by
  unfold applyRebind at h
  dsimp only at h
  split at h
  · obtain ⟨updatedAt, -, h⟩ := bind_eq_ok.mp h
    obtain ⟨st₁, hmove, h⟩ := bind_eq_ok.mp h
    obtain ⟨st₂, hmembers, h⟩ := bind_eq_ok.mp h
    have hviews : ∃ views, st₁ = { st with groupViews := views } := by
      unfold moveView at hmove
      split at hmove
      · obtain ⟨time, -, hmove⟩ := bind_eq_ok.mp hmove
        obtain ⟨_, -, hmove⟩ := bind_eq_ok.mp hmove
        exact ⟨_, (pure_eq_ok.mp hmove).symm⟩
      · exact ⟨st.groupViews, (Except.ok.inj hmove).symm⟩
    obtain ⟨views, rfl⟩ := hviews
    obtain ⟨_, -, hmembers⟩ := bind_eq_ok.mp hmembers
    obtain rfl := pure_eq_ok.mp hmembers
    obtain ⟨_, -, h⟩ := bind_eq_ok.mp h
    obtain rfl := pure_eq_ok.mp h
    exact ⟨_, _, _, rfl⟩
  · exact ⟨_, _, _, (Except.ok.inj h).symm⟩

/-- **What a forwarded command writes** once the Host has answered. -/
theorem forwardGroupCommand_writes {params answer : Obj} {method : GroupMethod}
    (h : forwardGroupCommand settings st req params method result = .ok (answer, st')) :
    ∃ ops views rows messages, st.groupOperations <+: ops ∧
      st' = st.withForwarded ops views rows messages := by
  unfold forwardGroupCommand at h
  obtain ⟨c, -, h⟩ := bind_eq_ok.mp h
  split at h
  · obtain ⟨receipt, -, h⟩ := bind_eq_ok.mp h
    obtain ⟨st₁, happly, h⟩ := bind_eq_ok.mp h
    rw [pure_eq_ok, Prod.mk.injEq] at h
    obtain ⟨-, rfl⟩ := h
    unfold applyTerminalProjection at happly
    split at happly
    · obtain ⟨st₂, hrecord, happly⟩ := bind_eq_ok.mp happly
      obtain ⟨ops, hops, rfl⟩ := recordIfV2_writes hrecord
      obtain ⟨views, rfl⟩ := applyEnding_writes happly
      exact ⟨_, _, _, _, hops, rfl⟩
    · split at happly
      · obtain ⟨views, rows, messages, rfl⟩ := applyRebind_writes happly
        exact ⟨_, _, _, _, List.prefix_rfl, rfl⟩
      · exact ⟨_, _, _, _, List.prefix_rfl, (Except.ok.inj happly).symm⟩
  · rw [pure_eq_ok, Prod.mk.injEq] at h
    exact ⟨_, _, _, _, List.prefix_rfl, h.2.symm⟩

/-- A forwarded command, with the answer of its Host. -/
def OtherWrite.forward (settings : Settings) (req : Request) (params : Obj) (method : GroupMethod)
    (result : Obj) : OtherWrite where
  write st := afterHome settings st (.forward req params method result)
  inboundPeerEvents_write st := by
    unfold afterHome
    cases hcall : homeCall settings st (.forward req params method result) with
    | error e => rfl
    | ok st' =>
      obtain ⟨answer, hforward⟩ := map_snd_eq_ok hcall
      obtain ⟨ops, views, rows, messages, -, rfl⟩ := forwardGroupCommand_writes hforward
      rfl

/-- A roster read, with the answer of the Host. -/
def OtherWrite.refresh (settings : Settings) (req : Request) (groupDid : String) (result : Obj) :
    OtherWrite where
  write st := afterHome settings st (.refresh req groupDid result)
  inboundPeerEvents_write st := by
    unfold afterHome
    cases hcall : homeCall settings st (.refresh req groupDid result) with
    | error e => rfl
    | ok st' =>
      obtain ⟨refreshed, hrefresh⟩ := map_snd_eq_ok hcall
      unfold refreshRemoteGroupMembers at hrefresh
      obtain ⟨authenticated, -, hrefresh⟩ := bind_eq_ok.mp hrefresh
      obtain ⟨ownerDid, -, hrefresh⟩ := bind_eq_ok.mp hrefresh
      obtain ⟨service, -, hrefresh⟩ := bind_eq_ok.mp hrefresh
      obtain ⟨_, -, hrefresh⟩ := bind_eq_ok.mp hrefresh
      obtain ⟨hostServiceDid, -, hrefresh⟩ := bind_eq_ok.mp hrefresh
      obtain ⟨profile, -, hrefresh⟩ := bind_eq_ok.mp hrefresh
      obtain ⟨snapshot, hsnapshot, hrefresh⟩ := bind_eq_ok.mp hrefresh
      have hgroup := (validatedMemberSnapshot_eq_ok hsnapshot).1
      rcases refreshRemoteMemberProjection_eq_ok hgroup hrefresh with
        rfl | ⟨view, stateVersion, eventSeq, memberRole, rows, log, issued, -, -, -, -, -, -,
          -, rfl⟩
      · rfl
      · rfl

end Others

/-! ### Markers stay -/

/-- The notification with this key was accepted before. -/
def Store.Marked (st : Store) (key : InboundKey) : Prop :=
  (Table.row? InboundPeerEvent.key key st.inboundPeerEvents).isSome = true

/-- Whatever was accepted is marked. -/
theorem InboundOutcome.marked (h : InboundOutcome key st st') : st'.Marked key := by
  cases h with
  | repeated hmarked hsame => exact hsame ▸ hmarked
  | first row hkey hfresh hmarked hevents hviews =>
    rw [Store.Marked, hmarked, Table.row?_append, hfresh]
    simp [hkey]

/-- A marker stays, whatever happens next, -/
theorem Store.Marked.afterInbound (h : st.Marked key) :
    (afterInbound settings st a).Marked key := by
  unfold Awiki.afterInbound
  split
  · rename_i result st' hcall
    rcases inboundCall_eq_ok hcall with ⟨key', -, houtcome⟩ | ⟨-, hsame⟩
    · cases houtcome with
      | repeated hmarked hsame => exact hsame ▸ h
      | first row hkey hfresh hmarked hevents hviews =>
        obtain ⟨old, hold⟩ := Option.isSome_iff_exists.mp h
        rw [Store.Marked, hmarked, Table.row?_append, hold]
        rfl
    · rw [Store.Marked, hsame]
      exact h
  · exact h

/-- over a whole run. -/
theorem Store.Marked.run (h : st.Marked key) (actions : List InboundAction) :
    (inboundRun settings st actions).Marked key := by
  induction actions generalizing st with
  | nil => exact h
  | cons a actions ih => exact ih h.afterInbound

/-- A marked notification changes nothing, whatever its body says now. -/
theorem Store.Marked.unchanged (h : st.Marked key) (hkey : a.key? settings = some key) :
    Awiki.afterInbound settings st a = st := by
  unfold Awiki.afterInbound
  split
  · rename_i result st' hcall
    rcases inboundCall_eq_ok hcall with ⟨key', hkey', houtcome⟩ | ⟨hnone, -⟩
    · obtain rfl : key = key' := Option.some.inj (hkey.symm.trans hkey')
      cases houtcome with
      | repeated hmarked hsame => exact hsame
      | first row hkey hfresh hmarked hevents hviews =>
        rw [Store.Marked, hfresh] at h
        cases h
    · rw [hkey] at hnone
      cases hnone
  · rfl

/-! ### Effects over a run -/

/-- What the notifications with this key append to a table in the course of a run. -/
def appendedBy {α : Type} (table : Store → List α) (settings : Settings) (key : InboundKey) :
    Store → List InboundAction → List α
  | _, [] => []
  | st, a :: rest =>
    let st' := afterInbound settings st a
    (if a.key? settings = some key then (table st').drop (table st).length else []) ++
      appendedBy table settings key st' rest

/-- Under a marked key nothing more is appended. -/
theorem appendedBy_of_marked {α : Type} (table : Store → List α) (h : st.Marked key)
    (actions : List InboundAction) : appendedBy table settings key st actions = [] := by
  induction actions generalizing st with
  | nil => rfl
  | cons a actions ih =>
    rw [appendedBy]
    rw [ih h.afterInbound, List.append_nil]
    split
    · rename_i hkey
      rw [h.unchanged hkey, List.drop_length]
    · rfl

/-- A table that accepted notifications append to at most once, over a whole run. -/
theorem length_appendedBy_le {α : Type} {table : Store → List α}
    (htable : ∀ {key st st'}, InboundOutcome key st st' → AppendsAtMostOne (table st) (table st'))
    (settings : Settings) (key : InboundKey) (st : Store) (actions : List InboundAction) :
    (appendedBy table settings key st actions).length ≤ 1 := by
  induction actions generalizing st with
  | nil => exact Nat.zero_le _
  | cons a actions ih =>
    rw [appendedBy]
    split
    · rename_i hkey
      unfold afterInbound
      cases hcall : inboundCall settings st a with
      | error e => simpa using ih st
      | ok r =>
        obtain ⟨result, st'⟩ := r
        rcases inboundCall_eq_ok hcall with ⟨key', hkey', houtcome⟩ | ⟨hnone, -⟩
        · obtain rfl : key = key' := Option.some.inj (hkey.symm.trans hkey')
          rw [appendedBy_of_marked table houtcome.marked, List.append_nil]
          rcases htable houtcome with hsame | ⟨e, hone⟩
          · simp [hsame]
          · simp [hone]
        · rw [hkey] at hnone
          cases hnone
    · exact ih _

/-- An accepted notification adds one event at most, -/
theorem InboundOutcome.events (h : InboundOutcome key st st') :
    AppendsAtMostOne st.syncEvents st'.syncEvents := by
  cases h with
  | repeated hmarked hsame => exact .inl (by rw [hsame])
  | first row hkey hfresh hmarked hevents hviews => exact hevents

/-- and one message at most. -/
theorem InboundOutcome.views (h : InboundOutcome key st st') :
    AppendsAtMostOne st.groupMessageViews st'.groupMessageViews := by
  cases h with
  | repeated hmarked hsame => exact .inl (by rw [hsame])
  | first row hkey hfresh hmarked hevents hviews => exact hviews

/-- One run after the other. -/
theorem inboundRun_append (settings : Settings) (st : Store) (as bs : List InboundAction) :
    inboundRun settings st (as ++ bs) = inboundRun settings (inboundRun settings st as) bs :=
  List.foldl_append

/-- An action, and the rest of the run. -/
theorem inboundRun_cons (settings : Settings) (st : Store) (a : InboundAction)
    (as : List InboundAction) :
    inboundRun settings st (a :: as) = inboundRun settings (afterInbound settings st a) as := rfl

/-- A refusal leaves no trace. -/
theorem InboundAction.Refused.unchanged (h : a.Refused settings st) :
    afterInbound settings st a = st := by
  obtain ⟨e, he⟩ := h
  rw [afterInbound, he]

/-- **Notifications take effect at most once, and refusals leave no trace.** From every store and
for every run of notifications and writes of other requests, in any order:

* the notifications of one key append at most one sync event and at most one message;
* once one of them was accepted, another with the same key changes nothing, with the same body or a
  different one;
* a refused notification leaves the store as it was, and the run goes on as if it had never come. -/
theorem inbound_effects_at_most_once (settings : Settings) (st : Store) (key : InboundKey) :
    (∀ actions, (appendedBy Store.syncEvents settings key st actions).length ≤ 1 ∧
      (appendedBy Store.groupMessageViews settings key st actions).length ≤ 1) ∧
    (∀ before first between again, first.key? settings = some key →
      ¬ first.Refused settings (inboundRun settings st before) → again.key? settings = some key →
      inboundRun settings st (before ++ first :: between ++ [again]) =
        inboundRun settings st (before ++ first :: between)) ∧
    ∀ before refused after, refused.Refused settings (inboundRun settings st before) →
      inboundRun settings st (before ++ [refused]) = inboundRun settings st before ∧
      inboundRun settings st (before ++ refused :: after) =
        inboundRun settings st (before ++ after) := by
  refine ⟨fun actions ↦ ⟨?_, ?_⟩, fun before first between again hfirst haccepted hagain ↦ ?_,
    fun before refused after hrefused ↦ ⟨?_, ?_⟩⟩
  · exact length_appendedBy_le InboundOutcome.events settings key st actions
  · exact length_appendedBy_le InboundOutcome.views settings key st actions
  · have hmarked : (afterInbound settings (inboundRun settings st before) first).Marked key := by
      unfold afterInbound
      cases hcall : inboundCall settings (inboundRun settings st before) first with
      | error e => exact absurd ⟨e, hcall⟩ haccepted
      | ok r =>
        obtain ⟨result, st'⟩ := r
        rcases inboundCall_eq_ok hcall with ⟨key', hkey', houtcome⟩ | ⟨hnone, -⟩
        · obtain rfl : key = key' := Option.some.inj (hfirst.symm.trans hkey')
          exact houtcome.marked
        · rw [hfirst] at hnone
          cases hnone
    rw [inboundRun_append settings st (before ++ first :: between) [again],
      inboundRun_append settings st before, inboundRun_cons, inboundRun_cons]
    exact (hmarked.run between).unchanged hagain
  · rw [inboundRun_append, inboundRun_cons, hrefused.unchanged]
    rfl
  · rw [inboundRun_append, inboundRun_append, inboundRun_cons, hrefused.unchanged]

/-! ### A run of the sample Home -/

/-- Alice's joining, as the peer tells of it. -/
def joinedNotice : InboundAction :=
  .stateChanged sampleHome peerRequest
    (sampleNotificationParams (sampleEvent 3 5 "member-activated" "group.add" sampleJoined))

/-- An event for a group she does not know. -/
def strayNotice : InboundAction :=
  .stateChanged sampleHome peerRequest
    (sampleNotificationParams (sampleEvent 4 6 "profile-updated" "group.update_profile" []))

/-- A stray notice is refused and forgotten, and the joining that follows counts once although it
comes twice. -/
theorem inbound_effects_at_most_once_sample :
    ∃ key, joinedNotice.key? .sample = some key ∧
      inboundRun .sample sampleHome [strayNotice, joinedNotice, joinedNotice] =
        inboundRun .sample sampleHome [joinedNotice] ∧
      (appendedBy Store.syncEvents .sample key sampleHome
        [strayNotice, joinedNotice, joinedNotice]).length ≤ 1 := by
  have hkey : (joinedNotice.key? .sample).isSome = true := by decide +kernel
  obtain ⟨key, hkey⟩ := Option.isSome_iff_exists.mp hkey
  have hrefused : strayNotice.Refused .sample sampleHome := by
    have hcheck : (match inboundCall .sample sampleHome strayNotice with
      | .ok _ => false
      | .error _ => true) = true := by decide +kernel
    cases hcall : inboundCall .sample sampleHome strayNotice with
    | ok r => rw [hcall] at hcheck; cases hcheck
    | error e => exact ⟨e, hcall⟩
  have haccepted : ¬ joinedNotice.Refused .sample sampleHome := by
    rintro ⟨e, he⟩
    have hcheck : (match inboundCall .sample sampleHome joinedNotice with
      | .ok _ => true
      | .error _ => false) = true := by decide +kernel
    rw [he] at hcheck
    cases hcheck
  obtain ⟨honce, hagain, hnone⟩ := inbound_effects_at_most_once .sample sampleHome key
  refine ⟨key, hkey, ?_, (honce _).1⟩
  calc inboundRun .sample sampleHome [strayNotice, joinedNotice, joinedNotice]
      = inboundRun .sample sampleHome [joinedNotice, joinedNotice] :=
        (hnone [] strayNotice [joinedNotice, joinedNotice] hrefused).2
    _ = inboundRun .sample sampleHome [joinedNotice] :=
        hagain [] joinedNotice [] joinedNotice hkey haccepted hkey

end Awiki
