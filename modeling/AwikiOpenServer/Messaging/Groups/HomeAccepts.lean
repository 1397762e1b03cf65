import AwikiOpenServer.Messaging.Groups.MemberStream

/-!
# A Home accepts the stream of its member

The invariant ties the projection to a position of the stream: it stands at the last accepted
notification, or **ahead** of it. An active projection is ahead only through a roster read, and then
the read covers everything it skipped; an ended projection is ahead only through the answer to a
forwarded command, and then that answer is kept. Late messages are recognized by the kept answer,
the late departure by its receipt. A late **state change** is recognized by neither, only by a read
that covers it: hence the condition on answers in `authentic_notifications_accepted`, and the stream
that blocks without it (`late_change_refused`).

## What is claimed

A correct Host delivers the stream of a member in order, repeating the head until it is answered.
Every delivery is accepted, whatever the Home has done in between: read its roster, had a leave or a
removal answered before the notification of it arrived, or seen the same notification before. The
result matters because **a refusal blocks the stream**: nothing behind the head is delivered.

## The invariant, table by table

`HomeInv` has a part for each table the handlers read: the records of accepted notifications with
their digests (`RecordsInv`), the member's log with its activations (`LogInv`), the projected
messages (`MessagesInv`), the kept answers (`AnswersInv`), and where the projection stands
(`Projected`). The parts are about positions of the stream and do not mention each other, so a step
is shown to keep them one by one.

## The head is never stale

A delivery at the head is compared with the projection four times: for a gap, for a repetition, for
an event the projection has passed, and for a message after the membership has ended. Each of these
refusals is excluded by the invariant (`requireInSequence_of_inv`, `passedEvent_of_inv`,
`acceptedBeforeTerminal_of_inv`), and the rest of the two handlers follows the accepting path and
keeps it (`groupStateChanged_accepted`, `groupIncoming_accepted`).

A roster read and an answer are not deliveries; they move the projection ahead, and `HomeInv` says
how far that may go (`HomeInv.afterSnapshot`, `HomeInv.afterAnswer`). The condition of the run is
asked where an answer is applied: the state changes before the departure have been accepted by then.
-/

namespace Awiki

open Py Runs

namespace MemberStream

/-! ### The invariant, table by table -/

/-- The accepted notifications are recorded with their digests, the others are not. -/
structure RecordsInv (S : MemberStream) (records : List InboundPeerEvent) (k : ℕ) : Prop where
  accepted : ∀ i note, i < k → S.notes[i]? = some note →
    ∃ e, Table.row? InboundPeerEvent.key (S.recordKey note) records = some e ∧
      e.payloadDigest = S.digest note.body
  pending : ∀ i note, k ≤ i → S.notes[i]? = some note →
    Table.row? InboundPeerEvent.key (S.recordKey note) records = none

/-- The member's log holds activations of accepted notifications only, and at least one. -/
structure LogInv (S : MemberStream) (log : List SyncEvent) (k : ℕ) : Prop where
  nonempty : 0 < k → ∃ e ∈ log, isActivationRow S.owner S.group e = true
  earlier : ∀ e ∈ log, isActivationRow S.owner S.group e = true →
    ∃ i note, i < k ∧ S.notes[i]? = some note ∧ note.kind.isMessage = false ∧
      e.payload.get "group_event_seq" = .str (toString note.seq)

/-- The projected messages are those of accepted notifications. -/
def MessagesInv (S : MemberStream) (rows : List GroupMessageView) (k : ℕ) : Prop :=
  ∀ r ∈ rows, r.ownerDid = S.owner → r.groupDid = S.group →
    ∃ i note, i < k ∧ S.notes[i]? = some note ∧ note.kind = .message r.messageId ∧
      r.groupEventSeq = note.seq

/-- The kept answer of the command behind a departure. -/
structure Kept (S : MemberStream) (note : Note) (method : GroupMethod) (op : GroupOperation) :
    Prop where
  scope : op.groupScope = S.group
  command : op.method = method
  profile : op.wireProfile = .v2
  actor : note.receipt.get "actor_did" = .str op.senderDid
  operation : note.receipt.get "operation_id" = .str op.operationId
  digest : note.receipt.get "payload_digest" = .str op.payloadDigest
  subject : ∀ eventType status subject, terminalWords method = some (eventType, status, subject) →
    op.result.get subject = .str S.owner
  receipt : ∃ receipt, op.result.get "group_receipt" = .obj receipt ∧
    Json.same (.obj receipt) (.obj note.receipt) = true ∧
    Obj.get receipt "group_event_seq" = .str (toString note.seq) ∧
    Obj.get receipt "group_state_version" = .str (toString note.version)

/-- An answer about somebody else. -/
def Unrelated (S : MemberStream) (op : GroupOperation) : Prop :=
  op.result.get "leaver_did" ≠ .str S.owner ∧ op.result.get "member_did" ≠ .str S.owner ∧
    ∀ note ∈ S.notes, ∀ method, note.kind = .departed method →
      ¬ (op.method = method ∧ note.receipt.get "actor_did" = .str op.senderDid ∧
        note.receipt.get "operation_id" = .str op.operationId)

/-- The answers kept for the group. -/
structure AnswersInv (S : MemberStream) (ops : List GroupOperation) : Prop where
  known : ∀ op ∈ ops, op.groupScope = S.group → S.Unrelated op ∨
    ∃ note ∈ S.notes, ∃ method, note.kind = .departed method ∧ S.Kept note method op
  keyed : Table.Keyed GroupOperation.key ops

/-- How a projection at position `j` relates to the `k` accepted notifications. -/
inductive StandsAt (S : MemberStream) (ops : List GroupOperation) (k : ℕ) (view : GroupView)
    (j : ℕ) (note : Note) : Prop where
  | active (hstatus : view.membershipStatus = .active) (hkind : note.kind.isDeparture = false)
      (hobserved : k ≤ j →
        view.observedEventSeq = note.seq ∧ view.observedStateVersion = note.version)
  | ended {method : GroupMethod} (hstatus : view.membershipStatus = departedStatus method)
      (hkind : note.kind = .departed method) (hkept : k ≤ j → ∃ op ∈ ops, S.Kept note method op)
      (hsettled : ∀ i earlier, k ≤ i → i < j → S.notes[i]? = some earlier →
        earlier.kind.isMessage = false →
        coveredByObservation view (some S.host) earlier.seq earlier.version = true)

/-- The projection stands at position `j` of the stream. -/
structure Projected (S : MemberStream) (st : Store) (k : ℕ) (view : GroupView) (j : ℕ)
    (note : Note) : Prop where
  row : st.groupView? S.owner S.group = some view
  host : view.hostServiceDid = S.host
  position : S.notes[j]? = some note
  ahead : k ≤ j + 1
  seq : view.groupEventSeq = note.seq
  version : view.groupStateVersion = note.version
  stands : S.StandsAt st.groupOperations k view j note

/-- **The invariant** of a Home that has accepted `k` notifications. -/
structure HomeInv (S : MemberStream) (st : Store) (k : ℕ) : Prop where
  records : S.RecordsInv st.inboundPeerEvents k
  log : S.LogInv st.syncEvents k
  messages : S.MessagesInv st.groupMessageViews k
  answers : S.AnswersInv st.groupOperations
  projection : (k = 0 ∧ st.groupView? S.owner S.group = none) ∨
    0 < k ∧ ∃ view j note, S.Projected st k view j note

section Tables

variable {S : MemberStream} {k i : ℕ} {note : Note}

/-- A Home that knows nothing of the group is at the start of the stream. -/
theorem Fresh.inv {st : Store} (h : S.Fresh st) : S.HomeInv st 0 where
  records := {
    accepted := fun i note hi ↦ absurd hi (Nat.not_lt_zero i)
    pending := fun i note _ _ ↦ by
      rw [Table.row?_eq_none]
      intro e he heq
      simp only [InboundPeerEvent.key, recordKey, Prod.mk.injEq] at heq
      exact h.records e he heq.2.1 heq.2.2.2.1 }
  log := {
    nonempty := fun h0 ↦ absurd h0 (lt_irrefl 0)
    earlier := fun e he hrow ↦ by
      rw [h.activations e he] at hrow
      cases hrow }
  messages := fun r hr howner hgroup ↦ absurd hgroup (h.messages r hr howner)
  answers := { known := fun op hop hscope ↦ .inl (h.operations op hop hscope), keyed := h.keyed }
  projection := .inl ⟨rfl, h.view⟩

/-- Different notifications leave different records. -/
theorem recordKey_ne {i' : ℕ} {note' : Note} (hi : S.notes[i]? = some note)
    (hi' : S.notes[i']? = some note') (hne : i ≠ i') : S.recordKey note ≠ S.recordKey note' := by
  intro heq
  simp only [recordKey, Prod.mk.injEq, Nat.cast_inj] at heq
  exact hne (eq_of_seq_eq hi hi' heq.2.2.1)

/-- One record more. -/
theorem RecordsInv.append {records : List InboundPeerEvent} {e : InboundPeerEvent}
    (h : S.RecordsInv records k) (hnote : S.notes[k]? = some note)
    (hkey : e.key = S.recordKey note) (hdigest : e.payloadDigest = S.digest note.body) :
    S.RecordsInv (records ++ [e]) (k + 1) where
  accepted i note' hi hnote' := by
    rw [Table.row?_append]
    rcases Nat.lt_succ_iff_lt_or_eq.mp hi with hlt | rfl
    · obtain ⟨e', he', hd⟩ := h.accepted i note' hlt hnote'
      exact ⟨e', by rw [he', Option.some_or], hd⟩
    · obtain rfl : note = note' := Option.some.inj (hnote.symm.trans hnote')
      exact ⟨e, by rw [h.pending i note le_rfl hnote, hkey, if_pos rfl, Option.none_or], hdigest⟩
  pending i note' hi hnote' := by
    have hne : e.key ≠ S.recordKey note' := by
      rw [hkey]
      exact recordKey_ne hnote hnote' (by omega)
    rw [Table.row?_append, h.pending i note' (by omega) hnote', if_neg hne, Option.none_or]

/-- A row that is no activation changes nothing. -/
theorem LogInv.append {log : List SyncEvent} {e : SyncEvent} {k' : ℕ} (h : S.LogInv log k)
    (hk : k ≤ k') (hpos : 0 < k) (hrow : isActivationRow S.owner S.group e = false) :
    S.LogInv (log ++ [e]) k' where
  nonempty _ := by
    obtain ⟨e', he', hact⟩ := h.nonempty hpos
    exact ⟨e', List.mem_append_left _ he', hact⟩
  earlier e' he' hact := by
    rcases List.mem_append.mp he' with he' | he'
    · obtain ⟨i, note, hi, hrest⟩ := h.earlier e' he' hact
      exact ⟨i, note, by omega, hrest⟩
    · obtain rfl := List.mem_singleton.mp he'
      rw [hrow] at hact
      cases hact

/-- Accepting more only weakens what is asked of the log. -/
theorem LogInv.mono {log : List SyncEvent} {k' : ℕ} (h : S.LogInv log k) (hk : k ≤ k')
    (hpos : 0 < k) : S.LogInv log k' where
  nonempty _ := h.nonempty hpos
  earlier e he hact := by
    obtain ⟨i, note, hi, hrest⟩ := h.earlier e he hact
    exact ⟨i, note, by omega, hrest⟩

/-- The row of an accepted state change. -/
theorem LogInv.change {log : List SyncEvent} {e : SyncEvent}
    (h : S.LogInv log k) (hnote : S.notes[k]? = some note) (hkind : note.kind.isMessage = false)
    (hgroup : note.body.get "group_did" = .str S.group) (howner : e.ownerDid = S.owner)
    (htype : e.eventType = "group.state_changed")
    (hpayload : ∀ key, key ≠ "_sync_group" → e.payload.get key = note.body.get key) :
    S.LogInv (log ++ [e]) (k + 1) where
  nonempty _ := by
    rcases Nat.eq_zero_or_pos k with rfl | hpos
    · obtain ⟨htypeText, hsubject, hstatus⟩ := (sound_at hnote).activated (S.starts note hnote)
      refine ⟨e, by simp, ?_⟩
      simp [isActivationRow, howner, htype, hpayload, hgroup, htypeText, hsubject, hstatus]
    · obtain ⟨e', he', hact⟩ := h.nonempty hpos
      exact ⟨e', List.mem_append_left _ he', hact⟩
  earlier e' he' hact := by
    rcases List.mem_append.mp he' with he' | he'
    · obtain ⟨i, note', hi, hrest⟩ := h.earlier e' he' hact
      exact ⟨i, note', by omega, hrest⟩
    · obtain rfl := List.mem_singleton.mp he'
      refine ⟨k, note, by omega, hnote, hkind, ?_⟩
      rw [hpayload _ (by decide)]
      exact ((sound_at hnote).changes hkind).seqText

/-- One message more. -/
theorem MessagesInv.append {rows : List GroupMessageView} {r : GroupMessageView}
    (h : S.MessagesInv rows k) (hnote : S.notes[k]? = some note)
    (hkind : note.kind = .message r.messageId) (hseq : r.groupEventSeq = note.seq) :
    S.MessagesInv (rows ++ [r]) (k + 1) := by
  intro r' hr' howner hgroup
  rcases List.mem_append.mp hr' with hr' | hr'
  · obtain ⟨i, note', hi, hrest⟩ := h r' hr' howner hgroup
    exact ⟨i, note', by omega, hrest⟩
  · obtain rfl := List.mem_singleton.mp hr'
    exact ⟨k, note, by omega, hnote, hkind, hseq⟩

/-- Accepting more only weakens what is asked of the messages. -/
theorem MessagesInv.mono {rows : List GroupMessageView} {k' : ℕ} (h : S.MessagesInv rows k)
    (hk : k ≤ k') : S.MessagesInv rows k' := by
  intro r hr howner hgroup
  obtain ⟨i, note, hi, hrest⟩ := h r hr howner hgroup
  exact ⟨i, note, by omega, hrest⟩

end Tables

/-! ### Reading the invariant -/

section Views

variable {S : MemberStream} {st : Store} {k i j : ℕ} {view : GroupView} {note at_ : Note}

/-- The answers kept for the group can all be read, and one of them ends the view. -/
theorem anyEndedBy_eq_true {subject : String} :
    ∀ {ops : List GroupOperation},
      (∀ op ∈ ops, op.result.get subject = .str S.owner →
        ∃ receipt, op.result.get "group_receipt" = .obj receipt) →
      (∃ op ∈ ops, endedBy view S.owner subject op = .ok true) →
      anyEndedBy view S.owner subject ops = .ok true
  | [], _, h => by simp at h
  | op :: rest, hread, h => by
    have hended : ∃ b, endedBy view S.owner subject op = .ok b := by
      unfold endedBy
      split
      · rename_i hsubject
        obtain ⟨receipt, hreceipt⟩ := hread op (by simp) (Json.isStr_iff.mp hsubject)
        have hlookup := Obj.lookup_of_get_eq_obj hreceipt
        simp [Obj.getD, hlookup, pure, Except.pure]
      · exact ⟨false, rfl⟩
    obtain ⟨b, hb⟩ := hended
    rw [anyEndedBy, hb, ok_bind]
    cases b with
    | true => rfl
    | false =>
      refine anyEndedBy_eq_true (fun op' hop' ↦ hread op' (List.mem_cons_of_mem _ hop')) ?_
      obtain ⟨op', hop', htrue⟩ := h
      rcases List.mem_cons.mp hop' with rfl | hop'
      · rw [hb] at htrue
        cases htrue
      · exact ⟨op', hop', htrue⟩

/-- A departure is a leave or a removal. -/
theorem departed_cases {method : GroupMethod} (hnote : S.notes[i]? = some note)
    (hkind : note.kind = .departed method) :
    (method = .leave ∧ terminalWords method = some ("member-left", "left", "leaver_did")) ∨
      method = .remove ∧
        terminalWords method = some ("member-removed", "removed", "member_did") := by
  obtain ⟨eventType, status, subject, hwords, -⟩ := ((sound_at hnote).departs method hkind).words
  cases method <;> simp_all [terminalWords]

/-- Every kept answer about the member has a receipt. -/
theorem AnswersInv.readable {ops : List GroupOperation} (h : S.AnswersInv ops)
    {op : GroupOperation} (hop : op ∈ ops) (hscope : op.groupScope = S.group) {subject : String}
    (hmem : subject = "leaver_did" ∨ subject = "member_did")
    (hsubject : op.result.get subject = .str S.owner) :
    ∃ receipt, op.result.get "group_receipt" = .obj receipt := by
  rcases h.known op hop hscope with ⟨hleaver, hmember, -⟩ | ⟨note, -, method, -, hkept⟩
  · rcases hmem with rfl | rfl
    · exact absurd hsubject hleaver
    · exact absurd hsubject hmember
  · obtain ⟨receipt, hreceipt, -⟩ := hkept.receipt
    exact ⟨receipt, hreceipt⟩

/-- A kept answer has ended the view it left behind. -/
theorem endedBy_of_kept {method : GroupMethod} {op : GroupOperation} {subject : String}
    (hkept : S.Kept at_ method op)
    (hsubject : op.result.get subject = .str S.owner) (hseq : view.groupEventSeq = at_.seq)
    (hversion : view.groupStateVersion = at_.version) :
    endedBy view S.owner subject op = .ok true := by
  obtain ⟨receipt, hreceipt, -, hseqText, hversionText⟩ := hkept.receipt
  have hlookup := Obj.lookup_of_get_eq_obj hreceipt
  have hs : toString view.groupEventSeq = toString at_.seq := by rw [hseq]; rfl
  have hv : toString view.groupStateVersion = toString at_.version := by rw [hversion]; rfl
  simp [endedBy, hsubject, Obj.getD, hlookup, hseqText, hversionText, hs, hv, pure, Except.pure]

/-- **A late message is recognized**: the view was ended by a kept answer, after the message. -/
theorem acceptedBeforeTerminal_of_ended {n : Notification} {method : GroupMethod}
    (hi : S.HomeInv st k) (hpos : 0 < k) (hview : S.Projected st k view j at_)
    (hstatus : view.membershipStatus = departedStatus method) (hended : at_.kind = .departed method)
    (hkept : ∃ op ∈ st.groupOperations, S.Kept at_ method op) (hnote : S.notes[i]? = some note)
    (hmessage : note.kind.isMessage = true) (hki : k ≤ i + 1) (hij : i < j)
    (hprofile : n.profile = .v2) (htarget : n.targetDid = S.owner) (hgroup : n.groupDid = S.group) :
    acceptedBeforeTerminal st view n note.seq note.version = .ok true := by
  obtain ⟨op, hop, hkept⟩ := hkept
  have hchange : at_.kind.isMessage = false := by rw [hended]; rfl
  have hseq := seq_lt hnote hview.position hij
  have hversion := version_lt hnote hview.position hij hchange
  have hlate : ¬ (view.groupEventSeq ≤ (note.seq : ℤ) ∨
      view.groupStateVersion ≤ (note.version : ℤ)) := by
    rw [hview.seq, hview.version]
    omega
  have hterminal : ¬ (n.profile ≠ .v2 ∨
      (view.membershipStatus ≠ .left ∧ view.membershipStatus ≠ .removed)) := by
    rw [hstatus]
    rcases departed_cases hview.position hended with ⟨rfl, -⟩ | ⟨rfl, -⟩ <;>
      simp [departedStatus, hprofile]
  -- The latest activation in the log is that of an earlier notification.
  obtain ⟨e, hlatest, heq⟩ : ∃ e, latestActivation st S.owner S.group = some e ∧
      ∃ a before, a < k ∧ S.notes[a]? = some before ∧ before.kind.isMessage = false ∧
        e.payload.get "group_event_seq" = .str (toString before.seq) := by
    obtain ⟨e₀, he₀, hrow₀⟩ := hi.log.nonempty hpos
    have hne : latestActivation st S.owner S.group ≠ none := by
      rw [latestActivation, Ne, List.argmax_eq_none]
      exact List.ne_nil_of_mem (List.mem_filter.mpr ⟨he₀, hrow₀⟩)
    obtain ⟨e, he⟩ := Option.ne_none_iff_exists'.mp hne
    have hmem := List.mem_filter.mp (List.argmax_mem he)
    exact ⟨e, he, hi.log.earlier e hmem.1 hmem.2⟩
  obtain ⟨a, before, hak, hbefore, hbeforeKind, htext⟩ := heq
  have hai : a < i := by
    rcases Nat.lt_or_eq_of_le (show a ≤ i by omega) with hlt | rfl
    · exact hlt
    · obtain rfl : before = note := Option.some.inj (hbefore.symm.trans hnote)
      rw [hmessage] at hbeforeKind
      cases hbeforeKind
  have hafter : ¬ (note.seq : ℤ) ≤ (before.seq : ℤ) := by
    have := seq_lt hbefore hnote hai
    omega
  rw [acceptedBeforeTerminal, if_neg hterminal, if_neg hlate, htarget, hgroup, hlatest]
  simp only [htext, intOrRaise, intOf_toString, ok_bind, if_neg hafter]
  rcases departed_cases hview.position hended with ⟨rfl, hwords⟩ | ⟨rfl, hwords⟩
  · have hsubject := hkept.subject _ _ _ hwords
    simp only [hstatus, departedStatus, if_true]
    refine anyEndedBy_eq_true (fun op' hop' hsub ↦ ?_) ⟨op, ?_, ?_⟩
    · obtain ⟨hop', hscope⟩ := List.mem_filter.mp hop'
      exact hi.answers.readable hop' (of_decide_eq_true hscope).1 (.inl rfl) hsub
    · exact List.mem_filter.mpr ⟨hop, by simp [hkept.scope, hkept.command, hkept.profile]⟩
    · exact endedBy_of_kept hkept hsubject hview.seq hview.version
  · have hsubject := hkept.subject _ _ _ hwords
    simp only [hstatus, departedStatus]
    refine anyEndedBy_eq_true (fun op' hop' hsub ↦ ?_) ⟨op, ?_, ?_⟩
    · obtain ⟨hop', hscope⟩ := List.mem_filter.mp hop'
      exact hi.answers.readable hop' (of_decide_eq_true hscope).1 (.inr rfl) hsub
    · exact List.mem_filter.mpr ⟨hop, by simp [hkept.scope, hkept.command, hkept.profile]⟩
    · exact endedBy_of_kept hkept hsubject hview.seq hview.version

/-- **The late departure is recognized** by the receipt of the kept answer. -/
theorem matchesForwardedTerminal_of_kept {n : Notification} {method : GroupMethod}
    (hkeyed : Table.Keyed GroupOperation.key st.groupOperations)
    (hnote : S.notes[i]? = some note) (hkind : note.kind = .departed method)
    (hkept : ∃ op ∈ st.groupOperations, S.Kept note method op) (hbody : n.body = note.body)
    (hprofile : n.profile = .v2) (htarget : n.targetDid = S.owner) (hgroup : n.groupDid = S.group) :
    matchesForwardedTerminal st n note.receipt = true := by
  obtain ⟨op, hop, hkept⟩ := hkept
  have hdeparts := (sound_at hnote).departs method hkind
  obtain ⟨eventType, status, subject, hwords, htype, hstatus⟩ := hdeparts.words
  obtain ⟨receipt, hreceipt, hsame, -⟩ := hkept.receipt
  have hmethod : GroupMethod.ofText? method.text = some method := by cases method <;> decide
  have hprofileText : ¬ ((n.profile ≠ WireProfile.v2 : Bool) ||
      !(n.body.get "subject_did").isStr n.targetDid) = true := by
    simp [hprofile, hbody, htarget, hdeparts.subject]
  let p : GroupOperation → Bool := fun op ↦
    (note.receipt.get "actor_did").isStr op.senderDid && decide (op.groupScope = S.group) &&
      decide (op.method = method) && (note.receipt.get "operation_id").isStr op.operationId &&
      decide (op.wireProfile = .v2) && (note.receipt.get "payload_digest").isStr op.payloadDigest
  have hp : p op = true := by
    simp [p, hkept.actor, hkept.scope, hkept.command, hkept.operation, hkept.profile, hkept.digest]
  -- The primary key leaves only one answer to find.
  have hfind : st.groupOperations.find? p = some op := by
    obtain ⟨op', hop'⟩ := Option.isSome_iff_exists.mp (List.find?_isSome.mpr ⟨op, hop, hp⟩)
    have hp' := List.find?_some hop'
    simp only [p, Bool.and_eq_true, decide_eq_true_eq, Json.isStr_iff] at hp'
    have hkey : op'.key = op.key := by
      simp only [GroupOperation.key, Prod.mk.injEq]
      refine ⟨?_, hp'.1.1.1.1.2.trans hkept.scope.symm, hp'.1.1.1.2.trans hkept.command.symm, ?_⟩
      · exact Json.str.inj (hp'.1.1.1.1.1.symm.trans hkept.actor)
      · exact Json.str.inj (hp'.1.1.2.symm.trans hkept.operation)
    rw [hop', hkeyed.eq_of_key_eq (List.mem_of_find?_eq_some hop') hop hkey]
  rw [matchesForwardedTerminal, if_neg hprofileText, hdeparts.subjectMethod]
  simp only [Json.str?_str, Option.bind_some, hmethod, hwords, hbody, htype, hstatus,
    Json.isStr_str, decide_true, Bool.and_self, if_true, hgroup, htarget]
  rw [show st.groupOperations.find? _ = some op from hfind]
  simp only [hkept.subject _ _ _ hwords, Json.isStr_str, decide_true, Bool.true_and, hreceipt]
  exact hsame

/-- An active view that is ahead covers what it skipped. -/
theorem covered_of_observed (hview : S.Projected st k view j at_) (hnote : S.notes[i]? = some note)
    (hij : i ≤ j) (hobserved : view.observedEventSeq = at_.seq ∧
      view.observedStateVersion = at_.version) :
    coveredByObservation view (some S.host) note.seq note.version = true := by
  have hseq := seq_le hnote hview.position hij
  have hversion := version_le hnote hview.position hij
  have hsound := sound_at hnote
  have hpos := hsound.seq_pos
  have hvpos := hsound.version_pos
  rw [coveredByObservation, hobserved.1, hobserved.2, hview.host]
  simp only [decide_eq_true_eq, true_and]
  omega

/-- Accepting more only weakens what is asked of the projection. -/
theorem StandsAt.mono {ops : List GroupOperation} {k' : ℕ} (h : S.StandsAt ops k view j at_)
    (hk : k ≤ k') : S.StandsAt ops k' view j at_ := by
  cases h with
  | active hstatus hkind hobserved => exact .active hstatus hkind fun hj ↦ hobserved (by omega)
  | ended hstatus hkind hkept hsettled =>
    exact .ended hstatus hkind (fun hj ↦ hkept (by omega))
      fun i earlier hi ↦ hsettled i earlier (by omega)

end Views

/-! ### Records -/

section Records

variable {S : MemberStream} {st : Store} {k i : ℕ} {note : Note} {req : Request} {n : Notification}

/-- A repeated notification is recognized by its record. -/
theorem recordInbound_accepted (h : S.RecordsInv st.inboundPeerEvents k)
    (hnote : S.notes[i]? = some note) (hik : i < k) (hcarries : S.Carries note req n) :
    recordInbound st req n note.kind.method note.seq = .ok none := by
  obtain ⟨e, hrow, hdigest⟩ := h.accepted i note hik hnote
  have hkey : Table.row? InboundPeerEvent.key
      (S.host, n.groupDid, (note.seq : ℤ), n.targetDid, note.kind.method) st.inboundPeerEvents =
        some e := by
    rw [hcarries.group, hcarries.target]
    exact hrow
  simp [recordInbound, hcarries.peer, hcarries.body, hcarries.digest, hkey, hdigest, pure,
    Except.pure]

/-- A new notification is recorded. -/
theorem recordInbound_pending (h : S.RecordsInv st.inboundPeerEvents k)
    (hnote : S.notes[k]? = some note) (hcarries : S.Carries note req n) :
    ∃ e, recordInbound st req n note.kind.method note.seq =
        .ok (some { st with inboundPeerEvents := st.inboundPeerEvents ++ [e] }) ∧
      S.RecordsInv (st.inboundPeerEvents ++ [e]) (k + 1) := by
  have hrow : Table.row? InboundPeerEvent.key
      (S.host, n.groupDid, (note.seq : ℤ), n.targetDid, note.kind.method) st.inboundPeerEvents =
        none := by
    rw [hcarries.group, hcarries.target]
    exact h.pending k note le_rfl hnote
  refine ⟨{ sourceServiceDid := S.host, groupDid := n.groupDid, groupEventSeq := note.seq,
            targetDid := n.targetDid, method := note.kind.method,
            payloadDigest := S.digest note.body, receivedAt := req.outside.now }, ?_, ?_⟩
  · simp [recordInbound, hcarries.peer, hcarries.body, hcarries.digest, hrow, pure, Except.pure]
  · refine h.append hnote ?_ rfl
    simp [InboundPeerEvent.key, recordKey, hcarries.group, hcarries.target]

end Records

/-! ### A delivered state change -/

section Change

variable {S : MemberStream} {st : Store} {k i j : ℕ} {view : GroupView} {note at_ : Note}
variable {req : Request} {n : Notification} {eventType changedAt : String}

/-- The head of the stream is not beyond the projection, or it is the very next notification. -/
theorem Projected.head (hview : S.Projected st k view j at_) (hik : i ≤ k) :
    i ≤ j ∨ i = j + 1 ∧ k = j + 1 := by
  have := hview.ahead
  omega

/-- After a departure, the next notification is a reactivation. -/
theorem isReactivation_of_next (hcarries : S.Carries note req n)
    (hview : S.Projected st k view j at_) (hdeparture : at_.kind.isDeparture = true)
    (hstatus : view.membershipStatus ≠ .active) (hnote : S.notes[j + 1]? = some note)
    (htype : note.body.get "event_type" = .str eventType) :
    isReactivation n (some view) eventType note.version = true := by
  have hfollows := S.follows j at_ note hview.position hnote
  have hkind := (hfollows.rejoined hdeparture).1
  obtain ⟨hactivated, hsubject, hactive⟩ := (sound_at hnote).activated hkind
  have hlt := hfollows.version_lt (by rw [hkind]; rfl)
  obtain rfl : eventType = "member-activated" := Json.str.inj (htype.symm.trans hactivated)
  have hversion : view.groupStateVersion < (note.version : ℤ) := by
    rw [hview.version]
    omega
  simp [isReactivation, hcarries.profile, hcarries.body, hcarries.target, hsubject, hactive,
    hstatus, hversion]

/-- **No gap**: neither the head nor a repeated head is refused for its number. -/
theorem requireInSequence_of_inv (hi : S.HomeInv st k) (hnote : S.notes[i]? = some note)
    (hik : i ≤ k) (hki : k ≤ i + 1) (hcarries : S.Carries note req n)
    (htype : note.body.get "event_type" = .str eventType) :
    requireInSequence n (st.groupView? n.targetDid n.groupDid) eventType note.version note.seq =
      .ok () := by
  rw [hcarries.target, hcarries.group]
  rcases hi.projection with ⟨rfl, hnone⟩ | ⟨hpos, view, j, at_, hview⟩
  · obtain rfl : i = 0 := by omega
    obtain ⟨hactivated, hsubject, hactive⟩ := (sound_at hnote).activated (S.starts note hnote)
    obtain rfl : eventType = "member-activated" := Json.str.inj (htype.symm.trans hactivated)
    simp [requireInSequence, hnone, isActivation, hcarries.body, hcarries.target, hsubject, hactive]
  · rw [hview.row, requireInSequence, require_eq_ok, Bool.or_eq_true, decide_eq_true_eq, hview.seq]
    rcases hview.head hik with hij | ⟨rfl, rfl⟩
    · have := seq_le hnote hview.position hij
      exact .inl (by omega)
    · cases hdeparture : at_.kind.isDeparture with
      | false =>
        have := (S.follows j at_ note hview.position hnote).consecutive hdeparture
        exact .inl (by omega)
      | true =>
        refine .inr (isReactivation_of_next hcarries hview hdeparture ?_ hnote htype)
        cases hview.stands with
        | active _ hkind => rw [hkind] at hdeparture; cases hdeparture
        | ended hstatus hkind =>
          rw [hstatus]
          rcases departed_cases hview.position hkind with ⟨rfl, -⟩ | ⟨rfl, -⟩ <;> decide

/-- The roster row of the subject can always be written. -/
theorem projectSubject_of_changes (st : Store) (req : Request) (n : Notification)
    (eventType changedAt : String) (hchanges : note.Changes) (hbody : n.body = note.body) :
    ∃ rows, projectSubject st req n eventType changedAt =
      .ok { st with groupMemberViews := rows } := by
  have htext : ∀ key ∈ ["subject_handle", "handle_binding_generation", "role",
      "membership_status"], ∃ text, bindText req.outside.reprFloat (n.body.get key) = .ok text := by
    intro key hkey
    rw [hbody]
    rcases hchanges.texts key hkey with hnull | ⟨text, htext⟩
    · exact ⟨none, by rw [hnull]; rfl⟩
    · exact ⟨some text, by rw [htext]; rfl⟩
  have hdefault : ∀ key ∈ ["role", "membership_status"], ∀ d, ∃ text,
      bindTextNotNull req.outside.reprFloat ((n.body.get key).orElse (.str d)) = .ok text := by
    intro key hkey d
    have hmem : key ∈ ["subject_handle", "handle_binding_generation", "role",
        "membership_status"] := by
      simp only [List.mem_cons, List.not_mem_nil, or_false] at hkey ⊢
      rcases hkey with rfl | rfl <;> simp
    rw [hbody, Json.orElse]
    rcases hchanges.texts key hmem with hnull | ⟨text, htext⟩
    · exact ⟨d, by rw [hnull]; rfl⟩
    · rw [htext]
      split
      · exact ⟨text, rfl⟩
      · exact ⟨d, rfl⟩
  obtain ⟨memberHandle, hhandle⟩ := htext "subject_handle" (by simp)
  obtain ⟨generation, hgeneration⟩ := htext "handle_binding_generation" (by simp)
  obtain ⟨role, hrole⟩ := hdefault "role" (by simp) "member"
  obtain ⟨status, hstatus⟩ := hdefault "membership_status" (by simp) (impliedStatus eventType)
  unfold projectSubject
  split
  · simp only [hhandle, hgeneration, hrole, hstatus, ok_bind]
    exact ⟨_, rfl⟩
  · exact ⟨st.groupMemberViews, rfl⟩

/-- The membership after a state change that is applied. -/
theorem statusAfter_of_sound {existing : Option GroupView} {reactivated : Bool}
    (hnote : S.notes[i]? = some note) (hkind : note.kind.isMessage = false)
    (hcarries : S.Carries note req n) (htype : note.body.get "event_type" = .str eventType)
    (hstays : note.kind.isDeparture = false →
      reactivated = true ∨ (existing.map (·.membershipStatus)).getD .active = .active) :
    (note.kind.isDeparture = false → statusAfter n existing eventType reactivated = .active) ∧
      ∀ method, note.kind = .departed method →
        statusAfter n existing eventType reactivated = departedStatus method := by
  have hsound := sound_at hnote
  refine ⟨fun hdeparture ↦ ?_, fun method hdeparted ↦ ?_⟩
  · have hnot : (note.body.get "subject_did").isStr S.owner = true →
        eventType ≠ "member-removed" ∧ eventType ≠ "member-left" := by
      intro hsubject
      have := hsound.stays hkind hdeparture (Json.isStr_iff.mp hsubject)
      rw [htype] at this
      exact ⟨fun h ↦ this.1 (by rw [h]), fun h ↦ this.2 (by rw [h])⟩
    rw [statusAfter, hcarries.body, hcarries.target]
    cases hsubject : (note.body.get "subject_did").isStr S.owner with
    | false =>
      rcases hstays hdeparture with hre | hactive
      · simp [hre]
      · simp [hactive]
    | true =>
      obtain ⟨hremoved, hleft⟩ := hnot hsubject
      rcases hstays hdeparture with hre | hactive
      · simp [hremoved, hleft, hre]
      · simp [hremoved, hleft, hactive]
  · have hdeparts := hsound.departs method hdeparted
    obtain ⟨word, status, subject, hwords, hword, -⟩ := hdeparts.words
    obtain rfl : eventType = word := Json.str.inj (htype.symm.trans hword)
    rw [statusAfter, hcarries.body, hcarries.target, hdeparts.subject]
    rcases departed_cases hnote hdeparted with ⟨rfl, hleave⟩ | ⟨rfl, hremove⟩
    · obtain ⟨rfl, -⟩ := Prod.mk.inj (Option.some.inj (hwords.symm.trans hleave))
      simp [departedStatus]
    · obtain ⟨rfl, -⟩ := Prod.mk.inj (Option.some.inj (hwords.symm.trans hremove))
      simp [departedStatus]

/-- The payload of the log row is the body, but for the frozen group. -/
theorem syncPayload_get (st : Store) (owner type : String) (payload : Obj) {key : String}
    (hkey : key ≠ "_sync_group") :
    (syncPayload st owner type payload).get key = payload.get key := by
  unfold syncPayload
  split
  · split
    · split
      · exact Obj.get_set_of_ne _ _ hkey
      · rfl
    · rfl
  · rfl

/-- **The projection moves to the notification** that is applied. -/
theorem HomeInv.applied {records : List InboundPeerEvent} {rows : List GroupMemberView}
    {peer now : String} (hi : S.HomeInv st k) (hnote : S.notes[k]? = some note)
    (hkind : note.kind.isMessage = false) (hcarries : S.Carries note req n)
    (hgroup : n.body.get "group_did" = .str n.groupDid)
    (htype : note.body.get "event_type" = .str eventType)
    (hrecords : S.RecordsInv records (k + 1))
    (hhost : ((st.groupView? S.owner S.group).map (·.hostServiceDid)).getD peer = S.host)
    (hstays : note.kind.isDeparture = false →
      isReactivation n (st.groupView? S.owner S.group) eventType note.version = true ∨
        ((st.groupView? S.owner S.group).map (·.membershipStatus)).getD .active = .active) :
    S.HomeInv (addSyncEvent
      { st with
        inboundPeerEvents := records
        groupViews := Table.upsert GroupView.key
          (eventView req n (st.groupView? S.owner S.group) peer eventType changedAt note.version
            note.seq)
          (fun _ ↦ eventView req n (st.groupView? S.owner S.group) peer eventType changedAt
            note.version note.seq) st.groupViews
        groupMemberViews := rows } S.owner "group.state_changed" n.body now) (k + 1) := by
  -- The view is now at the new notice, active or ended as that says.
  obtain ⟨hactive, hended⟩ := statusAfter_of_sound hnote hkind hcarries htype hstays
  refine {
    records := hrecords
    log := ?_
    messages := hi.messages.mono (Nat.le_succ k)
    answers := hi.answers
    projection := .inr ⟨Nat.succ_pos k, eventView req n (st.groupView? S.owner S.group) peer
      eventType changedAt note.version note.seq, k, note, ?_⟩ }
  · refine hi.log.change hnote hkind ?_ rfl rfl fun key hkey ↦ ?_
    · rw [← hcarries.body, hgroup, hcarries.group]
    · rw [← hcarries.body]
      exact syncPayload_get _ S.owner "group.state_changed" n.body hkey
  · have hkey : (S.owner, S.group) = (eventView req n (st.groupView? S.owner S.group) peer
        eventType changedAt note.version note.seq).key := by
      simp [GroupView.key, eventView, hcarries.target, hcarries.group]
    refine {
      row := ?_
      host := hhost
      position := hnote
      ahead := le_rfl
      seq := rfl
      version := rfl
      stands := ?_ }
    · show Table.row? GroupView.key (S.owner, S.group) (Table.upsert _ _ _ _) = _
      rw [Table.row?_upsert fun _ _ ↦ rfl, if_pos hkey]
      cases Table.row? GroupView.key (S.owner, S.group) st.groupViews <;> rfl
    · cases hdeparture : note.kind.isDeparture with
      | false => exact .active (hactive hdeparture) hdeparture fun hj ↦ by omega
      | true =>
        obtain ⟨method, hmethod⟩ : ∃ method, note.kind = .departed method := by
          cases hnk : note.kind <;> simp_all [NoteKind.isDeparture]
        exact .ended (hended method hmethod) hmethod (fun hj ↦ by omega)
          fun i _ hki hik ↦ by omega

/-- **The head of the stream is never stale**: it is covered by a read, or it is applied. -/
theorem passedEvent_of_inv (st₁ : Store) (hi : S.HomeInv st k) (hnote : S.notes[k]? = some note)
    (hkind : note.kind.isMessage = false) (hcarries : S.Carries note req n)
    (htype : note.body.get "event_type" = .str eventType)
    (hops : st₁.groupOperations = st.groupOperations) :
    (∃ view j at_, S.Projected st k view j at_ ∧ k ≤ j ∧
        passedEvent st₁ n (st.groupView? S.owner S.group) note.receipt note.version note.seq =
          .ok .superseded) ∨
      passedEvent st₁ n (st.groupView? S.owner S.group) note.receipt note.version note.seq =
          .ok .applies ∧
        ((st.groupView? S.owner S.group).map (·.hostServiceDid)).getD S.host = S.host ∧
        (note.kind.isDeparture = false →
          isReactivation n (st.groupView? S.owner S.group) eventType note.version = true ∨
            ((st.groupView? S.owner S.group).map (·.membershipStatus)).getD .active = .active) := by
  rcases hi.projection with ⟨-, hnone⟩ | ⟨hpos, view, j, at_, hview⟩
  · exact .inr (by simp [hnone, passedEvent])
  rcases hview.head le_rfl with hkj | ⟨rfl, -⟩
  · -- The projection is ahead: a read covers the head, or it is the departure of the kept answer.
    have hseq := seq_le hnote hview.position hkj
    have hlate : ¬ view.groupEventSeq < (note.seq : ℤ) := by
      rw [hview.seq]
      omega
    cases hcovered : coveredByObservation view (some S.host) note.seq note.version with
    | true =>
      exact .inl ⟨view, j, at_, hview, hkj, by
        simp [passedEvent, hview.row, hlate, hcarries.peer, hcovered]⟩
    | false =>
      -- An event the projection has passed is covered by a read. Where none covers it, the member
      -- has ended, and then the head is that very departure.
      cases hview.stands with
      | active hstatus _ hobserved =>
        rw [covered_of_observed hview hnote hkj (hobserved hkj)] at hcovered
        cases hcovered
      | @ended method hstatus hended hkept hsettled =>
        obtain rfl : k = j := by
          rcases Nat.lt_or_eq_of_le hkj with hlt | heq
          · rw [hsettled k note le_rfl hlt hnote hkind] at hcovered
            cases hcovered
          · exact heq
        obtain rfl : note = at_ := Option.some.inj (hnote.symm.trans hview.position)
        have hmatches : matchesForwardedTerminal st₁ n note.receipt = true :=
          matchesForwardedTerminal_of_kept (hops ▸ hi.answers.keyed) hnote hended
            (hops ▸ hkept le_rfl) hcarries.body hcarries.profile hcarries.target hcarries.group
        have hsame : ¬ (note.seq : ℤ) < view.groupEventSeq := by
          rw [hview.seq]
          omega
        refine .inr ⟨?_, by simp [hview.row, hview.host], fun hdeparture ↦ ?_⟩
        · simp [passedEvent, hview.row, hlate, hcarries.peer, hcovered, hmatches, hsame]
        · rw [hended] at hdeparture
          cases hdeparture
  · have hfollows := S.follows j at_ note hview.position hnote
    have hlt : view.groupEventSeq < (note.seq : ℤ) := by
      have := seq_lt_of_follows hfollows
      rw [hview.seq]
      omega
    refine .inr ⟨by simp [passedEvent, hview.row, hlt], by simp [hview.row, hview.host],
      fun _ ↦ ?_⟩
    cases hview.stands with
    | active hstatus => exact .inr (by simp [hview.row, hstatus])
    | ended hstatus hended =>
      rw [hview.row]
      refine .inl (isReactivation_of_next hcarries hview (by rw [hended]; rfl) ?_ hnote htype)
      rw [hstatus]
      rcases departed_cases hview.position hended with ⟨rfl, -⟩ | ⟨rfl, -⟩ <;> decide

/-- A text that is not empty passes. -/
theorem requireNonEmpty_str {text : String} (h : text ≠ "") (error : String) :
    requireNonEmpty (.str text) error = .ok text := by
  rw [requireNonEmpty, orRaise_eq_ok, Option.filter_eq_some_iff]
  exact ⟨rfl, by simpa using h⟩

/-- **A state change at the head of the stream is accepted**, new or repeated. -/
theorem groupStateChanged_accepted {settings : Settings} {params : Obj} (hi : S.HomeInv st k)
    (hnote : S.notes[i]? = some note) (hik : i ≤ k) (hki : k ≤ i + 1)
    (hkind : note.kind.isMessage = false)
    (hcontext : notificationContext settings st req params .stateChanged = .ok n)
    (hcarries : S.Carries note req n)
    (hreceipt : verifiedReceipt st req n.body .stateChanged =
      .ok (note.receipt, (note.version : ℤ), (note.seq : ℤ))) :
    ∃ result st', groupStateChanged settings st req params = .ok (result, st') ∧
      S.HomeInv st' (i + 1) := by
  have hchanges := (sound_at hnote).changes hkind
  obtain ⟨eventType, htype, htypeNe⟩ := hchanges.eventType
  obtain ⟨changedAt, hchanged, hchangedNe⟩ := hchanges.changedAt
  have heval : groupStateChanged settings st req params =
      applyStateChanged st req n note.receipt eventType changedAt note.version note.seq := by
    simp only [groupStateChanged, hcontext, ok_bind, hreceipt]
    rw [hcarries.body, htype, hchanged, requireNonEmpty_str htypeNe, ok_bind,
      requireNonEmpty_str hchangedNe, ok_bind]
  have hmethod : note.kind.method = .stateChanged := by
    cases hk : note.kind <;> simp_all [NoteKind.method, NoteKind.isMessage]
  rw [heval, applyStateChanged, requireInSequence_of_inv hi hnote hik hki hcarries htype, ok_bind]
  rcases Nat.lt_or_eq_of_le hik with hlt | rfl
  · obtain rfl : k = i + 1 := by omega
    have hrecord := recordInbound_accepted hi.records hnote hlt hcarries
    rw [hmethod] at hrecord
    rw [hrecord, ok_bind]
    exact ⟨_, st, rfl, hi⟩
  · obtain ⟨e, hrecord, hrecords⟩ := recordInbound_pending hi.records hnote hcarries
    rw [hmethod] at hrecord
    rw [hrecord, ok_bind, hcarries.target, hcarries.group]
    dsimp only
    -- A new event is superseded by a read, and only recorded, or it is applied to the view.
    rcases passedEvent_of_inv { st with inboundPeerEvents := st.inboundPeerEvents ++ [e] } hi hnote
        hkind hcarries htype rfl with ⟨view, j, at_, hview, hij, hpassed⟩ | ⟨hpassed, hhost, hstays⟩
    · rw [hpassed, ok_bind]
      have hpos : 0 < i := by
        rcases hi.projection with ⟨-, hnone⟩ | ⟨hpos, -⟩
        · rw [hview.row] at hnone
          cases hnone
        · exact hpos
      refine ⟨_, _, rfl, ?_⟩
      exact {
        records := hrecords
        log := hi.log.mono (Nat.le_succ i) hpos
        messages := hi.messages.mono (Nat.le_succ i)
        answers := hi.answers
        projection := .inr ⟨Nat.succ_pos i, view, j, at_,
          { hview with ahead := by omega, stands := hview.stands.mono (Nat.le_succ i) }⟩ }
    · obtain ⟨-, hgroup, -⟩ := notificationContext_eq_ok hcontext
      obtain ⟨rows, hsubject⟩ := projectSubject_of_changes
        { st with
          inboundPeerEvents := st.inboundPeerEvents ++ [e]
          groupViews := Table.upsert GroupView.key
            (eventView req n (st.groupView? S.owner S.group) S.host eventType changedAt
              note.version note.seq)
            (fun _ ↦ eventView req n (st.groupView? S.owner S.group) S.host eventType changedAt
              note.version note.seq) st.groupViews }
        req n eventType changedAt hchanges hcarries.body
      rw [hpassed, ok_bind]
      simp only [hcarries.peer, orRaise_some, ok_bind, hsubject]
      exact ⟨_, _, rfl, hi.applied hnote hkind hcarries hgroup htype hrecords hhost hstays⟩

end Change

/-! ### A delivered message -/

section Message

variable {S : MemberStream} {st : Store} {k i j : ℕ} {view view' : GroupView} {note at_ : Note}
variable {req : Request} {n : Notification} {m : IncomingMessage}

/-- Only the status and the observation of a view matter for where it stands. -/
theorem StandsAt.congr {ops : List GroupOperation} (h : S.StandsAt ops k view j at_)
    (hstatus : view'.membershipStatus = view.membershipStatus)
    (hhost : view'.hostServiceDid = view.hostServiceDid)
    (hseq : view'.observedEventSeq = view.observedEventSeq)
    (hversion : view'.observedStateVersion = view.observedStateVersion) :
    S.StandsAt ops k view' j at_ := by
  cases h with
  | active hactive hkind hobserved =>
    exact .active (hstatus.trans hactive) hkind fun hj ↦ by
      rw [hseq, hversion]
      exact hobserved hj
  | ended hended hkind hkept hsettled =>
    refine .ended (hstatus.trans hended) hkind hkept fun i earlier hi hj hnote hchange ↦ ?_
    rw [coveredByObservation, hhost, hseq, hversion]
    exact hsettled i earlier hi hj hnote hchange

/-- What the guards of `group_incoming` find for a message at the head of the stream. -/
theorem acceptedBeforeTerminal_of_inv (hi : S.HomeInv st k) (hpos : 0 < k)
    (hview : S.Projected st k view j at_) (hnote : S.notes[i]? = some note)
    (hmessage : note.kind.isMessage = true) (hik : i ≤ k) (hki : k ≤ i + 1)
    (hcarries : S.Carries note req n) :
    (view.membershipStatus = .active ∧
        acceptedBeforeTerminal st view n note.seq note.version = .ok false) ∨
      i < j ∧ acceptedBeforeTerminal st view n note.seq note.version = .ok true := by
  cases hstands : hview.stands with
  | active hstatus _ _ => exact .inl ⟨hstatus, by simp [acceptedBeforeTerminal, hstatus]⟩
  | @ended method hstatus hended hkept _ =>
    have hij : i < j := by
      rcases hview.head hik with hle | ⟨rfl, -⟩
      · rcases Nat.lt_or_eq_of_le hle with hlt | rfl
        · exact hlt
        · obtain rfl : note = at_ := Option.some.inj (hnote.symm.trans hview.position)
          rw [hended] at hmessage
          cases hmessage
      · have hrejoined := (S.follows j at_ note hview.position hnote).rejoined (by rw [hended]; rfl)
        rw [hrejoined.1] at hmessage
        cases hmessage
    exact .inr ⟨hij, acceptedBeforeTerminal_of_ended hi hpos hview hstatus hended
      (hkept (by omega)) hnote hmessage hki hij hcarries.profile hcarries.target hcarries.group⟩

/-- A new message has a fresh id and a fresh number. -/
theorem insertMessageView_of_inv (st₁ : Store) (hi : S.HomeInv st k)
    (hnote : S.notes[k]? = some note) (hkind : note.kind = .message m.messageId)
    (hseq : m.eventSeq = note.seq) (hcarries : S.Carries note req n)
    (hrows : st₁.groupMessageViews = st.groupMessageViews) :
    insertMessageView st₁ (incomingView n m) =
      .ok { st₁ with groupMessageViews := st₁.groupMessageViews ++ [incomingView n m] } := by
  have hfresh : (st₁.groupMessageViews.all fun r ↦
      !decide (r.ownerDid = (incomingView n m).ownerDid ∧ r.groupDid = (incomingView n m).groupDid ∧
        (r.messageId = (incomingView n m).messageId ∨
          r.groupEventSeq = (incomingView n m).groupEventSeq))) = true := by
    rw [List.all_eq_true, hrows]
    intro r hr
    rw [Bool.not_eq_true', decide_eq_false_iff_not]
    rintro ⟨howner, hgroup, hclash⟩
    obtain ⟨i, earlier, hik, hearlier, hearlierKind, hearlierSeq⟩ :=
      hi.messages r hr (howner.trans hcarries.target) (hgroup.trans hcarries.group)
    have hsame : i = k := by
      rcases hclash with hid | hnumber
      · refine S.messageId_inj i k earlier note m.messageId hearlier hnote ?_ hkind
        rw [hearlierKind, hid]
        rfl
      · refine eq_of_seq_eq hearlier hnote ?_
        have hnumbers : (earlier.seq : ℤ) = note.seq := by
          rw [← hearlierSeq, hnumber]
          exact hseq
        exact_mod_cast hnumbers
    omega
  rw [insertMessageView, hfresh, require_true, ok_bind]
  rfl

/-- A row updated in place is found where it was. -/
theorem row?_updateAt {views : List GroupView} {key : String × String}
    (f : GroupView → GroupView) (hf : ∀ v, v.key = key → (f v).key = key)
    (h : Table.row? GroupView.key key views = some view) :
    Table.row? GroupView.key key (Table.updateWhere (fun v ↦ decide (v.key = key)) f views) =
      some (f view) := by
  have hkey : ∀ v : GroupView, decide (v.key = key) = true → (f v).key = v.key := by
    intro v hv
    rw [hf v (of_decide_eq_true hv), of_decide_eq_true hv]
  rw [Table.row?_updateWhere hkey, h]
  simp [Table.key_of_row? h]

/-- An active view is behind the head, or a read covers the head. -/
theorem Projected.notStale (hview : S.Projected st k view j at_) (hnote : S.notes[k]? = some note)
    (hactive : view.membershipStatus = .active) :
    view.groupEventSeq < (note.seq : ℤ) ∨
      coveredByObservation view (some S.host) note.seq note.version = true := by
  rcases hview.head le_rfl with hkj | ⟨rfl, -⟩
  · cases hview.stands with
    | active _ _ hobserved => exact .inr (covered_of_observed hview hnote hkj (hobserved hkj))
    | ended hstatus hended =>
      rw [hstatus] at hactive
      rcases departed_cases hview.position hended with ⟨rfl, -⟩ | ⟨rfl, -⟩ <;> cases hactive
  · have := seq_lt hview.position hnote (Nat.lt_succ_self j)
    rw [hview.seq]
    exact .inl (by omega)

/-- **The projection after a new message** stands where it stood, or at the message. -/
theorem Projected.afterMessage {st' : Store} (hview : S.Projected st k view j at_)
    (hnote : S.notes[k]? = some note) (hmessage : note.kind.isMessage = true)
    (hversion : m.stateVersion = note.version) (hseq : m.eventSeq = note.seq)
    (hactive : view.membershipStatus = .active ∨ k ≤ j)
    (hrow : st'.groupView? S.owner S.group = some (viewAfterMessage n m view))
    (hops : st'.groupOperations = st.groupOperations) :
    ∃ j' at', S.Projected st' (k + 1) (viewAfterMessage n m view) j' at' := by
  rcases hview.head le_rfl with hkj | ⟨hkj, -⟩
  · have hle := seq_le hnote hview.position hkj
    have hvle := version_le hnote hview.position hkj
    refine ⟨j, at_, {
      row := hrow
      host := hview.host
      position := hview.position
      ahead := by omega
      seq := ?_
      version := ?_
      stands := hops ▸ (hview.stands.mono (Nat.le_succ k)).congr rfl rfl rfl rfl }⟩
    · show max view.groupEventSeq m.eventSeq = at_.seq
      rw [hview.seq, hseq]
      omega
    · show max view.groupStateVersion m.stateVersion = at_.version
      rw [hview.version, hversion]
      omega
  · have hposition : S.notes[j + 1]? = some note := hkj ▸ hnote
    have hfollows := S.follows j at_ note hview.position hposition
    have hlt := seq_lt_of_follows hfollows
    have hvle := hfollows.version_le
    have hstatus : view.membershipStatus = .active := hactive.resolve_right (by omega)
    refine ⟨k, note, {
      row := hrow
      host := hview.host
      position := hnote
      ahead := le_rfl
      seq := ?_
      version := ?_
      stands := .active hstatus ?_ fun hj ↦ by omega }⟩
    · show max view.groupEventSeq m.eventSeq = note.seq
      rw [hview.seq, hseq]
      omega
    · show max view.groupStateVersion m.stateVersion = note.version
      rw [hview.version, hversion]
      omega
    · cases hk : note.kind <;> simp_all [NoteKind.isMessage, NoteKind.isDeparture]

/-- **A message at the head of the stream is accepted**, new or repeated. -/
theorem groupIncoming_accepted {settings : Settings} {params : Obj} (hi : S.HomeInv st k)
    (hnote : S.notes[i]? = some note) (hik : i ≤ k) (hki : k ≤ i + 1)
    (hkind : note.kind = .message m.messageId)
    (hcontext : notificationContext settings st req params .incoming = .ok n)
    (hcarries : S.Carries note req n) (hverified : verifiedIncoming st req params n = .ok m)
    (hversion : m.stateVersion = note.version) (hseq : m.eventSeq = note.seq) :
    ∃ result st', groupIncoming settings st req params = .ok (result, st') ∧
      S.HomeInv st' (i + 1) := by
  have hmessage : note.kind.isMessage = true := by rw [hkind]; rfl
  have hmethod : note.kind.method = .incoming := by rw [hkind]; rfl
  have hpos : 0 < k := by
    rcases Nat.eq_zero_or_pos k with rfl | hpos
    · obtain rfl : i = 0 := by omega
      rw [S.starts note hnote] at hkind
      cases hkind
    · exact hpos
  obtain ⟨view, j, at_, hview⟩ : ∃ view j at_, S.Projected st k view j at_ := by
    rcases hi.projection with ⟨rfl, -⟩ | ⟨-, hview⟩
    · omega
    · exact hview
  have hrow : st.groupView? n.targetDid n.groupDid = some view := by
    rw [hcarries.target, hcarries.group, hview.row]
  -- The event is the next one of the view, or one that it has passed already.
  have hgap : decide (m.eventSeq ≤ view.groupEventSeq + 1) = true := by
    rw [decide_eq_true_eq, hseq, hview.seq]
    rcases hview.head hik with hij | ⟨rfl, -⟩
    · have := seq_le hnote hview.position hij
      omega
    · cases hdeparture : at_.kind.isDeparture with
      | false =>
        have := (S.follows j at_ note hview.position hnote).consecutive hdeparture
        omega
      | true =>
        have hrejoined := (S.follows j at_ note hview.position hnote).rejoined hdeparture
        rw [hrejoined.1] at hmessage
        cases hmessage
  -- Either the member is active still, or the message is from before the departure.
  obtain ⟨before, hbefore, hstatus, hahead⟩ : ∃ before,
      acceptedBeforeTerminal st view n m.eventSeq m.stateVersion = .ok before ∧
      (decide (view.membershipStatus = .active) || before) = true ∧
      (view.membershipStatus = .active ∧ before = false ∨ i < j ∧ before = true) := by
    rw [hseq, hversion]
    rcases acceptedBeforeTerminal_of_inv hi hpos hview hnote hmessage hik hki hcarries with
      ⟨hactive, hfalse⟩ | ⟨hij, htrue⟩
    · exact ⟨false, hfalse, by simp [hactive], .inl ⟨hactive, rfl⟩⟩
    · exact ⟨true, htrue, by simp, .inr ⟨hij, rfl⟩⟩
  rw [groupIncoming, hcontext, ok_bind, hverified, ok_bind, applyIncoming, hrow, orRaise_some,
    ok_bind, hbefore, ok_bind, hstatus, require_true, ok_bind, hgap, require_true, ok_bind]
  -- A repeated notice leaves everything as it is; a new one is recorded and moves the view.
  rcases Nat.lt_or_eq_of_le hik with hlt | rfl
  · obtain rfl : k = i + 1 := by omega
    have hrecord := recordInbound_accepted hi.records hnote hlt hcarries
    rw [hmethod, ← hseq] at hrecord
    rw [hrecord, ok_bind]
    exact ⟨_, st, rfl, hi⟩
  · obtain ⟨e, hrecord, hrecords⟩ := recordInbound_pending hi.records hnote hcarries
    rw [hmethod, ← hseq] at hrecord
    rw [hrecord, ok_bind]
    dsimp only
    have hfresh : (decide (view.groupEventSeq < m.eventSeq) || before ||
        coveredByObservation view n.peer m.eventSeq m.stateVersion) = true := by
      rcases hahead with ⟨hactive, -⟩ | ⟨-, rfl⟩
      · rw [hseq, hversion, hcarries.peer]
        rcases hview.notStale hnote hactive with hlt | hcovered
        · simp [hlt]
        · simp [hcovered]
      · simp
    have hinsert := insertMessageView_of_inv
      { st with inboundPeerEvents := st.inboundPeerEvents ++ [e] } hi hnote hkind hseq hcarries rfl
    rw [hfresh, require_true, ok_bind, hinsert, ok_bind, hcarries.target, hcarries.group]
    refine ⟨_, _, rfl, ?_⟩
    exact {
      records := hrecords
      log := hi.log.append (Nat.le_succ i) hpos (by simp [isActivationRow])
      messages := hi.messages.append hnote hkind hseq
      answers := hi.answers
      projection := .inr ⟨Nat.succ_pos i, viewAfterMessage n m view,
        hview.afterMessage hnote hmessage hversion hseq
          (hahead.imp And.left fun h ↦ h.1.le)
          (row?_updateAt (viewAfterMessage n m) (fun _ h ↦ h) hview.row) rfl⟩ }

end Message

/-! ### A roster read -/

section Read

variable {S : MemberStream} {st : Store} {k q : ℕ} {note : Note} {req : Request}
variable {settings : Settings} {result : Obj}

/-- An action succeeds, or it changes nothing. -/
theorem afterHome_cases (settings : Settings) (st : Store) (a : HomeAction) :
    homeCall settings st a = .ok (afterHome settings st a) ∨ afterHome settings st a = st := by
  unfold afterHome
  cases homeCall settings st a with
  | ok st' => exact .inl rfl
  | error e => exact .inr rfl

/-- **A roster read keeps the invariant**: it moves an active projection to the event of the
snapshot and covers everything up to it. -/
theorem HomeInv.afterSnapshot (hi : S.HomeInv st k) (hnote : S.notes[q]? = some note)
    (hsnapshot : S.Snapshot note req result) :
    S.HomeInv (afterHome settings st (.refresh req S.group result)) k := by
  rcases afterHome_cases settings st (.refresh req S.group result) with hcall | hsame
  swap
  · rw [hsame]
    exact hi
  obtain ⟨refreshed, h⟩ := map_snd_eq_ok hcall
  generalize afterHome settings st (.refresh req S.group result) = st' at h ⊢
  unfold refreshRemoteGroupMembers at h
  obtain ⟨authenticated, hcurrent, h⟩ := bind_eq_ok.mp h
  obtain ⟨ownerDid, howner, h⟩ := bind_eq_ok.mp h
  obtain ⟨service, hservice, h⟩ := bind_eq_ok.mp h
  obtain ⟨_, -, h⟩ := bind_eq_ok.mp h
  obtain ⟨hostServiceDid, hhost, h⟩ := bind_eq_ok.mp h
  obtain ⟨profile, -, h⟩ := bind_eq_ok.mp h
  obtain ⟨snapshot, hvalid, hproject⟩ := bind_eq_ok.mp h
  obtain rfl : ownerDid = S.owner := by
    rw [orRaise_eq_ok] at howner
    rw [currentDid, hsnapshot.reader, howner] at hcurrent
    exact (Option.some.inj (Except.ok.inj hcurrent)).symm
  obtain ⟨hhost, hhostNe⟩ := requireNonEmpty_eq_ok hhost
  obtain rfl : hostServiceDid = S.host :=
    Json.str.inj (hhost.symm.trans (hsnapshot.host service hservice))
  obtain ⟨hgroup, hversion, hseq, hhostText⟩ := validatedMemberSnapshot_eq_ok hvalid
  rcases refreshRemoteMemberProjection_eq_ok hgroup hproject with
    rfl | ⟨view, v, s, memberRole, rows, log, issued, hview, hactive, hv, hs, hle, hleSeq,
      hlog, rfl⟩
  · exact hi
  -- The pair of the snapshot is the pair of the notification.
  obtain rfl : v = note.version := by
    rw [hversion, hsnapshot.version, intOf_toString] at hv
    exact (Except.ok.inj hv).symm
  obtain rfl : s = note.seq := by
    rw [snapshotEventSeq, hseq, Obj.lookup_of_get_eq_str hsnapshot.seq] at hs
    have hs := intOrRaise_eq_ok hs
    rw [intOf_toString] at hs
    exact (Except.ok.inj hs).symm
  obtain ⟨hpos, j, at_, hview⟩ : 0 < k ∧ ∃ j at_, S.Projected st k view j at_ := by
    rcases hi.projection with ⟨-, hnone⟩ | ⟨hpos, view', j, at_, hview'⟩
    · rw [hview] at hnone
      cases hnone
    · obtain rfl : view = view' := Option.some.inj (hview.symm.trans hview'.row)
      exact ⟨hpos, j, at_, hview'⟩
  have hjq : j ≤ q := by
    refine le_of_seq_le hview.position hnote ?_
    rw [hview.seq] at hleSeq
    exact_mod_cast hleSeq
  have hhostField : ((snapshot.get "host_service_did").str?.filter (· ≠ "")).getD
      view.hostServiceDid = S.host := by
    have hfilter : (some S.host).filter (· ≠ "") = some S.host := by
      rw [Option.filter_eq_some_iff]
      exact ⟨rfl, by simpa using hhostNe⟩
    rw [hhostText, Json.str?_str, hfilter]
    rfl
  have hahead := hview.ahead
  have hkey : view.key = (S.owner, S.group) := Table.key_of_row? hview.row
  refine {
    records := hi.records
    log := ?_
    messages := hi.messages
    answers := hi.answers
    projection := .inr ⟨hpos, _, q, note, {
      row := row?_updateAt _ (fun _ _ ↦ hkey) hview.row
      host := hhostField
      position := hnote
      ahead := by omega
      seq := rfl
      version := rfl
      stands := .active rfl hsnapshot.member fun _ ↦ ⟨rfl, rfl⟩ }⟩ }
  rcases hlog with rfl | ⟨e, htype, rfl⟩
  · exact hi.log
  · exact hi.log.append le_rfl hpos (by simp [isActivationRow, htype])

end Read

/-! ### The answer to a forwarded command -/

section Answer

variable {S : MemberStream} {st st' : Store} {k m : ℕ} {note : Note} {req : Request}
variable {settings : Settings} {params result : Obj} {method : GroupMethod} {c : ForwardedCommand}

/-- The kept answer, whether it is new or was kept before. -/
theorem recordForwarded_kept (hi : S.AnswersInv st.groupOperations)
    (hnote : S.notes[m]? = some note) (hanswers : S.Answers note method params result)
    (hmethod : c.method = method) (hgroup : c.groupDid = S.group)
    (hactor : note.receipt.get "actor_did" = .str c.senderDid)
    (hoperation : note.receipt.get "operation_id" = .str c.operationId)
    (h : recordForwarded st req c result note.receipt = .ok st') :
    ∃ ops, st' = { st with groupOperations := ops } ∧ S.AnswersInv ops ∧
      (∀ op ∈ st.groupOperations, op ∈ ops) ∧ ∃ op ∈ ops, S.Kept note method op := by
  have hdeparts := (sound_at hnote).departs method hanswers.kind
  obtain ⟨text, htext⟩ := hdeparts.digest
  unfold recordForwarded at h
  obtain ⟨digest, hdigest, h⟩ := bind_eq_ok.mp h
  rw [orRaise_eq_ok] at hdigest
  obtain rfl : digest = .str text :=
    Option.some.inj (hdigest.symm.trans (Obj.lookup_of_get_eq_str htext))
  -- The answer was kept before, and must then be the same, or it is kept now.
  split at h
  · rename_i prior hprior
    obtain ⟨_, hcheck, h⟩ := bind_eq_ok.mp h
    rw [pure_eq_ok] at h
    rw [require_eq_ok] at hcheck
    simp only [Bool.and_eq_true, Json.isStr_str, decide_eq_true_eq] at hcheck
    have hmem := Table.mem_of_row? hprior
    have hkey := Table.key_of_row? hprior
    simp only [GroupOperation.key, Prod.mk.injEq] at hkey
    obtain ⟨hsender, hscope, hcommand, hid⟩ := hkey
    refine ⟨st.groupOperations, h.symm, hi, fun _ hop ↦ hop, prior, hmem, ?_⟩
    rcases hi.known prior hmem (hscope.trans hgroup) with hother | ⟨note', -, method', -, hkept⟩
    · refine absurd ⟨hcommand.trans hmethod, ?_, ?_⟩
        (hother.2.2 note (List.mem_of_getElem? hnote) method hanswers.kind)
      · rw [hactor, hsender]
      · rw [hoperation, hid]
    · obtain rfl : method' = method := hkept.command.symm.trans (hcommand.trans hmethod)
      obtain ⟨receipt, hreceipt, -⟩ := hkept.receipt
      rw [hreceipt] at hcheck
      exact {
        scope := hscope.trans hgroup
        command := hkept.command
        profile := hkept.profile
        actor := by rw [hactor, hsender]
        operation := by rw [hoperation, hid]
        digest := by rw [htext, hcheck.1.1]
        subject := hkept.subject
        receipt := ⟨receipt, hreceipt, hcheck.2, Json.get_str_of_same hcheck.2 hdeparts.seqText,
          Json.get_str_of_same hcheck.2 hdeparts.versionText⟩ }
  · rename_i hnone
    obtain ⟨payloadDigest, hpayload, h⟩ := bind_eq_ok.mp h
    obtain ⟨acceptedAt, -, h⟩ := bind_eq_ok.mp h
    obtain ⟨createdAt, -, h⟩ := bind_eq_ok.mp h
    rw [pure_eq_ok] at h
    obtain rfl : text = payloadDigest := Except.ok.inj hpayload
    have hkept : S.Kept note method
        { senderDid := c.senderDid, groupScope := c.groupDid, method := c.method,
          operationId := c.operationId, payloadDigest := text, result := result,
          createdAt := createdAt, wireProfile := .v2 } := {
      scope := hgroup
      command := hmethod
      profile := rfl
      actor := hactor
      operation := hoperation
      digest := htext
      subject := hanswers.subject
      receipt := ⟨note.receipt, hanswers.receipt, Json.same_refl hdeparts.nanFree,
        hdeparts.seqText, hdeparts.versionText⟩ }
    refine ⟨_, h.symm, ⟨fun op hop hscope ↦ ?_, hi.keyed.append (Table.row?_eq_none.mp hnone)⟩,
      fun op hop ↦ List.mem_append_left _ hop, _, by simp, hkept⟩
    rcases List.mem_append.mp hop with hop | hop
    · exact hi.known op hop hscope
    · obtain rfl := List.mem_singleton.mp hop
      exact .inr ⟨note, List.mem_of_getElem? hnote, method, hanswers.kind, hkept⟩

/-- A written counter is a number again. -/
theorem intOrRaise_toString (n : ℕ) : intOrRaise (.str (toString n)) = .ok (n : ℤ) := by
  rw [intOrRaise, intOf_toString]

/-- The pair of the answer is that of the departure. -/
theorem answerPair_of_answers (hanswers : S.Answers note method params result) (receipt : Obj) :
    answerPair result receipt = .ok ((note.version : ℤ), (note.seq : ℤ)) := by
  have htruthy : (Json.str (toString note.seq)).truthy = true := by simp
  rw [answerPair, hanswers.version, intOrRaise_toString, ok_bind, hanswers.seq, Json.orElse,
    if_pos htruthy, intOrRaise_toString, ok_bind]
  rfl

/-- What the answer does to the projection: nothing, or it ends it at the departure. -/
theorem applyEnding_of_answers (hnote : S.notes[m]? = some note)
    (hanswers : S.Answers note method params result) (hmethod : c.method = method)
    (hgroup : c.groupDid = S.group) {receipt : Obj}
    (h : applyEnding settings st req c result receipt = .ok st') :
    st' = st ∨ ∃ view updatedAt, st.groupView? S.owner S.group = some view ∧
      view.groupEventSeq ≤ note.seq ∧
      st' = { st with
        groupViews := Table.updateWhere (fun v ↦ decide (v.key = (S.owner, S.group)))
          (endedView (departedStatus method) note.version note.seq updatedAt) st.groupViews } := by
  have howner : (Json.str S.owner).truthy = true := by simpa using S.owner_ne
  have hend : ∀ {updatedAt : Option String}, endView st S.owner S.group (departedStatus method)
      note.version note.seq updatedAt = .ok st' → st' = st ∨ ∃ view updatedAt,
        st.groupView? S.owner S.group = some view ∧ view.groupEventSeq ≤ note.seq ∧
        st' = { st with
          groupViews := Table.updateWhere (fun v ↦ decide (v.key = (S.owner, S.group)))
            (endedView (departedStatus method) note.version note.seq updatedAt)
            st.groupViews } := by
    intro updatedAt h
    unfold endView at h
    split at h
    · rename_i view hview
      split at h
      · rename_i hle
        obtain ⟨time, -, h⟩ := bind_eq_ok.mp h
        rw [pure_eq_ok] at h
        exact .inr ⟨view, time, hview, hle, h.symm⟩
      · exact .inl (Except.ok.inj h).symm
    · exact .inl (Except.ok.inj h).symm
  rcases departed_cases hnote hanswers.kind with ⟨rfl, hwords⟩ | ⟨rfl, hwords⟩
  · rw [applyEnding, if_pos hmethod, answerPair_of_answers hanswers, ok_bind,
      hanswers.subject _ _ _ hwords, Json.orElse, if_pos howner, hgroup] at h
    obtain ⟨updatedAt, -, h⟩ := bind_eq_ok.mp h
    exact hend h
  · have hleave : ¬ c.method = .leave := by
      rw [hmethod]
      decide
    rw [applyEnding, if_neg hleave, hanswers.subject _ _ _ hwords, Json.orElse,
      if_pos howner] at h
    dsimp only [Outside.str] at h
    split at h
    · rw [answerPair_of_answers hanswers, ok_bind, hgroup] at h
      obtain ⟨updatedAt, -, h⟩ := bind_eq_ok.mp h
      exact hend h
    · exact .inl (Except.ok.inj h).symm

/-- An answer stays kept. -/
theorem Kept.mono {ops ops' : List GroupOperation} (h : ∀ op ∈ ops, op ∈ ops')
    (hkept : ∃ op ∈ ops, S.Kept note method op) : ∃ op ∈ ops', S.Kept note method op := by
  obtain ⟨op, hop, hkept⟩ := hkept
  exact ⟨op, h op hop, hkept⟩

/-- More kept answers do not move the projection. -/
theorem StandsAt.moreAnswers {ops ops' : List GroupOperation} {view : GroupView} {j : ℕ}
    {at_ : Note} (h : S.StandsAt ops k view j at_) (hops : ∀ op ∈ ops, op ∈ ops') :
    S.StandsAt ops' k view j at_ := by
  cases h with
  | active hstatus hkind hobserved => exact .active hstatus hkind hobserved
  | ended hstatus hkind hkept hsettled =>
    exact .ended hstatus hkind (fun hj ↦ Kept.mono hops (hkept hj)) hsettled

/-- **An answer keeps the invariant** when the state changes before the departure are settled. -/
theorem HomeInv.afterAnswer (hi : S.HomeInv st k) (hnote : S.notes[m]? = some note)
    (hanswers : S.Answers note method params result)
    (hsettled : ∀ view, st.groupView? S.owner S.group = some view →
      ∀ i earlier, k ≤ i → i < m → S.notes[i]? = some earlier → earlier.kind.isMessage = false →
        coveredByObservation view (some S.host) earlier.seq earlier.version = true) :
    S.HomeInv (afterHome settings st (.forward req params method result)) k := by
  rcases afterHome_cases settings st (.forward req params method result) with hcall | hsame
  swap
  · rw [hsame]
    exact hi
  obtain ⟨answer, h⟩ := map_snd_eq_ok hcall
  generalize afterHome settings st (.forward req params method result) = st' at h ⊢
  have hcases := departed_cases hnote hanswers.kind
  have hmutating : method ∈ MUTATING_GROUP_METHODS := by
    rcases hcases with ⟨rfl, -⟩ | ⟨rfl, -⟩ <;> decide
  have hterminal : method = .leave ∨ method = .remove := hcases.imp And.left And.left
  unfold forwardGroupCommand at h
  obtain ⟨c, hc, h⟩ := bind_eq_ok.mp h
  rw [if_pos hmutating] at h
  obtain ⟨receipt, hreceipt, h⟩ := bind_eq_ok.mp h
  obtain ⟨st₂, happly, h⟩ := bind_eq_ok.mp h
  rw [pure_eq_ok, Prod.mk.injEq] at h
  obtain ⟨-, rfl⟩ := h
  -- The command is the one the receipt was issued for.
  obtain ⟨hmethod, -, hmeta, hsender, hid, target, htarget, hdid⟩ := forwardedCommand_eq_ok hc
  obtain ⟨hreceiptObj, hsameId, hsameActor⟩ := validateRemoteReceipt_eq_ok hreceipt
  obtain rfl : note.receipt = receipt := Json.obj.inj (hanswers.receipt.symm.trans hreceiptObj)
  obtain ⟨metaObj, target', hmeta', hprofile, htarget', hdid'⟩ := hanswers.meta_v2
  obtain rfl : c.metaObj = metaObj := Json.obj.inj (hmeta.symm.trans hmeta')
  obtain rfl : target = target' := Json.obj.inj (htarget.symm.trans htarget')
  have hgroup : c.groupDid = S.group := Json.str.inj (hdid.symm.trans hdid')
  have hprofile : (c.metaObj.get "profile").isStr WireProfile.v2.text = true :=
    Json.isStr_iff.mpr hprofile
  rw [hid] at hsameId
  have hactor := hsameActor hprofile
  rw [hsender] at hactor
  rw [applyTerminalProjection, if_pos (hmethod ▸ hterminal)] at happly
  obtain ⟨st₁, hrecord, hending⟩ := bind_eq_ok.mp happly
  rw [recordIfV2, if_pos hprofile] at hrecord
  obtain ⟨ops, rfl, hops, hmore, hkept⟩ := recordForwarded_kept hi.answers hnote hanswers hmethod
    hgroup (Json.eq_str_of_same hactor) (Json.eq_str_of_same hsameId) hrecord
  rcases applyEnding_of_answers hnote hanswers hmethod hgroup hending with
    rfl | ⟨view, updatedAt, hview, hle, rfl⟩
  · exact {
      records := hi.records
      log := hi.log
      messages := hi.messages
      answers := hops
      projection := hi.projection.imp_right fun ⟨hpos, view, j, at_, hview⟩ ↦
        ⟨hpos, view, j, at_, { hview with stands := hview.stands.moreAnswers hmore }⟩ }
  · rcases hi.projection with ⟨-, hnone⟩ | ⟨hpos, view', j, at_, hprojected⟩
    · cases hnone.symm.trans hview
    obtain rfl : view = view' := Option.some.inj (hview.symm.trans hprojected.row)
    have hjm : j ≤ m := by
      refine le_of_seq_le hprojected.position hnote ?_
      rw [hprojected.seq] at hle
      exact_mod_cast hle
    have hahead := hprojected.ahead
    exact {
      records := hi.records
      log := hi.log
      messages := hi.messages
      answers := hops
      projection := .inr ⟨hpos, _, m, note, {
        row := row?_updateAt _ (fun _ h ↦ h) hprojected.row
        host := hprojected.host
        position := hnote
        ahead := by omega
        seq := rfl
        version := rfl
        stands := .ended rfl hanswers.kind (fun _ ↦ hkept) (hsettled view hview) }⟩ }

end Answer

/-! ### Runs -/

/-- The invariant of a run. -/
structure RunInv (S : MemberStream) (r : HomeRun) : Prop where
  home : S.HomeInv r.store r.received
  behind : r.acked ≤ r.received
  head : r.received ≤ r.acked + 1

/-- **The head of the stream is accepted** in every state of the invariant. -/
theorem RunInv.accepts {settings : Settings} {S : MemberStream} {r : HomeRun} {a : HomeAction}
    {note : Note} (hi : S.RunInv r) (hnote : S.notes[r.acked]? = some note)
    (hdelivers : S.Delivers settings r.store note a) :
    ∃ st', homeCall settings r.store a = .ok st' ∧ S.HomeInv st' (r.acked + 1) := by
  cases hdelivers with
  | change hkind hcontext hcarries hreceipt =>
    obtain ⟨result, st', hok, hinv⟩ := groupStateChanged_accepted hi.home hnote hi.behind hi.head
      hkind hcontext hcarries hreceipt
    exact ⟨st', by rw [homeCall, hok]; rfl, hinv⟩
  | message hkind hcontext hcarries hmessage hversion hseq =>
    obtain ⟨result, st', hok, hinv⟩ := groupIncoming_accepted hi.home hnote hi.behind hi.head
      hkind hcontext hcarries hmessage hversion hseq
    exact ⟨st', by rw [homeCall, hok]; rfl, hinv⟩

/-- **The step lemma.** -/
theorem RunInv.step {settings : Settings} {S : MemberStream} {r r' : HomeRun} {a : HomeAction}
    (hi : S.RunInv r) (hcond : S.ChangesSettled r a) (h : S.StreamStep settings r a r') :
    S.RunInv r' := by
  cases h with
  | accepted hnote hdelivers hcall answered =>
    obtain ⟨st', hok, hinv⟩ := hi.accepts hnote hdelivers
    obtain rfl := Except.ok.inj (hok.symm.trans hcall)
    refine ⟨hinv, ?_, ?_⟩
    · dsimp only
      split <;> omega
    · dsimp only
      split <;> omega
  | refused => exact hi
  | answer hnote hanswers =>
    exact ⟨hi.home.afterAnswer hnote hanswers (hcond _ _ hnote hanswers), hi.behind, hi.head⟩
  | snapshot hnote hsnapshot =>
    exact ⟨hi.home.afterSnapshot hnote hsnapshot, hi.behind, hi.head⟩

end MemberStream

open MemberStream

/-- **Every delivered notification is accepted**: in every run in which the state changes before a
departure are settled when its answer is applied, the Home accepts the head of the stream. -/
theorem authentic_notifications_accepted {settings : Settings} {S : MemberStream} {st₀ : Store}
    {r : HomeRun} {a : HomeAction} {note : Note} (h₀ : S.Fresh st₀)
    (h : ReachesWith (S.StreamStep settings) S.ChangesSettled ⟨st₀, 0, 0⟩ r)
    (hnote : S.notes[r.acked]? = some note) (hdelivers : S.Delivers settings r.store note a) :
    ∃ st', homeCall settings r.store a = .ok st' := by
  have hinv : S.RunInv r := ReachesWith.invariant (I := S.RunInv) h
    ⟨h₀.inv, le_rfl, Nat.le_succ 0⟩ fun hi hcond hstep ↦ hi.step hcond hstep
  obtain ⟨st', hok, -⟩ := hinv.accepts hnote hdelivers
  exact ⟨st', hok⟩

/-! ### A change that comes after the answer -/

/-- The receipt of an event of the sample stream. -/
def streamReceipt (version seq : ℕ) (subjectMethod : String) : Obj :=
  [("group_did", .str remoteGroup), ("group_state_version", .str (toString version)),
    ("group_event_seq", .str (toString seq)), ("subject_method", .str subjectMethod),
    ("actor_did", .str alice), ("operation_id", .str "op-1"),
    ("payload_digest", .str "sha-256=:body:"), ("accepted_at", .str "2026-01-01T00:00:00Z")]

/-- A notification of the sample stream. -/
def streamNote (kind : NoteKind) (version seq : ℕ) (eventType subjectMethod : String)
    (fields : Obj) : Note where
  seq := seq
  version := version
  kind := kind
  body := [("group_did", .str remoteGroup), ("event_type", .str eventType),
    ("subject_method", .str subjectMethod), ("group_state_version", .str (toString version)),
    ("group_event_seq", .str (toString seq)), ("changed_at", .str "2026-01-01T00:00:00Z"),
    ("group_receipt", .obj (streamReceipt version seq subjectMethod))] ++ fields
  receipt := streamReceipt version seq subjectMethod

/-- Alice was added to the group. -/
def joinedNote : Note := streamNote .activated 3 5 "member-activated" "group.add" sampleJoined

/-- The profile of the group was updated. -/
def updatedNote : Note :=
  streamNote .changed 4 6 "group-profile-updated" "group.update_profile" []

/-- Alice left. -/
def leftNote : Note :=
  streamNote (.departed .leave) 5 7 "member-left" "group.leave"
    [("subject_did", .str alice), ("membership_status", .str "left")]

/-- Such a notification changes the state of the group. -/
theorem streamNote_changes {kind : NoteKind} {version seq : ℕ} {eventType subjectMethod : String}
    {fields : Obj} (hevent : eventType ≠ "")
    (htexts : ∀ key ∈ ["subject_handle", "handle_binding_generation", "role", "membership_status"],
      ((fields.get key).isNull || (fields.get key).str?.isSome) = true) :
    (streamNote kind version seq eventType subjectMethod fields).Changes where
  eventType := ⟨eventType, rfl, hevent⟩
  changedAt := ⟨_, rfl, by decide⟩
  seqText := rfl
  texts key hkey := by
    have htext : fields.get key = .null ∨ ∃ text, fields.get key = .str text := by
      have hcheck := htexts key hkey
      cases hget : fields.get key with
      | null => exact .inl rfl
      | str text => exact .inr ⟨text, rfl⟩
      | _ =>
        rw [hget] at hcheck
        cases hcheck
    simp only [List.mem_cons, List.not_mem_nil, or_false] at hkey
    rcases hkey with rfl | rfl | rfl | rfl <;> exact htext

/-- The stream: Alice joins, the profile is updated, Alice leaves. -/
def sampleStream : MemberStream where
  owner := alice
  group := remoteGroup
  host := "did:wba:peer.example"
  digest _ := "sha-256=:body:"
  notes := [joinedNote, updatedNote, leftNote]
  owner_ne := by decide
  sound := by
    intro note hnote
    simp only [List.mem_cons, List.not_mem_nil, or_false] at hnote
    rcases hnote with rfl | rfl | rfl
    · exact {
        seq_pos := by decide
        version_pos := by decide
        changes := fun _ ↦ streamNote_changes (by decide) (by decide)
        activated := fun _ ↦ ⟨rfl, rfl, rfl⟩
        stays := fun _ _ _ ↦ ⟨fun h ↦ absurd (Json.str.inj h) (by decide),
          fun h ↦ absurd (Json.str.inj h) (by decide)⟩
        departs := fun _ h ↦ by cases h }
    · exact {
        seq_pos := by decide
        version_pos := by decide
        changes := fun _ ↦ streamNote_changes (by decide) (by decide)
        activated := fun h ↦ by cases h
        stays := fun _ _ _ ↦ ⟨fun h ↦ absurd (Json.str.inj h) (by decide),
          fun h ↦ absurd (Json.str.inj h) (by decide)⟩
        departs := fun _ h ↦ by cases h }
    · exact {
        seq_pos := by decide
        version_pos := by decide
        changes := fun _ ↦ streamNote_changes (by decide) (by decide)
        activated := fun h ↦ by cases h
        stays := fun _ h ↦ by cases h
        departs := by
          rintro _ ⟨⟩
          exact {
            words := ⟨_, _, _, rfl, rfl, rfl⟩
            subject := rfl
            subjectMethod := rfl
            actor := ⟨_, rfl⟩
            operation := ⟨_, rfl⟩
            digest := ⟨_, rfl⟩
            seqText := rfl
            versionText := rfl
            nanFree := by decide } }
  starts := by
    rintro _ ⟨⟩
    rfl
  follows := by
    intro i a b ha hb
    match i with
    | 0 =>
      obtain rfl := Option.some.inj ha
      obtain rfl := Option.some.inj hb
      exact ⟨by decide, fun _ ↦ by decide, fun _ ↦ rfl, fun h ↦ by cases h⟩
    | 1 =>
      obtain rfl := Option.some.inj ha
      obtain rfl := Option.some.inj hb
      exact ⟨by decide, fun _ ↦ by decide, fun _ ↦ rfl, fun h ↦ by cases h⟩
    | i + 2 => cases hb
  messageId_inj := by
    intro i j a b id ha _ hkind
    match i with
    | 0 =>
      obtain rfl := Option.some.inj ha
      cases hkind
    | 1 =>
      obtain rfl := Option.some.inj ha
      cases hkind
    | 2 =>
      obtain rfl := Option.some.inj ha
      cases hkind
    | i + 3 => cases ha

/-- The delivery of a notification of that stream. -/
def streamDelivery (note : Note) : HomeAction :=
  .stateChanged peerRequest (sampleNotificationParams note.body)

/-- The envelope and the receipt of a sample delivery verify. -/
def deliveryVerifies (st : Store) (note : Note) : Bool :=
  match notificationContext .sample st peerRequest (sampleNotificationParams note.body)
      .stateChanged, verifiedReceipt st peerRequest note.body .stateChanged with
  | .ok n, .ok (_, v, s) =>
    decide (n.profile = .v2 ∧ n.targetDid = alice ∧ n.groupDid = remoteGroup ∧
      n.peer = some "did:wba:peer.example" ∧ v = note.version ∧ s = note.seq)
  | _, _ => false

/-- Its delivery is one of the stream. -/
theorem streamDelivery_delivers {st : Store} {note : Note} (hkind : note.kind.isMessage = false)
    (hreceipt : note.body.get "group_receipt" = .obj note.receipt)
    (h : deliveryVerifies st note = true) :
    sampleStream.Delivers .sample st note (streamDelivery note) := by
  unfold deliveryVerifies at h
  split at h
  · rename_i n receipt v s hcontext hverified
    rw [decide_eq_true_eq] at h
    obtain ⟨hprofile, htarget, hgroup, hpeer, rfl, rfl⟩ := h
    have hbody : n.body = note.body := (Json.obj.inj (notificationContext_eq_ok hcontext).1).symm
    obtain rfl : receipt = note.receipt :=
      Json.obj.inj ((verifiedReceipt_eq_ok hverified).1.symm.trans hreceipt)
    exact .change hkind hcontext ⟨hbody, hprofile, htarget, hgroup, hpeer, rfl⟩
      (by rw [hbody]; exact hverified)
  · cases h

/-- Alice's leave, forwarded to the Host. -/
def leaveParams : Obj :=
  [("_anp_meta", .obj [("profile", .str WireProfile.v2.text), ("sender_did", .str alice),
      ("operation_id", .str "op-1"),
      ("target", .obj [("kind", .str "group"), ("did", .str remoteGroup)])]),
    ("_anp_body", .obj [("group_did", .str remoteGroup)]), ("_anp_auth", .obj sampleAuth)]

/-- The answer of the Host to it. -/
def leaveResult : Obj :=
  [("accepted", .bool true), ("group_did", .str remoteGroup), ("operation_id", .str "op-1"),
    ("group_state_version", .str (toString 5)), ("group_event_seq", .str (toString 7)),
    ("leaver_did", .str alice), ("group_receipt", .obj leftNote.receipt)]

/-- The Home forwards it, and applies the answer. -/
def leaveAnswered : HomeAction :=
  .forward { surface := .localRpc, credentials := .bearer alice, outside := .honest } leaveParams
    .leave leaveResult

/-- It answers for the departure. -/
theorem leaveResult_answers : sampleStream.Answers leftNote .leave leaveParams leaveResult where
  kind := rfl
  meta_v2 := ⟨_, _, rfl, rfl, rfl, rfl⟩
  receipt := rfl
  version := rfl
  seq := rfl
  subject := by
    rintro _ _ _ ⟨⟩
    rfl

/-- The Home starts without the group. -/
theorem sampleHome_fresh : sampleStream.Fresh sampleHome where
  view := rfl
  records := by rintro _ ⟨⟩
  activations := by rintro _ ⟨⟩
  messages := by rintro _ ⟨⟩
  operations := by rintro _ ⟨⟩
  keyed := List.Pairwise.nil

/-- A delivery that the Home accepts and answers. -/
theorem streamDelivery_accepted {st : Store} {n : ℕ} {note : Note}
    (hnote : sampleStream.notes[n]? = some note)
    (hdelivers : sampleStream.Delivers .sample st note (streamDelivery note))
    (hok : (homeCall .sample st (streamDelivery note)).isOk = true) :
    sampleStream.StreamStep .sample ⟨st, n, n⟩ (streamDelivery note)
      ⟨afterHome .sample st (streamDelivery note), n + 1, n + 1⟩ := by
  refine .accepted hnote hdelivers ?_ true
  unfold afterHome
  cases hcall : homeCall .sample st (streamDelivery note) with
  | ok st' => rfl
  | error e =>
    rw [hcall] at hok
    cases hok

/-- Alice has joined. -/
def homeJoined : Store := afterHome .sample sampleHome (streamDelivery joinedNote)

/-- The joining is delivered and accepted. -/
theorem homeJoined_reached (C : HomeRun → HomeAction → Prop)
    (hC : ∀ r req params, C r (.stateChanged req params)) :
    ReachesWith (sampleStream.StreamStep .sample) C ⟨sampleHome, 0, 0⟩ ⟨homeJoined, 1, 1⟩ :=
  .tail (.refl _) (hC _ _ _) (streamDelivery_accepted rfl
    (streamDelivery_delivers rfl rfl (by decide +kernel)) (by decide +kernel))

/-- **A late change blocks the stream.** Alice joins; the profile is updated; Alice leaves, and the
answer of the Host comes back before the notification of the update. The update is then refused as
stale, although the Host sent it in order. -/
theorem late_change_refused :
    ¬ ∀ (settings : Settings) (S : MemberStream) (st₀ : Store) (r : HomeRun) (a : HomeAction)
      (note : Note), S.Fresh st₀ → Reaches (S.StreamStep settings) ⟨st₀, 0, 0⟩ r →
      S.notes[r.acked]? = some note → S.Delivers settings r.store note a →
      ∃ st', homeCall settings r.store a = .ok st' := by
  intro hall
  have hrun : Reaches (sampleStream.StreamStep .sample) ⟨sampleHome, 0, 0⟩
      ⟨afterHome .sample homeJoined leaveAnswered, 1, 1⟩ :=
    Reaches.tail (homeJoined_reached _ fun _ _ _ ↦ trivial)
      (.answer (m := 2) rfl leaveResult_answers)
  have hdelivers : sampleStream.Delivers .sample (afterHome .sample homeJoined leaveAnswered)
      updatedNote (streamDelivery updatedNote) :=
    streamDelivery_delivers rfl rfl (by decide +kernel)
  -- The store is a variable here, so that matching the run's state does not evaluate it.
  have haccepted : ∀ st, Reaches (sampleStream.StreamStep .sample) ⟨sampleHome, 0, 0⟩ ⟨st, 1, 1⟩ →
      sampleStream.Delivers .sample st updatedNote (streamDelivery updatedNote) →
      ∃ st', homeCall .sample st (streamDelivery updatedNote) = .ok st' :=
    fun st hst hd ↦ hall .sample sampleStream sampleHome ⟨st, 1, 1⟩ _ updatedNote sampleHome_fresh
      hst rfl hd
  obtain ⟨st', hok⟩ := haccepted _ hrun hdelivers
  have hrefused : (homeCall .sample (afterHome .sample homeJoined leaveAnswered)
      (streamDelivery updatedNote)).isOk = false := by decide +kernel
  rw [hok] at hrefused
  cases hrefused

/-- The update is delivered before the answer is applied: the notification of the departure is
accepted. -/
theorem departure_accepted_after_answer :
    ∃ st', homeCall .sample
      (afterHome .sample (afterHome .sample homeJoined (streamDelivery updatedNote)) leaveAnswered)
      (streamDelivery leftNote) = .ok st' := by
  have hupdated : ReachesWith (sampleStream.StreamStep .sample) sampleStream.ChangesSettled
      ⟨sampleHome, 0, 0⟩ ⟨afterHome .sample homeJoined (streamDelivery updatedNote), 2, 2⟩ :=
    (homeJoined_reached _ fun _ _ _ ↦ trivial).tail (l := streamDelivery updatedNote) trivial
      (streamDelivery_accepted rfl (streamDelivery_delivers rfl rfl (by decide +kernel))
        (by decide +kernel))
  have hsettled : sampleStream.ChangesSettled
      ⟨afterHome .sample homeJoined (streamDelivery updatedNote), 2, 2⟩ leaveAnswered := by
    intro m note hnote _ view _ i earlier hi him
    -- The departure is the last notification, and both before it have been accepted.
    have hm : m < 3 := (List.getElem?_eq_some_iff.mp hnote).1
    dsimp only at hi
    omega
  have hanswered : ReachesWith (sampleStream.StreamStep .sample) sampleStream.ChangesSettled
      ⟨sampleHome, 0, 0⟩ ⟨afterHome .sample (afterHome .sample homeJoined
        (streamDelivery updatedNote)) leaveAnswered, 2, 2⟩ :=
    hupdated.tail hsettled (.answer (m := 2) rfl leaveResult_answers)
  have haccepted : ∀ st, ReachesWith (sampleStream.StreamStep .sample) sampleStream.ChangesSettled
      ⟨sampleHome, 0, 0⟩ ⟨st, 2, 2⟩ →
      sampleStream.Delivers .sample st leftNote (streamDelivery leftNote) →
      ∃ st', homeCall .sample st (streamDelivery leftNote) = .ok st' :=
    fun st hst hd ↦ authentic_notifications_accepted (r := ⟨st, 2, 2⟩) sampleHome_fresh hst rfl hd
  exact haccepted _ hanswered (streamDelivery_delivers rfl rfl (by decide +kernel))

end Awiki
