import AwikiOpenServer.Messaging.Groups.Recipients

/-!
# How far the outbox may fill up

Every operation that announces something first counts the remote members of its group, adds them to
the rows that still have to be delivered, and gives up when the sum is above a limit. The rows are
inserted much later, after the roster has changed once more or not at all, and a version 2 departure
announces its event to one member that is no longer in the roster.

What makes the bound hold is that **the count is never short** (`HostedAccepted.backlog`): the
roster it reads is, up to the order of the rows, the one the event is announced to, and where the
two differ, at a version 2 departure, the count is taken before the member leaves. The bound is then
an induction: an event adds at most its recipients, an attempt adds nothing.

## Two limits

Messages are refused above the configured limit, and management operations only above a reserve
beyond it, so that members can still be removed from a group whose peers cannot be reached. The
invariant is therefore the larger of the two, and the theorem says more of a message: after one that
has enqueued anything, the rows are within the smaller. Creations count nothing, because they
enqueue nothing.

## Counting

A row is pending until it is delivered or dead, and the count is `pendingRows`, over the whole
outbox and not the group's part. Attempts only ever make a row stop being pending
(`pendingRows_recordAttempt_le`). `Advance.CheckedFor` is the fact about one advance that the
handlers have to establish: the capacity was checked for at least as many rows as are enqueued. For
the operations where nobody departs it is immediate, and for a departure it compares two rosters
(`Advance.checkedFor_of_leaving`).
-/

namespace Awiki

open Py Runs

/-! ### The limit -/

/-- What management operations may use beyond the limit of messages. -/
def outboxReserve (settings : Settings) : ℕ :=
  max 10 (min 100 (settings.groupOutboxMaxPending / 100))

/-- The rows an operation may leave undelivered. -/
def backlogLimit (settings : Settings) (managementOperation : Bool) : ℕ :=
  settings.groupOutboxMaxPending + (if managementOperation then outboxReserve settings else 0)

/-- **The check passes** where there is nobody to tell, or room for all. -/
theorem ensureOutboxCapacity_eq_ok {settings : Settings} {st : Store} {groupDid : String}
    {managementOperation : Bool} :
    ensureOutboxCapacity settings st groupDid managementOperation = .ok () ↔
      remoteMembers settings st groupDid = [] ∨
        pendingRows st + (remoteMembers settings st groupDid).length ≤
          backlogLimit settings managementOperation := by
  unfold ensureOutboxCapacity
  rw [← List.length_eq_zero_iff]
  dsimp only
  split
  · rename_i hnone
    exact iff_of_true rfl (.inl hnone)
  · rename_i hsome
    rw [require_eq_ok, decide_eq_true_eq, or_iff_right hsome]
    rfl

/-! ### Counting undelivered rows -/

/-- Pending rows are those that are due. -/
theorem pendingRows_eq (st : Store) :
    pendingRows st = st.groupDeliveryOutbox.countP OutboxRow.isDue :=
  List.countP_eq_length_filter.symm

/-- They are read off the outbox. -/
theorem pendingRows_congr {st st' : Store}
    (h : st'.groupDeliveryOutbox = st.groupDeliveryOutbox) : pendingRows st' = pendingRows st := by
  rw [pendingRows_eq, pendingRows_eq, h]

/-- Enqueueing adds at most one row for each member. -/
theorem pendingRows_enqueueAll_le (groupDid createdAt : String) (groupEventSeq : ℕ)
    (method : GroupMethod) (envelopeFor : String → Obj) (members : List HostedMember) (st : Store) :
    pendingRows (enqueueAll st groupDid groupEventSeq method envelopeFor createdAt members) ≤
      pendingRows st + members.length := by
  induction members generalizing st with
  | nil => exact le_rfl
  | cons m rest ih =>
    have hone : pendingRows (enqueue st groupDid groupEventSeq m.agentDid
        (m.homeServiceDid.getD "None") method (envelopeFor m.agentDid) createdAt) ≤
        pendingRows st + 1 := by
      rw [pendingRows_eq, pendingRows_eq, enqueue]
      dsimp only
      split
      · exact Nat.le_succ _
      · rw [List.countP_append, List.countP_singleton]
        split <;> omega
    have hrest := ih (enqueue st groupDid groupEventSeq m.agentDid
      (m.homeServiceDid.getD "None") method (envelopeFor m.agentDid) createdAt)
    rw [enqueueAll] at hrest
    rw [enqueueAll, List.foldl_cons, List.length_cons]
    omega

/-- An attempt settles a row or leaves it due. -/
theorem pendingRows_recordAttempt_le (st : Store) (row : OutboxRow) (outcome : AttemptOutcome)
    (now nextAttempt updatedAt : String) :
    pendingRows (recordAttempt st row outcome now nextAttempt updatedAt) ≤ pendingRows st := by
  rw [pendingRows_eq, pendingRows_eq, recordAttempt]
  refine Table.countP_updateWhere_le fun r _ hr _ ↦ ?_
  exact (Bool.and_eq_true _ _ ▸ hr).2

section Advances

variable {settings : Settings} {st st' : Store}

/-- An event adds at most one row for each recipient. -/
theorem Advance.pendingRows_le (a : Advance settings st st') :
    pendingRows st' ≤ pendingRows st + a.recipients.length := by
  have hadded := pendingRows_enqueueAll_le a.group.groupDid a.now (a.group.groupEventSeq + 1)
    a.notification a.envelopeFor a.recipients a.enqueuing
  rw [pendingRows_congr a.enqueuing_outbox] at hadded
  rw [pendingRows_congr a.outbox]
  exact hadded

/-- An event without recipients leaves the outbox alone. -/
theorem Advance.outbox_of_no_recipients (a : Advance settings st st') (h : a.recipients = []) :
    st'.groupDeliveryOutbox = st.groupDeliveryOutbox := by
  have hrows := a.outbox
  rw [← Advance.recipients, h] at hrows
  exact hrows.trans a.enqueuing_outbox

/-- **The count is not short**: the capacity was checked for at least the recipients there are. -/
def Advance.CheckedFor (a : Advance settings st st') (managementOperation : Bool) : Prop :=
  ∃ s : Store, s.groupDeliveryOutbox = st.groupDeliveryOutbox ∧
    ensureOutboxCapacity settings s a.group.groupDid managementOperation = .ok () ∧
    a.recipients.length ≤ (remoteMembers settings s a.group.groupDid).length

/-- An advance whose count was not short is within its limit. -/
theorem Advance.CheckedFor.bound {a : Advance settings st st'} {managementOperation : Bool}
    (h : a.CheckedFor managementOperation) :
    st'.groupDeliveryOutbox = st.groupDeliveryOutbox ∨
      pendingRows st' ≤ backlogLimit settings managementOperation := by
  obtain ⟨s, houtbox, hcapacity, hrecipients⟩ := h
  rcases ensureOutboxCapacity_eq_ok.mp hcapacity with hnone | hroom
  · refine .inl (a.outbox_of_no_recipients (List.length_eq_zero_iff.mp ?_))
    rw [hnone] at hrecipients
    exact Nat.le_zero.mp hrecipients
  · have hadded := a.pendingRows_le
    rw [pendingRows_congr houtbox] at hroom
    exact .inr (by omega)

/-- Only a leave and a removal let somebody depart. -/
theorem RosterStep.departed_eq_none {groupDid : String} {members members' : List HostedMember}
    {method : GroupMethod} {departed : Option String}
    (h : RosterStep groupDid members method departed members') (hleave : method ≠ .leave)
    (hremove : method ≠ .remove) : departed = none := by
  cases h with
  | ended did now status hmethod => simp_all
  | _ => rfl

/-- Where nobody departs, the count is the fan-out: both read the new roster. -/
theorem Advance.checkedFor_of_staying (a : Advance settings st st') {s : Store}
    {managementOperation : Bool} (hdeparted : a.ctx.profile = .v2 → a.departed = none)
    (hcapacity : ensureOutboxCapacity settings s a.group.groupDid managementOperation = .ok ())
    (hroster : st'.hostedGroupMembers = s.hostedGroupMembers)
    (houtbox : s.groupDeliveryOutbox = st.groupDeliveryOutbox) :
    a.CheckedFor managementOperation := by
  have hnone : (if a.ctx.profile = .v2 then a.departed else none) = none := by
    split
    · rename_i hv2
      exact hdeparted hv2
    · rfl
  refine ⟨s, houtbox, hcapacity, ?_⟩
  rw [Advance.recipients, hnone, remoteMembers_congr hroster]
  exact (congrArg List.length (List.append_nil _)).le

/-- **A departure** is announced to remote members of the roster before it, each once. -/
theorem Advance.checkedFor_of_leaving (a : Advance settings st st') {did now : String}
    {status : MemberStatus} (hk : Table.Keyed HostedMember.key st.hostedGroupMembers)
    (hstatus : status ≠ .active)
    (hroster : st'.hostedGroupMembers = (endMember st a.group.groupDid did status
      now).hostedGroupMembers)
    (hcapacity : ensureOutboxCapacity settings st a.group.groupDid true = .ok ()) :
    a.CheckedFor true := by
  have hdid : a.event.groupDid = a.group.groupDid := congrArg Prod.fst a.event_key
  have hsub : a.recipients.map HostedMember.agentDid ⊆
      (remoteMembers settings st a.group.groupDid).map HostedMember.agentDid := by
    intro d hd
    rw [mem_remoteMembers_agentDid]
    rcases (a.mem_recipients hk d).mp hd with hafter | ⟨-, -, hbefore, -⟩
    · exact ((remoteActive_updateWhere hstatus hroster d).mp hafter).2
    · exact hdid ▸ hbefore
  have hle := (List.subperm_of_subset (a.recipients_nodup hk) hsub).length_le
  rw [List.length_map, List.length_map] at hle
  exact ⟨st, rfl, hcapacity, hle⟩

end Advances

/-! ### The handlers -/

/-- **What a call leaves undelivered.** A successful call leaves the outbox alone or keeps it within
the limit of its kind. -/
theorem HostedAccepted.backlog {settings : Settings} {st st' : Store} {call : HostedCall}
    {result : Obj} (h : HostedAccepted settings st call result st')
    (hk : Table.Keyed HostedMember.key st.hostedGroupMembers) :
    st'.groupDeliveryOutbox = st.groupDeliveryOutbox ∨
      pendingRows st' ≤ backlogLimit settings (decide (call.method ≠ .send)) := by
  cases h with
  | replayed s hs ctx scope hmethod hreplay hsame => exact .inl (congrArg _ hsame)
  | created ctx groupDid keyPath document profile policy creator prepared limit hmethod hctx hpolicy
      hprepared hlimit hcount hdomain hcommit =>
    obtain ⟨c, -⟩ := commitCreate_creation hcommit hctx.method_eq hdomain
    exact .inl c.outbox
  | admitted ctx group a home limit hmethod hctx hgroup hreplay hhome hinactive hlimit hcount hfree
      hcapacity haccept =>
    have hsend : call.method ≠ .send := by rcases hmethod with hm | hm <;> simp [hm]
    obtain ⟨adv, rfl, rfl, -, -, hroster, -⟩ := acceptStateChange_of_checked hsend hctx hgroup
      (activation_wellformed group a) (rosterStep_admitted hmethod) haccept
    have hnone := adv.roster.departed_eq_none
      (by rw [hctx.method_eq]; rcases hmethod with hm | hm <;> simp [hm])
      (by rw [hctx.method_eq]; rcases hmethod with hm | hm <;> simp [hm])
    rw [decide_eq_true hsend]
    exact (adv.checkedFor_of_staying (fun _ ↦ hnone) hcapacity hroster rfl).bound
  | ended ctx group targetDid hmethod hctx hgroup hreplay htarget hcapacity haccept =>
    have hsend : call.method ≠ .send := by rcases hmethod with hm | hm <;> simp [hm]
    have hstatus : endedStatus call.method ≠ .active := by
      rcases hmethod with hm | hm <;> simp [hm, endedStatus]
    obtain ⟨adv, rfl, rfl, -, -, hroster, -⟩ := acceptStateChange_of_checked hsend hctx hgroup
      (departure_wellformed hmethod targetDid) (rosterStep_ended hmethod htarget) haccept
    rw [decide_eq_true hsend]
    -- Version 2 counts before the member leaves and tells it; version 1 does neither.
    by_cases hv2 : adv.ctx.profile = .v2
    · rw [if_pos hv2] at hcapacity
      exact (adv.checkedFor_of_leaving hk hstatus hroster hcapacity).bound
    · rw [if_neg hv2] at hcapacity
      exact (adv.checkedFor_of_staying (fun h ↦ absurd h hv2) hcapacity hroster rfl).bound
  | rebound ctx group binding member previousDid newDid home hmethod hctx hgroup hreplay hprevious
      hnew hhome hmember hhandle hmemberActive hfresh hcapacity haccept =>
    obtain ⟨adv, rfl, rfl, -, -, hroster, -⟩ := acceptStateChange_of_checked (by simp [hmethod])
      hctx hgroup (rebinding_wellformed binding previousDid newDid)
      (hmethod ▸ .rebound previousDid newDid home binding (Table.row?_eq_none.mp hfresh)) haccept
    have hnone := adv.roster.departed_eq_none (by simp [hctx.method_eq, hmethod])
      (by simp [hctx.method_eq, hmethod])
    rw [hmethod]
    exact (adv.checkedFor_of_staying (fun _ ↦ hnone) hcapacity hroster rfl).bound
  | updated ctx group patch value hmethod hctx hgroup hreplay hcapacity hvalue haccept =>
    have hsend : call.method ≠ .send := by rcases hmethod with hm | hm <;> simp [hm]
    obtain ⟨hwell, hdeparted⟩ := groupUpdate_wellformed hmethod value
    have hsame : RosterStep group.groupDid st.hostedGroupMembers call.method
        (groupUpdate call.method value).departed st.hostedGroupMembers := by
      rw [hdeparted]
      exact .same (by rcases hmethod with hm | hm <;> simp [hm])
    obtain ⟨adv, rfl, rfl, -, -, hroster, -⟩ :=
      acceptStateChange_of_checked hsend hctx hgroup hwell hsame haccept
    have hnone := adv.roster.departed_eq_none
      (by rw [hctx.method_eq]; rcases hmethod with hm | hm <;> simp [hm])
      (by rw [hctx.method_eq]; rcases hmethod with hm | hm <;> simp [hm])
    rw [decide_eq_true hsend]
    exact (adv.checkedFor_of_staying (fun _ ↦ hnone) hcapacity hroster rfl).bound
  | sent ctx group messageId contentType hmethod hctx hmessageId hcontentType hcheck hgroup hreplay
      hcapacity hfresh haccept =>
    obtain ⟨hfound, -, hprofile, hactive⟩ := groupRow_eq_ok hgroup
    obtain ⟨adv, rfl, rfl, -, -, -, -, -, -, hroster, -⟩ := acceptMessage_advance haccept hfound
      hprofile hactive (hctx.method_eq.trans hmethod)
    have hnone := adv.roster.departed_eq_none (by simp [hctx.method_eq, hmethod])
      (by simp [hctx.method_eq, hmethod])
    rw [hmethod]
    exact (adv.checkedFor_of_staying (fun _ ↦ hnone) hcapacity hroster rfl).bound

/-! ### Runs -/

/-- No limit is above the reserve. -/
theorem backlogLimit_le (settings : Settings) (managementOperation : Bool) :
    backlogLimit settings managementOperation ≤
      settings.groupOutboxMaxPending + outboxReserve settings := by
  cases managementOperation
  · exact Nat.le_add_right _ _
  · exact le_rfl

/-- **The step lemma**: a call leaves the outbox alone or within the limit of its kind, and no other
step adds a row to deliver. -/
theorem HostStep.backlog {settings : Settings} {w w' : HostWorld} {a : HostAction}
    (h : HostStep settings w a w')
    (hk : Table.Keyed HostedMember.key w.store.hostedGroupMembers) :
    pendingRows w'.store ≤ pendingRows w.store ∨ ∃ c, a = .call c ∧
      pendingRows w'.store ≤ backlogLimit settings (decide (c.method ≠ .send)) := by
  cases h with
  | call c hseen hreplayed =>
    show pendingRows (afterCall settings w.store c) ≤ pendingRows w.store ∨ ∃ c', _ ∧
      pendingRows (afterCall settings w.store c) ≤ _
    unfold afterCall
    split
    · rename_i result st' hcall
      rcases (hostedCall_accepted hcall).backlog hk with hsame | hlimit
      · exact .inl (pendingRows_congr hsame).le
      · exact .inr ⟨c, rfl, hlimit⟩
    · exact .inl le_rfl
  | beginDrain => exact .inl le_rfl
  | attempt => exact .inl (pendingRows_recordAttempt_le ..)
  | endDrain => exact .inl le_rfl
  | elsewhere st h => exact .inl (pendingRows_congr h.groupDeliveryOutbox).le

/-- **The outbox never holds more undelivered rows than its limit and the reserve.** A message that
has enqueued a row leaves no more than the limit itself, and an operation that was refused for the
backlog has written nothing. -/
theorem outbox_backlog_bounded {settings : Settings} {w₀ w : HostWorld} (h₀ : w₀.Initial)
    (h : Reaches (HostStep settings) w₀ w) :
    pendingRows w.store ≤ settings.groupOutboxMaxPending +
        max 10 (min 100 (settings.groupOutboxMaxPending / 100)) ∧
      ∀ c w', HostStep settings w (.call c) w' →
        (c.method = .send → w'.store.groupDeliveryOutbox ≠ w.store.groupDeliveryOutbox →
          pendingRows w'.store ≤ settings.groupOutboxMaxPending) ∧
        ∀ e, hostedCall settings w.store c = .error e →
          e.message = "group.delivery_backlog_full" → w'.store = w.store := by
  obtain ⟨⟨hlog, hout⟩, hbound⟩ := Reaches.invariant
    (I := fun v ↦ (HostLogInv v.store ∧ OutboxInv v.store) ∧
      pendingRows v.store ≤ settings.groupOutboxMaxPending + outboxReserve settings) h
    ⟨⟨.initial h₀, .initial h₀⟩, by simp [pendingRows, h₀.groupDeliveryOutbox]⟩
    fun ⟨⟨hlog, hout⟩, hbound⟩ hs ↦ ⟨⟨hlog.step hs.storeStep, hout.step hlog hs.storeStep⟩, by
      rcases hs.backlog hout.members_keyed with hless | ⟨c, -, hlimit⟩
      · exact hless.trans hbound
      · exact hlimit.trans (backlogLimit_le ..)⟩
  refine ⟨hbound, fun c w' hs ↦ ?_⟩
  cases hs with
  | call c hseen hreplayed =>
    refine ⟨fun hsend hgrown ↦ ?_, fun e he _ ↦ ?_⟩
    · dsimp only at hgrown ⊢
      unfold afterCall at hgrown ⊢
      split at hgrown
      · rename_i result st' hcall
        rcases (hostedCall_accepted hcall).backlog hout.members_keyed with hsame | hlimit
        · exact absurd hsame hgrown
        · rw [hsend] at hlimit
          exact hlimit
      · exact absurd rfl hgrown
    · show afterCall settings w.store c = w.store
      rw [afterCall, he]

/-- A server that takes no more than two undelivered rows from messages. -/
def Settings.tight : Settings :=
  { Settings.sample with groupOutboxMaxPending := 2, groupOutboxMaxPending_pos := by decide }

/-- One row is undelivered after Bob was added, -/
def tightHost : HostWorld :=
  (HostWorld.empty.after .tight fun _ ↦ sampleCreate []).after .tight sampleAdd

/-- two are after a message. -/
def tightSent : HostWorld := tightHost.after .tight (sampleSend [("text", .str "hello")])

/-- Another message of Alice. -/
def sendAgain (seen : Store) : HostedCall :=
  callAs alice .send
    (sampleParams alice "op-send-again" "group" sampleGroup
      [("message_id", .str "msg-again"), ("content_type", .str "text/plain")]
      [("text", .str "again")])
    seen

/-- The server gets there. -/
theorem tightHost_reached : Reaches (HostStep .tight) .empty tightHost := by
  refine .tail (.tail (.refl _) (.call (sampleCreate []) ?_ ?_))
    (.call (sampleAdd _) List.prefix_rfl List.prefix_rfl) <;> exact List.prefix_rfl

/-- The message is accepted up to the limit; the next one is refused, and leaves the store alone. -/
theorem outbox_backlog_bounded_sample :
    pendingRows tightHost.store = 1 ∧ pendingRows tightSent.store = 2 ∧
      pendingRows tightSent.store ≤ Settings.tight.groupOutboxMaxPending ∧
      ∃ e, hostedCall .tight tightSent.store (sendAgain tightSent.store) = .error e ∧
        e.message = "group.delivery_backlog_full" ∧
        (tightSent.after .tight sendAgain).store = tightSent.store := by
  have hsend : HostStep .tight tightHost
      (.call (sampleSend [("text", .str "hello")] tightHost.store)) tightSent :=
    .call _ List.prefix_rfl List.prefix_rfl
  have hagain : HostStep .tight tightSent (.call (sendAgain tightSent.store))
      (tightSent.after .tight sendAgain) := .call _ List.prefix_rfl List.prefix_rfl
  have hgrown : tightSent.store.groupDeliveryOutbox.length ≠
      tightHost.store.groupDeliveryOutbox.length := by decide +kernel
  have hrefused : (match hostedCall .tight tightSent.store (sendAgain tightSent.store) with
      | .error e => decide (e.message = "group.delivery_backlog_full")
      | .ok _ => false) = true := by decide +kernel
  have hbounded := (outbox_backlog_bounded HostWorld.empty_initial tightHost_reached).2 _ _ hsend
  refine ⟨by decide +kernel, by decide +kernel,
    hbounded.1 rfl fun hsame ↦ hgrown (congrArg List.length hsame), ?_⟩
  cases hcall : hostedCall .tight tightSent.store (sendAgain tightSent.store) with
  | ok r =>
    rw [hcall] at hrefused
    cases hrefused
  | error e =>
    rw [hcall] at hrefused
    have hfull := of_decide_eq_true hrefused
    exact ⟨e, rfl, hfull, ((outbox_backlog_bounded HostWorld.empty_initial
      (tightHost_reached.tail hsend)).2 _ _ hagain).2 e hcall hfull⟩

end Awiki
