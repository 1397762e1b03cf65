import AwikiOpenServer.Messaging.Groups.HostLog
import AwikiOpenServer.Messaging.Groups.LocalProjection

/-!
# What two hosted groups share

Every hosted table has the group in its key, and every statement of an operation names its group; so
an operation leaves the rows of all other groups alone (`HostedTail.sameRows`).

There is one exception, and it is a read: `hosted_group_messages` has the message id alone as its
key, and `hosted_group_send` looks the id up without the group. **A message id that one group has
used is refused in every other.** Where no other group has used it, the answer of a send is the one
it would get from a Host that stored nothing but the messages of its own group
(`hostedGroupSend_answer`).

## A frame, and a refusal

The result has two halves. That an operation writes no row of another group is a frame property, and
is unconditional: `SameRows` compares, for one group, its rows in every hosted table and in the
projections of the members that live here, and an `Advance` or a `Creation` of another group leaves
them as they are. The outbox and the projections need a word each, since their rows are found by
other keys; what tells groups apart there is the group in the row.

That a refusal depends on the own group alone is a statement about the answer, so it compares two
runs of one handler: on the store as it is, and on the store without the messages of other groups
(`Store.onlyMessagesOf`). Every look of the handler at the messages has to come out the same, which
are three: for a message of the same id, for the place of the new one, and for the key of the
insert. The condition on ids is needed for the first and the last, and the invariant of the log for
the second (`HostLogInv.nextSeq_free`).
-/

namespace Awiki

open Py Runs

/-! ### Rows of a group -/

/-- The two stores have the same rows of a group, in every table of hosted groups. -/
structure SameRows (groupDid : String) (st st' : Store) : Prop where
  hostedGroups : Table.SameOn (fun g ↦ decide (g.groupDid = groupDid)) st.hostedGroups
    st'.hostedGroups
  hostedGroupMembers : Table.SameOn (fun m ↦ decide (m.groupDid = groupDid)) st.hostedGroupMembers
    st'.hostedGroupMembers
  hostedGroupEvents : Table.SameOn (fun e ↦ decide (e.groupDid = groupDid)) st.hostedGroupEvents
    st'.hostedGroupEvents
  hostedGroupMessages : Table.SameOn (fun m ↦ decide (m.groupDid = groupDid))
    st.hostedGroupMessages st'.hostedGroupMessages
  groupDeliveryOutbox : Table.SameOn (fun r ↦ decide (r.groupDid = groupDid))
    st.groupDeliveryOutbox st'.groupDeliveryOutbox
  groupViews : Table.SameOn (fun v ↦ decide (v.groupDid = groupDid)) st.groupViews st'.groupViews
  groupMemberViews : Table.SameOn (fun r ↦ decide (r.groupDid = groupDid)) st.groupMemberViews
    st'.groupMemberViews
  groupMessageViews : Table.SameOn (fun v ↦ decide (v.groupDid = groupDid)) st.groupMessageViews
    st'.groupMessageViews

/-- Nothing has changed. -/
theorem SameRows.refl (groupDid : String) (st : Store) : SameRows groupDid st st :=
  ⟨rfl, rfl, rfl, rfl, rfl, rfl, rfl, rfl⟩

/-! ### One operation -/

/-- A roster changes in the rows of its group. -/
theorem RosterStep.sameOn {groupDid : String} {members members' : List HostedMember}
    {method : GroupMethod} {departed : Option String}
    (hstep : RosterStep groupDid members method departed members') {h : String}
    (hne : h ≠ groupDid) :
    Table.SameOn (fun m ↦ decide (m.groupDid = h)) members members' := by
  have hother : ∀ m : HostedMember, m.groupDid = groupDid → decide (m.groupDid = h) = false :=
    fun m hm ↦ decide_eq_false fun heq ↦ hne (heq.symm.trans hm)
  cases hstep with
  | same => exact .refl _ _
  | admitted row _ hgroup =>
    refine .upsert ⟨hother row hgroup, fun m hm ↦ ⟨hother m ?_, hother row hgroup⟩⟩
    exact (congrArg Prod.fst hm).trans hgroup
  | ended did now status =>
    refine .updateWhere fun m hm ↦ ?_
    have hgroup : m.groupDid = groupDid := congrArg Prod.fst (of_decide_eq_true hm)
    exact ⟨hother m hgroup, hother _ hgroup⟩
  | rebound previousDid newDid home binding =>
    refine .updateWhere fun m hm ↦ ?_
    have hgroup : m.groupDid = groupDid := (of_decide_eq_true hm).1
    exact ⟨hother m hgroup, hother _ hgroup⟩

/-- Notifications of one group are not rows of another. -/
theorem enqueueAll_sameOn {groupDid h : String} (hne : h ≠ groupDid) (createdAt : String)
    (groupEventSeq : ℕ) (method : GroupMethod) (envelopeFor : String → Obj)
    (members : List HostedMember) (st : Store) :
    Table.SameOn (fun r ↦ decide (r.groupDid = h)) st.groupDeliveryOutbox
      (enqueueAll st groupDid groupEventSeq method envelopeFor createdAt
        members).groupDeliveryOutbox := by
  induction members generalizing st with
  | nil => exact .refl _ _
  | cons m rest ih =>
    refine .trans ?_ (ih _)
    unfold enqueue
    dsimp only
    split
    · exact .refl _ _
    · refine .append fun r hr ↦ ?_
      rw [List.mem_singleton.mp hr]
      exact decide_eq_false (Ne.symm hne)

section Operations

variable {settings : Settings} {st st' : Store}

/-- A refresh writes projections of its group. -/
theorem RefreshedAt.sameOn {groupDid h : String} (href : RefreshedAt settings st st' groupDid)
    (hne : h ≠ groupDid) :
    Table.SameOn (fun v ↦ decide (v.groupDid = h)) st.groupViews st'.groupViews ∧
      Table.SameOn (fun r ↦ decide (r.groupDid = h)) st.groupMemberViews st'.groupMemberViews := by
  obtain ⟨s, updatedAt, hviews, hmembers, -, -, hviews', hmembers'⟩ := href
  have hsame := refresh_sameOn settings s groupDid updatedAt
  rw [hviews', hmembers', ← hviews, ← hmembers]
  exact ⟨Table.SameOn.of_ne hne hsame.1, Table.SameOn.of_ne hne hsame.2⟩

/-- **An advance leaves other groups alone,** -/
theorem Advance.sameRows (a : Advance settings st st') {h : String} (hne : h ≠ a.group.groupDid)
    (href : RefreshedAt settings st st' a.group.groupDid)
    (hmessages : SameMessageViews a.group.groupDid st st') : SameRows h st st' where
  hostedGroups := by
    rw [a.groups, writeHead]
    refine .updateWhere fun g hg ↦ ?_
    have hother : decide (g.groupDid = h) = false :=
      decide_eq_false fun heq ↦ hne (heq.symm.trans (of_decide_eq_true hg))
    exact ⟨hother, hother⟩
  hostedGroupMembers := a.roster.sameOn hne
  hostedGroupEvents := by
    have hdid : a.event.groupDid = a.group.groupDid := congrArg Prod.fst a.event_key
    rw [a.events]
    refine .append fun e he ↦ decide_eq_false ?_
    rw [List.mem_singleton.mp he, hdid]
    exact Ne.symm hne
  hostedGroupMessages := by
    rw [a.messages]
    refine .append fun m hm ↦ decide_eq_false ?_
    have hdid : m.groupDid = a.group.groupDid :=
      (congrArg Prod.fst (a.message_key m (by simpa using hm))).trans
        (congrArg Prod.fst a.event_key)
    rw [hdid]
    exact Ne.symm hne
  groupDeliveryOutbox := by
    rw [a.outbox, ← a.enqueuing_outbox]
    exact enqueueAll_sameOn hne ..
  groupViews := (href.sameOn hne).1
  groupMemberViews := (href.sameOn hne).2
  groupMessageViews := Table.SameOn.of_ne hne hmessages

/-- **and so does a creation.** -/
theorem Creation.sameRows (c : Creation settings st st') {h : String} (hne : h ≠ c.group.groupDid)
    (href : RefreshedAt settings st st' c.group.groupDid)
    (hmessages : SameMessageViews c.group.groupDid st st') : SameRows h st st' where
  hostedGroups := by
    rw [c.groups]
    exact .append fun g hg ↦ decide_eq_false (List.mem_singleton.mp hg ▸ Ne.symm hne)
  hostedGroupMembers := by
    rw [c.roster]
    exact .append fun m hm ↦ decide_eq_false (c.members_group m hm ▸ Ne.symm hne)
  hostedGroupEvents := by
    have hdid : c.event.groupDid = c.group.groupDid := congrArg Prod.fst c.event_key
    rw [c.events]
    refine .append fun e he ↦ decide_eq_false ?_
    rw [List.mem_singleton.mp he, hdid]
    exact Ne.symm hne
  hostedGroupMessages := c.messages ▸ .refl _ _
  groupDeliveryOutbox := c.outbox ▸ .refl _ _
  groupViews := (href.sameOn hne).1
  groupMemberViews := (href.sameOn hne).2
  groupMessageViews := Table.SameOn.of_ne hne hmessages

end Operations

/-! ### Calls -/

/-- The DID a request is addressed to. -/
def HostedCall.targetDid? (c : HostedCall) : Option String := do
  let metaObj ← (c.params.get "_anp_meta").obj?
  let target ← (Obj.get metaObj "target").obj?
  (Obj.get target "did").str?

/-- The message id of a request. -/
def HostedCall.messageId? (c : HostedCall) : Option String := do
  let metaObj ← (c.params.get "_anp_meta").obj?
  (Obj.get metaObj "message_id").str?

section Calls

variable {settings : Settings} {st st' : Store} {call : HostedCall} {ctx : GroupRequest}
  {result : Obj}

/-- A verified request is addressed to the DID it names. -/
theorem VerifiedContext.targetDid?_eq {method : GroupMethod} {targetKind : String}
    (h : VerifiedContext settings call.req call.params method targetKind ctx) :
    call.targetDid? = some ctx.targetDid := by
  obtain ⟨target, htarget, -, hdid⟩ := h.target
  simp [HostedCall.targetDid?, h.metaObj, htarget, hdid, Json.obj?, Json.str?]

/-- And its message has the id it names. -/
theorem VerifiedContext.messageId?_eq {method : GroupMethod} {targetKind messageId : String}
    (h : VerifiedContext settings call.req call.params method targetKind ctx)
    (hmessageId : ctx.metaObj.get "message_id" = .str messageId) :
    call.messageId? = some messageId := by
  simp [HostedCall.messageId?, h.metaObj, hmessageId, Json.obj?, Json.str?]

/-- **A call changes no row of a group it is not addressed to.** -/
theorem HostedTail.sameRows (h : HostedTail settings st call result st') {group : HostedGroup}
    (hgroup : group ∈ st.hostedGroups) (hother : call.targetDid? ≠ some group.groupDid) :
    SameRows group.groupDid st st' := by
  cases h with
  | replayed s hs ctx scope hmethod hreplay hsame => exact hsame ▸ .refl _ _
  | created ctx groupDid keyPath document profile policy creator prepared hmethod hctx hprepared
      hdomain hcommit =>
    obtain ⟨c, -, -, rfl, -⟩ := commitCreate_creation hcommit hctx.method_eq hdomain
    obtain ⟨href, hmessages⟩ := commitCreate_refreshed hcommit
    exact c.sameRows (c.fresh group hgroup) href hmessages
  | changed ctx changed members change hmethod hctx hrow hreplay hchange hroster haccept =>
    obtain ⟨-, htarget, -, -⟩ := groupRow_eq_ok hrow
    obtain ⟨href, hmessages⟩ := acceptStateChange_refreshed haccept
    obtain ⟨a, -, rfl, -⟩ := acceptStateChange_of_checked hmethod hctx hrow hchange hroster haccept
    refine a.sameRows (fun heq ↦ hother ?_) href hmessages
    rw [hctx.targetDid?_eq, ← htarget, heq]
  | sent ctx sent messageId contentType hmethod hctx hrow hreplay haccept =>
    obtain ⟨hfound, htarget, hprofile, hactive⟩ := groupRow_eq_ok hrow
    obtain ⟨href, hmessages⟩ := acceptMessage_refreshed haccept
    obtain ⟨a, -, rfl, -⟩ := acceptMessage_advance haccept hfound hprofile hactive
      (hctx.method_eq.trans hmethod)
    refine a.sameRows (fun heq ↦ hother ?_) href hmessages
    rw [hctx.targetDid?_eq, ← htarget, heq]

end Calls

/-! ### Message ids -/

/-- The Host without the messages of other groups. -/
def Store.onlyMessagesOf (st : Store) (groupDid : String) : Store :=
  { st with
    hostedGroupMessages := st.hostedGroupMessages.filter fun m ↦ decide (m.groupDid = groupDid) }

/-- **The condition**: no other group has stored a message under the id of the send. -/
def IdFreeElsewhere (st : Store) (c : HostedCall) : Prop :=
  ∀ m ∈ st.hostedGroupMessages, some m.messageId = c.messageId? → some m.groupDid = c.targetDid?

section Answers

variable {settings : Settings} {st : Store} {req : Request} {ctx : GroupRequest}

/-- Writing the event does not look at the messages. -/
theorem writeEvent_messages (messages : List HostedMessage) (groupDid : String)
    (stateVersion eventSeq : ℕ) (eventType : String) (payload receipt : Obj) (createdAt : String) :
    writeEvent { st with hostedGroupMessages := messages } ctx groupDid stateVersion eventSeq
        eventType payload receipt createdAt =
      (writeEvent st ctx groupDid stateVersion eventSeq eventType payload receipt createdAt).map
        fun s ↦ { s with hostedGroupMessages := messages } := by
  unfold writeEvent
  dsimp only
  cases require (st.hostedGroupEvents.all fun e ↦ decide (e.eventId ≠ newId "gevt" st.issued))
    (.integrity "hosted_group_events.event_id") with
  | error e => rfl
  | ok u =>
    cases orRaise (.integrity "hosted_group_events") (Table.insert? HostedEvent.key
      { groupDid := groupDid, groupEventSeq := eventSeq, eventId := newId "gevt" st.issued,
        eventType := eventType, groupStateVersion := stateVersion, subjectMethod := ctx.method,
        actorDid := ctx.senderDid, payload := payload, payloadDigest := ctx.payloadDigest,
        receipt := receipt, createdAt := createdAt } st.hostedGroupEvents) <;> rfl

/-- Nor does storing the result. -/
theorem storeOperation_messages (messages : List HostedMessage) (scope : String) (result : Obj)
    (createdAt : String) :
    storeOperation { st with hostedGroupMessages := messages } ctx scope result createdAt =
      (storeOperation st ctx scope result createdAt).map
        fun p ↦ (p.1, { p.2 with hostedGroupMessages := messages }) := by
  unfold storeOperation
  cases standardV2Acceptance ctx result with
  | error e => rfl
  | ok accepted =>
    dsimp only [bind, Except.bind]
    cases orRaise (.integrity "group_operations") (Table.insert? GroupOperation.key
      { senderDid := ctx.senderDid, groupScope := scope, method := ctx.method,
        operationId := ctx.operationId, payloadDigest := ctx.payloadDigest, result := accepted,
        createdAt := createdAt, wireProfile := ctx.profile } st.groupOperations) <;> rfl

/-- The answer of an accepting tail, whatever it does to the store afterwards. -/
theorem writtenMessage_answer (s : Store) (messages : List HostedMessage) (groupDid : String)
    (stateVersion eventSeq : ℕ) (payload receipt result : Obj) (now : String)
    (told told' : Store → Store) :
    (do
      let s ← writeEvent { s with hostedGroupMessages := messages } ctx groupDid stateVersion
        eventSeq "group-message-created" payload receipt now
      let (result, s) ← storeOperation s ctx groupDid result now
      return (result, told s) : Result (Obj × Store)).map Prod.fst =
    (do
      let s ← writeEvent s ctx groupDid stateVersion eventSeq "group-message-created" payload
        receipt now
      let (result, s) ← storeOperation s ctx groupDid result now
      return (result, told' s) : Result (Obj × Store)).map Prod.fst := by
  rw [writeEvent_messages]
  cases writeEvent s ctx groupDid stateVersion eventSeq "group-message-created" payload receipt
    now with
  | error e => rfl
  | ok s₁ =>
    dsimp only [Except.map, bind, Except.bind]
    rw [storeOperation_messages]
    cases storeOperation s₁ ctx groupDid result now <;> rfl

/-- **Accepting a message does not look at the messages**, as long as its id and its place are
free. -/
theorem acceptMessage_answer {group : HostedGroup} {messageId contentType : String}
    (messages : List HostedMessage)
    (hfree : ∀ m ∈ st.hostedGroupMessages ++ messages, m.messageId ≠ messageId ∧
      (m.groupDid, m.groupEventSeq) ≠ (group.groupDid, group.groupEventSeq + 1)) :
    (acceptMessage settings { st with hostedGroupMessages := messages } req ctx group messageId
        contentType).map Prod.fst =
      (acceptMessage settings st req ctx group messageId contentType).map Prod.fst := by
  -- The one check on messages passes with these messages, and with those that are stored.
  have hpass : ∀ l : List HostedMessage, l ⊆ st.hostedGroupMessages ++ messages →
      require (l.all fun m ↦ decide (m.messageId ≠ messageId ∧
        (m.groupDid, m.groupEventSeq) ≠ (group.groupDid, group.groupEventSeq + 1)))
        (.integrity "hosted_group_messages") = .ok () := fun l hl ↦
    require_eq_ok.mpr (List.all_eq_true.mpr fun m hm ↦ decide_eq_true (hfree m (hl hm)))
  unfold acceptMessage
  dsimp only
  have hreceipt : signedReceipt (writeHead { st with hostedGroupMessages := messages }
      group.groupDid id group.groupStateVersion (group.groupEventSeq + 1) req.outside.now) req ctx
      group.groupDid group.groupStateVersion (group.groupEventSeq + 1) req.outside.now
      (some messageId) = signedReceipt (writeHead st group.groupDid id group.groupStateVersion
      (group.groupEventSeq + 1) req.outside.now) req ctx group.groupDid group.groupStateVersion
      (group.groupEventSeq + 1) req.outside.now (some messageId) := rfl
  rw [hreceipt]
  cases signedReceipt (writeHead st group.groupDid id group.groupStateVersion
      (group.groupEventSeq + 1) req.outside.now) req ctx group.groupDid group.groupStateVersion
      (group.groupEventSeq + 1) req.outside.now (some messageId) with
  | error e => rfl
  | ok receipt =>
    have hleft := hpass messages (List.subset_append_right ..)
    have hright := hpass st.hostedGroupMessages (List.subset_append_left ..)
    simp only [writeHead] at hleft hright ⊢
    dsimp only [bind, Except.bind]
    rw [hleft, hright]
    -- From here on both runs write the same, on stores that differ in the messages.
    let row : HostedMessage :=
      { messageId := messageId, groupDid := group.groupDid,
        groupEventSeq := group.groupEventSeq + 1, senderDid := ctx.senderDid,
        operationId := ctx.operationId, body := ctx.body, contentType := contentType,
        originAuth := ctx.auth, receipt := receipt, createdAt := req.outside.now,
        wireProfile := ctx.profile, metaJson := ctx.metaObj }
    let told : Store → Store := fun s ↦ syncActiveMembers (enqueueIncomingMessage settings
      (projectHostedMessageForLocalMembers settings
        (refreshHostedLocalProjections settings s group.groupDid req.outside.now) group.groupDid
        (hostedMessageView ctx group.groupDid messageId contentType req.outside.now
          group.groupStateVersion (group.groupEventSeq + 1) receipt group.wireProfile))
      group.groupDid group.groupStateVersion (group.groupEventSeq + 1) ctx.metaObj ctx.body ctx.auth
      receipt req.outside.now) group.groupDid "group.message.created" (messageCreated group.groupDid
        messageId ctx.senderDid contentType (group.groupEventSeq + 1 : ℕ)) req.outside.now
    exact writtenMessage_answer
      { writeHead st group.groupDid id group.groupStateVersion (group.groupEventSeq + 1)
          req.outside.now with hostedGroupMessages := st.hostedGroupMessages ++ [row] }
      (messages ++ [row]) _ _ _ _ _ _ _ told told

/-- The place of the next message is free. -/
theorem HostLogInv.nextSeq_free (hi : HostLogInv st) {group : HostedGroup}
    (hgroup : group ∈ st.hostedGroups) {m : HostedMessage} (hm : m ∈ st.hostedGroupMessages) :
    (m.groupDid, m.groupEventSeq) ≠ (group.groupDid, group.groupEventSeq + 1) := by
  intro heq
  obtain ⟨e, he, hkey, -⟩ := hi.messages m hm
  have hekey := Prod.mk.inj (hkey.trans heq)
  have hle := (hi.log group hgroup).seq_le (mem_eventsOf.mpr ⟨he, hekey.1⟩)
  rw [hekey.2] at hle
  omega

/-- **The answer of a send**, where no other group has used its message id: the one of a Host with
the messages of its own group alone. -/
theorem hostedGroupSend_answer (hi : HostLogInv st) {c : HostedCall}
    (hfree : IdFreeElsewhere st c) {groupDid : String} (htarget : c.targetDid? = some groupDid) :
    (hostedGroupSend settings c.seen (st.onlyMessagesOf groupDid) c.req c.params).map Prod.fst =
      (hostedGroupSend settings c.seen st c.req c.params).map Prod.fst := by
  unfold hostedGroupSend
  cases hctx : requestContext settings c.seen c.req c.params .send "group" with
  | error e => rfl
  | ok ctx =>
  have hverified := requestContext_eq_ok hctx
  dsimp only [bind, Except.bind]
  cases hid : requireText (ctx.metaObj.get "message_id") "anp_meta_message_id_required" with
  | error e => rfl
  | ok messageId =>
  cases requireText (ctx.metaObj.get "content_type") "anp_meta_content_type_required" with
  | error e => rfl
  | ok contentType =>
  dsimp only
  cases checkMessage settings c.req ctx.body contentType with
  | error e => rfl
  | ok u =>
  have hrow : groupRow (st.onlyMessagesOf groupDid) ctx.targetDid (some ctx.profile) true =
    groupRow st ctx.targetDid (some ctx.profile) true := rfl
  dsimp only
  rw [hrow]
  cases hgroup : groupRow st ctx.targetDid (some ctx.profile) true with
  | error e => rfl
  | ok group =>
  have hreplay : operationReplay (st.onlyMessagesOf groupDid) ctx group.groupDid =
    operationReplay st ctx group.groupDid := rfl
  dsimp only
  rw [hreplay]
  cases operationReplay st ctx group.groupDid with
  | error e => rfl
  | ok replay =>
  cases replay with
  | some replay => rfl
  | none =>
  have hmember : activeMember (st.onlyMessagesOf groupDid) group.groupDid ctx.senderDid =
    activeMember st group.groupDid ctx.senderDid := rfl
  dsimp only
  rw [hmember]
  cases activeMember st group.groupDid ctx.senderDid with
  | error e => rfl
  | ok member =>
  dsimp only
  cases requirePermission group member "send" with
  | error e => rfl
  | ok u =>
  have hcapacity : ensureOutboxCapacity settings (st.onlyMessagesOf groupDid) group.groupDid false =
    ensureOutboxCapacity settings st group.groupDid false := rfl
  dsimp only
  rw [hcapacity]
  cases ensureOutboxCapacity settings st group.groupDid false with
  | error e => rfl
  | ok u =>
  obtain ⟨hfound, hdid, -, -⟩ := groupRow_eq_ok hgroup
  have hmessageId := hverified.messageId?_eq (requireText_eq_ok hid)
  -- A message under this id is one of the group of the send.
  have hown : ∀ m ∈ st.hostedGroupMessages, m.messageId = messageId → m.groupDid = groupDid :=
    fun m hm heq ↦ Option.some.inj ((hfree m hm (by rw [heq, hmessageId])).trans htarget)
  by_cases hall : ∀ m ∈ st.hostedGroupMessages, m.messageId ≠ messageId
  · have hpass : ∀ l : List HostedMessage, l ⊆ st.hostedGroupMessages →
        require (l.all fun m ↦ decide (m.messageId ≠ messageId))
          (.conflict "message_id_conflict" [("message_id", .str messageId)]) = .ok () :=
      fun l hl ↦ require_eq_ok.mpr (List.all_eq_true.mpr fun m hm ↦ decide_eq_true (hall m (hl hm)))
    dsimp only
    rw [hpass _ (List.Subset.refl _), hpass (st.onlyMessagesOf groupDid).hostedGroupMessages
      fun m hm ↦ (List.mem_filter.mp hm).1]
    refine acceptMessage_answer _ fun m hm ↦ ?_
    have hm' : m ∈ st.hostedGroupMessages := by
      rcases List.mem_append.mp hm with hm | hm
      · exact hm
      · exact (List.mem_filter.mp hm).1
    exact ⟨hall m hm', hi.nextSeq_free (Table.mem_of_row? hfound) hm'⟩
  · push Not at hall
    obtain ⟨m, hm, heq⟩ := hall
    have hfail : ∀ l : List HostedMessage, m ∈ l →
        require (l.all fun m ↦ decide (m.messageId ≠ messageId))
          (.conflict "message_id_conflict" [("message_id", .str messageId)]) =
        .error (.conflict "message_id_conflict" [("message_id", .str messageId)]) := by
      intro l hl
      have hfalse : (l.all fun m ↦ decide (m.messageId ≠ messageId)) = false :=
        List.all_eq_false.mpr ⟨m, hl, by simp [heq]⟩
      rw [hfalse]
      rfl
    dsimp only
    rw [hfail _ hm, hfail (st.onlyMessagesOf groupDid).hostedGroupMessages
      (List.mem_filter.mpr ⟨hm, decide_eq_true (hown m hm heq)⟩)]

end Answers

/-! ### Independence -/

/-- The call is refused because its message id is taken. -/
def RefusedForMessageId (settings : Settings) (st : Store) (c : HostedCall) : Prop :=
  ∃ e, hostedCall settings st c = .error e ∧ e.kind = .conflict ∧ e.message = "message_id_conflict"

/-- The call changes no row of a group it is not addressed to. -/
def LeavesOtherGroups (settings : Settings) (st : Store) (c : HostedCall) : Prop :=
  ∀ group ∈ st.hostedGroups, c.targetDid? ≠ some group.groupDid →
    SameRows group.groupDid st (afterCall settings st c)

/-- Whether the send is refused for its id, the messages of its own group decide. -/
def OwnMessagesDecide (settings : Settings) (st : Store) (c : HostedCall) : Prop :=
  ∀ groupDid, c.targetDid? = some groupDid →
    (RefusedForMessageId settings st c ↔
      RefusedForMessageId settings (st.onlyMessagesOf groupDid) c)

/-- **A call, accepted or refused, leaves other groups alone.** -/
theorem afterCall_leavesOtherGroups (settings : Settings) (st : Store) (c : HostedCall) :
    LeavesOtherGroups settings st c := by
  intro group hgroup hother
  unfold afterCall
  split
  · rename_i result st' hcall
    exact (hostedCall_tail hcall).sameRows hgroup hother
  · exact .refl _ _

/-- **Hosted groups are independent of each other**, message ids aside: in every reachable state a
call changes no row of a group it is not addressed to, and a send under an id no other group has
used is refused for its id exactly when its own group has used it. -/
theorem hosted_groups_independent {settings : Settings} {w₀ w : HostWorld} (h₀ : w₀.Initial)
    (h : Reaches (HostStep settings) w₀ w) (c : HostedCall) :
    LeavesOtherGroups settings w.store c ∧
      (c.method = .send → IdFreeElsewhere w.store c → OwnMessagesDecide settings w.store c) := by
  have hi := HostLogInv.reaches h₀ h
  refine ⟨afterCall_leavesOtherGroups settings w.store c, fun hsend hfree groupDid htarget ↦ ?_⟩
  have hanswer : (hostedGroupSend settings c.seen (w.store.onlyMessagesOf groupDid) c.req
      c.params).map Prod.fst = (hostedGroupSend settings c.seen w.store c.req c.params).map
        Prod.fst := hostedGroupSend_answer hi hfree htarget
  have hrefused : ∀ st : Store, RefusedForMessageId settings st c ↔ ∃ e,
      (hostedGroupSend settings c.seen st c.req c.params).map Prod.fst = .error e ∧
        e.kind = .conflict ∧ e.message = "message_id_conflict" := by
    intro st
    unfold RefusedForMessageId hostedCall
    rw [hsend]
    refine exists_congr fun e ↦ ?_
    cases hostedGroupSend settings c.seen st c.req c.params with
    | error e => simp [Except.map]
    | ok r => simp [Except.map]
  rw [hrefused, hrefused, hanswer]

/-- Alice creates a second group. -/
def secondCreate : HostedCall :=
  callAs alice .create
    (sampleParams alice "op-create-2" "service" "did:wba:host.example" []
      [("group_profile", .obj [("display_name", .str "second")]), ("group_policy", .obj []),
        ("initial_members", .arr [])])
    {}

/-- A message to the second group; the one of `sampleSend` in the first has the id `msg-1`. -/
def secondSend (messageId : String) (seen : Store) : HostedCall :=
  callAs alice .send
    (sampleParams alice "op-send-2" "group" "did:wba:host.example:groups:grp_2"
      [("message_id", .str messageId), ("content_type", .str "text/plain")]
      [("text", .str "second")])
    seen

/-- Two groups of Alice, and a message in the first. -/
def HostWorld.twoGroups : HostWorld :=
  ((HostWorld.empty.after .sample fun _ ↦ sampleCreate []).after .sample fun _ ↦
    secondCreate).after .sample (sampleSend [("text", .str "first")])

/-- The server gets there. -/
theorem HostWorld.twoGroups_reached : Reaches (HostStep .sample) .empty .twoGroups := by
  refine .tail (.tail (.tail (.refl _) (.call (sampleCreate []) ?_ ?_))
    (.call secondCreate ?_ ?_)) (.call (sampleSend _ _) List.prefix_rfl List.prefix_rfl)
  all_goals exact List.nil_prefix

/-- **One group's message id blocks another's.** The second group has no message at all; the send to
it is refused because the first has used the id. -/
theorem message_id_not_independent :
    ¬ ∀ w c, Reaches (HostStep .sample) .empty w →
      LeavesOtherGroups .sample w.store c ∧
        (c.method = .send → OwnMessagesDecide .sample w.store c) := by
  intro hall
  have hdecide := (hall .twoGroups (secondSend "msg-1" HostWorld.twoGroups.store)
    HostWorld.twoGroups_reached).2 rfl "did:wba:host.example:groups:grp_2" rfl
  have hrefused : (match hostedCall .sample HostWorld.twoGroups.store
      (secondSend "msg-1" HostWorld.twoGroups.store) with
      | .error e => decide (e.kind = .conflict ∧ e.message = "message_id_conflict")
      | .ok _ => false) = true := by decide +kernel
  have haccepted : (match hostedCall .sample (HostWorld.twoGroups.store.onlyMessagesOf
      "did:wba:host.example:groups:grp_2") (secondSend "msg-1" HostWorld.twoGroups.store) with
      | .error _ => false
      | .ok _ => true) = true := by decide +kernel
  cases hcall : hostedCall .sample HostWorld.twoGroups.store
      (secondSend "msg-1" HostWorld.twoGroups.store) with
  | ok r =>
    rw [hcall] at hrefused
    cases hrefused
  | error e =>
    rw [hcall] at hrefused
    obtain ⟨e', he', -⟩ := hdecide.mp ⟨e, hcall, of_decide_eq_true hrefused⟩
    rw [he'] at haccepted
    cases haccepted

/-- Beside the message of the first group, a send to the second under an id of its own is not
refused for it, and leaves the rows of the first as they are. -/
theorem hosted_groups_independent_sample :
    HostWorld.twoGroups.store.hostedGroupMessages.map (fun m ↦ (m.groupDid, m.messageId)) =
        [(sampleGroup, "msg-1")] ∧
      LeavesOtherGroups .sample HostWorld.twoGroups.store
        (secondSend "msg-2" HostWorld.twoGroups.store) ∧
      ¬ RefusedForMessageId .sample HostWorld.twoGroups.store
        (secondSend "msg-2" HostWorld.twoGroups.store) ∧
      OwnMessagesDecide .sample HostWorld.twoGroups.store
        (secondSend "msg-2" HostWorld.twoGroups.store) := by
  have hfresh : HostWorld.twoGroups.store.hostedGroupMessages.all
      (fun m ↦ decide (m.messageId ≠ "msg-2")) = true := by decide +kernel
  have haccepted : (match hostedCall .sample HostWorld.twoGroups.store
      (secondSend "msg-2" HostWorld.twoGroups.store) with
      | .error _ => false
      | .ok _ => true) = true := by decide +kernel
  obtain ⟨hleaves, hdecide⟩ := hosted_groups_independent HostWorld.empty_initial
    HostWorld.twoGroups_reached (secondSend "msg-2" HostWorld.twoGroups.store)
  refine ⟨by decide +kernel, hleaves, ?_, hdecide rfl fun m hm hid ↦ ?_⟩
  · rintro ⟨e, he, -⟩
    rw [he] at haccepted
    cases haccepted
  · exact absurd (Option.some.inj hid) (of_decide_eq_true (List.all_eq_true.mp hfresh m hm))

end Awiki
