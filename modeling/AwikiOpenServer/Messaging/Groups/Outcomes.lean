import AwikiOpenServer.Messaging.Groups.Checks

/-!
# Replay, create or advance

A successful hosted call returns a stored result or ends in one of the three accepting tails
(`hostedCall_tail`). Which checks came before is `HostedAccepted`; most invariants do not ask for
them. `hostedCall_outcome` (a call replays a stored result, creates a group or advances one) is read
off the tails.

The three levels are for three kinds of results. One about limits, permissions or capacity needs to
know what was checked, and starts from `HostedAccepted`. One about what is written beside the hosted
tables, the log or the projections, needs the tail with its arguments (`HostedTail`). And an
invariant of the hosted tables needs neither: an `Advance` or a `Creation` says all about them.

A state change that a tail is given is one of a few (`StateChange.Wellformed`): its type and its
subject agree with the method, and the columns it rewrites are those of an update. This is checked
once for each operation, and no later module looks at how the handlers build their events.
-/

namespace Awiki

open Py

/-! ### The tails of the nine operations -/

/-- The names state changes have in the sync log. -/
def stateChangeTypes : List String :=
  ["group.member.activated", "group.member-left", "group.member-removed",
    "group.member.credential_rebound", "group.group-profile-updated", "group.group-policy-updated"]

/-- **A state change one of the operations makes.** -/
structure StateChange.Wellformed (change : StateChange) : Prop where
  syncEventType : change.syncEventType ∈ stateChangeTypes
  coherent : change.Coherent
  wireProfile : ∀ g, (change.update g).wireProfile = g.wireProfile
  protocolState : ∀ g, (change.update g).protocolState = g.protocolState
  hostServiceDid : ∀ g, (change.update g).hostServiceDid = g.hostServiceDid

/-- **How a successful hosted call ends**: with a stored result, or in an accepting tail after all
its checks. -/
inductive HostedTail (settings : Settings) (st : Store) (call : HostedCall) (result : Obj)
    (st' : Store) : Prop where
  | replayed (s : Store) (hs : s ∈ [call.seen, call.replayed, st]) (ctx : GroupRequest)
      (scope : String) (hmethod : ctx.method = call.method)
      (hreplay : operationReplay s ctx scope = .ok (some result)) (hsame : st' = st)
  | created (ctx : GroupRequest) (groupDid keyPath : String) (document profile policy : Obj)
      (creator : Option VerifiedHandleBinding) (prepared : List PreparedMember)
      (hmethod : call.method = .create)
      (hctx : VerifiedContext settings call.req call.params .create "service" ctx)
      (hprepared : PreparedFrom settings call ctx creator prepared)
      (hdomain : didBelongsToDomain groupDid settings.didDomain = true)
      (hcommit : commitCreate settings st call.req ctx groupDid document profile policy keyPath
        creator prepared = .ok (result, st'))
  | changed (ctx : GroupRequest) (group : HostedGroup) (members : List HostedMember)
      (change : StateChange) (hmethod : call.method ≠ .send)
      (hctx : VerifiedContext settings call.req call.params call.method "group" ctx)
      (hgroup : groupRow st ctx.targetDid (some ctx.profile) true = .ok group)
      (hreplay : operationReplay st ctx group.groupDid = .ok none)
      (hchange : change.Wellformed)
      (hroster : RosterStep group.groupDid st.hostedGroupMembers call.method change.departed
        members)
      (haccept : acceptStateChange settings { st with hostedGroupMembers := members } call.req ctx
        group change = .ok (result, st'))
  | sent (ctx : GroupRequest) (group : HostedGroup) (messageId contentType : String)
      (hmethod : call.method = .send)
      (hctx : VerifiedContext settings call.req call.params call.method "group" ctx)
      (hgroup : groupRow st ctx.targetDid (some ctx.profile) true = .ok group)
      (hreplay : operationReplay st ctx group.groupDid = .ok none)
      (haccept : acceptMessage settings st call.req ctx group messageId contentType =
        .ok (result, st'))

section Tails

variable {settings : Settings} {st st' : Store} {call : HostedCall} {result : Obj}

/-- A state change that ends no membership and rewrites no column of the head. -/
theorem StateChange.Wellformed.of_id {change : StateChange}
    (htype : change.syncEventType ∈ stateChangeTypes) (hcoherent : change.Coherent)
    (hupdate : change.update = id) : change.Wellformed :=
  ⟨htype, hcoherent, fun _ ↦ by rw [hupdate, id], fun _ ↦ by rw [hupdate, id],
    fun _ ↦ by rw [hupdate, id]⟩

/-- The event of a join or an add, -/
theorem activation_wellformed (group : HostedGroup) (a : Admission) :
    (activation group a).Wellformed :=
  .of_id (by simp [activation, stateChangeTypes]) (by simp [StateChange.Coherent, activation]) rfl

/-- of a leave or a removal, -/
theorem departure_wellformed {method : GroupMethod} (hmethod : method = .leave ∨ method = .remove)
    (targetDid : String) : (departure method targetDid).Wellformed := by
  refine .of_id ?_ ?_ rfl
  · rcases hmethod with rfl | rfl <;> simp [departure, stateChangeTypes]
  · rcases hmethod with rfl | rfl <;> simp [StateChange.Coherent, departure, Obj.get_cons]

/-- of a rebind, -/
theorem rebinding_wellformed (binding : VerifiedHandleBinding) (previousDid newDid : String) :
    (rebinding binding previousDid newDid).Wellformed :=
  .of_id (by simp [rebinding, stateChangeTypes]) (by simp [StateChange.Coherent, rebinding]) rfl

/-- and of an update. -/
theorem groupUpdate_wellformed {method : GroupMethod}
    (hmethod : method = .updateProfile ∨ method = .updatePolicy) (value : Obj) :
    (groupUpdate method value).Wellformed ∧ (groupUpdate method value).departed = none := by
  rcases hmethod with rfl | rfl
  · exact ⟨⟨by simp [groupUpdate, stateChangeTypes], by simp [StateChange.Coherent, groupUpdate],
      fun _ ↦ rfl, fun _ ↦ rfl, fun _ ↦ rfl⟩, rfl⟩
  · exact ⟨⟨by simp [groupUpdate, stateChangeTypes], by simp [StateChange.Coherent, groupUpdate],
      fun _ ↦ rfl, fun _ ↦ rfl, fun _ ↦ rfl⟩, rfl⟩

/-- A join or an add, as a change of the roster. -/
theorem rosterStep_admitted {group : HostedGroup} {a : Admission} {home now : String}
    {method : GroupMethod} (hmethod : method = .join ∨ method = .add) :
    RosterStep group.groupDid st.hostedGroupMembers method (activation group a).departed
      (admittedRoster st group.groupDid home now a) :=
  .admitted _ (by rcases hmethod with rfl | rfl <;> simp) rfl rfl

/-- A leave or a removal, as a change of the roster. -/
theorem rosterStep_ended {ctx : GroupRequest} {group : HostedGroup} {targetDid now : String}
    {method : GroupMethod} (hmethod : method = .leave ∨ method = .remove)
    (htarget : departingDid st ctx group = .ok targetDid) :
    RosterStep group.groupDid st.hostedGroupMembers method (departure method targetDid).departed
      (endMember st group.groupDid targetDid (endedStatus method) now).hostedGroupMembers :=
  .ended targetDid now _ (by rcases hmethod with rfl | rfl <;> simp)
    (by rcases hmethod with rfl | rfl <;> simp [endedStatus]) (departingDid_eq_ok htarget)

/-- The tail of a call that has passed its checks. -/
theorem HostedAccepted.tail (h : HostedAccepted settings st call result st') :
    HostedTail settings st call result st' := by
  cases h with
  | replayed s hs ctx scope hmethod hreplay hsame =>
    exact .replayed s hs ctx scope hmethod hreplay hsame
  | created ctx groupDid keyPath document profile policy creator prepared limit hmethod hctx hpolicy
      hprepared hlimit hcount hdomain hcommit =>
    exact .created ctx groupDid keyPath document profile policy creator prepared hmethod hctx
      hprepared hdomain hcommit
  | admitted ctx group a home limit hmethod hctx hgroup hreplay hhome hinactive hlimit hcount hfree
      hcapacity haccept =>
    refine .changed ctx group _ _ ?_ hctx hgroup hreplay (activation_wellformed group a)
      (rosterStep_admitted hmethod) haccept
    rcases hmethod with hm | hm <;> simp [hm]
  | ended ctx group targetDid hmethod hctx hgroup hreplay htarget hcapacity haccept =>
    refine .changed ctx group _ _ ?_ hctx hgroup hreplay (departure_wellformed hmethod targetDid)
      (rosterStep_ended hmethod htarget) haccept
    rcases hmethod with hm | hm <;> simp [hm]
  | rebound ctx group binding member previousDid newDid home hmethod hctx hgroup hreplay hprevious
      hnew hhome hmember hhandle hactive hfresh hcapacity haccept =>
    refine .changed ctx group _ _ (by simp [hmethod]) hctx hgroup hreplay
      (rebinding_wellformed binding previousDid newDid) ?_ haccept
    rw [hmethod]
    exact .rebound previousDid newDid home binding (Table.row?_eq_none.mp hfresh)
  | updated ctx group patch value hmethod hctx hgroup hreplay hcapacity hvalue haccept =>
    obtain ⟨hwellformed, hdeparted⟩ := groupUpdate_wellformed hmethod value
    refine .changed ctx group st.hostedGroupMembers _ ?_ hctx hgroup hreplay hwellformed ?_ haccept
    · rcases hmethod with hm | hm <;> simp [hm]
    · rw [hdeparted]
      exact .same (by rcases hmethod with hm | hm <;> simp [hm])
  | sent ctx group messageId contentType hmethod hctx hmessageId hcontentType hcheck hgroup hreplay
      hcapacity hfresh haccept =>
    exact .sent ctx group messageId contentType hmethod hctx hgroup hreplay haccept

/-- **Every successful hosted call ends in one of the tails.** -/
theorem hostedCall_tail (h : hostedCall settings st call = .ok (result, st')) :
    HostedTail settings st call result st' :=
  (hostedCall_accepted h).tail

end Tails

/-! ### What a call comes to -/

/-- **What a successful hosted call comes to.** -/
inductive HostedOutcome (settings : Settings) (st : Store) (call : HostedCall) :
    Obj → Store → Prop where
  /-- The stored result of the operation; the store is untouched. -/
  | replayed {result : Obj} (s : Store) (hs : s ∈ [call.seen, call.replayed, st])
      (op : GroupOperation) (hop : op ∈ s.groupOperations) (hmethod : op.method = call.method)
      (hreplays : Replays result op) : HostedOutcome settings st call result st
  | created {st' : Store} (c : Creation settings st st') (hmethod : call.method = .create)
      (hctx : VerifiedContext settings call.req call.params .create "service" c.ctx)
      (creator : Option VerifiedHandleBinding) (prepared : List PreparedMember)
      (hprepared : PreparedFrom settings call c.ctx creator prepared)
      (hmembers : c.members = createdMembers settings c.ctx c.group.groupDid
        call.req.outside.now creator prepared) :
      HostedOutcome settings st call c.result st'
  | advanced {st' : Store} (a : Advance settings st st') (hmethod : a.ctx.method = call.method)
      (hctx : VerifiedContext settings call.req call.params call.method "group" a.ctx) :
      HostedOutcome settings st call a.result st'

/-- The advance of a message, with the notification it enqueues. -/
structure MessageAdvance (settings : Settings) (call : HostedCall) (st st' : Store) (result : Obj)
    (a : Advance settings st st') : Prop where
  result_eq : a.result = result
  verified : VerifiedContext settings call.req call.params call.method "group" a.ctx
  target : a.group.groupDid = a.ctx.targetDid
  notification : a.notification = .incoming
  envelope : a.envelopeFor = incomingEnvelope a.ctx.metaObj a.ctx.auth
    (deliveryBody a.group.groupDid a.group.groupStateVersion (a.group.groupEventSeq + 1)
      call.req.outside.now a.receipt a.ctx.body)
  receipt_group : a.receipt.get "group_did" = .str a.group.groupDid
  receipt_time : a.receipt.get "accepted_at" = .str call.req.outside.now

section Outcomes

variable {settings : Settings} {st st' : Store} {call : HostedCall} {result : Obj}

/-- A replay is one of the outcomes. -/
theorem HostedOutcome.of_replay {s : Store} {ctx : GroupRequest} {scope : String}
    (hs : s ∈ [call.seen, call.replayed, st])
    (hreplay : operationReplay s ctx scope = .ok (some result))
    (hmethod : ctx.method = call.method) : HostedOutcome settings st call result st := by
  obtain ⟨op, hop, hkey, hreplays⟩ := operationReplay_eq_ok hreplay
  refine .replayed s hs op hop ?_ hreplays
  have hm : op.method = ctx.method := congrArg (fun k ↦ k.2.2.1) hkey
  exact hm.trans hmethod

/-- The tail of a state change, as an advance. -/
theorem acceptStateChange_of_checked {ctx : GroupRequest} {group : HostedGroup}
    {members : List HostedMember} {change : StateChange} (hmethod : call.method ≠ .send)
    (hctx : VerifiedContext settings call.req call.params call.method "group" ctx)
    (hgroup : groupRow st ctx.targetDid (some ctx.profile) true = .ok group)
    (hchange : change.Wellformed)
    (hroster : RosterStep group.groupDid st.hostedGroupMembers call.method change.departed members)
    (haccept : acceptStateChange settings { st with hostedGroupMembers := members } call.req ctx
      group change = .ok (result, st')) :
    ∃ a : Advance settings st st', a.ctx = ctx ∧ a.group = group ∧ a.result = result ∧
      a.update = change.update ∧ st'.hostedGroupMembers = members ∧
      a.departed = change.departed ∧ a.notification = .stateChanged ∧
      a.now = call.req.outside.now ∧
      ∃ operationId, a.envelopeFor = stateChangedEnvelope group.wireProfile group.groupDid
        operationId (stateEvent ctx group.groupDid change (group.groupStateVersion + 1)
          (group.groupEventSeq + 1) call.req.outside.now a.receipt) := by
  obtain ⟨hfound, -, hprofile, hactive⟩ := groupRow_eq_ok hgroup
  rw [← hctx.method_eq] at hmethod hroster
  exact acceptStateChange_advance haccept hfound hprofile hactive hmethod hchange.wireProfile
    hchange.protocolState hchange.coherent hroster

/-- The tail of a message, as an advance. -/
theorem acceptMessage_messageAdvance {ctx : GroupRequest} {group : HostedGroup}
    {messageId contentType : String} (hmethod : call.method = .send)
    (hctx : VerifiedContext settings call.req call.params call.method "group" ctx)
    (hgroup : groupRow st ctx.targetDid (some ctx.profile) true = .ok group)
    (haccept : acceptMessage settings st call.req ctx group messageId contentType =
      .ok (result, st')) :
    ∃ a : Advance settings st st', MessageAdvance settings call st st' result a := by
  obtain ⟨hfound, htarget, hprofile, hactive⟩ := groupRow_eq_ok hgroup
  obtain ⟨a, rfl, rfl, rfl, hnotification, henvelope, hreceipt, htime, -⟩ :=
    acceptMessage_advance haccept hfound hprofile hactive (hctx.method_eq.trans hmethod)
  exact ⟨a, rfl, hctx, htarget, hnotification, henvelope, hreceipt, htime⟩

/-- **Every successful hosted call replays, creates or advances.** -/
theorem hostedCall_outcome (h : hostedCall settings st call = .ok (result, st')) :
    HostedOutcome settings st call result st' := by
  cases hostedCall_tail h with
  | replayed s hs ctx scope hmethod hreplay hsame =>
    subst hsame
    exact .of_replay hs hreplay hmethod
  | created ctx groupDid keyPath document profile policy creator prepared hmethod hctx hprepared
      hdomain hcommit =>
    obtain ⟨c, rfl, rfl, rfl, hmembers, -⟩ := commitCreate_creation hcommit hctx.method_eq hdomain
    exact .created c hmethod hctx creator prepared hprepared hmembers
  | changed ctx group members change hmethod hctx hgroup _ hchange hroster haccept =>
    obtain ⟨a, rfl, rfl, rfl, -⟩ :=
      acceptStateChange_of_checked hmethod hctx hgroup hchange hroster haccept
    exact .advanced a hctx.method_eq hctx
  | sent ctx group messageId contentType hmethod hctx hgroup _ haccept =>
    obtain ⟨a, ha⟩ := acceptMessage_messageAdvance hmethod hctx hgroup haccept
    obtain rfl := ha.result_eq
    exact .advanced a ha.verified.method_eq ha.verified

/-- A successful send leaves the store alone, or advances its group by a message. -/
theorem hostedGroupSend_eq_ok (hmethod : call.method = .send)
    (h : hostedGroupSend settings call.seen st call.req call.params = .ok (result, st')) :
    st' = st ∨ ∃ a : Advance settings st st', MessageAdvance settings call st st' result a := by
  cases (hostedGroupSend_accepted hmethod h).tail with
  | replayed s hs ctx scope _ hreplay hsame => exact .inl hsame
  | created => simp_all
  | changed => simp_all
  | sent ctx group messageId contentType _ hctx hgroup _ haccept =>
    exact .inr (acceptMessage_messageAdvance hmethod hctx hgroup haccept)

end Outcomes

end Awiki
