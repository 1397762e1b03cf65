import AwikiOpenServer.Messaging.Groups.Acceptance

/-!
# What a hosted call has checked

Every hosted operation, read backwards. `requestContext_eq_ok` says what a verified request
guarantees; `HostedAccepted` has one constructor for each handler, and says what a successful call
has checked before its accepting tail: the stored row it started from, the permission to go on, the
limit of members, the capacity of the outbox, the free message id.

**The handlers are peeled here and nowhere else** (`hostedCall_accepted`). Coarser readings, such as
`HostedTail`, are read off.

## Which state a check has read

A call reads the database at several moments. What it verifies over the network is checked against
an earlier state (`call.seen`), since other requests may commit in the meantime; the group, the
membership, the policy and the capacity are read again under the lock, in the state the tail then
changes. Each constructor keeps the two apart, and **everything a safety proof needs is of the
second kind**: the results about members, limits and permissions would be false of the first.

## Using it

A result about what a successful call has ensured is a case analysis over `HostedAccepted`: one goal
for each handler, with the facts it has checked as hypotheses and the tail it ends in. When a
handler of the source changes, its constructor and its lemma of the form `…_accepted` change with
it, and the case analyses show what no longer follows.
-/

namespace Awiki

open Py

/-! ### Requests and replays -/

/-- **What a verified request context guarantees.** -/
structure VerifiedContext (settings : Settings) (req : Request) (params : Obj)
    (method : GroupMethod) (targetKind : String) (ctx : GroupRequest) : Prop where
  method_eq : ctx.method = method
  metaObj : params.get "_anp_meta" = .obj ctx.metaObj
  body : params.get "_anp_body" = .obj ctx.body
  auth : params.get "_anp_auth" = .obj ctx.auth
  profile : baseProfile (ctx.metaObj.get "profile") = some ctx.profile
  shape : validateV2Shape method ctx.metaObj ctx.body = .ok ()
  senderDid : ctx.metaObj.get "sender_did" = .str ctx.senderDid
  operationId : ctx.metaObj.get "operation_id" = .str ctx.operationId
  target : ∃ target, ctx.metaObj.get "target" = .obj target ∧
    Obj.get target "kind" = .str targetKind ∧ Obj.get target "did" = .str ctx.targetDid
  authenticated : ∃ did, currentDid req (req.surface ≠ .publicRpc) = .ok did ∧
    ∀ d ∈ did, d = ctx.senderDid
  payloadDigest : ∃ proof, ctx.auth.get "origin_proof" = .obj proof ∧
    Obj.get proof "contentDigest" = .str ctx.payloadDigest

/-- **A request that passes is verified.** -/
theorem requestContext_eq_ok {settings : Settings} {st : Store} {req : Request} {params : Obj}
    {method : GroupMethod} {targetKind : String} {ctx : GroupRequest}
    (h : requestContext settings st req params method targetKind = .ok ctx) :
    VerifiedContext settings req params method targetKind ctx := by
  unfold requestContext at h
  obtain ⟨metaObj, hmeta, h⟩ := bind_eq_ok.mp h
  obtain ⟨body, hbody, h⟩ := bind_eq_ok.mp h
  obtain ⟨auth, hauth, h⟩ := bind_eq_ok.mp h
  obtain ⟨_, -, h⟩ := bind_eq_ok.mp h
  obtain ⟨_, -, h⟩ := bind_eq_ok.mp h
  obtain ⟨profile, hprofile, h⟩ := bind_eq_ok.mp h
  obtain ⟨_, hshape, h⟩ := bind_eq_ok.mp h
  obtain ⟨_, -, h⟩ := bind_eq_ok.mp h
  obtain ⟨senderDid, hsender, h⟩ := bind_eq_ok.mp h
  obtain ⟨operationId, hoperation, h⟩ := bind_eq_ok.mp h
  obtain ⟨target, htarget, h⟩ := bind_eq_ok.mp h
  obtain ⟨_, hkind, h⟩ := bind_eq_ok.mp h
  obtain ⟨targetDid, htargetDid, h⟩ := bind_eq_ok.mp h
  obtain ⟨authenticated, hcurrent, h⟩ := bind_eq_ok.mp h
  obtain ⟨_, hmatch, h⟩ := bind_eq_ok.mp h
  obtain ⟨document, -, h⟩ := bind_eq_ok.mp h
  obtain ⟨_, -, h⟩ := bind_eq_ok.mp h
  obtain ⟨_, -, h⟩ := bind_eq_ok.mp h
  obtain ⟨proof, hproof, h⟩ := bind_eq_ok.mp h
  obtain ⟨digest, hdigest, h⟩ := bind_eq_ok.mp h
  rw [orRaise_eq_ok, Json.obj?_eq_some] at hmeta hbody hauth htarget hproof
  rw [orRaise_eq_ok, Json.str?_eq_some] at hdigest
  rw [pure_eq_ok] at h
  subst h
  refine {
    method_eq := rfl
    metaObj := hmeta
    body := hbody
    auth := hauth
    profile := orRaise_eq_ok.mp hprofile
    shape := hshape
    senderDid := requireText_eq_ok hsender
    operationId := requireText_eq_ok hoperation
    target := ⟨target, htarget, Json.isStr_iff.mp (require_eq_ok.mp hkind),
      requireText_eq_ok htargetDid⟩
    authenticated := ⟨authenticated, hcurrent, fun d hd ↦ ?_⟩
    payloadDigest := ⟨proof, hproof, hdigest⟩ }
  have hall := require_eq_ok.mp hmatch
  rw [Option.mem_def.mp hd] at hall
  simpa using hall

/-- A verified context is determined by the parameters of the request. -/
theorem VerifiedContext.unique {settings : Settings} {req req' : Request} {params : Obj}
    {method : GroupMethod} {targetKind : String} {ctx ctx' : GroupRequest}
    (h : VerifiedContext settings req params method targetKind ctx)
    (h' : VerifiedContext settings req' params method targetKind ctx') : ctx = ctx' := by
  have hmeta := h.metaObj.symm.trans h'.metaObj
  have hbody := h.body.symm.trans h'.body
  have hauth := h.auth.symm.trans h'.auth
  rw [Json.obj.injEq] at hmeta hbody hauth
  have hprofile := h.profile
  have hsender := h.senderDid
  have hoperation := h.operationId
  obtain ⟨target, htarget, -, hdid⟩ := h.target
  obtain ⟨target', htarget', -, hdid'⟩ := h'.target
  obtain ⟨proof, hproof, hdigest⟩ := h.payloadDigest
  obtain ⟨proof', hproof', hdigest'⟩ := h'.payloadDigest
  rw [hmeta] at hprofile hsender hoperation htarget
  rw [hauth] at hproof
  rw [h'.profile, Option.some.injEq] at hprofile
  rw [h'.senderDid, Json.str.injEq] at hsender
  rw [h'.operationId, Json.str.injEq] at hoperation
  rw [htarget', Json.obj.injEq] at htarget
  rw [hproof', Json.obj.injEq] at hproof
  rw [← htarget, hdid', Json.str.injEq] at hdid
  rw [← hproof, hdigest', Json.str.injEq] at hdigest
  have hmethod := h.method_eq.trans h'.method_eq.symm
  cases ctx
  cases ctx'
  simp_all

/-- The result answers with a stored result: same receipt, same version pair. -/
def Replays (result : Obj) (op : GroupOperation) : Prop :=
  result.get "group_receipt" = op.result.get "group_receipt" ∧
    result.get "group_state_version" = op.result.get "group_state_version" ∧
    result.get "group_event_seq" = op.result.get "group_event_seq"

/-- A replay answers from the row of the operation. -/
theorem operationReplay_eq_ok {st : Store} {ctx : GroupRequest} {scope : String} {result : Obj}
    (h : operationReplay st ctx scope = .ok (some result)) :
    ∃ op ∈ st.groupOperations, op.key = (ctx.senderDid, scope, ctx.method, ctx.operationId) ∧
      Replays result op := by
  unfold operationReplay at h
  split at h
  · simp at h
  · rename_i row hrow
    obtain ⟨_, _, h⟩ := bind_eq_ok.mp h
    obtain ⟨accepted, haccepted, h⟩ := bind_eq_ok.mp h
    rw [pure_eq_ok, Option.some.injEq] at h
    refine ⟨row, Table.mem_of_row? hrow, Table.key_of_row? hrow, ?_, ?_, ?_⟩
    all_goals
      rw [← h, Obj.get_set_of_ne _ _ (by decide),
        standardV2Acceptance_get haccepted (by decide)]

/-- A group that may be written: found, in the version of the request, and not being migrated. -/
theorem groupRow_eq_ok {st : Store} {groupDid : String} {profile : WireProfile}
    {group : HostedGroup} (h : groupRow st groupDid (some profile) true = .ok group) :
    st.hostedGroup? group.groupDid = some group ∧ group.groupDid = groupDid ∧
      profile = group.wireProfile ∧ group.protocolState = .active := by
  unfold groupRow at h
  obtain ⟨row, hrow, h⟩ := bind_eq_ok.mp h
  obtain ⟨_, hprotocol, h⟩ := bind_eq_ok.mp h
  rw [pure_eq_ok] at h
  subst h
  rw [orRaise_eq_ok] at hrow
  have hdid : row.groupDid = groupDid := Table.key_of_row? hrow
  unfold requireGroupProtocol at hprotocol
  obtain ⟨_, hp, hwriting⟩ := bind_eq_ok.mp hprotocol
  rw [require_eq_ok] at hp hwriting
  refine ⟨hdid ▸ hrow, hdid, by simpa using hp, ?_⟩
  cases hstate : row.protocolState with
  | active => rfl
  | quiescing => simp [hstate] at hwriting

/-! ### The checks of the nine operations -/

/-- The initial members of a create, as its loop prepared them. -/
def PreparedFrom (settings : Settings) (call : HostedCall) (ctx : GroupRequest)
    (creator : Option VerifiedHandleBinding) (prepared : List PreparedMember) : Prop :=
  ∃ initial, ctx.body.getD "initial_members" (.arr []) = .arr initial ∧
    prepareMembers settings call.seen call.req initial [ctx.senderDid]
      (creator.map (·.handle)).toList = .ok prepared

/-- The roster after a join or an add. -/
def admittedRoster (st : Store) (groupDid home now : String) (a : Admission) : List HostedMember :=
  Table.upsert HostedMember.key (admittedMember groupDid home now a)
    (fun _ ↦ admittedMember groupDid home now a) st.hostedGroupMembers

/-- How a leave or a removal leaves the row. -/
def endedStatus (method : GroupMethod) : MemberStatus :=
  if method = .leave then .left else .removed

/-- **What a successful hosted call has checked**, handler by handler, with the accepting tail it
then ran. -/
inductive HostedAccepted (settings : Settings) (st : Store) (call : HostedCall) (result : Obj)
    (st' : Store) : Prop where
  | replayed (s : Store) (hs : s ∈ [call.seen, call.replayed, st]) (ctx : GroupRequest)
      (scope : String) (hmethod : ctx.method = call.method)
      (hreplay : operationReplay s ctx scope = .ok (some result)) (hsame : st' = st)
  | created (ctx : GroupRequest) (groupDid keyPath : String) (document profile policy : Obj)
      (creator : Option VerifiedHandleBinding) (prepared : List PreparedMember) (limit : ℤ)
      (hmethod : call.method = .create)
      (hctx : VerifiedContext settings call.req call.params .create "service" ctx)
      (hpolicy : ∃ value, validatePolicy value = .ok policy)
      (hprepared : PreparedFrom settings call ctx creator prepared)
      (hlimit : policyMaxMembers policy = .ok limit) (hcount : (prepared.length : ℤ) + 1 ≤ limit)
      (hdomain : didBelongsToDomain groupDid settings.didDomain = true)
      (hcommit : commitCreate settings st call.req ctx groupDid document profile policy keyPath
        creator prepared = .ok (result, st'))
  | admitted (ctx : GroupRequest) (group : HostedGroup) (a : Admission) (home : String) (limit : ℤ)
      (hmethod : call.method = .join ∨ call.method = .add)
      (hctx : VerifiedContext settings call.req call.params call.method "group" ctx)
      (hgroup : groupRow st ctx.targetDid (some ctx.profile) true = .ok group)
      (hreplay : operationReplay st ctx group.groupDid = .ok none)
      (hhome : homeServiceDid settings call.req a.targetDid = .ok home)
      (hinactive : ∀ m ∈ st.hostedMember? group.groupDid a.targetDid, m.status ≠ .active)
      (hlimit : policyMaxMembers group.policy = .ok limit)
      (hcount : ((st.activeMembers group.groupDid).length : ℤ) < limit)
      (hfree : handleFree st group.groupDid a.targetDid (a.binding.map (·.handle)) = true)
      (hcapacity : ensureOutboxCapacity settings
        { st with
          hostedGroupMembers := admittedRoster st group.groupDid home call.req.outside.now a }
        group.groupDid true = .ok ())
      (haccept : acceptStateChange settings
        { st with
          hostedGroupMembers := admittedRoster st group.groupDid home call.req.outside.now a }
        call.req ctx group (activation group a) = .ok (result, st'))
  | ended (ctx : GroupRequest) (group : HostedGroup) (targetDid : String)
      (hmethod : call.method = .leave ∨ call.method = .remove)
      (hctx : VerifiedContext settings call.req call.params call.method "group" ctx)
      (hgroup : groupRow st ctx.targetDid (some ctx.profile) true = .ok group)
      (hreplay : operationReplay st ctx group.groupDid = .ok none)
      (htarget : departingDid st ctx group = .ok targetDid)
      (hcapacity : ensureOutboxCapacity settings
        (if ctx.profile = .v2 then st
          else endMember st group.groupDid targetDid (endedStatus call.method)
            call.req.outside.now)
        group.groupDid true = .ok ())
      (haccept : acceptStateChange settings
        (endMember st group.groupDid targetDid (endedStatus call.method) call.req.outside.now)
        call.req ctx group (departure call.method targetDid) = .ok (result, st'))
  | rebound (ctx : GroupRequest) (group : HostedGroup) (binding : VerifiedHandleBinding)
      (member : HostedMember) (previousDid newDid home : String)
      (hmethod : call.method = .rebindMember)
      (hctx : VerifiedContext settings call.req call.params call.method "group" ctx)
      (hgroup : groupRow st ctx.targetDid (some ctx.profile) true = .ok group)
      (hreplay : operationReplay st ctx group.groupDid = .ok none)
      (hprevious : ctx.body.get "previous_member_did" = .str previousDid)
      (hnew : ctx.body.get "new_member_did" = .str newDid)
      (hhome : homeServiceDid settings call.req newDid = .ok home)
      (hmember : st.hostedMember? group.groupDid previousDid = some member)
      (hhandle : member.memberHandle = some binding.handle) (hactive : member.status = .active)
      (hfresh : st.hostedMember? group.groupDid newDid = none)
      (hcapacity : ensureOutboxCapacity settings
        { st with
          hostedGroupMembers := rebindMember group.groupDid previousDid newDid home binding
            st.hostedGroupMembers }
        group.groupDid true = .ok ())
      (haccept : acceptStateChange settings
        { st with
          hostedGroupMembers := rebindMember group.groupDid previousDid newDid home binding
            st.hostedGroupMembers }
        call.req ctx group (rebinding binding previousDid newDid) = .ok (result, st'))
  | updated (ctx : GroupRequest) (group : HostedGroup) (patch value : Obj)
      (hmethod : call.method = .updateProfile ∨ call.method = .updatePolicy)
      (hctx : VerifiedContext settings call.req call.params call.method "group" ctx)
      (hgroup : groupRow st ctx.targetDid (some ctx.profile) true = .ok group)
      (hreplay : operationReplay st ctx group.groupDid = .ok none)
      (hcapacity : ensureOutboxCapacity settings st group.groupDid true = .ok ())
      (hvalue : patchedValue call.method group patch = .ok value)
      (haccept : acceptStateChange settings st call.req ctx group (groupUpdate call.method value) =
        .ok (result, st'))
  | sent (ctx : GroupRequest) (group : HostedGroup) (messageId contentType : String)
      (hmethod : call.method = .send)
      (hctx : VerifiedContext settings call.req call.params call.method "group" ctx)
      (hmessageId : ctx.metaObj.get "message_id" = .str messageId)
      (hcontentType : ctx.metaObj.get "content_type" = .str contentType)
      (hcheck : checkMessage settings call.req ctx.body contentType = .ok ())
      (hgroup : groupRow st ctx.targetDid (some ctx.profile) true = .ok group)
      (hreplay : operationReplay st ctx group.groupDid = .ok none)
      (hcapacity : ensureOutboxCapacity settings st group.groupDid false = .ok ())
      (hfresh : ∀ m ∈ st.hostedGroupMessages, m.messageId ≠ messageId)
      (haccept : acceptMessage settings st call.req ctx group messageId contentType =
        .ok (result, st'))

section Accepted

variable {settings : Settings} {st st' : Store} {call : HostedCall} {result : Obj}

/-- A creation. -/
theorem hostedGroupCreate_accepted (hmethod : call.method = .create)
    (h : hostedGroupCreate settings call.seen call.replayed st call.req call.params =
      .ok (result, st')) : HostedAccepted settings st call result st' := by
  unfold hostedGroupCreate at h
  obtain ⟨ctx, hctx, h⟩ := bind_eq_ok.mp h
  obtain ⟨_, -, h⟩ := bind_eq_ok.mp h
  obtain ⟨_, -, h⟩ := bind_eq_ok.mp h
  obtain ⟨profile, -, h⟩ := bind_eq_ok.mp h
  obtain ⟨policy, hpolicy, h⟩ := bind_eq_ok.mp h
  obtain ⟨initial, hinitial, h⟩ := bind_eq_ok.mp h
  obtain ⟨creator, -, h⟩ := bind_eq_ok.mp h
  obtain ⟨_, -, h⟩ := bind_eq_ok.mp h
  obtain ⟨prepared, hprepared, h⟩ := bind_eq_ok.mp h
  obtain ⟨limit, hlimit, h⟩ := bind_eq_ok.mp h
  obtain ⟨_, hcount, h⟩ := bind_eq_ok.mp h
  obtain ⟨replay, hreplay, h⟩ := bind_eq_ok.mp h
  have hverified := requestContext_eq_ok hctx
  have hm : ctx.method = call.method := hverified.method_eq.trans hmethod.symm
  cases replay with
  | some replay =>
    rw [pure_eq_ok, Prod.mk.injEq] at h
    obtain ⟨rfl, rfl⟩ := h
    exact .replayed _ (by simp) ctx _ hm hreplay rfl
  | none =>
    obtain ⟨⟨groupDid, document⟩, hidentity, h⟩ := bind_eq_ok.mp h
    obtain ⟨keyPath, -, h⟩ := bind_eq_ok.mp h
    obtain ⟨replay', hreplay', h⟩ := bind_eq_ok.mp h
    cases replay' with
    | some replay' =>
      rw [pure_eq_ok, Prod.mk.injEq] at h
      obtain ⟨rfl, rfl⟩ := h
      exact .replayed _ (by simp) ctx _ hm hreplay' rfl
    | none =>
      exact .created ctx groupDid keyPath document profile policy creator prepared limit hmethod
        hverified ⟨_, hpolicy⟩
        ⟨initial, Json.arr?_eq_some.mp (orRaise_eq_ok.mp hinitial), hprepared⟩ hlimit
        (of_decide_eq_true (require_eq_ok.mp hcount))
        (call.req.outside.generateGroupIdentity_domain hidentity) h

/-- The transaction of a join or an add. -/
theorem commitMembership_accepted {ctx : GroupRequest} {a : Admission} {home : String}
    (hmethod : call.method = .join ∨ call.method = .add)
    (hctx : VerifiedContext settings call.req call.params call.method "group" ctx)
    (hhome : homeServiceDid settings call.req a.targetDid = .ok home)
    (h : commitMembership settings st call.req ctx a home = .ok (result, st')) :
    HostedAccepted settings st call result st' := by
  unfold commitMembership at h
  obtain ⟨group, hgroup, h⟩ := bind_eq_ok.mp h
  obtain ⟨replay, hreplay, h⟩ := bind_eq_ok.mp h
  cases replay with
  | some replay =>
    rw [pure_eq_ok, Prod.mk.injEq] at h
    obtain ⟨rfl, rfl⟩ := h
    exact .replayed _ (by simp) ctx _ hctx.method_eq hreplay rfl
  | none =>
    obtain ⟨_, -, h⟩ := bind_eq_ok.mp h
    obtain ⟨_, hinactive, h⟩ := bind_eq_ok.mp h
    obtain ⟨limit, hlimit, h⟩ := bind_eq_ok.mp h
    obtain ⟨_, hcount, h⟩ := bind_eq_ok.mp h
    obtain ⟨_, hfree, h⟩ := bind_eq_ok.mp h
    obtain ⟨_, hcapacity, h⟩ := bind_eq_ok.mp h
    refine .admitted ctx group a home limit hmethod hctx hgroup hreplay hhome (fun m hm ↦ ?_) hlimit
      (of_decide_eq_true (require_eq_ok.mp hcount)) (require_eq_ok.mp hfree) hcapacity h
    have hall := require_eq_ok.mp hinactive
    rw [Option.mem_def.mp hm] at hall
    simpa using hall

/-- A join or an add. -/
theorem membershipMutation_accepted (hmethod : call.method = .join ∨ call.method = .add)
    (h : membershipMutation settings call.seen st call.req call.params call.method =
      .ok (result, st')) : HostedAccepted settings st call result st' := by
  unfold membershipMutation at h
  obtain ⟨ctx, hctx, h⟩ := bind_eq_ok.mp h
  obtain ⟨group, -, h⟩ := bind_eq_ok.mp h
  obtain ⟨replay, hreplay, h⟩ := bind_eq_ok.mp h
  have hverified := requestContext_eq_ok hctx
  cases replay with
  | some replay =>
    rw [pure_eq_ok, Prod.mk.injEq] at h
    obtain ⟨rfl, rfl⟩ := h
    exact .replayed _ (by simp) ctx _ hverified.method_eq hreplay rfl
  | none =>
    obtain ⟨a, -, h⟩ := bind_eq_ok.mp h
    obtain ⟨home, hhome, h⟩ := bind_eq_ok.mp h
    exact commitMembership_accepted hmethod hverified hhome h

/-- A member that is found is active. -/
theorem activeMember_eq_ok {groupDid agentDid : String} {m : HostedMember}
    (h : activeMember st groupDid agentDid = .ok m) :
    m ∈ st.hostedGroupMembers ∧ m.key = (groupDid, agentDid) ∧ m.status = .active := by
  rw [activeMember, orRaise_eq_ok, Option.filter_eq_some_iff] at h
  exact ⟨Table.mem_of_row? h.1, Table.key_of_row? h.1, by simpa using h.2⟩

/-- Whoever departs is a member. -/
theorem departingDid_eq_ok {ctx : GroupRequest} {group : HostedGroup} {did : String}
    (h : departingDid st ctx group = .ok did) :
    ∃ m ∈ st.hostedGroupMembers, m.key = (group.groupDid, did) ∧ m.status = .active := by
  unfold departingDid at h
  obtain ⟨actor, hactor, h⟩ := bind_eq_ok.mp h
  split at h
  · rw [pure_eq_ok] at h
    subst h
    exact ⟨actor, activeMember_eq_ok hactor⟩
  · obtain ⟨_, -, h⟩ := bind_eq_ok.mp h
    obtain ⟨targetDid, -, h⟩ := bind_eq_ok.mp h
    obtain ⟨target, htarget, h⟩ := bind_eq_ok.mp h
    rw [pure_eq_ok] at h
    subst h
    exact ⟨target, activeMember_eq_ok htarget⟩

/-- A leave or a removal. -/
theorem endMembership_accepted (hmethod : call.method = .leave ∨ call.method = .remove)
    (h : endMembership settings call.seen st call.req call.params call.method =
      .ok (result, st')) : HostedAccepted settings st call result st' := by
  unfold endMembership at h
  obtain ⟨ctx, hctx, h⟩ := bind_eq_ok.mp h
  obtain ⟨group, hgroup, h⟩ := bind_eq_ok.mp h
  obtain ⟨replay, hreplay, h⟩ := bind_eq_ok.mp h
  have hverified := requestContext_eq_ok hctx
  cases replay with
  | some replay =>
    rw [pure_eq_ok, Prod.mk.injEq] at h
    obtain ⟨rfl, rfl⟩ := h
    exact .replayed _ (by simp) ctx _ hverified.method_eq hreplay rfl
  | none =>
    obtain ⟨targetDid, htarget, h⟩ := bind_eq_ok.mp h
    obtain ⟨_, hcapacity, h⟩ := bind_eq_ok.mp h
    exact .ended ctx group targetDid hmethod hverified hgroup hreplay htarget hcapacity h

/-- A rebind. -/
theorem hostedGroupRebindMember_accepted (hmethod : call.method = .rebindMember)
    (h : hostedGroupRebindMember settings call.seen st call.req call.params =
      .ok (result, st')) : HostedAccepted settings st call result st' := by
  unfold hostedGroupRebindMember at h
  obtain ⟨ctx, hctx, h⟩ := bind_eq_ok.mp h
  obtain ⟨memberHandle, -, h⟩ := bind_eq_ok.mp h
  obtain ⟨previousDid, hprevious, h⟩ := bind_eq_ok.mp h
  obtain ⟨newDid, hnew, h⟩ := bind_eq_ok.mp h
  obtain ⟨generation, -, h⟩ := bind_eq_ok.mp h
  obtain ⟨_, -, h⟩ := bind_eq_ok.mp h
  obtain ⟨binding, -, h⟩ := bind_eq_ok.mp h
  obtain ⟨_, -, h⟩ := bind_eq_ok.mp h
  obtain ⟨_, -, h⟩ := bind_eq_ok.mp h
  obtain ⟨home, hhome, h⟩ := bind_eq_ok.mp h
  obtain ⟨group, hgroup, h⟩ := bind_eq_ok.mp h
  obtain ⟨replay, hreplay, h⟩ := bind_eq_ok.mp h
  have hverified := requestContext_eq_ok hctx
  rw [← hmethod] at hverified
  cases replay with
  | some replay =>
    rw [pure_eq_ok, Prod.mk.injEq] at h
    obtain ⟨rfl, rfl⟩ := h
    exact .replayed _ (by simp) ctx _ hverified.method_eq hreplay rfl
  | none =>
    obtain ⟨member, hmember, h⟩ := bind_eq_ok.mp h
    obtain ⟨generationBefore, -, h⟩ := bind_eq_ok.mp h
    obtain ⟨newer, -, h⟩ := bind_eq_ok.mp h
    obtain ⟨_, -, h⟩ := bind_eq_ok.mp h
    obtain ⟨_, -, h⟩ := bind_eq_ok.mp h
    obtain ⟨_, hfresh, h⟩ := bind_eq_ok.mp h
    obtain ⟨_, hcapacity, h⟩ := bind_eq_ok.mp h
    rw [require_eq_ok, Option.isNone_iff_eq_none] at hfresh
    rw [orRaise_eq_ok, Option.filter_eq_some_iff, decide_eq_true_eq] at hmember
    obtain ⟨hfound, hhandle, hactive⟩ := hmember
    exact .rebound ctx group binding member previousDid newDid home hmethod hverified hgroup hreplay
      (requireText_eq_ok hprevious) (requireText_eq_ok hnew) hhome hfound hhandle hactive hfresh
      hcapacity h

/-- An update of the profile or the policy. -/
theorem updateGroup_accepted (hmethod : call.method = .updateProfile ∨ call.method = .updatePolicy)
    (h : updateGroup settings call.seen st call.req call.params call.method =
      .ok (result, st')) : HostedAccepted settings st call result st' := by
  unfold updateGroup at h
  obtain ⟨ctx, hctx, h⟩ := bind_eq_ok.mp h
  obtain ⟨patch, -, h⟩ := bind_eq_ok.mp h
  obtain ⟨group, hgroup, h⟩ := bind_eq_ok.mp h
  obtain ⟨replay, hreplay, h⟩ := bind_eq_ok.mp h
  have hverified := requestContext_eq_ok hctx
  cases replay with
  | some replay =>
    rw [pure_eq_ok, Prod.mk.injEq] at h
    obtain ⟨rfl, rfl⟩ := h
    exact .replayed _ (by simp) ctx _ hverified.method_eq hreplay rfl
  | none =>
    obtain ⟨member, -, h⟩ := bind_eq_ok.mp h
    obtain ⟨_, -, h⟩ := bind_eq_ok.mp h
    obtain ⟨_, hcapacity, h⟩ := bind_eq_ok.mp h
    obtain ⟨value, hvalue, h⟩ := bind_eq_ok.mp h
    exact .updated ctx group patch value hmethod hverified hgroup hreplay hcapacity hvalue h

/-- A message. -/
theorem hostedGroupSend_accepted (hmethod : call.method = .send)
    (h : hostedGroupSend settings call.seen st call.req call.params = .ok (result, st')) :
    HostedAccepted settings st call result st' := by
  unfold hostedGroupSend at h
  obtain ⟨ctx, hctx, h⟩ := bind_eq_ok.mp h
  obtain ⟨messageId, hmessageId, h⟩ := bind_eq_ok.mp h
  obtain ⟨contentType, hcontentType, h⟩ := bind_eq_ok.mp h
  obtain ⟨_, hcheck, h⟩ := bind_eq_ok.mp h
  obtain ⟨group, hgroup, h⟩ := bind_eq_ok.mp h
  obtain ⟨replay, hreplay, h⟩ := bind_eq_ok.mp h
  have hverified := requestContext_eq_ok hctx
  rw [← hmethod] at hverified
  cases replay with
  | some replay =>
    rw [pure_eq_ok, Prod.mk.injEq] at h
    obtain ⟨rfl, rfl⟩ := h
    exact .replayed _ (by simp) ctx _ hverified.method_eq hreplay rfl
  | none =>
    obtain ⟨member, -, h⟩ := bind_eq_ok.mp h
    obtain ⟨_, -, h⟩ := bind_eq_ok.mp h
    obtain ⟨_, hcapacity, h⟩ := bind_eq_ok.mp h
    obtain ⟨_, hfresh, h⟩ := bind_eq_ok.mp h
    refine .sent ctx group messageId contentType hmethod hverified (requireText_eq_ok hmessageId)
      (requireText_eq_ok hcontentType) hcheck hgroup hreplay hcapacity (fun m hm ↦ ?_) h
    simpa using List.all_eq_true.mp (require_eq_ok.mp hfresh) m hm

/-- **Every successful hosted call has passed the checks of its handler.** -/
theorem hostedCall_accepted (h : hostedCall settings st call = .ok (result, st')) :
    HostedAccepted settings st call result st' := by
  unfold hostedCall at h
  cases hm : call.method <;> rw [hm] at h <;> dsimp only at h
  case create => exact hostedGroupCreate_accepted hm h
  case join => exact membershipMutation_accepted (.inl hm) (hm ▸ h)
  case add => exact membershipMutation_accepted (.inr hm) (hm ▸ h)
  case remove => exact endMembership_accepted (.inr hm) (hm ▸ h)
  case leave => exact endMembership_accepted (.inl hm) (hm ▸ h)
  case rebindMember => exact hostedGroupRebindMember_accepted hm h
  case updateProfile => exact updateGroup_accepted (.inl hm) (hm ▸ h)
  case updatePolicy => exact updateGroup_accepted (.inr hm) (hm ▸ h)
  case send => exact hostedGroupSend_accepted hm h
  all_goals simp at h

end Accepted

end Awiki
