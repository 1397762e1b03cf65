import AwikiOpenServer.Messaging.Groups.HostLog
import AwikiOpenServer.Messaging.Groups.InboundOnce

/-!
# A hosted operation takes effect once

An accepted operation leaves its result under `(sender, scope, method, operation id)`. Each handler
looks that row up for itself, some of them twice around a network call, and `hosted_group_create`
does so outside a write transaction; what rules out a second effect there is the primary key of the
insert. A call that finds the row answers with the stored result, whatever has become of the roster,
the policy, the head or the permissions since.

What a handler asks **before** the lookup can still turn a repetition away (`checkBeforeLookup`).
Most of it depends on the signed request alone, so it comes out as the first time. Two handlers,
create and rebind, also discover home services there, over the network; join and add do so after the
lookup. A repetition is therefore answered exactly when those discoveries succeed
(`hosted_operations_idempotent`), and is lost when one fails (`create_replay_lost`).

The table is shared: a Home keeps the answers of other Hosts in it, too. Only that rows are never
removed or rewritten is used of it (`Past`).

## Two facts about a handler

Everything rests on two lemmas about the nine handlers, proved by following each up to its lookup.
`hostedCall_checked` is that a call that was answered has passed the checks before the lookup, and
`hostedCall_replays` that a call which passes them and finds a row is a replay. So whether a
repetition is answered is a question about the checks alone, and about those of them that can come
out differently the second time.

## The same request

`SentAgain` says what a repetition has in common with the call it repeats: its key, its digest and
its profile. The digest binds the rest of the request (`DigestBinds`): two payloads of one digest
are one payload. The repetition may come at any later time, with another database around it, as long
as its group may still be written in that profile and Handles resolve as they did; the discoveries
of home services may come out differently.

## Effects

`TakesEffect` is one event, one row of the operation, and for a creation one group. A call leaves
the store alone or takes effect (`hostedCall_effect`). After an effect its row is in every later
table, so a call under the same key finds it: it is a replay, or is refused for its digest
(`operationReplay_of_row`, `operationReplay_of_conflict`).
-/

namespace Awiki

open Py Runs

/-! ### Keys -/

/-- The kind of target a method is sent to. -/
def GroupMethod.targetKind (method : GroupMethod) : String :=
  if method = .create then "service" else "group"

/-- `group_scope` of an operation: a creation has no group yet. -/
def GroupRequest.scope (settings : Settings) (ctx : GroupRequest) : String :=
  if ctx.method = .create then settings.serviceDid else ctx.targetDid

/-- The primary key of `group_operations`. -/
def GroupRequest.key (settings : Settings) (ctx : GroupRequest) :
    String × String × GroupMethod × String :=
  (ctx.senderDid, ctx.scope settings, ctx.method, ctx.operationId)

/-- **The key a call names**; nothing of it has been verified yet. -/
def HostedCall.key (settings : Settings) (c : HostedCall) :
    Option (String × String × GroupMethod × String) := do
  let metaObj ← (c.params.get "_anp_meta").obj?
  let senderDid ← (Obj.get metaObj "sender_did").str?
  let operationId ← (Obj.get metaObj "operation_id").str?
  let target ← (Obj.get metaObj "target").obj?
  let targetDid ← (Obj.get target "did").str?
  return (senderDid, if c.method = .create then settings.serviceDid else targetDid, c.method,
    operationId)

/-- `_request_context` of a call, against what it had read. -/
def HostedCall.context (settings : Settings) (c : HostedCall) : Result GroupRequest :=
  requestContext settings c.seen c.req c.params c.method c.method.targetKind

variable {settings : Settings} {st st' : Store} {c c' : HostedCall} {ctx ctx' : GroupRequest}
  {result : Obj}

/-- A verified request has the key it names. -/
theorem VerifiedContext.key_eq {kind : String}
    (h : VerifiedContext settings c.req c.params c.method kind ctx) :
    c.key settings = some (ctx.key settings) := by
  obtain ⟨target, htarget, -, hdid⟩ := h.target
  simp [HostedCall.key, h.metaObj, h.senderDid, h.operationId, htarget, hdid, GroupRequest.key,
    GroupRequest.scope, h.method_eq, Json.obj?, Json.str?]

/-! ### What is checked before the lookup -/

/-- What `hosted_group_create` checks before it looks for a stored result. -/
def checkCreate (settings : Settings) (seen : Store) (req : Request) (ctx : GroupRequest) :
    Result Unit := do
  require (ctx.targetDid = settings.serviceDid) (.invalidParams "group.target_service_mismatch")
  require (req.surface ≠ .publicRpc && didBelongsToDomain ctx.senderDid settings.didDomain)
    (.unauthorized "group.remote_create_not_allowed")
  let _ ← validateProfile (ctx.body.getD "group_profile" (.obj []))
  let policy ← validatePolicy (ctx.body.get "group_policy")
  let initial ← orRaise (.invalidParams "group.initial_members_invalid")
    (ctx.body.getD "initial_members" (.arr [])).arr?
  let creator ← resolveHandleField settings seen req (ctx.body.get "creator_handle")
    "group.creator_handle_invalid"
  require (creator.all fun b ↦ b.did = ctx.senderDid)
    (.unauthorized "group.creator_handle_did_mismatch")
  let prepared ← prepareMembers settings seen req initial [ctx.senderDid]
    (creator.map (·.handle)).toList
  let limit ← policyMaxMembers policy
  require (decide ((prepared.length : ℤ) + 1 ≤ limit))
    (.invalidParams "group.max_members_exceeded")

/-- What `hosted_group_rebind_member` checks before it does. -/
def checkRebind (settings : Settings) (seen : Store) (req : Request) (ctx : GroupRequest) :
    Result Unit := do
  let memberHandle ← requireText (ctx.body.get "member_handle") "group.member_handle_required"
  let _ ← requireText (ctx.body.get "previous_member_did") "group.previous_member_did_required"
  let newDid ← requireText (ctx.body.get "new_member_did") "group.new_member_did_required"
  let generation ← requireText (ctx.body.get "handle_binding_generation")
    "group.handle_binding_generation_required"
  require (ctx.senderDid = newDid) (.unauthorized "group.rebind_sender_mismatch")
  let binding ← resolveHandle settings seen req memberHandle
  require (binding.did = newDid) (.unauthorized "group.handle_did_mismatch")
  require (binding.bindingGeneration = generation)
    (.invalidParams "group.binding_generation_mismatch")
  let _ ← homeServiceDid settings req newDid

/-- What `_update_group` checks before it does. -/
def checkUpdate (ctx : GroupRequest) (patchKey : String) : Result Unit := do
  let _ ← orRaise (.invalidParams ("group." ++ patchKey ++ "_required"))
    (ctx.body.get patchKey).obj?

/-- What `hosted_group_send` checks before it does. -/
def checkSend (settings : Settings) (req : Request) (ctx : GroupRequest) : Result Unit := do
  let _ ← requireText (ctx.metaObj.get "message_id") "anp_meta_message_id_required"
  let contentType ← requireText (ctx.metaObj.get "content_type") "anp_meta_content_type_required"
  checkMessage settings req ctx.body contentType

/-- **The checks between the request context and the group**, method by method. -/
def checkBeforeLookup (settings : Settings) (seen : Store) (req : Request) (ctx : GroupRequest) :
    Result Unit :=
  match ctx.method with
  | .create => checkCreate settings seen req ctx
  | .rebindMember => checkRebind settings seen req ctx
  | .updateProfile => checkUpdate ctx "group_profile_patch"
  | .updatePolicy => checkUpdate ctx "group_policy_patch"
  | .send => checkSend settings req ctx
  | .join | .add | .leave | .remove => .ok ()
  | _ => .error { kind := .methodNotFound, message := "method_not_found" }

/-- The operations on a group look their row up under the DID of the group they found. -/
theorem lookup_scope {group : HostedGroup} {found : Option Obj}
    (hgroup : groupRow st ctx.targetDid (some ctx.profile) true = .ok group)
    (hmethod : ctx.method ≠ .create) (hfound : operationReplay st ctx group.groupDid = .ok found) :
    operationReplay st ctx (ctx.scope settings) = .ok found := by
  obtain ⟨-, hdid, -⟩ := groupRow_eq_ok hgroup
  rw [GroupRequest.scope, if_neg hmethod, ← hdid]
  exact hfound

/-- **A call that was answered had passed its checks**, and its lookup did not fail. -/
theorem hostedCall_checked {r : Obj × Store} (h : hostedCall settings st c = .ok r) :
    ∃ ctx, c.context settings = .ok ctx ∧ checkBeforeLookup settings c.seen c.req ctx = .ok () ∧
      ∃ s ∈ [c.seen, st], ∃ found, operationReplay s ctx (ctx.scope settings) = .ok found := by
  unfold hostedCall at h
  -- Peeled handler by handler up to the lookup. A create, join or add looks up in what it saw
  -- before; the others look up under the lock.
  cases hm : c.method <;> rw [hm] at h <;> dsimp only at h
  case create =>
    simp only [hostedGroupCreate, bind_eq_ok] at h
    obtain ⟨ctx, hctx, _, h₁, _, h₂, profile, h₃, policy, h₄, initial, h₅, creator, h₆, _, h₇,
      prepared, h₈, limit, h₉, _, h₁₀, found, hfound, -⟩ := h
    have hmethod := (requestContext_eq_ok hctx).method_eq
    refine ⟨ctx, by rw [HostedCall.context, hm]; exact hctx, ?_, c.seen, by simp, found,
      by rw [GroupRequest.scope, if_pos hmethod]; exact hfound⟩
    simp only [checkBeforeLookup, hmethod, checkCreate, bind_eq_ok]
    exact ⟨_, h₁, _, h₂, _, h₃, _, h₄, _, h₅, _, h₆, _, h₇, _, h₈, _, h₉, h₁₀⟩
  case join | add =>
    simp only [membershipMutation, bind_eq_ok] at h
    obtain ⟨ctx, hctx, group, hgroup, found, hfound, -⟩ := h
    have hmethod := (requestContext_eq_ok hctx).method_eq
    refine ⟨ctx, by rw [HostedCall.context, hm]; exact hctx, ?_, c.seen, by simp, found,
      by rw [GroupRequest.scope, if_neg (by simp [hmethod])]; exact hfound⟩
    simp only [checkBeforeLookup, hmethod]
  case leave | remove =>
    simp only [endMembership, bind_eq_ok] at h
    obtain ⟨ctx, hctx, group, hgroup, found, hfound, -⟩ := h
    have hmethod := (requestContext_eq_ok hctx).method_eq
    refine ⟨ctx, by rw [HostedCall.context, hm]; exact hctx, ?_, st, by simp, found,
      lookup_scope hgroup (by simp [hmethod]) hfound⟩
    simp only [checkBeforeLookup, hmethod]
  case rebindMember =>
    simp only [hostedGroupRebindMember, bind_eq_ok] at h
    obtain ⟨ctx, hctx, handle, h₁, previous, h₂, newDid, h₃, generation, h₄, _, h₅, binding, h₆, _,
      h₇, _, h₈, home, h₉, group, hgroup, found, hfound, -⟩ := h
    have hmethod := (requestContext_eq_ok hctx).method_eq
    refine ⟨ctx, by rw [HostedCall.context, hm]; exact hctx, ?_, st, by simp, found,
      lookup_scope hgroup (by simp [hmethod]) hfound⟩
    simp only [checkBeforeLookup, hmethod, checkRebind, bind_eq_ok]
    exact ⟨_, h₁, _, h₂, _, h₃, _, h₄, _, h₅, _, h₆, _, h₇, _, h₈, _, h₉, rfl⟩
  case updateProfile | updatePolicy =>
    simp only [updateGroup, bind_eq_ok] at h
    obtain ⟨ctx, hctx, patch, h₁, group, hgroup, found, hfound, -⟩ := h
    have hmethod := (requestContext_eq_ok hctx).method_eq
    refine ⟨ctx, by rw [HostedCall.context, hm]; exact hctx, ?_, st, by simp, found,
      lookup_scope hgroup (by simp [hmethod]) hfound⟩
    simp only [checkBeforeLookup, hmethod, checkUpdate, bind_eq_ok]
    exact ⟨_, h₁, rfl⟩
  case send =>
    simp only [hostedGroupSend, bind_eq_ok] at h
    obtain ⟨ctx, hctx, messageId, h₁, contentType, h₂, _, h₃, group, hgroup, found, hfound, -⟩ := h
    have hmethod := (requestContext_eq_ok hctx).method_eq
    refine ⟨ctx, by rw [HostedCall.context, hm]; exact hctx, ?_, st, by simp, found,
      lookup_scope hgroup (by simp [hmethod]) hfound⟩
    simp only [checkBeforeLookup, hmethod, checkSend, bind_eq_ok]
    exact ⟨_, h₁, _, h₂, h₃⟩
  all_goals simp at h

/-- **A call that passed its checks, and finds the row, is a replay.** -/
theorem hostedCall_replays (hctx : c.context settings = .ok ctx)
    (hchecks : checkBeforeLookup settings c.seen c.req ctx = .ok ())
    (hgroup : c.method ≠ .create → ∀ s ∈ [c.seen, st], ∃ g,
      groupRow s ctx.targetDid (some ctx.profile) true = .ok g)
    (hreplay : ∀ s ∈ [c.seen, st],
      operationReplay s ctx (ctx.scope settings) = .ok (some result)) :
    hostedCall settings st c = .ok (result, st) := by
  have hmethod := (requestContext_eq_ok hctx).method_eq
  have hseen := hreplay c.seen (by simp)
  have hnow := hreplay st (by simp)
  unfold hostedCall
  unfold HostedCall.context at hctx
  -- The same checks, put back in front of a lookup that finds the row.
  cases hm : c.method <;> rw [hm] at hctx hmethod hgroup <;> dsimp only
  all_goals
    simp only [checkBeforeLookup, hmethod] at hchecks
    simp only [GroupRequest.scope, hmethod] at hseen hnow
  case create =>
    simp only [checkCreate, bind_eq_ok] at hchecks
    obtain ⟨_, h₁, _, h₂, profile, h₃, policy, h₄, initial, h₅, creator, h₆, _, h₇, prepared, h₈,
      limit, h₉, h₁₀⟩ := hchecks
    simp only [hostedGroupCreate, bind_eq_ok]
    exact ⟨_, hctx, _, h₁, _, h₂, _, h₃, _, h₄, _, h₅, _, h₆, _, h₇, _, h₈, _, h₉, _, h₁₀, _, hseen,
      rfl⟩
  case join | add =>
    obtain ⟨g, hg⟩ := hgroup (by simp) c.seen (by simp)
    simp only [membershipMutation, bind_eq_ok]
    exact ⟨_, hctx, g, hg, _, hseen, rfl⟩
  all_goals
    obtain ⟨g, hg⟩ := hgroup (by simp) st (by simp)
    obtain ⟨-, hdid, -⟩ := groupRow_eq_ok hg
    rw [if_neg (by simp), ← hdid] at hnow
  case leave | remove =>
    simp only [endMembership, bind_eq_ok]
    exact ⟨_, hctx, g, hg, _, hnow, rfl⟩
  case rebindMember =>
    simp only [checkRebind, bind_eq_ok] at hchecks
    obtain ⟨handle, h₁, previous, h₂, newDid, h₃, generation, h₄, _, h₅, binding, h₆, _, h₇, _, h₈,
      home, h₉, -⟩ := hchecks
    simp only [hostedGroupRebindMember, bind_eq_ok]
    exact ⟨_, hctx, _, h₁, _, h₂, _, h₃, _, h₄, _, h₅, _, h₆, _, h₇, _, h₈, _, h₉, g, hg, _, hnow,
      rfl⟩
  case updateProfile | updatePolicy =>
    simp only [checkUpdate, bind_eq_ok] at hchecks
    obtain ⟨patch, h₁, -⟩ := hchecks
    simp only [updateGroup, bind_eq_ok]
    exact ⟨_, hctx, patch, h₁, g, hg, _, hnow, rfl⟩
  case send =>
    simp only [checkSend, bind_eq_ok] at hchecks
    obtain ⟨messageId, h₁, contentType, h₂, h₃⟩ := hchecks
    simp only [hostedGroupSend, bind_eq_ok]
    exact ⟨_, hctx, _, h₁, _, h₂, _, h₃, g, hg, _, hnow, rfl⟩
  all_goals simp at hchecks

/-! ### Handles and home services -/

/-- A Handle the request names. -/
def NamesHandle (body : Obj) (handle : String) : Prop :=
  body.get "creator_handle" = .str handle ∨ body.get "member_handle" = .str handle ∨
    ∃ (items : List Json) (m : Obj), body.getD "initial_members" (.arr []) = .arr items ∧
      Json.obj m ∈ items ∧ m.get "member_handle" = .str handle

/-- The DID an initial member comes to. -/
def initialDid (settings : Settings) (st : Store) (req : Request) (item : Json) :
    Option String := do
  let m ← item.obj?
  match Obj.get m "member_handle" with
  | .str handle => (resolveHandle settings st req handle).toOption.map (·.did)
  | _ => (Obj.get m "member_did").str?

/-- **The DIDs whose home service a request discovers before its lookup.** -/
def homesAsked (settings : Settings) (st : Store) (req : Request) (ctx : GroupRequest) :
    List String :=
  match ctx.method with
  | .create => ((ctx.body.getD "initial_members" (.arr [])).arr?.getD []).filterMap
      (initialDid settings st req)
  | .rebindMember => (ctx.body.get "new_member_did").str?.toList
  | _ => []

/-- Each of those discoveries succeeds. -/
def HomesFound (settings : Settings) (st : Store) (req : Request) (ctx : GroupRequest) : Prop :=
  ∀ did ∈ homesAsked settings st req ctx, ∃ home, homeServiceDid settings req did = .ok home

section Members

variable {req req' : Request}

/-- A Handle field is null, or names a Handle that is bound. -/
theorem resolveHandleField_eq_ok {v : Json} {error : String}
    {binding : Option VerifiedHandleBinding}
    (h : resolveHandleField settings st req v error = .ok binding) :
    (v = .null ∧ binding = none) ∨
      ∃ handle b, v = .str handle ∧ resolveHandle settings st req handle = .ok b ∧
        binding = some b := by
  unfold resolveHandleField at h
  split at h
  · obtain ⟨b, hb, h⟩ := bind_eq_ok.mp h
    exact .inr ⟨_, b, rfl, hb, (pure_eq_ok.mp h).symm⟩
  · exact .inl ⟨rfl, (Except.ok.inj h).symm⟩
  · cases h

/-- A Handle field resolves as it did. -/
theorem resolveHandleField_again {v : Json} {error : String}
    {binding : Option VerifiedHandleBinding}
    (h : resolveHandleField settings st req v error = .ok binding)
    (hhandles : ∀ handle b, v = .str handle → resolveHandle settings st req handle = .ok b →
      resolveHandle settings st' req' handle = .ok b) :
    resolveHandleField settings st' req' v error = .ok binding := by
  rcases resolveHandleField_eq_ok h with ⟨rfl, rfl⟩ | ⟨handle, b, rfl, hb, rfl⟩
  · rfl
  · rw [resolveHandleField, hhandles handle b rfl hb]
    rfl

/-- An initial member comes to one DID, by its Handle or by name. -/
theorem initialDid_eq {m : Obj} {error did : String} {binding : Option VerifiedHandleBinding}
    (hbinding : resolveHandleField settings st req (m.get "member_handle") error = .ok binding)
    (hdid : memberDidOf binding (m.get "member_did") = .ok did) :
    initialDid settings st req (.obj m) = some did := by
  simp only [initialDid, Json.obj?, Option.bind_eq_bind, Option.bind_some]
  rcases resolveHandleField_eq_ok hbinding with ⟨hnull, rfl⟩ | ⟨handle, b, hstr, hb, rfl⟩
  · rw [hnull]
    simp [requireText_eq_ok hdid, Json.str?]
  · rw [hstr]
    obtain rfl := Except.ok.inj hdid
    simp [hb, Except.toOption]

/-- **The loop over the initial members succeeds again**, if the homes are found. -/
theorem prepareMembers_again {items : List Json} {dids handles : List String}
    {prepared : List PreparedMember}
    (h : prepareMembers settings st req items dids handles = .ok prepared)
    (hhandles : ∀ (m : Obj) handle b, Json.obj m ∈ items → m.get "member_handle" = .str handle →
      resolveHandle settings st req handle = .ok b → resolveHandle settings st' req' handle = .ok b)
    (hhomes : ∀ did ∈ items.filterMap (initialDid settings st' req'),
      ∃ home, homeServiceDid settings req' did = .ok home) :
    ∃ prepared', prepareMembers settings st' req' items dids handles = .ok prepared' ∧
      prepared'.length = prepared.length := by
  induction items generalizing dids handles prepared with
  | nil =>
    obtain rfl := Except.ok.inj h
    exact ⟨[], rfl, rfl⟩
  | cons item rest ih =>
    simp only [prepareMembers, bind_eq_ok] at h ⊢
    obtain ⟨m, hm, _, hone, binding, hbinding, did, hdid, role, hrole, _, hnew, home, -, more,
      hmore, h⟩ := h
    obtain rfl := pure_eq_ok.mp h
    obtain rfl : item = .obj m := Json.obj?_eq_some.mp (orRaise_eq_ok.mp hm)
    have hagain := resolveHandleField_again hbinding fun handle b hv hb ↦
      hhandles m handle b (by simp) hv hb
    obtain ⟨home', hhome⟩ := hhomes did
      (List.mem_filterMap.mpr ⟨_, by simp, initialDid_eq hagain hdid⟩)
    obtain ⟨more', hmore', hlen⟩ := ih hmore
      (fun m' handle b hm' hv hb ↦ hhandles m' handle b (List.mem_cons_of_mem _ hm') hv hb)
      (fun d hd ↦ hhomes d (by
        obtain ⟨a, ha, had⟩ := List.mem_filterMap.mp hd
        exact List.mem_filterMap.mpr ⟨a, List.mem_cons_of_mem _ ha, had⟩))
    refine ⟨_, ⟨m, hm, _, hone, binding, hagain, did, hdid, role, hrole, _, hnew, home', hhome,
      more', hmore', rfl⟩, ?_⟩
    simp [hlen]

/-- A loop that succeeded has found every home. -/
theorem prepareMembers_homes {items : List Json} {dids handles : List String}
    {prepared : List PreparedMember}
    (h : prepareMembers settings st req items dids handles = .ok prepared) :
    ∀ did ∈ items.filterMap (initialDid settings st req),
      ∃ home, homeServiceDid settings req did = .ok home := by
  induction items generalizing dids handles prepared with
  | nil => simp
  | cons item rest ih =>
    simp only [prepareMembers, bind_eq_ok] at h
    obtain ⟨m, hm, _, -, binding, hbinding, did, hdid, role, -, _, -, home, hhome, more,
      hmore, -⟩ := h
    obtain rfl : item = .obj m := Json.obj?_eq_some.mp (orRaise_eq_ok.mp hm)
    intro d hd
    rw [List.filterMap_cons_some (initialDid_eq hbinding hdid)] at hd
    rcases List.mem_cons.mp hd with rfl | hd
    · exact ⟨home, hhome⟩
    · exact ih hmore d hd

end Members

/-- The checks of a call include its discoveries. -/
theorem homesFound_of_checked {req : Request}
    (h : checkBeforeLookup settings st req ctx = .ok ()) : HomesFound settings st req ctx := by
  unfold checkBeforeLookup at h
  unfold HomesFound homesAsked
  cases hm : ctx.method <;> simp only [hm] at h ⊢
  case create =>
    simp only [checkCreate, bind_eq_ok] at h
    obtain ⟨_, -, _, -, profile, -, policy, -, initial, hinitial, creator, -, _, -, prepared,
      hprepared, -⟩ := h
    rw [orRaise_eq_ok.mp hinitial]
    exact prepareMembers_homes hprepared
  case rebindMember =>
    simp only [checkRebind, bind_eq_ok] at h
    obtain ⟨handle, -, previous, -, newDid, hdid, generation, -, _, -, binding, -, _, -, _, -, home,
      hhome, -⟩ := h
    rw [requireText_eq_ok hdid]
    intro d hd
    obtain rfl : d = newDid := by simpa [Json.str?] using hd
    exact ⟨home, hhome⟩
  all_goals simp

/-! ### The same request, sent again -/

/-- **Payload digests are collision-free and bound to the request.** The digest covers the body and
the signed members of `meta`; hop diagnostics are not among them. -/
def DigestBinds (ctx ctx' : GroupRequest) : Prop :=
  ctx'.payloadDigest = ctx.payloadDigest → ctx'.body = ctx.body ∧
    ∀ k ∈ ["target", "message_id", "content_type"], ctx'.metaObj.get k = ctx.metaObj.get k

/-- **A repetition `c'` of the call `c`**, against the store `st`: its key, digest and profile are
those of `c`, its group may be written in that profile, and Handles resolve as they did. A creation
is taken on the local surface only. -/
structure SentAgain (settings : Settings) (st : Store) (c c' : HostedCall)
    (ctx ctx' : GroupRequest) : Prop where
  verified : c'.context settings = .ok ctx'
  key : ctx'.key settings = ctx.key settings
  digest : ctx'.payloadDigest = ctx.payloadDigest
  profile : ctx'.profile = ctx.profile
  bound : DigestBinds ctx ctx'
  group : c'.method ≠ .create → ∀ s ∈ [c'.seen, st], ∃ g, s.hostedGroup? ctx'.targetDid = some g ∧
    g.wireProfile = ctx'.profile ∧ g.protocolState ≠ .quiescing
  handles : ∀ handle b, NamesHandle ctx.body handle →
    resolveHandle settings c.seen c.req handle = .ok b →
      resolveHandle settings c'.seen c'.req handle = .ok b
  surface : c'.method = .create → c'.req.surface = .localRpc
  /-- The canonical form of a document has one size. -/
  size : ∀ body, c'.req.outside.canonicalSize body = c.req.outside.canonicalSize body

namespace SentAgain

variable (h : SentAgain settings st c c' ctx ctx')

include h

/-- Its body is the same, -/
theorem body : ctx'.body = ctx.body := (h.bound h.digest).1

/-- its method, -/
theorem method : ctx'.method = ctx.method := congrArg (fun k ↦ k.2.2.1) h.key

/-- its sender, -/
theorem senderDid : ctx'.senderDid = ctx.senderDid := congrArg Prod.fst h.key

/-- and whom it is addressed to. -/
theorem targetDid (hctx : c.context settings = .ok ctx) : ctx'.targetDid = ctx.targetDid := by
  obtain ⟨target, htarget, -, hdid⟩ := (requestContext_eq_ok hctx).target
  obtain ⟨target', htarget', -, hdid'⟩ := (requestContext_eq_ok h.verified).target
  have hsame := (h.bound h.digest).2 "target" (by simp)
  rw [htarget, htarget', Json.obj.injEq] at hsame
  rw [hsame, hdid, Json.str.injEq] at hdid'
  exact hdid'.symm

/-- The group of a repetition passes the protocol check. -/
theorem groupRow_eq (hm : c'.method ≠ .create) :
    ∀ s ∈ [c'.seen, st], ∃ g, groupRow s ctx'.targetDid (some ctx'.profile) true = .ok g := by
  intro s hs
  obtain ⟨g, hg, hprofile, hstate⟩ := h.group hm s hs
  refine ⟨g, bind_eq_ok.mpr ⟨g, orRaise_eq_ok.mpr hg, bind_eq_ok.mpr ⟨(), ?_, rfl⟩⟩⟩
  simp [requireGroupProtocol, hprofile, hstate]

/-- **The checks come out as the first time**, if the homes are found. -/
theorem checked (hctx : c.context settings = .ok ctx)
    (hchecks : checkBeforeLookup settings c.seen c.req ctx = .ok ())
    (hhomes : HomesFound settings c'.seen c'.req ctx') :
    checkBeforeLookup settings c'.seen c'.req ctx' = .ok () := by
  have hmethod := (requestContext_eq_ok h.verified).method_eq
  have hmeta := (h.bound h.digest).2
  unfold HomesFound homesAsked at hhomes
  unfold checkBeforeLookup at hchecks ⊢
  rw [h.method] at hhomes hmethod ⊢
  -- What the checks read is the same again; only the homes of the members have to be asked anew.
  cases hm : ctx.method <;> simp only [hm] at hchecks hhomes hmethod ⊢
  case create =>
    simp only [checkCreate, bind_eq_ok] at hchecks ⊢
    rw [h.body] at hhomes ⊢
    rw [h.senderDid, h.targetDid hctx]
    obtain ⟨_, h₁, _, h₂, profile, h₃, policy, h₄, initial, h₅, creator, h₆, _, h₇, prepared, h₈,
      limit, h₉, h₁₀⟩ := hchecks
    have hlocal := h.surface hmethod.symm
    have hinitial : ctx.body.getD "initial_members" (.arr []) = .arr initial :=
      Json.arr?_eq_some.mp (orRaise_eq_ok.mp h₅)
    have hcreator := resolveHandleField_again h₆ fun handle b hv ↦
      h.handles handle b (.inl hv)
    rw [hinitial] at hhomes
    obtain ⟨prepared', hprepared', hlen⟩ := prepareMembers_again h₈
      (fun m handle b hm' hv ↦ h.handles handle b (.inr (.inr ⟨initial, m, hinitial, hm', hv⟩)))
      hhomes
    refine ⟨_, h₁, (), ?_, _, h₃, _, h₄, _, h₅, _, hcreator, _, h₇, _, hprepared', _, h₉, ?_⟩
    · rw [require_eq_ok] at h₂ ⊢
      simp_all
    · rw [hlen]
      exact h₁₀
  case rebindMember =>
    simp only [checkRebind, bind_eq_ok] at hchecks ⊢
    rw [h.body] at hhomes ⊢
    rw [h.senderDid]
    obtain ⟨handle, h₁, previous, h₂, newDid, h₃, generation, h₄, _, h₅, binding, h₆, _, h₇, _, h₈,
      home, h₉, -⟩ := hchecks
    have hbinding := h.handles handle binding (.inr (.inl (requireText_eq_ok h₁))) h₆
    obtain ⟨home', hhome⟩ := hhomes newDid (by rw [requireText_eq_ok h₃]; simp [Json.str?])
    exact ⟨_, h₁, _, h₂, _, h₃, _, h₄, _, h₅, _, hbinding, _, h₇, _, h₈, _, hhome, rfl⟩
  case updateProfile | updatePolicy =>
    simp only [checkUpdate] at hchecks ⊢
    rw [h.body]
    exact hchecks
  case send =>
    simp only [checkSend, checkMessage] at hchecks ⊢
    rw [h.body, hmeta "message_id" (by simp), hmeta "content_type" (by simp)]
    simp only [h.size]
    exact hchecks
  all_goals simp at hchecks

end SentAgain

/-! ### Looking a row up -/

section Lookup

variable {op : GroupOperation}

/-- An answer is accepted as the first time. -/
theorem standardV2Acceptance_congr (hprofile : ctx'.profile = ctx.profile)
    (hoperation : ctx'.operationId = ctx.operationId) (result : Obj) :
    standardV2Acceptance ctx' result = standardV2Acceptance ctx result := by
  unfold standardV2Acceptance
  rw [hprofile, hoperation]

/-- The row answers a request with its digest and profile. -/
theorem operationReplay_of_row {scope : String}
    (hrow : Table.row? GroupOperation.key (ctx'.senderDid, scope, ctx'.method, ctx'.operationId)
      st.groupOperations = some op)
    (hstored : op.StoredBy ctx) (hoperation : ctx'.operationId = ctx.operationId)
    (hdigest : ctx'.payloadDigest = ctx.payloadDigest) (hprofile : ctx'.profile = ctx.profile) :
    operationReplay st ctx' scope =
      .ok (some (op.result.set "idempotent_replay" (.bool true))) := by
  rw [operationReplay, hrow]
  refine bind_eq_ok.mpr ⟨(), ?_, bind_eq_ok.mpr ⟨op.result, ?_, rfl⟩⟩
  · simp [hstored.wireProfile, hstored.payloadDigest, hdigest, hprofile]
  · rw [standardV2Acceptance_congr hprofile hoperation]
    exact hstored.accepted

/-- It refuses every other. -/
theorem operationReplay_of_conflict {scope : String} {found : Option Obj}
    (hrow : Table.row? GroupOperation.key (ctx'.senderDid, scope, ctx'.method, ctx'.operationId)
      st.groupOperations = some op)
    (hstored : op.StoredBy ctx)
    (hother : ctx'.payloadDigest ≠ ctx.payloadDigest ∨ ctx'.profile ≠ ctx.profile) :
    operationReplay st ctx' scope ≠ .ok found := by
  intro h
  rw [operationReplay, hrow] at h
  obtain ⟨_, hsame, -⟩ := bind_eq_ok.mp h
  rw [require_eq_ok, hstored.wireProfile, hstored.payloadDigest, Bool.and_eq_true,
    decide_eq_true_eq, decide_eq_true_eq] at hsame
  rcases hother with hother | hother
  · exact hother hsame.2.symm
  · exact hother hsame.1.symm

end Lookup

/-! ### Effects -/

/-- **The call took effect**: one event, for a creation one group, and the row of its key, which was
not there before. -/
structure TakesEffect (settings : Settings) (st : Store) (c : HostedCall) (ctx : GroupRequest)
    (result : Obj) (st' : Store) : Prop where
  answered : hostedCall settings st c = .ok (result, st')
  verified : c.context settings = .ok ctx
  event : ∃ e, st'.hostedGroupEvents = st.hostedGroupEvents ++ [e]
  groups : if c.method = .create then ∃ g, st'.hostedGroups = st.hostedGroups ++ [g]
    else st'.hostedGroups.map HostedGroup.groupDid = st.hostedGroups.map HostedGroup.groupDid
  operation : ∃ op, st'.groupOperations = st.groupOperations ++ [op] ∧
    op.key = ctx.key settings ∧ op.result = result ∧ op.StoredBy ctx ∧
    ∀ o ∈ st.groupOperations, o.key ≠ ctx.key settings

/-- A creation takes effect, -/
theorem Creation.takesEffect (creation : Creation settings st st')
    (hcall : hostedCall settings st c = .ok (creation.result, st'))
    (hverified : c.context settings = .ok creation.ctx) (hmethod : c.method = .create) :
    TakesEffect settings st c creation.ctx creation.result st' := by
  have hkey : creation.operation.key = creation.ctx.key settings := by
    have hm := (requestContext_eq_ok hverified).method_eq.trans hmethod
    rw [creation.operation_key, GroupRequest.key, GroupRequest.scope, if_pos hm, hm]
  exact {
    answered := hcall
    verified := hverified
    event := ⟨_, creation.events⟩
    groups := by rw [if_pos hmethod]; exact ⟨_, creation.groups⟩
    operation := ⟨_, creation.operations, hkey, creation.operation_result,
      creation.operation_stored, fun o ho ↦ hkey ▸ creation.operation_fresh o ho⟩ }

/-- and so does an advance. -/
theorem Advance.takesEffect (a : Advance settings st st')
    (hcall : hostedCall settings st c = .ok (a.result, st'))
    (hverified : c.context settings = .ok a.ctx) (htarget : a.group.groupDid = a.ctx.targetDid) :
    TakesEffect settings st c a.ctx a.result st' := by
  have hm := (requestContext_eq_ok hverified).method_eq
  have hcreate : a.ctx.method ≠ .create := a.roster.method_ne_create
  have hkey : a.operation.key = a.ctx.key settings := by
    rw [a.operation_key, GroupRequest.key, GroupRequest.scope, if_neg hcreate, htarget]
  exact {
    answered := hcall
    verified := hverified
    event := ⟨_, a.events⟩
    groups := by
      rw [if_neg (hm ▸ hcreate), a.groups, writeHead]
      exact Table.map_key_updateWhere fun _ _ ↦ rfl
    operation := ⟨_, a.operations, hkey, a.operation_result, a.operation_stored,
      fun o ho ↦ hkey ▸ a.operation_fresh o ho⟩ }

/-- **An answered call leaves the store alone, or takes effect.** -/
theorem hostedCall_effect (h : hostedCall settings st c = .ok (result, st')) :
    st' = st ∨ ∃ ctx, TakesEffect settings st c ctx result st' := by
  obtain ⟨ctx₀, hctx₀, -⟩ := hostedCall_checked h
  have hverified₀ := requestContext_eq_ok hctx₀
  cases hostedCall_tail h with
  | replayed s hs ctx scope hmethod hreplay hsame => exact .inl hsame
  | created ctx groupDid keyPath document profile policy creator prepared hmethod hctx hprepared
      hdomain hcommit =>
    right
    rw [hmethod] at hverified₀
    obtain rfl := hverified₀.unique hctx
    obtain ⟨creation, rfl, rfl, -⟩ := commitCreate_creation hcommit hctx.method_eq hdomain
    exact ⟨_, creation.takesEffect h hctx₀ hmethod⟩
  | changed ctx group members change hmethod hctx hgroup _ hchange hroster haccept =>
    right
    obtain ⟨hfound, hdid, hprofile, hactive⟩ := groupRow_eq_ok hgroup
    obtain ⟨a, rfl, rfl, rfl, -⟩ := acceptStateChange_advance haccept hfound hprofile hactive
      (hctx.method_eq ▸ hmethod) hchange.wireProfile hchange.protocolState hchange.coherent
      (hctx.method_eq ▸ hroster)
    have hkind : c.method.targetKind = "group" :=
      if_neg (hctx.method_eq ▸ a.roster.method_ne_create)
    obtain rfl := (hkind ▸ hverified₀).unique hctx
    exact ⟨_, a.takesEffect h hctx₀ hdid⟩
  | sent ctx group messageId contentType hmethod hctx hgroup _ haccept =>
    right
    obtain ⟨a, ha⟩ := acceptMessage_messageAdvance hmethod hctx hgroup haccept
    obtain rfl := ha.result_eq
    have hkind : c.method.targetKind = "group" := by simp [GroupMethod.targetKind, hmethod]
    obtain rfl := (hkind ▸ hverified₀).unique ha.verified
    exact ⟨_, a.takesEffect h hctx₀ ha.target⟩

/-! ### Runs -/

/-- **One step of a server** that is a Host and also keeps, in the same table, the answers other
Hosts gave its users. -/
inductive GroupServerStep (settings : Settings) :
    HostWorld → Option HostAction → HostWorld → Prop where
  | host {w w' : HostWorld} {a : HostAction} (h : HostStep settings w a w') :
      GroupServerStep settings w (some a) w'
  | forwarded {w : HostWorld} {st' : Store} {req : Request} {params answer : Obj}
      {method : GroupMethod} {reply : Obj}
      (h : forwardGroupCommand settings w.store req params method reply = .ok (answer, st')) :
      GroupServerStep settings w none { w with store := st' }

/-- Nothing has happened. -/
theorem Past.refl (st : Store) : Past st st := List.prefix_rfl

/-- First the one, then the other. -/
theorem Past.trans {a b d : Store} (hab : Past a b) (hbd : Past b d) : Past a d :=
  List.IsPrefix.trans hab hbd

/-- Every step of the Host keeps the rows, -/
theorem StoreStep.past {a : HostAction} (h : StoreStep settings st a st') : Past st st' := by
  unfold Past
  cases h with
  | unchanged => exact List.prefix_rfl
  | created _ _ creation => exact creation.operations ▸ List.prefix_append _ _
  | advanced _ _ advance => exact advance.operations ▸ List.prefix_append _ _
  | attempted => exact List.prefix_rfl
  | elsewhere h => exact h.groupOperations ▸ List.prefix_rfl

/-- and so does what the server writes as a Home. -/
theorem GroupServerStep.past {w w' : HostWorld} {a : Option HostAction}
    (h : GroupServerStep settings w a w') : Past w.store w'.store := by
  cases h with
  | host h => exact h.storeStep.past
  | forwarded h =>
    obtain ⟨ops, views, rows, messages, hops, rfl⟩ := forwardGroupCommand_writes h
    exact hops

/-- **Rows are kept**, from any moment of a run on. -/
theorem past_of_reaches {w w' : HostWorld} (h : Reaches (GroupServerStep settings) w w') :
    Past w.store w'.store :=
  ReachesWith.related (I := fun _ ↦ True) (R := fun a b ↦ Past a.store b.store) h trivial
    (fun _ _ hs ↦ ⟨trivial, hs.past⟩) (fun a ↦ Past.refl a.store) Past.trans

namespace TakesEffect

variable (h : TakesEffect settings st c ctx result st')

include h

/-- The row of an effect is found in every later table. -/
theorem row {s : Store} (hs : Past st' s) : ∃ op, op.result = result ∧ op.StoredBy ctx ∧
    Table.row? GroupOperation.key (ctx.key settings) s.groupOperations = some op := by
  obtain ⟨op, hops, hkey, hresult, hstored, hfresh⟩ := h.operation
  refine ⟨op, hresult, hstored, Table.row?_of_prefix hs ?_⟩
  rw [hops, Table.row?_append, Table.row?_eq_none.mpr hfresh, if_pos hkey]
  rfl

/-- **No second effect.** -/
theorem no_other {s : Store} (hs : Past st' s) (hkey : c'.key settings = c.key settings) :
    afterCall settings s c' = s := by
  unfold afterCall
  cases hcall : hostedCall settings s c' with
  | error e => rfl
  | ok r =>
    obtain ⟨result', s'⟩ := r
    rcases hostedCall_effect hcall with rfl | ⟨ctx', heffect⟩
    · rfl
    · -- The insert of a second row would have hit the primary key.
      exfalso
      have hsame : ctx'.key settings = ctx.key settings := by
        rw [(requestContext_eq_ok h.verified).key_eq,
          (requestContext_eq_ok heffect.verified).key_eq, Option.some.injEq] at hkey
        exact hkey
      obtain ⟨op, -, -, hrow⟩ := h.row hs
      obtain ⟨-, -, -, -, -, hfresh⟩ := heffect.operation
      exact hfresh op (Table.mem_of_row? hrow) ((Table.key_of_row? hrow).trans hsame.symm)

/-- **A repetition is answered with the stored result exactly when its discoveries succeed.** -/
theorem answers_again {s : Store} (hsent : Past st' c'.seen) (hseen : Past c'.seen s)
    (hagain : SentAgain settings s c c' ctx ctx') :
    hostedCall settings s c' = .ok (result.set "idempotent_replay" (.bool true), s) ↔
      HomesFound settings c'.seen c'.req ctx' := by
  obtain ⟨ctx₀, hctx₀, hchecks, -⟩ := hostedCall_checked h.answered
  obtain rfl : ctx = ctx₀ := Except.ok.inj (h.verified.symm.trans hctx₀)
  constructor
  · intro hcall
    obtain ⟨ctx₁, hctx₁, hchecks₁, -⟩ := hostedCall_checked hcall
    obtain rfl : ctx' = ctx₁ := Except.ok.inj (hagain.verified.symm.trans hctx₁)
    exact homesFound_of_checked hchecks₁
  · intro hhomes
    refine hostedCall_replays hagain.verified (hagain.checked h.verified hchecks hhomes)
      hagain.groupRow_eq fun t ht ↦ ?_
    have hpast : Past st' t := by
      rcases List.mem_pair.mp ht with rfl | rfl
      · exact hsent
      · exact hsent.trans hseen
    obtain ⟨op, rfl, hstored, hrow⟩ := h.row hpast
    have hoperation : ctx'.operationId = ctx.operationId := congrArg (fun k ↦ k.2.2.2) hagain.key
    rw [← hagain.key] at hrow
    exact operationReplay_of_row hrow hstored hoperation hagain.digest hagain.profile

/-- **Another payload under the same key is refused.** -/
theorem refuses_other {s : Store} (hsent : Past st' c'.seen) (hseen : Past c'.seen s)
    (hctx' : c'.context settings = .ok ctx') (hkey : ctx'.key settings = ctx.key settings)
    (hother : ctx'.payloadDigest ≠ ctx.payloadDigest ∨ ctx'.profile ≠ ctx.profile) :
    ∃ e, hostedCall settings s c' = .error e := by
  cases hcall : hostedCall settings s c' with
  | error e => exact ⟨e, rfl⟩
  | ok r =>
    exfalso
    obtain ⟨ctx₁, hctx₁, -, t, ht, found, hfound⟩ := hostedCall_checked hcall
    obtain rfl : ctx' = ctx₁ := Except.ok.inj (hctx'.symm.trans hctx₁)
    have hpast : Past st' t := by
      rcases List.mem_pair.mp ht with rfl | rfl
      · exact hsent
      · exact hsent.trans hseen
    obtain ⟨op, -, hstored, hrow⟩ := h.row hpast
    rw [← hkey] at hrow
    exact operationReplay_of_conflict hrow hstored hother hfound

end TakesEffect

/-! ### A creation, and its repetition -/

/-- `peer.example` cannot be reached: nothing is discovered there. -/
def Outside.unreachable : Outside :=
  { Outside.honest with
    discoverAnpService := fun _ ↦ .error (.notFound "anp_runtime_capabilities_unavailable") }

/-- Alice creates a group with Bob in it. -/
def createWithBob (outside : Outside) (seen : Store) : HostedCall where
  method := .create
  req := { surface := .localRpc, credentials := .bearer alice, outside := outside }
  params := (sampleCreate [.obj [("member_did", .str bob)]]).params
  seen := seen
  replayed := seen

/-- The store after it. -/
@[irreducible] def bobsStore : Store := afterCall .sample {} (createWithBob .honest {})

/-- What it has read is the store it commits to. -/
theorem createWithBob_seen (outside : Outside) (s : Store) :
    (createWithBob outside s).seen = s := rfl

/-- It is accepted, with one event. -/
theorem createWithBob_ok : (hostedCall .sample {} (createWithBob .honest {})).toOption.isSome ∧
    bobsStore.hostedGroupEvents.length = 1 := by
  decide +kernel

/-- It takes effect. -/
theorem createWithBob_effect :
    ∃ ctx result, TakesEffect .sample {} (createWithBob .honest {}) ctx result bobsStore := by
  obtain ⟨hok, hevents⟩ := createWithBob_ok
  cases hcall : hostedCall .sample {} (createWithBob .honest {}) with
  | error e => simp [hcall, Except.toOption] at hok
  | ok r =>
    obtain ⟨result, st'⟩ := r
    obtain rfl : bobsStore = st' := by
      unfold bobsStore afterCall
      rw [hcall]
    rcases hostedCall_effect hcall with hsame | ⟨ctx, h⟩
    · rw [hsame] at hevents
      simp at hevents
    · exact ⟨ctx, result, h⟩

/-- The same request, whatever the network answers. -/
theorem createWithBob_again {outside : Outside} {ctx : GroupRequest} {result : Obj}
    (hok : ((createWithBob outside bobsStore).context .sample).toOption.isSome)
    (hsize : outside.canonicalSize = Outside.honest.canonicalSize)
    (h : TakesEffect .sample {} (createWithBob .honest {}) ctx result bobsStore) :
    SentAgain .sample bobsStore (createWithBob .honest {}) (createWithBob outside bobsStore)
      ctx ctx := by
  cases hctx : (createWithBob outside bobsStore).context .sample with
  | error e => simp [hctx, Except.toOption] at hok
  | ok ctx' =>
    obtain rfl := (requestContext_eq_ok hctx).unique (requestContext_eq_ok h.verified)
    exact {
      verified := hctx
      key := rfl
      digest := rfl
      profile := rfl
      bound := fun _ ↦ ⟨rfl, fun _ _ ↦ rfl⟩
      group := fun hm ↦ absurd rfl hm
      handles := fun handle b _ hb ↦ by cases hb
      surface := fun _ ↦ rfl
      size := fun body ↦ congrFun hsize body }

/-- The repetition is verified, whether or not the peer can be reached. -/
theorem createWithBob_context :
    ((createWithBob .honest bobsStore).context .sample).toOption.isSome ∧
      ((createWithBob .unreachable bobsStore).context .sample).toOption.isSome := by
  decide +kernel

/-- Every home is found by an honest outside. -/
theorem homeServiceDid_honest (did : String) :
    ∃ home, homeServiceDid .sample (createWithBob .honest bobsStore).req did = .ok home := by
  unfold homeServiceDid
  split
  · exact ⟨_, rfl⟩
  · exact ⟨"did:wba:peer.example", rfl⟩

/-- **Hosted operations are idempotent.** Whatever state a run is in, a call leaves the store alone
or takes effect; and after an effect, for as long as the run goes on: no call with that key changes
the store; the same request, sent again, is answered with the stored result marked as a replay,
exactly when the home services it discovers first are found; a request with that key and another
digest or profile is an error. -/
theorem hosted_operations_idempotent (settings : Settings) (w : HostWorld) (c : HostedCall) :
    afterCall settings w.store c = w.store ∨
      ∃ ctx result, TakesEffect settings w.store c ctx result (afterCall settings w.store c) ∧
        ∀ w', Reaches (GroupServerStep settings)
          { w with store := afterCall settings w.store c } w' →
          ∀ c' : HostedCall,
            (c'.key settings = c.key settings → afterCall settings w'.store c' = w'.store) ∧
            (Past (afterCall settings w.store c) c'.seen → Past c'.seen w'.store → ∀ ctx',
              (SentAgain settings w'.store c c' ctx ctx' →
                (hostedCall settings w'.store c' =
                    .ok (result.set "idempotent_replay" (.bool true), w'.store) ↔
                  HomesFound settings c'.seen c'.req ctx')) ∧
              (c'.context settings = .ok ctx' → ctx'.key settings = ctx.key settings →
                (ctx'.payloadDigest ≠ ctx.payloadDigest ∨ ctx'.profile ≠ ctx.profile) →
                  ∃ e, hostedCall settings w'.store c' = .error e)) := by
  cases hcall : hostedCall settings w.store c with
  | error e => exact .inl (by simp [afterCall, hcall])
  | ok r =>
    obtain ⟨result, st'⟩ := r
    have hst' : afterCall settings w.store c = st' := by simp [afterCall, hcall]
    rw [hst']
    obtain hsame | ⟨ctx, heffect⟩ := hostedCall_effect hcall
    · exact .inl hsame
    refine .inr ⟨ctx, result, heffect, ?_⟩
    intro w' hrun c'
    have hpast := past_of_reaches hrun
    exact ⟨heffect.no_other hpast, fun hsent hseen ctx' ↦
      ⟨heffect.answers_again hsent hseen, heffect.refuses_other hsent hseen⟩⟩

/-- Bob's home is reached again: Alice gets the stored result. -/
theorem hosted_operations_idempotent_create :
    ∃ result, hostedCall .sample bobsStore (createWithBob .honest bobsStore) =
      .ok (Obj.set result "idempotent_replay" (.bool true), bobsStore) := by
  have hbob : afterCall .sample HostWorld.empty.store (createWithBob .honest {}) = bobsStore := by
    unfold bobsStore
    rfl
  have h := hosted_operations_idempotent .sample .empty (createWithBob .honest {})
  rw [hbob] at h
  rcases h with hsame | ⟨ctx, result, heffect, hlater⟩
  · have hevents := createWithBob_ok.2
    rw [hsame] at hevents
    simp [HostWorld.empty] at hevents
  · have hagain := createWithBob_again createWithBob_context.1 rfl heffect
    have hrun := hlater { HostWorld.empty with store := bobsStore } (.refl _)
      (createWithBob .honest bobsStore)
    rw [createWithBob_seen] at hrun
    have hanswer := (hrun.2 (Past.refl bobsStore) (Past.refl bobsStore) ctx).1 hagain
    exact ⟨result, hanswer.mpr fun did _ ↦ homeServiceDid_honest did⟩

/-- **A repetition that is lost.** The creation has been accepted and its result stored; the same
request is sent again while Bob's home cannot be reached, and is answered with an error. -/
theorem create_replay_lost :
    ∃ ctx result, TakesEffect .sample {} (createWithBob .honest {}) ctx result bobsStore ∧
      SentAgain .sample bobsStore (createWithBob .honest {}) (createWithBob .unreachable bobsStore)
        ctx ctx ∧
      ∀ r, hostedCall .sample bobsStore (createWithBob .unreachable bobsStore) ≠ .ok r := by
  obtain ⟨ctx, result, heffect⟩ := createWithBob_effect
  refine ⟨ctx, result, heffect, createWithBob_again createWithBob_context.2 rfl heffect, ?_⟩
  have hnone : (hostedCall .sample bobsStore
      (createWithBob .unreachable bobsStore)).toOption.isNone := by
    decide +kernel
  intro r hr
  simp [hr, Except.toOption] at hnone

end Awiki
