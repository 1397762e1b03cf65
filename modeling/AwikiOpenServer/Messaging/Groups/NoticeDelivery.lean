import AwikiOpenServer.Messaging.Groups.HomeVersions
import AwikiOpenServer.Messaging.Groups.Envelope
import AwikiOpenServer.Messaging.Groups.Notices

/-!
# Notices at the Home of their target

A notice is delivered as a request whose `meta`, `auth` and `body` are those of its envelope. What
the Home reads from it is what the Host wrote: the group, the target, the version pair of the
receipt (`Accepts.stateChange`, `Accepts.message`). Where the notice is newer than everything the
Home has of the group, accepting it rewrites the projected group, and of the projected roster at
most the entry of the subject (`projectSubject_viewEntry`).

## Acceptance as a hypothesis

`Accepts` is a delivery that the Home has accepted: the request carries the envelope of the notice,
and the handler has succeeded. Nothing is said here of why it did; that deliveries in order are
accepted is the subject of `Messaging/Groups/HomeAccepts.lean`. What follows from acceptance is read
off the handlers backwards: the checks have passed, so the receipt that was verified is the one in
the body, and its pair is that of the event.

A body may have been laid over the control fields of the Host by a sender who names them. For a
message this matters in one place, the receipt, and `Accepts.message` is about bodies that do not
bring one.

## Newer than everything

The branches of the handlers that consume a notice without applying it are all about events that the
projection has reached or passed. Where the Home has a record of nothing as new, and its view stands
behind, the applying branch is the only one left (`applyStateChanged_of_newer`,
`applyIncoming_of_newer`). `AppliedChange` and `AppliedMessage` say what it writes, in the terms the
remote projection needs: the view of the target, and the entry of one DID in its roster.
-/

namespace Awiki

open Py

/-! ### Deliveries -/

/-- **A delivery of a notice that the Home accepts.** The proofs, signatures and lookups of the
request are whatever the outside answers. -/
inductive Accepts (settings : Settings) (home : Store) (notice : Notice) (home' : Store) :
    Prop where
  | delivered (req : Request) (params result : Obj)
      (hmeta : params.get "_anp_meta" = notice.param "meta")
      (hauth : params.get "_anp_auth" = notice.param "auth")
      (hbody : params.get "_anp_body" = notice.param "body")
      (hcall : (if notice.method = .stateChanged then groupStateChanged settings home req params
        else groupIncoming settings home req params) = .ok (result, home'))

/-- What the projected roster of an owner says of a DID: its role and its status. -/
def Store.viewEntry (st : Store) (ownerDid groupDid did : String) : Option (String × String) :=
  (Table.row? GroupMemberView.key (ownerDid, groupDid, did) st.groupMemberViews).map
    fun r ↦ (r.role, r.status)

/-! ### What the Home reads -/

section Reading

variable {settings : Settings} {st : Store} {req : Request} {params : Obj}

/-- The profile and the target of a checked notification are those of its envelope. -/
theorem notificationContext_target {method : GroupMethod} {n : Notification}
    (h : notificationContext settings st req params method = .ok n) :
    params.get "_anp_meta" = .obj n.metaObj ∧
      baseProfile (n.metaObj.get "profile") = some n.profile ∧
      ∃ target, n.metaObj.get "target" = .obj target ∧
        Obj.get target "did" = .str n.targetDid := by
  unfold notificationContext at h
  obtain ⟨metaObj, hmeta, h⟩ := bind_eq_ok.mp h
  obtain ⟨body, -, h⟩ := bind_eq_ok.mp h
  obtain ⟨_, -, h⟩ := bind_eq_ok.mp h
  obtain ⟨profile, hprofile, h⟩ := bind_eq_ok.mp h
  obtain ⟨_, -, h⟩ := bind_eq_ok.mp h
  obtain ⟨_, -, h⟩ := bind_eq_ok.mp h
  obtain ⟨target, htarget, h⟩ := bind_eq_ok.mp h
  obtain ⟨_, -, h⟩ := bind_eq_ok.mp h
  obtain ⟨targetDid, hdid, h⟩ := bind_eq_ok.mp h
  obtain ⟨groupDid, -, h⟩ := bind_eq_ok.mp h
  obtain ⟨_, -, h⟩ := bind_eq_ok.mp h
  obtain ⟨peer, -, h⟩ := bind_eq_ok.mp h
  obtain ⟨service, -, h⟩ := bind_eq_ok.mp h
  obtain ⟨declared, -, h⟩ := bind_eq_ok.mp h
  obtain ⟨_, -, h⟩ := bind_eq_ok.mp h
  obtain ⟨_, -, h⟩ := bind_eq_ok.mp h
  rw [pure_eq_ok] at h
  subst h
  rw [orRaise_eq_ok, Json.obj?_eq_some] at hmeta htarget
  exact ⟨hmeta, orRaise_eq_ok.mp hprofile, target, htarget, (requireNonEmpty_eq_ok hdid).1⟩

/-- **A verified pair is that of the receipt**, whatever else the body says. -/
theorem verifiedReceipt_carries {body receipt r : Obj} {method : GroupMethod} {v s : ℤ}
    {stateVersion eventSeq : ℕ} (h : verifiedReceipt st req body method = .ok (receipt, v, s))
    (hr : body.get "group_receipt" = .obj r) (hcarries : Carries r stateVersion eventSeq) :
    v = stateVersion ∧ s = eventSeq ∧ r.get "group_did" = body.get "group_did" := by
  unfold verifiedReceipt at h
  obtain ⟨r', hreceipt, h⟩ := bind_eq_ok.mp h
  obtain ⟨groupDid, hgroup, h⟩ := bind_eq_ok.mp h
  obtain ⟨_, hreceiptGroup, h⟩ := bind_eq_ok.mp h
  obtain ⟨v', hversion, h⟩ := bind_eq_ok.mp h
  obtain ⟨s', hseq, h⟩ := bind_eq_ok.mp h
  obtain ⟨_, hpair, h⟩ := bind_eq_ok.mp h
  obtain ⟨_, -, h⟩ := bind_eq_ok.mp h
  obtain ⟨document, -, h⟩ := bind_eq_ok.mp h
  obtain ⟨_, -, h⟩ := bind_eq_ok.mp h
  rw [pure_eq_ok, Prod.mk.injEq, Prod.mk.injEq] at h
  obtain ⟨rfl, rfl, rfl⟩ := h
  rw [orRaise_eq_ok, Json.obj?_eq_some, hr] at hreceipt
  obtain rfl := Json.obj.inj hreceipt
  rw [require_eq_ok, Bool.and_eq_true, hcarries.1, hcarries.2, Json.isStr_iff, Json.isStr_iff,
    Json.str.injEq, Json.str.injEq] at hpair
  refine ⟨eq_of_toString_eq hpair.1.symm, eq_of_toString_eq hpair.2.symm, ?_⟩
  rw [Json.isStr_iff.mp (require_eq_ok.mp hreceiptGroup), (requireNonEmpty_eq_ok hgroup).1]

end Reading

/-! ### A state change at the Home -/

section Change

variable {settings : Settings} {home home' : Store} {req : Request}

/-- The record of a notice that is newer than all others is added. -/
theorem recordInbound_of_newer {n : Notification} {method : GroupMethod} {s : ℤ}
    {recorded : Option Store} (h : recordInbound home req n method s = .ok recorded)
    (hrecords : ∀ e ∈ home.inboundPeerEvents, e.groupDid = n.groupDid →
      e.targetDid = n.targetDid → e.groupEventSeq < s) :
    ∃ e : InboundPeerEvent, e.groupEventSeq = s ∧
      recorded = some { home with inboundPeerEvents := home.inboundPeerEvents ++ [e] } := by
  unfold recordInbound at h
  obtain ⟨source, -, h⟩ := bind_eq_ok.mp h
  obtain ⟨digest, -, h⟩ := bind_eq_ok.mp h
  split at h
  · rename_i existing hrow
    have hkey : existing.key = (source, n.groupDid, s, n.targetDid, method) :=
      Table.key_of_row? hrow
    have hlt := hrecords existing (Table.mem_of_row? hrow) (congrArg (·.2.1) hkey)
      (congrArg (·.2.2.2.1) hkey)
    have hseq : existing.groupEventSeq = s := congrArg (·.2.2.1) hkey
    omega
  · rw [pure_eq_ok] at h
    exact ⟨_, rfl, h.symm⟩

/-- **A state change that is newer than all others is applied.** -/
theorem applyStateChanged_of_newer {n : Notification} {receipt result : Obj}
    {eventType changedAt : String} {v s : ℤ}
    (h : applyStateChanged home req n receipt eventType changedAt v s = .ok (result, home'))
    (hrecords : ∀ e ∈ home.inboundPeerEvents, e.groupDid = n.groupDid →
      e.targetDid = n.targetDid → e.groupEventSeq < s)
    (hview : ∀ view ∈ home.groupView? n.targetDid n.groupDid, view.groupEventSeq < s) :
    requireInSequence n (home.groupView? n.targetDid n.groupDid) eventType v s = .ok () ∧
      (∃ e : InboundPeerEvent, e.groupEventSeq = s ∧
        home'.inboundPeerEvents = home.inboundPeerEvents ++ [e]) ∧
      (∃ peer, home'.groupView? n.targetDid n.groupDid = some (eventView req n
        (home.groupView? n.targetDid n.groupDid) peer eventType changedAt v s)) ∧
      ∃ before after : Store, before.groupMemberViews = home.groupMemberViews ∧
        home'.groupMemberViews = after.groupMemberViews ∧
        projectSubject before req n eventType changedAt = .ok after := by
  unfold applyStateChanged at h
  obtain ⟨_, hsequence, h⟩ := bind_eq_ok.mp h
  obtain ⟨recorded, hrecorded, h⟩ := bind_eq_ok.mp h
  obtain ⟨e, hseq, rfl⟩ := recordInbound_of_newer hrecorded hrecords
  obtain ⟨passed, hpassed, h⟩ := bind_eq_ok.mp h
  -- Nothing has passed an event that is newer than the view.
  have happlies : passed = .applies := by
    unfold passedEvent at hpassed
    cases hexisting : home.groupView? n.targetDid n.groupDid with
    | none =>
      rw [hexisting] at hpassed
      exact (Except.ok.inj hpassed).symm
    | some view =>
      rw [hexisting] at hpassed
      dsimp only at hpassed
      rw [if_pos (hview view hexisting)] at hpassed
      exact (Except.ok.inj hpassed).symm
  subst happlies
  obtain ⟨peer, -, h⟩ := bind_eq_ok.mp h
  obtain ⟨after, hsubject, h⟩ := bind_eq_ok.mp h
  rw [pure_eq_ok, Prod.mk.injEq] at h
  obtain ⟨-, rfl⟩ := h
  obtain ⟨rows, hafter⟩ := projectSubject_eq_ok hsubject
  refine ⟨hsequence, ⟨e, hseq, by rw [hafter]; rfl⟩, ⟨peer, ?_⟩, _, after, ?_, rfl, hsubject⟩
  swap
  · rfl
  rw [hafter]
  have hkey : (n.targetDid, n.groupDid) = (eventView req n (home.groupView? n.targetDid n.groupDid)
      peer eventType changedAt v s).key := rfl
  show Table.row? GroupView.key (n.targetDid, n.groupDid) (Table.upsert _ _ _ _) = _
  rw [Table.row?_upsert fun _ _ ↦ rfl, if_pos hkey]
  cases Table.row? GroupView.key (n.targetDid, n.groupDid) home.groupViews <;> rfl

/-- An event without a subject leaves the projected roster alone. -/
theorem projectSubject_of_none {before after : Store} {n : Notification}
    {eventType changedAt : String} (hsubject : n.body.get "subject_did" = .null)
    (h : projectSubject before req n eventType changedAt = .ok after) : after = before := by
  unfold projectSubject at h
  rw [hsubject] at h
  exact (Except.ok.inj h).symm

/-- The row of the subject, written over an old one that keeps its time of joining. -/
theorem entry_upsert (row : GroupMemberView) (rows : List GroupMemberView)
    (k : String × String × String) :
    (Table.row? GroupMemberView.key k (Table.upsert GroupMemberView.key row
        (fun old ↦ { row with joinedAt := old.joinedAt }) rows)).map (fun r ↦ (r.role, r.status)) =
      if k = row.key then some (row.role, row.status)
      else (Table.row? GroupMemberView.key k rows).map fun r ↦ (r.role, r.status) := by
  have hkey : ∀ old : GroupMemberView, old.key = row.key →
      { row with joinedAt := old.joinedAt }.key = row.key := fun _ _ ↦ rfl
  rw [Table.row?_upsert hkey]
  split
  · cases Table.row? GroupMemberView.key k rows <;> rfl
  · rfl

/-- **The entry of the subject is written, no other.** -/
theorem projectSubject_viewEntry {before after : Store} {n : Notification}
    {eventType changedAt subject role status : String}
    (hsubject : n.body.get "subject_did" = .str subject)
    (hrole : (n.body.get "role").orElse (.str "member") = .str role)
    (hstatus : (n.body.get "membership_status").orElse (.str (impliedStatus eventType)) =
      .str status)
    (h : projectSubject before req n eventType changedAt = .ok after) (did : String) :
    after.viewEntry n.targetDid n.groupDid did =
      if did = subject then some (role, status)
      else before.viewEntry n.targetDid n.groupDid did := by
  unfold projectSubject at h
  rw [hsubject, hrole, hstatus] at h
  obtain ⟨memberHandle, -, h⟩ := bind_eq_ok.mp h
  obtain ⟨generation, -, h⟩ := bind_eq_ok.mp h
  obtain ⟨role', hrole', h⟩ := bind_eq_ok.mp h
  obtain ⟨status', hstatus', h⟩ := bind_eq_ok.mp h
  obtain rfl := Except.ok.inj hrole'
  obtain rfl := Except.ok.inj hstatus'
  rw [pure_eq_ok] at h
  subst h
  rw [Store.viewEntry, entry_upsert, Store.viewEntry]
  by_cases hdid : did = subject
  · rw [if_pos hdid, if_pos (by rw [hdid]; rfl)]
  · rw [if_neg hdid, if_neg fun hkey ↦ hdid (congrArg (·.2.2) hkey)]

/-- **What accepting a newer state change comes to.** -/
structure AppliedChange (home home' : Store) (groupDid ownerDid eventType changedAt : String)
    (profile : WireProfile) (event : Obj) (stateVersion eventSeq : ℕ) (req : Request)
    (n : Notification) : Prop where
  body : n.body = event
  profile_eq : n.profile = profile
  target : n.targetDid = ownerDid
  group : n.groupDid = groupDid
  inSequence : requireInSequence n (home.groupView? ownerDid groupDid) eventType stateVersion
    eventSeq = .ok ()
  recorded : ∃ e : InboundPeerEvent, e.groupEventSeq = eventSeq ∧
    home'.inboundPeerEvents = home.inboundPeerEvents ++ [e]
  view : ∃ peer, home'.groupView? ownerDid groupDid = some (eventView req n
    (home.groupView? ownerDid groupDid) peer eventType changedAt stateVersion eventSeq)
  roster : ∃ before after : Store, before.groupMemberViews = home.groupMemberViews ∧
    home'.groupMemberViews = after.groupMemberViews ∧
    projectSubject before req n eventType changedAt = .ok after

/-- The profile an envelope names is the one it was written for. -/
theorem baseProfile_text (p : WireProfile) : baseProfile (.str p.text) = some p := by
  cases p <;> decide

/-- **A state change reaches the Home as it was written.** -/
theorem Accepts.stateChange {g o operationId now : String} {p : WireProfile} {ctx : GroupRequest}
    {change : StateChange} {stateVersion eventSeq : ℕ} {receipt : Obj}
    (h : Accepts settings home ⟨eventSeq, .stateChanged, stateChangedEnvelope p g operationId
      (stateEvent ctx g change stateVersion eventSeq now receipt) o⟩ home')
    (hcarries : Carries receipt stateVersion eventSeq)
    (hrecords : ∀ e ∈ home.inboundPeerEvents, e.groupDid = g → e.targetDid = o →
      e.groupEventSeq < eventSeq)
    (hview : ∀ view ∈ home.groupView? o g, view.groupEventSeq < eventSeq) :
    ∃ req n, AppliedChange home home' g o change.eventType now p
      (stateEvent ctx g change stateVersion eventSeq now receipt) stateVersion eventSeq req n := by
  obtain ⟨req, params, result, hmeta, -, hbody, hcall⟩ := h
  rw [if_pos rfl] at hcall
  unfold groupStateChanged at hcall
  obtain ⟨n, hn, hcall⟩ := bind_eq_ok.mp hcall
  obtain ⟨⟨receipt', v, s⟩, hreceipt, hcall⟩ := bind_eq_ok.mp hcall
  obtain ⟨eventType, htype, hcall⟩ := bind_eq_ok.mp hcall
  obtain ⟨changedAt, hat, hcall⟩ := bind_eq_ok.mp hcall
  obtain ⟨hnbody, hngroup, -⟩ := notificationContext_eq_ok hn
  obtain ⟨hnmeta, hnprofile, target, htarget, hdid⟩ := notificationContext_target hn
  -- The body and the meta of the envelope, member by member.
  have hevent : n.body = stateEvent ctx g change stateVersion eventSeq now receipt := by
    rw [hnbody] at hbody
    simpa [Notice.param, stateChangedEnvelope, Obj.get_cons] using hbody
  have hmetaObj : n.metaObj = [("anp_version", .str "1.0"), ("profile", .str p.text),
      ("security_profile", .str "transport-protected"), ("sender_did", .str g),
      ("target", agentTarget o), ("operation_id", .str operationId),
      ("content_type", .str "application/json")] := by
    rw [hnmeta] at hmeta
    simpa [Notice.param, stateChangedEnvelope, Obj.get_cons] using hmeta
  have hg : n.groupDid = g := by
    rw [hevent] at hngroup
    simpa [stateEvent, Obj.get_cons, eq_comm] using hngroup
  have ho : n.targetDid = o := by
    rw [hmetaObj] at htarget
    obtain rfl : [("kind", Json.str "agent"), ("did", Json.str o)] = target := by
      simpa [Obj.get_cons, agentTarget] using htarget
    simpa [Obj.get_cons, eq_comm] using hdid
  have hp : n.profile = p := by
    rw [hmetaObj] at hnprofile
    simpa [Obj.get_cons, baseProfile_text, eq_comm] using hnprofile
  have hread : n.body.get "group_receipt" = .obj receipt := by
    rw [hevent]
    simp [stateEvent, Obj.get_cons]
  obtain ⟨rfl, rfl, -⟩ := verifiedReceipt_carries hreceipt hread hcarries
  obtain rfl : change.eventType = eventType := by
    have := (requireNonEmpty_eq_ok htype).1
    rw [hevent] at this
    simpa [stateEvent, Obj.get_cons] using this
  obtain rfl : now = changedAt := by
    have := (requireNonEmpty_eq_ok hat).1
    rw [hevent] at this
    simpa [stateEvent, Obj.get_cons] using this
  obtain ⟨hsequence, hrecorded, hrow, hroster⟩ := applyStateChanged_of_newer hcall
    (by rw [hg, ho]; exact hrecords) (by rw [hg, ho]; exact hview)
  rw [hg, ho] at hsequence hrow
  exact ⟨req, n, hevent, hp, ho, hg, hsequence, hrecorded, hrow, hroster⟩

end Change

/-! ### A message at the Home -/

section Message

variable {settings : Settings} {home home' : Store} {req : Request}

/-- The pair of a verified message is that of the receipt in its body. -/
theorem verifiedIncoming_carries {params : Obj} {n : Notification} {m : IncomingMessage} {r : Obj}
    {stateVersion eventSeq : ℕ} (h : verifiedIncoming home req params n = .ok m)
    (hr : n.body.get "group_receipt" = .obj r) (hcarries : Carries r stateVersion eventSeq) :
    m.stateVersion = stateVersion ∧ m.eventSeq = eventSeq ∧
      r.get "group_did" = n.body.get "group_did" := by
  unfold verifiedIncoming at h
  obtain ⟨messageId, -, h⟩ := bind_eq_ok.mp h
  obtain ⟨operationId, -, h⟩ := bind_eq_ok.mp h
  obtain ⟨contentType, -, h⟩ := bind_eq_ok.mp h
  obtain ⟨senderDid, -, h⟩ := bind_eq_ok.mp h
  obtain ⟨⟨receipt, v, s⟩, hreceipt, h⟩ := bind_eq_ok.mp h
  obtain ⟨_, -, h⟩ := bind_eq_ok.mp h
  obtain ⟨acceptedAt, -, h⟩ := bind_eq_ok.mp h
  obtain ⟨_, -, h⟩ := bind_eq_ok.mp h
  obtain ⟨auth, -, h⟩ := bind_eq_ok.mp h
  obtain ⟨proof, -, h⟩ := bind_eq_ok.mp h
  obtain ⟨_, -, h⟩ := bind_eq_ok.mp h
  obtain ⟨document, -, h⟩ := bind_eq_ok.mp h
  obtain ⟨_, -, h⟩ := bind_eq_ok.mp h
  rw [pure_eq_ok] at h
  subst h
  have hread := verifiedReceipt_carries hreceipt
    ((Obj.get_set_of_ne _ _ (by decide)).trans hr) hcarries
  rwa [Obj.get_set_of_ne _ _ (by decide)] at hread

/-- **A message that is newer than everything else moves the pair, and nothing else.** -/
theorem applyIncoming_of_newer {n : Notification} {m : IncomingMessage} {result : Obj}
    (h : applyIncoming home req n m = .ok (result, home'))
    (hrecords : ∀ e ∈ home.inboundPeerEvents, e.groupDid = n.groupDid →
      e.targetDid = n.targetDid → e.groupEventSeq < m.eventSeq) :
    ∃ view, home.groupView? n.targetDid n.groupDid = some view ∧
      m.eventSeq ≤ view.groupEventSeq + 1 ∧
      home'.groupView? n.targetDid n.groupDid = some (viewAfterMessage n m view) ∧
      home'.groupMemberViews = home.groupMemberViews ∧
      ∃ e : InboundPeerEvent, e.groupEventSeq = m.eventSeq ∧
        home'.inboundPeerEvents = home.inboundPeerEvents ++ [e] := by
  unfold applyIncoming at h
  obtain ⟨view, hrow, h⟩ := bind_eq_ok.mp h
  obtain ⟨beforeTerminal, -, h⟩ := bind_eq_ok.mp h
  obtain ⟨_, -, h⟩ := bind_eq_ok.mp h
  obtain ⟨_, hgap, h⟩ := bind_eq_ok.mp h
  obtain ⟨recorded, hrecorded, h⟩ := bind_eq_ok.mp h
  obtain ⟨e, hseq, rfl⟩ := recordInbound_of_newer hrecorded hrecords
  obtain ⟨_, -, h⟩ := bind_eq_ok.mp h
  obtain ⟨st₂, hinsert, h⟩ := bind_eq_ok.mp h
  unfold insertMessageView at hinsert
  obtain ⟨_, -, hinsert⟩ := bind_eq_ok.mp hinsert
  rw [pure_eq_ok] at hinsert
  subst hinsert
  rw [pure_eq_ok, Prod.mk.injEq] at h
  obtain ⟨-, rfl⟩ := h
  rw [orRaise_eq_ok] at hrow
  rw [require_eq_ok, decide_eq_true_eq] at hgap
  refine ⟨view, hrow, hgap, ?_, rfl, e, hseq, rfl⟩
  have hkey : view.key = (n.targetDid, n.groupDid) := Table.key_of_row? hrow
  have hkeep : ∀ v : GroupView, decide (v.key = (n.targetDid, n.groupDid)) = true →
      (viewAfterMessage n m v).key = v.key := fun _ _ ↦ rfl
  show Table.row? GroupView.key (n.targetDid, n.groupDid)
    (Table.updateWhere _ _ home.groupViews) = _
  rw [Store.groupView?] at hrow
  rw [Table.row?_updateWhere hkeep, hrow, Option.map_some, hkey]
  simp

/-- **What accepting a newer message comes to.** -/
structure AppliedMessage (home home' : Store) (groupDid ownerDid : String)
    (stateVersion eventSeq : ℕ) : Prop where
  view : ∃ old new, home.groupView? ownerDid groupDid = some old ∧
    home'.groupView? ownerDid groupDid = some new ∧ (eventSeq : ℤ) ≤ old.groupEventSeq + 1 ∧
    new.groupStateVersion = max old.groupStateVersion stateVersion ∧
    new.groupEventSeq = max old.groupEventSeq eventSeq ∧ new.profile = old.profile ∧
    new.policy = old.policy ∧ new.memberRole = old.memberRole ∧
    new.membershipStatus = old.membershipStatus
  recorded : ∃ e : InboundPeerEvent, e.groupEventSeq = eventSeq ∧
    home'.inboundPeerEvents = home.inboundPeerEvents ++ [e]
  roster : home'.groupMemberViews = home.groupMemberViews

/-- **A message reaches the Home with the pair of the Host**, if its body does not bring a receipt
of its own. -/
theorem Accepts.message {g o acceptedAt : String} {stateVersion eventSeq : ℕ}
    {originalMeta auth receipt body : Obj}
    (h : Accepts settings home ⟨eventSeq, .incoming, incomingEnvelope originalMeta auth
      (deliveryBody g stateVersion eventSeq acceptedAt receipt body) o⟩ home')
    (hcarries : Carries receipt stateVersion eventSeq)
    (hreceiptGroup : receipt.get "group_did" = .str g)
    (hplain : body.has "group_receipt" = false)
    (hrecords : ∀ e ∈ home.inboundPeerEvents, e.groupDid = g → e.targetDid = o →
      e.groupEventSeq < eventSeq) :
    AppliedMessage home home' g o stateVersion eventSeq := by
  obtain ⟨req, params, result, hmeta, -, hbody, hcall⟩ := h
  have hmethod : GroupMethod.incoming ≠ .stateChanged := by decide
  rw [if_neg hmethod] at hcall
  unfold groupIncoming at hcall
  obtain ⟨n, hn, hcall⟩ := bind_eq_ok.mp hcall
  obtain ⟨m, hm, hcall⟩ := bind_eq_ok.mp hcall
  obtain ⟨hnbody, hngroup, -⟩ := notificationContext_eq_ok hn
  obtain ⟨hnmeta, -, target, htarget, hdid⟩ := notificationContext_target hn
  have hevent : n.body = deliveryBody g stateVersion eventSeq acceptedAt receipt body := by
    rw [hnbody] at hbody
    simpa [Notice.param, incomingEnvelope, Obj.get_cons] using hbody
  have hmetaObj : n.metaObj = originalMeta.set "target" (agentTarget o) := by
    rw [hnmeta] at hmeta
    simpa [Notice.param, incomingEnvelope, Obj.get_cons] using hmeta
  have ho : n.targetDid = o := by
    rw [hmetaObj, Obj.get_set_self] at htarget
    obtain rfl : [("kind", Json.str "agent"), ("did", Json.str o)] = target := by
      simpa [agentTarget] using htarget
    simpa [Obj.get_cons, eq_comm] using hdid
  have hread : n.body.get "group_receipt" = .obj receipt := by
    have hnone : body.lookup "group_receipt" = none := by
      rwa [Obj.has, Option.isSome_eq_false_iff, Option.isNone_iff_eq_none] at hplain
    rw [hevent, Obj.get, Obj.getD, lookup_deliveryBody, hnone, Option.none_or]
    show Obj.get (controlFields g stateVersion eventSeq acceptedAt receipt) "group_receipt" = _
    simp [controlFields, Obj.get_cons]
  obtain ⟨hv, hs, hsame⟩ := verifiedIncoming_carries hm hread hcarries
  -- The receipt names the group; the body has to agree with it.
  have hg : n.groupDid = g := by
    rw [hreceiptGroup, hngroup] at hsame
    exact (Json.str.inj hsame).symm
  obtain ⟨old, hold, hgap, hnew, hroster, e, hseq, hrecorded⟩ := applyIncoming_of_newer hcall
    (by rw [hg, ho, hs]; exact hrecords)
  rw [hg, ho] at hold hnew
  rw [hs] at hgap hseq
  refine ⟨⟨old, _, hold, hnew, hgap, ?_, ?_, rfl, rfl, rfl, rfl⟩, ⟨e, hseq, hrecorded⟩, hroster⟩
  · rw [viewAfterMessage, hv]
  · rw [viewAfterMessage, hs]

end Message

end Awiki
