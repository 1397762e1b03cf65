import AwikiOpenServer.Messaging.Groups.NoticeDelivery
import AwikiOpenServer.Messaging.Groups.ProjectionAgreement

/-!
# The projection of a remote member follows the Host

A Home that accepts the notices of a member in order rebuilds the group from them. `Following` is
the relation between the Host's store and the store of a Home that has accepted everything the Host
has enqueued so far: the member is unknown to its Home, or is a member and the projection agrees, or
is gone and the projection stands where it left, or is lost: its Home has missed an event and will
refuse all others.

Three things break the agreement, and `RosterReflected` names them. The event of a **departure** has
no role, and the Home then writes `member`. The event of a **rebind** has no role either, and the
Home leaves the row of the previous DID as it is. And what happens **while a member is away** is
never made up for when it comes back.

## What is compared

`RemoteAgrees` compares the projected group with the hosted one as their owner sees it, and the two
rosters as functions of a DID: an entry is a role and a status, and a DID without a row has none. It
asks this of the DIDs the member has been told of (`subjectsTold`); who was a member before it
joined is known to the Home only through a roster read, which is no notice.

## What an event says

An event is a dictionary, put together by the tail from its common members and those of the state
change. `EventReads` lists the members the Home looks at, with their values, and there is one lemma
for each kind of state change. So the handlers of the Home are never run on an event of the Host:
what they write is read off `AppliedChange`, and what they read off `EventReads`.
-/

namespace Awiki

open Py Runs

/-! ### Agreement -/

/-- The projected group and the hosted one, as their owner sees them. -/
structure GroupView.Mirrors (v : GroupView) (group : HostedGroup) (owner : HostedMember) :
    Prop where
  groupStateVersion : v.groupStateVersion = group.groupStateVersion
  groupEventSeq : v.groupEventSeq = group.groupEventSeq
  profile : v.profile = group.profile
  policy : v.policy = group.policy
  memberRole : v.memberRole = owner.role.text
  membershipStatus : v.membershipStatus.text = owner.status.text

/-- What the hosted roster says of a DID: its role and its status. -/
def Store.rosterEntry (st : Store) (groupDid did : String) : Option (String × String) :=
  (st.hostedMember? groupDid did).map fun m ↦ (m.role.text, m.status.text)

/-- **The projection of `o` at its Home agrees with the Host**: the group itself, and the roster on
every DID an event `o` was told of is about. -/
structure RemoteAgrees (host home : Store) (g o : String) : Prop where
  row : ∃ group view owner, host.hostedGroup? g = some group ∧ home.groupView? o g = some view ∧
    host.hostedMember? g o = some owner ∧ view.Mirrors group owner
  roster : ∀ did ∈ subjectsTold host g o, home.viewEntry o g did = host.rosterEntry g did

/-- Nothing of a projection differs between two stores of a Home. -/
structure SameProjection (g o : String) (home home' : Store) : Prop where
  view : home'.groupView? o g = home.groupView? o g
  entries : ∀ did, home'.viewEntry o g did = home.viewEntry o g did
  records : ∀ e ∈ home'.inboundPeerEvents, e.groupDid = g → e.targetDid = o →
    e ∈ home.inboundPeerEvents

/-- **The Home has accepted these notices, in order.** It starts without a projection of the group,
and whatever else it does leaves the projection alone. -/
inductive Follows (settings : Settings) (g o : String) : List Notice → Store → Prop where
  | fresh {home : Store} (hview : home.groupView? o g = none)
      (hentries : ∀ did, home.viewEntry o g did = none)
      (hrecords : ∀ e ∈ home.inboundPeerEvents, e.groupDid = g → e.targetDid ≠ o) :
      Follows settings g o [] home
  | accepted {notices : List Notice} {notice : Notice} {home home' : Store}
      (h : Follows settings g o notices home) (haccepts : Accepts settings home notice home') :
      Follows settings g o (notices ++ [notice]) home'
  | elsewhere {notices : List Notice} {home home' : Store} (h : Follows settings g o notices home)
      (hsame : SameProjection g o home home') : Follows settings g o notices home'

/-! ### The condition -/

/-- A step of the Host adds a notice for the member. -/
def Told (st st' : Store) (g o : String) : Prop := noticesFor st' g o ≠ noticesFor st g o

/-- **The condition on what a step does to the roster.** -/
structure RosterReflected (st st' : Store) (g o : String) : Prop where
  /-- Who leaves or is removed had the role `member`. -/
  departed : Told st st' g o → ∀ m ∈ st.hostedGroupMembers, m.groupDid = g → m.status = .active →
    ∀ m' ∈ st'.hostedMember? g m.agentDid, m'.status ≠ .active → m.role = .member
  /-- The DID a rebind takes out of the roster had the role `member`, and `o` was not told of it. -/
  rebound : Told st st' g o → ∀ m ∈ st.hostedGroupMembers, m.groupDid = g →
    st'.hostedMember? g m.agentDid = none → m.role = .member ∧ m.agentDid ∉ subjectsTold st g o
  /-- While `o` is away from a version 2 group, nobody it was told of comes or goes. -/
  missed : ¬ Told st st' g o → ∀ group ∈ st.hostedGroup? g, group.wireProfile = .v2 →
    ∀ did ∈ subjectsTold st g o, did ≠ o → st'.rosterEntry g did = st.rosterEntry g did

/-- **The condition on a step of the Host**, from where `o` stands: the roster changes as
`RosterReflected` says, and no message `o` is told of brings a receipt of its own. -/
def Reflected (settings : Settings) (g o : String) (w : HostWorld) : HostAction → Prop
  | .call c =>
    RosterReflected w.store (afterCall settings w.store c) g o ∧
      (c.method = .send → Told w.store (afterCall settings w.store c) g o →
        ∀ body, c.params.get "_anp_body" = .obj body → Obj.has body "group_receipt" = false)
  | _ => True

/-! ### Where the member stands -/

/-- **Where a member stands with its Home.** -/
inductive Standing (settings : Settings) (host home : Store) (g o : String) : Prop where
  /-- It was told nothing yet. -/
  | unknown (hnotices : noticesFor host g o = []) (hview : home.groupView? o g = none)
  /-- It is a member, and the projection agrees. -/
  | member (hactive : RemoteActive settings host g o) (hagrees : RemoteAgrees host home g o)
  /-- It was told that it left; the projection stands where it was then. -/
  | gone (group : HostedGroup) (view : GroupView) (hgroup : host.hostedGroup? g = some group)
      (hv2 : group.wireProfile = .v2) (hinactive : ¬ RemoteActive settings host g o)
      (hview : home.groupView? o g = some view) (hstatus : view.membershipStatus ≠ .active)
      (hseq : view.groupEventSeq ≤ group.groupEventSeq)
      (hversion : view.groupStateVersion ≤ group.groupStateVersion)
      (hroster : ∀ did ∈ subjectsTold host g o, did ≠ o →
        home.viewEntry o g did = host.rosterEntry g did)
      (hagrees : view.groupEventSeq = group.groupEventSeq → RemoteAgrees host home g o)
  /-- It believes itself a member, and has missed an event. -/
  | lost (group : HostedGroup) (view : GroupView) (hgroup : host.hostedGroup? g = some group)
      (hview : home.groupView? o g = some view) (hstatus : view.membershipStatus = .active)
      (hseq : view.groupEventSeq < group.groupEventSeq)

/-- **A Home that has accepted all notices so far.** -/
structure Following (settings : Settings) (host home : Store) (g o : String) : Prop where
  records : ∀ e ∈ home.inboundPeerEvents, e.groupDid = g → e.targetDid = o →
    ∀ group ∈ host.hostedGroup? g, e.groupEventSeq ≤ group.groupEventSeq
  unlisted : ∀ did ∉ subjectsTold host g o, home.viewEntry o g did = none
  /-- The projection has reached every notice. -/
  reached : ∀ view ∈ home.groupView? o g, ∀ notice ∈ noticesFor host g o,
    notice.seq ≤ view.groupEventSeq
  standing : Standing settings host home g o

section Follows

variable {settings : Settings} {g o : String}

/-- Nothing has changed. -/
theorem SameProjection.refl (home : Store) : SameProjection g o home home :=
  ⟨rfl, fun _ ↦ rfl, fun _ he _ _ ↦ he⟩

/-- First the one, then the other. -/
theorem SameProjection.trans {a b c : Store} (hab : SameProjection g o a b)
    (hbc : SameProjection g o b c) : SameProjection g o a c :=
  ⟨hbc.view.trans hab.view, fun did ↦ (hbc.entries did).trans (hab.entries did),
    fun e he hg ho ↦ hab.records e (hbc.records e he hg ho) hg ho⟩

/-- A Home that has accepted nothing knows nothing. -/
theorem Follows.nil {notices : List Notice} {home : Store} (h : Follows settings g o notices home)
    (hnil : notices = []) : home.groupView? o g = none ∧ (∀ did, home.viewEntry o g did = none) ∧
      ∀ e ∈ home.inboundPeerEvents, e.groupDid = g → e.targetDid ≠ o := by
  induction h with
  | fresh hview hentries hrecords => exact ⟨hview, hentries, hrecords⟩
  | accepted => simp at hnil
  | elsewhere _ hsame ih =>
    obtain ⟨hview, hentries, hrecords⟩ := ih hnil
    refine ⟨hsame.view.trans hview, fun did ↦ (hsame.entries did).trans (hentries did), ?_⟩
    exact fun e he hg ho ↦ hrecords e (hsame.records e he hg ho) hg ho

/-- The last notice was accepted by a Home that had accepted the others. -/
theorem Follows.last {notices all : List Notice} {notice : Notice} {home : Store}
    (h : Follows settings g o all home) (hall : all = notices ++ [notice]) :
    ∃ before after, Follows settings g o notices before ∧
      Accepts settings before notice after ∧ SameProjection g o after home := by
  induction h with
  | fresh => simp at hall
  | accepted h haccepts =>
    obtain ⟨rfl, hlast⟩ := List.append_inj' hall rfl
    obtain rfl := List.singleton_inj.mp hlast
    exact ⟨_, _, h, haccepts, .refl _⟩
  | elsewhere _ hsame ih =>
    obtain ⟨before, after, hbefore, haccepts, hafter⟩ := ih hall
    exact ⟨before, after, hbefore, haccepts, hafter.trans hsame⟩

/-- The relation reads of a Home its projection alone. -/
theorem Following.same {host home home' : Store} (h : Following settings host home g o)
    (hsame : SameProjection g o home home') : Following settings host home' g o := by
  have hagrees : RemoteAgrees host home g o → RemoteAgrees host home' g o := fun ha ↦ by
    refine ⟨?_, fun did hdid ↦ (hsame.entries did).trans (ha.roster did hdid)⟩
    rw [hsame.view]
    exact ha.row
  refine ⟨fun e he hg ho ↦ h.records e (hsame.records e he hg ho) hg ho,
    fun did hdid ↦ (hsame.entries did).trans (h.unlisted did hdid), ?_, ?_⟩
  · rw [hsame.view]
    exact h.reached
  cases h.standing with
  | unknown hnotices hview => exact .unknown hnotices (hsame.view.trans hview)
  | member hactive ha => exact .member hactive (hagrees ha)
  | gone group view hgroup hv2 hinactive hview hstatus hseq hversion hroster ha =>
    exact .gone group view hgroup hv2 hinactive (hsame.view.trans hview) hstatus hseq hversion
      (fun did hdid hne ↦ (hsame.entries did).trans (hroster did hdid hne))
      fun hs ↦ hagrees (ha hs)
  | lost group view hgroup hview hstatus hseq =>
    exact .lost group view hgroup (hsame.view.trans hview) hstatus hseq

/-- Whatever the Host does, a Home without notices knows nothing. -/
theorem Following.of_nil {host home : Store} (hnil : noticesFor host g o = [])
    (h : Follows settings g o (noticesFor host g o) home) (settings' : Settings) :
    Following settings' host home g o := by
  obtain ⟨hview, hentries, hrecords⟩ := h.nil hnil
  refine ⟨fun e he hg ho ↦ absurd ho (hrecords e he hg), fun did _ ↦ hentries did, ?_,
    .unknown hnil hview⟩
  rw [hview]
  simp

/-- The relation reads of the Host the group, its roster and the notices. -/
theorem Following.congr {host host' home : Store} (h : Following settings host home g o)
    (hgroup : host'.hostedGroup? g = host.hostedGroup? g)
    (hmember : ∀ did, host'.hostedMember? g did = host.hostedMember? g did)
    (hactive : RemoteActive settings host' g o ↔ RemoteActive settings host g o)
    (hnotices : noticesFor host' g o = noticesFor host g o) :
    Following settings host' home g o := by
  have htold : subjectsTold host' g o = subjectsTold host g o := by
    rw [subjectsTold, hnotices, subjectsTold]
  have hentry : ∀ did, host'.rosterEntry g did = host.rosterEntry g did := fun did ↦ by
    rw [Store.rosterEntry, hmember, Store.rosterEntry]
  have hagrees : RemoteAgrees host home g o → RemoteAgrees host' home g o := fun ha ↦ by
    refine ⟨?_, ?_⟩
    · rw [hgroup, hmember]
      exact ha.row
    · rw [htold]
      exact fun did hdid ↦ (ha.roster did hdid).trans (hentry did).symm
  refine ⟨?_, ?_, ?_, ?_⟩
  · rw [hgroup]
    exact h.records
  · rw [htold]
    exact h.unlisted
  · rw [hnotices]
    exact h.reached
  cases h.standing with
  | unknown hnil hview => exact .unknown (hnotices.trans hnil) hview
  | member hact ha => exact .member (hactive.mpr hact) (hagrees ha)
  | gone group view hg hv2 hinactive hview hstatus hseq hversion hroster ha =>
    refine .gone group view (hgroup.trans hg) hv2 (fun hact ↦ hinactive (hactive.mp hact)) hview
      hstatus hseq hversion ?_ fun hs ↦ hagrees (ha hs)
    rw [htold]
    exact fun did hdid hne ↦ (hroster did hdid hne).trans (hentry did).symm
  | lost group view hg hview hstatus hseq =>
    exact .lost group view (hgroup.trans hg) hview hstatus hseq

end Follows

/-! ### The events of state changes -/

section Events

/-- Beside the common members an event has those of its state change. -/
theorem stateEvent_get {ctx : GroupRequest} {groupDid changedAt key : String} {change : StateChange}
    {stateVersion eventSeq : ℕ} {receipt : Obj}
    (hkey : key ∉ ["group_did", "event_type", "subject_method", "group_state_version",
      "group_event_seq", "changed_at", "actor_did", "group_receipt"]) :
    (stateEvent ctx groupDid change stateVersion eventSeq changedAt receipt).get key =
      change.eventFields.get key := by
  simp only [List.mem_cons, List.not_mem_nil, or_false, not_or] at hkey
  obtain ⟨h₁, h₂, h₃, h₄, h₅, h₆, h₇, h₈⟩ := hkey
  simp only [stateEvent, List.cons_append, List.nil_append, Obj.get_cons, h₁, h₂, h₃, h₄, h₅, h₆,
    h₇, h₈, if_false]

/-- The members of an event the Home looks at, beside the common ones. -/
structure EventReads (event : Obj) (subject previous role status profile policy : Json) : Prop where
  subject : event.get "subject_did" = subject
  previous : event.get "previous_subject_did" = previous
  role : event.get "role" = role
  status : event.get "membership_status" = status
  profile : event.get "group_profile" = profile
  policy : event.get "group_policy" = policy

/-- The members of a state change are those of its event. -/
theorem EventReads.of_fields {ctx : GroupRequest} {groupDid changedAt : String}
    {change : StateChange} {stateVersion eventSeq : ℕ} {receipt : Obj}
    {subject previous role status profile policy : Json}
    (h : EventReads change.eventFields subject previous role status profile policy) :
    EventReads (stateEvent ctx groupDid change stateVersion eventSeq changedAt receipt) subject
      previous role status profile policy := by
  obtain ⟨h₁, h₂, h₃, h₄, h₅, h₆⟩ := h
  constructor
  all_goals
    rw [stateEvent_get (by decide)]
    assumption

/-- The event of a join or an add, -/
theorem activation_reads (group : HostedGroup) (a : Admission) :
    EventReads (activation group a).eventFields (.str a.targetDid) .null (.str a.role.text)
      (.str "active") (.obj group.profile) (.obj group.policy) := by
  unfold activation
  cases a.binding <;> constructor <;> simp [Obj.get_cons]

/-- of a leave or a removal, -/
theorem departure_reads (method : GroupMethod) (targetDid : String) :
    EventReads (departure method targetDid).eventFields (.str targetDid) .null .null
      (.str (if method = .leave then "left" else "removed")) .null .null := by
  unfold departure
  constructor <;> simp [Obj.get_cons]

/-- of a rebind, -/
theorem rebinding_reads (binding : VerifiedHandleBinding) (previousDid newDid : String) :
    EventReads (rebinding binding previousDid newDid).eventFields (.str newDid) (.str previousDid)
      .null (.str "active") .null .null := by
  unfold rebinding
  constructor <;> simp [Obj.get_cons]

/-- and of an update. -/
theorem groupUpdate_reads {method : GroupMethod}
    (hmethod : method = .updateProfile ∨ method = .updatePolicy) (value : Obj) :
    EventReads (groupUpdate method value).eventFields .null .null .null .null
      (if method = .updateProfile then .obj value else .null)
      (if method = .updateProfile then .null else .obj value) := by
  rcases hmethod with rfl | rfl <;> constructor <;> simp [groupUpdate, Obj.get_cons]

/-- What a notice of a state change is about. -/
theorem subjects_of_reads {p : WireProfile} {groupDid operationId targetDid : String} {event : Obj}
    {eventSeq : ℕ} {subject previous role status profile policy : Json}
    (h : EventReads event subject previous role status profile policy) :
    Notice.subjects ⟨eventSeq, .stateChanged,
      stateChangedEnvelope p groupDid operationId event targetDid⟩ =
      subject.str?.toList ++ previous.str?.toList := by
  rw [Notice.subjects, if_pos rfl, eventSubjects]
  have hbody : (Notice.param ⟨eventSeq, .stateChanged,
      stateChangedEnvelope p groupDid operationId event targetDid⟩ "body").obj?.getD [] =
        event := by
    simp [Notice.param, stateChangedEnvelope, Obj.get_cons, Json.obj?]
  rw [hbody, h.subject, h.previous]

end Events

section Applied

variable {home home' : Store} {g o eventType changedAt : String} {p : WireProfile} {event : Obj}
  {stateVersion eventSeq : ℕ} {req : Request} {n : Notification}

/-- An entry is read off the projected roster. -/
theorem viewEntry_congr {st st' : Store} (h : st'.groupMemberViews = st.groupMemberViews)
    (ownerDid groupDid did : String) :
    st'.viewEntry ownerDid groupDid did = st.viewEntry ownerDid groupDid did := by
  rw [Store.viewEntry, h, Store.viewEntry]

/-- The projected roster after an event about a member. -/
theorem AppliedChange.viewEntry {subject role status : String} {previous profile policy : Json}
    {role₀ : Json} (h : AppliedChange home home' g o eventType changedAt p event stateVersion
      eventSeq req n)
    (hreads : EventReads event (.str subject) previous role₀ (.str status) profile policy)
    (hrole : role₀.orElse (.str "member") = .str role) (hstatus : status ≠ "") (did : String) :
    home'.viewEntry o g did = if did = subject then some (role, status) else
      home.viewEntry o g did := by
  obtain ⟨before, after, hbefore, hafter, hsubject⟩ := h.roster
  have htruthy : (Json.str status).orElse (.str (impliedStatus eventType)) = .str status := by
    simp [Json.orElse, Json.truthy, hstatus]
  have hentry := projectSubject_viewEntry (by rw [h.body]; exact hreads.subject)
    (by rw [h.body, hreads.role]; exact hrole) (by rw [h.body, hreads.status]; exact htruthy)
    hsubject did
  rw [h.target, h.group] at hentry
  rw [viewEntry_congr hafter, hentry, viewEntry_congr hbefore]

/-- The projected roster after an event about nobody. -/
theorem AppliedChange.viewEntry_of_none
    (h : AppliedChange home home' g o eventType changedAt p event stateVersion eventSeq req n)
    {previous role status profile policy : Json}
    (hreads : EventReads event .null previous role status profile policy) (did : String) :
    home'.viewEntry o g did = home.viewEntry o g did := by
  obtain ⟨before, after, hbefore, hafter, hsubject⟩ := h.roster
  have hnone := projectSubject_of_none (by rw [h.body]; exact hreads.subject) hsubject
  rw [viewEntry_congr hafter, hnone, viewEntry_congr hbefore]

end Applied

end Awiki
