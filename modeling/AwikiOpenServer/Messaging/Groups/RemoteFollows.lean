import AwikiOpenServer.Messaging.Groups.RemoteSteps

/-!
# The projection of a remote member, over whole runs

`RemoteInv` says that every Home that has accepted all notices so far follows; each step of the Host
keeps it (`HostStep.remoteInv`), provided the event is reflected. The agreement is then read off
where an event was announced (`remote_projection_follows`): a Home that is lost was not told of the
last event. A rebind of a DID that `o` was told of shows that the condition is needed.

The invariant quantifies over Homes: it is about every store that some sequence of accepted
deliveries could have led to, and not about one store that runs beside the Host. So nothing has to
be said of when the deliveries take place, and a step of the Host that announces something is met by
splitting off the last delivery (`Follows.last`): the Home before it has accepted all others, and
the invariant speaks of it.

The result is about the state of the Host in which an event was announced, and holds of the Home
that has accepted the notices up to it, whatever the Host has done since; `Follows.upto` turns the
notices of a later state into those.
-/

namespace Awiki

open Py Runs

/-! ### Runs -/

/-- **What holds in every state**: a Home that has accepted all notices so far follows. -/
structure RemoteInv (settings homeSettings : Settings) (g o : String) (st : Store) : Prop where
  log : HostLogInv st
  outbox : OutboxInv st
  following : ∀ home, Follows homeSettings g o (noticesFor st g o) home →
    Following settings st home g o

section Runs

variable {settings homeSettings : Settings} {st st' : Store} {g o : String}

/-- Steps that do not touch the group and announce nothing of it. -/
theorem RemoteInv.kept (hr : RemoteInv settings homeSettings g o st) (hlog : HostLogInv st')
    (hi : OutboxInv st') (hgroup : st'.hostedGroup? g = st.hostedGroup? g)
    (hmember : ∀ did, st'.hostedMember? g did = st.hostedMember? g did)
    (hnotices : noticesFor st' g o = noticesFor st g o) :
    RemoteInv settings homeSettings g o st' := by
  refine ⟨hlog, hi, fun home h ↦ ?_⟩
  rw [hnotices] at h
  exact (hr.following home h).congr hgroup hmember
    (remoteActive_congr hr.outbox.members_keyed hi.members_keyed (hmember o)) hnotices

/-- **An event of the group**: accepted by a Home that followed until then, or not announced. -/
theorem RemoteInv.advanced (a : Advance settings st st')
    (hr : RemoteInv settings homeSettings a.group.groupDid o st) (hlog : HostLogInv st')
    (hi : OutboxInv st') (hcond : RosterReflected st st' a.group.groupDid o)
    (htold : o ∈ a.recipients.map HostedMember.agentDid → ∀ home home',
      Following settings st home a.group.groupDid o → Accepts homeSettings home (a.notice o) home' →
        Following settings st' home' a.group.groupDid o) :
    RemoteInv settings homeSettings a.group.groupDid o st' := by
  refine ⟨hlog, hi, fun home h ↦ ?_⟩
  by_cases hmem : o ∈ a.recipients.map HostedMember.agentDid
  · rw [a.noticesFor_of_told hr.log hr.outbox hmem] at h
    obtain ⟨before, after, hbefore, haccepts, hsame⟩ := h.last rfl
    exact (htold hmem before after (hr.following before hbefore) haccepts).same hsame
  · rw [a.noticesFor_eq hr.log hr.outbox, if_neg hmem, List.append_nil] at h
    exact (hr.following home h).untold a hr.log hr.outbox hmem hcond

/-- **A successful call.** -/
theorem RemoteInv.call {call : HostedCall} {result : Obj}
    (hr : RemoteInv settings homeSettings g o st) (hlog : HostLogInv st') (hi : OutboxInv st')
    (hcall : hostedCall settings st call = .ok (result, st')) (hcond : RosterReflected st st' g o)
    (hplain : call.method = .send → Told st st' g o → ∀ body,
      call.params.get "_anp_body" = .obj body → Obj.has body "group_receipt" = false) :
    RemoteInv settings homeSettings g o st' := by
  have hother : ∀ a : Advance settings st st', g ≠ a.group.groupDid →
      RemoteInv settings homeSettings g o st' := fun a hne ↦
    hr.kept hlog hi (a.hostedGroup?_of_ne hne) (a.hostedMember?_of_ne hne)
      (a.noticesFor_of_ne hr.log hr.outbox hne.symm o)
  cases hostedCall_hostedEffect hr.outbox.members_keyed hcall with
  | replayed hsame => exact hsame ▸ hr
  | created c =>
    by_cases hg : g = c.group.groupDid
    · -- The new group has no remote member that was told of it.
      have hnone : st.hostedGroup? g = none := Table.row?_eq_none.mpr (hg ▸ c.fresh)
      have hnil : noticesFor st' g o = [] := by
        rw [noticesFor_congr c.outbox, noticesFor_of_unknown hr.outbox hnone]
      exact ⟨hlog, hi, fun home h ↦ .of_nil hnil h settings⟩
    · exact hr.kept hlog hi (c.hostedGroup?_of_ne hg) (c.hostedMember?_of_ne hg)
        (noticesFor_congr c.outbox g o)
  | changed a change hchange =>
    by_cases hg : g = a.group.groupDid
    · subst hg
      exact hr.advanced a hlog hi hcond fun htold home home' h haccepts ↦
        h.told_change a hr.log hr.outbox hchange htold haccepts hcond
    · exact hother a hg
  | sent a result hmethod hmessage hupdate hroster =>
    by_cases hg : g = a.group.groupDid
    · subst hg
      refine hr.advanced a hlog hi hcond fun htold home home' h haccepts ↦ ?_
      have hbody := hplain hmethod (a.told hr.log hr.outbox htold) _ hmessage.verified.body
      exact h.told_message a hr.log hr.outbox hmessage hmethod hupdate hroster hbody htold haccepts
    · exact hother a hg

/-- **The step lemma.** -/
theorem HostStep.remoteInv {w w' : HostWorld} {action : HostAction}
    (h : HostStep settings w action w') (hcond : Reflected settings g o w action)
    (hr : RemoteInv settings homeSettings g o w.store) :
    RemoteInv settings homeSettings g o w'.store := by
  have hlog := hr.log.step h.storeStep
  have hi := hr.outbox.step hr.log h.storeStep
  cases h with
  | call c =>
    obtain ⟨hroster, hplain⟩ := hcond
    cases hcall : hostedCall settings w.store c with
    | error e =>
      have hsame : afterCall settings w.store c = w.store := by rw [afterCall, hcall]
      exact hr.kept hlog hi (by rw [hsame]) (by simp [hsame]) (by rw [hsame])
    | ok r =>
      have hafter : afterCall settings w.store c = r.2 := by rw [afterCall, hcall]
      rw [hafter] at hroster hplain
      dsimp only at hlog hi ⊢
      rw [hafter] at hlog hi ⊢
      exact hr.call hlog hi hcall hroster hplain
  | beginDrain => exact hr
  | endDrain => exact hr
  | attempt outcome nextAttempt updatedAt =>
    exact hr.kept hlog hi rfl (fun _ ↦ rfl)
      (noticesFor_recordAttempt _ outcome _ nextAttempt updatedAt g o)
  | elsewhere st hst =>
    refine hr.kept hlog hi ?_ (fun did ↦ ?_) (noticesFor_congr hst.groupDeliveryOutbox g o)
    · rw [Store.hostedGroup?, hst.hostedGroups, Store.hostedGroup?]
    · rw [Store.hostedMember?, hst.hostedGroupMembers, Store.hostedMember?]

/-- At first there are no notices. -/
theorem RemoteInv.initial {w : HostWorld} (h : w.Initial) :
    RemoteInv settings homeSettings g o w.store := by
  have hnil : noticesFor w.store g o = [] := by rw [noticesFor, h.groupDeliveryOutbox]; rfl
  exact ⟨.initial h, .initial h, fun home hf ↦ .of_nil hnil hf settings⟩

/-- **The remote projection follows the Host**, in every run in which every event is reflected.
After a Home has accepted, in order, every notice for `o` up to the last event of a state, its
projection agrees with that state. -/
theorem remote_projection_follows {w₀ w w' : HostWorld} {home : Store} {group : HostedGroup}
    (h₀ : w₀.Initial) (h : ReachesWith (HostStep settings) (Reflected settings g o) w₀ w)
    (hgroup : w.store.hostedGroup? g = some group) (h' : Reaches (HostStep settings) w w')
    (hannounced : ∃ n ∈ noticesFor w'.store g o, n.seq = group.groupEventSeq)
    (hfollows : Follows homeSettings g o
      ((noticesFor w'.store g o).filter fun n ↦ decide (n.seq ≤ group.groupEventSeq)) home) :
    RemoteAgrees w.store home g o := by
  have hr : RemoteInv settings homeSettings g o w.store :=
    h.invariant (I := fun w ↦ RemoteInv settings homeSettings g o w.store) (.initial h₀)
      fun hi hc hs ↦ hs.remoteInv hc hi
  have hupto : (noticesFor w'.store g o).filter (fun n ↦ decide (n.seq ≤ group.groupEventSeq)) =
      noticesFor w.store g o := noticesFor_upto h₀ h.reaches h' hgroup
  obtain ⟨n, hn, hseq⟩ := hannounced
  have hmem : n ∈ noticesFor w.store g o := by
    rw [← hupto]
    exact List.mem_filter.mpr ⟨hn, decide_eq_true hseq.le⟩
  rw [hupto] at hfollows
  have hfollowing := hr.following home hfollows
  cases hfollowing.standing with
  | unknown hnil => simp [hnil] at hmem
  | member _ hagrees => exact hagrees
  | gone group' view hgroup' _ _ hview _ hle _ _ hagrees =>
    obtain rfl := Option.some.inj (hgroup.symm.trans hgroup')
    have hreached := hfollowing.reached view hview n hmem
    exact hagrees (by omega)
  | lost group' view hgroup' hview _ hlt =>
    obtain rfl := Option.some.inj (hgroup.symm.trans hgroup')
    have hreached := hfollowing.reached view hview n hmem
    omega

end Runs

/-! ### A rebind -/

/-- Another agent of the peer. -/
def dave : String := "did:wba:peer.example:user:dave"

/-- Alice adds Dave. -/
def version1AddDave (seen : Store) : HostedCall :=
  callAs alice .add
    (version1Params alice "op-add-dave" "group" sampleGroup [("member_did", .str dave)]) seen

/-- The Host when Dave and Bob are members, and after Bob's Handle has moved. -/
def HostWorld.bothAdded : HostWorld :=
  ((HostWorld.empty.after .sample fun _ ↦ version1Create).after .sample version1AddDave).after
    .sample version1Add

/-- And after it. -/
def HostWorld.bobRebound : HostWorld := HostWorld.bothAdded.after .sample version1Rebind

/-- The Home of Dave. -/
def Settings.peer : Settings :=
  { Settings.sample with
    serviceDid := "did:wba:peer.example", didDomain := "peer.example",
    anpServiceEndpoint := "https://peer.example/anp" }

/-- Dave's Home knows nothing of the group. -/
def davesHome : Store :=
  { users := [
      { did := dave, handle := "dave.peer.example", token := "t", revokedAt := none,
        handleBindingGeneration := "1" }],
    didDocuments := [
      { did := dave, document := .obj [("id", .str dave)], documentVersion := 1,
        updatedAt := "2026-01-01T00:00:00Z", status := .active, revokedAt := none }] }

/-- A delivery that the Host has signed. -/
def deliveryRequest : Request where
  surface := .publicRpc
  credentials := .missing
  outside :=
    { Outside.honest with
      discoverAnpService := fun _ ↦ .ok
        [("serviceDid", .str "did:wba:host.example"), ("profiles", .arr [.str WireProfile.v1.text])]
      signatureServiceDid := .ok "did:wba:host.example"
      sourceServiceDid := some "did:wba:host.example" }

/-- The Home after a delivery, if it accepts it. -/
def deliver? (home : Store) (n : Notice) : Option Store :=
  let params : Obj :=
    [("_anp_meta", n.param "meta"), ("_anp_auth", n.param "auth"), ("_anp_body", n.param "body")]
  match if n.method = .stateChanged then groupStateChanged .peer home deliveryRequest params
    else groupIncoming .peer home deliveryRequest params with
  | .ok (_, home') => some home'
  | .error _ => none

/-- A delivery that is computed is an accepted one. -/
theorem deliver?_accepts {home home' : Store} {n : Notice} (h : deliver? home n = some home') :
    Accepts .peer home n home' := by
  unfold deliver? at h
  dsimp only at h
  split at h
  · rename_i result st hcall
    obtain rfl := Option.some.inj h
    exact .delivered _ _ result rfl rfl rfl hcall
  · cases h

/-- Deliveries one after the other. -/
theorem Follows.deliverAll {g o : String} {more notices : List Notice} {home home' : Store}
    (h : Follows .peer g o notices home) (hdelivered : more.foldlM deliver? home = some home') :
    Follows .peer g o (notices ++ more) home' := by
  induction more generalizing notices home with
  | nil =>
    obtain rfl := Option.some.inj hdelivered
    rwa [List.append_nil]
  | cons n rest ih =>
    rw [List.foldlM_cons, Option.bind_eq_bind, Option.bind_eq_some_iff] at hdelivered
    obtain ⟨between, hn, hrest⟩ := hdelivered
    have hnext := ih (h.accepted (deliver?_accepts hn)) hrest
    rwa [List.append_assoc, List.singleton_append] at hnext

/-- It has accepted nothing yet. -/
theorem davesHome_fresh (g : String) : Follows .peer g dave [] davesHome :=
  .fresh rfl (fun _ ↦ rfl) (List.forall_mem_nil _)

/-- A call that has read the present store, as a step of the Host. -/
theorem HostStep.after (settings : Settings) (w : HostWorld) (c : Store → HostedCall)
    (hseen : Past (c w.store).seen w.store) (hreplayed : Past (c w.store).replayed w.store) :
    HostStep settings w (.call (c w.store)) (w.after settings c) :=
  .call _ hseen hreplayed

/-- In a version 1 group, a step that keeps every row with its status is reflected. -/
theorem RosterReflected.of_kept {st st' : Store} {g o : String}
    (hkept : ∀ m ∈ st.hostedGroupMembers, m.groupDid = g →
      (st'.hostedMember? g m.agentDid).map (·.status) = some m.status)
    (hv1 : ∀ group ∈ st.hostedGroup? g, group.wireProfile = .v1) : RosterReflected st st' g o where
  departed _ m hm hg hactive m' hm' hended := by
    have hstatus := hkept m hm hg
    rw [hm', Option.map_some, Option.some.injEq, hactive] at hstatus
    exact absurd hstatus hended
  rebound _ m hm hg hnone := by
    have hstatus := hkept m hm hg
    rw [hnone] at hstatus
    cases hstatus
  missed _ group hgroup hv2 := absurd ((hv1 group hgroup).symm.trans hv2) (by decide)

/-- What `RosterReflected.of_kept` asks of a call. -/
def keepsRoster (w : HostWorld) (c : HostedCall) (g : String) : Bool :=
  (w.store.hostedGroupMembers.all fun m ↦ decide (m.groupDid = g →
    ((afterCall .sample w.store c).hostedMember? g m.agentDid).map (·.status) = some m.status)) &&
  (w.store.hostedGroup? g).all fun group ↦ decide (group.wireProfile = .v1)

/-- Such a call is reflected. -/
theorem reflected_of_keepsRoster {w : HostWorld} {c : HostedCall} {g o : String}
    (h : keepsRoster w c g = true) (hmethod : c.method ≠ .send) :
    Reflected .sample g o w (.call c) := by
  obtain ⟨hkept, hv1⟩ := Bool.and_eq_true_iff.mp h
  refine ⟨.of_kept (fun m hm ↦ of_decide_eq_true (List.all_eq_true.mp hkept m hm))
    fun group hgroup ↦ ?_, fun hsend ↦ absurd hsend hmethod⟩
  exact of_decide_eq_true ((Option.all_eq_true _ _).mp hv1 group hgroup)

/-- Both are added, and every step is reflected. -/
theorem HostWorld.bothAdded_reached :
    ReachesWith (HostStep .sample) (Reflected .sample sampleGroup dave) .empty .bothAdded := by
  refine .tail (.tail (.tail (.refl _) ?_
    (.after .sample .empty (fun _ ↦ version1Create) List.prefix_rfl List.prefix_rfl)) ?_
    (.after .sample _ version1AddDave List.prefix_rfl List.prefix_rfl)) ?_
    (.after .sample _ version1Add List.prefix_rfl List.prefix_rfl)
  · exact reflected_of_keepsRoster (by decide +kernel) (by decide)
  · exact reflected_of_keepsRoster (by decide +kernel) (by decide)
  · exact reflected_of_keepsRoster (by decide +kernel) (by decide)

/-- What is accepted so far is what has been announced so far. -/
theorem Follows.upto {w : HostWorld} {group : HostedGroup} {home : Store} {o : String}
    (h : Reaches (HostStep .sample) .empty w)
    (hgroup : w.store.hostedGroup? sampleGroup = some group)
    (hfollows : Follows .peer sampleGroup o (noticesFor w.store sampleGroup o) home) :
    Follows .peer sampleGroup o ((noticesFor w.store sampleGroup o).filter
      fun n ↦ decide (n.seq ≤ group.groupEventSeq)) home := by
  rwa [noticesFor_upto HostWorld.empty_initial h (.refl w) hgroup]

/-- **A rebind leaves the previous DID in the roster of a remote member.** Dave's Home has accepted
all three notices and lists Bob under both of his DIDs, the Host under the new one alone. -/
theorem rebind_orphans_remote_roster :
    ¬ ∀ (settings homeSettings : Settings) (g o : String) (w₀ w w' : HostWorld) (home : Store)
      (group : HostedGroup), w₀.Initial → Reaches (HostStep settings) w₀ w →
      w.store.hostedGroup? g = some group → Reaches (HostStep settings) w w' →
      (∃ n ∈ noticesFor w'.store g o, n.seq = group.groupEventSeq) →
      Follows homeSettings g o
        ((noticesFor w'.store g o).filter fun n ↦ decide (n.seq ≤ group.groupEventSeq)) home →
      RemoteAgrees w.store home g o := by
  intro hall
  have hreached : Reaches (HostStep .sample) .empty .bobRebound :=
    HostWorld.bothAdded_reached.reaches.tail
      (.after .sample _ version1Rebind List.prefix_rfl List.prefix_rfl)
  have hstates : (HostWorld.bobRebound.store.hostedGroup? sampleGroup).map
        (·.groupEventSeq) = some 4 ∧
      4 ∈ (noticesFor HostWorld.bobRebound.store sampleGroup dave).map Notice.seq ∧
      bob ∈ subjectsTold HostWorld.bobRebound.store sampleGroup dave ∧
      HostWorld.bobRebound.store.rosterEntry sampleGroup bob = none ∧
      ((noticesFor HostWorld.bobRebound.store sampleGroup dave).foldlM deliver? davesHome).map
        (fun home ↦ home.viewEntry dave sampleGroup bob) = some (some ("member", "active")) := by
    decide +kernel
  generalize HostWorld.bobRebound = w at hreached hstates
  obtain ⟨hgroup, hlast, hsubject, hhosted, hhome⟩ := hstates
  obtain ⟨group, hgroup, hseq⟩ := Option.map_eq_some_iff.mp hgroup
  obtain ⟨home, hhome, hentry⟩ := Option.map_eq_some_iff.mp hhome
  obtain ⟨n, hn, hnseq⟩ := List.mem_map.mp hlast
  have hagrees := hall .sample .peer sampleGroup dave .empty w w home group
    HostWorld.empty_initial hreached hgroup (.refl _) ⟨n, hn, hnseq.trans hseq.symm⟩
    (.upto hreached hgroup ((davesHome_fresh sampleGroup).deliverAll hhome))
  have hbad := hagrees.roster bob hsubject
  rw [hentry, hhosted] at hbad
  cases hbad

/-- Before the rebind Dave's Home has both members, as the Host has them. -/
theorem remote_projection_follows_sample :
    subjectsTold HostWorld.bothAdded.store sampleGroup dave = [dave, bob] ∧
      ∃ home, (noticesFor HostWorld.bothAdded.store sampleGroup dave).foldlM deliver? davesHome =
        some home ∧ RemoteAgrees HostWorld.bothAdded.store home sampleGroup dave := by
  have hreached := HostWorld.bothAdded_reached
  have hstates : subjectsTold HostWorld.bothAdded.store sampleGroup dave = [dave, bob] ∧
      (HostWorld.bothAdded.store.hostedGroup? sampleGroup).map (·.groupEventSeq) = some 3 ∧
      3 ∈ (noticesFor HostWorld.bothAdded.store sampleGroup dave).map Notice.seq ∧
      ((noticesFor HostWorld.bothAdded.store sampleGroup dave).foldlM deliver? davesHome).isSome =
        true := by decide +kernel
  generalize HostWorld.bothAdded = w at hreached hstates ⊢
  obtain ⟨hsubjects, hgroup, hlast, hhome⟩ := hstates
  obtain ⟨group, hgroup, hseq⟩ := Option.map_eq_some_iff.mp hgroup
  obtain ⟨home, hhome⟩ := Option.isSome_iff_exists.mp hhome
  obtain ⟨n, hn, hnseq⟩ := List.mem_map.mp hlast
  exact ⟨hsubjects, home, hhome, remote_projection_follows HostWorld.empty_initial hreached hgroup
    (.refl _) ⟨n, hn, hnseq.trans hseq.symm⟩
    (.upto hreached.reaches hgroup ((davesHome_fresh sampleGroup).deliverAll hhome))⟩

end Awiki
