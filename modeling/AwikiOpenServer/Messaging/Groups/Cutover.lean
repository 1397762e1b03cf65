import AwikiOpenServer.Messaging.Groups.Phases

/-!
# The cutover of a group

That the head of a group and its migration record fit together is an invariant of the server, and
with it each step of the server is a step of the phase machine or leaves the phase alone. Behind a
fence nothing changes that the operator has inspected: while a group is fenced for one preparation
no call can write it, and the id of a preparation is never drawn twice, so a fence that stands at
two moments has stood in between. Hence what an apply migrates is **the group the operator has
inspected**, and not merely one with the same digest.

## Three results

* `server_refines_phases`: in every reachable state head and record of every group stand for a phase
  of the machine of `Messaging/Groups/Phases.lean`, and every step of the server, whoever makes it,
  is a transition of that machine or leaves the phase as it is.
* `plan_frozen_behind_fence`: between any two moments at which a group is fenced for one preparation
  its plan is the same, and an inspection comes out the same.
* `migrated_as_inspected`: behind a migrated group there is the whole history of its migration, from
  the inspection to the apply.

## A fence at two moments

The second result is about two moments, and says nothing of what was in between; a group could have
been given back and fenced again. That it was not is an argument about ids: a preparation draws its
id when it begins, no id is drawn twice, so a fence for an id that had been drawn before was there
before as well (`FenceKept`). The induction goes backwards along the run in effect, from the later
fence to the earlier, step by step.

## Halves of commands

A command of the operator is two transactions with something outside between them, and the second
half works on what the first has handed over (`MigrationTask`). The invariant speaks of those under
way as well: an apply under way has seen a record, which may have been replaced since, and its
second half checks again.
-/

namespace Awiki

open Py Runs

/-! ### Phases after a step -/

/-- The phase is read off two columns of the head. -/
theorem phaseOf_congr {g g' : HostedGroup} (hstate : g'.protocolState = g.protocolState)
    (hprofile : g'.wireProfile = g.wireProfile) (record : Option GroupProtocolMigration) :
    phaseOf (some g') record = phaseOf (some g) record := by
  cases record with
  | none => rw [phaseOf, phaseOf, hstate, hprofile]
  | some r => rw [phaseOf, phaseOf, hstate, hprofile]

/-- A group behind a fence is of version 1 and quiet, and its record is of that preparation. -/
theorem phaseOf_eq_fenced {group : Option HostedGroup} {record : Option GroupProtocolMigration}
    {preparationId : String} {backedUp : Bool}
    (h : phaseOf group record = some (.fenced preparationId backedUp)) :
    ∃ g r, group = some g ∧ record = some r ∧ g.protocolState = .quiescing ∧
      r.preparationId = preparationId ∧
      r.state = if backedUp then .prepared else .preparing := by
  cases group with
  | none => cases record <;> simp [phaseOf] at h
  | some g =>
    cases record with
    | none => simp [phaseOf] at h
    | some r =>
      refine ⟨g, r, rfl, rfl, ?_⟩
      cases hstate : r.state with
      | preparing =>
        simp only [phaseOf, hstate, Option.ite_none_right_eq_some, Option.some.injEq,
          Phase.fenced.injEq] at h
        obtain ⟨⟨hquiet, -⟩, hid, rfl⟩ := h
        exact ⟨hquiet, hid, rfl⟩
      | prepared =>
        simp only [phaseOf, hstate, Option.ite_none_right_eq_some, Option.some.injEq,
          Phase.fenced.injEq] at h
        obtain ⟨⟨hquiet, -⟩, hid, rfl⟩ := h
        exact ⟨hquiet, hid, rfl⟩
      | applied => simp [phaseOf, hstate] at h
      | cancelled => simp [phaseOf, hstate] at h

/-- A group with a record that was not applied is of version 1. -/
theorem wireProfile_of_not_applied {g : HostedGroup} {r : GroupProtocolMigration} {phase : Phase}
    (h : phaseOf (some g) (some r) = some phase) (hr : r.state ≠ .applied) :
    g.wireProfile = .v1 := by
  rw [phaseOf] at h
  cases hstate : r.state with
  | applied => exact absurd hstate hr
  | preparing =>
    rw [hstate] at h
    exact (Option.ite_none_right_eq_some.mp h).1.2
  | prepared =>
    rw [hstate] at h
    exact (Option.ite_none_right_eq_some.mp h).1.2.1
  | cancelled =>
    rw [hstate] at h
    exact (Option.ite_none_right_eq_some.mp h).1.2

/-- A group of version 1 is served or fenced. -/
theorem phaseOf_of_v1 {g : HostedGroup} {record : Option GroupProtocolMigration} {phase : Phase}
    (h : phaseOf (some g) record = some phase) (hv1 : g.wireProfile = .v1) :
    phase = .serving .v1 ∨ ∃ preparationId backedUp, phase = .fenced preparationId backedUp := by
  cases record with
  | none =>
    rw [phaseOf, Option.ite_none_right_eq_some, hv1, Option.some.injEq] at h
    exact .inl h.2.symm
  | some r =>
    rw [phaseOf] at h
    cases hstate : r.state with
    | applied =>
      rw [hstate] at h
      obtain ⟨⟨-, hv2⟩, -⟩ := Option.ite_none_right_eq_some.mp h
      rw [hv1] at hv2
      cases hv2
    | preparing =>
      rw [hstate] at h
      exact .inr ⟨_, _, (Option.some.inj (Option.ite_none_right_eq_some.mp h).2).symm⟩
    | prepared =>
      rw [hstate] at h
      exact .inr ⟨_, _, (Option.some.inj (Option.ite_none_right_eq_some.mp h).2).symm⟩
    | cancelled =>
      rw [hstate] at h
      exact .inl (Option.some.inj (Option.ite_none_right_eq_some.mp h).2).symm

section Phases

variable {digest : MigrationAnchor → String} {settings : Settings} {groupDid : String}
  {st st' : Store} {a : ServerAction} {phase : Phase}

/-- **Each step is a step of the machine.** -/
theorem CutoverStep.phaseStep (h : CutoverStep digest settings groupDid st a st')
    (hphase : st.phase? groupDid = some phase) :
    ∃ phase', st'.phase? groupDid = some phase' ∧ PhaseStep groupDid phase a phase' := by
  rw [Store.phase?] at hphase
  -- The phase is read off the head and the record, so each case says what became of these two.
  cases h with
  | kept hplan hrecord =>
    rw [Store.phase?, hplan.hostedGroup?_eq, hrecord, hphase]
    exact ⟨phase, rfl, .stay phase a⟩
  | created hnone hgroup hactive hrecord =>
    rw [hnone] at hphase
    cases hmigration : st.migration? groupDid with
    | some r => simp [phaseOf, hmigration] at hphase
    | none =>
      rw [hmigration, phaseOf, Option.some.injEq] at hphase
      rw [Store.phase?, hgroup, hrecord, hmigration, phaseOf, if_pos hactive, ← hphase]
      exact ⟨_, rfl, .create _ _⟩
  | advanced hgroup hactive hgroup' hactive' hprofile hrecord =>
    rw [hgroup] at hphase
    rw [Store.phase?, hgroup', hrecord, phaseOf_congr (hactive'.trans hactive.symm) hprofile,
      hphase]
    exact ⟨phase, rfl, .stay phase _⟩
  | @begun expected out group anchor record st' hinspect hv1 hdigest hid hplan hstate hinspect'
      hrecord' hissued =>
    rw [inspectGroup_found hinspect] at hphase
    have hphase' : st'.phase? groupDid = some (.fenced record.preparationId false) := by
      rw [Store.phase?, inspectGroup_found hinspect', hrecord', phaseOf, hstate]
      exact if_pos ⟨rfl, hv1⟩
    obtain rfl | ⟨before, backedUp, rfl⟩ := phaseOf_of_v1 hphase hv1
    · exact ⟨_, hphase', .fence expected _⟩
    · exact ⟨_, hphase', .refence expected before _ backedUp⟩
  | @backedUp record backup st' hrecord hstate hplan hrecord' =>
    cases hgroup : st.hostedGroup? groupDid with
    | none => simp [phaseOf, hgroup, hrecord] at hphase
    | some g =>
      rw [hgroup, hrecord, phaseOf, hstate] at hphase
      obtain ⟨⟨hquiet, hv1⟩, heq⟩ := Option.ite_none_right_eq_some.mp hphase
      obtain rfl := Option.some.inj heq
      rw [Store.phase?, hplan.hostedGroup?_eq, hgroup, hrecord']
      exact ⟨_, if_pos ⟨hquiet, hv1, rfl⟩, .backUp _⟩
  | @applied out record group anchor appliedAt st' hrecord hstate hinspect hdigest hdelivered
      hgroup' hrecord' =>
    rw [inspectGroup_found hinspect, hrecord, phaseOf, hstate] at hphase
    obtain ⟨-, heq⟩ := Option.ite_none_right_eq_some.mp hphase
    obtain rfl := Option.some.inj heq
    rw [Store.phase?, hgroup', hrecord']
    exact ⟨.migrated, by simp [phaseOf], .apply _⟩
  | @cancelled expected record st' hrecord hstate hgroup' hrecord' =>
    cases hgroup : st.hostedGroup? groupDid with
    | none => simp [phaseOf, hgroup, hrecord] at hphase
    | some g =>
      rw [hgroup, hrecord] at hphase
      have hv1 := wireProfile_of_not_applied hphase hstate
      have hserving : st'.phase? groupDid = some (.serving .v1) := by
        rw [Store.phase?, hgroup', hrecord', hgroup, Option.map_some, if_pos hv1]
        exact if_pos ⟨rfl, hv1⟩
      obtain rfl | ⟨preparationId, backedUp, rfl⟩ := phaseOf_of_v1 hphase hv1
      · exact ⟨_, hserving, .stay _ _⟩
      · exact ⟨_, hserving, .cancel expected preparationId backedUp⟩

/-- **How a group comes to be behind a fence**: it was already, and nothing the operator has
inspected has changed since, or its preparation began. -/
theorem CutoverStep.fenced (h : CutoverStep digest settings groupDid st a st')
    (hphase : st.phase? groupDid = some phase) {preparationId : String} {backedUp : Bool}
    (hfenced : st'.phase? groupDid = some (.fenced preparationId backedUp)) :
    (∃ before, st.phase? groupDid = some (.fenced preparationId before) ∧
      SamePlan groupDid st st' ∧ (before = backedUp ∨ a = .prepareFinish groupDid)) ∨
    (preparationId = newId "gpm" st.issued ∧ backedUp = false ∧
      ∃ expected out group anchor, a = .prepareBegin groupDid expected ∧
        inspectGroup settings out st groupDid = .ok (group, anchor) ∧ digest anchor = expected ∧
        inspectGroup settings out st' groupDid =
          .ok ({ group with protocolState := .quiescing }, anchor)) := by
  have hfenced' := hfenced
  rw [Store.phase?] at hfenced'
  obtain ⟨g, r, hg, hr, hquiet, hid, hstate⟩ := phaseOf_eq_fenced hfenced'
  cases h with
  | kept hplan hrecord =>
    rw [Store.phase?, hplan.hostedGroup?_eq, hrecord] at hfenced
    exact .inl ⟨backedUp, hfenced, hplan, .inl rfl⟩
  | created hnone hgroup hactive hrecord =>
    obtain rfl := Option.some.inj (hg.symm.trans hgroup)
    rw [hactive] at hquiet
    cases hquiet
  | advanced hgroup hactive hgroup' hactive' hprofile hrecord =>
    obtain rfl := Option.some.inj (hg.symm.trans hgroup')
    rw [hactive'] at hquiet
    cases hquiet
  | begun hinspect hv1 hdigest hid' hplan hstate' hinspect' hrecord' hissued =>
    obtain rfl := Option.some.inj (hr.symm.trans hrecord')
    rw [hstate'] at hstate
    refine .inr ⟨hid.symm.trans hid', ?_, _, _, _, _, rfl, hinspect, hdigest, hinspect'⟩
    cases backedUp with
    | false => rfl
    | true => cases hstate
  | @backedUp record backup st' hrecord hstate' hplan hrecord' =>
    obtain rfl := Option.some.inj (hr.symm.trans hrecord')
    rw [hplan.hostedGroup?_eq] at hg
    rw [Store.phase?, hg, hrecord, phaseOf, hstate'] at hphase
    have hhead := (Option.ite_none_right_eq_some.mp hphase).1
    refine .inl ⟨false, ?_, hplan, .inr rfl⟩
    rw [Store.phase?, hg, hrecord, phaseOf, hstate', ← hid]
    exact if_pos hhead
  | applied _ _ _ _ _ hgroup' _ =>
    obtain rfl := Option.some.inj (hg.symm.trans hgroup')
    cases hquiet
  | cancelled _ _ _ hrecord' =>
    obtain rfl := Option.some.inj (hr.symm.trans hrecord')
    cases backedUp <;> cases hstate

/-- A migrated group has a record that was applied. -/
theorem phaseOf_eq_migrated {group : Option HostedGroup} {record : Option GroupProtocolMigration}
    (h : phaseOf group record = some .migrated) :
    ∃ g r, group = some g ∧ record = some r ∧ r.state = .applied := by
  cases group with
  | none => cases record <;> simp [phaseOf] at h
  | some g =>
    cases record with
    | none => simp [phaseOf] at h
    | some r =>
      refine ⟨g, r, rfl, rfl, ?_⟩
      cases hstate : r.state <;> simp [phaseOf, hstate] at h ⊢

/-- **How a group comes to be migrated**: by an apply, from behind its fence, with everything
delivered. -/
theorem CutoverStep.migrated (h : CutoverStep digest settings groupDid st a st')
    (hphase : st.phase? groupDid = some phase) (hmigrated : st'.phase? groupDid = some .migrated) :
    st.phase? groupDid = some .migrated ∨
      ∃ preparationId, a = .applyFinish groupDid ∧
        st.phase? groupDid = some (.fenced preparationId true) ∧
        ∀ r ∈ st.groupDeliveryOutbox, r.groupDid = groupDid → r.status = .delivered := by
  have hmigrated' := hmigrated
  rw [Store.phase?] at hmigrated'
  obtain ⟨g, r, hg, hr, hstate⟩ := phaseOf_eq_migrated hmigrated'
  cases h with
  | kept hplan hrecord =>
    rw [Store.phase?, hplan.hostedGroup?_eq, hrecord] at hmigrated
    exact .inl hmigrated
  | created hnone hgroup hactive hrecord =>
    rw [Store.phase?, hnone, hrecord.symm.trans hr] at hphase
    cases hphase
  | advanced hgroup hactive hgroup' hactive' hprofile hrecord =>
    rw [Store.phase?, hgroup', hrecord,
      phaseOf_congr (hactive'.trans hactive.symm) hprofile] at hmigrated
    rw [Store.phase?, hgroup]
    exact .inl hmigrated
  | begun _ _ _ _ _ hstate' _ hrecord' _ =>
    obtain rfl := Option.some.inj (hr.symm.trans hrecord')
    rw [hstate'] at hstate
    cases hstate
  | backedUp _ _ _ hrecord' =>
    obtain rfl := Option.some.inj (hr.symm.trans hrecord')
    cases hstate
  | @applied out record group anchor appliedAt st' hrecord hstate' hinspect hdigest hdelivered
      hgroup' hrecord' =>
    rw [Store.phase?, inspectGroup_found hinspect, hrecord, phaseOf, hstate'] at hphase
    have hhead := (Option.ite_none_right_eq_some.mp hphase).1
    refine .inr ⟨record.preparationId, rfl, ?_, hdelivered⟩
    rw [Store.phase?, inspectGroup_found hinspect, hrecord, phaseOf, hstate']
    exact if_pos hhead
  | cancelled _ _ _ hrecord' =>
    obtain rfl := Option.some.inj (hr.symm.trans hrecord')
    cases hstate

/-- The record after a step is the one before it, as far as its plan goes, or a new one. -/
theorem CutoverStep.record (h : CutoverStep digest settings groupDid st a st')
    {r' : GroupProtocolMigration} (hr' : st'.migration? groupDid = some r') :
    (∃ r, st.migration? groupDid = some r ∧ r'.preparationId = r.preparationId ∧
      r'.planDigest = r.planDigest) ∨
    (r'.preparationId = newId "gpm" st.issued ∧ st.issued < st'.issued) := by
  cases h with
  | kept _ hrecord => exact .inl ⟨r', hrecord.symm.trans hr', rfl, rfl⟩
  | created _ _ _ hrecord => exact .inl ⟨r', hrecord.symm.trans hr', rfl, rfl⟩
  | advanced _ _ _ _ _ hrecord => exact .inl ⟨r', hrecord.symm.trans hr', rfl, rfl⟩
  | begun _ _ _ hid _ _ _ hrecord' hissued =>
    obtain rfl := Option.some.inj (hr'.symm.trans hrecord')
    exact .inr ⟨hid, hissued⟩
  | backedUp hrecord _ _ hrecord' =>
    obtain rfl := Option.some.inj (hr'.symm.trans hrecord')
    exact .inl ⟨_, hrecord, rfl, rfl⟩
  | applied hrecord _ _ _ _ _ hrecord' =>
    obtain rfl := Option.some.inj (hr'.symm.trans hrecord')
    exact .inl ⟨_, hrecord, rfl, rfl⟩
  | cancelled hrecord _ _ hrecord' =>
    obtain rfl := Option.some.inj (hr'.symm.trans hrecord')
    exact .inl ⟨_, hrecord, rfl, rfl⟩

end Phases

/-! ### Runs -/

/-- A server that has hosted nothing and migrated nothing yet. -/
structure ServerWorld.Untouched (w : ServerWorld) : Prop where
  hostedGroups : w.host.store.hostedGroups = []
  groupProtocolMigrations : w.host.store.groupProtocolMigrations = []
  tasks : w.tasks = []

section Runs

variable {digest : MigrationAnchor → String} {settings : Settings} {w₀ w w' : ServerWorld}
  {a : ServerAction}

/-- What was drawn stays drawn. -/
theorem Store.Drew.mono {st st' : Store} {preparationId : String} (h : st.Drew preparationId)
    (hissued : st.issued ≤ st'.issued) : st'.Drew preparationId :=
  let ⟨n, hn, hid⟩ := h
  ⟨n, hn.trans_le hissued, hid⟩

/-- The next id was not drawn. -/
theorem Store.Drew.ne_next {st : Store} {preparationId : String} (h : st.Drew preparationId) :
    preparationId ≠ newId "gpm" st.issued := by
  obtain ⟨n, hn, rfl⟩ := h
  exact fun heq ↦ hn.ne (newId_injective _ heq)

/-- An advance only draws, -/
theorem Advance.issued_le {st st' : Store} (a : Advance settings st st') :
    st.issued ≤ st'.issued := by
  obtain ⟨rows, hrows⟩ := enqueueAll_eq a.group.groupDid a.now (a.group.groupEventSeq + 1)
    a.notification a.envelopeFor (remoteMembers settings st' a.group.groupDid ++
      departedRows settings st' a.group.groupDid (if a.ctx.profile = .v2 then a.departed else none))
    a.enqueuing
  have hafter := a.issued
  rw [hrows] at hafter
  exact a.enqueuing_issued.trans ((Nat.le_add_right _ _).trans hafter)

/-- and so does every step of the Host, -/
theorem StoreStep.issued_le {st st' : Store} {action : HostAction}
    (h : StoreStep settings st action st') : st.issued ≤ st'.issued := by
  cases h with
  | unchanged => exact le_refl _
  | created _ _ creation => exact creation.issued
  | advanced _ _ advance => exact advance.issued_le
  | attempted => exact le_refl _
  | elsewhere hst => exact hst.issued

/-- and of the server. -/
theorem ServerStep.issued_le (h : ServerStep digest settings w a w') :
    w.host.store.issued ≤ w'.host.store.issued := by
  cases h with
  | host hstep _ => exact hstep.storeStep.issued_le
  | prepareBegin h =>
    obtain ⟨_, _, -, -, -, ⟨-, rfl⟩ | ⟨record, -, -, -, -, -, rfl⟩⟩ := prepareBegin_eq_ok h
    · exact le_refl _
    · exact Nat.le_succ _
  | prepareFinish _ h =>
    obtain ⟨_, _, _, -, -, -, -, -, -, -, rfl⟩ := prepareFinish_eq_ok h
    exact le_refl _
  | applyBegin => exact le_refl _
  | applyFinish _ h =>
    obtain ⟨_, _, _, -, -, -, -, -, -, hcut⟩ := applyFinish_eq_ok h
    exact hcut.issued.ge
  | cancel h =>
    obtain ⟨_, -, -, -, rfl⟩ := cancelGroup_eq_ok h
    exact le_refl _

/-- The invariant holds where nothing has been hosted. -/
theorem CutoverInv.untouched (h : w.Untouched) : CutoverInv w where
  phases groupDid := by
    refine ⟨.absent, ?_⟩
    rw [Store.phase?, Store.hostedGroup?, Store.migration?, h.hostedGroups,
      h.groupProtocolMigrations]
    rfl
  drew hr := by
    rw [Store.migration?, h.groupProtocolMigrations] at hr
    cases hr
  tasks_drew htask := by
    rw [h.tasks] at htask
    cases htask
  tasks_plan htask := by
    rw [h.tasks] at htask
    cases htask

/-- Only the first half of an apply adds an apply to the commands under way. -/
theorem ServerStep.mem_tasks (h : ServerStep digest settings w a w') {groupDid expected : String}
    {record : GroupProtocolMigration} (htask : .apply groupDid expected record ∈ w'.tasks) :
    .apply groupDid expected record ∈ w.tasks ∨
      (w.host.store.migration? groupDid = some record ∧ record.planDigest = expected ∧
        w'.host.store = w.host.store) := by
  cases h with
  | prepareBegin =>
    rcases List.mem_append.mp htask with htask | htask
    · exact .inl htask
    · obtain ⟨_, -, heq⟩ := List.mem_map.mp htask
      cases heq
  | applyBegin h =>
    rcases List.mem_append.mp htask with htask | htask
    · exact .inl htask
    · obtain ⟨seen, hseen, heq⟩ := List.mem_map.mp htask
      cases heq
      obtain ⟨hmigration, hplan, -⟩ := applyBegin_eq_ok h (Option.mem_toList.mp hseen)
      exact .inr ⟨hmigration, hplan, rfl⟩
  | _ => exact .inl htask

/-- **The step lemma.** -/
theorem CutoverInv.step (hi : CutoverInv w) (h : ServerStep digest settings w a w') :
    CutoverInv w' where
  phases groupDid := by
    obtain ⟨phase, hphase⟩ := hi.phases groupDid
    obtain ⟨phase', hphase', -⟩ := (h.cutoverStep hi groupDid).phaseStep hphase
    exact ⟨phase', hphase'⟩
  drew {groupDid r} hr := by
    obtain ⟨r₀, hr₀, hid, -⟩ | ⟨hid, hissued⟩ := (h.cutoverStep hi groupDid).record hr
    · exact hid ▸ (hi.drew hr₀).mono h.issued_le
    · exact ⟨_, hissued, hid⟩
  tasks_drew htask := by
    obtain htask | ⟨hrecord, -, -⟩ := h.mem_tasks htask
    · exact (hi.tasks_drew htask).mono h.issued_le
    · exact (hi.drew hrecord).mono h.issued_le
  tasks_plan {groupDid expected record} htask r hr hid := by
    obtain htask | ⟨hrecord, hplan, hsame⟩ := h.mem_tasks htask
    · obtain ⟨r₀, hr₀, hid₀, hplan₀⟩ | ⟨hnew, -⟩ := (h.cutoverStep hi groupDid).record hr
      · exact hplan₀.trans (hi.tasks_plan htask r₀ hr₀ (hid₀.symm.trans hid))
      · exact absurd (hid.symm.trans hnew) (hi.tasks_drew htask).ne_next
    · rw [hsame] at hr
      obtain rfl := Option.some.inj (hr.symm.trans hrecord)
      exact hplan

/-- **The run lemma.** -/
theorem CutoverInv.reaches (h₀ : w₀.Untouched) (h : Reaches (ServerStep digest settings) w₀ w) :
    CutoverInv w :=
  h.invariant (.untouched h₀) fun hi hs ↦ hi.step hs

/-- **The server refines the machine**: in every reachable state head and record of every group
stand for a phase, and every step takes it to the next as the machine allows. -/
theorem server_refines_phases (h₀ : w₀.Untouched)
    (h : Reaches (ServerStep digest settings) w₀ w) (groupDid : String) :
    ∃ phase, w.host.store.phase? groupDid = some phase ∧
      ∀ a w', ServerStep digest settings w a w' → ∃ phase',
        w'.host.store.phase? groupDid = some phase' ∧ PhaseStep groupDid phase a phase' := by
  have hi := CutoverInv.reaches h₀ h
  obtain ⟨phase, hphase⟩ := hi.phases groupDid
  exact ⟨phase, hphase, fun a w' hs ↦ (hs.cutoverStep hi groupDid).phaseStep hphase⟩

/-- Whatever fence stood for an id drawn before, it stood all along, with the same plan behind
it. -/
def FenceKept (groupDid : String) (w w' : ServerWorld) : Prop :=
  w.host.store.issued ≤ w'.host.store.issued ∧
  ∀ preparationId backedUp, w.host.store.Drew preparationId →
    w'.host.store.phase? groupDid = some (.fenced preparationId backedUp) →
    (∃ before, w.host.store.phase? groupDid = some (.fenced preparationId before)) ∧
      SamePlan groupDid w.host.store w'.host.store

/-- First the one, then the other. -/
theorem FenceKept.trans {groupDid : String} {w'' : ServerWorld} (h : FenceKept groupDid w w')
    (h' : FenceKept groupDid w' w'') : FenceKept groupDid w w'' := by
  refine ⟨h.1.trans h'.1, fun preparationId backedUp hdrew hfenced ↦ ?_⟩
  obtain ⟨⟨before, hbefore⟩, hplan'⟩ := h'.2 _ _ (hdrew.mono h.1) hfenced
  obtain ⟨hfirst, hplan⟩ := h.2 _ _ hdrew hbefore
  exact ⟨hfirst, hplan.trans hplan'⟩

/-- Over a whole run. -/
theorem FenceKept.reaches {groupDid : String} (hi : CutoverInv w)
    (h : Reaches (ServerStep digest settings) w w') : FenceKept groupDid w w' := by
  refine ReachesWith.related h hi (fun {b b' l} hi _ hs ↦ ⟨hi.step hs, hs.issued_le, ?_⟩)
    (fun b ↦ ⟨le_refl _, fun _ backedUp _ hfenced ↦ ⟨⟨backedUp, hfenced⟩, .refl _ _⟩⟩)
    FenceKept.trans
  intro preparationId backedUp hdrew hfenced
  obtain ⟨phase, hphase⟩ := hi.phases groupDid
  obtain ⟨before, hbefore, hplan, -⟩ | ⟨hnew, -⟩ :=
    (hs.cutoverStep hi groupDid).fenced hphase hfenced
  · exact ⟨⟨before, hbefore⟩, hplan⟩
  · exact absurd hnew hdrew.ne_next

/-- One fence at two moments stood all the time between, with one plan behind it. -/
theorem CutoverInv.samePlan (hi : CutoverInv w)
    (hrun : Reaches (ServerStep digest settings) w w') {groupDid preparationId : String}
    {x y : Bool} (hx : w.host.store.phase? groupDid = some (.fenced preparationId x))
    (hy : w'.host.store.phase? groupDid = some (.fenced preparationId y)) :
    SamePlan groupDid w.host.store w'.host.store := by
  rw [Store.phase?] at hx
  obtain ⟨-, r, -, hr, -, rfl, -⟩ := phaseOf_eq_fenced hx
  exact ((FenceKept.reaches hi hrun).2 _ _ (hi.drew hr) hy).2

/-- **Nothing changes behind a fence.** Between two moments at which a group is fenced for one
preparation, whatever ran, its head, document, roster, log, messages and delivery inventory stay as
they are, and an inspection finds the same. -/
theorem plan_frozen_behind_fence (h₀ : w₀.Untouched)
    (hbefore : Reaches (ServerStep digest settings) w₀ w)
    (hrun : Reaches (ServerStep digest settings) w w') {groupDid preparationId : String}
    {x y : Bool} (hx : w.host.store.phase? groupDid = some (.fenced preparationId x))
    (hy : w'.host.store.phase? groupDid = some (.fenced preparationId y)) :
    SamePlan groupDid w.host.store w'.host.store ∧
      ∀ out, inspectGroup settings out w'.host.store groupDid =
        inspectGroup settings out w.host.store groupDid := by
  have hplan := (CutoverInv.reaches h₀ hbefore).samePlan hrun hx hy
  exact ⟨hplan, hplan.inspectGroup_eq settings⟩

/-- **A group is migrated as it was inspected.** Behind a group of version 2 that was migrated there
is a preparation, begun on a plan with the digest the operator named, a backup made after that, and
an apply, with everything delivered, that found the same anchor; and nothing of the group changed in
between. After the apply the group stays migrated. -/
theorem migrated_as_inspected (h₀ : w₀.Untouched)
    (h : Reaches (ServerStep digest settings) w₀ w) {groupDid : String}
    (hmigrated : w.host.store.phase? groupDid = some .migrated) :
    ∃ p expected q k l c d out group anchor,
      Reaches (ServerStep digest settings) w₀ p ∧
      ServerStep digest settings p (.prepareBegin groupDid expected) q ∧
      Reaches (ServerStep digest settings) q k ∧
      ServerStep digest settings k (.prepareFinish groupDid) l ∧
      Reaches (ServerStep digest settings) l c ∧
      ServerStep digest settings c (.applyFinish groupDid) d ∧
      Reaches (ServerStep digest settings) d w ∧
      inspectGroup settings out p.host.store groupDid = .ok (group, anchor) ∧
      digest anchor = expected ∧
      inspectGroup settings out c.host.store groupDid =
        .ok ({ group with protocolState := .quiescing }, anchor) ∧
      SamePlan groupDid q.host.store c.host.store ∧
      (∀ r ∈ c.host.store.groupDeliveryOutbox, r.groupDid = groupDid → r.status = .delivered) ∧
      ∀ w', Reaches (ServerStep digest settings) w w' →
        w'.host.store.phase? groupDid = some .migrated := by
  have hi₀ := CutoverInv.untouched h₀
  have habsent : w₀.host.store.phase? groupDid = some .absent := by
    rw [Store.phase?, Store.hostedGroup?, Store.migration?, h₀.hostedGroups,
      h₀.groupProtocolMigrations]
    rfl
  -- The apply: the step that made the group migrated.
  obtain ⟨c, a, d, hc, -, happly, hd, hnot, hdone⟩ :=
    h.exists_step (P := fun w ↦ w.host.store.phase? groupDid = some .migrated)
      (by simp [habsent]) hmigrated
  have hic := CutoverInv.reaches h₀ hc
  obtain ⟨phase, hphase⟩ := hic.phases groupDid
  obtain hbefore | ⟨preparationId, rfl, hfenced, hdelivered⟩ :=
    (happly.cutoverStep hic groupDid).migrated hphase hdone
  · exact absurd hbefore hnot
  -- Its preparation: the step that fenced the group for that id.
  obtain ⟨p, a, q, hp, -, hprepare, hq, hnot', backedUp, hdone'⟩ :=
    hc.exists_step (P := fun w ↦ ∃ backedUp,
      w.host.store.phase? groupDid = some (.fenced preparationId backedUp))
      (by simp [habsent]) ⟨true, hfenced⟩
  have hip := CutoverInv.reaches h₀ hp
  obtain ⟨phase, hphase⟩ := hip.phases groupDid
  obtain ⟨before, hbefore, -⟩ | ⟨-, rfl, expected, out, group, anchor, rfl, hinspect, hdigest,
    hinspect'⟩ := (hprepare.cutoverStep hip groupDid).fenced hphase hdone'
  · exact absurd ⟨before, hbefore⟩ hnot'
  have hiq := hip.step hprepare
  -- The backup: the step that recorded it.
  obtain ⟨k, a, l, hk, -, hbackup, hl, hnot'', hdone''⟩ :=
    hq.exists_step (P := fun w ↦
      w.host.store.phase? groupDid = some (.fenced preparationId true)) (by simp [hdone']) hfenced
  have hik := hk.invariant hiq fun hi _ hs ↦ hi.step hs
  obtain ⟨phase, hphase⟩ := hik.phases groupDid
  obtain ⟨before, hbefore, -, rfl | rfl⟩ | ⟨-, hfalse, -⟩ :=
    (hbackup.cutoverStep hik groupDid).fenced hphase hdone''
  · exact absurd hbefore hnot''
  · have hplan := hiq.samePlan hq hdone' hfenced
    have hfound := (hplan.inspectGroup_eq settings out).trans hinspect'
    refine ⟨p, expected, q, k, l, c, d, out, group, anchor, hp, hprepare, hk, hbackup, hl,
      happly, hd, hinspect, hdigest, hfound, hplan, hdelivered, fun w' hw' ↦ ?_⟩
    have hstays := hw'.invariant (I := fun w ↦ CutoverInv w ∧
      w.host.store.phase? groupDid = some .migrated) ⟨CutoverInv.reaches h₀ h, hmigrated⟩
      fun {b b' e} hi hs ↦ by
        obtain ⟨phase', hphase', hmove⟩ := (hs.cutoverStep hi.1 groupDid).phaseStep hi.2
        cases hmove
        exact ⟨hi.1.step hs, hphase'⟩
    exact hstays.2
  · cases hfalse

end Runs

/-! ### A migration -/

/-- Groups are created with a document that binds them to their service. -/
def Outside.migratable : Outside :=
  { Outside.honest with
    generateGroupIdentity := fun host groupId _ serviceDid profile ↦
      let did := "did:wba:" ++ host ++ ":groups:" ++ groupId
      if didBelongsToDomain did host then
        .ok (did, [("id", .str did), ("service", .arr [.obj [("type", .str "ANPMessageService"),
          ("serviceDid", .str serviceDid), ("profiles", .arr [.str profile.text])]])])
      else .error (.invalidParams "did_domain_invalid")
    generateGroupIdentity_domain := by
      intro h g e s p did doc hok
      dsimp only at hok
      split at hok
      · rename_i hdomain
        obtain ⟨rfl, -⟩ := Prod.mk.inj (Except.ok.inj hok)
        exact hdomain
      · cases hok }

/-- Alice creates such a group, of version 1. -/
def migratableCreate : HostedCall :=
  { version1Create with
    req := { surface := .localRpc, credentials := .bearer alice, outside := .migratable } }

/-- Keys and backups are in order, and every Home has version 2. -/
def MigrationOutside.ready : MigrationOutside where
  now := "2026-01-01T00:00:00Z"
  groupKey _ _ _ := .ok "fingerprint"
  signDidDocument := .ok
  verifyBackup _ := .ok ()
  requirePeerV2 _ := .ok ()

/-- The value of a call that succeeds. -/
def okOr {α : Type} (x : Result α) (otherwise : α) : α :=
  match x with
  | .ok a => a
  | .error _ => otherwise

/-- What succeeds has its value, -/
theorem eq_ok_okOr {α : Type} {x : Result α} {otherwise : α} (h : x.isOk = true) :
    x = .ok (okOr x otherwise) := by
  cases x with
  | error e => cases h
  | ok a => rfl

/-- with both of its parts, -/
theorem eq_ok_of_fst {α β : Type} {x : Result (α × β)} {otherwise : α × β} {a : α}
    (h : x.isOk = true) (hfst : (okOr x otherwise).1 = a) : x = .ok (a, (okOr x otherwise).2) := by
  cases x with
  | error e => cases h
  | ok p =>
    subst hfst
    rfl

/-- or under `some`. -/
theorem eq_ok_some {α : Type} {x : Result (Option α)} {a : α}
    (h : (okOr x none).isSome = true) : x = .ok (some ((okOr x none).getD a)) := by
  cases x with
  | error e => cases h
  | ok o =>
    cases o with
    | none => cases h
    | some a => rfl

/-- The digest of the plan. -/
def samplePlan (_ : MigrationAnchor) : String := "plan"

namespace ServerWorld

/-- The group is there, -/
def hosting : ServerWorld := empty.after fun _ ↦ migratableCreate

/-- Its id. -/
def samplePreparation : String := newId "gpm" hosting.host.store.issued

/-- its preparation has begun, -/
def fencedOff : ServerWorld :=
  { hosting.withStore (okOr (prepareBegin samplePlan .sample .ready hosting.host.store sampleGroup
      "plan") (none, {})).2 with
    tasks := hosting.tasks ++ [.prepare sampleGroup "plan" samplePreparation] }

/-- is complete, -/
def backedUp : ServerWorld :=
  fencedOff.withStore
    (okOr (prepareFinish samplePlan .sample .ready fencedOff.host.store sampleGroup
    "plan" samplePreparation ("manifest.json", "digest")) {})

/-- an apply has seen it, -/
def seenRecord : GroupProtocolMigration :=
  (okOr (applyBegin .sample .ready backedUp.host.store sampleGroup "plan") none).getD
    { groupDid := sampleGroup, planDigest := "", state := .cancelled, preparationId := "",
      documentBefore := [], backup := none, preparedAt := "", appliedAt := none }

/-- The server with the apply under way. -/
def applying : ServerWorld :=
  { backedUp with tasks := backedUp.tasks ++ [.apply sampleGroup "plan" seenRecord] }

/-- and has gone through. -/
def cutOver : ServerWorld :=
  applying.withStore (okOr (applyFinish samplePlan .sample .ready applying.host.store sampleGroup
    "plan" seenRecord) {})

/-- The empty server has hosted nothing. -/
theorem empty_untouched : ServerWorld.empty.Untouched := ⟨rfl, rfl, rfl⟩

/-- A creation and the beginning of a preparation lead to the fence, -/
theorem fencedOff_reached : Reaches (ServerStep samplePlan .sample) .empty .fencedOff := by
  have hcreate : ServerStep samplePlan .sample .empty (.host (.call migratableCreate)) .hosting :=
    .after _ _ (fun _ ↦ migratableCreate) List.prefix_rfl List.prefix_rfl
  have hbegun : prepareBegin samplePlan .sample .ready hosting.host.store sampleGroup "plan" =
      .ok (some samplePreparation, (okOr (prepareBegin samplePlan .sample .ready hosting.host.store
        sampleGroup "plan") (none, {})).2) := eq_ok_of_fst (by decide +kernel) (by decide +kernel)
  have hprepare : ServerStep samplePlan .sample .hosting (.prepareBegin sampleGroup "plan")
      .fencedOff := .prepareBegin hbegun
  exact ((Reaches.refl _).tail hcreate).tail hprepare

/-- the second half of the preparation to its backup, -/
theorem backedUp_reached : Reaches (ServerStep samplePlan .sample) .fencedOff .backedUp := by
  have hbackedUp : prepareFinish samplePlan .sample .ready fencedOff.host.store sampleGroup "plan"
      samplePreparation ("manifest.json", "digest") = .ok (okOr (prepareFinish samplePlan .sample
        .ready fencedOff.host.store sampleGroup "plan" samplePreparation
          ("manifest.json", "digest"))
        {}) := eq_ok_okOr (by decide +kernel)
  exact (Reaches.refl _).tail (.prepareFinish List.mem_cons_self hbackedUp)

/-- and both halves of an apply to the cutover. -/
theorem cutOver_reached : Reaches (ServerStep samplePlan .sample) .backedUp .cutOver := by
  have hseen : applyBegin .sample .ready backedUp.host.store sampleGroup "plan" =
      .ok (some seenRecord) := eq_ok_some (by decide +kernel)
  have happlying : ServerStep samplePlan .sample .backedUp (.applyBegin sampleGroup "plan")
      .applying := .applyBegin hseen
  have happlied : applyFinish samplePlan .sample .ready applying.host.store sampleGroup "plan"
      seenRecord = .ok (okOr (applyFinish samplePlan .sample .ready applying.host.store sampleGroup
        "plan" seenRecord) {}) := eq_ok_okOr (by decide +kernel)
  exact ((Reaches.refl _).tail happlying).tail
    (.applyFinish (List.mem_append_right _ List.mem_cons_self) happlied)

end ServerWorld

/-- The fenced group is in a phase, and so it is after any step. -/
theorem server_refines_phases_sample :
    ∃ phase, ServerWorld.fencedOff.host.store.phase? sampleGroup = some phase ∧
      ∀ a w', ServerStep samplePlan .sample .fencedOff a w' → ∃ phase',
        w'.host.store.phase? sampleGroup = some phase' ∧ PhaseStep sampleGroup phase a phase' :=
  server_refines_phases ServerWorld.empty_untouched ServerWorld.fencedOff_reached sampleGroup

/-- Between fence and backup nothing changes that was inspected. -/
theorem plan_frozen_behind_fence_sample :
    SamePlan sampleGroup ServerWorld.fencedOff.host.store ServerWorld.backedUp.host.store ∧
      ∀ out, inspectGroup .sample out ServerWorld.backedUp.host.store sampleGroup =
        inspectGroup .sample out ServerWorld.fencedOff.host.store sampleGroup := by
  have hbefore : ServerWorld.fencedOff.host.store.phase? sampleGroup =
      some (.fenced ServerWorld.samplePreparation false) := by decide +kernel
  have hafter : ServerWorld.backedUp.host.store.phase? sampleGroup =
      some (.fenced ServerWorld.samplePreparation true) := by decide +kernel
  exact plan_frozen_behind_fence ServerWorld.empty_untouched ServerWorld.fencedOff_reached
    ServerWorld.backedUp_reached hbefore hafter

/-- Behind the cutover there are the preparation and its inspection. -/
theorem migrated_as_inspected_sample :
    ∃ p expected q k l c d out group anchor,
      Reaches (ServerStep samplePlan .sample) .empty p ∧
      ServerStep samplePlan .sample p (.prepareBegin sampleGroup expected) q ∧
      Reaches (ServerStep samplePlan .sample) q k ∧
      ServerStep samplePlan .sample k (.prepareFinish sampleGroup) l ∧
      Reaches (ServerStep samplePlan .sample) l c ∧
      ServerStep samplePlan .sample c (.applyFinish sampleGroup) d ∧
      Reaches (ServerStep samplePlan .sample) d .cutOver ∧
      inspectGroup .sample out p.host.store sampleGroup = .ok (group, anchor) ∧
      samplePlan anchor = expected ∧
      inspectGroup .sample out c.host.store sampleGroup =
        .ok ({ group with protocolState := .quiescing }, anchor) ∧
      SamePlan sampleGroup q.host.store c.host.store ∧
      (∀ r ∈ c.host.store.groupDeliveryOutbox, r.groupDid = sampleGroup → r.status = .delivered) ∧
      ∀ w', Reaches (ServerStep samplePlan .sample) .cutOver w' →
        w'.host.store.phase? sampleGroup = some .migrated := by
  have hrun := (ServerWorld.fencedOff_reached.trans ServerWorld.backedUp_reached).trans
    ServerWorld.cutOver_reached
  have hmigrated : ServerWorld.cutOver.host.store.phase? sampleGroup = some .migrated := by
    decide +kernel
  exact migrated_as_inspected ServerWorld.empty_untouched hrun hmigrated

end Awiki
