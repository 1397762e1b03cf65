import AwikiOpenServer.Lib.Runs
import AwikiOpenServer.Messaging.Groups.Routing

/-!
# The version pair of a projection

Four writers advance the pair `(group_state_version, group_event_seq)` of a projected group, each
with its own guard: a state change compares the sequence number, a message takes the maximum of each
component, a forwarded answer compares the sequence number, a roster read compares both but
**tolerates a snapshot without a sequence number** and then keeps the old one.

A correct Host is a monotone function from sequence numbers to versions. As long as every pair in
the projection is a point of that function, a guard on the sequence number protects the version as
well, and nothing ever decreases (`projection_versions_monotone`). A snapshot without a sequence
number and with a newer version takes the projection off the function, and the next notification
then lowers the version (`snapshot_without_seq_lowers_version`).

## A Home as a transition system

`HomeAction` lists what happens at a Home for remote groups: the two notifications, a forwarded
command with the answer of its Host, and a roster read with its snapshot. Each is one transaction; a
refused one changes nothing. What comes from a Host is an argument of the action, and `Authentic`
asks of it only that its version pair is one the group has had (`HostHistory.Pair`), not that it is
new, in order, or about the member it is sent to.

## What a step does to the views

`ViewsStep` says it for the table as a whole: rows stay, or one is written with a pair of the
history that is not behind the row it replaces. It is proved for each of the four writers from a
lemma that says what the writer does (`applyStateChanged_views`, `applyIncoming_views`,
`refreshRemoteMemberProjection_views`, `endView_viewsStep`), and those lemmas are used again by
other modules. A rebind moves rows to another owner, and is allowed for by comparing rows with the
same key.

The condition is one on a snapshot and the row it finds (`SnapshotsCarrySeq`): where it brings no
sequence number, its version is not newer than the row's.
-/

namespace Awiki

open Py Runs

/-! ### The Home as a transition system -/

/-- What a Home does with a remote group. The last two carry the answer of the Host. -/
inductive HomeAction where
  | stateChanged (req : Request) (params : Obj)
  | incoming (req : Request) (params : Obj)
  | refresh (req : Request) (groupDid : String) (result : Obj)
  | forward (req : Request) (params : Obj) (method : GroupMethod) (result : Obj)

/-- One action against the store. -/
def homeCall (settings : Settings) (st : Store) : HomeAction → Result Store
  | .stateChanged req params => (groupStateChanged settings st req params).map Prod.snd
  | .incoming req params => (groupIncoming settings st req params).map Prod.snd
  | .refresh req groupDid result => (refreshRemoteGroupMembers st req groupDid result).map Prod.snd
  | .forward req params method result =>
    (forwardGroupCommand settings st req params method result).map Prod.snd

/-- The store after an action: an error rolls back. -/
def afterHome (settings : Settings) (st : Store) (a : HomeAction) : Store :=
  match homeCall settings st a with
  | .ok st' => st'
  | .error _ => st

/-- **One step of a Home.** -/
def HomeStep (settings : Settings) (st : Store) (a : HomeAction) (st' : Store) : Prop :=
  st' = afterHome settings st a

/-! ### A correct Host -/

/-- The history of the groups of a correct Host: the state version after each event. -/
structure HostHistory where
  version : String → ℕ → ℕ
  version_mono : ∀ groupDid, Monotone (version groupDid)

/-- The version pair the group had right after one of its events. -/
def HostHistory.Pair (H : HostHistory) (groupDid : String) (stateVersion eventSeq : ℤ) : Prop :=
  ∃ n : ℕ, eventSeq = n ∧ stateVersion = H.version groupDid n

/-- A later pair has no older version. -/
theorem HostHistory.Pair.le {H : HostHistory} {groupDid : String} {v s v' s' : ℤ}
    (h : H.Pair groupDid v s) (h' : H.Pair groupDid v' s') (hs : s ≤ s') : v ≤ v' := by
  obtain ⟨n, rfl, rfl⟩ := h
  obtain ⟨n', rfl, rfl⟩ := h'
  have hle : n ≤ n' := by exact_mod_cast hs
  exact_mod_cast H.version_mono groupDid hle

/-- **The Host answers and notifies truthfully**: the pair in a notification, in a snapshot and in
the answer to a command is one of its history. A snapshot may leave the sequence number out. -/
def HostHistory.Authentic (H : HostHistory) : HomeAction → Prop
  | .stateChanged _ params | .incoming _ params =>
    ∀ body groupDid version seq v s, params.get "_anp_body" = .obj body →
      Obj.get body "group_did" = .str groupDid →
      Obj.get body "group_state_version" = .str version → ofText? version = some v →
      Obj.get body "group_event_seq" = .str seq → ofText? seq = some s → H.Pair groupDid v s
  | .refresh _ groupDid result =>
    ∀ v, intOf (result.get "group_state_version") = .ok v →
      (∃ n, v = H.version groupDid n) ∧
        ∀ s, intOf (result.get "group_event_seq") = .ok s → H.Pair groupDid v s
  | .forward _ params _ result =>
    ∀ metaObj target groupDid receipt v s, params.get "_anp_meta" = .obj metaObj →
      Obj.get metaObj "target" = .obj target → Obj.get target "did" = .str groupDid →
      result.get "group_receipt" = .obj receipt → answerPair result receipt = .ok (v, s) →
      H.Pair groupDid v s

/-- **The condition**: a snapshot without a sequence number does not bring a newer version to an
active projection. -/
def SnapshotsCarrySeq (st : Store) : HomeAction → Prop
  | .refresh req groupDid result =>
    result.lookup "group_event_seq" = none → ∀ owner view v,
      currentDid req true = .ok (some owner) → st.groupView? owner groupDid = some view →
      view.membershipStatus = .active → intOf (result.get "group_state_version") = .ok v →
      v ≤ view.groupStateVersion
  | _ => True

/-! ### Tables of views -/

/-- Every projected pair is one of the Host's history. -/
structure ViewsInv (H : HostHistory) (views : List GroupView) : Prop where
  keyed : Table.Keyed GroupView.key views
  pair : ∀ v ∈ views, H.Pair v.groupDid v.groupStateVersion v.groupEventSeq

/-- What a step may do: rows stay, or are written with a pair of the history that is not earlier
than what stood at their key. -/
structure ViewsStep (H : HostHistory) (views views' : List GroupView) : Prop where
  keyed : Table.Keyed GroupView.key views'
  rows : ∀ r' ∈ views', r' ∈ views ∨
    H.Pair r'.groupDid r'.groupStateVersion r'.groupEventSeq ∧
      ∀ r ∈ views, r.key = r'.key → r.groupEventSeq ≤ r'.groupEventSeq

/-- No row of `views'` is behind the row of `views` with the same owner and group. -/
def NoDecrease (views views' : List GroupView) : Prop :=
  ∀ r ∈ views, ∀ r' ∈ views', r.key = r'.key →
    r.groupStateVersion ≤ r'.groupStateVersion ∧ r.groupEventSeq ≤ r'.groupEventSeq

section Views

variable {H : HostHistory} {views views' : List GroupView}

/-- Nothing is written. -/
theorem ViewsInv.same (hi : ViewsInv H views) : ViewsStep H views views :=
  ⟨hi.keyed, fun _ hr ↦ .inl hr⟩

/-- A step keeps the pairs in the history, -/
theorem ViewsStep.inv (h : ViewsStep H views views') (hi : ViewsInv H views) :
    ViewsInv H views' := by
  refine ⟨h.keyed, fun r' hr' ↦ ?_⟩
  rcases h.rows r' hr' with hold | ⟨hpair, -⟩
  · exact hi.pair r' hold
  · exact hpair

/-- and lets none decrease. -/
theorem ViewsStep.noDecrease (h : ViewsStep H views views') (hi : ViewsInv H views) :
    NoDecrease views views' := by
  intro r hr r' hr' hkey
  rcases h.rows r' hr' with hold | ⟨hpair, hprior⟩
  · obtain rfl := hi.keyed.eq_of_key_eq hr hold hkey
    exact ⟨le_refl _, le_refl _⟩
  · have hseq := hprior r hr hkey
    have hgroup : r.groupDid = r'.groupDid := congrArg Prod.snd hkey
    have hpair₀ := hi.pair r hr
    rw [hgroup] at hpair₀
    exact ⟨hpair₀.le hpair hseq, hseq⟩

/-- A row written by `ON CONFLICT DO UPDATE`. -/
theorem ViewsInv.upsert (hi : ViewsInv H views) {view : GroupView}
    (hpair : H.Pair view.groupDid view.groupStateVersion view.groupEventSeq)
    (hprior : ∀ r ∈ views, r.key = view.key → r.groupEventSeq ≤ view.groupEventSeq) :
    ViewsStep H views (Table.upsert GroupView.key view (fun _ ↦ view) views) := by
  refine ⟨hi.keyed.upsert fun _ _ ↦ rfl, fun r' hr' ↦ ?_⟩
  unfold Table.upsert at hr'
  split at hr'
  · obtain ⟨r, hr, rfl⟩ := Table.mem_updateWhere.mp hr'
    split
    · exact .inr ⟨hpair, hprior⟩
    · exact .inl hr
  · rcases List.mem_append.mp hr' with hr' | hr'
    · exact .inl hr'
    · obtain rfl := List.mem_singleton.mp hr'
      exact .inr ⟨hpair, hprior⟩

/-- A row rewritten by an update at its key. -/
theorem ViewsInv.updateAt (hi : ViewsInv H views) {k : String × String} {f : GroupView → GroupView}
    (hkey : ∀ r, (f r).key = r.key)
    (hf : ∀ r ∈ views, r.key = k → H.Pair r.groupDid (f r).groupStateVersion (f r).groupEventSeq ∧
      r.groupEventSeq ≤ (f r).groupEventSeq) :
    ViewsStep H views (Table.updateWhere (fun r ↦ decide (r.key = k)) f views) := by
  refine ⟨hi.keyed.updateWhere fun r _ ↦ hkey r, fun r' hr' ↦ ?_⟩
  obtain ⟨r, hr, rfl⟩ := Table.mem_updateWhere.mp hr'
  by_cases hk : r.key = k
  · have hgroup : (f r).groupDid = r.groupDid := congrArg Prod.snd (hkey r)
    obtain ⟨hpair, hle⟩ := hf r hr hk
    simp only [hk, decide_true, if_true]
    refine .inr ⟨hgroup.symm ▸ hpair, fun r₀ hr₀ hkey₀ ↦ ?_⟩
    obtain rfl := hi.keyed.eq_of_key_eq hr₀ hr (hkey₀.trans (hkey r))
    exact hle
  · simp only [hk, decide_false, Bool.false_eq_true, if_false]
    exact .inl hr

end Views

/-! ### Notifications -/

section Notifications

variable {settings : Settings} {st st' : Store} {req : Request} {params : Obj}

/-- The group and the body of a checked notification are those of its envelope. -/
theorem notificationContext_eq_ok {method : GroupMethod} {n : Notification}
    (h : notificationContext settings st req params method = .ok n) :
    params.get "_anp_body" = .obj n.body ∧ n.body.get "group_did" = .str n.groupDid ∧
      n.groupDid ≠ "" := by
  unfold notificationContext at h
  obtain ⟨metaObj, -, h⟩ := bind_eq_ok.mp h
  obtain ⟨body, hbody, h⟩ := bind_eq_ok.mp h
  obtain ⟨_, -, h⟩ := bind_eq_ok.mp h
  obtain ⟨profile, -, h⟩ := bind_eq_ok.mp h
  obtain ⟨_, -, h⟩ := bind_eq_ok.mp h
  obtain ⟨_, -, h⟩ := bind_eq_ok.mp h
  obtain ⟨target, -, h⟩ := bind_eq_ok.mp h
  obtain ⟨_, -, h⟩ := bind_eq_ok.mp h
  obtain ⟨targetDid, -, h⟩ := bind_eq_ok.mp h
  obtain ⟨groupDid, hgroup, h⟩ := bind_eq_ok.mp h
  obtain ⟨_, -, h⟩ := bind_eq_ok.mp h
  obtain ⟨peer, -, h⟩ := bind_eq_ok.mp h
  obtain ⟨service, -, h⟩ := bind_eq_ok.mp h
  obtain ⟨declared, -, h⟩ := bind_eq_ok.mp h
  obtain ⟨_, -, h⟩ := bind_eq_ok.mp h
  obtain ⟨_, -, h⟩ := bind_eq_ok.mp h
  rw [pure_eq_ok] at h
  subst h
  rw [orRaise_eq_ok, Json.obj?_eq_some] at hbody
  exact ⟨hbody, requireNonEmpty_eq_ok hgroup⟩

/-- A version is a numeral. -/
theorem requireVersion_eq_ok {v : Json} {error : String} {n : ℤ}
    (h : requireVersion v error = .ok n) : ∃ text, v = .str text ∧ ofText? text = some n := by
  unfold requireVersion at h
  obtain ⟨text, htext, h⟩ := bind_eq_ok.mp h
  exact ⟨text, (requireNonEmpty_eq_ok htext).1, orRaise_eq_ok.mp h⟩

/-- The verified receipt and pair are those written in the body. -/
theorem verifiedReceipt_eq_ok {body receipt : Obj} {method : GroupMethod} {v s : ℤ}
    (h : verifiedReceipt st req body method = .ok (receipt, v, s)) :
    body.get "group_receipt" = .obj receipt ∧
      (∃ text, body.get "group_state_version" = .str text ∧ ofText? text = some v) ∧
      ∃ text, body.get "group_event_seq" = .str text ∧ ofText? text = some s := by
  unfold verifiedReceipt at h
  obtain ⟨receipt', hreceipt, h⟩ := bind_eq_ok.mp h
  obtain ⟨groupDid, -, h⟩ := bind_eq_ok.mp h
  obtain ⟨_, -, h⟩ := bind_eq_ok.mp h
  obtain ⟨stateVersion, hversion, h⟩ := bind_eq_ok.mp h
  obtain ⟨eventSeq, hseq, h⟩ := bind_eq_ok.mp h
  obtain ⟨_, -, h⟩ := bind_eq_ok.mp h
  obtain ⟨_, -, h⟩ := bind_eq_ok.mp h
  obtain ⟨document, -, h⟩ := bind_eq_ok.mp h
  obtain ⟨_, -, h⟩ := bind_eq_ok.mp h
  rw [pure_eq_ok, Prod.mk.injEq, Prod.mk.injEq] at h
  obtain ⟨rfl, rfl, rfl⟩ := h
  rw [orRaise_eq_ok, Json.obj?_eq_some] at hreceipt
  exact ⟨hreceipt, requireVersion_eq_ok hversion, requireVersion_eq_ok hseq⟩

/-- Recording a notification touches nothing else. -/
theorem recordInbound_eq_some {n : Notification} {method : GroupMethod} {eventSeq : ℤ}
    {st₁ : Store} (h : recordInbound st req n method eventSeq = .ok (some st₁)) :
    ∃ records, st₁ = { st with inboundPeerEvents := records } := by
  unfold recordInbound at h
  obtain ⟨source, -, h⟩ := bind_eq_ok.mp h
  obtain ⟨digest, -, h⟩ := bind_eq_ok.mp h
  split at h
  · obtain ⟨_, -, h⟩ := bind_eq_ok.mp h
    cases h
  · rw [pure_eq_ok, Option.some.injEq] at h
    exact ⟨_, h.symm⟩

/-- An event that rewrites the projection is not behind it. -/
theorem passedEvent_applies {n : Notification} {existing : Option GroupView} {receipt : Obj}
    {v s : ℤ} (h : passedEvent st n existing receipt v s = .ok .applies) {view : GroupView}
    (hview : existing = some view) : view.groupEventSeq ≤ s := by
  subst hview
  unfold passedEvent at h
  dsimp only at h
  by_cases hlt : view.groupEventSeq < s
  · exact hlt.le
  rw [if_neg hlt] at h
  split at h
  · cases h
  split at h
  · split at h
    · cases h
    · rename_i hge
      exact not_lt.mp hge
  · cases h

/-- The roster row of the subject, and nothing else. -/
theorem projectSubject_eq_ok {n : Notification} {eventType changedAt : String}
    (h : projectSubject st req n eventType changedAt = .ok st') :
    ∃ rows, st' = { st with groupMemberViews := rows } := by
  unfold projectSubject at h
  split at h
  · obtain ⟨memberHandle, -, h⟩ := bind_eq_ok.mp h
    obtain ⟨generation, -, h⟩ := bind_eq_ok.mp h
    obtain ⟨role, -, h⟩ := bind_eq_ok.mp h
    obtain ⟨status, -, h⟩ := bind_eq_ok.mp h
    rw [pure_eq_ok] at h
    exact ⟨_, h.symm⟩
  · obtain rfl := Except.ok.inj h
    exact ⟨st.groupMemberViews, rfl⟩

/-- **What a state change does**: at most its record is kept, or the row of its target is rewritten
at its version pair and the target's log gets the body of the notification. -/
theorem applyStateChanged_eq_ok {n : Notification} {receipt result : Obj}
    {eventType changedAt : String} {v s : ℤ}
    (h : applyStateChanged st req n receipt eventType changedAt v s = .ok (result, st')) :
    (∃ records, st' = { st with inboundPeerEvents := records }) ∨
      ∃ records rows peer,
        (∀ old, st.groupView? n.targetDid n.groupDid = some old → old.groupEventSeq ≤ s) ∧
        st' = addSyncEvent
          { st with
            inboundPeerEvents := records
            groupViews := Table.upsert GroupView.key
              (eventView req n (st.groupView? n.targetDid n.groupDid) peer eventType changedAt v s)
              (fun _ ↦ eventView req n (st.groupView? n.targetDid n.groupDid) peer eventType
                changedAt v s) st.groupViews
            groupMemberViews := rows }
          n.targetDid "group.state_changed" n.body req.outside.now := by
  unfold applyStateChanged at h
  obtain ⟨_, -, h⟩ := bind_eq_ok.mp h
  obtain ⟨recorded, hrecorded, h⟩ := bind_eq_ok.mp h
  cases recorded with
  | none =>
    rw [pure_eq_ok, Prod.mk.injEq] at h
    exact .inl ⟨st.inboundPeerEvents, h.2.symm⟩
  | some st₁ =>
    obtain ⟨records, rfl⟩ := recordInbound_eq_some hrecorded
    obtain ⟨passed, hpassed, h⟩ := bind_eq_ok.mp h
    cases passed with
    | superseded =>
      rw [pure_eq_ok, Prod.mk.injEq] at h
      exact .inl ⟨records, h.2.symm⟩
    | overtaken =>
      rw [pure_eq_ok, Prod.mk.injEq] at h
      exact .inl ⟨records, h.2.symm⟩
    | applies =>
      obtain ⟨peer, -, h⟩ := bind_eq_ok.mp h
      obtain ⟨st₂, hsubject, h⟩ := bind_eq_ok.mp h
      obtain ⟨rows, rfl⟩ := projectSubject_eq_ok hsubject
      rw [pure_eq_ok, Prod.mk.injEq] at h
      exact .inr ⟨records, rows, peer, fun old hold ↦ passedEvent_applies hpassed hold, h.2.symm⟩

/-- **What a state change does to the projections**: nothing, or one row at its version pair. -/
theorem applyStateChanged_views {n : Notification} {receipt result : Obj}
    {eventType changedAt : String} {v s : ℤ}
    (h : applyStateChanged st req n receipt eventType changedAt v s = .ok (result, st')) :
    st'.groupViews = st.groupViews ∨
      ∃ view : GroupView, view.key = (n.targetDid, n.groupDid) ∧ view.groupStateVersion = v ∧
        view.groupEventSeq = s ∧
        (∀ old, st.groupView? n.targetDid n.groupDid = some old → old.groupEventSeq ≤ s) ∧
        st'.groupViews = Table.upsert GroupView.key view (fun _ ↦ view) st.groupViews := by
  rcases applyStateChanged_eq_ok h with ⟨records, rfl⟩ | ⟨records, rows, peer, hprior, rfl⟩
  · exact .inl rfl
  · exact .inr ⟨eventView req n (st.groupView? n.targetDid n.groupDid) peer eventType changedAt
      v s, rfl, rfl, rfl, hprior, rfl⟩

/-- **A state change.** -/
theorem groupStateChanged_viewsStep {H : HostHistory} {result : Obj}
    (h : groupStateChanged settings st req params = .ok (result, st'))
    (hauth : H.Authentic (.stateChanged req params)) (hi : ViewsInv H st.groupViews) :
    ViewsStep H st.groupViews st'.groupViews := by
  unfold groupStateChanged at h
  obtain ⟨n, hn, h⟩ := bind_eq_ok.mp h
  obtain ⟨⟨receipt, v, s⟩, hreceipt, h⟩ := bind_eq_ok.mp h
  obtain ⟨eventType, -, h⟩ := bind_eq_ok.mp h
  obtain ⟨changedAt, -, h⟩ := bind_eq_ok.mp h
  obtain ⟨hbody, hgroup, -⟩ := notificationContext_eq_ok hn
  obtain ⟨-, ⟨version, hversion, hv⟩, seq, hseq, hs⟩ := verifiedReceipt_eq_ok hreceipt
  have hpair := hauth n.body n.groupDid version seq v s hbody hgroup hversion hv hseq hs
  rcases applyStateChanged_views h with hsame | ⟨view, hkey, rfl, rfl, hprior, hviews⟩
  · rw [hsame]
    exact hi.same
  · have hdid : view.groupDid = n.groupDid := congrArg Prod.snd hkey
    rw [hviews]
    refine hi.upsert (hdid ▸ hpair) fun r hr hrkey ↦ hprior r ?_
    rw [Store.groupView?, ← hkey, ← hrkey]
    exact hi.keyed.row?_of_mem hr

/-- **What a message does to the projections**: nothing, or the maximum of both pairs in one row. -/
theorem applyIncoming_views {n : Notification} {m : IncomingMessage} {result : Obj}
    (h : applyIncoming st req n m = .ok (result, st')) :
    st'.groupViews = st.groupViews ∨
      st'.groupViews = Table.updateWhere (fun v ↦ decide (v.key = (n.targetDid, n.groupDid)))
        (viewAfterMessage n m) st.groupViews := by
  unfold applyIncoming at h
  obtain ⟨view, -, h⟩ := bind_eq_ok.mp h
  obtain ⟨beforeTerminal, -, h⟩ := bind_eq_ok.mp h
  obtain ⟨_, -, h⟩ := bind_eq_ok.mp h
  obtain ⟨_, -, h⟩ := bind_eq_ok.mp h
  obtain ⟨recorded, hrecorded, h⟩ := bind_eq_ok.mp h
  cases recorded with
  | none =>
    rw [pure_eq_ok, Prod.mk.injEq] at h
    exact .inl (by rw [← h.2])
  | some st₁ =>
    obtain ⟨records, rfl⟩ := recordInbound_eq_some hrecorded
    obtain ⟨_, -, h⟩ := bind_eq_ok.mp h
    obtain ⟨st₂, hinsert, h⟩ := bind_eq_ok.mp h
    unfold insertMessageView at hinsert
    obtain ⟨_, -, hinsert⟩ := bind_eq_ok.mp hinsert
    rw [pure_eq_ok] at hinsert
    subst hinsert
    rw [pure_eq_ok, Prod.mk.injEq] at h
    refine .inr ?_
    rw [← h.2]
    rfl

/-- The pair of a message is the one in its body. -/
theorem verifiedIncoming_eq_ok {n : Notification} {m : IncomingMessage}
    (h : verifiedIncoming st req params n = .ok m) :
    (∃ text, n.body.get "group_state_version" = .str text ∧ ofText? text = some m.stateVersion) ∧
      ∃ text, n.body.get "group_event_seq" = .str text ∧ ofText? text = some m.eventSeq := by
  unfold verifiedIncoming at h
  obtain ⟨messageId, -, h⟩ := bind_eq_ok.mp h
  obtain ⟨operationId, -, h⟩ := bind_eq_ok.mp h
  obtain ⟨contentType, -, h⟩ := bind_eq_ok.mp h
  obtain ⟨senderDid, -, h⟩ := bind_eq_ok.mp h
  obtain ⟨⟨receipt, v, s⟩, hreceipt, h⟩ := bind_eq_ok.mp h
  obtain ⟨_, -, h⟩ := bind_eq_ok.mp h
  obtain ⟨acceptedAt, -, h⟩ := bind_eq_ok.mp h
  obtain ⟨_, -, h⟩ := bind_eq_ok.mp h
  obtain ⟨auth, -, h⟩ := bind_eq_ok.mp h
  obtain ⟨proof, -, h⟩ := bind_eq_ok.mp h
  obtain ⟨_, -, h⟩ := bind_eq_ok.mp h
  obtain ⟨document, -, h⟩ := bind_eq_ok.mp h
  obtain ⟨_, -, h⟩ := bind_eq_ok.mp h
  rw [pure_eq_ok] at h
  subst h
  obtain ⟨-, ⟨version, hversion, hv⟩, seq, hseq, hs⟩ := verifiedReceipt_eq_ok hreceipt
  rw [Obj.get_set_of_ne _ _ (by decide)] at hversion hseq
  exact ⟨⟨version, hversion, hv⟩, seq, hseq, hs⟩

/-- **A message.** -/
theorem groupIncoming_viewsStep {H : HostHistory} {result : Obj}
    (h : groupIncoming settings st req params = .ok (result, st'))
    (hauth : H.Authentic (.incoming req params)) (hi : ViewsInv H st.groupViews) :
    ViewsStep H st.groupViews st'.groupViews := by
  unfold groupIncoming at h
  obtain ⟨n, hn, h⟩ := bind_eq_ok.mp h
  obtain ⟨m, hm, h⟩ := bind_eq_ok.mp h
  obtain ⟨hbody, hgroup, -⟩ := notificationContext_eq_ok hn
  obtain ⟨⟨version, hversion, hv⟩, seq, hseq, hs⟩ := verifiedIncoming_eq_ok hm
  have hpair := hauth n.body n.groupDid version seq _ _ hbody hgroup hversion hv hseq hs
  rcases applyIncoming_views h with hsame | hviews
  · rw [hsame]
    exact hi.same
  · rw [hviews]
    refine hi.updateAt (fun _ ↦ rfl) fun r hr hrkey ↦ ?_
    have hdid : r.groupDid = n.groupDid := congrArg Prod.snd hrkey
    have hpair₀ := hi.pair r hr
    rw [hdid] at hpair₀ ⊢
    refine ⟨?_, le_max_left _ _⟩
    -- The later of the two pairs is the larger in both components.
    rcases le_total r.groupEventSeq m.eventSeq with hle | hle
    · simp only [viewAfterMessage, max_eq_right hle, max_eq_right (hpair₀.le hpair hle)]
      exact hpair
    · simp only [viewAfterMessage, max_eq_left hle, max_eq_left (hpair.le hpair₀ hle)]
      exact hpair₀

end Notifications

/-! ### Roster reads -/

section Refresh

variable {st st' : Store} {req : Request}

/-- A checked snapshot keeps the group and the pair it was sent with. -/
theorem validatedMemberSnapshot_eq_ok {outside : Outside} {result snapshot : Obj}
    {groupDid ownerDid hostServiceDid : String}
    (h : validatedMemberSnapshot outside result groupDid ownerDid hostServiceDid = .ok snapshot) :
    snapshot.get "group_did" = .str groupDid ∧
      snapshot.get "group_state_version" = result.get "group_state_version" ∧
      snapshot.lookup "group_event_seq" = result.lookup "group_event_seq" ∧
      snapshot.get "host_service_did" = .str hostServiceDid := by
  unfold validatedMemberSnapshot at h
  obtain ⟨_, hgroup, h⟩ := bind_eq_ok.mp h
  obtain ⟨_, -, h⟩ := bind_eq_ok.mp h
  obtain ⟨_, -, h⟩ := bind_eq_ok.mp h
  obtain ⟨_, -, h⟩ := bind_eq_ok.mp h
  obtain ⟨members, -, h⟩ := bind_eq_ok.mp h
  obtain ⟨normalized, -, h⟩ := bind_eq_ok.mp h
  obtain ⟨_, -, h⟩ := bind_eq_ok.mp h
  obtain ⟨_, -, h⟩ := bind_eq_ok.mp h
  rw [pure_eq_ok] at h
  subst h
  have hkeep : ∀ k, k ≠ "host_service_did" → k ≠ "member_list" →
      ((result.set "host_service_did" (.str hostServiceDid)).set "member_list"
        (.arr (normalized.map .obj))).lookup k = result.lookup k := by
    intro k h₁ h₂
    rw [Obj.lookup_set, if_neg h₂, Obj.lookup_set, if_neg h₁]
  refine ⟨?_, ?_, hkeep _ (by decide) (by decide), ?_⟩
  · rw [require_eq_ok, Json.isStr_iff] at hgroup
    rw [Obj.get, Obj.getD, hkeep _ (by decide) (by decide)]
    exact hgroup
  · rw [Obj.get, Obj.getD, hkeep _ (by decide) (by decide)]
    rfl
  · rw [Obj.get_set_of_ne _ _ (by decide), Obj.get_set_self]

/-- A number is a number. -/
theorem intOrRaise_eq_ok {v : Json} {n : ℤ} (h : intOrRaise v = .ok n) : intOf v = .ok n := by
  unfold intOrRaise at h
  split at h
  · rename_i hn
    rw [hn, Except.ok.inj h]
  · cases h

/-- **What a roster read does**: nothing, or it replaces an active row that is not beyond the
snapshot, and the log may get an observation. -/
theorem refreshRemoteMemberProjection_eq_ok {reprFloat : PyFloat → String}
    {ownerDid groupDid updatedAt : String} {snapshot : Obj} {wireProfile : WireProfile}
    {refreshed : Bool} (hgroup : snapshot.get "group_did" = .str groupDid)
    (h : refreshRemoteMemberProjection st reprFloat ownerDid snapshot wireProfile updatedAt =
      .ok (refreshed, st')) :
    st' = st ∨
      ∃ view stateVersion eventSeq memberRole rows log issued,
        st.groupView? ownerDid groupDid = some view ∧ view.membershipStatus = .active ∧
        intOf (snapshot.get "group_state_version") = .ok stateVersion ∧
        snapshotEventSeq snapshot view = .ok eventSeq ∧
        view.groupStateVersion ≤ stateVersion ∧ view.groupEventSeq ≤ eventSeq ∧
        (log = st.syncEvents ∨
          ∃ e : SyncEvent, e.eventType = "group.projection_refreshed" ∧
            log = st.syncEvents ++ [e]) ∧
        st' = { st with
          groupViews := Table.updateWhere (fun v ↦ decide (v.key = (ownerDid, groupDid)))
            (fun _ ↦ refreshedView view snapshot stateVersion eventSeq memberRole wireProfile
              (((snapshot.get "host_service_did").str?.filter (· ≠ "")).getD view.hostServiceDid)
              updatedAt) st.groupViews
          groupMemberViews := rows
          syncEvents := log
          issued := issued } := by
  unfold refreshRemoteMemberProjection at h
  obtain ⟨groupDid', hgroup', h⟩ := bind_eq_ok.mp h
  rw [orRaise_eq_ok, hgroup] at hgroup'
  obtain rfl : groupDid = groupDid' := Option.some.inj hgroup'
  split at h
  · rw [pure_eq_ok, Prod.mk.injEq] at h
    exact .inl h.2.symm
  · rename_i view hview
    rw [Option.filter_eq_some_iff] at hview
    obtain ⟨stateVersion, hversion, h⟩ := bind_eq_ok.mp h
    obtain ⟨eventSeq, hseq, h⟩ := bind_eq_ok.mp h
    split at h
    · rw [pure_eq_ok, Prod.mk.injEq] at h
      exact .inl h.2.symm
    · -- Neither component of the snapshot is behind the row: this is the guard of the source.
      rename_i hguard
      rw [not_or, not_lt, not_lt] at hguard
      obtain ⟨members, -, h⟩ := bind_eq_ok.mp h
      obtain ⟨owner, -, h⟩ := bind_eq_ok.mp h
      obtain ⟨memberRole, -, h⟩ := bind_eq_ok.mp h
      obtain ⟨rows, -, h⟩ := bind_eq_ok.mp h
      have hactive : view.membershipStatus = .active := of_decide_eq_true hview.2
      split at h
      · rw [pure_eq_ok, Prod.mk.injEq] at h
        exact .inr ⟨view, stateVersion, eventSeq, memberRole, rows, _, _, hview.1, hactive,
          intOrRaise_eq_ok hversion, hseq, hguard.1, hguard.2, .inr ⟨_, rfl, rfl⟩, h.2.symm⟩
      · rw [pure_eq_ok, Prod.mk.injEq] at h
        exact .inr ⟨view, stateVersion, eventSeq, memberRole, rows, _, _, hview.1, hactive,
          intOrRaise_eq_ok hversion, hseq, hguard.1, hguard.2, .inl rfl, h.2.symm⟩

/-- **What a roster read does to the projections**: nothing, or the pair of the snapshot in an
active row that is not beyond it. -/
theorem refreshRemoteMemberProjection_views {reprFloat : PyFloat → String}
    {ownerDid groupDid updatedAt : String} {snapshot : Obj} {wireProfile : WireProfile}
    {refreshed : Bool} (hgroup : snapshot.get "group_did" = .str groupDid)
    (h : refreshRemoteMemberProjection st reprFloat ownerDid snapshot wireProfile updatedAt =
      .ok (refreshed, st')) :
    st'.groupViews = st.groupViews ∨
      ∃ (view fresh : GroupView), st.groupView? ownerDid groupDid = some view ∧
        view.membershipStatus = .active ∧ fresh.key = (ownerDid, groupDid) ∧
        intOf (snapshot.get "group_state_version") = .ok fresh.groupStateVersion ∧
        snapshotEventSeq snapshot view = .ok fresh.groupEventSeq ∧
        view.groupStateVersion ≤ fresh.groupStateVersion ∧
        view.groupEventSeq ≤ fresh.groupEventSeq ∧
        st'.groupViews = Table.updateWhere (fun v ↦ decide (v.key = (ownerDid, groupDid)))
          (fun _ ↦ fresh) st.groupViews := by
  rcases refreshRemoteMemberProjection_eq_ok hgroup h with
    rfl | ⟨view, stateVersion, eventSeq, memberRole, rows, log, issued, hview, hactive, hversion,
      hseq, hle, hleSeq, -, rfl⟩
  · exact .inl rfl
  · have hkey : view.key = (ownerDid, groupDid) := Table.key_of_row? hview
    exact .inr ⟨view, refreshedView view snapshot stateVersion eventSeq memberRole wireProfile
      (((snapshot.get "host_service_did").str?.filter (· ≠ "")).getD view.hostServiceDid) updatedAt,
      hview, hactive, hkey, hversion, hseq, hle, hleSeq, rfl⟩

/-- **A roster read.** -/
theorem refreshRemoteGroupMembers_viewsStep {H : HostHistory} {groupDid : String} {result : Obj}
    {refreshed : Bool} (h : refreshRemoteGroupMembers st req groupDid result = .ok (refreshed, st'))
    (hauth : H.Authentic (.refresh req groupDid result))
    (hcond : SnapshotsCarrySeq st (.refresh req groupDid result)) (hi : ViewsInv H st.groupViews) :
    ViewsStep H st.groupViews st'.groupViews := by
  unfold refreshRemoteGroupMembers at h
  obtain ⟨authenticated, hcurrent, h⟩ := bind_eq_ok.mp h
  obtain ⟨ownerDid, howner, h⟩ := bind_eq_ok.mp h
  obtain ⟨service, -, h⟩ := bind_eq_ok.mp h
  obtain ⟨_, -, h⟩ := bind_eq_ok.mp h
  obtain ⟨hostServiceDid, -, h⟩ := bind_eq_ok.mp h
  obtain ⟨profile, -, h⟩ := bind_eq_ok.mp h
  obtain ⟨snapshot, hsnapshot, h⟩ := bind_eq_ok.mp h
  rw [orRaise_eq_ok.mp howner] at hcurrent
  obtain ⟨hgroup, hversion, hseq, -⟩ := validatedMemberSnapshot_eq_ok hsnapshot
  rcases refreshRemoteMemberProjection_views hgroup h with
    hsame | ⟨view, fresh, hview, hactive, hkey, hfresh, hfreshSeq, hle, hleSeq, hviews⟩
  · rw [hsame]
    exact hi.same
  rw [hversion] at hfresh
  have hmem : view ∈ st.groupViews := Table.mem_of_row? hview
  have hvkey : view.key = (ownerDid, groupDid) := Table.key_of_row? hview
  -- Whatever the snapshot left out, the row is at a pair of the history.
  have hpair : H.Pair groupDid fresh.groupStateVersion fresh.groupEventSeq := by
    unfold snapshotEventSeq at hfreshSeq
    rw [hseq] at hfreshSeq
    cases hlookup : result.lookup "group_event_seq" with
    | some v =>
      rw [hlookup] at hfreshSeq
      refine (hauth _ hfresh).2 _ ?_
      rw [Obj.get_eq_of_lookup hlookup]
      exact intOrRaise_eq_ok hfreshSeq
    | none =>
      rw [hlookup] at hfreshSeq
      have hsame : fresh.groupStateVersion = view.groupStateVersion :=
        le_antisymm (hcond hlookup ownerDid view _ hcurrent hview hactive hfresh) hle
      have hdid : view.groupDid = groupDid := congrArg Prod.snd hvkey
      rw [hsame, ← Except.ok.inj hfreshSeq, ← hdid]
      exact hi.pair view hmem
  have hupsert : st'.groupViews =
      Table.upsert GroupView.key fresh (fun _ ↦ fresh) st.groupViews := by
    have hsome : (Table.row? GroupView.key fresh.key st.groupViews).isSome = true := by
      rw [hkey, ← hvkey]
      exact Table.row?_isSome_of_mem hmem
    rw [Table.upsert, if_pos hsome, hviews, hkey]
  have hdid : fresh.groupDid = groupDid := congrArg Prod.snd hkey
  rw [hupsert]
  refine hi.upsert (hdid ▸ hpair) fun r hr hrkey ↦ ?_
  obtain rfl := hi.keyed.eq_of_key_eq hr hmem (hrkey.trans (hkey.trans hvkey.symm))
  exact hleSeq

end Refresh

/-! ### Forwarded commands -/

section Forward

variable {settings : Settings} {st st' : Store} {req : Request}

/-- A forwarded command is the authenticated sender's, as the envelope says. -/
theorem forwardedCommand_eq_ok {params : Obj} {method : GroupMethod} {c : ForwardedCommand}
    (h : forwardedCommand settings req params method = .ok c) :
    c.method = method ∧ req.credentials = .bearer c.senderDid ∧
      params.get "_anp_meta" = .obj c.metaObj ∧
      c.metaObj.get "sender_did" = .str c.senderDid ∧
      c.metaObj.get "operation_id" = .str c.operationId ∧
      ∃ target, c.metaObj.get "target" = .obj target ∧
        Obj.get target "did" = .str c.groupDid := by
  unfold forwardedCommand at h
  obtain ⟨_, -, h⟩ := bind_eq_ok.mp h
  obtain ⟨metaObj, hmeta, h⟩ := bind_eq_ok.mp h
  obtain ⟨body, -, h⟩ := bind_eq_ok.mp h
  obtain ⟨senderDid, hsender, h⟩ := bind_eq_ok.mp h
  obtain ⟨authenticated, hcurrent, h⟩ := bind_eq_ok.mp h
  obtain ⟨_, hmatch, h⟩ := bind_eq_ok.mp h
  obtain ⟨target, htarget, h⟩ := bind_eq_ok.mp h
  obtain ⟨_, -, h⟩ := bind_eq_ok.mp h
  obtain ⟨groupDid, hgroup, h⟩ := bind_eq_ok.mp h
  obtain ⟨_, -, h⟩ := bind_eq_ok.mp h
  obtain ⟨service, -, h⟩ := bind_eq_ok.mp h
  obtain ⟨declared, -, h⟩ := bind_eq_ok.mp h
  obtain ⟨_, -, h⟩ := bind_eq_ok.mp h
  obtain ⟨_, -, h⟩ := bind_eq_ok.mp h
  obtain ⟨operationId, hoperation, h⟩ := bind_eq_ok.mp h
  rw [pure_eq_ok] at h
  subst h
  rw [orRaise_eq_ok, Json.obj?_eq_some] at hmeta htarget
  rw [orRaise_eq_ok, Json.str?_eq_some] at hsender
  rw [require_eq_ok, decide_eq_true_eq] at hmatch
  have hbearer : req.credentials = .bearer senderDid := by
    unfold currentDid at hcurrent
    cases hcred : req.credentials with
    | bearer did =>
      simp only [hcred, Except.ok.injEq] at hcurrent
      rw [← hcurrent, Option.some.injEq] at hmatch
      rw [hmatch]
    | invalid => simp [hcred] at hcurrent
    | missing => simp [hcred] at hcurrent
  exact ⟨rfl, hbearer, hmeta, hsender, (requireNonEmpty_eq_ok hoperation).1, target, htarget,
    (requireNonEmpty_eq_ok hgroup).1⟩

/-- A checked answer carries its receipt, issued for the command. -/
theorem validateRemoteReceipt_eq_ok {c : ForwardedCommand} {result receipt : Obj}
    (h : validateRemoteReceipt st req c result = .ok receipt) :
    result.get "group_receipt" = .obj receipt ∧
      Json.same (receipt.get "operation_id") (c.metaObj.get "operation_id") = true ∧
      ((c.metaObj.get "profile").isStr WireProfile.v2.text = true →
        Json.same (receipt.get "actor_did") (c.metaObj.get "sender_did") = true) := by
  unfold validateRemoteReceipt at h
  obtain ⟨receipt', hreceipt, h⟩ := bind_eq_ok.mp h
  obtain ⟨_, hv2, h⟩ := bind_eq_ok.mp h
  obtain ⟨_, hchecks, h⟩ := bind_eq_ok.mp h
  obtain ⟨auth, -, h⟩ := bind_eq_ok.mp h
  obtain ⟨proof, -, h⟩ := bind_eq_ok.mp h
  obtain ⟨_, -, h⟩ := bind_eq_ok.mp h
  obtain ⟨document, -, h⟩ := bind_eq_ok.mp h
  obtain ⟨_, -, h⟩ := bind_eq_ok.mp h
  rw [pure_eq_ok] at h
  subst h
  rw [orRaise_eq_ok, Json.obj?_eq_some] at hreceipt
  rw [require_eq_ok] at hv2 hchecks
  simp only [Bool.and_eq_true] at hchecks
  refine ⟨hreceipt, hchecks.1.1.1.2, fun hprofile ↦ ?_⟩
  rw [hprofile, Bool.not_true, Bool.false_or, validateV2Answer] at hv2
  simp only [Bool.and_eq_true] at hv2
  exact hv2.1.1.2

/-- To keep an answer writes no view. -/
theorem recordIfV2_views {c : ForwardedCommand} {result receipt : Obj}
    (h : recordIfV2 st req c result receipt = .ok st') : st'.groupViews = st.groupViews := by
  unfold recordIfV2 at h
  split at h
  · unfold recordForwarded at h
    obtain ⟨digest, -, h⟩ := bind_eq_ok.mp h
    split at h
    · obtain ⟨_, -, h⟩ := bind_eq_ok.mp h
      rw [pure_eq_ok] at h
      rw [h]
    · obtain ⟨payloadDigest, -, h⟩ := bind_eq_ok.mp h
      obtain ⟨acceptedAt, -, h⟩ := bind_eq_ok.mp h
      obtain ⟨createdAt, -, h⟩ := bind_eq_ok.mp h
      rw [pure_eq_ok] at h
      rw [← h]
  · rw [Except.ok.inj h]

/-- A view is ended at the pair of the answer. -/
theorem endView_viewsStep {H : HostHistory} {ownerDid groupDid : String} {status : ViewStatus}
    {v s : ℤ} {updatedAt : Option String} (hpair : H.Pair groupDid v s)
    (h : endView st ownerDid groupDid status v s updatedAt = .ok st')
    (hi : ViewsInv H st.groupViews) : ViewsStep H st.groupViews st'.groupViews := by
  unfold endView at h
  split at h
  · rename_i view hview
    split at h
    · rename_i hle
      obtain ⟨time, -, h⟩ := bind_eq_ok.mp h
      rw [pure_eq_ok] at h
      rw [← h]
      refine hi.updateAt (fun _ ↦ rfl) fun r hr hrkey ↦ ?_
      obtain rfl := hi.keyed.eq_of_key_eq hr (Table.mem_of_row? hview)
        (hrkey.trans (Table.key_of_row? hview).symm)
      have hdid : r.groupDid = groupDid := congrArg Prod.snd hrkey
      exact ⟨hdid ▸ hpair, hle⟩
    · rw [← Except.ok.inj h]
      exact hi.same
  · rw [← Except.ok.inj h]
    exact hi.same

/-- A view is moved to another owner. -/
theorem moveView_viewsStep {H : HostHistory} {previousDid newDid groupDid : String}
    {updatedAt : Option String} (h : moveView st previousDid newDid groupDid updatedAt = .ok st')
    (hi : ViewsInv H st.groupViews) : ViewsStep H st.groupViews st'.groupViews := by
  unfold moveView at h
  split at h
  · obtain ⟨time, -, h⟩ := bind_eq_ok.mp h
    obtain ⟨_, hfree, h⟩ := bind_eq_ok.mp h
    rw [pure_eq_ok] at h
    rw [← h]
    rw [require_eq_ok, Bool.or_eq_true, decide_eq_true_eq, Option.isNone_iff_eq_none] at hfree
    by_cases hsame : previousDid = newDid
    · -- The row is rewritten in place.
      subst hsame
      have hkey : ∀ r : GroupView, r.key = (previousDid, groupDid) →
          ({ r with ownerDid := previousDid, updatedAt := time } : GroupView).key = r.key := by
        intro r hr
        have howner : r.ownerDid = previousDid := congrArg Prod.fst hr
        simp [GroupView.key, howner]
      refine ⟨hi.keyed.updateWhere fun r hr ↦ hkey r (of_decide_eq_true hr), fun r' hr' ↦ ?_⟩
      obtain ⟨r, hr, rfl⟩ := Table.mem_updateWhere.mp hr'
      by_cases hk : r.key = (previousDid, groupDid)
      · simp only [hk, decide_true, if_true]
        refine .inr ⟨hi.pair r hr, fun r₀ hr₀ hkey₀ ↦ ?_⟩
        obtain rfl := hi.keyed.eq_of_key_eq hr₀ hr (hkey₀.trans (hkey r hk))
        exact le_refl _
      · simp only [hk, decide_false, Bool.false_eq_true, if_false]
        exact .inl hr
    · -- The key it moves to is free, so no row is overwritten and no version can fall there.
      have hnone := Table.row?_eq_none.mp (hfree.resolve_left hsame)
      have hkey : ∀ r : GroupView, r.key = (previousDid, groupDid) →
          ({ r with ownerDid := newDid, updatedAt := time } : GroupView).key =
            (newDid, groupDid) := by
        intro r hr
        have hgroup : r.groupDid = groupDid := congrArg Prod.snd hr
        simp [GroupView.key, hgroup]
      refine ⟨hi.keyed.updateWhere_rekey (previousDid, groupDid) (newDid, groupDid)
        (fun r _ hr ↦ of_decide_eq_true hr) (fun r hr ↦ hkey r (of_decide_eq_true hr)) hnone,
        fun r' hr' ↦ ?_⟩
      obtain ⟨r, hr, rfl⟩ := Table.mem_updateWhere.mp hr'
      by_cases hk : r.key = (previousDid, groupDid)
      · simp only [hk, decide_true, if_true]
        refine .inr ⟨hi.pair r hr, fun r₀ hr₀ hkey₀ ↦ ?_⟩
        exact absurd (hkey₀.trans (hkey r hk)) (hnone r₀ hr₀)
      · simp only [hk, decide_false, Bool.false_eq_true, if_false]
        exact .inl hr
  · rw [← Except.ok.inj h]
    exact hi.same

/-- A rebind moves views. -/
theorem applyRebind_viewsStep {H : HostHistory} {c : ForwardedCommand} {result receipt : Obj}
    (h : applyRebind st req c result receipt = .ok st') (hi : ViewsInv H st.groupViews) :
    ViewsStep H st.groupViews st'.groupViews := by
  unfold applyRebind at h
  dsimp only at h
  split at h
  · obtain ⟨updatedAt, -, h⟩ := bind_eq_ok.mp h
    obtain ⟨st₁, hmove, h⟩ := bind_eq_ok.mp h
    obtain ⟨st₂, hmembers, h⟩ := bind_eq_ok.mp h
    have hviews : st'.groupViews = st₁.groupViews := by
      unfold moveMemberViews at hmembers
      obtain ⟨_, -, hmembers⟩ := bind_eq_ok.mp hmembers
      rw [pure_eq_ok] at hmembers
      unfold moveMessageViews at h
      obtain ⟨_, -, h⟩ := bind_eq_ok.mp h
      rw [pure_eq_ok] at h
      rw [← h, ← hmembers]
    rw [hviews]
    exact moveView_viewsStep hmove hi
  · rw [← Except.ok.inj h]
    exact hi.same

/-- The answer to a leave or a removal ends one. -/
theorem applyTerminalProjection_viewsStep {H : HostHistory} {c : ForwardedCommand}
    {result receipt : Obj}
    (hpair : ∀ v s, answerPair result receipt = .ok (v, s) → H.Pair c.groupDid v s)
    (h : applyTerminalProjection settings st req c result receipt = .ok st')
    (hi : ViewsInv H st.groupViews) : ViewsStep H st.groupViews st'.groupViews := by
  unfold applyTerminalProjection at h
  split at h
  · obtain ⟨st₁, hrecord, h⟩ := bind_eq_ok.mp h
    have hviews := recordIfV2_views hrecord
    rw [← hviews] at hi ⊢
    unfold applyEnding at h
    split at h
    · obtain ⟨⟨v, s⟩, hanswer, h⟩ := bind_eq_ok.mp h
      obtain ⟨updatedAt, -, h⟩ := bind_eq_ok.mp h
      exact endView_viewsStep (hpair v s hanswer) h hi
    · dsimp only at h
      split at h
      · obtain ⟨⟨v, s⟩, hanswer, h⟩ := bind_eq_ok.mp h
        obtain ⟨updatedAt, -, h⟩ := bind_eq_ok.mp h
        exact endView_viewsStep (hpair v s hanswer) h hi
      · rw [← Except.ok.inj h]
        exact hi.same
  · split at h
    · exact applyRebind_viewsStep h hi
    · rw [← Except.ok.inj h]
      exact hi.same

/-- **A forwarded command.** -/
theorem forwardGroupCommand_viewsStep {H : HostHistory} {params result answer : Obj}
    {method : GroupMethod}
    (h : forwardGroupCommand settings st req params method result = .ok (answer, st'))
    (hauth : H.Authentic (.forward req params method result)) (hi : ViewsInv H st.groupViews) :
    ViewsStep H st.groupViews st'.groupViews := by
  unfold forwardGroupCommand at h
  obtain ⟨c, hc, h⟩ := bind_eq_ok.mp h
  split at h
  · obtain ⟨receipt, hreceipt, h⟩ := bind_eq_ok.mp h
    obtain ⟨st₁, happly, h⟩ := bind_eq_ok.mp h
    rw [pure_eq_ok, Prod.mk.injEq] at h
    obtain ⟨-, rfl⟩ := h
    obtain ⟨-, -, hmeta, -, -, target, htarget, hdid⟩ := forwardedCommand_eq_ok hc
    refine applyTerminalProjection_viewsStep (fun v s hanswer ↦ ?_) happly hi
    exact hauth c.metaObj target c.groupDid receipt v s hmeta htarget hdid
      (validateRemoteReceipt_eq_ok hreceipt).1 hanswer
  · rw [pure_eq_ok, Prod.mk.injEq] at h
    rw [← h.2]
    exact hi.same

end Forward

/-! ### Runs -/

/-- A result without its answer is a result. -/
theorem map_snd_eq_ok {α : Type} {x : Result (α × Store)} {st : Store}
    (h : x.map Prod.snd = .ok st) : ∃ r, x = .ok (r, st) := by
  cases x with
  | error e => cases h
  | ok r => exact ⟨r.1, by rw [← Except.ok.inj h]⟩

/-- **The step lemma.** -/
theorem HomeStep.viewsStep {settings : Settings} {H : HostHistory} {st st' : Store} {a : HomeAction}
    (h : HomeStep settings st a st') (hauth : H.Authentic a) (hcond : SnapshotsCarrySeq st a)
    (hi : ViewsInv H st.groupViews) : ViewsStep H st.groupViews st'.groupViews := by
  unfold HomeStep afterHome at h
  cases hcall : homeCall settings st a with
  | error e =>
    rw [h, hcall]
    exact hi.same
  | ok st₁ =>
    rw [hcall] at h
    subst h
    cases a with
    | stateChanged req params =>
      obtain ⟨_, hcall⟩ := map_snd_eq_ok hcall
      exact groupStateChanged_viewsStep hcall hauth hi
    | incoming req params =>
      obtain ⟨_, hcall⟩ := map_snd_eq_ok hcall
      exact groupIncoming_viewsStep hcall hauth hi
    | refresh req groupDid result =>
      obtain ⟨_, hcall⟩ := map_snd_eq_ok hcall
      exact refreshRemoteGroupMembers_viewsStep hcall hauth hcond hi
    | forward req params method result =>
      obtain ⟨_, hcall⟩ := map_snd_eq_ok hcall
      exact forwardGroupCommand_viewsStep hcall hauth hi

/-- **Projected versions are monotone.** For every correct Host and every run of Home steps with its
notifications, snapshots and answers, in any order, in which no snapshot without a sequence number
brings a newer version to an active projection: no further such step lowers either component of the
version pair of any `(owner, group)` row. -/
theorem projection_versions_monotone {settings : Settings} {H : HostHistory} {st₀ st st' : Store}
    {a : HomeAction} (h₀ : st₀.groupViews = [])
    (h : ReachesWith (HomeStep settings) (fun st a ↦ H.Authentic a ∧ SnapshotsCarrySeq st a) st₀ st)
    (hauth : H.Authentic a) (hcond : SnapshotsCarrySeq st a) (hstep : HomeStep settings st a st') :
    NoDecrease st.groupViews st'.groupViews := by
  have hi := ReachesWith.invariant (I := fun s ↦ ViewsInv H s.groupViews) h
    ⟨by simp [Table.Keyed, h₀], by simp [h₀]⟩
    fun hi hc hs ↦ (hs.viewsStep hc.1 hc.2 hi).inv hi
  exact (hstep.viewsStep hauth hcond hi).noDecrease hi

/-! ### A snapshot without a sequence number -/

/-- A group of the peer. -/
def remoteGroup : String := "did:wba:peer.example:groups:g"

/-- A Home with one user. -/
def sampleHome : Store :=
  { users := [
      { did := alice, handle := "alice@host.example", token := "t", revokedAt := none,
        handleBindingGeneration := "1" }],
    didDocuments := [
      { did := alice, document := .obj [("id", .str alice)], documentVersion := 1,
        updatedAt := "2026-01-01T00:00:00Z", status := .active, revokedAt := none }] }

/-- The body of a state change of that group. -/
def sampleEvent (version seq : ℕ) (eventType subjectMethod : String) (fields : Obj) : Obj :=
  [("group_did", .str remoteGroup), ("event_type", .str eventType),
    ("subject_method", .str subjectMethod), ("group_state_version", .str (toString version)),
    ("group_event_seq", .str (toString seq)), ("changed_at", .str "2026-01-01T00:00:00Z"),
    ("group_receipt", .obj [("group_did", .str remoteGroup),
      ("group_state_version", .str (toString version)), ("group_event_seq", .str (toString seq)),
      ("subject_method", .str subjectMethod)])] ++ fields

/-- A request of the peer. -/
def peerRequest : Request :=
  { surface := .publicRpc, credentials := .missing, outside := .honest }

/-- The parameters of its notification to Alice. -/
def sampleNotificationParams (body : Obj) : Obj :=
  [("_anp_meta", .obj [("profile", .str "anp.group.base.v2"),
      ("security_profile", .str "transport-protected"), ("sender_did", .str remoteGroup),
      ("target", agentTarget alice)]),
    ("_anp_body", .obj body)]

/-- The notification of a state change to Alice. -/
def sampleNotification (version seq : ℕ) (eventType subjectMethod : String) (fields : Obj) :
    HomeAction :=
  .stateChanged peerRequest
    (sampleNotificationParams (sampleEvent version seq eventType subjectMethod fields))

/-- The members of the event with which Alice joined. -/
def sampleJoined : Obj :=
  [("subject_did", .str alice), ("membership_status", .str "active"), ("role", .str "member")]

/-- Alice joined with this event. -/
def sampleActivation (version seq : ℕ) : HomeAction :=
  sampleNotification version seq "member-activated" "group.add" sampleJoined

/-- A roster read of Alice. -/
def sampleRefresh (version : ℕ) (fields : Obj) : HomeAction :=
  .refresh { surface := .localRpc, credentials := .bearer alice, outside := .honest } remoteGroup
    ([("group_did", .str remoteGroup), ("group_state_version", .str (toString version)),
      ("member_list", .arr [.obj [("member_did", .str alice), ("role", .str "member"),
        ("status", .str "active")]])] ++ fields)

/-- A Host whose groups had version 3 after event 5, and one more with each event since. -/
def sampleHistory : HostHistory where
  version _ n := n - 2
  version_mono _ _ _ h := Nat.sub_le_sub_right h 2

/-- It tells a pair of the history, -/
theorem sampleNotification_authentic {H : HostHistory} (k : ℕ) (eventType subjectMethod : String)
    (fields : Obj) : H.Authentic
      (sampleNotification (H.version remoteGroup k) k eventType subjectMethod fields) := by
  intro body groupDid version seq' v s hbody hgroup hversion hv hseq hs
  obtain rfl := Json.obj.inj hbody
  obtain rfl := Json.str.inj hgroup
  obtain rfl := Json.str.inj hversion
  obtain rfl := Json.str.inj hseq
  rw [ofText?_toString] at hv hs
  exact ⟨k, (Option.some.inj hs).symm, (Option.some.inj hv).symm⟩

/-- and so does the roster read. -/
theorem sampleRefresh_authentic {H : HostHistory} (n : ℕ) :
    H.Authentic (sampleRefresh (H.version remoteGroup n) []) := by
  intro v hv
  have hversion : (H.version remoteGroup n : ℤ) = v :=
    Except.ok.inj ((intOf_toString _).symm.trans hv)
  exact ⟨⟨n, hversion.symm⟩, fun s hs ↦ by cases hs⟩

/-- The state of a Home after these actions. -/
def homeAfter (settings : Settings) (st : Store) (actions : List HomeAction) : Store :=
  actions.foldl (afterHome settings) st

/-- The event with which Alice joined is one of the history, -/
theorem sampleActivation_authentic : sampleHistory.Authentic (sampleActivation 3 5) :=
  sampleNotification_authentic 5 _ _ _

/-- The event after the activation. -/
def sampleUpdate : HomeAction :=
  sampleNotification 4 6 "group-profile-updated" "group.update_profile" []

/-- and so is the next. -/
theorem sampleUpdate_authentic : sampleHistory.Authentic sampleUpdate :=
  sampleNotification_authentic 6 _ _ _

/-- **A snapshot without a sequence number lets the version go back.** Alice's projection stands at
version 3 and event 5; a roster read of the head, at version 6, lifts the version alone; the
notification of event 6 then writes version 4. -/
theorem snapshot_without_seq_lowers_version :
    ¬ ∀ (settings : Settings) (H : HostHistory) (st₀ st st' : Store) (a : HomeAction),
      st₀.groupViews = [] →
      ReachesWith (HomeStep settings) (fun _ a ↦ H.Authentic a) st₀ st → H.Authentic a →
      HomeStep settings st a st' → NoDecrease st.groupViews st'.groupViews := by
  intro hall
  have hactivated : ReachesWith (HomeStep .sample) (fun _ a ↦ sampleHistory.Authentic a) sampleHome
      (homeAfter .sample sampleHome [sampleActivation 3 5]) :=
    .tail (.refl _) sampleActivation_authentic rfl
  have hrefresh : sampleHistory.Authentic (sampleRefresh 6 []) := sampleRefresh_authentic 8
  have hrun : ReachesWith (HomeStep .sample) (fun _ a ↦ sampleHistory.Authentic a) sampleHome
      (homeAfter .sample sampleHome [sampleActivation 3 5, sampleRefresh 6 []]) :=
    hactivated.tail hrefresh rfl
  have hdecrease := hall .sample sampleHistory sampleHome _ _ sampleUpdate rfl hrun
    sampleUpdate_authentic rfl
  have hbefore : (homeAfter .sample sampleHome [sampleActivation 3 5, sampleRefresh 6 []]
      ).groupViews.any (fun v ↦ decide (v.key = (alice, remoteGroup) ∧ v.groupStateVersion = 6)) =
      true := by decide +kernel
  have hafter : (afterHome .sample
      (homeAfter .sample sampleHome [sampleActivation 3 5, sampleRefresh 6 []])
      sampleUpdate).groupViews.any
        (fun v ↦ decide (v.key = (alice, remoteGroup) ∧ v.groupStateVersion = 4)) = true := by
    decide +kernel
  obtain ⟨r, hr, hrkey⟩ := List.any_eq_true.mp hbefore
  obtain ⟨r', hr', hr'key⟩ := List.any_eq_true.mp hafter
  rw [decide_eq_true_eq] at hrkey hr'key
  have hle := (hdecrease r hr r' hr' (hrkey.1.trans hr'key.1.symm)).1
  rw [hrkey.2, hr'key.2] at hle
  exact absurd hle (by decide)

/-- The activation and the next event, in order. -/
theorem projection_versions_monotone_sample :
    NoDecrease (homeAfter .sample sampleHome [sampleActivation 3 5]).groupViews
        (homeAfter .sample sampleHome [sampleActivation 3 5, sampleUpdate]).groupViews ∧
      (homeAfter .sample sampleHome [sampleActivation 3 5, sampleUpdate]).groupViews.map
        (fun v ↦ (v.groupStateVersion, v.groupEventSeq)) = [(4, 6)] := by
  have hactivated : ReachesWith (HomeStep .sample)
      (fun st a ↦ sampleHistory.Authentic a ∧ SnapshotsCarrySeq st a) sampleHome
      (homeAfter .sample sampleHome [sampleActivation 3 5]) :=
    .tail (.refl _) ⟨sampleActivation_authentic, trivial⟩ rfl
  have hempty : sampleHome.groupViews = [] := rfl
  exact ⟨projection_versions_monotone hempty hactivated sampleUpdate_authentic trivial rfl,
    by decide +kernel⟩

end Awiki
