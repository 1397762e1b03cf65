import AwikiOpenServer.Messaging.Groups.InboundOnce
import AwikiOpenServer.Messaging.Groups.Outcomes
import AwikiOpenServer.Messaging.MessageNumbers
import AwikiOpenServer.Messaging.DeltaErrors

/-!
# Every writer of the sync log

Many requests append to `sync_events`: direct sends, the three operations of legacy
groups, the nine of hosted groups, the two notifications of a Host, roster reads, and the two
read-state handlers. They interleave freely, most of them hold the write lock from their first
statement on and the others from their first write, and any of them may fail or be cut off and roll
back.

What each of them does to the log is said once, by `Store.Announces` or by `SyncLogGrows`; over any
interleaving the log of every owner is then numbered `1, …, n` (`sync_log_gapless`).

## Two levels

Most writers only announce: what they append is an entry that says what happened, about nothing that
has a state in the log. `Announces` says this of a function of the store, and there is one lemma for
each function that writes, up to `hostedCall_announces` for the nine operations of a hosted group.
The two read-state handlers also append entries that stand for a watermark, and come in through
`SyncLogGrows`, which is what the numbering needs of everybody.

## From functions to programs

A request is a program of statements that runs beside the others. `Announcer` lists those whose
writes announce, and `Announcer.guarded` is the rule for them: whatever announcing keeps
(`KeptByAnnouncing`), they keep, **from whatever state they find when they get the lock**. This is
where the order of a request matters, since the next number is read under the lock: between the
`SELECT MAX` of `add_sync_event` and its `INSERT` nobody else writes.

`LogWriter` is any request at all: an announcer, a read-state handler, or one of which no write
touches the log. `ServerReaches` is a run of them, and its induction is the one of `Lib/Rely.lean`.
The rest of the development uses it where a result is about logs of a running server.
-/

namespace Awiki

open Py Transactions

/-! ### Hosted operations -/

/-- One entry for each active member. -/
theorem SurvivesEvents.syncActiveMembers {V : Store → Prop} (hevents : SurvivesEvents V)
    {st : Store} {groupDid now eventType : String} {payload : Obj}
    (h : Announcement eventType payload) (hst : V st) :
    V (syncActiveMembers st groupDid eventType payload now) := by
  unfold Awiki.syncActiveMembers
  generalize (st.activeMembers groupDid) = members
  induction members generalizing st with
  | nil => exact hst
  | cons m rest ih =>
    rw [List.foldl_cons]
    refine ih ?_
    split
    · exact hevents _ _ _ _ _ h hst
    · exact hst

namespace Store.Announces

/-- The members of a hosted group on this server are told. -/
theorem syncActiveMembers (st : Store) (groupDid now : String) {eventType : String} {payload : Obj}
    (h : Announcement eventType payload) :
    st.Announces (syncActiveMembers st groupDid eventType payload now) :=
  SurvivesEvents.syncActiveMembers (V := st.Announces)
    (fun s _ _ _ _ ha hs ↦ hs.trans (addSyncEvent s ha)) h (refl st)

/-- Projections are refreshed without an entry. -/
theorem refreshHostedLocalProjections (settings : Settings) (st : Store)
    (groupDid updatedAt : String) :
    st.Announces (refreshHostedLocalProjections settings st groupDid updatedAt) := by
  obtain ⟨views, memberViews, h⟩ :=
    refreshHostedLocalProjections_eq settings st groupDid updatedAt
  rw [h]
  exact ⟨.refl, rfl, rfl, rfl⟩

/-- A state change is told to them by its own name. -/
theorem tellLocalMembers (settings : Settings) (st : Store) {ctx : GroupRequest}
    {groupDid now : String} {change : StateChange} {event : Obj}
    (h : Announcement change.syncEventType event) :
    st.Announces (tellLocalMembers settings st ctx groupDid change event now) := by
  unfold Awiki.tellLocalMembers
  refine trans ?_ (refreshHostedLocalProjections ..)
  have hsync := syncActiveMembers st groupDid now h
  cases change.departed with
  | none => exact hsync
  | some did =>
    dsimp only
    split
    · exact hsync.trans (addSyncEvent _ h)
    · exact hsync

/-- Members elsewhere are told through the outbox. -/
theorem enqueueAll (st : Store) (groupDid createdAt : String) (groupEventSeq : ℕ)
    (method : GroupMethod) (envelopeFor : String → Obj) (members : List HostedMember) :
    st.Announces (enqueueAll st groupDid groupEventSeq method envelopeFor createdAt members) := by
  obtain ⟨rows, h⟩ := enqueueAll_eq groupDid createdAt groupEventSeq method envelopeFor members st
  rw [h]
  exact ⟨.refl, rfl, rfl, rfl⟩

end Store.Announces

section Hosted

variable {settings : Settings} {st st' : Store} {req : Request} {ctx : GroupRequest}
  {group : HostedGroup} {result : Obj}

/-- The event of a group is no entry of the log. -/
theorem writeEvent_announces {groupDid eventType createdAt : String} {stateVersion eventSeq : ℕ}
    {payload receipt : Obj}
    (h : writeEvent st ctx groupDid stateVersion eventSeq eventType payload receipt createdAt =
      .ok st') : st.Announces st' := by
  rw [writeEvent_eq_ok h]
  exact ⟨.refl, rfl, rfl, rfl⟩

/-- Nor is the record of an operation. -/
theorem storeOperation_announces {scope createdAt : String} {result' : Obj}
    (h : storeOperation st ctx scope result createdAt = .ok (result', st')) :
    st.Announces st' := by
  obtain ⟨-, op, -, -, -, -, rfl⟩ := storeOperation_eq_ok h
  exact ⟨.refl, rfl, rfl, rfl⟩

/-- A state change is put into the outbox. -/
theorem enqueueStateChanged_announces {groupDid createdAt : String} {groupEventSeq : ℕ}
    {event : Obj}
    (h : enqueueStateChanged settings st groupDid groupEventSeq event createdAt = .ok st') :
    st.Announces st' := by
  unfold enqueueStateChanged at h
  obtain ⟨_, -, h⟩ := bind_eq_ok.mp h
  obtain ⟨_, -, h⟩ := bind_eq_ok.mp h
  obtain ⟨_, -, h⟩ := bind_eq_ok.mp h
  rw [← pure_eq_ok.mp h]
  exact .enqueueAll ..

/-- State changes go by names that say nothing about messages or watermarks. -/
theorem announcement_of_mem_stateChangeTypes {eventType : String} {payload : Obj}
    (h : eventType ∈ stateChangeTypes) : Announcement eventType payload := by
  have hall : ∀ name ∈ stateChangeTypes,
      (name ≠ "read_state.updated" ∧ name ≠ "message.read_state_updated") ∧
        ¬ (startsWith "group.message." name = true ∨ name = "group.created") := by decide
  exact .plain (hall eventType h)

/-- **An accepted state change.** -/
theorem acceptStateChange_announces {change : StateChange}
    (h : acceptStateChange settings st req ctx group change = .ok (result, st'))
    (htype : change.syncEventType ∈ stateChangeTypes) : st.Announces st' := by
  unfold acceptStateChange at h
  obtain ⟨receipt, -, h⟩ := bind_eq_ok.mp h
  obtain ⟨st₁, hevent, h⟩ := bind_eq_ok.mp h
  obtain ⟨⟨result₁, st₂⟩, hop, h⟩ := bind_eq_ok.mp h
  obtain ⟨st₃, henqueue, h⟩ := bind_eq_ok.mp h
  obtain ⟨-, rfl⟩ := Prod.mk.inj (pure_eq_ok.mp h)
  have hhead : st.Announces (writeHead st group.groupDid change.update
      (group.groupStateVersion + 1) (group.groupEventSeq + 1) req.outside.now) :=
    ⟨.refl, rfl, rfl, rfl⟩
  refine hhead.trans ((writeEvent_announces hevent).trans ((storeOperation_announces hop).trans ?_))
  exact (Store.Announces.tellLocalMembers settings st₂
    (announcement_of_mem_stateChangeTypes htype)).trans (enqueueStateChanged_announces henqueue)

/-- A message is announced with its own group. -/
theorem messageCreated_announcement (groupDid messageId senderDid contentType : String)
    (eventSeq : ℤ) :
    Announcement "group.message.created"
      (messageCreated groupDid messageId senderDid contentType eventSeq) := by
  refine ⟨by decide, fun _ ↦ eventGroupDid_bindable ?_ ?_ ?_⟩
  · rfl
  · rfl
  · rfl

/-- **An accepted message.** -/
theorem acceptMessage_announces {messageId contentType : String}
    (h : acceptMessage settings st req ctx group messageId contentType = .ok (result, st')) :
    st.Announces st' := by
  unfold acceptMessage at h
  obtain ⟨receipt, -, h⟩ := bind_eq_ok.mp h
  obtain ⟨_, -, h⟩ := bind_eq_ok.mp h
  obtain ⟨st₁, hevent, h⟩ := bind_eq_ok.mp h
  obtain ⟨⟨result₁, st₂⟩, hop, h⟩ := bind_eq_ok.mp h
  obtain ⟨-, rfl⟩ := Prod.mk.inj (pure_eq_ok.mp h)
  refine Store.Announces.trans ?_ ((writeEvent_announces hevent).trans
    ((storeOperation_announces hop).trans ?_))
  · exact ⟨.refl, rfl, rfl, rfl⟩
  have hviews : ∀ (s : Store) viewFor, s.Announces
      (projectHostedMessageForLocalMembers settings s group.groupDid viewFor) :=
    fun _ _ ↦ ⟨.refl, rfl, rfl, rfl⟩
  refine Store.Announces.trans ?_ (.syncActiveMembers _ _ _ (messageCreated_announcement ..))
  refine Store.Announces.trans ?_ (.enqueueAll ..)
  exact (Store.Announces.refreshHostedLocalProjections settings st₂ _ _).trans (hviews _ _)

/-- **A new group.** -/
theorem commitCreate_announces {groupDid keyPath : String} {document profile policy : Obj}
    {creator : Option VerifiedHandleBinding} {prepared : List PreparedMember}
    (h : commitCreate settings st req ctx groupDid document profile policy keyPath creator
      prepared = .ok (result, st')) : st.Announces st' := by
  unfold commitCreate at h
  obtain ⟨groups, -, h⟩ := bind_eq_ok.mp h
  obtain ⟨st₁, hinsert, h⟩ := bind_eq_ok.mp h
  obtain ⟨documents, -, h⟩ := bind_eq_ok.mp h
  obtain ⟨didDocuments, -, h⟩ := bind_eq_ok.mp h
  obtain ⟨receipt, -, h⟩ := bind_eq_ok.mp h
  obtain ⟨st₂, hevent, h⟩ := bind_eq_ok.mp h
  obtain ⟨⟨result₁, st₃⟩, hop, h⟩ := bind_eq_ok.mp h
  obtain ⟨-, rfl⟩ := Prod.mk.inj (pure_eq_ok.mp h)
  obtain ⟨rfl, -⟩ := insertMembers_eq_ok hinsert
  have hcreated : Announcement "group.created" [("group_did", .str groupDid)] :=
    ⟨by decide, fun _ ↦ eventGroupDid_bindable rfl rfl rfl⟩
  refine Store.Announces.trans ?_ ((writeEvent_announces hevent).trans
    ((storeOperation_announces hop).trans
      ((Store.Announces.syncActiveMembers st₃ _ _ hcreated).trans
      (.refreshHostedLocalProjections ..))))
  exact ⟨.refl, rfl, rfl, rfl⟩

/-- **A hosted call only announces.** -/
theorem hostedCall_announces {call : HostedCall}
    (h : hostedCall settings st call = .ok (result, st')) : st.Announces st' := by
  cases hostedCall_tail h with
  | replayed s hs ctx scope _ _ hsame => exact hsame ▸ .refl st
  | created ctx groupDid keyPath document profile policy creator prepared _ _ _ _ hcommit =>
    exact commitCreate_announces hcommit
  | changed ctx group members change _ _ _ _ hchange _ haccept =>
    have hmembers : st.Announces { st with hostedGroupMembers := members } :=
      ⟨.refl, rfl, rfl, rfl⟩
    exact hmembers.trans (acceptStateChange_announces haccept hchange.syncEventType)
  | sent ctx group messageId contentType _ _ _ _ haccept => exact acceptMessage_announces haccept

end Hosted

/-! ### Notifications and roster reads -/

section Home

variable {settings : Settings} {st st' : Store} {req : Request} {result : Obj}

/-- The receipt of a notification is no entry. -/
theorem recordInbound_announces {n : Notification} {method : GroupMethod} {eventSeq : ℤ}
    (h : recordInbound st req n method eventSeq = .ok (some st')) : st.Announces st' := by
  obtain ⟨source, -, row, -, -, rfl⟩ := recordInbound_eq_ok h
  exact ⟨.refl, rfl, rfl, rfl⟩

/-- A state change of a remote group is told to its local member. -/
theorem applyStateChanged_announces {n : Notification} {receipt : Obj}
    {eventType changedAt : String} {v s : ℤ}
    (h : applyStateChanged st req n receipt eventType changedAt v s = .ok (result, st')) :
    st.Announces st' := by
  rcases applyStateChanged_eq_ok h with ⟨records, rfl⟩ | ⟨records, rows, peer, -, rfl⟩
  · exact ⟨.refl, rfl, rfl, rfl⟩
  · refine Store.Announces.trans ?_ (.addSyncEvent _ (.plain (by decide)))
    exact ⟨.refl, rfl, rfl, rfl⟩

/-- So is a message of a remote group. -/
theorem applyIncoming_announces {n : Notification} {m : IncomingMessage}
    (h : applyIncoming st req n m = .ok (result, st')) : st.Announces st' := by
  unfold applyIncoming at h
  obtain ⟨view, -, h⟩ := bind_eq_ok.mp h
  obtain ⟨beforeTerminal, -, h⟩ := bind_eq_ok.mp h
  obtain ⟨_, -, h⟩ := bind_eq_ok.mp h
  obtain ⟨_, -, h⟩ := bind_eq_ok.mp h
  obtain ⟨recorded, hrecorded, h⟩ := bind_eq_ok.mp h
  cases recorded with
  | none =>
    obtain ⟨-, rfl⟩ := Prod.mk.inj (pure_eq_ok.mp h)
    exact .refl st
  | some st₁ =>
    obtain ⟨_, -, h⟩ := bind_eq_ok.mp h
    obtain ⟨st₂, hinsert, h⟩ := bind_eq_ok.mp h
    unfold insertMessageView at hinsert
    obtain ⟨_, -, hinsert⟩ := bind_eq_ok.mp hinsert
    obtain rfl := pure_eq_ok.mp hinsert
    obtain ⟨-, rfl⟩ := Prod.mk.inj (pure_eq_ok.mp h)
    refine (recordInbound_announces hrecorded).trans
      (Store.Announces.trans ?_ (.addSyncEvent _ (messageCreated_announcement ..)))
    exact ⟨.refl, rfl, rfl, rfl⟩

/-- A refreshed projection is told when something has changed. -/
theorem refreshRemoteMemberProjection_announces {reprFloat : PyFloat → String}
    {ownerDid updatedAt : String} {snapshot : Obj} {wireProfile : WireProfile} {refreshed : Bool}
    (h : refreshRemoteMemberProjection st reprFloat ownerDid snapshot wireProfile updatedAt =
      .ok (refreshed, st')) : st.Announces st' := by
  unfold refreshRemoteMemberProjection at h
  obtain ⟨groupDid, -, h⟩ := bind_eq_ok.mp h
  split at h
  · obtain ⟨-, rfl⟩ := Prod.mk.inj (pure_eq_ok.mp h)
    exact .refl st
  · obtain ⟨stateVersion, -, h⟩ := bind_eq_ok.mp h
    obtain ⟨eventSeq, -, h⟩ := bind_eq_ok.mp h
    split at h
    · obtain ⟨-, rfl⟩ := Prod.mk.inj (pure_eq_ok.mp h)
      exact .refl st
    · obtain ⟨members, -, h⟩ := bind_eq_ok.mp h
      obtain ⟨owner, -, h⟩ := bind_eq_ok.mp h
      obtain ⟨memberRole, -, h⟩ := bind_eq_ok.mp h
      obtain ⟨rows, -, h⟩ := bind_eq_ok.mp h
      -- The projection is replaced either way; only an observation that is new is announced.
      split at h
      · obtain ⟨-, rfl⟩ := Prod.mk.inj (pure_eq_ok.mp h)
        refine Store.Announces.trans ?_ (.addSyncEvent _ (.plain (by decide)))
        exact ⟨.refl, rfl, rfl, rfl⟩
      · obtain ⟨-, rfl⟩ := Prod.mk.inj (pure_eq_ok.mp h)
        exact ⟨.refl, rfl, rfl, rfl⟩

/-- A roster that has been read. -/
theorem refreshRemoteGroupMembers_announces {groupDid : String} {refreshed : Bool}
    (h : refreshRemoteGroupMembers st req groupDid result = .ok (refreshed, st')) :
    st.Announces st' := by
  unfold refreshRemoteGroupMembers at h
  obtain ⟨authenticated, -, h⟩ := bind_eq_ok.mp h
  obtain ⟨ownerDid, -, h⟩ := bind_eq_ok.mp h
  obtain ⟨service, -, h⟩ := bind_eq_ok.mp h
  obtain ⟨_, -, h⟩ := bind_eq_ok.mp h
  obtain ⟨hostServiceDid, -, h⟩ := bind_eq_ok.mp h
  obtain ⟨profile, -, h⟩ := bind_eq_ok.mp h
  obtain ⟨snapshot, -, h⟩ := bind_eq_ok.mp h
  exact refreshRemoteMemberProjection_announces h

end Home

/-! ### The requests that announce, as programs -/

/-- The transaction of a notification, its checks made against `seen`. -/
def stateChangedRequest (settings : Settings) (seen : Store) (req : Request) (params : Obj) :
    Statements Obj :=
  .locked fun st ↦ inboundCall settings st (.stateChanged seen req params)

/-- The transaction of a notified message. -/
def incomingRequest (settings : Settings) (seen : Store) (req : Request) (params : Obj) :
    Statements Obj :=
  .locked fun st ↦ inboundCall settings st (.incoming seen req params)

/-- The transaction of a roster read, with the answer of the Host. -/
def refreshRequest (req : Request) (groupDid : String) (result : Obj) : Statements Obj :=
  .locked fun st ↦
    (refreshRemoteGroupMembers st req groupDid result).map fun r ↦ (result, r.2)

/-- **The requests that append announcements**, as the programs they run. -/
inductive Announcer (settings : Settings) : Statements Obj → Prop where
  | directSend (req : SendRequest) (params : Obj) :
      Announcer settings (directSend settings req params)
  | groupJoin (req : SendRequest) (params : Obj) :
    Announcer settings (groupJoin settings req params)
  | groupLeave (req : SendRequest) (params : Obj) : Announcer settings (groupLeave req params)
  | groupSend (req : SendRequest) (params : Obj) : Announcer settings (groupSend req params)
  | hosted (call : HostedCall) : Announcer settings (.locked fun st ↦ hostedCall settings st call)
  | stateChanged (seen : Store) (req : Request) (params : Obj) :
      Announcer settings (stateChangedRequest settings seen req params)
  | incoming (seen : Store) (req : Request) (params : Obj) :
      Announcer settings (incomingRequest settings seen req params)
  | refresh (req : Request) (groupDid : String) (result : Obj) :
      Announcer settings (refreshRequest req groupDid result)

/-- `I` is kept by whatever only announces. -/
def KeptByAnnouncing (I : Store → Prop) : Prop := ∀ {st st'}, I st → st.Announces st' → I st'

section Announcers

variable {I : Store → Prop} {R : Option Store → Store → Store → Prop} {last : Option Store}
  {settings : Settings} {p : Statements Obj}

/-- **Every announcer keeps what announcing keeps**, whenever it gets the lock. -/
theorem Announcer.guarded (h : Announcer settings p) (hI : KeptByAnnouncing I) :
    p.Guarded I R (fun _ _ ↦ True) (fun _ s ↦ I s) last := by
  -- What is kept by announcing is kept by the other writes of these handlers as well.
  have hviews : ∀ messageId, SurvivesViewsOf messageId I :=
    fun _ _ _ _ hi ↦ hI hi ⟨.refl, rfl, rfl, rfl⟩
  have hmembers : IgnoresLegacyMembers I := fun _ _ hi ↦ hI hi ⟨.refl, rfl, rfl, rfl⟩
  have hevents : SurvivesEvents I := fun _ _ _ _ _ ha hi ↦ hI hi (.addSyncEvent _ ha)
  cases h with
  | directSend req params =>
    refine directSend_guarded (fun c l ↦ storeDirectMessage_guarded (fun c read _ ↦ ?_) c l) params
    refine insertAndShow_guarded (V := fun _ ↦ I) (fun row ↦ hviews row.messageId)
      (fun _ ↦ hevents) (fun row s s' _ hs hinsert _ ↦ ?_) fun _ _ _ h ↦ h
    obtain rfl := insertDirectMessage_eq_ok hinsert
    exact hI hs ⟨.refl, rfl, rfl, rfl⟩
  | groupJoin req params => exact groupJoin_guarded hmembers hevents params
  | groupLeave req params => exact groupLeave_guarded hmembers hevents params
  | groupSend req params =>
    refine groupSend_guarded (fun c read htruthy _ ↦ ?_) params
    refine insertAndAnnounce_guarded hevents htruthy fun row s s' _ hs hinsert _ ↦ ?_
    obtain rfl := insertLegacyMessage_eq_ok hinsert
    exact hI hs ⟨.refl, rfl, rfl, rfl⟩
  | hosted call =>
    exact Program.guarded_locked fun hs hok ↦ hI hs (hostedCall_announces hok)
  | stateChanged seen req params =>
    refine Program.guarded_locked fun hs hok ↦ ?_
    obtain ⟨v, -, hok⟩ := bind_eq_ok.mp hok
    exact hI hs (applyStateChanged_announces hok)
  | incoming seen req params =>
    refine Program.guarded_locked fun hs hok ↦ ?_
    obtain ⟨⟨n, m⟩, -, hok⟩ := bind_eq_ok.mp hok
    exact hI hs (applyIncoming_announces hok)
  | refresh req groupDid result =>
    refine Program.guarded_locked fun {s a s'} hs hok ↦ ?_
    cases hrefresh : refreshRemoteGroupMembers s req groupDid result with
    | error e =>
      rw [hrefresh] at hok
      cases hok
    | ok r =>
      rw [hrefresh] at hok
      obtain ⟨-, rfl⟩ := Prod.mk.inj (Except.ok.inj hok)
      exact hI hs (refreshRemoteGroupMembers_announces hrefresh)

end Announcers

/-! ### Everything that runs -/

/-- No write of the program touches the log. -/
inductive LeavesLog : Statements Obj → Prop where
  | ret (result : Obj) : LeavesLog (.ret result)
  | raise (e : AwikiError) : LeavesLog (.raise e)
  | select {k : Store → Statements Obj} (hk : ∀ s, LeavesLog (k s)) : LeavesLog (.select k)
  | execute {f : Store → Result Store} {k : Statements Obj}
      (hf : ∀ s s', f s = .ok s' → s'.syncEvents = s.syncEvents) (hk : LeavesLog k) :
      LeavesLog (.execute f k)

/-- **Any request of the server**: an announcer, one of the two read-state handlers, or a request
that leaves the log alone. -/
inductive LogWriter (settings : Settings) : Statements Obj → Prop where
  | announcer {p : Statements Obj} (h : Announcer settings p) : LogWriter settings p
  | markRead (seen : Store) (req : Request) (params : Obj) :
      LogWriter settings (.locked fun st ↦ markRead seen st req params)
  | inboxMarkRead (req : InboxRequest) (params : Obj) :
      LogWriter settings (.locked fun st ↦ inboxMarkRead st req params)
  | other {p : Statements Obj} (h : LeavesLog p) : LogWriter settings p

section Runs

variable {J : List SyncEvent → Prop} {R : Option Store → Store → Store → Prop}
  {last : Option Store} {settings : Settings} {p : Statements Obj}

/-- A program that leaves the log alone keeps what is said of it, -/
theorem LeavesLog.wp (h : LeavesLog p) {s : Store} (hs : J s.syncEvents) :
    p.WP (fun _ s ↦ J s.syncEvents) s := by
  induction h generalizing s with
  | ret result => exact hs
  | raise e => trivial
  | select _ ih => exact ih s hs
  | execute hf _ ih => exact fun s' hs' ↦ ih (hf s s' hs' ▸ hs)

/-- whenever it runs. -/
theorem LeavesLog.guarded (h : LeavesLog p) :
    p.Guarded (fun st ↦ J st.syncEvents) R (fun _ _ ↦ True) (fun _ s ↦ J s.syncEvents) last := by
  induction h generalizing last with
  | ret result => trivial
  | raise e => trivial
  | select _ ih => exact fun s _ ↦ ih s
  | execute hf hk _ => exact fun s s' hs hs' _ ↦ hk.wp (hf s s' hs' ▸ hs)

/-- Every request keeps what the growth of the log keeps. -/
theorem LogWriter.guarded (h : LogWriter settings p)
    (hJ : ∀ {a b}, J a → SyncLogGrows SyncEvent.Wellformed a b → J b) :
    p.Guarded (fun st ↦ J st.syncEvents) R (fun _ _ ↦ True) (fun _ s ↦ J s.syncEvents) last := by
  cases h with
  | announcer h => exact h.guarded fun hs ha ↦ hJ hs (ha.log.mono fun _ ↦ .inl)
  | markRead seen req params => exact Program.guarded_locked fun hs hok ↦ hJ hs (markRead_grows hok)
  | inboxMarkRead req params =>
    exact Program.guarded_locked fun hs hok ↦ hJ hs (inboxMarkRead_grows hok)
  | other h => exact h.guarded

/-- **Runs of the server** from an idle one. `R` restricts nothing when it is trivial. -/
def ServerReaches (settings : Settings) (R : Option Store → Store → Store → Prop) (st : Store)
    (w : Server) : Prop :=
  Runs.ReachesWith World.Step (World.Admits (LogWriter settings) R) (.idle st) w

/-- The log invariant of a run. -/
theorem ServerReaches.log {st : Store} {w : Server} (h : ServerReaches settings R st w)
    (hst : st.syncEvents = []) :
    Gapless w.committed.syncEvents ∧ ∀ e ∈ w.committed.syncEvents, e.Wellformed := by
  refine World.committed_invariant
    (I := fun st ↦ Gapless st.syncEvents ∧ ∀ e ∈ st.syncEvents, e.Wellformed) ?_ (fun p hp ↦ ?_) h
  · rw [hst]
    exact ⟨.nil, by simp⟩
  · exact LogWriter.guarded (J := fun log ↦ Gapless log ∧ ∀ e ∈ log, e.Wellformed) hp
      fun hlog hgrows ↦ ⟨hgrows.gapless hlog.1, hgrows.forall_mem hlog.2⟩

end Runs

/-- A gapless log has no gap. -/
theorem Gapless.logGap {st : Store} (h : Gapless st.syncEvents) (owner : String) :
    (logGap st owner).2.2 = false := by
  have hlength : (logNumbers st.syncEvents owner).foldr max 0 =
      (logNumbers st.syncEvents owner).length := by
    rw [h owner, foldr_max_range', List.length_range']
  show decide ((logNumbers st.syncEvents owner).length ≠
    (logNumbers st.syncEvents owner).foldr max 0) = false
  rw [hlength]
  simp

/-- **The log of every owner is gapless.** In any interleaving of any requests of the server, failed
and cut-off ones included, from a server whose log is empty: the numbers of each owner are `1, …,
n`, each once, `_log_gap` reports nothing, and `sync.delta` never calls the log incomplete. -/
theorem sync_log_gapless {settings : Settings} {R : Option Store → Store → Store → Prop}
    {st : Store}
    {w : Server} (hst : st.syncEvents = []) (h : ServerReaches settings R st w) (owner : String) :
    (logNumbers w.committed.syncEvents owner).Nodup ∧
      (∀ k, k ∈ logNumbers w.committed.syncEvents owner ↔
        1 ≤ k ∧ k ≤ (logNumbers w.committed.syncEvents owner).length) ∧
      (logGap w.committed owner).2.2 = false ∧
      ∀ keys settings req params, (∀ o, Quiet (req.outside.canonicalSize o)) →
        (∀ v, Quiet (req.outside.sha256Digest v)) →
        Quiet (syncDeltaV2 keys settings w.committed req params) := by
  obtain ⟨hlog, -⟩ := h.log hst
  refine ⟨?_, fun k ↦ ?_, hlog.logGap owner, fun keys settings req params hsize hdigest ↦ ?_⟩
  · rw [hlog owner]
    exact List.nodup_range'
  · generalize hn : (logNumbers w.committed.syncEvents owner).length = n
    rw [hlog owner, hn, List.mem_range'_1]
    omega
  · exact syncDeltaV2_quiet hsize hdigest hlog params

/-- Two direct sends that read before either writes; the second is still writing. -/
def twoSends : Server :=
  World.runAll (.idle sampleSenders)
    (schedule (sampleDirect "m1") (sampleDirect "m2") [(0, 5), (1, 5), (0, 6), (1, 3)])

/-- Cut off there, it leaves nothing: Alice's log has the one entry of the first send. -/
theorem sync_log_gapless_interleaved :
    logNumbers (twoSends.step (.cutOff 1)).committed.syncEvents alice = [1] ∧
      (logGap (twoSends.step (.cutOff 1)).committed alice).2.2 = false := by
  have hrun : ServerReaches .sample (fun _ _ _ ↦ true = true) sampleSenders twoSends :=
    reachesWith_schedule _ (.announcer (.directSend _ _)) (.announcer (.directSend _ _))
      (by decide +kernel)
  have hcut : ServerReaches .sample (fun _ _ _ ↦ true = true) sampleSenders
      (twoSends.step (.cutOff 1)) := hrun.tail (l := .cutOff 1) trivial rfl
  exact ⟨by decide +kernel, (sync_log_gapless rfl hcut alice).2.2.1⟩

end Awiki
