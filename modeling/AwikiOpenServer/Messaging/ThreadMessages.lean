import AwikiOpenServer.Messaging.ReadStateLog

/-!
# The messages of a thread

A thread is the conversation of an owner with a peer, or a group, and what the owner sees of it is a
list of numbered messages. Where a group keeps them depends on the group: the messages of a hosted
group, the projection of a group hosted elsewhere, or those of a group without a Group DID.

Between two requests messages are only added, and a group keeps the table it has: `MessagesGrow` is
what a send does, whichever of the four it is, so what an owner has seen of a thread goes on to be
seen.

## The subject of a thread

The id of a thread is a word and a text, `direct:` and a peer or `group:` and a group. A request may
give the peer or the group as any JSON value, and SQLite compares what it binds: `True` is bound as
`1`, while the id of the thread says `True`. `boundSubjects` are the texts the database may know the
subject of a thread by, and `visibleNumbers` collects the messages under all of them. So nothing is
assumed of the values a request brings, and `threadNumbers_visible` holds for each: **a mark is held
against messages the owner sees in the thread it names**.

## Growth

`MessagesGrow` lists the tables messages are in, and the two that decide where those of a group are.
`MessageSend.grows` goes through the sends of the server: a direct message, a message of a legacy
group, one to a hosted group, and one a Host has notified. Marks only set times in views.

The highest number an owner sees in a thread is what bounds a watermark; it is monotone along growth
(`MessagesGrow.highestVisible`), and zero where there are no messages.
-/

namespace Awiki

open Py Transactions

/-- The table of a group's messages, whether or not the owner is a member now. -/
def groupTable (st : Store) (owner groupDid : String) : GroupSource :=
  if (st.hostedGroup? groupDid).isSome then .hosted
  else if (st.groupView? owner groupDid).isSome then .projected
  else .legacy

/-- Where the messages of a group are, for an owner who may see them. -/
theorem groupSource_eq_ok {st : Store} {owner groupDid : String} {source : GroupSource}
    (h : groupSource st owner groupDid = .ok source) : source = groupTable st owner groupDid := by
  unfold groupSource at h
  unfold groupTable
  split at h
  · rename_i hhosted
    obtain ⟨_, -, h⟩ := bind_eq_ok.mp h
    rw [if_pos hhosted, pure_eq_ok.mp h]
  · rename_i hhosted
    rw [if_neg hhosted]
    split at h
    · rename_i hview
      obtain ⟨_, -, h⟩ := bind_eq_ok.mp h
      rw [if_pos hview, pure_eq_ok.mp h]
    · rename_i hview
      obtain ⟨_, -, h⟩ := bind_eq_ok.mp h
      rw [if_neg hview, pure_eq_ok.mp h]

/-- What a thread id says after its kind: the peer, or the group. -/
def threadSubject (threadId : String) : String :=
  if startsWith "direct:" threadId then withoutHead "direct:" threadId
  else withoutHead "group:" threadId

/-- How the database knows the subject of a thread. It is the text of the id, except that a request
may also name its thread by JSON `true`, which `str` writes `True` and the database binds as `1`. -/
def boundSubjects (subject : String) : List String :=
  if subject = "True" then ["True", "1"] else [subject]

/-- and so do those an owner sees in a thread. -/
def visibleNumbers (st : Store) (owner threadId : String) : List ℤ :=
  (boundSubjects (threadSubject threadId)).flatMap fun subject ↦
    if startsWith "direct:" threadId then
      (conversationMessages st owner subject).map fun p ↦ (p.1.serverSeq : ℤ)
    else (groupMessageNumbers st (groupTable st owner subject) owner subject).map Prod.snd

/-- The highest of them, 0 if there is none. -/
def highestVisible (st : Store) (owner threadId : String) : ℤ :=
  (visibleNumbers st owner threadId).foldr max 0

/-- A message of a conversation is one with a view of it. -/
theorem mem_conversationMessages {st : Store} {owner peer : String} {m : DirectMessage}
    {v : DirectMessageView} :
    (m, v) ∈ conversationMessages st owner peer ↔ m ∈ st.directMessages ∧
      v ∈ st.directMessageViews ∧ v.messageId = m.messageId ∧ v.ownerDid = owner ∧
        v.peerDid = peer := by
  simp [conversationMessages]

/-! ### Messages are only added -/

/-- **What sends and marks do to the messages**: none goes, none changes its number, and no group
changes the table its messages are in. -/
structure MessagesGrow (st st' : Store) : Prop where
  directMessages : st.directMessages ⊆ st'.directMessages
  /-- A view may have been read since. -/
  directMessageViews : ∀ v ∈ st.directMessageViews, ∃ v' ∈ st'.directMessageViews,
    v'.key = v.key ∧ v'.peerDid = v.peerDid
  groupMessages : st.groupMessages ⊆ st'.groupMessages
  hostedGroupMessages : st.hostedGroupMessages ⊆ st'.hostedGroupMessages
  groupMessageViews : st.groupMessageViews ⊆ st'.groupMessageViews
  groupTable : ∀ owner groupDid, groupTable st' owner groupDid = groupTable st owner groupDid

namespace MessagesGrow

variable {a b c : Store} {owner threadId : String}

/-- Nothing has come. -/
theorem refl (st : Store) : MessagesGrow st st where
  directMessages := List.Subset.refl _
  directMessageViews v hv := ⟨v, hv, rfl, rfl⟩
  groupMessages := List.Subset.refl _
  hostedGroupMessages := List.Subset.refl _
  groupMessageViews := List.Subset.refl _
  groupTable _ _ := rfl

/-- First the one, then the other. -/
theorem trans (hab : MessagesGrow a b) (hbc : MessagesGrow b c) : MessagesGrow a c where
  directMessages := List.Subset.trans hab.directMessages hbc.directMessages
  directMessageViews v hv := by
    obtain ⟨v', hv', hkey, hpeer⟩ := hab.directMessageViews v hv
    obtain ⟨v'', hv'', hkey', hpeer'⟩ := hbc.directMessageViews v' hv'
    exact ⟨v'', hv'', hkey'.trans hkey, hpeer'.trans hpeer⟩
  groupMessages := List.Subset.trans hab.groupMessages hbc.groupMessages
  hostedGroupMessages := List.Subset.trans hab.hostedGroupMessages hbc.hostedGroupMessages
  groupMessageViews := List.Subset.trans hab.groupMessageViews hbc.groupMessageViews
  groupTable owner groupDid := (hbc.groupTable owner groupDid).trans (hab.groupTable owner groupDid)

/-- A relation that only concerns the tables of messages. -/
theorem of_eq (hmessages : b.directMessages = a.directMessages)
    (hviews : b.directMessageViews = a.directMessageViews)
    (hgroups : b.groupMessages = a.groupMessages)
    (hhosted : b.hostedGroupMessages = a.hostedGroupMessages)
    (hprojected : b.groupMessageViews = a.groupMessageViews)
    (htable : ∀ owner groupDid, Awiki.groupTable b owner groupDid =
      Awiki.groupTable a owner groupDid) : MessagesGrow a b where
  directMessages := hmessages ▸ List.Subset.refl _
  directMessageViews v hv := ⟨v, hviews ▸ hv, rfl, rfl⟩
  groupMessages := hgroups ▸ List.Subset.refl _
  hostedGroupMessages := hhosted ▸ List.Subset.refl _
  groupMessageViews := hprojected ▸ List.Subset.refl _
  groupTable := htable

/-- The numbers of a conversation stay. -/
theorem conversationNumbers (h : MessagesGrow a b) (owner peer : String) :
    (conversationMessages a owner peer).map (fun p ↦ (p.1.serverSeq : ℤ)) ⊆
      (conversationMessages b owner peer).map fun p ↦ (p.1.serverSeq : ℤ) := by
  intro n hn
  obtain ⟨⟨m, v⟩, hmem, rfl⟩ := List.mem_map.mp hn
  obtain ⟨hm, hv, hid, howner, hpeer⟩ := mem_conversationMessages.mp hmem
  obtain ⟨v', hv', hkey, hpeer'⟩ := h.directMessageViews v hv
  obtain ⟨howner', hid'⟩ := Prod.mk.inj hkey
  exact List.mem_map.mpr ⟨(m, v'), mem_conversationMessages.mpr
    ⟨h.directMessages hm, hv', hid'.trans hid, howner'.trans howner, hpeer'.trans hpeer⟩, rfl⟩

/-- So do those of a group, in each of its tables, -/
theorem groupMessageNumbers (h : MessagesGrow a b) (source : GroupSource)
    (owner groupDid : String) :
    groupMessageNumbers a source owner groupDid ⊆ groupMessageNumbers b source owner groupDid := by
  cases source with
  | hosted => exact List.map_subset _ (List.filter_subset _ h.hostedGroupMessages)
  | projected => exact List.map_subset _ (List.filter_subset _ h.groupMessageViews)
  | legacy => exact List.map_subset _ (List.filter_subset _ h.groupMessages)

theorem visibleNumbers (h : MessagesGrow a b) (owner threadId : String) :
    visibleNumbers a owner threadId ⊆ visibleNumbers b owner threadId := by
  intro n hn
  obtain ⟨subject, hsubject, hn⟩ := List.mem_flatMap.mp hn
  refine List.mem_flatMap.mpr ⟨subject, hsubject, ?_⟩
  by_cases hdirect : startsWith "direct:" threadId = true
  · rw [if_pos hdirect] at hn ⊢
    exact h.conversationNumbers owner subject hn
  · rw [if_neg hdirect] at hn ⊢
    rw [h.groupTable]
    exact List.map_subset _ (h.groupMessageNumbers _ owner subject) hn

end MessagesGrow

/-! ### Every send adds messages -/

section Sends

variable {settings : Settings} {st st' : Store}

/-- The table of a group depends on which groups are hosted here, and on the views of the others. -/
theorem groupTable_congr
    (hhosted : ∀ g, (st'.hostedGroup? g).isSome = (st.hostedGroup? g).isSome)
    (hviews : ∀ owner g, (st.hostedGroup? g).isSome = false →
      (st'.groupView? owner g).isSome = (st.groupView? owner g).isSome) (owner groupDid : String) :
    groupTable st' owner groupDid = groupTable st owner groupDid := by
  unfold groupTable
  rw [hhosted]
  cases hg : (st.hostedGroup? groupDid).isSome with
  | true => rfl
  | false => rw [hviews owner groupDid hg]

namespace MessagesGrow

/-- The sync log does not matter. -/
theorem survivesEvents (st : Store) : SurvivesEvents (MessagesGrow st) :=
  fun _ _ _ _ _ _ h ↦ h.trans (.of_eq rfl rfl rfl rfl rfl fun _ _ ↦ rfl)

/-- Refreshing the views of a hosted group changes no other group's views. -/
theorem refreshHostedLocalProjections (st : Store) (groupDid now : String) :
    MessagesGrow st (refreshHostedLocalProjections settings st groupDid now) := by
  unfold Awiki.refreshHostedLocalProjections
  cases hgroup : st.hostedGroup? groupDid with
  | none => exact refl st
  | some group =>
    refine .of_eq rfl rfl rfl rfl rfl (groupTable_congr (fun _ ↦ rfl) fun owner g hg ↦ ?_)
    have hne : g ≠ groupDid := by
      rintro rfl
      rw [hgroup] at hg
      cases hg
    have hgroupDid : group.groupDid = groupDid := Table.key_of_row? hgroup
    -- The upserts are of rows of `groupDid`.
    have hupserts : ∀ (owners : List HostedMember) (views : List GroupView),
        (Table.row? GroupView.key (owner, g) (owners.foldl (fun views m ↦ Table.upsert GroupView.key
          (hostedView group m now) (refreshView (hostedView group m now)) views) views)).isSome =
        (Table.row? GroupView.key (owner, g) views).isSome := by
      intro owners
      induction owners with
      | nil => exact fun _ ↦ rfl
      | cons m rest ih =>
        intro views
        have hkeys : ∀ old, old.key = (hostedView group m now).key →
            (refreshView (hostedView group m now) old).key = (hostedView group m now).key :=
          fun _ h ↦ h
        rw [List.foldl_cons, ih, Table.row?_upsert hkeys, if_neg]
        exact fun h ↦ hne ((Prod.mk.inj h).2.trans hgroupDid)
    show (Table.row? GroupView.key (owner, g) (Table.updateWhere _ _ _)).isSome = _
    exact Eq.trans (Table.isSome_row?_updateWhere fun _ ↦ rfl) (hupserts _ _)

/-- A message of a hosted group is added to the projections of its members. -/
theorem projectHostedMessage (st : Store) (groupDid : String)
    (viewFor : String → GroupMessageView) :
    MessagesGrow st (projectHostedMessageForLocalMembers settings st groupDid viewFor) := by
  refine { refl st with groupMessageViews := ?_, groupTable := fun _ _ ↦ rfl }
  unfold Awiki.projectHostedMessageForLocalMembers
  dsimp only
  generalize List.filter _ (st.activeMembers groupDid) = owners
  generalize st.groupMessageViews = rows
  induction owners generalizing rows with
  | nil => exact List.Subset.refl _
  | cons m rest ih =>
    rw [List.foldl_cons]
    refine List.Subset.trans ?_ (ih _)
    split
    · exact List.Subset.refl _
    · exact List.subset_append_left _ _

/-- The outbox does not matter. -/
theorem enqueueAll (st : Store) (groupDid createdAt : String) (groupEventSeq : ℕ)
    (method : GroupMethod) (envelopeFor : String → Obj) (members : List HostedMember) :
    MessagesGrow st
      (enqueueAll st groupDid groupEventSeq method envelopeFor createdAt members) := by
  obtain ⟨rows, h⟩ := enqueueAll_eq groupDid createdAt groupEventSeq method envelopeFor members st
  rw [h]
  exact .of_eq rfl rfl rfl rfl rfl fun _ _ ↦ rfl

end MessagesGrow

/-- A message to a hosted group. -/
theorem acceptMessage_grows {req : Request} {ctx : GroupRequest} {group : HostedGroup}
    {messageId contentType : String} {result : Obj}
    (h : acceptMessage settings st req ctx group messageId contentType = .ok (result, st')) :
    MessagesGrow st st' := by
  unfold acceptMessage at h
  obtain ⟨receipt, -, h⟩ := bind_eq_ok.mp h
  obtain ⟨_, -, h⟩ := bind_eq_ok.mp h
  obtain ⟨st₁, hevent, h⟩ := bind_eq_ok.mp h
  obtain ⟨⟨result₁, st₂⟩, hop, h⟩ := bind_eq_ok.mp h
  obtain ⟨-, rfl⟩ := Prod.mk.inj (pure_eq_ok.mp h)
  have hstored : MessagesGrow st st₂ := by
    obtain ⟨-, op, -, -, -, -, rfl⟩ := storeOperation_eq_ok hop
    rw [writeEvent_eq_ok hevent]
    refine { MessagesGrow.refl st with
      hostedGroupMessages := List.subset_append_left _ _
      groupTable := groupTable_congr (fun g ↦ ?_) fun _ _ _ ↦ rfl }
    exact Table.isSome_row?_updateWhere fun _ ↦ rfl
  refine (MessagesGrow.survivesEvents st).syncActiveMembers (messageCreated_announcement ..) ?_
  exact hstored.trans ((MessagesGrow.refreshHostedLocalProjections st₂ _ _).trans
    ((MessagesGrow.projectHostedMessage _ _ _).trans (MessagesGrow.enqueueAll ..)))

/-- A message a Host has notified. -/
theorem applyIncoming_grows {req : Request} {n : Notification} {m : IncomingMessage} {result : Obj}
    (h : applyIncoming st req n m = .ok (result, st')) : MessagesGrow st st' := by
  unfold applyIncoming at h
  obtain ⟨view, -, h⟩ := bind_eq_ok.mp h
  obtain ⟨beforeTerminal, -, h⟩ := bind_eq_ok.mp h
  obtain ⟨_, -, h⟩ := bind_eq_ok.mp h
  obtain ⟨_, -, h⟩ := bind_eq_ok.mp h
  obtain ⟨recorded, hrecorded, h⟩ := bind_eq_ok.mp h
  cases recorded with
  | none =>
    obtain ⟨-, rfl⟩ := Prod.mk.inj (pure_eq_ok.mp h)
    exact .refl st
  | some st₁ =>
    obtain ⟨_, -, h⟩ := bind_eq_ok.mp h
    obtain ⟨st₂, hinsert, h⟩ := bind_eq_ok.mp h
    unfold insertMessageView at hinsert
    obtain ⟨_, -, hinsert⟩ := bind_eq_ok.mp hinsert
    obtain rfl := pure_eq_ok.mp hinsert
    obtain ⟨-, rfl⟩ := Prod.mk.inj (pure_eq_ok.mp h)
    obtain ⟨source, -, row, -, -, rfl⟩ := recordInbound_eq_ok hrecorded
    refine { MessagesGrow.refl st with
      groupMessageViews := List.subset_append_left _ _
      groupTable := groupTable_congr (fun _ ↦ rfl) fun owner g _ ↦ ?_ }
    exact Table.isSome_row?_updateWhere fun _ ↦ rfl

/-- **A send**: of a direct message, of a message into a group of either kind, or the arrival of a
message of a group hosted elsewhere. -/
inductive MessageSend (settings : Settings) : Statements Obj → Prop where
  | direct (req : SendRequest) (params : Obj) :
    MessageSend settings (directSend settings req params)
  | legacy (req : SendRequest) (params : Obj) : MessageSend settings (groupSend req params)
  | hosted (call : HostedCall) (hmethod : call.method = .send) :
      MessageSend settings (.locked fun st ↦ hostedCall settings st call)
  | incoming (seen : Store) (req : Request) (params : Obj) :
      MessageSend settings (incomingRequest settings seen req params)

/-- A send announces. -/
theorem MessageSend.announcer {p : Statements Obj} (h : MessageSend settings p) :
    Announcer settings p := by
  cases h with
  | direct req params => exact .directSend req params
  | legacy req params => exact .groupSend req params
  | hosted call _ => exact .hosted call
  | incoming seen req params => exact .incoming seen req params

/-- **Sends only add messages.** -/
theorem MessageSend.grows {p : Statements Obj} {result : Obj} (h : MessageSend settings p)
    (hrun : p.run st = .ok (result, st')) : MessagesGrow st st' := by
  suffices hguarded : p.Guarded (MessagesGrow st) (fun _ _ _ ↦ True) (fun _ _ ↦ True)
      (fun _ s ↦ MessagesGrow st s) none from hguarded.run (.refl st) hrun
  cases h with
  | direct req params =>
    refine directSend_guarded (fun c l ↦ storeDirectMessage_guarded (fun c read _ ↦ ?_) c l) params
    refine insertAndShow_guarded (V := fun _ ↦ MessagesGrow st) (fun row s view _ hs ↦ ?_)
      (fun _ ↦ .survivesEvents st) (fun row s s' _ hs hinsert _ ↦ ?_) fun _ _ _ h ↦ h
    · exact hs.trans { MessagesGrow.refl s with
        directMessageViews := fun v hv ↦ ⟨v, Table.subset_insertOrIgnore hv, rfl, rfl⟩ }
    · rw [insertDirectMessage_eq_ok hinsert]
      exact hs.trans { MessagesGrow.refl s with
        directMessages := List.subset_append_left _ _ }
  | legacy req params =>
    refine groupSend_guarded (fun c read htruthy _ ↦ ?_) params
    refine insertAndAnnounce_guarded (MessagesGrow.survivesEvents st) htruthy
      fun row s s' _ hs hinsert _ ↦ ?_
    rw [insertLegacyMessage_eq_ok hinsert]
    exact hs.trans { MessagesGrow.refl s with groupMessages := List.subset_append_left _ _ }
  | hosted call hmethod =>
    refine Program.guarded_locked fun hs hok ↦ hs.trans ?_
    cases hostedCall_tail hok with
    | replayed s _ ctx scope _ _ hsame => exact hsame ▸ .refl _
    | created ctx groupDid keyPath document profile policy creator prepared hcreate =>
      rw [hmethod] at hcreate
      cases hcreate
    | changed ctx group members change hchange => exact absurd hmethod hchange
    | sent ctx group messageId contentType _ _ _ _ haccept => exact acceptMessage_grows haccept
  | incoming seen req params =>
    refine Program.guarded_locked fun hs hok ↦ ?_
    obtain ⟨⟨n, m⟩, -, hok⟩ := bind_eq_ok.mp hok
    exact hs.trans (applyIncoming_grows hok)

end Sends

/-- Marking views as read loses none of them. -/
theorem MessagesGrow.markViews (st : Store) (p : DirectMessageView → Bool) (readAt : String) :
    MessagesGrow st { st with
      directMessageViews := Table.updateWhere p (fun v ↦ { v with readAt := some readAt })
        st.directMessageViews } :=
  { MessagesGrow.refl st with
    directMessageViews := fun v hv ↦ by
      refine ⟨_, Table.mem_updateWhere.mpr ⟨v, hv, rfl⟩, ?_⟩
      split
      · exact ⟨rfl, rfl⟩
      · exact ⟨rfl, rfl⟩ }

/-! ### The highest number -/

/-- A maximum with zero is at least zero, -/
theorem foldr_max_nonneg (l : List ℤ) : 0 ≤ l.foldr max 0 := by
  induction l with
  | nil => exact le_rfl
  | cons n rest ih => exact ih.trans (le_max_right _ _)

/-- grows with the list, -/
theorem foldr_max_mono {l l' : List ℤ} (h : l ⊆ l') : l.foldr max 0 ≤ l'.foldr max 0 := by
  induction l with
  | nil => exact foldr_max_nonneg l'
  | cons n rest ih =>
    exact max_le (List.le_max_of_le' 0 (h List.mem_cons_self) le_rfl)
      (ih fun _ hm ↦ h (List.mem_cons_of_mem _ hm))

/-- and is bounded by what bounds its members. -/
theorem foldr_max_le {l : List ℤ} {b : ℤ} (hb : 0 ≤ b) (h : ∀ n ∈ l, n ≤ b) :
    l.foldr max 0 ≤ b := by
  induction l with
  | nil => exact hb
  | cons n rest ih =>
    exact max_le (h n List.mem_cons_self) (ih fun k hk ↦ h k (List.mem_cons_of_mem _ hk))

/-- `COALESCE(MAX(n), 0)` is at most the larger of the maximum and 0. -/
theorem max?_getD_le_foldr_max (l : List ℤ) : l.max?.getD 0 ≤ l.foldr max 0 := by
  cases hmax : l.max? with
  | none => exact foldr_max_nonneg l
  | some n => exact List.le_max_of_le' 0 (List.max?_mem hmax) le_rfl

/-- **What an owner sees only gets higher.** -/
theorem MessagesGrow.highestVisible {a b : Store} (h : MessagesGrow a b) (owner threadId : String) :
    highestVisible a owner threadId ≤ highestVisible b owner threadId :=
  foldr_max_mono (h.visibleNumbers owner threadId)

/-- It is no negative number. -/
theorem highestVisible_nonneg (st : Store) (owner threadId : String) :
    0 ≤ highestVisible st owner threadId := foldr_max_nonneg _

/-! ### The thread of a request -/

section Requests

variable {st : Store} {outside : Outside} {owner threadId : String}

/-- A text is bound as it is. -/
theorem self_mem_boundSubjects (subject : String) : subject ∈ boundSubjects subject := by
  unfold boundSubjects
  split
  · simp [*]
  · simp

/-- What a request binds is one of the subjects its thread stands for. -/
theorem mem_boundSubjects {v : Json} {subject : String} (htruthy : v.truthy = true)
    (h : bindTextNotNull outside.reprFloat v = .ok subject) :
    subject ∈ boundSubjects (outside.str v) := by
  cases v with
  | bool b =>
    cases b with
    | false => cases htruthy
    | true =>
      obtain rfl := Except.ok.inj h
      show _ ∈ boundSubjects "True"
      simp [boundSubjects]
  | null => cases htruthy
  | arr l => cases h
  | obj o => cases h
  | int n =>
    rw [bindTextNotNull_int h]
    exact self_mem_boundSubjects _
  | float x =>
    rw [bindTextNotNull_float h]
    exact self_mem_boundSubjects _
  | str s =>
    obtain rfl := Except.ok.inj h
    exact self_mem_boundSubjects _

/-- The head of a text comes off. -/
theorem withoutHead_append (head text : String) : withoutHead head (head ++ text) = text := by
  rw [withoutHead, if_pos (startsWith_append head text), String.toList_append,
    ← String.length_toList, List.drop_left, String.ofList_toList]

/-- No group id is the id of a conversation. -/
theorem not_direct_of_group {id : String} (h : startsWith "group:" id = true) :
    startsWith "direct:" id = false := by
  obtain ⟨rest, hrest⟩ := List.isPrefixOf_iff_prefix.mp h
  rw [startsWith, ← hrest]
  rfl

/-- What is in a conversation is seen in its thread. -/
theorem conversation_visible {peer subject : String} (hsubject : subject ∈ boundSubjects peer) :
    (conversationMessages st owner subject).map (fun p ↦ (p.1.serverSeq : ℤ)) ⊆
      visibleNumbers st owner ("direct:" ++ peer) := by
  intro n hn
  have hdirect := startsWith_append "direct:" peer
  refine List.mem_flatMap.mpr ⟨subject, ?_, ?_⟩
  · rw [threadSubject, if_pos hdirect, withoutHead_append]
    exact hsubject
  · rw [if_pos hdirect]
    exact hn

/-- What is in the table of a group is seen in its thread. -/
theorem group_visible {subject : String} (hgroup : startsWith "group:" threadId = true)
    (hsubject : subject ∈ boundSubjects (withoutHead "group:" threadId)) {source : GroupSource}
    (hsource : groupSource st owner subject = .ok source) :
    (groupMessageNumbers st source owner subject).map Prod.snd ⊆
      visibleNumbers st owner threadId := by
  intro n hn
  have hdirect := Bool.eq_false_iff.mp (not_direct_of_group hgroup)
  refine List.mem_flatMap.mpr ⟨subject, ?_, ?_⟩
  · rw [threadSubject, if_neg hdirect]
    exact hsubject
  · rw [if_neg hdirect, ← groupSource_eq_ok hsource]
    exact hn

/-- **A mark is held against messages the owner sees in the thread it names.** -/
theorem threadNumbers_visible {params : Obj} {thread : Thread} {numbers : List (String × ℤ)}
    (hthread : threadFromParams outside params = .ok (thread, threadId))
    (hgiven : thread.isGiven = true) (h : threadNumbers outside st owner thread = .ok numbers) :
    numbers.map Prod.snd ⊆ visibleNumbers st owner threadId := by
  have hdirect : ∀ peer, thread = .direct peer → threadId = "direct:" ++ outside.str peer →
      numbers.map Prod.snd ⊆ visibleNumbers st owner threadId := by
    rintro peer rfl rfl
    obtain ⟨subject, hsubject, h⟩ := bind_eq_ok.mp h
    rw [← pure_eq_ok.mp h, List.map_map]
    exact conversation_visible (mem_boundSubjects hgiven hsubject)
  have hgroup : ∀ groupDid, thread = .group groupDid → startsWith "group:" threadId = true →
      withoutHead "group:" threadId = outside.str groupDid →
      numbers.map Prod.snd ⊆ visibleNumbers st owner threadId := by
    rintro groupDid rfl hhead hrest
    obtain ⟨subject, hsubject, h⟩ := bind_eq_ok.mp h
    obtain ⟨source, hsource, h⟩ := bind_eq_ok.mp h
    rw [← pure_eq_ok.mp h]
    exact group_visible hhead (hrest ▸ mem_boundSubjects hgiven hsubject) hsource
  unfold threadFromParams at hthread
  dsimp only at hthread
  split at hthread
  · split at hthread
    · obtain ⟨rfl, rfl⟩ := Prod.mk.inj (Except.ok.inj hthread)
      exact hdirect _ rfl rfl
    · split at hthread
      · obtain ⟨rfl, rfl⟩ := Prod.mk.inj (Except.ok.inj hthread)
        exact hgroup _ rfl (startsWith_append _ _) (withoutHead_append _ _)
      · cases hthread
  · split at hthread
    · split at hthread
      · rename_i hhead
        obtain ⟨rfl, rfl⟩ := Prod.mk.inj (Except.ok.inj hthread)
        exact hgroup _ rfl hhead rfl
      · obtain ⟨rfl, rfl⟩ := Prod.mk.inj (Except.ok.inj hthread)
        exact hdirect _ rfl rfl
    · cases hthread

end Requests

end Awiki
