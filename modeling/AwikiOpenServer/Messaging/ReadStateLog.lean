import AwikiOpenServer.Messaging.LogWriters

/-!
# Read states, in the log and in snapshots

A client learns how far its owner has read either from a snapshot, which holds `read_state_dto` of
every row, or from the log, whose last entry about a thread replaces the earlier ones. The two agree
as long as a row changes only together with an entry (`read_states_converge`).

`mark_read` writes the row on **every** mark, and an entry only when the watermark advances or the
row is new. A mark that does not advance writes the row back as it was, with one exception: when the
request names the message at the watermark, the row takes that message id. A row that had another
one, or none, then differs from what the log says (`repeated_mark_diverges`).

## Keys

An entry names its thread by the key clients know: the reference of a conversation, or the DID of a
group. For the last entry about a thread to mean its row, different threads must have different keys
(`HasKey.threadId_eq`), and the key of a thread must stay what it is (`ThreadNamed.hasKey`). The
first is the uniqueness of references, a constraint of their table; the second is that references
are never replaced.

## The invariant

`ReadLogInv` says of every row that it has a key and that the last entry about it is its wire form.
A row written together with its entry keeps it (`announced`), whatever the row is; a row written
without one keeps it exactly when it is written back as it was, and `markedRow_eq_previous` is the
case analysis for `mark_read`. Everything else that happens on the server announces something else,
by names that are not about watermarks (`keptByAnnouncing`).

So the condition of the theorem is one on a step, asked of the request and the row before it
(`RenamesWatermark`): the request does not advance, and brings the message id of the watermark where
another is stored.
-/

namespace Awiki

open Py Runs Transactions

/-! ### What the log says about a thread -/

/-- The entry is about this thread of the owner. -/
def SyncEvent.isWatermarkOf (owner key kind : String) (e : SyncEvent) : Bool :=
  decide (e.ownerDid = owner ∧ e.eventType = "message.read_state_updated") &&
    (e.payload.get "thread_key").isStr key && (e.payload.get "thread_kind").isStr kind

/-- The last entry of the owner's log about a thread. -/
def lastWatermark (log : List SyncEvent) (owner key kind : String) : Option SyncEvent :=
  (log.filter (SyncEvent.isWatermarkOf owner key kind)).argmax SyncEvent.eventSeq

/-- **Read states agree with the log**: the wire form of every row, as a snapshot would hold it, is
the payload of the last entry about its thread. -/
def ReadStatesAgree (st : Store) : Prop :=
  ∀ outside, ∀ row ∈ st.threadReadStates, ∃ dto key kind e,
    readStateDto outside st row.ownerDid row = .ok (dto, st) ∧
      dto.get "thread_key" = .str key ∧ dto.get "thread_kind" = .str kind ∧
      lastWatermark st.syncEvents row.ownerDid key kind = some e ∧ e.payload = dto

/-! ### The steps -/

/-- A mark, or a request that announces something: every send is one. -/
inductive ReadAction where
  | markRead (seen : Store) (req : Request) (params : Obj)
  | inboxMarkRead (req : InboxRequest) (params : Obj)
  | announce (p : Statements Obj)

/-- The store a request leaves: an exception rolls back. -/
def committedBy (st : Store) : Result (Obj × Store) → Store
  | .ok (_, st') => st'
  | .error _ => st

/-- **One request after the other.** -/
inductive ReadStep (settings : Settings) (st : Store) : ReadAction → Store → Prop where
  | markRead (seen : Store) (req : Request) (params : Obj) :
      ReadStep settings st (.markRead seen req params)
        (committedBy st (markRead seen st req params))
  | inboxMarkRead (req : InboxRequest) (params : Obj) :
      ReadStep settings st (.inboxMarkRead req params)
        (committedBy st (inboxMarkRead st req params))
  | announce (p : Statements Obj) (h : Announcer settings p) :
      ReadStep settings st (.announce p) (committedBy st (p.run st))

/-- The request names the message at the stored watermark, and the row has another one. -/
def RenamesWatermark (st : Store) (seen : Store) (req : Request) (params : Obj) : Prop :=
  ∃ m row, markReadRequest seen req params = .ok m ∧ m.readMessageId.truthy = true ∧
    st.readState? m.owner m.threadId = some row ∧
    markedSeq req.outside st m = .ok (row.readUpToSeq : ℤ) ∧
    bindText req.outside.reprFloat m.readMessageId ≠ .ok row.readMessageId

/-- **The condition on a step**: no mark renames the watermark. -/
def KeepsWatermarkMessage (st : Store) : ReadAction → Prop
  | .markRead seen req params => ¬ RenamesWatermark st seen req params
  | _ => True

/-! ### Threads and their keys -/

/-- The constraints of `direct_conversation_refs`. -/
structure RefsKeyed (refs : List ConversationRef) : Prop where
  peers : Table.Keyed ConversationRef.key refs
  references : Table.Keyed (fun r ↦ (r.ownerDid, r.conversationRef)) refs

/-- The thread of a row is known under this key. -/
def HasKey (refs : List ConversationRef) (row : ThreadReadState) (key : String) : Prop :=
  if row.isDirect then ⟨row.ownerDid, withoutHead "direct:" row.threadId, key⟩ ∈ refs
  else key = withoutHead "group:" row.threadId

/-- The wire word of a row's kind. -/
def ThreadReadState.kind (row : ThreadReadState) : String :=
  if row.isDirect then "direct" else "group"

/-- The id of a row says what it is about. -/
def ThreadReadState.IsThread (row : ThreadReadState) : Prop :=
  row.isDirect = true ∨ startsWith "group:" row.threadId = true

/-- A text starts with its head. -/
theorem startsWith_append (head text : String) : startsWith head (head ++ text) = true := by
  simp [startsWith]

/-- The rest of an id determines it. -/
theorem withoutHead_injective {head a b : String} (ha : startsWith head a = true)
    (hb : startsWith head b = true) (h : withoutHead head a = withoutHead head b) : a = b := by
  have hsplit : ∀ {x}, startsWith head x = true →
      x.toList = head.toList ++ (withoutHead head x).toList := by
    intro x hx
    obtain ⟨rest, hrest⟩ := List.isPrefixOf_iff_prefix.mp hx
    rw [withoutHead, if_pos hx, ← hrest, ← String.length_toList, List.drop_left,
      String.toList_ofList]
  refine String.toList_inj.mp ?_
  rw [hsplit ha, hsplit hb, h]

/-- **Different threads of an owner have different keys.** -/
theorem HasKey.threadId_eq {refs : List ConversationRef} {a b : ThreadReadState} {key : String}
    (hrefs : RefsKeyed refs) (ha : HasKey refs a key) (hb : HasKey refs b key) (hta : a.IsThread)
    (htb : b.IsThread) (howner : a.ownerDid = b.ownerDid) (hkind : a.kind = b.kind) :
    a.threadId = b.threadId := by
  have hsame : a.isDirect = b.isDirect := by
    rw [ThreadReadState.kind, ThreadReadState.kind] at hkind
    cases ha : a.isDirect <;> cases hb : b.isDirect <;> simp [ha, hb] at hkind ⊢
  cases hdirect : a.isDirect with
  | true =>
    have hdirect' := hsame ▸ hdirect
    rw [HasKey, if_pos hdirect] at ha
    rw [HasKey, if_pos hdirect'] at hb
    have hrow := hrefs.references.eq_of_key_eq ha hb (by rw [howner])
    exact withoutHead_injective hdirect hdirect' (congrArg ConversationRef.peerDid hrow)
  | false =>
    have hdirect' := hsame ▸ hdirect
    rw [HasKey, if_neg (by simp [hdirect])] at ha
    rw [HasKey, if_neg (by simp [hdirect'])] at hb
    exact withoutHead_injective (hta.resolve_left (by simp [hdirect]))
      (htb.resolve_left (by simp [hdirect'])) (ha.symm.trans hb)

/-- The key a row is announced under is its key from then on, and the older keys stay. -/
theorem ThreadNamed.hasKey {outside : Outside} {refs rows : List ConversationRef}
    {row : ThreadReadState} {key : String} (h : ThreadNamed outside refs row rows key) :
    HasKey rows row key := by
  cases h with
  | direct hdirect hdrawn =>
    rw [HasKey, if_pos hdirect]
    exact Table.mem_of_row? hdrawn.drawn
  | group hgroup => rw [HasKey, if_neg (by simp [hgroup])]

/-- References are only added. -/
theorem ThreadNamed.subset {outside : Outside} {refs rows : List ConversationRef}
    {row : ThreadReadState} {key : String} (h : ThreadNamed outside refs row rows key) :
    refs ⊆ rows := by
  cases h with
  | direct _ hdrawn =>
    rcases hdrawn.rows with rfl | ⟨rfl, -⟩
    · exact List.Subset.refl _
    · exact List.subset_append_left _ _
  | group _ => exact List.Subset.refl _

/-- Their table keeps its keys. -/
theorem ThreadNamed.refsKeyed {outside : Outside} {refs rows : List ConversationRef}
    {row : ThreadReadState} {key : String} (h : ThreadNamed outside refs row rows key)
    (hrefs : RefsKeyed refs) : RefsKeyed rows := by
  cases h with
  | group _ => exact hrefs
  | direct _ hdrawn =>
    rcases hdrawn.rows with rfl | ⟨rfl, hfresh⟩
    · exact hrefs
    · refine ⟨hrefs.peers.append fun r hr heq ↦ ?_, hrefs.references.append fun r hr heq ↦ ?_⟩
      · obtain ⟨howner, hpeer⟩ := Prod.mk.inj heq
        exact (hfresh r hr howner).1 hpeer
      · obtain ⟨howner, href⟩ := Prod.mk.inj heq
        exact (hfresh r hr howner).2 href

/-- A key stays the key. -/
theorem HasKey.mono {refs rows : List ConversationRef} {row : ThreadReadState} {key : String}
    (h : HasKey refs row key) (hsub : refs ⊆ rows) : HasKey rows row key := by
  unfold HasKey at *
  split
  · rename_i hdirect
    rw [if_pos hdirect] at h
    exact hsub h
  · rename_i hgroup
    rwa [if_neg hgroup] at h

/-- A row whose key is known is worded with it, and no reference is drawn. -/
theorem HasKey.readStateDto_eq {st : Store} {row : ThreadReadState} {key : String}
    (h : HasKey st.directConversationRefs row key)
    (hrefs : RefsKeyed st.directConversationRefs) (outside : Outside) :
    readStateDto outside st row.ownerDid row = .ok (readStateFields row key, st) := by
  unfold HasKey at h
  unfold readStateDto
  dsimp only
  split
  · rename_i hdirect
    rw [if_pos hdirect] at h
    have hany : (st.directConversationRefs.any fun r ↦ decide (r.ownerDid = row.ownerDid ∧
        (r.peerDid = withoutHead "direct:" row.threadId ∨ r.conversationRef =
          outside.conversationRef row.ownerDid (withoutHead "direct:" row.threadId)))) = true :=
      List.any_eq_true.mpr ⟨_, h, by simp⟩
    have hrow := hrefs.peers.row?_of_mem h
    rw [conversationRef]
    simp only [hany, if_true]
    rw [show Table.row? ConversationRef.key (row.ownerDid, withoutHead "direct:" row.threadId)
      st.directConversationRefs = _ from hrow]
    rfl
  · rename_i hgroup
    rw [if_neg hgroup] at h
    rw [h]
    rfl

/-! ### The last entry about a thread -/

section LastWatermark

variable {log : List SyncEvent} {e : SyncEvent} {owner key kind : String}

/-- What makes an entry one about a thread. -/
theorem SyncEvent.isWatermarkOf_iff :
    e.isWatermarkOf owner key kind = true ↔
      (e.ownerDid = owner ∧ e.eventType = "message.read_state_updated") ∧
        e.payload.get "thread_key" = .str key ∧ e.payload.get "thread_kind" = .str kind := by
  simp [isWatermarkOf, Json.isStr_iff, and_assoc]

/-- An entry with the next number is the last one about its thread. -/
theorem lastWatermark_append_self (he : e.isWatermarkOf owner key kind = true)
    (hseq : e.eventSeq = nextNumber log e.ownerDid) :
    lastWatermark (log ++ [e]) owner key kind = some e := by
  have howner : e.ownerDid = owner := (SyncEvent.isWatermarkOf_iff.mp he).1.1
  rw [lastWatermark, List.filter_append, List.filter_singleton, he, cond_true, List.argmax_concat]
  cases hlast : (log.filter (SyncEvent.isWatermarkOf owner key kind)).argmax SyncEvent.eventSeq with
  | none => rfl
  | some e₀ =>
    obtain ⟨hmem, hof⟩ := List.mem_filter.mp (List.argmax_mem hlast)
    have hle : e₀.eventSeq ≤ (logNumbers log e.ownerDid).foldr max 0 := by
      refine List.le_max_of_le (List.mem_map_of_mem (List.mem_filter.mpr ⟨hmem, ?_⟩)) le_rfl
      simpa [howner] using (SyncEvent.isWatermarkOf_iff.mp hof).1.1
    exact if_pos (hseq ▸ Nat.lt_succ_of_le hle)

/-- An entry about something else is not. -/
theorem lastWatermark_append_other (he : e.isWatermarkOf owner key kind = false) :
    lastWatermark (log ++ [e]) owner key kind = lastWatermark log owner key kind := by
  rw [lastWatermark, List.filter_append, List.filter_singleton, he, cond_false, List.append_nil,
    lastWatermark]

/-- Announcements are not about watermarks. -/
theorem SyncLogGrows.lastWatermark_eq {log' : List SyncEvent}
    (h : SyncLogGrows SyncEvent.IsAnnouncement log log') :
    lastWatermark log' owner key kind = lastWatermark log owner key kind := by
  induction h with
  | refl => rfl
  | append e _ _ hrow ih =>
    refine (lastWatermark_append_other ?_).trans ih
    refine Bool.eq_false_iff.mpr fun hof ↦ ?_
    exact hrow.notReadState.2 (SyncEvent.isWatermarkOf_iff.mp hof).1.2

end LastWatermark

/-! ### The invariant -/

/-- **The invariant of a run**: every row goes by a key, and the last entry under that key is the
row. -/
structure ReadLogInv (st : Store) : Prop where
  refs : RefsKeyed st.directConversationRefs
  keyed : Table.Keyed ThreadReadState.key st.threadReadStates
  threads : ∀ row ∈ st.threadReadStates, row.IsThread
  agrees : ∀ row ∈ st.threadReadStates, ∃ key, HasKey st.directConversationRefs row key ∧
    ∃ e, lastWatermark st.syncEvents row.ownerDid key row.kind = some e ∧
      e.payload = readStateFields row key

namespace ReadLogInv

variable {st st' : Store} {outside : Outside} {row : ThreadReadState}

/-- Under the invariant, rows and log agree. -/
theorem readStatesAgree (h : ReadLogInv st) : ReadStatesAgree st := by
  intro outside row hrow
  obtain ⟨key, hkey, e, hlast, hpayload⟩ := h.agrees row hrow
  exact ⟨_, key, row.kind, e, hkey.readStateDto_eq h.refs outside, rfl, rfl, hlast, hpayload⟩

/-- Whatever only announces keeps it. -/
theorem keptByAnnouncing : KeptByAnnouncing ReadLogInv := by
  intro st st' h ha
  refine ⟨ha.directConversationRefs ▸ h.refs, ha.threadReadStates ▸ h.keyed,
    ha.threadReadStates ▸ h.threads, fun row hrow ↦ ?_⟩
  rw [ha.threadReadStates] at hrow
  rw [ha.directConversationRefs]
  obtain ⟨key, hkey, e, hlast, hpayload⟩ := h.agrees row hrow
  exact ⟨key, hkey, e, ha.log.lastWatermark_eq.trans hlast, hpayload⟩

/-- Which views there are does not matter. -/
theorem of_views (h : ReadLogInv st) (views : List DirectMessageView) :
    ReadLogInv { st with directMessageViews := views } :=
  ⟨h.refs, h.keyed, h.threads, h.agrees⟩

/-- **A row written together with its entry.** -/
theorem announced (h : ReadLogInv st) (hthread : row.IsThread)
    (hok : announceReadState outside (saveReadState st row) row = .ok st') : ReadLogInv st' := by
  obtain ⟨rows, key, hnamed, rfl⟩ := announceReadState_eq_ok hok
  have hkeyed : Table.Keyed ThreadReadState.key (saveReadState st row).threadReadStates :=
    h.keyed.upsert fun _ _ ↦ rfl
  refine ⟨hnamed.refsKeyed h.refs, hkeyed, fun r hr ↦ ?_, fun r hr ↦ ?_⟩
  · rcases Table.mem_upsert hr with rfl | ⟨hr, -⟩
    · exact hthread
    · exact h.threads r hr
  · -- The new entry is about the written row and, as keys tell threads apart, about no other.
    rcases Table.mem_upsert hr with rfl | ⟨hr, hne⟩
    · exact ⟨key, hnamed.hasKey, _, lastWatermark_append_self
        (SyncEvent.isWatermarkOf_iff.mpr ⟨⟨rfl, rfl⟩, rfl, rfl⟩) rfl, rfl⟩
    · obtain ⟨key', hkey', e, hlast, hpayload⟩ := h.agrees r hr
      have hkey'' := hkey'.mono hnamed.subset
      refine ⟨key', hkey'', e, (lastWatermark_append_other ?_).trans hlast, hpayload⟩
      refine Bool.eq_false_iff.mpr fun hof ↦ hne ?_
      obtain ⟨⟨howner, -⟩, hsame, hkind⟩ := SyncEvent.isWatermarkOf_iff.mp hof
      obtain rfl : key = key' := Json.str.inj hsame
      have hid : row.threadId = r.threadId :=
        hnamed.hasKey.threadId_eq (hnamed.refsKeyed h.refs) hkey'' hthread (h.threads r hr)
          howner (Json.str.inj hkind)
      exact Prod.ext howner.symm hid.symm

end ReadLogInv

/-! ### The two handlers -/

section Handlers

variable {st st' : Store} {settings : Settings} {outside : Outside}

/-- The id of a thread says what it is about. -/
theorem threadFromParams_isThread {params : Obj} {thread : Thread} {row : ThreadReadState}
    (h : threadFromParams outside params = .ok (thread, row.threadId)) : row.IsThread := by
  have hdirect : ∀ text, row.threadId = "direct:" ++ text → row.IsThread := fun text heq ↦
    .inl (by rw [ThreadReadState.isDirect, heq, startsWith_append])
  unfold threadFromParams at h
  dsimp only at h
  split at h
  · split at h
    · exact hdirect _ (Prod.mk.inj (Except.ok.inj h)).2.symm
    · split at h
      · refine .inr ?_
        rw [← (Prod.mk.inj (Except.ok.inj h)).2, startsWith_append]
      · cases h
  · split at h
    · split at h
      · rename_i hgroup
        exact .inr ((Prod.mk.inj (Except.ok.inj h)).2 ▸ hgroup)
      · exact hdirect _ (Prod.mk.inj (Except.ok.inj h)).2.symm
    · cases h

/-- The thread of a mark is the one its parameters name. -/
theorem markReadRequest_eq_ok {seen : Store} {req : Request} {params : Obj} {m : MarkRead}
    (h : markReadRequest seen req params = .ok m) :
    ∃ mapped, threadFromParams req.outside mapped = .ok (m.thread, m.threadId) := by
  unfold markReadRequest at h
  obtain ⟨authenticated, -, h⟩ := bind_eq_ok.mp h
  obtain ⟨owner, -, h⟩ := bind_eq_ok.mp h
  obtain ⟨_, -, h⟩ := bind_eq_ok.mp h
  obtain ⟨_, -, h⟩ := bind_eq_ok.mp h
  obtain ⟨mapped, -, h⟩ := bind_eq_ok.mp h
  obtain ⟨⟨thread, threadId⟩, hthread, h⟩ := bind_eq_ok.mp h
  obtain ⟨seq, -, h⟩ := bind_eq_ok.mp h
  obtain ⟨_, -, h⟩ := bind_eq_ok.mp h
  rw [← pure_eq_ok.mp h]
  exact ⟨mapped, hthread⟩

/-- The row of a mark is the row of its thread. -/
theorem markedRow_key {m : MarkRead} {previous : Option ThreadReadState} {seq : ℤ}
    {row : ThreadReadState} (h : markedRow outside m previous seq = .ok row) :
    row.ownerDid = m.owner ∧ row.threadId = m.threadId := by
  unfold markedRow at h
  obtain ⟨readMessageId, -, h⟩ := bind_eq_ok.mp h
  rw [← pure_eq_ok.mp h]
  exact ⟨rfl, rfl⟩

/-- **A mark that does not advance writes the row back**, unless it renames the watermark. -/
theorem markedRow_eq_previous {m : MarkRead} {previous row : ThreadReadState} {seq : ℤ}
    (h : markedRow outside m (some previous) seq = .ok row)
    (hkey : previous.key = (m.owner, m.threadId)) (hold : ¬ previous.readUpToSeq < row.readUpToSeq)
    (hkeeps : m.readMessageId.truthy = true → seq = previous.readUpToSeq →
      bindText outside.reprFloat m.readMessageId = .ok previous.readMessageId) :
    row = previous := by
  unfold markedRow at h
  obtain ⟨readMessageId, hid, h⟩ := bind_eq_ok.mp h
  obtain rfl := pure_eq_ok.mp h
  dsimp only [Option.map_some, Option.getD_some] at hold hid
  have hsaved : (max (previous.readUpToSeq : ℤ) seq).toNat = previous.readUpToSeq := by omega
  rw [hsaved] at hid
  have hid' : readMessageId = previous.readMessageId := by
    rw [markedMessageId] at hid
    split at hid
    · rename_i hnamed
      rw [hkeeps hnamed.2 hnamed.1] at hid
      exact (Except.ok.inj hid).symm
    · rw [Option.map_some, Option.getD_some, if_pos rfl] at hid
      exact (Except.ok.inj hid).symm
  obtain ⟨howner, hthread⟩ := Prod.mk.inj hkey
  simp only [Option.map_some, Option.getD_some, hsaved, hid', ← howner, ← hthread, lt_irrefl,
    decide_false, Bool.toNat_false, Nat.add_zero, Bool.not_false]
  rfl

/-- **A mark keeps the invariant**, unless it renames the watermark. -/
theorem markRead_readLogInv {seen : Store} {req : Request} {params result : Obj}
    (h : ReadLogInv st) (hkeeps : ¬ RenamesWatermark st seen req params)
    (hok : markRead seen st req params = .ok (result, st')) : ReadLogInv st' := by
  obtain ⟨m, hm, hok⟩ := bind_eq_ok.mp hok
  obtain ⟨seq, row, views, hseq, hrow, hok⟩ := commitMarkRead_eq_ok hok
  obtain ⟨howner, hid⟩ := markedRow_key hrow
  have hthread : row.IsThread := by
    obtain ⟨mapped, hmapped⟩ := markReadRequest_eq_ok hm
    exact threadFromParams_isThread (hid ▸ hmapped)
  split at hok
  · exact (h.of_views views).announced hthread hok
  · rename_i hnew
    obtain ⟨hold, hsome⟩ := not_or.mp hnew
    obtain ⟨previous, hprevious⟩ := Option.ne_none_iff_exists'.mp hsome
    rw [hprevious] at hrow hold
    have hsame : row = previous := by
      refine markedRow_eq_previous hrow (Table.key_of_row? hprevious) hold fun htruthy heq ↦ ?_
      by_contra hne
      exact hkeeps ⟨m, previous, hm, htruthy, hprevious, heq ▸ hseq, hne⟩
    have hsaved : saveReadState st row = st := by
      rw [saveReadState, hsame, h.keyed.upsert_self (Table.mem_of_row? hprevious)]
    rw [hok, hsaved]
    exact h.of_views views

/-- The loop over the peers keeps it, row by row. -/
theorem advancePrefixes_readLogInv {owner : String} {peers : List String} (h : ReadLogInv st)
    (hok : advancePrefixes outside owner peers st = .ok st') : ReadLogInv st' := by
  induction peers generalizing st with
  | nil => exact Except.ok.inj hok ▸ h
  | cons peer rest ih =>
    obtain ⟨st₁, hstep, hok⟩ := bind_eq_ok.mp hok
    refine ih ?_ hok
    rcases advanceDirectReadPrefix_eq_ok hstep with rfl | ⟨row, hkey, hannounce⟩
    · exact h
    · refine h.announced (.inl ?_) hannounce
      rw [ThreadReadState.isDirect, (Prod.mk.inj hkey).2, startsWith_append]

/-- **Every step of a run whose marks do not rename a watermark keeps the invariant.** -/
theorem ReadStep.readLogInv {a : ReadAction} (h : ReadLogInv st)
    (hkeeps : KeepsWatermarkMessage st a)
    (hstep : ReadStep settings st a st') : ReadLogInv st' := by
  cases hstep with
  | markRead seen req params =>
    cases hok : Awiki.markRead seen st req params with
    | error e => exact h
    | ok r => exact markRead_readLogInv h hkeeps hok
  | inboxMarkRead req params =>
    cases hok : Awiki.inboxMarkRead st req params with
    | error e => exact h
    | ok r =>
      obtain ⟨owner, peers, views, hprefixes⟩ := inboxMarkRead_eq_ok hok
      exact advancePrefixes_readLogInv (h.of_views views) hprefixes
  | announce p hp =>
    cases hok : p.run st with
    | error e => exact h
    | ok r =>
      have hguarded : p.Guarded ReadLogInv (fun _ _ _ ↦ True) (fun _ _ ↦ True)
          (fun _ s ↦ ReadLogInv s) none := hp.guarded ReadLogInv.keptByAnnouncing
      exact hguarded.run h hok

end Handlers

/-- **Read states converge through the log.** Along every run of marks and of requests that announce
something, from a server without read states, in which no mark names the message at a stored
watermark anew: what a snapshot would say about a thread is what the log says last. -/
theorem read_states_converge {settings : Settings} {st st' : Store}
    (hst : st.threadReadStates = []) (hrefs : RefsKeyed st.directConversationRefs)
    (h : ReachesWith (ReadStep settings) KeepsWatermarkMessage st st') : ReadStatesAgree st' := by
  have hinv : ReadLogInv st := by
    refine ⟨hrefs, ?_, ?_, ?_⟩
    · rw [hst]
      exact List.nodup_nil
    · simp [hst]
    · simp [hst]
  exact (h.invariant hinv fun hi hc hs ↦ hs.readLogInv hi hc).readStatesAgree

/-! ### Two marks at one message -/

/-- A mark of Carol's conversation with Alice. -/
def carolMark (fields : Obj) : ReadAction :=
  .markRead sampleSenders
    { surface := .localRpc, credentials := .bearer carol, outside := .honest }
    (("thread_id", .str ("direct:" ++ alice)) :: fields)

/-- The store after an action. -/
def afterAction (st : Store) : ReadAction → Store
  | .markRead seen req params => committedBy st (markRead seen st req params)
  | .inboxMarkRead req params => committedBy st (inboxMarkRead st req params)
  | .announce p => committedBy st (p.run st)

/-- Alice has written to Carol. -/
def sentToCarol : Store := afterAction sampleSenders (.announce (sampleDirect "m1"))

/-- Carol has read it, by its id. -/
def readById : Store := afterAction sentToCarol (carolMark [("read_up_to_message_id", .str "m1")])

/-- Carol has read it, by its number. -/
def readByNumber : Store := afterAction sentToCarol (carolMark [("read_up_to_seq", .int 1)])

/-- Carol marks it once more, now by its id. -/
def readTwice : Store := afterAction readByNumber (carolMark [("read_up_to_message_id", .str "m1")])

/-- A send is a step of such a run. -/
theorem reaches_sentToCarol {C : Store → ReadAction → Prop}
    (hC : C sampleSenders (.announce (sampleDirect "m1"))) :
    ReachesWith (ReadStep .sample) C sampleSenders sentToCarol :=
  (ReachesWith.refl _).tail hC (.announce _ (.directSend _ _))

/-- There are no references yet. -/
theorem refsKeyed_sampleSenders : RefsKeyed sampleSenders.directConversationRefs :=
  ⟨List.nodup_nil, List.nodup_nil⟩

/-- A mark by id: the row and the entry both name the message. -/
theorem read_states_converge_by_id :
    readById.threadReadStates.map (·.readMessageId) = [some "m1"] ∧ ReadStatesAgree readById := by
  refine ⟨by decide +kernel, ?_⟩
  have hnone : sentToCarol.threadReadStates = [] := by decide +kernel
  refine read_states_converge (show sampleSenders.threadReadStates = [] from rfl)
    refsKeyed_sampleSenders
    ((reaches_sentToCarol trivial).tail
      (l := carolMark [("read_up_to_message_id", .str "m1")]) ?_ (.markRead _ _ _))
  rintro ⟨m, row, -, -, hrow, -, -⟩
  rw [Store.readState?, hnone] at hrow
  cases hrow

/-- **The row of a repeated mark names the message, the log does not.** -/
theorem repeated_mark_diverges :
    ¬ ∀ (settings : Settings) (st st' : Store), st.threadReadStates = [] →
      RefsKeyed st.directConversationRefs → Reaches (ReadStep settings) st st' →
        ReadStatesAgree st' := by
  intro hall
  have hread : Reaches (ReadStep .sample) sampleSenders readByNumber :=
    (reaches_sentToCarol trivial).tail (l := carolMark [("read_up_to_seq", .int 1)]) trivial
      (.markRead _ _ _)
  have hrun : Reaches (ReadStep .sample) sampleSenders readTwice :=
    hread.tail (l := carolMark [("read_up_to_message_id", .str "m1")]) (.markRead _ _ _)
  obtain ⟨row, hrow⟩ : ∃ row, row ∈ readTwice.threadReadStates :=
    List.exists_mem_of_length_pos (by decide +kernel)
  obtain ⟨dto, key, kind, e, hdto, -, -, hlast, hpayload⟩ :=
    hall .sample sampleSenders readTwice rfl refsKeyed_sampleSenders hrun .honest row hrow
  -- The row names `m1`; no entry of the log does.
  obtain ⟨rows, key', -, hfields, -⟩ := readStateDto_eq_ok hdto
  have hnamed : readTwice.threadReadStates.all fun r ↦ decide (r.readMessageId = some "m1") := by
    decide +kernel
  have hsilent : readTwice.syncEvents.all fun e ↦
      !(e.payload.get "read_up_to_message_id").isStr "m1" := by decide +kernel
  have he : e ∈ readTwice.syncEvents := (List.mem_filter.mp (List.argmax_mem hlast)).1
  have hid : row.readMessageId = some "m1" := by
    simpa using List.all_eq_true.mp hnamed row hrow
  have hmember : e.payload.get "read_up_to_message_id" = .str "m1" := by
    rw [hpayload, hfields]
    show textOrNull row.readMessageId = _
    rw [hid]
    rfl
  have hother := List.all_eq_true.mp hsilent e he
  rw [hmember] at hother
  simp at hother

end Awiki
