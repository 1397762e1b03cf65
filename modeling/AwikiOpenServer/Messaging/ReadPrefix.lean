import AwikiOpenServer.Messaging.Watermarks

/-!
# Watermarks and single reads

A conversation remembers what has been read twice: each view by itself, and the watermark for all of
them together. A mark sets both at once. Reading single messages sets views, and lets the watermark
follow to the end of the **contiguous read prefix**: the messages with nothing unread before them.

The two agree after every mark and every send, one request after the other (`ReadThrough`): whatever
is within the watermark has been read. A send keeps this because its message is numbered past
everything that was there, and so past every watermark.

## What follows

Where a watermark is read through, the prefix of a conversation goes at least as far as it, and
`_advance_direct_read_prefix` may look only at what comes after. `watermark_candidate` is that this
is no loss: reading on from the watermark leads to the end of the longest prefix. So after
`inbox_mark_read` **the watermark of every conversation it touches is at the end of its prefix**, if
it was not further already (`inboxMarkRead_readInv`), however the single reads were distributed over
requests.

## One request after the other

`mark_read` and `inbox_mark_read` hold the write lock throughout, but a direct send reads the next
number before it takes the lock, and two sends beside each other may share a number
(`Messaging/MessageNumbers.lean`). With a shared number the prefix is not determined by the numbers,
so the run of this file serves its requests one after the other, and `directSend_run` says what a
send comes to when it runs alone: nothing, or one message that is past all others
(`OneMessageCame`).

The invariant `ReadInv` carries the bound of `Messaging/Watermarks.lean` with it: no watermark is
past the messages of its conversation. Only so is a new message past the watermark.
-/

namespace Awiki

open Py Runs Transactions

/-- How far an owner has read a conversation, 0 if nothing is known. -/
def watermark (st : Store) (owner peer : String) : ℕ :=
  ((st.readState? owner ("direct:" ++ peer)).map (·.readUpToSeq)).getD 0

/-- **The longest contiguous read prefix** of a conversation: the messages with nothing unread up to
and including them. -/
def readPrefix (st : Store) (owner peer : String) : List (DirectMessage × DirectMessageView) :=
  (conversationMessages st owner peer).filter fun p ↦
    (conversationMessages st owner peer).all fun q ↦
      decide (q.1.serverSeq ≤ p.1.serverSeq → q.2.readAt ≠ none)

/-- The number of its last message, 0 if it is empty. -/
def readPrefixEnd (st : Store) (owner peer : String) : ℕ :=
  ((readPrefix st owner peer).map fun p ↦ p.1.serverSeq).foldr max 0

/-- Whatever is within the watermark of a conversation has been read. -/
def ReadThrough (st : Store) (owner peer : String) : Prop :=
  ∀ p ∈ conversationMessages st owner peer, p.1.serverSeq ≤ watermark st owner peer →
    p.2.readAt ≠ none

/-- **The invariant of a run.** A peer is a DID, and so never the text `True`, which is what the
thread of a request that names its peer by JSON `true` is called. -/
structure ReadInv (st : Store) : Prop extends WatermarkInv st where
  positive : ∀ m ∈ st.directMessages, 0 < m.serverSeq
  readThrough : ∀ owner peer, peer ≠ "True" → ReadThrough st owner peer

section Prefix

variable {st st' : Store} {owner peer : String}

/-- A message is in the prefix when nothing up to it is unread. -/
theorem mem_readPrefix {p : DirectMessage × DirectMessageView} :
    p ∈ readPrefix st owner peer ↔ p ∈ conversationMessages st owner peer ∧
      ∀ q ∈ conversationMessages st owner peer, q.1.serverSeq ≤ p.1.serverSeq →
        q.2.readAt ≠ none := by
  rw [readPrefix, List.mem_filter, List.all_eq_true]
  simp only [decide_eq_true_eq]

/-- The two stores have the same conversations. -/
structure SameConversations (st st' : Store) : Prop where
  messages : st'.directMessages = st.directMessages
  views : st'.directMessageViews = st.directMessageViews

/-- A conversation is the same in both. -/
theorem SameConversations.eq (h : SameConversations st st') (owner peer : String) :
    conversationMessages st' owner peer = conversationMessages st owner peer := by
  rw [conversationMessages, h.messages, h.views, conversationMessages]

/-- So is the end of its prefix. -/
theorem SameConversations.readPrefixEnd_eq (h : SameConversations st st') (owner peer : String) :
    readPrefixEnd st' owner peer = readPrefixEnd st owner peer := by
  rw [readPrefixEnd, readPrefix, h.eq, readPrefixEnd, readPrefix]

/-- Past a watermark that is read through, the messages `_advance_direct_read_prefix` chooses from
are those of the prefix. -/
theorem ReadThrough.mem_candidates (h : ReadThrough st owner peer)
    {p : DirectMessage × DirectMessageView} :
    p ∈ ((conversationMessages st owner peer).filter fun p ↦
        decide (watermark st owner peer < p.1.serverSeq)).filter (fun p ↦ p.2.readAt.isSome &&
      (((((conversationMessages st owner peer).filter fun p ↦
        decide (watermark st owner peer < p.1.serverSeq)).filter fun p ↦ p.2.readAt = none).map
          fun p ↦ p.1.serverSeq).min?).all fun n ↦ decide (p.1.serverSeq < n)) ↔
      p ∈ readPrefix st owner peer ∧ watermark st owner peer < p.1.serverSeq := by
  generalize hunread : (((conversationMessages st owner peer).filter fun p ↦
    decide (watermark st owner peer < p.1.serverSeq)).filter fun p ↦ p.2.readAt = none).map
      (fun p ↦ p.1.serverSeq) = unread
  have hmem : ∀ n, n ∈ unread ↔ ∃ q ∈ conversationMessages st owner peer,
      watermark st owner peer < q.1.serverSeq ∧ q.2.readAt = none ∧ q.1.serverSeq = n := by
    intro n
    rw [← hunread]
    simp only [List.mem_map, List.mem_filter, decide_eq_true_eq, and_assoc]
  rw [mem_readPrefix, List.mem_filter, List.mem_filter, decide_eq_true_eq, Bool.and_eq_true]
  constructor
  · rintro ⟨⟨hp, hlater⟩, hread, hfirst⟩
    refine ⟨⟨hp, fun q hq hle hnone ↦ ?_⟩, hlater⟩
    -- An unread message up to `p` would be past the watermark, and so not after the first unread.
    have hq' : watermark st owner peer < q.1.serverSeq := by
      by_contra hwithin
      exact h q hq (not_lt.mp hwithin) hnone
    cases hmin : unread.min? with
    | none =>
      rw [List.min?_eq_none_iff.mp hmin] at hmem
      exact List.not_mem_nil ((hmem _).mpr ⟨q, hq, hq', hnone, rfl⟩)
    | some n =>
      rw [hmin] at hfirst
      have hn : n ≤ q.1.serverSeq :=
        (List.min?_eq_some_iff.mp hmin).2 _ ((hmem _).mpr ⟨q, hq, hq', hnone, rfl⟩)
      exact absurd (of_decide_eq_true hfirst) (not_lt.mpr (hn.trans hle))
  · rintro ⟨⟨hp, hall⟩, hlater⟩
    refine ⟨⟨hp, hlater⟩, Option.isSome_iff_ne_none.mpr (hall p hp le_rfl), ?_⟩
    cases hmin : unread.min? with
    | none => rfl
    | some n =>
      obtain ⟨q, hq, -, hnone, rfl⟩ := (hmem n).mp (List.min?_eq_some_iff.mp hmin).1
      refine decide_eq_true ?_
      by_contra hle
      exact hall q hq (not_lt.mp hle) hnone

/-- **The candidate ends the prefix.** Reading on from a watermark that is read through leads to the
end of the prefix, if that is further. -/
theorem ReadThrough.watermark_candidate (h : ReadThrough st owner peer) :
    ((prefixCandidate st owner peer (watermark st owner peer)).map (·.serverSeq)).getD
      (watermark st owner peer) = max (watermark st owner peer) (readPrefixEnd st owner peer) := by
  have hend : ∀ {p}, p ∈ readPrefix st owner peer →
      p.1.serverSeq ≤ readPrefixEnd st owner peer := fun hp ↦
    List.le_max_of_le (List.mem_map_of_mem hp) le_rfl
  cases hcandidate : prefixCandidate st owner peer (watermark st owner peer) with
  | none =>
    refine (max_eq_left (List.max_le_of_forall_le _ _ fun n hn ↦ ?_)).symm
    obtain ⟨p, hp, rfl⟩ := List.mem_map.mp hn
    by_contra hlater
    have hmem := List.mem_map_of_mem (f := Prod.fst) (h.mem_candidates.mpr ⟨hp, not_le.mp hlater⟩)
    exact List.ne_nil_of_mem hmem (List.argmax_eq_none.mp hcandidate)
  | some m =>
    obtain ⟨p, hp, rfl⟩ := List.mem_map.mp (List.argmax_mem hcandidate)
    obtain ⟨hread, hlater⟩ := h.mem_candidates.mp hp
    show p.1.serverSeq = _
    refine le_antisymm ((hend hread).trans (le_max_right _ _)) (max_le hlater.le ?_)
    refine List.max_le_of_forall_le _ _ fun n hn ↦ ?_
    obtain ⟨q, hq, rfl⟩ := List.mem_map.mp hn
    by_cases hq' : watermark st owner peer < q.1.serverSeq
    · exact List.le_of_mem_argmax
        (List.mem_map_of_mem (f := Prod.fst) (h.mem_candidates.mpr ⟨hq, hq'⟩)) hcandidate
    · exact (not_lt.mp hq').trans hlater.le

/-- Up to the end of the prefix everything has been read. -/
theorem read_of_le_readPrefixEnd {p : DirectMessage × DirectMessageView}
    (hp : p ∈ conversationMessages st owner peer) (hpos : 0 < p.1.serverSeq)
    (hle : p.1.serverSeq ≤ readPrefixEnd st owner peer) : p.2.readAt ≠ none := by
  by_contra hnone
  refine absurd hle (not_le.mpr (lt_of_le_of_lt (List.max_le_of_forall_le _ (p.1.serverSeq - 1)
    fun n hn ↦ ?_) (Nat.sub_one_lt hpos.ne')))
  obtain ⟨q, hq, rfl⟩ := List.mem_map.mp hn
  by_contra hlater
  exact (mem_readPrefix.mp hq).2 p hp (by omega) hnone

end Prefix

/-! ### Marks -/

section Marks

variable {st st' st'' : Store} {outside : Outside} {row : ThreadReadState} {owner peer : String}

/-- No message has come, and what had been read still has. -/
structure ReadsMore (st st' : Store) : Prop where
  messages : st'.directMessages = st.directMessages
  views : ∀ v' ∈ st'.directMessageViews, ∃ v ∈ st.directMessageViews, v.key = v'.key ∧
    v.peerDid = v'.peerDid ∧ (v'.readAt = none → v.readAt = none)

/-- To read more does no harm, while the watermark stays. -/
theorem ReadsMore.readThrough (h : ReadsMore st st') (hst : ReadThrough st owner peer)
    (hsame : watermark st' owner peer = watermark st owner peer) :
    ReadThrough st' owner peer := by
  rintro ⟨m, v'⟩ hp hle hnone
  obtain ⟨hm, hv', hid, howner, hpeer⟩ := mem_conversationMessages.mp hp
  obtain ⟨v, hv, hkey, hpeer', hkept⟩ := h.views v' hv'
  obtain ⟨howner', hid'⟩ := Prod.mk.inj hkey
  refine hst (m, v) (mem_conversationMessages.mpr ⟨h.messages ▸ hm, hv, hid'.trans hid,
    howner'.trans howner, hpeer'.trans hpeer⟩) (hsame ▸ hle) (hkept hnone)

/-- Setting views reads more. -/
theorem ReadsMore.markViews (st : Store) (p : DirectMessageView → Bool) (readAt : String) :
    ReadsMore st { st with
      directMessageViews := Table.updateWhere p (fun v ↦ { v with readAt := some readAt })
        st.directMessageViews } := by
  refine ⟨rfl, fun v' hv' ↦ ?_⟩
  obtain ⟨v, hv, rfl⟩ := Table.mem_updateWhere.mp hv'
  refine ⟨v, hv, ?_⟩
  split
  · exact ⟨rfl, rfl, fun hnone ↦ by cases hnone⟩
  · exact ⟨rfl, rfl, id⟩

/-- **A mark reads everything within the new watermark** of the conversation it names. -/
theorem applyReadWatermark_reads {m : MarkRead} {previousSeq updated unread : ℕ}
    (h : applyReadWatermark outside st m row previousSeq = .ok (updated, unread, st')) :
    ReadsMore st st' ∧ ∀ v subject, m.thread = .direct v →
      bindTextNotNull outside.reprFloat v = .ok subject →
        ∀ p ∈ conversationMessages st' m.owner subject, p.1.serverSeq ≤ row.readUpToSeq →
          p.2.readAt ≠ none := by
  unfold applyReadWatermark at h
  obtain ⟨_, -, h⟩ := bind_eq_ok.mp h
  split at h
  · rename_i v hthread
    obtain ⟨peer, hpeer, h⟩ := bind_eq_ok.mp h
    rw [← (Prod.mk.inj (Prod.mk.inj (pure_eq_ok.mp h)).2).2]
    refine ⟨.markViews st _ _, fun v' subject hthread' hsubject ↦ ?_⟩
    obtain rfl : v = v' := Thread.direct.inj (hthread.symm.trans hthread')
    obtain rfl : peer = subject := Except.ok.inj (hpeer.symm.trans hsubject)
    rintro ⟨d, w'⟩ hp hle hnone
    obtain ⟨hd, hw', hid, howner, hwpeer⟩ := mem_conversationMessages.mp hp
    obtain ⟨w, hw, rfl⟩ := Table.mem_updateWhere.mp hw'
    split at hnone
    · cases hnone
    · rename_i hother
      rw [if_neg hother] at hid howner hwpeer
      -- An unread view within the watermark would have been marked.
      refine hother (Bool.and_eq_true_iff.mpr ⟨decide_eq_true ⟨howner, hwpeer, hnone⟩, ?_⟩)
      exact List.any_eq_true.mpr ⟨d, hd, decide_eq_true ⟨hid.symm, hle⟩⟩
  · rename_i groupDid hthread
    obtain ⟨subject, -, h⟩ := bind_eq_ok.mp h
    obtain ⟨source, -, h⟩ := bind_eq_ok.mp h
    rw [← (Prod.mk.inj (Prod.mk.inj (pure_eq_ok.mp h)).2).2]
    refine ⟨⟨rfl, fun v hv ↦ ⟨v, hv, rfl, rfl, id⟩⟩, fun v subject hdirect ↦ ?_⟩
    rw [hthread] at hdirect
    cases hdirect

/-- A request for a conversation names its peer. -/
theorem threadFromParams_direct {params : Obj} {thread : Thread}
    (h : threadFromParams outside params = .ok (thread, "direct:" ++ peer)) :
    ∃ v, thread = .direct v ∧ outside.str v = peer := by
  have hdirect : ∀ {text}, "direct:" ++ text = "direct:" ++ peer → text = peer := by
    intro text heq
    rw [← withoutHead_append "direct:" text, heq, withoutHead_append]
  have hgroup : ∀ {id}, startsWith "group:" id = true → id ≠ "direct:" ++ peer := by
    rintro id hid rfl
    have hnot := not_direct_of_group hid
    rw [startsWith_append] at hnot
    cases hnot
  unfold threadFromParams at h
  dsimp only at h
  split at h
  · split at h
    · obtain ⟨rfl, hid⟩ := Prod.mk.inj (Except.ok.inj h)
      exact ⟨_, rfl, hdirect hid⟩
    · split at h
      · exact absurd (Prod.mk.inj (Except.ok.inj h)).2 (hgroup (startsWith_append _ _))
      · cases h
  · split at h
    · split at h
      · rename_i hid
        exact absurd (Prod.mk.inj (Except.ok.inj h)).2 (hgroup hid)
      · obtain ⟨rfl, hid⟩ := Prod.mk.inj (Except.ok.inj h)
        exact ⟨_, rfl, hdirect hid⟩
    · cases h

/-- An entry in the log leaves conversations alone. -/
theorem announceReadState_sameConversations (hok : announceReadState outside st row = .ok st') :
    SameConversations st st' := by
  obtain ⟨rows, key, -, rfl⟩ := announceReadState_eq_ok hok
  exact ⟨rfl, rfl⟩

/-- The same conversations are read as far. -/
theorem SameConversations.readsMore (h : SameConversations st st') : ReadsMore st st' :=
  ⟨h.messages, fun v hv ↦ ⟨v, h.views ▸ hv, rfl, rfl, id⟩⟩

/-- Reading more goes on. -/
theorem ReadsMore.trans (h : ReadsMore st st') (h' : ReadsMore st' st'') : ReadsMore st st'' := by
  refine ⟨h'.messages.trans h.messages, fun v'' hv'' ↦ ?_⟩
  obtain ⟨v', hv', hkey', hpeer', hkept'⟩ := h'.views v'' hv''
  obtain ⟨v, hv, hkey, hpeer, hkept⟩ := h.views v' hv'
  exact ⟨v, hv, hkey.trans hkey', hpeer.trans hpeer', hkept ∘ hkept'⟩

/-- The watermark of one conversation is set. -/
theorem watermark_saveReadState (st : Store) (row : ThreadReadState) (owner peer : String) :
    watermark (saveReadState st row) owner peer =
      if (owner, "direct:" ++ peer) = row.key then row.readUpToSeq
      else watermark st owner peer := by
  rw [watermark, readState?_saveReadState]
  split
  · rfl
  · rfl

/-- Watermarks are announced as they are. -/
theorem announceReadState_watermark (hok : announceReadState outside st row = .ok st') :
    watermark st' owner peer = watermark st owner peer := by
  rw [watermark, announceReadState_readState? hok, watermark]

/-- **A mark keeps the invariant.** -/
theorem markRead_readInv {seen : Store} {req : Request} {params result : Obj} (h : ReadInv st)
    (hok : markRead seen st req params = .ok (result, st')) : ReadInv st' := by
  have hwatermarks := (markRead_watermarks h.toWatermarkInv hok).1
  obtain ⟨m, hm, hok⟩ := bind_eq_ok.mp hok
  obtain ⟨seq, numbers, row, updated, unread, marked, -, hnumbers, -, hrow, happly, hwrite⟩ :=
    commitMarkRead_steps hok
  obtain ⟨mapped, hmapped⟩ := markReadRequest_eq_ok hm
  obtain ⟨howner, hid⟩ := markedRow_key hrow
  have hgiven := applyReadWatermark_isGiven happly
  obtain ⟨hmore, hreads⟩ := applyReadWatermark_reads happly
  have hrows : ∀ owner peer, watermark marked owner peer =
      watermark (saveReadState st row) owner peer := by
    obtain ⟨views, rfl⟩ := applyReadWatermark_eq_ok happly
    exact fun _ _ ↦ rfl
  -- Whether or not the row is announced, nothing else is written.
  obtain ⟨hsame, hwatermark⟩ : SameConversations marked st' ∧
      ∀ owner peer, watermark st' owner peer = watermark marked owner peer := by
    split at hwrite
    · exact ⟨announceReadState_sameConversations hwrite,
        fun _ _ ↦ announceReadState_watermark hwrite⟩
    · rw [hwrite]
      exact ⟨⟨rfl, rfl⟩, fun _ _ ↦ rfl⟩
  refine ⟨hwatermarks, ?_, fun owner peer hpeer ↦ ?_⟩
  · rw [hsame.messages, hmore.messages]
    exact h.positive
  · have hnow : watermark st' owner peer =
        if (owner, "direct:" ++ peer) = row.key then row.readUpToSeq else watermark st owner peer :=
      ((hwatermark owner peer).trans (hrows owner peer)).trans (watermark_saveReadState ..)
    by_cases hkey : (owner, "direct:" ++ peer) = row.key
    · rw [if_pos hkey] at hnow
      obtain ⟨rfl, hid'⟩ := Prod.mk.inj hkey
      rw [← hid, ← hid'] at hmapped
      obtain ⟨v, hthread, hstr⟩ := threadFromParams_direct hmapped
      rw [hthread] at hgiven hnumbers
      obtain ⟨subject, hsubject, -⟩ := bind_eq_ok.mp hnumbers
      have hbound := mem_boundSubjects hgiven hsubject
      rw [hstr, boundSubjects, if_neg hpeer, List.mem_singleton] at hbound
      intro p hp hle
      rw [hsame.eq, howner, ← hbound] at hp
      exact hreads v subject hthread hsubject p hp (hnow ▸ hle)
    · rw [if_neg hkey] at hnow
      have hmore' : ReadsMore st st' :=
        ReadsMore.trans ⟨hmore.messages, hmore.views⟩ hsame.readsMore
      exact hmore'.readThrough (h.readThrough owner peer hpeer) hnow

end Marks

/-! ### Single reads -/

section SingleReads

variable {st st' : Store} {outside : Outside} {owner peer : String}

/-- The id of a conversation names the peer. -/
theorem directThread_injective {a b : String} (h : "direct:" ++ a = "direct:" ++ b) : a = b := by
  rw [← withoutHead_append "direct:" a, h, withoutHead_append]

/-- The watermark of the conversation moves to the candidate, if there is one. -/
theorem advanceDirectReadPrefix_watermark
    (hok : advanceDirectReadPrefix outside st owner peer = .ok st') :
    SameConversations st st' ∧ watermark st' owner peer =
      ((prefixCandidate st owner peer (watermark st owner peer)).map (·.serverSeq)).getD
        (watermark st owner peer) := by
  unfold advanceDirectReadPrefix at hok
  dsimp only at hok
  split at hok
  · rename_i hnone
    obtain rfl := Except.ok.inj hok
    have hnone' : prefixCandidate st owner peer (watermark st owner peer) = none := hnone
    rw [hnone']
    exact ⟨⟨rfl, rfl⟩, rfl⟩
  · rename_i candidate hcandidate
    have hcandidate' : prefixCandidate st owner peer (watermark st owner peer) = some candidate :=
      hcandidate
    obtain ⟨hmessages, hviews⟩ := announceReadState_sameConversations hok
    rw [hcandidate']
    exact ⟨⟨hmessages, hviews⟩, (announceReadState_watermark hok).trans
      ((watermark_saveReadState ..).trans (if_pos rfl))⟩

/-- **The prefix of one conversation** takes its watermark to the end of what has been read without
a gap, and no other watermark anywhere. -/
theorem advanceDirectReadPrefix_readInv (h : ReadInv st)
    (hok : advanceDirectReadPrefix outside st owner peer = .ok st') :
    ReadInv st' ∧ SameConversations st st' ∧
      (peer ≠ "True" → watermark st' owner peer =
        max (watermark st owner peer) (readPrefixEnd st owner peer)) ∧
      ∀ owner' peer', (owner', peer') ≠ (owner, peer) →
        watermark st' owner' peer' = watermark st owner' peer' := by
  obtain ⟨hinv, -, hother⟩ := advanceDirectReadPrefix_watermarks h.toWatermarkInv hok
  obtain ⟨hsame, hcandidate⟩ := advanceDirectReadPrefix_watermark hok
  have hself : peer ≠ "True" → watermark st' owner peer =
      max (watermark st owner peer) (readPrefixEnd st owner peer) := fun hpeer ↦
    hcandidate.trans (h.readThrough owner peer hpeer).watermark_candidate
  have hothers : ∀ owner' peer', (owner', peer') ≠ (owner, peer) →
      watermark st' owner' peer' = watermark st owner' peer' := by
    intro owner' peer' hne
    rw [watermark, (hother owner' ("direct:" ++ peer') fun heq ↦ hne ?_).row, watermark]
    obtain ⟨rfl, hthread⟩ := Prod.mk.inj heq
    rw [directThread_injective hthread]
  refine ⟨⟨hinv, hsame.messages ▸ h.positive, fun owner' peer' hpeer' ↦ ?_⟩, hsame, hself, hothers⟩
  by_cases hkey : (owner', peer') = (owner, peer)
  · obtain ⟨rfl, rfl⟩ := Prod.mk.inj hkey
    intro p hp hle
    rw [hsame.eq] at hp
    rw [hself hpeer', le_max_iff] at hle
    rcases hle with hle | hle
    · exact h.readThrough owner' peer' hpeer' p hp hle
    · exact read_of_le_readPrefixEnd hp (h.positive _ (mem_conversationMessages.mp hp).1) hle
  · exact hsame.readsMore.readThrough (h.readThrough owner' peer' hpeer')
      (hothers owner' peer' hkey)

/-- The loop over the peers does so for each of them. -/
theorem advancePrefixes_readInv {peers : List String} (h : ReadInv st) (hpeers : peers.Nodup)
    (hok : advancePrefixes outside owner peers st = .ok st') :
    ReadInv st' ∧ SameConversations st st' ∧
      (∀ peer ∈ peers, peer ≠ "True" → watermark st' owner peer =
        max (watermark st owner peer) (readPrefixEnd st owner peer)) ∧
      ∀ peer, peer ∉ peers → watermark st' owner peer = watermark st owner peer := by
  induction peers generalizing st with
  | nil =>
    obtain rfl := Except.ok.inj hok
    exact ⟨h, ⟨rfl, rfl⟩, by simp, fun _ _ ↦ rfl⟩
  | cons first rest ih =>
    obtain ⟨st₁, hfirst, hok⟩ := bind_eq_ok.mp hok
    obtain ⟨hnotin, hrest⟩ := List.nodup_cons.mp hpeers
    obtain ⟨hinv₁, hsame₁, hself, hother⟩ := advanceDirectReadPrefix_readInv h hfirst
    obtain ⟨hinv, hsame, hlater, hkept⟩ := ih hinv₁ hrest hok
    refine ⟨hinv, ⟨hsame.messages.trans hsame₁.messages, hsame.views.trans hsame₁.views⟩, ?_, ?_⟩
    · intro peer hmem hpeer
      rcases List.mem_cons.mp hmem with rfl | hmem
      · exact (hkept peer hnotin).trans (hself hpeer)
      · have hne : (owner, peer) ≠ (owner, first) := by
          rintro ⟨⟩
          exact hnotin hmem
        rw [hlater peer hmem hpeer, hother owner peer hne, hsame₁.readPrefixEnd_eq]
    · intro peer hmem
      obtain ⟨hne, hmem⟩ := not_or.mp (mt List.mem_cons.mpr hmem)
      rw [hkept peer hmem, hother owner peer fun heq ↦ hne (Prod.mk.inj heq).2]

/-- **`inbox_mark_read` keeps the invariant.** The watermark of every conversation it touches is
then at the end of the prefix, unless it was further, and only the named messages have been
marked. -/
theorem inboxMarkRead_readInv {req : InboxRequest} {params result : Obj} (h : ReadInv st)
    (hok : inboxMarkRead st req params = .ok (result, st')) :
    ReadInv st' ∧ ∃ owner ids, currentDid req.toRequest true = .ok (some owner) ∧
      messageIdsFromParams params = .ok ids ∧
      (∀ v ∈ st.directMessageViews, v.ownerDid = owner → v.messageId ∈ ids → v.peerDid ≠ "True" →
        watermark st' owner v.peerDid =
          max (watermark st owner v.peerDid) (readPrefixEnd st' owner v.peerDid)) ∧
      st'.directMessages = st.directMessages ∧
      ∀ v ∈ st'.directMessageViews, v.messageId ∉ ids → v ∈ st.directMessageViews := by
  obtain ⟨owner, ids, hdid, hids, hprefixes⟩ := inboxMarkRead_steps hok
  set marked : Store := { st with
    directMessageViews := Table.updateWhere
      (fun v ↦ decide (v.ownerDid = owner ∧ v.readAt = none) && ids.contains v.messageId)
      (fun v ↦ { v with readAt := some req.outside.now }) st.directMessageViews } with hmarked
  have hmore : ReadsMore st marked := .markViews st _ _
  have hinv : ReadInv marked := by
    refine ⟨h.toWatermarkInv.of_views (.markViews st _ _), h.positive, fun owner peer hpeer ↦ ?_⟩
    exact hmore.readThrough (h.readThrough owner peer hpeer) rfl
  obtain ⟨hinv', hsame, hpeers, -⟩ := advancePrefixes_readInv hinv
    ((req.setOrder_perm _).nodup_iff.mpr (List.nodup_dedup _)) hprefixes
  refine ⟨hinv', owner, ids, hdid, hids, fun v hv howner hid hpeer ↦ ?_, hsame.messages,
    fun v hv hid ↦ ?_⟩
  · rw [hsame.readPrefixEnd_eq]
    refine hpeers v.peerDid ((req.setOrder_perm _).mem_iff.mpr (List.mem_dedup.mpr ?_)) hpeer
    refine List.mem_map_of_mem (List.mem_filter.mpr ⟨hv, ?_⟩)
    simp [howner, hid]
  · rw [hsame.views, hmarked] at hv
    obtain ⟨v₀, hv₀, rfl⟩ := Table.mem_updateWhere.mp hv
    split at hid
    · rename_i hnamed
      exact absurd (List.contains_iff_mem.mp (Bool.and_eq_true_iff.mp hnamed).2) hid
    · rename_i hnamed
      rwa [if_neg hnamed]

end SingleReads

/-! ### Sends -/

section Sends

variable {settings : Settings} {st st' : Store} {owner peer : String}

/-- What has come is one message, numbered past those that were there, and views of it. -/
structure OneMessageCame (st st' : Store) (row : DirectMessage) : Prop where
  messages : st'.directMessages = st.directMessages ++ [row]
  fresh : ∀ m ∈ st.directMessages, m.messageId ≠ row.messageId
  serverSeq : row.serverSeq = nextSeq (st.directMessages.map DirectMessage.serverSeq)
  views : ∀ v ∈ st'.directMessageViews, v ∈ st.directMessageViews ∨ v.messageId = row.messageId

/-- The views of a new message are its own. -/
theorem OneMessageCame.of_views {row : DirectMessage} (h : OneMessageCame st st' row)
    {view : DirectMessageView} (hview : view.messageId = row.messageId) :
    OneMessageCame st { st' with
      directMessageViews :=
        Table.insertOrIgnore DirectMessageView.key view st'.directMessageViews } row := by
  refine ⟨h.messages, h.fresh, h.serverSeq, fun v hv ↦ ?_⟩
  rcases Table.mem_insertOrIgnore hv with hv | rfl
  · exact h.views v hv
  · exact .inr hview

/-- **A send that runs alone** changes nothing, or brings one message. -/
theorem directSend_run {req : SendRequest} {params result : Obj}
    (hrun : (directSend settings req params).run st = .ok (result, st')) :
    st' = st ∨ ∃ row, OneMessageCame st st' row := by
  suffices hguarded : (directSend settings req params).Guarded (· = st) (fun _ _ _ ↦ True)
      (fun _ _ ↦ True) (fun _ s ↦ ∃ row, OneMessageCame st s row) none from
    hguarded.run_alone hrun
  refine directSend_guarded (fun c l ↦ storeDirectMessage_guarded
    (fun c read hread ↦ ?_) c l) params
  obtain rfl : read = st := hread
  refine insertAndShow_guarded (V := fun row s ↦ OneMessageCame read s row)
    (fun row s view hview hs ↦ hs.of_views hview)
    (fun row s _ _ _ _ _ hs ↦ ⟨hs.messages, hs.fresh, hs.serverSeq, hs.views⟩)
    (fun row s s' hrow hs hinsert _ ↦ ?_) fun row s _ hs ↦ ⟨row, hs⟩
  obtain rfl : s = read := hs
  obtain ⟨_, -, hinsert⟩ := bind_eq_ok.mp hinsert
  obtain ⟨rows, hrows, hinsert⟩ := bind_eq_ok.mp hinsert
  obtain ⟨hfresh, rfl⟩ := Table.insert?_eq_some.mp (orRaise_eq_ok.mp hrows)
  rw [← pure_eq_ok.mp hinsert]
  exact ⟨rfl, hfresh, directMessageRow_serverSeq hrow, fun v hv ↦ .inl hv⟩

/-- A message that has come is past every number there was. -/
theorem OneMessageCame.conversation {row : DirectMessage} (h : OneMessageCame st st' row)
    {p : DirectMessage × DirectMessageView} (hp : p ∈ conversationMessages st' owner peer) :
    p ∈ conversationMessages st owner peer ∨
      p.1.serverSeq = nextSeq (st.directMessages.map DirectMessage.serverSeq) := by
  obtain ⟨m, v⟩ := p
  obtain ⟨hm, hv, hid, hrest⟩ := mem_conversationMessages.mp hp
  rw [h.messages] at hm
  rcases List.mem_append.mp hm with hm | hm
  · refine .inl (mem_conversationMessages.mpr ⟨hm, ?_, hid, hrest⟩)
    -- A view of an older message is not a view of the new one.
    exact (h.views v hv).resolve_right fun hnew ↦ h.fresh m hm (hid.symm.trans hnew)
  · exact .inr (List.mem_singleton.mp hm ▸ h.serverSeq)

/-- **No watermark is past the messages there are.** -/
theorem WatermarkInv.watermark_lt_nextSeq (h : WatermarkInv st) (owner peer : String) :
    watermark st owner peer < nextSeq (st.directMessages.map DirectMessage.serverSeq) := by
  rw [nextSeq, Nat.lt_succ_iff, watermark]
  cases hrow : st.readState? owner ("direct:" ++ peer) with
  | none => exact Nat.zero_le _
  | some row =>
    have hbound := h.bounded owner _ row hrow
    refine Int.ofNat_le.mp (hbound.trans (foldr_max_le (Int.natCast_nonneg _) fun n hn ↦ ?_))
    obtain ⟨subject, -, hn⟩ := List.mem_flatMap.mp hn
    rw [if_pos (startsWith_append _ _)] at hn
    obtain ⟨⟨m, v⟩, hmem, rfl⟩ := List.mem_map.mp hn
    exact Int.ofNat_le.mpr (List.le_max_of_le
      (List.mem_map_of_mem (mem_conversationMessages.mp hmem).1) le_rfl)

/-- **A send keeps the invariant.** -/
theorem directSend_readInv {req : SendRequest} {params result : Obj} (h : ReadInv st)
    (hok : (directSend settings req params).run st = .ok (result, st')) : ReadInv st' := by
  have hstep := (ReadStep.watermarks (a := .announce (directSend settings req params))
    h.toWatermarkInv (MessageSend.direct req params) (.announce _ (.directSend req params))).1
  rw [hok] at hstep
  have hinv : WatermarkInv st' := hstep
  have hwatermark : ∀ owner peer, watermark st' owner peer = watermark st owner peer := by
    have hguarded : (directSend settings req params).Guarded st.Announces (fun _ _ _ ↦ True)
        (fun _ _ ↦ True) (fun _ s ↦ st.Announces s) none :=
      (Announcer.directSend req params).guarded fun hs ha ↦ hs.trans ha
    have hannounces : st.Announces st' := hguarded.run (.refl st) hok
    intro owner peer
    rw [watermark, Store.readState?, hannounces.threadReadStates, watermark, Store.readState?]
  rcases directSend_run hok with rfl | ⟨row, hcame⟩
  · exact h
  · refine ⟨hinv, fun m hm ↦ ?_, fun owner peer hpeer p hp hle ↦ ?_⟩
    · rw [hcame.messages] at hm
      rcases List.mem_append.mp hm with hm | hm
      · exact h.positive m hm
      · rw [List.mem_singleton.mp hm, hcame.serverSeq]
        exact Nat.succ_pos _
    · rw [hwatermark] at hle
      rcases hcame.conversation hp with hold | hnew
      · exact h.readThrough owner peer hpeer p hold hle
      · exact absurd hle (not_le.mpr (hnew ▸ h.watermark_lt_nextSeq owner peer))

/-- A mark of either kind, or a direct send. -/
def ReadAction.IsMarkOrDirectSend (settings : Settings) : ReadAction → Prop
  | .announce p => ∃ req params, p = directSend settings req params
  | _ => True

/-- **Every such request keeps the invariant.** -/
theorem ReadStep.readInv {a : ReadAction} (h : ReadInv st) (ha : a.IsMarkOrDirectSend settings)
    (hstep : ReadStep settings st a st') : ReadInv st' := by
  cases hstep with
  | markRead seen req params =>
    cases hok : Awiki.markRead seen st req params with
    | error e => exact h
    | ok r => exact markRead_readInv h hok
  | inboxMarkRead req params =>
    cases hok : Awiki.inboxMarkRead st req params with
    | error e => exact h
    | ok r => exact (inboxMarkRead_readInv h hok).1
  | announce p hp =>
    obtain ⟨req, params, rfl⟩ := ha
    cases hok : (directSend settings req params).run st with
    | error e => exact h
    | ok r => exact directSend_readInv h hok

end Sends

/-- **Watermarks and single reads agree.** Wherever marks of both kinds and direct sends, one after
the other, have led to, from a server where nobody has read anything and messages are numbered from
1: in the conversation of any owner with any peer, every message within the watermark has been read.

A successful `inbox_mark_read` of that owner then leaves the watermark of each conversation it has
touched at the larger of its previous value and the end of the longest contiguous read prefix, and
it has marked none but the messages it names.

A peer is a DID. The text `True` is none: it is what the thread of a request that names its peer by
JSON `true` is called, while its messages are those of the text `1`. -/
theorem watermarks_agree_with_reads {settings : Settings} {st₀ st : Store} (hst₀ : NothingRead st₀)
    (hpositive : ∀ m ∈ st₀.directMessages, 0 < m.serverSeq)
    (h : ReachesWith (ReadStep settings) (fun _ a ↦ a.IsMarkOrDirectSend settings) st₀ st)
    (owner peer : String) (hpeer : peer ≠ "True") :
    (∀ m v, (m, v) ∈ conversationMessages st owner peer →
        m.serverSeq ≤ watermark st owner peer → v.readAt ≠ none) ∧
      ∀ req params result st' ids, currentDid (InboxRequest.toRequest req) true = .ok (some owner) →
        messageIdsFromParams params = .ok ids →
        inboxMarkRead st req params = .ok (result, st') →
          ((∃ v ∈ st.directMessageViews, v.ownerDid = owner ∧ v.messageId ∈ ids ∧
              v.peerDid = peer) →
            watermark st' owner peer =
              max (watermark st owner peer) (readPrefixEnd st' owner peer)) ∧
          ∀ m v, (m, v) ∈ conversationMessages st' owner peer → m.messageId ∉ ids →
            (m, v) ∈ conversationMessages st owner peer := by
  have hinv : ReadInv st := by
    refine h.invariant ⟨hst₀.watermarkInv, hpositive, fun owner peer _ p hp hle ↦ ?_⟩
      fun hi ha hs ↦ hs.readInv hi ha
    have hnothing : watermark st₀ owner peer = 0 := by
      rw [watermark, Store.readState?, hst₀.rows]
      rfl
    exact absurd (hpositive _ (mem_conversationMessages.mp hp).1) (by omega)
  refine ⟨fun m v hp ↦ hinv.readThrough owner peer hpeer (m, v) hp, ?_⟩
  intro req params result st' ids hdid hids hok
  obtain ⟨-, owner', ids', hdid', hids', htouched, hmessages, hviews⟩ :=
    inboxMarkRead_readInv hinv hok
  obtain rfl : owner = owner' := Option.some.inj (Except.ok.inj (hdid.symm.trans hdid'))
  obtain rfl : ids = ids' := Except.ok.inj (hids.symm.trans hids')
  refine ⟨?_, fun m v hp hid ↦ ?_⟩
  · rintro ⟨v, hv, howner, hid, rfl⟩
    exact htouched v hv howner hid hpeer
  · obtain ⟨hm, hv, hvid, hrest⟩ := mem_conversationMessages.mp hp
    exact mem_conversationMessages.mpr
      ⟨hmessages ▸ hm, hviews v hv (hvid ▸ hid), hvid, hrest⟩

/-- Carol's requests to read single messages. -/
def carolInbox : InboxRequest :=
  { surface := .localRpc, credentials := .bearer carol, outside := .honest,
    setOrder := id, setOrder_perm := fun _ ↦ List.Perm.refl _ }

/-- Alice has written to Carol twice. -/
def sentTwice : Store := afterAction sentToCarol (.announce (sampleDirect "m2"))

/-- Carol has read the second message. -/
def secondRead : Store :=
  afterAction sentTwice (.inboxMarkRead carolInbox [("message_ids", .arr [.str "m2"])])

/-- The first one stays unread, and the watermark before it. -/
theorem watermarks_agree_with_reads_second_read :
    (conversationMessages secondRead carol alice).map
        (fun p ↦ (p.1.serverSeq, p.2.readAt.isSome)) = [(1, false), (2, true)] ∧
      watermark secondRead carol alice = max 0 (readPrefixEnd secondRead carol alice) ∧
      watermark secondRead carol alice = 0 := by
  refine ⟨by decide +kernel, ?_, by decide +kernel⟩
  have hstart : NothingRead sampleSenders :=
    ⟨rfl, fun _ he ↦ absurd he List.not_mem_nil, refsKeyed_sampleSenders⟩
  have hrun : ReachesWith (ReadStep .sample) (fun _ a ↦ a.IsMarkOrDirectSend .sample) sampleSenders
      sentTwice := (reaches_sentToCarol ⟨_, _, rfl⟩).tail (l := .announce (sampleDirect "m2"))
        ⟨_, _, rfl⟩ (.announce _ (.directSend _ _))
  have hsome : (inboxMarkRead sentTwice carolInbox
      [("message_ids", .arr [.str "m2"])]).toOption.isSome = true := by decide +kernel
  cases hok : inboxMarkRead sentTwice carolInbox [("message_ids", .arr [.str "m2"])] with
  | error e =>
    rw [hok] at hsome
    cases hsome
  | ok r =>
    have hafter : secondRead = r.2 := by
      rw [secondRead, afterAction, hok]
      rfl
    have htouched := ((watermarks_agree_with_reads hstart (fun _ hm ↦ absurd hm List.not_mem_nil)
      hrun carol alice (by decide)).2 carolInbox _ r.1 r.2 ["m2"] rfl rfl hok).1
    have hbefore : watermark sentTwice carol alice = 0 := by decide +kernel
    rw [hafter, htouched ?_, hbefore]
    have hviews : (sentTwice.directMessageViews.any fun v ↦
        decide (v.ownerDid = carol ∧ v.messageId = "m2" ∧ v.peerDid = alice)) = true := by
      decide +kernel
    obtain ⟨v, hv, hof⟩ := List.any_eq_true.mp hviews
    obtain ⟨howner, hid, hpeer⟩ := of_decide_eq_true hof
    exact ⟨v, hv, howner, by simp [hid], hpeer⟩

end Awiki
