import AwikiOpenServer.Messaging.ReadStateLog
import AwikiOpenServer.Messaging.ThreadMessages

/-!
# Watermarks

A row of `thread_read_states` holds how far an owner has read a thread and in which version this is
known. Two handlers move it, a mark and the prefix of single reads, and both announce what they have
moved in the owner's log.

The number of entries of the log about a thread is the version of its row (`WatermarkInv.counted`).
That is what ties rows and entries together: a step that leaves the one alone leaves the other
alone, and one that moves the watermark moves both by one (`WatermarkStep`).

## One thread at a time

A request touches the row of one thread, or of several in a loop, and the result is about each. So
the relation between the states before and after is stated for one thread: either nothing about it
has changed (`Untouched`), or it has made a `WatermarkStep`, which is a new row in version 1, or an
advance by one version, always with an entry. To compose the steps of a loop is to see that a
different peer is a different thread, and that different threads have different keys in the log
(`threadKey?_injective`).

Entries name their thread by a key that may have to be drawn first. A thread without a key has no
entries, and once it has one it keeps it (`WatermarksNamed.filter_eq`, `threadKey?_mono`); the entry
that draws it counts for it.

## The bound

A watermark is at most the highest number the owner sees in the thread. A mark is held against the
messages of the thread before it is written, and the end of a prefix is one of them; sends only add
messages (`Messaging/ThreadMessages.lean`). The bound is part of the invariant, since a step of the
one handler relies on what the other has written.
-/

namespace Awiki

open Py Runs Transactions

/-! ### Threads in the log -/

/-- The wire word of a thread's kind. -/
def threadKind (threadId : String) : String :=
  if startsWith "direct:" threadId then "direct" else "group"

/-- The key under which clients know a thread: none before a conversation has its reference, and
none for an id that is of neither kind. -/
def threadKey? (refs : List ConversationRef) (owner threadId : String) : Option String :=
  if startsWith "direct:" threadId then
    (Table.row? ConversationRef.key (owner, withoutHead "direct:" threadId) refs).map
      (·.conversationRef)
  else if startsWith "group:" threadId then some (withoutHead "group:" threadId)
  else none

/-- The entries of the owner's log about a thread. -/
def watermarkEvents (st : Store) (owner threadId : String) : List SyncEvent :=
  match threadKey? st.directConversationRefs owner threadId with
  | none => []
  | some key => st.syncEvents.filter (SyncEvent.isWatermarkOf owner key (threadKind threadId))

/-- The row of a thread is of its kind. -/
theorem ThreadReadState.kind_eq (row : ThreadReadState) : row.kind = threadKind row.threadId := rfl

/-- **Different threads of an owner have different keys.** -/
theorem threadKey?_injective {refs : List ConversationRef} {owner a b key : String}
    (hrefs : RefsKeyed refs) (ha : threadKey? refs owner a = some key)
    (hb : threadKey? refs owner b = some key) (hkind : threadKind a = threadKind b) : a = b := by
  unfold threadKey? at ha hb
  unfold threadKind at hkind
  cases hda : startsWith "direct:" a <;> cases hdb : startsWith "direct:" b <;>
    simp only [hda, hdb, if_true, if_false, Bool.false_eq_true] at ha hb hkind
  · cases hga : startsWith "group:" a with
    | false => simp [hga] at ha
    | true =>
      cases hgb : startsWith "group:" b with
      | false => simp [hgb] at hb
      | true =>
        rw [hga, if_pos rfl, Option.some.injEq] at ha
        rw [hgb, if_pos rfl, Option.some.injEq] at hb
        exact withoutHead_injective hga hgb (ha.trans hb.symm)
  · exact absurd hkind (by decide)
  · exact absurd hkind (by decide)
  · obtain ⟨ra, hra, rfl⟩ := Option.map_eq_some_iff.mp ha
    obtain ⟨rb, hrb, hsame⟩ := Option.map_eq_some_iff.mp hb
    have hka : ra.key = (owner, withoutHead "direct:" a) := Table.key_of_row? hra
    have hkb : rb.key = (owner, withoutHead "direct:" b) := Table.key_of_row? hrb
    obtain ⟨howner, hpeer⟩ := Prod.mk.inj hka
    obtain ⟨howner', hpeer'⟩ := Prod.mk.inj hkb
    have hrow : ra = rb := hrefs.references.eq_of_key_eq (Table.mem_of_row? hra)
      (Table.mem_of_row? hrb) (Prod.ext (howner.trans howner'.symm) hsame.symm)
    exact withoutHead_injective hda hdb (hpeer.symm.trans ((congrArg _ hrow).trans hpeer'))

/-- The key a row is announced under is that of its thread from then on. -/
theorem ThreadNamed.threadKey?_self {outside : Outside} {refs rows : List ConversationRef}
    {row : ThreadReadState} {key : String} (h : ThreadNamed outside refs row rows key)
    (hthread : row.IsThread) : threadKey? rows row.ownerDid row.threadId = some key := by
  unfold threadKey?
  cases h with
  | direct hdirect hdrawn =>
    have hdirect' : startsWith "direct:" row.threadId = true := hdirect
    rw [if_pos hdirect', hdrawn.drawn]
    rfl
  | group hgroup =>
    have hgroup' : ¬ startsWith "direct:" row.threadId = true := Bool.eq_false_iff.mp hgroup
    rw [if_neg hgroup', if_pos (hthread.resolve_left (by simp [hgroup]))]

/-- No other thread gets a key by it. -/
theorem ThreadNamed.threadKey?_other {outside : Outside} {refs rows : List ConversationRef}
    {row : ThreadReadState} {key owner threadId : String}
    (h : ThreadNamed outside refs row rows key) (hne : (owner, threadId) ≠ row.key) :
    threadKey? rows owner threadId = threadKey? refs owner threadId := by
  cases h with
  | group _ => rfl
  | direct hdirect hdrawn =>
    rcases hdrawn.rows with rfl | ⟨rfl, -⟩
    · rfl
    · unfold threadKey?
      split
      · rename_i hd
        rw [Table.row?_append, if_neg, Option.or_none]
        intro hkey
        obtain ⟨howner, hpeer⟩ := Prod.mk.inj hkey
        exact hne (Prod.ext howner.symm (withoutHead_injective hd hdirect hpeer.symm))
      · rfl

/-- A key stays. -/
theorem ThreadNamed.threadKey?_mono {outside : Outside} {refs rows : List ConversationRef}
    {row : ThreadReadState} {key key' owner threadId : String}
    (h : ThreadNamed outside refs row rows key)
    (hkey : threadKey? refs owner threadId = some key') :
    threadKey? rows owner threadId = some key' := by
  cases h with
  | group _ => exact hkey
  | direct _ hdrawn =>
    have hprefix : refs <+: rows := by
      rcases hdrawn.rows with rfl | ⟨rfl, -⟩
      · exact List.prefix_refl _
      · exact List.prefix_append _ _
    unfold threadKey? at hkey ⊢
    split
    · rename_i hd
      rw [if_pos hd] at hkey
      obtain ⟨r, hr, hrkey⟩ := Option.map_eq_some_iff.mp hkey
      exact Option.map_eq_some_iff.mpr ⟨r, Table.row?_of_prefix hprefix hr, hrkey⟩
    · rename_i hd
      rwa [if_neg hd] at hkey

/-! ### The invariant -/

/-- The log tells threads apart: every entry about a watermark is about a thread that has a key. -/
structure WatermarksNamed (st : Store) : Prop where
  refs : RefsKeyed st.directConversationRefs
  entries : ∀ e ∈ st.syncEvents, e.eventType = "message.read_state_updated" →
    ∃ threadId key, threadKey? st.directConversationRefs e.ownerDid threadId = some key ∧
      e.isWatermarkOf e.ownerDid key (threadKind threadId) = true

/-- **The invariant of a run.** -/
structure WatermarkInv (st : Store) : Prop extends WatermarksNamed st where
  /-- An entry for each version. -/
  counted : ∀ owner threadId, (watermarkEvents st owner threadId).length =
    ((st.readState? owner threadId).map (·.stateVersion)).getD 0
  /-- Nobody has read what nobody has written. -/
  bounded : ∀ owner threadId row, st.readState? owner threadId = some row →
    (row.readUpToSeq : ℤ) ≤ highestVisible st owner threadId

/-- **What a step may do to the watermark of a thread.** -/
inductive WatermarkStep (st st' : Store) (owner threadId : String) : Prop where
  | absent (hrow : st.readState? owner threadId = none)
    (hrow' : st'.readState? owner threadId = none)
      (hevents : watermarkEvents st owner threadId = [])
      (hevents' : watermarkEvents st' owner threadId = [])
  | created (row : ThreadReadState) (hrow : st.readState? owner threadId = none)
      (hrow' : st'.readState? owner threadId = some row) (hversion : row.stateVersion = 1)
      (hevents : watermarkEvents st owner threadId = [])
      (hevents' : (watermarkEvents st' owner threadId).length = 1)
  | kept (old row : ThreadReadState) (hrow : st.readState? owner threadId = some old)
      (hrow' : st'.readState? owner threadId = some row) (hseq : row.readUpToSeq = old.readUpToSeq)
      (hversion : row.stateVersion = old.stateVersion)
      (hevents : watermarkEvents st' owner threadId = watermarkEvents st owner threadId)
  | advanced (old row : ThreadReadState) (hrow : st.readState? owner threadId = some old)
      (hrow' : st'.readState? owner threadId = some row) (hseq : old.readUpToSeq < row.readUpToSeq)
      (hversion : row.stateVersion = old.stateVersion + 1)
      (hevents : (watermarkEvents st' owner threadId).length =
        (watermarkEvents st owner threadId).length + 1)

/-! ### Entries -/

section Entries

variable {st st' : Store} {outside : Outside} {row : ThreadReadState} {owner threadId : String}

/-- An entry about a watermark names its thread. -/
theorem SyncEvent.isWatermarkOf_unique {e : SyncEvent} {owner' key key' kind kind' : String}
    (h : e.isWatermarkOf owner key kind = true) (h' : e.isWatermarkOf owner' key' kind' = true) :
    owner' = owner ∧ key' = key ∧ kind' = kind := by
  obtain ⟨⟨howner, -⟩, hkey, hkind⟩ := isWatermarkOf_iff.mp h
  obtain ⟨⟨howner', -⟩, hkey', hkind'⟩ := isWatermarkOf_iff.mp h'
  exact ⟨howner'.symm.trans howner, Json.str.inj (hkey'.symm.trans hkey),
    Json.str.inj (hkind'.symm.trans hkind)⟩

/-- Announcements of other things are not about a thread. -/
theorem Store.Announces.watermarkEvents_eq (h : st.Announces st') :
    watermarkEvents st' owner threadId = watermarkEvents st owner threadId := by
  obtain ⟨rows, hlog, hrows⟩ := h.log.exists_append
  rw [watermarkEvents, watermarkEvents, h.directConversationRefs, hlog]
  cases threadKey? st.directConversationRefs owner threadId with
  | none => rfl
  | some key =>
    have hnone : rows.filter (SyncEvent.isWatermarkOf owner key (threadKind threadId)) = [] :=
      List.filter_eq_nil_iff.mpr fun e he hof ↦
        (hrows e he).notReadState.2 (SyncEvent.isWatermarkOf_iff.mp hof).1.2
    dsimp only
    rw [List.filter_append, hnone, List.append_nil]

/-- They leave the entries about threads as they are. -/
theorem Store.Announces.watermarksNamed (h : st.Announces st') (hst : WatermarksNamed st) :
    WatermarksNamed st' := by
  obtain ⟨rows, hlog, hrows⟩ := h.log.exists_append
  refine ⟨h.directConversationRefs ▸ hst.refs, fun e he htype ↦ ?_⟩
  rw [h.directConversationRefs]
  rw [hlog] at he
  rcases List.mem_append.mp he with he | he
  · exact hst.entries e he htype
  · exact absurd htype (hrows e he).notReadState.2

/-- Before a thread has its key no entry is about it. -/
theorem WatermarksNamed.filter_eq {rows : List ConversationRef} {key : String}
    (h : WatermarksNamed st) (hnamed : ThreadNamed outside st.directConversationRefs row rows key)
    (hthread : row.IsThread) :
    st.syncEvents.filter (SyncEvent.isWatermarkOf row.ownerDid key (threadKind row.threadId)) =
      watermarkEvents st row.ownerDid row.threadId := by
  have hself := hnamed.threadKey?_self hthread
  rw [watermarkEvents]
  cases hkey : threadKey? st.directConversationRefs row.ownerDid row.threadId with
  | some key' =>
    obtain rfl : key' = key := Option.some.inj ((hnamed.threadKey?_mono hkey).symm.trans hself)
    rfl
  | none =>
    refine List.filter_eq_nil_iff.mpr fun e he hof ↦ ?_
    obtain ⟨threadId, key', hkey', hof'⟩ :=
      h.entries e he (SyncEvent.isWatermarkOf_iff.mp hof).1.2
    obtain ⟨howner, rfl, hkind⟩ := SyncEvent.isWatermarkOf_unique hof hof'
    rw [howner] at hkey'
    obtain rfl := threadKey?_injective (hnamed.refsKeyed h.refs) (hnamed.threadKey?_mono hkey')
      hself hkind
    rw [hkey'] at hkey
    cases hkey

/-- **Announcing a row** adds one entry about its thread, and none about another. -/
theorem WatermarksNamed.announced (h : WatermarksNamed st) (hthread : row.IsThread)
    (hok : announceReadState outside st row = .ok st') :
    WatermarksNamed st' ∧
      (watermarkEvents st' row.ownerDid row.threadId).length =
        (watermarkEvents st row.ownerDid row.threadId).length + 1 ∧
      ∀ owner threadId, (owner, threadId) ≠ row.key →
        watermarkEvents st' owner threadId = watermarkEvents st owner threadId := by
  obtain ⟨rows, key, hnamed, hst'⟩ := announceReadState_eq_ok hok
  have hrefs : st'.directConversationRefs = rows := by
    rw [hst']
    rfl
  obtain ⟨e, hlog, he⟩ : ∃ e, st'.syncEvents = st.syncEvents ++ [e] ∧
      e.isWatermarkOf row.ownerDid key (threadKind row.threadId) = true := by
    refine ⟨_, by rw [hst']; rfl, SyncEvent.isWatermarkOf_iff.mpr ⟨⟨rfl, rfl⟩, rfl, rfl⟩⟩
  have hself := hnamed.threadKey?_self hthread
  have hkeyed := hnamed.refsKeyed h.refs
  refine ⟨⟨hrefs ▸ hkeyed, fun e' he' htype ↦ ?_⟩, ?_, fun owner threadId hne ↦ ?_⟩
  · rw [hrefs]
    rw [hlog] at he'
    rcases List.mem_append.mp he' with he' | he'
    · obtain ⟨threadId, key', hkey', hof⟩ := h.entries e' he' htype
      exact ⟨threadId, key', hnamed.threadKey?_mono hkey', hof⟩
    · obtain rfl := List.mem_singleton.mp he'
      have howner : e'.ownerDid = row.ownerDid := (SyncEvent.isWatermarkOf_iff.mp he).1.1
      exact ⟨row.threadId, key, howner ▸ hself, howner ▸ he⟩
  · rw [← h.filter_eq hnamed hthread, watermarkEvents, hrefs, hself, hlog]
    dsimp only
    rw [List.filter_append, List.length_append, List.filter_singleton, he]
    rfl
  · rw [watermarkEvents, watermarkEvents, hrefs, hnamed.threadKey?_other hne, hlog]
    cases hkey : threadKey? st.directConversationRefs owner threadId with
    | none => rfl
    | some key' =>
      have hnone : ¬ e.isWatermarkOf owner key' (threadKind threadId) = true := by
        intro hof
        -- The new entry is about the row, whose key no other thread has.
        obtain ⟨howner, rfl, hkind⟩ := SyncEvent.isWatermarkOf_unique hof he
        refine hne (Prod.ext howner.symm ?_)
        exact threadKey?_injective hkeyed (hnamed.threadKey?_mono hkey) (howner ▸ hself) hkind.symm
      dsimp only
      rw [List.filter_append, List.filter_singleton, Bool.eq_false_iff.mpr hnone, cond_false,
        List.append_nil]

end Entries

/-! ### One thread at a time -/

section Steps

variable {st st' st'' : Store} {outside : Outside} {row : ThreadReadState} {owner threadId : String}

/-- Nothing about the thread has changed. -/
structure Untouched (st st' : Store) (owner threadId : String) : Prop where
  row : st'.readState? owner threadId = st.readState? owner threadId
  events : watermarkEvents st' owner threadId = watermarkEvents st owner threadId

/-- First the one, then the other. -/
theorem Untouched.trans (h : Untouched st st' owner threadId)
    (h' : Untouched st' st'' owner threadId) : Untouched st st'' owner threadId :=
  ⟨h'.row.trans h.row, h'.events.trans h.events⟩

/-- Views are nothing of it. -/
theorem Untouched.of_views (st : Store) (views : List DirectMessageView) :
    Untouched st { st with directMessageViews := views } owner threadId := ⟨rfl, rfl⟩

/-- No row, no entries. -/
theorem WatermarkInv.watermarkEvents_eq_nil (h : WatermarkInv st)
    (hrow : st.readState? owner threadId = none) : watermarkEvents st owner threadId = [] := by
  have hcount := h.counted owner threadId
  rw [hrow] at hcount
  exact List.length_eq_zero_iff.mp hcount

/-- To leave a thread alone is a step. -/
theorem Untouched.watermarkStep (h : Untouched st st' owner threadId) (hst : WatermarkInv st) :
    WatermarkStep st st' owner threadId := by
  cases hrow : st.readState? owner threadId with
  | none =>
    have hnil := hst.watermarkEvents_eq_nil hrow
    exact .absent hrow (h.row.trans hrow) hnil (h.events.trans hnil)
  | some old => exact .kept old old hrow (h.row.trans hrow) rfl rfl h.events

/-- A step, and then nothing. -/
theorem WatermarkStep.trans_untouched (h : WatermarkStep st st' owner threadId)
    (h' : Untouched st' st'' owner threadId) : WatermarkStep st st'' owner threadId := by
  cases h with
  | absent hrow hrow' hevents hevents' =>
    exact .absent hrow (h'.row.trans hrow') hevents (h'.events.trans hevents')
  | created row hrow hrow' hversion hevents hevents' =>
    exact .created row hrow (h'.row.trans hrow') hversion hevents (h'.events ▸ hevents')
  | kept old row hrow hrow' hseq hversion hevents =>
    exact .kept old row hrow (h'.row.trans hrow') hseq hversion (h'.events.trans hevents)
  | advanced old row hrow hrow' hseq hversion hevents =>
    exact .advanced old row hrow (h'.row.trans hrow') hseq hversion (h'.events ▸ hevents)

/-- Nothing, and then a step. -/
theorem Untouched.trans_step (h : Untouched st st' owner threadId)
    (h' : WatermarkStep st' st'' owner threadId) : WatermarkStep st st'' owner threadId := by
  cases h' with
  | absent hrow hrow' hevents hevents' =>
    exact .absent (h.row ▸ hrow) hrow' (h.events ▸ hevents) hevents'
  | created row hrow hrow' hversion hevents hevents' =>
    exact .created row (h.row ▸ hrow) hrow' hversion (h.events ▸ hevents) hevents'
  | kept old row hrow hrow' hseq hversion hevents =>
    exact .kept old row (h.row ▸ hrow) hrow' hseq hversion (hevents.trans h.events)
  | advanced old row hrow hrow' hseq hversion hevents =>
    exact .advanced old row (h.row ▸ hrow) hrow' hseq hversion (h.events ▸ hevents)

/-- A step keeps the count: a version more, an entry more. -/
theorem WatermarkStep.counted (h : WatermarkStep st st' owner threadId)
    (hst : (watermarkEvents st owner threadId).length =
      ((st.readState? owner threadId).map (·.stateVersion)).getD 0) :
    (watermarkEvents st' owner threadId).length =
      ((st'.readState? owner threadId).map (·.stateVersion)).getD 0 := by
  cases h with
  | absent hrow hrow' hevents hevents' => simp [hrow', hevents']
  | created row hrow hrow' hversion hevents hevents' => simp [hrow', hversion, hevents']
  | kept old row hrow hrow' hseq hversion hevents => simp [hevents, hst, hrow, hrow', hversion]
  | advanced old row hrow hrow' hseq hversion hevents => simp [hevents, hst, hrow, hrow', hversion]

/-- **The invariant after a step** that moves a watermark no further than to what is visible. -/
theorem WatermarkInv.next (h : WatermarkInv st) (hnamed : WatermarksNamed st')
    (hgrow : MessagesGrow st st')
    (hsteps : ∀ owner threadId, WatermarkStep st st' owner threadId)
    (hbound : ∀ owner threadId row, st'.readState? owner threadId = some row →
      Untouched st st' owner threadId ∨ (row.readUpToSeq : ℤ) ≤ highestVisible st owner threadId) :
    WatermarkInv st' where
  toWatermarksNamed := hnamed
  counted owner threadId := (hsteps owner threadId).counted (h.counted owner threadId)
  bounded owner threadId row hrow := by
    refine le_trans ?_ (hgrow.highestVisible owner threadId)
    rcases hbound owner threadId row hrow with hsame | hle
    · exact h.bounded owner threadId row (hsame.row ▸ hrow)
    · exact hle

/-- Views may be read. -/
theorem WatermarkInv.of_views (h : WatermarkInv st) {views : List DirectMessageView}
    (hgrow : MessagesGrow st { st with directMessageViews := views }) :
    WatermarkInv { st with directMessageViews := views } where
  refs := h.refs
  entries := h.entries
  counted := h.counted
  bounded owner threadId row hrow :=
    (h.bounded owner threadId row hrow).trans (hgrow.highestVisible owner threadId)

/-- A row that is written is read back, and the others stay. -/
theorem readState?_saveReadState :
    (saveReadState st row).readState? owner threadId =
      if (owner, threadId) = row.key then some row else st.readState? owner threadId := by
  rw [Store.readState?, saveReadState, Table.row?_upsert fun _ _ ↦ rfl]
  split
  · cases Table.row? ThreadReadState.key (owner, threadId) st.threadReadStates <;> rfl
  · rfl

/-- Announcing leaves the rows alone. -/
theorem announceReadState_readState? (hok : announceReadState outside st row = .ok st') :
    st'.readState? owner threadId = st.readState? owner threadId := by
  obtain ⟨rows, key, -, rfl⟩ := announceReadState_eq_ok hok
  rfl

/-- Announcing leaves the messages alone. -/
theorem announceReadState_messagesGrow (hok : announceReadState outside st row = .ok st') :
    MessagesGrow st st' := by
  obtain ⟨rows, key, -, rfl⟩ := announceReadState_eq_ok hok
  exact .of_eq rfl rfl rfl rfl rfl fun _ _ ↦ rfl

end Steps

/-! ### The two handlers -/

section Handlers

variable {st st' : Store} {settings : Settings} {outside : Outside} {row : ThreadReadState}

/-- One thread has made a step and the others have not been touched. -/
theorem WatermarkInv.steps_of_other (h : WatermarkInv st)
    (hself : WatermarkStep st st' row.ownerDid row.threadId)
    (hother : ∀ owner threadId, (owner, threadId) ≠ row.key → Untouched st st' owner threadId)
    (owner threadId : String) : WatermarkStep st st' owner threadId := by
  by_cases hkey : (owner, threadId) = row.key
  · obtain ⟨rfl, rfl⟩ := Prod.mk.inj hkey
    exact hself
  · exact (hother owner threadId hkey).watermarkStep h

/-- **A row written together with its entry**, beside views: a new one in version 1, or one that has
advanced by one version. -/
theorem WatermarkInv.announced (h : WatermarkInv st) (views : List DirectMessageView)
    (hthread : row.IsThread)
    (hgrow : MessagesGrow st { saveReadState st row with directMessageViews := views })
    (hvisible : (row.readUpToSeq : ℤ) ≤ highestVisible st row.ownerDid row.threadId)
    (hversion : st.readState? row.ownerDid row.threadId = none ∧ row.stateVersion = 1 ∨
      ∃ old, st.readState? row.ownerDid row.threadId = some old ∧
        old.readUpToSeq < row.readUpToSeq ∧ row.stateVersion = old.stateVersion + 1)
    (hok : announceReadState outside { saveReadState st row with directMessageViews := views } row =
      .ok st') :
    WatermarkInv st' ∧ WatermarkStep st st' row.ownerDid row.threadId ∧
      ∀ owner threadId, (owner, threadId) ≠ row.key → Untouched st st' owner threadId := by
  have hnamed : WatermarksNamed { saveReadState st row with directMessageViews := views } :=
    ⟨h.refs, h.entries⟩
  obtain ⟨hnamed', hself, hother⟩ := hnamed.announced hthread hok
  have hrow' : st'.readState? row.ownerDid row.threadId = some row :=
    (announceReadState_readState? hok).trans (readState?_saveReadState.trans (if_pos rfl))
  have hstep : WatermarkStep st st' row.ownerDid row.threadId := by
    rcases hversion with ⟨hnone, hone⟩ | ⟨old, hold, hseq, hnext⟩
    · have hnil := h.watermarkEvents_eq_nil hnone
      refine .created row hnone hrow' hone hnil ?_
      rw [hself, show watermarkEvents { saveReadState st row with directMessageViews := views }
        row.ownerDid row.threadId = _ from hnil, List.length_nil]
    · exact .advanced old row hold hrow' hseq hnext hself
  have huntouched : ∀ owner threadId, (owner, threadId) ≠ row.key →
      Untouched st st' owner threadId := fun owner threadId hne ↦
    ⟨(announceReadState_readState? hok).trans (readState?_saveReadState.trans (if_neg hne)),
      hother owner threadId hne⟩
  refine ⟨h.next hnamed' (hgrow.trans (announceReadState_messagesGrow hok))
    (h.steps_of_other hstep huntouched) fun owner threadId row' hrow ↦ ?_, hstep, huntouched⟩
  by_cases hkey : (owner, threadId) = row.key
  · obtain ⟨rfl, rfl⟩ := Prod.mk.inj hkey
    exact .inr (Option.some.inj (hrow'.symm.trans hrow) ▸ hvisible)
  · exact .inl (huntouched owner threadId hkey)

/-- **A row written back** with the watermark and the version it had. -/
theorem WatermarkInv.rewritten (h : WatermarkInv st) {views : List DirectMessageView}
    {old : ThreadReadState}
    (hgrow : MessagesGrow st { saveReadState st row with directMessageViews := views })
    (hold : st.readState? row.ownerDid row.threadId = some old)
    (hseq : row.readUpToSeq = old.readUpToSeq) (hversion : row.stateVersion = old.stateVersion) :
    WatermarkInv { saveReadState st row with directMessageViews := views } ∧
      ∀ owner threadId, WatermarkStep st
        { saveReadState st row with directMessageViews := views } owner threadId := by
  have hrow' : Store.readState? { saveReadState st row with directMessageViews := views }
      row.ownerDid row.threadId = some row := readState?_saveReadState.trans (if_pos rfl)
  have hself : WatermarkStep st { saveReadState st row with directMessageViews := views }
      row.ownerDid row.threadId := .kept old row hold hrow' hseq hversion rfl
  have huntouched : ∀ owner threadId, (owner, threadId) ≠ row.key → Untouched st
      { saveReadState st row with directMessageViews := views } owner threadId :=
    fun owner threadId hne ↦ ⟨readState?_saveReadState.trans (if_neg hne), rfl⟩
  have hsteps := h.steps_of_other hself huntouched
  refine ⟨h.next ⟨h.refs, h.entries⟩ hgrow hsteps fun owner threadId row' hrow ↦ ?_, hsteps⟩
  by_cases hkey : (owner, threadId) = row.key
  · obtain ⟨rfl, rfl⟩ := Prod.mk.inj hkey
    obtain rfl : row = row' := Option.some.inj (hrow'.symm.trans hrow)
    exact .inr (hseq ▸ h.bounded _ _ old hold)
  · exact .inl (huntouched owner threadId hkey)

/-- The numbers of the row a mark writes. -/
theorem markedRow_numbers {m : MarkRead} {previous : Option ThreadReadState} {seq : ℤ}
    (h : markedRow outside m previous seq = .ok row) :
    (row.readUpToSeq : ℤ) = max (((previous.map (·.readUpToSeq)).getD 0 : ℕ) : ℤ) seq ∧
      row.stateVersion = (previous.map fun p ↦
        p.stateVersion + (decide (p.readUpToSeq < row.readUpToSeq)).toNat).getD 1 := by
  unfold markedRow at h
  obtain ⟨readMessageId, -, h⟩ := bind_eq_ok.mp h
  rw [← pure_eq_ok.mp h]
  refine ⟨by dsimp only; omega, ?_⟩
  cases previous <;> rfl

/-- A mark sets views. -/
theorem applyReadWatermark_messagesGrow {m : MarkRead} {previousSeq updated unread : ℕ}
    (h : applyReadWatermark outside st m row previousSeq = .ok (updated, unread, st')) :
    MessagesGrow st st' := by
  unfold applyReadWatermark at h
  obtain ⟨_, -, h⟩ := bind_eq_ok.mp h
  split at h
  · obtain ⟨peer, -, h⟩ := bind_eq_ok.mp h
    rw [← (Prod.mk.inj (Prod.mk.inj (pure_eq_ok.mp h)).2).2]
    exact .markViews st _ _
  · obtain ⟨groupDid, -, h⟩ := bind_eq_ok.mp h
    obtain ⟨source, -, h⟩ := bind_eq_ok.mp h
    rw [← (Prod.mk.inj (Prod.mk.inj (pure_eq_ok.mp h)).2).2]
    exact .refl st

/-- A mark names its peer or its group. -/
theorem applyReadWatermark_isGiven {m : MarkRead} {previousSeq : ℕ}
    {answer : ℕ × ℕ × Store} (h : applyReadWatermark outside st m row previousSeq = .ok answer) :
    m.thread.isGiven = true := by
  unfold applyReadWatermark at h
  obtain ⟨_, hgiven, -⟩ := bind_eq_ok.mp h
  exact require_eq_ok.mp hgiven

/-- **What `mark_read` does to the watermarks.** -/
theorem markRead_watermarks {seen : Store} {req : Request} {params result : Obj}
    (h : WatermarkInv st) (hok : markRead seen st req params = .ok (result, st')) :
    WatermarkInv st' ∧ ∀ owner threadId, WatermarkStep st st' owner threadId := by
  obtain ⟨m, hm, hok⟩ := bind_eq_ok.mp hok
  obtain ⟨seq, numbers, row, updated, unread, marked, hseq, hnumbers, hhighest, hrow, happly,
    hwrite⟩ := commitMarkRead_steps hok
  obtain ⟨mapped, hmapped⟩ := markReadRequest_eq_ok hm
  obtain ⟨howner, hid⟩ := markedRow_key hrow
  have hthread : row.IsThread := threadFromParams_isThread (hid ▸ hmapped)
  rw [← howner, ← hid] at hrow hwrite
  rw [← howner] at hnumbers
  obtain ⟨hsaved, hversion⟩ := markedRow_numbers hrow
  have hgrow := applyReadWatermark_messagesGrow happly
  obtain ⟨views, rfl⟩ := applyReadWatermark_eq_ok happly
  -- The mark is held against the messages of its thread, and the old watermark is within them.
  have hvisible : (row.readUpToSeq : ℤ) ≤ highestVisible st row.ownerDid row.threadId := by
    rw [hsaved]
    refine max_le ?_ (hhighest.trans ((max?_getD_le_foldr_max _).trans (foldr_max_mono
      (threadNumbers_visible (hid ▸ hmapped) (applyReadWatermark_isGiven happly) hnumbers))))
    cases hold : st.readState? row.ownerDid row.threadId with
    | none => exact highestVisible_nonneg st _ _
    | some old => exact h.bounded _ _ old hold
  have hsavedGrow : MessagesGrow st (saveReadState st row) :=
    .of_eq rfl rfl rfl rfl rfl fun _ _ ↦ rfl
  have hgrow' := hsavedGrow.trans hgrow
  cases hold : st.readState? row.ownerDid row.threadId with
  | none =>
    rw [if_pos (.inr hold)] at hwrite
    rw [hold] at hversion
    obtain ⟨hinv, hstep, hother⟩ :=
      h.announced _ hthread hgrow' hvisible (.inl ⟨hold, hversion⟩) hwrite
    exact ⟨hinv, h.steps_of_other hstep hother⟩
  | some old =>
    rw [hold] at hversion hsaved hwrite
    dsimp only [Option.map_some, Option.getD_some] at hversion hsaved hwrite
    by_cases hadvanced : old.readUpToSeq < row.readUpToSeq
    · rw [if_pos (.inl hadvanced)] at hwrite
      rw [decide_eq_true hadvanced] at hversion
      obtain ⟨hinv, hstep, hother⟩ :=
        h.announced _ hthread hgrow' hvisible (.inr ⟨old, hold, hadvanced, hversion⟩) hwrite
      exact ⟨hinv, h.steps_of_other hstep hother⟩
    · rw [if_neg (by simp [hadvanced])] at hwrite
      rw [decide_eq_false hadvanced] at hversion
      have hseq' : row.readUpToSeq = old.readUpToSeq := by omega
      obtain rfl := hwrite
      exact h.rewritten hgrow' hold hseq' hversion

/-- The message a prefix ends with is one of the conversation, past the old watermark. -/
theorem mem_of_prefixCandidate {owner peer : String} {previousSeq : ℕ} {m : DirectMessage}
    (h : prefixCandidate st owner peer previousSeq = some m) :
    previousSeq < m.serverSeq ∧ ∃ v, (m, v) ∈ conversationMessages st owner peer := by
  obtain ⟨⟨m', v⟩, hmem, rfl⟩ := List.mem_map.mp (List.argmax_mem h)
  obtain ⟨hlater, -⟩ := List.mem_filter.mp hmem
  obtain ⟨hmem, hseq⟩ := List.mem_filter.mp hlater
  exact ⟨of_decide_eq_true hseq, v, hmem⟩

/-- **What the prefix of one conversation does.** -/
theorem advanceDirectReadPrefix_watermarks {owner peer : String} (h : WatermarkInv st)
    (hok : advanceDirectReadPrefix outside st owner peer = .ok st') :
    WatermarkInv st' ∧ WatermarkStep st st' owner ("direct:" ++ peer) ∧
      ∀ owner' threadId, (owner', threadId) ≠ (owner, "direct:" ++ peer) →
        Untouched st st' owner' threadId := by
  unfold advanceDirectReadPrefix at hok
  dsimp only at hok
  split at hok
  · obtain rfl := Except.ok.inj hok
    exact ⟨h, Untouched.watermarkStep ⟨rfl, rfl⟩ h, fun _ _ _ ↦ ⟨rfl, rfl⟩⟩
  · rename_i candidate hcandidate
    obtain ⟨hlater, v, hmem⟩ := mem_of_prefixCandidate hcandidate
    refine h.announced st.directMessageViews ?_ ?_ ?_ ?_ hok
    · exact .inl (startsWith_append _ _)
    · exact .of_eq rfl rfl rfl rfl rfl fun _ _ ↦ rfl
    · exact List.le_max_of_le' 0 (conversation_visible (self_mem_boundSubjects peer)
        (List.mem_map_of_mem hmem)) le_rfl
    · cases hold : st.readState? owner ("direct:" ++ peer) with
      | none => exact .inl ⟨rfl, rfl⟩
      | some old =>
        rw [hold] at hlater
        exact .inr ⟨old, rfl, hlater, rfl⟩

/-- Distinct peers, distinct threads: the loop takes each thread through one step. -/
theorem advancePrefixes_watermarks {owner : String} {peers : List String} (h : WatermarkInv st)
    (hpeers : peers.Nodup) (hok : advancePrefixes outside owner peers st = .ok st') :
    WatermarkInv st' ∧ (∀ owner threadId, WatermarkStep st st' owner threadId) ∧
      ∀ owner' threadId, (∀ peer ∈ peers, (owner', threadId) ≠ (owner, "direct:" ++ peer)) →
        Untouched st st' owner' threadId := by
  induction peers generalizing st with
  | nil =>
    obtain rfl := Except.ok.inj hok
    exact ⟨h, fun _ _ ↦ Untouched.watermarkStep ⟨rfl, rfl⟩ h, fun _ _ _ ↦ ⟨rfl, rfl⟩⟩
  | cons peer rest ih =>
    obtain ⟨st₁, hfirst, hok⟩ := bind_eq_ok.mp hok
    obtain ⟨hnotin, hrest⟩ := List.nodup_cons.mp hpeers
    obtain ⟨hinv₁, hself, hother⟩ := advanceDirectReadPrefix_watermarks h hfirst
    obtain ⟨hinv, hsteps, hlast⟩ := ih hinv₁ hrest hok
    refine ⟨hinv, fun owner' threadId ↦ ?_, fun owner' threadId hne ↦ ?_⟩
    · by_cases hkey : (owner', threadId) = (owner, "direct:" ++ peer)
      · obtain ⟨rfl, rfl⟩ := Prod.mk.inj hkey
        refine hself.trans_untouched (hlast _ _ fun peer' hpeer' heq ↦ hnotin ?_)
        have hsame : peer = peer' := by
          rw [← withoutHead_append "direct:" peer, (Prod.mk.inj heq).2, withoutHead_append]
        exact hsame ▸ hpeer'
      · exact (hother _ _ hkey).trans_step (hsteps _ _)
    · exact (hother _ _ (hne peer List.mem_cons_self)).trans
        (hlast _ _ fun peer' hpeer' ↦ hne peer' (List.mem_cons_of_mem _ hpeer'))

/-- **What `inbox_mark_read` does to the watermarks.** -/
theorem inboxMarkRead_watermarks {req : InboxRequest} {params result : Obj} (h : WatermarkInv st)
    (hok : inboxMarkRead st req params = .ok (result, st')) :
    WatermarkInv st' ∧ ∀ owner threadId, WatermarkStep st st' owner threadId := by
  obtain ⟨owner, ids, -, -, hprefixes⟩ := inboxMarkRead_steps hok
  have hgrow := MessagesGrow.markViews st
    (fun v ↦ decide (v.ownerDid = owner ∧ v.readAt = none) && ids.contains v.messageId)
    req.outside.now
  obtain ⟨hinv, hsteps, -⟩ :=
    advancePrefixes_watermarks (h.of_views hgrow)
      ((req.setOrder_perm _).nodup_iff.mpr (List.nodup_dedup _))
      hprefixes
  exact ⟨hinv, fun owner' threadId ↦ (Untouched.of_views st _).trans_step (hsteps owner' threadId)⟩

/-- A mark of either kind, or a send. -/
def ReadAction.IsMarkOrSend (settings : Settings) : ReadAction → Prop
  | .announce p => MessageSend settings p
  | _ => True

/-- **Every mark and every send** takes each thread through one step. -/
theorem ReadStep.watermarks {a : ReadAction} (h : WatermarkInv st) (ha : a.IsMarkOrSend settings)
    (hstep : ReadStep settings st a st') :
    WatermarkInv st' ∧ ∀ owner threadId, WatermarkStep st st' owner threadId := by
  have hunchanged : WatermarkInv st ∧ ∀ owner threadId, WatermarkStep st st owner threadId :=
    ⟨h, fun _ _ ↦ Untouched.watermarkStep ⟨rfl, rfl⟩ h⟩
  cases hstep with
  | markRead seen req params =>
    cases hok : Awiki.markRead seen st req params with
    | error e => exact hunchanged
    | ok r => exact markRead_watermarks h hok
  | inboxMarkRead req params =>
    cases hok : Awiki.inboxMarkRead st req params with
    | error e => exact hunchanged
    | ok r => exact inboxMarkRead_watermarks h hok
  | announce p hp =>
    cases hok : p.run st with
    | error e => exact hunchanged
    | ok r =>
      have hguarded : p.Guarded st.Announces (fun _ _ _ ↦ True) (fun _ _ ↦ True)
          (fun _ s ↦ st.Announces s) none := hp.guarded fun hs ha ↦ hs.trans ha
      have hannounces : st.Announces r.2 := hguarded.run (.refl st) hok
      have huntouched : ∀ owner threadId, Untouched st r.2 owner threadId := fun owner threadId ↦
        ⟨by rw [Store.readState?, hannounces.threadReadStates, Store.readState?],
          hannounces.watermarkEvents_eq⟩
      exact ⟨h.next (hannounces.watermarksNamed h.toWatermarksNamed) (MessageSend.grows ha hok)
        (fun owner threadId ↦ (huntouched owner threadId).watermarkStep h)
        fun owner threadId _ _ ↦ .inl (huntouched owner threadId),
        fun owner threadId ↦ (huntouched owner threadId).watermarkStep h⟩

end Handlers

/-- A server where nobody has read anything. -/
structure NothingRead (st : Store) : Prop where
  rows : st.threadReadStates = []
  entries : ∀ e ∈ st.syncEvents, e.eventType ≠ "message.read_state_updated"
  refs : RefsKeyed st.directConversationRefs

/-- The invariant holds where nobody has read anything. -/
theorem NothingRead.watermarkInv {st : Store} (h : NothingRead st) : WatermarkInv st := by
  have hrow : ∀ owner threadId, st.readState? owner threadId = none := fun owner threadId ↦ by
    rw [Store.readState?, h.rows]
    rfl
  refine ⟨⟨h.refs, fun e he htype ↦ absurd htype (h.entries e he)⟩, fun owner threadId ↦ ?_,
    fun owner threadId row hsome ↦ ?_⟩
  · rw [hrow, watermarkEvents]
    cases threadKey? st.directConversationRefs owner threadId with
    | none => rfl
    | some key =>
      refine List.length_eq_zero_iff.mpr (List.filter_eq_nil_iff.mpr fun e he hof ↦ ?_)
      exact h.entries e he (SyncEvent.isWatermarkOf_iff.mp hof).1.2
  · rw [hrow] at hsome
    cases hsome

/-- **Watermarks only advance, by versions.** Wherever marks of both kinds and sends of all kinds
have led to, from a server where nobody has read anything, whatever messages and groups it has: no
watermark is past the messages its owner sees in the thread. The next of them either leaves the
watermark and the version of a thread as they are and announces nothing about it, or creates the row
in version 1 with the first entry about it, or advances the watermark with the version by one and
one entry. And however the run goes on, the watermark never moves back. -/
theorem read_watermarks_versioned {settings : Settings} {st₀ st : Store} (hst₀ : NothingRead st₀)
    (h : ReachesWith (ReadStep settings) (fun _ a ↦ a.IsMarkOrSend settings) st₀ st)
    (owner threadId : String) :
    (∀ row, st.readState? owner threadId = some row →
        (row.readUpToSeq : ℤ) ≤ highestVisible st owner threadId) ∧
      (∀ a st', a.IsMarkOrSend settings → ReadStep settings st a st' →
        WatermarkStep st st' owner threadId) ∧
      ∀ st', ReachesWith (ReadStep settings) (fun _ a ↦ a.IsMarkOrSend settings) st st' →
        ∀ row, st.readState? owner threadId = some row →
          ∃ row', st'.readState? owner threadId = some row' ∧
            row.readUpToSeq ≤ row'.readUpToSeq := by
  have hinv : WatermarkInv st :=
    h.invariant hst₀.watermarkInv fun hi ha hs ↦ (hs.watermarks hi ha).1
  refine ⟨hinv.bounded owner threadId, fun a st' ha hs ↦ (hs.watermarks hinv ha).2 owner threadId,
    fun st' hlater row hrow ↦ ?_⟩
  refine (hlater.invariant (I := fun s ↦ WatermarkInv s ∧ ∃ row',
    s.readState? owner threadId = some row' ∧ row.readUpToSeq ≤ row'.readUpToSeq)
    ⟨hinv, row, hrow, le_rfl⟩ ?_).2
  rintro s s' a ⟨hi, row', hrow', hle⟩ ha hs
  obtain ⟨hi', hsteps⟩ := hs.watermarks hi ha
  refine ⟨hi', ?_⟩
  cases hsteps owner threadId with
  | absent hnone => rw [hrow'] at hnone; cases hnone
  | created _ hnone => rw [hrow'] at hnone; cases hnone
  | kept old new hold hnew hseq =>
    obtain rfl : old = row' := Option.some.inj (hold.symm.trans hrow')
    exact ⟨new, hnew, hseq ▸ hle⟩
  | advanced old new hold hnew hseq =>
    obtain rfl : old = row' := Option.some.inj (hold.symm.trans hrow')
    exact ⟨new, hnew, hle.trans hseq.le⟩

/-- Carol's first mark of what Alice has sent her. -/
theorem read_watermarks_versioned_first_mark :
    (readByNumber.readState? carol ("direct:" ++ alice)).map
        (fun row ↦ (row.readUpToSeq, row.stateVersion)) = some (1, 1) ∧
      (watermarkEvents readByNumber carol ("direct:" ++ alice)).length = 1 ∧
      highestVisible readByNumber carol ("direct:" ++ alice) = 1 ∧
      WatermarkStep sentToCarol readByNumber carol ("direct:" ++ alice) := by
  refine ⟨by decide +kernel, by decide +kernel, by decide +kernel, ?_⟩
  have hstart : NothingRead sampleSenders :=
    ⟨rfl, fun _ he ↦ absurd he List.not_mem_nil, refsKeyed_sampleSenders⟩
  have hsent : ReachesWith (ReadStep .sample) (fun _ a ↦ a.IsMarkOrSend .sample) sampleSenders
      sentToCarol := reaches_sentToCarol (.direct _ _)
  exact (read_watermarks_versioned hstart hsent carol ("direct:" ++ alice)).2.1
    (carolMark [("read_up_to_seq", .int 1)]) readByNumber trivial (.markRead _ _ _)

end Awiki
