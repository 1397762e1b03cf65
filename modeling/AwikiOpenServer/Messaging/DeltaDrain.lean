import AwikiOpenServer.Messaging.LogWriters

/-!
# Draining the log

A client that follows `next_cursor` until `has_more` is false has **drained** its log. Pages are cut
on scanned rows, the rows of a gapless log after a cursor are a tail of it, and the log only grows
at its end; so the scanned rows of the pages, put together, are the log after the first cursor, each
row once and in order, whatever was appended on the way. What a page leaves out of its rows are the
messages of groups the owner is not a member of when the page is served (`SyncEvent.isShown`).

Every page is served, because every row the server writes can be rendered. Rendering a direct
message draws the reference of its conversation, which is a hash of the two DIDs: that different
conversations have different ones is the one thing asked of the outside (`RefsDerived` and the
injectivity of `reference`).

## From a row to a page, from a page to a drain

* **A row.** `syncV2Branch_ok` goes through the kinds of events and shows that none of the branches
  of `_sync_v2_event` raises on a row the server has written. `syncV2Event_ok` adds what the row is
  rendered to and whether it is shown.
* **A page.** `scanRows_ok` is the loop over the rows of a page, by induction on them; it needs that
  they are numbered consecutively, for otherwise the loop stops with an error
  (`syncDeltaV2_numbers`). `syncDeltaV2_ok` puts the request in front of it and the cursor behind,
  and `PageOf` says what a page is, in terms of the log and the cursor alone.
* **A drain.** `Drains` is the sequence of pages a client reads, with `Later` between two of them:
  rows are appended to the log, and whatever else the server does to the other tables. The induction
  of `Drains.drainedTo` needs `logAfter_eq_scanned_append`: what was scanned is the head of the rest
  of the log, now and later.

## What is written

Serving a page may write: it draws references of conversations it has not drawn before. `DrawsRefs`
bounds this to the table of references, so a page leaves the log and the memberships as they were. A
client that asks is bound and of the current epoch (`Asks`); an epoch that ends in the middle of a
drain makes the next request fail, and the client starts again with a snapshot.
-/

namespace Awiki

open Py

/-! ### Rendering never fails -/

/-- Every reference is the one derived from its conversation. -/
def RefsDerived (reference : String → String → String) (refs : List ConversationRef) : Prop :=
  ∀ r ∈ refs, r.conversationRef = reference r.ownerDid r.peerDid

/-- Nothing but references has been drawn. -/
def DrawsRefs (reference : String → String → String) (st st' : Store) : Prop :=
  ∃ rows, RefsDerived reference rows ∧ st' = { st with directConversationRefs := rows }

/-- Drawing goes on. -/
theorem DrawsRefs.trans {reference : String → String → String} {a b c : Store}
    (hab : DrawsRefs reference a b) (hbc : DrawsRefs reference b c) : DrawsRefs reference a c := by
  obtain ⟨_, -, rfl⟩ := hab
  obtain ⟨rows, hrows, rfl⟩ := hbc
  exact ⟨rows, hrows, rfl⟩

section Rendering

variable {reference : String → String → String} {outside : Outside} {st : Store} {row : SyncEvent}
  (hinj : ∀ owner, Function.Injective (reference owner))
  (houtside : outside.conversationRef = reference)
  (hrefs : RefsDerived reference st.directConversationRefs)

include hinj houtside hrefs

/-- The reference of a conversation can always be drawn. -/
theorem conversationRef_ok (owner peer : String) :
    ∃ key st', conversationRef outside st owner peer = .ok (key, st') ∧
      DrawsRefs reference st st' := by
  unfold conversationRef
  dsimp only
  rw [houtside]
  by_cases hany : (st.directConversationRefs.any fun r ↦ decide (r.ownerDid = owner ∧
      (r.peerDid = peer ∨ r.conversationRef = reference owner peer))) = true
  · -- A row that has the reference is that of the peer, so the look-up finds one.
    rw [if_pos hany]
    obtain ⟨r, hr, hmatch⟩ := List.any_eq_true.mp hany
    obtain ⟨howner, hpeer⟩ := of_decide_eq_true hmatch
    have hkey : r.key = (owner, peer) := by
      refine Prod.ext howner (hpeer.elim id fun href ↦ hinj owner ?_)
      rw [← href, hrefs r hr, howner]
      rfl
    have hsome : (Table.row? ConversationRef.key r.key st.directConversationRefs).isSome :=
      Table.row?_isSome_of_mem hr
    obtain ⟨found, hfound⟩ := Option.isSome_iff_exists.mp (hkey ▸ hsome)
    rw [hfound]
    exact ⟨_, _, rfl, _, hrefs, rfl⟩
  · have hkey : ConversationRef.key ⟨owner, peer, reference owner peer⟩ = (owner, peer) := rfl
    rw [if_neg hany, Table.row?_append, if_pos hkey]
    have hrows : RefsDerived reference
        (st.directConversationRefs ++ [⟨owner, peer, reference owner peer⟩]) := by
      intro r hr
      rcases List.mem_append.mp hr with hr | hr
      · exact hrefs r hr
      · rw [List.mem_singleton.mp hr]
    cases Table.row? ConversationRef.key (owner, peer) st.directConversationRefs with
    | none => exact ⟨_, _, rfl, _, hrows, rfl⟩
    | some r => exact ⟨_, _, rfl, _, hrows, rfl⟩

/-- What a rendered row has to do with the row: whether it is a message of a group, and of which. -/
structure Rendered (reference : String → String → String) (st : Store) (row : SyncEvent)
    (branch : SyncV2Branch) (st' : Store) : Prop where
  draws : DrawsRefs reference st st'
  isGroupMessage : (branch.eventType = "message.created" &&
    (branch.payload.get "message_kind").isStr "group_plain") =
    startsWith "group.message." row.eventType
  groupDid : startsWith "group.message." row.eventType = true →
    branch.payload.get "group_did" = eventGroupDid row.payload

/-- A direct message can be rendered, and its reference is drawn on the way. -/
theorem messageBranch_ok (owner : String) :
    ∃ branch st', messageBranch outside st row owner = .ok (branch, st') ∧
      Rendered reference st row branch st' := by
  unfold messageBranch
  dsimp only
  by_cases hgroup : startsWith "group.message." row.eventType = true
  · rw [if_pos hgroup]
    refine ⟨_, _, rfl, ⟨_, hrefs, rfl⟩, ?_, fun _ ↦ rfl⟩
    rw [hgroup]
    rfl
  · rw [if_neg hgroup]
    obtain ⟨key, st', href, hdraws⟩ := conversationRef_ok hinj houtside hrefs owner
      (outside.str ((memberOrEmpty row.payload "thread").get "peer_did"))
    rw [href]
    refine ⟨_, _, rfl, hdraws, ?_, fun h ↦ absurd h hgroup⟩
    rw [Bool.not_eq_true] at hgroup
    rw [hgroup]
    rfl

/-- **Every row the server writes can be rendered.** -/
theorem syncV2Branch_ok (hrow : row.Wellformed) (owner : String) :
    ∃ branch st', syncV2Branch outside st row owner = .ok (branch, st') ∧
      Rendered reference st row branch st' := by
  unfold syncV2Branch
  split
  · exact messageBranch_ok hinj houtside hrefs owner
  rename_i hmessage
  have hgroup : startsWith "group.message." row.eventType = false := by
    rw [Bool.or_eq_true, not_or, Bool.not_eq_true, Bool.not_eq_true] at hmessage
    exact hmessage.2
  -- Outside messages no reference is drawn and no group is named, so any other branch will do.
  have hother : ∀ branch : SyncV2Branch, branch.eventType ≠ "message.created" →
      Rendered reference st row branch st := fun branch htype ↦ by
    refine ⟨⟨_, hrefs, rfl⟩, ?_, fun h ↦ ?_⟩
    · rw [decide_eq_false htype, hgroup]
      rfl
    · rw [hgroup] at h
      cases h
  split
  · -- An entry about a watermark has the two members that are read from it.
    rename_i hread
    rcases hrow with hrow | hrow
    · exact absurd hread (not_or.mpr hrow.notReadState)
    · obtain ⟨key, hkey⟩ := Option.isSome_iff_exists.mp hrow.threadKey
      obtain ⟨version, hversion⟩ := Option.isSome_iff_exists.mp hrow.stateVersion
      rw [readStateBranch, hkey, hversion]
      exact ⟨_, _, rfl, hother _ (by simp)⟩
  · split
    · -- The group of a creation can be bound, so its first event can be looked up.
      obtain ⟨snapshot, hsnapshot⟩ : ∃ snapshot,
          frozenGroup outside st row (eventGroupDid row.payload) = .ok snapshot := by
        unfold frozenGroup
        split
        · exact ⟨_, rfl⟩
        · split
          · rename_i hcreated
            have hbindable : (eventGroupDid row.payload).bindable = true := by
              rcases hrow with hrow | hrow
              · exact hrow.groupDid (.inr hcreated)
              · exact absurd (hcreated.symm.trans hrow.eventType) (by decide)
            obtain ⟨text, htext⟩ : ∃ text,
                bindText outside.reprFloat (eventGroupDid row.payload) = .ok text :=
              exists_bindText_iff.mpr hbindable
            rw [htext, ok_bind]
            split
            · exact ⟨_, rfl⟩
            · exact ⟨_, rfl⟩
          · exact ⟨_, rfl⟩
      rw [groupBranch, hsnapshot]
      refine ⟨_, _, rfl, hother _ ?_⟩
      dsimp only
      split <;> decide
    · refine ⟨_, _, rfl, hother _ fun h ↦ ?_⟩
      have hhead := congrArg (fun s : String ↦ s.toList.head?) h
      simp [otherBranch] at hhead

end Rendering

/-! ### What a page shows -/

/-- The owner is a member now: what `group_source` checks. -/
def isCurrentMember (st : Store) (owner groupDid : String) : Bool :=
  if (st.hostedGroup? groupDid).isSome then
    (st.hostedMember? groupDid owner).any fun m ↦ decide (m.status = .active)
  else if (st.groupView? owner groupDid).isSome then
    (st.groupView? owner groupDid).any fun v ↦ decide (v.membershipStatus = .active)
  else st.groupMembers.any fun m ↦ decide (m.key = (groupDid, owner))

/-- The row is shown in `st`: it is no message of a group, or the owner is a member of the group. -/
def SyncEvent.isShown (outside : Outside) (st : Store) (owner : String) (row : SyncEvent) : Bool :=
  !startsWith "group.message." row.eventType ||
    match bindText outside.reprFloat (eventGroupDid row.payload) with
    | .ok (some groupDid) => isCurrentMember st owner groupDid
    | _ => false

/-- A group is a source for its current members. -/
theorem groupSource_eq_ok_iff {st : Store} {owner groupDid : String} :
    (∃ source, groupSource st owner groupDid = .ok source) ↔
      isCurrentMember st owner groupDid = true := by
  have hrequire : ∀ (c : Bool) (e : AwikiError) (source : GroupSource),
      (∃ source', (require c e >>= fun _ ↦ pure source : Result GroupSource) = .ok source') ↔
        c = true := by
    intro c e source
    cases c
    · exact ⟨fun ⟨_, h⟩ ↦ (nomatch h), fun h ↦ nomatch h⟩
    · exact ⟨fun _ ↦ rfl, fun _ ↦ ⟨source, rfl⟩⟩
  unfold groupSource isCurrentMember
  by_cases hhosted : (st.hostedGroup? groupDid).isSome = true
  · rw [if_pos hhosted, if_pos hhosted]
    exact hrequire ..
  · rw [if_neg hhosted, if_neg hhosted]
    by_cases hview : (st.groupView? owner groupDid).isSome = true
    · rw [if_pos hview, if_pos hview]
      exact hrequire ..
    · rw [if_neg hview, if_neg hview]
      exact hrequire ..

/-- The event is the rendering of the row. -/
def Renders (outside : Outside) (s : SyncSubject) (epoch : String) (e : SyncV2Event)
    (row : SyncEvent) : Prop :=
  ∃ st st', syncV2Event outside st row s.owner s.accountId epoch = .ok (e, st')

section Scanning

variable {reference : String → String → String} {req : DeviceRequest} {st : Store} {row : SyncEvent}
  {s : SyncSubject} {epoch : String} (hinj : ∀ owner, Function.Injective (reference owner))
  (houtside : req.outside.conversationRef = reference)

include hinj houtside

/-- One row of a page: it is rendered, and its visibility decided. -/
theorem syncV2Event_ok (hrow : row.Wellformed)
    (hrefs : RefsDerived reference st.directConversationRefs) :
    ∃ e st', syncV2Event req.outside st row s.owner s.accountId epoch = .ok (e, st') ∧
      DrawsRefs reference st st' ∧
      isVisible req.outside st' s.owner e = .ok (row.isShown req.outside st s.owner) := by
  obtain ⟨branch, st', hbranch, hdraws, hisGroup, hgroupDid⟩ :=
    syncV2Branch_ok hinj houtside hrefs hrow s.owner
  rw [syncV2Event, hbranch]
  refine ⟨_, _, rfl, hdraws, ?_⟩
  unfold isVisible SyncEvent.isShown SyncV2Event.isGroupMessage
  dsimp only
  rw [hisGroup]
  cases hgroup : startsWith "group.message." row.eventType with
  | false => rfl
  | true =>
    -- A message of a group carries a group DID that can be bound: it was written so.
    have hbindable : (eventGroupDid row.payload).bindable = true := by
      rcases hrow with hrow | hrow
      · exact hrow.groupDid (.inl hgroup)
      · rw [hrow.eventType] at hgroup
        exact absurd hgroup (by decide)
    obtain ⟨text, htext⟩ : ∃ text,
        bindText req.outside.reprFloat (eventGroupDid row.payload) = .ok text :=
      exists_bindText_iff.mpr hbindable
    rw [if_pos rfl, hgroupDid hgroup, htext, ok_bind]
    cases text with
    | none => rfl
    | some groupDid =>
      obtain ⟨rows, -, rfl⟩ := hdraws
      have hsource : groupSource { st with directConversationRefs := rows } s.owner groupDid =
        groupSource st s.owner groupDid := rfl
      dsimp only
      rw [hsource]
      cases hok : groupSource st s.owner groupDid with
      | ok source =>
        rw [groupSource_eq_ok_iff.mp ⟨source, hok⟩]
        rfl
      | error e =>
        have hnot : isCurrentMember st s.owner groupDid = false := by
          rw [Bool.eq_false_iff]
          intro hmember
          obtain ⟨source, hsome⟩ := groupSource_eq_ok_iff.mpr hmember
          rw [hok] at hsome
          cases hsome
        rw [hnot]
        rfl

/-- **The scan of consecutive rows** renders those that are shown. -/
theorem scanRows_ok {rows : List SyncEvent} {expected : ℕ}
    (hrows : rows.map SyncEvent.eventSeq = List.range' expected rows.length)
    (hwell : ∀ row ∈ rows, row.Wellformed)
    (hrefs : RefsDerived reference st.directConversationRefs) :
    ∃ events st', scanRows req s epoch expected rows st = .ok (.events events, st') ∧
      DrawsRefs reference st st' ∧
      List.Forall₂ (Renders req.outside s epoch) events
        (rows.filter fun row ↦ row.isShown req.outside st s.owner) := by
  induction rows generalizing expected st with
  | nil => exact ⟨[], st, rfl, ⟨_, hrefs, rfl⟩, .nil⟩
  | cons row rest ih =>
    rw [List.map_cons, List.length_cons, List.range'_succ, List.cons.injEq] at hrows
    have hrow : ∃ e st', syncV2Event req.outside st row s.owner s.accountId epoch =
      .ok (e, st') ∧ _ :=
      syncV2Event_ok hinj houtside (hwell row List.mem_cons_self) hrefs
    obtain ⟨e, st₁, hevent, hdraws₁, hvisible⟩ := hrow
    obtain ⟨drawn, hdrawn, rfl⟩ := hdraws₁
    obtain ⟨events, st₂, hscan, hdraws₂, hrenders⟩ := ih hrows.2
      (fun r hr ↦ hwell r (List.mem_cons_of_mem _ hr))
      (show RefsDerived reference
        ({ st with directConversationRefs := drawn } : Store).directConversationRefs from hdrawn)
    rw [scanRows, if_neg (not_not.mpr hrows.1), hevent, ok_bind]
    dsimp only
    rw [hvisible, ok_bind, hscan, ok_bind]
    refine ⟨_, _, rfl, DrawsRefs.trans ⟨drawn, hdrawn, rfl⟩ hdraws₂, ?_⟩
    -- Whether a row is shown does not depend on the references drawn so far.
    have hrest : List.Forall₂ (Renders req.outside s epoch) events
        (rest.filter fun row ↦ row.isShown req.outside st s.owner) := hrenders
    cases hshown : row.isShown req.outside st s.owner with
    | true =>
      rw [List.filter_cons_of_pos (by simpa using hshown)]
      exact .cons ⟨st, _, hevent⟩ hrest
    | false =>
      rw [List.filter_cons_of_neg (by simp [hshown])]
      exact hrest

end Scanning

/-! ### Cursors -/

/-- A counter of at most twenty digits is a cursor. -/
theorem decimalCursor_toString {n : ℕ} (hn : n < 10 ^ 20) (field : String) :
    decimalCursor (.str (toString n)) field false = .ok n := by
  have hdigits : (Nat.toDigits 10 n).all Char.isDigit = true := List.all_eq_true.mpr fun c hc ↦
    Nat.isDigit_of_mem_toDigits (by omega) (by omega) hc
  have hlength : (Nat.toDigits 10 n).length ≤ 20 :=
    (Nat.length_toDigits_le_iff (by omega) (by omega)).mpr hn
  have hshape : (!(Nat.toDigits 10 n).isEmpty && (Nat.toDigits 10 n).all Char.isDigit &&
      !(decide (1 < (Nat.toDigits 10 n).length) &&
        decide ((Nat.toDigits 10 n).head? = some '0'))) = true := by
    rw [hdigits, List.isEmpty_eq_false_iff.mpr Nat.toDigits_ne_nil]
    rcases Nat.eq_zero_or_pos n with rfl | hpos
    · rfl
    · rw [decide_eq_false (head?_toDigits_ne_zero hpos), Bool.and_false]
      rfl
  unfold decimalCursor
  dsimp only [Json.str?]
  rw [orRaise_some, ok_bind, toList_toString_nat, hshape, require_true, ok_bind,
    decide_eq_true hlength, require_true, ok_bind, ofText?_toString, orRaise_some, ok_bind]
  rfl

/-- What a request that passes has asked for. -/
theorem deltaRequest_eq_ok {body : Obj} {d : DeltaRequest} (h : deltaRequest body = .ok d) :
    1 ≤ d.limit ∧ ∃ n, decimalCursor (.str d.epoch) "stream_epoch" true = .ok n := by
  unfold deltaRequest at h
  obtain ⟨_, -, h⟩ := bind_eq_ok.mp h
  obtain ⟨cursor, -, h⟩ := bind_eq_ok.mp h
  obtain ⟨n, hepoch, h⟩ := bind_eq_ok.mp h
  obtain ⟨epoch, htext, h⟩ := bind_eq_ok.mp h
  obtain ⟨after, -, h⟩ := bind_eq_ok.mp h
  have hcursor : ∃ n, decimalCursor (.str epoch) "stream_epoch" true = .ok n :=
    ⟨n, Json.str?_eq_some.mp (orRaise_eq_ok.mp htext) ▸ hepoch⟩
  split at h
  · split at h
    · rename_i hlimit
      obtain ⟨limit, hok, h⟩ := bind_eq_ok.mp h
      obtain ⟨known, -, h⟩ := bind_eq_ok.mp h
      obtain ⟨_, -, h⟩ := bind_eq_ok.mp h
      obtain rfl := pure_eq_ok.mp h
      obtain rfl := Except.ok.inj hok
      exact ⟨by dsimp only; omega, hcursor⟩
    · obtain ⟨_, hok, -⟩ := bind_eq_ok.mp h
      cases hok
  · obtain ⟨_, hok, -⟩ := bind_eq_ok.mp h
    cases hok

/-- **The next cursor is a valid one.** -/
theorem deltaRequest_nextCursor {page : DeltaPage} {n limit : ℕ} {reason : String}
    (hepoch : decimalCursor (.str page.nextEpoch) "stream_epoch" true = .ok n)
    (hseq : page.nextSeq < 10 ^ 20) (hlimit : 1 ≤ limit ∧ limit ≤ 500)
    (hreason : reason ∈ DELTA_REASONS) :
    deltaRequest [("cursor", .obj page.nextCursor), ("limit", .int limit),
      ("reason", .str reason)] = .ok ⟨page.nextEpoch, page.nextSeq, limit⟩ := by
  have hknown : knownReason (.str reason) = .ok true := by
    simpa [knownReason, inSet, Json.hashable] using hreason
  have hbounds : (1 : ℤ) ≤ limit ∧ (limit : ℤ) ≤ 500 := by omega
  unfold deltaRequest
  refine bind_eq_ok.mpr ⟨(), rfl, bind_eq_ok.mpr ⟨page.nextCursor, rfl, bind_eq_ok.mpr ⟨n, hepoch,
    bind_eq_ok.mpr ⟨page.nextEpoch, rfl, bind_eq_ok.mpr ⟨page.nextSeq,
      decimalCursor_toString hseq _, ?_⟩⟩⟩⟩⟩
  show (if (1 : ℤ) ≤ limit ∧ (limit : ℤ) ≤ 500 then _ else _) = _
  rw [if_pos hbounds]
  exact bind_eq_ok.mpr ⟨_, rfl, bind_eq_ok.mpr ⟨true, hknown, rfl⟩⟩

/-! ### One page -/

/-- **A log that can be drained**: without a gap, of rows the server writes, and with references
that are derived. `event_seq` is a 64-bit column. -/
structure Drainable (reference : String → String → String) (st : Store) (owner : String) :
    Prop where
  gapless : GaplessFor st.syncEvents owner
  wellformed : ∀ e ∈ ownLog st.syncEvents owner, e.Wellformed
  refs : RefsDerived reference st.directConversationRefs
  small : (ownLog st.syncEvents owner).length < 2 ^ 63

/-- **A bound client asks for a page** after a cursor of the current epoch. -/
structure Asks (reference : String → String → String) (st : Store) (req : DeviceRequest)
    (params : Obj) (s : SyncSubject) (epoch : String) (d : DeltaRequest) : Prop where
  subject : syncV2Identity req params = .ok s
  request : deltaRequest (syncBody params) = .ok d
  sameEpoch : d.epoch = epoch
  cursor : d.after ≤ highestSeq st s.owner
  bound : ∃ binding lanes, (st.syncV2Bindings.find? fun b ↦
      decide (b.ownerDid = s.owner ∧ b.deviceId = s.deviceId ∧ b.accountId = s.accountId)) =
        some binding ∧ toString binding.streamEpoch = epoch ∧
    emptyCompatDeltaLanes (syncBody params)
      (negotiatedSyncCapabilities st s binding.clientInstanceId) binding.clientInstanceId =
        .ok lanes
  references : req.outside.conversationRef = reference

/-- The rows a page is cut from. -/
def scannedRows (st : Store) (owner : String) (d : DeltaRequest) : List SyncEvent :=
  (logAfter st.syncEvents owner d.after).take d.limit

/-- **What a page is**: the rows scanned, those of them that are shown, and where to go on. -/
structure PageOf (st : Store) (outside : Outside) (s : SyncSubject) (epoch : String)
    (d : DeltaRequest) (page : DeltaPage) : Prop where
  events : List.Forall₂ (Renders outside s epoch) page.events
    ((scannedRows st s.owner d).filter fun row ↦ row.isShown outside st s.owner)
  nextEpoch : page.nextEpoch = epoch
  nextSeq : page.nextSeq = d.after + (scannedRows st s.owner d).length
  hasMore : page.hasMore = decide (d.limit < (logAfter st.syncEvents s.owner d.after).length)

/-- Whatever the server has done, a log is one that can be drained. -/
theorem ServerReaches.drainable {settings : Settings} {R : Option Store → Store → Store → Prop}
    {st : Store} {w : Server} {reference : String → String → String} {owner : String}
    (h : ServerReaches settings R st w) (hst : st.syncEvents = [])
    (hrefs : RefsDerived reference w.committed.directConversationRefs)
    (hsmall : (ownLog w.committed.syncEvents owner).length < 2 ^ 63) :
    Drainable reference w.committed owner :=
  ⟨(h.log hst).1 owner, fun e he ↦ (h.log hst).2 e (List.mem_filter.mp he).1, hrefs, hsmall⟩

section Page

variable {keys : SnapshotKeys} {settings : Settings} {reference : String → String → String}
  {st : Store} {req : DeviceRequest} {params : Obj} {s : SyncSubject} {epoch : String}
  {d : DeltaRequest}

/-- The highest number of a gapless log is its length. -/
theorem GaplessFor.highestSeq_eq {owner : String} (h : GaplessFor st.syncEvents owner) :
    highestSeq st owner = (ownLog st.syncEvents owner).length := by
  show (logNumbers st.syncEvents owner).foldr max 0 = _
  rw [h, foldr_max_range', logNumbers, List.length_map]

/-- So many rows are left after a number. -/
theorem GaplessFor.length_logAfter {log : List SyncEvent} {owner : String}
    (h : GaplessFor log owner)
    (after : ℕ) : (logAfter log owner after).length = (ownLog log owner).length - after := by
  rw [h.logAfter_eq, List.length_drop]

/-- The number of the last scanned row. -/
theorem GaplessFor.last_number {owner : String} (h : GaplessFor st.syncEvents owner) :
    ((scannedRows st owner d).getLast?.map SyncEvent.eventSeq).getD d.after =
      d.after + (scannedRows st owner d).length := by
  rw [← List.getLast?_map, scannedRows, h.take_numbers, List.getLast?_range']
  split
  · rename_i hzero
    rw [hzero]
    rfl
  · simp only [Option.getD_some]
    omega

/-- **Every page is served.** -/
theorem syncDeltaV2_ok (hinj : ∀ owner, Function.Injective (reference owner))
    (hst : Drainable reference st s.owner) (hasks : Asks reference st req params s epoch d) :
    ∃ page st', syncDeltaV2 keys settings st req params = .ok (.page page, st') ∧
      DrawsRefs reference st st' ∧ PageOf st req.outside s epoch d page := by
  obtain ⟨binding, lanes, hbinding, hepoch, hlanes⟩ := hasks.bound
  have hrows : eventsAfter st s.owner d.after (d.limit + 1) =
      (logAfter st.syncEvents s.owner d.after).take (d.limit + 1) := hst.gapless.eventsAfter_eq ..
  have hscanned : (eventsAfter st s.owner d.after (d.limit + 1)).take d.limit =
      scannedRows st s.owner d := by
    rw [hrows, List.take_take, min_eq_left (by omega), scannedRows]
  have hwell : ∀ row ∈ scannedRows st s.owner d, row.Wellformed := fun row hrow ↦ by
    have hmem := List.mem_of_mem_take hrow
    rw [hst.gapless.logAfter_eq] at hmem
    exact hst.wellformed row (List.mem_of_mem_drop hmem)
  have hrows' : ∃ events st', scanRows req s epoch (d.after + 1) (scannedRows st s.owner d) st =
      .ok (.events events, st') ∧ _ :=
    scanRows_ok hinj hasks.references (hst.gapless.take_numbers d.after d.limit) hwell hst.refs
  obtain ⟨events, st', hscan, hdraws, hrenders⟩ := hrows'
  have hmore : decide (d.limit < (eventsAfter st s.owner d.after (d.limit + 1)).length) =
      decide (d.limit < (logAfter st.syncEvents s.owner d.after).length) := by
    rw [hrows, List.length_take, decide_eq_decide]
    omega
  refine ⟨{ events := events, nextEpoch := epoch, nextSeq := _, hasMore := _, lanes := lanes }, st',
    ?_, hdraws, hrenders, rfl, hst.gapless.last_number, hmore⟩
  unfold syncDeltaV2
  rw [hasks.subject, ok_bind]
  dsimp only
  rw [hasks.request, ok_bind, hbinding, orRaise_some, ok_bind, hlanes, ok_bind]
  unfold deltaPage
  dsimp only
  rw [if_neg (not_not.mpr (hasks.sameEpoch.trans hepoch.symm)), decide_eq_true hasks.cursor,
    require_true, ok_bind, hscanned, hepoch]
  rw [show scanRows req s epoch (d.after + 1) (scannedRows st s.owner d) st = _ from hscan, ok_bind]
  rfl

/-- What was served is such a page. -/
theorem Asks.pageOf {page : DeltaPage} {st' : Store}
    (hasks : Asks reference st req params s epoch d)
    (hserved : syncDeltaV2 keys settings st req params = .ok (.page page, st'))
    (hinj : ∀ owner, Function.Injective (reference owner))
    (hst : Drainable reference st s.owner) :
    DrawsRefs reference st st' ∧ PageOf st req.outside s epoch d page := by
  have hanswer : ∃ page st', syncDeltaV2 keys settings st req params = .ok (.page page, st') ∧ _ :=
    syncDeltaV2_ok hinj hst hasks
  obtain ⟨page₁, st₁, hok, hboth⟩ := hanswer
  rw [hserved] at hok
  obtain ⟨hpage, rfl⟩ := Prod.mk.inj (Except.ok.inj hok)
  obtain rfl := DeltaAnswer.page.inj hpage
  exact hboth

/-- A scan that comes to an end has found its numbers in a row. -/
theorem scanRows_numbers {rows : List SyncEvent} {expected : ℕ} {events : List SyncV2Event}
    {st' : Store} (h : scanRows req s epoch expected rows st = .ok (.events events, st')) :
    rows.map SyncEvent.eventSeq = List.range' expected rows.length := by
  induction rows generalizing expected st st' events with
  | nil => rfl
  | cons row rest ih =>
    rw [scanRows] at h
    split at h
    · cases Except.ok.inj h
    · rename_i hseq
      obtain ⟨⟨event, st₁⟩, -, h⟩ := bind_eq_ok.mp h
      obtain ⟨visible, -, h⟩ := bind_eq_ok.mp h
      obtain ⟨⟨scan, st₂⟩, hscan, h⟩ := bind_eq_ok.mp h
      cases scan with
      | gap => cases pure_eq_ok.mp h
      | events events =>
        rw [List.map_cons, List.length_cons, List.range'_succ, ih hscan, not_not.mp hseq]

/-- **A page of a log with a gap is not served.** -/
theorem syncDeltaV2_numbers {page : DeltaPage} {st' : Store}
    (hsubject : syncV2Identity req params = .ok s)
    (hrequest : deltaRequest (syncBody params) = .ok d)
    (h : syncDeltaV2 keys settings st req params = .ok (.page page, st')) :
    (eventsAfter st s.owner d.after d.limit).map SyncEvent.eventSeq =
      List.range' (d.after + 1) (eventsAfter st s.owner d.after d.limit).length := by
  have hnever : ∀ {st clientInstanceId epoch highest e st'},
      recoveryAnswer keys settings st req s clientInstanceId epoch highest e ≠
        .ok (.page page, st') := by
    intro st clientInstanceId epoch highest e st' h
    unfold recoveryAnswer at h
    split at h
    · obtain ⟨r, -, h⟩ := bind_eq_ok.mp h
      cases pure_eq_ok.mp h
    · cases h
  unfold syncDeltaV2 at h
  rw [hsubject, ok_bind] at h
  dsimp only at h
  rw [hrequest, ok_bind] at h
  obtain ⟨binding, -, h⟩ := bind_eq_ok.mp h
  obtain ⟨lanes, -, h⟩ := bind_eq_ok.mp h
  unfold deltaPage at h
  dsimp only at h
  split at h
  · exact absurd h hnever
  · obtain ⟨_, -, h⟩ := bind_eq_ok.mp h
    obtain ⟨⟨scan, st₁⟩, hscan, h⟩ := bind_eq_ok.mp h
    cases scan with
    | gap => exact absurd h hnever
    | events events =>
      have hscanned : (eventsAfter st s.owner d.after (d.limit + 1)).take d.limit =
          eventsAfter st s.owner d.after d.limit := by
        rw [eventsAfter, List.take_take, min_eq_left (by omega), eventsAfter]
      rw [hscanned] at hscan
      exact scanRows_numbers hscan

end Page

/-! ### Page after page -/

/-- A page as it was served, in the store of that moment. -/
structure ServedPage where
  store : Store
  outside : Outside
  request : DeltaRequest
  page : DeltaPage

/-- The rows it was cut from. -/
def ServedPage.scanned (v : ServedPage) (owner : String) : List SyncEvent :=
  scannedRows v.store owner v.request

/-- **Between two pages** rows are appended to the log, and anything else may change. -/
structure Later (reference : String → String → String) (owner : String) (st later : Store) :
    Prop where
  log : SyncLogGrows SyncEvent.Wellformed st.syncEvents later.syncEvents
  refs : RefsDerived reference later.directConversationRefs
  small : (ownLog later.syncEvents owner).length < 2 ^ 63

/-- **A drain**: pages asked for after each other's `next_cursor`, until one has no more. -/
inductive Drains (keys : SnapshotKeys) (settings : Settings) (reference : String → String → String)
    (s : SyncSubject) (epoch : String) : Store → ℕ → List ServedPage → Store → Prop where
  | last {st st' : Store} {req : DeviceRequest} {params : Obj} {d : DeltaRequest} {page : DeltaPage}
      (hasks : Asks reference st req params s epoch d)
      (hserved : syncDeltaV2 keys settings st req params = .ok (.page page, st'))
      (hlast : page.hasMore = false) :
      Drains keys settings reference s epoch st d.after [⟨st, req.outside, d, page⟩] st
  | more {st st' later final : Store} {req : DeviceRequest} {params : Obj} {d : DeltaRequest}
      {page : DeltaPage} {rest : List ServedPage} (hasks : Asks reference st req params s epoch d)
      (hserved : syncDeltaV2 keys settings st req params = .ok (.page page, st'))
      (hmore : page.hasMore = true) (hlater : Later reference s.owner st' later)
      (hrest : Drains keys settings reference s epoch later page.nextSeq rest final) :
      Drains keys settings reference s epoch st d.after (⟨st, req.outside, d, page⟩ :: rest) final

section Drain

variable {keys : SnapshotKeys} {settings : Settings} {reference : String → String → String}
  {st st' later final : Store} {s : SyncSubject} {epoch : String} {after : ℕ}
  {served : List ServedPage}

/-- A log that grows goes on to be drainable. -/
theorem Later.drainable (h : Later reference s.owner st later)
    (hst : Drainable reference st s.owner) : Drainable reference later s.owner := by
  refine ⟨h.log.gaplessFor hst.gapless, fun e he ↦ ?_, h.refs, h.small⟩
  obtain ⟨rows, hrows, hwell⟩ := h.log.exists_append
  rw [hrows, ownLog_append] at he
  rcases List.mem_append.mp he with he | he
  · exact hst.wellformed e he
  · exact hwell e (List.mem_filter.mp he).1

/-- **What a drain comes to**, in the store of its last page. -/
structure DrainedTo (reference : String → String → String) (s : SyncSubject) (epoch : String)
    (st : Store) (after : ℕ) (served : List ServedPage) (final : Store) : Prop where
  drainable : Drainable reference final s.owner
  grown : ∃ rows, ownLog final.syncEvents s.owner = ownLog st.syncEvents s.owner ++ rows
  scanned : (served.flatMap fun v ↦ v.scanned s.owner) = logAfter final.syncEvents s.owner after
  pages : ∀ v ∈ served, PageOf v.store v.outside s epoch v.request v.page
  length : served.length ≤ (logAfter final.syncEvents s.owner after).length + 1

/-- What is scanned before more follows is the head of the log after the cursor, now and later. -/
theorem logAfter_eq_scanned_append {d : DeltaRequest} {rows : List SyncEvent}
    (hst : GaplessFor st.syncEvents s.owner) (hfinal : GaplessFor final.syncEvents s.owner)
    (hgrown : ownLog final.syncEvents s.owner = ownLog st.syncEvents s.owner ++ rows)
    (hmore : d.limit < (logAfter st.syncEvents s.owner d.after).length) :
    logAfter final.syncEvents s.owner d.after = scannedRows st s.owner d ++
      logAfter final.syncEvents s.owner (d.after + (scannedRows st s.owner d).length) := by
  have hlength : (scannedRows st s.owner d).length = d.limit := by
    rw [scannedRows, List.length_take, min_eq_left hmore.le]
  rw [hst.length_logAfter] at hmore
  rw [hlength, hfinal.logAfter_eq, hfinal.logAfter_eq, ← List.drop_drop, scannedRows,
    hst.logAfter_eq, hgrown, List.drop_append_of_le_length (by omega)]
  conv_lhs =>
    rw [← List.take_append_drop d.limit ((ownLog st.syncEvents s.owner).drop d.after ++ rows)]
  rw [List.take_append_of_le_length (by rw [List.length_drop]; omega)]

/-- **A drain comes to the end of the log**, by induction on its pages. -/
theorem Drains.drainedTo (hinj : ∀ owner, Function.Injective (reference owner))
    (h : Drains keys settings reference s epoch st after served final)
    (hst : Drainable reference st s.owner) : DrainedTo reference s epoch st after served final := by
  induction h with
  | last hasks hserved hlast =>
    obtain ⟨-, hpage⟩ := hasks.pageOf hserved hinj hst
    have hall := of_decide_eq_false (hpage.hasMore.symm.trans hlast)
    refine ⟨hst, ⟨[], by simp⟩, ?_, fun v hv ↦ ?_, by simp⟩
    · rw [List.flatMap_singleton]
      exact List.take_of_length_le (not_lt.mp hall)
    · rw [List.mem_singleton.mp hv]
      exact hpage
  | more hasks hserved hmore hlater hrest ih =>
    rename_i st₀ st₁ later final req params d page rest
    obtain ⟨⟨drawn, hdrawn, rfl⟩, hpage⟩ := hasks.pageOf hserved hinj hst
    have hst' : Drainable reference { st₀ with directConversationRefs := drawn } s.owner :=
      ⟨hst.gapless, hst.wellformed, hdrawn, hst.small⟩
    have hrest := ih (hlater.drainable hst')
    obtain ⟨rows, hrows⟩ := hrest.grown
    obtain ⟨appended, happended, -⟩ := hlater.log.exists_append
    have hgrown : ownLog final.syncEvents s.owner = ownLog st₀.syncEvents s.owner ++
        (ownLog appended s.owner ++ rows) := by
      rw [hrows, happended, ownLog_append, List.append_assoc]
    -- More is to come, so the page is full: the log splits into what it scanned and the rest.
    have hmany := of_decide_eq_true (hpage.hasMore.symm.trans hmore)
    have hsplit := logAfter_eq_scanned_append hst.gapless hrest.drainable.gapless hgrown hmany
    have hsome : 1 ≤ (scannedRows st₀ s.owner d).length := by
      have hlimit := (deltaRequest_eq_ok hasks.request).1
      rw [scannedRows, List.length_take]
      omega
    refine ⟨hrest.drainable, ⟨_, hgrown⟩, ?_, fun v hv ↦ ?_, ?_⟩
    · rw [List.flatMap_cons, hrest.scanned, hpage.nextSeq, hsplit]
      rfl
    · rcases List.mem_cons.mp hv with rfl | hv
      · exact hpage
      · exact hrest.pages v hv
    · have hlength := hrest.length
      rw [hpage.nextSeq] at hlength
      rw [hsplit, List.length_cons, List.length_append]
      omega

end Drain

/-- **Draining `sync.delta` is complete.** For a bound client and a log without gaps:

* every page is served, its `next_cursor` is a valid one, and it has moved on if rows were scanned;
* the pages of a drain, whatever is appended between them, are cut from the log after the first
  cursor, each row once and in the order of its number; they show all of it but messages of groups
  the owner is not a member of when the page is served; and there are no more pages than rows, or
  one;
* with any log, a page whose numbers are not consecutive is not served. -/
theorem delta_drain_complete {keys : SnapshotKeys} {settings : Settings}
    {reference : String → String → String} {s : SyncSubject} {epoch : String}
    (hinj : ∀ owner, Function.Injective (reference owner)) :
    (∀ {st : Store} {req : DeviceRequest} {params : Obj} {d : DeltaRequest},
      Drainable reference st s.owner → Asks reference st req params s epoch d →
      ∃ page st', syncDeltaV2 keys settings st req params = .ok (.page page, st') ∧
        Drainable reference st' s.owner ∧ PageOf st req.outside s epoch d page ∧
        (scannedRows st s.owner d ≠ [] → d.after < page.nextSeq) ∧
        page.nextSeq ≤ highestSeq st' s.owner ∧
        ∀ (limit : ℕ) (reason : String), 1 ≤ limit ∧ limit ≤ 500 → reason ∈ DELTA_REASONS →
          deltaRequest [("cursor", .obj page.nextCursor), ("limit", .int limit),
            ("reason", .str reason)] = .ok ⟨epoch, page.nextSeq, limit⟩) ∧
    (∀ {st final : Store} {after : ℕ} {served : List ServedPage},
      Drainable reference st s.owner →
      Drains keys settings reference s epoch st after served final →
      (served.flatMap fun v ↦ v.scanned s.owner) = logAfter final.syncEvents s.owner after ∧
        (logAfter final.syncEvents s.owner after).map SyncEvent.eventSeq =
          List.range' (after + 1) (highestSeq final s.owner - after) ∧
        (∀ v ∈ served, List.Forall₂ (Renders v.outside s epoch) v.page.events
          ((v.scanned s.owner).filter fun row ↦ row.isShown v.outside v.store s.owner)) ∧
        served.length ≤ (logAfter final.syncEvents s.owner after).length + 1) ∧
    ∀ {st : Store} {req : DeviceRequest} {params : Obj} {d : DeltaRequest},
      syncV2Identity req params = .ok s → deltaRequest (syncBody params) = .ok d →
      (eventsAfter st s.owner d.after d.limit).map SyncEvent.eventSeq ≠
        List.range' (d.after + 1) (eventsAfter st s.owner d.after d.limit).length →
      ∀ page st', syncDeltaV2 keys settings st req params ≠ .ok (.page page, st') := by
  refine ⟨fun {st req params d} hst hasks ↦ ?_, fun {st final after served} hst hdrains ↦ ?_,
    fun hsubject hrequest hgap page st' h ↦ hgap (syncDeltaV2_numbers hsubject hrequest h)⟩
  · have hanswer : ∃ page st', syncDeltaV2 keys settings st req params =
      .ok (.page page, st') ∧ _ :=
      syncDeltaV2_ok hinj hst hasks
    obtain ⟨page, st', hok, ⟨drawn, hdrawn, rfl⟩, hpage⟩ := hanswer
    have hbound : page.nextSeq ≤ (ownLog st.syncEvents s.owner).length := by
      have hcursor := hasks.cursor
      rw [hst.gapless.highestSeq_eq] at hcursor
      rw [hpage.nextSeq, scannedRows, List.length_take, hst.gapless.length_logAfter]
      omega
    -- The next cursor is no greater than the log is long, so it can be written and read back.
    have hsmall : page.nextSeq < 10 ^ 20 :=
      lt_of_le_of_lt hbound (lt_trans hst.small (by norm_num))
    obtain ⟨n, hepoch⟩ := (deltaRequest_eq_ok hasks.request).2
    have hnext : page.nextEpoch = d.epoch := hpage.nextEpoch.trans hasks.sameEpoch.symm
    have hst' : Drainable reference { st with directConversationRefs := drawn } s.owner :=
      ⟨hst.gapless, hst.wellformed, hdrawn, hst.small⟩
    refine ⟨page, _, hok, hst', hpage, fun hscanned ↦ ?_, ?_, fun limit reason hlimit hreason ↦ ?_⟩
    · rw [hpage.nextSeq]
      have hpos := List.length_pos_of_ne_nil hscanned
      omega
    · exact hbound.trans hst.gapless.highestSeq_eq.symm.le
    · rw [deltaRequest_nextCursor (hnext ▸ hepoch) hsmall hlimit hreason, hpage.nextEpoch]
  · have hdrained := hdrains.drainedTo hinj hst
    have hgapless := hdrained.drainable.gapless
    refine ⟨hdrained.scanned, ?_, fun v hv ↦ (hdrained.pages v hv).events, hdrained.length⟩
    have hall := hgapless.take_numbers after (logAfter final.syncEvents s.owner after).length
    rw [List.take_length, hgapless.length_logAfter] at hall
    rw [hall, hgapless.highestSeq_eq]

/-! ### Two pages -/

/-- Alice has written to Carol twice, and her device is bound. -/
def twoMessages : Store :=
  match (sampleDirect "m1" >>= fun _ ↦ sampleDirect "m2").run sampleSenders with
  | .ok (_, st) =>
    { st with syncV2Bindings := [⟨alice, "account-1", "device-1", "client-1", 1⟩] }
  | .error _ => sampleSenders

/-- Her device asks for one row after a number. -/
def askOne (after : String) : Obj :=
  [("cursor", .obj [("stream_epoch", .str "1"), ("scan_seq", .str after)]), ("limit", .int 1),
    ("reason", .str "app_resume")]

/-- This hash has no collisions. -/
theorem conversationRef_honest_injective (owner : String) :
    Function.Injective (Outside.honest.conversationRef owner) := fun a b h ↦ by
  have hlist := congrArg String.toList h
  simpa [Outside.honest, String.toList_inj] using hlist

/-- Her log can be drained. -/
theorem drainable_twoMessages :
    Drainable Outside.honest.conversationRef twoMessages aliceSubject.owner := by
  have htype :
      twoMessages.syncEvents.all fun e ↦ decide (e.eventType = "direct.message.created") := by
    decide +kernel
  have hrefs : twoMessages.directConversationRefs.length = 0 := by decide +kernel
  refine ⟨by decide +kernel, fun e he ↦ .inl ?_, ?_, by decide +kernel⟩
  · have heq : e.eventType = "direct.message.created" := by
      simpa using List.all_eq_true.mp htype e (List.mem_filter.mp he).1
    exact .plain (heq ▸ by decide)
  · rw [List.length_eq_zero_iff.mp hrefs]
    intro r hr
    cases hr

/-- And her device may ask. -/
theorem asks_twoMessages (refs : List ConversationRef) {after : String} {d : DeltaRequest}
    (hrequest : deltaRequest (askOne after) = .ok d) (hepoch : d.epoch = "1")
    (hcursor : d.after ≤ 2) :
    Asks Outside.honest.conversationRef
      { twoMessages with directConversationRefs := refs } aliceDevice
      (askOne after) aliceSubject "1" d where
  subject := rfl
  request := hrequest
  sameEpoch := hepoch
  cursor := hcursor.trans (show 2 ≤ highestSeq twoMessages alice by decide +kernel)
  bound := ⟨⟨alice, "account-1", "device-1", "client-1", 1⟩, [], rfl, rfl, rfl⟩
  references := rfl

/-- One row a page: two pages, the second one the last. -/
theorem delta_drain_complete_two_pages :
    ∃ served final, Drains ⟨fun _ ↦ "ref", fun _ ↦ "hash"⟩ .sample Outside.honest.conversationRef
        aliceSubject "1" twoMessages 0 served final ∧ served.length = 2 ∧
      (served.flatMap fun v ↦ v.scanned alice).map SyncEvent.eventSeq = [1, 2] := by
  have hinj := conversationRef_honest_injective
  have hst := drainable_twoMessages
  have hfirst := @asks_twoMessages twoMessages.directConversationRefs "0" ⟨"1", 0, 1⟩ rfl rfl
    (by decide)
  have hcomplete :=
    @delta_drain_complete ⟨fun _ ↦ "ref", fun _ ↦ "hash"⟩ .sample _ aliceSubject "1" hinj
  obtain ⟨page, st', hserved, -, -, -, -, -⟩ := hcomplete.1 hst hfirst
  obtain ⟨⟨drawn, hdrawn, rfl⟩, hpage⟩ := hfirst.pageOf hserved hinj hst
  have hst' : Drainable Outside.honest.conversationRef
      { twoMessages with directConversationRefs := drawn } aliceSubject.owner :=
    ⟨hst.gapless, hst.wellformed, hdrawn, hst.small⟩
  have hsecond := @asks_twoMessages drawn "1" ⟨"1", 1, 1⟩ rfl rfl (by decide)
  obtain ⟨page', st'', hserved', -, hpage', -, -, -⟩ := hcomplete.1 hst' hsecond
  have hlength : (scannedRows twoMessages alice ⟨"1", 0, 1⟩).length = 1 := by decide +kernel
  have hnext : page.nextSeq = 1 := by
    rw [hpage.nextSeq]
    exact congrArg (0 + ·) hlength
  have hmore : page.hasMore = true := by
    rw [hpage.hasMore]
    exact (show decide (1 < (logAfter twoMessages.syncEvents alice 0).length) = true by
      decide +kernel)
  have hlast : page'.hasMore = false := by
    rw [hpage'.hasMore]
    exact (show decide (1 < (logAfter twoMessages.syncEvents alice 1).length) = false by
      decide +kernel)
  have hrest := Drains.last hsecond hserved' hlast
  have hdrains := Drains.more hfirst hserved hmore ⟨.refl, hdrawn, hst.small⟩ (hnext ▸ hrest)
  refine ⟨_, _, hdrains, rfl, ?_⟩
  have hall := (hcomplete.2.1 hst hdrains).1
  refine (congrArg (List.map SyncEvent.eventSeq) hall).trans ?_
  exact (show (logAfter twoMessages.syncEvents alice 0).map SyncEvent.eventSeq = [1, 2] by
    decide +kernel)

end Awiki
