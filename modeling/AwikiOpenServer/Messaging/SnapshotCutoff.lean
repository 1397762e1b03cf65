import AwikiOpenServer.Shared.Ids
import AwikiOpenServer.Messaging.DeltaDrain
import AwikiOpenServer.Messaging.SnapshotSessions

/-!
# The cutoff of a snapshot

A snapshot offers the messages of the last 48 hours. Both the creation of an event and the cutoff
are texts, and `_recent_plain_message_items` compares them as texts; but `now_iso` writes the one
with a fraction and the offset `+00:00`, and `iso_hours_ago` the other in whole seconds with a `Z`.

Texts of different seconds compare as the seconds do. Within a second the `.` or the `+` of the
event is before the `Z` of the cutoff: every event **of the second of the cutoff** is dropped,
although none of them is earlier than the cutoff (`snapshot_keeps_from_cutoff_iff`).

## What is said

The theorem compares the items that are offered with those that would be if times were compared as
times. It does so without a second loop: `Offers` says what the loop makes of a row when there is no
cutoff, and both lists are the offers of some rows, those whose text is not before the cutoff's and
those whose time is not before the cutoff. The two are the same list exactly when no hydratable row
is of the cutoff's second; a row whose message is not found would not be offered either way.

## References

Rendering a message draws the reference of its conversation, so the loop changes the store as it
goes, and a row that is dropped draws nothing. What a row is offered as must not depend on this.
`AgreeUpToRefs` compares two computations that start with different references drawn:
`recentPlainMessage_agree` is that they come to the same result, because a reference is derived from
its conversation whenever it is drawn (`RefsDerived`).

## Times

`nowIso` and `isoHoursAgo` write the texts as the standard library does, with a fraction only where
there is one. How their texts compare is a fact about digits (`nowIso_lt_cutoff_iff`), from
`Lib/Iso8601.lean`: years have four digits, and all other fields are of fixed width.
-/

namespace Awiki

open Py Iso8601

/-! ### Writing times -/

/-- The time of a text, whether the offset is written `Z` or `+00:00`. -/
def instant? (text : String) : Option DateTime :=
  DateTime.fromIsoformat (replace ['Z'] DateTime.utcOffset text.toList)

/-- `iso_hours_ago(hours, now=…)`. -/
def isoHoursAgo (hours : ℕ) (now : String) : Result String := do
  let current ← orRaise (.value "Invalid isoformat string") (instant? now)
  let past ← orRaise (.value "date value out of range") (current.minusHours hours)
  return String.ofList (replace DateTime.utcOffset ['Z'] past.wholeSecond.isoformat)

/-- What is written is read back. -/
theorem instant?_nowIso (t : DateTime) : instant? (nowIso t) = some t := by
  rw [instant?, nowIso, String.toList_ofList, DateTime.replace_zulu_isoformat,
    DateTime.fromIsoformat_isoformat]

/-- **A cutoff is the text of a whole second**, with a `Z`. -/
theorem isoHoursAgo_eq_ok {hours : ℕ} {now cutoff : String}
    (h : isoHoursAgo hours now = .ok cutoff) : ∃ t, t.microsecond = 0 ∧ instant? cutoff = some t ∧
      cutoff.toList = fields DateTime.spec t.seconds ++ ['Z'] := by
  obtain ⟨current, -, h⟩ := bind_eq_ok.mp h
  obtain ⟨past, -, h⟩ := bind_eq_ok.mp h
  obtain rfl := pure_eq_ok.mp h
  refine ⟨past.wholeSecond, rfl, ?_, ?_⟩
  · rw [instant?, String.toList_ofList, DateTime.replace_offset, DateTime.replace_zulu,
      DateTime.fromIsoformat_isoformat]
  · rw [String.toList_ofList, DateTime.replace_offset]
    rfl

/-- **What the comparison of texts comes to.** -/
theorem nowIso_lt_cutoff_iff {hours : ℕ} {now cutoff : String} {created t : DateTime}
    (h : isoHoursAgo hours now = .ok cutoff) (ht : instant? cutoff = some t) :
    nowIso created < cutoff ↔ created < t ∨ created.seconds = t.seconds := by
  obtain ⟨t', hwhole, ht', htext⟩ := isoHoursAgo_eq_ok h
  obtain rfl := Option.some.inj (ht.symm.trans ht')
  have hlt : created < t ↔ created.seconds < t.seconds := by
    rw [DateTime.lt_iff, hwhole]
    simp
  rw [String.lt_iff, nowIso, String.toList_ofList, htext, DateTime.isoformat_lt_zulu_iff,
    hlt]

/-! ### References do not matter -/

/-- Two computations that started with different references: the same error, or the same value in
stores that differ in references only. -/
inductive AgreeUpToRefs {α : Type} (reference : String → String → String) :
    Result (α × Store) → Result (α × Store) → Prop where
  | error (e : AwikiError) : AgreeUpToRefs reference (.error e) (.error e)
  | ok {a : α} {st : Store} {rows rows' : List ConversationRef} (hrows : RefsDerived reference rows)
      (hrows' : RefsDerived reference rows') :
      AgreeUpToRefs reference (.ok (a, { st with directConversationRefs := rows }))
        (.ok (a, { st with directConversationRefs := rows' }))

section Refs

variable {reference : String → String → String} {req : DeviceRequest} {st : Store}
  {rows rows' : List ConversationRef} {owner : String}

/-- One after the other. -/
theorem AgreeUpToRefs.bind {α β : Type} {x y : Result (α × Store)}
    {f g : α × Store → Result (β × Store)} (h : AgreeUpToRefs reference x y)
    (hfg : ∀ {a : α} {st : Store} {rows rows' : List ConversationRef}, RefsDerived reference rows →
      RefsDerived reference rows' → AgreeUpToRefs reference
        (f (a, { st with directConversationRefs := rows }))
        (g (a, { st with directConversationRefs := rows' }))) :
    AgreeUpToRefs reference (x >>= f) (y >>= g) := by
  cases h with
  | error e => exact .error e
  | ok hrows hrows' => exact hfg hrows hrows'

variable (hinj : ∀ owner, Function.Injective (reference owner))
  (houtside : req.outside.conversationRef = reference) (hrows : RefsDerived reference rows)
  (hrows' : RefsDerived reference rows')

include hrows hrows'

/-- A result that does not depend on the store. -/
theorem agreeUpToRefs_map {α β : Type} (x : Result α) (f : α → β) :
    AgreeUpToRefs reference (x.map fun a ↦ (f a, { st with directConversationRefs := rows }))
      (x.map fun a ↦ (f a, { st with directConversationRefs := rows' })) := by
  cases x with
  | error e => exact .error e
  | ok a => exact .ok hrows hrows'

include hinj houtside

/-- The reference of a conversation is the derived one, whatever was drawn before. -/
theorem conversationRef_agree (peer : String) :
    AgreeUpToRefs reference
      (conversationRef req.outside { st with directConversationRefs := rows } owner peer)
      (conversationRef req.outside { st with directConversationRefs := rows' } owner peer) := by
  have hdrawn : ∀ {refs : List ConversationRef}, RefsDerived reference refs →
      ∃ drawn, RefsDerived reference drawn ∧
        conversationRef req.outside { st with directConversationRefs := refs } owner peer =
          .ok (reference owner peer, { st with directConversationRefs := drawn }) := by
    intro refs hrefs
    have hstore : RefsDerived reference
      ({ st with directConversationRefs := refs } : Store).directConversationRefs := hrefs
    obtain ⟨key, st', hok, drawn, hderived, rfl⟩ :=
      conversationRef_ok hinj houtside hstore owner peer
    obtain ⟨found, href, hst'⟩ := conversationRef_eq_ok hok
    obtain rfl : drawn = found := congrArg Store.directConversationRefs hst'
    have hkey := hderived _ (Table.mem_of_row? href.drawn)
    refine ⟨drawn, hderived, ?_⟩
    rw [hok, ← hkey]
  obtain ⟨drawn, hderived, hok⟩ := hdrawn hrows
  obtain ⟨drawn', hderived', hok'⟩ := hdrawn hrows'
  rw [hok, hok']
  exact .ok hderived hderived'

/-- The event of a row. -/
theorem syncV2Event_agree (row : SyncEvent) (accountId epoch : String) :
    AgreeUpToRefs reference
      (syncV2Event req.outside { st with directConversationRefs := rows } row owner accountId epoch)
      (syncV2Event req.outside { st with directConversationRefs := rows' } row owner accountId
        epoch) := by
  unfold syncV2Event
  refine AgreeUpToRefs.bind ?_ fun hrows hrows' ↦ .ok hrows hrows'
  unfold syncV2Branch
  split
  · unfold messageBranch
    dsimp only
    split
    · exact .ok hrows hrows'
    · exact (conversationRef_agree hinj houtside hrows hrows' _).bind
        fun hrows hrows' ↦ .ok hrows hrows'
  · split
    · exact agreeUpToRefs_map hrows hrows' (readStateBranch row) id
    · split
      · exact agreeUpToRefs_map hrows hrows' (groupBranch req.outside st row owner) id
      · exact .ok hrows hrows'

/-- The message of an event. -/
theorem hydratedSyncV2Message_agree (messageId : String) (groupDid : Option Json) :
    AgreeUpToRefs reference
      (hydratedSyncV2Message req
        { st with directConversationRefs := rows } owner messageId groupDid)
      (hydratedSyncV2Message req { st with directConversationRefs := rows' } owner messageId
        groupDid) := by
  unfold hydratedSyncV2Message
  cases groupDid with
  | none =>
    dsimp only
    split
    · refine AgreeUpToRefs.bind ?_ fun hrows hrows' ↦ .ok hrows hrows'
      unfold directSyncMessage
      exact (conversationRef_agree hinj houtside hrows hrows' _).bind
        fun hrows hrows' ↦ .ok hrows hrows'
    · exact .ok hrows hrows'
  | some groupDid =>
    dsimp only
    split
    · cases bindTextNotNull req.outside.reprFloat groupDid with
      | error e => exact .error e
      | ok text =>
        rw [ok_bind, ok_bind]
        have hsource : groupSource { st with directConversationRefs := rows } owner text =
          groupSource { st with directConversationRefs := rows' } owner text := rfl
        rw [hsource]
        split
        · exact .ok hrows hrows'
        · exact .ok hrows hrows'
    · exact .ok hrows hrows'

/-- **What a row is offered as does not depend on the references drawn before it.** -/
theorem recentPlainMessage_agree (s : SyncSubject) (epoch cutoff : String) (row : SyncEvent) :
    AgreeUpToRefs reference
      (recentPlainMessage req { st with directConversationRefs := rows } s epoch cutoff row)
      (recentPlainMessage req { st with directConversationRefs := rows' } s epoch cutoff row) := by
  unfold recentPlainMessage
  refine (syncV2Event_agree hinj houtside hrows hrows' row s.accountId epoch).bind
    fun hrows hrows' ↦ ?_
  dsimp only
  split
  · exact .ok hrows hrows'
  · exact (hydratedSyncV2Message_agree hinj houtside hrows hrows' _ _).bind
      fun hrows hrows' ↦ .ok hrows hrows'

end Refs

/-! ### What is offered -/

/-- What the loop offers a row as, were there no cutoff: no text is before the empty one. -/
def Offers (req : DeviceRequest) (s : SyncSubject) (epoch : String) (item : Obj) (row : SyncEvent) :
    Prop :=
  ∃ st st', recentPlainMessage req st s epoch "" row = .ok (some item, st')

/-- The row is a `message.created` event whose message is found. -/
def isHydratable (req : DeviceRequest) (st : Store) (s : SyncSubject) (epoch : String)
    (row : SyncEvent) : Bool :=
  match recentPlainMessage req st s epoch "" row with
  | .ok (item, _) => item.isSome
  | .error _ => false

section Loop

variable {reference : String → String → String} {req : DeviceRequest} {st st' : Store}
  {s : SyncSubject} {epoch cutoff : String} {row : SyncEvent}

/-- A row that is not before the cutoff is treated as if there were none. -/
theorem recentPlainMessage_of_not_lt (h : ¬ row.createdAt < cutoff) :
    recentPlainMessage req st s epoch cutoff row = recentPlainMessage req st s epoch "" row := by
  unfold recentPlainMessage syncV2Event
  cases syncV2Branch req.outside st row s.owner with
  | error e => rfl
  | ok p =>
    have hempty : ¬ row.createdAt < "" := fun hlt ↦ by
      rw [String.lt_iff] at hlt
      exact List.not_lt_nil _ hlt
    simp only [ok_bind, pure, Except.pure, decide_eq_false h, decide_eq_false hempty]

/-- A row before the cutoff is not offered. -/
theorem recentPlainMessage_of_lt {item : Option Obj} (h : row.createdAt < cutoff)
    (hok : recentPlainMessage req st s epoch cutoff row = .ok (item, st')) : item = none := by
  unfold recentPlainMessage syncV2Event at hok
  obtain ⟨⟨event, st₁⟩, hevent, hok⟩ := bind_eq_ok.mp hok
  obtain ⟨⟨branch, st₂⟩, -, hevent⟩ := bind_eq_ok.mp hevent
  obtain ⟨rfl, rfl⟩ := Prod.mk.inj (pure_eq_ok.mp hevent)
  dsimp only at hok
  rw [decide_eq_true h, Bool.or_true, Bool.true_or, if_pos rfl] at hok
  exact (Prod.mk.inj (pure_eq_ok.mp hok)).1.symm

variable (hinj : ∀ owner, Function.Injective (reference owner))
  (houtside : req.outside.conversationRef = reference)
  (hrefs : RefsDerived reference st.directConversationRefs)

include hinj houtside hrefs

omit hrefs in
/-- Whatever a row is offered as, only references are drawn. -/
theorem drawsRefs_of_recentPlainMessage {refs : List ConversationRef} {item : Option Obj}
    (hderived : RefsDerived reference refs)
    (h : recentPlainMessage req { st with directConversationRefs := refs } s epoch cutoff row =
      .ok (item, st')) :
    ∃ refs', RefsDerived reference refs' ∧ st' = { st with directConversationRefs := refs' } := by
  have hagree : AgreeUpToRefs reference
      (recentPlainMessage req { st with directConversationRefs := refs } s epoch cutoff row)
      (recentPlainMessage req { st with directConversationRefs := refs } s epoch cutoff row) :=
    recentPlainMessage_agree hinj houtside hderived hderived s epoch cutoff row
  obtain ⟨refs', rfl⟩ := (Draws.recentPlainMessage h).onlyRefs
  rw [h] at hagree
  generalize hx : (Except.ok (item, _) : Result (Option Obj × Store)) = x at hagree
  cases hagree with
  | error e => cases hx
  | ok hrows hrows' =>
    have hrefs' := congrArg Store.directConversationRefs (Prod.mk.inj (Except.ok.inj hx)).2
    dsimp only at hrefs'
    exact ⟨refs', hrefs' ▸ hrows, rfl⟩

/-- Whether a row is hydratable is seen in the store the loop started with. -/
theorem isHydratable_eq {rows : List ConversationRef} {item : Option Obj}
    (hrows : RefsDerived reference rows)
    (h : recentPlainMessage req { st with directConversationRefs := rows } s epoch "" row =
      .ok (item, st')) :
    isHydratable req st s epoch row = item.isSome ∧
      ∃ rows', RefsDerived reference rows' ∧ st' = { st with directConversationRefs := rows' } := by
  have hagree : AgreeUpToRefs reference
      (recentPlainMessage req { st with directConversationRefs := rows } s epoch "" row)
      (recentPlainMessage req
        { st with directConversationRefs := st.directConversationRefs } s epoch
        "" row) :=
    recentPlainMessage_agree hinj houtside hrows hrefs s epoch "" row
  have hstore : OnlyRefs { st with directConversationRefs := rows } st' :=
    (Draws.recentPlainMessage h).onlyRefs
  rw [h] at hagree
  unfold isHydratable
  generalize hbase : recentPlainMessage req
    { st with directConversationRefs := st.directConversationRefs } s epoch "" row = base at hagree
  cases hagree with
  | @ok a st₁ rows₁ rows₂ hrows₁ hrows₂ =>
    obtain ⟨rows₃, hst₃⟩ := hstore
    refine ⟨rfl, rows₁, hrows₁, ?_⟩
    have hrefs₃ := congrArg Store.directConversationRefs hst₃
    dsimp only at hrefs₃
    rw [hst₃, ← hrefs₃]

/-- **The loop offers the hydratable rows that are not before the cutoff as texts.** -/
theorem recentPlainMessages_eq_ok {rows : List SyncEvent} {refs : List ConversationRef}
    {items : List Obj} (hderived : RefsDerived reference refs)
    (h : recentPlainMessages req s epoch cutoff rows { st with directConversationRefs := refs } =
      .ok (items, st')) :
    List.Forall₂ (Offers req s epoch) items (rows.filter fun row ↦
      isHydratable req st s epoch row && !decide (row.createdAt < cutoff)) := by
  induction rows generalizing refs items with
  | nil =>
    obtain ⟨rfl, -⟩ := Prod.mk.inj (Except.ok.inj h)
    exact .nil
  | cons row rest ih =>
    obtain ⟨⟨item, st₁⟩, hitem, h⟩ := bind_eq_ok.mp h
    obtain ⟨⟨more, st₂⟩, hmore, h⟩ := bind_eq_ok.mp h
    obtain ⟨rfl, rfl⟩ := Prod.mk.inj (pure_eq_ok.mp h)
    by_cases hlate : row.createdAt < cutoff
    · obtain rfl := recentPlainMessage_of_lt hlate hitem
      rw [List.filter_cons_of_neg (by simp [hlate])]
      -- Its references are drawn all the same.
      obtain ⟨refs', hderived', rfl⟩ := drawsRefs_of_recentPlainMessage hinj houtside hderived hitem
      exact ih hderived' hmore
    · rw [recentPlainMessage_of_not_lt hlate] at hitem
      obtain ⟨hhydratable, refs', hderived', rfl⟩ :=
        isHydratable_eq hinj houtside hrefs hderived hitem
      have hrest := ih hderived' hmore
      cases item with
      | none =>
        rw [List.filter_cons_of_neg (by simp [hhydratable])]
        exact hrest
      | some item =>
        rw [List.filter_cons_of_pos (by simp [hhydratable, hlate])]
        exact .cons ⟨_, _, hitem⟩ hrest

end Loop

/-! ### The order of texts is not that of times -/

/-- Two selections from one list that are offered the same are the same, when one implies the
other. -/
theorem filter_eq_of_forall₂ {α β : Type} {R : α → β → Prop} {as : List α} {bs : List β}
    {p q : β → Bool} (hp : List.Forall₂ R as (bs.filter p)) (hq : List.Forall₂ R as (bs.filter q))
    (himp : ∀ b ∈ bs, q b = true → p b = true) : ∀ b ∈ bs, p b = true → q b = true := by
  have hsublist : (bs.filter q).Sublist (bs.filter p) := by
    have hsplit : bs.filter q = (bs.filter p).filter q := by
      rw [List.filter_filter]
      refine List.filter_congr fun b hb ↦ ?_
      cases hqb : q b with
      | false => rfl
      | true => rw [himp b hb hqb]; rfl
    rw [hsplit]
    exact List.filter_sublist
  have hsame := hsublist.eq_of_length (hq.length_eq.symm.trans hp.length_eq)
  intro b hb hpb
  have hmem : b ∈ bs.filter q := hsame ▸ List.mem_filter.mpr ⟨hb, hpb⟩
  exact (List.mem_filter.mp hmem).2

/-- **A snapshot keeps every message from its cutoff on exactly when none is of the second of the
cutoff.** -/
theorem snapshot_keeps_from_cutoff_iff {reference : String → String → String} {req : DeviceRequest}
    {st st' : Store} {s : SyncSubject} {epoch cutoff : String} {highest : ℕ} {items : List Obj}
    {frozen instant : DateTime} {created : SyncEvent → DateTime}
    (hinj : ∀ owner, Function.Injective (reference owner))
    (houtside : req.outside.conversationRef = reference)
    (hrefs : RefsDerived reference st.directConversationRefs)
    (hcutoff : isoHoursAgo MESSAGE_CUTOFF_HOURS (nowIso frozen) = .ok cutoff)
    (hinstant : instant? cutoff = some instant)
    (hcreated : ∀ row ∈ newestEvents st s.owner highest, row.createdAt = nowIso (created row))
    (hoffered : recentPlainMessages req s epoch cutoff (newestEvents st s.owner highest) st =
      .ok (items, st')) :
    List.Forall₂ (Offers req s epoch) items ((newestEvents st s.owner highest).filter fun row ↦
        isHydratable req st s epoch row && decide (instant ≤ created row)) ↔
      ∀ row ∈ newestEvents st s.owner highest, isHydratable req st s epoch row = true →
        (created row).seconds ≠ instant.seconds := by
  obtain ⟨t, hwhole, ht, -⟩ := isoHoursAgo_eq_ok hcutoff
  obtain rfl := Option.some.inj (hinstant.symm.trans ht)
  have hkept := recentPlainMessages_eq_ok hinj houtside hrefs hrefs hoffered
  -- The comparison of texts, in terms of instants: one of the second of the cutoff counts as
  -- before.
  have hbefore : ∀ row ∈ newestEvents st s.owner highest, row.createdAt < cutoff ↔
      created row < instant ∨ (created row).seconds = instant.seconds := fun row hrow ↦ by
    rw [hcreated row hrow]
    exact nowIso_lt_cutoff_iff hcutoff hinstant
  constructor
  · intro hall row hrow hhydratable hsecond
    have hsame := filter_eq_of_forall₂ hall hkept fun row hrow hkeep ↦ by
      rw [Bool.and_eq_true, Bool.not_eq_true', decide_eq_false_iff_not, hbefore row hrow, not_or]
        at hkeep
      rw [hkeep.1, Bool.true_and, decide_eq_true_eq]
      exact hkeep.2.1
    have hlate : instant ≤ created row := DateTime.not_lt_of_seconds_eq hsecond hwhole
    have hkeep := hsame row hrow (by rw [hhydratable, decide_eq_true hlate]; rfl)
    rw [Bool.and_eq_true, Bool.not_eq_true', decide_eq_false_iff_not, hbefore row hrow] at hkeep
    exact hkeep.2 (.inr hsecond)
  · intro hnone
    rwa [List.filter_congr fun row hrow ↦ ?_]
    cases hhydratable : isHydratable req st s epoch row with
    | false => rfl
    | true =>
      rw [Bool.true_and, Bool.true_and, ← decide_not, decide_eq_decide, hbefore row hrow, not_or]
      exact ⟨fun h ↦ ⟨h, hnone row hrow hhydratable⟩, fun h ↦ h.1⟩

/-! ### Two messages of one second -/

/-- Midnight of a day in January 2026, or so many microseconds later. -/
def january (day microsecond : ℕ) (hday : 1 ≤ day ∧ day ≤ 31)
    (hmicrosecond : microsecond < 10 ^ 6) : DateTime where
  date := ⟨2026, 1, day, by decide, by decide, hday⟩
  hour := 0
  minute := 0
  second := 0
  microsecond := microsecond
  hour_lt := by decide
  minute_lt := by decide
  second_lt := by decide
  microsecond_lt := hmicrosecond

/-- A snapshot is taken early on 3 January, so its cutoff is midnight of 1 January. -/
def frozenSample : DateTime := january 3 700000 (by decide) (by decide)

/-- There are microseconds in a second. -/
theorem zero_lt_million : 0 < 10 ^ 6 := by decide

/-- Midnight. -/
def cutoffSample : DateTime := january 1 0 (by decide) zero_lt_million

/-- Half a second later. -/
def halfSecond : DateTime := january 1 500000 (by decide) (by decide)

/-- A day later. -/
def nextDay : DateTime := january 2 0 (by decide) zero_lt_million

/-- The store of Alice's two messages, written at a time. -/
def messagesAt (t : DateTime) : Store :=
  { twoMessages with
    syncEvents := twoMessages.syncEvents.map fun e ↦ { e with createdAt := nowIso t } }

/-- What her snapshot offers. -/
def offeredAt (t : DateTime) : Result (List Obj × Store) :=
  recentPlainMessages aliceDevice aliceSubject "1" "2026-01-01T00:00:00Z"
    (newestEvents (messagesAt t) alice 2) (messagesAt t)

/-- That is the text of the cutoff, -/
theorem cutoff_frozenSample :
    isoHoursAgo MESSAGE_CUTOFF_HOURS (nowIso frozenSample) = .ok "2026-01-01T00:00:00Z" := by
  have hsome : (isoHoursAgo MESSAGE_CUTOFF_HOURS (nowIso frozenSample)).toOption =
      some "2026-01-01T00:00:00Z" := by
    decide +kernel
  cases hok : isoHoursAgo MESSAGE_CUTOFF_HOURS (nowIso frozenSample) with
  | error e =>
    rw [hok] at hsome
    cases hsome
  | ok cutoff =>
    rw [hok] at hsome
    rw [Option.some.inj hsome]

/-- and this its time. -/
theorem instant_cutoffSample : instant? "2026-01-01T00:00:00Z" = some cutoffSample := by
  decide +kernel

/-- So many items are offered. -/
theorem exists_offeredAt {t : DateTime} {n : ℕ}
    (h : (offeredAt t).toOption.map (·.1.length) = some n) :
    ∃ items st', offeredAt t = .ok (items, st') ∧ items.length = n := by
  cases hok : offeredAt t with
  | error e =>
    rw [hok] at h
    cases h
  | ok p =>
    rw [hok] at h
    exact ⟨p.1, p.2, rfl, Option.some.inj h⟩

/-- Both messages were written at the time. -/
theorem createdAt_messagesAt (t : DateTime) :
    ∀ row ∈ newestEvents (messagesAt t) aliceSubject.owner 2, row.createdAt = nowIso t := by
  intro row hrow
  have hmem := (List.mem_insertionSort _).mp hrow
  obtain ⟨e, -, rfl⟩ := List.mem_map.mp (List.mem_filter.mp hmem).1
  rfl

/-- No references have been drawn. -/
theorem refsDerived_messagesAt (t : DateTime) :
    RefsDerived Outside.honest.conversationRef (messagesAt t).directConversationRefs := by
  unfold messagesAt
  exact drainable_twoMessages.refs

/-- A day after the cutoff both were created, and both are offered. -/
theorem snapshot_keeps_from_cutoff_sample :
    ∃ items st', offeredAt nextDay = .ok (items, st') ∧
      items.length = 2 ∧ List.Forall₂ (Offers aliceDevice aliceSubject "1") items
        ((newestEvents (messagesAt nextDay) alice 2).filter fun row ↦
          isHydratable aliceDevice (messagesAt nextDay) aliceSubject "1"
            row && decide (cutoffSample ≤ nextDay)) := by
  have htwo : (offeredAt nextDay).toOption.map (·.1.length) = some 2 := by decide +kernel
  obtain ⟨items, st', hoffered, hlength⟩ := exists_offeredAt htwo
  have hkeeps := @snapshot_keeps_from_cutoff_iff _ aliceDevice
    (messagesAt nextDay) st' aliceSubject "1"
    _ 2 items frozenSample cutoffSample (fun _ ↦ nextDay) conversationRef_honest_injective rfl
    (refsDerived_messagesAt nextDay) cutoff_frozenSample instant_cutoffSample
    (createdAt_messagesAt nextDay) hoffered
  have hlater : nextDay.seconds ≠ cutoffSample.seconds := by decide
  exact ⟨items, st', hoffered, hlength, hkeeps.mpr fun row _ _ ↦ hlater⟩

/-- Half a second after the cutoff both were created, and neither is offered. -/
theorem messages_of_cutoff_second_dropped :
    isoHoursAgo MESSAGE_CUTOFF_HOURS (nowIso frozenSample) = .ok "2026-01-01T00:00:00Z" ∧
      instant? "2026-01-01T00:00:00Z" = some cutoffSample ∧
      ∃ created items st', cutoffSample ≤ created ∧ offeredAt created = .ok (items, st') ∧
        (∀ row ∈ newestEvents (messagesAt created) alice 2, row.createdAt = nowIso created) ∧
        ¬ List.Forall₂ (Offers aliceDevice aliceSubject "1") items
          ((newestEvents (messagesAt created) alice 2).filter fun row ↦
            isHydratable aliceDevice (messagesAt created) aliceSubject "1" row &&
              decide (cutoffSample ≤ created)) := by
  have hnone : (offeredAt halfSecond).toOption.map (·.1.length) =
      some 0 := by
    decide +kernel
  have htwo : ((newestEvents (messagesAt halfSecond) alice 2).filter
      fun row ↦ isHydratable aliceDevice (messagesAt halfSecond)
        aliceSubject "1" row && decide (cutoffSample ≤ halfSecond)).length = 2 := by
    decide +kernel
  obtain ⟨items, st', hoffered, hlength⟩ := exists_offeredAt hnone
  refine ⟨cutoff_frozenSample, instant_cutoffSample, halfSecond, items,
    st', by decide, hoffered, createdAt_messagesAt _, fun hall ↦ ?_⟩
  have hsame := hall.length_eq
  rw [hlength, htwo] at hsame
  cases hsame

end Awiki
