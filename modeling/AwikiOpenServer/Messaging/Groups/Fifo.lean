import AwikiOpenServer.Messaging.Groups.Fanout

/-!
# FIFO delivery per peer

Order is enforced by one predicate, evaluated once per batch: nothing earlier in the stream is
undelivered. Between that query and the attempt of a row, requests enqueue further rows and other
rows of the batch are attempted. `FifoInv` is what survives: **a batch holds at most one row of each
stream**, since the earlier of two would block the later, so attempting one row of the batch can
neither unblock nor block another; and what requests enqueue comes after everything there is.

## Streams

A stream is the rows for one member of one group (`streamOf`), in the order of their sequence
numbers. The result is about any number of drain passes beside any number of requests: the stream is
in order, what is delivered is an initial part of it, a row is attempted only when everything before
it is delivered, and a row that is delivered or dead is never written again.

A dead row blocks its stream for good, since it is not delivered. That is how the query is written,
and it is why the delivered rows are an initial part of the stream in every state.

## The invariant, and who keeps it

`FifoInv` is about the outbox alone, and `PassOk` about the rows a pass has still to attempt: they
are due, unblocked, and of different streams. Two relations say what can happen to the two:
`Enqueued`, rows at a new sequence number of one group, and `Attempted`, one row replaced by what
its attempt has left. Each of the four combinations is a lemma, and every step of the Host is one of
them, or leaves both alone (`OutboxStep`).

The query that selects a batch is `FifoInv.selectBatch`: its rows are unblocked at that moment, and
two of one stream cannot be.
-/

namespace Awiki

open Py Runs

/-- The rows for one peer, in the order they were enqueued. -/
def streamOf (st : Store) (groupDid targetDid : String) : List OutboxRow :=
  st.groupDeliveryOutbox.filter fun r ↦ decide (r.groupDid = groupDid ∧ r.targetDid = targetDid)

/-- The row is delivered. -/
def OutboxRow.isDelivered (r : OutboxRow) : Bool := r.status = .delivered

/-- Every earlier row of the stream is delivered. -/
def OutboxRow.Unblocked (outbox : List OutboxRow) (r : OutboxRow) : Prop :=
  ∀ e ∈ outbox, e.SameStream r → e.groupEventSeq < r.groupEventSeq → e.status = .delivered

/-- What the query decides. -/
theorem OutboxRow.isUnblocked_iff {outbox : List OutboxRow} {r : OutboxRow} :
    r.isUnblocked outbox = true ↔ r.Unblocked outbox := by
  simp only [isUnblocked, Unblocked, List.all_eq_true, Bool.not_eq_true', decide_eq_false_iff_not]
  constructor
  · intro h e he hs hlt
    by_contra hne
    exact h e he ⟨hs, hlt, hne⟩
  · rintro h e he ⟨hs, hlt, hne⟩
    exact hne (h e he hs hlt)

/-- Two rows are of one stream, in either order. -/
theorem OutboxRow.SameStream.symm {r r' : OutboxRow} (h : r.SameStream r') : r'.SameStream r :=
  ⟨h.1.symm, h.2.symm⟩

/-- A delivered row is not due, and neither is a dead one. -/
theorem OutboxRow.isDue_eq_false {r : OutboxRow} :
    r.isDue = false ↔ r.status = .delivered ∨ r.status = .dead := by
  unfold isDue
  cases r.status <;> simp

/-! ### The invariant -/

/-- The rows a pass has still to attempt. -/
structure PassOk (outbox : List OutboxRow) (rows : List OutboxRow) : Prop where
  mem : ∀ r ∈ rows, r ∈ outbox
  due : ∀ r ∈ rows, r.isDue = true
  unblocked : ∀ r ∈ rows, r.Unblocked outbox
  streams : rows.Pairwise fun r r' ↦ ¬ r.SameStream r'

/-- **Order of the outbox.** -/
structure FifoInv (outbox : List OutboxRow) : Prop where
  /-- Within a stream, the order of the table is that of the sequence numbers. -/
  ordered : outbox.Pairwise fun r r' ↦ r.SameStream r' → r.groupEventSeq < r'.groupEventSeq
  /-- Whatever precedes a delivered row is delivered. -/
  delivered : ∀ r ∈ outbox, r.status = .delivered → r.Unblocked outbox
  attempts : ∀ r ∈ outbox, r.attemptCount ≤ MAX_DELIVERY_ATTEMPTS
  attempts_due : ∀ r ∈ outbox, r.isDue = true → r.attemptCount < MAX_DELIVERY_ATTEMPTS

/-- The batch of a query. -/
theorem FifoInv.selectBatch {st : Store} (hi : FifoInv st.groupDeliveryOutbox) (limit : ℤ)
    (now : String) : PassOk st.groupDeliveryOutbox (selectBatch st limit now) := by
  have hmem : ∀ r ∈ Awiki.selectBatch st limit now, r ∈ st.groupDeliveryOutbox ∧
      r.isDue = true ∧ r.Unblocked st.groupDeliveryOutbox := by
    intro r hr
    have hfilter := List.mem_of_mem_take hr
    rw [List.mem_insertionSort, List.mem_filter] at hfilter
    obtain ⟨hin, hcond⟩ := hfilter
    rw [Bool.and_eq_true, Bool.and_eq_true] at hcond
    exact ⟨hin, hcond.1.1, OutboxRow.isUnblocked_iff.mp hcond.2⟩
  refine ⟨fun r hr ↦ (hmem r hr).1, fun r hr ↦ (hmem r hr).2.1, fun r hr ↦ (hmem r hr).2.2, ?_⟩
  refine List.Pairwise.take ?_
  -- Distinctness of streams does not depend on the order the batch is sorted in.
  refine (List.Perm.pairwise_iff (fun h hs ↦ h (OutboxRow.SameStream.symm hs))
    (List.perm_insertionSort _ _)).mpr ?_
  refine (hi.ordered.filter _).imp_of_mem fun {r r'} hr hr' hlt hs ↦ ?_
  rw [List.mem_filter, Bool.and_eq_true, Bool.and_eq_true] at hr hr'
  have hdelivered := OutboxRow.isUnblocked_iff.mp hr'.2.2 r hr.1 hs (hlt hs)
  have hdue := hr.2.1.1
  rw [OutboxRow.isDue_eq_false.mpr (.inl hdelivered)] at hdue
  exact Bool.false_ne_true hdue

/-! ### Enqueueing -/

/-- Rows enqueued at a new sequence number of one group, for different targets. -/
structure Enqueued (outbox : List OutboxRow) (groupDid : String) (seq : ℕ)
    (rows : List OutboxRow) : Prop where
  group : ∀ r ∈ rows, r.groupDid = groupDid ∧ r.groupEventSeq = seq
  pending : ∀ r ∈ rows, r.status = .pending ∧ r.attemptCount = 0
  targets : (rows.map OutboxRow.targetDid).Nodup
  later : ∀ r ∈ outbox, r.groupDid = groupDid → r.groupEventSeq < seq

/-- What is unblocked is not blocked by later rows. -/
theorem Enqueued.unblocked {outbox rows : List OutboxRow} {groupDid : String} {seq : ℕ}
    (h : Enqueued outbox groupDid seq rows) {r : OutboxRow} (hr : r ∈ outbox)
    (hu : r.Unblocked outbox) : r.Unblocked (outbox ++ rows) := by
  intro e he hs hlt
  rcases List.mem_append.mp he with he | he
  · exact hu e he hs hlt
  · obtain ⟨hgroup, hseq⟩ := h.group e he
    have := h.later r hr (hs.1.symm.trans hgroup)
    omega

/-- Enqueueing keeps the order, -/
theorem FifoInv.enqueued {outbox rows : List OutboxRow} {groupDid : String} {seq : ℕ}
    (hi : FifoInv outbox) (h : Enqueued outbox groupDid seq rows) : FifoInv (outbox ++ rows) := by
  refine ⟨?_, ?_, ?_, ?_⟩
  · rw [List.pairwise_append]
    refine ⟨hi.ordered, ?_, fun r hr r' hr' hs ↦ ?_⟩
    · have htargets := h.targets
      rw [List.Nodup, List.pairwise_map] at htargets
      exact htargets.imp fun hne hs ↦ absurd hs.2 hne
    · obtain ⟨hgroup, hseq⟩ := h.group r' hr'
      rw [hseq]
      exact h.later r hr (hs.1.trans hgroup)
  · intro r hr hdelivered
    rcases List.mem_append.mp hr with hr | hr
    · exact h.unblocked hr (hi.delivered r hr hdelivered)
    · rw [(h.pending r hr).1] at hdelivered
      cases hdelivered
  · intro r hr
    rcases List.mem_append.mp hr with hr | hr
    · exact hi.attempts r hr
    · rw [(h.pending r hr).2]
      exact Nat.zero_le _
  · intro r hr hdue
    rcases List.mem_append.mp hr with hr | hr
    · exact hi.attempts_due r hr hdue
    · rw [(h.pending r hr).2]
      decide

/-- and the rows of a pass. -/
theorem PassOk.enqueued {outbox rows pass : List OutboxRow} {groupDid : String} {seq : ℕ}
    (hp : PassOk outbox pass) (h : Enqueued outbox groupDid seq rows) :
    PassOk (outbox ++ rows) pass where
  mem r hr := List.mem_append_left _ (hp.mem r hr)
  due := hp.due
  unblocked r hr := h.unblocked (hp.mem r hr) (hp.unblocked r hr)
  streams := hp.streams

/-! ### Attempting -/

/-- The outbox after an attempt at one of its rows, the others untouched. -/
structure Attempted (outbox : List OutboxRow) (row row' : OutboxRow) (outbox' : List OutboxRow) :
    Prop where
  mem : row ∈ outbox
  due : row.isDue = true
  rows : ∃ f : OutboxRow → OutboxRow, outbox' = outbox.map f ∧ f row = row' ∧
    ∀ r ∈ outbox, r ≠ row → f r = r
  group : row'.groupDid = row.groupDid
  target : row'.targetDid = row.targetDid
  seq : row'.groupEventSeq = row.groupEventSeq
  count : row'.attemptCount = row.attemptCount + 1
  retried : row'.isDue = true → row'.attemptCount < MAX_DELIVERY_ATTEMPTS

namespace Attempted

variable {outbox outbox' : List OutboxRow} {row row' : OutboxRow}

/-- The rows after an attempt. -/
theorem mem_iff (h : Attempted outbox row row' outbox') {r : OutboxRow} :
    r ∈ outbox' ↔ r = row' ∨ r ∈ outbox ∧ r ≠ row := by
  obtain ⟨f, rfl, hrow, hother⟩ := h.rows
  rw [List.mem_map]
  constructor
  · rintro ⟨r₀, hr₀, rfl⟩
    by_cases heq : r₀ = row
    · exact .inl (heq ▸ hrow)
    · rw [hother r₀ hr₀ heq]
      exact .inr ⟨hr₀, heq⟩
  · rintro (rfl | ⟨hr, hne⟩)
    · exact ⟨row, h.mem, hrow⟩
    · exact ⟨r, hr, hother r hr hne⟩

/-- A row that was not due is still there. -/
theorem mem_of_not_due (h : Attempted outbox row row' outbox') {r : OutboxRow} (hr : r ∈ outbox)
    (hdue : r.isDue = false) : r ∈ outbox' := by
  refine h.mem_iff.mpr (.inr ⟨hr, ?_⟩)
  rintro rfl
  rw [h.due] at hdue
  cases hdue

/-- What was unblocked stays so: delivered rows are not written again. -/
theorem unblocked (h : Attempted outbox row row' outbox') {r : OutboxRow}
    (hu : r.Unblocked outbox) : r.Unblocked outbox' := by
  intro e he hs hlt
  rcases h.mem_iff.mp he with rfl | ⟨he, -⟩
  · have hdelivered := hu row h.mem ⟨h.group.symm.trans hs.1, h.target.symm.trans hs.2⟩
      (h.seq ▸ hlt)
    have hdue := h.due
    rw [OutboxRow.isDue_eq_false.mpr (.inl hdelivered)] at hdue
    cases hdue
  · exact hu e he hs hlt

end Attempted

/-- **An attempt at an unblocked row keeps the order,** -/
theorem FifoInv.attempted {outbox outbox' : List OutboxRow} {row row' : OutboxRow}
    (hi : FifoInv outbox) (h : Attempted outbox row row' outbox') (hu : row.Unblocked outbox) :
    FifoInv outbox' := by
  refine ⟨?_, ?_, ?_, ?_⟩
  · obtain ⟨f, rfl, hrow, hother⟩ := h.rows
    have hsame : ∀ r ∈ outbox, (f r).groupDid = r.groupDid ∧ (f r).targetDid = r.targetDid ∧
        (f r).groupEventSeq = r.groupEventSeq := by
      intro r hr
      by_cases heq : r = row
      · rw [heq, hrow]
        exact ⟨h.group, h.target, h.seq⟩
      · rw [hother r hr heq]
        exact ⟨rfl, rfl, rfl⟩
    rw [List.pairwise_map]
    refine hi.ordered.imp_of_mem fun {r r'} hr hr' hlt hs ↦ ?_
    obtain ⟨hg, ht, hseq⟩ := hsame r hr
    obtain ⟨hg', ht', hseq'⟩ := hsame r' hr'
    rw [hseq, hseq']
    exact hlt ⟨hg ▸ hg' ▸ hs.1, ht ▸ ht' ▸ hs.2⟩
  · intro r hr hdelivered
    rcases h.mem_iff.mp hr with rfl | ⟨hr, -⟩
    · intro e he hs hlt
      refine h.unblocked hu e he ⟨hs.1.trans h.group, hs.2.trans h.target⟩ (h.seq ▸ hlt)
    · exact h.unblocked (hi.delivered r hr hdelivered)
  · intro r hr
    rcases h.mem_iff.mp hr with rfl | ⟨hr, -⟩
    · have := hi.attempts_due row h.mem h.due
      rw [h.count]
      omega
    · exact hi.attempts r hr
  · intro r hr hdue
    rcases h.mem_iff.mp hr with rfl | ⟨hr, -⟩
    · exact h.retried hdue
    · exact hi.attempts_due r hr hdue

/-- and the rest of its pass. -/
theorem PassOk.attempted {outbox outbox' rest : List OutboxRow} {row row' : OutboxRow}
    (hp : PassOk outbox (row :: rest)) (h : Attempted outbox row row' outbox') :
    PassOk outbox' rest := by
  have hstreams := List.pairwise_cons.mp hp.streams
  refine ⟨fun r hr ↦ ?_, fun r hr ↦ hp.due r (List.mem_cons_of_mem _ hr), fun r hr ↦
    h.unblocked (hp.unblocked r (List.mem_cons_of_mem _ hr)), hstreams.2⟩
  refine h.mem_iff.mpr (.inr ⟨hp.mem r (List.mem_cons_of_mem _ hr), ?_⟩)
  rintro rfl
  exact hstreams.1 r hr ⟨rfl, rfl⟩

/-- The status write reaches exactly the row that was attempted. -/
theorem recordAttempt_attempted {st : Store} (hi : OutboxInv st) {row : OutboxRow}
    (hmem : row ∈ st.groupDeliveryOutbox) (hdue : row.isDue = true) (outcome : AttemptOutcome)
    (now nextAttempt updatedAt : String) :
    Attempted st.groupDeliveryOutbox row
      (row.afterAttempt row outcome now nextAttempt updatedAt)
      (recordAttempt st row outcome now nextAttempt updatedAt).groupDeliveryOutbox := by
  obtain ⟨-, hgroup, hseq, htarget⟩ :=
    OutboxRow.afterAttempt_fields row row outcome now nextAttempt updatedAt
  refine ⟨hmem, hdue, ⟨_, rfl, by simp [hdue], ?_⟩, hgroup, htarget, hseq, ?_, ?_⟩
  · intro r hr hne
    have hid : r.deliveryId ≠ row.deliveryId := fun heq ↦
      hne (hi.ids_keyed.eq_of_key_eq hr hmem heq)
    simp [hid]
  · cases outcome <;> rfl
  · cases outcome with
    | delivered => simp [OutboxRow.afterAttempt, OutboxRow.isDue]
    | failed notSupported lastError =>
      -- The row is written back as `retry` only below the limit.
      intro hretry
      by_contra hlimit
      have hle : MAX_DELIVERY_ATTEMPTS ≤ row.attemptCount + 1 := not_lt.mp hlimit
      simp [OutboxRow.afterAttempt, OutboxRow.isDue, hle] at hretry

/-! ### Runs -/

/-- The order of the outbox, and the batch of the pass that holds the lock. -/
structure HostFifo (w : HostWorld) : Prop where
  log : HostLogInv w.store
  outbox : OutboxInv w.store
  fifo : FifoInv w.store.groupDeliveryOutbox
  pass : ∀ p ∈ w.pass, PassOk w.store.groupDeliveryOutbox p.rows

/-- An event enqueues at a new sequence number. -/
theorem Advance.enqueued {settings : Settings} {st st' : Store} (a : Advance settings st st')
    (hlog : HostLogInv st) (hi : OutboxInv st) :
    Enqueued st.groupDeliveryOutbox a.group.groupDid (a.group.groupEventSeq + 1)
      (outboxRows a.enqueuing.issued a.group.groupDid (a.group.groupEventSeq + 1) a.notification
        a.envelopeFor a.now a.recipients) := by
  refine ⟨fun r hr ↦ ?_, fun r hr ↦ ?_, ?_, fun r hr hgroup ↦ ?_⟩
  · obtain ⟨_, -, _, -, -, rfl⟩ := mem_outboxRows hr
    exact ⟨rfl, rfl⟩
  · obtain ⟨_, -, _, -, -, rfl⟩ := mem_outboxRows hr
    exact ⟨rfl, rfl⟩
  · rw [map_targetDid_outboxRows]
    exact a.recipients_nodup hi.members_keyed
  · have := hi.seq_fresh hlog (Table.mem_of_row? a.found) hr hgroup
    omega

/-- What a step does to the outbox. -/
inductive OutboxStep (outbox : List OutboxRow) (pass : Option DrainPass) :
    List OutboxRow → Option DrainPass → Prop where
  | same : OutboxStep outbox pass outbox pass
  | ended : OutboxStep outbox pass outbox none
  | selected (st : Store) (hst : st.groupDeliveryOutbox = outbox) (limit : ℤ) (now : String) :
      OutboxStep outbox pass outbox (some ⟨now, selectBatch st limit now⟩)
  | enqueued {groupDid : String} {seq : ℕ} {rows : List OutboxRow}
      (h : Enqueued outbox groupDid seq rows) : OutboxStep outbox pass (outbox ++ rows) pass
  | attempted {now : String} {row row' : OutboxRow} {rest outbox' : List OutboxRow}
      (hpass : pass = some ⟨now, row :: rest⟩) (h : Attempted outbox row row' outbox') :
      OutboxStep outbox pass outbox' (some ⟨now, rest⟩)

/-- **What a step of the Host does to the outbox.** -/
theorem HostStep.outboxStep {settings : Settings} {w w' : HostWorld} {a : HostAction}
    (h : HostStep settings w a w') (hi : HostFifo w) :
    OutboxStep w.store.groupDeliveryOutbox w.pass w'.store.groupDeliveryOutbox w'.pass := by
  cases h with
  | call c hseen hreplayed =>
    have hstep := (HostStep.call c hseen hreplayed : HostStep settings w _ _).storeStep
    generalize hst' : afterCall settings w.store c = st' at hstep
    dsimp only at hstep ⊢
    cases hstep with
    | unchanged => exact .same
    | created _ _ creation =>
      rw [creation.outbox]
      exact .same
    | advanced _ _ advance =>
      rw [(advance.outbox_eq hi.log hi.outbox).1]
      exact .enqueued (advance.enqueued hi.log hi.outbox)
  | beginDrain limit now => exact .selected w.store rfl limit now
  | attempt outcome nextAttempt updatedAt hpass =>
    have hp := hi.pass _ hpass
    exact .attempted hpass (recordAttempt_attempted hi.outbox (hp.mem _ List.mem_cons_self)
      (hp.due _ List.mem_cons_self) outcome _ nextAttempt updatedAt)
  | endDrain => exact .ended
  | elsewhere st h =>
    dsimp only
    rw [h.groupDeliveryOutbox]
    exact .same

/-- It keeps the order, and the pass. -/
theorem OutboxStep.fifo {outbox outbox' : List OutboxRow} {pass pass' : Option DrainPass}
    (h : OutboxStep outbox pass outbox' pass') (hi : FifoInv outbox)
    (hp : ∀ p ∈ pass, PassOk outbox p.rows) :
    FifoInv outbox' ∧ ∀ p ∈ pass', PassOk outbox' p.rows := by
  cases h with
  | same => exact ⟨hi, hp⟩
  | ended => exact ⟨hi, by simp⟩
  | selected st hst limit now =>
    subst hst
    refine ⟨hi, ?_⟩
    rintro p ⟨⟩
    exact hi.selectBatch limit now
  | enqueued h => exact ⟨hi.enqueued h, fun p hpass ↦ (hp p hpass).enqueued h⟩
  | attempted hpass h =>
    have hrows := hp _ hpass
    refine ⟨hi.attempted h (hrows.unblocked _ List.mem_cons_self), ?_⟩
    rintro p ⟨⟩
    exact hrows.attempted h

/-- A row that is not due is never written again. -/
theorem OutboxStep.mem_of_not_due {outbox outbox' : List OutboxRow} {pass pass' : Option DrainPass}
    (h : OutboxStep outbox pass outbox' pass') {r : OutboxRow} (hr : r ∈ outbox)
    (hdue : r.isDue = false) : r ∈ outbox' := by
  cases h with
  | same => exact hr
  | ended => exact hr
  | selected => exact hr
  | enqueued => exact List.mem_append_left _ hr
  | attempted _ h => exact h.mem_of_not_due hr hdue

/-- **The step lemma.** -/
theorem HostFifo.step {settings : Settings} {w w' : HostWorld} {a : HostAction}
    (hi : HostFifo w) (h : HostStep settings w a w') : HostFifo w' := by
  obtain ⟨hfifo, hpass⟩ := (h.outboxStep hi).fifo hi.fifo hi.pass
  exact ⟨hi.log.step h.storeStep, hi.outbox.step hi.log h.storeStep, hfifo, hpass⟩

/-- At first there is nothing to deliver. -/
theorem HostFifo.initial {w : HostWorld} (h : w.Initial) : HostFifo w where
  log := .initial h
  outbox := .initial h
  fifo := by
    rw [h.groupDeliveryOutbox]
    exact ⟨.nil, by simp, by simp, by simp⟩
  pass := by simp [h.pass]

/-- **The run lemma.** -/
theorem HostFifo.reaches {settings : Settings} {w₀ w : HostWorld} (h₀ : w₀.Initial)
    (h : Reaches (HostStep settings) w₀ w) : HostFifo w :=
  Reaches.invariant (I := HostFifo) h (.initial h₀) fun hi hs ↦ hi.step hs

/-- Terminal rows stay as they are. -/
theorem HostFifo.terminal {settings : Settings} {w w' : HostWorld} (hi : HostFifo w)
    (h : Reaches (HostStep settings) w w') {r : OutboxRow} (hr : r ∈ w.store.groupDeliveryOutbox)
    (hdue : r.isDue = false) : r ∈ w'.store.groupDeliveryOutbox :=
  ReachesWith.related (I := HostFifo)
    (R := fun a b ↦ ∀ r ∈ a.store.groupDeliveryOutbox, r.isDue = false →
      r ∈ b.store.groupDeliveryOutbox) h hi
    (fun hia _ hs ↦ ⟨hia.step hs, fun _ hr hd ↦ (hs.outboxStep hia).mem_of_not_due hr hd⟩)
    (fun _ _ hr _ ↦ hr) (fun hab hbc r hr hd ↦ hbc r (hab r hr hd) hd) r hr hdue

/-- A selection that only ever stops selecting is an initial part of the list. -/
theorem filter_initial_of_pairwise {α : Type} {p : α → Bool} {l : List α}
    (h : l.Pairwise fun a b ↦ p b = true → p a = true) : l.filter p <+: l := by
  induction l with
  | nil => exact List.prefix_rfl
  | cons a l ih =>
    obtain ⟨hhead, htail⟩ := List.pairwise_cons.mp h
    by_cases ha : p a = true
    · rw [List.filter_cons_of_pos ha, List.prefix_cons_inj]
      exact ih htail
    · have hnone : l.filter p = [] := List.filter_eq_nil_iff.mpr fun b hb hpb ↦ ha (hhead b hb hpb)
      rw [List.filter_cons_of_neg ha, hnone]
      exact List.nil_prefix

/-- A stream is in the order of its numbers. -/
theorem FifoInv.stream_ordered {st : Store} (hi : FifoInv st.groupDeliveryOutbox)
    (groupDid targetDid : String) :
    (streamOf st groupDid targetDid).Pairwise fun r r' ↦ r.groupEventSeq < r'.groupEventSeq := by
  refine (hi.ordered.filter _).imp_of_mem fun {r r'} hr hr' hlt ↦ hlt ?_
  have hr := of_decide_eq_true (List.mem_filter.mp hr).2
  have hr' := of_decide_eq_true (List.mem_filter.mp hr').2
  exact ⟨hr.1.trans hr'.1.symm, hr.2.trans hr'.2.symm⟩

/-- What is delivered is an initial part of it. -/
theorem FifoInv.delivered_initial {st : Store} (hi : FifoInv st.groupDeliveryOutbox)
    (groupDid targetDid : String) :
    (streamOf st groupDid targetDid).filter OutboxRow.isDelivered <+:
      streamOf st groupDid targetDid := by
  refine filter_initial_of_pairwise ?_
  refine (hi.stream_ordered groupDid targetDid).imp_of_mem fun {r r'} hr hr' hlt hd ↦ ?_
  obtain ⟨hmem, hstream⟩ := List.mem_filter.mp hr
  obtain ⟨hmem', hstream'⟩ := List.mem_filter.mp hr'
  have hs := of_decide_eq_true hstream
  have hs' := of_decide_eq_true hstream'
  have hdelivered := hi.delivered r' hmem' (of_decide_eq_true hd) r hmem
    ⟨hs.1.trans hs'.1.symm, hs.2.trans hs'.2.symm⟩ hlt
  exact decide_eq_true hdelivered

/-- **FIFO delivery per peer**, in every reachable state of every run: each stream is ordered by
sequence number and its delivered rows are an initial part of it; a row is attempted only while it
is due and everything earlier in its stream is delivered, which holds from the query to the attempt;
no attempt count passes the limit; delivered and dead rows stay as they are for good. -/
theorem fifo_delivery_per_peer {settings : Settings} {w₀ w : HostWorld} (h₀ : w₀.Initial)
    (h : Reaches (HostStep settings) w₀ w) :
    (∀ groupDid targetDid,
      (streamOf w.store groupDid targetDid).Pairwise
          (fun r r' ↦ r.groupEventSeq < r'.groupEventSeq) ∧
        (streamOf w.store groupDid targetDid).filter OutboxRow.isDelivered <+:
          streamOf w.store groupDid targetDid) ∧
    (∀ p ∈ w.pass, ∀ row ∈ p.rows, row ∈ w.store.groupDeliveryOutbox ∧ row.isDue = true ∧
      row.Unblocked w.store.groupDeliveryOutbox) ∧
    (∀ (outcome : AttemptOutcome) (nextAttempt updatedAt : String) (w' : HostWorld),
      HostStep settings w (.attempt outcome nextAttempt updatedAt) w' →
        ∃ p ∈ w.pass, ∃ row ∈ p.rows, w'.store =
          recordAttempt w.store row outcome p.now nextAttempt updatedAt) ∧
    (∀ r ∈ w.store.groupDeliveryOutbox, r.attemptCount ≤ MAX_DELIVERY_ATTEMPTS) ∧
    ∀ w', Reaches (HostStep settings) w w' → ∀ r ∈ w.store.groupDeliveryOutbox,
      r.status = .delivered ∨ r.status = .dead → r ∈ w'.store.groupDeliveryOutbox ∧
        ∀ r' ∈ w'.store.groupDeliveryOutbox, r'.deliveryId = r.deliveryId → r' = r := by
  have hi := HostFifo.reaches h₀ h
  refine ⟨fun groupDid targetDid ↦ ⟨hi.fifo.stream_ordered groupDid targetDid,
      hi.fifo.delivered_initial groupDid targetDid⟩,
    fun p hp row hrow ↦ ⟨(hi.pass p hp).mem row hrow, (hi.pass p hp).due row hrow,
      (hi.pass p hp).unblocked row hrow⟩, ?_, hi.fifo.attempts, ?_⟩
  · intro outcome nextAttempt updatedAt w' hs
    cases hs with
    | attempt _ _ _ hpass => exact ⟨_, hpass, _, List.mem_cons_self, rfl⟩
  · intro w' h' r hr hterminal
    have hmem := hi.terminal h' hr (OutboxRow.isDue_eq_false.mpr hterminal)
    have hi' := HostFifo.reaches h₀ (h.trans h')
    exact ⟨hmem, fun r' hr' hid ↦ hi'.outbox.ids_keyed.eq_of_key_eq hr' hmem hid⟩

/-- Bob's addition and a message to him are two rows of one stream. The first pass finds only the
earlier one unblocked, and delivers it; -/
def afterFirstPass : HostWorld :=
  ((HostWorld.sample.after .sample (sampleSend [("text", .str "hello")])).drained 10
    "2026-01-01T00:01:00Z").attempted .delivered "" "2026-01-01T00:01:01Z"

/-- the second has selected the later one. -/
def inSecondPass : HostWorld :=
  { afterFirstPass with pass := none }.drained 10 "2026-01-01T00:02:00Z"

/-- The server gets there. -/
theorem inSecondPass_reached : Reaches (HostStep .sample) .empty inSecondPass := by
  have hsent : Reaches (HostStep .sample) .empty
      (HostWorld.sample.after .sample (sampleSend [("text", .str "hello")])) :=
    HostWorld.sample_reached.tail (.call (sampleSend _ _) List.prefix_rfl List.prefix_rfl)
  have hfirst : Reaches (HostStep .sample) .empty afterFirstPass :=
    HostWorld.attempted_reached (hsent.tail (.beginDrain 10 "2026-01-01T00:01:00Z" rfl)) ..
  exact (hfirst.tail .endDrain).tail (.beginDrain 10 "2026-01-01T00:02:00Z" rfl)

/-- In the second pass the stream is in order, half delivered, and the row selected is due and
unblocked. When its attempt fails, the delivered row stays. -/
theorem fifo_delivery_per_peer_sample :
    (streamOf inSecondPass.store sampleGroup bob).map (fun r ↦ (r.groupEventSeq, r.status)) =
        [(2, .delivered), (3, .pending)] ∧
      inSecondPass.pass.map (fun p ↦ p.rows.map OutboxRow.groupEventSeq) = some [3] ∧
      (streamOf inSecondPass.store sampleGroup bob).filter OutboxRow.isDelivered <+:
        streamOf inSecondPass.store sampleGroup bob ∧
      (∀ p ∈ inSecondPass.pass, ∀ row ∈ p.rows,
        row.Unblocked inSecondPass.store.groupDeliveryOutbox) ∧
      ∀ r ∈ inSecondPass.store.groupDeliveryOutbox, r.status = .delivered ∨ r.status = .dead →
        r ∈ (inSecondPass.attempted (.failed false "timeout") "2026-01-01T00:02:01Z"
          "2026-01-01T00:02:00Z").store.groupDeliveryOutbox := by
  obtain ⟨hstream, hpass, -, -, hterminal⟩ :=
    fifo_delivery_per_peer HostWorld.empty_initial inSecondPass_reached
  refine ⟨by decide +kernel, by decide +kernel, (hstream sampleGroup bob).2,
    fun p hp row hrow ↦ (hpass p hp row hrow).2.2, fun r hr hdone ↦ ?_⟩
  exact (hterminal _ (HostWorld.attempted_reached (.refl _) ..) r hr hdone).1

end Awiki
