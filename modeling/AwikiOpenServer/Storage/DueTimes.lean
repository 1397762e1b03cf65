import AwikiOpenServer.Shared.Ids
import AwikiOpenServer.Attachments.Slots
import AwikiOpenServer.Messaging.Groups.Outbox

/-!
# What is due

The times of a row are texts, and the statements that ask whether it is due, expired or pending
longest compare them as texts. Where the texts are those of instants, each of these statements
selects and orders by the instants.

The server has four such statements: the pass over the outbox, which takes what is due in the order
of its creation; the status of a group's deliveries, which reports the oldest pending one; the
cleanup of attachments, which deletes slots that have expired and tickets likewise. Each has a
theorem here that rewrites it into one about `DateTime`.

**They all rest on one fact**, that the order of the texts is the order of the instants, and on
monotone maps commuting with filters, sorting and minimum. The three lemmas at the top say the last
once (`orderedInsert_congr`, `insertionSort_congr`, `least_map`).

The hypotheses are about the rows in question and not about the table: a row whose time is not
written by the server, if there were one, would have to be looked at separately, and a statement
that never selects it does not care.
-/

namespace Awiki

open Iso8601

/-! ### Sorting and minimum -/

section Order

variable {α : Type*} {r s : α → α → Prop} [DecidableRel r] [DecidableRel s] {l : List α}

/-- Inserting compares with the members of the list only. -/
theorem orderedInsert_congr {a : α} (h : ∀ b ∈ l, r a b ↔ s a b) :
    l.orderedInsert r a = l.orderedInsert s a := by
  induction l with
  | nil => rfl
  | cons b l ih =>
    have hb := h b List.mem_cons_self
    rw [List.orderedInsert, List.orderedInsert, ih fun c hc ↦ h c (List.mem_cons_of_mem b hc)]
    simp only [hb]

/-- So sorting by two orders that agree on the list is the same. -/
theorem insertionSort_congr (h : ∀ a ∈ l, ∀ b ∈ l, r a b ↔ s a b) :
    l.insertionSort r = l.insertionSort s := by
  induction l with
  | nil => rfl
  | cons a l ih =>
    have htail := ih fun b hb c hc ↦ h b (List.mem_cons_of_mem a hb) c (List.mem_cons_of_mem a hc)
    rw [List.insertionSort_cons, List.insertionSort_cons, htail]
    refine orderedInsert_congr fun b hb ↦ ?_
    exact h a List.mem_cons_self b (List.mem_cons_of_mem a ((List.mem_insertionSort s).mp hb))

/-- `MIN`: of no rows there is none. -/
def least {α : Type*} [LT α] [DecidableLT α] : List α → Option α
  | [] => none
  | a :: l => some ((least l).elim a fun m ↦ if m < a then m else a)

/-- A monotone map takes the least to the least. -/
theorem least_map {α β : Type*} [LT α] [LT β] [DecidableLT α] [DecidableLT β] {f : α → β}
    (h : ∀ a b, f a < f b ↔ a < b) (l : List α) : least (l.map f) = (least l).map f := by
  induction l with
  | nil => rfl
  | cons a l ih =>
    rw [List.map_cons, least, least, ih]
    cases least l with
    | none => rfl
    | some m =>
      show some (if f m < f a then f m else f a) = some (f (if m < a then m else a))
      simp only [h, apply_ite f]

end Order

/-! ### The outbox -/

/-- `SELECT MIN(created_at) … WHERE status IN ('pending', 'retry')` of `group_operations_status`. -/
def oldestPending (st : Store) : Option String :=
  least ((st.groupDeliveryOutbox.filter OutboxRow.isDue).map (·.createdAt))

section Outbox

variable {st : Store} {due created : OutboxRow → DateTime} {now : DateTime}

/-- **A pass takes the rows whose instant has come, in the order of the instants.** -/
theorem selectBatch_instants {limit : ℤ}
    (hdue : ∀ r ∈ st.groupDeliveryOutbox, r.nextAttemptAt = nowIso (due r))
    (hcreated : ∀ r ∈ st.groupDeliveryOutbox, r.createdAt = nowIso (created r)) :
    selectBatch st limit (nowIso now) =
      ((st.groupDeliveryOutbox.filter fun r ↦
          r.isDue && decide (due r ≤ now) && r.isUnblocked st.groupDeliveryOutbox).insertionSort
        fun a b ↦ due a < due b ∨ due a = due b ∧ created a ≤ created b).take
      (max 1 (min limit 100)).toNat := by
  have hfilter : (st.groupDeliveryOutbox.filter fun r ↦ r.isDue &&
      decide (r.nextAttemptAt ≤ nowIso now) && r.isUnblocked st.groupDeliveryOutbox) =
      st.groupDeliveryOutbox.filter fun r ↦
        r.isDue && decide (due r ≤ now) && r.isUnblocked st.groupDeliveryOutbox := by
    refine List.filter_congr fun r hr ↦ ?_
    rw [hdue r hr, decide_eq_decide.mpr nowIso_le_iff]
  rw [selectBatch, hfilter]
  refine congrArg (List.take _) (insertionSort_congr fun a ha b hb ↦ ?_)
  have ha := List.mem_of_mem_filter ha
  have hb := List.mem_of_mem_filter hb
  rw [hdue a ha, hdue b hb, hcreated a ha, hcreated b hb, nowIso_lt_iff, nowIso_inj, nowIso_le_iff]

/-- **The time of the oldest pending row** is that of the first instant. -/
theorem oldestPending_instants
    (hcreated : ∀ r ∈ st.groupDeliveryOutbox, r.createdAt = nowIso (created r)) :
    oldestPending st =
      (least ((st.groupDeliveryOutbox.filter OutboxRow.isDue).map created)).map nowIso := by
  have htexts : (st.groupDeliveryOutbox.filter OutboxRow.isDue).map (·.createdAt) =
      ((st.groupDeliveryOutbox.filter OutboxRow.isDue).map created).map nowIso := by
    rw [List.map_map]
    exact List.map_congr_left fun r hr ↦ hcreated r (List.mem_of_mem_filter hr)
  rw [oldestPending, htexts, least_map fun _ _ ↦ nowIso_lt_iff]

end Outbox

/-! ### Attachments -/

section Attachments

variable {now expiry : DateTime}

/-- **A slot is left over from the instant of its expiry on.** -/
theorem isLeftover_nowIso_iff {slot : AttachmentSlot} (h : slot.expiresAt = some (nowIso expiry)) :
    slot.isLeftover (nowIso now) = true ↔ expiry ≤ now ∧ slot.status ≠ .committed := by
  simp [AttachmentSlot.isLeftover, h, nowIso_le_iff]

/-- **The tickets removed** are those whose instant has come. -/
theorem filter_tickets_instants {tickets : List DownloadTicket}
    {expires : DownloadTicket → DateTime} (h : ∀ t ∈ tickets, t.expiresAt = nowIso (expires t)) :
    (tickets.filter fun t ↦ decide (t.expiresAt ≤ nowIso now)) =
      tickets.filter fun t ↦ decide (expires t ≤ now) := by
  refine List.filter_congr fun t ht ↦ ?_
  rw [h t ht, decide_eq_decide.mpr nowIso_le_iff]

end Attachments

end Awiki
