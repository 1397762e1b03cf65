import Mathlib.Data.List.DropRight
import Mathlib.Data.Nat.Notation

/-!
# A bounded queue that keeps the newest

A queue of at most so many items, with the two calls that do not wait: `put_nowait` fails on a full
queue and `get_nowait` on an empty one. A writer who must not fail makes room by getting an item
first and put its own then. What a reader of such a queue can rely on is `KeepsNewest`: of all that
was put after the item it got last, **the queue holds the newest ones, in their order**.

**Positions, not items.** Items may repeat, so what has been got is said by positions in the log of
all that was put, increasing along the reads. What is left in the queue is then the last `maxsize`
items of the log behind the last of those positions, `List.rtake`, and no statement about which item
was dropped is ever needed.

The bound is a field of the queue, so a queue with too many items does not exist, and `put` is where
it has to be shown. `KeepsNewest.put` and `KeepsNewest.get` are the two steps; a run of a writer and
a reader in any order is an induction with one of them in each case, and is left to the program that
has such a queue.

The lemmas on `rtake` in the middle say how the end of a list changes when an element is added
behind it, or the first one taken away.
-/

namespace BoundedQueue

/-- Why a call failed. -/
inductive Exn where
  | full
  | empty
  deriving DecidableEq, Repr

/-- A queue of at most `maxsize` items, the oldest in front. -/
structure Queue (α : Type*) (maxsize : ℕ) where
  items : List α
  length_le : items.length ≤ maxsize

variable {α : Type*} {maxsize : ℕ}

namespace Queue

/-- A queue without items. -/
def new : Queue α maxsize := ⟨[], Nat.zero_le _⟩

/-- `queue.put_nowait(item)`. -/
def put (q : Queue α maxsize) (a : α) : Except Exn (Queue α maxsize) :=
  if h : q.items.length < maxsize then
    .ok ⟨q.items ++ [a], by rw [List.length_append, List.length_singleton]; omega⟩
  else .error .full

/-- `queue.get_nowait()`. -/
def get (q : Queue α maxsize) : Except Exn (α × Queue α maxsize) :=
  match q with
  | ⟨[], _⟩ => .error .empty
  | ⟨a :: items, h⟩ => .ok (a, ⟨items, Nat.le_of_succ_le h⟩)

/-- With a place left, the item goes to the end. -/
theorem put_of_lt {q : Queue α maxsize} (h : q.items.length < maxsize) (a : α) :
    ∃ q', q.put a = .ok q' ∧ q'.items = q.items ++ [a] :=
  ⟨_, dif_pos h, rfl⟩

/-- On a full queue, `put_nowait` raises. -/
theorem put_of_not_lt {q : Queue α maxsize} (h : ¬ q.items.length < maxsize) (a : α) :
    q.put a = .error .full :=
  dif_neg h

/-- On an empty one, `get_nowait` does. -/
theorem get_of_nil {q : Queue α maxsize} (h : q.items = []) : q.get = .error .empty := by
  obtain ⟨items, hlength⟩ := q
  cases h
  rfl

/-- The oldest item is got first. -/
theorem get_of_cons {q : Queue α maxsize} {a : α} {items : List α} (h : q.items = a :: items) :
    ∃ q', q.get = .ok (a, q') ∧ q'.items = items := by
  obtain ⟨_, hlength⟩ := q
  cases h
  exact ⟨⟨items, Nat.le_of_succ_le hlength⟩, rfl, rfl⟩

end Queue

/-! ### Positions -/

/-- The position behind the last of these. -/
def next (positions : List ℕ) : ℕ := positions.getLast?.elim 0 (· + 1)

/-- **The queue of a reader who got the items at these positions** of what was put: in the order
they were put, and what is left are the newest behind the last of them. -/
structure KeepsNewest (maxsize : ℕ) (log : List α) (positions : List ℕ) (items : List α) :
    Prop where
  increasing : positions.Pairwise (· < ·)
  lt_length : ∀ p ∈ positions, p < log.length
  items_eq : items = (log.drop (next positions)).rtake maxsize

section Lists

variable {l : List α} {n m : ℕ}

/-- A short list is its own end. -/
theorem rtake_of_length_le (h : l.length ≤ n) : l.rtake n = l := by
  rw [List.rtake, Nat.sub_eq_zero_of_le h, List.drop_zero]

/-- The end of a list does not reach its first element. -/
theorem rtake_cons_of_length_eq (a : α) (h : l.length = n) : (a :: l).rtake n = l := by
  rw [List.rtake, List.length_cons, h, Nat.add_sub_cancel_left]
  rfl

/-- The end of an end is an end. -/
theorem rtake_rtake (h : n ≤ m) : (l.rtake m).rtake n = l.rtake n := by
  rw [List.rtake, List.rtake, List.rtake, List.drop_drop, List.length_drop]
  congr 1
  omega

/-- What lies further back does not matter when one is added. -/
theorem rtake_append_rtake (a : α) : (l.rtake n ++ [a]).rtake n = (l ++ [a]).rtake n := by
  cases n with
  | zero => rw [List.rtake_zero, List.rtake_zero]
  | succ n => rw [List.rtake_concat_succ, List.rtake_concat_succ, rtake_rtake (Nat.le_succ n)]

end Lists

/-- The position read last is the one before the next. -/
theorem next_append (positions : List ℕ) (p : ℕ) : next (positions ++ [p]) = p + 1 := by
  simp [next]

/-- All positions read are before the next. -/
theorem lt_next {positions : List ℕ} {p : ℕ} (hinc : positions.Pairwise (· < ·))
    (h : p ∈ positions) : p < next positions := by
  rcases List.eq_nil_or_concat' positions with rfl | ⟨front, last, rfl⟩
  · cases h
  · rw [next_append]
    rcases List.mem_append.mp h with h | h
    · exact Nat.lt_succ_of_lt ((List.pairwise_append.mp hinc).2.2 p h last
      (List.mem_singleton_self last))
    · exact Nat.lt_succ_of_le (Nat.le_of_eq (List.mem_singleton.mp h))

namespace KeepsNewest

variable {log items : List α} {positions : List ℕ} {a : α}

/-- Nothing was put and nothing is there. -/
theorem nil : KeepsNewest maxsize ([] : List α) [] [] := ⟨.nil, by simp, by simp [List.rtake]⟩

/-- Nothing is read that was not put. -/
theorem next_le (h : KeepsNewest maxsize log positions items) : next positions ≤ log.length := by
  rcases List.eq_nil_or_concat' positions with rfl | ⟨front, last, rfl⟩
  · exact Nat.zero_le _
  · rw [next_append]
    exact h.lt_length last (List.mem_append_right front (List.mem_singleton_self last))

/-- **Putting** one more, the oldest being dropped if there is no place. -/
theorem put (h : KeepsNewest maxsize log positions items) (a : α) :
    KeepsNewest maxsize (log ++ [a]) positions ((items ++ [a]).rtake maxsize) where
  increasing := h.increasing
  lt_length p hp := by
    have hlt := h.lt_length p hp
    rw [List.length_append]
    omega
  items_eq := by
    rw [h.items_eq, rtake_append_rtake, List.drop_append_of_le_length h.next_le]

/-- **Getting** the first. -/
theorem get (h : KeepsNewest maxsize log positions (a :: items)) :
    ∃ p, log[p]? = some a ∧ KeepsNewest maxsize log (positions ++ [p]) items := by
  -- the item got stands behind the ones got before and the ones dropped since
  obtain ⟨p, hp⟩ : ∃ p, p = next positions + ((log.drop (next positions)).length - maxsize) :=
    ⟨_, rfl⟩
  have hdrop : log.drop p = a :: items := by
    rw [h.items_eq, List.rtake, List.drop_drop, hp]
  have hlength := congrArg List.length hdrop
  rw [List.length_drop, List.length_cons] at hlength
  have hbound : items.length ≤ maxsize := by
    rw [List.length_drop] at hp
    omega
  have hrest : log.drop (p + 1) = items := by
    rw [← List.drop_drop, hdrop]
    rfl
  refine ⟨p, ?_, ?_, ?_, ?_⟩
  · rw [← List.head?_drop, hdrop]
    rfl
  · refine List.pairwise_append.mpr ⟨h.increasing, List.pairwise_singleton _ _, fun q hq r hr ↦ ?_⟩
    have hlt := lt_next h.increasing hq
    rw [List.mem_singleton.mp hr]
    omega
  · intro q hq
    rcases List.mem_append.mp hq with hq | hq
    · exact h.lt_length q hq
    · rw [List.mem_singleton.mp hq]
      omega
  · rw [next_append, hrest, rtake_of_length_le hbound]

end KeepsNewest

end BoundedQueue
