import Mathlib.Data.List.Nodup
import Mathlib.Data.Nat.Notation

/-!
# Reading a list by offsets

A list is read page by page: a page is what stands behind an offset, at most `limit` long, and the
next offset is where it ends. While the list stays the same, a reader who goes on as long as there
is more has read what stood behind the first offset (`Reads.flatten`), and comes to an end
(`next_induction`).

**While the list stays the same** is the whole difference to reading by a key. An offset is a place
in a list as it was when it was counted; if something is inserted in front, a reader sees an entry
twice, and if something is taken away, it misses one. Nothing is claimed here for a list that
changes.

What is paged may itself be cut: the first `n` of one list, the `fresh` ones among the first `n` of
another, and no more than `n` together. **Such a list is as long as the two without any limit
exactly when the limits cut nothing off** (`length_capped_eq_iff`).

That is the second half, and it is about a common mistake: two sources are each asked for a limited
number of rows, merged, and limited again, and the merged list is then paged as if it were all there
is. The characterization is by lengths, because the list without limits and the cut one are compared
as lists of one order; equality of lengths is where nothing is missing. An entry that only the
second source has is lost as soon as it stands beyond its limit, and an entry that both have is not,
which is why the condition looks into the first list.
-/

namespace Offsets

variable {α β κ : Type*}

section Pages

variable {items : List α} {offset limit : ℕ} {pages : List (List α)}

/-- The page at an offset. -/
def page (items : List α) (offset limit : ℕ) : List α := (items.drop offset).take limit

/-- The offset behind a page. -/
def next (items : List α) (offset limit : ℕ) : ℕ := offset + (page items offset limit).length

/-- The pages of a reader who goes on while there is more. -/
inductive Reads (items : List α) (limit : ℕ) : ℕ → List (List α) → Prop where
  | last {offset : ℕ} (hend : ¬ next items offset limit < items.length) :
      Reads items limit offset [page items offset limit]
  | more {offset : ℕ} {pages : List (List α)} (hmore : next items offset limit < items.length)
      (hrest : Reads items limit (next items offset limit) pages) :
      Reads items limit offset (page items offset limit :: pages)

/-- Behind a page stands the rest. -/
theorem page_append_drop (items : List α) (offset limit : ℕ) :
    page items offset limit ++ items.drop (next items offset limit) = items.drop offset := by
  have hlength : (page items offset limit).length = min limit (items.drop offset).length :=
    List.length_take
  rw [next, ← List.drop_drop, hlength]
  rcases Nat.le_total limit (items.drop offset).length with hle | hle
  · rw [Nat.min_eq_left hle, page, List.take_append_drop]
  · rw [Nat.min_eq_right hle, page, List.take_of_length_le hle, List.drop_length, List.append_nil]

/-- **A reader has read what stood behind the first offset.** -/
theorem Reads.flatten (h : Reads items limit offset pages) : pages.flatten = items.drop offset := by
  induction h with
  | last hend =>
    rename_i offset
    have hrest := page_append_drop items offset limit
    rw [List.drop_of_length_le (Nat.not_lt.mp hend)] at hrest
    rwa [List.flatten_cons, List.flatten_nil]
  | more hmore hrest ih =>
    rw [List.flatten_cons, ih, page_append_drop]

/-- Offsets stay within the list. -/
theorem next_le (h : offset ≤ items.length) (limit : ℕ) :
    next items offset limit ≤ items.length := by
  have hlength : (page items offset limit).length ≤ (items.drop offset).length :=
    List.length_take_le' limit _
  rw [List.length_drop] at hlength
  rw [next]
  omega

/-- A page that is not the last one goes on. -/
theorem lt_next (hlimit : 1 ≤ limit) (hmore : next items offset limit < items.length) :
    offset < next items offset limit := by
  have hlength : (page items offset limit).length = min limit (items.length - offset) := by
    rw [page, List.length_take, List.length_drop]
  rw [next] at hmore ⊢
  omega

/-- **Going on comes to an end**: what holds where there is no more, and before any offset behind
which it holds, holds at every offset. -/
theorem next_induction {P : ℕ → Prop} (hlimit : 1 ≤ limit)
    (last : ∀ offset, ¬ next items offset limit < items.length → P offset)
    (more : ∀ offset, next items offset limit < items.length → P (next items offset limit) →
      P offset) (offset : ℕ) : P offset := by
  induction hn : items.length - offset using Nat.strongRecOn generalizing offset with
  | ind n ih =>
    by_cases hmore : next items offset limit < items.length
    · have hlt := lt_next hlimit hmore
      exact more offset hmore (ih _ (by omega) _ rfl)
    · exact last offset hmore

end Pages

/-! ### A list that was cut -/

section Fresh

variable [DecidableEq κ] (f : α → κ) (g : β → κ) (a : List α) (b : List β) (n : ℕ)

/-- The entries of `b` whose key none of `a` has. -/
def fresh : List β := b.filter fun y ↦ decide (g y ∉ a.map f)

/-- Fresh is what the first list does not name. -/
theorem mem_fresh {y : β} : y ∈ fresh f g a b ↔ y ∈ b ∧ g y ∉ a.map f := by
  rw [fresh, List.mem_filter, decide_eq_true_iff]

variable {a b} in
/-- What is fresh does not depend on the order. -/
theorem fresh_perm {a' : List α} {b' : List β} (ha : a.Perm a') (hb : b.Perm b') :
    (fresh f g a b).Perm (fresh f g a' b') := by
  have hkeys : ∀ y, decide (g y ∉ a.map f) = decide (g y ∉ a'.map f) := fun y ↦ by
    simp only [(ha.map f).mem_iff]
  rw [fresh, List.filter_congr fun y _ ↦ hkeys y]
  exact hb.filter _

/-- A limit on the second list only takes fresh entries away, in their order. -/
theorem fresh_take_sublist : (fresh f g a (b.take n)).Sublist (fresh f g a b) :=
  (List.take_sublist n b).filter _

/-- A limit cuts no fresh entry off exactly when all that it cuts off is known. -/
theorem length_fresh_take_eq_iff :
    (fresh f g a (b.take n)).length = (fresh f g a b).length ↔ ∀ y ∈ b.drop n, g y ∈ a.map f := by
  have hsplit : fresh f g a b = fresh f g a (b.take n) ++ fresh f g a (b.drop n) := by
    rw [fresh, fresh, fresh, ← List.filter_append, List.take_append_drop]
  have hnone : fresh f g a (b.drop n) = [] ↔ ∀ y ∈ b.drop n, g y ∈ a.map f := by
    rw [fresh, List.filter_eq_nil_iff]
    simp only [decide_eq_true_iff, not_not]
  rw [← hnone, ← List.length_eq_zero_iff, hsplit, List.length_append]
  omega

/-- A cut list is not longer than the two it was made of. -/
theorem length_capped_le :
    min n ((a.take n).length + (fresh f g (a.take n) (b.take n)).length) ≤
      a.length + (fresh f g a b).length := by
  rcases Nat.le_total a.length n with hle | hle
  · have hfresh := (fresh_take_sublist f g a b n).length_le
    rw [List.take_of_length_le hle]
    omega
  · omega

/-- **Nothing is cut off** exactly when both lists together are within the limit, and all of the
second that is beyond it is in the first. -/
theorem length_capped_eq_iff :
    min n ((a.take n).length + (fresh f g (a.take n) (b.take n)).length) =
        a.length + (fresh f g a b).length ↔
      a.length + (fresh f g a b).length ≤ n ∧ ∀ y ∈ b.drop n, g y ∈ a.map f := by
  rcases Nat.lt_or_ge n a.length with hlt | hle
  · omega
  · have hfresh := (fresh_take_sublist f g a b n).length_le
    rw [List.take_of_length_le hle, ← length_fresh_take_eq_iff]
    omega

/-- What is left of both lists when nothing is cut off. -/
theorem capped_of_length_le (hle : a.length + (fresh f g a b).length ≤ n)
    (hknown : ∀ y ∈ b.drop n, g y ∈ a.map f) :
    a.take n = a ∧ fresh f g (a.take n) (b.take n) = fresh f g a b := by
  have htake : a.take n = a := List.take_of_length_le (by omega)
  have hlength := (length_fresh_take_eq_iff f g a b n).mpr hknown
  exact ⟨htake, by rw [htake, (fresh_take_sublist f g a b n).eq_of_length hlength]⟩

end Fresh

end Offsets
