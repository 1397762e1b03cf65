import Mathlib.Algebra.BigOperators.Group.List.Basic
import Mathlib.Data.List.Sort

/-!
# Reading a table by its key

A table is read page by page in the order of a key: a page is the first `limit` rows after a cursor,
and the key of its last row is the next cursor. Nothing is kept between two pages but the cursor, so
a row is missed or read twice unless rows arrive in the order of their keys.

Where they do (`Appended`) and no two rows have the same key, what is after a cursor is only ever
extended at its end (`Appended.after_isPrefix`), and the pages of any reader, whatever is appended
on the way, are what is after the first cursor without what is after the last one
(`Reads.flatten_append`).

**The result is an equation, not two inclusions.** Completeness, order and the absence of duplicates
are all in it: the pages, laid end to end, and what is still to come, are the rows after the first
cursor. A reader that stops early has a prefix; one that stops where there is no more has
everything.

**Both assumptions are used, and in different places.** Different keys make the order strict, which
is what the cut behind a page rests on (`after_next`). Arrival in order is what makes an earlier
page still a page of the later table. A program that numbers its rows without a gap has both; one
that takes its keys from a clock has neither for certain.

A page may be short, and even empty, without being the last: `Reads` asks for a limit of at least
one and for nothing else, since pages are filtered in practice after they are cut. Where each page
has a row, the number of pages is bounded (`Reads.length_le`), and so the reading comes to an end.
-/

namespace Keyset

variable {α κ : Type*} [LinearOrder κ] {key : α → κ} {rows later final p q : List α} {c c' : κ}
  {limit : ℕ} {pages : List (List α)}

/-- The rows after a cursor, in the order of their keys. -/
def after (key : α → κ) (rows : List α) (c : κ) : List α :=
  (rows.filter fun r ↦ c < key r).insertionSort fun a b ↦ key a ≤ key b

/-- The first rows after a cursor. -/
def page (key : α → κ) (rows : List α) (c : κ) (limit : ℕ) : List α := (after key rows c).take limit

/-- The cursor behind a page: the key of its last row. -/
def next (key : α → κ) (c : κ) (p : List α) : κ := (p.getLast?.map key).getD c

/-- `later` is `rows` and rows with larger keys. -/
def Appended (key : α → κ) (rows later : List α) : Prop :=
  ∃ new, later.Perm (rows ++ new) ∧ ∀ r ∈ rows, ∀ n ∈ new, key r < key n

/-- Behind a cursor are the rows with a larger key. -/
@[simp] theorem mem_after {r : α} : r ∈ after key rows c ↔ r ∈ rows ∧ c < key r := by
  simp [after]

/-- No two rows have the same key, so the order is strict. -/
theorem pairwise_after (hdistinct : (rows.map key).Nodup) (c : κ) :
    (after key rows c).Pairwise fun a b ↦ key a < key b := by
  have htotal : Std.Total fun a b : α ↦ key a ≤ key b := ⟨fun a b ↦ le_total (key a) (key b)⟩
  have htrans : IsTrans α fun a b ↦ key a ≤ key b := ⟨fun _ _ _ ↦ le_trans⟩
  have hle : (after key rows c).Pairwise fun a b ↦ key a ≤ key b :=
    List.pairwise_insertionSort _ _
  have hne : (after key rows c).Pairwise fun a b ↦ key a ≠ key b := by
    refine List.pairwise_map.mp ?_
    have hperm : (after key rows c).Perm (rows.filter fun r ↦ c < key r) :=
      List.perm_insertionSort _ _
    exact (hperm.map key).nodup_iff.mpr (hdistinct.sublist (List.filter_sublist.map key))
  exact (hle.and hne).imp fun h ↦ lt_of_le_of_ne h.1 h.2

/-- Two lists in the order of their keys, with the same rows. -/
theorem eq_of_pairwise_of_mem_iff (hp : p.Pairwise fun a b ↦ key a < key b)
    (hq : q.Pairwise fun a b ↦ key a < key b) (hmem : ∀ r, r ∈ p ↔ r ∈ q) : p = q := by
  have hirrefl : Std.Irrefl fun a b : α ↦ key a < key b := ⟨fun a ↦ lt_irrefl (key a)⟩
  exact List.Pairwise.eq_of_mem_iff hp hq hmem

/-! ### Cutting a page -/

/-- **The rows behind a page are those after its cursor.** -/
theorem after_next (hdistinct : (rows.map key).Nodup) (h : after key rows c = p ++ q) :
    after key rows (next key c p) = q := by
  have hsorted := h ▸ pairwise_after hdistinct c
  refine eq_of_pairwise_of_mem_iff (pairwise_after hdistinct _)
    (hsorted.sublist (List.sublist_append_right p q)) fun r ↦ ?_
  have hcut : r ∈ p ++ q ↔ r ∈ rows ∧ c < key r := by
    rw [← h, mem_after]
  rw [mem_after]
  rcases p.eq_nil_or_concat' with rfl | ⟨init, x, rfl⟩
  · exact hcut.symm
  · have hlast : next key c (init ++ [x]) = key x := by
      rw [next, List.getLast?_concat]
      rfl
    obtain ⟨hinit, -, hbefore⟩ := List.pairwise_append.mp hsorted
    have hx : c < key x := by
      have hmem : x ∈ after key rows c := by
        rw [h]
        simp
      exact (mem_after.mp hmem).2
    rw [hlast]
    constructor
    · rintro ⟨hr, hlt⟩
      refine (List.mem_append.mp (hcut.mpr ⟨hr, hx.trans hlt⟩)).resolve_left fun hpage ↦ ?_
      -- A row of the page is not after its last row.
      rcases List.mem_append.mp hpage with hpage | hpage
      · have hle := (List.pairwise_append.mp hinit).2.2 r hpage x (List.mem_singleton_self x)
        exact lt_asymm hlt hle
      · exact lt_irrefl _ (List.mem_singleton.mp hpage ▸ hlt)
    · intro hr
      exact ⟨(hcut.mp (List.mem_append_right _ hr)).1, hbefore x (by simp) r hr⟩

/-- Behind a page is what is left of the rows after its cursor. -/
theorem after_next_page (hdistinct : (rows.map key).Nodup) (c : κ) (limit : ℕ) :
    after key rows (next key c (page key rows c limit)) = (after key rows c).drop limit :=
  after_next hdistinct (List.take_append_drop limit _).symm

/-- **There is more behind a page** exactly when some row has a larger key than its cursor. -/
theorem lt_length_after_iff (hdistinct : (rows.map key).Nodup) :
    limit < (after key rows c).length ↔
      ∃ r ∈ rows, next key c (page key rows c limit) < key r := by
  have hdrop := after_next_page hdistinct c limit
  rw [← List.length_pos_iff_exists_mem.trans (exists_congr fun r ↦ mem_after), hdrop,
    List.length_drop]
  omega

/-- Cursors only move on. -/
theorem le_next (key : α → κ) (rows : List α) (c : κ) (limit : ℕ) :
    c ≤ next key c (page key rows c limit) := by
  rcases (page key rows c limit).eq_nil_or_concat' with hpage | ⟨init, x, hpage⟩
  · rw [hpage]
    exact le_rfl
  · have hmem : x ∈ after key rows c := by
      refine List.mem_of_mem_take (i := limit) ?_
      rw [← page, hpage]
      simp
    rw [hpage, next, List.getLast?_concat]
    exact (mem_after.mp hmem).2.le

/-! ### Rows are appended -/

namespace Appended

/-- Nothing has been appended. -/
theorem refl (key : α → κ) (rows : List α) : Appended key rows rows := ⟨[], by simp, by simp⟩

/-- Rows that were there are there. -/
theorem subset (h : Appended key rows later) : rows ⊆ later := by
  obtain ⟨new, hperm, -⟩ := h
  exact fun r hr ↦ hperm.mem_iff.mpr (List.mem_append_left _ hr)

/-- What was appended twice was appended. -/
theorem trans (h : Appended key rows later) (h' : Appended key later final) :
    Appended key rows final := by
  have hsubset := h.subset
  obtain ⟨new, hperm, hlarger⟩ := h
  obtain ⟨new', hperm', hlarger'⟩ := h'
  refine ⟨new ++ new', ?_, fun r hr n hn ↦ ?_⟩
  · rw [← List.append_assoc]
    exact hperm'.trans (hperm.append_right new')
  · rcases List.mem_append.mp hn with hn | hn
    · exact hlarger r hr n hn
    · exact hlarger' r (hsubset hr) n hn

/-- Keys that are different in the end were different before. -/
theorem nodup (h : Appended key rows later) (hdistinct : (later.map key).Nodup) :
    (rows.map key).Nodup := by
  obtain ⟨new, hperm, -⟩ := h
  have hall : (rows.map key ++ new.map key).Nodup := by
    rw [← List.map_append]
    exact (hperm.map key).nodup_iff.mp hdistinct
  exact hall.of_append_left

/-- **What is after a cursor is only extended at its end.** -/
theorem after_isPrefix (h : Appended key rows later) (hdistinct : (later.map key).Nodup) (c : κ) :
    after key rows c <+: after key later c := by
  have hrows := h.nodup hdistinct
  obtain ⟨new, hperm, hlarger⟩ := h
  have hnew : (new.map key).Nodup := by
    have hall : (rows.map key ++ new.map key).Nodup := by
      rw [← List.map_append]
      exact (hperm.map key).nodup_iff.mp hdistinct
    exact hall.of_append_right
  refine ⟨after key new c, eq_of_pairwise_of_mem_iff ?_ (pairwise_after hdistinct c) fun r ↦ ?_⟩
  · refine List.pairwise_append.mpr ⟨pairwise_after hrows c, pairwise_after hnew c, ?_⟩
    exact fun r hr n hn ↦ hlarger r (mem_after.mp hr).1 n (mem_after.mp hn).1
  · rw [List.mem_append, mem_after, mem_after, mem_after, ← or_and_right, ← List.mem_append,
      hperm.mem_iff]

end Appended

/-! ### Page after page -/

/-- **A reader**: pages of at least one row at most, each after the cursor of the one before, with
rows appended in between; and the rows and the cursor it has come to. -/
inductive Reads (key : α → κ) : List α → κ → List (List α) → List α → κ → Prop where
  | nil (rows : List α) (c : κ) : Reads key rows c [] rows c
  | cons {rows later final : List α} {c c' : κ} {limit : ℕ} {pages : List (List α)}
      (hlater : Appended key rows later)
      (hrest : Reads key later (next key c (page key rows c limit)) pages final c') :
      Reads key rows c (page key rows c limit :: pages) final c'

namespace Reads

/-- A reader sees a table that has been appended to. -/
theorem appended (h : Reads key rows c pages final c') : Appended key rows final := by
  induction h with
  | nil rows c => exact .refl key rows
  | cons hlater hrest ih => exact hlater.trans ih

/-- **Nothing is missed or read twice**: the pages, and what is after the last cursor, are what is
after the first one. -/
theorem flatten_append (h : Reads key rows c pages final c')
    (hdistinct : (final.map key).Nodup) :
    pages.flatten ++ after key final c' = after key final c := by
  induction h with
  | nil rows c => rfl
  | @cons rows later final c c' limit pages hlater hrest ih =>
    rw [List.flatten_cons, List.append_assoc, ih hdistinct]
    obtain ⟨more, hmore⟩ := (hlater.trans hrest.appended).after_isPrefix hdistinct c
    have hcut : after key final c = page key rows c limit ++
        ((after key rows c).drop limit ++ more) := by
      rw [← hmore, page, ← List.append_assoc, List.take_append_drop]
    rw [after_next hdistinct hcut, hcut]

/-- A reader that always gets a row has read as many rows as pages. -/
theorem length_le (h : Reads key rows c pages final c') (hdistinct : (final.map key).Nodup)
    (hsome : ∀ p ∈ pages, p ≠ []) : pages.length ≤ (after key final c).length := by
  have hall := congrArg List.length (h.flatten_append hdistinct)
  have hrows : pages.length ≤ pages.flatten.length := by
    rw [List.length_flatten]
    refine le_of_eq_of_le (List.length_map List.length).symm (List.length_le_sum_of_one_le _ ?_)
    intro n hn
    obtain ⟨p, hp, rfl⟩ := List.mem_map.mp hn
    exact List.length_pos_of_ne_nil (hsome p hp)
  rw [List.length_append] at hall
  omega

end Reads

end Keyset
