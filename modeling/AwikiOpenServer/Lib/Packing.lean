import Mathlib.Algebra.Order.BigOperators.Group.List
import Mathlib.Algebra.Order.Ring.Nat
import Mathlib.Data.List.Infix
import Mathlib.Order.Lattice.Nat
import Mathlib.Tactic.Common

/-!
# Cutting a list into bins

A sequence is cut into consecutive **bins** that each fit some limit. The greedy cut closes a bin
only when the next element would not fit into it, and the one fact this file is about is that it
wastes nothing: where every contiguous part of a fitting bin fits, **no cut of the sequence, nor of
a longer sequence that ends in it, needs fewer bins** (`Greedy.length_le`).

Everything else is read off the least number of bins `minBins`. It is `noncomputable` and knows of
no algorithm, so a program that packs greedily is compared with it once and never unfolded again.

**The order is fixed.** Bins are consecutive parts of the sequence, so this is not the packing
problem that is hard: the greedy cut is optimal, and for one reason. Wherever one of its bins ends,
any other cut has ended its bin there or before (`suffix_of_full`), since otherwise a contiguous
part of that other bin would be the greedy bin and one element more, which does not fit.

**Longer sequences are included from the start.** What is packed is often chosen from its end
backwards, the newest first, and one wants to know that dropping elements from the front never needs
more bins. Stating the optimality for a sequence that ends in the given one costs nothing in the
induction and gives this at once (`Packable.suffix`, `minBins_cons_le`).

`fits` is a predicate on lists and not a sum of sizes: a bin has overhead, separators and a
representation, and only closure under contiguous parts (`InfixClosed`) is ever used.
-/

namespace Packing

variable {α : Type*} {fits : List α → Prop} {xs ys zs : List α} {bins cs : List (List α)} {k : ℕ}

/-- The bins hold the sequence in order, and each of them fits. -/
structure IsPacking (fits : List α → Prop) (bins : List (List α)) (xs : List α) : Prop where
  flatten : bins.flatten = xs
  fits : ∀ b ∈ bins, fits b

/-- The sequence can be cut into at most `k` bins. -/
def Packable (fits : List α → Prop) (k : ℕ) (xs : List α) : Prop :=
  ∃ bins, IsPacking fits bins xs ∧ bins.length ≤ k

/-- The greedy cut: a bin is closed at the end of the sequence, or in front of an element that does
not fit into it any more. -/
inductive Greedy (fits : List α → Prop) : List α → List (List α) → Prop where
  | nil : Greedy fits [] []
  | cons {b rest : List α} {bins : List (List α)} (hne : b ≠ []) (hfits : fits b)
      (hfull : ∀ y ∈ rest.head?, ¬ fits (b ++ [y])) (hrest : Greedy fits rest bins) :
      Greedy fits (b ++ rest) (b :: bins)

/-- A contiguous part of a bin that fits, fits. -/
def InfixClosed (fits : List α → Prop) : Prop := ∀ ⦃b c⦄, b <:+: c → fits c → fits b

/-! ### The greedy cut is a cut -/

/-- The greedy cut holds the sequence, and each of its bins fits. -/
theorem Greedy.isPacking (h : Greedy fits xs bins) : IsPacking fits bins xs := by
  induction h with
  | nil => exact ⟨rfl, by simp⟩
  | cons hne hfits hfull hrest ih =>
    refine ⟨by rw [List.flatten_cons, ih.flatten], fun b hb ↦ ?_⟩
    rcases List.mem_cons.mp hb with rfl | hb
    · exact hfits
    · exact ih.fits b hb

/-- None of its bins is empty. -/
theorem Greedy.ne_nil (h : Greedy fits xs bins) : ∀ b ∈ bins, b ≠ [] := by
  induction h with
  | nil => simp
  | cons hne hfits hfull hrest ih =>
    intro b hb
    rcases List.mem_cons.mp hb with rfl | hb
    · exact hne
    · exact ih b hb

/-! ### It is the shortest one -/

/-- Where a bin of the greedy cut ends, the first bin of any other cut has ended too. -/
theorem suffix_of_full {b rest c : List α} (hclosed : InfixClosed fits) (hc : fits c)
    (hfull : ∀ y ∈ rest.head?, ¬ fits (b ++ [y])) (hsuffix : b ++ rest <:+ c ++ zs) :
    rest <:+ zs := by
  obtain ⟨t, ht⟩ := hsuffix
  rcases List.append_eq_append_iff.mp ht with ⟨d, rfl, hd⟩ | ⟨d, -, rfl⟩
  -- The greedy bin begins inside `c`, at `d`; it must also reach the end of `c`.
  · rcases List.append_eq_append_iff.mp hd with ⟨e, rfl, hrest⟩ | ⟨e, rfl, rfl⟩
    · cases e with
      | nil => exact ⟨[], by simpa using hrest⟩
      | cons y e =>
        have hinfix : b ++ [y] <:+: t ++ (b ++ y :: e) := ⟨t, e, by simp⟩
        exact absurd (hclosed hinfix hc) (hfull y (by rw [hrest]; rfl))
    · exact List.suffix_append e rest
  · exact ⟨d ++ b, by simp⟩

/-- **Greedy bins are as few as possible**, and fewer elements never need more of them. -/
theorem Greedy.length_le (hclosed : InfixClosed fits) (h : Greedy fits xs bins)
    (hsuffix : xs <:+ zs) (hcs : IsPacking fits cs zs) : bins.length ≤ cs.length := by
  induction cs generalizing xs bins zs with
  | nil =>
    obtain rfl : zs = [] := hcs.flatten.symm
    obtain rfl : xs = [] := List.suffix_nil.mp hsuffix
    have hnil : bins = [] := by
      refine List.eq_nil_iff_forall_not_mem.mpr fun b hb ↦ h.ne_nil b hb ?_
      exact List.flatten_eq_nil_iff.mp h.isPacking.flatten b hb
    exact (congrArg List.length hnil).le
  | cons c cs ih =>
    cases h with
    | nil => exact Nat.zero_le _
    | cons hne hfits hfull hrest =>
      rw [← hcs.flatten, List.flatten_cons] at hsuffix
      have hlater := suffix_of_full hclosed (hcs.fits c (by simp)) hfull hsuffix
      have htail : IsPacking fits cs cs.flatten :=
        ⟨rfl, fun b hb ↦ hcs.fits b (List.mem_cons_of_mem c hb)⟩
      exact Nat.succ_le_succ (ih hrest hlater htail)

/-- A cut of a sequence, cut down to an end of it. -/
theorem Packable.suffix (hclosed : InfixClosed fits) (h : Packable fits k xs)
    (hsuffix : ys <:+ xs) : Packable fits k ys := by
  obtain ⟨bins, hbins, hlen⟩ := h
  suffices ∃ cs, IsPacking fits cs ys ∧ cs.length ≤ bins.length by
    obtain ⟨cs, hcs, hle⟩ := this
    exact ⟨cs, hcs, hle.trans hlen⟩
  clear hlen
  induction bins generalizing xs with
  | nil =>
    obtain rfl : xs = [] := hbins.flatten.symm
    exact ⟨[], ⟨(List.suffix_nil.mp hsuffix).symm, by simp⟩, le_rfl⟩
  | cons b bins ih =>
    have htail : IsPacking fits bins bins.flatten :=
      ⟨rfl, fun c hc ↦ hbins.fits c (List.mem_cons_of_mem b hc)⟩
    obtain ⟨t, ht⟩ := hsuffix
    rw [← hbins.flatten, List.flatten_cons] at ht
    rcases List.append_eq_append_iff.mp ht with ⟨d, rfl, rfl⟩ | ⟨d, -, hd⟩
    -- The end begins inside the first bin, at `d`.
    · refine ⟨d :: bins, ⟨List.flatten_cons, fun c hc ↦ ?_⟩, le_rfl⟩
      rcases List.mem_cons.mp hc with rfl | hc
      · exact hclosed (List.suffix_append t c).isInfix (hbins.fits _ List.mem_cons_self)
      · exact hbins.fits c (List.mem_cons_of_mem _ hc)
    · obtain ⟨cs, hcs, hle⟩ := ih ⟨d, hd.symm⟩ htail
      exact ⟨cs, hcs, Nat.le_succ_of_le hle⟩

/-! ### The least number of bins -/

/-- The least number of bins the sequence can be cut into. -/
noncomputable def minBins (fits : List α → Prop) (xs : List α) : ℕ :=
  sInf {k | Packable fits k xs}

/-- Any cut bounds the least number. -/
theorem minBins_le (h : Packable fits k xs) : minBins fits xs ≤ k := Nat.sInf_le h

/-- Nothing needs no bin. -/
@[simp] theorem minBins_nil : minBins fits [] = 0 :=
  Nat.le_zero.mp (minBins_le ⟨[], ⟨rfl, by simp⟩, le_rfl⟩)

/-- The greedy cut has as many bins as are needed. -/
theorem Greedy.length_eq (hclosed : InfixClosed fits) (h : Greedy fits xs bins) :
    bins.length = minBins fits xs := by
  have hself : Packable fits bins.length xs := ⟨bins, h.isPacking, le_rfl⟩
  refine le_antisymm ?_ (minBins_le hself)
  obtain ⟨cs, hcs, hlen⟩ := Nat.sInf_mem (s := {k | Packable fits k xs}) ⟨_, hself⟩
  exact (h.length_le hclosed (List.suffix_refl xs) hcs).trans hlen

/-- One more element in front takes at most one more bin. -/
theorem minBins_cons_le {x : α} (hx : fits [x]) (hxs : ∃ k, Packable fits k xs) :
    minBins fits (x :: xs) ≤ minBins fits xs + 1 := by
  obtain ⟨bins, hbins, hlen⟩ := Nat.sInf_mem (s := {k | Packable fits k xs}) hxs
  refine minBins_le ⟨[x] :: bins, ⟨?_, ?_⟩, Nat.succ_le_succ hlen⟩
  · rw [List.flatten_cons, hbins.flatten]
    rfl
  · intro b hb
    rcases List.mem_cons.mp hb with rfl | hb
    · exact hx
    · exact hbins.fits b hb

/-- Something needs one. -/
theorem minBins_pos (h : ∃ k, Packable fits k xs) (hne : xs ≠ []) : 0 < minBins fits xs := by
  obtain ⟨bins, hbins, hlen⟩ := Nat.sInf_mem (s := {k | Packable fits k xs}) h
  rcases Nat.eq_zero_or_pos (minBins fits xs) with hzero | hpos
  · have hnil : bins = [] := List.eq_nil_of_length_eq_zero (Nat.le_zero.mp (hzero ▸ hlen))
    exact absurd (by rw [← hbins.flatten, hnil]; rfl) hne
  · exact hpos

/-- Where a bin takes at most `n` of the elements, there are enough bins for all of them. -/
theorem length_le_minBins_mul {n : ℕ} (hsmall : ∀ b, b ⊆ xs → fits b → b.length ≤ n)
    (h : ∃ k, Packable fits k xs) : xs.length ≤ minBins fits xs * n := by
  obtain ⟨bins, hbins, hlen⟩ := Nat.sInf_mem (s := {k | Packable fits k xs}) h
  calc xs.length = (bins.map List.length).sum := by rw [← hbins.flatten, List.length_flatten]
    _ ≤ (bins.map List.length).length * n := by
      refine List.sum_le_card_nsmul _ _ fun m hm ↦ ?_
      obtain ⟨b, hb, rfl⟩ := List.mem_map.mp hm
      have hsub : b ⊆ xs := fun x hx ↦ hbins.flatten ▸ List.mem_flatten.mpr ⟨b, hb, hx⟩
      exact hsmall b hsub (hbins.fits b hb)
    _ ≤ minBins fits xs * n := Nat.mul_le_mul_right n (by rw [List.length_map]; exact hlen)

end Packing
