import Mathlib.Algebra.Order.Field.Basic
import Mathlib.Tactic.Linarith

/-!
# Fixed windows

Events are counted in windows of one length: a window starts with an event that no window covers,
and covers the events of that length of time from then on. Windows need not be adjacent, but they do
not overlap (`Spaced`).

Two windows can meet an interval as long as they are, and no three (`countP_interval_le`): **a limit
per window bounds every such interval by twice the limit**, wherever it lies.

This is the guarantee of a fixed-window rate limiter, and it is sharp: a full window that ends and a
full one that begins lie in one interval. The window a program counts in is not the interval its
clients experience, so the factor of two is part of what it promises.

**Events carry the start of their window.** A limiter keeps a start and a count for each client;
that a new event is put into a window which covers it, or opens one behind all others, is what a
step has to show (`Spaced.append`), and the log with the starts is all that is left of the
algorithm. Times are a linear order to which lengths can be added,
and for the bound on intervals a linearly ordered field; nothing is assumed about how often events
arrive.

Events may be forgotten: a part of a spaced log is spaced (`Spaced.sublist`), which is what is
needed of a limiter that evicts clients from its table.
-/

namespace Windows

/-- An event, with the start of the window it is counted in. -/
structure Counted (T : Type*) where
  time : T
  start : T

section Spacing

variable {T : Type*} [Add T] [LinearOrder T]
variable {length : T} {log log' : List (Counted T)} {e : Counted T}

/-- **Windows of one length that do not overlap**, each event in the window it is counted in. -/
structure Spaced (length : T) (log : List (Counted T)) : Prop where
  within : ∀ e ∈ log, e.start ≤ e.time ∧ e.time < e.start + length
  apart : ∀ e ∈ log, ∀ f ∈ log,
    e.start = f.start ∨ e.start + length ≤ f.start ∨ f.start + length ≤ e.start

/-- How many events the window of a start counts. -/
def countOf (log : List (Counted T)) (start : T) : ℕ := log.countP fun e ↦ decide (e.start = start)

/-- No events, no windows. -/
theorem Spaced.nil : Spaced length [] :=
  ⟨fun _ h ↦ absurd h List.not_mem_nil, fun _ h ↦ absurd h List.not_mem_nil⟩

/-- Fewer events are spaced too. -/
theorem Spaced.sublist (h : Spaced length log) (hsub : log'.Sublist log) : Spaced length log' :=
  ⟨fun e he ↦ h.within e (hsub.subset he),
    fun e he f hf ↦ h.apart e (hsub.subset he) f (hsub.subset hf)⟩

/-- One more event: in the window of some of the events, or behind all of the windows. -/
theorem Spaced.append (h : Spaced length log)
    (hwithin : e.start ≤ e.time ∧ e.time < e.start + length)
    (hapart : ∀ f ∈ log, f.start = e.start ∨ f.start + length ≤ e.start) :
    Spaced length (log ++ [e]) := by
  refine ⟨fun f hf ↦ ?_, fun f hf g hg ↦ ?_⟩
  · rcases List.mem_append.mp hf with hf | hf
    · exact h.within f hf
    · rwa [List.mem_singleton.mp hf]
  · rcases List.mem_append.mp hf with hf | hf <;> rcases List.mem_append.mp hg with hg | hg
    · exact h.apart f hf g hg
    · rw [List.mem_singleton.mp hg]
      exact (hapart f hf).imp_right .inl
    · rw [List.mem_singleton.mp hf]
      exact (hapart g hg).imp Eq.symm .inr
    · rw [List.mem_singleton.mp hf, List.mem_singleton.mp hg]
      exact .inl rfl

end Spacing

/-- What meets one of two conditions is counted by one of them. -/
theorem countP_le_add {α : Type*} {p q r : α → Bool} {l : List α}
    (h : ∀ a ∈ l, p a = true → q a = true ∨ r a = true) :
    l.countP p ≤ l.countP q + l.countP r := by
  induction l with
  | nil => exact Nat.zero_le _
  | cons a l ih =>
    have htail := ih fun b hb ↦ h b (List.mem_cons_of_mem a hb)
    have hhead := h a List.mem_cons_self
    have hone : (if p a = true then 1 else 0) ≤
        (if q a = true then 1 else 0) + if r a = true then 1 else 0 := by
      split
      · rename_i hp
        rcases hhead hp with hq | hr
        · rw [if_pos hq]
          exact Nat.le_add_right 1 _
        · rw [if_pos hr]
          exact Nat.le_add_left 1 _
      · exact Nat.zero_le _
    rw [List.countP_cons, List.countP_cons, List.countP_cons]
    omega

section Interval

variable {T : Type*} [Field T] [LinearOrder T] [IsStrictOrderedRing T]
variable {length t : T} {log : List (Counted T)} {e f g : Counted T}

/-- No three windows meet an interval as long as they are. -/
theorem Spaced.start_eq_or (h : Spaced length log) (he : e ∈ log) (hf : f ∈ log) (hg : g ∈ log)
    (hte : t ≤ e.time ∧ e.time ≤ t + length) (htf : t ≤ f.time ∧ f.time ≤ t + length)
    (htg : t ≤ g.time ∧ g.time ≤ t + length) (hne : f.start ≠ e.start) :
    g.start = e.start ∨ g.start = f.start := by
  obtain ⟨he₁, he₂⟩ := h.within e he
  obtain ⟨hf₁, hf₂⟩ := h.within f hf
  obtain ⟨hg₁, hg₂⟩ := h.within g hg
  rcases h.apart g hg e he with hge | hge
  · exact .inl hge
  rcases h.apart g hg f hf with hgf | hgf
  · exact .inr hgf
  rcases h.apart f hf e he with hfe | hfe
  · exact absurd hfe hne
  exfalso
  rcases hge with hge | hge <;> rcases hgf with hgf | hgf <;> rcases hfe with hfe | hfe <;> linarith

/-- **A limit per window bounds every interval of their length by twice the limit.** -/
theorem Spaced.countP_interval_le {limit : ℕ} (h : Spaced length log)
    (hlimit : ∀ start, countOf log start ≤ limit) (t : T) :
    (log.countP fun e ↦ decide (t ≤ e.time ∧ e.time ≤ t + length)) ≤ 2 * limit := by
  by_cases hany : ∃ e ∈ log, t ≤ e.time ∧ e.time ≤ t + length
  · obtain ⟨e, he, hte⟩ := hany
    by_cases hother : ∃ f ∈ log, (t ≤ f.time ∧ f.time ≤ t + length) ∧ f.start ≠ e.start
    · obtain ⟨f, hf, htf, hne⟩ := hother
      have hcover : (log.countP fun e ↦ decide (t ≤ e.time ∧ e.time ≤ t + length)) ≤
          countOf log e.start + countOf log f.start := by
        refine countP_le_add fun g hg htg ↦ ?_
        simpa using h.start_eq_or he hf hg hte htf (by simpa using htg) hne
      have hboth := Nat.add_le_add (hlimit e.start) (hlimit f.start)
      omega
    · have hone : (log.countP fun e ↦ decide (t ≤ e.time ∧ e.time ≤ t + length)) ≤
          countOf log e.start := by
        refine List.countP_mono_left fun g hg htg ↦ ?_
        by_contra hne
        exact hother ⟨g, hg, by simpa using htg, by simpa using hne⟩
      have hle := hlimit e.start
      omega
  · have hnone : (log.countP fun e ↦ decide (t ≤ e.time ∧ e.time ≤ t + length)) = 0 :=
      List.countP_eq_zero.mpr fun e he hte ↦ hany ⟨e, he, by simpa using hte⟩
    omega

end Interval

end Windows
