import Mathlib.Logic.Relation
import Mathlib.Tactic.Common

/-!
# Runs of a labelled transition system

A system is a relation `Step s l s'`: in state `s` the action `l` may lead to `s'`. A run is a
`Relation.ReflTransGen` of steps, so everything Mathlib knows about chains applies. What is added is
the vocabulary of verification: runs all of whose steps meet a **condition** on the state before the
step and on the action, the invariant rule, and the rule for facts that hold between any two moments
of a run.

**Conditions are about the state before the step and the action**, never about what the step does.
That is what an environment can be asked to respect, and it is what makes a theorem over
`ReachesWith` say something about the program: the condition cannot smuggle in the result.

## The three rules

* `ReachesWith.invariant` is induction on the run, with the condition available at each step.
* `ReachesWith.related` is the same for a relation between two states, reflexive and transitive, and
  is what monotonicity, permanence and "nothing is lost" are stated with. It carries an invariant
  along, since most such facts hold of reachable states only.
* `ReachesWith.exists_step` goes back: what holds at the end and not at the start was brought about
  by one step, and the run is cut there into what came before and after.

Every theorem of this development that speaks of all runs is an application of one of them. A proof
that would do its own induction on a run has its invariant unnamed, and is better rewritten.
-/

namespace Runs

variable {σ L : Type*} (Step : σ → L → σ → Prop)

/-- One step whose state and action meet `C`. -/
def StepWith (C : σ → L → Prop) (s s' : σ) : Prop := ∃ l, C s l ∧ Step s l s'

/-- **A run** all of whose steps meet `C`. -/
def ReachesWith (C : σ → L → Prop) : σ → σ → Prop := Relation.ReflTransGen (StepWith Step C)

/-- A run without a condition. -/
def Reaches : σ → σ → Prop := ReachesWith Step fun _ _ ↦ True

variable {Step} {C : σ → L → Prop} {s s' s'' : σ}

/-- A run without a step. -/
theorem ReachesWith.refl (s : σ) : ReachesWith Step C s s := Relation.ReflTransGen.refl

/-- One step more, at the end. -/
theorem ReachesWith.tail {l : L} (h : ReachesWith Step C s s') (hc : C s' l)
    (hs : Step s' l s'') : ReachesWith Step C s s'' :=
  Relation.ReflTransGen.tail h ⟨l, hc, hs⟩

/-- A run without a step, and without a condition. -/
theorem Reaches.refl (s : σ) : Reaches Step s s := ReachesWith.refl s

/-- One step more. -/
theorem Reaches.tail {l : L} (h : Reaches Step s s') (hs : Step s' l s'') : Reaches Step s s'' :=
  ReachesWith.tail h trivial hs

/-- Runs one after the other. -/
theorem ReachesWith.trans (h : ReachesWith Step C s s') (h' : ReachesWith Step C s' s'') :
    ReachesWith Step C s s'' :=
  Relation.ReflTransGen.trans h h'

/-- A run that meets a condition is a run. -/
theorem ReachesWith.reaches (h : ReachesWith Step C s s') : Reaches Step s s' := by
  induction h with
  | refl => exact Reaches.refl s
  | tail _ hlast ih =>
    obtain ⟨l, -, hl⟩ := hlast
    exact ih.tail hl

/-- **The invariant rule.** What holds at the start and is kept by every step meeting the condition
holds throughout. -/
theorem ReachesWith.invariant {I : σ → Prop} (h : ReachesWith Step C s s') (hs : I s)
    (hstep : ∀ {a b : σ} {l : L}, I a → C a l → Step a l b → I b) : I s' := by
  induction h with
  | refl => exact hs
  | tail _ hlast ih =>
    obtain ⟨l, hc, hl⟩ := hlast
    exact hstep ih hc hl

/-- The invariant rule without a condition. -/
theorem Reaches.invariant {I : σ → Prop} (h : Reaches Step s s') (hs : I s)
    (hstep : ∀ {a b : σ} {l : L}, I a → Step a l b → I b) : I s' :=
  ReachesWith.invariant h hs fun hi _ hl ↦ hstep hi hl

/-- **The history rule.** A reflexive and transitive relation that every step of an invariant state
establishes between its two ends holds between any two moments of a run. -/
theorem ReachesWith.related {I : σ → Prop} {R : σ → σ → Prop} (h : ReachesWith Step C s s')
    (hs : I s) (hstep : ∀ {a b : σ} {l : L}, I a → C a l → Step a l b → I b ∧ R a b)
    (hrefl : ∀ a, R a a) (htrans : ∀ {a b c : σ}, R a b → R b c → R a c) : R s s' := by
  have hboth : I s' ∧ R s s' := by
    induction h with
    | refl => exact ⟨hs, hrefl s⟩
    | tail _ hlast ih =>
      obtain ⟨l, hc, hl⟩ := hlast
      obtain ⟨hi, hr⟩ := hstep ih.1 hc hl
      exact ⟨hi, htrans ih.2 hr⟩
  exact hboth.2

/-- **The step that did it.** What holds at the end of a run and not at its start came about in one
of the steps. -/
theorem ReachesWith.exists_step {P : σ → Prop} (h : ReachesWith Step C s s') (hs : ¬ P s)
    (hs' : P s') : ∃ a l b, ReachesWith Step C s a ∧ C a l ∧ Step a l b ∧ ReachesWith Step C b s' ∧
      ¬ P a ∧ P b := by
  induction h with
  | refl => exact absurd hs' hs
  | @tail b c hrun hlast ih =>
    by_cases hb : P b
    · obtain ⟨a, l, b', ha, hl, hstep, hafter, hna, hb'⟩ := ih hb
      exact ⟨a, l, b', ha, hl, hstep, Relation.ReflTransGen.tail hafter hlast, hna, hb'⟩
    · obtain ⟨l, hl, hstep⟩ := hlast
      exact ⟨b, l, c, hrun, hl, hstep, .refl c, hb, hs'⟩

end Runs
