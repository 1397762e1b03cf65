import AwikiOpenServer.Lib.Transactions

/-!
# Commits in order

Connections serve **requests**, and a request is served by the program `prog` gives it. Beside the
database the state keeps which request each connection was started with, and the history: the
requests that have written and committed, each with its result, in the order of their commits.

One writer at a time makes that order a serial one. `Serving.serial` says so: if every request, run
from the committed state in which it takes the lock, leaves a state and a result that `G` allows,
then what is committed is what a chain of such `G`-steps makes of the initial state, one for each
entry of the history. A run may be restricted by a condition `C` on the moment a request takes the
lock: the history so far, the state the request last read, and the committed state it finds. Facts
about interleavings become inductions along `Chain`.

## What this buys

A property of all interleavings of all requests is proved in two independent steps. For one request,
on its own statements: what it makes of the committed state it takes the lock in (`Owes`). For the
history: an induction on a list in which each entry is one such step (`Chain.invariant`), with no
connection, no lock and no half-done request in sight. The theorem in between, `Reachable.serial`,
is proved once.

`G` sees the history so far, so a step may say what has happened before it: that a token was issued,
that a version was published. Invariants about histories and invariants about states are then one
induction.

## Conditions on a run

`C` is asked at the moment a request takes the lock, and of nothing else. It is what a theorem
assumes of the environment where the code itself does not look again: that what the request read
last is what it finds. Without a condition every schedule is a run (`reachable_schedule`).

For a concrete schedule, `runAll` computes the state reached and `admitsAll` whether its events meet
a decidable condition, so an example of a run is an evaluation.
-/

namespace Transactions

/-- A database that serves requests. -/
structure Serving (ι S E ρ α : Type) where
  world : World ι S E α
  request : ι → Option ρ
  history : List (ρ × α)

/-- What may happen next. -/
inductive Event (ι ρ : Type) where
  | start (i : ι) (r : ρ)
  | advance (i : ι)
  | cutOff (i : ι)

/-- **A serial history**: commits one after the other, each a step of `G` from the state before it.
`G` may look at the history so far. -/
inductive Chain {S ρ α : Type} (G : List (ρ × α) → ρ → S → α → S → Prop) (s₀ : S) :
    List (ρ × α) → S → Prop where
  | nil : Chain G s₀ [] s₀
  | snoc {h : List (ρ × α)} {s s' : S} {r : ρ} {a : α} (before : Chain G s₀ h s)
      (commit : G h r s a s') : Chain G s₀ (h ++ [(r, a)]) s'

namespace Chain

variable {S ρ α : Type} {G : List (ρ × α) → ρ → S → α → S → Prop} {s₀ s : S} {h : List (ρ × α)}

/-- **Induction along a history**: what holds of the initial state and is kept by every commit. -/
theorem invariant {I : List (ρ × α) → S → Prop} (hc : Chain G s₀ h s) (hI : I [] s₀)
    (hstep : ∀ {h r s a s'}, I h s → G h r s a s' → I (h ++ [(r, a)]) s') : I h s := by
  induction hc with
  | nil => exact hI
  | snoc _ hG ih => exact hstep ih hG

/-- An invariant may be used while the next is proved. -/
theorem mono {G' : List (ρ × α) → ρ → S → α → S → Prop} (hc : Chain G s₀ h s)
    (hG : ∀ {h r s a s'}, G h r s a s' → G' h r s a s') : Chain G' s₀ h s := by
  induction hc with
  | nil => exact .nil
  | snoc _ hstep ih => exact .snoc ih (hG hstep)

end Chain

namespace Program

variable {S E α : Type} {I : S → Prop} {R : Option S → S → S → Prop} {Q : α → Option S → Prop}
  {W : α → S → Prop} {last : Option S}

/-- A whole handler under the lock: the rule is about its effect on the state it finds. -/
theorem guarded_locked_iff {f : S → Except E (α × S)} :
    (locked f).Guarded I R Q W last ↔
      ∀ s, I s → R last s s → ∀ a s', f s = .ok (a, s') → W a s' := by
  refine ⟨fun h s hs hR a s' hf ↦ ?_, fun h s s₁ hs hs₁ hR ↦ ?_⟩
  · have hwp := h s s hs rfl hR
    simp only [WP, hf] at hwp
    exact hwp s' rfl
  · obtain rfl := Except.ok.inj hs₁
    cases hf : f s with
    | error e =>
      simp only [WP, hf]
    | ok p =>
      simp only [WP, hf]
      rintro _ ⟨⟩
      exact h s hs hR p.1 p.2 hf

end Program

namespace Serving

variable {ι S E ρ α : Type} [DecidableEq ι] (prog : ρ → Program S E α)

/-- A database nobody is connected to, with an empty history. -/
def idle (s : S) : Serving ι S E ρ α where
  world := .idle s
  request _ := none
  history := []

/-- The commit of a writer that the next statement of connection `i` makes. -/
def commit? (σ : Serving ι S E ρ α) (i : ι) : Option (ρ × α) :=
  match σ.request i, σ.world.running i, σ.world.ownState i with
  | some r, some (.ret a), some _ => some (r, a)
  | _, _, _ => none

/-- **One step of the server.** -/
def step (σ : Serving ι S E ρ α) : Event ι ρ → Serving ι S E ρ α
  | .start i r =>
    if (σ.world.running i).isSome then σ
    else
      { σ with
        world := σ.world.step (.start i (prog r))
        request := Function.update σ.request i (some r) }
  | .advance i =>
    { σ with
      world := σ.world.advance i
      history := σ.history ++ (σ.commit? i).toList }
  | .cutOff i => { σ with world := σ.world.close i }

/-- The step as a relation. -/
def Step (σ : Serving ι S E ρ α) (e : Event ι ρ) (σ' : Serving ι S E ρ α) : Prop :=
  σ.step prog e = σ'

/-- **The condition on a step**: a request that takes the lock meets `C`, of the history so far, the
request, the state it last read and the committed state. -/
def Admits (C : List (ρ × α) → ρ → Option S → S → Prop) (σ : Serving ι S E ρ α) :
    Event ι ρ → Prop
  | .advance i => ∀ r f k s', σ.world.writer = none → σ.request i = some r →
      σ.world.running i = some (.execute f k) → f σ.world.committed = .ok s' →
      C σ.history r (σ.world.lastRead i) σ.world.committed
  | _ => True

/-- **Runs** from an idle database, all of whose requests meet `C` when they take the lock. -/
def Reachable (C : List (ρ × α) → ρ → Option S → S → Prop) (s : S) (σ : Serving ι S E ρ α) :
    Prop :=
  Runs.ReachesWith (Step prog) (Admits C) (idle s) σ

/-- Before anything has happened. -/
theorem Reachable.refl {C : List (ρ × α) → ρ → Option S → S → Prop} (s : S) :
    Reachable prog C s (idle s : Serving ι S E ρ α) :=
  Runs.ReachesWith.refl _

/-! ### Schedules, evaluated -/

/-- A schedule: these events, one after the other. -/
def runAll (σ : Serving ι S E ρ α) (events : List (Event ι ρ)) : Serving ι S E ρ α :=
  events.foldl (step prog) σ

/-- `Admits` at an event, evaluated. -/
def admits (C : List (ρ × α) → ρ → Option S → S → Bool) (σ : Serving ι S E ρ α) :
    Event ι ρ → Bool
  | .advance i =>
    match σ.world.writer, σ.request i, σ.world.running i with
    | none, some r, some (.execute f _) =>
      match f σ.world.committed with
      | .ok _ => C σ.history r (σ.world.lastRead i) σ.world.committed
      | .error _ => true
    | _, _, _ => true
  | _ => true

/-- Every event of a schedule is admitted. -/
def admitsAll (C : List (ρ × α) → ρ → Option S → S → Bool) :
    Serving ι S E ρ α → List (Event ι ρ) → Bool
  | _, [] => true
  | σ, e :: rest => σ.admits C e && admitsAll C (σ.step prog e) rest

omit [DecidableEq ι] in
/-- An evaluated condition is the condition. -/
theorem Admits.of_eval {C : List (ρ × α) → ρ → Option S → S → Bool} {σ : Serving ι S E ρ α}
    {e : Event ι ρ} (h : σ.admits C e = true) :
    Admits (fun h r last s ↦ C h r last s = true) σ e := by
  cases e with
  | advance i =>
    intro r f k s' hw hreq hrun hf
    rw [admits, hw, hreq, hrun] at h
    simpa only [hf] using h
  | start i r => trivial
  | cutOff i => trivial

/-- A schedule all of whose events are admitted is a run. -/
theorem reachable_runAll {C : List (ρ × α) → ρ → Option S → S → Bool} {s : S}
    {σ : Serving ι S E ρ α}
    {events : List (Event ι ρ)} (h : Reachable prog (fun h r last s ↦ C h r last s = true) s σ)
    (hadmits : admitsAll prog C σ events = true) :
    Reachable prog (fun h r last s ↦ C h r last s = true) s (σ.runAll prog events) := by
  induction events generalizing σ with
  | nil => exact h
  | cons e rest ih =>
    rw [admitsAll, Bool.and_eq_true] at hadmits
    exact ih (h.tail (Admits.of_eval hadmits.1) rfl) hadmits.2

/-- Without a condition every schedule is a run. -/
theorem reachable_schedule {s : S} {σ : Serving ι S E ρ α}
    (h : Reachable prog (fun _ _ _ _ ↦ True) s σ) (events : List (Event ι ρ)) :
    Reachable prog (fun _ _ _ _ ↦ True) s (σ.runAll prog events) := by
  induction events generalizing σ with
  | nil => exact h
  | cons e rest ih =>
    refine ih (h.tail (l := e) ?_ rfl)
    cases e with
    | advance i => exact fun _ _ _ _ _ _ _ _ ↦ trivial
    | start i r => trivial
    | cutOff i => trivial

/-- Which request a connection was last started with is what the schedule says, or as before. -/
theorem request_of_runAll {σ : Serving ι S E ρ α} {events : List (Event ι ρ)} {i : ι} {r : ρ}
    (h : (σ.runAll prog events).request i = some r) :
    σ.request i = some r ∨ .start i r ∈ events := by
  induction events generalizing σ with
  | nil => exact .inl h
  | cons e rest ih =>
    refine (ih h).imp_right (List.mem_cons_of_mem _) |>.elim (fun hstep ↦ ?_) .inr
    cases e with
    | start j r' =>
      rw [Serving.step] at hstep
      split at hstep
      · exact .inl hstep
      · by_cases hij : i = j
        · subst hij
          obtain rfl : r' = r := by simpa using hstep
          exact .inr List.mem_cons_self
        · exact .inl (by simpa [hij] using hstep)
    | advance j => exact .inl hstep
    | cutOff j => exact .inl hstep

/-- An entry of the history is of a request that the schedule started, or that was there before. -/
theorem history_of_runAll {σ : Serving ι S E ρ α} {events : List (Event ι ρ)} {e : ρ × α}
    (h : e ∈ (σ.runAll prog events).history) :
    e ∈ σ.history ∨ ∃ i, σ.request i = some e.1 ∨ .start i e.1 ∈ events := by
  induction events generalizing σ with
  | nil => exact .inl h
  | cons event rest ih =>
    rcases ih h with hstep | ⟨i, hstep | hstarted⟩
    · cases event with
      | start j r =>
        rw [Serving.step] at hstep
        split at hstep
        · exact .inl hstep
        · exact .inl hstep
      | cutOff j => exact .inl hstep
      | advance j =>
        rcases List.mem_append.mp hstep with hold | hnew
        · exact .inl hold
        · refine .inr ⟨j, .inl ?_⟩
          have hcommit : σ.commit? j = some e := Option.mem_toList.mp hnew
          unfold commit? at hcommit
          split at hcommit
          · rename_i hr _ _
            rw [← Option.some.inj hcommit]
            exact hr
          · cases hcommit
    · have hbefore : (σ.runAll prog [event]).request i = some e.1 := hstep
      refine .inr ⟨i, (request_of_runAll prog hbefore).imp_right fun hmem ↦ ?_⟩
      exact List.mem_cons.mpr (.inl (List.mem_singleton.mp hmem))
    · exact .inr ⟨i, .inr (List.mem_cons_of_mem _ hstarted)⟩

/-! ### The serial order -/

section Serial

variable {prog} {I : S → Prop} {C : List (ρ × α) → ρ → Option S → S → Prop}
  {G : List (ρ × α) → ρ → S → α → S → Prop} {s₀ : S} {σ : Serving ι S E ρ α} {i j : ι}

/-- What a request owes: run on states that satisfy `I`, taking the lock under `C` in state `s`, it
ends in a state and a result that `G` allows. -/
def Owes (I : S → Prop) (C : List (ρ × α) → ρ → Option S → S → Prop)
    (G : List (ρ × α) → ρ → S → α → S → Prop) (r : ρ) (p : Program S E α) (last : Option S) :
    Prop :=
  ∀ h s, p.Guarded I (fun last s' _ ↦ s' = s ∧ C h r last s) (fun _ _ ↦ True)
    (fun a s' ↦ G h r s a s' ∧ I s') last

/-- What is true of connection `i`. -/
def ConnectionOwes (I : S → Prop) (C : List (ρ × α) → ρ → Option S → S → Prop)
    (G : List (ρ × α) → ρ → S → α → S → Prop) (σ : Serving ι S E ρ α) (i : ι) : Prop :=
  ∀ p, σ.world.running i = some p → ∃ r, σ.request i = some r ∧
    match σ.world.ownState i with
    | some s => p.WP (fun a s' ↦ G σ.history r σ.world.committed a s' ∧ I s') s
    | none => Owes I C G r p (σ.world.lastRead i)

/-- The invariant of the whole. -/
structure Ok (I : S → Prop) (C : List (ρ × α) → ρ → Option S → S → Prop)
    (G : List (ρ × α) → ρ → S → α → S → Prop) (s₀ : S) (σ : Serving ι S E ρ α) : Prop where
  chain : Chain G s₀ σ.history σ.world.committed
  good : I σ.world.committed
  connections : ∀ i, σ.ConnectionOwes I C G i
  writing : ∀ {i s}, σ.world.writer = some (i, s) → (σ.world.running i).isSome

/-- Nobody owes anything at first. -/
theorem Ok.idle (h : I s₀) : (idle s₀ : Serving ι S E ρ α).Ok I C G s₀ where
  chain := .nil
  good := h
  connections _ _ hp := by cases hp
  writing hw := by cases hw

/-- A connection that keeps its program, request, last read and lock owes what it owed, as long as
its commit would still follow the same history and state. -/
theorem ConnectionOwes.congr {σ' : Serving ι S E ρ α} (h : σ.ConnectionOwes I C G j)
    (hrun : σ'.world.running j = σ.world.running j) (hreq : σ'.request j = σ.request j)
    (hlast : σ'.world.lastRead j = σ.world.lastRead j)
    (hown : σ'.world.ownState j = σ.world.ownState j)
    (hsame : (σ.world.ownState j).isSome →
      σ'.history = σ.history ∧ σ'.world.committed = σ.world.committed) :
    σ'.ConnectionOwes I C G j := by
  intro p hp
  obtain ⟨r, hr, howes⟩ := h p (hrun ▸ hp)
  refine ⟨r, hreq.trans hr, ?_⟩
  rw [hown, hlast]
  cases hstate : σ.world.ownState j with
  | none => rwa [hstate] at howes
  | some s =>
    obtain ⟨hh, hc⟩ := hsame (by simp [hstate])
    rw [hh, hc]
    rwa [hstate] at howes

/-- A statement commits when its connection has finished and holds the lock. -/
theorem commit?_eq_some {r : ρ} {a : α} :
    σ.commit? i = some (r, a) ↔ σ.request i = some r ∧ σ.world.running i = some (.ret a) ∧
      (σ.world.ownState i).isSome := by
  unfold commit?
  split
  · rename_i hr hp hs
    simp [hr, hp, hs]
  · rename_i hno
    constructor
    · intro h
      cases h
    · rintro ⟨hr, hp, hs⟩
      obtain ⟨s, hs⟩ := Option.isSome_iff_exists.mp hs
      exact (hno r a s hr hp hs).elim

/-- Who has not finished commits nothing. -/
theorem commit?_of_running {p : Program S E α} (hrun : σ.world.running i = some p)
    (hp : ∀ a, p ≠ .ret a) : σ.commit? i = none :=
  Option.eq_none_iff_forall_ne_some.mpr fun _ hc ↦
    hp _ (Option.some.inj (hrun.symm.trans (commit?_eq_some.mp hc).2.1))

/-- Closing a connection; the history is as it was. -/
theorem Ok.close (h : σ.Ok I C G s₀) :
    ({ σ with world := σ.world.close i } : Serving ι S E ρ α).Ok I C G s₀ where
  chain := h.chain
  good := h.good
  connections j := by
    by_cases hij : j = i
    · subst hij
      intro p hp
      simp [World.close] at hp
    · exact (h.connections j).congr (by simp [World.close, hij]) rfl rfl
        (World.ownState_close_of_ne hij) fun _ ↦ ⟨rfl, rfl⟩
  writing hw := World.running_of_writer_close h.writing hw

/-- A statement of a connection that commits nothing: it may change its own program, its last read
and its uncommitted state. -/
theorem Ok.progress (h : σ.Ok I C G s₀) {w' : World ι S E α}
    (hcommitted : w'.committed = σ.world.committed)
    (howes : ({ σ with world := w' } : Serving ι S E ρ α).ConnectionOwes I C G i)
    (hothers : ∀ j, j ≠ i → w'.running j = σ.world.running j ∧
      w'.lastRead j = σ.world.lastRead j ∧ w'.ownState j = σ.world.ownState j)
    (hwriting : ∀ {j s}, w'.writer = some (j, s) → (w'.running j).isSome) :
    ({ σ with world := w' } : Serving ι S E ρ α).Ok I C G s₀ where
  chain := by
    rw [hcommitted]
    exact h.chain
  good := by
    rw [hcommitted]
    exact h.good
  connections j := by
    by_cases hij : j = i
    · subst hij
      exact howes
    · obtain ⟨hrun, hlast, hown⟩ := hothers j hij
      exact (h.connections j).congr hrun rfl hlast hown fun _ ↦ ⟨rfl, hcommitted⟩
  writing := hwriting

/-- A read, with the lock or without it. -/
theorem Ok.select (h : σ.Ok I C G s₀) {k : S → Program S E α}
    (hrun : σ.world.running i = some (.select k)) :
    ({ σ with world := σ.world.advance i } : Serving ι S E ρ α).Ok I C G s₀ := by
  have hadvance : σ.world.advance i =
      { σ.world with
        running := Function.update σ.world.running i
          (some (k ((σ.world.ownState i).getD σ.world.committed)))
        lastRead := Function.update σ.world.lastRead i
          (some ((σ.world.ownState i).getD σ.world.committed)) } := by
    rw [World.advance, hrun]
  rw [hadvance]
  refine h.progress (i := i) rfl ?_ (fun j hij ↦ ⟨by simp [hij], by simp [hij], rfl⟩) ?_
  · intro p hp
    obtain rfl : k ((σ.world.ownState i).getD σ.world.committed) = p := by simpa using hp
    obtain ⟨r, hr, howes⟩ := h.connections i _ hrun
    refine ⟨r, hr, ?_⟩
    show match σ.world.ownState i with
      | some s => _
      | none => _
    cases hown : σ.world.ownState i with
    | none =>
      rw [hown] at howes
      intro h' s
      simpa using howes h' s σ.world.committed h.good
    | some s =>
      rw [hown] at howes
      exact howes
  · intro j s hw
    by_cases hij : j = i
    · subst hij
      simp
    · simpa [hij] using h.writing hw

/-- A write: the first takes the lock, and this is where the condition is asked. -/
theorem Ok.execute (h : σ.Ok I C G s₀) {f : S → Except E S} {k : Program S E α} {s s' : S}
    (hrun : σ.world.running i = some (.execute f k)) (hs : σ.world.writable i = some s)
    (hf : f s = .ok s') (hC : σ.Admits C (.advance i)) :
    ({ σ with
        world := { σ.world with
          writer := some (i, s'), running := Function.update σ.world.running i (some k) } } :
      Serving ι S E ρ α).Ok I C G s₀ := by
  obtain ⟨r, hr, howes⟩ := h.connections i _ hrun
  refine h.progress (i := i) rfl ?_ (fun j hij ↦ ⟨by simp [hij], rfl, ?_⟩) ?_
  · intro p hp
    obtain rfl : k = p := by simpa using hp
    refine ⟨r, hr, ?_⟩
    simp only [World.ownState, if_true]
    rcases World.writable_eq_some.mp hs with hown | ⟨hfree, rfl⟩
    · rw [hown] at howes
      exact howes s' hf
    · have hown : σ.world.ownState i = none := by simp [World.ownState, hfree]
      rw [hown] at howes
      exact howes σ.history σ.world.committed _ s' h.good hf
        ⟨rfl, hC r f k s' hfree hr hrun hf⟩
  · rcases World.writable_eq_some.mp hs with hown | ⟨hfree, -⟩
    · simp [World.ownState, World.ownState_eq_some.mp hown, Ne.symm hij]
    · simp [World.ownState, hfree, Ne.symm hij]
  · intro j s₁ hw
    obtain ⟨rfl, -⟩ := Prod.mk.inj (Option.some.inj hw)
    simp

/-- **A commit** appends to the history what `G` allows. -/
theorem Ok.commit (h : σ.Ok I C G s₀) {a : α} (hrun : σ.world.running i = some (.ret a)) :
    ({ σ with world := σ.world.commit i, history := σ.history ++ (σ.commit? i).toList } :
      Serving ι S E ρ α).Ok I C G s₀ := by
  obtain ⟨r, hr, howes⟩ := h.connections i _ hrun
  cases hown : σ.world.ownState i with
  | none =>
    have hno : σ.commit? i = none := by simp [commit?, hr, hrun, hown]
    have hsame : σ.world.commit i = σ.world.close i := by
      rw [World.commit, hown]
      rfl
    rw [hno, hsame, Option.toList_none, List.append_nil]
    exact h.close
  | some s =>
    rw [hown] at howes
    obtain ⟨hG, hI⟩ : G σ.history r σ.world.committed a s ∧ I s := howes
    have hcommit : σ.commit? i = some (r, a) := commit?_eq_some.mpr ⟨hr, hrun, by simp [hown]⟩
    have hcommitted : (σ.world.commit i).committed = s := by simp [World.commit, hown]
    rw [hcommit, Option.toList_some]
    refine { chain := hcommitted ▸ h.chain.snoc hG, good := hcommitted ▸ hI,
             connections := fun j ↦ ?_, writing := (World.running_of_writer_close h.writing ·) }
    by_cases hij : j = i
    · subst hij
      intro p hp
      simp [World.commit, World.close] at hp
    · -- the lock was `i`'s, so nobody else has a state of its own
      have hnone : σ.world.ownState j = none := by
        rw [World.ownState, World.ownState_eq_some.mp hown]
        exact if_neg (Ne.symm hij)
      exact (h.connections j).congr (by simp [World.commit, World.close, hij]) rfl rfl
        (World.ownState_close_of_ne hij) fun hsome ↦ by simp [hnone] at hsome

/-- Any statement. -/
theorem Ok.advance (h : σ.Ok I C G s₀) (hC : σ.Admits C (.advance i)) :
    (σ.step prog (.advance i)).Ok I C G s₀ := by
  show ({ σ with world := σ.world.advance i, history := σ.history ++ (σ.commit? i).toList } :
    Serving ι S E ρ α).Ok I C G s₀
  cases hrun : σ.world.running i with
  | none =>
    have hno : σ.commit? i = none := Option.eq_none_iff_forall_ne_some.mpr fun _ hc ↦ by
      exact absurd (hrun.symm.trans (commit?_eq_some.mp hc).2.1) (by simp)
    rw [hno, Option.toList_none, List.append_nil, World.advance, hrun]
    exact h
  | some p =>
    cases p with
    | ret a =>
      rw [World.advance, hrun]
      exact h.commit hrun
    | raise e =>
      rw [commit?_of_running hrun (by simp), Option.toList_none, List.append_nil, World.advance,
        hrun]
      exact h.close
    | select k =>
      rw [commit?_of_running hrun (by simp), Option.toList_none, List.append_nil]
      exact h.select hrun
    | execute f k =>
      rw [commit?_of_running hrun (by simp), Option.toList_none, List.append_nil, World.advance,
        hrun]
      cases hs : σ.world.writable i with
      | none => exact h
      | some s =>
        cases hf : f s with
        | error e => simpa only [hf] using h.close
        | ok s' => simpa only [hf] using h.execute hrun hs hf hC

/-- A new request owes what its program owes. -/
theorem Ok.start (h : σ.Ok I C G s₀) {r : ρ} (hr : Owes I C G r (prog r) none) :
    (σ.step prog (.start i r)).Ok I C G s₀ := by
  show (if (σ.world.running i).isSome then σ else _).Ok I C G s₀
  split
  · exact h
  · rename_i hfree
    have hown : ∀ s, σ.world.writer ≠ some (i, s) := fun s hw ↦ hfree (h.writing hw)
    rw [World.step, if_neg hfree]
    refine { chain := h.chain, good := h.good, connections := fun j ↦ ?_,
             writing := fun {j s} hw ↦ ?_ }
    · by_cases hij : j = i
      · subst hij
        intro q hq
        obtain rfl : prog r = q := by simpa using hq
        refine ⟨r, by simp, ?_⟩
        have hnone : σ.world.ownState j = none :=
          Option.eq_none_iff_forall_ne_some.mpr fun s hs ↦ hown s (World.ownState_eq_some.mp hs)
        show match σ.world.ownState j with
          | some s => _
          | none => _
        rw [hnone]
        simpa using hr
      · exact (h.connections j).congr (by simp [hij]) (by simp [hij]) (by simp [hij]) rfl
          fun _ ↦ ⟨rfl, rfl⟩
    · have hij : j ≠ i := fun hji ↦ hown s (hji ▸ hw)
      simpa [hij] using h.writing hw

/-- Any step. -/
theorem Ok.step (h : σ.Ok I C G s₀) (hprog : ∀ r, Owes I C G r (prog r) none) {e : Event ι ρ}
    (he : σ.Admits C e) : (σ.step prog e).Ok I C G s₀ := by
  cases e with
  | start i r => exact h.start (hprog r)
  | advance i => exact h.advance he
  | cutOff i => exact h.close

/-- The invariant holds in every state reached. -/
theorem Reachable.ok (hreach : Reachable prog C s₀ σ) (hI : I s₀)
    (hprog : ∀ r, Owes I C G r (prog r) none) : σ.Ok I C G s₀ :=
  Runs.ReachesWith.invariant hreach (Ok.idle hI) fun h hC hstep ↦ hstep ▸ h.step hprog hC

/-- **Interleavings are serial histories.** What is committed is what a chain of `G`-steps, one for
each entry of the history, makes of the initial state. -/
theorem Reachable.serial (hreach : Reachable prog C s₀ σ) (hI : I s₀)
    (hprog : ∀ r, Owes I C G r (prog r) none) : Chain G s₀ σ.history σ.world.committed :=
  (hreach.ok hI hprog).chain

/-- And so is the next commit. -/
theorem Reachable.next_commit (hreach : Reachable prog C s₀ σ) (hI : I s₀)
    (hprog : ∀ r, Owes I C G r (prog r) none) {r : ρ} {a : α} {s : S}
    (hcommit : σ.commit? i = some (r, a)) (hown : σ.world.ownState i = some s) :
    G σ.history r σ.world.committed a s := by
  obtain ⟨hr, hrun, -⟩ := commit?_eq_some.mp hcommit
  obtain ⟨r', hr', howes⟩ := (hreach.ok hI hprog).connections i _ hrun
  obtain rfl := Option.some.inj (hr.symm.trans hr')
  rw [hown] at howes
  exact howes.1

end Serial

end Serving

end Transactions
