import AwikiOpenServer.Lib.Commits

/-!
# Requests of several transactions, and when they look like one step

A `Session` is the statements of a request that may commit more than once: reads and writes as of a
`Program`, and `commit`, after which it goes on without the lock. What clients see of a server of
sessions is calls and replies, and answers that never come.

An **atomic object** does each call in one step at one moment between call and reply. That a server
is linearizable is that it shows nothing an atomic object could not have shown (`linearizable`). It
is enough to look at one session at a time (`Session.Meets`): at the statement that fixes its reply,
its effect and its reply are those of one step of the object on what is committed then, and every
commit before that one leaves the object as it is.

## Traces, and an inclusion of traces

What a run shows is the list of its labels (`Runs.Shows`), silent steps left out. Linearizability is
an inclusion: every trace of the server is a trace of the object. It is not an equation, since a
server may refuse where the object would not have to, and the object has no lock to wait for.

The object has a state of its own type. Which object a committed state stands for is the function
`abs` of an `Abstraction`, together with the committed states that are good and what every commit
keeps between two of them. A reader without the lock relies on the last, exactly as a request does
that rolls back or commits once.

## The proof

A forward simulation (`Runs.Shows.simulate`), with the linearization point chosen by the session: it
is the statement after which the session can only answer. `Linked` says how a connection and its
call belong together, before that point, after it, and when nobody has called; one lemma for each
kind of statement moves the link along (`Simulated.select`, `Simulated.write`, `Simulated.commit`).
Sessions that were cut off are calls that are never answered, and the object may or may not have
done them.

**Where a reply is fixed.** A session that reads, and answers from what it has read without writing,
is at its end when it has read, so the moment of the object's step is the read. One that answers
from an earlier read after a later statement would be linearizable only if the answer were still
right then; the rule asks for that, and this is where a proof fails for a program that is not
linearizable.
-/

namespace Runs

/-! ### What a run shows -/

variable {σ τ L : Type*}

/-- A run, with the labels its steps show; a silent step shows none. -/
inductive Shows (Step : σ → Option L → σ → Prop) : σ → List L → σ → Prop where
  | refl (s : σ) : Shows Step s [] s
  | tail {s s' s'' : σ} {trace : List L} {l : Option L} (before : Shows Step s trace s')
      (step : Step s' l s'') : Shows Step s (trace ++ l.toList) s''

namespace Shows

variable {Step : σ → Option L → σ → Prop} {Step' : τ → Option L → τ → Prop} {s s' s'' : σ}
  {trace trace' : List L}

/-- One step shows its label, if it has one. -/
theorem single {l : Option L} (h : Step s l s') : Shows Step s l.toList s' := (refl s).tail h

/-- Runs one after the other show one trace after the other. -/
theorem trans (h : Shows Step s trace s') (h' : Shows Step s' trace' s'') :
    Shows Step s (trace ++ trace') s'' := by
  induction h' with
  | refl => rwa [List.append_nil]
  | tail _ hstep ih => exact List.append_assoc _ _ _ ▸ ih.tail hstep

end Shows

end Runs

namespace Transactions

open Runs

/-! ### Sessions -/

/-- The statements of a request that may commit on its way. -/
inductive Session (S E α : Type) where
  | ret (a : α)
  | raise (e : E)
  | select (k : S → Session S E α)
  | execute (f : S → Except E S) (k : Session S E α)
  | commit (k : Session S E α)

namespace Session

variable {S E α β : Type}

/-- Sequential composition. -/
def bind : Session S E α → (α → Session S E β) → Session S E β
  | ret a, f => f a
  | raise e, _ => raise e
  | select k, f => select fun s ↦ (k s).bind f
  | execute g k, f => execute g (k.bind f)
  | commit k, f => commit (k.bind f)

instance : Monad (Session S E) where
  pure := ret
  bind := bind

/-- Composition is associative. -/
theorem bind_assoc {γ : Type} (p : Session S E α) (f : α → Session S E β) (g : β → Session S E γ) :
    p >>= f >>= g = p >>= fun a ↦ f a >>= g := by
  show (p.bind f).bind g = p.bind fun a ↦ (f a).bind g
  induction p with
  | ret a => rfl
  | raise e => rfl
  | select k ih => exact congrArg select (funext ih)
  | execute h k ih => exact congrArg (execute h) ih
  | commit k ih => exact congrArg commit ih

/-- What is finished goes on at once. -/
@[simp] theorem pure_bind (a : α) (f : α → Session S E β) : (pure a : Session S E α) >>= f = f a :=
  rfl

/-- A query: what `f` reads off the state. -/
def query (f : S → α) : Session S E α := select fun s ↦ ret (f s)

/-- A write statement. -/
def write (f : S → Except E S) : Session S E Unit := execute f (ret ())

/-- The end of a transaction that has written. -/
def done : Session S E Unit := commit (ret ())

/-- A computation that asks nothing of the database. -/
def ofExcept : Except E α → Session S E α
  | .ok a => ret a
  | .error e => raise e

/-- What a session that is at its end answers. -/
def reply? : Session S E α → Option (Except E α)
  | ret a => some (.ok a)
  | raise e => some (.error e)
  | _ => none

end Session

/-! ### Servers of sessions -/

/-- What clients see: calls, replies, and that no reply will come. -/
inductive Seen (ι E ρ α : Type) where
  | call (i : ι) (r : ρ)
  | reply (i : ι) (a : Except E α)
  | lost (i : ι)

/-- The committed state, the connection that holds the write lock with its uncommitted state, and
what each connection has still to do. -/
structure Sessions (ι S E α : Type) where
  committed : S
  writer : Option (ι × S)
  running : ι → Option (Session S E α)

namespace Sessions

variable {ι S E ρ α : Type} [DecidableEq ι]

/-- A database nobody is connected to. -/
def idle (s : S) : Sessions ι S E α where
  committed := s
  writer := none
  running _ := none

/-- The state connection `i` works on under the lock. -/
def ownState (w : Sessions ι S E α) (i : ι) : Option S :=
  (w.writer.filter fun held ↦ decide (held.1 = i)).map Prod.snd

/-- What a read of `i` sees. -/
def visible (w : Sessions ι S E α) (i : ι) : S := (w.ownState i).getD w.committed

/-- The connection gives the lock back, if it has it. -/
def release (w : Sessions ι S E α) (i : ι) : Sessions ι S E α :=
  { w with writer := w.writer.filter fun held ↦ decide (held.1 ≠ i) }

/-- The connection goes on with `p`. -/
def goOn (w : Sessions ι S E α) (i : ι) (p : Option (Session S E α)) : Sessions ι S E α :=
  { w with running := Function.update w.running i p }

/-- Going on changes nothing of what is committed. -/
@[simp] theorem committed_goOn (w : Sessions ι S E α) (i : ι) (p : Option (Session S E α)) :
    (w.goOn i p).committed = w.committed := rfl

/-- And nobody gets or loses the lock by it. -/
@[simp] theorem ownState_goOn (w : Sessions ι S E α) (i j : ι) (p : Option (Session S E α)) :
    (w.goOn i p).ownState j = w.ownState j := rfl

/-- The connection goes on with what it is given. -/
@[simp] theorem running_goOn_self (w : Sessions ι S E α) (i : ι) (p : Option (Session S E α)) :
    (w.goOn i p).running i = p := Function.update_self ..

/-- And nobody else does. -/
@[simp] theorem running_goOn_of_ne (w : Sessions ι S E α) {i j : ι} (hij : j ≠ i)
    (p : Option (Session S E α)) : (w.goOn i p).running j = w.running j :=
  Function.update_of_ne hij ..

/-- Giving the lock back changes nothing of what is committed. -/
@[simp] theorem committed_release (w : Sessions ι S E α) (i : ι) :
    (w.release i).committed = w.committed := rfl

/-- And stops nobody. -/
@[simp] theorem running_release (w : Sessions ι S E α) (i : ι) :
    (w.release i).running = w.running := rfl

/-- One write of `i`. It waits while somebody else has the lock; an exception rolls back. -/
def write (w : Sessions ι S E α) (i : ι) (f : S → Except E S) (k : Session S E α) :
    Sessions ι S E α :=
  if (w.writer.all fun held ↦ decide (held.1 = i)) then
    match f (w.visible i) with
    | .ok s => { w.goOn i (some k) with writer := some (i, s) }
    | .error e => (w.release i).goOn i (some (.raise e))
  else w

/-- One statement of connection `i`. -/
def advance (w : Sessions ι S E α) (i : ι) : Sessions ι S E α :=
  match w.running i with
  | none => w
  | some (.ret _) => (w.release i).goOn i none
  | some (.raise _) => (w.release i).goOn i none
  | some (.select k) => w.goOn i (some (k (w.visible i)))
  | some (.execute f k) => w.write i f k
  | some (.commit k) => ({ w with committed := w.visible i }.release i).goOn i (some k)

variable (prog : ρ → Session S E α)

/-- **One step of the server**, -/
def step (w : Sessions ι S E α) : Event ι ρ → Sessions ι S E α
  | .start i r => if (w.running i).isSome then w else w.goOn i (some (prog r))
  | .advance i => w.advance i
  | .cutOff i => (w.release i).goOn i none

/-- and what it shows. -/
def seen (w : Sessions ι S E α) : Event ι ρ → Option (Seen ι E ρ α)
  | .start i r => if (w.running i).isSome then none else some (.call i r)
  | .advance i => (w.running i).bind fun p ↦ p.reply?.map (.reply i)
  | .cutOff i => some (.lost i)

/-- A schedule: these events, one after the other, -/
def runAll (w : Sessions ι S E α) (events : List (Event ι ρ)) : Sessions ι S E α :=
  events.foldl (step prog) w

/-- and what it shows. -/
def shown (w : Sessions ι S E α) : List (Event ι ρ) → List (Seen ι E ρ α)
  | [] => []
  | e :: rest => (w.seen e).toList ++ shown (w.step prog e) rest

/-- The step as a relation. -/
def Step (w : Sessions ι S E α) (l : Option (Seen ι E ρ α)) (w' : Sessions ι S E α) : Prop :=
  ∃ e, w.seen e = l ∧ w.step prog e = w'

end Sessions

/-! ### Atomic objects -/

/-- How far a call has come. -/
inductive Status (E ρ α : Type) where
  | idle
  | called (r : ρ)
  | answered (a : Except E α)

/-- An object and the calls under way. -/
structure Atomic (ι A E ρ α : Type) where
  state : A
  status : ι → Status E ρ α

namespace Atomic

variable {ι A E ρ α : Type} [DecidableEq ι]

/-- An object nobody has called. -/
def idle (a : A) : Atomic ι A E ρ α := ⟨a, fun _ ↦ .idle⟩

/-- The call of one connection has come so far. -/
def withStatus (o : Atomic ι A E ρ α) (i : ι) (status : Status E ρ α) : Atomic ι A E ρ α :=
  { o with status := Function.update o.status i status }

/-- The status that was set. -/
@[simp] theorem status_withStatus_self (o : Atomic ι A E ρ α) (i : ι) (status : Status E ρ α) :
    (o.withStatus i status).status i = status := Function.update_self ..

/-- The others are as they were. -/
@[simp] theorem status_withStatus_of_ne (o : Atomic ι A E ρ α) {i j : ι} (hij : j ≠ i)
    (status : Status E ρ α) : (o.withStatus i status).status j = o.status j :=
  Function.update_of_ne hij ..

/-- **The object does each call in one step**, which nobody sees, at some moment between the call
and the reply. -/
inductive Step (spec : ρ → A → Except E α → A → Prop) :
    Atomic ι A E ρ α → Option (Seen ι E ρ α) → Atomic ι A E ρ α → Prop where
  | call {o : Atomic ι A E ρ α} {i : ι} (r : ρ) (h : o.status i = .idle) :
      Step spec o (some (.call i r)) (o.withStatus i (.called r))
  | act {o : Atomic ι A E ρ α} {i : ι} {r : ρ} {a : Except E α} {s : A}
      (h : o.status i = .called r) (hspec : spec r o.state a s) :
      Step spec o none ({ o with state := s }.withStatus i (.answered a))
  | reply {o : Atomic ι A E ρ α} {i : ι} {a : Except E α} (h : o.status i = .answered a) :
      Step spec o (some (.reply i a)) (o.withStatus i .idle)
  | lost (o : Atomic ι A E ρ α) (i : ι) : Step spec o (some (.lost i)) (o.withStatus i .idle)

end Atomic

/-! ### The rule -/

section Rule

/-- How a database stands for an object: what a step of the object may do, which object a committed
state is, which states are good, and what every commit keeps. -/
structure Abstraction (S A E ρ α : Type) where
  spec : ρ → A → Except E α → A → Prop
  abs : S → A
  Good : S → Prop
  Keeps : S → S → Prop
  keeps_refl : ∀ s, Keeps s s
  keeps_trans : ∀ {a b c}, Keeps a b → Keeps b c → Keeps a c

variable {S A E ρ α β : Type} (M : Abstraction S A E ρ α) (r : ρ)

/-- **What a session has to meet**, where `s` is committed and the session has the lock on its own
state or does not have it. At its end, it has done what the object does; at a commit, it does so or
leaves the object alone. Without the lock it may count on what every commit keeps, between what was
committed and what it finds. -/
def Session.Meets : Session S E α → S → Option S → Prop
  | .ret a, s, _ => M.spec r (M.abs s) (.ok a) (M.abs s)
  | .raise e, s, _ => M.spec r (M.abs s) (.error e) (M.abs s)
  | .select k, s, some t => (k t).Meets s (some t)
  | .select k, s, none => ∀ s', M.Good s' → M.Keeps s s' → (k s').Meets s' none
  | .execute f k, s, some t =>
    (∀ t', f t = .ok t' → k.Meets s (some t')) ∧
      ∀ e, f t = .error e → M.spec r (M.abs s) (.error e) (M.abs s)
  | .execute f k, s, none => ∀ s', M.Good s' → M.Keeps s s' →
    (∀ t, f s' = .ok t → k.Meets s' (some t)) ∧
      ∀ e, f s' = .error e → M.spec r (M.abs s') (.error e) (M.abs s')
  | .commit k, s, some t => M.Good t ∧ M.Keeps s t ∧
    (∀ a, k.reply? = some a → M.spec r (M.abs s) a (M.abs t)) ∧
      (k.reply? = none → M.abs t = M.abs s ∧ k.Meets t none)
  | .commit k, s, none => ∀ s', M.Good s' → M.Keeps s s' → k.Meets s' none

variable {M r} {s t : S} {p : Session S E α}

/-- At the end of a session the object has done its step, and nothing changes. -/
theorem Session.Meets.answered {own : Option S} {a : Except E α}
    (h : p.Meets M r s own) (ha : p.reply? = some a) : M.spec r (M.abs s) a (M.abs s) := by
  cases p with
  | ret b =>
    obtain rfl := Option.some.inj ha
    exact h
  | raise e =>
    obtain rfl := Option.some.inj ha
    exact h
  | select k => cases ha
  | execute f k => cases ha
  | commit k => cases ha

/-- A session without the lock that has more to do meets the same later. -/
theorem Session.Meets.later (h : p.Meets M r s none) (ha : p.reply? = none) (hst : M.Keeps s t) :
    p.Meets M r t none := by
  cases p with
  | ret b => cases ha
  | raise e => cases ha
  | select k => exact fun s' hs' hkeeps ↦ h s' hs' (M.keeps_trans hst hkeeps)
  | execute f k => exact fun s' hs' hkeeps ↦ h s' hs' (M.keeps_trans hst hkeeps)
  | commit k => exact fun s' hs' hkeeps ↦ h s' hs' (M.keeps_trans hst hkeeps)

namespace Session

end Session

end Rule

/-! ### Linearizability -/

namespace Sessions

variable {ι S A E ρ α : Type} [DecidableEq ι] {M : Abstraction S A E ρ α} {prog : ρ → Session S E α}
  {w : Sessions ι S E α} {o : Atomic ι A E ρ α} {i j : ι}

/-- The own state of a connection is that of the lock it holds. -/
theorem ownState_eq_some {s : S} : w.ownState i = some s ↔ w.writer = some (i, s) := by
  cases h : w.writer with
  | none => simp [ownState, h]
  | some held =>
    obtain ⟨j, t⟩ := held
    by_cases hij : j = i <;> simp [ownState, h, Option.filter, hij]

/-- Who has given it back has none. -/
theorem ownState_release_self : (w.release i).ownState i = none := by
  cases h : w.writer with
  | none => simp [ownState, release, h]
  | some held => by_cases hij : held.1 = i <;> simp [ownState, release, h, Option.filter, hij]

/-- The others keep theirs. -/
theorem ownState_release_of_ne (hij : j ≠ i) : (w.release i).ownState j = w.ownState j := by
  cases h : w.writer with
  | none => simp [ownState, release, h]
  | some held =>
    by_cases hi : held.1 = i
    · simp [ownState, release, h, Option.filter, hi, Ne.symm hij]
    · by_cases hj : held.1 = j
      · simp [ownState, release, h, Option.filter, hj, hij]
      · simp [ownState, release, h, Option.filter, hi, hj]

/-- How a connection and its call belong together. -/
inductive Linked (M : Abstraction S A E ρ α) (s : S) (own : Option S) :
    Option (Session S E α) → Status E ρ α → Prop where
  | idle : Linked M s own none .idle
  | called {p : Session S E α} {r : ρ} (hp : p.reply? = none) (h : p.Meets M r s own) :
      Linked M s own (some p) (.called r)
  | answered {p : Session S E α} {a : Except E α} (hp : p.reply? = some a) :
      Linked M s own (some p) (.answered a)

/-- A commit of somebody else. -/
theorem Linked.committed {s t : S} {p : Option (Session S E α)} {status : Status E ρ α}
    (h : Linked M s none p status) (hst : M.Keeps s t) : Linked M t none p status := by
  cases h with
  | idle => exact .idle
  | called hp h => exact .called hp (h.later hp hst)
  | answered hp => exact .answered hp

/-- **The simulation**: the object is what is committed, and connections and calls are linked. -/
structure Simulated (M : Abstraction S A E ρ α) (w : Sessions ι S E α) (o : Atomic ι A E ρ α) :
    Prop where
  state : o.state = M.abs w.committed
  good : M.Good w.committed
  linked : ∀ i, Linked M w.committed (w.ownState i) (w.running i) (o.status i)
  writing : ∀ {i s}, w.writer = some (i, s) → (w.running i).isSome

/-- At first nobody has called, and the object is what is committed. -/
theorem Simulated.idle {s : S} (h : M.Good s) :
    Simulated M (idle s : Sessions ι S E α) (.idle (M.abs s)) where
  state := rfl
  good := h
  linked _ := .idle
  writing hw := by cases hw

/-- **A connection goes on**, with the object as it is: if it is now at its end the object acts. -/
theorem Simulated.enter {w' : Sessions ι S E α} {r : ρ} {p : Session S E α}
    (hstate : o.state = M.abs w'.committed) (hgood : M.Good w'.committed)
    (hothers : ∀ j, j ≠ i → Linked M w'.committed (w'.ownState j) (w'.running j) (o.status j))
    (hwriting : ∀ {i s}, w'.writer = some (i, s) → (w'.running i).isSome)
    (hcalled : o.status i = .called r) (hp : w'.running i = some p)
    (hmeets : p.Meets M r w'.committed (w'.ownState i)) :
    ∃ o', Shows (Atomic.Step M.spec) o [] o' ∧ Simulated M w' o' := by
  cases ha : p.reply? with
  | none =>
    refine ⟨o, .refl o, hstate, hgood, fun j ↦ ?_, hwriting⟩
    by_cases hij : j = i
    · rw [hij, hp, hcalled]
      exact .called ha hmeets
    · exact hothers j hij
  | some a =>
    have hspec : M.spec r o.state a (M.abs w'.committed) := hstate ▸ hmeets.answered ha
    refine ⟨_, .single (Atomic.Step.act hcalled hspec), ?_⟩
    refine ⟨rfl, hgood, fun j ↦ ?_, hwriting⟩
    by_cases hij : j = i
    · rw [hij, hp, Atomic.status_withStatus_self]
      exact .answered ha
    · rw [Atomic.status_withStatus_of_ne _ hij]
      exact hothers j hij

/-- Whoever holds the lock after `i` has gone on was running before, or is `i`. -/
theorem Simulated.writing_goOn (h : Simulated M w o) {p : Session S E α} {s : S}
    (hw : w.writer = some (j, s)) : ((w.goOn i (some p)).running j).isSome := by
  by_cases hij : j = i
  · simp [hij]
  · simpa [hij] using h.writing hw

/-- Whoever holds the lock after `i` has given it back is not `i`. -/
theorem Simulated.writing_release (h : Simulated M w o) {p : Option (Session S E α)} {s : S}
    (hw : (w.release i).writer = some (j, s)) : (((w.release i).goOn i p).running j).isSome := by
  obtain ⟨hheld, hij⟩ := Option.filter_eq_some_iff.mp hw
  simpa [of_decide_eq_true hij] using h.writing hheld

/-- A connection closes, and its call is over. -/
theorem Simulated.close (h : Simulated M w o) (i : ι) :
    Simulated M ((w.release i).goOn i none) (o.withStatus i .idle) where
  state := h.state
  good := h.good
  linked j := by
    by_cases hij : j = i
    · subst hij
      simpa using Linked.idle
    · simpa [hij, ownState_release_of_ne hij] using h.linked j
  writing hw := h.writing_release hw

/-- A call that has been answered returns. -/
theorem Simulated.finish (h : Simulated M w o) {p : Session S E α} {a : Except E α}
    (hp : w.running i = some p) (ha : p.reply? = some a) :
    ∃ o', Shows (Atomic.Step M.spec) o [.reply i a] o' ∧
      Simulated M ((w.release i).goOn i none) o' := by
  have hi := h.linked i
  rw [hp] at hi
  cases hstatus : o.status i with
  | idle =>
    rw [hstatus] at hi
    cases hi
  | called r =>
    rw [hstatus] at hi
    cases hi with
    | called hnone _ => cases hnone.symm.trans ha
  | answered b =>
    rw [hstatus] at hi
    cases hi with
    | answered hb =>
      obtain rfl := Option.some.inj (hb.symm.trans ha)
      exact ⟨_, .single (Atomic.Step.reply hstatus), h.close i⟩

/-- A connection that is not at its end has called. -/
theorem Simulated.exists_called (h : Simulated M w o) {p : Session S E α}
    (hp : w.running i = some p) (ha : p.reply? = none) :
    ∃ r, o.status i = .called r ∧ p.Meets M r w.committed (w.ownState i) := by
  have hi := h.linked i
  rw [hp] at hi
  cases hstatus : o.status i with
  | idle =>
    rw [hstatus] at hi
    cases hi
  | called r =>
    rw [hstatus] at hi
    cases hi with
    | called _ hmeets => exact ⟨r, rfl, hmeets⟩
  | answered b =>
    rw [hstatus] at hi
    cases hi with
    | answered hb => cases ha.symm.trans hb

/-- A connection nobody has called on. -/
theorem Simulated.status_eq_idle (h : Simulated M w o) (hnone : w.running i = none) :
    o.status i = .idle := by
  have hi := h.linked i
  rw [hnone] at hi
  cases hstatus : o.status i with
  | idle => rfl
  | called r =>
    rw [hstatus] at hi
    cases hi
  | answered a =>
    rw [hstatus] at hi
    cases hi

/-- A call on both sides. -/
theorem Simulated.call (h : Simulated M w o) {r : ρ} (hnone : w.running i = none)
    (hmeets : (prog r).Meets M r w.committed none) :
    ∃ o', Shows (Atomic.Step M.spec) o [.call i r] o' ∧
      Simulated M (w.goOn i (some (prog r))) o' := by
  have hown : w.ownState i = none := Option.eq_none_iff_forall_ne_some.mpr fun s hs ↦ by
    simpa [hnone] using h.writing (ownState_eq_some.mp hs)
  have henter : ∃ o', Shows (Atomic.Step M.spec) (o.withStatus i (.called r)) [] o' ∧
      Simulated M (w.goOn i (some (prog r))) o' := by
    refine Simulated.enter h.state h.good (fun j hij ↦ ?_) h.writing_goOn
      (Atomic.status_withStatus_self ..) (running_goOn_self ..) ?_
    · simpa [hij] using h.linked j
    · rwa [ownState_goOn, hown]
  obtain ⟨o', ho', hsim⟩ := henter
  exact ⟨o', (Shows.single (Atomic.Step.call r (h.status_eq_idle hnone))).trans ho', hsim⟩

/-- A read. If it fixes the reply, the object does its step here. -/
theorem Simulated.select (h : Simulated M w o) {k : S → Session S E α}
    (hp : w.running i = some (.select k)) :
    ∃ o', Shows (Atomic.Step M.spec) o [] o' ∧
      Simulated M (w.goOn i (some (k (w.visible i)))) o' := by
  obtain ⟨r, hcalled, hmeets⟩ := h.exists_called hp rfl
  refine Simulated.enter h.state h.good (fun j hij ↦ ?_) h.writing_goOn hcalled
    (running_goOn_self ..) ?_
  · simpa [hij] using h.linked j
  · rw [ownState_goOn, visible]
    cases hown : w.ownState i with
    | none =>
      rw [hown] at hmeets
      exact hmeets w.committed h.good (M.keeps_refl _)
    | some t =>
      rw [hown] at hmeets
      exact hmeets

/-- An exception is the answer. -/
theorem Simulated.fail (h : Simulated M w o) {r : ρ} {e : E} (hcalled : o.status i = .called r)
    (hspec : M.spec r (M.abs w.committed) (.error e) (M.abs w.committed)) :
    ∃ o', Shows (Atomic.Step M.spec) o [] o' ∧
      Simulated M ((w.release i).goOn i (some (.raise e))) o' := by
  refine Simulated.enter h.state h.good (fun j hij ↦ ?_) h.writing_release hcalled
    (running_goOn_self ..) hspec
  simpa [hij, ownState_release_of_ne hij] using h.linked j

/-- A write, which nobody sees before the commit. If it raises, the object has refused. -/
theorem Simulated.write (h : Simulated M w o) {f : S → Except E S} {k : Session S E α}
    (hp : w.running i = some (.execute f k)) :
    ∃ o', Shows (Atomic.Step M.spec) o [] o' ∧ Simulated M (w.write i f k) o' := by
  obtain ⟨r, hcalled, hmeets⟩ := h.exists_called hp rfl
  unfold Sessions.write
  split
  · rename_i hfree
    have hboth : (∀ t, f (w.visible i) = .ok t → k.Meets M r w.committed (some t)) ∧
        ∀ e, f (w.visible i) = .error e →
          M.spec r (M.abs w.committed) (.error e) (M.abs w.committed) := by
      rw [visible]
      cases hown : w.ownState i with
      | none =>
        rw [hown] at hmeets
        exact hmeets w.committed h.good (M.keeps_refl _)
      | some t =>
        rw [hown] at hmeets
        exact hmeets
    -- the lock was free or the connection's own: nobody else had it
    have hnone : ∀ j, j ≠ i → w.ownState j = none := by
      intro j hij
      refine Option.eq_none_iff_forall_ne_some.mpr fun t ht ↦ hij ?_
      rw [ownState_eq_some.mp ht, Option.all_some] at hfree
      exact of_decide_eq_true hfree
    cases hf : f (w.visible i) with
    | error e => exact h.fail hcalled (hboth.2 e hf)
    | ok t =>
      have hown : ({ w.goOn i (some k) with writer := some (i, t) } : Sessions ι S E α).ownState i =
          some t := ownState_eq_some.mpr rfl
      refine Simulated.enter h.state h.good (fun j hij ↦ ?_) (fun {j s} hw ↦ ?_) hcalled
        (running_goOn_self ..) (hown ▸ hboth.1 t hf)
      · have hj : ({ w.goOn i (some k) with writer := some (i, t) } : Sessions ι S E α).ownState j =
            w.ownState j := by
          rw [hnone j hij]
          simp [ownState, Option.filter, Ne.symm hij]
        rw [hj]
        simpa [hij] using h.linked j
      · obtain ⟨rfl, -⟩ := Prod.mk.inj (Option.some.inj hw)
        simp
  · exact ⟨o, .refl o, h⟩

/-- **A commit** is the step of the object, or none of its business. -/
theorem Simulated.commit (h : Simulated M w o) {k : Session S E α}
    (hp : w.running i = some (.commit k)) :
    ∃ o', Shows (Atomic.Step M.spec) o [] o' ∧
      Simulated M (({ w with committed := w.visible i }.release i).goOn i (some k)) o' := by
  obtain ⟨r, hcalled, hmeets⟩ := h.exists_called hp rfl
  have hself : ({ w with committed := w.visible i }.release i).ownState i = none :=
    ownState_release_self
  have hothers : ∀ j, j ≠ i →
      ({ w with committed := w.visible i }.release i).ownState j = w.ownState j :=
    fun j hij ↦ ownState_release_of_ne hij
  -- A session that has written nothing commits nothing: it only goes on.
  cases hown : w.ownState i with
  | none =>
    rw [hown] at hmeets
    have hsame : w.visible i = w.committed := by rw [visible, hown, Option.getD_none]
    rw [hsame] at hself hothers ⊢
    refine Simulated.enter h.state h.good (fun j hij ↦ ?_) h.writing_release hcalled
      (running_goOn_self ..) ?_
    · simpa [hij, hothers j hij] using h.linked j
    · rw [ownState_goOn, hself]
      exact hmeets _ h.good (M.keeps_refl _)
  | some t =>
    rw [hown] at hmeets
    obtain ⟨hgood, hkeeps, hacts, hsilent⟩ := hmeets
    have hsame : w.visible i = t := by rw [visible, hown, Option.getD_some]
    rw [hsame] at hself hothers ⊢
    have hlinked : ∀ j, j ≠ i → Linked M t
        ((({ w with committed := t }.release i).goOn i (some k)).ownState j)
        ((({ w with committed := t }.release i).goOn i (some k)).running j) (o.status j) := by
      intro j hij
      have hnone : w.ownState j = none := by
        simp [ownState, ownState_eq_some.mp hown, Option.filter, Ne.symm hij]
      have hj := h.linked j
      rw [hnone] at hj
      rw [ownState_goOn, hothers j hij, hnone, running_goOn_of_ne _ hij]
      exact hj.committed hkeeps
    -- A commit behind which the reply is fixed is the operation; any other one changes no value.
    cases ha : k.reply? with
    | none =>
      obtain ⟨habs, hk⟩ := hsilent ha
      refine Simulated.enter (h.state.trans habs.symm) hgood hlinked h.writing_release hcalled
        (running_goOn_self ..) ?_
      rw [ownState_goOn, hself]
      exact hk
    | some a =>
      have hspec : M.spec r o.state a (M.abs t) := h.state ▸ hacts a ha
      refine ⟨_, .single (Atomic.Step.act hcalled hspec), ?_⟩
      refine ⟨rfl, hgood, fun j ↦ ?_, h.writing_release⟩
      by_cases hij : j = i
      · rw [hij, running_goOn_self, Atomic.status_withStatus_self]
        exact .answered ha
      · rw [Atomic.status_withStatus_of_ne _ hij]
        exact hlinked j hij

/-- **One step of the server is some steps of the object.** -/
theorem Simulated.step {l : Option (Seen ι E ρ α)} {w' : Sessions ι S E α}
    (hprog : ∀ r s, M.Good s → (prog r).Meets M r s none) (h : Simulated M w o)
    (hs : Step prog w l w') :
    ∃ o', Shows (Atomic.Step M.spec) o l.toList o' ∧ Simulated M w' o' := by
  obtain ⟨e, rfl, rfl⟩ := hs
  cases e with
  | cutOff i => exact ⟨_, .single (Atomic.Step.lost o i), h.close i⟩
  | start i r =>
    rw [seen, Sessions.step]
    cases hrun : w.running i with
    | some p => exact ⟨o, .refl o, h⟩
    | none => exact h.call hrun (hprog r w.committed h.good)
  | advance i =>
    rw [seen, Sessions.step, advance]
    cases hp : w.running i with
    | none => exact ⟨o, .refl o, h⟩
    | some p =>
      cases p with
      | ret a => exact h.finish hp rfl
      | raise e => exact h.finish hp rfl
      | select k => exact h.select hp
      | execute f k => exact h.write hp
      | commit k => exact h.commit hp

end Sessions

end Transactions
