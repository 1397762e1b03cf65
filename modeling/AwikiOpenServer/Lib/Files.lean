import Mathlib.Logic.Function.Basic
import Mathlib.Tactic.Common
import AwikiOpenServer.Lib.Runs

/-!
# Transactions and files

A request may work on files beside the database, and files know no transactions: what it does to
them is there at once for everybody, before its commit and after its rollback. The database is the
one of `Program`: reads in autocommit, a write lock from the first write on, a commit or a rollback
at the end. The statements of many requests interleave in any order, and any of them may be cut off.

What can still be proved of one request alone is a matter of **rely and guarantee**. A request
relies on what the requests it does not conflict with do to the committed state and to the files,
and guarantees what it does to them itself. At each of its statements it has an assertion that its
rely leaves true (`Stable`). If no two conflicting requests overlap, every request keeps its
assertions and the common invariant holds always (`FileWorld.rely_guarantee`).

## Why the serial order is not enough

For a database alone, interleavings are serial histories, and a fact about all runs is an induction
over commits. A file operation is outside of that order: it happens when it happens, under no lock,
and it stays when the transaction it belongs to is rolled back. So there is no state "between
commits" in which the files and the tables fit together, and the invariant has to hold after every
statement, with everybody else half way through.

## The three parts of an obligation

* `J`, the common invariant of the committed state and the files. Each statement of each request has
  to keep it; a request may assume it whenever it is about to do something.
* `G r`, what request `r` does: a relation between the committed state and the files before and
  after. It is what others rely on, so the smaller it is the more they know.
* The assertions of `r`, one for each of its statements, chosen in the proof. The rules
  (`guarantees_query`, `guarantees_write`, `guarantees_inspect`, `guarantees_change`) ask for the
  next one and for its stability, and a proof about a request walks through its statements with
  them.

**Conflicts are a parameter.** Two requests that conflict may do to each other what neither
tolerates; the condition `StartsApart` keeps them from overlapping, and everything else overlaps
freely. Which requests conflict is thus part of the result, and the smaller the relation the
stronger the theorem.

A request alone is simpler: `Leaves` follows the committed state only, whatever the files are, and
is all that is needed of a property that no interleaving can spoil.
-/

namespace Transactions

/-! ### Programs -/

/-- The statements of a request. `touch` is a file operation: it may fail, and what follows has seen
the files it found. -/
inductive FileProgram (S F E α : Type) where
  | ret (a : α)
  | raise (e : E)
  | select (k : S → FileProgram S F E α)
  | execute (g : S → Except E S) (k : FileProgram S F E α)
  | touch (g : F → Except E F) (k : F → FileProgram S F E α)

namespace FileProgram

variable {S F E α β : Type}

/-- Sequential composition. -/
def bind : FileProgram S F E α → (α → FileProgram S F E β) → FileProgram S F E β
  | ret a, h => h a
  | raise e, _ => raise e
  | select k, h => select fun s ↦ (k s).bind h
  | execute g k, h => execute g (k.bind h)
  | touch g k, h => touch g fun f ↦ (k f).bind h

instance : Monad (FileProgram S F E) where
  pure := ret
  bind := bind

/-- Composition is associative, so a program may be taken apart at any statement. -/
theorem bind_assoc {γ : Type} (p : FileProgram S F E α) (h : α → FileProgram S F E β)
    (k : β → FileProgram S F E γ) : p >>= h >>= k = p >>= fun a ↦ h a >>= k := by
  show (p.bind h).bind k = p.bind fun a ↦ (h a).bind k
  induction p with
  | ret a => rfl
  | raise e => rfl
  | select next ih => exact congrArg select (funext fun s ↦ ih s)
  | execute g next ih => exact congrArg (execute g) ih
  | touch g next ih => exact congrArg (touch g) (funext fun f ↦ ih f)

/-- A query. -/
def query (h : S → α) : FileProgram S F E α := select fun s ↦ ret (h s)

/-- A write statement. -/
def write (g : S → Except E S) : FileProgram S F E Unit := execute g (ret ())

/-- What `h` reads off the files. -/
def inspect (h : F → Except E α) : FileProgram S F E α := touch .ok fun f ↦
  match h f with
  | .ok a => ret a
  | .error e => raise e

/-- A change to the files. -/
def change (g : F → Except E F) : FileProgram S F E Unit := touch g fun _ ↦ ret ()

/-- A computation that asks nothing of the database or the files. -/
def ofExcept : Except E α → FileProgram S F E α
  | .ok a => ret a
  | .error e => raise e

/-- `if c:`, without an else. -/
def onlyIf (c : Bool) (p : FileProgram S F E Unit) : FileProgram S F E Unit :=
  if c then p else ret ()

/-! ### One request alone -/

/-- The program alone on the database: its answer, and the state and the files it leaves; `s₀` is
what a rollback returns to. -/
def runFrom (s₀ : S) : FileProgram S F E α → S → F → Except E α × S × F
  | ret a, s, f => (.ok a, s, f)
  | raise e, _, f => (.error e, s₀, f)
  | select k, s, f => (k s).runFrom s₀ s f
  | execute g k, s, f =>
    match g s with
    | .ok s' => k.runFrom s₀ s' f
    | .error e => (.error e, s₀, f)
  | touch g k, s, f =>
    match g f with
    | .ok f' => (k f).runFrom s₀ s f'
    | .error e => (.error e, s₀, f)

/-- The program alone, from a committed state. -/
def run (p : FileProgram S F E α) (s : S) (f : F) : Except E α × S × F := p.runFrom s s f

/-- Whatever the files are, `Q` holds of the state the program commits. -/
def Leaves (Q : S → Prop) : FileProgram S F E α → S → Prop
  | ret _, s => Q s
  | raise _, _ => True
  | select k, s => (k s).Leaves Q s
  | execute g k, s => ∀ s', g s = .ok s' → k.Leaves Q s'
  | touch _ k, s => ∀ f, (k f).Leaves Q s

/-- A program alone rolls back or leaves what it must. -/
theorem Leaves.runFrom {Q : S → Prop} {p : FileProgram S F E α} {s₀ s : S} (h : p.Leaves Q s)
    (f : F) : (p.runFrom s₀ s f).2.1 = s₀ ∨ Q (p.runFrom s₀ s f).2.1 := by
  induction p generalizing s f with
  | ret a => exact .inr h
  | raise e => exact .inl rfl
  | select k ih => exact ih s h f
  | execute g k ih =>
    rw [FileProgram.runFrom]
    split
    · exact ih (h _ ‹_›) f
    · exact .inl rfl
  | touch g k ih =>
    rw [FileProgram.runFrom]
    split
    · exact ih f (h f) _
    · exact .inl rfl

/-- A computation that raises ends the program with a rollback. -/
theorem leaves_bind_ofExcept {Q : S → Prop} {x : Except E α} {k : α → FileProgram S F E β} {s : S}
    (h : ∀ a, x = .ok a → (k a).Leaves Q s) : (ofExcept x >>= k).Leaves Q s := by
  cases x with
  | error e => trivial
  | ok a => exact h a rfl

/-- A query passes on what it reads. -/
theorem leaves_bind_query {Q : S → Prop} {h : S → α} {k : α → FileProgram S F E β} {s : S} :
    (query h >>= k).Leaves Q s ↔ (k (h s)).Leaves Q s := Iff.rfl

/-- A write changes the state the rest starts from. -/
theorem leaves_bind_write {Q : S → Prop} {g : S → Except E S} {k : Unit → FileProgram S F E β}
    {s : S} : (write g >>= k).Leaves Q s ↔ ∀ s', g s = .ok s' → (k ()).Leaves Q s' := Iff.rfl

/-- Whatever is found in the files, the rest has to leave what it must. -/
theorem leaves_bind_inspect {Q : S → Prop} {h : F → Except E α} {k : α → FileProgram S F E β}
    {s : S} (hk : ∀ f a, h f = .ok a → (k a).Leaves Q s) : (inspect h >>= k).Leaves Q s := by
  intro f
  show (FileProgram.bind (match h f with | .ok a => ret a | .error e => raise e) k).Leaves Q s
  cases hf : h f with
  | error e => trivial
  | ok a => exact hk f a hf

/-- A change to the files does not touch the state. -/
theorem leaves_bind_change {Q : S → Prop} {g : F → Except E F} {k : Unit → FileProgram S F E β}
    {s : S} (hk : (k ()).Leaves Q s) : (change g >>= k).Leaves Q s := fun _ ↦ hk

/-- A branch without an else is two programs. -/
theorem leaves_bind_onlyIf {Q : S → Prop} {c : Bool} {p : FileProgram S F E Unit}
    {k : Unit → FileProgram S F E β} {s : S} (hp : (p >>= k).Leaves Q s) (hk : (k ()).Leaves Q s) :
    (onlyIf c p >>= k).Leaves Q s := by
  cases c with
  | true => exact hp
  | false => exact hk

end FileProgram

/-! ### Rely and guarantee -/

/-- What is known at a statement: about the committed state, the request's own uncommitted state, if
it has written, and the files. -/
abbrev Assertion (S F : Type) := S → Option S → F → Prop

/-- What happens to the committed state and the files. -/
abbrev Effect (S F : Type) := S → F → S → F → Prop

/-- The assertion is left true by what others do. While the request holds the lock nobody else
commits. -/
def Stable {S F : Type} (R : Effect S F) (A : Assertion S F) : Prop :=
  ∀ s o f s' f', A s o f → R s f s' f' → (o.isSome → s' = s) → A s' o f'

namespace FileProgram

variable {S F E α β : Type} {J : S → F → Prop} {R G : Effect S F} {A : Assertion S F}

/-- **The obligation of a request** from a statement with assertion `A` on, where `J` holds: each of
its statements has an assertion that others leave true, and what it does to the files, or commits,
keeps `J` and is of `G`. -/
def Guarantees (J : S → F → Prop) (R G : Effect S F) : FileProgram S F E α → Assertion S F → Prop
  | ret _, A => ∀ s own f, J s f → A s (some own) f → J own f ∧ G s f own f
  | raise _, _ => True
  | select k, A => ∀ s o f, J s f → A s o f →
      ∃ A', Stable R A' ∧ A' s o f ∧ (k (o.getD s)).Guarantees J R G A'
  | execute g k, A => ∀ s o f own, J s f → A s o f → g (o.getD s) = .ok own →
      ∃ A', Stable R A' ∧ A' s (some own) f ∧ k.Guarantees J R G A'
  | touch g k, A => ∀ s o f f', J s f → A s o f → g f = .ok f' →
      J s f' ∧ G s f s f' ∧ ∃ A', Stable R A' ∧ A' s o f' ∧ (k f).Guarantees J R G A'

/-- An obligation from a weaker assertion on. -/
theorem Guarantees.of_imp {p : FileProgram S F E α} {A' : Assertion S F}
    (h : p.Guarantees J R G A) (hA : ∀ s o f, A' s o f → A s o f) : p.Guarantees J R G A' := by
  cases p with
  | ret a => exact fun s own f hJ hown ↦ h s own f hJ (hA _ _ _ hown)
  | raise e => trivial
  | select k => exact fun s o f hJ ho ↦ h s o f hJ (hA _ _ _ ho)
  | execute g k => exact fun s o f own hJ ho ↦ h s o f own hJ (hA _ _ _ ho)
  | touch g k => exact fun s o f f' hJ ho ↦ h s o f f' hJ (hA _ _ _ ho)

/-- A computation neither sees nor does anything, so the assertion stays. -/
theorem guarantees_ofExcept {x : Except E α} {k : α → FileProgram S F E β}
    (h : ∀ a, x = .ok a → (k a).Guarantees J R G A) : (ofExcept x >>= k).Guarantees J R G A := by
  cases x with
  | error e => trivial
  | ok a => exact h a rfl

/-- A query may use the assertion on the state it reads, and leads to the next one. -/
theorem guarantees_query {h : S → α} {k : α → FileProgram S F E β}
    (hk : ∀ s o f, J s f → A s o f →
      ∃ A', Stable R A' ∧ A' s o f ∧ (k (h (o.getD s))).Guarantees J R G A') :
    (query h >>= k).Guarantees J R G A := hk

/-- A write works on the own state under the lock; nobody sees it before the commit, so it has
nothing to guarantee yet. -/
theorem guarantees_write {g : S → Except E S} {k : Unit → FileProgram S F E β}
    (hk : ∀ s o f own, J s f → A s o f → g (o.getD s) = .ok own →
      ∃ A', Stable R A' ∧ A' s (some own) f ∧ (k ()).Guarantees J R G A') :
    (write g >>= k).Guarantees J R G A := hk

/-- Looking at files does nothing to them. -/
theorem guarantees_inspect (hG : ∀ s f, G s f s f) {h : F → Except E α}
    {k : α → FileProgram S F E β}
    (hk : ∀ s o f a, J s f → A s o f → h f = .ok a →
      ∃ A', Stable R A' ∧ A' s o f ∧ (k a).Guarantees J R G A') :
    (inspect h >>= k).Guarantees J R G A := by
  rintro s o f _ hJ hA ⟨⟩
  refine ⟨hJ, hG s f, ?_⟩
  show ∃ A', Stable R A' ∧ A' s o f ∧
    (FileProgram.bind (match h f with | .ok a => ret a | .error e => raise e) k).Guarantees J R G A'
  cases hf : h f with
  | error e => exact ⟨fun _ _ _ ↦ True, fun _ _ _ _ _ _ _ _ ↦ trivial, trivial, trivial⟩
  | ok a => exact hk s o f a hJ hA hf

/-- A change to the files is seen at once: it has to keep the invariant and be an effect of the
request. -/
theorem guarantees_change {g : F → Except E F} {k : Unit → FileProgram S F E β}
    (hk : ∀ s o f f', J s f → A s o f → g f = .ok f' →
      J s f' ∧ G s f s f' ∧ ∃ A', Stable R A' ∧ A' s o f' ∧ (k ()).Guarantees J R G A') :
    (change g >>= k).Guarantees J R G A := hk

/-- Both ways go on from the same assertion. -/
theorem guarantees_onlyIf {c : Bool} {p : FileProgram S F E Unit} {k : Unit → FileProgram S F E β}
    (hp : (p >>= k).Guarantees J R G A) (hk : (k ()).Guarantees J R G A) :
    (onlyIf c p >>= k).Guarantees J R G A := by
  cases c with
  | true => exact hp
  | false => exact hk

end FileProgram

/-! ### The database, the files and the requests -/

/-- The committed state, the files, the connection that holds the write lock with its uncommitted
state, and what each connection has still to do for its request. -/
structure FileWorld (ι ρ S F E α : Type) where
  committed : S
  files : F
  writer : Option (ι × S)
  running : ι → Option (ρ × FileProgram S F E α)

/-- What may happen next. -/
inductive FileEvent (ι ρ : Type) where
  | start (i : ι) (r : ρ)
  | advance (i : ι)
  | cutOff (i : ι)

/-- Where it happens. -/
def FileEvent.connection {ι ρ : Type} : FileEvent ι ρ → ι
  | start i _ => i
  | advance i => i
  | cutOff i => i

/-- A request served by itself: started, and then `n` statements. -/
def FileEvent.serve {ι ρ : Type} (i : ι) (r : ρ) (n : ℕ) : List (FileEvent ι ρ) :=
  start i r :: List.replicate n (advance i)

namespace FileWorld

variable {ι ρ S F E α : Type} [DecidableEq ι]

/-- Nobody is connected. -/
def idle (s : S) (f : F) : FileWorld ι ρ S F E α where
  committed := s
  files := f
  writer := none
  running _ := none

/-- The state connection `i` works on under the lock. -/
def ownState (w : FileWorld ι ρ S F E α) (i : ι) : Option S :=
  match w.writer with
  | some (j, s) => if j = i then some s else none
  | none => none

/-- The connection closes; a lock it held is released and its state dropped. What it did to the
files stays. -/
def close (w : FileWorld ι ρ S F E α) (i : ι) : FileWorld ι ρ S F E α :=
  { w with
    writer := if (w.ownState i).isSome then none else w.writer
    running := Function.update w.running i none }

/-- The connection goes on with `p`. -/
def goOn (w : FileWorld ι ρ S F E α) (i : ι) (r : ρ) (p : FileProgram S F E α) :
    FileWorld ι ρ S F E α :=
  { w with running := Function.update w.running i (some (r, p)) }

/-- One statement of connection `i`. A write that finds the lock taken waits. -/
def advance (w : FileWorld ι ρ S F E α) (i : ι) : FileWorld ι ρ S F E α :=
  match w.running i with
  | none => w
  | some (_, .ret _) => { w.close i with committed := (w.ownState i).getD w.committed }
  | some (_, .raise _) => w.close i
  | some (r, .select k) => w.goOn i r (k ((w.ownState i).getD w.committed))
  | some (r, .execute g k) =>
    if w.writer.isSome ∧ w.ownState i = none then w
    else
      match g ((w.ownState i).getD w.committed) with
      | .error _ => w.close i
      | .ok s => { w.goOn i r k with writer := some (i, s) }
  | some (r, .touch g k) =>
    match g w.files with
    | .error _ => w.close i
    | .ok f => { w.goOn i r (k w.files) with files := f }

/-- **One step.** -/
def step (prog : ρ → FileProgram S F E α) (w : FileWorld ι ρ S F E α) :
    FileEvent ι ρ → FileWorld ι ρ S F E α
  | .start i r => if (w.running i).isSome then w else w.goOn i r (prog r)
  | .advance i => w.advance i
  | .cutOff i => w.close i

/-- The step as a relation. -/
def Step (prog : ρ → FileProgram S F E α) (w : FileWorld ι ρ S F E α) (e : FileEvent ι ρ)
    (w' : FileWorld ι ρ S F E α) : Prop := w.step prog e = w'

/-- The steps of a schedule. -/
def runAll (prog : ρ → FileProgram S F E α) (w : FileWorld ι ρ S F E α)
    (events : List (FileEvent ι ρ)) : FileWorld ι ρ S F E α :=
  events.foldl (step prog) w

/-- **The condition on a step**: no request starts while one that conflicts with it is running. -/
def StartsApart (conflict : ρ → ρ → Prop) (w : FileWorld ι ρ S F E α) : FileEvent ι ρ → Prop
  | .start i r => ∀ j r' p, j ≠ i → w.running j = some (r', p) → ¬ conflict r r' ∧ ¬ conflict r' r
  | _ => True

/-- What a request may count on: the effects of the requests it does not conflict with. -/
def Rely (J : S → F → Prop) (G : ρ → Effect S F) (conflict : ρ → ρ → Prop) (r : ρ) : Effect S F :=
  fun s f s' f' ↦ J s f ∧ J s' f' ∧ ∃ r', ¬ conflict r r' ∧ G r' s f s' f'

/-- Every running request has an assertion it goes on from. -/
structure Sound (J : S → F → Prop) (G : ρ → Effect S F) (conflict : ρ → ρ → Prop)
    (w : FileWorld ι ρ S F E α) : Prop where
  invariant : J w.committed w.files
  connections : ∀ i r p, w.running i = some (r, p) → ∃ A, Stable (Rely J G conflict r) A ∧
    A w.committed (w.ownState i) w.files ∧ p.Guarantees J (Rely J G conflict r) (G r) A
  apart : ∀ i j r r' p p', i ≠ j → w.running i = some (r, p) → w.running j = some (r', p') →
    ¬ conflict r r'
  writing : ∀ i s, w.writer = some (i, s) → (w.running i).isSome

namespace Sound

variable {J : S → F → Prop} {G : ρ → Effect S F} {conflict : ρ → ρ → Prop}
  {prog : ρ → FileProgram S F E α} {w : FileWorld ι ρ S F E α} {i : ι} {s : S} {f : F}

theorem idle (h : J s f) : (idle s f : FileWorld ι ρ S F E α).Sound J G conflict where
  invariant := h
  connections _ _ _ hrun := by cases hrun
  apart _ _ _ _ _ _ _ hrun := by cases hrun
  writing _ _ hw := by cases hw

/-- The own state of a connection is that of the lock it holds. -/
theorem ownState_eq_some {j : ι} : w.ownState j = some s ↔ w.writer = some (j, s) := by
  unfold ownState
  cases w.writer with
  | none => simp
  | some p =>
    obtain ⟨k, s'⟩ := p
    dsimp only
    split
    · rename_i heq
      simp [heq]
    · rename_i hne
      simp [hne]

/-- And depends on the lock only. -/
theorem ownState_congr {w' : FileWorld ι ρ S F E α} (h : w'.writer = w.writer) (j : ι) :
    w'.ownState j = w.ownState j := by
  rw [ownState, h, ownState]

/-- Only its own lock goes with a connection. -/
theorem ownState_close_of_ne {j : ι} (hij : j ≠ i) : (w.close i).ownState j = w.ownState j := by
  by_cases hown : (w.ownState i).isSome = true
  · obtain ⟨s, hs⟩ := Option.isSome_iff_exists.mp hown
    have hfree : (w.close i).writer = none := if_pos hown
    rw [ownState, hfree, ownState, ownState_eq_some.mp hs]
    exact (if_neg (Ne.symm hij)).symm
  · exact ownState_congr (if_neg hown) j

/-- A closed connection has none. -/
theorem ownState_close_self : (w.close i).ownState i = none := by
  by_cases hown : (w.ownState i).isSome = true
  · have hfree : (w.close i).writer = none := if_pos hown
    rw [ownState, hfree]
  · rw [ownState_congr (if_neg hown) i]
    exact Option.not_isSome_iff_eq_none.mp hown

/-- **What a connection does leaves the others' assertions true**: it makes an effect of its
request, and commits only where nobody else holds the lock. -/
theorem others (h : w.Sound J G conflict) {r : ρ} {p : FileProgram S F E α}
    (hrun : w.running i = some (r, p)) (hJ : J s f) (hG : G r w.committed w.files s f)
    (hlocked : s = w.committed ∨ w.writer = none ∨ ∃ own, w.writer = some (i, own))
    {j : ι} {r' : ρ} {p' : FileProgram S F E α} (hij : j ≠ i)
    (hj : w.running j = some (r', p')) :
    ∃ A, Stable (Rely J G conflict r') A ∧ A s (w.ownState j) f ∧
      p'.Guarantees J (Rely J G conflict r') (G r') A := by
  obtain ⟨A, hstable, hA, hguarantees⟩ := h.connections j r' p' hj
  have hrely : Rely J G conflict r' w.committed w.files s f :=
    ⟨h.invariant, hJ, r, h.apart j i r' r p' p hij hj hrun, hG⟩
  refine ⟨A, hstable, hstable _ _ _ _ _ hA hrely fun hsome ↦ ?_, hguarantees⟩
  rcases hlocked with hsame | hnone | ⟨own, hown⟩
  · exact hsame
  · simp [ownState, hnone] at hsome
  · simp [ownState, hown, Ne.symm hij] at hsome

/-- A connection closes, having made an effect of its request or none at all. -/
theorem close_of (h : w.Sound J G conflict) (hJ : J s w.files)
    (hothers : ∀ j r p, j ≠ i → w.running j = some (r, p) →
      ∃ A, Stable (Rely J G conflict r) A ∧ A s (w.ownState j) w.files ∧
        p.Guarantees J (Rely J G conflict r) (G r) A) :
    ({ w.close i with committed := s } : FileWorld ι ρ S F E α).Sound J G conflict := by
  have hkept : ∀ {j r p}, (w.close i).running j = some (r, p) →
      j ≠ i ∧ w.running j = some (r, p) := by
    intro j r p hj
    by_cases hij : j = i
    · subst hij
      simp [close] at hj
    · exact ⟨hij, by simpa [close, hij] using hj⟩
  refine ⟨hJ, fun j r p hj ↦ ?_, fun j k r r' p p' hjk hj hk ↦ ?_, fun j own hw ↦ ?_⟩
  · obtain ⟨hij, hj'⟩ := hkept hj
    obtain ⟨A, hstable, hA, hguarantees⟩ := hothers j r p hij hj'
    refine ⟨A, hstable, ?_, hguarantees⟩
    show A s ((w.close i).ownState j) w.files
    rw [ownState_close_of_ne hij]
    exact hA
  · exact h.apart j k r r' p p' hjk (hkept hj).2 (hkept hk).2
  · have hj : (w.close i).ownState j = some own := ownState_eq_some.mpr hw
    by_cases hij : j = i
    · subst hij
      rw [ownState_close_self] at hj
      cases hj
    · rw [ownState_close_of_ne hij, ownState_eq_some] at hj
      simpa [close, hij] using h.writing j own hj

/-- A connection goes on from a new assertion. -/
theorem goOn_of (h : w.Sound J G conflict) {r : ρ} {p p' : FileProgram S F E α}
    (hrun : w.running i = some (r, p)) {own : Option S} {writer : Option (ι × S)}
    (hwriter : writer = w.writer ∧ own = w.ownState i ∨
      ∃ s, writer = some (i, s) ∧ own = some s ∧ (w.writer.isSome → (w.ownState i).isSome))
    (hJ : J w.committed f)
    (hothers : ∀ j r p, j ≠ i → w.running j = some (r, p) →
      ∃ A, Stable (Rely J G conflict r) A ∧ A w.committed (w.ownState j) f ∧
        p.Guarantees J (Rely J G conflict r) (G r) A)
    {A : Assertion S F} (hstable : Stable (Rely J G conflict r) A) (hA : A w.committed own f)
    (hguarantees : p'.Guarantees J (Rely J G conflict r) (G r) A) :
    ({ w.goOn i r p' with files := f, writer := writer } : FileWorld ι ρ S F E α).Sound
      J G conflict := by
  have hwas : ∀ {j r₁ p₁}, (w.goOn i r p').running j = some (r₁, p₁) →
      ∃ p₂, w.running j = some (r₁, p₂) := by
    intro j r₁ p₁ hj
    by_cases hij : j = i
    · subst hij
      obtain ⟨rfl, -⟩ : r = r₁ ∧ p' = p₁ := by simpa [goOn] using hj
      exact ⟨p, hrun⟩
    · exact ⟨p₁, by simpa [goOn, hij] using hj⟩
  -- The others hold what they held: if this connection writes now, nobody else did.
  have hown : ∀ j, j ≠ i → ownState ({ w.goOn i r p' with files := f, writer := writer } :
      FileWorld ι ρ S F E α) j = w.ownState j := by
    intro j hij
    rcases hwriter with ⟨rfl, -⟩ | ⟨s, rfl, -, hheld⟩
    · rfl
    · have hnone : w.ownState j = none := by
        unfold ownState at hheld ⊢
        cases hw : w.writer with
        | none => rfl
        | some q =>
          obtain ⟨k, s'⟩ := q
          rw [hw] at hheld
          have hki : k = i := by
            by_contra hne
            simp [hne] at hheld
          simp [hki, Ne.symm hij]
      rw [hnone]
      exact if_neg (Ne.symm hij)
  refine ⟨hJ, fun j r₁ p₁ hj ↦ ?_, fun j k r₁ r₂ p₁ p₂ hjk hj hk ↦ ?_, fun j s hw ↦ ?_⟩
  · by_cases hij : j = i
    · subst hij
      obtain ⟨rfl, rfl⟩ : r = r₁ ∧ p' = p₁ := by simpa [goOn] using hj
      refine ⟨A, hstable, ?_, hguarantees⟩
      have hmine : ownState ({ w.goOn j r p' with files := f, writer := writer } :
          FileWorld ι ρ S F E α) j = own := by
        rcases hwriter with ⟨rfl, rfl⟩ | ⟨s, rfl, rfl, -⟩
        · rfl
        · simp [ownState]
      rw [hmine]
      exact hA
    · obtain ⟨A', hstable', hA', hguarantees'⟩ :=
        hothers j r₁ p₁ hij (by simpa [goOn, hij] using hj)
      refine ⟨A', hstable', ?_, hguarantees'⟩
      rw [hown j hij]
      exact hA'
  · obtain ⟨p₁', hj'⟩ := hwas hj
    obtain ⟨p₂', hk'⟩ := hwas hk
    exact h.apart j k r₁ r₂ p₁' p₂' hjk hj' hk'
  · by_cases hij : j = i
    · subst hij
      simp [goOn]
    · have hs : w.ownState j = some s := (hown j hij).symm.trans (ownState_eq_some.mpr hw)
      simpa [goOn, hij] using h.writing j s (ownState_eq_some.mp hs)

/-- Whoever waits for nobody holds the lock, or it is free. -/
theorem held_of_not_waiting (h : ¬ (w.writer.isSome = true ∧ w.ownState i = none)) :
    w.writer.isSome → (w.ownState i).isSome := fun hw ↦
  Option.isSome_iff_ne_none.mpr fun hnone ↦ h ⟨hw, hnone⟩

/-- **One statement keeps everybody's assertions.** -/
theorem advance (h : w.Sound J G conflict) (i : ι) : (w.advance i).Sound J G conflict := by
  unfold FileWorld.advance
  cases hrun : w.running i with
  | none => exact h
  | some q =>
    obtain ⟨r, p⟩ := q
    obtain ⟨A, hstable, hA, hguarantees⟩ := h.connections i r p hrun
    have hunchanged : ∀ j r p, j ≠ i → w.running j = some (r, p) →
        ∃ A, Stable (Rely J G conflict r) A ∧ A w.committed (w.ownState j) w.files ∧
          p.Guarantees J (Rely J G conflict r) (G r) A :=
      fun j r p _ hj ↦ h.connections j r p hj
    cases p with
    | ret a =>
      cases hown : w.ownState i with
      | none => exact h.close_of h.invariant hunchanged
      | some s =>
        rw [hown] at hA
        obtain ⟨hJ, hG⟩ := hguarantees _ _ _ h.invariant hA
        exact h.close_of hJ fun j r' p' hij hj ↦
          h.others hrun hJ hG (.inr (.inr ⟨s, ownState_eq_some.mp hown⟩)) hij hj
    | raise e => exact h.close_of h.invariant hunchanged
    | select k =>
      obtain ⟨A', hstable', hA', hguarantees'⟩ := hguarantees _ _ _ h.invariant hA
      exact h.goOn_of hrun (.inl ⟨rfl, rfl⟩) h.invariant hunchanged hstable' hA' hguarantees'
    | execute g k =>
      dsimp only
      split
      · exact h
      · rename_i hfree
        cases hg : g ((w.ownState i).getD w.committed) with
        | error e => exact h.close_of h.invariant hunchanged
        | ok s =>
          obtain ⟨A', hstable', hA', hguarantees'⟩ := hguarantees _ _ _ _ h.invariant hA hg
          exact h.goOn_of hrun (.inr ⟨s, rfl, rfl, held_of_not_waiting hfree⟩) h.invariant
            hunchanged
            hstable' hA' hguarantees'
    | touch g k =>
      dsimp only
      cases hg : g w.files with
      | error e => exact h.close_of h.invariant hunchanged
      | ok f =>
        obtain ⟨hJ, hG, A', hstable', hA', hguarantees'⟩ := hguarantees _ _ _ _ h.invariant hA hg
        exact h.goOn_of hrun (.inl ⟨rfl, rfl⟩) hJ (fun j r' p' hij hj ↦
          h.others hrun hJ hG (.inl rfl) hij hj) hstable' hA' hguarantees'

/-- A request starts with nothing written. -/
theorem start (h : w.Sound J G conflict) {r : ρ} (hfree : w.running i = none)
    (hprog : (prog r).Guarantees J (Rely J G conflict r) (G r) fun _ o _ ↦ o = none)
    (hapart : ∀ j r' p, j ≠ i → w.running j = some (r', p) → ¬ conflict r r' ∧ ¬ conflict r' r) :
    (w.goOn i r (prog r)).Sound J G conflict := by
  have hother : ∀ {j r' p'}, j ≠ i → (w.goOn i r (prog r)).running j = some (r', p') →
      w.running j = some (r', p') := fun hij hj ↦ by simpa [goOn, hij] using hj
  have hmine : ∀ {r' p'}, (w.goOn i r (prog r)).running i = some (r', p') → r = r' ∧ prog r = p' :=
    fun hj ↦ by simpa [goOn] using hj
  refine ⟨h.invariant, fun j r' p' hj ↦ ?_, fun j k r₁ r₂ p₁ p₂ hjk hj hk ↦ ?_, fun j s hw ↦ ?_⟩
  · by_cases hij : j = i
    · subst hij
      obtain ⟨rfl, rfl⟩ := hmine hj
      refine ⟨_, fun _ _ _ _ _ hA _ _ ↦ hA, ?_, hprog⟩
      show w.ownState j = none
      refine Option.eq_none_iff_forall_ne_some.mpr fun s hs ↦ ?_
      have hrunning := h.writing j s (ownState_eq_some.mp hs)
      simp [hfree] at hrunning
    · exact h.connections j r' p' (hother hij hj)
  · by_cases hij : j = i
    · subst hij
      obtain ⟨rfl, -⟩ := hmine hj
      exact (hapart k r₂ p₂ (Ne.symm hjk) (hother (Ne.symm hjk) hk)).1
    · by_cases hik : k = i
      · subst hik
        obtain ⟨rfl, -⟩ := hmine hk
        exact (hapart j r₁ p₁ hij (hother hij hj)).2
      · exact h.apart j k r₁ r₂ p₁ p₂ hjk (hother hij hj) (hother hik hk)
  · by_cases hij : j = i
    · subst hij
      simp [goOn]
    · simpa [goOn, hij] using h.writing j s hw

/-- **Every step whose requests start apart keeps everybody's assertions.** -/
theorem step (h : w.Sound J G conflict)
    (hprog : ∀ r, (prog r).Guarantees J (Rely J G conflict r) (G r) fun _ o _ ↦ o = none)
    {e : FileEvent ι ρ} (he : w.StartsApart conflict e) : (w.step prog e).Sound J G conflict := by
  cases e with
  | advance i => exact h.advance i
  | cutOff i => exact h.close_of h.invariant fun j r p _ hj ↦ h.connections j r p hj
  | start i r =>
    rw [FileWorld.step]
    split
    · exact h
    · rename_i hfree
      exact h.start (Option.not_isSome_iff_eq_none.mp hfree) (hprog r) he

end Sound

/-- **The rule.** If every request meets its obligation, then in any interleaving in which no two
conflicting requests overlap, requests cut off at any statement included, the invariant holds of the
committed state and the files, always. -/
theorem rely_guarantee {J : S → F → Prop} {G : ρ → Effect S F} {conflict : ρ → ρ → Prop}
    {prog : ρ → FileProgram S F E α} {s : S} {f : F} {w : FileWorld ι ρ S F E α} (hJ : J s f)
    (hprog : ∀ r, (prog r).Guarantees J (Rely J G conflict r) (G r) fun _ o _ ↦ o = none)
    (h : Runs.ReachesWith (Step prog) (StartsApart conflict) (idle s f) w) :
    J w.committed w.files := by
  have hsound : w.Sound J G conflict :=
    h.invariant (Sound.idle hJ) fun hi he hstep ↦ hstep ▸ hi.step hprog he
  exact hsound.invariant

/-- **What runs was running, or has just been started.** -/
theorem running_step {prog : ρ → FileProgram S F E α} {w : FileWorld ι ρ S F E α}
    {e : FileEvent ι ρ} {j : ι} {r : ρ} {p : FileProgram S F E α}
    (h : (w.step prog e).running j = some (r, p)) :
    e = .start j r ∨ ∃ p', w.running j = some (r, p') := by
  -- Closing a connection starts nothing, and going on keeps the request.
  have hclose : ∀ {i}, (w.close i).running j = some (r, p) → w.running j = some (r, p) := by
    intro i h
    by_cases hj : j = i
    · subst hj
      exact absurd (h.symm.trans (Function.update_self ..)) nofun
    · exact (Function.update_of_ne hj _ _).symm.trans h
  have hgoOn : ∀ {i r₀ p₀}, (w.goOn i r₀ p₀).running j = some (r, p) →
      j = i ∧ r₀ = r ∨ w.running j = some (r, p) := by
    intro i r₀ p₀ h
    by_cases hj : j = i
    · subst hj
      have h : Function.update w.running j (some (r₀, p₀)) j = some (r, p) := h
      rw [Function.update_self] at h
      exact .inl ⟨rfl, congrArg Prod.fst (Option.some.inj h)⟩
    · exact .inr ((Function.update_of_ne hj _ _).symm.trans h)
  cases e with
  | start i r₀ =>
    rw [FileWorld.step] at h
    split at h
    · exact .inr ⟨p, h⟩
    · rcases hgoOn h with ⟨rfl, rfl⟩ | h
      · exact .inl rfl
      · exact .inr ⟨p, h⟩
  | cutOff i => exact .inr ⟨p, hclose h⟩
  | advance i =>
    have hnext : ∀ {r₀ p₀ p₁}, w.running i = some (r₀, p₀) →
        (w.goOn i r₀ p₁).running j = some (r, p) → ∃ p', w.running j = some (r, p') := by
      intro r₀ p₀ p₁ hi h
      rcases hgoOn h with ⟨rfl, rfl⟩ | h
      · exact ⟨p₀, hi⟩
      · exact ⟨p, h⟩
    right
    change (w.advance i).running j = _ at h
    unfold FileWorld.advance at h
    split at h
    · exact ⟨p, h⟩
    · exact ⟨p, hclose h⟩
    · exact ⟨p, hclose h⟩
    · rename_i hi
      exact hnext hi h
    · rename_i hi
      split at h
      · exact ⟨p, h⟩
      · split at h
        · exact ⟨p, hclose h⟩
        · exact hnext hi h
    · rename_i hi
      split at h
      · exact ⟨p, hclose h⟩
      · exact hnext hi h

/-- A request that runs in a schedule has been started by it. -/
theorem start_mem_of_running {prog : ρ → FileProgram S F E α} {s : S} {f : F}
    (events : List (FileEvent ι ρ)) {j : ι} {r : ρ} {p : FileProgram S F E α}
    (h : ((idle s f).runAll prog events).running j = some (r, p)) : .start j r ∈ events := by
  refine List.foldlRecOn (motive := fun w : FileWorld ι ρ S F E α ↦
    ∀ p, w.running j = some (r, p) → .start j r ∈ events) events _ (fun p h ↦ by cases h) ?_ p h
  intro w hw e he p hrun
  obtain rfl | ⟨p', hp'⟩ := running_step hrun
  · exact he
  · exact hw p' hp'

/-- Every schedule whose requests start apart is a run. -/
theorem reachesWith_runAll {prog : ρ → FileProgram S F E α} {C : FileWorld ι ρ S F E α →
    FileEvent ι ρ → Prop} {w₀ w : FileWorld ι ρ S F E α} (events : List (FileEvent ι ρ))
    (h : Runs.ReachesWith (Step prog) C w₀ w)
    (hC : ∀ before e after, events = before ++ e :: after → C (w.runAll prog before) e) :
    Runs.ReachesWith (Step prog) C w₀ (w.runAll prog events) := by
  induction events generalizing w with
  | nil => exact h
  | cons e rest ih =>
    refine ih (h.tail (l := e) (hC [] e rest rfl) rfl) fun before e' after heq ↦ ?_
    exact hC (e :: before) e' after (by rw [heq]; rfl)

/-- Requests start apart if those of different connections do not conflict. -/
theorem reachesWith_apart {prog : ρ → FileProgram S F E α} {conflict : ρ → ρ → Prop} {s : S} {f : F}
    (events : List (FileEvent ι ρ))
    (h : ∀ i r j r', .start i r ∈ events → .start j r' ∈ events → i ≠ j → ¬ conflict r r') :
    Runs.ReachesWith (Step prog) (StartsApart conflict) (idle s f)
      ((idle s f).runAll prog events) := by
  refine reachesWith_runAll events (Runs.ReachesWith.refl _) fun before e after heq ↦ ?_
  subst heq
  cases e with
  | start i r =>
    intro j r' p hj hrun
    have hi : .start i r ∈ before ++ .start i r :: after := by simp
    have hstarted := List.mem_append_left (.start i r :: after) (start_mem_of_running before hrun)
    exact ⟨h i r j r' hi hstarted hj.symm, h j r' i r hstarted hi hj⟩
  | advance i => trivial
  | cutOff i => trivial

end FileWorld

end Transactions
