import Mathlib.Logic.Function.Basic
import Mathlib.Tactic.Common
import AwikiOpenServer.Lib.Runs

/-!
# Concurrent transactions with one write lock

A `Program` is the statements of one request. Many of them run against one database, and their
statements interleave in any order. The locking is that of an embedded database with a single
writer: a connection is in autocommit **until its first write**, so each of its reads sees whatever
is committed at that moment; its first write takes the write lock, and from then on it works on its
own uncommitted state, which nobody else sees, until it returns (commit) or raises (rollback). A
write of anybody else waits. A connection may also be cut off at any point.

The state records, beside what the database holds, the last state a connection has read: whether
that was still the committed one when the lock was taken is what a stale read turns on.

`World.committed_invariant` is the rule: an invariant holds of every committed state when every
program is `Guarded` by it, which is a condition on one program alone.

## Two modes of one program

Before its first write a program is a reader that anybody may overtake; after it, it is alone.
`Guarded` and `WP` are these two modes. `Guarded` quantifies each read over all states with the
invariant, independently: two reads of one request need not see the same. `WP` is the ordinary
weakest precondition of a sequential program, since under the lock there is nobody else. The rule
for composition (`guarded_bind`) has both, because a part of a program may end in either mode.

**What is checked before the lock is not known under it.** That is the lesson of the definition: a
proof about a request which reads, decides and then writes gets the read state only through `R`, the
relation between the last read and what is committed when the lock is taken. A request that looks
again under the lock needs nothing of `R`, and one that does not needs a condition on the runs.

## The proof of the rule

`Ok` is the invariant of the whole: the committed state satisfies `I`, and each connection still
owes what its program owes, in its mode. One lemma for each way a connection moves (`Ok.select`,
`Ok.execute`, `Ok.commit`, `Ok.close`) says that the others are undisturbed, and this is where the
lock does its work: the committed state changes by a commit only, and nobody else is in the middle
of a write then.
-/

namespace Transactions

/-! ### Programs -/

/-- The statements of a request. A write may fail; its exception is the program's. -/
inductive Program (S E α : Type) where
  | ret (a : α)
  | raise (e : E)
  | select (k : S → Program S E α)
  | execute (f : S → Except E S) (k : Program S E α)

namespace Program

variable {S E α β : Type}

/-- Sequential composition. -/
def bind : Program S E α → (α → Program S E β) → Program S E β
  | ret a, f => f a
  | raise e, _ => raise e
  | select k, f => select fun s ↦ (k s).bind f
  | execute g k, f => execute g (k.bind f)

instance : Monad (Program S E) where
  pure := ret
  bind := bind

/-- A query: what `f` reads off the state. -/
def query (f : S → α) : Program S E α := select fun s ↦ ret (f s)

/-- A write statement. -/
def write (f : S → Except E S) : Program S E Unit := execute f (ret ())

/-- `if c:`, without an else. -/
def onlyIf (c : Bool) (p : Program S E Unit) : Program S E Unit := if c then p else ret ()

/-- A computation that asks nothing of the database. -/
def ofExcept : Except E α → Program S E α
  | .ok a => ret a
  | .error e => raise e

/-- `BEGIN IMMEDIATE`, and a whole handler under the lock. -/
def locked (f : S → Except E (α × S)) : Program S E α :=
  execute .ok <| select fun s ↦
    match f s with
    | .ok (a, s') => execute (fun _ ↦ .ok s') (ret a)
    | .error e => raise e

/-- The program alone on the database. -/
def run : Program S E α → S → Except E (α × S)
  | ret a, s => .ok (a, s)
  | raise e, _ => .error e
  | select k, s => (k s).run s
  | execute f k, s =>
    match f s with
    | .ok s' => k.run s'
    | .error e => .error e

/-! ### Rules for one program -/

/-- Under the lock in state `s`: `Q` holds of the result and of the state it leaves. -/
def WP (Q : α → S → Prop) : Program S E α → S → Prop
  | ret a, s => Q a s
  | raise _, _ => True
  | select k, s => (k s).WP Q s
  | execute f k, s => ∀ s', f s = .ok s' → k.WP Q s'

/-- Before the first write: reads see any state that satisfies `I`, and after the last read saw
`last` the first write may rely on `R last s s'` between the committed state `s` and what it makes
of it. `Q` holds if the program ends without having written, `W` if it has. -/
def Guarded (I : S → Prop) (R : Option S → S → S → Prop) (Q : α → Option S → Prop)
    (W : α → S → Prop) : Option S → Program S E α → Prop
  | last, ret a => Q a last
  | _, raise _ => True
  | _, select k => ∀ s, I s → (k s).Guarded I R Q W (some s)
  | last, execute f k => ∀ s s', I s → f s = .ok s' → R last s s' → k.WP W s'

variable {I : S → Prop} {R : Option S → S → S → Prop} {Q : α → Option S → Prop} {W : α → S → Prop}
  {last : Option S} {s : S}

/-- A finished program has its result. -/
@[simp] theorem wp_pure (W : α → S → Prop) (a : α) (s : S) :
    (pure a : Program S E α).WP W s ↔ W a s := Iff.rfl

/-- Under the lock a query reads the own state. -/
@[simp] theorem wp_query (W : α → S → Prop) (f : S → α) (s : S) :
    (query f : Program S E α).WP W s ↔ W (f s) s := Iff.rfl

/-- And a write changes it, or raises. -/
@[simp] theorem wp_write (W : Unit → S → Prop) (f : S → Except E S) (s : S) :
    (write f : Program S E Unit).WP W s ↔ ∀ s', f s = .ok s' → W () s' := Iff.rfl

/-- A computation gives its value, or raises. -/
theorem wp_ofExcept {W : α → S → Prop} {x : Except E α} :
    (ofExcept x : Program S E α).WP W s ↔ ∀ a, x = .ok a → W a s := by
  cases x with
  | ok a => exact ⟨fun h a' ha' ↦ Except.ok.inj ha' ▸ h, fun h ↦ h a rfl⟩
  | error e => exact ⟨fun _ _ h ↦ absurd h (by simp), fun _ ↦ trivial⟩

/-- A branch without an else. -/
theorem wp_onlyIf {W : Unit → S → Prop} {c : Bool} {p : Program S E Unit} (h : W () s)
    (hp : c = true → p.WP W s) : (onlyIf c p).WP W s := by
  cases c with
  | false => exact h
  | true => exact hp rfl

/-- The second program starts from what the first leaves. -/
theorem wp_bind (W : β → S → Prop) (p : Program S E α) (f : α → Program S E β) (s : S) :
    (p >>= f).WP W s ↔ p.WP (fun a s' ↦ (f a).WP W s') s := by
  induction p generalizing s with
  | ret a => exact Iff.rfl
  | raise e => exact Iff.rfl
  | select k ih => exact ih s s
  | execute g k ih => exact forall₂_congr fun s' _ ↦ ih s'

/-- What implies more may be asked for instead. -/
theorem WP.mono {W W' : α → S → Prop} {p : Program S E α} (h : p.WP W s)
    (hW : ∀ a s, W a s → W' a s) : p.WP W' s := by
  induction p generalizing s with
  | ret a => exact hW a s h
  | raise e => trivial
  | select k ih => exact ih s h
  | execute g k ih => exact fun s' hs' ↦ ih (h s' hs')

/-- A finished program that has written nothing. -/
@[simp] theorem guarded_pure (a : α) : (pure a : Program S E α).Guarded I R Q W last ↔ Q a last :=
  Iff.rfl

/-- A read sees any state with the invariant, and is the last one then. -/
@[simp] theorem guarded_query (f : S → α) :
    (query f : Program S E α).Guarded I R Q W last ↔ ∀ s, I s → Q (f s) (some s) := Iff.rfl

/-- A computation reads nothing. -/
theorem guarded_ofExcept {x : Except E α} :
    (ofExcept x : Program S E α).Guarded I R Q W last ↔ ∀ a, x = .ok a → Q a last := by
  cases x with
  | ok a => exact ⟨fun h a' ha' ↦ Except.ok.inj ha' ▸ h, fun h ↦ h a rfl⟩
  | error e => exact ⟨fun _ _ h ↦ absurd h (by simp), fun _ ↦ trivial⟩

/-- A branch without an else. -/
theorem guarded_onlyIf {Q : Unit → Option S → Prop} {W : Unit → S → Prop} {c : Bool}
    {p : Program S E Unit} (h : Q () last) (hp : c = true → p.Guarded I R Q W last) :
    (onlyIf c p).Guarded I R Q W last := by
  cases c with
  | false => exact h
  | true => exact hp rfl

/-- The rule for composition: the second program starts where the first stopped, with the lock or
without it. -/
theorem guarded_bind {Q : β → Option S → Prop} {W : β → S → Prop} (p : Program S E α)
    (f : α → Program S E β) :
    (p >>= f).Guarded I R Q W last ↔
      p.Guarded I R (fun a l ↦ (f a).Guarded I R Q W l) (fun a s ↦ (f a).WP W s) last := by
  induction p generalizing last with
  | ret a => exact Iff.rfl
  | raise e => exact Iff.rfl
  | select k ih => exact forall₂_congr fun s _ ↦ ih s
  | execute g k ih =>
    exact forall₂_congr fun s s' ↦ imp_congr_right fun _ ↦ imp_congr_right fun _ ↦
      imp_congr_right fun _ ↦ wp_bind W k f s'

/-- The rule for a computation and the rest. -/
theorem guarded_bind_ofExcept {Q : β → Option S → Prop} {W : β → S → Prop} {x : Except E α}
    {f : α → Program S E β} (h : ∀ a, x = .ok a → (f a).Guarded I R Q W last) :
    (ofExcept x >>= f).Guarded I R Q W last :=
  (guarded_bind _ _).mpr (guarded_ofExcept.mpr h)

/-- The rule for a read and the rest, which knows what was read. -/
theorem guarded_bind_query {Q : β → Option S → Prop} {W : β → S → Prop} {g : S → α}
    {f : α → Program S E β} (h : ∀ s, I s → (f (g s)).Guarded I R Q W (some s)) :
    (query g >>= f).Guarded I R Q W last :=
  (guarded_bind _ _).mpr h

/-- The rule for the first write: from here on the program is alone. -/
theorem guarded_bind_write {Q : β → Option S → Prop} {W : β → S → Prop} {g : S → Except E S}
    {f : Unit → Program S E β}
    (h : ∀ s s', I s → g s = .ok s' → R last s s' → (f ()).WP W s') :
    (write g >>= f).Guarded I R Q W last :=
  (guarded_bind _ _).mpr h

/-- What implies more may be asked for instead. -/
theorem Guarded.mono {Q' : α → Option S → Prop} {W' : α → S → Prop} {p : Program S E α}
    (h : p.Guarded I R Q W last) (hQ : ∀ a l, Q a l → Q' a l) (hW : ∀ a s, W a s → W' a s) :
    p.Guarded I R Q' W' last := by
  induction p generalizing last with
  | ret a => exact hQ a last h
  | raise e => trivial
  | select k ih => exact fun s hs ↦ ih s (h s hs)
  | execute g k ih => exact fun s s' hs hs' hR ↦ (h s s' hs hs' hR).mono hW

/-- Alone on the database, the weakest precondition is about the run. -/
theorem WP.run {W : α → S → Prop} {p : Program S E α} (h : p.WP W s) {a : α} {s' : S}
    (hrun : p.run s = .ok (a, s')) : W a s' := by
  induction p generalizing s with
  | ret a => exact (Prod.mk.inj (Except.ok.inj hrun)).1 ▸ (Prod.mk.inj (Except.ok.inj hrun)).2 ▸ h
  | raise e => cases hrun
  | select k ih => exact ih s h hrun
  | execute g k ih =>
    rw [Program.run] at hrun
    split at hrun
    · exact ih (h _ ‹_›) hrun
    · cases hrun

/-- A guarded program that runs alone keeps its invariant. -/
theorem Guarded.run {p : Program S E α}
    (h : p.Guarded I (fun _ _ _ ↦ True) (fun _ _ ↦ True) (fun _ s ↦ I s) last) (hs : I s) {a : α}
    {s' : S} (hrun : p.run s = .ok (a, s')) : I s' := by
  induction p generalizing last with
  | ret a => exact (Prod.mk.inj (Except.ok.inj hrun)).2 ▸ hs
  | raise e => cases hrun
  | select k ih => exact ih s (h s hs) hrun
  | execute g k ih =>
    rw [Program.run] at hrun
    split at hrun
    · exact WP.run (h s _ hs ‹_› trivial) hrun
    · cases hrun

/-- A program that runs alone reads and finds the one state it was started in. -/
theorem Guarded.run_alone {p : Program S E α}
    (h : p.Guarded (· = s) (fun _ _ _ ↦ True) (fun _ _ ↦ True) W last) {a : α} {s' : S}
    (hrun : p.run s = .ok (a, s')) : s' = s ∨ W a s' := by
  induction p generalizing last with
  | ret a => exact .inl (Prod.mk.inj (Except.ok.inj hrun)).2.symm
  | raise e => cases hrun
  | select k ih => exact ih s (h s rfl) hrun
  | execute g k ih =>
    rw [Program.run] at hrun
    split at hrun
    · exact .inr (WP.run (h s _ rfl ‹_› trivial) hrun)
    · cases hrun

/-- A handler under the lock keeps an invariant when its effect does. -/
theorem guarded_locked {f : S → Except E (α × S)}
    (h : ∀ {s a s'}, I s → f s = .ok (a, s') → I s') :
    (locked f).Guarded I R (fun _ _ ↦ True) (fun _ s ↦ I s) last := by
  intro s s' hs hs' _
  obtain rfl := Except.ok.inj hs'
  show Program.WP (fun _ s ↦ I s) (match f s with
    | .ok (a, s') => execute (fun _ ↦ .ok s') (ret a)
    | .error e => raise e) s
  cases hf : f s with
  | error e => trivial
  | ok r =>
    obtain ⟨a, s'⟩ := r
    rintro _ ⟨⟩
    exact h hs hf

end Program

/-! ### The database and its connections -/

/-- The committed state, the connection that holds the write lock with its uncommitted state, and
for each connection what it has still to do and what it last read. -/
structure World (ι S E α : Type) where
  committed : S
  writer : Option (ι × S)
  running : ι → Option (Program S E α)
  lastRead : ι → Option S

/-- What may happen next. -/
inductive Action (ι S E α : Type) where
  | start (i : ι) (p : Program S E α)
  | advance (i : ι)
  | cutOff (i : ι)

namespace World

variable {ι S E α : Type} [DecidableEq ι]

/-- A database nobody is connected to. -/
def idle (s : S) : World ι S E α where
  committed := s
  writer := none
  running _ := none
  lastRead _ := none

/-- The state connection `i` works on under the lock. -/
def ownState (w : World ι S E α) (i : ι) : Option S :=
  match w.writer with
  | some (j, s) => if j = i then some s else none
  | none => none

/-- The connection closes; a lock it held is released and its state dropped. -/
def close (w : World ι S E α) (i : ι) : World ι S E α :=
  { w with
    writer := if (w.ownState i).isSome then none else w.writer
    running := Function.update w.running i none }

/-- The connection commits and closes. -/
def commit (w : World ι S E α) (i : ι) : World ι S E α :=
  { w.close i with committed := (w.ownState i).getD w.committed }

/-- The state a write of `i` works on: its own, else the committed one if the lock is free. -/
def writable (w : World ι S E α) (i : ι) : Option S :=
  match w.writer with
  | some (j, s) => if j = i then some s else none
  | none => some w.committed

/-- One statement of connection `i`. A write that finds the lock taken waits. -/
def advance (w : World ι S E α) (i : ι) : World ι S E α :=
  match w.running i with
  | none => w
  | some (.ret _) => w.commit i
  | some (.raise _) => w.close i
  | some (.select k) =>
    let s := (w.ownState i).getD w.committed
    { w with
      running := Function.update w.running i (some (k s))
      lastRead := Function.update w.lastRead i (some s) }
  | some (.execute f k) =>
    match w.writable i with
    | none => w
    | some s =>
      match f s with
      | .error _ => w.close i
      | .ok s' =>
        { w with
          writer := some (i, s')
          running := Function.update w.running i (some k) }

/-- **One step of the database.** -/
def step (w : World ι S E α) : Action ι S E α → World ι S E α
  | .start i p =>
    if (w.running i).isSome then w
    else
      { w with
        running := Function.update w.running i (some p)
        lastRead := Function.update w.lastRead i none }
  | .advance i => w.advance i
  | .cutOff i => w.close i

/-- The step as a relation. -/
def Step (w : World ι S E α) (a : Action ι S E α) (w' : World ι S E α) : Prop := w.step a = w'

/-- A first write of connection `i`, which takes the lock, may rely on `R`. -/
def FirstWriteMeets (R : Option S → S → S → Prop) (w : World ι S E α) (i : ι) : Prop :=
  ∀ f k s', w.writer = none → w.running i = some (.execute f k) → f w.committed = .ok s' →
    R (w.lastRead i) w.committed s'

/-- **The condition on a step**: only programs of `P` are started, and first writes meet `R`. -/
def Admits (P : Program S E α → Prop) (R : Option S → S → S → Prop) (w : World ι S E α) :
    Action ι S E α → Prop
  | .start _ p => P p
  | .advance i => w.FirstWriteMeets R i
  | .cutOff _ => True

/-- A schedule: these steps, one after the other. -/
def runAll (w : World ι S E α) (actions : List (Action ι S E α)) : World ι S E α :=
  actions.foldl step w

/-- `FirstWriteMeets`, evaluated. -/
def firstWriteMeets (R : Option S → S → S → Bool) (w : World ι S E α) (i : ι) : Bool :=
  match w.writer, w.running i with
  | none, some (.execute f _) =>
    match f w.committed with
    | .ok s' => R (w.lastRead i) w.committed s'
    | .error _ => true
  | _, _ => true

/-- Every first write of a schedule meets `R`. -/
def meetsAll (R : Option S → S → S → Bool) : World ι S E α → List (Action ι S E α) → Bool
  | _, [] => true
  | w, .advance i :: rest => w.firstWriteMeets R i && meetsAll R (w.step (.advance i)) rest
  | w, a :: rest => meetsAll R (w.step a) rest

omit [DecidableEq ι] in
/-- An evaluated condition is the condition. -/
theorem FirstWriteMeets.of_eval {R : Option S → S → S → Bool} {w : World ι S E α} {i : ι}
    (h : w.firstWriteMeets R i = true) :
    w.FirstWriteMeets (fun l s s' ↦ R l s s' = true) i := by
  intro f k s' hw hrun hf
  rw [firstWriteMeets, hw, hrun] at h
  simpa only [hf] using h

/-- A schedule that starts only programs of `P` and whose first writes meet `R` is a run. -/
theorem reachesWith_runAll {P : Program S E α → Prop} {R : Option S → S → S → Bool}
    {w₀ w : World ι S E α} {actions : List (Action ι S E α)}
    (h : Runs.ReachesWith Step (Admits P fun l s s' ↦ R l s s' = true) w₀ w)
    (hstart : ∀ i p, .start i p ∈ actions → P p) (hmeets : meetsAll R w actions = true) :
    Runs.ReachesWith Step (Admits P fun l s s' ↦ R l s s' = true) w₀ (w.runAll actions) := by
  induction actions generalizing w with
  | nil => exact h
  | cons a rest ih =>
    have hrest : ∀ i p, .start i p ∈ rest → P p :=
      fun i p hmem ↦ hstart i p (List.mem_cons_of_mem a hmem)
    cases a with
    | start i p =>
      exact ih (h.tail (l := .start i p) (hstart i p List.mem_cons_self) rfl) hrest hmeets
    | advance i =>
      rw [meetsAll, Bool.and_eq_true] at hmeets
      exact ih (h.tail (l := .advance i) (FirstWriteMeets.of_eval hmeets.1) rfl) hrest hmeets.2
    | cutOff i => exact ih (h.tail (l := .cutOff i) trivial rfl) hrest hmeets

/-! ### The invariant rule -/

/-- What is true of connection `i`: under the lock it will commit a good state, before it it is
guarded. -/
def ConnectionOk (I : S → Prop) (R : Option S → S → S → Prop) (w : World ι S E α) (i : ι) : Prop :=
  ∀ p, w.running i = some p →
    match w.ownState i with
    | some s => p.WP (fun _ s ↦ I s) s
    | none => p.Guarded I R (fun _ _ ↦ True) (fun _ s ↦ I s) (w.lastRead i)

/-- The invariant of the whole. -/
structure Ok (I : S → Prop) (R : Option S → S → S → Prop) (w : World ι S E α) : Prop where
  committed : I w.committed
  connections : ∀ i, w.ConnectionOk I R i
  writing : ∀ {i s}, w.writer = some (i, s) → (w.running i).isSome

variable {I : S → Prop} {R : Option S → S → S → Prop} {w : World ι S E α} {i j : ι}

/-- The own state of a connection is that of the lock it holds. -/
theorem ownState_eq_some {s : S} : w.ownState i = some s ↔ w.writer = some (i, s) := by
  unfold ownState
  split
  · rename_i j s' hw
    by_cases hij : j = i
    · simp [hw, hij]
    · simp [hw, hij]
  · rename_i hw
    simp [hw]

/-- A connection may write its own state, or the committed one if the lock is free. -/
theorem writable_eq_some {s : S} :
    w.writable i = some s ↔ w.ownState i = some s ∨ w.writer = none ∧ w.committed = s := by
  unfold writable ownState
  split
  · rename_i hw
    simp [hw]
  · rename_i hw
    simp [hw]

/-- Where nobody is connected, the invariant is all there is. -/
theorem Ok.idle {s : S} (h : I s) : (World.idle s : World ι S E α).Ok I R where
  committed := h
  connections _ _ hp := by cases hp
  writing hw := by cases hw

/-- Another connection that keeps its program, its last read and the lock stays as good as it
was. -/
theorem ConnectionOk.congr {w' : World ι S E α} (h : w.ConnectionOk I R j)
    (hrun : w'.running j = w.running j) (hlast : w'.lastRead j = w.lastRead j)
    (hown : w'.ownState j = w.ownState j) : w'.ConnectionOk I R j := by
  intro p hp
  rw [hown, hlast]
  exact h p (hrun ▸ hp)

/-- Only its own lock goes with a connection. -/
theorem ownState_close_of_ne (hij : j ≠ i) : (w.close i).ownState j = w.ownState j := by
  unfold close
  by_cases hown : (w.ownState i).isSome = true
  · obtain ⟨s, hs⟩ := Option.isSome_iff_exists.mp hown
    have hw := ownState_eq_some.mp hs
    simp only [hown, if_true]
    simp [ownState, hw, Ne.symm hij]
  · simp only [hown, if_false, Bool.false_eq_true]
    rfl

/-- A connection owes what it owed when another one closes. -/
theorem ConnectionOk.close (h : w.ConnectionOk I R j) : (w.close i).ConnectionOk I R j := by
  by_cases hij : j = i
  · subst hij
    intro p hp
    simp [World.close] at hp
  · exact h.congr (by simp [World.close, hij]) rfl (ownState_close_of_ne hij)

/-- Whoever still holds the lock after a connection closed is still running. -/
theorem running_of_writer_close (hwriting : ∀ {i s}, w.writer = some (i, s) → (w.running i).isSome)
    {s : S} (hw : (w.close i).writer = some (j, s)) : ((w.close i).running j).isSome := by
  unfold World.close at hw ⊢
  by_cases hown : (w.ownState i).isSome = true
  · simp [hown] at hw
  · simp only [hown, if_false, Bool.false_eq_true] at hw
    have hij : j ≠ i := by
      rintro rfl
      exact hown (Option.isSome_iff_exists.mpr ⟨s, ownState_eq_some.mpr hw⟩)
    simpa [hij] using hwriting hw

theorem Ok.writing_close (h : w.Ok I R) {s : S} (hw : (w.close i).writer = some (j, s)) :
    ((w.close i).running j).isSome :=
  running_of_writer_close h.writing hw

/-- Closing a connection, by a rollback or because it was cut off. -/
theorem Ok.close (h : w.Ok I R) : (w.close i).Ok I R where
  committed := h.committed
  connections j := (h.connections j).close
  writing hw := h.writing_close hw

/-- **Committing a good state.** -/
theorem Ok.commit (h : w.Ok I R) {a : α} (hrun : w.running i = some (.ret a)) :
    (w.commit i).Ok I R where
  committed := by
    have hi := h.connections i _ hrun
    show I ((w.ownState i).getD w.committed)
    cases hown : w.ownState i with
    | none => exact h.committed
    | some s =>
      rw [hown] at hi
      exact hi
  connections j := ((h.connections j).close (i := i)).congr rfl rfl rfl
  writing hw := h.writing_close hw

/-- A read. Without the lock it sees what is committed, which satisfies the invariant. -/
theorem Ok.select (h : w.Ok I R) {k : S → Program S E α} (hrun : w.running i = some (.select k)) :
    ({ w with
        running := Function.update w.running i (some (k ((w.ownState i).getD w.committed)))
        lastRead := Function.update w.lastRead i (some ((w.ownState i).getD w.committed)) } :
      World ι S E α).Ok I R where
  committed := h.committed
  connections j := by
    by_cases hij : j = i
    · subst hij
      intro p hp
      obtain rfl : k ((w.ownState j).getD w.committed) = p := by simpa using hp
      have hj := h.connections j _ hrun
      show match w.ownState j with
        | some s => _
        | none => _
      cases hown : w.ownState j with
      | none =>
        rw [hown] at hj
        simpa using hj w.committed h.committed
      | some s =>
        rw [hown] at hj
        exact hj
    · exact (h.connections j).congr (by simp [hij]) (by simp [hij]) rfl
  writing {j s} hw := by
    by_cases hij : j = i
    · subst hij
      simp
    · simpa [hij] using h.writing hw

/-- A write. The first one takes the lock. -/
theorem Ok.execute (h : w.Ok I R) {f : S → Except E S} {k : Program S E α} {s s' : S}
    (hrun : w.running i = some (.execute f k)) (hs : w.writable i = some s) (hf : f s = .ok s')
    (hR : w.FirstWriteMeets R i) :
    ({ w with writer := some (i, s'), running := Function.update w.running i (some k) } :
      World ι S E α).Ok I R where
  committed := h.committed
  connections j := by
    by_cases hij : j = i
    · subst hij
      intro p hp
      obtain rfl : k = p := by simpa using hp
      have hj := h.connections j _ hrun
      simp only [ownState, if_true]
      -- Either it held the lock already, or the lock is free and the write starts from what is
      -- committed.
      unfold writable at hs
      split at hs
      · rename_i j' s₀ hw
        split at hs
        · rename_i hown
          obtain rfl := hown
          obtain rfl := Option.some.inj hs
          rw [ownState_eq_some.mpr hw] at hj
          exact hj s' hf
        · cases hs
      · rename_i hw
        obtain rfl := Option.some.inj hs
        have hown : w.ownState j = none := by simp [ownState, hw]
        rw [hown] at hj
        exact hj w.committed s' h.committed hf (hR f k s' hw hrun hf)
    · refine (h.connections j).congr (by simp [hij]) rfl ?_
      unfold writable at hs
      split at hs
      · rename_i i' s₀ hw
        split at hs
        · rename_i hown
          obtain rfl := hown
          simp [ownState, hw, Ne.symm hij]
        · cases hs
      · rename_i hw
        simp [ownState, hw, Ne.symm hij]
  writing {j s} hw := by
    obtain ⟨rfl, -⟩ := Prod.mk.inj (Option.some.inj hw)
    simp

/-- Any statement. -/
theorem Ok.advance (h : w.Ok I R) (hR : w.FirstWriteMeets R i) : (w.advance i).Ok I R := by
  unfold World.advance
  split
  · exact h
  · exact h.commit ‹_›
  · exact h.close
  · exact h.select ‹_›
  · split
    · exact h
    · split
      · exact h.close
      · exact h.execute ‹_› ‹_› ‹_› hR

/-- A new request owes what its program owes. -/
theorem Ok.start (h : w.Ok I R) {p : Program S E α}
    (hp : p.Guarded I R (fun _ _ ↦ True) (fun _ s ↦ I s) none) :
    (w.step (.start i p)).Ok I R := by
  show (if (w.running i).isSome then w else _).Ok I R
  split
  · exact h
  · rename_i hfree
    have hown : ∀ s, w.writer ≠ some (i, s) := fun s hw ↦ hfree (h.writing hw)
    refine { committed := h.committed, connections := fun j ↦ ?_, writing := fun {j s} hw ↦ ?_ }
    · by_cases hij : j = i
      · subst hij
        intro q hq
        obtain rfl : p = q := by simpa using hq
        have hnone : w.ownState j = none :=
          Option.eq_none_iff_forall_ne_some.mpr fun s hs ↦ hown s (ownState_eq_some.mp hs)
        show match w.ownState j with
          | some s => _
          | none => _
        rw [hnone]
        simpa using hp
      · exact (h.connections j).congr (by simp [hij]) (by simp [hij]) rfl
    · have hij : j ≠ i := fun hji ↦ hown s (hji ▸ hw)
      simpa [hij] using h.writing hw

/-- Any step. -/
theorem Ok.step (h : w.Ok I R) {P : Program S E α → Prop}
    (hP : ∀ p, P p → p.Guarded I R (fun _ _ ↦ True) (fun _ s ↦ I s) none) {a : Action ι S E α}
    (ha : w.Admits P R a) : (w.step a).Ok I R := by
  cases a with
  | start i p => exact h.start (hP p ha)
  | advance i => exact h.advance ha
  | cutOff i => exact h.close

/-- **The rule for committed states.** If every program that is started is guarded by `I`, then in
any interleaving whose first writes meet `R` the committed state satisfies `I`, always. -/
theorem committed_invariant {P : Program S E α → Prop} {s : S} (hs : I s)
    (hP : ∀ p, P p → p.Guarded I R (fun _ _ ↦ True) (fun _ s ↦ I s) none)
    (h : Runs.ReachesWith Step (Admits P R) (World.idle s : World ι S E α) w) :
    I w.committed := by
  have hok : w.Ok I R := h.invariant (Ok.idle hs) fun hi hc hstep ↦ hstep ▸ hi.step hP hc
  exact hok.committed

end World

end Transactions
