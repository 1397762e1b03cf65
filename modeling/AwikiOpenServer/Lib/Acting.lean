import AwikiOpenServer.Lib.Transactions

/-!
# Programs that act outside

Between its statements a request may do something that no rollback takes back: it calls another
service, it announces something. An `Acting` program has one more kind of step for that. Its
`statements` are what the database sees of it; `recorded` is the same program, whose result tells
what was done on the way.

`MayEnd` says how it may end **whatever happens around it**: each of its statements meets some state
with `K`, and nothing else is known of the others.

**One program, three readings.** For its effect on the database the actions are dropped
(`statements`), and all rules of `Program` apply. For what it has committed and done together, it is
`recorded`, and the same rules apply to a program with a longer result; recording changes nothing
else (`map_recorded`). For what it does outside when others run beside it, it is read as a tree of
statements and actions, and `MayEnd` collects the ways through the tree.

The last reading is the weakest and the most general: it forgets what was read where, and therefore
holds in every interleaving, also for a request that is rolled back or never gets its lock. It is
the right one for a statement that something is *not* done outside. The lemmas `mayEnd_bind` and
`mayEnd_ofProgram_bind` take a way through a composed program apart at the place where it first
acts.

A program that ends before its first write can be evaluated (`endsReading`), which is how an example
of such a way is given.
-/

namespace Transactions

/-- The statements of a request, and what it does outside of the database. -/
inductive Acting (A S E α : Type) where
  | ret (a : α)
  | raise (e : E)
  | select (k : S → Acting A S E α)
  | execute (f : S → Except E S) (k : Acting A S E α)
  | act (a : A) (k : Acting A S E α)

namespace Acting

variable {A S E α β : Type}

/-- Sequential composition. -/
def bind : Acting A S E α → (α → Acting A S E β) → Acting A S E β
  | ret a, f => f a
  | raise e, _ => raise e
  | select k, f => select fun s ↦ (k s).bind f
  | execute g k, f => execute g (k.bind f)
  | act a k, f => act a (k.bind f)

instance : Monad (Acting A S E) where
  pure := ret
  bind := bind

/-- A program that does nothing else. -/
def ofProgram : Program S E α → Acting A S E α
  | .ret a => ret a
  | .raise e => raise e
  | .select k => select fun s ↦ ofProgram (k s)
  | .execute f k => execute f (ofProgram k)

/-- One such action. -/
def perform (a : A) : Acting A S E Unit := act a (ret ())

/-- What the database sees. -/
def statements : Acting A S E α → Program S E α
  | ret a => .ret a
  | raise e => .raise e
  | select k => .select fun s ↦ (k s).statements
  | execute f k => .execute f k.statements
  | act _ k => k.statements

/-- The program with its result and, before it, what it has done. -/
def recorded : List A → Acting A S E α → Program S E (List A × α)
  | done, ret a => .ret (done, a)
  | _, raise e => .raise e
  | done, select k => .select fun s ↦ (k s).recorded done
  | done, execute f k => .execute f (k.recorded done)
  | done, act a k => k.recorded (done ++ [a])

/-- Composition commutes with forgetting the actions. -/
theorem statements_bind (p : Acting A S E α) (f : α → Acting A S E β) :
    (p >>= f).statements = p.statements >>= fun a ↦ (f a).statements := by
  induction p with
  | ret a => rfl
  | raise e => rfl
  | select k ih => exact congrArg Program.select (funext ih)
  | execute g k ih => exact congrArg (Program.execute g) ih
  | act a k ih => exact ih

@[simp] theorem statements_pure (a : α) : (pure a : Acting A S E α).statements = pure a := rfl

/-- An action is no statement. -/
@[simp] theorem statements_perform (a : A) :
    (perform a : Acting A S E Unit).statements = pure () := rfl

@[simp] theorem statements_ofProgram (p : Program S E α) :
    (ofProgram p : Acting A S E α).statements = p := by
  induction p with
  | ret a => rfl
  | raise e => rfl
  | select k ih => exact congrArg Program.select (funext ih)
  | execute g k ih => exact congrArg (Program.execute g) ih

/-- **Recording changes the result only.** -/
theorem map_recorded (p : Acting A S E α) (done : List A) :
    ((p.recorded done).bind fun r ↦ .ret r.2) = p.statements := by
  induction p generalizing done with
  | ret a => rfl
  | raise e => rfl
  | select k ih => exact congrArg Program.select (funext fun s ↦ ih s done)
  | execute g k ih => exact congrArg (Program.execute g) (ih done)
  | act a k ih => exact ih _

/-- Composition adds to the record. -/
theorem recorded_bind (p : Acting A S E α) (f : α → Acting A S E β) (done : List A) :
    (p >>= f).recorded done = p.recorded done >>= fun r ↦ (f r.2).recorded r.1 := by
  induction p generalizing done with
  | ret a => rfl
  | raise e => rfl
  | select k ih => exact congrArg Program.select (funext fun s ↦ ih s done)
  | execute g k ih => exact congrArg (Program.execute g) (ih done)
  | act a k ih => exact ih _

/-- A program that does nothing else adds nothing. -/
theorem recorded_ofProgram (p : Program S E α) (done : List A) :
    (ofProgram p).recorded done = p >>= fun a ↦ .ret (done, a) := by
  induction p with
  | ret a => rfl
  | raise e => rfl
  | select k ih => exact congrArg Program.select (funext ih)
  | execute g k ih => exact congrArg (Program.execute g) ih

section Guarded

variable {I : S → Prop} {R : Option S → S → S → Prop} {last : Option S} {done : List A}

/-- Recorded or not, such a program is guarded by the same. -/
theorem guarded_ofProgram {Q : List A × α → Option S → Prop} {W : List A × α → S → Prop}
    {p : Program S E α} :
    ((ofProgram p).recorded done).Guarded I R Q W last ↔
      p.Guarded I R (fun a l ↦ Q (done, a) l) (fun a s ↦ W (done, a) s) last := by
  rw [recorded_ofProgram, Program.guarded_bind]
  exact Iff.rfl

/-- The rule for a part that does nothing else. -/
theorem guarded_ofProgram_bind {Q : List A × β → Option S → Prop} {W : List A × β → S → Prop}
    {p : Program S E α} {f : α → Acting A S E β} :
    ((ofProgram p >>= f).recorded done).Guarded I R Q W last ↔
      p.Guarded I R (fun a l ↦ ((f a).recorded done).Guarded I R Q W l)
        (fun a s ↦ ((f a).recorded done).WP W s) last := by
  rw [recorded_bind, Program.guarded_bind, guarded_ofProgram]

end Guarded

/-! ### How a program may end -/

/-- **The program may end so**: with these actions done, and with this result or exception, when
each of its statements meets a state with `K`. -/
def MayEnd (K : S → Prop) : Acting A S E α → List A → Except E α → Prop
  | ret a, done, out => done = [] ∧ out = .ok a
  | raise e, done, out => done = [] ∧ out = .error e
  | select k, done, out => ∃ s, K s ∧ (k s).MayEnd K done out
  | execute f k, done, out => ∃ s, K s ∧
    match f s with
    | .ok _ => k.MayEnd K done out
    | .error e => done = [] ∧ out = .error e
  | act a k, done, out => ∃ rest, done = a :: rest ∧ k.MayEnd K rest out

variable {K : S → Prop} {done : List A}

/-- A composed program ends in its first part, with an exception, or in its second after the first
has ended well. -/
theorem mayEnd_bind {p : Acting A S E α} {f : α → Acting A S E β} {out : Except E β}
    (h : (p >>= f).MayEnd K done out) :
    (∃ e, out = .error e ∧ p.MayEnd K done (.error e)) ∨
      ∃ a before after, done = before ++ after ∧ p.MayEnd K before (.ok a) ∧
        (f a).MayEnd K after out := by
  induction p generalizing done with
  | ret a => exact .inr ⟨a, [], done, rfl, ⟨rfl, rfl⟩, h⟩
  | raise e => exact .inl ⟨e, h.2, h.1, rfl⟩
  | select k ih =>
    obtain ⟨s, hs, h⟩ := h
    rcases ih s h with ⟨e, hout, hend⟩ | ⟨a, before, after, hdone, hend, hrest⟩
    · exact .inl ⟨e, hout, s, hs, hend⟩
    · exact .inr ⟨a, before, after, hdone, ⟨s, hs, hend⟩, hrest⟩
  | execute g k ih =>
    obtain ⟨s, hs, h⟩ := h
    cases hg : g s with
    | error e =>
      rw [hg] at h
      exact .inl ⟨e, h.2, s, hs, by rw [hg]; exact ⟨h.1, rfl⟩⟩
    | ok s' =>
      rw [hg] at h
      rcases ih h with ⟨e, hout, hend⟩ | ⟨a, before, after, hdone, hend, hrest⟩
      · exact .inl ⟨e, hout, s, hs, by rwa [hg]⟩
      · exact .inr ⟨a, before, after, hdone, ⟨s, hs, by rwa [hg]⟩, hrest⟩
  | act a k ih =>
    obtain ⟨rest, rfl, h⟩ := h
    rcases ih h with ⟨e, hout, hend⟩ | ⟨b, before, after, rfl, hend, hrest⟩
    · exact .inl ⟨e, hout, rest, rfl, hend⟩
    · exact .inr ⟨b, a :: before, after, rfl, ⟨before, rfl, hend⟩, hrest⟩

/-- Statements alone do nothing outside. -/
theorem done_of_ofProgram {p : Program S E α} {out : Except E α}
    (h : (ofProgram p : Acting A S E α).MayEnd K done out) : done = [] := by
  induction p with
  | ret a => exact h.1
  | raise e => exact h.1
  | select k ih =>
    obtain ⟨s, -, h⟩ := h
    exact ih s h
  | execute g k ih =>
    obtain ⟨s, -, h⟩ := h
    split at h
    · exact ih h
    · exact h.1

/-- **What has been done was done after the part that does nothing**, and that part has ended
well. -/
theorem mayEnd_ofProgram_bind {p : Program S E α} {f : α → Acting A S E β} {out : Except E β}
    (h : (ofProgram p >>= f).MayEnd K done out) (hdone : done ≠ []) :
    ∃ a, (ofProgram p : Acting A S E α).MayEnd K [] (.ok a) ∧ (f a).MayEnd K done out := by
  rcases mayEnd_bind h with ⟨e, -, hend⟩ | ⟨a, before, after, rfl, hend, hrest⟩
  · exact absurd (done_of_ofProgram hend) hdone
  · obtain rfl := done_of_ofProgram hend
    exact ⟨a, hend, hrest⟩

/-- A computation that ends well has its value. -/
theorem mayEnd_ofExcept {x : Except E α} {a : α}
    (h : (ofProgram (.ofExcept x) : Acting A S E α).MayEnd K done (.ok a)) : x = .ok a := by
  cases x with
  | ok b => exact h.2.symm
  | error e => cases h.2

/-- A query has read one of the states. -/
theorem mayEnd_query {f : S → α} {a : α}
    (h : (ofProgram (.query f) : Acting A S E α).MayEnd K done (.ok a)) :
    ∃ s, K s ∧ f s = a := by
  obtain ⟨s, hs, -, hok⟩ := h
  exact ⟨s, hs, (Except.ok.inj hok).symm⟩

/-! ### Without writes, evaluated -/

/-- How the program ends alone on the database, if it ends before its first write. -/
def endsReading (s : S) : Acting A S E α → Option (List A × Except E α)
  | ret a => some ([], .ok a)
  | raise e => some ([], .error e)
  | select k => (k s).endsReading s
  | execute _ _ => none
  | act a k => (k.endsReading s).map fun r ↦ (a :: r.1, r.2)

/-- An evaluated end is a possible one. -/
theorem mayEnd_of_endsReading {p : Acting A S E α} {s : S} {out : Except E α} (hs : K s)
    (h : p.endsReading s = some (done, out)) : p.MayEnd K done out := by
  induction p generalizing done with
  | ret a =>
    obtain ⟨rfl, rfl⟩ := Prod.mk.inj (Option.some.inj h)
    exact ⟨rfl, rfl⟩
  | raise e =>
    obtain ⟨rfl, rfl⟩ := Prod.mk.inj (Option.some.inj h)
    exact ⟨rfl, rfl⟩
  | select k ih => exact ⟨s, hs, ih s h⟩
  | execute f k ih => cases h
  | act a k ih =>
    obtain ⟨r, hr, heq⟩ := Option.map_eq_some_iff.mp h
    obtain ⟨rfl, rfl⟩ := Prod.mk.inj heq
    exact ⟨r.1, rfl, ih hr⟩

end Acting

end Transactions
