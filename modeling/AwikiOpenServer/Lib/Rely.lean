import AwikiOpenServer.Lib.Commits

/-!
# What a request may rely on

Between the moment a request last read and the moment it takes the lock others commit, so it finds a
later state. It may still rely on what **every commit keeps**: a preorder `P` that each commit
establishes between the state before it and the state after it holds between what was read and what
is found (`Reachable.relying`).

The other rule is about time. Once a fact `K` that commits keep has come true, a request that
*starts afterwards* reads only states with `K`; what it can return is a matter of its program alone
(`Reachable.started_later`).

**Neither rule restricts the runs.** Where a handler reads, decides and writes without looking
again, the exact theorem needs a condition on the interleaving. But much of what a handler has
checked cannot become false, because nothing in the program undoes it: rows are never deleted, a
status never goes back. That is a property of all commits together, it is `P`, and with it a read
before the lock is as good as one under it.

**There is a circle, and it is broken by induction.** That commits establish `P` is proved of
requests that may rely on `P`. The two are proved together: `ReadsPast` says that what the
connections without the lock have read is `P`-before what is committed, and is kept by a step
because the step's commit, if there is one, was made by a request that could rely on it.

For requests started later there is nothing to overtake. `StartedUnder` says of one connection that
all its reads see states with `K` and that it returns only what a program can return that reads such
states; facts like "a revoked identity gets no token any more" are of this form, with `K` the
revocation and the program that of any request.
-/

namespace Transactions

namespace Program

variable {S E α : Type} {I : S → Prop} {R : Option S → S → S → Prop} {Q : α → Option S → Prop}
  {W : α → S → Prop} {last : Option S} {s : S}

/-- What holds of every result and every state holds under the lock. -/
theorem wp_of_forall (p : Program S E α) (hW : ∀ a s, W a s) : p.WP W s := by
  induction p generalizing s with
  | ret a => exact hW a s
  | raise e => trivial
  | select k ih => exact ih s
  | execute g k ih => exact fun _ _ ↦ ih

/-- What holds of every result and every state holds whatever the program does. -/
theorem guarded_of_forall (p : Program S E α) (hQ : ∀ a l, Q a l) (hW : ∀ a s, W a s) :
    p.Guarded I R Q W last := by
  induction p generalizing last with
  | ret a => exact hQ a last
  | raise e => trivial
  | select k ih => exact fun s _ ↦ ih s
  | execute g k ih => exact fun _ _ _ _ _ ↦ wp_of_forall k hW

/-- Among fewer states, and relying on more. -/
theorem Guarded.among {I' : S → Prop} {R' : Option S → S → S → Prop} {p : Program S E α}
    (h : p.Guarded I R Q W last) (hI : ∀ s, I' s → I s)
    (hR : ∀ l s s', R' l s s' → R l s s') : p.Guarded I' R' Q W last := by
  induction p generalizing last with
  | ret a => exact h
  | raise e => trivial
  | select k ih => exact fun s hs ↦ ih s (h s (hI s hs))
  | execute g k ih => exact fun s s' hs hs' hrely ↦ h s s' (hI s hs) hs' (hR _ _ _ hrely)

end Program

namespace World

variable {ι S E α : Type} [DecidableEq ι] {w : World ι S E α} {i j : ι}

/-- A statement of one connection leaves the others where they are. -/
theorem advance_frame (hij : j ≠ i) : (w.advance i).running j = w.running j ∧
    (w.advance i).lastRead j = w.lastRead j ∧ (w.advance i).ownState j = w.ownState j := by
  unfold advance
  split
  · exact ⟨rfl, rfl, rfl⟩
  · exact ⟨by simp [commit, close, hij], rfl, ownState_close_of_ne hij⟩
  · exact ⟨by simp [close, hij], rfl, ownState_close_of_ne hij⟩
  · exact ⟨by simp [hij], by simp [hij], rfl⟩
  · split
    · exact ⟨rfl, rfl, rfl⟩
    · rename_i s hs
      split
      · exact ⟨by simp [close, hij], rfl, ownState_close_of_ne hij⟩
      · refine ⟨by simp [hij], rfl, ?_⟩
        rcases writable_eq_some.mp hs with hown | ⟨hfree, -⟩
        · simp [ownState, ownState_eq_some.mp hown, Ne.symm hij]
        · simp [ownState, hfree, Ne.symm hij]

end World

namespace Serving

variable {ι S E ρ α : Type} [DecidableEq ι] {prog : ρ → Program S E α} {I : S → Prop}
  {C : List (ρ × α) → ρ → Option S → S → Prop} {G : List (ρ × α) → ρ → S → α → S → Prop}
  {P : S → S → Prop} {s₀ : S} {σ σ' : Serving ι S E ρ α} {i j : ι} {e : Event ι ρ}

/-- The condition `C`, and `P` between the last read and the committed state. -/
def relying (C : List (ρ × α) → ρ → Option S → S → Prop) (P : S → S → Prop)
    (h : List (ρ × α)) (r : ρ) (last : Option S) (s : S) : Prop :=
  C h r last s ∧ ∀ l, last = some l → P l s

/-- What the connections without the lock have read is `P`-before what is committed. -/
def ReadsPast (P : S → S → Prop) (σ : Serving ι S E ρ α) : Prop :=
  ∀ i l, (σ.world.running i).isSome → σ.world.ownState i = none →
    σ.world.lastRead i = some l → P l σ.world.committed

/-- With the reads behind, the stronger condition is met for free. -/
theorem admits_relying (hreads : σ.ReadsPast P) (he : σ.Admits C e) :
    σ.Admits (relying C P) e := by
  cases e with
  | start i r => trivial
  | cutOff i => trivial
  | advance i =>
    intro r f k s' hfree hr hrun hf
    refine ⟨he r f k s' hfree hr hrun hf, fun l hl ↦ hreads i l (by simp [hrun]) ?_ hl⟩
    simp [World.ownState, hfree]

/-- Closing a connection gives nobody a lock or a program. -/
theorem ReadsPast.close (h : σ.ReadsPast P) {j : ι} {l : S}
    (hrun : ((σ.world.close i).running j).isSome) (hown : (σ.world.close i).ownState j = none)
    (hlast : (σ.world.close i).lastRead j = some l) : P l σ.world.committed := by
  have hij : j ≠ i := by
    rintro rfl
    simp [World.close] at hrun
  rw [World.ownState_close_of_ne hij] at hown
  exact h j l (by simpa [World.close, hij] using hrun) hown hlast

/-- The committed state after a step is the one before, or what a commit made of it. -/
theorem Ok.committed_step (h : σ.Ok I C G s₀) :
    (σ.step prog e).world.committed = σ.world.committed ∨
      ∃ r a, G σ.history r σ.world.committed a (σ.step prog e).world.committed := by
  cases e with
  | start i r =>
    refine .inl ?_
    show (if (σ.world.running i).isSome then σ else _).world.committed = _
    split
    · rfl
    · rename_i hfree
      rw [World.step, if_neg hfree]
  | cutOff i => exact .inl rfl
  | advance i =>
    show (σ.world.advance i).committed = _ ∨ ∃ r a, G _ r _ a (σ.world.advance i).committed
    cases hrun : σ.world.running i with
    | none => exact .inl (by rw [World.advance, hrun])
    | some p =>
      cases p with
      | ret a =>
        rw [World.advance, hrun]
        cases hown : σ.world.ownState i with
        | none => exact .inl (by simp [World.commit, hown])
        | some s =>
          obtain ⟨r, -, howes⟩ := h.connections i _ hrun
          rw [hown] at howes
          exact .inr ⟨r, a, by simpa [World.commit, hown] using howes.1⟩
      | raise e => exact .inl (by rw [World.advance, hrun]; rfl)
      | select k => exact .inl (by rw [World.advance, hrun])
      | execute f k =>
        refine .inl ?_
        rw [World.advance, hrun]
        dsimp only
        split
        · rfl
        · split
          · rfl
          · rfl

/-- **Reads stay behind.** -/
theorem ReadsPast.step (hreads : σ.ReadsPast P) (hok : σ.Ok I C G s₀)
    (hG : ∀ {h r s a s'}, G h r s a s' → P s s') (hrefl : ∀ s, P s s)
    (htrans : ∀ {a b c}, P a b → P b c → P a c) : (σ.step prog e).ReadsPast P := by
  have hcommitted : P σ.world.committed (σ.step prog e).world.committed := by
    have hstep : (σ.step prog e).world.committed = σ.world.committed ∨
        ∃ r a, G σ.history r σ.world.committed a (σ.step prog e).world.committed :=
      hok.committed_step
    rcases hstep with heq | ⟨r, a, hstep⟩
    · exact heq ▸ hrefl _
    · exact hG hstep
  intro j l hrun hown hlast
  -- it is enough to look at what was read before this step, or at this very step
  refine htrans ?_ hcommitted
  cases e with
  | start i r =>
    by_cases hfree : (σ.world.running i).isSome
    · simp only [Serving.step, hfree, if_true] at hrun hown hlast
      exact hreads j l hrun hown hlast
    · simp only [Serving.step, hfree, World.step, if_false, Bool.false_eq_true] at hrun hown hlast
      by_cases hij : j = i
      · subst hij
        simp at hlast
      · exact hreads j l (by simpa [hij] using hrun) hown (by simpa [hij] using hlast)
  | cutOff i => exact hreads.close hrun hown hlast
  | advance i =>
    simp only [Serving.step, World.advance] at hrun hown hlast
    split at hrun
    · rename_i hnone
      simp only [hnone] at hown hlast
      exact hreads j l hrun hown hlast
    · rename_i a hret
      simp only [hret] at hown hlast
      exact hreads.close hrun hown hlast
    · rename_i e hraise
      simp only [hraise] at hown hlast
      exact hreads.close hrun hown hlast
    · rename_i k hselect
      simp only [hselect] at hown hlast
      by_cases hij : j = i
      · subst hij
        have hnone : σ.world.ownState j = none := hown
        obtain rfl : σ.world.committed = l := by simpa [hnone] using hlast
        exact hrefl _
      · exact hreads j l (by simpa [hij] using hrun) hown (by simpa [hij] using hlast)
    · rename_i f k hexecute
      simp only [hexecute] at hown hlast
      cases hs : σ.world.writable i with
      | none =>
        simp only [hs] at hrun hown hlast
        exact hreads j l hrun hown hlast
      | some s =>
        simp only [hs] at hrun hown hlast
        cases hf : f s with
        | error e =>
          simp only [hf] at hrun hown hlast
          exact hreads.close hrun hown hlast
        | ok s' =>
          simp only [hf] at hrun hown hlast
          have hij : j ≠ i := by
            rintro rfl
            simp [World.ownState] at hown
          refine hreads j l (by simpa [hij] using hrun) ?_ hlast
          rcases World.writable_eq_some.mp hs with hi | ⟨hfree, -⟩
          · rw [World.ownState, World.ownState_eq_some.mp hi]
            exact if_neg (Ne.symm hij)
          · simp [World.ownState, hfree]

/-- **The rule for reads.** If every commit establishes `P`, requests may count on `P` between what
they last read and what they find when they take the lock. -/
theorem Reachable.relying (hreach : Reachable prog C s₀ σ) (hI : I s₀)
    (hG : ∀ {h r s a s'}, G h r s a s' → P s s') (hrefl : ∀ s, P s s)
    (htrans : ∀ {a b c}, P a b → P b c → P a c)
    (hprog : ∀ r, Owes I (Serving.relying C P) G r (prog r) none) :
    σ.Ok I (Serving.relying C P) G s₀ ∧ σ.ReadsPast P :=
  Runs.ReachesWith.invariant (I := fun σ ↦ σ.Ok I (Serving.relying C P) G s₀ ∧ σ.ReadsPast P) hreach
    ⟨Ok.idle hI, fun i l hrun ↦ by cases hrun⟩ fun ⟨hok, hreads⟩ hC hstep ↦
      hstep ▸ ⟨hok.step hprog (admits_relying hreads hC), hreads.step hok hG hrefl htrans⟩

/-! ### Requests started later -/

omit [DecidableEq ι] in
/-- The condition that asks for nothing. -/
theorem Admits.trivial : σ.Admits (fun _ _ _ _ ↦ True) e := by
  cases e with
  | advance i => exact fun _ _ _ _ _ _ _ _ ↦ True.intro
  | start i r => exact True.intro
  | cutOff i => exact True.intro

/-- Any run is a run without a condition. -/
theorem reachesWith_of_reaches (hlater : Runs.Reaches (Step prog) σ σ') :
    Runs.ReachesWith (Step prog) (Admits fun _ _ _ _ ↦ True) σ σ' :=
  hlater.invariant (Runs.ReachesWith.refl σ) fun h hstep ↦ h.tail Admits.trivial hstep

/-- Every schedule is a run. -/
theorem reaches_runAll (σ : Serving ι S E ρ α) (events : List (Event ι ρ)) :
    Runs.Reaches (Step prog) σ (σ.runAll prog events) := by
  suffices h : ∀ {σ'}, Runs.Reaches (Step prog) σ σ' →
      Runs.Reaches (Step prog) σ (σ'.runAll prog events) from h (Runs.Reaches.refl σ)
  intro σ' h
  induction events generalizing σ' with
  | nil => exact h
  | cons e rest ih => exact ih (h.tail (l := e) rfl)

/-- Histories grow. -/
theorem history_prefix (hlater : Runs.Reaches (Step prog) σ σ') : σ.history <+: σ'.history := by
  refine hlater.invariant (I := fun σ' ↦ σ.history <+: σ'.history) (List.prefix_refl _) ?_
  rintro σ' _ e hprefix rfl
  cases e with
  | start i r =>
    show _ <+: (if (σ'.world.running i).isSome then σ' else _).history
    split
    · exact hprefix
    · exact hprefix
  | advance i => exact hprefix.trans (List.prefix_append _ _)
  | cutOff i => exact hprefix

/-- What connection `i` runs was started where `K` held: its reads see states with `K` only, and it
returns nothing but what `Q` allows, of its last read, or once it has written `W`. -/
def StartedUnder (K : S → Prop) (Q : ρ → α → Option S → Prop) (W : ρ → α → Prop)
    (σ : Serving ι S E ρ α) (i : ι) : Prop :=
  ∀ p, σ.world.running i = some p → ∃ r, σ.request i = some r ∧
    match σ.world.ownState i with
    | some s => p.WP (fun a _ ↦ W r a) s
    | none => p.Guarded K (fun _ _ _ ↦ True) (Q r) (fun a _ ↦ W r a) (σ.world.lastRead i)

section StartedLater

variable {K : S → Prop} {Q : ρ → α → Option S → Prop} {W : ρ → α → Prop}

/-- A connection that runs nothing has been started under anything. -/
theorem StartedUnder.of_idle (h : σ.world.running i = none) : σ.StartedUnder K Q W i := by
  intro p hp
  rw [h] at hp
  cases hp

/-- It is a matter of the program, the request, the last read and the lock. -/
theorem StartedUnder.congr (h : σ.StartedUnder K Q W i)
    (hrun : σ'.world.running i = σ.world.running i) (hreq : σ'.request i = σ.request i)
    (hlast : σ'.world.lastRead i = σ.world.lastRead i)
    (hown : σ'.world.ownState i = σ.world.ownState i) : σ'.StartedUnder K Q W i := by
  intro p hp
  obtain ⟨r, hr, howes⟩ := h p (hrun ▸ hp)
  refine ⟨r, hreq.trans hr, ?_⟩
  rw [hown, hlast]
  exact howes

/-- The connection's own statement. -/
theorem StartedUnder.advance (h : σ.StartedUnder K Q W i) (hK : K σ.world.committed) :
    (σ.step prog (.advance i)).StartedUnder K Q W i := by
  intro p hp
  change (σ.world.advance i).running i = some p at hp
  cases hrun : σ.world.running i with
  | none =>
    rw [World.advance, hrun, hrun] at hp
    cases hp
  | some q =>
    obtain ⟨r, hr, howes⟩ := h q hrun
    refine ⟨r, hr, ?_⟩
    show match (σ.world.advance i).ownState i with
      | some s => _
      | none => p.Guarded K _ _ _ ((σ.world.advance i).lastRead i)
    -- One case for each kind of statement: what it does to the own state and to the last read.
    cases q with
    | ret a =>
      rw [World.advance, hrun] at hp
      simp [World.commit, World.close] at hp
    | raise e =>
      rw [World.advance, hrun] at hp
      simp [World.close] at hp
    | select k =>
      simp only [World.advance, hrun, Function.update_self, Option.some.injEq] at hp ⊢
      obtain rfl := hp
      cases hown : σ.world.ownState i with
      | none =>
        rw [hown] at howes
        have hnone : World.ownState { σ.world with
            running := Function.update σ.world.running i (some (k ((none : Option S).getD
              σ.world.committed)))
            lastRead := Function.update σ.world.lastRead i (some ((none : Option S).getD
              σ.world.committed)) } i = none := hown
        rw [hnone]
        exact howes σ.world.committed hK
      | some s =>
        rw [hown] at howes
        have hsome : World.ownState { σ.world with
            running := Function.update σ.world.running i (some (k ((some s).getD
              σ.world.committed)))
            lastRead := Function.update σ.world.lastRead i (some ((some s).getD
              σ.world.committed)) } i = some s := hown
        rw [hsome]
        exact howes
    | execute f k =>
      rw [World.advance, hrun] at hp ⊢
      dsimp only at hp ⊢
      cases hs : σ.world.writable i with
      | none =>
        rw [hs] at hp
        dsimp only at hp ⊢
        obtain rfl := Option.some.inj (hrun.symm.trans hp)
        exact howes
      | some s =>
        rw [hs] at hp
        dsimp only at hp ⊢
        cases hf : f s with
        | error e =>
          rw [hf] at hp
          simp [World.close] at hp
        | ok s' =>
          rw [hf] at hp
          obtain rfl : k = p := by simpa using hp
          simp only [World.ownState, if_true]
          rcases World.writable_eq_some.mp hs with hown | ⟨hfree, rfl⟩
          · rw [hown] at howes
            exact howes s' hf
          · have hown : σ.world.ownState i = none := by simp [World.ownState, hfree]
            rw [hown] at howes
            exact howes σ.world.committed s' hK hf trivial

/-- Any step, of this connection or of another. -/
theorem StartedUnder.step (h : σ.StartedUnder K Q W i) (hK : K σ.world.committed)
    (hwriting : ∀ {j s}, σ.world.writer = some (j, s) → (σ.world.running j).isSome)
    (hprog : ∀ r, (prog r).Guarded K (fun _ _ _ ↦ True) (Q r) (fun a _ ↦ W r a) none) :
    (σ.step prog e).StartedUnder K Q W i := by
  cases e with
  | start j r =>
    by_cases hfree : (σ.world.running j).isSome
    · rwa [Serving.step, if_pos hfree]
    · rw [Serving.step, if_neg hfree]
      by_cases hij : i = j
      · subst hij
        have hnone : σ.world.ownState i = none := Option.eq_none_iff_forall_ne_some.mpr fun s hs ↦
          hfree (hwriting (World.ownState_eq_some.mp hs))
        intro p hp
        rw [World.step, if_neg hfree] at hp ⊢
        obtain rfl : prog r = p := by simpa using hp
        refine ⟨r, by simp, ?_⟩
        show match σ.world.ownState i with
          | some s => _
          | none => Program.Guarded K _ _ _ (Function.update σ.world.lastRead i none i) (prog r)
        rw [hnone, Function.update_self]
        exact hprog r
      · refine h.congr ?_ (by simp [hij]) ?_ ?_
        · simp [World.step, hfree, hij]
        · simp [World.step, hfree, hij]
        · rw [World.step, if_neg hfree]
          rfl
  | advance j =>
    by_cases hij : i = j
    · exact hij ▸ h.advance hK
    · obtain ⟨hrun, hlast, hown⟩ := World.advance_frame (w := σ.world) hij
      exact h.congr hrun rfl hlast hown
  | cutOff j =>
    by_cases hij : i = j
    · refine .of_idle ?_
      simp [Serving.step, World.close, hij]
    · exact h.congr (by simp [Serving.step, World.close, hij]) rfl rfl
        (World.ownState_close_of_ne hij)

/-- **What is started later.** `K` is kept by whatever establishes `P`. From a state of a run in
which `K` is committed and connection `i` serves nothing, whatever `i` returns later is what a
program returns that reads states with `K` only; without the lock it has written nothing. -/
theorem Reachable.started_later (hreach : Reachable prog C s₀ σ) (hI : I s₀)
    (hG : ∀ {h r s a s'}, G h r s a s' → P s s') (hrefl : ∀ s, P s s)
    (htrans : ∀ {a b c}, P a b → P b c → P a c)
    (hprog : ∀ r, Owes I (Serving.relying C P) G r (prog r) none)
    (hkeep : ∀ {s s'}, P s s' → K s → K s') (hK : K σ.world.committed)
    (hidle : σ.world.running i = none)
    (hpost : ∀ r, (prog r).Guarded K (fun _ _ _ ↦ True) (Q r) (fun a _ ↦ W r a) none)
    (hlater : Runs.ReachesWith (Step prog) (Admits C) σ σ') :
    K σ'.world.committed ∧ ∀ {a}, σ'.world.running i = some (.ret a) →
      ∃ r, σ'.request i = some r ∧
        (σ'.world.ownState i = none ∧ Q r a (σ'.world.lastRead i) ∨ W r a) := by
  have hall : (σ'.Ok I (Serving.relying C P) G s₀ ∧ σ'.ReadsPast P) ∧ K σ'.world.committed ∧
      σ'.StartedUnder K Q W i := by
    refine hlater.invariant (I := fun σ ↦ (σ.Ok I (Serving.relying C P) G s₀ ∧ σ.ReadsPast P) ∧
      K σ.world.committed ∧ σ.StartedUnder K Q W i)
      ⟨hreach.relying (P := P) (G := G) hI hG hrefl htrans hprog, hK, .of_idle hidle⟩ ?_
    rintro σ _ e ⟨⟨hok, hreads⟩, hK, hstarted⟩ hC rfl
    refine ⟨⟨hok.step hprog (admits_relying hreads hC),
      hreads.step (P := P) (G := G) hok hG hrefl htrans⟩, ?_, hstarted.step hK hok.writing hpost⟩
    have hstep : (σ.step prog e).world.committed = σ.world.committed ∨
        ∃ r a, G σ.history r σ.world.committed a (σ.step prog e).world.committed :=
      hok.committed_step
    rcases hstep with hsame | ⟨r, a, hcommit⟩
    · exact hsame ▸ hK
    · exact hkeep (hG hcommit) hK
  obtain ⟨-, hK', hstarted⟩ := hall
  refine ⟨hK', fun {a} hret ↦ ?_⟩
  obtain ⟨r, hr, howes⟩ := hstarted _ hret
  refine ⟨r, hr, ?_⟩
  cases hown : σ'.world.ownState i with
  | none =>
    rw [hown] at howes
    exact .inl ⟨rfl, howes⟩
  | some s =>
    rw [hown] at howes
    exact .inr howes

end StartedLater

end Serving

end Transactions
