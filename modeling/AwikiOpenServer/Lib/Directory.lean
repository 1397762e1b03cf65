import Mathlib.Data.PEquiv
import Mathlib.Logic.Function.Basic

/-!
# Directories

A **directory** binds names to owners one to one, and keeps a standing for every owner it knows. The
binding is a partial equivalence: a name is looked up by its function, and an owner's name by the
inverse. What may be done to a directory is little. A free name is *enrolled* under a new owner, and
the standing of an owner is *raised*; nothing is rebound and nobody is dropped, so directories only
grow (`Directory.Follows.le`). What a directory holds is then a matter of the entries it has
followed (`Follows.mem_owner_iff`), and two owners never get one name (`Follows.names_nodup`).

**Invalid directories cannot be built.** That the binding is one to one is the type `PEquiv`, and
that the owners with a standing are those with a name is a field. `enroll` asks for proofs that the
name and the owner are free, so whoever enters something has to have checked it; the place where a
program checks is the place where its refinement proof needs these two facts.

**History determines the directory.** `Follows` is a relation between a directory and a later one,
labelled with the list of what was entered. It is functional (`Follows.functional`): the entries
alone say what becomes of a directory, whatever else the program did in between, which enters as
`Entry.other`. The laws about what a directory holds are inductions on that list from its end, one
case for each kind of entry.

Standings are an arbitrary preorder with one operation that goes up. The order on directories is the
order on bindings and the order on standings together, and a name that resolves keeps its owner
along it (`resolve_of_le`). A **mark** is a predicate on standings that the operation sets and that
a new owner does not have; who is marked is then a matter of the history too (`Follows.marked_iff`).
-/

/-- **A directory** of names `ν` with their owners `ι`, each of some standing `σ`. -/
@[ext]
structure Directory (ν ι σ : Type*) where
  owner : ν ≃. ι
  standing : ι → Option σ
  isSome_standing : ∀ i, (standing i).isSome = (owner.symm i).isSome

namespace Directory

variable {ν ι σ : Type*} {d d' e : Directory ν ι σ} {n : ν} {i : ι} {s : σ}

/-- Who owns a name, and their standing. -/
def resolve (d : Directory ν ι σ) (n : ν) : Option (ι × σ) :=
  (d.owner n).bind fun i ↦ (d.standing i).map (i, ·)

/-- Whose name it is is known. -/
theorem standing_isSome_of_mem (h : i ∈ d.owner n) : (d.standing i).isSome := by
  rw [d.isSome_standing, Option.isSome_iff_exists]
  exact ⟨n, d.owner.mem_iff_mem.mpr h⟩

/-- Directories that hold the same are the same. -/
theorem ext_mem (howner : ∀ n i, i ∈ d.owner n ↔ i ∈ e.owner n)
    (hstanding : ∀ i s, s ∈ d.standing i ↔ s ∈ e.standing i) : d = e :=
  Directory.ext (PEquiv.ext fun n ↦ Option.ext (howner n))
    (funext fun i ↦ Option.ext (hstanding i))

/-- A name resolves to its owner and the standing of that owner. -/
theorem resolve_eq_some : d.resolve n = some (i, s) ↔ i ∈ d.owner n ∧ s ∈ d.standing i := by
  simp only [resolve, Option.bind_eq_some_iff, Option.map_eq_some_iff, Prod.mk.injEq,
    Option.mem_def]
  constructor
  · rintro ⟨j, hj, t, ht, rfl, rfl⟩
    exact ⟨hj, ht⟩
  · rintro ⟨hi, hs⟩
    exact ⟨i, hi, s, hs, rfl, rfl⟩

/-- A name resolves as soon as it is owned. -/
theorem resolve_eq_none : d.resolve n = none ↔ d.owner n = none := by
  constructor
  · intro h
    cases howner : d.owner n with
    | none => rfl
    | some i =>
      obtain ⟨s, hs⟩ := Option.isSome_iff_exists.mp (standing_isSome_of_mem howner)
      rw [resolve_eq_some.mpr ⟨howner, hs⟩] at h
      cases h
  · intro h
    rw [resolve, h, Option.bind_none]

/-! ### What may be done -/

section Operations

variable [DecidableEq ν] [DecidableEq ι]

/-- **A free name for a new owner.** -/
def enroll (d : Directory ν ι σ) (n : ν) (i : ι) (s : σ) (hn : d.owner n = none)
    (hi : d.owner.symm i = none) : Directory ν ι σ where
  owner :=
    { toFun := Function.update d.owner n (some i)
      invFun := Function.update d.owner.symm i (some n)
      inv := fun m j ↦ by
        by_cases hm : m = n
        · subst hm
          by_cases hj : j = i
          · subst hj
            simp
          · have hold : m ∉ d.owner.symm j := fun hmem ↦ by
              rw [d.owner.mem_iff_mem, Option.mem_def, hn] at hmem
              cases hmem
            simpa [hj, Ne.symm hj] using hold
        · by_cases hj : j = i
          · subst hj
            have hold : j ∉ d.owner m := fun hmem ↦ by
              rw [← d.owner.mem_iff_mem, Option.mem_def, hi] at hmem
              cases hmem
            simpa [hm, Ne.symm hm] using hold
          · simpa [hm, hj] using d.owner.mem_iff_mem }
  standing := Function.update d.standing i (some s)
  isSome_standing j := by
    by_cases hj : j = i
    · subst hj
      simp [PEquiv.symm]
    · simpa [hj, PEquiv.symm] using d.isSome_standing j

/-- **Another standing for an owner**, if it is known. -/
def amend (d : Directory ν ι σ) (i : ι) (f : σ → σ) : Directory ν ι σ where
  owner := d.owner
  standing := Function.update d.standing i ((d.standing i).map f)
  isSome_standing j := by
    by_cases hj : j = i
    · subst hj
      simpa using d.isSome_standing j
    · simpa [hj] using d.isSome_standing j

variable {hn : d.owner n = none} {hi : d.owner.symm i = none}

/-- Enrolling adds one binding and changes none. -/
theorem mem_owner_enroll {m : ν} {j : ι} :
    j ∈ (d.enroll n i s hn hi).owner m ↔ j ∈ d.owner m ∨ m = n ∧ j = i := by
  show Function.update d.owner n (some i) m = some j ↔ _
  by_cases hm : m = n
  · subst hm
    rw [Function.update_self, Option.mem_def, hn]
    simpa using eq_comm
  · simp [hm]

/-- The new owner gets the standing given, all others keep theirs. -/
theorem standing_enroll (j : ι) :
    (d.enroll n i s hn hi).standing j = if j = i then some s else d.standing j :=
  Function.update_apply ..

omit [DecidableEq ν] in
/-- An amendment reaches one owner. -/
theorem standing_amend (f : σ → σ) (j : ι) :
    (d.amend i f).standing j = if j = i then (d.standing i).map f else d.standing j :=
  Function.update_apply ..

end Operations

/-! ### Growing -/

section Order

variable [Preorder σ]

/-- **Directories grow**: names keep their owners, and standings go up. -/
instance : Preorder (Directory ν ι σ) where
  le d e := d.owner ≤ e.owner ∧ ∀ i, ∀ s ∈ d.standing i, ∃ t ∈ e.standing i, s ≤ t
  le_refl d := ⟨le_refl _, fun _ s hs ↦ ⟨s, hs, le_refl s⟩⟩
  le_trans d e f hde hef := by
    refine ⟨le_trans hde.1 hef.1, fun i s hs ↦ ?_⟩
    obtain ⟨t, ht, hst⟩ := hde.2 i s hs
    obtain ⟨u, hu, htu⟩ := hef.2 i t ht
    exact ⟨u, hu, le_trans hst htu⟩

/-- Growing, for the bindings and for the standings. -/
theorem le_def : d ≤ e ↔ d.owner ≤ e.owner ∧ ∀ i, ∀ s ∈ d.standing i, ∃ t ∈ e.standing i, s ≤ t :=
  Iff.rfl

/-- **What resolves goes on resolving**, to the same owner. -/
theorem resolve_of_le (h : d ≤ e) (hr : d.resolve n = some (i, s)) :
    ∃ t, e.resolve n = some (i, t) ∧ s ≤ t := by
  obtain ⟨hi, hs⟩ := resolve_eq_some.mp hr
  obtain ⟨t, ht, hst⟩ := h.2 i s hs
  exact ⟨t, resolve_eq_some.mpr ⟨h.1 n i hi, ht⟩, hst⟩

variable [DecidableEq ν] [DecidableEq ι]

/-- Enrolling is growing. -/
theorem le_enroll (hn : d.owner n = none) (hi : d.owner.symm i = none) :
    d ≤ d.enroll n i s hn hi := by
  refine ⟨fun m j hj ↦ mem_owner_enroll.mpr (.inl hj), fun j t ht ↦ ⟨t, ?_, le_refl t⟩⟩
  have hne : j ≠ i := by
    rintro rfl
    have hknown := d.isSome_standing j
    rw [hi, Option.mem_def.mp ht] at hknown
    cases hknown
  rwa [standing_enroll, if_neg hne]

omit [DecidableEq ν] in
/-- And so is raising a standing. -/
theorem le_amend {f : σ → σ} (hf : ∀ t, t ≤ f t) : d ≤ d.amend i f := by
  refine ⟨le_refl _, fun j t ht ↦ ?_⟩
  rw [standing_amend]
  split
  · rename_i hj
    subst hj
    exact ⟨f t, Option.mem_map_of_mem f ht, hf t⟩
  · exact ⟨t, ht, le_refl t⟩

end Order

/-! ### Entries -/

/-- What is entered into a directory, or into something else. -/
inductive Entry (ν ι : Type*) where
  | enrolled (n : ν) (i : ι)
  | raised (i : ι)
  | other

section Entries

variable [DecidableEq ν] [DecidableEq ι] (fresh : σ) (raise : σ → σ)

/-- **What an entry does**: a new owner starts with the standing `fresh`. -/
inductive Step : Directory ν ι σ → Entry ν ι → Directory ν ι σ → Prop where
  | enrolled {d : Directory ν ι σ} {n : ν} {i : ι} (hn : d.owner n = none)
      (hi : d.owner.symm i = none) : Step d (.enrolled n i) (d.enroll n i fresh hn hi)
  | raised {d : Directory ν ι σ} {i : ι} (hi : (d.standing i).isSome) :
      Step d (.raised i) (d.amend i raise)
  | other {d : Directory ν ι σ} : Step d .other d

/-- **A directory that has followed some entries.** -/
inductive Follows (d : Directory ν ι σ) : List (Entry ν ι) → Directory ν ι σ → Prop where
  | nil : Follows d [] d
  | snoc {entries : List (Entry ν ι)} {d₁ d₂ : Directory ν ι σ} {entry : Entry ν ι}
      (before : Follows d entries d₁) (step : Step fresh raise d₁ entry d₂) :
      Follows d (entries ++ [entry]) d₂

variable {fresh raise} {entries later : List (Entry ν ι)} {entry : Entry ν ι}

/-- An entry leaves one directory: its label says which name and which owner. -/
theorem Step.functional (h : Step fresh raise d entry d') (h' : Step fresh raise d entry e) :
    d' = e := by
  cases h <;> cases h' <;> rfl

/-- The entries say what becomes of a directory. -/
theorem Follows.functional (h : Follows fresh raise d entries d')
    (h' : Follows fresh raise d entries e) : d' = e := by
  induction h generalizing e with
  | nil =>
    generalize hnil : ([] : List (Entry ν ι)) = entries at h'
    cases h' with
    | nil => rfl
    | snoc => simp at hnil
  | @snoc entries d₁ d₂ entry before step ih =>
    generalize hsnoc : entries ++ [entry] = all at h'
    cases h' with
    | nil => simp at hsnoc
    | snoc before' step' =>
      obtain ⟨rfl, hentry⟩ := List.append_inj' hsnoc rfl
      obtain rfl := List.singleton_inj.mp hentry
      obtain rfl := ih before'
      exact step.functional step'

/-- There is a moment between earlier entries and later ones. -/
theorem Follows.split (h : Follows fresh raise d (entries ++ later) e) :
    ∃ d', Follows fresh raise d entries d' ∧ Follows fresh raise d' later e := by
  generalize hall : entries ++ later = all at h
  induction h generalizing later with
  | nil =>
    obtain ⟨rfl, rfl⟩ := List.append_eq_nil_iff.mp hall
    exact ⟨d, .nil, .nil⟩
  | @snoc before d₁ d₂ entry hbefore step ih =>
    rcases List.eq_nil_or_concat later with rfl | ⟨later', last, rfl⟩
    · obtain rfl : entries = before ++ [entry] := by simpa using hall
      exact ⟨d₂, .snoc hbefore step, .nil⟩
    · rw [List.concat_eq_append, ← List.append_assoc] at hall
      obtain ⟨hbefore', hentry⟩ := List.append_inj' hall rfl
      obtain rfl := List.singleton_inj.mp hentry
      obtain ⟨d', hd', hlater⟩ := ih hbefore'
      rw [List.concat_eq_append]
      exact ⟨d', hd', .snoc hlater step⟩

/-- Each entry makes the directory grow. -/
theorem Step.le [Preorder σ] (hraise : ∀ s, s ≤ raise s) (h : Step fresh raise d entry e) :
    d ≤ e := by
  cases h with
  | enrolled hn hi => exact le_enroll hn hi
  | raised hi => exact le_amend hraise
  | other => exact le_refl d

/-- **Directories only grow.** -/
theorem Follows.le [Preorder σ] (hraise : ∀ s, s ≤ raise s) (h : Follows fresh raise d entries e) :
    d ≤ e := by
  induction h with
  | nil => exact le_refl d
  | snoc before step ih => exact le_trans ih (step.le hraise)

/-- **A name is owned by whom it was enrolled for.** -/
theorem Follows.mem_owner_iff (h : Follows fresh raise d entries e) :
    i ∈ e.owner n ↔ i ∈ d.owner n ∨ .enrolled n i ∈ entries := by
  induction h with
  | nil => simp
  | snoc before step ih =>
    rw [List.mem_append, List.mem_singleton, ← or_assoc, ← ih]
    cases step with
    | enrolled hn hi => rw [mem_owner_enroll, Entry.enrolled.injEq]
    | raised hi => simp [amend]
    | other => simp

/-- **Who is marked was marked before or has been raised.** `K` is a mark that `raise` sets and that
a new owner does not have. -/
theorem Follows.marked_iff {K : σ → Prop} (hfresh : ¬ K fresh) (hraise : ∀ s, K (raise s))
    (h : Follows fresh raise d entries e) :
    (∃ s ∈ e.standing i, K s) ↔ (∃ s ∈ d.standing i, K s) ∨ .raised i ∈ entries := by
  induction h with
  | nil => simp
  | @snoc entries d₁ d₂ entry before step ih =>
    rw [List.mem_append, List.mem_singleton, ← or_assoc, ← ih]
    cases step with
    | @enrolled n j hn hj =>
      have hunknown : d₁.standing j = none := by
        rw [← Option.isNone_iff_eq_none, ← Option.not_isSome, d₁.isSome_standing, hj]
        rfl
      rw [standing_enroll]
      split
      · rename_i hij
        subst hij
        simp [hunknown, hfresh]
      · simp
    | @raised j hj =>
      rw [standing_amend]
      split
      · rename_i hij
        subst hij
        obtain ⟨s, hs⟩ := Option.isSome_iff_exists.mp hj
        simp [hs, hraise]
      · rename_i hij
        simp [hij]
    | other => simp

/-- **No name is enrolled twice**, and none that was owned before. -/
theorem Follows.names_nodup (h : Follows fresh raise d entries e) :
    (entries.filterMap fun
      | .enrolled n _ => some n
      | _ => none).Nodup ∧ ∀ n i, .enrolled n i ∈ entries → d.owner n = none := by
  induction h with
  | nil => simp
  | @snoc entries d₁ d₂ entry before step ih =>
    obtain ⟨hnodup, hfree⟩ := ih
    cases step with
    | @enrolled n i hn hi =>
      -- A name is free when it is enrolled, so it was neither there at first nor enrolled since.
      have hold : ∀ j, .enrolled n j ∉ entries ∧ j ∉ d.owner n := by
        intro j
        have hnone : ¬ (j ∈ d.owner n ∨ .enrolled n j ∈ entries) := by
          rw [← before.mem_owner_iff, Option.mem_def, hn]
          exact Option.not_mem_none j
        exact ⟨fun hj ↦ hnone (.inr hj), fun hj ↦ hnone (.inl hj)⟩
      rw [List.filterMap_append, List.nodup_append]
      refine ⟨⟨hnodup, by simp, ?_⟩, fun m j hmem ↦ ?_⟩
      · intro m hm m' hm' heq
        obtain ⟨entry, hentry, hname⟩ := List.mem_filterMap.mp hm
        cases entry with
        | enrolled m j =>
          obtain rfl := Option.some.inj hname
          obtain rfl : m' = n := by simpa using hm'
          exact (hold j).1 (heq ▸ hentry)
        | raised => cases hname
        | other => cases hname
      · rcases List.mem_append.mp hmem with hmem | hmem
        · exact hfree m j hmem
        · obtain ⟨rfl, rfl⟩ : m = n ∧ j = i := by simpa using hmem
          exact Option.eq_none_iff_forall_not_mem.mpr fun j' ↦ (hold j').2
    | raised hi =>
      rw [List.filterMap_append]
      refine ⟨by simpa using hnodup, fun n i hmem ↦ hfree n i ?_⟩
      simpa using hmem
    | other =>
      rw [List.filterMap_append]
      refine ⟨by simpa using hnodup, fun n i hmem ↦ hfree n i ?_⟩
      simpa using hmem

end Entries

end Directory
