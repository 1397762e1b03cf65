import Mathlib.Data.List.Nodup
import Mathlib.Tactic.Common

/-!
# Keyed tables

A table is the list of its rows in insertion order, and a key is a function of the row. The
statements a handler issues are the usual ones — select by key, update where, insert, insert or
ignore, insert on conflict update — and each comes with the one lemma that says what it does to a
selection by key.

A statement that would violate a uniqueness constraint returns `none`; what that means for the
surrounding transaction is the caller's business.

**A constraint is a predicate, not a field.** `Keyed` says that no two rows share a key, and it is a
hypothesis where it is needed and a conclusion of every statement that keeps it. A table is then any
list, the statements are total, and a run of statements that breaks a constraint on the way and
fails is a run like any other. One table may be keyed by several functions at once, as a schema with
a primary key and a unique index is.

## What is said of a statement

* What it finds: `row?_updateWhere`, `row?_upsert`, `row?_append`.
* What it leaves: `mem_updateWhere`, `mem_upsert`, and for a whole loop of upserts under different
  keys `upserted_or_kept_all`.
* What it does not touch: `SameOn p t t'`, the rows of a part `p` are the same in both, in order.
  This is the frame rule of the development; a handler that writes rows of one owner, or one group,
  leaves `SameOn` for all others.
* How many rows of a kind there are afterwards: the counting lemmas, for limits.

Three relations describe more than one statement. `MovedTo` is an update that changes the part a row
is in, and can be recognized after the fact. `Evolves` is any number of updates that keep keys and
insertions under new ones, which is what a table goes through that nothing is deleted from. And
`sublist_join` is about reading: a join that finds at most one partner for each row lists them in
the order of the rows and none twice.
-/

namespace Table

variable {ρ κ : Type*} [DecidableEq κ]

/-- `SELECT * FROM t WHERE key = k`, first row. -/
def row? (key : ρ → κ) (k : κ) (t : List ρ) : Option ρ := t.find? fun r ↦ decide (key r = k)

/-- `UPDATE t SET … WHERE p`. -/
def updateWhere (p : ρ → Bool) (f : ρ → ρ) (t : List ρ) : List ρ :=
  t.map fun r ↦ if p r then f r else r

/-- `INSERT INTO t`, refused when the key is taken. -/
def insert? (key : ρ → κ) (r : ρ) (t : List ρ) : Option (List ρ) :=
  if (row? key (key r) t).isSome then none else some (t ++ [r])

/-- `INSERT OR IGNORE INTO t`. -/
def insertOrIgnore (key : ρ → κ) (r : ρ) (t : List ρ) : List ρ := (insert? key r t).getD t

/-- `INSERT INTO t … ON CONFLICT(key) DO UPDATE SET …`. -/
def upsert (key : ρ → κ) (r : ρ) (onConflict : ρ → ρ) (t : List ρ) : List ρ :=
  if (row? key (key r) t).isSome then updateWhere (fun r' ↦ decide (key r' = key r)) onConflict t
  else t ++ [r]

/-- No two rows share a key. -/
def Keyed (key : ρ → κ) (t : List ρ) : Prop := (t.map key).Nodup

variable {key : ρ → κ} {k : κ} {t : List ρ} {r : ρ}

/-! ### Selection -/

/-- What a selection finds is a row of the table. -/
theorem mem_of_row? (h : row? key k t = some r) : r ∈ t := List.mem_of_find?_eq_some h

/-- And has the key that was asked for. -/
theorem key_of_row? (h : row? key k t = some r) : key r = k := by
  simpa using List.find?_some h

/-- It finds nothing exactly when no row has the key. -/
theorem row?_eq_none : row? key k t = none ↔ ∀ r ∈ t, key r ≠ k := by
  simp [row?]

/-- The key of a row is found. -/
theorem row?_isSome_of_mem (h : r ∈ t) : (row? key (key r) t).isSome := by
  simpa [row?] using ⟨r, h, rfl⟩

/-- On a keyed table, selection by the key of a row finds that row. -/
theorem Keyed.row?_of_mem (hk : Keyed key t) (h : r ∈ t) : row? key (key r) t = some r := by
  induction t with
  | nil => simp at h
  | cons r₀ rest ih =>
    rw [Keyed, List.map_cons, List.nodup_cons] at hk
    by_cases heq : key r₀ = key r
    · rcases List.mem_cons.mp h with rfl | hmem
      · simp [row?]
      · exact absurd (heq ▸ List.mem_map_of_mem hmem) hk.1
    · have hmem : r ∈ rest := by
        rcases List.mem_cons.mp h with rfl | hmem
        · exact absurd rfl heq
        · exact hmem
      have hrest := ih hk.2 hmem
      rw [row?] at hrest ⊢
      simpa [List.find?_cons, heq] using hrest

omit [DecidableEq κ] in
/-- Rows of one key are one row. -/
theorem Keyed.eq_of_key_eq (hk : Keyed key t) {r r' : ρ} (h : r ∈ t) (h' : r' ∈ t)
    (heq : key r = key r') : r = r' :=
  List.inj_on_of_nodup_map hk h h' heq

/-! ### Updates -/

/-- The rows after an update are the images of those before. -/
theorem mem_updateWhere {p : ρ → Bool} {f : ρ → ρ} :
    r ∈ updateWhere p f t ↔ ∃ r₀ ∈ t, (if p r₀ then f r₀ else r₀) = r := by
  simp [updateWhere]

/-- An update that leaves keys alone commutes with the selection by key. -/
theorem row?_updateWhere {p : ρ → Bool} {f : ρ → ρ}
    (hf : ∀ r, p r = true → key (f r) = key r) :
    row? key k (updateWhere p f t) = (row? key k t).map fun r ↦ if p r then f r else r := by
  have hpred : ((fun r ↦ decide (key r = k)) ∘ fun r ↦ if p r then f r else r) =
      fun r ↦ decide (key r = k) := by
    funext r
    by_cases hp : p r
    · simp [hp, hf r hp]
    · simp [hp]
  rw [row?, updateWhere, List.find?_map, hpred, row?]

/-- An update that leaves the keys alone finds no row where there was none, and loses none. -/
theorem isSome_row?_updateWhere {p : ρ → Bool} {f : ρ → ρ} (hf : ∀ r, key (f r) = key r) :
    (row? key k (updateWhere p f t)).isSome = (row? key k t).isSome := by
  rw [row?_updateWhere fun r _ ↦ hf r, Option.isSome_map]

/-- An update that reaches no row changes nothing. -/
theorem updateWhere_eq_self {p : ρ → Bool} {f : ρ → ρ} (h : ∀ r ∈ t, p r = false) :
    updateWhere p f t = t :=
  (List.map_congr_left fun r hr ↦ by simp [h r hr]).trans (List.map_id t)

omit [DecidableEq κ] in
/-- The keys are the same, in the same order. -/
theorem map_key_updateWhere {p : ρ → Bool} {f : ρ → ρ}
    (hf : ∀ r, p r = true → key (f r) = key r) :
    (updateWhere p f t).map key = t.map key := by
  rw [updateWhere, List.map_map]
  refine List.map_congr_left fun r _ ↦ ?_
  by_cases hp : p r
  · simp [hp, hf r hp]
  · simp [hp]

omit [DecidableEq κ] in
/-- So a keyed table stays one. -/
theorem Keyed.updateWhere {p : ρ → Bool} {f : ρ → ρ} (hk : Keyed key t)
    (hf : ∀ r, p r = true → key (f r) = key r) : Keyed key (updateWhere p f t) := by
  rw [Keyed, map_key_updateWhere hf]
  exact hk

omit [DecidableEq κ] in
/-- An update that moves the row at `k` to a key no row has. -/
theorem Keyed.updateWhere_rekey {p : ρ → Bool} {f : ρ → ρ} (k k' : κ) (hk : Keyed key t)
    (hp : ∀ r ∈ t, p r = true → key r = k) (hf : ∀ r, p r = true → key (f r) = k')
    (hfresh : ∀ r ∈ t, key r ≠ k') : Keyed key (Table.updateWhere p f t) := by
  induction t with
  | nil => exact hk
  | cons r rest ih =>
    rw [Keyed, List.map_cons, List.nodup_cons] at hk
    have hrest := ih hk.2 (fun r' hr' ↦ hp r' (List.mem_cons_of_mem _ hr'))
      fun r' hr' ↦ hfresh r' (List.mem_cons_of_mem _ hr')
    rw [Keyed, Table.updateWhere, List.map_cons, List.map_cons, List.nodup_cons]
    refine ⟨fun hmem ↦ ?_, hrest⟩
    obtain ⟨r', hr', heq⟩ := List.mem_map.mp hmem
    obtain ⟨r₀, hr₀, rfl⟩ := List.mem_map.mp hr'
    have hne : key r₀ ≠ key r := fun h ↦ hk.1 (List.mem_map.mpr ⟨r₀, hr₀, h⟩)
    by_cases h₀ : p r₀ = true <;> by_cases h : p r = true
    · exact hne ((hp r₀ (List.mem_cons_of_mem _ hr₀) h₀).trans (hp r List.mem_cons_self h).symm)
    · simp only [h₀, h, if_true, Bool.false_eq_true, if_false, hf r₀ h₀] at heq
      exact hfresh r List.mem_cons_self heq.symm
    · simp only [h₀, h, if_true, Bool.false_eq_true, if_false, hf r h] at heq
      exact hfresh r₀ (List.mem_cons_of_mem _ hr₀) heq
    · simp only [h₀, h, Bool.false_eq_true, if_false] at heq
      exact hne heq

/-- On a keyed table, selection by key is membership. -/
theorem Keyed.row?_eq_some (hk : Keyed key t) : row? key k t = some r ↔ r ∈ t ∧ key r = k :=
  ⟨fun h ↦ ⟨mem_of_row? h, key_of_row? h⟩, fun ⟨hr, hkey⟩ ↦ hkey ▸ hk.row?_of_mem hr⟩

omit [DecidableEq κ] in
/-- And so it does under deletions. -/
theorem Keyed.filter (hk : Keyed key t) (keep : ρ → Bool) : Keyed key (t.filter keep) :=
  hk.sublist (List.Sublist.map key List.filter_sublist)

/-- A deletion on a keyed table finds the row at a key and deletes it, or leaves it. -/
theorem Keyed.row?_filter (hk : Keyed key t) (keep : ρ → Bool) :
    row? key k (t.filter keep) = (row? key k t).filter keep := by
  cases hrow : row? key k t with
  | none => exact row?_eq_none.mpr fun r hr ↦ row?_eq_none.mp hrow r (List.mem_filter.mp hr).1
  | some r =>
    obtain rfl := key_of_row? hrow
    have hr := mem_of_row? hrow
    by_cases hkeep : keep r = true
    · rw [(hk.filter keep).row?_of_mem (List.mem_filter.mpr ⟨hr, hkeep⟩), Option.filter_some,
        if_pos hkeep]
    · rw [Option.filter_some, if_neg hkeep, row?_eq_none]
      intro r' hr' heq
      obtain ⟨hr', hkeep'⟩ := List.mem_filter.mp hr'
      exact hkeep (hk.eq_of_key_eq hr' hr heq ▸ hkeep')

/-! ### Joins -/

omit [DecidableEq κ] in
/-- A selection within one key finds at most one row. -/
theorem Keyed.length_filter_le_one (hk : Keyed key t) {keep : ρ → Bool}
    (hkeep : ∀ r, keep r = true → key r = k) : (t.filter keep).length ≤ 1 := by
  have hfilter : Keyed key (t.filter keep) := hk.filter keep
  have hsame : ∀ r ∈ t.filter keep, key r = k := fun r hr ↦ hkeep r (List.mem_filter.mp hr).2
  rcases hrows : t.filter keep with _ | ⟨a, _ | ⟨b, rest⟩⟩
  · exact Nat.zero_le 1
  · exact Nat.le_refl 1
  · rw [hrows] at hfilter hsame
    have ha := hsame a (by simp)
    have hb := hsame b (by simp)
    rw [Keyed, List.map_cons, List.map_cons, ha, hb] at hfilter
    exact absurd List.mem_cons_self (List.nodup_cons.mp hfilter).1

omit [DecidableEq κ] in
/-- **A join that finds at most one partner** has the keys of its rows, in their order. -/
theorem sublist_join {ι : Type*} {key' : ι → κ} {partners : ρ → List ι}
    (hkey : ∀ r, ∀ i ∈ partners r, key' i = key r) (hone : ∀ r, (partners r).length ≤ 1)
    (t : List ρ) : ((t.flatMap partners).map key').Sublist (t.map key) := by
  induction t with
  | nil => exact List.Sublist.refl _
  | cons r rest ih =>
    rw [List.flatMap_cons, List.map_append, List.map_cons]
    have hr := hone r
    have hkeys := hkey r
    rcases hpartners : partners r with _ | ⟨i, _ | ⟨i', more⟩⟩
    · exact ih.cons _
    · rw [hpartners] at hkeys
      rw [List.map_singleton, List.singleton_append, hkeys i List.mem_cons_self]
      exact ih.cons_cons _
    · rw [hpartners, List.length_cons, List.length_cons] at hr
      omega

/-! ### Insertions -/

/-- An insertion succeeds exactly when the key is free, and puts the row at the end. -/
theorem insert?_eq_some {t' : List ρ} :
    insert? key r t = some t' ↔ (∀ r' ∈ t, key r' ≠ key r) ∧ t' = t ++ [r] := by
  rw [insert?]
  constructor
  · intro h
    split at h
    · simp at h
    · rename_i hnone
      rw [Option.not_isSome_iff_eq_none] at hnone
      exact ⟨row?_eq_none.mp hnone, (Option.some.inj h).symm⟩
  · rintro ⟨hfresh, rfl⟩
    rw [row?_eq_none.mpr hfresh]
    rfl

/-- Under a free key, the insertion that may be ignored is not. -/
theorem insertOrIgnore_of_fresh (h : ∀ r' ∈ t, key r' ≠ key r) :
    insertOrIgnore key r t = t ++ [r] := by
  rw [insertOrIgnore, insert?_eq_some.mpr ⟨h, rfl⟩]
  rfl

/-- It adds at most its row. -/
theorem mem_insertOrIgnore {r' : ρ} (h : r' ∈ insertOrIgnore key r t) : r' ∈ t ∨ r' = r := by
  rw [insertOrIgnore, insert?] at h
  split at h
  · exact .inl h
  · exact (List.mem_append.mp h).imp_right List.mem_singleton.mp

/-- And loses none. -/
theorem subset_insertOrIgnore : t ⊆ insertOrIgnore key r t := by
  rw [insertOrIgnore, insert?]
  split
  · exact List.Subset.refl t
  · exact List.subset_append_left t _

omit [DecidableEq κ] in
/-- A row under a free key keeps the table keyed. -/
theorem Keyed.append (hk : Keyed key t) (h : ∀ r' ∈ t, key r' ≠ key r) : Keyed key (t ++ [r]) := by
  rw [Keyed, List.map_append, List.nodup_append]
  refine ⟨hk, by simp, ?_⟩
  intro a ha b hb
  obtain ⟨r', hr', rfl⟩ := List.mem_map.mp ha
  have hb' : b = key r := by simpa using hb
  exact hb' ▸ h r' hr'

/-- Rows at the end are found last. -/
theorem row?_append (r : ρ) :
    row? key k (t ++ [r]) = (row? key k t).or (if key r = k then some r else none) := by
  rw [row?, row?, List.find?_append]
  by_cases hk : key r = k <;> simp [hk]

/-- A row that selection finds is found in every longer table. -/
theorem row?_of_prefix {t' : List ρ} (ht : t <+: t') (h : row? key k t = some r) :
    row? key k t' = some r := by
  obtain ⟨more, rfl⟩ := ht
  rw [row?] at h ⊢
  rw [List.find?_append, h]
  rfl

/-- What is at the key afterwards, and that all other keys are as before. -/
theorem row?_upsert {f : ρ → ρ} (hf : ∀ r', key r' = key r → key (f r') = key r) :
    row? key k (upsert key r f t) =
      if k = key r then some (((row? key k t).map f).getD r) else row? key k t := by
  rw [upsert]
  split
  · rename_i hsome
    rw [row?_updateWhere fun r' hr' ↦ (hf r' (of_decide_eq_true hr')).trans
      (of_decide_eq_true hr').symm]
    by_cases hk : k = key r
    · subst hk
      obtain ⟨r₀, hr₀⟩ := Option.isSome_iff_exists.mp hsome
      simp [hr₀, key_of_row? hr₀]
    · rw [if_neg hk]
      cases hrow : row? key k t with
      | none => rfl
      | some r₀ =>
        have hne : key r₀ ≠ key r := fun heq ↦ hk ((key_of_row? hrow).symm.trans heq)
        simp [hne]
  · rename_i hnone
    rw [Option.not_isSome_iff_eq_none] at hnone
    rw [row?_append]
    by_cases hk : k = key r
    · subst hk
      simp [hnone]
    · rw [if_neg (Ne.symm hk), if_neg hk, Option.or_none]

/-- An upsert that overwrites leaves its row and those of other keys. -/
theorem mem_upsert {r' : ρ} (h : r' ∈ upsert key r (fun _ ↦ r) t) :
    r' = r ∨ r' ∈ t ∧ key r' ≠ key r := by
  rw [upsert] at h
  split at h
  · obtain ⟨r₀, hr₀, heq⟩ := mem_updateWhere.mp h
    split at heq
    · exact .inl heq.symm
    · rename_i hne
      exact heq ▸ .inr ⟨hr₀, by simpa using hne⟩
  · rename_i hnone
    rw [Option.not_isSome_iff_eq_none] at hnone
    rcases List.mem_append.mp h with h | h
    · exact .inr ⟨h, row?_eq_none.mp hnone r' h⟩
    · exact .inl (List.mem_singleton.mp h)

/-- Writing a row over itself changes nothing. -/
theorem Keyed.upsert_self (hk : Keyed key t) (h : r ∈ t) : upsert key r (fun _ ↦ r) t = t := by
  rw [Table.upsert, if_pos (row?_isSome_of_mem h), Table.updateWhere]
  refine (List.map_congr_left fun r' hr' ↦ ?_).trans (List.map_id t)
  split
  · rename_i heq
    exact hk.eq_of_key_eq h hr' (of_decide_eq_true heq).symm
  · rfl

/-- An upsert keeps the table keyed: it inserts only where the key is free. -/
theorem Keyed.upsert {f : ρ → ρ} (hk : Keyed key t)
    (hf : ∀ r', key r' = key r → key (f r') = key r) :
    Keyed key (upsert key r f t) := by
  rw [Table.upsert]
  split
  · exact hk.updateWhere fun r' hr' ↦ (hf r' (of_decide_eq_true hr')).trans
      (of_decide_eq_true hr').symm
  · rename_i hnone
    rw [Option.not_isSome_iff_eq_none] at hnone
    exact hk.append (row?_eq_none.mp hnone)

/-! ### Counting -/

omit [DecidableEq κ] in
/-- An update that makes no row count counts no more of them. -/
theorem countP_updateWhere_le {p c : ρ → Bool} {f : ρ → ρ}
    (h : ∀ r ∈ t, p r = true → c (f r) = true → c r = true) :
    (updateWhere p f t).countP c ≤ t.countP c := by
  rw [updateWhere, List.countP_map]
  refine List.countP_mono_left fun r hr hc ↦ ?_
  dsimp only [Function.comp_apply] at hc
  split at hc
  · rename_i hp
    exact h r hr hp hc
  · exact hc

/-- An update by key reaches at most one row. -/
theorem Keyed.countP_updateWhere_key_le {c : ρ → Bool} {f : ρ → ρ} (hk : Keyed key t) (k : κ) :
    (Table.updateWhere (fun r ↦ decide (key r = k)) f t).countP c ≤ t.countP c + 1 := by
  induction t with
  | nil => exact Nat.zero_le _
  | cons r rest ih =>
    rw [Keyed, List.map_cons, List.nodup_cons] at hk
    by_cases hkey : key r = k
    · have hrest : Table.updateWhere (fun r ↦ decide (key r = k)) f rest = rest := by
        refine updateWhere_eq_self fun r' hr' ↦ decide_eq_false fun heq ↦ hk.1 ?_
        exact hkey.trans heq.symm ▸ List.mem_map_of_mem hr'
      have hcons : Table.updateWhere (fun r ↦ decide (key r = k)) f (r :: rest) = f r :: rest := by
        rw [← congrArg (f r :: ·) hrest]
        simp [Table.updateWhere, hkey]
      rw [hcons, List.countP_cons, List.countP_cons]
      split <;> omega
    · have hcons : Table.updateWhere (fun r ↦ decide (key r = k)) f (r :: rest) =
          r :: Table.updateWhere (fun r ↦ decide (key r = k)) f rest := by
        simp [Table.updateWhere, hkey]
      have hrest := ih hk.2
      rw [hcons, List.countP_cons, List.countP_cons]
      omega

/-- An upsert makes at most one row count. -/
theorem Keyed.countP_upsert_le {c : ρ → Bool} {f : ρ → ρ} (hk : Keyed key t) (r : ρ) :
    (Table.upsert key r f t).countP c ≤ t.countP c + 1 := by
  rw [Table.upsert]
  split
  · exact hk.countP_updateWhere_key_le _
  · rw [List.countP_append, List.countP_singleton]
    split <;> omega

/-! ### Many upserts -/

section UpsertAll

variable {ι : Type*}

/-- One upsert for each element of a list, in its order. -/
def upsertAll (key : ρ → κ) (fresh : ι → ρ) (onConflict : ι → ρ → ρ) (xs : List ι) (t : List ρ) :
    List ρ :=
  xs.foldl (fun t x ↦ upsert key (fresh x) (onConflict x) t) t

/-- The row an upsert of `fresh` leaves at its key. -/
def Upserted (key : ρ → κ) (fresh : ρ) (onConflict : ρ → ρ) (t : List ρ) (r : ρ) : Prop :=
  r = fresh ∨ ∃ r₀ ∈ t, key r₀ = key fresh ∧ r = onConflict r₀

/-- A row after an upsert was written by it, or is one of another key. -/
theorem upserted_or_kept {r₀ : ρ} {f : ρ → ρ} (h : r ∈ upsert key r₀ f t) :
    Upserted key r₀ f t r ∨ r ∈ t ∧ key r ≠ key r₀ := by
  rw [upsert] at h
  split at h
  · obtain ⟨r₁, hr₁, heq⟩ := mem_updateWhere.mp h
    split at heq
    · rename_i hkey
      exact .inl (.inr ⟨r₁, hr₁, of_decide_eq_true hkey, heq.symm⟩)
    · rename_i hkey
      exact .inr ⟨heq ▸ hr₁, heq ▸ by simpa using hkey⟩
  · rename_i hnone
    rw [Option.not_isSome_iff_eq_none] at hnone
    rcases List.mem_append.mp h with h | h
    · exact .inr ⟨h, row?_eq_none.mp hnone r h⟩
    · exact .inl (.inl (List.mem_singleton.mp h))

/-- Rows of other keys stay. -/
theorem mem_upsert_of_ne {r₀ : ρ} {f : ρ → ρ} (hr : r ∈ t) (hne : key r ≠ key r₀) :
    r ∈ upsert key r₀ f t := by
  rw [upsert]
  split
  · exact mem_updateWhere.mpr ⟨r, hr, by simp [hne]⟩
  · exact List.mem_append_left _ hr

/-- An upsert leaves a row at its key. -/
theorem exists_key_upsert {r₀ : ρ} {f : ρ → ρ}
    (hf : ∀ r, key r = key r₀ → key (f r) = key r₀) : ∃ r ∈ upsert key r₀ f t, key r = key r₀ := by
  have hrow : row? key (key r₀) (upsert key r₀ f t) = _ := row?_upsert hf
  rw [if_pos rfl] at hrow
  exact ⟨_, mem_of_row? hrow, key_of_row? hrow⟩

/-- **What a run of upserts leaves**, when no two of them share a key: at each of their keys the row
written there, and every other row. -/
theorem upserted_or_kept_all {fresh : ι → ρ} {f : ι → ρ → ρ} {xs : List ι}
    (hf : ∀ x r, key r = key (fresh x) → key (f x r) = key (fresh x))
    (hnodup : (xs.map fun x ↦ key (fresh x)).Nodup) (h : r ∈ upsertAll key fresh f xs t) :
    (∃ x ∈ xs, Upserted key (fresh x) (f x) t r) ∨ r ∈ t ∧ ∀ x ∈ xs, key r ≠ key (fresh x) := by
  induction xs generalizing t with
  | nil => exact .inr ⟨h, by simp⟩
  | cons x rest ih =>
    rw [List.map_cons, List.nodup_cons] at hnodup
    rcases ih hnodup.2 h with ⟨y, hy, hwritten⟩ | ⟨hr, hothers⟩
    · refine .inl ⟨y, List.mem_cons_of_mem _ hy, ?_⟩
      rcases hwritten with hfresh | ⟨r₀, hr₀, hkey, heq⟩
      · exact .inl hfresh
      · -- The row `y` overwrites is not the one `x` has written.
        rcases upserted_or_kept hr₀ with hx | ⟨hr₀, -⟩
        · have hkeyx : key r₀ = key (fresh x) := by
            rcases hx with rfl | ⟨r₁, -, hr₁, rfl⟩
            · rfl
            · exact hf x r₁ hr₁
          exact absurd (List.mem_map.mpr ⟨y, hy, hkey.symm.trans hkeyx⟩) hnodup.1
        · exact .inr ⟨r₀, hr₀, hkey, heq⟩
    · rcases upserted_or_kept hr with hx | ⟨hr, hne⟩
      · exact .inl ⟨x, List.mem_cons_self, hx⟩
      · refine .inr ⟨hr, fun y hy ↦ ?_⟩
        rcases List.mem_cons.mp hy with rfl | hy
        · exact hne
        · exact hothers y hy

/-- And stay through a whole run. -/
theorem mem_upsertAll_of_ne {fresh : ι → ρ} {f : ι → ρ → ρ} {xs : List ι} (hr : r ∈ t)
    (hne : ∀ x ∈ xs, key r ≠ key (fresh x)) : r ∈ upsertAll key fresh f xs t := by
  induction xs generalizing t with
  | nil => exact hr
  | cons x rest ih =>
    exact ih (mem_upsert_of_ne hr (hne x List.mem_cons_self))
      fun y hy ↦ hne y (List.mem_cons_of_mem _ hy)

/-- Each of the upserts leaves a row at its key. -/
theorem exists_key_upsertAll {fresh : ι → ρ} {f : ι → ρ → ρ} {xs : List ι} {x : ι}
    (hf : ∀ x r, key r = key (fresh x) → key (f x r) = key (fresh x)) (hx : x ∈ xs) :
    ∃ r ∈ upsertAll key fresh f xs t, key r = key (fresh x) := by
  have hkept : ∀ (ys : List ι) (t : List ρ), (∃ r ∈ t, key r = key (fresh x)) →
      ∃ r ∈ upsertAll key fresh f ys t, key r = key (fresh x) := by
    intro ys
    induction ys with
    | nil => exact fun _ h ↦ h
    | cons y rest ih =>
      rintro t ⟨r, hr, hkey⟩
      refine ih _ ?_
      by_cases hsame : key r = key (fresh y)
      · obtain ⟨r', hr', hkey'⟩ := exists_key_upsert (t := t) (hf y)
        exact ⟨r', hr', hkey'.trans (hsame.symm.trans hkey)⟩
      · exact ⟨r, mem_upsert_of_ne hr hsame, hkey⟩
  induction xs generalizing t with
  | nil => cases hx
  | cons y rest ih =>
    rcases List.mem_cons.mp hx with rfl | hx
    · exact hkept rest _ (exists_key_upsert (hf x))
    · exact ih hx

end UpsertAll

/-! ### Rows out of reach -/

/-- The two tables have the same rows where `p` holds, in the same order. -/
def SameOn (p : ρ → Bool) (t t' : List ρ) : Prop := t'.filter p = t.filter p

section SameOn

variable {p : ρ → Bool} {t' : List ρ}

omit [DecidableEq κ] in
/-- A table is the same as itself. -/
theorem SameOn.refl (p : ρ → Bool) (t : List ρ) : SameOn p t t := rfl

/-- Statements one after the other leave alone what each of them does. -/
theorem SameOn.trans {t'' : List ρ} (h : SameOn p t t') (h' : SameOn p t' t'') : SameOn p t t'' :=
  Eq.trans h' h

/-- In the part left alone, the same rows are there. -/
theorem SameOn.mem_iff (h : SameOn p t t') (hp : p r = true) : r ∈ t' ↔ r ∈ t := by
  have hmem : r ∈ t'.filter p ↔ r ∈ t.filter p := by rw [h]
  rwa [List.mem_filter, List.mem_filter, and_iff_left hp, and_iff_left hp] at hmem

/-- Selection by a key of that part finds the same row. -/
theorem SameOn.row?_eq (h : SameOn p t t') (hp : ∀ r, key r = k → p r = true) :
    row? key k t' = row? key k t := by
  have hsub : ∀ l : List ρ, row? key k (l.filter p) = row? key k l := by
    intro l
    rw [row?, row?, List.find?_filter]
    congr 1
    funext r
    by_cases hr : key r = k <;> simp [hr, hp r]
  rw [← hsub t', ← hsub t, h]

/-- Rows added outside the part do not show in it. -/
theorem SameOn.append {added : List ρ} (h : ∀ r ∈ added, p r = false) :
    SameOn p t (t ++ added) := by
  have hnone : added.filter p = [] := List.filter_eq_nil_iff.mpr fun r hr ↦ by simp [h r hr]
  rw [SameOn, List.filter_append, hnone, List.append_nil]

/-- Nor does an update that stays outside. -/
theorem SameOn.updateWhere {u : ρ → Bool} {f : ρ → ρ}
    (h : ∀ r, u r = true → p r = false ∧ p (f r) = false) :
    SameOn p t (updateWhere u f t) := by
  induction t with
  | nil => rfl
  | cons r rest ih =>
    rw [SameOn, Table.updateWhere] at ih
    rw [SameOn, Table.updateWhere, List.map_cons, List.filter_cons, List.filter_cons, ih]
    by_cases hu : u r = true
    · simp [hu, h r hu]
    · simp [hu]

/-- Nor an upsert of a key outside. -/
theorem SameOn.upsert {f : ρ → ρ}
    (h : p r = false ∧ ∀ r', key r' = key r → p r' = false ∧ p (f r') = false) :
    SameOn p t (upsert key r f t) := by
  rw [Table.upsert]
  split
  · exact .updateWhere fun r' hr' ↦ h.2 r' (of_decide_eq_true hr')
  · exact .append fun r' hr' ↦ List.mem_singleton.mp hr' ▸ h.1

/-- What each round leaves alone, the loop leaves alone. -/
theorem SameOn.foldl {ι : Type*} {step : List ρ → ι → List ρ} (xs : List ι)
    (h : ∀ t, ∀ x ∈ xs, SameOn p t (step t x)) : SameOn p t (xs.foldl step t) := by
  induction xs generalizing t with
  | nil => rfl
  | cons x rest ih =>
    exact (h t x List.mem_cons_self).trans (ih fun t y hy ↦ h t y (List.mem_cons_of_mem _ hy))

omit [DecidableEq κ] in
/-- Rows of a smaller part of the table. -/
theorem SameOn.mono {q : ρ → Bool} (h : SameOn p t t') (hq : ∀ r, q r = true → p r = true) :
    SameOn q t t' := by
  have hsub : ∀ l : List ρ, (l.filter p).filter q = l.filter q := by
    intro l
    rw [List.filter_filter]
    refine List.filter_congr fun r _ ↦ ?_
    rw [Bool.eq_iff_iff, Bool.and_eq_true]
    exact ⟨fun hr ↦ hr.1, fun hr ↦ ⟨hr, hq r hr⟩⟩
  rw [SameOn, ← hsub t', ← hsub t, h]

/-- Where only the rows of `k` were in reach, those of any other key are as before. -/
theorem SameOn.of_ne {k' : κ} (hne : k' ≠ k)
    (h : SameOn (fun r ↦ decide (key r ≠ k)) t t') : SameOn (fun r ↦ decide (key r = k')) t t' :=
  h.mono fun _ hr ↦ decide_eq_true (of_decide_eq_true hr ▸ hne)

end SameOn

/-! ### Rows that move -/

section MovedTo

/-- **The rows of `p` have moved to `q`**: each has arrived, none is left, and the rows of neither
are as before. -/
structure MovedTo (p q : ρ → Bool) (image : ρ → ρ → Prop) (t t' : List ρ) : Prop where
  arrived : ∀ r ∈ t, p r = true → ∃ r' ∈ t', image r r'
  left : ∀ r ∈ t', p r = false
  rest : SameOn (fun r ↦ !p r && !q r) t t'

/-- An update that takes every row of one part into another has moved them. -/
theorem MovedTo.updateWhere {p q : ρ → Bool} {image : ρ → ρ → Prop} {f : ρ → ρ} {t : List ρ}
    (h : ∀ r, p r = true → p (f r) = false ∧ q (f r) = true ∧ image r (f r)) :
    MovedTo p q image t (Table.updateWhere p f t) where
  arrived r hr hp := ⟨f r, mem_updateWhere.mpr ⟨r, hr, by rw [if_pos hp]⟩, (h r hp).2.2⟩
  left r hr := by
    obtain ⟨r₀, -, rfl⟩ := mem_updateWhere.mp hr
    split
    · rename_i hp
      exact (h r₀ hp).1
    · rename_i hp
      exact Bool.not_eq_true _ ▸ hp
  rest := .updateWhere fun r hp ↦ by simp [hp, (h r hp).2.1]

/-- Nothing has to move where there is nothing. -/
theorem MovedTo.refl {p : ρ → Bool} (q : ρ → Bool) (image : ρ → ρ → Prop) {t : List ρ}
    (h : ∀ r ∈ t, p r = false) : MovedTo p q image t t where
  arrived r hr hp := absurd hp (by simp [h r hr])
  left := h
  rest := .refl _ _

/-- An update that keeps the rows of `p` there moves none of them. -/
theorem MovedTo.not_updateWhere {p q : ρ → Bool} {image : ρ → ρ → Prop} {f : ρ → ρ} {t : List ρ}
    (hmoved : MovedTo p q image t (Table.updateWhere p f t))
    (h : ∀ r, p r = true → p (f r) = true) : ∀ r ∈ t, p r = false := by
  intro r hr
  by_contra hp
  rw [Bool.not_eq_false] at hp
  have hleft := hmoved.left (f r) (mem_updateWhere.mpr ⟨r, hr, by rw [if_pos hp]⟩)
  exact absurd (h r hp) (by simp [hleft])

end MovedTo

/-! ### Tables that evolve -/

/-- `t'` is `t` after updates that keep keys and keep `K`, and insertions under new keys. -/
def Evolves (key : ρ → κ) (K : ρ → Prop) (t t' : List ρ) : Prop :=
  ∃ (f : ρ → ρ) (added : List ρ), t' = t.map f ++ added ∧
    (∀ r ∈ t, key (f r) = key r ∧ (K r → K (f r))) ∧ ∀ r ∈ added, ∀ r' ∈ t, key r' ≠ key r

section Evolves

variable {K : ρ → Prop} {t' : List ρ}

omit [DecidableEq κ] in
/-- Nothing has happened yet. -/
theorem Evolves.refl (t : List ρ) : Evolves key K t t :=
  ⟨id, [], by simp, fun _ _ ↦ ⟨rfl, id⟩, by simp⟩

omit [DecidableEq κ] in
/-- One update more. -/
theorem Evolves.updateWhere {p : ρ → Bool} {f : ρ → ρ} (hf : ∀ r, key (f r) = key r)
    (hK : ∀ r, K r → K (f r)) : Evolves key K t (updateWhere p f t) := by
  refine ⟨fun r ↦ if p r then f r else r, [], by simp [Table.updateWhere], fun r _ ↦ ?_, by simp⟩
  dsimp only
  split
  · exact ⟨hf r, hK r⟩
  · exact ⟨rfl, id⟩

omit [DecidableEq κ] in
/-- One row more, under a free key. -/
theorem Evolves.append (h : ∀ r' ∈ t, key r' ≠ key r) : Evolves key K t (t ++ [r]) :=
  ⟨id, [r], by simp, fun _ _ ↦ ⟨rfl, id⟩, fun _ hr ↦ List.mem_singleton.mp hr ▸ h⟩

omit [DecidableEq κ] in
/-- Keys stay. -/
theorem Evolves.exists_key (h : Evolves key K t t') (hk : ∃ r ∈ t, key r = k) :
    ∃ r ∈ t', key r = k := by
  obtain ⟨f, added, rfl, hf, -⟩ := h
  obtain ⟨r, hr, hkey⟩ := hk
  exact ⟨f r, List.mem_append_left _ (List.mem_map_of_mem hr), (hf r hr).1.trans hkey⟩

omit [DecidableEq κ] in
/-- Under a key that is there, what all rows satisfy they go on to satisfy. -/
theorem Evolves.forall_key (h : Evolves key K t t') (hk : ∃ r ∈ t, key r = k)
    (hK : ∀ r ∈ t, key r = k → K r) : ∀ r ∈ t', key r = k → K r := by
  obtain ⟨f, added, rfl, hf, hadded⟩ := h
  intro r hr hkey
  rcases List.mem_append.mp hr with hold | hnew
  · obtain ⟨r₀, hr₀, rfl⟩ := List.mem_map.mp hold
    exact (hf r₀ hr₀).2 (hK r₀ hr₀ ((hf r₀ hr₀).1.symm.trans hkey))
  · obtain ⟨r₀, hr₀, hkey₀⟩ := hk
    exact absurd (hkey₀.trans hkey.symm) (hadded r hnew r₀ hr₀)

end Evolves

end Table
