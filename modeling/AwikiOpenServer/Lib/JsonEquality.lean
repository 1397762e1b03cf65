import Mathlib.Data.Finset.Basic
import AwikiOpenServer.Lib.Json

/-!
# Equality of documents, and agreement but for some members

`Json.same` is symmetric and transitive, and reflexive where no NaN is inside (`Json.same_refl`). On
dictionaries it is read by keys (`same_obj_iff`): the order of the members does not matter.

**Symmetry is not structural.** `same` recurses on its left argument and looks its members up in the
right one, so exchanging the two is not a case split on the definition. The proofs go through
`SameView`, a relation with one constructor for each way two documents can be equal, and with the
dictionary case stated symmetrically. A number is equal to another when both have one numeric value
that is not a NaN; this is the only case in which the constructors of the two sides may differ.

## Assignment, and what it leaves

`Obj.put` is assignment with the order kept, as a Python dictionary keeps it. `Obj.AgreesBut R keys`
says of two dictionaries that they are the same list of members, except that the values of `keys`
are only related by `R`. Assigning to one of `keys` on both sides takes it off the list
(`AgreesBut.put`), and with no key left the two are equal (`AgreesBut.eq_of_empty`).

That is how a program that rewrites some members one after the other is compared with itself on an
input that differs in just these members: start with all of them in `keys`, follow the assignments,
and end with an equality. It is a relation between lists and not between dictionaries, because what
is compared in the end is what is written.

The two parts are independent; they are together because a comparison of documents and a comparison
of runs over documents are wanted in the same places.
-/

namespace Py.Json

variable {v w u : Json} {a b : Obj}

/-- A dictionary is compared member by member, the shadowed ones left out. -/
theorem sameFields_iff {seen : List String} : sameFields seen a b = true ↔
    ∀ k v, k ∉ seen → a.lookup k = some v → ∃ w, b.lookup k = some w ∧ same v w = true := by
  refine ⟨fun h k v hseen hv ↦ lookup_of_sameFields h hseen hv, fun h ↦ ?_⟩
  induction a generalizing seen with
  | nil => rw [sameFields]
  | cons p rest ih =>
    obtain ⟨k, v⟩ := p
    rw [sameFields, Bool.and_eq_true]
    constructor
    · by_cases hseen : k ∈ seen
      · rw [Bool.or_eq_true, List.contains_iff_mem]
        exact .inl hseen
      · obtain ⟨w, hw, hsame⟩ := h k v hseen (by simp)
        simp [hw, hsame]
    · refine ih fun k' v' hseen hv' ↦ h k' v' (fun hk' ↦ hseen (List.mem_cons_of_mem _ hk')) ?_
      have hne : (k' == k) = false := beq_eq_false_iff_ne.mpr fun heq ↦
        hseen (heq ▸ List.mem_cons_self)
      rw [List.lookup_cons, hne]
      exact hv'

/-- Dictionaries are equal when they have the same keys and equal members. -/
theorem same_obj_iff : same (.obj a) (.obj b) = true ↔ (∀ k, Obj.has a k = Obj.has b k) ∧
    ∀ k v w, a.lookup k = some v → b.lookup k = some w → same v w = true := by
  rw [same, Bool.and_eq_true, sameFields_iff, List.all_eq_true]
  constructor
  · rintro ⟨hmembers, hkeys⟩
    refine ⟨fun k ↦ Bool.eq_iff_iff.mpr ⟨fun ha ↦ ?_, fun hb ↦ ?_⟩, fun k v w hv hw ↦ ?_⟩
    · obtain ⟨v, hv⟩ := Option.isSome_iff_exists.mp ha
      obtain ⟨w, hw, -⟩ := hmembers k v List.not_mem_nil hv
      exact Option.isSome_iff_exists.mpr ⟨w, hw⟩
    · obtain ⟨w, hw⟩ := Option.isSome_iff_exists.mp hb
      exact hkeys _ (Obj.mem_of_lookup hw)
    · obtain ⟨w', hw', hsame⟩ := hmembers k v List.not_mem_nil hv
      obtain rfl : w' = w := Option.some.inj (hw'.symm.trans hw)
      exact hsame
  · rintro ⟨hkeys, hmembers⟩
    constructor
    · intro k v _ hv
      have hhas : Obj.has b k = true := (hkeys k).symm.trans (Option.isSome_iff_exists.mpr ⟨v, hv⟩)
      obtain ⟨w, hw⟩ := Option.isSome_iff_exists.mp hhas
      exact ⟨w, hw, hmembers k v w hv hw⟩
    · intro p hp
      rw [hkeys p.1]
      refine Option.isSome_iff_ne_none.mpr fun hnone ↦ ?_
      exact (Obj.lookup_eq_none_iff_not_mem b p.1).mp hnone (List.mem_map_of_mem hp)

/-- The ways of being equal. -/
inductive SameView : Json → Json → Prop where
  | null : SameView .null .null
  | str (s : String) : SameView (.str s) (.str s)
  | numeric {v w : Json} {x : PyFloat} (hnan : x ≠ .nan) (hv : v.numeric? = some x)
      (hw : w.numeric? = some x) : SameView v w
  | arr {as bs : List Json} (h : sameItems as bs = true) : SameView (.arr as) (.arr bs)
  | obj {a b : Obj} (h : same (.obj a) (.obj b) = true) : SameView (.obj a) (.obj b)

/-- Where one side is a number, both are, of one value, and the value is not a NaN. -/
theorem numeric?_eq_of_same (h : same v w = true) (hv : v.numeric?.isSome ∨ w.numeric?.isSome) :
    ∃ x, x ≠ .nan ∧ v.numeric? = some x ∧ w.numeric? = some x := by
  have hnumbers : ∃ x y, v.numeric? = some x ∧ w.numeric? = some y ∧ x.eq y = true := by
    cases v <;> cases w <;> simp_all [same, numeric?]
  obtain ⟨x, y, hx, hy, heq⟩ := hnumbers
  obtain ⟨hnan, rfl⟩ : x ≠ .nan ∧ x = y := by simpa [PyFloat.eq] using heq
  exact ⟨x, hnan, hx, hy⟩

/-- Documents of one numeric value are equal, whatever their types. -/
theorem same_of_numeric? {x : PyFloat} (hnan : x ≠ .nan) (hv : v.numeric? = some x)
    (hw : w.numeric? = some x) : same v w = true := by
  cases v <;> cases w <;> simp_all [same, numeric?, PyFloat.eq]

/-- Every equality is one of the ways listed. -/
theorem sameView (h : same v w = true) : SameView v w := by
  cases v with
  | null => cases w with
    | null => exact .null
    | _ => simp [same, numeric?] at h
  | str s => cases w with
    | str t =>
      obtain rfl : s = t := by simpa [same] using h
      exact .str s
    | _ => simp [same, numeric?] at h
  | arr as => cases w with
    | arr bs => exact .arr (by rwa [same] at h)
    | _ => simp [same, numeric?] at h
  | obj a => cases w with
    | obj b => exact .obj h
    | _ => simp [same, numeric?] at h
  | _ =>
    obtain ⟨x, hnan, hv, hw⟩ := numeric?_eq_of_same h (.inl rfl)
    exact .numeric hnan hv hw

mutual

/-- Each of the ways can be read from the other side. The dictionary case is where this needs the
view: its members are compared in the other direction. -/
theorem SameView.symm : ∀ {v w : Json}, SameView v w → same w v = true
  | _, _, .null => rfl
  | _, _, .str s => by simp [same]
  | _, _, .numeric hnan hv hw => same_of_numeric? hnan hw hv
  | .arr as, .arr bs, .arr hitems => by
    rw [same]
    exact sameItems_symm hitems
  | .obj a, .obj b, .obj h => by
    obtain ⟨hkeys, hmembers⟩ := same_obj_iff.mp h
    refine same_obj_iff.mpr ⟨fun k ↦ (hkeys k).symm, fun k w v hw hv ↦ ?_⟩
    exact (sameView (hmembers k v w hv hw)).symm
termination_by v => sizeOf v
decreasing_by
  · simp
  · exact sizeOf_lt_of_lookup hv

theorem sameItems_symm : ∀ {as bs : List Json}, sameItems as bs = true → sameItems bs as = true
  | [], [], h => h
  | [], _ :: _, h => by simp [sameItems] at h
  | _ :: _, [], h => by simp [sameItems] at h
  | v :: as, w :: bs, h => by
    rw [sameItems, Bool.and_eq_true] at h ⊢
    exact ⟨(sameView h.1).symm, sameItems_symm h.2⟩
termination_by as => sizeOf as

end

/-- Equality is symmetric. -/
theorem same_symm (h : same v w = true) : same w v = true := (sameView h).symm

mutual

/-- And they compose, by recursion on the middle document. -/
theorem SameView.trans : ∀ {v w u : Json}, SameView v w → same w u = true → same v u = true
  | _, _, _, .null, h' => h'
  | _, _, _, .str s, h' => h'
  | _, _, _, .numeric hnan hv hw, h' => by
    obtain ⟨x, -, hw', hu⟩ := numeric?_eq_of_same h' (.inl (Option.isSome_of_eq_some hw))
    obtain rfl := Option.some.inj (hw.symm.trans hw')
    exact same_of_numeric? hnan hv hu
  | .arr as, .arr bs, _, .arr hitems, h' => by
    cases sameView h' with
    | numeric _ hw => cases hw
    | arr hitems' =>
      rw [same]
      exact sameItems_trans hitems hitems'
  | .obj a, .obj b, _, .obj h, h' => by
    cases sameView h' with
    | numeric _ hw => cases hw
    | obj h' =>
      obtain ⟨hkeys, hmembers⟩ := same_obj_iff.mp h
      obtain ⟨hkeys', hmembers'⟩ := same_obj_iff.mp h'
      refine same_obj_iff.mpr ⟨fun k ↦ (hkeys k).trans (hkeys' k), fun k v u hv hu ↦ ?_⟩
      have hhas := (hkeys k).symm.trans (Option.isSome_iff_exists.mpr ⟨v, hv⟩)
      obtain ⟨w, hw⟩ := Option.isSome_iff_exists.mp hhas
      exact (sameView (hmembers k v w hv hw)).trans (hmembers' k w u hw hu)
termination_by v => sizeOf v
decreasing_by
  · simp
  · exact sizeOf_lt_of_lookup hv

theorem sameItems_trans : ∀ {as bs cs : List Json}, sameItems as bs = true →
    sameItems bs cs = true → sameItems as cs = true
  | [], [], _, _, h => h
  | [], _ :: _, _, h, _ => by simp [sameItems] at h
  | _ :: _, [], _, h, _ => by simp [sameItems] at h
  | _ :: _, _ :: _, [], _, h => by simp [sameItems] at h
  | v :: as, w :: bs, u :: cs, h, h' => by
    rw [sameItems, Bool.and_eq_true] at h h' ⊢
    exact ⟨(sameView h.1).trans h'.1, sameItems_trans h.2 h'.2⟩
termination_by as => sizeOf as

end

/-- Equality is transitive. -/
theorem same_trans (h : same v w = true) (h' : same w u = true) : same v u = true :=
  (sameView h).trans h'

end Py.Json

namespace Py.Obj

variable {o o' o'' : Obj} {k : String} {v w : Json}

/-- `o[k] = v`: a key that is there keeps its place, a new one goes to the end. -/
def put : Obj → String → Json → Obj
  | [], k, v => [(k, v)]
  | (k', v') :: o, k, v => if k' = k then (k, v) :: o else (k', v') :: put o k v

/-- An assignment changes what is under its key and nothing else. -/
theorem lookup_put (o : Obj) (k k' : String) (v : Json) :
    (put o k v).lookup k' = if k' = k then some v else o.lookup k' := by
  induction o with
  | nil =>
    rw [put, List.lookup_cons]
    by_cases hk : k' = k
    · simp [hk]
    · simp [hk, beq_eq_false_iff_ne.mpr hk]
  | cons p o ih =>
    obtain ⟨k₀, v₀⟩ := p
    rw [put]
    by_cases hk₀ : k₀ = k
    · subst hk₀
      rw [if_pos rfl, List.lookup_cons, List.lookup_cons]
      by_cases hk : k' = k₀
      · simp [hk]
      · simp [hk, beq_eq_false_iff_ne.mpr hk]
    · rw [if_neg hk₀, List.lookup_cons, List.lookup_cons, ih]
      by_cases hk : k' = k₀
      · subst hk
        simp [hk₀]
      · simp [beq_eq_false_iff_ne.mpr hk]

@[simp] theorem get_put_self (o : Obj) (k : String) (v : Json) : (put o k v).get k = v := by
  rw [get, getD, lookup_put, if_pos rfl, Option.getD_some]

/-- Assigning what is there changes nothing. -/
theorem put_eq_self (h : o.lookup k = some v) : put o k v = o := by
  induction o with
  | nil => cases h
  | cons p o ih =>
    obtain ⟨k₀, v₀⟩ := p
    rw [put]
    by_cases hk : k₀ = k
    · subst hk
      obtain rfl : v₀ = v := by simpa using h
      rw [if_pos rfl]
    · have hne : (k == k₀) = false := beq_eq_false_iff_ne.mpr (Ne.symm hk)
      rw [List.lookup_cons, hne] at h
      rw [if_neg hk, ih h]

/-- The same members, except that the values of `keys` are related by `R`; a shadowed member is not
a value. -/
inductive AgreesBut (R : Json → Json → Prop) : Finset String → Obj → Obj → Prop where
  | nil (keys : Finset String) : AgreesBut R keys [] []
  | inside {keys : Finset String} {k : String} {v w : Json} {o o' : Obj} (hk : k ∈ keys) (h : R v w)
      (rest : AgreesBut R (keys.erase k) o o') : AgreesBut R keys ((k, v) :: o) ((k, w) :: o')
  | outside {keys : Finset String} {k : String} {v : Json} {o o' : Obj} (hk : k ∉ keys)
      (rest : AgreesBut R keys o o') : AgreesBut R keys ((k, v) :: o) ((k, v) :: o')

namespace AgreesBut

variable {R S : Json → Json → Prop} {keys : Finset String}

/-- A dictionary agrees with itself, whatever may differ. -/
theorem refl (hR : ∀ v, R v v) (keys : Finset String) (o : Obj) : AgreesBut R keys o o := by
  induction o generalizing keys with
  | nil => exact .nil keys
  | cons p o ih =>
    by_cases hk : p.1 ∈ keys
    · exact .inside hk (hR _) (ih _)
    · exact .outside hk (ih _)

theorem imp (h : AgreesBut R keys o o') (hRS : ∀ v w, R v w → S v w) : AgreesBut S keys o o' := by
  induction h with
  | nil keys => exact .nil keys
  | inside hk h _ ih => exact .inside hk (hRS _ _ h) ih
  | outside hk _ ih => exact .outside hk ih

theorem trans (hR : ∀ {u v w}, R u v → R v w → R u w) (h : AgreesBut R keys o o')
    (h' : AgreesBut R keys o' o'') : AgreesBut R keys o o'' := by
  induction h generalizing o'' with
  | nil keys => exact h'
  | inside hk hvw _ ih =>
    cases h' with
    | inside _ hwu rest => exact .inside hk (hR hvw hwu) (ih rest)
    | outside hk' _ => exact absurd hk hk'
  | outside hk _ ih =>
    cases h' with
    | inside hk' _ _ => exact absurd hk' hk
    | outside _ rest => exact .outside hk (ih rest)

/-- With no key left out the two are equal. -/
theorem eq_of_empty (h : AgreesBut R ∅ o o') : o = o' := by
  generalize hkeys : (∅ : Finset String) = keys at h
  induction h with
  | nil => rfl
  | inside hk => exact absurd hk (hkeys ▸ Finset.notMem_empty _)
  | outside _ _ ih => rw [ih hkeys]

/-- What the two have under a key. -/
theorem lookup (h : AgreesBut R keys o o') (k : String) : o.lookup k = o'.lookup k ∨
    k ∈ keys ∧ ∃ v w, o.lookup k = some v ∧ o'.lookup k = some w ∧ R v w := by
  induction h with
  | nil => exact .inl rfl
  | @inside keys k₀ v w o o' hk hvw _ ih =>
    rw [List.lookup_cons, List.lookup_cons]
    by_cases hkk : k = k₀
    · subst hkk
      simp only [beq_self_eq_true]
      exact .inr ⟨hk, v, w, rfl, rfl, hvw⟩
    · rw [beq_eq_false_iff_ne.mpr hkk]
      exact ih.imp_right fun hmem ↦ ⟨Finset.mem_of_mem_erase hmem.1, hmem.2⟩
  | @outside keys k₀ v o o' hk _ ih =>
    rw [List.lookup_cons, List.lookup_cons]
    by_cases hkk : k = k₀
    · subst hkk
      exact .inl (by simp)
    · rw [beq_eq_false_iff_ne.mpr hkk]
      exact ih

theorem get_eq (h : AgreesBut R keys o o') (hk : k ∉ keys) : o.get k = o'.get k := by
  rw [get, get, getD, getD, (h.lookup k).resolve_right fun hmem ↦ hk hmem.1]

theorem getD_rel (hR : ∀ v, R v v) (h : AgreesBut R keys o o') (k : String) (d : Json) :
    R (o.getD k d) (o'.getD k d) := by
  rw [getD, getD]
  rcases h.lookup k with heq | ⟨-, v, w, hv, hw, hvw⟩
  · rw [heq]
    exact hR _
  · rw [hv, hw]
    exact hvw

theorem has_eq (h : AgreesBut R keys o o') (k : String) : o.has k = o'.has k := by
  rw [has, has]
  rcases h.lookup k with heq | ⟨-, v, w, hv, hw, -⟩
  · rw [heq]
  · rw [hv, hw]
    rfl

/-- A key that is not there need not be on the list. -/
theorem erase (h : AgreesBut R keys o o') (hk : o.has k = false) :
    AgreesBut R (keys.erase k) o o' := by
  induction h with
  | nil keys => exact .nil _
  | @inside keys k₀ _ _ o _ hk₀ hvw _ ih =>
    obtain ⟨hne, hrest⟩ : k ≠ k₀ ∧ Obj.has o k = false := by simpa [has_cons] using hk
    refine .inside (Finset.mem_erase.mpr ⟨Ne.symm hne, hk₀⟩) hvw ?_
    rw [Finset.erase_right_comm]
    exact ih hrest
  | @outside keys k₀ _ o _ hk₀ _ ih =>
    obtain ⟨-, hrest⟩ : k ≠ k₀ ∧ Obj.has o k = false := by simpa [has_cons] using hk
    exact .outside (fun hmem ↦ hk₀ (Finset.mem_of_mem_erase hmem)) (ih hrest)

/-- **An assignment on both sides** takes its key off the list. -/
protected theorem put (h : AgreesBut R keys o o') (k : String) (v : Json) :
    AgreesBut R (keys.erase k) (put o k v) (put o' k v) := by
  induction h with
  | nil keys => exact .outside (Finset.notMem_erase k keys) (.nil _)
  | @inside keys k₀ _ _ _ _ hk hvw rest ih =>
    rw [put, put]
    by_cases hkk : k₀ = k
    · subst hkk
      rw [if_pos rfl, if_pos rfl]
      exact .outside (Finset.notMem_erase _ _) rest
    · rw [if_neg hkk, if_neg hkk]
      refine .inside (Finset.mem_erase.mpr ⟨hkk, hk⟩) hvw ?_
      rw [Finset.erase_right_comm]
      exact ih
  | @outside keys k₀ _ _ _ hk rest ih =>
    rw [put, put]
    by_cases hkk : k₀ = k
    · subst hkk
      rw [if_pos rfl, if_pos rfl, Finset.erase_eq_of_notMem hk]
      exact .outside hk rest
    · rw [if_neg hkk, if_neg hkk]
      exact .outside (fun hmem ↦ hk (Finset.mem_of_mem_erase hmem)) ih

/-- An assignment changes no more than its value. -/
theorem put_self (hR : ∀ v, R v v) (hk : k ∈ keys) {v w : Json} (hv : o.lookup k = some v)
    (h : R v w) : AgreesBut R keys o (Obj.put o k w) := by
  induction o generalizing keys with
  | nil => cases hv
  | cons p o ih =>
    obtain ⟨k₀, v₀⟩ := p
    rw [Obj.put]
    by_cases hkk : k₀ = k
    · subst hkk
      obtain rfl : v₀ = v := by simpa using hv
      rw [if_pos rfl]
      exact .inside hk h (refl hR _ _)
    · have hne : (k == k₀) = false := beq_eq_false_iff_ne.mpr (Ne.symm hkk)
      rw [List.lookup_cons, hne] at hv
      rw [if_neg hkk]
      by_cases hk₀ : k₀ ∈ keys
      · exact .inside hk₀ (hR _) (ih (Finset.mem_erase.mpr ⟨Ne.symm hkk, hk⟩) hv)
      · exact .outside hk₀ (ih hk hv)

end AgreesBut

end Py.Obj
