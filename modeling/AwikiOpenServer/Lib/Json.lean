import Mathlib.Algebra.Ring.Int.Defs
import Mathlib.Data.List.Basic
import Mathlib.Data.Rat.Defs
import Mathlib.Tactic.Common

/-!
# JSON documents as a dynamic language holds them

The values `json.loads` can produce, with the dictionary operations a handler applies to them. An
object is an association list read by **first match**, so a list with a repeated key still denotes
one dictionary and no well-formedness hypothesis is ever needed.

**Objects are lists, and only look-ups count.** The operations are defined on the list, so that they
compute, but what is proved of them is what `List.lookup` finds afterwards: one lemma for each
operation (`lookup_set`, `lookup_erase`, `lookup_merge`, `lookup_without`), stated for every key. A
proof about a handler rewrites with these and never looks at the list. `get` is what the handlers
write most, and it does not tell an absent member from a `null` one; where the difference matters,
they ask `has`, and so do the lemmas.

**Values are not typed, and neither are the readers.** A handler that wants a text tests for one,
coerces, or fails. The three are kept apart here: `str?`, `obj?` and `arr?` are the tests, `truthy`
and `orElse` the coercions, and `hashable` and `bindable` say which documents a dictionary key or an
SQL parameter can be made of at all. The last two are where a handler fails with an exception of the
interpreter rather than one of its own.

## Two notions of sameness

* `Json.Equiv` is **extensional identity**: equal scalars, equal lists, and objects with the same
  keys and equivalent members, whatever the order of the association list. It is what "exactly the
  same document" means.
* `Json.same` is the language's own `==`, which is coarser (`1 == 1.0 == True`) and not reflexive at
  a NaN. It is what a program that compares two documents computes.

A third, `Json.identical`, compares what is written of the two documents under sorted keys. It tells
`1` from `1.0`, which `==` does not, and finds a NaN like itself, which `==` does not either.

Floats are kept only as far as the comparisons need them: a finite float is its exact rational
value, and the three special ones are constructors. No arithmetic is done on them anywhere.

Nothing here knows what the documents are about.
-/

namespace Py

/-- A float as `json.loads` produces it: overflowing literals give the infinities, and the literal
`NaN` is accepted. -/
inductive PyFloat where
  | finite (q : ℚ)
  | posInf
  | negInf
  | nan
  deriving DecidableEq, Inhabited

/-- A decoded JSON document. -/
inductive Json where
  | null
  | bool (b : Bool)
  | int (n : ℤ)
  | float (x : PyFloat)
  | str (s : String)
  | arr (items : List Json)
  | obj (fields : List (String × Json))
  deriving Inhabited

/-- A decoded JSON object: a dictionary with string keys, read by first match. -/
abbrev Obj := List (String × Json)

/-! ### Dictionaries -/

namespace Obj

/-- `k in o`. -/
def has (o : Obj) (k : String) : Bool := (o.lookup k).isSome

/-- `o.get(k, d)`. -/
def getD (o : Obj) (k : String) (d : Json) : Json := (o.lookup k).getD d

/-- `o.get(k)`: an absent key reads as `None`. -/
def get (o : Obj) (k : String) : Json := o.getD k .null

/-- `{key: value for key, value in o.items() if key not in ks}`. -/
def without (o : Obj) (ks : List String) : Obj := o.filter fun p ↦ !ks.contains p.1

/-- `o.pop(k, None)`, keeping the remaining dictionary. -/
def erase (o : Obj) (k : String) : Obj := without o [k]

/-- `o[k] = v`. -/
def set (o : Obj) (k : String) (v : Json) : Obj := (k, v) :: erase o k

/-- `{**a, **b}`: the right operand wins. -/
def merge (a b : Obj) : Obj := b ++ without a (b.map Prod.fst)

end Obj

namespace Json

/-- Truth value of a document, as in `if value:` and `value or default`. -/
def truthy : Json → Bool
  | null => false
  | bool b => b
  | int n => n ≠ 0
  | float x => x ≠ .finite 0
  | str s => s ≠ ""
  | arr l => !l.isEmpty
  | obj o => !o.isEmpty

/-- `a or b`. -/
def orElse (a b : Json) : Json := if a.truthy then a else b

/-- The value as a dictionary, when it is one. -/
def obj? : Json → Option Obj
  | obj o => some o
  | _ => none

/-- The value as a string, when it is one. -/
def str? : Json → Option String
  | str s => some s
  | _ => none

/-- The value as a list, when it is one. -/
def arr? : Json → Option (List Json)
  | arr l => some l
  | _ => none

/-- `value is None`. -/
def isNull : Json → Bool
  | null => true
  | _ => false

/-- `value is True`. -/
def isTrue : Json → Bool
  | bool true => true
  | _ => false

/-- `value == s` for a string `s`. -/
def isStr (v : Json) (s : String) : Bool := v.str? = some s

/-- Lists and dictionaries are the unhashable documents. -/
def hashable : Json → Bool
  | arr _ => false
  | obj _ => false
  | _ => true

/-- The documents that can be bound to a parameter of an SQL statement: no list, no dictionary, and
no integer beyond 64 bits. -/
def bindable : Json → Bool
  | arr _ => false
  | obj _ => false
  | int n => decide (-2 ^ 63 ≤ n ∧ n < 2 ^ 63)
  | _ => true

/-- A default is bound in place of a value: if both can be, the choice between them can. -/
theorem bindable_orElse {a b : Json} (ha : a.bindable = true) (hb : b.bindable = true) :
    (a.orElse b).bindable = true := by
  unfold orElse
  split
  · exact ha
  · exact hb

@[simp] theorem obj?_obj (o : Obj) : (obj o).obj? = some o := rfl

@[simp] theorem str?_str (s : String) : (str s).str? = some s := rfl

@[simp] theorem arr?_arr (l : List Json) : (arr l).arr? = some l := rfl

theorem obj?_eq_some {v : Json} {o : Obj} : v.obj? = some o ↔ v = obj o := by
  cases v <;> simp [obj?]

theorem arr?_eq_some {v : Json} {l : List Json} : v.arr? = some l ↔ v = arr l := by
  cases v <;> simp [arr?]

theorem str?_eq_some {v : Json} {s : String} : v.str? = some s ↔ v = str s := by
  cases v <;> simp [str?]

theorem isStr_iff {v : Json} {s : String} : v.isStr s = true ↔ v = str s := by
  simp [isStr, str?_eq_some]

@[simp] theorem isStr_str (a b : String) : (str a).isStr b = decide (a = b) := by
  simp [isStr]

@[simp] theorem truthy_str (s : String) : (str s).truthy = decide (s ≠ "") := rfl

@[simp] theorem truthy_null : null.truthy = false := rfl

end Json

namespace Obj

/-! ### Reading a dictionary written out key by key -/

@[simp] theorem get_nil (k : String) : get [] k = .null := rfl

@[simp] theorem has_nil (k : String) : has [] k = false := rfl

theorem get_cons (o : Obj) (k k' : String) (v : Json) :
    get ((k', v) :: o) k = if k = k' then v else get o k := by
  by_cases hk : k = k'
  · simp [get, getD, hk]
  · have hne : (k == k') = false := by simpa using hk
    simp [get, getD, List.lookup_cons, hne, hk]

theorem has_cons (o : Obj) (k k' : String) (v : Json) :
    has ((k', v) :: o) k = (decide (k = k') || has o k) := by
  by_cases hk : k = k'
  · simp [has, hk]
  · have hne : (k == k') = false := by simpa using hk
    simp [has, List.lookup_cons, hne, hk]

/-! ### What a dictionary holds after an update -/

/-- Filtering by name keeps the members of the names that pass, each with the value it had. -/
theorem lookup_filter_keys (o : Obj) (keep : String → Bool) (k : String) :
    (o.filter fun p ↦ keep p.1).lookup k = if keep k then o.lookup k else none := by
  induction o with
  | nil => simp
  | cons p rest ih =>
    obtain ⟨k', v⟩ := p
    by_cases hk : k = k'
    · subst hk
      by_cases hkeep : keep k
      · simp [hkeep]
      · simp [hkeep, ih]
    · have hne : (k == k') = false := by simpa using hk
      by_cases hkeep : keep k'
      · simp [hkeep, List.lookup_cons, hne, ih]
      · simp [hkeep, List.lookup_cons, hne, ih]

theorem lookup_without (o : Obj) (ks : List String) (k : String) :
    (without o ks).lookup k = if k ∈ ks then none else o.lookup k := by
  rw [without, lookup_filter_keys o (fun k ↦ !ks.contains k)]
  by_cases hk : k ∈ ks <;> simp [hk]

/-- Of two lists one behind the other, the first decides. -/
theorem lookup_append (a b : Obj) (k : String) :
    (a ++ b).lookup k = (a.lookup k).or (b.lookup k) := by
  induction a with
  | nil => simp
  | cons p rest ih =>
    obtain ⟨k', v⟩ := p
    by_cases hk : k = k'
    · simp [hk]
    · have hne : (k == k') = false := by simpa using hk
      simp [List.lookup_cons, hne, ih]

/-- A name is absent exactly when no member has it, shadowed ones included. -/
theorem lookup_eq_none_iff_not_mem (o : Obj) (k : String) :
    o.lookup k = none ↔ k ∉ o.map Prod.fst := by
  rw [List.lookup_eq_none_iff]
  constructor
  · intro h hk
    obtain ⟨p, hp, rfl⟩ := List.mem_map.mp hk
    simpa using h p hp
  · intro h p hp
    have : k ≠ p.1 := fun heq ↦ h (heq ▸ List.mem_map_of_mem hp)
    simpa using this

theorem lookup_merge (a b : Obj) (k : String) :
    (merge a b).lookup k = (b.lookup k).or (a.lookup k) := by
  rw [merge, lookup_append, lookup_without]
  by_cases hk : k ∈ b.map Prod.fst
  · have hsome : b.lookup k ≠ none := fun h ↦ (lookup_eq_none_iff_not_mem b k).mp h hk
    obtain ⟨v, hv⟩ := Option.ne_none_iff_exists'.mp hsome
    simp [hv]
  · rw [if_neg hk]

theorem lookup_erase (o : Obj) (k k' : String) :
    (erase o k).lookup k' = if k' = k then none else o.lookup k' := by
  rw [erase, lookup_without]
  simp

theorem lookup_set (o : Obj) (k k' : String) (v : Json) :
    (set o k v).lookup k' = if k' = k then some v else o.lookup k' := by
  rw [set, List.lookup_cons]
  by_cases hk : k' = k
  · simp [hk]
  · have hne : (k' == k) = false := by simpa using hk
    simp [hne, hk, lookup_erase]

@[simp] theorem get_set_self (o : Obj) (k : String) (v : Json) : (set o k v).get k = v := by
  simp [get, getD, lookup_set]

theorem get_set_of_ne (o : Obj) {k k' : String} (v : Json) (hk : k' ≠ k) :
    (set o k v).get k' = o.get k' := by
  simp [get, getD, lookup_set, hk]

/-- Reading with `get` agrees with the look-up wherever there is a member. -/
theorem get_eq_of_lookup {o : Obj} {k : String} {v : Json} (h : o.lookup k = some v) :
    o.get k = v := by
  simp [get, getD, h]

/-- An absent member reads as `None`. -/
theorem get_of_has_eq_false {o : Obj} {k : String} (h : o.has k = false) : o.get k = .null := by
  cases hk : o.lookup k with
  | none => simp [get, getD, hk]
  | some v => simp [has, hk] at h

/-- Conversely, what does not read as `None` is there. -/
theorem lookup_of_get_ne_null {o : Obj} {k : String} (h : o.get k ≠ .null) :
    o.lookup k = some (o.get k) := by
  unfold get getD at *
  cases hk : o.lookup k with
  | none => simp [hk] at h
  | some v => simp

theorem lookup_of_get_eq_str {o : Obj} {k s : String} (h : o.get k = .str s) :
    o.lookup k = some (.str s) := by
  rw [← h]
  exact lookup_of_get_ne_null (by simp [h])

theorem lookup_of_get_eq_obj {o : Obj} {k : String} {v : Obj} (h : o.get k = .obj v) :
    o.lookup k = some (.obj v) := by
  rw [← h]
  exact lookup_of_get_ne_null (by simp [h])

end Obj

/-! ### Extensional identity -/

/-- **Exactly the same document.** The association list behind an object is forgotten: only which
keys it has and what they hold counts. -/
inductive Json.Equiv : Json → Json → Prop where
  | null : Json.Equiv .null .null
  | bool (b : Bool) : Json.Equiv (.bool b) (.bool b)
  | int (n : ℤ) : Json.Equiv (.int n) (.int n)
  | float (x : PyFloat) : Json.Equiv (.float x) (.float x)
  | str (s : String) : Json.Equiv (.str s) (.str s)
  | arr {as bs : List Json} (hlen : as.length = bs.length)
      (h : ∀ i (ha : i < as.length) (hb : i < bs.length), Json.Equiv as[i] bs[i]) :
      Json.Equiv (.arr as) (.arr bs)
  | obj {a b : Obj} (hkeys : ∀ k, a.has k = b.has k)
      (h : ∀ k v w, a.lookup k = some v → b.lookup k = some w → Json.Equiv v w) :
      Json.Equiv (.obj a) (.obj b)

/-- What is found is one of the members. -/
theorem Obj.mem_of_lookup {o : Obj} {k : String} {v : Json} (h : o.lookup k = some v) :
    (k, v) ∈ o := by
  induction o with
  | nil => simp at h
  | cons p rest ih =>
    obtain ⟨k', v'⟩ := p
    by_cases hk : k = k'
    · subst hk
      simp at h
      simp [h]
    · have hne : (k == k') = false := by simpa using hk
      simp only [List.lookup_cons, hne] at h
      exact List.mem_cons_of_mem _ (ih h)

/-- Members are smaller than their object: this is the measure of every recursion on documents that
goes through look-ups. -/
theorem Json.sizeOf_lt_of_lookup {o : Obj} {k : String} {v : Json} (h : o.lookup k = some v) :
    sizeOf v < sizeOf (Json.obj o) := by
  have hmem := List.sizeOf_lt_of_mem (Obj.mem_of_lookup h)
  simp only [Prod.mk.sizeOf_spec, Json.obj.sizeOf_spec] at hmem ⊢
  omega

/-- Every document is itself, also one that holds a NaN. -/
theorem Json.Equiv.refl : ∀ v : Json, Json.Equiv v v
  | .null => .null
  | .bool b => .bool b
  | .int n => .int n
  | .float x => .float x
  | .str s => .str s
  | .arr as => .arr rfl fun i ha _ ↦ Json.Equiv.refl as[i]
  | .obj a => .obj (fun _ ↦ rfl) fun k v w hv hw ↦ by
      obtain rfl : v = w := Option.some.inj (hv.symm.trans hw)
      exact Json.Equiv.refl v
termination_by v => sizeOf v
decreasing_by
  · have := List.sizeOf_lt_of_mem (List.getElem_mem ha)
    simp only [Json.arr.sizeOf_spec]
    omega
  · exact Json.sizeOf_lt_of_lookup hv

/-- Two dictionaries are the same document. -/
def Obj.Equiv (a b : Obj) : Prop := Json.Equiv (.obj a) (.obj b)

/-- Dictionaries that read alike are the same document, however their lists are ordered. -/
theorem Obj.Equiv.of_lookup_eq {a b : Obj} (h : ∀ k, a.lookup k = b.lookup k) : a.Equiv b := by
  refine .obj (fun k ↦ by simp [Obj.has, h k]) fun k v w hv hw ↦ ?_
  rw [h k, hw] at hv
  obtain rfl : w = v := Option.some.inj hv
  exact .refl _

theorem Obj.Equiv.has_eq {a b : Obj} (h : a.Equiv b) (k : String) : a.has k = b.has k := by
  cases h with
  | obj hkeys _ => exact hkeys k

theorem Obj.Equiv.of_lookup {a b : Obj} (h : a.Equiv b) {k : String} {v w : Json}
    (hv : a.lookup k = some v) (hw : b.lookup k = some w) : Json.Equiv v w := by
  cases h with
  | obj _ hmem => exact hmem k v w hv hw

/-! ### The language's own equality -/

/-- `==` on floats: a NaN equals nothing. -/
def PyFloat.eq (x y : PyFloat) : Bool := x ≠ .nan && x = y

/-- Booleans, integers and floats compare by their numeric value. -/
def Json.numeric? : Json → Option PyFloat
  | .bool b => some (.finite (if b then 1 else 0))
  | .int n => some (.finite n)
  | .float x => some x
  | _ => none

mutual

/-- `v == w` on decoded documents. -/
def Json.same : Json → Json → Bool
  | .null, .null => true
  | .str a, .str b => a = b
  | .arr as, .arr bs => Json.sameItems as bs
  | .obj a, .obj b => Json.sameFields [] a b && b.all fun p ↦ Obj.has a p.1
  | v, w =>
    match v.numeric?, w.numeric? with
    | some x, some y => x.eq y
    | _, _ => false

/-- `==` on lists. -/
def Json.sameItems : List Json → List Json → Bool
  | [], [] => true
  | v :: as, w :: bs => Json.same v w && Json.sameItems as bs
  | _, _ => false

/-- Every member of the first dictionary has an equal one in the second; a key already `seen` is
shadowed and not looked at again. -/
def Json.sameFields : List String → List (String × Json) → Obj → Bool
  | _, [], _ => true
  | seen, (k, v) :: rest, b =>
    (seen.contains k ||
      match b.lookup k with
      | some w => Json.same v w
      | none => false) && Json.sameFields (k :: seen) rest b

end

mutual

/-- `json.dumps(v, sort_keys=True) == json.dumps(w, sort_keys=True)`: the two documents are written
alike. -/
def Json.identical : Json → Json → Bool
  | .null, .null => true
  | .bool a, .bool b => a = b
  | .int m, .int n => m = n
  | .float x, .float y => x = y
  | .str a, .str b => a = b
  | .arr as, .arr bs => Json.identicalItems as bs
  | .obj a, .obj b => Json.identicalFields [] a b && b.all fun p ↦ Obj.has a p.1
  | _, _ => false

def Json.identicalItems : List Json → List Json → Bool
  | [], [] => true
  | v :: as, w :: bs => Json.identical v w && Json.identicalItems as bs
  | _, _ => false

def Json.identicalFields : List String → List (String × Json) → Obj → Bool
  | _, [], _ => true
  | seen, (k, v) :: rest, b =>
    (seen.contains k ||
      match b.lookup k with
      | some w => Json.identical v w
      | none => false) && Json.identicalFields (k :: seen) rest b

end

mutual

/-- No NaN anywhere inside. -/
def Json.nanFree : Json → Bool
  | .float x => x ≠ .nan
  | .arr as => Json.nanFreeItems as
  | .obj o => Json.nanFreeFields o
  | _ => true

def Json.nanFreeItems : List Json → Bool
  | [] => true
  | v :: rest => Json.nanFree v && Json.nanFreeItems rest

def Json.nanFreeFields : List (String × Json) → Bool
  | [] => true
  | (_, v) :: rest => Json.nanFree v && Json.nanFreeFields rest

end

mutual

/-- A document without NaN equals itself. -/
theorem Json.same_refl : ∀ {v : Json}, v.nanFree = true → Json.same v v = true
  | .null, _ => rfl
  | .bool b, _ => by cases b <;> simp [Json.same, Json.numeric?, PyFloat.eq]
  | .int n, _ => by simp [Json.same, Json.numeric?, PyFloat.eq]
  | .float x, h => by simpa [Json.same, Json.numeric?, PyFloat.eq, Json.nanFree] using h
  | .str s, _ => by simp [Json.same]
  | .arr as, h => by
      rw [Json.nanFree] at h
      rw [Json.same]
      exact Json.sameItems_refl h
  | .obj o, h => by
      rw [Json.nanFree] at h
      rw [Json.same, Bool.and_eq_true]
      refine ⟨Json.sameFields_self [] o h, List.all_eq_true.mpr fun p hp ↦ ?_⟩
      have hk : o.lookup p.1 ≠ none := fun hn ↦
        (Obj.lookup_eq_none_iff_not_mem o p.1).mp hn (List.mem_map_of_mem hp)
      exact Option.isSome_iff_ne_none.mpr hk

theorem Json.sameItems_refl : ∀ {l : List Json}, Json.nanFreeItems l = true →
    Json.sameItems l l = true
  | [], _ => rfl
  | v :: rest, h => by
      rw [Json.nanFreeItems, Bool.and_eq_true] at h
      rw [Json.sameItems, Json.same_refl h.1, Json.sameItems_refl h.2, Bool.and_self]

/-- The comparison of a dictionary with itself, part way through: `seen` are the keys of the members
already compared, which shadow later members of the same name. -/
theorem Json.sameFields_self : ∀ (done rest : Obj), Json.nanFreeFields rest = true →
    Json.sameFields (done.map Prod.fst).reverse rest (done ++ rest) = true
  | _, [], _ => by rw [Json.sameFields]
  | done, (k, v) :: rest, h => by
      rw [Json.nanFreeFields, Bool.and_eq_true] at h
      rw [Json.sameFields, Bool.and_eq_true]
      constructor
      · by_cases hseen : k ∈ done.map Prod.fst
        · simp [hseen]
        · have hlook : (done ++ (k, v) :: rest).lookup k = some v := by
            rw [Obj.lookup_append, (Obj.lookup_eq_none_iff_not_mem done k).mpr hseen]
            simp
          simp [hlook, Json.same_refl h.1]
      · have ih := Json.sameFields_self (done ++ [(k, v)]) rest h.2
        simpa using ih

end

/-- Nothing but the text equals a text: `==` is coarse on numbers only. -/
theorem Json.eq_str_of_same {v : Json} {s : String} (h : Json.same v (.str s) = true) :
    v = .str s := by
  cases v <;> simp_all [Json.same, Json.numeric?]

/-- What an equal dictionary holds under a key not seen yet. -/
theorem Json.lookup_of_sameFields {b : Obj} {k : String} {v : Json} :
    ∀ {seen : List String} {a : Obj}, Json.sameFields seen a b = true → k ∉ seen →
      a.lookup k = some v → ∃ w, b.lookup k = some w ∧ Json.same v w = true
  | _, [], _, _, hv => by simp at hv
  | seen, (k', v') :: rest, h, hseen, hv => by
    rw [Json.sameFields, Bool.and_eq_true] at h
    by_cases hk : k = k'
    · subst hk
      obtain rfl : v' = v := by simpa using hv
      have hfirst := h.1
      rw [Bool.or_eq_true, List.contains_iff_mem] at hfirst
      have hsame := hfirst.resolve_left hseen
      split at hsame
      · rename_i w hw
        exact ⟨w, hw, hsame⟩
      · cases hsame
    · have hne : (k == k') = false := by simpa using hk
      rw [List.lookup_cons, hne] at hv
      exact Json.lookup_of_sameFields h.2 (by simp [hk, hseen]) hv

/-- Equal dictionaries hold the same texts. -/
theorem Json.get_str_of_same {a b : Obj} {k s : String}
    (h : Json.same (.obj a) (.obj b) = true) (hb : b.get k = .str s) : a.get k = .str s := by
  rw [Json.same, Bool.and_eq_true] at h
  have hlookup := Obj.lookup_of_get_eq_str hb
  have hhas : a.has k = true := List.all_eq_true.mp h.2 (k, .str s) (Obj.mem_of_lookup hlookup)
  obtain ⟨v, hv⟩ := Option.isSome_iff_exists.mp hhas
  obtain ⟨w, hw, hsame⟩ := Json.lookup_of_sameFields h.1 (by simp) hv
  obtain rfl : w = .str s := Option.some.inj (hw.symm.trans hlookup)
  rw [Obj.get_eq_of_lookup hv, Json.eq_str_of_same hsame]

end Py
