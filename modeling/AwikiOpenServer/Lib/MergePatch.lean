import AwikiOpenServer.Lib.Json

/-!
# Merge patches

The semantics of a JSON merge patch (RFC 7396), and the laws every function with that semantics has.

A merge patch is described by **what the result holds under each name** (`IsMergePatch`): what the
document holds where the patch does not name it, nothing where the patch says `null`, and the merged
member otherwise. That pins the result down as a document, so two functions of this kind agree
(`IsMergePatch.unique`), and the laws are proved from the description alone:

* a second application changes nothing (`idempotent`);
* a member the patch does not name stays, at every depth (`preserved`);
* the result has no `null` member of its own outside the patch's arrays (`null_member`).

**Laws of a description, not of a program.** A server that applies merge patches has a function of
its own for it, written with a loop and a dictionary. Proving the laws of that function directly
would tie them to the loop; proving that it is an `IsMergePatch` is one lemma, and the laws follow.
The same lemma for the pseudo-code of the standard, `rfc7396`, then gives that the two agree,
without comparing the loops.

**Where the laws stop.** The results agree as documents (`Json.Equiv`), not as lists: the order of
members is not part of the standard. And `null_member` has an exception that is in the standard too:
an array of the patch replaces the member as it is, with whatever `null` members lie inside it
(`EntersArray`).

Places in a document are paths of steps into objects and arrays (`at?`). The laws about depth are
inductions on the path, with the document and the patch generalized, since one step goes into both.

`rfc7396` is the pseudo-code of the standard, statement by statement.
-/

namespace Py

/-! ### Places inside a document -/

/-- A step into a document: a member of an object or an item of an array. -/
inductive Step where
  | key (k : String)
  | item (i : ℕ)

namespace Json

/-- The members of the value, none where it is not an object. -/
def fields (v : Json) : Obj := v.obj?.getD []

/-- One step into a document. -/
def step? (v : Json) : Step → Option Json
  | .key k => v.fields.lookup k
  | .item i => v.arr?.bind fun items ↦ items[i]?

/-- The value at a path, if the document goes that far. -/
def at? (v : Json) : List Step → Option Json
  | [] => some v
  | s :: path => (v.step? s).bind fun w ↦ w.at? path

@[simp] theorem fields_obj (o : Obj) : (obj o).fields = o := rfl

@[simp] theorem at?_nil (v : Json) : v.at? [] = some v := rfl

/-- A path is followed step by step. -/
@[simp] theorem at?_cons (v : Json) (s : Step) (path : List Step) :
    v.at? (s :: path) = (v.step? s).bind fun w ↦ w.at? path := rfl

@[simp] theorem step?_key (v : Json) (k : String) : v.step? (.key k) = v.fields.lookup k := rfl

@[simp] theorem step?_null (s : Step) : null.step? s = none := by
  cases s <;> rfl

/-- Nothing lies below an absent member, nor below the `null` it reads as. -/
theorem at?_get (o : Obj) (k : String) {path : List Step} (h : path ≠ []) :
    (o.get k).at? path = (o.lookup k).bind fun w ↦ w.at? path := by
  obtain ⟨s, rest, rfl⟩ := List.exists_cons_of_ne_nil h
  unfold Obj.get Obj.getD
  cases o.lookup k with
  | none => simp
  | some w => rfl

/-- The path leads into an array of the value, or to one. -/
def EntersArray (v : Json) (path : List Step) : Prop :=
  ∃ above items, above <+: path ∧ v.at? above = some (.arr items)

/-- A path that goes on from a member enters what the member enters. -/
theorem EntersArray.cons {v w : Json} {s : Step} {path : List Step} (hstep : v.step? s = some w)
    (h : w.EntersArray path) : v.EntersArray (s :: path) := by
  obtain ⟨above, items, hprefix, hat⟩ := h
  exact ⟨s :: above, items, List.cons_prefix_cons.mpr ⟨rfl, hprefix⟩, by simp [hstep, hat]⟩

/-- Nothing lies below a value that is neither an object nor an array. -/
theorem step?_eq_none {v : Json} (hobj : v.obj? = none) (harr : v.arr? = none) (s : Step) :
    v.step? s = none := by
  cases s with
  | key k => simp [fields, hobj]
  | item i => simp [step?, harr]

/-- Induction that goes from the members of an object to the object. -/
theorem members_induction {motive : Json → Prop}
    (value : ∀ v : Json, v.obj? = none → motive v)
    (object : ∀ o : Obj, (∀ k v, o.lookup k = some v → motive v) → motive (.obj o)) :
    ∀ v : Json, motive v
  | .obj o => object o fun _ v _ ↦ members_induction value object v
  | .null | .bool _ | .int _ | .float _ | .str _ | .arr _ => value _ rfl
termination_by v => sizeOf v
decreasing_by exact sizeOf_lt_of_lookup ‹_›

end Json

/-- Two dictionaries are the same document when they hold the same under every name. -/
theorem Obj.Equiv.of_members {a b : Obj}
    (h : ∀ k, Option.Rel Json.Equiv (a.lookup k) (b.lookup k)) : a.Equiv b := by
  refine .obj (fun k ↦ ?_) fun k v w hv hw ↦ ?_
  · have hk := h k
    unfold Obj.has
    generalize a.lookup k = x, b.lookup k = y at hk
    cases hk with
    | some _ => rfl
    | none => rfl
  · have hk := h k
    rw [hv, hw] at hk
    cases hk with
    | some hvw => exact hvw

/-- What is under a name is what it is. -/
theorem equiv_refl (v : Option Json) : v.Rel Json.Equiv v := by
  cases v with
  | none => exact .none
  | some w => exact .some (.refl w)

/-! ### What a merge patch is -/

/-- What merging leaves under a name: `kept` if the patch does not name it, nothing under `null`. -/
def mergedMember (merge : Json → Json) (kept : Option Json) : Option Json → Option Json
  | none => kept
  | some .null => none
  | some v => some (merge v)

/-- A name the patch gives a value holds the merge of that value. -/
theorem mergedMember_of_ne_null {merge : Json → Json} {kept : Option Json} {v : Json}
    (h : v ≠ .null) : mergedMember merge kept (some v) = some (merge v) := by
  cases v <;> first | rfl | exact absurd rfl h

/-- Members that are merged alike are alike. -/
theorem mergedMember_rel {merge merge' : Json → Json} {kept : Option Json} {named : Option Json}
    (h : ∀ v, named = some v → (merge v).Equiv (merge' v)) :
    (mergedMember merge kept named).Rel Json.Equiv (mergedMember merge' kept named) := by
  cases named with
  | none => exact equiv_refl kept
  | some v =>
    by_cases hv : v = .null
    · subst hv
      exact .none
    · rw [mergedMember_of_ne_null hv, mergedMember_of_ne_null hv]
      exact .some (h v rfl)

/-- **A merge patch**: the patch itself where it is no object, else the object that holds what the
merge leaves under every name. -/
structure IsMergePatch (f : Json → Json → Json) : Prop where
  value : ∀ document patch, patch.obj? = none → f document patch = patch
  object : ∀ (document : Json) (patch : Obj), ∃ result, f document (.obj patch) = .obj result ∧
    ∀ k, result.lookup k =
      mergedMember (f (document.fields.get k)) (document.fields.lookup k) (patch.lookup k)

namespace IsMergePatch

variable {f g : Json → Json → Json}

/-- The description determines the result, as a document. -/
theorem unique (hf : IsMergePatch f) (hg : IsMergePatch g) (document patch : Json) :
    (f document patch).Equiv (g document patch) := by
  induction patch using Json.members_induction generalizing document with
  | value v hv =>
    rw [hf.value _ _ hv, hg.value _ _ hv]
    exact .refl v
  | object o ih =>
    obtain ⟨r, hr, hrk⟩ := hf.object document o
    obtain ⟨s, hs, hsk⟩ := hg.object document o
    rw [hr, hs]
    refine Obj.Equiv.of_members fun k ↦ ?_
    rw [hrk, hsk]
    exact mergedMember_rel (fun v hv ↦ ih k v hv _)

/-- A second application of the patch changes nothing. -/
theorem idempotent (hf : IsMergePatch f) (document patch : Json) :
    (f (f document patch) patch).Equiv (f document patch) := by
  induction patch using Json.members_induction generalizing document with
  | value v hv =>
    rw [hf.value document v hv, hf.value v v hv]
    exact .refl v
  | object o ih =>
    obtain ⟨once, honce, hk₁⟩ := hf.object document o
    obtain ⟨twice, htwice, hk₂⟩ := hf.object (f document (.obj o)) o
    rw [htwice, honce]
    refine Obj.Equiv.of_members fun k ↦ ?_
    rw [honce, Json.fields_obj] at hk₂
    rw [hk₂, hk₁]
    cases hk : o.lookup k with
    | none => exact equiv_refl _
    | some v =>
      by_cases hv : v = .null
      · subst hv
        exact .none
      · have hget : Obj.get once k = f (document.fields.get k) v := by
          refine Obj.get_eq_of_lookup ?_
          rw [hk₁, hk, mergedMember_of_ne_null hv]
        rw [mergedMember_of_ne_null hv, mergedMember_of_ne_null hv, hget]
        exact .some (ih k v hk _)

/-- A path the patch reaches is merged there. -/
theorem at?_eq (hf : IsMergePatch f) {document : Json} {o : Obj} {k : String} {v : Json}
    (hv : v ≠ .null) (hk : o.lookup k = some v) (path : List Step) :
    (f document (.obj o)).at? (.key k :: path) = (f (document.fields.get k) v).at? path := by
  obtain ⟨result, hresult, hlookup⟩ := hf.object document o
  rw [hresult, Json.at?_cons, Json.step?_key, Json.fields_obj, hlookup, hk,
    mergedMember_of_ne_null hv]
  rfl

/-- A name the patch does not have is left as it was, with all that lies below. -/
theorem at?_unnamed (hf : IsMergePatch f) {document : Json} {o : Obj} {k : String}
    (hk : o.lookup k = none) (path : List Step) :
    (f document (.obj o)).at? (.key k :: path) = document.at? (.key k :: path) := by
  obtain ⟨result, hresult, hlookup⟩ := hf.object document o
  rw [hresult, Json.at?_cons, Json.step?_key, Json.fields_obj, hlookup, hk]
  rfl

/-- **Members the patch does not name are preserved**, at every depth the patch reaches. -/
theorem preserved (hf : IsMergePatch f) (document patch : Json) {names : List String} {k : String}
    {o : Obj} (hpatch : patch.at? (names.map .key) = some (.obj o)) (hk : o.lookup k = none) :
    (f document patch).at? ((names ++ [k]).map .key) = document.at? ((names ++ [k]).map .key) := by
  induction names generalizing document patch with
  | nil =>
    obtain rfl := Option.some.inj hpatch
    exact hf.at?_unnamed hk []
  | cons name names ih =>
    rw [List.map_cons, Json.at?_cons, Option.bind_eq_some_iff] at hpatch
    obtain ⟨v, hstep, hpatch⟩ := hpatch
    have hv : v ≠ .null := by
      rintro rfl
      cases names with
      | nil => cases hpatch
      | cons _ _ => cases hpatch
    cases hobj : patch.obj? with
    | none => simp [Json.fields, hobj] at hstep
    | some p =>
      obtain rfl := Json.obj?_eq_some.mp hobj
      have hlookup : p.lookup name = some v := hstep
      rw [List.cons_append, List.map_cons, hf.at?_eq hv hlookup, ih _ v hpatch,
        Json.at?_get _ _ (by simp), Json.at?_cons, Json.step?_key]

/-- Only the patch `null` makes the document `null`. -/
theorem ne_null (hf : IsMergePatch f) {document patch : Json} (h : patch ≠ .null) :
    f document patch ≠ .null := by
  cases hobj : patch.obj? with
  | none => rwa [hf.value _ _ hobj]
  | some o =>
    obtain rfl := Json.obj?_eq_some.mp hobj
    obtain ⟨result, hresult, -⟩ := hf.object document o
    rw [hresult]
    simp

/-- **A merge patch makes no `null` member**: one in the result is one of the document, or lies in
an array of the patch. -/
theorem null_member (hf : IsMergePatch f) (document patch : Json) {path : List Step} {k : String}
    (h : (f document patch).at? (path ++ [.key k]) = some .null) :
    document.at? (path ++ [.key k]) = some .null ∨ patch.EntersArray path := by
  -- Along the path: the patch names each key on the way, or the document is left alone there.
  induction path generalizing document patch with
  | nil =>
    cases hobj : patch.obj? with
    | none =>
      rw [hf.value _ _ hobj] at h
      simp [Json.fields, hobj] at h
    | some o =>
      obtain rfl := Json.obj?_eq_some.mp hobj
      cases hk : o.lookup k with
      | none => exact .inl (hf.at?_unnamed hk [] ▸ h)
      | some v =>
        -- A null in the patch removes the member, so there is no value under it.
        by_cases hv : v = .null
        · obtain ⟨result, hresult, hlookup⟩ := hf.object document o
          rw [hresult, List.nil_append, Json.at?_cons, Json.step?_key, Json.fields_obj, hlookup,
            hk, hv] at h
          cases h
        · rw [List.nil_append, hf.at?_eq hv hk, Json.at?_nil] at h
          exact absurd (Option.some.inj h) (hf.ne_null hv)
  | cons s path ih =>
    cases hobj : patch.obj? with
    | none =>
      cases harr : patch.arr? with
      | none =>
        rw [hf.value _ _ hobj, List.cons_append, Json.at?_cons, Json.step?_eq_none hobj harr] at h
        cases h
      | some items =>
        exact .inr ⟨[], items, List.nil_prefix, by rw [Json.at?_nil, Json.arr?_eq_some.mp harr]⟩
    | some o =>
      obtain rfl := Json.obj?_eq_some.mp hobj
      obtain ⟨result, hresult, hlookup⟩ := hf.object document o
      cases s with
      | item i =>
        rw [hresult] at h
        cases h
      | key name =>
        cases hk : o.lookup name with
        | none => exact .inl (hf.at?_unnamed hk _ ▸ h)
        | some v =>
          by_cases hv : v = .null
          · rw [hresult, List.cons_append, Json.at?_cons, Json.step?_key, Json.fields_obj, hlookup,
              hk, hv] at h
            cases h
          · rw [List.cons_append, hf.at?_eq hv hk] at h
            rcases ih _ v h with hdocument | harray
            · rw [Json.at?_get _ _ (by simp)] at hdocument
              exact .inl hdocument
            · exact .inr (harray.cons hk)

end IsMergePatch

/-! ### The standard's pseudo-code -/

/-- One Name/Value pair: the member is removed under `null`, else it becomes the merged value. -/
def assignMember (target : Obj) (name : String) (value merged : Json) : Obj :=
  match value with
  | .null => if Obj.has target name then target.erase name else target
  | _ => target.set name merged

mutual

/-- `MergePatch(Target, Patch)`; an undefined target is `none`. -/
def rfc7396 (target : Option Json) : Json → Json
  | .obj patch => .obj (rfc7396Members [] ((target.bind Json.obj?).getD []) patch)
  | patch => patch

/-- The loop over the Name/Value pairs of the patch. A name that has been `seen` is shadowed: it is
no pair of the dictionary. -/
def rfc7396Members (seen : List String) (target : Obj) : List (String × Json) → Obj
  | [] => target
  | (name, value) :: rest =>
    if seen.contains name then rfc7396Members seen target rest
    else
      rfc7396Members (name :: seen)
        (assignMember target name value (rfc7396 (target.lookup name) value)) rest

end

/-- One pair of the patch changes what is under its name, as the description says. -/
theorem lookup_assignMember (target : Obj) (name : String) (value merged : Json) (k : String) :
    (assignMember target name value merged).lookup k =
      if k = name then mergedMember (fun _ ↦ merged) (target.lookup k) (some value)
      else target.lookup k := by
  by_cases hvalue : value = .null
  · subst hvalue
    show List.lookup k (if Obj.has target name then target.erase name else target) =
      if k = name then none else target.lookup k
    by_cases hhas : target.has name
    · rw [if_pos hhas, Obj.lookup_erase]
    · have habsent : target.lookup name = none := by
        rwa [Obj.has, Bool.not_eq_true, Option.isSome_eq_false_iff, Option.isNone_iff_eq_none]
          at hhas
      rw [if_neg hhas]
      split
      · rename_i hk
        rw [hk, habsent]
      · rfl
  · have hset : assignMember target name value merged = target.set name merged := by
      cases value <;> first | rfl | exact absurd rfl hvalue
    rw [hset, Obj.lookup_set, mergedMember_of_ne_null hvalue]

/-- The loop has changed the names it has seen, and no other. -/
theorem lookup_rfc7396Members (seen : List String) (target : Obj) (patch : List (String × Json))
    (k : String) : (rfc7396Members seen target patch).lookup k =
      if k ∈ seen then target.lookup k
      else mergedMember (rfc7396 (target.lookup k)) (target.lookup k) (patch.lookup k) := by
  induction patch generalizing seen target with
  | nil => simp [rfc7396Members, mergedMember]
  | cons pair rest ih =>
    obtain ⟨name, value⟩ := pair
    rw [rfc7396Members]
    by_cases hseen : name ∈ seen
    · rw [if_pos (by simpa using hseen), ih]
      by_cases hk : k ∈ seen
      · rw [if_pos hk, if_pos hk]
      · have hne : (k == name) = false := by simpa using ne_of_mem_of_not_mem hseen hk |>.symm
        rw [if_neg hk, if_neg hk, List.lookup_cons, hne]
    · rw [if_neg (by simpa using hseen), ih, lookup_assignMember]
      by_cases hk : k = name
      · subst hk
        rw [if_pos List.mem_cons_self, if_pos rfl, if_neg hseen, List.lookup_cons_self]
        cases value <;> rfl
      · have hne : (k == name) = false := by simpa using hk
        simp [hk, List.lookup_cons, hne]

/-- An undefined target and `null` are patched alike: neither is an object. -/
theorem rfc7396_null (patch : Json) : rfc7396 (some .null) patch = rfc7396 none patch := by
  cases patch <;> simp [rfc7396, Json.obj?]

/-- **The pseudo-code is a merge patch.** -/
theorem rfc7396_isMergePatch : IsMergePatch fun document ↦ rfc7396 (some document) where
  value document patch h := by
    cases patch with
    | obj o => cases h
    | _ => simp [rfc7396]
  object document patch := by
    refine ⟨_, by rw [rfc7396], fun k ↦ ?_⟩
    have hmember : rfc7396 (document.fields.lookup k) =
        rfc7396 (some (document.fields.get k)) := by
      unfold Obj.get Obj.getD
      cases document.fields.lookup k with
      | some v => rfl
      | none => exact (funext rfc7396_null).symm
    rw [lookup_rfc7396Members, if_neg List.not_mem_nil, ← hmember]
    rfl

end Py
