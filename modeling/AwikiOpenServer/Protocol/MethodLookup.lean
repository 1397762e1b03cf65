import AwikiOpenServer.Lib.JsonEquality
import AwikiOpenServer.Protocol.AnpAdapter

/-!
# Looking a key up in a DID document

A document names its keys by ids, in the list of methods, as references and as methods embedded in
the relationships; `#fragment` stands for the document's own DID with the fragment behind it.
`_method_lookup_document` writes every id out and refuses a document in which two different methods
share one; the look-ups read what it returns.

The loops read an entry only through what it is written out to (`resolveMethods_congr`,
`resolveEntries_congr`), and so does the whole (`methodLookupDocument_congr`). **How an id is
spelled makes no difference** then, and since a document written out is a respelling of the
document, to write it out again changes nothing. What the loops have seen is one method per id
(`Known`), so a look-up has **no second method** to confuse with the one it finds.

## Why this needs a proof

Which key may sign for a DID is read off its document by id. A document that a client wrote may use
short ids in one place and full ones in another, embed a method where it is used, or list it and
embed it again; and if the same id could lead to two keys, which one verifies a signature would
depend on where the code looks first. The source's answer is to write the document out once and to
look only there. The three statements of `method_lookup_spelling` are that this answer is one: the
written form does not depend on the spelling, is its own written form, and holds one method for an
id.

## Shape of the proof

A respelling is a relation between two documents: the same members, with some values in another
spelling (`Respelled`, by `Obj.AgreesBut`). The code rewrites the members one after the other. Each
assignment leaves the two documents agreeing on one key more, and after the last they are equal.
Along the loops the accumulator is `seen`, the methods by id; `Known` is what a look-up in it
answers, and it survives later entries because an entry of the same id has to be alike
(`Known.cons`).

Methods are compared by the language's `==`, so two methods of one id may be written differently and
still be taken for one: `1` and `1.0` are not told apart. `Alike` is that relation, and the last
statement is about it.
-/

namespace Awiki

open Py

/-- `AnpProtocolError(code)`, a `ValueError`. -/
def anpProtocolError (code : String) : AwikiError := .value code

/-! ### The document written out -/

/-- `reference(item)`. -/
def methodReference (did : String) : Json → Json
  | .str item => if startsWith "#" item then .str (did ++ item) else .str item
  | item => item

/-- `method["id"] = reference(method.get("id"))`. -/
def resolveId (did : String) (method : Obj) : Obj :=
  method.put "id" (methodReference did (method.get "id"))

/-- The methods seen so far, by id: the last one first. -/
abbrev SeenMethods := List (String × Obj)

/-- The loop over `verificationMethod`. -/
def resolveMethods (did : String) : List Json → SeenMethods → Result (List Json × SeenMethods)
  | [], seen => .ok ([], seen)
  | method :: rest, seen => do
    let method ← orRaise (anpProtocolError "verification_method_invalid") method.obj?
    let method := resolveId did method
    let id ← orRaise (anpProtocolError "verification_method_ambiguous") (method.get "id").str?
    require (seen.lookup id).isNone (anpProtocolError "verification_method_ambiguous")
    let (methods, seen) ← resolveMethods did rest ((id, method) :: seen)
    return (.obj method :: methods, seen)

/-- The loop over the entries of a relationship: `normalized`. -/
def resolveEntries (did : String) : List Json → SeenMethods → Result (List Json × SeenMethods)
  | [], seen => .ok ([], seen)
  | .obj entry :: rest, seen => do
    let entry := resolveId did entry
    let id ← orRaise (anpProtocolError "verification_method_ambiguous") (entry.get "id").str?
    require ((seen.lookup id).all fun method ↦ Json.same (.obj method) (.obj entry))
      (anpProtocolError "verification_method_ambiguous")
    let (normalized, seen) ← resolveEntries did rest ((id, entry) :: seen)
    return (.obj entry :: normalized, seen)
  | entry :: rest, seen => do
    let (normalized, seen) ← resolveEntries did rest seen
    return (methodReference did entry :: normalized, seen)

/-- `if key in value: value[key] = items`. -/
def putItems (value : Obj) (key : String) (items : List Json) : Obj :=
  if value.has key then value.put key (.arr items) else value

/-- The loop over the relationships. -/
def resolveRelations (did : String) : List String → Obj → SeenMethods → Result Obj
  | [], value, _ => .ok value
  | relation :: rest, value, seen => do
    let entries ← orRaise (anpProtocolError "verification_relationship_invalid")
      (value.getD relation (.arr [])).arr?
    let (normalized, seen) ← resolveEntries did entries seen
    resolveRelations did rest (putItems value relation normalized) seen

/-- The relationships whose entries are written out. -/
def lookupRelations : List String := ["authentication", "assertionMethod", "keyAgreement"]

/-- `_method_lookup_document`. -/
def methodLookupDocument (document : Obj) : Result Obj := do
  let did ← orRaise (anpProtocolError "did_document_id_required") (document.get "id").str?
  let methods ← orRaise (anpProtocolError "verification_method_invalid")
    (document.getD "verificationMethod" (.arr [])).arr?
  let (methods, seen) ← resolveMethods did methods []
  resolveRelations did lookupRelations (putItems document "verificationMethod" methods) seen

/-- The first method of a list with the id. -/
def methodWithId (keyId : String) (methods : List Json) : Option Obj :=
  methods.findSome? fun method ↦ method.obj?.filter fun m : Obj ↦ (m.get "id").isStr keyId

/-- `document.get(key, [])`, and nothing when it is no list. -/
def itemsOf (document : Obj) (key : String) : List Json :=
  (document.getD key (.arr [])).arr?.getD []

/-- `find_verification_method`. -/
def findVerificationMethod (document : Obj) (keyId : String) : Result (Option Obj) := do
  let document ← methodLookupDocument document
  let listed := methodWithId keyId (itemsOf document "verificationMethod")
  return listed.orElse fun _ ↦
    ["authentication", "assertionMethod"].findSome? fun relationship ↦
      (itemsOf document relationship).findSome? fun entry ↦
        match entry with
        | .obj m => if (Obj.get m "id").isStr keyId then some m else none
        | .str s => if s = keyId then listed else none
        | _ => none

/-- `is_verification_method_authorized`. -/
def isVerificationMethodAuthorized (document : Obj) (keyId relationship : String) :
    Result Bool := do
  let document ← methodLookupDocument document
  return (itemsOf document relationship).any fun entry ↦
    entry.isStr keyId || entry.obj?.any fun m : Obj ↦ (m.get "id").isStr keyId

/-! ### Spelling -/

/-- One id in two spellings. -/
inductive Spelling (did : String) : Json → Json → Prop where
  | same (v : Json) : Spelling did v v
  | expand (fragment : String) :
      Spelling did (.str ("#" ++ fragment)) (.str (did ++ ("#" ++ fragment)))
  | contract (fragment : String) :
      Spelling did (.str (did ++ ("#" ++ fragment))) (.str ("#" ++ fragment))

/-- One entry of a list in two spellings: a reference, or a method with its id. -/
inductive EntrySpelling (did : String) : Json → Json → Prop where
  | reference {v w : Json} (h : Spelling did v w) : EntrySpelling did v w
  | method {m m' : Obj} (h : Obj.AgreesBut (Spelling did) {"id"} m m') :
      EntrySpelling did (.obj m) (.obj m')

/-- A list of entries in two spellings. -/
inductive ItemsSpelling (did : String) : Json → Json → Prop where
  | same (v : Json) : ItemsSpelling did v v
  | list {items items' : List Json} (h : List.Forall₂ (EntrySpelling did) items items') :
      ItemsSpelling did (.arr items) (.arr items')

/-- Where ids and references stand. -/
def lookupKeys : List String := "verificationMethod" :: lookupRelations

/-- **Two spellings of one document**: methods, embedded methods and references may write an id as
`#fragment` or in full. -/
def Respelled (did : String) : Obj → Obj → Prop :=
  Obj.AgreesBut (ItemsSpelling did) lookupKeys.toFinset

/-- An entry written out. -/
def resolveEntry (did : String) : Json → Json
  | .obj m => .obj (resolveId did m)
  | v => methodReference did v

/-- The entries of a list are written out to the same. -/
def SameItems (did : String) (v w : Json) : Prop :=
  v.arr?.map (List.map (resolveEntry did)) = w.arr?.map (List.map (resolveEntry did)) ∧
    (v.arr? = none → v = w)

section Entries

variable {did : String} {v w : Json}

/-- A reference is written out as one. -/
theorem resolveEntry_str (did s : String) :
    resolveEntry did (.str s) = methodReference did (.str s) :=
  rfl

/-- And is a text again. -/
theorem methodReference_str (did s : String) : ∃ t, methodReference did (.str s) = .str t := by
  rw [methodReference]
  split <;> exact ⟨_, rfl⟩

/-- An embedded method is written out member by member. -/
theorem resolveEntry_obj? (did : String) (v : Json) :
    (resolveEntry did v).obj? = v.obj?.map (resolveId did) := by
  cases v with
  | str s =>
    obtain ⟨t, ht⟩ := methodReference_str did s
    rw [resolveEntry_str, ht]
    rfl
  | _ => rfl

variable (hdid : startsWith "did:" did = true)
include hdid

/-- A full id is not short. -/
theorem not_startsWith_did (item : String) : startsWith "#" (did ++ item) = false := by
  obtain ⟨rest, hrest⟩ := List.isPrefixOf_iff_prefix.mp hdid
  rw [startsWith, String.toList_append, ← hrest]
  rfl

/-- So it is its own written form. -/
theorem methodReference_did (item : String) :
    methodReference did (.str (did ++ item)) = .str (did ++ item) := by
  rw [methodReference, not_startsWith_did hdid, if_neg Bool.false_ne_true]

/-- What is written out stays as it is. -/
theorem methodReference_idem (v : Json) :
    methodReference did (methodReference did v) = methodReference did v := by
  cases v with
  | str s =>
    rw [methodReference]
    split
    · exact methodReference_did hdid s
    · rename_i hfull
      rw [methodReference, if_neg hfull]
  | _ => rfl

/-- Writing the id of a method out twice is writing it out once. -/
theorem resolveId_idem (m : Obj) : resolveId did (resolveId did m) = resolveId did m := by
  rw [resolveId, resolveId, Obj.get_put_self, methodReference_idem hdid]
  exact Obj.put_eq_self (by rw [Obj.lookup_put, if_pos rfl])

/-- And so for any entry. -/
theorem resolveEntry_idem (v : Json) :
    resolveEntry did (resolveEntry did v) = resolveEntry did v := by
  cases v with
  | obj m => exact congrArg Json.obj (resolveId_idem hdid m)
  | str s =>
    obtain ⟨t, ht⟩ := methodReference_str did s
    rw [resolveEntry_str, ht, resolveEntry_str, ← ht, methodReference_idem hdid]
  | _ => rfl

/-- Two spellings of an id are written out alike. -/
theorem Spelling.methodReference_eq (h : Spelling did v w) :
    methodReference did v = methodReference did w := by
  have hhash : ∀ fragment, startsWith "#" ("#" ++ fragment) = true := fun fragment ↦ by
    simp [startsWith]
  cases h with
  | same => rfl
  | expand fragment =>
    rw [methodReference_did hdid, methodReference, if_pos (hhash fragment)]
  | contract fragment =>
    rw [methodReference_did hdid, methodReference, if_pos (hhash fragment)]

/-- And two spellings of a method. -/
theorem resolveId_eq {m m' : Obj} (h : Obj.AgreesBut (Spelling did) {"id"} m m') :
    resolveId did m = resolveId did m' := by
  rw [resolveId, resolveId, ((h.getD_rel .same "id" .null).methodReference_eq hdid :
    methodReference did (m.get "id") = methodReference did (m'.get "id"))]
  have hput := h.put "id" (methodReference did (m'.get "id"))
  rw [Finset.erase_singleton] at hput
  exact hput.eq_of_empty

/-- And two spellings of an entry. -/
theorem EntrySpelling.resolveEntry_eq (h : EntrySpelling did v w) :
    resolveEntry did v = resolveEntry did w := by
  cases h with
  | reference h =>
    cases h with
    | same => rfl
    | expand fragment => exact (Spelling.expand fragment).methodReference_eq hdid
    | contract fragment => exact (Spelling.contract fragment).methodReference_eq hdid
  | method h => exact congrArg Json.obj (resolveId_eq hdid h)

/-- And two spellings of a list of entries. -/
theorem ItemsSpelling.sameItems (h : ItemsSpelling did v w) : SameItems did v w := by
  cases h with
  | same => exact ⟨rfl, fun _ ↦ rfl⟩
  | @list items _ h =>
    refine ⟨congrArg some ?_, fun hnone ↦ absurd hnone (Option.some_ne_none items)⟩
    induction h with
    | nil => rfl
    | cons hentry _ ih => exact congrArg₂ List.cons (hentry.resolveEntry_eq hdid) ih

end Entries

/-! ### The loops -/

section Loops

variable {did : String}

/-- One round of the loop over the methods, read through what the method is written out to. -/
theorem resolveMethods_cons (did : String) (v : Json) (rest : List Json) (seen : SeenMethods) :
    resolveMethods did (v :: rest) seen =
      orRaise (anpProtocolError "verification_method_invalid") (resolveEntry did v).obj? >>=
        fun method ↦ (orRaise (anpProtocolError "verification_method_ambiguous")
          (method.get "id").str? >>= fun id ↦
          require (seen.lookup id).isNone (anpProtocolError "verification_method_ambiguous") >>=
            fun _ ↦ resolveMethods did rest ((id, method) :: seen) >>= fun r ↦
              pure (.obj method :: r.1, r.2)) := by
  rw [resolveEntry_obj?]
  cases v <;> rfl

/-- The loop reads its methods written out. -/
theorem resolveMethods_congr {ms ms' : List Json} (seen : SeenMethods)
    (h : ms.map (resolveEntry did) = ms'.map (resolveEntry did)) :
    resolveMethods did ms seen = resolveMethods did ms' seen := by
  induction ms generalizing ms' seen with
  | nil =>
    obtain rfl := List.map_eq_nil_iff.mp h.symm
    rfl
  | cons v rest ih =>
    cases ms' with
    | nil => cases h
    | cons v' rest' =>
      obtain ⟨hhead, htail⟩ := List.cons.inj h
      rw [resolveMethods_cons, resolveMethods_cons, hhead]
      simp only [ih _ htail]

/-- What the loop over the entries does with one that is written out. -/
def resolveResolved (seen : SeenMethods) (entry : Json)
    (rest : SeenMethods → Result (List Json × SeenMethods)) :
    Result (List Json × SeenMethods) :=
  match entry with
  | .obj entry => do
    let id ← orRaise (anpProtocolError "verification_method_ambiguous") (Obj.get entry "id").str?
    require ((seen.lookup id).all fun method ↦ Json.same (.obj method) (.obj entry))
      (anpProtocolError "verification_method_ambiguous")
    let (normalized, seen) ← rest ((id, entry) :: seen)
    return (.obj entry :: normalized, seen)
  | entry => do
    let (normalized, seen) ← rest seen
    return (entry :: normalized, seen)

/-- One round of the loop over the entries of a relationship. -/
theorem resolveEntries_cons (did : String) (v : Json) (rest : List Json) (seen : SeenMethods) :
    resolveEntries did (v :: rest) seen =
      resolveResolved seen (resolveEntry did v) (resolveEntries did rest) := by
  cases v with
  | str s =>
    obtain ⟨t, ht⟩ := methodReference_str did s
    rw [resolveEntry_str, ht, resolveEntries, ht]
    · rfl
    · rintro _ ⟨⟩
  | _ => rfl

/-- The loop reads its entries written out. -/
theorem resolveEntries_congr {es es' : List Json} (seen : SeenMethods)
    (h : es.map (resolveEntry did) = es'.map (resolveEntry did)) :
    resolveEntries did es seen = resolveEntries did es' seen := by
  induction es generalizing es' seen with
  | nil =>
    obtain rfl := List.map_eq_nil_iff.mp h.symm
    rfl
  | cons v rest ih =>
    cases es' with
    | nil => cases h
    | cons v' rest' =>
      obtain ⟨hhead, htail⟩ := List.cons.inj h
      rw [resolveEntries_cons, resolveEntries_cons, hhead]
      simp only [resolveResolved, ih _ htail]

/-! ### What the loops return and have seen -/

/-- Two methods that are not told apart. -/
def Alike (m m' : Obj) : Prop := m = m' ∨ Json.same (.obj m) (.obj m') = true

/-- Being alike is symmetric, as equality of documents is. -/
theorem Alike.symm {m m' : Obj} (h : Alike m m') : Alike m' m := h.imp Eq.symm Json.same_symm

/-- And transitive. -/
theorem Alike.trans {a b c : Obj} (hab : Alike a b) (hbc : Alike b c) : Alike a c := by
  rcases hab with rfl | hab
  · exact hbc
  · rcases hbc with rfl | hbc
    · exact .inr hab
    · exact .inr (Json.same_trans hab hbc)

/-- The method seen last under the id of `m` is not told apart from `m`. -/
def Known (seen : SeenMethods) (m : Obj) : Prop :=
  ∀ id, m.get "id" = .str id → ∃ s, seen.lookup id = some s ∧ Alike m s

/-- Two known methods of one id are alike, by way of the one seen last. -/
theorem Known.alike {seen : SeenMethods} {m m' : Obj} {id : String} (hm : Known seen m)
    (hm' : Known seen m') (hid : m.get "id" = .str id) (hid' : m'.get "id" = .str id) :
    Alike m m' := by
  obtain ⟨s, hs, halike⟩ := hm id hid
  obtain ⟨s', hs', halike'⟩ := hm' id hid'
  obtain rfl := Option.some.inj (hs.symm.trans hs')
  exact halike.trans halike'.symm

/-- What has just been seen is known. -/
theorem known_cons {seen : SeenMethods} {e : Obj} {id : String} (hid : e.get "id" = .str id) :
    Known ((id, e) :: seen) e := fun id' hid' ↦ by
  obtain rfl := Json.str.inj (hid.symm.trans hid')
  exact ⟨e, by simp, .inl rfl⟩

/-- Seeing a method like the one seen before forgets nothing. -/
theorem Known.cons {seen : SeenMethods} {m e : Obj} {id : String} (hm : Known seen m)
    (hseen : ∀ s, seen.lookup id = some s → Alike s e) : Known ((id, e) :: seen) m := by
  intro id' hid'
  obtain ⟨s, hs, halike⟩ := hm id' hid'
  by_cases heq : id' = id
  · subst heq
    exact ⟨e, by simp, halike.trans (hseen s hs)⟩
  · rw [List.lookup_cons, beq_eq_false_iff_ne.mpr heq]
    exact ⟨s, hs, halike⟩

/-- What a loop over `items` returns, and what it has seen besides `seen`. -/
structure Resolved (did : String) (items : List Json) (seen : SeenMethods) (items' : List Json)
    (seen' : SeenMethods) : Prop where
  items_eq : items' = items.map (resolveEntry did)
  kept : ∀ m, Known seen m → Known seen' m
  known : ∀ m, .obj m ∈ items → Known seen' (resolveId did m)

/-- An entry that is a method, then the rest. -/
theorem Resolved.cons_obj {m : Obj} {rest items' : List Json} {seen seen' : SeenMethods}
    {id : String} (hid : (resolveId did m).get "id" = .str id)
    (hseen : ∀ s, seen.lookup id = some s → Alike s (resolveId did m))
    (h : Resolved did rest ((id, resolveId did m) :: seen) items' seen') :
    Resolved did (.obj m :: rest) seen (.obj (resolveId did m) :: items') seen' where
  items_eq := congrArg _ h.items_eq
  kept _ hm := h.kept _ (hm.cons hseen)
  known m' hm' := by
    rcases List.mem_cons.mp hm' with heq | hm'
    · obtain rfl := Json.obj.inj heq
      exact h.kept _ (known_cons hid)
    · exact h.known m' hm'

/-- What the loop over the methods returns and has seen. -/
theorem resolveMethods_eq_ok {ms ms' : List Json} {seen seen' : SeenMethods}
    (h : resolveMethods did ms seen = .ok (ms', seen')) : Resolved did ms seen ms' seen' := by
  induction ms generalizing seen ms' with
  | nil =>
    obtain ⟨rfl, rfl⟩ := Prod.mk.inj (Except.ok.inj h)
    exact ⟨rfl, fun _ hm ↦ hm, fun _ hm ↦ absurd hm List.not_mem_nil⟩
  | cons v rest ih =>
    obtain ⟨m, hm, h⟩ := bind_eq_ok.mp h
    obtain ⟨id, hid, h⟩ := bind_eq_ok.mp h
    obtain ⟨_, hfresh, h⟩ := bind_eq_ok.mp h
    obtain ⟨⟨ms₁, seen₁⟩, hrest, h⟩ := bind_eq_ok.mp h
    obtain ⟨rfl, rfl⟩ := Prod.mk.inj (pure_eq_ok.mp h)
    obtain rfl := Json.obj?_eq_some.mp (orRaise_eq_ok.mp hm)
    refine (ih hrest).cons_obj (Json.str?_eq_some.mp (orRaise_eq_ok.mp hid)) fun s hs ↦ ?_
    rw [require_eq_ok, hs] at hfresh
    cases hfresh

/-- And the loop over the entries of a relationship. -/
theorem resolveEntries_eq_ok {es es' : List Json} {seen seen' : SeenMethods}
    (h : resolveEntries did es seen = .ok (es', seen')) : Resolved did es seen es' seen' := by
  induction es generalizing seen es' with
  | nil =>
    obtain ⟨rfl, rfl⟩ := Prod.mk.inj (Except.ok.inj h)
    exact ⟨rfl, fun _ hm ↦ hm, fun _ hm ↦ absurd hm List.not_mem_nil⟩
  | cons v rest ih =>
    cases hv : v.obj? with
    | some m =>
      obtain rfl := Json.obj?_eq_some.mp hv
      obtain ⟨id, hid, h⟩ := bind_eq_ok.mp h
      obtain ⟨_, hsame, h⟩ := bind_eq_ok.mp h
      obtain ⟨⟨es₁, seen₁⟩, hrest, h⟩ := bind_eq_ok.mp h
      obtain ⟨rfl, rfl⟩ := Prod.mk.inj (pure_eq_ok.mp h)
      refine (ih hrest).cons_obj (Json.str?_eq_some.mp (orRaise_eq_ok.mp hid)) fun s hs ↦ ?_
      rw [require_eq_ok, hs] at hsame
      exact .inr hsame
    | none =>
      have hresolved : (resolveEntry did v).obj? = none := by rw [resolveEntry_obj?, hv]; rfl
      rw [resolveEntries_cons] at h
      generalize hw : resolveEntry did v = w at h hresolved
      have hloop : (resolveEntries did rest seen >>= fun r ↦ pure (w :: r.1, r.2)) =
          .ok (es', seen') := by
        cases w with
        | obj m => cases hresolved
        | _ => exact h
      obtain ⟨⟨es₁, seen₁⟩, hrest, hpure⟩ := bind_eq_ok.mp hloop
      obtain ⟨rfl, rfl⟩ := Prod.mk.inj (pure_eq_ok.mp hpure)
      obtain ⟨hitems, hkept, hknown⟩ := ih hrest
      refine ⟨by rw [List.map_cons, hw, hitems], hkept, fun m hm ↦ ?_⟩
      rcases List.mem_cons.mp hm with rfl | hm
      · cases hv
      · exact hknown m hm

end Loops

/-! ### The whole document -/

section Documents

variable {did : String} {value value' : Obj} {keys : Finset String}

/-- A list is written out to what it is written out to. -/
theorem SameItems.refl (v : Json) : SameItems did v v := ⟨rfl, fun _ ↦ rfl⟩

/-- And so through a third. -/
theorem SameItems.trans {u v w : Json} (huv : SameItems did u v) (hvw : SameItems did v w) :
    SameItems did u w := by
  refine ⟨huv.1.trans hvw.1, fun hnone ↦ ?_⟩
  obtain rfl := huv.2 hnone
  exact hvw.2 hnone

/-- Two lists written out to the same, or no lists. -/
theorem SameItems.arr? {v w : Json} (h : SameItems did v w) : v.arr? = none ∧ w.arr? = none ∨
    ∃ items items', v.arr? = some items ∧ w.arr? = some items' ∧
      items.map (resolveEntry did) = items'.map (resolveEntry did) := by
  have hmap := h.1
  cases hv : v.arr? with
  | none =>
    rw [hv] at hmap
    exact .inl ⟨rfl, Option.map_eq_none_iff.mp hmap.symm⟩
  | some items =>
    rw [hv] at hmap
    obtain ⟨items', hw, hitems⟩ := Option.map_eq_some_iff.mp hmap.symm
    exact .inr ⟨items, items', rfl, hw, hitems.symm⟩

/-- Assigning the same list on both sides settles its key. -/
theorem putItems_congr (h : Obj.AgreesBut (SameItems did) keys value value') (key : String)
    (items : List Json) : Obj.AgreesBut (SameItems did) (keys.erase key)
      (putItems value key items) (putItems value' key items) := by
  rw [putItems, putItems, ← h.has_eq key]
  split
  · exact h.put key _
  · rename_i hhas
    exact h.erase (Bool.eq_false_iff.mpr hhas)

/-- The keys that are left after the first. -/
theorem erase_toFinset_cons {k : String} {ks : List String} (h : (k :: ks).Nodup) :
    (k :: ks).toFinset.erase k = ks.toFinset := by
  rw [List.toFinset_cons, Finset.erase_insert]
  exact fun hmem ↦ (List.nodup_cons.mp h).1 (List.mem_toFinset.mp hmem)

/-- The loop over the relationships settles all of their keys. -/
theorem resolveRelations_congr {relations : List String} (hnodup : relations.Nodup)
    (h : Obj.AgreesBut (SameItems did) relations.toFinset value value') (seen : SeenMethods) :
    resolveRelations did relations value seen = resolveRelations did relations value' seen := by
  induction relations generalizing value value' seen with
  | nil => rw [Obj.AgreesBut.eq_of_empty h]
  | cons relation rest ih =>
    rw [resolveRelations, resolveRelations]
    rcases (h.getD_rel SameItems.refl relation (.arr [])).arr? with ⟨hv, hw⟩ | hlists
    · rw [hv, hw]
      rfl
    · obtain ⟨items, items', hv, hw, hitems⟩ := hlists
      rw [hv, hw]
      change (resolveEntries did items seen >>= fun r ↦
          resolveRelations did rest (putItems value relation r.1) r.2) =
        resolveEntries did items' seen >>= _
      rw [resolveEntries_congr seen hitems]
      refine bind_congr fun r ↦ ?_
      refine ih (List.nodup_cons.mp hnodup).2 ?_ r.2
      rw [← erase_toFinset_cons hnodup]
      exact putItems_congr h relation r.1

/-- **A document is read through what its entries are written out to.** -/
theorem methodLookupDocument_congr {document document' : Obj}
    (hid : document.get "id" = .str did)
    (h : Obj.AgreesBut (SameItems did) lookupKeys.toFinset document document') :
    methodLookupDocument document = methodLookupDocument document' := by
  have hid' : document'.get "id" = .str did := by
    rw [← h.get_eq (by decide), hid]
  rw [methodLookupDocument, methodLookupDocument, hid, hid', Json.str?_str, orRaise_some]
  rcases (h.getD_rel SameItems.refl "verificationMethod" (.arr [])).arr? with ⟨hv, hw⟩ | hlists
  · rw [hv, hw]
    rfl
  · obtain ⟨items, items', hv, hw, hitems⟩ := hlists
    rw [hv, hw]
    change (resolveMethods did items [] >>= fun r ↦ resolveRelations did lookupRelations
        (putItems document "verificationMethod" r.1) r.2) = resolveMethods did items' [] >>= _
    rw [resolveMethods_congr [] hitems]
    refine bind_congr fun r ↦ ?_
    refine resolveRelations_congr (by decide) ?_ r.2
    have hkeys : lookupKeys.toFinset.erase "verificationMethod" = lookupRelations.toFinset :=
      erase_toFinset_cons (by decide)
    rw [← hkeys]
    exact putItems_congr h "verificationMethod" r.1

/-- Other keys keep their entries. -/
theorem itemsOf_putItems_of_ne {key k : String} (hne : k ≠ key) (items : List Json) :
    itemsOf (putItems value key items) k = itemsOf value k := by
  rw [putItems]
  split
  · rw [itemsOf, itemsOf, Obj.getD, Obj.getD, Obj.lookup_put, if_neg hne]
  · rfl

/-- The entries of a list that has been written out. -/
theorem itemsOf_putItems {key : String} {items : List Json}
    (h : (value.getD key (.arr [])).arr? = some items) :
    itemsOf (putItems value key (items.map (resolveEntry did))) key =
      (itemsOf value key).map (resolveEntry did) := by
  have hitems : itemsOf value key = items := by rw [itemsOf, h, Option.getD_some]
  rw [hitems, putItems]
  split
  · rw [itemsOf, Obj.getD, Obj.lookup_put, if_pos rfl]
    rfl
  · rename_i hhas
    have hnone : value.lookup key = none := Option.not_isSome_iff_eq_none.mp hhas
    rw [Obj.getD, hnone] at h
    obtain rfl : [] = items := Option.some.inj h
    exact hitems

/-- What writing the relationships out leaves. -/
theorem resolveRelations_items {relations : List String} {seen : SeenMethods}
    (hnodup : relations.Nodup) (h : resolveRelations did relations value seen = .ok value') :
    (∀ k ∈ relations, itemsOf value' k = (itemsOf value k).map (resolveEntry did)) ∧
      ∀ k ∉ relations, itemsOf value' k = itemsOf value k := by
  induction relations generalizing value seen with
  | nil =>
    obtain rfl := Except.ok.inj h
    exact ⟨fun k hk ↦ absurd hk List.not_mem_nil, fun _ _ ↦ rfl⟩
  | cons relation rest ih =>
    obtain ⟨hfresh, hrest⟩ := List.nodup_cons.mp hnodup
    obtain ⟨items, hitems, h⟩ := bind_eq_ok.mp h
    obtain ⟨⟨items', seen₁⟩, hloop, h⟩ := bind_eq_ok.mp h
    obtain rfl := (resolveEntries_eq_ok hloop).items_eq
    obtain ⟨hin, hout⟩ := ih hrest h
    constructor
    · intro k hk
      rcases List.mem_cons.mp hk with rfl | hk
      · rw [hout _ hfresh, itemsOf_putItems (orRaise_eq_ok.mp hitems)]
      · have hne : k ≠ relation := ne_of_mem_of_not_mem hk hfresh
        rw [hin k hk, itemsOf_putItems_of_ne hne]
    · intro k hk
      obtain ⟨hne, hk⟩ := not_or.mp (mt List.mem_cons.mpr hk)
      rw [hout k hk, itemsOf_putItems_of_ne hne]

/-- What the loop over the relationships has seen. -/
theorem resolveRelations_known {relations : List String} {seen : SeenMethods}
    (hnodup : relations.Nodup) (h : resolveRelations did relations value seen = .ok value') :
    ∃ seen', (∀ m, Known seen m → Known seen' m) ∧
      ∀ k ∈ relations, ∀ m, .obj m ∈ itemsOf value k → Known seen' (resolveId did m) := by
  induction relations generalizing value seen with
  | nil => exact ⟨seen, fun _ hm ↦ hm, fun k hk ↦ absurd hk List.not_mem_nil⟩
  | cons relation rest ih =>
    obtain ⟨hfresh, hrest⟩ := List.nodup_cons.mp hnodup
    obtain ⟨items, hitems, h⟩ := bind_eq_ok.mp h
    obtain ⟨⟨items', seen₁⟩, hloop, h⟩ := bind_eq_ok.mp h
    have hresolved := resolveEntries_eq_ok hloop
    obtain ⟨seen', hkept, hknown⟩ := ih hrest h
    refine ⟨seen', fun m hm ↦ hkept m (hresolved.kept m hm), fun k hk m hm ↦ ?_⟩
    rcases List.mem_cons.mp hk with rfl | hk
    · rw [itemsOf, orRaise_eq_ok.mp hitems, Option.getD_some] at hm
      exact hkept _ (hresolved.known m hm)
    · have hne : k ≠ relation := ne_of_mem_of_not_mem hk hfresh
      refine hknown k hk m ?_
      rwa [itemsOf_putItems_of_ne hne]

/-- The methods of a document, listed or embedded. -/
def documentMethods (document : Obj) : List Obj :=
  lookupKeys.flatMap fun k ↦ (itemsOf document k).filterMap Json.obj?

/-- A method is listed, or embedded in one of the relationships. -/
theorem mem_documentMethods {document m : Obj} :
    m ∈ documentMethods document ↔ ∃ k ∈ lookupKeys, .obj m ∈ itemsOf document k := by
  simp only [documentMethods, List.mem_flatMap, List.mem_filterMap, Json.obj?_eq_some,
    exists_eq_right]

/-- A document that can be written out: its parts. -/
theorem methodLookupDocument_eq_ok {document : Obj} (hid : document.get "id" = .str did)
    (h : methodLookupDocument document = .ok value) : ∃ items items' seen,
      (document.getD "verificationMethod" (.arr [])).arr? = some items ∧
      Resolved did items [] items' seen ∧
      resolveRelations did lookupRelations (putItems document "verificationMethod" items') seen =
        .ok value := by
  obtain ⟨did', hdid', h⟩ := bind_eq_ok.mp h
  obtain rfl : did = did' := by
    rw [hid] at hdid'
    exact Option.some.inj (orRaise_eq_ok.mp hdid')
  obtain ⟨items, hitems, h⟩ := bind_eq_ok.mp h
  obtain ⟨⟨items', seen⟩, hloop, h⟩ := bind_eq_ok.mp h
  exact ⟨items, items', seen, orRaise_eq_ok.mp hitems, resolveMethods_eq_ok hloop, h⟩

/-- The entries of a document written out. -/
theorem itemsOf_methodLookupDocument {document : Obj} (hid : document.get "id" = .str did)
    (h : methodLookupDocument document = .ok value) {k : String} (hk : k ∈ lookupKeys) :
    itemsOf value k = (itemsOf document k).map (resolveEntry did) := by
  obtain ⟨items, items', seen, hitems, hresolved, hrelations⟩ := methodLookupDocument_eq_ok hid h
  obtain rfl := hresolved.items_eq
  obtain ⟨hin, hout⟩ := resolveRelations_items (by decide) hrelations
  rcases List.mem_cons.mp hk with rfl | hk
  · rw [hout _ (by decide), itemsOf_putItems hitems]
  · have hne : k ≠ "verificationMethod" := ne_of_mem_of_not_mem hk (by decide)
    rw [hin k hk, itemsOf_putItems_of_ne hne]

/-- **Two methods of one id are not told apart.** -/
theorem alike_of_mem_documentMethods {document m m' : Obj} {id : String}
    (hid : document.get "id" = .str did) (h : methodLookupDocument document = .ok value)
    (hm : m ∈ documentMethods document) (hm' : m' ∈ documentMethods document)
    (hmid : (resolveId did m).get "id" = .str id) (hmid' : (resolveId did m').get "id" = .str id) :
    Alike (resolveId did m) (resolveId did m') := by
  obtain ⟨items, items', seen, hitems, hresolved, hrelations⟩ := methodLookupDocument_eq_ok hid h
  obtain ⟨seen', hkept, hknown⟩ := resolveRelations_known (by decide) hrelations
  have hall : ∀ m ∈ documentMethods document, Known seen' (resolveId did m) := by
    intro m hm
    obtain ⟨k, hk, hmem⟩ := mem_documentMethods.mp hm
    rcases List.mem_cons.mp hk with rfl | hk
    · rw [itemsOf, hitems, Option.getD_some] at hmem
      exact hkept _ (hresolved.known m hmem)
    · have hne : k ≠ "verificationMethod" := ne_of_mem_of_not_mem hk (by decide)
      refine hknown k hk m ?_
      rwa [itemsOf_putItems_of_ne hne]
  exact (hall m hm).alike (hall m' hm') hmid hmid'

/-- The method a look-up finds is one of the document's, written out. -/
theorem findVerificationMethod_eq_ok {document m : Obj} {keyId : String}
    (hid : document.get "id" = .str did)
    (h : findVerificationMethod document keyId = .ok (some m)) :
    ∃ m₀ ∈ documentMethods document, resolveId did m₀ = m ∧ m.get "id" = .str keyId := by
  obtain ⟨value, hvalue, h⟩ := bind_eq_ok.mp h
  have hsource : ∀ k ∈ lookupKeys, .obj m ∈ itemsOf value k →
      ∃ m₀ ∈ documentMethods document, resolveId did m₀ = m := by
    intro k hk hmem
    rw [itemsOf_methodLookupDocument hid hvalue hk] at hmem
    obtain ⟨e, he, heq⟩ := List.mem_map.mp hmem
    have hobj := resolveEntry_obj? did e
    rw [heq, Json.obj?_obj] at hobj
    obtain ⟨m₀, hm₀, hm₀m⟩ := Option.map_eq_some_iff.mp hobj.symm
    rw [Json.obj?_eq_some] at hm₀
    exact ⟨m₀, mem_documentMethods.mpr ⟨k, hk, hm₀ ▸ he⟩, hm₀m⟩
  have hlisted : methodWithId keyId (itemsOf value "verificationMethod") = some m →
      .obj m ∈ itemsOf value "verificationMethod" ∧ m.get "id" = .str keyId := by
    intro hlist
    obtain ⟨e, he, hfound⟩ := List.exists_of_findSome?_eq_some hlist
    obtain ⟨hobj, hkey⟩ := Option.filter_eq_some_iff.mp hfound
    exact ⟨Json.obj?_eq_some.mp hobj ▸ he, Json.isStr_iff.mp hkey⟩
  -- In the list first, then where a relationship embeds it.
  have hfound : ∃ k ∈ lookupKeys, .obj m ∈ itemsOf value k ∧ m.get "id" = .str keyId := by
    have hor := pure_eq_ok.mp h
    rw [Option.orElse_eq_or, Option.or_eq_some_iff] at hor
    rcases hor with hlist | ⟨-, hembedded⟩
    · exact ⟨_, List.mem_cons_self, hlisted hlist⟩
    · obtain ⟨k, hk, hfound⟩ := List.exists_of_findSome?_eq_some hembedded
      obtain ⟨e, he, hfound⟩ := List.exists_of_findSome?_eq_some hfound
      have hkeys : ∀ k ∈ ["authentication", "assertionMethod"], k ∈ lookupKeys := by decide
      cases e with
      | obj m' =>
        obtain ⟨hkey, hsome⟩ := Option.ite_none_right_eq_some.mp hfound
        obtain rfl := Option.some.inj hsome
        exact ⟨k, hkeys k hk, he, Json.isStr_iff.mp hkey⟩
      | str s =>
        obtain ⟨-, hlist⟩ := Option.ite_none_right_eq_some.mp hfound
        exact ⟨_, List.mem_cons_self, hlisted hlist⟩
      | _ => cases hfound
  obtain ⟨k, hk, hmem, hkey⟩ := hfound
  obtain ⟨m₀, hm₀, heq⟩ := hsource k hk hmem
  exact ⟨m₀, hm₀, heq, hkey⟩

variable (hdid : startsWith "did:" did = true)
include hdid

/-- Writing a list out only respells its entries. -/
theorem agreesBut_putItems {key : String} {items : List Json} (hkey : key ∈ keys)
    (hitems : (value.getD key (.arr [])).arr? = some items) :
    Obj.AgreesBut (SameItems did) keys value
      (putItems value key (items.map (resolveEntry did))) := by
  rw [putItems]
  split
  · rename_i hhas
    obtain ⟨v, hv⟩ := Option.isSome_iff_exists.mp hhas
    rw [Obj.getD, hv, Option.getD_some, Json.arr?_eq_some] at hitems
    refine .put_self SameItems.refl hkey hv ?_
    subst hitems
    refine ⟨congrArg some ?_, fun hnone ↦ absurd hnone (Option.some_ne_none items)⟩
    rw [List.map_map]
    exact (List.map_congr_left fun e _ ↦ resolveEntry_idem hdid e).symm
  · exact .refl SameItems.refl _ _

/-- Writing the relationships out only respells them. -/
theorem agreesBut_resolveRelations {relations : List String} {seen : SeenMethods}
    (hkeys : ∀ k ∈ relations, k ∈ keys)
    (h : resolveRelations did relations value seen = .ok value') :
    Obj.AgreesBut (SameItems did) keys value value' := by
  induction relations generalizing value seen with
  | nil =>
    obtain rfl := Except.ok.inj h
    exact .refl SameItems.refl _ _
  | cons relation rest ih =>
    obtain ⟨items, hitems, h⟩ := bind_eq_ok.mp h
    obtain ⟨⟨items', seen₁⟩, hloop, h⟩ := bind_eq_ok.mp h
    obtain rfl := (resolveEntries_eq_ok hloop).items_eq
    exact (agreesBut_putItems hdid (hkeys _ List.mem_cons_self) (orRaise_eq_ok.mp hitems)).trans
      SameItems.trans (ih (fun k hk ↦ hkeys k (List.mem_cons_of_mem _ hk)) h)

/-- **A document written out is a respelling of the document**, so writing it out again changes
nothing. -/
theorem methodLookupDocument_idem {document : Obj} (hid : document.get "id" = .str did)
    (h : methodLookupDocument document = .ok value) : methodLookupDocument value = .ok value := by
  obtain ⟨items, items', seen, hitems, hresolved, hrelations⟩ := methodLookupDocument_eq_ok hid h
  obtain rfl := hresolved.items_eq
  have hagree : Obj.AgreesBut (SameItems did) lookupKeys.toFinset document value :=
    (agreesBut_putItems hdid (by decide) hitems).trans SameItems.trans
      (agreesBut_resolveRelations hdid (by decide) hrelations)
  rw [← methodLookupDocument_congr hid hagree, h]

/-- Two spellings of a document are written out alike. -/
theorem Respelled.methodLookupDocument_eq {document document' : Obj}
    (hid : document.get "id" = .str did) (h : Respelled did document document') :
    methodLookupDocument document = methodLookupDocument document' :=
  methodLookupDocument_congr hid (h.imp fun _ _ hitems ↦ hitems.sameItems hdid)

end Documents

/-- **Key look-up does not depend on spelling.** In a document whose id is a DID: writing the
document out twice is writing it out once, another spelling of the document is written out, searched
and asked for an authorization with the same outcome, and where a look-up finds a method, all
methods of the document whose id is the one looked up are not told apart from it. -/
theorem method_lookup_spelling {document document' : Obj} {did : String}
    (hid : document.get "id" = .str did) (hdid : startsWith "did:" did = true)
    (hspelling : Respelled did document document') (keyId relationship : String) :
    (∀ value, methodLookupDocument document = .ok value → methodLookupDocument value = .ok value) ∧
    methodLookupDocument document' = methodLookupDocument document ∧
    findVerificationMethod document' keyId = findVerificationMethod document keyId ∧
    isVerificationMethodAuthorized document' keyId relationship =
      isVerificationMethodAuthorized document keyId relationship ∧
    ∀ m, findVerificationMethod document keyId = .ok (some m) →
      ∀ m' ∈ documentMethods document, (resolveId did m').get "id" = .str keyId →
        Alike (resolveId did m') m := by
  have hlookup := hspelling.methodLookupDocument_eq hdid hid
  refine ⟨fun value h ↦ methodLookupDocument_idem hdid hid h, hlookup.symm, ?_, ?_, ?_⟩
  · rw [findVerificationMethod, findVerificationMethod, hlookup]
  · rw [isVerificationMethodAuthorized, isVerificationMethodAuthorized, hlookup]
  · intro m hfind m' hm' hmid'
    obtain ⟨value, hvalue, -⟩ := bind_eq_ok.mp hfind
    obtain ⟨m₀, hm₀, rfl, hmid⟩ := findVerificationMethod_eq_ok hid hfind
    exact alike_of_mem_documentMethods hid hvalue hm' hm₀ hmid' hmid

/-- A document with one key, its id cut short. -/
def shortIds : Obj :=
  [("id", .str "did:ex:alice"),
    ("verificationMethod", .arr [.obj [("id", .str "#k1"), ("type", .str "Multikey")]]),
    ("authentication", .arr [.str "#k1"])]

/-- The same with the id of the method in full. -/
def fullMethodId : Obj :=
  [("id", .str "did:ex:alice"),
    ("verificationMethod", .arr [.obj [("id", .str "did:ex:alice#k1"), ("type", .str "Multikey")]]),
    ("authentication", .arr [.str "#k1"])]

/-- The two documents are spellings of one. -/
theorem respelled_fullMethodId : Respelled "did:ex:alice" shortIds fullMethodId :=
  .outside (by decide) (.inside (by decide)
    (.list (.cons (.method (.inside (by decide) (.expand "k1") (.outside (by decide) (.nil _))))
      .nil))
    (.inside (by decide) (.same _) (.nil _)))

/-- The key is found under its full id in both, and may authenticate. -/
theorem method_lookup_spelling_sample :
    findVerificationMethod fullMethodId "did:ex:alice#k1" =
        findVerificationMethod shortIds "did:ex:alice#k1" ∧
      isVerificationMethodAuthorized fullMethodId "did:ex:alice#k1" "authentication" =
        .ok true := by
  obtain ⟨-, -, hfind, hauthorized, -⟩ := method_lookup_spelling rfl (by decide)
    respelled_fullMethodId "did:ex:alice#k1" "authentication"
  exact ⟨hfind, hauthorized.trans rfl⟩

end Awiki
