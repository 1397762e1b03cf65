import Mathlib.Data.List.Dedup
import AwikiOpenServer.Lib.MergePatch
import AwikiOpenServer.Messaging.Groups.MemberLimit

/-!
# Policies and their patches

A profile or policy is changed by a **merge patch** to the stored document, and what comes out is
validated whole before it is stored. The patch is the one of RFC 7396 (`mergePatch_isMergePatch`),
so a patch may put any JSON value under any name, and the validator sees it.

`_validate_policy` is meant to refuse such values with `InvalidParams`. What it lets through is a
`ValidPolicy`, and a valid policy is left as it is by a second validation. But three kinds of value
make it raise something else (`EscapesPolicyCheck`): membership of a set is asked of values that
cannot be hashed, and `int` of an infinite number raises an exception the handler does not name.

## The validator in three parts

`validatePolicy` is written as the source has it, in one piece. The proofs cut it into three
(`validatePolicy_eq`): the keys and the security profile, with the defaults filled in; the admission
mode and the permissions; the limit of members, which is written back as a text, and attachments.
For each part there are two lemmas, with the same shape: exactly when it succeeds, and exactly when
nothing but `InvalidParams` is raised. `RaisesOnly` goes through `bind`, so the second is put
together as the first is.

The exact condition follows the order of the checks. A value that cannot be hashed escapes only if
the checks before it pass, since the first that fails decides.

## Stored policies

A policy is stored by a creation, with the defaults filled in, or by an update. In every reachable
state every stored policy is valid (`storedPolicies_valid`), and of a valid policy the later reads
do not fail: `_require_permission` compares two levels, and `policy["max_members"]` reads as a
number.
-/

namespace Awiki

open Py Runs

/-! ### Merge patches -/

/-- A member after a patch is the merged one. -/
theorem lookup_mergePatchFields (document : Obj) (patch : List (String × Json)) (k : String) :
    (mergePatchFields document patch).lookup k =
      mergedMember (mergePatch (document.get k)) (document.lookup k) (patch.lookup k) := by
  induction patch with
  | nil => rw [mergePatchFields, List.lookup_nil, mergedMember]
  | cons pair rest ih =>
    obtain ⟨name, value⟩ := pair
    by_cases hvalue : value = .null
    · subst hvalue
      rw [mergePatchFields, Obj.lookup_erase]
      by_cases hk : k = name
      · rw [if_pos hk, hk, List.lookup_cons_self, mergedMember]
      · have hne : (k == name) = false := by simpa using hk
        rw [if_neg hk, ih, List.lookup_cons, hne]
    · have hset : mergePatchFields document ((name, value) :: rest) =
          (mergePatchFields document rest).set name (mergePatch (document.get name) value) := by
        rw [mergePatchFields]
        exact hvalue
      rw [hset, Obj.lookup_set]
      by_cases hk : k = name
      · rw [if_pos hk, hk, List.lookup_cons_self, mergedMember_of_ne_null hvalue]
      · have hne : (k == name) = false := by simpa using hk
        rw [if_neg hk, ih, List.lookup_cons, hne]

/-- **`_merge_patch` is a merge patch.** -/
theorem mergePatch_isMergePatch : IsMergePatch mergePatch where
  value document patch h := by
    rw [mergePatch]
    rintro o rfl
    cases h
  object document patch :=
    ⟨mergePatchFields document.fields patch, by rw [mergePatch]; rfl,
      lookup_mergePatchFields document.fields patch⟩

/-- **Patches follow RFC 7396.** The result is that of the standard's pseudo-code; applying a patch
again changes nothing; members the patch does not name stay, at every depth; and a `null` member of
the result is one of the document, or lies in an array of the patch. -/
theorem patches_follow_rfc7396 (document patch : Json) :
    (mergePatch document patch).Equiv (rfc7396 (some document) patch) ∧
      (mergePatch (mergePatch document patch) patch).Equiv (mergePatch document patch) ∧
      (∀ names k o, patch.at? (names.map .key) = some (.obj o) → o.lookup k = none →
        (mergePatch document patch).at? ((names ++ [k]).map .key) =
          document.at? ((names ++ [k]).map .key)) ∧
      ∀ path k, (mergePatch document patch).at? (path ++ [.key k]) = some .null →
        document.at? (path ++ [.key k]) = some .null ∨ patch.EntersArray path :=
  ⟨mergePatch_isMergePatch.unique rfc7396_isMergePatch document patch,
    mergePatch_isMergePatch.idempotent document patch,
    fun _ _ _ hpatch hk ↦ mergePatch_isMergePatch.preserved document patch hpatch hk,
    fun _ _ h ↦ mergePatch_isMergePatch.null_member document patch h⟩

/-! ### Valid policies -/

/-- The dictionary has these keys and no others. -/
def HasKeys (o : Obj) (keys : List String) : Prop := ∀ k, o.has k = true ↔ k ∈ keys

/-- The value is the text of a role. -/
def NamesRole (v : Json) : Prop := ∃ role : Role, v = .str role.text

/-- The one security profile, in both places. -/
structure Secured (p : Obj) : Prop where
  message : p.get "message_security_profile" = .str "transport-protected"
  bootstrap : p.get "bootstrap_security_profile" = .str "transport-protected"

/-- One of the two admission modes. -/
def AdmissionKnown (p : Obj) : Prop :=
  ∃ s ∈ ["open-join", "admin-add"], p.get "admission_mode" = .str s

/-- The permissions of the policy are `o`, with every key there is and no other. -/
structure PermissionsAre (p o : Obj) : Prop where
  found : p.get "permissions" = .obj o
  keys : HasKeys o PERMISSION_KEYS

/-- **A policy every member of which is in its range**, the limit as the text of a number. -/
structure ValidPolicy (p : Obj) : Prop where
  keys : HasKeys p POLICY_KEYS
  secured : Secured p
  admission : AdmissionKnown p
  permissions : ∃ o, PermissionsAre p o ∧ ∀ k ∈ PERMISSION_KEYS, NamesRole (o.get k)
  attachments : ∃ b, p.get "attachments_allowed" = .bool b
  limit : ∃ n : ℕ, 1 ≤ n ∧ n ≤ 100 ∧ p.get "max_members" = .str (toString n)

/-- **What makes the validator raise an exception of its own**, in a policy filled up with the
defaults: a mode, or the first value among the permissions that is no role, that cannot be hashed,
or an infinite limit. -/
inductive EscapesPolicyCheck (p : Obj) : Prop
  | admission (h : (p.get "admission_mode").hashable = false)
  | role (o : Obj) (before after : List String) (k : String) (hadmission : AdmissionKnown p)
      (hpermissions : PermissionsAre p o) (hsplit : dictKeys o = before ++ k :: after)
      (hbefore : ∀ j ∈ before, NamesRole (o.get j)) (h : (o.get k).hashable = false)
  | limit (o : Obj) (hadmission : AdmissionKnown p) (hpermissions : PermissionsAre p o)
      (hroles : ∀ k ∈ PERMISSION_KEYS, NamesRole (o.get k))
      (h : p.get "max_members" = .float .posInf ∨ p.get "max_members" = .float .negInf)

/-- The value is a dictionary of allowed keys with the one security profile, and filled up with the
defaults it escapes the check. -/
def PolicyCheckEscaped (v : Json) : Prop :=
  ∃ given, v = .obj given ∧ (∀ k, Obj.has given k = true → k ∈ POLICY_KEYS) ∧
    Secured (Obj.merge DEFAULT_POLICY given) ∧
    EscapesPolicyCheck (Obj.merge DEFAULT_POLICY given)

/-! ### The checks one by one -/

/-- The keys of a dictionary. -/
theorem mem_dictKeys {o : Obj} {k : String} : k ∈ dictKeys o ↔ o.has k = true := by
  rw [dictKeys, List.mem_dedup, Obj.has, Option.isSome_iff_ne_none, ne_eq,
    Obj.lookup_eq_none_iff_not_mem, not_not]

/-- A role is known by its text. -/
theorem ofText?_eq_some {s : String} {role : Role} :
    Role.ofText? s = some role ↔ role.text = s := by
  constructor
  · intro h
    exact of_decide_eq_true (List.find?_some (p := fun r : Role ↦ decide (r.text = s)) h)
  · rintro rfl
    cases role <;> decide

/-- `value not in ROLE_LEVEL`, passed. -/
theorem requireRole_eq_ok {v : Json} {e : AwikiError} {role : Role} :
    requireRole v e = .ok role ↔ v = .str role.text := by
  unfold requireRole
  cases v with
  | str s =>
    show orRaise e (Role.ofText? s) = .ok role ↔ _
    rw [orRaise_eq_ok, ofText?_eq_some, Json.str.injEq, eq_comm]
  | arr _ => simp [Json.hashable]
  | obj _ => simp [Json.hashable]
  | _ => simp [Json.hashable, Json.str?, orRaise]

/-- `value not in ROLE_LEVEL`, not passed: an unhashable value is a `TypeError`. -/
theorem requireRole_raisesOnly {P : AwikiError → Prop} {v : Json} {e : AwikiError} (he : P e) :
    RaisesOnly P (requireRole v e) ↔ (v.hashable = false → P (.type "unhashable type")) := by
  unfold requireRole
  cases hv : v.hashable <;> simp [he]

/-- Membership of a set raises for values that cannot be hashed, and for no others. -/
theorem inSet_raisesOnly {P : AwikiError → Prop} {v : Json} {names : List String} :
    RaisesOnly P (inSet v names) ↔ (v.hashable = false → P (.type "unhashable type")) := by
  unfold inSet
  cases hv : v.hashable <;> simp

/-- The members of a set of texts are texts. -/
theorem inSet_eq_true {v : Json} {names : List String} :
    inSet v names = .ok true ↔ ∃ s ∈ names, v = .str s := by
  unfold inSet
  cases hv : v.hashable with
  | true => simp [Json.isStr_iff]
  | false =>
    have hstr : ∀ s, v ≠ .str s := by
      rintro s rfl
      cases hv
    simp [hstr]

/-- `int` overflows at the two infinities. -/
theorem intOf_overflow {v : Json} :
    intOf v = .error .overflowError ↔ v = .float .posInf ∨ v = .float .negInf := by
  cases v with
  | float x => cases x <;> simp [intOf]
  | str s =>
    cases hs : ofText? s <;> simp [intOf, hs]
  | _ => simp [intOf]

/-! ### The validator in three parts -/

/-- The keys and the security profile; the policy is filled up with the defaults. -/
def filledPolicy (value : Json) : Result Obj := do
  let given ← orRaise (.invalidParams "group.policy_required") value.obj?
  let extra := ((dictKeys given).filter fun k ↦ !POLICY_KEYS.contains k).insertionSort (· ≤ ·)
  require extra.isEmpty
    (.invalidParams "group.policy_fields_invalid" [("fields", .arr (extra.map .str))])
  let policy := Obj.merge DEFAULT_POLICY given
  require ((policy.get "message_security_profile").isStr "transport-protected" &&
      (policy.get "bootstrap_security_profile").isStr "transport-protected")
    (.invalidParams "group.security_profile_not_supported")
  return policy

/-- The loop over the permissions, one key. -/
def permissionRole (permissions : Obj) (k : String) : Result Unit := do
  let _ ← requireRole (permissions.get k) (.invalidParams "group.permission_role_invalid")

/-- The admission mode and the permissions. -/
def checkPolicyRanges (policy : Obj) : Result Unit := do
  let admission ← inSet (policy.get "admission_mode") ["open-join", "admin-add"]
  require admission (.invalidParams "group.admission_mode_invalid")
  let permissions ← orRaise (.invalidParams "group.permissions_invalid")
    (policy.get "permissions").obj?
  require ((dictKeys permissions).all PERMISSION_KEYS.contains &&
      PERMISSION_KEYS.all fun k ↦ Obj.has permissions k)
    (.invalidParams "group.permissions_invalid")
  (dictKeys permissions).forM (permissionRole permissions)

/-- The limit, which is written back as a text, and attachments. -/
def limitedPolicy (policy : Obj) : Result Obj := do
  let maxMembers ← match intOf (policy.getD "max_members" (.int MAX_MEMBERS)) with
    | .ok n => .ok n
    | .error .overflowError => .error (.value "cannot convert float infinity to integer")
    | .error _ => .error (.invalidParams "group.max_members_invalid")
  require (1 ≤ maxMembers && maxMembers ≤ MAX_MEMBERS)
    (.invalidParams "group.max_members_exceeded" [("limit", .str (toString MAX_MEMBERS))])
  let policy := policy.set "max_members" (.str (toString maxMembers))
  require (match policy.getD "attachments_allowed" (.bool false) with
      | .bool _ => true
      | _ => false)
    (.invalidParams "group.attachments_allowed_invalid")
  return policy

/-- The three parts, one after the other, are `_validate_policy`. -/
theorem validatePolicy_eq (v : Json) :
    validatePolicy v =
      (filledPolicy v >>= fun p ↦ checkPolicyRanges p >>= fun _ ↦ limitedPolicy p) := by
  simp only [validatePolicy, filledPolicy, checkPolicyRanges, limitedPolicy, bind_assoc, pure_bind]
  rfl

/-- The exception the handlers mean to raise. -/
abbrev IsInvalidParams (e : AwikiError) : Prop := e.kind = .invalidParams

/-- There are no keys beside the known ones. -/
theorem extraKeys_isEmpty {given : Obj} :
    (((dictKeys given).filter fun k ↦ !POLICY_KEYS.contains k).insertionSort
      (· ≤ ·)).isEmpty = true ↔ ∀ k, given.has k = true → k ∈ POLICY_KEYS := by
  have hlength := (((dictKeys given).filter fun k ↦ !POLICY_KEYS.contains k).perm_insertionSort
    (· ≤ ·)).length_eq
  rw [List.isEmpty_iff_length_eq_zero, hlength, List.length_eq_zero_iff, List.filter_eq_nil_iff]
  exact forall_congr' fun k ↦ by simp [mem_dictKeys]

/-- Both profiles are the one there is. -/
theorem secured_iff {p : Obj} :
    ((p.get "message_security_profile").isStr "transport-protected" &&
      (p.get "bootstrap_security_profile").isStr "transport-protected") = true ↔ Secured p := by
  rw [Bool.and_eq_true, Json.isStr_iff, Json.isStr_iff]
  exact ⟨fun h ↦ ⟨h.1, h.2⟩, fun h ↦ ⟨h.message, h.bootstrap⟩⟩

/-- The keys are those, and no others. -/
theorem hasKeys_iff {o : Obj} :
    ((dictKeys o).all PERMISSION_KEYS.contains && PERMISSION_KEYS.all fun k ↦ Obj.has o k) = true ↔
      HasKeys o PERMISSION_KEYS := by
  rw [Bool.and_eq_true, List.all_eq_true, List.all_eq_true]
  constructor
  · rintro ⟨hallowed, hall⟩ k
    exact ⟨fun hk ↦ by simpa using hallowed k (mem_dictKeys.mpr hk), hall k⟩
  · intro h
    exact ⟨fun k hk ↦ by simpa using (h k).mp (mem_dictKeys.mp hk), fun k hk ↦ (h k).mpr hk⟩

/-- The first part, passed. -/
theorem filledPolicy_eq_ok {v : Json} {p : Obj} :
    filledPolicy v = .ok p ↔ ∃ given, v = .obj given ∧
      (∀ k, Obj.has given k = true → k ∈ POLICY_KEYS) ∧ Secured p ∧
      p = Obj.merge DEFAULT_POLICY given := by
  simp only [filledPolicy, bind_eq_ok, orRaise_eq_ok, require_eq_ok, pure_eq_ok, Json.obj?_eq_some,
    extraKeys_isEmpty, secured_iff]
  constructor
  · rintro ⟨given, hv, -, hkeys, -, hsecured, rfl⟩
    exact ⟨given, hv, hkeys, hsecured, rfl⟩
  · rintro ⟨given, hv, hkeys, hsecured, rfl⟩
    exact ⟨given, hv, (), hkeys, (), hsecured, rfl⟩

/-- It raises nothing else. -/
theorem filledPolicy_raisesOnly (v : Json) : RaisesOnly IsInvalidParams (filledPolicy v) := by
  simp [filledPolicy, AwikiError.invalidParams]

/-- One permission, passed. -/
theorem permissionRole_eq_ok {o : Obj} {k : String} :
    permissionRole o k = .ok () ↔ NamesRole (o.get k) := by
  simp only [permissionRole, bind_eq_ok, requireRole_eq_ok, pure_eq_ok, and_true]
  rfl

/-- It raises something else where its value cannot be hashed. -/
theorem permissionRole_raisesOnly {o : Obj} {k : String} :
    RaisesOnly IsInvalidParams (permissionRole o k) ↔ (o.get k).hashable = true := by
  rw [permissionRole, raisesOnly_bind, requireRole_raisesOnly (P := IsInvalidParams) rfl]
  simp [AwikiError.type, IsInvalidParams]

/-- The second part, passed. -/
theorem checkPolicyRanges_eq_ok {p : Obj} {u : Unit} :
    checkPolicyRanges p = .ok u ↔ AdmissionKnown p ∧
      ∃ o, PermissionsAre p o ∧ ∀ k ∈ PERMISSION_KEYS, NamesRole (o.get k) := by
  simp only [checkPolicyRanges, bind_eq_ok, require_eq_ok, orRaise_eq_ok, Json.obj?_eq_some,
    hasKeys_iff, forM_eq_ok, permissionRole_eq_ok]
  constructor
  · rintro ⟨_, hadmission, -, rfl, o, hfound, -, hkeys, hroles⟩
    exact ⟨inSet_eq_true.mp hadmission, o, ⟨hfound, hkeys⟩, fun k hk ↦
      hroles k (mem_dictKeys.mpr ((hkeys k).mpr hk))⟩
  · rintro ⟨hadmission, o, ⟨hfound, hkeys⟩, hroles⟩
    exact ⟨true, inSet_eq_true.mpr hadmission, (), rfl, o, hfound, (), hkeys, fun k hk ↦
      hroles k ((hkeys k).mp (mem_dictKeys.mp hk))⟩

/-- **When it raises nothing else.** -/
theorem checkPolicyRanges_raisesOnly {p : Obj} :
    RaisesOnly IsInvalidParams (checkPolicyRanges p) ↔
      (p.get "admission_mode").hashable = true ∧
        (AdmissionKnown p → ∀ o, PermissionsAre p o → ∀ before k after,
          dictKeys o = before ++ k :: after → (∀ j ∈ before, NamesRole (o.get j)) →
            (o.get k).hashable = true) := by
  simp only [checkPolicyRanges, raisesOnly_bind, inSet_raisesOnly, raisesOnly_require,
    raisesOnly_orRaise, raisesOnly_forM_iff, require_eq_ok, orRaise_eq_ok, Json.obj?_eq_some,
    hasKeys_iff, permissionRole_eq_ok, permissionRole_raisesOnly, IsInvalidParams,
    AwikiError.invalidParams, AwikiError.type, implies_true, true_and]
  constructor
  · rintro ⟨hhashable, h⟩
    refine ⟨by simpa using hhashable, fun hadmission o ho ↦ ?_⟩
    exact h true (inSet_eq_true.mpr hadmission) () rfl o ho.found () ho.keys
  · rintro ⟨hhashable, h⟩
    refine ⟨by simp [hhashable], fun admission hadmission _ htrue o hfound _ hkeys ↦ ?_⟩
    subst htrue
    exact h (inSet_eq_true.mp hadmission) o ⟨hfound, hkeys⟩

/-- The third part, passed. -/
theorem limitedPolicy_eq_ok {p q : Obj} :
    limitedPolicy p = .ok q ↔ ∃ n : ℕ, intOf (p.getD "max_members" (.int MAX_MEMBERS)) = .ok n ∧
      1 ≤ n ∧ n ≤ 100 ∧ (∃ b, p.getD "attachments_allowed" (.bool false) = .bool b) ∧
      q = p.set "max_members" (.str (toString n)) := by
  have hattachments : ∀ n : ℤ, (p.set "max_members" (.str (toString n))).getD
      "attachments_allowed" (.bool false) = p.getD "attachments_allowed" (.bool false) := by
    intro n
    rw [Obj.getD, Obj.lookup_set, if_neg (by decide), Obj.getD]
  have hbool : ∀ v : Json, (match v with
      | .bool _ => true
      | _ => false) = true ↔ ∃ b, v = .bool b := by
    intro v
    cases v <;> simp
  rw [limitedPolicy]
  cases hint : intOf (p.getD "max_members" (.int MAX_MEMBERS)) with
  | error e => cases e <;> simp
  | ok m =>
    simp only [ok_bind, bind_eq_ok, require_eq_ok, pure_eq_ok, hattachments, hbool,
      Bool.and_eq_true, decide_eq_true_eq]
    constructor
    · rintro ⟨-, ⟨hone, hmax⟩, -, hb, rfl⟩
      obtain ⟨n, rfl⟩ := Int.eq_ofNat_of_zero_le (zero_le_one.trans hone)
      exact ⟨n, rfl, Int.ofNat_le.mp hone, Int.ofNat_le.mp hmax, hb, rfl⟩
    · rintro ⟨n, hn, hone, hmax, hb, rfl⟩
      obtain rfl := Except.ok.inj hn
      exact ⟨(), ⟨Int.ofNat_le.mpr hone, Int.ofNat_le.mpr hmax⟩, (), hb, rfl⟩

/-- It raises something else where the limit is infinite. -/
theorem limitedPolicy_raisesOnly {p : Obj} :
    RaisesOnly IsInvalidParams (limitedPolicy p) ↔
      ¬ (p.getD "max_members" (.int MAX_MEMBERS) = .float .posInf ∨
        p.getD "max_members" (.int MAX_MEMBERS) = .float .negInf) := by
  rw [← intOf_overflow, limitedPolicy]
  cases h : intOf (p.getD "max_members" (.int MAX_MEMBERS)) with
  | ok n => simp [AwikiError.invalidParams]
  | error e => cases e <;> simp [AwikiError.invalidParams, AwikiError.value]

/-! ### The validator as a whole -/

/-- The default policy has every key. -/
theorem defaultPolicy_hasKeys : HasKeys DEFAULT_POLICY POLICY_KEYS := by
  intro k
  rw [← mem_dictKeys, show dictKeys DEFAULT_POLICY = POLICY_KEYS by decide]

/-- The keys of a merge are those of both. -/
theorem has_merge (a b : Obj) (k : String) : (a.merge b).has k = (b.has k || a.has k) := by
  rw [Obj.has, Obj.lookup_merge, Option.isSome_or, Obj.has, Obj.has]

/-- Where there is a key, the default does not matter. -/
theorem getD_of_has {o : Obj} {k : String} (h : o.has k = true) (d : Json) :
    o.getD k d = o.get k := by
  obtain ⟨v, hv⟩ := Option.isSome_iff_exists.mp h
  simp [Obj.get, Obj.getD, hv]

/-- Filled up with the defaults, a policy has every key. -/
theorem filledPolicy_hasKeys {given : Obj}
    (h : ∀ k, given.has k = true → k ∈ POLICY_KEYS) :
    HasKeys (Obj.merge DEFAULT_POLICY given) POLICY_KEYS := by
  intro k
  rw [has_merge, Bool.or_eq_true, defaultPolicy_hasKeys k]
  exact ⟨fun hk ↦ hk.elim (h k) id, .inr⟩

/-- **Nothing but `InvalidParams` is raised**, unless the value escapes the check. -/
theorem validatePolicy_raisesOnly (v : Json) :
    RaisesOnly IsInvalidParams (validatePolicy v) ↔ ¬ PolicyCheckEscaped v := by
  have hmax : ∀ {p}, HasKeys p POLICY_KEYS →
      p.getD "max_members" (.int MAX_MEMBERS) = p.get "max_members" := fun hkeys ↦
    getD_of_has ((hkeys _).mpr (by decide)) _
  rw [validatePolicy_eq]
  simp only [raisesOnly_bind, filledPolicy_raisesOnly, true_and, checkPolicyRanges_raisesOnly,
    limitedPolicy_raisesOnly, checkPolicyRanges_eq_ok, filledPolicy_eq_ok]
  constructor
  · rintro h ⟨given, rfl, hallowed, hsecured, hescapes⟩
    obtain ⟨⟨hmode, hroles⟩, hlimit⟩ := h _ ⟨given, rfl, hallowed, hsecured, rfl⟩
    cases hescapes with
    | admission hunhashable =>
      rw [hmode] at hunhashable
      cases hunhashable
    | role o before after k hadmission hpermissions hsplit hbefore hunhashable =>
      rw [hroles hadmission o hpermissions before k after hsplit hbefore] at hunhashable
      cases hunhashable
    | limit o hadmission hpermissions hnamed hinfinite =>
      refine hlimit () ⟨hadmission, o, hpermissions, hnamed⟩ ?_
      rwa [hmax (filledPolicy_hasKeys hallowed)]
  · rintro h _ ⟨given, rfl, hallowed, hsecured, rfl⟩
    have hnot : ¬ EscapesPolicyCheck (Obj.merge DEFAULT_POLICY given) := fun hescapes ↦
      h ⟨given, rfl, hallowed, hsecured, hescapes⟩
    refine ⟨⟨?_, ?_⟩, ?_⟩
    · by_contra hunhashable
      exact hnot (.admission (by simpa using hunhashable))
    · intro hadmission o hpermissions before k after hsplit hbefore
      by_contra hunhashable
      exact hnot (.role o before after k hadmission hpermissions hsplit hbefore
        (by simpa using hunhashable))
    · rintro _ ⟨hadmission, o, hpermissions, hnamed⟩ hinfinite
      rw [hmax (filledPolicy_hasKeys hallowed)] at hinfinite
      exact hnot (.limit o hadmission hpermissions hnamed hinfinite)

/-- **What the validator returns is valid.** -/
theorem validatePolicy_valid {v : Json} {p : Obj} (h : validatePolicy v = .ok p) :
    ValidPolicy p := by
  rw [validatePolicy_eq] at h
  obtain ⟨filled, hfilled, h⟩ := bind_eq_ok.mp h
  obtain ⟨_, hranges, hlimited⟩ := bind_eq_ok.mp h
  obtain ⟨given, -, hallowed, hsecured, rfl⟩ := filledPolicy_eq_ok.mp hfilled
  obtain ⟨hadmission, o, hpermissions, hroles⟩ := checkPolicyRanges_eq_ok.mp hranges
  obtain ⟨n, -, hone, hmax, ⟨b, hb⟩, rfl⟩ := limitedPolicy_eq_ok.mp hlimited
  have hkeys := filledPolicy_hasKeys hallowed
  have hsame : ∀ {k}, k ≠ "max_members" →
      ((Obj.merge DEFAULT_POLICY given).set "max_members" (.str (toString n))).get k =
        (Obj.merge DEFAULT_POLICY given).get k := fun hk ↦ Obj.get_set_of_ne _ _ hk
  rw [getD_of_has ((hkeys _).mpr (by decide))] at hb
  exact
    { keys := fun k ↦ by
        rw [Obj.has, Obj.lookup_set]
        split
        · rename_i hk
          exact iff_of_true rfl (hk ▸ by decide)
        · exact hkeys k
      secured := ⟨(hsame (by decide)).trans hsecured.message,
        (hsame (by decide)).trans hsecured.bootstrap⟩
      admission := by rwa [AdmissionKnown, hsame (by decide)]
      permissions := ⟨o, ⟨(hsame (by decide)).trans hpermissions.found, hpermissions.keys⟩, hroles⟩
      attachments := ⟨b, (hsame (by decide)).trans hb⟩
      limit := ⟨n, hone, hmax, Obj.get_set_self _ _ _⟩ }

/-- **A valid policy is left as it is.** -/
theorem validatePolicy_of_valid {p : Obj} (h : ValidPolicy p) :
    ∃ q, validatePolicy (.obj p) = .ok q ∧ Obj.Equiv q p := by
  have hlookup : ∀ k, (Obj.merge DEFAULT_POLICY p).lookup k = p.lookup k := by
    intro k
    rw [Obj.lookup_merge]
    cases hk : p.lookup k with
    | some v => rfl
    | none =>
      rw [Option.none_or, ← Option.not_isSome_iff_eq_none]
      intro hdefault
      have hhas := (h.keys k).mpr ((defaultPolicy_hasKeys k).mp hdefault)
      rw [Obj.has, hk] at hhas
      cases hhas
  have hget : ∀ k, (Obj.merge DEFAULT_POLICY p).get k = p.get k := fun k ↦ by
    rw [Obj.get, Obj.getD, hlookup, Obj.get, Obj.getD]
  have hgetD : ∀ {k}, k ∈ POLICY_KEYS → ∀ d, (Obj.merge DEFAULT_POLICY p).getD k d = p.get k :=
    fun hk d ↦ by rw [← hget, getD_of_has (by rw [Obj.has, hlookup]; exact (h.keys _).mpr hk)]
  obtain ⟨o, hpermissions, hroles⟩ := h.permissions
  obtain ⟨b, hb⟩ := h.attachments
  obtain ⟨n, hone, hmax, hn⟩ := h.limit
  have hfilled : filledPolicy (.obj p) = .ok (Obj.merge DEFAULT_POLICY p) :=
    filledPolicy_eq_ok.mpr ⟨p, rfl, fun k hk ↦ (h.keys k).mp hk,
      ⟨(hget _).trans h.secured.message, (hget _).trans h.secured.bootstrap⟩, rfl⟩
  have hranges : checkPolicyRanges (Obj.merge DEFAULT_POLICY p) = .ok () :=
    checkPolicyRanges_eq_ok.mpr ⟨by rw [AdmissionKnown, hget]; exact h.admission, o,
      ⟨(hget _).trans hpermissions.found, hpermissions.keys⟩, hroles⟩
  have hlimited : limitedPolicy (Obj.merge DEFAULT_POLICY p) =
      .ok ((Obj.merge DEFAULT_POLICY p).set "max_members" (.str (toString n))) :=
    limitedPolicy_eq_ok.mpr ⟨n, by rw [hgetD (by decide), hn, intOf_toString], hone, hmax,
      ⟨b, (hgetD (by decide) _).trans hb⟩, rfl⟩
  refine ⟨_, by rw [validatePolicy_eq, hfilled, ok_bind, hranges, ok_bind, hlimited],
    Obj.Equiv.of_lookup_eq fun k ↦ ?_⟩
  rw [Obj.lookup_set]
  split
  · rename_i hk
    rw [hk, Obj.lookup_of_get_eq_str hn]
  · exact hlookup k

/-! ### Stored policies -/

/-- A valid policy has a role for every permission, so the check only compares levels. -/
theorem requirePermission_of_valid {group : HostedGroup} (h : ValidPolicy group.policy)
    (member : HostedMember) {permission : String} (hk : permission ∈ PERMISSION_KEYS) :
    ∃ minimum : Role, requirePermission group member permission =
      require (decide (minimum.level ≤ member.role.level))
        (.unauthorized "group.permission_denied" [("permission", .str permission)]) := by
  obtain ⟨o, ho, hroles⟩ := h.permissions
  obtain ⟨role, hrole⟩ := hroles permission hk
  refine ⟨role, ?_⟩
  rw [requirePermission, ho.found, Json.obj?_obj, orRaise_some, ok_bind,
    requireRole_eq_ok.mpr hrole, ok_bind]

/-- And a limit that reads as a number. -/
theorem policyMaxMembers_of_valid {p : Obj} (h : ValidPolicy p) :
    ∃ n : ℕ, policyMaxMembers p = .ok n ∧ 1 ≤ n ∧ n ≤ 100 := by
  obtain ⟨n, hone, hmax, hn⟩ := h.limit
  refine ⟨n, ?_, hone, hmax⟩
  rw [policyMaxMembers, Obj.lookup_of_get_eq_str hn, orRaise_some, ok_bind, intOrRaise,
    intOf_toString]

/-- Every policy is one of before, or has just been validated. -/
def PoliciesFrom (st st' : Store) : Prop :=
  ∀ g ∈ st'.hostedGroups, (∃ g₀ ∈ st.hostedGroups, g.policy = g₀.policy) ∨
    ∃ v, validatePolicy v = .ok g.policy

/-- No policy has been written. -/
theorem PoliciesFrom.of_eq {st st' : Store} (h : st'.hostedGroups = st.hostedGroups) :
    PoliciesFrom st st' := fun g hg ↦ .inl ⟨g, h ▸ hg, rfl⟩

/-- An advance that writes no policy but a validated one. -/
theorem Advance.policiesFrom {settings : Settings} {st st' : Store} (a : Advance settings st st')
    (hlog : HostLogInv st) (h : (a.update a.group).policy = a.group.policy ∨
      ∃ v, validatePolicy v = .ok (a.update a.group).policy) : PoliciesFrom st st' := by
  intro g hg
  rcases a.mem_groups hlog.groups_keyed hg with rfl | ⟨hg, -⟩
  · exact h.imp_left fun hsame ↦ ⟨a.group, Table.mem_of_row? a.found, hsame⟩
  · exact .inl ⟨g, hg, rfl⟩

/-- **The step lemma**: a policy is written by a creation or a policy update, validated. -/
theorem HostedAccepted.policiesFrom {settings : Settings} {st st' : Store} {call : HostedCall}
    {result : Obj} (h : HostedAccepted settings st call result st') (hlog : HostLogInv st) :
    PoliciesFrom st st' := by
  -- Every tail but that of a policy update leaves the policy of the group as it was.
  cases h with
  | replayed s hs ctx scope hmethod hreplay hsame => exact .of_eq (by rw [hsame])
  | created ctx groupDid keyPath document profile policy creator prepared limit hmethod hctx hpolicy
      hprepared hlimit hcount hdomain hcommit =>
    obtain ⟨c, -, -, -, -, rfl, -⟩ := commitCreate_creation hcommit hctx.method_eq hdomain
    intro g hg
    rw [c.groups] at hg
    rcases List.mem_append.mp hg with hg | hg
    · exact .inl ⟨g, hg, rfl⟩
    · exact .inr (List.mem_singleton.mp hg ▸ hpolicy)
  | admitted ctx group a home limit hmethod hctx hgroup hreplay hhome hinactive hlimit hcount hfree
      hcapacity haccept =>
    have hsend : call.method ≠ .send := by rcases hmethod with hm | hm <;> simp [hm]
    obtain ⟨adv, -, rfl, -, hupdate, -, -⟩ := acceptStateChange_of_checked hsend hctx hgroup
      (activation_wellformed group a) (rosterStep_admitted hmethod) haccept
    exact adv.policiesFrom hlog (.inl (by rw [hupdate]; rfl))
  | ended ctx group targetDid hmethod hctx hgroup hreplay htarget hcapacity haccept =>
    have hsend : call.method ≠ .send := by rcases hmethod with hm | hm <;> simp [hm]
    obtain ⟨adv, -, rfl, -, hupdate, -, -⟩ := acceptStateChange_of_checked hsend hctx hgroup
      (departure_wellformed hmethod targetDid) (rosterStep_ended hmethod htarget) haccept
    exact adv.policiesFrom hlog (.inl (by rw [hupdate]; rfl))
  | rebound ctx group binding member previousDid newDid home hmethod hctx hgroup hreplay hprevious
      hnew hhome hmember hhandle hmemberActive hfresh hcapacity haccept =>
    obtain ⟨adv, -, rfl, -, hupdate, -, -⟩ := acceptStateChange_of_checked (by simp [hmethod])
      hctx hgroup (rebinding_wellformed binding previousDid newDid)
      (hmethod ▸ .rebound previousDid newDid home binding (Table.row?_eq_none.mp hfresh)) haccept
    exact adv.policiesFrom hlog (.inl (by rw [hupdate]; rfl))
  | updated ctx group patch value hmethod hctx hgroup hreplay hcapacity hvalue haccept =>
    have hsend : call.method ≠ .send := by rcases hmethod with hm | hm <;> simp [hm]
    obtain ⟨hwell, hdeparted⟩ := groupUpdate_wellformed hmethod value
    have hsame : RosterStep group.groupDid st.hostedGroupMembers call.method
        (groupUpdate call.method value).departed st.hostedGroupMembers := by
      rw [hdeparted]
      exact .same (by rcases hmethod with hm | hm <;> simp [hm])
    obtain ⟨adv, -, rfl, -, hupdate, -, -⟩ :=
      acceptStateChange_of_checked hsend hctx hgroup hwell hsame haccept
    refine adv.policiesFrom hlog ?_
    rw [hupdate]
    rcases hmethod with hm | hm
    · exact .inl (by rw [hm]; rfl)
    · rw [hm] at hvalue ⊢
      exact .inr ⟨_, hvalue⟩
  | sent ctx group messageId contentType hmethod hctx hmessageId hcontentType hcheck hgroup hreplay
      hcapacity hfresh haccept =>
    obtain ⟨hfound, -, hprofile, hactive⟩ := groupRow_eq_ok hgroup
    obtain ⟨adv, -, rfl, -, -, -, -, -, hupdate, -, -⟩ := acceptMessage_advance haccept hfound
      hprofile hactive (hctx.method_eq.trans hmethod)
    exact adv.policiesFrom hlog (.inl (by rw [hupdate]; rfl))

/-- **Every step of the Host.** -/
theorem HostStep.policiesFrom {settings : Settings} {w w' : HostWorld} {a : HostAction}
    (h : HostStep settings w a w') (hlog : HostLogInv w.store) : PoliciesFrom w.store w'.store := by
  cases h with
  | call c hseen hreplayed =>
    show PoliciesFrom w.store (afterCall settings w.store c)
    unfold afterCall
    split
    · rename_i result st' hcall
      exact (hostedCall_accepted hcall).policiesFrom hlog
    · exact .of_eq rfl
  | beginDrain => exact .of_eq rfl
  | attempt => exact .of_eq rfl
  | endDrain => exact .of_eq rfl
  | elsewhere st h => exact .of_eq h.hostedGroups

/-- **In every reachable state, every stored policy is valid.** -/
theorem storedPolicies_valid {settings : Settings} {w₀ w : HostWorld} (h₀ : w₀.Initial)
    (h : Reaches (HostStep settings) w₀ w) : ∀ g ∈ w.store.hostedGroups, ValidPolicy g.policy := by
  refine (Reaches.invariant
    (I := fun v ↦ HostLogInv v.store ∧ ∀ g ∈ v.store.hostedGroups, ValidPolicy g.policy) h
    ⟨.initial h₀, by simp [h₀.hostedGroups]⟩ fun ⟨hlog, hvalid⟩ hs ↦
      ⟨hlog.step hs.storeStep, fun g hg ↦ ?_⟩).2
  rcases hs.policiesFrom hlog g hg with ⟨g₀, hg₀, hsame⟩ | ⟨v, hv⟩
  · exact hsame ▸ hvalid g₀ hg₀
  · exact validatePolicy_valid hv

/-- **Stored policies are usable.** For every value, the validator raises nothing but
`InvalidParams` and returns only valid policies, which it leaves as they are, exactly if the value
does not escape its checks. And in every reachable state of a Host every stored policy is valid: a
permission check compares two roles, and the limit is a number. -/
theorem stored_policies_usable (v : Json) :
    ((RaisesOnly IsInvalidParams (validatePolicy v) ∧
        ∀ p, validatePolicy v = .ok p → ValidPolicy p ∧
          ∃ q, validatePolicy (.obj p) = .ok q ∧ Obj.Equiv q p) ↔ ¬ PolicyCheckEscaped v) ∧
      ∀ (settings : Settings) (w₀ w : HostWorld), w₀.Initial → Reaches (HostStep settings) w₀ w →
        ∀ g ∈ w.store.hostedGroups, ValidPolicy g.policy ∧
          (∀ member, ∀ permission ∈ PERMISSION_KEYS, ∃ minimum : Role,
            requirePermission g member permission =
              require (decide (minimum.level ≤ member.role.level))
                (.unauthorized "group.permission_denied" [("permission", .str permission)])) ∧
          ∃ n : ℕ, policyMaxMembers g.policy = .ok n ∧ 1 ≤ n ∧ n ≤ 100 := by
  refine ⟨?_, fun settings w₀ w h₀ h g hg ↦ ?_⟩
  · rw [← validatePolicy_raisesOnly]
    exact and_iff_left fun p hp ↦
      ⟨validatePolicy_valid hp, validatePolicy_of_valid (validatePolicy_valid hp)⟩
  · have hvalid := storedPolicies_valid h₀ h g hg
    exact ⟨hvalid, fun member permission hk ↦ requirePermission_of_valid hvalid member hk,
      policyMaxMembers_of_valid hvalid⟩

/-- Alice lets only the owner post, and nobody join any more. -/
def restrictPolicy (seen : Store) : HostedCall :=
  callAs alice .updatePolicy
    (sampleParams alice "op-policy" "group" sampleGroup []
      [("group_policy_patch", .obj [("max_members", .str "2"),
        ("permissions", .obj [("send", .str "owner")])])])
    seen

/-- The Host afterwards. -/
def restrictedHost : HostWorld := HostWorld.sample.after .sample restrictPolicy

/-- It gets there. -/
theorem restrictedHost_reached : Reaches (HostStep .sample) .empty restrictedHost :=
  HostWorld.sample_reached.tail (.call (restrictPolicy _) List.prefix_rfl List.prefix_rfl)

/-- The merged policy is stored, and is usable: the check of each permission compares two roles. -/
theorem stored_policies_usable_restricted :
    restrictedHost.store.hostedGroups.map (fun g ↦ (g.groupStateVersion,
        (g.policy.get "max_members").isStr "2",
        (((g.policy.get "permissions").obj?.getD []).get "send").isStr "owner",
        (((g.policy.get "permissions").obj?.getD []).get "add").isStr "admin")) =
      [(3, true, true, true)] ∧
      ∀ g ∈ restrictedHost.store.hostedGroups, ValidPolicy g.policy ∧
        (∀ member, ∀ permission ∈ PERMISSION_KEYS, ∃ minimum : Role,
          requirePermission g member permission =
            require (decide (minimum.level ≤ member.role.level))
              (.unauthorized "group.permission_denied" [("permission", .str permission)])) ∧
        ∃ n : ℕ, policyMaxMembers g.policy = .ok n ∧ 1 ≤ n ∧ n ≤ 100 :=
  ⟨by decide +kernel, (stored_policies_usable .null).2 .sample .empty restrictedHost
    HostWorld.empty_initial restrictedHost_reached⟩

/-- A list as admission mode cannot be looked for in a set. -/
theorem unhashable_mode_escapes :
    ∃ e, validatePolicy (.obj [("admission_mode", .arr [])]) = .error e ∧ ¬ IsInvalidParams e :=
  ⟨_, rfl, by decide⟩

end Awiki
