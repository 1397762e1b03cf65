import AwikiOpenServer.Lib.Commits
import AwikiOpenServer.UserCompat.Identity

/-!
# Rotation of tokens

`_rotate_tokens_for_did` gives an identity a new pair of tokens in one locked transaction, which
checks that the identity is active **and nothing else**. `refresh_access_token` comes before it on a
connection of its own: it looks the presented refresh token up, and keeps only the DID it belongs
to. So two refreshes with one token that both look it up before either rotates both succeed
(`refresh_token_rotated_twice`). A refresh token is used once along every run in which it still
belongs, when the rotation takes the lock, to the identity it was found for
(`refresh_tokens_rotate_once`).

Along every run, whatever the order, the pair an identity was last given is the only one that its
row holds (`LatestPairStored`).

## What a refresh token is

A row has two columns of tokens and can be refreshed with the one of them that the query accepts:
its refresh token, or its plain token while it has no other. `User.refreshValue` is that one value,
and the invariant is that no two rows can be refreshed with the same (`TokensDistinct`), which the
uniqueness of the columns does not say. It is kept because every rotation draws a text that is new
to the run (`drawsFresh`): nobody has presented it, and no row has it. In the source it is random.

## Causes of a rotation

Three requests rotate: a refresh, a login that has verified a DID, and `get_me` when it is asked for
tokens. They come to the transaction with a DID and perhaps the device whose signature let them in;
only a refresh has presented a token. The effect of the transaction is the same (`RotationEffect`),
and so the count of rotations a token has brought goes by the cause.

The two halves of the result rest on different things. That a token is used once needs the condition
on reads (`refreshAsRead`). That the latest pair is the only one accepted needs none: the
transaction writes both columns at once, whatever they held.
-/

namespace Awiki

open Py Transactions

/-- How long an access token lasts, -/
def ACCESS_TOKEN_TTL_SECONDS : ℕ := 3600

/-- and a refresh token. -/
def REFRESH_TOKEN_TTL_SECONDS : ℕ := 30 * 24 * 3600

/-- `_token_payload`: the fields that vary. -/
structure TokenPayload where
  did : String
  accessToken : String
  refreshToken : String
  accessExpiresAt : String
  refreshExpiresAt : String
  userId : String

/-- What brings a rotation about. -/
inductive RotationCause where
  /-- `refresh_access_token`. -/
  | refresh
  /-- `did_verify_login`. -/
  | login
  /-- `get_me` with an HTTP signature, once the caller is known. -/
  | me (caller : Caller)

/-- A request that rotates, with the tokens it draws. -/
structure RotationRequest extends IdentityRequest where
  cause : RotationCause

section Handlers

variable (out : IdentityOutside)

/-- `UPDATE users SET token = ?, refresh_token = ?, …`: both columns are unique. -/
def setTokens (p : TokenPayload) (st : Store) : Result Store := do
  require (st.users.all fun u ↦
      u.did = p.did || (u.token ≠ p.accessToken && u.refreshToken ≠ some p.refreshToken))
    (.integrity "users.token")
  return { st with
    users := Table.updateWhere (fun u ↦ decide (u.did = p.did))
      (fun u ↦ { u with
        token := p.accessToken
        refreshToken := some p.refreshToken
        accessExpiresAt := some p.accessExpiresAt
        refreshExpiresAt := some p.refreshExpiresAt }) st.users }

/-- The access token of a rotation, and the user it names: a plain token, or one signed for the
device the identity is bound to. -/
def drawAccessToken (req : IdentityRequest) (did : String) (signed : Option SingleDeviceAccount)
    (manifest : Option SingleDeviceManifest) (st : Store) : Result (String × String × Store) :=
  match manifest with
  | none => .ok (req.newToken, did, st)
  | some manifest => do
    let account := deviceAccount out did manifest
    require (signed.all (· = account)) (.unauthorized "device_authorization_invalid")
    let st ← bindDeviceAccount account (signed = some account) st
    return (req.issueDeviceToken account, account.accountId, st)

/-- `_rotate_tokens_for_did`, under the lock. -/
def rotateTokensForDid (req : IdentityRequest) (did : String) (signed : Option SingleDeviceAccount)
    (st : Store) : Result (TokenPayload × Store) := do
  let (_, row) ← orRaise (.unauthorized "did_not_found") (st.activeUser? fun u ↦ u.did = did)
  let manifest ← storedManifest out row
  let (accessToken, userId, st) ← drawAccessToken out req did signed manifest st
  let payload : TokenPayload :=
    { did := did
      accessToken := accessToken
      refreshToken := req.newRefreshToken
      accessExpiresAt := req.futureIso ACCESS_TOKEN_TTL_SECONDS
      refreshExpiresAt := req.futureIso REFRESH_TOKEN_TTL_SECONDS
      userId := userId }
  let st ← setTokens payload st
  return (payload, st)

/-- The token a refresh presents. -/
@[irreducible] def refreshParam (req : IdentityRequest) : String :=
  String.ofList (stripChars (out.str ((((req.params.get "refresh_token").orElse
    (req.params.get "token")).orElse (req.params.get "access_token")).orElse (.str ""))).toList)

/-- `u.refresh_token = ? OR (u.refresh_token IS NULL AND u.token = ?)`. -/
def User.acceptsRefresh (raw : String) (u : User) : Bool :=
  u.refreshToken = some raw || (u.refreshToken.isNone && u.token = raw)

/-- `refresh_access_token`. -/
def refreshAccessToken (req : IdentityRequest) : Statements TokenPayload := do
  let raw := refreshParam out req
  check (require (raw ≠ "") (.invalidParams "refresh_token_required"))
  let found ← .query fun st ↦ st.activeUser? (User.acceptsRefresh raw)
  let (user, _) ← check (orRaise (.unauthorized "invalid_refresh_token")
    (found.filter fun f ↦ !req.isPast f.1.refreshExpiresAt))
  .locked (rotateTokensForDid out req user.did none)

/-- `_validate_local_user_did`. -/
@[irreducible] def validateLocalUserDid (did : String) : Result String := do
  let value := String.ofList (stripChars did.toList)
  let parts := (splitChars ':' value.toList).map String.ofList
  let domain := out.lower (parts.getD 2 "")
  let expected := out.settings.didDomain
  require (startsWith "did:wba:" value) (.invalidParams "valid_did_required")
  require (domain = out.lower expected) (.invalidParams "did_domain_mismatch"
    [("expected", .str expected), ("actual", .str domain)])
  require (3 < parts.length && startsWith "e1_" (parts.getLastD ""))
    (.invalidParams "did_e1_required")
  require (value ≠ out.settings.serviceDid && !(["group", "groups", "service", "services"].contains
    (out.lower (out.unquote (parts.getD 3 ""))))) (.invalidParams "did_namespace_reserved")
  return value

/-- `str(params.get(key) or "").strip()`. -/
@[irreducible] def strippedParam (req : IdentityRequest) (key : String) : String :=
  String.ofList (stripChars (out.str ((req.params.get key).orElse (.str ""))).toList)

/-- `did_verify_login`. -/
def didVerifyLogin (req : IdentityRequest) : Statements TokenPayload := do
  let did := strippedParam out req "did"
  let code := strippedParam out req "code"
  check (require (did ≠ "" && code ≠ "") (.invalidParams "did_and_code_required"))
  let _ ← check (validateLocalUserDid out did)
  check (require (code = out.didVerifyDevCode) (.unauthorized "invalid_code"))
  let found ← .query fun st ↦ st.activeUser? fun u ↦ u.did = did
  check (require found.isSome (.unauthorized "did_not_found"))
  .locked (rotateTokensForDid out req did none)

/-- The rotation of `get_me`: the caller's profile and document are read before it. -/
def getMeTokens (req : IdentityRequest) (caller : Caller) : Statements TokenPayload := do
  let profile ← .query fun st ↦
    (st.activeUser? fun u ↦ u.did = caller.did).bind fun _ ↦
      Table.row? ProfileRow.did caller.did st.profiles
  check (require profile.isSome ⟨.userServiceNotFound, "DID not found",
    [("code", .str "did_not_found"), ("resource", .str "did"), ("did", .str caller.did)]⟩)
  let document ← .query fun st ↦ st.activeDocument? caller.did
  check (require document.isSome (.unauthorized "did_not_found"))
  .locked (rotateTokensForDid out req caller.did caller.signedDevice)

/-- The program of a request. -/
def serveRotation (r : RotationRequest) : Statements TokenPayload :=
  match r.cause with
  | .refresh => refreshAccessToken out r.toIdentityRequest
  | .login => didVerifyLogin out r.toIdentityRequest
  | .me caller => getMeTokens out r.toIdentityRequest caller

/-- The refresh token a request presents. -/
def RotationRequest.presented (r : RotationRequest) : Option String :=
  match r.cause with
  | .refresh => some (refreshParam out r.toIdentityRequest)
  | _ => none

end Handlers

/-! ### The value a row can be refreshed with -/

/-- The value a row can be refreshed with. -/
def User.refreshValue (u : User) : String := u.refreshToken.getD u.token

/-- A row accepts that value, and no other. -/
theorem User.acceptsRefresh_iff {raw : String} {u : User} :
    u.acceptsRefresh raw = true ↔ u.refreshValue = raw := by
  unfold User.acceptsRefresh User.refreshValue
  cases u.refreshToken <;> simp

/-- Every identity has one row, and no two rows can be refreshed with one value. -/
structure TokensDistinct (st : Store) : Prop where
  keyed : Table.Keyed User.did st.users
  distinct : Table.Keyed User.refreshValue st.users

/-- Whom a refresh token belongs to. -/
def Store.refreshOwner? (st : Store) (raw : String) : Option String :=
  (Table.row? User.refreshValue raw st.users).map User.did

/-- **The presented token is as it was read**: it belongs, when the rotation takes the lock, to whom
it belonged at the look-up. -/
def refreshAsRead (out : IdentityOutside) (r : RotationRequest) (last : Option Store) (s : Store) :
    Bool :=
  match r.presented out with
  | none => true
  | some raw => last.map (·.refreshOwner? raw) = some (s.refreshOwner? raw)

/-- **The new refresh token is a new text**: nobody has presented it and no row can be refreshed
with it. -/
def drawsFresh (out : IdentityOutside) (h : List (RotationRequest × TokenPayload))
    (r : RotationRequest) (s : Store) : Bool :=
  (h.all fun e ↦ e.1.presented out ≠ some r.newRefreshToken) &&
    r.presented out ≠ some r.newRefreshToken &&
    s.users.all fun u ↦ u.refreshValue ≠ r.newRefreshToken

/-! ### What a commit does -/

/-- The effect of a rotation. -/
structure RotationEffect (out : IdentityOutside) (h : List (RotationRequest × TokenPayload))
    (r : RotationRequest) (s : Store) (p : TokenPayload) (s' : Store) : Prop where
  users : s'.users = Table.updateWhere (fun u ↦ decide (u.did = p.did))
    (fun u ↦ { u with
      token := p.accessToken
      refreshToken := some p.refreshToken
      accessExpiresAt := some p.accessExpiresAt
      refreshExpiresAt := some p.refreshExpiresAt }) s.users
  drawn : p.refreshToken = r.newRefreshToken
  fresh : drawsFresh out h r s = true
  distinct : TokensDistinct s
  /-- The presented token is the one the row of the identity can be refreshed with. -/
  presented : ∀ raw, r.presented out = some raw → ∃ u ∈ s.users, u.did = p.did ∧
    u.refreshValue = raw

section Effects

variable {out : IdentityOutside} {h : List (RotationRequest × TokenPayload)} {r : RotationRequest}
  {s s' : Store} {p : TokenPayload} {req : IdentityRequest} {did : String}
  {signed : Option SingleDeviceAccount} {u : User}

/-- A row after a rotation is another identity's old row, or the identity's with the new pair. -/
theorem RotationEffect.mem_users (e : RotationEffect out h r s p s') (hu : u ∈ s'.users) :
    (u.did ≠ p.did ∧ u ∈ s.users) ∨
      (u.did = p.did ∧ u.token = p.accessToken ∧ u.refreshToken = some p.refreshToken) := by
  rw [e.users] at hu
  obtain ⟨u₀, hu₀, heq⟩ := Table.mem_updateWhere.mp hu
  split at heq
  · rename_i hdid
    exact .inr (heq ▸ ⟨of_decide_eq_true hdid, rfl, rfl⟩)
  · rename_i hdid
    exact .inl (heq ▸ ⟨of_decide_eq_false (by simpa using hdid), hu₀⟩)

/-- No row had the new token. -/
theorem RotationEffect.fresh_of_mem (e : RotationEffect out h r s p s') (hu : u ∈ s.users) :
    u.refreshValue ≠ p.refreshToken := by
  have hfresh := e.fresh
  rw [drawsFresh, Bool.and_eq_true, List.all_eq_true] at hfresh
  rw [e.drawn]
  exact of_decide_eq_true (hfresh.2 u hu)

/-- **Rotations keep tokens distinct.** -/
theorem RotationEffect.tokensDistinct (e : RotationEffect out h r s p s') : TokensDistinct s' where
  keyed := by
    rw [e.users]
    exact e.distinct.keyed.updateWhere fun _ _ ↦ rfl
  distinct := by
    rw [e.users]
    cases hrow : Table.row? User.did p.did s.users with
    | none =>
      have hsame : ∀ u ∈ s.users, decide (u.did = p.did) = false := fun u hu ↦
        decide_eq_false (Table.row?_eq_none.mp hrow u hu)
      rw [Table.updateWhere_eq_self hsame]
      exact e.distinct.distinct
    | some u₀ =>
      refine e.distinct.distinct.updateWhere_rekey u₀.refreshValue p.refreshToken ?_
        (fun _ _ ↦ rfl) fun u hu ↦ e.fresh_of_mem hu
      intro u hu hdid
      have hsame : u = u₀ := e.distinct.keyed.eq_of_key_eq hu (Table.mem_of_row? hrow)
        ((of_decide_eq_true hdid).trans (Table.key_of_row? hrow).symm)
      rw [hsame]

/-- What a rotation that goes through has done. -/
theorem rotateTokensForDid_eq_ok (hok : rotateTokensForDid out req did signed s = .ok (p, s')) :
    p.did = did ∧ p.refreshToken = req.newRefreshToken ∧
      (∃ u d, s.activeUser? (fun u ↦ u.did = did) = some (u, d)) ∧
      s'.didDocuments = s.didDocuments ∧
      s'.users = Table.updateWhere (fun u ↦ decide (u.did = p.did))
        (fun u ↦ { u with
          token := p.accessToken
          refreshToken := some p.refreshToken
          accessExpiresAt := some p.accessExpiresAt
          refreshExpiresAt := some p.refreshExpiresAt }) s.users := by
  obtain ⟨⟨u, d⟩, hactive, hok⟩ := bind_eq_ok.mp hok
  obtain ⟨manifest, -, hok⟩ := bind_eq_ok.mp hok
  obtain ⟨⟨access, userId, s₁⟩, hdraw, hok⟩ := bind_eq_ok.mp hok
  obtain ⟨s₂, hset, hok⟩ := bind_eq_ok.mp hok
  obtain ⟨rfl, rfl⟩ := Prod.mk.inj (pure_eq_ok.mp hok)
  obtain ⟨_, -, hset⟩ := bind_eq_ok.mp hset
  obtain rfl := pure_eq_ok.mp hset
  obtain ⟨accounts, rfl⟩ : ∃ accounts, s₁ = { s with singleDeviceAccounts := accounts } := by
    unfold drawAccessToken at hdraw
    split at hdraw
    · obtain ⟨-, hrest⟩ := Prod.mk.inj (Except.ok.inj hdraw)
      exact ⟨s.singleDeviceAccounts, (Prod.mk.inj hrest).2.symm⟩
    · obtain ⟨_, -, hdraw⟩ := bind_eq_ok.mp hdraw
      obtain ⟨s₂, hbind, hdraw⟩ := bind_eq_ok.mp hdraw
      obtain ⟨-, hrest⟩ := Prod.mk.inj (pure_eq_ok.mp hdraw)
      obtain rfl := (Prod.mk.inj hrest).2
      exact (bindDeviceAccount_eq_ok hbind).2.2
  exact ⟨rfl, rfl, ⟨u, d, orRaise_eq_ok.mp hactive⟩, rfl, rfl⟩

/-- The condition of a run, as each request meets it. -/
def rotationAsRead (out : IdentityOutside) (h : List (RotationRequest × TokenPayload))
    (r : RotationRequest) (last : Option Store) (s : Store) : Bool :=
  refreshAsRead out r last s && drawsFresh out h r s

/-- The transaction owes the effect of a rotation, whoever brought it about. -/
theorem rotation_guarded {last : Option Store} {s₀ : Store}
    (hpresented : ∀ raw, r.presented out = some raw → refreshAsRead out r last s₀ = true →
      TokensDistinct s₀ → ∃ u ∈ s₀.users, u.did = did ∧ u.refreshValue = raw) :
    (Program.locked (rotateTokensForDid out r.toIdentityRequest did signed)).Guarded TokensDistinct
      (fun last s _ ↦ s = s₀ ∧ rotationAsRead out h r last s₀ = true) (fun _ _ ↦ True)
      (fun p s' ↦ RotationEffect out h r s₀ p s' ∧ TokensDistinct s') last := by
  refine Program.guarded_locked_iff.mpr fun s hs hC p s' hok ↦ ?_
  obtain ⟨rfl, hC⟩ := hC
  rw [rotationAsRead, Bool.and_eq_true] at hC
  obtain ⟨hdid, hdrawn, -, -, husers⟩ := rotateTokensForDid_eq_ok hok
  have heffect : RotationEffect out h r s p s' :=
    { users := husers, drawn := hdrawn, fresh := hC.2, distinct := hs,
      presented := fun raw hraw ↦ hdid ▸ hpresented raw hraw hC.1 hs }
  exact ⟨heffect, heffect.tokensDistinct⟩

section Guards

variable {I : Store → Prop} {R : Option Store → Store → Store → Prop}
  {Q : TokenPayload → Option Store → Prop} {W : TokenPayload → Store → Prop} {last : Option Store}

/-- A refresh rotates for whoever the look-up found. -/
theorem refreshAccessToken_guarded (h : ∀ read u d, I read →
      read.activeUser? (User.acceptsRefresh (refreshParam out req)) = some (u, d) →
      (Program.locked (rotateTokensForDid out req u.did none)).Guarded I R Q W (some read)) :
    (refreshAccessToken out req).Guarded I R Q W last := by
  refine guarded_bind_check fun _ _ ↦ Program.guarded_bind_query fun read hread ↦ ?_
  refine guarded_bind_check fun ⟨u, d⟩ hfound ↦ ?_
  exact h read u d hread (Option.filter_eq_some_iff.mp (orRaise_eq_ok.mp hfound)).1

/-- A login rotates for the DID it has verified. -/
theorem didVerifyLogin_guarded (h : ∀ read,
      (Program.locked (rotateTokensForDid out req (strippedParam out req "did") none)).Guarded
        I R Q W (some read)) :
    (didVerifyLogin out req).Guarded I R Q W last := by
  refine guarded_bind_check fun _ _ ↦ ?_
  refine guarded_bind_check fun _ _ ↦ ?_
  refine guarded_bind_check fun _ _ ↦ Program.guarded_bind_query fun read _ ↦ ?_
  exact guarded_bind_check fun _ _ ↦ h read

/-- `get_me` rotates for its caller. -/
theorem getMeTokens_guarded {caller : Caller} (h : ∀ read,
      (Program.locked (rotateTokensForDid out req caller.did caller.signedDevice)).Guarded
        I R Q W (some read)) :
    (getMeTokens out req caller).Guarded I R Q W last := by
  refine Program.guarded_bind_query fun _ _ ↦ guarded_bind_check fun _ _ ↦ ?_
  refine Program.guarded_bind_query fun read _ ↦ guarded_bind_check fun _ _ ↦ ?_
  exact h read

end Guards

/-- **Every request owes the effect of its rotation.** -/
theorem serveRotation_owes (r : RotationRequest) :
    Serving.Owes TokensDistinct (fun h r last s ↦ rotationAsRead out h r last s = true)
      (RotationEffect out) r (serveRotation out r) none := by
  intro h s
  unfold serveRotation
  split
  · rename_i hcause
    refine refreshAccessToken_guarded fun read u d hread hfound ↦ rotation_guarded ?_
    intro raw hraw hasRead hdistinct
    obtain rfl : refreshParam out r.toIdentityRequest = raw := by
      simpa [RotationRequest.presented, hcause] using hraw
    obtain ⟨hu, haccepts, -, -⟩ := activeUser?_eq_some hfound
    have howner : read.refreshOwner? (refreshParam out r.toIdentityRequest) = some u.did := by
      rw [Store.refreshOwner?, ← User.acceptsRefresh_iff.mp haccepts,
        hread.distinct.row?_of_mem hu]
      rfl
    have hsame : some (read.refreshOwner? (refreshParam out r.toIdentityRequest)) =
        some (s.refreshOwner? (refreshParam out r.toIdentityRequest)) := by
      simpa [refreshAsRead, hraw] using hasRead
    rw [howner] at hsame
    obtain ⟨u', hu', hdid⟩ := Option.map_eq_some_iff.mp (Option.some.inj hsame).symm
    exact ⟨u', Table.mem_of_row? hu', hdid, Table.key_of_row? hu'⟩
  · rename_i hcause
    refine didVerifyLogin_guarded fun read ↦ rotation_guarded fun raw hraw ↦ ?_
    simp [RotationRequest.presented, hcause] at hraw
  · rename_i caller hcause
    refine getMeTokens_guarded fun read ↦ rotation_guarded fun raw hraw ↦ ?_
    simp [RotationRequest.presented, hcause] at hraw

end Effects

/-! ### Rotated at most once -/

/-- A server of rotations. -/
abbrev RotationServer := Serving ℕ Store AwikiError RotationRequest TokenPayload

/-- How many rotations a refresh token has brought. -/
def rotationsOf (out : IdentityOutside) (raw : String)
    (history : List (RotationRequest × TokenPayload)) : ℕ :=
  history.countP fun e ↦ e.1.presented out = some raw

/-- The pair an identity was last given. -/
def latestPair? (did : String) (history : List (RotationRequest × TokenPayload)) :
    Option TokenPayload :=
  (history.reverse.find? fun e ↦ e.2.did = did).map Prod.snd

/-- Rows hold the pairs last given. -/
def LatestPairStored (history : List (RotationRequest × TokenPayload)) (s : Store) : Prop :=
  ∀ did p, latestPair? did history = some p → ∀ u ∈ s.users, u.did = did →
    u.token = p.accessToken ∧ u.refreshToken = some p.refreshToken

/-- The access token is accepted, and names the identity. -/
def Store.AcceptsAccess (st : Store) (did token : String) : Prop :=
  ∃ u d, st.activeUser? (fun u ↦ u.token = token) = some (u, d) ∧ u.did = did

/-- The refresh token is accepted, and names the identity. -/
def Store.AcceptsRefresh (st : Store) (did raw : String) : Prop :=
  ∃ u d, st.activeUser? (User.acceptsRefresh raw) = some (u, d) ∧ u.did = did

section History

variable {out : IdentityOutside} {h : List (RotationRequest × TokenPayload)} {st s : Store}

/-- The pair last given, after one more. -/
theorem latestPair?_append (did : String) (e : RotationRequest × TokenPayload) :
    latestPair? did (h ++ [e]) = if e.2.did = did then some e.2 else latestPair? did h := by
  rw [latestPair?, List.reverse_append, List.reverse_singleton, List.singleton_append,
    List.find?_cons]
  by_cases hdid : e.2.did = did
  · simp [hdid]
  · simp [hdid, latestPair?]

/-- **Along a serial history rows hold the pairs last given.** -/
theorem latestPairStored (hc : Chain (RotationEffect out) st h s) : LatestPairStored h s := by
  refine hc.invariant (I := LatestPairStored) (fun did p hp ↦ by cases hp) ?_
  intro h r s p s' hlatest heffect did q hq u hu hdid
  rw [latestPair?_append] at hq
  rcases heffect.mem_users hu with ⟨hne, hold⟩ | ⟨heq, htokens⟩
  · rw [if_neg fun hp ↦ hne (hdid.trans hp.symm)] at hq
    exact hlatest did q hq u hold hdid
  · rw [if_pos (heq.symm.trans hdid)] at hq
    obtain rfl := Option.some.inj hq
    exact htokens

/-- **Along a serial history a refresh token is rotated at most once**; once it was, no row can be
refreshed with it. -/
theorem rotationsOf_le_one (hc : Chain (RotationEffect out) st h s) (raw : String) :
    rotationsOf out raw h ≤ 1 ∧
      (0 < rotationsOf out raw h → ∀ u ∈ s.users, u.refreshValue ≠ raw) := by
  refine hc.invariant (I := fun h s ↦ rotationsOf out raw h ≤ 1 ∧
    (0 < rotationsOf out raw h → ∀ u ∈ s.users, u.refreshValue ≠ raw))
    ⟨Nat.zero_le _, fun h ↦ absurd h (Nat.lt_irrefl 0)⟩ ?_
  intro h r s p s' ⟨hle, hgone⟩ heffect
  have hfresh := heffect.fresh
  rw [drawsFresh, Bool.and_eq_true, Bool.and_eq_true, List.all_eq_true, decide_eq_true_eq,
    ← heffect.drawn] at hfresh
  obtain ⟨⟨hpast, hown⟩, -⟩ := hfresh
  have hvalue : ∀ u : User, u.refreshToken = some p.refreshToken →
    u.refreshValue = p.refreshToken :=
    fun u hu ↦ by rw [User.refreshValue, hu, Option.getD_some]
  rw [rotationsOf, List.countP_append, List.countP_singleton]
  cases hr : decide (r.presented out = some raw) with
  | false =>
    simp only [Bool.false_eq_true, if_false, Nat.add_zero]
    refine ⟨hle, fun hpos u hu ↦ ?_⟩
    rcases heffect.mem_users hu with ⟨-, hold⟩ | ⟨-, -, htoken⟩
    · exact hgone hpos u hold
    · -- the new token is none that was presented before
      rw [hvalue u htoken]
      rintro rfl
      obtain ⟨e, he, hpresented⟩ := List.countP_pos_iff.mp hpos
      exact of_decide_eq_true (hpast e he) (of_decide_eq_true hpresented)
  | true =>
    have hpresented := of_decide_eq_true hr
    obtain ⟨u₀, hu₀, hdid₀, hvalue₀⟩ := heffect.presented raw hpresented
    -- the row could still be refreshed with the token, so nobody has used it
    have hnone : List.countP (fun e ↦ decide (e.1.presented out = some raw)) h = 0 :=
      Nat.eq_zero_of_not_pos fun hpos ↦ hgone hpos u₀ hu₀ hvalue₀
    rw [hnone]
    refine ⟨Nat.le_refl 1, fun _ u hu ↦ ?_⟩
    rcases heffect.mem_users hu with ⟨hne, hold⟩ | ⟨-, -, htoken⟩
    · intro hsame
      have hrow : u = u₀ :=
        heffect.distinct.distinct.eq_of_key_eq hold hu₀ (hsame.trans hvalue₀.symm)
      exact hne (hrow ▸ hdid₀)
    · rw [hvalue u htoken]
      rintro rfl
      exact hown hpresented

end History

/-- **Refresh tokens are rotated at most once where they are as read.** In any interleaving of the
statements of refreshes, logins and signed `get_me` requests in which a refresh token still belongs,
when its rotation takes the lock, to whom it belonged at the look-up, each value brings at most one
rotation. And no token is accepted for an identity that was given a pair but those of its most
recent pair. -/
theorem refresh_tokens_rotate_once {out : IdentityOutside} {st : Store} {σ : RotationServer}
    (hst : TokensDistinct st)
    (h : Serving.Reachable (serveRotation out)
      (fun h r last s ↦ rotationAsRead out h r last s = true) st σ) :
    (∀ raw, rotationsOf out raw σ.history ≤ 1) ∧
    ∀ did p, latestPair? did σ.history = some p → ∀ token,
      (σ.world.committed.AcceptsAccess did token → token = p.accessToken) ∧
      (σ.world.committed.AcceptsRefresh did token → token = p.refreshToken) := by
  have hchain := h.serial hst serveRotation_owes
  refine ⟨fun raw ↦ (rotationsOf_le_one hchain raw).1, fun did p hp token ↦ ⟨?_, ?_⟩⟩
  · rintro ⟨u, d, hu, hdid⟩
    obtain ⟨hmem, htoken, -, -⟩ := activeUser?_eq_some hu
    exact (of_decide_eq_true htoken).symm.trans (latestPairStored hchain did p hp u hmem hdid).1
  · rintro ⟨u, d, hu, hdid⟩
    obtain ⟨hmem, haccepts, -, -⟩ := activeUser?_eq_some hu
    rw [← User.acceptsRefresh_iff.mp haccepts, User.refreshValue,
      (latestPairStored hchain did p hp u hmem hdid).2, Option.getD_some]

/-! ### Two refreshes at once -/

/-- A refresh with Alice's token. -/
def aliceRefresh (newToken : String) : RotationRequest where
  toIdentityRequest := .sample [("refresh_token", .str "rtok_0")] newToken
  cause := .refresh

/-- The server after two refreshes: so many statements of the one, then of the other, and so on. -/
def afterRefreshes (turns : List (ℕ × ℕ)) : RotationServer :=
  (Serving.idle sampleIdentities).runAll (serveRotation .sample)
    ([.start 0 (aliceRefresh "1"), .start 1 (aliceRefresh "2")] ++
      turns.flatMap fun t ↦ List.replicate t.2 (.advance t.1))

/-- There is one identity. -/
theorem sampleIdentities_tokensDistinct : TokensDistinct sampleIdentities where
  keyed := List.nodup_singleton _
  distinct := List.nodup_singleton _

/-- One refresh after the other: the first succeeds and the second does not. -/
theorem refresh_tokens_rotate_once_in_turn :
    rotationsOf .sample "rtok_0" (afterRefreshes [(0, 5), (1, 5)]).history = 1 ∧
      ∀ raw, rotationsOf .sample raw (afterRefreshes [(0, 5), (1, 5)]).history ≤ 1 :=
  ⟨by decide +kernel,
    (refresh_tokens_rotate_once sampleIdentities_tokensDistinct
      (Serving.reachable_runAll _ (.refl _ _) (by decide +kernel))).1⟩

/-- **Two refreshes that look the token up before either rotates both succeed**, with tokens that
are all new. -/
theorem refresh_token_rotated_twice :
    ¬ ∀ (out : IdentityOutside) (st : Store) (σ : RotationServer), TokensDistinct st →
      Serving.Reachable (serveRotation out) (fun h r _ s ↦ drawsFresh out h r s = true) st σ →
      ∀ raw, rotationsOf out raw σ.history ≤ 1 := by
  intro hall
  have hle := hall .sample sampleIdentities (afterRefreshes [(0, 1), (1, 1), (0, 4), (1, 4)])
    sampleIdentities_tokensDistinct
    (Serving.reachable_runAll _ (.refl _ _) (by decide +kernel)) "rtok_0"
  have htwo : rotationsOf .sample "rtok_0"
      (afterRefreshes [(0, 1), (1, 1), (0, 4), (1, 4)]).history = 2 := by
    decide +kernel
  exact absurd (htwo ▸ hle) (by decide)

end Awiki
