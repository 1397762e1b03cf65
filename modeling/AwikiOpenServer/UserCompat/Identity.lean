import AwikiOpenServer.Lib.Text
import AwikiOpenServer.Messaging.DirectSend

/-!
# Local identities

A local identity is a row of `users` and a row of `did_documents`, and it is **active** while
neither is revoked. The server asks for that in about eight places, each with a query of its own, a
join of the two tables that differs only in how the user is picked. Here that join is one
definition, `Store.activeUser?`, and the pick is its argument.

A document may carry a device manifest; the identity is then bound to one device account, and its
access tokens are signed for that device. What the SDK says about manifests, signatures and hashes
is `IdentityOutside`; what one request brings, with the clock and the random texts it draws, is
`IdentityRequest`.

## Four ways to authenticate

A request is authenticated by a bearer token, by a signature, by nothing, or in development by its
DID. `didForToken` and `signatureDid` are the first two, and `callerDid` is the order in which the
source tries them. Both ask for an active identity at the end, and a token of a bound device is
checked against its account as well. A signature is consumed before it counts
(`UserCompat/AuthNonces.lean`).

## Devices

A device account is bound when its identity is registered, and again whenever a document is
published with a manifest. Binding a device that is bound writes nothing
(`bindDeviceAccount_of_bound`); a manifest that names another device is refused, by one of several
exceptions that the source tells apart.
-/

namespace Awiki

open Py Transactions

/-! ### The outside -/

/-- What `validate_single_device_document` reads off a manifest. -/
structure SingleDeviceManifest where
  deviceId : String
  signingKeyId : String
  rootKeyId : String
  keyFingerprint : String
  deriving DecidableEq

/-- Why it refuses one. -/
inductive ManifestError where
  | multipleDevices
  | invalid

/-- The SDK and the functions of the language the identity handlers call. -/
structure IdentityOutside where
  settings : Settings
  didVerifyDevCode : String
  /-- `str(value)`. -/
  str : Json → String
  /-- `str.lower()`. -/
  lower : String → String
  /-- `urllib.parse.unquote`. -/
  unquote : String → String
  /-- `f"user-{sha256(did)[:24]}"`. -/
  accountId : String → String
  /-- `validate_single_device_document`, of a document with a manifest. -/
  validateSingleDeviceDocument : Obj → Except ManifestError SingleDeviceManifest
  /-- `verify_did_document_data_integrity_proof(document, expected_did=…)`. -/
  verifyDidDocumentProof : Obj → String → Result Unit
  /-- `require_did_document_binding`. -/
  requireDidDocumentBinding : Obj → Result Unit
  /-- `"sha256:"` and the digest of `jcs.canonicalize(document)`. -/
  documentHash : Json → Result String

/-- The `Authorization` headers of a request. -/
inductive Authorization where
  | absent
  /-- Several headers, or a bearer scheme without a token. -/
  | malformed
  | bearer (token : String)

/-- The parameters of a verified HTTP signature. -/
structure SignatureMetadata where
  nonce : Json
  created : Json
  expires : Json

/-- What one request brings. -/
structure IdentityRequest where
  params : Obj
  authorization : Authorization
  /-- The path is one of the three of `did-auth`. -/
  didAuthPath : Bool
  /-- Headers `signature-input` and `signature` are there. -/
  signed : Bool
  /-- `signature_keyid(headers)`, unless the headers are malformed. -/
  signatureKeyId : Option String
  /-- `verify_service_http_signature`, by document. -/
  verifyServiceHttpSignature : Obj → Option SignatureMetadata
  /-- `sha256(json.dumps([key_id, nonce]))`. -/
  nonceHash : String → String → String
  /-- `validate_device_token` accepts the token for the account. -/
  validDeviceToken : String → SingleDeviceAccount → Bool
  /-- `now_iso()`. -/
  now : String
  /-- `int(now.timestamp())`. -/
  epoch : ℤ
  /-- `_is_past`. -/
  isPast : Option String → Bool
  /-- `_future_iso(seconds)`. -/
  futureIso : ℕ → String
  /-- `new_id("tok")`. -/
  newToken : String
  /-- `new_id("rtok")`. -/
  newRefreshToken : String
  /-- `issue_device_token`, by account. -/
  issueDeviceToken : SingleDeviceAccount → String

/-! ### Active identities -/

namespace Store

/-- An active document of a DID. -/
def activeDocument? (st : Store) (did : String) : Option DidDocument :=
  st.didDocuments.find? fun d ↦ decide (d.did = did ∧ d.status = .active ∧ d.revokedAt = none)

/-- `users u JOIN did_documents d ON d.did = u.did`, where `pick` holds of the user and neither is
revoked. -/
def activeUser? (st : Store) (pick : User → Bool) : Option (User × DidDocument) :=
  st.users.findSome? fun u ↦
    if pick u && u.revokedAt.isNone then (st.activeDocument? u.did).map (u, ·) else none

/-- `SELECT * FROM single_device_accounts WHERE owner_did = ?`. -/
def deviceAccount? (st : Store) (did : String) : Option SingleDeviceAccount :=
  Table.row? SingleDeviceAccount.did did st.singleDeviceAccounts

end Store

section Active

variable {st : Store} {did : String} {pick : User → Bool} {u : User} {d : DidDocument}

/-- **What an active document is.** -/
theorem activeDocument?_eq_some (h : st.activeDocument? did = some d) :
    d ∈ st.didDocuments ∧ d.did = did ∧ d.status = .active ∧ d.revokedAt = none :=
  ⟨List.mem_of_find?_eq_some h, by simpa using List.find?_some h⟩

/-- **What an active identity is.** -/
theorem activeUser?_eq_some (h : st.activeUser? pick = some (u, d)) :
    u ∈ st.users ∧ pick u = true ∧ u.revokedAt = none ∧ st.activeDocument? u.did = some d := by
  obtain ⟨u', hmem, hu'⟩ := List.exists_of_findSome?_eq_some h
  split at hu'
  · rename_i hpick
    obtain ⟨d', hd', heq⟩ := Option.map_eq_some_iff.mp hu'
    obtain ⟨rfl, rfl⟩ := Prod.mk.inj heq
    rw [Bool.and_eq_true, Option.isNone_iff_eq_none] at hpick
    exact ⟨hmem, hpick.1, hpick.2, hd'⟩
  · cases hu'

/-- Without an active document, or with every row revoked, nobody is picked. -/
theorem activeUser?_eq_none (h : ∀ u ∈ st.users, pick u = true → u.revokedAt = none →
    st.activeDocument? u.did = none) : st.activeUser? pick = none := by
  refine List.findSome?_eq_none_iff.mpr fun u hu ↦ ?_
  split
  · rename_i hpick
    rw [Bool.and_eq_true, Option.isNone_iff_eq_none] at hpick
    rw [h u hu hpick.1 hpick.2]
    rfl
  · rfl

end Active

/-! ### Devices -/

section Devices

variable (out : IdentityOutside)

/-- `_validate_single_device_manifest`. -/
def validateSingleDeviceManifest (document : Obj) : Result (Option SingleDeviceManifest) :=
  if document.has "deviceManifest" then
    match out.validateSingleDeviceDocument document with
    | .ok manifest => .ok (some manifest)
    | .error .multipleDevices => .error (.notSupported "multiple_devices_not_supported"
        [("max_devices_per_did", .int 1), ("sync_mode", .str "single_device_pull_only")])
    | .error .invalid => .error (.invalidParams "device_manifest_invalid")
  else .ok none

/-- The same, of a stored document. -/
def storedManifest (row : DidDocument) : Result (Option SingleDeviceManifest) := do
  let document ← orRaise (.type "argument of type is not iterable") row.document.obj?
  validateSingleDeviceManifest out document

/-- `device_account`. -/
def deviceAccount (did : String) (manifest : SingleDeviceManifest) : SingleDeviceAccount where
  did := did
  accountId := out.accountId did
  deviceId := manifest.deviceId
  signingKeyId := manifest.signingKeyId
  rootKeyId := manifest.rootKeyId
  keyFingerprint := manifest.keyFingerprint

end Devices

/-- `INSERT OR IGNORE INTO single_device_accounts`: the DID and the account are unique. -/
def insertDeviceAccount (account : SingleDeviceAccount) (st : Store) : Store :=
  if st.singleDeviceAccounts.any fun a ↦ a.did = account.did || a.accountId = account.accountId
  then st
  else { st with singleDeviceAccounts := st.singleDeviceAccounts ++ [account] }

/-- `bind_device_account`. -/
def bindDeviceAccount (account : SingleDeviceAccount) (create : Bool) (st : Store) :
    Result Store := do
  let st := if create then insertDeviceAccount account st else st
  require (st.deviceAccount? account.did = some account)
    (.unauthorized "device_authorization_invalid")
  return st

/-- Binding a device writes its account, if anything. -/
theorem bindDeviceAccount_eq_ok {account : SingleDeviceAccount} {create : Bool} {st st' : Store}
    (h : bindDeviceAccount account create st = .ok st') :
    (create = false → st' = st) ∧ st'.deviceAccount? account.did = some account ∧
      ∃ accounts, st' = { st with singleDeviceAccounts := accounts } := by
  obtain ⟨_, hbound, h⟩ := bind_eq_ok.mp h
  obtain rfl := pure_eq_ok.mp h
  refine ⟨fun hcreate ↦ by simp [hcreate], of_decide_eq_true (require_eq_ok.mp hbound), ?_⟩
  cases create with
  | false => exact ⟨st.singleDeviceAccounts, rfl⟩
  | true =>
    show ∃ accounts, insertDeviceAccount account st = _
    unfold insertDeviceAccount
    split
    · exact ⟨st.singleDeviceAccounts, rfl⟩
    · exact ⟨_, rfl⟩

/-- Whom a request speaks for, and the device whose signature said so. -/
structure Caller where
  did : String
  signedDevice : Option SingleDeviceAccount := none

section Authentication

variable (out : IdentityOutside) (req : IdentityRequest)

/-- The device check of `did_for_token`: exceptions of the manifest make the token invalid. -/
def deviceAcceptsToken (token : String) (user : User) (row : DidDocument) : Statements Bool :=
  match storedManifest out row with
  | .error e => if e.kind = .invalidParams ∨ e.kind = .notSupported then .ret false else .raise e
  | .ok (some manifest) => do
    let account := deviceAccount out user.did manifest
    let bound ← .query fun st ↦ st.deviceAccount? account.did
    return bound = some account && req.validDeviceToken token account
  | .ok none => do
    let bound ← .query fun st ↦ st.deviceAccount? user.did
    return bound.isNone

/-- The tail of `did_for_token`: in development a DID is its own token, unless it has a device. -/
def developmentDid (token : String) : Statements (Option String) :=
  if out.settings.allowUnsignedPeerDev && startsWith "did:" token then do
    let legacy ← .query fun st ↦
      if (st.deviceAccount? token).isSome then none else st.activeUser? fun u ↦ u.did = token
    match legacy with
    | none => return none
    | some (_, row) =>
      return if ((row.document.obj?).getD []).has "deviceManifest" then none else some token
  else return none

/-- `did_for_token`. -/
def didForToken (token : String) : Statements (Option String) := do
  let found ← .query fun st ↦ st.activeUser? fun u ↦ u.token = token
  match found with
  | some (user, row) =>
    if req.isPast user.accessExpiresAt then return none
    else do
      let accepted ← deviceAcceptsToken out req token user row
      return if accepted then some user.did else none
  | none => developmentDid out token

/-- The checks of `consume_auth_nonce`; the nonce, and when it expires. -/
def checkSignatureTimes (m : SignatureMetadata) : Result (String × ℤ) :=
  match m.nonce, m.created, m.expires with
  | .str nonce, .int created, .int expires => do
    require (!isBlank nonce && nonce.length ≤ 256 && created ≤ expires && expires ≤ created + 600 &&
      created ≤ req.epoch + 30 && req.epoch ≤ expires + 30) (.unauthorized "invalid_http_signature")
    return (nonce, expires)
  | _, _, _ => .error (.unauthorized "invalid_http_signature")

/-- `consume_auth_nonce`. -/
def consumeAuthNonce (keyId : String) (m : SignatureMetadata) (st : Store) :
    Result (Unit × Store) := do
  let (nonce, expires) ← checkSignatureTimes req m
  let live := st.singleDeviceAuthNonces.filter fun n ↦ decide (req.epoch ≤ n.expiresAt)
  let rows ← orRaise (.unauthorized "signature_replayed")
    (Table.insert? AuthNonce.nonceHash ⟨req.nonceHash keyId nonce, expires + 30⟩ live)
  return ((), { st with singleDeviceAuthNonces := rows })

/-- The part of a key identifier before `#`. -/
def didOfKeyId (keyId : String) : String := String.ofList (keyId.toList.takeWhile (· ≠ '#'))

/-- The signature branch of `current_did`. -/
def signatureDid : Statements Caller := do
  let keyId ← check (orRaise (.unauthorized "invalid_http_signature") req.signatureKeyId)
  let did := didOfKeyId keyId
  let found ← .query fun st ↦ st.activeUser? fun u ↦ u.did = did
  let (_, row) ← check (orRaise (.unauthorized "invalid_http_signature") found)
  let document ← check (orRaise (.type "argument of type is not iterable") row.document.obj?)
  let manifest ← check (validateSingleDeviceManifest out document)
  check (require (manifest.all fun m ↦ keyId = m.signingKeyId)
    (.unauthorized "device_signature_required"))
  let metadata ← check (orRaise (.unauthorized "invalid_http_signature")
    (req.verifyServiceHttpSignature document))
  .locked (consumeAuthNonce req keyId metadata)
  return { did := did, signedDevice := manifest.map (deviceAccount out did) }

/-- `current_did(request)`. What other modules know of it is `Credentials`. -/
def callerDid : Statements Caller := do
  match req.authorization with
  | .malformed => .raise (.unauthorized "invalid_bearer_token")
  | .bearer token => do
    let did ← didForToken out req token
    match did with
    | some did => return { did := did }
    | none => .raise (.unauthorized "invalid_bearer_token")
  | .absent =>
    if req.didAuthPath && req.signed then signatureDid out req
    else .raise (.unauthorized "missing_authentication")

end Authentication

/-! ### Revocation -/

/-- The first write of `revoke`. -/
def revokeUser (did now : String) (st : Store) : Store :=
  { st with
    users := Table.updateWhere (fun u ↦ decide (u.did = did ∧ u.revokedAt = none))
      (fun u ↦ { u with revokedAt := some now }) st.users }

/-- The second. -/
def revokeDocument (did now : String) (st : Store) : Store :=
  { st with
    didDocuments := Table.updateWhere (fun d ↦ decide (d.did = did))
      (fun d ↦ { d with status := .revoked, revokedAt := some now, updatedAt := now })
      st.didDocuments }

/-- `revoke`, once the caller is known. -/
def revoke (req : IdentityRequest) (did : String) : Statements Unit := do
  let known ← .query fun st ↦ st.users.any fun u ↦ u.did = did
  check (require known (.notFound "did_not_found"))
  .write fun st ↦ .ok (revokeUser did req.now st)
  .write fun st ↦ .ok (revokeDocument did req.now st)

/-! ### A small world -/

/-- The outside of the server of `host.example`: nobody has a device, no document is bound to a root
key, and a document's hash is the text it has under `version`. -/
def IdentityOutside.sample : IdentityOutside where
  settings := .sample
  didVerifyDevCode := "666666"
  str v := v.str?.getD ""
  lower := id
  unquote := id
  accountId did := "user-" ++ did
  validateSingleDeviceDocument _ := .error .invalid
  verifyDidDocumentProof _ _ := .ok ()
  requireDidDocumentBinding _ := .error (.invalidParams "did_document_binding_invalid")
  documentHash document :=
    if document.nanFree then
      .ok ("sha256:" ++ (Obj.get (document.obj?.getD []) "version").str?.getD "")
    else .error (.value "Invalid JSON number")

/-- A request without credentials. -/
def IdentityRequest.sample (params : Obj) (newToken : String) : IdentityRequest where
  params := params
  authorization := .absent
  didAuthPath := false
  signed := false
  signatureKeyId := none
  verifyServiceHttpSignature _ := none
  nonceHash keyId nonce := keyId ++ nonce
  validDeviceToken _ _ := false
  now := "2026-01-01T00:00:00Z"
  epoch := 0
  isPast _ := false
  futureIso _ := "2026-02-01T00:00:00Z"
  newToken := "tok_" ++ newToken
  newRefreshToken := "rtok_" ++ newToken
  issueDeviceToken account := account.accountId

/-- A server on which Alice is registered. -/
def sampleIdentities : Store where
  users := [{ did := alice, handle := "alice", token := "tok_0", revokedAt := none,
              handleBindingGeneration := "1", refreshToken := some "rtok_0" }]
  didDocuments := [{ did := alice, document := .obj [("id", .str alice)], documentVersion := 1,
                     updatedAt := "", status := .active, revokedAt := none }]

end Awiki
