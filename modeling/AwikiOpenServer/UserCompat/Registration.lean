import AwikiOpenServer.Messaging.Groups.Service
import AwikiOpenServer.UserCompat.Documents

/-!
# Registration

`register` checks its parameters, builds the document of the new identity, and writes the user, its
device account, its profile and its document in one locked transaction. What matters to everybody
else is the last lemma: a registration that commits adds **one user and one document**, under a DID
that had neither.

## Before the transaction

A request names a handle, or gets a random one; it names a DID, or gets one made of its handle, or
brings a document that says whose it is. The document is completed with the message service and
checked as a published one is, and the tokens are drawn. All of that is `prepareRegistration`, which
does not look at the database; `Registration` is what it hands to the transaction.

## In the transaction

A phone number is checked by a code that is consumed, the device is bound, and then come the
inserts: of the user, whose DID, handle and two tokens are unique, of the profile and of the
document. Any of them may fail for a key, and the whole is undone then; so two registrations of one
handle end with one user, whichever takes the lock first.
-/

namespace Awiki

open Py Transactions

/-- What a code was sent for. -/
def REGISTRATION_PURPOSE : String := "awiki.identity.register.v1"

/-- A registration, with the texts it draws. -/
structure RegistrationRequest extends IdentityRequest where
  /-- `new_id("h")[2:8]`. -/
  newHandle : String
  /-- The SDK's `validate_local_part`. -/
  validHandleLocalPart : String → Bool
  /-- `_otp_hash`. -/
  otpHash : String → String

/-- What a checked request writes. -/
structure Registration where
  did : String
  localHandle : String
  storedHandle : String
  document : Obj
  account : Option SingleDeviceAccount
  token : String
  refreshToken : String
  accessExpiresAt : String
  refreshExpiresAt : String
  phone : String
  otpCode : String

section Handlers

variable (out : IdentityOutside) (req : RegistrationRequest)

/-- `did_document`. -/
def didDocument (did handle : String) : Obj :=
  [("id", .str did), ("alsoKnownAs", .arr [.str handle]),
    ("service", .arr [.obj (serviceTemplate out did)])]

/-- `_default_user_did`. -/
def defaultUserDid (localHandle : String) : String :=
  "did:wba:" ++ out.settings.didDomain ++ ":users:" ++ localHandle ++ ":e1_default"

/-- The handle a request asks for, or a new one. -/
@[irreducible] def rawHandle : String :=
  let stripped := stripChars
    (out.str ((req.params.get "handle").orElse (.str ("user-" ++ req.newHandle)))).toList
  out.lower (String.ofList (if stripped.head? = some '@' then stripped.tail else stripped))

/-- `params["did_document"]`, when it is a dictionary that says something. -/
def RegistrationRequest.uploadedDocument : Option Obj :=
  (req.params.get "did_document").obj?.filter fun document ↦ !document.isEmpty

/-- The DID a request asks for. -/
@[irreducible] def requestedDid (localHandle : String) : String :=
  out.str (((req.params.get "did").orElse ((req.uploadedDocument.getD []).get "id")).orElse
    (.str (defaultUserDid out localHandle)))

/-- `str(params.get("otp_code") or params.get("otp") or "").strip()`. -/
@[irreducible] def otpParam : String :=
  String.ofList (stripChars (out.str (((req.params.get "otp_code").orElse
    (req.params.get "otp")).orElse (.str ""))).toList)

/-- What `register` does before its transaction. -/
@[irreducible] def prepareRegistration : Result Registration := do
  let domain := out.lower out.settings.didDomain
  let storedHandle := (splitHandle (rawHandle out req) domain).1
  -- the stored form is `local@domain`, and the local part has no `@`
  let parts := partitionChars '@' storedHandle.toList
  let localHandle := String.ofList parts.1
  require (String.ofList parts.2.2 = domain) (.invalidParams "domain_not_supported")
  require (req.validHandleLocalPart localHandle) (.invalidParams "handle_invalid")
  require (req.uploadedDocument.all fun document ↦
      (document.get "proof").obj?.isSome || out.settings.allowUnsignedPeerDev)
    (.invalidParams "unsigned_did_document_requires_dev_mode")
  let did ← validateLocalUserDid out (requestedDid out req localHandle)
  require (req.uploadedDocument.all fun document ↦
      (document.get "id").isNull || (document.get "id").isStr did)
    (.invalidParams "did_document_id_mismatch"
      [("did", .str did), ("document_id", (req.uploadedDocument.getD []).get "id")])
  let document ← ensureAnpMessageService out
    (req.uploadedDocument.getD (didDocument out did storedHandle)) did
  let document := document.set "id" (.str did)
  let manifest ← validateSingleDeviceManifest out document
  let account := manifest.map (deviceAccount out did)
  return { did := did
           localHandle := localHandle
           storedHandle := storedHandle
           document := document
           account := account
           token := (account.map req.issueDeviceToken).getD req.newToken
           refreshToken := req.newRefreshToken
           accessExpiresAt := req.futureIso ACCESS_TOKEN_TTL_SECONDS
           refreshExpiresAt := req.futureIso REFRESH_TOKEN_TTL_SECONDS
           phone := strippedParam out req.toIdentityRequest "phone"
           otpCode := otpParam out req }

/-- `_consume_registration_otp`. -/
def consumeRegistrationOtp (r : Registration) (st : Store) : Result Store := do
  let otp ← orRaise (.unauthorized "invalid_otp")
    ((st.localRegistrationOtps.find? fun o ↦
      decide (o.phone = r.phone ∧ o.purpose = REGISTRATION_PURPOSE)).filter fun o ↦
        !req.isPast (some o.expiresAt) && o.otpHash = req.otpHash r.otpCode)
  require (r.localHandle = "" || otp.handle.getD "" = "" || otp.handle = some r.localHandle)
    (.unauthorized "invalid_otp")
  return { st with
    localRegistrationOtps := st.localRegistrationOtps.filter fun o ↦
      !decide (o.phone = r.phone ∧ o.purpose = REGISTRATION_PURPOSE) }

/-- `if phone:`. -/
def checkPhone (r : Registration) (st : Store) : Result Store :=
  if r.phone = "" then .ok st
  else do
    require (r.otpCode ≠ "") (.invalidParams "otp_required")
    consumeRegistrationOtp req r st

/-- `INSERT INTO users`: four columns are unique. -/
def insertUser (r : Registration) (st : Store) : Result Store := do
  require (st.users.all fun u ↦ u.did ≠ r.did && u.handle ≠ r.storedHandle && u.token ≠ r.token &&
      u.refreshToken ≠ some r.refreshToken)
    (.integrity "users")
  return { st with
    users := st.users ++ [{ did := r.did
                            handle := r.storedHandle
                            token := r.token
                            revokedAt := none
                            handleBindingGeneration := "1"
                            refreshToken := some r.refreshToken
                            accessExpiresAt := some r.accessExpiresAt
                            refreshExpiresAt := some r.refreshExpiresAt }] }

/-- `bind_device_account(conn, account, create=True)`, for an identity with a device. -/
def bindRegisteredDevice (r : Registration) (st : Store) : Result Store :=
  match r.account with
  | none => .ok st
  | some account => bindDeviceAccount account true st

/-- `INSERT INTO profiles` and `INSERT INTO did_documents`. -/
def insertProfileAndDocument (r : Registration) (st : Store) : Result Store := do
  let profiles ← orRaise (.integrity "profiles.did")
    (Table.insert? ProfileRow.did ⟨r.did, r.storedHandle⟩ st.profiles)
  let documents ← orRaise (.integrity "did_documents.did")
    (Table.insert? DidDocument.did
      { did := r.did, document := .obj r.document, documentVersion := 1, updatedAt := req.now,
        status := .active, revokedAt := none } st.didDocuments)
  return { st with profiles := profiles, didDocuments := documents }

/-- The transaction of `register`; `lower(handle)` is that of the database, of ASCII letters. -/
def commitRegistration (r : Registration) (st : Store) : Result (Registration × Store) := do
  let st ← checkPhone req r st
  match st.users.find? fun u ↦ u.handle.toLower = r.storedHandle with
  | some u => .error (.conflict "handle_already_registered"
      [("handle", .str r.storedHandle), ("did", .str u.did)])
  | none => do
    require (Table.row? User.did r.did st.users).isNone
      (.conflict "did_already_registered" [("did", .str r.did)])
    let st ← insertUser r st
    let st ← bindRegisteredDevice r st
    let st ← insertProfileAndDocument req r st
    return (r, st)

/-- `register`, up to its commit. -/
def register : Statements Registration := do
  let r ← check (prepareRegistration out req)
  .locked (commitRegistration req r)

end Handlers

/-! ### What a registration does -/

section Effects

variable {req : RegistrationRequest} {r r' : Registration} {s s' : Store}

/-- Checking a phone number consumes its code. -/
theorem checkPhone_eq_ok (h : checkPhone req r s = .ok s') :
    ∃ otps, s' = { s with localRegistrationOtps := otps } := by
  unfold checkPhone at h
  split at h
  · obtain rfl := Except.ok.inj h
    exact ⟨s.localRegistrationOtps, rfl⟩
  · obtain ⟨_, -, h⟩ := bind_eq_ok.mp h
    obtain ⟨otp, -, h⟩ := bind_eq_ok.mp h
    obtain ⟨_, -, h⟩ := bind_eq_ok.mp h
    obtain rfl := pure_eq_ok.mp h
    exact ⟨_, rfl⟩

/-- Binding the device writes its account. -/
theorem bindRegisteredDevice_eq_ok (h : bindRegisteredDevice r s = .ok s') :
    ∃ accounts, s' = { s with singleDeviceAccounts := accounts } := by
  unfold bindRegisteredDevice at h
  split at h
  · obtain rfl := Except.ok.inj h
    exact ⟨s.singleDeviceAccounts, rfl⟩
  · exact (bindDeviceAccount_eq_ok h).2.2

/-- **A registration adds one active user and one active document**, under a DID that had no user
and no document. -/
theorem commitRegistration_eq_ok (h : commitRegistration req r s = .ok (r', s')) :
    r' = r ∧
      (∃ u, u.did = r.did ∧ (∀ v ∈ s.users, v.did ≠ r.did) ∧ s'.users = s.users ++ [u]) ∧
      ∃ d, d.did = r.did ∧ (∀ e ∈ s.didDocuments, e.did ≠ r.did) ∧
        s'.didDocuments = s.didDocuments ++ [d] := by
  obtain ⟨s₁, hs₁, h⟩ := bind_eq_ok.mp h
  obtain ⟨otps, rfl⟩ := checkPhone_eq_ok hs₁
  split at h
  · cases h
  · obtain ⟨_, hfresh, h⟩ := bind_eq_ok.mp h
    obtain ⟨s₂, hs₂, h⟩ := bind_eq_ok.mp h
    obtain ⟨_, -, hs₂⟩ := bind_eq_ok.mp hs₂
    obtain rfl := pure_eq_ok.mp hs₂
    obtain ⟨s₃, hs₃, h⟩ := bind_eq_ok.mp h
    obtain ⟨accounts, rfl⟩ := bindRegisteredDevice_eq_ok hs₃
    obtain ⟨s₄, hs₄, h⟩ := bind_eq_ok.mp h
    obtain ⟨profiles, -, hs₄⟩ := bind_eq_ok.mp hs₄
    obtain ⟨documents, hdocuments, hs₄⟩ := bind_eq_ok.mp hs₄
    obtain rfl := pure_eq_ok.mp hs₄
    obtain ⟨rfl, rfl⟩ := Prod.mk.inj (pure_eq_ok.mp h)
    obtain ⟨hdocument, rfl⟩ := Table.insert?_eq_some.mp (orRaise_eq_ok.mp hdocuments)
    have huser := Table.row?_eq_none.mp (Option.isNone_iff_eq_none.mp (require_eq_ok.mp hfresh))
    exact ⟨rfl, ⟨_, rfl, huser, rfl⟩, ⟨_, rfl, hdocument, rfl⟩⟩

end Effects

end Awiki
