import AwikiOpenServer.Storage.Db
import AwikiOpenServer.Protocol.AnpAdapter

/-!
# Requests, the outside world, and the shared runtime

A handler runs against a store, but it also asks the outside: it fetches DID documents, discovers
services, verifies signatures, reads the clock. None of that is in the repository, so a request
carries **what the outside answers while it is handled** (`Outside`). The answers are arbitrary and
may differ from one request to the next; results that need more say so by a law of `Outside` or by a
hypothesis.

The three laws `Outside` carries are documented behaviour of the ANP SDK: signing a receipt returns
the receipt with a `proof` member added and changes nothing else, and the proof is a document
without NaN; a new Group DID is created under the host name it was asked for.

## What is in a request

The clock is a field: `now` is read once, so all times a handler writes are one. The credentials are
what authentication came to before the handler runs, and not the header; whether a token is valid is
the subject of the modules about identities, which have requests of their own. Answers of other
services are functions of what was asked, so a handler that asks the same twice is told the same
within one request, and may be told something else by the next.

Random identifiers are numbered. `newId name n` is the `n`-th draw of the server, and different
draws are different texts (`newId_injective`). The store counts the draws, which is how "fresh" is
said without probabilities: what a handler draws next has not been handed out before.

## Who signed

The helpers below the identifiers are those every group and message handler calls: the document a
proof is verified against, whether a user is one of this server's and active, whether the peer that
signed the request is the service the caller's DID names. They read the store and the outside and
write nothing, and a proof about a handler uses them as they are.
-/

namespace Awiki

open Py

/-- The settings handlers read. `__post_init__` clamps the two limits to at least one. -/
structure Settings where
  serviceDid : String
  didDomain : String
  anpServiceEndpoint : String
  allowUnsignedPeerDev : Bool
  groupMaxMessageBytes : ℕ
  groupOutboxMaxPending : ℕ
  groupMaxMessageBytes_pos : 0 < groupMaxMessageBytes
  groupOutboxMaxPending_pos : 0 < groupOutboxMaxPending

/-- The two JSON-RPC endpoints. -/
inductive Surface where
  | localRpc
  | publicRpc
  deriving DecidableEq, Repr

/-- What the authentication of a request comes to: no bearer token, a token that names nobody, or
a token of an active local DID. -/
inductive Credentials where
  | missing
  | invalid
  | bearer (did : String)
  deriving DecidableEq, Repr

/-- A verified Handle binding. -/
structure VerifiedHandleBinding where
  handle : String
  did : String
  bindingGeneration : String

/-- **What the outside answers while one request is handled.** -/
structure Outside where
  /-- `now_iso()`. -/
  now : String
  /-- `_fetch_did_document`. -/
  fetchDidDocument : String → Result Obj
  /-- `_discover_anp_service`. -/
  discoverAnpService : String → Result Obj
  /-- The part of `verify_origin_proof` before the document check: signature input and time. -/
  checkSignatureInput : Obj → String → Option String → Result Unit
  /-- The part after it: key authorization, digest and signature. -/
  checkOriginSignature : Obj → String → Obj → Obj → Obj → Result Unit
  /-- `signature_keyid(headers).split("#", 1)[0]`. -/
  signatureServiceDid : Result String
  /-- Header `x-anp-source-service-did`. -/
  sourceServiceDid : Option String
  /-- `verify_peer_http_signature` against the service's document. -/
  verifyPeerHttpSignature : Obj → Result Unit
  /-- `resolve_handle_binding`: the WNS lookup. -/
  resolveHandleBinding : String → Result VerifiedHandleBinding
  /-- `binding_generation_is_newer`. -/
  bindingGenerationIsNewer : String → String → Result Bool
  /-- `generate_group_identity`: host name, group id, endpoint, service DID, profile. -/
  generateGroupIdentity : String → String → String → String → WireProfile → Result (String × Obj)
  /-- `persist_group_private_key`: the path of the key of a group id. -/
  persistGroupPrivateKey : String → Result String
  /-- The `proof` that `sign_receipt` adds, by receipt and key reference. -/
  receiptProof : Obj → String → Result Json
  /-- `verify_group_receipt`. -/
  verifyGroupReceipt : Obj → Obj → Bool
  /-- Size of `jcs.canonicalize(body)`. -/
  canonicalSize : Obj → Result ℕ
  /-- `build_content_digest(jcs.canonicalize(body))`. -/
  contentDigest : Obj → Result String
  /-- `sha256_digest(value)`: SHA-256 over the canonical JSON. -/
  sha256Digest : Json → Result String
  /-- `iso_hours_ago(hours, now=…)`. -/
  isoHoursAgo : ℕ → String → String
  /-- `iso_later(seconds, now=…)`. -/
  isoLater : ℕ → String → String
  /-- `new_recovery_token()`. -/
  newRecoveryToken : String
  /-- `_expired(value)`: the time is not in the future, or no time at all. -/
  expired : String → Bool
  /-- `repr` of a float. -/
  reprFloat : PyFloat → String
  /-- `str` of a list or a dictionary. -/
  reprContainer : Json → String
  /-- The text `conversation_ref` derives from an owner and a peer. -/
  conversationRef : String → String → String
  /-- A signed POST of a JSON-RPC payload to a discovered service: its reply. -/
  postSigned : Obj → Obj → Result Obj
  /-- The time checks of `verified_acceptance_time`: format, calendar, and the server's clock. -/
  isAcceptanceTime : String → Bool
  receiptProof_nanFree : ∀ {r k p}, receiptProof r k = .ok p → p.nanFree = true
  generateGroupIdentity_domain : ∀ {h g e s p did doc},
    generateGroupIdentity h g e s p = .ok (did, doc) → didBelongsToDomain did h = true

/-- One request. -/
structure Request where
  surface : Surface
  credentials : Credentials
  outside : Outside

/-! ### Authentication -/

/-- `current_did(request, required=…)`. -/
def currentDid (req : Request) (required : Bool) : Result (Option String) :=
  match req.credentials with
  | .bearer did => .ok (some did)
  | .invalid => if required then .error (.unauthorized "invalid_bearer_token") else .ok none
  | .missing => if required then .error (.unauthorized "missing_authentication") else .ok none

/-- `_require_string` of the group modules. -/
def requireText (v : Json) (error : String) : Result String :=
  match v with
  | .str s => if isBlank s then .error (.invalidParams error) else .ok s
  | _ => .error (.invalidParams error)

/-- A required text is a text. -/
theorem requireText_eq_ok {v : Json} {error s : String} (h : requireText v error = .ok s) :
    v = .str s := by
  unfold requireText at h
  split at h
  · split at h
    · simp at h
    · simpa using h
  · simp at h

/-- `str(value)`. -/
def Outside.str (outside : Outside) : Json → String
  | .str s => s
  | .null => "None"
  | .bool b => if b then "True" else "False"
  | .int n => toString n
  | .float x => outside.reprFloat x
  | v => outside.reprContainer v

/-! ### Identifiers -/

/-- `new_id(name)`: the `n`-th random identifier handed out. Distinct draws are distinct texts. -/
def newId (name : String) (n : ℕ) : String := name ++ "_" ++ toString n

/-- Identifiers are not empty. -/
theorem newId_ne_empty (name : String) (n : ℕ) : newId name n ≠ "" := fun h ↦ by
  have hlist := congrArg String.toList h
  simp [newId] at hlist

/-- Different draws give different identifiers. -/
theorem newId_injective (name : String) : Function.Injective (newId name) := by
  intro m n h
  have hlist : (newId name m).toList = (newId name n).toList := by rw [h]
  simp only [newId, String.toList_append, List.append_cancel_left_eq] at hlist
  exact toString_nat_inj (String.toList_inj.mp hlist)

/-! ### DID documents -/

/-- `_resolve_did_document_for_proof`: the local row first, the DID's own authority otherwise. -/
def resolveDidDocumentForProof (st : Store) (req : Request) (did : String) : Result Obj :=
  match st.didDocuments.find? fun d ↦
      decide (d.did = did ∧ d.status = .active ∧ d.revokedAt = none) with
  | some row =>
    match row.document with
    | .obj document => .ok document
    | _ => .error (.invalidParams "did_document_must_be_object")
  | none =>
    match req.outside.fetchDidDocument did with
    | .ok document =>
      if (document.get "id").isStr did then .ok document
      else .error (.unauthorized "origin_proof_did_document_mismatch"
        [("did", .str did), ("document_id", document.get "id")])
    | .error e =>
      match e.kind with
      | .invalidParams => .error e
      | _ => .error (.unauthorized "origin_proof_did_document_not_found"
        [("did", .str did), ("detail", .str e.message)])

/-- `_user_exists`: an active local user with an active document. -/
def userExists (st : Store) (did : String) : Bool :=
  st.users.any fun u ↦ decide (u.did = did ∧ u.revokedAt = none) &&
    st.didDocuments.any fun d ↦
      decide (d.did = u.did ∧ d.status = .active ∧ d.revokedAt = none)

/-- `verify_origin_proof`. -/
def verifyOriginProof (req : Request) (proof : Obj) (method : String) (metaObj body : Obj)
    (document : Obj) (signer : String) (verifiedAt : Option String) : Result Unit := do
  require (["contentDigest", "signatureInput", "signature"].all fun field ↦
      match proof.get field with
      | .str s => s ≠ ""
      | _ => false)
    (.unauthorized "invalid_origin_proof")
  req.outside.checkSignatureInput proof signer verifiedAt
  require ((document.get "id").isStr signer) (.unauthorized "origin_proof_did_document_mismatch")
  req.outside.checkOriginSignature proof method metaObj body document

/-- `validate_origin_proof_structure`. -/
def validateOriginProofStructure (req : Request) (auth : Obj) (method : String)
    (metaObj body : Obj) (document : Obj) (verifiedAt : Option String) : Result Unit := do
  let proof ← orRaise (.unauthorized "missing_origin_proof") (auth.get "origin_proof").obj?
  let sender ← orRaise (.unauthorized "origin_proof_sender_did_required")
    ((metaObj.get "sender_did").str?.filter (· ≠ ""))
  verifyOriginProof req proof method metaObj body document sender verifiedAt

/-! ### Peers -/

/-- `_verify_peer_request_signature`; returns the verified peer service DID it leaves on the
request. -/
def verifyPeerRequestSignature (settings : Settings) (req : Request) (callerAnchor : String) :
    Result (Option String) :=
  if settings.allowUnsignedPeerDev then .ok req.outside.sourceServiceDid
  else do
    let serviceDid ← req.outside.signatureServiceDid
    require (req.outside.sourceServiceDid.all (· = serviceDid))
      (.unauthorized "signature_source_service_did_mismatch")
    let callerService ← req.outside.discoverAnpService callerAnchor
    require ((callerService.get "serviceDid").isStr serviceDid)
      (.unauthorized "signature_service_did_caller_anchor_mismatch"
        [("expected", callerService.get "serviceDid"), ("actual", .str serviceDid)])
    let document ← req.outside.fetchDidDocument serviceDid
    require ((document.get "id").isStr serviceDid)
      (.unauthorized "source_service_did_document_mismatch")
    req.outside.verifyPeerHttpSignature document
    return some serviceDid

/-! ### A small world

Two services and honest answers from outside, for the concrete runs of later modules. -/

/-- The settings of the server of `host.example`. -/
def Settings.sample : Settings where
  serviceDid := "did:wba:host.example"
  didDomain := "host.example"
  anpServiceEndpoint := "https://host.example/anp"
  allowUnsignedPeerDev := false
  groupMaxMessageBytes := 65536
  groupOutboxMaxPending := 1000
  groupMaxMessageBytes_pos := by decide
  groupOutboxMaxPending_pos := by decide

/-- Signatures and receipts verify, DIDs resolve, and everybody else lives on `peer.example`. -/
def Outside.honest : Outside where
  now := "2026-01-01T00:00:00Z"
  fetchDidDocument did := .ok [("id", .str did)]
  discoverAnpService _ := .ok
    [("serviceDid", .str "did:wba:peer.example"),
      ("serviceEndpoint", .str "https://peer.example/anp"),
      ("profiles", .arr [.str WireProfile.v2.text])]
  checkSignatureInput _ _ _ := .ok ()
  checkOriginSignature _ _ _ _ _ := .ok ()
  signatureServiceDid := .ok "did:wba:peer.example"
  sourceServiceDid := some "did:wba:peer.example"
  verifyPeerHttpSignature _ := .ok ()
  resolveHandleBinding _ := .error (.notFound "handle_not_found")
  bindingGenerationIsNewer _ _ := .ok false
  generateGroupIdentity host groupId _ _ _ :=
    let did := "did:wba:" ++ host ++ ":groups:" ++ groupId
    if didBelongsToDomain did host then .ok (did, [("id", .str did)])
    else .error (.invalidParams "did_domain_invalid")
  persistGroupPrivateKey groupId := .ok ("keys/" ++ groupId)
  receiptProof _ _ := .ok (.obj [("type", .str "DataIntegrityProof")])
  verifyGroupReceipt _ _ := true
  canonicalSize _ := .ok 64
  contentDigest _ := .ok "sha-256=:body:"
  sha256Digest _ := .ok "sha256:items"
  isoHoursAgo _ _ := "2025-12-30T00:00:00Z"
  isoLater _ _ := "2026-01-01T00:10:00Z"
  newRecoveryToken := "recovery-token"
  expired _ := false
  reprFloat _ := "0.0"
  reprContainer _ := "[...]"
  conversationRef owner peer := "conv_" ++ owner ++ "," ++ peer
  postSigned _ _ := .error (.notFound "no_service")
  isAcceptanceTime _ := true
  receiptProof_nanFree := by
    rintro _ _ _ ⟨⟩
    decide
  generateGroupIdentity_domain := by
    intro h g e s p did doc hok
    dsimp only at hok
    split at hok
    · rename_i hdomain
      obtain ⟨rfl, -⟩ := Prod.mk.inj (Except.ok.inj hok)
      exact hdomain
    · cases hok

/-- A user of `host.example`. -/
def alice : String := "did:wba:host.example:user:alice"

/-- An agent of `peer.example`. -/
def bob : String := "did:wba:peer.example:user:bob"

/-- A well-formed origin proof block. -/
def sampleAuth : Obj :=
  [("scheme", .str "anp-rfc9421-origin-proof-v1"),
    ("origin_proof", .obj [("contentDigest", .str "sha-256=:body:"),
      ("signatureInput", .str "sig1=()"), ("signature", .str "sig1=:x:")])]

end Awiki
