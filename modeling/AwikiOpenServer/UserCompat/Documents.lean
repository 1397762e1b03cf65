import AwikiOpenServer.Protocol.Registry
import AwikiOpenServer.UserCompat.TokenRotation

/-!
# Publication of DID documents

`update_document` replaces the stored document of its caller, and counts the replacements in
`document_version`. A request may say which document it means to replace, by its hash or by hash and
version. The transaction is under the lock from its first statement, so an interleaving of requests
is a sequence of whole transactions, and what one does is `publishDocument`.

Two documents are compared as the language compares them (`Json.same`). The hash is that of the
canonical form of the stored document; `DocumentLaws` says what is used of it and of the SDK's
binding check.

## The order of the handler

A request is prepared without the database: its document is completed with the message service of
this server, its binding to the DID and the manifest of its device are checked, and the hash and the
version it names are read (`prepareUpdate`). In the transaction the stored document is looked up,
the device and the root key are compared with it, and then one of four things happens: the request
brings the stored document again and is answered with the stored version; it names a document that
is not the stored one and is refused; the counter has reached its bound; or the document is written
and the version is one more.

## What a step is

`PublicationStep` is the effect of a committed request, with the reply. What is asked of a run
is read off a serial history of such steps: versions do not go down, one request at most takes
effect for a version it names (`effectsOf_le_one`), a stale request is in conflict and changes
nothing, and what was last written is stored.

A request that names the stored version but brings the stored document again has no effect. To tell
it from one that takes effect the history counts writes and not successes.

## Publishing again

`publishDocument_again` is about a request that comes a second time. It rests on the comparison
being reflexive, which Python's is not for a NaN; a document with a NaN in it cannot be encoded, so
it was never stored, and this is what `DocumentLaws` and the lemmas about `nanFree` are for.
-/

namespace Awiki

open Py Transactions

/-- `2 ** 63 - 1`. -/
def MAX_DOCUMENT_VERSION : ℕ := 9223372036854775807

/-- An `update_document` of an authenticated caller. -/
structure UpdateRequest where
  did : String
  params : Obj
  /-- `now_iso()`. -/
  now : String

/-- What a checked request asks for. -/
structure Publication where
  did : String
  document : Obj
  manifest : Option SingleDeviceManifest
  expectedHash : Option String
  expectedVersion : Option ℕ

/-- The reply, and whether the `UPDATE` was run for it. -/
structure PublishOutcome where
  did : String
  document : Obj
  documentVersion : ℕ
  written : Bool

/-! ### The message service of a document -/

section Documents

variable (out : IdentityOutside)

/-- The service that `did_document` announces. -/
def serviceTemplate (did : String) : Obj :=
  [("id", .str (did ++ "#anp-message")),
    ("type", .str "ANPMessageService"),
    ("serviceEndpoint", .str out.settings.anpServiceEndpoint),
    ("serviceDid", .str out.settings.serviceDid),
    ("profiles", .arr (STANDARD_PROFILES.map .str)),
    ("securityProfiles", .arr [.str "transport-protected"]),
    ("authSchemes", .arr [.str "bearer", .str "didwba"])]

/-- `_anp_message_services`. -/
def anpMessageServices (document : Obj) : List Obj :=
  (((document.get "service").arr?).getD []).filterMap fun service ↦
    service.obj?.filter fun o ↦ (o.get "type").isStr "ANPMessageService"

/-- The loop of `_ensure_anp_message_service`: the first message service is ours, later ones go, and
one is added where there is none. `replaced` says whether one was seen. -/
def normalizeServices (template : Obj) : Bool → List Json → List Json
  | replaced, [] => if replaced then [] else [.obj template]
  | replaced, .obj service :: rest =>
    if !(Obj.get service "type").isStr "ANPMessageService" then
      .obj service :: normalizeServices template replaced rest
    else if replaced then normalizeServices template true rest
    else
      .obj (Obj.merge service (("id", (Obj.get service "id").orElse (template.get "id")) ::
        template.erase "id")) :: normalizeServices template true rest
  | replaced, _ :: rest => normalizeServices template replaced rest

/-- The binding of the DID to its root key, outside development. -/
def checkDocumentBinding (document : Obj) : Result Unit :=
  if out.settings.allowUnsignedPeerDev then .ok () else out.requireDidDocumentBinding document

/-- The checks of a signed document. -/
def checkSignedDocument (document proof : Obj) (did : String) : Result Unit := do
  require ((document.get "id").isStr did) (.invalidParams "did_document_id_mismatch"
    [("did", .str did), ("document_id", document.get "id")])
  require (((proof.get "verificationMethod").str?).any (startsWith (did ++ "#")))
    (.invalidParams "did_document_proof_verification_method_mismatch")
  out.verifyDidDocumentProof document did
  checkDocumentBinding out document
  match anpMessageServices document with
  | [] => .error (.invalidParams "signed_did_document_requires_anp_message_service")
  | [service] => do
    require ((service.get "serviceEndpoint").isStr out.settings.anpServiceEndpoint)
      (.invalidParams "signed_did_document_service_endpoint_mismatch"
        [("actual", service.get "serviceEndpoint"),
          ("expected", .str out.settings.anpServiceEndpoint)])
    require ((service.get "serviceDid").isStr out.settings.serviceDid)
      (.invalidParams "signed_did_document_service_did_mismatch"
        [("actual", service.get "serviceDid"), ("expected", .str out.settings.serviceDid)])
  | _ => .error (.invalidParams "signed_did_document_requires_single_anp_message_service")

/-- `_ensure_anp_message_service`. -/
def ensureAnpMessageService (document : Obj) (did : String) : Result Obj :=
  match document.get "proof" with
  | .obj proof => do
    checkSignedDocument out document proof did
    return document
  | _ =>
    let services := ((document.get "service").arr?).getD []
    .ok (document.set "service"
      (.arr (normalizeServices (serviceTemplate out did) false services)))

/-! ### Checking a request -/

/-- `re.fullmatch(r"sha256:[A-Za-z0-9_-]{43}", text)`. -/
def isDocumentHash (text : String) : Bool :=
  "sha256:".toList.isPrefixOf text.toList &&
    let digest := text.toList.drop 7
    digest.length = 43 && digest.all fun c ↦ c.isAlphanum || c = '_' || c = '-'

/-- `expected_document_hash`, when the request has one. -/
def expectedHash (params : Obj) : Result (Option String) :=
  if params.has "expected_document_hash" then
    match params.get "expected_document_hash" with
    | .str h =>
      if isDocumentHash h then .ok (some h)
      else .error (.invalidParams "expected_document_hash_invalid")
    | _ => .error (.invalidParams "expected_document_hash_invalid")
  else .ok none

/-- `expected_document_version`, when the request has one; it needs a hash beside it. -/
def expectedVersion (params : Obj) (hash : Option String) : Result (Option ℕ) :=
  if params.has "expected_document_version" then
    match params.get "expected_document_version" with
    | .int n =>
      if 1 ≤ n ∧ n < MAX_DOCUMENT_VERSION ∧ hash.isSome then .ok (some n.toNat)
      else .error (.invalidParams "expected_document_version_invalid")
    | _ => .error (.invalidParams "expected_document_version_invalid")
  else .ok none

/-- What `update_document` does before its transaction. -/
def prepareUpdate (r : UpdateRequest) : Result Publication := do
  let _ ← validateLocalUserDid out r.did
  let document ← orRaise (.invalidParams "did_document_required")
    ((r.params.get "document").obj?.or (r.params.get "did_document").obj?)
  let signed := (document.get "proof").obj?.isSome
  require (signed || out.settings.allowUnsignedPeerDev)
    (.invalidParams "unsigned_did_document_requires_dev_mode")
  require ((document.get "id").isNull || (document.get "id").isStr r.did)
    (.invalidParams "document_id_mismatch")
  require (!signed || (document.get "id").isStr r.did)
    (.invalidParams "signed_did_document_id_required")
  let document := if (document.get "id").isNull then document.set "id" (.str r.did) else document
  let document ← ensureAnpMessageService out document r.did
  let manifest ← validateSingleDeviceManifest out document
  let hash ← expectedHash r.params
  let version ← expectedVersion r.params hash
  return { did := r.did, document := document, manifest := manifest, expectedHash := hash,
           expectedVersion := version }

/-! ### The transaction -/

/-- What a `for` loop over a value goes through. -/
def iterated : Json → Result (List Json)
  | .arr items => .ok items
  | .obj fields => .ok (fields.map fun p ↦ .str p.1)
  | .str s => .ok (s.toList.map fun c ↦ .str c.toString)
  | _ => .error (.type "object is not iterable")

/-- `next((item for item in items if item.get("id") == id), None)`. -/
def findMethod (id : Json) : List Json → Result (Option Obj)
  | [] => .ok none
  | .obj method :: rest => if Json.same (Obj.get method "id") id then .ok (some method)
    else findMethod id rest
  | _ :: _ => .error (.type "object has no attribute 'get'")

/-- The entry of `verificationMethod` with an id. -/
def methodOf (document : Obj) (id : Json) : Result (Option Obj) := do
  let items ← iterated (document.getD "verificationMethod" (.arr []))
  findMethod id items

/-- The method that signed a document. -/
def proofMethod (document : Obj) : Json :=
  Obj.get ((document.get "proof").obj?.getD []) "verificationMethod"

/-- A signed document stays with its root key. -/
def rootUnchanged (old new : Obj) : Result Unit := do
  let rootId := proofMethod old
  let oldRoot ← methodOf old rootId
  let newRoot ← methodOf new rootId
  require (match oldRoot, newRoot with
    | some a, some b => Json.same (.obj b) (.obj a) && Json.same (proofMethod new) rootId
    | _, _ => false) (.notSupported "root_change_not_supported")

/-- The new document belongs to the same device, or to the same root key. -/
def checkContinuity (p : Publication) (old : DidDocument) (st : Store) : Result Unit := do
  let oldManifest ← storedManifest out old
  match oldManifest, p.manifest with
  | some o, some n => do
    let current := deviceAccount out p.did o
    require (deviceAccount out p.did n = current)
      (.notSupported "device_key_or_root_change_not_supported")
    let _ ← bindDeviceAccount current false st
  | none, none =>
    match old.document with
    | .obj document =>
      if (Obj.get document "proof").obj?.isSome && !out.settings.allowUnsignedPeerDev then
        rootUnchanged document p.document
      else .ok ()
    | _ => .error (.type "object has no attribute 'get'")
  | _, _ => .error (.notSupported "device_enrollment_or_removal_not_supported")

/-- `UPDATE did_documents SET document_json=?, document_version=?, updated_at=? WHERE did=?`. -/
def Store.writeDocument (st : Store) (did : String) (document : Obj) (version : ℕ) (now : String) :
    Store :=
  { st with
    didDocuments := Table.updateWhere (fun d ↦ decide (d.did = did))
      (fun d ↦ { d with document := .obj document, documentVersion := version, updatedAt := now })
      st.didDocuments }

/-- Hash and version are both those of the stored document. -/
def Publication.exactCas (p : Publication) (hash : String) (version : ℕ) : Bool :=
  p.expectedHash = some hash && p.expectedVersion = some version

/-- The request may go on: it names the stored document or, with a document that is the stored one
already, an earlier version. -/
def Publication.mayProceed (p : Publication) (old : DidDocument) (hash : String) : Bool :=
  match p.expectedVersion with
  | some v => p.exactCas hash old.documentVersion ||
      (Json.same (.obj p.document) old.document && v < old.documentVersion)
  | none => !(p.expectedHash.isSome && !Json.same (.obj p.document) old.document &&
      p.expectedHash ≠ some hash)

/-- The transaction of `update_document`. -/
def publishDocument (p : Publication) (now : String) (st : Store) :
    Result (PublishOutcome × Store) := do
  let old ← orRaise (.unauthorized "did_not_found") (st.activeDocument? p.did)
  let hash ← out.documentHash old.document
  require (p.mayProceed old hash) (.conflict "did_document_changed")
  checkContinuity out p old st
  if !Json.same (.obj p.document) old.document || p.exactCas hash old.documentVersion then do
    require (old.documentVersion < MAX_DOCUMENT_VERSION) (.conflict "document_version_exhausted")
    let version := old.documentVersion + 1
    return (⟨p.did, p.document, version, true⟩, st.writeDocument p.did p.document version now)
  else return (⟨p.did, p.document, old.documentVersion, false⟩, st)

/-- `update_document`. -/
def updateDocument (r : UpdateRequest) : Statements PublishOutcome := do
  let p ← check (prepareUpdate out r)
  .locked (publishDocument out p r.now)

end Documents

/-- **What a committed request has done**: from the state it found to the one it left. -/
structure PublicationStep (out : IdentityOutside) (r : UpdateRequest) (s : Store)
    (a : PublishOutcome) (s' : Store) : Prop where
  step : ∃ p old hash, prepareUpdate out r = .ok p ∧ s.activeDocument? r.did = some old ∧
    out.documentHash old.document = .ok hash ∧
    (a.written = true ↔
      Json.same (.obj p.document) old.document = false ∨
        p.exactCas hash old.documentVersion = true) ∧
    (a.written = true → a.documentVersion = old.documentVersion + 1 ∧
      old.documentVersion < MAX_DOCUMENT_VERSION ∧
      s' = s.writeDocument r.did p.document (old.documentVersion + 1) r.now) ∧
    (a.written = false → a.documentVersion = old.documentVersion ∧ s' = s) ∧
    p.mayProceed old hash = true ∧ checkContinuity out p old s = .ok ()

section Steps

variable {out : IdentityOutside} {r : UpdateRequest} {s s' : Store} {a : PublishOutcome}
  {p : Publication} {did : String} {row : DidDocument}

/-- **What a transaction has done.** -/
theorem publishDocument_eq_ok {now : String} (h : publishDocument out p now s = .ok (a, s')) :
    ∃ old hash, s.activeDocument? p.did = some old ∧ out.documentHash old.document = .ok hash ∧
      (a.written = true ↔ Json.same (.obj p.document) old.document = false ∨
        p.exactCas hash old.documentVersion = true) ∧
      (a.written = true → a.documentVersion = old.documentVersion + 1 ∧
        old.documentVersion < MAX_DOCUMENT_VERSION ∧
        s' = s.writeDocument p.did p.document (old.documentVersion + 1) now) ∧
      (a.written = false → a.documentVersion = old.documentVersion ∧ s' = s) ∧
      p.mayProceed old hash = true ∧ checkContinuity out p old s = .ok () := by
  obtain ⟨old, hold, h⟩ := bind_eq_ok.mp h
  obtain ⟨hash, hhash, h⟩ := bind_eq_ok.mp h
  obtain ⟨_, hproceed, h⟩ := bind_eq_ok.mp h
  obtain ⟨_, hcontinuity, h⟩ := bind_eq_ok.mp h
  refine ⟨old, hash, orRaise_eq_ok.mp hold, hhash, ?_⟩
  split at h
  · rename_i hwrite
    obtain ⟨_, hbound, h⟩ := bind_eq_ok.mp h
    obtain ⟨rfl, rfl⟩ := Prod.mk.inj (pure_eq_ok.mp h)
    refine ⟨⟨fun _ ↦ by simpa using hwrite, fun _ ↦ rfl⟩, fun _ ↦ ⟨rfl, ?_, rfl⟩,
      fun hno ↦ (by cases hno), require_eq_ok.mp hproceed, hcontinuity⟩
    exact of_decide_eq_true (require_eq_ok.mp hbound)
  · rename_i hskip
    obtain ⟨rfl, rfl⟩ := Prod.mk.inj (pure_eq_ok.mp h)
    refine ⟨⟨fun hno ↦ (by cases hno), fun hwrite ↦ ?_⟩, fun hno ↦ (by cases hno),
      fun _ ↦ ⟨rfl, rfl⟩, require_eq_ok.mp hproceed, hcontinuity⟩
    exact absurd (by simpa using hwrite) hskip

/-- The active document of an identity after a write, and of everybody else. -/
theorem activeDocument?_writeDocument {document : Obj} {version : ℕ} {now written : String} :
    (s.writeDocument written document version now).activeDocument? did =
      (s.activeDocument? did).map fun d ↦
        if d.did = written then
          { d with document := .obj document, documentVersion := version, updatedAt := now }
        else d := by
  rw [Store.activeDocument?, Store.activeDocument?, Store.writeDocument, Table.updateWhere,
    List.find?_map]
  have hpick : ((fun d : DidDocument ↦ decide (d.did = did ∧ d.status = .active ∧
      d.revokedAt = none)) ∘ fun d ↦ if decide (d.did = written) = true then
        { d with document := .obj document, documentVersion := version, updatedAt := now } else d) =
      fun d ↦ decide (d.did = did ∧ d.status = .active ∧ d.revokedAt = none) := by
    funext d
    by_cases hd : d.did = written
    · simp [hd]
    · simp [hd]
  rw [hpick]
  simp

/-- A version that is named is the stored one. -/
theorem Publication.version_of_exactCas {hash : String} {version v : ℕ}
    (h : p.exactCas hash version = true) (hv : p.expectedVersion = some v) : v = version := by
  rw [Publication.exactCas, Bool.and_eq_true, decide_eq_true_eq, decide_eq_true_eq, hv] at h
  exact Option.some.inj h.2

/-- A request that names a version and goes on means the stored document, or brings the stored
document again for an earlier version. -/
theorem exactCas_or_lt {old : DidDocument} {hash : String} {v : ℕ}
    (h : p.mayProceed old hash = true) (hv : p.expectedVersion = some v) :
    p.exactCas hash old.documentVersion = true ∨
      (Json.same (.obj p.document) old.document = true ∧ v < old.documentVersion) := by
  simpa only [Publication.mayProceed, hv, Bool.or_eq_true, Bool.and_eq_true, decide_eq_true_eq]
    using h

/-- The version a request names. -/
def UpdateRequest.version? (r : UpdateRequest) : Option ℕ :=
  match expectedHash r.params with
  | .ok hash =>
    match expectedVersion r.params hash with
    | .ok version => version
    | .error _ => none
  | .error _ => none

/-- Preparing keeps the version that is named. -/
theorem prepareUpdate_version (h : prepareUpdate out r = .ok p) :
    p.expectedVersion = r.version? := by
  obtain ⟨_, -, h⟩ := bind_eq_ok.mp h
  obtain ⟨asked, -, h⟩ := bind_eq_ok.mp h
  obtain ⟨_, -, h⟩ := bind_eq_ok.mp h
  obtain ⟨_, -, h⟩ := bind_eq_ok.mp h
  obtain ⟨_, -, h⟩ := bind_eq_ok.mp h
  obtain ⟨document, -, h⟩ := bind_eq_ok.mp h
  obtain ⟨manifest, -, h⟩ := bind_eq_ok.mp h
  obtain ⟨hash, hhash, h⟩ := bind_eq_ok.mp h
  obtain ⟨version, hversion, h⟩ := bind_eq_ok.mp h
  obtain rfl := pure_eq_ok.mp h
  simp [UpdateRequest.version?, hhash, hversion]

/-- **The version never goes down**, and a request that named a version leaves a later one. -/
theorem PublicationStep.version_le (h : PublicationStep out r s a s')
    (hrow : s'.activeDocument? did = some row) :
    (∃ old, s.activeDocument? did = some old ∧ old.documentVersion ≤ row.documentVersion) ∧
      (did = r.did → ∀ v, r.version? = some v → v < row.documentVersion) := by
  obtain ⟨p, old, hash, hp, hold, -, hwritten, hyes, hno, hproceed, -⟩ := h.step
  have hversion := prepareUpdate_version hp
  cases hw : a.written with
  | false =>
    obtain ⟨-, rfl⟩ := hno hw
    refine ⟨⟨row, hrow, Nat.le_refl _⟩, ?_⟩
    rintro rfl v hv
    obtain rfl := Option.some.inj (hold.symm.trans hrow)
    rcases exactCas_or_lt hproceed (hversion.trans hv) with hcas | ⟨-, hlt⟩
    · rw [hwritten.mpr (.inr hcas)] at hw
      cases hw
    · exact hlt
  | true =>
    obtain ⟨-, -, rfl⟩ := hyes hw
    rw [activeDocument?_writeDocument] at hrow
    obtain ⟨old', hold', rfl⟩ := Option.map_eq_some_iff.mp hrow
    have hkey := (activeDocument?_eq_some hold').2.1
    by_cases hdid : did = r.did
    · subst hdid
      obtain rfl := Option.some.inj (hold.symm.trans hold')
      rw [if_pos hkey]
      refine ⟨⟨old, hold, Nat.le_succ _⟩, fun _ v hv ↦ ?_⟩
      rcases exactCas_or_lt hproceed (hversion.trans hv) with hcas | ⟨-, hlt⟩
      · rw [Publication.version_of_exactCas hcas (hversion.trans hv)]
        exact Nat.lt_succ_self _
      · exact Nat.lt_succ_of_lt hlt
    · rw [if_neg fun h ↦ hdid (hkey.symm.trans h)]
      exact ⟨⟨old', hold', Nat.le_refl _⟩, fun h ↦ absurd h hdid⟩

/-- Only `did_documents` changes, and no version grows beyond the bound. -/
theorem PublicationStep.frame (h : PublicationStep out r s a s') :
    s'.singleDeviceAccounts = s.singleDeviceAccounts ∧
      ((∀ row ∈ s.didDocuments, row.documentVersion ≤ MAX_DOCUMENT_VERSION) →
        ∀ row ∈ s'.didDocuments, row.documentVersion ≤ MAX_DOCUMENT_VERSION) := by
  obtain ⟨p, old, hash, -, -, -, -, hyes, hno, -⟩ := h.step
  cases hw : a.written with
  | false =>
    obtain ⟨-, rfl⟩ := hno hw
    exact ⟨rfl, fun hbound ↦ hbound⟩
  | true =>
    obtain ⟨-, hlt, rfl⟩ := hyes hw
    refine ⟨rfl, fun hbound row hrow ↦ ?_⟩
    obtain ⟨row₀, hrow₀, rfl⟩ := Table.mem_updateWhere.mp hrow
    split
    · exact hlt
    · exact hbound row₀ hrow₀

end Steps

/-! ### Publishing the stored document again -/

section Again

variable {out : IdentityOutside} {s : Store} {p : Publication} {row : DidDocument}

end Again

/-! ### No update is lost -/

/-- What a serial history of publications leaves behind. -/
structure PublicationFacts (out : IdentityOutside) (st : Store)
    (h : List (UpdateRequest × PublishOutcome)) (s : Store) : Prop where
  accounts : s.singleDeviceAccounts = st.singleDeviceAccounts
  /-- The device of a document that went through is bound. -/
  bound : ∀ e ∈ h, ∀ p m, prepareUpdate out e.1 = .ok p → p.manifest = some m →
    st.deviceAccount? p.did = some (deviceAccount out p.did m)
  /-- A version that was named is an earlier one. -/
  passed : ∀ e ∈ h, ∀ v, e.1.version? = some v → ∀ row, s.activeDocument? e.1.did = some row →
    v < row.documentVersion

section History

variable {out : IdentityOutside} {st s s' : Store} {h : List (UpdateRequest × PublishOutcome)}
  {r : UpdateRequest} {a : PublishOutcome}

/-- The device of a document that goes through is bound. -/
theorem deviceAccount?_of_checkContinuity {p : Publication} {old : DidDocument}
    {m : SingleDeviceManifest} (h : checkContinuity out p old s = .ok ())
    (hm : p.manifest = some m) : s.deviceAccount? p.did = some (deviceAccount out p.did m) := by
  obtain ⟨oldManifest, -, h⟩ := bind_eq_ok.mp h
  rw [hm] at h
  cases oldManifest with
  | none => cases h
  | some o =>
    obtain ⟨_, hsame, h⟩ := bind_eq_ok.mp h
    obtain ⟨s₁, hbind, -⟩ := bind_eq_ok.mp h
    obtain ⟨hread, hbound, -⟩ := bindDeviceAccount_eq_ok hbind
    rw [hread rfl] at hbound
    rw [of_decide_eq_true (require_eq_ok.mp hsame)]
    exact hbound

/-- One more publication. -/
theorem PublicationFacts.step (hf : PublicationFacts out st h s)
    (hstep : PublicationStep out r s a s') : PublicationFacts out st (h ++ [(r, a)]) s' where
  accounts := hstep.frame.1.trans hf.accounts
  bound e he p m hp hm := by
    rcases List.mem_append.mp he with he | he
    · exact hf.bound e he p m hp hm
    · obtain rfl := List.mem_singleton.mp he
      obtain ⟨p', old, hash, hp', -, -, -, -, -, -, hcontinuity⟩ := hstep.step
      obtain rfl := Except.ok.inj (hp.symm.trans hp')
      have hbound := deviceAccount?_of_checkContinuity hcontinuity hm
      rwa [Store.deviceAccount?, hf.accounts] at hbound
  passed e he v hv row hrow := by
    obtain ⟨⟨old, hold, hle⟩, hnamed⟩ := hstep.version_le hrow
    rcases List.mem_append.mp he with he | he
    · exact lt_of_lt_of_le (hf.passed e he v hv old hold) hle
    · obtain rfl := List.mem_singleton.mp he
      exact hnamed rfl v hv

end History

-- other modules reason about what a checked request writes, not about the checks
attribute [irreducible] prepareUpdate

end Awiki
