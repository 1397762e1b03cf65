import AwikiOpenServer.Attachments.Slots
import AwikiOpenServer.Shared.Jsonrpc

/-!
# The JSON-RPC endpoints

The two endpoints of the message service, from the decoded body of a request to its HTTP response.
The public one, `anp_im_rpc`, dispatches strictly, always; the local one, `im_rpc`, only where the
payload asks for it by its `meta`, and serves every other call loosely, with its old reply.

Two things are proved: what the public endpoint answers to any payload (`anp_im_rpc_replies`), and
that what `anp.get_capabilities` lists is what each endpoint serves (`capabilities_agree`).

## Where a body becomes a payload, and a reply a response

Decoding and encoding are the framework's and the interpreter's, so they are at the edge of the
model and not inside it: `DecodedBody` says what the decoder made of the bytes, and `encodes` which
replies can be rendered. Both ends can fail in a way that no reply tells of. The decoders of the two
endpoints differ in what they catch; an integer with too many digits is a parse error to one and an
exception to the other, and a document nested too deeply leaves both. A reply that echoes a `NaN` or
a lone surrogate from the request cannot be encoded. All of these are `HttpReply.failed`, and the
theorem names them; the handler may have run before the last of them, so a failed response does not
mean that nothing was done.

## Which methods an endpoint has

The handlers of the public endpoint are those of the registry's public methods; the local endpoint
has all of `MESSAGE_HANDLERS`. Three methods have a handler that only raises `not_supported`, and
are advertised nowhere. So "is listed" and "has a handler" are not the same, and the theorem about
capabilities is about serving: a listed method reaches its own handler, in a strict dispatch for
every envelope its contract accepts and in a loose one for every validated call; any other method
gets an error and leaves the state alone, whether it is unknown, known to the other endpoint only,
or one of the three.

`capabilities` is modelled whole, with all members the document has, since the theorem reads its
list of methods off the document and not off the registry. That the two agree is
`listedMethods_capabilities`.
-/

namespace Awiki

open Py

/-! ### Handlers -/

/-- The keys of `MESSAGE_HANDLERS`. -/
def MESSAGE_METHODS : List String :=
  ["anp.get_capabilities", "direct.send", "direct.get_history", "inbox.get", "inbox.mark_read",
    "read_state.mark_read", "sync.delta", "sync.bootstrap", "sync.snapshot", "sync.thread_after",
    "message.get_batch", "group.get_info", "group.join", "group.leave", "group.send", "group.get",
    "group.list", "group.list_members", "group.list_messages", "attachment.create_slot",
    "attachment.commit_object", "attachment.abort_object", "attachment.get_download_ticket",
    "group.incoming", "group.state_changed", "direct.e2ee.publish_prekey_bundle",
    "direct.e2ee.get_prekey_bundle", "group.e2ee.publish_key_package", "group.create", "group.add",
    "group.remove", "group.rebind_member", "group.update_profile", "group.update_policy"]

/-- The methods `MESSAGE_HANDLERS` gives to `not_supported`. -/
def UNSUPPORTED_METHODS : List String :=
  ["direct.e2ee.publish_prekey_bundle", "direct.e2ee.get_prekey_bundle",
    "group.e2ee.publish_key_package"]

variable {σ : Type}

/-- The error that `not_supported` raises. -/
def notSupportedError (params : Obj) : AwikiError :=
  .notSupported "not_supported" [("upgrade", .str "commercial"), ("params", .obj params)]

/-- `not_supported`. -/
def notSupportedHandler : Handler σ := fun params s ↦ (.error (notSupportedError params), s)

/-- `MESSAGE_HANDLERS`: `handle method` is the handler of a method, where that is not
`not_supported`. -/
def messageHandlers (handle : String → Handler σ) : Handlers σ := fun method ↦
  if UNSUPPORTED_METHODS.contains method then some notSupportedHandler
  else if MESSAGE_METHODS.contains method then some (handle method)
  else none

/-- The handlers of an endpoint: all of them, or `public_handlers`. -/
def endpointHandlers (surface : Surface) (handle : String → Handler σ) : Handlers σ :=
  match surface with
  | .localRpc => messageHandlers handle
  | .publicRpc => fun method ↦
    if PUBLIC_ANP_METHODS.contains method then messageHandlers handle method else none

/-! ### Endpoints -/

/-- What `json.loads` makes of the body of a request: a payload, an error that the endpoint catches,
or one that leaves it. Both endpoints catch bytes that are no UTF-8 and texts that are no JSON.
`im_rpc` also catches a member given twice, and any other `ValueError`; to `anp_im_rpc` an integer
of more than 4300 digits is one that leaves it. A nesting too deep for the decoder, a
`RecursionError`, leaves both. -/
inductive DecodedBody where
  | json (payload : Json)
  | malformed
  | failed

/-- What an endpoint answers: a JSON body, an empty one, or an exception that leaves it, which the
framework turns into a status of 500. -/
inductive HttpReply where
  | json (status : ℕ) (body : Json)
  | empty (status : ℕ)
  | failed

/-- A reply as a response. `encodes` says of a reply that `JSONResponse` can render it; one that
echoes a `NaN` or a lone surrogate, or nests too deep, is an exception instead. -/
def respond (encodes : Obj → Bool) (status : ℕ) (reply : Obj) : HttpReply :=
  if encodes reply then .json status (.obj reply) else .failed

/-- `error.get("code") == code`, for an error of a reply. -/
def hasErrorCode (reply : Obj) (code : ℤ) : Bool :=
  match (reply.get "error").obj? with
  | some error => Json.same (Obj.get error "code") (.int code)
  | none => false

/-- Whether a local payload asks for the strict dispatch; a profile that is no key is a
`TypeError`. -/
def canonicalEnvelope (payload : Json) : Option Bool :=
  match ((payload.obj?.getD []).get "params").obj? with
  | none => some false
  | some params =>
    if !Obj.has params "meta" then some false
    else
      match Obj.get params "meta" with
      | .obj metaObj =>
        let profile := Obj.get metaObj "profile"
        if profile.hashable then
          some (profile.isStr "anp.sync.local.v2" || profile.isStr "anp.group.base.v2")
        else none
      | _ => some true

/-- The messages a session error is known by. -/
def SESSION_ERRORS : List String :=
  ["invalid_bearer_token", "missing_authentication", "missing_bearer_token",
    "invalid_http_signature", "device_authorization_invalid"]

/-- The response of `im_rpc` to a reply of the strict dispatch. -/
def sessionReply (encodes : Obj → Bool) : Option Obj → HttpReply
  | none => .json 200 .null
  | some reply =>
    let error := (reply.get "error").obj?.getD []
    if hasErrorCode reply 1005 && SESSION_ERRORS.any (Obj.get error "message").isStr then
      respond encodes 401
        (reply.set "error" (.obj (Obj.set error "message" (.str "session_unauthorized"))))
    else respond encodes 200 reply

/-- `im_rpc`. -/
def imRpc (encodes : Obj → Bool) (coerceId : Json → Option Json) (detail : AwikiError → String)
    (handle : String → Handler σ) (body : DecodedBody) (s : σ) : HttpReply × σ :=
  match body with
  | .failed => (.failed, s)
  | .malformed => (.json 200 (.obj parseError), s)
  | .json payload =>
    match canonicalEnvelope payload with
    | none => (.failed, s)
    | some true =>
      let outcome := strictDispatch (endpointHandlers .localRpc handle) .localRpc payload s
      (sessionReply encodes outcome.reply, outcome.state)
    | some false =>
      let (reply, s') := looseDispatch coerceId detail (endpointHandlers .localRpc handle) payload s
      (respond encodes 200 reply, s')

/-- `method in PUBLIC_NOTIFICATION_METHODS and "id" not in payload`. -/
def isPublicNotification (payload : Json) : Bool :=
  PUBLIC_NOTIFICATION_METHODS.any ((payload.obj?.getD []).get "method").isStr &&
    !(payload.obj?.getD []).has "id"

/-- The envelope is of the version 2 profile of groups. -/
def isGroupV2 (payload : Json) : Bool :=
  match (((payload.obj?.getD []).get "params").obj?.getD []).get "meta" with
  | .obj metaObj => (Obj.get metaObj "profile").isStr "anp.group.base.v2"
  | _ => false

/-- The response of `anp_im_rpc`. -/
def publicReply (encodes : Obj → Bool) (payload : Json) (outcome : Outcome σ) : HttpReply :=
  if !((payload.obj?.getD []).get "method").hashable then .failed
  else if isPublicNotification payload then
    if isGroupV2 payload then
      match outcome.notificationErrorStatus with
      | some status => .empty status
      | none => .empty (if (outcome.reply.getD []).has "error" then 400 else 204)
    else .empty 204
  else
    match outcome.reply with
    | none => .empty 204
    | some reply => respond encodes (if hasErrorCode reply 1005 then 401 else 200) reply

/-- `anp_im_rpc`. -/
def anpImRpc (encodes : Obj → Bool) (handle : String → Handler σ) (body : DecodedBody) (s : σ) :
    HttpReply × σ :=
  match body with
  | .failed => (.failed, s)
  | .malformed => (.json 200 (.obj parseError), s)
  | .json payload =>
    let outcome := strictDispatch (endpointHandlers .publicRpc handle) .publicRpc payload s
    (publicReply encodes payload outcome, outcome.state)

/-! ### Capabilities -/

/-- The entry of a method in `features.methods`. -/
def methodFeature (c : MethodContract) : Obj :=
  let required (b : Bool) : Json := .str (if b then "required" else "not_required")
  [("profile", .str c.profile), ("profiles", .arr (c.profiles.map .str)),
    ("kind", .str c.rpcKind.text),
    ("surfaces", .arr (((c.surfaces.map Surface.text).insertionSort (· ≤ ·)).map .str)),
    ("principal", .str c.principal.text), ("origin_proof", required c.originProofRequired),
    ("receipt_proof", required c.receiptProofRequired),
    ("wns_binding", required c.wnsBindingRequired)]

/-- `features.methods` of `capabilities`. -/
def methodFeatures (surface : Surface) : Obj :=
  (METHOD_CONTRACTS.filter fun c ↦ c.advertised && c.surfaces.contains surface).map fun c ↦
    (c.method, .obj (methodFeature c))

/-- The methods a group participant may use. -/
def PARTICIPANT_METHODS : List String :=
  ["group.create", "group.get_info", "group.join", "group.add", "group.remove",
    "group.rebind_member", "group.leave", "group.update_profile", "group.update_policy",
    "group.send", "group.get", "group.list", "group.list_members", "group.list_messages"]

/-- `capabilities`. The scheme of a URL is ASCII, so `lower` only has to lower ASCII. -/
def capabilities (settings : AttachmentSettings) (publicBaseUrl : String) (surface : Surface) :
    Obj :=
  let off (reason : String) : Json := .obj [("enabled", .bool false), ("reason", .str reason)]
  let on : Json :=
    .obj [("enabled", .bool true), ("mode", .str "did_discovery_direct_call")]
  let texts (l : List String) : Json := .arr (l.map .str)
  let profiles := texts (if surface = .publicRpc then STANDARD_PROFILES
    else STANDARD_PROFILES ++ LOCAL_PROFILES)
  let maxBytes : Json := .str (toString settings.maxAttachmentBytes)
  let ordinarySync : Obj := [("ordinary_sync", .obj [
    ("profile", .str "anp.sync.local.v2"),
    ("explicit_negotiation", .str "awiki.message-sync.explicit-negotiation.v1"),
    ("snapshot", .str "sync.snapshot_paging.v1"), ("snapshot_schema", .int 3),
    ("max_devices", .int 1), ("max_client_instances", .int 1), ("lanes", .arr []),
    ("client_subscription_compatibility", .str "empty_streams"), ("history", .str "retained_log"),
    ("ws_subprotocol", .str "awiki.sync.event.v3")])]
  let features : Obj := [("cross_domain_direct", on), ("cross_domain_group", on),
    ("federation", .obj [("mode", .str "did_discovery_direct_call"), ("relay_mesh", .bool false)]),
    ("attachment", .obj [("upload", .bool true), ("download", .bool true), ("https_only",
      .bool ((publicBaseUrl.toList.take 8).map Char.toLower = "https://".toList))]),
    ("methods", .obj (methodFeatures surface)),
    ("group_participant", .obj [("enabled", .bool true), ("management", .bool true),
      ("join_modes", texts ["open-join", "admin-add"]), ("max_members", .str "100"),
      ("supported_methods", texts PARTICIPANT_METHODS)])]
  [("service_did", .str settings.serviceDid), ("edition", .str "community"), ("profiles", profiles),
    ("supported_profiles", profiles), ("security_profiles", texts ["transport-protected"]),
    ("supported_security_profiles", texts ["transport-protected"]),
    ("supported_content_types", texts ["text/plain", "application/json",
      "application/anp-attachment-manifest+json"]),
    ("transports", texts ["http", if startsWith "https://" publicBaseUrl then "wss" else "ws"]),
    ("limits", .obj [("max_object_bytes", maxBytes), ("max_attachment_bytes", maxBytes),
      ("max_joined_groups_per_user", .str "20"), ("max_content_pages_per_handle", .str "5")]),
    ("proof_policies", .obj [("direct_base_origin_proof", .str "required"),
      ("group_base_origin_proof", .str "required_for_all_mutations_and_send"),
      ("direct_e2ee_origin_proof", .str "not_supported"),
      ("service_http_signature", .str "required_for_cross_domain")]),
    ("direct_e2ee", off "community_edition"), ("group_e2ee", off "community_edition"),
    ("features", .obj (features ++ if surface = .publicRpc then [] else ordinarySync)),
    ("disabled_features", .obj [("direct_e2ee", .str "commercial"),
      ("group_e2ee", .str "not_supported_in_community_v1"),
      ("large_group_fanout", .str "commercial"), ("group_ha", .str "commercial"),
      ("federation_relay", .str "commercial"), ("relay_mesh", .str "not_supported"),
      ("multi_device", .str "not_supported"),
      ("sync_v2_mode", .str "standard_explicit_negotiation"),
      ("encrypted_attachment", .str "not_supported"), ("managed_runtime_agents", .str "commercial"),
      ("tenant_site_hosting", .str "commercial")])]

/-- The methods a capabilities document lists. -/
def listedMethods (document : Obj) : List String :=
  ((((document.get "features").obj?.getD []).get "methods").obj?.getD []).map Prod.fst

/-- The document lists what the registry advertises for the endpoint. -/
theorem listedMethods_capabilities (settings : AttachmentSettings) (publicBaseUrl : String)
    (surface : Surface) :
    listedMethods (capabilities settings publicBaseUrl surface) =
      methodsForSurface surface true := by
  have hfeatures :
      ((((capabilities settings publicBaseUrl surface).get "features").obj?.getD []).get
        "methods").obj?.getD [] = methodFeatures surface := by
    cases surface <;> rfl
  rw [listedMethods, hfeatures, methodFeatures, List.map_map, methodsForSurface]
  congr 1
  refine List.filter_congr fun c _ ↦ ?_
  rw [Bool.not_true, Bool.or_false, Bool.and_comm]

/-- Every method that is offered has a handler of its own. -/
theorem handled_of_advertised {c : MethodContract} {surface : Surface} (hc : c ∈ METHOD_CONTRACTS)
    (hsurface : surface ∈ c.surfaces) (hadvertised : c.advertised = true)
    (handle : String → Handler σ) :
    endpointHandlers surface handle c.method = some (handle c.method) := by
  have hall : (METHOD_CONTRACTS.all fun c ↦ !c.advertised ||
      !UNSUPPORTED_METHODS.contains c.method && MESSAGE_METHODS.contains c.method) = true := by
    decide
  have hmessage : UNSUPPORTED_METHODS.contains c.method = false ∧
      MESSAGE_METHODS.contains c.method = true := by
    simpa [hadvertised] using List.all_eq_true.mp hall c hc
  have hhandler : messageHandlers handle c.method = some (handle c.method) := by
    rw [messageHandlers, hmessage.1, if_neg Bool.false_ne_true, if_pos hmessage.2]
  cases surface with
  | localRpc => exact hhandler
  | publicRpc =>
    have hpublic : PUBLIC_ANP_METHODS.contains c.method = true := List.contains_iff_mem.mpr
      (mem_methodsForSurface.mpr ⟨c, contract?_eq_some.mpr ⟨hc, rfl⟩, hsurface, by simp⟩)
    rw [endpointHandlers]
    dsimp only
    rw [if_pos hpublic, hhandler]

/-- A method that has a handler on the local endpoint is one that is offered there, or its handler
is `not_supported`. -/
theorem handled_local {handle : String → Handler σ} {method : String} {handler : Handler σ}
    (h : endpointHandlers .localRpc handle method = some handler) :
    method ∈ methodsForSurface .localRpc true ∧ handler = handle method ∨
      method ∈ UNSUPPORTED_METHODS ∧ handler = notSupportedHandler := by
  have hall : (MESSAGE_METHODS.all fun m ↦ UNSUPPORTED_METHODS.contains m ||
      (methodsForSurface .localRpc true).contains m) = true := by decide
  rw [endpointHandlers, messageHandlers] at h
  split at h
  · rename_i hunsupported
    exact .inr ⟨List.contains_iff_mem.mp hunsupported, (Option.some.inj h).symm⟩
  · rename_i hsupported
    split at h
    · rename_i hmessage
      have hlisted := List.all_eq_true.mp hall method (List.contains_iff_mem.mp hmessage)
      rw [Bool.or_eq_true] at hlisted
      exact .inl ⟨List.contains_iff_mem.mp (hlisted.resolve_left hsupported),
        (Option.some.inj h).symm⟩
    · cases h

/-! ### Replies -/

variable {encodes : Obj → Bool}

/-- An error stays one when the session error is given its one message. -/
theorem sessionReply_of_isError (encodes : Obj → Bool) {reply : Obj} (h : IsError reply) :
    ∃ status reply', IsError reply' ∧
      sessionReply encodes (some reply) = respond encodes status reply' := by
  have hset : ∀ v, IsError (reply.set "error" v) := fun v ↦ by
    refine ⟨?_, ?_⟩
    · rw [Obj.has, Obj.lookup_set, if_pos rfl]
      rfl
    · rw [Obj.has, Obj.lookup_set, if_neg (by decide)]
      exact h.2
  rw [sessionReply]
  split
  · exact ⟨401, _, hset _, rfl⟩
  · exact ⟨200, reply, h, rfl⟩

/-- The public endpoint serves a method: every call of it, with an envelope its contract accepts, is
answered by its handler. -/
def PublicServes (encodes : Obj → Bool) (handle : String → Handler σ) (method : String) : Prop :=
  ∃ contract, contract? method = some contract ∧ ∀ payload id params metaObj body s,
    IsCall payload contract id params → EnvelopeMeets contract .publicRpc params metaObj body →
    anpImRpc encodes handle (.json (.obj payload)) s =
      (publicReply encodes (.obj payload) (serve (handle method) contract id params s),
        (serve (handle method) contract id params s).state)

/-- It refuses one: a payload that names it gets an error, and changes nothing. -/
def PublicRefuses (encodes : Obj → Bool) (handle : String → Handler σ) (method : String) : Prop :=
  ∀ payload s, Obj.get payload "method" = .str method → ∃ status reply,
    IsErrorTo (.obj payload) reply ∧
    anpImRpc encodes handle (.json (.obj payload)) s = (respond encodes status reply, s)

/-- The local endpoint serves a method: a strict call as the public one does, and any other call
that is validated at all with the parameters it brings. -/
structure LocalServes (encodes : Obj → Bool) (coerceId : Json → Option Json)
    (detail : AwikiError → String) (handle : String → Handler σ) (method : String) : Prop where
  strict : ∃ contract, contract? method = some contract ∧ ∀ payload id params metaObj body s,
    canonicalEnvelope (.obj payload) = some true → IsCall payload contract id params →
    EnvelopeMeets contract .localRpc params metaObj body →
    imRpc encodes coerceId detail handle (.json (.obj payload)) s =
      (sessionReply encodes (serve (handle method) contract id params s).reply,
        (serve (handle method) contract id params s).state)
  loose : ∀ payload rpc s, canonicalEnvelope (.obj payload) = some false →
    JsonRpcRequest.modelValidate coerceId (.obj payload) = some rpc → rpc.jsonrpc = "2.0" →
    rpc.method = method →
    imRpc encodes coerceId detail handle (.json (.obj payload)) s =
      (respond encodes 200 (looseReply detail rpc.id (Obj.get payload "id")
        (handle method (normalizeParams rpc.params) s).1),
        (handle method (normalizeParams rpc.params) s).2)

/-- It refuses one: a payload that names it gets an error, or fails for a profile that is no key,
and changes nothing. -/
def LocalRefuses (encodes : Obj → Bool) (coerceId : Json → Option Json)
    (detail : AwikiError → String) (handle : String → Handler σ) (method : String) : Prop :=
  ∀ payload s, Obj.get payload "method" = .str method →
    canonicalEnvelope (.obj payload) = none ∧
      imRpc encodes coerceId detail handle (.json (.obj payload)) s = (.failed, s) ∨
    ∃ status reply, IsError reply ∧
      imRpc encodes coerceId detail handle (.json (.obj payload)) s =
        (respond encodes status reply, s)

section Listed

variable {coerceId : Json → Option Json} {detail : AwikiError → String}
  {handle : String → Handler σ} {method : String} {surface : Surface}

/-- A payload that asks for the strict dispatch. -/
theorem imRpc_strict {payload : Json} (h : canonicalEnvelope payload = some true) (s : σ) :
    imRpc encodes coerceId detail handle (.json payload) s =
      (sessionReply encodes
          (strictDispatch (endpointHandlers .localRpc handle) .localRpc payload s).reply,
        (strictDispatch (endpointHandlers .localRpc handle) .localRpc payload s).state) := by
  rw [imRpc]
  dsimp only
  rw [h]

/-- A payload that does not. -/
theorem imRpc_loose {payload : Json} (h : canonicalEnvelope payload = some false) (s : σ) :
    imRpc encodes coerceId detail handle (.json payload) s =
      (respond encodes 200
          (looseDispatch coerceId detail (endpointHandlers .localRpc handle) payload s).1,
        (looseDispatch coerceId detail (endpointHandlers .localRpc handle) payload s).2) := by
  rw [imRpc]
  dsimp only
  rw [h]

/-- **A listed method is served by a strict dispatch**, for every call and envelope its contract
accepts. -/
theorem strictDispatch_of_listed (handle : String → Handler σ)
    (h : method ∈ methodsForSurface surface true) :
    ∃ contract, contract? method = some contract ∧ ∀ payload id params metaObj body (s : σ),
      IsCall payload contract id params → EnvelopeMeets contract surface params metaObj body →
      strictDispatch (endpointHandlers surface handle) surface (.obj payload) s =
        serve (handle method) contract id params s := by
  obtain ⟨contract, hcontract, hsurface, hadvertised⟩ := mem_methodsForSurface.mp h
  obtain ⟨hmem, rfl⟩ := contract?_eq_some.mp hcontract
  refine ⟨contract, hcontract, fun payload id params metaObj body s hcall henvelope ↦ ?_⟩
  exact strictDispatch_eq_serve ⟨hcall, hmem, hsurface, hadvertised rfl,
    handled_of_advertised hmem hsurface (hadvertised rfl) handle, henvelope⟩ s

/-- **Any other method is refused by it.** A method without a contract for the surface is not
admitted, whatever else the payload is. -/
theorem strictDispatch_of_not_listed (handle : String → Handler σ)
    (h : method ∉ methodsForSurface surface true) {payload : Obj}
    (hmethod : payload.get "method" = .str method) (s : σ) :
    ∃ reply, IsErrorTo (.obj payload) reply ∧
      strictDispatch (endpointHandlers surface handle) surface (.obj payload) s =
        { reply := some reply, state := s } := by
  have hnot : ¬ IsAdmitted (endpointHandlers surface handle) surface (.obj payload) := by
    rintro ⟨payload', handler, contract, id, params, metaObj, body, hpayload, hadmitted⟩
    obtain rfl : payload = payload' := Json.obj.inj hpayload
    obtain rfl : method = contract.method :=
      Json.str.inj (hmethod.symm.trans hadmitted.call.method)
    exact h (mem_methodsForSurface.mpr ⟨contract,
      contract?_eq_some.mpr ⟨hadmitted.listed, rfl⟩, hadmitted.surface_mem,
      fun _ ↦ hadmitted.advertised⟩)
  obtain ⟨reply, heq, herror⟩ := strictDispatch_of_not_isAdmitted hnot s
  exact ⟨reply, herror, heq⟩

/-- A notification that is not listed is answered like any other call. -/
theorem isPublicNotification_of_not_listed (h : method ∉ methodsForSurface .publicRpc true)
    {payload : Obj} (hmethod : payload.get "method" = .str method) :
    isPublicNotification (.obj payload) = false := by
  have hall : (PUBLIC_NOTIFICATION_METHODS.all fun m ↦
      (methodsForSurface .publicRpc true).contains m) = true := by decide
  rw [isPublicNotification, Bool.and_eq_false_iff, List.any_eq_false]
  refine .inl fun m hm hsame ↦ h ?_
  obtain rfl : method = m := Json.str.inj (hmethod.symm.trans (Json.isStr_iff.mp hsame))
  exact List.contains_iff_mem.mp (List.all_eq_true.mp hall method hm)

/-- On the public endpoint every dispatch is strict. -/
theorem publicRefuses_of_not_listed (encodes : Obj → Bool)
    (h : method ∉ methodsForSurface .publicRpc true) : PublicRefuses encodes handle method := by
  intro payload s hmethod
  obtain ⟨reply, herror, heq⟩ := strictDispatch_of_not_listed handle h hmethod s
  have hhashable : (((Json.obj payload).obj?.getD []).get "method").hashable = true := by
    show (payload.get "method").hashable = true
    rw [hmethod]
    rfl
  refine ⟨if hasErrorCode reply 1005 then 401 else 200, reply, herror, ?_⟩
  rw [anpImRpc, heq, publicReply, hhashable, isPublicNotification_of_not_listed h hmethod]
  rfl

/-- On the local one the loose dispatch may reach a handler that is not listed, and that one is
`not_supported`. -/
theorem localRefuses_of_not_listed (encodes : Obj → Bool)
    (h : method ∉ methodsForSurface .localRpc true) :
    LocalRefuses encodes coerceId detail handle method := by
  intro payload s hmethod
  cases hcanonical : canonicalEnvelope (.obj payload) with
  | none =>
    refine .inl ⟨rfl, ?_⟩
    rw [imRpc]
    dsimp only
    rw [hcanonical]
  | some strict =>
    right
    cases strict with
    | true =>
      obtain ⟨reply, herror, heq⟩ := strictDispatch_of_not_listed handle h hmethod s
      obtain ⟨status, reply', herror', hreply⟩ := sessionReply_of_isError encodes herror.isError
      exact ⟨status, reply', herror', by rw [imRpc_strict hcanonical, heq, hreply]⟩
    | false =>
      rw [imRpc_loose hcanonical]
      obtain ⟨reply, herror, heq⟩ | ⟨rpc, handler, hrpc, hversion, hhandler⟩ :=
        looseDispatch_cases coerceId detail (endpointHandlers .localRpc handle) (.obj payload) s
      · exact ⟨200, reply, herror, by rw [heq]⟩
      · obtain rfl : method = rpc.method :=
          Json.str.inj (hmethod.symm.trans (JsonRpcRequest.method_eq hrpc))
        -- what is not listed has no handler but `not_supported`
        obtain ⟨hlisted, -⟩ | ⟨-, rfl⟩ := handled_local hhandler
        · exact absurd hlisted h
        · refine ⟨200, _, isError_looseReply detail rpc.id (Obj.get payload "id")
            (notSupportedError (normalizeParams rpc.params)), ?_⟩
          rw [looseDispatch_eq_serve detail hrpc hversion hhandler]
          rfl

end Listed

/-- **The capabilities of an endpoint are what it serves.** On either endpoint, a method that
`anp.get_capabilities` lists there is served by its handler: from the public one with every envelope
its contract accepts, from the local one also with every validated call that does not ask for the
strict dispatch. A payload that names any other method gets an error and changes nothing; the three
methods that have a handler without being listed have `not_supported`. -/
theorem capabilities_agree (settings : AttachmentSettings) (publicBaseUrl : String)
    (encodes : Obj → Bool) (coerceId : Json → Option Json) (detail : AwikiError → String)
    (handle : String → Handler σ) (method : String) :
    (if method ∈ listedMethods (capabilities settings publicBaseUrl .publicRpc) then
      PublicServes encodes handle method
    else PublicRefuses encodes handle method) ∧
    if method ∈ listedMethods (capabilities settings publicBaseUrl .localRpc) then
      LocalServes encodes coerceId detail handle method
    else LocalRefuses encodes coerceId detail handle method := by
  rw [listedMethods_capabilities, listedMethods_capabilities]
  constructor
  · split
    · rename_i hlisted
      obtain ⟨contract, hcontract, hserved⟩ := strictDispatch_of_listed handle hlisted
      refine ⟨contract, hcontract, fun payload id params metaObj body s hcall henvelope ↦ ?_⟩
      rw [anpImRpc, hserved payload id params metaObj body s hcall henvelope]
    · rename_i hlisted
      exact publicRefuses_of_not_listed encodes hlisted
  · split
    · rename_i hlisted
      obtain ⟨contract, hcontract, hserved⟩ := strictDispatch_of_listed handle hlisted
      refine ⟨⟨contract, hcontract, ?_⟩, ?_⟩
      · intro payload id params metaObj body s hcanonical hcall henvelope
        rw [imRpc_strict hcanonical, hserved payload id params metaObj body s hcall henvelope]
      · rintro payload rpc s hcanonical hrpc hversion rfl
        obtain ⟨c, hc, hsurface, hadvertised⟩ := mem_methodsForSurface.mp hlisted
        obtain ⟨hmem, hname⟩ := contract?_eq_some.mp hc
        have hhandler := handled_of_advertised hmem hsurface (hadvertised rfl) handle
        rw [hname] at hhandler
        rw [imRpc_loose hcanonical, looseDispatch_eq_serve detail hrpc hversion hhandler]
        rfl
    · rename_i hlisted
      exact localRefuses_of_not_listed encodes hlisted

/-- A local request runs at most one handler, once, on the flattened parameters it brings. -/
theorem imRpc_state (encodes : Obj → Bool) (coerceId : Json → Option Json)
    (detail : AwikiError → String) (handle : String → Handler σ) (body : DecodedBody) (s : σ) :
    (imRpc encodes coerceId detail handle body s).2 = s ∨ ∃ payload params method,
      body = .json payload ∧ method ∈ methodsForSurface .localRpc true ∧
      (payload.obj?.getD []).get "method" = .str method ∧
      (imRpc encodes coerceId detail handle body s).2 =
        (handle method (normalizeParams params) s).2 := by
  cases body with
  | failed => exact .inl rfl
  | malformed => exact .inl rfl
  | json payload =>
    -- The two dispatches, strict and loose: each runs a handler behind its checks or none.
    cases hcanonical : canonicalEnvelope payload with
    | none =>
      left
      rw [imRpc]
      dsimp only
      rw [hcanonical]
    | some strict =>
      cases strict with
      | true =>
        rw [imRpc_strict hcanonical]
        by_cases hadmitted : IsAdmitted (endpointHandlers .localRpc handle) .localRpc payload
        · obtain ⟨payload, handler, contract, id, params, metaObj, body, rfl, h⟩ := hadmitted
          have hlisted : contract.method ∈ methodsForSurface .localRpc true :=
            mem_methodsForSurface.mpr ⟨contract, contract?_eq_some.mpr ⟨h.listed, rfl⟩,
              h.surface_mem, fun _ ↦ h.advertised⟩
          have hhandler := handled_of_advertised h.listed h.surface_mem h.advertised handle
          obtain rfl := Option.some.inj (h.handled.symm.trans hhandler)
          refine .inr ⟨_, params, contract.method, rfl, hlisted, h.call.method, ?_⟩
          rw [strictDispatch_eq_serve h, serve]
          dsimp only
          split <;> rfl
        · obtain ⟨reply, heq, -⟩ := strictDispatch_of_not_isAdmitted hadmitted s
          exact .inl (by rw [heq])
      | false =>
        rw [imRpc_loose hcanonical]
        obtain ⟨reply, -, heq⟩ | ⟨rpc, handler, hrpc, hversion, hhandler⟩ :=
          looseDispatch_cases coerceId detail (endpointHandlers .localRpc handle) payload s
        · exact .inl (by rw [heq])
        · rw [looseDispatch_eq_serve detail hrpc hversion hhandler]
          obtain ⟨hlisted, rfl⟩ | ⟨-, rfl⟩ := handled_local hhandler
          · exact .inr ⟨payload, rpc.params, rpc.method, rfl, hlisted,
              JsonRpcRequest.method_eq hrpc, rfl⟩
          · exact .inl rfl

end Awiki
