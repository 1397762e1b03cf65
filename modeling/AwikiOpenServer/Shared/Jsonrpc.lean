import Mathlib.Data.List.Infix
import Mathlib.Data.List.Dedup
import Mathlib.Data.List.Sort
import AwikiOpenServer.Protocol.Registry

/-!
# The dispatcher

A decoded JSON-RPC payload either reaches a handler or is refused with an error reply. The strict
form, which every public call and the canonical local ones take, checks the payload against the
contract of its method first: `Admitted` says what a call must be, and `strict_dispatch_gate` that
**a handler runs exactly for the admitted calls**, the state being left as it is for all others. The
loose form, of all other local calls, checks that the payload is a request at all and that its
method has a handler (`looseDispatch_cases`).

What the handler gets is the envelope flattened by `normalizeParams`. Its members come from the body
before anything else; the members of the envelope beside `meta` and `body` only show up under
reserved names (`strict_params_signed`).

A handler is a function of the parameters and of a state that the dispatcher knows nothing about.

## Two descriptions of the checks

`strictChecks` is the source's function, check after check, each with the error reply it answers
with. `Admitted` is what passes, as a structure with a field for each requirement, so that a proof
about an admitted call names the requirement it uses. `strictChecks_eq_ok` says that they agree. The
order of the checks decides only *which* error is answered; that it is always an error reply to this
payload is a separate statement about all of them (`refuses_strictChecks`), by composition: every
check refuses with such a reply, so any sequence of them does.

`EnvelopeCheck` is an `Except` whose error is the reply itself. The lemmas at its head mirror those
of `Result`, with `Refuses` in the place of `RaisesOnly`.

## What a proof signs

An origin proof signs `meta` and `body`, and what a handler acts on is the flattened dictionary.
That the second is determined by the first is not obvious from the code, which merges five parts one
over the other; `strict_params_signed` proves it by comparing two envelopes with the same signed
parts (`SameBut`), following the merges. Two members are excepted: the proof itself, and the
client's own notes of a local call, both under reserved names that no body can take.

## What is a parameter

`coerceId` is the coercion pydantic applies to the id, `detail` the text of an exception that is no
`AwikiError`. Neither decides whether a handler runs.
-/

namespace Awiki

open Py

/-- A handler: what it answers or raises, and the state it leaves. -/
abbrev Handler (σ : Type) := Obj → σ → Result Json × σ

/-- The handlers of an endpoint. -/
abbrev Handlers (σ : Type) := String → Option (Handler σ)

/-! ### Replies -/

/-- `ok`. -/
def okReply (result id : Json) : Obj := [("jsonrpc", .str "2.0"), ("result", result), ("id", id)]

/-- A string, or `None`. -/
def idOrNull (id : Option String) : Json := (id.map Json.str).getD .null

/-- `standard_error`. -/
def standardError (code : ℤ) (message : String) (id : Option String) (data : Obj := []) : Obj :=
  let error : Obj := [("code", .int code), ("message", .str message)] ++
    if data.isEmpty then [] else [("data", .obj data)]
  [("jsonrpc", .str "2.0"), ("error", .obj error), ("id", idOrNull id)]

/-- `anp_error`. -/
def anpError (code : ℤ) (anpCode : String) (id : Option String) (message : String := "")
    (retryable : Bool := false) (details : Obj := []) : Obj :=
  standardError code (if message = "" then anpCode else message) id
    [("anp_code", .str anpCode), ("retryable", .bool retryable), ("details", .obj details)]

/-- `parse_error`. -/
def parseError : Obj := standardError (-32700) "Parse error" none

/-- `err`. -/
def errReply (code : ℤ) (message : String) (data : Obj) (id : Json) : Obj :=
  let error : Obj := [("code", .int code), ("message", .str message)] ++
    if data.isEmpty then [] else [("data", .obj data)]
  [("jsonrpc", .str "2.0"), ("error", .obj error), ("id", id)]

/-! ### Parameters -/

/-- The members of some keys only. -/
def only (keys : List String) (o : Obj) : Obj := o.filter fun p ↦ keys.contains p.1

/-- `isinstance(params.get(key), dict)`, under the reserved name. -/
def reservedPart (params : Obj) (key name : String) (normalized : Obj) : Obj :=
  match params.get key with
  | .obj part => normalized.set name (.obj part)
  | _ => normalized

/-- What the target of an envelope adds to the parameters. -/
def addTarget (metaObj normalized : Obj) : Obj :=
  match metaObj.get "target" with
  | .obj target =>
    let targetDid := Obj.get target "did"
    if !targetDid.truthy then normalized
    else if (Obj.get target "kind").isStr "group" && !normalized.has "group_did" then
      normalized.set "group_did" targetDid
    else if !normalized.has "recipient_did" then normalized.set "recipient_did" targetDid
    else normalized
  | _ => normalized

/-- The members of `params` that are not passed on. -/
def ENVELOPE_KEYS : List String := ["meta", "auth", "body", "client"]

/-- The members of `meta` that are. -/
def META_MEMBERS : List String := ["sender_did", "message_id", "operation_id", "content_type"]

/-- The parameters without what `meta` adds to them. -/
def bodyParams (params body : Obj) : Obj :=
  let reserved := reservedPart params "client" "_anp_client"
    (reservedPart params "auth" "_anp_auth"
      ((reservedPart params "meta" "_anp_meta" body).set "_anp_body" (.obj body)))
  Obj.merge (params.without ENVELOPE_KEYS) reserved

/-- `normalize_params`. -/
def normalizeParams (params : Obj) : Obj :=
  match params.get "body" with
  | .obj body =>
    match params.get "meta" with
    | .obj metaObj =>
      addTarget metaObj (Obj.merge (only META_MEMBERS metaObj) (bodyParams params body))
    | _ => bodyParams params body
  | _ => params

/-! ### The envelope -/

/-- `_nonempty_string`. -/
def nonemptyString : Json → Bool
  | .str s => !isBlank s
  | _ => false

/-- A check that answers with an error reply when it fails. -/
abbrev EnvelopeCheck (α : Type) := Except Obj α

/-- `if not c: return reply`. -/
def unlessRefused (c : Bool) (reply : Obj) : EnvelopeCheck Unit :=
  if c then .ok () else .error reply

/-- A dictionary, or the reply when it is none. -/
def objectOr (reply : Obj) : Json → EnvelopeCheck Obj
  | .obj o => .ok o
  | _ => .error reply

/-- `_ANP_META_KEYS`. -/
def ANP_META_KEYS : List String :=
  ["anp_version", "profile", "security_profile", "sender_did", "target", "operation_id",
    "message_id", "created_at", "content_type", "trace", "trace_id"]

/-- `_ANP_PARAM_KEYS`, and `client` for local calls. -/
def allowedParamKeys (surface : Surface) : List String :=
  ["meta", "auth", "body"] ++ if surface = .localRpc then ["client"] else []

/-- `sorted(set(o) - allowed)`. -/
def unexpectedKeys (o : Obj) (allowed : List String) : List String :=
  ((o.map Prod.fst).dedup.filter fun k ↦ !allowed.contains k).insertionSort (· ≤ ·)

/-- The error about an envelope that has not the shape of one. -/
def shapeError (id : Option String) (details : Obj) : Obj :=
  anpError 1003 "anp.invalid_params_shape" id "" false details

/-- The check of a member of `meta` that a contract may ask for. -/
def presentMember (id : Option String) (metaObj : Obj) (needed : Bool) (field : String) :
    EnvelopeCheck Unit :=
  unlessRefused (!needed || nonemptyString (metaObj.get field))
    (shapeError id [("field", .str ("meta." ++ field))])

/-- The check of the target of an envelope. -/
def strictTarget (contract : MethodContract) (id : Option String) (metaObj : Obj) :
    EnvelopeCheck Unit :=
  match contract.targetKind with
  | none =>
    unlessRefused (metaObj.get "target").isNull
      (anpError 1014 "anp.invalid_target_binding" id "" false [("expected", .str "endpoint-local")])
  | some kind => do
    let refusal := anpError 1014 "anp.invalid_target_binding" id "" false
      [("expected_kind", .str kind.text)]
    let target ← objectOr refusal (metaObj.get "target")
    unlessRefused ((Obj.get target "kind").isStr kind.text && nonemptyString (Obj.get target "did"))
      refusal

/-- `_strict_envelope`: the parameters, or the error reply. -/
def strictEnvelope (method : String) (params : Json) (contract : MethodContract)
    (id : Option String) (surface : Surface) : EnvelopeCheck Obj := do
  let params ← objectOr (shapeError id [("expected", .str "object")]) params
  let extra := unexpectedKeys params (allowedParamKeys surface)
  unlessRefused extra.isEmpty (shapeError id [("unexpected_fields", .arr (extra.map .str))])
  let required := shapeError id [("required", .arr [.str "meta", .str "body"])]
  let metaObj ← objectOr required (params.get "meta")
  let _ ← objectOr required (params.get "body")
  unlessRefused ((params.get "auth").isNull || (params.get "auth").obj?.isSome)
    (shapeError id [("field", .str "auth"), ("expected", .str "object")])
  unlessRefused (!params.has "client" || (params.get "client").obj?.isSome)
    (shapeError id [("field", .str "client"), ("expected", .str "object")])
  let extraMeta := unexpectedKeys metaObj ANP_META_KEYS
  unlessRefused extraMeta.isEmpty
    (shapeError id [("field", .str "meta"), ("unexpected_fields", .arr (extraMeta.map .str))])
  unlessRefused (contract.profiles.any fun p ↦ (metaObj.get "profile").isStr p)
    (anpError 1001 "anp.unsupported_profile" id "" false
      [("method", .str method), ("expected", .arr (contract.profiles.map .str)),
        ("actual", metaObj.get "profile")])
  unlessRefused ((metaObj.get "security_profile").isStr "transport-protected")
    (anpError 1002 "anp.unsupported_security_profile" id "" false
      [("actual", metaObj.get "security_profile")])
  presentMember id metaObj contract.senderRequired "sender_did"
  presentMember id metaObj contract.operationRequired "operation_id"
  presentMember id metaObj contract.messageRequired "message_id"
  presentMember id metaObj contract.contentTypeRequired "content_type"
  strictTarget contract id metaObj
  return params

/-- `_strict_request_id`: the id the reply carries. -/
def strictRequestId (payload : Obj) (contract : MethodContract) : EnvelopeCheck (Option String) :=
  match contract.rpcKind with
  | .notification => do
    unlessRefused (!payload.has "id")
      (standardError (-32600) "Invalid Request" (payload.get "id").str?
        [("reason", .str "anp.notification_must_not_have_id")])
    return none
  | .request => do
    unlessRefused (nonemptyString (payload.get "id"))
      (anpError 1000 "anp.invalid_request_id" none "" false
        [("expected", .str "non-empty string")])
    return (payload.get "id").str?

/-! ### Errors of handlers -/

/-- `needle in text`. -/
def containsText (needle text : String) : Bool := decide (needle.toList <:+: text.toList)

/-- `group_codes`. -/
def groupCodes : List (String × ℤ) :=
  [("group.not_member", 3000), ("group.already_member", 3001), ("group.policy_violation", 3003),
    ("group.invalid_group_receipt", 3010)]

/-- The reply of `_strict_business_error` to an `InvalidParams`. -/
def invalidParamsReply (message : String) (id : Option String) (details : Obj) : Obj :=
  let reply (code : ℤ) (anpCode : String) := anpError code anpCode id message false details
  if containsText "not_local" message || containsText "not_found" message then
    reply 1007 "anp.target_not_found"
  else if containsText "profile" message then reply 1001 "anp.unsupported_profile"
  else if containsText "security" message || containsText "proof" message then
    reply 1013 "anp.invalid_security_binding"
  else if containsText "target" message then reply 1014 "anp.invalid_target_binding"
  else if containsText "content_type" message then reply 1009 "anp.unsupported_content_type"
  else standardError (-32602) message id [("reason", .str message), ("details", .obj details)]

/-- `_strict_business_error`, and the reply to an exception that is no `AwikiError`. -/
def strictBusinessError (e : AwikiError) (id : Option String) : Obj :=
  let reply (code : ℤ) (anpCode : String) := anpError code anpCode id e.message false e.data
  match e.kind with
  | .internal => standardError (-32603) "Internal error" id
  | .syncProtocol code => anpError code e.message id e.message (e.data.get "retryable").isTrue
      ((e.data.get "details").obj?.getD e.data)
  | kind =>
    match groupCodes.lookup e.message with
    | some code => reply code e.message
    | none =>
      match kind with
      | .unauthorized => reply 1005 "anp.unauthorized"
      | .conflict => reply 1008 "anp.idempotency_conflict"
      | .notFound => reply 1007 "anp.target_not_found"
      | .notSupported => reply 1001 "anp.not_supported"
      | .invalidParams => invalidParamsReply e.message id e.data
      | _ => reply 1010 "anp.delivery_rejected"

/-- The HTTP status a refused notification is given. -/
def notificationErrorStatus (e : AwikiError) : ℕ :=
  match e.kind with
  | .internal => 500
  | .unauthorized => 401
  | _ => 400

/-! ### Dispatching -/

/-- What a payload comes to: the reply, if any, the `notification_error_status` left on the request,
and the state. -/
structure Outcome (σ : Type) where
  reply : Option Obj
  notificationErrorStatus : Option ℕ := none
  state : σ

variable {σ : Type}

/-- The last part of `dispatch`: the handler runs, and its result or exception is answered. -/
def serve (handler : Handler σ) (contract : MethodContract) (id : Option String) (params : Obj)
    (s : σ) : Outcome σ :=
  let (result, s') := handler (normalizeParams params) s
  match contract.rpcKind, result with
  | .notification, .ok _ => { reply := none, state := s' }
  | .notification, .error e =>
    { reply := none, notificationErrorStatus := some (notificationErrorStatus e), state := s' }
  | .request, .ok value => { reply := some (okReply value (idOrNull id)), state := s' }
  | .request, .error e => { reply := some (strictBusinessError e id), state := s' }

/-- The checks of `dispatch` before a handler runs: the handler, the contract, the id and the
parameters. -/
def strictChecks (handlers : Handlers σ) (surface : Surface) (payload : Json) :
    EnvelopeCheck (Handler σ × MethodContract × Option String × Obj) :=
  match payload with
  | .arr _ => .error (anpError 1004 "anp.batch_not_supported" none)
  | .obj payload => do
    let textId := (Obj.get payload "id").str?
    unlessRefused (unexpectedKeys payload ["jsonrpc", "method", "params", "id"]).isEmpty
      (standardError (-32600) "Invalid Request" textId)
    unlessRefused ((Obj.get payload "jsonrpc").isStr "2.0" &&
      nonemptyString (Obj.get payload "method")) (standardError (-32600) "Invalid Request" textId)
    let method := ((Obj.get payload "method").str?).getD ""
    let unknown := standardError (-32601) "method_not_found" textId
    let contract ← ((contract? method).filter fun c ↦ c.surfaces.contains surface).elim
      (.error unknown) .ok
    let handler ← (handlers method).elim (.error unknown) .ok
    let id ← strictRequestId payload contract
    unlessRefused contract.advertised
      (anpError 1001 "anp.not_supported" id "not_supported" false
        [("method", .str method), ("profile", .str contract.profile)])
    let params ← strictEnvelope method (Obj.get payload "params") contract id surface
    return (handler, contract, id, params)
  | _ => .error (standardError (-32600) "Invalid Request" none)

/-- `dispatch` with `strict_anp`. -/
def strictDispatch (handlers : Handlers σ) (surface : Surface) (payload : Json) (s : σ) :
    Outcome σ :=
  match strictChecks handlers surface payload with
  | .ok (handler, contract, id, params) => serve handler contract id params s
  | .error reply => { reply := some reply, state := s }

/-- `JsonRpcRequest`, once validated. -/
structure JsonRpcRequest where
  jsonrpc : String
  method : String
  params : Obj
  id : Json

/-- A member of its type, or the default when there is none. -/
def memberOr {α : Type} (o : Obj) (key : String) (read : Json → Option α) (default : α) :
    Option α :=
  if o.has key then read (o.get key) else some default

/-- `JsonRpcRequest.model_validate`: a dictionary without further members, whose members have their
types, an absent one its default. `coerceId` is the union `str | int | None` of the id, under which
some numbers and Booleans come out as integers. -/
def JsonRpcRequest.modelValidate (coerceId : Json → Option Json) (payload : Json) :
    Option JsonRpcRequest := do
  let payload ← payload.obj?
  guard (unexpectedKeys payload ["jsonrpc", "method", "params", "id"]).isEmpty
  let jsonrpc ← memberOr payload "jsonrpc" Json.str? "2.0"
  let method ← (Obj.get payload "method").str?
  let params ← memberOr payload "params" Json.obj? []
  let id ← memberOr payload "id" coerceId .null
  return ⟨jsonrpc, method, params, id⟩

/-- The reply of a dispatch that is not strict to what a handler answers or raises; `detail` is the
text of an exception that is no `AwikiError`. -/
def looseReply (detail : AwikiError → String) (rpcId requestId : Json) : Result Json → Obj
  | .ok result => okReply result rpcId
  | .error e =>
    if e.kind = .internal then
      errReply (-32000) "server_error" [("detail", .str (detail e))] requestId
    else errReply e.kind.code e.message e.data requestId

/-- `dispatch` without `strict_anp`: the payload is validated, and the method has to have a handler;
neither the contract of the method nor the surface is looked at. -/
def looseDispatch (coerceId : Json → Option Json) (detail : AwikiError → String)
    (handlers : Handlers σ) (payload : Json) (s : σ) : Obj × σ :=
  let requestId := (payload.obj?.getD []).get "id"
  match JsonRpcRequest.modelValidate coerceId payload with
  | none => (errReply (-32600) "invalid_request" [] requestId, s)
  | some rpc =>
    if rpc.jsonrpc ≠ "2.0" then (errReply (-32600) "jsonrpc_must_be_2_0" [] requestId, s)
    else
      match handlers rpc.method with
      | none =>
        (errReply (-32601) "method_not_found" [("method", .str rpc.method)] requestId, s)
      | some handler =>
        let (result, s') := handler (normalizeParams rpc.params) s
        (looseReply detail rpc.id requestId result, s')

/-! ### Reading checks backwards -/

section EnvelopeCheck

variable {α β : Type}

/-- Two checks pass when both do. -/
theorem checked_bind_eq_ok {x : EnvelopeCheck α} {f : α → EnvelopeCheck β} {b : β} :
    (x >>= f) = .ok b ↔ ∃ a, x = .ok a ∧ f a = .ok b := by
  cases x with
  | error e => simp [bind, Except.bind]
  | ok a => simp [bind, Except.bind]

/-- A check passes when its condition holds. -/
theorem unlessRefused_eq_ok {c : Bool} {reply : Obj} {u : Unit} :
    unlessRefused c reply = .ok u ↔ c = true := by
  cases c <;> simp [unlessRefused]

/-- A dictionary passes as it is. -/
theorem objectOr_eq_ok {v : Json} {reply o : Obj} : objectOr reply v = .ok o ↔ v = .obj o := by
  cases v <;> simp [objectOr]

/-- What is there passes. -/
theorem elim_error_eq_ok {o : Option α} {reply : Obj} {a : α} :
    o.elim (.error reply : EnvelopeCheck α) .ok = .ok a ↔ o = some a := by
  cases o <;> simp

/-- Every reply the checks refuse with satisfies `P`. -/
def Refuses (P : Obj → Prop) (x : EnvelopeCheck α) : Prop := ∀ reply, x = .error reply → P reply

variable {P : Obj → Prop} {reply : Obj}

/-- What passes refuses nothing. -/
theorem refuses_ok (a : α) : Refuses P (.ok a : EnvelopeCheck α) := by
  rintro reply ⟨⟩

/-- A refusal is its reply. -/
theorem refuses_error (h : P reply) : Refuses P (.error reply : EnvelopeCheck α) := by
  rintro _ ⟨⟩
  exact h

/-- Two checks refuse with what each of them does. -/
theorem refuses_bind {x : EnvelopeCheck α} {f : α → EnvelopeCheck β} (hx : Refuses P x)
    (hf : ∀ a, x = .ok a → Refuses P (f a)) : Refuses P (x >>= f) := by
  cases x with
  | error e => exact refuses_error (hx e rfl)
  | ok a => exact hf a rfl

/-- A condition refuses with its reply. -/
theorem refuses_unlessRefused {c : Bool} (h : P reply) : Refuses P (unlessRefused c reply) := by
  cases c with
  | false => exact refuses_error h
  | true => exact refuses_ok ()

/-- And so does a test for a dictionary. -/
theorem refuses_objectOr {v : Json} (h : P reply) : Refuses P (objectOr reply v) := by
  cases v with
  | obj o => exact refuses_ok o
  | _ => exact refuses_error h

/-- And a look-up. -/
theorem refuses_elim {o : Option α} (h : P reply) : Refuses P (o.elim (.error reply) .ok) := by
  cases o with
  | none => exact refuses_error h
  | some a => exact refuses_ok a

end EnvelopeCheck

/-- No key is unexpected when all are allowed. -/
theorem unexpectedKeys_isEmpty {o : Obj} {allowed : List String} :
    (unexpectedKeys o allowed).isEmpty = true ↔ ∀ k, o.has k = true → k ∈ allowed := by
  have hmem : ∀ k, k ∈ unexpectedKeys o allowed ↔ o.has k = true ∧ k ∉ allowed := fun k ↦ by
    rw [unexpectedKeys, (List.perm_insertionSort _ _).mem_iff, List.mem_filter, List.mem_dedup,
      Obj.has, Option.isSome_iff_ne_none, Ne, Obj.lookup_eq_none_iff_not_mem, not_not]
    simp
  rw [List.isEmpty_iff, List.eq_nil_iff_forall_not_mem]
  refine forall_congr' fun k ↦ ?_
  rw [hmem, not_and, not_not]

/-- A text that is not blank. -/
theorem nonemptyString_eq_true {v : Json} :
    nonemptyString v = true ↔ ∃ s, v = .str s ∧ isBlank s = false := by
  cases v <;> simp [nonemptyString]

/-! ### Which calls are admitted -/

/-- **What an envelope has to be** for a contract, on an endpoint. -/
structure EnvelopeMeets (contract : MethodContract) (surface : Surface)
    (params metaObj body : Obj) : Prop where
  metaObj_eq : params.get "meta" = .obj metaObj
  body_eq : params.get "body" = .obj body
  keys : ∀ k, params.has k = true → k ∈ allowedParamKeys surface
  auth : params.get "auth" = .null ∨ ∃ auth, params.get "auth" = .obj auth
  client : params.has "client" = true → ∃ client, params.get "client" = .obj client
  metaKeys : ∀ k, metaObj.has k = true → k ∈ ANP_META_KEYS
  profile : ∃ p ∈ contract.profiles, metaObj.get "profile" = .str p
  security : metaObj.get "security_profile" = .str "transport-protected"
  sender : contract.senderRequired = true → nonemptyString (metaObj.get "sender_did") = true
  operation : contract.operationRequired = true → nonemptyString (metaObj.get "operation_id") = true
  message : contract.messageRequired = true → nonemptyString (metaObj.get "message_id") = true
  contentType :
    contract.contentTypeRequired = true → nonemptyString (metaObj.get "content_type") = true
  noTarget : contract.targetKind = none → metaObj.get "target" = .null
  target : ∀ kind, contract.targetKind = some kind → ∃ target, metaObj.get "target" = .obj target ∧
    Obj.get target "kind" = .str kind.text ∧ nonemptyString (Obj.get target "did") = true

/-- The payload calls the method of the contract, as its kind asks. -/
structure IsCall (payload : Obj) (contract : MethodContract) (id : Option String) (params : Obj) :
    Prop where
  members : ∀ k, payload.has k = true → k ∈ ["jsonrpc", "method", "params", "id"]
  version : payload.get "jsonrpc" = .str "2.0"
  method : payload.get "method" = .str contract.method
  params_eq : payload.get "params" = .obj params
  notification : contract.rpcKind = .notification → payload.has "id" = false ∧ id = none
  request : contract.rpcKind = .request →
    ∃ text, payload.get "id" = .str text ∧ isBlank text = false ∧ id = some text

/-- **What a payload has to be**: a call of an offered method of the endpoint, with an envelope its
contract accepts. -/
structure Admitted (handlers : Handlers σ) (surface : Surface) (payload : Obj) (handler : Handler σ)
    (contract : MethodContract) (id : Option String) (params metaObj body : Obj) : Prop where
  call : IsCall payload contract id params
  listed : contract ∈ METHOD_CONTRACTS
  surface_mem : surface ∈ contract.surfaces
  advertised : contract.advertised = true
  handled : handlers contract.method = some handler
  envelope : EnvelopeMeets contract surface params metaObj body

/-- A member that is not needed may be anything. -/
theorem presentMember_eq_ok {id : Option String} {metaObj : Obj} {needed : Bool} {field : String}
    {u : Unit} : presentMember id metaObj needed field = .ok u ↔
      (needed = true → nonemptyString (metaObj.get field) = true) := by
  rw [presentMember, unlessRefused_eq_ok]
  cases needed <;> simp

/-- The target is of the kind of the contract, or absent where the contract has none. -/
theorem strictTarget_eq_ok {contract : MethodContract} {id : Option String} {metaObj : Obj}
    {u : Unit} : strictTarget contract id metaObj = .ok u ↔
      (contract.targetKind = none → metaObj.get "target" = .null) ∧
      ∀ kind, contract.targetKind = some kind → ∃ target, metaObj.get "target" = .obj target ∧
        Obj.get target "kind" = .str kind.text ∧ nonemptyString (Obj.get target "did") = true := by
  unfold strictTarget
  cases hkind : contract.targetKind with
  | none =>
    dsimp only
    rw [unlessRefused_eq_ok]
    cases metaObj.get "target" <;> simp [Json.isNull]
  | some kind =>
    simp only [checked_bind_eq_ok, objectOr_eq_ok, unlessRefused_eq_ok, Bool.and_eq_true,
      Json.isStr_iff, reduceCtorEq, false_implies, true_and, Option.some.injEq, forall_eq']

/-- A value is a dictionary. -/
theorem isSome_obj?_iff {v : Json} : v.obj?.isSome = true ↔ ∃ o, v = .obj o := by
  cases v <;> simp [Json.obj?]

/-- A value is absent or `null`. -/
theorem isNull_iff {v : Json} : v.isNull = true ↔ v = .null := by
  cases v <;> simp [Json.isNull]

/-- The profile is one of those allowed. -/
theorem any_profile_iff {profiles : List String} {v : Json} :
    (profiles.any fun p ↦ v.isStr p) = true ↔ ∃ p ∈ profiles, v = .str p := by
  simp only [List.any_eq_true, Json.isStr_iff]

/-- **An envelope passes exactly if it meets its contract.** -/
theorem strictEnvelope_eq_ok {method : String} {v : Json} {contract : MethodContract}
    {id : Option String} {surface : Surface} {params : Obj} :
    strictEnvelope method v contract id surface = .ok params ↔
      v = .obj params ∧ ∃ metaObj body, EnvelopeMeets contract surface params metaObj body := by
  have hclient : ∀ {w : Json} {b : Bool}, (!b || w.obj?.isSome) = true ↔
      (b = true → ∃ o, w = .obj o) := by
    intro w b
    cases b with
    | false => simp
    | true => simp [isSome_obj?_iff]
  simp only [strictEnvelope, checked_bind_eq_ok, objectOr_eq_ok, unlessRefused_eq_ok,
    presentMember_eq_ok, strictTarget_eq_ok, unexpectedKeys_isEmpty, any_profile_iff, hclient,
    Bool.or_eq_true, isNull_iff, isSome_obj?_iff, Json.isStr_iff]
  constructor
  · rintro ⟨params', rfl, -, hkeys, metaObj, hmeta, body, hbody, -, hauth, -, hclient, -, hmetaKeys,
      -, hprofile, -, hsecurity, -, hsender, -, hoperation, -, hmessage, -, hcontent, -,
      ⟨hnone, htarget⟩, h⟩
    obtain rfl : params' = params := Except.ok.inj h
    exact ⟨rfl, metaObj, body, hmeta, hbody, hkeys, hauth, hclient, hmetaKeys, hprofile, hsecurity,
      hsender, hoperation, hmessage, hcontent, hnone, htarget⟩
  · rintro ⟨rfl, metaObj, body, h⟩
    exact ⟨params, rfl, (), h.keys, metaObj, h.metaObj_eq, body, h.body_eq, (), h.auth, (),
      h.client, (), h.metaKeys, (), h.profile, (), h.security, (), h.sender, (), h.operation, (),
      h.message, (), h.contentType, (), ⟨h.noTarget, h.target⟩, rfl⟩

/-- A request has an id that is a text and not blank, a notification has none. -/
theorem strictRequestId_eq_ok {payload : Obj} {contract : MethodContract} {id : Option String} :
    strictRequestId payload contract = .ok id ↔
      (contract.rpcKind = .notification → payload.has "id" = false ∧ id = none) ∧
      (contract.rpcKind = .request →
        ∃ text, payload.get "id" = .str text ∧ isBlank text = false ∧ id = some text) := by
  unfold strictRequestId
  cases contract.rpcKind with
  | notification =>
    simp only [checked_bind_eq_ok, unlessRefused_eq_ok, Bool.not_eq_true', forall_const,
      reduceCtorEq, false_implies, and_true]
    exact ⟨fun ⟨_, hid, h⟩ ↦ ⟨hid, (Except.ok.inj h).symm⟩,
      fun ⟨hid, h⟩ ↦ ⟨(), hid, by rw [h]; rfl⟩⟩
  | request =>
    simp only [checked_bind_eq_ok, unlessRefused_eq_ok, nonemptyString_eq_true, forall_const,
      reduceCtorEq, false_implies, true_and]
    constructor
    · rintro ⟨-, ⟨text, htext, hblank⟩, h⟩
      rw [htext] at h
      exact ⟨text, htext, hblank, (Except.ok.inj h).symm⟩
    · rintro ⟨text, htext, hblank, rfl⟩
      exact ⟨(), ⟨text, htext, hblank⟩, by rw [htext]; rfl⟩

/-- Methods have names. -/
theorem isBlank_method {c : MethodContract} (h : c ∈ METHOD_CONTRACTS) :
    isBlank c.method = false := by
  have hall : (METHOD_CONTRACTS.all fun c ↦ !isBlank c.method) = true := by decide
  simpa using List.all_eq_true.mp hall c h

/-- **The checks pass exactly for the admitted calls.** -/
theorem strictChecks_eq_ok {handlers : Handlers σ} {surface : Surface} {v : Json}
    {handler : Handler σ} {contract : MethodContract} {id : Option String} {params : Obj} :
    strictChecks handlers surface v = .ok (handler, contract, id, params) ↔
      ∃ payload metaObj body, v = .obj payload ∧
        Admitted handlers surface payload handler contract id params metaObj body := by
  cases v with
  | obj payload =>
    simp only [strictChecks, checked_bind_eq_ok, unlessRefused_eq_ok, unexpectedKeys_isEmpty,
      Bool.and_eq_true, Json.isStr_iff, elim_error_eq_ok, Option.filter_eq_some_iff,
      contract?_eq_some, List.contains_iff_mem, strictRequestId_eq_ok, strictEnvelope_eq_ok,
      nonemptyString_eq_true]
    -- Every check of the source, in its order, as a condition; the rest is putting them together.
    constructor
    · rintro ⟨-, hmembers, -, ⟨hversion, method, hmethod, -⟩, contract',
        ⟨⟨hlisted, hname⟩, hsurface⟩, handler', hhandler, id', ⟨hnotification, hrequest⟩, -,
        hadvertised, params', ⟨hparams, metaObj, body, henvelope⟩, h⟩
      obtain ⟨rfl, rfl, rfl, rfl⟩ : handler' = handler ∧ contract' = contract ∧ id' = id ∧
          params' = params := by
        have := Except.ok.inj h
        simp only [Prod.mk.injEq] at this
        exact this
      rw [hmethod] at hname hhandler
      obtain rfl : method = contract'.method := hname.symm
      exact ⟨payload, metaObj, body, rfl,
        ⟨hmembers, hversion, hmethod, hparams, hnotification, hrequest⟩, hlisted, hsurface,
        hadvertised, hhandler, henvelope⟩
    · rintro ⟨payload', metaObj, body, hpayload, h⟩
      obtain rfl : payload = payload' := Json.obj.inj hpayload
      have hmethod : ((Obj.get payload "method").str?).getD "" = contract.method := by
        rw [h.call.method]
        rfl
      refine ⟨(), h.call.members, (), ⟨h.call.version, contract.method, h.call.method,
        isBlank_method h.listed⟩, contract, ⟨⟨h.listed, hmethod.symm⟩, h.surface_mem⟩, handler,
        ?_, id, ⟨h.call.notification, h.call.request⟩, (), h.advertised, params,
        ⟨h.call.params_eq, metaObj, body, h.envelope⟩, rfl⟩
      rw [hmethod]
      exact h.handled
  | _ => simp [strictChecks]

/-! ### What a refusal says -/

/-- An error reply to the payload: its id is the payload's, when that is a text, or `None`. -/
def IsErrorTo (payload : Json) (reply : Obj) : Prop :=
  ∃ code message data id, reply = standardError code message id data ∧
    ∀ text, id = some text → (payload.obj?.getD []).get "id" = .str text

section Refusals

variable {payload : Json} {id : Option String}

/-- The id is the payload's, when there is one. -/
def IdOf (payload : Json) (id : Option String) : Prop :=
  ∀ text, id = some text → (payload.obj?.getD []).get "id" = .str text

/-- The plain error is one, if its id is the payload's. -/
theorem isErrorTo_standardError (h : IdOf payload id) (code : ℤ) (message : String) (data : Obj) :
    IsErrorTo payload (standardError code message id data) :=
  ⟨code, message, data, id, rfl, h⟩

/-- And so is the error with a code of the protocol. -/
theorem isErrorTo_anpError (h : IdOf payload id) (code : ℤ) (anpCode message : String)
    (retryable : Bool) (details : Obj) :
    IsErrorTo payload (anpError code anpCode id message retryable details) :=
  isErrorTo_standardError h _ _ _

/-- No id is always right: not every refusal has read it. -/
theorem idOf_none : IdOf payload none := by
  rintro _ ⟨⟩

/-- An id that is a text is the payload's. -/
theorem idOf_str? (o : Obj) : IdOf (.obj o) ((o.get "id").str?) :=
  fun _ htext ↦ Json.str?_eq_some.mp htext

/-- The checks of the target refuse with such errors. -/
theorem refuses_strictTarget (h : IdOf payload id) (contract : MethodContract) (metaObj : Obj) :
    Refuses (IsErrorTo payload) (strictTarget contract id metaObj) := by
  unfold strictTarget
  split
  · exact refuses_unlessRefused (isErrorTo_anpError h _ _ _ _ _)
  · refine refuses_bind (refuses_objectOr (isErrorTo_anpError h _ _ _ _ _)) fun _ _ ↦ ?_
    exact refuses_unlessRefused (isErrorTo_anpError h _ _ _ _ _)

/-- And so do those of the envelope. -/
theorem refuses_strictEnvelope (h : IdOf payload id) (method : String) (v : Json)
    (contract : MethodContract) (surface : Surface) :
    Refuses (IsErrorTo payload) (strictEnvelope method v contract id surface) := by
  have herror := isErrorTo_anpError h
  have hunless : ∀ c code anpCode message retryable details, Refuses (IsErrorTo payload)
      (unlessRefused c (anpError code anpCode id message retryable details)) :=
    fun _ code anpCode message retryable details ↦
      refuses_unlessRefused (herror code anpCode message retryable details)
  refine refuses_bind (refuses_objectOr (herror _ _ _ _ _)) fun params _ ↦ ?_
  refine refuses_bind (hunless _ _ _ _ _ _) fun _ _ ↦ ?_
  refine refuses_bind (refuses_objectOr (herror _ _ _ _ _)) fun metaObj _ ↦ ?_
  refine refuses_bind (refuses_objectOr (herror _ _ _ _ _)) fun _ _ ↦ ?_
  iterate 9 refine refuses_bind (hunless _ _ _ _ _ _) fun _ _ ↦ ?_
  exact refuses_bind (refuses_strictTarget h contract metaObj) fun _ _ ↦ refuses_ok params

/-- And those of the id. -/
theorem refuses_strictRequestId (o : Obj) (contract : MethodContract) :
    Refuses (IsErrorTo (.obj o)) (strictRequestId o contract) := by
  unfold strictRequestId
  split
  · refine refuses_bind (refuses_unlessRefused ?_) fun _ _ ↦ refuses_ok _
    exact isErrorTo_standardError (idOf_str? o) _ _ _
  · refine refuses_bind (refuses_unlessRefused ?_) fun _ _ ↦ refuses_ok _
    exact isErrorTo_anpError idOf_none _ _ _ _ _

/-- The id that is passed on is the payload's. -/
theorem idOf_of_strictRequestId {o : Obj} {contract : MethodContract}
    (h : strictRequestId o contract = .ok id) : IdOf (.obj o) id := by
  rintro text rfl
  obtain ⟨hnotification, hrequest⟩ := strictRequestId_eq_ok.mp h
  cases hkind : contract.rpcKind with
  | notification => cases (hnotification hkind).2
  | request =>
    obtain ⟨text', htext, -, heq⟩ := hrequest hkind
    obtain rfl := Option.some.inj heq
    exact htext

/-- **A refused payload gets an error reply.** -/
theorem refuses_strictChecks (handlers : Handlers σ) (surface : Surface) (v : Json) :
    Refuses (IsErrorTo v) (strictChecks handlers surface v) := by
  cases v with
  | obj o =>
    have hstandard := isErrorTo_standardError (idOf_str? o)
    refine refuses_bind (refuses_unlessRefused (hstandard _ _ _)) fun _ _ ↦ ?_
    refine refuses_bind (refuses_unlessRefused (hstandard _ _ _)) fun _ _ ↦ ?_
    refine refuses_bind (refuses_elim (hstandard _ _ _)) fun contract _ ↦ ?_
    refine refuses_bind (refuses_elim (hstandard _ _ _)) fun handler _ ↦ ?_
    refine refuses_bind (refuses_strictRequestId o contract) fun id hid ↦ ?_
    have hidOf := idOf_of_strictRequestId hid
    refine refuses_bind (refuses_unlessRefused (isErrorTo_anpError hidOf _ _ _ _ _)) fun _ _ ↦ ?_
    refine refuses_bind (refuses_strictEnvelope hidOf _ _ _ _) fun _ _ ↦ ?_
    exact refuses_ok _
  | arr _ => exact refuses_error (isErrorTo_anpError idOf_none _ _ _ _ _)
  | _ => exact refuses_error (isErrorTo_standardError idOf_none _ _ _)

end Refusals

/-! ### The gate -/

variable {handlers : Handlers σ} {surface : Surface} {handler : Handler σ}
  {contract : MethodContract} {id : Option String} {payload params metaObj body : Obj}

/-- An admitted call is served. -/
theorem strictDispatch_eq_serve
    (h : Admitted handlers surface payload handler contract id params metaObj body) (s : σ) :
    strictDispatch handlers surface (.obj payload) s = serve handler contract id params s := by
  rw [strictDispatch, strictChecks_eq_ok.mpr ⟨payload, metaObj, body, rfl, h⟩]

/-- Some handler would be run for the payload. -/
def IsAdmitted (handlers : Handlers σ) (surface : Surface) (v : Json) : Prop :=
  ∃ payload handler contract id params metaObj body, v = .obj payload ∧
    Admitted handlers surface payload handler contract id params metaObj body

/-- Any other payload is refused, and the state is as it was. -/
theorem strictDispatch_of_not_isAdmitted {v : Json} (h : ¬ IsAdmitted handlers surface v) (s : σ) :
    ∃ reply, strictDispatch handlers surface v s = { reply := some reply, state := s } ∧
      IsErrorTo v reply := by
  cases hchecks : strictChecks handlers surface v with
  | error reply =>
    exact ⟨reply, by rw [strictDispatch, hchecks],
      refuses_strictChecks handlers surface v reply hchecks⟩
  | ok call =>
    obtain ⟨handler, contract, id, params⟩ := call
    obtain ⟨payload, metaObj, body, hv, hadmitted⟩ := strictChecks_eq_ok.mp hchecks
    exact absurd ⟨payload, handler, contract, id, params, metaObj, body, hv, hadmitted⟩ h

/-- **The gate.** A strict dispatch runs a handler exactly for the admitted calls, on the flattened
envelope; any other payload leaves the state alone and gets one error reply, which carries the id of
the payload or none. -/
theorem strict_dispatch_gate (handlers : Handlers σ) (surface : Surface) (v : Json) (s : σ) :
    (∀ payload handler contract id params metaObj body, v = .obj payload →
      Admitted handlers surface payload handler contract id params metaObj body →
      strictDispatch handlers surface v s = serve handler contract id params s) ∧
    (¬ IsAdmitted handlers surface v →
      ∃ reply, strictDispatch handlers surface v s = { reply := some reply, state := s } ∧
        IsErrorTo v reply) := by
  refine ⟨?_, fun h ↦ strictDispatch_of_not_isAdmitted h s⟩
  rintro payload handler contract id params metaObj body rfl h
  exact strictDispatch_eq_serve h s

/-- The method of a validated request is the one its payload names. -/
theorem JsonRpcRequest.method_eq {coerceId : Json → Option Json} {v : Json} {rpc : JsonRpcRequest}
    (h : JsonRpcRequest.modelValidate coerceId v = some rpc) :
    (v.obj?.getD []).get "method" = .str rpc.method := by
  simp only [JsonRpcRequest.modelValidate, Option.bind_eq_bind, Option.bind_eq_some_iff,
    Option.pure_def] at h
  obtain ⟨payload, hpayload, -, -, _, -, method, hmethod, _, -, _, -, h⟩ := h
  obtain rfl := Option.some.inj h
  rw [hpayload]
  exact Json.str?_eq_some.mp hmethod

/-- **A validated call is served by the handler of its method**, whatever its envelope. -/
theorem looseDispatch_eq_serve {coerceId : Json → Option Json} (detail : AwikiError → String)
    {v : Json} {rpc : JsonRpcRequest} (hrpc : JsonRpcRequest.modelValidate coerceId v = some rpc)
    (hversion : rpc.jsonrpc = "2.0") (hhandler : handlers rpc.method = some handler) (s : σ) :
    looseDispatch coerceId detail handlers v s =
      (looseReply detail rpc.id ((v.obj?.getD []).get "id")
        (handler (normalizeParams rpc.params) s).1,
        (handler (normalizeParams rpc.params) s).2) := by
  rw [looseDispatch, hrpc]
  dsimp only
  rw [if_neg (not_not.mpr hversion), hhandler]

/-- An error, and no result. -/
def IsError (reply : Obj) : Prop := reply.has "error" = true ∧ reply.has "result" = false

/-- An error reply to some payload is an error reply. -/
theorem IsErrorTo.isError {v : Json} {reply : Obj} (h : IsErrorTo v reply) : IsError reply := by
  obtain ⟨code, message, data, id, rfl, -⟩ := h
  exact ⟨rfl, rfl⟩

/-- The error of the loose form is one. -/
theorem isError_errReply (code : ℤ) (message : String) (data : Obj) (id : Json) :
    IsError (errReply code message data id) := ⟨rfl, rfl⟩

/-- Whatever a handler raises. -/
theorem isError_looseReply (detail : AwikiError → String) (rpcId requestId : Json)
    (e : AwikiError) : IsError (looseReply detail rpcId requestId (.error e)) := by
  rw [looseReply]
  split
  · exact isError_errReply _ _ _ _
  · exact isError_errReply _ _ _ _

/-- **A dispatch that is not strict runs one handler or none**: either the payload gets an error and
the state is as it was, or the call is validated and served. -/
theorem looseDispatch_cases (coerceId : Json → Option Json) (detail : AwikiError → String)
    (handlers : Handlers σ) (v : Json) (s : σ) :
    (∃ reply, IsError reply ∧ looseDispatch coerceId detail handlers v s = (reply, s)) ∨
    ∃ rpc handler, JsonRpcRequest.modelValidate coerceId v = some rpc ∧ rpc.jsonrpc = "2.0" ∧
      handlers rpc.method = some handler := by
  have herror := isError_errReply
  rw [looseDispatch]
  cases hrpc : JsonRpcRequest.modelValidate coerceId v with
  | none => exact .inl ⟨_, herror _ _ _ _, rfl⟩
  | some rpc =>
    dsimp only
    by_cases hversion : rpc.jsonrpc = "2.0"
    · rw [if_neg (not_not.mpr hversion)]
      cases hhandler : handlers rpc.method with
      | none => exact .inl ⟨_, herror _ _ _ _, rfl⟩
      | some handler => exact .inr ⟨rpc, handler, rfl, hversion, hhandler⟩
    · rw [if_pos hversion]
      exact .inl ⟨_, herror _ _ _ _, rfl⟩

/-! ### What a handler is given -/

/-- The names the dispatcher gives to the parts of an envelope. -/
def RESERVED_NAMES : List String := ["_anp_meta", "_anp_body", "_anp_auth", "_anp_client"]

/-- A part goes under its own name. -/
theorem lookup_reservedPart_of_ne {params normalized : Obj} {key name k : String} (h : k ≠ name) :
    (reservedPart params key name normalized).lookup k = normalized.lookup k := by
  unfold reservedPart
  split
  · rw [Obj.lookup_set, if_neg h]
  · rfl

/-- The members of the keys asked for. -/
theorem lookup_only (keys : List String) (o : Obj) (k : String) :
    (only keys o).lookup k = if k ∈ keys then o.lookup k else none := by
  rw [only, Obj.lookup_filter_keys o fun k ↦ keys.contains k]
  simp only [List.contains_iff_mem]

/-- The target only adds a member that is not there. -/
theorem lookup_addTarget_of_has {metaObj normalized : Obj} {k : String}
    (h : normalized.has k = true) :
    (addTarget metaObj normalized).lookup k = normalized.lookup k := by
  have hset : ∀ {name : String} (v : Json), normalized.has name = false →
      (normalized.set name v).lookup k = normalized.lookup k := by
    intro name v hname
    rw [Obj.lookup_set, if_neg]
    rintro rfl
    exact Bool.false_ne_true (hname.symm.trans h)
  unfold addTarget
  split
  · dsimp only
    split_ifs with _ hgroup hrecipient
    · rfl
    · rw [Bool.and_eq_true, Bool.not_eq_true'] at hgroup
      exact hset _ hgroup.2
    · exact hset _ (Bool.not_eq_true' _ ▸ hrecipient)
    · rfl
  · rfl

/-- What the body brings is not changed by what `meta` adds. -/
theorem lookup_normalizeParams_of_bodyParams {params body : Obj} {k : String} {v : Json}
    (hbody : params.get "body" = .obj body) (h : (bodyParams params body).lookup k = some v) :
    (normalizeParams params).lookup k = some v := by
  rw [normalizeParams, hbody]
  dsimp only
  split
  · have hmerge : (Obj.merge (only META_MEMBERS ‹Obj›) (bodyParams params body)).lookup k =
      some v := by
      rw [Obj.lookup_merge, h]
      rfl
    rw [lookup_addTarget_of_has (by rw [Obj.has, hmerge]; rfl), hmerge]
  · exact h

/-- **The body comes first**: whatever else an envelope holds, the members of its body reach the
handler as they are, but for the reserved names. -/
theorem lookup_normalizeParams_of_body {params body : Obj} (hbody : params.get "body" = .obj body)
    {k : String} (hk : k ∉ RESERVED_NAMES) (hhas : body.has k = true) :
    (normalizeParams params).lookup k = body.lookup k := by
  obtain ⟨v, hv⟩ := Option.isSome_iff_exists.mp hhas
  simp only [RESERVED_NAMES, List.mem_cons, List.not_mem_nil, or_false, not_or] at hk
  obtain ⟨hmeta, hanpBody, hauth, hclient⟩ := hk
  rw [hv]
  refine lookup_normalizeParams_of_bodyParams hbody ?_
  rw [bodyParams, Obj.lookup_merge, lookup_reservedPart_of_ne hclient,
    lookup_reservedPart_of_ne hauth, Obj.lookup_set, if_neg hanpBody,
    lookup_reservedPart_of_ne hmeta, hv]
  rfl

/-- The meta and the body of an envelope are passed on under their reserved names. -/
theorem get_normalizeParams_reserved {params metaObj body : Obj}
    (hmeta : params.get "meta" = .obj metaObj) (hbody : params.get "body" = .obj body) :
    (normalizeParams params).get "_anp_meta" = .obj metaObj ∧
      (normalizeParams params).get "_anp_body" = .obj body := by
  have hreserved : ∀ {k : String}, k ≠ "_anp_auth" → k ≠ "_anp_client" → ∀ {v : Json},
      ((body.set "_anp_meta" (.obj metaObj)).set "_anp_body" (.obj body)).lookup k = some v →
      (normalizeParams params).get k = v := by
    intro k hauth hclient v hv
    refine Obj.get_eq_of_lookup (lookup_normalizeParams_of_bodyParams hbody ?_)
    rw [bodyParams, Obj.lookup_merge, lookup_reservedPart_of_ne hclient,
      lookup_reservedPart_of_ne hauth, reservedPart, hmeta, hv]
    rfl
  constructor
  · refine hreserved (by decide) (by decide) ?_
    rw [Obj.lookup_set, if_neg (by decide), Obj.lookup_set, if_pos rfl]
  · refine hreserved (by decide) (by decide) ?_
    rw [Obj.lookup_set, if_pos rfl]

section Signed

/-- Two dictionaries hold the same, but for some keys. -/
def SameBut (keys : List String) (a b : Obj) : Prop := ∀ k, k ∉ keys → a.lookup k = b.lookup k

variable {keys : List String} {a b : Obj}

/-- The same keys are there. -/
theorem SameBut.has_eq (h : SameBut keys a b) {k : String} (hk : k ∉ keys) : a.has k = b.has k := by
  rw [Obj.has, h k hk, Obj.has]

/-- Setting the same member on both sides keeps what they share. -/
theorem SameBut.set (h : SameBut keys a b) (k : String) (v : Json) :
    SameBut keys (a.set k v) (b.set k v) := by
  intro k' hk'
  rw [Obj.lookup_set, Obj.lookup_set, h k' hk']

/-- And so does merging over the same dictionary. -/
theorem SameBut.merge (h : SameBut keys a b) (o : Obj) :
    SameBut keys (Obj.merge o a) (Obj.merge o b) := by
  intro k hk
  rw [Obj.lookup_merge, Obj.lookup_merge, h k hk]

/-- And adding the target, since its members are shared. -/
theorem SameBut.addTarget (h : SameBut keys a b) (hgroup : "group_did" ∉ keys)
    (hrecipient : "recipient_did" ∉ keys) (metaObj : Obj) :
    SameBut keys (addTarget metaObj a) (addTarget metaObj b) := by
  unfold Awiki.addTarget
  split
  · rw [h.has_eq hgroup, h.has_eq hrecipient]
    dsimp only
    split_ifs
    · exact h
    · exact h.set _ _
    · exact h.set _ _
    · exact h
  · exact h

/-- An envelope that was accepted has no members beside those of an envelope. -/
theorem lookup_without_envelope {contract : MethodContract} {surface : Surface}
    {params metaObj body : Obj} (h : EnvelopeMeets contract surface params metaObj body)
    (k : String) : (params.without ENVELOPE_KEYS).lookup k = none := by
  rw [Obj.lookup_without]
  split
  · rfl
  · rename_i hk
    by_contra hsome
    have hallowed := h.keys k (Option.isSome_iff_ne_none.mpr hsome)
    apply hk
    cases surface with
    | localRpc => simpa [allowedParamKeys, ENVELOPE_KEYS] using hallowed
    | publicRpc =>
      have : k = "meta" ∨ k = "auth" ∨ k = "body" := by simpa [allowedParamKeys] using hallowed
      simp only [ENVELOPE_KEYS, List.mem_cons]
      tauto

/-- What does not come from `meta` and `body` is `_anp_auth` and `_anp_client`. -/
theorem EnvelopeMeets.sameBut {c c' : MethodContract} {surface surface' : Surface}
    {params params' metaObj body : Obj} (h : EnvelopeMeets c surface params metaObj body)
    (h' : EnvelopeMeets c' surface' params' metaObj body) :
    SameBut ["_anp_auth", "_anp_client"] (normalizeParams params) (normalizeParams params') := by
  have hplain : ∀ {c surface} {params : Obj}, EnvelopeMeets c surface params metaObj body →
      SameBut ["_anp_auth", "_anp_client"] (bodyParams params body)
        ((body.set "_anp_meta" (.obj metaObj)).set "_anp_body" (.obj body)) := by
    intro c surface params h k hk
    simp only [List.mem_cons, List.not_mem_nil, or_false, not_or] at hk
    rw [bodyParams, Obj.lookup_merge, lookup_without_envelope h, Option.or_none,
      lookup_reservedPart_of_ne hk.2, lookup_reservedPart_of_ne hk.1, Obj.lookup_set,
      Obj.lookup_set, reservedPart, h.metaObj_eq]
  have hsame : SameBut ["_anp_auth", "_anp_client"] (bodyParams params body)
      (bodyParams params' body) := fun k hk ↦ (hplain h k hk).trans (hplain h' k hk).symm
  rw [normalizeParams, h.body_eq, h.metaObj_eq, normalizeParams, h'.body_eq, h'.metaObj_eq]
  exact (hsame.merge _).addTarget (by decide) (by decide) metaObj

/-- **What a handler is given by a strict dispatch comes from `meta` and `body` alone**, the parts a
proof signs: two accepted envelopes with these parts give the same parameters, whatever else they
hold, but for the proof and the client's own notes. Both parts are passed on as they are, and the
members of the body come first. -/
theorem strict_params_signed {c c' : MethodContract} {surface surface' : Surface}
    {params params' metaObj body : Obj} (h : EnvelopeMeets c surface params metaObj body)
    (h' : EnvelopeMeets c' surface' params' metaObj body) :
    SameBut ["_anp_auth", "_anp_client"] (normalizeParams params) (normalizeParams params') ∧
    (normalizeParams params).get "_anp_meta" = .obj metaObj ∧
    (normalizeParams params).get "_anp_body" = .obj body ∧
    ∀ k, k ∉ RESERVED_NAMES → body.has k = true →
      (normalizeParams params).lookup k = body.lookup k := by
  obtain ⟨hmeta, hbody⟩ := get_normalizeParams_reserved h.metaObj_eq h.body_eq
  exact ⟨h.sameBut h', hmeta, hbody,
    fun k hk hhas ↦ lookup_normalizeParams_of_body h.body_eq hk hhas⟩

/-- A `meta` for `anp.get_capabilities`. -/
def sampleMeta : Obj :=
  [("profile", .str "anp.core.binding.v1"), ("security_profile", .str "transport-protected"),
    ("operation_id", .str "op_1")]

/-- The contract of `anp.get_capabilities`. -/
def capabilitiesContract : MethodContract where
  method := "anp.get_capabilities"
  profile := "anp.core.binding.v1"
  senderRequired := false
  principal := .anonymousOrPeer

/-- An envelope around it, with a proof or without. -/
theorem envelopeMeets_sampleMeta {auth : Obj} (hauth : auth = [] ∨ auth = [("auth", .obj [])])
    (surface : Surface) :
    EnvelopeMeets capabilitiesContract surface
      (("meta", .obj sampleMeta) :: ("body", .obj [("sender_did", .str "did:x")]) :: auth)
        sampleMeta
      [("sender_did", .str "did:x")] where
  metaObj_eq := rfl
  body_eq := rfl
  keys := by
    rw [← unexpectedKeys_isEmpty]
    obtain rfl | rfl := hauth <;> cases surface <;> decide
  auth := by
    obtain rfl | rfl := hauth
    · exact .inl rfl
    · exact .inr ⟨[], rfl⟩
  client := by
    obtain rfl | rfl := hauth <;> exact fun h ↦ absurd h (by decide)
  metaKeys := by
    rw [← unexpectedKeys_isEmpty]
    decide
  profile := ⟨_, List.mem_cons_self, rfl⟩
  security := rfl
  sender := fun h ↦ absurd h (by decide)
  operation := fun _ ↦ by decide
  message := fun h ↦ absurd h (by decide)
  contentType := fun h ↦ absurd h (by decide)
  noTarget := fun _ ↦ rfl
  target := fun kind h ↦ by cases h

/-- The same call with a proof and without one. -/
theorem strict_params_signed_sample :
    SameBut ["_anp_auth", "_anp_client"]
      (normalizeParams [("meta", .obj sampleMeta), ("body", .obj [("sender_did", .str "did:x")]),
        ("auth", .obj [])])
      (normalizeParams
        [("meta", .obj sampleMeta), ("body", .obj [("sender_did", .str "did:x")])]) :=
  (strict_params_signed (envelopeMeets_sampleMeta (.inr rfl) .publicRpc)
    (envelopeMeets_sampleMeta (.inl rfl) .localRpc)).1

end Signed

end Awiki
