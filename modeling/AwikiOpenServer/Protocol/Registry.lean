import AwikiOpenServer.Shared.Runtime

/-!
# The registry of methods

Each method of the two JSON-RPC endpoints has a contract: on which of them it may be called, under
which profiles, and which members its envelope must have. The dispatcher checks calls against it and
`anp.get_capabilities` publishes it.

**The table is the source's, entry by entry.** `METHOD_CONTRACTS` lists the contracts in the order
of the source, through the same three helpers it uses for the members that many methods share, so
that an entry can be compared with its line. The fields of `MethodContract` have the defaults of
`_contract`; a field that no entry sets is at its default everywhere.

What is proved of the table is what a look-up needs: no method has two contracts (`nodup_methods`),
so a contract that is found is the one of the method, and a method is on a surface when its contract
is (`mem_methodsForSurface`). Everything else about it is a computation over its entries, and is
done by evaluation where it is wanted.
-/

namespace Awiki

/-- `STANDARD_PROFILES`. -/
def STANDARD_PROFILES : List String :=
  ["anp.core.binding.v1", "anp.identity.discovery.v1", "anp.direct.base.v1", "anp.group.base.v1",
    "anp.group.base.v2", "anp.attachment.v1", "anp.federation.relay.v1"]

/-- `LOCAL_PROFILES`. -/
def LOCAL_PROFILES : List String :=
  ["anp.inbox.local.v1", "anp.direct.local.v1", "anp.group.local.v1", "anp.sync.local.v1",
    "anp.sync.local.v2", "anp.read_state.local.v1", "awiki.message-sync.explicit-negotiation.v1",
    "sync.snapshot_paging.v1"]

/-- Whether a call is answered. -/
inductive RpcKind where
  | request
  | notification
  deriving DecidableEq, Repr

/-- What the target of an envelope is. -/
inductive TargetKind where
  | agent
  | group
  | service
  deriving DecidableEq, Repr

/-- Who may call a method. -/
inductive Principal where
  | anonymousOrPeer
  | localBearer
  | localBearerOrVerifiedPeer
  deriving DecidableEq, Repr

/-- The value of a surface in the registry. -/
def Surface.text : Surface → String
  | localRpc => "local"
  | publicRpc => "public"

/-- The value of a kind. -/
def RpcKind.text : RpcKind → String
  | request => "request"
  | notification => "notification"

/-- The value of a target kind, as in the `kind` of a target. -/
def TargetKind.text : TargetKind → String
  | agent => "agent"
  | group => "group"
  | service => "service"

/-- The value of a principal. -/
def Principal.text : Principal → String
  | anonymousOrPeer => "anonymous_or_peer"
  | localBearer => "local_bearer"
  | localBearerOrVerifiedPeer => "local_bearer_or_verified_peer"

/-- `MethodContract`, with the defaults of `_contract`. -/
structure MethodContract where
  method : String
  profile : String
  surfaces : List Surface := [.localRpc, .publicRpc]
  rpcKind : RpcKind := .request
  targetKind : Option TargetKind := none
  senderRequired : Bool := true
  operationRequired : Bool := true
  messageRequired : Bool := false
  contentTypeRequired : Bool := false
  principal : Principal := .localBearerOrVerifiedPeer
  originProofRequired : Bool := false
  receiptProofRequired : Bool := false
  wnsBindingRequired : Bool := false
  alternateProfiles : List String := []
  advertised : Bool := true
  deriving DecidableEq

namespace MethodContract

/-- The profiles a call may name: the method's own and its alternates. -/
def profiles (c : MethodContract) : List String := c.profile :: c.alternateProfiles

/-- A hosted operation of a group. -/
def groupCommand (method : String) (target : TargetKind) : MethodContract where
  method := method
  profile := "anp.group.base.v1"
  targetKind := target
  senderRequired := decide (method ≠ "group.get_info")
  principal := if method = "group.get_info" then .anonymousOrPeer else .localBearerOrVerifiedPeer
  originProofRequired := decide (method ≠ "group.get_info")
  wnsBindingRequired := decide (method = "group.rebind_member")
  alternateProfiles := if method = "group.rebind_member" then [] else ["anp.group.base.v2"]

/-- A method only a local user may call. -/
def localOnly (profile : String) (target : Option TargetKind) (alternates : List String)
    (method : String) : MethodContract where
  method := method
  profile := profile
  surfaces := [.localRpc]
  targetKind := target
  principal := .localBearer
  alternateProfiles := alternates

/-- A method that is known but not offered. -/
def reserved (method profile : String) : MethodContract where
  method := method
  profile := profile
  targetKind := some .service
  advertised := false

end MethodContract

open MethodContract in
/-- `METHOD_CONTRACTS`. -/
def METHOD_CONTRACTS : List MethodContract :=
  [{ method := "anp.get_capabilities", profile := "anp.core.binding.v1", senderRequired := false,
      principal := .anonymousOrPeer },
    { method := "direct.send", profile := "anp.direct.base.v1", targetKind := some .agent,
      messageRequired := true, contentTypeRequired := true, originProofRequired := true },
    groupCommand "group.create" .service,
    groupCommand "group.get_info" .group,
    groupCommand "group.join" .group,
    groupCommand "group.add" .group,
    groupCommand "group.remove" .group,
    groupCommand "group.rebind_member" .group,
    groupCommand "group.leave" .group,
    groupCommand "group.update_profile" .group,
    groupCommand "group.update_policy" .group,
    { method := "group.send", profile := "anp.group.base.v1",
      alternateProfiles := ["anp.group.base.v2"], targetKind := some .group,
      messageRequired := true, contentTypeRequired := true, originProofRequired := true },
    { method := "group.incoming", profile := "anp.group.base.v1",
      alternateProfiles := ["anp.group.base.v2"], rpcKind := .notification,
      targetKind := some .agent, messageRequired := true, contentTypeRequired := true,
      receiptProofRequired := true },
    { method := "group.state_changed", profile := "anp.group.base.v1",
      alternateProfiles := ["anp.group.base.v2"], rpcKind := .notification,
      targetKind := some .agent, receiptProofRequired := true },
    { method := "attachment.get_download_ticket", profile := "anp.attachment.v1",
      targetKind := some .service },
    localOnly "anp.attachment.v1" (some .service) [] "attachment.create_slot",
    localOnly "anp.attachment.v1" (some .service) [] "attachment.commit_object",
    localOnly "anp.attachment.v1" (some .service) [] "attachment.abort_object",
    localOnly "anp.inbox.local.v1" none [] "inbox.get",
    localOnly "anp.inbox.local.v1" none [] "inbox.mark_read",
    localOnly "anp.direct.local.v1" none [] "direct.get_history",
    localOnly "anp.group.local.v1" none [] "group.get",
    localOnly "anp.group.local.v1" none [] "group.list",
    localOnly "anp.group.local.v1" none [] "group.list_members",
    localOnly "anp.group.local.v1" none [] "group.list_messages",
    localOnly "anp.sync.local.v1" none ["anp.sync.local.v2"] "sync.delta",
    localOnly "anp.sync.local.v1" none ["anp.sync.local.v2"] "sync.thread_after",
    localOnly "anp.sync.local.v2" none [] "sync.bootstrap",
    localOnly "anp.sync.local.v2" none [] "message.get_batch",
    localOnly "anp.sync.local.v2" none [] "sync.snapshot",
    localOnly "anp.read_state.local.v1" none [] "read_state.mark_read",
    reserved "direct.e2ee.publish_prekey_bundle" "anp.direct.e2ee.v2",
    reserved "direct.e2ee.get_prekey_bundle" "anp.direct.e2ee.v2",
    reserved "group.e2ee.publish_key_package" "anp.group.e2ee.v2"]

/-- `METHOD_CONTRACTS.get(method)`. -/
def contract? (method : String) : Option MethodContract :=
  METHOD_CONTRACTS.find? fun c ↦ decide (c.method = method)

/-- `methods_for_surface`. -/
def methodsForSurface (surface : Surface) (advertisedOnly : Bool) : List String :=
  (METHOD_CONTRACTS.filter fun c ↦
    c.surfaces.contains surface && (c.advertised || !advertisedOnly)).map MethodContract.method

/-- `PUBLIC_ANP_METHODS`. -/
def PUBLIC_ANP_METHODS : List String := methodsForSurface .publicRpc false

/-- `PUBLIC_NOTIFICATION_METHODS`. -/
def PUBLIC_NOTIFICATION_METHODS : List String :=
  (METHOD_CONTRACTS.filter fun c ↦
    c.surfaces.contains .publicRpc && decide (c.rpcKind = .notification)).map MethodContract.method

/-! ### Looking a contract up -/

/-- No method has two contracts. -/
theorem nodup_methods : (METHOD_CONTRACTS.map MethodContract.method).Nodup := by decide

/-- A contract that is found is one of the table, of that method. -/
theorem contract?_eq_some {method : String} {c : MethodContract} :
    contract? method = some c ↔ c ∈ METHOD_CONTRACTS ∧ c.method = method := by
  have hsound : ∀ {c'}, contract? method = some c' → c' ∈ METHOD_CONTRACTS ∧ c'.method = method :=
    fun h ↦ ⟨List.mem_of_find?_eq_some h, by simpa using List.find?_some h⟩
  refine ⟨hsound, ?_⟩
  rintro ⟨hmem, rfl⟩
  obtain ⟨c', hc'⟩ : ∃ c', contract? c.method = some c' :=
    Option.isSome_iff_exists.mp (List.find?_isSome.mpr ⟨c, hmem, by simp⟩)
  rw [hc', List.inj_on_of_nodup_map nodup_methods (hsound hc').1 hmem (hsound hc').2]

/-- The methods of a surface are those whose contracts name it, and are advertised if that is
asked. -/
theorem mem_methodsForSurface {surface : Surface} {advertisedOnly : Bool} {method : String} :
    method ∈ methodsForSurface surface advertisedOnly ↔ ∃ c, contract? method = some c ∧
      surface ∈ c.surfaces ∧ (advertisedOnly = true → c.advertised = true) := by
  simp only [methodsForSurface, List.mem_map, List.mem_filter, Bool.and_eq_true, Bool.or_eq_true,
    List.contains_iff_mem, Bool.not_eq_true', contract?_eq_some]
  constructor
  · rintro ⟨c, ⟨hmem, hsurface, hadvertised⟩, rfl⟩
    refine ⟨c, ⟨hmem, rfl⟩, hsurface, fun honly ↦ hadvertised.resolve_right ?_⟩
    simp [honly]
  · rintro ⟨c, ⟨hmem, rfl⟩, hsurface, hadvertised⟩
    refine ⟨c, ⟨hmem, hsurface, ?_⟩, rfl⟩
    cases advertisedOnly with
    | true => exact .inl (hadvertised rfl)
    | false => exact .inr rfl

/-- What is offered in public is of the standard profiles. -/
example : METHOD_CONTRACTS.all (fun c ↦ !c.surfaces.contains .publicRpc || !c.advertised ||
    c.profiles.all STANDARD_PROFILES.contains) = true := by decide

end Awiki
