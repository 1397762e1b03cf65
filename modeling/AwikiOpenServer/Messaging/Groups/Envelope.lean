import AwikiOpenServer.Messaging.Groups.Inbound
import AwikiOpenServer.Messaging.Groups.Recipients

/-!
# A message from the Host to a Home and back

The Host lays the sender's body **over** its control fields and replaces the target of the meta by
the member. The Home takes the control fields out again by name and puts the group back as target.
Both halves lose something: a body that has a member named like a control field overrides it and
then loses it, and a target that has more members than kind and DID loses those. In every other case
the sender's meta and body come back as they were signed (`envelope_round_trip_iff`), so the origin
proof verifies at the Home.

## What comes back

Documents are compared as dictionaries (`Obj.Equiv`): the same keys with the same values, whatever
the order, since a proof is made over the canonical form. `RoundTrips` asks three things of an
envelope: that it can be decoded at all, that body and meta are those that were signed, and that the
control fields read at the Home are the Host's.

The two conditions are read off the two halves. For the body, a key that is no control field comes
back whatever it is, and a control field comes back only where the sender had none
(`lookup_originalBody`). For the meta, everything but the target is left alone, and the target is
rebuilt from the group (`groupTarget_equiv_iff`).

## Every accepted message

The theorem is about the rows of the outbox and not about the two functions: for every message that
a Host accepts in a reachable state, and every remote active member, there is a row, and its
envelope gives back what was signed exactly under the two conditions on the request. So it uses that
recipients are complete (`Messaging/Groups/Recipients.lean`), and that a request that passed its
checks has a group as its target.
-/

namespace Awiki

open Py Runs

/-- What `group_incoming` reads from an envelope: the body, the restored meta, the restored body. -/
def decodeIncoming (envelope : Obj) : Option (Obj × Obj × Obj) := do
  let params ← (envelope.get "params").obj?
  let metaObj ← (Obj.get params "meta").obj?
  let body ← (Obj.get params "body").obj?
  let groupDid ← (Obj.get body "group_did").str?
  return (body, originalMeta metaObj groupDid, originalBody body)

/-- **The envelope gives back what was signed**, and its control fields are those of the receipt. -/
def RoundTrips (signedMeta signedBody receipt envelope : Obj) : Prop :=
  ∃ body metaObj' body', decodeIncoming envelope = some (body, metaObj', body') ∧
    metaObj'.Equiv signedMeta ∧ body'.Equiv signedBody ∧
    (∀ k ∈ ["group_did", "group_state_version", "group_event_seq", "accepted_at"],
      body.get k = receipt.get k) ∧
    body.get "group_receipt" = .obj receipt

/-- The body has no member named like a control field. -/
def NoControlFields (body : Obj) : Prop := ∀ k ∈ INCOMING_CONTROL_FIELDS, body.has k = false

instance (body : Obj) : Decidable (NoControlFields body) :=
  inferInstanceAs (Decidable (∀ k ∈ INCOMING_CONTROL_FIELDS, body.has k = false))

/-- The target has no member besides its kind and its DID. -/
def PlainTarget (metaObj : Obj) : Prop :=
  ∀ target, metaObj.get "target" = .obj target →
    ∀ k, Obj.has target k = true → k = "kind" ∨ k = "did"

/-! ### The body -/

/-- The control fields the Host lays under the body. -/
def controlFields (groupDid : String) (stateVersion eventSeq : ℕ) (acceptedAt : String)
    (receipt : Obj) : Obj :=
  [("group_did", .str groupDid), ("group_state_version", .str (toString stateVersion)),
    ("group_event_seq", .str (toString eventSeq)), ("accepted_at", .str acceptedAt),
    ("group_receipt", .obj receipt)]

section Body

variable {groupDid acceptedAt : String} {stateVersion eventSeq : ℕ} {receipt body : Obj}

/-- The control fields are those that have a name. -/
theorem lookup_controlFields_eq_none {k : String} (hk : k ∉ INCOMING_CONTROL_FIELDS) :
    (controlFields groupDid stateVersion eventSeq acceptedAt receipt).lookup k = none := by
  rw [Obj.lookup_eq_none_iff_not_mem]
  exact hk

/-- A member of the body goes before a control field. -/
theorem lookup_deliveryBody (k : String) :
    (deliveryBody groupDid stateVersion eventSeq acceptedAt receipt body).lookup k =
      (body.lookup k).or
        ((controlFields groupDid stateVersion eventSeq acceptedAt receipt).lookup k) :=
  Obj.lookup_merge _ _ k

/-- A body without control fields reads the Host's. -/
theorem get_deliveryBody (h : NoControlFields body) {k : String}
    (hk : k ∈ INCOMING_CONTROL_FIELDS) :
    (deliveryBody groupDid stateVersion eventSeq acceptedAt receipt body).get k =
      (controlFields groupDid stateVersion eventSeq acceptedAt receipt).get k := by
  have hnone : body.lookup k = none := by
    have := h k hk
    rwa [Obj.has, Option.isSome_eq_false_iff, Option.isNone_iff_eq_none] at this
  rw [Obj.get, Obj.getD, lookup_deliveryBody, hnone, Option.none_or]
  rfl

/-- **The restored body**: the sender's, less its control fields. -/
theorem lookup_originalBody (k : String) :
    (originalBody (deliveryBody groupDid stateVersion eventSeq acceptedAt receipt body)).lookup k =
      if k ∈ INCOMING_CONTROL_FIELDS then none else body.lookup k := by
  rw [originalBody, Obj.lookup_without]
  by_cases hk : k ∈ INCOMING_CONTROL_FIELDS
  · simp [hk]
  · simp [hk, lookup_deliveryBody, lookup_controlFields_eq_none hk]

/-- **The body comes back exactly when it names no control field.** -/
theorem originalBody_equiv_iff :
    (originalBody (deliveryBody groupDid stateVersion eventSeq acceptedAt receipt body)).Equiv
      body ↔ NoControlFields body := by
  constructor
  · intro h k hk
    rw [← h.has_eq k, Obj.has, lookup_originalBody, if_pos hk]
    rfl
  · intro h
    refine .of_lookup_eq fun k ↦ ?_
    rw [lookup_originalBody]
    split
    · rename_i hk
      have := h k hk
      rw [Obj.has, Option.isSome_eq_false_iff, Option.isNone_iff_eq_none] at this
      exact this.symm
    · rfl

end Body

/-! ### The meta -/

/-- A target of that kind and DID is the plain one exactly when it has no further member. -/
theorem groupTarget_equiv_iff {target : Obj} {kind did : String}
    (hkind : Obj.get target "kind" = .str kind) (hdid : Obj.get target "did" = .str did) :
    Obj.Equiv [("kind", .str kind), ("did", .str did)] target ↔
      ∀ k, Obj.has target k = true → k = "kind" ∨ k = "did" := by
  have hplain : ∀ k, Obj.has [("kind", .str kind), ("did", .str did)] k = true ↔
      k = "kind" ∨ k = "did" := by
    intro k
    rw [Obj.has_cons, Obj.has_cons, Obj.has_nil]
    by_cases h₁ : k = "kind" <;> by_cases h₂ : k = "did" <;> simp [h₁, h₂]
  constructor
  · intro h k hk
    rw [← hplain k, h.has_eq k]
    exact hk
  · intro h
    refine .of_lookup_eq fun k ↦ ?_
    by_cases h₁ : k = "kind"
    · subst h₁
      rw [Obj.lookup_of_get_eq_str hkind]
      rfl
    by_cases h₂ : k = "did"
    · subst h₂
      rw [Obj.lookup_of_get_eq_str hdid]
      rfl
    have hnone : ∀ o : Obj, ¬ Obj.has o k = true → o.lookup k = none := fun o ho ↦ by
      rwa [Obj.has, Bool.not_eq_true, Option.isSome_eq_false_iff, Option.isNone_iff_eq_none] at ho
    rw [hnone _ fun hk ↦ not_or.mpr ⟨h₁, h₂⟩ ((hplain k).mp hk),
      hnone _ fun hk ↦ not_or.mpr ⟨h₁, h₂⟩ (h k hk)]

/-- **The meta comes back exactly when its target is plain.** -/
theorem originalMeta_equiv_iff {metaObj target : Obj} {groupDid targetDid : String}
    (htarget : metaObj.get "target" = .obj target) (hkind : Obj.get target "kind" = .str "group")
    (hdid : Obj.get target "did" = .str groupDid) :
    (originalMeta (metaObj.set "target" (agentTarget targetDid)) groupDid).Equiv metaObj ↔
      PlainTarget metaObj := by
  have hlookup : ∀ k, (originalMeta (metaObj.set "target" (agentTarget targetDid)) groupDid).lookup
      k = if k = "target" then some (.obj [("kind", .str "group"), ("did", .str groupDid)])
        else metaObj.lookup k := by
    intro k
    rw [originalMeta, Obj.lookup_set, Obj.lookup_set]
    by_cases hk : k = "target" <;> simp [hk]
  have hmeta := Obj.lookup_of_get_eq_obj htarget
  have hplain := groupTarget_equiv_iff hkind hdid
  constructor
  · intro h target' htarget'
    obtain rfl : target = target' := Json.obj.inj (htarget.symm.trans htarget')
    exact hplain.mp (h.of_lookup ((hlookup "target").trans (if_pos rfl)) hmeta)
  · intro h
    refine .obj (fun k ↦ ?_) fun k v v' hv hv' ↦ ?_
    · rw [Obj.has, hlookup, Obj.has]
      by_cases hk : k = "target"
      · rw [if_pos hk, hk, hmeta]
        rfl
      · rw [if_neg hk]
    · rw [hlookup] at hv
      by_cases hk : k = "target"
      · rw [if_pos hk] at hv
        rw [hk, hmeta] at hv'
        obtain rfl := Option.some.inj hv
        obtain rfl := Option.some.inj hv'
        exact hplain.mpr (h target htarget)
      · rw [if_neg hk] at hv
        obtain rfl : v = v' := Option.some.inj (hv.symm.trans hv')
        exact .refl _

/-! ### The envelope -/

/-- An envelope is decoded into the body as it was laid over, and the restored meta. -/
theorem decodeIncoming_incomingEnvelope (metaObj auth body : Obj) (targetDid : String) :
    decodeIncoming (incomingEnvelope metaObj auth body targetDid) =
      (body.get "group_did").str?.map fun g ↦
        (body, originalMeta (metaObj.set "target" (agentTarget targetDid)) g,
          originalBody body) := by
  have hparams : Obj.get (incomingEnvelope metaObj auth body targetDid) "params" = .obj
      [("meta", .obj (metaObj.set "target" (agentTarget targetDid))), ("auth", .obj auth),
        ("body", .obj body)] := by
    simp [incomingEnvelope, Obj.get_cons]
  rw [decodeIncoming, hparams]
  simp [Obj.get_cons, Option.map_eq_bind]

/-- **The round trip of one envelope.** -/
theorem incomingEnvelope_roundTrips_iff {metaObj auth body receipt target : Obj}
    {groupDid acceptedAt targetDid : String} {stateVersion eventSeq : ℕ}
    (htarget : metaObj.get "target" = .obj target) (hkind : Obj.get target "kind" = .str "group")
    (hdid : Obj.get target "did" = .str groupDid)
    (hcarries : Carries receipt stateVersion eventSeq)
    (hgroup : receipt.get "group_did" = .str groupDid)
    (htime : receipt.get "accepted_at" = .str acceptedAt) :
    RoundTrips metaObj body receipt (incomingEnvelope metaObj auth
        (deliveryBody groupDid stateVersion eventSeq acceptedAt receipt body) targetDid) ↔
      NoControlFields body ∧ PlainTarget metaObj := by
  constructor
  · rintro ⟨delivered, metaObj', body', hd, hmeta, hbody, hfields, -⟩
    rw [decodeIncoming_incomingEnvelope, Option.map_eq_some_iff] at hd
    obtain ⟨g, hg, heq⟩ := hd
    simp only [Prod.mk.injEq] at heq
    obtain ⟨rfl, rfl, rfl⟩ := heq
    -- The group the Home reads is the one of the receipt.
    have hread := hfields "group_did" (by decide)
    rw [hgroup, Json.str?_eq_some.mp hg] at hread
    obtain rfl := Json.str.inj hread
    exact ⟨originalBody_equiv_iff.mp hbody,
      (originalMeta_equiv_iff htarget hkind hdid).mp hmeta⟩
  · rintro ⟨hnone, hplain⟩
    have hread : ∀ k ∈ INCOMING_CONTROL_FIELDS,
        (deliveryBody groupDid stateVersion eventSeq acceptedAt receipt body).get k =
          (controlFields groupDid stateVersion eventSeq acceptedAt receipt).get k :=
      fun k hk ↦ get_deliveryBody hnone hk
    have hfirst := hread "group_did" (by decide)
    have hdecode := decodeIncoming_incomingEnvelope metaObj auth
      (deliveryBody groupDid stateVersion eventSeq acceptedAt receipt body) targetDid
    rw [hfirst] at hdecode
    refine ⟨_, _, _, hdecode.trans rfl, (originalMeta_equiv_iff htarget hkind hdid).mpr hplain,
      originalBody_equiv_iff.mpr hnone, ?_, (hread "group_receipt" (by decide)).trans rfl⟩
    intro k hk
    simp only [List.mem_cons, List.not_mem_nil, or_false] at hk
    rcases hk with rfl | rfl | rfl | rfl
    · rw [hfirst, hgroup]
      rfl
    · rw [hread _ (by decide), hcarries.1]
      rfl
    · rw [hread _ (by decide), hcarries.2]
      rfl
    · rw [hread _ (by decide), htime]
      rfl

/-- The row of a remote member for a message, and when its envelope gives back what was signed. -/
theorem MessageAdvance.row {settings : Settings} {call : HostedCall} {st st' : Store} {result : Obj}
    {a : Advance settings st st'} (ha : MessageAdvance settings call st st' result a)
    (hmethod : call.method = .send) (hlog : HostLogInv st) (hi : OutboxInv st) {did : String}
    (hdid : RemoteActive settings st' a.group.groupDid did) :
    ∃ row ∈ st'.groupDeliveryOutbox, row.key =
        (a.event.groupDid, a.event.groupEventSeq, did, .incoming) ∧
      (RoundTrips a.ctx.metaObj a.ctx.body a.event.receipt row.envelope ↔
        NoControlFields a.ctx.body ∧ PlainTarget a.ctx.metaObj) := by
  have hrecipient := (a.mem_recipients hi.members_keyed did).mpr (.inl hdid)
  obtain ⟨m, hm, rfl⟩ := List.mem_map.mp hrecipient
  obtain ⟨row, hrow, hkey, henvelope⟩ := mem_outboxRows_of_mem (n := a.enqueuing.issued) hm
    a.group.groupDid (a.group.groupEventSeq + 1) a.notification a.envelopeFor a.now
  have hevent : a.event.key = (a.group.groupDid, a.group.groupEventSeq + 1) := a.event_key
  refine ⟨row, ?_, ?_, ?_⟩
  · rw [(a.outbox_eq hlog hi).1]
    exact List.mem_append_right _ hrow
  · have hdid : a.event.groupDid = a.group.groupDid := congrArg Prod.fst hevent
    have hseq : a.event.groupEventSeq = a.group.groupEventSeq + 1 := congrArg Prod.snd hevent
    rw [hkey, ha.notification, hdid, hseq]
  · obtain ⟨target, htarget, hkind, htargetDid⟩ := ha.verified.target
    have hversion : nextVersion a.ctx.method a.group.groupStateVersion =
        a.group.groupStateVersion := by
      simp [nextVersion, ha.verified.method_eq, hmethod]
    have hcarries := a.receipt_carries
    rw [hversion] at hcarries
    rw [a.event_receipt, henvelope, ha.envelope]
    exact incomingEnvelope_roundTrips_iff htarget hkind (ha.target ▸ htargetDid) hcarries
      ha.receipt_group ha.receipt_time

/-- **When a message survives the trip to a Home.** For every message a reachable Host accepts and
every remote active member, the envelope enqueued for the member gives back the meta and the body
that were signed, with the control fields of the receipt, if and only if the signed body has no
member named like a control field and the signed target no member besides its kind and its DID. -/
theorem envelope_round_trip_iff {settings : Settings} {w₀ w : HostWorld} {c : HostedCall}
    {e : HostedEvent} {result signedMeta signedBody : Obj} {st' : Store} (h₀ : w₀.Initial)
    (h : Reaches (HostStep settings) w₀ w) (hmethod : c.method = .send)
    (hcall : hostedCall settings w.store c = .ok (result, st'))
    (hevent : st'.hostedGroupEvents = w.store.hostedGroupEvents ++ [e])
    (hmeta : c.params.get "_anp_meta" = .obj signedMeta)
    (hbody : c.params.get "_anp_body" = .obj signedBody) {did : String}
    (hdid : RemoteActive settings st' e.groupDid did) :
    ∃ row ∈ st'.groupDeliveryOutbox, row.key = (e.groupDid, e.groupEventSeq, did, .incoming) ∧
      (RoundTrips signedMeta signedBody e.receipt row.envelope ↔
        NoControlFields signedBody ∧ PlainTarget signedMeta) := by
  obtain ⟨hlog, hi⟩ := HostInv.reaches h₀ h
  rw [hostedCall, hmethod] at hcall
  rcases hostedGroupSend_eq_ok hmethod hcall with rfl | ⟨a, ha⟩
  · simp at hevent
  · obtain rfl : a.event = e := by simpa using a.events.symm.trans hevent
    obtain rfl : a.ctx.metaObj = signedMeta := Json.obj.inj (ha.verified.metaObj.symm.trans hmeta)
    obtain rfl : a.ctx.body = signedBody := Json.obj.inj (ha.verified.body.symm.trans hbody)
    have hgroup : a.event.groupDid = a.group.groupDid := congrArg Prod.fst a.event_key
    rw [hgroup] at hdid
    exact ha.row hmethod hlog hi hdid

/-- A body with a member named like a control field. -/
def overridingBody : Obj := [("text", .str "hi"), ("group_did", .str "did:wba:x.example:groups:y")]

/-- The sample Host after Alice has sent a message with this body. -/
def sentSample (body : Obj) : Store :=
  afterCall .sample HostWorld.sample.store (sampleSend body HostWorld.sample.store)

/-- The sample Host accepts such a message as event 3, and Bob is a remote member after it. -/
theorem sentSample_accepted {body : Obj}
    (hkeys : (sentSample body).hostedGroupEvents.map HostedEvent.key =
      HostWorld.sample.store.hostedGroupEvents.map HostedEvent.key ++ [(sampleGroup, 3)])
    (hbob : (sentSample body).hostedGroupMembers.any (fun m ↦
      decide (m.key = (sampleGroup, bob) ∧ m.status = .active) && m.isRemote .sample) = true) :
    ∃ result e, hostedCall .sample HostWorld.sample.store
          (sampleSend body HostWorld.sample.store) = .ok (result, sentSample body) ∧
      (sentSample body).hostedGroupEvents = HostWorld.sample.store.hostedGroupEvents ++ [e] ∧
      e.key = (sampleGroup, 3) ∧ RemoteActive .sample (sentSample body) e.groupDid bob := by
  have hlonger : (sentSample body).hostedGroupEvents.length =
      HostWorld.sample.store.hostedGroupEvents.length + 1 := by
    simpa using congrArg List.length hkeys
  obtain ⟨result, e, hcall, hevent⟩ := hostedCall_of_longer_log hlonger
  have hkey : e.key = (sampleGroup, 3) := by
    rw [sentSample, hevent, List.map_append] at hkeys
    simpa using hkeys
  have hdid : e.groupDid = sampleGroup := congrArg Prod.fst hkey
  obtain ⟨m, hm, hmbob⟩ := List.any_eq_true.mp hbob
  rw [Bool.and_eq_true, decide_eq_true_eq] at hmbob
  exact ⟨result, e, hcall, hevent, hkey, m, hm, hdid ▸ hmbob.1.1, hmbob.1.2, hmbob.2⟩

/-- **A body that names a control field does not come back.** Bob's Home restores a body without the
member, which is not the body Alice signed. -/
theorem overriding_body_lost :
    ¬ ∀ (c : HostedCall) (result signedMeta signedBody : Obj) (st' : Store) (e : HostedEvent)
        (did : String) (row : OutboxRow), c.method = .send →
      hostedCall .sample HostWorld.sample.store c = .ok (result, st') →
      st'.hostedGroupEvents = HostWorld.sample.store.hostedGroupEvents ++ [e] →
      c.params.get "_anp_meta" = .obj signedMeta → c.params.get "_anp_body" = .obj signedBody →
      RemoteActive .sample st' e.groupDid did → row ∈ st'.groupDeliveryOutbox →
      row.key = (e.groupDid, e.groupEventSeq, did, .incoming) →
      RoundTrips signedMeta signedBody e.receipt row.envelope := by
  intro hall
  obtain ⟨result, e, hcall, hevent, hkey, hactive⟩ :=
    @sentSample_accepted overridingBody (by decide +kernel) (by decide +kernel)
  -- What the Home restores from the row for Bob has no member `group_did`.
  have hrow : (sentSample overridingBody).groupDeliveryOutbox.any (fun r ↦
      decide (r.key = (sampleGroup, 3, bob, .incoming)) &&
        (decodeIncoming r.envelope).all fun d ↦ !d.2.2.has "group_did") = true := by
    decide +kernel
  obtain ⟨row, hmem, hrow⟩ := List.any_eq_true.mp hrow
  rw [Bool.and_eq_true, decide_eq_true_eq] at hrow
  have hdid : e.groupDid = sampleGroup := congrArg Prod.fst hkey
  have hseq : e.groupEventSeq = 3 := congrArg Prod.snd hkey
  obtain ⟨_, _, body', hdecode, -, hbody, -⟩ := hall _ result _ overridingBody _ e bob row rfl hcall
    hevent rfl rfl hactive hmem (by rw [hdid, hseq, hrow.1])
  have hhas := hbody.has_eq "group_did"
  rw [hdecode] at hrow
  have hnot : Obj.has body' "group_did" = false := by simpa using hrow.2
  rw [hnot] at hhas
  exact absurd hhas (by decide)

/-- A plain text message comes back from Bob's row as it was signed. -/
theorem envelope_round_trip_sample :
    ∃ row ∈ (sentSample [("text", .str "hi")]).groupDeliveryOutbox,
      RoundTrips ((Obj.get (sampleSend [("text", .str "hi")] {}).params "_anp_meta").obj?.getD [])
        [("text", .str "hi")]
        (((sentSample [("text", .str "hi")]).hostedGroupEvents.getLast?.map (·.receipt)).getD [])
        row.envelope := by
  obtain ⟨result, e, hcall, hevent, -, hactive⟩ :=
    @sentSample_accepted [("text", .str "hi")] (by decide +kernel) (by decide +kernel)
  obtain ⟨row, hrow, -, hiff⟩ := envelope_round_trip_iff HostWorld.empty_initial
    HostWorld.sample_reached rfl hcall hevent rfl rfl hactive
  refine ⟨row, hrow, ?_⟩
  rw [hevent, List.getLast?_append]
  refine hiff.mpr ⟨by decide, ?_⟩
  intro target htarget k hk
  obtain rfl := Json.obj.inj htarget
  by_contra hne
  rw [not_or] at hne
  simp [Obj.has_cons, hne.1, hne.2] at hk

end Awiki
