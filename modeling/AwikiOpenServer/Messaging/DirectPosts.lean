import AwikiOpenServer.Lib.Acting
import AwikiOpenServer.Messaging.MessageNumbers

/-!
# What a direct send posts

`direct_send` again, with the one thing it does outside of the database: the message to a recipient
elsewhere is posted to the other service, and only then stored here. Beside the posts the record of
a send has the stored rows with which it was refused.

A send elsewhere looks for an earlier message twice, before the post by the message id alone and
while storing by the operation id first. So a refusal comes before the post exactly if it is about
the message id (`refused_before_posting_iff`).

## Two programs of one function

`Messaging/DirectSend.lean` has `direct_send` as its statements on the database, which is what the
results about message numbers and stored messages are about. Here the same function is written once
more, in a program that also says what it does beside its statements (`SendSteps`): it posts, and it
is refused for a row. **That the two are one function is a theorem** (`statements_directSendSteps`),
made of one equation for each of its parts; forgetting what is done beside the statements leaves
exactly the statements. So what is proved about either is about the source.

## A refusal and its row

A row is found by a message id or an operation id, and compared with the command; where they differ
the send is refused with the fields that do. `SendAct.refused` records the row with it, since the
error does not name it, and the condition of the theorem is about its message id.

`SeesElsewhere` says what the statements of such a send find: the messages of the moment it began,
perhaps with more behind them, for rows of `direct_messages` are never changed or deleted. With it
the theorem speaks of a send beside any other requests, although nothing in it mentions them.
-/

namespace Awiki

open Py Transactions

/-- What a send does beside its statements. -/
inductive SendAct where
  | posted (service payload : Obj)
  /-- The request is in conflict with a stored message. -/
  | refused (row : DirectMessage)

/-- The statements of a request, and what it does beside them. -/
abbrev SendSteps (α : Type) := Acting SendAct Store AwikiError α

/-- Statements alone. -/
abbrev quietly {α : Type} (p : Statements α) : SendSteps α := .ofProgram p

/-- The comparison with a stored message. -/
def compareDirect (row : DirectMessage) (c : DirectCommand) : SendSteps Obj :=
  match directIdempotentResultOrRaise row c with
  | .ok replay => pure replay
  | .error e => .act (.refused row) (.raise e)

/-- `_store_direct_message`. -/
def storeDirectSteps (req : SendRequest) (c : DirectCommand) : SendSteps Obj := do
  let operationExisting ← quietly (.query (messageOfOperation req c))
  match ← quietly (check operationExisting) with
  | some row => compareDirect row c
  | none =>
    let existing ← quietly (.query (messageOfId req c))
    match ← quietly (check existing) with
    | some row => compareDirect row c
    | none =>
      let seq ← quietly (.query fun st ↦ nextSeq (st.directMessages.map DirectMessage.serverSeq))
      quietly (insertAndShow req c seq)

/-- The request `_send_remote_direct` posts. -/
def remoteDirectPayload (operationId : Json) (metaObj body : Obj) (auth : Option Obj) : Obj :=
  [("jsonrpc", .str "2.0"), ("method", .str "direct.send"),
    ("params", .obj [("meta", .obj metaObj), ("auth", (auth.map Json.obj).getD .null),
      ("body", .obj body)]),
    ("id", operationId)]

/-- What `_send_remote_direct` makes of the reply. -/
def remoteDirectResult (req : SendRequest) (service payload : Obj)
    (recipient messageId operationId : Json) : Result Obj := do
  let response ← postRemoteDirect req service payload recipient
  require (!response.has "error") (remoteDelivery "remote_delivery_failed" recipient
    [("remote_error", response.get "error")])
  let result ← orRaise (remoteDelivery "remote_direct_result_required" recipient)
    (response.get "result").obj?
  validateRemoteDirectResult req result recipient operationId messageId
  return result

/-- `_send_remote_direct`. -/
def sendRemoteSteps (req : SendRequest) (recipientDid : String)
    (recipient messageId operationId : Json) (metaObj body : Obj) (auth : Option Obj) :
    SendSteps Obj := do
  let service ← quietly (check (req.outside.discoverAnpService recipientDid))
  let payload := remoteDirectPayload operationId metaObj body auth
  .perform (.posted service payload)
  quietly (check (remoteDirectResult req service payload recipient messageId operationId))

/-- A send of a local user to a recipient on another service. -/
def sendElsewhereSteps (settings : Settings) (req : SendRequest) (c : DirectCommand)
    (sender recipient : String) : SendSteps Obj := do
  quietly (check (require (!didBelongsToDomain recipient settings.didDomain)
    (.notFound "recipient_not_found" [("recipient_did", c.recipient)])))
  quietly (verifySenderProof req "direct.send" sender c.metaObj c.body c.auth)
  let existing ← quietly (.query (messageOfId req c))
  match ← quietly (check existing) with
  | some row => compareDirect row c
  | none =>
    let remote ← sendRemoteSteps req recipient c.recipient c.messageId c.operationId
      c.metaObj c.body c.auth
    storeDirectSteps req { c with
      senderLocal := true
      recipientLocal := false
      deliveryState := req.outside.str ((remote.get "delivery_state").orElse (.str "accepted"))
      finalAcceptance := (remote.getD "final_acceptance" (.bool true)).truthy
      originProofVerified := true }

/-- A send that arrived from another service. -/
def receiveDirectSteps (settings : Settings) (req : SendRequest) (c : DirectCommand)
    (sender : String) : SendSteps Obj := do
  quietly (check (require c.recipientLocal
    (.invalidParams "recipient_not_local" [("recipient_did", c.recipient)])))
  quietly (verifySenderProof req "direct.send" sender c.metaObj c.body c.auth)
  let _ ← quietly (check (verifyPeerRequestSignature settings req.toRequest sender))
  if isDaemonHeartbeat req c.metaObj c.body c.contentType then return acceptEphemeralDirect req c
  else storeDirectSteps req { c with recipientLocal := true, originProofVerified := true }

/-- A send of a local user, once its proof has been checked. -/
def sendOnwardSteps (settings : Settings) (req : SendRequest) (c : DirectCommand) (body : Obj)
    (sender recipient : String) : SendSteps Obj :=
  if c.recipientLocal then
    if isDaemonHeartbeat req c.metaObj c.body c.contentType then pure (acceptEphemeralDirect req c)
    else storeDirectSteps req { c with body := body }
  else sendElsewhereSteps settings req c sender recipient

/-! ### The parameters of a send -/

section Parameters

variable (req : SendRequest) (params : Obj)

/-- The metadata of the envelope. -/
def sendMeta : Obj := (envelopePart params "_anp_meta").getD []

/-- The recipient, under either name. -/
def sendRecipient : Json := (params.get "recipient_did").orElse (params.get "to")

/-- The content type: the parameter, else that of the metadata, else plain text. -/
def sendContentType : Json :=
  ((params.get "content_type").orElse ((sendMeta params).get "content_type")).orElse
    (.str "text/plain")

/-- The body of the command, and that of the envelope, if there is one. -/
def sendBody : Obj := directBody params (sendContentType params)

/-- What a proof of the sender is about. -/
def sendProofBody : Obj := dictOr (envelopePart params "_anp_body") (sendBody params)

/-- The message id, or a new one. -/
def sendMessageId : Json := (params.get "message_id").orElse (.str req.newMessageId)

/-- The operation id, or a new one. -/
def sendOperationId : Json := (params.get "operation_id").orElse (.str req.newOperationId)

/-- The command `direct_send` makes of a request. -/
def sendCommand (sender : Json) (senderLocal recipientLocal : Bool) : DirectCommand where
  sender := sender
  recipient := sendRecipient params
  body := sendProofBody params
  contentType := sendContentType params
  messageId := sendMessageId req params
  operationId := sendOperationId req params
  idempotencyOperationId := params.get "operation_id"
  senderLocal := senderLocal
  recipientLocal := recipientLocal
  metaObj := sendMeta params
  auth := envelopePart params "_anp_auth"
  originProofVerified := isAnpEnvelope params

/-- The shape of the body, where it is checked. -/
def checkBodyShape : Result Unit :=
  if shouldValidateBodyShape req params (sendContentType params) then
    validateMessageBodyShape req (sendProofBody params) (sendContentType params)
      DIRECT_BODY_EXTENSION_KEYS
  else .ok ()

/-- The checks before the look-ups; they end with the sender. -/
def checkDirectSend : Result Json := do
  let publicRpc := decide (req.surface = .publicRpc)
  let authenticated ← currentDid req.toRequest !publicRpc
  let sender := (params.get "sender_did").orElse (textOrNull authenticated)
  validateSendEnvelopeMeta params (sendMeta params) "agent" (sendRecipient params)
  checkBodyShape req params
  require (sender.truthy && (sendRecipient params).truthy)
    (.invalidParams "sender_and_recipient_required")
  require (publicRpc || authenticated.all fun did ↦ sender.isStr did)
    (.unauthorized "sender_did_mismatch")
  return sender

end Parameters

/-- `direct_send`. -/
def directSendSteps (settings : Settings) (req : SendRequest) (params : Obj) : SendSteps Obj := do
  let sender ← quietly (check (checkDirectSend req params))
  let senderDid ← quietly (check (bindTextNotNull req.outside.reprFloat sender))
  let senderLocal ← quietly (.query fun st ↦ userExists st senderDid)
  let recipientDid ← quietly (check (bindTextNotNull req.outside.reprFloat (sendRecipient params)))
  let recipientLocal ← quietly (.query fun st ↦ userExists st recipientDid)
  let c := sendCommand req params sender senderLocal recipientLocal
  if req.surface = .publicRpc then receiveDirectSteps settings req c senderDid
  else do
    quietly
      (check (require senderLocal (.unauthorized "sender_not_local" [("sender_did", sender)])))
    quietly (.onlyIf (isAnpEnvelope params)
      (verifySenderProof req "direct.send" senderDid c.metaObj c.body c.auth))
    sendOnwardSteps settings req c (sendBody params) senderDid recipientDid

/-! ### The same statements -/

section Statements

variable {settings : Settings} {req : SendRequest}

/-- A comparison has no statements. -/
theorem statements_compareDirect (row : DirectMessage) (c : DirectCommand) :
    (compareDirect row c).statements = check (directIdempotentResultOrRaise row c) := by
  unfold compareDirect
  cases directIdempotentResultOrRaise row c <;> rfl

/-- Storing a message. -/
theorem statements_storeDirectSteps (c : DirectCommand) :
    (storeDirectSteps req c).statements = storeDirectMessage req c := by
  unfold storeDirectSteps storeDirectMessage
  simp only [Acting.statements_bind, Acting.statements_ofProgram]
  congr 1
  funext existing
  congr 1
  funext found
  cases found with
  | some row => exact statements_compareDirect row c
  | none =>
    simp only [Acting.statements_bind, Acting.statements_ofProgram]
    congr 1
    funext existing
    congr 1
    funext found
    cases found with
    | some row => exact statements_compareDirect row c
    | none => simp only [Acting.statements_bind, Acting.statements_ofProgram]

/-- One check after another is one check. -/
theorem check_bind {α β : Type} (x : Result α) (f : α → Result β) :
    check (x >>= f) = check x >>= fun a ↦ check (f a) := by
  cases x <;> rfl

/-- The exchange with the other service. -/
theorem statements_sendRemoteSteps (recipientDid : String)
    (recipient messageId operationId : Json) (metaObj body : Obj) (auth : Option Obj) :
    (sendRemoteSteps req recipientDid recipient messageId operationId metaObj body auth).statements
      = check
        (sendRemoteDirect req recipientDid recipient messageId operationId metaObj body auth) := by
  have hresult :
      sendRemoteDirect req recipientDid recipient messageId operationId metaObj body auth =
      (req.outside.discoverAnpService recipientDid >>= fun service ↦
        remoteDirectResult req service (remoteDirectPayload operationId metaObj body auth)
          recipient messageId operationId) := rfl
  rw [hresult, check_bind]
  simp only [sendRemoteSteps, Acting.statements_bind, Acting.statements_ofProgram,
    Acting.statements_perform]
  rfl

/-- A send to a recipient elsewhere. -/
theorem statements_sendElsewhereSteps (c : DirectCommand) (sender recipient : String) :
    (sendElsewhereSteps settings req c sender recipient).statements =
      sendElsewhere settings req c sender recipient := by
  simp only [sendElsewhereSteps, sendElsewhere, Acting.statements_bind,
    Acting.statements_ofProgram]
  congr 1
  funext _
  congr 1
  funext _
  congr 1
  funext existing
  congr 1
  funext found
  cases found with
  | some row => exact statements_compareDirect row c
  | none =>
    simp only [Acting.statements_bind, statements_sendRemoteSteps, statements_storeDirectSteps]

/-- A send from another service. -/
theorem statements_receiveDirectSteps (c : DirectCommand) (sender : String) :
    (receiveDirectSteps settings req c sender).statements =
      receiveDirect settings req c sender := by
  simp only [receiveDirectSteps, receiveDirect, Acting.statements_bind,
    Acting.statements_ofProgram]
  congr 1
  funext _
  congr 1
  funext _
  congr 1
  funext _
  split
  · rfl
  · exact statements_storeDirectSteps _

/-- A send of a local user, to anybody. -/
theorem statements_sendOnwardSteps (c : DirectCommand) (body : Obj) (sender recipient : String) :
    (sendOnwardSteps settings req c body sender recipient).statements =
      sendOnward settings req c body sender recipient := by
  unfold sendOnwardSteps sendOnward
  split
  · split
    · rfl
    · exact statements_storeDirectSteps _
  · exact statements_sendElsewhereSteps c sender recipient

/-- One check after another, before more statements. -/
theorem check_bind_bind {α β γ : Type} (x : Result α) (f : α → Result β) (g : β → Statements γ) :
    check (x >>= f) >>= g = check x >>= fun a ↦ check (f a) >>= g := by
  cases x <;> rfl

/-- The shape of the body is checked where the source checks it. -/
theorem check_checkBodyShape (params : Obj) :
    check (checkBodyShape req params) =
      .onlyIf (shouldValidateBodyShape req params (sendContentType params))
        (check (validateMessageBodyShape req (sendProofBody params) (sendContentType params)
          DIRECT_BODY_EXTENSION_KEYS)) := by
  unfold checkBodyShape Program.onlyIf
  split <;> rfl

/-- **These are the statements of `direct_send`.** -/
theorem statements_directSendSteps (params : Obj) :
    (directSendSteps settings req params).statements = directSend settings req params := by
  simp only [directSendSteps, Acting.statements_bind, Acting.statements_ofProgram, checkDirectSend,
    check_bind_bind, check_checkBodyShape]
  unfold directSend
  dsimp only
  congr 1
  funext authenticated
  congr 1
  funext _
  congr 1
  funext _
  congr 1
  funext _
  congr 1
  funext _
  show check (bindTextNotNull _ _) >>= _ = _
  congr 1
  funext senderDid
  congr 1
  funext senderLocal
  congr 1
  funext recipientDid
  congr 1
  funext recipientLocal
  by_cases hpublic : req.surface = .publicRpc
  · rw [if_pos hpublic, if_pos (decide_eq_true hpublic), statements_receiveDirectSteps]
    rfl
  · rw [if_neg hpublic, if_neg (by simpa using hpublic)]
    simp only [Acting.statements_bind, Acting.statements_ofProgram, statements_sendOnwardSteps]
    rfl

end Statements

/-! ### Refusals -/

section Refusals

variable {settings : Settings} {req : SendRequest} {c : DirectCommand} {K : Store → Prop}
  {done : List SendAct} {out : Result Obj} {s : Store} {row : DirectMessage}

/-- A message that is found has the id of the command. -/
theorem messageOfId_eq_some (h : messageOfId req c s = .ok (some row)) :
    row ∈ s.directMessages ∧
      bindText req.outside.reprFloat c.messageId = .ok (some row.messageId) := by
  obtain ⟨messageId, hbound, hfind⟩ := bind_eq_ok.mp h
  have hfind := pure_eq_ok.mp hfind
  obtain rfl : some row.messageId = messageId := by simpa using List.find?_some hfind
  exact ⟨List.mem_of_find?_eq_some hfind, hbound⟩

/-- When none is found, no message has it. -/
theorem messageOfId_eq_none (h : messageOfId req c s = .ok none) :
    ∀ m ∈ s.directMessages,
      bindText req.outside.reprFloat c.messageId ≠ .ok (some m.messageId) := by
  obtain ⟨messageId, hbound, hfind⟩ := bind_eq_ok.mp h
  have hfind := pure_eq_ok.mp hfind
  rintro m hm hsome
  obtain rfl := Except.ok.inj (hbound.symm.trans hsome)
  exact List.find?_eq_none.mp hfind m hm (decide_eq_true rfl)

/-- A comparison refuses or does nothing. -/
theorem done_of_compareDirect (h : (compareDirect row c).MayEnd K done out) (hdone : done ≠ []) :
    done = [.refused row] := by
  unfold compareDirect at h
  split at h
  · exact absurd h.1 hdone
  · obtain ⟨rest, rfl, rfl, -⟩ := h
    rfl

/-- The exchange with the other service posts, unless that service is not found. -/
theorem done_of_sendRemoteSteps {recipientDid : String} {recipient messageId operationId : Json}
    {metaObj body : Obj} {auth : Option Obj}
    (h : (sendRemoteSteps req recipientDid recipient messageId operationId metaObj body auth).MayEnd
      K done out) :
    (∃ service payload, done = [.posted service payload]) ∨ done = [] ∧ ∃ e, out = .error e := by
  rcases Acting.mayEnd_bind h with ⟨e, hout, hend⟩ | ⟨service, before, after, rfl, hend, hrest⟩
  · exact .inr ⟨Acting.done_of_ofProgram hend, e, hout⟩
  · obtain rfl := Acting.done_of_ofProgram hend
    obtain ⟨rest, rfl, hrest⟩ := hrest
    have hnone : rest = [] := Acting.done_of_ofProgram (p := check _) hrest
    exact .inl ⟨service, _, by rw [hnone, List.nil_append]⟩

/-- **How a send elsewhere is refused**: at once, for a message with its message id; or when there
is none and it has been posted. -/
theorem refused_of_sendElsewhereSteps {sender recipient : String}
    (h : (sendElsewhereSteps settings req c sender recipient).MayEnd K done out)
    (hrefused : .refused row ∈ done) :
    (done = [.refused row] ∧ ∃ s, K s ∧ messageOfId req c s = .ok (some row)) ∨
      ((∃ service payload, .posted service payload ∈ done) ∧
        ∃ s, K s ∧ messageOfId req c s = .ok none) := by
  have hdone : done ≠ [] := List.ne_nil_of_mem hrefused
  obtain ⟨_, -, h⟩ := Acting.mayEnd_ofProgram_bind h hdone
  obtain ⟨_, -, h⟩ := Acting.mayEnd_ofProgram_bind h hdone
  obtain ⟨existing, hquery, h⟩ := Acting.mayEnd_ofProgram_bind h hdone
  obtain ⟨found, hfound, h⟩ := Acting.mayEnd_ofProgram_bind h hdone
  obtain ⟨s, hs, rfl⟩ := Acting.mayEnd_query hquery
  have hfound := Acting.mayEnd_ofExcept hfound
  cases found with
  | some earlier =>
    obtain rfl := done_of_compareDirect h hdone
    obtain ⟨rfl⟩ := List.mem_singleton.mp hrefused
    exact .inl ⟨rfl, s, hs, hfound⟩
  | none =>
    refine .inr ⟨?_, s, hs, hfound⟩
    rcases Acting.mayEnd_bind h with ⟨e, -, hremote⟩ | ⟨remote, before, after, rfl, hremote, -⟩
    · rcases done_of_sendRemoteSteps hremote with ⟨service, payload, rfl⟩ | ⟨hnone, -⟩
      · exact ⟨service, payload, List.mem_singleton_self _⟩
      · exact absurd hnone hdone
    · rcases done_of_sendRemoteSteps hremote with ⟨service, payload, rfl⟩ | ⟨-, e, hfailed⟩
      · exact ⟨service, payload, List.mem_append_left _ (List.mem_singleton_self _)⟩
      · cases hfailed

/-- What the statements of a send see: the messages of `st`, perhaps among others, and a recipient
that is no user here. -/
structure SeesElsewhere (req : SendRequest) (params : Obj) (st s : Store) : Prop where
  messages : ∀ m ∈ st.directMessages, m ∈ s.directMessages
  elsewhere : ∀ did, bindTextNotNull req.outside.reprFloat (sendRecipient params) = .ok did →
    userExists s did = false

/-- **A send elsewhere that is refused for a message stored before it began has posted nothing
exactly if its message id is a stored one.** Any number of other requests may run beside it. -/
theorem refused_before_posting_iff {params : Obj} {st : Store} (hlocal : req.surface ≠ .publicRpc)
    (h : (directSendSteps settings req params).MayEnd (SeesElsewhere req params st) done out)
    (hrow : ∃ m ∈ st.directMessages, m.messageId = row.messageId)
    (hrefused : .refused row ∈ done) :
    (∀ service payload, .posted service payload ∉ done) ↔
      ∃ m ∈ st.directMessages, bindText req.outside.reprFloat (sendMessageId req params) =
        .ok (some m.messageId) := by
  have hdone : done ≠ [] := List.ne_nil_of_mem hrefused
  obtain ⟨sender, -, h⟩ := Acting.mayEnd_ofProgram_bind h hdone
  obtain ⟨senderDid, -, h⟩ := Acting.mayEnd_ofProgram_bind h hdone
  obtain ⟨senderLocal, -, h⟩ := Acting.mayEnd_ofProgram_bind h hdone
  obtain ⟨recipientDid, hrecipient, h⟩ := Acting.mayEnd_ofProgram_bind h hdone
  obtain ⟨recipientLocal, hexists, h⟩ := Acting.mayEnd_ofProgram_bind h hdone
  obtain ⟨s, hs, rfl⟩ := Acting.mayEnd_query hexists
  rw [hs.elsewhere _ (Acting.mayEnd_ofExcept hrecipient), if_neg hlocal] at h
  obtain ⟨_, -, h⟩ := Acting.mayEnd_ofProgram_bind h hdone
  obtain ⟨_, -, h⟩ := Acting.mayEnd_ofProgram_bind h hdone
  rcases refused_of_sendElsewhereSteps h hrefused with
    ⟨rfl, s, -, hfound⟩ | ⟨⟨service, payload, hposted⟩, s, hs, hnone⟩
  · obtain ⟨m, hm, hid⟩ := hrow
    refine iff_of_true (fun service payload hposted ↦ ?_) ⟨m, hm, ?_⟩
    · cases List.mem_singleton.mp hposted
    · rw [hid]
      exact (messageOfId_eq_some hfound).2
  · refine iff_of_false (fun hquiet ↦ hquiet service payload hposted) ?_
    rintro ⟨m, hm, hbound⟩
    exact messageOfId_eq_none hnone m (hs.messages m hm) hbound

end Refusals

/-! ### A reused operation id -/

/-- The metadata of a message from Alice to Bob. -/
def toBobMeta (messageId operationId : String) : Obj :=
  [("profile", .str "anp.direct.base.v1"), ("security_profile", .str "transport-protected"),
    ("sender_did", .str alice), ("target", .obj [("kind", .str "agent"), ("did", .str bob)]),
    ("operation_id", .str operationId), ("message_id", .str messageId),
    ("content_type", .str "text/plain")]

/-- The message. -/
def toBob (messageId operationId : String) : Obj :=
  [("recipient_did", .str bob), ("message_id", .str messageId), ("operation_id", .str operationId),
    ("_anp_meta", .obj (toBobMeta messageId operationId)), ("_anp_auth", .obj sampleAuth),
    ("_anp_body", .obj [("text", .str "hello")])]

/-- Alice sends it, and Bob's service accepts it in the given state. -/
def toBobRequest (messageId operationId deliveryState : String) : SendRequest :=
  { sendRequest alice messageId with
    outside := { Outside.honest with
      postSigned := fun _ _ ↦ .ok [("result", .obj
        [("accepted", .bool true), ("message_id", .str messageId),
          ("operation_id", .str operationId), ("target_did", .str bob),
          ("accepted_at", .str "2026-01-01T00:00:00Z"),
          ("delivery_state", .str deliveryState)])] } }

/-- The row of an earlier message to Bob. -/
def storedToBob : DirectMessage where
  messageId := "m1"
  senderDid := alice
  recipientDid := bob
  operationId := some "op-1"
  body := [("text", .str "hello")]
  contentType := "text/plain"
  createdAt := "2026-01-01T00:00:00Z"
  serverSeq := 1
  metaJson := some (toBobMeta "m1" "op-1")
  originAuth := some sampleAuth
  originProofVerified := true
  authoritativeSenderDid := alice
  securityProfile := "transport-protected"

/-- Alice's server, where it is stored. -/
def afterToBob : Store := { sampleSenders with directMessages := [storedToBob] }

/-- The state of its database, seen by a request that runs alone. -/
theorem afterToBob_seesElsewhere (messageId operationId : String) :
    SeesElsewhere (toBobRequest messageId operationId "accepted") (toBob messageId operationId)
      afterToBob afterToBob where
  messages _ hm := hm
  elsewhere did h := by
    obtain rfl : bob = did := Except.ok.inj h
    decide

/-- The ids of the messages a request was refused for, and nothing for a post. -/
def SendAct.refusedId? : SendAct → Option String
  | posted _ _ => none
  | refused row => some row.messageId

/-- The record of the message again, under other ids. -/
def recordOf (messageId operationId : String) : Option (List (Option String)) :=
  ((directSendSteps .sample (toBobRequest messageId operationId "accepted")
    (toBob messageId operationId)).endsReading afterToBob).map fun r ↦ r.1.map SendAct.refusedId?

/-- A record that can be computed is the record of a refused send. -/
theorem recordOf_cases {messageId operationId : String} {record : List (Option String)}
    (h : recordOf messageId operationId = some record) :
    ∃ done out, (directSendSteps .sample (toBobRequest messageId operationId "accepted")
        (toBob messageId operationId)).MayEnd
      (SeesElsewhere (toBobRequest messageId operationId "accepted") (toBob messageId operationId)
        afterToBob) done out ∧ done.map SendAct.refusedId? = record := by
  obtain ⟨⟨done, out⟩, hends, hrecord⟩ := Option.map_eq_some_iff.mp h
  exact ⟨done, out, Acting.mayEnd_of_endsReading (afterToBob_seesElsewhere _ _) hends, hrecord⟩

/-- An id in the record is that of a row it was refused for. -/
theorem refused_of_refusedId {done : List SendAct} {id : String}
    (h : some id ∈ done.map SendAct.refusedId?) :
    ∃ row, .refused row ∈ done ∧ row.messageId = id := by
  obtain ⟨act, hact, hid⟩ := List.mem_map.mp h
  cases act with
  | posted service payload => cases hid
  | refused row => exact ⟨row, hact, Option.some.inj hid⟩

/-- The message id again, under a new operation id: refused without a post. -/
theorem refused_before_posting_message_id :
    ∃ done out row, (directSendSteps .sample (toBobRequest "m1" "op-2" "accepted")
        (toBob "m1" "op-2")).MayEnd
      (SeesElsewhere (toBobRequest "m1" "op-2" "accepted") (toBob "m1" "op-2") afterToBob)
        done out ∧ .refused row ∈ done ∧ ∀ service payload, .posted service payload ∉ done := by
  have hrecord : recordOf "m1" "op-2" = some [some "m1"] := by decide +kernel
  obtain ⟨done, out, hends, hids⟩ := recordOf_cases hrecord
  obtain ⟨row, hrefused, hid⟩ := refused_of_refusedId (hids ▸ List.mem_singleton_self _)
  exact ⟨done, out, row, hends, hrefused, (refused_before_posting_iff (by decide) hends
    ⟨storedToBob, List.mem_singleton_self _, hid.symm⟩ hrefused).mpr
      ⟨storedToBob, List.mem_singleton_self _, rfl⟩⟩

/-- **The operation id again, under a new message id, is posted and then refused.** -/
theorem posted_and_refused :
    ¬ ∀ (settings : Settings) (req : SendRequest) (params : Obj) (st : Store) (done : List SendAct)
      (out : Result Obj) (row : DirectMessage), req.surface ≠ .publicRpc →
      (directSendSteps settings req params).MayEnd (SeesElsewhere req params st) done out →
      (∃ m ∈ st.directMessages, m.messageId = row.messageId) → .refused row ∈ done →
      ∀ service payload, .posted service payload ∉ done := by
  intro hall
  have hrecord : recordOf "m2" "op-1" = some [none, some "m1"] := by decide +kernel
  obtain ⟨done, out, hends, hids⟩ := recordOf_cases hrecord
  obtain ⟨row, hrefused, hid⟩ : ∃ row, .refused row ∈ done ∧ row.messageId = "m1" :=
    refused_of_refusedId (by rw [hids]; decide)
  have hquiet := hall .sample _ _ afterToBob done out row (by decide) hends
    ⟨storedToBob, List.mem_singleton_self _, hid.symm⟩ hrefused
  have hfirst : none ∈ done.map SendAct.refusedId? := by rw [hids]; decide
  obtain ⟨act, hact, hnone⟩ := List.mem_map.mp hfirst
  cases act with
  | posted service payload => exact hquiet service payload hact
  | refused row => cases hnone

end Awiki
