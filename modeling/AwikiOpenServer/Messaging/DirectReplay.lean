import AwikiOpenServer.Lib.Rely
import AwikiOpenServer.Messaging.DirectPosts

/-!
# A direct send, again

A client that has no answer sends its request again. `direct_send` recognizes it by its message id
and answers from the stored row. The row has everything of the first answer but what the other
service made of the message: the delivery state and the final acceptance are not stored, and the
second answer takes the defaults for them.

So a replay says what the first answer said whenever the other service had simply accepted
(`replay_reports_first_answer`). That it posts nothing needs the order: the second request begins
after the first is committed, and so its first look-up finds the row.

## Between the two requests

The server serves any number of requests on any number of connections, statement by statement, and
the second request comes at any time after the first is committed. A request is a direct send, or
anything else that leaves `direct_messages` alone (`OtherRequest`); a send may be cut off anywhere
and then has written nothing.

## The argument

It has two halves, of the two requests.

* **What was answered is stored.** `serveMessaging_owes` is the obligation of a commit: it leaves a
  row behind its answer (`AnsweredFrom`), and rows stay. Along a history every answer of a send has
  its row then (`answeredFrom_of_history`), whoever committed in between. The rule of `direct_send`
  is used for this once (`directSendSteps_guarded`): whatever way a send takes, it answers at once,
  from a row with its message id, or through `_store_direct_message`.
* **What is stored is answered.** A request that begins after the row is stored finds it, compares,
  and answers from it or is refused, and it does no more (`serveMessaging_replays`).

A replay is computed from the row and the request (`replayFrom`), and `replayFrom_eq` compares that
with the first answer, key by key: the keys of `OUTCOME_KEYS` are where the other service comes in.
`SimplyAccepts` is the condition under which they are the defaults, and
`replay_forgets_delivery_state` is a run where they are not.
-/

namespace Awiki

open Py Transactions

/-! ### A server of direct sends -/

/-- Any other request: it leaves the direct messages alone. -/
structure OtherRequest where
  program : Statements Unit
  leavesMessages : ∀ s last, program.Guarded (fun _ ↦ True) (fun _ found _ ↦ found = s)
    (fun _ _ ↦ True) (fun _ s' ↦ s'.directMessages = s.directMessages) last

/-- A send to a legacy group is one. -/
def OtherRequest.groupSend (req : SendRequest) (params : Obj) : OtherRequest where
  program := do
    let _ ← Awiki.groupSend req params
    return ()
  leavesMessages s last := by
    refine (Program.guarded_bind _ _).mpr ((groupSend_guarded
      (W := fun _ s' ↦ s'.directMessages = s.directMessages) (fun c read htruthy _ ↦ ?_)
      params).mono (fun _ _ _ ↦ trivial) fun _ _ hsame ↦ hsame)
    refine insertAndAnnounce_guarded (V := fun s' ↦ s'.directMessages = s.directMessages)
      (fun _ _ _ _ _ _ hsame ↦ hsame) htruthy ?_
    rintro row found s' - - hinsert rfl
    rw [insertLegacyMessage_eq_ok hinsert]

/-- A request: a send, or another one. -/
inductive MessagingCall where
  | directSend (req : SendRequest) (params : Obj)
  | other (request : OtherRequest)

/-- What was done on the way, and the answer. -/
abbrev MessagingReply := List SendAct × Obj

/-- The program of a request. -/
def serveMessaging (settings : Settings) : MessagingCall → Statements MessagingReply
  | .directSend req params => (directSendSteps settings req params).recorded []
  | .other request => do
    request.program
    return ([], [])

abbrev MessagingServer := Serving ℕ Store AwikiError MessagingCall MessagingReply

/-- The answer is a replay. -/
def isReplay (answer : Obj) : Bool := (answer.get "idempotent_replay").isTrue

/-! ### The commands of a request -/

/-- The command keeps the ids and the content type of the request. -/
structure IsCommandOf (req : SendRequest) (params : Obj) (c : DirectCommand) : Prop where
  contentType : c.contentType = sendContentType params
  messageId : c.messageId = sendMessageId req params
  operationId : c.operationId = sendOperationId req params
  idempotencyOperationId : c.idempotencyOperationId = params.get "operation_id"

/-- Simply accepted: the defaults of `_store_direct_message`. -/
structure DirectCommand.Plain (c : DirectCommand) : Prop where
  deliveryState : c.deliveryState = "accepted"
  finalAcceptance : c.finalAcceptance = true

/-- What a command takes from the result of the other service. -/
def DirectCommand.TakesOutcome (req : SendRequest) (c : DirectCommand) (remote : Obj) : Prop :=
  c.deliveryState = req.outside.str ((remote.get "delivery_state").orElse (.str "accepted")) ∧
    c.finalAcceptance = (remote.getD "final_acceptance" (.bool true)).truthy

/-- The other service has replied with this result to what was posted. -/
def SendRequest.Answered (req : SendRequest) (done : List SendAct) (remote : Obj) : Prop :=
  ∃ service payload response, .posted service payload ∈ done ∧
    req.outside.postSigned service payload = .ok response ∧
    (response.get "result").obj? = some remote

section Rules

variable {settings : Settings} {req : SendRequest} {params : Obj} {c : DirectCommand}
  {I : Store → Prop} {R : Option Store → Store → Store → Prop}
  {Q : MessagingReply → Option Store → Prop} {W : MessagingReply → Store → Prop}
  {last : Option Store} {done : List SendAct}

/-- A comparison that passes answers from its row. -/
theorem compareDirect_guarded {row : DirectMessage}
    (h : ∀ replay, directIdempotentResultOrRaise row c = .ok replay → Q (done, replay) last) :
    ((compareDirect row c).recorded done).Guarded I R Q W last := by
  unfold compareDirect
  split
  · rename_i replay hreplay
    exact h replay hreplay
  · trivial

/-- `_store_direct_message` answers from a row it has just read, or inserts. -/
theorem storeDirectSteps_guarded
    (hfound : ∀ s row replay, I s → row ∈ s.directMessages →
      directIdempotentResultOrRaise row c = .ok replay → Q (done, replay) (some s))
    (hinsert : ∀ seq l, (insertAndShow req c seq).Guarded I R (fun a l ↦ Q (done, a) l)
      (fun a s ↦ W (done, a) s) l) :
    ((storeDirectSteps req c).recorded done).Guarded I R Q W last := by
  refine Acting.guarded_ofProgram_bind.mpr fun s hs ↦ ?_
  refine Acting.guarded_ofProgram_bind.mpr (Program.guarded_ofExcept.mpr fun found hok ↦ ?_)
  cases found with
  | some row =>
    refine compareDirect_guarded fun replay ↦ hfound s row replay hs ?_
    unfold messageOfOperation at hok
    split at hok
    · cases hok
    · obtain ⟨_, -, hok⟩ := bind_eq_ok.mp hok
      obtain ⟨_, -, hok⟩ := bind_eq_ok.mp hok
      exact List.mem_of_find?_eq_some (pure_eq_ok.mp hok)
  | none =>
    refine Acting.guarded_ofProgram_bind.mpr fun s hs ↦ ?_
    refine Acting.guarded_ofProgram_bind.mpr (Program.guarded_ofExcept.mpr fun found hok ↦ ?_)
    cases found with
    | some row =>
      exact compareDirect_guarded fun replay ↦ hfound s row replay hs (messageOfId_eq_some hok).1
    | none =>
      exact Acting.guarded_ofProgram_bind.mpr fun s hs ↦ Acting.guarded_ofProgram.mpr (hinsert _ _)

/-- The exchange with the other service. -/
theorem sendRemoteSteps_guarded {α : Type} {f : Obj → SendSteps α}
    {Q : List SendAct × α → Option Store → Prop} {W : List SendAct × α → Store → Prop}
    {recipientDid : String} {recipient messageId operationId : Json} {metaObj body : Obj}
    {auth : Option Obj}
    (h : ∀ remote acts, req.Answered acts remote →
      ((f remote).recorded acts).Guarded I R Q W last) :
    ((sendRemoteSteps req recipientDid recipient messageId operationId metaObj body auth >>=
      f).recorded done).Guarded I R Q W last := by
  rw [Acting.recorded_bind, Program.guarded_bind]
  refine Acting.guarded_ofProgram_bind.mpr (Program.guarded_ofExcept.mpr fun service _ ↦ ?_)
  refine Acting.guarded_ofProgram.mpr (Program.guarded_ofExcept.mpr fun remote hremote ↦ ?_)
  obtain ⟨response, hresponse, hremote⟩ := bind_eq_ok.mp hremote
  obtain ⟨_, -, hremote⟩ := bind_eq_ok.mp hremote
  obtain ⟨result, hresult, hremote⟩ := bind_eq_ok.mp hremote
  obtain ⟨_, -, hremote⟩ := bind_eq_ok.mp hremote
  obtain rfl := pure_eq_ok.mp hremote
  refine h result _ ⟨service, remoteDirectPayload operationId metaObj body auth, response,
    List.mem_append_right _ (List.mem_singleton_self _), ?_, orRaise_eq_ok.mp hresult⟩
  unfold postRemoteDirect at hresponse
  split at hresponse
  · rename_i hposted
    rw [hposted, Except.ok.inj hresponse]
  · split at hresponse
    · cases hresponse
    · cases hresponse

/-- **The rule for a send**: it answers at once, from a row with its message id, or through
`_store_direct_message`; there it comes from another service, from here, or after a post for which
no row with its message id was found. -/
theorem directSendSteps_guarded
    (hephemeral : ∀ c l, Q ([], acceptEphemeralDirect req c) l)
    (hreplay : ∀ c s row replay, IsCommandOf req params c → c.Plain → I s →
      row ∈ s.directMessages → directIdempotentResultOrRaise row c = .ok replay →
      Q ([], replay) (some s))
    (hstore : ∀ c done l, IsCommandOf req params c →
      (done = [] ∧ c.Plain ∨ (∃ s, I s ∧ messageOfId req c s = .ok none) ∧
        ∃ remote, req.Answered done remote ∧ c.TakesOutcome req remote) →
      ((storeDirectSteps req c).recorded done).Guarded I R Q W l) :
    ((directSendSteps settings req params).recorded []).Guarded I R Q W last := by
  -- Checking a proof reads and writes nothing.
  have hproof : ∀ {α : Type} {f : Unit → SendSteps α} {Q : List SendAct × α → Option Store → Prop}
      {W : List SendAct × α → Store → Prop} {method sender : String} {metaObj body : Obj}
      {auth : Option Obj} {l : Option Store},
      (∀ l, ((f ()).recorded []).Guarded I R Q W l) →
      ((quietly (verifySenderProof req method sender metaObj body auth) >>= f).recorded
        []).Guarded I R Q W l :=
    fun h ↦ Acting.guarded_ofProgram_bind.mpr (verifySenderProof_guarded fun l ↦ h l)
  refine Acting.guarded_ofProgram_bind.mpr (Program.guarded_ofExcept.mpr fun sender _ ↦ ?_)
  refine Acting.guarded_ofProgram_bind.mpr (Program.guarded_ofExcept.mpr fun senderDid _ ↦ ?_)
  refine Acting.guarded_ofProgram_bind.mpr fun s₁ _ ↦ ?_
  refine Acting.guarded_ofProgram_bind.mpr (Program.guarded_ofExcept.mpr fun recipientDid _ ↦ ?_)
  refine Acting.guarded_ofProgram_bind.mpr fun s₂ _ ↦ ?_
  have hcommand : IsCommandOf req params (sendCommand req params sender (userExists s₁ senderDid)
      (userExists s₂ recipientDid)) := ⟨rfl, rfl, rfl, rfl⟩
  dsimp only
  split
  · refine Acting.guarded_ofProgram_bind.mpr (Program.guarded_ofExcept.mpr fun _ _ ↦ ?_)
    refine hproof fun l ↦ ?_
    refine Acting.guarded_ofProgram_bind.mpr (Program.guarded_ofExcept.mpr fun _ _ ↦ ?_)
    split
    · exact hephemeral _ _
    · exact hstore _ _ _ ⟨rfl, rfl, rfl, rfl⟩ (.inl ⟨rfl, rfl, rfl⟩)
  · refine Acting.guarded_ofProgram_bind.mpr (Program.guarded_ofExcept.mpr fun _ _ ↦ ?_)
    -- The rest of the send, whether or not a proof came first.
    have honward : ∀ l, ((sendOnwardSteps settings req (sendCommand req params sender
        (userExists s₁ senderDid) (userExists s₂ recipientDid)) (sendBody params) senderDid
        recipientDid).recorded []).Guarded I R Q W l := by
      intro l
      unfold sendOnwardSteps
      split
      · split
        · exact hephemeral _ _
        · exact hstore _ _ _ ⟨rfl, rfl, rfl, rfl⟩ (.inl ⟨rfl, rfl, rfl⟩)
      · refine Acting.guarded_ofProgram_bind.mpr (Program.guarded_ofExcept.mpr fun _ _ ↦ ?_)
        refine hproof fun l ↦ Acting.guarded_ofProgram_bind.mpr fun s hs ↦ ?_
        refine Acting.guarded_ofProgram_bind.mpr (Program.guarded_ofExcept.mpr fun found hok ↦ ?_)
        cases found with
        | some row =>
          exact compareDirect_guarded fun replay ↦ hreplay _ s row replay hcommand ⟨rfl, rfl⟩ hs
            (messageOfId_eq_some hok).1
        | none =>
          refine sendRemoteSteps_guarded fun remote acts hanswered ↦ ?_
          exact hstore _ acts _ ⟨rfl, rfl, rfl, rfl⟩
            (.inr ⟨⟨s, hs, hok⟩, remote, hanswered, rfl, rfl⟩)
    exact Acting.guarded_ofProgram_bind.mpr (Program.guarded_onlyIf (honward _) fun _ ↦
      verifySenderProof_guarded fun l ↦ honward l)

end Rules

/-! ### What is stored of an answer -/

/-- **The row behind an answer**: a command of the request, taken as here or as the other service
has answered, was stored so and answered so. -/
def AnsweredFrom (req : SendRequest) (params : Obj) (reply : MessagingReply) (row : DirectMessage) :
    Prop :=
  ∃ c seq, IsCommandOf req params c ∧
    (c.Plain ∨ ∃ remote, req.Answered reply.1 remote ∧ c.TakesOutcome req remote) ∧
    directMessageRow req c seq = .ok row ∧ reply.2 = directAccepted req c seq

/-- What a commit does to the direct messages. -/
def MessagingEffect (call : MessagingCall) (s : Store) (reply : MessagingReply) (s' : Store) :
    Prop :=
  match call with
  | .directSend req params => ∃ row, AnsweredFrom req params reply row ∧
      s'.directMessages = s.directMessages ++ [row] ∧
      ∀ m ∈ s.directMessages, m.messageId ≠ row.messageId
  | .other _ => s'.directMessages = s.directMessages

/-- What requests may rely on: messages stay. -/
def KeepsMessages (s s' : Store) : Prop := s.directMessages <+: s'.directMessages

section Effects

variable {settings : Settings} {s s' : Store} {call : MessagingCall} {reply : MessagingReply}
  {req : SendRequest} {params : Obj} {c : DirectCommand} {row : DirectMessage}

/-- Messages stay, whatever is committed. -/
theorem MessagingEffect.keepsMessages (h : MessagingEffect call s reply s') :
    KeepsMessages s s' := by
  cases call with
  | directSend req params =>
    obtain ⟨row, -, hrows, -⟩ := h
    rw [KeepsMessages, hrows]
    exact List.prefix_append _ _
  | other request =>
    have hsame : s'.directMessages = s.directMessages := h
    exact ⟨[], (List.append_nil _).trans hsame.symm⟩

/-- The insertion of a new message, found and left by a request that holds the lock. -/
theorem insertDirectMessage_fresh (h : insertDirectMessage s row = .ok s') :
    s'.directMessages = s.directMessages ++ [row] ∧
      ∀ m ∈ s.directMessages, m.messageId ≠ row.messageId := by
  obtain ⟨_, -, hinsert⟩ := bind_eq_ok.mp h
  obtain ⟨rows, hrows, -⟩ := bind_eq_ok.mp hinsert
  refine ⟨by rw [insertDirectMessage_eq_ok h], ?_⟩
  exact (Table.insert?_eq_some.mp (orRaise_eq_ok.mp hrows)).1

/-- **A commit of a send stores what it has answered.** -/
theorem serveMessaging_owes (call : MessagingCall) :
    Serving.Owes (fun _ ↦ True) (Serving.relying (fun _ _ _ _ ↦ True) KeepsMessages)
      (fun _ call s reply s' ↦ MessagingEffect call s reply s') call
      (serveMessaging settings call) none := by
  intro h s
  cases call with
  | directSend req params =>
    refine directSendSteps_guarded (fun _ _ ↦ trivial) (fun _ _ _ _ _ _ _ _ _ ↦ trivial) ?_
    intro c done l hcommand hcause
    refine storeDirectSteps_guarded (fun _ _ _ _ _ _ ↦ trivial) fun seq l ↦ ?_
    refine insertAndShow_guarded
      (V := fun row s' ↦ s'.directMessages = s.directMessages ++ [row] ∧
        ∀ m ∈ s.directMessages, m.messageId ≠ row.messageId)
      (fun _ _ _ _ h ↦ h) (fun _ _ _ _ _ _ _ h ↦ h) ?_ ?_
    · rintro row found s' - - hinsert ⟨rfl, -⟩
      exact insertDirectMessage_fresh hinsert
    · refine fun row s' hrow hV ↦ ⟨⟨row, ⟨c, seq, hcommand, ?_, hrow, rfl⟩, hV⟩, trivial⟩
      exact hcause.imp (·.2) (·.2)
  | other request =>
    refine (Program.guarded_bind _ _).mpr ?_
    refine ((request.leavesMessages s none).among (fun _ _ ↦ trivial)
      fun _ _ _ hrely ↦ hrely.1).mono (fun _ _ _ ↦ trivial) fun _ _ hsame ↦ ⟨hsame, trivial⟩

/-- **Along a history every answer of a send has its row**, and message ids are distinct. -/
theorem answeredFrom_of_history {st : Store} {h : List (MessagingCall × MessagingReply)}
    (hc : Chain (fun _ call s reply s' ↦ MessagingEffect call s reply s') st h s)
    (hst : Table.Keyed DirectMessage.messageId st.directMessages) :
    Table.Keyed DirectMessage.messageId s.directMessages ∧
      ∀ req params reply, (.directSend req params, reply) ∈ h →
        ∃ row ∈ s.directMessages, AnsweredFrom req params reply row := by
  refine hc.invariant (I := fun h s ↦ Table.Keyed DirectMessage.messageId s.directMessages ∧
    ∀ req params reply, (.directSend req params, reply) ∈ h →
      ∃ row ∈ s.directMessages, AnsweredFrom req params reply row)
    ⟨hst, fun _ _ _ hmem ↦ absurd hmem List.not_mem_nil⟩ ?_
  rintro h call s reply s' ⟨hkeyed, hanswered⟩ heffect
  have hkeeps : ∀ m ∈ s.directMessages, m ∈ s'.directMessages :=
    fun m hm ↦ heffect.keepsMessages.subset hm
  refine ⟨?_, fun req params reply' hmem ↦ ?_⟩
  · cases call with
    | directSend req params =>
      obtain ⟨row, -, hrows, hfresh⟩ := heffect
      rw [hrows]
      exact hkeyed.append hfresh
    | other request =>
      rwa [show s'.directMessages = s.directMessages from heffect]
  · rcases List.mem_append.mp hmem with hold | hnew
    · obtain ⟨row, hrow, hfrom⟩ := hanswered req params reply' hold
      exact ⟨row, hkeeps row hrow, hfrom⟩
    · obtain ⟨rfl, rfl⟩ := Prod.mk.inj (List.mem_singleton.mp hnew)
      obtain ⟨row, hfrom, hrows, -⟩ := heffect
      exact ⟨row, by simp [hrows], hfrom⟩

end Effects

/-! ### What a replay is made of -/

/-- **A stored message matches a command** in its ids and its content type. -/
structure MatchesCommand (row : DirectMessage) (c : DirectCommand) : Prop where
  messageId : c.messageId = .str row.messageId
  contentType : c.contentType = .str row.contentType
  operationId : c.idempotencyOperationId = .null ∨
    ∃ id, row.operationId = some id ∧ c.idempotencyOperationId = .str id

/-- The answer from a row, when the other service is taken to have simply accepted. -/
def replayFrom (row : DirectMessage) (idempotencyOperationId : Json) : Obj :=
  [("accepted", .bool true), ("message_id", .str row.messageId),
    ("operation_id", (textOrNull row.operationId).orElse idempotencyOperationId),
    ("server_seq", .int row.serverSeq), ("sender_did", .str row.senderDid),
    ("recipient_did", .str row.recipientDid), ("target_did", .str row.recipientDid),
    ("delivery_state", .str "accepted"), ("final_acceptance", .bool true),
    ("accepted_at", .str row.createdAt), ("content_type", .str row.contentType),
    ("body", .obj row.body), ("idempotent_replay", .bool true)]

section Replays

variable {settings : Settings} {req : SendRequest} {params : Obj} {c : DirectCommand}
  {row : DirectMessage}

/-- A message without conflicts matches. -/
theorem directConflicts_eq_nil (h : directConflicts row c = []) : MatchesCommand row c := by
  simp only [directConflicts, List.filterMap_eq_nil_iff, List.mem_cons, List.not_mem_nil,
    or_false, forall_eq_or_imp, forall_eq, ite_eq_right_iff, reduceCtorEq, imp_false,
    Bool.not_eq_true, Bool.not_eq_false', Bool.and_eq_false_imp, Bool.not_eq_true'] at h
  obtain ⟨hmessage, -, -, htype, -, hoperation⟩ := h
  refine ⟨Json.isStr_iff.mp hmessage, Json.isStr_iff.mp htype, ?_⟩
  cases hnull : c.idempotencyOperationId.isNull with
  | true =>
    left
    cases hvalue : c.idempotencyOperationId <;> simp [hvalue, Json.isNull] at hnull ⊢
  | false =>
    obtain ⟨id, hid, hstr⟩ := (Option.any_eq_true _ _).mp (hoperation hnull)
    exact .inr ⟨id, hid, Json.isStr_iff.mp hstr⟩

/-- An answer from a row is the replay of a row that matches. -/
theorem directIdempotentResultOrRaise_eq_ok {replay : Obj}
    (h : directIdempotentResultOrRaise row c = .ok replay) :
    MatchesCommand row c ∧ (c.Plain → replay = replayFrom row c.idempotencyOperationId) := by
  obtain ⟨_, hfields, h⟩ := bind_eq_ok.mp h
  obtain rfl := pure_eq_ok.mp h
  refine ⟨directConflicts_eq_nil (List.isEmpty_iff.mp (require_eq_ok.mp hfields)), ?_⟩
  rintro ⟨hstate, hfinal⟩
  rw [hstate, hfinal]
  rfl

/-- The columns of a new row are those of the command. -/
theorem directMessageRow_eq_ok {seq : ℕ} (h : directMessageRow req c seq = .ok row) :
    bindTextNotNull req.outside.reprFloat c.messageId = .ok row.messageId ∧
      bindText req.outside.reprFloat c.operationId = .ok row.operationId ∧
      row.body = c.body ∧ row.createdAt = req.outside.now ∧ row.serverSeq = seq := by
  unfold directMessageRow at h
  obtain ⟨messageId, hmessage, h⟩ := bind_eq_ok.mp h
  obtain ⟨_, -, h⟩ := bind_eq_ok.mp h
  obtain ⟨_, -, h⟩ := bind_eq_ok.mp h
  obtain ⟨operationId, hoperation, h⟩ := bind_eq_ok.mp h
  obtain ⟨_, -, h⟩ := bind_eq_ok.mp h
  obtain ⟨_, -, h⟩ := bind_eq_ok.mp h
  obtain rfl := pure_eq_ok.mp h
  exact ⟨hmessage, hoperation, rfl, rfl, rfl⟩

/-- What a repetition reports again. -/
def OUTCOME_KEYS : List String :=
  ["accepted", "delivery_state", "final_acceptance", "message_id", "operation_id", "server_seq",
    "accepted_at", "content_type", "body"]

/-- The result of the other service says no more than that the message is accepted. -/
def SimplyAccepts (req : SendRequest) (remote : Obj) : Prop :=
  req.outside.str ((remote.get "delivery_state").orElse (.str "accepted")) = "accepted" ∧
    (remote.getD "final_acceptance" (.bool true)).truthy = true

/-- **A replay from the row of an answer is that answer**, if the other service simply accepted. -/
theorem replayFrom_eq {again : SendRequest} {first : MessagingReply}
    (hfrom : AnsweredFrom req params first row)
    (hplain : ∀ remote, req.Answered first.1 remote → SimplyAccepts req remote)
    (hdrawn : req.newOperationId ≠ "") (hcommand : IsCommandOf again params c)
    (hmatches : MatchesCommand row c) :
    ∀ key ∈ OUTCOME_KEYS, first.2.get key = (replayFrom row c.idempotencyOperationId).get key := by
  obtain ⟨c₁, seq, hcommand₁, hcause, hrow, hanswer⟩ := hfrom
  obtain ⟨hmessage, hoperation, hbody, hcreated, hseq⟩ := directMessageRow_eq_ok hrow
  have hstate : c₁.Plain := by
    rcases hcause with hplain₁ | ⟨remote, hanswered, hstate, hfinal⟩
    · exact hplain₁
    · obtain ⟨haccepted, htruthy⟩ := hplain remote hanswered
      exact ⟨hstate.trans haccepted, hfinal.trans htruthy⟩
  -- An id that was given names the row; an id that was drawn is the one the row has.
  have hmessageId : c₁.messageId = .str row.messageId := by
    have hsecond := hcommand.messageId.symm.trans hmatches.messageId
    rw [hcommand₁.messageId] at hmessage ⊢
    unfold sendMessageId Json.orElse at hmessage hsecond ⊢
    split
    · rename_i hgiven
      rwa [if_pos hgiven] at hsecond
    · rename_i hdrawn
      rw [if_neg hdrawn] at hmessage
      rw [Except.ok.inj hmessage]
  have hcontent : c₁.contentType = .str row.contentType :=
    hcommand₁.contentType.trans (hcommand.contentType.symm.trans hmatches.contentType)
  have hoperationId : c₁.operationId =
      (textOrNull row.operationId).orElse c.idempotencyOperationId := by
    have hsecond := hmatches.operationId
    rw [hcommand.idempotencyOperationId] at hsecond ⊢
    rw [hcommand₁.operationId] at hoperation ⊢
    rcases hsecond with hnull | ⟨id, hid, hstr⟩
    · rw [sendOperationId, hnull] at hoperation ⊢
      rw [← Except.ok.inj hoperation]
      simp [Json.orElse, textOrNull, hdrawn]
    · rw [sendOperationId, hstr] at hoperation ⊢
      rw [hid] at hoperation ⊢
      by_cases hempty : id = ""
      · -- the empty id was replaced by a drawn one, which is not empty
        rw [hempty] at hoperation
        exact absurd (Option.some.inj (Except.ok.inj hoperation)) hdrawn
      · simp [Json.orElse, textOrNull, hempty]
  have hfirst : directAccepted req c₁ seq =
      [("accepted", .bool true), ("message_id", .str row.messageId),
        ("operation_id", (textOrNull row.operationId).orElse c.idempotencyOperationId),
        ("server_seq", .int row.serverSeq), ("sender_did", c₁.sender),
        ("recipient_did", c₁.recipient), ("target_did", c₁.recipient),
        ("delivery_state", .str "accepted"), ("final_acceptance", .bool true),
        ("accepted_at", .str row.createdAt), ("content_type", .str row.contentType),
        ("body", .obj row.body)] := by
    rw [directAccepted, hstate.deliveryState, hstate.finalAcceptance, hmessageId, hcontent,
      hoperationId, hbody, hcreated, hseq]
    rfl
  rw [hanswer, hfirst]
  intro key hkey
  simp only [OUTCOME_KEYS, List.mem_cons, List.not_mem_nil, or_false] at hkey
  rcases hkey with rfl | rfl | rfl | rfl | rfl | rfl | rfl | rfl | rfl <;> rfl

/-- What a request that begins after `row` is stored may return as a replay: an answer from a row
it has just read and has the message id of, and from `row` itself without a post. -/
def ReplaysRow (row : DirectMessage) (req : SendRequest) (params : Obj) (reply : MessagingReply)
    (last : Option Store) : Prop :=
  isReplay reply.2 = true → ∃ read found c, last = some read ∧ found ∈ read.directMessages ∧
    IsCommandOf req params c ∧ MatchesCommand found c ∧
    (found.messageId = row.messageId →
      reply = ([], replayFrom found c.idempotencyOperationId))

/-- **A send that begins after its row is stored** finds it, or is refused for another. -/
theorem directSendSteps_replays (row : DirectMessage) {last : Option Store} :
    ((directSendSteps settings req params).recorded []).Guarded
      (fun s ↦ row ∈ s.directMessages) (fun _ _ _ ↦ True) (ReplaysRow row req params)
      (fun reply _ ↦ isReplay reply.2 = false) last := by
  refine directSendSteps_guarded (fun c l hreplay ↦ ?_) ?_ ?_
  · have hfresh : isReplay (acceptEphemeralDirect req c) = false := rfl
    rw [hfresh] at hreplay
    cases hreplay
  · rintro c s found replay hcommand hplain - hfound hok -
    obtain ⟨hmatches, hreplay⟩ := directIdempotentResultOrRaise_eq_ok hok
    exact ⟨s, found, c, rfl, hfound, hcommand, hmatches, fun _ ↦ by rw [hreplay hplain]⟩
  · intro c done l hcommand hcause
    refine storeDirectSteps_guarded ?_ fun seq l ↦ insertAndShow_guarded (V := fun _ _ ↦ True)
      (fun _ _ _ _ h ↦ h) (fun _ _ _ _ _ _ _ h ↦ h) (fun _ _ _ _ _ _ _ ↦ trivial)
      fun _ _ _ _ ↦ rfl
    rintro s found replay - hfound hok -
    obtain ⟨hmatches, hreplay⟩ := directIdempotentResultOrRaise_eq_ok hok
    refine ⟨s, found, c, rfl, hfound, hcommand, hmatches, fun hsame ↦ ?_⟩
    rcases hcause with ⟨rfl, hplain⟩ | ⟨⟨s', hrow, hnone⟩, -⟩
    · rw [hreplay hplain]
    · -- before a post, `row` would have been found by its message id
      refine absurd ?_ (messageOfId_eq_none hnone row hrow)
      rw [hmatches.messageId, hsame]
      rfl

/-- The same of every request, about its answer as a send. -/
theorem serveMessaging_replays (row : DirectMessage) (call : MessagingCall) :
    (serveMessaging settings call).Guarded (fun s ↦ row ∈ s.directMessages) (fun _ _ _ ↦ True)
      (fun reply last ↦ ∀ req params, call = .directSend req params →
        ReplaysRow row req params reply last)
      (fun reply _ ↦ ∀ req params, call = .directSend req params → isReplay reply.2 = false)
      none := by
  cases call with
  | directSend req params =>
    refine (directSendSteps_replays row).mono (fun reply l hreplays ↦ ?_) fun reply s hno ↦ ?_
    · rintro _ _ ⟨⟩
      exact hreplays
    · exact fun _ _ _ ↦ hno
  | other request =>
    refine Program.guarded_of_forall _ (fun _ _ ↦ ?_) fun _ _ ↦ ?_
    · rintro _ _ ⟨⟩
    · rintro _ _ ⟨⟩

end Replays

/-- `new_id("msg")` is drawn for a request without a message id, and nobody has that id. -/
def DrawsNewId (req : SendRequest) (params : Obj) (st : Store) : Prop :=
  (params.get "message_id").truthy = false →
    ∀ m ∈ st.directMessages, m.messageId ≠ req.newMessageId

/-- **A replay reports the first answer.** A send is answered and committed, and what it posted, if
it did, the other service simply accepted. Any request with the same parameters that begins
afterwards, among any other requests, and is answered as a replay reports the same outcome, has
posted nothing and has written nothing. -/
theorem replay_reports_first_answer {settings : Settings} {st : Store} {σ σ' : MessagingServer}
    {i : ℕ} {req again : SendRequest} {params : Obj} {first replay : MessagingReply}
    (hst : Table.Keyed DirectMessage.messageId st.directMessages)
    (h : Serving.Reachable (serveMessaging settings) (fun _ _ _ _ ↦ True) st σ)
    (hfirst : (.directSend req params, first) ∈ σ.history) (hdrawn : req.newOperationId ≠ "")
    (hplain : ∀ remote, req.Answered first.1 remote → SimplyAccepts req remote)
    (hidle : σ.world.running i = none)
    (hlater : Runs.Reaches (Serving.Step (serveMessaging settings)) σ σ')
    (hagain : σ'.request i = some (.directSend again params))
    (hnew : DrawsNewId again params σ'.world.committed)
    (hret : σ'.world.running i = some (.ret replay)) (hreplay : isReplay replay.2 = true) :
    (∀ key ∈ OUTCOME_KEYS, first.2.get key = replay.2.get key) ∧ replay.1 = [] ∧
      σ'.world.ownState i = none ∧
      (σ'.step (serveMessaging settings) (.advance i)).world.committed = σ'.world.committed := by
  have hlater' := Serving.reachesWith_of_reaches hlater
  have hrely : ∀ {σ : MessagingServer},
      Serving.Reachable (serveMessaging settings) (fun _ _ _ _ ↦ True) st σ →
      σ.Ok (fun _ ↦ True) (Serving.relying (fun _ _ _ _ ↦ True) KeepsMessages)
        (fun _ call s reply s' ↦ MessagingEffect call s reply s') st ∧ σ.ReadsPast KeepsMessages :=
    fun h ↦ h.relying (P := KeepsMessages)
      (G := fun _ call s reply s' ↦ MessagingEffect call s reply s') trivial
      (fun heffect ↦ heffect.keepsMessages) (fun _ ↦ List.prefix_refl _)
      (fun h h' ↦ List.IsPrefix.trans h h') serveMessaging_owes
  -- the first answer has its row, and the row stays
  obtain ⟨-, hanswered⟩ := answeredFrom_of_history (hrely h).1.chain hst
  obtain ⟨row, hrow, hfrom⟩ := hanswered req params first hfirst
  obtain ⟨hok', hreads⟩ := hrely (h.trans hlater')
  obtain ⟨hkeyed, -⟩ := answeredFrom_of_history hok'.chain hst
  obtain ⟨hrow', hpost⟩ := h.started_later (P := KeepsMessages)
    (G := fun _ call s reply s' ↦ MessagingEffect call s reply s')
    (K := fun s ↦ row ∈ s.directMessages) trivial
    (fun heffect ↦ heffect.keepsMessages) (fun _ ↦ List.prefix_refl _)
    (fun h h' ↦ List.IsPrefix.trans h h') serveMessaging_owes
    (fun hkeeps hrow ↦ hkeeps.subset hrow) hrow hidle (serveMessaging_replays row) hlater'
  obtain ⟨call, hcall, hcases⟩ := hpost hret
  obtain rfl := Option.some.inj (hagain.symm.trans hcall)
  rcases hcases with ⟨hnone, hquiet⟩ | hwritten
  · obtain ⟨read, found, c, hlast, hfound, hcommand, hmatches, hreply⟩ :=
      hquiet again params rfl hreplay
    have hfound' : found ∈ σ'.world.committed.directMessages :=
      (hreads i read (by simp [hret]) hnone hlast).subset hfound
    have hsame : found.messageId = row.messageId := by
      have hid := hcommand.messageId.symm.trans hmatches.messageId
      cases hgiven : (params.get "message_id").truthy with
      | false =>
        rw [sendMessageId, Json.orElse, hgiven] at hid
        exact absurd (Json.str.inj hid).symm (hnew hgiven found hfound')
      | true =>
        obtain ⟨c₁, seq, hcommand₁, -, hbound, -⟩ := hfrom
        have hmessage := (directMessageRow_eq_ok hbound).1
        have hsent : sendMessageId req params = sendMessageId again params := by
          rw [sendMessageId, sendMessageId, Json.orElse, Json.orElse, if_pos hgiven,
            if_pos hgiven]
        rw [hcommand₁.messageId, hsent, hid] at hmessage
        exact Except.ok.inj hmessage
    obtain rfl := hkeyed.eq_of_key_eq hfound' hrow' hsame
    obtain rfl := hreply rfl
    refine ⟨replayFrom_eq hfrom hplain hdrawn hcommand hmatches, rfl, hnone, ?_⟩
    show (σ'.world.advance i).committed = _
    rw [World.advance, hret]
    simp [World.commit, hnone]
  · rw [hwritten again params rfl] at hreplay
    cases hreplay

/-! ### A message to Bob, twice -/

/-- The message, as its service takes it. -/
def callToBob (deliveryState : String) : MessagingCall :=
  .directSend (toBobRequest "m1" "op-1" deliveryState) (toBob "m1" "op-1")

/-- The server once it is committed. -/
def afterFirst (deliveryState : String) : MessagingServer :=
  (Serving.idle sampleSenders).runAll (serveMessaging .sample)
    (.start 0 (callToBob deliveryState) :: List.replicate 12 (.advance 0))

/-- And when it is about to answer the same again. -/
def afterAgain (deliveryState : String) : MessagingServer :=
  (afterFirst deliveryState).runAll (serveMessaging .sample)
    (.start 1 (callToBob deliveryState) :: List.replicate 5 (.advance 1))

/-- What a connection is about to answer. -/
def answer? (σ : MessagingServer) (i : ℕ) : Option MessagingReply :=
  match σ.world.running i with
  | some (.ret reply) => some reply
  | _ => none

/-- An answer is about to be given by a request that is running. -/
theorem running_of_answer? {σ : MessagingServer} {i : ℕ} {reply : MessagingReply}
    (h : answer? σ i = some reply) : σ.world.running i = some (.ret reply) := by
  unfold answer? at h
  split at h
  · rename_i hrunning
    rw [hrunning, Option.some.inj h]
  · cases h

/-- The two states an answer speaks of. -/
def deliveryStateOf (reply : MessagingReply) : Option String := (reply.2.get "delivery_state").str?

section Twice

variable {deliveryState : String} {first replay : MessagingReply}

/-- The request a connection started is the only one it serves. -/
theorem start_of_mem {i j : ℕ} {call call' : MessagingCall} {n : ℕ}
    (h : Event.start i call ∈ .start j call' :: List.replicate n (.advance j)) : call = call' := by
  rcases List.mem_cons.mp h with heq | hmem
  · exact (Event.start.inj heq).2
  · cases List.eq_of_mem_replicate hmem

/-- There are no messages yet. -/
theorem sampleSenders_keyed :
    Table.Keyed DirectMessage.messageId sampleSenders.directMessages :=
  List.nodup_nil

/-- The server gets there. -/
theorem afterFirst_reachable : Serving.Reachable (serveMessaging .sample) (fun _ _ _ _ ↦ True)
    sampleSenders (afterFirst deliveryState) :=
  Serving.reachable_schedule _ (.refl _ _) _

/-- Nothing else was committed. -/
theorem mem_afterFirst {e : MessagingCall × MessagingReply}
    (h : e ∈ (afterFirst deliveryState).history) : e.1 = callToBob deliveryState := by
  rcases Serving.history_of_runAll _ h with hold | ⟨i, hold | hstart⟩
  · cases hold
  · cases hold
  · exact start_of_mem hstart

/-- The second connection serves the message, too. -/
theorem afterAgain_request {call : MessagingCall}
    (h : (afterAgain deliveryState).request 1 = some call) : call = callToBob deliveryState := by
  rcases Serving.request_of_runAll _ h with hold | hstart
  · rcases Serving.request_of_runAll _ hold with hbefore | hstart
    · cases hbefore
    · exact start_of_mem hstart
  · exact start_of_mem hstart

/-- The second request is answered, and it is the second request. -/
theorem afterAgain_answer (hanswer : answer? (afterAgain deliveryState) 1 = some replay) :
    (afterAgain deliveryState).request 1 = some (callToBob deliveryState) ∧
      (afterAgain deliveryState).world.running 1 = some (.ret replay) := by
  have hrunning := running_of_answer? hanswer
  have hreach : Serving.Reachable (serveMessaging .sample) (fun _ _ _ _ ↦ True) sampleSenders
      (afterAgain deliveryState) := Serving.reachable_schedule _ afterFirst_reachable _
  have hok := (hreach.relying (P := KeepsMessages)
    (G := fun _ call s reply s' ↦ MessagingEffect call s reply s') trivial
    (fun heffect ↦ heffect.keepsMessages) (fun _ ↦ List.prefix_refl _)
    (fun h h' ↦ List.IsPrefix.trans h h') serveMessaging_owes).1
  obtain ⟨call, hcall, -⟩ := hok.connections 1 _ hrunning
  obtain rfl := afterAgain_request hcall
  exact ⟨hcall, hrunning⟩

/-- And from there to the second answer. -/
theorem afterFirst_laterReaches : Runs.Reaches (Serving.Step (serveMessaging .sample))
    (afterFirst deliveryState) (afterAgain deliveryState) :=
  Serving.reaches_runAll _ _

/-- A request with a message id draws none. -/
theorem toBob_drawsNewId (again : SendRequest) (messageId operationId : String) (st : Store)
    (h : messageId ≠ "") : DrawsNewId again (toBob messageId operationId) st := by
  intro hempty
  have htruthy : ((toBob messageId operationId).get "message_id").truthy =
    decide (messageId ≠ "") :=
    rfl
  rw [htruthy, decide_eq_false_iff_not] at hempty
  exact absurd h hempty

end Twice

/-- Bob's service accepts the message, and Alice is told so twice. -/
theorem replay_reports_first_answer_to_bob :
    ∃ first replay, (callToBob "accepted", first) ∈ (afterFirst "accepted").history ∧
      answer? (afterAgain "accepted") 1 = some replay ∧
      ∀ key ∈ OUTCOME_KEYS, first.2.get key = replay.2.get key := by
  have hfacts : (afterFirst "accepted").history.length = 1 ∧
      (answer? (afterAgain "accepted") 1).map (fun r ↦ isReplay r.2) = some true ∧
      ((afterFirst "accepted").world.running 1).isNone = true := by decide +kernel
  obtain ⟨hlength, hanswer, hidle⟩ := hfacts
  obtain ⟨⟨call, first⟩, hhistory⟩ := List.length_eq_one_iff.mp hlength
  obtain ⟨replay, hanswer, hreplay⟩ := Option.map_eq_some_iff.mp hanswer
  have hfirst : (call, first) ∈ (afterFirst "accepted").history :=
    hhistory ▸ List.mem_singleton_self _
  obtain rfl : call = callToBob "accepted" := mem_afterFirst hfirst
  obtain ⟨hrequest, hrunning⟩ := afterAgain_answer hanswer
  refine ⟨first, replay, hfirst, hanswer, ?_⟩
  refine (replay_reports_first_answer sampleSenders_keyed afterFirst_reachable hfirst (by decide)
    ?_ (Option.isNone_iff_eq_none.mp hidle) afterFirst_laterReaches hrequest
    (toBob_drawsNewId _ _ _ _ (by decide)) hrunning hreplay).1
  rintro remote ⟨service, payload, response, -, hresponse, hremote⟩
  obtain rfl := Except.ok.inj hresponse
  obtain rfl := Option.some.inj hremote
  exact ⟨rfl, rfl⟩

/-- **Bob's service queues the message, and the second time Alice is told it was accepted.** -/
theorem replay_forgets_delivery_state :
    ¬ ∀ (settings : Settings) (st : Store) (σ σ' : MessagingServer) (i : ℕ)
      (req again : SendRequest) (params : Obj) (first replay : MessagingReply),
      Table.Keyed DirectMessage.messageId st.directMessages →
      Serving.Reachable (serveMessaging settings) (fun _ _ _ _ ↦ True) st σ →
      (.directSend req params, first) ∈ σ.history → req.newOperationId ≠ "" →
      σ.world.running i = none → Runs.Reaches (Serving.Step (serveMessaging settings)) σ σ' →
      σ'.request i = some (.directSend again params) →
      DrawsNewId again params σ'.world.committed →
      σ'.world.running i = some (.ret replay) → isReplay replay.2 = true →
      ∀ key ∈ OUTCOME_KEYS, first.2.get key = replay.2.get key := by
  intro hall
  have hfacts : (afterFirst "queued").history.map (fun e ↦ deliveryStateOf e.2) =
        [some "queued"] ∧
      (answer? (afterAgain "queued") 1).map (fun r ↦ (isReplay r.2, deliveryStateOf r)) =
        some (true, some "accepted") ∧
      ((afterFirst "queued").world.running 1).isNone = true := by decide +kernel
  obtain ⟨hstate, hanswer, hidle⟩ := hfacts
  obtain ⟨⟨call, first⟩, hhistory, hqueued⟩ := List.map_eq_singleton_iff.mp hstate
  obtain ⟨replay, hanswer, hsaid⟩ := Option.map_eq_some_iff.mp hanswer
  obtain ⟨hreplay, haccepted⟩ := Prod.mk.inj hsaid
  have hfirst : (call, first) ∈ (afterFirst "queued").history :=
    hhistory ▸ List.mem_singleton_self _
  obtain rfl : call = callToBob "queued" := mem_afterFirst hfirst
  obtain ⟨hrequest, hrunning⟩ := afterAgain_answer hanswer
  have hsame := hall .sample sampleSenders _ _ 1 _ _ _ first replay sampleSenders_keyed
    afterFirst_reachable hfirst (by decide) (Option.isNone_iff_eq_none.mp hidle)
    afterFirst_laterReaches hrequest (toBob_drawsNewId _ _ _ _ (by decide)) hrunning hreplay
    "delivery_state" (by decide)
  have htwo : deliveryStateOf first = deliveryStateOf replay := by
    rw [deliveryStateOf, deliveryStateOf, hsame]
  rw [hqueued, haccepted] at htwo
  exact absurd htwo (by decide)

end Awiki
