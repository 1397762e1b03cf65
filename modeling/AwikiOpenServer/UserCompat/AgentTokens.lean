import AwikiOpenServer.Lib.Commits
import AwikiOpenServer.Lib.Text
import AwikiOpenServer.Messaging.DirectSend

/-!
# Agent registration tokens

A user issues a token, and whoever presents it may exchange it, **once**, for an agent identity. The
table keeps the hash of each token with the times of its use and revocation. `exchange_agent_token`
reads the row on a connection of its own, checks its status, and then, under `BEGIN IMMEDIATE`,
marks it used without looking again. So two exchanges that read before either writes both succeed:
`token_exchanged_twice` is such a schedule. A token is one-time along every run in which an exchange
still finds, when it takes the lock, the row it read (`agent_tokens_one_time`).

What follows the commit of an exchange, the owner's profile for the reply, does not touch the token
and is left out. A timestamp is never the empty text, so a column of one is set or not.

## The condition, and what it is not

`tokenRowAsRead` compares a row with itself at two moments: as the request last read it, and as it
is when the request takes the lock. It says nothing about the status of the row; that the row was
unused is what the handler has checked of what it read. A handler that checked again under the lock
would meet the condition always.

## From transactions to histories

What a committed request does to the row of a token is said once (`AgentTokenEffect`): issuing adds
a row, an exchange marks its own as used, a revocation sets one column, and no row is ever unmarked.
Every request owes that effect (`serveAgentToken_owes`), by the rules of `Lib/Commits.lean`, so an
interleaving of requests is a serial history of effects. Along a history, **used stays used**
(`AgentTokenEffect.tokenUsed`), and an exchange that commits has found its row unused, as it read
it; so there is no second one.

Each exchange draws a DID for the agent it makes. Whether that DID is free is decided by the key of
`did_documents`, and a request may fail for it after it has marked its token: it is undone then, as
a whole.
-/

namespace Awiki

open Py Transactions

/-- What a token is good for. -/
inductive AgentTokenStatus where
  | active
  | revoked
  | used
  | expired
  deriving DecidableEq, Repr

/-- The word for it. -/
def AgentTokenStatus.text : AgentTokenStatus → String
  | active => "active"
  | revoked => "revoked"
  | used => "used"
  | expired => "expired"

/-- The requests about a token that write. -/
inductive AgentTokenCall where
  | issue
  | exchange
  | revoke
  deriving DecidableEq, Repr

/-- A request, with what it asks of the outside beside the common answers. -/
structure AgentTokenRequest extends Request where
  call : AgentTokenCall
  params : Obj
  /-- `_parse_time(value) < now`. -/
  isPast : String → Bool
  /-- `now + timedelta(seconds=…)`. -/
  isoAfter : ℤ → String
  /-- `new_id("agt")`. -/
  newToken : String
  /-- `new_id("agent")[6:]`. -/
  newAgentId : String

/-- `SELECT * FROM agent_registration_tokens WHERE token_hash = ?`. -/
def Store.agentToken? (st : Store) (tokenHash : String) : Option AgentRegistrationToken :=
  Table.row? AgentRegistrationToken.tokenHash tokenHash st.agentRegistrationTokens

/-- `_agent_token_status`. -/
def AgentRegistrationToken.status (row : AgentRegistrationToken) (isPast : String → Bool) :
    AgentTokenStatus :=
  if row.revokedAt.isSome then .revoked
  else if row.usedAt.isSome then .used
  else if isPast row.expiresAt then .expired
  else .active

/-- An active token is neither revoked nor used. -/
theorem AgentRegistrationToken.of_active {row : AgentRegistrationToken} {isPast : String → Bool}
    (h : row.status isPast = .active) : row.revokedAt = none ∧ row.usedAt = none := by
  unfold AgentRegistrationToken.status at h
  split at h
  · cases h
  · split at h
    · cases h
    · rename_i hrevoked hused
      exact ⟨by simpa using hrevoked, by simpa using hused⟩

section Handlers

variable (sha256Hex : String → String) (req : AgentTokenRequest)

/-- `params.get("token") or params.get("registration_token")`. -/
def AgentTokenRequest.tokenParam : Json :=
  (req.params.get "token").orElse (req.params.get "registration_token")

/-- The token value a request presents: `str(token)`. -/
def AgentTokenRequest.presented : String := req.outside.str req.tokenParam

/-- `_agent_token_row`. -/
def agentTokenRow : Statements AgentRegistrationToken := do
  check (require req.tokenParam.truthy (.invalidParams "registration_token_required"))
  let row ← .query fun st ↦ st.agentToken? (sha256Hex req.presented)
  check (orRaise (.notFound "registration_token_not_found") row)

/-- `max(60, min(int(params.get("ttl_seconds") or 3600), 86400))`. -/
def AgentTokenRequest.ttlSeconds : Result ℤ :=
  match intOf ((req.params.get "ttl_seconds").orElse (.int 3600)) with
  | .ok n => .ok (max 60 (min n 86400))
  | .error _ => .error (.value "ttl_seconds")

/-- The `INSERT` of `issue_agent_token`. -/
def insertAgentToken (row : AgentRegistrationToken) (st : Store) : Result Store := do
  let rows ← orRaise (.integrity "agent_registration_tokens.token_hash")
    (Table.insert? AgentRegistrationToken.tokenHash row st.agentRegistrationTokens)
  return { st with agentRegistrationTokens := rows }

/-- `issue_agent_token`. -/
def issueAgentToken : Statements AgentRegistrationToken := do
  let owner ← check (currentDid req.toRequest true)
  let ttl ← check req.ttlSeconds
  let row : AgentRegistrationToken :=
    { tokenHash := sha256Hex req.newToken
      ownerDid := owner.getD ""
      agentKind := req.outside.str
        (((req.params.get "agent_kind").orElse (req.params.get "kind")).orElse (.str "daemon"))
      expiresAt := req.isoAfter ttl
      revokedAt := none
      usedAt := none
      agentDid := none }
  .write (insertAgentToken row)
  return row

/-- `params.get("did_document")`, when it is a dictionary. -/
def AgentTokenRequest.didDocument : Option Obj := (req.params.get "did_document").obj?

/-- The DID of the new agent: as asked for, as its document says, or a new one of its owner. -/
def AgentTokenRequest.agentDid (row : AgentRegistrationToken) : String :=
  let asked := (req.params.get "agent_did").orElse ((req.didDocument.getD []).get "id")
  if asked.truthy then req.outside.str asked
  else row.ownerDid ++ ":agents:" ++ req.newAgentId

/-- `UPDATE agent_registration_tokens SET used_at = ?, agent_did = ? WHERE token_hash = ?`. -/
def Store.useAgentToken (st : Store) (tokenHash now agentDid : String) : Store :=
  { st with
    agentRegistrationTokens := Table.updateWhere (fun t ↦ decide (t.tokenHash = tokenHash))
      (fun t ↦ { t with usedAt := some now, agentDid := some agentDid })
      st.agentRegistrationTokens }

/-- `INSERT INTO did_documents(did, document_json, updated_at)`; version and status default. -/
def insertAgentDocument (agentDid now : String) (document : Obj) (st : Store) : Result Store := do
  let rows ← orRaise (.integrity "did_documents.did")
    (Table.insert? DidDocument.did
      { did := agentDid, document := .obj (document.set "id" (.str agentDid)), documentVersion := 1,
        updatedAt := now, status := .active, revokedAt := none } st.didDocuments)
  return { st with didDocuments := rows }

/-- The transaction of `exchange_agent_token`. -/
def consumeAgentToken (row : AgentRegistrationToken) (st : Store) :
    Result (AgentRegistrationToken × Store) := do
  let agentDid := req.agentDid row
  require (Table.row? DidDocument.did agentDid st.didDocuments).isNone
    (.conflict "did_document_already_registered")
  let st := st.useAgentToken row.tokenHash req.outside.now agentDid
  match req.didDocument.filter fun document ↦ !document.isEmpty with
  | none => return (row, st)
  | some document => do
    let st ← insertAgentDocument agentDid req.outside.now document st
    return (row, st)

/-- `exchange_agent_token`, up to its commit. -/
def exchangeAgentToken : Statements AgentRegistrationToken := do
  let row ← agentTokenRow sha256Hex req
  let status := row.status req.isPast
  check (require (status = .active)
    (.invalidParams "registration_token_not_active" [("status", .str status.text)]))
  .locked (consumeAgentToken req row)

/-- `UPDATE … SET revoked_at = ? WHERE token_hash = ? AND revoked_at IS NULL`. -/
def Store.revokeAgentToken (st : Store) (tokenHash now : String) : Store :=
  { st with
    agentRegistrationTokens := Table.updateWhere
      (fun t ↦ decide (t.tokenHash = tokenHash ∧ t.revokedAt = none))
      (fun t ↦ { t with revokedAt := some now }) st.agentRegistrationTokens }

/-- `revoke_agent_token`. -/
def revokeAgentToken : Statements AgentRegistrationToken := do
  let row ← agentTokenRow sha256Hex req
  .write fun st ↦ .ok (st.revokeAgentToken row.tokenHash req.outside.now)
  return row

/-- The program of a request. -/
def serveAgentToken : Statements AgentRegistrationToken :=
  match req.call with
  | .issue => issueAgentToken sha256Hex req
  | .exchange => exchangeAgentToken sha256Hex req
  | .revoke => revokeAgentToken sha256Hex req

end Handlers

/-! ### What a commit does -/

/-- The effect of a committed request on the table, with the row it was about. An exchange has found
that row, neither used nor revoked, in the state it commits to. -/
inductive AgentTokenEffect (sha256Hex : String → String) (r : AgentTokenRequest) (s : Store)
    (row : AgentRegistrationToken) (s' : Store) : Prop where
  | issue (call : r.call = .issue) (fresh : s.agentToken? row.tokenHash = none)
      (tokens : s'.agentRegistrationTokens = s.agentRegistrationTokens ++ [row])
  | exchange (call : r.call = .exchange) (hash : row.tokenHash = sha256Hex r.presented)
      (found : s.agentToken? row.tokenHash = some row)
      (unrevoked : row.revokedAt = none) (unused : row.usedAt = none)
      (tokens : ∃ now agentDid, s'.agentRegistrationTokens =
        (s.useAgentToken row.tokenHash now agentDid).agentRegistrationTokens)
  | revoke (call : r.call = .revoke)
      (tokens : ∃ now, s'.agentRegistrationTokens =
        (s.revokeAgentToken row.tokenHash now).agentRegistrationTokens)

/-- A token of this hash has been used. -/
def Store.TokenUsed (st : Store) (tokenHash : String) : Prop :=
  ∃ row, st.agentToken? tokenHash = some row ∧ row.usedAt.isSome

section Effects

variable {sha256Hex : String → String} {r : AgentTokenRequest} {s s' : Store}
  {row : AgentRegistrationToken} {k now agentDid : String}

/-- The row of a token after one was used, -/
theorem agentToken?_useAgentToken (used : String) :
    (s.useAgentToken used now agentDid).agentToken? k = (s.agentToken? k).map fun t ↦
      if decide (t.tokenHash = used) then { t with usedAt := some now, agentDid := some agentDid }
      else t :=
  Table.row?_updateWhere fun _ _ ↦ rfl

/-- and after one was revoked. -/
theorem agentToken?_revokeAgentToken (revoked : String) :
    (s.revokeAgentToken revoked now).agentToken? k = (s.agentToken? k).map fun t ↦
      if decide (t.tokenHash = revoked ∧ t.revokedAt = none) then { t with revokedAt := some now }
      else t :=
  Table.row?_updateWhere fun _ _ ↦ rfl

/-- A row is read off its table. -/
theorem agentToken?_congr (h : s'.agentRegistrationTokens = s.agentRegistrationTokens) :
    s'.agentToken? k = s.agentToken? k := by
  rw [Store.agentToken?, h, Store.agentToken?]

/-- **Used stays used.** -/
theorem AgentTokenEffect.tokenUsed (h : AgentTokenEffect sha256Hex r s row s')
    (hused : s.TokenUsed k) : s'.TokenUsed k := by
  obtain ⟨t, ht, hsome⟩ := hused
  cases h with
  | issue _ _ tokens =>
    refine ⟨t, ?_, hsome⟩
    rw [Store.agentToken?, tokens]
    exact Table.row?_of_prefix (List.prefix_append _ _) ht
  | exchange _ _ _ _ _ tokens =>
    obtain ⟨now, agentDid, tokens⟩ := tokens
    rw [Store.TokenUsed, agentToken?_congr tokens, agentToken?_useAgentToken, ht]
    refine ⟨_, rfl, ?_⟩
    dsimp only
    split
    · rfl
    · exact hsome
  | revoke _ tokens =>
    obtain ⟨now, tokens⟩ := tokens
    rw [Store.TokenUsed, agentToken?_congr tokens, agentToken?_revokeAgentToken, ht]
    refine ⟨_, rfl, ?_⟩
    dsimp only
    split
    · exact hsome
    · exact hsome

/-- **An exchange uses its token.** -/
theorem AgentTokenEffect.tokenUsed_of_exchange (h : AgentTokenEffect sha256Hex r s row s')
    (hcall : r.call = .exchange) : s'.TokenUsed (sha256Hex r.presented) := by
  cases h with
  | issue call _ _ => exact absurd (hcall.symm.trans call) (by decide)
  | revoke call _ => exact absurd (hcall.symm.trans call) (by decide)
  | exchange _ hash found _ _ tokens =>
    obtain ⟨now, agentDid, tokens⟩ := tokens
    rw [Store.TokenUsed, ← hash, agentToken?_congr tokens, agentToken?_useAgentToken, found]
    exact ⟨_, rfl, by simp⟩

end Effects

/-! ### Programs -/

/-- **The row is as it was read**: an exchange that takes the lock finds the row of its token as it
was when it checked the status. -/
def tokenRowAsRead (sha256Hex : String → String)
    (_ : List (AgentTokenRequest × AgentRegistrationToken)) (r : AgentTokenRequest)
    (last : Option Store) (s : Store) : Bool :=
  r.call ≠ .exchange ||
    last.map (·.agentToken? (sha256Hex r.presented)) =
      some (s.agentToken? (sha256Hex r.presented))

section Owes

variable {sha256Hex : String → String} {r : AgentTokenRequest}

/-- A look-up passes the row it has found on, or fails. -/
theorem agentTokenRow_guarded {α : Type} {I : Store → Prop}
    {R : Option Store → Store → Store → Prop}
    {Q : α → Option Store → Prop} {W : α → Store → Prop} {last : Option Store}
    {f : AgentRegistrationToken → Statements α}
    (h : ∀ read row, read.agentToken? (sha256Hex r.presented) = some row →
      (f row).Guarded I R Q W (some read)) :
    (agentTokenRow sha256Hex r >>= f).Guarded I R Q W last := by
  refine (Program.guarded_bind _ _).mpr (guarded_bind_check fun _ _ ↦ ?_)
  refine Program.guarded_bind_query fun read _ ↦ ?_
  exact Program.guarded_ofExcept.mpr fun row hrow ↦ h read row (orRaise_eq_ok.mp hrow)

/-- A token is inserted when its hash is new. -/
theorem insertAgentToken_eq_ok {row : AgentRegistrationToken} {s s' : Store}
    (h : insertAgentToken row s = .ok s') :
    s.agentToken? row.tokenHash = none ∧
      s'.agentRegistrationTokens = s.agentRegistrationTokens ++ [row] := by
  obtain ⟨rows, hrows, h⟩ := bind_eq_ok.mp h
  obtain ⟨hfresh, rfl⟩ := Table.insert?_eq_some.mp (orRaise_eq_ok.mp hrows)
  obtain rfl := pure_eq_ok.mp h
  exact ⟨Table.row?_eq_none.mpr hfresh, rfl⟩

/-- An exchange writes its token's row and perhaps a document. -/
theorem consumeAgentToken_eq_ok {row row' : AgentRegistrationToken} {s s' : Store}
    (h : consumeAgentToken r row s = .ok (row', s')) :
    row' = row ∧ s'.agentRegistrationTokens = (s.useAgentToken row.tokenHash r.outside.now
      (r.agentDid row)).agentRegistrationTokens := by
  obtain ⟨_, -, h⟩ := bind_eq_ok.mp h
  split at h
  · obtain ⟨rfl, rfl⟩ := Prod.mk.inj (pure_eq_ok.mp h)
    exact ⟨rfl, rfl⟩
  · obtain ⟨s₁, hs₁, h⟩ := bind_eq_ok.mp h
    obtain ⟨rows, -, hs₁⟩ := bind_eq_ok.mp hs₁
    obtain rfl := pure_eq_ok.mp hs₁
    obtain ⟨rfl, rfl⟩ := Prod.mk.inj (pure_eq_ok.mp h)
    exact ⟨rfl, rfl⟩

/-- **Every request owes its effect.** -/
theorem serveAgentToken_owes (r : AgentTokenRequest) :
    Serving.Owes (fun _ ↦ True) (fun h r last s ↦ tokenRowAsRead sha256Hex h r last s = true)
      (fun _ r s row s' ↦ AgentTokenEffect sha256Hex r s row s') r (serveAgentToken sha256Hex r)
      none := by
  intro h s
  cases hcall : r.call with
  | issue =>
    rw [serveAgentToken, hcall]
    refine guarded_bind_check fun owner _ ↦ guarded_bind_check fun ttl _ ↦ ?_
    refine Program.guarded_bind_write fun s₀ s' _ hs' hC ↦ ?_
    obtain ⟨rfl, -⟩ := hC
    obtain ⟨hfresh, htokens⟩ := insertAgentToken_eq_ok hs'
    exact ⟨.issue hcall hfresh htokens, trivial⟩
  | exchange =>
    rw [serveAgentToken, hcall]
    refine agentTokenRow_guarded fun read row hrow ↦ ?_
    refine guarded_bind_check fun _ hstatus ↦ ?_
    refine Program.guarded_locked_iff.mpr fun s₀ _ hC row' s' hs' ↦ ?_
    obtain ⟨rfl, hC⟩ := hC
    obtain ⟨rfl, htokens⟩ := consumeAgentToken_eq_ok hs'
    obtain ⟨hrevoked, hused⟩ :=
      AgentRegistrationToken.of_active (of_decide_eq_true (require_eq_ok.mp hstatus))
    have hhash := Table.key_of_row? hrow
    have hsame : read.agentToken? (sha256Hex r.presented) =
        s₀.agentToken? (sha256Hex r.presented) := by
      simpa [tokenRowAsRead, hcall] using hC
    refine ⟨.exchange hcall hhash ?_ hrevoked hused ⟨_, _, htokens⟩, trivial⟩
    rw [hhash, ← hsame, hrow]
  | revoke =>
    rw [serveAgentToken, hcall]
    refine agentTokenRow_guarded fun read row hrow ↦ ?_
    refine Program.guarded_bind_write fun s₀ s' _ hs' hC ↦ ?_
    obtain ⟨rfl, -⟩ := hC
    obtain rfl := Except.ok.inj hs'
    exact ⟨.revoke hcall ⟨_, rfl⟩, trivial⟩

end Owes

/-! ### One-time tokens -/

/-- A server of token requests. -/
abbrev AgentTokenServer := Serving ℕ Store AwikiError AgentTokenRequest AgentRegistrationToken

/-- The request exchanges this token value. -/
def AgentTokenRequest.exchanges (r : AgentTokenRequest) (token : String) : Bool :=
  r.call = .exchange && r.presented = token

/-- How many exchanges of a token value have committed. -/
def exchangesOf (token : String) (history : List (AgentTokenRequest × AgentRegistrationToken)) :
    ℕ :=
  history.countP fun e ↦ e.1.exchanges token

/-- **Along a serial history a token is exchanged at most once**, and has been used if it was. -/
theorem exchangesOf_le_one {sha256Hex : String → String} {st s : Store}
    {h : List (AgentTokenRequest × AgentRegistrationToken)}
    (hc : Chain (fun _ r s row s' ↦ AgentTokenEffect sha256Hex r s row s') st h s)
    (token : String) :
    exchangesOf token h ≤ 1 ∧ (0 < exchangesOf token h → s.TokenUsed (sha256Hex token)) := by
  refine hc.invariant (I := fun h s ↦
    exchangesOf token h ≤ 1 ∧ (0 < exchangesOf token h → s.TokenUsed (sha256Hex token)))
    ⟨Nat.zero_le _, fun h ↦ absurd h (Nat.lt_irrefl 0)⟩ ?_
  intro h r s row s' ⟨hle, hused⟩ heffect
  rw [exchangesOf, List.countP_append, List.countP_singleton]
  cases hr : r.exchanges token with
  | false =>
    simp only [Bool.false_eq_true, if_false, Nat.add_zero]
    exact ⟨hle, fun hpos ↦ heffect.tokenUsed (hused hpos)⟩
  | true =>
    obtain ⟨hcall, rfl⟩ : r.call = .exchange ∧ r.presented = token := by
      simpa [AgentTokenRequest.exchanges] using hr
    -- the row an exchange finds is unused, so nobody exchanged the token before
    have hnone : exchangesOf r.presented h = 0 := by
      cases heffect with
      | issue call _ _ => exact absurd (hcall.symm.trans call) (by decide)
      | revoke call _ => exact absurd (hcall.symm.trans call) (by decide)
      | exchange _ hash found _ unused _ =>
        refine Nat.eq_zero_of_not_pos fun hpos ↦ ?_
        obtain ⟨t, ht, hsome⟩ := hused hpos
        rw [← hash, found] at ht
        obtain rfl := Option.some.inj ht
        simp [unused] at hsome
    rw [show List.countP _ h = 0 from hnone]
    exact ⟨Nat.le_refl 1, fun _ ↦ heffect.tokenUsed_of_exchange hcall⟩

/-- **Registration tokens are one-time where rows are as read.** In any interleaving of the
statements of any issues, exchanges and revocations in which every exchange finds, when it takes
the lock, its token's row as it read it, each token value is exchanged at most once, and an
exchange that is about to commit commits on a row neither revoked nor used. -/
theorem agent_tokens_one_time {sha256Hex : String → String} {st : Store} {σ : AgentTokenServer}
    (h : Serving.Reachable (serveAgentToken sha256Hex)
      (fun h r last s ↦ tokenRowAsRead sha256Hex h r last s = true) st σ) :
    (∀ token, exchangesOf token σ.history ≤ 1) ∧
    ∀ i r row, σ.commit? i = some (r, row) → r.call = .exchange →
      ∃ current, σ.world.committed.agentToken? (sha256Hex r.presented) = some current ∧
        current.revokedAt = none ∧ current.usedAt = none := by
  refine ⟨fun token ↦ (exchangesOf_le_one (h.serial trivial serveAgentToken_owes) token).1, ?_⟩
  intro i r row hcommit hcall
  obtain ⟨s, hs⟩ := Option.isSome_iff_exists.mp (Serving.commit?_eq_some.mp hcommit).2.2
  have heffect := h.next_commit trivial serveAgentToken_owes hcommit hs
  cases heffect with
  | issue call _ _ => exact absurd (hcall.symm.trans call) (by decide)
  | revoke call _ => exact absurd (hcall.symm.trans call) (by decide)
  | exchange _ hash found unrevoked unused _ => exact ⟨row, hash ▸ found, unrevoked, unused⟩

/-! ### Two exchanges at once -/

/-- A token of Alice, not used yet. -/
def sampleAgentTokens : Store where
  agentRegistrationTokens := [
    { tokenHash := "sha256:agt_1", ownerDid := alice, agentKind := "daemon", expiresAt := "2027",
      revokedAt := none, usedAt := none, agentDid := none }]

/-- An exchange of it for an agent. -/
def sampleExchange (agentDid : String) : AgentTokenRequest where
  surface := .localRpc
  credentials := .missing
  outside := .honest
  call := .exchange
  params := [("token", .str "agt_1"), ("agent_did", .str agentDid)]
  isPast _ := false
  isoAfter _ := "2027"
  newToken := "agt_2"
  newAgentId := "1"

/-- Two exchanges of the token: so many statements of the one, then of the other, and so on. -/
def twoExchanges (turns : List (ℕ × ℕ)) : List (Event ℕ AgentTokenRequest) :=
  [.start 0 (sampleExchange "did:a"), .start 1 (sampleExchange "did:b")] ++
    turns.flatMap fun t ↦ List.replicate t.2 (.advance t.1)

/-- The server after that schedule. -/
def afterExchanges (turns : List (ℕ × ℕ)) : AgentTokenServer :=
  (Serving.idle sampleAgentTokens).runAll (serveAgentToken ("sha256:" ++ ·)) (twoExchanges turns)

/-- One exchange after the other: the first succeeds and the second does not. -/
theorem agent_tokens_one_time_in_turn :
    exchangesOf "agt_1" (afterExchanges [(0, 5), (1, 5)]).history = 1 ∧
      ∀ token, exchangesOf token (afterExchanges [(0, 5), (1, 5)]).history ≤ 1 :=
  ⟨by decide +kernel,
    (agent_tokens_one_time (Serving.reachable_runAll _ (.refl _ _) (by decide +kernel))).1⟩

/-- **Two exchanges that read the row before either writes both succeed.** -/
theorem token_exchanged_twice :
    ¬ ∀ (sha256Hex : String → String) (st : Store) (σ : AgentTokenServer),
      Serving.Reachable (serveAgentToken sha256Hex) (fun _ _ _ _ ↦ True) st σ →
      ∀ token, exchangesOf token σ.history ≤ 1 := by
  intro hall
  have hle := hall ("sha256:" ++ ·) sampleAgentTokens
    (afterExchanges [(0, 1), (1, 1), (0, 4), (1, 4)])
    (Serving.reachable_schedule _ (.refl _ _) _) "agt_1"
  have htwo : exchangesOf "agt_1" (afterExchanges [(0, 1), (1, 1), (0, 4), (1, 4)]).history =
    2 := by
    decide +kernel
  exact absurd (htwo ▸ hle) (by decide)

end Awiki
