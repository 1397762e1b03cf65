import AwikiOpenServer.Lib.Rely
import AwikiOpenServer.UserCompat.AgentTokens
import AwikiOpenServer.UserCompat.Registration

/-!
# Revocation is terminal

`revoke` marks the user row and the document row of an identity, and nothing unmarks them. The
handlers of identities that write the two tables are here beside it — rotations, registrations,
document updates and exchanges of agent tokens — and the authentication every request begins with,
their statements interleaved in any order. The documents of hosted groups are rows of the same table
under the DIDs of groups, which have no users.

What a commit does to the two tables is said once: rows are updated under their DIDs and a revoked
row stays revoked, and new rows come under new DIDs (`Evolution`). Both halves of the result about
runs follow from it. **Commits after the revocation** find the identity revoked, and a commit that
would issue tokens has checked that it is not. **Requests started after it** read states in which it
is revoked, so the four ways to authenticate find nobody.

A handler takes its caller as given, whoever that is and however long ago it was authenticated: an
update or a rotation may have been under way when the revocation came.

## Commits and reads

The rules for interleavings are those of `Lib/Rely.lean` and `Lib/Commits.lean`. A request owes an
effect at its commit, which it may show from what it finds when it takes the lock (`IdentityEffect`,
`serveIdentity_owes`); what it may rely on between its statements is that identities stay and
revoked ones stay revoked (`KeepsIdentities`). The first gives a serial history of commits, along
which a revocation is never undone (`revoked_of_revokedIn`) and nobody gives tokens to a revoked
identity (`issuedTo_ne_of_revokedIn`). The second is for the requests that only read: one that
started after the revocation sees it in every statement (`serveIdentity_guarded`).

## Four ways to authenticate

By a token, by a signature, by a refresh, and by a proof that is resolved against the stored
document of its DID: each ends in one of the queries for an active identity, and none of them picks
a revoked one (`Store.Revoked.ne_of_activeUser?`). The result asks also for `_user_exists`, which
other modules use to tell local users from others.
-/

namespace Awiki

open Py Transactions

/-- The requests about identities. -/
inductive IdentityCall where
  /-- `current_did`, which comes first in every request that needs a caller. -/
  | authenticate (req : IdentityRequest)
  | rotate (r : RotationRequest)
  | register (r : RegistrationRequest)
  | updateDocument (r : UpdateRequest)
  | exchangeAgentToken (r : AgentTokenRequest)
  | revoke (req : IdentityRequest) (did : String)

/-- What they answer. -/
inductive IdentityReply where
  | caller (c : Caller)
  | tokens (p : TokenPayload)
  | registered (r : Registration)
  | published (a : PublishOutcome)
  | exchanged (row : AgentRegistrationToken)
  | revoked

/-- Whom a request revokes. -/
def IdentityCall.revokes : IdentityCall → Option String
  | revoke _ did => some did
  | _ => none

/-- Whom a reply gives tokens to. -/
def IdentityReply.issuedTo : IdentityReply → Option String
  | tokens p => some p.did
  | registered r => some r.did
  | _ => none

/-- The program of a request. -/
def serveIdentity (out : IdentityOutside) (sha256Hex : String → String) :
    IdentityCall → Statements IdentityReply
  | .authenticate req => do
    let c ← callerDid out req
    return .caller c
  | .rotate r => do
    let p ← serveRotation out r
    return .tokens p
  | .register r => do
    let registration ← register out r
    return .registered registration
  | .updateDocument r => do
    let a ← updateDocument out r
    return .published a
  | .exchangeAgentToken r => do
    let row ← exchangeAgentToken sha256Hex r
    return .exchanged row
  | .revoke req did => do
    revoke req did
    return .revoked

/-! ### Revoked identities -/

/-- Every user has a document. -/
def Documented (st : Store) : Prop := ∀ u ∈ st.users, ∃ d ∈ st.didDocuments, d.did = u.did

/-- **The identity is revoked**: it has a user and a document, and all of them are. -/
structure Store.Revoked (st : Store) (did : String) : Prop where
  user : ∃ u ∈ st.users, u.did = did
  users : ∀ u ∈ st.users, u.did = did → u.revokedAt.isSome
  document : ∃ d ∈ st.didDocuments, d.did = did
  documents : ∀ d ∈ st.didDocuments, d.did = did → d.status = .revoked

section Revoked

variable {st : Store} {did : String} {pick : User → Bool} {u : User} {d : DidDocument}

/-- A revoked identity has no active document, -/
theorem Store.Revoked.activeDocument? (h : st.Revoked did) : st.activeDocument? did = none := by
  refine Option.eq_none_iff_forall_ne_some.mpr fun d hd ↦ ?_
  obtain ⟨hmem, hdid, hactive, -⟩ := activeDocument?_eq_some hd
  exact absurd (hactive.symm.trans (h.documents d hmem hdid)) (by decide)

/-- None of the queries picks a revoked identity. -/
theorem Store.Revoked.ne_of_activeUser? (h : st.Revoked did)
    (hu : st.activeUser? pick = some (u, d)) : u.did ≠ did := by
  rintro rfl
  obtain ⟨hmem, -, hactive, -⟩ := activeUser?_eq_some hu
  have hrevoked := h.users u hmem rfl
  rw [hactive] at hrevoked
  cases hrevoked

/-- A revoked identity is no user any more. -/
theorem Store.Revoked.userExists (h : st.Revoked did) : userExists st did = false := by
  rw [Awiki.userExists, List.any_eq_false]
  intro u hu hboth
  rw [Bool.and_eq_true, decide_eq_true_eq] at hboth
  have hrevoked := h.users u hu hboth.1.1
  rw [hboth.1.2] at hrevoked
  cases hrevoked

/-- The stored document of a revoked identity is as good as absent. -/
theorem Store.Revoked.resolveDidDocumentForProof (h : st.Revoked did) (req : Request) :
    resolveDidDocumentForProof st req did =
      resolveDidDocumentForProof { st with didDocuments := [] } req did := by
  have hnone := h.activeDocument?
  rw [Store.activeDocument?] at hnone
  simp only [Awiki.resolveDidDocumentForProof, hnone, List.find?_nil]

end Revoked

/-! ### What a commit does to identities -/

/-- **What any commit does.** -/
structure Evolution (s s' : Store) : Prop where
  users : Table.Evolves User.did (fun u ↦ u.revokedAt.isSome = true) s.users s'.users
  documents : Table.Evolves DidDocument.did (fun d ↦ d.status = .revoked)
    s.didDocuments s'.didDocuments
  documented : Documented s → Documented s'

/-- What requests may rely on: identities stay, and so do revocations. -/
structure KeepsIdentities (s s' : Store) : Prop where
  users : ∀ did, (∃ u ∈ s.users, u.did = did) → ∃ u ∈ s'.users, u.did = did
  revoked : ∀ did, s.Revoked did → s'.Revoked did

/-- Nothing has happened. -/
theorem KeepsIdentities.refl (s : Store) : KeepsIdentities s s := ⟨fun _ h ↦ h, fun _ h ↦ h⟩

/-- First the one, then the other. -/
theorem KeepsIdentities.trans {a b c : Store} (h : KeepsIdentities a b)
    (h' : KeepsIdentities b c) : KeepsIdentities a c :=
  ⟨fun did hu ↦ h'.users did (h.users did hu), fun did hr ↦ h'.revoked did (h.revoked did hr)⟩

section Evolution

variable {s s' : Store}

/-- Every commit keeps them. -/
theorem Evolution.keepsIdentities (h : Evolution s s') : KeepsIdentities s s' where
  users _ hu := h.users.exists_key hu
  revoked _ hr :=
    { user := h.users.exists_key hr.user
      users := h.users.forall_key hr.user hr.users
      document := h.documents.exists_key hr.document
      documents := h.documents.forall_key hr.document hr.documents }

/-- Updates of users that leave the documents alone. -/
theorem Evolution.of_users (hdocuments : s'.didDocuments = s.didDocuments) {p : User → Bool}
    {f : User → User} (husers : s'.users = Table.updateWhere p f s.users)
    (hdid : ∀ u, (f u).did = u.did)
    (hrevoked : ∀ u, u.revokedAt.isSome = true → (f u).revokedAt.isSome = true) :
    Evolution s s' where
  users := husers ▸ .updateWhere hdid hrevoked
  documents := hdocuments ▸ .refl _
  documented h u hu := by
    rw [husers, Table.mem_updateWhere] at hu
    rw [hdocuments]
    obtain ⟨u₀, hu₀, rfl⟩ := hu
    split
    · exact hdid u₀ ▸ h u₀ hu₀
    · exact h u₀ hu₀

/-- Changes of documents that leave the users alone. -/
theorem Evolution.of_documents (husers : s'.users = s.users)
    (hdocuments : Table.Evolves DidDocument.did (fun d ↦ d.status = .revoked)
      s.didDocuments s'.didDocuments) : Evolution s s' where
  users := husers ▸ .refl _
  documents := hdocuments
  documented h u hu := hdocuments.exists_key (h u (husers ▸ hu))

/-! ### One transaction after the other -/

/-- A nonce that is consumed. -/
theorem consumeAuthNonce_evolution {req : IdentityRequest} {keyId : String} {m : SignatureMetadata}
    {a : Unit} (h : consumeAuthNonce req keyId m s = .ok (a, s')) : Evolution s s' := by
  obtain ⟨_, -, h⟩ := bind_eq_ok.mp h
  obtain ⟨rows, -, h⟩ := bind_eq_ok.mp h
  obtain ⟨-, rfl⟩ := Prod.mk.inj (pure_eq_ok.mp h)
  exact .of_documents rfl (.refl _)

/-- A rotation gives tokens to somebody who is not revoked. -/
theorem rotateTokensForDid_evolution {out : IdentityOutside} {req : IdentityRequest} {did : String}
    {signed : Option SingleDeviceAccount} {p : TokenPayload}
    (h : rotateTokensForDid out req did signed s = .ok (p, s')) :
    Evolution s s' ∧ ¬ s.Revoked p.did := by
  obtain ⟨hdid, -, ⟨u, d, hactive⟩, hdocuments, husers⟩ := rotateTokensForDid_eq_ok h
  refine ⟨.of_users hdocuments husers (fun _ ↦ rfl) (fun _ hu ↦ hu), fun hrevoked ↦ ?_⟩
  obtain ⟨-, hu, -, -⟩ := activeUser?_eq_some hactive
  exact hrevoked.ne_of_activeUser? hactive ((of_decide_eq_true hu).trans hdid.symm)

/-- A registration gives tokens to somebody who is new. -/
theorem commitRegistration_evolution {req : RegistrationRequest} {r r' : Registration}
    (h : commitRegistration req r s = .ok (r', s')) : Evolution s s' ∧ ¬ s.Revoked r'.did := by
  obtain ⟨rfl, ⟨u, hu, hfresh, husers⟩, d, hd, hnew, hdocuments⟩ := commitRegistration_eq_ok h
  refine ⟨⟨?_, ?_, fun hdoc v hv ↦ ?_⟩, fun hrevoked ↦ ?_⟩
  · exact husers ▸ .append fun v hv ↦ hu ▸ hfresh v hv
  · exact hdocuments ▸ .append fun e he ↦ hd ▸ hnew e he
  · rw [husers, List.mem_append, List.mem_singleton] at hv
    rw [hdocuments]
    rcases hv with hold | rfl
    · obtain ⟨e, he, hdid⟩ := hdoc v hold
      exact ⟨e, List.mem_append_left _ he, hdid⟩
    · exact ⟨d, by simp, hd.trans hu.symm⟩
  · obtain ⟨v, hv, hdid⟩ := hrevoked.user
    exact hfresh v hv hdid

/-- A publication writes the document of its caller. -/
theorem publishDocument_evolution {out : IdentityOutside} {p : Publication} {now : String}
    {a : PublishOutcome} (h : publishDocument out p now s = .ok (a, s')) : Evolution s s' := by
  obtain ⟨old, hash, -, -, -, hwritten, hkept, -, -⟩ := publishDocument_eq_ok h
  cases hw : a.written with
  | false =>
    obtain ⟨-, rfl⟩ := hkept hw
    exact .of_documents rfl (.refl _)
  | true =>
    obtain ⟨-, -, rfl⟩ := hwritten hw
    exact .of_documents rfl (.updateWhere (fun _ ↦ rfl) fun _ hd ↦ hd)

/-- An exchange adds the document of an agent. -/
theorem consumeAgentToken_evolution {r : AgentTokenRequest} {row row' : AgentRegistrationToken}
    (h : consumeAgentToken r row s = .ok (row', s')) : Evolution s s' := by
  obtain ⟨_, -, h⟩ := bind_eq_ok.mp h
  split at h
  · obtain ⟨-, rfl⟩ := Prod.mk.inj (pure_eq_ok.mp h)
    exact .of_documents rfl (.refl _)
  · obtain ⟨s₁, hs₁, h⟩ := bind_eq_ok.mp h
    obtain ⟨rows, hrows, hs₁⟩ := bind_eq_ok.mp hs₁
    obtain ⟨hfresh, rfl⟩ := Table.insert?_eq_some.mp (orRaise_eq_ok.mp hrows)
    obtain rfl := pure_eq_ok.mp hs₁
    obtain ⟨-, rfl⟩ := Prod.mk.inj (pure_eq_ok.mp h)
    exact .of_documents rfl (.append hfresh)

/-- **The two writes of `revoke`.** -/
theorem revoke_evolution (did now : String) :
    Evolution s (revokeDocument did now (revokeUser did now s)) := by
  have husers : Evolution s (revokeUser did now s) :=
    .of_users rfl rfl (fun _ ↦ rfl) fun _ _ ↦ rfl
  exact
    { users := husers.users
      documents := .updateWhere (fun _ ↦ rfl) fun _ _ ↦ rfl
      documented := fun h u hu ↦ by
        have hdocuments : Table.Evolves DidDocument.did (fun d ↦ d.status = .revoked)
            s.didDocuments (revokeDocument did now (revokeUser did now s)).didDocuments :=
          .updateWhere (fun _ ↦ rfl) fun _ _ ↦ rfl
        exact hdocuments.exists_key (husers.documented h u hu) }

/-- And what they leave. -/
theorem revoked_revoke {did now : String} (hdoc : Documented s) (hu : ∃ u ∈ s.users, u.did = did) :
    (revokeDocument did now (revokeUser did now s)).Revoked did := by
  have hstep := revoke_evolution (s := s) did now
  have hdocument : ∃ d ∈ s.didDocuments, d.did = did := by
    obtain ⟨u, hmem, rfl⟩ := hu
    exact hdoc u hmem
  refine ⟨hstep.users.exists_key hu, fun v hv hdid ↦ ?_, hstep.documents.exists_key hdocument,
    fun e he hdid ↦ ?_⟩
  · obtain ⟨u, -, rfl⟩ := Table.mem_updateWhere.mp hv
    split
    · rfl
    · rename_i hother
      rw [if_neg hother] at hdid
      refine Option.ne_none_iff_isSome.mp fun hnone ↦ hother ?_
      exact decide_eq_true ⟨hdid, hnone⟩
  · obtain ⟨d, -, rfl⟩ := Table.mem_updateWhere.mp he
    split
    · rfl
    · rename_i hother
      rw [if_neg hother] at hdid
      exact absurd (decide_eq_true hdid) hother

end Evolution

/-! ### Authentication -/

section Authentication

variable {out : IdentityOutside} {req : IdentityRequest} {I : Store → Prop}
  {R : Option Store → Store → Store → Prop} {last : Option Store}

/-- The device check reads, and decides. -/
theorem deviceAcceptsToken_guarded {Q : Bool → Option Store → Prop} {W : Bool → Store → Prop}
    {token : String} {u : User} {d : DidDocument} (h : ∀ b l, Q b l) :
    (deviceAcceptsToken out req token u d).Guarded I R Q W last := by
  unfold deviceAcceptsToken
  split
  · split
    · exact h false last
    · trivial
  · exact Program.guarded_bind_query fun read _ ↦ h _ _
  · exact Program.guarded_bind_query fun read _ ↦ h _ _

/-- **A token names nobody, or a user that some query picked.** -/
theorem didForToken_guarded {Q : Option String → Option Store → Prop}
    {W : Option String → Store → Prop} {token : String} (hnone : ∀ l, Q none l)
    (hsome : ∀ {read pick u d}, I read → read.activeUser? pick = some (u, d) →
      ∀ l, Q (some u.did) l) :
    (didForToken out req token).Guarded I R Q W last := by
  refine Program.guarded_bind_query fun read hread ↦ ?_
  split
  · rename_i u d hfound
    split
    · exact hnone _
    · refine (Program.guarded_bind _ _).mpr (deviceAcceptsToken_guarded fun b l ↦ ?_)
      cases b with
      | true => exact hsome hread hfound l
      | false => exact hnone l
  · unfold developmentDid
    split
    · refine Program.guarded_bind_query fun read' hread' ↦ ?_
      split
      · exact hnone _
      · rename_i u d hlegacy
        split at hlegacy
        · cases hlegacy
        · obtain ⟨-, hdid, -, -⟩ := activeUser?_eq_some hlegacy
          obtain rfl : u.did = token := of_decide_eq_true hdid
          rw [Program.guarded_pure]
          split
          · exact hnone _
          · exact hsome hread' hlegacy _
    · exact hnone _

/-- **Whoever is authenticated is a user that some query picked.** -/
theorem callerDid_guarded {Q : Caller → Option Store → Prop} {W : Caller → Store → Prop}
    (htoken : ∀ {read pick u d}, I read → read.activeUser? pick = some (u, d) →
      ∀ l, Q { did := u.did } l)
    (hsigned : ∀ {read pick u d} keyId m signed, I read → read.activeUser? pick = some (u, d) →
      (Program.locked (consumeAuthNonce req keyId m)).Guarded I R
        (fun _ l ↦ Q { did := u.did, signedDevice := signed } l)
        (fun _ s ↦ W { did := u.did, signedDevice := signed } s) (some read)) :
    (callerDid out req).Guarded I R Q W last := by
  unfold callerDid
  split
  · trivial
  · refine (Program.guarded_bind _ _).mpr (didForToken_guarded (fun l ↦ trivial) ?_)
    intro read pick u d hread hfound l
    exact htoken hread hfound l
  · split
    · refine guarded_bind_check fun keyId _ ↦ Program.guarded_bind_query fun read hread ↦ ?_
      refine guarded_bind_check fun found hfound ↦ ?_
      refine guarded_bind_check fun document _ ↦ guarded_bind_check fun manifest _ ↦ ?_
      refine guarded_bind_check fun _ _ ↦ guarded_bind_check fun metadata _ ↦ ?_
      have hpicked : read.activeUser? (fun u ↦ u.did = didOfKeyId keyId) =
          some (found.1, found.2) := orRaise_eq_ok.mp hfound
      obtain ⟨-, hdid, -, -⟩ := activeUser?_eq_some hpicked
      obtain hsame : found.1.did = didOfKeyId keyId := of_decide_eq_true hdid
      rw [← hsame]
      exact (Program.guarded_bind _ _).mpr (hsigned keyId metadata _ hread hpicked)
    · trivial

end Authentication

/-! ### What requests owe -/

/-- **The effect of a committed request.** -/
structure IdentityEffect (c : IdentityCall) (s : Store) (a : IdentityReply) (s' : Store) :
    Prop where
  evolution : Evolution s s'
  revoked : ∀ {did}, c.revokes = some did → s'.Revoked did
  issued : ∀ {did}, a.issuedTo = some did → ¬ s.Revoked did

/-- What a request may rely on when it takes the lock. -/
abbrev identityCondition : List (IdentityCall × IdentityReply) → IdentityCall → Option Store →
    Store → Prop :=
  Serving.relying (fun _ _ _ _ ↦ True) KeepsIdentities

section Owes

variable {out : IdentityOutside} {sha256Hex : String → String} {c : IdentityCall} {s₀ : Store}
  {h : List (IdentityCall × IdentityReply)} {last : Option Store}

/-- A locked handler owes its effect, unless it is the one of `revoke`. -/
theorem guarded_locked_identity {α : Type} {f : Store → Result (α × Store)}
    (reply : α → IdentityReply) (hc : c.revokes = none)
    (hf : ∀ {s a s'}, f s = .ok (a, s') → Evolution s s' ∧
      ∀ {did}, (reply a).issuedTo = some did → ¬ s.Revoked did) :
    (Program.locked f).Guarded Documented
      (fun last s _ ↦ s = s₀ ∧ identityCondition h c last s₀) (fun _ _ ↦ True)
      (fun a s' ↦ IdentityEffect c s₀ (reply a) s' ∧ Documented s') last := by
  refine Program.guarded_locked_iff.mpr fun s hdoc hC a s' hok ↦ ?_
  obtain ⟨rfl, -⟩ := hC
  obtain ⟨hevolution, hissued⟩ := hf hok
  refine ⟨⟨hevolution, fun hrevokes ↦ ?_, hissued⟩, hevolution.documented hdoc⟩
  rw [hc] at hrevokes
  cases hrevokes

/-- **`revoke` owes the revocation.** The user it found is still there. -/
theorem revoke_owes (req : IdentityRequest) (did : String) :
    Serving.Owes Documented identityCondition (fun _ c s a s' ↦ IdentityEffect c s a s')
      (.revoke req did) (serveIdentity out sha256Hex (.revoke req did)) none := by
  intro h s
  refine (Program.guarded_bind _ _).mpr (Program.guarded_bind_query fun read _ ↦ ?_)
  refine guarded_bind_check fun _ hknown ↦ Program.guarded_bind_write fun s₀ s₁ hdoc hs₁ hC ↦ ?_
  obtain ⟨rfl, -, hkeeps⟩ := hC
  obtain rfl := Except.ok.inj hs₁
  intro s₂ hs₂
  obtain rfl := Except.ok.inj hs₂
  have huser : ∃ u ∈ s₀.users, u.did = did := by
    refine (hkeeps read rfl).users did ?_
    simpa using require_eq_ok.mp hknown
  have hevolution := revoke_evolution (s := s₀) did req.now
  refine ⟨⟨hevolution, ?_, fun hissued ↦ (by cases hissued)⟩, hevolution.documented hdoc⟩
  rintro _ ⟨⟩
  exact revoked_revoke hdoc huser

/-- **Every request owes its effect.** -/
theorem serveIdentity_owes (c : IdentityCall) :
    Serving.Owes Documented identityCondition (fun _ c s a s' ↦ IdentityEffect c s a s') c
      (serveIdentity out sha256Hex c) none := by
  -- Each request is a transaction at its end; what comes before it only reads, and is peeled off.
  cases c with
  | revoke req did => exact revoke_owes req did
  | authenticate req =>
    intro h s
    refine (Program.guarded_bind _ _).mpr (callerDid_guarded (fun _ _ _ ↦ trivial) ?_)
    intro read pick u d keyId m signed _ _
    refine guarded_locked_identity (fun _ ↦ .caller { did := u.did, signedDevice := signed })
      rfl fun hok ↦ ⟨consumeAuthNonce_evolution hok, fun hissued ↦ ?_⟩
    cases hissued
  | rotate r =>
    intro h s
    have hlocked : ∀ (req : IdentityRequest) (did : String) (signed : Option SingleDeviceAccount)
        (last : Option Store),
        (Program.locked (rotateTokensForDid out req did signed)).Guarded Documented
          (fun last s' _ ↦ s' = s ∧ identityCondition h (.rotate r) last s) (fun _ _ ↦ True)
          (fun p s' ↦ IdentityEffect (.rotate r) s (.tokens p) s' ∧ Documented s') last := by
      refine fun req did signed last ↦ guarded_locked_identity .tokens rfl ?_
      intro s p s' hok
      obtain ⟨hevolution, hactive⟩ := rotateTokensForDid_evolution hok
      exact ⟨hevolution, fun hissued ↦ Option.some.inj hissued ▸ hactive⟩
    refine (Program.guarded_bind _ _).mpr ?_
    unfold serveRotation
    split
    · exact refreshAccessToken_guarded fun read u d _ _ ↦ hlocked _ _ _ _
    · exact didVerifyLogin_guarded fun read ↦ hlocked _ _ _ _
    · exact getMeTokens_guarded fun read ↦ hlocked _ _ _ _
  | register r =>
    intro h s
    refine (Program.guarded_bind _ _).mpr (guarded_bind_check fun p _ ↦ ?_)
    refine guarded_locked_identity .registered rfl fun hok ↦ ?_
    obtain ⟨hevolution, hfresh⟩ := commitRegistration_evolution hok
    exact ⟨hevolution, fun hissued ↦ Option.some.inj hissued ▸ hfresh⟩
  | updateDocument r =>
    intro h s
    refine (Program.guarded_bind _ _).mpr (guarded_bind_check fun p _ ↦ ?_)
    refine guarded_locked_identity .published rfl fun hok ↦ ?_
    exact ⟨publishDocument_evolution hok, fun hissued ↦ (by cases hissued)⟩
  | exchangeAgentToken r =>
    intro h s
    refine (Program.guarded_bind _ _).mpr (agentTokenRow_guarded fun read row _ ↦ ?_)
    refine guarded_bind_check fun _ _ ↦ ?_
    refine guarded_locked_identity .exchanged rfl fun hok ↦ ?_
    exact ⟨consumeAgentToken_evolution hok, fun hissued ↦ (by cases hissued)⟩

end Owes

/-! ### After a revocation -/

/-- A server of identity requests. -/
abbrev IdentityServer := Serving ℕ Store AwikiError IdentityCall IdentityReply

/-- A revocation of the identity has committed. -/
def RevokedIn (did : String) (history : List (IdentityCall × IdentityReply)) : Prop :=
  ∃ e ∈ history, e.1.revokes = some did

section After

variable {out : IdentityOutside} {sha256Hex : String → String} {st s : Store} {did : String}
  {h before later : List (IdentityCall × IdentityReply)}

/-- **Revoked stays revoked**, along a serial history. -/
theorem revoked_of_revokedIn (hc : Chain (fun _ c s a s' ↦ IdentityEffect c s a s') st h s)
    (hin : RevokedIn did h) : s.Revoked did := by
  refine hc.invariant (I := fun h s ↦ ∀ did, RevokedIn did h → s.Revoked did) ?_ ?_ did hin
  · rintro did ⟨e, hmem, -⟩
    cases hmem
  · rintro h c s a s' hrevoked heffect did ⟨e, hmem, hrevokes⟩
    rcases List.mem_append.mp hmem with hold | hnew
    · exact heffect.evolution.keepsIdentities.revoked did (hrevoked did ⟨e, hold, hrevokes⟩)
    · obtain rfl := List.mem_singleton.mp hnew
      exact heffect.revoked hrevokes

/-- **Nobody gives tokens to a revoked identity.** -/
theorem issuedTo_ne_of_revokedIn (hc : Chain (fun _ c s a s' ↦ IdentityEffect c s a s') st h s)
    (hh : h = before ++ later) (hin : RevokedIn did before) :
    ∀ e ∈ later, e.2.issuedTo ≠ some did := by
  induction hc generalizing later with
  | nil =>
    obtain ⟨rfl, rfl⟩ := List.nil_eq_append_iff.mp hh
    simp
  | @snoc h s s' c a hchain heffect ih =>
    rcases List.eq_nil_or_concat later with rfl | ⟨later', e, rfl⟩
    · simp
    · rw [← List.concat_eq_append, List.append_concat, List.concat_inj] at hh
      obtain ⟨rfl, rfl⟩ := hh
      have hstill : RevokedIn did (before ++ later') := by
        obtain ⟨e, hmem, hrevokes⟩ := hin
        exact ⟨e, List.mem_append_left _ hmem, hrevokes⟩
      intro e he
      rw [List.concat_eq_append, List.mem_append, List.mem_singleton] at he
      rcases he with hold | rfl
      · exact ih rfl e hold
      · exact fun hissued ↦ heffect.issued hissued (revoked_of_revokedIn hchain hstill)

/-- **Authentication finds no revoked identity.** -/
theorem serveIdentity_guarded (c : IdentityCall) :
    (serveIdentity out sha256Hex c).Guarded (·.Revoked did) (fun _ _ _ ↦ True)
      (fun a _ ↦ ∀ c, a = .caller c → c.did ≠ did) (fun a _ ↦ ∀ c, a = .caller c → c.did ≠ did)
      none := by
  cases c with
  | authenticate req =>
    refine (Program.guarded_bind _ _).mpr (callerDid_guarded ?_ ?_)
    · rintro read pick u d hrevoked hfound l _ ⟨⟩
      exact hrevoked.ne_of_activeUser? hfound
    · intro read pick u d keyId m signed hrevoked hfound
      refine Program.guarded_of_forall _ (fun _ _ ↦ ?_) (fun _ _ ↦ ?_)
      · rintro _ ⟨⟩
        exact hrevoked.ne_of_activeUser? hfound
      · rintro _ ⟨⟩
        exact hrevoked.ne_of_activeUser? hfound
  | _ =>
    -- no other request authenticates anybody
    refine (Program.guarded_bind _ _).mpr (Program.guarded_of_forall _ (fun _ _ ↦ ?_) fun _ _ ↦ ?_)
    · rintro _ ⟨⟩
    · rintro _ ⟨⟩

/-- Interleavings of identity requests are serial histories. -/
theorem identity_chain {σ : IdentityServer} (hst : Documented st)
    (h : Serving.Reachable (serveIdentity out sha256Hex) (fun _ _ _ _ ↦ True) st σ) :
    Chain (fun _ c s a s' ↦ IdentityEffect c s a s') st σ.history σ.world.committed :=
  (h.relying (P := KeepsIdentities) (G := fun _ c s a s' ↦ IdentityEffect c s a s') hst
    (fun heffect ↦ heffect.evolution.keepsIdentities) .refl .trans serveIdentity_owes).1.chain

end After

/-- **Revocation is terminal.** In any interleaving of the statements of authentications,
rotations, registrations, document updates, exchanges of agent tokens and revocations, from the
commit of a revocation on: no commit gives tokens to the identity; its user and its document are
revoked; it does not exist for `_user_exists`, nor its document for
`_resolve_did_document_for_proof`; and no request that starts from there is authenticated as it. -/
theorem revocation_is_terminal {out : IdentityOutside} {sha256Hex : String → String} {st : Store}
    {σ σ' : IdentityServer} {did : String} (hst : Documented st)
    (h : Serving.Reachable (serveIdentity out sha256Hex) (fun _ _ _ _ ↦ True) st σ)
    (hrevoked : RevokedIn did σ.history)
    (hlater : Runs.Reaches (Serving.Step (serveIdentity out sha256Hex)) σ σ') :
    (∃ later, σ'.history = σ.history ++ later ∧ ∀ e ∈ later, e.2.issuedTo ≠ some did) ∧
    σ'.world.committed.Revoked did ∧
    userExists σ'.world.committed did = false ∧
    (∀ req, resolveDidDocumentForProof σ'.world.committed req did =
      resolveDidDocumentForProof { σ'.world.committed with didDocuments := [] } req did) ∧
    ∀ i, σ.world.running i = none → ∀ c, σ'.world.running i = some (.ret (.caller c)) →
      c.did ≠ did := by
  have hlater' := Serving.reachesWith_of_reaches hlater
  have hchain := identity_chain hst (h.trans hlater')
  obtain ⟨later, hhistory⟩ := Serving.history_prefix hlater
  have hnow : σ.world.committed.Revoked did := revoked_of_revokedIn (identity_chain hst h) hrevoked
  have hstill : RevokedIn did σ'.history := by
    obtain ⟨e, hmem, hrevokes⟩ := hrevoked
    exact ⟨e, hhistory ▸ List.mem_append_left _ hmem, hrevokes⟩
  have hthen := revoked_of_revokedIn hchain hstill
  refine ⟨⟨later, hhistory.symm, issuedTo_ne_of_revokedIn hchain hhistory.symm hrevoked⟩, hthen,
    hthen.userExists, hthen.resolveDidDocumentForProof, fun i hidle c hret ↦ ?_⟩
  obtain ⟨-, hpost⟩ := h.started_later (P := KeepsIdentities)
    (G := fun _ c s a s' ↦ IdentityEffect c s a s') (K := fun s ↦ s.Revoked did) hst
    (fun heffect ↦ heffect.evolution.keepsIdentities) .refl .trans serveIdentity_owes
    (fun hkeeps ↦ hkeeps.revoked did) hnow hidle serveIdentity_guarded hlater'
  obtain ⟨r, -, ⟨-, hne⟩ | hne⟩ := hpost hret
  · exact hne c rfl
  · exact hne c rfl

/-! ### Alice is revoked, and comes back -/

/-- The server once Alice's revocation has committed. -/
def afterRevocation : IdentityServer :=
  (Serving.idle sampleIdentities).runAll (serveIdentity .sample id)
    (.start 0 (.revoke (.sample [] "0") alice) :: List.replicate 4 (.advance 0))

/-- A refresh of hers, and a request with her access token. -/
def afterReturn : IdentityServer :=
  afterRevocation.runAll (serveIdentity .sample id)
    (.start 1 (.rotate (aliceRefresh "1")) ::
      .start 2 (.authenticate
        { IdentityRequest.sample [] "2" with authorization := .bearer "tok_0" }) ::
      List.replicate 4 (.advance 1) ++ [.advance 2])

/-- Alice has a document. -/
theorem sampleIdentities_documented : Documented sampleIdentities := by
  intro u hu
  obtain rfl := List.mem_singleton.mp hu
  exact ⟨_, List.mem_singleton_self _, rfl⟩

/-- Her revocation has committed. -/
theorem alice_revokedIn : RevokedIn alice afterRevocation.history := by
  unfold RevokedIn
  decide +kernel

/-- She is let in no more. -/
theorem revocation_is_terminal_for_alice :
    afterRevocation.history.length = 1 ∧ userExists afterReturn.world.committed alice = false ∧
      ∃ later, afterReturn.history = afterRevocation.history ++ later ∧
        ∀ e ∈ later, e.2.issuedTo ≠ some alice := by
  obtain ⟨hlater, -, hexists, -⟩ := revocation_is_terminal sampleIdentities_documented
    (Serving.reachable_schedule _ (.refl _ _) _) alice_revokedIn
    (Serving.reaches_runAll afterRevocation _ : Runs.Reaches _ afterRevocation afterReturn)
  exact ⟨by decide +kernel, hexists, hlater⟩

end Awiki
