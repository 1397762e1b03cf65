import AwikiOpenServer.Messaging.Snapshots
import AwikiOpenServer.Messaging.SnapshotBudget

/-!
# Going through a snapshot session

A session is issued once and never changed, so what a client finds on its pages does not depend on
the store any more. The pages are linked by position and looked up by the value of their reference;
both agree because **no two references are equal**: the position is part of what is signed, and so
is the hash of the recovery id.

The client of this module is `traverse`: it asks for the first page, then for each `next_page_ref`,
every time with another request and in another store.

## What is assumed of the hashes

`SnapshotKeys.Distinct` says that the HMAC over the claims of a page, the hash of a token and the
digest of a text are different for different inputs. This is all that is asked of them: that nobody
can compute them without the key is no part of the statement, since it is about what is presented.

## Issuing and serving

* **Issuing.** `Issues` is one successful call of `_issue_snapshot_recovery`, and `IssuedSession`
  what is known of its row: the pages are signed for their positions, linked, and hold the sections
  of the package (`SignedFrom.sectionItems_eq`). To put a package together is to draw references of
  conversations, and nothing else is written before the row (`Draws`, `OnlyRefs`).
* **Serving.** `syncSnapshot_ok` answers every request of the owner with its page, in any store that
  still has the session; `syncSnapshot_eq_ok` goes the other way, and is what the refusals rest on:
  an answer comes from a session bound to the subject, with the token and the reference presented.
* **Going through.** `traverse_linked` is the induction along the pages, and
  `snapshot_session_traversal` puts the three together: the client sees every page once and in
  order, a page asked for again is the same, and no other subject, token or reference is served.

The session may not expire on the way (`OwnerCall`). The stores of the calls are related by one
fact, that no statement changes or deletes a session (`KeepsSessions`).
-/

namespace Awiki

open Py

/-! ### Hashes -/

/-- **Distinct inputs have distinct hashes**: the HMAC over the claims of a page, the hash of a
token, and the digest of a text. A reference is the encoding of a digest, so it is not empty. -/
structure SnapshotKeys.Distinct (keys : SnapshotKeys) (digest : Json → Result String) : Prop where
  pageRef : ∀ {r q e r' q' e' : String} {p p' : ℕ},
    keys.signPageRef (pageClaims r q e p) = keys.signPageRef (pageClaims r' q' e' p') →
      r = r' ∧ p = p'
  pageRef_ne : ∀ claims, keys.signPageRef claims ≠ ""
  token : Function.Injective keys.tokenHash
  text : ∀ {a b t : String}, digest (.str a) = .ok t → digest (.str b) = .ok t → a = b

/-! ### The pages of a session -/

/-- A page at a position, signed for a session. -/
structure SignedAt (keys : SnapshotKeys) (digest : Json → Result String) (recoveryId : String)
    (position : ℕ) (page : SnapshotPage) : Prop where
  claims : ∃ r q e, digest (.str recoveryId) = .ok r ∧ page.claims = pageClaims r q e position
  pageRef : page.pageRef = keys.signPageRef page.claims

/-- **Linked pages**: each names the next one, and the last one none. -/
inductive Linked : List SnapshotPage → Prop where
  | last {page : SnapshotPage} (hnext : page.nextPageRef = none) : Linked [page]
  | cons {page next : SnapshotPage} {rest : List SnapshotPage}
      (hnext : page.nextPageRef = some next.pageRef) (hrest : Linked (next :: rest)) :
      Linked (page :: next :: rest)

/-- There is a first page. -/
theorem Linked.exists_head {pages : List SnapshotPage} (h : Linked pages) :
    ∃ first, pages.head? = some first := by
  cases h with
  | last _ => exact ⟨_, rfl⟩
  | cons _ _ => exact ⟨_, rfl⟩

/-- The items of a section, collected from documents of pages in order. -/
def sectionItems (pages : List Obj) (name : SnapshotSection) : List Json :=
  (pages.filter fun p ↦ (p.get "section").isStr name.text).flatMap fun p ↦
    (p.get "items").arr?.getD []

section Pages

variable {keys : SnapshotKeys} {outside : Outside} {b : SessionBinding} {position : ℕ}
  {decorated : List DecoratedPage} {signed : List SnapshotPage}

/-- Decorating leaves the pages as they are. -/
theorem decoratePages_eq_ok {pages : List Page} (h : decoratePages outside pages = .ok decorated) :
    decorated.map DecoratedPage.page = pages := by
  induction pages generalizing decorated with
  | nil => rw [← Except.ok.inj h, List.map_nil]
  | cons page rest ih =>
    obtain ⟨digest, -, h⟩ := bind_eq_ok.mp h
    obtain ⟨more, hmore, h⟩ := bind_eq_ok.mp h
    obtain rfl := pure_eq_ok.mp h
    rw [List.map_cons, ih hmore]

/-- What the signing loop makes of a list of pages, from a position on, and the linking loop of
that. -/
inductive SignedFrom (keys : SnapshotKeys) (digest : Json → Result String) (recoveryId : String) :
    ℕ → List DecoratedPage → List SnapshotPage → Prop where
  | nil {position : ℕ} : SignedFrom keys digest recoveryId position [] []
  | cons {position : ℕ} {d : DecoratedPage} {page : SnapshotPage} {rest : List DecoratedPage}
      {more : List SnapshotPage} (hsigned : SignedAt keys digest recoveryId position page)
      (hsection : page.sectionName = d.page.name.text) (hitems : page.items = d.page.items)
      (hmore : page.hasMore = !rest.isEmpty)
      (hrest : SignedFrom keys digest recoveryId (position + 1) rest more) :
      SignedFrom keys digest recoveryId position (d :: rest) (page :: more)

/-- **The signing loop** signs every page for its position. -/
theorem signPages_eq_ok (h : signPages keys outside b position decorated = .ok signed) :
    SignedFrom keys outside.sha256Digest b.recoveryId position decorated signed := by
  induction decorated generalizing position signed with
  | nil =>
    obtain rfl := Except.ok.inj h
    exact .nil
  | cons d rest ih =>
    obtain ⟨claims, hclaims, h⟩ := bind_eq_ok.mp h
    obtain ⟨more, hmore, h⟩ := bind_eq_ok.mp h
    obtain rfl := pure_eq_ok.mp h
    obtain ⟨resourceHash, hresource, hclaims⟩ := bind_eq_ok.mp hclaims
    obtain ⟨queryHash, -, hclaims⟩ := bind_eq_ok.mp hclaims
    obtain rfl := pure_eq_ok.mp hclaims
    exact .cons ⟨⟨_, _, _, hresource, rfl⟩, rfl⟩ rfl rfl rfl (ih hmore)

variable {digest : Json → Result String} {recoveryId : String} {pages : List SnapshotPage}

namespace SignedFrom

/-- Linking leaves what is signed as it is. -/
theorem linkPages (h : SignedFrom keys digest recoveryId position decorated pages) :
    SignedFrom keys digest recoveryId position decorated (linkPages pages) := by
  induction h with
  | nil => exact .nil
  | cons hsigned hsection hitems hmore _ ih =>
    exact .cons ⟨hsigned.claims, hsigned.pageRef⟩ hsection hitems hmore ih

/-- Pages that were signed are linked. -/
theorem linked (h : SignedFrom keys digest recoveryId position decorated pages)
    (hne : decorated ≠ []) : Linked (Awiki.linkPages pages) := by
  induction h with
  | nil => exact absurd rfl hne
  | cons hsigned hsection hitems hmore hrest ih =>
    cases hrest with
    | nil => exact .last (if_neg (by rw [hmore]; decide))
    | cons hsigned' hsection' hitems' hmore' hrest' =>
      exact .cons (if_pos hmore) (ih (by simp))

/-- Every page is signed for a position. -/
theorem mem (h : SignedFrom keys digest recoveryId position decorated pages) {page : SnapshotPage}
    (hpage : page ∈ pages) : ∃ n, position ≤ n ∧ SignedAt keys digest recoveryId n page := by
  induction h with
  | nil => cases hpage
  | cons hsigned _ _ _ _ ih =>
    rcases List.mem_cons.mp hpage with rfl | hpage
    · exact ⟨_, le_rfl, hsigned⟩
    · obtain ⟨n, hn, hat⟩ := ih hpage
      exact ⟨n, by omega, hat⟩

/-- As many pages as there were. -/
theorem length_eq (h : SignedFrom keys digest recoveryId position decorated pages) :
    pages.length = decorated.length := by
  induction h with
  | nil => rfl
  | cons _ _ _ _ _ ih => rw [List.length_cons, ih, List.length_cons]

end SignedFrom

/-- References tell sessions and positions apart. -/
theorem SnapshotKeys.Distinct.signedAt_inj (hkeys : keys.Distinct digest) {recoveryId' : String}
    {n n' : ℕ} {page page' : SnapshotPage} (h : SignedAt keys digest recoveryId n page)
    (h' : SignedAt keys digest recoveryId' n' page') (href : page.pageRef = page'.pageRef) :
    recoveryId = recoveryId' ∧ n = n' := by
  obtain ⟨r, q, e, hr, hclaims⟩ := h.claims
  obtain ⟨r', q', e', hr', hclaims'⟩ := h'.claims
  rw [h.pageRef, h'.pageRef, hclaims, hclaims'] at href
  obtain ⟨rfl, rfl⟩ := hkeys.pageRef href
  exact ⟨hkeys.text hr hr', rfl⟩

/-- **No two pages of a session have the same reference.** -/
theorem SignedFrom.keyed (h : SignedFrom keys digest recoveryId position decorated pages)
    (hkeys : keys.Distinct digest) : Table.Keyed SnapshotPage.pageRef pages := by
  induction h with
  | nil => exact List.nodup_nil
  | cons hsigned _ _ _ hrest ih =>
    rw [Table.Keyed, List.map_cons, List.nodup_cons]
    refine ⟨fun hmem ↦ ?_, ih⟩
    obtain ⟨page', hpage', href⟩ := List.mem_map.mp hmem
    obtain ⟨n, hn, hat⟩ := hrest.mem hpage'
    have heq := (hkeys.signedAt_inj hat hsigned href).2
    omega

/-- The sections are found again on the documents of the pages. -/
theorem SignedFrom.sectionItems_eq (h : SignedFrom keys digest recoveryId position decorated pages)
    (name : SnapshotSection) :
    sectionItems (pages.map SnapshotPage.document) name =
      (collected (decorated.map DecoratedPage.page) name).map Json.obj := by
  induction h with
  | nil => rfl
  | @cons _ d page _ _ _ hsection hitems _ _ ih =>
    have htext : ((page.document.get "section").isStr name.text) = decide (d.page.name = name) := by
      rw [show page.document.get "section" = .str page.sectionName from rfl, hsection,
        Json.isStr_str, decide_eq_decide]
      cases d.page.name <;> cases name <;> decide
    have harr : (page.document.get "items").arr?.getD [] = d.page.items.map Json.obj := by
      rw [← hitems]
      rfl
    unfold sectionItems collected at ih ⊢
    rw [List.map_cons, List.map_cons, List.filter_cons, List.filter_cons, htext]
    cases decide (d.page.name = name) with
    | true =>
      rw [if_pos rfl, if_pos rfl, List.flatMap_cons, List.flatMap_cons, List.map_append, ih, harr]
    | false =>
      rw [if_neg (by simp), if_neg (by simp), ih]

end Pages

/-! ### Issuing -/

/-- One call of `_issue_snapshot_recovery`. -/
structure IssueCall where
  settings : Settings
  store : Store
  req : DeviceRequest
  subject : SyncSubject
  clientInstanceId : String
  epoch : String
  highest : ℕ

/-- The token handed to the client. -/
def IssueCall.token (c : IssueCall) : String := c.req.outside.newRecoveryToken

/-- **The call issued this session**: the row it has added. -/
structure Issues (keys : SnapshotKeys) (c : IssueCall) (answer : Obj) (st : Store)
    (session : SnapshotSession) : Prop where
  ok : issueSnapshotRecovery keys c.settings c.store c.req c.subject c.clientInstanceId c.epoch
    c.highest = .ok (answer, st)
  row : st.syncSnapshotSessions = c.store.syncSnapshotSessions ++ [session]

/-- What is known of an issued session. -/
structure IssuedSession (keys : SnapshotKeys) (c : IssueCall) (session : SnapshotSession)
    (package : Sections) : Prop where
  recoveryId : session.recoveryId ≠ ""
  fresh : ∀ other ∈ c.store.syncSnapshotSessions, other.recoveryId ≠ session.recoveryId
  boundTo : ∀ s, session.boundTo s = true ↔ s = c.subject
  tokenHash : session.tokenHash = keys.tokenHash c.token
  frozen : session.package = package.document
  itemCount : ∀ name, manifestItemCount session.manifest name = .int (package name).length
  manifestDigest : session.manifest.has "manifest_digest" = true
  linked : Linked session.pages
  signed : ∃ decorated, SignedFrom keys c.req.outside.sha256Digest session.recoveryId 0 decorated
    session.pages ∧ ∀ name, collected (decorated.map DecoratedPage.page) name = package name

/-- Nothing but references has changed. -/
def OnlyRefs (st st' : Store) : Prop := ∃ rows, st' = { st with directConversationRefs := rows }

/-- References have been drawn, one after the other. -/
def Draws (outside : Outside) : Store → Store → Prop :=
  Relation.ReflTransGen fun st st' ↦ ∃ owner peer key, conversationRef outside st owner peer =
    .ok (key, st')

namespace Draws

/-- Nothing has been drawn. -/
theorem refl {outside : Outside} (st : Store) : Draws outside st st :=
  Relation.ReflTransGen.refl

/-- First the one, then the other. -/
theorem trans {outside : Outside} {a b c : Store} (hab : Draws outside a b)
    (hbc : Draws outside b c) : Draws outside a c :=
  Relation.ReflTransGen.trans hab hbc

variable {st st' : Store} {outside : Outside} {owner : String} {req : DeviceRequest}

/-- A look-up draws one at most. -/
theorem conversationRef {peer key : String}
    (h : conversationRef outside st owner peer = .ok (key, st')) : Draws outside st st' :=
  .single ⟨owner, peer, key, h⟩

/-- To draw references changes nothing else. -/
theorem onlyRefs (h : Draws outside st st') : OnlyRefs st st' := by
  induction h with
  | refl => exact ⟨_, rfl⟩
  | tail _ hlast ih =>
    obtain ⟨_, rfl⟩ := ih
    obtain ⟨owner, peer, key, hkey⟩ := hlast
    obtain ⟨rows, -, rfl⟩ := conversationRef_eq_ok hkey
    exact ⟨rows, rfl⟩

/-- The wire form of a watermark draws the one it names. -/
theorem readStateDto {row : ThreadReadState} {dto : Obj}
    (h : readStateDto outside st owner row = .ok (dto, st')) : Draws outside st st' := by
  unfold Awiki.readStateDto at h
  dsimp only at h
  split at h
  · obtain ⟨⟨key, st₁⟩, hkey, h⟩ := bind_eq_ok.mp h
    obtain ⟨-, rfl⟩ := Prod.mk.inj (pure_eq_ok.mp h)
    exact conversationRef hkey
  · obtain ⟨-, rfl⟩ := Prod.mk.inj (pure_eq_ok.mp h)
    exact refl st

/-- Those of all watermarks draw theirs. -/
theorem readStateDtos {rows : List ThreadReadState} {dtos : List Obj}
    (h : readStateDtos outside owner rows st = .ok (dtos, st')) : Draws outside st st' := by
  induction rows generalizing st dtos with
  | nil =>
    obtain ⟨-, rfl⟩ := Prod.mk.inj (Except.ok.inj h)
    exact refl st
  | cons row rest ih =>
    obtain ⟨⟨dto, st₁⟩, hdto, h⟩ := bind_eq_ok.mp h
    obtain ⟨⟨more, st₂⟩, hmore, h⟩ := bind_eq_ok.mp h
    obtain ⟨-, rfl⟩ := Prod.mk.inj (pure_eq_ok.mp h)
    exact (readStateDto hdto).trans (ih hmore)

/-- So does a rendered event, -/
theorem syncV2Event {row : SyncEvent} {accountId epoch : String} {e : SyncV2Event}
    (h : syncV2Event outside st row owner accountId epoch = .ok (e, st')) :
    Draws outside st st' := by
  have hmap : ∀ {x : Result SyncV2Branch} {branch st₁},
      (x.map fun b ↦ (b, st)) = .ok (branch, st₁) → st₁ = st := by
    intro x branch st₁ hx
    cases x with
    | error e => cases hx
    | ok b => exact (Prod.mk.inj (Except.ok.inj hx)).2.symm
  obtain ⟨⟨branch, st₁⟩, hbranch, h⟩ := bind_eq_ok.mp h
  obtain ⟨-, rfl⟩ := Prod.mk.inj (pure_eq_ok.mp h)
  unfold syncV2Branch at hbranch
  split at hbranch
  · unfold messageBranch at hbranch
    dsimp only at hbranch
    split at hbranch
    · exact (Prod.mk.inj (Except.ok.inj hbranch)).2 ▸ refl st
    · obtain ⟨⟨key, st₂⟩, hkey, hbranch⟩ := bind_eq_ok.mp hbranch
      exact (Prod.mk.inj (pure_eq_ok.mp hbranch)).2 ▸ conversationRef hkey
  · split at hbranch
    · obtain rfl := hmap hbranch
      exact refl _
    · split at hbranch
      · obtain rfl := hmap hbranch
        exact refl _
      · exact (Prod.mk.inj (Except.ok.inj hbranch)).2 ▸ refl st

/-- a message that is looked up, -/
theorem hydratedSyncV2Message {messageId : String} {groupDid : Option Json} {message : Option Obj}
    (h : hydratedSyncV2Message req st owner messageId groupDid = .ok (message, st')) :
    Draws req.outside st st' := by
  unfold Awiki.hydratedSyncV2Message at h
  split at h
  · split at h
    · obtain ⟨⟨m, st₁⟩, hm, h⟩ := bind_eq_ok.mp h
      obtain ⟨-, rfl⟩ := Prod.mk.inj (pure_eq_ok.mp h)
      obtain ⟨⟨key, st₂⟩, hkey, hm⟩ := bind_eq_ok.mp hm
      obtain ⟨-, rfl⟩ := Prod.mk.inj (pure_eq_ok.mp hm)
      exact conversationRef hkey
    · exact (Prod.mk.inj (Except.ok.inj h)).2 ▸ refl st
  · split at h
    · obtain ⟨text, -, h⟩ := bind_eq_ok.mp h
      split at h
      · exact (Prod.mk.inj (pure_eq_ok.mp h)).2 ▸ refl st
      · exact (Prod.mk.inj (pure_eq_ok.mp h)).2 ▸ refl st
    · exact (Prod.mk.inj (Except.ok.inj h)).2 ▸ refl st

/-- a recent message, -/
theorem recentPlainMessage {s : SyncSubject} {epoch cutoff : String} {row : SyncEvent}
    {item : Option Obj} (h : recentPlainMessage req st s epoch cutoff row = .ok (item, st')) :
    Draws req.outside st st' := by
  obtain ⟨⟨event, st₁⟩, hevent, h⟩ := bind_eq_ok.mp h
  refine (syncV2Event hevent).trans ?_
  dsimp only at h
  split at h
  · exact (Prod.mk.inj (pure_eq_ok.mp h)).2 ▸ refl st₁
  · obtain ⟨⟨message, st₂⟩, hmessage, h⟩ := bind_eq_ok.mp h
    exact (Prod.mk.inj (pure_eq_ok.mp h)).2 ▸ hydratedSyncV2Message hmessage

/-- and the loop over all of them. -/
theorem recentPlainMessages {s : SyncSubject} {epoch cutoff : String} {rows : List SyncEvent}
    {items : List Obj} (h : recentPlainMessages req s epoch cutoff rows st = .ok (items, st')) :
    Draws req.outside st st' := by
  induction rows generalizing st items with
  | nil =>
    obtain ⟨-, rfl⟩ := Prod.mk.inj (Except.ok.inj h)
    exact refl st
  | cons row rest ih =>
    obtain ⟨⟨item, st₁⟩, hitem, h⟩ := bind_eq_ok.mp h
    obtain ⟨⟨more, st₂⟩, hmore, h⟩ := bind_eq_ok.mp h
    obtain ⟨-, rfl⟩ := Prod.mk.inj (pure_eq_ok.mp h)
    exact (recentPlainMessage hitem).trans (ih hmore)

end Draws

section Issuing

variable {keys : SnapshotKeys} {c : IssueCall} {answer : Obj} {st : Store}
  {session : SnapshotSession}

/-- The package draws references and leaves the sessions alone. -/
theorem frozenPackage_eq_ok {settings : Settings} {st st' : Store} {req : DeviceRequest}
    {s : SyncSubject} {epoch cutoff : String} {highest : ℕ} {package : Sections}
    {budget : RecoveryBudget} {history : HistoryPolicy}
    (h : frozenPackage settings st req s epoch cutoff highest = .ok (package, budget, history,
      st')) :
    package.EncodesWithin req.outside ∧ OnlyRefs st st' := by
  unfold frozenPackage at h
  obtain ⟨⟨readStates, st₁⟩, hread, h⟩ := bind_eq_ok.mp h
  obtain ⟨⟨messages, st₂⟩, hmessages, h⟩ := bind_eq_ok.mp h
  obtain ⟨⟨package', budget', history'⟩, hselect, h⟩ := bind_eq_ok.mp h
  have hresult := pure_eq_ok.mp h
  simp only [Prod.mk.injEq] at hresult
  obtain ⟨rfl, -, -, rfl⟩ := hresult
  exact ⟨selectSnapshotPackage_encodesWithin hselect,
    ((Draws.readStateDtos hread).trans (Draws.recentPlainMessages hmessages)).onlyRefs⟩

/-- The digest of a package is in its manifest. -/
theorem buildManifest_digest {outside : Outside} {frozenAt cutoff : String} {cursor manifest : Obj}
    {package : Sections} {totalPages : ℕ} {budget : RecoveryBudget} {history : HistoryPolicy}
    (h : buildManifest outside frozenAt cursor package totalPages budget history cutoff =
      .ok manifest) : manifest.has "manifest_digest" = true := by
  obtain ⟨sections, -, h⟩ := bind_eq_ok.mp h
  obtain ⟨bytes, -, h⟩ := bind_eq_ok.mp h
  obtain ⟨scanSeq, -, h⟩ := bind_eq_ok.mp h
  obtain ⟨digest, -, h⟩ := bind_eq_ok.mp h
  obtain rfl := pure_eq_ok.mp h
  rfl

/-- What the second half of issuing makes of a package. -/
theorem sessionRow_eq_ok {req : DeviceRequest} {s : SyncSubject}
    {clientInstanceId epoch cutoff recoveryId : String} {highest : ℕ} {package : Sections}
    {budget : RecoveryBudget} {history : HistoryPolicy}
    (hencodes : package.EncodesWithin req.outside)
    (h : sessionRow keys req s clientInstanceId epoch cutoff recoveryId highest package budget
      history = .ok session) :
    session.recoveryId = recoveryId ∧ (∀ s', session.boundTo s' = true ↔ s' = s) ∧
      session.tokenHash = keys.tokenHash req.outside.newRecoveryToken ∧
      session.package = package.document ∧
      (∀ name, manifestItemCount session.manifest name = .int (package name).length) ∧
      session.manifest.has "manifest_digest" = true ∧ Linked session.pages ∧
      ∃ decorated, SignedFrom keys req.outside.sha256Digest recoveryId 0 decorated session.pages ∧
        ∀ name, collected (decorated.map DecoratedPage.page) name = package name := by
  unfold sessionRow at h
  dsimp only at h
  obtain ⟨pages, hpages, h⟩ := bind_eq_ok.mp h
  obtain ⟨decorated, hdecorated, h⟩ := bind_eq_ok.mp h
  obtain ⟨manifest, hmanifest, h⟩ := bind_eq_ok.mp h
  obtain ⟨signed, hsigned, h⟩ := bind_eq_ok.mp h
  obtain rfl := pure_eq_ok.mp h
  obtain ⟨-, hne, hitems⟩ := paginateSections_eq_ok hencodes hpages
  have hfrom := signPages_eq_ok hsigned
  have hcut := decoratePages_eq_ok hdecorated
  have hsome : decorated ≠ [] := by
    rintro rfl
    exact hne hcut.symm
  refine ⟨rfl, fun s' ↦ ?_, rfl, rfl, buildManifest_itemCount hmanifest,
    buildManifest_digest hmanifest, hfrom.linked hsome, decorated, hfrom.linkPages, hcut ▸ hitems⟩
  rw [SnapshotSession.boundTo, decide_eq_true_eq]
  constructor
  · rintro ⟨howner, haccount, hdevice, hgeneration⟩
    obtain ⟨owner, accountId, deviceId, authGeneration⟩ := s'
    dsimp only at howner haccount hdevice hgeneration
    rw [← howner, ← haccount, ← hdevice, ← hgeneration]
  · rintro rfl
    exact ⟨rfl, rfl, rfl, rfl⟩

/-- **What is issued.** -/
theorem Issues.issuedSession (h : Issues keys c answer st session) :
    (∃ package, IssuedSession keys c session package) ∧
      answer.get "recovery" = .obj (recoveryDescriptor session c.token) := by
  have hok := h.ok
  unfold issueSnapshotRecovery at hok
  dsimp only at hok
  obtain ⟨⟨package, budget, history, st₀⟩, hpackage, hok⟩ := bind_eq_ok.mp hok
  obtain ⟨row, hrow, hok⟩ := bind_eq_ok.mp hok
  obtain ⟨sessions, hinsert, hok⟩ := bind_eq_ok.mp hok
  obtain ⟨answer', hanswer, hok⟩ := bind_eq_ok.mp hok
  obtain ⟨rfl, rfl⟩ := Prod.mk.inj (pure_eq_ok.mp hok)
  obtain ⟨hencodes, refs, rfl⟩ := frozenPackage_eq_ok hpackage
  obtain ⟨hfresh, rfl⟩ := Table.insert?_eq_some.mp (orRaise_eq_ok.mp hinsert)
  obtain rfl : row = session := by
    have hlast := List.append_cancel_left h.row
    exact List.head_eq_of_cons_eq hlast
  obtain ⟨hid, hbound, htoken, hfrozen, hcount, hdigest, hlinked, hsigned⟩ :=
    sessionRow_eq_ok hencodes hrow
  refine ⟨⟨package, ?_, hfresh, hbound, htoken, hfrozen, hcount, hdigest, hlinked,
    hid ▸ hsigned⟩, ?_⟩
  · rw [hid]
    exact newId_ne_empty _ _
  · unfold attachStandardBootstrapFields at hanswer
    obtain ⟨_, -, hanswer⟩ := bind_eq_ok.mp hanswer
    obtain rfl := pure_eq_ok.mp hanswer
    rfl

end Issuing

/-! ### Serving -/

/-- No statement changes or deletes a session, so those of `st` are still there. -/
def KeepsSessions (st later : Store) : Prop :=
  st.syncSnapshotSessions <+: later.syncSnapshotSessions

/-- **A request for a page of a session.** -/
structure Presents (req : DeviceRequest) (params : Obj) (s : SyncSubject)
    (recoveryId token : String) (pageRef : Option String) : Prop where
  subject : syncV2Identity req params = .ok s
  names : keysAre (syncBody params)
    (["recovery_id", "token"] ++ (pageRef.map fun _ ↦ "page_ref").toList) = true
  recoveryId : (syncBody params).get "recovery_id" = .str recoveryId
  token : (syncBody params).get "token" = .str token
  pageRef : ∀ ref, pageRef = some ref → (syncBody params).get "page_ref" = .str ref

section Serving

variable {keys : SnapshotKeys} {c : IssueCall} {answer : Obj} {st later : Store}
  {session : SnapshotSession} {package : Sections} {req : DeviceRequest} {params : Obj}

/-- A session is found under its id, whatever has been added since. -/
theorem Issues.row?_later (h : Issues keys c answer st session)
    (hissued : IssuedSession keys c session package) (hlater : KeepsSessions st later) :
    Table.row? SnapshotSession.recoveryId session.recoveryId later.syncSnapshotSessions =
      some session := by
  obtain ⟨more, hmore⟩ := hlater
  rw [← hmore, h.row, Table.row?, List.find?_append, ← Table.row?, Table.row?_append,
    Table.row?_eq_none.mpr hissued.fresh, if_pos rfl]
  rfl

/-- The reference of a request is the one presented. -/
theorem Presents.requestedPageRef_eq {s : SyncSubject} {recoveryId token : String}
    {pageRef : Option String} (h : Presents req params s recoveryId token pageRef)
    (hne : pageRef ≠ some "") : requestedPageRef (syncBody params) = .ok pageRef := by
  cases pageRef with
  | none => exact if_pos h.names
  | some ref =>
    have hnames : keysAre (syncBody params) ["recovery_id", "token", "page_ref"] = true := h.names
    -- The body has a third key, so its keys are not the first two.
    have hnot : keysAre (syncBody params) ["recovery_id", "token"] = false := by
      obtain ⟨-, hhas⟩ := (Bool.and_eq_true _ _).mp hnames
      obtain ⟨v, hv⟩ := Option.isSome_iff_exists.mp (List.all_eq_true.mp hhas "page_ref" (by simp))
      obtain ⟨before, after, heq, -⟩ := List.lookup_eq_some_iff.mp hv
      refine Bool.eq_false_iff.mpr fun htwo ↦ ?_
      have hmem := List.all_eq_true.mp ((Bool.and_eq_true _ _).mp htwo).1 ("page_ref", v)
        (by rw [heq]; simp)
      exact absurd (show ["recovery_id", "token"].contains "page_ref" = true from hmem) (by decide)
    have hfilter : (Json.str ref).str?.filter (fun t ↦ decide (t ≠ "")) = some ref := by
      have hne' : ref ≠ "" := fun heq ↦ hne (congrArg some heq)
      simp [Json.str?, Option.filter, hne']
    rw [requestedPageRef, hnot, if_neg (by simp), if_pos hnames, h.pageRef ref rfl, hfilter]
    rfl

/-- The first page, or the one the reference is of. -/
theorem servedPage_ok (hkeys : keys.Distinct c.req.outside.sha256Digest)
    (hissued : IssuedSession keys c session package) {page : SnapshotPage}
    (hpage : page ∈ session.pages) :
    servedPage keys session (some page.pageRef) = .ok page := by
  obtain ⟨decorated, hsigned, -⟩ := hissued.signed
  obtain ⟨n, -, hat⟩ := hsigned.mem hpage
  have hfound := (hsigned.keyed hkeys).row?_of_mem hpage
  unfold servedPage
  dsimp only
  rw [show (session.pages.find? fun p ↦ decide (p.pageRef = page.pageRef)) = _ from hfound,
    orRaise_some, ok_bind, decide_eq_true hat.pageRef, require_true, ok_bind]
  rfl

/-- **Every request of the owner is answered with its page.** -/
theorem syncSnapshot_ok (h : Issues keys c answer st session)
    (hissued : IssuedSession keys c session package)
    (hlater : KeepsSessions st later) {pageRef : Option String}
    (hpresents : Presents req params c.subject session.recoveryId c.token pageRef)
    (htoken : c.token ≠ "") (hunexpired : req.outside.expired session.expiresAt = false)
    {page : SnapshotPage} (hpage : servedPage keys session pageRef = .ok page)
    (href : pageRef ≠ some "") :
    ∃ result, syncSnapshot keys later req params = .ok result ∧
      result.get "page" = .obj page.document ∧
      (pageRef = none → result.get "manifest" = .obj session.manifest) := by
  have hfilter : ∀ {text : String}, text ≠ "" →
      (Json.str text).str?.filter (fun t ↦ decide (t ≠ "")) = some text := by
    intro text hne
    simp [Json.str?, Option.filter, hne]
  unfold syncSnapshot
  rw [hpresents.subject, ok_bind]
  dsimp only
  rw [hpresents.requestedPageRef_eq href, ok_bind, hpresents.recoveryId, hfilter hissued.recoveryId,
    orRaise_some, ok_bind, hpresents.token, hfilter htoken, orRaise_some, ok_bind,
    h.row?_later hissued hlater, orRaise_some, ok_bind, (hissued.boundTo c.subject).mpr rfl,
    require_true, ok_bind, decide_eq_true hissued.tokenHash, require_true, ok_bind, hunexpired]
  rw [show (!false) = true from rfl, require_true, ok_bind, hpage, ok_bind]
  cases pageRef with
  | none => exact ⟨_, rfl, rfl, fun _ ↦ rfl⟩
  | some ref =>
    obtain ⟨digest, hdigest⟩ := Option.isSome_iff_exists.mp hissued.manifestDigest
    rw [snapshotAnswer, Option.isNone_some, if_neg (by simp), hdigest, orRaise_some, ok_bind]
    exact ⟨_, rfl, rfl, fun hnone ↦ absurd hnone (Option.some_ne_none ref)⟩

/-- What an answer says about the session it comes from. -/
theorem syncSnapshot_eq_ok {result : Obj} (h : syncSnapshot keys later req params = .ok result) :
    ∃ s pageRef recoveryId token session page, syncV2Identity req params = .ok s ∧
      requestedPageRef (syncBody params) = .ok pageRef ∧
      (syncBody params).get "recovery_id" = .str recoveryId ∧
      (syncBody params).get "token" = .str token ∧
      Table.row? SnapshotSession.recoveryId recoveryId later.syncSnapshotSessions = some session ∧
      session.boundTo s = true ∧ session.tokenHash = keys.tokenHash token ∧
      req.outside.expired session.expiresAt = false ∧
      servedPage keys session pageRef = .ok page := by
  have hfilter : ∀ {v : Json} {text : String}, v.str?.filter (fun t ↦ decide (t ≠ "")) = some text →
      v = .str text := by
    intro v text hv
    exact Json.str?_eq_some.mp (Option.eq_some_of_filter_eq_some hv)
  unfold syncSnapshot at h
  obtain ⟨s, hs, h⟩ := bind_eq_ok.mp h
  obtain ⟨pageRef, hpageRef, h⟩ := bind_eq_ok.mp h
  obtain ⟨recoveryId, hrecoveryId, h⟩ := bind_eq_ok.mp h
  obtain ⟨token, htoken, h⟩ := bind_eq_ok.mp h
  obtain ⟨session, hsession, h⟩ := bind_eq_ok.mp h
  obtain ⟨_, hbound, h⟩ := bind_eq_ok.mp h
  obtain ⟨_, hhash, h⟩ := bind_eq_ok.mp h
  obtain ⟨_, hexpired, h⟩ := bind_eq_ok.mp h
  obtain ⟨page, hpage, h⟩ := bind_eq_ok.mp h
  exact ⟨s, pageRef, recoveryId, token, session, page, hs, hpageRef,
    hfilter (orRaise_eq_ok.mp hrecoveryId), hfilter (orRaise_eq_ok.mp htoken),
    orRaise_eq_ok.mp hsession, require_eq_ok.mp hbound,
    of_decide_eq_true (require_eq_ok.mp hhash), by simpa using require_eq_ok.mp hexpired, hpage⟩

end Serving

/-! ### Going through a session -/

/-- One call of the client: the store it is made in, and the parameters it makes of a reference. -/
structure SnapshotCall where
  store : Store
  req : DeviceRequest
  params : Option String → Obj

/-- **The client**: it follows `next_page_ref` and keeps the pages. The fuel also numbers its
calls. -/
def traverse (keys : SnapshotKeys) (calls : ℕ → SnapshotCall) :
    ℕ → Option String → Option (List Obj)
  | 0, _ => none
  | fuel + 1, pageRef =>
    match syncSnapshot keys (calls fuel).store (calls fuel).req ((calls fuel).params pageRef) with
    | .error _ => none
    | .ok result =>
      let page := (result.get "page").obj?.getD []
      match Obj.get page "next_page_ref" with
      | .str next => (traverse keys calls fuel (some next)).map (page :: ·)
      | _ => some [page]

/-- A call of the session's unexpired owner, in a store that still has the session. -/
structure OwnerCall (c : IssueCall) (st : Store) (session : SnapshotSession) (call : SnapshotCall) :
    Prop where
  later : KeepsSessions st call.store
  presents : ∀ pageRef,
    Presents call.req (call.params pageRef) c.subject session.recoveryId c.token pageRef
  unexpired : call.req.outside.expired session.expiresAt = false

section Traversal

variable {keys : SnapshotKeys} {c : IssueCall} {answer : Obj} {st : Store}
  {session : SnapshotSession} {package : Sections} {calls : ℕ → SnapshotCall}

/-- From the page of a reference on, the client sees the pages that follow. -/
theorem traverse_linked (h : Issues keys c answer st session)
    (hissued : IssuedSession keys c session package) (htoken : c.token ≠ "")
    (hcalls : ∀ n, OwnerCall c st session (calls n)) {pages : List SnapshotPage}
    (hlinked : Linked pages) (hserved : ∀ page ∈ pages, page.pageRef ≠ "" ∧
      servedPage keys session (some page.pageRef) = .ok page) {pageRef : Option String}
    (hne : pageRef ≠ some "")
    (hfirst : ∀ first ∈ pages.head?, servedPage keys session pageRef = .ok first) {fuel : ℕ}
    (hfuel : pages.length ≤ fuel) :
    traverse keys calls fuel pageRef = some (pages.map SnapshotPage.document) := by
  have hstep : ∀ {page : SnapshotPage} {pageRef : Option String} (n : ℕ), pageRef ≠ some "" →
      servedPage keys session pageRef = .ok page →
      traverse keys calls (n + 1) pageRef =
        match textOrNull page.nextPageRef with
        | .str next => (traverse keys calls n (some next)).map (page.document :: ·)
        | _ => some [page.document] := by
    intro page pageRef n hne hpage
    obtain ⟨result, hok, hdocument, -⟩ := syncSnapshot_ok h hissued (hcalls n).later
      ((hcalls n).presents pageRef) htoken (hcalls n).unexpired hpage hne
    rw [traverse, hok]
    dsimp only
    rw [hdocument]
    rfl
  -- The induction is on the chain of pages, with a round of fuel for each.
  induction hlinked generalizing pageRef fuel with
  | last hnext =>
    obtain ⟨n, rfl⟩ := Nat.exists_eq_add_of_le' hfuel
    rw [List.length_singleton, hstep n hne (hfirst _ rfl), hnext]
    rfl
  | @cons page next rest hnext hrest ih =>
    obtain ⟨n, rfl⟩ := Nat.exists_eq_add_of_le' (Nat.one_le_of_lt hfuel)
    have hnextServed := hserved next (List.mem_cons_of_mem _ List.mem_cons_self)
    have htail : traverse keys calls n (some next.pageRef) =
        some ((next :: rest).map SnapshotPage.document) := by
      refine ih (fun p hp ↦ hserved p (List.mem_cons_of_mem _ hp))
        (fun heq ↦ hnextServed.1 (Option.some.inj heq)) (fun first hfirst' ↦ ?_) ?_
      · obtain rfl := Option.some.inj hfirst'
        exact hnextServed.2
      · rw [List.length_cons] at hfuel
        omega
    rw [hstep n hne (hfirst _ rfl), hnext]
    show Option.map _ (traverse keys calls n (some next.pageRef)) = _
    rw [htail]
    rfl

end Traversal

/-- **A snapshot session can be gone through, by its owner, and by nobody else.** Whatever happens
to the store after a session was issued:

* a client that follows `next_page_ref` sees every stored page once, in order, and comes to an end;
  the first answer brings the manifest;
* what it has seen of a section is the frozen package, and as much as the manifest says;
* a reference asked for again brings the same page;
* another subject, another token, or a reference of another session brings no page. -/
theorem snapshot_session_traversal {keys : SnapshotKeys} {c : IssueCall} {answer : Obj} {st : Store}
    {session : SnapshotSession} (hkeys : keys.Distinct c.req.outside.sha256Digest)
    (htoken : c.token ≠ "") (h : Issues keys c answer st session) :
    answer.get "recovery" = .obj (recoveryDescriptor session c.token) ∧
    ∃ package : Sections, session.package = package.document ∧
      (∀ calls fuel, (∀ n, OwnerCall c st session (calls n)) → session.pages.length ≤ fuel →
        traverse keys calls fuel none = some (session.pages.map SnapshotPage.document)) ∧
      (session.pages.map SnapshotPage.pageRef).Nodup ∧
      (∀ name, sectionItems (session.pages.map SnapshotPage.document) name =
          (package name).map Json.obj ∧
        manifestItemCount session.manifest name = .int (package name).length) ∧
      (∀ call, OwnerCall c st session call →
        (∃ result, syncSnapshot keys call.store call.req (call.params none) = .ok result ∧
          result.get "manifest" = .obj session.manifest) ∧
        ∀ page ∈ session.pages, ∃ result,
          syncSnapshot keys call.store call.req (call.params (some page.pageRef)) = .ok result ∧
            result.get "page" = .obj page.document) ∧
      ∀ {later req params}, KeepsSessions st later →
        (syncBody params).get "recovery_id" = .str session.recoveryId →
        ((∃ s, syncV2Identity req params = .ok s ∧ s ≠ c.subject) ∨
          (syncBody params).get "token" ≠ .str c.token ∨
          (∃ c' answer' st' other, ∃ page ∈ SnapshotSession.pages other,
            Issues keys c' answer' st' other ∧
            c'.req.outside.sha256Digest = c.req.outside.sha256Digest ∧
            other.recoveryId ≠ session.recoveryId ∧
            requestedPageRef (syncBody params) = .ok (some page.pageRef))) →
        ∀ result, syncSnapshot keys later req params ≠ .ok result := by
  obtain ⟨⟨package, hissued⟩, hanswer⟩ := h.issuedSession
  obtain ⟨decorated, hsigned, hcollected⟩ := hissued.signed
  -- A page that is asked for by its reference is the page that was stored.
  have hserved : ∀ page ∈ session.pages, page.pageRef ≠ "" ∧
      servedPage keys session (some page.pageRef) = .ok page := by
    intro page hpage
    obtain ⟨n, -, hat⟩ := hsigned.mem hpage
    exact ⟨hat.pageRef ▸ hkeys.pageRef_ne _, servedPage_ok hkeys hissued hpage⟩
  have hfirst : ∀ first ∈ session.pages.head?, servedPage keys session none = .ok first := by
    intro first hfirst
    exact congrArg (orRaise _) hfirst
  refine ⟨hanswer, package, hissued.frozen, fun calls fuel hcalls hfuel ↦
    traverse_linked h hissued htoken hcalls hissued.linked hserved (by simp) hfirst hfuel,
    hsigned.keyed hkeys, fun name ↦ ⟨?_, hissued.itemCount name⟩, fun call hcall ↦ ⟨?_, ?_⟩, ?_⟩
  · rw [hsigned.sectionItems_eq, hcollected]
  · obtain ⟨first, hhead⟩ := hissued.linked.exists_head
    obtain ⟨result, hok, -, hmanifest⟩ := syncSnapshot_ok h hissued hcall.later
      (hcall.presents none) htoken hcall.unexpired (hfirst first hhead) (by simp)
    exact ⟨result, hok, hmanifest rfl⟩
  · intro page hpage
    obtain ⟨result, hok, hdocument, -⟩ := syncSnapshot_ok h hissued hcall.later
      (hcall.presents (some page.pageRef)) htoken hcall.unexpired (hserved page hpage).2
      (fun heq ↦ (hserved page hpage).1 (Option.some.inj heq))
    exact ⟨result, hok, hdocument⟩
  · intro later req params hlater hid hwhy result hok
    obtain ⟨s, pageRef, recoveryId, token, found, page, hs, hpageRef, hrecoveryId, htokenIs, hrow,
      hbound, hhash, -, hpage⟩ := syncSnapshot_eq_ok hok
    obtain rfl : session.recoveryId = recoveryId := Json.str.inj (hid.symm.trans hrecoveryId)
    obtain rfl : session = found := Option.some.inj ((h.row?_later hissued hlater).symm.trans hrow)
    -- Three ways to ask for what is not one's own, and the check that each fails at.
    rcases hwhy with ⟨s', hs', hne⟩ | hne | ⟨c', answer', st', other, foreign, hforeign, hother,
      hdigest, hne, href⟩
    · obtain rfl : s = s' := Except.ok.inj (hs.symm.trans hs')
      exact hne ((hissued.boundTo s).mp hbound)
    · rw [hissued.tokenHash] at hhash
      exact hne (hkeys.token hhash ▸ htokenIs)
    · -- The reference would have to be one of this session's, but what it signs is not.
      obtain rfl : pageRef = some foreign.pageRef := Except.ok.inj (hpageRef.symm.trans href)
      obtain ⟨found, hfound, -⟩ := bind_eq_ok.mp hpage
      have hsome := orRaise_eq_ok.mp hfound
      obtain ⟨⟨package', hissued'⟩, -⟩ := hother.issuedSession
      obtain ⟨decorated', hsigned', -⟩ := hissued'.signed
      obtain ⟨n, -, hat⟩ := hsigned.mem (List.mem_of_find?_eq_some hsome)
      obtain ⟨n', -, hat'⟩ := hsigned'.mem hforeign
      rw [hdigest] at hat'
      have hsame : found.pageRef = foreign.pageRef := by simpa using List.find?_some hsome
      exact hne (hkeys.signedAt_inj hat' hat hsame.symm).1

/-! ### A session of two pages -/

/-- A text in a frame that shows where it ends. -/
def framed (s : String) : List Char := (s.toList.flatMap fun c ↦ ['.', c]) ++ ['/']

/-- Where the frame ends, the text does. -/
theorem framed_append_inj {a b : String} {x y : List Char} (h : framed a ++ x = framed b ++ y) :
    a = b ∧ x = y := by
  suffices hall : ∀ a b : List Char, (a.flatMap fun c ↦ ['.', c]) ++ ['/'] ++ x =
      (b.flatMap fun c ↦ ['.', c]) ++ ['/'] ++ y → a = b ∧ x = y by
    obtain ⟨hlist, hrest⟩ := hall a.toList b.toList h
    exact ⟨String.toList_inj.mp hlist, hrest⟩
  intro a
  induction a with
  | nil =>
    intro b h
    cases b with
    | nil => simpa using h
    | cons c b => simp at h
  | cons c a ih =>
    intro b h
    cases b with
    | nil => simp at h
    | cons c' b =>
      simp only [List.flatMap_cons, List.cons_append, List.nil_append, List.cons.injEq,
        true_and] at h
      obtain ⟨hlist, hrest⟩ := ih b h.2
      exact ⟨by rw [h.1, hlist], hrest⟩

/-- References that spell out what they sign. -/
def SnapshotKeys.plain : SnapshotKeys where
  signPageRef claims :=
    let text := fun k ↦ framed ((claims.get k).str?.getD "")
    let position := match claims.get "position" with
      | .int n => n.toNat
      | _ => 0
    String.ofList (text "resource_hash" ++ (text "query_hash" ++ (text "expires_at" ++
      List.replicate position 'p')))
  tokenHash token := "hash:" ++ token

/-- Digests that spell out the texts they are of. -/
def Outside.plain : Outside :=
  { Outside.honest with
    sha256Digest := fun
      | .str s => .ok ("sha256:" ++ s)
      | _ => .ok "sha256:items" }

/-- They do, and so they are distinct. -/
theorem distinct_plain : SnapshotKeys.plain.Distinct Outside.plain.sha256Digest where
  pageRef {r q e r' q' e' p p'} h := by
    have hlist : framed r ++ (framed q ++ (framed e ++ List.replicate p 'p')) =
        framed r' ++ (framed q' ++ (framed e' ++ List.replicate p' 'p')) :=
          String.ofList_injective h
    obtain ⟨hr, hlist⟩ := framed_append_inj hlist
    obtain ⟨-, hlist⟩ := framed_append_inj hlist
    obtain ⟨-, hlist⟩ := framed_append_inj hlist
    exact ⟨hr, by simpa using congrArg List.length hlist⟩
  pageRef_ne claims h := by
    have hlist := congrArg String.toList h
    simp [SnapshotKeys.plain, framed] at hlist
  token := fun a b h ↦ by
    have hlist := congrArg String.toList h
    simpa [SnapshotKeys.plain, String.toList_inj] using hlist
  text {a b t} ha hb := by
    have hlist := congrArg String.toList (Except.ok.inj (ha.trans hb.symm))
    simpa [String.toList_inj] using hlist

/-- Alice is in one group and has read one thread, which makes a package of two sections. -/
def sampleIssue : IssueCall where
  settings := .sample
  store :=
    { groups := [⟨"did:wba:host.example:groups:open", "open", none, "open_join", ""⟩]
      groupMembers := [⟨"did:wba:host.example:groups:open", alice, "member", ""⟩]
      threadReadStates := [⟨alice, "group:did:wba:host.example:groups:open", 1, none, 1, ""⟩] }
  req := { aliceDevice with outside := .plain }
  subject := aliceSubject
  clientInstanceId := "client-1"
  epoch := "1"
  highest := 0

/-- The calls of Alice's client, all in one store. -/
def aliceCalls (st : Store) (recoveryId : String) (_ : ℕ) : SnapshotCall where
  store := st
  req := sampleIssue.req
  params pageRef :=
    [("recovery_id", .str recoveryId), ("token", .str sampleIssue.token)] ++
      (pageRef.map fun ref ↦ ("page_ref", Json.str ref)).toList

/-- The session has two pages. -/
theorem exists_issues_sample :
    ∃ answer st session, Issues .plain sampleIssue answer st session ∧
      session.pages.length = 2 := by
  have hrun : (issueSnapshotRecovery .plain sampleIssue.settings sampleIssue.store sampleIssue.req
      sampleIssue.subject sampleIssue.clientInstanceId sampleIssue.epoch
      sampleIssue.highest).toOption.map (fun r ↦
        r.2.syncSnapshotSessions.map fun session ↦ session.pages.length) = some [2] := by
    decide +kernel
  cases hok : issueSnapshotRecovery .plain sampleIssue.settings sampleIssue.store sampleIssue.req
      sampleIssue.subject sampleIssue.clientInstanceId sampleIssue.epoch sampleIssue.highest with
  | error e =>
    rw [hok] at hrun
    cases hrun
  | ok r =>
    rw [hok] at hrun
    obtain ⟨session, hsessions, hlength⟩ := List.map_eq_singleton_iff.mp (Option.some.inj hrun)
    exact ⟨r.1, r.2, session, ⟨hok, hsessions⟩, hlength⟩

/-- They are calls of its owner. -/
theorem aliceCalls_ownerCall (st : Store) (session : SnapshotSession) (n : ℕ) :
    OwnerCall sampleIssue st session (aliceCalls st session.recoveryId n) := by
  refine ⟨List.prefix_refl _, fun pageRef ↦ ?_, rfl⟩
  cases pageRef with
  | none => exact ⟨rfl, rfl, rfl, rfl, fun _ h ↦ nomatch h⟩
  | some ref =>
    refine ⟨rfl, rfl, rfl, rfl, fun ref' h ↦ ?_⟩
    rw [← Option.some.inj h]
    rfl

/-- Alice's client sees the two pages. -/
theorem snapshot_session_traversal_two_pages :
    ∃ answer st session, Issues .plain sampleIssue answer st session ∧ session.pages.length = 2 ∧
      traverse .plain (aliceCalls st session.recoveryId) 2 none =
        some (session.pages.map SnapshotPage.document) := by
  obtain ⟨answer, st, session, hissues, hlength⟩ := exists_issues_sample
  obtain ⟨-, package, -, htraverse, -⟩ :=
    snapshot_session_traversal distinct_plain (by decide) hissues
  exact ⟨answer, st, session, hissues, hlength,
    htraverse _ 2 (aliceCalls_ownerCall st session) hlength.le⟩

end Awiki
