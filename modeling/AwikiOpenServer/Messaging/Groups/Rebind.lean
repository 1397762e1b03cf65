import AwikiOpenServer.Messaging.Groups.Routing

/-!
# A forwarded rebind at the Home

The Host has rebound a member and answers with its receipt. The Home moves what it holds for the
previous DID, in three tables, to the new one, by updates of the owner column. Their keys include
that column, and the new DID may own rows from a membership of its own.

The move succeeds and moves everything exactly when nothing stands where a row is to go
(`Rebindable`). The updates do not look before: a row in the way is a constraint that fails.

## Three updates

Each of `moveView`, `moveMemberViews` and `moveMessageViews` is one `UPDATE` of an owner column, and
for each there is an equivalence: it succeeds exactly when no key it makes is taken by a row that
stays, and then the table is the old one with its rows renamed. Where the two DIDs are the same the
update writes every row back and nothing can be in its way, so the conditions treat that case apart.

The view is moved first, and its time comes from the receipt in the answer; the source reads it only
if there is a view, and so the condition asks for it only then. When the answer and the command name
no DIDs to move between, nothing is done at all.

## The statement

`ProjectionMoved` says what it means that the projection has moved: everything the previous DID had
in the group is now the new one's, with the same contents, the previous DID holds nothing any more,
and all other rows are as they were. `Rebindable` is a condition on the state before and on the two
DIDs, and `rebind_moves_projection_iff` is the equivalence, for every answer that passes the checks
of a receipt.
-/

namespace Awiki

open Py

/-! ### The rows of a DID in a group -/

/-- The row is of the owner and the group. -/
def GroupView.isOf (owner group : String) (v : GroupView) : Bool :=
  decide (v.ownerDid = owner ∧ v.groupDid = group)

/-- Likewise in the roster, -/
def GroupMemberView.isOf (owner group : String) (r : GroupMemberView) : Bool :=
  decide (r.ownerDid = owner ∧ r.groupDid = group)

/-- and among the messages. -/
def GroupMessageView.isOf (owner group : String) (r : GroupMessageView) : Bool :=
  decide (r.ownerDid = owner ∧ r.groupDid = group)

/-- The store has nothing of a group for the DID. -/
structure Store.HoldsNothing (st : Store) (owner group : String) : Prop where
  views : ∀ v ∈ st.groupViews, v.isOf owner group = false
  roster : ∀ r ∈ st.groupMemberViews, r.isOf owner group = false
  messages : ∀ r ∈ st.groupMessageViews, r.isOf owner group = false

/-- **The projection of a group has moved from one DID to the other**: every row has arrived, the
view with the time of the move, none is left, and nothing else has changed. -/
structure ProjectionMoved (previous new group : String) (st st' : Store) : Prop where
  views : Table.MovedTo (GroupView.isOf previous group) (GroupView.isOf new group)
    (fun v v' ↦ ∃ time, v' = { v with ownerDid := new, updatedAt := time })
    st.groupViews st'.groupViews
  roster : Table.MovedTo (GroupMemberView.isOf previous group) (GroupMemberView.isOf new group)
    (fun r r' ↦ r' = { r with ownerDid := new }) st.groupMemberViews st'.groupMemberViews
  messages : Table.MovedTo (GroupMessageView.isOf previous group) (GroupMessageView.isOf new group)
    (fun r r' ↦ r' = { r with ownerDid := new }) st.groupMessageViews st'.groupMessageViews
  rest : st' = { st with
    groupViews := st'.groupViews
    groupMemberViews := st'.groupMemberViews
    groupMessageViews := st'.groupMessageViews }

/-- **No row of the new DID stands where one is to go**: no view next to a view, nobody listed
twice, no message or sequence number twice. -/
structure NothingInTheWay (previous new group : String) (st : Store) : Prop where
  view : ∀ v ∈ st.groupViews, v.isOf previous group = true →
    ∀ v' ∈ st.groupViews, v'.isOf new group = false
  roster : ∀ r ∈ st.groupMemberViews, r.isOf previous group = true →
    ∀ r' ∈ st.groupMemberViews, r'.isOf new group = true → r'.agentDid ≠ r.agentDid
  messages : ∀ r ∈ st.groupMessageViews, r.isOf previous group = true →
    ∀ r' ∈ st.groupMessageViews, r'.isOf new group = true →
      r'.messageId ≠ r.messageId ∧ r'.groupEventSeq ≠ r.groupEventSeq

/-! ### The three updates -/

section Updates

variable {st st' : Store} {previous new group : String}

/-- There is no view where no row is of the owner. -/
theorem groupView?_eq_none :
    st.groupView? previous group = none ↔ ∀ v ∈ st.groupViews, v.isOf previous group = false := by
  simp [Store.groupView?, Table.row?_eq_none, GroupView.key, GroupView.isOf]

/-- The row of a key is the row of its owner. -/
theorem isOf_key : (fun v : GroupView ↦ decide (v.key = (previous, group))) =
    GroupView.isOf previous group := by
  funext v
  simp [GroupView.key, GroupView.isOf]

/-- **When the view moves.** -/
theorem moveView_eq_ok {updatedAt : Option String} :
    moveView st previous new group updatedAt = .ok st' ↔
      ((∃ v ∈ st.groupViews, v.isOf previous group = true) → updatedAt ≠ none ∧
        (previous = new ∨ ∀ v ∈ st.groupViews, v.isOf new group = false)) ∧
      st' = { st with
        groupViews := Table.updateWhere (GroupView.isOf previous group)
          (fun v ↦ { v with ownerDid := new, updatedAt := updatedAt.getD "" }) st.groupViews } := by
  unfold moveView
  cases hview : st.groupView? previous group with
  | none =>
    have hnone := groupView?_eq_none.mp hview
    rw [Table.updateWhere_eq_self hnone, Except.ok.injEq, eq_comm]
    refine (and_iff_right ?_).symm
    rintro ⟨v, hv, hof⟩
    rw [hnone v hv] at hof
    cases hof
  | some view =>
    have hsome : ∃ v ∈ st.groupViews, v.isOf previous group = true := by
      refine ⟨view, Table.mem_of_row? hview, ?_⟩
      rw [← isOf_key]
      exact decide_eq_true (Table.key_of_row? hview)
    rw [isOf_key]
    cases updatedAt with
    | none => simp [orRaise, hsome]
    | some time =>
      simp only [bind_eq_ok, orRaise_eq_ok, require_eq_ok, pure_eq_ok, exists_const,
        Option.some.injEq, exists_eq_left', Bool.or_eq_true, decide_eq_true_eq,
        Option.isNone_iff_eq_none, groupView?_eq_none, hsome, forall_true_left, ne_eq, reduceCtorEq,
        not_false_eq_true, true_and, Option.getD_some]
      exact and_congr_right' eq_comm

/-- **When the roster does.** -/
theorem moveMemberViews_eq_ok :
    moveMemberViews st previous new group = .ok st' ↔
      (previous = new ∨ ∀ r ∈ st.groupMemberViews, r.isOf previous group = true →
        ∀ r' ∈ st.groupMemberViews, r'.isOf new group = true → r'.agentDid ≠ r.agentDid) ∧
      st' = { st with
        groupMemberViews := Table.updateWhere (GroupMemberView.isOf previous group)
          (fun r ↦ { r with ownerDid := new }) st.groupMemberViews } := by
  have hfree : (st.groupMemberViews.all fun r ↦
      !decide (r.ownerDid = previous ∧ r.groupDid = group ∧
        (Table.row? GroupMemberView.key (new, group, r.agentDid)
          st.groupMemberViews).isSome = true)) = true ↔
      ∀ r ∈ st.groupMemberViews, r.isOf previous group = true →
        ∀ r' ∈ st.groupMemberViews, r'.isOf new group = true → r'.agentDid ≠ r.agentDid := by
    simp only [List.all_eq_true, Bool.not_eq_true', decide_eq_false_iff_not, not_and,
      Option.not_isSome_iff_eq_none, Table.row?_eq_none, GroupMemberView.key,
      GroupMemberView.isOf, decide_eq_true_eq, Prod.mk.injEq, and_imp, ne_eq]
  simp only [moveMemberViews, bind_eq_ok, require_eq_ok, pure_eq_ok, exists_const, Bool.or_eq_true,
    decide_eq_true_eq, hfree]
  exact and_congr_right' eq_comm

/-- **When the messages do.** -/
theorem moveMessageViews_eq_ok :
    moveMessageViews st previous new group = .ok st' ↔
      (previous = new ∨ ∀ r ∈ st.groupMessageViews, r.isOf previous group = true →
        ∀ r' ∈ st.groupMessageViews, r'.isOf new group = true →
          r'.messageId ≠ r.messageId ∧ r'.groupEventSeq ≠ r.groupEventSeq) ∧
      st' = { st with
        groupMessageViews := Table.updateWhere (GroupMessageView.isOf previous group)
          (fun r ↦ { r with ownerDid := new }) st.groupMessageViews } := by
  have hfree : (st.groupMessageViews.all fun r ↦
      !decide (r.ownerDid = previous ∧ r.groupDid = group) ||
        st.groupMessageViews.all fun r' ↦
          !decide (r'.ownerDid = new ∧ r'.groupDid = group ∧
            (r'.messageId = r.messageId ∨ r'.groupEventSeq = r.groupEventSeq))) = true ↔
      ∀ r ∈ st.groupMessageViews, r.isOf previous group = true →
        ∀ r' ∈ st.groupMessageViews, r'.isOf new group = true →
          r'.messageId ≠ r.messageId ∧ r'.groupEventSeq ≠ r.groupEventSeq := by
    simp only [List.all_eq_true, Bool.or_eq_true, Bool.not_eq_true', decide_eq_false_iff_not,
      not_and, not_or, GroupMessageView.isOf, decide_eq_true_eq, and_imp, ne_eq]
    refine forall₂_congr fun r _ ↦ ?_
    rw [← not_and, ← imp_iff_not_or, and_imp]
  simp only [moveMessageViews, bind_eq_ok, require_eq_ok, pure_eq_ok, exists_const,
    Bool.or_eq_true, decide_eq_true_eq, hfree]
  exact and_congr_right' eq_comm

variable {req : Request} {c : ForwardedCommand} {result receipt : Obj}

/-- The DIDs of the move, from the answer or else from the command. -/
def previousMemberDid (req : Request) (c : ForwardedCommand) (result : Obj) : String :=
  req.outside.str ((result.get "previous_member_did").orElse
    ((c.body.get "previous_member_did").orElse (.str "")))

/-- The DID the membership goes to. -/
def newMemberDid (req : Request) (c : ForwardedCommand) (result : Obj) : String :=
  req.outside.str ((result.get "member_did").orElse
    ((c.body.get "new_member_did").orElse (.str "")))

/-- The store after all three. -/
def Store.rebound (st : Store) (previous new group time : String) : Store :=
  { st with
    groupViews := Table.updateWhere (GroupView.isOf previous group)
      (fun v ↦ { v with ownerDid := new, updatedAt := time }) st.groupViews
    groupMemberViews := Table.updateWhere (GroupMemberView.isOf previous group)
      (fun r ↦ { r with ownerDid := new }) st.groupMemberViews
    groupMessageViews := Table.updateWhere (GroupMessageView.isOf previous group)
      (fun r ↦ { r with ownerDid := new }) st.groupMessageViews }

/-- What the answer needs to say for a move that succeeds. -/
structure MoveAccepted (previous new group : String) (updatedAt : Option String) (st : Store) :
    Prop where
  timed : ∀ v ∈ st.groupViews, v.isOf previous group = true → updatedAt ≠ none
  free : previous = new ∨ NothingInTheWay previous new group st

/-- When all three do. -/
theorem moves_eq_ok {updatedAt : Option String} :
    (∃ st₁, moveView st previous new group updatedAt = .ok st₁ ∧
      ∃ st₂, moveMemberViews st₁ previous new group = .ok st₂ ∧
        moveMessageViews st₂ previous new group = .ok st') ↔
      MoveAccepted previous new group updatedAt st ∧
        st' = st.rebound previous new group (updatedAt.getD "") := by
  simp only [moveView_eq_ok, moveMemberViews_eq_ok, moveMessageViews_eq_ok]
  constructor
  · rintro ⟨_, ⟨hview, rfl⟩, _, ⟨hroster, rfl⟩, hmessages, rfl⟩
    refine ⟨⟨fun v hv hof ↦ (hview ⟨v, hv, hof⟩).1, ?_⟩, rfl⟩
    by_cases hsame : previous = new
    · exact .inl hsame
    · exact .inr ⟨fun v hv hof ↦ (hview ⟨v, hv, hof⟩).2.resolve_left hsame,
        hroster.resolve_left hsame, hmessages.resolve_left hsame⟩
  · rintro ⟨⟨htimed, hfree⟩, rfl⟩
    refine ⟨_, ⟨?_, rfl⟩, _, ⟨hfree.imp_right (·.roster), rfl⟩, hfree.imp_right (·.messages), rfl⟩
    rintro ⟨v, hv, hof⟩
    exact ⟨htimed v hv hof, hfree.imp_right fun h ↦ h.view v hv hof⟩

/-- **When the rebind is applied, and what it leaves.** -/
theorem applyRebind_eq_ok :
    applyRebind st req c result receipt = .ok st' ↔
      if previousMemberDid req c result ≠ "" ∧ newMemberDid req c result ≠ "" then
        ∃ updatedAt, boundAcceptedAt req receipt = .ok updatedAt ∧
          MoveAccepted (previousMemberDid req c result) (newMemberDid req c result) c.groupDid
            updatedAt st ∧
          st' = st.rebound (previousMemberDid req c result) (newMemberDid req c result) c.groupDid
            (updatedAt.getD "")
      else st' = st := by
  rw [applyRebind, ← previousMemberDid, ← newMemberDid]
  split
  · simp only [bind_eq_ok, moves_eq_ok]
  · rw [Except.ok.injEq, eq_comm]

end Updates

/-! ### When the move succeeds -/

section Rebind

variable {settings : Settings} {st : Store} {req : Request} {c : ForwardedCommand}
  {result receipt : Obj} {previous new group : String}

/-- **What a rebind needs**: two DIDs, unless there is nothing to move; an acceptance time that can
be stored; and nothing in the way. -/
structure Rebindable (req : Request) (receipt : Obj) (previous new group : String) (st : Store) :
    Prop where
  named : st.HoldsNothing previous group ∨ previous ≠ "" ∧ new ≠ "" ∧ previous ≠ new
  timed : previous ≠ "" → new ≠ "" → ∃ updatedAt, boundAcceptedAt req receipt = .ok updatedAt ∧
    ∀ v ∈ st.groupViews, v.isOf previous group = true → updatedAt ≠ none
  free : NothingInTheWay previous new group st

/-- Where there is nothing to move nothing can be in the way. -/
theorem nothingInTheWay_of_holdsNothing (h : st.HoldsNothing previous group) :
    NothingInTheWay previous new group st where
  view v hv hof := absurd hof (by simp [h.views v hv])
  roster r hr hof := absurd hof (by simp [h.roster r hr])
  messages r hr hof := absurd hof (by simp [h.messages r hr])

/-- Under another name everything moves. -/
theorem rebound_moved (hne : previous ≠ new) (time : String) :
    ProjectionMoved previous new group st (st.rebound previous new group time) where
  views := .updateWhere fun v hv ↦ by
    obtain ⟨-, hgroup⟩ := of_decide_eq_true hv
    exact ⟨decide_eq_false fun h ↦ hne h.1.symm, decide_eq_true ⟨rfl, hgroup⟩, time, rfl⟩
  roster := .updateWhere fun r hr ↦ by
    obtain ⟨-, hgroup⟩ := of_decide_eq_true hr
    exact ⟨decide_eq_false fun h ↦ hne h.1.symm, decide_eq_true ⟨rfl, hgroup⟩, rfl⟩
  messages := .updateWhere fun r hr ↦ by
    obtain ⟨-, hgroup⟩ := of_decide_eq_true hr
    exact ⟨decide_eq_false fun h ↦ hne h.1.symm, decide_eq_true ⟨rfl, hgroup⟩, rfl⟩
  rest := rfl

/-- Where there is nothing, nothing has to move. -/
theorem rebound_of_holdsNothing (h : st.HoldsNothing previous group) (time : String) :
    st.rebound previous new group time = st := by
  rw [Store.rebound, Table.updateWhere_eq_self h.views, Table.updateWhere_eq_self h.roster,
    Table.updateWhere_eq_self h.messages]

/-- And to move nothing is to leave the store as it is. -/
theorem moved_of_holdsNothing (h : st.HoldsNothing previous group) :
    ProjectionMoved previous new group st st where
  views := .refl _ _ h.views
  roster := .refl _ _ h.roster
  messages := .refl _ _ h.messages
  rest := rfl

/-- A store that was left as it was, or moved to the same name, had nothing to move. -/
theorem holdsNothing_of_moved (h : ProjectionMoved previous new group st st) :
    st.HoldsNothing previous group :=
  ⟨h.views.left, h.roster.left, h.messages.left⟩

/-- Who holds nothing after a move to the same name had nothing. -/
theorem holdsNothing_of_rebound {time : String}
    (h : ProjectionMoved previous previous group st (st.rebound previous previous group time)) :
    st.HoldsNothing previous group where
  views := h.views.not_updateWhere fun _ hv ↦
    decide_eq_true ⟨rfl, (of_decide_eq_true hv).2⟩
  roster := h.roster.not_updateWhere fun _ hr ↦
    decide_eq_true ⟨rfl, (of_decide_eq_true hr).2⟩
  messages := h.messages.not_updateWhere fun _ hr ↦
    decide_eq_true ⟨rfl, (of_decide_eq_true hr).2⟩

/-- **A forwarded rebind succeeds and moves the whole projection exactly if it is `Rebindable`.** -/
theorem rebind_moves_projection_iff (hmethod : c.method = .rebindMember) :
    (∃ st', applyTerminalProjection settings st req c result receipt = .ok st' ∧
      ProjectionMoved (previousMemberDid req c result) (newMemberDid req c result) c.groupDid
        st st') ↔
      Rebindable req receipt (previousMemberDid req c result) (newMemberDid req c result)
        c.groupDid st := by
  have happly : applyTerminalProjection settings st req c result receipt =
      applyRebind st req c result receipt := by
    simp [applyTerminalProjection, hmethod]
  rw [happly]
  simp only [applyRebind_eq_ok]
  generalize previousMemberDid req c result = previous
  generalize newMemberDid req c result = new
  split
  · rename_i hnamed
    constructor
    · rintro ⟨_, ⟨updatedAt, htime, haccepted, rfl⟩, hmoved⟩
      -- The same DID twice moves nothing, which is a move only of nothing.
      by_cases hsame : previous = new
      · subst hsame
        have hnothing := holdsNothing_of_rebound hmoved
        exact ⟨.inl hnothing, fun _ _ ↦ ⟨updatedAt, htime, haccepted.timed⟩,
          nothingInTheWay_of_holdsNothing hnothing⟩
      · exact ⟨.inr ⟨hnamed.1, hnamed.2, hsame⟩, fun _ _ ↦ ⟨updatedAt, htime, haccepted.timed⟩,
          haccepted.free.resolve_left hsame⟩
    · rintro ⟨hneeded, htimed, hfree⟩
      obtain ⟨updatedAt, htime, hview⟩ := htimed hnamed.1 hnamed.2
      refine ⟨_, ⟨updatedAt, htime, ⟨hview, .inr hfree⟩, rfl⟩, ?_⟩
      rcases hneeded with hnothing | ⟨-, -, hne⟩
      · rw [rebound_of_holdsNothing hnothing]
        exact moved_of_holdsNothing hnothing
      · exact rebound_moved hne _
  · rename_i hnamed
    constructor
    · rintro ⟨_, rfl, hmoved⟩
      have hnothing := holdsNothing_of_moved hmoved
      exact ⟨.inl hnothing, fun h h' ↦ absurd ⟨h, h'⟩ hnamed,
        nothingInTheWay_of_holdsNothing hnothing⟩
    · rintro ⟨hneeded, -, -⟩
      rcases hneeded with hnothing | ⟨hprevious, hnew, -⟩
      · exact ⟨st, rfl, moved_of_holdsNothing hnothing⟩
      · exact absurd ⟨hprevious, hnew⟩ hnamed

end Rebind

/-! ### A DID that has been a member before -/

/-- A group of `peer.example`. -/
def reboundGroup : String := "did:wba:peer.example:groups:grp_1"

/-- The DID Alice's Handle moves to. -/
def aliceMoved : String := "did:wba:host.example:user:alice-2"

/-- The view of a member of that group. -/
def remoteView (owner : String) (status : ViewStatus) : GroupView where
  ownerDid := owner
  groupDid := reboundGroup
  hostServiceDid := "did:wba:peer.example"
  profile := []
  policy := []
  groupStateVersion := 3
  groupEventSeq := 3
  memberRole := "member"
  membershipStatus := status
  updatedAt := "2026-01-01T00:00:00Z"
  wireProfile := .v1
  observedEventSeq := 3
  observedStateVersion := 3

/-- The rebind, and the receipt of the Host for it. -/
def rebindCommand : ForwardedCommand where
  method := .rebindMember
  metaObj := [("profile", .str WireProfile.v1.text), ("operation_id", .str "op-rebind"),
    ("sender_did", .str aliceMoved)]
  body := [("previous_member_did", .str alice), ("new_member_did", .str aliceMoved)]
  auth := .obj [("origin_proof", .obj [("contentDigest", .str "sha-256=:body:")])]
  senderDid := aliceMoved
  groupDid := reboundGroup
  operationId := "op-rebind"

/-- The receipt, -/
def rebindReceipt : Obj :=
  [("group_did", .str reboundGroup), ("subject_method", .str GroupMethod.rebindMember.text),
    ("operation_id", .str "op-rebind"), ("group_state_version", .str "4"),
    ("group_event_seq", .str "4"), ("payload_digest", .str "sha-256=:body:"),
    ("accepted_at", .str "2026-01-02T00:00:00Z")]

/-- and the answer with it. -/
def rebindAnswer : Obj :=
  [("group_receipt", .obj rebindReceipt), ("group_state_version", .str "4"),
    ("group_event_seq", .str "4")]

/-- A member's request at her Home. -/
def homeRequest : Request where
  surface := .localRpc
  credentials := .missing
  outside := .honest

/-- Alice's Home, where her new DID has no view of the group or the view of a membership that it
has left. -/
def homeBeforeRebind (rejoins : Bool) : Store where
  groupViews := remoteView alice .active ::
    (if rejoins then [remoteView aliceMoved .left] else [])

/-- The answer passes its checks. -/
theorem rebindAnswer_valid (rejoins : Bool) :
    validateRemoteReceipt (homeBeforeRebind rejoins) homeRequest rebindCommand rebindAnswer =
      .ok rebindReceipt := by
  cases rejoins <;> rfl

/-- Where the new DID is new to the group, the projection moves. -/
theorem rebind_moves_projection_alice :
    ∃ st', applyTerminalProjection .sample (homeBeforeRebind false) homeRequest rebindCommand
        rebindAnswer rebindReceipt = .ok st' ∧
      ProjectionMoved alice aliceMoved reboundGroup (homeBeforeRebind false) st' := by
  have hnone : ∀ v ∈ (homeBeforeRebind false).groupViews,
      v.isOf aliceMoved reboundGroup = false := by
    intro v hv
    obtain rfl := List.mem_singleton.mp hv
    decide
  exact (rebind_moves_projection_iff rfl).mpr
    { named := .inr (by decide)
      timed := fun _ _ ↦ ⟨some "2026-01-02T00:00:00Z", rfl, fun _ _ _ ↦ Option.some_ne_none _⟩
      free := ⟨fun _ _ _ ↦ hnone, List.forall_mem_nil _, List.forall_mem_nil _⟩ }

/-- **A DID that has left the group before cannot be rebound to**: the Host has committed, and at
the Home a key is not unique. -/
theorem rebind_meets_former_membership :
    ¬ ∀ (settings : Settings) (st : Store) (req : Request) (c : ForwardedCommand)
      (result receipt : Obj), c.method = .rebindMember →
      validateRemoteReceipt st req c result = .ok receipt →
      ∃ st', applyTerminalProjection settings st req c result receipt = .ok st' ∧
        ProjectionMoved (previousMemberDid req c result) (newMemberDid req c result) c.groupDid
          st st' := by
  intro hall
  obtain ⟨st', hok, -⟩ := hall .sample (homeBeforeRebind true) homeRequest rebindCommand
    rebindAnswer rebindReceipt rfl (rebindAnswer_valid true)
  have hfails : applyTerminalProjection .sample (homeBeforeRebind true) homeRequest rebindCommand
      rebindAnswer rebindReceipt = .error (.integrity "group_views") := rfl
  rw [hfails] at hok
  cases hok

end Awiki
