import AwikiOpenServer.Messaging.LegacyGroups

/-!
# Numbers of stored messages

`direct_messages` and `group_messages` number their rows by `server_seq`, and the pages of a thread
go by `server_seq > n`. The number is `MAX + 1`, **read before the `INSERT` that takes the write
lock**, and the column has no uniqueness constraint. So two requests may read the same maximum:
`concurrent_sends_share_number` is such a schedule. The numbers stay distinct along every run in
which the table a message is inserted into is still the one its request last read
(`message_numbers_distinct_of_current_reads`); a request that held the lock from its read on would
always meet that.

## The run

A run interleaves the statements of any number of sends of both kinds, on any number of connections
(`SendsReach`). Every write of a request goes to its own copy of the database, which becomes the
committed one at its end; the lock is taken at the first write and held until then. So the one
moment at which requests meet is a first write, and that is where the condition is asked:
`readsCurrent` compares the numbers of the table as the request last read them with the numbers as
they are now, when the write adds one.

## The argument

The invariant is that the numbers of either table are distinct, and it is carried through the rules
of the two sends (`directSend_guarded`, `groupSend_guarded`): both say that the number of a message
was drawn from the last read before its `INSERT`. `nodup_of_readsCurrent` is all the arithmetic
there is: a number past the maximum of a table is new in any table with the same numbers.

The condition is about what is read and what is there, not about numbers: it does not say that they
are distinct. A request that reads and writes at once meets it, and two that overlap may; whether
they do depends on the table and not on the clock.
-/

namespace Awiki

open Py Transactions

/-- The database with its connections, numbered. -/
abbrev Server := World ℕ Store AwikiError Obj

/-- A request that stores a message: a direct send or a send to a legacy group. -/
inductive IsSend (settings : Settings) : Statements Obj → Prop where
  | direct (req : SendRequest) (params : Obj) : IsSend settings (directSend settings req params)
  | group (req : SendRequest) (params : Obj) : IsSend settings (groupSend req params)

/-- The numbers of the direct messages. -/
def Store.directNumbers (st : Store) : List ℕ := st.directMessages.map DirectMessage.serverSeq

/-- The numbers of the messages of legacy groups. -/
def Store.groupNumbers (st : Store) : List ℕ := st.groupMessages.map LegacyMessage.serverSeq

/-- **A table is written as it was read**: a first write that adds a number to it finds the numbers
the connection saw at its last read. -/
def readsCurrent (numbers : Store → List ℕ) (last : Option Store) (s s' : Store) : Bool :=
  numbers s' = numbers s || last.map numbers = some (numbers s)

/-- A number of a table is at most its maximum. -/
theorem le_foldr_max {n : ℕ} {numbers : List ℕ} (h : n ∈ numbers) : n ≤ numbers.foldr max 0 := by
  induction numbers with
  | nil => simp at h
  | cons m rest ih =>
    rcases List.mem_cons.mp h with rfl | h
    · exact le_max_left _ _
    · exact (ih h).trans (le_max_right _ _)

/-- The next number is a new one. -/
theorem nextSeq_not_mem (numbers : List ℕ) : nextSeq numbers ∉ numbers := fun h ↦
  absurd (le_foldr_max h) (by simp [nextSeq])

/-- The next number can be added. -/
theorem nodup_append_nextSeq {numbers : List ℕ} (h : numbers.Nodup) :
    (numbers ++ [nextSeq numbers]).Nodup :=
  List.nodup_append.mpr ⟨h, List.nodup_singleton _, fun _ ha _ hb hab ↦
    nextSeq_not_mem numbers (List.mem_singleton.mp hb ▸ hab ▸ ha)⟩

/-- An insertion adds its row. -/
theorem insertDirectMessage_eq_ok {st st' : Store} {row : DirectMessage}
    (h : insertDirectMessage st row = .ok st') :
    st' = { st with directMessages := st.directMessages ++ [row] } := by
  obtain ⟨_, -, h⟩ := bind_eq_ok.mp h
  obtain ⟨rows, hrows, h⟩ := bind_eq_ok.mp h
  obtain ⟨-, rfl⟩ := Table.insert?_eq_some.mp (orRaise_eq_ok.mp hrows)
  exact (pure_eq_ok.mp h).symm

/-- So does one into the other table. -/
theorem insertLegacyMessage_eq_ok {st st' : Store} {row : LegacyMessage}
    (h : insertLegacyMessage st row = .ok st') :
    st' = { st with groupMessages := st.groupMessages ++ [row] } := by
  obtain ⟨_, -, h⟩ := bind_eq_ok.mp h
  obtain ⟨rows, hrows, h⟩ := bind_eq_ok.mp h
  obtain ⟨-, rfl⟩ := Table.insert?_eq_some.mp (orRaise_eq_ok.mp hrows)
  exact (pure_eq_ok.mp h).symm

/-- The row has the number that was drawn. -/
theorem directMessageRow_serverSeq {req : SendRequest} {c : DirectCommand} {seq : ℕ}
    {row : DirectMessage} (h : directMessageRow req c seq = .ok row) : row.serverSeq = seq := by
  unfold directMessageRow at h
  obtain ⟨_, -, h⟩ := bind_eq_ok.mp h
  obtain ⟨_, -, h⟩ := bind_eq_ok.mp h
  obtain ⟨_, -, h⟩ := bind_eq_ok.mp h
  obtain ⟨_, -, h⟩ := bind_eq_ok.mp h
  obtain ⟨_, -, h⟩ := bind_eq_ok.mp h
  obtain ⟨_, -, h⟩ := bind_eq_ok.mp h
  rw [← pure_eq_ok.mp h]

/-- So has a row of the other table. -/
theorem legacyMessageRow_serverSeq {req : SendRequest} {c : LegacySend} {seq : ℕ}
    {row : LegacyMessage} (h : legacyMessageRow req c seq = .ok row) : row.serverSeq = seq := by
  unfold legacyMessageRow at h
  obtain ⟨_, -, h⟩ := bind_eq_ok.mp h
  obtain ⟨_, -, h⟩ := bind_eq_ok.mp h
  obtain ⟨_, -, h⟩ := bind_eq_ok.mp h
  obtain ⟨_, -, h⟩ := bind_eq_ok.mp h
  obtain ⟨_, -, h⟩ := bind_eq_ok.mp h
  rw [← pure_eq_ok.mp h]

/-- **A number drawn from a table that is still the same is new.** -/
theorem nodup_of_readsCurrent {numbers : Store → List ℕ} {read s s' : Store} {n : ℕ}
    (h : (numbers s).Nodup) (hs' : numbers s' = numbers s ++ [n])
    (hn : n = nextSeq (numbers read)) (hcurrent : readsCurrent numbers (some read) s s' = true) :
    (numbers s').Nodup := by
  have hsame : numbers read = numbers s := by simpa [readsCurrent, hs'] using hcurrent
  rw [hs', hn, hsame]
  exact nodup_append_nextSeq h

section Guards

variable {settings : Settings} {p : Statements Obj}

/-- **What a send does to the numbers of direct messages**, -/
theorem isSend_guarded_direct (hp : IsSend settings p) :
    p.Guarded (fun st ↦ st.directNumbers.Nodup)
      (fun last s s' ↦ readsCurrent Store.directNumbers last s s' = true) (fun _ _ ↦ True)
      (fun _ s ↦ s.directNumbers.Nodup) none := by
  cases hp with
  | direct req params =>
    refine directSend_guarded (storeDirectMessage_guarded fun c read _ ↦ ?_) params
    refine insertAndShow_guarded (V := fun _ s ↦ s.directNumbers.Nodup) (fun _ _ _ _ h ↦ h)
      (fun _ _ _ _ _ _ _ h ↦ h) ?_ fun _ _ _ h ↦ h
    intro row s s' hrow hs hs' hcurrent
    refine nodup_of_readsCurrent hs ?_ (directMessageRow_serverSeq hrow) hcurrent
    simp [insertDirectMessage_eq_ok hs', Store.directNumbers]
  | group req params =>
    refine groupSend_guarded (fun c read htruthy _ ↦ ?_) params
    refine insertAndAnnounce_guarded (fun _ _ _ _ _ _ h ↦ h) htruthy ?_
    intro row s s' _ hs hs' _
    rw [insertLegacyMessage_eq_ok hs']
    exact hs

/-- **and to those of group messages.** -/
theorem isSend_guarded_group (hp : IsSend settings p) :
    p.Guarded (fun st ↦ st.groupNumbers.Nodup)
      (fun last s s' ↦ readsCurrent Store.groupNumbers last s s' = true) (fun _ _ ↦ True)
      (fun _ s ↦ s.groupNumbers.Nodup) none := by
  cases hp with
  | direct req params =>
    refine directSend_guarded (storeDirectMessage_guarded fun c read _ ↦ ?_) params
    refine insertAndShow_guarded (V := fun _ s ↦ s.groupNumbers.Nodup) (fun _ _ _ _ h ↦ h)
      (fun _ _ _ _ _ _ _ h ↦ h) ?_ fun _ _ _ h ↦ h
    intro row s s' _ hs hs' _
    rw [insertDirectMessage_eq_ok hs']
    exact hs
  | group req params =>
    refine groupSend_guarded (fun c read htruthy _ ↦ ?_) params
    refine insertAndAnnounce_guarded (fun _ _ _ _ _ _ h ↦ h) htruthy ?_
    intro row s s' hrow hs hs' hcurrent
    refine nodup_of_readsCurrent hs ?_ (legacyMessageRow_serverSeq hrow) hcurrent
    simp [insertLegacyMessage_eq_ok hs', Store.groupNumbers]

end Guards

/-- **Runs of sends** whose first writes meet `R`, from an idle server. -/
def SendsReach (settings : Settings) (R : Option Store → Store → Store → Bool) (st : Store)
    (w : Server) : Prop :=
  Runs.ReachesWith World.Step (World.Admits (IsSend settings) fun l s s' ↦ R l s s' = true)
    (.idle st) w

/-- **Numbers are distinct where reads are current.** In any interleaving of the statements of any
number of sends, cut off or not, whose inserts find the numbers their request last read, all
committed messages of the table have distinct numbers. -/
theorem message_numbers_distinct_of_current_reads {settings : Settings} {st : Store} {w : Server} :
    (st.directNumbers.Nodup → SendsReach settings (readsCurrent Store.directNumbers) st w →
      w.committed.directNumbers.Nodup) ∧
    (st.groupNumbers.Nodup → SendsReach settings (readsCurrent Store.groupNumbers) st w →
      w.committed.groupNumbers.Nodup) :=
  ⟨fun hst h ↦ World.committed_invariant (I := fun st ↦ st.directNumbers.Nodup) hst
      (fun _ ↦ isSend_guarded_direct) h,
    fun hst h ↦ World.committed_invariant (I := fun st ↦ st.groupNumbers.Nodup) hst
      (fun _ ↦ isSend_guarded_group) h⟩

/-! ### Two sends at once -/

/-- Another user of `host.example`. -/
def carol : String := "did:wba:host.example:user:carol"

/-- A server with Alice and Carol, both in one legacy group. -/
def sampleSenders : Store where
  users := [alice, carol].map fun did ↦
    { did := did, handle := did, token := did, revokedAt := none, handleBindingGeneration := "1" }
  didDocuments := [alice, carol].map fun did ↦
    { did := did, document := .obj [("id", .str did)], documentVersion := 1, updatedAt := "",
      status := .active, revokedAt := none }
  groups := [⟨"did:wba:host.example:groups:open", "open", none, "open_join", ""⟩]
  groupMembers := [alice, carol].map fun did ↦
    { groupDid := "did:wba:host.example:groups:open", memberDid := did, role := "member",
      joinedAt := "" }

/-- A send of a local user. -/
def sendRequest (did messageId : String) : SendRequest where
  surface := .localRpc
  credentials := .bearer did
  outside := .honest
  newMessageId := messageId
  newOperationId := "op-" ++ messageId
  lower := id
  isIsoFormat _ := true

/-- A direct message to Carol. -/
def sampleDirect (messageId : String) : Statements Obj :=
  directSend .sample (sendRequest alice messageId)
    [("recipient_did", .str carol), ("text", .str "hello")]

/-- A message to the group. -/
def sampleGroupSend (messageId : String) : Statements Obj :=
  groupSend (sendRequest alice messageId)
    [("group_did", .str "did:wba:host.example:groups:open"), ("text", .str "hello")]

/-- A schedule of two requests: so many statements of the one, then of the other, and so on. -/
def schedule (p q : Statements Obj) (turns : List (ℕ × ℕ)) :
    List (Action ℕ Store AwikiError Obj) :=
  [.start 0 p, .start 1 q] ++ turns.flatMap fun t ↦ List.replicate t.2 (.advance t.1)

/-- A schedule of two requests is a run. -/
theorem reachesWith_schedule {P : Statements Obj → Prop} {R : Option Store → Store → Store → Bool}
    {p q : Statements Obj} (turns : List (ℕ × ℕ)) {st : Store} (hp : P p) (hq : P q)
    (hmeets : World.meetsAll R (.idle st : Server) (schedule p q turns) = true) :
    Runs.ReachesWith World.Step (World.Admits P fun l s s' ↦ R l s s' = true) (.idle st : Server)
      (World.runAll (.idle st) (schedule p q turns)) := by
  refine World.reachesWith_runAll (.refl _) (fun i r h ↦ ?_) hmeets
  rcases List.mem_append.mp h with h | h
  · simp only [List.mem_cons, Action.start.injEq, List.not_mem_nil, or_false] at h
    rcases h with ⟨-, rfl⟩ | ⟨-, rfl⟩
    · exact hp
    · exact hq
  · obtain ⟨t, -, ht⟩ := List.mem_flatMap.mp h
    cases List.eq_of_mem_replicate ht

/-- One request after the other: each insert finds what its request has read. -/
theorem message_numbers_distinct_one_by_one :
    (World.runAll (.idle sampleSenders : Server) (schedule (sampleDirect "m1") (sampleDirect "m2")
      [(0, 11), (1, 11)])).committed.directNumbers.Nodup ∧
    (World.runAll (.idle sampleSenders : Server)
      (schedule (sampleGroupSend "m1") (sampleGroupSend "m2")
        [(0, 6), (1, 6)])).committed.groupNumbers.Nodup :=
  ⟨(@message_numbers_distinct_of_current_reads .sample _ _).1 (by decide)
      (reachesWith_schedule _ (.direct _ _) (.direct _ _) (by decide +kernel)),
    (@message_numbers_distinct_of_current_reads .sample _ _).2 (by decide)
      (reachesWith_schedule _ (.group _ _) (.group _ _) (by decide +kernel))⟩

/-- **Two requests that read before either writes store two messages with one number.** -/
theorem concurrent_sends_share_number :
    (¬ ∀ (settings : Settings) (st : Store) (w : Server), st.directNumbers.Nodup →
      SendsReach settings (fun _ _ _ ↦ true) st w → w.committed.directNumbers.Nodup) ∧
    ¬ ∀ (settings : Settings) (st : Store) (w : Server), st.groupNumbers.Nodup →
      SendsReach settings (fun _ _ _ ↦ true) st w → w.committed.groupNumbers.Nodup := by
  constructor
  · intro hall
    have hnodup := hall .sample sampleSenders _ (by decide)
      (reachesWith_schedule (p := sampleDirect "m1") (q := sampleDirect "m2")
        [(0, 5), (1, 5), (0, 6), (1, 6)] (.direct _ _) (.direct _ _) (by decide +kernel))
    have hnumbers : (World.runAll (.idle sampleSenders : Server)
        (schedule (sampleDirect "m1") (sampleDirect "m2")
          [(0, 5), (1, 5), (0, 6), (1, 6)])).committed.directNumbers = [1, 1] := by decide +kernel
    rw [hnumbers] at hnodup
    exact absurd hnodup (by decide)
  · intro hall
    have hnodup := hall .sample sampleSenders _ (by decide)
      (reachesWith_schedule (p := sampleGroupSend "m1") (q := sampleGroupSend "m2")
        [(0, 3), (1, 3), (0, 3), (1, 3)] (.group _ _) (.group _ _) (by decide +kernel))
    have hnumbers : (World.runAll (.idle sampleSenders : Server)
        (schedule (sampleGroupSend "m1") (sampleGroupSend "m2")
          [(0, 3), (1, 3), (0, 3), (1, 3)])).committed.groupNumbers = [1, 1] := by decide +kernel
    rw [hnumbers] at hnodup
    exact absurd hnodup (by decide)

end Awiki
