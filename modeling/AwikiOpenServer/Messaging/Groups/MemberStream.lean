import AwikiOpenServer.Messaging.Groups.HomeVersions

/-!
# The stream of notifications of one member

A correct Host numbers the events of a version 2 group and notifies a remote member of each event of
its membership, the departure included: within a membership the sequence numbers are consecutive, a
new membership starts later with a fresh activation, and every event but a message raises the state
version. `MemberStream` is that stream, with the bodies and receipts as they are delivered.

The Home sees the stream **in order, head first**, where the head is repeated until its answer
reaches the Host. In between, the answer of the Host to a forwarded leave or removal of the member
may be applied, and the roster may be read. `StreamStep` is the interleaving; nothing is assumed of
when an answer or a snapshot arrives.

## A stream as data

The stream is a list of notifications with the properties of a correct Host as fields, so that every
value of the type is one. `Note.Sound` is what holds of each: the texts a Host always sends, a
receipt that says what the body says, a departure that names the member. `Note.Follows` is what
holds of two in a row.

The list is finite, and the theorem about it is for every stream; so a Host that goes on is covered
by its beginnings.

## What reaches the Home

A delivery carries a notification when its checked envelope does (`Carries`, `Delivers`); the
signatures are outside, and whatever order a dictionary is written in makes no difference. An answer
and a snapshot are the Host's at some moment: an answer is about a departure of the stream, and a
snapshot has the version pair the group had after one of its events, with the member in its roster
(`Answers`, `Snapshot`).
-/

namespace Awiki

open Py Runs

/-! ### Notifications -/

/-- What a notification tells the member. A departure is named by its method. -/
inductive NoteKind where
  | activated
  | changed
  | departed (method : GroupMethod)
  | message (messageId : String)

namespace NoteKind

/-- It is a message. -/
def isMessage : NoteKind → Bool
  | message _ => true
  | _ => false

/-- It ends the membership. -/
def isDeparture : NoteKind → Bool
  | departed _ => true
  | _ => false

/-- The handler the notification is for. -/
def method : NoteKind → GroupMethod
  | message _ => .incoming
  | _ => .stateChanged

end NoteKind

/-- One notification as the Host enqueued it. -/
structure Note where
  seq : ℕ
  version : ℕ
  kind : NoteKind
  body : Obj
  receipt : Obj

/-- The status a departure leaves behind. -/
def departedStatus : GroupMethod → ViewStatus
  | .leave => .left
  | _ => .removed

/-- A body that changes the state of the group: the texts the Home reads from it. -/
structure Note.Changes (note : Note) : Prop where
  eventType : ∃ text, note.body.get "event_type" = .str text ∧ text ≠ ""
  changedAt : ∃ text, note.body.get "changed_at" = .str text ∧ text ≠ ""
  seqText : note.body.get "group_event_seq" = .str (toString note.seq)
  texts : ∀ key ∈ ["subject_handle", "handle_binding_generation", "role", "membership_status"],
    note.body.get key = .null ∨ ∃ text, note.body.get key = .str text

/-- A body that ends the membership of `owner`, with the receipt of the command that did. -/
structure Note.Departs (note : Note) (owner : String) (method : GroupMethod) : Prop where
  words : ∃ eventType status subject, terminalWords method = some (eventType, status, subject) ∧
    note.body.get "event_type" = .str eventType ∧
    note.body.get "membership_status" = .str status
  subject : note.body.get "subject_did" = .str owner
  subjectMethod : note.receipt.get "subject_method" = .str method.text
  actor : ∃ text, note.receipt.get "actor_did" = .str text
  operation : ∃ text, note.receipt.get "operation_id" = .str text
  digest : ∃ text, note.receipt.get "payload_digest" = .str text
  seqText : note.receipt.get "group_event_seq" = .str (toString note.seq)
  versionText : note.receipt.get "group_state_version" = .str (toString note.version)
  nanFree : (Json.obj note.receipt).nanFree = true

/-- **A notification of a correct Host** to `owner`. -/
structure Note.Sound (note : Note) (owner : String) : Prop where
  seq_pos : 0 < note.seq
  version_pos : 0 < note.version
  changes : note.kind.isMessage = false → note.Changes
  activated : note.kind = .activated → note.body.get "event_type" = .str "member-activated" ∧
    note.body.get "subject_did" = .str owner ∧ note.body.get "membership_status" = .str "active"
  /-- Only a departure ends the membership. -/
  stays : note.kind.isMessage = false → note.kind.isDeparture = false →
    note.body.get "subject_did" = .str owner →
    note.body.get "event_type" ≠ .str "member-removed" ∧
      note.body.get "event_type" ≠ .str "member-left"
  departs : ∀ method, note.kind = .departed method → note.Departs owner method

/-- The next notification of a stream. -/
structure Note.Follows (a b : Note) : Prop where
  version_le : a.version ≤ b.version
  version_lt : b.kind.isMessage = false → a.version < b.version
  /-- Within a membership nothing is left out. -/
  consecutive : a.kind.isDeparture = false → b.seq = a.seq + 1
  /-- After a departure comes a later activation. -/
  rejoined : a.kind.isDeparture = true → b.kind = .activated ∧ a.seq < b.seq

/-- **The stream a correct Host sends to one member of a version 2 group.** -/
structure MemberStream where
  owner : String
  group : String
  /-- The service DID of the Host. -/
  host : String
  /-- The digest the Home computes of a body. -/
  digest : Obj → String
  notes : List Note
  owner_ne : owner ≠ ""
  sound : ∀ note ∈ notes, note.Sound owner
  starts : ∀ note, notes[0]? = some note → note.kind = .activated
  follows : ∀ (i : ℕ) (a b : Note), notes[i]? = some a → notes[i + 1]? = some b → a.Follows b
  /-- The Host never accepts one message id twice. -/
  messageId_inj : ∀ (i j : ℕ) (a b : Note) (id : String), notes[i]? = some a → notes[j]? = some b →
    a.kind = .message id → b.kind = .message id → i = j

namespace MemberStream

variable {S : MemberStream} {i j : ℕ} {a b : Note}

/-- Every notification of a stream is sound. -/
theorem sound_at (h : S.notes[i]? = some a) : a.Sound S.owner :=
  S.sound a (List.mem_of_getElem? h)

/-- There is no gap in the list. -/
theorem exists_before (hj : S.notes[j]? = some b) (hij : i ≤ j) : ∃ a, S.notes[i]? = some a := by
  obtain ⟨hlt, -⟩ := List.getElem?_eq_some_iff.mp hj
  exact ⟨_, List.getElem?_eq_getElem (lt_of_le_of_lt hij hlt)⟩

/-- The next one has a larger number. -/
theorem seq_lt_of_follows (h : a.Follows b) : a.seq < b.seq := by
  cases hd : a.kind.isDeparture with
  | false => rw [h.consecutive hd]; omega
  | true => exact (h.rejoined hd).2

/-- Sequence numbers increase along the stream. -/
theorem seq_lt (hi : S.notes[i]? = some a) (hj : S.notes[j]? = some b) (hij : i < j) :
    a.seq < b.seq := by
  induction j generalizing b with
  | zero => omega
  | succ j ih =>
    obtain ⟨c, hc⟩ := exists_before hj (Nat.le_succ j)
    have hcb := seq_lt_of_follows (S.follows j c b hc hj)
    rcases Nat.lt_succ_iff_lt_or_eq.mp hij with hlt | rfl
    · exact lt_trans (ih hc hlt) hcb
    · obtain rfl : a = c := Option.some.inj (hi.symm.trans hc)
      exact hcb

/-- Numbers do not decrease. -/
theorem seq_le (hi : S.notes[i]? = some a) (hj : S.notes[j]? = some b) (hij : i ≤ j) :
    a.seq ≤ b.seq := by
  rcases Nat.lt_or_eq_of_le hij with hlt | rfl
  · exact (seq_lt hi hj hlt).le
  · obtain rfl : a = b := Option.some.inj (hi.symm.trans hj)
    exact le_rfl

/-- The numbers tell the positions. -/
theorem le_of_seq_le (hi : S.notes[i]? = some a) (hj : S.notes[j]? = some b)
    (h : a.seq ≤ b.seq) : i ≤ j := by
  by_contra hlt
  have := seq_lt hj hi (not_le.mp hlt)
  omega

/-- A number is that of one notification. -/
theorem eq_of_seq_eq (hi : S.notes[i]? = some a) (hj : S.notes[j]? = some b)
    (h : a.seq = b.seq) : i = j :=
  le_antisymm (le_of_seq_le hi hj h.le) (le_of_seq_le hj hi h.ge)

/-- Versions never decrease along the stream. -/
theorem version_le (hi : S.notes[i]? = some a) (hj : S.notes[j]? = some b) (hij : i ≤ j) :
    a.version ≤ b.version := by
  induction j generalizing b with
  | zero =>
    obtain rfl : i = 0 := by omega
    obtain rfl : a = b := Option.some.inj (hi.symm.trans hj)
    exact le_rfl
  | succ j ih =>
    rcases Nat.lt_or_eq_of_le hij with hlt | rfl
    · obtain ⟨c, hc⟩ := exists_before hj (Nat.le_succ j)
      exact le_trans (ih hc (by omega)) (S.follows j c b hc hj).version_le
    · obtain rfl : a = b := Option.some.inj (hi.symm.trans hj)
      exact le_rfl

/-- A change has a newer version than everything before it. -/
theorem version_lt (hi : S.notes[i]? = some a) (hj : S.notes[j]? = some b) (hij : i < j)
    (hb : b.kind.isMessage = false) : a.version < b.version := by
  obtain ⟨j, rfl⟩ : ∃ k, j = k + 1 := ⟨j - 1, by omega⟩
  obtain ⟨c, hc⟩ := exists_before hj (Nat.le_succ j)
  exact lt_of_le_of_lt (version_le hi hc (by omega)) ((S.follows j c b hc hj).version_lt hb)

/-! ### What reaches the Home -/

/-- The record a notification leaves at the Home. -/
def recordKey (S : MemberStream) (note : Note) : String × String × ℤ × String × GroupMethod :=
  (S.host, S.group, note.seq, S.owner, note.kind.method)

/-- The checked envelope of a notification: it comes from the Host, for the member. -/
structure Carries (S : MemberStream) (note : Note) (req : Request) (n : Notification) : Prop where
  body : n.body = note.body
  profile : n.profile = .v2
  target : n.targetDid = S.owner
  group : n.groupDid = S.group
  peer : n.peer = some S.host
  digest : req.outside.contentDigest note.body = .ok (S.digest note.body)

/-- **A delivery of a notification** whose signatures, receipt and origin proof verify. -/
inductive Delivers (settings : Settings) (S : MemberStream) (st : Store) (note : Note) :
    HomeAction → Prop where
  | change {req : Request} {params : Obj} {n : Notification}
      (hkind : note.kind.isMessage = false)
      (hcontext : notificationContext settings st req params .stateChanged = .ok n)
      (hcarries : S.Carries note req n)
      (hreceipt : verifiedReceipt st req n.body .stateChanged =
        .ok (note.receipt, (note.version : ℤ), (note.seq : ℤ))) :
      Delivers settings S st note (.stateChanged req params)
  | message {req : Request} {params : Obj} {n : Notification} {m : IncomingMessage}
      (hkind : note.kind = .message m.messageId)
      (hcontext : notificationContext settings st req params .incoming = .ok n)
      (hcarries : S.Carries note req n)
      (hmessage : verifiedIncoming st req params n = .ok m)
      (hversion : m.stateVersion = note.version) (hseq : m.eventSeq = note.seq) :
      Delivers settings S st note (.incoming req params)

/-- **The answer of the Host** to the forwarded command behind a departure. -/
structure Answers (S : MemberStream) (note : Note) (method : GroupMethod) (params result : Obj) :
    Prop where
  kind : note.kind = .departed method
  meta_v2 : ∃ metaObj target, params.get "_anp_meta" = .obj metaObj ∧
    Obj.get metaObj "profile" = .str WireProfile.v2.text ∧
    Obj.get metaObj "target" = .obj target ∧ Obj.get target "did" = .str S.group
  receipt : result.get "group_receipt" = .obj note.receipt
  version : result.get "group_state_version" = .str (toString note.version)
  seq : result.get "group_event_seq" = .str (toString note.seq)
  subject : ∀ eventType status subject, terminalWords method = some (eventType, status, subject) →
    result.get subject = .str S.owner

/-- **An authentic snapshot** for the member's roster read: the group right after an event of one of
its memberships. -/
structure Snapshot (S : MemberStream) (note : Note) (req : Request) (result : Obj) : Prop where
  member : note.kind.isDeparture = false
  reader : req.credentials = .bearer S.owner
  version : result.get "group_state_version" = .str (toString note.version)
  seq : result.get "group_event_seq" = .str (toString note.seq)
  host : ∀ service, req.outside.discoverAnpService S.group = .ok service →
    service.get "serviceDid" = .str S.host

/-! ### The interleaving -/

/-- The Home, how many notifications it has accepted, and how many of them the Host knows of. -/
structure HomeRun where
  store : Store
  received : ℕ
  acked : ℕ

/-- **One step**: the head of the stream is delivered and accepted, with or without its answer
reaching the Host; it is refused; the answer to a forwarded command is applied; the roster is
read. -/
inductive StreamStep (settings : Settings) (S : MemberStream) :
    HomeRun → HomeAction → HomeRun → Prop where
  | accepted {r : HomeRun} {action : HomeAction} {note : Note} {st' : Store}
      (hnote : S.notes[r.acked]? = some note)
      (hdelivers : S.Delivers settings r.store note action)
      (hcall : homeCall settings r.store action = .ok st') (answered : Bool) :
      StreamStep settings S r action
        { store := st', received := r.acked + 1,
          acked := if answered then r.acked + 1 else r.acked }
  | refused {r : HomeRun} {action : HomeAction} {note : Note} {e : AwikiError}
      (hnote : S.notes[r.acked]? = some note)
      (hdelivers : S.Delivers settings r.store note action)
      (hcall : homeCall settings r.store action = .error e) : StreamStep settings S r action r
  | answer {r : HomeRun} {m : ℕ} {note : Note} {req : Request} {params result : Obj}
      {method : GroupMethod} (hnote : S.notes[m]? = some note)
      (hanswers : S.Answers note method params result) :
      StreamStep settings S r (.forward req params method result)
        { r with store := afterHome settings r.store (.forward req params method result) }
  | snapshot {r : HomeRun} {q : ℕ} {note : Note} {req : Request} {result : Obj}
      (hnote : S.notes[q]? = some note) (hsnapshot : S.Snapshot note req result) :
      StreamStep settings S r (.refresh req S.group result)
        { r with store := afterHome settings r.store (.refresh req S.group result) }

/-- **The condition on answers.** When the answer to a departure is applied to a projection, every
state change before the departure that has not been accepted yet is covered by an observation of the
projection. -/
def ChangesSettled (S : MemberStream) (r : HomeRun) : HomeAction → Prop
  | .forward _ params method result => ∀ m note, S.notes[m]? = some note →
      S.Answers note method params result →
      ∀ view, r.store.groupView? S.owner S.group = some view →
        ∀ i earlier, r.received ≤ i → i < m → S.notes[i]? = some earlier →
          earlier.kind.isMessage = false →
          coveredByObservation view (some S.host) earlier.seq earlier.version = true
  | _ => True

/-- A Home that knows nothing of the member's part in the group yet. -/
structure Fresh (S : MemberStream) (st : Store) : Prop where
  view : st.groupView? S.owner S.group = none
  records : ∀ e ∈ st.inboundPeerEvents, e.groupDid = S.group → e.targetDid ≠ S.owner
  activations : ∀ e ∈ st.syncEvents, isActivationRow S.owner S.group e = false
  messages : ∀ r ∈ st.groupMessageViews, r.ownerDid = S.owner → r.groupDid ≠ S.group
  operations : ∀ op ∈ st.groupOperations, op.groupScope = S.group →
    op.result.get "leaver_did" ≠ .str S.owner ∧ op.result.get "member_did" ≠ .str S.owner ∧
    ∀ note ∈ S.notes, ∀ method, note.kind = .departed method →
      ¬ (op.method = method ∧ note.receipt.get "actor_did" = .str op.senderDid ∧
        note.receipt.get "operation_id" = .str op.operationId)
  keyed : Table.Keyed GroupOperation.key st.groupOperations

end MemberStream

end Awiki
