import Mathlib.Data.Nat.Notation
import AwikiOpenServer.Lib.Json
import AwikiOpenServer.Lib.Table

/-!
# The database

The tables the handlers read and write, one structure per row, and the store that holds them. A JSON
column is the document it decodes to; a column that only ever holds one of a few words is an
inductive type; timestamps are the text the server writes. Columns no handler reads are left out.

Counters the server computes itself are natural numbers. The counters of `group_views` are parsed
from remote text, where `int` also accepts a sign, so they are integers. Neither is bounded: a value
beyond 64 bits, which SQLite refuses, is stored here.

## What a store is

One record with a field for each table, and the number of random identifiers handed out. It is the
state of every run in this development, of one handler and of the server as a whole: handlers are
functions of a store, a commit replaces one, and the interleaving of statements is about which store
a statement sees. A field update is a table written, and the frame of a handler is visible in its
definition.

**Words, not texts.** Where the schema has a `CHECK`, or the code writes a column from a fixed set,
the column is an enumeration with the text of each word beside it. A handler that compares a column
with a word the code never writes there would show as a case that cannot occur. Where the column
holds what a client sent, it stays a text.

**Keys are functions.** The primary keys and unique indices of the schema are the functions at the
end of this module, and a table that respects one is `Table.Keyed` by it. Which tables do, in every
reachable state, is proved where their writers are, and not assumed by the type of the store.

The order of the structures follows the schema: identities, the groups of the time before hosted
Group DIDs, direct messages, hosted groups with their log and outbox, the projections a member's
Home keeps of them, attachments, and the sessions of ordinary sync.
-/

namespace Awiki

open Py

/-! ### The words of the schema -/

/-- Wire profile of a group: `anp.group.base.v1` or `anp.group.base.v2`. -/
inductive WireProfile where
  | v1
  | v2
  deriving DecidableEq, Repr

/-- `protocol_state` of a hosted group. -/
inductive ProtocolState where
  | active
  | quiescing
  deriving DecidableEq, Repr

/-- Role of a hosted member. -/
inductive Role where
  | member
  | admin
  | owner
  deriving DecidableEq, Repr

/-- Status of a hosted membership. -/
inductive MemberStatus where
  | active
  | left
  | removed
  deriving DecidableEq, Repr

/-- Status of a projected membership; `inactive` is only written for local members of a hosted
group. -/
inductive ViewStatus where
  | active
  | left
  | removed
  | inactive
  deriving DecidableEq, Repr

/-- Status of an outbox row. -/
inductive DeliveryStatus where
  | pending
  | retry
  | delivered
  | dead
  deriving DecidableEq, Repr

/-- Status of a DID document. -/
inductive DocumentStatus where
  | active
  | revoked
  deriving DecidableEq, Repr

/-- Status of an attachment slot. -/
inductive SlotStatus where
  | open
  | uploaded
  | committed
  | aborted
  deriving DecidableEq, Repr

/-- `state` of a protocol migration. -/
inductive MigrationState where
  | preparing
  | prepared
  | applied
  | cancelled
  deriving DecidableEq, Repr

/-- The group methods, hosted operations first. -/
inductive GroupMethod where
  | create
  | join
  | add
  | remove
  | leave
  | rebindMember
  | updateProfile
  | updatePolicy
  | send
  | getInfo
  | stateChanged
  | incoming
  deriving DecidableEq, Repr

namespace WireProfile

def text : WireProfile → String
  | v1 => "anp.group.base.v1"
  | v2 => "anp.group.base.v2"

def ofText? (s : String) : Option WireProfile := [v1, v2].find? fun p ↦ decide (p.text = s)

end WireProfile

namespace Role

def text : Role → String
  | member => "member"
  | admin => "admin"
  | owner => "owner"

def ofText? (s : String) : Option Role := [member, admin, owner].find? fun r ↦ decide (r.text = s)

/-- `ROLE_LEVEL`. -/
def level : Role → ℕ
  | member => 1
  | admin => 2
  | owner => 3

end Role

def MemberStatus.text : MemberStatus → String
  | active => "active"
  | left => "left"
  | removed => "removed"

def ViewStatus.text : ViewStatus → String
  | active => "active"
  | left => "left"
  | removed => "removed"
  | inactive => "inactive"

namespace GroupMethod

def text : GroupMethod → String
  | create => "group.create"
  | join => "group.join"
  | add => "group.add"
  | remove => "group.remove"
  | leave => "group.leave"
  | rebindMember => "group.rebind_member"
  | updateProfile => "group.update_profile"
  | updatePolicy => "group.update_policy"
  | send => "group.send"
  | getInfo => "group.get_info"
  | stateChanged => "group.state_changed"
  | incoming => "group.incoming"

def all : List GroupMethod :=
  [create, join, add, remove, leave, rebindMember, updateProfile, updatePolicy, send, getInfo,
    stateChanged, incoming]

def ofText? (s : String) : Option GroupMethod := all.find? fun m ↦ decide (m.text = s)

/-- Methods are told apart by their names. -/
theorem text_injective : Function.Injective text := by
  intro a b h
  cases a <;> cases b <;> first | rfl | exact absurd h (by decide)

end GroupMethod

/-! ### Identity tables -/

/-- `users`. -/
structure User where
  did : String
  handle : String
  token : String
  revokedAt : Option String
  handleBindingGeneration : String
  refreshToken : Option String := none
  accessExpiresAt : Option String := none
  refreshExpiresAt : Option String := none

/-- `profiles`. -/
structure ProfileRow where
  did : String
  handle : String

/-- `did_documents`. -/
structure DidDocument where
  did : String
  document : Json
  documentVersion : ℕ
  updatedAt : String
  status : DocumentStatus
  revokedAt : Option String

/-- `single_device_accounts`: the device an identity is bound to. -/
structure SingleDeviceAccount where
  did : String
  accountId : String
  deviceId : String
  signingKeyId : String
  rootKeyId : String
  keyFingerprint : String
  authGeneration : ℕ := 1
  deriving DecidableEq

/-- `single_device_auth_nonces`. -/
structure AuthNonce where
  nonceHash : String
  expiresAt : ℤ

/-- `agent_registration_tokens`. -/
structure AgentRegistrationToken where
  tokenHash : String
  ownerDid : String
  agentKind : String
  expiresAt : String
  revokedAt : Option String
  usedAt : Option String
  agentDid : Option String
  deriving DecidableEq

/-- `local_registration_otps`. -/
structure RegistrationOtp where
  phone : String
  purpose : String
  handle : Option String
  otpHash : String
  expiresAt : String

/-! ### Legacy groups -/

/-- `groups`: the groups of the server before it hosted Group DIDs. -/
structure LegacyGroup where
  groupDid : String
  displayName : String
  description : Option String
  joinMode : String
  createdAt : String

/-- `group_members`. -/
structure LegacyMember where
  groupDid : String
  memberDid : String
  role : String
  joinedAt : String

/-- `group_messages`: the messages of those groups. -/
structure LegacyMessage where
  messageId : String
  groupDid : String
  senderDid : String
  operationId : Option String
  body : Obj
  contentType : String
  createdAt : String
  serverSeq : ℕ

/-! ### Direct messages -/

/-- `direct_messages`. -/
structure DirectMessage where
  messageId : String
  senderDid : String
  recipientDid : String
  operationId : Option String
  body : Obj
  contentType : String
  createdAt : String
  serverSeq : ℕ
  metaJson : Option Obj
  originAuth : Option Obj
  originProofVerified : Bool
  authoritativeSenderDid : String
  securityProfile : String

/-- `direct_message_views`. -/
structure DirectMessageView where
  ownerDid : String
  messageId : String
  peerDid : String
  readAt : Option String := none

/-- `direct_conversation_refs`. -/
structure ConversationRef where
  ownerDid : String
  peerDid : String
  conversationRef : String

/-! ### Hosted groups -/

/-- `hosted_groups`. -/
structure HostedGroup where
  groupDid : String
  hostServiceDid : String
  creatorDid : String
  profile : Obj
  policy : Obj
  groupStateVersion : ℕ
  groupEventSeq : ℕ
  createdAt : String
  updatedAt : String
  wireProfile : WireProfile
  protocolState : ProtocolState

/-- `hosted_group_members`. -/
structure HostedMember where
  groupDid : String
  agentDid : String
  memberHandle : Option String
  handleBindingGeneration : Option String
  homeServiceDid : Option String
  role : Role
  status : MemberStatus
  joinedAt : String
  endedAt : Option String
  addedBy : Option String
  deriving DecidableEq

/-- `hosted_group_events`. -/
structure HostedEvent where
  groupDid : String
  groupEventSeq : ℕ
  eventId : String
  eventType : String
  groupStateVersion : ℕ
  subjectMethod : GroupMethod
  actorDid : String
  payload : Obj
  payloadDigest : String
  receipt : Obj
  createdAt : String

/-- `hosted_group_messages`. -/
structure HostedMessage where
  messageId : String
  groupDid : String
  groupEventSeq : ℕ
  senderDid : String
  operationId : String
  body : Obj
  contentType : String
  originAuth : Obj
  receipt : Obj
  createdAt : String
  wireProfile : WireProfile
  metaJson : Obj

/-- `group_operations`. -/
structure GroupOperation where
  senderDid : String
  groupScope : String
  method : GroupMethod
  operationId : String
  payloadDigest : String
  result : Obj
  createdAt : String
  wireProfile : WireProfile

/-- `group_did_documents`. -/
structure GroupDidDocument where
  groupDid : String
  document : Obj
  keyReference : String
  createdAt : String
  documentVersion : ℕ := 1

/-- `group_protocol_migrations`. -/
structure GroupProtocolMigration where
  groupDid : String
  planDigest : String
  state : MigrationState
  preparationId : String
  documentBefore : Obj
  backup : Option (String × String)
  preparedAt : String
  appliedAt : Option String

/-- `group_delivery_outbox`. -/
structure OutboxRow where
  deliveryId : String
  groupDid : String
  groupEventSeq : ℕ
  targetDid : String
  targetServiceDid : String
  method : GroupMethod
  envelope : Obj
  status : DeliveryStatus
  attemptCount : ℕ
  nextAttemptAt : String
  lastError : Option String
  createdAt : String
  updatedAt : String

/-! ### Projections of a member's Home -/

/-- `group_views`. -/
structure GroupView where
  ownerDid : String
  groupDid : String
  hostServiceDid : String
  profile : Obj
  policy : Obj
  groupStateVersion : ℤ
  groupEventSeq : ℤ
  memberRole : String
  membershipStatus : ViewStatus
  updatedAt : String
  wireProfile : WireProfile
  observedEventSeq : ℤ
  observedStateVersion : ℤ

/-- `group_member_views`. -/
structure GroupMemberView where
  ownerDid : String
  groupDid : String
  agentDid : String
  memberHandle : Option String
  handleBindingGeneration : Option String
  role : String
  status : String
  joinedAt : Option String
  updatedAt : String

/-- `group_message_views`. -/
structure GroupMessageView where
  ownerDid : String
  groupDid : String
  messageId : String
  groupEventSeq : ℤ
  groupStateVersion : ℤ
  senderDid : String
  operationId : String
  contentType : String
  body : Obj
  receipt : Obj
  acceptedAt : String
  wireProfile : WireProfile

/-- `inbound_peer_events`. -/
structure InboundPeerEvent where
  sourceServiceDid : String
  groupDid : String
  groupEventSeq : ℤ
  targetDid : String
  method : GroupMethod
  payloadDigest : String
  receivedAt : String

/-- `sync_events`. -/
structure SyncEvent where
  eventId : String
  ownerDid : String
  eventSeq : ℕ
  eventType : String
  payload : Obj
  createdAt : String

/-- `thread_read_states`. -/
structure ThreadReadState where
  ownerDid : String
  threadId : String
  readUpToSeq : ℕ
  readMessageId : Option String
  stateVersion : ℕ
  updatedAt : String
  deriving DecidableEq

/-! ### Attachments -/

/-- `attachment_slots`. -/
structure AttachmentSlot where
  slotId : String
  objectId : String
  attachmentId : Option String
  objectUri : Option String
  ownerDid : String
  uploadToken : String
  commitToken : String
  path : String
  status : SlotStatus
  expectedSize : Option ℕ
  expectedSha256 : Option String
  expectedContentType : Option String
  expiresAt : Option String
  deriving DecidableEq

/-- `attachment_objects`. -/
structure AttachmentObject where
  objectId : String
  sourceAttachmentId : Option String
  objectUri : Option String
  ownerDid : String
  path : String
  size : ℕ
  sha256 : String
  contentType : String
  deriving DecidableEq

/-- `download_tickets`. -/
structure DownloadTicket where
  ticket : String
  objectId : String
  expiresAt : String

/-! ### Sync sessions -/

/-- `sync_v2_bindings`. -/
structure SyncV2Binding where
  ownerDid : String
  accountId : String
  deviceId : String
  clientInstanceId : String
  streamEpoch : ℕ

/-- `sync_capability_negotiations`. -/
structure CapabilityNegotiation where
  accountId : String
  deviceId : String
  authGeneration : ℕ
  clientInstanceId : String
  negotiated : List String
  snapshotDelivery : Option String
  activationState : String

/-- An element of `pages_json`. -/
structure SnapshotPage where
  sectionName : String
  items : List Obj
  returnedItems : ℕ
  returnedEncodedBytes : ℕ
  pageDigest : String
  hasMore : Bool
  pageRef : String
  claims : Obj
  nextPageRef : Option String

/-- `sync_snapshot_sessions`. -/
structure SnapshotSession where
  recoveryId : String
  ownerDid : String
  accountId : String
  deviceId : String
  authGeneration : ℕ
  clientInstanceId : String
  streamEpoch : String
  snapshotScanSeq : String
  tokenHash : String
  expiresAt : String
  frozenAt : String
  messageCutoff : String
  manifest : Obj
  package : Obj
  pages : List SnapshotPage

/-! ### The store -/

/-- The database, with the number of random identifiers handed out so far. -/
structure Store where
  users : List User := []
  profiles : List ProfileRow := []
  didDocuments : List DidDocument := []
  groups : List LegacyGroup := []
  groupMembers : List LegacyMember := []
  groupMessages : List LegacyMessage := []
  directMessages : List DirectMessage := []
  directMessageViews : List DirectMessageView := []
  directConversationRefs : List ConversationRef := []
  hostedGroups : List HostedGroup := []
  hostedGroupMembers : List HostedMember := []
  hostedGroupEvents : List HostedEvent := []
  hostedGroupMessages : List HostedMessage := []
  groupOperations : List GroupOperation := []
  groupDidDocuments : List GroupDidDocument := []
  groupDeliveryOutbox : List OutboxRow := []
  groupViews : List GroupView := []
  groupMemberViews : List GroupMemberView := []
  groupMessageViews : List GroupMessageView := []
  inboundPeerEvents : List InboundPeerEvent := []
  syncEvents : List SyncEvent := []
  groupProtocolMigrations : List GroupProtocolMigration := []
  threadReadStates : List ThreadReadState := []
  syncV2Bindings : List SyncV2Binding := []
  syncCapabilityNegotiations : List CapabilityNegotiation := []
  syncSnapshotSessions : List SnapshotSession := []
  singleDeviceAccounts : List SingleDeviceAccount := []
  singleDeviceAuthNonces : List AuthNonce := []
  agentRegistrationTokens : List AgentRegistrationToken := []
  localRegistrationOtps : List RegistrationOtp := []
  attachmentSlots : List AttachmentSlot := []
  attachmentObjects : List AttachmentObject := []
  downloadTickets : List DownloadTicket := []
  issued : ℕ := 0

/-! ### Keys and selections -/

/-- One row for an agent in a group. -/
def HostedMember.key (m : HostedMember) : String × String := (m.groupDid, m.agentDid)

/-- One row for a member of a group. -/
def LegacyMember.key (m : LegacyMember) : String × String := (m.groupDid, m.memberDid)

/-- One row for an owner and a message. -/
def DirectMessageView.key (v : DirectMessageView) : String × String := (v.ownerDid, v.messageId)

/-- One reference for an owner and a peer. -/
def ConversationRef.key (r : ConversationRef) : String × String := (r.ownerDid, r.peerDid)

/-- One projection of a group for an owner. -/
def GroupView.key (v : GroupView) : String × String := (v.ownerDid, v.groupDid)

/-- One row for an owner, a group and an agent in it. -/
def GroupMemberView.key (v : GroupMemberView) : String × String × String :=
  (v.ownerDid, v.groupDid, v.agentDid)

/-- One event for a number of a group. -/
def HostedEvent.key (e : HostedEvent) : String × ℕ := (e.groupDid, e.groupEventSeq)

/-- What an operation is known by when it comes again. -/
def GroupOperation.key (o : GroupOperation) : String × String × GroupMethod × String :=
  (o.senderDid, o.groupScope, o.method, o.operationId)

/-- One row for an event, a member it is told to and the method it is told by. -/
def OutboxRow.key (r : OutboxRow) : String × ℕ × String × GroupMethod :=
  (r.groupDid, r.groupEventSeq, r.targetDid, r.method)

/-- One watermark for an owner and a thread. -/
def ThreadReadState.key (r : ThreadReadState) : String × String := (r.ownerDid, r.threadId)

/-- What a notification of a Host is known by when it comes again. -/
def InboundPeerEvent.key (e : InboundPeerEvent) : String × String × ℤ × String × GroupMethod :=
  (e.sourceServiceDid, e.groupDid, e.groupEventSeq, e.targetDid, e.method)

namespace Store

/-- `SELECT * FROM hosted_groups WHERE group_did = ?`. -/
def hostedGroup? (st : Store) (groupDid : String) : Option HostedGroup :=
  Table.row? HostedGroup.groupDid groupDid st.hostedGroups

/-- `SELECT * FROM hosted_group_members WHERE group_did = ? AND agent_did = ?`. -/
def hostedMember? (st : Store) (groupDid agentDid : String) : Option HostedMember :=
  Table.row? HostedMember.key (groupDid, agentDid) st.hostedGroupMembers

/-- Rows of the active members of a hosted group. -/
def activeMembers (st : Store) (groupDid : String) : List HostedMember :=
  st.hostedGroupMembers.filter fun m ↦ decide (m.groupDid = groupDid ∧ m.status = .active)

/-- `SELECT * FROM group_views WHERE owner_did = ? AND group_did = ?`. -/
def groupView? (st : Store) (ownerDid groupDid : String) : Option GroupView :=
  Table.row? GroupView.key (ownerDid, groupDid) st.groupViews

end Store

end Awiki
