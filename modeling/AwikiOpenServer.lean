import AwikiOpenServer.Lib.Json
import AwikiOpenServer.Lib.Text
import AwikiOpenServer.Lib.Table
import AwikiOpenServer.Lib.Runs
import AwikiOpenServer.Lib.Packing
import AwikiOpenServer.Lib.Transactions
import AwikiOpenServer.Shared.Errors
import AwikiOpenServer.Storage.Db
import AwikiOpenServer.Protocol.AnpAdapter
import AwikiOpenServer.Shared.Runtime
import AwikiOpenServer.Messaging.SyncContract
import AwikiOpenServer.Messaging.SyncLog
import AwikiOpenServer.Messaging.DirectSend
import AwikiOpenServer.Messaging.LegacyGroups
import AwikiOpenServer.Messaging.MessageNumbers
import AwikiOpenServer.Messaging.ReadState
import AwikiOpenServer.Messaging.StandardSync
import AwikiOpenServer.Messaging.SnapshotBudget
import AwikiOpenServer.Messaging.Snapshots
import AwikiOpenServer.Messaging.SyncDelta
import AwikiOpenServer.Messaging.DeltaErrors
import AwikiOpenServer.Messaging.LogWriters
import AwikiOpenServer.Messaging.ReadStateLog
import AwikiOpenServer.Messaging.DeltaDrain
import AwikiOpenServer.Messaging.SnapshotSessions
import AwikiOpenServer.Messaging.Groups.Protocol
import AwikiOpenServer.Messaging.Groups.Delivery
import AwikiOpenServer.Messaging.Groups.Projection
import AwikiOpenServer.Messaging.Groups.Service
import AwikiOpenServer.Messaging.Groups.Operations
import AwikiOpenServer.Messaging.Groups.Acceptance
import AwikiOpenServer.Messaging.Groups.Outcomes
import AwikiOpenServer.Messaging.Groups.Outbox
import AwikiOpenServer.Messaging.Groups.HostLog
import AwikiOpenServer.Messaging.Groups.Fanout
import AwikiOpenServer.Messaging.Groups.Fifo
import AwikiOpenServer.Messaging.Groups.MemberStream
import AwikiOpenServer.Messaging.Groups.Recipients
import AwikiOpenServer.Messaging.Groups.Inbound
import AwikiOpenServer.Messaging.Groups.Routing
import AwikiOpenServer.Messaging.Groups.HomeVersions
import AwikiOpenServer.Messaging.Groups.InboundOnce
import AwikiOpenServer.Messaging.Groups.Idempotency
import AwikiOpenServer.Messaging.Groups.Envelope
import AwikiOpenServer.Messaging.Groups.HomeAccepts
import AwikiOpenServer.Messaging.SyncV2
import AwikiOpenServer.Lib.Commits
import AwikiOpenServer.Attachments.Bytes
import AwikiOpenServer.Attachments.Lifecycle
import AwikiOpenServer.Lib.Rely
import AwikiOpenServer.Messaging.ReadPrefix
import AwikiOpenServer.UserCompat.AgentTokens
import AwikiOpenServer.UserCompat.Documents
import AwikiOpenServer.UserCompat.Registration
import AwikiOpenServer.UserCompat.Revocation
import AwikiOpenServer.Messaging.SnapshotSelection
import AwikiOpenServer.Messaging.GroupHistory
import AwikiOpenServer.Messaging.Groups.Migration
import AwikiOpenServer.Messaging.Groups.LocalProjection
import AwikiOpenServer.Messaging.Groups.Independence
import AwikiOpenServer.Messaging.Groups.MemberLimit
import AwikiOpenServer.Messaging.Groups.Backlog
import AwikiOpenServer.Messaging.Groups.ProjectionAgreement
import AwikiOpenServer.Messaging.Groups.Notices
import AwikiOpenServer.Messaging.Groups.NoticeDelivery
import AwikiOpenServer.Messaging.Groups.RemoteProjection
import AwikiOpenServer.Messaging.Groups.RemoteSteps
import AwikiOpenServer.Messaging.Groups.RemoteFollows
import AwikiOpenServer.UserCompat.AuthNonces
import AwikiOpenServer.Lib.Keyset
import AwikiOpenServer.Messaging.ThreadAfter
import AwikiOpenServer.Messaging.Groups.Policies
import AwikiOpenServer.UserCompat.LocalDids
import AwikiOpenServer.Messaging.Groups.Rebind
import AwikiOpenServer.Messaging.DirectReplay
import AwikiOpenServer.Lib.Iso8601
import AwikiOpenServer.Messaging.SnapshotCutoff
import AwikiOpenServer.Messaging.ManifestBudget
import AwikiOpenServer.Lib.Offsets
import AwikiOpenServer.Messaging.GroupLists
import AwikiOpenServer.Messaging.CompleteLists
import AwikiOpenServer.Storage.DueTimes
import AwikiOpenServer.App.Realtime
import AwikiOpenServer.UserCompat.RegistrationCheck
import AwikiOpenServer.Attachments.Digests
import AwikiOpenServer.Lib.JsonText
import AwikiOpenServer.Messaging.ConversationRefs
import AwikiOpenServer.Lib.JsonEquality
import AwikiOpenServer.Protocol.MethodLookup
import AwikiOpenServer.UserCompat.DeviceTokens
import AwikiOpenServer.Protocol.Registry
import AwikiOpenServer.Shared.Jsonrpc
import AwikiOpenServer.App.Routes
import AwikiOpenServer.Lib.Urls
import AwikiOpenServer.Attachments.Tickets
import AwikiOpenServer.Messaging.Groups.Phases
import AwikiOpenServer.Messaging.Groups.Cutover
import AwikiOpenServer.Lib.Linearizable
import AwikiOpenServer.Services.Sites
import AwikiOpenServer.Services.Website
import AwikiOpenServer.Lib.Directory
import AwikiOpenServer.UserCompat.Handles
import AwikiOpenServer.UserCompat.HandleDirectory
