import Phirepass.Interleave.Pool
import Phirepass.Protocol.Codec
import Phirepass.Server.OneTime
import Phirepass.Server.Authorization
import Phirepass.Server.Reconnect
import Phirepass.Agent.TunnelRules
import Phirepass.Agent.Rules
import Phirepass.Interleave.Link
import Phirepass.Interleave.Stream
import Phirepass.Agent.Sessions
import Phirepass.Agent.NoPanic
import Phirepass.Agent.Uploads
import Phirepass.Agent.Teardown
import Phirepass.Agent.IdentityStore
import Phirepass.System.Directory
import Phirepass.System.Network
import Phirepass.Server.Integrity
import Phirepass.Server.Claim
import Phirepass.Server.Enumeration
import Phirepass.Server.Probing
import Phirepass.Server.Strangers
import Phirepass.Agent.Streams
import Phirepass.Server.Bindings
import Phirepass.System.Isolation
import Phirepass.System.Outbound
import Phirepass.Interleave.Path
import Phirepass.Interleave.Walk
import Phirepass.Interleave.Solo
import Phirepass.Server.Disconnect
import Phirepass.Server.WebEnd
import Phirepass.Server.Evicted
import Phirepass.Server.Heartbeats
import Phirepass.System.Notices
import Phirepass.Agent.Alone
import Phirepass.Agent.Delete
import Phirepass.Agent.Downloads
import Phirepass.Agent.Guards
import Phirepass.Agent.Chunks
import Phirepass.Agent.Opening
import Phirepass.System.Opening
import Phirepass.Channel.Sftp
import Phirepass.Protocol.Reencode
import Phirepass.Server.Token
import Phirepass.System.Download
import Phirepass.Server.NodeParts
import Phirepass.Server.Refusals
import Phirepass.Server.Published
import Phirepass.Relay.Scan
import Phirepass.System.Output
import Phirepass.System.Protocols
import Phirepass.Agent.Endpoint
import Phirepass.Agent.Endings
import Phirepass.Server.Unbinding
import Phirepass.System.Lifecycle
import Phirepass.System.Input
import Phirepass.Interleave.Answers
import Phirepass.Server.InOrder
import Phirepass.Agent.Replies
import Phirepass.System.Replies
import Phirepass.System.Phases
import Phirepass.Channel.Secrecy
import Phirepass.Channel.Selection
import Phirepass.System.Upload
import Phirepass.System.Login
