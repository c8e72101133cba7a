import Protogate.Security.GracePeriod
import Protogate.Api.Revocation
import Protogate.TunnelAgent.Http2Session
import Protogate.Wire.SharedSocket
import Protogate.Wire.Bodies
import Protogate.Proxy.Downstream
import Protogate.Proxy.Upstream
import Protogate.Proxy.HttpProxy
import Protogate.Proxy.ResponseIsolation
import Protogate.Proxy.CloseConnection
import Protogate.Proxy.HandleRequest
import Protogate.Agent.StartRead
import Protogate.Agent.Correlation
import Protogate.Agent.SessionLifecycle
import Protogate.Server.HttpServer
import Protogate.Server.LiveAgents
import Protogate.Server.RegisteredAgents
import Protogate.Server.Shutdown
import Protogate.Server.Gateway
import Protogate.Lib.ByteOrder
import Protogate.Wire.TcpCodec
import Protogate.Lib.Codec
import Protogate.Proxy.ProtocolMultiplexer
import Protogate.TunnelAgent.Handover
import Protogate.Storage.TunnelRegistry
import Protogate.Models.TunnelJson
import Protogate.Storage.Persistence
import Protogate.Server.TcpServer
import Protogate.Server.PortOwners
import Protogate.Server.Deletion
import Protogate.Proxy.Established
import Protogate.Server.AgentBinding
import Protogate.Wire.Agreement
import Protogate.Lib.Access
import Protogate.Wire.DecodeBounds
import Protogate.Lib.SlidingWindow
import Protogate.Proxy.ReceiveBounds
import Protogate.Proxy.SendWindow
import Protogate.TunnelAgent.Splitter
import Protogate.Api.ConcurrentCreation
import Protogate.Api.ConcurrentRotation
import Protogate.Lib.Writes
import Protogate.TunnelAgent.LocalStream
import Protogate.Wire.RelayedRequest
import Protogate.Proxy.SequenceNumbers
import Protogate.Proxy.TemporaryIds
import Protogate.Proxy.ClosingCompletes
import Protogate.Proxy.CreateOutcome
import Protogate.Server.ConnectionCounts
import Protogate.Agent.Residue
import Protogate.Agent.StreamEnd
import Protogate.Agent.PendingBodies
import Protogate.TunnelAgent.Reassembly
import Protogate.Proxy.HostnameRouting
import Protogate.Wire.TunnelMetadata
import Protogate.Security.AllowlistPrinting
import Protogate.Security.AllowlistMatching
import Protogate.Security.CidrSyntax
import Protogate.Security.AllowlistAgreement
import Protogate.Api.UsableTunnels
import Protogate.Storage.ValidTunnels
import Protogate.TunnelAgent.AgentConfig
import Protogate.Server.PortNumbers
import Protogate.Server.Authentication
import Protogate.Lib.Results
import Protogate.Security.RateLimiter
import Protogate.Security.TunnelRateLimiter
import Protogate.Security.RateBound
import Protogate.Security.RefillPolling
import Protogate.Storage.CacheExpiry
import Protogate.Models.TunnelText
import Protogate.Security.TlsManager
import Protogate.Security.DefaultContext
import Protogate.Api.Router
import Protogate.Api.RouteTable
import Protogate.Api.AtomicCreation
import Protogate.Lib.OrderStatistics
import Protogate.Observability.Metrics
import Protogate.Observability.Logger
import Protogate.Observability.LoggingTerminates
import Protogate.Agent.Heartbeat
import Protogate.TunnelAgent.RunAgent
import Protogate.TunnelAgent.AgentPings
import Protogate.TunnelAgent.Reconnecting
import Protogate.TunnelAgent.Forwarding
import Protogate.TunnelAgent.ReportedCloses
import Protogate.TunnelAgent.CloseKeepsData
import Protogate.Lib.OutStream
import Protogate.TunnelAgent.ConnectionIdText
import Protogate.TunnelAgent.LocalTarget
import Protogate.TunnelAgent.OptionOrder
import Protogate.Lib.Channels
import Protogate.Tunnel.LocalService
import Protogate.Proxy.OwnAnswers
import Protogate.Tunnel.ClientReads
import Protogate.Tunnel.TcpStreams
import Protogate.Server.ListedTunnels
import Protogate.Security.AutoReload
import Protogate.Server.AcceptLoops
import Protogate.Api.RouterText
import Protogate.Server.ListeningPorts
import Protogate.TunnelAgent.SessionMemory
import Protogate.Server.SniCallback
import Protogate.Lib.Throwing
import Protogate.Server.Process
import Protogate.Tunnel.Handshake
