import LocalNetwork.Dict
import LocalNetwork.Transition
import LocalNetwork.SecureChannel
import LocalNetwork.HolePunch
import LocalNetwork.Membership
import LocalNetwork.ServiceTable
import LocalNetwork.Challenge
import LocalNetwork.Interference
import LocalNetwork.NetworkEvents
import LocalNetwork.Reconnect
import LocalNetwork.Presence
import LocalNetwork.Cleanup
import LocalNetwork.Handling
import LocalNetwork.ErrorReplies
import LocalNetwork.Admission
import LocalNetwork.Confidentiality
import LocalNetwork.FanOut
import LocalNetwork.RelayConsumer
import LocalNetwork.RelayPaths
import LocalNetwork.Messages
import LocalNetwork.ServiceAgreement
import LocalNetwork.Correlation
import LocalNetwork.Residue
import LocalNetwork.Text
import LocalNetwork.LossyDecoder
import LocalNetwork.HttpResponse
import LocalNetwork.StaticFiles
import LocalNetwork.InviteCodes
import LocalNetwork.JoinRoutes
import LocalNetwork.PeerLookup
import LocalNetwork.TopologyRules
import LocalNetwork.PeerPresence
import LocalNetwork.AddressTables
import LocalNetwork.CommandLine
import LocalNetwork.RelayRepresentation
import LocalNetwork.BackupServers
import LocalNetwork.LeastConnections
import LocalNetwork.CacheCrash
import LocalNetwork.CachePurge
import LocalNetwork.PoolCallers
import LocalNetwork.StatusCounters
import LocalNetwork.UnavailableServers
import LocalNetwork.WebSocketRelay
import LocalNetwork.WebSocketHandshake
import LocalNetwork.TunnelSockets
import LocalNetwork.DeadTunnels
import LocalNetwork.WeightedShares
import LocalNetwork.HealthHistory
import LocalNetwork.ChunkedBody
import LocalNetwork.CacheSize
import LocalNetwork.ForwardedStreams
import LocalNetwork.CacheKeys
import LocalNetwork.CacheFreshness
import LocalNetwork.RateLimiter
import LocalNetwork.IpAddress
import LocalNetwork.AccessControl
import LocalNetwork.IdleConnections
import LocalNetwork.DroppedClients
import LocalNetwork.PeersToConnect
import LocalNetwork.KeepAlive
import LocalNetwork.StreamFrames
import LocalNetwork.ServiceConsumer
import LocalNetwork.FrameCodec
import LocalNetwork.Stun
import LocalNetwork.MessageContract
import LocalNetwork.RegistrationChecks
import LocalNetwork.StreamCleanup
import LocalNetwork.Backoff
import LocalNetwork.MessageTypes
import LocalNetwork.TypedMessages
import LocalNetwork.PortMapping
import LocalNetwork.FirstLargest
import LocalNetwork.Routes
import LocalNetwork.StreamCodec
import LocalNetwork.ChunkedResponse
import LocalNetwork.Arp
import LocalNetwork.PacketOrigin
import LocalNetwork.TunnelDelivery
import LocalNetwork.SignOn
import LocalNetwork.ProxySession
import LocalNetwork.Master
import LocalNetwork.AdminSessions
import LocalNetwork.ConsumerStreams
import LocalNetwork.MetadataIndex
import LocalNetwork.Identity
import LocalNetwork.Handshake
