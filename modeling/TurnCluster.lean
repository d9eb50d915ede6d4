import TurnCluster.Proxy.Manager
import TurnCluster.Proxy.Frames
import TurnCluster.Proxy.Sources
import TurnCluster.Lib.Run
import TurnCluster.Proxy.World
import TurnCluster.Proxy.Abort
import TurnCluster.Proxy.Isolation
import TurnCluster.Relay.Holding
import TurnCluster.Relay.Exclusion
import TurnCluster.Lib.Traced
import TurnCluster.Relay.Buffer
import TurnCluster.Server.Allocation
import TurnCluster.Server.Peer
import TurnCluster.Server.PeerPermission
import TurnCluster.Relay.Building
import TurnCluster.Server.PeerBytes
import TurnCluster.Lib.Buckets
import TurnCluster.Listener.Sockets
import TurnCluster.Server.PeerLength
import TurnCluster.Listener.Consistency
import TurnCluster.Stun.Attribute
import TurnCluster.Server.Session
import TurnCluster.Server.Auth
import TurnCluster.Server.Lifetimes
import TurnCluster.Server.Allocate
import TurnCluster.Server.Refresh
import TurnCluster.Server.Command
import TurnCluster.Server.Credentials
import TurnCluster.Server.KeyBinding
import TurnCluster.Server.Covered
import TurnCluster.Proxy.Routes
import TurnCluster.Proxy.Release
import TurnCluster.Proxy.Transparency
import TurnCluster.Server.Send
import TurnCluster.Server.SendTransparency
import TurnCluster.Relay.Reading
import TurnCluster.Relay.Response
import TurnCluster.Server.PeerTransparency
import TurnCluster.Cluster.Crossing
import TurnCluster.Server.Binding
import TurnCluster.Server.Reflexive
import TurnCluster.Server.Tables
import TurnCluster.Server.TableRuns
import TurnCluster.Server.PermissionUpdate
import TurnCluster.Server.Permitted
import TurnCluster.Server.PermissionCount
import TurnCluster.Lib.Linked
import TurnCluster.Server.Expiry
import TurnCluster.Server.RelayAlive
import TurnCluster.Lib.Ring
import TurnCluster.Relay.Ring
import TurnCluster.Server.Removal
import TurnCluster.Relay.Availability
import TurnCluster.Relay.Capacity
import TurnCluster.Relay.Creation
import TurnCluster.Relay.Wear
import TurnCluster.Server.Quota
import TurnCluster.Server.Draft
import TurnCluster.Server.Responses
import TurnCluster.Server.DualAllocation
import TurnCluster.Server.Answers
import TurnCluster.Server.PeerAddr
import TurnCluster.Server.RtcpMap
import TurnCluster.Proxy.Attribution
import TurnCluster.Proxy.ShortFrames
import TurnCluster.Server.GrantedLifetime
import TurnCluster.Server.RealmQuota
import TurnCluster.Server.Identity
import TurnCluster.Server.RejectedIdentity
import TurnCluster.Server.Usage
import TurnCluster.Server.QuotaPairing
import TurnCluster.Stun.Walk
import TurnCluster.Stun.Framing
import TurnCluster.Relay.ChannelData
import TurnCluster.Relay.Writing
import TurnCluster.Server.Integrity
import TurnCluster.Relay.Fingerprint
import TurnCluster.Lib.BigEndian
import TurnCluster.Server.IpRange
import TurnCluster.Lib.Decimal
import TurnCluster.Proxy.Keys
import TurnCluster.Cluster.Keys
import TurnCluster.Lib.FiniteMap
import TurnCluster.Lib.Service
import TurnCluster.Server.LocalMapCalls
import TurnCluster.Lib.BucketMap
import TurnCluster.Listener.AddrMap
import TurnCluster.Server.StringMap
import TurnCluster.Lib.Loop
import TurnCluster.Server.MobileId
import TurnCluster.Server.TcpConnections
import TurnCluster.Server.ConnectionBind
import TurnCluster.Relay.Bandwidth
import TurnCluster.Relay.AddrRoundTrip
import TurnCluster.Server.UserKey
import TurnCluster.Lib.Serial
import TurnCluster.Stun.OauthToken
import TurnCluster.Stun.TokenCopies
import TurnCluster.Server.BpsCapacity
import TurnCluster.Lib.Rotation
import TurnCluster.Server.AlternateServer
import TurnCluster.Lib.Fields
import TurnCluster.Server.AddrText
import TurnCluster.Lib.Base64
import TurnCluster.Server.MobileTicket
import TurnCluster.Lib.CString
import TurnCluster.Stun.SaslPrep
import TurnCluster.Lib.Crc
import TurnCluster.Relay.CrcTable
import TurnCluster.Relay.SuperMemory
import TurnCluster.Relay.StreamInput
import TurnCluster.Server.TcpRelay
