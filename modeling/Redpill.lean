import Redpill.Machine
import Redpill.Population
import Redpill.ByteStream
import Redpill.Packet
import Redpill.Padding
import Redpill.Batch
import Redpill.Priority
import Redpill.Downlink
import Redpill.DownlinkTransparency
import Redpill.Uplink
import Redpill.Shaper
import Redpill.ShaperBound
import Redpill.IpPool
import Redpill.Control
import Redpill.Auth
import Redpill.Metrics
import Redpill.Demux
import Redpill.Server
import Redpill.ServerSteps
import Redpill.Accounting
import Redpill.RouteIntegrity
import Redpill.DownlinkIsolation
import Redpill.UplinkAuthenticity
import Redpill.Config
import Redpill.ControlStream
import Redpill.Handshake
import Redpill.ClientSystem
import Redpill.ClientLoop
import Redpill.ClientTeardown
import Redpill.ClientShutdown
import Redpill.Framing
import Redpill.Subnet
import Redpill.ConnectionLimit
import Redpill.ShaperInterference
import Redpill.ClientAddress
import Redpill.Mtu
import Redpill.Pipe
import Redpill.RealityProxy
import Redpill.Decoy
import Redpill.Revocation
import Redpill.DnsRecovery
import Redpill.RouteRecovery
import Redpill.Reload
import Redpill.ShaperCoverage
import Redpill.TunnelTasks
import Redpill.DownlinkAccounting
import Redpill.SendBuffer
import Redpill.Replay
import Redpill.BatchNegotiation
import Redpill.DaemonStatus
import Redpill.BatchCodec
import Redpill.Classification
import Redpill.Notify
import Redpill.QueueSpec
import Redpill.QueueWakeup
import Redpill.SenderLoops
import Redpill.KeyFiles
import Redpill.UserAgreement
import Redpill.ShaperArithmetic
import Redpill.ShaperInvariant
import Redpill.ShaperOverflow
import Redpill.KeyParsing
import Redpill.Words
import Redpill.Firewall
import Redpill.NatRules
import Redpill.MssClamping
import Redpill.Atomic
import Redpill.ShaperConcurrency
import Redpill.ShaperRaceBound
import Redpill.ShaperRefinement
import Redpill.StatsConcurrency
import Redpill.DaemonProcesses
import Redpill.FullTunnel
import Redpill.HealthMonitor
import Redpill.KillSwitch
import Redpill.Reconnection
import Redpill.StreamLink
import Redpill.RealityTunnel
import Redpill.FirewallScripts
import Redpill.FirewallRuns
import Redpill.ServerFirewall
