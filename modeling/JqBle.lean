import JqBle.Library.Execution
import JqBle.Library.EntryMap
import JqBle.Library.BoundedQueue
import JqBle.Library.Text
import JqBle.Host.Core
import JqBle.Host.Topology
import JqBle.LinkProfile.Gatt
import JqBle.LinkProfile.Transport
import JqBle.LinkProfile.Cast
import JqBle.LinkProfile.Startup
import JqBle.LinkProfile.Task
import JqBle.LinkProfile.Ingress
import JqBle.LinkProfile.ControlIngress
import JqBle.LinkProfile.Handshake
import JqBle.LinkProfile.DataPlane
import JqBle.LinkProfile.ChannelTasks
import JqBle.LinkProfile.Introduction
import JqBle.LinkProfile.Outbound
import JqBle.NodeProfile.Topology
import JqBle.Client.Bridge
import JqBle.Client.Multicast
import JqBle.Client.Projector
import JqBle.Client.Client
import JqBle.Client.Node
import JqBle.Client.Wakeup
import JqBle.Client.Stream
import JqBle.Client.Inbound
import JqBle.Client.CommandLoop
import JqBle.Client.ShownLinks
import JqBle.Demo.Relay
import JqBle.Demo.Service
import JqBle.Demo.Topology
import JqBle.Demo.Invite
import JqBle.Demo.HostState
import JqBle.Proof.LinkProfile.Changes
import JqBle.Proof.LinkProfile.Scenario
import JqBle.Proof.LinkProfile.Discovery
import JqBle.Proof.LinkProfile.Sessions
import JqBle.Proof.LinkProfile.Representation
import JqBle.Proof.LinkProfile.Tables
import JqBle.Proof.LinkProfile.Channels
import JqBle.Proof.LinkProfile.Closure
import JqBle.Proof.LinkProfile.ChannelTasks
import JqBle.Proof.LinkProfile.ChannelPreference
import JqBle.Proof.LinkProfile.ChannelHealth
import JqBle.Proof.LinkProfile.Attribution
import JqBle.Proof.LinkProfile.Announcements
import JqBle.Proof.LinkProfile.Disconnect
import JqBle.Proof.LinkProfile.Integrity
import JqBle.Proof.LinkProfile.Ingress
import JqBle.Proof.LinkProfile.Conservation
import JqBle.Proof.LinkProfile.Handshake
import JqBle.Proof.LinkProfile.Lane
import JqBle.Proof.LinkProfile.DataPlane
import JqBle.Proof.LinkProfile.LaneOrder
import JqBle.Proof.LinkProfile.Introduction
import JqBle.Proof.LinkProfile.Fanout
import JqBle.Proof.LinkProfile.Startup
import JqBle.Proof.LinkProfile.StartupService
import JqBle.Proof.LinkProfile.StartupProgress
import JqBle.Proof.LinkProfile.Subscriptions
import JqBle.Proof.LinkProfile.Notify
import JqBle.Proof.LinkProfile.BatchDispatch
import JqBle.Proof.LinkProfile.Performed
import JqBle.Proof.LinkProfile.Authentication
import JqBle.Proof.LinkProfile.PublishedPsm
import JqBle.Proof.LinkProfile.Outbound
import JqBle.Proof.LinkProfile.Dispatch
import JqBle.Proof.LinkProfile.Fallback
import JqBle.Proof.NodeProfile.Topology
import JqBle.Proof.NodeProfile.Builder
import JqBle.Proof.Client.Bridge
import JqBle.Proof.Client.Batches
import JqBle.Proof.Client.Multicast
import JqBle.Proof.Client.Projector
import JqBle.Proof.Client.RouterTopology
import JqBle.Proof.Client.Rounds
import JqBle.Proof.Client.Commands
import JqBle.Proof.Client.Sends
import JqBle.Proof.Client.Publication
import JqBle.Proof.Client.RouteCache
import JqBle.Proof.Client.Receipts
import JqBle.Proof.Client.Node
import JqBle.Proof.Client.Wakeup
import JqBle.Proof.Client.Stream
import JqBle.Proof.Client.Inbound
import JqBle.Proof.Client.CommandLoop
import JqBle.Proof.Client.CommandBounds
import JqBle.Proof.Client.ShownLinks
import JqBle.Proof.Demo.Service
import JqBle.Proof.Demo.Relays
import JqBle.Proof.Demo.Topology
import JqBle.Proof.Demo.Invite
import JqBle.Proof.Demo.HostState
