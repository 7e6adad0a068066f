import Redes.Lib.Loop
import Redes.Lib.Digraph
import Redes.Lib.SortedQueue
import Redes.Lib.Walk
import Redes.Lib.BestFirst
import Redes.Router.Interface
import Redes.Router.Frame
import Redes.Router.RoutingTable
import Redes.Lib.FirstMax
import Redes.Router.LongestPrefix
import Redes.Lib.Sweep
import Redes.Pwospf.Topology
import Redes.Pwospf.Sequence
import Redes.Pwospf.Packet
import Redes.Pwospf.Order
import Redes.Lib.Keyed
import Redes.Router.ArpCache
import Redes.Router.ArpLearning
import Redes.Router.ArpRequest
import Redes.Router.ArpPacket
import Redes.Router.ArpCount
import Redes.Router.ArpReturns
import Redes.Router.ArpLedger
import Redes.Router.Forwarding
import Redes.Router.IcmpError
import Redes.Router.Acceptable
import Redes.Router.Sends
import Redes.Pwospf.Flooding
import Redes.Pwospf.Neighbors
import Redes.Pwospf.Sweeps
import Redes.Pwospf.TableRuns
import Redes.Pwospf.Send
import Redes.Pwospf.RoundTrip
import Redes.Router.System
import Redes.Pwospf.HelloExchange
import Redes.Pwospf.NextLsu
import Redes.Lib.DepthFirst
import Redes.Router.ArpTermination
import Redes.Router.ArpSweep
import Redes.Lib.Chain
import Redes.Lib.Cut
import Redes.Lib.Logged
import Redes.Lib.Fuel
import Redes.Lib.Bytes
import Redes.Lib.OnesComplement
import Redes.Router.Checksum
import Redes.Router.CksumLoops
import Redes.Router.HeapBytes
import Redes.Dijkstra.Memory
import Redes.Dijkstra.Run
import Redes.Dijkstra.Simulation
import Redes.Dijkstra.Entry
import Redes.Dijkstra.Termination
import Redes.Dijkstra.Routes
import Redes.Dijkstra.Mutex
import Redes.Dijkstra.BaseRoutes
import Redes.JsonRpc.Reader
import Redes.JsonRpc.Json
import Redes.JsonRpc.Request
import Redes.JsonRpc.Server
import Redes.JsonRpc.Session
import Redes.JsonRpc.Client
import Redes.JsonRpc.Binding
import Redes.JsonRpc.Invocation
import Redes.JsonRpc.RemoteCall
import Redes.JsonRpc.Dumps
import Redes.Router.ArpInput
import Redes.Dijkstra.Lists
import Redes.Dijkstra.NextHops
import Redes.Dijkstra.Prefixes
import Redes.Pwospf.RouterId
import Redes.Router.LoadTable
import Redes.Reenvio.Router
import Redes.Reenvio.ColdCache
import Redes.Router.Reads
import Redes.Lib.Network
import Redes.Network.Steps
import Redes.Network.Emits
import Redes.Network.Bears
import Redes.Network.Routers
import Redes.Network.LinkState
import Redes.Network.Floods
import Redes.Network.Converged
import Redes.Network.Delivery
import Redes.Lib.BlockHash
import Redes.Vns.Sha1
import Redes.Vns.Hashing
import Redes.Lib.Framed
import Redes.Vns.Wire
import Redes.Vns.HwInfo
import Redes.Vns.Session
import Redes.Vns.Handler
import Redes.Vns.Bridge
import Redes.Vns.Phases
import Redes.Vns.Behind
import Redes.Vns.Transparent
import Redes.Vns.Realized
