import Redes.Dijkstra.Memory
import Redes.Router.RoutingTable

/-!
# Recomputing the routes

`run_dijkstra` clears the dynamic routes and then, for each entry of the topology
table whose network has no route yet, searches a path to that network.  The heap and
the stack of the search live as long as the whole call: what one search leaves in them
is there when the next one starts.

## Main definitions

* `pushNeighbors`, `expandItem`, `searchTurn` — the parts of one search.
* `runEntry` — what is done for one entry of the topology table.
* `runDijkstra` — the whole call.
* `Terminates`, `Returns` — with enough fuel, the call ends, or returns.
-/

namespace Redes

/-- The sentinel of `dijkstra_stack`, which is allocated first. -/
def stackPtr : ℕ := 0

/-- The sentinel of `dijkstra_heap`. -/
def heapPtr : ℕ := 1

/-- The link to the neighbour of an interface. -/
def firstLink (routerId : IpAddr) (i : SrIf) : TopologyEntry :=
  createOspfv2TopologyEntry routerId i.network i.mask i.neighborId i.neighborIp 0

/-- The loop over the interfaces that starts a search: the link of each interface with a
neighbour whose network occurs in the topology table goes on the heap. -/
def pushNeighbors (routerId : IpAddr) (topology : List TopologyEntry) (ifList : List SrIf)
    (m : Mem) : Mem :=
  ifList.foldl (fun m i =>
    if searchTopolgyTable topology i.network = false then m
    else if i.neighborId ≠ 0 then
      let (m, item) := createDikjstraItem m (firstLink routerId i) 1
      dijkstraStackPush m heapPtr item
    else m) m

/-- The test that lets the search go on from the link `prev` to the entry `ptr`. -/
def Follows (prev ptr : TopologyEntry) : Prop :=
  ptr.routerId = prev.neighborId ∧ ptr.netNum ≠ prev.netNum ∧ ptr.neighborId ≠ prev.neighborId

instance (prev ptr : TopologyEntry) : Decidable (Follows prev ptr) :=
  inferInstanceAs (Decidable (_ ∧ _ ∧ _))

/-- The loop over the topology table that puts the links after the popped item on the
heap. -/
def expandItem (topology : List TopologyEntry) (item : ℕ) (m : Mem) : Mem :=
  topology.foldl (fun m ptr =>
    if Follows (m.node item).topologyEntry ptr then
      let (m, new) := createDikjstraItem m (cloneOspfv2TopologyEntry ptr) ((m.node item).cost + 1)
      dijkstraStackReorder (dijkstraStackPush (m.setParent new (some item)) heapPtr new) heapPtr
    else m) m

/-- One pop of the search for `target`.  The two nested loops of the program leave
together when the heap is empty or the target is found; an item without neighbour is
dropped; any other item goes on the stack and is expanded. -/
def searchTurn (topology : List TopologyEntry) (target : IpAddr) (m : Mem) : Turn Mem Mem :=
  match dijkstraStackPop m heapPtr with
  | (m, none) => .leave m
  | (m, some item) =>
      if (m.node item).topologyEntry.netNum = target then
        .leave (dijkstraStackPush m stackPtr item)
      else if (m.node item).topologyEntry.neighborId ≠ 0 then
        .again (expandItem topology item (dijkstraStackPush m stackPtr item))
      else .again m

/-- What `run_dijkstra` changes: the memory of the search and the routing table. -/
structure DijkstraState where
  /-- The items. -/
  mem : Mem
  /-- `sr->routing_table`. -/
  routingTable : List SrRt

/-- The interface whose network the next hop of a first link lies in. -/
def nextHopInterface (ifList : List SrIf) (link : TopologyEntry) : Option SrIf :=
  ifList.find? fun i => i.network = link.nextHop &&& link.netMask

/-- The body of the loop over the topology table.  Without an interface for the next hop
the assertion of `sr_add_rt_entry` on the interface name fails. -/
def runEntry (fuel : ℕ) (ifList : List SrIf) (topology : List TopologyEntry) (routerId : IpAddr)
    (s : DijkstraState) (entry : TopologyEntry) : Except Halt DijkstraState :=
  if checkRoute s.routingTable entry.netNum then .ok s
  else
    match Loop.run (searchTurn topology entry.netNum) fuel
        (pushNeighbors routerId topology ifList s.mem) with
    | none => .error .outOfFuel
    | some m =>
        match dijkstraStackPop m stackPtr with
        | (m, none) => .ok { s with mem := m }
        | (m, some item) =>
            let link := (m.node (m.root item item)).topologyEntry
            match nextHopInterface ifList link with
            | none => .error .assertion
            | some i => .ok ⟨m, srAddRtEntry s.routingTable entry.netNum link.nextHop
                entry.netMask i.name 110⟩

/-- The memory in which `run_dijkstra` starts: the two sentinels. -/
def initialMem : Mem :=
  let zero := createOspfv2TopologyEntry 0 0 0 0 0 0
  (createDikjstraItem (createDikjstraItem emptyMem zero 0).1 zero 0).1

/-- `run_dijkstra`, for the interface list, the topology table and the routing table its
parameter points to: the new routing table. -/
def runDijkstra (fuel : ℕ) (ifList : List SrIf) (topology : List TopologyEntry)
    (routerId : IpAddr) (routingTable : List SrRt) : Except Halt (List SrRt) :=
  (topology.foldlM (runEntry fuel ifList topology routerId)
    ⟨initialMem, clearRoutes routingTable⟩).map DijkstraState.routingTable

/-- Every search that `run_dijkstra` starts ends: with enough turns the call does not run
out of them. -/
def Terminates (ifList : List SrIf) (topology : List TopologyEntry) (routerId : IpAddr)
    (routingTable : List SrRt) : Prop :=
  ∃ fuel, runDijkstra fuel ifList topology routerId routingTable ≠ .error .outOfFuel

/-- `run_dijkstra` returns with the given routing table. -/
def Returns (ifList : List SrIf) (topology : List TopologyEntry) (routerId : IpAddr)
    (routingTable result : List SrRt) : Prop :=
  ∃ fuel, runDijkstra fuel ifList topology routerId routingTable = .ok result

end Redes
