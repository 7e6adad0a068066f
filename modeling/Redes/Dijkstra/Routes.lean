import Redes.Dijkstra.Termination

/-!
# The routes that the recomputation installs

When every network has a path, the routes go by way of shortest paths.  A network
without path gets a route as well, as soon as this router has a neighbour: the search for
it empties the heap, and what is popped from the stack then is an item of some other
search.

## Main definitions

* `HasChain` — there is a path to a network in the widest sense.

## Main results

* `runDijkstra_sound_iff` — when only networks with a path get a route.
* `runDijkstra_shortest` — the routes go by way of shortest paths.
-/

namespace Redes

open Walk

variable {routerId : IpAddr} {topology : List TopologyEntry} {ifList : List SrIf}
  {routingTable : List SrRt}

/-! ### Networks without path -/

/-- The links to the neighbours, whether or not the topology table knows the subnet. -/
def neighborLinks (routerId : IpAddr) (ifList : List SrIf) : List TopologyEntry :=
  (ifList.filter fun i => i.neighborId ≠ 0).map (firstLink routerId)

/-- The entries of the router that a link leads to. -/
def chainedLinks (topology : List TopologyEntry) (link : TopologyEntry) : List TopologyEntry :=
  topology.filter fun e => e.routerId = link.neighborId

/-- There is a path to the network `n` in the widest sense: the link to a neighbour, and
entries each of which belongs to the router the one before leads to. -/
def HasChain (routerId : IpAddr) (topology : List TopologyEntry) (ifList : List SrIf)
    (n : IpAddr) : Prop :=
  ∃ w, IsWalk (neighborLinks routerId ifList) (chainedLinks topology) w ∧ w.last.netNum = n

/-- What holds of every route that a call adds, whatever its searches find. -/
theorem preserves_needed {t : TopologyEntry} (ht : t ∈ topology)
    (hneed : NeedsRoute routingTable t) :
    Preserves routerId topology ifList (fun _ => True)
      (fun e => e.adminDst = 110 ∧ firstLinks routerId topology ifList ≠ [] ∧
        ∃ t ∈ topology, NeedsRoute routingTable t ∧ e.dest = t.netNum) t where
  queue _ _ _ _ _ := trivial
  route _ _ _ _ _ _ _ hw _ _ := ⟨rfl, List.ne_nil_of_mem hw.first_mem, t, ht, hneed, rfl⟩

/-- **Only networks with a path get a route exactly if this router has no neighbour, on a
subnet that the topology table knows, or every network that needs a route has a path**:
with a neighbour every one of them gets a route. -/
theorem runDijkstra_sound_iff {ifList : List SrIf} {topology : List TopologyEntry}
    {routerId : IpAddr} {routingTable result : List SrRt}
    (h : Returns ifList topology routerId routingTable result) :
    ∃ new, result = clearRoutes routingTable ++ new ∧ (∀ e ∈ new, e.adminDst = 110) ∧
      ((∀ e ∈ new, HasChain routerId topology ifList e.dest) ↔
        firstLinks routerId topology ifList = [] ∨
          ∀ t ∈ topology, NeedsRoute routingTable t →
            HasChain routerId topology ifList t.netNum) := by
  obtain ⟨⟨new, rfl, hnew⟩, hall⟩ := runDijkstra_invariant (Q := fun _ => True) trivial
    (fun t ht hneed => preserves_needed ht hneed) h
  refine ⟨new, rfl, fun e he => (hnew e he).1, ?_, ?_⟩
  · intro hchain
    rw [or_iff_not_imp_left]
    intro hlinks t ht hneed
    obtain ⟨e, he, hdest⟩ := checkRoute_eq_true.mp (hall hlinks t ht)
    rcases List.mem_append.mp he with he | he
    · -- a kept route would have kept the search from being made
      have hkept : checkRoute (clearRoutes routingTable) t.netNum = true :=
        checkRoute_eq_true.mpr ⟨e, he, hdest⟩
      rw [NeedsRoute, hkept] at hneed
      cases hneed
    · exact hdest ▸ hchain e he
  · rintro (hlinks | hpaths) e he
    · exact absurd hlinks (hnew e he).2.1
    · obtain ⟨-, -, t, ht, hneed, hdest⟩ := hnew e he
      exact hdest ▸ hpaths t ht hneed

/-- The neighbour's own subnet, and an entry of a router that is no longer connected. -/
def goneTopology : List TopologyEntry :=
  [createOspfv2TopologyEntry 0x07070707 0x0001000a 0x00ffffff 0x01010101 0x0201000a 1,
    createOspfv2TopologyEntry 0x0a0a0a0a 0x0009000a 0x00ffffff 0 0x0201000a 1]

/-- The network of the router that is gone gets a route by way of the neighbour. -/
theorem goneTopology_returns : Returns oneNeighbor goneTopology 0x01010101 oneRoute
    (oneRoute ++ [⟨0x0009000a, 0x0201000a, 0x00ffffff, "eth1".toList, 110⟩]) :=
  ⟨3, by rfl⟩

theorem goneTopology_not_hasChain : ¬ HasChain 0x01010101 goneTopology oneNeighbor 0x0009000a := by
  rintro ⟨w, hw, hlast⟩
  have hmem := hw.last_mem
    (S := {l | l ∈ neighborLinks 0x01010101 oneNeighbor ++ goneTopology.take 1})
    (fun r hr => List.mem_append_left _ hr)
    (show ∀ a ∈ neighborLinks 0x01010101 oneNeighbor ++ goneTopology.take 1,
      ∀ b ∈ chainedLinks goneTopology a,
        b ∈ neighborLinks 0x01010101 oneNeighbor ++ goneTopology.take 1 by decide)
  have hne : ∀ l ∈ neighborLinks 0x01010101 oneNeighbor ++ goneTopology.take 1,
      l.netNum ≠ 0x0009000a := by decide
  exact hne _ hmem hlast

/-- The call on this table, and why it meets the condition no more than the result does. -/
theorem goneTopology_sound_iff :
    ∃ new, oneRoute ++ [⟨0x0009000a, 0x0201000a, 0x00ffffff, "eth1".toList, 110⟩] =
        clearRoutes oneRoute ++ new ∧ (∀ e ∈ new, e.adminDst = 110) ∧
      ((∀ e ∈ new, HasChain 0x01010101 goneTopology oneNeighbor e.dest) ↔
        firstLinks 0x01010101 goneTopology oneNeighbor = [] ∨
          ∀ t ∈ goneTopology, NeedsRoute oneRoute t →
            HasChain 0x01010101 goneTopology oneNeighbor t.netNum) :=
  runDijkstra_sound_iff goneTopology_returns

/-- **A network without path gets a computed route.** -/
theorem goneTopology_unsound : ∃ result,
    Returns oneNeighbor goneTopology 0x01010101 oneRoute result ∧
      ∃ e ∈ result, e.IsDynamic ∧ e ∉ oneRoute ∧
        ¬ HasChain 0x01010101 goneTopology oneNeighbor e.dest := by
  refine ⟨_, goneTopology_returns, ⟨0x0009000a, 0x0201000a, 0x00ffffff, "eth1".toList, 110⟩,
    by simp, by decide, by decide, goneTopology_not_hasChain⟩

/-! ### Networks with a path -/

/-- A call with the neighbours on this router's subnets returns as soon as it ends. -/
theorem returns_of_terminates (hhops : NextHopsOk routerId topology ifList)
    (h : Terminates ifList topology routerId routingTable) :
    ∃ result, Returns ifList topology routerId routingTable result := by
  obtain ⟨fuel, hfuel⟩ := h
  rw [runDijkstra] at hfuel
  cases hf : topology.foldlM (runEntry fuel ifList topology routerId)
      ⟨initialMem, clearRoutes routingTable⟩ with
  | ok s => exact ⟨s.routingTable, fuel, by rw [runDijkstra, hf]; rfl⟩
  | error e =>
    have he : e = .outOfFuel := by
      refine Fuel.foldlM_error (I := fun s => ∃ q, StateOk routerId topology ifList s q)
        (P := fun e => e = Halt.outOfFuel) ?_ ⟨[], stateOk_initial _⟩ hf
      rintro s t - ⟨q, hs⟩
      refine ⟨fun e he => runEntry_error hhops hs he, ?_⟩
      intro s' hs'
      rcases runEntry_ok hs hs' with ⟨-, rfl⟩ | ⟨-, -, -, hok⟩ | ⟨-, -, r, w, i, -, -, -, -, -, hok⟩
      · exact ⟨q, hs⟩
      · exact ⟨[], hok⟩
      · exact ⟨r.2, hok⟩
    rw [hf, he] at hfuel
    exact absurd rfl hfuel

/-- With distinct networks and neighbours on their own subnets, the interface that the
next hop of a first link is looked up in is the one the link belongs to. -/
theorem nextHopInterface_firstLink (hnets : ifList.Pairwise fun i j => i.network ≠ j.network)
    {i : SrIf} (hi : i ∈ ifList) (hnbr : i.neighborIp &&& i.mask = i.network) :
    nextHopInterface ifList (firstLink routerId i) = some i := by
  have hlink : (firstLink routerId i).nextHop &&& (firstLink routerId i).netMask = i.network := hnbr
  rw [nextHopInterface, hlink]
  induction hnets with
  | nil => cases hi
  | @cons j rest hj _ ih =>
    rcases List.mem_cons.mp hi with rfl | hi
    · simp
    · rw [List.find?_cons_of_neg (by simpa using hj i hi)]
      exact ih hi

/-- The interface and gateway of a route by way of a first link. -/
theorem nextHopInterface_of_mem (hnets : ifList.Pairwise fun i j => i.network ≠ j.network)
    (hnbrs : ∀ i ∈ ifList, i.neighborId ≠ 0 → i.neighborIp &&& i.mask = i.network)
    {l : TopologyEntry} (hl : l ∈ firstLinks routerId topology ifList) :
    ∃ i ∈ ifList, firstLink routerId i = l ∧ nextHopInterface ifList l = some i := by
  obtain ⟨i, hi, ⟨-, halive⟩, rfl⟩ := mem_firstLinks.mp hl
  exact ⟨i, hi, rfl, nextHopInterface_firstLink hnets hi (hnbrs i hi halive)⟩

/-- The route `e` goes by way of the first link of a shortest path to its destination. -/
def ByShortestPath (routerId : IpAddr) (topology : List TopologyEntry) (ifList : List SrIf)
    (e : SrRt) : Prop :=
  ∃ w, Shortest (IsPathTo routerId topology ifList e.dest) w ∧
    ∃ i ∈ ifList, firstLink routerId i = w.first ∧ e.gw = i.neighborIp ∧ e.interface = i.name

/-- What the searches preserve when the networks have paths within the range of the cost. -/
theorem preserves_shortest (hnets : ifList.Pairwise fun i j => i.network ≠ j.network)
    (hnbrs : ∀ i ∈ ifList, i.neighborId ≠ 0 → i.neighborIp &&& i.mask = i.network)
    {t : TopologyEntry} (hpath : HasShortPath routerId topology ifList t.netNum) :
    Preserves routerId topology ifList
      (BestFirst.Bounded (firstLinks routerId topology ifList) (nextLinks topology) itemCost
        maxPathLength)
      (fun e => e.adminDst = 110 ∧ ByShortestPath routerId topology ifList e) t where
  queue q r hwalks hq hr := by
    obtain ⟨w, q', hleaves, -, hbounded⟩ := search_shortest hpath hwalks hq
    rwa [hr.unique hleaves]
  route q r w i hwalks hq hr hw hfound hi := by
    obtain ⟨w', q', hleaves, hshort, -⟩ := search_shortest hpath hwalks hq
    obtain rfl : w = w' := hfound w' (by rw [hr.unique hleaves])
    obtain ⟨j, hj, hlink, hj'⟩ := nextHopInterface_of_mem hnets hnbrs hw.first_mem
    obtain rfl : i = j := Option.some.inj (hi.symm.trans hj')
    exact ⟨rfl, w, hshort, i, hj, hlink, by rw [← hlink]; rfl, rfl⟩

/-- **When every network has a path, every network without a static or connected route
gets a computed one, and the computed routes to it go by way of shortest paths.** -/
theorem runDijkstra_shortest {ifList : List SrIf} {topology : List TopologyEntry}
    {routerId : IpAddr} {routingTable : List SrRt} (hlen : topology.length ≤ 250)
    (hpath : ∀ t ∈ topology, HasPath routerId topology ifList t.netNum)
    (hnets : ifList.Pairwise fun i j => i.network ≠ j.network)
    (hnbrs : ∀ i ∈ ifList, i.neighborId ≠ 0 → i.neighborIp &&& i.mask = i.network)
    (hhead : ∀ e ∈ routingTable.head?, ¬ e.IsDynamic) :
    (∃ result, Returns ifList topology routerId routingTable result) ∧
      ∀ result, Returns ifList topology routerId routingTable result →
        ∀ t ∈ topology, (∀ e ∈ routingTable, ¬ e.IsDynamic → e.dest ≠ t.netNum) →
          (∃ e ∈ result, e.dest = t.netNum ∧ e.adminDst = 110) ∧
            ∀ e ∈ result, e.dest = t.netNum → e.IsDynamic →
              e.adminDst = 110 ∧ ByShortestPath routerId topology ifList e := by
  have hshort : ∀ t ∈ topology, HasShortPath routerId topology ifList t.netNum :=
    fun t ht => (hpath t ht).short (by omega)
  have hhops : NextHopsOk routerId topology ifList := by
    intro l hl
    obtain ⟨i, -, -, hi⟩ := nextHopInterface_of_mem hnets hnbrs hl
    rw [hi]
    rfl
  refine ⟨returns_of_terminates hhops (terminates_of_paths fun t ht _ => hshort t ht), ?_⟩
  intro result hresult t ht hfree
  obtain ⟨⟨new, rfl, hnew⟩, hall⟩ := runDijkstra_invariant bounded_nil
    (fun t ht _ => preserves_shortest hnets hnbrs (hshort t ht)) hresult
  -- the kept routes are static or connected, so none of them leads to this network
  have hkept : ∀ e ∈ clearRoutes routingTable, ¬ e.IsDynamic ∧ e.dest ≠ t.netNum := by
    intro e he
    rw [clearRoutes_eq_filter hhead, List.mem_filter] at he
    have hstatic : ¬ e.IsDynamic := by simpa using he.2
    exact ⟨hstatic, hfree e he.1 hstatic⟩
  constructor
  · obtain ⟨w, hw⟩ := hpath t ht
    obtain ⟨e, he, hdest⟩ := checkRoute_eq_true.mp (hall (List.ne_nil_of_mem hw.1.first_mem) t ht)
    rcases List.mem_append.mp he with hold | he
    · exact absurd hdest (hkept e hold).2
    · exact ⟨e, List.mem_append_right _ he, hdest, (hnew e he).1⟩
  · intro e he hdest hdyn
    rcases List.mem_append.mp he with hold | he
    · exact absurd hdyn (hkept e hold).1
    · exact hnew e he

/-- Three routers in a line behind the neighbour. -/
def lineTopology : List TopologyEntry :=
  [createOspfv2TopologyEntry 0x07070707 0x0001000a 0x00ffffff 0x01010101 0x0201000a 1,
    createOspfv2TopologyEntry 0x07070707 0x0002000a 0x00ffffff 0x08080808 0x0201000a 1,
    createOspfv2TopologyEntry 0x08080808 0x0002000a 0x00ffffff 0x07070707 0x0201000a 1,
    createOspfv2TopologyEntry 0x08080808 0x0003000a 0x00ffffff 0x09090909 0x0201000a 1]

/-- The routes to the two networks behind the neighbour are computed. -/
theorem lineTopology_shortest : ∃ result,
    Returns oneNeighbor lineTopology 0x01010101 oneRoute result ∧
      (∃ e ∈ result, e.dest = 0x0003000a ∧ e.adminDst = 110) ∧
        ∀ e ∈ result, e.dest = 0x0003000a → e.IsDynamic →
          e.adminDst = 110 ∧ ByShortestPath 0x01010101 lineTopology oneNeighbor e := by
  have h₁ : IsPathTo 0x01010101 lineTopology oneNeighbor 0x0001000a
      (.start (firstLink 0x01010101 oneNeighbor[0])) := ⟨.start (by decide), rfl⟩
  have h₂ : IsPathTo 0x01010101 lineTopology oneNeighbor 0x0002000a
      (.extend (.start (firstLink 0x01010101 oneNeighbor[0])) lineTopology[1]) :=
    ⟨.extend h₁.1 (by decide), rfl⟩
  have h₃ : IsPathTo 0x01010101 lineTopology oneNeighbor 0x0003000a
      (.extend (.extend (.start (firstLink 0x01010101 oneNeighbor[0])) lineTopology[1])
        lineTopology[3]) := ⟨.extend h₂.1 (by decide), rfl⟩
  have hpath : ∀ t ∈ lineTopology, HasPath 0x01010101 lineTopology oneNeighbor t.netNum := by
    intro t ht
    simp only [lineTopology, List.mem_cons, List.not_mem_nil, or_false] at ht
    rcases ht with rfl | rfl | rfl | rfl
    · exact ⟨_, h₁⟩
    · exact ⟨_, h₂⟩
    · exact ⟨_, h₂⟩
    · exact ⟨_, h₃⟩
  have hhead : ∀ e ∈ oneRoute.head?, ¬ e.IsDynamic := by decide
  obtain ⟨⟨result, hresult⟩, hroutes⟩ := runDijkstra_shortest (by decide) hpath (by decide)
    (by decide) hhead
  exact ⟨result, hresult, hroutes result hresult lineTopology[3] (by decide) (by decide)⟩

end Redes
