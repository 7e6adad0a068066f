import Redes.Dijkstra.Entry

/-!
# When the recomputation of the routes ends

The search keeps no record of the links it has expanded.  It ends for a network to which
there is a path, and for every network if no cycle of links can be reached; with a cycle
and a network without path it goes round for ever.

## Main definitions

* `Acyclic` — no cycle of links can be reached from this router.
* `NextHopsOk` — the neighbours are on subnets of this router.
* `Searchable` — the condition under which every search ends.

## Main results

* `terminates_of_searches` — if every search ends, so does the call.
* `search_shortest` — within the range of the 8-bit cost the search finds a shortest path.
* `not_terminates_of_cycle` — with a cycle and a network without path it does not end.
* `runDijkstra_terminates` — the condition, both ways.
-/

namespace Redes

open Walk

variable {routerId : IpAddr} {topology : List TopologyEntry} {ifList : List SrIf}
  {routingTable : List SrRt}

/-- No cycle of links can be reached from the first links. -/
def Acyclic (routerId : IpAddr) (topology : List TopologyEntry) (ifList : List SrIf) : Prop :=
  ∀ l ∈ firstLinks routerId topology ifList,
    ¬ Digraph.ReachesCycle (fun a b => b ∈ nextLinks topology a) l

/-- The next hop of every first link lies in the network of an interface. -/
def NextHopsOk (routerId : IpAddr) (topology : List TopologyEntry) (ifList : List SrIf) : Prop :=
  ∀ l ∈ firstLinks routerId topology ifList, (nextHopInterface ifList l).isSome

/-- The longest paths whose length the 8-bit cost of an item tells apart, with room for
one more link. -/
def maxPathLength : ℕ := 254

/-- There is a path to the network within the range of the cost. -/
def HasShortPath (routerId : IpAddr) (topology : List TopologyEntry) (ifList : List SrIf)
    (n : IpAddr) : Prop :=
  ∃ w, IsPathTo routerId topology ifList n w ∧ w.length ≤ maxPathLength

/-- No cycle can be reached, or every network that needs a route has a path. -/
def Searchable (routerId : IpAddr) (topology : List TopologyEntry) (ifList : List SrIf)
    (routingTable : List SrRt) : Prop :=
  Acyclic routerId topology ifList ∨
    ∀ t ∈ topology, NeedsRoute routingTable t → HasShortPath routerId topology ifList t.netNum

/-! ### Calls whose searches end -/

/-- **If every search ends, so does the call**: `Q` is what the queues that the searches
leave behind have in common. -/
theorem terminates_of_searches {Q : List (Walk TopologyEntry) → Prop} (hnil : Q [])
    (hsearch : ∀ t ∈ topology, NeedsRoute routingTable t → ∀ q,
      BestFirst.AllWalks (firstLinks routerId topology ifList) (nextLinks topology)
        (startQueue (firstLinks routerId topology ifList) q) → Q q →
      ∃ r, Loop.Leaves (walkTurn topology t.netNum)
        (startQueue (firstLinks routerId topology ifList) q) r ∧ Q r.2) :
    Terminates ifList topology routerId routingTable := by
  have hpres : ∀ t ∈ topology, NeedsRoute routingTable t →
      Preserves routerId topology ifList Q (fun _ => True) t := by
    intro t ht hneed
    refine ⟨?_, fun _ _ _ _ _ _ _ _ _ _ => trivial⟩
    intro q r hwalks hq hr
    obtain ⟨r', hr', hQ⟩ := hsearch t ht hneed q hwalks hq
    rwa [hr.unique hr']
  have hends : Fuel.Ends .outOfFuel fun n => topology.foldlM (runEntry n ifList topology routerId)
      ⟨initialMem, clearRoutes routingTable⟩ := by
    refine Fuel.Ends.foldlM stable_runEntry
      (I := fun s => ∃ q, EntryInv routerId topology ifList routingTable Q (fun _ => True) s q) ?_
      ⟨[], entryInv_initial hnil⟩
    rintro s t ht ⟨q, hs⟩
    refine ⟨?_, fun n s' h => hs.runEntry hnil (hpres t ht) h⟩
    cases hcheck : checkRoute s.routingTable t.netNum with
    | true => exact .of_ok (runEntry_of_checkRoute hcheck 0)
    | false =>
      by_cases hlinks : firstLinks routerId topology ifList = []
      · obtain ⟨m, hrun, -⟩ := runEntry_of_noLinks hs.ok hlinks hcheck 0
        exact .of_ok hrun
      · obtain ⟨r, ⟨n, hn⟩, -⟩ := hsearch t ht (hs.needsRoute hcheck) q hs.ok.allWalks hs.queue
        obtain ⟨m, w, -, -, -, hrun⟩ := runEntry_of_leaves hs.ok hlinks hcheck hn
        refine ⟨n, ?_⟩
        simp only [hrun]
        cases nextHopInterface ifList w.first <;> simp
  obtain ⟨n, hn⟩ := hends
  refine ⟨n, fun he => hn ?_⟩
  rw [runDijkstra] at he
  cases hf : topology.foldlM (runEntry n ifList topology routerId)
      ⟨initialMem, clearRoutes routingTable⟩ with
  | error e => rw [hf] at he; cases he; exact hf
  | ok s => rw [hf] at he; cases he

/-! ### Without cycles -/

/-- **If no cycle can be reached the call ends.** -/
theorem terminates_of_acyclic (h : Acyclic routerId topology ifList) :
    Terminates ifList topology routerId routingTable := by
  classical
  refine terminates_of_searches (Q := fun _ => True) trivial ?_
  intro t _ _ q hwalks _
  have hstops : Loop.Stops (walkTurn topology t.netNum)
      (startQueue (firstLinks routerId topology ifList) q) := by
    refine BestFirst.stops_of_acyclic
      (S := (firstLinks routerId topology ifList ++ topology).toFinset) ?_ ?_ h hwalks
    · intro r hr
      simp [hr]
    · intro a _ b hb
      simp [(mem_nextLinks.mp hb).2.1]
  obtain ⟨r, hr⟩ := hstops
  exact ⟨r, hr, trivial⟩

/-! ### Within the range of the cost -/

/-- Costs up to one more than the longest path compare like lengths. -/
theorem itemCost_le_iff {i j : ℕ} (hi : i ≤ maxPathLength + 1) (hj : j ≤ maxPathLength + 1) :
    itemCost i ≤ itemCost j ↔ i ≤ j := by
  simp only [maxPathLength] at hi hj
  rw [itemCost_of_lt (by omega), itemCost_of_lt (by omega)]

/-- The queue a search starts with is sorted if the last search left it so. -/
theorem bounded_startQueue {roots : List TopologyEntry}
    {succ : TopologyEntry → List TopologyEntry} {q : List (Walk TopologyEntry)}
    (hwalks : BestFirst.AllWalks roots succ (startQueue roots q))
    (hq : BestFirst.Bounded roots succ itemCost maxPathLength q) :
    BestFirst.Bounded roots succ itemCost maxPathLength (startQueue roots q) := by
  have key : ∀ ws : List (Walk TopologyEntry), (∀ w ∈ ws, w.length = 1) →
      SortedQueue.Sorted (BestFirst.walkCost itemCost) (ws ++ q) ∧
        ∀ w ∈ ws ++ q, w.length ≤ maxPathLength + 1 := by
    intro ws
    induction ws with
    | nil => exact fun _ => ⟨hq.sorted, hq.length_le⟩
    | cons w ws ih =>
      intro hws
      obtain ⟨hsorted, hlen⟩ := ih fun u hu => hws u (List.mem_cons_of_mem w hu)
      have hw : w.length = 1 := hws w List.mem_cons_self
      have hone : w.length ≤ maxPathLength + 1 := by simp [hw]
      refine ⟨hsorted.cons_of_le ?_, ?_⟩
      · intro u hu
        refine (itemCost_le_iff hone (hlen u hu)).mpr ?_
        have := u.length_pos
        omega
      · intro u hu
        rcases List.mem_cons.mp hu with rfl | hu
        · exact hone
        · exact hlen u hu
  obtain ⟨hsorted, hlen⟩ := key (roots.map Walk.start).reverse (by simp)
  exact ⟨hwalks, hsorted, hlen⟩

/-- **Within the range of the cost the search finds a shortest path**, and leaves a queue
from which the next one does too. -/
theorem search_shortest {n : IpAddr} {q : List (Walk TopologyEntry)}
    (hpath : HasShortPath routerId topology ifList n)
    (hwalks : BestFirst.AllWalks (firstLinks routerId topology ifList) (nextLinks topology)
      (startQueue (firstLinks routerId topology ifList) q))
    (hq : BestFirst.Bounded (firstLinks routerId topology ifList) (nextLinks topology) itemCost
      maxPathLength q) :
    ∃ w q', Loop.Leaves (walkTurn topology n)
        (startQueue (firstLinks routerId topology ifList) q) (some w, q') ∧
      Shortest (IsPathTo routerId topology ifList n) w ∧
      BestFirst.Bounded (firstLinks routerId topology ifList) (nextLinks topology) itemCost
        maxPathLength q' := by
  obtain ⟨u, hu, hlen⟩ := hpath
  have hgoal : (fun w => IsWalk (firstLinks routerId topology ifList) (nextLinks topology) w ∧
      decide (w.last.netNum = n) = true) = IsPathTo routerId topology ifList n := by
    funext w
    simp [IsPathTo]
  obtain ⟨w, hw⟩ := exists_shortest hu
  obtain ⟨w', q', hleaves, hshort, hbounded⟩ := BestFirst.exists_leaves_shortest
    (g := fun l : TopologyEntry => decide (l.netNum = n))
    (fun i j hi hj => (itemCost_le_iff hi hj).mp) (bounded_startQueue hwalks hq)
    (fun r hr => start_mem_startQueue hr) (hgoal ▸ hw) ((hw.2 u hu).trans hlen)
  exact ⟨w', q', hleaves, hgoal ▸ hshort, hbounded⟩

theorem bounded_nil {roots : List TopologyEntry} {succ : TopologyEntry → List TopologyEntry} :
    BestFirst.Bounded roots succ itemCost maxPathLength [] where
  walks _ h := absurd h List.not_mem_nil
  sorted := List.Pairwise.nil
  length_le _ h := absurd h List.not_mem_nil

/-- **If every network that needs a route has a path, the call ends.** -/
theorem terminates_of_paths
    (h : ∀ t ∈ topology, NeedsRoute routingTable t →
      HasShortPath routerId topology ifList t.netNum) :
    Terminates ifList topology routerId routingTable := by
  refine terminates_of_searches (Q := BestFirst.Bounded (firstLinks routerId topology ifList)
    (nextLinks topology) itemCost maxPathLength) bounded_nil ?_
  intro t ht hneed q hwalks hq
  obtain ⟨w, q', hleaves, -, hq'⟩ := search_shortest (h t ht hneed) hwalks hq
  exact ⟨_, hleaves, hq'⟩

/-- A path can be cut down to the number of entries of the topology table and one. -/
theorem HasPath.short {n : IpAddr} (hlen : topology.length ≤ 253)
    (h : HasPath routerId topology ifList n) : HasShortPath routerId topology ifList n := by
  obtain ⟨u, hu⟩ := h
  obtain ⟨w, hw⟩ := exists_shortest hu
  have hsub : ∀ a, nextLinks topology a ⊆ topology := fun a b hb => (mem_nextLinks.mp hb).2.1
  have hle := Shortest.length_le (g := fun l : TopologyEntry => l.netNum = n) hsub hw
  exact ⟨w, hw.1, by simp only [maxPathLength]; omega⟩

/-! ### With a cycle -/

/-- With the neighbours on this router's subnets, an entry fails for lack of turns only. -/
theorem runEntry_error {s : DijkstraState} {q : List (Walk TopologyEntry)} {t : TopologyEntry}
    (hhops : NextHopsOk routerId topology ifList) (hs : StateOk routerId topology ifList s q)
    {fuel : ℕ} {e : Halt} (h : runEntry fuel ifList topology routerId s t = .error e) :
    e = .outOfFuel := by
  cases hcheck : checkRoute s.routingTable t.netNum with
  | true => rw [runEntry_of_checkRoute hcheck] at h; cases h
  | false =>
    by_cases hlinks : firstLinks routerId topology ifList = []
    · cases fuel with
      | zero => simp only [runEntry, hcheck, Loop.run_zero] at h; exact (Except.error.inj h).symm
      | succ fuel =>
        obtain ⟨m, hrun, -⟩ := runEntry_of_noLinks hs hlinks hcheck fuel
        rw [hrun] at h
        cases h
    · cases hr : Loop.run (walkTurn topology t.netNum) fuel
          (startQueue (firstLinks routerId topology ifList) q) with
      | none =>
        rw [runEntry_of_not_left hs hlinks hcheck hr] at h
        exact (Except.error.inj h).symm
      | some r =>
        obtain ⟨m, w, hw, -, -, hrun⟩ := runEntry_of_leaves hs hlinks hcheck hr
        obtain ⟨i, hi⟩ := Option.isSome_iff_exists.mp (hhops _ hw.first_mem)
        rw [hrun, hi] at h
        cases h

/-- **With a reachable cycle, a network that needs a route and has no path keeps the call
from ending.** -/
theorem not_terminates_of_cycle (hhops : NextHopsOk routerId topology ifList)
    {l : TopologyEntry} (hl : l ∈ firstLinks routerId topology ifList)
    (hcyc : Digraph.ReachesCycle (fun a b => b ∈ nextLinks topology a) l) {t : TopologyEntry}
    (ht : t ∈ topology) (hneed : NeedsRoute routingTable t)
    (hpath : ¬ HasPath routerId topology ifList t.netNum) :
    ¬ Terminates ifList topology routerId routingTable := by
  -- no entry before the first one about this network adds a route to it
  have key : ∀ (fuel : ℕ) (ts : List TopologyEntry), (∃ t' ∈ ts, t'.netNum = t.netNum) →
      ∀ s q, StateOk routerId topology ifList s q →
        checkRoute s.routingTable t.netNum = false →
        ts.foldlM (runEntry fuel ifList topology routerId) s = .error .outOfFuel := by
    intro fuel ts
    induction ts with
    | nil => rintro ⟨t', ht', -⟩; cases ht'
    | cons a ts ih =>
      rintro ⟨t', ht', hnet⟩ s q hs hcheck
      rw [List.foldlM_cons]
      cases hrun : runEntry fuel ifList topology routerId s a with
      | error e => rw [runEntry_error hhops hs hrun]; rfl
      | ok s' =>
        by_cases ha : a.netNum = t.netNum
        · -- this search never leaves
          have hnever : ¬ Loop.Stops (walkTurn topology a.netNum)
              (startQueue (firstLinks routerId topology ifList) q) := by
            refine BestFirst.not_stops_of_cycle (fun w hw hgoal => hpath ?_) hs.allWalks
              (start_mem_startQueue hl) hcyc
            exact ⟨w, hw, (of_decide_eq_true hgoal).trans ha⟩
          have hnone := Loop.run_eq_none_of_not_stops hnever fuel
          rw [runEntry_of_not_left hs (List.ne_nil_of_mem hl) (ha ▸ hcheck) hnone] at hrun
          cases hrun
        · have hmem : ∃ t' ∈ ts, t'.netNum = t.netNum := by
            rcases List.mem_cons.mp ht' with rfl | ht'
            · exact absurd hnet ha
            · exact ⟨t', ht', hnet⟩
          rcases runEntry_ok hs hrun with ⟨-, rfl⟩ | ⟨-, -, htable, hok⟩ |
            ⟨-, -, r, w, i, -, -, -, -, htable, hok⟩
          · exact ih hmem s' q hs hcheck
          · exact ih hmem s' [] hok (htable ▸ hcheck)
          · refine ih hmem s' r.2 hok ?_
            rw [htable]
            simpa [srAddRtEntry, checkRoute, ha] using hcheck
  rintro ⟨fuel, hfuel⟩
  have hrun := key fuel topology ⟨t, ht, rfl⟩ ⟨initialMem, clearRoutes routingTable⟩ []
    (stateOk_initial _) hneed
  exact hfuel (by rw [runDijkstra, hrun]; rfl)

/-! ### The condition -/

/-- **The call ends if no cycle can be reached or every network that needs a route has a
path**, and, with the neighbours on this router's subnets, only then; in tables of up to
253 entries every path can be cut down to the range of the cost. -/
theorem runDijkstra_terminates (ifList : List SrIf) (topology : List TopologyEntry)
    (routerId : IpAddr) (routingTable : List SrRt) :
    (Searchable routerId topology ifList routingTable →
      Terminates ifList topology routerId routingTable) ∧
    (NextHopsOk routerId topology ifList → Terminates ifList topology routerId routingTable →
      Acyclic routerId topology ifList ∨
        ∀ t ∈ topology, NeedsRoute routingTable t → HasPath routerId topology ifList t.netNum) ∧
    (NextHopsOk routerId topology ifList → topology.length ≤ 253 →
      (Terminates ifList topology routerId routingTable ↔
        Searchable routerId topology ifList routingTable)) := by
  have hsuff : Searchable routerId topology ifList routingTable →
      Terminates ifList topology routerId routingTable := by
    rintro (hacyc | hpaths)
    · exact terminates_of_acyclic hacyc
    · exact terminates_of_paths hpaths
  have hnec : NextHopsOk routerId topology ifList →
      Terminates ifList topology routerId routingTable → Acyclic routerId topology ifList ∨
        ∀ t ∈ topology, NeedsRoute routingTable t → HasPath routerId topology ifList t.netNum := by
    intro hhops hterm
    by_contra hcon
    rw [not_or] at hcon
    obtain ⟨hcyc, hpaths⟩ := hcon
    simp only [Acyclic, not_forall, not_not] at hcyc hpaths
    obtain ⟨l, hl, hcyc⟩ := hcyc
    obtain ⟨t, ht, hneed, hpath⟩ := hpaths
    exact not_terminates_of_cycle hhops hl hcyc ht hneed hpath hterm
  refine ⟨hsuff, hnec, fun hhops hlen => ⟨?_, hsuff⟩⟩
  intro hterm
  exact (hnec hhops hterm).imp_right fun h t ht hneed => (h t ht hneed).short hlen

/-- A router with one neighbour, 7.7.7.7 on 10.0.1.0/24. -/
def oneNeighbor : List SrIf :=
  [⟨"eth1".toList, generateEthernetAddr 1, 0x0101000a, 0x00ffffff, 5, 0x07070707, 0x0201000a⟩]

/-- Behind the neighbour three routers form a triangle, and an entry of a router that is
no longer connected has not expired yet. -/
def triangleTopology : List TopologyEntry :=
  [createOspfv2TopologyEntry 0x07070707 0x0001000a 0x00ffffff 0x01010101 0x0201000a 1,
    createOspfv2TopologyEntry 0x07070707 0x0002000a 0x00ffffff 0x08080808 0x0201000a 1,
    createOspfv2TopologyEntry 0x07070707 0x0004000a 0x00ffffff 0x09090909 0x0201000a 1,
    createOspfv2TopologyEntry 0x08080808 0x0002000a 0x00ffffff 0x07070707 0x0201000a 1,
    createOspfv2TopologyEntry 0x08080808 0x0003000a 0x00ffffff 0x09090909 0x0201000a 1,
    createOspfv2TopologyEntry 0x09090909 0x0003000a 0x00ffffff 0x08080808 0x0201000a 1,
    createOspfv2TopologyEntry 0x09090909 0x0004000a 0x00ffffff 0x07070707 0x0201000a 1,
    createOspfv2TopologyEntry 0x0a0a0a0a 0x0009000a 0x00ffffff 0 0x0201000a 1]

/-- The connected route of the one interface. -/
def oneRoute : List SrRt := [⟨0x0001000a, 0, 0x00ffffff, "eth1".toList, 1⟩]

/-- The link from 7.7.7.7 to 8.8.8.8, one of the three of the triangle. -/
theorem triangle_reachesCycle : Digraph.ReachesCycle
    (fun a b => b ∈ nextLinks triangleTopology a)
    (createOspfv2TopologyEntry 0x01010101 0x0001000a 0x00ffffff 0x07070707 0x0201000a 0) := by
  have h₁ : triangleTopology[1] ∈ nextLinks triangleTopology
    (createOspfv2TopologyEntry 0x01010101 0x0001000a 0x00ffffff 0x07070707 0x0201000a 0) :=
      by decide
  have h₂ : triangleTopology[4] ∈ nextLinks triangleTopology triangleTopology[1] := by decide
  have h₃ : triangleTopology[6] ∈ nextLinks triangleTopology triangleTopology[4] := by decide
  have h₄ : triangleTopology[1] ∈ nextLinks triangleTopology triangleTopology[6] := by decide
  exact ⟨_, .single h₁, .tail (.tail (.single h₂) h₃) h₄⟩

/-- The network of the router that is gone has no path. -/
theorem triangle_not_hasPath : ¬ HasPath 0x01010101 triangleTopology oneNeighbor 0x0009000a := by
  rintro ⟨w, hw, hlast⟩
  have hmem := hw.last_mem
    (S := {l | l ∈ firstLinks 0x01010101 triangleTopology oneNeighbor ++ triangleTopology.take 7})
    (fun r hr => List.mem_append_left _ hr)
    (show ∀ a ∈ firstLinks 0x01010101 triangleTopology oneNeighbor ++ triangleTopology.take 7,
      ∀ b ∈ nextLinks triangleTopology a,
        b ∈ firstLinks 0x01010101 triangleTopology oneNeighbor ++ triangleTopology.take 7 by decide)
  have hne : ∀ l ∈ firstLinks 0x01010101 triangleTopology oneNeighbor ++ triangleTopology.take 7,
      l.netNum ≠ 0x0009000a := by decide
  exact hne _ hmem hlast

/-- **Behind a triangle of routers the search for a network that is gone never ends.** -/
theorem triangle_not_terminates :
    ¬ Terminates oneNeighbor triangleTopology 0x01010101 oneRoute :=
  not_terminates_of_cycle (t := triangleTopology[7]) (by unfold NextHopsOk; decide)
    (l := createOspfv2TopologyEntry 0x01010101 0x0001000a 0x00ffffff 0x07070707 0x0201000a 0)
    (by decide) triangle_reachesCycle (by decide) (by decide) triangle_not_hasPath

end Redes
