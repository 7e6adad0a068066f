import Redes.Pwospf.Neighbors
import Redes.Pwospf.Topology

/-!
# The two sweeps that delete through the predecessor

`check_topology_age` and `check_neighbors_alive` go through their lists in the same way.  Each
does what it is for as long as what has expired is not followed by another element: the
element behind a deleted one is passed over.

## Main definitions

* `AgesOnce`, `SweepsDead` — what the two sweeps are for.

## Main results

* `agesOnce_iff`, `sweepsDead_iff` — when they do what they are for.
-/

namespace Redes

open Sweep

/-! ### The topology table -/

/-- A second of ageing: the entries that have reached the timeout are removed, the others are
a second older, and the flag tells whether any was removed. -/
structure AgesOnce (table : List TopologyEntry) (result : List TopologyEntry × Bool) :
    Prop where
  /-- What is left, in order. -/
  entries : result.1 = (table.filter fun e => e.age ≠ ospfTopoEntryTimeout).map
    fun e => { e with age := e.age + 1 }
  /-- The returned flag. -/
  flag : result.2 = true ↔ result.1.length < table.length

/-- The flag is right in any case. -/
theorem checkTopologyAge_flag (table : List TopologyEntry) :
    (checkTopologyAge table).2 = true ↔ (checkTopologyAge table).1.length < table.length := by
  have hlen : (sweepKept TopologyEntry.Expired TopologyEntry.older table).length +
      (sweepRemoved TopologyEntry.Expired table).length = table.length :=
    length_sweepKept_add_sweepRemoved table
  rw [checkTopologyAge_eq]
  cases hremoved : sweepRemoved TopologyEntry.Expired table with
  | nil =>
    rw [hremoved] at hlen
    simp only [List.length_nil] at hlen
    simp [← hlen]
  | cons e es =>
    rw [hremoved, List.length_cons] at hlen
    simp only [List.isEmpty_cons, Bool.not_false, true_iff]
    omega

/-- **A second of ageing is one if and only if** no entry but the last one has reached the
timeout. -/
theorem agesOnce_iff (table : List TopologyEntry) :
    AgesOnce table (checkTopologyAge table) ↔
      ∀ e ∈ table.dropLast, e.age ≠ ospfTopoEntryTimeout := by
  have hiff : (checkTopologyAge table).1 = (table.filter fun e => e.age ≠ ospfTopoEntryTimeout).map
      (fun e => { e with age := e.age + 1 }) ↔
      ∀ e ∈ table.dropLast, e.age ≠ ospfTopoEntryTimeout := by
    rw [checkTopologyAge_eq]
    exact sweepKept_eq_iff TopologyEntry.older_ne table
  exact ⟨fun h => hiff.mp h.entries, fun h => ⟨hiff.mpr h, checkTopologyAge_flag table⟩⟩

/-- Two entries of a router that has not been heard for 35 seconds. -/
def deadRouterTable : List TopologyEntry :=
  [⟨0x01010101, 0x0001000a, 0x00ffffff, 0, 0x0101000a, 7, 35⟩,
    ⟨0x01010101, 0x0002000a, 0x00ffffff, 0, 0x0101000a, 7, 35⟩]

/-- The second one is left as it is. -/
theorem not_agesOnce_deadRouter :
    ¬ AgesOnce deadRouterTable (checkTopologyAge deadRouterTable) := by
  intro h
  have hentries := h.entries
  revert hentries
  decide

/-! ### The neighbours -/

/-- A second of the neighbours: those with no second left are removed and returned, the
others have one less. -/
structure SweepsDead (l : NeighborList) (result : NeighborList × List Neighbor) : Prop where
  /-- What is left, in order. -/
  neighbors : result.1 = ⟨l.first, (l.rest.filter fun n => n.alive ≠ 0).map
    fun n => { n with alive := n.alive - 1 }⟩
  /-- What is returned: each of those removed, once. -/
  returned : (result.2.map Neighbor.neighborId).Perm
    ((l.rest.filter fun n => n.alive = 0).map Neighbor.neighborId)

/-- **A second of the neighbours is one if and only if** no neighbour but the last one has no
second left. -/
theorem sweepsDead_iff (l : NeighborList) :
    SweepsDead l (checkNeighborsAlive l) ↔ ∀ n ∈ l.rest.dropLast, n.alive ≠ 0 := by
  have hiff : sweepKept Neighbor.Dead Neighbor.older l.rest =
      (l.rest.filter fun n => ¬ n.Dead).map Neighbor.older ↔ ∀ n ∈ l.rest.dropLast, ¬ n.Dead :=
    sweepKept_eq_iff Neighbor.older_ne l.rest
  unfold checkNeighborsAlive
  rw [checkAliveLoop_eq, List.append_nil]
  constructor
  · intro h
    exact hiff.mp (congrArg NeighborList.rest h.neighbors)
  · intro h
    refine ⟨congrArg (NeighborList.mk l.first) (hiff.mpr h), ?_⟩
    have hremoved : sweepRemoved Neighbor.Dead l.rest = l.rest.filter fun n => n.alive = 0 :=
      sweepRemoved_eq h
    rw [hremoved, List.map_reverse, List.map_map]
    exact List.reverse_perm _

/-- Two neighbours that have both fallen silent. -/
def silentNeighbors : NeighborList :=
  ⟨createOspfv2Neighbor 0, [⟨0x02020202, 0⟩, ⟨0x03030303, 0⟩]⟩

/-- The second one is neither removed nor returned. -/
theorem not_sweepsDead_silent :
    ¬ SweepsDead silentNeighbors (checkNeighborsAlive silentNeighbors) := by
  intro h
  have hneighbors := h.neighbors
  revert hneighbors
  decide

end Redes
