import Redes.Dijkstra.Routes
import Redes.Router.System

/-!
# Base routes and computed routes

The routing table starts with the static routes of a file and the connected networks.
`run_dijkstra` puts computed routes behind these and takes them away again; what the table
started with stays as it was.

## Main definitions

* `Loaded`, `StartupTable` — the tables with which the router starts.
* `Recomputed` — the tables that calls of `run_dijkstra` lead to.
* `OverBase` — a table is a base with computed routes behind it.

## Main results

* `runEntry_routingTable` — what one entry does to the table.
* `OverBase.returns` — a call keeps the base.
* `recomputed_base` — what holds after every sequence of calls.
-/

namespace Redes

/-! ### Tables -/

/-- The tables that `main` can have when it has loaded the routing table, some number of
times. -/
inductive Loaded (inetAton : List Char → Option IpAddr) : List SrRt → Prop
  /-- `sr_init_instance`. -/
  | init : Loaded inetAton []
  /-- `sr_load_rt` succeeds, for any file and any contents of the stack. -/
  | load {table table' : List SrRt} (b : RtLine) (file : Option (List (List Char))) :
      Loaded inetAton table → srLoadRt inetAton b file table = (0, table') →
      Loaded inetAton table'

/-- The tables with which the router starts: `pwospf_run_thread` adds the connected networks
of its interfaces to what was loaded. -/
def StartupTable (inetAton : List Char → Option IpAddr) (base : List SrRt) : Prop :=
  ∃ table ifList, Loaded inetAton table ∧ ifList ≠ [] ∧ base = addConnected table ifList

/-- The tables that calls of `run_dijkstra` which return lead to, each call for any interfaces,
topology table and router id. -/
inductive Recomputed (base : List SrRt) : List SrRt → Prop
  /-- No call has been made yet. -/
  | startup : Recomputed base base
  /-- One more call. -/
  | dijkstra {table result : List SrRt} (ifList : List SrIf) (topology : List TopologyEntry)
      (routerId : IpAddr) : Recomputed base table →
      Returns ifList topology routerId table result → Recomputed base result

/-- A table is `base` with computed routes behind it, at most one for a destination and none
for a destination of `base`. -/
def OverBase (base table : List SrRt) : Prop :=
  ∃ computed, table = base ++ computed ∧ (∀ e ∈ computed, e.IsDynamic) ∧
    (computed.map SrRt.dest).Nodup ∧ ∀ e ∈ computed, checkRoute base e.dest = false

/-- What a table must be for `clear_routes` to leave it alone: not empty, and without computed
routes. -/
def IsBase (base : List SrRt) : Prop := base ≠ [] ∧ ∀ e ∈ base, e.adminDst ≤ 1

/-! ### The startup -/

theorem Loaded.static {inetAton : List Char → Option IpAddr} {table : List SrRt}
    (h : Loaded inetAton table) : ∀ e ∈ table, e.adminDst = 0 := by
  induction h with
  | init => simp
  | load b file _ hload ih =>
    have hstatic := srLoadRt_static inetAton b file ih
    rwa [hload] at hstatic

theorem addConnected_cons (table : List SrRt) (i : SrIf) (ifList : List SrIf) :
    addConnected table (i :: ifList) =
      addConnected (if checkRoute table i.network then table
        else srAddRtEntry table i.network 0 i.mask i.name 1) ifList := rfl

theorem addConnected_base {table : List SrRt} (h : ∀ e ∈ table, e.adminDst ≤ 1)
    (ifList : List SrIf) : ∀ e ∈ addConnected table ifList, e.adminDst ≤ 1 := by
  induction ifList generalizing table with
  | nil => exact h
  | cons i ifList ih =>
    rw [addConnected_cons]
    apply ih
    split
    · exact h
    · intro e he
      rcases List.mem_append.mp he with he | he
      · exact h e he
      · rw [List.mem_singleton.mp he]
        exact Nat.le_refl 1

/-- The connected networks have routes. -/
theorem checkRoute_addConnected {table : List SrRt} {ifList : List SrIf} {n : IpAddr}
    (h : checkRoute table n = true ∨ ∃ i ∈ ifList, i.network = n) :
    checkRoute (addConnected table ifList) n = true := by
  induction ifList generalizing table with
  | nil =>
    rcases h with h | ⟨i, hi, -⟩
    · exact h
    · cases hi
  | cons i ifList ih =>
    rw [addConnected_cons]
    apply ih
    rcases h with h | ⟨j, hj, rfl⟩
    · left
      split
      · exact h
      · exact checkRoute_append h
    · rcases List.mem_cons.mp hj with rfl | hj
      · left
        split
        · next hc => exact hc
        · exact checkRoute_eq_true.mpr
            ⟨_, List.mem_append_right _ (List.mem_singleton_self _), rfl⟩
      · exact Or.inr ⟨j, hj, rfl⟩

/-- **The table with which the router starts has entries, none of them computed.** -/
theorem StartupTable.isBase {inetAton : List Char → Option IpAddr} {base : List SrRt}
    (h : StartupTable inetAton base) : IsBase base := by
  obtain ⟨table, ifList, hload, hne, rfl⟩ := h
  constructor
  · obtain ⟨i, hi⟩ := List.exists_mem_of_ne_nil _ hne
    intro hnil
    have hroute : checkRoute (addConnected table ifList) i.network = true :=
      checkRoute_addConnected (.inr ⟨i, hi, rfl⟩)
    rw [hnil] at hroute
    cases hroute
  · apply addConnected_base
    intro e he
    rw [hload.static e he]
    decide

/-! ### A table over its base -/

theorem not_isDynamic_iff {e : SrRt} : ¬ e.IsDynamic ↔ e.adminDst ≤ 1 := UInt8.not_lt

theorem overBase_self (base : List SrRt) : OverBase base base :=
  ⟨[], (List.append_nil base).symm, by simp, List.nodup_nil, by simp⟩

/-- The head of the table is not computed, so `clear_routes` finds every computed route. -/
theorem OverBase.clearRoutes_eq_filter {base table : List SrRt} (hbase : IsBase base)
    (h : OverBase base table) : clearRoutes table = table.filter fun e => ¬ e.IsDynamic := by
  obtain ⟨computed, rfl, -, -, -⟩ := h
  apply Redes.clearRoutes_eq_filter
  obtain ⟨hne, hstatic⟩ := hbase
  cases base with
  | nil => exact absurd rfl hne
  | cons e base =>
    intro e' he'
    obtain rfl : e = e' := Option.some.inj he'
    exact not_isDynamic_iff.mpr (hstatic e List.mem_cons_self)

/-- The entries that are not computed are the base. -/
theorem OverBase.filter_eq {base table : List SrRt} (hbase : IsBase base)
    (h : OverBase base table) : table.filter (fun e => e.adminDst ≤ 1) = base := by
  obtain ⟨computed, rfl, hdyn, -, -⟩ := h
  have hkeep : base.filter (fun e => e.adminDst ≤ 1) = base :=
    List.filter_eq_self.mpr fun e he => decide_eq_true (hbase.2 e he)
  have hdrop : computed.filter (fun e => e.adminDst ≤ 1) = [] :=
    List.filter_eq_nil_iff.mpr fun e he hle =>
      not_isDynamic_iff.mpr (of_decide_eq_true hle) (hdyn e he)
  rw [List.filter_append, hkeep, hdrop, List.append_nil]

theorem OverBase.clearRoutes_eq {base table : List SrRt} (hbase : IsBase base)
    (h : OverBase base table) : clearRoutes table = base := by
  rw [h.clearRoutes_eq_filter hbase]
  have hpred : (fun e : SrRt => decide ¬ e.IsDynamic) = fun e => decide (e.adminDst ≤ 1) := by
    funext e
    exact decide_eq_decide.mpr not_isDynamic_iff
  rw [hpred, h.filter_eq hbase]

/-- The destination of a computed route is in the table once. -/
theorem OverBase.countP_eq_one {base table : List SrRt} (hbase : IsBase base)
    (h : OverBase base table) {e : SrRt} (he : e ∈ table) (hdyn : e.IsDynamic) :
    table.countP (fun e' => e'.dest = e.dest) = 1 := by
  obtain ⟨computed, rfl, -, hnodup, hnew⟩ := h
  have hcomputed : e ∈ computed := by
    rcases List.mem_append.mp he with he | he
    · exact absurd hdyn (not_isDynamic_iff.mpr (hbase.2 e he))
    · exact he
  have hold : base.countP (fun e' => e'.dest = e.dest) = 0 := by
    rw [List.countP_eq_zero]
    intro e' he' heq
    have hroute : checkRoute base e.dest = true :=
      checkRoute_eq_true.mpr ⟨e', he', of_decide_eq_true heq⟩
    rw [hnew e hcomputed] at hroute
    cases hroute
  have honce : computed.countP (fun e' => e'.dest = e.dest) = 1 := by
    have hcount := List.count_eq_one_of_mem hnodup (List.mem_map_of_mem hcomputed)
    rw [List.count, List.countP_map] at hcount
    rw [← hcount]
    rfl
  rw [List.countP_append, hold, honce]

/-! ### Calls -/

/-- **What one entry of the topology table does to the routing table**: nothing, or it adds a
computed route to a network that had none. -/
theorem runEntry_routingTable {fuel : ℕ} {ifList : List SrIf} {topology : List TopologyEntry}
    {routerId : IpAddr} {s s' : DijkstraState} {entry : TopologyEntry}
    (h : runEntry fuel ifList topology routerId s entry = .ok s') :
    s'.routingTable = s.routingTable ∨
      checkRoute s.routingTable entry.netNum = false ∧ ∃ gw mask name,
        s'.routingTable = srAddRtEntry s.routingTable entry.netNum gw mask name 110 := by
  simp only [runEntry] at h
  split at h
  · cases h
    exact Or.inl rfl
  · next hcheck =>
    split at h
    · cases h
    · split at h
      · cases h
        exact Or.inl rfl
      · split at h
        · cases h
        · cases h
          exact Or.inr ⟨Bool.eq_false_iff.mpr hcheck, _, _, _, rfl⟩

/-- A computed route to a network without route goes behind the others. -/
theorem OverBase.srAddRtEntry {base table : List SrRt} (h : OverBase base table) {dest : IpAddr}
    (hdest : checkRoute table dest = false) (gw mask : IpAddr) (name : IfName) :
    OverBase base (srAddRtEntry table dest gw mask name 110) := by
  obtain ⟨computed, rfl, hdyn, hnodup, hnew⟩ := h
  have hnone : ∀ e ∈ base ++ computed, e.dest ≠ dest := by
    intro e he heq
    rw [checkRoute_eq_true.mpr ⟨e, he, heq⟩] at hdest
    cases hdest
  refine ⟨computed ++ [⟨dest, gw, mask, name, 110⟩], by rw [Redes.srAddRtEntry, List.append_assoc],
    ?_, ?_, ?_⟩
  · intro e he
    rcases List.mem_append.mp he with he | he
    · exact hdyn e he
    · rw [List.mem_singleton.mp he]
      show (1 : UInt8) < 110
      decide
  · rw [List.map_append, List.nodup_append]
    refine ⟨hnodup, List.nodup_singleton _, ?_⟩
    rintro d hd d' hd' rfl
    obtain ⟨e, he, rfl⟩ := List.mem_map.mp hd
    exact hnone e (List.mem_append_right _ he) (List.mem_singleton.mp hd')
  · intro e he
    rcases List.mem_append.mp he with he | he
    · exact hnew e he
    · rw [List.mem_singleton.mp he, ← Bool.not_eq_true, checkRoute_eq_true]
      rintro ⟨e', he', heq⟩
      exact hnone e' (List.mem_append_left _ he') heq

/-- **A call that returns keeps the base.** -/
theorem OverBase.returns {base table result : List SrRt} (hbase : IsBase base)
    (h : OverBase base table) {ifList : List SrIf} {topology : List TopologyEntry}
    {routerId : IpAddr} (hret : Returns ifList topology routerId table result) :
    OverBase base result := by
  obtain ⟨fuel, hfuel⟩ := hret
  rw [runDijkstra, h.clearRoutes_eq hbase] at hfuel
  cases hf : topology.foldlM (runEntry fuel ifList topology routerId) ⟨initialMem, base⟩ with
  | error e => rw [hf] at hfuel; cases hfuel
  | ok s =>
    rw [hf] at hfuel
    obtain rfl : s.routingTable = result := Except.ok.inj hfuel
    refine Fuel.foldlM_invariant (I := fun s => OverBase base s.routingTable) ?_
      (overBase_self base) hf
    intro s s' t _ hs hrun
    rcases runEntry_routingTable hrun with htable | ⟨hcheck, gw, mask, name, htable⟩
    · rwa [htable]
    · rw [htable]
      exact hs.srAddRtEntry hcheck gw mask name

theorem Recomputed.overBase {base table : List SrRt} (hbase : IsBase base)
    (h : Recomputed base table) : OverBase base table := by
  induction h with
  | startup => exact overBase_self base
  | dijkstra ifList topology routerId _ hret ih => exact ih.returns hbase hret

/-- **Dynamic routing never disturbs the base routes**: after any calls, the entries that are
not computed are those the router started with, in their order; `clear_routes` removes
exactly the computed ones; and the destination of a computed one is in the table once. -/
theorem recomputed_base {inetAton : List Char → Option IpAddr} {base table : List SrRt}
    (hbase : StartupTable inetAton base) (h : Recomputed base table) :
    table.filter (fun e => e.adminDst ≤ 1) = base ∧
      clearRoutes table = table.filter (fun e => ¬ e.IsDynamic) ∧
      ∀ e ∈ table, e.IsDynamic → table.countP (fun e' => e'.dest = e.dest) = 1 := by
  have hover := h.overBase hbase.isBase
  exact ⟨hover.filter_eq hbase.isBase, hover.clearRoutes_eq_filter hbase.isBase,
    fun e he hdyn => hover.countP_eq_one hbase.isBase he hdyn⟩

/-- `inet_aton` on the addresses of the file below. -/
def fewAddresses (cp : List Char) : Option IpAddr :=
  if cp = "0.0.0.0".toList then some 0
  else if cp = "10.0.1.2".toList then some 0x0201000a
  else none

/-- A default route by way of the neighbour, and its network. -/
def defaultAndNeighbor : List SrRt :=
  [⟨0, 0x0201000a, 0, "eth1".toList, 0⟩, ⟨0x0001000a, 0, 0x00ffffff, "eth1".toList, 1⟩]

theorem defaultAndNeighbor_startup : StartupTable fewAddresses defaultAndNeighbor :=
  ⟨[⟨0, 0x0201000a, 0, "eth1".toList, 0⟩], oneNeighbor,
    .load ⟨[], [], [], []⟩ (some ["0.0.0.0  10.0.1.2\t0.0.0.0 eth1\n".toList]) .init (by decide),
    by decide, by decide⟩

/-- The base when a network behind the neighbour has got a route. -/
theorem defaultAndNeighbor_kept :
    let table := defaultAndNeighbor ++ [⟨0x0009000a, 0x0201000a, 0x00ffffff, "eth1".toList, 110⟩]
    table.filter (fun e => e.adminDst ≤ 1) = defaultAndNeighbor ∧
      clearRoutes table = table.filter (fun e => ¬ e.IsDynamic) ∧
      ∀ e ∈ table, e.IsDynamic → table.countP (fun e' => e'.dest = e.dest) = 1 :=
  recomputed_base defaultAndNeighbor_startup
    (.dijkstra oneNeighbor goneTopology 0x01010101 .startup ⟨3, by rfl⟩)

end Redes
