import Redes.Dijkstra.Termination

/-!
# Which prefixes get a route

`check_route` compares network numbers only.  So of the entries of the topology table
with one network number only the first is looked at, and none if a route that is kept has
that number; whether the masks are the same does not matter.

## Main definitions

* `HasPrefix` — a routing table has an entry for a prefix.
* `Represented` — the mask of an entry is that of the entry its number stands for.

## Main results

* `hasPrefix_result_iff` — the prefixes of the result.
* `prefixes_iff` — when only its own prefix keeps an entry from getting a route.
-/

namespace Redes

open Walk

variable {routerId : IpAddr} {topology : List TopologyEntry} {ifList : List SrIf}
  {routingTable : List SrRt}

/-- There is a route for the prefix. -/
def HasPrefix (table : List SrRt) (net mask : IpAddr) : Prop :=
  ∃ e ∈ table, e.dest = net ∧ e.mask = mask

instance (table : List SrRt) (net mask : IpAddr) : Decidable (HasPrefix table net mask) :=
  inferInstanceAs (Decidable (∃ e ∈ table, _))

/-- The first entry of the topology table with a network number. -/
def firstEntry (topology : List TopologyEntry) (net : IpAddr) : Option TopologyEntry :=
  topology.find? fun t => t.netNum = net

/-- The prefix is that of a route that is kept, or no route with its number is and it is that
of the first entry of the topology table with this number. -/
def Represented (routingTable : List SrRt) (topology : List TopologyEntry)
    (net mask : IpAddr) : Prop :=
  HasPrefix (clearRoutes routingTable) net mask ∨
    checkRoute (clearRoutes routingTable) net = false ∧
      ∃ t ∈ firstEntry topology net, t.netMask = mask

instance (net mask : IpAddr) : Decidable (Represented routingTable topology net mask) :=
  inferInstanceAs (Decidable (_ ∨ _ ∧ ∃ t ∈ firstEntry topology net, _))

theorem checkRoute_iff_hasPrefix {table : List SrRt} {net : IpAddr} :
    checkRoute table net = true ↔ ∃ mask, HasPrefix table net mask := by
  simp [HasPrefix]

theorem hasPrefix_srAddRtEntry {table : List SrRt} {dest gw mask' : IpAddr} {ifName : IfName}
    {adminDst : UInt8} {net mask : IpAddr} :
    HasPrefix (srAddRtEntry table dest gw mask' ifName adminDst) net mask ↔
      HasPrefix table net mask ∨ dest = net ∧ mask' = mask := by
  simp [HasPrefix, srAddRtEntry, or_and_right, exists_or]

/-! ### One more entry -/

theorem firstEntry_append (past : List TopologyEntry) (t : TopologyEntry) (net : IpAddr) :
    firstEntry (past ++ [t]) net =
      (firstEntry past net).or (if t.netNum = net then some t else none) := by
  unfold firstEntry
  rw [List.find?_append, List.find?_singleton]
  simp

/-- A number that stands for some prefix is settled. -/
theorem represented_append_of_known {past : List TopologyEntry} {t : TopologyEntry}
    (h : ∃ mask, Represented routingTable past t.netNum mask) (net mask : IpAddr) :
    Represented routingTable (past ++ [t]) net mask ↔ Represented routingTable past net mask := by
  unfold Represented
  rw [firstEntry_append]
  by_cases hnet : t.netNum = net
  · subst hnet
    obtain ⟨mask', hkept | ⟨-, t', ht', -⟩⟩ := h
    · have hcheck := checkRoute_iff_hasPrefix.mpr ⟨mask', hkept⟩
      simp [hcheck]
    · rw [Option.mem_def] at ht'
      rw [ht', Option.some_or]
  · rw [if_neg hnet, Option.or_none]

/-- A number that stands for none yet is settled by the entry. -/
theorem represented_append_of_unknown {past : List TopologyEntry} {t : TopologyEntry}
    (h : ¬ ∃ mask, Represented routingTable past t.netNum mask) (net mask : IpAddr) :
    Represented routingTable (past ++ [t]) net mask ↔
      Represented routingTable past net mask ∨ t.netNum = net ∧ t.netMask = mask := by
  by_cases hnet : t.netNum = net
  · subst hnet
    have hkept : checkRoute (clearRoutes routingTable) t.netNum = false := by
      rw [← Bool.not_eq_true, checkRoute_iff_hasPrefix]
      exact fun ⟨m, hm⟩ => h ⟨m, .inl hm⟩
    have hfirst : firstEntry past t.netNum = none := by
      cases hf : firstEntry past t.netNum with
      | none => rfl
      | some t' => exact absurd ⟨t'.netMask, .inr ⟨hkept, t', hf, rfl⟩⟩ h
    have hno : ¬ HasPrefix (clearRoutes routingTable) t.netNum mask := fun hm => h ⟨mask, .inl hm⟩
    simp [Represented, firstEntry_append, hkept, hfirst, hno]
  · simp [Represented, firstEntry_append, hnet]

/-- What the entries before have done: the routes are for the prefixes that are represented
among these entries. -/
structure PrefixInv (routerId : IpAddr) (topology : List TopologyEntry) (ifList : List SrIf)
    (routingTable : List SrRt) (past : List TopologyEntry) (s : DijkstraState)
    (q : List (Walk TopologyEntry)) : Prop where
  /-- The state is in order. -/
  ok : StateOk routerId topology ifList s q
  /-- The prefixes with a route. -/
  hasPrefix : ∀ net mask,
    HasPrefix s.routingTable net mask ↔ Represented routingTable past net mask

theorem prefixInv_initial : PrefixInv routerId topology ifList routingTable []
    ⟨initialMem, clearRoutes routingTable⟩ [] where
  ok := stateOk_initial _
  hasPrefix net mask := by simp [Represented, firstEntry]

/-- With a neighbour, each entry does its part. -/
theorem PrefixInv.runEntry {past : List TopologyEntry} {s s' : DijkstraState}
    {q : List (Walk TopologyEntry)} {t : TopologyEntry} {fuel : ℕ}
    (hs : PrefixInv routerId topology ifList routingTable past s q)
    (hlinks : firstLinks routerId topology ifList ≠ [])
    (h : runEntry fuel ifList topology routerId s t = .ok s') :
    ∃ q', PrefixInv routerId topology ifList routingTable (past ++ [t]) s' q' := by
  have hknown : checkRoute s.routingTable t.netNum = true ↔
      ∃ mask, Represented routingTable past t.netNum mask := by
    rw [checkRoute_iff_hasPrefix]
    exact exists_congr fun mask => hs.hasPrefix t.netNum mask
  rcases runEntry_ok hs.ok h with ⟨hcheck, rfl⟩ | ⟨-, hno, -, -⟩ |
    ⟨hcheck, -, r, w, i, -, -, -, -, htable, hok⟩
  · refine ⟨q, hs.ok, fun net mask => ?_⟩
    rw [hs.hasPrefix, represented_append_of_known (hknown.mp hcheck)]
  · exact absurd hno hlinks
  · refine ⟨r.2, hok, fun net mask => ?_⟩
    have hunknown : ¬ ∃ mask, Represented routingTable past t.netNum mask := by
      rw [← hknown, hcheck]
      exact Bool.false_ne_true
    rw [htable, hasPrefix_srAddRtEntry, hs.hasPrefix, represented_append_of_unknown hunknown]

/-- **With a neighbour, the prefixes with a route are those that are represented.** -/
theorem hasPrefix_result_iff {result : List SrRt}
    (h : Returns ifList topology routerId routingTable result)
    (hlinks : firstLinks routerId topology ifList ≠ []) (net mask : IpAddr) :
    HasPrefix result net mask ↔ Represented routingTable topology net mask := by
  have key : ∀ (fuel : ℕ) (ts past : List TopologyEntry) (s s' : DijkstraState)
      (q : List (Walk TopologyEntry)),
      PrefixInv routerId topology ifList routingTable past s q →
      ts.foldlM (Redes.runEntry fuel ifList topology routerId) s = .ok s' →
      ∃ q', PrefixInv routerId topology ifList routingTable (past ++ ts) s' q' := by
    intro fuel ts
    induction ts with
    | nil =>
      intro past s s' q hs hf
      cases hf
      exact ⟨q, by rwa [List.append_nil]⟩
    | cons t ts ih =>
      intro past s s' q hs hf
      obtain ⟨s₁, hrun, hrest⟩ := Fuel.foldlM_cons_ok hf
      obtain ⟨q₁, hs₁⟩ := hs.runEntry hlinks hrun
      obtain ⟨q', hs'⟩ := ih (past ++ [t]) s₁ s' q₁ hs₁ hrest
      exact ⟨q', by rwa [List.append_assoc, List.singleton_append] at hs'⟩
  obtain ⟨fuel, hfuel⟩ := h
  rw [runDijkstra] at hfuel
  cases hf : topology.foldlM (Redes.runEntry fuel ifList topology routerId)
      ⟨initialMem, clearRoutes routingTable⟩ with
  | error e => rw [hf] at hfuel; cases hfuel
  | ok s =>
    rw [hf] at hfuel
    obtain rfl : s.routingTable = result := Except.ok.inj hfuel
    obtain ⟨q', hinv⟩ := key fuel topology [] _ s [] prefixInv_initial hf
    exact hinv.hasPrefix net mask

/-- **Only its own prefix keeps an entry of the topology table from getting a route exactly if
every entry whose network has a path is represented**: its prefix is that of a route that is
kept, or no such route has its number and its mask is that of the first entry with this
number. -/
theorem prefixes_iff {ifList : List SrIf} {topology : List TopologyEntry} {routerId : IpAddr}
    {routingTable result : List SrRt} (h : Returns ifList topology routerId routingTable result) :
    ∃ new, result = clearRoutes routingTable ++ new ∧
      ((∀ t ∈ topology, HasPath routerId topology ifList t.netNum →
          ¬ HasPrefix new t.netNum t.netMask → HasPrefix result t.netNum t.netMask) ↔
        ∀ t ∈ topology, HasPath routerId topology ifList t.netNum →
          Represented routingTable topology t.netNum t.netMask) := by
  obtain ⟨⟨new, hnew, -⟩, -⟩ := runDijkstra_invariant (Q := fun _ => True) (R := fun _ => True)
    trivial (fun t _ _ => ⟨fun _ _ _ _ _ => trivial, fun _ _ _ _ _ _ _ _ _ _ => trivial⟩) h
  refine ⟨new, hnew, forall₂_congr fun t ht => forall_congr' fun hpath => ?_⟩
  have hlinks : firstLinks routerId topology ifList ≠ [] := by
    obtain ⟨w, hw, -⟩ := hpath
    exact List.ne_nil_of_mem hw.first_mem
  rw [← hasPrefix_result_iff h hlinks]
  refine ⟨fun hlaw => ?_, fun hprefix _ => hprefix⟩
  by_cases hadded : HasPrefix new t.netNum t.netMask
  · obtain ⟨e, he, heq⟩ := hadded
    exact ⟨e, hnew ▸ List.mem_append_right _ he, heq⟩
  · exact hlaw hadded

/-- The neighbour 7.7.7.7 advertises 10.0.3.0/24 and 10.0.3.0/25. -/
def halvedTopology : List TopologyEntry :=
  [createOspfv2TopologyEntry 0x07070707 0x0001000a 0x00ffffff 0x01010101 0x0201000a 1,
    createOspfv2TopologyEntry 0x07070707 0x0003000a 0x00ffffff 0 0x0201000a 1,
    createOspfv2TopologyEntry 0x07070707 0x0003000a 0x80ffffff 0 0x0201000a 1]

theorem halvedTopology_returns : Returns oneNeighbor halvedTopology 0x01010101 oneRoute
    (oneRoute ++ [⟨0x0003000a, 0x0201000a, 0x00ffffff, "eth1".toList, 110⟩]) :=
  ⟨3, by rfl⟩

/-- The condition at this call. -/
theorem halvedTopology_prefixes_iff :
    ∃ new, oneRoute ++ [⟨0x0003000a, 0x0201000a, 0x00ffffff, "eth1".toList, 110⟩] =
        clearRoutes oneRoute ++ new ∧
      ((∀ t ∈ halvedTopology, HasPath 0x01010101 halvedTopology oneNeighbor t.netNum →
          ¬ HasPrefix new t.netNum t.netMask →
            HasPrefix (oneRoute ++ [⟨0x0003000a, 0x0201000a, 0x00ffffff, "eth1".toList, 110⟩])
              t.netNum t.netMask) ↔
        ∀ t ∈ halvedTopology, HasPath 0x01010101 halvedTopology oneNeighbor t.netNum →
          Represented oneRoute halvedTopology t.netNum t.netMask) :=
  prefixes_iff halvedTopology_returns

/-- **The half of the network has a path and no route**: the network has its number. -/
theorem halvedTopology_hidden : ∃ result,
    Returns oneNeighbor halvedTopology 0x01010101 oneRoute result ∧
      ∃ t ∈ halvedTopology, HasPath 0x01010101 halvedTopology oneNeighbor t.netNum ∧
        ¬ HasPrefix result t.netNum t.netMask := by
  refine ⟨_, halvedTopology_returns, halvedTopology[2], by decide, ?_, by decide⟩
  have hfirst : firstLink 0x01010101 oneNeighbor[0] ∈
      firstLinks 0x01010101 halvedTopology oneNeighbor := by decide
  have hnext : halvedTopology[2] ∈
      nextLinks halvedTopology (firstLink 0x01010101 oneNeighbor[0]) := by decide
  exact ⟨.extend (.start _) halvedTopology[2], .extend (.start hfirst) hnext, by decide⟩

end Redes
