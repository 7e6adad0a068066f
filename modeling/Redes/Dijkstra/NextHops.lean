import Redes.Dijkstra.Termination
import Redes.Pwospf.HelloExchange

/-!
# The interface of a computed route

`run_dijkstra` looks for the interface whose network the next hop of a first link lies
in, and takes its name without asking whether there is one.  The next hop is the source
address of a HELLO, which nothing compares with the subnet it came through: a neighbour on
no subnet of this router makes the assertion of `sr_add_rt_entry` fail.

## Main definitions

* `NeighborsOnSubnets` — the neighbours are on subnets of this router.
* `HelloAccepted` — a frame is handled as a HELLO, and accepted.
* `HelloOnSubnet` — the events that give no interface a neighbour on another subnet.
* `RouterStep` — an event of the router.

## Main results

* `routerStep_ifList` — what an event does to the interfaces.
* `runDijkstra_ne_assertion` — with neighbours on its subnets, every route has an interface.
* `routes_have_interface` — so has every route that is computed in a run of such events.
-/

namespace Redes

open Bytes Logged Walk

variable {routerId : IpAddr} {topology : List TopologyEntry} {ifList : List SrIf}
  {routingTable : List SrRt}

/-! ### With the neighbours on the subnets of this router -/

/-- The network numbers of the interfaces. -/
def networks (ifList : List SrIf) : List IpAddr := ifList.map SrIf.network

/-- Every neighbour is, under the mask of its interface, in the network of an interface. -/
def NeighborsOnSubnets (ifList : List SrIf) : Prop :=
  ∀ i ∈ ifList, i.neighborId ≠ 0 → i.neighborIp &&& i.mask ∈ networks ifList

theorem NeighborsOnSubnets.nextHopsOk (h : NeighborsOnSubnets ifList) :
    NextHopsOk routerId topology ifList := by
  intro l hl
  obtain ⟨i, hi, ⟨-, hid⟩, rfl⟩ := mem_firstLinks.mp hl
  obtain ⟨j, hj, hnet⟩ := List.mem_map.mp (h i hi hid)
  rw [nextHopInterface, List.find?_isSome]
  exact ⟨j, hj, decide_eq_true hnet⟩

/-- The state is in order after an entry that succeeds. -/
theorem StateOk.runEntry {s s' : DijkstraState} {q : List (Walk TopologyEntry)}
    {t : TopologyEntry} {fuel : ℕ} (hs : StateOk routerId topology ifList s q)
    (h : runEntry fuel ifList topology routerId s t = .ok s') :
    ∃ q', StateOk routerId topology ifList s' q' := by
  rcases runEntry_ok hs h with ⟨-, rfl⟩ | ⟨-, -, -, hok⟩ | ⟨-, -, r, w, i, -, -, -, -, -, hok⟩
  · exact ⟨q, hs⟩
  · exact ⟨[], hok⟩
  · exact ⟨r.2, hok⟩

/-- **With the neighbours on its subnets, every route finds its interface.** -/
theorem runDijkstra_ne_assertion (h : NeighborsOnSubnets ifList) (fuel : ℕ) :
    runDijkstra fuel ifList topology routerId routingTable ≠ .error .assertion := by
  have key : ∀ (ts : List TopologyEntry) (s : DijkstraState) (q : List (Walk TopologyEntry)),
      StateOk routerId topology ifList s q →
      ts.foldlM (runEntry fuel ifList topology routerId) s ≠ .error .assertion := by
    intro ts
    induction ts with
    | nil => intro s q _ hf; cases hf
    | cons t ts ih =>
      intro s q hs hf
      rw [List.foldlM_cons] at hf
      cases hrun : runEntry fuel ifList topology routerId s t with
      | error e =>
        rw [hrun, runEntry_error h.nextHopsOk hs hrun] at hf
        cases hf
      | ok s' =>
        rw [hrun] at hf
        obtain ⟨q', hs'⟩ := hs.runEntry hrun
        exact ih s' q' hs' hf
  intro hrun
  rw [runDijkstra] at hrun
  cases hf : topology.foldlM (runEntry fuel ifList topology routerId)
      ⟨initialMem, clearRoutes routingTable⟩ with
  | error e =>
    rw [hf] at hrun
    obtain rfl : e = .assertion := Except.error.inj hrun
    exact key topology _ [] (stateOk_initial _) hf
  | ok s => rw [hf] at hrun; cases hrun

/-! ### What an event does to the interfaces -/

/-- The frame is handled as a HELLO, which is accepted with this content. -/
structure HelloAccepted (s : RouterState) (packet : Frame) (interface : IfName) (heard : Heard) :
    Prop where
  /-- The frame is valid. -/
  valid : isPacketValid packet = true
  /-- It is an IP packet. -/
  ip : etherType packet = htons ethertypeIp
  /-- It is an OSPF packet. -/
  ospf : ipP packet = ipProtocolOspfv2
  /-- The router id is known. -/
  running : s.routerId ≠ 0
  /-- It is a HELLO. -/
  hello : read8 packet 35 = .ok ospfTypeHello
  /-- The handler accepts it. -/
  heard : srHandlePwospfHelloPacket packet (srGetInterface s.ifList interface) = .ok (some heard)

theorem ifList_srHandlePwospfPacketOut {env : Env} {s s' : RouterState} {packet : Frame}
    {interface : IfName} (hvalid : isPacketValid packet = true)
    (hip : etherType packet = htons ethertypeIp) (hospf : ipP packet = ipProtocolOspfv2)
    (h : (srHandlePwospfPacketOut env interface s packet
      (srGetInterface s.ifList interface)).ending = .ok s') :
    s'.ifList = s.ifList ∨ ∃ heard, HelloAccepted s packet interface heard ∧
      s'.ifList = (recordHeard interface heard ⟨s.ifList, s.neighbors⟩).ifList := by
  unfold srHandlePwospfPacketOut at h
  split at h
  · exact .inl (Except.ok.inj h ▸ rfl)
  · next hrunning =>
    cases htype : read8 packet 35 with
    | error e => rw [htype] at h; cases h
    | ok type =>
      rw [htype] at h
      simp only at h
      split at h
      · next hhello =>
        cases hheard : srHandlePwospfHelloPacket packet (srGetInterface s.ifList interface) with
        | error e => simp only [srHandlePwospfHelloPacketOut, hheard] at h; cases h
        | ok heard =>
          cases heard with
          | none =>
            simp only [srHandlePwospfHelloPacketOut, hheard] at h
            exact .inl (Except.ok.inj h ▸ rfl)
          | some heard =>
            have hrec := neighbors_of_ending hheard h
            exact .inr ⟨heard, ⟨hvalid, hip, hospf, hrunning, hhello ▸ htype, hheard⟩,
              congrArg NeighborState.ifList hrec⟩
      · split at h
        · cases hcopy : copyToRxLsuParam packet with
          | error e => rw [hcopy] at h; cases h
          | ok copy => rw [hcopy] at h; exact .inl (Except.ok.inj h ▸ rfl)
        · exact .inl (Except.ok.inj h ▸ rfl)

/-- Of what is received, only an accepted HELLO changes the interfaces. -/
theorem ifList_srHandlepacket {env : Env} {s s' : RouterState} {packet : Frame}
    {interface : IfName} (h : (srHandlepacket env packet interface s).ending = .ok s') :
    s'.ifList = s.ifList ∨ ∃ heard, HelloAccepted s packet interface heard ∧
      s'.ifList = (recordHeard interface heard ⟨s.ifList, s.neighbors⟩).ifList := by
  rcases srHandlepacket_cases env s interface packet with
    heq | ⟨-, -, heq⟩ | ⟨hvalid, hip, ⟨hospf, heq⟩ | heq⟩
  · rw [heq] at h
    exact .inl (Except.ok.inj h ▸ rfl)
  · rw [heq] at h
    obtain ⟨st, -, rfl⟩ := ending_map_eq_ok h
    exact .inl rfl
  · rw [heq] at h
    exact ifList_srHandlePwospfPacketOut hvalid hip hospf h
  · rw [heq] at h
    obtain ⟨st, -, rfl⟩ := ending_map_eq_ok h
    exact .inl rfl

theorem ifList_srHandlePwospfLsuPacketOut {env : Env} {s s' : RouterState} {l : RxLsu}
    (h : (srHandlePwospfLsuPacketOut env l s).ending = .ok s') : s'.ifList = s.ifList := by
  unfold srHandlePwospfLsuPacketOut at h
  split at h
  · cases h
  · exact Except.ok.inj h ▸ rfl
  · obtain ⟨st, -, rfl⟩ := ending_map_eq_ok h
    rfl

/-- **What an event does to the interfaces**: an accepted HELLO is recorded, the counters of
the HELLOs go on, or neighbours that have not been heard are cleared. -/
theorem routerStep_ifList {env : Env} {s s' : RouterState} {e : RouterEvent}
    (h : (routerStep env s e).ending = .ok s') :
    s'.ifList = s.ifList ∨
      (∃ packet interface heard, e = .receive packet interface ∧
        HelloAccepted s packet interface heard ∧
        s'.ifList = (recordHeard interface heard ⟨s.ifList, s.neighbors⟩).ifList) ∨
      s'.ifList = s.ifList.map SrIf.tick ∨
      s'.ifList = (checkNeighborsLife ⟨s.ifList, s.neighbors⟩).ifList := by
  cases e with
  | receive packet interface =>
    rcases ifList_srHandlepacket (show (srHandlepacket env packet interface s).ending = .ok s'
      from h) with hsame | ⟨heard, hacc, hrec⟩
    · exact .inl hsame
    · exact .inr (.inl ⟨packet, interface, heard, rfl, hacc, hrec⟩)
  | rxLsu k =>
    left
    simp only [routerStep] at h
    cases hl : s.rxLsus[k]? with
    | none =>
      rw [hl] at h
      exact Except.ok.inj h ▸ rfl
    | some l =>
      rw [hl] at h
      exact (ifList_srHandlePwospfLsuPacketOut h).trans rfl
  | arpTimeout =>
    obtain ⟨st, -, rfl⟩ := ending_map_eq_ok h
    exact .inl rfl
  | run =>
    left
    obtain rfl := Except.ok.inj h
    unfold pwospfRunThread
    split <;> rfl
  | hellos =>
    simp only [routerStep, whenRunning] at h
    split at h
    · exact .inl (Except.ok.inj h ▸ rfl)
    · obtain ⟨st, -, rfl⟩ := ending_map_eq_ok h
      exact .inr (.inr (.inl rfl))
  | allLsu =>
    simp only [routerStep, whenRunning] at h
    split at h
    · exact .inl (Except.ok.inj h ▸ rfl)
    · obtain ⟨st, -, rfl⟩ := ending_map_eq_ok h
      exact .inl rfl
  | neighborsLife =>
    simp only [routerStep, whenRunning] at h
    split at h
    · exact .inl (Except.ok.inj h ▸ rfl)
    · exact .inr (.inr (.inr (Except.ok.inj h ▸ rfl)))
  | topologyAge =>
    simp only [routerStep, whenRunning] at h
    split at h <;> exact .inl (Except.ok.inj h ▸ rfl)
  | routes table => exact .inl (Except.ok.inj h ▸ rfl)

/-! ### Neighbours stay on the subnets -/

/-- Neighbours are on subnets if the networks are those of before, and each neighbour was on
one or is on one of them. -/
theorem NeighborsOnSubnets.of_networks {ifList' : List SrIf} (h : NeighborsOnSubnets ifList)
    (hnets : networks ifList' = networks ifList)
    (hold : ∀ i' ∈ ifList', i'.neighborId ≠ 0 → i'.neighborIp &&& i'.mask ∈ networks ifList ∨
      ∃ i ∈ ifList, i.neighborId ≠ 0 ∧ i.neighborIp &&& i.mask = i'.neighborIp &&& i'.mask) :
    NeighborsOnSubnets ifList' := by
  intro i' hi' hid
  rw [hnets]
  rcases hold i' hi' hid with hmem | ⟨i, hi, hid', heq⟩
  · exact hmem
  · exact heq ▸ h i hi hid'

theorem NeighborsOnSubnets.tick (h : NeighborsOnSubnets ifList) :
    NeighborsOnSubnets (ifList.map SrIf.tick) := by
  have htick : ∀ i : SrIf, i.tick.network = i.network ∧ i.tick.neighborId = i.neighborId ∧
      i.tick.neighborIp &&& i.tick.mask = i.neighborIp &&& i.mask := by
    intro i
    unfold SrIf.tick
    split <;> exact ⟨rfl, rfl, rfl⟩
  refine h.of_networks ?_ ?_
  · rw [networks, List.map_map]
    exact List.map_congr_left fun i _ => (htick i).1
  · intro i' hi' hid
    obtain ⟨i, hi, rfl⟩ := List.mem_map.mp hi'
    exact .inr ⟨i, hi, (htick i).2.1 ▸ hid, (htick i).2.2.symm⟩

theorem NeighborsOnSubnets.clearNeighbor (h : NeighborsOnSubnets ifList) (neighborId : IpAddr) :
    NeighborsOnSubnets (clearNeighbor ifList neighborId) := by
  unfold Redes.clearNeighbor
  refine h.of_networks ?_ ?_
  · rw [networks, List.map_map]
    refine List.map_congr_left fun i _ => ?_
    rw [Function.comp_apply]
    split <;> rfl
  · intro i' hi' hid
    obtain ⟨i, hi, rfl⟩ := List.mem_map.mp hi'
    split at hid
    · exact absurd rfl hid
    · next hne => exact .inr ⟨i, hi, hid, by rw [if_neg hne]⟩

theorem NeighborsOnSubnets.checkNeighborsLife {s : NeighborState}
    (h : NeighborsOnSubnets s.ifList) : NeighborsOnSubnets (checkNeighborsLife s).ifList := by
  have hfold : ∀ (removed : List Neighbor) (ifList : List SrIf), NeighborsOnSubnets ifList →
      NeighborsOnSubnets
        (removed.foldl (fun ifList n => Redes.clearNeighbor ifList n.neighborId) ifList) := by
    intro removed
    induction removed with
    | nil => exact fun _ h => h
    | cons n removed ih => exact fun ifList h => ih _ (h.clearNeighbor n.neighborId)
  exact hfold _ _ h

theorem networks_setNeighbor (interface : IfName) (heard : Heard) (ifList : List SrIf) :
    networks (setNeighbor interface heard ifList) = networks ifList := by
  induction ifList with
  | nil => rfl
  | cons i ifs ih =>
    unfold networks at ih ⊢
    rw [setNeighbor]
    split
    · rfl
    · rw [List.map_cons, List.map_cons, ih]

/-- Only the interface that the HELLO came through has another neighbour. -/
theorem mem_setNeighbor {interface : IfName} {heard : Heard} {i' : SrIf}
    (h : i' ∈ setNeighbor interface heard ifList) :
    i' ∈ ifList ∨ ∃ i, srGetInterface ifList interface = some i ∧
      i' = { i with neighborId := heard.neighborId, neighborIp := heard.neighborIp } := by
  induction ifList with
  | nil => cases h
  | cons i ifs ih =>
    unfold setNeighbor at h
    unfold srGetInterface at ih ⊢
    split at h
    · next hname =>
      rcases List.mem_cons.mp h with rfl | h
      · exact .inr ⟨i, by rw [List.find?_cons_of_pos (by simpa using hname)], rfl⟩
      · exact .inl (List.mem_cons_of_mem _ h)
    · next hname =>
      rw [List.find?_cons_of_neg (by simpa using hname)]
      rcases List.mem_cons.mp h with rfl | h
      · exact .inl List.mem_cons_self
      · exact (ih h).imp_left (List.mem_cons_of_mem _)

/-- A HELLO that gives its interface a neighbour comes from an address that is, under the
mask of that interface, in the network of an interface. -/
def HelloOnSubnet (s : RouterState) : RouterEvent → Prop
  | .receive packet interface => ∀ heard i, HelloAccepted s packet interface heard →
      srGetInterface s.ifList interface = some i → i.neighborId ≠ heard.neighborId →
        heard.neighborId ≠ 0 → heard.neighborIp &&& i.mask ∈ networks s.ifList
  | _ => True

/-- The neighbours stay on the subnets when such a HELLO is recorded. -/
theorem NeighborsOnSubnets.recordHeard {s : NeighborState} (h : NeighborsOnSubnets s.ifList)
    {interface : IfName} {heard : Heard}
    (hsubnet : ∀ i, srGetInterface s.ifList interface = some i → i.neighborId ≠ heard.neighborId →
      heard.neighborId ≠ 0 → heard.neighborIp &&& i.mask ∈ networks s.ifList) :
    NeighborsOnSubnets (recordHeard interface heard s).ifList := by
  unfold Redes.recordHeard
  simp only
  split
  · next hchange =>
    obtain ⟨rxIf, hrx, hne⟩ := hchange
    refine h.of_networks (networks_setNeighbor interface heard s.ifList) ?_
    intro i' hi' hid
    rcases mem_setNeighbor hi' with hmem | ⟨i, hi, rfl⟩
    · exact .inr ⟨i', hmem, hid, rfl⟩
    · obtain rfl : rxIf = i := Option.some.inj (hrx.symm.trans hi)
      exact .inl (hsubnet rxIf hi hne hid)
  · exact h

/-- **An event keeps the neighbours on the subnets**, unless it is a HELLO from elsewhere. -/
theorem NeighborsOnSubnets.routerStep {env : Env} {s s' : RouterState} {e : RouterEvent}
    (h : NeighborsOnSubnets s.ifList) (he : HelloOnSubnet s e)
    (hstep : (routerStep env s e).ending = .ok s') : NeighborsOnSubnets s'.ifList := by
  rcases routerStep_ifList hstep with heq | ⟨packet, interface, heard, rfl, hacc, heq⟩ | heq | heq
  · rwa [heq]
  · rw [heq]
    exact h.recordHeard fun i hi hne hid => he heard i hacc hi hne hid
  · rw [heq]
    exact h.tick
  · rw [heq]
    exact NeighborsOnSubnets.checkNeighborsLife h

/-! ### Runs -/

/-- An event that is allowed in the state it finds, and what it leaves. -/
def RouterStep (allowed : RouterState → RouterEvent → Prop) (s s' : RouterState) : Prop :=
  ∃ env e, allowed s e ∧ (routerStep env s e).ending = .ok s'

/-- The states that can be reached from interfaces without neighbours. -/
def Reaches (allowed : RouterState → RouterEvent → Prop) (ifList : List SrIf)
    (routingTable : List SrRt) (s : RouterState) : Prop :=
  (∀ i ∈ ifList, i.neighborId = 0) ∧
    Relation.ReflTransGen (RouterStep allowed) (routerInit ifList routingTable) s

/-- **Every computed route has an interface** in a run whose HELLOs give neighbours on the
subnets of this router only: no `run_dijkstra`, on the topology and the routes of any state of
the run, fails the assertion. -/
theorem routes_have_interface {s : RouterState} (h : Reaches HelloOnSubnet ifList routingTable s)
    (fuel : ℕ) :
    runDijkstra fuel s.ifList s.topology s.routerId s.routingTable ≠ .error .assertion := by
  obtain ⟨hnone, hrun⟩ := h
  have hinv : NeighborsOnSubnets s.ifList := by
    induction hrun with
    | refl => exact fun i hi hid => absurd (hnone i hi) hid
    | tail _ hstep ih =>
      obtain ⟨env, e, he, hstep⟩ := hstep
      exact ih.routerStep he hstep
  exact runDijkstra_ne_assertion hinv fuel

/-! ### A HELLO from elsewhere, for examples -/

/-- A HELLO of the router 8.8.8.8, with the source address 10.0.9.2. -/
def awayHello : Frame :=
  [0x01, 0x00, 0x5e, 0x00, 0x00, 0x05, 0x05, 0x05, 0x05, 0x05, 0x05, 0x05, 0x08, 0x00,
    0x45, 0x00, 0x00, 0x34, 0x00, 0x00, 0x00, 0x00, 0x40, 0x59, 0x87, 0x6a,
    0x0a, 0x00, 0x09, 0x02, 0xe0, 0x00, 0x00, 0x05,
    0x02, 0x01, 0x00, 0x20, 0x08, 0x08, 0x08, 0x08, 0x00, 0x00, 0x00, 0x00, 0xee, 0xc8, 0x00, 0x00,
    0x00, 0x00, 0x00, 0x00, 0x00, 0x00, 0x00, 0x00,
    0xff, 0xff, 0xff, 0x00, 0x00, 0x05, 0x00, 0x00]

/-- An LSU of this router: it is on 10.0.2.0/24, and 10.0.3.0/24 is behind it. -/
def awayLsu : Frame :=
  [0x02, 0x02, 0x02, 0x02, 0x02, 0x02, 0x05, 0x05, 0x05, 0x05, 0x05, 0x05, 0x08, 0x00,
    0x45, 0x00, 0x00, 0x4c, 0x00, 0x00, 0x00, 0x00, 0x40, 0x59, 0x62, 0x57,
    0x0a, 0x00, 0x02, 0x02, 0x0a, 0x00, 0x02, 0x01,
    0x02, 0x04, 0x00, 0x38, 0x08, 0x08, 0x08, 0x08, 0x00, 0x00, 0x00, 0x00, 0xd3, 0x71, 0x00, 0x00,
    0x00, 0x00, 0x00, 0x00, 0x00, 0x00, 0x00, 0x00,
    0x01, 0x00, 0x00, 0x40, 0x02, 0x00, 0x00, 0x00,
    0x0a, 0x00, 0x02, 0x00, 0xff, 0xff, 0xff, 0x00, 0x00, 0x00, 0x00, 0x00,
    0x0a, 0x00, 0x03, 0x00, 0xff, 0xff, 0xff, 0x00, 0x00, 0x00, 0x00, 0x00]

/-- The router hears the HELLO and the LSU on its second link. -/
def awayEvents : List RouterEvent :=
  [.run, .receive awayHello "eth2".toList, .receive awayLsu "eth2".toList, .rxLsu 0]

/-- A list of events that are handled one after the other is a run. -/
theorem reaches_of_events {env : Env} {events : List RouterEvent} {s s' : RouterState}
    (hs : Reaches (fun _ _ => True) ifList routingTable s)
    (h : events.foldlM (fun s e => (routerStep env s e).ending) s = .ok s') :
    Reaches (fun _ _ => True) ifList routingTable s' :=
  Fuel.foldlM_invariant (I := Reaches (fun _ _ => True) ifList routingTable)
    (fun _ _ e _ hrun hstep => ⟨hrun.1, hrun.2.tail ⟨env, e, trivial, hstep⟩⟩) hs h

theorem startedRouter_reached (allowed : RouterState → RouterEvent → Prop)
    (h : allowed (routerInit twoLinks []) .run) : Reaches allowed twoLinks [] startedRouter :=
  ⟨by decide, .single ⟨quietEnv, .run, h, rfl⟩⟩

/-- The neighbour 10.0.2.2 is on the subnet of the second link. -/
theorem neighborHello_onSubnet :
    HelloOnSubnet startedRouter (.receive neighborHello "eth2".toList) := by
  intro heard i hacc hi _ _
  have hheard : srHandlePwospfHelloPacket neighborHello
      (srGetInterface startedRouter.ifList "eth2".toList) =
        .ok (some ⟨0x08080808, 0x0202000a⟩) := by decide +kernel
  obtain rfl := Option.some.inj (Except.ok.inj (hheard.symm.trans hacc.heard))
  have heth2 : srGetInterface startedRouter.ifList "eth2".toList = twoLinks[1]? := by decide
  obtain rfl : _ = i := Option.some.inj (heth2.symm.trans hi)
  decide

/-- With this neighbour the routes have an interface. -/
theorem routes_have_interface_neighborHello : ∃ s, Reaches HelloOnSubnet twoLinks [] s ∧
    s.ifList.map SrIf.neighborIp = [0, 0x0202000a] ∧ ∀ fuel,
      runDijkstra fuel s.ifList s.topology s.routerId s.routingTable ≠ .error .assertion := by
  have hrun : ∃ s, Reaches HelloOnSubnet twoLinks [] s ∧
      s.ifList.map SrIf.neighborIp = [0, 0x0202000a] :=
    ⟨_, ⟨by decide, (startedRouter_reached HelloOnSubnet trivial).2.tail
      ⟨quietEnv, _, neighborHello_onSubnet, rfl⟩⟩, by decide +kernel⟩
  obtain ⟨s, hs, hips⟩ := hrun
  exact ⟨s, hs, hips, fun fuel => routes_have_interface hs fuel⟩

/-- **A neighbour on no subnet of the router makes the assertion fail.** -/
theorem awayHello_fails_assertion : ∃ s, Reaches (fun _ _ => True) twoLinks [] s ∧
    runDijkstra 10 s.ifList s.topology s.routerId s.routingTable = .error .assertion := by
  have hrun : ∃ s, awayEvents.foldlM (fun s e => (routerStep quietEnv s e).ending)
      (routerInit twoLinks []) = .ok s ∧
        runDijkstra 10 s.ifList s.topology s.routerId s.routingTable = .error .assertion :=
    ⟨_, rfl, by decide +kernel⟩
  obtain ⟨s, hevents, hfails⟩ := hrun
  exact ⟨s, reaches_of_events ⟨by decide, .refl⟩ hevents, hfails⟩

end Redes
