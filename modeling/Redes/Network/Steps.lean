import Redes.Dijkstra.NextHops

/-!
# What an event does to the state of a router

An event does one of a few things: the ARP cache changes and nothing else does, a HELLO is
recorded, an LSU is put aside for its thread, dropped or applied, a timer goes off.  All that
is said of runs of routers with respect to PWOSPF goes by these cases.

## Main definitions

* `Port`, `ports` — what of the interfaces stays as it is.
* `Stepped` — the things that an event can do.

## Main results

* `stepped_routerStep` — an event does one of them.
* `Stepped.ports_eq`, `Stepped.routerId_eq` — what none of them changes.
-/

namespace Redes

open Bytes Logged

/-! ### Ports -/

/-- What of an interface stays as it is. -/
structure Port where
  /-- The name. -/
  name : IfName
  /-- The hardware address. -/
  addr : Mac
  /-- The IP address. -/
  ip : IpAddr
  /-- The subnet mask. -/
  mask : IpAddr
  deriving DecidableEq

/-- The port of an interface. -/
def SrIf.port (i : SrIf) : Port := ⟨i.name, i.addr, i.ip, i.mask⟩

/-- The ports of a router. -/
def ports (ifList : List SrIf) : List Port := ifList.map SrIf.port

theorem ports_setNeighbor (interface : IfName) (heard : Heard) (ifList : List SrIf) :
    ports (setNeighbor interface heard ifList) = ports ifList := by
  unfold ports
  induction ifList with
  | nil => rfl
  | cons i ifs ih =>
    unfold setNeighbor
    split
    · rfl
    · rw [List.map_cons, List.map_cons, ih]

theorem ports_recordHeard (interface : IfName) (heard : Heard) (s : NeighborState) :
    ports (recordHeard interface heard s).ifList = ports s.ifList := by
  unfold recordHeard
  simp only
  split
  · exact ports_setNeighbor interface heard s.ifList
  · rfl

/-- An interface that a sweep leaves is one of before, but its neighbour may be cleared. -/
theorem mem_checkNeighborsLife {s : NeighborState} {i : SrIf}
    (h : i ∈ (checkNeighborsLife s).ifList) :
    ∃ j ∈ s.ifList, i = j ∨ i = { j with neighborId := 0 } := by
  -- each neighbour that is removed is cleared at every interface that has it
  have hfold : ∀ (removed : List Neighbor) (ifList : List SrIf),
      ∀ i ∈ removed.foldl (fun ifList n => clearNeighbor ifList n.neighborId) ifList,
        ∃ j ∈ ifList, i = j ∨ i = { j with neighborId := 0 } := by
    intro removed
    induction removed with
    | nil => exact fun ifList i hi => ⟨i, hi, .inl rfl⟩
    | cons n removed ih =>
      intro ifList i hi
      obtain ⟨j, hj, hij⟩ := ih _ i hi
      obtain ⟨k, hk, rfl⟩ := List.mem_map.mp hj
      refine ⟨k, hk, ?_⟩
      split at hij
      · rcases hij with rfl | rfl
        · exact .inr rfl
        · exact .inr rfl
      · exact hij
  exact hfold _ _ i h

theorem ports_checkNeighborsLife (s : NeighborState) :
    ports (checkNeighborsLife s).ifList = ports s.ifList := by
  have hfold : ∀ (removed : List Neighbor) (ifList : List SrIf),
      ports (removed.foldl (fun ifList n => clearNeighbor ifList n.neighborId) ifList) =
        ports ifList := by
    intro removed
    induction removed with
    | nil => exact fun _ => rfl
    | cons n removed ih =>
      intro ifList
      rw [List.foldl_cons, ih]
      unfold ports clearNeighbor
      rw [List.map_map]
      refine List.map_congr_left ?_
      intro i _
      rw [Function.comp_apply]
      split <;> rfl
  exact hfold _ _

theorem ports_tick (ifList : List SrIf) : ports (ifList.map SrIf.tick) = ports ifList := by
  unfold ports
  rw [List.map_map]
  refine List.map_congr_left ?_
  intro i _
  rw [Function.comp_apply]
  unfold SrIf.tick
  split <;> rfl

/-! ### Steps -/

/-- What an event can do to the state. -/
inductive Stepped (s : RouterState) : RouterEvent → RouterState → Prop
  /-- Only the ARP cache changes. -/
  | arp {e : RouterEvent} (st : ArpState) : (∀ k, e = .rxLsu k → s.rxLsus[k]? = none) →
      Stepped s e (s.withArp st)
  /-- A neighbour is heard once more. -/
  | heard {packet : Frame} {interface : IfName} {heard : Heard} :
      HelloAccepted s packet interface heard →
      ¬ ChangesNeighbor ⟨s.ifList, s.neighbors⟩ interface heard →
      Stepped s (.receive packet interface)
        (s.withNeighbors (recordHeard interface heard ⟨s.ifList, s.neighbors⟩))
  /-- A new neighbour is heard, and LSUs are sent. -/
  | newNeighbor {packet : Frame} {interface : IfName} {heard : Heard} (st : ArpState) :
      HelloAccepted s packet interface heard →
      ChangesNeighbor ⟨s.ifList, s.neighbors⟩ interface heard →
      Stepped s (.receive packet interface)
        { s.withNeighbors (recordHeard interface heard ⟨s.ifList, s.neighbors⟩) with
          arp := st
          sequenceNum := s.sequenceNum + 1 }
  /-- An LSU is put aside for its thread. -/
  | lsuReceived {packet : Frame} (interface : IfName) : ReachesPwospf packet →
      s.routerId ≠ 0 → ospfType packet = ospfTypeLsu →
      Stepped s (.receive packet interface)
        { s with rxLsus := s.rxLsus ++ [⟨packet, interface⟩] }
  /-- An LSU is dropped. -/
  | lsuDropped {k : ℕ} {l : RxLsu} : s.rxLsus[k]? = some l →
      srHandlePwospfLsuPacket s.routerId s.topology l.packet = .ok .dropped →
      Stepped s (.rxLsu k) { s with rxLsus := s.rxLsus.eraseIdx k }
  /-- An LSU is applied, and flooded. -/
  | lsuAccepted {k : ℕ} {l : RxLsu} {lsu : Lsu} (st : ArpState) : s.rxLsus[k]? = some l →
      srHandlePwospfLsuPacket s.routerId s.topology l.packet = .ok (.accepted lsu) →
      Stepped s (.rxLsu k)
        { s with
          arp := st
          topology := updateTopology s.topology lsu
          rxLsus := s.rxLsus.eraseIdx k }
  /-- The router id is chosen. -/
  | run : Stepped s .run (pwospfRunThread s)
  /-- HELLOs are sent. -/
  | hellos (st : ArpState) : s.routerId ≠ 0 →
      Stepped s .hellos { s with arp := st, ifList := s.ifList.map SrIf.tick }
  /-- LSUs are sent. -/
  | allLsu (st : ArpState) : s.routerId ≠ 0 →
      Stepped s .allLsu { s with arp := st, sequenceNum := s.sequenceNum + 1 }
  /-- The neighbours grow older. -/
  | neighborsLife : s.routerId ≠ 0 →
      Stepped s .neighborsLife
        (s.withNeighbors (checkNeighborsLife ⟨s.ifList, s.neighbors⟩))
  /-- The topology grows older. -/
  | topologyAge : s.routerId ≠ 0 →
      Stepped s .topologyAge { s with topology := (checkTopologyAge s.topology).1 }
  /-- Another routing table is put in place. -/
  | routes (routingTable : List SrRt) :
      Stepped s (.routes routingTable) { s with routingTable := routingTable }

theorem stepped_self {s : RouterState} {e : RouterEvent}
    (h : ∀ k, e = .rxLsu k → s.rxLsus[k]? = none) : Stepped s e s := .arp s.arp h

/-- Nothing happens when a frame is received. -/
theorem stepped_receive (s : RouterState) (packet : Frame) (interface : IfName) (st : ArpState) :
    Stepped s (.receive packet interface) (s.withArp st) := .arp st fun _ h => by cases h

/-- The type that is read is that of the packet. -/
theorem ospfType_of_read8 {packet : Frame} {type : UInt8} (h : read8 packet 35 = .ok type) :
    ospfType packet = type := by
  unfold read8 at h
  split at h
  · exact Except.ok.inj h
  · cases h

/-- What `sr_handle_pwospf_packet` does. -/
theorem stepped_srHandlePwospfPacketOut {env : Env} {s s' : RouterState} {packet : Frame}
    {interface : IfName} (hvalid : isPacketValid packet = true)
    (hip : etherType packet = htons ethertypeIp) (hospf : ipP packet = ipProtocolOspfv2)
    (h : (srHandlePwospfPacketOut env interface s packet
      (srGetInterface s.ifList interface)).ending = .ok s') :
    Stepped s (.receive packet interface) s' := by
  unfold srHandlePwospfPacketOut at h
  split at h
  · obtain rfl := Except.ok.inj h
    exact stepped_receive _ packet interface _
  · next hrunning =>
    cases htype : read8 packet 35 with
    | error e =>
      rw [htype] at h
      cases h
    | ok type =>
      rw [htype] at h
      simp only at h
      -- a HELLO, an LSU, or a packet of a type that is dropped
      split at h
      · next hhello =>
        unfold srHandlePwospfHelloPacketOut at h
        cases hheard : srHandlePwospfHelloPacket packet (srGetInterface s.ifList interface) with
        | error e =>
          rw [hheard] at h
          cases h
        | ok heard =>
          rw [hheard] at h
          cases heard with
          | none =>
            obtain rfl := Except.ok.inj h
            exact stepped_receive _ packet interface _
          | some heard =>
            have hacc : HelloAccepted s packet interface heard :=
              ⟨hvalid, hip, hospf, hrunning, hhello ▸ htype, hheard⟩
            simp only at h
            split at h
            · next hnew =>
              obtain ⟨st, -, rfl⟩ := ending_map_eq_ok h
              exact .newNeighbor st hacc hnew
            · next hold =>
              obtain rfl := Except.ok.inj h
              exact .heard hacc hold
      · split at h
        · next hlsu =>
          cases hcopy : copyToRxLsuParam packet with
          | error e =>
            rw [hcopy] at h
            cases h
          | ok copy =>
            rw [hcopy] at h
            obtain rfl := Except.ok.inj h
            -- the LSU is copied for its thread, which handles it later
            obtain ⟨rfl, -⟩ := copyToRxLsuParam_eq_ok hcopy
            exact .lsuReceived interface ⟨hvalid, hip, hospf⟩ hrunning
              ((ospfType_of_read8 htype).trans hlsu)
        · obtain rfl := Except.ok.inj h
          exact stepped_receive _ packet interface _

/-- A timer does nothing, or what it does when the router id is known. -/
theorem ending_whenRunning {s s' : RouterState} {x : Sending RouterState}
    (h : (whenRunning s x).ending = .ok s') :
    s' = s ∨ s.routerId ≠ 0 ∧ x.ending = .ok s' := by
  unfold whenRunning at h
  split at h
  · exact .inl (Except.ok.inj h).symm
  · next hrunning => exact .inr ⟨hrunning, h⟩

/-- **An event does one of these things** when it returns. -/
theorem stepped_routerStep {env : Env} {s s' : RouterState} {e : RouterEvent}
    (h : (routerStep env s e).ending = .ok s') : Stepped s e s' := by
  cases e with
  | receive packet interface =>
    change (srHandlepacket env packet interface s).ending = .ok s' at h
    -- no packet at all, an ARP packet, an OSPF packet, or another IP packet
    rcases srHandlepacket_cases env s interface packet with
      heq | ⟨-, -, heq⟩ | ⟨hvalid, hip, ⟨hospf, heq⟩ | heq⟩
    · rw [heq] at h
      obtain rfl := Except.ok.inj h
      exact stepped_receive _ packet interface _
    · rw [heq] at h
      obtain ⟨st, -, rfl⟩ := ending_map_eq_ok h
      exact .arp st fun _ h => by cases h
    · rw [heq] at h
      exact stepped_srHandlePwospfPacketOut hvalid hip hospf h
    · rw [heq] at h
      obtain ⟨st, -, rfl⟩ := ending_map_eq_ok h
      exact .arp st fun _ h => by cases h
  | rxLsu k =>
    simp only [routerStep] at h
    cases hl : s.rxLsus[k]? with
    | none =>
      rw [hl] at h
      obtain rfl := Except.ok.inj h
      refine stepped_self fun j hj => ?_
      cases hj
      exact hl
    | some l =>
      rw [hl] at h
      simp only [srHandlePwospfLsuPacketOut] at h
      split at h
      · cases h
      · next hdrop =>
        obtain rfl := Except.ok.inj h
        exact .lsuDropped hl hdrop
      · next lsu hacc =>
        obtain ⟨st, -, rfl⟩ := ending_map_eq_ok h
        exact .lsuAccepted st hl hacc
  | arpTimeout =>
    obtain ⟨st, -, rfl⟩ := ending_map_eq_ok h
    exact .arp st fun _ h => by cases h
  | run =>
    obtain rfl := Except.ok.inj h
    exact .run
  | hellos =>
    rcases ending_whenRunning h with rfl | ⟨hrunning, h⟩
    · exact stepped_self fun _ h => by cases h
    · obtain ⟨st, -, rfl⟩ := ending_map_eq_ok h
      exact .hellos st hrunning
  | allLsu =>
    rcases ending_whenRunning h with rfl | ⟨hrunning, h⟩
    · exact stepped_self fun _ h => by cases h
    · obtain ⟨st, -, rfl⟩ := ending_map_eq_ok h
      exact .allLsu st hrunning
  | neighborsLife =>
    rcases ending_whenRunning h with rfl | ⟨hrunning, h⟩
    · exact stepped_self fun _ h => by cases h
    · obtain rfl := Except.ok.inj h
      exact .neighborsLife hrunning
  | topologyAge =>
    rcases ending_whenRunning h with rfl | ⟨hrunning, h⟩
    · exact stepped_self fun _ h => by cases h
    · obtain rfl := Except.ok.inj h
      exact .topologyAge hrunning
  | routes routingTable =>
    obtain rfl := Except.ok.inj h
    exact .routes routingTable

section Kept

variable {s s' : RouterState} {e : RouterEvent}

/-- **No event changes the ports.** -/
theorem Stepped.ports_eq (h : Stepped s e s') : ports s'.ifList = ports s.ifList := by
  cases h with
  | heard _ _ => exact ports_recordHeard _ _ _
  | newNeighbor _ _ _ => exact ports_recordHeard _ _ _
  | hellos _ _ => exact ports_tick _
  | neighborsLife _ => exact ports_checkNeighborsLife _
  | run =>
    unfold pwospfRunThread
    split <;> rfl
  | _ => rfl

/-- **The router id is chosen once.** -/
theorem Stepped.routerId_eq (h : Stepped s e s') (hrunning : s.routerId ≠ 0) :
    s'.routerId = s.routerId := by
  cases h with
  | run =>
    unfold pwospfRunThread
    rw [if_pos (.inl hrunning)]
  | _ => rfl

end Kept

end Redes
