import Redes.Pwospf.Neighbors
import Redes.Pwospf.Send

/-!
# The whole router

All that the threads of the router read and write in one state, and what each event does to
it: a frame is received, the ARP cache is swept, the timers of PWOSPF go off.  An event is
handled at once, but for an LSU, which a thread of its own handles some time later.  The
events of a run come in any order.

## Main definitions

* `RouterState`, `routerInit` — the state.
* `Env` — what an event finds outside of it.
* `RouterEvent`, `routerStep` — what happens, with the frames that are sent.
* `RouterRun` — the states that can be reached.
* `Harmless` — the events that do not make a frame that is dropped.
* `RouterInv` — what holds in every run of such events.

## Main results

* `ending_receive_arp`, `ending_receive_ip`, `ending_arpTimeout`, `ending_rxLsu` — the events
  do what the handlers do.
* `routerStep_outgoing` — the history gains what is sent.
* `routerStep_safe` — a harmless event sends what is accepted, and keeps the invariant.
* `echo_acceptable_iff` — when the answer to an echo request is accepted.
* `emitted_acceptable` — in a run of harmless events, every frame is accepted.
* `history_acceptable` — the same for the whole history.
-/

namespace Redes

open Bytes Logged

/-! ### The state -/

/-- `powspf_rx_lsu_param_t`: an LSU that a thread is to handle. -/
structure RxLsu where
  /-- The copy of the packet. -/
  packet : Frame
  /-- The interface it was received on. -/
  interface : IfName
  deriving DecidableEq

/-- The state of the router. -/
structure RouterState where
  /-- The interfaces. -/
  ifList : List SrIf
  /-- The routing table. -/
  routingTable : List SrRt
  /-- The ARP cache, and the history of what was sent. -/
  arp : ArpState
  /-- `g_neighbors`. -/
  neighbors : NeighborList
  /-- `g_topology`. -/
  topology : List TopologyEntry
  /-- `g_router_id`. -/
  routerId : IpAddr
  /-- `g_sequence_num`. -/
  sequenceNum : UInt16
  /-- The LSUs whose threads have not run yet. -/
  rxLsus : List RxLsu

/-- The state that `sr_init` leaves, with the interfaces and the static routes. -/
def routerInit (ifList : List SrIf) (routingTable : List SrRt) : RouterState where
  ifList := ifList
  routingTable := routingTable
  arp := srArpcacheInit
  neighbors := ⟨createOspfv2Neighbor 0, []⟩
  topology := []
  routerId := 0
  sequenceNum := 0
  rxLsus := []

/-- What an event finds outside of the state. -/
structure Env where
  /-- The time. -/
  now : ℤ
  /-- How deep `handle_arpreq` may call itself. -/
  fuel : ℕ
  /-- The bytes `malloc` leaves in a new block. -/
  uninit : ℕ → UInt8
  /-- The bytes at offsets behind the end of a buffer. -/
  behind : ℕ → UInt8
  /-- The numbers that `rand` gives. -/
  rand : ℕ → UInt16

/-- What the functions for ARP and IP packets read of the state. -/
def RouterState.srInstance (s : RouterState) (env : Env) : SrInstance :=
  ⟨s.ifList, s.routingTable, env.uninit, env.behind⟩

/-- The state with another ARP cache. -/
def RouterState.withArp (s : RouterState) (st : ArpState) : RouterState := { s with arp := st }

/-- The state with other interfaces and neighbours. -/
def RouterState.withNeighbors (s : RouterState) (n : NeighborState) : RouterState :=
  { s with ifList := n.ifList, neighbors := n.neighbors }

/-! ### PWOSPF -/

/-- The LSUs to all neighbours, and the next sequence number. -/
def sendAllLsu (env : Env) (s : RouterState) : Sending RouterState :=
  (sendLsusOut (s.srInstance env) env.now env.fuel s.routerId s.sequenceNum env.rand s.arp).map
    fun st => { s with arp := st, sequenceNum := s.sequenceNum + 1 }

/-- `sr_handle_pwospf_hello_packet`: the neighbour is recorded, and LSUs are sent if it is new
to the interface. -/
def srHandlePwospfHelloPacketOut (env : Env) (packet : Frame) (interface : IfName)
    (rxIf : Option SrIf) (s : RouterState) : Sending RouterState :=
  match srHandlePwospfHelloPacket packet rxIf with
  | .error e => halt e
  | .ok none => pure s
  | .ok (some heard) =>
      let s' := s.withNeighbors (recordHeard interface heard ⟨s.ifList, s.neighbors⟩)
      if ChangesNeighbor ⟨s.ifList, s.neighbors⟩ interface heard then sendAllLsu env s'
      else pure s'

/-- `sr_handle_pwospf_packet`: an LSU is copied for the thread that will handle it. -/
def srHandlePwospfPacketOut (env : Env) (interface : IfName) (s : RouterState) (packet : Frame)
    (rxIf : Option SrIf) : Sending RouterState :=
  if s.routerId = 0 then pure s
  else
    match read8 packet 35 with
    | .error e => halt e
    | .ok type =>
        if type = ospfTypeHello then srHandlePwospfHelloPacketOut env packet interface rxIf s
        else if type = ospfTypeLsu then
          match copyToRxLsuParam packet with
          | .error e => halt e
          | .ok copy => pure { s with rxLsus := s.rxLsus ++ [⟨copy, interface⟩] }
        else pure s

/-- `sr_handle_pwospf_lsu_packet`: an LSU that is accepted is applied to the topology table and
flooded.  The thread that recomputes the routes is another event. -/
def srHandlePwospfLsuPacketOut (env : Env) (l : RxLsu) (s : RouterState) :
    Sending RouterState :=
  match srHandlePwospfLsuPacket s.routerId s.topology l.packet with
  | .error e => halt e
  | .ok .dropped => pure s
  | .ok (.accepted lsu) =>
      (floodLsuOut (s.srInstance env) env.now env.fuel l.interface l.packet s.arp).map
        fun st => { s with arp := st, topology := updateTopology s.topology lsu }

/-- The router id that `pwospf_run_thread` chooses: the highest address, as the host compares
them. -/
def highestIp (ifList : List SrIf) : IpAddr :=
  ifList.foldl (fun id i => if id < i.ip then i.ip else id) 0

/-- The loop of `pwospf_run_thread` that adds the connected networks. -/
def addConnected (routingTable : List SrRt) (ifList : List SrIf) : List SrRt :=
  ifList.foldl (fun table i =>
    if checkRoute table i.network then table
    else srAddRtEntry table i.network 0 i.mask i.name 1) routingTable

/-- `pwospf_run_thread`, which waits for an address if there is none. -/
def pwospfRunThread (s : RouterState) : RouterState :=
  if s.routerId ≠ 0 ∨ highestIp s.ifList = 0 then s
  else
    { s with
      routerId := highestIp s.ifList
      routingTable := addConnected s.routingTable s.ifList }

/-! ### Events -/

/-- `sr_handlepacket`. -/
def srHandlepacket (env : Env) (packet : Frame) (interface : IfName) (s : RouterState) :
    Sending RouterState :=
  if isPacketValid packet = true then
    if etherType packet = htons ethertypeArp then
      (srHandleArpPacketOut (s.srInstance env) env.now packet s.arp).map s.withArp
    else if etherType packet = htons ethertypeIp then
      srHandleIpPacketOut (s.srInstance env) env.now env.fuel
        (srHandlePwospfPacketOut env interface s) s.withArp packet interface s.arp
    else pure s
  else pure s

/-- What can happen. -/
inductive RouterEvent
  /-- A frame is received. -/
  | receive (packet : Frame) (interface : IfName)
  /-- The thread of one of the received LSUs runs. -/
  | rxLsu (k : ℕ)
  /-- `sr_arpcache_timeout` wakes up. -/
  | arpTimeout
  /-- `pwospf_run_thread` runs. -/
  | run
  /-- `send_hellos` wakes up. -/
  | hellos
  /-- `send_all_lsu` wakes up. -/
  | allLsu
  /-- `check_neighbors_life` wakes up. -/
  | neighborsLife
  /-- `check_topology_entries_age` wakes up. -/
  | topologyAge
  /-- `run_dijkstra` has put another routing table in place. -/
  | routes (routingTable : List SrRt)
  deriving DecidableEq

/-- The timers of PWOSPF are started when the router id is known. -/
def whenRunning (s : RouterState) (x : Sending RouterState) : Sending RouterState :=
  if s.routerId = 0 then pure s else x

/-- What an event does. -/
def routerStep (env : Env) (s : RouterState) : RouterEvent → Sending RouterState
  | .receive packet interface => srHandlepacket env packet interface s
  | .rxLsu k =>
      match s.rxLsus[k]? with
      | none => pure s
      | some l => srHandlePwospfLsuPacketOut env l { s with rxLsus := s.rxLsus.eraseIdx k }
  | .arpTimeout =>
      (srArpcacheTimeoutOut (s.srInstance env) env.now env.fuel s.arp).map s.withArp
  | .run => pure (pwospfRunThread s)
  | .hellos => whenRunning s <|
      (sendHellosOut (s.srInstance env) s.routerId env.rand s.arp).map
        fun st => { s with arp := st, ifList := s.ifList.map SrIf.tick }
  | .allLsu => whenRunning s (sendAllLsu env s)
  | .neighborsLife => whenRunning s <|
      pure (s.withNeighbors (checkNeighborsLife ⟨s.ifList, s.neighbors⟩))
  | .topologyAge => whenRunning s <|
      pure { s with topology := (checkTopologyAge s.topology).1 }
  | .routes routingTable => pure { s with routingTable := routingTable }

/-- The states that can be reached by events that are allowed where they come.  A run ends when
the program fails. -/
inductive RouterRun (allowed : Env → RouterState → RouterEvent → Prop) : RouterState → Prop
  /-- Nothing has happened yet. -/
  | init (ifList : List SrIf) (routingTable : List SrRt) :
      RouterRun allowed (routerInit ifList routingTable)
  /-- One more event. -/
  | step {env : Env} {s s' : RouterState} {e : RouterEvent} : RouterRun allowed s →
      allowed env s e → (routerStep env s e).ending = .ok s' → RouterRun allowed s'

/-- The bytes of an LSU behind its last advertisement. -/
def lsuTail (packet : Frame) : List UInt8 := packet.drop (lsaOffset (lsuNumAdv packet).toNat)

/-- An event that does not make a frame that is dropped: the names of the interfaces are no
reason to, an echo request that is answered was for the hardware address of its interface,
and an LSU that is sent on has nothing behind its advertisements that counts. -/
def Harmless (env : Env) (s : RouterState) (e : RouterEvent) : Prop :=
  NamesMatch s.ifList ∧
    match e with
    | .receive packet interface => isPacketValid packet = true →
        etherType packet = htons ethertypeIp → EchoForMe s.ifList packet →
          ForInterface s.ifList packet interface
    | .rxLsu k => ∀ l ∈ s.rxLsus[k]?, ∀ lsu,
        srHandlePwospfLsuPacket s.routerId s.topology l.packet = .ok (.accepted lsu) →
          otherInterfaces (s.srInstance env) l.interface ≠ [] →
            cksum (lsuTail l.packet) = 0xffff
    | _ => True

/-! ### The handlers -/

section Handlers

variable (env : Env) (s : RouterState) {packet : Frame} (interface : IfName)

/-- An ARP packet is handled by `sr_handle_arp_packet`. -/
theorem ending_receive_arp (hvalid : isPacketValid packet = true)
    (htype : etherType packet = htons ethertypeArp) :
    (routerStep env s (.receive packet interface)).ending =
      (srHandleArpPacket (s.srInstance env) env.now packet s.arp).map s.withArp := by
  show (srHandlepacket env packet interface s).ending = _
  unfold srHandlepacket
  rw [if_pos hvalid, if_pos htype, ending_map, ending_srHandleArpPacketOut]

/-- An IP packet that is no OSPF packet is handled by `sr_handle_ip_packet`. -/
theorem ending_receive_ip (hvalid : isPacketValid packet = true)
    (htype : etherType packet = htons ethertypeIp) (hproto : ipP packet ≠ ipProtocolOspfv2)
    (pwospf : Frame → Option SrIf → ArpState → Except Halt ArpState) :
    (routerStep env s (.receive packet interface)).ending =
      (srHandleIpPacket (s.srInstance env) env.now env.fuel pwospf packet interface
        s.arp).map s.withArp := by
  have harp : htons ethertypeIp ≠ htons ethertypeArp := by decide
  show (srHandlepacket env packet interface s).ending = _
  unfold srHandlepacket
  rw [if_pos hvalid, if_neg (by rw [htype]; exact harp), if_pos htype]
  exact ending_srHandleIpPacketOut _ _ _ _ pwospf _ hproto interface s.arp

/-- The timer of the ARP cache does what `sr_arpcache_timeout` does. -/
theorem ending_arpTimeout : (routerStep env s .arpTimeout).ending =
    (srArpcacheTimeout (s.srInstance env) env.now env.fuel s.arp).map s.withArp := by
  show (Logged.map s.withArp _).ending = _
  rw [ending_map, ending_srArpcacheTimeoutOut]

/-- An LSU that is accepted is flooded. -/
theorem ending_rxLsu {k : ℕ} {l : RxLsu} (hl : s.rxLsus[k]? = some l) {lsu : Lsu}
    (hverdict : srHandlePwospfLsuPacket s.routerId s.topology l.packet = .ok (.accepted lsu)) :
    (routerStep env s (.rxLsu k)).ending =
      (floodLsu (s.srInstance env) env.now env.fuel l.interface l.packet s.arp).2.map fun st =>
        { s with
          arp := st
          topology := updateTopology s.topology lsu
          rxLsus := s.rxLsus.eraseIdx k } := by
  simp only [routerStep, hl]
  unfold srHandlePwospfLsuPacketOut
  simp only [hverdict]
  rw [ending_map, ending_floodLsuOut]
  rfl

/-- **What `sr_handlepacket` does with a frame.** -/
theorem srHandlepacket_cases (packet : Frame) :
    srHandlepacket env packet interface s = pure s ∨
      (isPacketValid packet = true ∧ etherType packet = htons ethertypeArp ∧
        srHandlepacket env packet interface s =
          (srHandleArpPacketOut (s.srInstance env) env.now packet s.arp).map s.withArp) ∨
      isPacketValid packet = true ∧ etherType packet = htons ethertypeIp ∧
        ((ipP packet = ipProtocolOspfv2 ∧ srHandlepacket env packet interface s =
            srHandlePwospfPacketOut env interface s packet (srGetInterface s.ifList interface)) ∨
          srHandlepacket env packet interface s =
            (srHandleOtherPacketOut (s.srInstance env) env.now env.fuel packet interface
              s.arp).map s.withArp) := by
  unfold srHandlepacket
  split
  · next hvalid =>
    split
    · next harp => exact .inr (.inl ⟨hvalid, harp, rfl⟩)
    · split
      · next hip =>
        unfold srHandleIpPacketOut
        split
        · exact .inl rfl
        · split
          · exact .inl rfl
          · split
            · next hospf => exact .inr (.inr ⟨hvalid, hip, .inl ⟨hospf, rfl⟩⟩)
            · exact .inr (.inr ⟨hvalid, hip, .inr rfl⟩)
      · exact .inl rfl
  · exact .inl rfl

/-- **What `sr_handle_pwospf_packet` does with a packet**: nothing, a HELLO is recorded, or an
LSU waits for its thread. -/
theorem srHandlePwospfPacketOut_cases (packet : Frame) (rxIf : Option SrIf) :
    srHandlePwospfPacketOut env interface s packet rxIf = pure s ∨
      (∃ e, srHandlePwospfPacketOut env interface s packet rxIf = halt e) ∨
      (∃ heard, srHandlePwospfPacketOut env interface s packet rxIf =
        if ChangesNeighbor ⟨s.ifList, s.neighbors⟩ interface heard then
          sendAllLsu env (s.withNeighbors (recordHeard interface heard ⟨s.ifList, s.neighbors⟩))
        else pure (s.withNeighbors (recordHeard interface heard ⟨s.ifList, s.neighbors⟩))) ∨
      ∃ copy, copyToRxLsuParam packet = .ok copy ∧
        srHandlePwospfPacketOut env interface s packet rxIf =
          pure { s with rxLsus := s.rxLsus ++ [⟨copy, interface⟩] } := by
  unfold srHandlePwospfPacketOut
  split
  · exact .inl rfl
  · cases read8 packet 35 with
    | error e => exact .inr (.inl ⟨e, rfl⟩)
    | ok type =>
      simp only
      split
      · unfold srHandlePwospfHelloPacketOut
        cases srHandlePwospfHelloPacket packet rxIf with
        | error e => exact .inr (.inl ⟨e, rfl⟩)
        | ok heard =>
          cases heard with
          | none => exact .inl rfl
          | some heard => exact .inr (.inr (.inl ⟨heard, rfl⟩))
      · split
        · cases copyToRxLsuParam packet with
          | error e => exact .inr (.inl ⟨e, rfl⟩)
          | ok copy => exact .inr (.inr (.inr ⟨copy, rfl, rfl⟩))
        · exact .inl rfl

end Handlers

/-! ### Interfaces keep their names and addresses -/

/-- The names and hardware addresses of the interfaces. -/
def links (ifList : List SrIf) : List (IfName × Mac) := ifList.map fun i => (i.name, i.addr)

theorem srEtherAddrsMatchInterface_eq (ifList : List SrIf) (buf : Frame) (name : IfName) :
    srEtherAddrsMatchInterface ifList buf name =
      match (links ifList).find? fun l => l.1 = name with
      | none => false
      | some l => decide (etherShost buf = l.2.bytes) := by
  have hfind : ((links ifList).find? fun l => l.1 = name) =
      (srGetInterface ifList name).map fun i => (i.name, i.addr) := by
    unfold links srGetInterface
    rw [List.find?_map]
    rfl
  unfold srEtherAddrsMatchInterface
  rw [hfind]
  cases srGetInterface ifList name <;> rfl

theorem acceptable_congr {ifList ifList' : List SrIf} (h : links ifList = links ifList')
    (out : Outgoing) : Acceptable ifList out ↔ Acceptable ifList' out := by
  unfold Acceptable
  rw [srEtherAddrsMatchInterface_eq, srEtherAddrsMatchInterface_eq, h]

theorem namesMatch_iff_links {ifList : List SrIf} : NamesMatch ifList ↔
    ∀ l ∈ links ifList, ∀ l' ∈ links ifList, l.1 = l'.1 → l.2 = l'.2 := by
  simp [NamesMatch, links]

theorem links_setNeighbor (interface : IfName) (heard : Heard) (ifList : List SrIf) :
    links (setNeighbor interface heard ifList) = links ifList := by
  unfold links
  induction ifList with
  | nil => rfl
  | cons i ifs ih =>
    unfold setNeighbor
    split
    · rfl
    · rw [List.map_cons, List.map_cons, ih]

theorem links_recordHeard (interface : IfName) (heard : Heard) (s : NeighborState) :
    links (recordHeard interface heard s).ifList = links s.ifList := by
  unfold recordHeard
  simp only
  split
  · exact links_setNeighbor interface heard s.ifList
  · rfl

theorem links_clearNeighbor (ifList : List SrIf) (neighborId : IpAddr) :
    links (clearNeighbor ifList neighborId) = links ifList := by
  unfold links clearNeighbor
  rw [List.map_map]
  refine List.map_congr_left ?_
  intro i _
  rw [Function.comp_apply]
  split <;> rfl

theorem links_checkNeighborsLife (s : NeighborState) :
    links (checkNeighborsLife s).ifList = links s.ifList := by
  have hfold : ∀ (removed : List Neighbor) (ifList : List SrIf),
      links (removed.foldl (fun ifList n => clearNeighbor ifList n.neighborId) ifList) =
        links ifList := by
    intro removed
    induction removed with
    | nil => exact fun _ => rfl
    | cons n removed ih =>
      intro ifList
      rw [List.foldl_cons, ih, links_clearNeighbor]
  exact hfold _ _

theorem links_tick (ifList : List SrIf) : links (ifList.map SrIf.tick) = links ifList := by
  unfold links
  rw [List.map_map]
  refine List.map_congr_left ?_
  intro i _
  rw [Function.comp_apply]
  unfold SrIf.tick
  split <;> rfl

/-! ### What an event keeps -/

/-- What holds in every run of harmless events. -/
structure RouterInv (s : RouterState) : Prop where
  /-- The packets that wait are valid. -/
  pending : PendingValid s.arp
  /-- What waits for its thread is an OSPF packet that fits its buffer. -/
  rxLsus : ∀ l ∈ s.rxLsus, etherType l.packet = htons ethertypeIp ∧
    ipP l.packet = ipProtocolOspfv2 ∧ l.packet.length ≤ rxLsuParamSize

/-- The invariant holds, and the interfaces have the names and addresses they had. -/
def Keeps (s s' : RouterState) : Prop := RouterInv s' ∧ links s'.ifList = links s.ifList

/-- Only frames that the state accepts are sent, and the invariant is kept. -/
abbrev StepSafe (s : RouterState) (x : Sending RouterState) : Prop :=
  Safe (Acceptable s.ifList) (Keeps s) x

section Safe

variable {env : Env} {s : RouterState}

theorem RouterInv.keeps_self (h : RouterInv s) : Keeps s s := ⟨h, rfl⟩

theorem RouterInv.keeps_withArp (h : RouterInv s) {st : ArpState} (hst : PendingValid st) :
    Keeps s (s.withArp st) := ⟨⟨hst, h.rxLsus⟩, rfl⟩

theorem safe_sendAllLsu (hnames : NamesMatch s.ifList) (h : RouterInv s) :
    StepSafe s (sendAllLsu env s) := by
  have hsafe : SendsAcceptable (s.srInstance env) (sendLsusOut (s.srInstance env) env.now env.fuel
      s.routerId s.sequenceNum env.rand s.arp) :=
    safe_sendLsusOut hnames s.routerId s.sequenceNum env.rand h.pending
  exact hsafe.map fun st hst => ⟨⟨hst, h.rxLsus⟩, rfl⟩

theorem copyToRxLsuParam_eq_ok {packet copy : Frame} (h : copyToRxLsuParam packet = .ok copy) :
    copy = packet ∧ packet.length ≤ rxLsuParamSize := by
  unfold copyToRxLsuParam at h
  split at h
  · next hfit =>
    cases h
    exact ⟨rfl, hfit⟩
  · cases h

theorem safe_srHandlePwospfPacketOut (hnames : NamesMatch s.ifList) (h : RouterInv s)
    {packet : Frame} (htype : etherType packet = htons ethertypeIp)
    (hproto : ipP packet = ipProtocolOspfv2) (interface : IfName) (rxIf : Option SrIf) :
    StepSafe s (srHandlePwospfPacketOut env interface s packet rxIf) := by
  rcases srHandlePwospfPacketOut_cases env s interface packet rxIf with
    heq | ⟨e, heq⟩ | ⟨heard, heq⟩ | ⟨copy, hcopy, heq⟩
  · rw [heq]
    exact .pure h.keeps_self
  · rw [heq]
    exact .halt e
  · rw [heq]
    have hlinks : links (s.withNeighbors
        (recordHeard interface heard ⟨s.ifList, s.neighbors⟩)).ifList = links s.ifList :=
      links_recordHeard interface heard ⟨s.ifList, s.neighbors⟩
    have hinv : RouterInv (s.withNeighbors
        (recordHeard interface heard ⟨s.ifList, s.neighbors⟩)) := ⟨h.pending, h.rxLsus⟩
    split
    · -- the neighbour is recorded before the LSUs are sent
      have hnames' := hnames
      rw [namesMatch_iff_links, ← hlinks, ← namesMatch_iff_links] at hnames'
      exact (safe_sendAllLsu hnames' hinv).mono
        (fun out hout => (acceptable_congr hlinks out).mp hout)
        fun s' hs' => ⟨hs'.1, hs'.2.trans hlinks⟩
    · exact .pure ⟨hinv, hlinks⟩
  · rw [heq]
    obtain ⟨rfl, hfit⟩ := copyToRxLsuParam_eq_ok hcopy
    refine .pure ⟨⟨h.pending, ?_⟩, rfl⟩
    intro l hl
    rcases List.mem_append.mp hl with hl | hl
    · exact h.rxLsus l hl
    · rw [List.mem_singleton.mp hl]
      exact ⟨htype, hproto, hfit⟩

theorem safe_srHandlepacket (h : RouterInv s) {packet : Frame} {interface : IfName}
    (hharm : Harmless env s (.receive packet interface)) :
    StepSafe s (srHandlepacket env packet interface s) := by
  obtain ⟨hnames, hecho⟩ := hharm
  rcases srHandlepacket_cases env s interface packet with
    heq | ⟨hvalid, harp, heq⟩ | ⟨hvalid, hip, ⟨hospf, heq⟩ | heq⟩
  · rw [heq]
    exact .pure h.keeps_self
  · rw [heq]
    have hsafe : SendsAcceptable (s.srInstance env)
        (srHandleArpPacketOut (s.srInstance env) env.now packet s.arp) :=
      safe_srHandleArpPacketOut hnames hvalid harp h.pending
    exact hsafe.map fun st hst => h.keeps_withArp hst
  · rw [heq]
    exact safe_srHandlePwospfPacketOut hnames h hip hospf interface _
  · rw [heq]
    have hsafe : SendsAcceptable (s.srInstance env) (srHandleOtherPacketOut
        (s.srInstance env) env.now env.fuel packet interface s.arp) :=
      safe_srHandleOtherPacketOut hnames hvalid hip (hecho hvalid hip) h.pending
    exact hsafe.map fun st hst => h.keeps_withArp hst

theorem safe_srHandlePwospfLsuPacketOut (h : RouterInv s) {k : ℕ}
    (hharm : Harmless env s (.rxLsu k)) {l : RxLsu} (hl : s.rxLsus[k]? = some l) :
    StepSafe s (srHandlePwospfLsuPacketOut env l { s with rxLsus := s.rxLsus.eraseIdx k }) := by
  obtain ⟨hnames, htail⟩ := hharm
  obtain ⟨htype, hproto, hmax⟩ := h.rxLsus l (List.mem_of_getElem? hl)
  have hrest : RouterInv { s with rxLsus := s.rxLsus.eraseIdx k } :=
    ⟨h.pending, fun l' hl' => h.rxLsus l' (List.mem_of_mem_eraseIdx hl')⟩
  unfold srHandlePwospfLsuPacketOut
  cases hverdict : srHandlePwospfLsuPacket s.routerId s.topology l.packet with
  | error e => exact .halt e
  | ok verdict =>
    cases verdict with
    | dropped => exact .pure ⟨hrest, rfl⟩
    | accepted lsu =>
      obtain ⟨hlen, hall⟩ := lsu_accepted_length_le hverdict
      have hsafe : SendsAcceptable (s.srInstance env) (floodLsuOut (s.srInstance env) env.now
          env.fuel l.interface l.packet s.arp) :=
        safe_floodLsuOut hnames htype hproto hmax hlen hall (htail l hl lsu hverdict) h.pending
      exact hsafe.map fun st hst => ⟨⟨hst, hrest.rxLsus⟩, rfl⟩

theorem StepSafe.whenRunning (h : RouterInv s) {x : Sending RouterState} (hx : StepSafe s x) :
    StepSafe s (whenRunning s x) := by
  unfold Redes.whenRunning
  split
  · exact .pure h.keeps_self
  · exact hx

/-- **A harmless event sends what is accepted, and keeps the invariant.** -/
theorem routerStep_safe (h : RouterInv s) {e : RouterEvent} (hharm : Harmless env s e) :
    StepSafe s (routerStep env s e) := by
  cases e with
  | receive packet interface => exact safe_srHandlepacket h hharm
  | rxLsu k =>
    simp only [routerStep]
    cases hl : s.rxLsus[k]? with
    | none => exact .pure h.keeps_self
    | some l => exact safe_srHandlePwospfLsuPacketOut h hharm hl
  | arpTimeout =>
    have hsafe : SendsAcceptable (s.srInstance env) (srArpcacheTimeoutOut (s.srInstance env)
        env.now env.fuel s.arp) := safe_srArpcacheTimeoutOut hharm.1 h.pending
    exact hsafe.map fun st hst => h.keeps_withArp hst
  | run =>
    refine .pure ?_
    unfold pwospfRunThread
    split
    · exact h.keeps_self
    · exact ⟨⟨h.pending, h.rxLsus⟩, rfl⟩
  | hellos =>
    have hsafe : SendsAcceptable (s.srInstance env) (sendHellosOut (s.srInstance env) s.routerId
        env.rand s.arp) := safe_sendHellosOut hharm.1 s.routerId env.rand h.pending
    exact StepSafe.whenRunning h (hsafe.map fun st hst =>
      ⟨⟨hst, h.rxLsus⟩, links_tick s.ifList⟩)
  | allLsu => exact StepSafe.whenRunning h (safe_sendAllLsu hharm.1 h)
  | neighborsLife =>
    exact StepSafe.whenRunning h (.pure ⟨⟨h.pending, h.rxLsus⟩,
      links_checkNeighborsLife ⟨s.ifList, s.neighbors⟩⟩)
  | topologyAge =>
    exact StepSafe.whenRunning h (.pure ⟨⟨h.pending, h.rxLsus⟩, rfl⟩)
  | routes routingTable => exact .pure ⟨⟨h.pending, h.rxLsus⟩, rfl⟩

end Safe

/-- **The invariant holds in every run of harmless events.** -/
theorem routerInv_of_run {s : RouterState} (h : RouterRun Harmless s) : RouterInv s := by
  induction h with
  | init ifList routingTable =>
    exact ⟨pendingValid_init, fun _ hl => absurd hl List.not_mem_nil⟩
  | step _ hharm hstep ih => exact ((routerStep_safe ih hharm).2 _ hstep).1

theorem tells_srHandlePwospfPacketOut {env : Env}
    (hlsus : ∀ s : RouterState,
      Tells (fun s => s.arp.outgoing) s.arp.outgoing (sendAllLsu env s))
    (s : RouterState) (packet : Frame) (interface : IfName) (rxIf : Option SrIf) :
    Tells (fun s => s.arp.outgoing) s.arp.outgoing
      (srHandlePwospfPacketOut env interface s packet rxIf) := by
  rcases srHandlePwospfPacketOut_cases env s interface packet rxIf with
    heq | ⟨e, heq⟩ | ⟨heard, heq⟩ | ⟨copy, -, heq⟩
  · rw [heq]
    exact .pure rfl
  · rw [heq]
    exact .halt e
  · rw [heq]
    split
    · exact hlsus _
    · exact .pure rfl
  · rw [heq]
    exact .pure rfl

/-- **The history gains what an event sends.** -/
theorem routerStep_outgoing (env : Env) (s : RouterState) (e : RouterEvent) :
    Tells (fun s => s.arp.outgoing) s.arp.outgoing (routerStep env s e) := by
  have hrunning : ∀ x : Sending RouterState, Tells (fun s => s.arp.outgoing) s.arp.outgoing x →
      Tells (fun s => s.arp.outgoing) s.arp.outgoing (whenRunning s x) := by
    intro x hx
    unfold whenRunning
    split
    · exact .pure rfl
    · exact hx
  have hlsus : ∀ s : RouterState,
      Tells (fun s => s.arp.outgoing) s.arp.outgoing (sendAllLsu env s) := fun s =>
    (tells_sendLsusOut (s.srInstance env) env.now env.fuel s.routerId s.sequenceNum env.rand
      s.arp).map fun _ => rfl
  cases e with
  | receive packet interface =>
    show Tells _ _ (srHandlepacket env packet interface s)
    rcases srHandlepacket_cases env s interface packet with
      heq | ⟨-, -, heq⟩ | ⟨-, -, ⟨-, heq⟩ | heq⟩
    · rw [heq]
      exact .pure rfl
    · rw [heq]
      exact (tells_srHandleArpPacketOut (s.srInstance env) env.now packet s.arp).map fun _ => rfl
    · rw [heq]
      exact tells_srHandlePwospfPacketOut hlsus s packet interface _
    · rw [heq]
      exact (tells_srHandleOtherPacketOut (s.srInstance env) env.now env.fuel packet interface
        s.arp).map fun _ => rfl
  | rxLsu k =>
    simp only [routerStep]
    cases s.rxLsus[k]? with
    | none => exact .pure rfl
    | some l =>
      simp only
      unfold srHandlePwospfLsuPacketOut
      split
      · exact .halt _
      · exact .pure rfl
      · exact (tells_floodLsuOut (s.srInstance env) env.now env.fuel l.interface l.packet
          s.arp).map fun _ => rfl
  | arpTimeout =>
    exact (tells_srArpcacheTimeoutOut (s.srInstance env) env.now env.fuel s.arp).map fun _ => rfl
  | run =>
    refine .pure ?_
    unfold pwospfRunThread
    split <;> rfl
  | hellos =>
    exact hrunning _ ((tells_sendHellosOut (s.srInstance env) s.routerId env.rand s.arp).map
      fun _ => rfl)
  | allLsu => exact hrunning _ (hlsus s)
  | neighborsLife => exact hrunning _ (.pure rfl)
  | topologyAge => exact hrunning _ (.pure rfl)
  | routes routingTable => exact .pure rfl

/-- **Everything that was sent in a run of harmless events was accepted.** -/
theorem history_acceptable {s : RouterState} (h : RouterRun Harmless s) :
    ∀ out ∈ s.arp.outgoing, Acceptable s.ifList out := by
  induction h with
  | init ifList routingTable => exact fun out hout => absurd hout List.not_mem_nil
  | @step env s s' e hrun hharm hstep ih =>
    -- the links do not change, so that what was accepted before is accepted still
    obtain ⟨hlog, hkeeps⟩ := routerStep_safe (routerInv_of_run hrun) hharm
    have hlinks := (hkeeps s' hstep).2
    have hgain := routerStep_outgoing env s e s' hstep
    simp only at hgain
    intro out hout
    rw [hgain] at hout
    rw [acceptable_congr hlinks]
    rcases List.mem_append.mp hout with hout | hout
    · exact hlog out (List.mem_reverse.mp hout)
    · exact ih out hout

/-! ### Echo requests -/

/-- The answer to an echo request is all that is sent. -/
theorem echo_log (env : Env) (s : RouterState) {packet : Frame} (interface : IfName)
    (hvalid : isPacketValid packet = true) (htype : etherType packet = htons ethertypeIp)
    (hecho : EchoForMe s.ifList packet) :
    (routerStep env s (.receive packet interface)).log =
      [⟨icmpReplyFrame packet 0 0, interface⟩] := by
  obtain ⟨hmine, hicmp, hrequest⟩ := hecho
  obtain ⟨hlen, hsum⟩ := isPacketValid_ip hvalid htype
  have harp : htons ethertypeIp ≠ htons ethertypeArp := by decide
  have hospf : ipProtocolIcmp ≠ ipProtocolOspfv2 := by decide
  have hother : srHandleOtherPacketOut (s.srInstance env) env.now env.fuel packet interface s.arp =
      s.arp.send (icmpReplyFrame packet 0 0) interface := by
    have hmine' : ((s.srInstance env).ifList.any fun i => i.ip = ipDst packet) = true := hmine
    unfold srHandleOtherPacketOut
    simp only [hmine']
    rw [if_neg (by simp), if_pos trivial, if_pos hicmp, if_pos hrequest]
  show (srHandlepacket env packet interface s).log = _
  unfold srHandlepacket
  rw [if_pos hvalid, if_neg (by rw [htype]; exact harp), if_pos htype]
  unfold srHandleIpPacketOut
  rw [if_neg (by omega), if_neg (by simp [hsum]), if_neg (by rw [hicmp]; exact hospf), hother]
  rfl

/-- **The answer to an echo request is accepted exactly if the request was for the hardware
address of its interface.** -/
theorem echo_acceptable_iff (env : Env) (s : RouterState) {packet : Frame} (interface : IfName)
    (hvalid : isPacketValid packet = true) (htype : etherType packet = htons ethertypeIp)
    (hecho : EchoForMe s.ifList packet) :
    (∀ out ∈ (routerStep env s (.receive packet interface)).log, Acceptable s.ifList out) ↔
      ForInterface s.ifList packet interface := by
  rw [echo_log env s interface hvalid htype hecho]
  simp only [List.mem_singleton, forall_eq]
  rw [acceptable_icmpReplyFrame_iff 0 0 htype hecho.2.1 hvalid]
  rfl

/-! ### Runs -/

/-- **Every frame is accepted** that is sent in a run of harmless events, by whatever event comes
next, if it is harmless too. -/
theorem emitted_acceptable {s : RouterState} (h : RouterRun Harmless s) {env : Env}
    {e : RouterEvent} (hharm : Harmless env s e) :
    ∀ out ∈ (routerStep env s e).log, Acceptable s.ifList out :=
  (routerStep_safe (routerInv_of_run h) hharm).1

/-! ### A router with two links, for examples -/

/-- An environment in which nothing is left in memory. -/
def quietEnv : Env := ⟨10, 1, fun _ => 0, fun _ => 0, fun _ => 0⟩

/-- An ARP request of the neighbour 10.0.2.2, for the router's address on the second link. -/
def neighborArp : Frame :=
  [0xff, 0xff, 0xff, 0xff, 0xff, 0xff, 0x05, 0x05, 0x05, 0x05, 0x05, 0x05, 0x08, 0x06,
    0x00, 0x01, 0x08, 0x00, 0x06, 0x04, 0x00, 0x01, 0x05, 0x05, 0x05, 0x05, 0x05, 0x05,
    0x0a, 0x00, 0x02, 0x02, 0x00, 0x00, 0x00, 0x00, 0x00, 0x00, 0x0a, 0x00, 0x02, 0x01]

/-- A HELLO of this neighbour, with the router id 8.8.8.8. -/
def neighborHello : Frame :=
  [0x01, 0x00, 0x5e, 0x00, 0x00, 0x05, 0x05, 0x05, 0x05, 0x05, 0x05, 0x05, 0x08, 0x00,
    0x45, 0x00, 0x00, 0x34, 0x00, 0x00, 0x00, 0x00, 0x40, 0x59, 0x8e, 0x6a,
    0x0a, 0x00, 0x02, 0x02, 0xe0, 0x00, 0x00, 0x05,
    0x02, 0x01, 0x00, 0x20, 0x08, 0x08, 0x08, 0x08, 0x00, 0x00, 0x00, 0x00, 0xee, 0xc8, 0x00, 0x00,
    0x00, 0x00, 0x00, 0x00, 0x00, 0x00, 0x00, 0x00,
    0xff, 0xff, 0xff, 0x00, 0x00, 0x05, 0x00, 0x00]

/-- The router once its id is chosen. -/
def startedRouter : RouterState := pwospfRunThread (routerInit twoLinks [])

theorem startedRouter_run : RouterRun Harmless startedRouter :=
  .step (.init twoLinks []) (show Harmless quietEnv _ .run from ⟨by decide, trivial⟩) rfl

/-- The LSU to a new neighbour is accepted: its MAC was learnt from its ARP request. -/
theorem lsu_to_neighbor_accepted : ∃ s, RouterRun Harmless s ∧
    (routerStep quietEnv s (.receive neighborHello "eth2".toList)).log.length = 1 ∧
      ∀ out ∈ (routerStep quietEnv s (.receive neighborHello "eth2".toList)).log,
        Acceptable s.ifList out := by
  have hrun : ∃ s, RouterRun Harmless s ∧
      Harmless quietEnv s (.receive neighborHello "eth2".toList) ∧
        (routerStep quietEnv s (.receive neighborHello "eth2".toList)).log.length = 1 :=
    ⟨_, .step startedRouter_run (show Harmless quietEnv startedRouter
      (.receive neighborArp "eth2".toList) from ⟨by decide, by decide⟩) rfl,
      ⟨by decide, by decide⟩, by decide +kernel⟩
  obtain ⟨s, hs, hharm, hlen⟩ := hrun
  exact ⟨s, hs, hlen, emitted_acceptable hs hharm⟩

/-- An echo request for the router's address on the first link, in a broadcast frame. -/
def broadcastEcho : Frame :=
  [0xff, 0xff, 0xff, 0xff, 0xff, 0xff, 0x02, 0x02, 0x02, 0x02, 0x02, 0x02, 0x08, 0x00,
    0x45, 0x00, 0x00, 0x1c, 0x00, 0x00, 0x00, 0x00, 0x40, 0x01, 0x64, 0xda,
    0x0a, 0x00, 0x01, 0x07, 0x0a, 0x00, 0x01, 0x01,
    0x08, 0x00, 0xf7, 0xfd, 0x00, 0x01, 0x00, 0x01]

/-- An LSU of 7.7.7.7 with one advertisement and two bytes behind it, all of which its checksum
is over. -/
def trailingLsu : Frame :=
  [0x01, 0x01, 0x01, 0x01, 0x01, 0x01, 0x02, 0x02, 0x02, 0x02, 0x02, 0x02, 0x08, 0x00,
    0x45, 0x00, 0x00, 0x42, 0x00, 0x00, 0x00, 0x00, 0x40, 0x59, 0x64, 0x61,
    0x0a, 0x00, 0x01, 0x02, 0x0a, 0x00, 0x01, 0x01,
    0x02, 0x04, 0x00, 0x2c, 0x07, 0x07, 0x07, 0x07, 0x00, 0x00, 0x00, 0x00, 0xd2, 0x6f, 0x00, 0x00,
    0x00, 0x00, 0x00, 0x00, 0x00, 0x00, 0x00, 0x00,
    0x01, 0x00, 0x00, 0x40, 0x01, 0x00, 0x00, 0x00,
    0x0a, 0x00, 0x02, 0x00, 0xff, 0xff, 0xff, 0x00, 0x08, 0x08, 0x08, 0x08, 0x00, 0x01]

/-- What the second neighbour and an LSU on the first link make of the router. -/
def floodingEvents : List RouterEvent :=
  [.run, .receive neighborArp "eth2".toList, .receive neighborHello "eth2".toList,
    .receive trailingLsu "eth1".toList]

/-- A list of events that are handled one after the other is a run. -/
theorem routerRun_of_events {env : Env} {events : List RouterEvent} {s s' : RouterState}
    (hs : RouterRun (fun _ _ _ => True) s)
    (h : events.foldlM (fun s e => (routerStep env s e).ending) s = .ok s') :
    RouterRun (fun _ _ _ => True) s' :=
  Fuel.foldlM_invariant (fun _ _ _ _ hrun hstep => .step hrun trivial hstep) hs h

/-- **The answer to a broadcast echo request is dropped, and the copy of an LSU with bytes behind
its advertisements is not valid.** -/
theorem refused_frames_sent :
    (RouterRun (fun _ _ _ => True) (routerInit twoLinks []) ∧
      ∃ out ∈ (routerStep quietEnv (routerInit twoLinks [])
        (.receive broadcastEcho "eth1".toList)).log,
          srEtherAddrsMatchInterface twoLinks out.frame out.iface = false ∧
            ¬ Acceptable twoLinks out) ∧
    ∃ s, RouterRun (fun _ _ _ => True) s ∧ ∃ out ∈ (routerStep quietEnv s (.rxLsu 0)).log,
      isPacketValid out.frame = false ∧ ¬ Acceptable s.ifList out := by
  refine ⟨⟨.init twoLinks [], by decide⟩, ?_⟩
  have hflood : ∃ s, floodingEvents.foldlM (fun s e => (routerStep quietEnv s e).ending)
      (routerInit twoLinks []) = .ok s ∧
        ((routerStep quietEnv s (.rxLsu 0)).log.any fun out =>
          !isPacketValid out.frame) = true := by
    refine ⟨_, rfl, ?_⟩
    decide +kernel
  obtain ⟨s, hevents, hany⟩ := hflood
  obtain ⟨out, hout, hinvalid⟩ := List.any_eq_true.mp hany
  have hfalse : isPacketValid out.frame = false := by simpa using hinvalid
  refine ⟨s, routerRun_of_events (.init twoLinks []) hevents, out, hout, hfalse, ?_⟩
  intro hacc
  rw [hacc.2] at hfalse
  cases hfalse

end Redes
