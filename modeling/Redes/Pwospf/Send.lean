import Redes.Pwospf.Flooding
import Redes.Router.Sends

/-!
# The OSPF packets that the router sends

`send_hello_packet`, `send_lsu` and the loops over the interfaces that call them, and once more
the flooding of an LSU, with the frames that are passed to `sr_send_packet`.  HELLOs and
LSUs are checked over the whole packet and are accepted.  A copy of a flooded LSU is checked
over its advertisements only, and is accepted if nothing that counts comes behind them.

## Main definitions

* `helloFrame`, `lsuFrame` — the packets.
* `sendHellosOut`, `sendLsuOut`, `sendLsusOut`, `floodLsuOut` — what is sent.
* `OspfHeaders` — a frame with the headers of an OSPF packet.
* `FloodBuffer` — the buffer in which the copies of an LSU are made.

## Main results

* `OspfHeaders.isPacketValid_store_csum` — when the checksum makes a packet valid.
* `ending_floodLsuOut` — the ending of the flooding.
* `FloodBuffer.isPacketValid_lsuRewrite_iff` — when the copies of an LSU are valid.
* `safe_sendHellosOut`, `safe_sendLsusOut`, `safe_floodLsuOut` — what is sent is accepted.
-/

namespace Redes

open Bytes Logged

/-! ### HELLOs and LSUs -/

/-- `g_ospf_multicast_mac`. -/
def ospfMulticastMac : Mac := ⟨[0x01, 0x00, 0x5e, 0x00, 0x00, 0x05], rfl⟩

/-- `OSPF_AllSPFRouters`. -/
def ospfAllSpfRouters : UInt32 := 0xe0000005

/-- The headers that `send_hello_packet` and `send_lsu` fill in alike: the source of the
Ethernet header and its type, the IP header with its checksum, and the OSPF header but for its
length, which is not set, and its checksum. -/
def ospfHeaders (i : SrIf) (routerId : IpAddr) (type : UInt8) (ipId : UInt16) (ipDst : IpAddr)
    (frame : Frame) : Frame :=
  let ipLen := UInt16.ofNat (frame.length - 14)
  let frame := store frame 6 i.addr.bytes
  let frame := store frame 12 (bytes16 (htons ethertypeIp))
  -- version and header length, type of service, length, id, fragment offset, TTL, protocol
  let frame := store frame 14 ([0x45, 0] ++ bytes16 (htons ipLen) ++ bytes16 ipId ++
    bytes16 (htons 0x4000) ++ [64, ipProtocolOspfv2])
  let frame := store frame 26 (bytes32 i.ip)
  let frame := store frame 30 (bytes32 ipDst)
  let frame := store frame 24 (bytes16 (ipCksum frame))
  -- version and type, router id, area id, authentication
  let frame := store frame 34 [2, type]
  let frame := store frame 38 (bytes32 routerId)
  let frame := store frame 42 (bytes32 0)
  store frame 48 (List.replicate 10 0)

/-- The frame that `send_hello_packet` sends; `ipId` is a number of `rand`. -/
def helloFrame (uninit : ℕ → UInt8) (routerId : IpAddr) (i : SrIf) (ipId : UInt16) : Frame :=
  let frame := (List.range (14 + 20 + 24 + 8)).map uninit
  let frame := store frame 0 ospfMulticastMac.bytes
  let frame := ospfHeaders i routerId ospfTypeHello ipId (ntohl ospfAllSpfRouters) frame
  -- mask, interval, padding
  let frame := store frame 58 (bytes32 (ntohl 0xffffff00) ++
    bytes16 (htons ospfDefaultHelloint) ++ bytes16 0)
  store frame 46 (bytes16 (ospfv2Cksum frame (24 + 8)))

/-- The loop of `send_lsu` over the routing table: an advertisement for each static or connected
route, with the neighbour of its interface. -/
def lsasOfRoutes (ifList : List SrIf) : List SrRt → Except Halt (List Lsa)
  | [] => .ok []
  | route :: rest =>
      if route.adminDst ≤ 1 then
        match srGetInterface ifList route.interface with
        | none => .error .nullPointer
        | some i => do
            let lsas ← lsasOfRoutes ifList rest
            .ok (⟨route.dest, route.mask, i.neighborId⟩ :: lsas)
      else lsasOfRoutes ifList rest

/-- `ospfv2_lsa_t` in the packet. -/
def lsaBytes (lsa : Lsa) : List UInt8 := bytes32 lsa.subnet ++ bytes32 lsa.mask ++ bytes32 lsa.rid

/-- The frame that `send_lsu` builds, whose destination address is not set yet. -/
def lsuFrame (sr : SrInstance) (routerId : IpAddr) (sequenceNum : UInt16) (i : SrIf)
    (ipId : UInt16) : Except Halt Frame := do
  let routeQty := countRoutes sr.routingTable
  let lsas ← lsasOfRoutes sr.ifList sr.routingTable
  let frame := (List.range (14 + 20 + 24 + 8 + routeQty * 12)).map sr.uninit
  let frame := ospfHeaders i routerId ospfTypeLsu ipId i.neighborIp frame
  -- sequence number, unused, TTL and number of advertisements, in the order of the host
  let frame := store frame 58 (bytes16 sequenceNum ++ [0, 64] ++
    bytes32 (UInt32.ofNat routeQty))
  let frame := store frame (lsaOffset 0) (lsas.flatMap lsaBytes)
  .ok (store frame 46 (bytes16 (ospfv2Cksum frame (24 + 8 + routeQty * 12))))

/-- `send_lsu`, with what it sends. -/
def sendLsuOut (sr : SrInstance) (now : ℤ) (fuel : ℕ) (routerId : IpAddr)
    (sequenceNum : UInt16) (i : SrIf) (ipId : UInt16) (st : ArpState) : Sending ArpState :=
  match lsuFrame sr routerId sequenceNum i ipId with
  | .error e => halt e
  | .ok frame =>
      match srArpcacheLookup st.entries i.neighborIp with
      | some arpEntry => srForwardPacketOut sr frame arpEntry.mac i.name st
      | none =>
          let (st, addr) := srArpcacheQueuereq i.neighborIp frame i.name st
          handleArpreqOut sr now fuel addr st

/-- The loop that sends an LSU to every neighbour; `rand` has a number for each interface. -/
def sendLsusOut (sr : SrInstance) (now : ℤ) (fuel : ℕ) (routerId : IpAddr)
    (sequenceNum : UInt16) (rand : ℕ → UInt16) (st : ArpState) : Sending ArpState :=
  sr.ifList.zipIdx.foldlM (fun st (i, k) =>
    if i.neighborId ≠ 0 then sendLsuOut sr now fuel routerId sequenceNum i (rand k) st
    else pure st) st

/-- What one turn of the loop of `send_hellos` does to the counter of an interface. -/
def SrIf.tick (i : SrIf) : SrIf :=
  if 0 < i.helloint then { i with helloint := i.helloint - 1 }
  else { i with helloint := ospfDefaultHelloint.toUInt8 }

/-- The HELLOs that one turn of the loop of `send_hellos` sends; the threads that are started for
them send them at once. -/
def sendHellosOut (sr : SrInstance) (routerId : IpAddr) (rand : ℕ → UInt16) (st : ArpState) :
    Sending ArpState :=
  sr.ifList.zipIdx.foldlM (fun st (i, k) =>
    if 0 < i.helloint then pure st
    else st.send (helloFrame sr.uninit routerId i (rand k)) i.name) st

/-! ### Flooding -/

/-- One turn of the flooding loop, with what it sends, on the buffer and the ARP cache. -/
def floodStepOut (sr : SrInstance) (now : ℤ) (fuel : ℕ) (s : Frame × ArpState) (i : SrIf) :
    Sending (Frame × ArpState) :=
  let packet := lsuRewrite i s.1
  match srArpcacheLookup s.2.entries i.neighborIp with
  | some arpEntry =>
      match forwardedFrame sr packet arpEntry.mac i.name with
      | none => pure (packet, s.2)
      | some frame => (s.2.send frame i.name).map fun st => (frame, st)
  | none =>
      let (st, addr) := srArpcacheQueuereq i.neighborIp packet i.name s.2
      (handleArpreqOut sr now fuel addr st).map fun st => (packet, st)

/-- The flooding of an accepted LSU, with what it sends. -/
def floodLsuOut (sr : SrInstance) (now : ℤ) (fuel : ℕ) (rx : IfName) (packet : Frame)
    (st : ArpState) : Sending ArpState :=
  ((otherInterfaces sr rx).foldlM (floodStepOut sr now fuel) (packet, st)).map Prod.snd

theorem ending_floodStepOut (sr : SrInstance) (now : ℤ) (fuel : ℕ) (i : SrIf) (packet : Frame)
    (st : ArpState) : (floodStepOut sr now fuel (packet, st) i).ending =
      (floodStep sr now fuel i packet st).2.2.map
        fun st' => ((floodStep sr now fuel i packet st).2.1, st') := by
  unfold floodStepOut floodStep srForwardPacket
  cases srArpcacheLookup st.entries i.neighborIp with
  | none =>
    simp only
    rw [ending_map, ending_handleArpreqOut]
  | some e =>
    simp only
    cases forwardedFrame sr (lsuRewrite i packet) e.mac i.name <;> rfl

/-- **The ending of the flooding.** -/
theorem ending_floodLsuOut (sr : SrInstance) (now : ℤ) (fuel : ℕ) (rx : IfName) (packet : Frame)
    (st : ArpState) :
    (floodLsuOut sr now fuel rx packet st).ending = (floodLsu sr now fuel rx packet st).2 := by
  have hloop : ∀ (others : List SrIf) (packet : Frame) (st : ArpState),
      (others.foldlM (floodStepOut sr now fuel) (packet, st)).ending.map Prod.snd =
        (floodOthers sr now fuel others packet st).2 := by
    intro others
    induction others with
    | nil => exact fun _ _ => rfl
    | cons i rest ih =>
      intro packet st
      rw [List.foldlM_cons, ending_bind, ending_floodStepOut, floodOthers]
      rcases floodStep sr now fuel i packet st with ⟨copy, packet', ending⟩
      cases ending with
      | error e => rfl
      | ok st' => exact ih packet' st'
  unfold floodLsuOut floodLsu
  rw [ending_map, hloop, floodLoop_eq]
  rfl

/-! ### Validity -/

/-- A frame with the headers of an OSPF packet from an interface, and the right checksum in the
IP header. -/
structure OspfHeaders (i : SrIf) (frame : Frame) : Prop where
  /-- It has room for the headers. -/
  length_le : 58 ≤ frame.length
  /-- The source address is that of the interface. -/
  shost : etherShost frame = i.addr.bytes
  /-- It holds an IP packet. -/
  type : etherType frame = htons ethertypeIp
  /-- This is an OSPF packet. -/
  proto : ipP frame = ipProtocolOspfv2
  /-- The IP checksum is valid. -/
  sum : ipCksum frame = ipSum frame

section Validity

variable {i : SrIf} {frame : Frame}

/-- What is written behind the IP header does not change it. -/
theorem OspfHeaders.store (h : OspfHeaders i frame) {j : ℕ} {xs : List UInt8} (hj : 34 ≤ j) :
    OspfHeaders i (store frame j xs) where
  length_le := by
    rw [length_store]
    exact h.length_le
  shost := by
    rw [etherShost_store_of_disjoint (.inl (by omega))]
    exact h.shost
  type := by
    rw [etherType, load16_store_of_disjoint (by omega)]
    exact h.type
  proto := by
    rw [ipP, load8_store_of_disjoint (by omega)]
    exact h.proto
  sum := by
    rw [ipCksum_store_of_disjoint (.inr hj), ipSum, load16_store_of_disjoint (by omega)]
    exact h.sum

@[simp] theorem length_ospfHeaders (i : SrIf) (routerId : IpAddr) (type : UInt8)
    (ipId : UInt16) (ipDst : IpAddr) (frame : Frame) :
    (ospfHeaders i routerId type ipId ipDst frame).length = frame.length := by
  simp [ospfHeaders]

/-- **The headers that are filled in** are those of an OSPF packet. -/
theorem ospfHeaders_spec (i : SrIf) (routerId : IpAddr) (type : UInt8) (ipId : UInt16)
    (ipDst : IpAddr) {frame : Frame} (hlen : 58 ≤ frame.length) :
    OspfHeaders i (ospfHeaders i routerId type ipId ipDst frame) := by
  have hm := i.addr.length_eq
  unfold ospfHeaders
  -- the OSPF header is behind the IP header
  refine OspfHeaders.store (OspfHeaders.store (OspfHeaders.store (OspfHeaders.store ?_
    (by decide)) (by decide)) (by decide)) (by decide)
  refine ⟨by simpa using hlen, ?_, ?_, ?_, ?_⟩
  · rw [etherShost_store_of_disjoint (by simp), etherShost_store_of_disjoint (by simp),
      etherShost_store_of_disjoint (by simp), etherShost_store_of_disjoint (by simp),
      etherShost_store_of_disjoint (by simp), etherShost_store (by omega)]
  · rw [etherType, load16_store_of_disjoint (by simp), load16_store_of_disjoint (by simp),
      load16_store_of_disjoint (by simp), load16_store_of_disjoint (by simp),
      load16_store_bytes16 _ (by simp; omega)]
  · rw [ipP, load8_store_of_disjoint (by simp), load8_store_of_disjoint (by simp),
      load8_store_of_disjoint (by simp)]
    -- the protocol is the last of ten bytes written at 14
    exact load8_store (i := 14) (k := 9) (by simp) (by simp; omega)
  · rw [ipCksum_store_sum, ipSum, load16_store_bytes16 _ (by simp; omega)]

/-- **An OSPF packet is valid exactly if its checksum is.** -/
theorem OspfHeaders.isPacketValid_iff (h : OspfHeaders i frame) :
    isPacketValid frame = true ↔ ospfv2Cksum frame (frame.length - 34) = ospfCsum frame := by
  have hlen := h.length_le
  have hicmp : ipProtocolOspfv2 ≠ ipProtocolIcmp := by decide
  rw [isPacketValid_ip_iff h.type, h.proto]
  constructor
  · rintro ⟨-, -, -, hospf⟩
    exact (hospf rfl).2
  · intro hcsum
    exact ⟨by omega, h.sum, fun heq => absurd heq hicmp, fun _ => ⟨hlen, hcsum⟩⟩

/-- The checksum over the whole packet makes it valid. -/
theorem OspfHeaders.isPacketValid_store_csum (h : OspfHeaders i frame) {len : ℕ}
    (hlen : frame.length = 34 + len) :
    isPacketValid (Bytes.store frame 46 (bytes16 (ospfv2Cksum frame len))) = true := by
  have hle := h.length_le
  have hsub : frame.length - 34 = len := by omega
  refine (h.store (by decide)).isPacketValid_iff.mpr ?_
  rw [length_store, hsub, ospfv2Cksum_store_sum, ospfCsum, load16_store_bytes16 _ (by omega)]

/-- **HELLOs are valid.** -/
theorem isPacketValid_helloFrame (i : SrIf) (uninit : ℕ → UInt8) (routerId : IpAddr)
    (ipId : UInt16) : isPacketValid (helloFrame uninit routerId i ipId) = true := by
  unfold helloFrame
  have hheaders : ∀ ipDst frame, 58 ≤ frame.length →
      OspfHeaders i (ospfHeaders i routerId ospfTypeHello ipId ipDst frame) :=
    fun ipDst frame hlen => ospfHeaders_spec i routerId ospfTypeHello ipId ipDst hlen
  exact ((hheaders _ _ (by simp)).store (by decide)).isPacketValid_store_csum (by simp)

/-- **HELLOs are accepted.** -/
theorem acceptable_helloFrame {ifList : List SrIf} (h : NamesMatch ifList) (hi : i ∈ ifList)
    (uninit : ℕ → UInt8) (routerId : IpAddr) (ipId : UInt16) :
    Acceptable ifList ⟨helloFrame uninit routerId i ipId, i.name⟩ := by
  refine acceptable_of_mem h hi ?_ (isPacketValid_helloFrame i uninit routerId ipId)
  unfold helloFrame
  rw [etherShost_store_of_disjoint (.inl (by decide)),
    etherShost_store_of_disjoint (.inl (by decide))]
  exact (ospfHeaders_spec i routerId ospfTypeHello ipId _ (by simp)).shost

/-- **LSUs are valid.** -/
theorem isPacketValid_lsuFrame {sr : SrInstance} {routerId : IpAddr} {sequenceNum ipId : UInt16}
    (h : lsuFrame sr routerId sequenceNum i ipId = .ok frame) : isPacketValid frame = true := by
  unfold lsuFrame at h
  obtain ⟨lsas, -, h⟩ := Fuel.exists_of_bind_eq_ok h
  cases h
  have hheaders : ∀ frame, 58 ≤ frame.length →
      OspfHeaders i (ospfHeaders i routerId ospfTypeLsu ipId i.neighborIp frame) :=
    fun frame hlen => ospfHeaders_spec i routerId ospfTypeLsu ipId i.neighborIp hlen
  refine (((hheaders _ ?_).store (by decide)).store (by decide)).isPacketValid_store_csum ?_
  · rw [List.length_map, List.length_range]
    omega
  · rw [length_store, length_store, length_ospfHeaders, List.length_map, List.length_range]
    omega

end Validity

/-! ### Copies of an LSU -/

/-- The buffer in which the copies of an LSU are made: what comes behind the TTL is that of the
LSU. -/
structure FloodBuffer (packet buf : Frame) : Prop where
  /-- It is as long as the LSU. -/
  length_eq : buf.length = packet.length
  /-- The advertisements, how many there are, and what comes behind them are the same. -/
  drop_eq : buf.drop 62 = packet.drop 62
  /-- It holds an IP packet. -/
  type : etherType buf = htons ethertypeIp
  /-- This is an OSPF packet. -/
  proto : ipP buf = ipProtocolOspfv2

section FloodBuffer

variable {packet buf : Frame}

theorem FloodBuffer.lsuNumAdv_eq (h : FloodBuffer packet buf) :
    lsuNumAdv buf = lsuNumAdv packet := by
  rw [lsuNumAdv, ← load32_drop, h.drop_eq, load32_drop]

theorem FloodBuffer.lsuRewrite (h : FloodBuffer packet buf) (i : SrIf) :
    FloodBuffer packet (lsuRewrite i buf) := by
  have hm := i.addr.length_eq
  refine ⟨by rw [length_lsuRewrite, h.length_eq], drop_lsuRewrite.trans h.drop_eq, ?_, ?_⟩
  · rw [← h.type]
    unfold Redes.lsuRewrite etherType
    rw [load16_store_of_disjoint (by simp), load16_store_of_disjoint (by simp),
      load16_store_of_disjoint (by simp), load16_store_of_disjoint (by simp),
      load16_store_of_disjoint (by omega)]
  · rw [← h.proto]
    unfold Redes.lsuRewrite ipP
    rw [load8_store_of_disjoint (by simp), load8_store_of_disjoint (by simp),
      load8_store_of_disjoint (by simp), load8_store_of_disjoint (by simp),
      load8_store_of_disjoint (by omega)]

theorem FloodBuffer.readdressed (h : FloodBuffer packet buf) (shost dhost : Mac) :
    FloodBuffer packet (readdressed shost dhost buf) :=
  ⟨by rw [length_readdressed, h.length_eq], (drop_readdressed (by decide)).trans h.drop_eq,
    (load16_readdressed (by decide)).trans h.type, (load8_readdressed (by decide)).trans h.proto⟩

/-- **A copy of an LSU is valid exactly if what comes behind the advertisements does not
count.** -/
theorem FloodBuffer.isPacketValid_lsuRewrite_iff (h : FloodBuffer packet buf) (i : SrIf)
    (hmax : packet.length ≤ rxLsuParamSize) (hlen : lsaOffset 0 ≤ packet.length)
    (hall : lsaOffset (lsuNumAdv packet).toNat ≤ packet.length) :
    isPacketValid (Redes.lsuRewrite i buf) = true ↔
      cksum (packet.drop (lsaOffset (lsuNumAdv packet).toNat)) = 0xffff := by
  have hoff : lsaOffset 0 = 66 := rfl
  have hsize : buf.length = packet.length := h.length_eq
  have hnum := h.lsuNumAdv_eq
  have htail : buf.drop (lsaOffset (lsuNumAdv packet).toNat) =
      packet.drop (lsaOffset (lsuNumAdv packet).toNat) := by
    have hsplit : lsaOffset (lsuNumAdv packet).toNat =
        62 + (4 + (lsuNumAdv packet).toNat * 12) := by
      unfold lsaOffset
      omega
    rw [hsplit, ← List.drop_drop, h.drop_eq, List.drop_drop]
  have hheaders : OspfHeaders i (Redes.lsuRewrite i buf) :=
    ⟨by rw [length_lsuRewrite]; omega, etherShost_lsuRewrite (by omega), (h.lsuRewrite i).type,
      (h.lsuRewrite i).proto, ipCksum_lsuRewrite (by omega)⟩
  rw [hheaders.isPacketValid_iff, ← htail, ← hnum]
  exact ospfv2Cksum_lsuRewrite_iff (by omega) (by omega) (by rw [hnum]; omega)

end FloodBuffer

/-! ### The history gains what is sent -/

section Tells

variable (sr : SrInstance) (now : ℤ) (fuel : ℕ)

theorem tells_sendLsuOut (routerId : IpAddr) (sequenceNum : UInt16) (i : SrIf) (ipId : UInt16)
    (st : ArpState) : Tells ArpState.outgoing st.outgoing
      (sendLsuOut sr now fuel routerId sequenceNum i ipId st) := by
  unfold sendLsuOut
  cases lsuFrame sr routerId sequenceNum i ipId with
  | error e => exact .halt e
  | ok frame =>
    simp only
    cases srArpcacheLookup st.entries i.neighborIp with
    | some e => exact tells_srForwardPacketOut sr _ _ _ _
    | none => exact tells_queuereq sr now fuel _ _ _ _

theorem tells_sendLsusOut (routerId : IpAddr) (sequenceNum : UInt16) (rand : ℕ → UInt16)
    (st : ArpState) : Tells ArpState.outgoing st.outgoing
      (sendLsusOut sr now fuel routerId sequenceNum rand st) := by
  refine Tells.foldlM ?_
  intro s p _
  simp only
  split
  · exact tells_sendLsuOut sr now fuel routerId sequenceNum p.1 (rand p.2) s
  · exact .pure rfl

theorem tells_sendHellosOut (routerId : IpAddr) (rand : ℕ → UInt16) (st : ArpState) :
    Tells ArpState.outgoing st.outgoing (sendHellosOut sr routerId rand st) := by
  refine Tells.foldlM ?_
  intro s p _
  simp only
  split
  · exact .pure rfl
  · exact tells_send _ _ _

theorem tells_floodLsuOut (rx : IfName) (packet : Frame) (st : ArpState) :
    Tells ArpState.outgoing st.outgoing (floodLsuOut sr now fuel rx packet st) := by
  have hstep : ∀ (s : Frame × ArpState) (i : SrIf),
      Tells (fun s : Frame × ArpState => s.2.outgoing) s.2.outgoing
        (floodStepOut sr now fuel s i) := by
    intro s i
    unfold floodStepOut
    cases srArpcacheLookup s.2.entries i.neighborIp with
    | some e =>
      simp only
      cases forwardedFrame sr (lsuRewrite i s.1) e.mac i.name with
      | none => exact .pure rfl
      | some frame => exact (tells_send s.2 frame i.name).map fun _ => rfl
    | none =>
      exact (tells_queuereq sr now fuel i.neighborIp (lsuRewrite i s.1) i.name s.2).map
        fun _ => rfl
  exact Tells.map (Tells.foldlM fun s i _ => hstep s i) fun _ => rfl

end Tells

/-! ### What is sent is accepted -/

section Safe

variable {sr : SrInstance} {now : ℤ} {fuel : ℕ} {st : ArpState}

/-- **LSUs are accepted.** -/
theorem safe_sendLsusOut (hnames : NamesMatch sr.ifList) (routerId : IpAddr)
    (sequenceNum : UInt16) (rand : ℕ → UInt16) (h : PendingValid st) :
    SendsAcceptable sr (sendLsusOut sr now fuel routerId sequenceNum rand st) := by
  refine Safe.foldlM ?_ h
  intro s p _ hs
  simp only
  split
  · unfold sendLsuOut
    cases hframe : lsuFrame sr routerId sequenceNum p.1 (rand p.2) with
    | error e => exact .halt e
    | ok frame =>
      have hvalid := isPacketValid_lsuFrame hframe
      simp only
      cases srArpcacheLookup s.entries p.1.neighborIp with
      | some e => exact safe_srForwardPacketOut hvalid _ _ hs
      | none => exact safe_queuereq hnames hvalid _ _ hs
  · exact .pure hs

theorem safe_sendHellosOut (hnames : NamesMatch sr.ifList) (routerId : IpAddr)
    (rand : ℕ → UInt16) (h : PendingValid st) :
    SendsAcceptable sr (sendHellosOut sr routerId rand st) := by
  refine Safe.foldlM ?_ h
  intro s p hp hs
  simp only
  split
  · exact .pure hs
  · have hmem : p.1 ∈ sr.ifList := List.fst_mem_of_mem_zipIdx hp
    exact safe_send (acceptable_helloFrame hnames hmem sr.uninit routerId (rand p.2)) hs

/-- **Flooding only sends what is accepted** if there is no copy to make, or what comes behind the
advertisements of the LSU does not count. -/
theorem safe_floodLsuOut (hnames : NamesMatch sr.ifList) {rx : IfName} {packet : Frame}
    (htype : etherType packet = htons ethertypeIp) (hproto : ipP packet = ipProtocolOspfv2)
    (hmax : packet.length ≤ rxLsuParamSize) (hlen : lsaOffset 0 ≤ packet.length)
    (hall : lsaOffset (lsuNumAdv packet).toNat ≤ packet.length)
    (htail : otherInterfaces sr rx ≠ [] →
      cksum (packet.drop (lsaOffset (lsuNumAdv packet).toNat)) = 0xffff) (h : PendingValid st) :
    SendsAcceptable sr (floodLsuOut sr now fuel rx packet st) := by
  -- all copies are made in one buffer, which a turn leaves as the last copy has it
  have hstep : ∀ s : Frame × ArpState, ∀ i ∈ otherInterfaces sr rx,
      FloodBuffer packet s.1 ∧ PendingValid s.2 →
        Safe (Acceptable sr.ifList) (fun s => FloodBuffer packet s.1 ∧ PendingValid s.2)
          (floodStepOut sr now fuel s i) := by
    rintro s i hi ⟨hbuf, hs⟩
    have hvalid : isPacketValid (lsuRewrite i s.1) = true :=
      (hbuf.isPacketValid_lsuRewrite_iff i hmax hlen hall).mpr (htail (List.ne_nil_of_mem hi))
    unfold floodStepOut
    cases srArpcacheLookup s.2.entries i.neighborIp with
    | some e =>
      simp only
      unfold forwardedFrame
      cases hif : srGetInterface sr.ifList i.name with
      | none => exact .pure ⟨hbuf.lsuRewrite i, hs⟩
      | some out =>
        have hout := acceptable_readdressed hif e.mac hvalid
        exact (safe_send hout hs).map fun _ hst =>
          ⟨(hbuf.lsuRewrite i).readdressed out.addr e.mac, hst⟩
    | none =>
      exact (safe_queuereq hnames hvalid i.neighborIp i.name hs).map fun _ hst =>
        ⟨hbuf.lsuRewrite i, hst⟩
  have hstart : FloodBuffer packet packet := ⟨rfl, rfl, htype, hproto⟩
  exact Safe.map (Safe.foldlM hstep ⟨hstart, h⟩) fun _ hs => hs.2

end Safe

end Redes
