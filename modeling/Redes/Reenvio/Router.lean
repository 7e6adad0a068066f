import Redes.Router.Forwarding

/-!
# The router with static routes

The program in `reenvio/`.  Its ARP cache, its ARP packets and its routing table are those of
`enrutamiento/`, word for word.  What differs is in `sr_router.c`: there is no OSPF, a packet
whose TTL has run out is answered before the router looks whether it is for itself, and
`sr_send_icmp_error_packet` asks for the hardware address of the next hop before it writes the
headers of the error.  Both ways to send a packet ask the ARP cache for the gateway of the
route, also if it is zero, as it is on a connected network.

## Main definitions

* `CacheCall`, `Asked` — what the ARP cache is asked for a packet that is sent.
* `startedError`, `finishedError`, `srSendIcmpErrorPacket` — ICMP errors.
* `handleArpreq`, `srArpcacheTimeout` — asking again, giving up.
* `srHandleIpPacket` — the handler.
* `sentFor` — the route and the destination of the packet that is sent for a received one.

## Main results

* `srSendIcmpErrorPacket_asked`, `srHandleIpPacket_asked` — what the cache is asked.
* `asked_onLink_iff` — when this is the next hop of the route.
-/

namespace Redes.Reenvio

open Bytes Fuel

/-! ### What the cache is asked -/

/-- A call to the ARP cache. -/
inductive CacheCall
  /-- `sr_arpcache_lookup`. -/
  | lookup (ip : IpAddr)
  /-- `sr_arpcache_queuereq`. -/
  | queuereq (ip : IpAddr)
  deriving DecidableEq

/-- The address that is passed. -/
def CacheCall.ip : CacheCall → IpAddr
  | .lookup ip => ip
  | .queuereq ip => ip

/-- What the cache is asked for a packet that is to be sent. -/
structure Asked where
  /-- The route that matched. -/
  rtMatch : SrRt
  /-- The IP destination of the packet. -/
  ipDst : IpAddr
  /-- The calls. -/
  calls : List CacheCall
  deriving DecidableEq

/-- All calls are for the next hop: the gateway of the route, or the destination on a connected
network. -/
def Asked.OnLink (a : Asked) : Prop := ∀ c ∈ a.calls, c.ip = nextHop a.rtMatch a.ipDst

instance (a : Asked) : Decidable a.OnLink :=
  inferInstanceAs (Decidable (∀ c ∈ a.calls, c.ip = nextHop a.rtMatch a.ipDst))

/-! ### ICMP errors -/

/-- The block that `malloc` returns for an error. -/
def errorBlock (sr : SrInstance) : Frame := (List.range icmpErrorLen).map sr.uninit

/-- The source of the packet that an error is about, whose Ethernet header is taken to be at the
offset `off` of `buf`. -/
def errorDst (sr : SrInstance) (buf : Frame) (off : ℕ) : IpAddr :=
  load32 (readMem sr.behind buf (off + 14 + 12) 4) 0

/-- The error before the cache is asked: only the source hardware address is there. -/
def startedError (sr : SrInstance) (outIface : SrIf) : Frame :=
  store (errorBlock sr) 6 outIface.addr.bytes

/-- What is written after the cache was asked. -/
def finishedError (sr : SrInstance) (type code : UInt8) (outIface : SrIf) (buf : Frame)
    (off : ℕ) (icmpPacket : Frame) : Frame :=
  let ipHdr := off + 14
  let frame := store icmpPacket 12 (bytes16 (htons ethertypeIp))
  -- version and header length, type of service, length, id, fragment offset, TTL, protocol
  let frame := store frame 14 ([0x45, 0] ++ bytes16 (htons 56) ++ bytes16 (htons 0) ++
    bytes16 (htons 0x4000) ++ [64, ipProtocolIcmp])
  let frame := store frame 26 (bytes32 outIface.ip)
  let frame := store frame 30 (readMem sr.behind buf (ipHdr + 12) 4)
  let frame := store frame 24 (bytes16 (ipCksum frame))
  let frame := store frame 34 [type, code, 0, 0]
  let frame := store frame 42 (readMem sr.behind buf ipHdr 28)
  store frame 36 (bytes16 (icmpCksum frame 36))

/-- `sr_send_icmp_error_packet`, with what it asks the cache: the address it is given is not
used, and on a miss the frame is queued as it is then. -/
def srSendIcmpErrorPacket (sr : SrInstance) (handle : ℕ → ArpState → Except Halt ArpState)
    (type code : UInt8) (_ipDst : IpAddr) (buf : Frame) (off : ℕ) (st : ArpState) :
    Option Asked × Except Halt ArpState :=
  match srFindRtEntry sr.routingTable (errorDst sr buf off) with
  | none => (none, .ok st)
  | some rtMatch =>
      match srGetInterface sr.ifList rtMatch.interface with
      | none => (none, .ok st)
      | some outIface =>
          let icmpPacket := startedError sr outIface
          match srArpcacheLookup st.entries rtMatch.gw with
          | some arpEntry =>
              let icmpPacket := finishedError sr type code outIface buf off
                (store icmpPacket 0 arpEntry.mac.bytes)
              (some ⟨rtMatch, errorDst sr buf off, [.lookup rtMatch.gw]⟩,
                .ok (st.note (.output icmpPacket outIface.name)))
          | none =>
              let (st, req) := srArpcacheQueuereq rtMatch.gw icmpPacket outIface.name st
              (some ⟨rtMatch, errorDst sr buf off, [.lookup rtMatch.gw, .queuereq rtMatch.gw]⟩,
                handle req st)

/-! ### Giving up and asking again -/

/-- One turn of the loop of `host_unreachable`. -/
def unreachablePacket (sr : SrInstance) (handle : ℕ → ArpState → Except Halt ArpState)
    (addr : ℕ) (st : ArpState) (p : QueuedPacket) : Except Halt ArpState := do
  let st ← (srSendIcmpErrorPacket sr handle 3 1 (queuedIpSrc sr p.buf) p.buf 14
    (st.note (.gaveUp p.id addr))).2
  if st.queue.deref addr = none then .error .useAfterFree else .ok st

/-- `host_unreachable`. -/
def hostUnreachable (sr : SrInstance) (handle : ℕ → ArpState → Except Halt ArpState)
    (req : ArpReq) (st : ArpState) : Except Halt ArpState :=
  req.packets.foldlM (unreachablePacket sr handle req.addr) st

/-- `handle_arpreq` on the request at an address. -/
def handleArpreq (sr : SrInstance) (now : ℤ) : ℕ → ℕ → ArpState → Except Halt ArpState
  | 0, _, _ => .error .outOfFuel
  | fuel + 1, addr, st =>
      match st.queue.deref addr with
      | none => .error .useAfterFree
      | some req =>
          if 1 < now - req.sent then
            if 5 ≤ req.timesSent then do
              let st ← hostUnreachable sr (handleArpreq sr now fuel) req st
              .ok (srArpreqDestroy addr st)
            else
              let st := srArpRequestSend sr req.ip (st.note (.requested addr))
              .ok { st with queue := st.queue.markSent addr now }
          else .ok st

/-- The loop of `sr_arpcache_sweepreqs`. -/
def sweepreqsLoop (sr : SrInstance) (now : ℤ) (fuel : ℕ) :
    ℕ → Option ℕ → ArpState → Except Halt ArpState
  | _, none, st => .ok st
  | 0, some _, _ => .error .outOfFuel
  | n + 1, some currReq, st =>
      match nextAddr st.queue.reqs currReq with
      | none => .error .useAfterFree
      | some nextReq => do
          let st ← handleArpreq sr now fuel currReq st
          sweepreqsLoop sr now fuel n nextReq st

/-- `sr_arpcache_sweepreqs`. -/
def srArpcacheSweepreqs (sr : SrInstance) (now : ℤ) (fuel : ℕ) (st : ArpState) :
    Except Halt ArpState :=
  sweepreqsLoop sr now fuel fuel (st.queue.reqs.head?.map ArpReq.addr) st

/-- One turn of the loop of `sr_arpcache_timeout`. -/
def srArpcacheTimeout (sr : SrInstance) (now : ℤ) (fuel : ℕ) (st : ArpState) :
    Except Halt ArpState :=
  srArpcacheSweepreqs sr now fuel { st with entries := expireEntries now st.entries }

/-! ### The handler -/

/-- `sr_handle_ip_packet`, with what it asks the cache for the packet that is sent. -/
def srHandleIpPacket (sr : SrInstance) (now : ℤ) (fuel : ℕ) (packet : Frame)
    (interface : IfName) (st : ArpState) : Option Asked × Except Halt ArpState :=
  if packet.length < 14 + 20 then (none, .ok st)
  else if ipSum packet ≠ ipCksum packet then (none, .ok st)
  else
    let isForMe := sr.ifList.any fun i => i.ip = ipDst packet
    if ipTtl packet ≤ 1 then
      srSendIcmpErrorPacket sr (handleArpreq sr now fuel) 11 0 (ipSrc packet) packet 0 st
    else if isForMe = true then
      if ipP packet = ipProtocolIcmp then
        if load8 packet 34 = 8 ∧ load8 packet 35 = 0 then
          (none, .ok (srSendIcmp packet 0 0 interface st))
        else (none, .ok st)
      else srSendIcmpErrorPacket sr (handleArpreq sr now fuel) 3 3 (ipSrc packet) packet 0 st
    else
      match srFindRtEntry sr.routingTable (ipDst packet) with
      | none => srSendIcmpErrorPacket sr (handleArpreq sr now fuel) 3 0 (ipSrc packet) packet 0 st
      | some rtMatch =>
          let ipDst := ipDst packet
          let packet := decremented packet
          match srArpcacheLookup st.entries rtMatch.gw with
          | some arpEntry =>
              (some ⟨rtMatch, ipDst, [.lookup rtMatch.gw]⟩,
                .ok (srForwardPacket sr packet arpEntry.mac rtMatch.interface st))
          | none =>
              let (st, req) := srArpcacheQueuereq rtMatch.gw packet interface st
              (some ⟨rtMatch, ipDst, [.lookup rtMatch.gw, .queuereq rtMatch.gw]⟩,
                handleArpreq sr now fuel req st)

/-! ### The next hop -/

/-- The route of an error about a packet, if it is sent. -/
def errorRoute (sr : SrInstance) (ipDst : IpAddr) : Option SrRt :=
  (srFindRtEntry sr.routingTable ipDst).filter fun rtMatch =>
    (srGetInterface sr.ifList rtMatch.interface).isSome

/-- The route and the IP destination of the packet that is sent for a received one: the packet
itself, or an error about it. -/
def sentFor (sr : SrInstance) (packet : Frame) : Option (SrRt × IpAddr) :=
  let error := (errorRoute sr (ipSrc packet)).map fun rtMatch => (rtMatch, ipSrc packet)
  if packet.length < 14 + 20 ∨ ipSum packet ≠ ipCksum packet then none
  else if ipTtl packet ≤ 1 then error
  else if (sr.ifList.any fun i => i.ip = ipDst packet) = true then
    if ipP packet = ipProtocolIcmp then none else error
  else
    match srFindRtEntry sr.routingTable (ipDst packet) with
    | none => error
    | some rtMatch => some (rtMatch, ipDst packet)

/-- What the cache is asked about a packet: the gateway is looked up, and, if it is not there,
queued. -/
def askedFor (st : ArpState) (rtMatch : SrRt) (ipDst : IpAddr) : Asked where
  rtMatch := rtMatch
  ipDst := ipDst
  calls := .lookup rtMatch.gw ::
    if srArpcacheLookup st.entries rtMatch.gw = none then [.queuereq rtMatch.gw] else []

/-- **The cache is asked for the next hop exactly if the route has a gateway**, or the packet is
for the address zero. -/
theorem askedFor_onLink_iff (st : ArpState) (rtMatch : SrRt) (ipDst : IpAddr) :
    (askedFor st rtMatch ipDst).OnLink ↔ rtMatch.gw ≠ 0 ∨ ipDst = 0 := by
  have hcalls : (askedFor st rtMatch ipDst).OnLink ↔ rtMatch.gw = nextHop rtMatch ipDst := by
    constructor
    · intro h
      exact h (.lookup rtMatch.gw) List.mem_cons_self
    · intro h c hc
      rcases List.mem_cons.mp hc with rfl | hc
      · exact h
      · split at hc
        · rw [List.mem_singleton.mp hc]
          exact h
        · cases hc
  rw [hcalls]
  unfold nextHop
  by_cases hgw : rtMatch.gw = 0
  · rw [if_pos hgw, hgw]
    simp [eq_comm]
  · simp [hgw]

section Asked

variable {sr : SrInstance} {st : ArpState}

/-- What the cache is asked for an error. -/
theorem srSendIcmpErrorPacket_asked (handle : ℕ → ArpState → Except Halt ArpState)
    (type code : UInt8) (ipDst : IpAddr) (buf : Frame) (off : ℕ) :
    (srSendIcmpErrorPacket sr handle type code ipDst buf off st).1 =
      (errorRoute sr (errorDst sr buf off)).map fun rtMatch =>
        askedFor st rtMatch (errorDst sr buf off) := by
  unfold srSendIcmpErrorPacket errorRoute
  cases hroute : srFindRtEntry sr.routingTable (errorDst sr buf off) with
  | none => rfl
  | some rtMatch =>
    cases hif : srGetInterface sr.ifList rtMatch.interface with
    | none => simp [Option.filter, hif]
    | some outIface =>
      cases harp : srArpcacheLookup st.entries rtMatch.gw <;>
        simp [Option.filter, hif, harp, askedFor]

/-- An error about a received packet is for its source. -/
theorem errorDst_eq (sr : SrInstance) {packet : Frame} (hlen : 34 ≤ packet.length) :
    errorDst sr packet 0 = ipSrc packet :=
  load32_readMem (by omega)

/-- What it is asked by the handler. -/
theorem srHandleIpPacket_asked (now : ℤ) (fuel : ℕ) (packet : Frame) (interface : IfName) :
    (srHandleIpPacket sr now fuel packet interface st).1 =
      (sentFor sr packet).map fun sent => askedFor st sent.1 sent.2 := by
  unfold srHandleIpPacket sentFor
  by_cases hlen : packet.length < 14 + 20
  · simp [hlen]
  have hdst : errorDst sr packet 0 = ipSrc packet := errorDst_eq sr (by omega)
  by_cases hsum : ipSum packet ≠ ipCksum packet
  · simp [hsum]
  simp only [hlen, hsum, or_self, if_false]
  by_cases httl : ipTtl packet ≤ 1
  · simp only [httl, if_true, srSendIcmpErrorPacket_asked, hdst, Option.map_map]
    rfl
  simp only [httl, if_false]
  by_cases hme : (sr.ifList.any fun i => i.ip = ipDst packet) = true
  · simp only [hme, if_true]
    by_cases hicmp : ipP packet = ipProtocolIcmp
    · simp only [hicmp, if_true]
      split <;> rfl
    · simp only [hicmp, if_false, srSendIcmpErrorPacket_asked, hdst, Option.map_map]
      rfl
  · simp only [hme]
    cases hroute : srFindRtEntry sr.routingTable (ipDst packet) with
    | none =>
      simp only [Bool.false_eq_true, if_false, srSendIcmpErrorPacket_asked, hdst, Option.map_map]
      rfl
    | some rtMatch =>
      cases harp : srArpcacheLookup st.entries rtMatch.gw <;> simp [harp, askedFor]

end Asked

/-- **The cache is asked for the next hops of all packets that are sent exactly if their routes
have gateways**, or they are for the address zero: of those that are forwarded and of the
errors. -/
theorem asked_onLink_iff (sr : SrInstance) (st : ArpState) :
    (∀ now fuel packet interface,
      (∀ a ∈ (srHandleIpPacket sr now fuel packet interface st).1, a.OnLink) ↔
        ∀ rtMatch dst, sentFor sr packet = some (rtMatch, dst) → rtMatch.gw ≠ 0 ∨ dst = 0) ∧
    (∀ handle type code ipDst buf off,
      (∀ a ∈ (srSendIcmpErrorPacket sr handle type code ipDst buf off st).1, a.OnLink) ↔
        ∀ rtMatch, errorRoute sr (errorDst sr buf off) = some rtMatch →
          rtMatch.gw ≠ 0 ∨ errorDst sr buf off = 0) := by
  constructor
  · intro now fuel packet interface
    rw [srHandleIpPacket_asked]
    cases hsent : sentFor sr packet with
    | none => simp
    | some sent =>
      obtain ⟨rtMatch, dst⟩ := sent
      simp [askedFor_onLink_iff]
  · intro handle type code ipDst buf off
    rw [srSendIcmpErrorPacket_asked]
    cases hroute : errorRoute sr (errorDst sr buf off) with
    | none => simp
    | some rtMatch => simp [askedFor_onLink_iff]

/-- The first virtual host with the routes it comes with. -/
def vhost1 : SrInstance where
  ifList := [⟨"eth1".toList, generateEthernetAddr 1, 0x32000064, 0, 0, 0, 0⟩,
    ⟨"eth2".toList, generateEthernetAddr 2, 0x0100000a, 0, 0, 0, 0⟩,
    ⟨"eth3".toList, generateEthernetAddr 3, 0x0102000a, 0, 0, 0, 0⟩]
  routingTable := [⟨0x01000064, 0x01000064, 0xffffffff, "eth1".toList, 0⟩,
    ⟨0x00000064, 0, 0x00ffffff, "eth1".toList, 0⟩,
    ⟨0x0000000a, 0, 0x00ffffff, "eth2".toList, 0⟩,
    ⟨0x0002000a, 0, 0x00ffffff, "eth3".toList, 0⟩,
    ⟨0x0001000a, 0x0200000a, 0x00ffffff, "eth2".toList, 0⟩,
    ⟨0x000000c8, 0x0200000a, 0x00ffffff, "eth2".toList, 0⟩,
    ⟨0x000064c8, 0x0202000a, 0x00ffffff, "eth3".toList, 0⟩]
  uninit := fun _ => 0
  behind := fun _ => 0

/-- A datagram from the client, 100.0.0.1, to the second virtual host, 10.0.0.2. -/
def neighborFrame : Frame :=
  [0x01, 0x01, 0x01, 0x01, 0x01, 0x01, 0x04, 0x04, 0x04, 0x04, 0x04, 0x04, 0x08, 0x00,
    0x45, 0x00, 0x00, 0x1c, 0x00, 0x01, 0x00, 0x00, 0x3f, 0x11, 0x0d, 0xce,
    0x64, 0x00, 0x00, 0x01, 0x0a, 0x00, 0x00, 0x02,
    0x00, 0x35, 0x00, 0x35, 0x00, 0x08, 0x00, 0x00]

/-- **A datagram for a neighbour makes the router ask for 0.0.0.0.** -/
theorem neighborFrame_asks_zero : isPacketValid neighborFrame = true ∧
    ∃ a, (srHandleIpPacket vhost1 10 1 neighborFrame "eth1".toList srArpcacheInit).1 = some a ∧
      a.rtMatch.gw = 0 ∧ a.ipDst = 0x0200000a ∧
        a.calls = [.lookup 0, .queuereq 0] ∧ ¬ a.OnLink := by
  rw [srHandleIpPacket_asked]
  exact ⟨by decide, _, rfl, by decide, by decide, by decide, by decide⟩

end Redes.Reenvio
