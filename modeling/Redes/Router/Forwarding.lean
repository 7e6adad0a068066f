import Redes.Router.ArpLedger

/-!
# Forwarding IP packets

`sr_handle_ip_packet` of `sr_router.c`.  A packet in transit leaves at once if the
hardware address of its next hop is known, through the interface of the route that
matched.  If not, it is queued with the interface it came from, and leaves through the
interface that has the target address of the reply.

## Main definitions

* `srForwardPacket`, `srSendIcmp` — what is sent at once.
* `srHandleIpPacket` — the handler.
* `Transit` — the packets that are forwarded.
* `MissThenReply` — a packet that waited for a reply.

## Main results

* `srHandleIpPacket_hit`, `srHandleIpPacket_miss` — the two ways to forward.
* `MissThenReply.sent_iff` — what is sent when the reply comes.
* `fast_slow_agree_iff` — when the two ways do the same.
-/

namespace Redes

open Bytes

/-! ### The handler -/

/-- What `sr_forward_packet` makes of the packet, in its buffer; `none` if there is no such
interface. -/
def forwardedFrame (sr : SrInstance) (packet : Frame) (macDest : Mac) (interface : IfName) :
    Option Frame :=
  (srGetInterface sr.ifList interface).map fun outIface => readdressed outIface.addr macDest packet

/-- `sr_forward_packet`. -/
def srForwardPacket (sr : SrInstance) (packet : Frame) (macDest : Mac) (interface : IfName)
    (st : ArpState) : ArpState :=
  match forwardedFrame sr packet macDest interface with
  | none => st
  | some frame => st.note (.output frame interface)

/-- `sr_send_icmp`: the packet goes back to where it came from, with another type and code. -/
def srSendIcmp (packet : Frame) (icmpType icmpCode : UInt8) (interface : IfName)
    (st : ArpState) : ArpState :=
  let frame := store packet 6 (etherDhost packet)
  let frame := store frame 0 (etherShost packet)
  let frame := store frame 26 (bytes32 (ipDst packet))
  let frame := store frame 30 (bytes32 (ipSrc packet))
  let frame := store frame 34 [icmpType, icmpCode]
  let frame := store frame 36 (bytes16 (icmpCksum frame (packet.length - 34)))
  let frame := store frame 24 (bytes16 (ipCksum frame))
  st.note (.output frame interface)

/-- The packet with its TTL decremented and its checksum recomputed. -/
def decremented (packet : Frame) : Frame :=
  let packet := store packet 22 [ipTtl packet - 1]
  store packet 24 (bytes16 (ipCksum packet))

/-- The next hop on a route: the gateway, or the destination on a connected network. -/
def nextHop (rtMatch : SrRt) (ipDst : IpAddr) : IpAddr :=
  if rtMatch.gw = 0 then ipDst else rtMatch.gw

/-- The end of `sr_handle_ip_packet` for a packet in transit, which stands there twice, for
ICMP packets and for others. -/
def forwardTransit (sr : SrInstance) (now : ℤ) (fuel : ℕ) (packet : Frame) (interface : IfName)
    (rtMatch : SrRt) (arpIpDest : IpAddr) (st : ArpState) : Except Halt ArpState :=
  let packet := decremented packet
  match srArpcacheLookup st.entries arpIpDest with
  | some arpEntry => .ok (srForwardPacket sr packet arpEntry.mac rtMatch.interface st)
  | none =>
      -- queued with the name of the interface the packet came from
      let (st, addr) := srArpcacheQueuereq arpIpDest packet interface st
      handleArpreq sr now fuel addr st

/-- `sr_handle_ip_packet`; `pwospf` is what it does with an OSPF packet. -/
def srHandleIpPacket (sr : SrInstance) (now : ℤ) (fuel : ℕ)
    (pwospf : Frame → Option SrIf → ArpState → Except Halt ArpState) (packet : Frame)
    (interface : IfName) (st : ArpState) : Except Halt ArpState :=
  if packet.length < 14 + 20 then .ok st
  else if ipSum packet ≠ ipCksum packet then .ok st
  else if ipP packet = ipProtocolOspfv2 then
    pwospf packet (srGetInterface sr.ifList interface) st
  else
    let isForMe := sr.ifList.any fun i => i.ip = ipDst packet
    if ipTtl packet ≤ 1 ∧ isForMe = false then
      srSendIcmpErrorPacket sr (handleArpreq sr now fuel) 11 0 (ipSrc packet) packet 0 st
    else if isForMe = true then
      if ipP packet = ipProtocolIcmp then
        if load8 packet 34 = 8 ∧ load8 packet 35 = 0 then
          .ok (srSendIcmp packet 0 0 interface st)
        else .ok st
      else srSendIcmpErrorPacket sr (handleArpreq sr now fuel) 3 3 (ipSrc packet) packet 0 st
    else
      match srFindRtEntry sr.routingTable (ipDst packet) with
      | none => srSendIcmpErrorPacket sr (handleArpreq sr now fuel) 3 0 (ipSrc packet) packet 0 st
      | some rtMatch =>
          forwardTransit sr now fuel packet interface rtMatch (nextHop rtMatch (ipDst packet)) st

/-! ### Packets in transit -/

/-- A packet that is forwarded along a route: a valid IP packet, but no OSPF packet, for
another host and with hops to go. -/
structure Transit (sr : SrInstance) (packet : Frame) (rtMatch : SrRt) : Prop where
  /-- The frame passes the check of received frames. -/
  valid : isPacketValid packet = true
  /-- It holds an IP packet. -/
  type : etherType packet = htons ethertypeIp
  /-- The packet is no OSPF packet. -/
  proto : ipP packet ≠ ipProtocolOspfv2
  /-- Its destination is no address of the router. -/
  dst : ∀ i ∈ sr.ifList, i.ip ≠ ipDst packet
  /-- It has hops to go. -/
  ttl : 2 ≤ ipTtl packet
  /-- It has a route. -/
  route : srFindRtEntry sr.routingTable (ipDst packet) = some rtMatch

/-- A valid IP packet has its header, with the right checksum. -/
theorem isPacketValid_ip {packet : Frame} (hvalid : isPacketValid packet = true)
    (htype : etherType packet = htons ethertypeIp) :
    34 ≤ packet.length ∧ ipCksum packet = ipSum packet := by
  have harp : htons ethertypeIp ≠ htons ethertypeArp := by decide
  unfold isPacketValid at hvalid
  rw [if_neg (by rw [htype]; exact harp), if_pos htype] at hvalid
  by_cases hlen : 14 + 20 ≤ packet.length
  · rw [if_pos hlen] at hvalid
    by_cases hsum : ipCksum packet = ipSum packet
    · exact ⟨hlen, hsum⟩
    · rw [if_neg hsum] at hvalid
      cases hvalid
  · rw [if_neg hlen] at hvalid
    cases hvalid

section Transit

variable {sr : SrInstance} {now : ℤ} {fuel : ℕ}
  {pwospf : Frame → Option SrIf → ArpState → Except Halt ArpState} {packet : Frame}
  {interface : IfName} {rtMatch : SrRt} {st : ArpState}

/-- A packet in transit gets to the end of `sr_handle_ip_packet`. -/
theorem Transit.handle_eq (h : Transit sr packet rtMatch) :
    srHandleIpPacket sr now fuel pwospf packet interface st =
      forwardTransit sr now fuel packet interface rtMatch (nextHop rtMatch (ipDst packet)) st := by
  obtain ⟨hlen, hsum⟩ := isPacketValid_ip h.valid h.type
  have hmine : (sr.ifList.any fun i => i.ip = ipDst packet) = false := by
    rw [List.any_eq_false]
    intro i hi
    simpa using h.dst i hi
  have httl : ¬ ipTtl packet ≤ 1 := by
    intro hle
    exact absurd (UInt8.le_trans h.ttl hle) (by decide)
  unfold srHandleIpPacket
  rw [if_neg (by omega), if_neg (by simp [hsum]), if_neg h.proto]
  simp only [hmine, httl, false_and, if_false, Bool.false_eq_true, h.route]

/-- **On a hit the packet is sent** through the interface of the route. -/
theorem srHandleIpPacket_hit (h : Transit sr packet rtMatch) {e : ArpEntry}
    (hhit : srArpcacheLookup st.entries (nextHop rtMatch (ipDst packet)) = some e) :
    srHandleIpPacket sr now fuel pwospf packet interface st =
      .ok (srForwardPacket sr (decremented packet) e.mac rtMatch.interface st) := by
  rw [h.handle_eq]
  unfold forwardTransit
  simp only [hhit]

/-- **On a miss it is queued** with the interface it came from. -/
theorem srHandleIpPacket_miss (h : Transit sr packet rtMatch)
    (hmiss : srArpcacheLookup st.entries (nextHop rtMatch (ipDst packet)) = none) :
    srHandleIpPacket sr now fuel pwospf packet interface st =
      handleArpreq sr now fuel (st.queue.reqFor (nextHop rtMatch (ipDst packet))).addr
        (srArpcacheQueuereq (nextHop rtMatch (ipDst packet)) (decremented packet) interface
          st).1 := by
  rw [h.handle_eq]
  unfold forwardTransit
  simp only [hmiss]
  rw [queuereq_addr]

@[simp] theorem length_decremented (packet : Frame) :
    (decremented packet).length = packet.length := by
  simp [decremented]

theorem Transit.decremented_ne_nil (h : Transit sr packet rtMatch) : decremented packet ≠ [] := by
  have hlen := (isPacketValid_ip h.valid h.type).1
  refine List.ne_nil_of_length_pos ?_
  rw [length_decremented]
  omega

end Transit

/-! ### A packet that waits for a reply -/

/-- One step of the ARP cache. -/
def ArpStep (st st' : ArpState) : Prop := ∃ c, arpStep c st = .ok st'

/-- What holds in every run, whether packets are dropped or not. -/
structure ArpInv (st : ArpState) : Prop where
  /-- The history is in order. -/
  records : ArpRecords st
  /-- No packet is in two situations. -/
  balance_le : ∀ id, balance st id ≤ 0

theorem ArpInv.step {st st' : ArpState} (h : ArpInv st) (hstep : ArpStep st st') : ArpInv st' := by
  obtain ⟨c, hc⟩ := hstep
  exact ⟨arpStep_records h.records hc, fun id => (arpStep_balance_le hc id).trans (h.balance_le id)⟩

theorem arpInv_of_run {P : ArpCall → ArpState → Prop} {st : ArpState} (h : ArpRun P st) :
    ArpInv st := by
  induction h with
  | init => exact ⟨arpRecords_init, fun id => by simp [balance, placed, sentTimes, gaveUpTimes,
      srArpcacheInit]⟩
  | step _ _ hstep ih => exact ih.step ⟨_, hstep⟩

/-- A packet in transit that misses in the cache, is queued, and still waits when an ARP reply
with the mapping of its next hop is received.  Between the two the cache can take any
steps. -/
structure MissThenReply (sr : SrInstance) (now : ℤ) (fuel : ℕ)
    (pwospf : Frame → Option SrIf → ArpState → Except Halt ArpState) (packet : Frame)
    (interface : IfName) (rtMatch : SrRt) (reply : Frame) (st st₁ st₂ : ArpState) : Prop where
  /-- The packet is forwarded along a route. -/
  transit : Transit sr packet rtMatch
  /-- It comes at some point of a run. -/
  start : ArpRun (fun _ _ => True) st
  /-- Its next hop is not in the cache. -/
  miss : srArpcacheLookup st.entries (nextHop rtMatch (ipDst packet)) = none
  /-- The packet is handled. -/
  handled : srHandleIpPacket sr now fuel pwospf packet interface st = .ok st₁
  /-- The run goes on. -/
  later : Relation.ReflTransGen ArpStep st₁ st₂
  /-- The packet still waits. -/
  waits : ∃ r ∈ st₂.queue.reqs, ∃ p ∈ r.packets, p.id = st.nextId
  /-- A reply is received. -/
  op : arOp reply = arpOpReply
  /-- It comes from the next hop. -/
  sip : arSip reply = nextHop rtMatch (ipDst packet)

section Reply

variable {sr sr' : SrInstance} {now now' : ℤ} {fuel : ℕ}
  {pwospf : Frame → Option SrIf → ArpState → Except Halt ArpState} {packet reply : Frame}
  {interface : IfName} {rtMatch : SrRt} {st st₁ st₂ st₃ : ArpState}

/-- While it waits the packet is on the request for its next hop, with its TTL decremented
and the interface it came from, and has not been sent. -/
theorem MissThenReply.waiting (h : MissThenReply sr now fuel pwospf packet interface rtMatch
    reply st st₁ st₂) :
    ArpInv st₂ ∧ sentTimes st₂ st.nextId = 0 ∧
    ∃ addr, .queued ⟨st.nextId, decremented packet, interface⟩ addr
      (nextHop rtMatch (ipDst packet)) ∈ st₂.trace := by
  have hinv := arpInv_of_run h.start
  have hne := h.transit.decremented_ne_nil
  have hhandled := h.handled
  rw [srHandleIpPacket_miss h.transit h.miss] at hhandled
  -- the packet is queued, and its request handled
  have hinv₁ : ArpInv st₁ := by
    refine ⟨handleArpreq_records (hinv.records.queuereq _ _ hne) hhandled, ?_⟩
    intro id
    rw [handleArpreq_balance hhandled, balance_queuereq]
    exact hinv.balance_le id
  have hqueued : ∃ addr, .queued ⟨st.nextId, decremented packet, interface⟩ addr
      (nextHop rtMatch (ipDst packet)) ∈ st₁.trace := by
    refine ⟨(st.queue.request (nextHop rtMatch (ipDst packet))).2,
      handleArpreq_mem_trace hhandled ?_⟩
    unfold srArpcacheQueuereq
    simp only [hne, if_false]
    exact List.mem_cons_self
  have hlater : ArpInv st₂ ∧ ∃ addr, .queued ⟨st.nextId, decremented packet, interface⟩ addr
      (nextHop rtMatch (ipDst packet)) ∈ st₂.trace := by
    have hrun := h.later
    clear h hhandled
    induction hrun with
    | refl => exact ⟨hinv₁, hqueued⟩
    | tail _ hstep ih =>
      obtain ⟨addr, hmem⟩ := ih.2
      obtain ⟨c, hc⟩ := hstep
      exact ⟨ih.1.step ⟨c, hc⟩, addr, arpStep_mem_trace hc hmem⟩
  obtain ⟨hinv₂, addr, hmem⟩ := hlater
  refine ⟨hinv₂, ?_, addr, hmem⟩
  obtain ⟨r, hr, p, hp, hid⟩ := h.waits
  have hplaced : 0 < placed st₂ st.nextId :=
    List.countP_pos_iff.mpr ⟨p, List.mem_flatMap.mpr ⟨r, hr, hp⟩, by simp [hid]⟩
  have hbal := hinv₂.balance_le st.nextId
  have hlt : st.nextId < st₂.nextId := hinv₂.records.queued_lt _ _ _ hmem
  unfold balance at hbal
  rw [if_pos hlt] at hbal
  omega

/-- It is the only packet with its number. -/
theorem MissThenReply.eq_of_id (h : MissThenReply sr now fuel pwospf packet interface rtMatch
    reply st st₁ st₂) {r : ArpReq} (hr : r ∈ st₂.queue.reqs) {p : QueuedPacket}
    (hp : p ∈ r.packets) (hid : p.id = st.nextId) :
    p = ⟨st.nextId, decremented packet, interface⟩ ∧ r.ip = nextHop rtMatch (ipDst packet) := by
  obtain ⟨hinv, -, addr, hmem⟩ := h.waiting
  obtain ⟨hpeq, -, hip⟩ := hinv.records.queued_unique _ _ _ _ _ _
    (hinv.records.pending r hr p hp) hmem hid
  exact ⟨hpeq, hip⟩

/-- **When the reply comes the packet is sent** through the interface that has the target
address of the reply, with the addresses of that interface and of the sender. -/
theorem MissThenReply.sent_iff (h : MissThenReply sr now fuel pwospf packet interface rtMatch
    reply st st₁ st₂) (hreplied : srHandleArpPacket sr' now' reply st₂ = .ok st₃)
    {frame : Frame} {iface : IfName} :
    .sent st.nextId frame iface ∈ st₃.trace ↔
      ∃ i, srGetInterfaceGivenIp sr'.ifList (arTip reply) = .ok (some i) ∧ iface = i.name ∧
        frame = readdressed i.addr (arSha reply) (decremented packet) := by
  obtain ⟨hinv, hnot, -⟩ := h.waiting
  obtain ⟨r, hr, p, hp, hid⟩ := h.waits
  obtain ⟨hpeq, hip⟩ := h.eq_of_id hr hp hid
  have hfind : st₂.queue.find (arSip reply) = some r :=
    ArpQueue.find_eq_some.mpr ⟨hr, hip.trans h.sip.symm⟩
  have hold : ∀ f n, .sent st.nextId f n ∉ st₂.trace := by
    intro f n hmem
    have hpos : 0 < st₂.trace.countP (ArpEvent.IsSent st.nextId) :=
      List.countP_pos_iff.mpr ⟨_, hmem, by simp [ArpEvent.IsSent]⟩
    unfold sentTimes at hnot
    omega
  have hop : arpOpReply ≠ arpOpRequest := by decide
  have hgiven : srGetInterfaceGivenIp sr'.ifList (arTip reply) =
      .ok (findInterfaceIp sr'.ifList (arTip reply)) := if_neg (arTip_ne_zero hreplied)
  rw [hgiven]
  simp only [Except.ok.injEq]
  rcases srHandleArpPacket_cases hreplied with ⟨hnot', -⟩ | ⟨i, hreq, -, -⟩ | ⟨hnone, -⟩ |
    ⟨req, i, -, hfind', hif, rfl⟩
  · exact absurd h.op hnot'
  · rw [h.op] at hreq
    exact absurd hreq hop
  · rw [hfind] at hnone
    cases hnone
  · rw [hfind] at hfind'
    cases hfind'
    have hi := hif (List.ne_nil_of_mem hp)
    rw [trace_replied, List.mem_append, List.mem_reverse, List.mem_map, List.mem_cons]
    constructor
    · rintro (⟨q, hq, heq⟩ | heq | hmem)
      · injection heq with hqid hframe hname
        obtain ⟨rfl, -⟩ := h.eq_of_id hr hq hqid
        exact ⟨i, hi, hname.symm, hframe.symm⟩
      · cases heq
      · exact absurd hmem (hold frame iface)
    · rintro ⟨j, hj, rfl, rfl⟩
      rw [hi] at hj
      cases hj
      rw [hpeq] at hp
      exact .inl ⟨_, hp, rfl⟩

/-- A frame that has its addresses is different for different source addresses. -/
theorem readdressed_inj {shost shost' dhost : Mac} {buf : Frame} (hlen : 12 ≤ buf.length)
    (h : readdressed shost dhost buf = readdressed shost' dhost buf) : shost = shost' := by
  apply Mac.eq_of_bytes
  rw [← etherShost_readdressed hlen, h, etherShost_readdressed hlen]

/-- When the reply is handled, by the router as it is then, what is sent is what would have been
sent on a hit in `stHit`, and until then the packet was recorded with the interface of its
route. -/
def FastSlowAgree (sr : SrInstance) (now : ℤ) (fuel : ℕ)
    (pwospf : Frame → Option SrIf → ArpState → Except Halt ArpState) (packet : Frame)
    (interface : IfName) (rtMatch : SrRt) (sr' : SrInstance) (now' : ℤ) (reply : Frame) (id : ℕ)
    (st₂ stHit : ArpState) : Prop :=
  (∃ st₃ frame iface, srHandleArpPacket sr' now' reply st₂ = .ok st₃ ∧
    .sent id frame iface ∈ st₃.trace ∧
    srHandleIpPacket sr now fuel pwospf packet interface stHit =
      .ok (stHit.note (.output frame iface))) ∧
  ∀ r ∈ st₂.queue.reqs, ∀ p ∈ r.packets, p.id = id → p.iface = rtMatch.interface

/-- **The two ways to forward do the same exactly if the packet came in through the interface
of its route and the reply is for an address of this interface, with the hardware address
that the name of the interface stands for.** -/
theorem fast_slow_agree_iff (h : MissThenReply sr now fuel pwospf packet interface rtMatch
    reply st st₁ st₂) {stHit : ArpState} {e : ArpEntry}
    (hhit : srArpcacheLookup stHit.entries (nextHop rtMatch (ipDst packet)) = some e)
    (hmac : e.mac = arSha reply) :
    FastSlowAgree sr now fuel pwospf packet interface rtMatch sr' now' reply st.nextId st₂
        stHit ↔
      interface = rtMatch.interface ∧ ∃ i outIface,
        srGetInterfaceGivenIp sr'.ifList (arTip reply) = .ok (some i) ∧
          srGetInterface sr.ifList rtMatch.interface = some outIface ∧
            i.name = rtMatch.interface ∧ i.addr = outIface.addr := by
  unfold FastSlowAgree
  have hlen : 12 ≤ (decremented packet).length := by
    have := (isPacketValid_ip h.transit.valid h.transit.type).1
    rw [length_decremented]
    omega
  -- what is recorded with the packet is where it came from
  have hqueued : (∀ r ∈ st₂.queue.reqs, ∀ p ∈ r.packets, p.id = st.nextId →
      p.iface = rtMatch.interface) ↔ interface = rtMatch.interface := by
    constructor
    · intro hall
      obtain ⟨r, hr, p, hp, hid⟩ := h.waits
      have hiface := hall r hr p hp hid
      rwa [(h.eq_of_id hr hp hid).1] at hiface
    · intro heq r hr p hp hid
      rw [(h.eq_of_id hr hp hid).1]
      exact heq
  rw [hqueued, and_comm, srHandleIpPacket_hit h.transit hhit, hmac]
  refine and_congr_right ?_
  intro _
  unfold srForwardPacket forwardedFrame
  constructor
  · rintro ⟨st₃, frame, iface, hreplied, hsent, hout⟩
    obtain ⟨i, hi, rfl, rfl⟩ := (h.sent_iff hreplied).mp hsent
    cases hif : srGetInterface sr.ifList rtMatch.interface with
    | none =>
      rw [hif] at hout
      injection hout with hout
      have hlen := congrArg (fun s => s.trace.length) hout
      simp at hlen
    | some outIface =>
      rw [hif] at hout
      injection hout with hout
      have hhead : ArpEvent.output _ _ :: stHit.trace = .output _ _ :: stHit.trace :=
        congrArg ArpState.trace hout
      injection hhead with hhead
      injection hhead with hframe hname
      exact ⟨i, outIface, hi, rfl, hname.symm, (readdressed_inj hlen hframe).symm⟩
  · rintro ⟨i, outIface, hi, hif, hname, haddr⟩
    obtain ⟨r, hr, p, hp, hid⟩ := h.waits
    have hip := (h.eq_of_id hr hp hid).2
    have hfind : st₂.queue.find (arSip reply) = some r :=
      ArpQueue.find_eq_some.mpr ⟨hr, hip.trans h.sip.symm⟩
    have hreplied := srHandleArpPacket_reply now' h.op hi hfind
    refine ⟨_, _, i.name, hreplied, (h.sent_iff hreplied).mpr ⟨i, hi, rfl, rfl⟩, ?_⟩
    rw [hif, hname, haddr]
    rfl

end Reply

/-! ### A datagram for the gateway -/

/-- The route to the gateway 10.0.1.2. -/
def gatewayRoute : SrRt := ⟨0x0000000a, 0x0201000a, 0x0000ffff, "eth1".toList, 0⟩

/-- OSPF packets are dropped. -/
def dropOspf (_ : Frame) (_ : Option SrIf) (st : ArpState) : Except Halt ArpState := .ok st

/-- The gateway is in the cache. -/
def gatewayKnown : ArpState :=
  { srArpcacheInit with entries := [⟨generateEthernetAddr 2, 0x0201000a, 10, true⟩] }

/-- A datagram that leaves through the interface it came from waits for the gateway. -/
theorem localFrame_missThenReply : ∃ st₁, MissThenReply gatewayRouter 10 1 dropOspf localFrame
    "eth1".toList gatewayRoute (gatewayArp 2) srArpcacheInit st₁ st₁ :=
  ⟨_, ⟨by decide, by decide, by decide, by decide, by decide, by decide⟩, .init, by decide, rfl,
    .refl, ⟨_, List.mem_cons_self, _, List.mem_cons_self, rfl⟩, by decide, by decide⟩

/-- It is sent as it would have been. -/
theorem localFrame_agree : ∃ st₁, FastSlowAgree gatewayRouter 10 1 dropOspf localFrame
    "eth1".toList gatewayRoute gatewayRouter 11 (gatewayArp 2) 0 st₁ gatewayKnown := by
  obtain ⟨st₁, h⟩ := localFrame_missThenReply
  exact ⟨st₁, (fast_slow_agree_iff h (e := ⟨generateEthernetAddr 2, 0x0201000a, 10, true⟩)
    (by decide) (by decide)).mpr ⟨rfl, _, _, rfl, rfl, by decide, by decide⟩⟩

/-- A router with a second interface, 10.0.2.1. -/
def twoPortRouter : SrInstance :=
  { gatewayRouter with
    ifList := gatewayRouter.ifList ++
      [⟨"eth2".toList, generateEthernetAddr 3, 0x0102000a, 0x00ffffff, 5, 0, 0⟩] }

/-- A datagram from 10.0.2.7 to 10.0.4.5. -/
def crossFrame : Frame :=
  [0x03, 0x03, 0x03, 0x03, 0x03, 0x03, 0x04, 0x04, 0x04, 0x04, 0x04, 0x04, 0x08, 0x00,
    0x45, 0x00, 0x00, 0x1c, 0x00, 0x01, 0x00, 0x00, 0x3f, 0x11, 0x61, 0xc5,
    0x0a, 0x00, 0x02, 0x07, 0x0a, 0x00, 0x04, 0x05,
    0x00, 0x35, 0x00, 0x35, 0x00, 0x08, 0x00, 0x00]

/-- **A datagram from the one interface that leaves through the other waits with the name of
the one.** -/
theorem crossFrame_not_agree : ∃ st₁,
    MissThenReply twoPortRouter 10 1 dropOspf crossFrame "eth2".toList gatewayRoute (gatewayArp 2)
      srArpcacheInit st₁ st₁ ∧
    ¬ FastSlowAgree twoPortRouter 10 1 dropOspf crossFrame "eth2".toList gatewayRoute twoPortRouter
      11 (gatewayArp 2) 0 st₁ gatewayKnown := by
  have h : ∃ st₁, MissThenReply twoPortRouter 10 1 dropOspf crossFrame "eth2".toList
      gatewayRoute (gatewayArp 2) srArpcacheInit st₁ st₁ :=
    ⟨_, ⟨by decide, by decide, by decide, by decide, by decide, by decide⟩, .init, by decide,
      rfl, .refl, ⟨_, List.mem_cons_self, _, List.mem_cons_self, rfl⟩, by decide, by decide⟩
  obtain ⟨st₁, h⟩ := h
  refine ⟨st₁, h, ?_⟩
  intro hagree
  obtain ⟨r, hr, p, hp, hid⟩ := h.waits
  have hiface := hagree.2 r hr p hp hid
  rw [(h.eq_of_id hr hp hid).1] at hiface
  exact absurd hiface (by decide)

end Redes
