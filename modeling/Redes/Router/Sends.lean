import Redes.Lib.Logged
import Redes.Router.Acceptable

/-!
# What the router sends

The functions that handle ARP and IP packets and the timer of the ARP cache, with the frames
that they pass to `sr_send_packet`.  A frame that is sent before the program fails, or before
a recursion that has no end, is among them.  All of them are accepted, and so are the packets
that wait, but for replies to echo requests that were not for the hardware address of the
interface.

## Main definitions

* `Sending` — a computation that passes frames to `sr_send_packet`.
* `handleArpreqOut`, `srArpcacheTimeoutOut`, `srHandleArpPacketOut`, `srHandleIpPacketOut` —
  the functions with what they send.
* `ArpState.outgoing` — what has been sent, in the history.
* `PendingValid` — the packets that wait are valid.
* `EchoForMe` — the echo requests that are answered.

## Main results

* `ending_handleArpreqOut`, … — the endings are those of the functions.
* `tells_handleArpreqOut`, … — the history has gained what they send.
* `safe_handleArpreqOut`, … — what they send is accepted.
-/

namespace Redes

open Bytes Logged

/-- A computation that passes frames to `sr_send_packet`, or fails. -/
abbrev Sending (α : Type) := Logged Outgoing Halt α

/-- A frame is passed to `sr_send_packet`. -/
def ArpState.send (st : ArpState) (frame : Frame) (iface : IfName) : Sending ArpState :=
  emit [⟨frame, iface⟩] (st.note (.output frame iface))

/-! ### ARP requests -/

/-- `sr_send_icmp_error_packet`, with what it sends. -/
def srSendIcmpErrorPacketOut (sr : SrInstance) (handle : ℕ → ArpState → Sending ArpState)
    (type code : UInt8) (ipDst : IpAddr) (buf : Frame) (off : ℕ) (st : ArpState) :
    Sending ArpState :=
  match icmpErrorRoute sr ipDst with
  | none => pure st
  | some (hop, outIface) =>
      let frame := icmpErrorFrame sr type code outIface buf off
      match srArpcacheLookup st.entries hop with
      | some e => st.send (store frame 0 e.mac.bytes) outIface.name
      | none =>
          let (st, addr) := srArpcacheQueuereq hop frame outIface.name st
          handle addr st

/-- One turn of the loop of `host_unreachable`, with what it sends. -/
def unreachablePacketOut (sr : SrInstance) (handle : ℕ → ArpState → Sending ArpState) (addr : ℕ)
    (st : ArpState) (p : QueuedPacket) : Sending ArpState := do
  let st ← srSendIcmpErrorPacketOut sr handle 3 1 (queuedIpSrc sr p.buf) p.buf 14
    (st.note (.gaveUp p.id addr))
  if st.queue.deref addr = none then halt .useAfterFree else pure st

/-- `handle_arpreq`, with what it sends: ARP requests from every interface, or what
`host_unreachable` sends. -/
def handleArpreqOut (sr : SrInstance) (now : ℤ) : ℕ → ℕ → ArpState → Sending ArpState
  | 0, _, _ => halt .outOfFuel
  | fuel + 1, addr, st =>
      match st.queue.deref addr with
      | none => halt .useAfterFree
      | some req =>
          if 1 < now - req.sent then
            if 5 ≤ req.timesSent then do
              let st ← req.packets.foldlM
                (unreachablePacketOut sr (handleArpreqOut sr now fuel) req.addr) st
              pure (srArpreqDestroy addr st)
            else
              emit (sr.ifList.map fun i => ⟨arpRequestFrame i req.ip, i.name⟩)
                (resent sr now req st)
          else pure st

/-- The loop of `sr_arpcache_sweepreqs`, with what it sends. -/
def sweepreqsLoopOut (sr : SrInstance) (now : ℤ) (fuel : ℕ) :
    ℕ → Option ℕ → ArpState → Sending ArpState
  | _, none, st => pure st
  | 0, some _, _ => halt .outOfFuel
  | n + 1, some currReq, st =>
      match nextAddr st.queue.reqs currReq with
      | none => halt .useAfterFree
      | some nextReq => do
          let st ← handleArpreqOut sr now fuel currReq st
          sweepreqsLoopOut sr now fuel n nextReq st

/-- One turn of the loop of `sr_arpcache_timeout`, with what it sends. -/
def srArpcacheTimeoutOut (sr : SrInstance) (now : ℤ) (fuel : ℕ) (st : ArpState) :
    Sending ArpState :=
  let st := { st with entries := expireEntries now st.entries }
  sweepreqsLoopOut sr now fuel fuel (st.queue.reqs.head?.map ArpReq.addr) st

/-! ### Received packets -/

/-- `sr_handle_arp_packet`, with what it sends. -/
def srHandleArpPacketOut (sr : SrInstance) (now : ℤ) (packet : Frame) (st : ArpState) :
    Sending ArpState :=
  match srGetInterfaceGivenIp sr.ifList (arTip packet) with
  | .error e => halt e
  | .ok myInterface =>
      if arOp packet = arpOpRequest then
        match myInterface with
        | none => pure st
        | some i => (afterInsert now packet st).send (arpReplyFrame packet i) i.name
      else if arOp packet = arpOpReply then
        match st.queue.find (arSip packet), myInterface with
        | none, _ => pure (afterInsert now packet st)
        | some req, none =>
            if req.packets = [] then pure (srArpreqDestroy req.addr (afterInsert now packet st))
            else halt .nullPointer
        | some req, some i =>
            emit (req.packets.map fun p => ⟨readdressed i.addr (arSha packet) p.buf, i.name⟩)
              (srArpreqDestroy req.addr (srArpReplySendPendingPackets req.packets i.addr
                (arSha packet) i (afterInsert now packet st)))
      else pure st

/-- `sr_forward_packet`, with what it sends. -/
def srForwardPacketOut (sr : SrInstance) (packet : Frame) (macDest : Mac) (interface : IfName)
    (st : ArpState) : Sending ArpState :=
  match forwardedFrame sr packet macDest interface with
  | none => pure st
  | some frame => st.send frame interface

/-- The end of `sr_handle_ip_packet` for a packet in transit, with what it sends. -/
def forwardTransitOut (sr : SrInstance) (now : ℤ) (fuel : ℕ) (packet : Frame)
    (interface : IfName) (rtMatch : SrRt) (arpIpDest : IpAddr) (st : ArpState) :
    Sending ArpState :=
  let packet := decremented packet
  match srArpcacheLookup st.entries arpIpDest with
  | some arpEntry => srForwardPacketOut sr packet arpEntry.mac rtMatch.interface st
  | none =>
      let (st, addr) := srArpcacheQueuereq arpIpDest packet interface st
      handleArpreqOut sr now fuel addr st

/-- `sr_handle_ip_packet` for packets that are no OSPF packets, with what it sends. -/
def srHandleOtherPacketOut (sr : SrInstance) (now : ℤ) (fuel : ℕ) (packet : Frame)
    (interface : IfName) (st : ArpState) : Sending ArpState :=
  let error type code := srSendIcmpErrorPacketOut sr (handleArpreqOut sr now fuel) type code
    (ipSrc packet) packet 0 st
  let isForMe := sr.ifList.any fun i => i.ip = ipDst packet
  if ipTtl packet ≤ 1 ∧ isForMe = false then error 11 0
  else if isForMe = true then
    if ipP packet = ipProtocolIcmp then
      if load8 packet 34 = 8 ∧ load8 packet 35 = 0 then
        st.send (icmpReplyFrame packet 0 0) interface
      else pure st
    else error 3 3
  else
    match srFindRtEntry sr.routingTable (ipDst packet) with
    | none => error 3 0
    | some rtMatch =>
        forwardTransitOut sr now fuel packet interface rtMatch (nextHop rtMatch (ipDst packet)) st

/-- `sr_handle_ip_packet`, with what it sends, in a larger state that `lift` makes of the ARP
cache; `pwospf` is what it does with an OSPF packet. -/
def srHandleIpPacketOut {σ : Type} (sr : SrInstance) (now : ℤ) (fuel : ℕ)
    (pwospf : Frame → Option SrIf → Sending σ) (lift : ArpState → σ) (packet : Frame)
    (interface : IfName) (st : ArpState) : Sending σ :=
  if packet.length < 14 + 20 then pure (lift st)
  else if ipSum packet ≠ ipCksum packet then pure (lift st)
  else if ipP packet = ipProtocolOspfv2 then pwospf packet (srGetInterface sr.ifList interface)
  else (srHandleOtherPacketOut sr now fuel packet interface st).map lift

/-! ### The endings are those of the functions -/

section Endings

variable (sr : SrInstance) (now : ℤ) (fuel : ℕ)

theorem ending_srSendIcmpErrorPacketOut (handle : ℕ → ArpState → Sending ArpState)
    (type code : UInt8) (ipDst : IpAddr) (buf : Frame) (off : ℕ) (st : ArpState) :
    (srSendIcmpErrorPacketOut sr handle type code ipDst buf off st).ending =
      srSendIcmpErrorPacket sr (fun addr st => (handle addr st).ending) type code ipDst buf off
        st := by
  rw [srSendIcmpErrorPacket_eq]
  unfold srSendIcmpErrorPacketOut
  cases icmpErrorRoute sr ipDst with
  | none => rfl
  | some hopIf =>
    simp only
    cases srArpcacheLookup st.entries hopIf.1 with
    | some e => rfl
    | none =>
      simp only
      rw [queuereq_addr]

theorem ending_unreachablePacketOut (handle : ℕ → ArpState → Sending ArpState) (addr : ℕ)
    (st : ArpState) (p : QueuedPacket) :
    (unreachablePacketOut sr handle addr st p).ending =
      unreachablePacket sr (fun addr st => (handle addr st).ending) addr st p := by
  unfold unreachablePacketOut unreachablePacket
  rw [ending_bind, ending_srSendIcmpErrorPacketOut]
  congr 1
  funext st'
  split <;> rfl

/-- **The ending of `handle_arpreq`.** -/
theorem ending_handleArpreqOut (addr : ℕ) (st : ArpState) :
    (handleArpreqOut sr now fuel addr st).ending = handleArpreq sr now fuel addr st := by
  induction fuel generalizing addr st with
  | zero => rfl
  | succ fuel ih =>
    have hhandle : (fun addr st => (handleArpreqOut sr now fuel addr st).ending) =
        handleArpreq sr now fuel := by
      funext addr st
      exact ih addr st
    unfold handleArpreqOut handleArpreq
    cases hreq : st.queue.deref addr with
    | none => rfl
    | some req =>
      obtain rfl := (ArpQueue.deref_eq_some.mp hreq).2
      simp only
      split
      · split
        · rw [ending_bind, ending_foldlM]
          unfold hostUnreachable
          simp only [ending_unreachablePacketOut, hhandle]
          rfl
        · rfl
      · rfl

theorem ending_sweepreqsLoopOut (n : ℕ) (curr : Option ℕ) (st : ArpState) :
    (sweepreqsLoopOut sr now fuel n curr st).ending = sweepreqsLoop sr now fuel n curr st := by
  induction n generalizing curr st with
  | zero => cases curr <;> rfl
  | succ n ih =>
    cases curr with
    | none => rfl
    | some addr =>
      unfold sweepreqsLoopOut sweepreqsLoop
      cases nextAddr st.queue.reqs addr with
      | none => rfl
      | some nextReq =>
        simp only
        rw [ending_bind, ending_handleArpreqOut]
        congr 1
        funext st'
        exact ih nextReq st'

theorem ending_srArpcacheTimeoutOut (st : ArpState) :
    (srArpcacheTimeoutOut sr now fuel st).ending = srArpcacheTimeout sr now fuel st :=
  ending_sweepreqsLoopOut sr now fuel fuel _ _

/-- **The ending of `sr_handle_arp_packet`.** -/
theorem ending_srHandleArpPacketOut (packet : Frame) (st : ArpState) :
    (srHandleArpPacketOut sr now packet st).ending = srHandleArpPacket sr now packet st := by
  have hins : (srArpcacheInsert (arSha packet) (arSip packet) now st).2 =
    st.queue.find (arSip packet) := rfl
  unfold srHandleArpPacketOut srHandleArpPacket
  cases srGetInterfaceGivenIp sr.ifList (arTip packet) with
  | error e => rfl
  | ok myInterface =>
    simp only [bind, Except.bind, hins]
    split
    · cases myInterface <;> rfl
    · split
      · cases st.queue.find (arSip packet) with
        | none => cases myInterface <;> rfl
        | some req =>
          cases myInterface with
          | none =>
            simp only
            split <;> rfl
          | some i => rfl
      · rfl

theorem ending_srForwardPacketOut (packet : Frame) (macDest : Mac) (interface : IfName)
    (st : ArpState) : (srForwardPacketOut sr packet macDest interface st).ending =
      .ok (srForwardPacket sr packet macDest interface st) := by
  unfold srForwardPacketOut srForwardPacket
  cases forwardedFrame sr packet macDest interface <;> rfl

theorem ending_forwardTransitOut (packet : Frame) (interface : IfName) (rtMatch : SrRt)
    (arpIpDest : IpAddr) (st : ArpState) :
    (forwardTransitOut sr now fuel packet interface rtMatch arpIpDest st).ending =
      forwardTransit sr now fuel packet interface rtMatch arpIpDest st := by
  unfold forwardTransitOut forwardTransit
  cases srArpcacheLookup st.entries arpIpDest with
  | none => exact ending_handleArpreqOut _ _ _ _ _
  | some e => exact ending_srForwardPacketOut _ _ _ _ _

/-- **The ending of `sr_handle_ip_packet`** for packets that are no OSPF packets. -/
theorem ending_srHandleIpPacketOut {σ : Type} (pwospf : Frame → Option SrIf → Sending σ)
    (pwospf' : Frame → Option SrIf → ArpState → Except Halt ArpState) (lift : ArpState → σ)
    {packet : Frame} (hproto : ipP packet ≠ ipProtocolOspfv2) (interface : IfName)
    (st : ArpState) :
    (srHandleIpPacketOut sr now fuel pwospf lift packet interface st).ending =
      (srHandleIpPacket sr now fuel pwospf' packet interface st).map lift := by
  have hhandle : (fun addr st => (handleArpreqOut sr now fuel addr st).ending) =
      handleArpreq sr now fuel := by
    funext addr st
    exact ending_handleArpreqOut sr now fuel addr st
  have herror : ∀ type code, (srSendIcmpErrorPacketOut sr (handleArpreqOut sr now fuel) type code
      (ipSrc packet) packet 0 st).ending =
        srSendIcmpErrorPacket sr (handleArpreq sr now fuel) type code (ipSrc packet) packet 0
          st := by
    intro type code
    rw [ending_srSendIcmpErrorPacketOut, hhandle]
  unfold srHandleIpPacketOut srHandleIpPacket
  rw [if_neg hproto, if_neg hproto]
  split
  · rfl
  · split
    · rfl
    · rw [ending_map]
      congr 1
      unfold srHandleOtherPacketOut
      simp only
      split
      · exact herror 11 0
      · split
        · split
          · split
            · rw [srSendIcmp_eq]
              rfl
            · rfl
          · exact herror 3 3
        · cases srFindRtEntry sr.routingTable (ipDst packet) with
          | none => exact herror 3 0
          | some rtMatch => exact ending_forwardTransitOut _ _ _ _ _ _ _ _

end Endings

/-! ### The history gains what is sent -/

/-- The frame of an event, if it is one of sending. -/
def ArpEvent.outgoing : ArpEvent → Option Outgoing
  | .sent _ frame iface => some ⟨frame, iface⟩
  | .output frame iface => some ⟨frame, iface⟩
  | _ => none

/-- What has been sent, the last frame first. -/
def ArpState.outgoing (st : ArpState) : List Outgoing := st.trace.filterMap ArpEvent.outgoing

section Tells

@[simp] theorem outgoing_destroy (addr : ℕ) (st : ArpState) :
    (srArpreqDestroy addr st).outgoing = st.outgoing := rfl

@[simp] theorem outgoing_queuereq (ip : IpAddr) (packet : Frame) (iface : IfName)
    (st : ArpState) : (srArpcacheQueuereq ip packet iface st).1.outgoing = st.outgoing := by
  unfold srArpcacheQueuereq
  simp only
  split <;> rfl

/-- The requests that are sent are in the history, the last one first. -/
theorem outgoing_resent (sr : SrInstance) (now : ℤ) (req : ArpReq) (st : ArpState) :
    (resent sr now req st).outgoing =
      (sr.ifList.map fun i => (⟨arpRequestFrame i req.ip, i.name⟩ : Outgoing)).reverse ++
        st.outgoing := by
  have hfold : ∀ (ifs : List SrIf) (st : ArpState),
      (ifs.foldl (fun st i => st.note (.output (arpRequestFrame i req.ip) i.name)) st).outgoing =
        (ifs.map fun i => (⟨arpRequestFrame i req.ip, i.name⟩ : Outgoing)).reverse ++
          st.outgoing := by
    intro ifs
    induction ifs with
    | nil => exact fun _ => rfl
    | cons i ifs ih =>
      intro st
      rw [List.foldl_cons, ih, List.map_cons, List.reverse_cons, List.append_assoc]
      rfl
  exact hfold sr.ifList (st.note (.requested req.addr))

theorem outgoing_sendPending (packets : List QueuedPacket) (dhost shost : Mac) (iface : SrIf)
    (st : ArpState) : (srArpReplySendPendingPackets packets dhost shost iface st).outgoing =
      (packets.map fun p => (⟨readdressed dhost shost p.buf, iface.name⟩ : Outgoing)).reverse ++
        st.outgoing := by
  rw [sendPending_eq]
  unfold ArpState.outgoing
  simp only [List.filterMap_append, ← List.map_reverse, List.filterMap_map]
  congr 1
  exact congrFun (List.filterMap_eq_map (f := fun p : QueuedPacket =>
    (⟨readdressed dhost shost p.buf, iface.name⟩ : Outgoing))) packets.reverse

variable (sr : SrInstance) (now : ℤ) (fuel : ℕ)

theorem tells_send (st : ArpState) (frame : Frame) (iface : IfName) :
    Tells ArpState.outgoing st.outgoing (st.send frame iface) := Tells.emit rfl

theorem tells_srSendIcmpErrorPacketOut {handle : ℕ → ArpState → Sending ArpState}
    (hhandle : ∀ addr st, Tells ArpState.outgoing st.outgoing (handle addr st))
    (type code : UInt8) (ipDst : IpAddr) (buf : Frame) (off : ℕ) (st : ArpState) :
    Tells ArpState.outgoing st.outgoing
      (srSendIcmpErrorPacketOut sr handle type code ipDst buf off st) := by
  unfold srSendIcmpErrorPacketOut
  cases icmpErrorRoute sr ipDst with
  | none => exact .pure rfl
  | some hopIf =>
    simp only
    cases srArpcacheLookup st.entries hopIf.1 with
    | some e => exact tells_send _ _ _
    | none =>
      have h := hhandle (srArpcacheQueuereq hopIf.1
        (icmpErrorFrame sr type code hopIf.2 buf off) hopIf.2.name st).2
        (srArpcacheQueuereq hopIf.1 (icmpErrorFrame sr type code hopIf.2 buf off)
          hopIf.2.name st).1
      rwa [outgoing_queuereq] at h

/-- **When `handle_arpreq` returns, what it sent has been added to the history.** -/
theorem tells_handleArpreqOut (addr : ℕ) (st : ArpState) :
    Tells ArpState.outgoing st.outgoing (handleArpreqOut sr now fuel addr st) := by
  induction fuel generalizing addr st with
  | zero => exact .halt _
  | succ fuel ih =>
    unfold handleArpreqOut
    cases st.queue.deref addr with
    | none => exact .halt _
    | some req =>
      simp only
      split
      · split
        · refine Tells.bind (Tells.foldlM ?_) fun st' => .pure (outgoing_destroy addr st')
          intro s p _
          unfold unreachablePacketOut
          refine (tells_srSendIcmpErrorPacketOut sr ih 3 1 (queuedIpSrc sr p.buf) p.buf 14
            (s.note (.gaveUp p.id req.addr))).bind fun s' => ?_
          split
          · exact .halt _
          · exact .pure rfl
        · exact .emit (outgoing_resent sr now req st)
      · exact .pure rfl

theorem tells_sweepreqsLoopOut (n : ℕ) (curr : Option ℕ) (st : ArpState) :
    Tells ArpState.outgoing st.outgoing (sweepreqsLoopOut sr now fuel n curr st) := by
  induction n generalizing curr st with
  | zero =>
    cases curr with
    | none => exact .pure rfl
    | some addr => exact .halt _
  | succ n ih =>
    cases curr with
    | none => exact .pure rfl
    | some addr =>
      unfold sweepreqsLoopOut
      cases nextAddr st.queue.reqs addr with
      | none => exact .halt _
      | some nextReq => exact (tells_handleArpreqOut sr now fuel addr st).bind (ih nextReq)

theorem tells_srArpcacheTimeoutOut (st : ArpState) :
    Tells ArpState.outgoing st.outgoing (srArpcacheTimeoutOut sr now fuel st) :=
  tells_sweepreqsLoopOut sr now fuel fuel _ _

theorem tells_srHandleArpPacketOut (packet : Frame) (st : ArpState) :
    Tells ArpState.outgoing st.outgoing (srHandleArpPacketOut sr now packet st) := by
  unfold srHandleArpPacketOut
  cases srGetInterfaceGivenIp sr.ifList (arTip packet) with
  | error e => exact .halt e
  | ok myInterface =>
    simp only
    split
    · cases myInterface with
      | none => exact .pure rfl
      | some i => exact tells_send (afterInsert now packet st) _ _
    · split
      · cases st.queue.find (arSip packet) with
        | none => exact .pure rfl
        | some req =>
          cases myInterface with
          | none =>
            simp only
            split
            · exact .pure rfl
            · exact .halt _
          | some i => exact .emit (outgoing_sendPending _ _ _ _ _)
      · exact .pure rfl

theorem tells_srForwardPacketOut (packet : Frame) (macDest : Mac) (interface : IfName)
    (st : ArpState) : Tells ArpState.outgoing st.outgoing
      (srForwardPacketOut sr packet macDest interface st) := by
  unfold srForwardPacketOut
  cases forwardedFrame sr packet macDest interface with
  | none => exact .pure rfl
  | some frame => exact tells_send _ _ _

/-- Queueing a packet and handling its request. -/
theorem tells_queuereq (ip : IpAddr) (packet : Frame) (iface : IfName) (st : ArpState) :
    Tells ArpState.outgoing st.outgoing
      (handleArpreqOut sr now fuel (srArpcacheQueuereq ip packet iface st).2
        (srArpcacheQueuereq ip packet iface st).1) := by
  have h := tells_handleArpreqOut sr now fuel (srArpcacheQueuereq ip packet iface st).2
    (srArpcacheQueuereq ip packet iface st).1
  rwa [outgoing_queuereq] at h

theorem tells_srHandleOtherPacketOut (packet : Frame) (interface : IfName) (st : ArpState) :
    Tells ArpState.outgoing st.outgoing
      (srHandleOtherPacketOut sr now fuel packet interface st) := by
  have herror := fun type code => tells_srSendIcmpErrorPacketOut sr
    (tells_handleArpreqOut sr now fuel) type code (ipSrc packet) packet 0 st
  unfold srHandleOtherPacketOut
  simp only
  split
  · exact herror 11 0
  · split
    · split
      · split
        · exact tells_send _ _ _
        · exact .pure rfl
      · exact herror 3 3
    · cases srFindRtEntry sr.routingTable (ipDst packet) with
      | none => exact herror 3 0
      | some rtMatch =>
        simp only
        unfold forwardTransitOut
        cases srArpcacheLookup st.entries (nextHop rtMatch (ipDst packet)) with
        | some e => exact tells_srForwardPacketOut sr _ _ _ _
        | none => exact tells_queuereq sr now fuel _ _ _ _

end Tells

/-! ### What is sent is accepted -/

/-- The packets that wait are valid. -/
def PendingValid (st : ArpState) : Prop :=
  ∀ r ∈ st.queue.reqs, ∀ p ∈ r.packets, isPacketValid p.buf = true

theorem pendingValid_init : PendingValid srArpcacheInit := fun _ hr => absurd hr List.not_mem_nil

theorem PendingValid.destroy {st : ArpState} (h : PendingValid st) (addr : ℕ) :
    PendingValid (srArpreqDestroy addr st) := fun r hr => h r (mem_destroy.mp hr).1

theorem PendingValid.afterInsert {st : ArpState} (h : PendingValid st) (now : ℤ) (packet : Frame) :
    PendingValid (afterInsert now packet st) := fun r hr => h r (mem_insert.mp hr).1

theorem PendingValid.queuereq {st : ArpState} (h : PendingValid st) {packet : Frame}
    (hvalid : isPacketValid packet = true) (ip : IpAddr) (iface : IfName) :
    PendingValid (srArpcacheQueuereq ip packet iface st).1 := by
  intro r hr p hp
  rcases mem_packets_queuereq hr hp with ⟨-, rfl, -, -⟩ | ⟨s, hs, -, -, hps⟩
  · exact hvalid
  · exact h s hs p hps

theorem PendingValid.resent {st : ArpState} (h : PendingValid st) (sr : SrInstance) (now : ℤ)
    (req : ArpReq) : PendingValid (resent sr now req st) := by
  intro r hr p hp
  rw [resent_queue] at hr
  -- the lists of packets are those of before
  have hmem : r.packets ∈ st.queue.reqs.map ArpReq.packets := by
    rw [← map_packets_markSent st.queue req.addr now]
    exact List.mem_map_of_mem hr
  obtain ⟨s, hs, hpackets⟩ := List.mem_map.mp hmem
  exact h s hs p (hpackets ▸ hp)

/-- Only acceptable frames are sent, and the packets that wait are valid afterwards. -/
abbrev SendsAcceptable (sr : SrInstance) (x : Sending ArpState) : Prop :=
  Safe (Acceptable sr.ifList) PendingValid x

section Safe

variable {sr : SrInstance} {now : ℤ} {fuel : ℕ} {st : ArpState}

theorem safe_send {frame : Frame} {iface : IfName} (hout : Acceptable sr.ifList ⟨frame, iface⟩)
    (h : PendingValid st) : SendsAcceptable sr (st.send frame iface) := by
  refine Safe.emit ?_ h
  intro out hmem
  rw [List.mem_singleton.mp hmem]
  exact hout

theorem safe_srSendIcmpErrorPacketOut (hnames : NamesMatch sr.ifList)
    {handle : ℕ → ArpState → Sending ArpState}
    (hhandle : ∀ addr st, PendingValid st → SendsAcceptable sr (handle addr st))
    (type code : UInt8) (ipDst : IpAddr) (buf : Frame) (off : ℕ) (h : PendingValid st) :
    SendsAcceptable sr (srSendIcmpErrorPacketOut sr handle type code ipDst buf off st) := by
  unfold srSendIcmpErrorPacketOut
  cases hroute : icmpErrorRoute sr ipDst with
  | none => exact .pure h
  | some hopIf =>
    have hmem : hopIf.2 ∈ sr.ifList := icmpErrorRoute_mem hroute
    simp only
    cases srArpcacheLookup st.entries hopIf.1 with
    | some e => exact safe_send (acceptable_icmpErrorFrame type code buf off hnames hmem e.mac) h
    | none =>
      have hvalid := isPacketValid_icmpErrorFrame sr type code hopIf.2 buf off
      exact hhandle _ _ (h.queuereq hvalid hopIf.1 hopIf.2.name)

/-- **`handle_arpreq` only sends what is accepted**: ARP requests and ICMP errors. -/
theorem safe_handleArpreqOut (hnames : NamesMatch sr.ifList) (addr : ℕ) (st : ArpState)
    (h : PendingValid st) : SendsAcceptable sr (handleArpreqOut sr now fuel addr st) := by
  induction fuel generalizing addr st with
  | zero => exact .halt _
  | succ fuel ih =>
    unfold handleArpreqOut
    cases st.queue.deref addr with
    | none => exact .halt _
    | some req =>
      simp only
      split
      · split
        · -- given up: the loop of `host_unreachable`, whose errors may themselves have to wait
          refine (Safe.foldlM (I := PendingValid) ?_ h).bind fun st' h' => .pure (h'.destroy addr)
          intro s p _ hs
          have hgave : PendingValid (s.note (.gaveUp p.id req.addr)) := hs
          unfold unreachablePacketOut
          refine (safe_srSendIcmpErrorPacketOut hnames ih 3 1 (queuedIpSrc sr p.buf) p.buf 14
            hgave).bind fun s' hs' => ?_
          split
          · exact .halt _
          · exact .pure hs'
        · refine Safe.emit ?_ (h.resent sr now req)
          intro out hout
          obtain ⟨i, hi, rfl⟩ := List.mem_map.mp hout
          exact acceptable_arpRequestFrame hnames hi req.ip
      · exact .pure h

theorem safe_queuereq (hnames : NamesMatch sr.ifList) {packet : Frame}
    (hvalid : isPacketValid packet = true) (ip : IpAddr) (iface : IfName) (h : PendingValid st) :
    SendsAcceptable sr (handleArpreqOut sr now fuel (srArpcacheQueuereq ip packet iface st).2
      (srArpcacheQueuereq ip packet iface st).1) :=
  safe_handleArpreqOut hnames _ _ (h.queuereq hvalid ip iface)

theorem safe_srArpcacheTimeoutOut (hnames : NamesMatch sr.ifList) (h : PendingValid st) :
    SendsAcceptable sr (srArpcacheTimeoutOut sr now fuel st) := by
  have hloop : ∀ (n : ℕ) (curr : Option ℕ) (st : ArpState), PendingValid st →
      SendsAcceptable sr (sweepreqsLoopOut sr now fuel n curr st) := by
    intro n
    induction n with
    | zero =>
      intro curr st h
      cases curr with
      | none => exact .pure h
      | some addr => exact .halt _
    | succ n ih =>
      intro curr st h
      cases curr with
      | none => exact .pure h
      | some addr =>
        unfold sweepreqsLoopOut
        cases nextAddr st.queue.reqs addr with
        | none => exact .halt _
        | some nextReq =>
          exact (safe_handleArpreqOut hnames addr st h).bind fun st' h' => ih nextReq st' h'
  exact hloop fuel _ _ h

/-- **`sr_handle_arp_packet` only sends what is accepted**: a reply, or the packets that
waited. -/
theorem safe_srHandleArpPacketOut (hnames : NamesMatch sr.ifList) {packet : Frame}
    (hvalid : isPacketValid packet = true) (htype : etherType packet = htons ethertypeArp)
    (h : PendingValid st) : SendsAcceptable sr (srHandleArpPacketOut sr now packet st) := by
  have hmem : ∀ i, srGetInterfaceGivenIp sr.ifList (arTip packet) = .ok (some i) →
      i ∈ sr.ifList := by
    intro i hi
    unfold srGetInterfaceGivenIp at hi
    split at hi
    · cases hi
    · injection hi with hi
      exact List.mem_of_find?_eq_some hi
  unfold srHandleArpPacketOut
  cases hif : srGetInterfaceGivenIp sr.ifList (arTip packet) with
  | error e => exact .halt e
  | ok myInterface =>
    simp only
    split
    · cases myInterface with
      | none => exact .pure h
      | some i =>
        exact safe_send (acceptable_arpReplyFrame hnames (hmem i hif) hvalid htype)
          (h.afterInsert now packet)
    · split
      · cases hfind : st.queue.find (arSip packet) with
        | none => exact .pure (h.afterInsert now packet)
        | some req =>
          cases myInterface with
          | none =>
            simp only
            split
            · exact .pure ((h.afterInsert now packet).destroy req.addr)
            · exact .halt _
          | some i =>
            -- the packets that waited leave through the interface that the reply came for
            refine Safe.emit ?_ ?_
            · intro out hout
              obtain ⟨p, hp, rfl⟩ := List.mem_map.mp hout
              obtain ⟨found, hfound, haddr⟩ := hnames.get (hmem i hif)
              rw [← haddr]
              exact acceptable_readdressed hfound _
                (h req (ArpQueue.find_eq_some.mp hfind).1 p hp)
            · rw [sendPending_eq]
              exact (h.afterInsert now packet).destroy req.addr
      · exact .pure h

theorem safe_srForwardPacketOut {packet : Frame} (hvalid : isPacketValid packet = true)
    (macDest : Mac) (interface : IfName) (h : PendingValid st) :
    SendsAcceptable sr (srForwardPacketOut sr packet macDest interface st) := by
  unfold srForwardPacketOut forwardedFrame
  cases hif : srGetInterface sr.ifList interface with
  | none => exact .pure h
  | some i => exact safe_send (acceptable_readdressed hif macDest hvalid) h

/-- An echo request for an address of the router, which is answered. -/
def EchoForMe (ifList : List SrIf) (packet : Frame) : Prop :=
  (ifList.any fun i => i.ip = ipDst packet) = true ∧ ipP packet = ipProtocolIcmp ∧
    load8 packet 34 = 8 ∧ load8 packet 35 = 0

instance (ifList : List SrIf) (packet : Frame) : Decidable (EchoForMe ifList packet) :=
  inferInstanceAs (Decidable (_ ∧ _ ∧ _ ∧ _))

/-- The packet was for the hardware address of the interface that it came through. -/
def ForInterface (ifList : List SrIf) (packet : Frame) (interface : IfName) : Prop :=
  ∃ i ∈ srGetInterface ifList interface, etherDhost packet = i.addr.bytes

instance (ifList : List SrIf) (packet : Frame) (interface : IfName) :
    Decidable (ForInterface ifList packet interface) :=
  inferInstanceAs (Decidable (∃ i ∈ srGetInterface ifList interface, _))

/-- **`sr_handle_ip_packet` only sends what is accepted** if the packet is no echo request, or
was for the hardware address of the interface. -/
theorem safe_srHandleOtherPacketOut (hnames : NamesMatch sr.ifList) {packet : Frame}
    {interface : IfName} (hvalid : isPacketValid packet = true)
    (htype : etherType packet = htons ethertypeIp)
    (hecho : EchoForMe sr.ifList packet → ForInterface sr.ifList packet interface)
    (h : PendingValid st) :
    SendsAcceptable sr (srHandleOtherPacketOut sr now fuel packet interface st) := by
  have hhandle : ∀ addr st, PendingValid st →
      SendsAcceptable sr (handleArpreqOut sr now fuel addr st) := safe_handleArpreqOut hnames
  have herror := fun type code =>
    safe_srSendIcmpErrorPacketOut hnames hhandle type code (ipSrc packet) packet 0 h
  unfold srHandleOtherPacketOut
  simp only
  split
  · exact herror 11 0
  · split
    · next hmine =>
      split
      · next hicmp =>
        split
        · next hrequest =>
          -- the reply takes its source from the request
          obtain ⟨i, hi, hdhost⟩ := hecho ⟨hmine, hicmp, hrequest⟩
          exact safe_send ((acceptable_icmpReplyFrame_iff 0 0 htype hicmp hvalid).mpr
            ⟨i, hi, hdhost⟩) h
        · exact .pure h
      · exact herror 3 3
    · cases srFindRtEntry sr.routingTable (ipDst packet) with
      | none => exact herror 3 0
      | some rtMatch =>
        have hdec := isPacketValid_decremented htype hvalid
        simp only
        unfold forwardTransitOut
        cases srArpcacheLookup st.entries (nextHop rtMatch (ipDst packet)) with
        | some e => exact safe_srForwardPacketOut hdec _ _ h
        | none => exact safe_queuereq hnames hdec _ _ h

end Safe

end Redes
