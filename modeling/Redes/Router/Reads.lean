import Redes.Lib.Logged
import Redes.Router.Acceptable
import Redes.Router.IcmpError

/-!
# What the router reads from a frame

`sr_handlepacket`, `is_packet_valid` and the handlers of ARP and IP packets, with every range of
bytes that they read or copy from the frame they were handed.  Behind the end of the frame is
whatever is there.  `sr_handlepacket` reads the Ethernet header before anything is checked;
`is_packet_valid` checks a length before it reads the header that must fit into it; and
`sr_send_icmp_error_packet` copies the IP header and eight more bytes, whatever the length is.
What the OSPF handler reads is not looked at here.

## Main definitions

* `Span`, `Span.Inside` — ranges of a frame.
* `Reading` — computations that read from a frame.
* `isPacketValidReads`, `srHandleArpPacketReads`, `srHandleIpPacketReads`,
  `srHandlepacketReads` — the functions, with what they read.
* `BuildsError` — the frames that are answered by an ICMP error.

## Main results

* `ending_srHandlepacketReads` — the functions do what they do without noting what they read.
* `isPacketValidReads_reads`, `srHandleArpPacketReads_inside`, `srHandleIpPacketReads_spec` —
  when they stay inside the frame.
* `reads_inside_iff` — when all of them do.
-/

namespace Redes

open Bytes Logged

/-! ### Reading -/

/-- A range of bytes of a frame. -/
structure Span where
  /-- The offset of the first byte. -/
  off : ℕ
  /-- The number of bytes. -/
  len : ℕ
  deriving DecidableEq

/-- All bytes of the range are in the frame. -/
def Span.Inside (packet : Frame) (s : Span) : Prop := ∀ k < s.len, s.off + k < packet.length

instance (packet : Frame) (s : Span) : Decidable (s.Inside packet) :=
  inferInstanceAs (Decidable (∀ k < s.len, s.off + k < packet.length))

/-- A computation that reads from a frame. -/
abbrev Reading := Logged Span Halt

/-- Read or copy bytes. -/
def readBytes (sr : SrInstance) (packet : Frame) (off len : ℕ) : Reading (List UInt8) :=
  emit [⟨off, len⟩] (readMem sr.behind packet off len)

/-- Read a byte. -/
def field8 (sr : SrInstance) (packet : Frame) (off : ℕ) : Reading UInt8 :=
  (readBytes sr packet off 1).map fun b => load8 b 0

/-- Read a 16-bit field. -/
def field16 (sr : SrInstance) (packet : Frame) (off : ℕ) : Reading UInt16 :=
  (readBytes sr packet off 2).map fun b => load16 b 0

/-- Read a 32-bit field. -/
def field32 (sr : SrInstance) (packet : Frame) (off : ℕ) : Reading UInt32 :=
  (readBytes sr packet off 4).map fun b => load32 b 0

/-- `ip_cksum` over the IP header of a frame. -/
def ipCksumReads (packet : Frame) : Reading UInt16 :=
  emit [⟨24, 2⟩, ⟨14, 20⟩] (ipCksum packet)

/-- `icmp_cksum` over the rest of a frame from the ICMP header on. -/
def icmpCksumReads (packet : Frame) : Reading UInt16 :=
  emit [⟨36, 2⟩, ⟨34, packet.length - 34⟩] (icmpCksum packet (packet.length - 34))

/-- `ospfv2_cksum` over the rest of a frame from the OSPF header on. -/
def ospfv2CksumReads (packet : Frame) : Reading UInt16 :=
  emit [⟨46, 2⟩, ⟨34, packet.length - 34⟩] (ospfv2Cksum packet (packet.length - 34))

/-! ### Printing -/

/-- `print_hdr_eth`. -/
def printHdrEth : Reading PUnit := emit [⟨0, 6⟩, ⟨6, 6⟩, ⟨12, 2⟩] ⟨⟩

/-- `print_hdr_ip`, on the IP header of a frame. -/
def printHdrIp : Reading PUnit :=
  emit [⟨14, 1⟩, ⟨15, 1⟩, ⟨16, 2⟩, ⟨18, 2⟩, ⟨20, 2⟩, ⟨22, 1⟩, ⟨23, 1⟩, ⟨24, 2⟩, ⟨26, 4⟩,
    ⟨30, 4⟩] ⟨⟩

/-- `print_hdr_icmp`, on the ICMP header of a frame. -/
def printHdrIcmp : Reading PUnit := emit [⟨34, 1⟩, ⟨35, 1⟩, ⟨36, 2⟩] ⟨⟩

/-- `print_hdr_arp`, on the ARP header of a frame. -/
def printHdrArp : Reading PUnit :=
  emit [⟨14, 2⟩, ⟨16, 2⟩, ⟨18, 1⟩, ⟨19, 1⟩, ⟨20, 2⟩, ⟨22, 6⟩, ⟨28, 4⟩, ⟨32, 6⟩, ⟨38, 4⟩] ⟨⟩

/-- `print_hdrs`. -/
def printHdrs (sr : SrInstance) (packet : Frame) : Reading PUnit :=
  if packet.length < 14 then pure ⟨⟩
  else do
    let ethtype ← field16 sr packet 12
    printHdrEth
    if ethtype = htons ethertypeIp then
      if packet.length < 14 + 20 then pure ⟨⟩
      else do
        printHdrIp
        let ipProto ← field8 sr packet 23
        if ipProto = ipProtocolIcmp then
          if packet.length < 34 + 4 then pure ⟨⟩ else printHdrIcmp
        else pure ⟨⟩
    else if ethtype = htons ethertypeArp then
      if packet.length < 14 + 28 then pure ⟨⟩ else printHdrArp
    else pure ⟨⟩

/-! ### The functions -/

/-- `is_packet_valid`. -/
def isPacketValidReads (sr : SrInstance) (packet : Frame) : Reading Bool := do
  let type ← field16 sr packet 12
  if type = htons ethertypeArp then pure (decide (14 + 28 ≤ packet.length))
  else do
    let type ← field16 sr packet 12
    if type = htons ethertypeIp then
      if 14 + 20 ≤ packet.length then do
        let calculated ← ipCksumReads packet
        let sum ← field16 sr packet 24
        if calculated = sum then do
          let proto ← field8 sr packet 23
          if proto = ipProtocolIcmp then
            if 34 + 4 ≤ packet.length then do
              let calculated ← icmpCksumReads packet
              let sum ← field16 sr packet 36
              pure (decide (calculated = sum))
            else pure false
          else do
            let proto ← field8 sr packet 23
            if proto = ipProtocolOspfv2 then
              if 34 + 24 ≤ packet.length then do
                let calculated ← ospfv2CksumReads packet
                let sum ← field16 sr packet 46
                pure (decide (calculated = sum))
              else pure false
            else pure true
        else pure false
      else pure false
    else pure false

/-- `sr_handle_arp_packet`: a reply is made in the buffer of the request, printed, and sent. -/
def srHandleArpPacketReads (sr : SrInstance) (now : ℤ) (packet : Frame) (st : ArpState) :
    Reading ArpState := do
  printHdrArp
  let _ ← readBytes sr packet 22 6
  let _ ← readBytes sr packet 32 6
  let _ ← field32 sr packet 28
  let targetIP ← field32 sr packet 38
  let op ← field16 sr packet 20
  if htons op = arpOpRequest ∧ targetIP ≠ 0 then
    match findInterfaceIp sr.ifList targetIP with
    | none => silent (srHandleArpPacket sr now packet st)
    | some myInterface => do
        let reply := arpReplyFrame packet myInterface
        printHdrs sr reply
        let _ ← readBytes sr reply 0 reply.length
        silent (srHandleArpPacket sr now packet st)
  else silent (srHandleArpPacket sr now packet st)

/-- `sr_send_icmp_error_packet`, on the frame: the source address is read, if only to be
printed, and 28 bytes are copied. -/
def srSendIcmpErrorPacketReads (sr : SrInstance) (handle : ℕ → ArpState → Except Halt ArpState)
    (type code : UInt8) (ipDst : IpAddr) (packet : Frame) (st : ArpState) : Reading ArpState :=
  if (sr.ifList.any fun i => i.ip = ipDst) = true then pure st
  else
    match srFindRtEntry sr.routingTable ipDst with
    | none => do
        let _ ← field32 sr packet 26
        pure st
    | some rtMatch =>
        match srGetInterface sr.ifList rtMatch.interface with
        | none => pure st
        | some _ => do
            let _ ← field32 sr packet 26
            let _ ← readBytes sr packet 14 28
            silent (srSendIcmpErrorPacket sr handle type code ipDst packet 0 st)

/-- The end of `sr_handle_ip_packet` for a packet in transit: the whole packet is sent, or
copied. -/
def forwardTransitReads (sr : SrInstance) (now : ℤ) (fuel : ℕ) (packet : Frame)
    (interface : IfName) (rtMatch : SrRt) (arpIpDest : IpAddr) (st : ArpState) :
    Reading ArpState := do
  let ttl ← field8 sr packet 22
  let packet := store packet 22 [ttl - 1]
  let sum ← ipCksumReads packet
  let packet := store packet 24 (bytes16 sum)
  match srArpcacheLookup st.entries arpIpDest with
  | some arpEntry =>
      match srGetInterface sr.ifList rtMatch.interface with
      | none => pure st
      | some _ => do
          let _ ← readBytes sr packet 0 packet.length
          pure (srForwardPacket sr packet arpEntry.mac rtMatch.interface st)
  | none => do
      let copy ← readBytes sr packet 0 packet.length
      let (st, addr) := srArpcacheQueuereq arpIpDest copy interface st
      silent (handleArpreq sr now fuel addr st)

/-- The part of `sr_handle_ip_packet` for an ICMP packet to the router: an echo request is
answered.  The code is not read if the type is another one. -/
def answerEchoReads (sr : SrInstance) (packet : Frame) (interface : IfName) (st : ArpState) :
    Reading ArpState := do
  let type ← field8 sr packet 34
  let code ← if type = 8 then field8 sr packet 35 else pure 0
  if type = 8 ∧ code = 0 then do
    let original ← readBytes sr packet 0 packet.length
    pure (srSendIcmp original 0 0 interface st)
  else pure st

/-- `sr_handle_ip_packet`; `pwospf` is what it does with an OSPF packet. -/
def srHandleIpPacketReads (sr : SrInstance) (now : ℤ) (fuel : ℕ)
    (pwospf : Frame → Option SrIf → ArpState → Except Halt ArpState) (packet : Frame)
    (interface : IfName) (st : ArpState) : Reading ArpState :=
  if packet.length < 14 + 20 then pure st
  else do
    printHdrIp
    let calculated ← ipCksumReads packet
    let sum ← field16 sr packet 24
    if sum ≠ calculated then pure st
    else do
      let ipProto ← field8 sr packet 23
      if ipProto = ipProtocolOspfv2 then
        silent (pwospf packet (srGetInterface sr.ifList interface) st)
      else do
        let src ← field32 sr packet 26
        let dst ← field32 sr packet 30
        let isForMe := sr.ifList.any fun i => i.ip = dst
        let ttl ← field8 sr packet 22
        if ttl ≤ 1 ∧ isForMe = false then do
          let src ← field32 sr packet 26
          srSendIcmpErrorPacketReads sr (handleArpreq sr now fuel) 11 0 src packet st
        else if isForMe = true then
          if ipProto = ipProtocolIcmp then answerEchoReads sr packet interface st
          else srSendIcmpErrorPacketReads sr (handleArpreq sr now fuel) 3 3 src packet st
        else
          match srFindRtEntry sr.routingTable dst with
          | none => srSendIcmpErrorPacketReads sr (handleArpreq sr now fuel) 3 0 src packet st
          | some rtMatch =>
              forwardTransitReads sr now fuel packet interface rtMatch (nextHop rtMatch dst) st

/-- `sr_handlepacket`: the addresses are copied and the type is read before anything else. -/
def srHandlepacketReads (sr : SrInstance) (now : ℤ) (fuel : ℕ)
    (pwospf : Frame → Option SrIf → ArpState → Except Halt ArpState) (packet : Frame)
    (interface : IfName) (st : ArpState) : Reading ArpState := do
  let _ ← readBytes sr packet 0 6
  let _ ← readBytes sr packet 6 6
  let pktType ← field16 sr packet 12
  let valid ← isPacketValidReads sr packet
  if valid = true then
    if pktType = htons ethertypeArp then srHandleArpPacketReads sr now packet st
    else if pktType = htons ethertypeIp then
      srHandleIpPacketReads sr now fuel pwospf packet interface st
    else pure st
  else pure st

/-! ### Reads that stay inside -/

theorem inside_iff {packet : Frame} {off len : ℕ} (hpos : 0 < len) :
    Span.Inside packet ⟨off, len⟩ ↔ off + len ≤ packet.length := by
  constructor
  · intro h
    have hlast := h (len - 1) (Nat.sub_lt hpos Nat.one_pos)
    simp only at hlast
    omega
  · intro h k hk
    simp only at hk ⊢
    omega

theorem inside_of_le {packet : Frame} {off len : ℕ} (h : off + len ≤ packet.length) :
    Span.Inside packet ⟨off, len⟩ := by
  intro k hk
  simp only at hk ⊢
  omega

/-- Ranges of a header are inside the frame if the header fits into it. -/
theorem inside_of_forall {packet : Frame} {spans : List Span} {n : ℕ}
    (hspans : ∀ s ∈ spans, s.off + s.len ≤ n) (h : n ≤ packet.length) :
    ∀ s ∈ spans, s.Inside packet :=
  fun s hs => inside_of_le ((hspans s hs).trans h)

/-- The computation stays inside the frame, and returns a value. -/
structure StaysInside {α : Type} (packet : Frame) (x : Reading α) (a : α) : Prop where
  /-- What it returns. -/
  ending : x.ending = .ok a
  /-- What it reads is inside. -/
  inside : All (Span.Inside packet) x

section StaysInside

variable {α β : Type} {packet : Frame} {x : Reading α} {a : α} {f : α → Reading β} {b : β}

theorem StaysInside.pure (packet : Frame) (a : α) : StaysInside packet (pure a) a :=
  ⟨rfl, all_pure a⟩

theorem StaysInside.emit {spans : List Span} (h : ∀ s ∈ spans, s.Inside packet) :
    StaysInside packet (emit spans a) a := ⟨rfl, h⟩

/-- **What is read first does not matter** for the ending of the rest, -/
theorem StaysInside.ending_bind (h : StaysInside packet x a) : (x >>= f).ending = (f a).ending := by
  rw [Logged.ending_bind, h.ending]
  rfl

/-- nor for what the rest reads. -/
theorem StaysInside.all_bind (h : StaysInside packet x a) :
    All (Span.Inside packet) (x >>= f) ↔ All (Span.Inside packet) (f a) := by
  rw [all_bind_iff h.ending, and_iff_right h.inside]

/-- Frames of the same length have the same ranges. -/
theorem StaysInside.of_length {q : Frame} (h : StaysInside q x a)
    (hlen : q.length = packet.length) : StaysInside packet x a := by
  refine ⟨h.ending, ?_⟩
  intro s hs k hk
  rw [← hlen]
  exact h.inside s hs k hk

theorem StaysInside.bind (h : StaysInside packet x a) (hf : StaysInside packet (f a) b) :
    StaysInside packet (x >>= f) b :=
  ⟨h.ending_bind.trans hf.ending, h.all_bind.mpr hf.inside⟩

end StaysInside

section Fields

variable (sr : SrInstance) {packet : Frame} {off len : ℕ}

theorem readBytes_reads (h : off + len ≤ packet.length) :
    StaysInside packet (readBytes sr packet off len) (slice packet off len) := by
  unfold readBytes
  rw [readMem_eq_slice h]
  exact .emit (by simpa using inside_of_le h)

/-- The whole frame is read. -/
theorem readAll_reads (packet : Frame) :
    StaysInside packet (readBytes sr packet 0 packet.length) packet := by
  have hread := readBytes_reads sr (Nat.le_of_eq (Nat.zero_add packet.length))
  rwa [slice_zero_length] at hread

theorem field8_reads (h : off + 1 ≤ packet.length) :
    StaysInside packet (field8 sr packet off) (load8 packet off) := by
  have hread := readBytes_reads sr h
  refine ⟨?_, hread.inside⟩
  unfold field8
  rw [ending_map, hread.ending]
  exact congrArg Except.ok (load8_slice Nat.one_pos)

theorem field16_reads (h : off + 2 ≤ packet.length) :
    StaysInside packet (field16 sr packet off) (load16 packet off) := by
  have hread := readBytes_reads sr h
  refine ⟨?_, hread.inside⟩
  unfold field16
  rw [ending_map, hread.ending]
  exact congrArg Except.ok (load16_slice (Nat.le_refl 2))

theorem field32_reads (h : off + 4 ≤ packet.length) :
    StaysInside packet (field32 sr packet off) (load32 packet off) := by
  have hread := readBytes_reads sr h
  refine ⟨?_, hread.inside⟩
  unfold field32
  rw [ending_map, hread.ending]
  exact congrArg Except.ok (load32_slice (Nat.le_refl 4))

end Fields

section Headers

variable {packet : Frame}

theorem ipCksumReads_reads (h : 34 ≤ packet.length) :
    StaysInside packet (ipCksumReads packet) (ipCksum packet) :=
  .emit (inside_of_forall (by decide) h)

theorem icmpCksumReads_reads (h : 38 ≤ packet.length) :
    StaysInside packet (icmpCksumReads packet) (icmpCksum packet (packet.length - 34)) := by
  refine .emit ?_
  simp only [List.forall_mem_cons, List.not_mem_nil, false_implies, implies_true, and_true]
  exact ⟨inside_of_le (by omega), inside_of_le (by omega)⟩

theorem ospfv2CksumReads_reads (h : 58 ≤ packet.length) :
    StaysInside packet (ospfv2CksumReads packet) (ospfv2Cksum packet (packet.length - 34)) := by
  refine .emit ?_
  simp only [List.forall_mem_cons, List.not_mem_nil, false_implies, implies_true, and_true]
  exact ⟨inside_of_le (by omega), inside_of_le (by omega)⟩

theorem printHdrEth_reads (h : 14 ≤ packet.length) : StaysInside packet printHdrEth ⟨⟩ :=
  .emit (inside_of_forall (by decide) h)

theorem printHdrIp_reads (h : 34 ≤ packet.length) : StaysInside packet printHdrIp ⟨⟩ :=
  .emit (inside_of_forall (by decide) h)

theorem printHdrIcmp_reads (h : 38 ≤ packet.length) : StaysInside packet printHdrIcmp ⟨⟩ :=
  .emit (inside_of_forall (by decide) h)

theorem printHdrArp_reads (h : 42 ≤ packet.length) : StaysInside packet printHdrArp ⟨⟩ :=
  .emit (inside_of_forall (by decide) h)

/-- **`print_hdrs` stays inside**, whatever the frame is. -/
theorem printHdrs_reads (sr : SrInstance) (packet : Frame) :
    StaysInside packet (printHdrs sr packet) ⟨⟩ := by
  unfold printHdrs
  split
  · exact .pure packet _
  · refine (field16_reads sr (by omega)).bind ((printHdrEth_reads (by omega)).bind ?_)
    split
    · split
      · exact .pure packet _
      · refine (printHdrIp_reads (by omega)).bind ((field8_reads sr (by omega)).bind ?_)
        split
        · split
          · exact .pure packet _
          · exact printHdrIcmp_reads (by omega)
        · exact .pure packet _
    · split
      · split
        · exact .pure packet _
        · exact printHdrArp_reads (by omega)
      · exact .pure packet _

end Headers

/-! ### What the functions read -/

section Functions

variable (sr : SrInstance) {packet : Frame}

/-- **`is_packet_valid` stays inside** a frame that has an Ethernet header. -/
theorem isPacketValidReads_reads (h : 14 ≤ packet.length) :
    StaysInside packet (isPacketValidReads sr packet) (isPacketValid packet) := by
  unfold isPacketValidReads isPacketValid
  refine (field16_reads sr (by omega)).bind ?_
  split
  · exact .pure packet _
  · refine (field16_reads sr (by omega)).bind ?_
    split
    · split
      · refine (ipCksumReads_reads (by omega)).bind ((field16_reads sr (by omega)).bind ?_)
        split
        · refine (field8_reads sr (by omega)).bind ?_
          split
          · split
            · exact (icmpCksumReads_reads (by omega)).bind
                ((field16_reads sr (by omega)).bind (.pure packet _))
            · exact .pure packet _
          · refine (field8_reads sr (by omega)).bind ?_
            split
            · split
              · exact (ospfv2CksumReads_reads (by omega)).bind
                  ((field16_reads sr (by omega)).bind (.pure packet _))
              · exact .pure packet _
            · exact .pure packet _
        · exact .pure packet _
      · exact .pure packet _
    · exact .pure packet _

/-- A frame without an Ethernet header is not valid, whatever is behind it. -/
theorem ending_isPacketValidReads_of_short (h : packet.length < 14) :
    (isPacketValidReads sr packet).ending = .ok false := by
  have harp : decide (14 + 28 ≤ packet.length) = false := decide_eq_false (by omega)
  have hip : ¬ 14 + 20 ≤ packet.length := by omega
  have htype : ∃ v, (field16 sr packet 12).ending = .ok v := ⟨_, rfl⟩
  obtain ⟨v, hv⟩ := htype
  unfold isPacketValidReads
  rw [Logged.ending_bind, hv, harp]
  show (if v = htons ethertypeArp then _ else _ : Reading Bool).ending = _
  split
  · rfl
  · rw [Logged.ending_bind, hv]
    show (if v = htons ethertypeIp then _ else _ : Reading Bool).ending = _
    split <;> rfl

/-- **`sr_handle_arp_packet` stays inside** a frame that has an ARP header. -/
theorem srHandleArpPacketReads_inside (h : 42 ≤ packet.length) (now : ℤ) (st : ArpState) :
    (srHandleArpPacketReads sr now packet st).ending = srHandleArpPacket sr now packet st ∧
      All (Span.Inside packet) (srHandleArpPacketReads sr now packet st) := by
  have hprint := printHdrArp_reads h
  have hsha := readBytes_reads sr (show 22 + 6 ≤ packet.length by omega)
  have htha := readBytes_reads sr (show 32 + 6 ≤ packet.length by omega)
  have hsip := field32_reads sr (show 28 + 4 ≤ packet.length by omega)
  have htip := field32_reads sr (show 38 + 4 ≤ packet.length by omega)
  have hop := field16_reads sr (show 20 + 2 ≤ packet.length by omega)
  unfold srHandleArpPacketReads
  rw [hprint.ending_bind, hsha.ending_bind, htha.ending_bind, hsip.ending_bind, htip.ending_bind,
    hop.ending_bind, hprint.all_bind, hsha.all_bind, htha.all_bind, hsip.all_bind, htip.all_bind,
    hop.all_bind]
  split
  · split
    · exact ⟨rfl, all_silent _⟩
    · next i _ =>
      -- the reply is as long as the request
      have hlen : (arpReplyFrame packet i).length = packet.length := by simp [arpReplyFrame]
      have hprinted := (printHdrs_reads sr (arpReplyFrame packet i)).of_length hlen
      have hsent := (readAll_reads sr (arpReplyFrame packet i)).of_length hlen
      rw [hprinted.ending_bind, hsent.ending_bind, hprinted.all_bind, hsent.all_bind]
      exact ⟨rfl, all_silent _⟩
  · exact ⟨rfl, all_silent _⟩

/-- **`sr_send_icmp_error_packet` stays inside** a frame with an IP header exactly if there are
eight more bytes, unless it sends nothing. -/
theorem srSendIcmpErrorPacketReads_spec (h : 34 ≤ packet.length)
    (handle : ℕ → ArpState → Except Halt ArpState) (type code : UInt8) (ipDst : IpAddr)
    (st : ArpState) :
    (srSendIcmpErrorPacketReads sr handle type code ipDst packet st).ending =
      srSendIcmpErrorPacket sr handle type code ipDst packet 0 st ∧
    (All (Span.Inside packet) (srSendIcmpErrorPacketReads sr handle type code ipDst packet st) ↔
      (icmpErrorRoute sr ipDst ≠ none → 42 ≤ packet.length)) := by
  have hsrc := field32_reads sr (show 26 + 4 ≤ packet.length by omega)
  unfold srSendIcmpErrorPacketReads icmpErrorRoute
  by_cases hmine : (sr.ifList.any fun i => i.ip = ipDst) = true
  · rw [if_pos hmine, if_pos hmine]
    unfold srSendIcmpErrorPacket
    rw [if_pos hmine]
    exact ⟨rfl, by simp⟩
  · rw [if_neg hmine, if_neg hmine]
    cases hroute : srFindRtEntry sr.routingTable ipDst with
    | none =>
      simp only [hsrc.ending_bind, hsrc.all_bind]
      unfold srSendIcmpErrorPacket
      simp [hmine, hroute]
    | some rtMatch =>
      cases hif : srGetInterface sr.ifList rtMatch.interface with
      | none =>
        unfold srSendIcmpErrorPacket
        simp [hmine, hroute, hif]
      | some outIface =>
        have hdata : (readBytes sr packet 14 28).ending = .ok (readMem sr.behind packet 14 28) :=
          rfl
        have hcopied :
            All (Span.Inside packet) (readBytes sr packet 14 28) ↔ 42 ≤ packet.length := by
          unfold readBytes
          rw [all_emit_iff, List.forall_mem_singleton, inside_iff (by decide)]
        simp only [hif]
        rw [hsrc.ending_bind, Logged.ending_bind, hdata, hsrc.all_bind, all_bind_iff hdata, hcopied]
        exact ⟨rfl, by simp [hif]⟩

/-- A packet in transit is read inside. -/
theorem forwardTransitReads_inside (h : 34 ≤ packet.length) (now : ℤ) (fuel : ℕ)
    (interface : IfName) (rtMatch : SrRt) (arpIpDest : IpAddr) (st : ArpState) :
    (forwardTransitReads sr now fuel packet interface rtMatch arpIpDest st).ending =
        forwardTransit sr now fuel packet interface rtMatch arpIpDest st ∧
      All (Span.Inside packet)
        (forwardTransitReads sr now fuel packet interface rtMatch arpIpDest st) := by
  have httl := field8_reads sr (show 22 + 1 ≤ packet.length by omega)
  have hshorter : 34 ≤ (store packet 22 [ipTtl packet - 1]).length := by rwa [length_store]
  have hcksum := (ipCksumReads_reads hshorter).of_length (length_store _ _ _)
  have hall := (readAll_reads sr (decremented packet)).of_length (length_decremented packet)
  unfold forwardTransitReads forwardTransit
  rw [httl.ending_bind, hcksum.ending_bind, httl.all_bind, hcksum.all_bind]
  cases harp : srArpcacheLookup st.entries arpIpDest with
  | some arpEntry =>
    cases hif : srGetInterface sr.ifList rtMatch.interface with
    | none =>
      unfold srForwardPacket forwardedFrame
      simp only [hif]
      exact ⟨rfl, all_pure st⟩
    | some outIface =>
      simp only
      exact ⟨hall.ending_bind, hall.all_bind.mpr (all_pure _)⟩
  | none =>
    simp only
    exact ⟨hall.ending_bind, hall.all_bind.mpr (all_silent _)⟩

/-- An echo request is answered without a look behind the end. -/
theorem answerEchoReads_inside (h : 38 ≤ packet.length) (interface : IfName) (st : ArpState) :
    StaysInside packet (answerEchoReads sr packet interface st)
      (if load8 packet 34 = 8 ∧ load8 packet 35 = 0 then srSendIcmp packet 0 0 interface st
        else st) := by
  have htype := field8_reads sr (show 34 + 1 ≤ packet.length by omega)
  have hcode := field8_reads sr (show 35 + 1 ≤ packet.length by omega)
  have hno : StaysInside packet (pure 0 : Reading UInt8) 0 := .pure packet 0
  unfold answerEchoReads
  refine htype.bind ?_
  by_cases height : load8 packet 34 = 8
  · simp only [height, if_true, true_and]
    refine hcode.bind ?_
    by_cases hzero : load8 packet 35 = 0
    · rw [if_pos hzero, if_pos hzero]
      exact (readAll_reads sr packet).bind (.pure packet _)
    · rw [if_neg hzero, if_neg hzero]
      exact .pure packet st
  · simp only [height, if_false, false_and]
    exact hno.bind (.pure packet st)

/-- **`sr_handle_ip_packet` stays inside** a valid frame exactly if the frame has 42 bytes, unless
no error is sent. -/
theorem srHandleIpPacketReads_spec (hvalid : isPacketValid packet = true)
    (htype : etherType packet = htons ethertypeIp) (now : ℤ) (fuel : ℕ)
    (pwospf : Frame → Option SrIf → ArpState → Except Halt ArpState) (interface : IfName)
    (st : ArpState) :
    (srHandleIpPacketReads sr now fuel pwospf packet interface st).ending =
      srHandleIpPacket sr now fuel pwospf packet interface st ∧
    (All (Span.Inside packet) (srHandleIpPacketReads sr now fuel pwospf packet interface st) ↔
      (raisedError sr packet ≠ none → icmpErrorRoute sr (ipSrc packet) ≠ none →
        42 ≤ packet.length)) := by
  obtain ⟨hlen, hsum⟩ := isPacketValid_ip hvalid htype
  have hshort : ¬ packet.length < 14 + 20 := by omega
  have hprint := printHdrIp_reads hlen
  have hcksum := ipCksumReads_reads hlen
  have hipSum := field16_reads sr (show 24 + 2 ≤ packet.length by omega)
  have hproto := field8_reads sr (show 23 + 1 ≤ packet.length by omega)
  have hsrc := field32_reads sr (show 26 + 4 ≤ packet.length by omega)
  have hdst := field32_reads sr (show 30 + 4 ≤ packet.length by omega)
  have httl := field8_reads sr (show 22 + 1 ≤ packet.length by omega)
  have herror := srSendIcmpErrorPacketReads_spec sr hlen (handleArpreq sr now fuel)
  unfold srHandleIpPacketReads srHandleIpPacket raisedError
  rw [if_neg hshort, if_neg hshort, hprint.ending_bind, hcksum.ending_bind, hipSum.ending_bind,
    hprint.all_bind, hcksum.all_bind, hipSum.all_bind, if_neg (by simp [hsum]),
    if_neg (by simp [hsum]), hproto.ending_bind, hproto.all_bind]
  by_cases hospf : ipP packet = ipProtocolOspfv2
  · simp [hospf]
  have hnone : ¬ (packet.length < 14 + 20 ∨ ipSum packet ≠ ipCksum packet ∨
      ipP packet = ipProtocolOspfv2) := by simp [hshort, hsum, hospf]
  rw [if_neg hospf, if_neg hospf, if_neg hnone, hsrc.ending_bind, hdst.ending_bind,
    httl.ending_bind, hsrc.all_bind, hdst.all_bind, httl.all_bind]
  by_cases hmine : (sr.ifList.any fun i => i.ip = ipDst packet) = true
  · -- for this router
    simp only [hmine, Bool.true_eq_false, and_false, if_false, if_true]
    by_cases hicmp : ipP packet = ipProtocolIcmp
    · -- which has an ICMP header then
      have hlong : 38 ≤ packet.length := (((isPacketValid_ip_iff htype).mp hvalid).2.2.1 hicmp).1
      obtain ⟨hend, hall⟩ := answerEchoReads_inside sr hlong interface st
      simp only [hicmp, if_true]
      exact ⟨hend.trans (apply_ite Except.ok _ _ _), iff_of_true hall (by simp)⟩
    · simp only [hicmp, if_false]
      obtain ⟨hend, hall⟩ := herror 3 3 (ipSrc packet) st
      refine ⟨hend, hall.trans ?_⟩
      simp
  · rw [Bool.not_eq_true] at hmine
    simp only [hmine, and_true, Bool.false_eq_true, if_false]
    by_cases hone : ipTtl packet ≤ 1
    · -- its TTL has run out
      rw [if_pos hone, if_pos hone, if_pos hone, hsrc.ending_bind, hsrc.all_bind]
      obtain ⟨hend, hall⟩ := herror 11 0 (ipSrc packet) st
      refine ⟨hend, hall.trans ?_⟩
      simp
    · rw [if_neg hone, if_neg hone, if_neg hone]
      cases hroute : srFindRtEntry sr.routingTable (ipDst packet) with
      | none =>
        obtain ⟨hend, hall⟩ := herror 3 0 (ipSrc packet) st
        refine ⟨hend, hall.trans ?_⟩
        simp
      | some rtMatch =>
        obtain ⟨hend, hall⟩ := forwardTransitReads_inside sr hlen now fuel interface rtMatch
          (nextHop rtMatch (ipDst packet)) st
        refine ⟨hend, iff_of_true hall ?_⟩
        simp

end Functions

/-! ### The whole -/

/-- The frame is answered by an ICMP error: `sr_handle_ip_packet` raises one, for a host that the
router has a route to and that is not the router itself. -/
def BuildsError (sr : SrInstance) (packet : Frame) : Prop :=
  isPacketValid packet = true ∧ etherType packet = htons ethertypeIp ∧
    raisedError sr packet ≠ none ∧ icmpErrorRoute sr (ipSrc packet) ≠ none

instance (sr : SrInstance) (packet : Frame) : Decidable (BuildsError sr packet) :=
  inferInstanceAs (Decidable (_ ∧ _ ∧ _ ∧ _))

section Whole

variable (sr : SrInstance) (now : ℤ) (fuel : ℕ)
  (pwospf : Frame → Option SrIf → ArpState → Except Halt ArpState) (packet : Frame)
  (interface : IfName) (st : ArpState)

/-- **The functions do what they do** when what they read is not noted. -/
theorem ending_srHandlepacketReads :
    (srHandlepacketReads sr now fuel pwospf packet interface st).ending =
      if isPacketValid packet = true then
        if etherType packet = htons ethertypeArp then srHandleArpPacket sr now packet st
        else if etherType packet = htons ethertypeIp then
          srHandleIpPacket sr now fuel pwospf packet interface st
        else .ok st
      else .ok st := by
  by_cases hlen : 14 ≤ packet.length
  · have hdhost := readBytes_reads sr (show 0 + 6 ≤ packet.length by omega)
    have hshost := readBytes_reads sr (show 6 + 6 ≤ packet.length by omega)
    have htype := field16_reads sr (show 12 + 2 ≤ packet.length by omega)
    have hvalid := isPacketValidReads_reads sr hlen
    unfold srHandlepacketReads
    rw [hdhost.ending_bind, hshost.ending_bind, htype.ending_bind, hvalid.ending_bind]
    by_cases hv : isPacketValid packet = true
    · rw [if_pos hv, if_pos hv]
      by_cases harp : etherType packet = htons ethertypeArp
      · rw [if_pos harp, if_pos harp]
        exact (srHandleArpPacketReads_inside sr ((isPacketValid_arp_iff harp).mp hv) now st).1
      · rw [if_neg harp, if_neg harp]
        by_cases hip : etherType packet = htons ethertypeIp
        · rw [if_pos hip, if_pos hip]
          exact (srHandleIpPacketReads_spec sr hv hip now fuel pwospf interface st).1
        · rw [if_neg hip, if_neg hip, ending_pure]
    · rw [if_neg hv, if_neg hv, ending_pure]
  · -- it reads what is behind the frame, and drops it
    have hvalid := ending_isPacketValidReads_of_short sr (Nat.lt_of_not_le hlen)
    have hv : ¬ isPacketValid packet = true := fun hv =>
      hlen (Nat.le_trans (by decide) (length_of_isPacketValid hv))
    rw [if_neg hv]
    unfold srHandlepacketReads
    simp only [Logged.ending_bind, hvalid]
    rfl

/-- **Every byte that is read is in the frame exactly if the frame has an Ethernet header**, and,
if it is answered by an ICMP error, 42 bytes. -/
theorem reads_inside_iff :
    (∀ s ∈ (srHandlepacketReads sr now fuel pwospf packet interface st).log,
      s.Inside packet) ↔
        14 ≤ packet.length ∧ (BuildsError sr packet → 42 ≤ packet.length) := by
  show All (Span.Inside packet) _ ↔ _
  have harpIp : htons ethertypeIp ≠ htons ethertypeArp := by decide
  by_cases hlen : 14 ≤ packet.length
  · have hdhost := readBytes_reads sr (show 0 + 6 ≤ packet.length by omega)
    have hshost := readBytes_reads sr (show 6 + 6 ≤ packet.length by omega)
    have htype := field16_reads sr (show 12 + 2 ≤ packet.length by omega)
    have hvalid := isPacketValidReads_reads sr hlen
    unfold srHandlepacketReads
    rw [hdhost.all_bind, hshost.all_bind, htype.all_bind, hvalid.all_bind, and_iff_right hlen]
    unfold BuildsError
    by_cases hv : isPacketValid packet = true
    · rw [if_pos hv]
      by_cases harp : etherType packet = htons ethertypeArp
      · have hlong := (isPacketValid_arp_iff harp).mp hv
        rw [if_pos harp]
        exact iff_of_true (srHandleArpPacketReads_inside sr hlong now st).2 fun _ => hlong
      · rw [if_neg harp]
        by_cases hip : etherType packet = htons ethertypeIp
        · rw [if_pos hip]
          refine (srHandleIpPacketReads_spec sr hv hip now fuel pwospf interface st).2.trans ?_
          simp only [hv, hip, true_and, and_imp]
        · rw [if_neg hip]
          simp [hip]
    · rw [if_neg hv]
      simp [hv]
  · -- the type of the frame is behind its end
    have htype : ¬ All (Span.Inside packet) (field16 sr packet 12) := by
      intro hall
      exact hlen ((inside_iff (by decide)).mp (hall ⟨12, 2⟩ List.mem_cons_self))
    refine iff_of_false ?_ fun h => hlen h.1
    intro hall
    unfold srHandlepacketReads at hall
    rw [all_bind_iff rfl, all_bind_iff rfl, all_bind_iff rfl] at hall
    exact htype hall.2.2.1

end Whole

/-- An IP packet of 34 bytes, from 10.0.4.5 to 10.0.9.9, with no hop to go. -/
def headerOnlyFrame : Frame :=
  [0x01, 0x01, 0x01, 0x01, 0x01, 0x01, 0x02, 0x02, 0x02, 0x02, 0x02, 0x02, 0x08, 0x00,
    0x45, 0x00, 0x00, 0x14, 0x00, 0x01, 0x00, 0x00, 0x01, 0xfd, 0x97, 0xdf,
    0x0a, 0x00, 0x04, 0x05, 0x0a, 0x00, 0x09, 0x09]

/-- **The error about it has eight bytes that are not in the frame.** -/
theorem headerOnlyFrame_reads_behind : headerOnlyFrame.length = 34 ∧
    ∃ s ∈ (srHandlepacketReads gatewayRouter 10 1 dropOspf headerOnlyFrame "eth1".toList
      srArpcacheInit).log, s = ⟨14, 28⟩ ∧ ¬ s.Inside headerOnlyFrame := by
  decide

end Redes
