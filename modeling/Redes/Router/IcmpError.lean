import Redes.Router.Forwarding

/-!
# ICMP errors and the packets they answer

`sr_send_icmp_error_packet` is called in four places.  Three of them pass the frame; the
fourth, the loop of `host_unreachable`, passes a pointer that is already behind the
Ethernet header, so that the error is about bytes 14 further on.

## Main definitions

* `ErrorSite`, `ErrorSite.call` — the four calls.
* `raisedError` — which of them `sr_handle_ip_packet` makes.
* `ErrorSite.Raises` — the frames that a call sends or queues.
* `Answers` — an error is about a packet.

## Main results

* `srHandleIpPacket_of_raised`, `unreachablePacket_eq` — the calls are those of the code.
* `ErrorSite.raises_iff` — what a call sends or queues.
* `icmpError_answers_iff` — when it answers the packet.
-/

namespace Redes

open Bytes

/-- The places where `sr_send_icmp_error_packet` is called. -/
inductive ErrorSite
  /-- `sr_handle_ip_packet`: the TTL has run out. -/
  | ttlExpired
  /-- `sr_handle_ip_packet`: there is no route. -/
  | netUnreachable
  /-- `sr_handle_ip_packet`: the packet is for the router, and no ICMP packet. -/
  | portUnreachable
  /-- `host_unreachable`: nobody answered the ARP request. -/
  | hostUnreachable
  deriving DecidableEq

/-- What is passed for a packet: the type, the code, the address the error is for, and the
offset that the pointer has in the packet's frame. -/
def ErrorSite.args (sr : SrInstance) (packet : Frame) : ErrorSite → UInt8 × UInt8 × IpAddr × ℕ
  | .ttlExpired => (11, 0, ipSrc packet, 0)
  | .netUnreachable => (3, 0, ipSrc packet, 0)
  | .portUnreachable => (3, 3, ipSrc packet, 0)
  | .hostUnreachable => (3, 1, queuedIpSrc sr packet, 14)

/-- The call of `sr_send_icmp_error_packet`. -/
def ErrorSite.call (site : ErrorSite) (sr : SrInstance)
    (handle : ℕ → ArpState → Except Halt ArpState) (packet : Frame) (st : ArpState) :
    Except Halt ArpState :=
  let (type, code, ipDst, off) := site.args sr packet
  srSendIcmpErrorPacket sr handle type code ipDst packet off st

/-- The error that `sr_handle_ip_packet` raises for a packet. -/
def raisedError (sr : SrInstance) (packet : Frame) : Option ErrorSite :=
  if packet.length < 14 + 20 ∨ ipSum packet ≠ ipCksum packet ∨
      ipP packet = ipProtocolOspfv2 then none
  else if (sr.ifList.any fun i => i.ip = ipDst packet) = true then
    if ipP packet = ipProtocolIcmp then none else some .portUnreachable
  else if ipTtl packet ≤ 1 then some .ttlExpired
  else if srFindRtEntry sr.routingTable (ipDst packet) = none then some .netUnreachable
  else none

/-! ### The calls are those of the code -/

/-- `sr_handle_ip_packet` raises its errors at the first three places. -/
theorem srHandleIpPacket_of_raised {sr : SrInstance} {packet : Frame} {site : ErrorSite}
    (h : raisedError sr packet = some site) (now : ℤ) (fuel : ℕ)
    (pwospf : Frame → Option SrIf → ArpState → Except Halt ArpState) (interface : IfName)
    (st : ArpState) :
    srHandleIpPacket sr now fuel pwospf packet interface st =
      site.call sr (handleArpreq sr now fuel) packet st := by
  unfold raisedError at h
  unfold srHandleIpPacket
  split at h
  · cases h
  · next hip =>
    push Not at hip
    obtain ⟨hlen, hsum, hproto⟩ := hip
    rw [if_neg (by omega), if_neg (by simp [hsum]), if_neg hproto]
    split at h
    · next hmine =>
      simp only [hmine, and_false, if_false, if_true, Bool.true_eq_false]
      by_cases hicmp : ipP packet = ipProtocolIcmp
      · rw [if_pos hicmp] at h
        cases h
      · rw [if_neg hicmp] at h ⊢
        cases h
        rfl
    · next hmine =>
      rw [Bool.not_eq_true] at hmine
      simp only [hmine, and_true, if_false, Bool.false_eq_true]
      split at h
      · next httl =>
        cases h
        rw [if_pos httl]
        rfl
      · next httl =>
        rw [if_neg httl]
        split at h
        · next hroute =>
          cases h
          rw [hroute]
          rfl
        · cases h

/-- The loop of `host_unreachable` raises its error at the last. -/
theorem unreachablePacket_eq (sr : SrInstance) (handle : ℕ → ArpState → Except Halt ArpState)
    (addr : ℕ) (st : ArpState) (p : QueuedPacket) :
    unreachablePacket sr handle addr st p =
      (ErrorSite.hostUnreachable.call sr handle p.buf (st.note (.gaveUp p.id addr)) >>= fun st =>
        if st.queue.deref addr = none then .error .useAfterFree else .ok st) := rfl

/-! ### What a call sends or queues -/

/-- Between two states a frame was sent or queued, and nothing else happened. -/
def Emitted (st st' : ArpState) (frame : Frame) : Prop :=
  ∃ e, st'.trace = e :: st.trace ∧
    ((∃ iface, e = .output frame iface) ∨ ∃ p addr ip, e = .queued p addr ip ∧ p.buf = frame)

/-- A call sends the frame, or queues it.  The request that a queued frame waits for is
handled afterwards, which has no part in this. -/
def ErrorSite.Raises (site : ErrorSite) (sr : SrInstance) (packet : Frame) (st : ArpState)
    (frame : Frame) : Prop :=
  ∃ st', site.call sr (fun _ st => .ok st) packet st = .ok st' ∧ Emitted st st' frame

/-- An ICMP error is for the source of a packet, and has the packet's first 28 bytes as its
data. -/
def Answers (frame packet : Frame) : Prop :=
  ipDst frame = ipSrc packet ∧ slice frame 42 28 = slice packet 14 28

instance (frame packet : Frame) : Decidable (Answers frame packet) :=
  inferInstanceAs (Decidable (_ ∧ _))

/-- What a call does before it handles a request does not depend on how this is done. -/
theorem ErrorSite.call_cases (site : ErrorSite) (sr : SrInstance) (packet : Frame) (st : ArpState) :
    (∃ st', ∀ handle, site.call sr handle packet st = .ok st') ∨
      ∃ addr st', ∀ handle, site.call sr handle packet st = handle addr st' := by
  unfold ErrorSite.call
  simp only [srSendIcmpErrorPacket_eq]
  split
  · exact .inl ⟨_, fun _ => rfl⟩
  · split
    · exact .inl ⟨_, fun _ => rfl⟩
    · exact .inr ⟨_, _, fun _ => rfl⟩

theorem not_emitted_self (st : ArpState) (frame : Frame) : ¬ Emitted st st frame := by
  rintro ⟨e, htrace, -⟩
  exact List.cons_ne_self e st.trace htrace.symm

theorem emitted_output {st : ArpState} {packet frame : Frame} {iface : IfName} :
    Emitted st (st.note (.output packet iface)) frame ↔ frame = packet := by
  constructor
  · rintro ⟨e, htrace, hout⟩
    injection htrace with he
    subst he
    rcases hout with ⟨iface', he⟩ | ⟨p, addr, ip, he, -⟩
    · injection he with hframe
      exact hframe.symm
    · cases he
  · rintro rfl
    exact ⟨_, rfl, .inl ⟨iface, rfl⟩⟩

theorem queuereq_trace {ip : IpAddr} {packet : Frame} {iface : IfName} {st : ArpState}
    (hne : packet ≠ []) :
    (srArpcacheQueuereq ip packet iface st).1.trace =
      .queued ⟨st.nextId, packet, iface⟩ (st.queue.reqFor ip).addr ip :: st.trace := by
  have haddr := queuereq_addr ip packet iface st
  unfold srArpcacheQueuereq at haddr ⊢
  simp only [hne, if_false] at haddr ⊢
  rw [haddr]

theorem emitted_queuereq {ip : IpAddr} {st : ArpState} {packet frame : Frame} {iface : IfName}
    (hne : packet ≠ []) :
    Emitted st (srArpcacheQueuereq ip packet iface st).1 frame ↔ frame = packet := by
  constructor
  · rintro ⟨e, htrace, hout⟩
    rw [queuereq_trace hne] at htrace
    injection htrace with he
    subst he
    rcases hout with ⟨iface', he⟩ | ⟨p, addr, ip', he, hbuf⟩
    · cases he
    · injection he with hp
      rw [← hbuf, ← hp]
  · rintro rfl
    exact ⟨_, queuereq_trace hne, .inr ⟨_, _, _, rfl, rfl⟩⟩

/-- **What a call sends or queues** is the error, to a next hop and through an interface. -/
theorem ErrorSite.raises_iff {site : ErrorSite} {sr : SrInstance} {packet frame : Frame}
    {st : ArpState} {type code : UInt8} {dst : IpAddr} {off : ℕ}
    (hargs : site.args sr packet = (type, code, dst, off)) :
    site.Raises sr packet st frame ↔ ∃ hop outIface, icmpErrorRoute sr dst = some (hop, outIface) ∧
      frame = match srArpcacheLookup st.entries hop with
        | some e => store (icmpErrorFrame sr type code outIface packet off) 0 e.mac.bytes
        | none => icmpErrorFrame sr type code outIface packet off := by
  unfold ErrorSite.Raises ErrorSite.call
  simp only [hargs, srSendIcmpErrorPacket_eq]
  cases hroute : icmpErrorRoute sr dst with
  | none => simp [not_emitted_self]
  | some hopIf =>
    obtain ⟨hop, outIface⟩ := hopIf
    cases harp : srArpcacheLookup st.entries hop with
    | some e => simp [harp, emitted_output]
    | none =>
      have hne := icmpErrorFrame_ne_nil sr type code outIface packet off
      simp [harp, emitted_queuereq hne]

/-! ### What the error is about -/

section Frame

variable (sr : SrInstance) (type code : UInt8) (outIface : SrIf) (buf : Frame) (off : ℕ)

/-- The destination is read from the packet. -/
theorem ipDst_icmpErrorFrame : ipDst (icmpErrorFrame sr type code outIface buf off) =
    load32 (readMem sr.behind buf (off + 26) 4) 0 := by
  have hread : (readMem sr.behind buf (off + 14 + 12) 4).length = 4 := length_readMem _ _ _ _
  unfold icmpErrorFrame ipDst
  rw [load32_store_of_disjoint (by simp), load32_store_of_disjoint (by simp),
    load32_store_of_disjoint (by simp), load32_store_of_disjoint (by simp),
    load32_store (by omega) (by simp [icmpErrorLen])]

/-- The data are read from the packet. -/
theorem data_icmpErrorFrame : slice (icmpErrorFrame sr type code outIface buf off) 42 28 =
    readMem sr.behind buf (off + 14) 28 := by
  have hread : (readMem sr.behind buf (off + 14) 28).length = 28 := length_readMem _ _ _ _
  unfold icmpErrorFrame
  rw [slice_store_of_disjoint (by simp)]
  conv_lhs => rw [← hread]
  exact slice_store_self (by simp [icmpErrorLen])

end Frame

/-- The source of a packet, read from its first 28 bytes. -/
theorem ipSrc_eq_load32 (packet : Frame) : ipSrc packet = load32 (slice packet 14 28) 12 := by
  rw [load32_slice (by omega)]

theorem queuedIpSrc_eq (sr : SrInstance) {packet : Frame} (hlen : 42 ≤ packet.length) :
    queuedIpSrc sr packet = ipSrc packet :=
  load32_readMem (by omega)

/-- **An error answers a packet exactly if the 28 bytes read are the packet's first.** -/
theorem answers_icmpErrorFrame_iff (sr : SrInstance) (type code : UInt8) (outIface : SrIf)
    (packet : Frame) (off : ℕ) :
    Answers (icmpErrorFrame sr type code outIface packet off) packet ↔
      readMem sr.behind packet (off + 14) 28 = slice packet 14 28 := by
  unfold Answers
  rw [ipDst_icmpErrorFrame, data_icmpErrorFrame, and_iff_right_iff_imp]
  intro hdata
  have hword : load32 (readMem sr.behind packet (off + 14) 28) 12 =
      load32 (readMem sr.behind packet (off + 26) 4) 0 := load32_readMem_readMem (by omega)
  rw [ipSrc_eq_load32, ← hdata, hword]

/-- The hardware address in front does not matter. -/
theorem answers_store_iff {frame packet : Frame} (mac : Mac) :
    Answers (store frame 0 mac.bytes) packet ↔ Answers frame packet := by
  have hmac : mac.bytes.length = 6 := mac.length_eq
  unfold Answers
  rw [ipDst, load32_store_of_disjoint (by omega), slice_store_of_disjoint (by omega)]

/-- **When the errors of a call answer the packet.**  Three of the calls pass the frame.  What
`host_unreachable` passes lies 14 bytes behind: its errors answer the packet only if none is
sent, or if the packet repeats itself there. -/
theorem icmpError_answers_iff (site : ErrorSite) (sr : SrInstance) {packet : Frame}
    (hlen : 42 ≤ packet.length) (st : ArpState) :
    (∀ frame, site.Raises sr packet st frame → Answers frame packet) ↔
      site ≠ .hostUnreachable ∨ icmpErrorRoute sr (ipSrc packet) = none ∨
        readMem sr.behind packet 28 28 = slice packet 14 28 := by
  have hsite : ∃ type code off, site.args sr packet = (type, code, ipSrc packet, off) ∧
      ((site ≠ .hostUnreachable ∧ off = 0) ∨ (site = .hostUnreachable ∧ off = 14)) := by
    cases site with
    | hostUnreachable =>
      refine ⟨3, 1, 14, ?_, .inr ⟨rfl, rfl⟩⟩
      rw [← queuedIpSrc_eq sr hlen]
      rfl
    | _ => exact ⟨_, _, 0, rfl, .inl ⟨by decide, rfl⟩⟩
  obtain ⟨type, code, off, hargs, hoff⟩ := hsite
  have hall : (∀ frame, site.Raises sr packet st frame → Answers frame packet) ↔
      icmpErrorRoute sr (ipSrc packet) = none ∨
        readMem sr.behind packet (off + 14) 28 = slice packet 14 28 := by
    simp only [ErrorSite.raises_iff hargs]
    cases hroute : icmpErrorRoute sr (ipSrc packet) with
    | none => simp
    | some hopIf =>
      obtain ⟨hop, outIface⟩ := hopIf
      cases harp : srArpcacheLookup st.entries hop with
      | some e => simp [harp, answers_store_iff, answers_icmpErrorFrame_iff]
      | none => simp [harp, answers_icmpErrorFrame_iff]
  rw [hall]
  rcases hoff with ⟨hsite, rfl⟩ | ⟨rfl, rfl⟩
  · -- the frame was passed: the bytes read are those of the packet
    rw [Nat.zero_add, readMem_eq_slice hlen]
    simp [hsite]
  · simp

/-- A datagram without data from 10.0.1.7 to 10.0.4.5, padded by its sender. -/
def paddedFrame : Frame := localFrame ++ List.replicate 18 0

/-- The error for a packet whose TTL has run out does, and the router has a route back. -/
theorem icmpError_answers_ttl :
    42 ≤ paddedFrame.length ∧ ∀ frame,
      ErrorSite.ttlExpired.Raises gatewayRouter paddedFrame srArpcacheInit frame →
        Answers frame paddedFrame :=
  ⟨by decide, (icmpError_answers_iff .ttlExpired gatewayRouter (by decide) srArpcacheInit).mpr
    (.inl (by decide))⟩

/-- The errors of `host_unreachable` do not answer the packet: its error for this one is for the
address 0.0.0.0. -/
theorem hostUnreachable_misdirected :
    ∃ frame, ErrorSite.hostUnreachable.Raises gatewayRouter paddedFrame srArpcacheInit frame ∧
      42 ≤ paddedFrame.length ∧ ipSrc paddedFrame ≠ 0 ∧ ipDst frame = 0 ∧
        ¬ Answers frame paddedFrame := by
  obtain ⟨hop, outIface, hroute, harp⟩ : ∃ hop outIface,
      icmpErrorRoute gatewayRouter (queuedIpSrc gatewayRouter paddedFrame) = some (hop, outIface) ∧
        srArpcacheLookup srArpcacheInit.entries hop = none := ⟨_, _, rfl, by decide⟩
  refine ⟨icmpErrorFrame gatewayRouter 3 1 outIface paddedFrame 14, ?_, by decide, by decide, ?_,
    ?_⟩
  · refine (ErrorSite.raises_iff rfl).mpr ⟨hop, outIface, hroute, ?_⟩
    rw [harp]
  · rw [ipDst_icmpErrorFrame]
    decide
  · rw [answers_icmpErrorFrame_iff]
    decide

end Redes
