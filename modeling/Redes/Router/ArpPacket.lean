import Redes.Router.ArpRequest

/-!
# Received ARP packets

`sr_handle_arp_packet` of `sr_router.c`, and the sending of the packets that waited for a
reply.  The request that `sr_arpcache_insert` returns is used for a reply only: on the
branch for ARP requests it is dropped, and so are the packets on it.

## Main definitions

* `readdressed` — a frame with other Ethernet addresses.
* `srArpReplySendPendingPackets` — the packets of a request are sent.
* `srHandleArpPacket` — the handler.

## Main results

* `srHandleArpPacket_cases` — what the handler can do.
-/

namespace Redes

open Bytes

/-! ### The handler -/

/-- The hardware address at an offset. -/
def loadMac (p : Frame) (i : ℕ) : Mac := ⟨(List.range 6).map fun k => load8 p (i + k), by simp⟩

/-- `ar_op`, in host order. -/
abbrev arOp (p : Frame) : UInt16 := htons (load16 p 20)
/-- `ar_sha`. -/
abbrev arSha (p : Frame) : Mac := loadMac p 22
/-- `ar_sip`. -/
abbrev arSip (p : Frame) : IpAddr := load32 p 28
/-- `ar_tip`. -/
abbrev arTip (p : Frame) : IpAddr := load32 p 38

/-- A frame with the given source and destination addresses. -/
def readdressed (shost dhost : Mac) (buf : Frame) : Frame :=
  store (store buf 6 shost.bytes) 0 dhost.bytes

/-- `sr_arp_reply_send_pending_packets`: all packets leave through one interface, which has
the address `dhost`, for the host that has the address `shost`. -/
def srArpReplySendPendingPackets (packets : List QueuedPacket) (dhost shost : Mac) (iface : SrIf)
    (st : ArpState) : ArpState :=
  packets.foldl (fun st p => st.note (.sent p.id (readdressed dhost shost p.buf) iface.name)) st

/-- The reply that is made in the buffer of an ARP request. -/
def arpReplyFrame (packet : Frame) (myInterface : SrIf) : Frame :=
  let packet' := store packet 6 myInterface.addr.bytes
  let packet' := store packet' 0 (arSha packet).bytes
  let packet' := store packet' 22 myInterface.addr.bytes
  let packet' := store packet' 32 (arSha packet).bytes
  let packet' := store packet' 28 (bytes32 (arTip packet))
  let packet' := store packet' 38 (bytes32 (arSip packet))
  store packet' 20 (bytes16 (htons arpOpReply))

/-- `sr_handle_arp_packet`.  The lookup of the target address asserts that it is not zero,
whatever the operation.  The packets that waited are sent through the interface that has
the target address; if there is none, the first of them is written to through a null
pointer. -/
def srHandleArpPacket (sr : SrInstance) (now : ℤ) (packet : Frame) (st : ArpState) :
    Except Halt ArpState := do
  let myInterface ← srGetInterfaceGivenIp sr.ifList (arTip packet)
  if arOp packet = arpOpRequest then
    match myInterface with
    | none => .ok st
    | some i =>
        let (st, _) := srArpcacheInsert (arSha packet) (arSip packet) now st
        .ok (st.note (.output (arpReplyFrame packet i) i.name))
  else if arOp packet = arpOpReply then
    let (st, arpReq) := srArpcacheInsert (arSha packet) (arSip packet) now st
    match arpReq with
    | none => .ok st
    | some req =>
        match myInterface with
        | none =>
            if req.packets = [] then .ok (srArpreqDestroy req.addr st) else .error .nullPointer
        | some i =>
            let st := srArpReplySendPendingPackets req.packets i.addr (arSha packet) i st
            .ok (srArpreqDestroy req.addr st)
  else .ok st

/-! ### What it does -/

/-- Only the Ethernet addresses differ. -/
def SameButAddresses (frame buf : Frame) : Prop :=
  frame.length = buf.length ∧ frame.drop 12 = buf.drop 12

theorem readdressed_sameButAddresses (shost dhost : Mac) (buf : Frame) :
    SameButAddresses (readdressed shost dhost buf) buf := by
  refine ⟨by simp [readdressed], ?_⟩
  have hs := shost.length_eq
  have hd := dhost.length_eq
  rw [readdressed, drop_store (by omega), drop_store (by omega)]

section Readdressed

variable {shost dhost : Mac} {buf : Frame}

@[simp] theorem length_readdressed : (readdressed shost dhost buf).length = buf.length := by
  simp [readdressed]

theorem etherShost_readdressed (hlen : 12 ≤ buf.length) :
    etherShost (readdressed shost dhost buf) = shost.bytes := by
  have hs := shost.length_eq
  have hd := dhost.length_eq
  have hself : slice (store buf 6 shost.bytes) 6 shost.bytes.length = shost.bytes :=
    slice_store_self (by omega)
  unfold readdressed etherShost
  rw [slice_store_of_disjoint (by omega)]
  rwa [hs] at hself

theorem drop_readdressed {n : ℕ} (h : 12 ≤ n) :
    (readdressed shost dhost buf).drop n = buf.drop n := by
  have hs := shost.length_eq
  have hd := dhost.length_eq
  unfold readdressed
  rw [drop_store (by omega), drop_store (by omega)]

theorem load8_readdressed {j : ℕ} (h : 12 ≤ j) :
    load8 (readdressed shost dhost buf) j = load8 buf j := by
  have hs := shost.length_eq
  have hd := dhost.length_eq
  unfold readdressed
  rw [load8_store_of_disjoint (by omega), load8_store_of_disjoint (by omega)]

theorem load16_readdressed {j : ℕ} (h : 12 ≤ j) :
    load16 (readdressed shost dhost buf) j = load16 buf j := by
  have hs := shost.length_eq
  have hd := dhost.length_eq
  unfold readdressed
  rw [load16_store_of_disjoint (by omega), load16_store_of_disjoint (by omega)]

theorem load32_readdressed {j : ℕ} (h : 12 ≤ j) :
    load32 (readdressed shost dhost buf) j = load32 buf j := by
  have hs := shost.length_eq
  have hd := dhost.length_eq
  unfold readdressed
  rw [load32_store_of_disjoint (by omega), load32_store_of_disjoint (by omega)]

theorem ipCksum_readdressed : ipCksum (readdressed shost dhost buf) = ipCksum buf := by
  have hs := shost.length_eq
  have hd := dhost.length_eq
  unfold readdressed
  rw [ipCksum_store_of_disjoint (by omega), ipCksum_store_of_disjoint (by omega)]

theorem ospfv2Cksum_readdressed (len : ℕ) :
    ospfv2Cksum (readdressed shost dhost buf) len = ospfv2Cksum buf len := by
  have hs := shost.length_eq
  have hd := dhost.length_eq
  unfold readdressed
  rw [ospfv2Cksum_store_of_le (by omega), ospfv2Cksum_store_of_le (by omega)]

end Readdressed

theorem sendPending_eq (packets : List QueuedPacket) (dhost shost : Mac) (iface : SrIf)
    (st : ArpState) :
    srArpReplySendPendingPackets packets dhost shost iface st =
      { st with trace := (packets.map fun p =>
          ArpEvent.sent p.id (readdressed dhost shost p.buf) iface.name).reverse ++ st.trace } := by
  unfold srArpReplySendPendingPackets
  induction packets generalizing st with
  | nil => rfl
  | cons p packets ih =>
    rw [List.foldl_cons, ih, List.map_cons, List.reverse_cons, List.append_assoc]
    rfl

/-- After `sr_arpcache_insert` the request it returns is not in the queue. -/
theorem destroy_insert {mac : Mac} {ip : IpAddr} {now : ℤ} {st : ArpState} {req : ArpReq}
    (h : st.queue.find ip = some req) :
    (srArpcacheInsert mac ip now st).1.queue.reqs.eraseP (fun r => r.addr = req.addr) =
      (srArpcacheInsert mac ip now st).1.queue.reqs := by
  refine List.eraseP_of_forall_not fun r hr => ?_
  obtain ⟨hr, hip⟩ := mem_insert.mp hr
  obtain ⟨hreq, hreqip⟩ := ArpQueue.find_eq_some.mp h
  have hne : r.addr ≠ req.addr := fun haddr =>
    hip (by rw [st.queue.eq_of_addr hr hreq haddr, hreqip])
  simpa using hne

/-- The state after the mapping of the sender was inserted. -/
abbrev afterInsert (now : ℤ) (packet : Frame) (st : ArpState) : ArpState :=
  (srArpcacheInsert (arSha packet) (arSip packet) now st).1

/-- The history after the packets that waited for the sender of a reply were sent. -/
theorem trace_replied (now : ℤ) (packet : Frame) (st : ArpState) (req : ArpReq) (i : SrIf) :
    (srArpreqDestroy req.addr (srArpReplySendPendingPackets req.packets i.addr (arSha packet) i
      (afterInsert now packet st))).trace =
      (req.packets.map fun p =>
        ArpEvent.sent p.id (readdressed i.addr (arSha packet) p.buf) i.name).reverse ++
          .learnt (arSip packet) (arSha packet) :: st.trace := by
  unfold srArpreqDestroy
  rw [sendPending_eq]
  rfl

/-- **What `sr_handle_arp_packet` can do** when it returns: nothing, insert the mapping of a
sender who asks for one of the router's addresses, or insert that of a sender who replies and
send the packets that waited for it. -/
theorem srHandleArpPacket_cases {sr : SrInstance} {now : ℤ} {packet : Frame} {st st' : ArpState}
    (h : srHandleArpPacket sr now packet st = .ok st') :
    (arOp packet ≠ arpOpReply ∧ st' = st) ∨
    (∃ i, arOp packet = arpOpRequest ∧ findInterfaceIp sr.ifList (arTip packet) = some i ∧
      st' = (afterInsert now packet st).note (.output (arpReplyFrame packet i) i.name)) ∨
    (st.queue.find (arSip packet) = none ∧ st' = afterInsert now packet st) ∨
    ∃ req iface, arOp packet = arpOpReply ∧ st.queue.find (arSip packet) = some req ∧
      (req.packets ≠ [] → findInterfaceIp sr.ifList (arTip packet) = some iface) ∧
      st' = srArpreqDestroy req.addr (srArpReplySendPendingPackets req.packets iface.addr
        (arSha packet) iface (afterInsert now packet st)) := by
  unfold srHandleArpPacket srGetInterfaceGivenIp at h
  by_cases hzero : arTip packet = 0
  · rw [if_pos hzero] at h
    cases h
  rw [if_neg hzero] at h
  simp only [bind, Except.bind] at h
  by_cases hreq : arOp packet = arpOpRequest
  · rw [if_pos hreq] at h
    cases hif : findInterfaceIp sr.ifList (arTip packet) with
    | none =>
      simp only [hif] at h
      cases h
      exact .inl ⟨by rw [hreq]; decide, rfl⟩
    | some i =>
      simp only [hif] at h
      cases h
      exact .inr (.inl ⟨i, hreq, rfl, rfl⟩)
  · rw [if_neg hreq] at h
    by_cases hrep : arOp packet = arpOpReply
    · rw [if_pos hrep] at h
      have hins : (srArpcacheInsert (arSha packet) (arSip packet) now st).2 =
        st.queue.find (arSip packet) := rfl
      right; right
      cases hfind : st.queue.find (arSip packet) with
      | none =>
        simp only [hins, hfind] at h
        cases h
        exact .inl ⟨rfl, rfl⟩
      | some req =>
        right
        simp only [hins, hfind] at h
        cases hif : findInterfaceIp sr.ifList (arTip packet) with
        | none =>
          simp only [hif] at h
          by_cases hnil : req.packets = []
          · rw [if_pos hnil] at h
            cases h
            exact ⟨req, default, hrep, rfl, fun hne => absurd hnil hne, by rw [hnil]; rfl⟩
          · rw [if_neg hnil] at h
            cases h
        | some i =>
          simp only [hif] at h
          cases h
          exact ⟨req, i, hrep, rfl, fun _ => rfl, rfl⟩
    · rw [if_neg hrep] at h
      cases h
      exact .inl ⟨hrep, rfl⟩

/-- A packet whose target address is zero is not handled. -/
theorem arTip_ne_zero {sr : SrInstance} {now : ℤ} {packet : Frame} {st st' : ArpState}
    (h : srHandleArpPacket sr now packet st = .ok st') : arTip packet ≠ 0 := by
  intro hzero
  unfold srHandleArpPacket srGetInterfaceGivenIp at h
  rw [if_pos hzero] at h
  cases h

/-- A reply for one of the router's addresses is handled, and what waited for it is sent. -/
theorem srHandleArpPacket_reply {sr : SrInstance} (now : ℤ) {packet : Frame} {st : ArpState}
    {i : SrIf} {req : ArpReq} (hop : arOp packet = arpOpReply)
    (hif : srGetInterfaceGivenIp sr.ifList (arTip packet) = .ok (some i))
    (hfind : st.queue.find (arSip packet) = some req) :
    srHandleArpPacket sr now packet st =
      .ok (srArpreqDestroy req.addr (srArpReplySendPendingPackets req.packets i.addr
        (arSha packet) i (afterInsert now packet st))) := by
  have hreq : arOp packet ≠ arpOpRequest := by
    rw [hop]
    decide
  have hins : (srArpcacheInsert (arSha packet) (arSip packet) now st).2 = some req := hfind
  unfold srHandleArpPacket
  rw [hif]
  simp only [bind, Except.bind]
  rw [if_neg hreq, if_pos hop]
  simp only [hins]

end Redes
