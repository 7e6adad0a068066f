import Redes.Router.System

/-!
# Which ARP packets stop the program

`sr_handle_arp_packet` looks up the interface with the target address of every ARP packet.
The lookup asserts that the address is not zero, and a reply for an address that is not one of
the router's own writes through the interface that was not found as soon as a packet waits for
its sender.  `sr_arp_req_not_for_us` filters requests only.

## Main definitions

* `srArpReqNotForUs` — the filter in front of `sr_handlepacket`.
* `GetsToArpHandler` — the frames that `sr_handle_arp_packet` gets.
* `StrayReply` — a reply for another address, while packets wait for its sender.

## Main results

* `getsToArpHandler_of_reply` — replies are not filtered.
* `srHandleArpPacket_completes_iff` — when the handler completes.
-/

namespace Redes

open Bytes

/-! ### Frames that are handled -/

/-- `sr_arp_req_not_for_us`. -/
def srArpReqNotForUs (ifList : List SrIf) (packet : Frame) (interface : IfName) :
    Except Halt Bool :=
  if packet.length < 14 + 28 then .ok false
  else match srGetInterface ifList interface with
    | none => .error .assertion
    | some iface =>
        .ok (etherType packet = htons ethertypeArp && arOp packet = arpOpRequest &&
          arTip packet ≠ iface.ip)

/-- The frame is valid as an ARP packet, and is not filtered. -/
def GetsToArpHandler (ifList : List SrIf) (packet : Frame) (interface : IfName) : Prop :=
  isPacketValid packet = true ∧ etherType packet = htons ethertypeArp ∧
    srArpReqNotForUs ifList packet interface = .ok false

instance (ifList : List SrIf) (packet : Frame) (interface : IfName) :
    Decidable (GetsToArpHandler ifList packet interface) :=
  inferInstanceAs (Decidable (_ ∧ _ ∧ _))

/-- **Replies are not filtered**, whatever their target address is. -/
theorem getsToArpHandler_of_reply {ifList : List SrIf} {packet : Frame} {interface : IfName}
    (hvalid : isPacketValid packet = true) (htype : etherType packet = htons ethertypeArp)
    (hop : arOp packet = arpOpReply) (hif : srGetInterface ifList interface ≠ none) :
    GetsToArpHandler ifList packet interface := by
  refine ⟨hvalid, htype, ?_⟩
  have hno : arOp packet ≠ arpOpRequest := by
    rw [hop]
    decide
  unfold srArpReqNotForUs
  split
  · rfl
  · cases hfound : srGetInterface ifList interface with
    | none => exact absurd hfound hif
    | some iface => simp [hno]

/-! ### When the handler completes -/

/-- A reply for an address that is none of the router's own, while packets wait for its
sender. -/
def StrayReply (s : RouterState) (packet : Frame) : Prop :=
  arOp packet = arpOpReply ∧ (∀ i ∈ s.ifList, i.ip ≠ arTip packet) ∧
    ∃ r ∈ s.arp.queue.reqs, r.ip = arSip packet ∧ r.packets ≠ []

theorem findInterfaceIp_eq_none {ifList : List SrIf} {ip : IpAddr} :
    findInterfaceIp ifList ip = none ↔ ∀ i ∈ ifList, i.ip ≠ ip := by
  simp [findInterfaceIp]

section Handler

variable {sr : SrInstance} {now : ℤ} {packet : Frame} {st : ArpState}

/-- A reply goes to the request for its sender. -/
theorem srHandleArpPacket_of_reply (hzero : arTip packet ≠ 0) (hop : arOp packet = arpOpReply) :
    srHandleArpPacket sr now packet st =
      match st.queue.find (arSip packet) with
      | none => .ok (afterInsert now packet st)
      | some req =>
          match findInterfaceIp sr.ifList (arTip packet) with
          | none =>
              if req.packets = [] then .ok (srArpreqDestroy req.addr (afterInsert now packet st))
              else .error .nullPointer
          | some i => .ok (srArpreqDestroy req.addr (srArpReplySendPendingPackets req.packets
              i.addr (arSha packet) i (afterInsert now packet st))) := by
  have hlookup : srGetInterfaceGivenIp sr.ifList (arTip packet) =
      .ok (findInterfaceIp sr.ifList (arTip packet)) := if_neg hzero
  have hreq : arOp packet ≠ arpOpRequest := by
    rw [hop]
    decide
  have hins : (srArpcacheInsert (arSha packet) (arSip packet) now st).2 =
    st.queue.find (arSip packet) := rfl
  unfold srHandleArpPacket
  cases hfind : st.queue.find (arSip packet) with
  | none => simp only [hlookup, bind, Except.bind, if_neg hreq, if_pos hop, hins, hfind]
  | some req =>
    cases hif : findInterfaceIp sr.ifList (arTip packet) <;>
      simp only [hlookup, bind, Except.bind, if_neg hreq, if_pos hop, hins, hfind, hif]

/-- A packet with another operation does not get to the requests. -/
theorem srHandleArpPacket_of_not_reply (hzero : arTip packet ≠ 0) (hop : arOp packet ≠ arpOpReply) :
    ∃ st', srHandleArpPacket sr now packet st = .ok st' := by
  have hlookup : srGetInterfaceGivenIp sr.ifList (arTip packet) =
      .ok (findInterfaceIp sr.ifList (arTip packet)) := if_neg hzero
  unfold srHandleArpPacket
  simp only [hlookup, bind, Except.bind]
  by_cases hreq : arOp packet = arpOpRequest
  · rw [if_pos hreq]
    cases findInterfaceIp sr.ifList (arTip packet) <;> exact ⟨_, rfl⟩
  · rw [if_neg hreq, if_neg hop]
    exact ⟨_, rfl⟩

end Handler

/-- **`sr_handle_arp_packet` completes if and only if** the target address is not zero, and the
packet is no stray reply. -/
theorem srHandleArpPacket_completes_iff (env : Env) (s : RouterState) (packet : Frame) :
    (∃ st, srHandleArpPacket (s.srInstance env) env.now packet s.arp = .ok st) ↔
      arTip packet ≠ 0 ∧ ¬ StrayReply s packet := by
  by_cases hzero : arTip packet = 0
  · refine iff_of_false ?_ fun h => h.1 hzero
    rintro ⟨st, hst⟩
    exact arTip_ne_zero hst hzero
  by_cases hop : arOp packet = arpOpReply
  · rw [srHandleArpPacket_of_reply hzero hop]
    show _ ↔ _ ∧ ¬ (_ ∧ (∀ i ∈ s.ifList, i.ip ≠ arTip packet) ∧ _)
    rw [← findInterfaceIp_eq_none]
    cases hfind : s.arp.queue.find (arSip packet) with
    | none =>
      refine iff_of_true ⟨_, rfl⟩ ⟨hzero, ?_⟩
      rintro ⟨-, -, r, hr, hip, -⟩
      exact ArpQueue.find_eq_none.mp hfind r hr hip
    | some req =>
      cases hif : findInterfaceIp s.ifList (arTip packet) with
      | some i =>
        simp only [RouterState.srInstance, hif]
        exact iff_of_true ⟨_, rfl⟩ ⟨hzero, fun h => by cases h.2.1⟩
      | none =>
        -- the packets that wait decide
        obtain ⟨hmem, hreqip⟩ := ArpQueue.find_eq_some.mp hfind
        simp only [RouterState.srInstance, hif]
        by_cases hnil : req.packets = []
        · rw [if_pos hnil]
          refine iff_of_true ⟨_, rfl⟩ ⟨hzero, ?_⟩
          rintro ⟨-, -, r, hr, hip, hne⟩
          rw [s.arp.queue.eq_of_ip hr hmem (hip.trans hreqip.symm)] at hne
          exact hne hnil
        · rw [if_neg hnil]
          refine iff_of_false ?_ fun h => h.2 ⟨hop, trivial, req, hmem, hreqip, hnil⟩
          rintro ⟨st, hst⟩
          cases hst
  · exact iff_of_true (srHandleArpPacket_of_not_reply hzero hop) ⟨hzero, fun h => hop h.1⟩

/-! ### A router with one gateway -/

/-- A reply of the gateway 10.0.1.2, for the address 10.0.9.9. -/
def strayReply : Frame :=
  [0x01, 0x01, 0x01, 0x01, 0x01, 0x01, 0x05, 0x05, 0x05, 0x05, 0x05, 0x05, 0x08, 0x06,
    0x00, 0x01, 0x08, 0x00, 0x06, 0x04, 0x00, 0x02, 0x05, 0x05, 0x05, 0x05, 0x05, 0x05,
    0x0a, 0x00, 0x01, 0x02, 0x01, 0x01, 0x01, 0x01, 0x01, 0x01, 0x0a, 0x00, 0x09, 0x09]

/-- A reply of the same for the address 0.0.0.0. -/
def zeroReply : Frame := strayReply.take 38 ++ [0, 0, 0, 0]

/-- **A reply for no address stops the program at once, one for another address when a packet
waits for the gateway.** -/
theorem arp_stops_program :
    (GetsToArpHandler gatewayRouter.ifList zeroReply "eth1".toList ∧
      srHandleArpPacket gatewayRouter 10 zeroReply srArpcacheInit = .error .assertion) ∧
    ∃ s, RouterRun (fun _ _ _ => True) s ∧
      GetsToArpHandler s.ifList strayReply "eth1".toList ∧
        srHandleArpPacket (s.srInstance quietEnv) quietEnv.now strayReply s.arp =
          .error .nullPointer := by
  refine ⟨⟨by decide, by decide⟩, ?_⟩
  have hevents : ∃ s, [RouterEvent.receive localFrame "eth1".toList].foldlM
      (fun s e => (routerStep quietEnv s e).ending)
      (routerInit gatewayRouter.ifList gatewayRouter.routingTable) = .ok s ∧
      GetsToArpHandler s.ifList strayReply "eth1".toList ∧
        srHandleArpPacket (s.srInstance quietEnv) quietEnv.now strayReply s.arp =
          .error .nullPointer :=
    ⟨_, rfl, by decide, by decide⟩
  obtain ⟨s, hrun, hstops⟩ := hevents
  exact ⟨s, routerRun_of_events (.init _ _) hrun, hstops⟩

end Redes
