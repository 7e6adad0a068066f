import Redes.Lib.Fuel
import Redes.Router.ArpCache
import Redes.Router.RoutingTable

/-!
# Asking for an address and giving up

The functions of `sr_arpcache.c` that send ARP requests, and the ICMP errors of
`sr_router.c` that are sent when nobody answers.  These call each other:
`handle_arpreq`, `host_unreachable`, `sr_send_icmp_error_packet`,
`sr_arpcache_queuereq`, and `handle_arpreq` again.  `handleArpreq` closes the circle, with
the depth of the recursion as its fuel; the functions in between take what they call at the
end as an argument.  One reading of the clock serves a whole call.

## Main definitions

* `SrInstance` — what these functions read of the router.
* `srArpRequestSend` — an ARP request from every interface.
* `icmpErrorFrame`, `srSendIcmpErrorPacket` — ICMP errors.
* `hostUnreachable`, `handleArpreq` — giving up, asking again.
* `srArpcacheSweepreqs`, `srArpcacheTimeout` — the timer.
* `Doomed` — the requests that are given up when they are handled.

## Main results

* `handleArpreq_cases`, `unreachablePacket_cases` — what a call and a turn of its loop can do.
* `handleArpreq_invariant` — what the basic steps preserve, a call preserves.
* `handleArpreq_untouched`, `handleArpreq_absent` — requests that are due to be given up
  stay as they are until they are.
* `handleArpreq_rule` — the invariant rule, with what is known where each step is made.
-/

namespace Redes

open Bytes Fuel

/-- What the functions read of `struct sr_instance`, and of memory nobody has written. -/
structure SrInstance where
  /-- The interfaces. -/
  ifList : List SrIf
  /-- The routing table. -/
  routingTable : List SrRt
  /-- The bytes `malloc` leaves in a new block. -/
  uninit : ℕ → UInt8
  /-- The bytes at offsets behind the end of a buffer. -/
  behind : ℕ → UInt8

/-! ### ARP requests -/

/-- `arp_op_request`. -/
def arpOpRequest : UInt16 := 1
/-- `arp_op_reply`. -/
def arpOpReply : UInt16 := 2

/-- The ARP request for `ip` that leaves through the interface `i`. -/
def arpRequestFrame (i : SrIf) (ip : IpAddr) : Frame :=
  (generateEthernetAddr 255).bytes ++ i.addr.bytes ++ bytes16 (htons ethertypeArp) ++
    -- hardware and protocol type, address lengths, operation
    bytes16 (htons 1) ++ bytes16 (htons 2048) ++ [6, 4] ++ bytes16 (htons arpOpRequest) ++
    -- sender, target
    i.addr.bytes ++ bytes32 i.ip ++ (generateEthernetAddr 0).bytes ++ bytes32 ip

/-- `sr_arp_request_send`. -/
def srArpRequestSend (sr : SrInstance) (ip : IpAddr) (st : ArpState) : ArpState :=
  sr.ifList.foldl (fun st i => st.note (.output (arpRequestFrame i ip) i.name)) st

/-- What such a call puts into the history: a request on every interface, the last one first. -/
def requestFrames (ifList : List SrIf) (ip : IpAddr) : List ArpEvent :=
  (ifList.map fun i => .output (arpRequestFrame i ip) i.name).reverse

/-! ### ICMP errors -/

/-- The size of an ICMP error: the headers, and 28 bytes of the packet it is about. -/
def icmpErrorLen : ℕ := 14 + 20 + 36

/-- The frame that `sr_send_icmp_error_packet` builds for a packet whose Ethernet header it
takes to be at the offset `off` of `buf`: its IP header is read 14 bytes behind. -/
def icmpErrorFrame (sr : SrInstance) (type code : UInt8) (outIface : SrIf) (buf : Frame)
    (off : ℕ) : Frame :=
  let ipHdr := off + 14
  let frame := (List.range icmpErrorLen).map sr.uninit
  let frame := store frame 6 outIface.addr.bytes
  let frame := store frame 12 (bytes16 (htons ethertypeIp))
  -- version and header length, type of service, length, id, fragment offset, TTL, protocol
  let frame := store frame 14 ([0x45, 0] ++ bytes16 (htons 56) ++ bytes16 (htons 0) ++
    bytes16 (htons 0x4000) ++ [64, ipProtocolIcmp])
  let frame := store frame 26 (bytes32 outIface.ip)
  let frame := store frame 30 (readMem sr.behind buf (ipHdr + 12) 4)
  let frame := store frame 24 (bytes16 (ipCksum frame))
  let frame := store frame 34 [type, code, 0, 0]
  let frame := store frame 42 (readMem sr.behind buf ipHdr 28)
  store frame 36 (bytes16 (icmpCksum frame 36))

/-- `sr_send_icmp_error_packet`: no error is sent to one of the router's own addresses, nor
without a route and its interface.  On a miss the frame is queued and the request for the
next hop is handled. -/
def srSendIcmpErrorPacket (sr : SrInstance) (handle : ℕ → ArpState → Except Halt ArpState)
    (type code : UInt8) (ipDst : IpAddr) (buf : Frame) (off : ℕ) (st : ArpState) :
    Except Halt ArpState :=
  if (sr.ifList.any fun i => i.ip = ipDst) = true then .ok st
  else match srFindRtEntry sr.routingTable ipDst with
    | none => .ok st
    | some rtMatch =>
        let arpIpDest := if rtMatch.gw = 0 then ipDst else rtMatch.gw
        match srGetInterface sr.ifList rtMatch.interface with
        | none => .ok st
        | some outIface =>
            let frame := icmpErrorFrame sr type code outIface buf off
            match srArpcacheLookup st.entries arpIpDest with
            | some e => .ok (st.note (.output (store frame 0 e.mac.bytes) outIface.name))
            | none =>
                let (st, addr) := srArpcacheQueuereq arpIpDest frame outIface.name st
                handle addr st

/-! ### Giving up and asking again -/

/-- The source address of the IP packet in a queued frame. -/
def queuedIpSrc (sr : SrInstance) (buf : Frame) : IpAddr := load32 (readMem sr.behind buf 26 4) 0

/-- One turn of the loop of `host_unreachable`.  The next packet is then found through the
request's own memory. -/
def unreachablePacket (sr : SrInstance) (handle : ℕ → ArpState → Except Halt ArpState)
    (addr : ℕ) (st : ArpState) (p : QueuedPacket) : Except Halt ArpState := do
  let st ← srSendIcmpErrorPacket sr handle 3 1 (queuedIpSrc sr p.buf) p.buf 14
    (st.note (.gaveUp p.id addr))
  if st.queue.deref addr = none then .error .useAfterFree else .ok st

/-- `host_unreachable`: packets that join the request meanwhile go to the front of its list,
behind the loop. -/
def hostUnreachable (sr : SrInstance) (handle : ℕ → ArpState → Except Halt ArpState)
    (req : ArpReq) (st : ArpState) : Except Halt ArpState :=
  req.packets.foldlM (unreachablePacket sr handle req.addr) st

/-- `handle_arpreq` on the request at an address: a request that was not sent within the
last second is sent again, and given up after five times. -/
def handleArpreq (sr : SrInstance) (now : ℤ) : ℕ → ℕ → ArpState → Except Halt ArpState
  | 0, _, _ => .error .outOfFuel
  | fuel + 1, addr, st =>
      match st.queue.deref addr with
      | none => .error .useAfterFree
      | some req =>
          if 1 < now - req.sent then
            if 5 ≤ req.timesSent then do
              let st ← hostUnreachable sr (handleArpreq sr now fuel) req st
              .ok (srArpreqDestroy addr st)
            else
              let st := srArpRequestSend sr req.ip (st.note (.requested addr))
              .ok { st with queue := st.queue.markSent addr now }
          else .ok st

/-! ### The timer -/

/-- `req->next`: the address behind a record of the list, if there is one. -/
def nextAddr : List ArpReq → ℕ → Option (Option ℕ)
  | [], _ => none
  | r :: rest, addr =>
      if r.addr = addr then some (rest.head?.map ArpReq.addr) else nextAddr rest addr

/-- The loop of `sr_arpcache_sweepreqs`, with a bound on its turns: the next record is looked
up before the current one is handled. -/
def sweepreqsLoop (sr : SrInstance) (now : ℤ) (fuel : ℕ) :
    ℕ → Option ℕ → ArpState → Except Halt ArpState
  | _, none, st => .ok st
  | 0, some _, _ => .error .outOfFuel
  | n + 1, some currReq, st =>
      match nextAddr st.queue.reqs currReq with
      | none => .error .useAfterFree
      | some nextReq => do
          let st ← handleArpreq sr now fuel currReq st
          sweepreqsLoop sr now fuel n nextReq st

/-- `sr_arpcache_sweepreqs`. -/
def srArpcacheSweepreqs (sr : SrInstance) (now : ℤ) (fuel : ℕ) (st : ArpState) :
    Except Halt ArpState :=
  sweepreqsLoop sr now fuel fuel (st.queue.reqs.head?.map ArpReq.addr) st

/-- One turn of the loop of `sr_arpcache_timeout`. -/
def srArpcacheTimeout (sr : SrInstance) (now : ℤ) (fuel : ℕ) (st : ArpState) :
    Except Halt ArpState :=
  srArpcacheSweepreqs sr now fuel { st with entries := expireEntries now st.entries }

/-! ### ICMP errors: where they go -/

@[simp] theorem length_icmpErrorFrame (sr : SrInstance) (type code : UInt8) (outIface : SrIf)
    (buf : Frame) (off : ℕ) :
    (icmpErrorFrame sr type code outIface buf off).length = icmpErrorLen := by
  simp [icmpErrorFrame]

theorem icmpErrorFrame_ne_nil (sr : SrInstance) (type code : UInt8) (outIface : SrIf)
    (buf : Frame) (off : ℕ) : icmpErrorFrame sr type code outIface buf off ≠ [] :=
  List.ne_nil_of_length_pos (by rw [length_icmpErrorFrame]; decide)

/-- The next hop and the interface of an ICMP error that has to be queued. -/
def icmpErrorHop (sr : SrInstance) (entries : List ArpEntry) (ipDst : IpAddr) :
    Option (IpAddr × SrIf) :=
  if (sr.ifList.any fun i => i.ip = ipDst) = true then none
  else
    (srFindRtEntry sr.routingTable ipDst).bind fun rtMatch =>
      (srGetInterface sr.ifList rtMatch.interface).bind fun outIface =>
        let hop := if rtMatch.gw = 0 then ipDst else rtMatch.gw
        if srArpcacheLookup entries hop = none then some (hop, outIface) else none

/-- The next hop and the interface of an ICMP error, if it is sent at all. -/
def icmpErrorRoute (sr : SrInstance) (ipDst : IpAddr) : Option (IpAddr × SrIf) :=
  if (sr.ifList.any fun i => i.ip = ipDst) = true then none
  else
    (srFindRtEntry sr.routingTable ipDst).bind fun rtMatch =>
      (srGetInterface sr.ifList rtMatch.interface).map fun outIface =>
        (if rtMatch.gw = 0 then ipDst else rtMatch.gw, outIface)

theorem icmpErrorRoute_mem {sr : SrInstance} {ipDst hop : IpAddr} {outIface : SrIf}
    (h : icmpErrorRoute sr ipDst = some (hop, outIface)) : outIface ∈ sr.ifList := by
  unfold icmpErrorRoute at h
  split at h
  · cases h
  · obtain ⟨rtMatch, -, h⟩ := Option.bind_eq_some_iff.mp h
    obtain ⟨i, hi, h⟩ := Option.map_eq_some_iff.mp h
    injection h with _ heq
    exact heq ▸ (srGetInterface_mem hi).1

theorem icmpErrorHop_of_route {sr : SrInstance} {ipDst hop : IpAddr} {outIface : SrIf}
    (entries : List ArpEntry) (h : icmpErrorRoute sr ipDst = some (hop, outIface)) :
    icmpErrorHop sr entries ipDst =
      if srArpcacheLookup entries hop = none then some (hop, outIface) else none := by
  unfold icmpErrorRoute at h
  unfold icmpErrorHop
  split at h
  · cases h
  · next hmine =>
    rw [if_neg hmine]
    obtain ⟨rtMatch, hrt, h⟩ := Option.bind_eq_some_iff.mp h
    obtain ⟨i, hi, h⟩ := Option.map_eq_some_iff.mp h
    injection h with hhop heq
    subst hhop heq
    simp [hrt, hi]

theorem icmpErrorHop_of_no_route {sr : SrInstance} {ipDst : IpAddr} (entries : List ArpEntry)
    (h : icmpErrorRoute sr ipDst = none) : icmpErrorHop sr entries ipDst = none := by
  unfold icmpErrorRoute at h
  unfold icmpErrorHop
  split at h
  · next hmine => rw [if_pos hmine]
  · next hmine =>
    rw [if_neg hmine]
    cases hrt : srFindRtEntry sr.routingTable ipDst with
    | none => rfl
    | some rtMatch =>
      rw [hrt, Option.bind_some, Option.map_eq_none_iff] at h
      simp [h]

/-- `sr_send_icmp_error_packet` along the route of the error. -/
theorem srSendIcmpErrorPacket_eq (sr : SrInstance) (handle : ℕ → ArpState → Except Halt ArpState)
    (type code : UInt8) (ipDst : IpAddr) (buf : Frame) (off : ℕ) (st : ArpState) :
    srSendIcmpErrorPacket sr handle type code ipDst buf off st =
      match icmpErrorRoute sr ipDst with
      | none => .ok st
      | some (hop, outIface) =>
          match srArpcacheLookup st.entries hop with
          | some e => .ok (st.note (.output
              (store (icmpErrorFrame sr type code outIface buf off) 0 e.mac.bytes) outIface.name))
          | none => handle (st.queue.reqFor hop).addr
              (srArpcacheQueuereq hop (icmpErrorFrame sr type code outIface buf off)
                outIface.name st).1 := by
  unfold srSendIcmpErrorPacket icmpErrorRoute
  split
  · rfl
  · cases hrt : srFindRtEntry sr.routingTable ipDst with
    | none => rfl
    | some rtMatch =>
      cases hif : srGetInterface sr.ifList rtMatch.interface with
      | none => simp [hif]
      | some outIface =>
        simp only [hif, Option.bind_some, Option.map_some]
        cases srArpcacheLookup st.entries (if rtMatch.gw = 0 then ipDst else rtMatch.gw) with
        | some e => rfl
        | none =>
          simp only
          rw [queuereq_addr]

/-- **What `sr_send_icmp_error_packet` can do**: nothing, send the error, or queue it and
handle its request. -/
theorem srSendIcmpErrorPacket_cases (sr : SrInstance)
    (handle : ℕ → ArpState → Except Halt ArpState) (type code : UInt8) (ipDst : IpAddr)
    (buf : Frame) (off : ℕ) (st : ArpState) :
    (icmpErrorHop sr st.entries ipDst = none ∧
      (srSendIcmpErrorPacket sr handle type code ipDst buf off st = .ok st ∨
        ∃ outIface ∈ sr.ifList, ∃ mac,
          srSendIcmpErrorPacket sr handle type code ipDst buf off st =
            .ok (st.note (.output (store (icmpErrorFrame sr type code outIface buf off) 0
              (Mac.bytes mac)) outIface.name)))) ∨
    ∃ hop, ∃ outIface ∈ sr.ifList, icmpErrorHop sr st.entries ipDst = some (hop, outIface) ∧
      srSendIcmpErrorPacket sr handle type code ipDst buf off st =
        handle (st.queue.reqFor hop).addr
          (srArpcacheQueuereq hop (icmpErrorFrame sr type code outIface buf off)
            outIface.name st).1 := by
  rw [srSendIcmpErrorPacket_eq]
  cases hroute : icmpErrorRoute sr ipDst with
  | none => exact .inl ⟨icmpErrorHop_of_no_route st.entries hroute, .inl rfl⟩
  | some hopIf =>
    obtain ⟨hop, outIface⟩ := hopIf
    rw [icmpErrorHop_of_route st.entries hroute]
    have hmem := icmpErrorRoute_mem hroute
    cases harp : srArpcacheLookup st.entries hop with
    | some e =>
      refine .inl ⟨if_neg (by simp), .inr ⟨outIface, hmem, e.mac, ?_⟩⟩
      simp only [harp]
    | none =>
      refine .inr ⟨hop, outIface, hmem, if_pos rfl, ?_⟩
      simp only [harp]

/-- An ICMP error carries the address of the interface it leaves through. -/
theorem queuedIpSrc_icmpErrorFrame (sr sr' : SrInstance) (type code : UInt8) (outIface : SrIf)
    (buf : Frame) (off : ℕ) :
    queuedIpSrc sr' (icmpErrorFrame sr type code outIface buf off) = outIface.ip := by
  unfold queuedIpSrc
  rw [load32_readMem (by rw [length_icmpErrorFrame]; decide)]
  unfold icmpErrorFrame
  -- the fields written after the source address do not overlap it
  rw [load32_store_of_disjoint (by simp), load32_store_of_disjoint (by simp),
    load32_store_of_disjoint (by simp), load32_store_of_disjoint (by simp),
    load32_store_of_disjoint (by simp)]
  exact load32_store_bytes32 _ (by simp [icmpErrorLen])

/-! ### What a call does -/

/-- The request is given up when it is handled. -/
def ArpReq.Doomed (now : ℤ) (r : ArpReq) : Prop := 1 < now - r.sent ∧ 5 ≤ r.timesSent

instance (now : ℤ) (r : ArpReq) : Decidable (r.Doomed now) := inferInstanceAs (Decidable (_ ∧ _))

theorem not_doomed_sentAt (now : ℤ) (r : ArpReq) : ¬ (r.sentAt now).Doomed now := by
  rintro ⟨hlate, -⟩
  have hnow : now - (r.sentAt now).sent = 0 := Int.sub_self now
  omega

/-- The state after a request was sent once more. -/
def resent (sr : SrInstance) (now : ℤ) (req : ArpReq) (st : ArpState) : ArpState :=
  let st := srArpRequestSend sr req.ip (st.note (.requested req.addr))
  { st with queue := st.queue.markSent req.addr now }

/-- **What `handle_arpreq` can do** when it returns: nothing, send the request again, or
give it up. -/
theorem handleArpreq_cases {sr : SrInstance} {now : ℤ} {fuel addr : ℕ} {st st' : ArpState}
    (h : handleArpreq sr now (fuel + 1) addr st = .ok st') :
    ∃ req ∈ st.queue.reqs, req.addr = addr ∧
      ((¬ 1 < now - req.sent ∧ st' = st) ∨
        (1 < now - req.sent ∧ req.timesSent < 5 ∧ st' = resent sr now req st) ∨
        (req.Doomed now ∧ ∃ st₁, hostUnreachable sr (handleArpreq sr now fuel) req st = .ok st₁ ∧
          st' = srArpreqDestroy addr st₁)) := by
  unfold handleArpreq at h
  cases hreq : st.queue.deref addr with
  | none =>
    rw [hreq] at h
    cases h
  | some req =>
    obtain ⟨hmem, haddr⟩ := ArpQueue.deref_eq_some.mp hreq
    simp only [hreq] at h
    refine ⟨req, hmem, haddr, ?_⟩
    by_cases hexp : 1 < now - req.sent
    · rw [if_pos hexp] at h
      by_cases hsent : 5 ≤ req.timesSent
      · rw [if_pos hsent] at h
        obtain ⟨st₁, hun, h⟩ := exists_of_bind_eq_ok h
        cases h
        exact .inr (.inr ⟨⟨hexp, hsent⟩, st₁, hun, rfl⟩)
      · rw [if_neg hsent] at h
        cases h
        subst haddr
        exact .inr (.inl ⟨hexp, by omega, rfl⟩)
    · rw [if_neg hexp] at h
      cases h
      exact .inl ⟨hexp, rfl⟩

/-- **What a turn of `host_unreachable` can do** when it returns: give the packet up without an
error, send one, or queue one and handle its request.  The record is still there then. -/
theorem unreachablePacket_cases {sr : SrInstance} {handle : ℕ → ArpState → Except Halt ArpState}
    {addr : ℕ} {st st' : ArpState} {p : QueuedPacket}
    (h : unreachablePacket sr handle addr st p = .ok st') :
    (∃ r ∈ st'.queue.reqs, r.addr = addr) ∧
      (st' = st.note (.gaveUp p.id addr) ∨
        (∃ outIface ∈ sr.ifList, ∃ mac, st' = (st.note (.gaveUp p.id addr)).note
          (.output (store (icmpErrorFrame sr 3 1 outIface p.buf 14) 0 (Mac.bytes mac))
            outIface.name)) ∨
        ∃ hop, ∃ outIface ∈ sr.ifList,
          handle (st.queue.reqFor hop).addr
            (srArpcacheQueuereq hop (icmpErrorFrame sr 3 1 outIface p.buf 14) outIface.name
              (st.note (.gaveUp p.id addr))).1 = .ok st') := by
  unfold unreachablePacket at h
  obtain ⟨st₁, hsend, h⟩ := exists_of_bind_eq_ok h
  cases hreq : st₁.queue.deref addr with
  | none =>
    rw [if_pos hreq] at h
    cases h
  | some r =>
    rw [if_neg (by rw [hreq]; simp)] at h
    cases h
    refine ⟨⟨r, ArpQueue.deref_eq_some.mp hreq⟩, ?_⟩
    rcases srSendIcmpErrorPacket_cases sr handle 3 1 (queuedIpSrc sr p.buf) p.buf 14
      (st.note (.gaveUp p.id addr)) with
      ⟨-, hsame | ⟨outIface, hmem, mac, hnote⟩⟩ | ⟨hop, outIface, hmem, -, hcall⟩
    · rw [hsame] at hsend
      cases hsend
      exact .inl rfl
    · rw [hnote] at hsend
      cases hsend
      exact .inr (.inl ⟨outIface, hmem, mac, rfl⟩)
    · rw [hcall] at hsend
      exact .inr (.inr ⟨hop, outIface, hmem, hsend⟩)

/-- **What the basic steps preserve, a call of `handle_arpreq` preserves.** -/
theorem handleArpreq_invariant {sr : SrInstance} {now : ℤ} {I : ArpState → Prop}
    (hgave : ∀ st id addr, I st → I (st.note (.gaveUp id addr)))
    (hout : ∀ st frame iface, I st → I (st.note (.output frame iface)))
    (hqueue : ∀ st ip packet iface, I st → I (srArpcacheQueuereq ip packet iface st).1)
    (hsent : ∀ st req, I st → I (resent sr now req st))
    (hdestroy : ∀ st addr, I st → I (srArpreqDestroy addr st)) {fuel addr : ℕ}
    {st st' : ArpState} (hst : I st) (h : handleArpreq sr now fuel addr st = .ok st') : I st' := by
  induction fuel generalizing addr st st' with
  | zero => cases h
  | succ fuel ih =>
    obtain ⟨req, -, -, ⟨-, rfl⟩ | ⟨-, -, rfl⟩ | ⟨-, st₁, hun, rfl⟩⟩ := handleArpreq_cases h
    · exact hst
    · exact hsent st req hst
    · refine hdestroy st₁ addr (foldlM_invariant ?_ hst hun)
      intro s s' p _ hs hstep
      have hs' := hgave s p.id req.addr hs
      obtain ⟨-, rfl | ⟨outIface, -, mac, rfl⟩ | ⟨hop, outIface, -, hcall⟩⟩ :=
        unreachablePacket_cases hstep
      · exact hs'
      · exact hout _ _ _ hs'
      · exact ih (hqueue _ _ _ _ hs') hcall

/-- **Sending requests adds them to the history**, and nothing else. -/
theorem srArpRequestSend_eq (sr : SrInstance) (ip : IpAddr) (st : ArpState) :
    srArpRequestSend sr ip st =
      { st with trace := requestFrames sr.ifList ip ++ st.trace } := by
  unfold srArpRequestSend requestFrames
  induction sr.ifList generalizing st with
  | nil => rfl
  | cons i ifs ih =>
    rw [List.foldl_cons, ih, List.map_cons, List.reverse_cons, List.append_assoc]
    rfl

theorem output_of_mem_requestFrames {ifList : List SrIf} {ip : IpAddr} {e : ArpEvent}
    (he : e ∈ requestFrames ifList ip) : ∃ frame iface, e = .output frame iface := by
  obtain ⟨i, -, rfl⟩ := List.mem_map.mp (List.mem_reverse.mp he)
  exact ⟨_, _, rfl⟩

theorem resent_eq (sr : SrInstance) (now : ℤ) (req : ArpReq) (st : ArpState) :
    resent sr now req st =
      { st with queue := st.queue.markSent req.addr now
                trace := requestFrames sr.ifList req.ip ++ .requested req.addr :: st.trace } := by
  unfold resent
  simp only [srArpRequestSend_eq]
  rfl

@[simp] theorem resent_queue (sr : SrInstance) (now : ℤ) (req : ArpReq) (st : ArpState) :
    (resent sr now req st).queue = st.queue.markSent req.addr now := by
  rw [resent_eq]

@[simp] theorem resent_entries (sr : SrInstance) (now : ℤ) (req : ArpReq) (st : ArpState) :
    (resent sr now req st).entries = st.entries := by
  rw [resent_eq]

theorem nextAddr_le_queuereq (ip : IpAddr) (packet : Frame) (iface : IfName) (st : ArpState) :
    st.queue.nextAddr ≤ (srArpcacheQueuereq ip packet iface st).1.queue.nextAddr := by
  unfold srArpcacheQueuereq
  simp only
  split <;> exact (st.queue.request_spec ip).2.2

theorem handleArpreq_nextAddr {sr : SrInstance} {now : ℤ} {fuel addr : ℕ} {st st' : ArpState}
    (h : handleArpreq sr now fuel addr st = .ok st') :
    st.queue.nextAddr ≤ st'.queue.nextAddr := by
  refine handleArpreq_invariant (I := fun s => st.queue.nextAddr ≤ s.queue.nextAddr)
    (fun _ _ _ hs => hs) (fun _ _ _ hs => hs)
    (fun s ip packet iface hs => hs.trans (nextAddr_le_queuereq ip packet iface s))
    ?_ (fun _ _ hs => hs) (Nat.le_refl _) h
  intro s req hs
  rw [resent_queue]
  exact hs

/-! ### Requests that are due to be given up -/

/-- The request `r` is as it was, or has been freed. -/
def Untouched (r : ArpReq) (st : ArpState) : Prop :=
  r.addr < st.queue.nextAddr ∧ ∀ s ∈ st.queue.reqs, s.addr = r.addr → s = r

theorem untouched_of_mem {r : ArpReq} {st : ArpState} (h : r ∈ st.queue.reqs) :
    Untouched r st :=
  ⟨st.queue.addr_lt r h, fun _ hs haddr => st.queue.eq_of_addr hs h haddr⟩

theorem Untouched.of_absent {r : ArpReq} {st : ArpState} (hlt : r.addr < st.queue.nextAddr)
    (h : ∀ s ∈ st.queue.reqs, s.addr ≠ r.addr) : Untouched r st :=
  ⟨hlt, fun s hs haddr => absurd haddr (h s hs)⟩

/-- **A request that was due is gone once it was handled.** -/
theorem handleArpreq_absent {sr : SrInstance} {now : ℤ} {fuel : ℕ} {st st' : ArpState}
    {r : ArpReq} (hr : r ∈ st.queue.reqs) (hdoom : r.Doomed now)
    (h : handleArpreq sr now fuel r.addr st = .ok st') : ∀ s ∈ st'.queue.reqs, s.addr ≠ r.addr := by
  cases fuel with
  | zero => cases h
  | succ fuel =>
    obtain ⟨req, hmem, haddr, hcases⟩ := handleArpreq_cases h
    obtain rfl := st.queue.eq_of_addr hmem hr haddr
    rcases hcases with ⟨hexp, -⟩ | ⟨-, hsent, -⟩ | ⟨-, st₁, -, rfl⟩
    · exact absurd hdoom.1 hexp
    · exact absurd hdoom.2 (by omega)
    · exact fun s hs => (mem_destroy.mp hs).2

/-- The step of the recursion: an ICMP error is queued and its request handled. -/
theorem untouched_of_queued (handle : ℕ → ArpState → Except Halt ArpState) {now : ℤ}
    {hop : IpAddr} {packet : Frame} {iface : IfName} {st st' : ArpState} {r : ArpReq}
    (ih : ∀ {addr st st'}, Untouched r st → handle addr st = .ok st' → Untouched r st')
    (habsent : ∀ {q st st'}, q ∈ st.queue.reqs → q.Doomed now → handle q.addr st = .ok st' →
      st.queue.nextAddr ≤ st'.queue.nextAddr ∧ ∀ s ∈ st'.queue.reqs, s.addr ≠ q.addr)
    (hp : packet ≠ []) (hdoom : r.Doomed now) (hr : Untouched r st)
    (h : handle (st.queue.reqFor hop).addr (srArpcacheQueuereq hop packet iface st).1 = .ok st') :
    Untouched r st' := by
  have hlt : r.addr < (srArpcacheQueuereq hop packet iface st).1.queue.nextAddr :=
    Nat.lt_of_lt_of_le hr.1 (nextAddr_le_queuereq hop packet iface st)
  by_cases heq : (st.queue.reqFor hop).addr = r.addr
  · -- the error joins the request itself, which is then given up
    have hfor : st.queue.reqFor hop = r := by
      rcases st.queue.reqFor_cases hop with hmem | ⟨-, hfresh⟩
      · exact hr.2 _ hmem heq
      · rw [hfresh] at heq
        exact absurd heq.symm (Nat.ne_of_lt hr.1)
    have hmem : (st.queue.reqFor hop).push ⟨st.nextId, packet, iface⟩ ∈
        (srArpcacheQueuereq hop packet iface st).1.queue.reqs := mem_queuereq_self hop hp
    rw [hfor] at h hmem
    obtain ⟨hle, hgone⟩ := habsent hmem hdoom h
    exact .of_absent (Nat.lt_of_lt_of_le hlt hle) hgone
  · refine ih ⟨hlt, ?_⟩ h
    intro s hs hsr
    rcases (mem_queuereq hp).mp hs with rfl | ⟨hs, -⟩
    · exact absurd hsr heq
    · exact hr.2 s hs hsr

/-- **A request that is due is not touched by handling others** but for being given up. -/
theorem handleArpreq_untouched {sr : SrInstance} {now : ℤ} {fuel addr : ℕ} {st st' : ArpState}
    {r : ArpReq} (hdoom : r.Doomed now) (hr : Untouched r st)
    (h : handleArpreq sr now fuel addr st = .ok st') : Untouched r st' := by
  induction fuel generalizing addr st st' with
  | zero => cases h
  | succ fuel ih =>
    obtain ⟨req, hmem, haddr, ⟨-, rfl⟩ | ⟨hexp, hsent, rfl⟩ | ⟨-, st₁, hun, rfl⟩⟩ :=
      handleArpreq_cases h
    · exact hr
    · -- the request that is sent again is another one
      have hne : req.addr ≠ r.addr := by
        intro heq
        rw [hr.2 req hmem heq] at hsent
        exact absurd hdoom.2 (by omega)
      refine ⟨by rw [resent_queue]; exact hr.1, ?_⟩
      intro s hs hsr
      rw [resent_queue, mem_markSent hmem] at hs
      rcases hs with rfl | ⟨hs, -⟩
      · exact absurd hsr hne
      · exact hr.2 s hs hsr
    · have hlast : Untouched r st₁ := by
        refine foldlM_invariant ?_ hr hun
        intro s s' p _ hs hstep
        have hs' : Untouched r (s.note (.gaveUp p.id req.addr)) := hs
        obtain ⟨-, rfl | ⟨outIface, -, mac, rfl⟩ | ⟨hop, outIface, -, hcall⟩⟩ :=
          unreachablePacket_cases hstep
        · exact hs'
        · exact hs'
        · have hp := icmpErrorFrame_ne_nil sr 3 1 outIface p.buf 14
          exact untouched_of_queued (handleArpreq sr now fuel) ih
              (fun hq hqd hc => ⟨handleArpreq_nextAddr hc, handleArpreq_absent hq hqd hc⟩)
              hp hdoom hs' hcall
      exact ⟨hlast.1, fun s hs hsr => hlast.2 s (mem_destroy.mp hs).1 hsr⟩

/-- Queueing an ICMP error and handling its request does not touch it either. -/
theorem handleArpreq_queuereq_untouched {sr : SrInstance} {now : ℤ} {fuel : ℕ} {hop : IpAddr}
    {packet : Frame} {iface : IfName} {st st' : ArpState} {r : ArpReq} (hp : packet ≠ [])
    (hdoom : r.Doomed now) (hr : Untouched r st)
    (h : handleArpreq sr now fuel (st.queue.reqFor hop).addr
      (srArpcacheQueuereq hop packet iface st).1 = .ok st') : Untouched r st' :=
  untouched_of_queued (handleArpreq sr now fuel) (fun hu hc => handleArpreq_untouched hdoom hu hc)
    (fun hq hqd hc => ⟨handleArpreq_nextAddr hc, handleArpreq_absent hq hqd hc⟩) hp hdoom hr h

/-- While a request is given up its record stays as it is, if the loop goes on. -/
theorem unreachablePacket_mem {sr : SrInstance} {now : ℤ} {fuel : ℕ} {st st' : ArpState}
    {req : ArpReq} {p : QueuedPacket} (hreq : req ∈ st.queue.reqs) (hdoom : req.Doomed now)
    (h : unreachablePacket sr (handleArpreq sr now fuel) req.addr st p = .ok st') :
    req ∈ st'.queue.reqs := by
  have huntouched : Untouched req (st.note (.gaveUp p.id req.addr)) := untouched_of_mem hreq
  obtain ⟨⟨r, hr, haddr⟩, rfl | ⟨outIface, -, mac, rfl⟩ | ⟨hop, outIface, -, hcall⟩⟩ :=
    unreachablePacket_cases h
  · exact hreq
  · exact hreq
  · have hafter : Untouched req st' :=
      handleArpreq_queuereq_untouched (icmpErrorFrame_ne_nil _ _ _ _ _ _) hdoom huntouched hcall
    rw [← hafter.2 r hr haddr]
    exact hr

/-- **The invariant rule for `handle_arpreq`**, with what is known where each step is made. -/
theorem handleArpreq_rule {sr : SrInstance} {now : ℤ} {I : ArpState → Prop}
    (hgave : ∀ st r, ∀ p ∈ r.packets, I st → r ∈ st.queue.reqs → r.Doomed now →
      I (st.note (.gaveUp p.id r.addr)))
    (hout : ∀ st buf mac, ∀ outIface ∈ sr.ifList, I st →
      I (st.note (.output (store (icmpErrorFrame sr 3 1 outIface buf 14) 0 (Mac.bytes mac))
        outIface.name)))
    (hqueue : ∀ st ip buf, ∀ outIface ∈ sr.ifList, I st →
      I (srArpcacheQueuereq ip (icmpErrorFrame sr 3 1 outIface buf 14) outIface.name st).1)
    (hsent : ∀ st r, I st → r ∈ st.queue.reqs → r.timesSent < 5 → I (resent sr now r st))
    (hdestroy : ∀ st r, I st → r ∈ st.queue.reqs → r.Doomed now → I (srArpreqDestroy r.addr st))
    {fuel addr : ℕ} {st st' : ArpState} (hst : I st)
    (h : handleArpreq sr now fuel addr st = .ok st') : I st' := by
  induction fuel generalizing addr st st' with
  | zero => cases h
  | succ fuel ih =>
    obtain ⟨req, hmem, rfl, ⟨-, rfl⟩ | ⟨-, hlt, rfl⟩ | ⟨hdoom, st₁, hun, rfl⟩⟩ :=
      handleArpreq_cases h
    · exact hst
    · exact hsent st req hst hmem hlt
    · have hlast : I st₁ ∧ req ∈ st₁.queue.reqs := by
        refine foldlM_invariant (I := fun s => I s ∧ req ∈ s.queue.reqs)
          (fun s s' p hp hs hstep => ⟨?_, unreachablePacket_mem hs.2 hdoom hstep⟩)
          ⟨hst, hmem⟩ hun
        have hs' := hgave s req p hp hs.1 hs.2 hdoom
        obtain ⟨-, rfl | ⟨outIface, hmem, mac, rfl⟩ | ⟨hop, outIface, hmem, hcall⟩⟩ :=
          unreachablePacket_cases hstep
        · exact hs'
        · exact hout _ p.buf mac outIface hmem hs'
        · exact ih (hqueue _ _ p.buf outIface hmem hs') hcall
      exact hdestroy st₁ req hlast.1 hlast.2 hdoom

/-- **The rule of the loop**: what holds of the state at its end, and of a turn if it holds of
the rest, holds of a loop that returns. -/
theorem sweepreqsLoop_induct {sr : SrInstance} {now : ℤ} {fuel n : ℕ} {st' : ArpState}
    {motive : Option ℕ → ArpState → Prop} (done : motive none st')
    (turn : ∀ addr next st st₁, nextAddr st.queue.reqs addr = some next →
      handleArpreq sr now fuel addr st = .ok st₁ → motive next st₁ → motive (some addr) st)
    {curr : Option ℕ} {st : ArpState} (h : sweepreqsLoop sr now fuel n curr st = .ok st') :
    motive curr st := by
  induction n generalizing curr st with
  | zero =>
    cases curr with
    | none =>
      cases h
      exact done
    | some addr => cases h
  | succ n ih =>
    cases curr with
    | none =>
      cases h
      exact done
    | some addr =>
      unfold sweepreqsLoop at h
      cases hnext : nextAddr st.queue.reqs addr with
      | none =>
        rw [hnext] at h
        cases h
      | some next =>
        rw [hnext] at h
        obtain ⟨st₁, hcall, hrest⟩ := exists_of_bind_eq_ok h
        exact turn addr next st st₁ hnext hcall (ih hrest)

/-- **What handling a request preserves, a sweep preserves.** -/
theorem sweepreqsLoop_invariant {sr : SrInstance} {now : ℤ} {fuel n : ℕ} {I : ArpState → Prop}
    (hstep : ∀ addr st st', I st → handleArpreq sr now fuel addr st = .ok st' → I st')
    {curr : Option ℕ} {st st' : ArpState} (hst : I st)
    (h : sweepreqsLoop sr now fuel n curr st = .ok st') : I st' := by
  refine sweepreqsLoop_induct (motive := fun _ st => I st → I st') id ?_ h hst
  intro addr next st st₁ _ hcall hrest hst
  exact hrest (hstep addr st st₁ hst hcall)

/-! ### A router with one gateway, for examples -/

/-- A router with the gateway 10.0.1.2 for 10.0.0.0/16 on its only interface. -/
def gatewayRouter : SrInstance where
  ifList := [⟨"eth1".toList, generateEthernetAddr 1, 0x0101000a, 0x00ffffff, 5, 0, 0⟩]
  routingTable := [⟨0x0000000a, 0x0201000a, 0x0000ffff, "eth1".toList, 0⟩,
    ⟨0x0001000a, 0, 0x00ffffff, "eth1".toList, 1⟩]
  uninit := fun _ => 0
  behind := fun _ => 0

/-- A datagram from 10.0.1.7, on the router's own network, to 10.0.4.5. -/
def localFrame : Frame :=
  [0x01, 0x01, 0x01, 0x01, 0x01, 0x01, 0x02, 0x02, 0x02, 0x02, 0x02, 0x02, 0x08, 0x00,
    0x45, 0x00, 0x00, 0x1c, 0x00, 0x01, 0x00, 0x00, 0x3f, 0x11, 0x62, 0xc5,
    0x0a, 0x00, 0x01, 0x07, 0x0a, 0x00, 0x04, 0x05,
    0x00, 0x35, 0x00, 0x35, 0x00, 0x08, 0x00, 0x00]

end Redes
