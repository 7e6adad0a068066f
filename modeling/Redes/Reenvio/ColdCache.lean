import Redes.Reenvio.Router
import Redes.Router.Acceptable

/-!
# ICMP errors that wait for a hardware address

`sr_send_icmp_error_packet` of `reenvio/` asks for the hardware address of the next hop when
only the source address of the error's Ethernet header is written.  If the address is not
known, `sr_arpcache_queuereq` copies the block as it is then, and the function returns.  When
the reply comes, `sr_arp_reply_send_pending_packets` writes the two hardware addresses, and
sends what `malloc` had left in the rest of the block.

## Main definitions

* `arpStep`, `ArpStep` — the steps of the ARP cache.
* `HoldsError` — the headers and the data of an error, in a block.
* `ErrorWaits` — an error that waits for a reply.
* `ErrorsAgree` — it is sent as it would have been at once.

## Main results

* `arpStep_rule` — what a step preserves.
* `finishedError_holds`, `eq_of_holdsError` — an error is finished exactly if it holds these.
* `ErrorWaits.replied` — what is sent when the reply comes.
* `errorsAgree_iff` — when this is the error.
-/

namespace Redes.Reenvio

open Bytes Fuel

/-! ### Steps -/

/-- A step of the ARP cache.  Received ARP frames have to pass the same check in both
programs. -/
def arpStep (c : ArpCall) (st : ArpState) : Except Halt ArpState :=
  match c.input with
  | .queue ip packet iface => .ok (srArpcacheQueuereq ip packet iface st).1
  | .handle addr => handleArpreq c.sr c.now c.fuel addr st
  | .receive packet =>
      if ReachesArp packet then srHandleArpPacket c.sr c.now packet st else .ok st
  | .timeout => srArpcacheTimeout c.sr c.now c.fuel st

/-- One step of the ARP cache. -/
def ArpStep (st st' : ArpState) : Prop := ∃ c, arpStep c st = .ok st'

/-- No packet was queued, and those that are left are on lists for the same addresses. -/
def Shrinks (st st' : ArpState) : Prop :=
  st'.nextId = st.nextId ∧
    ∀ r ∈ st'.queue.reqs, ∃ s ∈ st.queue.reqs, r.ip = s.ip ∧ r.packets = s.packets

theorem shrinks_of_subset {st st' : ArpState} (hid : st'.nextId = st.nextId)
    (h : ∀ r ∈ st'.queue.reqs, r ∈ st.queue.reqs) : Shrinks st st' :=
  ⟨hid, fun r hr => ⟨r, h r hr, rfl, rfl⟩⟩

theorem shrinks_note (st : ArpState) (e : ArpEvent) : Shrinks st (st.note e) :=
  shrinks_of_subset rfl fun _ hr => hr

theorem shrinks_destroy (addr : ℕ) (st : ArpState) : Shrinks st (srArpreqDestroy addr st) :=
  shrinks_of_subset rfl fun _ hr => (mem_destroy.mp hr).1

theorem shrinks_insert (mac : Mac) (ip : IpAddr) (now : ℤ) (st : ArpState) :
    Shrinks st (srArpcacheInsert mac ip now st).1 :=
  shrinks_of_subset rfl fun _ hr => (mem_insert.mp hr).1

theorem shrinks_resent (sr : SrInstance) (now : ℤ) {req : ArpReq} {st : ArpState}
    (hreq : req ∈ st.queue.reqs) : Shrinks st (resent sr now req st) := by
  refine ⟨by rw [resent_eq], ?_⟩
  intro r hr
  rw [resent_queue, mem_markSent hreq] at hr
  rcases hr with rfl | ⟨hr, -⟩
  · exact ⟨req, hreq, rfl, rfl⟩
  · exact ⟨r, hr, rfl, rfl⟩

theorem shrinks_sendPending (packets : List QueuedPacket) (dhost shost : Mac) (iface : SrIf)
    (st : ArpState) : Shrinks st (srArpReplySendPendingPackets packets dhost shost iface st) := by
  rw [sendPending_eq]
  exact shrinks_of_subset rfl fun _ hr => hr

theorem Shrinks.trans {st st₁ st₂ : ArpState} (h : Shrinks st st₁) (h' : Shrinks st₁ st₂) :
    Shrinks st st₂ := by
  refine ⟨h'.1.trans h.1, ?_⟩
  intro r hr
  obtain ⟨s, hs, hip, hpackets⟩ := h'.2 r hr
  obtain ⟨q, hq, hip', hpackets'⟩ := h.2 s hs
  exact ⟨q, hq, hip.trans hip', hpackets.trans hpackets'⟩

/-- A received ARP packet only takes packets off their lists. -/
theorem shrinks_handleArpPacket {sr : SrInstance} {now : ℤ} {packet : Frame} {st st' : ArpState}
    (h : srHandleArpPacket sr now packet st = .ok st') : Shrinks st st' := by
  have hinsert := shrinks_insert (arSha packet) (arSip packet) now st
  rcases srHandleArpPacket_cases h with ⟨-, rfl⟩ | ⟨i, -, -, rfl⟩ | ⟨-, rfl⟩ |
    ⟨req, i, -, -, -, rfl⟩
  · exact shrinks_of_subset rfl fun _ hr => hr
  · exact hinsert.trans (shrinks_note _ _)
  · exact hinsert
  · exact (hinsert.trans (shrinks_sendPending _ _ _ _ _)).trans (shrinks_destroy _ _)

/-- **What `sr_send_icmp_error_packet` can do**: nothing, send a frame, or queue one and handle
its request. -/
theorem srSendIcmpErrorPacket_cases (sr : SrInstance)
    (handle : ℕ → ArpState → Except Halt ArpState) (type code : UInt8) (ipDst : IpAddr)
    (buf : Frame) (off : ℕ) (st : ArpState) :
    (srSendIcmpErrorPacket sr handle type code ipDst buf off st).2 = .ok st ∨
    (∃ frame iface, (srSendIcmpErrorPacket sr handle type code ipDst buf off st).2 =
      .ok (st.note (.output frame iface))) ∨
    ∃ ip frame iface, (srSendIcmpErrorPacket sr handle type code ipDst buf off st).2 =
      handle (srArpcacheQueuereq ip frame iface st).2 (srArpcacheQueuereq ip frame iface st).1 := by
  unfold srSendIcmpErrorPacket
  cases srFindRtEntry sr.routingTable (errorDst sr buf off) with
  | none => exact .inl rfl
  | some rtMatch =>
    cases hif : srGetInterface sr.ifList rtMatch.interface with
    | none => exact .inl (by simp only [hif])
    | some outIface =>
      cases harp : srArpcacheLookup st.entries rtMatch.gw with
      | some e => exact .inr (.inl ⟨_, _, by simp only [hif, harp]; rfl⟩)
      | none => exact .inr (.inr ⟨_, _, _, by simp only [hif, harp]; rfl⟩)

section Rule

variable {sr : SrInstance} {now : ℤ} {I : ArpState → Prop}

/-- What `handle_arpreq` and the basic steps preserve, a turn of `host_unreachable` preserves. -/
theorem unreachablePacket_rule (hshrinks : ∀ st st', Shrinks st st' → I st → I st')
    (hqueue : ∀ st ip packet iface, I st → I (srArpcacheQueuereq ip packet iface st).1)
    {handle : ℕ → ArpState → Except Halt ArpState}
    (hhandle : ∀ addr st st', I st → handle addr st = .ok st' → I st')
    {addr : ℕ} {p : QueuedPacket} {st st' : ArpState} (hst : I st)
    (h : unreachablePacket sr handle addr st p = .ok st') : I st' := by
  unfold unreachablePacket at h
  obtain ⟨st₁, hsend, h⟩ := exists_of_bind_eq_ok h
  split at h
  · cases h
  · cases h
    have hnoted := hshrinks _ _ (shrinks_note st (.gaveUp p.id addr)) hst
    rcases srSendIcmpErrorPacket_cases sr handle 3 1 (queuedIpSrc sr p.buf) p.buf 14
      (st.note (.gaveUp p.id addr)) with heq | ⟨frame, iface, heq⟩ | ⟨ip, frame, iface, heq⟩
    all_goals rw [heq] at hsend
    · cases hsend
      exact hnoted
    · cases hsend
      exact hshrinks _ _ (shrinks_note _ _) hnoted
    · exact hhandle _ _ _ (hqueue _ _ _ _ hnoted) hsend

/-- **What the basic steps preserve, a call of `handle_arpreq` preserves.** -/
theorem handleArpreq_rule (hshrinks : ∀ st st', Shrinks st st' → I st → I st')
    (hqueue : ∀ st ip packet iface, I st → I (srArpcacheQueuereq ip packet iface st).1)
    {fuel addr : ℕ} {st st' : ArpState} (hst : I st)
    (h : handleArpreq sr now fuel addr st = .ok st') : I st' := by
  induction fuel generalizing addr st st' with
  | zero => cases h
  | succ fuel ih =>
    unfold handleArpreq at h
    cases hreq : st.queue.deref addr with
    | none =>
      rw [hreq] at h
      cases h
    | some req =>
      obtain ⟨hmem, rfl⟩ := ArpQueue.deref_eq_some.mp hreq
      simp only [hreq] at h
      by_cases hexp : 1 < now - req.sent
      · rw [if_pos hexp] at h
        by_cases hsent : 5 ≤ req.timesSent
        · rw [if_pos hsent] at h
          obtain ⟨st₁, hun, h⟩ := exists_of_bind_eq_ok h
          cases h
          refine hshrinks _ _ (shrinks_destroy _ _) (foldlM_invariant ?_ hst hun)
          intro s s' p _ hs hstep
          exact unreachablePacket_rule hshrinks hqueue (fun _ _ _ hs hcall => ih hs hcall) hs hstep
        · rw [if_neg hsent] at h
          cases h
          exact hshrinks _ _ (shrinks_resent sr now hmem) hst
      · rw [if_neg hexp] at h
        cases h
        exact hst

theorem sweepreqsLoop_rule (hshrinks : ∀ st st', Shrinks st st' → I st → I st')
    (hqueue : ∀ st ip packet iface, I st → I (srArpcacheQueuereq ip packet iface st).1)
    {fuel n : ℕ} {curr : Option ℕ} {st st' : ArpState} (hst : I st)
    (h : sweepreqsLoop sr now fuel n curr st = .ok st') : I st' := by
  induction n generalizing curr st with
  | zero =>
    cases curr with
    | none =>
      cases h
      exact hst
    | some addr => cases h
  | succ n ih =>
    cases curr with
    | none =>
      cases h
      exact hst
    | some addr =>
      unfold sweepreqsLoop at h
      cases hnext : nextAddr st.queue.reqs addr with
      | none =>
        rw [hnext] at h
        cases h
      | some nextReq =>
        simp only [hnext] at h
        obtain ⟨st₁, hcall, h⟩ := exists_of_bind_eq_ok h
        exact ih (handleArpreq_rule hshrinks hqueue hst hcall) h

/-- **So does a step of the ARP cache.** -/
theorem arpStep_rule (hshrinks : ∀ st st', Shrinks st st' → I st → I st')
    (hqueue : ∀ st ip packet iface, I st → I (srArpcacheQueuereq ip packet iface st).1)
    {st st' : ArpState} (hst : I st) (h : ArpStep st st') : I st' := by
  obtain ⟨c, h⟩ := h
  unfold arpStep at h
  split at h
  · cases h
    exact hqueue _ _ _ _ hst
  · exact handleArpreq_rule hshrinks hqueue hst h
  · split at h
    · exact hshrinks _ _ (shrinks_handleArpPacket h) hst
    · cases h
      exact hst
  · have hexpired : Shrinks st { st with entries := expireEntries c.now st.entries } :=
      shrinks_of_subset rfl fun _ hr => hr
    exact sweepreqsLoop_rule hshrinks hqueue (hshrinks _ _ hexpired hst) h

end Rule

/-! ### A packet that waits -/

/-- The packets on the lists are numbered. -/
def Numbered (st : ArpState) : Prop := ∀ r ∈ st.queue.reqs, ∀ q ∈ r.packets, q.id < st.nextId

/-- If the packet is on a list it is as it was queued, on the list for an address. -/
def QueuedAs (p : QueuedPacket) (ip : IpAddr) (st : ArpState) : Prop :=
  p.id < st.nextId ∧ ∀ r ∈ st.queue.reqs, ∀ q ∈ r.packets, q.id = p.id → q = p ∧ r.ip = ip

theorem queuereq_nextId (ip : IpAddr) (packet : Frame) (iface : IfName) (st : ArpState) :
    (srArpcacheQueuereq ip packet iface st).1.nextId =
      if packet = [] then st.nextId else st.nextId + 1 := by
  unfold srArpcacheQueuereq
  simp only
  split <;> rfl

theorem Numbered.shrinks {st st' : ArpState} (h : Shrinks st st') (hst : Numbered st) :
    Numbered st' := by
  intro r hr q hq
  obtain ⟨s, hs, -, hpackets⟩ := h.2 r hr
  rw [h.1]
  exact hst s hs q (hpackets ▸ hq)

theorem Numbered.queuereq {st : ArpState} (hst : Numbered st) (ip : IpAddr) (packet : Frame)
    (iface : IfName) : Numbered (srArpcacheQueuereq ip packet iface st).1 := by
  intro r hr q hq
  rw [queuereq_nextId]
  rcases mem_packets_queuereq hr hq with ⟨hp, rfl, -, -⟩ | ⟨s, hs, -, -, hq⟩
  · rw [if_neg hp]
    exact Nat.lt_succ_self _
  · have hlt := hst s hs q hq
    split <;> omega

theorem QueuedAs.shrinks {p : QueuedPacket} {ip : IpAddr} {st st' : ArpState}
    (h : Shrinks st st') (hst : QueuedAs p ip st) : QueuedAs p ip st' := by
  refine ⟨h.1 ▸ hst.1, ?_⟩
  intro r hr q hq hid
  obtain ⟨s, hs, hip, hpackets⟩ := h.2 r hr
  rw [hip]
  exact hst.2 s hs q (hpackets ▸ hq) hid

/-- A packet that is queued later has another number. -/
theorem QueuedAs.queuereq {p : QueuedPacket} {ip : IpAddr} {st : ArpState}
    (hst : QueuedAs p ip st) (ip' : IpAddr) (packet : Frame) (iface : IfName) :
    QueuedAs p ip (srArpcacheQueuereq ip' packet iface st).1 := by
  refine ⟨?_, ?_⟩
  · rw [queuereq_nextId]
    have := hst.1
    split <;> omega
  · intro r hr q hq hid
    rcases mem_packets_queuereq hr hq with ⟨-, rfl, -, -⟩ | ⟨s, hs, -, hip, hq⟩
    · exact absurd hid.symm (Nat.ne_of_lt hst.1)
    · rw [← hip]
      exact hst.2 s hs q hq hid

/-- **A packet that is queued stays as it is** while it waits. -/
theorem queuedAs_queuereq {st : ArpState} (hst : Numbered st) (ip : IpAddr) {packet : Frame}
    (iface : IfName) (hp : packet ≠ []) :
    QueuedAs ⟨st.nextId, packet, iface⟩ ip (srArpcacheQueuereq ip packet iface st).1 := by
  refine ⟨?_, ?_⟩
  · rw [queuereq_nextId, if_neg hp]
    exact Nat.lt_succ_self _
  · intro r hr q hq hid
    rcases mem_packets_queuereq hr hq with ⟨-, rfl, -, hip⟩ | ⟨s, hs, -, -, hq⟩
    · exact ⟨rfl, hip⟩
    · exact absurd hid (Nat.ne_of_lt (hst s hs q hq))

theorem numbered_of_run {st : ArpState} (h : Relation.ReflTransGen ArpStep srArpcacheInit st) :
    Numbered st := by
  induction h with
  | refl => exact fun r hr => by cases hr
  | tail _ hstep ih =>
    exact arpStep_rule (fun _ _ h hs => hs.shrinks h)
      (fun _ ip packet iface hs => hs.queuereq ip packet iface) ih hstep

/-! ### Finished errors -/

/-- The bytes of a block behind the hardware addresses are those of an error: of the given type
and code, from one address to another (in network order), with the given bytes in the field that
is not used, and with the given data. -/
structure HoldsError (type code : UInt8) (src dst unused data : List UInt8) (b : Frame) :
    Prop where
  /-- `ether_type`. -/
  etherType : slice b 12 2 = bytes16 (htons ethertypeIp)
  /-- Version and header length, type of service, length, id, fragment offset, TTL, protocol. -/
  ipHeader : slice b 14 10 = [0x45, 0] ++ bytes16 (htons 56) ++ bytes16 (htons 0) ++
    bytes16 (htons 0x4000) ++ [64, ipProtocolIcmp]
  /-- `ip_sum`. -/
  ipSum : slice b 24 2 = bytes16 (ipCksum b)
  /-- `ip_src`. -/
  ipSrc : slice b 26 4 = src
  /-- `ip_dst`. -/
  ipDst : slice b 30 4 = dst
  /-- `icmp_type` and `icmp_code`. -/
  icmpType : slice b 34 2 = [type, code]
  /-- `icmp_sum`. -/
  icmpSum : slice b 36 2 = bytes16 (icmpCksum b 36)
  /-- `unused` and `next_mtu`. -/
  unused : slice b 38 4 = unused
  /-- `data`. -/
  data : slice b 42 28 = data

instance (type code : UInt8) (src dst unused data : List UInt8) (b : Frame) :
    Decidable (HoldsError type code src dst unused data b) :=
  decidable_of_iff (slice b 12 2 = bytes16 (htons ethertypeIp) ∧
    (slice b 14 10 = [0x45, 0] ++ bytes16 (htons 56) ++ bytes16 (htons 0) ++
      bytes16 (htons 0x4000) ++ [64, ipProtocolIcmp]) ∧
    slice b 24 2 = bytes16 (ipCksum b) ∧ slice b 26 4 = src ∧ slice b 30 4 = dst ∧
    slice b 34 2 = [type, code] ∧ slice b 36 2 = bytes16 (icmpCksum b 36) ∧
    slice b 38 4 = unused ∧ slice b 42 28 = data)
    ⟨fun ⟨h₁, h₂, h₃, h₄, h₅, h₆, h₇, h₈, h₉⟩ => ⟨h₁, h₂, h₃, h₄, h₅, h₆, h₇, h₈, h₉⟩,
      fun ⟨h₁, h₂, h₃, h₄, h₅, h₆, h₇, h₈, h₉⟩ => ⟨h₁, h₂, h₃, h₄, h₅, h₆, h₇, h₈, h₉⟩⟩

/-- The IP checksum is made of the bytes before and behind it. -/
theorem ipCksum_eq_cksum {b : Frame} (hlen : 34 ≤ b.length) :
    ipCksum b = cksum (slice b 14 10 ++ [0, 0] ++ slice b 26 8) := by
  have hsplit : slice (store b 24 [0, 0]) 14 20 =
      slice (store b 24 [0, 0]) 14 10 ++ slice (store b 24 [0, 0]) 24 2 ++
        slice (store b 24 [0, 0]) 26 8 := by
    rw [slice_add _ 14 12 8, slice_add _ 14 10 2]
  have hself : slice (store b 24 [0, 0]) 24 2 = [0, 0] :=
    slice_store_self (by simp only [List.length_cons, List.length_nil]; omega)
  unfold ipCksum
  rw [hsplit, hself, slice_store_of_disjoint (by simp), slice_store_of_disjoint (by simp)]

/-- So is the ICMP checksum. -/
theorem icmpCksum_eq_cksum {b : Frame} (hlen : 70 ≤ b.length) :
    icmpCksum b 36 = cksum (slice b 34 2 ++ [0, 0] ++ slice b 38 32) := by
  have hsplit : slice (store b 36 [0, 0]) 34 36 =
      slice (store b 36 [0, 0]) 34 2 ++ slice (store b 36 [0, 0]) 36 2 ++
        slice (store b 36 [0, 0]) 38 32 := by
    rw [slice_add _ 34 4 32, slice_add _ 34 2 2]
  have hself : slice (store b 36 [0, 0]) 36 2 = [0, 0] :=
    slice_store_self (by simp only [List.length_cons, List.length_nil]; omega)
  unfold icmpCksum
  rw [hsplit, hself, slice_store_of_disjoint (by simp), slice_store_of_disjoint (by simp)]

section Holds

variable {type code : UInt8} {src dst unused data : List UInt8} {b c : Frame}

/-- The hardware addresses do not matter. -/
theorem holdsError_congr (hb : 70 ≤ b.length) (hc : 70 ≤ c.length) (h : b.drop 12 = c.drop 12) :
    HoldsError type code src dst unused data b ↔ HoldsError type code src dst unused data c := by
  have hslice : ∀ i n, 12 ≤ i → slice b i n = slice c i n := by
    intro i n hi
    rw [slice_of_drop hi, slice_of_drop hi, h]
  have hip : ipCksum b = ipCksum c := by
    rw [ipCksum_eq_cksum (by omega), ipCksum_eq_cksum (by omega), hslice 14 10 (by omega),
      hslice 26 8 (by omega)]
  have hicmp : icmpCksum b 36 = icmpCksum c 36 := by
    rw [icmpCksum_eq_cksum hb, icmpCksum_eq_cksum hc, hslice 34 2 (by omega),
      hslice 38 32 (by omega)]
  constructor
  · rintro ⟨h₁, h₂, h₃, h₄, h₅, h₆, h₇, h₈, h₉⟩
    rw [hslice _ _ (by omega)] at h₁ h₂ h₃ h₄ h₅ h₆ h₇ h₈ h₉
    exact ⟨h₁, h₂, hip ▸ h₃, h₄, h₅, h₆, hicmp ▸ h₇, h₈, h₉⟩
  · rintro ⟨h₁, h₂, h₃, h₄, h₅, h₆, h₇, h₈, h₉⟩
    rw [← hslice _ _ (by omega)] at h₁ h₂ h₃ h₄ h₅ h₆ h₇ h₈ h₉
    exact ⟨h₁, h₂, hip.symm ▸ h₃, h₄, h₅, h₆, hicmp.symm ▸ h₇, h₈, h₉⟩

/-- **Two blocks that hold the same error are the same** but for the hardware addresses. -/
theorem eq_of_holdsError (hb : b.length = 70) (hc : c.length = 70)
    (haddr : slice b 0 12 = slice c 0 12) (h : HoldsError type code src dst unused data b)
    (h' : HoldsError type code src dst unused data c) : b = c := by
  -- the checksums are made of what is the same
  have hip : ipCksum b = ipCksum c := by
    rw [ipCksum_eq_cksum (by omega), ipCksum_eq_cksum (by omega), slice_add _ 26 4 4,
      slice_add _ 26 4 4, h.ipHeader, h'.ipHeader, h.ipSrc, h'.ipSrc, h.ipDst, h'.ipDst]
  have hicmp : icmpCksum b 36 = icmpCksum c 36 := by
    rw [icmpCksum_eq_cksum (by omega), icmpCksum_eq_cksum (by omega), slice_add _ 38 4 28,
      slice_add _ 38 4 28, h.icmpType, h'.icmpType, h.unused, h'.unused, h.data, h'.data]
  have hsplit : ∀ d : Frame, d.length = 70 → d = slice d 0 12 ++ slice d 12 2 ++ slice d 14 10 ++
      slice d 24 2 ++ slice d 26 4 ++ slice d 30 4 ++ slice d 34 2 ++ slice d 36 2 ++
      slice d 38 4 ++ slice d 42 28 := by
    intro d hd
    have hall := slice_zero_length d
    rw [hd, slice_add _ 0 42 28, slice_add _ 0 38 4, slice_add _ 0 36 2, slice_add _ 0 34 2,
      slice_add _ 0 30 4, slice_add _ 0 26 4, slice_add _ 0 24 2, slice_add _ 0 14 10,
      slice_add _ 0 12 2] at hall
    exact hall.symm
  rw [hsplit b hb, hsplit c hc, haddr, h.etherType, h'.etherType, h.ipHeader, h'.ipHeader,
    h.ipSum, h'.ipSum, hip, h.ipSrc, h'.ipSrc, h.ipDst, h'.ipDst, h.icmpType, h'.icmpType,
    h.icmpSum, h'.icmpSum, hicmp, h.unused, h'.unused, h.data, h'.data]

end Holds

@[simp] theorem length_errorBlock (sr : SrInstance) : (errorBlock sr).length = 70 := by
  simp [errorBlock, icmpErrorLen]

@[simp] theorem length_startedError (sr : SrInstance) (outIface : SrIf) :
    (startedError sr outIface).length = 70 := by
  simp [startedError]

@[simp] theorem length_finishedError (sr : SrInstance) (type code : UInt8) (outIface : SrIf)
    (buf : Frame) (off : ℕ) (icmpPacket : Frame) :
    (finishedError sr type code outIface buf off icmpPacket).length = icmpPacket.length := by
  simp [finishedError]

/-- **A finished error holds what it should.** -/
theorem finishedError_holds (sr : SrInstance) (type code : UInt8) (outIface : SrIf) (buf : Frame)
    (off : ℕ) {icmpPacket : Frame} (hlen : icmpPacket.length = 70) :
    HoldsError type code (bytes32 outIface.ip) (readMem sr.behind buf (off + 14 + 12) 4)
      (slice icmpPacket 38 4) (readMem sr.behind buf (off + 14) 28)
      (finishedError sr type code outIface buf off icmpPacket) := by
  have hdst : (readMem sr.behind buf (off + 14 + 12) 4).length = 4 := length_readMem _ _ _ _
  have hdata : (readMem sr.behind buf (off + 14) 28).length = 28 := length_readMem _ _ _ _
  have hself : ∀ (f : Frame) (xs : List UInt8) (i n : ℕ), xs.length = n → i + n ≤ f.length →
      slice (store f i xs) i n = xs := by
    rintro f xs i n rfl hin
    exact slice_store_self hin
  -- the IP checksum is not changed by itself, nor by what is written behind the header
  have hsum : ∀ (f : Frame) (v w : UInt16), ipCksum (store (store (store (store f 24 (bytes16 v))
      34 [type, code, 0, 0]) 42 (readMem sr.behind buf (off + 14) 28)) 36 (bytes16 w)) =
        ipCksum f := by
    intro f v w
    rw [ipCksum_store_of_disjoint (.inr (by omega)), ipCksum_store_of_disjoint (.inr (by omega)),
      ipCksum_store_of_disjoint (.inr (by omega)), ipCksum_store_sum]
  unfold finishedError
  constructor
  all_goals simp only [slice_store_of_disjoint, hdst, hdata, List.length_append, List.length_cons,
    List.length_nil, length_bytes16, length_bytes32, Nat.reduceAdd, Nat.reduceLeDiff, or_true,
    true_or]
  · exact hself _ _ _ _ rfl (by simp [hlen])
  · exact hself _ _ _ _ rfl (by simp [hlen])
  · rw [hsum]
    exact hself _ _ _ _ rfl (by simp [hlen])
  · exact hself _ _ _ _ rfl (by simp [hlen])
  · exact hself _ _ _ _ hdst (by simp [hlen])
  · have hfour : [type, code, 0, 0] = [type, code] ++ [0, 0] := rfl
    rw [hfour, store_append, slice_store_of_disjoint (by simp)]
    exact hself _ _ _ _ rfl (by simp [hlen])
  · rw [icmpCksum_store_sum]
    exact hself _ _ _ _ rfl (by simp [hlen])
  · exact hself _ _ _ _ hdata (by simp [hlen])

/-- The hardware addresses are written before. -/
theorem slice_finishedError (sr : SrInstance) (type code : UInt8) (outIface : SrIf) (buf : Frame)
    (off : ℕ) (icmpPacket : Frame) :
    slice (finishedError sr type code outIface buf off icmpPacket) 0 12 =
      slice icmpPacket 0 12 := by
  unfold finishedError
  simp only [slice_store_of_disjoint, Nat.reduceAdd, Nat.reduceLeDiff, true_or]

/-- The two hardware addresses, where they were written. -/
theorem slice_addresses {b dhost shost : List UInt8} (hlen : 12 ≤ b.length)
    (hdhost : dhost.length = 6) (hshost : shost.length = 6) :
    slice (store (store b 6 shost) 0 dhost) 0 12 = dhost ++ shost := by
  have hd : slice (store (store b 6 shost) 0 dhost) 0 6 = dhost := by
    rw [← hdhost]
    exact slice_store_self (by rw [length_store]; omega)
  have hs : slice (store (store b 6 shost) 0 dhost) 6 6 = shost := by
    rw [slice_store_of_disjoint (by omega)]
    conv_lhs => rw [← hshost]
    exact slice_store_self (by omega)
  rw [slice_add _ 0 6 6, hd, hs]

/-! ### Sent at once, and sent later -/

/-- An error for which the cache does not have the next hop: it is queued, and still waits when
an ARP reply from the next hop is received.  Between the two the cache can take any steps. -/
structure ErrorWaits (sr : SrInstance) (now : ℤ) (fuel : ℕ) (type code : UInt8)
    (ipDst : IpAddr) (buf : Frame) (off : ℕ) (rtMatch : SrRt) (outIface : SrIf) (reply : Frame)
    (st st₁ st₂ : ArpState) : Prop where
  /-- The error has a route. -/
  route : srFindRtEntry sr.routingTable (errorDst sr buf off) = some rtMatch
  /-- The route has an interface. -/
  iface : srGetInterface sr.ifList rtMatch.interface = some outIface
  /-- It is sent at some point of a run. -/
  start : Relation.ReflTransGen ArpStep srArpcacheInit st
  /-- Its next hop is not in the cache. -/
  miss : srArpcacheLookup st.entries rtMatch.gw = none
  /-- The call returns. -/
  called : (srSendIcmpErrorPacket sr (handleArpreq sr now fuel) type code ipDst buf off st).2 =
    .ok st₁
  /-- The run goes on. -/
  later : Relation.ReflTransGen ArpStep st₁ st₂
  /-- The error still waits. -/
  waits : ∃ r ∈ st₂.queue.reqs, ∃ p ∈ r.packets, p.id = st.nextId
  /-- A reply is received. -/
  op : arOp reply = arpOpReply
  /-- It comes from the next hop. -/
  sip : arSip reply = rtMatch.gw

/-- When the reply is handled, the error that waited, which has the number `id`, is sent as it
would have been in `stHit`, from another block of `malloc`. -/
def ErrorsAgree (sr : SrInstance) (now : ℤ) (fuel : ℕ) (type code : UInt8) (ipDst : IpAddr)
    (buf : Frame) (off : ℕ) (sr' : SrInstance) (now' : ℤ) (reply : Frame) (id : ℕ)
    (st₂ : ArpState) (uninit : ℕ → UInt8) (stHit : ArpState) : Prop :=
  ∃ st₃ events frame iface, srHandleArpPacket sr' now' reply st₂ = .ok st₃ ∧
    st₃.trace = events ++ st₂.trace ∧ .sent id frame iface ∈ events ∧
      (srSendIcmpErrorPacket { sr with uninit := uninit } (handleArpreq sr now fuel) type code
        ipDst buf off stHit).2 = .ok (stHit.note (.output frame iface))

section Agree

variable {sr sr' : SrInstance} {now now' : ℤ} {fuel : ℕ} {type code : UInt8} {ipDst : IpAddr}
  {buf reply : Frame} {off : ℕ} {rtMatch : SrRt} {outIface : SrIf} {st st₁ st₂ stHit : ArpState}
  {uninit : ℕ → UInt8}

theorem startedError_ne_nil (sr : SrInstance) (outIface : SrIf) :
    startedError sr outIface ≠ [] :=
  List.ne_nil_of_length_pos (by rw [length_startedError]; decide)

/-- **While it waits the error is as it was started.** -/
theorem ErrorWaits.queuedAs (h : ErrorWaits sr now fuel type code ipDst buf off rtMatch outIface
    reply st st₁ st₂) :
    QueuedAs ⟨st.nextId, startedError sr outIface, outIface.name⟩ rtMatch.gw st₂ := by
  have hcalled := h.called
  unfold srSendIcmpErrorPacket at hcalled
  simp only [h.route, h.iface, h.miss] at hcalled
  have hfirst := queuedAs_queuereq (numbered_of_run h.start) rtMatch.gw outIface.name
    (startedError_ne_nil sr outIface)
  have hshrinks : ∀ s s', Shrinks s s' →
      QueuedAs ⟨st.nextId, startedError sr outIface, outIface.name⟩ rtMatch.gw s →
        QueuedAs ⟨st.nextId, startedError sr outIface, outIface.name⟩ rtMatch.gw s' :=
    fun _ _ h hs => hs.shrinks h
  have hqueue : ∀ s ip packet iface,
      QueuedAs ⟨st.nextId, startedError sr outIface, outIface.name⟩ rtMatch.gw s →
        QueuedAs ⟨st.nextId, startedError sr outIface, outIface.name⟩ rtMatch.gw
          (srArpcacheQueuereq ip packet iface s).1 :=
    fun _ ip packet iface hs => hs.queuereq ip packet iface
  have hafter := handleArpreq_rule hshrinks hqueue hfirst hcalled
  have hlater := h.later
  clear h hcalled
  induction hlater with
  | refl => exact hafter
  | tail _ hstep ih => exact arpStep_rule hshrinks hqueue ih hstep

/-- **When the reply comes the error is sent** with the addresses of the interface and of the
sender, and else as it was started. -/
theorem ErrorWaits.replied (h : ErrorWaits sr now fuel type code ipDst buf off rtMatch outIface
    reply st st₁ st₂) (now' : ℤ) {i : SrIf}
    (hif : srGetInterfaceGivenIp sr'.ifList (arTip reply) = .ok (some i)) :
    ∃ st₃ events, srHandleArpPacket sr' now' reply st₂ = .ok st₃ ∧
      st₃.trace = events ++ st₂.trace ∧ ∀ frame iface,
        .sent st.nextId frame iface ∈ events ↔ iface = i.name ∧
          frame = readdressed i.addr (arSha reply) (startedError sr outIface) := by
  obtain ⟨r, hr, p, hp, hid⟩ := h.waits
  obtain ⟨hpeq, hip⟩ := h.queuedAs.2 r hr p hp hid
  have hfind : st₂.queue.find (arSip reply) = some r :=
    ArpQueue.find_eq_some.mpr ⟨hr, hip.trans h.sip.symm⟩
  refine ⟨_, (r.packets.map fun q =>
    ArpEvent.sent q.id (readdressed i.addr (arSha reply) q.buf) i.name).reverse ++
      [.learnt (arSip reply) (arSha reply)], srHandleArpPacket_reply now' h.op hif hfind, ?_, ?_⟩
  · rw [trace_replied, List.append_assoc]
    rfl
  · intro frame iface
    constructor
    · intro hmem
      rcases List.mem_append.mp hmem with hmem | hmem
      · obtain ⟨q, hq, heq⟩ := List.mem_map.mp (List.mem_reverse.mp hmem)
        injection heq with hqid hframe hname
        obtain ⟨rfl, -⟩ := h.queuedAs.2 r hr q hq hqid
        exact ⟨hname.symm, hframe.symm⟩
      · cases List.mem_singleton.mp hmem
    · rintro ⟨rfl, rfl⟩
      rw [hpeq] at hp
      exact List.mem_append_left _ (List.mem_reverse.mpr (List.mem_map.mpr ⟨_, hp, rfl⟩))

/-- On a hit the error is finished and sent. -/
theorem srSendIcmpErrorPacket_hit (handle : ℕ → ArpState → Except Halt ArpState)
    (type code : UInt8) (ipDst : IpAddr)
    (hroute : srFindRtEntry sr.routingTable (errorDst sr buf off) = some rtMatch)
    (hiface : srGetInterface sr.ifList rtMatch.interface = some outIface) {e : ArpEntry}
    (hhit : srArpcacheLookup stHit.entries rtMatch.gw = some e) :
    (srSendIcmpErrorPacket sr handle type code ipDst buf off stHit).2 =
      .ok (stHit.note (.output (finishedError sr type code outIface buf off
        (store (startedError sr outIface) 0 e.mac.bytes)) outIface.name)) := by
  unfold srSendIcmpErrorPacket
  simp only [hroute, hiface, hhit]

/-- The error is sent as it would have been exactly if it was finished when it was started. -/
theorem ErrorWaits.agree_iff (h : ErrorWaits sr now fuel type code ipDst buf off rtMatch outIface
    reply st st₁ st₂) {e : ArpEntry}
    (hif : srGetInterfaceGivenIp sr'.ifList (arTip reply) = .ok (some outIface))
    (hhit : srArpcacheLookup stHit.entries rtMatch.gw = some e) (hmac : e.mac = arSha reply) :
    ErrorsAgree sr now fuel type code ipDst buf off sr' now' reply st.nextId st₂ uninit stHit ↔
      readdressed outIface.addr (arSha reply) (startedError sr outIface) =
        finishedError sr type code outIface buf off
          (store (startedError { sr with uninit := uninit } outIface) 0 (arSha reply).bytes) := by
  obtain ⟨st₃, events, hreplied, htrace, hsent⟩ := h.replied now' hif
  have hroute : srFindRtEntry { sr with uninit := uninit }.routingTable
      (errorDst { sr with uninit := uninit } buf off) = some rtMatch := h.route
  have hwarm := srSendIcmpErrorPacket_hit (handleArpreq sr now fuel) type code ipDst hroute h.iface
    hhit
  rw [hmac] at hwarm
  constructor
  · rintro ⟨st₃', events', frame, iface, hreplied', htrace', hmem, hout⟩
    rw [hreplied] at hreplied'
    cases hreplied'
    rw [htrace] at htrace'
    obtain rfl := List.append_cancel_right htrace'
    obtain ⟨rfl, rfl⟩ := (hsent frame iface).mp hmem
    have htraces := congrArg ArpState.trace (Except.ok.inj (hwarm.symm.trans hout))
    rw [note_trace, note_trace] at htraces
    exact (ArpEvent.output.inj (List.cons.inj htraces).1).1.symm
  · intro heq
    refine ⟨st₃, events, _, outIface.name, hreplied, htrace, (hsent _ _).mpr ⟨rfl, rfl⟩, ?_⟩
    rw [heq]
    exact hwarm

/-- **An error that had to wait is sent as it would have been at once exactly if `malloc`
returned a block that held the error already.** -/
theorem errorsAgree_iff (h : ErrorWaits sr now fuel type code ipDst buf off rtMatch outIface
    reply st st₁ st₂) {e : ArpEntry}
    (hif : srGetInterfaceGivenIp sr'.ifList (arTip reply) = .ok (some outIface))
    (hhit : srArpcacheLookup stHit.entries rtMatch.gw = some e) (hmac : e.mac = arSha reply) :
    ErrorsAgree sr now fuel type code ipDst buf off sr' now' reply st.nextId st₂ uninit stHit ↔
      HoldsError type code (bytes32 outIface.ip) (readMem sr.behind buf (off + 14 + 12) 4)
        ((List.range' 38 4).map uninit) (readMem sr.behind buf (off + 14) 28)
        (errorBlock sr) := by
  have haddr : outIface.addr.bytes.length = 6 := outIface.addr.length_eq
  have hsha : (arSha reply).bytes.length = 6 := (arSha reply).length_eq
  rw [h.agree_iff hif hhit hmac]
  have hlen : (store (startedError { sr with uninit := uninit } outIface) 0
      (arSha reply).bytes).length = 70 := by simp
  -- the bytes that no field covers are those of the other block
  have hunused : slice (store (startedError { sr with uninit := uninit } outIface) 0
      (arSha reply).bytes) 38 4 = (List.range' 38 4).map uninit := by
    unfold startedError
    rw [slice_store_of_disjoint (by omega), slice_store_of_disjoint (by omega)]
    rfl
  have hfinished := finishedError_holds sr type code outIface buf off hlen
  rw [hunused] at hfinished
  have hstarted : (readdressed outIface.addr (arSha reply) (startedError sr outIface)).drop 12 =
      (errorBlock sr).drop 12 := by
    unfold startedError
    rw [drop_readdressed (Nat.le_refl _), drop_store (by omega)]
  rw [← holdsError_congr (by simp) (by simp) hstarted]
  constructor
  · intro heq
    rw [heq]
    exact hfinished
  · intro hholds
    refine eq_of_holdsError (by simp) (by simp) ?_ hholds hfinished
    rw [slice_finishedError]
    unfold readdressed startedError
    rw [slice_addresses (by simp) hsha haddr, slice_addresses (by simp) hsha haddr]

end Agree

/-! ### A datagram whose TTL has run out -/

/-- A datagram from 10.0.4.5 to 10.0.9.9, with no hop to go. -/
def expiredFrame : Frame :=
  [0x01, 0x01, 0x01, 0x01, 0x01, 0x01, 0x02, 0x02, 0x02, 0x02, 0x02, 0x02, 0x08, 0x00,
    0x45, 0x00, 0x00, 0x1c, 0x00, 0x01, 0x00, 0x00, 0x01, 0x11, 0x98, 0xc3,
    0x0a, 0x00, 0x04, 0x05, 0x0a, 0x00, 0x09, 0x09,
    0x00, 0x35, 0x00, 0x35, 0x00, 0x08, 0x00, 0x00]

/-- The router's interface. -/
def gatewayIf : SrIf := ⟨"eth1".toList, generateEthernetAddr 1, 0x0101000a, 0x00ffffff, 5, 0, 0⟩

/-- The error about it waits for the gateway. -/
theorem expiredFrame_waits : ∃ st₁,
    ErrorWaits gatewayRouter 10 1 11 0 (ipSrc expiredFrame) expiredFrame 0 gatewayRoute gatewayIf
      (gatewayArp 2) srArpcacheInit st₁ st₁ :=
  ⟨_, by decide, by decide, .refl, by decide, rfl, .refl,
    ⟨_, List.mem_cons_self, _, List.mem_cons_self, rfl⟩, by decide, by decide⟩

/-- The condition for this error. -/
theorem errorsAgree_iff_expiredFrame : ∃ st₁,
    ErrorsAgree gatewayRouter 10 1 11 0 (ipSrc expiredFrame) expiredFrame 0 gatewayRouter 11
        (gatewayArp 2) 0 st₁ (fun _ => 0) gatewayKnown ↔
      HoldsError 11 0 (bytes32 gatewayIf.ip) (readMem gatewayRouter.behind expiredFrame 26 4)
        ((List.range' 38 4).map fun _ => 0) (readMem gatewayRouter.behind expiredFrame 14 28)
        (errorBlock gatewayRouter) := by
  obtain ⟨st₁, h⟩ := expiredFrame_waits
  have hhit : srArpcacheLookup gatewayKnown.entries gatewayRoute.gw =
      some ⟨generateEthernetAddr 2, 0x0201000a, 10, true⟩ := by decide
  exact ⟨st₁, errorsAgree_iff h rfl hhit (by decide)⟩

/-- **A block of zeros is sent** when the gateway replies, with the hardware addresses in front:
it has not even the type of an IP packet. -/
theorem expiredFrame_not_agree : ∃ st₁,
    ErrorWaits gatewayRouter 10 1 11 0 (ipSrc expiredFrame) expiredFrame 0 gatewayRoute gatewayIf
        (gatewayArp 2) srArpcacheInit st₁ st₁ ∧
      srGetInterfaceGivenIp gatewayRouter.ifList (arTip (gatewayArp 2)) = .ok (some gatewayIf) ∧
      ¬ ErrorsAgree gatewayRouter 10 1 11 0 (ipSrc expiredFrame) expiredFrame 0 gatewayRouter 11
        (gatewayArp 2) 0 st₁ (fun _ => 0) gatewayKnown := by
  obtain ⟨st₁, h⟩ := expiredFrame_waits
  have hhit : srArpcacheLookup gatewayKnown.entries gatewayRoute.gw =
      some ⟨generateEthernetAddr 2, 0x0201000a, 10, true⟩ := by decide
  refine ⟨st₁, h, rfl, ?_⟩
  intro hagree
  have heq := (h.agree_iff rfl hhit (by decide)).mp hagree
  have hlen : (store (startedError { gatewayRouter with uninit := fun _ => 0 } gatewayIf) 0
      (arSha (gatewayArp 2)).bytes).length = 70 := by simp
  have htype := (finishedError_holds gatewayRouter 11 0 gatewayIf expiredFrame 0 hlen).etherType
  rw [← heq] at htype
  exact absurd htype (by decide)

end Redes.Reenvio
