import Redes.Router.Forwarding

/-!
# Frames that are accepted

`sr_send_packet` drops a frame whose source address is not that of the interface it is sent
through, and a receiver drops a frame that `is_packet_valid` refuses.  What the router
makes of valid packets passes both, for each of the ways in which it makes a frame, but for
the reply to an echo request: its source is whatever address the request was for.

## Main definitions

* `Outgoing` — a frame that is passed to `sr_send_packet`.
* `srEtherAddrsMatchInterface` — the check of `sr_send_packet`.
* `Acceptable` — a frame that passes both checks.
* `NamesMatch` — interfaces of one name have one address.

## Main results

* `isPacketValid_ip_iff` — what `is_packet_valid` asks of an IP packet.
* `isPacketValid_store_of_le` — it does not look at the hardware addresses.
* `acceptable_icmpErrorFrame`, `acceptable_arpRequestFrame`, `acceptable_arpReplyFrame`,
  `acceptable_readdressed` — frames that are accepted.
* `acceptable_icmpReplyFrame_iff` — when the reply to an echo request is.
-/

namespace Redes

open Bytes

/-! ### The checks -/

/-- A frame that is passed to `sr_send_packet`, and the name of the interface. -/
structure Outgoing where
  /-- The frame. -/
  frame : Frame
  /-- The interface. -/
  iface : IfName
  deriving DecidableEq

/-- `sr_ether_addrs_match_interface`. -/
def srEtherAddrsMatchInterface (ifList : List SrIf) (buf : Frame) (name : IfName) : Bool :=
  match srGetInterface ifList name with
  | none => false
  | some iface => etherShost buf = iface.addr.bytes

/-- A frame that `sr_send_packet` does not drop, and that is valid. -/
def Acceptable (ifList : List SrIf) (out : Outgoing) : Prop :=
  srEtherAddrsMatchInterface ifList out.frame out.iface = true ∧ isPacketValid out.frame = true

instance (ifList : List SrIf) (out : Outgoing) : Decidable (Acceptable ifList out) :=
  inferInstanceAs (Decidable (_ ∧ _))

/-- Interfaces that have the same name have the same hardware address. -/
def NamesMatch (ifList : List SrIf) : Prop :=
  ∀ i ∈ ifList, ∀ j ∈ ifList, i.name = j.name → i.addr = j.addr

instance (ifList : List SrIf) : Decidable (NamesMatch ifList) :=
  inferInstanceAs (Decidable (∀ i ∈ ifList, ∀ j ∈ ifList, i.name = j.name → i.addr = j.addr))

theorem srEtherAddrsMatchInterface_eq_true {ifList : List SrIf} {buf : Frame} {name : IfName} :
    srEtherAddrsMatchInterface ifList buf name = true ↔
      ∃ i, srGetInterface ifList name = some i ∧ etherShost buf = i.addr.bytes := by
  unfold srEtherAddrsMatchInterface
  cases srGetInterface ifList name <;> simp

/-- An interface of the router is found under its name, or one with the same address is. -/
theorem NamesMatch.get {ifList : List SrIf} (h : NamesMatch ifList) {i : SrIf} (hi : i ∈ ifList) :
    ∃ out, srGetInterface ifList i.name = some out ∧ out.addr = i.addr := by
  have hsome : (srGetInterface ifList i.name).isSome := by
    unfold srGetInterface
    rw [List.find?_isSome]
    exact ⟨i, hi, by simp⟩
  obtain ⟨out, hout⟩ := Option.isSome_iff_exists.mp hsome
  obtain ⟨hmem, hname⟩ := srGetInterface_mem hout
  exact ⟨out, hout, h out hmem i hi hname⟩

/-- A valid frame with the address of an interface is accepted there. -/
theorem acceptable_of_mem {ifList : List SrIf} (h : NamesMatch ifList) {i : SrIf}
    (hi : i ∈ ifList) {frame : Frame} (hshost : etherShost frame = i.addr.bytes)
    (hvalid : isPacketValid frame = true) : Acceptable ifList ⟨frame, i.name⟩ := by
  obtain ⟨out, hout, haddr⟩ := h.get hi
  exact ⟨srEtherAddrsMatchInterface_eq_true.mpr ⟨out, hout, by rw [haddr]; exact hshost⟩, hvalid⟩

/-! ### Validity -/

/-- **What `is_packet_valid` asks of an IP packet.** -/
theorem isPacketValid_ip_iff {p : Frame} (htype : etherType p = htons ethertypeIp) :
    isPacketValid p = true ↔ 34 ≤ p.length ∧ ipCksum p = ipSum p ∧
      (ipP p = ipProtocolIcmp → 38 ≤ p.length ∧ icmpCksum p (p.length - 34) = icmpSum p) ∧
      (ipP p = ipProtocolOspfv2 → 58 ≤ p.length ∧ ospfv2Cksum p (p.length - 34) = ospfCsum p) := by
  have harp : htons ethertypeIp ≠ htons ethertypeArp := by decide
  have hproto : ipProtocolIcmp ≠ ipProtocolOspfv2 := by decide
  unfold isPacketValid
  rw [if_neg (by rw [htype]; exact harp), if_pos htype]
  by_cases hlen : 14 + 20 ≤ p.length
  · by_cases hsum : ipCksum p = ipSum p
    · rw [if_pos hlen, if_pos hsum]
      by_cases hicmp : ipP p = ipProtocolIcmp
      · simp [hicmp, hproto, hsum, Nat.le_trans (by decide : 34 ≤ 14 + 20) hlen]
      · by_cases hospf : ipP p = ipProtocolOspfv2
        · simp [hospf, Ne.symm hproto, hsum, Nat.le_trans (by decide : 34 ≤ 14 + 20) hlen]
        · simp [hicmp, hospf, hsum, Nat.le_trans (by decide : 34 ≤ 14 + 20) hlen]
    · simp [hsum]
  · simp [hlen]

/-- A frame with the type of ARP packets only has to be long enough. -/
theorem isPacketValid_arp_iff {p : Frame} (htype : etherType p = htons ethertypeArp) :
    isPacketValid p = true ↔ 42 ≤ p.length := by
  unfold isPacketValid
  rw [if_pos htype]
  simp

/-- A valid frame has room for the headers. -/
theorem length_of_isPacketValid {p : Frame} (h : isPacketValid p = true) : 34 ≤ p.length := by
  by_cases harp : etherType p = htons ethertypeArp
  · exact Nat.le_trans (by decide) ((isPacketValid_arp_iff harp).mp h)
  · by_cases hip : etherType p = htons ethertypeIp
    · exact ((isPacketValid_ip_iff hip).mp h).1
    · unfold isPacketValid at h
      rw [if_neg harp, if_neg hip] at h
      cases h

/-- The ICMP checksum does not depend on bytes before the ICMP header. -/
theorem icmpCksum_store_of_le {p : Frame} {i len : ℕ} {xs : List UInt8}
    (h : i + xs.length ≤ 34) : icmpCksum (store p i xs) len = icmpCksum p len := by
  unfold icmpCksum
  have hcomm : store (store p i xs) 36 [0, 0] = store (store p 36 [0, 0]) i xs :=
    store_comm (by omega)
  rw [hcomm, slice_store_of_disjoint (by omega)]

/-- The ICMP checksum does not depend on itself. -/
theorem icmpCksum_store_sum (p : Frame) (v : UInt16) (len : ℕ) :
    icmpCksum (store p 36 (bytes16 v)) len = icmpCksum p len := by
  unfold icmpCksum
  rw [store_store (by simp)]

/-- **`is_packet_valid` does not look at the hardware addresses.** -/
theorem isPacketValid_store_of_le {p : Frame} {i : ℕ} {xs : List UInt8} (h : i + xs.length ≤ 12) :
    isPacketValid (store p i xs) = isPacketValid p := by
  unfold isPacketValid
  rw [ipCksum_store_of_disjoint (by omega), icmpCksum_store_of_le (by omega),
    ospfv2Cksum_store_of_le (by omega), length_store]
  unfold etherType ipSum ipP icmpSum ospfCsum
  rw [load16_store_of_disjoint (by omega), load16_store_of_disjoint (by omega),
    load8_store_of_disjoint (by omega), load16_store_of_disjoint (by omega),
    load16_store_of_disjoint (by omega)]

theorem isPacketValid_readdressed {shost dhost : Mac} {buf : Frame} :
    isPacketValid (readdressed shost dhost buf) = isPacketValid buf := by
  have hs := shost.length_eq
  have hd := dhost.length_eq
  unfold readdressed
  rw [isPacketValid_store_of_le (by omega), isPacketValid_store_of_le (by omega)]

/-- A packet is as valid with its TTL decremented, which is not what its checksum is over. -/
theorem isPacketValid_decremented {packet : Frame} (htype : etherType packet = htons ethertypeIp)
    (h : isPacketValid packet = true) : isPacketValid (decremented packet) = true := by
  obtain ⟨hlen, -, hicmp, hospf⟩ := (isPacketValid_ip_iff htype).mp h
  have htype' : etherType (decremented packet) = htons ethertypeIp := by
    unfold decremented etherType
    rw [load16_store_of_disjoint (by simp), load16_store_of_disjoint (by simp)]
    exact htype
  have hproto : ipP (decremented packet) = ipP packet := by
    unfold decremented ipP
    rw [load8_store_of_disjoint (by simp), load8_store_of_disjoint (by simp)]
  refine (isPacketValid_ip_iff htype').mpr ⟨by rwa [length_decremented], ?_, ?_, ?_⟩
  · unfold decremented ipSum
    rw [ipCksum_store_sum, load16_store_bytes16 _ (by rw [length_store]; omega)]
  · rw [hproto, length_decremented]
    unfold decremented icmpSum
    rw [icmpCksum_store_of_le (by simp), icmpCksum_store_of_le (by simp),
      load16_store_of_disjoint (by simp), load16_store_of_disjoint (by simp)]
    exact hicmp
  · rw [hproto, length_decremented]
    unfold decremented ospfCsum
    rw [ospfv2Cksum_store_of_le (by simp), ospfv2Cksum_store_of_le (by simp),
      load16_store_of_disjoint (by simp), load16_store_of_disjoint (by simp)]
    exact hospf

/-! ### Source addresses -/

/-- The source address that was written is there. -/
theorem etherShost_store {buf : Frame} {shost : Mac} (h : 12 ≤ buf.length) :
    etherShost (store buf 6 shost.bytes) = shost.bytes := by
  have hs := shost.length_eq
  have hself : slice (store buf 6 shost.bytes) 6 shost.bytes.length = shost.bytes :=
    slice_store_self (by omega)
  rwa [hs] at hself

/-- The source address is not changed elsewhere. -/
theorem etherShost_store_of_disjoint {buf : Frame} {i : ℕ} {xs : List UInt8}
    (h : 12 ≤ i ∨ i + xs.length ≤ 6) : etherShost (store buf i xs) = etherShost buf :=
  slice_store_of_disjoint (by omega)

theorem acceptable_readdressed {ifList : List SrIf} {name : IfName} {i : SrIf}
    (hi : srGetInterface ifList name = some i) (dhost : Mac) {buf : Frame}
    (hvalid : isPacketValid buf = true) :
    Acceptable ifList ⟨readdressed i.addr dhost buf, name⟩ := by
  have hlen := length_of_isPacketValid hvalid
  refine ⟨srEtherAddrsMatchInterface_eq_true.mpr ⟨i, hi, etherShost_readdressed (by omega)⟩, ?_⟩
  rw [isPacketValid_readdressed]
  exact hvalid

/-! ### ARP packets -/

/-- An ARP request: its hardware addresses, its type and the ARP header. -/
theorem arpRequestFrame_eq (i : SrIf) (ip : IpAddr) : ∃ rest, rest.length = 28 ∧
    arpRequestFrame i ip = (generateEthernetAddr 255).bytes ++
      (i.addr.bytes ++ (bytes16 (htons ethertypeArp) ++ rest)) := by
  have hm := i.addr.length_eq
  have hz := (generateEthernetAddr 0).length_eq
  refine ⟨bytes16 (htons 1) ++ bytes16 (htons 2048) ++ [6, 4] ++ bytes16 (htons arpOpRequest) ++
    i.addr.bytes ++ bytes32 i.ip ++ (generateEthernetAddr 0).bytes ++ bytes32 ip, ?_, ?_⟩
  · simp only [List.length_append, length_bytes16, length_bytes32, hm, hz, List.length_cons,
      List.length_nil]
  · unfold arpRequestFrame
    simp only [List.append_assoc]

theorem acceptable_arpRequestFrame {ifList : List SrIf} (h : NamesMatch ifList) {i : SrIf}
    (hi : i ∈ ifList) (ip : IpAddr) : Acceptable ifList ⟨arpRequestFrame i ip, i.name⟩ := by
  have hm := i.addr.length_eq
  have hb := (generateEthernetAddr 255).length_eq
  obtain ⟨rest, hrest, heq⟩ := arpRequestFrame_eq i ip
  have hdrop : (arpRequestFrame i ip).drop 6 =
      i.addr.bytes ++ (bytes16 (htons ethertypeArp) ++ rest) := by
    rw [heq, List.drop_left' hb]
  have htype : etherType (arpRequestFrame i ip) = htons ethertypeArp := by
    rw [etherType, ← load16_drop, ← List.drop_drop (i := 6) (j := 6), hdrop,
      List.drop_left' hm]
    exact load16_bytes16 (htons ethertypeArp)
  refine acceptable_of_mem h hi ?_ ((isPacketValid_arp_iff htype).mpr ?_)
  · rw [etherShost, slice, hdrop, List.take_left' hm]
  · simp only [heq, List.length_append, length_bytes16, hm, hb, hrest]
    decide

theorem acceptable_arpReplyFrame {ifList : List SrIf} (h : NamesMatch ifList) {i : SrIf}
    (hi : i ∈ ifList) {packet : Frame} (hvalid : isPacketValid packet = true)
    (htype : etherType packet = htons ethertypeArp) :
    Acceptable ifList ⟨arpReplyFrame packet i, i.name⟩ := by
  have hi6 := i.addr.length_eq
  have hs6 := (arSha packet).length_eq
  have hlen := (isPacketValid_arp_iff htype).mp hvalid
  have htype' : etherType (arpReplyFrame packet i) = htons ethertypeArp := by
    rw [← htype]
    unfold arpReplyFrame etherType
    rw [load16_store_of_disjoint (by simp), load16_store_of_disjoint (by simp),
      load16_store_of_disjoint (by simp), load16_store_of_disjoint (by omega),
      load16_store_of_disjoint (by omega), load16_store_of_disjoint (by omega),
      load16_store_of_disjoint (by omega)]
  refine acceptable_of_mem h hi ?_ ((isPacketValid_arp_iff htype').mpr ?_)
  · unfold arpReplyFrame
    rw [etherShost_store_of_disjoint (by simp), etherShost_store_of_disjoint (by simp),
      etherShost_store_of_disjoint (by simp), etherShost_store_of_disjoint (by omega),
      etherShost_store_of_disjoint (by omega), etherShost_store_of_disjoint (by omega),
      etherShost_store (by omega)]
  · unfold arpReplyFrame
    simpa using hlen

/-! ### ICMP packets -/

section IcmpError

variable (sr : SrInstance) (type code : UInt8) (outIface : SrIf) (buf : Frame) (off : ℕ)

/-- An ICMP error is valid, whatever the packet it is about is. -/
theorem isPacketValid_icmpErrorFrame :
    isPacketValid (icmpErrorFrame sr type code outIface buf off) = true := by
  have hm := outIface.addr.length_eq
  have hread : ∀ i n, (readMem sr.behind buf i n).length = n := length_readMem _ _
  have htype : etherType (icmpErrorFrame sr type code outIface buf off) = htons ethertypeIp := by
    unfold icmpErrorFrame etherType
    rw [load16_store_of_disjoint (by simp), load16_store_of_disjoint (by simp),
      load16_store_of_disjoint (by simp), load16_store_of_disjoint (by simp),
      load16_store_of_disjoint (by simp), load16_store_of_disjoint (by simp),
      load16_store_of_disjoint (by simp), load16_store_bytes16 _ (by simp [icmpErrorLen])]
  have hproto : ipP (icmpErrorFrame sr type code outIface buf off) = ipProtocolIcmp := by
    unfold icmpErrorFrame ipP
    rw [load8_store_of_disjoint (by simp), load8_store_of_disjoint (by simp),
      load8_store_of_disjoint (by simp), load8_store_of_disjoint (by simp),
      load8_store_of_disjoint (by simp), load8_store_of_disjoint (by simp)]
    -- the protocol is the last of ten bytes written at 14
    exact load8_store (i := 14) (k := 9) (by simp) (by simp [icmpErrorLen])
  have hospf : ipProtocolIcmp ≠ ipProtocolOspfv2 := by decide
  refine (isPacketValid_ip_iff htype).mpr ⟨?_, ?_, ?_, ?_⟩
  · rw [length_icmpErrorFrame]
    decide
  · unfold icmpErrorFrame ipSum
    rw [ipCksum_store_of_disjoint (.inr (by decide)), ipCksum_store_of_disjoint (.inr (by decide)),
      ipCksum_store_of_disjoint (.inr (by decide)), ipCksum_store_sum,
      load16_store_of_disjoint (by simp), load16_store_of_disjoint (by simp),
      load16_store_of_disjoint (by simp), load16_store_bytes16 _ (by simp [icmpErrorLen])]
  · intro _
    rw [length_icmpErrorFrame]
    refine ⟨by decide, ?_⟩
    unfold icmpErrorFrame icmpSum
    rw [icmpCksum_store_sum, load16_store_bytes16 _ (by simp [icmpErrorLen])]
    rfl
  · intro h
    exact absurd (hproto.symm.trans h) hospf

theorem etherShost_icmpErrorFrame :
    etherShost (icmpErrorFrame sr type code outIface buf off) = outIface.addr.bytes := by
  unfold icmpErrorFrame
  rw [etherShost_store_of_disjoint (by simp), etherShost_store_of_disjoint (by simp),
    etherShost_store_of_disjoint (by simp), etherShost_store_of_disjoint (by simp),
    etherShost_store_of_disjoint (by simp), etherShost_store_of_disjoint (by simp),
    etherShost_store_of_disjoint (by simp), etherShost_store_of_disjoint (by simp),
    etherShost_store (by simp [icmpErrorLen])]

variable {sr outIface} in
theorem acceptable_icmpErrorFrame (h : NamesMatch sr.ifList) (hi : outIface ∈ sr.ifList)
    (mac : Mac) : Acceptable sr.ifList
      ⟨store (icmpErrorFrame sr type code outIface buf off) 0 mac.bytes, outIface.name⟩ := by
  have hm := mac.length_eq
  refine acceptable_of_mem h hi ?_ ?_
  · rw [etherShost_store_of_disjoint (by omega)]
    exact etherShost_icmpErrorFrame sr type code outIface buf off
  · rw [isPacketValid_store_of_le (by omega)]
    exact isPacketValid_icmpErrorFrame sr type code outIface buf off

end IcmpError

/-- The frame that `sr_send_icmp` sends. -/
def icmpReplyFrame (packet : Frame) (icmpType icmpCode : UInt8) : Frame :=
  let frame := store packet 6 (etherDhost packet)
  let frame := store frame 0 (etherShost packet)
  let frame := store frame 26 (bytes32 (ipDst packet))
  let frame := store frame 30 (bytes32 (ipSrc packet))
  let frame := store frame 34 [icmpType, icmpCode]
  let frame := store frame 36 (bytes16 (icmpCksum frame (packet.length - 34)))
  store frame 24 (bytes16 (ipCksum frame))

theorem srSendIcmp_eq (packet : Frame) (icmpType icmpCode : UInt8) (interface : IfName)
    (st : ArpState) : srSendIcmp packet icmpType icmpCode interface st =
      st.note (.output (icmpReplyFrame packet icmpType icmpCode) interface) := rfl

section IcmpReply

variable {packet : Frame} (icmpType icmpCode : UInt8)

@[simp] theorem length_icmpReplyFrame :
    (icmpReplyFrame packet icmpType icmpCode).length = packet.length := by
  simp [icmpReplyFrame]

/-- The reply to a valid ICMP packet is valid. -/
theorem isPacketValid_icmpReplyFrame (htype : etherType packet = htons ethertypeIp)
    (hicmp : ipP packet = ipProtocolIcmp) (hvalid : isPacketValid packet = true) :
    isPacketValid (icmpReplyFrame packet icmpType icmpCode) = true := by
  obtain ⟨-, -, hicmpLen, -⟩ := (isPacketValid_ip_iff htype).mp hvalid
  have hlen := (hicmpLen hicmp).1
  have hs : (etherShost packet).length = 6 := length_slice (by omega)
  have hd : (etherDhost packet).length = 6 := length_slice (by omega)
  have htype' : etherType (icmpReplyFrame packet icmpType icmpCode) = htons ethertypeIp := by
    rw [← htype]
    unfold icmpReplyFrame etherType
    rw [load16_store_of_disjoint (by simp), load16_store_of_disjoint (by simp),
      load16_store_of_disjoint (by simp), load16_store_of_disjoint (by simp),
      load16_store_of_disjoint (by simp), load16_store_of_disjoint (by omega),
      load16_store_of_disjoint (by omega)]
  have hproto : ipP (icmpReplyFrame packet icmpType icmpCode) = ipProtocolIcmp := by
    rw [← hicmp]
    unfold icmpReplyFrame ipP
    rw [load8_store_of_disjoint (by simp), load8_store_of_disjoint (by simp),
      load8_store_of_disjoint (by simp), load8_store_of_disjoint (by simp),
      load8_store_of_disjoint (by simp), load8_store_of_disjoint (by omega),
      load8_store_of_disjoint (by omega)]
  have hospf : ipProtocolIcmp ≠ ipProtocolOspfv2 := by decide
  refine (isPacketValid_ip_iff htype').mpr ⟨?_, ?_, ?_, ?_⟩
  · rw [length_icmpReplyFrame]
    omega
  · unfold icmpReplyFrame ipSum
    rw [ipCksum_store_sum, load16_store_bytes16 _ (by simp; omega)]
  · intro _
    rw [length_icmpReplyFrame]
    refine ⟨hlen, ?_⟩
    unfold icmpReplyFrame icmpSum
    rw [icmpCksum_store_of_le (by simp), icmpCksum_store_sum, load16_store_of_disjoint (by simp),
      load16_store_bytes16 _ (by simp; omega)]
  · intro h
    exact absurd (hproto.symm.trans h) hospf

/-- The source of the reply is the destination of the packet. -/
theorem etherShost_icmpReplyFrame (hlen : 12 ≤ packet.length) :
    etherShost (icmpReplyFrame packet icmpType icmpCode) = etherDhost packet := by
  have hs : (etherShost packet).length = 6 := length_slice (by omega)
  have hd : (etherDhost packet).length = 6 := length_slice (by omega)
  have hself : slice (store packet 6 (etherDhost packet)) 6 (etherDhost packet).length =
      etherDhost packet := slice_store_self (by omega)
  unfold icmpReplyFrame
  rw [etherShost_store_of_disjoint (by simp), etherShost_store_of_disjoint (by simp),
    etherShost_store_of_disjoint (by simp), etherShost_store_of_disjoint (by simp),
    etherShost_store_of_disjoint (by simp), etherShost_store_of_disjoint (by omega)]
  rwa [hd] at hself

/-- **The reply to a valid ICMP packet is accepted exactly if the packet was for the hardware
address of the interface.** -/
theorem acceptable_icmpReplyFrame_iff {ifList : List SrIf} {interface : IfName}
    (htype : etherType packet = htons ethertypeIp) (hicmp : ipP packet = ipProtocolIcmp)
    (hvalid : isPacketValid packet = true) :
    Acceptable ifList ⟨icmpReplyFrame packet icmpType icmpCode, interface⟩ ↔
      ∃ i, srGetInterface ifList interface = some i ∧ etherDhost packet = i.addr.bytes := by
  have hlen := length_of_isPacketValid hvalid
  have hreply := isPacketValid_icmpReplyFrame icmpType icmpCode htype hicmp hvalid
  unfold Acceptable
  rw [and_iff_left hreply, srEtherAddrsMatchInterface_eq_true,
    etherShost_icmpReplyFrame icmpType icmpCode (by omega)]

end IcmpReply

end Redes
