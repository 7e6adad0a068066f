import Mathlib.Data.List.GetD
import Mathlib.Data.List.Induction
import Redes.Network.Steps
import Redes.Pwospf.RoundTrip

/-!
# What a router passes on

Routers learn from what they receive, and most of what they know of it they send on: the
mappings of ARP decide where packets go, and LSUs are flooded.  Whatever is true of what a
router receives, and of its own interfaces and LSUs, stays true of its ARP cache, of the
packets that wait, and of every frame it sends, one that is sent before a failure included.
Here for ARP and IP packets; the events are in `Redes.Network.Bears`.

## Main definitions

* `Said`, `said` — what the originator of an LSU says.
* `Facts` — what is true of mappings and of LSUs.
* `Hears`, `Emits` — the frames a router receives and sends, in the light of the facts.
* `Waits`, `ArpBears`, `Bears` — the packets that wait, the ARP cache and the state.

## Main results

* `emits_arpRequestFrame`, `emits_arpReplyFrame`, `emits_helloFrame`, `Waits.emits` — the frames
  that are made.
* `emits_handleArpreqOut`, `emits_srArpcacheTimeoutOut`, `emits_srHandleArpPacketOut`,
  `emits_srHandleOtherPacketOut` — the functions for ARP and IP packets.
-/

namespace Redes

open Bytes Logged

/-! ### Facts -/

/-- What the originator of an LSU says, which no router on the way changes. -/
structure Said where
  /-- The router id. -/
  rid : IpAddr
  /-- The sequence number. -/
  seq : UInt16
  /-- The number of advertisements, the advertisements, and what comes behind them. -/
  body : List UInt8
  deriving DecidableEq

/-- What an LSU says. -/
def said (packet : Frame) : Said := ⟨ospfRid packet, lsuSeq packet, packet.drop 62⟩

/-- What a router takes to be true. -/
structure Facts where
  /-- What originators say. -/
  told : Said → Prop
  /-- Which hardware addresses belong to which IP addresses. -/
  bound : IpAddr → Mac → Prop
  /-- Which routers are near, through which interface. -/
  near : IfName → Heard → Prop

/-- What a received frame tells is true. -/
structure Hears (facts : Facts) (interface : IfName) (packet : Frame) : Prop where
  /-- The sender of an ARP packet has this address. -/
  arp : etherType packet = htons ethertypeArp → facts.bound (arSip packet) (arSha packet)
  /-- The sender of a HELLO is near. -/
  hello : etherType packet = htons ethertypeIp → ipP packet = ipProtocolOspfv2 →
    ospfType packet = ospfTypeHello → facts.near interface ⟨ospfRid packet, ipSrc packet⟩
  /-- An LSU is what somebody said. -/
  lsu : etherType packet = htons ethertypeIp → ipP packet = ipProtocolOspfv2 →
    ospfType packet = ospfTypeLsu → facts.told (said packet)

/-- A frame that a router may send: ARP packets and HELLOs tell of the interface that they leave
through, LSUs are true, and are sent to an address that belongs to somebody. -/
structure Emits (facts : Facts) (ports : List Port) (routerId : IpAddr) (out : Outgoing) :
    Prop where
  /-- ARP packets are about the interface. -/
  arp : etherType out.frame = htons ethertypeArp →
    ∃ i ∈ ports, out.iface = i.name ∧ arSip out.frame = i.ip ∧ arSha out.frame = i.addr
  /-- HELLOs are about the interface, and the router. -/
  hello : etherType out.frame = htons ethertypeIp → ipP out.frame = ipProtocolOspfv2 →
    ospfType out.frame = ospfTypeHello →
      ∃ i ∈ ports, out.iface = i.name ∧ ospfRid out.frame = routerId ∧ ipSrc out.frame = i.ip
  /-- Other OSPF packets are LSUs, and true. -/
  lsu : etherType out.frame = htons ethertypeIp → ipP out.frame = ipProtocolOspfv2 →
    ospfType out.frame ≠ ospfTypeHello →
      ospfType out.frame = ospfTypeLsu ∧ facts.told (said out.frame) ∧
        ∃ ip mac, facts.bound ip mac ∧ etherDhost out.frame = mac.bytes

/-- A packet that may wait until its next hop is known: no ARP packet and no HELLO. -/
structure Waits (facts : Facts) (buf : Frame) : Prop where
  /-- It is an IP packet. -/
  type : etherType buf = htons ethertypeIp
  /-- If it is an OSPF packet, it is an LSU, and true. -/
  lsu : ipP buf = ipProtocolOspfv2 → ospfType buf = ospfTypeLsu ∧ facts.told (said buf)

/-- The ARP cache bears the facts out. -/
structure ArpBears (facts : Facts) (st : ArpState) : Prop where
  /-- So do the packets that wait. -/
  pending : ∀ r ∈ st.queue.reqs, ∀ p ∈ r.packets, Waits facts p.buf
  /-- So do the mappings. -/
  entries : ∀ e ∈ st.entries, e.valid = true → facts.bound e.ip e.mac

/-- The state of a router bears the facts out. -/
structure Bears (facts : Facts) (s : RouterState) : Prop where
  /-- The ARP cache does. -/
  arp : ArpBears facts s.arp
  /-- The neighbours do. -/
  neighbors : ∀ i ∈ s.ifList, i.neighborId ≠ 0 → facts.near i.name ⟨i.neighborId, i.neighborIp⟩
  /-- The LSUs whose threads have not run yet do. -/
  rxLsus : ∀ l ∈ s.rxLsus, ipP l.packet = ipProtocolOspfv2 ∧ Waits facts l.packet

/-! ### More facts -/

/-- Everything that is true of some facts is true of others. -/
structure Facts.Le (facts facts' : Facts) : Prop where
  /-- More was said. -/
  told : ∀ words, facts.told words → facts'.told words
  /-- More addresses are known. -/
  bound : ∀ ip mac, facts.bound ip mac → facts'.bound ip mac
  /-- More routers are near. -/
  near : ∀ interface heard, facts.near interface heard → facts'.near interface heard

section Mono

variable {facts facts' : Facts}

theorem Hears.mono (hle : facts.Le facts') {interface : IfName} {packet : Frame}
    (h : Hears facts interface packet) : Hears facts' interface packet where
  arp := fun htype => hle.bound _ _ (h.arp htype)
  hello := fun hip hospf htype => hle.near _ _ (h.hello hip hospf htype)
  lsu := fun hip hospf htype => hle.told _ (h.lsu hip hospf htype)

theorem Emits.mono (hle : facts.Le facts') {ports : List Port} {routerId : IpAddr} {out : Outgoing}
    (h : Emits facts ports routerId out) : Emits facts' ports routerId out where
  arp := h.arp
  hello := h.hello
  lsu := by
    intro hip hospf htype
    obtain ⟨hlsu, htold, ip, mac, hbound, hdhost⟩ := h.lsu hip hospf htype
    exact ⟨hlsu, hle.told _ htold, ip, mac, hle.bound _ _ hbound, hdhost⟩

theorem Waits.mono (hle : facts.Le facts') {buf : Frame} (h : Waits facts buf) :
    Waits facts' buf := ⟨h.type, fun hospf => (h.lsu hospf).imp_right (hle.told _)⟩

theorem ArpBears.mono (hle : facts.Le facts') {st : ArpState} (h : ArpBears facts st) :
    ArpBears facts' st where
  pending := fun r hr p hp => (h.pending r hr p hp).mono hle
  entries := fun e he hvalid => hle.bound _ _ (h.entries e he hvalid)

theorem Bears.mono (hle : facts.Le facts') {s : RouterState} (h : Bears facts s) :
    Bears facts' s where
  arp := h.arp.mono hle
  neighbors := fun i hi hid => hle.near _ _ (h.neighbors i hi hid)
  rxLsus := fun l hl => (h.rxLsus l hl).imp_right (Waits.mono hle)

end Mono

/-! ### The fields that matter -/

section Fields

variable {facts : Facts} {buf : Frame}

/-- A frame that holds a packet has its Ethernet header. -/
theorem length_of_etherType (h : etherType buf = htons ethertypeIp) : 12 < buf.length := by
  by_contra hlen
  have hzero : ∀ j, 12 ≤ j → load8 buf j = 0 := by
    intro j hj
    unfold load8
    rw [List.getD_eq_getElem?_getD, List.getElem?_eq_none (by omega)]
    rfl
  have htype : etherType buf = 0 := by
    unfold etherType load16
    rw [hzero 12 (by omega), hzero 13 (by omega)]
    rfl
  rw [htype] at h
  exact absurd h (by decide)

/-- The addresses of the Ethernet header do not matter. -/
theorem Waits.store_of_le (h : Waits facts buf) {j : ℕ} {xs : List UInt8}
    (hj : j + xs.length ≤ 12) :
    Waits facts (store buf j xs) := by
  have hsaid : said (store buf j xs) = said buf := by
    unfold said ospfRid lsuSeq
    rw [load32_store_of_disjoint (by omega), load16_store_of_disjoint (by omega),
      drop_store (by omega)]
  constructor
  · rw [etherType, load16_store_of_disjoint (by omega)]
    exact h.type
  · rw [ipP, ospfType, load8_store_of_disjoint (by omega), load8_store_of_disjoint (by omega),
      hsaid]
    exact h.lsu

theorem Waits.forwarded (h : Waits facts buf) (shost dhost : Mac) :
    Waits facts (readdressed shost dhost buf) :=
  (h.store_of_le (by rw [shost.length_eq])).store_of_le (by rw [dhost.length_eq]; decide)

/-- A packet that is no OSPF packet may wait. -/
theorem waits_of_ne (htype : etherType buf = htons ethertypeIp)
    (hproto : ipP buf ≠ ipProtocolOspfv2) :
    Waits facts buf := ⟨htype, fun h => absurd h hproto⟩

theorem waits_decremented (htype : etherType buf = htons ethertypeIp)
    (hproto : ipP buf ≠ ipProtocolOspfv2) : Waits facts (decremented buf) := by
  unfold decremented
  apply waits_of_ne
  · rw [etherType, load16_store_of_disjoint (by simp), load16_store_of_disjoint (by simp)]
    exact htype
  · rw [ipP, load8_store_of_disjoint (by simp), load8_store_of_disjoint (by simp)]
    exact hproto

/-- **An ICMP error may wait**, whatever the packet it is about is. -/
theorem waits_icmpErrorFrame (sr : SrInstance) (type code : UInt8) (outIface : SrIf) (buf : Frame)
    (off : ℕ) : Waits facts (icmpErrorFrame sr type code outIface buf off) := by
  have hm := outIface.addr.length_eq
  have hread : ∀ i n, (readMem sr.behind buf i n).length = n := length_readMem _ _
  have hospf : ipProtocolIcmp ≠ ipProtocolOspfv2 := by decide
  unfold icmpErrorFrame
  apply waits_of_ne
  · rw [etherType, load16_store_of_disjoint (by simp), load16_store_of_disjoint (by simp),
      load16_store_of_disjoint (by simp), load16_store_of_disjoint (by simp),
      load16_store_of_disjoint (by simp), load16_store_of_disjoint (by simp),
      load16_store_of_disjoint (by simp), load16_store_bytes16 _ (by simp [icmpErrorLen])]
  · rw [ipP, load8_store_of_disjoint (by simp), load8_store_of_disjoint (by simp),
      load8_store_of_disjoint (by simp), load8_store_of_disjoint (by simp),
      load8_store_of_disjoint (by simp), load8_store_of_disjoint (by simp)]
    -- the protocol is the last of ten bytes written at 14
    refine ne_of_eq_of_ne ?_ hospf
    exact load8_store (i := 14) (k := 9) (by simp) (by simp [icmpErrorLen])

/-- **A copy of an LSU says what the LSU says.** -/
theorem said_lsuRewrite (i : SrIf) (packet : Frame) : said (lsuRewrite i packet) = said packet := by
  unfold said
  rw [ospfRid_lsuRewrite, lsuSeq_lsuRewrite, drop_lsuRewrite]

theorem Waits.rewritten (h : Waits facts buf) (i : SrIf) : Waits facts (lsuRewrite i buf) := by
  have hm := i.addr.length_eq
  constructor
  · rw [← h.type]
    unfold lsuRewrite etherType
    rw [load16_store_of_disjoint (by simp), load16_store_of_disjoint (by simp),
      load16_store_of_disjoint (by simp), load16_store_of_disjoint (by simp),
      load16_store_of_disjoint (by omega)]
  · have hkeep : ∀ j, j = 23 ∨ j = 35 → load8 (lsuRewrite i buf) j = load8 buf j := by
      intro j hj
      unfold lsuRewrite
      rw [load8_store_of_disjoint (by simp; omega), load8_store_of_disjoint (by simp; omega),
        load8_store_of_disjoint (by simp; omega), load8_store_of_disjoint (by simp; omega),
        load8_store_of_disjoint (by omega)]
    rw [ipP, ospfType, hkeep 23 (by omega), hkeep 35 (by omega), said_lsuRewrite]
    exact h.lsu

end Fields

/-! ### Hardware addresses in a frame -/

section LoadMac

variable {p : Frame} {i : ℕ} {m : Mac}

theorem loadMac_eq_of_load8 (h : ∀ k < 6, load8 p (i + k) = load8 m.bytes k) : loadMac p i = m := by
  apply Mac.eq_of_bytes
  apply List.ext_getElem
  · rw [(loadMac p i).length_eq, m.length_eq]
  · intro k hk hk'
    have hsix : k < 6 := m.length_eq ▸ hk'
    simp only [loadMac, List.getElem_map, List.getElem_range]
    rw [h k hsix, load8, List.getD_eq_getElem _ _ hk']

theorem loadMac_of_drop {rest : List UInt8} (h : p.drop i = m.bytes ++ rest) : loadMac p i = m := by
  apply loadMac_eq_of_load8
  intro k hk
  have hk' : k < m.bytes.length := by rw [m.length_eq]; exact hk
  have hget := congrArg (fun l => l[k]?) h
  simp only [List.getElem?_drop, List.getElem?_append_left hk'] at hget
  rw [load8, load8, List.getD_eq_getElem?_getD, List.getD_eq_getElem?_getD, hget]

theorem loadMac_store (h : i + 6 ≤ p.length) : loadMac (store p i m.bytes) i = m := by
  have hm := m.length_eq
  apply loadMac_eq_of_load8
  intro k hk
  exact load8_store (by omega) (by omega)

theorem loadMac_store_of_disjoint {j : ℕ} {xs : List UInt8}
    (h : i + 6 ≤ j ∨ j + xs.length ≤ i) : loadMac (store p j xs) i = loadMac p i := by
  apply loadMac_eq_of_load8
  intro k hk
  rw [load8_store_of_disjoint (by omega)]
  simp [loadMac, load8, hk]

end LoadMac

/-! ### The frames that are made -/

section Frames

variable {facts : Facts} {ifList : List SrIf} {routerId : IpAddr} {i : SrIf}

/-- A frame with the type of ARP packets only has to be about its interface. -/
theorem emits_of_arp {out : Outgoing} (htype : etherType out.frame = htons ethertypeArp)
    (h : ∃ i ∈ ifList, out.iface = i.name ∧ arSip out.frame = i.ip ∧ arSha out.frame = i.addr) :
    Emits facts (ports ifList) routerId out := by
  have harp : htons ethertypeArp ≠ htons ethertypeIp := by decide
  obtain ⟨i, hi, hport⟩ := h
  exact ⟨fun _ => ⟨i.port, List.mem_map_of_mem hi, hport⟩,
    fun hip => absurd (htype.symm.trans hip) harp, fun hip => absurd (htype.symm.trans hip) harp⟩

/-- **An ARP request is about its interface.** -/
theorem emits_arpRequestFrame (hi : i ∈ ifList) (ip : IpAddr) :
    Emits facts (ports ifList) routerId ⟨arpRequestFrame i ip, i.name⟩ := by
  have hm := i.addr.length_eq
  have hb := (generateEthernetAddr 255).length_eq
  -- the frame from the EtherType on, from `ar_sha` on, and from `ar_sip` on
  have hdrop : (arpRequestFrame i ip).drop 12 = bytes16 (htons ethertypeArp) ++
      (bytes16 (htons 1) ++ bytes16 (htons 2048) ++ [6, 4] ++ bytes16 (htons arpOpRequest) ++
        (i.addr.bytes ++ (bytes32 i.ip ++ ((generateEthernetAddr 0).bytes ++ bytes32 ip)))) := by
    have hhead : ((generateEthernetAddr 255).bytes ++ i.addr.bytes).length = 12 := by
      rw [List.length_append, hb, hm]
    unfold arpRequestFrame
    simp only [List.append_assoc] at hhead ⊢
    rw [← List.append_assoc, List.drop_left' hhead]
  have hsha : (arpRequestFrame i ip).drop 22 =
      i.addr.bytes ++ (bytes32 i.ip ++ ((generateEthernetAddr 0).bytes ++ bytes32 ip)) := by
    rw [← List.drop_drop (i := 10) (j := 12), hdrop, ← List.append_assoc]
    exact List.drop_left' rfl
  have hsip : (arpRequestFrame i ip).drop 28 =
      bytes32 i.ip ++ ((generateEthernetAddr 0).bytes ++ bytes32 ip) := by
    rw [← List.drop_drop (i := 6) (j := 22), hsha]
    exact List.drop_left' hm
  apply emits_of_arp
  · rw [etherType, ← load16_drop, hdrop]
    exact load16_bytes16 (htons ethertypeArp)
  · refine ⟨i, hi, rfl, ?_, loadMac_of_drop hsha⟩
    rw [arSip, ← load32_drop, hsip]
    exact load32_bytes32_append i.ip _

/-- **An ARP reply is about the interface that was asked for.** -/
theorem emits_arpReplyFrame (hi : i ∈ ifList) {packet : Frame} (hlen : 42 ≤ packet.length)
    (htype : etherType packet = htons ethertypeArp) (htip : arTip packet = i.ip) :
    Emits facts (ports ifList) routerId ⟨arpReplyFrame packet i, i.name⟩ := by
  have hi6 := i.addr.length_eq
  have hs6 := (arSha packet).length_eq
  apply emits_of_arp
  · rw [← htype]
    unfold arpReplyFrame etherType
    rw [load16_store_of_disjoint (by simp), load16_store_of_disjoint (by simp),
      load16_store_of_disjoint (by simp), load16_store_of_disjoint (by omega),
      load16_store_of_disjoint (by omega), load16_store_of_disjoint (by omega),
      load16_store_of_disjoint (by omega)]
  · refine ⟨i, hi, rfl, ?_, ?_⟩
    · unfold arpReplyFrame arSip
      rw [load32_store_of_disjoint (by simp), load32_store_of_disjoint (by simp),
        load32_store_bytes32 _ (by simp; omega)]
      exact htip
    · unfold arpReplyFrame
      rw [arSha, loadMac_store_of_disjoint (by simp), loadMac_store_of_disjoint (by simp),
        loadMac_store_of_disjoint (by simp), loadMac_store_of_disjoint (by omega),
        loadMac_store (by simp; omega)]

/-- **A HELLO is about its interface, and the router.** -/
theorem emits_helloFrame (hi : i ∈ ifList) (uninit : ℕ → UInt8) (ipId : UInt16) :
    Emits facts (ports ifList) routerId ⟨helloFrame uninit routerId i ipId, i.name⟩ := by
  have harp : htons ethertypeIp ≠ htons ethertypeArp := by decide
  have hlen : 58 ≤
      (store ((List.range (14 + 20 + 24 + 8)).map uninit) 0 ospfMulticastMac.bytes).length := by
    simp
  have hheaders :=
    ospfHeaders_spec i routerId ospfTypeHello ipId (ntohl ospfAllSpfRouters) hlen
  have htype : etherType (helloFrame uninit routerId i ipId) = htons ethertypeIp := by
    unfold helloFrame
    exact ((hheaders.store (by decide)).store (by decide)).type
  have hhello : ospfType (helloFrame uninit routerId i ipId) = ospfTypeHello := by
    unfold helloFrame ospfHeaders ospfType
    rw [load8_store_of_disjoint (by simp), load8_store_of_disjoint (by simp),
      load8_store_of_disjoint (by simp), load8_store_of_disjoint (by simp),
      load8_store_of_disjoint (by simp)]
    exact load8_store (i := 34) (k := 1) (by simp) (by simp)
  have hrid : ospfRid (helloFrame uninit routerId i ipId) = routerId := by
    unfold helloFrame
    rw [ospfRid, load32_store_of_disjoint (by simp), load32_store_of_disjoint (by simp)]
    exact ospfRid_ospfHeaders i routerId _ ipId _ (by simp)
  have hsrc : ipSrc (helloFrame uninit routerId i ipId) = i.ip := by
    unfold helloFrame
    rw [ipSrc, load32_store_of_disjoint (by simp), load32_store_of_disjoint (by simp)]
    exact ipSrc_ospfHeaders i routerId _ ipId _ (by simp)
  -- the fields are all that matters from here on
  generalize helloFrame uninit routerId i ipId = frame at htype hhello hrid hsrc
  exact ⟨fun h => absurd (htype.symm.trans h) harp, fun _ _ _ =>
    ⟨i.port, List.mem_map_of_mem hi, rfl, hrid, hsrc⟩,
    fun _ _ h => absurd hhello h⟩

/-- **A packet that may wait may be sent** to an address that belongs to somebody. -/
theorem Waits.emits {buf : Frame} (h : Waits facts buf) {iface : IfName}
    (hdhost : ∃ ip mac, facts.bound ip mac ∧ etherDhost buf = mac.bytes) :
    Emits facts (ports ifList) routerId ⟨buf, iface⟩ := by
  have harp : htons ethertypeIp ≠ htons ethertypeArp := by decide
  have hne : ospfTypeLsu ≠ ospfTypeHello := by decide
  refine ⟨fun htype => absurd (h.type.symm.trans htype) harp, ?_, ?_⟩
  · intro _ hproto hhello
    exact absurd ((h.lsu hproto).1.symm.trans hhello) hne
  · intro _ hproto _
    exact ⟨(h.lsu hproto).1, (h.lsu hproto).2, hdhost⟩

/-- The reply to an echo request is no OSPF packet. -/
theorem emits_icmpReplyFrame {packet : Frame} (hlen : 34 ≤ packet.length)
    (htype : etherType packet = htons ethertypeIp) (hicmp : ipP packet = ipProtocolIcmp)
    (icmpType icmpCode : UInt8) (iface : IfName) :
    Emits facts (ports ifList) routerId ⟨icmpReplyFrame packet icmpType icmpCode, iface⟩ := by
  have harp : htons ethertypeIp ≠ htons ethertypeArp := by decide
  have hospf : ipProtocolIcmp ≠ ipProtocolOspfv2 := by decide
  have hs : (etherShost packet).length = 6 := length_slice (by omega)
  have hd : (etherDhost packet).length = 6 := length_slice (by omega)
  have hetype : etherType (icmpReplyFrame packet icmpType icmpCode) = htons ethertypeIp := by
    rw [← htype]
    unfold icmpReplyFrame etherType
    rw [load16_store_of_disjoint (by simp), load16_store_of_disjoint (by simp),
      load16_store_of_disjoint (by simp), load16_store_of_disjoint (by simp),
      load16_store_of_disjoint (by simp), load16_store_of_disjoint (by omega),
      load16_store_of_disjoint (by omega)]
  have hproto : ipP (icmpReplyFrame packet icmpType icmpCode) = ipProtocolIcmp := by
    rw [← hicmp]
    unfold icmpReplyFrame ipP
    rw [load8_store_of_disjoint (by simp), load8_store_of_disjoint (by simp),
      load8_store_of_disjoint (by simp), load8_store_of_disjoint (by simp),
      load8_store_of_disjoint (by simp), load8_store_of_disjoint (by omega),
      load8_store_of_disjoint (by omega)]
  generalize icmpReplyFrame packet icmpType icmpCode = frame at hetype hproto
  exact ⟨fun h => absurd (hetype.symm.trans h) harp,
    fun _ h => absurd (hproto.symm.trans h) hospf, fun _ h => absurd (hproto.symm.trans h) hospf⟩

end Frames

/-! ### The ARP cache -/

section ArpBears

variable {facts : Facts} {st : ArpState}

theorem arpBears_init : ArpBears facts srArpcacheInit where
  pending := fun _ hr => absurd hr List.not_mem_nil
  entries := by
    intro e he hvalid
    rw [List.eq_of_mem_replicate he] at hvalid
    cases hvalid

theorem ArpBears.destroy (h : ArpBears facts st) (addr : ℕ) :
    ArpBears facts (srArpreqDestroy addr st) :=
  ⟨fun r hr => h.pending r (mem_destroy.mp hr).1, h.entries⟩

theorem ArpBears.queuereq (h : ArpBears facts st) {packet : Frame} (hwaits : Waits facts packet)
    (ip : IpAddr) (iface : IfName) : ArpBears facts (srArpcacheQueuereq ip packet iface st).1 := by
  constructor
  · intro r hr p hp
    rcases mem_packets_queuereq hr hp with ⟨-, rfl, -, -⟩ | ⟨s, hs, -, -, hps⟩
    · exact hwaits
    · exact h.pending s hs p hps
  · rw [queuereq_entries]
    exact h.entries

theorem ArpBears.resent (h : ArpBears facts st) (sr : SrInstance) (now : ℤ) (req : ArpReq) :
    ArpBears facts (resent sr now req st) := by
  constructor
  · intro r hr p hp
    rw [resent_queue] at hr
    -- the lists of packets are those of before
    have hmem : r.packets ∈ st.queue.reqs.map ArpReq.packets := by
      rw [← map_packets_markSent st.queue req.addr now]
      exact List.mem_map_of_mem hr
    obtain ⟨s, hs, hpackets⟩ := List.mem_map.mp hmem
    exact h.pending s hs p (hpackets ▸ hp)
  · rw [resent_entries]
    exact h.entries

/-- What has been learnt was in the cache, or is the new mapping. -/
theorem mem_learnEntry {mac : Mac} {ip : IpAddr} {now : ℤ} {entries : List ArpEntry} {e : ArpEntry}
    (h : e ∈ learnEntry mac ip now entries) : e ∈ entries ∨ e = ⟨mac, ip, now, true⟩ := by
  induction entries with
  | nil => exact .inl h
  | cons f rest ih =>
    rw [learnEntry] at h
    split at h
    · rcases List.mem_cons.mp h with rfl | h
      · exact .inl List.mem_cons_self
      · exact (ih h).imp_left (List.mem_cons_of_mem f)
    · rcases List.mem_cons.mp h with rfl | h
      · exact .inr rfl
      · exact .inl (List.mem_cons_of_mem f h)

/-- **The cache learns what it hears.** -/
theorem ArpBears.afterInsert (h : ArpBears facts st) (now : ℤ) {packet : Frame}
    (hbound : facts.bound (arSip packet) (arSha packet)) :
    ArpBears facts (afterInsert now packet st) := by
  constructor
  · exact fun r hr => h.pending r (mem_insert.mp hr).1
  · intro e he hvalid
    rcases mem_learnEntry he with he | rfl
    · exact h.entries e he hvalid
    · exact hbound

/-- Mappings that expire are gone. -/
theorem ArpBears.expire (h : ArpBears facts st) (now : ℤ) :
    ArpBears facts { st with entries := expireEntries now st.entries } := by
  refine ⟨h.pending, ?_⟩
  intro e he hvalid
  obtain ⟨f, hf, rfl⟩ := List.mem_map.mp he
  split at hvalid
  · cases hvalid
  · next hkept =>
    rw [if_neg hkept]
    exact h.entries f hf hvalid

theorem lookup_mem {entries : List ArpEntry} {ip : IpAddr} {e : ArpEntry}
    (h : srArpcacheLookup entries ip = some e) : e ∈ entries ∧ e.valid = true ∧ e.ip = ip := by
  induction entries using List.reverseRecOn with
  | nil => cases h
  | append_singleton l f ih =>
    unfold srArpcacheLookup at h ih
    rw [List.foldl_append, List.foldl_cons, List.foldl_nil] at h
    split at h
    · next hf =>
      obtain rfl := Option.some.inj h
      exact ⟨List.mem_append_right l List.mem_cons_self, hf.1, hf.2⟩
    · obtain ⟨hmem, hvalid⟩ := ih h
      exact ⟨List.mem_append_left _ hmem, hvalid⟩

/-- **A hit is a true mapping.** -/
theorem ArpBears.bound (h : ArpBears facts st) {ip : IpAddr} {e : ArpEntry}
    (hhit : srArpcacheLookup st.entries ip = some e) : facts.bound ip e.mac := by
  obtain ⟨hmem, hvalid, rfl⟩ := lookup_mem hhit
  exact h.entries e hmem hvalid

end ArpBears

/-! ### The functions -/

/-- Only frames that bear the facts out are sent, and the ARP cache bears them out afterwards. -/
abbrev SendsTrue (facts : Facts) (ifList : List SrIf) (routerId : IpAddr) (x : Sending ArpState) :
    Prop :=
  Safe (Emits facts (ports ifList) routerId) (ArpBears facts) x

section Functions

variable {facts : Facts} {sr : SrInstance} {routerId : IpAddr} {now : ℤ} {fuel : ℕ} {st : ArpState}

theorem emits_send {frame : Frame} {iface : IfName}
    (hout : Emits facts (ports sr.ifList) routerId ⟨frame, iface⟩) (h : ArpBears facts st) :
    SendsTrue facts sr.ifList routerId (st.send frame iface) := by
  refine Safe.emit ?_ ⟨h.pending, h.entries⟩
  intro out hmem
  rw [List.mem_singleton.mp hmem]
  exact hout

/-- A frame with another destination address. -/
theorem Waits.emits_store {buf : Frame} (h : Waits facts buf) {ip : IpAddr} {mac : Mac}
    (hbound : facts.bound ip mac) {ifList : List SrIf} {iface : IfName} :
    Emits facts (ports ifList) routerId ⟨store buf 0 mac.bytes, iface⟩ := by
  have hm := mac.length_eq
  have hlen := length_of_etherType h.type
  apply (h.store_of_le (by omega)).emits
  refine ⟨ip, mac, hbound, ?_⟩
  have hself : slice (store buf 0 mac.bytes) 0 mac.bytes.length = mac.bytes :=
    slice_store_self (by omega)
  rwa [hm] at hself

/-- A frame that `sr_forward_packet` or the end of a wait gives its addresses. -/
theorem Waits.emits_readdressed {buf : Frame} (h : Waits facts buf) {ip : IpAddr} {dhost : Mac}
    (hbound : facts.bound ip dhost) (shost : Mac) {ifList : List SrIf} {iface : IfName} :
    Emits facts (ports ifList) routerId ⟨readdressed shost dhost buf, iface⟩ :=
  (h.store_of_le (by rw [shost.length_eq])).emits_store hbound

theorem emits_srSendIcmpErrorPacketOut {handle : ℕ → ArpState → Sending ArpState}
    (hhandle : ∀ addr st, ArpBears facts st →
      SendsTrue facts sr.ifList routerId (handle addr st))
    (type code : UInt8) (ipDst : IpAddr) (buf : Frame) (off : ℕ) (h : ArpBears facts st) :
    SendsTrue facts sr.ifList routerId
      (srSendIcmpErrorPacketOut sr handle type code ipDst buf off st) := by
  unfold srSendIcmpErrorPacketOut
  cases icmpErrorRoute sr ipDst with
  | none => exact .pure h
  | some hopIf =>
    have hwaits : Waits facts (icmpErrorFrame sr type code hopIf.2 buf off) :=
      waits_icmpErrorFrame sr type code hopIf.2 buf off
    simp only
    cases hlook : srArpcacheLookup st.entries hopIf.1 with
    | some e => exact emits_send (hwaits.emits_store (h.bound hlook)) h
    | none => exact hhandle _ _ (h.queuereq hwaits hopIf.1 hopIf.2.name)

/-- **`handle_arpreq` asks for its own interfaces, and gives up with ICMP errors.** -/
theorem emits_handleArpreqOut (addr : ℕ) (st : ArpState) (h : ArpBears facts st) :
    SendsTrue facts sr.ifList routerId (handleArpreqOut sr now fuel addr st) := by
  -- an ICMP error may have to wait in turn, and its request is handled with less fuel
  induction fuel generalizing addr st with
  | zero => exact .halt _
  | succ fuel ih =>
    unfold handleArpreqOut
    cases st.queue.deref addr with
    | none => exact .halt _
    | some req =>
      simp only
      split
      · split
        · refine (Safe.foldlM (I := ArpBears facts) ?_ h).bind fun st' h' => .pure (h'.destroy addr)
          intro s p _ hs
          have hgave : ArpBears facts (s.note (.gaveUp p.id req.addr)) := ⟨hs.pending, hs.entries⟩
          unfold unreachablePacketOut
          refine (emits_srSendIcmpErrorPacketOut ih 3 1 (queuedIpSrc sr p.buf) p.buf 14
            hgave).bind fun s' hs' => ?_
          split
          · exact .halt _
          · exact .pure hs'
        · -- a request goes out through every interface
          refine Safe.emit ?_ (h.resent sr now req)
          intro out hout
          obtain ⟨i, hi, rfl⟩ := List.mem_map.mp hout
          exact emits_arpRequestFrame hi req.ip
      · exact .pure h

theorem emits_queuereq {packet : Frame} (hwaits : Waits facts packet) (ip : IpAddr)
    (iface : IfName) (h : ArpBears facts st) :
    SendsTrue facts sr.ifList routerId
      (handleArpreqOut sr now fuel (srArpcacheQueuereq ip packet iface st).2
        (srArpcacheQueuereq ip packet iface st).1) :=
  emits_handleArpreqOut _ _ (h.queuereq hwaits ip iface)

theorem emits_srArpcacheTimeoutOut (h : ArpBears facts st) :
    SendsTrue facts sr.ifList routerId (srArpcacheTimeoutOut sr now fuel st) := by
  have hloop : ∀ (n : ℕ) (curr : Option ℕ) (st : ArpState), ArpBears facts st →
      SendsTrue facts sr.ifList routerId (sweepreqsLoopOut sr now fuel n curr st) := by
    intro n
    -- each turn handles the request and goes on to the one that was next before it
    induction n with
    | zero =>
      intro curr st h
      cases curr with
      | none => exact .pure h
      | some addr => exact .halt _
    | succ n ih =>
      intro curr st h
      cases curr with
      | none => exact .pure h
      | some addr =>
        unfold sweepreqsLoopOut
        cases nextAddr st.queue.reqs addr with
        | none => exact .halt _
        | some nextReq =>
          exact (emits_handleArpreqOut addr st h).bind fun st' h' => ih nextReq st' h'
  exact hloop fuel _ _ (h.expire now)

/-- **`sr_handle_arp_packet` answers for its own interfaces**, and sends the packets that waited
to whom it heard from. -/
theorem emits_srHandleArpPacketOut {packet : Frame} (hlen : 42 ≤ packet.length)
    (htype : etherType packet = htons ethertypeArp)
    (hbound : facts.bound (arSip packet) (arSha packet)) (h : ArpBears facts st) :
    SendsTrue facts sr.ifList routerId (srHandleArpPacketOut sr now packet st) := by
  unfold srHandleArpPacketOut srGetInterfaceGivenIp
  split
  · exact .halt _
  · next myInterface hif =>
    -- the interface whose address the packet asks for
    have hmem : ∀ i, myInterface = some i → i ∈ sr.ifList ∧ arTip packet = i.ip := by
      rintro i rfl
      split at hif
      · cases hif
      · have hfind := Except.ok.inj hif
        have hip : i.ip = arTip packet := by simpa using List.find?_some hfind
        exact ⟨List.mem_of_find?_eq_some hfind, hip.symm⟩
    split
    · cases myInterface with
      | none => exact .pure h
      | some i =>
        obtain ⟨hi, htip⟩ := hmem i rfl
        exact emits_send (emits_arpReplyFrame hi hlen htype htip) (h.afterInsert now hbound)
    · split
      · cases hfind : st.queue.find (arSip packet) with
        | none => exact .pure (h.afterInsert now hbound)
        | some req =>
          cases myInterface with
          | none =>
            simp only
            split
            · exact .pure ((h.afterInsert now hbound).destroy req.addr)
            · exact .halt _
          | some i =>
            refine Safe.emit ?_ ?_
            · intro out hout
              obtain ⟨p, hp, rfl⟩ := List.mem_map.mp hout
              have hwaits := h.pending req (ArpQueue.find_eq_some.mp hfind).1 p hp
              exact hwaits.emits_readdressed hbound i.addr
            · rw [sendPending_eq]
              obtain ⟨hpending, hentries⟩ := (h.afterInsert now hbound).destroy req.addr
              exact ⟨hpending, hentries⟩
      · exact .pure h

theorem emits_srForwardPacketOut {packet : Frame} (hwaits : Waits facts packet) {ip : IpAddr}
    {macDest : Mac} (hbound : facts.bound ip macDest) (interface : IfName)
    (h : ArpBears facts st) :
    SendsTrue facts sr.ifList routerId (srForwardPacketOut sr packet macDest interface st) := by
  unfold srForwardPacketOut forwardedFrame
  cases srGetInterface sr.ifList interface with
  | none => exact .pure h
  | some i => exact emits_send (hwaits.emits_readdressed hbound i.addr) h

/-- **`sr_handle_ip_packet` sends no OSPF packet on.** -/
theorem emits_srHandleOtherPacketOut {packet : Frame} {interface : IfName}
    (hlen : 34 ≤ packet.length) (htype : etherType packet = htons ethertypeIp)
    (hproto : ipP packet ≠ ipProtocolOspfv2) (h : ArpBears facts st) :
    SendsTrue facts sr.ifList routerId
      (srHandleOtherPacketOut sr now fuel packet interface st) := by
  have herror : ∀ type code, SendsTrue facts sr.ifList routerId (srSendIcmpErrorPacketOut sr
      (handleArpreqOut sr now fuel) type code (ipSrc packet) packet 0 st) := fun type code =>
    emits_srSendIcmpErrorPacketOut emits_handleArpreqOut type code (ipSrc packet) packet 0 h
  unfold srHandleOtherPacketOut
  simp only
  split
  · exact herror 11 0
  · split
    · split
      · next hicmp =>
        split
        · exact emits_send (emits_icmpReplyFrame hlen htype hicmp 0 0 interface) h
        · exact .pure h
      · exact herror 3 3
    · cases srFindRtEntry sr.routingTable (ipDst packet) with
      | none => exact herror 3 0
      | some rtMatch =>
        have hwaits : Waits facts (decremented packet) := waits_decremented htype hproto
        simp only
        unfold forwardTransitOut
        cases hlook : srArpcacheLookup st.entries (nextHop rtMatch (ipDst packet)) with
        | some e => exact emits_srForwardPacketOut hwaits (h.bound hlook) _ h
        | none => exact emits_queuereq hwaits _ _ h

end Functions

end Redes
