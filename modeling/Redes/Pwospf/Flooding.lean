import Redes.Pwospf.Packet
import Redes.Router.Forwarding

/-!
# Flooding an LSU

The loop at the end of `sr_handle_pwospf_lsu_packet`, which sends an accepted LSU on
through every interface but the one it came from.  All copies are made in one buffer, and
the TTL is decremented once for each of them, so the second copy leaves with a TTL that is
two less than that of the LSU.

## Main definitions

* `lsuRewrite` — what is written into the buffer for an interface.
* `floodStep`, `floodLsu` — the loop, with the copies it makes.
* `otherInterfaces` — the interfaces it goes through.
* `CopyOk`, `FloodLaw` — what the copies should be.

## Main results

* `floodLoop_eq` — the loop is one over the other interfaces.
* `floodOthers_ttl`, `floodOthers_iface` — the TTL and the interface of every copy.
* `floodStep_copyOk_iff` — when the copy of a turn is as it should be.
* `flood_law_iff` — when all of them are.
-/

namespace Redes

open Bytes

/-! ### The loop -/

/-- `ospfv2_lsu_hdr.seq`. -/
abbrev lsuSeq (p : Frame) : UInt16 := load16 p 58
/-- `ospfv2_lsu_hdr.ttl`. -/
abbrev lsuTtl (p : Frame) : UInt8 := load8 p 61
/-- `ospfv2_lsu_hdr.num_adv`. -/
abbrev lsuNumAdv (p : Frame) : UInt32 := load32 p 62

/-- The header fields that are written for an interface: source addresses, IP checksum, TTL
and OSPF checksum, the last over the headers and the advertisements. -/
def lsuRewrite (i : SrIf) (packet : Frame) : Frame :=
  let packet := store packet 6 i.addr.bytes
  let packet := store packet 26 (bytes32 i.ip)
  let packet := store packet 24 (bytes16 (ipCksum packet))
  let packet := store packet 61 [lsuTtl packet - 1]
  store packet 46 (bytes16 (ospfv2Cksum packet (24 + 8 + (lsuNumAdv packet).toNat * 12)))

/-- A copy of the LSU that was sent, or queued until its next hop is known. -/
structure LsuCopy where
  /-- The interface. -/
  iface : IfName
  /-- The frame. -/
  frame : Frame
  deriving DecidableEq

/-- One turn of the loop, for an interface that the LSU did not come from: the copy, what is
left in the buffer, and how the turn ends. -/
def floodStep (sr : SrInstance) (now : ℤ) (fuel : ℕ) (i : SrIf) (packet : Frame) (st : ArpState) :
    Option LsuCopy × Frame × Except Halt ArpState :=
  let packet := lsuRewrite i packet
  match srArpcacheLookup st.entries i.neighborIp with
  | some arpEntry =>
      let st := srForwardPacket sr packet arpEntry.mac i.name st
      match forwardedFrame sr packet arpEntry.mac i.name with
      | none => (none, packet, .ok st)
      | some frame => (some ⟨i.name, frame⟩, frame, .ok st)
  | none =>
      let (st, addr) := srArpcacheQueuereq i.neighborIp packet i.name st
      (some ⟨i.name, packet⟩, packet, handleArpreq sr now fuel addr st)

/-- The loop, from the interface with index `k` on, with the copies it makes until it ends.
The interface that the LSU came from is told by its place in memory, which its index stands
for. -/
def floodLoop (sr : SrInstance) (now : ℤ) (fuel : ℕ) (rxIf : Option ℕ) :
    ℕ → List SrIf → Frame → ArpState → List LsuCopy × Except Halt ArpState
  | _, [], _, st => ([], .ok st)
  | k, i :: rest, packet, st =>
      if rxIf = some k then floodLoop sr now fuel rxIf (k + 1) rest packet st
      else
        match floodStep sr now fuel i packet st with
        | (copy, _, .error halt) => (copy.toList, .error halt)
        | (copy, packet, .ok st) =>
            let (copies, ending) := floodLoop sr now fuel rxIf (k + 1) rest packet st
            (copy.toList ++ copies, ending)

/-- The flooding of `sr_handle_pwospf_lsu_packet`; `rx` is the name of the interface that the
LSU was received on, which `sr_get_interface` looks up. -/
def floodLsu (sr : SrInstance) (now : ℤ) (fuel : ℕ) (rx : IfName) (packet : Frame)
    (st : ArpState) : List LsuCopy × Except Halt ArpState :=
  floodLoop sr now fuel (sr.ifList.findIdx? fun i => i.name = rx) 0 sr.ifList packet st

/-- The interfaces but the one with the index `rxIf`. -/
def othersFrom (rxIf : Option ℕ) : ℕ → List SrIf → List SrIf
  | _, [] => []
  | k, i :: rest =>
      if rxIf = some k then othersFrom rxIf (k + 1) rest else i :: othersFrom rxIf (k + 1) rest

/-- The interfaces but the one that the LSU was received on. -/
def otherInterfaces (sr : SrInstance) (rx : IfName) : List SrIf :=
  othersFrom (sr.ifList.findIdx? fun i => i.name = rx) 0 sr.ifList

/-! ### The law -/

/-- The copy for an interface: its TTL is one less, its source is the interface, what the
originator says is unchanged, and its checksums are those that a receiver computes. -/
structure CopyOk (packet : Frame) (i : SrIf) (copy : LsuCopy) : Prop where
  /-- It leaves through the interface. -/
  iface : copy.iface = i.name
  /-- The TTL is decremented. -/
  ttl : lsuTtl copy.frame = lsuTtl packet - 1
  /-- The source hardware address is that of the interface. -/
  shost : etherShost copy.frame = i.addr.bytes
  /-- The source address is that of the interface. -/
  src : ipSrc copy.frame = i.ip
  /-- The originator is the same. -/
  rid : ospfRid copy.frame = ospfRid packet
  /-- The sequence number is the same. -/
  seq : lsuSeq copy.frame = lsuSeq packet
  /-- The advertisements are the same, and as many. -/
  lsas : copy.frame.drop 62 = packet.drop 62
  /-- The IP checksum is valid. -/
  ipSum : ipCksum copy.frame = Redes.ipSum copy.frame
  /-- The OSPF checksum is valid. -/
  csum : ospfv2Cksum copy.frame (copy.frame.length - 34) = ospfCsum copy.frame

/-- There is one copy for each other interface with a neighbour, if the TTL allows, and no
other copy. -/
def FloodLaw (packet : Frame) (others : List SrIf) (copies : List LsuCopy) : Prop :=
  ∃ targets : List SrIf,
    targets.Perm (if 1 < lsuTtl packet then others.filter fun i => i.neighborId ≠ 0 else []) ∧
      List.Forall₂ (CopyOk packet) targets copies

/-! ### Accepted LSUs -/

theorem length_le_of_read32 {p : Frame} {i : ℕ} {v : UInt32} (h : read32 p i = .ok v) :
    i + 4 ≤ p.length ∧ v = load32 p i := by
  by_cases hle : i + 4 ≤ p.length
  · rw [read32_of_le hle] at h
    cases h
    exact ⟨hle, rfl⟩
  · rw [read32_of_gt hle] at h
    cases h

/-- An LSU that is accepted has its header and all its advertisements. -/
theorem lsu_accepted_length_le {ownId : IpAddr} {table : List TopologyEntry} {packet : Frame}
    {lsu : Lsu} (h : srHandlePwospfLsuPacket ownId table packet = .ok (.accepted lsu)) :
    lsaOffset 0 ≤ packet.length ∧ lsaOffset (lsuNumAdv packet).toNat ≤ packet.length := by
  unfold srHandlePwospfLsuPacket at h
  by_cases hvalid : isPacketValid packet = false
  · rw [if_pos hvalid] at h
    cases h
  rw [if_neg hvalid] at h
  obtain ⟨rid, -, h⟩ := Fuel.exists_of_bind_eq_ok h
  by_cases hown : rid = ownId
  · rw [if_pos hown] at h
    cases h
  rw [if_neg hown] at h
  obtain ⟨seq, -, h⟩ := Fuel.exists_of_bind_eq_ok h
  by_cases hold : checkSequenceNumber table rid seq = false
  · rw [if_pos hold] at h
    cases h
  rw [if_neg hold] at h
  obtain ⟨numAdv, hnum, h⟩ := Fuel.exists_of_bind_eq_ok h
  obtain ⟨hheader, rfl⟩ := length_le_of_read32 hnum
  obtain ⟨src, -, h⟩ := Fuel.exists_of_bind_eq_ok h
  obtain ⟨lsas, hlsas, -⟩ := Fuel.exists_of_bind_eq_ok h
  refine ⟨hheader, ?_⟩
  rw [readLsas_eq, Nat.zero_add] at hlsas
  by_cases hall : (lsuNumAdv packet).toNat = 0 ∨
      lsaOffset (lsuNumAdv packet).toNat ≤ packet.length
  · rcases hall with hzero | hall
    · rw [hzero]
      exact hheader
    · exact hall
  · rw [if_neg hall] at hlsas
    cases hlsas

/-- An LSU that is accepted fits the buffer it is copied to, and has its header and all its
advertisements. -/
theorem accepted_length_le {ownId : IpAddr} {table : List TopologyEntry} {packet : Frame}
    {rxIf : Option SrIf} {lsu : Lsu}
    (h : srHandlePwospfPacket ownId table packet rxIf = .ok (.lsu (.accepted lsu))) :
    packet.length ≤ rxLsuParamSize ∧ lsaOffset 0 ≤ packet.length ∧
      lsaOffset (lsuNumAdv packet).toNat ≤ packet.length := by
  unfold srHandlePwospfPacket at h
  by_cases hzero : ownId = 0
  · rw [if_pos hzero] at h
    cases h
  rw [if_neg hzero] at h
  obtain ⟨type, -, h⟩ := Fuel.exists_of_bind_eq_ok h
  by_cases hhello : type = ospfTypeHello
  · rw [if_pos hhello] at h
    obtain ⟨heard, -, h⟩ := Fuel.exists_of_bind_eq_ok h
    cases h
  rw [if_neg hhello] at h
  by_cases hlsu : type = ospfTypeLsu
  · rw [if_pos hlsu] at h
    obtain ⟨copy, hcopy, h⟩ := Fuel.exists_of_bind_eq_ok h
    obtain ⟨verdict, hverdict, h⟩ := Fuel.exists_of_bind_eq_ok h
    cases h
    unfold copyToRxLsuParam at hcopy
    by_cases hfit : packet.length ≤ rxLsuParamSize
    · rw [if_pos hfit] at hcopy
      cases hcopy
      exact ⟨hfit, lsu_accepted_length_le hverdict⟩
    · rw [if_neg hfit] at hcopy
      cases hcopy
  · rw [if_neg hlsu] at h
    cases h

/-! ### What is written for an interface -/

@[simp] theorem length_lsuRewrite (i : SrIf) (packet : Frame) :
    (lsuRewrite i packet).length = packet.length := by
  simp [lsuRewrite]

section Rewrite

variable {i : SrIf} {packet : Frame}

theorem lsuTtl_lsuRewrite (hlen : 66 ≤ packet.length) :
    lsuTtl (lsuRewrite i packet) = lsuTtl packet - 1 := by
  have hm := i.addr.length_eq
  have hwrite : ∀ (p : Frame) (v : UInt8), p.length = packet.length →
      load8 (store p 61 [v]) 61 = v := by
    intro p v hp
    have h : load8 (store p 61 [v]) (61 + 0) = load8 [v] 0 :=
      load8_store (by simp) (by rw [hp, List.length_singleton]; omega)
    exact h
  unfold lsuRewrite lsuTtl
  rw [load8_store_of_disjoint (by simp), hwrite _ _ (by simp)]
  rw [load8_store_of_disjoint (by simp), load8_store_of_disjoint (by simp),
    load8_store_of_disjoint (by omega)]

theorem etherShost_lsuRewrite (hlen : 66 ≤ packet.length) :
    etherShost (lsuRewrite i packet) = i.addr.bytes := by
  have hm := i.addr.length_eq
  have hself : slice (store packet 6 i.addr.bytes) 6 i.addr.bytes.length = i.addr.bytes :=
    slice_store_self (by omega)
  rw [hm] at hself
  unfold lsuRewrite etherShost
  rw [slice_store_of_disjoint (by simp), slice_store_of_disjoint (by simp),
    slice_store_of_disjoint (by simp), slice_store_of_disjoint (by simp), hself]

theorem ipSrc_lsuRewrite (hlen : 66 ≤ packet.length) : ipSrc (lsuRewrite i packet) = i.ip := by
  unfold lsuRewrite ipSrc
  rw [load32_store_of_disjoint (by simp), load32_store_of_disjoint (by simp),
    load32_store_of_disjoint (by simp)]
  exact load32_store_bytes32 _ (by rw [length_store]; omega)

theorem drop_lsuRewrite : (lsuRewrite i packet).drop 62 = packet.drop 62 := by
  have hm := i.addr.length_eq
  unfold lsuRewrite
  rw [drop_store (by simp), drop_store (by simp), drop_store (by simp), drop_store (by simp),
    drop_store (by omega)]

theorem ospfRid_lsuRewrite : ospfRid (lsuRewrite i packet) = ospfRid packet := by
  have hm := i.addr.length_eq
  unfold lsuRewrite ospfRid
  rw [load32_store_of_disjoint (by simp), load32_store_of_disjoint (by simp),
    load32_store_of_disjoint (by simp), load32_store_of_disjoint (by simp),
    load32_store_of_disjoint (by omega)]

theorem lsuSeq_lsuRewrite : lsuSeq (lsuRewrite i packet) = lsuSeq packet := by
  have hm := i.addr.length_eq
  unfold lsuRewrite lsuSeq
  rw [load16_store_of_disjoint (by simp), load16_store_of_disjoint (by simp),
    load16_store_of_disjoint (by simp), load16_store_of_disjoint (by simp),
    load16_store_of_disjoint (by omega)]

/-- **The IP checksum of a copy is valid.** -/
theorem ipCksum_lsuRewrite (hlen : 66 ≤ packet.length) :
    ipCksum (lsuRewrite i packet) = ipSum (lsuRewrite i packet) := by
  unfold lsuRewrite ipSum
  rw [ipCksum_store_of_disjoint (by simp), ipCksum_store_of_disjoint (by simp), ipCksum_store_sum,
    load16_store_of_disjoint (by simp), load16_store_of_disjoint (by simp)]
  exact (load16_store_bytes16 _ (by rw [length_store, length_store]; omega)).symm

/-- The OSPF checksum is that over the headers and the advertisements. -/
theorem ospfCsum_lsuRewrite (hlen : 66 ≤ packet.length) :
    ospfCsum (lsuRewrite i packet) =
      ospfv2Cksum (lsuRewrite i packet) (24 + 8 + (lsuNumAdv packet).toNat * 12) := by
  have hm := i.addr.length_eq
  unfold lsuRewrite lsuNumAdv ospfCsum
  rw [ospfv2Cksum_store_sum, load16_store_bytes16 _ (by simp; omega)]
  rw [load32_store_of_disjoint (by simp), load32_store_of_disjoint (by simp),
    load32_store_of_disjoint (by simp), load32_store_of_disjoint (by omega)]

/-- **The OSPF checksum of a copy is valid exactly if the bytes behind the last advertisement
sum up to nothing.** -/
theorem ospfv2Cksum_lsuRewrite_iff (hmax : packet.length ≤ rxLsuParamSize)
    (hlen : lsaOffset 0 ≤ packet.length)
    (hall : lsaOffset (lsuNumAdv packet).toNat ≤ packet.length) :
    ospfv2Cksum (lsuRewrite i packet) ((lsuRewrite i packet).length - 34) =
        ospfCsum (lsuRewrite i packet) ↔
      cksum (packet.drop (lsaOffset (lsuNumAdv packet).toNat)) = 0xffff := by
  have hend : lsaOffset (lsuNumAdv packet).toNat =
      34 + (24 + 8 + (lsuNumAdv packet).toNat * 12) := by
    unfold lsaOffset
    omega
  have htail : (lsuRewrite i packet).drop (lsaOffset (lsuNumAdv packet).toNat) =
      packet.drop (lsaOffset (lsuNumAdv packet).toNat) := by
    have hsplit : lsaOffset (lsuNumAdv packet).toNat =
        62 + (4 + (lsuNumAdv packet).toNat * 12) := by
      omega
    rw [hsplit, ← List.drop_drop, drop_lsuRewrite, List.drop_drop]
  have hsize : rxLsuParamSize = 1500 := rfl
  rw [ospfCsum_lsuRewrite hlen, ← htail, hend]
  apply ospfv2Cksum_eq_iff
  · rw [length_lsuRewrite, ← hend]
    exact hall
  · omega
  · omega
  · rw [length_lsuRewrite]
    omega

end Rewrite

/-! ### One turn -/

section Turn

variable {sr : SrInstance} {now : ℤ} {fuel : ℕ} {i : SrIf} {packet : Frame} {st : ArpState}

/-- **On a hit the copy is sent** with the addresses of its interface's name and of the
neighbour. -/
theorem floodStep_hit {e : ArpEntry} {out : SrIf}
    (hhit : srArpcacheLookup st.entries i.neighborIp = some e)
    (hout : srGetInterface sr.ifList i.name = some out) :
    floodStep sr now fuel i packet st =
      (some ⟨i.name, readdressed out.addr e.mac (lsuRewrite i packet)⟩,
        readdressed out.addr e.mac (lsuRewrite i packet),
        .ok (st.note (.output (readdressed out.addr e.mac (lsuRewrite i packet)) i.name))) := by
  unfold floodStep srForwardPacket forwardedFrame
  simp only [hhit, hout, Option.map_some]

/-- **On a miss the copy is queued** for the neighbour, with its interface. -/
theorem floodStep_miss (hmiss : srArpcacheLookup st.entries i.neighborIp = none) :
    floodStep sr now fuel i packet st =
      (some ⟨i.name, lsuRewrite i packet⟩, lsuRewrite i packet,
        handleArpreq sr now fuel (st.queue.reqFor i.neighborIp).addr
          (srArpcacheQueuereq i.neighborIp (lsuRewrite i packet) i.name st).1) := by
  unfold floodStep
  simp only [hmiss]
  rw [queuereq_addr]

/-- An interface of the router is found under its name. -/
theorem exists_srGetInterface {ifList : List SrIf} (hi : i ∈ ifList) :
    ∃ out, srGetInterface ifList i.name = some out := by
  apply Option.isSome_iff_exists.mp
  unfold srGetInterface
  rw [List.find?_isSome]
  exact ⟨i, hi, by simp⟩

/-- **What one turn does**: it makes a copy, which is what is left in the buffer, with the TTL
decremented. -/
theorem floodStep_spec (now : ℤ) (fuel : ℕ) (st : ArpState) (hi : i ∈ sr.ifList)
    (hlen : lsaOffset 0 ≤ packet.length) :
    ∃ frame ending, floodStep sr now fuel i packet st = (some ⟨i.name, frame⟩, frame, ending) ∧
      frame.length = packet.length ∧ lsuTtl frame = lsuTtl packet - 1 := by
  cases hhit : srArpcacheLookup st.entries i.neighborIp with
  | none =>
    rw [floodStep_miss hhit]
    exact ⟨_, _, rfl, length_lsuRewrite i packet, lsuTtl_lsuRewrite hlen⟩
  | some e =>
    obtain ⟨out, hout⟩ := exists_srGetInterface hi
    rw [floodStep_hit hhit hout]
    refine ⟨_, _, rfl, ?_, ?_⟩
    · rw [length_readdressed, length_lsuRewrite]
    · rw [← lsuTtl_lsuRewrite (i := i) hlen]
      exact load8_readdressed (by omega)

end Turn

/-! ### The copies -/

/-- The law for the rewritten packet. -/
theorem copyOk_lsuRewrite_iff {i : SrIf} {packet : Frame} (hmax : packet.length ≤ rxLsuParamSize)
    (hlen : lsaOffset 0 ≤ packet.length)
    (hall : lsaOffset (lsuNumAdv packet).toNat ≤ packet.length) :
    CopyOk packet i ⟨i.name, lsuRewrite i packet⟩ ↔
      cksum (packet.drop (lsaOffset (lsuNumAdv packet).toNat)) = 0xffff := by
  rw [← ospfv2Cksum_lsuRewrite_iff (i := i) hmax hlen hall]
  constructor
  · intro h
    exact h.csum
  · intro hcsum
    exact ⟨rfl, lsuTtl_lsuRewrite hlen, etherShost_lsuRewrite hlen, ipSrc_lsuRewrite hlen,
      ospfRid_lsuRewrite, lsuSeq_lsuRewrite, drop_lsuRewrite, ipCksum_lsuRewrite hlen, hcsum⟩

/-- New hardware addresses keep the law exactly if the source is that of the interface. -/
theorem copyOk_readdressed_iff {i : SrIf} {packet frame : Frame} {shost dhost : Mac}
    (hlen : 12 ≤ frame.length) (hshost : etherShost frame = i.addr.bytes) :
    CopyOk packet i ⟨i.name, readdressed shost dhost frame⟩ ↔
      CopyOk packet i ⟨i.name, frame⟩ ∧ shost = i.addr := by
  have httl : lsuTtl (readdressed shost dhost frame) = lsuTtl frame := load8_readdressed (by omega)
  have hsrc : ipSrc (readdressed shost dhost frame) = ipSrc frame := load32_readdressed (by omega)
  have hrid : ospfRid (readdressed shost dhost frame) = ospfRid frame :=
    load32_readdressed (by omega)
  have hseq : lsuSeq (readdressed shost dhost frame) = lsuSeq frame :=
    load16_readdressed (by omega)
  have hlsas : (readdressed shost dhost frame).drop 62 = frame.drop 62 :=
    drop_readdressed (by omega)
  have hip : ipSum (readdressed shost dhost frame) = ipSum frame := load16_readdressed (by omega)
  have hcsum : ospfCsum (readdressed shost dhost frame) = ospfCsum frame :=
    load16_readdressed (by omega)
  constructor
  · intro h
    refine ⟨⟨rfl, httl ▸ h.ttl, hshost, hsrc ▸ h.src, hrid ▸ h.rid, hseq ▸ h.seq, hlsas ▸ h.lsas,
      ?_, ?_⟩, ?_⟩
    · have := h.ipSum
      rwa [ipCksum_readdressed, hip] at this
    · have := h.csum
      rwa [ospfv2Cksum_readdressed, length_readdressed, hcsum] at this
    · apply Mac.eq_of_bytes
      rw [← etherShost_readdressed hlen]
      exact h.shost
  · rintro ⟨h, rfl⟩
    refine ⟨rfl, httl.trans h.ttl, etherShost_readdressed hlen, hsrc.trans h.src, hrid.trans h.rid,
      hseq.trans h.seq, hlsas.trans h.lsas, ?_, ?_⟩
    · rw [ipCksum_readdressed, hip]
      exact h.ipSum
    · rw [ospfv2Cksum_readdressed, length_readdressed, hcsum]
      exact h.csum

/-! ### The run -/

/-- The loop over interfaces none of which is skipped. -/
def floodOthers (sr : SrInstance) (now : ℤ) (fuel : ℕ) :
    List SrIf → Frame → ArpState → List LsuCopy × Except Halt ArpState
  | [], _, st => ([], .ok st)
  | i :: rest, packet, st =>
      match floodStep sr now fuel i packet st with
      | (copy, _, .error halt) => (copy.toList, .error halt)
      | (copy, packet, .ok st) =>
          let (copies, ending) := floodOthers sr now fuel rest packet st
          (copy.toList ++ copies, ending)

section Run

variable {sr : SrInstance} {now : ℤ} {fuel : ℕ} {packet : Frame} {st : ArpState}

/-- **The loop is one over the other interfaces.** -/
theorem floodLoop_eq (rxIf : Option ℕ) (k : ℕ) (ifs : List SrIf) (packet : Frame) (st : ArpState) :
    floodLoop sr now fuel rxIf k ifs packet st =
      floodOthers sr now fuel (othersFrom rxIf k ifs) packet st := by
  induction ifs generalizing k packet st with
  | nil => rfl
  | cons i rest ih =>
    unfold floodLoop othersFrom
    by_cases hskip : rxIf = some k
    · rw [if_pos hskip, if_pos hskip]
      exact ih (k + 1) packet st
    · rw [if_neg hskip, if_neg hskip]
      show _ = floodOthers sr now fuel (i :: othersFrom rxIf (k + 1) rest) packet st
      unfold floodOthers
      simp only [ih (k + 1)]

theorem othersFrom_subset (rxIf : Option ℕ) (k : ℕ) (ifs : List SrIf) :
    ∀ i ∈ othersFrom rxIf k ifs, i ∈ ifs := by
  induction ifs generalizing k with
  | nil => intro i hi; cases hi
  | cons i rest ih =>
    intro j hj
    unfold othersFrom at hj
    by_cases hskip : rxIf = some k
    · rw [if_pos hskip] at hj
      exact List.mem_cons_of_mem i (ih (k + 1) j hj)
    · rw [if_neg hskip] at hj
      rcases List.mem_cons.mp hj with rfl | hj
      · exact List.mem_cons_self
      · exact List.mem_cons_of_mem i (ih (k + 1) j hj)

/-- **The loop makes the copy of its first turn**, and, if this turn ends, those of a loop that
finds this copy in the buffer. -/
theorem floodOthers_cons (now : ℤ) (fuel : ℕ) (st : ArpState) (rest : List SrIf) {i : SrIf}
    (hi : i ∈ sr.ifList) (hlen : lsaOffset 0 ≤ packet.length) :
    ∃ frame, frame.length = packet.length ∧ lsuTtl frame = lsuTtl packet - 1 ∧
      ((∃ halt, floodOthers sr now fuel (i :: rest) packet st =
          ([⟨i.name, frame⟩], .error halt)) ∨
        ∃ st', floodOthers sr now fuel (i :: rest) packet st =
          (⟨i.name, frame⟩ :: (floodOthers sr now fuel rest frame st').1,
            (floodOthers sr now fuel rest frame st').2)) := by
  obtain ⟨frame, ending, hstep, hsize, httl⟩ := floodStep_spec now fuel st hi hlen
  refine ⟨frame, hsize, httl, ?_⟩
  rw [floodOthers, hstep]
  cases ending with
  | error halt => exact .inl ⟨halt, rfl⟩
  | ok st' => exact .inr ⟨st', rfl⟩

/-- **The copy with index `n` has a TTL that is `n + 1` less** than that of the LSU. -/
theorem floodOthers_ttl {others : List SrIf} (hmem : ∀ i ∈ others, i ∈ sr.ifList)
    (hlen : lsaOffset 0 ≤ packet.length) {n : ℕ} {copy : LsuCopy}
    (h : (floodOthers sr now fuel others packet st).1[n]? = some copy) :
    lsuTtl copy.frame = lsuTtl packet - UInt8.ofNat (n + 1) := by
  induction others generalizing packet st n with
  | nil => simp [floodOthers] at h
  | cons i rest ih =>
    obtain ⟨frame, hsize, httl, hcases⟩ :=
      floodOthers_cons now fuel st rest (hmem i List.mem_cons_self) hlen
    have hfirst : (⟨i.name, frame⟩ : LsuCopy) = copy → n = 0 →
        lsuTtl copy.frame = lsuTtl packet - UInt8.ofNat (n + 1) := by
      rintro rfl rfl
      exact httl
    rcases hcases with ⟨halt, heq⟩ | ⟨st', heq⟩
    · rw [heq] at h
      cases n with
      | zero => exact hfirst (by simpa using h) rfl
      | succ n => simp at h
    · rw [heq] at h
      cases n with
      | zero => exact hfirst (by simpa using h) rfl
      | succ n =>
        -- what is left in the buffer has the decremented TTL
        rw [ih (fun j hj => hmem j (List.mem_cons_of_mem i hj)) (by omega) h, httl]
        have hsucc : UInt8.ofNat (n + 1 + 1) = UInt8.ofNat (n + 1) + 1 := UInt8.ofNat_add (n + 1) 1
        rw [hsucc]
        grind

/-- A loop that gets to its end has made a copy for every interface, in their order, whether
there is a neighbour or not. -/
theorem floodOthers_iface {others : List SrIf} (hmem : ∀ i ∈ others, i ∈ sr.ifList)
    (hlen : lsaOffset 0 ≤ packet.length) {st' : ArpState}
    (h : (floodOthers sr now fuel others packet st).2 = .ok st') :
    (floodOthers sr now fuel others packet st).1.map LsuCopy.iface = others.map SrIf.name := by
  induction others generalizing packet st with
  | nil => rfl
  | cons i rest ih =>
    obtain ⟨frame, hsize, -, hcases⟩ :=
      floodOthers_cons now fuel st rest (hmem i List.mem_cons_self) hlen
    rcases hcases with ⟨halt, heq⟩ | ⟨st₁, heq⟩
    · rw [heq] at h
      cases h
    · rw [heq] at h ⊢
      rw [List.map_cons, List.map_cons,
        ih (fun j hj => hmem j (List.mem_cons_of_mem i hj)) (by omega) h]

end Run
/-! ### When the law holds -/

section Law

variable {sr : SrInstance} {now : ℤ} {fuel : ℕ} {packet : Frame} {st : ArpState}

theorem FloodLaw.ttl {others : List SrIf} {copies : List LsuCopy}
    (h : FloodLaw packet others copies) {copy : LsuCopy} (hc : copy ∈ copies) :
    lsuTtl copy.frame = lsuTtl packet - 1 := by
  obtain ⟨targets, -, hall⟩ := h
  induction hall with
  | nil => cases hc
  | cons hcopy _ ih =>
    rcases List.mem_cons.mp hc with rfl | hc
    · exact hcopy.ttl
    · exact ih hc

/-- The law for a single copy. -/
theorem floodLaw_single_iff {i : SrIf} {copy : LsuCopy} :
    FloodLaw packet [i] [copy] ↔
      1 < lsuTtl packet ∧ i.neighborId ≠ 0 ∧ CopyOk packet i copy := by
  unfold FloodLaw
  constructor
  · rintro ⟨targets, hperm, hall⟩
    cases hall with
    | @cons target _ _ _ hcopy hnil =>
      cases hnil
      rw [List.singleton_perm] at hperm
      by_cases httl : 1 < lsuTtl packet
      · rw [if_pos httl] at hperm
        by_cases hneighbor : i.neighborId ≠ 0
        · rw [List.filter_cons_of_pos (by simpa using hneighbor)] at hperm
          cases hperm
          exact ⟨httl, hneighbor, hcopy⟩
        · rw [List.filter_cons_of_neg (by simpa using hneighbor)] at hperm
          cases hperm
      · rw [if_neg httl] at hperm
        cases hperm
  · rintro ⟨httl, hneighbor, hcopy⟩
    refine ⟨[i], ?_, .cons hcopy .nil⟩
    rw [if_pos httl, List.filter_cons_of_pos (by simpa using hneighbor)]
    exact .refl _

/-- Without other interfaces there is nothing to copy. -/
theorem floodLaw_nil : FloodLaw packet [] [] := by
  refine ⟨[], ?_, .nil⟩
  rw [List.filter_nil, ite_self]

/-- **Two copies cannot both have a TTL that is one less.** -/
theorem not_floodLaw_of_two {i j : SrIf} {rest : List SrIf}
    (hmem : ∀ k ∈ i :: j :: rest, k ∈ sr.ifList) (hlen : lsaOffset 0 ≤ packet.length)
    {st' : ArpState}
    (hends : (floodOthers sr now fuel (i :: j :: rest) packet st).2 = .ok st') :
    ¬ FloodLaw packet (i :: j :: rest) (floodOthers sr now fuel (i :: j :: rest) packet st).1 := by
  intro hlaw
  have hcount := congrArg List.length (floodOthers_iface hmem hlen hends)
  rw [List.length_map, List.length_map, List.length_cons, List.length_cons] at hcount
  obtain ⟨copy, hcopy⟩ : ∃ copy,
      (floodOthers sr now fuel (i :: j :: rest) packet st).1[1]? = some copy :=
    ⟨_, List.getElem?_eq_getElem (by omega)⟩
  have hlaw := hlaw.ttl (List.mem_of_getElem? hcopy)
  rw [floodOthers_ttl hmem hlen hcopy, UInt8.sub_right_inj] at hlaw
  exact absurd hlaw (by decide)

/-- When the copy of a single turn is as it should be. -/
theorem floodStep_copyOk_iff {i : SrIf} (hi : i ∈ sr.ifList)
    (hmax : packet.length ≤ rxLsuParamSize) (hlen : lsaOffset 0 ≤ packet.length)
    (hall : lsaOffset (lsuNumAdv packet).toNat ≤ packet.length) {copy : LsuCopy}
    (hcopy : (floodStep sr now fuel i packet st).1 = some copy) :
    CopyOk packet i copy ↔
      cksum (packet.drop (lsaOffset (lsuNumAdv packet).toNat)) = 0xffff ∧
        (srArpcacheLookup st.entries i.neighborIp ≠ none →
          ∀ out, srGetInterface sr.ifList i.name = some out → out.addr = i.addr) := by
  have hbase := copyOk_lsuRewrite_iff (i := i) hmax hlen hall
  cases hhit : srArpcacheLookup st.entries i.neighborIp with
  | none =>
    rw [floodStep_miss hhit] at hcopy
    cases hcopy
    rw [hbase]
    simp
  | some e =>
    obtain ⟨out, hout⟩ := exists_srGetInterface hi
    rw [floodStep_hit hhit hout] at hcopy
    cases hcopy
    have hoff : lsaOffset 0 = 66 := rfl
    rw [copyOk_readdressed_iff (by rw [length_lsuRewrite]; omega) (etherShost_lsuRewrite hlen),
      hbase, hout]
    simp

/-- **The copies of an accepted LSU are as they should be exactly if there is none to make, or
a single one, to a neighbour, for an LSU with hops to go and no bytes behind its
advertisements that count, through an interface whose name stands for it.**  With more than
one the loop is taken to get to its end. -/
theorem flood_law_iff {ownId : IpAddr} {table : List TopologyEntry} {rx : IfName} {lsu : Lsu}
    (h : srHandlePwospfPacket ownId table packet (srGetInterface sr.ifList rx) =
      .ok (.lsu (.accepted lsu)))
    (hends : 2 ≤ (otherInterfaces sr rx).length →
      ∃ st', (floodLsu sr now fuel rx packet st).2 = .ok st') :
    FloodLaw packet (otherInterfaces sr rx) (floodLsu sr now fuel rx packet st).1 ↔
      otherInterfaces sr rx = [] ∨
      ∃ i, otherInterfaces sr rx = [i] ∧ i.neighborId ≠ 0 ∧ 1 < lsuTtl packet ∧
        cksum (packet.drop (lsaOffset (lsuNumAdv packet).toNat)) = 0xffff ∧
        (srArpcacheLookup st.entries i.neighborIp ≠ none →
          ∀ out, srGetInterface sr.ifList i.name = some out → out.addr = i.addr) := by
  obtain ⟨hmax, hlen, hall⟩ := accepted_length_le h
  have hmem := othersFrom_subset (sr.ifList.findIdx? fun i => i.name = rx) 0 sr.ifList
  have hloop : floodLsu sr now fuel rx packet st =
      floodOthers sr now fuel (otherInterfaces sr rx) packet st := floodLoop_eq _ _ _ _ _
  rw [hloop] at hends ⊢
  change ∀ i ∈ otherInterfaces sr rx, i ∈ sr.ifList at hmem
  generalize otherInterfaces sr rx = others at hends hmem ⊢
  match others with
  | [] => simp [floodOthers, floodLaw_nil]
  | [i] =>
    -- a single copy, which is made whether there is a neighbour or not
    have hi := hmem i List.mem_cons_self
    obtain ⟨frame, ending, hstep, -, -⟩ := floodStep_spec now fuel st hi hlen
    have hcopies : (floodOthers sr now fuel [i] packet st).1 = [⟨i.name, frame⟩] := by
      rw [floodOthers, hstep]
      cases ending <;> rfl
    have hturn : (floodStep sr now fuel i packet st).1 = some ⟨i.name, frame⟩ := by rw [hstep]
    rw [hcopies, floodLaw_single_iff, floodStep_copyOk_iff hi hmax hlen hall hturn]
    constructor
    · rintro ⟨httl, hneighbor, htail, hname⟩
      exact .inr ⟨i, rfl, hneighbor, httl, htail, hname⟩
    · rintro (hnil | ⟨j, hj, hneighbor, httl, htail, hname⟩)
      · cases hnil
      · cases hj
        exact ⟨httl, hneighbor, htail, hname⟩
  | i :: j :: rest =>
    -- the TTL is decremented in the buffer, so the second copy is wrong
    obtain ⟨st', hends⟩ := hends (by simp)
    have hnot := not_floodLaw_of_two hmem hlen hends
    constructor
    · intro hlaw
      exact absurd hlaw hnot
    · rintro (hnil | ⟨k, hk, -⟩)
      · cases hnil
      · cases hk

end Law

/-! ### An LSU to send on -/

/-- The interface 10.0.2.1, with the neighbour 8.8.8.8. -/
def leftPort : SrIf :=
  ⟨"eth2".toList, generateEthernetAddr 3, 0x0102000a, 0x00ffffff, 5, 0x08080808, 0x0202000a⟩

/-- The interface 10.0.3.1, with the neighbour 9.9.9.9. -/
def rightPort : SrIf :=
  ⟨"eth3".toList, generateEthernetAddr 4, 0x0103000a, 0x00ffffff, 5, 0x09090909, 0x0203000a⟩

/-- The router with further interfaces. -/
def routerWith (ports : List SrIf) : SrInstance :=
  { gatewayRouter with ifList := gatewayRouter.ifList ++ ports }

/-- With one neighbour to send it to, the LSU is sent on as it should be. -/
theorem oneLsa_flooded : FloodLaw oneLsa (otherInterfaces (routerWith [leftPort]) "eth1".toList)
    (floodLsu (routerWith [leftPort]) 10 1 "eth1".toList oneLsa srArpcacheInit).1 := by
  have haccepted : srHandlePwospfPacket 0x01010101 [] oneLsa
      (srGetInterface (routerWith [leftPort]).ifList "eth1".toList) =
        .ok (.lsu (.accepted ⟨0x07070707, 1, 0x0201000a,
          [⟨0x0002000a, 0x00ffffff, 0x08080808⟩]⟩)) := by decide
  have hone : ¬ 2 ≤ (otherInterfaces (routerWith [leftPort]) "eth1".toList).length := by decide
  exact (flood_law_iff haccepted fun htwo => absurd htwo hone).mpr
    (.inr ⟨leftPort, by decide, by decide, by decide, by decide, by decide⟩)

/-- **With two neighbours, the second gets it with a TTL that is two less.** -/
theorem oneLsa_not_flooded : ∃ lsu st',
    srHandlePwospfPacket 0x01010101 [] oneLsa
        (srGetInterface (routerWith [leftPort, rightPort]).ifList "eth1".toList) =
      .ok (.lsu (.accepted lsu)) ∧
    (floodLsu (routerWith [leftPort, rightPort]) 10 1 "eth1".toList oneLsa srArpcacheInit).2 =
      .ok st' ∧
    ¬ FloodLaw oneLsa (otherInterfaces (routerWith [leftPort, rightPort]) "eth1".toList)
      (floodLsu (routerWith [leftPort, rightPort]) 10 1 "eth1".toList oneLsa srArpcacheInit).1 := by
  refine ⟨⟨0x07070707, 1, 0x0201000a, [⟨0x0002000a, 0x00ffffff, 0x08080808⟩]⟩, _, by decide, rfl,
    ?_⟩
  intro hlaw
  have htwo : ∃ copy, copy ∈ (floodLsu (routerWith [leftPort, rightPort]) 10 1 "eth1".toList oneLsa
      srArpcacheInit).1 ∧ lsuTtl copy.frame = 62 :=
    ⟨_, List.mem_cons_of_mem _ List.mem_cons_self, by decide⟩
  obtain ⟨copy, hcopy, httl⟩ := htwo
  have hone := hlaw.ttl hcopy
  rw [httl] at hone
  exact absurd hone (by decide)

end Redes
