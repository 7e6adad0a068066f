import Redes.Lib.Bytes
import Redes.Lib.OnesComplement
import Redes.Router.Interface

/-!
# Frames and their checksums

The header fields of `sr_protocol.h` and `pwospf_protocol.h` at their offsets in a frame,
and the checksum functions and the frame check of `sr_utils.c`.

## Main definitions

* `etherType`, `ipSrc`, … — fields.
* `cksum`, `ipCksum`, `icmpCksum`, `ospfv2Cksum` — checksums.
* `isPacketValid` — the check that every received frame has to pass.

## Main results

* `cksum_eq_iff` — when two checksums are equal.
* `ospfv2Cksum_eq_iff` — when bytes at the end do not change the OSPF checksum.
-/

namespace Redes

open Bytes OnesComplement

/-- A frame as it is received or sent, from its Ethernet header on. -/
abbrev Frame := List UInt8

/-- `htons` and `ntohs` on a little-endian host. -/
def htons (x : UInt16) : UInt16 := UInt16.ofNat (x.toNat % 256 * 256 + x.toNat / 256)

/-! ### Fields -/

/-- `ether_dhost`. -/
abbrev etherDhost (p : Frame) : List UInt8 := slice p 0 6
/-- `ether_shost`. -/
abbrev etherShost (p : Frame) : List UInt8 := slice p 6 6
/-- `ether_type`. -/
abbrev etherType (p : Frame) : UInt16 := load16 p 12
/-- `ip_ttl`. -/
abbrev ipTtl (p : Frame) : UInt8 := load8 p 22
/-- `ip_p`. -/
abbrev ipP (p : Frame) : UInt8 := load8 p 23
/-- `ip_sum`. -/
abbrev ipSum (p : Frame) : UInt16 := load16 p 24
/-- `ip_src`. -/
abbrev ipSrc (p : Frame) : IpAddr := load32 p 26
/-- `ip_dst`. -/
abbrev ipDst (p : Frame) : IpAddr := load32 p 30
/-- `icmp_sum`. -/
abbrev icmpSum (p : Frame) : UInt16 := load16 p 36
/-- `ospfv2_hdr.type`. -/
abbrev ospfType (p : Frame) : UInt8 := load8 p 35
/-- `ospfv2_hdr.rid`. -/
abbrev ospfRid (p : Frame) : IpAddr := load32 p 38
/-- `ospfv2_hdr.csum`. -/
abbrev ospfCsum (p : Frame) : UInt16 := load16 p 46

/-- `ethertype_arp`. -/
def ethertypeArp : UInt16 := 0x0806
/-- `ethertype_ip`. -/
def ethertypeIp : UInt16 := 0x0800
/-- `ip_protocol_icmp`. -/
def ipProtocolIcmp : UInt8 := 1
/-- `ip_protocol_ospfv2`. -/
def ipProtocolOspfv2 : UInt8 := 89

/-! ### Checksums -/

/-- `cksum`: the 32-bit sum of the words is folded, complemented and put into network
order; zero is sent as `0xffff`. -/
def cksum (data : List UInt8) : UInt16 :=
  let sum := foldCarries 3 (wordSum data % 2 ^ 32)
  let sum := htons (UInt16.ofNat (0xffffffff - sum))
  if sum = 0 then 0xffff else sum

/-- `ip_cksum` over the IP header of a frame: the checksum field counts as zero. -/
def ipCksum (p : Frame) : UInt16 := cksum (slice (store p 24 [0, 0]) 14 20)

/-- `icmp_cksum` over `len` bytes from the ICMP header of a frame on. -/
def icmpCksum (p : Frame) (len : ℕ) : UInt16 := cksum (slice (store p 36 [0, 0]) 34 len)

/-- `ospfv2_cksum` over `len` bytes from the OSPF header of a frame on. -/
def ospfv2Cksum (p : Frame) (len : ℕ) : UInt16 := cksum (slice (store p 46 [0, 0]) 34 len)

/-- `is_packet_valid`. -/
def isPacketValid (packet : Frame) : Bool :=
  if etherType packet = htons ethertypeArp then
    -- an ARP packet has to be long enough, and nothing else
    14 + 28 ≤ packet.length
  else if etherType packet = htons ethertypeIp then
    if 14 + 20 ≤ packet.length then
      if ipCksum packet = ipSum packet then
        if ipP packet = ipProtocolIcmp then
          if 34 + 4 ≤ packet.length then icmpCksum packet (packet.length - 34) = icmpSum packet
          else false
        else if ipP packet = ipProtocolOspfv2 then
          if 34 + 24 ≤ packet.length then
            ospfv2Cksum packet (packet.length - 34) = ospfCsum packet
          else false
        else true
      else false
    else false
  else false

/-! ### Network order -/

theorem toNat_htons (x : UInt16) : (htons x).toNat = x.toNat % 256 * 256 + x.toNat / 256 := by
  have := x.toNat_lt
  rw [htons, UInt16.toNat_ofNat']
  omega

theorem htons_eq_zero_iff (x : UInt16) : htons x = 0 ↔ x = 0 := by
  have hzero : (0 : UInt16).toNat = 0 := rfl
  have hx := x.toNat_lt
  rw [← UInt16.toNat_inj, ← UInt16.toNat_inj, toNat_htons, hzero]
  omega

/-- What is in network order has its high byte first in memory. -/
theorem bytes16_htons (x : UInt16) :
    bytes16 (htons x) = [UInt8.ofNat (x.toNat / 256), UInt8.ofNat (x.toNat % 256)] := by
  have hx := x.toNat_lt
  rw [bytes16, toNat_htons]
  congr 2
  · omega
  · congr 1
    omega

/-! ### When two checksums are equal -/

/-- The value of a checksum in terms of the folded sum. -/
theorem toNat_cksum (data : List UInt8) : ∃ f, f ≤ 0xffff ∧
    f % 0xffff = wordSum data % 2 ^ 32 % 0xffff ∧
    (cksum data).toNat =
      if f = 0xffff then 0xffff else (0xffff - f) % 256 * 256 + (0xffff - f) / 256 := by
  have hlt : wordSum data % 2 ^ 32 < 2 ^ 32 := Nat.mod_lt _ (Nat.two_pow_pos 32)
  refine ⟨foldCarries 3 (wordSum data % 2 ^ 32), foldCarries_le hlt 1, foldCarries_mod _ _, ?_⟩
  have hle := foldCarries_le hlt 1
  unfold cksum
  generalize foldCarries 3 (wordSum data % 2 ^ 32) = f at hle ⊢
  have hnot : (htons (UInt16.ofNat (0xffffffff - f))).toNat =
      (0xffff - f) % 256 * 256 + (0xffff - f) / 256 := by
    rw [toNat_htons, UInt16.toNat_ofNat']
    omega
  by_cases hf : f = 0xffff
  · subst hf
    rfl
  · have hne : htons (UInt16.ofNat (0xffffffff - f)) ≠ 0 := by
      intro h
      rw [h] at hnot
      have : (0 : UInt16).toNat = 0 := rfl
      omega
    simp only [hne, hf, if_false, hnot]

/-- **Two checksums are equal exactly if the sums are equal modulo `0xffff`.** -/
theorem cksum_eq_iff {a b : List UInt8} (ha : a.length ≤ 131070) (hb : b.length ≤ 131070) :
    cksum a = cksum b ↔ wordSum a % 0xffff = wordSum b % 0xffff := by
  obtain ⟨f, hf, hfa, hca⟩ := toNat_cksum a
  obtain ⟨g, hg, hgb, hcb⟩ := toNat_cksum b
  rw [Nat.mod_eq_of_lt (wordSum_lt ha)] at hfa
  rw [Nat.mod_eq_of_lt (wordSum_lt hb)] at hgb
  rw [← UInt16.toNat_inj, hca, hcb, ← hfa, ← hgb]
  clear hca hcb hfa hgb ha hb
  by_cases h₁ : f = 0xffff <;> by_cases h₂ : g = 0xffff <;>
    simp only [h₁, h₂, if_true, if_false] <;>
    omega

/-- A checksum is `0xffff` exactly if the sum is zero modulo `0xffff`. -/
theorem cksum_eq_ffff_iff {a : List UInt8} (ha : a.length ≤ 131070) :
    cksum a = 0xffff ↔ wordSum a % 0xffff = 0 := by
  have hnil : cksum [] = 0xffff := by decide
  rw [← hnil, cksum_eq_iff ha (by simp)]
  simp

/-! ### Writes and checksums -/

/-- The IP checksum does not depend on bytes outside of the IP header. -/
theorem ipCksum_store_of_disjoint {p : Frame} {i : ℕ} {xs : List UInt8}
    (h : i + xs.length ≤ 14 ∨ 34 ≤ i) : ipCksum (store p i xs) = ipCksum p := by
  unfold ipCksum
  have hcomm : store (store p i xs) 24 [0, 0] = store (store p 24 [0, 0]) i xs :=
    store_comm (by simp only [List.length_cons, List.length_nil]; omega)
  rw [hcomm, slice_store_of_disjoint (by omega)]

/-- The IP checksum does not depend on itself. -/
theorem ipCksum_store_sum (p : Frame) (v : UInt16) :
    ipCksum (store p 24 (bytes16 v)) = ipCksum p := by
  unfold ipCksum
  rw [store_store (by simp)]

/-- The OSPF checksum does not depend on bytes before the OSPF header. -/
theorem ospfv2Cksum_store_of_le {p : Frame} {i len : ℕ} {xs : List UInt8}
    (h : i + xs.length ≤ 34) : ospfv2Cksum (store p i xs) len = ospfv2Cksum p len := by
  unfold ospfv2Cksum
  have hcomm : store (store p i xs) 46 [0, 0] = store (store p 46 [0, 0]) i xs :=
    store_comm (by omega)
  rw [hcomm, slice_store_of_disjoint (by omega)]

/-- The OSPF checksum does not depend on itself. -/
theorem ospfv2Cksum_store_sum (p : Frame) (v : UInt16) (len : ℕ) :
    ospfv2Cksum (store p 46 (bytes16 v)) len = ospfv2Cksum p len := by
  unfold ospfv2Cksum
  rw [store_store (by simp)]

/-- **The checksum over the whole packet is that over a part exactly if the rest sums up to
nothing.** -/
theorem ospfv2Cksum_eq_iff {p : Frame} {len : ℕ} (hlen : 34 + len ≤ p.length) (heven : len % 2 = 0)
    (hsum : 14 ≤ len) (hmax : p.length ≤ 131070) :
    ospfv2Cksum p (p.length - 34) = ospfv2Cksum p len ↔ cksum (p.drop (34 + len)) = 0xffff := by
  have hsplit : slice (store p 46 [0, 0]) 34 (p.length - 34) =
      slice (store p 46 [0, 0]) 34 len ++ p.drop (34 + len) := by
    have hrest : (store p 46 [0, 0]).drop (34 + len) = p.drop (34 + len) :=
      drop_store (by simp only [List.length_cons, List.length_nil]; omega)
    have hall : (store p 46 [0, 0]).drop 34 = slice (store p 46 [0, 0]) 34 len ++
        (store p 46 [0, 0]).drop (34 + len) := by
      rw [slice, ← List.drop_drop, List.take_append_drop]
    rw [← hrest, ← hall, slice, List.take_of_length_le]
    rw [List.length_drop, length_store]
  have hpart : (slice (store p 46 [0, 0]) 34 len).length = len :=
    length_slice (by rw [length_store]; omega)
  have htail : (p.drop (34 + len)).length ≤ 131070 := by
    rw [List.length_drop]
    omega
  unfold ospfv2Cksum
  rw [hsplit, cksum_eq_ffff_iff htail, cksum_eq_iff, wordSum_append _ (by rw [hpart]; exact heven)]
  · omega
  · rw [List.length_append, hpart, List.length_drop]
    omega
  · rw [hpart]
    omega

end Redes
