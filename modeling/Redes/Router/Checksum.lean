import Redes.Router.Frame

/-!
# Checksum comparisons and one's complement sums

`is_packet_valid` computes a checksum anew, with the field zeroed, and compares it with the
stored one.  A string with its checksum in place is intact if its one's complement sum is
`0xffff`.  The two tests differ in the one case that `cksum` leaves no room for: it never
gives zero, and a sender may store zero.

## Main definitions

* `recomputed` — the checksum over a string whose field is zeroed.

## Main results

* `recomputed_eq_iff` — when the comparison succeeds.
* `ipCksum_eq_ipSum_iff`, … — the comparisons of `is_packet_valid` are of this form.
* `checksum_accepted_iff` — when the comparison says the same as the sum.
-/

namespace Redes

open Bytes OnesComplement

/-- The checksum over a string, with the checksum field at the offset `k` zeroed. -/
def recomputed (d : List UInt8) (k : ℕ) : UInt16 := cksum (store d k [0, 0])

/-! ### A field in a string -/

/-- A string and the two bytes of the field at an offset. -/
theorem exists_field {d : List UInt8} {k : ℕ} (hk : k + 2 ≤ d.length) :
    ∃ a x y b, d = a ++ x :: y :: b ∧ a.length = k := by
  refine ⟨d.take k, d[k], d[k + 1], d.drop (k + 2), ?_, List.length_take_of_le (by omega)⟩
  rw [← List.drop_eq_getElem_cons (by omega : k + 1 < d.length),
    ← List.drop_eq_getElem_cons (by omega : k < d.length), List.take_append_drop]

theorem store_field (a b : List UInt8) (x y : UInt8) :
    store (a ++ x :: y :: b) a.length [0, 0] = a ++ 0 :: 0 :: b := by
  simp [store]

theorem load16_field (a b : List UInt8) (x y : UInt8) :
    (load16 (a ++ x :: y :: b) a.length).toNat = x.toNat + 256 * y.toNat := by
  have hx := x.toNat_lt
  have hy := y.toNat_lt
  have h₀ : load8 (a ++ x :: y :: b) a.length = x := by simp [load8]
  have h₁ : load8 (a ++ x :: y :: b) (a.length + 1) = y := by simp [load8]
  rw [load16, h₀, h₁, UInt16.toNat_ofNat']
  omega

/-! ### The comparison -/

/-- **The comparison succeeds exactly if the sum is a multiple of `0xffff` and the stored
checksum is not zero.** -/
theorem recomputed_eq_iff {d : List UInt8} {k : ℕ} (heven : k % 2 = 0) (hk : k + 2 ≤ d.length)
    (hmax : d.length ≤ 65535) :
    recomputed d k = load16 d k ↔ wordSum d % 0xffff = 0 ∧ load16 d k ≠ 0 := by
  obtain ⟨a, x, y, b, rfl, rfl⟩ := exists_field hk
  have hx := x.toNat_lt
  have hy := y.toNat_lt
  have hsum : wordSum (a ++ x :: y :: b) =
      wordSum (a ++ 0 :: 0 :: b) + (x.toNat * 256 + y.toNat) := by
    rw [wordSum_append _ heven, wordSum_append _ heven, wordSum_cons_cons, wordSum_cons_cons]
    show _ = wordSum a + (0 + wordSum b) + _
    omega
  have hlen : (a ++ 0 :: 0 :: b).length ≤ 131070 := by
    simp only [List.length_append, List.length_cons] at hmax ⊢
    omega
  obtain ⟨f, hf, hmod, hck⟩ := toNat_cksum (a ++ 0 :: 0 :: b)
  rw [Nat.mod_eq_of_lt (wordSum_lt hlen)] at hmod
  have hzero : (0 : UInt16).toNat = 0 := rfl
  rw [recomputed, store_field, ne_eq, ← UInt16.toNat_inj, ← UInt16.toNat_inj, hck, load16_field,
    hsum, hzero]
  split <;> omega

/-! ### The comparisons of `is_packet_valid` -/

/-- Zeroing a field of a part is zeroing it in the frame. -/
theorem slice_store_zero {p : Frame} {i k n : ℕ} (hk : k + 2 ≤ n) (hn : i + n ≤ p.length) :
    slice (store p (i + k) [0, 0]) i n = store (slice p i n) k [0, 0] := by
  apply List.ext_getElem?
  intro j
  rw [getElem?_store, length_slice hn, slice, slice, List.getElem?_take, List.getElem?_take,
    List.getElem?_drop, List.getElem?_drop, getElem?_store]
  simp only [List.length_cons, List.length_nil]
  by_cases hj : k ≤ j ∧ j < k + 2
  · rw [if_pos (by omega), if_pos (by omega), if_pos (by omega), Nat.add_sub_add_left]
  · rw [if_neg (by omega : ¬ (k ≤ j ∧ j < k + (0 + 1 + 1) ∧ j < n)),
      if_neg (by omega : ¬ (i + k ≤ i + j ∧ i + j < i + k + (0 + 1 + 1) ∧ i + j < p.length))]

/-- The rest of a frame, as a range of it. -/
theorem slice_rest (p : Frame) (i : ℕ) : slice p i (p.length - i) = p.drop i := by
  rw [slice, List.take_of_length_le]
  rw [List.length_drop]

/-- A comparison over a range of a frame, with the field inside of the range. -/
theorem comparison_iff {p : Frame} {i k n : ℕ} (hk : k + 2 ≤ n) (hn : i + n ≤ p.length) :
    cksum (slice (store p (i + k) [0, 0]) i n) = load16 p (i + k) ↔
      recomputed (slice p i n) k = load16 (slice p i n) k := by
  rw [slice_store_zero hk hn, load16_slice hk, recomputed]

/-- The comparison of the IP checksum is over the 20 bytes of the header. -/
theorem ipCksum_eq_ipSum_iff {p : Frame} (h : 34 ≤ p.length) :
    ipCksum p = ipSum p ↔ recomputed (slice p 14 20) 10 = load16 (slice p 14 20) 10 := by
  have hcmp := comparison_iff (p := p) (i := 14) (k := 10) (n := 20) (by omega) (by omega)
  rw [← hcmp]
  rfl

/-- The comparison of the ICMP checksum is over the bytes up to the end of the frame. -/
theorem icmpCksum_eq_icmpSum_iff {p : Frame} (h : 38 ≤ p.length) :
    icmpCksum p (p.length - 34) = icmpSum p ↔
      recomputed (p.drop 34) 2 = load16 (p.drop 34) 2 := by
  have hcmp := comparison_iff (p := p) (i := 34) (k := 2) (n := p.length - 34) (by omega) (by omega)
  rw [← slice_rest p 34, ← hcmp]
  rfl

/-- So is that of the OSPF checksum. -/
theorem ospfv2Cksum_eq_ospfCsum_iff {p : Frame} (h : 58 ≤ p.length) :
    ospfv2Cksum p (p.length - 34) = ospfCsum p ↔
      recomputed (p.drop 34) 12 = load16 (p.drop 34) 12 := by
  have hcmp := comparison_iff (p := p) (i := 34) (k := 12) (n := p.length - 34) (by omega)
    (by omega)
  rw [← slice_rest p 34, ← hcmp]
  rfl

/-! ### The comparison and the sum -/

/-- Where the stored checksum is not zero, the sum of the words is not either. -/
theorem wordSum_ne_zero {d : List UInt8} {k : ℕ} (heven : k % 2 = 0) (hk : k + 2 ≤ d.length)
    (h : load16 d k ≠ 0) : wordSum d ≠ 0 := by
  obtain ⟨a, x, y, b, rfl, rfl⟩ := exists_field hk
  intro hsum
  rw [wordSum_append _ heven, wordSum_cons_cons] at hsum
  apply h
  apply UInt16.toNat_inj.mp
  rw [load16_field]
  show x.toNat + 256 * y.toNat = 0
  omega

/-- **The comparison says the same as the one's complement sum, unless the sum is right and
the stored checksum is zero.**  The comparisons of `is_packet_valid` over the IP header,
and over the ICMP and the OSPF part up to the end of the frame, are of this form. -/
theorem checksum_accepted_iff (d : List UInt8) (k : ℕ) (heven : k % 2 = 0)
    (hk : k + 2 ≤ d.length) (hmax : d.length ≤ 65535) :
    ((recomputed d k = load16 d k ↔ onesComplementSum d = 0xffff) ↔
      load16 d k ≠ 0 ∨ onesComplementSum d ≠ 0xffff) ∧
    ∀ p : Frame,
      (34 ≤ p.length → d = slice p 14 20 → k = 10 →
        (ipCksum p = ipSum p ↔ recomputed d k = load16 d k)) ∧
      (38 ≤ p.length → d = p.drop 34 → k = 2 →
        (icmpCksum p (p.length - 34) = icmpSum p ↔ recomputed d k = load16 d k)) ∧
      (58 ≤ p.length → d = p.drop 34 → k = 12 →
        (ospfv2Cksum p (p.length - 34) = ospfCsum p ↔ recomputed d k = load16 d k)) := by
  constructor
  · rw [recomputed_eq_iff heven hk hmax, ne_eq (onesComplementSum d),
      onesComplementSum_eq_ffff_iff]
    have hne := wordSum_ne_zero heven hk
    tauto
  · intro p
    refine ⟨?_, ?_, ?_⟩
    · rintro hlen rfl rfl
      exact ipCksum_eq_ipSum_iff hlen
    · rintro hlen rfl rfl
      exact icmpCksum_eq_icmpSum_iff hlen
    · rintro hlen rfl rfl
      exact ospfv2Cksum_eq_ospfCsum_iff hlen

/-- A UDP packet of 20 bytes whose header sums up to `0xffff` without the checksum, which is
sent as zero. -/
def zeroChecksum : Frame :=
  [0x01, 0x00, 0x00, 0x00, 0x00, 0x01, 0x02, 0x02, 0x02, 0x02, 0x02, 0x02, 0x08, 0x00,
    0x45, 0x00, 0x00, 0x14, 0x64, 0xd7, 0x00, 0x00, 0x40, 0x11, 0x00, 0x00,
    0x0a, 0x00, 0x01, 0x02, 0x0a, 0x00, 0x01, 0x01]

/-- The statement at this header. -/
theorem zeroChecksum_accepted_iff :
    ((recomputed (slice zeroChecksum 14 20) 10 = load16 (slice zeroChecksum 14 20) 10 ↔
        onesComplementSum (slice zeroChecksum 14 20) = 0xffff) ↔
      load16 (slice zeroChecksum 14 20) 10 ≠ 0 ∨
        onesComplementSum (slice zeroChecksum 14 20) ≠ 0xffff) ∧
    (ipCksum zeroChecksum = ipSum zeroChecksum ↔
      recomputed (slice zeroChecksum 14 20) 10 = load16 (slice zeroChecksum 14 20) 10) := by
  have h := checksum_accepted_iff (slice zeroChecksum 14 20) 10 rfl (by decide) (by decide)
  exact ⟨h.1, (h.2 zeroChecksum).1 (by decide) rfl rfl⟩

/-- The header is intact, and the comparison fails. -/
theorem zeroChecksum_rejected :
    onesComplementSum (slice zeroChecksum 14 20) = 0xffff ∧
      ipCksum zeroChecksum ≠ ipSum zeroChecksum ∧ isPacketValid zeroChecksum = false := by
  decide

end Redes
