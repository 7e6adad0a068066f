import Mathlib.Algebra.Group.Nat.Defs
import Redes.Lib.FirstMax
import Redes.Router.RoutingTable

/-!
# The lookup and the longest matching prefix

`sr_find_rt_entry` is the scan for the first of the greatest set-bit counts among the
matching entries, started with the bound zero.  Zero is also the number of set bits of
the mask of a default route, so a default route is never taken.

## Main definitions

* `SrRt.Matches`, `SrRt.prefixLen` — when an entry matches, and the number of set bits of
  its mask.
* `IsLongestMatch` — the answer a lookup is meant to give.

## Main results

* `countSetBits_ntohl` — `count_set_bits` counts the set bits.
* `srFindRtEntry_eq` — what the lookup finds.
* `isLongestMatch_srFindRtEntry_iff` — when that is the longest match.
-/

namespace Redes

open FirstMax

/-- An entry matches an address that agrees with its destination under its mask. -/
def SrRt.Matches (ip : IpAddr) (e : SrRt) : Prop := e.mask &&& ip = e.dest &&& e.mask

instance (ip : IpAddr) (e : SrRt) : Decidable (e.Matches ip) :=
  inferInstanceAs (Decidable (e.mask &&& ip = e.dest &&& e.mask))

/-- The number of set bits of a mask. -/
def setBits (mask : IpAddr) : ℕ := mask.toBitVec.cpop.toNat

/-- The length of an entry's prefix. -/
def SrRt.prefixLen (e : SrRt) : ℕ := setBits e.mask

/-- What a lookup is meant to give: nothing if no entry matches, and otherwise the first
of the matching entries with the most set bits in the mask. -/
def IsLongestMatch (table : List SrRt) (ip : IpAddr) : Option SrRt → Prop
  | none => ∀ e ∈ table, ¬ e.Matches ip
  | some e => IsFirstMax SrRt.prefixLen (table.filter fun e => e.Matches ip) e

/-! ### Counting set bits -/

/-- The low bit and the bits above it. -/
theorem setBits_shiftRight (mask : IpAddr) :
    setBits mask = (mask &&& 1).toNat + setBits (mask >>> 1) := by
  have hlow : mask.toBitVec = (mask.toBitVec.extractLsb' 1 31).concat mask.toBitVec[0] := by
    ext i hi
    simp only [BitVec.getElem_concat, BitVec.getElem_extractLsb']
    grind
  have hhigh : (mask >>> 1).toBitVec = BitVec.cons false (mask.toBitVec.extractLsb' 1 31) := by
    ext i hi
    simp [BitVec.getElem_cons]
    grind
  have hbit : (mask &&& 1).toNat = mask.toBitVec[0].toNat := by
    have hmod : mask.toBitVec[0].toNat = mask.toNat % 2 := by
      rw [BitVec.getElem_eq_testBit_toNat, Nat.toNat_testBit, UInt32.toNat_toBitVec]
      simp
    rw [hmod, UInt32.toNat_and]
    exact Nat.and_one_is_mod _
  rw [setBits, setBits, hhigh, BitVec.toNat_cpop_cons, hbit]
  conv_lhs => rw [hlow]
  rw [BitVec.toNat_cpop_concat]
  simp

theorem setBits_le (mask : IpAddr) : setBits mask ≤ 32 := BitVec.toNat_cpop_le _

theorem cpop_eq_zero {w : ℕ} {x : BitVec w} (h : x.cpop.toNat = 0) : x = 0#w := by
  induction w with
  | zero => exact BitVec.eq_of_zero_length rfl
  | succ w ih =>
    rw [← BitVec.cons_msb_setWidth x, BitVec.toNat_cpop_cons] at h
    have hmsb : x.msb = false := by
      cases hx : x.msb
      · rfl
      · rw [hx, Bool.toNat_true] at h
        omega
    rw [← BitVec.cons_msb_setWidth x, ih (by omega : (x.setWidth w).cpop.toNat = 0), hmsb]
    exact BitVec.false_cons_zero

theorem setBits_eq_zero {mask : IpAddr} : setBits mask = 0 ↔ mask = 0 := by
  constructor
  · exact fun h => UInt32.toBitVec_inj.mp (cpop_eq_zero h)
  · rintro rfl
    rfl

theorem prefixLen_eq_zero {e : SrRt} : e.prefixLen = 0 ↔ e.mask = 0 := setBits_eq_zero

theorem countSetBitsLoop_toNat (n : ℕ) (mask : UInt32) (h : mask.toNat < 2 ^ n) :
    (countSetBitsLoop n mask).toNat = setBits mask := by
  induction n generalizing mask with
  | zero =>
    obtain rfl : mask = 0 := UInt32.toNat_inj.mp (by simpa using h)
    rfl
  | succ n ih =>
    rw [countSetBitsLoop]
    split
    next hzero => rw [hzero]; rfl
    next =>
      have hshift : (mask >>> 1).toNat < 2 ^ n := by
        show mask.toNat >>> 1 < 2 ^ n
        rw [Nat.shiftRight_eq_div_pow]
        omega
      have hle := setBits_le mask
      rw [UInt32.toNat_add, ih _ hshift, ← setBits_shiftRight]
      exact Nat.mod_eq_of_lt (by omega)

theorem getLsbD_ff00 (j : ℕ) : (0xff00#32).getLsbD j = decide (8 ≤ j ∧ j < 16) := by
  by_cases hj : j < 32
  · revert hj
    revert j
    decide
  · rw [BitVec.getLsbD_of_ge _ _ (by omega)]
    simp
    omega

/-- `ntohl` takes the bytes in reverse order. -/
theorem toBitVec_ntohl (x : UInt32) :
    (ntohl x).toBitVec = x.toBitVec.extractLsb' 0 8 ++ x.toBitVec.extractLsb' 8 8 ++
      x.toBitVec.extractLsb' 16 8 ++ x.toBitVec.extractLsb' 24 8 := by
  apply BitVec.eq_of_getLsbD_eq
  intro i hi
  simp only [BitVec.getLsbD_append, ntohl, UInt32.toBitVec_or, UInt32.toBitVec_shiftLeft,
    UInt32.toBitVec_and, UInt32.toBitVec_shiftRight, BitVec.getLsbD_or, BitVec.getLsbD_extractLsb']
  simp
  grind [getLsbD_ff00]

theorem toBitVec_eq_bytes (x : UInt32) :
    x.toBitVec = x.toBitVec.extractLsb' 24 8 ++ x.toBitVec.extractLsb' 16 8 ++
      x.toBitVec.extractLsb' 8 8 ++ x.toBitVec.extractLsb' 0 8 := by
  apply BitVec.eq_of_getLsbD_eq
  intro i hi
  simp only [BitVec.getLsbD_append, BitVec.getLsbD_extractLsb']
  grind

/-- The order of the bytes does not change the number of set bits. -/
theorem setBits_ntohl (mask : IpAddr) : setBits (ntohl mask) = setBits mask := by
  have hbytes := congrArg (fun x => (BitVec.cpop x).toNat) (toBitVec_eq_bytes mask)
  simp only [BitVec.toNat_cpop_append] at hbytes
  rw [setBits, setBits, toBitVec_ntohl, hbytes]
  simp only [BitVec.toNat_cpop_append]
  omega

/-- **`count_set_bits` counts the set bits of a mask in network order.** -/
theorem countSetBits_ntohl (mask : IpAddr) : (countSetBits (ntohl mask)).toNat = setBits mask := by
  rw [countSetBits, countSetBitsLoop_toNat 32 _ (UInt32.toNat_lt _), setBits_ntohl]

/-! ### The lookup -/

/-- The loop is the scan over the matching entries. -/
theorem srFindRtEntryLoop_eq (ip : IpAddr) (table : List SrRt) (best : Option SrRt)
    (len : UInt32) :
    srFindRtEntryLoop ip table (best, len) =
      FirstMax.scan SrRt.prefixLen len.toNat best (table.filter fun e => e.Matches ip) := by
  induction table generalizing best len with
  | nil => rfl
  | cons e rest ih =>
    have hbits : (countSetBits (ntohl e.mask)).toNat = e.prefixLen := countSetBits_ntohl e.mask
    have hlen : len < countSetBits (ntohl e.mask) ↔ len.toNat < e.prefixLen := by
      rw [UInt32.lt_iff_toNat_lt, hbits]
    rw [srFindRtEntryLoop]
    by_cases hm : e.Matches ip
    · rw [List.filter_cons_of_pos (by simpa using hm), scan_cons]
      by_cases hlt : len.toNat < e.prefixLen
      · rw [if_pos ⟨hm, hlen.mpr hlt⟩, if_pos hlt, ih, hbits]
      · rw [if_neg fun h => hlt (hlen.mp h.2), if_neg hlt, ih]
    · rw [List.filter_cons_of_neg (by simpa using hm), if_neg fun h => hm h.1, ih]

/-- **What the lookup finds**: the first of the matching entries with the most set bits,
if that is at least one. -/
theorem srFindRtEntry_eq (table : List SrRt) (ip : IpAddr) :
    srFindRtEntry table ip =
      ((table.filter fun e => e.Matches ip).argmax SrRt.prefixLen).filter
        fun e => 0 < e.prefixLen := by
  rw [srFindRtEntry, srFindRtEntryLoop_eq, scan_eq, Option.or_none]
  rfl

theorem srFindRtEntry_eq_some_iff {table : List SrRt} {ip : IpAddr} {e : SrRt} :
    srFindRtEntry table ip = some e ↔
      IsFirstMax SrRt.prefixLen (table.filter fun e => e.Matches ip) e ∧
        e.mask ≠ 0 := by
  rw [srFindRtEntry_eq, Option.filter_eq_some_iff, isFirstMax_iff, decide_eq_true_iff,
    Nat.pos_iff_ne_zero, ne_eq, prefixLen_eq_zero]

/-- **The lookup finds nothing exactly when every matching entry has the empty mask.** -/
theorem srFindRtEntry_eq_none_iff {table : List SrRt} {ip : IpAddr} :
    srFindRtEntry table ip = none ↔ ∀ e ∈ table, e.Matches ip → e.mask = 0 := by
  constructor
  · intro h e he hm
    have hmem : e ∈ table.filter fun e => e.Matches ip :=
      List.mem_filter.mpr ⟨he, decide_eq_true hm⟩
    rw [srFindRtEntry_eq, Option.filter_eq_none_iff] at h
    obtain ⟨a, ha⟩ : ∃ a, (table.filter fun e => e.Matches ip).argmax SrRt.prefixLen =
        some a :=
      Option.ne_none_iff_exists'.mp fun hnil =>
        List.ne_nil_of_mem hmem (List.argmax_eq_none.mp hnil)
    have hle : e.prefixLen ≤ a.prefixLen := List.le_of_mem_argmax hmem ha
    have hzero : a.prefixLen = 0 := by simpa using h a ha
    exact prefixLen_eq_zero.mp (by omega)
  · intro h
    cases hfind : srFindRtEntry table ip with
    | none => rfl
    | some e =>
      obtain ⟨hmax, hmask⟩ := srFindRtEntry_eq_some_iff.mp hfind
      have he := List.mem_filter.mp hmax.mem
      exact absurd (h e he.1 (of_decide_eq_true he.2)) hmask

/-- **The lookup gives the longest match exactly when nothing matches or an entry with a
non-empty mask does.** -/
theorem isLongestMatch_srFindRtEntry_iff (table : List SrRt) (ip : IpAddr) :
    IsLongestMatch table ip (srFindRtEntry table ip) ↔
      (∀ e ∈ table, ¬ e.Matches ip) ∨ ∃ e ∈ table, e.Matches ip ∧ e.mask ≠ 0 := by
  cases hfind : srFindRtEntry table ip with
  | none =>
    have hnone := srFindRtEntry_eq_none_iff.mp hfind
    constructor
    · exact Or.inl
    · rintro (h | ⟨e, he, hm, hmask⟩)
      · exact h
      · exact absurd (hnone e he hm) hmask
  | some e =>
    obtain ⟨hmax, hmask⟩ := srFindRtEntry_eq_some_iff.mp hfind
    have he := List.mem_filter.mp hmax.mem
    constructor
    · exact fun _ => Or.inr ⟨e, he.1, of_decide_eq_true he.2, hmask⟩
    · exact fun _ => hmax

/-- A table with a default route alone. -/
def defaultRouteTable : List SrRt := [⟨0, 0x0101000a, 0, ['e', 't', 'h', '1'], 0⟩]

/-- 8.8.8.8 matches the default route, and the lookup finds no entry. -/
theorem not_isLongestMatch_defaultRoute :
    ¬ IsLongestMatch defaultRouteTable 0x08080808
      (srFindRtEntry defaultRouteTable 0x08080808) := by
  have hfind : srFindRtEntry defaultRouteTable 0x08080808 = none := by decide
  rw [hfind]
  exact fun h => h _ List.mem_cons_self (by decide)

end Redes
