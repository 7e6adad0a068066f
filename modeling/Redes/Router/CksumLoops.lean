import Redes.Lib.Logged
import Redes.Router.Frame

/-!
# The loops of `cksum`

`cksum` of `sr_utils.c`, which is the same in both programs, with the additions to its 32-bit
`sum`: one for each word of the string, one for an odd last byte, and one for each turn of the
loop that folds the carries.

## Main definitions

* `Addition`, `Addition.Fits` — an addition, and that it does not overflow.
* `sumWords`, `foldLoop`, `cksumLoops` — the loops, and the function.

## Main results

* `ending_cksumLoops` — two turns of the second loop are enough, and the function is `cksum`.
* `cksum_eq_checksum` — the value is the checksum in network order.
-/

namespace Redes

open Logged OnesComplement

/-! ### The function -/

/-- An addition to `sum`. -/
structure Addition where
  /-- What is there. -/
  sum : UInt32
  /-- What is added. -/
  term : UInt32
  deriving DecidableEq

/-- It does not overflow. -/
def Addition.Fits (a : Addition) : Prop := a.sum.toNat + a.term.toNat < 2 ^ 32

/-- A computation that adds. -/
abbrev Summing := Logged Addition Halt

/-- `sum + term`. -/
def addTo (sum term : UInt32) : Summing UInt32 := emit [⟨sum, term⟩] (sum + term)

/-- `data[0] << 8 | data[1]`. -/
def word (x y : UInt8) : UInt32 := x.toUInt32 <<< 8 ||| y.toUInt32

/-- The loop over the words of a string, and the odd last byte. -/
def sumWords : List UInt8 → UInt32 → Summing UInt32
  | x :: y :: data, sum => do
      let sum ← addTo sum (word x y)
      sumWords data sum
  | [x], sum => addTo sum (x.toUInt32 <<< 8)
  | [], sum => pure sum

/-- The loop that folds the carries. -/
def foldLoop : ℕ → UInt32 → Summing UInt32
  | 0, sum => if 0xffff < sum then halt .outOfFuel else pure sum
  | fuel + 1, sum =>
      if 0xffff < sum then do
        let sum ← addTo (sum >>> 16) (sum &&& 0xffff)
        foldLoop fuel sum
      else pure sum

/-- `cksum`. -/
def cksumLoops (fuel : ℕ) (data : List UInt8) : Summing UInt16 := do
  let sum ← sumWords data 0
  let sum ← foldLoop fuel sum
  let sum := (htons (~~~sum).toUInt16).toUInt32
  pure (if sum ≠ 0 then sum.toUInt16 else 0xffff)

/-! ### Terms -/

theorem word_eq (x y : UInt8) : word x y = UInt32.ofNat (x.toNat * 256 + y.toNat) := by
  have hx := x.toNat_lt
  have hy := y.toNat_lt
  apply UInt32.toNat_inj.mp
  have hor : x.toNat <<< 8 ||| y.toNat = x.toNat <<< 8 + y.toNat :=
    (Nat.shiftLeft_add_eq_or_of_lt hy x.toNat).symm
  have hshift : x.toNat <<< 8 = x.toNat * 256 := Nat.shiftLeft_eq _ _
  have hfits : x.toNat <<< 8 % 2 ^ 32 = x.toNat <<< 8 := Nat.mod_eq_of_lt (by omega)
  rw [word, UInt32.toNat_or, UInt32.toNat_shiftLeft, UInt8.toNat_toUInt32, UInt8.toNat_toUInt32,
    UInt32.toNat_ofNat']
  show x.toNat <<< 8 % 2 ^ 32 ||| y.toNat = _
  rw [hfits, hor]
  omega

/-- An odd last byte counts as if a zero came behind it. -/
theorem lastByte_eq (x : UInt8) : x.toUInt32 <<< 8 = UInt32.ofNat (x.toNat * 256) := by
  have h := word_eq x 0
  rw [word] at h
  simpa using h

/-- The halves of the sum. -/
theorem halves_toNat (sum : UInt32) : (sum >>> 16).toNat = sum.toNat / 0x10000 ∧
    (sum &&& 0xffff).toNat = sum.toNat % 0x10000 := by
  constructor
  · rw [UInt32.toNat_shiftRight]
    exact Nat.shiftRight_eq_div_pow _ _
  · rw [UInt32.toNat_and]
    exact Nat.and_two_pow_sub_one_eq_mod _ 16

/-! ### The sum of the words -/

/-- **The sum wraps around.** -/
theorem ending_sumWords (data : List UInt8) (sum : UInt32) :
    (sumWords data sum).ending = .ok (sum + UInt32.ofNat (wordSum data)) := by
  induction data, sum using sumWords.induct with
  | case1 x y data sum ih =>
    rw [sumWords, ending_bind]
    show (sumWords data (sum + word x y)).ending = _
    rw [ih, word_eq, wordSum_cons_cons, UInt32.ofNat_add _ (wordSum data), UInt32.add_assoc]
  | case2 x sum =>
    rw [sumWords, lastByte_eq]
    rfl
  | case3 sum =>
    rw [sumWords, wordSum_nil]
    simp

/-- **It does not overflow if the plain sum does not.** -/
theorem all_fits_sumWords (data : List UInt8) (sum : UInt32)
    (h : sum.toNat + wordSum data < 2 ^ 32) : All Addition.Fits (sumWords data sum) := by
  induction data, sum using sumWords.induct with
  | case1 x y data sum ih =>
    rw [wordSum_cons_cons] at h
    have hword : (word x y).toNat = x.toNat * 256 + y.toNat := by
      rw [word_eq, UInt32.toNat_ofNat']
      omega
    have hadd : (sum + word x y).toNat = sum.toNat + (word x y).toNat := by
      rw [UInt32.toNat_add]
      omega
    rw [sumWords, all_bind_iff rfl, addTo, all_emit_iff, List.forall_mem_singleton]
    refine ⟨?_, ih _ ?_⟩
    · show sum.toNat + (word x y).toNat < 2 ^ 32
      omega
    · rw [hadd]
      omega
  | case2 x sum =>
    have hlast : (x.toUInt32 <<< 8).toNat = x.toNat * 256 := by
      have := x.toNat_lt
      rw [lastByte_eq, UInt32.toNat_ofNat']
      omega
    rw [sumWords, addTo, all_emit_iff, List.forall_mem_singleton]
    show sum.toNat + (x.toUInt32 <<< 8).toNat < 2 ^ 32
    rw [hlast]
    exact h
  | case3 sum =>
    rw [sumWords]
    exact all_pure sum

/-! ### The carries -/

/-- Folding never overflows. -/
theorem all_fits_foldLoop (fuel : ℕ) (sum : UInt32) : All Addition.Fits (foldLoop fuel sum) := by
  induction fuel generalizing sum with
  | zero =>
    rw [foldLoop]
    split
    · exact all_silent _
    · exact all_pure sum
  | succ fuel ih =>
    rw [foldLoop]
    split
    · obtain ⟨hhigh, hlow⟩ := halves_toNat sum
      have hsum := sum.toNat_lt
      have hfits : Addition.Fits ⟨sum >>> 16, sum &&& 0xffff⟩ := by
        show (sum >>> 16).toNat + (sum &&& 0xffff).toNat < 2 ^ 32
        omega
      exact All.bind (all_emit_iff.mpr (List.forall_mem_singleton.mpr hfits)) ih
    · exact all_pure sum

/-- **The loop ends when the carries are folded.** -/
theorem ending_foldLoop {fuel : ℕ} {sum : UInt32} (h : foldCarries fuel sum.toNat ≤ 0xffff) :
    (foldLoop fuel sum).ending = .ok (UInt32.ofNat (foldCarries fuel sum.toNat)) := by
  have hiff : ∀ sum : UInt32, 0xffff < sum ↔ 0xffff < sum.toNat := fun _ => UInt32.lt_iff_toNat_lt
  induction fuel generalizing sum with
  | zero =>
    have hnot : ¬ 0xffff < sum := by
      rw [hiff]
      exact Nat.not_lt_of_le h
    rw [foldLoop, if_neg hnot, foldCarries, UInt32.ofNat_toNat]
    rfl
  | succ fuel ih =>
    rw [foldLoop]
    rw [foldCarries] at h ⊢
    by_cases hcarry : 0xffff < sum.toNat
    · obtain ⟨hhigh, hlow⟩ := halves_toNat sum
      have hsum := sum.toNat_lt
      have hadd : ((sum >>> 16) + (sum &&& 0xffff)).toNat =
          sum.toNat / 0x10000 + sum.toNat % 0x10000 := by
        rw [UInt32.toNat_add, hhigh, hlow]
        omega
      rw [if_pos hcarry] at h ⊢
      rw [if_pos ((hiff sum).mpr hcarry), ending_bind]
      show (foldLoop fuel ((sum >>> 16) + (sum &&& 0xffff))).ending = _
      rw [← hadd] at h ⊢
      exact ih h
    · rw [if_neg hcarry, if_neg ((hiff sum).not.mpr hcarry), UInt32.ofNat_toNat]
      rfl

/-! ### The value -/

/-- **Two turns of the second loop are enough**, and the function is `cksum`. -/
theorem ending_cksumLoops {fuel : ℕ} (hfuel : 2 ≤ fuel) (data : List UInt8) :
    (cksumLoops fuel data).ending = .ok (cksum data) := by
  obtain ⟨n, rfl⟩ := Nat.exists_eq_add_of_le' hfuel
  have hsum : (0 + UInt32.ofNat (wordSum data)).toNat = wordSum data % 2 ^ 32 := by
    rw [UInt32.zero_add, UInt32.toNat_ofNat']
  have hlt : wordSum data % 2 ^ 32 < 2 ^ 32 := Nat.mod_lt _ (Nat.two_pow_pos 32)
  have hle := foldCarries_le hlt n
  have hfold : (foldLoop (n + 2) (0 + UInt32.ofNat (wordSum data))).ending =
      .ok (UInt32.ofNat (foldCarries (n + 2) (wordSum data % 2 ^ 32))) := by
    rw [← hsum] at hle ⊢
    exact ending_foldLoop hle
  rw [cksumLoops, ending_bind, ending_sumWords]
  show (foldLoop (n + 2) (0 + UInt32.ofNat (wordSum data)) >>= _).ending = _
  rw [ending_bind, hfold, cksum, foldCarries_eq hlt 1 n]
  generalize foldCarries (n + 2) (wordSum data % 2 ^ 32) = f at hle
  -- the complement is cut to its low 16 bits
  have hnot : (~~~UInt32.ofNat f).toUInt16 = UInt16.ofNat (0xffffffff - f) := by
    apply UInt16.toNat_inj.mp
    rw [UInt32.toNat_toUInt16, UInt32.toNat_not, UInt32.toNat_ofNat', UInt16.toNat_ofNat',
      Nat.mod_eq_of_lt (show f < 2 ^ 32 by omega)]
    rfl
  show Except.ok _ = Except.ok _
  simp only [hnot]
  generalize htons (UInt16.ofNat (0xffffffff - f)) = c
  have hzero : c.toUInt32 = 0 ↔ c = 0 := by
    rw [← UInt32.toNat_inj, ← UInt16.toNat_inj, UInt16.toNat_toUInt32]
    rfl
  by_cases hc : c = 0
  · simp [hc]
  · simp [hc, hzero]

/-- **The value is the checksum in network order.** -/
theorem cksum_eq_checksum {data : List UInt8} (h : data.length ≤ 131070) :
    cksum data = htons (checksum data) := by
  obtain ⟨hle, -, -⟩ := onesComplementSum_spec data
  have hnot : UInt16.ofNat (0xffffffff - onesComplementSum data) =
      ~~~UInt16.ofNat (onesComplementSum data) := by
    apply UInt16.toNat_inj.mp
    rw [UInt16.toNat_not, UInt16.toNat_ofNat', UInt16.toNat_ofNat',
      Nat.mod_eq_of_lt (show onesComplementSum data < 2 ^ 16 by omega)]
    show _ = 0xffff - onesComplementSum data
    omega
  rw [cksum, Nat.mod_eq_of_lt (wordSum_lt h), foldCarries_wordSum (wordSum_lt h) 1, checksum]
  simp only [hnot]
  by_cases hc : ~~~UInt16.ofNat (onesComplementSum data) = 0
  · rw [if_pos ((htons_eq_zero_iff _).mpr hc), if_pos hc]
    rfl
  · rw [if_neg ((htons_eq_zero_iff _).not.mpr hc), if_neg hc]

/-- Strings of up to 65535 words do not overflow the sum, however many turns are made. -/
theorem all_fits_cksumLoops {data : List UInt8} (h : data.length ≤ 131070) (fuel : ℕ) :
    All Addition.Fits (cksumLoops fuel data) := by
  have hsum : (0 : UInt32).toNat + wordSum data < 2 ^ 32 := by
    rw [UInt32.toNat_zero, Nat.zero_add]
    exact wordSum_lt h
  refine (all_fits_sumWords data 0 hsum).bind fun sum => ?_
  exact (all_fits_foldLoop fuel sum).bind fun _ => all_pure _

/-- **No addition overflows, the loop that folds the carries ends after at most two turns, and
the value is the checksum in network order**: its high byte comes first in memory. -/
theorem cksum_computes_checksum (data : List UInt8) (h : data.length ≤ 65535) :
    (∀ fuel, ∀ a ∈ (cksumLoops fuel data).log, a.Fits) ∧
      (∀ fuel, 2 ≤ fuel → (cksumLoops fuel data).ending = .ok (cksum data)) ∧
      cksum data = htons (checksum data) ∧
      Bytes.bytes16 (cksum data) =
        [UInt8.ofNat ((checksum data).toNat / 256), UInt8.ofNat ((checksum data).toNat % 256)] := by
  have hlen : data.length ≤ 131070 := by omega
  have hvalue := cksum_eq_checksum hlen
  refine ⟨all_fits_cksumLoops hlen, fun fuel hfuel => ending_cksumLoops hfuel data, hvalue, ?_⟩
  rw [hvalue, bytes16_htons]

/-- Three bytes whose sum has a carry. -/
def oddBytes : List UInt8 := [0xff, 0xff, 0x01]

/-- Their checksum is `0xfeff`. -/
theorem cksum_computes_checksum_oddBytes :
    (∀ a ∈ (cksumLoops 2 oddBytes).log, a.Fits) ∧
      (cksumLoops 2 oddBytes).ending = .ok 0xfffe ∧ checksum oddBytes = 0xfeff ∧
      Bytes.bytes16 (cksum oddBytes) = [0xfe, 0xff] := by
  obtain ⟨hfits, hends, -, hbytes⟩ := cksum_computes_checksum oddBytes (by decide)
  have hchecksum : checksum oddBytes = 0xfeff := by decide
  have hcksum : cksum oddBytes = 0xfffe := by decide
  refine ⟨hfits 2, hcksum ▸ hends 2 (Nat.le_refl 2), hchecksum, ?_⟩
  rw [hbytes, hchecksum]
  rfl

end Redes
