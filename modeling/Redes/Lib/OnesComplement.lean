import Mathlib.Algebra.GroupWithZero.Nat
import Mathlib.Algebra.Order.Group.Nat
import Mathlib.Data.List.Basic
import Mathlib.Tactic.Common

/-!
# Sums of words with end-around carry

The sum of the 16-bit words of a string of bytes, with the carries folded back in, is
determined by the plain sum modulo `0xffff` and by whether that sum is zero.

## Main definitions

* `wordSum` — the sum of the big-endian words.
* `foldCarries` — a bounded number of turns of the loop that folds the carries.
* `endAroundAdd`, `onesComplementSum` — the sum that adds each carry back in.
* `checksum` — its complement, with zero as `0xffff`.

## Main results

* `wordSum_append` — sums over a string cut at a word boundary.
* `foldCarries_mod`, `foldCarries_le` — what folding leaves.
* `onesComplementSum_eq_ffff_iff` — the sum that says a string is intact.
* `foldCarries_wordSum` — folding the plain sum gives the one's complement sum.
-/

namespace OnesComplement

/-- The sum of the big-endian 16-bit words; an odd last byte is a high byte. -/
def wordSum : List UInt8 → ℕ
  | [] => 0
  | [x] => x.toNat * 256
  | x :: y :: rest => x.toNat * 256 + y.toNat + wordSum rest

/-- At most `n` turns of the loop that adds the carries to the low 16 bits. -/
def foldCarries : ℕ → ℕ → ℕ
  | 0, s => s
  | n + 1, s => if 0xffff < s then foldCarries n (s / 0x10000 + s % 0x10000) else s

/-- The big-endian 16-bit words of a string; an odd last byte is a high byte. -/
def words : List UInt8 → List ℕ
  | [] => []
  | [x] => [x.toNat * 256]
  | x :: y :: rest => (x.toNat * 256 + y.toNat) :: words rest

/-- One's complement addition of 16-bit words: a carry out of the top is added at the
bottom. -/
def endAroundAdd (a b : ℕ) : ℕ := (a + b) % 0x10000 + (a + b) / 0x10000

/-- The one's complement sum of the words of a string. -/
def onesComplementSum (d : List UInt8) : ℕ := (words d).foldl endAroundAdd 0

/-- The checksum of a string: the complement of the sum of its words, with `0xffff` for zero. -/
def checksum (d : List UInt8) : UInt16 :=
  let c := ~~~UInt16.ofNat (onesComplementSum d)
  if c = 0 then 0xffff else c

@[simp] theorem wordSum_nil : wordSum [] = 0 := rfl

@[simp] theorem wordSum_cons_cons (x y : UInt8) (rest : List UInt8) :
    wordSum (x :: y :: rest) = x.toNat * 256 + y.toNat + wordSum rest := rfl

/-- **The sum over a string cut at a word boundary.** -/
theorem wordSum_append {a : List UInt8} (b : List UInt8) (h : a.length % 2 = 0) :
    wordSum (a ++ b) = wordSum a + wordSum b := by
  induction a using wordSum.induct with
  | case1 => simp
  | case2 x => simp at h
  | case3 x y rest ih =>
    have hrest : rest.length % 2 = 0 := by
      simp only [List.length_cons] at h
      omega
    rw [List.cons_append, List.cons_append, wordSum_cons_cons, wordSum_cons_cons, ih hrest]
    omega

theorem wordSum_le (a : List UInt8) : wordSum a ≤ 0xffff * ((a.length + 1) / 2) := by
  induction a using wordSum.induct with
  | case1 => simp
  | case2 x =>
    have := x.toNat_lt
    simp only [wordSum, List.length_cons, List.length_nil]
    omega
  | case3 x y rest ih =>
    have hx := x.toNat_lt
    have hy := y.toNat_lt
    simp only [wordSum_cons_cons, List.length_cons]
    have hlen : (rest.length + 1 + 1 + 1) / 2 = (rest.length + 1) / 2 + 1 := by omega
    rw [hlen]
    omega

/-- Strings of up to 65535 words do not overflow a 32-bit sum. -/
theorem wordSum_lt {a : List UInt8} (h : a.length ≤ 131070) : wordSum a < 2 ^ 32 := by
  have hle := wordSum_le a
  have hhalf : (a.length + 1) / 2 ≤ 65535 := by omega
  omega

/-! ### The sum with end-around carry -/

theorem sum_words (d : List UInt8) : (words d).sum = wordSum d := by
  induction d using words.induct with
  | case1 => rfl
  | case2 x => simp [words, wordSum]
  | case3 x y rest ih => rw [words, List.sum_cons, ih, wordSum_cons_cons]

theorem words_le {d : List UInt8} {w : ℕ} (hw : w ∈ words d) : w ≤ 0xffff := by
  induction d using words.induct with
  | case1 => simp [words] at hw
  | case2 x =>
    have := x.toNat_lt
    obtain rfl : w = x.toNat * 256 := by simpa [words] using hw
    omega
  | case3 x y rest ih =>
    have := x.toNat_lt
    have := y.toNat_lt
    rcases List.mem_cons.mp hw with rfl | hw
    · omega
    · exact ih hw

/-- A sum of words stays a word, has the residue of the plain sum, and is zero only if
that is. -/
theorem foldl_endAroundAdd {ws : List ℕ} (hws : ∀ w ∈ ws, w ≤ 0xffff) {a : ℕ} (ha : a ≤ 0xffff) :
    ws.foldl endAroundAdd a ≤ 0xffff ∧
      ws.foldl endAroundAdd a % 0xffff = (a + ws.sum) % 0xffff ∧
      (ws.foldl endAroundAdd a = 0 ↔ a + ws.sum = 0) := by
  induction ws generalizing a with
  | nil => exact ⟨ha, by simp, by simp⟩
  | cons w ws ih =>
    have hw : w ≤ 0xffff := hws w List.mem_cons_self
    have hadd : endAroundAdd a w ≤ 0xffff ∧ endAroundAdd a w % 0xffff = (a + w) % 0xffff ∧
        (endAroundAdd a w = 0 ↔ a + w = 0) := by
      unfold endAroundAdd
      omega
    obtain ⟨hle, hmod, hzero⟩ := ih (fun v hv => hws v (List.mem_cons_of_mem w hv)) hadd.1
    rw [List.foldl_cons, List.sum_cons]
    refine ⟨hle, ?_, ?_⟩
    · rw [hmod, Nat.add_mod, hadd.2.1, ← Nat.add_mod, Nat.add_assoc]
    · rw [hzero]
      omega

/-- The one's complement sum in terms of the plain sum. -/
theorem onesComplementSum_spec (d : List UInt8) :
    onesComplementSum d ≤ 0xffff ∧ onesComplementSum d % 0xffff = wordSum d % 0xffff ∧
      (onesComplementSum d = 0 ↔ wordSum d = 0) := by
  have h := foldl_endAroundAdd (fun w hw => words_le (d := d) hw) (Nat.zero_le 0xffff)
  rwa [Nat.zero_add, sum_words] at h

/-- **The one's complement sum is `0xffff` exactly if the plain sum is a multiple of
`0xffff` other than zero.** -/
theorem onesComplementSum_eq_ffff_iff (d : List UInt8) :
    onesComplementSum d = 0xffff ↔ wordSum d % 0xffff = 0 ∧ wordSum d ≠ 0 := by
  obtain ⟨hle, hmod, hzero⟩ := onesComplementSum_spec d
  omega

/-! ### Folding the carries -/

/-- **Folding keeps the sum modulo `0xffff`.** -/
theorem foldCarries_mod (n s : ℕ) : foldCarries n s % 0xffff = s % 0xffff := by
  induction n generalizing s with
  | zero => rfl
  | succ n ih =>
    rw [foldCarries]
    split
    · rw [ih]
      omega
    · rfl

/-- **Two turns are enough for 32 bits.** -/
theorem foldCarries_le {s : ℕ} (h : s < 2 ^ 32) (n : ℕ) : foldCarries (n + 2) s ≤ 0xffff := by
  have hsmall : ∀ k s, s ≤ 0xffff → foldCarries k s ≤ 0xffff := by
    intro k
    induction k with
    | zero => exact fun s hs => hs
    | succ k ih =>
      intro s hs
      rw [foldCarries, if_neg (by omega)]
      exact hs
  rw [foldCarries]
  split
  · rw [foldCarries]
    split
    · exact hsmall n _ (by omega)
    · omega
  · omega

/-- Folding leaves zero only of zero. -/
theorem foldCarries_eq_zero_iff (n s : ℕ) : foldCarries n s = 0 ↔ s = 0 := by
  induction n generalizing s with
  | zero => exact Iff.rfl
  | succ n ih =>
    rw [foldCarries]
    split
    · rw [ih]
      omega
    · exact Iff.rfl

/-- More than two turns change nothing. -/
theorem foldCarries_eq {s : ℕ} (h : s < 2 ^ 32) (m n : ℕ) :
    foldCarries (m + 2) s = foldCarries (n + 2) s := by
  have hm := foldCarries_le h m
  have hn := foldCarries_le h n
  have hmod := (foldCarries_mod (m + 2) s).trans (foldCarries_mod (n + 2) s).symm
  have hzero := (foldCarries_eq_zero_iff (m + 2) s).trans (foldCarries_eq_zero_iff (n + 2) s).symm
  omega

/-- **Folding the plain sum gives the one's complement sum**: of the two zeros, both give the
one that says whether there is anything to sum up. -/
theorem foldCarries_wordSum {d : List UInt8} (h : wordSum d < 2 ^ 32) (n : ℕ) :
    foldCarries (n + 2) (wordSum d) = onesComplementSum d := by
  obtain ⟨hle, hmod, hzero⟩ := onesComplementSum_spec d
  have hfold := foldCarries_le h n
  have hfoldMod := foldCarries_mod (n + 2) (wordSum d)
  have hfoldZero := foldCarries_eq_zero_iff (n + 2) (wordSum d)
  omega

end OnesComplement
