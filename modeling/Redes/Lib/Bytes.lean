import Mathlib.Algebra.Order.Group.Nat
import Mathlib.Data.List.Basic
import Mathlib.Tactic.Common

/-!
# Buffers of bytes

A buffer is a list of bytes.  Programs read and write words in it at offsets, in the
order of a little-endian host; writes keep the length, and what falls behind the end is
lost.  A read behind the end gives zero here: programs whose reads may go there read
through `Bytes.readMem`, which takes what follows the buffer as an argument.

## Main definitions

* `load8`, `load16`, `load32`, `slice` — reading.
* `bytes16`, `bytes32`, `store` — writing.
* `number`, `octets` — numbers with their highest byte first.

## Main results

* `load8_store` — a write is seen where it was made and nowhere else.
* `slice_store_self`, `slice_store_of_disjoint` — the same for ranges.
* `load16_bytes16`, `load32_bytes32`, `number_octets` — words and numbers are read back.
-/

namespace Bytes

/-- The byte at an offset. -/
def load8 (b : List UInt8) (i : ℕ) : UInt8 := b.getD i 0

/-- The 16-bit word at an offset, its low byte first. -/
def load16 (b : List UInt8) (i : ℕ) : UInt16 :=
  UInt16.ofNat ((load8 b i).toNat + 256 * (load8 b (i + 1)).toNat)

/-- The 32-bit word at an offset, its lowest byte first. -/
def load32 (b : List UInt8) (i : ℕ) : UInt32 :=
  UInt32.ofNat ((load8 b i).toNat + 256 * ((load8 b (i + 1)).toNat +
    256 * ((load8 b (i + 2)).toNat + 256 * (load8 b (i + 3)).toNat)))

/-- `n` bytes from an offset on. -/
def slice (b : List UInt8) (i n : ℕ) : List UInt8 := (b.drop i).take n

/-- `n` bytes from an offset on, where what follows the buffer is `garbage`. -/
def readMem (garbage : ℕ → UInt8) (b : List UInt8) (i n : ℕ) : List UInt8 :=
  (List.range n).map fun k => b.getD (i + k) (garbage (i + k))

/-- The bytes of a 16-bit word. -/
def bytes16 (v : UInt16) : List UInt8 :=
  [UInt8.ofNat (v.toNat % 256), UInt8.ofNat (v.toNat / 256)]

/-- The bytes of a 32-bit word. -/
def bytes32 (v : UInt32) : List UInt8 :=
  [UInt8.ofNat (v.toNat % 256), UInt8.ofNat (v.toNat / 256 % 256),
    UInt8.ofNat (v.toNat / 65536 % 256), UInt8.ofNat (v.toNat / 16777216)]

/-- The number that bytes are, the highest first. -/
def number (bytes : List UInt8) : ℕ := bytes.foldl (fun n b => 256 * n + b.toNat) 0

/-- A number in `k` bytes, the highest first. -/
def octets : ℕ → ℕ → List UInt8
  | 0, _ => []
  | k + 1, n => octets k (n / 256) ++ [UInt8.ofNat (n % 256)]

/-- Write bytes from an offset on. -/
def store (b : List UInt8) : ℕ → List UInt8 → List UInt8
  | _, [] => b
  | i, x :: xs => (store b (i + 1) xs).set i x

theorem load16_drop (b : List UInt8) (i : ℕ) : load16 (b.drop i) 0 = load16 b i := by
  simp only [load16, load8, List.getD_eq_getElem?_getD, List.getElem?_drop, Nat.add_zero,
    Nat.zero_add]

theorem load32_drop (b : List UInt8) (i : ℕ) : load32 (b.drop i) 0 = load32 b i := by
  simp only [load32, load8, List.getD_eq_getElem?_getD, List.getElem?_drop, Nat.add_zero,
    Nat.zero_add]

/-! ### Lengths -/

@[simp] theorem length_store (b : List UInt8) (i : ℕ) (xs : List UInt8) :
    (store b i xs).length = b.length := by
  induction xs generalizing i with
  | nil => rfl
  | cons x xs ih => rw [store, List.length_set, ih]

@[simp] theorem length_bytes16 (v : UInt16) : (bytes16 v).length = 2 := rfl

@[simp] theorem length_bytes32 (v : UInt32) : (bytes32 v).length = 4 := rfl

theorem length_slice {b : List UInt8} {i n : ℕ} (h : i + n ≤ b.length) :
    (slice b i n).length = n := by
  rw [slice, List.length_take, List.length_drop]
  omega

@[simp] theorem length_readMem (garbage : ℕ → UInt8) (b : List UInt8) (i n : ℕ) :
    (readMem garbage b i n).length = n := by
  rw [readMem, List.length_map, List.length_range]

/-- Bytes inside a buffer do not depend on what follows the buffer. -/
theorem readMem_eq_slice {garbage : ℕ → UInt8} {b : List UInt8} {i n : ℕ} (h : i + n ≤ b.length) :
    readMem garbage b i n = slice b i n := by
  apply List.ext_getElem?
  intro k
  rw [readMem, slice, List.getElem?_map, List.getElem?_take, List.getElem?_drop]
  by_cases hk : k < n
  · rw [List.getElem?_range hk, if_pos hk]
    simp [List.getElem?_eq_getElem (show i + k < b.length by omega)]
  · rw [if_neg hk, List.getElem?_eq_none (by simpa using hk)]
    rfl

/-- A word inside a buffer does not depend on what follows the buffer. -/
theorem load32_readMem {garbage : ℕ → UInt8} {b : List UInt8} {i : ℕ} (h : i + 4 ≤ b.length) :
    load32 (readMem garbage b i 4) 0 = load32 b i := by
  have key : ∀ k, i + k < b.length → b.getD (i + k) (garbage (i + k)) = load8 b (i + k) := by
    intro k hk
    simp [load8, List.getD_eq_getElem?_getD, List.getElem?_eq_getElem hk]
  have h₀ := key 0 (by omega)
  have h₁ := key 1 (by omega)
  have h₂ := key 2 (by omega)
  have h₃ := key 3 (by omega)
  unfold load32 load8 readMem
  simp only [List.range, List.range.loop, List.map_cons, List.map_nil, List.getD_cons_zero,
    List.getD_cons_succ, h₀, h₁, h₂, h₃]
  rfl

/-! ### What a write changes -/

/-- **A write is seen where it was made and nowhere else.** -/
theorem getElem?_store (b xs : List UInt8) (i j : ℕ) :
    (store b i xs)[j]? =
      if i ≤ j ∧ j < i + xs.length ∧ j < b.length then xs[j - i]? else b[j]? := by
  induction xs generalizing i with
  | nil =>
    have hno : ¬ (i ≤ j ∧ j < i + ([] : List UInt8).length ∧ j < b.length) := by
      simp only [List.length_nil]
      omega
    rw [if_neg hno, store]
  | cons x xs ih =>
    rw [store, List.getElem?_set, length_store, ih, List.length_cons]
    by_cases hij : i = j
    · subst hij
      by_cases hlen : i < b.length
      · rw [if_pos rfl, if_pos hlen, if_pos (by omega), Nat.sub_self]
        rfl
      · rw [if_pos rfl, if_neg hlen, if_neg (by omega), List.getElem?_eq_none (by omega)]
    · rw [if_neg hij]
      by_cases hin : i + 1 ≤ j ∧ j < i + 1 + xs.length ∧ j < b.length
      · have hsub : j - i = (j - (i + 1)) + 1 := by omega
        rw [if_pos hin, if_pos (by omega), hsub, List.getElem?_cons_succ]
      · rw [if_neg hin, if_neg (by omega)]

theorem getElem?_store_of_disjoint {b xs : List UInt8} {i j : ℕ}
    (h : j < i ∨ i + xs.length ≤ j) : (store b i xs)[j]? = b[j]? := by
  rw [getElem?_store, if_neg (by omega)]

@[simp] theorem load8_store_of_disjoint {b xs : List UInt8} {i j : ℕ}
    (h : j < i ∨ i + xs.length ≤ j) : load8 (store b i xs) j = load8 b j := by
  simp only [load8, List.getD_eq_getElem?_getD, getElem?_store_of_disjoint h]

@[simp] theorem load16_store_of_disjoint {b xs : List UInt8} {i j : ℕ}
    (h : j + 2 ≤ i ∨ i + xs.length ≤ j) : load16 (store b i xs) j = load16 b j := by
  rw [load16, load8_store_of_disjoint (by omega), load8_store_of_disjoint (by omega), load16]

@[simp] theorem load32_store_of_disjoint {b xs : List UInt8} {i j : ℕ}
    (h : j + 4 ≤ i ∨ i + xs.length ≤ j) : load32 (store b i xs) j = load32 b j := by
  rw [load32, load8_store_of_disjoint (by omega), load8_store_of_disjoint (by omega),
    load8_store_of_disjoint (by omega), load8_store_of_disjoint (by omega), load32]

theorem load8_store {b xs : List UInt8} {i k : ℕ} (hk : k < xs.length)
    (h : i + xs.length ≤ b.length) : load8 (store b i xs) (i + k) = load8 xs k := by
  simp only [load8, List.getD_eq_getElem?_getD]
  rw [getElem?_store, if_pos (by omega), Nat.add_sub_cancel_left]

/-- The bytes at an offset are those of the word at this offset. -/
theorem load32_congr {a b : List UInt8} {i j : ℕ}
    (h : ∀ k, k < 4 → load8 a (i + k) = load8 b (j + k)) :
    load32 a i = load32 b j := by
  have h₀ := h 0 (by omega)
  rw [Nat.add_zero, Nat.add_zero] at h₀
  rw [load32, load32, h₀, h 1 (by omega), h 2 (by omega), h 3 (by omega)]

/-- **A range written over is what was written.** -/
theorem slice_store_self {b xs : List UInt8} {i : ℕ} (h : i + xs.length ≤ b.length) :
    slice (store b i xs) i xs.length = xs := by
  apply List.ext_getElem?
  intro j
  rw [slice, List.getElem?_take, List.getElem?_drop, getElem?_store]
  by_cases hj : j < xs.length
  · rw [if_pos hj, if_pos (by omega), Nat.add_sub_cancel_left]
  · rw [if_neg hj, List.getElem?_eq_none (by omega)]

/-- **A range apart from a write is as it was.** -/
@[simp] theorem slice_store_of_disjoint {b xs : List UInt8} {i j n : ℕ}
    (h : j + n ≤ i ∨ i + xs.length ≤ j) : slice (store b i xs) j n = slice b j n := by
  apply List.ext_getElem?
  intro k
  rw [slice, slice, List.getElem?_take, List.getElem?_take]
  by_cases hk : k < n
  · rw [if_pos hk, if_pos hk, List.getElem?_drop, List.getElem?_drop,
      getElem?_store_of_disjoint (by omega)]
  · rw [if_neg hk, if_neg hk]

/-- Two ranges one behind the other are one. -/
theorem slice_add (b : List UInt8) (i m n : ℕ) :
    slice b i (m + n) = slice b i m ++ slice b (i + m) n := by
  rw [slice, List.take_add, List.drop_drop]
  rfl

/-- A range and its first byte. -/
theorem slice_succ {b : List UInt8} {i n : ℕ} (h : i < b.length) :
    slice b i (n + 1) = load8 b i :: slice b (i + 1) n := by
  rw [slice, List.drop_eq_getElem_cons h, List.take_succ_cons, load8,
    List.getD_eq_getElem?_getD, List.getElem?_eq_getElem h]
  rfl

/-- The whole buffer. -/
theorem slice_zero_length (b : List UInt8) : slice b 0 b.length = b := List.take_length

/-- A range of the part behind an offset. -/
theorem slice_of_drop {b : List UInt8} {i j n : ℕ} (h : j ≤ i) :
    slice b i n = slice (b.drop j) (i - j) n := by
  rw [slice, slice, List.drop_drop, Nat.add_sub_cancel' h]

/-- Bytes behind a write are as they were. -/
theorem drop_store {b xs : List UInt8} {i n : ℕ} (h : i + xs.length ≤ n) :
    (store b i xs).drop n = b.drop n := by
  apply List.ext_getElem?
  intro k
  rw [List.getElem?_drop, List.getElem?_drop, getElem?_store_of_disjoint (by omega)]

/-- Writes to separate ranges can be made in either order. -/
theorem store_comm {b xs ys : List UInt8} {i j : ℕ}
    (h : i + xs.length ≤ j ∨ j + ys.length ≤ i) :
    store (store b i xs) j ys = store (store b j ys) i xs := by
  apply List.ext_getElem?
  intro k
  simp only [getElem?_store, length_store]
  by_cases hx : i ≤ k ∧ k < i + xs.length ∧ k < b.length
  · have hy : ¬ (j ≤ k ∧ k < j + ys.length ∧ k < b.length) := by omega
    rw [if_neg hy, if_pos hx, if_pos hx]
  · rw [if_neg hx, if_neg hx]

/-- The last of two writes to the same range counts. -/
theorem store_store {b xs ys : List UInt8} {i : ℕ} (h : xs.length = ys.length) :
    store (store b i xs) i ys = store b i ys := by
  apply List.ext_getElem?
  intro k
  simp only [getElem?_store, length_store, h]
  by_cases hx : i ≤ k ∧ k < i + ys.length ∧ k < b.length
  · simp [hx]
  · simp [hx]

/-- Two writes one behind the other are one. -/
theorem store_append (b xs ys : List UInt8) (i : ℕ) :
    store b i (xs ++ ys) = store (store b i xs) (i + xs.length) ys := by
  have hswap : store b i (xs ++ ys) = store (store b (i + xs.length) ys) i xs := by
    induction xs generalizing i with
    | nil => rfl
    | cons x xs ih =>
      rw [List.cons_append, store, ih, store, List.length_cons, Nat.add_right_comm, Nat.add_assoc]
  rw [hswap, store_comm (Or.inr le_rfl)]

/-- What was written up to the end is what is there. -/
theorem drop_store_self {b xs : List UInt8} {i : ℕ} (h : i + xs.length = b.length) :
    (store b i xs).drop i = xs := by
  have hslice := slice_store_self (b := b) h.le
  rwa [slice, List.take_of_length_le] at hslice
  rw [List.length_drop, length_store]
  omega

/-- A range that is copied to where it is in another buffer. -/
theorem getElem?_store_slice {b d : List UInt8} {i n : ℕ} (hlen : d.length = b.length)
    (h : i + n ≤ b.length) (j : ℕ) :
    (store b i (slice d i n))[j]? = if i ≤ j ∧ j < i + n then d[j]? else b[j]? := by
  rw [getElem?_store, length_slice (by omega)]
  by_cases hj : i ≤ j ∧ j < i + n
  · rw [if_pos (by omega), if_pos hj, slice, List.getElem?_take, if_pos (by omega),
      List.getElem?_drop, Nat.add_sub_cancel' hj.1]
  · rw [if_neg (by omega), if_neg hj]

/-! ### Words -/

theorem toNat_ofNat_byte {n : ℕ} (h : n < 256) : (UInt8.ofNat n).toNat = n := by
  simp [Nat.mod_eq_of_lt h]

@[simp] theorem load16_bytes16 (v : UInt16) : load16 (bytes16 v) 0 = v := by
  have hv := v.toNat_lt
  apply UInt16.toNat_inj.mp
  show (UInt16.ofNat ((UInt8.ofNat (v.toNat % 256)).toNat +
    256 * (UInt8.ofNat (v.toNat / 256)).toNat)).toNat = v.toNat
  rw [toNat_ofNat_byte (by omega), toNat_ofNat_byte (by omega), UInt16.toNat_ofNat']
  omega

@[simp] theorem load32_bytes32 (v : UInt32) : load32 (bytes32 v) 0 = v := by
  have hv := v.toNat_lt
  apply UInt32.toNat_inj.mp
  show (UInt32.ofNat ((UInt8.ofNat (v.toNat % 256)).toNat +
    256 * ((UInt8.ofNat (v.toNat / 256 % 256)).toNat +
    256 * ((UInt8.ofNat (v.toNat / 65536 % 256)).toNat +
    256 * (UInt8.ofNat (v.toNat / 16777216)).toNat)))).toNat = v.toNat
  rw [toNat_ofNat_byte (by omega), toNat_ofNat_byte (by omega), toNat_ofNat_byte (by omega),
    toNat_ofNat_byte (by omega), UInt32.toNat_ofNat']
  omega

/-- A word at the start of a string. -/
theorem load32_bytes32_append (v : UInt32) (xs : List UInt8) :
    load32 (bytes32 v ++ xs) 0 = v := by
  have hcongr : load32 (bytes32 v ++ xs) 0 = load32 (bytes32 v) 0 := by
    apply load32_congr
    intro k hk
    have hin : 0 + k < (bytes32 v).length := by
      rw [length_bytes32]
      omega
    simp only [load8, List.getD_eq_getElem?_getD, List.getElem?_append_left hin]
  rw [hcongr, load32_bytes32]

/-- A word that was written is read back. -/
theorem load16_store_bytes16 {b : List UInt8} {i : ℕ} (v : UInt16) (h : i + 2 ≤ b.length) :
    load16 (store b i (bytes16 v)) i = v := by
  have key : ∀ k, k < 2 → load8 (store b i (bytes16 v)) (i + k) = load8 (bytes16 v) k := fun k hk =>
    load8_store (by simpa using hk) (by simpa using h)
  have h₀ := key 0 (by omega)
  rw [Nat.add_zero] at h₀
  rw [load16, h₀, key 1 (by omega)]
  exact load16_bytes16 v

/-- A word that was written is read back. -/
theorem load32_store {b xs : List UInt8} {i : ℕ} (hxs : 4 ≤ xs.length)
    (h : i + xs.length ≤ b.length) : load32 (store b i xs) i = load32 xs 0 := by
  apply load32_congr
  intro k hk
  rw [Nat.zero_add]
  exact load8_store (by omega) h

theorem load32_store_bytes32 {b : List UInt8} {i : ℕ} (v : UInt32) (h : i + 4 ≤ b.length) :
    load32 (store b i (bytes32 v)) i = v := by
  have hxs : 4 ≤ (bytes32 v).length := Nat.le_refl 4
  rw [load32_store hxs h, load32_bytes32]

/-- A byte of a range is a byte of the buffer. -/
theorem load8_slice {b : List UInt8} {i n k : ℕ} (h : k < n) :
    load8 (slice b i n) k = load8 b (i + k) := by
  simp only [load8, slice, List.getD_eq_getElem?_getD]
  rw [List.getElem?_take, if_pos h, List.getElem?_drop]

/-- A word of a range is a word of the buffer. -/
theorem load16_slice {b : List UInt8} {i n k : ℕ} (h : k + 2 ≤ n) :
    load16 (slice b i n) k = load16 b (i + k) := by
  simp only [load16, load8, slice, List.getD_eq_getElem?_getD]
  rw [List.getElem?_take, List.getElem?_take, if_pos (by omega), if_pos (by omega),
    List.getElem?_drop, List.getElem?_drop, Nat.add_assoc]

/-- A word of a range is a word of the buffer. -/
theorem load32_slice {b : List UInt8} {i n k : ℕ} (h : k + 4 ≤ n) :
    load32 (slice b i n) k = load32 b (i + k) := by
  apply load32_congr
  intro j hj
  simp only [load8, slice, List.getD_eq_getElem?_getD]
  rw [List.getElem?_take, if_pos (by omega), List.getElem?_drop, Nat.add_assoc]

/-- A word of a range that is read is read by itself. -/
theorem load32_readMem_readMem {garbage : ℕ → UInt8} {b : List UInt8} {i n k : ℕ} (h : k + 4 ≤ n) :
    load32 (readMem garbage b i n) k = load32 (readMem garbage b (i + k) 4) 0 := by
  apply load32_congr
  intro j hj
  simp only [load8, readMem, List.getD_eq_getElem?_getD]
  rw [List.getElem?_map, List.getElem?_map, List.getElem?_range (by omega),
    List.getElem?_range (by omega)]
  simp only [Nat.zero_add, Nat.add_assoc, Option.map_some]

/-! ### Numbers, the highest byte first -/

@[simp] theorem length_octets (k n : ℕ) : (octets k n).length = k := by
  induction k generalizing n with
  | zero => rfl
  | succ k ih => rw [octets, List.length_append, ih, List.length_singleton]

@[simp] theorem number_octets (k n : ℕ) : number (octets k n) = n % 256 ^ k := by
  induction k generalizing n with
  | zero => rw [Nat.pow_zero, Nat.mod_one]; rfl
  | succ k ih =>
    rw [octets, number, List.foldl_append, ← number, ih, List.foldl_cons, List.foldl_nil,
      toNat_ofNat_byte (Nat.mod_lt _ (by decide)), Nat.pow_succ', Nat.mod_mul, Nat.add_comm]

/-- A number and one more byte are put together with a shift. -/
theorem shiftLeft_or_eq {x b : ℕ} (hb : b < 256) : x <<< 8 ||| b = 256 * x + b := by
  rw [← Nat.shiftLeft_add_eq_or_of_lt (i := 8) hb, Nat.shiftLeft_eq, Nat.mul_comm]

/-- Four bytes are put together with shifts. -/
theorem shifted_eq {a b c d : ℕ} (hb : b < 256) (hc : c < 256) (hd : d < 256) :
    a <<< 24 ||| b <<< 16 ||| c <<< 8 ||| d = 256 * (256 * (256 * a + b) + c) + d := by
  have hor : a <<< 24 ||| b <<< 16 ||| c <<< 8 ||| d =
      ((a <<< 8 ||| b) <<< 8 ||| c) <<< 8 ||| d := by
    simp only [Nat.shiftLeft_or_distrib, ← Nat.shiftLeft_add]
  rw [hor, shiftLeft_or_eq hd, shiftLeft_or_eq hc, shiftLeft_or_eq hb]

end Bytes
