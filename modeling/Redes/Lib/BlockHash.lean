import Mathlib.Data.List.Induction
import Mathlib.Algebra.Order.Group.Nat
import Mathlib.Algebra.BigOperators.Group.List.Basic
import Mathlib.Tactic.Common

/-!
# Hashing block by block

A function that compresses a block into a state hashes a message whose length is a multiple of the
size of a block, one block after the other.  Where the message comes in pieces, what does not
fill a block is kept in a buffer.  Any message is hashed with a padding behind it, which fills the
last block.

If the padding tells the length of the message, two messages with the same hash value lead
through two ways for the function to get to the same state.

## Main definitions

* `BlockHash` — the size of the blocks, and the function.
* `BlockHash.feed` — hashing items as they come.
* `BlockHash.hash` — hashing a message with its padding.
* `BlockHash.Collide` — two sequences of blocks that meet a collision.

## Main results

* `feed_append` — the pieces do not matter.
* `feed_blocks` — hashing as they come is hashing block by block.
* `collide_of_hash_eq` — two messages with the same hash value.
-/

/-- The size of the blocks, and the function that compresses one into a state. -/
structure BlockHash (σ β : Type*) where
  /-- The size of a block. -/
  size : ℕ
  /-- Blocks are not empty. -/
  size_pos : 0 < size
  /-- What a block makes of a state. -/
  compress : σ → List β → σ

namespace BlockHash

variable {σ β : Type*} (H : BlockHash σ β)

/-! ### Hashing items as they come -/

/-- One more item: it fills a block, or it is kept. -/
def push (p : σ × List β) (x : β) : σ × List β :=
  if (p.2 ++ [x]).length = H.size then (H.compress p.1 (p.2 ++ [x]), []) else (p.1, p.2 ++ [x])

/-- Items, one after the other. -/
def feed (p : σ × List β) (m : List β) : σ × List β := m.foldl H.push p

@[simp] theorem feed_nil (p : σ × List β) : H.feed p [] = p := rfl

@[simp] theorem feed_cons (p : σ × List β) (x : β) (m : List β) :
    H.feed p (x :: m) = H.feed (H.push p x) m := rfl

/-- **The pieces do not matter.** -/
theorem feed_append (p : σ × List β) (m m' : List β) :
    H.feed p (m ++ m') = H.feed (H.feed p m) m' := List.foldl_append

theorem push_of_lt {p : σ × List β} (x : β) (h : p.2.length + 1 < H.size) :
    H.push p x = (p.1, p.2 ++ [x]) := by
  unfold push
  rw [if_neg (by simp only [List.length_append, List.length_singleton]; omega)]

theorem push_of_eq {p : σ × List β} (x : β) (h : p.2.length + 1 = H.size) :
    H.push p x = (H.compress p.1 (p.2 ++ [x]), []) := by
  unfold push
  rw [if_pos (by simpa using h)]

/-- Items that do not fill a block are kept. -/
theorem feed_of_lt {p : σ × List β} {m : List β} (h : p.2.length + m.length < H.size) :
    H.feed p m = (p.1, p.2 ++ m) := by
  induction m generalizing p with
  | nil => rw [feed_nil, List.append_nil]
  | cons x m ih =>
    rw [List.length_cons] at h
    rw [feed_cons, H.push_of_lt x (by omega), ih (by simp; omega), List.append_assoc]
    rfl

/-- Items that fill a block. -/
theorem feed_of_eq {p : σ × List β} {m : List β} (hlt : p.2.length < H.size)
    (h : p.2.length + m.length = H.size) :
    H.feed p m = (H.compress p.1 (p.2 ++ m), []) := by
  -- all but the last item are kept, and the last one fills the block
  obtain ⟨m, x, rfl⟩ := List.eq_nil_or_concat' m |>.resolve_left (by
    rintro rfl
    simp at h
    omega)
  rw [List.length_append, List.length_singleton] at h
  rw [feed_append, H.feed_of_lt (p := p) (m := m) (by omega), feed_cons, feed_nil,
    H.push_of_eq x (by simp only [List.length_append]; omega), List.append_assoc]

/-- **Hashing items as they come is hashing block by block.** -/
theorem feed_blocks {s : σ} {blocks : List (List β)} (h : ∀ b ∈ blocks, b.length = H.size) :
    H.feed (s, []) blocks.flatten = (blocks.foldl H.compress s, []) := by
  induction blocks generalizing s with
  | nil => rfl
  | cons b blocks ih =>
    rw [List.flatten_cons, feed_append,
      H.feed_of_eq (p := (s, [])) (m := b) H.size_pos
        (by simpa using h b List.mem_cons_self), List.nil_append]
    exact ih fun c hc => h c (List.mem_cons_of_mem b hc)

/-- A message whose length is a multiple of the size of a block is made of blocks. -/
theorem exists_blocks {m : List β} (h : H.size ∣ m.length) :
    ∃ blocks : List (List β), (∀ b ∈ blocks, b.length = H.size) ∧ blocks.flatten = m ∧
      blocks.length * H.size = m.length := by
  obtain ⟨k, hk⟩ := h
  induction k generalizing m with
  | zero =>
    obtain rfl := List.length_eq_zero_iff.mp (hk.trans (Nat.mul_zero _))
    exact ⟨[], fun b hb => absurd hb List.not_mem_nil, rfl, Nat.zero_mul _⟩
  | succ k ih =>
    rw [Nat.mul_succ] at hk
    obtain ⟨blocks, hsize, hflat, hlen⟩ := ih (m := m.drop H.size) (by
      rw [List.length_drop]
      omega)
    refine ⟨m.take H.size :: blocks, ?_, ?_, ?_⟩
    · intro b hb
      rcases List.mem_cons.mp hb with rfl | hb
      · rw [List.length_take]
        omega
      · exact hsize b hb
    · rw [List.flatten_cons, hflat, List.take_append_drop]
    · rw [List.length_cons, Nat.succ_mul, hlen, List.length_drop]
      omega

/-! ### Messages and their padding -/

/-- Hash a message with the padding that its length asks for. -/
def hash (s : σ) (padding : ℕ → List β) (m : List β) : σ :=
  (H.feed (s, []) (m ++ padding m.length)).1

/-- The states that blocks lead through, each with the block that comes next. -/
def met (s : σ) : List (List β) → List (σ × List β)
  | [] => []
  | b :: blocks => (s, b) :: met (H.compress s b) blocks

/-- Two sequences of blocks lead through different states and blocks that lead to the same
state. -/
def Collide (s : σ) (blocks blocks' : List (List β)) : Prop :=
  ∃ p ∈ H.met s blocks, ∃ p' ∈ H.met s blocks', p ≠ p' ∧
    H.compress p.1 p.2 = H.compress p'.1 p'.2

variable {H}

theorem met_append (s : σ) (blocks blocks' : List (List β)) :
    H.met s (blocks ++ blocks') = H.met s blocks ++ H.met (blocks.foldl H.compress s) blocks' := by
  induction blocks generalizing s with
  | nil => rfl
  | cons b blocks ih => rw [List.cons_append, met, met, ih, List.cons_append, List.foldl_cons]

/-- The last of the states and blocks. -/
theorem mem_met_concat (s : σ) (blocks : List (List β)) (b : List β) :
    (blocks.foldl H.compress s, b) ∈ H.met s (blocks ++ [b]) := by
  rw [met_append]
  exact List.mem_append_right _ List.mem_cons_self

/-- **Different blocks that lead to the same state**, in the same number. -/
theorem collide_of_foldl_eq {blocks blocks' : List (List β)} {s : σ}
    (hlen : blocks.length = blocks'.length) (hne : blocks ≠ blocks')
    (heq : blocks.foldl H.compress s = blocks'.foldl H.compress s) :
    H.Collide s blocks blocks' := by
  -- from the last block to the first one
  induction blocks using List.reverseRecOn generalizing blocks' with
  | nil => exact absurd (List.length_eq_zero_iff.mp hlen.symm).symm hne
  | append_singleton bs b ih =>
    obtain ⟨bs', b', rfl⟩ := List.eq_nil_or_concat' blocks' |>.resolve_left (by
      rintro rfl
      simp at hlen)
    rw [List.foldl_append, List.foldl_append] at heq
    by_cases hpair : (bs.foldl H.compress s, b) = (bs'.foldl H.compress s, b')
    · -- the last blocks are the same, so that those before them lead to the same state
      obtain ⟨hstate, rfl⟩ := Prod.mk.inj hpair
      obtain ⟨p, hp, p', hp', hpp'⟩ : H.Collide s bs bs' :=
        ih (by simpa using hlen) (fun hbs => hne (hbs ▸ rfl)) hstate
      refine ⟨p, ?_, p', ?_, hpp'⟩
      · rw [met_append]
        exact List.mem_append_left _ hp
      · rw [met_append]
        exact List.mem_append_left _ hp'
    · exact ⟨_, mem_met_concat s bs b, _, mem_met_concat s bs' b', hpair, heq⟩

/-- The last block of a message is the end of it. -/
theorem getLast_of_flatten {blocks : List (List β)} {b : List β} {m : List β}
    (hb : b.length = H.size) (h : (blocks ++ [b]).flatten = m) :
    b = m.drop (m.length - H.size) := by
  rw [← h, List.flatten_append, List.length_append]
  simp only [List.flatten_cons, List.flatten_nil, List.append_nil]
  rw [hb, Nat.add_sub_cancel, List.drop_left]

/-- **Two messages with the same hash value collide**, if the paddings fill the blocks and tell
messages of different lengths apart at the end of the last block. -/
theorem collide_of_hash_eq {s : σ} {padding : ℕ → List β} {m m' : List β}
    (hfill : ∀ n, H.size ∣ n + (padding n).length) (hpad : ∀ n, padding n ≠ [])
    (hends : m.length ≠ m'.length →
      (m ++ padding m.length).drop ((m ++ padding m.length).length - H.size) ≠
        (m' ++ padding m'.length).drop ((m' ++ padding m'.length).length - H.size))
    (hne : m ≠ m') (heq : H.hash s padding m = H.hash s padding m') :
    ∃ blocks blocks', blocks.flatten = m ++ padding m.length ∧
      blocks'.flatten = m' ++ padding m'.length ∧
      (∀ b ∈ blocks ++ blocks', b.length = H.size) ∧ H.Collide s blocks blocks' := by
  obtain ⟨blocks, hsize, hflat, hlen⟩ := H.exists_blocks (m := m ++ padding m.length) (by
    rw [List.length_append]
    exact hfill _)
  obtain ⟨blocks', hsize', hflat', hlen'⟩ := H.exists_blocks (m := m' ++ padding m'.length) (by
    rw [List.length_append]
    exact hfill _)
  refine ⟨blocks, blocks', hflat, hflat', ?_, ?_⟩
  · intro b hb
    exact (List.mem_append.mp hb).elim (hsize b) (hsize' b)
  unfold hash at heq
  rw [← hflat, ← hflat', H.feed_blocks hsize, H.feed_blocks hsize'] at heq
  -- messages of one length have as many blocks, the others have different last blocks
  by_cases hsame : m.length = m'.length
  · refine collide_of_foldl_eq ?_ ?_ heq
    · apply Nat.eq_of_mul_eq_mul_right H.size_pos
      rw [hlen, hlen', List.length_append, List.length_append, hsame]
    · rintro rfl
      have hmsg := hflat.symm.trans hflat'
      rw [hsame] at hmsg
      exact hne (List.append_cancel_right hmsg)
  · -- the last blocks are different
    have hnil : ∀ (bs : List (List β)) (x : List β), bs.flatten = x ++ padding x.length →
        bs ≠ [] := by
      rintro bs x hbs rfl
      exact hpad _ (List.append_eq_nil_iff.mp hbs.symm).2
    obtain ⟨bs, b, rfl⟩ := List.eq_nil_or_concat' blocks |>.resolve_left (hnil _ _ hflat)
    obtain ⟨bs', b', rfl⟩ := List.eq_nil_or_concat' blocks' |>.resolve_left (hnil _ _ hflat')
    have hb : b.length = H.size := hsize b (by simp)
    have hb' : b'.length = H.size := hsize' b' (by simp)
    rw [List.foldl_append, List.foldl_append] at heq
    refine ⟨_, mem_met_concat s bs b, _, mem_met_concat s bs' b', ?_, heq⟩
    intro hpair
    apply hends hsame
    rw [← getLast_of_flatten hb hflat, ← getLast_of_flatten hb' hflat']
    exact (Prod.mk.inj hpair).2

end BlockHash
