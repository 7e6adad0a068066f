import Mathlib.Data.List.Forall2
import Mathlib.Order.Lattice
import Mathlib.Tactic.Common

/-!
# Keeping a queue sorted with one pass

A queue sorted by cost stays sorted when a new element is put at its front and one
pass of adjacent exchanges is made: the pass carries the larger of two neighbours
along, so it takes the new element to its place and moves nothing else.

## Main results

* `carry_perm` — the pass loses and duplicates nothing.
* `Sorted.carry` — one pass sorts a list that is sorted except for its head.
* `Sorted.head_le` — the head of a sorted queue has the least cost.
-/

namespace SortedQueue

variable {α κ : Type*} [LinearOrder κ] {f : α → κ}

/-- Sorted by non-decreasing cost. -/
def Sorted (f : α → κ) (l : List α) : Prop := l.Pairwise fun a b => f a ≤ f b

/-- One pass of adjacent exchanges over `a :: l`: `a` is the element being carried. -/
def carry (f : α → κ) : α → List α → List α
  | a, [] => [a]
  | a, b :: l => if f b < f a then b :: carry f a l else a :: carry f b l

theorem carry_cons_of_lt {a b : α} (h : f b < f a) (l : List α) :
    carry f a (b :: l) = b :: carry f a l := by
  rw [carry, if_pos h]

theorem carry_cons_of_le {a b : α} (h : f a ≤ f b) (l : List α) :
    carry f a (b :: l) = a :: carry f b l := by
  rw [carry, if_neg (not_lt.mpr h)]

/-- **The pass loses and duplicates nothing.** -/
theorem carry_perm (a : α) (l : List α) : (carry f a l).Perm (a :: l) := by
  induction l generalizing a with
  | nil => exact .refl _
  | cons b l ih =>
    rcases lt_or_ge (f b) (f a) with h | h
    · rw [carry_cons_of_lt h]
      exact ((ih a).cons b).trans (.swap a b l)
    · rw [carry_cons_of_le h]
      exact (ih b).cons a

@[simp] theorem mem_carry {a x : α} {l : List α} : x ∈ carry f a l ↔ x = a ∨ x ∈ l := by
  rw [(carry_perm a l).mem_iff, List.mem_cons]

/-- The pass respects a relation between elements of equal cost. -/
theorem carry_forall₂ {β : Type*} {g : β → κ} {R : α → β → Prop}
    {a : α} {b : β} {l : List α} {l' : List β} (hab : R a b) (hl : List.Forall₂ R l l')
    (hcost : ∀ x ∈ a :: l, ∀ y, R x y → f x = g y) :
    List.Forall₂ R (carry f a l) (carry g b l') := by
  induction hl generalizing a b with
  | nil => exact .cons hab .nil
  | @cons c d l l' hcd hl ih =>
    have ha := hcost a (by simp) b hab
    have hc := hcost c (by simp) d hcd
    rcases lt_or_ge (f c) (f a) with h | h
    · rw [carry_cons_of_lt h, carry_cons_of_lt (by rwa [← ha, ← hc])]
      refine .cons hcd (ih hab fun x hx => hcost x ?_)
      simp only [List.mem_cons] at hx ⊢
      tauto
    · rw [carry_cons_of_le h, carry_cons_of_le (by rwa [← ha, ← hc])]
      refine .cons hab (ih hcd fun x hx => hcost x ?_)
      simp only [List.mem_cons] at hx ⊢
      tauto

theorem Sorted.tail {a : α} {l : List α} (h : Sorted f (a :: l)) : Sorted f l :=
  (List.pairwise_cons.mp h).2

/-- The head of a sorted queue has the least cost. -/
theorem Sorted.head_le {a : α} {l : List α} (h : Sorted f (a :: l)) {x : α}
    (hx : x ∈ a :: l) : f a ≤ f x := by
  rcases List.mem_cons.mp hx with rfl | hx
  · exact le_rfl
  · exact (List.pairwise_cons.mp h).1 x hx

/-- **One pass sorts a list that is sorted except for its head.** -/
theorem Sorted.carry {l : List α} (h : Sorted f l) (a : α) :
    Sorted f (SortedQueue.carry f a l) := by
  induction l generalizing a with
  | nil => exact List.pairwise_singleton _ _
  | cons b l ih =>
    rcases lt_or_ge (f b) (f a) with hab | hab
    · rw [carry_cons_of_lt hab]
      refine List.pairwise_cons.mpr ⟨?_, ih h.tail a⟩
      intro x hx
      rcases mem_carry.mp hx with rfl | hx
      · exact hab.le
      · exact h.head_le (List.mem_cons_of_mem b hx)
    · rw [carry_cons_of_le hab]
      refine List.pairwise_cons.mpr ⟨?_, ih h.tail b⟩
      intro x hx
      rw [mem_carry, ← List.mem_cons] at hx
      exact hab.trans (h.head_le hx)

theorem Sorted.cons_of_le {a : α} {l : List α} (h : Sorted f l)
    (hle : ∀ x ∈ l, f a ≤ f x) : Sorted f (a :: l) :=
  List.pairwise_cons.mpr ⟨hle, h⟩

end SortedQueue
