import Mathlib.Data.List.Basic
import Mathlib.Tactic.Common

/-!
# Chains of next pointers

A singly linked list in memory is a chain of addresses: each node's next pointer is
the address of the one after it, and the last one's is null.  A chain is determined
by where it starts, and it is not affected by writes to other nodes.

## Main results

* `Chain.unique` — a start has one chain.
* `Chain.nodup` — a chain that ends meets no node twice.
* `Chain.frame` — writes outside the chain leave it alone.
-/

/-- `as` are the nodes met from the pointer `p` on by following `next`. -/
def Chain {α : Type*} (next : α → Option α) : Option α → List α → Prop
  | p, [] => p = none
  | p, a :: as => p = some a ∧ Chain next (next a) as

namespace Chain

variable {α : Type*} {next next' : α → Option α}

/-- Whether a list is the chain from a pointer can be computed. -/
instance decidable [DecidableEq α] : ∀ (p : Option α) (as : List α), Decidable (Chain next p as)
  | p, [] => decidable_of_iff (p.isNone) Option.isNone_iff_eq_none
  | p, a :: as =>
      haveI := decidable (next a) as
      inferInstanceAs (Decidable (p = some a ∧ Chain next (next a) as))

@[simp] theorem nil_iff {p : Option α} : Chain next p [] ↔ p = none := Iff.rfl

/-- **A start has one chain.** -/
theorem unique {p : Option α} {as bs : List α} (h : Chain next p as) (h' : Chain next p bs) :
    as = bs := by
  induction as generalizing p bs with
  | nil =>
    cases bs with
    | nil => rfl
    | cons b bs => rw [nil_iff.mp h] at h'; cases h'.1
  | cons a as ih =>
    cases bs with
    | nil => rw [nil_iff.mp h'] at h; cases h.1
    | cons b bs =>
      obtain rfl : a = b := Option.some.inj (h.1.symm.trans h'.1)
      rw [ih h.2 h'.2]

theorem of_append {p : Option α} {as bs : List α} {a : α} (h : Chain next p (as ++ a :: bs)) :
    Chain next (some a) (a :: bs) := by
  induction as generalizing p with
  | nil => exact ⟨rfl, h.2⟩
  | cons _ _ ih => exact ih h.2

/-- **A chain that ends meets no node twice.** -/
theorem nodup {p : Option α} {as : List α} (h : Chain next p as) : as.Nodup := by
  induction as generalizing p with
  | nil => exact List.nodup_nil
  | cons a as ih =>
    refine List.nodup_cons.mpr ⟨fun ha => ?_, ih h.2⟩
    -- met again, `a` would have a shorter chain behind it
    obtain ⟨s, t, rfl⟩ := List.append_of_mem ha
    have heq : s ++ a :: t = t := List.cons.inj (unique (h.1 ▸ h) h.2.of_append) |>.2
    have hlen := congrArg List.length heq
    simp only [List.length_append, List.length_cons] at hlen
    omega

/-- **Writes outside the chain leave it alone.** -/
theorem frame {p : Option α} {as : List α} (h : Chain next p as)
    (hsame : ∀ a ∈ as, next' a = next a) : Chain next' p as := by
  induction as generalizing p with
  | nil => exact h
  | cons a as ih =>
    refine ⟨h.1, ?_⟩
    rw [hsame a List.mem_cons_self]
    exact ih h.2 fun b hb => hsame b (List.mem_cons_of_mem a hb)

/-- Next pointers do not lead out of the chain. -/
theorem next_mem {p : Option α} {as : List α} (h : Chain next p as) {a b : α} (ha : a ∈ as)
    (hb : next a = some b) : b ∈ as := by
  induction as generalizing p with
  | nil => cases ha
  | cons c as ih =>
    rcases List.mem_cons.mp ha with rfl | ha
    · cases as with
      | nil => rw [nil_iff.mp h.2] at hb; cases hb
      | cons d as =>
        obtain rfl : b = d := Option.some.inj (hb.symm.trans h.2.1)
        simp
    · exact List.mem_cons_of_mem c (ih h.2 ha)

end Chain
