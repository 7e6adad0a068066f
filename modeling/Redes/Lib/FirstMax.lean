import Mathlib.Data.List.MinMax
import Mathlib.Tactic.Common

/-!
# The first of the greatest elements

A scan that keeps an element and replaces it by each later one whose key exceeds the
best key so far finds `List.argmax`, provided the bound it starts with is below the
greatest key.

## Main definitions

* `IsFirstMax` — an element of a list is the first of those with the greatest key.
* `scan` — the loop, with the bound to exceed and what it keeps.

## Main results

* `isFirstMax_iff` — `IsFirstMax` says what `List.argmax` computes.
* `scan_eq` — what the loop finds.
-/

namespace FirstMax

variable {α β : Type*} [LinearOrder β] {key : α → β}

/-- `a` is the first of the elements of `l` with the greatest key. -/
def IsFirstMax (key : α → β) (l : List α) (a : α) : Prop :=
  ∃ before after, l = before ++ a :: after ∧ (∀ x ∈ before, key x < key a) ∧
    ∀ x ∈ after, key x ≤ key a

/-- The loop: an element whose key exceeds the bound is kept, and its key is the next
bound. -/
def scan (key : α → β) : β → Option α → List α → Option α
  | _, best, [] => best
  | bound, best, x :: xs =>
      if bound < key x then scan key (key x) (some x) xs else scan key bound best xs

@[simp] theorem scan_nil (bound : β) (best : Option α) : scan key bound best [] = best := rfl

theorem scan_cons (bound : β) (best : Option α) (x : α) (xs : List α) :
    scan key bound best (x :: xs) =
      if bound < key x then scan key (key x) (some x) xs else scan key bound best xs := rfl

/-! ### The element that is meant -/

theorem IsFirstMax.mem {l : List α} {a : α} (h : IsFirstMax key l a) : a ∈ l := by
  obtain ⟨before, after, rfl, -, -⟩ := h
  exact List.mem_append_right before List.mem_cons_self

theorem IsFirstMax.le {l : List α} {a x : α} (h : IsFirstMax key l a) (hx : x ∈ l) :
    key x ≤ key a := by
  obtain ⟨before, after, rfl, hbefore, hafter⟩ := h
  rcases List.mem_append.mp hx with hx | hx
  · exact (hbefore x hx).le
  · rcases List.mem_cons.mp hx with rfl | hx
    · exact le_rfl
    · exact hafter x hx

theorem argmax_of_isFirstMax {l : List α} {a : α} (h : IsFirstMax key l a) :
    l.argmax key = some a := by
  obtain ⟨before, after, rfl, hbefore, hafter⟩ := h
  induction before with
  | nil =>
    rw [List.nil_append, List.argmax_cons]
    cases hmax : after.argmax key with
    | none => rfl
    | some c =>
      have hc : key c ≤ key a := hafter c (List.argmax_mem hmax)
      exact if_neg hc.not_gt
  | cons x before ih =>
    have hx : key x < key a := hbefore x List.mem_cons_self
    rw [List.cons_append, List.argmax_cons, ih fun y hy => hbefore y (List.mem_cons_of_mem x hy)]
    exact if_pos hx

theorem isFirstMax_of_argmax {l : List α} {a : α} (h : l.argmax key = some a) :
    IsFirstMax key l a := by
  induction l with
  | nil => cases h
  | cons x xs ih =>
    rw [List.argmax_cons] at h
    cases hmax : xs.argmax key with
    | none =>
      rw [hmax] at h
      obtain rfl : x = a := Option.some.inj h
      exact ⟨[], xs, rfl, by simp, by simp [List.argmax_eq_none.mp hmax]⟩
    | some c =>
      rw [hmax] at h
      by_cases hlt : key x < key c
      · obtain rfl : c = a := Option.some.inj ((if_pos hlt).symm.trans h)
        obtain ⟨before, after, hxs, hbefore, hafter⟩ := ih hmax
        refine ⟨x :: before, after, by rw [hxs, List.cons_append], ?_, hafter⟩
        intro y hy
        rcases List.mem_cons.mp hy with rfl | hy
        · exact hlt
        · exact hbefore y hy
      · obtain rfl : x = a := Option.some.inj ((if_neg hlt).symm.trans h)
        refine ⟨[], xs, rfl, by simp, fun y hy => ?_⟩
        exact (List.le_of_mem_argmax hy hmax).trans (not_lt.mp hlt)

/-- **The first of the greatest elements is what `List.argmax` computes.** -/
theorem isFirstMax_iff {l : List α} {a : α} : IsFirstMax key l a ↔ l.argmax key = some a :=
  ⟨argmax_of_isFirstMax, isFirstMax_of_argmax⟩

/-! ### The loop -/

/-- **What the loop finds**: the first of the greatest elements if its key exceeds the
bound, and otherwise what the loop had before. -/
theorem scan_eq (bound : β) (best : Option α) (l : List α) :
    scan key bound best l =
      ((l.argmax key).filter fun a => bound < key a).or best := by
  induction l generalizing bound best with
  | nil => rfl
  | cons x xs ih =>
    rw [scan_cons, List.argmax_cons, ih, ih]
    cases xs.argmax key with
    | none => by_cases hx : bound < key x <;> simp [hx, Option.filter_some]
    | some c =>
      -- the new element is behind the bound, or the bound is behind the rest
      by_cases hx : bound < key x
      · by_cases hlt : key x < key c
        · simp [hx, hlt, hx.trans hlt, Option.filter_some]
        · simp [hx, hlt, Option.filter_some]
      · by_cases hlt : key x < key c
        · simp [hx, hlt]
        · have hc : ¬ bound < key c := not_lt.mpr ((not_lt.mp hlt).trans (not_lt.mp hx))
          simp [hx, hlt, hc, Option.filter_some]

end FirstMax
