import Mathlib.Data.List.Nodup
import Mathlib.Data.List.Perm.Basic
import Mathlib.Tactic.Common

/-!
# Lists with unique keys

A list whose elements have different keys, as a linked list of records that are looked
up by one of their fields: finding, unlinking and updating the record with a given key.

## Main definitions

* `update` — change the records with a key.

## Main results

* `find?_eq_some` — a record is found under its key.
* `mem_eraseP`, `mem_update` — the records after unlinking and updating.
* `perm_cons_eraseP`, `update_perm` — one record apart from the others, for counting.
-/

namespace Keyed

variable {α β κ : Type*} [DecidableEq κ] {k : α → κ} {l : List α} {a : κ}

/-- Change the records with the key `a`. -/
def update (k : α → κ) (a : κ) (f : α → α) (l : List α) : List α :=
  l.map fun x => if k x = a then f x else x

/-- **A record is found under its key.** -/
theorem find?_eq_some (h : (l.map k).Nodup) {x : α} :
    l.find? (fun y => k y = a) = some x ↔ x ∈ l ∧ k x = a := by
  constructor
  · intro hfind
    exact ⟨List.mem_of_find?_eq_some hfind, by simpa using List.find?_some hfind⟩
  · rintro ⟨hx, rfl⟩
    cases hfind : l.find? (fun y => k y = k x) with
    | none =>
      have hno : ¬ k x = k x := by simpa using List.find?_eq_none.mp hfind x hx
      exact absurd rfl hno
    | some y =>
      have hy : k y = k x := by simpa using List.find?_some hfind
      rw [List.inj_on_of_nodup_map h (List.mem_of_find?_eq_some hfind) hx hy]

theorem find?_eq_none : l.find? (fun y => k y = a) = none ↔ ∀ x ∈ l, k x ≠ a := by
  simp [List.find?_eq_none]

/-! ### Unlinking -/

/-- **Unlinking the record with a key leaves the others.** -/
theorem eraseP_eq_filter (h : (l.map k).Nodup) :
    l.eraseP (fun y => k y = a) = l.filter fun y => k y ≠ a := by
  induction l with
  | nil => rfl
  | cons x l ih =>
    rw [List.map_cons, List.nodup_cons] at h
    by_cases hx : k x = a
    · -- no other record has the key
      have hrest : ∀ y ∈ l, k y ≠ a := fun y hy hya =>
        h.1 (List.mem_map.mpr ⟨y, hy, hya.trans hx.symm⟩)
      rw [List.eraseP_cons_of_pos (by simpa using hx), List.filter_cons_of_neg (by simpa using hx)]
      exact (List.filter_eq_self.mpr fun y hy => by simpa using hrest y hy).symm
    · rw [List.eraseP_cons_of_neg (by simpa using hx), ih h.2,
        List.filter_cons_of_pos (by simpa using hx)]

theorem mem_eraseP (h : (l.map k).Nodup) {x : α} :
    x ∈ l.eraseP (fun y => k y = a) ↔ x ∈ l ∧ k x ≠ a := by
  rw [eraseP_eq_filter h, List.mem_filter, decide_eq_true_eq]

theorem nodup_map_eraseP {g : α → β} (h : (l.map g).Nodup) (p : α → Bool) :
    ((l.eraseP p).map g).Nodup :=
  h.sublist (List.eraseP_sublist.map g)

/-- The record with a key, and the others. -/
theorem perm_cons_eraseP (h : (l.map k).Nodup) {x : α} (hx : x ∈ l) :
    l.Perm (x :: l.eraseP fun y => k y = k x) := by
  induction l with
  | nil => cases hx
  | cons y l ih =>
    rw [List.map_cons, List.nodup_cons] at h
    by_cases hyx : k y = k x
    · have heq : y = x := by
        rcases List.mem_cons.mp hx with rfl | hx
        · rfl
        · exact absurd (List.mem_map.mpr ⟨x, hx, hyx.symm⟩) h.1
      subst heq
      rw [List.eraseP_cons_of_pos (by simp)]
    · have hmem : x ∈ l := by
        rcases List.mem_cons.mp hx with rfl | hx
        · exact absurd rfl hyx
        · exact hx
      rw [List.eraseP_cons_of_neg (by simpa using hyx)]
      exact ((ih h.2 hmem).cons y).trans (.swap x y _)

/-! ### Updating -/

theorem mem_update {f : α → α} {y : α} :
    y ∈ update k a f l ↔ (y ∈ l ∧ k y ≠ a) ∨ ∃ x ∈ l, k x = a ∧ f x = y := by
  unfold update
  rw [List.mem_map]
  constructor
  · rintro ⟨x, hx, rfl⟩
    by_cases hk : k x = a
    · exact .inr ⟨x, hx, hk, (if_pos hk).symm⟩
    · rw [if_neg hk]
      exact .inl ⟨hx, hk⟩
  · rintro (⟨hy, hk⟩ | ⟨x, hx, hk, rfl⟩)
    · exact ⟨y, hy, if_neg hk⟩
    · exact ⟨x, hx, if_pos hk⟩

/-- What an update does not touch is as before. -/
theorem map_update {f : α → α} {g : α → β} (hg : ∀ x, g (f x) = g x) :
    (update k a f l).map g = l.map g := by
  unfold update
  rw [List.map_map]
  refine List.map_congr_left ?_
  intro x _
  rw [Function.comp_apply]
  split
  · exact hg x
  · rfl

/-- **An update changes one record.** -/
theorem update_perm (h : (l.map k).Nodup) {x : α} (hx : x ∈ l) (f : α → α) :
    (update k (k x) f l).Perm (f x :: l.eraseP fun y => k y = k x) := by
  unfold update
  refine ((perm_cons_eraseP h hx).map _).trans ?_
  rw [List.map_cons, if_pos rfl, eraseP_eq_filter h]
  have hrest : ∀ y ∈ l.filter (fun y => k y ≠ k x), (if k y = k x then f y else y) = y := by
    intro y hy
    rw [List.mem_filter, decide_eq_true_eq] at hy
    rw [if_neg hy.2]
  rw [List.map_congr_left hrest, List.map_id']

end Keyed
