import Mathlib.Data.List.Basic
import Mathlib.Tactic.Common

/-!
# Sweeps over linked lists

Two loops over a linked list that delete on their way.

The first one looks at the element behind its pointer, deletes that element if it has expired
and makes it older if it has not, and then advances.  After a deletion the element behind the
pointer is the one that followed the deleted one, so that advancing passes it over: it is
neither deleted nor made older.

The second one looks up the next element before it takes the current one.  Taking an element
deletes all the elements that it leads to, wherever they are in the list, so that the
element looked up may be deleted while the loop holds on to it.

## Main definitions

* `sweepKept`, `sweepRemoved` — the elements that the first loop leaves, and those it deletes.
* `Overtaken` — the second loop comes to an element that was deleted.

## Main results

* `sweepKept_eq_iff` — when the first loop leaves what has not expired, a step older.
* `sweepRemoved_eq` — and then it deletes what has expired.
* `mem_sweepKept`, `mem_sweepRemoved`, `map_sweepKept_sublist` — what it leaves and deletes in
  any case.
* `overtaken_cons` — one turn of the second loop.
-/

namespace Sweep

variable {α β : Type*} (expired : α → Prop) [DecidablePred expired] (older : α → α)

/-- The elements that a sweep leaves. -/
def sweepKept : List α → List α
  | [] => []
  | [x] => if expired x then [] else [older x]
  | x :: y :: rest =>
      if expired x then y :: sweepKept rest else older x :: sweepKept (y :: rest)

/-- The elements that a sweep deletes, in order. -/
def sweepRemoved : List α → List α
  | [] => []
  | [x] => if expired x then [x] else []
  | x :: y :: rest => if expired x then x :: sweepRemoved rest else sweepRemoved (y :: rest)

variable {expired older} {l : List α}

/-! ### Sweeps in which nothing is passed over -/

/-- An element that has not expired is made older. -/
theorem sweepKept_cons_of_neg {x : α} (hx : ¬ expired x) (l : List α) :
    sweepKept expired older (x :: l) = older x :: sweepKept expired older l := by
  cases l with
  | nil => simp [sweepKept, hx]
  | cons y rest => rw [sweepKept, if_neg hx]

theorem sweepRemoved_cons_of_neg {x : α} (hx : ¬ expired x) (l : List α) :
    sweepRemoved expired (x :: l) = sweepRemoved expired l := by
  cases l with
  | nil => simp [sweepRemoved, hx]
  | cons y rest => rw [sweepRemoved, if_neg hx]

/-- If only the last element can have expired, what has not expired gets older. -/
theorem sweepKept_eq (h : ∀ x ∈ l.dropLast, ¬ expired x) :
    sweepKept expired older l = (l.filter fun x => ¬ expired x).map older := by
  induction l with
  | nil => rfl
  | cons x l ih =>
    cases l with
    | nil => by_cases hx : expired x <;> simp [sweepKept, hx]
    | cons y rest =>
      rw [List.dropLast_cons_cons, List.forall_mem_cons] at h
      rw [sweepKept_cons_of_neg h.1, List.filter_cons_of_pos (by simpa using h.1),
        List.map_cons, ih h.2]

/-- **What has expired is deleted**, if only the last element can have expired. -/
theorem sweepRemoved_eq (h : ∀ x ∈ l.dropLast, ¬ expired x) :
    sweepRemoved expired l = l.filter fun x => expired x := by
  induction l with
  | nil => rfl
  | cons x l ih =>
    cases l with
    | nil => by_cases hx : expired x <;> simp [sweepRemoved, hx]
    | cons y rest =>
      rw [List.dropLast_cons_cons, List.forall_mem_cons] at h
      rw [sweepRemoved_cons_of_neg h.1, List.filter_cons_of_neg (by simpa using h.1), ih h.2]

/-! ### Sweeps in which an element is passed over -/

/-- A sweep never leaves fewer elements than have not expired. -/
theorem length_filter_le_sweepKept (l : List α) :
    (l.filter fun x => ¬ expired x).length ≤ (sweepKept expired older l).length := by
  induction l using sweepKept.induct expired with
  | case1 => exact Nat.le_refl 0
  | case2 x hx => simp [hx]
  | case3 x hx => simp [sweepKept, hx]
  | case4 x y rest hx ih =>
    rw [sweepKept, if_pos hx, List.filter_cons_of_neg (by simpa using hx), List.length_cons]
    calc ((y :: rest).filter fun x => ¬ expired x).length
        ≤ (rest.filter fun x => ¬ expired x).length + 1 := by
          rw [List.filter_cons]
          split
          · exact Nat.le_refl _
          · exact Nat.le_succ _
      _ ≤ (sweepKept expired older rest).length + 1 := Nat.succ_le_succ ih
  | case5 x y rest hx ih =>
    rw [sweepKept_cons_of_neg hx, List.filter_cons_of_pos (by simpa using hx)]
    exact Nat.succ_le_succ ih

/-- **A sweep leaves what has not expired, a step older, if and only if** nothing but the last
element has expired. -/
theorem sweepKept_eq_iff (holder : ∀ x, older x ≠ x) (l : List α) :
    sweepKept expired older l = (l.filter fun x => ¬ expired x).map older ↔
      ∀ x ∈ l.dropLast, ¬ expired x := by
  refine ⟨fun h => ?_, sweepKept_eq⟩
  induction l with
  | nil => simp
  | cons x l ih =>
    cases l with
    | nil => simp
    | cons y rest =>
      by_cases hx : expired x
      · -- the element behind the expired one is left as it is
        exfalso
        rw [sweepKept, if_pos hx, List.filter_cons_of_neg (by simpa using hx)] at h
        by_cases hy : expired y
        · have hlen := congrArg List.length h
          rw [List.filter_cons_of_neg (by simpa using hy), List.length_map,
            List.length_cons] at hlen
          have hle : (rest.filter fun x => ¬ expired x).length ≤
              (sweepKept expired older rest).length := length_filter_le_sweepKept rest
          omega
        · rw [List.filter_cons_of_pos (by simpa using hy), List.map_cons] at h
          exact holder y (List.cons.inj h).1.symm
      · rw [sweepKept_cons_of_neg hx, List.filter_cons_of_pos (by simpa using hx),
          List.map_cons] at h
        rw [List.dropLast_cons_cons, List.forall_mem_cons]
        exact ⟨hx, ih (List.cons.inj h).2⟩

/-- What is left is as it was, or a step older and had not expired. -/
theorem mem_sweepKept {x : α} (hx : x ∈ sweepKept expired older l) :
    x ∈ l ∨ ∃ y ∈ l, ¬ expired y ∧ x = older y := by
  induction l using sweepKept.induct expired with
  | case1 => exact .inl hx
  | case2 y hy => simp [sweepKept, hy] at hx
  | case3 y hy =>
    rw [sweepKept, if_neg hy, List.mem_singleton] at hx
    exact .inr ⟨y, List.mem_cons_self, hy, hx⟩
  | case4 y z rest hy ih =>
    rw [sweepKept, if_pos hy, List.mem_cons] at hx
    rcases hx with rfl | hx
    · exact .inl (by simp)
    · rcases ih hx with hmem | ⟨w, hw, hdead, heq⟩
      · exact .inl (by simp [hmem])
      · exact .inr ⟨w, by simp [hw], hdead, heq⟩
  | case5 y z rest hy ih =>
    rw [sweepKept, if_neg hy, List.mem_cons] at hx
    rcases hx with rfl | hx
    · exact .inr ⟨y, List.mem_cons_self, hy, rfl⟩
    · rcases ih hx with hmem | ⟨w, hw, hdead, heq⟩
      · exact .inl (List.mem_cons_of_mem y hmem)
      · exact .inr ⟨w, List.mem_cons_of_mem y hw, hdead, heq⟩

/-- What is deleted had expired. -/
theorem mem_sweepRemoved {x : α} (hx : x ∈ sweepRemoved expired l) : x ∈ l ∧ expired x := by
  induction l using sweepRemoved.induct expired with
  | case1 => cases hx
  | case2 y hy =>
    rw [sweepRemoved, if_pos hy, List.mem_singleton] at hx
    exact ⟨List.mem_singleton.mpr hx, hx ▸ hy⟩
  | case3 y hy => simp [sweepRemoved, hy] at hx
  | case4 y z rest hy ih =>
    rw [sweepRemoved, if_pos hy, List.mem_cons] at hx
    rcases hx with rfl | hx
    · exact ⟨List.mem_cons_self, hy⟩
    · exact ⟨by simp [(ih hx).1], (ih hx).2⟩
  | case5 y z rest hy ih =>
    rw [sweepRemoved, if_neg hy] at hx
    exact ⟨List.mem_cons_of_mem y (ih hx).1, (ih hx).2⟩

/-- **A sweep keeps the order**: what does not age is left as part of what it was. -/
theorem map_sweepKept_sublist {g : α → β} (hg : ∀ x, g (older x) = g x) (l : List α) :
    ((sweepKept expired older l).map g).Sublist (l.map g) := by
  induction l using sweepKept.induct expired with
  | case1 => exact List.Sublist.refl _
  | case2 x hx => simp [sweepKept, hx]
  | case3 x hx => simp [sweepKept, hx, hg]
  | case4 x y rest hx ih =>
    rw [sweepKept, if_pos hx]
    exact (ih.cons_cons (g y)).cons (g x)
  | case5 x y rest hx ih =>
    rw [sweepKept_cons_of_neg hx, List.map_cons, hg]
    exact ih.cons_cons (g x)

/-- As many elements are left and deleted as there were. -/
theorem length_sweepKept_add_sweepRemoved (l : List α) :
    (sweepKept expired older l).length + (sweepRemoved expired l).length = l.length := by
  induction l using sweepKept.induct expired with
  | case1 => rfl
  | case2 x hx => simp [sweepKept, sweepRemoved, hx]
  | case3 x hx => simp [sweepKept, sweepRemoved, hx]
  | case4 x y rest hx ih =>
    rw [sweepKept, sweepRemoved, if_pos hx, if_pos hx]
    simp only [List.length_cons]
    omega
  | case5 x y rest hx ih =>
    rw [sweepKept_cons_of_neg hx, sweepRemoved_cons_of_neg hx, List.length_cons, List.length_cons]
    omega

/-! ### Holding on to the next element -/

/-- In a list that starts with `pre`, `r`, `mid` and `s`, a loop that takes the elements in order
holds on to `s` while taking `r` deletes it. -/
structure OvertakenAt (leads : α → α → Prop) (stuck : α → Prop) (pre : List α) (r : α)
    (mid : List α) (s : α) : Prop where
  /-- Taking `r` deletes `s`. -/
  deletes : leads r s
  /-- Nothing before did. -/
  kept : ∀ q ∈ pre, ¬ leads q s
  /-- What is between them has been deleted, so that `s` is the next element. -/
  between : ∀ m ∈ mid, ∃ q ∈ pre, leads q m
  /-- The loop gets to `r` … -/
  reached : ∀ q ∈ pre, ¬ stuck q
  /-- … and past it. -/
  passed : ¬ stuck r

/-- A loop that takes the elements of a list in order, each with all it leads to, comes to an
element that it has deleted. -/
def Overtaken (leads : α → α → Prop) (stuck : α → Prop) (l : List α) : Prop :=
  ∃ pre r mid s post, l = pre ++ r :: (mid ++ s :: post) ∧ OvertakenAt leads stuck pre r mid s

section Overtaken

variable {leads : α → α → Prop} {stuck : α → Prop} {r : α} {rest : List α}

theorem not_overtaken_nil : ¬ Overtaken leads stuck [] := by
  rintro ⟨pre, r, mid, s, post, heq, -⟩
  simp at heq

/-- An element of a filtered list, in the list itself. -/
theorem exists_of_filter_eq {p : α → Bool} {pre post : List α} {a : α}
    (h : l.filter p = pre ++ a :: post) :
    ∃ front back, l = front ++ a :: back ∧ front.filter p = pre ∧ p a = true ∧
      back.filter p = post := by
  obtain ⟨front, l', rfl, hfront, h⟩ := List.filter_eq_append_iff.mp h
  obtain ⟨skipped, back, rfl, hskipped, ha, hback⟩ := List.filter_eq_cons_iff.mp h
  refine ⟨front ++ skipped, back, by simp, ?_, ha, hback⟩
  rw [List.filter_append, hfront, List.filter_eq_nil_iff.mpr hskipped, List.append_nil]

section Turn

variable [∀ a b, Decidable (leads a b)] (htrans : ∀ a b c, leads a b → leads b c → leads a c)
  {pre mid : List α} {q s : α}

include htrans in
/-- What the first element of the list leads to may be left out. -/
theorem OvertakenAt.filter (h : OvertakenAt leads stuck (r :: pre) q mid s) :
    OvertakenAt leads stuck (pre.filter fun x => ¬ leads r x) q
      (mid.filter fun x => ¬ leads r x) s := by
  refine ⟨h.deletes, ?_, ?_, ?_, h.passed⟩
  · intro x hx
    exact h.kept x (List.mem_cons_of_mem r (List.mem_filter.mp hx).1)
  · intro m hm
    obtain ⟨hm, hrm⟩ := List.mem_filter.mp hm
    have hrm : ¬ leads r m := by simpa using hrm
    obtain ⟨x, hx, hxm⟩ := h.between m hm
    rcases List.mem_cons.mp hx with rfl | hx
    · exact absurd hxm hrm
    · have hrx : ¬ leads r x := fun h => hrm (htrans r x m h hxm)
      exact ⟨x, List.mem_filter.mpr ⟨hx, by simpa using hrx⟩, hxm⟩
  · intro x hx
    exact h.reached x (List.mem_cons_of_mem r (List.mem_filter.mp hx).1)

include htrans in
/-- What was left out is put back in its place. -/
theorem OvertakenAt.of_filter (hstuck : ∀ a b, leads a b → stuck b → stuck a)
    (h : OvertakenAt leads stuck (pre.filter fun x => ¬ leads r x) q
      (mid.filter fun x => ¬ leads r x) s) (hs : ¬ leads r s) (hr : ¬ stuck r) :
    OvertakenAt leads stuck (r :: pre) q mid s := by
  have hpre : ∀ x ∈ pre, leads r x ∨ x ∈ pre.filter fun x => ¬ leads r x := by
    intro x hx
    by_cases hrx : leads r x
    · exact .inl hrx
    · exact .inr (List.mem_filter.mpr ⟨hx, by simpa using hrx⟩)
  refine ⟨h.deletes, ?_, ?_, ?_, h.passed⟩
  · intro x hx hxs
    rcases List.mem_cons.mp hx with rfl | hx
    · exact hs hxs
    · rcases hpre x hx with hrx | hx
      · exact hs (htrans r x s hrx hxs)
      · exact h.kept x hx hxs
  · intro m hm
    by_cases hrm : leads r m
    · exact ⟨r, List.mem_cons_self, hrm⟩
    · obtain ⟨x, hx, hxm⟩ := h.between m (List.mem_filter.mpr ⟨hm, by simpa using hrm⟩)
      exact ⟨x, List.mem_cons_of_mem r (List.mem_filter.mp hx).1, hxm⟩
  · intro x hx hxstuck
    rcases List.mem_cons.mp hx with rfl | hx
    · exact hr hxstuck
    · rcases hpre x hx with hrx | hx
      · exact hr (hstuck r x hrx hxstuck)
      · exact h.reached x hx hxstuck

include htrans in
/-- **One turn**: the loop takes the first element, unless it is stuck there.  Then either the
second one is deleted, or the loop goes on with what is left. -/
theorem overtaken_cons (hstuck : ∀ a b, leads a b → stuck b → stuck a) :
    Overtaken leads stuck (r :: rest) ↔
      ¬ stuck r ∧ ((∃ s ∈ rest.head?, leads r s) ∨
        Overtaken leads stuck (rest.filter fun s => ¬ leads r s)) := by
  constructor
  · rintro ⟨pre, q, mid, s, post, heq, hat⟩
    cases pre with
    | nil =>
      obtain ⟨rfl, rfl⟩ := List.cons.inj heq
      refine ⟨hat.passed, .inl ⟨s, ?_, hat.deletes⟩⟩
      cases mid with
      | nil => rfl
      | cons m mid =>
        -- nothing before could have deleted it
        obtain ⟨q, hq, -⟩ := hat.between m List.mem_cons_self
        cases hq
    | cons r' pre =>
      obtain ⟨rfl, rfl⟩ := List.cons.inj heq
      have hs : ¬ leads r s := hat.kept r List.mem_cons_self
      have hq : ¬ leads r q := fun h => hs (htrans r q s h hat.deletes)
      exact ⟨hat.reached r List.mem_cons_self, .inr ⟨_, q, _, s, post.filter fun x => ¬ leads r x,
        by simp [hs, hq], hat.filter htrans⟩⟩
  · rintro ⟨hr, ⟨s, hs, hrs⟩ | ⟨pre, q, mid, s, post, heq, hat⟩⟩
    · obtain ⟨post, rfl⟩ : ∃ post, rest = s :: post := List.head?_eq_some_iff.mp hs
      exact ⟨[], r, [], s, post, rfl, hrs, by simp, by simp, by simp, hr⟩
    · obtain ⟨front, back, rfl, rfl, -, hback⟩ := exists_of_filter_eq heq
      obtain ⟨mid', post', rfl, rfl, hs, -⟩ := exists_of_filter_eq hback
      have hs : ¬ leads r s := by simpa using hs
      exact ⟨r :: front, q, mid', s, post', rfl, hat.of_filter htrans hstuck hs hr⟩

end Turn

end Overtaken

end Sweep
