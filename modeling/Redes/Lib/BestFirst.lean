import Mathlib.Algebra.BigOperators.Group.List.Basic
import Mathlib.Algebra.Order.BigOperators.Group.List
import Mathlib.Tactic.Linarith
import Redes.Lib.Loop
import Redes.Lib.SortedQueue
import Redes.Lib.Walk

/-!
# Best-first search without a closed set

The search keeps a queue of walks, sorted by a cost of their length.  Each turn
takes the head: a walk to a goal ends the search, any other walk is replaced by its
extensions.  No link is ever marked as visited, so what bounds the search is the
number of walks shorter than the goal, or the absence of cycles.

## Main definitions

* `insert`, `expand` — putting a walk, and the extensions of a walk, into the queue.
* `turn` — one turn of the search, `Loop`'s body.
* `size`, `weight` — how many turns are left if no walk longer than `B` is expanded.

## Main results

* `turn_eq_again`, `turn_eq_leave` — what one turn can do.
* `leaves_found` — a search that stops finds a goal if there is one.
* `stops_of_head_le` — a search that only expands walks of at most `B` links stops.
* `stops_of_acyclic` — without a reachable cycle the search stops.
* `exists_leaves_shortest` — below the bound where the cost is faithful, the search
  stops at a shortest walk.
* `not_stops_of_cycle` — with a reachable cycle and no goal it never stops.
-/

namespace BestFirst

open Walk

variable {L : Type*} (cost : ℕ → ℕ) (succ : L → List L) (g : L → Bool)

/-- The cost of a walk is a function of its length. -/
def walkCost (w : Walk L) : ℕ := cost w.length

/-- Put a walk at the front of the queue and make one sorting pass. -/
def insert (w : Walk L) (q : List (Walk L)) : List (Walk L) :=
  SortedQueue.carry (walkCost cost) w q

/-- Put the extensions of `w` into the queue, one after the other. -/
def expand (w : Walk L) (q : List (Walk L)) : List (Walk L) :=
  (succ w.last).foldl (fun q l => insert cost (w.extend l) q) q

/-- One turn of the search: leave with the head of the queue if it reaches a goal,
otherwise put its extensions in its place. -/
def turn (q : List (Walk L)) :
    Turn (List (Walk L)) (Option (Walk L) × List (Walk L)) :=
  match q with
  | [] => .leave (none, [])
  | w :: q => if g w.last then .leave (some w, q) else .again (expand cost succ w q)

variable {cost succ g}

/-! ### One turn -/

theorem foldl_insert_perm (w : Walk L) (ls : List L) (q : List (Walk L)) :
    (ls.foldl (fun q l => insert cost (w.extend l) q) q).Perm (ls.map w.extend ++ q) := by
  induction ls generalizing q with
  | nil => exact .refl _
  | cons l ls ih =>
    have h := (SortedQueue.carry_perm (f := walkCost cost) (w.extend l) q).append_left
      (ls.map w.extend)
    exact ((ih _).trans h).trans List.perm_middle

/-- The queue after an expansion: the extensions and what was left. -/
theorem expand_perm (w : Walk L) (q : List (Walk L)) :
    (expand cost succ w q).Perm ((succ w.last).map w.extend ++ q) :=
  foldl_insert_perm w (succ w.last) q

theorem mem_expand {u w : Walk L} {q : List (Walk L)} :
    u ∈ expand cost succ w q ↔ (∃ l ∈ succ w.last, w.extend l = u) ∨ u ∈ q := by
  rw [(expand_perm w q).mem_iff, List.mem_append, List.mem_map]

theorem sorted_expand {w : Walk L} {q : List (Walk L)}
    (hq : SortedQueue.Sorted (walkCost cost) q) :
    SortedQueue.Sorted (walkCost cost) (expand cost succ w q) := by
  unfold expand
  generalize succ w.last = ls
  induction ls generalizing q with
  | nil => exact hq
  | cons l ls ih => exact ih (hq.carry _)

@[simp] theorem turn_nil : turn cost succ g [] = .leave (none, []) := rfl

theorem turn_cons_goal {w : Walk L} (h : g w.last = true) (q : List (Walk L)) :
    turn cost succ g (w :: q) = .leave (some w, q) := by
  rw [turn, if_pos h]

theorem turn_cons_expand {w : Walk L} (h : ¬ g w.last = true) (q : List (Walk L)) :
    turn cost succ g (w :: q) = .again (expand cost succ w q) := by
  rw [turn, if_neg h]

/-- **A turn that goes round again expands the head**, which is not at a goal. -/
theorem turn_eq_again {q q' : List (Walk L)} (h : turn cost succ g q = .again q') :
    ∃ w r, q = w :: r ∧ ¬ g w.last = true ∧ q' = expand cost succ w r := by
  cases q with
  | nil => rw [turn_nil] at h; cases h
  | cons w r =>
    by_cases hg : g w.last = true
    · rw [turn_cons_goal hg] at h; cases h
    · rw [turn_cons_expand hg] at h
      exact ⟨w, r, rfl, hg, (Turn.again.inj h).symm⟩

/-- **A turn that leaves does so on an empty queue or on a walk to a goal.** -/
theorem turn_eq_leave {q : List (Walk L)} {r : Option (Walk L) × List (Walk L)}
    (h : turn cost succ g q = .leave r) :
    (q = [] ∧ r = (none, [])) ∨
      ∃ w q', q = w :: q' ∧ g w.last = true ∧ r = (some w, q') := by
  cases q with
  | nil => exact Or.inl ⟨rfl, (Turn.leave.inj h).symm⟩
  | cons w q' =>
    by_cases hg : g w.last = true
    · rw [turn_cons_goal hg] at h
      exact Or.inr ⟨w, q', rfl, hg, (Turn.leave.inj h).symm⟩
    · rw [turn_cons_expand hg] at h; cases h

/-! ### What the queue holds -/

variable {roots : List L}

/-- Every walk in the queue is a walk from the roots. -/
def AllWalks (roots : List L) (succ : L → List L) (q : List (Walk L)) : Prop :=
  ∀ w ∈ q, IsWalk roots succ w

/-- Some walk in the queue is a prefix of `w`. -/
def Covers (q : List (Walk L)) (w : Walk L) : Prop := ∃ u ∈ q, IsPrefix u w

theorem AllWalks.expand {w : Walk L} {q : List (Walk L)} (h : AllWalks roots succ (w :: q)) :
    AllWalks roots succ (BestFirst.expand cost succ w q) := by
  intro u hu
  rcases mem_expand.mp hu with ⟨l, hl, rfl⟩ | hu
  · exact .extend (h w List.mem_cons_self) hl
  · exact h u (List.mem_cons_of_mem w hu)

/-- Expanding a walk that is not all of `w` keeps `w` covered. -/
theorem Covers.expand {u w : Walk L} {q : List (Walk L)} (hw : IsWalk roots succ w)
    (h : Covers (u :: q) w) (hne : u ≠ w) : Covers (BestFirst.expand cost succ u q) w := by
  obtain ⟨v, hv, hpre⟩ := h
  rcases List.mem_cons.mp hv with rfl | hv
  · rcases hpre.eq_or_step hw with rfl | ⟨l, hl, hpre⟩
    · exact absurd rfl hne
    · exact ⟨v.extend l, mem_expand.mpr (Or.inl ⟨l, hl, rfl⟩), hpre⟩
  · exact ⟨v, mem_expand.mpr (Or.inr hv), hpre⟩

/-- A queue that holds every root covers every walk. -/
theorem covers_of_roots {q : List (Walk L)} (hq : ∀ r ∈ roots, start r ∈ q) {w : Walk L}
    (hw : IsWalk roots succ w) : Covers q w :=
  ⟨start w.first, hq _ hw.first_mem, start_first_isPrefix w⟩

/-- **A search that stops finds a goal if there is one.** -/
theorem leaves_found {q : List (Walk L)} {r : Option (Walk L) × List (Walk L)} {w : Walk L}
    (hw : IsWalk roots succ w) (hgoal : g w.last = true) (hcov : Covers q w)
    (h : Loop.Leaves (turn cost succ g) q r) : ∃ u, r.1 = some u := by
  refine h.invariant (I := fun q => Covers q w) (P := fun r => ∃ u, r.1 = some u) ?_ ?_ hcov
  · intro q q' hcov hb
    obtain ⟨u, r, rfl, hg, rfl⟩ := turn_eq_again hb
    exact hcov.expand hw fun h => hg (h ▸ hgoal)
  · intro q r hcov hb
    rcases turn_eq_leave hb with ⟨rfl, rfl⟩ | ⟨u, q', rfl, -, rfl⟩
    · obtain ⟨u, hu, -⟩ := hcov
      cases hu
    · exact ⟨u, rfl⟩

/-! ### Termination -/

/-- The number of walks of at most `k` links that start with a given one. -/
def size (succ : L → List L) : ℕ → L → ℕ
  | 0, _ => 0
  | k + 1, l => 1 + ((succ l).map (size succ k)).sum

/-- The number of turns left if no walk of more than `B` links is expanded. -/
def weight (succ : L → List L) (B : ℕ) (q : List (Walk L)) : ℕ :=
  (q.map fun w => size succ (B + 1 - w.length) w.last).sum

theorem weight_expand_lt {B : ℕ} {w : Walk L} (hw : w.length ≤ B) (q : List (Walk L)) :
    weight succ B (expand cost succ w q) < weight succ B (w :: q) := by
  have hexp : (expand cost succ w q).Perm ((succ w.last).map w.extend ++ q) := expand_perm w q
  have hperm := (hexp.map fun w => size succ (B + 1 - w.length) w.last).sum_eq
  have hsub : B + 1 - w.length = (B - w.length) + 1 := by omega
  have hchild : B + 1 - (w.length + 1) = B - w.length := by omega
  have hmap : (List.map ((fun w => size succ (B + 1 - w.length) w.last) ∘ w.extend)
      (succ w.last)).sum = ((succ w.last).map (size succ (B - w.length))).sum := by
    congr 1
    refine List.map_congr_left ?_
    intro l _
    simp only [Function.comp_apply, length_extend, last_extend, hchild]
  rw [weight, hperm, weight, List.map_append, List.sum_append, List.map_map, hmap,
    List.map_cons, List.sum_cons, hsub, size]
  omega

/-- **A search that only expands walks of at most `B` links stops.** -/
theorem stops_of_head_le {I : List (Walk L) → Prop} {B : ℕ}
    (hexp : ∀ w q, I (w :: q) → ¬ g w.last = true →
      w.length ≤ B ∧ I (expand cost succ w q))
    {q : List (Walk L)} (hq : I q) : Loop.Stops (turn cost succ g) q := by
  refine Loop.stops_of_variant (I := I) (weight succ B) ?_ hq
  intro q q' hq hb
  obtain ⟨w, r, rfl, hg, rfl⟩ := turn_eq_again hb
  obtain ⟨hle, hinv⟩ := hexp w r hq hg
  exact ⟨hinv, weight_expand_lt hle r⟩

/-- **Without a cycle reachable from the roots the search stops.** -/
theorem stops_of_acyclic {S : Finset L} (hroots : ∀ r ∈ roots, r ∈ S)
    (hS : ∀ a ∈ S, ∀ b ∈ succ a, b ∈ S)
    (hacyc : ∀ r ∈ roots, ¬ Digraph.ReachesCycle (fun a b => b ∈ succ a) r)
    {q : List (Walk L)} (hq : AllWalks roots succ q) :
    Loop.Stops (turn cost succ g) q :=
  stops_of_head_le (I := AllWalks roots succ) (B := S.card + 1)
    (fun w _ hq _ =>
      ⟨(hq w List.mem_cons_self).length_le_of_acyclic hroots hS hacyc, hq.expand⟩) hq

/-- What a search below the bound `B` keeps: walks of at most `B + 1` links, sorted. -/
structure Bounded (roots : List L) (succ : L → List L) (cost : ℕ → ℕ) (B : ℕ)
    (q : List (Walk L)) : Prop where
  /-- The queue holds walks from the roots. -/
  walks : AllWalks roots succ q
  /-- It is sorted by cost. -/
  sorted : SortedQueue.Sorted (walkCost cost) q
  /-- Its walks have at most `B + 1` links. -/
  length_le : ∀ w ∈ q, w.length ≤ B + 1

theorem Bounded.expand {B : ℕ} {w : Walk L} {q : List (Walk L)}
    (h : Bounded roots succ cost B (w :: q)) (hw : w.length ≤ B) :
    Bounded roots succ cost B (BestFirst.expand cost succ w q) where
  walks := h.walks.expand
  sorted := sorted_expand h.sorted.tail
  length_le u hu := by
    rcases mem_expand.mp hu with ⟨l, -, rfl⟩ | hu
    · simpa using hw
    · exact h.length_le u (List.mem_cons_of_mem w hu)

/-- Where the cost orders walks by length, the head of a sorted queue is no longer
than a covered walk. -/
theorem Bounded.head_le {B : ℕ} (hcost : ∀ i j, i ≤ B + 1 → j ≤ B + 1 → cost i ≤ cost j → i ≤ j)
    {u w : Walk L} {q : List (Walk L)} (h : Bounded roots succ cost B (u :: q))
    (hcov : Covers (u :: q) w) : u.length ≤ w.length := by
  obtain ⟨v, hv, hpre⟩ := hcov
  have hle := hcost _ _ (h.length_le u List.mem_cons_self) (h.length_le v hv)
    (h.sorted.head_le hv)
  exact hle.trans hpre.length_le

/-- **Below the bound where the cost is faithful, the search stops at a shortest walk
to a goal**, and leaves a queue a further search can start from. -/
theorem exists_leaves_shortest {B : ℕ}
    (hcost : ∀ i j, i ≤ B + 1 → j ≤ B + 1 → cost i ≤ cost j → i ≤ j)
    {q : List (Walk L)} (hq : Bounded roots succ cost B q) (hroots : ∀ r ∈ roots, start r ∈ q)
    {w : Walk L} (hw : Shortest (fun w => IsWalk roots succ w ∧ g w.last = true) w)
    (hlen : w.length ≤ B) :
    ∃ u q', Loop.Leaves (turn cost succ g) q (some u, q') ∧
      Shortest (fun w => IsWalk roots succ w ∧ g w.last = true) u ∧
      Bounded roots succ cost B q' := by
  obtain ⟨⟨hwalk, hgoal⟩, hmin⟩ := hw
  -- the shortest walk stays covered, which bounds what is expanded
  let I : List (Walk L) → Prop := fun q => Bounded roots succ cost B q ∧ Covers q w
  have hInv : I q := ⟨hq, covers_of_roots hroots hwalk⟩
  have hstep : ∀ v r, I (v :: r) → ¬ g v.last = true →
      v.length ≤ B ∧ I (expand cost succ v r) := by
    intro v r hr hg
    have hle := (hr.1.head_le hcost hr.2).trans hlen
    exact ⟨hle, hr.1.expand hle, hr.2.expand hwalk fun h => hg (h ▸ hgoal)⟩
  have hstops : Loop.Stops (turn cost succ g) q := stops_of_head_le hstep hInv
  obtain ⟨⟨found, q'⟩, hr⟩ := hstops
  obtain ⟨u, rfl⟩ := leaves_found hwalk hgoal hInv.2 hr
  have hpost := hr.invariant (I := I) (P := fun r =>
    (∀ u, r.1 = some u → (IsWalk roots succ u ∧ g u.last = true) ∧ u.length ≤ w.length) ∧
      Bounded roots succ cost B r.2)
    (fun q q' hq hb => by
      obtain ⟨v, r, rfl, hg, rfl⟩ := turn_eq_again hb
      exact (hstep v r hq hg).2)
    (fun q r hq hb => by
      rcases turn_eq_leave hb with ⟨rfl, rfl⟩ | ⟨v, q', rfl, hg, rfl⟩
      · exact ⟨by simp, hq.1⟩
      · refine ⟨?_, ⟨?_, hq.1.sorted.tail, ?_⟩⟩
        · intro u hu
          cases hu
          exact ⟨⟨hq.1.walks v List.mem_cons_self, hg⟩, hq.1.head_le hcost hq.2⟩
        · intro u hu
          exact hq.1.walks u (List.mem_cons_of_mem v hu)
        · intro u hu
          exact hq.1.length_le u (List.mem_cons_of_mem v hu))
    hInv
  obtain ⟨huw, hule⟩ := hpost.1 u rfl
  exact ⟨u, q', hr, ⟨huw, fun w' hw' => hule.trans (hmin w' hw')⟩, hpost.2⟩

/-! ### Divergence -/

/-- **With a cycle reachable from the queue and no goal to be found, the search never
stops.** -/
theorem not_stops_of_cycle (hgoal : ∀ w, IsWalk roots succ w → ¬ g w.last = true)
    {q : List (Walk L)} (hq : AllWalks roots succ q) {w : Walk L} (hw : w ∈ q)
    (hcyc : Digraph.ReachesCycle (fun a b => b ∈ succ a) w.last) :
    ¬ Loop.Stops (turn cost succ g) q := by
  refine Loop.not_stops_of_invariant (I := fun q => AllWalks roots succ q ∧
    ∃ w ∈ q, Digraph.ReachesCycle (fun a b => b ∈ succ a) w.last) ?_ ⟨hq, w, hw, hcyc⟩
  rintro q ⟨hq, w, hw, hcyc⟩
  cases q with
  | nil => cases hw
  | cons u q =>
    refine ⟨_, turn_cons_expand (hgoal u (hq u List.mem_cons_self)) q, hq.expand, ?_⟩
    rcases List.mem_cons.mp hw with rfl | hw
    · -- the walk that reaches the cycle is expanded towards it
      obtain ⟨l, hl, hcyc⟩ := Digraph.reachesCycle_iff_exists.mp hcyc
      exact ⟨w.extend l, mem_expand.mpr (Or.inl ⟨l, hl, rfl⟩), hcyc⟩
    · exact ⟨w, mem_expand.mpr (Or.inr hw), hcyc⟩

end BestFirst
