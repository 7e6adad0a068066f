import Mathlib.Data.Finset.Card
import Mathlib.Logic.Relation
import Mathlib.Tactic.Common

/-!
# Cycles reachable in a directed graph

A walk through a finite graph can go on for ever exactly when it reaches a cycle.
`ReachesCycle E a` is the form of that statement a proof of divergence needs (one
step away there is again such a node), and a graph without a reachable cycle is
well founded below `a`, with a bound on the length of the walks.

## Main results

* `reachesCycle_iff_exists` — a node reaches a cycle when a successor does.
* `ReachesCycle.of_restrict` — a subgraph that keeps the cycles.
* `card_reach_lt` — following an edge off all cycles shrinks what is reachable.
* `acc_of_not_reachesCycle` — off all cycles the edge relation is well founded.
-/

namespace Digraph

open Relation

variable {ν : Type*} {E : ν → ν → Prop}

/-- Some node reachable from `a` lies on a cycle. -/
def ReachesCycle (E : ν → ν → Prop) (a : ν) : Prop :=
  ∃ c, ReflTransGen E a c ∧ TransGen E c c

theorem ReachesCycle.of_edge {a b : ν} (hab : E a b) (hb : ReachesCycle E b) :
    ReachesCycle E a := by
  obtain ⟨c, hbc, hc⟩ := hb
  exact ⟨c, .head hab hbc, hc⟩

/-- **A node reaches a cycle exactly when one of its successors does.** -/
theorem reachesCycle_iff_exists {a : ν} :
    ReachesCycle E a ↔ ∃ b, E a b ∧ ReachesCycle E b := by
  constructor
  · rintro ⟨c, hac, hc⟩
    rcases ReflTransGen.cases_head hac with rfl | ⟨b, hab, hbc⟩
    · -- `a` lies on the cycle itself, and so does its successor there
      obtain ⟨b, hab, hba⟩ := (TransGen.head'_iff).mp hc
      exact ⟨b, hab, a, hba, hc⟩
    · exact ⟨b, hab, c, hbc, hc⟩
  · rintro ⟨b, hab, hb⟩
    exact hb.of_edge hab

theorem ReachesCycle.mono {E' : ν → ν → Prop} (h : ∀ a b, E a b → E' a b) {a : ν}
    (ha : ReachesCycle E a) : ReachesCycle E' a := by
  obtain ⟨c, hac, hc⟩ := ha
  exact ⟨c, ReflTransGen.mono h a c hac, TransGen.mono h c c hc⟩

/-- **Cycles survive in a subgraph** that has the edges between the nodes that reach one. -/
theorem ReachesCycle.of_restrict {E' : ν → ν → Prop}
    (h : ∀ a b, E a b → ReachesCycle E a → ReachesCycle E b → E' a b) {a : ν}
    (ha : ReachesCycle E a) : ReachesCycle E' a := by
  obtain ⟨c, hac, hc⟩ := ha
  have hcyc : ReachesCycle E c := ⟨c, .refl, hc⟩
  refine ⟨c, ?_, ?_⟩
  · induction hac using ReflTransGen.head_induction_on with
    | refl => exact .refl
    | head hab hbc ih =>
      exact .head (h _ _ hab ⟨c, .head hab hbc, hc⟩ ⟨c, hbc, hc⟩) ih
  · -- every node of the walk back to `c` reaches `c`
    have hwalk : ∀ x, TransGen E x c → TransGen E' x c := by
      intro x hx
      induction hx using TransGen.head_induction_on with
      | single hxc => exact .single (h _ _ hxc (hcyc.of_edge hxc) hcyc)
      | head hxy hyc ih =>
        have hy : ReachesCycle E _ := ⟨c, hyc.to_reflTransGen, hc⟩
        exact .head (h _ _ hxy (hy.of_edge hxy) hy) ih
    exact hwalk c hc

section Finite

open Classical in
/-- The nodes of `S` reachable from `a`. -/
noncomputable def reach (E : ν → ν → Prop) (S : Finset ν) (a : ν) : Finset ν :=
  S.filter fun x => ReflTransGen E a x

theorem mem_reach {S : Finset ν} {a x : ν} :
    x ∈ reach E S a ↔ x ∈ S ∧ ReflTransGen E a x := by
  simp [reach]

theorem card_reach_le {S : Finset ν} (a : ν) : (reach E S a).card ≤ S.card := by
  classical
  exact Finset.card_filter_le _ _

/-- **Off all cycles, an edge out of `S` strictly shrinks what is reachable in `S`.** -/
theorem card_reach_lt {S : Finset ν} {a b : ν} (ha : a ∈ S) (hab : E a b)
    (hacyc : ¬ ReachesCycle E a) : (reach E S b).card < (reach E S a).card := by
  refine Finset.card_lt_card ⟨?_, ?_⟩
  · intro x hx
    obtain ⟨hxS, hbx⟩ := mem_reach.mp hx
    exact mem_reach.mpr ⟨hxS, .head hab hbx⟩
  · intro hsub
    -- otherwise `a` would be reachable from its own successor
    have haa : a ∈ reach E S b := hsub (mem_reach.mpr ⟨ha, .refl⟩)
    exact hacyc ⟨a, .refl, TransGen.head' hab (mem_reach.mp haa).2⟩

/-- **Off all cycles a finite edge relation is well founded.** -/
theorem acc_of_not_reachesCycle {S : Finset ν} (hS : ∀ a b, E a b → a ∈ S) {a : ν}
    (hacyc : ¬ ReachesCycle E a) : Acc (fun b a => E a b) a := by
  induction hn : (reach E S a).card using Nat.strong_induction_on generalizing a with
  | _ n ih =>
    refine ⟨_, ?_⟩
    intro b hab
    exact ih _ (hn ▸ card_reach_lt (hS a b hab) hab hacyc) (fun hb => hacyc (hb.of_edge hab)) rfl

end Finite

end Digraph
