import Mathlib.Data.List.Basic
import Mathlib.Data.List.Perm.Subperm
import Mathlib.Data.Nat.Find
import Redes.Lib.Digraph

/-!
# Walks

A walk starts at a root and is extended one link at a time.  Search algorithms keep
walks by their last link, so a walk is built the same way round.

## Main definitions

* `Walk` — a nonempty sequence of links, the last one outermost.
* `IsWalk roots succ w` — `w` starts at a root and follows `succ`.
* `IsPrefix u w` — `w` extends `u`.
* `Shortest P w` — no walk with `P` is shorter than `w`.

## Main results

* `IsWalk.length_le_of_acyclic` — off all cycles the length of the walks is bounded.
* `Shortest.links_nodup` — a shortest walk to a goal repeats no link.
* `Shortest.length_le` — so it has at most one link more than there are links to add.
-/

/-- A nonempty sequence of links, the last one outermost. -/
inductive Walk (L : Type*)
  /-- The walk with the single link `l`. -/
  | start (l : L)
  /-- `w` followed by the link `l`. -/
  | extend (w : Walk L) (l : L)
  deriving DecidableEq, Repr

namespace Walk

variable {L : Type*}

/-- The last link of a walk. -/
def last : Walk L → L
  | start l => l
  | extend _ l => l

/-- The first link of a walk. -/
def first : Walk L → L
  | start l => l
  | extend w _ => w.first

/-- The number of links of a walk. -/
def length : Walk L → ℕ
  | start _ => 1
  | extend w _ => w.length + 1

/-- The links of a walk, the last one first. -/
def links : Walk L → List L
  | start l => [l]
  | extend w l => l :: w.links

@[simp] theorem last_start (l : L) : (start l).last = l := rfl
@[simp] theorem last_extend (w : Walk L) (l : L) : (w.extend l).last = l := rfl
@[simp] theorem first_start (l : L) : (start l).first = l := rfl
@[simp] theorem first_extend (w : Walk L) (l : L) : (w.extend l).first = w.first := rfl
@[simp] theorem length_start (l : L) : (start l).length = 1 := rfl
@[simp] theorem length_extend (w : Walk L) (l : L) : (w.extend l).length = w.length + 1 := rfl
@[simp] theorem links_start (l : L) : (start l).links = [l] := rfl
@[simp] theorem links_extend (w : Walk L) (l : L) : (w.extend l).links = l :: w.links := rfl

theorem length_pos (w : Walk L) : 0 < w.length := by cases w <;> simp

@[simp] theorem length_links (w : Walk L) : w.links.length = w.length := by
  induction w with
  | start l => rfl
  | extend w l ih => simp [ih]

/-- `w` starts at a root and each further link is a successor of the one before. -/
inductive IsWalk (roots : List L) (succ : L → List L) : Walk L → Prop
  | start {l : L} (h : l ∈ roots) : IsWalk roots succ (start l)
  | extend {w : Walk L} {l : L} (hw : IsWalk roots succ w) (h : l ∈ succ w.last) :
      IsWalk roots succ (w.extend l)

variable {roots : List L} {succ : L → List L}

theorem IsWalk.first_mem {w : Walk L} (h : IsWalk roots succ w) : w.first ∈ roots := by
  induction h with
  | start h => exact h
  | extend _ _ ih => exact ih

/-- `w` extends `u` by zero or more links. -/
inductive IsPrefix (u : Walk L) : Walk L → Prop
  | refl : IsPrefix u u
  | extend {w : Walk L} (h : IsPrefix u w) (l : L) : IsPrefix u (w.extend l)

theorem IsPrefix.trans {u v w : Walk L} (huv : IsPrefix u v) (hvw : IsPrefix v w) :
    IsPrefix u w := by
  induction hvw with
  | refl => exact huv
  | extend _ l ih => exact .extend ih l

theorem IsPrefix.length_le {u w : Walk L} (h : IsPrefix u w) : u.length ≤ w.length := by
  induction h with
  | refl => exact le_rfl
  | extend _ _ ih => exact ih.trans (Nat.le_succ _)

theorem start_first_isPrefix (w : Walk L) : IsPrefix (start w.first) w := by
  induction w with
  | start l => exact .refl
  | extend w l ih => exact .extend ih l

/-- A prefix is the whole walk, or the walk goes on from it by one more link. -/
theorem IsPrefix.eq_or_step {u w : Walk L} (hw : IsWalk roots succ w) (h : IsPrefix u w) :
    u = w ∨ ∃ l ∈ succ u.last, IsPrefix (u.extend l) w := by
  induction h with
  | refl => exact Or.inl rfl
  | @extend w h l ih =>
    cases hw with
    | extend hw hl =>
      rcases ih hw with rfl | ⟨l', hl', hpre⟩
      · exact Or.inr ⟨l, hl, .refl⟩
      · exact Or.inr ⟨l', hl', .extend hpre l⟩

/-- Every link of a walk is the last one of a prefix. -/
theorem exists_isPrefix_of_mem_links {w : Walk L} {l : L} (h : l ∈ w.links) :
    ∃ u, IsPrefix u w ∧ u.last = l := by
  induction w with
  | start l' => exact ⟨.start l', .refl, (List.mem_singleton.mp h).symm⟩
  | extend w l' ih =>
    rcases List.mem_cons.mp h with rfl | h
    · exact ⟨w.extend l, .refl, rfl⟩
    · obtain ⟨u, hu, hlast⟩ := ih h
      exact ⟨u, .extend hu l', hlast⟩

theorem IsPrefix.isWalk {u w : Walk L} (h : IsPrefix u w) (hw : IsWalk roots succ w) :
    IsWalk roots succ u := by
  induction h with
  | refl => exact hw
  | extend _ _ ih => cases hw with | extend hw _ => exact ih hw

/-- The part of a walk after a prefix can be moved behind another walk that ends in
the same link. -/
theorem IsPrefix.graft {u v w : Walk L} (hw : IsWalk roots succ w) (h : IsPrefix v w)
    (hu : IsWalk roots succ u) (hlast : u.last = v.last) :
    ∃ w', IsWalk roots succ w' ∧ w'.last = w.last ∧
      w'.length + v.length = u.length + w.length := by
  induction h with
  | refl => exact ⟨u, hu, hlast, rfl⟩
  | @extend w h l ih =>
    cases hw with
    | extend hw hl =>
      obtain ⟨w', hw', hlast', hlen⟩ := ih hw
      refine ⟨w'.extend l, .extend hw' (hlast' ▸ hl), rfl, ?_⟩
      simp only [length_extend]
      omega

/-! ### Walks off all cycles -/

theorem IsWalk.not_reachesCycle
    (hacyc : ∀ r ∈ roots, ¬ Digraph.ReachesCycle (fun a b => b ∈ succ a) r) {w : Walk L}
    (hw : IsWalk roots succ w) : ¬ Digraph.ReachesCycle (fun a b => b ∈ succ a) w.last := by
  induction hw with
  | start h => exact hacyc _ h
  | extend _ h ih => exact fun hc => ih (hc.of_edge h)

/-- The last link of a walk lies in every set that holds the roots and is closed under
successors. -/
theorem IsWalk.last_mem {S : Set L} (hroots : ∀ r ∈ roots, r ∈ S)
    (hS : ∀ a ∈ S, ∀ b ∈ succ a, b ∈ S) {w : Walk L} (hw : IsWalk roots succ w) : w.last ∈ S := by
  induction hw with
  | start h => exact hroots _ h
  | extend _ h ih => exact hS _ ih _ h

/-- **Off all cycles the length of the walks is bounded** by the size of a closed set. -/
theorem IsWalk.length_le_of_acyclic {S : Finset L} (hroots : ∀ r ∈ roots, r ∈ S)
    (hS : ∀ a ∈ S, ∀ b ∈ succ a, b ∈ S)
    (hacyc : ∀ r ∈ roots, ¬ Digraph.ReachesCycle (fun a b => b ∈ succ a) r) {w : Walk L}
    (hw : IsWalk roots succ w) : w.length ≤ S.card + 1 := by
  have key : w.length + (Digraph.reach (fun a b => b ∈ succ a) S w.last).card ≤ S.card + 1 := by
    induction hw with
    | start h =>
      have := Digraph.card_reach_le (E := fun a b => b ∈ succ a) (S := S)
      simp only [length_start, last_start]
      exact (Nat.add_le_add_left (this _) 1).trans (by omega)
    | extend hw h ih =>
      have hmem := hw.last_mem (S := S) hroots hS
      have := Digraph.card_reach_lt (Finset.mem_coe.mp hmem) h (hw.not_reachesCycle hacyc)
      simp only [length_extend, last_extend]
      omega
  omega

/-! ### Shortest walks -/

/-- `w` has `P`, and no walk with `P` has fewer links. -/
def Shortest (P : Walk L → Prop) (w : Walk L) : Prop := P w ∧ ∀ w', P w' → w.length ≤ w'.length

theorem exists_shortest {P : Walk L → Prop} {w : Walk L} (h : P w) : ∃ w', Shortest P w' := by
  classical
  have hex : ∃ n, ∃ w', P w' ∧ w'.length = n := ⟨_, w, h, rfl⟩
  obtain ⟨w', hw', hlen⟩ := Nat.find_spec hex
  exact ⟨w', hw', fun w'' hw'' => hlen ▸ Nat.find_min' hex ⟨w'', hw'', rfl⟩⟩

variable {g : L → Prop}

/-- **A shortest walk to a goal repeats no link**: the part between two occurrences
could be left out. -/
theorem Shortest.links_nodup {w : Walk L}
    (h : Shortest (fun w => IsWalk roots succ w ∧ g w.last) w) : w.links.Nodup := by
  obtain ⟨⟨hw, hgoal⟩, hmin⟩ := h
  have key : ∀ v, IsPrefix v w → v.links.Nodup := by
    intro v
    induction v with
    | start l => intro _; simp
    | extend v l ih =>
      intro hv
      have hvw : IsPrefix v w := .trans (.extend .refl l) hv
      refine List.nodup_cons.mpr ⟨?_, ih hvw⟩
      intro hmem
      -- `u` reaches the repeated link earlier, so the rest of `w` can be moved to it
      obtain ⟨u, hu, hlast⟩ := exists_isPrefix_of_mem_links hmem
      obtain ⟨w', hw', hlast', hlen⟩ := hv.graft hw ((hu.trans hvw).isWalk hw) hlast
      have hle := hmin w' ⟨hw', hlast' ▸ hgoal⟩
      have hule := hu.length_le
      simp only [length_extend] at hlen
      omega
  exact key w .refl

/-- The links after the first one are successors of some link. -/
theorem IsWalk.links_subset {T : List L} (hT : ∀ a, succ a ⊆ T) {w : Walk L}
    (hw : IsWalk roots succ w) : w.links ⊆ w.first :: T := by
  induction hw with
  | start h => simp
  | @extend w l _ hl ih =>
    rw [links_extend, List.cons_subset]
    exact ⟨List.mem_cons_of_mem _ (hT _ hl), ih⟩

/-- **A shortest walk to a goal has at most one link more than there are links to add.** -/
theorem Shortest.length_le {T : List L} (hT : ∀ a, succ a ⊆ T) {w : Walk L}
    (h : Shortest (fun w => IsWalk roots succ w ∧ g w.last) w) :
    w.length ≤ T.length + 1 := by
  have hsub := (List.subperm_of_subset h.links_nodup (h.1.1.links_subset hT)).length_le
  simpa using hsub

end Walk
