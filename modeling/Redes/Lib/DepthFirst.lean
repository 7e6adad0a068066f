import Redes.Lib.Digraph
import Redes.Lib.Fuel

/-!
# Depth-first visits that remove what they have visited

A visit to a node visits its successors one after the other, and then removes the node;
a node that is no longer there is passed over.  Nothing marks a node whose visit is
still going on, so a visit goes round a cycle for ever.  If the visit to a successor
removes the node it is made from, the visit has lost its place.

## Main definitions

* `visit` — the visit, with the depth of the recursion as fuel.
* `Edge` — the edges between nodes that are there.
* `Left` — what is left when nodes are removed together with their successors.

## Main results

* `exists_visit_ok` — a visit that cannot reach a cycle ends.
* `visit_diverges` — a visit that can does not.
* `mem_visit_iff` — what a visit leaves is what it cannot reach.
-/

namespace DepthFirst

open Digraph Fuel Relation

variable {ν : Type*} [DecidableEq ν]

/-- Why a visit stops without a result. -/
inductive Stop
  /-- The depth of the recursion is not enough. -/
  | outOfFuel
  /-- The node was removed while its successors were visited. -/
  | lost
  deriving DecidableEq

/-- Visit one successor of `a`. -/
def visitNext (visit : ν → Finset ν → Except Stop (Finset ν)) (a : ν) (alive : Finset ν) (b : ν) :
    Except Stop (Finset ν) := do
  let alive ← visit b alive
  if a ∈ alive then .ok alive else .error .lost

/-- Visit a node: the result is what is left. -/
def visit (next : ν → List ν) : ℕ → ν → Finset ν → Except Stop (Finset ν)
  | 0, _, _ => .error .outOfFuel
  | n + 1, a, alive =>
      if a ∈ alive then do
        let alive ← (next a).foldlM (visitNext (visit next n) a) alive
        .ok (alive.erase a)
      else .ok alive

/-- The edges between the nodes that are there. -/
def Edge (next : ν → List ν) (alive : Finset ν) (a b : ν) : Prop :=
  a ∈ alive ∧ b ∈ alive ∧ b ∈ next a

variable {next : ν → List ν}

omit [DecidableEq ν] in
theorem Edge.mono {alive alive' : Finset ν} (h : alive' ⊆ alive) {a b : ν}
    (hab : Edge next alive' a b) : Edge next alive a b := ⟨h hab.1, h hab.2.1, hab.2.2⟩

/-! ### Fuel -/

theorem stable_visitNext {f : ℕ → ν → Finset ν → Except Stop (Finset ν)}
    (hf : ∀ b alive, Stable .outOfFuel fun n => f n b alive) (a : ν) (alive : Finset ν) (b : ν) :
    Stable .outOfFuel fun n => visitNext (f n) a alive b :=
  Stable.bind (hf b alive) fun _ => stable_const _

/-- More fuel does not change a visit that ends. -/
theorem stable_visit (a : ν) (alive : Finset ν) :
    Stable .outOfFuel fun n => visit next n a alive := by
  intro n m hnm h
  induction n generalizing m a alive with
  | zero => exact absurd rfl h
  | succ n ih =>
    obtain ⟨m, rfl⟩ : ∃ k, m = k + 1 := ⟨m - 1, by omega⟩
    have hnm' : n ≤ m := Nat.le_of_succ_le_succ hnm
    by_cases ha : a ∈ alive
    · have hfold : (next a).foldlM (visitNext (visit next n) a) alive ≠ .error .outOfFuel := by
        intro he
        apply h
        simp only [visit, if_pos ha, he]
        rfl
      have hstep : ∀ s b, visitNext (visit next n) a s b ≠ .error .outOfFuel →
          visitNext (visit next m) a s b = visitNext (visit next n) a s b := by
        intro s b hne
        have hb : visit next n b s ≠ .error .outOfFuel := by
          intro he
          apply hne
          simp only [visitNext, he]
          rfl
        have hvisit : visit next m b s = visit next n b s := ih b s m hnm' hb
        simp only [visitNext, hvisit]
      simp only [visit, if_pos ha]
      rw [foldlM_eq_of_ne hstep (next a) hfold]
    · simp only [visit, if_neg ha]

/-! ### Visits that end -/

/-- **A visit that cannot reach a cycle ends**, and removes only what it can reach. -/
theorem exists_visit_ok {a : ν} {alive : Finset ν} (hacyc : ¬ ReachesCycle (Edge next alive) a) :
    ∃ n alive', visit next n a alive = .ok alive' ∧ alive' ⊆ alive ∧
      ∀ x ∈ alive, x ∉ alive' → ReflTransGen (Edge next alive) a x := by
  -- what is there shrinks on the way; the edges of the start bound the recursion
  have key : ∀ b, Acc (fun y x => Edge next alive x y) b → ¬ ReachesCycle (Edge next alive) b →
      ∀ s, s ⊆ alive → ∃ n s', visit next n b s = .ok s' ∧ s' ⊆ s ∧
        ∀ x ∈ s, x ∉ s' → ReflTransGen (Edge next alive) b x := by
    intro b hacc
    induction hacc with
    | intro b _ ih =>
      intro hb s hs
      by_cases hbs : b ∈ s
      · have hstep : ∀ t, ∀ c ∈ next b, (t ⊆ s ∧ b ∈ t ∧
            ∀ x ∈ s, x ∉ t → ReflTransGen (Edge next alive) b x) →
            ∃ n t', visitNext (visit next n) b t c = .ok t' ∧ (t' ⊆ s ∧ b ∈ t' ∧
              ∀ x ∈ s, x ∉ t' → ReflTransGen (Edge next alive) b x) := by
          rintro t c hc ⟨hts, hbt, hreach⟩
          by_cases hct : c ∈ t
          · have hbc : Edge next alive b c := ⟨hs hbs, hs (hts hct), hc⟩
            obtain ⟨n, t', hvisit, ht', hgone⟩ :=
              ih c hbc (fun h => hb (h.of_edge hbc)) t (hts.trans hs)
            have hbt' : b ∈ t' := by
              by_contra hlost
              exact hb ⟨b, .refl, TransGen.head' hbc (hgone b hbt hlost)⟩
            refine ⟨n, t', ?_, ht'.trans hts, hbt', ?_⟩
            · simp only [visitNext, hvisit]
              exact if_pos hbt'
            · intro x hx hxt'
              by_cases hxt : x ∈ t
              · exact .head hbc (hgone x hxt hxt')
              · exact hreach x hx hxt
          · refine ⟨1, t, ?_, hts, hbt, hreach⟩
            simp only [visitNext, visit, if_neg hct]
            exact if_pos hbt
        obtain ⟨n, t, hfold, hts, hbt, hreach⟩ :=
          Stable.exists_foldlM_ok (fun t c => stable_visitNext (fun c t => stable_visit c t) b t c)
            hstep (s := s) ⟨Finset.Subset.refl s, hbs, fun x hx hxs => absurd hx hxs⟩
        refine ⟨n + 1, t.erase b, ?_, (Finset.erase_subset b t).trans hts, ?_⟩
        · simp only [visit, if_pos hbs, hfold]
          rfl
        · intro x hx hxt
          by_cases hxb : x = b
          · rw [hxb]
          · exact hreach x hx fun hmem => hxt (Finset.mem_erase.mpr ⟨hxb, hmem⟩)
      · exact ⟨1, s, by simp only [visit, if_neg hbs], Finset.Subset.refl s,
          fun x hx hxs => absurd hx hxs⟩
  exact key a (acc_of_not_reachesCycle (S := alive) (fun _ _ h => h.1) hacyc) hacyc alive
    (Finset.Subset.refl alive)

/-- A visit that cannot reach a cycle and has enough fuel gives what is left. -/
theorem visit_ok_of_ne {a : ν} {alive : Finset ν}
    (hacyc : ¬ ReachesCycle (Edge next alive) a) {n : ℕ}
    (h : visit next n a alive ≠ .error .outOfFuel) :
    ∃ alive', visit next n a alive = .ok alive' ∧ alive' ⊆ alive ∧
      ∀ x ∈ alive, x ∉ alive' → ReflTransGen (Edge next alive) a x := by
  obtain ⟨k, alive', hvisit, hsub, hgone⟩ := exists_visit_ok hacyc
  have hk : visit next k a alive ≠ .error .outOfFuel := by rw [hvisit]; simp
  have heq : visit next n a alive = visit next k a alive := (stable_visit a alive).eq_of_ne h hk
  exact ⟨alive', heq.trans hvisit, hsub, hgone⟩

/-! ### Visits that do not end -/

/-- **A visit that can reach a cycle does not end.** -/
theorem visit_diverges {a : ν} {alive : Finset ν} (hcyc : ReachesCycle (Edge next alive) a)
    (n : ℕ) : visit next n a alive = .error .outOfFuel := by
  induction n generalizing a alive with
  | zero => rfl
  | succ n ih =>
    obtain ⟨b, hab, hb⟩ := reachesCycle_iff_exists.mp hcyc
    -- while no cycle has been entered, all nodes that reach one are still there
    have key : ∀ (l : List ν) (s : Finset ν), (∃ c ∈ l, ReachesCycle (Edge next alive) c) →
        s ⊆ alive → (∀ x ∈ alive, ReachesCycle (Edge next alive) x → x ∈ s) →
          l.foldlM (visitNext (visit next n) a) s = .error .outOfFuel := by
      intro l
      induction l with
      | nil =>
        rintro s ⟨c, hc, -⟩
        cases hc
      | cons c l ihl =>
        intro s hex hs hkeep
        rw [List.foldlM_cons]
        by_cases hc : ReachesCycle (Edge next alive) c
        · have hcs : ReachesCycle (Edge next s) c :=
            hc.of_restrict fun x y hxy hx hy =>
              ⟨hkeep x hxy.1 hx, hkeep y hxy.2.1 hy, hxy.2.2⟩
          simp only [visitNext, ih hcs]
          rfl
        · have hcs : ¬ ReachesCycle (Edge next s) c := fun h =>
            hc (h.mono fun _ _ => Edge.mono hs)
          by_cases hout : visit next n c s = .error .outOfFuel
          · simp only [visitNext, hout]
            rfl
          · obtain ⟨s', hvisit, hs', hgone⟩ := visit_ok_of_ne hcs hout
            have hkeep' : ∀ x ∈ alive, ReachesCycle (Edge next alive) x → x ∈ s' := by
              intro x hx hxc
              by_contra hxs
              obtain ⟨d, hd, hdd⟩ := hxc
              have hcx : ReflTransGen (Edge next alive) c x :=
                ReflTransGen.mono (fun _ _ => Edge.mono hs) c x
                  (hgone x (hkeep x hx ⟨d, hd, hdd⟩) hxs)
              exact hc ⟨d, hcx.trans hd, hdd⟩
            have hstep : visitNext (visit next n) a s c = .ok s' := by
              simp only [visitNext, hvisit]
              exact if_pos (hkeep' a hab.1 hcyc)
            rw [hstep]
            refine ihl s' ?_ (hs'.trans hs) hkeep'
            obtain ⟨d, hd, hdc⟩ := hex
            rcases List.mem_cons.mp hd with rfl | hd
            · exact absurd hdc hc
            · exact ⟨d, hd, hdc⟩
    simp only [visit, if_pos hab.1]
    rw [key (next a) alive ⟨b, hab.2.2, hb⟩ (Finset.Subset.refl alive) fun x hx _ => hx]
    rfl

/-! ### What is left of a visit -/

/-- What is left of some nodes after others were removed, each one together with its
successors. -/
structure Left (next : ν → List ν) (alive alive' : Finset ν) : Prop where
  /-- Nothing is added. -/
  subset : alive' ⊆ alive
  /-- No successor of a removed node is left. -/
  closed : ∀ y ∈ alive, y ∉ alive' → ∀ z ∈ next y, z ∉ alive'

omit [DecidableEq ν] in
theorem Left.refl (alive : Finset ν) : Left next alive alive :=
  ⟨Finset.Subset.refl alive, fun _ hy hny => absurd hy hny⟩

omit [DecidableEq ν] in
theorem Left.trans {s t u : Finset ν} (h : Left next s t) (h' : Left next t u) :
    Left next s u := by
  refine ⟨h'.subset.trans h.subset, ?_⟩
  intro y hy hyu z hz
  by_cases hyt : y ∈ t
  · exact h'.closed y hyt hyu z hz
  · exact fun hzu => h.closed y hy hyt z hz (h'.subset hzu)

omit [DecidableEq ν] in
/-- A path to a node that is left goes through nodes that are left. -/
theorem Left.reflTransGen {s t : Finset ν} (h : Left next s t) {a x : ν} (hx : x ∈ t)
    (hax : ReflTransGen (Edge next s) a x) : ReflTransGen (Edge next t) a x := by
  have key : ReflTransGen (Edge next t) a x ∧ a ∈ t := by
    induction hax using ReflTransGen.head_induction_on with
    | refl => exact ⟨.refl, hx⟩
    | @head a b hab _ ih =>
      have ha : a ∈ t := by
        by_contra ha
        exact h.closed a hab.1 ha b hab.2.2 ih.2
      exact ⟨.head ⟨ha, ih.2, hab.2.2⟩ ih.1, ha⟩
  exact key.1

/-- **A visit removes a node together with its successors**, and the node it is made to. -/
theorem visit_left {n : ℕ} {a : ν} {alive alive' : Finset ν}
    (h : visit next n a alive = .ok alive') : Left next alive alive' ∧ a ∉ alive' := by
  induction n generalizing a alive alive' with
  | zero => cases h
  | succ n ih =>
    by_cases ha : a ∈ alive
    · simp only [visit, if_pos ha] at h
      obtain ⟨t, hfold, h⟩ := exists_of_bind_eq_ok h
      cases h
      -- the successors are visited one after the other
      have key : ∀ (l : List ν) (s t : Finset ν), l.foldlM (visitNext (visit next n) a) s = .ok t →
          Left next s t ∧ ∀ b ∈ l, b ∉ t := by
        intro l
        induction l with
        | nil =>
          intro s t h
          cases h
          exact ⟨.refl s, by simp⟩
        | cons b l ihl =>
          intro s t h
          obtain ⟨u, hb, hrest⟩ := foldlM_cons_ok h
          obtain ⟨u', hvisit, hu⟩ := exists_of_bind_eq_ok hb
          have hu' : u' = u := by
            split at hu
            · exact Except.ok.inj hu
            · cases hu
          subst hu'
          obtain ⟨hsu, hbu⟩ := ih hvisit
          obtain ⟨hut, hl⟩ := ihl u' t hrest
          refine ⟨hsu.trans hut, ?_⟩
          intro x hx
          rcases List.mem_cons.mp hx with rfl | hx
          · exact fun hxt => hbu (hut.subset hxt)
          · exact hl x hx
      obtain ⟨hleft, hgone⟩ := key (next a) alive t hfold
      refine ⟨⟨(Finset.erase_subset a t).trans hleft.subset, ?_⟩, Finset.notMem_erase a t⟩
      intro y hy hyt z hz hzt
      have hzt := Finset.mem_of_mem_erase hzt
      by_cases hya : y = a
      · exact hgone z (hya ▸ hz) hzt
      · exact hleft.closed y hy (fun hmem => hyt (Finset.mem_erase.mpr ⟨hya, hmem⟩)) z hz hzt
    · simp only [visit, if_neg ha] at h
      cases h
      exact ⟨.refl alive, ha⟩

/-- **What a visit leaves** is what it cannot reach. -/
theorem mem_visit_iff {n : ℕ} {a : ν} {alive alive' : Finset ν}
    (h : visit next n a alive = .ok alive') {x : ν} :
    x ∈ alive' ↔ x ∈ alive ∧ ¬ ReflTransGen (Edge next alive) a x := by
  have hacyc : ¬ ReachesCycle (Edge next alive) a := by
    intro hcyc
    rw [visit_diverges hcyc] at h
    cases h
  obtain ⟨hleft, ha⟩ := visit_left h
  obtain ⟨t, ht, -, hreach⟩ := visit_ok_of_ne hacyc (n := n) (by rw [h]; simp)
  rw [h] at ht
  cases ht
  constructor
  · intro hx
    refine ⟨hleft.subset hx, fun hax => ?_⟩
    -- the path would start at a node that is left
    have hax := hleft.reflTransGen hx hax
    rcases ReflTransGen.cases_head hax with rfl | ⟨b, hab, -⟩
    · exact ha hx
    · exact ha hab.1
  · rintro ⟨hx, hno⟩
    by_contra hgone
    exact hno (hreach x hx hgone)

/-- A visit that ends leaves what leads to a cycle. -/
theorem visit_keeps {n : ℕ} {a : ν} {alive alive' : Finset ν}
    (h : visit next n a alive = .ok alive') {x : ν} (hx : x ∈ alive)
    (hcyc : ReachesCycle (Edge next alive) x) : x ∈ alive' := by
  refine (mem_visit_iff h).mpr ⟨hx, fun hax => ?_⟩
  obtain ⟨c, hxc, hc⟩ := hcyc
  rw [visit_diverges ⟨c, hax.trans hxc, hc⟩] at h
  cases h

end DepthFirst
