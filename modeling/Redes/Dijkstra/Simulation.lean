import Redes.Dijkstra.Run
import Redes.Lib.BestFirst

/-!
# The search in memory is a best-first search over walks

The items of `run_dijkstra` stand for walks: an item's parents, read up to the item
without one, are the walk's links from the last to the first.  The heap is then a
queue of walks, and a search in memory goes round in lockstep with the best-first
search over walks, whatever the stack holds.

## Main definitions

* `firstLinks`, `nextLinks` — the roots and the successors of the search.
* `ItemAt m a w` — the item at `a` stands for the walk `w`.
* `HeapIs m q` — the heap holds the walks `q`, in order.
* `MemOk` — every item stands for a walk, and lists lead to items only.

## Main results

* `root_spec` — the root of an item carries the first link of its walk.
* `grows_pushNeighbors`, `grows_expandItem` — the two ways the heap grows.
* `searchTurn_rel` — one pop simulates one turn of the search.
-/

namespace Redes

open Walk

/-- The links a search starts with, in the order of the interfaces. -/
def firstLinks (routerId : IpAddr) (topology : List TopologyEntry) (ifList : List SrIf) :
    List TopologyEntry :=
  (ifList.filter fun i => searchTopolgyTable topology i.network && i.neighborId != 0).map
    (firstLink routerId)

/-- The links that can follow a link; a link without neighbour is the end of a path. -/
def nextLinks (topology : List TopologyEntry) (link : TopologyEntry) : List TopologyEntry :=
  if link.neighborId = 0 then [] else topology.filter fun e => Follows link e

/-- The cost the items carry: the length of the walk modulo 256. -/
def itemCost (n : ℕ) : ℕ := (UInt8.ofNat n).toNat

theorem itemCost_of_lt {n : ℕ} (h : n < 256) : itemCost n = n := by
  simp [itemCost, Nat.mod_eq_of_lt h]

theorem mem_nextLinks {topology : List TopologyEntry} {link e : TopologyEntry} :
    e ∈ nextLinks topology link ↔ link.neighborId ≠ 0 ∧ e ∈ topology ∧ Follows link e := by
  by_cases h : link.neighborId = 0 <;> simp [nextLinks, h]

theorem mem_firstLinks {routerId : IpAddr} {topology : List TopologyEntry} {ifList : List SrIf}
    {l : TopologyEntry} : l ∈ firstLinks routerId topology ifList ↔
      ∃ i ∈ ifList, (searchTopolgyTable topology i.network = true ∧ i.neighborId ≠ 0) ∧
        firstLink routerId i = l := by
  simp [firstLinks, and_assoc]

/-! ### Items and walks -/

/-- The item at `a` stands for the walk `w`. -/
def ItemAt (m : Mem) : ℕ → Walk TopologyEntry → Prop
  | a, .start l =>
      (2 ≤ a ∧ a < m.top) ∧ (m.node a).topologyEntry = l ∧ (m.node a).cost = 1 ∧
        (m.node a).parent = none
  | a, .extend w l =>
      (2 ≤ a ∧ a < m.top) ∧ (m.node a).topologyEntry = l ∧
        (m.node a).cost = UInt8.ofNat (w.length + 1) ∧
        ∃ b < a, (m.node a).parent = some b ∧ ItemAt m b w

variable {m m' : Mem} {a b : ℕ} {w : Walk TopologyEntry}

theorem ItemAt.bounds (h : ItemAt m a w) : 2 ≤ a ∧ a < m.top := by
  cases w <;> exact h.1

theorem ItemAt.last (h : ItemAt m a w) : (m.node a).topologyEntry = w.last := by
  cases w <;> exact h.2.1

theorem ItemAt.cost (h : ItemAt m a w) : (m.node a).cost = UInt8.ofNat w.length := by
  cases w <;> exact h.2.2.1

theorem ItemAt.costAt (h : ItemAt m a w) : m.costAt a = BestFirst.walkCost itemCost w := by
  rw [Mem.costAt, h.cost, BestFirst.walkCost, itemCost]

theorem ItemAt.extends (hext : m.Extends m') (h : ItemAt m a w) : ItemAt m' a w := by
  induction w generalizing a with
  | start l =>
    obtain ⟨ha, h₁, h₂, h₃⟩ := h
    exact ⟨⟨ha.1, ha.2.trans_le hext.top_le⟩, by rw [hext.topologyEntry_eq a ha.2, h₁],
      by rw [hext.cost_eq a ha.2, h₂], by rw [hext.parent_eq a ha.2, h₃]⟩
  | extend w l ih =>
    obtain ⟨ha, h₁, h₂, b, hba, h₃, hb⟩ := h
    exact ⟨⟨ha.1, ha.2.trans_le hext.top_le⟩, by rw [hext.topologyEntry_eq a ha.2, h₁],
      by rw [hext.cost_eq a ha.2, h₂], b, hba, by rw [hext.parent_eq a ha.2, h₃], ih hb⟩

/-- **The root of an item carries the first link of its walk.** -/
theorem root_spec (h : ItemAt m a w) {n : ℕ} (hn : a ≤ n + 1) :
    (m.node (m.root n a)).topologyEntry = w.first := by
  induction w generalizing a n with
  | start l =>
    obtain ⟨-, h₁, -, h₃⟩ := h
    cases n with
    | zero => exact h₁
    | succ n => rw [Mem.root, h₃]; exact h₁
  | extend w l ih =>
    obtain ⟨-, -, -, b, hba, h₃, hb⟩ := h
    have := hb.bounds.1
    obtain ⟨n, rfl⟩ : ∃ k, n = k + 1 := ⟨n - 1, by omega⟩
    rw [Mem.root, h₃]
    exact ih hb (by omega)

/-- The heap holds the walks `q`, in order. -/
def HeapIs (m : Mem) (q : List (Walk TopologyEntry)) : Prop :=
  ∃ as, Chain m.next (m.next heapPtr) as ∧ as.Nodup ∧ List.Forall₂ (ItemAt m) as q

/-- Every item stands for a walk, and the lists lead to items only. -/
structure MemOk (roots : List TopologyEntry) (succ : TopologyEntry → List TopologyEntry)
    (m : Mem) : Prop where
  /-- The two sentinels have been allocated. -/
  two_le : 2 ≤ m.top
  /-- The other items stand for walks. -/
  items : ∀ a, 2 ≤ a → a < m.top → ∃ w, IsWalk roots succ w ∧ ItemAt m a w
  /-- The pointers of the stack lead to items. -/
  next_mem : ∀ a b, a = stackPtr ∨ 2 ≤ a ∧ a < m.top → m.next a = some b → 2 ≤ b ∧ b < m.top

variable {roots : List TopologyEntry} {succ : TopologyEntry → List TopologyEntry}
  {q : List (Walk TopologyEntry)}

theorem bounds_of_forall₂ {as : List ℕ} (h : List.Forall₂ (ItemAt m) as q) :
    ∀ a ∈ as, 2 ≤ a ∧ a < m.top := by
  induction h with
  | nil => simp
  | cons h _ ih =>
    intro a ha
    rcases List.mem_cons.mp ha with rfl | ha
    · exact h.bounds
    · exact ih a ha

theorem forall₂_extends (hext : m.Extends m') {as : List ℕ}
    (h : List.Forall₂ (ItemAt m) as q) : List.Forall₂ (ItemAt m') as q :=
  h.imp fun _ _ => ItemAt.extends hext

/-! ### Allocating an item -/

/-- `m'` is `m` with one more item, which is in no list. -/
structure Allocated (m m' : Mem) (entry : TopologyEntry) (cost : UInt8) (parent : Option ℕ) :
    Prop where
  /-- The other items are as they were. -/
  ext : m.Extends m'
  /-- One address more is in use. -/
  top_eq : m'.top = m.top + 1
  /-- The contents of the new item. -/
  node_new : m'.node m.top = ⟨entry, cost, parent, none⟩
  /-- The other pointers are as they were. -/
  next_eq : ∀ p, p ≠ m.top → m'.next p = m.next p

theorem allocated_create (m : Mem) (entry : TopologyEntry) (cost : UInt8) :
    Allocated m (createDikjstraItem m entry cost).1 entry cost none where
  ext := extends_create m entry cost
  top_eq := rfl
  node_new := by simp [createDikjstraItem]
  next_eq p hp := by simp [createDikjstraItem, Mem.next, hp]

theorem allocated_setParent (m : Mem) (entry : TopologyEntry) (cost : UInt8) (p : ℕ) :
    Allocated m ((createDikjstraItem m entry cost).1.setParent m.top (some p)) entry cost
      (some p) := by
  have hne : ∀ a, a ≠ m.top →
      ((createDikjstraItem m entry cost).1.setParent m.top (some p)).node a = m.node a := by
    intro a ha
    simp [createDikjstraItem, Mem.setParent, ha]
  refine ⟨⟨Nat.le_succ _, ?_, ?_, ?_⟩, rfl, ?_, ?_⟩
  · intro a ha
    rw [hne a ha.ne]
  · intro a ha
    rw [hne a ha.ne]
  · intro a ha
    rw [hne a ha.ne]
  · simp [createDikjstraItem, Mem.setParent]
  · intro a ha
    rw [Mem.next, hne a ha, Mem.next]

/-- **A new item on the heap is the head of the queue.** -/
theorem heapIs_push {entry : TopologyEntry} {cost : UInt8} {parent : Option ℕ}
    (hq : HeapIs m q) (hm : 2 ≤ m.top) (halloc : Allocated m m' entry cost parent)
    (hitem : ItemAt m' m.top w) : HeapIs (dijkstraStackPush m' heapPtr m.top) (w :: q) := by
  obtain ⟨as, hchain, hnodup, hforall⟩ := hq
  have hbounds := bounds_of_forall₂ hforall
  have hne : m.top ≠ heapPtr := by simp only [heapPtr]; omega
  have hfirst : m'.next heapPtr = m.next heapPtr := halloc.next_eq _ (Ne.symm hne)
  have hnew : m'.next m.top = none := by rw [Mem.next, halloc.node_new]
  refine ⟨m.top :: as, ⟨next_push_first _ _ _, ?_⟩, List.nodup_cons.mpr ⟨?_, hnodup⟩,
    .cons (hitem.extends (extends_push _ _ _)) ?_⟩
  · -- in both branches of the push the old list is behind the new item
    have hnext : (dijkstraStackPush m' heapPtr m.top).next m.top = m.next heapPtr := by
      cases hold : m.next heapPtr with
      | none => rw [next_push_new_of_empty (hfirst.trans hold) hne, hnew]
      | some n => rw [next_push_new (hfirst.trans hold) hne]
    rw [hnext]
    refine hchain.frame ?_
    intro a ha
    have := hbounds a ha
    rw [next_push_of_ne _ (by simp only [heapPtr]; omega) (by omega),
      halloc.next_eq a (by omega)]
  · intro h
    have := hbounds _ h
    omega
  · exact forall₂_extends (halloc.ext.trans (extends_push _ _ _)) hforall

/-- The memory stays in order when a new item for a walk goes on the heap. -/
theorem memOk_push {entry : TopologyEntry} {cost : UInt8} {parent : Option ℕ}
    (hm : MemOk roots succ m) (hq : HeapIs m q) (halloc : Allocated m m' entry cost parent)
    (hw : IsWalk roots succ w) (hitem : ItemAt m' m.top w) :
    MemOk roots succ (dijkstraStackPush m' heapPtr m.top) := by
  have htwo := hm.two_le
  have hext := halloc.ext.trans (extends_push m' heapPtr m.top)
  have htop : (dijkstraStackPush m' heapPtr m.top).top = m.top + 1 := by
    rw [top_push, halloc.top_eq]
  refine ⟨by omega, ?_, ?_⟩
  · intro a ha hlt
    rcases Nat.lt_succ_iff_lt_or_eq.mp (htop ▸ hlt) with hlt | rfl
    · obtain ⟨w, hw, hitem⟩ := hm.items a ha hlt
      exact ⟨w, hw, hitem.extends hext⟩
    · exact ⟨w, hw, hitem.extends (extends_push _ _ _)⟩
  · intro a b ha hb
    have hah : a ≠ heapPtr := by simp only [heapPtr, stackPtr] at ha ⊢; omega
    by_cases hat : a = m.top
    · -- the new item leads to the old head of the heap
      obtain ⟨as, hchain, -, hforall⟩ := (heapIs_push hq htwo halloc hitem)
      cases as with
      | nil => rw [next_push_first] at hchain; cases hchain
      | cons c as =>
        obtain rfl : c = m.top := Option.some.inj (hchain.1.symm.trans (next_push_first _ _ _))
        subst hat
        cases as with
        | nil => rw [hchain.2] at hb; cases hb
        | cons d as =>
          obtain rfl : b = d := Option.some.inj (hb.symm.trans hchain.2.1)
          exact bounds_of_forall₂ hforall b (by simp)
    · rw [next_push_of_ne _ hah hat, halloc.next_eq a hat] at hb
      have := hm.next_mem a b (by omega) hb
      omega

/-- **One pass of `dijkstra_stack_reorder` puts the head of the queue in its place.** -/
theorem heapIs_reorder (hm : MemOk roots succ m) (hq : HeapIs m (w :: q)) :
    HeapIs (dijkstraStackReorder m heapPtr) (BestFirst.insert itemCost w q) ∧
      MemOk roots succ (dijkstraStackReorder m heapPtr) ∧
      m.Extends (dijkstraStackReorder m heapPtr) ∧
      (dijkstraStackReorder m heapPtr).next stackPtr = m.next stackPtr := by
  obtain ⟨_ | ⟨a, as⟩, hchain, hnodup, hforall⟩ := hq
  · cases hforall
  have hbounds := bounds_of_forall₂ hforall
  obtain ⟨hw, hforall⟩ := List.forall₂_cons.mp hforall
  have hheap : heapPtr ∉ a :: as := fun h => by
    have := hbounds _ h
    simp [heapPtr] at this
  have hstack : stackPtr ∉ heapPtr :: a :: as := by
    rw [List.mem_cons, not_or]
    refine ⟨by simp [stackPtr, heapPtr], ?_⟩
    intro h
    have := hbounds _ h
    simp [stackPtr] at this
  obtain ⟨-, hchain', hext, htop, hframe⟩ := reorder_spec hchain
    (List.nodup_cons.mpr ⟨hheap, hnodup⟩) fun p hp => (hbounds p hp).2
  set m' := dijkstraStackReorder m heapPtr
  have hperm := SortedQueue.carry_perm (f := m.costAt) a as
  refine ⟨⟨_, hchain', hperm.nodup_iff.mpr hnodup, ?_⟩, ?_, hext, hframe _ hstack⟩
  · have hcarry := SortedQueue.carry_forall₂ (f := m.costAt)
      (g := BestFirst.walkCost itemCost) hw hforall fun x _ y h => h.costAt
    exact forall₂_extends hext hcarry
  · refine ⟨htop ▸ hm.two_le, ?_, ?_⟩
    · intro p hp hlt
      obtain ⟨u, hu, hitem⟩ := hm.items p hp (htop ▸ hlt)
      exact ⟨u, hu, hitem.extends hext⟩
    · intro p b hp hb
      rw [htop] at hp ⊢
      by_cases hmem : p ∈ a :: as
      · exact hbounds b (hperm.mem_iff.mp (hchain'.next_mem (hperm.mem_iff.mpr hmem) hb))
      · have hne : p ≠ heapPtr := by simp only [heapPtr, stackPtr] at hp ⊢; omega
        rw [hframe p (by rw [List.mem_cons, not_or]; exact ⟨hne, hmem⟩)] at hb
        exact hm.next_mem p b hp hb

/-! ### How the heap grows -/

/-- What an operation on the heap leaves in order. -/
structure Grows (roots : List TopologyEntry) (succ : TopologyEntry → List TopologyEntry)
    (m m' : Mem) (q : List (Walk TopologyEntry)) : Prop where
  /-- The heap holds the given queue. -/
  heap : HeapIs m' q
  /-- The memory is in order. -/
  mem : MemOk roots succ m'
  /-- The old items are as they were. -/
  ext : m.Extends m'
  /-- The stack is as it was. -/
  stack_eq : m'.next stackPtr = m.next stackPtr

theorem Grows.trans {m₁ m₂ m₃ : Mem} {q' : List (Walk TopologyEntry)}
    (h : Grows roots succ m₁ m₂ q) (h' : Grows roots succ m₂ m₃ q') :
    Grows roots succ m₁ m₃ q' :=
  ⟨h'.heap, h'.mem, h.ext.trans h'.ext, h'.stack_eq.trans h.stack_eq⟩

theorem grows_push {entry : TopologyEntry} {cost : UInt8} {parent : Option ℕ}
    (hm : MemOk roots succ m) (hq : HeapIs m q) (halloc : Allocated m m' entry cost parent)
    (hw : IsWalk roots succ w) (hitem : ItemAt m' m.top w) :
    Grows roots succ m (dijkstraStackPush m' heapPtr m.top) (w :: q) := by
  have htwo := hm.two_le
  have hne : stackPtr ≠ m.top := by simp only [stackPtr]; omega
  refine ⟨heapIs_push hq htwo halloc hitem, memOk_push hm hq halloc hw hitem,
    halloc.ext.trans (extends_push _ _ _), ?_⟩
  rw [next_push_of_ne _ (by simp [stackPtr, heapPtr]) hne, halloc.next_eq _ hne]

theorem grows_reorder (hm : MemOk roots succ m) (hq : HeapIs m (w :: q)) :
    Grows roots succ m (dijkstraStackReorder m heapPtr) (BestFirst.insert itemCost w q) := by
  obtain ⟨h₁, h₂, h₃, h₄⟩ := heapIs_reorder hm hq
  exact ⟨h₁, h₂, h₃, h₄⟩

/-- **The loop over the interfaces puts the first links on the heap**, the last one
in front. -/
theorem grows_pushNeighbors {routerId : IpAddr} {topology : List TopologyEntry}
    (ifList : List SrIf) (hroots : ∀ l ∈ firstLinks routerId topology ifList, l ∈ roots)
    (hm : MemOk roots succ m) (hq : HeapIs m q) :
    Grows roots succ m (pushNeighbors routerId topology ifList m)
      (((firstLinks routerId topology ifList).map Walk.start).reverse ++ q) := by
  induction ifList generalizing m q with
  | nil => exact ⟨hq, hm, .refl m, rfl⟩
  | cons i ifList ih =>
    by_cases h₁ : searchTopolgyTable topology i.network = false
    · have hstep : pushNeighbors routerId topology (i :: ifList) m =
          pushNeighbors routerId topology ifList m := by
        simp [pushNeighbors, h₁]
      have hlinks : firstLinks routerId topology (i :: ifList) =
          firstLinks routerId topology ifList := by
        simp [firstLinks, h₁]
      rw [hstep, hlinks]
      exact ih (hlinks ▸ hroots) hm hq
    · by_cases h₂ : i.neighborId = 0
      · have hstep : pushNeighbors routerId topology (i :: ifList) m =
            pushNeighbors routerId topology ifList m := by
          simp [pushNeighbors, h₂]
        have hlinks : firstLinks routerId topology (i :: ifList) =
            firstLinks routerId topology ifList := by
          simp [firstLinks, h₂]
        rw [hstep, hlinks]
        exact ih (hlinks ▸ hroots) hm hq
      · -- the link of this interface is allocated and pushed
        set l := firstLink routerId i
        set m₁ := dijkstraStackPush (createDikjstraItem m l 1).1 heapPtr m.top
        have hstep : pushNeighbors routerId topology (i :: ifList) m =
            pushNeighbors routerId topology ifList m₁ := by
          simp only [pushNeighbors, List.foldl_cons, h₁, ne_eq, h₂, not_false_eq_true,
            if_true, m₁, l]
          rfl
        have hlinks : firstLinks routerId topology (i :: ifList) =
            l :: firstLinks routerId topology ifList := by
          simp [firstLinks, h₁, h₂, l]
        have halloc := allocated_create m l 1
        have hitem : ItemAt (createDikjstraItem m l 1).1 m.top (.start l) := by
          have := hm.two_le
          refine ⟨⟨this, by rw [halloc.top_eq]; omega⟩, ?_⟩
          rw [halloc.node_new]
          exact ⟨rfl, rfl, rfl⟩
        have hgrow := grows_push hm hq halloc
          (.start (hroots l (hlinks ▸ List.mem_cons_self))) hitem
        rw [hstep, hlinks, List.map_cons, List.reverse_cons, List.append_assoc]
        refine hgrow.trans (ih (fun l' hl' => hroots l' ?_) hgrow.mem hgrow.heap)
        rw [hlinks]
        exact List.mem_cons_of_mem _ hl'

/-- **The loop over the topology table puts the extensions of the popped walk on the
heap**, one after the other. -/
theorem grows_expandItem {topology : List TopologyEntry} (hw : IsWalk roots (nextLinks topology) w)
    (halive : w.last.neighborId ≠ 0) (hm : MemOk roots (nextLinks topology) m) (hq : HeapIs m q)
    (hitem : ItemAt m a w) :
    Grows roots (nextLinks topology) m (expandItem topology a m)
      (BestFirst.expand itemCost (nextLinks topology) w q) := by
  have key : ∀ ls : List TopologyEntry, ls ⊆ topology →
      ∀ {m q}, MemOk roots (nextLinks topology) m →
      HeapIs m q → ItemAt m a w →
      Grows roots (nextLinks topology) m (expandItem ls a m)
        ((ls.filter fun e => Follows w.last e).foldl
          (fun q l => BestFirst.insert itemCost (w.extend l) q) q) := by
    intro ls
    induction ls with
    | nil =>
      intro _ m q hm hq _
      exact ⟨hq, hm, .refl m, rfl⟩
    | cons e ls ih =>
      intro hsub m q hm hq hitem
      rw [List.cons_subset] at hsub
      by_cases hf : Follows w.last e
      · -- the entry follows: a new item for the extended walk is pushed and reordered
        set m₁ := (createDikjstraItem m e ((m.node a).cost + 1)).1.setParent m.top (some a)
        have hstep : expandItem (e :: ls) a m =
            expandItem ls a
              (dijkstraStackReorder (dijkstraStackPush m₁ heapPtr m.top) heapPtr) := by
          simp only [expandItem, List.foldl_cons, hitem.last, hf, if_true, m₁]
          rfl
        have halloc := allocated_setParent m e ((m.node a).cost + 1) a
        have hab := hitem.bounds
        have hnew : ItemAt m₁ m.top (w.extend e) := by
          refine ⟨⟨hm.two_le, by rw [halloc.top_eq]; omega⟩, ?_⟩
          rw [halloc.node_new]
          refine ⟨rfl, ?_, a, hab.2, rfl, hitem.extends halloc.ext⟩
          rw [hitem.cost, UInt8.ofNat_add]
          rfl
        have hpush := grows_push hm hq halloc
          (.extend hw (mem_nextLinks.mpr ⟨halive, hsub.1, hf⟩)) hnew
        have hgrow := hpush.trans (grows_reorder hpush.mem hpush.heap)
        rw [hstep, List.filter_cons_of_pos (by simpa using hf), List.foldl_cons]
        exact hgrow.trans (ih hsub.2 hgrow.mem hgrow.heap (hitem.extends hgrow.ext))
      · have hstep : expandItem (e :: ls) a m = expandItem ls a m := by
          simp [expandItem, hitem.last, hf]
        rw [hstep, List.filter_cons_of_neg (by simpa using hf)]
        exact ih hsub.2 hm hq hitem
  rw [BestFirst.expand, nextLinks, if_neg halive]
  exact key topology (List.Subset.refl _) hm hq hitem

/-! ### One pop -/

/-- An item stands for one walk only. -/
theorem ItemAt.unique {w' : Walk TopologyEntry} (h : ItemAt m a w) (h' : ItemAt m a w') :
    w = w' := by
  induction w generalizing a w' with
  | start l =>
    obtain ⟨-, hl, -, hpar⟩ := h
    cases w' with
    | start l' => rw [← hl, ← h'.2.1]
    | extend w' l' =>
      obtain ⟨-, -, -, b, -, hb, -⟩ := h'
      rw [hpar] at hb
      cases hb
  | extend w l ih =>
    obtain ⟨-, hl, -, b, -, hb, hw⟩ := h
    cases w' with
    | start l' =>
      have hpar := h'.2.2.2
      rw [hb] at hpar
      cases hpar
    | extend w' l' =>
      obtain ⟨-, hl', -, b', -, hb', hw'⟩ := h'
      obtain rfl : b = b' := Option.some.inj (hb.symm.trans hb')
      rw [ih hw hw', ← hl, ← hl']

/-- The walks on the heap are walks from the roots. -/
theorem HeapIs.allWalks (hm : MemOk roots succ m) (hq : HeapIs m q) :
    BestFirst.AllWalks roots succ q := by
  obtain ⟨as, -, -, hforall⟩ := hq
  induction hforall with
  | nil => intro w hw; cases hw
  | @cons a w as q h _ ih =>
    intro u hu
    rcases List.mem_cons.mp hu with rfl | hu
    · obtain ⟨v, hv, hitem⟩ := hm.items a h.bounds.1 h.bounds.2
      rwa [h.unique hitem]
    · exact ih u hu

/-- Popping the heap of a queue that is not empty. -/
theorem pop_heap (hm : MemOk roots succ m) (hq : HeapIs m (w :: q)) :
    ∃ a, ItemAt m a w ∧ dijkstraStackPop m heapPtr = (m.setNext heapPtr (m.next a), some a) ∧
      Grows roots succ m (m.setNext heapPtr (m.next a)) q ∧
      ItemAt (m.setNext heapPtr (m.next a)) a w ∧
      ∃ as, Chain m.next (m.next a) as ∧ (a :: as).Nodup ∧ List.Forall₂ (ItemAt m) as q := by
  obtain ⟨_ | ⟨a, as⟩, hchain, hnodup, hforall⟩ := hq
  · cases hforall
  obtain ⟨hw, hforall⟩ := List.forall₂_cons.mp hforall
  have hext := Mem.extends_setNext m heapPtr (m.next a)
  have hbounds := bounds_of_forall₂ hforall
  have hne : ∀ p, 2 ≤ p → (m.setNext heapPtr (m.next a)).next p = m.next p := fun p hp =>
    Mem.next_setNext_of_ne _ (by simp only [heapPtr]; omega) _
  have hstack : (m.setNext heapPtr (m.next a)).next stackPtr = m.next stackPtr :=
    Mem.next_setNext_of_ne _ (by simp [stackPtr, heapPtr]) _
  refine ⟨a, hw, pop_of_next hchain.1, ⟨⟨as, ?_, (List.nodup_cons.mp hnodup).2,
    forall₂_extends hext hforall⟩, ⟨hm.two_le, ?_, ?_⟩, hext,
    hstack⟩, hw.extends hext, as, hchain.2, hnodup, hforall⟩
  · rw [Mem.next_setNext_self]
    exact hchain.2.frame fun p hp => hne p (hbounds p hp).1
  · intro p hp hlt
    obtain ⟨u, hu, hitem⟩ := hm.items p hp hlt
    exact ⟨u, hu, hitem.extends hext⟩
  · intro p b hp hb
    refine hm.next_mem p b hp ?_
    rcases hp with rfl | hp
    · rwa [hstack] at hb
    · rwa [hne p hp.1] at hb

/-- **The popped item goes on the stack**: whichever branch the push takes, the heap and
the memory stay in order, although on an empty stack the item keeps its `next`. -/
theorem push_stack {as : List ℕ} (hm : MemOk roots succ m)
    (hchain : Chain m.next (m.next heapPtr) as) (hnodup : (a :: as).Nodup)
    (hforall : List.Forall₂ (ItemAt m) as q) (hitem : ItemAt m a w) :
    HeapIs (dijkstraStackPush m stackPtr a) q ∧ MemOk roots succ (dijkstraStackPush m stackPtr a) ∧
      ItemAt (dijkstraStackPush m stackPtr a) a w ∧
      (dijkstraStackPush m stackPtr a).next stackPtr = some a := by
  have hext := extends_push m stackPtr a
  have ha := hitem.bounds
  have has : a ≠ stackPtr := by simp only [stackPtr]; omega
  have hbounds := bounds_of_forall₂ hforall
  have htop := top_push m stackPtr a
  have hheap : (dijkstraStackPush m stackPtr a).next heapPtr = m.next heapPtr :=
    next_push_of_ne _ (by simp [stackPtr, heapPtr]) (by simp only [heapPtr]; omega)
  refine ⟨⟨as, ?_, (List.nodup_cons.mp hnodup).2, forall₂_extends hext hforall⟩,
    ⟨htop ▸ hm.two_le, ?_, ?_⟩, hitem.extends hext,
    next_push_first _ _ _⟩
  · rw [hheap]
    refine hchain.frame fun p hp => next_push_of_ne _ ?_ ?_
    · have := hbounds p hp
      simp only [stackPtr]
      omega
    · rintro rfl
      exact (List.nodup_cons.mp hnodup).1 hp
  · intro p hp hlt
    obtain ⟨u, hu, hu'⟩ := hm.items p hp (htop ▸ hlt)
    exact ⟨u, hu, hu'.extends hext⟩
  · intro p b hp hb
    rw [htop] at hp ⊢
    rcases hp with rfl | hp
    · rw [next_push_first] at hb
      exact Option.some.inj hb ▸ ha
    · by_cases hpa : p = a
      · subst hpa
        cases hold : m.next stackPtr with
        | none =>
          rw [next_push_new_of_empty hold has] at hb
          exact hm.next_mem p b (Or.inr hp) hb
        | some n =>
          rw [next_push_new hold has] at hb
          exact Option.some.inj hb ▸ hm.next_mem stackPtr n (Or.inl rfl) hold
      · rw [next_push_of_ne _ (by simp only [stackPtr]; omega) hpa] at hb
        exact hm.next_mem p b (Or.inr hp) hb

/-- The memory of a search and the queue it stands for.  Something is on the stack as
soon as a link with a neighbour has been popped. -/
structure SearchRel (roots : List TopologyEntry) (topology : List TopologyEntry) (m : Mem)
    (q : List (Walk TopologyEntry)) : Prop where
  /-- The memory is in order. -/
  mem : MemOk roots (nextLinks topology) m
  /-- The heap holds the queue. -/
  heap : HeapIs m q
  /-- The stack is in use, or will be. -/
  stack : m.next stackPtr ≠ none ∨ ∃ w ∈ q, w.last.neighborId ≠ 0

/-- How the memory after a search shows its result: a found walk is on top of the stack. -/
structure ResultRel (roots : List TopologyEntry) (topology : List TopologyEntry) (m : Mem)
    (r : Option (Walk TopologyEntry) × List (Walk TopologyEntry)) : Prop where
  /-- The memory is in order. -/
  mem : MemOk roots (nextLinks topology) m
  /-- The heap holds the rest of the queue. -/
  heap : HeapIs m r.2
  /-- The stack is in use. -/
  stack : ∃ a, m.next stackPtr = some a ∧ ∀ w, r.1 = some w → ItemAt m a w

/-- **One pop of the search in memory is one turn of the best-first search.** -/
theorem searchTurn_rel {topology : List TopologyEntry} {target : IpAddr}
    (h : SearchRel roots topology m q) :
    Loop.TurnRel (SearchRel roots topology) (ResultRel roots topology)
      (searchTurn topology target m)
      (BestFirst.turn itemCost (nextLinks topology) (fun l => l.netNum = target) q) := by
  obtain ⟨hm, hq, hstack⟩ := h
  cases q with
  | nil =>
    -- the heap is empty
    obtain ⟨_ | ⟨a, as⟩, hchain, -, hforall⟩ := hq
    · have hturn : searchTurn topology target m = .leave m := by
        simp only [searchTurn, pop_of_empty (Chain.nil_iff.mp hchain)]
      rw [hturn, BestFirst.turn_nil]
      have hne := hstack.resolve_right (by simp)
      obtain ⟨a, ha⟩ := Option.ne_none_iff_exists'.mp hne
      exact .leave ⟨hm, ⟨[], hchain, List.nodup_nil, .nil⟩, a, ha, by simp⟩
    · cases hforall
  | cons w q =>
    obtain ⟨a, hitem₀, hpop, hgrow, hitem, as, hchain, hnodup, hforall⟩ := pop_heap hm hq
    set m₁ := m.setNext heapPtr (m.next a) with hm₁
    have hchain₁ : Chain m₁.next (m₁.next heapPtr) as := by
      rw [hm₁, Mem.next_setNext_self]
      refine hchain.frame fun p hp => Mem.next_setNext_of_ne _ ?_ _
      have := bounds_of_forall₂ hforall p hp
      simp only [heapPtr]
      omega
    obtain ⟨hheap₂, hmem₂, hitem₂, hstack₂⟩ := push_stack hgrow.mem hchain₁ hnodup
      (forall₂_extends hgrow.ext hforall) hitem
    by_cases hgoal : w.last.netNum = target
    · have hturn : searchTurn topology target m = .leave (dijkstraStackPush m₁ stackPtr a) := by
        simp only [searchTurn, hpop, hitem.last, hgoal, if_true]
      rw [hturn, BestFirst.turn_cons_goal (by simpa using hgoal)]
      refine .leave ⟨hmem₂, hheap₂, a, hstack₂, ?_⟩
      intro u hu
      cases hu
      exact hitem₂
    · rw [BestFirst.turn_cons_expand (by simpa using hgoal)]
      by_cases halive : w.last.neighborId = 0
      · -- a link without neighbour is dropped, and has no successor
        have hturn : searchTurn topology target m = .again m₁ := by
          simp only [searchTurn, hpop, hitem.last, hgoal, halive, if_false, ne_eq,
            not_true_eq_false]
        have hexp : BestFirst.expand itemCost (nextLinks topology) w q = q := by
          simp [BestFirst.expand, nextLinks, halive]
        rw [hturn, hexp]
        refine .again ⟨hgrow.mem, hgrow.heap, ?_⟩
        rcases hstack with hs | ⟨u, hu, hne⟩
        · exact Or.inl (hgrow.stack_eq ▸ hs)
        · rcases List.mem_cons.mp hu with rfl | hu
          · exact absurd halive hne
          · exact Or.inr ⟨u, hu, hne⟩
      · have hturn : searchTurn topology target m =
            .again (expandItem topology a (dijkstraStackPush m₁ stackPtr a)) := by
          simp only [searchTurn, hpop, hitem.last, hgoal, halive, if_false, ne_eq,
            not_false_eq_true, if_true]
        have hwalk := HeapIs.allWalks hm hq w List.mem_cons_self
        have hexp := grows_expandItem hwalk halive hmem₂ hheap₂ hitem₂
        rw [hturn]
        exact .again ⟨hexp.mem, hexp.heap, Or.inl (by rw [hexp.stack_eq, hstack₂]; simp)⟩

end Redes
