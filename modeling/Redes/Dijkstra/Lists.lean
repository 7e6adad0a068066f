import Redes.Dijkstra.Simulation

/-!
# Inserting into the heap, and moving an item to the stack

The heap is kept sorted by one pass of the reordering after each push, so its first item
is one of least cost.  A popped item keeps its `next`, and a push onto an empty list does
not clear it: the first item that moves from the heap to the stack leads on into the
heap.

## Main definitions

* `SortedList` — the list behind a sentinel is sorted by cost.
* `insertItem`, `moveItem` — a push with its reordering pass, and a pop with its push.
* `HeapOp`, `heapStep` — what is done with a heap.
* `MovesApart` — what moving an item should do to the two lists.

## Main results

* `SortedList.insertItem` — an insertion keeps the list sorted.
* `SortedList.run` — insertions and pops keep the list sorted, and a pop takes an item of
  least cost (`SortedList.popsLeast`).
* `movesApart_iff` — when moving an item keeps the two lists apart.
-/

namespace Redes

open SortedQueue (Sorted)

/-- The list behind the sentinel `first` is `as`, in allocated memory and sorted by
non-decreasing cost. -/
structure SortedList (m : Mem) (first : ℕ) (as : List ℕ) : Prop where
  /-- The list. -/
  chain : Chain m.next (m.next first) as
  /-- The sentinel and the items are allocated. -/
  lt_top : ∀ p ∈ first :: as, p < m.top
  /-- The costs do not decrease. -/
  sorted : Sorted m.costAt as

/-- A push and the pass that follows it. -/
def insertItem (m : Mem) (first new : ℕ) : Mem :=
  dijkstraStackReorder (dijkstraStackPush m first new) first

/-- A sentinel and its list are distinct nodes. -/
theorem nodup_of_chain {m : Mem} {first : ℕ} {as : List ℕ}
    (h : Chain m.next (m.next first) as) : (first :: as).Nodup :=
  Chain.nodup (p := some first) ⟨rfl, h⟩

/-! ### A push as an operation on lists -/

/-- **A push puts the item before the list**, if the list is not empty or the item has no
successor. -/
theorem chain_push {m : Mem} {first new : ℕ} {as : List ℕ}
    (h : Chain m.next (m.next first) as) (hnew : new ∉ first :: as)
    (hnext : as = [] → m.next new = none) :
    Chain (dijkstraStackPush m first new).next ((dijkstraStackPush m first new).next first)
      (new :: as) := by
  have hne : new ≠ first := fun he => hnew (he ▸ List.mem_cons_self)
  refine ⟨next_push_first m first new, ?_⟩
  cases as with
  | nil =>
    rw [Chain.nil_iff, next_push_new_of_empty (Chain.nil_iff.mp h) hne]
    exact hnext rfl
  | cons a as =>
    rw [next_push_new h.1 hne, ← h.1]
    have hnodup := List.nodup_cons.mp (nodup_of_chain h)
    refine h.frame fun p hp => next_push_of_ne m ?_ ?_
    · rintro rfl
      exact hnodup.1 hp
    · rintro rfl
      exact hnew (List.mem_cons_of_mem _ hp)

theorem costAt_push (m : Mem) (first new : ℕ) :
    (dijkstraStackPush m first new).costAt = m.costAt := by
  funext p
  unfold dijkstraStackPush Mem.costAt
  cases m.next first <;> simp

/-! ### Insertions and pops keep the heap sorted -/

/-- The costs of allocated items are those of before. -/
theorem Mem.Extends.costAt_eq {m m' : Mem} (h : m.Extends m') {p : ℕ} (hp : p < m.top) :
    m'.costAt p = m.costAt p :=
  congrArg UInt8.toNat (h.cost_eq p hp)

theorem SortedList.extends {m m' : Mem} {first : ℕ} {as : List ℕ} (h : SortedList m first as)
    (hext : m.Extends m') (hchain : Chain m'.next (m'.next first) as) :
    SortedList m' first as where
  chain := hchain
  lt_top p hp := (h.lt_top p hp).trans_le hext.top_le
  sorted := by
    refine h.sorted.imp_of_mem fun {p q} hp hq hle => ?_
    rw [hext.costAt_eq (h.lt_top p (List.mem_cons_of_mem _ hp)),
      hext.costAt_eq (h.lt_top q (List.mem_cons_of_mem _ hq))]
    exact hle

/-- **An insertion carries the new item to its place**: its pass ends, and no item is
lost, duplicated or changed. -/
theorem SortedList.insert {m : Mem} {first new : ℕ} {as : List ℕ} (h : SortedList m first as)
    (hnew : new ∉ first :: as) (htop : new < m.top) (hnext : m.next new = none) :
    Loop.Leaves reorderTurn (dijkstraStackPush m first new, first) (insertItem m first new) ∧
      m.Extends (insertItem m first new) ∧
      ∃ bs, SortedList (insertItem m first new) first bs ∧ bs.Perm (new :: as) := by
  have hlt : ∀ p ∈ first :: new :: as, p < m.top := by
    intro p hp
    simp only [List.mem_cons] at hp
    rcases hp with rfl | rfl | hp
    · exact h.lt_top p List.mem_cons_self
    · exact htop
    · exact h.lt_top p (List.mem_cons_of_mem _ hp)
  have hchain := chain_push h.chain hnew fun _ => hnext
  obtain ⟨hleaves, hchain', hext, htop', -⟩ := reorder_spec hchain (nodup_of_chain hchain)
    fun p hp => by rw [top_push]; exact hlt p (List.mem_cons_of_mem _ hp)
  have hext' : m.Extends (insertItem m first new) := (extends_push m first new).trans hext
  have hperm := SortedQueue.carry_perm (f := m.costAt) new as
  rw [costAt_push] at hchain'
  refine ⟨hleaves, hext', _, ⟨hchain', ?_, ?_⟩, hperm⟩
  · intro p hp
    rw [insertItem, htop', top_push]
    exact hlt p ((hperm.cons first).mem_iff.mp hp)
  · refine (Sorted.carry h.sorted new).imp_of_mem fun {p q} hp hq hle => ?_
    have hcost : ∀ x ∈ new :: as, (insertItem m first new).costAt x = m.costAt x :=
      fun x hx => hext'.costAt_eq (hlt x (List.mem_cons_of_mem _ hx))
    rw [hcost p (hperm.mem_iff.mp hp), hcost q (hperm.mem_iff.mp hq)]
    exact hle

/-- **A pop from a sorted list takes an item of least cost**, and leaves the others. -/
theorem SortedList.pop {m : Mem} {first p : ℕ} {as : List ℕ} (h : SortedList m first (p :: as)) :
    ∃ m', dijkstraStackPop m first = (m', some p) ∧ SortedList m' first as ∧
      ∀ x ∈ p :: as, m.costAt p ≤ m.costAt x := by
  refine ⟨_, pop_of_next h.chain.1, ⟨?_, ?_, ?_⟩, fun x hx => h.sorted.head_le hx⟩
  · rw [Mem.next_setNext_self]
    refine h.chain.2.frame fun q hq => Mem.next_setNext_of_ne _ ?_ _
    rintro rfl
    exact (List.nodup_cons.mp (nodup_of_chain h.chain)).1 (List.mem_cons_of_mem _ hq)
  · exact fun q hq => h.lt_top q (List.cons_subset_cons first (List.subset_cons_self p as) hq)
  · refine h.sorted.tail.imp ?_
    simp [Mem.costAt]

/-- What is done with a heap: a new item is inserted, as for each link after a popped
item, or the first item is popped. -/
inductive HeapOp where
  | insert (entry : TopologyEntry) (cost : UInt8) (parent : ℕ)
  | pop
  deriving DecidableEq

/-- The memory after an operation. -/
def heapStep (first : ℕ) (m : Mem) : HeapOp → Mem
  | .insert entry cost parent =>
      let (m, new) := createDikjstraItem m entry cost
      insertItem (m.setParent new (some parent)) first new
  | .pop => (dijkstraStackPop m first).1

/-- A pop returns an item of least cost among the items of the list, or the list is
empty. -/
def PopsLeast (m : Mem) (first : ℕ) (as : List ℕ) : Prop :=
  match (dijkstraStackPop m first).2 with
  | none => as = []
  | some p => p ∈ as ∧ ∀ x ∈ as, m.costAt p ≤ m.costAt x

theorem SortedList.popsLeast {m : Mem} {first : ℕ} {as : List ℕ} (h : SortedList m first as) :
    PopsLeast m first as := by
  cases as with
  | nil => rw [PopsLeast, pop_of_empty (Chain.nil_iff.mp h.chain)]
  | cons p as =>
    obtain ⟨m', hpop, -, hle⟩ := h.pop
    rw [PopsLeast, hpop]
    exact ⟨List.mem_cons_self, hle⟩

/-- One operation keeps the list sorted. -/
theorem SortedList.heapStep {m : Mem} {first : ℕ} {as : List ℕ} (h : SortedList m first as)
    (op : HeapOp) : ∃ bs, SortedList (Redes.heapStep first m op) first bs := by
  cases op with
  | insert entry cost parent =>
    have halloc := allocated_setParent m entry cost parent
    have hne : ∀ p ∈ first :: as, p ≠ m.top := fun p hp => (h.lt_top p hp).ne
    have hchain : Chain _ _ as := h.chain.frame fun p hp =>
      halloc.next_eq p (hne p (List.mem_cons_of_mem _ hp))
    rw [← halloc.next_eq first (hne first List.mem_cons_self)] at hchain
    have hnew : m.top ∉ first :: as := fun hm => hne _ hm rfl
    obtain ⟨-, -, bs, hbs, -⟩ := (h.extends halloc.ext hchain).insert hnew
      (by
        rw [halloc.top_eq]
        exact Nat.lt_succ_self _)
      (by rw [Mem.next, halloc.node_new])
    exact ⟨bs, hbs⟩
  | pop =>
    cases as with
    | nil => exact ⟨[], by rwa [Redes.heapStep, pop_of_empty (Chain.nil_iff.mp h.chain)]⟩
    | cons p as =>
      obtain ⟨m', hpop, hm', -⟩ := h.pop
      exact ⟨as, by rwa [Redes.heapStep, hpop]⟩

/-- Any operations keep the list sorted. -/
theorem SortedList.run {m : Mem} {first : ℕ} {as : List ℕ} (h : SortedList m first as)
    (ops : List HeapOp) : ∃ bs, SortedList (ops.foldl (Redes.heapStep first) m) first bs := by
  induction ops generalizing m as with
  | nil => exact ⟨as, h⟩
  | cons op ops ih =>
    obtain ⟨bs, hbs⟩ := h.heapStep op
    exact ih hbs

/-- **Inserting a fresh item into a sorted list gives a sorted list of the old items and
the new one**, with one pass; and however the heap is used from then on, a pop returns
an item of least cost. -/
theorem insertItem_sorted {m : Mem} {first new : ℕ} {as : List ℕ} (h : SortedList m first as)
    (hnew : new ∉ first :: as) (htop : new < m.top) (hnext : m.next new = none) :
    Loop.Leaves reorderTurn (dijkstraStackPush m first new, first) (insertItem m first new) ∧
      m.Extends (insertItem m first new) ∧
      (∃ bs, SortedList (insertItem m first new) first bs ∧ bs.Perm (new :: as) ∧
        PopsLeast (insertItem m first new) first bs) ∧
      ∀ ops : List HeapOp, ∃ bs,
        SortedList (ops.foldl (heapStep first) (insertItem m first new)) first bs ∧
        PopsLeast (ops.foldl (heapStep first) (insertItem m first new)) first bs := by
  obtain ⟨hleaves, hext, bs, hbs, hperm⟩ := h.insert hnew htop hnext
  refine ⟨hleaves, hext, ⟨bs, hbs, hperm, hbs.popsLeast⟩, fun ops => ?_⟩
  obtain ⟨cs, hcs⟩ := hbs.run ops
  exact ⟨cs, hcs, hcs.popsLeast⟩

/-- The two first links of a router whose interfaces both have a neighbour, on the heap. -/
def twoItems : Mem :=
  pushNeighbors 0x01010101
    [createOspfv2TopologyEntry 0x01010101 0x0001000a 0x00ffffff 0x07070707 0x0201000a 1,
      createOspfv2TopologyEntry 0x01010101 0x0002000a 0x00ffffff 0x08080808 0x0202000a 1]
    [⟨"eth1".toList, generateEthernetAddr 1, 0x0101000a, 0x00ffffff, 5, 0x07070707, 0x0201000a⟩,
      ⟨"eth2".toList, generateEthernetAddr 2, 0x0102000a, 0x00ffffff, 5, 0x08080808, 0x0202000a⟩]
    initialMem

theorem twoItems_chain : Chain twoItems.next (twoItems.next heapPtr) [3, 2] := by decide

theorem twoItems_sorted : SortedList twoItems heapPtr [3, 2] where
  chain := twoItems_chain
  lt_top := by decide
  sorted := by unfold Sorted; decide

/-- A third item of cost 2 goes to the end of the two. -/
theorem insertItem_sorted_twoItems :
    let m := (createDikjstraItem twoItems (twoItems.node 2).topologyEntry 2).1
    SortedList m heapPtr [3, 2] ∧
      ∃ bs, SortedList (insertItem m heapPtr 4) heapPtr bs ∧ bs.Perm [4, 3, 2] ∧
        PopsLeast (insertItem m heapPtr 4) heapPtr bs := by
  have h : SortedList (createDikjstraItem twoItems (twoItems.node 2).topologyEntry 2).1
      heapPtr [3, 2] :=
    twoItems_sorted.extends (extends_create _ _ _) (by decide)
  exact ⟨h, (insertItem_sorted h (by decide) (by decide) (by decide)).2.2.1⟩

/-! ### Moving an item from the heap to the stack -/

/-- A pop from the heap, and a push of the popped item onto the stack. -/
def moveItem (m : Mem) (heap stack : ℕ) : Mem × Option ℕ :=
  match dijkstraStackPop m heap with
  | (m, none) => (m, none)
  | (m, some x) => (dijkstraStackPush m stack x, some x)

/-- The heap is the rest `t`, the stack is `x` and what was on it, and they have no node in
common. -/
def MovesApart (m : Mem) (heap stack x : ℕ) (t s : List ℕ) : Prop :=
  Chain (moveItem m heap stack).1.next ((moveItem m heap stack).1.next heap) t ∧
    Chain (moveItem m heap stack).1.next ((moveItem m heap stack).1.next stack) (x :: s) ∧
    (heap :: t).Disjoint (stack :: x :: s)

/-- **Moving the first item of the heap keeps the lists apart exactly if the stack is not
empty or the item is the last one of the heap.** -/
theorem movesApart_iff {m : Mem} {heap stack x : ℕ} {t s : List ℕ}
    (hheap : Chain m.next (m.next heap) (x :: t)) (hstack : Chain m.next (m.next stack) s)
    (hdisj : (heap :: x :: t).Disjoint (stack :: s)) :
    (moveItem m heap stack).2 = some x ∧
      (MovesApart m heap stack x t s ↔ s ≠ [] ∨ t = []) := by
  have hpop := pop_of_next hheap.1
  set m₁ := m.setNext heap (m.next x) with hm₁
  have hmove : moveItem m heap stack = (dijkstraStackPush m₁ stack x, some x) := by
    rw [moveItem, hpop]
  have hnodup := nodup_of_chain hheap
  simp only [List.nodup_cons, List.mem_cons, not_or] at hnodup
  obtain ⟨⟨hhx, hht⟩, hxt, -⟩ := hnodup
  simp only [List.disjoint_cons_left, List.disjoint_cons_right, List.mem_cons, not_or] at hdisj
  obtain ⟨⟨hsh, hsx, hst⟩, hhs, hxs, hts⟩ := hdisj
  have hne : ∀ p, p ≠ heap → m₁.next p = m.next p := fun p hp => Mem.next_setNext_of_ne _ hp _
  have hstack₁ : Chain m₁.next (m₁.next stack) s := by
    rw [hne stack hsh]
    exact hstack.frame fun p hp => hne p fun he => hhs (he ▸ hp)
  have hxstack : x ∉ stack :: s := by simp [hxs, Ne.symm hsx]
  refine ⟨by rw [hmove], ?_⟩
  rw [MovesApart, hmove]
  constructor
  · rintro ⟨-, hpush, -⟩
    -- on an empty stack the item still leads to the rest of the heap
    by_contra hcon
    rw [not_or, not_not] at hcon
    obtain ⟨rfl, ht⟩ := hcon
    obtain ⟨y, t, rfl⟩ := List.exists_cons_of_ne_nil ht
    have hx := hpush.2
    rw [Chain.nil_iff, next_push_new_of_empty (Chain.nil_iff.mp hstack₁) (Ne.symm hsx),
      hne x (Ne.symm hhx), hheap.2.1] at hx
    cases hx
  · intro hcond
    refine ⟨?_, chain_push hstack₁ hxstack fun hs => ?_, ?_⟩
    · rw [next_push_of_ne _ (Ne.symm hsh) hhx, Mem.next_setNext_self]
      refine hheap.2.frame fun p hp => ?_
      have hps : p ≠ stack := fun he => hst (he ▸ hp)
      have hpx : p ≠ x := fun he => hxt (he ▸ hp)
      rw [next_push_of_ne _ hps hpx, hne p fun he => hht (he ▸ hp)]
    · obtain rfl := hcond.resolve_left (fun h => h hs)
      rw [hne x (Ne.symm hhx)]
      exact Chain.nil_iff.mp hheap.2
    · simp only [List.disjoint_cons_left, List.disjoint_cons_right, List.mem_cons, not_or]
      exact ⟨⟨hsh, hst⟩, ⟨Ne.symm hhx, hxt⟩, hhs, hts⟩

/-- The first item that moves, with another one left on the heap. -/
theorem movesApart_iff_twoItems :
    (moveItem twoItems heapPtr stackPtr).2 = some 3 ∧
      (MovesApart twoItems heapPtr stackPtr 3 [2] [] ↔ ([] : List ℕ) ≠ [] ∨ [2] = ([] : List ℕ)) :=
  movesApart_iff twoItems_chain (by decide) (by simp [heapPtr, stackPtr])

/-- **The first item that moves takes the rest of the heap with it onto the stack.** -/
theorem twoItems_not_movesApart :
    Chain twoItems.next (twoItems.next heapPtr) [3, 2] ∧
      Chain twoItems.next (twoItems.next stackPtr) [] ∧
      ([heapPtr, 3, 2] : List ℕ).Disjoint [stackPtr] ∧
      Chain (moveItem twoItems heapPtr stackPtr).1.next
        ((moveItem twoItems heapPtr stackPtr).1.next stackPtr) [3, 2] ∧
      ¬ MovesApart twoItems heapPtr stackPtr 3 [2] [] := by
  have hstack : ¬ Chain (moveItem twoItems heapPtr stackPtr).1.next
      ((moveItem twoItems heapPtr stackPtr).1.next stackPtr) [3] := by decide
  exact ⟨twoItems_chain, by decide, by simp [heapPtr, stackPtr], by decide, fun h => hstack h.2.1⟩

end Redes
