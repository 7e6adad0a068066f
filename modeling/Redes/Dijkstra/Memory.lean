import Mathlib.Algebra.Order.Group.Nat
import Mathlib.Data.List.Perm.Subperm
import Redes.Lib.Chain
import Redes.Lib.Loop
import Redes.Lib.SortedQueue
import Redes.Pwospf.Topology

/-!
# The items of the shortest-path search in memory

`dijkstra.c` keeps its heap and its stack in linked lists that share the `next` field
of their items, and an item keeps that field when it moves from one to the other.
So the items live in a memory, with addresses for pointers.

## Main definitions

* `DijkstraItem`, `Mem` — an item and the memory.
* `createDikjstraItem`, `dijkstraStackPush`, `dijkstraStackPop`,
  `dijkstraStackReorder` — the functions of `dijkstra.c` on the memory.
* `Mem.Extends` — what never changes: the contents of the items already allocated.

## Main results

* `next_push_new`, `pop_of_next` — what a push and a pop do to the pointers.
* `reorder_spec` — the reordering pass carries the head of the list to its place.
-/

namespace Redes

/-- `struct dijkstra_item`. -/
structure DijkstraItem where
  /-- The link the item stands for. -/
  topologyEntry : TopologyEntry
  /-- The number of links from this router, modulo 256. -/
  cost : UInt8
  /-- The item this one was reached from. -/
  parent : Option ℕ
  /-- The item after this one in the list it is in. -/
  next : Option ℕ
  deriving DecidableEq, Inhabited

/-- The memory: the items at each address, and the next free address. -/
structure Mem where
  /-- The item at an address; junk from `top` on. -/
  node : ℕ → DijkstraItem
  /-- The first address that has not been allocated. -/
  top : ℕ

namespace Mem

/-- `p->next`. -/
def next (m : Mem) (p : ℕ) : Option ℕ := (m.node p).next

/-- `p->next = v`. -/
def setNext (m : Mem) (p : ℕ) (v : Option ℕ) : Mem :=
  { m with node := Function.update m.node p { m.node p with next := v } }

/-- `p->parent = v`. -/
def setParent (m : Mem) (p : ℕ) (v : Option ℕ) : Mem :=
  { m with node := Function.update m.node p { m.node p with parent := v } }

end Mem

/-- The memory before anything is allocated. -/
def emptyMem : Mem := ⟨fun _ => default, 0⟩

/-- `create_dikjstra_item`: allocate an item without parent and successor. -/
def createDikjstraItem (m : Mem) (entry : TopologyEntry) (cost : UInt8) : Mem × ℕ :=
  (⟨Function.update m.node m.top ⟨entry, cost, none, none⟩, m.top + 1⟩, m.top)

/-- `dijkstra_stack_push`: when the list behind `first` is empty, the new item keeps the
`next` it comes with. -/
def dijkstraStackPush (m : Mem) (first new : ℕ) : Mem :=
  let m :=
    match m.next first with
    | some n => (m.setNext new (some n)).setNext first (some new)
    | none => m
  m.setNext first (some new)

/-- One turn of the loop of `dijkstra_stack_reorder`, at the item `ptr`. -/
def reorderTurn : Mem × ℕ → Turn (Mem × ℕ) Mem
  | (m, ptr) =>
      match m.next ptr with
      | none => .leave m
      | some a =>
          match m.next a with
          | none => .leave m
          | some b =>
              if (m.node b).cost < (m.node a).cost then
                .again (((m.setNext b (some a)).setNext a (m.next b)).setNext ptr (some b), b)
              else .again (m, a)

/-- `dijkstra_stack_reorder`: the loop goes down the list, whose items are all below
`top`, so `top + 1` turns are enough (`reorder_spec`). -/
def dijkstraStackReorder (m : Mem) (first : ℕ) : Mem :=
  (Loop.run reorderTurn (m.top + 1) (m, first)).getD m

/-- `dijkstra_stack_pop`: take out the item behind `first`, whose `next` stays. -/
def dijkstraStackPop (m : Mem) (first : ℕ) : Mem × Option ℕ :=
  match m.next first with
  | none => (m, none)
  | some p => (m.setNext first (m.next p), some p)

/-- The loop that follows the parents of an item up to one without parent; parents are
older, so as many steps as the address of the item are enough (`root_spec`). -/
def Mem.root (m : Mem) : ℕ → ℕ → ℕ
  | 0, p => p
  | n + 1, p =>
      match (m.node p).parent with
      | none => p
      | some q => m.root n q

/-! ### What the writes change -/

namespace Mem

@[simp] theorem next_setNext_self (m : Mem) (p : ℕ) (v : Option ℕ) :
    (m.setNext p v).next p = v := by
  simp [next, setNext]

theorem next_setNext_of_ne (m : Mem) {p q : ℕ} (h : q ≠ p) (v : Option ℕ) :
    (m.setNext p v).next q = m.next q := by
  simp [next, setNext, h]

theorem node_setNext_of_ne (m : Mem) {p q : ℕ} (h : q ≠ p) (v : Option ℕ) :
    (m.setNext p v).node q = m.node q := by
  simp [setNext, h]

@[simp] theorem topologyEntry_setNext (m : Mem) (p q : ℕ) (v : Option ℕ) :
    ((m.setNext p v).node q).topologyEntry = (m.node q).topologyEntry := by
  by_cases h : q = p
  · subst h; simp [setNext]
  · rw [node_setNext_of_ne m h]

@[simp] theorem cost_setNext (m : Mem) (p q : ℕ) (v : Option ℕ) :
    ((m.setNext p v).node q).cost = (m.node q).cost := by
  by_cases h : q = p
  · subst h; simp [setNext]
  · rw [node_setNext_of_ne m h]

@[simp] theorem parent_setNext (m : Mem) (p q : ℕ) (v : Option ℕ) :
    ((m.setNext p v).node q).parent = (m.node q).parent := by
  by_cases h : q = p
  · subst h; simp [setNext]
  · rw [node_setNext_of_ne m h]

/-- Nothing but `next` pointers and free memory differs between `m` and `m'`. -/
structure Extends (m m' : Mem) : Prop where
  /-- Nothing is freed. -/
  top_le : m.top ≤ m'.top
  /-- The link of an item never changes. -/
  topologyEntry_eq : ∀ a < m.top, (m'.node a).topologyEntry = (m.node a).topologyEntry
  /-- Nor does its cost. -/
  cost_eq : ∀ a < m.top, (m'.node a).cost = (m.node a).cost
  /-- Nor its parent. -/
  parent_eq : ∀ a < m.top, (m'.node a).parent = (m.node a).parent

theorem Extends.refl (m : Mem) : Extends m m :=
  ⟨le_rfl, fun _ _ => rfl, fun _ _ => rfl, fun _ _ => rfl⟩

theorem Extends.trans {m₁ m₂ m₃ : Mem} (h : Extends m₁ m₂) (h' : Extends m₂ m₃) :
    Extends m₁ m₃ where
  top_le := h.top_le.trans h'.top_le
  topologyEntry_eq a ha :=
    (h'.topologyEntry_eq a (ha.trans_le h.top_le)).trans (h.topologyEntry_eq a ha)
  cost_eq a ha := (h'.cost_eq a (ha.trans_le h.top_le)).trans (h.cost_eq a ha)
  parent_eq a ha := (h'.parent_eq a (ha.trans_le h.top_le)).trans (h.parent_eq a ha)

theorem extends_setNext (m : Mem) (p : ℕ) (v : Option ℕ) : Extends m (m.setNext p v) :=
  ⟨le_rfl, fun _ _ => by simp, fun _ _ => by simp, fun _ _ => by simp⟩

end Mem

theorem extends_create (m : Mem) (entry : TopologyEntry) (cost : UInt8) :
    m.Extends (createDikjstraItem m entry cost).1 := by
  have hne : ∀ a < m.top, (createDikjstraItem m entry cost).1.node a = m.node a := by
    intro a ha
    simp [createDikjstraItem, ha.ne]
  exact ⟨Nat.le_succ _, fun a ha => by rw [hne a ha], fun a ha => by rw [hne a ha],
    fun a ha => by rw [hne a ha]⟩

theorem extends_push (m : Mem) (first new : ℕ) : m.Extends (dijkstraStackPush m first new) := by
  unfold dijkstraStackPush
  cases m.next first with
  | none => exact Mem.extends_setNext _ _ _
  | some n =>
    exact ((Mem.extends_setNext _ _ _).trans (Mem.extends_setNext _ _ _)).trans
      (Mem.extends_setNext _ _ _)

@[simp] theorem top_push (m : Mem) (first new : ℕ) :
    (dijkstraStackPush m first new).top = m.top := by
  unfold dijkstraStackPush
  cases m.next first <;> rfl

/-- After a push the new item is the first one. -/
@[simp] theorem next_push_first (m : Mem) (first new : ℕ) :
    (dijkstraStackPush m first new).next first = some new := by
  simp [dijkstraStackPush]

/-- A push onto a list that is not empty puts the list behind the new item. -/
theorem next_push_new {m : Mem} {first new n : ℕ} (h : m.next first = some n)
    (hne : new ≠ first) : (dijkstraStackPush m first new).next new = some n := by
  simp [dijkstraStackPush, h, Mem.next_setNext_of_ne _ hne]

/-- **A push onto an empty list leaves the `next` of the new item as it was.** -/
theorem next_push_new_of_empty {m : Mem} {first new : ℕ} (h : m.next first = none)
    (hne : new ≠ first) : (dijkstraStackPush m first new).next new = m.next new := by
  simp [dijkstraStackPush, h, Mem.next_setNext_of_ne _ hne]

theorem next_push_of_ne (m : Mem) {first new p : ℕ} (hf : p ≠ first) (hn : p ≠ new) :
    (dijkstraStackPush m first new).next p = m.next p := by
  unfold dijkstraStackPush
  cases h : m.next first <;>
    simp [Mem.next_setNext_of_ne _ hf, Mem.next_setNext_of_ne _ hn]

theorem pop_of_next {m : Mem} {first p : ℕ} (h : m.next first = some p) :
    dijkstraStackPop m first = (m.setNext first (m.next p), some p) := by
  rw [dijkstraStackPop, h]

theorem pop_of_empty {m : Mem} {first : ℕ} (h : m.next first = none) :
    dijkstraStackPop m first = (m, none) := by
  rw [dijkstraStackPop, h]

/-! ### The reordering pass -/

/-- The cost of the item at an address. -/
def Mem.costAt (m : Mem) (p : ℕ) : ℕ := (m.node p).cost.toNat

/-- The pointers when `a` and `b`, the items behind `ptr`, are exchanged. -/
def Mem.exchange (m : Mem) (ptr a b : ℕ) : Mem :=
  ((m.setNext b (some a)).setNext a (m.next b)).setNext ptr (some b)

/-- An exchange of items concerns three pointers. -/
structure Exchanged (m m₁ : Mem) (ptr a b : ℕ) : Prop where
  /-- `b` comes first. -/
  next_ptr : m₁.next ptr = some b
  /-- Then `a`. -/
  next_b : m₁.next b = some a
  /-- Then what was behind `b`. -/
  next_a : m₁.next a = m.next b
  /-- The other pointers. -/
  frame : ∀ p, p ≠ ptr → p ≠ a → p ≠ b → m₁.next p = m.next p
  /-- The items. -/
  ext : m.Extends m₁
  /-- Their costs. -/
  costAt_eq : m₁.costAt = m.costAt

theorem exchanged {m : Mem} {ptr a b : ℕ} (hpa : ptr ≠ a) (hpb : ptr ≠ b) (hab : a ≠ b) :
    Exchanged m (m.exchange ptr a b) ptr a b where
  next_ptr := Mem.next_setNext_self _ _ _
  next_b := by
    rw [Mem.exchange, Mem.next_setNext_of_ne _ (Ne.symm hpb),
      Mem.next_setNext_of_ne _ (Ne.symm hab), Mem.next_setNext_self]
  next_a := by rw [Mem.exchange, Mem.next_setNext_of_ne _ (Ne.symm hpa), Mem.next_setNext_self]
  frame p h₁ h₂ h₃ := by
    rw [Mem.exchange, Mem.next_setNext_of_ne _ h₁, Mem.next_setNext_of_ne _ h₂,
      Mem.next_setNext_of_ne _ h₃]
  ext := ((Mem.extends_setNext _ _ _).trans (Mem.extends_setNext _ _ _)).trans
    (Mem.extends_setNext _ _ _)
  costAt_eq := by
    funext p
    simp [Mem.exchange, Mem.costAt]

/-- **The reordering pass carries the first item of the list to its place**, and touches
no pointer outside the list. -/
theorem reorderTurn_run (as : List ℕ) : ∀ (m : Mem) (ptr a : ℕ),
    Chain m.next (m.next ptr) (a :: as) → (ptr :: a :: as).Nodup →
    ∃ m', Loop.run reorderTurn (as.length + 1) (m, ptr) = some m' ∧
      Chain m'.next (m'.next ptr) (SortedQueue.carry m.costAt a as) ∧
      m.Extends m' ∧ m'.top = m.top ∧ ∀ p, p ∉ ptr :: a :: as → m'.next p = m.next p := by
  induction as with
  | nil =>
    intro m ptr a hchain _
    obtain ⟨hptr, ha⟩ := hchain
    have hturn : reorderTurn (m, ptr) = .leave m := by
      simp only [reorderTurn, hptr, Chain.nil_iff.mp ha]
    exact ⟨m, Loop.run_succ_of_leave hturn 0, ⟨hptr, ha⟩, .refl m, rfl, fun _ _ => rfl⟩
  | cons b l ih =>
    intro m ptr a hchain hnodup
    obtain ⟨hptr, ha, hb⟩ := hchain
    simp only [List.nodup_cons, List.mem_cons, not_or] at hnodup
    obtain ⟨⟨hpa, hpb, hpl⟩, ⟨hab, hal⟩, hbl, hl⟩ := hnodup
    by_cases hlt : (m.node b).cost < (m.node a).cost
    · -- `a` and `b` are exchanged, and `a` is carried on
      have hex := exchanged (m := m) hpa hpb hab
      set m₁ := m.exchange ptr a b with hm₁
      have hturn : reorderTurn (m, ptr) = .again (m₁, b) := by
        simp only [reorderTurn, hptr, ha, if_pos hlt, hm₁, Mem.exchange]
      have hchain₁ : Chain m₁.next (m₁.next b) (a :: l) := by
        refine ⟨hex.next_b, ?_⟩
        rw [hex.next_a]
        refine hb.frame fun p hp => hex.frame p ?_ ?_ ?_
        · rintro rfl; exact hpl hp
        · rintro rfl; exact hal hp
        · rintro rfl; exact hbl hp
      obtain ⟨m', hrun, hchain', hext, htop, hframe⟩ := ih m₁ b a hchain₁
        (by simp [Ne.symm hab, hbl, hal, hl])
      have hptr' : m'.next ptr = some b := by
        rw [hframe ptr (by simp [hpb, hpa, hpl]), hex.next_ptr]
      refine ⟨m', ?_, ?_, hex.ext.trans hext, htop, ?_⟩
      · rw [List.length_cons, Loop.run_succ_of_again hturn, hrun]
      · rw [SortedQueue.carry_cons_of_lt (f := m.costAt) (UInt8.lt_iff_toNat_lt.mp hlt), hptr']
        refine ⟨rfl, ?_⟩
        rwa [hex.costAt_eq] at hchain'
      · intro p hp
        simp only [List.mem_cons, not_or] at hp
        rw [hframe p (by simp [hp]), hex.frame p hp.1 hp.2.1 hp.2.2.1]
    · -- `a` stays, and `b` is carried on
      have hturn : reorderTurn (m, ptr) = .again (m, a) := by
        simp only [reorderTurn, hptr, ha, if_neg hlt]
      obtain ⟨m', hrun, hchain', hext, htop, hframe⟩ := ih m a b ⟨ha, hb⟩
        (by simp [hab, hal, hbl, hl])
      refine ⟨m', ?_, ?_, hext, htop, ?_⟩
      · rw [List.length_cons, Loop.run_succ_of_again hturn, hrun]
      · have hle : m.costAt a ≤ m.costAt b := by
          rw [UInt8.lt_iff_toNat_lt, not_lt] at hlt
          exact hlt
        rw [SortedQueue.carry_cons_of_le hle, hframe ptr (by simp [hpa, hpb, hpl]), hptr]
        exact ⟨rfl, hchain'⟩
      · intro p hp
        simp only [List.mem_cons, not_or] at hp
        exact hframe p (by simp [hp])

/-- A list of distinct allocated items has at most `top` of them. -/
theorem length_le_of_nodup {as : List ℕ} {n : ℕ} (h : as.Nodup) (hlt : ∀ a ∈ as, a < n) :
    as.length ≤ n := by
  have hsub : as ⊆ List.range n := fun a ha => List.mem_range.mpr (hlt a ha)
  simpa using (List.subperm_of_subset h hsub).length_le

/-- **The specification of `dijkstra_stack_reorder`**: the first item of the list behind
`first` is carried to its place. -/
theorem reorder_spec {m : Mem} {first a : ℕ} {as : List ℕ}
    (hchain : Chain m.next (m.next first) (a :: as)) (hnodup : (first :: a :: as).Nodup)
    (hlt : ∀ p ∈ a :: as, p < m.top) :
    Loop.Leaves reorderTurn (m, first) (dijkstraStackReorder m first) ∧
      Chain (dijkstraStackReorder m first).next ((dijkstraStackReorder m first).next first)
        (SortedQueue.carry m.costAt a as) ∧
      m.Extends (dijkstraStackReorder m first) ∧
      (dijkstraStackReorder m first).top = m.top ∧
      ∀ p, p ∉ first :: a :: as → (dijkstraStackReorder m first).next p = m.next p := by
  obtain ⟨m', hrun, hspec⟩ := reorderTurn_run as m first a hchain hnodup
  have hlen := length_le_of_nodup (List.nodup_cons.mp hnodup).2 hlt
  rw [List.length_cons] at hlen
  have heq : dijkstraStackReorder m first = m' := by
    rw [dijkstraStackReorder, Loop.run_mono (by omega) hrun, Option.getD_some]
  rw [heq]
  exact ⟨⟨_, hrun⟩, hspec⟩

end Redes
