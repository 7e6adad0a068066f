import Redes.Dijkstra.Simulation
import Redes.Lib.Fuel

/-!
# One entry of the topology table

What `run_dijkstra` does for one entry of the topology table, read off the best-first
search that its search simulates.  When some interface has a neighbour, an item is on
the stack after every search that ends: the found one, or, when the heap ran empty, the
one expanded last.  So a route is added in both cases.

## Main definitions

* `HasPath` — there is a path to a network.
* `startQueue` — the queue a search starts with.
* `StateOk` — the state between two entries is in order.
* `NeedsRoute` — the network of an entry has no route that is kept.
* `Preserves` — what a search preserves about the queue and the routes.

## Main results

* `runEntry_of_noLinks` — without neighbours nothing is added.
* `runEntry_of_leaves` — otherwise a route is added for every search that ends.
* `runEntry_of_not_left` — and a search that does not end keeps the call from ending.
* `runDijkstra_invariant` — what every search preserves holds of the result.
-/

namespace Redes

open Walk

variable {routerId : IpAddr} {topology : List TopologyEntry} {ifList : List SrIf}
  {routingTable : List SrRt}

/-- A path to the network `n`: a first link and the links that follow it, the last one
with that network number. -/
def IsPathTo (routerId : IpAddr) (topology : List TopologyEntry) (ifList : List SrIf)
    (n : IpAddr) (w : Walk TopologyEntry) : Prop :=
  IsWalk (firstLinks routerId topology ifList) (nextLinks topology) w ∧ w.last.netNum = n

/-- There is a path to the network `n`. -/
def HasPath (routerId : IpAddr) (topology : List TopologyEntry) (ifList : List SrIf)
    (n : IpAddr) : Prop :=
  ∃ w, IsPathTo routerId topology ifList n w

/-- The queue a search starts with: the first links, and what the last search left. -/
def startQueue (roots : List TopologyEntry) (q : List (Walk TopologyEntry)) :
    List (Walk TopologyEntry) :=
  (roots.map Walk.start).reverse ++ q

theorem start_mem_startQueue {roots : List TopologyEntry} {q : List (Walk TopologyEntry)}
    {l : TopologyEntry} (h : l ∈ roots) : Walk.start l ∈ startQueue roots q := by
  simp [startQueue, h]

/-- The best-first search for the network `n`. -/
abbrev walkTurn (topology : List TopologyEntry) (n : IpAddr) :=
  BestFirst.turn itemCost (nextLinks topology) fun l => l.netNum = n

/-- The state between two entries: the memory is in order, and the heap holds the walks
that earlier searches left. -/
structure StateOk (routerId : IpAddr) (topology : List TopologyEntry) (ifList : List SrIf)
    (s : DijkstraState) (q : List (Walk TopologyEntry)) : Prop where
  /-- The memory is in order. -/
  mem : MemOk (firstLinks routerId topology ifList) (nextLinks topology) s.mem
  /-- The heap holds the queue. -/
  heap : HeapIs s.mem q

theorem StateOk.allWalks {s : DijkstraState} {q : List (Walk TopologyEntry)}
    (h : StateOk routerId topology ifList s q) :
    BestFirst.AllWalks (firstLinks routerId topology ifList) (nextLinks topology)
      (startQueue (firstLinks routerId topology ifList) q) := by
  intro w hw
  rcases List.mem_append.mp hw with hw | hw
  · simp only [List.mem_reverse, List.mem_map] at hw
    obtain ⟨l, hl, rfl⟩ := hw
    exact .start hl
  · exact h.heap.allWalks h.mem w hw

/-- The state in which `run_dijkstra` starts. -/
theorem stateOk_initial (table : List SrRt) :
    StateOk routerId topology ifList ⟨initialMem, table⟩ [] where
  mem := by
    refine ⟨le_rfl, ?_, ?_⟩
    · intro a ha hlt
      exact absurd hlt (by simp only [initialMem, createDikjstraItem, emptyMem]; omega)
    · intro a b ha hb
      have hnext : ∀ a, initialMem.next a = none := by
        intro a
        by_cases h₁ : a = 1
        · simp [initialMem, createDikjstraItem, emptyMem, Mem.next, h₁]
        · by_cases h₀ : a = 0
          · simp [initialMem, createDikjstraItem, emptyMem, Mem.next, h₀]
          · simp [initialMem, createDikjstraItem, emptyMem, Mem.next, h₁, h₀]
            rfl
      rw [hnext] at hb
      cases hb
  heap := ⟨[], rfl, List.nodup_nil, .nil⟩

/-! ### The fuel of an entry -/

theorem stable_runEntry (s : DijkstraState) (entry : TopologyEntry) :
    Fuel.Stable .outOfFuel fun n => runEntry n ifList topology routerId s entry := by
  intro n k hnk h
  simp only [runEntry] at h ⊢
  split
  · rfl
  · rename_i hc
    rw [if_neg hc] at h
    cases hr : Loop.run (searchTurn topology entry.netNum) n
        (pushNeighbors routerId topology ifList s.mem) with
    | none => rw [hr] at h; exact absurd rfl h
    | some m => rw [Loop.run_mono hnk hr]

theorem runEntry_of_checkRoute {s : DijkstraState} {entry : TopologyEntry}
    (h : checkRoute s.routingTable entry.netNum = true) (fuel : ℕ) :
    runEntry fuel ifList topology routerId s entry = .ok s := by
  rw [runEntry, if_pos h]

/-! ### The result of an entry -/

/-- Popping the stack keeps the state in order. -/
theorem pop_stack {roots : List TopologyEntry} {succ : TopologyEntry → List TopologyEntry}
    {m : Mem} {q : List (Walk TopologyEntry)} {a : ℕ} (hm : MemOk roots succ m)
    (hq : HeapIs m q) (ha : m.next stackPtr = some a) :
    MemOk roots succ (m.setNext stackPtr (m.next a)) ∧
      HeapIs (m.setNext stackPtr (m.next a)) q := by
  have hext := Mem.extends_setNext m stackPtr (m.next a)
  have hne : ∀ p, p ≠ stackPtr → (m.setNext stackPtr (m.next a)).next p = m.next p := fun p hp =>
    Mem.next_setNext_of_ne _ hp _
  have hbounds := hm.next_mem stackPtr a (Or.inl rfl) ha
  refine ⟨⟨hm.two_le, ?_, ?_⟩, ?_⟩
  · intro p hp hlt
    obtain ⟨u, hu, hitem⟩ := hm.items p hp hlt
    exact ⟨u, hu, hitem.extends hext⟩
  · intro p b hp hb
    rcases hp with rfl | hp
    · rw [Mem.next_setNext_self] at hb
      exact hm.next_mem a b (Or.inr hbounds) hb
    · rw [hne p (by simp only [stackPtr]; omega)] at hb
      exact hm.next_mem p b (Or.inr hp) hb
  · obtain ⟨as, hchain, hnodup, hforall⟩ := hq
    refine ⟨as, ?_, hnodup, forall₂_extends hext hforall⟩
    rw [hne heapPtr (by simp [heapPtr, stackPtr])]
    refine hchain.frame fun p hp => hne p ?_
    have := bounds_of_forall₂ hforall p hp
    simp only [stackPtr]
    omega

/-- The search of an entry and the best-first search leave together. -/
theorem search_rel {s : DijkstraState} {q : List (Walk TopologyEntry)}
    (hs : StateOk routerId topology ifList s q) (hlinks : firstLinks routerId topology ifList ≠ [])
    (n : IpAddr) (fuel : ℕ) :
    Option.Rel (ResultRel (firstLinks routerId topology ifList) topology)
      (Loop.run (searchTurn topology n) fuel (pushNeighbors routerId topology ifList s.mem))
      (Loop.run (walkTurn topology n) fuel
        (startQueue (firstLinks routerId topology ifList) q)) := by
  have hgrow := grows_pushNeighbors ifList (fun _ hl => hl) hs.mem hs.heap
  obtain ⟨l, hl⟩ := List.exists_mem_of_ne_nil _ hlinks
  have halive : l.neighborId ≠ 0 := by
    obtain ⟨i, -, ⟨-, hi⟩, rfl⟩ := mem_firstLinks.mp hl
    exact hi
  exact Loop.run_rel (fun _ _ h => searchTurn_rel h)
    ⟨hgrow.mem, hgrow.heap, Or.inr ⟨.start l, start_mem_startQueue hl, halive⟩⟩ fuel

/-- **Without a neighbour nothing is on the heap or the stack, and nothing is added.** -/
theorem runEntry_of_noLinks {s : DijkstraState} {q : List (Walk TopologyEntry)}
    {entry : TopologyEntry} (hs : StateOk routerId topology ifList s q)
    (hlinks : firstLinks routerId topology ifList = [])
    (hcheck : checkRoute s.routingTable entry.netNum = false) (fuel : ℕ) :
    ∃ m, runEntry (fuel + 1) ifList topology routerId s entry = .ok ⟨m, s.routingTable⟩ ∧
      StateOk routerId topology ifList ⟨m, s.routingTable⟩ [] := by
  have hnowalk : ∀ w, ¬ IsWalk (firstLinks routerId topology ifList) (nextLinks topology) w := by
    intro w hw
    have := hw.first_mem
    rw [hlinks] at this
    cases this
  obtain rfl : q = [] := by
    cases q with
    | nil => rfl
    | cons w q => exact absurd (hs.heap.allWalks hs.mem w List.mem_cons_self) (hnowalk w)
  have hgrow := grows_pushNeighbors ifList (fun _ hl => hl) hs.mem hs.heap
  rw [hlinks] at hgrow
  set m := pushNeighbors routerId topology ifList s.mem
  obtain ⟨_ | ⟨a, as⟩, hchain, -, hforall⟩ := hgrow.heap
  swap
  · cases hforall
  have hturn : searchTurn topology entry.netNum m = .leave m := by
    simp only [searchTurn, pop_of_empty (Chain.nil_iff.mp hchain)]
  have hstack : m.next stackPtr = none := by
    cases hb : m.next stackPtr with
    | none => rfl
    | some b =>
      obtain ⟨h₁, h₂⟩ := hgrow.mem.next_mem stackPtr b (Or.inl rfl) hb
      obtain ⟨w, hw, -⟩ := hgrow.mem.items b h₁ h₂
      exact absurd (hlinks ▸ hw) (hnowalk w)
  refine ⟨m, ?_, hlinks ▸ hgrow.mem, hgrow.heap⟩
  rw [runEntry, if_neg (by simp [hcheck]), Loop.run_succ_of_leave hturn]
  simp only [pop_of_empty hstack]

/-- **When some interface has a neighbour, a search that ends is followed by a route for
the entry's network**, by way of the found walk or, when none was found, of some other
walk. -/
theorem runEntry_of_leaves {s : DijkstraState} {q : List (Walk TopologyEntry)}
    {entry : TopologyEntry} (hs : StateOk routerId topology ifList s q)
    (hlinks : firstLinks routerId topology ifList ≠ [])
    (hcheck : checkRoute s.routingTable entry.netNum = false) {fuel : ℕ}
    {r : Option (Walk TopologyEntry) × List (Walk TopologyEntry)}
    (hr : Loop.run (walkTurn topology entry.netNum) fuel
      (startQueue (firstLinks routerId topology ifList) q) = some r) :
    ∃ m w, IsWalk (firstLinks routerId topology ifList) (nextLinks topology) w ∧
      (∀ u, r.1 = some u → w = u) ∧
      (∀ table, StateOk routerId topology ifList ⟨m, table⟩ r.2) ∧
      runEntry fuel ifList topology routerId s entry =
        match nextHopInterface ifList w.first with
        | none => .error .assertion
        | some i => .ok ⟨m, srAddRtEntry s.routingTable entry.netNum w.first.nextHop
            entry.netMask i.name 110⟩ := by
  have hrel := search_rel hs hlinks entry.netNum fuel
  rw [hr] at hrel
  cases hm : Loop.run (searchTurn topology entry.netNum) fuel
      (pushNeighbors routerId topology ifList s.mem) with
  | none => rw [hm] at hrel; cases hrel
  | some m =>
    rw [hm] at hrel
    cases hrel with
    | some hres =>
      obtain ⟨hmem, hheap, a, ha, hfound⟩ := hres
      obtain ⟨hmem', hheap'⟩ := pop_stack hmem hheap ha
      have hbounds := hmem.next_mem stackPtr a (Or.inl rfl) ha
      obtain ⟨w, hw, hitem⟩ := hmem.items a hbounds.1 hbounds.2
      refine ⟨m.setNext stackPtr (m.next a), w, hw, fun u hu => hitem.unique (hfound u hu),
        fun table => ⟨hmem', hheap'⟩, ?_⟩
      have hroot := root_spec (hitem.extends (Mem.extends_setNext m stackPtr (m.next a)))
        (Nat.le_succ a)
      rw [runEntry, if_neg (by simp [hcheck]), hm]
      cases hi : nextHopInterface ifList w.first <;> simp only [pop_of_next ha, hroot, hi]

/-- **A search that has not ended leaves the call without result.** -/
theorem runEntry_of_not_left {s : DijkstraState} {q : List (Walk TopologyEntry)}
    {entry : TopologyEntry} (hs : StateOk routerId topology ifList s q)
    (hlinks : firstLinks routerId topology ifList ≠ [])
    (hcheck : checkRoute s.routingTable entry.netNum = false) {fuel : ℕ}
    (hr : Loop.run (walkTurn topology entry.netNum) fuel
      (startQueue (firstLinks routerId topology ifList) q) = none) :
    runEntry fuel ifList topology routerId s entry = .error .outOfFuel := by
  have hrel := search_rel hs hlinks entry.netNum fuel
  rw [hr] at hrel
  rw [runEntry, if_neg (by simp [hcheck])]
  cases hm : Loop.run (searchTurn topology entry.netNum) fuel
      (pushNeighbors routerId topology ifList s.mem) with
  | none => rfl
  | some m => rw [hm] at hrel; cases hrel

/-- **The possible results of an entry that succeeds**: the state is as it was, no
neighbour is known, or a search ended and a route to the entry's network was added. -/
theorem runEntry_ok {s s' : DijkstraState} {q : List (Walk TopologyEntry)}
    {entry : TopologyEntry} {fuel : ℕ} (hs : StateOk routerId topology ifList s q)
    (h : runEntry fuel ifList topology routerId s entry = .ok s') :
    (checkRoute s.routingTable entry.netNum = true ∧ s' = s) ∨
      (checkRoute s.routingTable entry.netNum = false ∧
        firstLinks routerId topology ifList = [] ∧ s'.routingTable = s.routingTable ∧
        StateOk routerId topology ifList s' []) ∨
      (checkRoute s.routingTable entry.netNum = false ∧
        firstLinks routerId topology ifList ≠ [] ∧
        ∃ r w i, Loop.Leaves (walkTurn topology entry.netNum)
            (startQueue (firstLinks routerId topology ifList) q) r ∧
          IsWalk (firstLinks routerId topology ifList) (nextLinks topology) w ∧
          (∀ u, r.1 = some u → w = u) ∧ nextHopInterface ifList w.first = some i ∧
          s'.routingTable = srAddRtEntry s.routingTable entry.netNum w.first.nextHop
            entry.netMask i.name 110 ∧
          StateOk routerId topology ifList s' r.2) := by
  cases hcheck : checkRoute s.routingTable entry.netNum with
  | true =>
    rw [runEntry_of_checkRoute hcheck] at h
    exact Or.inl ⟨rfl, (Except.ok.inj h).symm⟩
  | false =>
    by_cases hlinks : firstLinks routerId topology ifList = []
    · cases fuel with
      | zero => simp [runEntry, hcheck] at h
      | succ fuel =>
        obtain ⟨m, hrun, hok⟩ := runEntry_of_noLinks hs hlinks hcheck fuel
        obtain rfl : (⟨m, s.routingTable⟩ : DijkstraState) = s' := Except.ok.inj (hrun.symm.trans h)
        exact Or.inr (Or.inl ⟨rfl, hlinks, rfl, hok⟩)
    · cases hr : Loop.run (walkTurn topology entry.netNum) fuel
          (startQueue (firstLinks routerId topology ifList) q) with
      | none => rw [runEntry_of_not_left hs hlinks hcheck hr] at h; cases h
      | some r =>
        obtain ⟨m, w, hw, hfound, hok, hrun⟩ := runEntry_of_leaves hs hlinks hcheck hr
        cases hi : nextHopInterface ifList w.first with
        | none => rw [hrun, hi] at h; cases h
        | some i =>
          rw [hrun, hi] at h
          obtain rfl := Except.ok.inj h
          exact Or.inr (Or.inr ⟨rfl, hlinks, r, w, i, ⟨fuel, hr⟩, hw, hfound, hi, rfl, hok _⟩)

/-! ### The whole call -/

/-- The entry's network has no route that `clear_routes` keeps. -/
def NeedsRoute (routingTable : List SrRt) (t : TopologyEntry) : Prop :=
  checkRoute (clearRoutes routingTable) t.netNum = false

instance (t : TopologyEntry) : Decidable (NeedsRoute routingTable t) :=
  inferInstanceAs (Decidable (_ = false))

/-- The search for the entry `t` keeps `Q` of the queue and adds a route with `R`. -/
structure Preserves (routerId : IpAddr) (topology : List TopologyEntry) (ifList : List SrIf)
    (Q : List (Walk TopologyEntry) → Prop) (R : SrRt → Prop) (t : TopologyEntry) : Prop where
  /-- What the search leaves in the queue has `Q`. -/
  queue : ∀ q r,
    BestFirst.AllWalks (firstLinks routerId topology ifList) (nextLinks topology)
      (startQueue (firstLinks routerId topology ifList) q) → Q q →
    Loop.Leaves (walkTurn topology t.netNum)
      (startQueue (firstLinks routerId topology ifList) q) r → Q r.2
  /-- The route by way of the walk on the stack has `R`. -/
  route : ∀ q r w i,
    BestFirst.AllWalks (firstLinks routerId topology ifList) (nextLinks topology)
      (startQueue (firstLinks routerId topology ifList) q) → Q q →
    Loop.Leaves (walkTurn topology t.netNum)
      (startQueue (firstLinks routerId topology ifList) q) r →
    IsWalk (firstLinks routerId topology ifList) (nextLinks topology) w →
    (∀ u, r.1 = some u → w = u) → nextHopInterface ifList w.first = some i →
    R ⟨t.netNum, w.first.nextHop, t.netMask, i.name, 110⟩

/-- What the entries before have done: the state is in order, the queue has `Q`, and the
routes added have `R`. -/
structure EntryInv (routerId : IpAddr) (topology : List TopologyEntry) (ifList : List SrIf)
    (routingTable : List SrRt) (Q : List (Walk TopologyEntry) → Prop) (R : SrRt → Prop)
    (s : DijkstraState) (q : List (Walk TopologyEntry)) : Prop where
  /-- The state is in order. -/
  ok : StateOk routerId topology ifList s q
  /-- The queue has `Q`. -/
  queue : Q q
  /-- Routes with `R` were added. -/
  grown : ∃ new, s.routingTable = clearRoutes routingTable ++ new ∧ ∀ e ∈ new, R e

variable {Q : List (Walk TopologyEntry) → Prop} {R : SrRt → Prop}

theorem EntryInv.needsRoute {s : DijkstraState} {q : List (Walk TopologyEntry)}
    (h : EntryInv routerId topology ifList routingTable Q R s q) {t : TopologyEntry}
    (hc : checkRoute s.routingTable t.netNum = false) : NeedsRoute routingTable t := by
  obtain ⟨new, hnew, -⟩ := h.grown
  rw [NeedsRoute, ← Bool.not_eq_true]
  intro hkept
  rw [hnew, checkRoute_append hkept] at hc
  cases hc

theorem entryInv_initial (hnil : Q []) :
    EntryInv routerId topology ifList routingTable Q R
      ⟨initialMem, clearRoutes routingTable⟩ [] :=
  ⟨stateOk_initial _, hnil, [], (List.append_nil _).symm, by simp⟩

/-- **What the searches preserve holds after each entry.** -/
theorem EntryInv.runEntry (hnil : Q []) {t : TopologyEntry} {s s' : DijkstraState}
    {q : List (Walk TopologyEntry)}
    (hpres : NeedsRoute routingTable t → Preserves routerId topology ifList Q R t)
    (hs : EntryInv routerId topology ifList routingTable Q R s q) {fuel : ℕ}
    (h : runEntry fuel ifList topology routerId s t = .ok s') :
    ∃ q', EntryInv routerId topology ifList routingTable Q R s' q' := by
  obtain ⟨new, hnew, hR⟩ := hs.grown
  rcases runEntry_ok hs.ok h with ⟨-, rfl⟩ | ⟨-, -, htable, hok⟩ |
    ⟨hcheck, -, r, w, i, hr, hw, hfound, hi, htable, hok⟩
  · exact ⟨q, hs⟩
  · exact ⟨[], hok, hnil, new, htable.trans hnew, hR⟩
  · have hp := hpres (hs.needsRoute hcheck)
    refine ⟨r.2, hok, hp.queue q r hs.ok.allWalks hs.queue hr,
      new ++ [⟨t.netNum, w.first.nextHop, t.netMask, i.name, 110⟩], ?_, ?_⟩
    · rw [htable, hnew, srAddRtEntry, List.append_assoc]
    · intro e he
      rcases List.mem_append.mp he with he | he
      · exact hR e he
      · rw [List.mem_singleton.mp he]
        exact hp.route q r w i hs.ok.allWalks hs.queue hr hw hfound hi

/-- Routes are never taken away again. -/
theorem checkRoute_runEntry {s s' : DijkstraState} {q : List (Walk TopologyEntry)}
    {t : TopologyEntry} (hs : StateOk routerId topology ifList s q) {fuel : ℕ}
    (h : runEntry fuel ifList topology routerId s t = .ok s') {n : IpAddr}
    (hn : checkRoute s.routingTable n = true) : checkRoute s'.routingTable n = true := by
  rcases runEntry_ok hs h with ⟨-, rfl⟩ | ⟨-, -, htable, -⟩ |
    ⟨-, -, r, w, i, -, -, -, -, htable, -⟩
  · exact hn
  · rw [htable, hn]
  · rw [htable]
    exact checkRoute_append hn

/-- With a neighbour, there is a route for the entry's network after the entry. -/
theorem checkRoute_runEntry_self {s s' : DijkstraState} {q : List (Walk TopologyEntry)}
    {t : TopologyEntry} (hs : StateOk routerId topology ifList s q)
    (hlinks : firstLinks routerId topology ifList ≠ []) {fuel : ℕ}
    (h : runEntry fuel ifList topology routerId s t = .ok s') :
    checkRoute s'.routingTable t.netNum = true := by
  rcases runEntry_ok hs h with ⟨hcheck, rfl⟩ | ⟨-, hno, -, -⟩ |
    ⟨-, -, r, w, i, -, -, -, -, htable, -⟩
  · exact hcheck
  · exact absurd hno hlinks
  · rw [htable, checkRoute_eq_true]
    exact ⟨_, List.mem_append_right _ (List.mem_singleton_self _), rfl⟩

/-- **What every search preserves holds of the result of the call**: the routes it adds
have `R`, and, with a neighbour, every network of the table has a route. -/
theorem runDijkstra_invariant {result : List SrRt} (hnil : Q [])
    (hpres : ∀ t ∈ topology, NeedsRoute routingTable t →
      Preserves routerId topology ifList Q R t)
    (h : Returns ifList topology routerId routingTable result) :
    (∃ new, result = clearRoutes routingTable ++ new ∧ ∀ e ∈ new, R e) ∧
      (firstLinks routerId topology ifList ≠ [] →
        ∀ t ∈ topology, checkRoute result t.netNum = true) := by
  have key : ∀ (fuel : ℕ) (ts : List TopologyEntry), ts ⊆ topology → ∀ s s' q,
      EntryInv routerId topology ifList routingTable Q R s q →
      ts.foldlM (runEntry fuel ifList topology routerId) s = .ok s' →
      (∃ q', EntryInv routerId topology ifList routingTable Q R s' q') ∧
        (∀ n, checkRoute s.routingTable n = true → checkRoute s'.routingTable n = true) ∧
        (firstLinks routerId topology ifList ≠ [] →
          ∀ t ∈ ts, checkRoute s'.routingTable t.netNum = true) := by
    intro fuel ts
    induction ts with
    | nil =>
      intro _ s s' q hs hf
      cases hf
      exact ⟨⟨q, hs⟩, fun _ hn => hn, by simp⟩
    | cons t ts ih =>
      intro hsub s s' q hs hf
      rw [List.cons_subset] at hsub
      obtain ⟨s₁, hrun, hrest⟩ := Fuel.foldlM_cons_ok hf
      obtain ⟨q₁, hs₁⟩ := hs.runEntry hnil (hpres t hsub.1) hrun
      obtain ⟨hinv, hkeep, hall⟩ := ih hsub.2 s₁ s' q₁ hs₁ hrest
      refine ⟨hinv, fun n hn => hkeep n (checkRoute_runEntry hs.ok hrun hn), ?_⟩
      intro hlinks u hu
      rcases List.mem_cons.mp hu with rfl | hu
      · exact hkeep _ (checkRoute_runEntry_self hs.ok hlinks hrun)
      · exact hall hlinks u hu
  obtain ⟨fuel, hfuel⟩ := h
  rw [runDijkstra] at hfuel
  cases hf : topology.foldlM (runEntry fuel ifList topology routerId)
      ⟨initialMem, clearRoutes routingTable⟩ with
  | error e => rw [hf] at hfuel; cases hfuel
  | ok s =>
    rw [hf] at hfuel
    obtain rfl : s.routingTable = result := Except.ok.inj hfuel
    obtain ⟨⟨q', hinv⟩, -, hall⟩ := key fuel topology (List.Subset.refl _) _ s []
      (entryInv_initial hnil) hf
    exact ⟨hinv.grown, hall⟩

end Redes
