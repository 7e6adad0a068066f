import Redes.Dijkstra.Run
import Redes.Pwospf.Sequence

/-!
# Recomputations that run at the same time

Every accepted update, and every sweep that removes a link, starts a thread that runs
`run_dijkstra`.  The thread locks a mutex while it rebuilds the routes, but the mutex is a
copy: `g_dijkstra_mutex` is copied into the parameters of the thread, and from there into a
variable of its own.

## Main definitions

* `Mutex` — the mutexes in the program.
* `DijkstraThread`, `RecomputeState` — the threads and what they share.
* `RecomputeStep`, `RecomputeRun` — the steps, in any order.
* `InSection` — a thread is between its lock and its unlock.
* `OneAtATime` — threads are started one after the other.

## Main results

* `recomputations_exclude` — then at most one thread changes the routes.
* `exists_two_inSection` — and otherwise two can be between lock and unlock.
-/

namespace Redes

/-- The mutexes that recomputations use. -/
inductive Mutex
  /-- `g_dijkstra_mutex`. -/
  | shared
  /-- The copy in the parameters of a thread. -/
  | param (t : ℕ)
  /-- The variable `mutex` of a thread, which is what it locks. -/
  | own (t : ℕ)
  deriving DecidableEq

/-- Where a thread stands in `run_dijkstra`. -/
inductive DijkstraPc
  /-- Before the lock. -/
  | created
  /-- Behind the lock. -/
  | locked
  /-- In the loop over the topology table. -/
  | looping
  /-- Behind the unlock. -/
  | ended
  deriving DecidableEq

/-- A thread that runs `run_dijkstra`. -/
structure DijkstraThread where
  /-- Where it stands. -/
  pc : DijkstraPc
  /-- The memory of its searches. -/
  mem : Mem
  /-- The topology entries that its loop has yet to visit. -/
  todo : List TopologyEntry

/-- The threads, by the order in which they were started, and what they share. -/
structure RecomputeState where
  /-- Is the mutex locked? -/
  held : Mutex → Bool
  /-- The threads. -/
  threads : List DijkstraThread
  /-- `g_topology`. -/
  topology : List TopologyEntry
  /-- `sr->routing_table`. -/
  routingTable : List SrRt

/-- What can happen. -/
inductive RecomputeAction
  /-- An LSU is handled, or the topology table is swept. -/
  | event (ev : TopologyEvent)
  /-- A thread locks its mutex. -/
  | lock (t : ℕ)
  /-- It clears the routes. -/
  | clear (t : ℕ)
  /-- It does the next turn of its loop. -/
  | iterate (t : ℕ)
  /-- It unlocks its mutex. -/
  | unlock (t : ℕ)

/-- The event starts a recomputation: the LSU is accepted, or the sweep removed a link. -/
def TopologyEvent.Spawns (ownId : IpAddr) (table : List TopologyEntry) : TopologyEvent → Bool
  | .lsu l => accepts ownId table l
  | .tick => (checkTopologyAge table).2

/-- The end of both callers: the parameters get a copy of the mutex as it is, and the thread is
created. -/
def createDijkstraThread (s : RecomputeState) : RecomputeState :=
  { s with
    held := fun m => if m = .param s.threads.length then s.held .shared else s.held m
    threads := s.threads ++ [⟨.created, initialMem, []⟩] }

/-- The topology table changes under the loops that are under way.  What they still find there
is left open. -/
def redirect (todo : ℕ → List TopologyEntry) (threads : List DijkstraThread) :
    List DijkstraThread :=
  threads.mapIdx fun t th => { th with todo := todo t }

/-- The steps of the callers and of the threads. -/
inductive RecomputeStep (ownId : IpAddr) : RecomputeState → RecomputeAction → RecomputeState → Prop
  /-- An event that starts no recomputation. -/
  | quiet {s : RecomputeState} {ev : TopologyEvent} (todo : ℕ → List TopologyEntry) :
      ev.Spawns ownId s.topology = false →
        RecomputeStep ownId s (.event ev)
          { s with topology := ev.apply ownId s.topology, threads := redirect todo s.threads }
  /-- An event that starts one. -/
  | spawn {s : RecomputeState} {ev : TopologyEvent} (todo : ℕ → List TopologyEntry) :
      ev.Spawns ownId s.topology = true →
        RecomputeStep ownId s (.event ev) (createDijkstraThread
          { s with topology := ev.apply ownId s.topology, threads := redirect todo s.threads })
  /-- The mutex in the parameters is copied, and the copy is locked. -/
  | lock {s : RecomputeState} {t : ℕ} {th : DijkstraThread} :
      s.threads[t]? = some th → th.pc = .created → s.held (.param t) = false →
        RecomputeStep ownId s (.lock t)
          { s with
            held := fun m => if m = .own t then true else s.held m
            threads := s.threads.set t { th with pc := .locked } }
  /-- `clear_routes`; the loop starts. -/
  | clear {s : RecomputeState} {t : ℕ} {th : DijkstraThread} :
      s.threads[t]? = some th → th.pc = .locked →
        RecomputeStep ownId s (.clear t)
          { s with
            threads := s.threads.set t { th with pc := .looping, todo := s.topology }
            routingTable := clearRoutes s.routingTable }
  /-- A turn of the loop that ends. -/
  | iterate {s : RecomputeState} {t : ℕ} {th : DijkstraThread} {entry : TopologyEntry}
      {rest : List TopologyEntry} {fuel : ℕ} {ifList : List SrIf} {d : DijkstraState} :
      s.threads[t]? = some th → th.pc = .looping → th.todo = entry :: rest →
        runEntry fuel ifList s.topology ownId ⟨th.mem, s.routingTable⟩ entry = .ok d →
          RecomputeStep ownId s (.iterate t)
            { s with
              threads := s.threads.set t { th with mem := d.mem, todo := rest }
              routingTable := d.routingTable }
  /-- The loop is over. -/
  | unlock {s : RecomputeState} {t : ℕ} {th : DijkstraThread} :
      s.threads[t]? = some th → th.pc = .looping → th.todo = [] →
        RecomputeStep ownId s (.unlock t)
          { s with
            held := fun m => if m = .own t then false else s.held m
            threads := s.threads.set t { th with pc := .ended } }

/-- The states that are reached by allowed steps, before any thread was started. -/
inductive RecomputeRun (ownId : IpAddr) (allowed : RecomputeState → RecomputeAction → Prop) :
    RecomputeState → Prop
  /-- No thread, no mutex locked. -/
  | init (topology : List TopologyEntry) (routingTable : List SrRt) :
      RecomputeRun ownId allowed ⟨fun _ => false, [], topology, routingTable⟩
  /-- One more step. -/
  | step {s s' : RecomputeState} {a : RecomputeAction} :
      RecomputeRun ownId allowed s → allowed s a → RecomputeStep ownId s a s' →
        RecomputeRun ownId allowed s'

/-- The thread is between its lock and its unlock. -/
def InSection (s : RecomputeState) (t : ℕ) : Prop :=
  ∃ th ∈ s.threads[t]?, th.pc = .locked ∨ th.pc = .looping

/-- The thread has been started and is not through. -/
def Unfinished (s : RecomputeState) (t : ℕ) : Prop := ∃ th ∈ s.threads[t]?, th.pc ≠ .ended

/-- A thread is started only when all threads are through. -/
def OneAtATime (ownId : IpAddr) (s : RecomputeState) (a : RecomputeAction) : Prop :=
  ∀ ev, a = .event ev → ev.Spawns ownId s.topology = true → ∀ t, ¬ Unfinished s t

/-! ### What a step does to the threads -/

section Steps

variable {ownId : IpAddr} {s s' : RecomputeState} {a : RecomputeAction}

theorem InSection.unfinished {t : ℕ} (h : InSection s t) : Unfinished s t := by
  obtain ⟨th, hth, hpc⟩ := h
  refine ⟨th, hth, ?_⟩
  rintro hended
  rw [hended] at hpc
  rcases hpc with hpc | hpc <;> cases hpc

theorem mem_redirect {todo : ℕ → List TopologyEntry} {threads : List DijkstraThread} {t : ℕ}
    {th : DijkstraThread} : th ∈ (redirect todo threads)[t]? ↔
      ∃ th₀ ∈ threads[t]?, th = { th₀ with todo := todo t } := by
  unfold redirect
  rw [Option.mem_def, List.getElem?_mapIdx, Option.map_eq_some_iff]
  exact exists_congr fun th₀ => and_congr_right fun _ => eq_comm

/-- **What a step does**: it is an event, which may start a thread, or a thread that is not through
takes its next step. -/
theorem recomputeStep_cases (h : RecomputeStep ownId s a s') :
    (∃ ev todo, a = .event ev ∧ s'.routingTable = s.routingTable ∧
      (s'.threads = redirect todo s.threads ∨
        ev.Spawns ownId s.topology = true ∧
          s'.threads = redirect todo s.threads ++ [⟨.created, initialMem, []⟩])) ∨
    ∃ t th th', s.threads[t]? = some th ∧ th.pc ≠ .ended ∧ s'.threads = s.threads.set t th' ∧
      (s'.routingTable = s.routingTable ∨ InSection s t ∧ (a = .clear t ∨ a = .iterate t)) := by
  cases h with
  | quiet todo hspawns => exact .inl ⟨_, todo, rfl, rfl, .inl rfl⟩
  | spawn todo hspawns => exact .inl ⟨_, todo, rfl, rfl, .inr ⟨hspawns, rfl⟩⟩
  | lock hth hpc hheld => exact .inr ⟨_, _, _, hth, by rw [hpc]; decide, rfl, .inl rfl⟩
  | clear hth hpc =>
    exact .inr ⟨_, _, _, hth, by rw [hpc]; decide, rfl, .inr ⟨⟨_, hth, .inl hpc⟩, .inl rfl⟩⟩
  | iterate hth hpc htodo hrun =>
    exact .inr ⟨_, _, _, hth, by rw [hpc]; decide, rfl, .inr ⟨⟨_, hth, .inr hpc⟩, .inr rfl⟩⟩
  | unlock hth hpc htodo => exact .inr ⟨_, _, _, hth, by rw [hpc]; decide, rfl, .inl rfl⟩

/-- A thread that is not through after a step was not before, or has just been started. -/
theorem unfinished_of_step (h : RecomputeStep ownId s a s') {t : ℕ} (ht : Unfinished s' t) :
    Unfinished s t ∨ (t = s.threads.length ∧ ∃ ev, a = .event ev ∧
      ev.Spawns ownId s.topology = true) := by
  obtain ⟨th, hth, hpc⟩ := ht
  rcases recomputeStep_cases h with ⟨ev, todo, rfl, -, hthreads | ⟨hspawns, hthreads⟩⟩ |
    ⟨u, thu, thu', hu, hupc, hthreads, -⟩
  · rw [hthreads] at hth
    obtain ⟨th₀, hth₀, rfl⟩ := mem_redirect.mp hth
    exact .inl ⟨th₀, hth₀, hpc⟩
  · rw [hthreads] at hth
    have hlen : (redirect todo s.threads).length = s.threads.length := List.length_mapIdx
    by_cases hlt : t < s.threads.length
    · rw [List.getElem?_append_left (by omega)] at hth
      obtain ⟨th₀, hth₀, rfl⟩ := mem_redirect.mp hth
      exact .inl ⟨th₀, hth₀, hpc⟩
    · right
      refine ⟨?_, ev, rfl, hspawns⟩
      obtain ⟨hlt', -⟩ := List.getElem?_eq_some_iff.mp hth
      rw [List.length_append, hlen, List.length_singleton] at hlt'
      omega
  · -- a step of `u` leaves the other threads as they are, and `u` was not through
    left
    rw [hthreads] at hth
    by_cases hut : u = t
    · subst hut
      exact ⟨thu, hu, hupc⟩
    · rw [List.getElem?_set_ne hut] at hth
      exact ⟨th, hth, hpc⟩

end Steps

/-! ### Threads that are started one after the other -/

/-- **At most one thread is not through**, if threads are started one after the other. -/
theorem unfinished_unique {ownId : IpAddr} {s : RecomputeState}
    (h : RecomputeRun ownId (OneAtATime ownId) s) {t u : ℕ} (ht : Unfinished s t)
    (hu : Unfinished s u) : t = u := by
  induction h generalizing t u with
  | init topology routingTable =>
    obtain ⟨th, hth, -⟩ := ht
    cases hth
  | @step s s' a _ hallowed hstep ih =>
    rcases unfinished_of_step hstep ht with ht | ⟨rfl, ev, rfl, hspawns⟩
    · rcases unfinished_of_step hstep hu with hu | ⟨-, ev, rfl, hspawns⟩
      · exact ih ht hu
      · exact absurd ht (hallowed ev rfl hspawns t)
    · rcases unfinished_of_step hstep hu with hu | ⟨rfl, -⟩
      · exact absurd hu (hallowed ev rfl hspawns u)
      · rfl

/-- **Recomputations exclude each other** in every run that starts a thread only when all threads
are through: at most one is between its lock and its unlock, and only this one changes the
routes. -/
theorem recomputations_exclude {ownId : IpAddr} {s : RecomputeState}
    (h : RecomputeRun ownId (OneAtATime ownId) s) :
    (∀ t u, InSection s t → InSection s u → t = u) ∧
      ∀ a s', RecomputeStep ownId s a s' → s'.routingTable ≠ s.routingTable →
        ∃ t, InSection s t ∧ (a = .clear t ∨ a = .iterate t) ∧ ∀ u, InSection s u → u = t := by
  have hunique : ∀ t u, InSection s t → InSection s u → t = u :=
    fun t u ht hu => unfinished_unique h ht.unfinished hu.unfinished
  refine ⟨hunique, ?_⟩
  intro a s' hstep hchanged
  rcases recomputeStep_cases hstep with ⟨ev, todo, -, hsame, -⟩ | ⟨t, th, th', -, -, -, hroutes⟩
  · exact absurd hsame hchanged
  · rcases hroutes with hsame | ⟨ht, ha⟩
    · exact absurd hsame hchanged
    · exact ⟨t, ht, ha, fun u hu => hunique u t hu ht⟩

/-! ### Threads that are not -/

/-- Nobody locks `g_dijkstra_mutex`, nor a copy in the parameters of a thread. -/
theorem not_held_param {ownId : IpAddr} {allowed : RecomputeState → RecomputeAction → Prop}
    {s : RecomputeState} (h : RecomputeRun ownId allowed s) :
    s.held .shared = false ∧ ∀ t, s.held (.param t) = false := by
  induction h with
  | init topology routingTable => exact ⟨rfl, fun _ => rfl⟩
  | step _ _ hstep ih =>
    cases hstep with
    | quiet => exact ih
    | spawn =>
      refine ⟨ih.1, fun t => ?_⟩
      simp only [createDijkstraThread]
      split
      · exact ih.1
      · exact ih.2 t
    | lock => exact ⟨ih.1, ih.2⟩
    | clear => exact ih
    | iterate => exact ih
    | unlock => exact ⟨ih.1, ih.2⟩

/-- A thread that is not through can get between lock and unlock, and leaves the others where they
are. -/
theorem exists_enter {ownId : IpAddr} {s : RecomputeState}
    (h : RecomputeRun ownId (fun _ _ => True) s) {t : ℕ} (ht : Unfinished s t) :
    ∃ s', RecomputeRun ownId (fun _ _ => True) s' ∧ InSection s' t ∧
      ∀ u, (InSection s u → InSection s' u) ∧ (Unfinished s u → Unfinished s' u) := by
  obtain ⟨th, hth, hpc⟩ := ht
  have hself : ∀ th', (s.threads.set t th')[t]? = some th' := fun th' =>
    List.getElem?_set_self (List.getElem?_eq_some_iff.mp hth).1
  cases hpc' : th.pc with
  | created =>
    -- the mutex that is copied is never held
    have hrun := h.step trivial (.lock hth hpc' ((not_held_param h).2 t))
    have hin := hself { th with pc := .locked }
    refine ⟨_, hrun, ⟨_, hin, .inl rfl⟩, ?_⟩
    intro u
    by_cases hut : t = u
    · subst hut
      exact ⟨fun _ => ⟨_, hin, .inl rfl⟩, fun _ => ⟨_, hin, by simp⟩⟩
    · constructor
      · rintro ⟨thu, hthu, hu⟩
        exact ⟨thu, (List.getElem?_set_ne hut).trans hthu, hu⟩
      · rintro ⟨thu, hthu, hu⟩
        exact ⟨thu, (List.getElem?_set_ne hut).trans hthu, hu⟩
  | locked => exact ⟨s, h, ⟨th, hth, .inl hpc'⟩, fun _ => ⟨id, id⟩⟩
  | looping => exact ⟨s, h, ⟨th, hth, .inr hpc'⟩, fun _ => ⟨id, id⟩⟩
  | ended => exact absurd hpc' hpc

/-- **If a thread is started while another one is not through, both can get between lock and
unlock.** -/
theorem exists_two_inSection {ownId : IpAddr} {s : RecomputeState}
    (h : RecomputeRun ownId (fun _ _ => True) s) {t : ℕ} (ht : Unfinished s t) {ev : TopologyEvent}
    (hspawns : ev.Spawns ownId s.topology = true) :
    ∃ s', RecomputeRun ownId (fun _ _ => True) s' ∧ InSection s' t ∧
      InSection s' s.threads.length := by
  obtain ⟨th, hth, hpc⟩ := ht
  obtain ⟨hlt, -⟩ := List.getElem?_eq_some_iff.mp hth
  have hlen : (redirect (fun _ => th.todo) s.threads).length = s.threads.length :=
    List.length_mapIdx
  have hrun := h.step trivial (.spawn (fun _ => th.todo) hspawns)
  obtain ⟨s₁, hrun₁, hnew₁, hkeep₁⟩ := exists_enter hrun (t := s.threads.length) (by
    refine ⟨⟨.created, initialMem, []⟩, ?_, by decide⟩
    simp only [createDijkstraThread]
    rw [Option.mem_def, List.getElem?_append_right (by omega), hlen, Nat.sub_self]
    rfl)
  obtain ⟨s₂, hrun₂, hold₂, hkeep₂⟩ := exists_enter hrun₁ (t := t) ((hkeep₁ t).2 (by
    refine ⟨th, ?_, hpc⟩
    simp only [createDijkstraThread]
    rw [Option.mem_def, List.getElem?_append_left (by omega)]
    exact mem_redirect.mpr ⟨th, hth, rfl⟩))
  exact ⟨s₂, hrun₂, hold₂, (hkeep₂ _).1 hnew₁⟩

/-! ### Two updates, for examples -/

/-- An update of the router 10.0.3.9 that advertises nothing. -/
def emptyLsu : Lsu := ⟨0x0903000a, 1, 0x0901000a, []⟩

/-- A static route and a computed one. -/
def computedTable : List SrRt :=
  [⟨0, 0x0201000a, 0, "eth1".toList, 0⟩, ⟨0x0004000a, 0x0901000a, 0x00ffffff, "eth1".toList, 110⟩]

/-- Before any update. -/
def beforeUpdates : RecomputeState := ⟨fun _ => false, [], [], computedTable⟩

/-- The router 10.0.1.1 handles the update, and the thread that it starts locks its mutex. -/
theorem one_recomputation_excludes :
    ∃ s, RecomputeRun 0x0101000a (OneAtATime 0x0101000a) s ∧ InSection s 0 ∧
      ∀ t u, InSection s t → InSection s u → t = u := by
  have hrun : RecomputeRun 0x0101000a (OneAtATime 0x0101000a) beforeUpdates :=
    .init [] computedTable
  have hfirst : OneAtATime 0x0101000a beforeUpdates (.event (.lsu emptyLsu)) := by
    rintro ev - - t ⟨th, hth, -⟩
    cases hth
  have hstarted := hrun.step hfirst (.spawn (fun _ => []) rfl)
  have hlocked := hstarted.step (a := .lock 0) (fun _ hev => by cases hev) (.lock rfl rfl rfl)
  exact ⟨_, hlocked, ⟨_, rfl, .inl rfl⟩, (recomputations_exclude hlocked).1⟩

/-- It handles the update twice: both threads get between lock and unlock, and the second one
clears the routes there. -/
theorem two_recomputations_collide :
    ∃ s s', RecomputeRun 0x0101000a (fun _ _ => True) s ∧ InSection s 0 ∧ InSection s 1 ∧
      RecomputeStep 0x0101000a s (.clear 1) s' ∧ s'.routingTable ≠ s.routingTable := by
  have hrun : RecomputeRun 0x0101000a (fun _ _ => True) beforeUpdates := .init [] computedTable
  have hstarted := hrun.step (a := .event (.lsu emptyLsu)) trivial (.spawn (fun _ => []) rfl)
  have hboth := hstarted.step (a := .event (.lsu emptyLsu)) trivial (.spawn (fun _ => []) rfl)
  have hfirst := hboth.step (a := .lock 0) trivial (.lock rfl rfl rfl)
  have hsecond := hfirst.step (a := .lock 1) trivial (.lock rfl rfl rfl)
  exact ⟨_, _, hsecond, ⟨_, rfl, .inl rfl⟩, ⟨_, rfl, .inl rfl⟩, .clear rfl rfl, by decide⟩

end Redes
