import Mathlib.Algebra.BigOperators.Group.Finset.Basic
import Mathlib.Data.Set.Insert
import Mathlib.Logic.Function.Basic
import Redes.Lib.Logged

/-!
# Machines that send each other things

Machines with a state each take turns.  A machine does what it is given to do: by itself and by
what the world outside sends it, or by what another machine has sent.  What has been sent may
be lost, delayed, overtaken, and delivered more than once.  A machine that fails is down from
then on; what it has sent until then stays sent.

Invariants of such runs are often about where something comes from, so that they speak of the
turns so far.  As these only become more, it is enough to look at one machine's turn.

## Main definitions

* `Network` — what the machines do, and how they are connected.
* `Config`, `Network.after` — the states of all machines, and a turn.
* `Turn`, `Network.Run` — runs, with the turns that were taken.
* `Play`, `Network.Reaches` — runs in which no machine fails.
* `Network.Law` — what is known of states and of what is sent.

## Main results

* `Run.law` — a law that each turn keeps holds in every run.
* `Run.forall_turns` — what holds of each turn when it is taken holds of all turns.
* `Run.since` — what each turn keeps is kept since every earlier turn.
-/

/-- Machines, what they do, and how they are connected. -/
structure Network (ν σ α ω ε : Type*) where
  /-- What a machine does when it is given something. -/
  step : σ → α → Logged ω ε σ
  /-- What a machine is given by itself, or by the world outside. -/
  own : ν → σ → α → Prop
  /-- What a machine has sent, as another one is given it. -/
  arrives : ν → ω → ν → α → Prop

namespace Network

variable {ν σ α ω ε : Type*}

/-- The states of the machines, which of them are down, and what they have sent. -/
structure Config (ν σ ω : Type*) where
  /-- The states. -/
  states : ν → σ
  /-- The machines that have failed. -/
  down : Set ν
  /-- What has been sent, and by which machine. -/
  sent : Set (ν × ω)

/-- The machines have not done anything yet. -/
def Config.start (initial : ν → σ) : Config ν σ ω := ⟨initial, ∅, ∅⟩

/-- A turn that a machine has taken. -/
structure Turn (ν σ α : Type*) where
  /-- The machine. -/
  machine : ν
  /-- The state it was in. -/
  state : σ
  /-- What it was given. -/
  input : α

variable (net : Network ν σ α ω ε)

/-- What a machine can be given. -/
def Given (c : Config ν σ ω) (n : ν) (a : α) : Prop :=
  net.own n (c.states n) a ∨ ∃ m out, (m, out) ∈ c.sent ∧ net.arrives m out n a

variable [DecidableEq ν]

/-- What a turn makes of the machines. -/
def after (c : Config ν σ ω) (n : ν) (a : α) : Config ν σ ω where
  states :=
    match (net.step (c.states n) a).ending with
    | .ok s => Function.update c.states n s
    | .error _ => c.states
  down :=
    match (net.step (c.states n) a).ending with
    | .ok _ => c.down
    | .error _ => insert n c.down
  sent := {p | p ∈ c.sent ∨ p.1 = n ∧ p.2 ∈ (net.step (c.states n) a).log}

/-- The runs from some configuration, with their turns, the last one first. -/
inductive Run (c₀ : Config ν σ ω) : List (Turn ν σ α) → Config ν σ ω → Prop
  /-- Nothing has happened yet. -/
  | refl : Run c₀ [] c₀
  /-- One more turn. -/
  | tail {turns : List (Turn ν σ α)} {c : Config ν σ ω} {n : ν} {a : α} : Run c₀ turns c →
      n ∉ c.down → net.Given c n a → Run c₀ (⟨n, c.states n, a⟩ :: turns) (net.after c n a)

/-- One run after another. -/
theorem Run.trans {net : Network ν σ α ω ε} {c₀ c₁ c₂ : Config ν σ ω}
    {turns₁ turns₂ : List (Turn ν σ α)} (h₁ : net.Run c₀ turns₁ c₁) (h₂ : net.Run c₁ turns₂ c₂) :
    net.Run c₀ (turns₂ ++ turns₁) c₂ := by
  induction h₂ with
  | refl => exact h₁
  | tail _ hup hgiven ih => exact ih.tail hup hgiven

/-! ### A turn -/

section Turn

variable {net} {c : Config ν σ ω} {n : ν} {a : α}

theorem states_after_of_ok {s : σ} (h : (net.step (c.states n) a).ending = .ok s) :
    (net.after c n a).states = Function.update c.states n s := by
  unfold after
  rw [h]

theorem states_after_of_error {e : ε} (h : (net.step (c.states n) a).ending = .error e) :
    (net.after c n a).states = c.states := by
  unfold after
  rw [h]

/-- The other machines stay in their states. -/
theorem states_after_of_ne {m : ν} (h : m ≠ n) : (net.after c n a).states m = c.states m := by
  cases hend : (net.step (c.states n) a).ending with
  | ok s => rw [states_after_of_ok hend, Function.update_of_ne h]
  | error e => rw [states_after_of_error hend]

/-- **What holds of all states, and of what the turn returns, holds afterwards.** -/
theorem forall_states_after {P : ν → σ → Prop} (h : ∀ m, P m (c.states m))
    (hstep : ∀ s, (net.step (c.states n) a).ending = .ok s → P n s) (m : ν) :
    P m ((net.after c n a).states m) := by
  cases hend : (net.step (c.states n) a).ending with
  | error e =>
    rw [states_after_of_error hend]
    exact h m
  | ok s =>
    rw [states_after_of_ok hend]
    by_cases hm : m = n
    · subst hm
      rw [Function.update_self]
      exact hstep s hend
    · rw [Function.update_of_ne hm]
      exact h m

theorem mem_sent_after {p : ν × ω} : p ∈ (net.after c n a).sent ↔
    p ∈ c.sent ∨ p.1 = n ∧ p.2 ∈ (net.step (c.states n) a).log := Iff.rfl

/-- The machines that are up stay up if the turn returns. -/
theorem down_after_of_ok {s : σ} (h : (net.step (c.states n) a).ending = .ok s) :
    (net.after c n a).down = c.down := by
  unfold after
  rw [h]

theorem down_after_of_error {e : ε} (h : (net.step (c.states n) a).ending = .error e) :
    (net.after c n a).down = insert n c.down := by
  unfold after
  rw [h]

end Turn

/-! ### Runs in which no machine fails -/

/-- What a turn that returns makes of a state. -/
def next (s : σ) (a : α) : σ :=
  match (net.step s a).ending with
  | .ok t => t
  | .error _ => s

omit [DecidableEq ν] in
theorem ending_eq_next {s : σ} {a : α} (h : (net.step s a).ending.isOk = true) :
    (net.step s a).ending = .ok (net.next s a) := by
  unfold next
  cases hend : (net.step s a).ending with
  | error e =>
    rw [hend] at h
    cases h
  | ok t => rfl

/-- Turns that were taken, the last one first, the states they lead to, and things that were
sent. -/
structure Play (ν σ α ω : Type*) where
  /-- The turns. -/
  turns : List (Turn ν σ α)
  /-- The states. -/
  states : ν → σ
  /-- What was sent. -/
  sent : List (ν × ω)

/-- One more turn, which returns. -/
def Play.turn (p : Play ν σ α ω) (n : ν) (a : α) : Play ν σ α ω where
  turns := ⟨n, p.states n, a⟩ :: p.turns
  states := Function.update p.states n (net.next (p.states n) a)
  sent := p.sent ++ (net.step (p.states n) a).log.map (Prod.mk n)

/-- There is a run with these turns, in which no machine fails. -/
def Reaches (c₀ : Config ν σ ω) (p : Play ν σ α ω) : Prop :=
  ∃ c, net.Run c₀ p.turns c ∧ c.states = p.states ∧ c.down = ∅ ∧ ∀ out, out ∈ c.sent ↔ out ∈ p.sent

theorem reaches_start (initial : ν → σ) : net.Reaches (.start initial) ⟨[], initial, []⟩ :=
  ⟨_, .refl, rfl, rfl, fun _ => iff_of_false id List.not_mem_nil⟩

/-- **One more turn**, if it returns. -/
theorem Reaches.turn {net : Network ν σ α ω ε} {c₀ : Config ν σ ω} {p : Play ν σ α ω}
    (h : net.Reaches c₀ p) (n : ν) (a : α)
    (hgiven : net.own n (p.states n) a ∨ ∃ out ∈ p.sent, net.arrives out.1 out.2 n a)
    (hok : (net.step (p.states n) a).ending.isOk = true) : net.Reaches c₀ (p.turn net n a) := by
  obtain ⟨c, hrun, hstates, hdown, hsent⟩ := h
  obtain ⟨turns, states, sent⟩ := p
  subst hstates
  have hend := ending_eq_next net hok
  refine ⟨net.after c n a, hrun.tail ?_ ?_, states_after_of_ok hend, ?_, ?_⟩
  · rw [hdown]
    exact Set.notMem_empty n
  · refine hgiven.imp_right ?_
    rintro ⟨out, hout, harr⟩
    exact ⟨out.1, out.2, (hsent out).mpr hout, harr⟩
  · rw [down_after_of_ok hend, hdown]
  · intro out
    rw [mem_sent_after, hsent, Play.turn, List.mem_append, List.mem_map]
    refine or_congr_right ⟨fun ⟨hn, hout⟩ => ⟨out.2, hout, Prod.ext hn.symm rfl⟩, ?_⟩
    rintro ⟨w, hw, rfl⟩
    exact ⟨rfl, hw⟩

/-! ### Laws -/

/-- What is known of the states of machines and of what they send, in the light of the turns
so far.  More turns do not make it false. -/
structure Law (ν σ α ω : Type*) where
  /-- What is known of the state of a machine. -/
  state : List (Turn ν σ α) → ν → σ → Prop
  /-- What is known of what a machine has sent. -/
  sends : List (Turn ν σ α) → ν → ω → Prop
  /-- More turns do not make it false. -/
  state_cons : ∀ {turns n s} (turn), state turns n s → state (turn :: turns) n s
  /-- More turns do not make it false. -/
  sends_cons : ∀ {turns n out} (turn), sends turns n out → sends (turn :: turns) n out

/-- A law holds in a configuration. -/
structure Law.Holds (law : Law ν σ α ω) (turns : List (Turn ν σ α)) (c : Config ν σ ω) : Prop where
  /-- It holds of the states. -/
  states : ∀ n, law.state turns n (c.states n)
  /-- It holds of what was sent. -/
  sent : ∀ p ∈ c.sent, law.sends turns p.1 p.2

variable {net} {c₀ c : Config ν σ ω} {turns : List (Turn ν σ α)}

/-- **A law that each turn keeps holds in every run.**  A turn may use that the law holds in
the configuration it finds, in which what the machine is given has been sent by a machine
under the law, or is its own. -/
theorem Run.law {law : Law ν σ α ω} (hrun : net.Run c₀ turns c) (hinit : law.Holds [] c₀)
    (hturn : ∀ {turns c} {n : ν} {a : α}, net.Run c₀ turns c → law.Holds turns c →
      net.Given c n a →
        Logged.Safe (law.sends (⟨n, c.states n, a⟩ :: turns) n)
          (law.state (⟨n, c.states n, a⟩ :: turns) n) (net.step (c.states n) a)) :
    law.Holds turns c := by
  induction hrun with
  | refl => exact hinit
  | @tail turns c n a hrun hup hgiven ih =>
    obtain ⟨hlog, hending⟩ := hturn hrun ih hgiven
    constructor
    · exact forall_states_after (fun m => law.state_cons _ (ih.states m)) hending
    · rintro p (hp | ⟨hp, hout⟩)
      · exact law.sends_cons _ (ih.sent p hp)
      · rw [hp]
        exact hlog p.2 hout

/-- **What holds of each turn when it is taken holds of all turns**, if more turns do not make it
false. -/
theorem Run.forall_turns {P : List (Turn ν σ α) → Turn ν σ α → Prop} (hrun : net.Run c₀ turns c)
    (hcons : ∀ {turns turn} (next), P turns turn → P (next :: turns) turn)
    (hturn : ∀ {turns c} {n : ν} {a : α}, net.Run c₀ turns c → net.Given c n a →
      P (⟨n, c.states n, a⟩ :: turns) ⟨n, c.states n, a⟩) :
    ∀ turn ∈ turns, P turns turn := by
  induction hrun with
  | refl => exact fun turn hturn => absurd hturn List.not_mem_nil
  | tail hrun hup hgiven ih =>
    intro turn hmem
    rcases List.mem_cons.mp hmem with rfl | hmem
    · exact hturn hrun hgiven
    · exact hcons _ (ih turn hmem)

/-- **What each turn keeps is kept since every earlier turn.** -/
theorem Run.since {R : σ → σ → Prop} (hrefl : ∀ s, R s s)
    (htrans : ∀ {s t u}, R s t → R t u → R s u)
    (hstep : ∀ {s a t}, (net.step s a).ending = .ok t → R s t) (hrun : net.Run c₀ turns c) :
    (∀ n, R (c₀.states n) (c.states n)) ∧
      ∀ turn ∈ turns, R turn.state (c.states turn.machine) := by
  induction hrun with
  | refl => exact ⟨fun n => hrefl _, fun turn hturn => absurd hturn List.not_mem_nil⟩
  | @tail turns c n a hrun hup hgiven ih =>
    have hnext : ∀ m, R (c.states m) ((net.after c n a).states m) := by
      intro m
      by_cases hm : m = n
      · subst hm
        exact forall_states_after (P := fun k s => R (c.states k) s) (fun k => hrefl _)
          (fun s hs => hstep hs) m
      · rw [states_after_of_ne hm]
        exact hrefl _
    refine ⟨fun m => htrans (ih.1 m) (hnext m), ?_⟩
    intro turn hturn
    rcases List.mem_cons.mp hturn with rfl | hturn
    · exact hnext n
    · exact htrans (ih.2 turn hturn) (hnext turn.machine)

end Network
