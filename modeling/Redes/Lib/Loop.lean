import Mathlib.Data.Nat.Init
import Mathlib.Logic.Relation
import Mathlib.Tactic.Common

/-!
# Loops that leave by themselves

A `while (1)` loop is a body that, in each turn, either goes round again in a new
state or leaves with a result.  `run` gives it a bounded number of turns, so a loop
that never leaves is one whose `run` is `none` at every bound.

## Main definitions

* `Turn` — the outcome of one turn.
* `run body n s` — at most `n` turns.
* `Leaves body s r` — the loop leaves from `s` with the result `r`.
* `Stops body s` — the loop leaves from `s`.

## Main results

* `Leaves.unique` — a loop leaves with one result only.
* `stops_of_variant` — a loop with a decreasing measure stops.
* `Leaves.invariant` — what every turn preserves holds when the loop leaves.
* `not_stops_of_invariant` — a loop whose invariant forbids leaving never stops.
* `run_rel` — two loops that go round in lockstep leave together.
-/

/-- One turn of a loop: go round again in a new state, or leave with a result. -/
inductive Turn (σ ρ : Type*)
  /-- Go round again. -/
  | again (s : σ)
  /-- Leave the loop. -/
  | leave (r : ρ)
  deriving DecidableEq, Repr

namespace Loop

variable {σ τ ρ κ : Type*} {body : σ → Turn σ ρ}

/-- At most `n` turns of the loop; `none` when it has not left by then. -/
def run (body : σ → Turn σ ρ) : ℕ → σ → Option ρ
  | 0, _ => none
  | n + 1, s =>
      match body s with
      | .again s' => run body n s'
      | .leave r => some r

/-- The loop leaves from `s` with the result `r`. -/
def Leaves (body : σ → Turn σ ρ) (s : σ) (r : ρ) : Prop := ∃ n, run body n s = some r

/-- The loop leaves from `s`. -/
def Stops (body : σ → Turn σ ρ) (s : σ) : Prop := ∃ r, Leaves body s r

@[simp] theorem run_zero (s : σ) : run body 0 s = none := rfl

theorem run_succ_of_again {s s' : σ} (h : body s = .again s') (n : ℕ) :
    run body (n + 1) s = run body n s' := by
  rw [run, h]

theorem run_succ_of_leave {s : σ} {r : ρ} (h : body s = .leave r) (n : ℕ) :
    run body (n + 1) s = some r := by
  rw [run, h]

theorem leaves_of_leave {s : σ} {r : ρ} (h : body s = .leave r) : Leaves body s r :=
  ⟨1, run_succ_of_leave h 0⟩

theorem leaves_of_again {s s' : σ} {r : ρ} (h : body s = .again s') (hl : Leaves body s' r) :
    Leaves body s r := by
  obtain ⟨n, hn⟩ := hl
  exact ⟨n + 1, by rw [run_succ_of_again h, hn]⟩

/-- More turns do not change a result. -/
theorem run_mono {n m : ℕ} (hnm : n ≤ m) {s : σ} {r : ρ} (h : run body n s = some r) :
    run body m s = some r := by
  induction n generalizing m s with
  | zero => simp at h
  | succ n ih =>
    obtain ⟨m, rfl⟩ : ∃ k, m = k + 1 := ⟨m - 1, by omega⟩
    cases hb : body s with
    | again s' =>
      rw [run_succ_of_again hb] at h ⊢
      exact ih (by omega) h
    | leave r' =>
      rw [run_succ_of_leave hb] at h ⊢
      exact h

theorem Leaves.unique {s : σ} {r r' : ρ} (h : Leaves body s r) (h' : Leaves body s r') :
    r = r' := by
  obtain ⟨n, hn⟩ := h
  obtain ⟨m, hm⟩ := h'
  have h₁ := run_mono (Nat.le_max_left n m) hn
  have h₂ := run_mono (Nat.le_max_right n m) hm
  exact Option.some.inj (h₁.symm.trans h₂)

theorem run_eq_none_of_not_stops {s : σ} (h : ¬ Stops body s) (n : ℕ) : run body n s = none := by
  cases hr : run body n s with
  | none => rfl
  | some r => exact absurd ⟨r, n, hr⟩ h

/-- **What every turn preserves holds when the loop leaves.** -/
theorem Leaves.invariant {I : σ → Prop} {P : ρ → Prop}
    (hagain : ∀ s s', I s → body s = .again s' → I s')
    (hleave : ∀ s r, I s → body s = .leave r → P r)
    {s : σ} {r : ρ} (hs : I s) (h : Leaves body s r) : P r := by
  obtain ⟨n, hn⟩ := h
  induction n generalizing s with
  | zero => simp at hn
  | succ n ih =>
    cases hb : body s with
    | again s' =>
      rw [run_succ_of_again hb] at hn
      exact ih (hagain s s' hs hb) hn
    | leave r' =>
      rw [run_succ_of_leave hb] at hn
      exact Option.some.inj hn ▸ hleave s r' hs hb

/-- **A loop whose measure falls at every turn stops.** -/
theorem stops_of_variant {I : σ → Prop} (μ : σ → ℕ)
    (hstep : ∀ s s', I s → body s = .again s' → I s' ∧ μ s' < μ s)
    {s : σ} (hs : I s) : Stops body s := by
  induction hn : μ s using Nat.strong_induction_on generalizing s with
  | _ n ih =>
    cases hb : body s with
    | leave r => exact ⟨r, leaves_of_leave hb⟩
    | again s' =>
      obtain ⟨hs', hlt⟩ := hstep s s' hs hb
      obtain ⟨r, hr⟩ := ih (μ s') (hn ▸ hlt) hs' rfl
      exact ⟨r, leaves_of_again hb hr⟩

/-- **A loop that an invariant keeps going round never stops.** -/
theorem not_stops_of_invariant {I : σ → Prop}
    (hstep : ∀ s, I s → ∃ s', body s = .again s' ∧ I s')
    {s : σ} (hs : I s) : ¬ Stops body s := by
  rintro ⟨r, hr⟩
  have hfalse : ∀ s r, I s → body s = .leave r → False := by
    intro s r hs hb
    obtain ⟨s', hb', -⟩ := hstep s hs
    rw [hb] at hb'
    cases hb'
  refine hr.invariant (P := fun _ => False) ?_ hfalse hs
  intro s s' hs hb
  obtain ⟨s'', hb'', hs''⟩ := hstep s hs
  rw [hb] at hb''
  cases hb''
  exact hs''

/-- The turns of two loops match: both go round again, to related states, or both
leave, with related results. -/
inductive TurnRel (R : σ → τ → Prop) (Q : ρ → κ → Prop) : Turn σ ρ → Turn τ κ → Prop
  | again {s : σ} {t : τ} (h : R s t) : TurnRel R Q (.again s) (.again t)
  | leave {r : ρ} {k : κ} (h : Q r k) : TurnRel R Q (.leave r) (.leave k)

/-- **Two loops that go round in lockstep leave together.** -/
theorem run_rel {body' : τ → Turn τ κ} {R : σ → τ → Prop} {Q : ρ → κ → Prop}
    (hstep : ∀ s t, R s t → TurnRel R Q (body s) (body' t))
    {s : σ} {t : τ} (hst : R s t) (n : ℕ) :
    Option.Rel Q (run body n s) (run body' n t) := by
  induction n generalizing s t with
  | zero => exact .none
  | succ n ih =>
    have h := hstep s t hst
    cases hb : body s with
    | again s' =>
      rw [hb] at h
      cases hb' : body' t with
      | again t' =>
        rw [hb'] at h
        cases h with
        | again h =>
          rw [run_succ_of_again hb, run_succ_of_again hb']
          exact ih h
      | leave k => rw [hb'] at h; cases h
    | leave r =>
      rw [hb] at h
      cases hb' : body' t with
      | again t' => rw [hb'] at h; cases h
      | leave k =>
        rw [hb'] at h
        cases h with
        | leave h =>
          rw [run_succ_of_leave hb, run_succ_of_leave hb']
          exact .some h

end Loop
