import Mathlib.Data.Nat.Init
import Mathlib.Tactic.Common

/-!
# Computations with fuel

A computation that may not end is given an amount of fuel and fails with a fixed error
when it runs out.  What matters is whether some amount is enough; an amount that is
enough stays enough, and this passes through sequencing and through the iteration of a
step over a list.

## Main definitions

* `Stable e₀ f` — once `f` has enough fuel, more does not change its result.
* `Ends e₀ f` — some amount of fuel is enough for `f`.
* `Lockstep E R x y` — `x` and `y` fail with errors related by `E` or succeed with results
  related by `R`.

## Main results

* `Stable.bind`, `Stable.foldlM` — sequencing and iterating stable computations.
* `Ends.foldlM` — an iteration ends if its steps do, under an invariant.
* `Stable.exists_foldlM_ok` — it succeeds if its steps do.
* `Lockstep.bind` — two computations that fail and succeed together.
-/

namespace Fuel

universe u

variable {ε ι : Type*} {α β σ : Type u}

/-- Once `f` does not run out of fuel, more fuel does not change its result. -/
def Stable (e₀ : ε) (f : ℕ → Except ε β) : Prop :=
  ∀ n m, n ≤ m → f n ≠ .error e₀ → f m = f n

/-- Some amount of fuel is enough. -/
def Ends (e₀ : ε) (f : ℕ → Except ε β) : Prop := ∃ n, f n ≠ .error e₀

variable {e₀ : ε}

theorem stable_const (r : Except ε β) : Stable e₀ fun _ => r := fun _ _ _ _ => rfl

theorem ends_const {r : Except ε β} (h : r ≠ .error e₀) : Ends e₀ fun _ => r := ⟨0, h⟩

theorem Ends.of_ok {f : ℕ → Except ε β} {n : ℕ} {b : β} (h : f n = .ok b) : Ends e₀ f :=
  ⟨n, by rw [h]; simp⟩

theorem Stable.ok_of_le {f : ℕ → Except ε β} (hf : Stable e₀ f) {n m : ℕ} (hnm : n ≤ m) {b : β}
    (h : f n = .ok b) : f m = .ok b := by
  rw [hf n m hnm (by rw [h]; simp), h]

/-- Two amounts of fuel that are both enough give the same result. -/
theorem Stable.eq_of_ne {f : ℕ → Except ε β} (hf : Stable e₀ f) {n m : ℕ}
    (hn : f n ≠ .error e₀) (hm : f m ≠ .error e₀) : f n = f m := by
  rw [← hf n (max n m) (Nat.le_max_left n m) hn, hf m (max n m) (Nat.le_max_right n m) hm]

/-- A sequence that succeeds has a first part that does, and a second part that goes on from
its result. -/
theorem exists_of_bind_eq_ok {x : Except ε α} {f : α → Except ε β} {b : β}
    (h : x >>= f = .ok b) : ∃ a, x = .ok a ∧ f a = .ok b := by
  cases x with
  | error e => cases h
  | ok a => exact ⟨a, rfl, h⟩

theorem Stable.bind {f : ℕ → Except ε α} {g : ℕ → α → Except ε β} (hf : Stable e₀ f)
    (hg : ∀ a, Stable e₀ fun n => g n a) : Stable e₀ fun n => f n >>= g n := by
  intro n m hnm h
  cases hn : f n with
  | error e =>
    have hne : f n ≠ .error e₀ := fun he => h (by simp only [he]; rfl)
    simp only [hf n m hnm hne, hn]
    rfl
  | ok a =>
    have hgn : g n a ≠ .error e₀ := by
      intro he
      exact h (by simp only [hn]; exact he)
    simp only [hf.ok_of_le hnm hn, hn]
    exact hg a n m hnm hgn

/-- Two iterations agree if their steps do, as long as the first has enough fuel. -/
theorem foldlM_eq_of_ne {f g : σ → ι → Except ε σ}
    (hfg : ∀ s a, f s a ≠ .error e₀ → g s a = f s a) (l : List ι) {s : σ}
    (h : l.foldlM f s ≠ .error e₀) : l.foldlM g s = l.foldlM f s := by
  induction l generalizing s with
  | nil => rfl
  | cons a l ih =>
    rw [List.foldlM_cons] at h
    rw [List.foldlM_cons, List.foldlM_cons]
    cases hr : f s a with
    | error e =>
      have hne : f s a ≠ .error e₀ := fun he => h (by rw [he]; rfl)
      rw [hfg s a hne, hr]
      rfl
    | ok s' =>
      have hne : f s a ≠ .error e₀ := by rw [hr]; simp
      rw [hr] at h
      rw [hfg s a hne, hr]
      exact ih h

theorem Stable.foldlM {f : ℕ → σ → ι → Except ε σ} (hf : ∀ s a, Stable e₀ fun n => f n s a)
    (l : List ι) (s : σ) : Stable e₀ fun n => l.foldlM (f n) s := by
  intro n m hnm h
  exact foldlM_eq_of_ne (fun s a => hf s a n m hnm) l h

/-- **An iteration ends if its steps do**, from every state an invariant allows. -/
theorem Ends.foldlM {f : ℕ → σ → ι → Except ε σ} (hf : ∀ s a, Stable e₀ fun n => f n s a)
    {I : σ → Prop} {l : List ι}
    (hstep : ∀ s, ∀ a ∈ l, I s →
      Ends e₀ (fun n => f n s a) ∧ ∀ n s', f n s a = .ok s' → I s')
    {s : σ} (hs : I s) : Ends e₀ fun n => l.foldlM (f n) s := by
  induction l generalizing s with
  | nil => exact ends_const (by simp)
  | cons a l ih =>
    obtain ⟨⟨n, hn⟩, hinv⟩ := hstep s a List.mem_cons_self hs
    cases hr : f n s a with
    | error e =>
      refine ⟨n, ?_⟩
      simp only [List.foldlM_cons, hr]
      exact fun he => hn (hr.trans he)
    | ok s' =>
      obtain ⟨k, hk⟩ := ih (fun s a ha => hstep s a (List.mem_cons_of_mem _ ha)) (hinv n s' hr)
      have hfirst : f (max n k) s a = .ok s' := (hf s a).ok_of_le (Nat.le_max_left n k) hr
      refine ⟨max n k, ?_⟩
      simp only [List.foldlM_cons, hfirst]
      rw [← Stable.foldlM hf l s' k (max n k) (Nat.le_max_right n k) hk] at hk
      exact hk

/-- **An iteration succeeds with enough fuel if its steps do**, from every state an
invariant allows. -/
theorem Stable.exists_foldlM_ok {f : ℕ → σ → ι → Except ε σ}
    (hf : ∀ s a, Stable e₀ fun n => f n s a) {I : σ → Prop} {l : List ι}
    (hstep : ∀ s, ∀ a ∈ l, I s → ∃ n s', f n s a = .ok s' ∧ I s') {s : σ} (hs : I s) :
    ∃ n s', l.foldlM (f n) s = .ok s' ∧ I s' := by
  induction l generalizing s with
  | nil => exact ⟨0, s, rfl, hs⟩
  | cons a l ih =>
    obtain ⟨n, s₁, h₁, hs₁⟩ := hstep s a List.mem_cons_self hs
    obtain ⟨k, s₂, h₂, hs₂⟩ := ih (fun s a ha => hstep s a (List.mem_cons_of_mem _ ha)) hs₁
    have hfirst : f (max n k) s a = .ok s₁ := (hf s a).ok_of_le (Nat.le_max_left n k) h₁
    have hrest : l.foldlM (f (max n k)) s₁ = .ok s₂ :=
      (Stable.foldlM hf l s₁).ok_of_le (Nat.le_max_right n k) h₂
    refine ⟨max n k, s₂, ?_, hs₂⟩
    rw [List.foldlM_cons, hfirst]
    exact hrest

/-- The steps of an iteration that succeeds. -/
theorem foldlM_cons_ok {f : σ → ι → Except ε σ} {a : ι} {l : List ι} {s s' : σ}
    (h : (a :: l).foldlM f s = .ok s') : ∃ s₁, f s a = .ok s₁ ∧ l.foldlM f s₁ = .ok s' := by
  rw [List.foldlM_cons] at h
  exact exists_of_bind_eq_ok h

/-- **What each step preserves holds after an iteration that succeeds.** -/
theorem foldlM_invariant {f : σ → ι → Except ε σ} {I : σ → Prop} {l : List ι}
    (hstep : ∀ s s', ∀ a ∈ l, I s → f s a = .ok s' → I s') {s s' : σ} (hs : I s)
    (h : l.foldlM f s = .ok s') : I s' := by
  induction l generalizing s with
  | nil => cases h; exact hs
  | cons a l ih =>
    obtain ⟨s₁, h₁, h₂⟩ := foldlM_cons_ok h
    exact ih (fun s s' a ha => hstep s s' a (List.mem_cons_of_mem _ ha))
      (hstep s s₁ a List.mem_cons_self hs h₁) h₂

/-- **An iteration fails only the way one of its steps does.** -/
theorem foldlM_error {f : σ → ι → Except ε σ} {I : σ → Prop} {P : ε → Prop} {l : List ι}
    (hstep : ∀ s, ∀ a ∈ l, I s →
      (∀ e, f s a = .error e → P e) ∧ ∀ s', f s a = .ok s' → I s')
    {s : σ} {e : ε} (hs : I s) (h : l.foldlM f s = .error e) : P e := by
  induction l generalizing s with
  | nil => cases h
  | cons a l ih =>
    obtain ⟨herr, hok⟩ := hstep s a List.mem_cons_self hs
    rw [List.foldlM_cons] at h
    cases hr : f s a with
    | error e' =>
      rw [hr] at h
      cases h
      exact herr e hr
    | ok s' =>
      rw [hr] at h
      exact ih (fun s a ha => hstep s a (List.mem_cons_of_mem _ ha)) (hok s' hr) h

/-! ### Two computations in lockstep -/

section Lockstep

variable {ε' : Type*} {α' β' : Type u}

/-- Both fail, or both succeed. -/
inductive Lockstep (E : ε → ε' → Prop) (R : α → α' → Prop) : Except ε α → Except ε' α' → Prop
  /-- Both fail, with related errors. -/
  | error {e e'} : E e e' → Lockstep E R (.error e) (.error e')
  /-- Both succeed, with related results. -/
  | ok {a a'} : R a a' → Lockstep E R (.ok a) (.ok a')

variable {E : ε → ε' → Prop} {R : α → α' → Prop} {Q : β → β' → Prop}

/-- **Sequencing keeps computations in lockstep.** -/
theorem Lockstep.bind {x : Except ε α} {y : Except ε' α'} {f : α → Except ε β}
    {g : α' → Except ε' β'} (h : Lockstep E R x y)
    (hfg : ∀ a a', y = .ok a' → R a a' → Lockstep E Q (f a) (g a')) :
    Lockstep E Q (x >>= f) (y >>= g) := by
  cases h with
  | error he => exact .error he
  | ok hr => exact hfg _ _ rfl hr

theorem Lockstep.exists_right {x : Except ε α} {y : Except ε' α'} (h : Lockstep E R x y) {a : α}
    (hx : x = .ok a) : ∃ a', y = .ok a' ∧ R a a' := by
  cases h with
  | error he => cases hx
  | ok hr =>
    cases hx
    exact ⟨_, rfl, hr⟩

theorem Lockstep.exists_left {x : Except ε α} {y : Except ε' α'} (h : Lockstep E R x y) {a' : α'}
    (hy : y = .ok a') : ∃ a, x = .ok a ∧ R a a' := by
  cases h with
  | error he => cases hy
  | ok hr =>
    cases hy
    exact ⟨_, rfl, hr⟩

end Lockstep

end Fuel
