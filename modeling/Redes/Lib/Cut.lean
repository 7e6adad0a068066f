import Mathlib.Data.List.Basic
import Mathlib.Tactic.Common

/-!
# Cutting a stream where a machine stops

A machine reads a stream letter by letter and stops at the first letter that leaves it in a
stopping state.  `cut` gives what it has read by then, and the rest.  A stream may come in
chunks that are not those in which it was sent.

## Main definitions

* `cut` — the stream up to the letter where the machine stops, and the rest.
* `Aligned` — the messages of a stream end where its chunks end.

## Main results

* `cut_eq_some_iff`, `cut_eq_none_iff` — the first part is the shortest that stops the machine.
* `cut_append_of_none`, `cut_append_of_some` — streams that are put together.
* `aligned_cons_iff`, `not_aligned_of_kept` — what the chunk in which the first message ends says
  about the others.
-/

namespace Cut

variable {σ α : Type*} (next : σ → α → σ) (stop : σ → Prop) [DecidablePred stop]

/-- What the machine reads until it stops, with at least one letter, and the rest; `none` if it
does not stop. -/
def cut (s : σ) : List α → Option (List α × List α)
  | [] => none
  | a :: l =>
      if stop (next s a) then some ([a], l)
      else (cut (next s a) l).map fun (p, r) => (a :: p, r)

variable {next stop} {s : σ} {l p r : List α}

@[simp] theorem cut_nil : cut next stop s [] = none := rfl

/-- **The first part is the shortest that stops the machine.** -/
theorem cut_eq_some_iff : cut next stop s l = some (p, r) ↔ l = p ++ r ∧ p ≠ [] ∧
    stop (p.foldl next s) ∧ ∀ q, q <+: p → q ≠ [] → q ≠ p → ¬ stop (q.foldl next s) := by
  induction l generalizing s p r with
  | nil =>
    simp only [cut_nil, reduceCtorEq, false_iff, not_and]
    intro hnil hp
    exact absurd (List.append_eq_nil_iff.mp hnil.symm).1 hp
  | cons a l ih =>
    unfold cut
    split
    · next hstop =>
      -- `[a]` stops the machine, and nothing is shorter
      simp only [Option.some.injEq, Prod.mk.injEq]
      constructor
      · rintro ⟨rfl, rfl⟩
        refine ⟨rfl, by simp, hstop, ?_⟩
        intro q hq hne hneq
        rcases List.prefix_cons_iff.mp hq with rfl | ⟨q', rfl, hq'⟩
        · exact absurd rfl hne
        · exact absurd (by rw [List.prefix_nil.mp hq']) hneq
      · rintro ⟨hl, hp, -, hshort⟩
        cases p with
        | nil => exact absurd rfl hp
        | cons b p =>
          injection hl with hab hl
          subst hab
          by_cases hone : p = []
          · subst hone
            exact ⟨rfl, hl⟩
          · exact absurd hstop (hshort [a] ⟨p, rfl⟩ (by simp) (by simpa using Ne.symm hone))
    · next hstop =>
      simp only [Option.map_eq_some_iff, Prod.mk.injEq, Prod.exists]
      constructor
      · rintro ⟨p', r', hcut, rfl, rfl⟩
        obtain ⟨hl, hp, hp', hshort⟩ := ih.mp hcut
        refine ⟨by rw [hl]; rfl, by simp, hp', ?_⟩
        intro q hq hne hneq
        rcases List.prefix_cons_iff.mp hq with rfl | ⟨q', rfl, hq'⟩
        · exact absurd rfl hne
        · by_cases hnil : q' = []
          · subst hnil
            exact hstop
          · exact hshort q' hq' hnil (fun heq => hneq (by rw [heq]))
      · rintro ⟨hl, hp, hp', hshort⟩
        cases p with
        | nil => exact absurd rfl hp
        | cons b p =>
          injection hl with hab hl
          subst hab
          have hne : p ≠ [] := by
            rintro rfl
            exact hstop hp'
          refine ⟨p, r, ih.mpr ⟨hl, hne, hp', ?_⟩, rfl, rfl⟩
          intro q hq hq' hneq
          exact hshort (a :: q) ((List.prefix_cons_inj a).mpr hq) (by simp)
            (fun heq => hneq (List.cons_inj_right a |>.mp heq))

/-- The machine does not stop exactly if nothing stops it. -/
theorem cut_eq_none_iff : cut next stop s l = none ↔
    ∀ q, q <+: l → q ≠ [] → ¬ stop (q.foldl next s) := by
  induction l generalizing s with
  | nil =>
    simp only [cut_nil, true_iff]
    intro q hq hne
    exact absurd (List.prefix_nil.mp hq) hne
  | cons a l ih =>
    unfold cut
    split
    · next hstop =>
      simp only [reduceCtorEq, false_iff, not_forall]
      exact ⟨[a], ⟨l, rfl⟩, by simp, not_not.mpr hstop⟩
    · next hstop =>
      rw [Option.map_eq_none_iff, ih]
      constructor
      · intro h q hq hne
        rcases List.prefix_cons_iff.mp hq with rfl | ⟨q', rfl, hq'⟩
        · exact absurd rfl hne
        · by_cases hnil : q' = []
          · subst hnil
            exact hstop
          · exact h q' hq' hnil
      · intro h q hq hne
        exact h (a :: q) ((List.prefix_cons_inj a).mpr hq) (by simp)

/-- A machine that does not stop goes on. -/
theorem cut_append_of_none (h : cut next stop s l = none) (l' : List α) :
    cut next stop s (l ++ l') =
      (cut next stop (l.foldl next s) l').map fun (p, r) => (l ++ p, r) := by
  induction l generalizing s with
  | nil => simp
  | cons a l ih =>
    unfold cut at h
    split at h
    · cases h
    · next hstop =>
      rw [List.cons_append, cut, if_neg hstop, ih (Option.map_eq_none_iff.mp h), Option.map_map]
      rfl

/-- A machine that stops leaves what follows alone. -/
theorem cut_append_of_some (h : cut next stop s l = some (p, r)) (l' : List α) :
    cut next stop s (l ++ l') = some (p, r ++ l') := by
  obtain ⟨rfl, hrest⟩ := cut_eq_some_iff.mp h
  exact cut_eq_some_iff.mpr ⟨List.append_assoc p r l', hrest⟩

/-! ### Chunks of a stream -/

/-- Every message ends where a chunk ends. -/
def Aligned (chunks messages : List (List α)) : Prop :=
  ∀ i ≤ messages.length, ∃ j, (chunks.take j).flatten = (messages.take i).flatten

variable {pre post : List (List α)} {c : List α}

/-- The chunks up to some point do not go beyond `pre`, or contain the chunk behind it. -/
theorem take_flatten_cases (pre post : List (List α)) (c : List α) (j : ℕ) :
    ((pre ++ c :: post).take j).flatten.length ≤ pre.flatten.length ∨
      ∃ k, ((pre ++ c :: post).take j).flatten = pre.flatten ++ c ++ (post.take k).flatten := by
  by_cases hj : j ≤ pre.length
  · left
    rw [List.take_append_of_le_length hj]
    conv_rhs => rw [← List.take_append_drop j pre]
    rw [List.flatten_append, List.length_append]
    exact Nat.le_add_right _ _
  · right
    refine ⟨j - (pre.length + 1), ?_⟩
    have hlen : (pre ++ [c]).length ≤ j := by
      rw [List.length_append, List.length_singleton]
      omega
    rw [List.append_cons, List.take_append, List.take_of_length_le hlen, List.flatten_append,
      List.flatten_append]
    simp

/-- **If the first message ends with a chunk, the rest has to be aligned.** -/
theorem aligned_cons_iff {messages : List (List α)} (hp : p = pre.flatten ++ c) (hc : c ≠ []) :
    Aligned (pre ++ c :: post) (p :: messages) ↔ Aligned post messages := by
  constructor
  · intro h i hi
    obtain ⟨j, hj⟩ := h (i + 1) (by simpa using hi)
    rw [List.take_succ_cons, List.flatten_cons] at hj
    rcases take_flatten_cases pre post c j with hle | ⟨k, hk⟩
    · have hpos := List.length_pos_iff.mpr hc
      rw [hj, hp, List.length_append, List.length_append] at hle
      omega
    · rw [hj, ← hp] at hk
      exact ⟨k, (List.append_cancel_left hk).symm⟩
  · intro h i hi
    cases i with
    | zero => exact ⟨0, rfl⟩
    | succ i =>
      obtain ⟨j, hj⟩ := h i (by simpa using hi)
      refine ⟨pre.length + 1 + j, ?_⟩
      rw [List.append_cons, List.take_append, List.take_of_length_le (by simp),
        List.flatten_append, List.take_succ_cons, List.flatten_cons, ← hj, hp]
      simp

/-- **If some of the chunk is left behind the first message, the messages are not aligned.** -/
theorem not_aligned_of_kept {messages : List (List α)} {kept : List α}
    (hp : p ++ kept = pre.flatten ++ c) (hkept : kept ≠ []) (hlt : kept.length < c.length) :
    ¬ Aligned (pre ++ c :: post) (p :: messages) := by
  intro h
  obtain ⟨j, hj⟩ := h 1 (by simp)
  rw [List.take_succ_cons, List.take_zero, List.flatten_singleton] at hj
  have hpos := List.length_pos_iff.mpr hkept
  have hlen := congrArg List.length hp
  rw [List.length_append, List.length_append] at hlen
  rcases take_flatten_cases pre post c j with hle | ⟨k, hk⟩
  · rw [hj] at hle
    omega
  · rw [hj] at hk
    have hklen := congrArg List.length hk
    rw [List.length_append, List.length_append] at hklen
    omega

end Cut
