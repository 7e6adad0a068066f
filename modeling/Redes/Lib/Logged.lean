import Mathlib.Tactic.Common

/-!
# Computations that emit

A computation that emits things on its way and then returns a value or fails.  What it
emitted stays emitted when it fails, so that a statement about everything that is emitted
covers computations that are cut short.

## Main definitions

* `Logged` — what is emitted, and the ending.
* `All P x` — `x` emits only what `P` allows.
* `Safe P I x` — `x` emits only what `P` allows, and returns only what `I` allows.
* `Tells view before x` — what `x` emits is what a view of its result has gained.

## Main results

* `ending_bind`, `ending_foldlM` — endings are those of the computation that emits nothing.
* `all_bind_iff` — what a sequence emits.
* `Safe.bind`, `Safe.foldlM` — the rules for sequences and loops.
* `Tells.bind`, `Tells.foldlM` — the same for views.
-/

/-- What a computation emits, in order, and how it ends. -/
structure Logged (ω ε α : Type*) where
  /-- What it emits. -/
  log : List ω
  /-- What it returns, or how it fails. -/
  ending : Except ε α

namespace Logged

variable {ω ε ι α β σ : Type*}

/-- Fail. -/
def halt (e : ε) : Logged ω ε α := ⟨[], .error e⟩

/-- Emit, and return. -/
def emit (log : List ω) (a : α) : Logged ω ε α := ⟨log, .ok a⟩

/-- End without emitting anything. -/
def silent (ending : Except ε α) : Logged ω ε α := ⟨[], ending⟩

/-- Apply a function to the result. -/
def map (f : α → β) (x : Logged ω ε α) : Logged ω ε β := ⟨x.log, x.ending.map f⟩

/-- One computation after the other, unless the first one fails. -/
def andThen (x : Logged ω ε α) (f : α → Logged ω ε β) : Logged ω ε β :=
  match x.ending with
  | .error e => ⟨x.log, .error e⟩
  | .ok a => ⟨x.log ++ (f a).log, (f a).ending⟩

instance : Monad (Logged ω ε) where
  pure := emit []
  bind := andThen

/-! ### Sequences -/

theorem emit_nil_andThen {α β : Type*} (a : α) (f : α → Logged ω ε β) :
    andThen (emit [] a) f = f a := rfl

theorem andThen_assoc {α β γ : Type*} (x : Logged ω ε α) (f : α → Logged ω ε β)
    (g : β → Logged ω ε γ) : andThen (andThen x f) g = andThen x fun a => andThen (f a) g := by
  unfold andThen
  cases x.ending with
  | error e => rfl
  | ok a =>
    cases hend : (f a).ending with
    | error e => simp only [hend]
    | ok b => simp only [hend, List.append_assoc]

instance : LawfulMonad (Logged ω ε) := LawfulMonad.mk' _
  (fun ⟨log, ending⟩ => by
    cases ending with
    | error e => rfl
    | ok a => exact congrArg (Logged.mk · (.ok a)) (List.append_nil log))
  (fun a f => emit_nil_andThen a f)
  (fun x f g => andThen_assoc x f g)

/-! ### Endings -/

@[simp] theorem ending_map (f : α → β) (x : Logged ω ε α) :
    (x.map f).ending = x.ending.map f := rfl

theorem ending_map_eq_ok {f : α → β} {x : Logged ω ε α} {b : β} (h : (x.map f).ending = .ok b) :
    ∃ a, x.ending = .ok a ∧ f a = b := by
  rw [ending_map] at h
  cases hend : x.ending with
  | error e =>
    rw [hend] at h
    cases h
  | ok a =>
    rw [hend] at h
    exact ⟨a, rfl, Except.ok.inj h⟩

@[simp] theorem ending_silent (ending : Except ε α) :
    (silent ending : Logged ω ε α).ending = ending := rfl

@[simp] theorem ending_pure {α : Type*} (a : α) : (pure a : Logged ω ε α).ending = .ok a := rfl

section Endings

universe u

variable {α β σ : Type u}

@[simp] theorem ending_bind (x : Logged ω ε α) (f : α → Logged ω ε β) :
    (x >>= f).ending = x.ending >>= fun a => (f a).ending := by
  show (andThen x f).ending = _
  unfold andThen
  cases x.ending <;> rfl

/-- What is emitted at once comes in front. -/
theorem emit_bind (log : List ω) (a : α) (f : α → Logged ω ε β) :
    emit log a >>= f = ⟨log ++ (f a).log, (f a).ending⟩ := rfl

/-- What is emitted at once comes in front of what the rest emits. -/
theorem map_emit_bind {γ : Type*} (log : List ω) (a : α) (f : α → Logged ω ε β) (g : β → γ) :
    (emit log a >>= f).map g = ⟨log ++ ((f a).map g).log, ((f a).map g).ending⟩ := rfl

/-- **The ending of a loop** is that of a loop over the endings of its turns. -/
theorem ending_foldlM (f : σ → ι → Logged ω ε σ) (l : List ι) (s : σ) :
    (l.foldlM f s).ending = l.foldlM (fun s a => (f s a).ending) s := by
  induction l generalizing s with
  | nil => rfl
  | cons a l ih =>
    rw [List.foldlM_cons, List.foldlM_cons, ending_bind]
    congr 1
    funext s'
    exact ih s'

end Endings

/-! ### What is emitted and returned -/

/-- Everything that is emitted satisfies `P`, and what is returned satisfies `I`. -/
def Safe (P : ω → Prop) (I : α → Prop) (x : Logged ω ε α) : Prop :=
  (∀ w ∈ x.log, P w) ∧ ∀ a, x.ending = .ok a → I a

/-- Everything that is emitted satisfies `P`. -/
def All (P : ω → Prop) (x : Logged ω ε α) : Prop := ∀ w ∈ x.log, P w

section All

universe u

variable {P : ω → Prop}

@[simp] theorem all_emit_iff {log : List ω} {a : α} :
    All P (emit log a : Logged ω ε α) ↔ ∀ w ∈ log, P w := Iff.rfl

@[simp] theorem all_pure {α : Type*} (a : α) : All P (pure a : Logged ω ε α) :=
  fun _ hw => absurd hw List.not_mem_nil

@[simp] theorem all_silent (ending : Except ε α) : All P (silent ending : Logged ω ε α) :=
  fun _ hw => absurd hw List.not_mem_nil

/-- **What is emitted in a sequence** is emitted by one part or the other. -/
theorem all_bind_iff {α β : Type u} {x : Logged ω ε α} {f : α → Logged ω ε β} {a : α}
    (h : x.ending = .ok a) : All P (x >>= f) ↔ All P x ∧ All P (f a) := by
  show All P (andThen x f) ↔ _
  unfold andThen All
  simp only [h, List.forall_mem_append]

/-- A sequence emits only what is allowed if its parts do, whatever the first one returns. -/
theorem All.bind {α β : Type u} {x : Logged ω ε α} {f : α → Logged ω ε β} (hx : All P x)
    (hf : ∀ a, All P (f a)) : All P (x >>= f) := by
  show All P (andThen x f)
  unfold andThen
  cases x.ending with
  | error e => exact hx
  | ok a => exact List.forall_mem_append.mpr ⟨hx, hf a⟩

end All

section Safe

variable {P : ω → Prop} {I : α → Prop} {J : β → Prop}

theorem Safe.emit {log : List ω} {a : α} (hlog : ∀ w ∈ log, P w) (ha : I a) :
    Safe P I (emit log a : Logged ω ε α) := by
  refine ⟨hlog, ?_⟩
  intro b hb
  cases hb
  exact ha

theorem Safe.pure {a : α} (ha : I a) : Safe P I (pure a : Logged ω ε α) :=
  Safe.emit (by simp) ha

theorem Safe.halt (e : ε) : Safe P I (halt e : Logged ω ε α) :=
  ⟨fun _ hw => absurd hw List.not_mem_nil, fun _ h => by cases h⟩

theorem Safe.map {f : α → β} {x : Logged ω ε α} (hx : Safe P I x) (hf : ∀ a, I a → J (f a)) :
    Safe P J (x.map f) := by
  refine ⟨hx.1, ?_⟩
  intro b hb
  obtain ⟨a, hend, rfl⟩ := ending_map_eq_ok hb
  exact hf a (hx.2 a hend)

theorem Safe.mono {P' : ω → Prop} {I' : α → Prop} {x : Logged ω ε α} (hx : Safe P I x)
    (hP : ∀ w, P w → P' w) (hI : ∀ a, I a → I' a) : Safe P' I' x :=
  ⟨fun w hw => hP w (hx.1 w hw), fun a ha => hI a (hx.2 a ha)⟩

end Safe

section Rules

universe u

variable {α β σ : Type u} {P : ω → Prop} {I : α → Prop} {J : β → Prop}

/-- **The rule for sequences.** -/
theorem Safe.bind {x : Logged ω ε α} {f : α → Logged ω ε β} (hx : Safe P I x)
    (hf : ∀ a, I a → Safe P J (f a)) : Safe P J (x >>= f) := by
  show Safe P J (andThen x f)
  unfold andThen
  cases hend : x.ending with
  | error e => exact ⟨hx.1, fun b hb => by cases hb⟩
  | ok a =>
    obtain ⟨hlog, hret⟩ := hf a (hx.2 a hend)
    refine ⟨?_, hret⟩
    intro w hw
    rcases List.mem_append.mp hw with hw | hw
    · exact hx.1 w hw
    · exact hlog w hw

/-- **The rule for loops**: what a turn keeps, the loop keeps. -/
theorem Safe.foldlM {f : σ → ι → Logged ω ε σ} {I : σ → Prop} {l : List ι} {s : σ}
    (hf : ∀ s, ∀ a ∈ l, I s → Safe P I (f s a)) (hs : I s) : Safe P I (l.foldlM f s) := by
  induction l generalizing s with
  | nil => exact .pure hs
  | cons a l ih =>
    rw [List.foldlM_cons]
    refine (hf s a List.mem_cons_self hs).bind fun s' hs' => ?_
    exact ih (fun t b hb => hf t b (List.mem_cons_of_mem a hb)) hs'

/-! ### Views -/

/-- A view of the result, which starts with what came last, has gained what is emitted. -/
def Tells (view : α → List ω) (before : List ω) (x : Logged ω ε α) : Prop :=
  ∀ a, x.ending = .ok a → view a = x.log.reverse ++ before

variable {view : α → List ω} {view' : β → List ω} {before : List ω}

theorem Tells.emit {log : List ω} {a : α} (h : view a = log.reverse ++ before) :
    Tells view before (emit log a : Logged ω ε α) := by
  intro b hb
  cases hb
  exact h

theorem Tells.pure {a : α} (h : view a = before) :
    Tells view before (pure a : Logged ω ε α) := Tells.emit h

theorem Tells.halt (e : ε) : Tells view before (halt e : Logged ω ε α) := fun _ h => by cases h

theorem Tells.map {f : α → β} {x : Logged ω ε α} (hx : Tells view before x)
    (hf : ∀ a, view' (f a) = view a) : Tells view' before (x.map f) := by
  intro b hb
  obtain ⟨a, hend, rfl⟩ := ending_map_eq_ok hb
  rw [hf]
  exact hx a hend

theorem Tells.bind {x : Logged ω ε α} {f : α → Logged ω ε β} (hx : Tells view before x)
    (hf : ∀ a, Tells view' (view a) (f a)) : Tells view' before (x >>= f) := by
  show Tells view' before (andThen x f)
  unfold andThen
  cases hend : x.ending with
  | error e => exact fun b hb => by cases hb
  | ok a =>
    intro b hb
    rw [hf a b hb, hx a hend, List.reverse_append, List.append_assoc]

theorem Tells.foldlM {f : σ → ι → Logged ω ε σ} {view : σ → List ω} {l : List ι} {s : σ}
    (hf : ∀ s, ∀ a ∈ l, Tells view (view s) (f s a)) : Tells view (view s) (l.foldlM f s) := by
  induction l generalizing s with
  | nil => exact .pure rfl
  | cons a l ih =>
    rw [List.foldlM_cons]
    exact (hf s a List.mem_cons_self).bind fun s' =>
      ih fun t b hb => hf t b (List.mem_cons_of_mem a hb)

end Rules

end Logged
