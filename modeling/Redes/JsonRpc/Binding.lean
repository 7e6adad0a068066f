import Mathlib.Data.List.Nodup
import Redes.JsonRpc.Request

/-!
# How Python binds arguments

The rules by which a call binds its arguments to the parameters of a function, and the
checks that `handle_request` makes of them.  The checks count the parameters and
compare names, but do not ask how a parameter can be given: they refuse nothing that
could be bound, and let some arguments pass that cannot.

## Main definitions

* `Signature` — the parameters of a function.
* `bindParameter`, `bindArguments` — the rules.
* `Signature.bind` — what the arguments of a call are bound to.
* `SlipsThrough` — the arguments that pass the checks and cannot be bound.

## Main results

* `bindArguments_positional_iff`, `bindArguments_keyword_iff` — what can be bound.
* `passes_of_bind` — what can be bound passes the checks.
* `slipsThrough_iff` — what passes the checks and cannot be bound.
-/

namespace Redes

/-! ### Signatures -/

/-- The place of a kind among the parameters. -/
def ParameterKind.rank : ParameterKind → ℕ
  | .positionalOnly => 0
  | .positionalOrKeyword => 1
  | .varPositional => 2
  | .keywordOnly => 3
  | .varKeyword => 4

/-- The parameter can be given by its position. -/
def Parameter.isPositional (p : Parameter) : Bool :=
  decide (p.kind = .positionalOnly ∨ p.kind = .positionalOrKeyword)

/-- The parameter can be given by its name. -/
def Parameter.takesKeyword (p : Parameter) : Bool :=
  decide (p.kind = .positionalOrKeyword ∨ p.kind = .keywordOnly)

/-- The parameters of a function, as the grammar of Python and `inspect.Signature` have them. -/
structure Signature where
  /-- The parameters. -/
  parameters : List Parameter
  /-- The kinds come in their order. -/
  kinds_sorted : parameters.Pairwise fun p q => p.kind.rank ≤ q.kind.rank
  /-- There is at most one `*args` and one `**kwargs`. -/
  stars_single : parameters.Pairwise fun p q =>
    p.kind = q.kind → p.kind ≠ .varPositional ∧ p.kind ≠ .varKeyword
  /-- Different parameters have different names. -/
  names_nodup : (parameters.map Parameter.name).Nodup
  /-- No positional parameter without a default comes behind one with a default. -/
  defaults_last : parameters.Pairwise fun p q =>
    p.isPositional = true → q.isPositional = true → p.hasDefault = true → q.hasDefault = true
  /-- `*args` and `**kwargs` have no defaults. -/
  stars_no_default : ∀ p ∈ parameters, p.kind = .varPositional ∨ p.kind = .varKeyword →
    p.hasDefault = false

/-! ### Binding -/

/-- What a parameter is bound to. -/
inductive Bound
  /-- An argument. -/
  | value (v : Json)
  /-- Its default. -/
  | default
  /-- The rest of the positional arguments. -/
  | tuple (values : List Json)
  /-- The rest of the keyword arguments. -/
  | dict (fields : List (PyStr × Json))

/-- `d` without a key. -/
def dictErase {α : Type} (d : List (PyStr × α)) (key : PyStr) : List (PyStr × α) :=
  d.filter fun field => field.1 ≠ key

/-- A parameter takes the keyword argument of its name, or its default. -/
def bindByName (p : Parameter) (args : List Json) (kwargs : List (PyStr × Json)) :
    Option (Bound × List Json × List (PyStr × Json)) :=
  match dictGet kwargs p.name with
  | some v => some (.value v, args, dictErase kwargs p.name)
  | none => if p.hasDefault = true then some (.default, args, kwargs) else none

/-- What a parameter takes, and the arguments that are left for the parameters behind it. -/
def bindParameter (p : Parameter) (args : List Json) (kwargs : List (PyStr × Json)) :
    Option (Bound × List Json × List (PyStr × Json)) :=
  match p.kind, args with
  | .positionalOnly, v :: args => some (.value v, args, kwargs)
  | .positionalOnly, [] => if p.hasDefault = true then some (.default, [], kwargs) else none
  -- the parameter cannot be given twice
  | .positionalOrKeyword, v :: args =>
      if dictHas kwargs p.name = true then none else some (.value v, args, kwargs)
  | .positionalOrKeyword, [] => bindByName p [] kwargs
  | .varPositional, args => some (.tuple args, [], kwargs)
  | .keywordOnly, args => bindByName p args kwargs
  | .varKeyword, args => some (.dict kwargs, args, [])

/-- The parameters take their arguments one after the other, and no argument may be left. -/
def bindArguments : List Parameter → List Json → List (PyStr × Json) →
    Option (List (PyStr × Bound))
  | [], [], [] => some []
  | [], _, _ => none
  | p :: ps, args, kwargs =>
      (bindParameter p args kwargs).bind fun (bound, args, kwargs) =>
        (bindArguments ps args kwargs).map fun bounds => (p.name, bound) :: bounds

/-- The positional arguments of a call. -/
def CallArgs.args : CallArgs → List Json
  | .positional params => params
  | .keyword _ => []

/-- The keyword arguments of a call. -/
def CallArgs.kwargs : CallArgs → List (PyStr × Json)
  | .positional _ => []
  | .keyword params => params

/-- What the arguments of a call are bound to; `none` stands for a `TypeError`. -/
def Signature.bind (signature : Signature) (args : CallArgs) : Option (List (PyStr × Bound)) :=
  bindArguments signature.parameters args.args args.kwargs

/-! ### Positional arguments -/

section Binding

variable {p : Parameter} {ps : List Parameter}

theorem isSome_bindArguments_cons (args : List Json) (kwargs : List (PyStr × Json)) :
    (bindArguments (p :: ps) args kwargs).isSome = true ↔
      ∃ bound args' kwargs', bindParameter p args kwargs = some (bound, args', kwargs') ∧
        (bindArguments ps args' kwargs').isSome = true := by
  rw [bindArguments]
  cases bindParameter p args kwargs with
  | none => simp
  | some taken => obtain ⟨bound, args', kwargs'⟩ := taken; simp

theorem isPositional_iff : p.isPositional = true ↔ p.kind.rank ≤ 1 := by
  unfold Parameter.isPositional ParameterKind.rank
  cases p.kind <;> simp

/-- Behind `*args` no parameter is positional. -/
theorem filter_isPositional_eq_nil (h : ∀ q ∈ ps, p.kind.rank ≤ q.kind.rank)
    (hp : 1 < p.kind.rank) : ps.filter Parameter.isPositional = [] := by
  rw [List.filter_eq_nil_iff]
  intro q hq
  have hle := h q hq
  rw [isPositional_iff]
  omega

theorem hasKind_cons (kind : ParameterKind) :
    hasKind kind (p :: ps) = true ↔ p.kind = kind ∨ hasKind kind ps = true := by
  simp [hasKind]

/-- A parameter that can be given by its position takes an argument, or its default. -/
theorem bindParameter_positional (h : p.isPositional = true) (args : List Json) :
    bindParameter p args [] =
      match args with
      | v :: args => some (.value v, args, [])
      | [] => if p.hasDefault = true then some (.default, [], []) else none := by
  unfold Parameter.isPositional at h
  unfold bindParameter
  cases hkind : p.kind <;> simp [hkind] at h <;> cases args <;> rfl

/-- **What positional arguments can be bound**: those behind the last argument have defaults, and
so have the keyword-only parameters; and there is room. -/
theorem bindArguments_positional_iff
    (hsorted : ps.Pairwise fun p q => p.kind.rank ≤ q.kind.rank) (args : List Json) :
    (bindArguments ps args []).isSome = true ↔
      (∀ p ∈ (ps.filter Parameter.isPositional).drop args.length, p.hasDefault = true) ∧
      (∀ p ∈ ps, p.kind = .keywordOnly → p.hasDefault = true) ∧
      (args.length ≤ (ps.filter Parameter.isPositional).length ∨
        hasKind .varPositional ps = true) := by
  induction ps generalizing args with
  | nil => cases args <;> simp [bindArguments, hasKind]
  | cons p ps ih =>
    obtain ⟨hfirst, hrest⟩ := List.pairwise_cons.mp hsorted
    rw [isSome_bindArguments_cons]
    simp only [List.forall_mem_cons, hasKind_cons]
    by_cases hpos : p.isPositional = true
    · have hkind : p.kind ≠ .keywordOnly ∧ p.kind ≠ .varPositional := by
        unfold Parameter.isPositional at hpos
        rw [decide_eq_true_eq] at hpos
        rcases hpos with h | h <;> simp [h]
      rw [bindParameter_positional hpos, List.filter_cons_of_pos hpos]
      cases args with
      | nil =>
        have hih := ih hrest []
        simp only [List.length_nil, List.drop_zero, Nat.zero_le, true_or, and_true] at hih
        by_cases hdefault : p.hasDefault = true
        · simp [hdefault, hkind, hih]
        · simp [hdefault]
      | cons v args => simp [hkind, ih hrest args]
    · rw [List.filter_cons_of_neg hpos]
      have hnone : 1 < p.kind.rank → ps.filter Parameter.isPositional = [] :=
        filter_isPositional_eq_nil hfirst
      unfold bindParameter
      cases hkind : p.kind with
      | positionalOnly => simp [Parameter.isPositional, hkind] at hpos
      | positionalOrKeyword => simp [Parameter.isPositional, hkind] at hpos
      | varPositional =>
        -- the rest of the arguments goes to `*args`, and no positional parameter comes behind it
        have hnil := hnone (by rw [hkind]; decide)
        have hih := ih hrest []
        rw [hnil] at hih
        simpa [hnil] using hih
      | keywordOnly =>
        have hget : dictGet ([] : List (PyStr × Json)) p.name = none := rfl
        by_cases hdefault : p.hasDefault = true
        · simp [bindByName, hget, hdefault, ih hrest args]
        · simp [bindByName, hget, hdefault]
      | varKeyword => simp [ih hrest args]

/-! ### Keyword arguments -/

theorem dictHas_iff {d : List (PyStr × Json)} {key : PyStr} :
    dictHas d key = true ↔ key ∈ d.map Prod.fst := by
  unfold dictHas dictGet
  induction d with
  | nil => simp
  | cons field d ih =>
    rw [List.lookup_cons, List.map_cons, List.mem_cons]
    cases hkey : key == field.1 with
    | true => simp [beq_iff_eq.mp hkey]
    | false =>
      have hne : key ≠ field.1 := by simpa using hkey
      simp [hne, ← ih]

theorem dictHas_dictErase_iff {d : List (PyStr × Json)} {key key' : PyStr} :
    dictHas (dictErase d key) key' = true ↔ key' ≠ key ∧ dictHas d key' = true := by
  unfold dictErase
  rw [dictHas_iff, dictHas_iff, List.mem_map, List.mem_map]
  constructor
  · rintro ⟨field, hfield, rfl⟩
    obtain ⟨hmem, hne⟩ := List.mem_filter.mp hfield
    exact ⟨by simpa using hne, field, hmem, rfl⟩
  · rintro ⟨hne, field, hmem, rfl⟩
    exact ⟨field, List.mem_filter.mpr ⟨hmem, by simpa using hne⟩, rfl⟩

/-- The parameter has to be given. -/
def Parameter.Required (p : Parameter) : Prop :=
  p.hasDefault = false ∧ p.kind ≠ .varPositional ∧ p.kind ≠ .varKeyword

/-- Keyword arguments fit the parameters: those that have to be given are, and can be, given by
their names; and there is no other name, or `**kwargs` to take it. -/
def KeywordsFit (ps : List Parameter) (kwargs : List (PyStr × Json)) : Prop :=
  (∀ p ∈ ps, p.Required → p.takesKeyword = true ∧ dictHas kwargs p.name = true) ∧
    (hasKind .varKeyword ps = true ∨
      ∀ key, dictHas kwargs key = true → ∃ p ∈ ps, p.takesKeyword = true ∧ p.name = key)

/-- Without parameters, there must be no arguments. -/
theorem keywordsFit_nil_iff {kwargs : List (PyStr × Json)} :
    KeywordsFit [] kwargs ↔ kwargs = [] := by
  constructor
  · rintro ⟨-, hstar | hkeys⟩
    · simp [hasKind] at hstar
    · cases kwargs with
      | nil => rfl
      | cons field kwargs =>
        obtain ⟨p, hp, -⟩ := hkeys field.1 (dictHas_iff.mpr (by simp))
        exact absurd hp List.not_mem_nil
  · rintro rfl
    exact ⟨by simp, .inr (by simp [dictHas_iff])⟩

/-- A parameter that cannot be given by its name, and need not be given, changes nothing. -/
theorem keywordsFit_cons_of_not_takesKeyword {kwargs : List (PyStr × Json)}
    (htakes : p.takesKeyword = false) (hstar : p.kind ≠ .varKeyword) (hreq : ¬ p.Required) :
    KeywordsFit (p :: ps) kwargs ↔ KeywordsFit ps kwargs := by
  unfold KeywordsFit
  simp [hasKind_cons, hstar, hreq, htakes]

/-- A parameter takes the argument of its name away from the others. -/
theorem keywordsFit_cons_of_given {kwargs : List (PyStr × Json)} (htakes : p.takesKeyword = true)
    (hname : p.name ∉ ps.map Parameter.name) (hgiven : dictHas kwargs p.name = true) :
    KeywordsFit (p :: ps) kwargs ↔ KeywordsFit ps (dictErase kwargs p.name) := by
  have hne : ∀ q ∈ ps, q.name ≠ p.name := fun q hq heq =>
    hname (heq ▸ List.mem_map_of_mem hq)
  have hstar : p.kind ≠ .varKeyword := by
    rintro hkind
    simp [Parameter.takesKeyword, hkind] at htakes
  unfold KeywordsFit
  rw [hasKind_cons, List.forall_mem_cons]
  refine and_congr ?_ (or_congr (by simp [hstar]) ?_)
  · simp only [htakes, hgiven, and_self, implies_true, true_and]
    refine forall₂_congr fun q hq => ?_
    rw [dictHas_dictErase_iff, and_iff_right (hne q hq)]
  · constructor
    · intro h key hkey
      obtain ⟨hkne, hhas⟩ := dictHas_dictErase_iff.mp hkey
      obtain ⟨q, hq, hqtakes, rfl⟩ := h key hhas
      rcases List.mem_cons.mp hq with rfl | hq
      · exact absurd rfl hkne
      · exact ⟨q, hq, hqtakes, rfl⟩
    · intro h key hkey
      by_cases hkne : key = p.name
      · exact ⟨p, List.mem_cons_self, htakes, hkne.symm⟩
      · obtain ⟨q, hq, hqtakes⟩ := h key (dictHas_dictErase_iff.mpr ⟨hkne, hkey⟩)
        exact ⟨q, List.mem_cons_of_mem p hq, hqtakes⟩

/-- A parameter that is not given needs a default. -/
theorem keywordsFit_cons_of_not_given {kwargs : List (PyStr × Json)}
    (htakes : p.takesKeyword = true) (hgiven : dictHas kwargs p.name = false) :
    KeywordsFit (p :: ps) kwargs ↔ p.hasDefault = true ∧ KeywordsFit ps kwargs := by
  have hstar : p.kind ≠ .varKeyword ∧ p.kind ≠ .varPositional := by
    constructor <;>
    · intro hkind
      simp [Parameter.takesKeyword, hkind] at htakes
  have hreq : p.Required ↔ p.hasDefault = false := by
    unfold Parameter.Required
    simp [hstar]
  unfold KeywordsFit
  rw [hasKind_cons, List.forall_mem_cons, hreq, and_assoc]
  refine and_congr (by simp [hgiven]) (and_congr Iff.rfl (or_congr (by simp [hstar]) ?_))
  refine forall₂_congr fun key hkey => ?_
  have hne : p.name ≠ key := by
    rintro rfl
    rw [hgiven] at hkey
    cases hkey
  simp [hne]

/-- `**kwargs` takes what is there, as no parameter behind it has to be given. -/
theorem keywordsFit_of_varKeyword (hkind : p.kind = .varKeyword)
    (hfirst : ∀ q ∈ ps, p.kind.rank ≤ q.kind.rank) (kwargs : List (PyStr × Json)) :
    KeywordsFit (p :: ps) kwargs ∧ KeywordsFit ps [] := by
  have hlast : ∀ q ∈ ps, ¬ q.Required := by
    rintro q hq ⟨-, -, hne⟩
    have hle := hfirst q hq
    rw [hkind] at hle
    cases hq : q.kind <;> simp [hq, ParameterKind.rank] at hle hne
  constructor
  · refine ⟨?_, .inl (hasKind_cons _ |>.mpr (.inl hkind))⟩
    rw [List.forall_mem_cons]
    refine ⟨?_, fun q hq hreq => absurd hreq (hlast q hq)⟩
    rintro ⟨-, -, hne⟩
    exact absurd hkind hne
  · exact ⟨fun q hq hreq => absurd hreq (hlast q hq), .inr (by simp [dictHas_iff])⟩

/-- A parameter that can only be given by its position, and has to be, is missing. -/
theorem not_keywordsFit_of_required {kwargs : List (PyStr × Json)} (htakes : p.takesKeyword = false)
    (hreq : p.Required) : ¬ KeywordsFit (p :: ps) kwargs := by
  rintro ⟨hgiven, -⟩
  have hp := hgiven p List.mem_cons_self hreq
  rw [htakes] at hp
  exact Bool.false_ne_true hp.1

/-- A parameter that can be given by its name takes the argument of this name. -/
theorem bindParameter_keyword (h : p.takesKeyword = true) (kwargs : List (PyStr × Json)) :
    bindParameter p [] kwargs = bindByName p [] kwargs := by
  unfold Parameter.takesKeyword at h
  unfold bindParameter
  cases hkind : p.kind <;> simp [hkind] at h <;> rfl

/-- **What keyword arguments can be bound.** -/
theorem bindArguments_keyword_iff
    (hsorted : ps.Pairwise fun p q => p.kind.rank ≤ q.kind.rank)
    (hnames : (ps.map Parameter.name).Nodup) (kwargs : List (PyStr × Json)) :
    (bindArguments ps [] kwargs).isSome = true ↔ KeywordsFit ps kwargs := by
  induction ps generalizing kwargs with
  | nil =>
    rw [keywordsFit_nil_iff]
    cases kwargs <;> simp [bindArguments]
  | cons p ps ih =>
    obtain ⟨hfirst, hrest⟩ := List.pairwise_cons.mp hsorted
    rw [List.map_cons] at hnames
    obtain ⟨hname, hnodup⟩ := List.nodup_cons.mp hnames
    rw [isSome_bindArguments_cons]
    by_cases htakes : p.takesKeyword = true
    · rw [bindParameter_keyword htakes, bindByName]
      cases hget : dictGet kwargs p.name with
      | some v =>
        have hgiven : dictHas kwargs p.name = true := by rw [dictHas, hget]; rfl
        rw [keywordsFit_cons_of_given htakes hname hgiven]
        simp [ih hrest hnodup]
      | none =>
        have hgiven : dictHas kwargs p.name = false := by rw [dictHas, hget]; rfl
        rw [keywordsFit_cons_of_not_given htakes hgiven]
        by_cases hdefault : p.hasDefault = true
        · simp [hdefault, ih hrest hnodup]
        · simp [hdefault]
    · rw [Bool.not_eq_true] at htakes
      unfold bindParameter
      cases hkind : p.kind with
      | positionalOrKeyword => simp [Parameter.takesKeyword, hkind] at htakes
      | keywordOnly => simp [Parameter.takesKeyword, hkind] at htakes
      | positionalOnly =>
        by_cases hdefault : p.hasDefault = true
        · rw [keywordsFit_cons_of_not_takesKeyword htakes (by simp [hkind])
            (by simp [Parameter.Required, hdefault])]
          simp [hdefault, ih hrest hnodup]
        · refine iff_of_false (by simp [hdefault]) (not_keywordsFit_of_required htakes ?_)
          exact ⟨by simpa using hdefault, by simp [hkind]⟩
      | varPositional =>
        rw [keywordsFit_cons_of_not_takesKeyword htakes (by simp [hkind])
          (by simp [Parameter.Required, hkind])]
        simp [ih hrest hnodup]
      | varKeyword =>
        obtain ⟨hfit, hnil⟩ := keywordsFit_of_varKeyword hkind hfirst kwargs
        simp [hfit, ih hrest hnodup, hnil]

end Binding

/-! ### The checks of `handle_request` -/

/-- The params of a request for a call with these arguments. -/
def CallArgs.json : CallArgs → Json
  | .positional params => .arr params
  | .keyword params => .obj params

/-- The arguments pass the checks. -/
def Passes (ps : List Parameter) : CallArgs → Prop
  | .positional params => (requiredParams ps).length ≤ params.length ∧
      (params.length ≤ ps.length ∨ hasKind .varPositional ps = true)
  | .keyword params => (∀ p ∈ ps, p.Required → dictHas params p.name = true) ∧
      (hasKind .varKeyword ps = true ∨
        ∀ key, dictHas params key = true → ∃ p ∈ ps, p.name = key)

/-- The arguments pass the checks, although a parameter has to be given in the other way, or they
give one that can only be given in the other way. -/
def SlipsThrough (ps : List Parameter) : CallArgs → Prop
  | .positional params => Passes ps (.positional params) ∧
      ((∃ p ∈ ps, p.kind = .keywordOnly ∧ p.hasDefault = false) ∨
        ((ps.filter Parameter.isPositional).length < params.length ∧
          hasKind .varPositional ps = false))
  | .keyword params => Passes ps (.keyword params) ∧
      ((∃ p ∈ ps, p.kind = .positionalOnly ∧ p.hasDefault = false) ∨
        (hasKind .varKeyword ps = false ∧
          ∃ p ∈ ps, p.takesKeyword = false ∧ dictHas params p.name = true))

section Checks

variable {ps : List Parameter}

theorem mem_requiredParams {p : Parameter} : p ∈ requiredParams ps ↔ p ∈ ps ∧ p.Required := by
  simp [requiredParams, Parameter.Required]

theorem missingParams_eq_nil_iff {params : List (PyStr × Json)} :
    missingParams ps params = [] ↔ ∀ p ∈ ps, p.Required → dictHas params p.name = true := by
  unfold missingParams
  rw [List.map_eq_nil_iff, List.filter_eq_nil_iff]
  simp only [mem_requiredParams, and_imp, Bool.not_eq_true', Bool.not_eq_false]

theorem unexpectedParams_eq_nil_iff {params : List (PyStr × Json)} :
    unexpectedParams ps params = [] ↔
      ∀ key, dictHas params key = true → ∃ p ∈ ps, p.name = key := by
  unfold unexpectedParams
  rw [List.filter_eq_nil_iff]
  simp [dictHas_iff]

/-- **What passes the checks.** -/
theorem bindParams_eq_ok_iff (args : CallArgs) :
    bindParams (.ok ps) args.json = .ok args ↔ Passes ps args := by
  cases args with
  | positional params =>
    show bindPositional ps params = _ ↔ _ ∧ _
    unfold bindPositional
    by_cases hfew : params.length < (requiredParams ps).length
    · simp [hfew, Nat.not_le.mpr hfew]
    · by_cases hmany : ps.length < params.length ∧ hasKind .varPositional ps = false
      · simp [hfew, hmany, Nat.not_le.mpr hmany.1]
      · rw [if_neg hfew, if_neg hmany]
        refine iff_of_true rfl ⟨Nat.not_lt.mp hfew, ?_⟩
        by_cases hstar : hasKind .varPositional ps = true
        · exact .inr hstar
        · exact .inl (Nat.not_lt.mp fun h => hmany ⟨h, by simpa using hstar⟩)
  | keyword params =>
    show bindKeyword ps params = _ ↔ _ ∧ _
    unfold bindKeyword
    rw [← missingParams_eq_nil_iff, ← unexpectedParams_eq_nil_iff]
    by_cases hmissing : missingParams ps params = []
    · by_cases hstar : hasKind .varKeyword ps = true
      · simp [hmissing, hstar]
      · by_cases hother : unexpectedParams ps params = [] <;> simp [hmissing, hstar, hother]
    · simp [hmissing]

/-- **What is refused** is answered with the code -32602. -/
theorem bindParams_of_not_passes {args : CallArgs} (h : ¬ Passes ps args) :
    ∃ message data, bindParams (.ok ps) args.json =
      .error (.valueError [.json (errorObject (-32602) message data)]) := by
  rw [← bindParams_eq_ok_iff] at h
  cases args with
  | positional params =>
    revert h
    show ¬ bindPositional ps params = _ → ∃ message data, bindPositional ps params = _
    unfold bindPositional
    split
    · exact fun _ => ⟨_, _, rfl⟩
    · split
      · exact fun _ => ⟨_, _, rfl⟩
      · exact fun h => absurd rfl h
  | keyword params =>
    revert h
    show ¬ bindKeyword ps params = _ → ∃ message data, bindKeyword ps params = _
    unfold bindKeyword
    split
    · exact fun _ => ⟨_, _, rfl⟩
    · split
      · exact fun _ => ⟨_, _, rfl⟩
      · exact fun h => absurd rfl h

end Checks

/-- In a list that is sorted by a property, those behind an index have it exactly if no more than
these come without it. -/
theorem forall_drop_iff_length_filter {α : Type} {q : α → Bool} {l : List α}
    (h : l.Pairwise fun a b => q a = true → q b = true) (n : ℕ) :
    (∀ a ∈ l.drop n, q a = true) ↔ (l.filter fun a => !q a).length ≤ n := by
  induction l generalizing n with
  | nil => simp
  | cons a l ih =>
    obtain ⟨hfirst, hrest⟩ := List.pairwise_cons.mp h
    by_cases ha : q a = true
    · -- all of them have it
      have hall : ∀ b ∈ a :: l, q b = true := by
        rw [List.forall_mem_cons]
        exact ⟨ha, fun b hb => hfirst b hb ha⟩
      have hnil : ((a :: l).filter fun a => !q a) = [] := by
        rw [List.filter_eq_nil_iff]
        intro b hb
        simp [hall b hb]
      rw [hnil]
      exact iff_of_true (fun b hb => hall b (List.mem_of_mem_drop hb)) (Nat.zero_le n)
    · rw [List.filter_cons_of_pos (by simpa using ha)]
      cases n with
      | zero => simp [ha]
      | succ n => rw [List.drop_succ_cons, ih hrest, List.length_cons, Nat.succ_le_succ_iff]

section Signatures

variable (signature : Signature)

/-- The positional parameters that have to be given. -/
theorem filter_requiredParams :
    ((signature.parameters.filter Parameter.isPositional).filter fun p => !p.hasDefault) =
      (requiredParams signature.parameters).filter Parameter.isPositional := by
  unfold requiredParams
  rw [List.filter_filter, List.filter_filter]
  refine List.filter_congr fun p _ => ?_
  cases hkind : p.kind <;> simp [Parameter.isPositional, hkind, Bool.and_comm]

/-- **What positional arguments can be bound**, by the numbers. -/
theorem bind_positional_iff (params : List Json) :
    (signature.bind (.positional params)).isSome = true ↔
      ((requiredParams signature.parameters).filter Parameter.isPositional).length ≤
          params.length ∧
        (∀ p ∈ signature.parameters, p.kind = .keywordOnly → p.hasDefault = true) ∧
        (params.length ≤ (signature.parameters.filter Parameter.isPositional).length ∨
          hasKind .varPositional signature.parameters = true) := by
  have hdefaults : (signature.parameters.filter Parameter.isPositional).Pairwise fun p q =>
      p.hasDefault = true → q.hasDefault = true := by
    have hsub := signature.defaults_last.sublist
      (List.filter_sublist (p := Parameter.isPositional))
    refine hsub.imp_of_mem fun hp hq h => ?_
    exact h (List.mem_filter.mp hp).2 (List.mem_filter.mp hq).2
  show (bindArguments _ params []).isSome = true ↔ _
  rw [bindArguments_positional_iff signature.kinds_sorted,
    forall_drop_iff_length_filter hdefaults, filter_requiredParams]

theorem bind_keyword_iff (params : List (PyStr × Json)) :
    (signature.bind (.keyword params)).isSome = true ↔
      KeywordsFit signature.parameters params :=
  bindArguments_keyword_iff signature.kinds_sorted signature.names_nodup params

/-- **What can be bound passes the checks.** -/
theorem passes_of_bind {args : CallArgs} (h : (signature.bind args).isSome = true) :
    Passes signature.parameters args := by
  cases args with
  | positional params =>
    obtain ⟨hrequired, hkeyword, hroom⟩ := (bind_positional_iff signature params).mp h
    have hall : (requiredParams signature.parameters).filter Parameter.isPositional =
        requiredParams signature.parameters := by
      rw [List.filter_eq_self]
      intro p hp
      obtain ⟨hmem, hdefault, hstar⟩ := mem_requiredParams.mp hp
      have hne : p.kind ≠ .keywordOnly := by
        intro hkind
        rw [hkeyword p hmem hkind] at hdefault
        cases hdefault
      cases hkind : p.kind <;> simp [Parameter.isPositional, hkind] at hstar hne ⊢
    rw [hall] at hrequired
    exact ⟨hrequired, hroom.imp_left fun hle => Nat.le_trans hle (List.length_filter_le _ _)⟩
  | keyword params =>
    obtain ⟨hrequired, hroom⟩ := (bind_keyword_iff signature params).mp h
    refine ⟨fun p hp hreq => (hrequired p hp hreq).2, hroom.imp_right ?_⟩
    intro hkeys key hkey
    obtain ⟨p, hp, -, hname⟩ := hkeys key hkey
    exact ⟨p, hp, hname⟩

/-- **What passes the checks and cannot be bound.** -/
theorem slipsThrough_iff (args : CallArgs) : SlipsThrough signature.parameters args ↔
    Passes signature.parameters args ∧ signature.bind args = none := by
  rw [← Option.not_isSome_iff_eq_none]
  cases args with
  | positional params =>
    refine and_congr_right fun hpasses => ?_
    have hrequired : ((requiredParams signature.parameters).filter
        Parameter.isPositional).length ≤ params.length :=
      Nat.le_trans (List.length_filter_le _ _) hpasses.1
    rw [bind_positional_iff, and_iff_right hrequired, not_and_or, not_or, Nat.not_le,
      Bool.not_eq_true]
    refine or_congr ?_ Iff.rfl
    push Not
    simp only [ne_eq, Bool.not_eq_true]
  | keyword params =>
    refine and_congr_right fun hpasses => ?_
    rw [bind_keyword_iff]
    constructor
    · rintro (⟨p, hp, hkind, hdefault⟩ | ⟨hstar, p, hp, htakes, hgiven⟩) ⟨hrequired, hkeys⟩
      · have htakes := (hrequired p hp ⟨hdefault, by simp [hkind]⟩).1
        simp [Parameter.takesKeyword, hkind] at htakes
      · rw [hstar] at hkeys
        obtain ⟨q, hq, hqtakes, hname⟩ := hkeys.resolve_left Bool.false_ne_true p.name hgiven
        have heq := List.inj_on_of_nodup_map signature.names_nodup hq hp hname
        rw [heq, htakes] at hqtakes
        cases hqtakes
    · intro hnot
      by_contra hslips
      push Not at hslips
      obtain ⟨honly, hnames⟩ := hslips
      refine hnot ⟨?_, ?_⟩
      · intro p hp hreq
        refine ⟨?_, hpasses.1 p hp hreq⟩
        obtain ⟨hdefault, hstar⟩ := hreq
        have hne : p.kind ≠ .positionalOnly := fun hkind => honly p hp hkind hdefault
        cases hkind : p.kind <;> simp [Parameter.takesKeyword, hkind] at hstar hne ⊢
      · by_cases hstar : hasKind .varKeyword signature.parameters = true
        · exact .inl hstar
        · refine .inr fun key hkey => ?_
          obtain ⟨p, hp, rfl⟩ := hpasses.2.resolve_left hstar key hkey
          refine ⟨p, hp, ?_, rfl⟩
          by_contra htakes
          exact hnames (by simpa using hstar) p hp (by simpa using htakes) hkey

end Signatures

end Redes
