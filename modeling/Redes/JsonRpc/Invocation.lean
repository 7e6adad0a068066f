import Redes.JsonRpc.Binding

/-!
# Which functions run

Functions of Python that are registered in a server, with a record of what has run.  A call that
cannot bind its arguments raises a `TypeError` before the function runs, so that a function runs
exactly if its arguments can be bound, whatever `handle_request` has checked.  For arguments that
cannot be bound it answers with the code of wrong parameters if its own checks refuse them, and
with that of an internal error if they do not.  A request without an id runs nothing.

## Main definitions

* `PyFunction`, `registered` — the functions.
* `Invocation`, `Recording` — what has run.
* `ChecksMatchBinding` — what the checks of the parameters are for.
* `TakesEffect` — what a notification is for.

## Main results

* `callMethod_cases` — what becomes of the arguments of a request.
* `checksMatchBinding_iff` — when the checks do what they are for.
* `not_takesEffect` — a notification never does.
-/

namespace Redes

/-! ### Functions -/

/-- A function that has run. -/
structure Invocation where
  /-- The name it is registered under. -/
  name : PyStr
  /-- The positional arguments. -/
  args : List Json
  /-- The keyword arguments. -/
  kwargs : List (PyStr × Json)

/-- The state of the program, with what has run in it. -/
structure Recording (σ : Type) where
  /-- The state. -/
  env : σ
  /-- What has run, in this order. -/
  invocations : List Invocation

/-- A function of Python. -/
structure PyFunction (σ : Type) where
  /-- Its parameters. -/
  signature : Signature
  /-- The text of the `TypeError` for arguments that cannot be bound. -/
  typeError : CallArgs → PyStr
  /-- Its body. -/
  body : List (PyStr × Bound) → σ → Except PyExc Json × σ

/-- The call that runs a function with these arguments. -/
def invocation (name : PyStr) (args : CallArgs) : Invocation := ⟨name, args.args, args.kwargs⟩

/-- The function as a method: the arguments are bound before the body runs. -/
def PyFunction.method {σ : Type} (name : PyStr) (f : PyFunction σ) : Method (Recording σ) where
  signature := .ok f.signature.parameters
  call args s :=
    match f.signature.bind args with
    | none => (.error (.exception (.ok (f.typeError args))), s)
    | some bounds =>
        let (result, env) := f.body bounds s.env
        (result, ⟨env, s.invocations ++ [invocation name args]⟩)

@[simp] theorem PyFunction.signature_method {σ : Type} (name : PyStr) (f : PyFunction σ) :
    (f.method name).signature = .ok f.signature.parameters := rfl

/-- `self.methods`. -/
def registered {σ : Type} (functions : List (PyStr × PyFunction σ)) :
    List (PyStr × Method (Recording σ)) :=
  functions.map fun (name, f) => (name, f.method name)

/-! ### What is expected -/

/-- `response["error"]["code"]`. -/
def errorCode (response : Response) : Option ℤ :=
  match dictGet response (py "error") with
  | some (.json (.obj err)) =>
      match dictGet err (py "code") with
      | some (.int code) => some code
      | _ => none
  | _ => none

/-- The checks of the parameters stand for binding: the function runs exactly if its arguments can
be bound, and otherwise the answer is that the parameters are wrong. -/
structure ChecksMatchBinding {σ : Type} (functions : List (PyStr × PyFunction σ))
    (fields : List (PyStr × Json)) (name : PyStr) (f : PyFunction σ) (args : CallArgs)
    (s : Recording σ) : Prop where
  /-- When it runs. -/
  runs_iff : (handleRequest (registered functions) (.obj fields) s).2.invocations =
    s.invocations ++ [invocation name args] ↔ (f.signature.bind args).isSome = true
  /-- When it does not. -/
  refused : f.signature.bind args = none →
    (handleRequest (registered functions) (.obj fields) s).2 = s ∧
      ∃ response, (handleRequest (registered functions) (.obj fields) s).1 = .ok (some response) ∧
        errorCode response = some (-32602)

/-- A notification does what the request with an id does, but is not answered. -/
structure TakesEffect {σ : Type} (functions : List (PyStr × PyFunction σ))
    (fields : List (PyStr × Json)) (name : PyStr) (args : CallArgs) (s : Recording σ) : Prop where
  /-- The function runs once. -/
  runs : (handleRequest (registered functions) (.obj (dictErase fields (py "id"))) s).2.invocations
    = s.invocations ++ [invocation name args]
  /-- The state is that after the request with an id. -/
  env_eq : (handleRequest (registered functions) (.obj (dictErase fields (py "id"))) s).2.env =
    (handleRequest (registered functions) (.obj fields) s).2.env
  /-- There is no response. -/
  no_response : (handleRequest (registered functions) (.obj (dictErase fields (py "id"))) s).1 =
    .ok none

/-! ### Requests with an id -/

section Requests

variable {σ : Type} {functions : List (PyStr × PyFunction σ)} {fields : List (PyStr × Json)}
variable {name : PyStr} {f : PyFunction σ} {args : CallArgs}

theorem dictGet_registered (h : dictGet functions name = some f) :
    dictGet (registered functions) name = some (f.method name) := by
  unfold registered dictGet at *
  induction functions with
  | nil => cases h
  | cons function functions ih =>
    obtain ⟨name', f'⟩ := function
    rw [List.lookup_cons] at h
    rw [List.map_cons, List.lookup_cons]
    cases hname : name == name' with
    | true =>
      rw [hname] at h
      injection h with h
      rw [beq_iff_eq.mp hname, h]
    | false =>
      rw [hname] at h
      exact ih h

/-- A call, with the state behind it. -/
theorem handleRequest_call {methods : List (PyStr × Method σ)} {method : Method σ} {id : Json}
    (env : σ) (hcheck : checkRequest fields = .ok name)
    (hmethod : dictGet methods name = some method) (hid : idOf (.obj fields) = some id) :
    handleRequest methods (.obj fields) env =
      (answerCall (.obj fields)
        (callMethod method ((dictGet fields (py "params")).getD (.arr [])) env).1,
       (callMethod method ((dictGet fields (py "params")).getD (.arr [])) env).2) := by
  obtain ⟨hget, hnull⟩ := idOf_eq_some_iff.mp hid
  unfold handleRequest
  simp only [hcheck, hmethod, hget, Option.getD_some]

/-- **What becomes of the arguments of a request**: the function runs; or they are refused by the
checks; or they slip through and cannot be bound. -/
theorem callMethod_cases (name : PyStr) (f : PyFunction σ) (args : CallArgs) (s : Recording σ) :
    (∃ bounds, f.signature.bind args = some bounds ∧
      callMethod (f.method name) args.json s = ((f.body bounds s.env).1,
        ⟨(f.body bounds s.env).2, s.invocations ++ [invocation name args]⟩)) ∨
    (f.signature.bind args = none ∧ ¬ SlipsThrough f.signature.parameters args ∧
      ∃ message data, callMethod (f.method name) args.json s =
        (.error (.valueError [.json (errorObject (-32602) message data)]), s)) ∨
    (f.signature.bind args = none ∧ SlipsThrough f.signature.parameters args ∧
      callMethod (f.method name) args.json s =
        (.error (.exception (.ok (f.typeError args))), s)) := by
  have hslips := slipsThrough_iff f.signature args
  unfold callMethod
  rw [PyFunction.signature_method]
  cases hbind : f.signature.bind args with
  | some bounds =>
    have hpasses := passes_of_bind f.signature (by rw [hbind]; rfl)
    refine .inl ⟨bounds, rfl, ?_⟩
    rw [(bindParams_eq_ok_iff args).mpr hpasses]
    simp only [PyFunction.method, hbind]
  | none =>
    rw [hbind, and_iff_left rfl] at hslips
    refine .inr ?_
    by_cases hpasses : Passes f.signature.parameters args
    · refine .inr ⟨rfl, hslips.mpr hpasses, ?_⟩
      rw [(bindParams_eq_ok_iff args).mpr hpasses]
      simp only [PyFunction.method, hbind]
    · obtain ⟨message, data, herror⟩ := bindParams_of_not_passes hpasses
      refine .inl ⟨rfl, fun h => hpasses (hslips.mp h), message, data, ?_⟩
      rw [herror]

/-- A `TypeError` is answered as an internal error. -/
theorem answerCall_exception {id : Json} (hid : requestId (.obj fields) = .ok id)
    (text : PyStr) : ∃ response, answerCall (.obj fields) (.error (.exception (.ok text))) =
      .ok (some response) ∧ errorCode response = some (-32603) := by
  unfold answerCall innerHandlers internalError raiseAttributeError answerError
  rw [hid]
  exact ⟨_, rfl, rfl⟩

/-- What the checks refuse is answered with their error. -/
theorem answerCall_refused {id : Json} (hid : requestId (.obj fields) = .ok id)
    (code : ℤ) (message data : PyStr) : ∃ response, answerCall (.obj fields)
      (.error (.valueError [.json (errorObject code message data)])) = .ok (some response) ∧
        errorCode response = some code := by
  unfold answerCall innerHandlers answerError
  rw [hid]
  exact ⟨_, rfl, rfl⟩

theorem ne_append_singleton {α : Type} (l : List α) (a : α) : l ≠ l ++ [a] := by
  intro h
  have hlen := congrArg List.length h
  rw [List.length_append, List.length_singleton] at hlen
  omega

/-- **When the checks of the parameters stand for binding**: for all arguments but those that slip
through. -/
theorem checksMatchBinding_iff {id : Json} (s : Recording σ)
    (hcheck : checkRequest fields = .ok name) (hfunction : dictGet functions name = some f)
    (hid : idOf (.obj fields) = some id)
    (hparams : (dictGet fields (py "params")).getD (.arr []) = args.json) :
    ChecksMatchBinding functions fields name f args s ↔
      ¬ SlipsThrough f.signature.parameters args := by
  have hrequest := requestId_of_dictGet (idOf_eq_some_iff.mp hid).1
  have hcall := handleRequest_call s hcheck (dictGet_registered hfunction) hid
  rw [hparams] at hcall
  rcases callMethod_cases name f args s with ⟨bounds, hbind, heq⟩ |
    ⟨hbind, hslips, message, data, heq⟩ | ⟨hbind, hslips, heq⟩
  · have hslips : ¬ SlipsThrough f.signature.parameters args := by
      rw [slipsThrough_iff, hbind]
      simp
    refine iff_of_true ⟨?_, ?_⟩ hslips
    · rw [hcall, heq, hbind]
      exact iff_of_true rfl rfl
    · intro hnone
      rw [hbind] at hnone
      cases hnone
  · obtain ⟨response, hanswer, hcode⟩ := answerCall_refused hrequest (-32602) message data
    refine iff_of_true ⟨?_, ?_⟩ hslips
    · rw [hcall, heq, hbind]
      exact iff_of_false (ne_append_singleton _ _) (by simp)
    · intro _
      rw [hcall, heq]
      exact ⟨rfl, response, hanswer, hcode⟩
  · obtain ⟨response, hanswer, hcode⟩ := answerCall_exception hrequest (f.typeError args)
    refine iff_of_false ?_ (not_not.mpr hslips)
    intro h
    obtain ⟨-, response', hresponse, hcode'⟩ := h.refused hbind
    rw [hcall, heq] at hresponse
    simp only [hanswer] at hresponse
    cases hresponse
    rw [hcode] at hcode'
    exact absurd hcode' (by decide)

/-! ### Notifications -/

theorem dictGet_dictErase_of_ne {key key' : PyStr} (h : key' ≠ key) :
    dictGet (dictErase fields key) key' = dictGet fields key' := by
  unfold dictGet dictErase
  induction fields with
  | nil => rfl
  | cons field fields ih =>
    by_cases hkey : field.1 = key
    · have hne : (key' == field.1) = false := by simpa [hkey] using h
      rw [List.filter_cons_of_neg (by simpa using hkey), ih, List.lookup_cons, hne]
    · rw [List.filter_cons_of_pos (by simpa using hkey), List.lookup_cons, List.lookup_cons, ih]

/-- The checks of a request do not look at the id. -/
theorem checkRequest_dictErase_id (fields : List (PyStr × Json)) :
    checkRequest (dictErase fields (py "id")) = checkRequest fields := by
  unfold checkRequest
  rw [dictGet_dictErase_of_ne (by decide), dictGet_dictErase_of_ne (by decide)]

theorem idOf_dictErase_id (fields : List (PyStr × Json)) :
    idOf (.obj (dictErase fields (py "id"))) = none := by
  have hnone : dictGet (dictErase fields (py "id")) (py "id") = none := by
    by_contra hsome
    have hhas : dictHas (dictErase fields (py "id")) (py "id") = true :=
      Option.ne_none_iff_isSome.mp hsome
    exact (dictHas_dictErase_iff.mp hhas).1 rfl
  simp [idOf, hnone]

/-- A request without an id does nothing. -/
theorem handleRequest_notification (s : Recording σ) (hcheck : checkRequest fields = .ok name)
    (hfunction : dictGet functions name = some f) :
    handleRequest (registered functions) (.obj (dictErase fields (py "id"))) s = (.ok none, s) := by
  rw [← checkRequest_dictErase_id] at hcheck
  exact handleRequest_of_no_id s hcheck (dictGet_registered hfunction) (idOf_dictErase_id fields)

/-- **A notification never takes effect.** -/
theorem not_takesEffect (args : CallArgs) (s : Recording σ)
    (hcheck : checkRequest fields = .ok name) (hfunction : dictGet functions name = some f) :
    ¬ TakesEffect functions fields name args s := by
  intro h
  have hruns := h.runs
  rw [handleRequest_notification s hcheck hfunction] at hruns
  exact ne_append_singleton _ _ hruns

end Requests

/-! ### Two functions, for examples -/

/-- `def f(a, *, k)`, which returns `a`. -/
def keywordOnlySignature : Signature where
  parameters := [⟨py "a", .positionalOrKeyword, false⟩, ⟨py "k", .keywordOnly, false⟩]
  kinds_sorted := by decide
  stars_single := by decide
  names_nodup := by decide
  defaults_last := by decide
  stars_no_default := by decide

/-- A function that returns what its first parameter is bound to. -/
def returnFirst (signature : Signature) : PyFunction Unit where
  signature := signature
  typeError _ := py "f() takes other arguments"
  body bounds env :=
    match bounds with
    | (_, .value v) :: _ => (.ok v, env)
    | _ => (.ok .null, env)

/-- `self.methods` with `f` only. -/
def onlyF (signature : Signature) : List (PyStr × PyFunction Unit) :=
  [(py "f", returnFirst signature)]

/-- A request for `f` with an id. -/
def requestOfF (params : Json) : List (PyStr × Json) :=
  [(py "jsonrpc", .str (py "2.0")), (py "method", .str (py "f")), (py "params", params),
    (py "id", .int 1)]

/-- The program before anything has run. -/
def nothingRun : Recording Unit := ⟨(), []⟩

/-- Both arguments given by their names. -/
def bothByName : CallArgs := .keyword [(py "a", .int 1), (py "k", .int 2)]

/-- The parameters of `f` can be given by their names, and this passes the checks. -/
theorem checksMatchBinding_byName :
    ChecksMatchBinding (onlyF keywordOnlySignature) (requestOfF bothByName.json) (py "f")
      (returnFirst keywordOnlySignature) bothByName nothingRun := by
  have hslips : ¬ SlipsThrough (returnFirst keywordOnlySignature).signature.parameters
      bothByName := by
    rw [slipsThrough_iff]
    rintro ⟨-, hnone⟩
    cases hnone
  have hid : idOf (.obj (requestOfF bothByName.json)) = some (.int 1) := rfl
  exact (checksMatchBinding_iff nothingRun rfl rfl hid rfl).mpr hslips

/-- Two positional arguments: the second cannot be given so, but there are as many as
parameters.  The answer is that there was an internal error. -/
theorem not_checksMatchBinding_twoPositional :
    ¬ ChecksMatchBinding (onlyF keywordOnlySignature)
      (requestOfF (CallArgs.positional [.int 1, .int 2]).json) (py "f")
      (returnFirst keywordOnlySignature) (.positional [.int 1, .int 2]) nothingRun := by
  intro h
  obtain ⟨-, response, hresponse, hcode⟩ := h.refused rfl
  cases hresponse
  exact absurd hcode (by decide)

/-- A call with the parameters by name would run `f`, and the notification does not. -/
theorem notification_without_effect :
    (handleRequest (registered (onlyF keywordOnlySignature)) (.obj (requestOfF bothByName.json))
      nothingRun).2.invocations = [invocation (py "f") bothByName] ∧
    ¬ TakesEffect (onlyF keywordOnlySignature) (requestOfF bothByName.json) (py "f") bothByName
      nothingRun := by
  refine ⟨rfl, ?_⟩
  intro h
  cases h.runs

/-- The general statement for this request. -/
theorem not_takesEffect_byName :
    ¬ TakesEffect (onlyF keywordOnlySignature) (requestOfF bothByName.json) (py "f") bothByName
      nothingRun :=
  not_takesEffect bothByName nothingRun rfl rfl

end Redes
