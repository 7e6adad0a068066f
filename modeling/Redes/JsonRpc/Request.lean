import Redes.JsonRpc.Json

/-!
# `handle_request`

A request is checked, the method that it names is called with the parameters, and what this returns
or raises is put into a response.  The handlers of the exceptions look at the arguments of the
exception and at the id of the request, and these can be missing.

## Main definitions

* `Method`, `Parameter`, `CallArgs` — the functions that are registered.
* `checkRequest`, `bindParams` — the checks of a request and of its parameters.
* `answerError`, `outerHandlers`, `innerHandlers` — the handlers.
* `handleRequest` — the function.
* `MeetsContract` — what its caller expects of it.

## Main results

* `outerHandlers_iff`, `innerHandlers_iff` — which exceptions are answered.
* `handleRequest_meets_iff` — when the function does what its caller expects.
-/

namespace Redes

/-! ### Methods and responses -/

/-- `inspect.Parameter.kind`. -/
inductive ParameterKind
  /-- `POSITIONAL_ONLY`. -/
  | positionalOnly
  /-- `POSITIONAL_OR_KEYWORD`. -/
  | positionalOrKeyword
  /-- `VAR_POSITIONAL`. -/
  | varPositional
  /-- `KEYWORD_ONLY`. -/
  | keywordOnly
  /-- `VAR_KEYWORD`. -/
  | varKeyword
  deriving DecidableEq

/-- `inspect.Parameter`. -/
structure Parameter where
  /-- `name`. -/
  name : PyStr
  /-- `kind`. -/
  kind : ParameterKind
  /-- `default` is not `inspect.Parameter.empty`. -/
  hasDefault : Bool
  deriving DecidableEq

/-- The arguments of a call. -/
inductive CallArgs
  /-- `method(*params)`. -/
  | positional (params : List Json)
  /-- `method(**params)`. -/
  | keyword (params : List (PyStr × Json))

/-- A function that is registered.  It can read and change the state of the program; that Python
cannot bind the arguments is one of the exceptions that a call raises. -/
structure Method (σ : Type) where
  /-- `inspect.signature(method).parameters`. -/
  signature : Except PyExc (List Parameter)
  /-- The call. -/
  call : CallArgs → σ → Except PyExc Json × σ

/-- A response, which is a dictionary. -/
abbrev Response : Type := List (PyStr × PyObj)

/-- The dictionary that describes an error. -/
def errorObject (code : ℤ) (message data : PyStr) : Json :=
  .obj [(py "code", .int code), (py "message", .str message), (py "data", .str data)]

/-- The response with a result. -/
def resultResponse (result id : Json) : Response :=
  [(py "jsonrpc", .json (.str (py "2.0"))), (py "result", .json result), (py "id", .json id)]

/-- The response with an error. -/
def errorResponse (err : PyObj) (id : Json) : Response :=
  [(py "jsonrpc", .json (.str (py "2.0"))), (py "error", err), (py "id", .json id)]

/-! ### The checks -/

/-- `version == "2.0"`. -/
def isVersion : Option Json → Bool
  | some (.str version) => decide (version = py "2.0")
  | _ => false

/-- The checks of a request: the name of the method, or the error that is raised. -/
def checkRequest (request : List (PyStr × Json)) : Except Json PyStr :=
  if isVersion (dictGet request (py "jsonrpc")) = false then
    .error (errorObject (-32600) (py "Invalid Request") (py "Invalid JSON-RPC version"))
  else
    let methodName := (dictGet request (py "method")).getD .null
    if methodName.truthy = false then
      .error (errorObject (-32600) (py "Invalid Request") (py "The method name is missing."))
    else
      match methodName with
      | .str name => .ok name
      | _ =>
          .error (errorObject (-32600) (py "Invalid Request")
            (py "The method name must be a string."))

/-- `required_params`. -/
def requiredParams (parameters : List Parameter) : List Parameter :=
  parameters.filter fun p =>
    !p.hasDefault && decide (p.kind ≠ .varPositional ∧ p.kind ≠ .varKeyword)

/-- One of the parameters has this kind. -/
def hasKind (kind : ParameterKind) (parameters : List Parameter) : Bool :=
  parameters.any fun p => p.kind = kind

/-- The checks of a list of parameters. -/
def bindPositional (parameters : List Parameter) (params : List Json) : Except PyExc CallArgs :=
  if params.length < (requiredParams parameters).length then
    .error (.valueError [.json (errorObject (-32602) (py "Invalid params")
      (py "Missing required positional parameters."))])
  else if parameters.length < params.length ∧ hasKind .varPositional parameters = false then
    .error (.valueError [.json (errorObject (-32602) (py "Invalid params")
      (py "Too many positional parameters provided."))])
  else .ok (.positional params)

/-- `missing_params`. -/
def missingParams (parameters : List Parameter) (params : List (PyStr × Json)) : List PyStr :=
  ((requiredParams parameters).filter fun p => !dictHas params p.name).map Parameter.name

/-- `unexpected_params`. -/
def unexpectedParams (parameters : List Parameter) (params : List (PyStr × Json)) : List PyStr :=
  (params.map Prod.fst).filter fun key => !(parameters.map Parameter.name).contains key

/-- The checks of a dictionary of parameters. -/
def bindKeyword (parameters : List Parameter) (params : List (PyStr × Json)) :
    Except PyExc CallArgs :=
  if missingParams parameters params ≠ [] then
    .error (.valueError [.json (errorObject (-32602) (py "Invalid params")
      (py "Missing required parameters: " ++ join (py ", ") (missingParams parameters params)))])
  else if hasKind .varKeyword parameters = false ∧ unexpectedParams parameters params ≠ [] then
    .error (.valueError [.json (errorObject (-32602) (py "Invalid params")
      (py "Unexpected parameters: " ++ join (py ", ") (unexpectedParams parameters params)))])
  else .ok (.keyword params)

/-- The checks of the parameters; the signature is only looked at if they are a list or a
dictionary. -/
def bindParams (signature : Except PyExc (List Parameter)) : Json → Except PyExc CallArgs
  | .arr params => signature.bind fun parameters => bindPositional parameters params
  | .obj params => signature.bind fun parameters => bindKeyword parameters params
  | _ =>
      .error (.valueError [.json (errorObject (-32602) (py "Invalid request")
        (py "Params must be a list or a dictionary."))])

/-! ### The handlers -/

/-- `request["id"]`, which raises a `KeyError` or a `TypeError`. -/
def requestId : Json → Except PyExc Json
  | .obj request =>
      match dictGet request (py "id") with
      | some id => .ok id
      | none => .error (.exception (.ok (py "'id'")))
  | .arr _ => .error (.exception (.ok (py "list indices must be integers or slices, not str")))
  | .str _ => .error (.exception (.ok (py "string indices must be integers, not 'str'")))
  | j =>
      .error (.exception (.ok (py "'" ++ j.typeName ++ py "' object is not subscriptable")))

/-- The response with `args[0]` and `request["id"]`; there is an `IndexError` if there are no
arguments. -/
def answerError (request : Json) : List PyObj → Except PyExc Response
  | [] => .error (.exception (.ok (py "tuple index out of range")))
  | err :: _ => (requestId request).map (errorResponse err)

/-- The handlers of the outer `try`. -/
def outerHandlers (request : Json) : PyExc → Except PyExc Response
  | .valueError args => answerError request args
  | .attributeError args _ => answerError request args
  | .exception (.ok text) =>
      (requestId request).map
        (errorResponse (.json (errorObject (-32603) (py "Internal error") text)))
  | .exception (.error e) => .error e
  | .baseException => .error .baseException

/-- `raise AttributeError(err)` in the outer `try`, whose handler is the one that catches it. -/
def raiseAttributeError (request err : Json) : Except PyExc Response :=
  answerError request [.json err]

/-- What becomes of an exception that is raised in a handler of the inner `try`. -/
def orElse (request : Json) : Except PyExc Response → Except PyExc Response
  | .ok response => .ok response
  | .error e => outerHandlers request e

/-- The handler `except Exception as e` of the inner `try`; printing `e` can raise an exception. -/
def internalError (request : Json) : Except PyExc PyStr → Except PyExc Response
  | .ok text =>
      raiseAttributeError request
        (errorObject (-32603) (py "Internal error")
          (py "There was an error in the server: " ++ text))
  | .error e => outerHandlers request e

/-- The handlers of the inner `try`. -/
def innerHandlers (request : Json) : PyExc → Except PyExc Response
  | .valueError args => orElse request (answerError request args)
  | .attributeError _ str => internalError request str
  | .exception str => internalError request str
  | .baseException => .error .baseException

/-! ### The function -/

/-- The inner `try` for a request with an id. -/
def callMethod {σ : Type} (method : Method σ) (params : Json) (env : σ) :
    Except PyExc Json × σ :=
  match bindParams method.signature params with
  | .error e => (.error e, env)
  | .ok args => method.call args env

/-- What is returned after the inner `try`. -/
def answerCall (request : Json) : Except PyExc Json → Except PyExc (Option Response)
  | .ok .null => .ok none
  | .ok result =>
      (orElse request ((requestId request).map (resultResponse result))).map some
  | .error e => (innerHandlers request e).map some

/-- `handle_request`. -/
def handleRequest {σ : Type} (methods : List (PyStr × Method σ)) (request : Json) (env : σ) :
    Except PyExc (Option Response) × σ :=
  match request with
  | .obj fields =>
      match checkRequest fields with
      | .error err => ((outerHandlers request (.valueError [.json err])).map some, env)
      | .ok name =>
          match dictGet methods name with
          | none =>
              ((raiseAttributeError request (errorObject (-32601) (py "Method not found")
                (py "Method " ++ name ++ py " not found."))).map some, env)
          | some method =>
              match (dictGet fields (py "id")).getD .null with
              | .null => (.ok none, env)
              | _ =>
                  let (result, env) :=
                    callMethod method ((dictGet fields (py "params")).getD (.arr [])) env
                  (answerCall request result, env)
  | _ =>
      let text := py "'" ++ request.typeName ++ py "' object has no attribute 'get'"
      ((outerHandlers request (.attributeError [.json (.str text)] (.ok text))).map some, env)

/-! ### What the caller expects -/

/-- The id of a request, if it is not missing and not `None`. -/
def idOf : Json → Option Json
  | .obj fields =>
      match dictGet fields (py "id") with
      | some .null => none
      | id => id
  | _ => none

/-- An object with an integer code and a string message. -/
def IsErrorObject : PyObj → Prop
  | .json (.obj d) =>
      (∃ code, dictGet d (py "code") = some (.int code)) ∧
        ∃ message, dictGet d (py "message") = some (.str message)
  | _ => False

/-- A response with an id. -/
structure IsResponse (response : Response) (id : Json) : Prop where
  /-- The version is "2.0". -/
  version : dictGet response (py "jsonrpc") = some (.json (.str (py "2.0")))
  /-- The id is this one. -/
  id_eq : dictGet response (py "id") = some (.json id)
  /-- There is either a result or an error. -/
  result_xor_error : dictHas response (py "result") = !dictHas response (py "error")
  /-- The error is an error object. -/
  isErrorObject : ∀ err, dictGet response (py "error") = some err → IsErrorObject err

/-- What the caller expects: a response to a request with an id, and nothing or an error with the id
`None` otherwise. -/
def MeetsContract (request : Json) : Except PyExc (Option Response) → Prop
  | .error _ => False
  | .ok none => idOf request = none
  | .ok (some response) =>
      match idOf request with
      | some id => IsResponse response id
      | none => IsResponse response .null ∧ dictHas response (py "error") = true

/-! ### When it is met -/

/-- `args[0]` is an error object. -/
def CarriesError (args : List PyObj) : Prop := ∃ err rest, args = err :: rest ∧ IsErrorObject err

/-- The outer handlers make a response of the exception. -/
def AnsweredOutside : PyExc → Prop
  | .valueError args => CarriesError args
  | .attributeError args _ => CarriesError args
  | .exception str => ∃ text, str = .ok text
  | .baseException => False

/-- Printing gives a string, or an exception of which the outer handlers make a response. -/
def PrintAnswered (str : Except PyExc PyStr) : Prop := ∀ e, str = .error e → AnsweredOutside e

/-- The handlers make a response of the exception that the method raises. -/
def Answered : PyExc → Prop
  | .valueError args => args = [] ∨ CarriesError args
  | .attributeError _ str => PrintAnswered str
  | .exception str => PrintAnswered str
  | .baseException => False

/-- The parameters are a list or a dictionary. -/
def AreParams : Json → Prop
  | .arr _ => True
  | .obj _ => True
  | _ => False

/-- With these parameters the method answers: its signature can be had, and the call returns
something other than `None`, or what is raised is answered. -/
structure MethodAnswers {σ : Type} (method : Method σ) (params : Json) (env : σ) : Prop where
  /-- Of the signature. -/
  signature : AreParams params → ∀ e, method.signature = .error e → Answered e
  /-- Of the call, if the checks let it happen. -/
  call : ∀ args, bindParams method.signature params = .ok args →
    match (method.call args env).1 with
    | .ok result => result ≠ .null
    | .error e => Answered e

/-- The request is an object; without an id it passes the checks and names a method, and with one
that is not `None` the method answers, if the request passes the checks and names one. -/
structure AnswerableFields {σ : Type} (methods : List (PyStr × Method σ))
    (fields : List (PyStr × Json)) (env : σ) : Prop where
  /-- Without an id. -/
  no_id : dictGet fields (py "id") = none →
    ∃ name, checkRequest fields = .ok name ∧ dictHas methods name = true
  /-- With an id. -/
  answers : ∀ id, idOf (.obj fields) = some id → ∀ name method, checkRequest fields = .ok name →
    dictGet methods name = some method →
      MethodAnswers method ((dictGet fields (py "params")).getD (.arr [])) env

/-- The request can be answered. -/
def Answerable {σ : Type} (methods : List (PyStr × Method σ)) (request : Json) (env : σ) : Prop :=
  ∃ fields, request = .obj fields ∧ AnswerableFields methods fields env

/-! ### Responses -/

theorem isErrorObject_errorObject (code : ℤ) (message data : PyStr) :
    IsErrorObject (.json (errorObject code message data)) :=
  ⟨⟨code, rfl⟩, message, rfl⟩

theorem isResponse_resultResponse (result id : Json) :
    IsResponse (resultResponse result id) id where
  version := rfl
  id_eq := rfl
  result_xor_error := rfl
  isErrorObject := by
    intro err herr
    cases herr

theorem isResponse_errorResponse_iff {err : PyObj} {id : Json} :
    IsResponse (errorResponse err id) id ↔ IsErrorObject err := by
  constructor
  · intro h
    exact h.isErrorObject err rfl
  · intro herr
    refine ⟨rfl, rfl, rfl, ?_⟩
    intro err' herr'
    cases herr'
    exact herr

/-! ### Which exceptions are answered -/

/-- What is returned is a response with this id. -/
def IsAnswer (id : Json) (x : Except PyExc Response) : Prop :=
  ∃ response, x = .ok response ∧ IsResponse response id

theorem isAnswer_ok_iff {id : Json} {response : Response} :
    IsAnswer id (.ok response) ↔ IsResponse response id := by
  constructor
  · rintro ⟨response', heq, hresponse⟩
    cases heq
    exact hresponse
  · intro h
    exact ⟨response, rfl, h⟩

theorem not_isAnswer_error (id : Json) (e : PyExc) : ¬ IsAnswer id (.error e) := by
  rintro ⟨response, heq, -⟩
  cases heq

/-- For a request with an id, the contract asks for a response with it. -/
theorem meetsContract_map_some_iff {request id : Json} (h : idOf request = some id)
    (x : Except PyExc Response) : MeetsContract request (x.map some) ↔ IsAnswer id x := by
  cases x with
  | error e => exact iff_of_false (fun hfalse => hfalse) (not_isAnswer_error id e)
  | ok response =>
    rw [isAnswer_ok_iff]
    unfold MeetsContract
    simp only [Except.map, h]

section handlers

variable {request id : Json}

theorem answerError_iff (hid : requestId request = .ok id) (args : List PyObj) :
    IsAnswer id (answerError request args) ↔ CarriesError args := by
  cases args with
  | nil =>
    refine iff_of_false (not_isAnswer_error id _) ?_
    rintro ⟨err, rest, heq, -⟩
    cases heq
  | cons err rest =>
    rw [answerError, hid]
    refine isAnswer_ok_iff.trans (isResponse_errorResponse_iff.trans ?_)
    constructor
    · intro herr
      exact ⟨err, rest, rfl, herr⟩
    · rintro ⟨err', rest', heq, herr⟩
      cases heq
      exact herr

/-- **Exceptions that the outer handlers answer.** -/
theorem outerHandlers_iff (hid : requestId request = .ok id) (e : PyExc) :
    IsAnswer id (outerHandlers request e) ↔ AnsweredOutside e := by
  cases e with
  | valueError args => exact answerError_iff hid args
  | attributeError args str => exact answerError_iff hid args
  | exception str =>
    cases str with
    | ok text =>
      refine iff_of_true ?_ ⟨text, rfl⟩
      rw [outerHandlers, hid]
      exact isAnswer_ok_iff.mpr (isResponse_errorResponse_iff.mpr (isErrorObject_errorObject _ _ _))
    | error e =>
      refine iff_of_false (not_isAnswer_error id e) ?_
      rintro ⟨text, heq⟩
      cases heq
  | baseException => exact iff_of_false (not_isAnswer_error id _) (fun h => h)

/-- An error object is answered wherever it is raised. -/
theorem raiseAttributeError_answers (hid : requestId request = .ok id) (code : ℤ)
    (message data : PyStr) :
    IsAnswer id (raiseAttributeError request (errorObject code message data)) :=
  (answerError_iff hid _).mpr ⟨_, [], rfl, isErrorObject_errorObject code message data⟩

theorem internalError_iff (hid : requestId request = .ok id) (str : Except PyExc PyStr) :
    IsAnswer id (internalError request str) ↔ PrintAnswered str := by
  cases str with
  | ok text =>
    refine iff_of_true (raiseAttributeError_answers hid _ _ _) ?_
    intro e heq
    cases heq
  | error e =>
    refine (outerHandlers_iff hid e).trans ?_
    constructor
    · intro he e' heq
      cases heq
      exact he
    · intro h
      exact h e rfl

/-- **Exceptions that the inner handlers answer.**  A `ValueError` without arguments is answered
because the `IndexError` of its handler goes to the outer handlers. -/
theorem innerHandlers_iff (hid : requestId request = .ok id) (e : PyExc) :
    IsAnswer id (innerHandlers request e) ↔ Answered e := by
  cases e with
  | valueError args =>
    cases args with
    | nil =>
      have houtside : AnsweredOutside (.exception (.ok (py "tuple index out of range"))) := ⟨_, rfl⟩
      exact iff_of_true ((outerHandlers_iff hid _).mpr houtside) (.inl rfl)
    | cons err rest =>
      have hanswer : innerHandlers request (.valueError (err :: rest)) =
          answerError request (err :: rest) := by
        rw [innerHandlers, answerError, hid]
        rfl
      rw [hanswer, answerError_iff hid]
      constructor
      · intro h
        exact .inr h
      · rintro (hnil | h)
        · cases hnil
        · exact h
  | attributeError args str => exact internalError_iff hid str
  | exception str => exact internalError_iff hid str
  | baseException => exact iff_of_false (not_isAnswer_error id _) (fun h => h)

end handlers

/-! ### Checks of the parameters -/

/-- What is wrong with the parameters is answered. -/
theorem answered_errorObject (code : ℤ) (message data : PyStr) :
    Answered (.valueError [.json (errorObject code message data)]) :=
  .inr ⟨_, [], rfl, isErrorObject_errorObject code message data⟩

theorem bindPositional_answered {parameters : List Parameter} {params : List Json} {e : PyExc}
    (h : bindPositional parameters params = .error e) : Answered e := by
  unfold bindPositional at h
  split at h
  · cases h
    exact answered_errorObject _ _ _
  · split at h
    · cases h
      exact answered_errorObject _ _ _
    · cases h

theorem bindKeyword_answered {parameters : List Parameter} {params : List (PyStr × Json)}
    {e : PyExc} (h : bindKeyword parameters params = .error e) : Answered e := by
  unfold bindKeyword at h
  split at h
  · cases h
    exact answered_errorObject _ _ _
  · split at h
    · cases h
      exact answered_errorObject _ _ _
    · cases h

/-- The checks of the parameters raise nothing that is not answered, if the signature does not. -/
theorem bindParams_answered_iff (signature : Except PyExc (List Parameter)) (params : Json) :
    (∀ e, bindParams signature params = .error e → Answered e) ↔
      (AreParams params → ∀ e, signature = .error e → Answered e) := by
  cases signature with
  | error e₀ =>
    cases params <;> simp [bindParams, AreParams, Except.bind, answered_errorObject]
  | ok parameters =>
    refine iff_of_true ?_ (fun _ e heq => by cases heq)
    intro e he
    cases params with
    | arr params => exact bindPositional_answered he
    | obj params => exact bindKeyword_answered he
    | _ =>
      cases he
      exact answered_errorObject _ _ _

/-- An exception of the call has to be one that is answered. -/
theorem meets_answerCall_error {request id : Json} (hid : requestId request = .ok id)
    (hidOf : idOf request = some id) (e : PyExc) :
    MeetsContract request (answerCall request (.error e)) ↔ Answered e :=
  (meetsContract_map_some_iff hidOf _).trans (innerHandlers_iff hid e)

/-- A value of the call is answered, unless there is none. -/
theorem meets_answerCall_ok {request id : Json} (hid : requestId request = .ok id)
    (hidOf : idOf request = some id) (result : Json) :
    MeetsContract request (answerCall request (.ok result)) ↔ result ≠ .null := by
  have hanswer : orElse request ((requestId request).map (resultResponse result)) =
      .ok (resultResponse result id) := by
    rw [hid]
    rfl
  cases result with
  | null => simp [answerCall, MeetsContract, hidOf]
  | _ =>
    refine iff_of_true ?_ (by simp)
    rw [answerCall, hanswer, meetsContract_map_some_iff hidOf, isAnswer_ok_iff]
    · exact isResponse_resultResponse _ _
    · simp

/-- **When the call is answered.** -/
theorem answerCall_iff {σ : Type} {request id : Json} (hid : requestId request = .ok id)
    (hidOf : idOf request = some id) (method : Method σ) (params : Json) (env : σ) :
    MeetsContract request (answerCall request (callMethod method params env).1) ↔
      MethodAnswers method params env := by
  have hsignature := bindParams_answered_iff method.signature params
  -- the parameters are refused, or the method is called with them
  unfold callMethod
  cases hbind : bindParams method.signature params with
  | error e =>
    rw [meets_answerCall_error hid hidOf]
    constructor
    · intro he
      refine ⟨hsignature.mp ?_, ?_⟩
      · intro e' he'
        rw [hbind] at he'
        cases he'
        exact he
      · intro args hargs
        rw [hbind] at hargs
        cases hargs
    · intro h
      exact hsignature.mpr h.signature e hbind
  | ok args =>
    have hargs : ∀ args', bindParams method.signature params = .ok args' → args' = args := by
      intro args' h
      rw [hbind] at h
      cases h
      rfl
    have hcall : MeetsContract request (answerCall request (method.call args env).1) ↔
        match (method.call args env).1 with
        | .ok result => result ≠ .null
        | .error e => Answered e := by
      cases (method.call args env).1 with
      | ok result => exact meets_answerCall_ok hid hidOf result
      | error e => exact meets_answerCall_error hid hidOf e
    refine hcall.trans ?_
    constructor
    · intro h
      refine ⟨hsignature.mp ?_, ?_⟩
      · intro e he
        rw [hbind] at he
        cases he
      · intro args' hargs'
        rw [hargs args' hargs']
        exact h
    · intro h
      exact h.call args hbind

/-! ### When the function does what its caller expects -/

/-- Without an id no exception is answered. -/
theorem outerHandlers_raises {request : Json} {e₀ : PyExc} (hid : requestId request = .error e₀)
    (e : PyExc) : ∃ e', outerHandlers request e = .error e' := by
  have hanswer : ∀ args, ∃ e', answerError request args = .error e' := by
    intro args
    cases args with
    | nil => exact ⟨_, rfl⟩
    | cons err rest => exact ⟨e₀, by rw [answerError, hid]; rfl⟩
  cases e with
  | valueError args => exact hanswer args
  | attributeError args str => exact hanswer args
  | exception str =>
    cases str with
    | ok text => exact ⟨e₀, by rw [outerHandlers, hid]; rfl⟩
    | error e => exact ⟨e, rfl⟩
  | baseException => exact ⟨_, rfl⟩

theorem not_meets_of_raises {request : Json} {x : Except PyExc Response}
    (h : ∃ e, x = .error e) : ¬ MeetsContract request (x.map some) := by
  obtain ⟨e, rfl⟩ := h
  exact fun hfalse => hfalse

/-- An array or a scalar has no id. -/
theorem requestId_raises {request : Json} (h : ∀ fields, request ≠ .obj fields) :
    ∃ e, requestId request = .error e := by
  cases request with
  | obj fields => exact absurd rfl (h fields)
  | _ => exact ⟨_, rfl⟩

theorem idOf_eq_some_iff {fields : List (PyStr × Json)} {id : Json} :
    idOf (.obj fields) = some id ↔ dictGet fields (py "id") = some id ∧ id ≠ .null := by
  unfold idOf
  constructor
  · intro h
    simp only at h
    split at h
    · cases h
    · refine ⟨h, ?_⟩
      rintro rfl
      contradiction
  · rintro ⟨hget, hnull⟩
    simp only
    split
    · rename_i hsome
      rw [hget] at hsome
      cases hsome
      exact absurd rfl hnull
    · exact hget

theorem requestId_of_dictGet {fields : List (PyStr × Json)} {id : Json}
    (h : dictGet fields (py "id") = some id) : requestId (.obj fields) = .ok id := by
  simp [requestId, h]

theorem meets_of_null_id {fields : List (PyStr × Json)} (h : dictGet fields (py "id") = some .null)
    (code : ℤ) (message data : PyStr) :
    MeetsContract (.obj fields)
      ((raiseAttributeError (.obj fields) (errorObject code message data)).map some) := by
  have hidOf : idOf (.obj fields) = none := by simp [idOf, h]
  rw [raiseAttributeError, answerError, requestId_of_dictGet h]
  unfold MeetsContract
  simp only [Except.map, hidOf]
  exact ⟨isResponse_errorResponse_iff.mpr (isErrorObject_errorObject code message data), rfl⟩

/-- What the checks of a request raise is an error object. -/
theorem checkRequest_error {fields : List (PyStr × Json)} {err : Json}
    (h : checkRequest fields = .error err) :
    ∃ code message data, err = errorObject code message data := by
  unfold checkRequest at h
  split at h
  · cases h
    exact ⟨_, _, _, rfl⟩
  · simp only at h
    split at h
    · cases h
      exact ⟨_, _, _, rfl⟩
    · split at h
      · cases h
      · cases h
        exact ⟨_, _, _, rfl⟩

section cases

variable {σ : Type} {methods : List (PyStr × Method σ)} {fields : List (PyStr × Json)} (env : σ)
variable {name : PyStr} {method : Method σ}

/-- A request that is not checked out, or that names no method. -/
theorem handleRequest_of_refused
    (h : ∀ name, checkRequest fields = .ok name → dictHas methods name = false) :
    ∃ code message data, handleRequest methods (.obj fields) env =
      ((raiseAttributeError (.obj fields) (errorObject code message data)).map some, env) := by
  unfold handleRequest
  cases hcheck : checkRequest fields with
  | error err =>
    obtain ⟨code, message, data, rfl⟩ := checkRequest_error hcheck
    refine ⟨code, message, data, ?_⟩
    simp only [hcheck]
    rfl
  | ok name =>
    have hmethod : dictGet methods name = none := by
      simpa [dictHas] using h name hcheck
    refine ⟨-32601, py "Method not found", py "Method " ++ name ++ py " not found.", ?_⟩
    simp only [hcheck, hmethod]

/-- A notification. -/
theorem handleRequest_of_no_id (hcheck : checkRequest fields = .ok name)
    (hmethod : dictGet methods name = some method) (hid : idOf (.obj fields) = none) :
    handleRequest methods (.obj fields) env = (.ok none, env) := by
  have hnull : (dictGet fields (py "id")).getD .null = .null := by
    by_contra hne
    cases hget : dictGet fields (py "id") with
    | none => simp [hget] at hne
    | some id =>
      rw [hget, Option.getD_some] at hne
      rw [idOf_eq_some_iff.mpr ⟨hget, hne⟩] at hid
      cases hid
  unfold handleRequest
  simp only [hcheck, hmethod, hnull]

/-- A call. -/
theorem handleRequest_of_id {id : Json} (hcheck : checkRequest fields = .ok name)
    (hmethod : dictGet methods name = some method) (hid : idOf (.obj fields) = some id) :
    (handleRequest methods (.obj fields) env).1 = answerCall (.obj fields)
      (callMethod method ((dictGet fields (py "params")).getD (.arr [])) env).1 := by
  obtain ⟨hget, hnull⟩ := idOf_eq_some_iff.mp hid
  unfold handleRequest
  simp only [hcheck, hmethod, hget, Option.getD_some]

end cases

/-- Something that is no object. -/
theorem handleRequest_of_no_object {σ : Type} (methods : List (PyStr × Method σ)) {request : Json}
    (env : σ) (h : ∀ fields, request ≠ .obj fields) :
    ∃ e, handleRequest methods request env = ((outerHandlers request e).map some, env) := by
  cases request with
  | obj fields => exact absurd rfl (h fields)
  | _ => exact ⟨_, rfl⟩

theorem answerable_obj_iff {σ : Type} {methods : List (PyStr × Method σ)}
    {fields : List (PyStr × Json)} {env : σ} :
    Answerable methods (.obj fields) env ↔ AnswerableFields methods fields env := by
  constructor
  · rintro ⟨fields', heq, h⟩
    cases heq
    exact h
  · intro h
    exact ⟨fields, rfl, h⟩

/-- A request that passes the checks and names a method. -/
theorem meets_iff_of_named {σ : Type} {methods : List (PyStr × Method σ)}
    {fields : List (PyStr × Json)} {name : PyStr} {method : Method σ} (env : σ)
    (hcheck : checkRequest fields = .ok name) (hmethod : dictGet methods name = some method) :
    MeetsContract (.obj fields) (handleRequest methods (.obj fields) env).1 ↔
      AnswerableFields methods fields env := by
  have hhas : dictHas methods name = true := by simp [dictHas, hmethod]
  cases hid : idOf (.obj fields) with
  | none =>
    -- without an id, or with `null`, there is no response, whatever the method does
    rw [handleRequest_of_no_id env hcheck hmethod hid]
    refine iff_of_true hid ⟨fun _ => ⟨name, hcheck, hhas⟩, ?_⟩
    intro id hsome
    rw [hid] at hsome
    cases hsome
  | some id =>
    obtain ⟨hget, -⟩ := idOf_eq_some_iff.mp hid
    rw [handleRequest_of_id env hcheck hmethod hid,
      answerCall_iff (requestId_of_dictGet hget) hid method _ env]
    constructor
    · intro h
      refine ⟨?_, ?_⟩
      · intro hnone
        rw [hget] at hnone
        cases hnone
      · intro id' _ name' method' hname hsome
        rw [hcheck] at hname
        cases hname
        rw [hmethod] at hsome
        cases hsome
        exact h
    · intro h
      exact h.answers id hid name method hcheck hmethod

/-- A request that does not. -/
theorem meets_iff_of_refused {σ : Type} {methods : List (PyStr × Method σ)}
    {fields : List (PyStr × Json)} (env : σ)
    (hrefused : ∀ name, checkRequest fields = .ok name → dictHas methods name = false) :
    MeetsContract (.obj fields) (handleRequest methods (.obj fields) env).1 ↔
      AnswerableFields methods fields env := by
  obtain ⟨code, message, data, heq⟩ := handleRequest_of_refused env hrefused
  rw [heq]
  cases hget : dictGet fields (py "id") with
  | none =>
    -- the handler looks for the id
    have hid : requestId (.obj fields) = .error (.exception (.ok (py "'id'"))) := by
      simp [requestId, hget]
    refine iff_of_false (not_meets_of_raises (outerHandlers_raises hid (.valueError _))) ?_
    intro h
    obtain ⟨name, hname, hhas⟩ := h.no_id hget
    rw [hrefused name hname] at hhas
    cases hhas
  | some id =>
    refine iff_of_true ?_ ⟨?_, ?_⟩
    · by_cases hnull : id = .null
      · subst hnull
        exact meets_of_null_id hget code message data
      · exact (meetsContract_map_some_iff (idOf_eq_some_iff.mpr ⟨hget, hnull⟩) _).mpr
          (raiseAttributeError_answers (requestId_of_dictGet hget) code message data)
    · intro hnone
      rw [hget] at hnone
      cases hnone
    · intro id' _ name method hname hmethod
      have hhas := hrefused name hname
      simp [dictHas, hmethod] at hhas

/-- **When `handle_request` does what its caller expects.** -/
theorem handleRequest_meets_iff {σ : Type} (methods : List (PyStr × Method σ)) (request : Json)
    (env : σ) :
    MeetsContract request (handleRequest methods request env).1 ↔
      Answerable methods request env := by
  by_cases hobj : ∃ fields, request = .obj fields
  · obtain ⟨fields, rfl⟩ := hobj
    rw [answerable_obj_iff]
    by_cases hnamed : ∃ name method, checkRequest fields = .ok name ∧
        dictGet methods name = some method
    · obtain ⟨name, method, hcheck, hmethod⟩ := hnamed
      exact meets_iff_of_named env hcheck hmethod
    · refine meets_iff_of_refused env ?_
      intro name hname
      cases hmethod : dictGet methods name with
      | none => simp [dictHas, hmethod]
      | some method => exact absurd ⟨name, method, hname, hmethod⟩ hnamed
  · obtain ⟨e₀, hid⟩ := requestId_raises (fun fields heq => hobj ⟨fields, heq⟩)
    obtain ⟨e, heq⟩ := handleRequest_of_no_object methods env (fun fields heq => hobj ⟨fields, heq⟩)
    rw [heq]
    refine iff_of_false (not_meets_of_raises (outerHandlers_raises hid e)) ?_
    rintro ⟨fields, heq, -⟩
    exact hobj ⟨fields, heq⟩

/-- A method without parameters that does this. -/
def constantMethod (result : Except PyExc Json) : Method Unit where
  signature := .ok []
  call _ env := (result, env)

/-- A call of the method `f`. -/
def callOfF : Json :=
  .obj [(py "jsonrpc", .str (py "2.0")), (py "method", .str (py "f")), (py "id", .int 1)]

/-- An array and an object without an id make `handle_request` raise; a call of a method that
returns `None` gets no response; and that of a method that raises a `ValueError` with a text gets
one whose error is this text. -/
theorem handleRequest_breaks_contract :
    (¬ MeetsContract (.arr []) (handleRequest ([] : List (PyStr × Method Unit)) (.arr []) ()).1) ∧
    (¬ MeetsContract (.obj []) (handleRequest ([] : List (PyStr × Method Unit)) (.obj []) ()).1) ∧
    (¬ MeetsContract callOfF (handleRequest [(py "f", constantMethod (.ok .null))] callOfF ()).1) ∧
    ¬ MeetsContract callOfF
      (handleRequest [(py "f", constantMethod (.error (.valueError [.json (.str (py "x"))])))]
        callOfF ()).1 := by
  refine ⟨fun h => h, fun h => h, ?_, ?_⟩
  · intro h
    cases h
  · intro h
    exact h.isErrorObject _ rfl

end Redes
