import Redes.JsonRpc.Client
import Redes.JsonRpc.Invocation
import Redes.JsonRpc.Session

/-!
# A remote call

What becomes of the arguments of `conn.name(*args, **kwargs)`.  Under a name that it has itself the
client finds something else to call.  For every other name `__getattr__` makes a function that puts
`args or kwargs` into a request; the server runs the function of that name with what it finds
there, and the client returns or raises what the answer says.  The answer is one to this request,
and comes in time.

## Main definitions

* `clientMethod` — the function that `__getattr__` makes, with what it does in the server.
* `OwnAttributes` — what the client has itself.
* `remoteCall` — the call.
* `KeepsArguments` — what the caller expects.
* `TextsReadBack` — what `json` does with the texts of a call.
* `RaisesAtClient` — the functions that make a call raise.

## Main results

* `innerHandlers_written` — the exceptions of which the client hears.
* `clientMethod_of_read` — what `__getattr__` makes, in terms of `handle_request`.
* `keepsArguments_iff` — when the caller gets what is expected.
-/

namespace Redes

/-! ### The call -/

/-- A response as a value, without what cannot be written. -/
def responseJson (response : Response) : Json :=
  .obj (response.filterMap fun (key, value) =>
    match value with
    | .json j => some (key, j)
    | .other => none)

/-- `json_data` without an id. -/
def notificationJson (name : PyStr) (args : List Json) (kwargs : List (PyStr × Json)) : Json :=
  .obj [(py "jsonrpc", .str (py "2.0")), (py "method", .str name),
    (py "params", if args = [] then .obj kwargs else .arr args)]

/-! ### What the client has itself -/

/-- How the call of an attribute of the client ends. -/
inductive OwnOutcome
  /-- It returns something. -/
  | returned
  /-- It raises an exception. -/
  | raised
  /-- It does not end. -/
  | endless
  deriving DecidableEq

/-- What Python finds on the client under a name, before it asks `__getattr__`, if there is
anything: how the call of it ends, and the state of the server behind it. -/
abbrev OwnLookup (σ : Type) :=
  PyStr → List Json → List (PyStr × Json) → Recording σ → Option (OwnOutcome × Recording σ)

/-- The names to which `__init__` binds data. -/
def clientFields : List PyStr :=
  [py "address", py "port", py "connected", py "socket", py "new_message", py "timeout"]

/-- The methods of `Client`.  An object has others from Python, such as `__str__`. -/
def clientMethods : List PyStr :=
  [py "__init__", py "__getattr__", py "sendMessage", py "receiveMessage", py "close"]

/-- What is known of the attributes of a client.  Only `sendMessage` sends anything to the server,
its argument, and no request has its own text among its parameters. -/
structure OwnAttributes {σ : Type} (own : OwnLookup σ) : Prop where
  /-- Data cannot be called. -/
  fields : ∀ name ∈ clientFields, ∀ args kwargs s, own name args kwargs s = some (.raised, s)
  /-- The methods are found. -/
  methods : ∀ name ∈ clientMethods, ∀ args kwargs s, own name args kwargs s ≠ none
  /-- `close` closes the connection, and has no parameters. -/
  close : ∀ args kwargs s, own (py "close") args kwargs s =
    some (if args = [] ∧ kwargs = [] then .returned else .raised, s)
  /-- The function of the name is not run with the arguments. -/
  not_run : ∀ name args kwargs s outcome s', own name args kwargs s = some (outcome, s') →
    s'.invocations ≠ s.invocations ++ [⟨name, args, kwargs⟩]

/-- The call ends, with an exception. -/
def Raised (outcome : Option CallOutcome) : Prop := ∃ o, outcome = some o ∧ ∀ v, o ≠ .value v

/-- How a call ends. -/
inductive RemoteOutcome
  /-- With what is made of an answer, or not at all. -/
  | answered (outcome : Option CallOutcome)
  /-- As the call of an attribute of the client does. -/
  | own (outcome : OwnOutcome)

/-- It returns something. -/
def RemoteOutcome.Returned : RemoteOutcome → Prop
  | .answered outcome => ∃ v, outcome = some (.value v)
  | .own outcome => outcome = .returned

/-- It raises an exception. -/
def RemoteOutcome.Raises : RemoteOutcome → Prop
  | .answered outcome => Raised outcome
  | .own outcome => outcome = .raised

/-! ### The call of a function of the server -/

section RemoteCall

-- `json.loads` and `json.dumps`
variable {σ : Type} (loads : List Char → Option Json) (dumps : Json → List Char)

/-- What the call makes of what the server has done with the request.  If nothing is sent, then the
timeout ends the reading of nothing.  If the connection is closed, `recv` returns nothing again and
again, and the call does not end. -/
def readOutcome (session : Session (Recording σ)) (goesOn : Bool) : Option CallOutcome :=
  match session.sent with
  | response :: _ => some (callOutcome loads (dumps (responseJson response)))
  | [] => if goesOn then some (callOutcome loads []) else none

/-- `method(*args, **kwargs)`, which `__getattr__` returns for a name, without `notify`: what it
returns or raises, and the state of the server behind it. -/
def clientMethod (functions : List (PyStr × PyFunction σ)) (name : PyStr) (args : List Json)
    (kwargs : List (PyStr × Json)) (id : ℕ) (s : Recording σ) :
    Option CallOutcome × Recording σ :=
  let (session, goesOn) :=
    serveText loads (registered functions) (dumps (requestJson name args kwargs id)) ⟨s, []⟩
  (readOutcome loads dumps session goesOn, session.env)

/-- A call of `method` with a true `notify`: it returns `None` once the request is sent. -/
def clientNotification (functions : List (PyStr × PyFunction σ)) (name : PyStr) (args : List Json)
    (kwargs : List (PyStr × Json)) (s : Recording σ) : Option CallOutcome × Recording σ :=
  let (session, _) := serveText loads (registered functions)
    (dumps (notificationJson name args kwargs)) ⟨s, []⟩
  (some (.value .null), session.env)

/-- `conn.name(*args, **kwargs)`.  What the client has itself comes first; `__getattr__` is asked
for the other names, and its function takes `notify` out of the keyword arguments. -/
def remoteCall (own : OwnLookup σ) (functions : List (PyStr × PyFunction σ)) (name : PyStr)
    (args : List Json) (kwargs : List (PyStr × Json)) (id : ℕ) (s : Recording σ) :
    RemoteOutcome × Recording σ :=
  match own name args kwargs s with
  | some (outcome, s') => (.own outcome, s')
  | none =>
      let named := dictErase kwargs (py "notify")
      let notify := (dictGet kwargs (py "notify")).getD (.bool false)
      let (outcome, s') :=
        if notify.truthy = true then clientNotification loads dumps functions name args named s
        else clientMethod loads dumps functions name args named id s
      (.answered outcome, s')

/-- What the caller expects: if the call returns a value, then the function has run, once, with the
arguments of the call.  If there are both positional and keyword arguments, which a request cannot
carry, then the call raises. -/
structure KeepsArguments (own : OwnLookup σ) (functions : List (PyStr × PyFunction σ))
    (name : PyStr) (args : List Json) (kwargs : List (PyStr × Json)) (id : ℕ)
    (s : Recording σ) : Prop where
  /-- A value. -/
  executed : (remoteCall loads dumps own functions name args kwargs id s).1.Returned →
    (remoteCall loads dumps own functions name args kwargs id s).2.invocations =
      s.invocations ++ [⟨name, args, kwargs⟩]
  /-- Both kinds of arguments. -/
  raises : args ≠ [] → kwargs ≠ [] →
    (remoteCall loads dumps own functions name args kwargs id s).1.Raises

/-- What is written in a call is read back, and a text of no characters is no JSON. -/
structure TextsReadBack (functions : List (PyStr × PyFunction σ)) (name : PyStr)
    (args : List Json) (kwargs : List (PyStr × Json)) (id : ℕ) (s : Recording σ) : Prop where
  /-- The request. -/
  request : loads (dumps (requestJson name args kwargs id)) =
    some (requestJson name args kwargs id)
  /-- The response. -/
  response : ∀ response,
    (handleRequest (registered functions) (requestJson name args kwargs id) s).1 =
      .ok (some response) → loads (dumps (responseJson response)) = some (responseJson response)
  /-- No text. -/
  nil : loads [] = none

end RemoteCall

/-! ### What reaches the client -/

/-- The outer handlers make of the exception a response that can be written. -/
def WritableOutside : PyExc → Prop
  | .valueError args => ∃ j rest, args = .json j :: rest
  | .attributeError args _ => ∃ j rest, args = .json j :: rest
  | .exception str => ∃ text, str = .ok text
  | .baseException => False

/-- The handlers make of the exception a response that can be written. -/
def Writable : PyExc → Prop
  | .valueError args => args = [] ∨ ∃ j rest, args = .json j :: rest
  | .attributeError _ str => ∀ e, str = .error e → WritableOutside e
  | .exception str => ∀ e, str = .error e → WritableOutside e
  | .baseException => False

/-- A function that ends so makes the call raise: it returns `None`, or what it raises is answered
with a response that can be written. -/
def RaisesAtClient : Except PyExc Json → Prop
  | .ok .null => True
  | .ok _ => False
  | .error e => Writable e

/-- The handlers raise something, or they answer with an error and the id; it is a response that can
be written exactly in the case `P`. -/
def WrittenIf (id : Json) (P : Prop) (x : Except PyExc Response) : Prop :=
  (¬ P ∧ ∃ e, x = .error e) ∨ ∃ err, x = .ok (errorResponse err id) ∧ (P ↔ ∃ j, err = .json j)

section Handlers

variable {request id : Json}

theorem answerError_written (hid : requestId request = .ok id) (args : List PyObj) :
    WrittenIf id (∃ j rest, args = .json j :: rest) (answerError request args) := by
  cases args with
  | nil => exact .inl ⟨by simp, _, rfl⟩
  | cons err rest =>
    rw [answerError, hid]
    exact .inr ⟨err, rfl, by simp⟩

theorem outerHandlers_written (hid : requestId request = .ok id) (e : PyExc) :
    WrittenIf id (WritableOutside e) (outerHandlers request e) := by
  cases e with
  | valueError args => exact answerError_written hid args
  | attributeError args str => exact answerError_written hid args
  | exception str =>
    cases str with
    | ok text =>
      rw [outerHandlers, hid]
      exact .inr ⟨_, rfl, iff_of_true ⟨text, rfl⟩ ⟨_, rfl⟩⟩
    | error e =>
      refine .inl ⟨?_, e, rfl⟩
      rintro ⟨text, heq⟩
      cases heq
  | baseException => exact .inl ⟨fun h => h, _, rfl⟩

theorem internalError_written (hid : requestId request = .ok id) (str : Except PyExc PyStr) :
    WrittenIf id (∀ e, str = .error e → WritableOutside e) (internalError request str) := by
  cases str with
  | ok text =>
    rw [internalError, raiseAttributeError, answerError, hid]
    exact .inr ⟨_, rfl, iff_of_true (fun e heq => by cases heq) ⟨_, rfl⟩⟩
  | error e =>
    have hiff : (∀ e', Except.error (α := PyStr) e = .error e' → WritableOutside e') ↔
        WritableOutside e := by simp
    rw [hiff]
    exact outerHandlers_written hid e

/-- **The exceptions of which the client hears.** -/
theorem innerHandlers_written (hid : requestId request = .ok id) (e : PyExc) :
    WrittenIf id (Writable e) (innerHandlers request e) := by
  cases e with
  | valueError args =>
    cases args with
    | nil =>
      -- the `IndexError` of the handler is one of the exceptions that the outer handlers answer
      have houtside : WrittenIf id
          (WritableOutside (.exception (.ok (py "tuple index out of range"))))
          (outerHandlers request (.exception (.ok (py "tuple index out of range")))) :=
        outerHandlers_written hid _
      have hiff : Writable (.valueError []) ↔
          WritableOutside (.exception (.ok (py "tuple index out of range"))) :=
        iff_of_true (.inl rfl) ⟨_, rfl⟩
      rw [hiff]
      exact houtside
    | cons err rest =>
      have hanswer : innerHandlers request (.valueError (err :: rest)) =
          answerError request (err :: rest) := by
        rw [innerHandlers, answerError, hid]
        rfl
      have hiff : Writable (.valueError (err :: rest)) ↔
          ∃ j rest', err :: rest = PyObj.json j :: rest' := by simp [Writable]
      rw [hanswer, hiff]
      exact answerError_written hid _
  | attributeError args str => exact internalError_written hid str
  | exception str => exact internalError_written hid str
  | baseException => exact .inl ⟨fun h => h, _, rfl⟩

end Handlers

/-! ### The call in terms of `handle_request` -/

section Reading

variable {σ : Type} {loads : List Char → Option Json} {dumps : Json → List Char}
variable {functions : List (PyStr × PyFunction σ)} {name : PyStr} {args : List Json}
variable {kwargs : List (PyStr × Json)} {id : ℕ} {s : Recording σ}

/-- What the call makes of what `handle_request` returns or raises. -/
def outcomeOf (loads : List Char → Option Json) (dumps : Json → List Char) :
    Except PyExc (Option Response) → Option CallOutcome
  | .error _ => none
  | .ok none => some (callOutcome loads [])
  | .ok (some response) =>
      if response.serializable = true then some (callOutcome loads (dumps (responseJson response)))
      else none

theorem clientMethod_of_read
    (hrequest : loads (dumps (requestJson name args kwargs id)) =
      some (requestJson name args kwargs id)) :
    clientMethod loads dumps functions name args kwargs id s =
      (outcomeOf loads dumps
        (handleRequest (registered functions) (requestJson name args kwargs id) s).1,
       (handleRequest (registered functions) (requestJson name args kwargs id) s).2) := by
  unfold clientMethod serveText
  simp only [hrequest]
  rcases handleRequest (registered functions) (requestJson name args kwargs id) s with
    ⟨_ | _ | response, s'⟩
  · rfl
  · rfl
  · simp only [outcomeOf]
    split <;> rfl

theorem outcomeOf_result {v j : Json}
    (hread : loads (dumps (responseJson (resultResponse v j))) =
      some (responseJson (resultResponse v j))) :
    outcomeOf loads dumps (.ok (some (resultResponse v j))) = some (.value v) := by
  show some (callOutcome loads (dumps _)) = _
  unfold callOutcome
  rw [hread]
  rfl

theorem outcomeOf_error {err : PyObj} {j : Json}
    (hread : loads (dumps (responseJson (errorResponse err j))) =
      some (responseJson (errorResponse err j))) :
    Raised (outcomeOf loads dumps (.ok (some (errorResponse err j)))) ↔ ∃ e, err = .json e := by
  cases err with
  | other => exact iff_of_false (by rintro ⟨o, heq, -⟩; cases heq) (by simp)
  | json e =>
    refine iff_of_true ?_ ⟨e, rfl⟩
    show Raised (some (callOutcome loads (dumps _)))
    unfold callOutcome
    rw [hread]
    refine ⟨_, rfl, ?_⟩
    intro v
    cases e <;> simp [responseOutcome, responseJson, errorResponse, dictGet, List.lookup_cons, py]

/-- **When the call raises**, in terms of what the function returns or raises. -/
theorem raised_answerCall_iff {request j : Json} (hid : requestId request = .ok j)
    (hnil : loads [] = none) {result : Except PyExc Json}
    (hread : ∀ response, answerCall request result = .ok (some response) →
      loads (dumps (responseJson response)) = some (responseJson response)) :
    Raised (outcomeOf loads dumps (answerCall request result)) ↔ RaisesAtClient result := by
  cases result with
  | error e =>
    show _ ↔ Writable e
    have hanswer : answerCall request (.error e) = (innerHandlers request e).map some := rfl
    rw [hanswer] at hread ⊢
    rcases innerHandlers_written hid e with ⟨hnot, e', herror⟩ | ⟨err, hok, hiff⟩
    · rw [herror]
      exact iff_of_false (by rintro ⟨o, heq, -⟩; cases heq) hnot
    · rw [hok] at hread ⊢
      rw [hiff]
      exact outcomeOf_error (hread _ rfl)
  | ok v =>
    by_cases hnull : v = .null
    · subst hnull
      refine iff_of_true ?_ trivial
      show Raised (some (callOutcome loads []))
      unfold callOutcome
      rw [hnil]
      exact ⟨_, rfl, by simp⟩
    · have hanswer : answerCall request (.ok v) = .ok (some (resultResponse v j)) := by
        rw [answerCall, hid]
        · rfl
        · exact hnull
      have hnot : ¬ RaisesAtClient (.ok v) := by
        cases v with
        | null => exact absurd rfl hnull
        | _ => exact fun h => h
      rw [hanswer] at hread ⊢
      rw [outcomeOf_result (hread _ rfl)]
      refine iff_of_false ?_ hnot
      rintro ⟨o, heq, hne⟩
      cases heq
      exact hne v rfl

theorem not_raised_value (v : Json) : ¬ Raised (some (.value v)) := by
  rintro ⟨o, heq, hne⟩
  cases heq
  exact hne v rfl

/-! ### When the caller gets what is expected -/

/-- The arguments that the server finds in the request. -/
def sentArgs (args : List Json) (kwargs : List (PyStr × Json)) : CallArgs :=
  if args = [] then .keyword kwargs else .positional args

/-- They are the arguments of the call unless there are both kinds. -/
theorem invocation_sentArgs (h : args = [] ∨ kwargs = []) :
    invocation name (sentArgs args kwargs) = ⟨name, args, kwargs⟩ := by
  unfold sentArgs
  rcases h with rfl | rfl
  · rfl
  · cases args <;> rfl

theorem checkRequest_requestJson (name : PyStr) (params id : Json) :
    checkRequest [(py "jsonrpc", .str (py "2.0")), (py "method", .str name),
      (py "params", params), (py "id", id)] =
        if name = [] then
          .error (errorObject (-32600) (py "Invalid Request") (py "The method name is missing."))
        else .ok name := by
  cases name <;> rfl

/-- A request of the client, with what becomes of its arguments. -/
theorem handleRequest_requestJson {f : PyFunction σ} (hfunction : dictGet functions name = some f)
    (hname : name ≠ []) (args : List Json) (kwargs : List (PyStr × Json)) (id : ℕ)
    (s : Recording σ) :
    handleRequest (registered functions) (requestJson name args kwargs id) s =
      (answerCall (requestJson name args kwargs id)
        (callMethod (f.method name) (sentArgs args kwargs).json s).1,
       (callMethod (f.method name) (sentArgs args kwargs).json s).2) := by
  have hparams : (sentArgs args kwargs).json =
      if args = [] then .obj kwargs else .arr args := by
    unfold sentArgs
    split <;> rfl
  have hcheck := checkRequest_requestJson name (if args = [] then .obj kwargs else .arr args)
    (.int id)
  rw [if_neg hname] at hcheck
  rw [hparams]
  exact handleRequest_call s hcheck (dictGet_registered hfunction) rfl

/-- A call of a method without a name raises. -/
theorem raised_of_no_name (htexts : TextsReadBack loads dumps functions [] args kwargs id s) :
    Raised (clientMethod loads dumps functions [] args kwargs id s).1 := by
  have hanswer : ∃ err, (handleRequest (registered functions) (requestJson [] args kwargs id) s).1 =
      .ok (some (errorResponse (.json err) (.int id))) := ⟨_, rfl⟩
  obtain ⟨err, hanswer⟩ := hanswer
  rw [clientMethod_of_read htexts.request, hanswer]
  exact (outcomeOf_error (htexts.response _ hanswer)).mpr ⟨err, rfl⟩

/-- **When a call raises**, in terms of what the function does with the arguments it is sent. -/
theorem raised_clientMethod_iff {f : PyFunction σ} (hfunction : dictGet functions name = some f)
    (hname : name ≠ []) (htexts : TextsReadBack loads dumps functions name args kwargs id s) :
    Raised (clientMethod loads dumps functions name args kwargs id s).1 ↔
      ∀ bounds, f.signature.bind (sentArgs args kwargs) = some bounds →
        RaisesAtClient (f.body bounds s.env).1 := by
  have hrequest := handleRequest_requestJson hfunction hname args kwargs id s
  have hresponse := htexts.response
  rw [hrequest] at hresponse
  rw [clientMethod_of_read htexts.request, hrequest]
  refine (raised_answerCall_iff (j := .int id) rfl htexts.nil hresponse).trans ?_
  rcases callMethod_cases name f (sentArgs args kwargs) s with ⟨bounds, hbind, heq⟩ |
    ⟨hbind, -, message, data, heq⟩ | ⟨hbind, -, heq⟩
  · rw [heq, hbind]
    simp
  · rw [heq, hbind]
    exact iff_of_true (.inr ⟨_, [], rfl⟩) (by simp)
  · rw [heq, hbind]
    refine iff_of_true ?_ (by simp)
    intro e he
    cases he

/-- A call that returns a value has run the function once, with the arguments that were sent. -/
theorem executed_of_value {f : PyFunction σ} (hfunction : dictGet functions name = some f)
    (htexts : TextsReadBack loads dumps functions name args kwargs id s) {v : Json}
    (hvalue : (clientMethod loads dumps functions name args kwargs id s).1 = some (.value v)) :
    (clientMethod loads dumps functions name args kwargs id s).2.invocations =
      s.invocations ++ [invocation name (sentArgs args kwargs)] := by
  have hnot : ¬ Raised (clientMethod loads dumps functions name args kwargs id s).1 := by
    rw [hvalue]
    exact not_raised_value v
  have hname : name ≠ [] := by
    rintro rfl
    exact hnot (raised_of_no_name htexts)
  rw [raised_clientMethod_iff hfunction hname htexts] at hnot
  push Not at hnot
  obtain ⟨bounds, hbind, -⟩ := hnot
  rw [clientMethod_of_read htexts.request, handleRequest_requestJson hfunction hname]
  rcases callMethod_cases name f (sentArgs args kwargs) s with ⟨bounds, -, heq⟩ |
    ⟨hnone, -⟩ | ⟨hnone, -⟩
  · rw [heq]
  · rw [hbind] at hnone
    cases hnone
  · rw [hbind] at hnone
    cases hnone

/-- What the function that `__getattr__` makes does as expected. -/
theorem clientMethod_keeps_iff {f : PyFunction σ} (hfunction : dictGet functions name = some f)
    (htexts : TextsReadBack loads dumps functions name args kwargs id s) :
    ((∀ v, (clientMethod loads dumps functions name args kwargs id s).1 = some (.value v) →
        (clientMethod loads dumps functions name args kwargs id s).2.invocations =
          s.invocations ++ [⟨name, args, kwargs⟩]) ∧
      (args ≠ [] → kwargs ≠ [] →
        Raised (clientMethod loads dumps functions name args kwargs id s).1)) ↔
      args = [] ∨ kwargs = [] ∨ name = [] ∨
        ∀ bounds, f.signature.bind (.positional args) = some bounds →
          RaisesAtClient (f.body bounds s.env).1 := by
  by_cases hkind : args = [] ∨ kwargs = []
  · refine iff_of_true ⟨?_, ?_⟩ (by tauto)
    · intro v hvalue
      rw [executed_of_value hfunction htexts hvalue, invocation_sentArgs hkind]
    · intro hargs hkwargs
      exact absurd hkind (not_or.mpr ⟨hargs, hkwargs⟩)
  · -- the keyword arguments are not sent, so that the call has to raise
    obtain ⟨hargs, hkwargs⟩ := not_or.mp hkind
    have hsent : sentArgs args kwargs = .positional args := if_neg hargs
    rw [or_iff_right hargs, or_iff_right hkwargs]
    have hraised : ((∀ v,
        (clientMethod loads dumps functions name args kwargs id s).1 = some (.value v) →
          (clientMethod loads dumps functions name args kwargs id s).2.invocations =
            s.invocations ++ [⟨name, args, kwargs⟩]) ∧
        (args ≠ [] → kwargs ≠ [] →
          Raised (clientMethod loads dumps functions name args kwargs id s).1)) ↔
          Raised (clientMethod loads dumps functions name args kwargs id s).1 := by
      refine ⟨fun h => h.2 hargs hkwargs, fun h => ⟨?_, fun _ _ => h⟩⟩
      intro v hvalue
      rw [hvalue] at h
      exact absurd h (not_raised_value v)
    rw [hraised]
    by_cases hname : name = []
    · subst hname
      exact iff_of_true (raised_of_no_name htexts) (.inl rfl)
    · rw [or_iff_right hname, raised_clientMethod_iff hfunction hname htexts, hsent]

/-- A call without `notify` of a name that the client does not have. -/
theorem remoteCall_of_none {own : OwnLookup σ} (hnone : own name args kwargs s = none)
    (hnotify : dictGet kwargs (py "notify") = none) :
    remoteCall loads dumps own functions name args kwargs id s =
      (.answered (clientMethod loads dumps functions name args kwargs id s).1,
        (clientMethod loads dumps functions name args kwargs id s).2) := by
  have herase : dictErase kwargs (py "notify") = kwargs := by
    refine List.filter_eq_self.mpr fun field hfield => decide_eq_true ?_
    intro heq
    have hne := List.lookup_eq_none_iff.mp hnotify field hfield
    rw [heq, bne_self_eq_false] at hne
    cases hne
  unfold remoteCall
  rw [hnone, herase, hnotify]
  rfl

/-- **When the caller gets what is expected**: the client has no such attribute itself, and there is
only one kind of arguments, or the function called with the positional arguments alone makes the
call raise; or the call of the attribute that the client has raises, or does not end. -/
theorem keepsArguments_iff {own : OwnLookup σ} (hown : OwnAttributes own) {f : PyFunction σ}
    (hfunction : dictGet functions name = some f)
    (hnotify : dictGet kwargs (py "notify") = none)
    (htexts : TextsReadBack loads dumps functions name args kwargs id s) :
    KeepsArguments loads dumps own functions name args kwargs id s ↔
      (own name args kwargs s = none ∧
        (args = [] ∨ kwargs = [] ∨ name = [] ∨
          ∀ bounds, f.signature.bind (.positional args) = some bounds →
            RaisesAtClient (f.body bounds s.env).1)) ∨
      ∃ outcome s', own name args kwargs s = some (outcome, s') ∧ outcome ≠ .returned ∧
        (args ≠ [] → kwargs ≠ [] → outcome = .raised) := by
  cases hlookup : own name args kwargs s with
  | none =>
    have hcall : remoteCall loads dumps own functions name args kwargs id s =
        (.answered (clientMethod loads dumps functions name args kwargs id s).1,
          (clientMethod loads dumps functions name args kwargs id s).2) :=
      remoteCall_of_none hlookup hnotify
    rw [or_iff_left (by simp), and_iff_right rfl, ← clientMethod_keeps_iff hfunction htexts]
    constructor
    · intro h
      have hexecuted := h.executed
      have hraises := h.raises
      rw [hcall] at hexecuted hraises
      exact ⟨fun v hv => hexecuted ⟨v, hv⟩, hraises⟩
    · rintro ⟨hexecuted, hraises⟩
      refine ⟨?_, ?_⟩ <;> rw [hcall]
      · rintro ⟨v, hv⟩
        exact hexecuted v hv
      · exact hraises
  | some found =>
    obtain ⟨outcome, s'⟩ := found
    have hcall : remoteCall loads dumps own functions name args kwargs id s =
        (.own outcome, s') := by
      unfold remoteCall
      rw [hlookup]
    have hnot := hown.not_run name args kwargs s outcome s' hlookup
    rw [or_iff_right (by simp)]
    constructor
    · intro h
      have hexecuted := h.executed
      have hraises := h.raises
      rw [hcall] at hexecuted hraises
      exact ⟨outcome, s', rfl, fun heq => hnot (hexecuted heq), hraises⟩
    · rintro ⟨outcome', s'', heq, hne, hraises⟩
      cases heq
      refine ⟨?_, ?_⟩ <;> rw [hcall]
      · exact fun heq => absurd heq hne
      · exact hraises

end Reading

/-! ### A call, for examples -/

/-- `def f(a, b=0)`. -/
def optionalSignature : Signature where
  parameters := [⟨py "a", .positionalOrKeyword, false⟩, ⟨py "b", .positionalOrKeyword, true⟩]
  kinds_sorted := by decide
  stars_single := by decide
  names_nodup := by decide
  defaults_last := by decide
  stars_no_default := by decide

/-- The id of the request. -/
def sampleId : ℕ := 302240678275694148452352

/-- The request of `conn.f(1)`, as a text. -/
def sampleRequest : List Char :=
  "\x7b\"jsonrpc\": \"2.0\", \"method\": \"f\", \"params\": [1], ".toList ++
    "\"id\": 302240678275694148452352\x7d".toList

/-- The answer to it. -/
def sampleResponse : List Char :=
  "\x7b\"jsonrpc\": \"2.0\", \"result\": 1, \"id\": 302240678275694148452352\x7d".toList

/-- `json.dumps` on the request and its answer. -/
def sampleDumps : Json → List Char
  | .obj fields => if dictHas fields (py "method") = true then sampleRequest else sampleResponse
  | _ => []

/-- `json.loads` on these texts, and on texts that are no JSON. -/
def sampleLoads (text : List Char) : Option Json :=
  if text = sampleRequest then some (requestJson (py "f") [.int 1] [] sampleId)
  else if text = sampleResponse then
    some (responseJson (resultResponse (.int 1) (.int sampleId)))
  else none

/-- The texts of `conn.f(1)` are those of `conn.f(1, **kwargs)`. -/
theorem sample_textsReadBack (kwargs : List (PyStr × Json)) :
    TextsReadBack sampleLoads sampleDumps (onlyF optionalSignature) (py "f") [.int 1] kwargs
      sampleId nothingRun where
  request := if_pos rfl
  response := by
    intro response hresponse
    have hanswer : (handleRequest (registered (onlyF optionalSignature))
        (requestJson (py "f") [.int 1] kwargs sampleId) nothingRun).1 =
          .ok (some (resultResponse (.int 1) (.int sampleId))) := rfl
    rw [hanswer] at hresponse
    cases hresponse
    have hne : sampleResponse ≠ sampleRequest := by decide
    exact (if_neg hne).trans (if_pos rfl)
  nil := by decide

/-- What a client has itself, and what its methods do without arguments. -/
def sampleOwn : OwnLookup Unit := fun name args kwargs s =>
  if name ∈ clientFields ++ clientMethods then
    some (if name = py "close" ∧ args = [] ∧ kwargs = [] then .returned else .raised, s)
  else none

theorem sample_ownAttributes : OwnAttributes sampleOwn where
  fields := by
    intro name hname args kwargs s
    have hne : name ≠ py "close" := by
      rintro rfl
      revert hname
      decide
    rw [sampleOwn, if_pos (List.mem_append_left clientMethods hname), if_neg fun h => hne h.1]
  methods := by
    intro name hname args kwargs s
    rw [sampleOwn, if_pos (List.mem_append_right clientFields hname)]
    exact Option.some_ne_none _
  close := by
    intro args kwargs s
    have hmem : py "close" ∈ clientFields ++ clientMethods := by decide
    simp only [sampleOwn, hmem, if_true, true_and]
  not_run := by
    intro name args kwargs s outcome s' hlookup
    unfold sampleOwn at hlookup
    split at hlookup
    · cases hlookup
      simp
    · cases hlookup

/-- `conn.f(1)` runs `f(1)`. -/
theorem keepsArguments_positional :
    KeepsArguments sampleLoads sampleDumps sampleOwn (onlyF optionalSignature) (py "f") [.int 1] []
      sampleId nothingRun :=
  (keepsArguments_iff sample_ownAttributes rfl rfl (sample_textsReadBack [])).mpr
    (.inl ⟨by decide, .inr (.inl rfl)⟩)

/-- `conn.f(1, b=2)` returns what `f(1)` returns, and `b` has not been sent. -/
theorem not_keepsArguments_mixed :
    dictGet (onlyF optionalSignature) (py "f") = some (returnFirst optionalSignature) ∧
    OwnAttributes sampleOwn ∧
    TextsReadBack sampleLoads sampleDumps (onlyF optionalSignature) (py "f") [.int 1]
      [(py "b", .int 2)] sampleId nothingRun ∧
    (remoteCall sampleLoads sampleDumps sampleOwn (onlyF optionalSignature) (py "f") [.int 1]
      [(py "b", .int 2)] sampleId nothingRun).1 = .answered (some (.value (.int 1))) ∧
    ¬ KeepsArguments sampleLoads sampleDumps sampleOwn (onlyF optionalSignature) (py "f") [.int 1]
      [(py "b", .int 2)] sampleId nothingRun := by
  have htexts := sample_textsReadBack [(py "b", .int 2)]
  have hlookup : sampleOwn (py "f") [.int 1] [(py "b", .int 2)] nothingRun = none := by decide
  have hcall : remoteCall sampleLoads sampleDumps sampleOwn (onlyF optionalSignature) (py "f")
      [.int 1] [(py "b", .int 2)] sampleId nothingRun = (.answered _, _) :=
    remoteCall_of_none hlookup (by decide)
  have hvalue : (clientMethod sampleLoads sampleDumps (onlyF optionalSignature) (py "f") [.int 1]
      [(py "b", .int 2)] sampleId nothingRun).1 = some (.value (.int 1)) := by
    rw [clientMethod_of_read htexts.request]
    exact outcomeOf_result (htexts.response _ rfl)
  refine ⟨rfl, sample_ownAttributes, htexts, by rw [hcall, hvalue], ?_⟩
  intro h
  have hexecuted := executed_of_value rfl htexts hvalue
  have hexpected := h.executed
  rw [hcall] at hexpected
  rw [hexpected ⟨_, hvalue⟩] at hexecuted
  -- the function has run without keyword arguments
  cases hexecuted

end Redes
