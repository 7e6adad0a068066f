import Redes.JsonRpc.Reader
import Redes.JsonRpc.Request

/-!
# The calls of a client

A call sends a request, reads a message and returns or raises what the message says.  The id of the
request is generated and sent, and is not compared with the id of the message.  The server answers
the requests in order, and the network delivers its answers at any time.

## Main definitions

* `requestJson`, `callOutcome` — what a call sends, and what it makes of a message.
* `Call`, `ClientState`, `CallStep`, `ClientRun` — the calls of a client.
* `ServerAnswers` — what the server does.
* `Paired` — what the caller expects.
* `NothingUnread` — the state in which a call gets this.

## Main results

* `readTurn_text` — what is read has been received.
* `callStep_paired` — one call.
* `answers_are_paired` — the calls of a run.
-/

namespace Redes

open Cut

/-! ### A call -/

/-- `json_data`; `args or kwargs` are the parameters. -/
def requestJson (name : PyStr) (args : List Json) (kwargs : List (PyStr × Json)) (id : ℕ) : Json :=
  .obj [(py "jsonrpc", .str (py "2.0")), (py "method", .str name),
    (py "params", if args = [] then .obj kwargs else .arr args), (py "id", .int id)]

/-- What a call returns or raises. -/
inductive CallOutcome
  /-- It returns the result. -/
  | value (result : Json)
  /-- It raises `JSONRPCError`. -/
  | jsonrpcError (code message : Json)
  /-- It raises another exception. -/
  | other

/-- What a call makes of a response.  If this is no object, then `in` or the access to it raises an
exception, or there is no result in it. -/
def responseOutcome : Json → CallOutcome
  | .obj response =>
      match dictGet response (py "error") with
      | some (.obj err) =>
          .jsonrpcError ((dictGet err (py "code")).getD (.str (py "Unknown code")))
            ((dictGet err (py "message")).getD (.str (py "Unknown error message")))
      | some _ => .other
      | none =>
          match dictGet response (py "result") with
          | some result => .value result
          | none => .other
  | _ => .other

/-- What a call makes of a text.  The parameter `loads` is `json.loads`. -/
def callOutcome (loads : List Char → Option Json) (response : List Char) : CallOutcome :=
  match loads response with
  | none => .other
  | some response => responseOutcome response

/-! ### The calls of a client -/

/-- A call that has ended. -/
structure Call where
  /-- The name of the method. -/
  name : PyStr
  /-- `args`. -/
  args : List Json
  /-- `kwargs`. -/
  kwargs : List (PyStr × Json)
  /-- `uuid.uuid4().int`. -/
  id : ℕ
  /-- The text with which the server answers the request. -/
  response : List Char
  /-- The text that has been read, and `none` if what has been received is no text. -/
  text : Option (List Char)

/-- The request of a call. -/
def Call.request (call : Call) : Json := requestJson call.name call.args call.kwargs call.id

/-- What a call returns or raises. -/
def Call.outcome (loads : List Char → Option Json) (call : Call) : CallOutcome :=
  match call.text with
  | none => .other
  | some text => callOutcome loads text

/-- A client between two calls. -/
structure ClientState where
  /-- `self.new_message`. -/
  newMessage : List Char
  /-- The bytes of the answers to its calls that it has not received yet. -/
  unread : List UInt8

/-- The client at first. -/
def ClientState.start : ClientState := ⟨[], []⟩

/-- A call.  What it receives are bytes of the answers, with that to its own request behind the
others; `recv` returns them in any chunks and at any time. -/
inductive CallStep : ClientState → Call → ClientState → Prop
  /-- It reads a text. -/
  | returned {s : ClientState} {call : Call} (events : List Recv) {rest : List UInt8}
      {text newMessage : List Char}
      (received : receivedBytes events ++ rest = s.unread ++ encodeUtf8 call.response)
      (turn : receiveMessage s.newMessage events = .ended text newMessage [])
      (read : call.text = some text) : CallStep s call ⟨newMessage, rest⟩
  /-- It receives something that is no text. -/
  | raised {s : ClientState} {call : Call} (events : List Recv) {rest : List UInt8}
      {newMessage : List Char}
      (received : receivedBytes events ++ rest = s.unread ++ encodeUtf8 call.response)
      (turn : receiveMessage s.newMessage events = .raised newMessage [])
      (read : call.text = none) : CallStep s call ⟨s.newMessage, rest⟩

/-- The calls of a client, each one with the state in which it is made. -/
inductive ClientRun : ClientState → List (ClientState × Call) → ClientState → Prop
  /-- There is none. -/
  | nil (s : ClientState) : ClientRun s [] s
  /-- There is a first one. -/
  | cons {s s' s'' : ClientState} {call : Call} {calls : List (ClientState × Call)}
      (step : CallStep s call s') (rest : ClientRun s' calls s'') :
      ClientRun s ((s, call) :: calls) s''

/-- The server answers a request with its id; and no proper part at the beginning of the answer is
JSON. -/
structure ServerAnswers (loads : List Char → Option Json) (call : Call) : Prop where
  /-- The answer is an object with the id of the request. -/
  carries_id : ∃ fields, loads call.response = some (.obj fields) ∧
    dictGet fields (py "id") = idOf call.request
  /-- `json.loads` raises an exception for a part of it. -/
  whole : ∀ t, t <+: call.response → loads t ≠ none → t = call.response

/-- What the caller expects: what a call returns or raises as `JSONRPCError` is what the response
with its id says. -/
def Paired (loads : List Char → Option Json) (call : Call) : Prop :=
  Call.outcome loads call ≠ .other → ∃ fields, call.text = some call.response ∧
    loads call.response = some (.obj fields) ∧ dictGet fields (py "id") = some (.int call.id)

/-- All answers to the earlier calls have been read. -/
def NothingUnread (s : ClientState) : Prop := s.newMessage = [] ∧ s.unread = []

/-! ### What is read has been received -/

/-- Of two texts, one begins with the other if its bytes do. -/
theorem prefix_of_encodeUtf8 {q t : List Char} {rest : List UInt8}
    (h : encodeUtf8 q ++ rest = encodeUtf8 t) : q <+: t := by
  have hdecode : ∀ q : List Char, (q.utf8Encode ++ rest.toByteArray).utf8Decode? =
      rest.toByteArray.utf8Decode?.map (q.toArray ++ ·) := by
    intro q
    induction q with
    | nil => simp
    | cons c q ih =>
      rw [← List.singleton_append, List.utf8Encode_append, ByteArray.append_assoc,
        ByteArray.utf8Decode?_utf8Encode_singleton_append, ih, Option.map_map]
      congr 1
      funext x
      simp [← Array.append_assoc]
  have hbytes : q.utf8Encode ++ rest.toByteArray = t.utf8Encode := by
    have happend := congrArg List.toByteArray h
    rw [List.toByteArray_append] at happend
    exact happend
  have hq := hdecode q
  rw [hbytes, List.utf8Decode?_utf8Encode] at hq
  obtain ⟨x, -, hx⟩ := Option.map_eq_some_iff.mp hq.symm
  refine ⟨x.toList, ?_⟩
  have hlist := congrArg Array.toList hx
  simpa using hlist

/-- The text after a chunk has characters of the chunk behind the text before it. -/
theorem readChunk_text (r : ReadState) (t : List Char) :
    (∀ text l, readChunk r t = .done text l → ∃ q, text = r.fullMsg ++ q ∧ q <+: t) ∧
      ∀ r' l, readChunk r t = .more r' l → r'.fullMsg = r.fullMsg ++ t := by
  by_cases ht : t = []
  · subst ht
    rw [readChunk_nil]
    refine ⟨?_, ?_⟩
    · intro text l h
      split at h
      · cases h
        exact ⟨[], (List.append_nil _).symm, List.prefix_refl _⟩
      · cases h
    · intro r' l h
      split at h
      · cases h
      · cases h
        exact (List.append_nil _).symm
  · cases hcut : scanCut r.scan t with
    | none =>
      rw [readChunk_of_no_cut ht hcut]
      refine ⟨?_, ?_⟩
      · intro text l h
        cases h
      · intro r' l h
        cases h
        rfl
    | some pl =>
      obtain ⟨p, l⟩ := pl
      obtain ⟨rfl, -⟩ := cut_eq_some_iff.mp hcut
      rw [readChunk_of_cut hcut]
      refine ⟨?_, ?_⟩
      · intro text l' h
        cases h
        exact ⟨p, rfl, List.prefix_append _ _⟩
      · intro r' l' h
        cases h

/-- **What a turn reads has been received**, in this order. -/
theorem readTurn_text {r : ReadState} {m text l : List Char} {events rest : List Recv}
    (h : readTurn r m events = .ended text l rest) :
    ∃ q bytes, text = r.fullMsg ++ q ∧ encodeUtf8 q ++ bytes = receivedBytes events := by
  induction events generalizing r m with
  | nil => cases h
  | cons e events ih =>
    cases e with
    | timeout =>
      cases h
      exact ⟨[], receivedBytes rest, (List.append_nil _).symm, rfl⟩
    | chunk msg =>
      have hbytes : receivedBytes (.chunk msg :: events) = msg ++ receivedBytes events := rfl
      rw [readTurn] at h
      cases hmsg : decodeUtf8 msg with
      | none =>
        simp only [readStep, hmsg] at h
        cases h
      | some t =>
        rw [decodeUtf8_eq_some_iff] at hmsg
        subst hmsg
        rw [readStep_received] at h
        cases hchunk : readChunk r t with
        | raised =>
          rw [hchunk] at h
          cases h
        | done text' l' =>
          rw [hchunk] at h
          cases h
          obtain ⟨q, rfl, q', rfl⟩ := (readChunk_text r t).1 _ _ hchunk
          refine ⟨q, encodeUtf8 q' ++ receivedBytes rest, rfl, ?_⟩
          rw [hbytes, encodeUtf8_append, List.append_assoc]
        | more r' l' =>
          rw [hchunk] at h
          obtain ⟨q, bytes, rfl, hq⟩ := ih h
          refine ⟨t ++ q, bytes, ?_, ?_⟩
          · rw [(readChunk_text r t).2 _ _ hchunk, List.append_assoc]
          · rw [hbytes, encodeUtf8_append, List.append_assoc, hq]

/-! ### Answers and calls -/

section calls

variable {loads : List Char → Option Json}

/-- **One call**: if all answers to the earlier calls have been read, it reads its own. -/
theorem callStep_paired {s s' : ClientState} {call : Call} (hstep : CallStep s call s')
    (hserver : ServerAnswers loads call) (hnothing : NothingUnread s) : Paired loads call := by
  obtain ⟨hnew, hunread⟩ := hnothing
  intro houtcome
  obtain ⟨fields, hloads, hid⟩ := hserver.carries_id
  refine ⟨fields, ?_, hloads, hid⟩
  cases hstep with
  | raised events received turn read =>
    exfalso
    simp only [Call.outcome, read, ne_eq, not_true_eq_false] at houtcome
  | @returned events rest text newMessage received turn read =>
    rw [hnew] at turn
    rw [hunread, List.nil_append] at received
    obtain ⟨q, bytes, htext, hq⟩ := readTurn_text turn
    have hqtext : text = q := htext
    rw [← hq, List.append_assoc] at received
    -- nothing was unread, so that the text begins where the answer to this call begins
    have hpre : text <+: call.response := by
      rw [hqtext]
      exact prefix_of_encodeUtf8 received
    have hparsed : loads text ≠ none := by
      intro hnone
      simp only [Call.outcome, read, callOutcome, hnone, ne_eq, not_true_eq_false] at houtcome
    rw [read, hserver.whole text hpre hparsed]

/-- **Answers are paired with calls**, if each call is made when all answers to the earlier ones
have been read. -/
theorem answers_are_paired {s : ClientState} {calls : List (ClientState × Call)}
    (hrun : ClientRun .start calls s) (hserver : ∀ c ∈ calls, ServerAnswers loads c.2)
    (hunread : ∀ c ∈ calls, NothingUnread c.1) : ∀ c ∈ calls, Paired loads c.2 := by
  -- the first state is of no importance: each call has `NothingUnread` of its own
  generalize ClientState.start = s₀ at hrun
  induction hrun with
  | nil s => rintro c ⟨⟩
  | cons step rest ih =>
    intro c hc
    rcases List.mem_cons.mp hc with rfl | hc
    · exact callStep_paired step (hserver _ List.mem_cons_self) (hunread _ List.mem_cons_self)
    · exact ih (fun d hd => hserver d (List.mem_cons_of_mem _ hd))
        (fun d hd => hunread d (List.mem_cons_of_mem _ hd)) c hc

end calls

/-! ### Two calls -/

/-- An answer as it comes, in chunks of at most 16 bytes; `id` are the last digits of the id. -/
def answerChunks (result id : String) : List (List Char) :=
  ["\x7b\"jsonrpc\": \"2.0".toList, "\", \"result\": ".toList ++ result.toList ++ ", ".toList,
    "\"id\": 3022406782".toList, id.toList ++ "\x7d".toList]

/-- The answer as an object. -/
def answerObject (result : ℤ) (id : ℕ) : Json :=
  .obj [(py "jsonrpc", .str (py "2.0")), (py "result", .int result), (py "id", .int id)]

/-- A call of `f` with its answer, and what it reads. -/
def callWith (id : ℕ) (response text : List Char) : Call where
  name := py "f"
  args := []
  kwargs := []
  id := id
  response := response
  text := some text

/-- The answer to the first call. -/
def firstAnswer : List (List Char) := answerChunks "7" "75694148452352"

/-- The answer to the second call. -/
def secondAnswer : List (List Char) := answerChunks "8" "75694148452353"

/-- `json.loads` on the answers, and on texts that are no JSON. -/
def loadsAnswers (text : List Char) : Option Json :=
  if text = firstAnswer.flatten then some (answerObject 7 302240678275694148452352)
  else if text = secondAnswer.flatten then some (answerObject 8 302240678275694148452353)
  else none

theorem loadsAnswers_whole {response t : List Char}
    (hresponse : response = firstAnswer.flatten ∨ response = secondAnswer.flatten)
    (hpre : t <+: response) (hloads : loadsAnswers t ≠ none) : t = response := by
  have hlen : t.length = response.length := by
    have hboth : firstAnswer.flatten.length = 63 ∧ secondAnswer.flatten.length = 63 := by decide
    have hresponse : response.length = 63 := by
      rcases hresponse with rfl | rfl
      · exact hboth.1
      · exact hboth.2
    rw [hresponse]
    unfold loadsAnswers at hloads
    split at hloads
    · rename_i heq
      rw [heq]
      exact hboth.1
    · split at hloads
      · rename_i heq
        rw [heq]
        exact hboth.2
      · exact absurd rfl hloads
  exact hpre.eq_of_length hlen

/-- The server answers both calls. -/
theorem serverAnswers_both (text : List Char) :
    ServerAnswers loadsAnswers (callWith 302240678275694148452352 firstAnswer.flatten text) ∧
      ServerAnswers loadsAnswers (callWith 302240678275694148452353 secondAnswer.flatten text) :=
  ⟨⟨⟨_, if_pos rfl, rfl⟩, fun _ => loadsAnswers_whole (.inl rfl)⟩,
    ⟨⟨_, (if_neg (show secondAnswer.flatten ≠ firstAnswer.flatten by decide)).trans (if_pos rfl),
        rfl⟩,
      fun _ => loadsAnswers_whole (.inr rfl)⟩⟩

/-- A call that reads its answer in time. -/
theorem call_in_time_paired :
    Paired loadsAnswers
      (callWith 302240678275694148452352 firstAnswer.flatten firstAnswer.flatten) := by
  have hstep : CallStep .start
      (callWith 302240678275694148452352 firstAnswer.flatten firstAnswer.flatten) ⟨[], []⟩ :=
    .returned (received firstAnswer) (by decide +kernel) (by decide +kernel) rfl
  refine answers_are_paired (.cons hstep (.nil _)) ?_ ?_ _ List.mem_cons_self
  · intro c hc
    rw [List.mem_singleton.mp hc]
    exact (serverAnswers_both _).1
  · intro c hc
    rw [List.mem_singleton.mp hc]
    exact ⟨rfl, rfl⟩

/-- The answer to the first call comes after the timeout, and the second call reads it. -/
theorem late_answer_mispaired :
    ∃ (calls : List (ClientState × Call)) (s : ClientState), ClientRun .start calls s ∧
      (∀ c ∈ calls, ServerAnswers loadsAnswers c.2) ∧ ¬ ∀ c ∈ calls, Paired loadsAnswers c.2 := by
  have hfirst : CallStep .start (callWith 302240678275694148452352 firstAnswer.flatten [])
      ⟨[], encodeUtf8 firstAnswer.flatten⟩ :=
    .returned [.timeout] rfl rfl rfl
  have hsecond : CallStep ⟨[], encodeUtf8 firstAnswer.flatten⟩
      (callWith 302240678275694148452353 secondAnswer.flatten firstAnswer.flatten)
      ⟨[], encodeUtf8 secondAnswer.flatten⟩ :=
    .returned (received firstAnswer) (by decide +kernel) (by decide +kernel) rfl
  refine ⟨_, _, .cons hfirst (.cons hsecond (.nil _)), ?_, ?_⟩
  · intro c hc
    rcases List.mem_cons.mp hc with rfl | hc
    · exact (serverAnswers_both _).1
    · rw [List.mem_singleton.mp hc]
      exact (serverAnswers_both _).2
  · intro h
    have hvalue : Call.outcome loadsAnswers
        (callWith 302240678275694148452353 secondAnswer.flatten firstAnswer.flatten) =
          .value (.int 7) := by
      have hloads : loadsAnswers firstAnswer.flatten =
          some (answerObject 7 302240678275694148452352) := if_pos rfl
      unfold Call.outcome callWith callOutcome
      simp only [hloads]
      rfl
    obtain ⟨fields, htext, -⟩ := h _ (List.mem_cons_of_mem _ List.mem_cons_self) (by
      rw [hvalue]
      simp)
    have hne : firstAnswer.flatten ≠ secondAnswer.flatten := by decide
    exact hne (Option.some.inj htext)

end Redes
