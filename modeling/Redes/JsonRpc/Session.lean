import Redes.JsonRpc.Request
import Redes.JsonRpc.Server

/-!
# One connection of a server

What the thread of a connection does with a message: it is parsed and handled, and the response is
sent.  Chunks that come and timeouts that happen while nothing comes lead from one message to the
next.

## Main definitions

* `Session`, `serveText` — what is sent, and what becomes of a message.
* `threadStep`, `threadRun` — the thread of the only connection.
* `responses` — the responses to some requests.
* `NoUnsolicited` — what the peer expects.
* `Calm`, `CalmRun` — steps in which it gets this.

## Main results

* `handleRequest_some_hasId` — only requests with an id get a response.
* `threadStep_caughtUp` — what one step preserves.
* `no_unsolicited_answer` — what the peer gets.
-/

namespace Redes

open Cut

/-! ### What becomes of a message -/

/-- What has become of the messages of a connection. -/
structure Session (σ : Type) where
  /-- The state of the program that the registered functions see. -/
  env : σ
  /-- The responses that have been sent. -/
  sent : List Response

/-- The response to a text that is no JSON. -/
def parseErrorResponse : Response :=
  [(py "jsonrpc", .json (.str (py "2.0"))),
    (py "error",
      .json (.obj [(py "code", .int (-32700)), (py "message", .str (py "Parse error"))])),
    (py "id", .json .null)]

/-- `json.dumps` returns a text. -/
def Response.serializable (response : Response) : Bool :=
  response.all fun entry =>
    match entry.2 with
    | .json _ => true
    | .other => false

/-- The request has an id, which can be `None`. -/
def hasId : Json → Bool
  | .obj fields => dictHas fields (py "id")
  | _ => false

section session

variable {σ : Type} (loads : List Char → Option Json) (methods : List (PyStr × Method σ))

/-- What `handle_client` does with `full_msg`, and whether it goes on then.  The parameter `loads`
is `json.loads`, where `none` is `json.JSONDecodeError`. -/
def serveText (fullMsg : List Char) (session : Session σ) : Session σ × Bool :=
  match loads fullMsg with
  | none => ({ session with sent := session.sent ++ [parseErrorResponse] }, false)
  | some request =>
      match handleRequest methods request session.env with
      | (.error _, env) => ({ session with env := env }, false)
      | (.ok none, env) => ({ session with env := env }, true)
      | (.ok (some response), env) =>
          if response.serializable then (⟨env, session.sent ++ [response]⟩, true)
          else ({ session with env := env }, false)

/-- One step of the thread of the only connection: `recv` returns, what it returns is processed, and
the next turn begins if this one has ended. -/
def threadStep (s : ServerState Unit (Session σ)) (e : Recv) : ServerState Unit (Session σ) :=
  serverStep (serveText loads methods) (serverStep (serveText loads methods) s (.recv () e))
    (.begin ())

/-- The server when its only connection has been accepted. -/
def threadStart (env : σ) : ServerState Unit (Session σ) :=
  serverStep (serveText loads methods) (.start ⟨env, []⟩) (.begin ())

/-- The server after some steps. -/
def threadRun (env : σ) (events : List Recv) : ServerState Unit (Session σ) :=
  events.foldl (threadStep loads methods) (threadStart loads methods env)

/-- They are steps of the server. -/
theorem threadRun_eq_serverRun (env : σ) (events : List Recv) :
    threadRun loads methods env events = serverRun (serveText loads methods) ⟨env, []⟩
      (.begin () :: events.flatMap fun e => [.recv () e, .begin ()]) := by
  rw [serverRun, List.foldl_cons, List.foldl_flatMap]
  rfl

/-! ### What the peer expects -/

/-- A request is handled, and its response is added if it has an id. -/
def respond (acc : σ × List Response) (text : List Char) : σ × List Response :=
  match loads text with
  | none => acc
  | some request =>
      match handleRequest methods request acc.1 with
      | (.ok (some response), env) =>
          (env, acc.2 ++ if hasId request then [response] else [])
      | (_, env) => (env, acc.2)

/-- The responses to some requests. -/
def responses (env : σ) (requests : List (List Char)) : List Response :=
  (requests.foldl (respond loads methods) (env, [])).2

/-- What the peer expects: the connection is open, and what has been sent are the responses to the
complete requests that have been received. -/
structure NoUnsolicited (env : σ) (events : List Recv) (c : Connection (Session σ)) : Prop where
  /-- The connection is open. -/
  not_closed : c.phase ≠ .closed
  /-- What has been sent. -/
  sent : ∃ (requests : List (List Char)) (rest : List Char),
    receivedBytes events = encodeUtf8 (requests.flatten ++ rest) ∧
      (∀ t ∈ requests, ∃ fields, loads t = some (.obj fields)) ∧
        c.session.sent = responses loads methods env requests

/-! ### When the peer gets it -/

/-- The text is a request, and `handle_request` returns, with nothing or with something that
`json.dumps` can write. -/
def Served (text : List Char) (env : σ) : Prop :=
  ∃ fields response, loads text = some (.obj fields) ∧
    (handleRequest methods (.obj fields) env).1 = .ok response ∧
      ∀ r, response = some r → r.serializable = true

/-- The step goes on with a message, or ends the turn with a request and nothing behind it. -/
def Calm (s : ServerState Unit (Session σ)) (e : Recv) : Prop :=
  ∀ r began own, (s.connections ()).phase = .reading r began own →
    match e with
    | .timeout => Served loads methods r.fullMsg (s.connections ()).session.env
    | .chunk msg => ∃ t, t ≠ [] ∧ msg = encodeUtf8 t ∧
        (scanCut r.scan t = none ∨
          scanCut r.scan t = some (t, []) ∧
            Served loads methods (r.fullMsg ++ t) (s.connections ()).session.env)

/-- All steps are calm. -/
def CalmRun : ServerState Unit (Session σ) → List Recv → Prop
  | _, [] => True
  | s, e :: events => Calm loads methods s e ∧ CalmRun (threadStep loads methods s e) events

/-! ### Messages -/

omit loads in
/-- **Only requests with an id get a response.** -/
theorem handleRequest_some_hasId {request : Json} {env : σ} {response : Response}
    (h : (handleRequest methods request env).1 = .ok (some response)) : hasId request = true := by
  by_cases hobj : ∃ fields, request = .obj fields
  · obtain ⟨fields, rfl⟩ := hobj
    by_contra hid
    have hget : dictGet fields (py "id") = none := by simpa [hasId, dictHas] using hid
    by_cases hnamed : ∀ name, checkRequest fields = .ok name → dictHas methods name = false
    · obtain ⟨code, message, data, heq⟩ := handleRequest_of_refused env hnamed
      rw [heq, raiseAttributeError, answerError] at h
      simp [requestId, hget, Except.map] at h
    · push Not at hnamed
      obtain ⟨name, hcheck, hhas⟩ := hnamed
      cases hmethod : dictGet methods name with
      | none => simp [dictHas, hmethod] at hhas
      | some method =>
        rw [handleRequest_of_no_id env hcheck hmethod (by simp [idOf, hget])] at h
        cases h
  · have hno : ∀ fields, request ≠ .obj fields := fun fields heq => hobj ⟨fields, heq⟩
    obtain ⟨e₀, hid⟩ := requestId_raises hno
    obtain ⟨e, heq⟩ := handleRequest_of_no_object methods env hno
    obtain ⟨e', he'⟩ := outerHandlers_raises hid e
    rw [heq, he'] at h
    cases h

/-- A request that is handled adds its response. -/
theorem serveText_of_served {text : List Char} {session : Session σ}
    (h : Served loads methods text session.env) :
    serveText loads methods text session =
      (⟨(respond loads methods (session.env, session.sent) text).1,
        (respond loads methods (session.env, session.sent) text).2⟩, true) := by
  obtain ⟨fields, response, hloads, hhandle, hserial⟩ := h
  unfold serveText respond
  simp only [hloads]
  rcases hresult : handleRequest methods (.obj fields) session.env with ⟨result, env⟩
  rw [hresult] at hhandle
  simp only at hhandle
  subst hhandle
  cases response with
  | none => rfl
  | some r =>
    have hid := handleRequest_some_hasId methods (congrArg Prod.fst hresult)
    simp only [hserial r rfl, hid, if_true]

/-! ### Runs -/

theorem receivedBytes_append (events events' : List Recv) :
    receivedBytes (events ++ events') = receivedBytes events ++ receivedBytes events' :=
  List.flatMap_append

/-- All requests that have been received are answered, and the turn has the characters behind
them. -/
structure CaughtUp (env : σ) (events : List Recv) (s : ServerState Unit (Session σ)) : Prop where
  newMessage : s.newMessage = []
  requests : ∃ (r : ReadState) (began own : List Char) (requests : List (List Char)),
    (s.connections ()).phase = .reading r began own ∧
    receivedBytes events = encodeUtf8 (requests.flatten ++ r.fullMsg) ∧
      (∀ t ∈ requests, ∃ fields, loads t = some (.obj fields)) ∧
        requests.foldl (respond loads methods) (env, []) =
          ((s.connections ()).session.env, (s.connections ()).session.sent)

theorem CaughtUp.noUnsolicited {env : σ} {events : List Recv} {s : ServerState Unit (Session σ)}
    (h : CaughtUp loads methods env events s) :
    NoUnsolicited loads methods env events (s.connections ()) := by
  obtain ⟨r, began, own, requests, hphase, hreceived, hloads, hresponses⟩ := h.requests
  refine ⟨by simp [hphase], requests, r.fullMsg, hreceived, hloads, ?_⟩
  rw [responses, hresponses]

theorem threadStart_caughtUp (env : σ) :
    CaughtUp loads methods env [] (threadStart loads methods env) :=
  ⟨rfl, .start [], [], [], [], rfl, rfl, by rintro t ⟨⟩, rfl⟩

/-- The state of a thread after a step. -/
theorem threadStep_eq (s : ServerState Unit (Session σ)) (e : Recv) :
    (threadStep loads methods s e).newMessage =
        ((s.connections ()).recv (serveText loads methods) s.newMessage e).2 ∧
      (threadStep loads methods s e).connections () =
        (((s.connections ()).recv (serveText loads methods) s.newMessage e).1).begin
          ((s.connections ()).recv (serveText loads methods) s.newMessage e).2 :=
  ⟨rfl, rfl⟩

/-- A turn that ends with a request and nothing behind it. -/
theorem CaughtUp.endTurn {env : σ} {events : List Recv} {s : ServerState Unit (Session σ)}
    (h : CaughtUp loads methods env events s) {e : Recv} {r : ReadState}
    {began own : List Char} (hphase : (s.connections ()).phase = .reading r began own)
    (text : List Char) (hdone : readStep r s.newMessage e = .done text [])
    (htext : ∀ requests : List (List Char),
      receivedBytes events = encodeUtf8 (requests.flatten ++ r.fullMsg) →
        receivedBytes (events ++ [e]) = encodeUtf8 (requests.flatten ++ text))
    (hserved : Served loads methods text (s.connections ()).session.env) :
    CaughtUp loads methods env (events ++ [e]) (threadStep loads methods s e) := by
  obtain ⟨-, r', began', own', requests, hphase', hreceived, hloads, hresponses⟩ := h
  rw [hphase] at hphase'
  cases hphase'
  have hrecv := Connection.recv_done (serveText loads methods) hphase hdone
  have hserve := serveText_of_served loads methods hserved
  obtain ⟨hnew, hconn⟩ := threadStep_eq loads methods s e
  rw [hrecv] at hnew hconn
  have hend : ((s.connections ()).endTurn (serveText loads methods) began own text
      (leftAfter (s.connections ()).left [] e)).phase = .between := by
    simp only [Connection.endTurn, hserve, if_true]
  -- the next turn begins at once, with nothing that was kept
  refine ⟨hnew, .start [], [], leftAfter (s.connections ()).left [] e, requests ++ [text], ?_, ?_,
    ?_, ?_⟩
  · rw [hconn, Connection.begin]
    simp only [hend]
    simp only [Connection.endTurn]
  · rw [htext requests hreceived]
    simp [ReadState.start]
  · intro t ht
    rcases List.mem_append.mp ht with ht | ht
    · exact hloads t ht
    · rw [List.mem_singleton.mp ht]
      obtain ⟨fields, -, hfields, -⟩ := hserved
      exact ⟨fields, hfields⟩
  · rw [List.foldl_concat, hresponses, hconn, Connection.begin]
    simp only [hend]
    simp only [Connection.endTurn, hserve]

/-- **What a calm step preserves.** -/
theorem threadStep_caughtUp {env : σ} {events : List Recv} {s : ServerState Unit (Session σ)}
    (h : CaughtUp loads methods env events s) {e : Recv} (hcalm : Calm loads methods s e) :
    CaughtUp loads methods env (events ++ [e]) (threadStep loads methods s e) := by
  obtain ⟨r, began, own, requests, hphase, hreceived, hloads, hresponses⟩ := h.requests
  have hstep := hcalm r began own hphase
  cases e with
  | timeout =>
    refine h.endTurn loads methods hphase r.fullMsg ?_ ?_ hstep
    · rw [readStep, h.newMessage]
    · intro requests' hreceived'
      rw [receivedBytes_append, hreceived']
      exact List.append_nil _
  | chunk msg =>
    obtain ⟨t, hne, rfl, hcut⟩ := hstep
    have hbytes : ∀ requests' : List (List Char),
        receivedBytes events = encodeUtf8 (requests'.flatten ++ r.fullMsg) →
          receivedBytes (events ++ [.chunk (encodeUtf8 t)]) =
            encodeUtf8 (requests'.flatten ++ (r.fullMsg ++ t)) := by
      intro requests' hreceived'
      have hchunk : receivedBytes [.chunk (encodeUtf8 t)] = encodeUtf8 t := List.append_nil _
      rw [receivedBytes_append, hreceived', ← List.append_assoc, encodeUtf8_append _ t, hchunk]
    rcases hcut with hnone | ⟨hsome, hserved⟩
    · have hmore : readStep r s.newMessage (.chunk (encodeUtf8 t)) =
          .more ⟨r.fullMsg ++ t, t.foldl Scan.next r.scan⟩ [] := by
        rw [readStep_received, readChunk_of_no_cut hne hnone]
      obtain ⟨hnew, hconn⟩ := threadStep_eq loads methods s (.chunk (encodeUtf8 t))
      rw [Connection.recv_more (serveText loads methods) hphase hmore] at hnew hconn
      refine ⟨hnew, ⟨r.fullMsg ++ t, t.foldl Scan.next r.scan⟩, began, own, requests, ?_,
        hbytes requests hreceived, hloads, ?_⟩
      · rw [hconn]
        rfl
      · rw [hresponses, hconn]
        rfl
    · refine h.endTurn loads methods hphase (r.fullMsg ++ t) ?_ hbytes hserved
      rw [readStep_received, readChunk_of_cut hsome]

/-- **What a calm run preserves.** -/
theorem foldl_caughtUp {env : σ} {before events : List Recv} {s : ServerState Unit (Session σ)}
    (h : CaughtUp loads methods env before s) (hcalm : CalmRun loads methods s events)
    {pre : List Recv} (hpre : pre <+: events) :
    CaughtUp loads methods env (before ++ pre) (pre.foldl (threadStep loads methods) s) := by
  induction events generalizing before s pre with
  | nil =>
    rw [List.prefix_nil.mp hpre, List.append_nil]
    exact h
  | cons e events ih =>
    rcases List.prefix_cons_iff.mp hpre with rfl | ⟨pre', rfl, hpre'⟩
    · rw [List.append_nil]
      exact h
    · have hrest := ih (threadStep_caughtUp loads methods h hcalm.1) hcalm.2 hpre'
      rw [List.append_assoc] at hrest
      exact hrest

/-- **No unsolicited answer**: in a calm run the connection is never closed, and what has been sent
are the responses to the requests that have been received. -/
theorem no_unsolicited_answer {env : σ} {events : List Recv}
    (h : CalmRun loads methods (threadStart loads methods env) events) {pre : List Recv}
    (hpre : pre <+: events) :
    NoUnsolicited loads methods env pre ((threadRun loads methods env pre).connections ()) :=
  (foldl_caughtUp loads methods (threadStart_caughtUp loads methods env) h hpre).noUnsolicited
    loads methods

/-- A request that ends where a chunk ends is received in calm steps. -/
theorem calmRun_of_request {chunks : List (List Char)} (hne : ∀ c ∈ chunks, c ≠ [])
    {s : ServerState Unit (Session σ)} {r : ReadState} {began own : List Char}
    (hphase : (s.connections ()).phase = .reading r began own)
    (hcut : scanCut r.scan chunks.flatten = some (chunks.flatten, []))
    (hserved : Served loads methods (r.fullMsg ++ chunks.flatten) (s.connections ()).session.env) :
    CalmRun loads methods s (received chunks) := by
  induction chunks generalizing s r began own with
  | nil => trivial
  | cons c chunks ih =>
    have hc : c ≠ [] := hne c List.mem_cons_self
    rw [List.flatten_cons] at hcut hserved
    cases hfirst : scanCut r.scan c with
    | some pl =>
      obtain ⟨p, l⟩ := pl
      rw [scanCut_append_of_some hfirst] at hcut
      obtain ⟨hp, hl⟩ := Prod.mk.inj (Option.some.inj hcut)
      obtain ⟨hlnil, hflat⟩ := List.append_eq_nil_iff.mp hl
      -- the count is zero before the last chunk only if there is no other chunk
      have hnil : chunks = [] := by
        by_contra hcons
        obtain ⟨d, hd⟩ := List.exists_mem_of_ne_nil _ hcons
        exact hne d (List.mem_cons_of_mem _ hd) (List.flatten_eq_nil_iff.mp hflat d hd)
      subst hnil hlnil
      rw [List.flatten_nil, List.append_nil] at hp hserved
      subst hp
      refine ⟨?_, trivial⟩
      intro r' began' own' hphase'
      rw [hphase] at hphase'
      cases hphase'
      exact ⟨p, hc, rfl, .inr ⟨hfirst, hserved⟩⟩
    | none =>
      rw [scanCut_append_of_none hfirst] at hcut
      obtain ⟨⟨p, l⟩, hrest, heq⟩ := Option.map_eq_some_iff.mp hcut
      obtain ⟨hp, rfl⟩ := Prod.mk.inj heq
      rw [List.append_cancel_left hp] at hrest
      have hmore : readStep r s.newMessage (.chunk (encodeUtf8 c)) =
          .more ⟨r.fullMsg ++ c, c.foldl Scan.next r.scan⟩ [] := by
        rw [readStep_received, readChunk_of_no_cut hc hfirst]
      obtain ⟨-, hconn⟩ := threadStep_eq loads methods s (.chunk (encodeUtf8 c))
      rw [Connection.recv_more (serveText loads methods) hphase hmore] at hconn
      refine ⟨?_, ?_⟩
      · intro r' began' own' hphase'
        rw [hphase] at hphase'
        cases hphase'
        exact ⟨c, hc, rfl, .inl hfirst⟩
      · have hphase' : ((threadStep loads methods s (.chunk (encodeUtf8 c))).connections ()).phase =
            .reading ⟨r.fullMsg ++ c, c.foldl Scan.next r.scan⟩ began own := by
          rw [hconn]
          rfl
        refine ih (fun d hd => hne d (List.mem_cons_of_mem _ hd)) hphase' hrest ?_
        rw [hconn, List.append_assoc]
        exact hserved

end session

/-! ### A call and an idle connection -/

/-- The text of `callOfF` in chunks of at most 16 bytes. -/
def callChunks : List (List Char) :=
  ["\x7b\"jsonrpc\":\"2.0\"".toList, ",\"method\":\"f\",\"i".toList, "d\":1\x7d".toList]

/-- `json.loads` on the text of `callOfF`, and on texts that are no JSON. -/
def loadsCall (text : List Char) : Option Json :=
  if text = callChunks.flatten then some callOfF else none

/-- The method `f` returns 7. -/
def methodsOfF : List (PyStr × Method Unit) := [(py "f", constantMethod (.ok (.int 7)))]

/-- A call is answered, and the connection stays open. -/
theorem call_answered :
    NoUnsolicited loadsCall methodsOfF () (received callChunks)
      ((threadRun loadsCall methodsOfF () (received callChunks)).connections ()) := by
  have hserved : Served loadsCall methodsOfF callChunks.flatten () := by
    refine ⟨_, some (resultResponse (.int 7) (.int 1)), if_pos rfl, rfl, ?_⟩
    rintro r ⟨⟩
    rfl
  have hphase : ((threadStart loadsCall methodsOfF ()).connections ()).phase =
      .reading (.start []) [] [] := rfl
  have hcalm : CalmRun loadsCall methodsOfF (threadStart loadsCall methodsOfF ())
      (received callChunks) :=
    calmRun_of_request loadsCall methodsOfF (by decide) hphase (by decide +kernel) hserved
  exact no_unsolicited_answer loadsCall methodsOfF hcalm (List.prefix_refl _)

/-- A timeout of a connection on which nothing has been received: an error is sent, and the
connection is closed. -/
theorem idle_connection_closed :
    ¬ NoUnsolicited loadsCall methodsOfF () [.timeout]
        ((threadRun loadsCall methodsOfF () [.timeout]).connections ()) ∧
      ((threadRun loadsCall methodsOfF () [.timeout]).connections ()).session.sent =
        [parseErrorResponse] := by
  have hphase :
      ((threadRun loadsCall methodsOfF () [.timeout]).connections ()).phase = .closed := by
    rfl
  exact ⟨fun h => h.not_closed hphase, rfl⟩

end Redes
