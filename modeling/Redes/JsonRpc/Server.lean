import Mathlib.Data.List.Induction
import Mathlib.Logic.Function.Basic
import Redes.JsonRpc.Reader

/-!
# The threads of a server

Each connection has a thread that runs `handle_client`.  The text behind a message is kept in an
attribute of the server, which all threads write and read.

## Main definitions

* `Phase`, `ServedTurn`, `Connection`, `ServerState` — the state.
* `ServerEvent`, `serverStep`, `serverRun` — the steps of the threads.
* `texts` — the messages that are extracted on a connection.
* `Parallel` — a connection in a run, and the same connection alone.

## Main results

* `serverStep_parallel` — what one step preserves.
* `texts_alone_iff` — when a connection gets the messages that it would get alone.
-/

namespace Redes

open Cut

/-! ### The state -/

/-- Where the thread of a connection is. -/
inductive Phase
  /-- Before a turn of the outer loop. -/
  | between
  /-- In the inner loop.  The turn began with the text `began`, when the text that the thread itself
  had put into `self.new_message` last was `own`. -/
  | reading (r : ReadState) (began own : List Char)
  /-- Behind both loops. -/
  | closed
  deriving DecidableEq

/-- A turn that has ended. -/
structure ServedTurn where
  /-- The text in `self.new_message` when it began. -/
  began : List Char
  /-- The text that the thread itself had put there last. -/
  own : List Char
  /-- `full_msg`. -/
  text : List Char
  deriving DecidableEq

/-- A connection with its thread. -/
structure Connection (τ : Type) where
  /-- Where the thread is. -/
  phase : Phase
  /-- The text that the thread has put into `self.new_message` last. -/
  left : List Char
  /-- The turns that have ended. -/
  turns : List ServedTurn
  /-- What has become of the messages. -/
  session : τ

/-- The server. -/
structure ServerState (ι τ : Type) where
  /-- `self.new_message`. -/
  newMessage : List Char
  /-- The connections. -/
  connections : ι → Connection τ

/-- A step of the thread of a connection. -/
inductive ServerEvent (ι : Type)
  /-- A turn of the outer loop begins, the first one when the connection has been accepted. -/
  | begin (i : ι)
  /-- `recv` returns, and what it returns is processed. -/
  | recv (i : ι) (e : Recv)
  deriving DecidableEq

/-- The connection whose thread makes the step. -/
def ServerEvent.conn {ι : Type} : ServerEvent ι → ι
  | .begin i => i
  | .recv i _ => i

/-- The messages that `handle_client` has extracted on a connection. -/
def Connection.texts {τ : Type} (c : Connection τ) : List (List Char) :=
  c.turns.map ServedTurn.text

/-! ### The steps -/

section server

variable {ι τ : Type} [DecidableEq ι]

-- What the thread does with a message, and whether it goes on then, depends on the messages of the
-- connection only.
variable (serve : List Char → τ → τ × Bool)

/-- The end of the inner loop. -/
def Connection.endTurn (c : Connection τ) (began own text left : List Char) : Connection τ :=
  let (session, goesOn) := serve text c.session
  { phase := if goesOn then .between else .closed
    left := left
    turns := c.turns ++ [⟨began, own, text⟩]
    session := session }

/-- The text that a thread has put into `self.new_message` last, after it has put `newMessage` there
unless `recv` raised `socket.timeout`. -/
def leftAfter (left newMessage : List Char) : Recv → List Char
  | .timeout => left
  | .chunk _ => newMessage

/-- `recv` returns: what becomes of the connection and of `self.new_message`. -/
def Connection.recv (c : Connection τ) (newMessage : List Char) (e : Recv) :
    Connection τ × List Char :=
  match c.phase with
  | .reading r began own =>
      match readStep r newMessage e with
      | .more r newMessage =>
          ({ c with phase := .reading r began own, left := newMessage }, newMessage)
      | .done text newMessage =>
          (c.endTurn serve began own text (leftAfter c.left newMessage e), newMessage)
      | .raised => ({ c with phase := .closed }, newMessage)
  | _ => (c, newMessage)

/-- A turn begins. -/
def Connection.begin (c : Connection τ) (newMessage : List Char) : Connection τ :=
  match c.phase with
  | .between => { c with phase := .reading (.start newMessage) newMessage c.left }
  | _ => c

/-- One step. -/
def serverStep (s : ServerState ι τ) : ServerEvent ι → ServerState ι τ
  | .begin i =>
      { s with connections :=
          Function.update s.connections i ((s.connections i).begin s.newMessage) }
  | .recv i e =>
      let (c, newMessage) := (s.connections i).recv serve s.newMessage e
      { newMessage := newMessage
        connections := Function.update s.connections i c }

/-- The server before the first connection. -/
def ServerState.start (session : τ) : ServerState ι τ where
  newMessage := []
  connections _ := ⟨.between, [], [], session⟩

/-- The server after some steps. -/
def serverRun (session : τ) (events : List (ServerEvent ι)) : ServerState ι τ :=
  events.foldl (serverStep serve) (.start session)

/-- The messages that are extracted on a connection. -/
def texts (session : τ) (events : List (ServerEvent ι)) (i : ι) : List (List Char) :=
  ((serverRun serve session events).connections i).texts

/-- The steps of one thread. -/
def alone (i : ι) (events : List (ServerEvent ι)) : List (ServerEvent ι) :=
  events.filter fun e => e.conn = i

/-! ### A connection in a run and alone -/

/-- Phases in which the same characters were read, in a run and alone. -/
inductive SamePhase : Phase → Phase → Prop
  | between : SamePhase .between .between
  | closed : SamePhase .closed .closed
  | reading (scan : Scan) (read began own own' : List Char) :
      SamePhase (.reading ⟨began ++ read, scan⟩ began own) (.reading ⟨own ++ read, scan⟩ own own')

theorem SamePhase.eq_between {p : Phase} (h : SamePhase .between p) : p = .between := by
  cases h
  rfl

theorem SamePhase.eq_closed {p : Phase} (h : SamePhase .closed p) : p = .closed := by
  cases h
  rfl

/-- Alone, a turn begins with what the thread has left itself. -/
theorem SamePhase.eq_reading {r : ReadState} {began own : List Char} {p : Phase}
    (h : SamePhase (.reading r began own) p) :
    ∃ scan read own', r = ⟨began ++ read, scan⟩ ∧ p = .reading ⟨own ++ read, scan⟩ own own' := by
  cases h with
  | reading scan read => exact ⟨scan, read, _, rfl, rfl⟩

/-- All turns began with the text of their own thread, and gave the same messages as alone. -/
structure Parallel (c c' : Connection τ) : Prop where
  phase : SamePhase c.phase c'.phase
  left : c.left = c'.left
  texts : c.texts = c'.texts
  session : c.session = c'.session
  own : ∀ t ∈ c.turns, t.began = t.own

/-- Some turn began with another text, and gave another message than alone. -/
structure Diverged (c c' : Connection τ) : Prop where
  texts : ∃ (k : ℕ) (t t' : List Char), c.texts[k]? = some t ∧ c'.texts[k]? = some t' ∧ t ≠ t'
  own : ∃ t ∈ c.turns, t.began ≠ t.own

/-- Turns are only added. -/
theorem Connection.recv_turns (c : Connection τ) (newMessage : List Char) (e : Recv) :
    c.turns <+: (c.recv serve newMessage e).1.turns := by
  unfold Connection.recv
  split
  · split
    · exact List.prefix_refl _
    · exact List.prefix_append _ _
    · exact List.prefix_refl _
  · exact List.prefix_refl _

theorem Connection.begin_turns (c : Connection τ) (newMessage : List Char) :
    c.turns <+: (c.begin newMessage).turns := by
  unfold Connection.begin
  split <;> exact List.prefix_refl _

/-- What has diverged stays so. -/
theorem Diverged.mono {c c' d d' : Connection τ} (h : Diverged c c') (hd : c.turns <+: d.turns)
    (hd' : c'.turns <+: d'.turns) : Diverged d d' := by
  have hmono : ∀ {x y : Connection τ} {k : ℕ} {t : List Char}, x.turns <+: y.turns →
      x.texts[k]? = some t → y.texts[k]? = some t := by
    intro x y k t hxy hk
    obtain ⟨hlt, rfl⟩ := List.getElem?_eq_some_iff.mp hk
    exact List.prefix_iff_getElem?.mp (hxy.map ServedTurn.text) k hlt
  obtain ⟨⟨k, t, t', hk, hk', hne⟩, turn, hturn, hown⟩ := h
  exact ⟨⟨k, t, t', hmono hd hk, hmono hd' hk', hne⟩, turn, hd.subset hturn, hown⟩

/-- Two turns that have read the same characters make the same of what comes next. -/
theorem readStep_same (scan : Scan) (began own read m m' : List Char) {e : Recv}
    (he : e ≠ .chunk []) :
    (∃ scan' read' l, readStep ⟨began ++ read, scan⟩ m e = .more ⟨began ++ read', scan'⟩ l ∧
        readStep ⟨own ++ read, scan⟩ m' e = .more ⟨own ++ read', scan'⟩ l) ∨
      (∃ read' l, readStep ⟨began ++ read, scan⟩ m e = .done (began ++ read') (leftAfter m l e) ∧
        readStep ⟨own ++ read, scan⟩ m' e = .done (own ++ read') (leftAfter m' l e)) ∨
      readStep ⟨began ++ read, scan⟩ m e = .raised ∧
        readStep ⟨own ++ read, scan⟩ m' e = .raised := by
  cases e with
  | timeout => exact .inr (.inl ⟨read, [], rfl, rfl⟩)
  | chunk msg =>
    cases hmsg : decodeUtf8 msg with
    | none =>
      refine .inr (.inr ?_)
      unfold readStep
      simp only [hmsg, and_self]
    | some t =>
      rw [decodeUtf8_eq_some_iff] at hmsg
      subst hmsg
      have ht : t ≠ [] := by
        rintro rfl
        exact he rfl
      rw [readStep_received, readStep_received]
      cases hcut : scanCut scan t with
      | none =>
        refine .inl ⟨t.foldl Scan.next scan, read ++ t, [], ?_, ?_⟩
        · rw [readChunk_of_no_cut ht hcut, List.append_assoc]
        · rw [readChunk_of_no_cut ht hcut, List.append_assoc]
      | some pl =>
        obtain ⟨p, l⟩ := pl
        refine .inr (.inl ⟨read ++ p, l, ?_, ?_⟩)
        · rw [readChunk_of_cut hcut, List.append_assoc]
          rfl
        · rw [readChunk_of_cut hcut, List.append_assoc]
          rfl

/-- What `recv` gives to a thread in the inner loop, if the turn goes on. -/
theorem Connection.recv_more {c : Connection τ} {m l : List Char} {r r' : ReadState}
    {began own : List Char} {e : Recv} (hphase : c.phase = .reading r began own)
    (h : readStep r m e = .more r' l) :
    c.recv serve m e = ({ c with phase := .reading r' began own, left := l }, l) := by
  unfold Connection.recv
  simp only [hphase, h]

/-- If it ends. -/
theorem Connection.recv_done {c : Connection τ} {m l : List Char} {r : ReadState}
    {began own text : List Char} {e : Recv} (hphase : c.phase = .reading r began own)
    (h : readStep r m e = .done text l) :
    c.recv serve m e = (c.endTurn serve began own text (leftAfter c.left l e), l) := by
  unfold Connection.recv
  simp only [hphase, h]

/-- If there is an exception. -/
theorem Connection.recv_raised {c : Connection τ} {m : List Char} {r : ReadState}
    {began own : List Char} {e : Recv} (hphase : c.phase = .reading r began own)
    (h : readStep r m e = .raised) : c.recv serve m e = ({ c with phase := .closed }, m) := by
  unfold Connection.recv
  simp only [hphase, h]

theorem Connection.recv_idle {c : Connection τ} (m : List Char) (e : Recv)
    (hphase : ∀ r began own, c.phase ≠ .reading r began own) : c.recv serve m e = (c, m) := by
  unfold Connection.recv
  split
  · rename_i r began own heq
    exact absurd heq (hphase r began own)
  · rfl

/-- Two turns end with the same text behind those with which they began.  If these are the same too,
the connections stay parallel, and anything else shows in the message. -/
theorem Parallel.endTurn {c c' : Connection τ} (h : Parallel c c')
    (began own own' read left : List Char) :
    Parallel (c.endTurn serve began own (began ++ read) left)
        (c'.endTurn serve own own' (own ++ read) left) ∨
      Diverged (c.endTurn serve began own (began ++ read) left)
        (c'.endTurn serve own own' (own ++ read) left) := by
  obtain ⟨-, -, htexts, hsession, hown⟩ := h
  by_cases hbegan : began = own
  · left
    subst hbegan
    refine ⟨?_, rfl, ?_, ?_, ?_⟩
    · simp only [Connection.endTurn, hsession]
      cases (serve (began ++ read) c'.session).2 with
      | true => exact .between
      | false => exact .closed
    · simp only [Connection.texts, Connection.endTurn, List.map_append] at htexts ⊢
      rw [htexts]
      rfl
    · simp only [Connection.endTurn, hsession]
    · intro t ht
      rcases List.mem_append.mp ht with ht | ht
      · exact hown t ht
      · rw [List.mem_singleton.mp ht]
  · right
    have hlen : c.turns.length = c'.turns.length := by
      have hlen := congrArg List.length htexts
      simpa [Connection.texts] using hlen
    refine ⟨⟨c.turns.length, began ++ read, own ++ read, ?_, ?_, ?_⟩,
      ⟨began, own, began ++ read⟩, by simp [Connection.endTurn], hbegan⟩
    · simp [Connection.texts, Connection.endTurn]
    · rw [hlen]
      simp [Connection.texts, Connection.endTurn]
    · intro heq
      exact hbegan (List.append_cancel_right heq)

/-- **A step of its thread** keeps a connection parallel to the one alone, or lets it diverge. -/
theorem Parallel.recv {c c' : Connection τ} (h : Parallel c c') (m : List Char) {e : Recv}
    (he : e ≠ .chunk []) :
    (Parallel (c.recv serve m e).1 (c'.recv serve c'.left e).1 ∨
        Diverged (c.recv serve m e).1 (c'.recv serve c'.left e).1) ∧
      (c'.recv serve c'.left e).2 = (c'.recv serve c'.left e).1.left := by
  have hended := h.endTurn serve
  obtain ⟨hphase, hleft, htexts, hsession, hown⟩ := h
  cases hc : c.phase with
  | between =>
    rw [hc] at hphase
    have hc' := hphase.eq_between
    rw [Connection.recv_idle serve m e (by simp [hc]),
      Connection.recv_idle serve c'.left e (by simp [hc'])]
    exact ⟨.inl ⟨by rw [hc, hc']; exact .between, hleft, htexts, hsession, hown⟩, rfl⟩
  | closed =>
    rw [hc] at hphase
    have hc' := hphase.eq_closed
    rw [Connection.recv_idle serve m e (by simp [hc]),
      Connection.recv_idle serve c'.left e (by simp [hc'])]
    exact ⟨.inl ⟨by rw [hc, hc']; exact .closed, hleft, htexts, hsession, hown⟩, rfl⟩
  | reading r began own =>
    rw [hc] at hphase
    obtain ⟨scan₀, read, own', rfl, hc'⟩ := hphase.eq_reading
    -- the two turns differ in the text with which they began, and this is looked at only when they
    -- end
    rcases readStep_same scan₀ began own read m c'.left he with
      ⟨scan', read', l, hmore, hmore'⟩ | ⟨read', l, hdone, hdone'⟩ | ⟨hraised, hraised'⟩
    · rw [Connection.recv_more serve hc hmore, Connection.recv_more serve hc' hmore']
      exact ⟨.inl ⟨.reading scan' read' began own own', rfl, htexts, hsession, hown⟩, rfl⟩
    · rw [Connection.recv_done serve hc hdone, Connection.recv_done serve hc' hdone']
      have hleft' : leftAfter c'.left l e = leftAfter c'.left (leftAfter c'.left l e) e := by
        cases e <;> rfl
      have hlefts : leftAfter c.left (leftAfter m l e) e =
          leftAfter c'.left (leftAfter c'.left l e) e := by
        cases e with
        | timeout => exact hleft
        | chunk msg => rfl
      rw [hlefts]
      exact ⟨hended began own own' read' _, hleft'⟩
    · rw [Connection.recv_raised serve hc hraised, Connection.recv_raised serve hc' hraised']
      exact ⟨.inl ⟨.closed, hleft, htexts, hsession, hown⟩, rfl⟩

/-- The same for the beginning of a turn. -/
theorem Parallel.begin {c c' : Connection τ} (h : Parallel c c') (m : List Char) :
    Parallel (c.begin m) (c'.begin c'.left) := by
  obtain ⟨hphase, hleft, htexts, hsession, hown⟩ := h
  unfold Connection.begin
  cases hc : c.phase with
  | between =>
    rw [hc] at hphase
    have hc' := hphase.eq_between
    have hsame := SamePhase.reading Scan.start [] m c.left c'.left
    rw [List.append_nil, List.append_nil, hleft] at hsame
    rw [hc']
    refine ⟨?_, hleft, htexts, hsession, hown⟩
    simp only [hleft]
    exact hsame
  | closed =>
    rw [hc] at hphase
    have hc' := hphase.eq_closed
    rw [hc']
    exact ⟨by rw [hc, hc']; exact .closed, hleft, htexts, hsession, hown⟩
  | reading r began own =>
    rw [hc] at hphase
    obtain ⟨scan, read, own', rfl, hc'⟩ := hphase.eq_reading
    rw [hc']
    exact ⟨by rw [hc, hc']; exact .reading scan read began own own', hleft, htexts, hsession, hown⟩

/-- The connection diverges no more than it has. -/
theorem Diverged.recv {c c' : Connection τ} (h : Diverged c c') (m m' : List Char) (e : Recv) :
    Diverged (c.recv serve m e).1 (c'.recv serve m' e).1 :=
  h.mono (c.recv_turns serve m e) (c'.recv_turns serve m' e)

theorem Diverged.begin {c c' : Connection τ} (h : Diverged c c') (m m' : List Char) :
    Diverged (c.begin m) (c'.begin m') :=
  h.mono (c.begin_turns m) (c'.begin_turns m')

/-- Alone, a thread finds what it has left itself. -/
theorem recv_left {c : Connection τ} (e : Recv) :
    (c.recv serve c.left e).2 = (c.recv serve c.left e).1.left := by
  unfold Connection.recv
  split
  · split
    · rfl
    · rename_i r began own hphase text l hdone
      cases e with
      | timeout =>
        cases hdone
        rfl
      | chunk msg => rfl
    · rfl
  · rfl

theorem begin_left {c : Connection τ} (m : List Char) : (c.begin m).left = c.left := by
  unfold Connection.begin
  split <;> rfl

/-- The states of a server in a run and with the steps of one thread only. -/
structure RunsParallel (i : ι) (s s' : ServerState ι τ) : Prop where
  left : s'.newMessage = (s'.connections i).left
  connection : Parallel (s.connections i) (s'.connections i) ∨
    Diverged (s.connections i) (s'.connections i)

/-- The steps of the other threads do not change the connection. -/
theorem serverStep_of_ne (s : ServerState ι τ) {i : ι} {e : ServerEvent ι} (h : e.conn ≠ i) :
    (serverStep serve s e).connections i = s.connections i := by
  cases e <;> exact Function.update_of_ne (Ne.symm h) _ _

/-- **What one step preserves.** -/
theorem serverStep_parallel {i : ι} {s s' : ServerState ι τ} (h : RunsParallel i s s')
    {e : ServerEvent ι} (hconn : e.conn = i) (he : e ≠ .recv i (.chunk [])) :
    RunsParallel i (serverStep serve s e) (serverStep serve s' e) := by
  obtain ⟨hleft, hparallel⟩ := h
  cases e with
  | begin j =>
    cases hconn
    refine ⟨?_, ?_⟩
    · simp only [serverStep, Function.update_self, begin_left, hleft, ServerEvent.conn]
    · simp only [serverStep, Function.update_self, hleft, ServerEvent.conn]
      exact hparallel.imp (fun h => h.begin _) (fun h => h.begin _ _)
  | recv j e =>
    cases hconn
    have hchunk : e ≠ .chunk [] := by
      rintro rfl
      exact he rfl
    refine ⟨?_, ?_⟩
    · simp only [serverStep, Function.update_self, hleft, ServerEvent.conn]
      exact recv_left serve e
    · simp only [serverStep, Function.update_self, hleft, ServerEvent.conn]
      rcases hparallel with hparallel | hdiverged
      · exact (hparallel.recv serve _ hchunk).1
      · exact .inr (hdiverged.recv serve _ _ e)

/-- **What a run preserves.** -/
theorem serverRun_parallel (session : τ) (i : ι) {events : List (ServerEvent ι)}
    (hne : .recv i (.chunk []) ∉ events) :
    RunsParallel i (serverRun serve session events) (serverRun serve session (alone i events)) := by
  induction events using List.reverseRecOn with
  | nil => exact ⟨rfl, .inl ⟨.between, rfl, rfl, rfl, by rintro t ⟨⟩⟩⟩
  | append_singleton events e ih =>
    rw [List.mem_append, not_or] at hne
    specialize ih hne.1
    rw [serverRun, List.foldl_concat]
    by_cases hconn : e.conn = i
    · have halone : alone i (events ++ [e]) = alone i events ++ [e] := by
        simp [alone, hconn]
      rw [halone, serverRun, List.foldl_concat]
      refine serverStep_parallel serve ih hconn ?_
      rintro rfl
      exact hne.2 (List.mem_singleton.mpr rfl)
    · have halone : alone i (events ++ [e]) = alone i events := by
        simp [alone, hconn]
      rw [halone]
      refine ⟨ih.left, ?_⟩
      have hframe := serverStep_of_ne serve (serverRun serve session events) hconn
      rw [serverRun] at hframe
      rw [hframe]
      exact ih.connection

/-- **When a connection gets the messages that it would get alone**: each of its turns that ended
began with the text that its own thread had left. -/
theorem texts_alone_iff (session : τ) (i : ι) (events : List (ServerEvent ι))
    (hne : .recv i (.chunk []) ∉ events) :
    texts serve session events i = texts serve session (alone i events) i ↔
      ∀ t ∈ ((serverRun serve session events).connections i).turns, t.began = t.own := by
  rcases (serverRun_parallel serve session i hne).connection with hparallel | hdiverged
  · exact iff_of_true hparallel.texts hparallel.own
  · obtain ⟨⟨k, t, t', hk, hk', hne⟩, turn, hturn, hown⟩ := hdiverged
    refine iff_of_false ?_ ?_
    · intro heq
      unfold texts at heq
      rw [heq, hk'] at hk
      exact hne (Option.some.inj hk).symm
    · intro h
      exact hown (h turn hturn)

end server

/-! ### Two connections -/

/-- A thread that goes on after each message. -/
def keepsOn (_ : List Char) (session : Unit) : Unit × Bool := (session, true)

/-- The thread of a connection begins and gets a chunk. -/
def chunkOn (i : Bool) (text : String) : List (ServerEvent Bool) :=
  [.begin i, .recv i (.chunk (encodeUtf8 text.toList))]

/-- If the messages come in chunks of their own, the second connection gets its message. -/
theorem second_connection_alone :
    texts keepsOn () (chunkOn false "\x7b\x7d" ++ chunkOn true "\x7b\x7d") true =
      texts keepsOn () (alone true (chunkOn false "\x7b\x7d" ++ chunkOn true "\x7b\x7d")) true :=
  (texts_alone_iff keepsOn () true _ (by decide +kernel)).mpr (by decide +kernel)

/-- If the chunk of the first connection contains the beginning of a second message, the second
connection gets it. -/
theorem second_connection_disturbed :
    texts keepsOn () (chunkOn false "\x7b\x7d\x7b" ++ chunkOn true "\x7b\x7d") true ≠
      texts keepsOn () (alone true (chunkOn false "\x7b\x7d\x7b" ++ chunkOn true "\x7b\x7d"))
        true := by
  decide +kernel

end Redes
