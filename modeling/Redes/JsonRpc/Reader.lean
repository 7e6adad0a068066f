import Mathlib.Data.Int.Notation
import Redes.Lib.Cut

/-!
# Reading messages from a socket

The inner loop of `Server.handle_client` and the loop of `Client.receiveMessage`, which are
the same: chunks of at most 16 bytes are received and scanned until the count of open
brackets is zero.  The text behind this point is kept for the next turn, which starts with it
but does not scan it.

## Main definitions

* `decodeUtf8`, `encodeUtf8` — `bytes.decode` and `bytes`.
* `Scan`, `scanChars` — the character rules.
* `Recv`, `ReadState`, `readStep`, `readTurn` — the loop.
* `handleClientTurn`, `receiveMessage` — its two places.
* `scan` — the text of the first message of a stream.

## Main results

* `readTurn_of_cut`, `readTurn_of_no_cut` — what a turn makes of some chunks.
* `turns_eq_scan_iff` — when turns return the messages of a stream.
* `turn_ends_iff` — when a turn ends after the peer has closed the connection.
-/

namespace Redes

open Cut

/-! ### Text and bytes -/

/-- `msg.decode("utf-8")`; `none` if it raises `UnicodeDecodeError`. -/
def decodeUtf8 (msg : List UInt8) : Option (List Char) :=
  msg.toByteArray.utf8Decode?.map Array.toList

/-- `bytes(msg, "utf-8")`. -/
def encodeUtf8 (msg : List Char) : List UInt8 := msg.flatMap String.utf8EncodeChar

/-! ### The character rules -/

/-- The variables of the scan. -/
structure Scan where
  /-- `bracket_count`. -/
  bracketCount : ℤ
  /-- `is_quoted`. -/
  isQuoted : Bool
  /-- `prev_char`, where `none` is the empty string. -/
  prevChar : Option Char
  deriving DecidableEq

/-- The variables at the start of a turn. -/
def Scan.start : Scan := ⟨0, false, none⟩

/-- The body of the loop over the characters, up to the test that leaves it. -/
def Scan.next (s : Scan) (c : Char) : Scan :=
  if c = '\x7d' ∧ s.isQuoted = false then ⟨s.bracketCount - 1, s.isQuoted, some c⟩
  else if c = '\x7b' ∧ s.isQuoted = false then ⟨s.bracketCount + 1, s.isQuoted, some c⟩
  else if c = '"' ∧ s.prevChar ≠ some '\\' then ⟨s.bracketCount, !s.isQuoted, some c⟩
  else ⟨s.bracketCount, s.isQuoted, some c⟩

/-- The loop over the characters, with `pos`. -/
def scanChars (s : Scan) : List Char → Scan × ℕ
  | [] => (s, 0)
  | c :: rest =>
      let s := s.next c
      if s.bracketCount = 0 then (s, 1)
      else
        let (s, pos) := scanChars s rest
        (s, pos + 1)

/-! ### The loop -/

/-- What `recv` does. -/
inductive Recv
  /-- It returns some bytes, and none if the peer has closed the connection. -/
  | chunk (msg : List UInt8)
  /-- It raises `socket.timeout`. -/
  | timeout
  deriving DecidableEq

/-- The local variables of a turn. -/
structure ReadState where
  /-- `full_msg`. -/
  fullMsg : List Char
  /-- The variables of the scan. -/
  scan : Scan
  deriving DecidableEq

/-- What becomes of a turn when `recv` has returned. -/
inductive ReadOutcome
  /-- It goes on, with the text that is kept. -/
  | more (r : ReadState) (newMessage : List Char)
  /-- The loop is left. -/
  | done (fullMsg newMessage : List Char)
  /-- The bytes are no text. -/
  | raised
  deriving DecidableEq

/-- A chunk is scanned. -/
def readChunk (r : ReadState) (msgStr : List Char) : ReadOutcome :=
  let (scan, pos) := scanChars r.scan msgStr
  let fullMsg := r.fullMsg ++ msgStr.take pos
  if pos < msgStr.length then .done fullMsg (msgStr.drop pos)
  else if scan.bracketCount = 0 ∧ 0 < fullMsg.length then .done fullMsg []
  else .more ⟨fullMsg, scan⟩ []

/-- One turn of the loop. -/
def readStep (r : ReadState) (newMessage : List Char) : Recv → ReadOutcome
  | .timeout => .done r.fullMsg newMessage
  | .chunk msg =>
      match decodeUtf8 msg with
      | none => .raised
      | some msgStr => readChunk r msgStr

/-- What becomes of the loop. -/
inductive TurnResult
  /-- It waits in `recv`. -/
  | waiting (r : ReadState) (newMessage : List Char)
  /-- It was left, with what has not been received yet. -/
  | ended (fullMsg newMessage : List Char) (rest : List Recv)
  /-- It was left by an exception. -/
  | raised (newMessage : List Char) (rest : List Recv)
  deriving DecidableEq

/-- The loop. -/
def readTurn (r : ReadState) (newMessage : List Char) : List Recv → TurnResult
  | [] => .waiting r newMessage
  | e :: rest =>
      match readStep r newMessage e with
      | .more r newMessage => readTurn r newMessage rest
      | .done fullMsg newMessage => .ended fullMsg newMessage rest
      | .raised => .raised newMessage rest

/-- The variables at the start of a turn, with the text that was kept. -/
def ReadState.start (newMessage : List Char) : ReadState := ⟨newMessage, Scan.start⟩

/-- A turn of `Server.handle_client` up to the end of its inner loop; `newMessage` is
`self.new_message`. -/
def handleClientTurn (newMessage : List Char) (events : List Recv) : TurnResult :=
  readTurn (.start newMessage) newMessage events

/-- `Client.receiveMessage`: the caller keeps what is returned next to the message in
`self.new_message`. -/
def receiveMessage (newMessage : List Char) (events : List Recv) : TurnResult :=
  readTurn (.start newMessage) newMessage events

/-- The texts that `k` turns return one after the other; `none` if one of them does not return. -/
def readTurns (read : List Char → List Recv → TurnResult) :
    ℕ → List Char → List Recv → Option (List (List Char))
  | 0, _, _ => some []
  | k + 1, newMessage, events =>
      match read newMessage events with
      | .ended fullMsg newMessage rest =>
          (readTurns read k newMessage rest).map (fullMsg :: ·)
      | _ => none

/-- The bytes that have been received. -/
def receivedBytes (events : List Recv) : List UInt8 :=
  events.flatMap fun e =>
    match e with
    | .chunk msg => msg
    | .timeout => []

/-- The chunks of some texts. -/
def received (texts : List (List Char)) : List Recv := texts.map fun t => .chunk (encodeUtf8 t)

/-- The stream up to the character where the bracket count is zero, and the rest. -/
def scanCut (s : Scan) (text : List Char) : Option (List Char × List Char) :=
  cut Scan.next (fun s => s.bracketCount = 0) s text

/-- The first message of a stream: its shortest part, with at least one character, at whose end
the bracket count is zero. -/
def scan (text : List Char) : Option (List Char) := (scanCut Scan.start text).map Prod.fst

/-! ### What a chunk does -/

/-- **Bytes are the text that they encode.** -/
theorem decodeUtf8_eq_some_iff {msg : List UInt8} {t : List Char} :
    decodeUtf8 msg = some t ↔ msg = encodeUtf8 t := by
  have hencode : (encodeUtf8 t).toByteArray = t.utf8Encode := rfl
  unfold decodeUtf8
  constructor
  · intro h
    obtain ⟨a, ha, rfl⟩ := Option.map_eq_some_iff.mp h
    have hsome : msg.toByteArray.utf8Decode?.isSome := by rw [ha]; rfl
    have hback := ByteArray.utf8Encode_get_utf8Decode? (h := hsome)
    simp only [ha, Option.get_some] at hback
    rw [← hencode] at hback
    have hdata := congrArg ByteArray.data hback
    rw [List.data_toByteArray, List.data_toByteArray] at hdata
    simpa using hdata.symm
  · rintro rfl
    rw [hencode, List.utf8Decode?_utf8Encode]
    simp

theorem decodeUtf8_encodeUtf8 (t : List Char) : decodeUtf8 (encodeUtf8 t) = some t :=
  decodeUtf8_eq_some_iff.mpr rfl

theorem encodeUtf8_injective : Function.Injective encodeUtf8 := by
  intro t t' h
  have hdecode := decodeUtf8_encodeUtf8 t
  rw [h, decodeUtf8_encodeUtf8] at hdecode
  exact (Option.some.inj hdecode).symm

theorem encodeUtf8_append (t t' : List Char) :
    encodeUtf8 (t ++ t') = encodeUtf8 t ++ encodeUtf8 t' := List.flatMap_append

theorem scanChars_eq (s : Scan) (text : List Char) :
    scanChars s text = match scanCut s text with
      | some (p, _) => (p.foldl Scan.next s, p.length)
      | none => (text.foldl Scan.next s, text.length) := by
  induction text generalizing s with
  | nil => rfl
  | cons c rest ih =>
    unfold scanChars scanCut cut
    by_cases hzero : (s.next c).bracketCount = 0
    · simp [hzero]
    · simp only [hzero, if_false, ih]
      unfold scanCut
      cases cut Scan.next (fun s => s.bracketCount = 0) (s.next c) rest <;> rfl

/-- If the first part of a text does not bring the count to zero, the scan goes on behind it. -/
theorem scanCut_append_of_none {s : Scan} {text : List Char} (h : scanCut s text = none)
    (text' : List Char) : scanCut s (text ++ text') =
      (scanCut (text.foldl Scan.next s) text').map fun (p, r) => (text ++ p, r) :=
  cut_append_of_none h text'

/-- If it does, the scan does not look at the rest. -/
theorem scanCut_append_of_some {s : Scan} {text p r : List Char}
    (h : scanCut s text = some (p, r)) (text' : List Char) :
    scanCut s (text ++ text') = some (p, r ++ text') :=
  cut_append_of_some h text'

/-- A chunk in which the bracket count becomes zero ends the turn. -/
theorem readChunk_of_cut {r : ReadState} {msgStr p l : List Char}
    (h : scanCut r.scan msgStr = some (p, l)) : readChunk r msgStr = .done (r.fullMsg ++ p) l := by
  obtain ⟨rfl, hp, hzero, -⟩ := cut_eq_some_iff.mp h
  unfold readChunk
  rw [scanChars_eq, h]
  simp only [List.length_append, List.take_left, List.drop_left]
  by_cases hl : l = []
  · subst hl
    have hpos : 0 < p.length := List.length_pos_iff.mpr hp
    rw [if_neg (by simp), if_pos ⟨hzero, by omega⟩]
  · have hpos : 0 < l.length := List.length_pos_iff.mpr hl
    rw [if_pos (by omega)]

/-- A chunk in which it does not is added to the text. -/
theorem readChunk_of_no_cut {r : ReadState} {msgStr : List Char} (hne : msgStr ≠ [])
    (h : scanCut r.scan msgStr = none) :
    readChunk r msgStr = .more ⟨r.fullMsg ++ msgStr, msgStr.foldl Scan.next r.scan⟩ [] := by
  have hzero := cut_eq_none_iff.mp h msgStr (List.prefix_refl _) hne
  unfold readChunk
  rw [scanChars_eq, h]
  simp only [List.take_length]
  rw [if_neg (Nat.lt_irrefl _), if_neg (fun hdone => hzero hdone.1)]

/-- At the end of the stream a turn ends if it has some text and no open bracket. -/
theorem readChunk_nil (r : ReadState) :
    readChunk r [] = if r.scan.bracketCount = 0 ∧ r.fullMsg ≠ [] then .done r.fullMsg []
      else .more r [] := by
  unfold readChunk
  simp [scanChars, List.length_pos_iff]

/-! ### What a turn makes of some chunks -/

theorem readStep_received (r : ReadState) (newMessage t : List Char) :
    readStep r newMessage (.chunk (encodeUtf8 t)) = readChunk r t := by
  unfold readStep
  simp only [decodeUtf8_encodeUtf8]

/-- **A turn waits** as long as the bracket count of what comes is not zero. -/
theorem readTurn_of_no_cut (r : ReadState) (newMessage : List Char) {chunks : List (List Char)}
    (hne : ∀ c ∈ chunks, c ≠ []) (h : scanCut r.scan chunks.flatten = none) (events : List Recv) :
    readTurn r newMessage (received chunks ++ events) =
      readTurn ⟨r.fullMsg ++ chunks.flatten, chunks.flatten.foldl Scan.next r.scan⟩
        (if chunks = [] then newMessage else []) events := by
  induction chunks generalizing r newMessage with
  | nil => simp [received]
  | cons c chunks ih =>
    rw [List.flatten_cons] at h
    have hc : scanCut r.scan c = none := by
      cases hcut : scanCut r.scan c with
      | none => rfl
      | some pr =>
        rw [scanCut_append_of_some hcut] at h
        cases h
    have hrest : scanCut (c.foldl Scan.next r.scan) chunks.flatten = none := by
      rw [scanCut_append_of_none hc, Option.map_eq_none_iff] at h
      exact h
    rw [received, List.map_cons, List.cons_append, readTurn, readStep_received,
      readChunk_of_no_cut (hne c List.mem_cons_self) hc]
    refine (ih _ _ (fun d hd => hne d (List.mem_cons_of_mem _ hd)) hrest).trans ?_
    simp [List.foldl_append]

/-- **A turn ends in the chunk in which the bracket count becomes zero**, and what is left of this
chunk is kept. -/
theorem readTurn_of_cut (r : ReadState) (newMessage : List Char) {chunks : List (List Char)}
    {p l : List Char} (hne : ∀ c ∈ chunks, c ≠ []) (h : scanCut r.scan chunks.flatten = some (p, l))
    (events : List Recv) :
    ∃ pre c post kept, chunks = pre ++ c :: post ∧ p ++ kept = pre.flatten ++ c ∧
      kept.length < c.length ∧
      readTurn r newMessage (received chunks ++ events) =
        .ended (r.fullMsg ++ p) kept (received post ++ events) := by
  induction chunks generalizing r newMessage p l with
  | nil => cases h
  | cons c chunks ih =>
    rw [List.flatten_cons] at h
    cases hcut : scanCut r.scan c with
    | some pr =>
      obtain ⟨p', kept⟩ := pr
      rw [scanCut_append_of_some hcut] at h
      cases h
      obtain ⟨hc, hp, -⟩ := cut_eq_some_iff.mp hcut
      have hpos : 0 < p.length := List.length_pos_iff.mpr hp
      refine ⟨[], c, chunks, kept, rfl, by simp [hc], by rw [hc, List.length_append]; omega, ?_⟩
      rw [received, List.map_cons, List.cons_append, readTurn, readStep_received,
        readChunk_of_cut hcut]
      rfl
    | none =>
      rw [scanCut_append_of_none hcut] at h
      obtain ⟨⟨p', l'⟩, hrest, heq⟩ := Option.map_eq_some_iff.mp h
      cases heq
      obtain ⟨pre, d, post, kept, rfl, hkept, hlt, hturn⟩ :=
        ih ⟨r.fullMsg ++ c, c.foldl Scan.next r.scan⟩ []
          (fun d hd => hne d (List.mem_cons_of_mem _ hd)) hrest
      refine ⟨c :: pre, d, post, kept, rfl, ?_, hlt, ?_⟩
      · rw [List.append_assoc, hkept, List.flatten_cons, List.append_assoc]
      · rw [received, List.map_cons, List.cons_append, readTurn, readStep_received,
          readChunk_of_no_cut (hne c List.mem_cons_self) hcut]
        refine hturn.trans ?_
        rw [List.append_assoc]

/-! ### Turns and the messages of a stream -/

/-- A character that is no bracket does not change the count. -/
theorem next_of_no_bracket (s : Scan) {c : Char} (hopen : c ≠ '\x7b') (hclose : c ≠ '\x7d') :
    (s.next c).bracketCount = s.bracketCount := by
  unfold Scan.next
  simp only [hopen, hclose, false_and, if_false]
  split <;> rfl

/-- A bracket changes it outside of quotes, and not inside. -/
theorem next_of_bracket {c : Char} (hc : c = '\x7b' ∨ c = '\x7d') : ∃ d : ℤ, d ≠ 0 ∧
    (∀ n prev, (⟨n, false, prev⟩ : Scan).next c = ⟨n + d, false, some c⟩) ∧
      ∀ n prev, (⟨n, true, prev⟩ : Scan).next c = ⟨n, true, some c⟩ := by
  unfold Scan.next
  rcases hc with rfl | rfl
  · exact ⟨1, by decide, by simp, by simp⟩
  · exact ⟨-1, by decide, by simp [Int.sub_eq_add_neg], by simp⟩

/-- Of two scans, one inside of quotes and one outside, one does not count. -/
theorem next_of_flipped {x y : Scan} (h : y.isQuoted = !x.isQuoted) (c : Char) :
    (x.next c).bracketCount = x.bracketCount ∨ (y.next c).bracketCount = y.bracketCount := by
  obtain ⟨n, b, prev⟩ := x
  obtain ⟨m, b', prev'⟩ := y
  simp only at h
  subst h
  by_cases hc : c = '\x7b' ∨ c = '\x7d'
  · obtain ⟨d, -, -, hquoted⟩ := next_of_bracket hc
    cases b with
    | true =>
      rw [hquoted]
      exact .inl rfl
    | false =>
      rw [Bool.not_false, hquoted]
      exact .inr rfl
  · push Not at hc
    exact .inl (next_of_no_bracket _ hc.1 hc.2)

/-- Two scans that differ in the count differ in the count for good. -/
theorem foldl_next_offset (q : List Char) (n k : ℤ) (b : Bool) (prev : Option Char) :
    q.foldl Scan.next ⟨n + k, b, prev⟩ =
      { q.foldl Scan.next ⟨n, b, prev⟩ with
        bracketCount := (q.foldl Scan.next ⟨n, b, prev⟩).bracketCount + k } := by
  induction q generalizing n b prev with
  | nil => rfl
  | cons c q ih =>
    rw [List.foldl_cons, List.foldl_cons]
    have hstep : (⟨n + k, b, prev⟩ : Scan).next c =
        ⟨((⟨n, b, prev⟩ : Scan).next c).bracketCount + k, ((⟨n, b, prev⟩ : Scan).next c).isQuoted,
          ((⟨n, b, prev⟩ : Scan).next c).prevChar⟩ := by
      unfold Scan.next
      split
      · simp only [Scan.mk.injEq, and_true]
        omega
      · split
        · simp only [Scan.mk.injEq, and_true]
          omega
        · split <;> rfl
    rw [hstep, ih]

/-- Two scans of which one is inside of quotes where the other is outside stay so, with the same
last character. -/
theorem foldl_next_flipped (q : List Char) (n m : ℤ) (b : Bool) (prev : Option Char) :
    (q.foldl Scan.next ⟨m, !b, prev⟩).isQuoted = !(q.foldl Scan.next ⟨n, b, prev⟩).isQuoted ∧
      (q.foldl Scan.next ⟨m, !b, prev⟩).prevChar = (q.foldl Scan.next ⟨n, b, prev⟩).prevChar := by
  induction q generalizing n m b prev with
  | nil => exact ⟨rfl, rfl⟩
  | cons c q ih =>
    rw [List.foldl_cons, List.foldl_cons]
    have hstep : ∃ n' m' b', (⟨n, b, prev⟩ : Scan).next c = ⟨n', b', some c⟩ ∧
        (⟨m, !b, prev⟩ : Scan).next c = ⟨m', !b', some c⟩ := by
      unfold Scan.next
      -- a quote that counts flips both flags; any other character flips neither
      by_cases hquote : c = '"' ∧ prev ≠ some '\\'
      · have hopen : ∀ x : Bool, ¬ (c = '\x7b' ∧ x = false) := by
          rw [hquote.1]
          exact fun _ h => absurd h.1 (by decide)
        have hclose : ∀ x : Bool, ¬ (c = '\x7d' ∧ x = false) := by
          rw [hquote.1]
          exact fun _ h => absurd h.1 (by decide)
        refine ⟨n, m, !b, ?_, ?_⟩
        · rw [if_neg (hclose _), if_neg (hopen _), if_pos hquote]
        · rw [if_neg (hclose _), if_neg (hopen _), if_pos hquote]
      · refine ⟨(Scan.next ⟨n, b, prev⟩ c).bracketCount, (Scan.next ⟨m, !b, prev⟩ c).bracketCount,
          b, ?_, ?_⟩
        · unfold Scan.next
          simp only [hquote, if_false]
          split_ifs <;> rfl
        · unfold Scan.next
          simp only [hquote, if_false]
          split_ifs <;> rfl
    obtain ⟨n', m', b', h, h'⟩ := hstep
    rw [h, h']
    exact ih n' m' b' (some c)

/-- **Text that was kept is not scanned again, and this is always noticed**: the message is not the
kept text and what a scan that starts afresh behind it finds. -/
theorem scan_ne_kept_append {kept q : List Char} (hkept : kept ≠ []) {text text' r r' : List Char}
    (hq : scanCut Scan.start text = some (q, r)) :
    scanCut Scan.start text' ≠ some (kept ++ q, r') := by
  intro hp
  obtain ⟨-, hqne, hq0, hqshort⟩ := cut_eq_some_iff.mp hq
  obtain ⟨-, -, hp0, hpshort⟩ := cut_eq_some_iff.mp hp
  rw [List.foldl_append] at hp0
  obtain ⟨n, b, prev, hstate⟩ : ∃ n b prev, kept.foldl Scan.next Scan.start = ⟨n, b, prev⟩ :=
    ⟨_, _, _, rfl⟩
  have hn : n ≠ 0 := by
    have hcount := hpshort kept (List.prefix_append kept q) hkept (by simp [hqne])
    rwa [hstate] at hcount
  rw [hstate] at hp0
  cases q with
  | nil => exact hqne rfl
  | cons c q =>
    by_cases hc : c = '\x7b' ∨ c = '\x7d'
    · obtain ⟨d, hd, hplain, hquoted⟩ := next_of_bracket hc
      have hstart : Scan.start.next c = ⟨0 + d, false, some c⟩ := hplain 0 none
      rw [List.foldl_cons, hstart] at hq0
      cases b with
      | false =>
        -- the counts differ by that of the kept text
        rw [List.foldl_cons, hplain, Int.add_comm, ← Int.zero_add d, foldl_next_offset] at hp0
        simp only at hp0
        omega
      | true =>
        rw [List.foldl_cons, hquoted] at hp0
        -- the last character counts in one scan only
        rcases List.eq_nil_or_concat q with rfl | ⟨q, e, rfl⟩
        · exact hd (by simpa using hq0)
        · rw [List.concat_eq_append] at hq0 hp0 hqshort hpshort
          rw [List.foldl_append, List.foldl_cons, List.foldl_nil] at hq0 hp0
          have hx := hqshort (c :: q) ⟨[e], rfl⟩ (by simp) (by simp)
          have hy := hpshort (kept ++ c :: q) ⟨[e], by simp⟩ (by simp) (by simp)
          rw [List.foldl_cons, hstart] at hx
          rw [List.foldl_append, hstate, List.foldl_cons, hquoted] at hy
          rcases next_of_flipped (foldl_next_flipped q (0 + d) n false (some c)).1 e with heq | heq
          · exact hx (heq.symm.trans hq0)
          · exact hy (heq.symm.trans hp0)
    · push Not at hc
      -- a single character, which leaves the count as it was
      have hone : (Scan.start.next c).bracketCount = 0 := next_of_no_bracket _ hc.1 hc.2
      have hnil : q = [] := by
        by_contra hne
        exact hqshort [c] ⟨q, rfl⟩ (by simp) (by simpa using Ne.symm hne) hone
      subst hnil
      rw [List.foldl_cons, List.foldl_nil, next_of_no_bracket _ hc.1 hc.2] at hp0
      exact hn hp0

/-- A turn over chunks of a stream. -/
theorem readTurn_start (newMessage : List Char) {chunks : List (List Char)} {p l : List Char}
    (hne : ∀ c ∈ chunks, c ≠ []) (h : scanCut Scan.start chunks.flatten = some (p, l)) :
    ∃ pre c post kept, chunks = pre ++ c :: post ∧ p ++ kept = pre.flatten ++ c ∧
      kept.length < c.length ∧
      readTurn (.start newMessage) newMessage (received chunks) =
        .ended (newMessage ++ p) kept (received post) := by
  obtain ⟨pre, c, post, kept, hchunks, hkept, hlt, hturn⟩ :=
    readTurn_of_cut (.start newMessage) newMessage hne h []
  rw [List.append_nil, List.append_nil] at hturn
  exact ⟨pre, c, post, kept, hchunks, hkept, hlt, hturn⟩

section Turns

variable {read : List Char → List Recv → TurnResult}
  (hread : ∀ m events, read m events = readTurn (.start m) m events)

include hread

/-- Once some text is kept, the next turn does not return the next message. -/
theorem readTurns_kept_ne {chunks messages : List (List Char)} {kept p text l : List Char}
    (hne : ∀ c ∈ chunks, c ≠ []) (hkept : kept ≠ [])
    (hscan : scanCut Scan.start text = some (p, l)) (k : ℕ) :
    readTurns read (k + 1) kept (received chunks) ≠ some (p :: messages) := by
  intro h
  rw [readTurns, hread] at h
  cases hcut : scanCut Scan.start chunks.flatten with
  | none =>
    have hwait := readTurn_of_no_cut (.start kept) kept hne hcut []
    rw [List.append_nil] at hwait
    rw [hwait] at h
    cases h
  | some ql =>
    obtain ⟨pre, c, post, kept', -, -, -, hturn⟩ := readTurn_start kept hne hcut
    rw [hturn] at h
    obtain ⟨ts, -, heq⟩ := Option.map_eq_some_iff.mp h
    injection heq with heq
    exact scan_ne_kept_append hkept hcut (heq ▸ hscan)

/-- **Turns return the messages of a stream exactly if every message ends where a chunk ends.** -/
theorem readTurns_eq_iff {chunks messages : List (List Char)} (hne : ∀ c ∈ chunks, c ≠ [])
    (hflat : chunks.flatten = messages.flatten)
    (hscan : ∀ i (hi : i < messages.length), scan (messages.drop i).flatten = some messages[i]) :
    readTurns read messages.length [] (received chunks) = some messages ↔
      Aligned chunks messages := by
  induction messages generalizing chunks with
  | nil => exact ⟨fun _ i hi => ⟨0, by simp⟩, fun _ => rfl⟩
  | cons p messages ih =>
    have hscan' : ∀ i (hi : i < messages.length),
        scan (messages.drop i).flatten = some messages[i] := by
      intro i hi
      exact hscan (i + 1) (by simpa using hi)
    obtain ⟨⟨q, l⟩, hcut, rfl⟩ := Option.map_eq_some_iff.mp (hscan 0 (by simp))
    rw [List.drop_zero, ← hflat] at hcut
    obtain ⟨pre, c, post, kept, rfl, hkept, hlt, hturn⟩ := readTurn_start [] hne hcut
    have hpost : kept ++ post.flatten = messages.flatten := by
      rw [List.flatten_append, List.flatten_cons, ← List.append_assoc, ← hkept,
        List.append_assoc] at hflat
      exact List.append_cancel_left hflat
    have hne' : ∀ d ∈ post, d ≠ [] := fun d hd => hne d (by simp [hd])
    rw [List.length_cons, readTurns, hread, hturn]
    simp only [List.nil_append]
    by_cases hnil : kept = []
    · -- the message ends with the chunk: the next turn starts afresh
      subst hnil
      rw [List.append_nil] at hkept
      rw [aligned_cons_iff hkept (hne c (by simp)), ← ih hne' hpost hscan']
      cases readTurns read messages.length [] (received post) with
      | none => simp
      | some ts => simp
    · -- the next turn starts in the middle of a message
      refine iff_of_false ?_ (not_aligned_of_kept hkept hnil hlt)
      intro h
      obtain ⟨ts, hts, heq⟩ := Option.map_eq_some_iff.mp h
      injection heq with _ heq
      subst heq
      cases ts with
      | nil =>
        rw [List.flatten_nil] at hpost
        exact hnil (List.append_eq_nil_iff.mp hpost).1
      | cons p' ts =>
        obtain ⟨⟨q', l'⟩, hcut', rfl⟩ := Option.map_eq_some_iff.mp (hscan' 0 (by simp))
        exact readTurns_kept_ne hread hne' hnil hcut' ts.length hts

end Turns

/-- **Chunked reading and the stream**: on the server as on the client, turns return the messages of
a stream exactly if every message ends where a chunk ends. -/
theorem turns_eq_scan_iff {chunks messages : List (List Char)} (hne : ∀ c ∈ chunks, c ≠ [])
    (hflat : chunks.flatten = messages.flatten)
    (hscan : ∀ i (hi : i < messages.length), scan (messages.drop i).flatten = some messages[i]) :
    (readTurns handleClientTurn messages.length [] (received chunks) = some messages ↔
        Aligned chunks messages) ∧
      (readTurns receiveMessage messages.length [] (received chunks) = some messages ↔
        Aligned chunks messages) :=
  ⟨readTurns_eq_iff (fun _ _ => rfl) hne hflat hscan,
    readTurns_eq_iff (fun _ _ => rfl) hne hflat hscan⟩

/-- Two empty objects. -/
def twoObjects : List (List Char) := ["\x7b\x7d".toList, "\x7b\x7d".toList]

/-- If they come one by one, two turns return them. -/
theorem turns_of_two_chunks :
    readTurns handleClientTurn twoObjects.length [] (received twoObjects) = some twoObjects ∧
      readTurns receiveMessage twoObjects.length [] (received twoObjects) = some twoObjects := by
  obtain ⟨hserver, hclient⟩ :=
    turns_eq_scan_iff (show ∀ c ∈ twoObjects, c ≠ [] by decide) rfl
      (show ∀ i (hi : i < twoObjects.length),
          scan (twoObjects.drop i).flatten = some twoObjects[i] by
        decide)
  exact ⟨hserver.mpr fun i _ => ⟨i, rfl⟩, hclient.mpr fun i _ => ⟨i, rfl⟩⟩

/-- If they come together, the second turn does not return the second. -/
theorem turns_of_one_chunk :
    ∃ chunks messages : List (List Char), (∀ c ∈ chunks, c ≠ [] ∧ c.length ≤ 16) ∧
      chunks.flatten = messages.flatten ∧
      (∀ i (hi : i < messages.length), scan (messages.drop i).flatten = some messages[i]) ∧
      readTurns handleClientTurn messages.length [] (received chunks) ≠ some messages ∧
      readTurns receiveMessage messages.length [] (received chunks) ≠ some messages := by
  have hserver : ∀ m events, handleClientTurn m events = readTurn (.start m) m events :=
    fun _ _ => rfl
  have hclient : ∀ m events, receiveMessage m events = readTurn (.start m) m events :=
    fun _ _ => rfl
  have hkept : ¬ Aligned [twoObjects.flatten] twoObjects :=
    not_aligned_of_kept
      (show "\x7b\x7d".toList ++ "\x7b\x7d".toList = [].flatten ++ twoObjects.flatten
      by rfl) (by decide) (by decide)
  have hne : ∀ c ∈ [twoObjects.flatten], c ≠ [] := by decide
  have hscan : ∀ i (hi : i < twoObjects.length),
      scan (twoObjects.drop i).flatten = some twoObjects[i] := by decide
  have hflat : [twoObjects.flatten].flatten = twoObjects.flatten := rfl
  refine ⟨[twoObjects.flatten], twoObjects, by decide, hflat, hscan, ?_, ?_⟩
  · exact fun h => hkept ((readTurns_eq_iff hserver hne hflat hscan).mp h)
  · exact fun h => hkept ((readTurns_eq_iff hclient hne hflat hscan).mp h)

/-! ### Turns after the peer has closed the connection -/

/-- The loop has been left. -/
def TurnResult.Ends : TurnResult → Prop
  | .waiting _ _ => False
  | _ => True

/-- `recv` after the peer has closed the connection, `n` times. -/
def closedByPeer (n : ℕ) : List Recv := List.replicate n (.chunk [])

/-- Chunks are texts up to the first that is none. -/
theorem chunks_cases (chunks : List (List UInt8)) :
    (∃ texts : List (List Char), chunks = texts.map encodeUtf8) ∨
      ∃ (texts : List (List Char)) (msg : List UInt8) (post : List (List UInt8)),
        chunks = texts.map encodeUtf8 ++ msg :: post ∧ decodeUtf8 msg = none := by
  induction chunks with
  | nil => exact .inl ⟨[], rfl⟩
  | cons msg chunks ih =>
    cases hmsg : decodeUtf8 msg with
    | none => exact .inr ⟨[], msg, chunks, rfl, hmsg⟩
    | some t =>
      rw [decodeUtf8_eq_some_iff] at hmsg
      subst hmsg
      rcases ih with ⟨texts, rfl⟩ | ⟨texts, msg, post, rfl, hnone⟩
      · exact .inl ⟨t :: texts, rfl⟩
      · exact .inr ⟨t :: texts, msg, post, rfl, hnone⟩

/-- **At the end of the stream a turn ends at once, or never.** -/
theorem readTurn_closedByPeer_iff (r : ReadState) (newMessage : List Char) :
    (∃ n, (readTurn r newMessage (closedByPeer n)).Ends) ↔
      r.scan.bracketCount = 0 ∧ r.fullMsg ≠ [] := by
  have hstep : ∀ m, readStep r m (.chunk []) = readChunk r [] := fun m => readStep_received r m []
  by_cases hdone : r.scan.bracketCount = 0 ∧ r.fullMsg ≠ []
  · refine iff_of_true ⟨1, ?_⟩ hdone
    rw [closedByPeer, List.replicate_one, readTurn, hstep, readChunk_nil, if_pos hdone]
    trivial
  · refine iff_of_false ?_ hdone
    rintro ⟨n, hn⟩
    have hwait : ∀ m, ∃ m', readTurn r m (closedByPeer n) = .waiting r m' := by
      clear hn
      induction n with
      | zero => exact fun m => ⟨m, rfl⟩
      | succ n ih =>
        intro m
        rw [closedByPeer, List.replicate_succ, readTurn, hstep, readChunk_nil, if_neg hdone]
        exact ih []
    obtain ⟨m', hm'⟩ := hwait newMessage
    rw [hm'] at hn
    exact hn

theorem map_chunk_encodeUtf8 (texts : List (List Char)) :
    (texts.map encodeUtf8).map Recv.chunk = received texts := by
  rw [List.map_map]
  rfl

/-- The texts of chunks that are not empty are not empty. -/
theorem ne_nil_of_encodeUtf8 {texts : List (List Char)}
    (h : ∀ c ∈ texts.map encodeUtf8, c ≠ []) : ∀ t ∈ texts, t ≠ [] := by
  rintro t ht rfl
  exact h _ (List.mem_map_of_mem ht) rfl

/-- If texts are received and then nothing any more: there is a message in the texts, or there
are none, and the text that was kept is taken for one. -/
theorem readTurn_received_ends_iff (newMessage : List Char) {texts : List (List Char)}
    (hne : ∀ t ∈ texts, t ≠ []) :
    (∃ n, (readTurn (.start newMessage) newMessage (received texts ++ closedByPeer n)).Ends) ↔
      scan texts.flatten ≠ none ∨ (texts = [] ∧ newMessage ≠ []) := by
  cases hcut : scanCut Scan.start texts.flatten with
  | some pl =>
    obtain ⟨p, l⟩ := pl
    refine iff_of_true ⟨0, ?_⟩ (.inl (by simp [scan, hcut]))
    obtain ⟨pre, c, post, kept, -, -, -, hturn⟩ :=
      readTurn_of_cut (.start newMessage) newMessage hne hcut (closedByPeer 0)
    rw [hturn]
    trivial
  | none =>
    have hscan : ¬ scan texts.flatten ≠ none := by simp [scan, hcut]
    rw [or_iff_right hscan]
    simp only [readTurn_of_no_cut (.start newMessage) newMessage hne hcut,
      readTurn_closedByPeer_iff]
    by_cases hnil : texts = []
    · subst hnil
      simp [ReadState.start, Scan.start]
    · -- a text that was scanned left a bracket open
      have hflat : texts.flatten ≠ [] := by
        rw [Ne, List.flatten_eq_nil_iff]
        intro hall
        obtain ⟨t, ht⟩ := List.exists_mem_of_ne_nil texts hnil
        exact hne t ht (hall t ht)
      have hcount := cut_eq_none_iff.mp hcut _ (List.prefix_refl _) hflat
      exact iff_of_false (fun h => hcount h.1) (fun h => hnil h.1)

/-- What is no text ends the turn with an exception, if it has not ended before. -/
theorem readTurn_ends_of_undecoded (newMessage : List Char) {texts : List (List Char)}
    (hne : ∀ t ∈ texts, t ≠ []) {msg : List UInt8} (hmsg : decodeUtf8 msg = none)
    (events : List Recv) :
    (readTurn (.start newMessage) newMessage (received texts ++ .chunk msg :: events)).Ends := by
  cases hcut : scanCut Scan.start texts.flatten with
  | some pl =>
    obtain ⟨p, l⟩ := pl
    obtain ⟨pre, c, post, kept, -, -, -, hturn⟩ := readTurn_of_cut (.start newMessage)
      newMessage hne hcut (.chunk msg :: events)
    rw [hturn]
    trivial
  | none =>
    rw [readTurn_of_no_cut (.start newMessage) newMessage hne hcut, readTurn]
    simp only [readStep, hmsg]
    trivial

theorem readTurn_ends_iff (newMessage : List Char) {chunks : List (List UInt8)}
    (hne : ∀ c ∈ chunks, c ≠ []) :
    (∃ n, (readTurn (.start newMessage) newMessage
        (chunks.map .chunk ++ closedByPeer n)).Ends) ↔
      (∃ c ∈ chunks, decodeUtf8 c = none) ∨
      (∃ texts : List (List Char), chunks = texts.map encodeUtf8 ∧ scan texts.flatten ≠ none) ∨
      (chunks = [] ∧ newMessage ≠ []) := by
  rcases chunks_cases chunks with ⟨texts, rfl⟩ | ⟨texts, msg, post, rfl, hmsg⟩
  · have hinj := List.map_injective_iff.mpr encodeUtf8_injective
    have hdecodes : ¬ ∃ c ∈ texts.map encodeUtf8, decodeUtf8 c = none := by
      rintro ⟨c, hc, hnone⟩
      obtain ⟨t, -, rfl⟩ := List.mem_map.mp hc
      rw [decodeUtf8_encodeUtf8] at hnone
      cases hnone
    have htexts : (∃ texts' : List (List Char),
        texts.map encodeUtf8 = texts'.map encodeUtf8 ∧ scan texts'.flatten ≠ none) ↔
          scan texts.flatten ≠ none := by
      constructor
      · rintro ⟨texts', heq, hscan⟩
        rwa [hinj heq]
      · exact fun hscan => ⟨texts, rfl, hscan⟩
    rw [or_iff_right hdecodes, htexts, List.map_eq_nil_iff, map_chunk_encodeUtf8]
    exact readTurn_received_ends_iff newMessage (ne_nil_of_encodeUtf8 hne)
  · refine iff_of_true ⟨0, ?_⟩ (.inl ⟨msg, by simp, hmsg⟩)
    have hne' := ne_nil_of_encodeUtf8 fun c hc => hne c (List.mem_append_left _ hc)
    rw [List.map_append, map_chunk_encodeUtf8, List.append_assoc, List.map_cons, List.cons_append]
    exact readTurn_ends_of_undecoded newMessage hne' hmsg _

/-- **When a turn ends after the peer has closed the connection.**  The chunks received in the turn
have to complete a message, or to be no text; or nothing is received and there is text that was
kept. -/
theorem turn_ends_iff (newMessage : List Char) {chunks : List (List UInt8)}
    (hne : ∀ c ∈ chunks, c ≠ []) :
    ((∃ n, (handleClientTurn newMessage (chunks.map .chunk ++ closedByPeer n)).Ends) ↔
      (∃ c ∈ chunks, decodeUtf8 c = none) ∨
      (∃ texts : List (List Char), chunks = texts.map encodeUtf8 ∧ scan texts.flatten ≠ none) ∨
      (chunks = [] ∧ newMessage ≠ [])) ∧
    ((∃ n, (receiveMessage newMessage (chunks.map .chunk ++ closedByPeer n)).Ends) ↔
      (∃ c ∈ chunks, decodeUtf8 c = none) ∨
      (∃ texts : List (List Char), chunks = texts.map encodeUtf8 ∧ scan texts.flatten ≠ none) ∨
      (chunks = [] ∧ newMessage ≠ [])) :=
  ⟨readTurn_ends_iff newMessage hne, readTurn_ends_iff newMessage hne⟩

/-- A complete message. -/
theorem turn_ends_of_message :
    ∃ n, (handleClientTurn [] ([encodeUtf8 "\x7b\x7d".toList].map .chunk ++ closedByPeer n)).Ends :=
  (turn_ends_iff [] (by decide)).1.mpr (.inr (.inl ⟨["\x7b\x7d".toList], rfl, by decide⟩))

/-- A turn in which nothing was received before the peer closed the connection does not end, nor
does one that received a part of a message. -/
theorem turn_does_not_end :
    (¬ ∃ n, (handleClientTurn [] (closedByPeer n)).Ends) ∧
      (¬ ∃ n, (receiveMessage [] (closedByPeer n)).Ends) ∧
      ¬ ∃ n, (handleClientTurn [] (received ["\x7b".toList] ++ closedByPeer n)).Ends := by
  have hnothing : ¬ ∃ n, (readTurn (.start []) [] (closedByPeer n)).Ends := by
    rw [readTurn_closedByPeer_iff]
    decide
  refine ⟨hnothing, hnothing, ?_⟩
  unfold handleClientTurn
  have hopen : ∀ c ∈ ["\x7b".toList], c ≠ [] := by decide
  simp only [readTurn_of_no_cut (.start []) [] hopen (by decide), readTurn_closedByPeer_iff]
  decide

end Redes
