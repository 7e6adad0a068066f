import Redes.Lib.Logged
import Mathlib.Data.List.Infix
import Mathlib.Algebra.Order.Group.Nat

/-!
# Records read from a stream

A record begins with a header, which tells how long the record is.  A program reads records from
a stream, one after the other: it waits for the header, then for the rest of the record, then it
handles the record.  A call that reads gives as many items as there are, or fewer, or none, or it
is interrupted; between two calls other threads may take turns.

What the program does is a sequence of events.  Which records are among them, and in which order,
does not depend on how the calls went.

## Main definitions

* `Answer`, `Happening` — how a call goes, and what happens.
* `Reader` — the header of a record, and what is done with a record.
* `Reader.read`, `Reader.loop` — the program.
* `Reader.events` — what the program does, as a sequence of events.
* `Reader.unread` — what of the stream has not come when the calls are over.
* `Reader.IsRecord` — a record.

## Main results

* `loop_eq` — the program does its events.
* `isRecord_of_events`, `flatten_records_isPrefix` — the records are cut off the front of the
  stream.
* `records_isPrefix` — so they are the first ones of the stream.
* `records_of_unread` — all of them, if the whole stream has come.
-/

namespace Framed

/-- How a call that reads goes. -/
inductive Answer
  /-- At most so many items come. -/
  | gives (k : ℕ)
  /-- A signal interrupts the call. -/
  | interrupted
  /-- The call fails. -/
  | failed
  deriving DecidableEq

/-- A call returns, and the program goes on in some environment, or another thread takes a turn. -/
inductive Happening (κ ι : Type*)
  /-- A call returns. -/
  | answer (a : Answer) (env : κ)
  /-- Another thread. -/
  | other (i : ι)

/-- An event of the program. -/
inductive Event (μ κ ι ε : Type*)
  /-- A record is complete. -/
  | record (env : κ) (m : μ)
  /-- Another thread takes a turn. -/
  | other (i : ι)
  /-- The program stops reading. -/
  | stop (e : ε)

/-- An event with another form of its record. -/
def Event.map {μ μ' κ ι ε : Type*} (f : μ → μ') : Event μ κ ι ε → Event μ' κ ι ε
  | .record env m => .record env (f m)
  | .other i => .other i
  | .stop e => .stop e

/-- One event, if `handle` is done with a record and `turn` is what the other threads do. -/
def Event.perform {σ μ κ ι ω ε : Type*} (handle : κ → σ → μ → Logged ω ε σ)
    (turn : σ → ι → Logged ω ε σ) (s : σ) : Event μ κ ι ε → Logged ω ε σ
  | .record env m => handle env s m
  | .other i => turn s i
  | .stop e => Logged.halt e

universe u

/-- A program that reads records. -/
structure Reader (σ β κ ι : Type u) (ω ε : Type*) where
  /-- The length of a header. -/
  header : ℕ
  /-- It is not empty. -/
  header_pos : 0 < header
  /-- The length of the record with this header. -/
  length : List β → Except ε ℕ
  /-- What happens when a call fails. -/
  failed : ε
  /-- What is done with a record. -/
  handle : κ → σ → List β → Logged ω ε σ
  /-- What the other threads do. -/
  turn : σ → ι → Logged ω ε σ

/-- Where a loop of calls is: it still waits, or the items are there. -/
inductive Reading (σ β κ ι : Type u)
  /-- It waits for the next call to return. -/
  | waiting (s : σ)
  /-- The items are there, and so is what comes behind them. -/
  | complete (got rest : List β) (s : σ) (env : κ) (script : List (Happening κ ι))

namespace Reader

open Logged

variable {σ β κ ι : Type u} {ω ε : Type*} (R : Reader σ β κ ι ω ε)

/-! ### The program -/

/-- Call until `n` items are there.  What came is `got`, what is to come is `rest`. -/
def read (n : ℕ) : List (Happening κ ι) → κ → σ → List β → List β →
    Logged ω ε (Reading σ β κ ι)
  | [], env, s, got, rest =>
      if n ≤ got.length then pure (.complete got rest s env []) else pure (.waiting s)
  | h :: script, env, s, got, rest =>
      if n ≤ got.length then pure (.complete got rest s env (h :: script))
      else
        match h with
        | .other i => R.turn s i >>= fun s => read n script env s got rest
        | .answer .interrupted _ => read n script env s got rest
        | .answer .failed _ => halt R.failed
        | .answer (.gives k) env =>
            let k := min k (n - got.length)
            read n script env s (got ++ rest.take k) (rest.drop k)

/-- Read records and handle them, for at most `fuel` records. -/
def loop : ℕ → List (Happening κ ι) → κ → σ → List β → Logged ω ε σ
  | 0, _, _, s, _ => pure s
  | fuel + 1, script, env, s, rest =>
      R.read R.header script env s [] rest >>= fun
        | .waiting s => pure s
        | .complete header rest s env script =>
            match R.length header with
            | .error e => halt e
            | .ok n =>
                R.read n script env s header rest >>= fun
                  | .waiting s => pure s
                  | .complete b rest s env script =>
                      R.handle env s b >>= fun s => loop fuel script env s rest

/-! ### Its events -/

/-- How many items the program waits for, with those that came. -/
def want (got : List β) : ℕ :=
  if got.length < R.header then R.header
  else match R.length (got.take R.header) with
    | .ok n => n
    | .error _ => 0

/-- What the program does. -/
def events : List (Happening κ ι) → List β → List β → List (Event (List β) κ ι ε)
  | [], _, _ => []
  | .other i :: script, got, rest => .other i :: events script got rest
  | .answer .interrupted _ :: script, got, rest => events script got rest
  | .answer .failed _ :: _, _, _ => [.stop R.failed]
  | .answer (.gives k) env :: script, got, rest =>
      let k := min k (R.want got - got.length)
      let got := got ++ rest.take k
      let rest := rest.drop k
      if got.length < R.header then events script got rest
      else match R.length (got.take R.header) with
        | .error e => [.stop e]
        | .ok n =>
            if got.length < n then events script got rest
            else .record env got :: events script [] rest

/-- What has not come of the stream when the calls are over. -/
def unread : List (Happening κ ι) → List β → List β → List β
  | [], _, rest => rest
  | .other _ :: script, got, rest => unread script got rest
  | .answer .interrupted _ :: script, got, rest => unread script got rest
  | .answer .failed _ :: _, _, rest => rest
  | .answer (.gives k) _ :: script, got, rest =>
      let k := min k (R.want got - got.length)
      let got := got ++ rest.take k
      let rest := rest.drop k
      if got.length < R.header then unread script got rest
      else match R.length (got.take R.header) with
        | .error _ => rest
        | .ok n => if got.length < n then unread script got rest else unread script [] rest

/-- The events of the program, in order. -/
def performAll (s : σ) (es : List (Event (List β) κ ι ε)) : Logged ω ε σ :=
  es.foldlM (Event.perform R.handle R.turn) s

/-! ### The program does its events -/

variable {R}

theorem performAll_cons (s : σ) (e : Event (List β) κ ι ε) (es : List (Event (List β) κ ι ε)) :
    R.performAll s (e :: es) =
      Event.perform R.handle R.turn s e >>= fun s => R.performAll s es := rfl

theorem want_of_lt {got : List β} (h : got.length < R.header) : R.want got = R.header := by
  rw [want, if_pos h]

theorem want_of_length {got : List β} (h : R.header ≤ got.length) {n : ℕ}
    (hn : R.length (got.take R.header) = .ok n) : R.want got = n := by
  rw [want, if_neg (by omega), hn]

/-- What is done with the rest of a record, once the loop of calls for it is over. -/
def finish (R : Reader σ β κ ι ω ε) (fuel : ℕ) : Reading σ β κ ι → Logged ω ε σ
  | .waiting s => pure s
  | .complete b rest s env script =>
      R.handle env s b >>= fun s => R.loop fuel script env s rest

/-- What is done with a header, once the loop of calls for it is over. -/
def proceed (R : Reader σ β κ ι ω ε) (fuel : ℕ) : Reading σ β κ ι → Logged ω ε σ
  | .waiting s => pure s
  | .complete header rest s env script =>
      match R.length header with
      | .error e => halt e
      | .ok n => R.read n script env s header rest >>= R.finish fuel

theorem loop_succ (fuel : ℕ) (script : List (Happening κ ι)) (env : κ) (s : σ) (rest : List β) :
    R.loop (fuel + 1) script env s rest =
      R.read R.header script env s [] rest >>= R.proceed fuel := by
  rw [loop]
  rfl

/-- No call is made if the items are there. -/
theorem read_of_le {n : ℕ} {got : List β} (h : n ≤ got.length) (script : List (Happening κ ι))
    (env : κ) (s : σ) (rest : List β) :
    R.read n script env s got rest = pure (.complete got rest s env script) := by
  cases script with
  | nil => rw [read, if_pos h]
  | cons h' script =>
    rw [read.eq_def]
    exact if_pos h

/-- **The loop of calls for the rest of a record.** -/
theorem read_finish {fuel n : ℕ}
    (hloop : ∀ (script : List (Happening κ ι)) (env : κ) (s : σ) (rest : List β),
      script.length < fuel → R.loop fuel script env s rest =
        R.performAll s (R.events script [] rest))
    (script : List (Happening κ ι)) (hfuel : script.length ≤ fuel) (env : κ) (s : σ)
    (got rest : List β) (hheader : R.header ≤ got.length)
    (hn : R.length (got.take R.header) = .ok n) :
    R.read n script env s got rest >>= R.finish fuel =
      if n ≤ got.length then
        R.handle env s got >>= fun s => R.loop fuel script env s rest
      else R.performAll s (R.events script got rest) := by
  induction script generalizing env s got rest with
  | nil =>
    rw [read]
    split_ifs <;> exact pure_bind _ _
  | cons h script ih =>
    rw [List.length_cons] at hfuel
    by_cases hle : n ≤ got.length
    · rw [read_of_le hle, if_pos hle]
      exact pure_bind _ _
    · rw [if_neg hle, read.eq_def]
      simp only [if_neg hle]
      -- one call, or one turn of a thread, and the induction hypothesis for the rest of the script
      cases h with
      | other i =>
        rw [events, performAll_cons, Event.perform]
        dsimp only
        rw [bind_assoc]
        congr 1
        funext s
        rw [ih (by omega) env s got rest hheader hn, if_neg hle]
      | answer a env =>
        cases a with
        | interrupted =>
          dsimp only
          rw [ih (by omega) _ s got rest hheader hn, if_neg hle, events]
        | failed => rfl
        | gives k =>
          -- what comes is put behind the header, which stays the same
          have hwant := want_of_length hheader hn
          have htake : (got ++ rest.take (min k (n - got.length))).take R.header =
              got.take R.header := List.take_append_of_le_length hheader
          have hlonger : R.header ≤ (got ++ rest.take (min k (n - got.length))).length := by
            rw [List.length_append]
            omega
          rw [ih (by omega) env s _ _ hlonger (htake ▸ hn), events, hwant,
            if_neg (Nat.not_lt.mpr hlonger), htake, hn]
          dsimp only
          by_cases hlt : (got ++ rest.take (min k (n - got.length))).length < n
          · rw [if_neg (by omega), if_pos hlt]
          · rw [if_pos (by omega), if_neg hlt, performAll_cons, Event.perform]
            congr 1
            funext s
            exact hloop script env s _ (by omega)

/-- **The loop of calls for a header.** -/
theorem read_proceed {fuel : ℕ}
    (hloop : ∀ (script : List (Happening κ ι)) (env : κ) (s : σ) (rest : List β),
      script.length < fuel → R.loop fuel script env s rest =
        R.performAll s (R.events script [] rest))
    (script : List (Happening κ ι)) (hfuel : script.length ≤ fuel) (env : κ) (s : σ)
    (got rest : List β) (hlt : got.length < R.header) :
    R.read R.header script env s got rest >>= R.proceed fuel =
      R.performAll s (R.events script got rest) := by
  induction script generalizing env s got rest with
  | nil =>
    rw [read, if_neg (by omega)]
    exact pure_bind _ _
  | cons h script ih =>
    rw [List.length_cons] at hfuel
    rw [read.eq_def]
    simp only [if_neg (show ¬ R.header ≤ got.length by omega)]
    cases h with
    | other i =>
      rw [events, performAll_cons, Event.perform]
      dsimp only
      rw [bind_assoc]
      congr 1
      funext s
      exact ih (by omega) env s got rest hlt
    | answer a env =>
      cases a with
      | interrupted => exact ih (by omega) _ s got rest hlt
      | failed => rfl
      | gives k =>
        rw [events, want_of_lt hlt]
        dsimp only
        -- either the header is still not complete, or the loop for the rest of the record begins
        by_cases hshort : (got ++ rest.take (min k (R.header - got.length))).length < R.header
        · rw [if_pos hshort]
          exact ih (by omega) env s _ _ hshort
        · -- the header is complete, and nothing behind it was asked for
          have hlen : (got ++ rest.take (min k (R.header - got.length))).length = R.header := by
            rw [List.length_append, List.length_take] at hshort ⊢
            omega
          have hall := List.take_of_length_le hlen.le
          have hread : R.read R.header script env s
              (got ++ rest.take (min k (R.header - got.length)))
              (rest.drop (min k (R.header - got.length))) =
              pure (.complete (got ++ rest.take (min k (R.header - got.length)))
                (rest.drop (min k (R.header - got.length))) s env script) := by
            exact read_of_le hlen.ge _ _ _ _
          rw [if_neg hshort, hread, pure_bind, proceed, hall]
          cases hn : R.length (got ++ rest.take (min k (R.header - got.length))) with
          | error e => rfl
          | ok n =>
            dsimp only
            rw [read_finish hloop script (by omega) env s _ _ hlen.ge (hall.symm ▸ hn)]
            by_cases hle : n ≤ (got ++ rest.take (min k (R.header - got.length))).length
            · rw [if_pos hle, if_neg (by omega), performAll_cons, Event.perform]
              congr 1
              funext s
              exact hloop script env s _ (by omega)
            · rw [if_neg hle, if_pos (by omega)]

/-- **The program does its events**, with enough fuel. -/
theorem loop_eq (fuel : ℕ) (script : List (Happening κ ι)) (hfuel : script.length < fuel) (env : κ)
    (s : σ) (rest : List β) :
    R.loop fuel script env s rest = R.performAll s (R.events script [] rest) := by
  -- each record takes at least one call, so that the script gets shorter with the fuel
  induction fuel generalizing script env s rest with
  | zero => exact absurd hfuel (Nat.not_lt_zero _)
  | succ fuel ih =>
    rw [loop_succ]
    exact read_proceed (fun script env s rest h => ih script h env s rest) script (by omega) env s
      [] rest R.header_pos

/-! ### The records among the events -/

/-- The records among events. -/
def records {μ : Type*} : List (Event μ κ ι ε) → List μ
  | [] => []
  | .record _ m :: es => m :: records es
  | .other _ :: es => records es
  | .stop _ :: es => records es

/-- The turns of other threads among events. -/
def turns {μ : Type*} : List (Event μ κ ι ε) → List ι
  | [] => []
  | .record _ _ :: es => turns es
  | .other i :: es => i :: turns es
  | .stop _ :: es => turns es

/-- The turns of other threads among what happens. -/
def others : List (Happening κ ι) → List ι
  | [] => []
  | .other i :: script => i :: others script
  | .answer _ _ :: script => others script

/-- A whole record: a header, and as much behind it as the header tells. -/
def IsRecord (R : Reader σ β κ ι ω ε) (b : List β) : Prop :=
  ∃ n, R.length (b.take R.header) = .ok n ∧ b.length = max n R.header

/-- What is there of a record for which the program still waits. -/
def Partial (R : Reader σ β κ ι ω ε) (got : List β) : Prop := got.length < R.want got

theorem partial_nil : R.Partial [] := by
  have hpos : ([] : List β).length < R.header := R.header_pos
  rwa [Partial, want_of_lt hpos]

theorem IsRecord.length_pos {b : List β} (h : R.IsRecord b) : 0 < b.length := by
  obtain ⟨n, -, hlen⟩ := h
  have hpos := R.header_pos
  omega

/-- **Records are cut off at one place**. -/
theorem IsRecord.eq_of_append {b b' x y : List β} (h : R.IsRecord b) (h' : R.IsRecord b')
    (heq : b ++ x = b' ++ y) : b = b' := by
  obtain ⟨n, hn, hlen⟩ := h
  obtain ⟨n', hn', hlen'⟩ := h'
  -- the same header, and so the same length
  have hheader : b.take R.header = b'.take R.header := by
    have htake := congrArg (List.take R.header) heq
    rwa [List.take_append_of_le_length (by omega), List.take_append_of_le_length (by omega)]
      at htake
  rw [hheader, hn'] at hn
  obtain rfl := Except.ok.inj hn
  exact (List.append_inj heq (hlen.trans hlen'.symm)).1

/-- Nothing of a record is missing behind it. -/
theorem not_partial_append {b x : List β} (h : R.IsRecord b) : ¬ R.Partial (b ++ x) := by
  obtain ⟨n, hn, hlen⟩ := h
  have htake : (b ++ x).take R.header = b.take R.header :=
    List.take_append_of_le_length (by omega)
  have hle : R.header ≤ (b ++ x).length := by
    rw [List.length_append]
    omega
  unfold Partial
  rw [want_of_length hle (htake ▸ hn), List.length_append]
  omega

/-- The items that a call gives are not more than the program waits for. -/
theorem length_gives_le {got : List β} (h : R.Partial got) (k : ℕ) (rest : List β) :
    (got ++ rest.take (min k (R.want got - got.length))).length ≤ R.want got := by
  unfold Partial at h
  rw [List.length_append, List.length_take]
  omega

theorem gives_append (got rest : List β) (k : ℕ) :
    got ++ rest.take k ++ rest.drop k = got ++ rest := by
  rw [List.append_assoc, List.take_append_drop]

/-- **A call that gives something**: the program waits on, or a record is there, or a header
that it does not accept. -/
theorem events_gives {got : List β} (h : R.Partial got) (k : ℕ) (env : κ)
    (script : List (Happening κ ι)) (rest : List β) :
    ∃ got' rest', got' ++ rest' = got ++ rest ∧
      ((R.Partial got' ∧
          R.events (.answer (.gives k) env :: script) got rest = R.events script got' rest' ∧
          R.unread (.answer (.gives k) env :: script) got rest = R.unread script got' rest') ∨
        (R.IsRecord got' ∧
          R.events (.answer (.gives k) env :: script) got rest =
            .record env got' :: R.events script [] rest' ∧
          R.unread (.answer (.gives k) env :: script) got rest = R.unread script [] rest') ∨
        (R.header ≤ got'.length ∧ ∃ e, R.length (got'.take R.header) = .error e ∧
          R.events (.answer (.gives k) env :: script) got rest = [.stop e])) := by
  refine ⟨_, _, gives_append got rest (min k (R.want got - got.length)), ?_⟩
  have hle := length_gives_le h k rest
  rw [events, unread]
  -- the three cases of what is there then: no header, a header, or a whole record
  generalize hgot' : got ++ rest.take (min k (R.want got - got.length)) = got' at hle ⊢
  by_cases hlt : got'.length < R.header
  · exact .inl ⟨by rwa [Partial, want_of_lt hlt], if_pos hlt, if_pos hlt⟩
  · rw [if_neg hlt, if_neg hlt]
    cases hn : R.length (got'.take R.header) with
    | error e => exact .inr (.inr ⟨Nat.not_lt.mp hlt, e, rfl, rfl⟩)
    | ok n =>
      dsimp only
      by_cases hshort : got'.length < n
      · exact .inl ⟨by rwa [Partial, want_of_length (Nat.not_lt.mp hlt) hn], if_pos hshort,
          if_pos hshort⟩
      · refine .inr (.inl ⟨⟨n, hn, ?_⟩, if_neg hshort, if_neg hshort⟩)
        -- not more was asked for than the header, or than the record
        by_cases hgot : got.length < R.header
        · rw [want_of_lt hgot] at hle
          omega
        · have htake : got'.take R.header = got.take R.header := by
            rw [← hgot']
            exact List.take_append_of_le_length (Nat.not_lt.mp hgot)
          rw [want_of_length (Nat.not_lt.mp hgot) (htake ▸ hn)] at hle
          omega

/-- **The records among the events are records.** -/
theorem isRecord_of_events {got : List β} (h : R.Partial got) (script : List (Happening κ ι))
    (rest : List β) : ∀ b ∈ records (R.events script got rest), R.IsRecord b := by
  induction script generalizing got rest with
  | nil => exact fun b hb => absurd hb List.not_mem_nil
  | cons a script ih =>
    cases a with
    | other i => exact ih h rest
    | answer a env =>
      cases a with
      | interrupted => exact ih h rest
      | failed => exact fun b hb => absurd hb List.not_mem_nil
      | gives k =>
        obtain ⟨got', rest', -, ⟨hpart, heq, -⟩ | ⟨hrec, heq, -⟩ | ⟨-, e, -, heq⟩⟩ :=
          events_gives h k env script rest
        · rw [heq]
          exact ih hpart rest'
        · rw [heq]
          intro b hb
          rcases List.mem_cons.mp hb with rfl | hb
          · exact hrec
          · exact ih partial_nil rest' b hb
        · rw [heq]
          exact fun b hb => absurd hb List.not_mem_nil

/-- **The records are cut off the front of the stream.** -/
theorem flatten_records_isPrefix {got : List β} (h : R.Partial got) (script : List (Happening κ ι))
    (rest : List β) : (records (R.events script got rest)).flatten <+: got ++ rest := by
  induction script generalizing got rest with
  | nil => exact List.nil_prefix
  | cons a script ih =>
    cases a with
    | other i => exact ih h rest
    | answer a env =>
      cases a with
      | interrupted => exact ih h rest
      | failed => exact List.nil_prefix
      | gives k =>
        obtain ⟨got', rest', hsame, ⟨hpart, heq, -⟩ | ⟨-, heq, -⟩ | ⟨-, e, -, heq⟩⟩ :=
          events_gives h k env script rest
        · rw [heq, ← hsame]
          exact ih hpart rest'
        · rw [heq, ← hsame, records, List.flatten_cons]
          exact (List.prefix_append_right_inj got').mpr (ih partial_nil rest')
        · rw [heq]
          exact List.nil_prefix

/-- Records at the front of the same items come one after the other in both. -/
theorem isPrefix_of_flatten {bs bs' : List (List β)} (h : ∀ b ∈ bs, R.IsRecord b)
    (h' : ∀ b ∈ bs', R.IsRecord b) (hpre : bs.flatten <+: bs'.flatten) : bs <+: bs' := by
  induction bs generalizing bs' with
  | nil => exact List.nil_prefix
  | cons b bs ih =>
    have hb := h b List.mem_cons_self
    obtain ⟨x, hx⟩ := hpre
    rw [List.flatten_cons, List.append_assoc] at hx
    cases bs' with
    | nil =>
      have hpos := hb.length_pos
      have hnil := congrArg List.length hx
      rw [List.length_append, List.flatten_nil, List.length_nil] at hnil
      omega
    | cons b' bs' =>
      -- the first records are the same, and can be taken off on both sides
      rw [List.flatten_cons] at hx
      obtain rfl := hb.eq_of_append (h' b' List.mem_cons_self) hx
      rw [List.prefix_cons_inj]
      exact ih (fun c hc => h c (List.mem_cons_of_mem b hc))
        (fun c hc => h' c (List.mem_cons_of_mem b hc)) ⟨x, List.append_cancel_left hx⟩

/-- **The records that are handled are the first ones of the stream**, however the calls go. -/
theorem records_isPrefix {bs : List (List β)} (h : ∀ b ∈ bs, R.IsRecord b)
    (script : List (Happening κ ι)) : records (R.events script [] bs.flatten) <+: bs :=
  isPrefix_of_flatten (isRecord_of_events partial_nil script _) h
    (flatten_records_isPrefix partial_nil script _)

/-- The other threads take those turns that happen, until the program stops. -/
theorem turns_isPrefix (script : List (Happening κ ι)) (got rest : List β) :
    turns (R.events script got rest) <+: others script := by
  induction script generalizing got rest with
  | nil => exact List.nil_prefix
  | cons a script ih =>
    cases a with
    | other i =>
      rw [events, turns, others, List.prefix_cons_inj]
      exact ih got rest
    | answer a env =>
      cases a with
      | interrupted => exact ih got rest
      | failed => exact List.nil_prefix
      | gives k =>
        rw [events]
        split_ifs
        · exact ih _ _
        · split
          · exact List.nil_prefix
          · split_ifs
            · exact ih _ _
            · exact ih _ _

/-- A record is handled in the environment of the call that completed it. -/
theorem env_of_events (script : List (Happening κ ι)) (got rest : List β) :
    ∀ env b, .record env b ∈ R.events script got rest → ∃ a, .answer a env ∈ script := by
  induction script generalizing got rest with
  | nil => exact fun env b hb => absurd hb List.not_mem_nil
  | cons a script ih =>
    have htail : ∀ (got rest : List β) (env : κ) (b : List β),
        .record env b ∈ R.events script got rest → ∃ a', .answer a' env ∈ a :: script :=
      fun got rest env b hb =>
        (ih got rest env b hb).imp fun a' ha' => List.mem_cons_of_mem a ha'
    intro env b hb
    cases a with
    | other i =>
      rw [events, List.mem_cons] at hb
      exact htail got rest env b (hb.resolve_left (by simp))
    | answer a env' =>
      cases a with
      | interrupted => exact htail got rest env b hb
      | failed =>
        rw [events, List.mem_singleton] at hb
        cases hb
      | gives k =>
        rw [events] at hb
        split_ifs at hb
        · exact htail _ _ env b hb
        · split at hb
          · rw [List.mem_singleton] at hb
            cases hb
          · split_ifs at hb
            · exact htail _ _ env b hb
            · rcases List.mem_cons.mp hb with heq | hb
              · obtain ⟨rfl, -⟩ := Event.record.inj heq
                exact ⟨_, List.mem_cons_self⟩
              · exact htail _ _ env b hb

/-- No call fails. -/
def NoFailure (script : List (Happening κ ι)) : Prop := ∀ env, .answer .failed env ∉ script

theorem NoFailure.tail {a : Happening κ ι} {script : List (Happening κ ι)}
    (h : NoFailure (a :: script)) : NoFailure script :=
  fun env hmem => h env (List.mem_cons_of_mem a hmem)

/-- Items for which the program waits are no whole records. -/
theorem partial_eq_nil {bs : List (List β)} (h : ∀ b ∈ bs, R.IsRecord b)
    (hpart : R.Partial bs.flatten) : bs = [] := by
  cases bs with
  | nil => rfl
  | cons b bs =>
    rw [List.flatten_cons] at hpart
    exact absurd hpart (not_partial_append (h b List.mem_cons_self))

/-- A call that gives something of a stream of whole records. -/
theorem events_gives_of_records {got : List β} (h : R.Partial got) {bs : List (List β)}
    (hbs : ∀ b ∈ bs, R.IsRecord b) {rest : List β} (heq : got ++ rest = bs.flatten) (k : ℕ)
    (env : κ) (script : List (Happening κ ι)) :
    ∃ got' rest',
      (R.Partial got' ∧ got' ++ rest' = bs.flatten ∧
          R.events (.answer (.gives k) env :: script) got rest = R.events script got' rest' ∧
          R.unread (.answer (.gives k) env :: script) got rest = R.unread script got' rest') ∨
        ∃ bs', bs = got' :: bs' ∧ rest' = bs'.flatten ∧
          R.events (.answer (.gives k) env :: script) got rest =
            .record env got' :: R.events script [] rest' ∧
          R.unread (.answer (.gives k) env :: script) got rest = R.unread script [] rest' := by
  obtain ⟨got', rest', hsame, hcases⟩ := events_gives h k env script rest
  have hall := hsame.trans heq
  -- what is there is the front of the records that are still to come
  have hne : 0 < got'.length → bs ≠ [] := by
    rintro hpos rfl
    have hnil := congrArg List.length hall
    rw [List.length_append, List.flatten_nil, List.length_nil] at hnil
    omega
  refine ⟨got', rest', ?_⟩
  rcases hcases with ⟨hpart, hev⟩ | ⟨hrec, hev⟩ | ⟨hheader, e, herr, -⟩
  · exact .inl ⟨hpart, hall, hev⟩
  · obtain ⟨b, bs, rfl⟩ := List.exists_cons_of_ne_nil (hne hrec.length_pos)
    obtain rfl := hrec.eq_of_append (hbs b List.mem_cons_self) hall
    exact .inr ⟨bs, rfl, List.append_cancel_left hall, hev⟩
  · -- the header is that of a record
    obtain ⟨b, bs, rfl⟩ := List.exists_cons_of_ne_nil (hne (R.header_pos.trans_le hheader))
    obtain ⟨n, hn, hlen⟩ := hbs b List.mem_cons_self
    have htake := congrArg (List.take R.header) hall
    rw [List.flatten_cons, List.take_append_of_le_length hheader,
      List.take_append_of_le_length (by omega)] at htake
    rw [htake, hn] at herr
    cases herr

/-- **The other threads take all their turns**, if no call fails. -/
theorem turns_of_records {got : List β} (h : R.Partial got) {bs : List (List β)}
    (hbs : ∀ b ∈ bs, R.IsRecord b) {script : List (Happening κ ι)} (hok : NoFailure script)
    {rest : List β} (heq : got ++ rest = bs.flatten) :
    turns (R.events script got rest) = others script := by
  induction script generalizing got rest bs with
  | nil => rfl
  | cons a script ih =>
    cases a with
    | other i =>
      rw [events, turns, others, ih h hbs hok.tail heq]
    | answer a env =>
      cases a with
      | interrupted => exact ih h hbs hok.tail heq
      | failed => exact absurd List.mem_cons_self (hok env)
      | gives k =>
        obtain ⟨got', rest', ⟨hpart, hall, hev, -⟩ | ⟨bs, rfl, rfl, hev, -⟩⟩ :=
          events_gives_of_records h hbs heq k env script
        · rw [hev]
          exact ih hpart hbs hok.tail hall
        · rw [hev]
          exact ih partial_nil (fun c hc => hbs c (List.mem_cons_of_mem _ hc)) hok.tail rfl

/-- **The program stops only where a call fails.** -/
theorem stop_of_records {got : List β} (h : R.Partial got) {bs : List (List β)}
    (hbs : ∀ b ∈ bs, R.IsRecord b) (script : List (Happening κ ι)) {rest : List β}
    (heq : got ++ rest = bs.flatten) :
    ∀ e, .stop e ∈ R.events script got rest → e = R.failed ∧ ¬ NoFailure script := by
  have hcons : ∀ (a : Happening κ ι) (script : List (Happening κ ι)), ¬ NoFailure script →
      ¬ NoFailure (a :: script) := fun a script hfail hok => hfail hok.tail
  induction script generalizing got rest bs with
  | nil => exact fun e he => absurd he List.not_mem_nil
  | cons a script ih =>
    intro e he
    cases a with
    | other i =>
      rw [events, List.mem_cons] at he
      exact (ih h hbs heq e (he.resolve_left (by simp))).imp_right (hcons _ script)
    | answer a env =>
      cases a with
      | interrupted => exact (ih h hbs heq e he).imp_right (hcons _ script)
      | failed =>
        rw [events, List.mem_singleton] at he
        exact ⟨Event.stop.inj he, fun hok => hok env List.mem_cons_self⟩
      | gives k =>
        obtain ⟨got', rest', ⟨hpart, hall, hev, -⟩ | ⟨bs, rfl, rfl, hev, -⟩⟩ :=
          events_gives_of_records h hbs heq k env script
        · rw [hev] at he
          exact (ih hpart hbs hall e he).imp_right (hcons _ script)
        · rw [hev, List.mem_cons] at he
          exact (ih partial_nil (fun c hc => hbs c (List.mem_cons_of_mem _ hc)) rfl e
            (he.resolve_left (by simp))).imp_right (hcons _ script)

/-- **All the records of the stream are handled**, if the whole stream has come. -/
theorem records_of_unread {got : List β} (h : R.Partial got) {bs : List (List β)}
    (hbs : ∀ b ∈ bs, R.IsRecord b) {script : List (Happening κ ι)} (hok : NoFailure script)
    {rest : List β} (heq : got ++ rest = bs.flatten) (hall : R.unread script got rest = []) :
    records (R.events script got rest) = bs := by
  induction script generalizing got rest bs with
  | nil =>
    -- what is there is no whole record, and nothing is to come
    rw [unread] at hall
    rw [hall, List.append_nil] at heq
    rw [partial_eq_nil hbs (heq ▸ h)]
    rfl
  | cons a script ih =>
    cases a with
    | other i => exact ih h hbs hok.tail heq hall
    | answer a env =>
      cases a with
      | interrupted => exact ih h hbs hok.tail heq hall
      | failed => exact absurd List.mem_cons_self (hok env)
      | gives k =>
        obtain ⟨got', rest', ⟨hpart, hsame, hev, hun⟩ | ⟨bs, rfl, rfl, hev, hun⟩⟩ :=
          events_gives_of_records h hbs heq k env script
        · rw [hev]
          exact ih hpart hbs hok.tail hsame (hun ▸ hall)
        · rw [hev, records, ih partial_nil (fun c hc => hbs c (List.mem_cons_of_mem _ hc))
            hok.tail rfl (hun ▸ hall)]

/-! ### Messages -/

section Messages

variable {μ : Type u} {encode : μ → List β} {step : κ → σ → μ → Logged ω ε σ}

/-- Records that are messages on the wire. -/
theorem exists_messages {es : List (Event (List β) κ ι ε)} {ms : List μ}
    (h : records es <+: ms.map encode) :
    ∃ es' : List (Event μ κ ι ε), es'.map (Event.map encode) = es ∧ records es' <+: ms := by
  induction es generalizing ms with
  | nil => exact ⟨[], rfl, List.nil_prefix⟩
  | cons e es ih =>
    cases e with
    | record env b =>
      cases ms with
      | nil => exact absurd h (by simp [records])
      | cons m ms =>
        rw [records, List.map_cons, List.cons_prefix_cons] at h
        obtain ⟨es', hes, hpre⟩ := ih h.2
        refine ⟨.record env m :: es', ?_, ?_⟩
        · rw [List.map_cons, hes, Event.map, h.1]
        · rw [records, List.prefix_cons_inj]
          exact hpre
    | other i =>
      obtain ⟨es', hes, hpre⟩ := ih h
      exact ⟨.other i :: es', by rw [List.map_cons, hes, Event.map], hpre⟩
    | stop e =>
      obtain ⟨es', hes, hpre⟩ := ih h
      exact ⟨.stop e :: es', by rw [List.map_cons, hes, Event.map], hpre⟩

theorem records_map (es : List (Event μ κ ι ε)) :
    records (es.map (Event.map encode)) = (records es).map encode := by
  induction es with
  | nil => rfl
  | cons e es ih => cases e <;> simp [records, Event.map, ih]

theorem turns_map (es : List (Event μ κ ι ε)) :
    turns (es.map (Event.map encode)) = turns es := by
  induction es with
  | nil => rfl
  | cons e es ih => cases e <;> simp [turns, Event.map, ih]

/-- Events with records do what the events with the messages do. -/
theorem performAll_map {es : List (Event μ κ ι ε)}
    (h : ∀ m ∈ records es, ∀ env s, R.handle env s (encode m) = step env s m) (s : σ) :
    R.performAll s (es.map (Event.map encode)) = es.foldlM (Event.perform step R.turn) s := by
  induction es generalizing s with
  | nil => rfl
  | cons e es ih =>
    have hrest : ∀ m ∈ records es, m ∈ records (e :: es) := by
      intro m hm
      cases e with
      | record env m' => exact List.mem_cons_of_mem m' hm
      | other i => exact hm
      | stop err => exact hm
    have hhead : Event.perform R.handle R.turn s (e.map encode) =
        Event.perform step R.turn s e := by
      cases e with
      | record env m => exact h m List.mem_cons_self env s
      | other i => rfl
      | stop err => rfl
    rw [List.map_cons, performAll_cons, List.foldlM_cons, hhead]
    congr 1
    funext s
    exact ih (fun m hm => h m (hrest m hm)) s

/-- **A stream of messages**: however the calls go, the program handles the first messages of the
stream, in order, and between them the other threads take their turns.  It handles all of them
if no call fails and the whole stream has come. -/
theorem loop_messages {ms : List μ} (hrec : ∀ m ∈ ms, R.IsRecord (encode m))
    (hstep : ∀ m ∈ ms, ∀ env s, R.handle env s (encode m) = step env s m) {fuel : ℕ}
    {script : List (Happening κ ι)} (hfuel : script.length < fuel) (env : κ) (s : σ) :
    ∃ es : List (Event μ κ ι ε),
      R.loop fuel script env s (ms.flatMap encode) =
          es.foldlM (Event.perform step R.turn) s ∧
        records es <+: ms ∧ turns es <+: others script ∧
        (∀ env m, .record env m ∈ es → ∃ a, .answer a env ∈ script) ∧
        (∀ e, .stop e ∈ es → e = R.failed ∧ ¬ NoFailure script) ∧
        (NoFailure script → turns es = others script ∧
          (R.unread script [] (ms.flatMap encode) = [] → records es = ms)) := by
  have hrecords : ∀ b ∈ ms.map encode, R.IsRecord b := by
    intro b hb
    obtain ⟨m, hm, rfl⟩ := List.mem_map.mp hb
    exact hrec m hm
  have hflat : ms.flatMap encode = (ms.map encode).flatten := List.flatMap_def
  -- the events with the messages in place of the records
  obtain ⟨es, hes, hpre⟩ := exists_messages (records_isPrefix hrecords script)
  refine ⟨es, ?_, hpre, ?_, ?_, ?_, ?_⟩
  · rw [loop_eq fuel script hfuel, hflat, ← hes]
    exact performAll_map (fun m hm => hstep m (hpre.subset hm)) s
  · rw [← turns_map, hes]
    exact turns_isPrefix script [] _
  · intro env m hm
    have hmem : Event.map encode (.record env m) ∈ es.map (Event.map encode) :=
      List.mem_map_of_mem hm
    rw [hes] at hmem
    exact env_of_events script _ _ env _ hmem
  · intro e he
    have hmem : Event.map encode (.stop e) ∈ es.map (Event.map encode) := List.mem_map_of_mem he
    rw [hes] at hmem
    exact stop_of_records partial_nil hrecords script rfl e hmem
  · intro hok
    refine ⟨?_, fun hunread => ?_⟩
    · rw [← turns_map, hes]
      exact turns_of_records partial_nil hrecords hok rfl
    · refine hpre.eq_of_length_le ?_
      have hall := records_of_unread partial_nil hrecords hok rfl (hflat ▸ hunread)
      rw [← hes, records_map] at hall
      have hlen := congrArg List.length hall
      rw [List.length_map, List.length_map] at hlen
      exact hlen.ge

end Messages

end Reader

end Framed
