import Redes.Vns.Sha1

/-!
# Hashing a message in pieces

The calls on a context of `sha1.c` come in any order.  What `SHA1Result` returns depends on
what came since the last reset only: the hash value of the message, unless the message is too
long, or more came behind a hash value.

## Main definitions

* `Sha1Call`, `sha1Run` — calls on a context, and what they return.
* `Sha1Log` — the calls as the standard sees them.
* `sha1Hash` — what is returned for a message that comes in pieces.

## Main results

* `returns_sha1Run` — what any calls return.
* `sha1Hash_eq` — the pieces do not matter.
* `sha1_collide` — two messages with the same hash value.
-/

namespace Redes

open Bytes

/-! ### Calls -/

/-- The calls on a context. -/
inductive Sha1Call
  /-- `SHA1Reset`. -/
  | reset
  /-- `SHA1Input`. -/
  | input (message : List UInt8)
  /-- `SHA1Result`. -/
  | result

/-- What the calls of `SHA1Result` return: the message digest, or that there is none. -/
def sha1Run (context : Sha1Context) : List Sha1Call → List (Option Sha1Words)
  | [] => []
  | .reset :: calls => sha1Run (sha1Reset context) calls
  | .input message :: calls => sha1Run (sha1Input context message) calls
  | .result :: calls =>
      let r := sha1Result context
      (if r.1 then some r.2.messageDigest else none) :: sha1Run r.2 calls

/-- What came so far, and whether more may come. -/
inductive Sha1Log
  /-- A message, to which more may come. -/
  | accepting (message : List UInt8)
  /-- A message whose hash value was asked for. -/
  | finished (message : List UInt8)
  /-- More came behind that, or the message was too long. -/
  | refused

namespace Sha1Log

/-- More of a message. -/
def input : Sha1Log → List UInt8 → Sha1Log
  | log, [] => log
  | accepting message, x :: more =>
      if 8 * (message ++ x :: more).length < 2 ^ 64 then accepting (message ++ x :: more)
      else refused
  | finished _, _ :: _ => refused
  | refused, _ :: _ => refused

/-- The hash value is asked for. -/
def result : Sha1Log → Option Sha1Words × Sha1Log
  | accepting message => (some (SecureHash.sha1 message), finished message)
  | finished message => (some (SecureHash.sha1 message), finished message)
  | refused => (none, refused)

/-- What calls return. -/
def returns (log : Sha1Log) : List Sha1Call → List (Option Sha1Words)
  | [] => []
  | .reset :: calls => returns (accepting []) calls
  | .input message :: calls => returns (log.input message) calls
  | .result :: calls => log.result.1 :: returns log.result.2 calls

end Sha1Log

/-- What a context is, of what came so far. -/
def Sha1Context.Represents (context : Sha1Context) : Sha1Log → Prop
  | .accepting message =>
      context.corrupted = false ∧ context.computed = false ∧
        context.bits = 8 * message.length ∧ context.messageBlockIndex = message.length % 64 ∧
        context.progress = SecureHash.blocks.feed (Sha1Words.initial, []) message
  | .finished message =>
      context.corrupted = false ∧ context.computed = true ∧
        context.messageDigest = SecureHash.sha1 message
  | .refused => context.corrupted = true

theorem represents_sha1Reset (context : Sha1Context) :
    (sha1Reset context).Represents (.accepting []) := ⟨rfl, rfl, rfl, rfl, rfl⟩

/-- `sha1CountByte` leaves the block alone. -/
theorem progress_sha1CountByte (context : Sha1Context) :
    (sha1CountByte context).progress = context.progress ∧
      (sha1CountByte context).messageBlockIndex = context.messageBlockIndex ∧
      (sha1CountByte context).messageDigest = context.messageDigest ∧
      (sha1CountByte context).messageBlock = context.messageBlock ∧
      (sha1CountByte context).computed = context.computed := by
  unfold sha1CountByte
  dsimp only
  split_ifs <;> exact ⟨rfl, rfl, rfl, rfl, rfl⟩

/-- The low word is at its end exactly if it holds the last multiple of eight. -/
theorem lengthLow_add_eq_zero_iff {context : Sha1Context} (h : 8 ∣ context.bits) :
    context.lengthLow + 8 = 0 ↔ context.lengthLow.toNat = 2 ^ 32 - 8 := by
  have hlow := context.lengthLow.toNat_lt
  rw [← UInt32.toNat_inj, UInt32.toNat_add]
  unfold Sha1Context.bits at h
  simp only [UInt32.reduceToNat]
  omega

/-- One more byte is counted, while the length fits in two words. -/
theorem bits_sha1CountByte {context : Sha1Context} (h : 8 ∣ context.bits)
    (hlt : context.bits + 8 < 2 ^ 64) :
    (sha1CountByte context).bits = context.bits + 8 ∧
      (sha1CountByte context).corrupted = context.corrupted := by
  have hlow := context.lengthLow.toNat_lt
  have hhigh := context.lengthHigh.toNat_lt
  have hiff := lengthLow_add_eq_zero_iff h
  unfold sha1CountByte
  dsimp only
  -- where the low word is at its end, the high word is counted up
  by_cases hwrap : context.lengthLow + 8 = 0
  · have hlast := hiff.mp hwrap
    have hnext : (context.lengthHigh + 1).toNat = context.lengthHigh.toNat + 1 := by
      rw [UInt32.toNat_add]
      unfold Sha1Context.bits at hlt
      simp only [UInt32.reduceToNat]
      omega
    have hne : context.lengthHigh + 1 ≠ 0 := fun h0 => by
      rw [h0] at hnext
      simp at hnext
    rw [if_pos hwrap, if_neg hne]
    refine ⟨?_, rfl⟩
    unfold Sha1Context.bits
    rw [hwrap, hnext, hlast]
    simp only [UInt32.reduceToNat]
    omega
  · rw [if_neg hwrap]
    refine ⟨?_, rfl⟩
    have hne := mt hiff.mpr hwrap
    unfold Sha1Context.bits at h ⊢
    dsimp only
    rw [UInt32.toNat_add]
    simp only [UInt32.reduceToNat]
    omega

/-- A message whose length does not fit is corrupted. -/
theorem corrupted_sha1CountByte {context : Sha1Context} (h : 8 ∣ context.bits)
    (hge : 2 ^ 64 ≤ context.bits + 8) : (sha1CountByte context).corrupted = true := by
  have hlow := context.lengthLow.toNat_lt
  have hhigh := context.lengthHigh.toNat_lt
  have hiff := lengthLow_add_eq_zero_iff h
  unfold Sha1Context.bits at hge h
  -- both words are at their ends
  have hwrap : context.lengthLow + 8 = 0 := hiff.mpr (by omega)
  have hzero : context.lengthHigh + 1 = 0 := by
    rw [← UInt32.toNat_inj, UInt32.toNat_add]
    simp only [UInt32.reduceToNat]
    omega
  unfold sha1CountByte
  dsimp only
  rw [if_pos hwrap, if_pos hzero]

/-- One turn of the loop of `SHA1Input` takes one byte. -/
theorem progress_sha1InputTurn {context : Sha1Context} (h : context.messageBlockIndex < 64)
    (x : UInt8) :
    (sha1InputTurn context x).progress = SecureHash.blocks.feed context.progress [x] ∧
      (sha1InputTurn context x).messageBlockIndex = (context.messageBlockIndex + 1) % 64 := by
  obtain ⟨hprog, hidx, hdigest, hblock, -⟩ := progress_sha1CountByte (context.put x)
  rw [Sha1Context.messageBlockIndex_put] at hidx
  unfold sha1InputTurn
  dsimp only
  by_cases hfull : context.messageBlockIndex + 1 = 64
  · rw [if_pos (hidx.trans hfull), hfull]
    refine ⟨?_, messageBlockIndex_sha1ProcessMessageBlock _⟩
    rw [Sha1Context.progress_process_congr hdigest hblock]
    change (sha1ProcessMessageBlock ([x].foldl Sha1Context.put context)).progress = _
    exact Sha1Context.progress_process h hfull
  · rw [if_neg (hidx ▸ hfull), hidx, hprog]
    refine ⟨?_, (Nat.mod_eq_of_lt (by omega)).symm⟩
    change ([x].foldl Sha1Context.put context).progress = _
    refine Sha1Context.progress_putAll_of_lt ?_
    rw [List.length_singleton]
    omega

/-- The fields that a block does not change. -/
theorem bits_sha1InputTurn (context : Sha1Context) (x : UInt8) :
    (sha1InputTurn context x).bits = (sha1CountByte (context.put x)).bits ∧
      (sha1InputTurn context x).corrupted = (sha1CountByte (context.put x)).corrupted ∧
      (sha1InputTurn context x).computed = context.computed := by
  obtain ⟨-, -, -, -, hcomp⟩ := progress_sha1CountByte (context.put x)
  unfold sha1InputTurn
  dsimp only
  split_ifs
  · exact ⟨Sha1Context.bits_process _, corrupted_sha1ProcessMessageBlock _,
      (computed_sha1ProcessMessageBlock _).trans hcomp⟩
  · exact ⟨rfl, rfl, hcomp⟩

/-- **One more byte.** -/
theorem represents_sha1InputTurn {context : Sha1Context} {message : List UInt8} (x : UInt8)
    (h : context.Represents (.accepting message)) (hlt : 8 * (message.length + 1) < 2 ^ 64) :
    (sha1InputTurn context x).Represents (.accepting (message ++ [x])) := by
  obtain ⟨hcor, hcomp, hbits, hidx, hprog⟩ := h
  have hput : (context.put x).bits = 8 * message.length := hbits
  obtain ⟨hprog', hidx'⟩ := progress_sha1InputTurn (hidx ▸ Nat.mod_lt _ (by decide)) x
  obtain ⟨hbits', hcor', hcomp'⟩ := bits_sha1InputTurn context x
  have hdvd : 8 ∣ (context.put x).bits := hput ▸ Nat.dvd_mul_right 8 _
  obtain ⟨hcount, hsame⟩ := bits_sha1CountByte hdvd (by rw [hput]; omega)
  refine ⟨hcor'.trans (hsame.trans hcor), hcomp'.trans hcomp, ?_, ?_, ?_⟩
  · rw [hbits', hcount, hput, List.length_append, List.length_singleton]
    omega
  · rw [hidx', hidx, Nat.mod_add_mod, List.length_append, List.length_singleton]
  · rw [hprog', hprog, BlockHash.feed_append]

/-- The byte that makes the message too long. -/
theorem corrupted_sha1InputTurn {context : Sha1Context} {message : List UInt8} (x : UInt8)
    (h : context.Represents (.accepting message)) (hge : 2 ^ 64 ≤ 8 * (message.length + 1)) :
    (sha1InputTurn context x).corrupted = true := by
  obtain ⟨-, -, hbits, -, -⟩ := h
  have hput : (context.put x).bits = 8 * message.length := hbits
  rw [(bits_sha1InputTurn context x).2.1]
  exact corrupted_sha1CountByte (hput ▸ Nat.dvd_mul_right 8 _) (by rw [hput]; omega)

theorem sha1InputLoop_of_corrupted {context : Sha1Context} (h : context.corrupted = true)
    (message : List UInt8) : sha1InputLoop context message = context := by
  cases message with
  | nil => rfl
  | cons x message => rw [sha1InputLoop, if_pos h]

/-- **The loop of `SHA1Input`** takes the whole message, or ends at the byte that makes it too
long. -/
theorem represents_sha1InputLoop {context : Sha1Context} {message : List UInt8}
    (h : context.Represents (.accepting message)) (hlt : 8 * message.length < 2 ^ 64)
    (more : List UInt8) :
    (sha1InputLoop context more).Represents
      (if 8 * (message ++ more).length < 2 ^ 64 then .accepting (message ++ more)
        else .refused) := by
  -- the loop asks before each byte whether the message has become too long
  induction more generalizing context message with
  | nil => rwa [List.append_nil, if_pos hlt]
  | cons x more ih =>
    rw [sha1InputLoop, if_neg (by simp [h.1])]
    by_cases hfits : 8 * (message.length + 1) < 2 ^ 64
    · have hnext := ih (represents_sha1InputTurn x h hfits)
        (by rwa [List.length_append, List.length_singleton])
      rwa [List.append_assoc] at hnext
    · rw [sha1InputLoop_of_corrupted (corrupted_sha1InputTurn x h (by omega)), if_neg]
      · exact corrupted_sha1InputTurn x h (by omega)
      · rw [List.length_append, List.length_cons]
        omega

/-- **More of a message.** -/
theorem represents_sha1Input {context : Sha1Context} {log : Sha1Log} (h : context.Represents log)
    (message : List UInt8) : (sha1Input context message).Represents (log.input message) := by
  cases message with
  | nil => cases log <;> exact h
  | cons x more =>
    unfold sha1Input
    rw [if_neg (by simp)]
    cases log with
    | accepting message =>
      -- the length that is counted fits in its two words
      have hbits : 8 * message.length < 2 ^ 64 := by
        have hlow := context.lengthLow.toNat_lt
        have hhigh := context.lengthHigh.toNat_lt
        rw [← h.2.2.1, Sha1Context.bits]
        omega
      rw [if_neg (by simp [h.1, h.2.1])]
      have hloop := represents_sha1InputLoop h hbits (x :: more)
      rwa [Sha1Log.input]
    | finished message =>
      rw [if_pos (by simp [h.2.1])]
      rfl
    | refused =>
      have hcor : context.corrupted = true := h
      rw [if_pos (by simp [hcor])]
      rfl

theorem corrupted_sha1PadMessage (context : Sha1Context) :
    (sha1PadMessage context).corrupted = context.corrupted := by
  have hwrite : ∀ (c : Sha1Context) (xs : List UInt8),
      (c.write 56 xs).corrupted = c.corrupted := fun c xs => rfl
  have hput : ∀ c : Sha1Context, (c.put 0x80).corrupted = c.corrupted := fun c => rfl
  unfold sha1PadMessage
  dsimp only
  rw [corrupted_sha1ProcessMessageBlock, hwrite]
  split_ifs
  · rw [Sha1Context.putZeros, Sha1Context.corrupted_putAll, corrupted_sha1ProcessMessageBlock,
      Sha1Context.putZeros, Sha1Context.corrupted_putAll, hput]
  · rw [Sha1Context.putZeros, Sha1Context.corrupted_putAll, hput]

/-- **The hash value is asked for.** -/
theorem represents_sha1Result {context : Sha1Context} {log : Sha1Log} (h : context.Represents log) :
    (if (sha1Result context).1 then some (sha1Result context).2.messageDigest else none) =
        log.result.1 ∧
      (sha1Result context).2.Represents log.result.2 := by
  cases log with
  | accepting message =>
    obtain ⟨hcor, hcomp, hbits, hidx, hprog⟩ := h
    -- the padding is fed behind the message, which is what hashing it means
    have hdigest := messageDigest_sha1PadMessage hidx hbits
    rw [hprog, ← BlockHash.feed_append, ← BlockHash.hash, ← SecureHash.sha1] at hdigest
    have hresult : sha1Result context =
        (true, { sha1PadMessage context with computed := true }) := by
      rw [sha1Result, if_neg (by simp [hcor]), if_neg (by simp [hcomp])]
    rw [hresult]
    exact ⟨congrArg some hdigest, (corrupted_sha1PadMessage context).trans hcor, rfl, hdigest⟩
  | finished message =>
    obtain ⟨hcor, hcomp, hdigest⟩ := h
    have hresult : sha1Result context = (true, context) := by
      rw [sha1Result, if_neg (by simp [hcor]), if_pos hcomp]
    rw [hresult]
    exact ⟨congrArg some hdigest, hcor, hcomp, hdigest⟩
  | refused =>
    have hcor : context.corrupted = true := h
    have hresult : sha1Result context = (false, context) := by rw [sha1Result, if_pos hcor]
    rw [hresult]
    exact ⟨rfl, hcor⟩

/-- Calls return what the standard says, from a context that is what came so far. -/
theorem sha1Run_of_represents {context : Sha1Context} {log : Sha1Log} (h : context.Represents log)
    (calls : List Sha1Call) : sha1Run context calls = log.returns calls := by
  induction calls generalizing context log with
  | nil => rfl
  | cons call calls ih =>
    cases call with
    | reset => exact ih (represents_sha1Reset context)
    | input message => exact ih (represents_sha1Input h message)
    | result =>
      obtain ⟨hret, hnext⟩ := represents_sha1Result h
      rw [sha1Run, Sha1Log.returns, ← hret, ih hnext]

/-- **What any calls return** is what the standard says of what came since the last reset. -/
theorem returns_sha1Run (context : Sha1Context) (calls : List Sha1Call) :
    sha1Run (sha1Reset context) calls = (Sha1Log.accepting []).returns calls :=
  sha1Run_of_represents (represents_sha1Reset context) calls

/-- The hash value of a message that comes in pieces. -/
def sha1Hash (context : Sha1Context) (pieces : List (List UInt8)) : List (Option Sha1Words) :=
  sha1Run (sha1Reset context) (pieces.map .input ++ [.result])

namespace Sha1Log

theorem input_refused (more : List UInt8) : refused.input more = refused := by cases more <;> rfl

theorem input_accepting {message : List UInt8} (h : 8 * message.length < 2 ^ 64)
    (more : List UInt8) :
    (accepting message).input more =
      if 8 * (message ++ more).length < 2 ^ 64 then accepting (message ++ more) else refused := by
  cases more with
  | nil => rw [List.append_nil, if_pos h]; rfl
  | cons x more => rfl

theorem returns_refused (pieces : List (List UInt8)) :
    refused.returns (pieces.map .input ++ [.result]) = [none] := by
  induction pieces with
  | nil => rfl
  | cons piece pieces ih => rw [List.map_cons, List.cons_append, returns, input_refused, ih]

/-- What is returned for a message that comes in pieces. -/
theorem returns_pieces {message : List UInt8} (h : 8 * message.length < 2 ^ 64)
    (pieces : List (List UInt8)) :
    (accepting message).returns (pieces.map .input ++ [.result]) =
      [if 8 * (message ++ pieces.flatten).length < 2 ^ 64 then
        some (SecureHash.sha1 (message ++ pieces.flatten)) else none] := by
  induction pieces generalizing message with
  | nil => rw [List.flatten_nil, List.append_nil, if_pos h]; rfl
  | cons piece pieces ih =>
    rw [List.map_cons, List.cons_append, returns, input_accepting h, List.flatten_cons,
      ← List.append_assoc]
    by_cases hfits : 8 * (message ++ piece).length < 2 ^ 64
    · rw [if_pos hfits, ih hfits]
    · rw [if_neg hfits, returns_refused, if_neg]
      rw [List.length_append]
      omega

end Sha1Log

/-- **The pieces of a message do not matter**. -/
theorem sha1Hash_eq (context : Sha1Context) (pieces : List (List UInt8)) :
    sha1Hash context pieces =
      [if 8 * pieces.flatten.length < 2 ^ 64 then some (SecureHash.sha1 pieces.flatten)
        else none] := by
  rw [sha1Hash, sha1Run_of_represents (represents_sha1Reset context),
    Sha1Log.returns_pieces (by decide), List.nil_append]

namespace SecureHash

/-- The last bytes of a message with its padding tell its length. -/
theorem length_eq_of_drop_eq {m m' : List UInt8} (h : 8 * m.length < 2 ^ 64)
    (h' : 8 * m'.length < 2 ^ 64)
    (heq : (m ++ padding m.length).drop ((m ++ padding m.length).length - 64) =
      (m' ++ padding m'.length).drop ((m' ++ padding m'.length).length - 64)) :
    m.length = m'.length := by
  -- the last eight bytes
  have hlast : ∀ x : List UInt8,
      ((x ++ padding x.length).drop ((x ++ padding x.length).length - 64)).drop 56 =
        octets 8 (8 * x.length) := by
    intro x
    have hdvd := dvd_length_padding x.length
    have hpos : 0 < (padding x.length).length := Nat.succ_pos _
    have hsplit : x ++ padding x.length =
        (x ++ 0x80 :: List.replicate ((119 - x.length % 64) % 64) 0) ++
          octets 8 (8 * x.length) := by
      rw [padding, List.append_assoc]
    have hlen : (x ++ padding x.length).length =
        (x ++ 0x80 :: List.replicate ((119 - x.length % 64) % 64) 0).length + 8 := by
      rw [hsplit, List.length_append, length_octets]
    rw [List.drop_drop, hsplit, List.drop_left']
    have hsum : (x ++ padding x.length).length = x.length + (padding x.length).length :=
      List.length_append
    rw [← hsplit]
    omega
  have hnum := congrArg number (congrArg (List.drop 56) heq)
  rw [hlast, hlast, number_octets, number_octets] at hnum
  simp only [Nat.reducePow] at hnum
  omega

end SecureHash

/-- **Two messages with the same hash value lead to a collision of the blocks**, among the
states and blocks that they lead through. -/
theorem sha1_collide (context context' : Sha1Context) (pieces pieces' : List (List UInt8)) :
    sha1Hash context pieces = [none] ∨ sha1Hash context pieces ≠ sha1Hash context' pieces' ∨
      pieces.flatten = pieces'.flatten ∨
      ∃ blocks blocks' : List (List UInt8),
        blocks.flatten = pieces.flatten ++ SecureHash.padding pieces.flatten.length ∧
        blocks'.flatten = pieces'.flatten ++ SecureHash.padding pieces'.flatten.length ∧
        (∀ b ∈ blocks ++ blocks', b.length = 64) ∧
        SecureHash.blocks.Collide Sha1Words.initial blocks blocks' := by
  rw [sha1Hash_eq, sha1Hash_eq]
  by_cases h : 8 * pieces.flatten.length < 2 ^ 64
  · by_cases h' : 8 * pieces'.flatten.length < 2 ^ 64
    · rw [if_pos h, if_pos h']
      by_cases heq : SecureHash.sha1 pieces.flatten = SecureHash.sha1 pieces'.flatten
      · by_cases hne : pieces.flatten = pieces'.flatten
        · exact .inr (.inr (.inl hne))
        · refine .inr (.inr (.inr ?_))
          have hpad : ∀ n, SecureHash.padding n ≠ [] := fun n => List.cons_ne_nil _ _
          exact BlockHash.collide_of_hash_eq SecureHash.dvd_length_padding hpad
            (fun hlen hends => hlen (SecureHash.length_eq_of_drop_eq h h' hends)) hne heq
      · exact .inr (.inl fun hret => heq (by simpa using hret))
    · rw [if_pos h, if_neg h']
      exact .inr (.inl (by simp))
  · exact .inl (by rw [if_neg h])

/-- The hash value of `abc`, in two pieces. -/
example : sha1Hash ⟨Sha1Words.initial, 7, 9, List.replicate 64 33, rfl, 12, true, true⟩
    [[97, 98], [99]] =
      [some ⟨0xA9993E36, 0x4706816A, 0xBA3E2571, 0x7850C26C, 0x9CD0D89D⟩] := by
  decide +kernel

end Redes
