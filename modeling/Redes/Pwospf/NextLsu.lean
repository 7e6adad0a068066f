import Redes.Pwospf.RoundTrip
import Redes.Router.System

/-!
# The next LSU of a router

`send_all_lsu` adds one to the 16-bit `g_sequence_num` after each round, and
`check_sequence_number` compares the number of a received LSU with the one stored by an ordinary
less-than.  So a receiver that has stored the last number there is refuses the next LSU, which
has the number 0.

## Main definitions

* `Holds` — a table has entries of a router, all stored from one of its LSUs.

## Main results

* `sequenceNum_sendAllLsu` — the number of the next round.
* `nextLsu_passes_iff` — when the next LSU passes.
-/

namespace Redes

/-- A table has entries of a router, and all of them were stored from its LSU number
`sequenceNum`. -/
structure Holds (table : List TopologyEntry) (routerId : IpAddr) (sequenceNum : UInt16) :
    Prop where
  /-- There is an entry that has not expired. -/
  present : ∃ e ∈ table, e.routerId = routerId
  /-- Each entry is from that LSU. -/
  stored : ∀ e ∈ table, e.routerId = routerId → e.sequenceNum = sequenceNum

/-- The number that the table holds is the one of the LSU. -/
theorem Holds.firstSeq {table : List TopologyEntry} {routerId : IpAddr} {sequenceNum : UInt16}
    (h : Holds table routerId sequenceNum) : firstSeq table routerId = some sequenceNum := by
  unfold Redes.firstSeq
  cases hfind : table.find? fun e => e.routerId = routerId with
  | none =>
    obtain ⟨e, he, hid⟩ := h.present
    exact absurd hid (by simpa using List.find?_eq_none.mp hfind e he)
  | some e =>
    have hid : e.routerId = routerId := by simpa using List.find?_some hfind
    exact congrArg some (h.stored e (List.mem_of_find?_eq_some hfind) hid)

/-- **A round of LSUs leaves the next number, as a 16-bit value**, and the router id. -/
theorem sequenceNum_sendAllLsu {env : Env} {s s' : RouterState}
    (h : (sendAllLsu env s).ending = .ok s') :
    s'.sequenceNum = s.sequenceNum + 1 ∧ s'.routerId = s.routerId := by
  unfold sendAllLsu at h
  obtain ⟨st, -, rfl⟩ := Logged.ending_map_eq_ok h
  exact ⟨rfl, rfl⟩

/-- Only the last number is not below the one that follows it. -/
theorem lt_succ_iff (n : UInt16) : n < n + 1 ↔ n ≠ 0xffff := by
  have hlt := n.toNat_lt
  rw [UInt16.lt_iff_toNat_lt, UInt16.toNat_add, ne_eq, ← UInt16.toNat_inj]
  show n.toNat < (n.toNat + 1) % 65536 ↔ ¬ n.toNat = 65535
  omega

/-- **The next LSU of a router passes if and only if** the number that the receiver has stored
is not the last one. -/
theorem nextLsu_passes_iff {env : Env} {s s' : RouterState}
    (hround : (sendAllLsu env s).ending = .ok s') {table : List TopologyEntry}
    (hheard : Holds table s.routerId s.sequenceNum) :
    checkSequenceNumber table s'.routerId s'.sequenceNum = true ↔ s.sequenceNum ≠ 0xffff := by
  obtain ⟨hnum, hid⟩ := sequenceNum_sendAllLsu hround
  rw [checkSequenceNumber_eq_true, hid, hheard.firstSeq, hnum]
  constructor
  · intro h
    exact (lt_succ_iff _).mp (h _ rfl)
  · intro hne q hq
    cases hq
    exact (lt_succ_iff _).mpr hne

/-- A router with a neighbour, before the round of LSUs with some number. -/
def beforeRound (sequenceNum : UInt16) : RouterState :=
  { routerInit connectedRouter.ifList connectedRouter.routingTable with
    routerId := 0x01010101
    sequenceNum := sequenceNum }

/-- The state after the round: the LSU waits for the hardware address of the neighbour. -/
def afterRound (sequenceNum : UInt16) : Except Halt RouterState :=
  (sendAllLsu ⟨0, 1, fun _ => 0, fun _ => 0, fun _ => 0⟩ (beforeRound sequenceNum)).ending

/-- The table of a receiver that has accepted an LSU of this router. -/
def heardTable (sequenceNum : UInt16) : List TopologyEntry :=
  receiveLsu 0x07070707 [] ⟨0x01010101, sequenceNum, 0x0101000a,
    [⟨0x0001000a, 0x00ffffff, 0x07070707⟩]⟩

theorem holds_heardTable (sequenceNum : UInt16) :
    Holds (heardTable sequenceNum) 0x01010101 sequenceNum :=
  ⟨⟨_, List.mem_cons_self, rfl⟩, by
    intro e he _
    rw [List.mem_singleton.mp he]
    rfl⟩

/-- After the LSU number 7 the next one passes. -/
theorem nextLsu_passes_seven : ∃ s', afterRound 7 = .ok s' ∧
    checkSequenceNumber (heardTable 7) s'.routerId s'.sequenceNum = true := by
  obtain ⟨s', hs'⟩ : ∃ s', afterRound 7 = .ok s' := ⟨_, rfl⟩
  exact ⟨s', hs', (nextLsu_passes_iff hs' (holds_heardTable 7)).mpr (by decide)⟩

/-- After the LSU number 65535 it does not. -/
theorem nextLsu_refused : ∃ s', afterRound 0xffff = .ok s' ∧
    Holds (heardTable 0xffff) s'.routerId 0xffff ∧ s'.sequenceNum = 0 ∧
      checkSequenceNumber (heardTable 0xffff) s'.routerId s'.sequenceNum = false :=
  ⟨_, rfl, holds_heardTable 0xffff, rfl, rfl⟩

end Redes
