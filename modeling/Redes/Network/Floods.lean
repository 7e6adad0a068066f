import Mathlib.Data.Finset.Prod
import Mathlib.Data.Fintype.Card
import Redes.Network.LinkState

/-!
# Floods end

LSUs go round in a network with loops, and their TTL is decremented but not looked at: what ends
a flood is that a router does not accept an LSU twice.  It does not as long as the topology table
has the sequence number of the last LSU of each router, which takes that each accepted LSU leaves
its number there and that no entry expires.  In such runs all routers together accept LSUs at most
as often as there are routers, for each time that a router sends its own.

## Main definitions

* `acceptance`, `announcement` — the LSU that an event accepts, or sends.
* `Steady` — an event that does not forget a sequence number.
* `acceptances`, `announcements` — those of the turns of a run.

## Main results

* `Stepped.seqRecorded` — a steady event does not forget a recorded number.
* `accepted_once` — no router accepts an LSU twice.
* `Cabling.acceptances_le` — how often LSUs are accepted in a run.
-/

namespace Redes

open Bytes Logged

/-! ### Accepting and announcing -/

/-- The LSU that an event accepts. -/
def acceptance (s : RouterState) : RouterEvent → Option Lsu
  | .rxLsu k =>
      s.rxLsus[k]?.bind fun l =>
        match srHandlePwospfLsuPacket s.routerId s.topology l.packet with
        | .ok (.accepted lsu) => some lsu
        | _ => none
  | _ => none

/-- The router id and the sequence number of the LSUs that an event sends: it is time for them,
or a HELLO is accepted that changes the neighbour of its interface. -/
def announcement (s : RouterState) : RouterEvent → Option (IpAddr × UInt16)
  | .allLsu => if s.routerId ≠ 0 then some (s.routerId, s.sequenceNum) else none
  | .receive packet interface =>
      if ReachesPwospf packet ∧ s.routerId ≠ 0 ∧ ospfType packet = ospfTypeHello then
        match srHandlePwospfHelloPacket packet (srGetInterface s.ifList interface) with
        | .ok (some heard) =>
            if ChangesNeighbor ⟨s.ifList, s.neighbors⟩ interface heard then
              some (s.routerId, s.sequenceNum)
            else none
        | _ => none
      else none
  | _ => none

/-- An event that accepts LSUs only if their numbers are recorded, and lets no entry expire. -/
structure Steady (s : RouterState) (e : RouterEvent) : Prop where
  /-- The number of an accepted LSU is recorded. -/
  records : ∀ lsu ∈ acceptance s e, RecordsSequence s.topology lsu
  /-- No entry expires. -/
  stays : e = .topologyAge → NoneExpires s.topology

/-- An LSU is accepted when its thread runs. -/
theorem acceptance_eq_some {s : RouterState} {e : RouterEvent} {lsu : Lsu} :
    acceptance s e = some lsu ↔ ∃ k l, e = .rxLsu k ∧ s.rxLsus[k]? = some l ∧
      srHandlePwospfLsuPacket s.routerId s.topology l.packet = .ok (.accepted lsu) := by
  constructor
  · intro h
    cases e with
    | rxLsu k =>
      obtain ⟨l, hl, h⟩ := Option.bind_eq_some_iff.mp h
      refine ⟨k, l, rfl, hl, ?_⟩
      split at h
      · next hverdict => rw [hverdict, Option.some.inj h]
      · cases h
    | _ => cases h
  · rintro ⟨k, l, rfl, hl, hverdict⟩
    simp [acceptance, hl, hverdict]

/-- Events that announce send the id and the number of the router. -/
theorem Announces.announcement_eq {s s₁ : RouterState} {e : RouterEvent} (h : Announces s e s₁) :
    announcement s e = some (s₁.routerId, s₁.sequenceNum) := by
  cases h with
  | allLsu hrunning => exact if_pos hrunning
  | @hello packet interface heard hacc hnew =>
    have hreaches : ReachesPwospf packet ∧ s.routerId ≠ 0 ∧ ospfType packet = ospfTypeHello :=
      ⟨⟨hacc.valid, hacc.ip, hacc.ospf⟩, hacc.running, hacc.heard_eq.1⟩
    simp only [announcement]
    rw [if_pos hreaches, hacc.heard]
    exact if_pos hnew

/-! ### The numbers that are recorded -/

/-- The topology table has a number for the router, which is at least this one. -/
def SeqRecorded (table : List TopologyEntry) (rid : IpAddr) (seq : UInt16) : Prop :=
  ∃ q, firstSeq table rid = some q ∧ seq ≤ q

section Step

variable {s s' : RouterState} {e : RouterEvent}

/-- **A steady event does not forget a number.** -/
theorem Stepped.seqRecorded (h : Stepped s e s') (hsteady : Steady s e) {rid : IpAddr}
    {seq : UInt16} (hrec : SeqRecorded s.topology rid seq) : SeqRecorded s'.topology rid seq := by
  cases h with
  | lsuAccepted st hl hverdict =>
    rename_i k l lsu
    have hacc := (lsu_accepted_eq hverdict).2
    have hrecords : RecordsSequence s.topology lsu :=
      hsteady.records lsu (acceptance_eq_some.mpr ⟨k, l, rfl, hl, hverdict⟩)
    -- the LSU is one of this router, with a greater number, or of another one
    by_cases hrid : rid = lsu.rid
    · subst hrid
      obtain ⟨q, hq, hle⟩ := hrec
      refine ⟨lsu.seq, ?_, ?_⟩
      · show firstSeq (updateTopology s.topology lsu) lsu.rid = _
        rw [firstSeq_updateTopology, if_pos (.inr hrecords)]
      · exact UInt16.le_trans hle (UInt16.le_of_lt ((accepts_eq_true.mp hacc).2 q hq))
    · unfold SeqRecorded
      show ∃ q, firstSeq (updateTopology s.topology lsu) rid = some q ∧ seq ≤ q
      rw [firstSeq_updateTopology_of_ne _ hrid]
      exact hrec
  | topologyAge _ =>
    unfold SeqRecorded
    show ∃ q, firstSeq (checkTopologyAge s.topology).1 rid = some q ∧ seq ≤ q
    rw [firstSeq_checkTopologyAge (hsteady.stays rfl)]
    exact hrec
  | run =>
    unfold pwospfRunThread
    split <;> exact hrec
  | _ => exact hrec

/-- **A steady event that accepts an LSU records its number.** -/
theorem Stepped.seqRecorded_of_acceptance (h : Stepped s e s') (hsteady : Steady s e) {lsu : Lsu}
    (hacc : acceptance s e = some lsu) : SeqRecorded s'.topology lsu.rid lsu.seq := by
  have hrecords := hsteady.records lsu hacc
  obtain ⟨k, l, rfl, hl, hverdict⟩ := acceptance_eq_some.mp hacc
  have hupdated : s'.topology = updateTopology s.topology lsu := by
    cases h with
    | arp st hidle =>
      rw [hidle k rfl] at hl
      cases hl
    | lsuDropped hl' hdrop =>
      rw [hl] at hl'
      obtain rfl := Option.some.inj hl'
      rw [hverdict] at hdrop
      cases Except.ok.inj hdrop
    | lsuAccepted st hl' hverdict' =>
      rw [hl] at hl'
      obtain rfl := Option.some.inj hl'
      rw [hverdict] at hverdict'
      obtain rfl := LsuVerdict.accepted.inj (Except.ok.inj hverdict')
      rfl
  rw [hupdated]
  refine ⟨lsu.seq, ?_, UInt16.le_refl _⟩
  rw [firstSeq_updateTopology, if_pos (.inr hrecords)]

end Step

/-- A recorded LSU is not accepted. -/
theorem not_acceptance_of_seqRecorded {s : RouterState} {e : RouterEvent} {lsu : Lsu}
    (hrec : SeqRecorded s.topology lsu.rid lsu.seq) : acceptance s e ≠ some lsu := by
  intro hacc
  obtain ⟨k, l, -, -, hverdict⟩ := acceptance_eq_some.mp hacc
  obtain ⟨q, hq, hle⟩ := hrec
  have hlt := (accepts_eq_true.mp (lsu_accepted_eq hverdict).2).2 q hq
  exact absurd hle (UInt16.not_le.mpr hlt)

/-! ### Runs -/

namespace Cabling

variable {ν κ : Type*} {c : Cabling ν κ}

/-- The LSUs that were accepted, each with the router that accepted it. -/
def acceptances (turns : List (RouterTurn ν)) : List (ν × IpAddr × UInt16) :=
  turns.filterMap fun turn =>
    (acceptance turn.state turn.input.2).map fun lsu => (turn.machine, lsu.rid, lsu.seq)

/-- The LSUs that routers sent on their own. -/
def announcements (turns : List (RouterTurn ν)) : List (IpAddr × UInt16) :=
  turns.filterMap fun turn => announcement turn.state turn.input.2

variable {turns : List (RouterTurn ν)} {config : Network.Config ν RouterState Outgoing}

/-- What was said was announced. -/
theorem WasSaid.mem_announcements {words : Said} (h : WasSaid turns words) :
    (words.rid, words.seq) ∈ announcements turns := by
  obtain ⟨turn, hturn, s₁, hann, lsas, -, rfl⟩ := h
  exact List.mem_filterMap.mpr ⟨turn, hturn, hann.announcement_eq⟩

variable [DecidableEq ν]

/-- **What is accepted was announced.** -/
theorem mem_announcements_of_acceptance (h : RoutersRun c turns config) {n : ν} {e : RouterEvent}
    {lsu : Lsu} (hacc : acceptance (config.states n) e = some lsu) :
    (lsu.rid, lsu.seq) ∈ announcements turns := by
  obtain ⟨k, l, -, hl, hverdict⟩ := acceptance_eq_some.mp hacc
  obtain ⟨hospf, hwaits⟩ := ((learns_of_run h).states n).1.rxLsus l (List.mem_of_getElem? hl)
  have htold : WasSaid turns (said l.packet) := (hwaits.lsu hospf).2
  rw [(lsu_accepted_eq hverdict).1]
  exact htold.mem_announcements

/-- A router that accepted an LSU has its number, unless it is down. -/
theorem seqRecorded_of_acceptances (h : RoutersRun c turns config)
    (hsteady : ∀ turn ∈ turns, Steady turn.state turn.input.2) :
    ∀ a ∈ acceptances turns,
      a.1 ∈ config.down ∨ SeqRecorded (config.states a.1).topology a.2.1 a.2.2 := by
  induction h with
  | refl => exact fun a ha => absurd ha List.not_mem_nil
  | @tail turns config n a hrun hup hgiven ih =>
    have hturn : Steady (config.states n) a.2 := hsteady _ List.mem_cons_self
    have hrest := ih fun turn hmem => hsteady turn (List.mem_cons_of_mem _ hmem)
    intro acc hacc
    -- the turn may be the one that accepted the LSU, or one after it
    cases hend : (c.routers.step (config.states n) a).ending with
    | error err =>
      -- the router is down from now on
      rw [Network.states_after_of_error hend]
      rw [Network.down_after_of_error hend]
      rcases List.mem_filterMap.mp hacc with ⟨turn, hmem, hturnacc⟩
      rcases List.mem_cons.mp hmem with rfl | hmem
      · obtain ⟨lsu, -, rfl⟩ := Option.map_eq_some_iff.mp hturnacc
        exact .inl (Set.mem_insert n _)
      · exact (hrest acc (List.mem_filterMap.mpr ⟨turn, hmem, hturnacc⟩)).imp_left
          (Set.mem_insert_of_mem n)
    | ok s =>
      have hstep : Stepped (config.states n) a.2 s := by
        change (routerStep a.1 (config.states n) a.2).ending = .ok s at hend
        exact stepped_routerStep hend
      rw [Network.down_after_of_ok hend, Network.states_after_of_ok hend]
      rcases List.mem_filterMap.mp hacc with ⟨turn, hmem, hturnacc⟩
      rcases List.mem_cons.mp hmem with rfl | hmem
      · obtain ⟨lsu, hlsu, rfl⟩ := Option.map_eq_some_iff.mp hturnacc
        right
        rw [Function.update_self]
        exact hstep.seqRecorded_of_acceptance hturn hlsu
      · refine (hrest acc (List.mem_filterMap.mpr ⟨turn, hmem, hturnacc⟩)).imp_right fun hrec => ?_
        by_cases heq : acc.1 = n
        · rw [heq, Function.update_self]
          rw [heq] at hrec
          exact hstep.seqRecorded hturn hrec
        · rwa [Function.update_of_ne heq]

/-- **No router accepts an LSU twice** in a run of steady events. -/
theorem accepted_once (h : RoutersRun c turns config)
    (hsteady : ∀ turn ∈ turns, Steady turn.state turn.input.2) : (acceptances turns).Nodup := by
  induction h with
  | refl => exact List.nodup_nil
  | @tail turns config n a hrun hup hgiven ih =>
    have hsteady' : ∀ turn ∈ turns, Steady turn.state turn.input.2 :=
      fun turn hmem => hsteady turn (List.mem_cons_of_mem _ hmem)
    have hrest := ih hsteady'
    cases hacc : acceptance (config.states n) a.2 with
    | none =>
      rw [acceptances, List.filterMap_cons_none (by simp [hacc])]
      exact hrest
    | some lsu =>
      rw [acceptances, List.filterMap_cons_some (b := (n, lsu.rid, lsu.seq)) (by simp [hacc])]
      refine List.nodup_cons.mpr ⟨?_, hrest⟩
      intro hmem
      -- had it been accepted before, its number would be recorded
      rcases seqRecorded_of_acceptances hrun hsteady' _ hmem with hdown | hrec
      · exact hup hdown
      · exact not_acceptance_of_seqRecorded hrec hacc

/-- What routers accept are announcements. -/
theorem acceptances_subset (h : RoutersRun c turns config) :
    ∀ a ∈ acceptances turns, a.2 ∈ announcements turns := by
  induction h with
  | refl => exact fun a ha => absurd ha List.not_mem_nil
  | @tail turns config n a hrun hup hgiven ih =>
    intro acc hacc
    have hmore : ∀ x ∈ announcements turns, x ∈ announcements (⟨n, config.states n, a⟩ :: turns) :=
      fun x hx => (List.Sublist.filterMap _ (List.sublist_cons_self _ _)).subset hx
    rcases List.mem_filterMap.mp hacc with ⟨turn, hmem, hturnacc⟩
    rcases List.mem_cons.mp hmem with rfl | hmem
    · obtain ⟨lsu, hlsu, rfl⟩ := Option.map_eq_some_iff.mp hturnacc
      exact hmore _ (mem_announcements_of_acceptance hrun hlsu)
    · exact hmore _ (ih acc (List.mem_filterMap.mpr ⟨turn, hmem, hturnacc⟩))

/-- **Floods end**: in a run of steady events, all routers together accept LSUs at most as often
as there are routers, for each time that a router sends its own. -/
theorem acceptances_le [Fintype ν] (h : RoutersRun c turns config)
    (hsteady : ∀ turn ∈ turns, Steady turn.state turn.input.2) :
    (acceptances turns).length ≤ Fintype.card ν * (announcements turns).length := by
  -- an acceptance is a router together with an announcement
  have hsub : (acceptances turns).toFinset ⊆ Finset.univ ×ˢ (announcements turns).toFinset := by
    intro a ha
    rw [Finset.mem_product]
    refine ⟨Finset.mem_univ _, List.mem_toFinset.mpr ?_⟩
    exact acceptances_subset h a (List.mem_toFinset.mp ha)
  calc (acceptances turns).length
      = (acceptances turns).toFinset.card :=
        (List.toFinset_card_of_nodup (accepted_once h hsteady)).symm
    _ ≤ (Finset.univ ×ˢ (announcements turns).toFinset : Finset (ν × IpAddr × UInt16)).card :=
        Finset.card_le_card hsub
    _ = Fintype.card ν * (announcements turns).toFinset.card := by
        rw [Finset.card_product, Finset.card_univ]
    _ ≤ Fintype.card ν * (announcements turns).length :=
        Nat.mul_le_mul_left _ (List.toFinset_card_le _)

theorem firstLearns_steady : ∀ turn ∈ firstLearns.turns, Steady turn.state turn.input.2 := by
  have hrecords : ∀ turn ∈ firstLearns.turns, ∀ lsu ∈ acceptance turn.state turn.input.2,
      RecordsSequence turn.state.topology lsu := by decide +kernel
  have hstays : ∀ turn ∈ firstLearns.turns, turn.input.2 ≠ .topologyAge := by decide +kernel
  exact fun turn hturn => ⟨hrecords turn hturn, fun h => absurd h (hstays turn hturn)⟩

theorem acceptances_le_firstLearns : (acceptances firstLearns.turns).length = 1 ∧
    (acceptances firstLearns.turns).length ≤
      Fintype.card (Fin 2) * (announcements firstLearns.turns).length := by
  obtain ⟨config, hrun, -⟩ := firstLearns_reaches
  exact ⟨by decide +kernel, acceptances_le hrun firstLearns_steady⟩

end Cabling

end Redes
