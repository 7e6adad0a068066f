import Redes.Pwospf.Topology

/-!
# Which link-state updates are accepted

`sr_handle_pwospf_lsu_packet` accepts an update whose sequence number is above that of
the first entry of its originator in the topology table, and then applies its
advertisements one by one.  The number is recorded by that first entry only, so it is
remembered exactly if some advertisement of the update becomes that entry or refreshes it.

## Main definitions

* `Lsu`, `accepts`, `updateTopology`, `receiveLsu` — the part of the handler that reads and
  writes the topology table.
* `TopologyEvent`, `history`, `acceptedLsus` — runs of updates and ticks of the clock.
* `RecordsSequence` — an update leaves its sequence number behind.

## Main results

* `firstSeq_updateTopology` — the number the table holds of a router after an update.
* `accepted_strictly_increasing` — when no update is accepted twice.
-/

namespace Redes

open Sweep

/-- A link-state update, as the handler reads it from the packet. -/
structure Lsu where
  /-- Router id of the originator. -/
  rid : IpAddr
  /-- Sequence number. -/
  seq : UInt16
  /-- Source address of the packet. -/
  ipSrc : IpAddr
  /-- The `num_adv` advertisements. -/
  lsas : List Lsa
  deriving DecidableEq

/-- The two tests of `sr_handle_pwospf_lsu_packet` before it applies the update: it is not
from this router, and its sequence number is new. -/
def accepts (ownId : IpAddr) (table : List TopologyEntry) (lsu : Lsu) : Bool :=
  lsu.rid ≠ ownId && checkSequenceNumber table lsu.rid lsu.seq

/-- The loop over the advertisements. -/
def updateTopology (table : List TopologyEntry) (lsu : Lsu) : List TopologyEntry :=
  lsu.lsas.foldl (fun t lsa => refreshTopologyEntry t lsu.rid lsa lsu.ipSrc lsu.seq) table

/-- What a received update does to the topology table. -/
def receiveLsu (ownId : IpAddr) (table : List TopologyEntry) (lsu : Lsu) : List TopologyEntry :=
  if accepts ownId table lsu then updateTopology table lsu else table

/-- What changes the topology table. -/
inductive TopologyEvent
  /-- An update is received. -/
  | lsu (l : Lsu)
  /-- `check_topology_entries_age` wakes up. -/
  | tick
  deriving DecidableEq

/-- The topology table after an event. -/
def TopologyEvent.apply (ownId : IpAddr) (table : List TopologyEntry) :
    TopologyEvent → List TopologyEntry
  | .lsu l => receiveLsu ownId table l
  | .tick => (checkTopologyAge table).1

/-- The events of a run, each with the table it finds. -/
def history (ownId : IpAddr) :
    List TopologyEntry → List TopologyEvent → List (List TopologyEntry × TopologyEvent)
  | _, [] => []
  | table, ev :: evs => (table, ev) :: history ownId (ev.apply ownId table) evs

/-- The update that an event accepts, if it is one. -/
def acceptedLsu (ownId : IpAddr) : List TopologyEntry × TopologyEvent → Option Lsu
  | (table, .lsu l) => if accepts ownId table l then some l else none
  | (_, .tick) => none

/-- The updates accepted in a run, in order. -/
def acceptedLsus (ownId : IpAddr) (table : List TopologyEntry) (evs : List TopologyEvent) :
    List Lsu :=
  (history ownId table evs).filterMap (acceptedLsu ownId)

/-- The advertisement becomes the first entry of its originator, or refreshes it: nothing
stops it before the end of the table, or what stops it is an entry of the originator and
the first entry of the originator is about the same subnet. -/
def Records (table : List TopologyEntry) (routerId : IpAddr) (lsa : Lsa) : Prop :=
  ∀ ptr ∈ table.find? fun e => StopsAt routerId lsa e, ptr.routerId = routerId ∧
    ∀ first ∈ table.find? fun e => e.routerId = routerId, SameSubnet lsa first

instance (table : List TopologyEntry) (routerId : IpAddr) (lsa : Lsa) :
    Decidable (Records table routerId lsa) :=
  inferInstanceAs (Decidable (∀ ptr ∈ table.find? fun e => StopsAt routerId lsa e,
    ptr.routerId = routerId ∧
      ∀ first ∈ table.find? fun e => e.routerId = routerId, SameSubnet lsa first))

/-- Some advertisement of the update records its sequence number. -/
def RecordsSequence (table : List TopologyEntry) (lsu : Lsu) : Prop :=
  ∃ lsa ∈ lsu.lsas, Records table lsu.rid lsa

instance (table : List TopologyEntry) (lsu : Lsu) : Decidable (RecordsSequence table lsu) :=
  inferInstanceAs (Decidable (∃ lsa ∈ lsu.lsas, Records table lsu.rid lsa))

/-! ### The recorded sequence number -/

/-- The sequence number that the table holds of a router: that of its first entry. -/
def firstSeq (table : List TopologyEntry) (routerId : IpAddr) : Option UInt16 :=
  (table.find? fun e => e.routerId = routerId).map TopologyEntry.sequenceNum

theorem checkSequenceNumber_eq_true {table : List TopologyEntry} {r : IpAddr} {s : UInt16} :
    checkSequenceNumber table r s = true ↔ ∀ q ∈ firstSeq table r, q < s := by
  unfold checkSequenceNumber firstSeq
  cases table.find? fun e => e.routerId = r <;> simp

variable {table : List TopologyEntry} {r other nextHop : IpAddr} {lsa : Lsa} {seq : UInt16}

/-- The number held of a router is told by its own entries. -/
theorem firstSeq_eq (table : List TopologyEntry) (r : IpAddr) :
    firstSeq table r = (entriesOf table r).head?.map TopologyEntry.sequenceNum := by
  rw [firstSeq, entriesOf, List.head?_filter]

/-- An update of one router does not change the number held of another. -/
theorem firstSeq_refresh_of_ne (hne : other ≠ r) :
    firstSeq (refreshTopologyEntry table r lsa nextHop seq) other = firstSeq table other := by
  rw [firstSeq_eq, firstSeq_eq, entriesOf_refresh_of_ne hne]

/-- **An advertisement that records its number puts it into the first entry.** -/
theorem firstSeq_refresh_of_records (h : Records table r lsa) :
    firstSeq (refreshTopologyEntry table r lsa nextHop seq) r = some seq := by
  rcases refresh_cases r nextHop lsa seq table with
    ⟨-, heq⟩ | ⟨pre, ptr, post, rfl, hpre, hptr, hcase⟩
  · rw [heq, firstSeq, List.find?_cons_of_pos (by simp [createOspfv2TopologyEntry])]
    rfl
  · have hstop : (pre ++ ptr :: post).find? (fun e => StopsAt r lsa e) = some ptr := by
      rw [List.find?_append, List.find?_eq_none.mpr (by simpa using hpre),
        List.find?_cons_of_pos (by simpa using hptr), Option.none_or]
    obtain ⟨hown, hfirst⟩ := h ptr hstop
    rcases hcase with ⟨-, heq⟩ | ⟨hother, -⟩
    · cases hf : pre.find? fun e => e.routerId = r with
      | none =>
        rw [heq, firstSeq, List.find?_append, hf, Option.none_or,
          List.find?_cons_of_pos (by simp [refreshed, hown])]
        rfl
      | some f =>
        -- an entry of the router before `ptr` is about another subnet
        have hsame := hfirst f (by rw [List.find?_append, hf]; rfl)
        have hfr : f.routerId = r := by simpa using List.find?_some hf
        exact absurd ⟨hsame, Or.inl hfr⟩ (hpre f (List.mem_of_find?_eq_some hf))
    · exact absurd hown hother

/-- The number once recorded, an update of the same number leaves it. -/
theorem firstSeq_refresh_of_eq (h : firstSeq table r = some seq) :
    firstSeq (refreshTopologyEntry table r lsa nextHop seq) r = some seq := by
  rcases refresh_cases r nextHop lsa seq table with
    ⟨-, heq⟩ | ⟨pre, ptr, post, rfl, -, -, ⟨hown, heq⟩ | ⟨-, heq⟩⟩
  · rw [heq, firstSeq, List.find?_cons_of_pos (by simp [createOspfv2TopologyEntry])]
    rfl
  · rw [heq]
    rw [firstSeq, List.find?_append] at h ⊢
    cases hf : pre.find? fun e => e.routerId = r with
    | none =>
      rw [List.find?_cons_of_pos (by simp [refreshed, hown])]
      rfl
    | some f => rw [hf] at h; exact h
  · rw [heq, h]

/-- **An advertisement that does not record its number changes nothing about which
advertisements do**, and leaves the number held as it was. -/
theorem refresh_of_not_records (nextHop : IpAddr) (seq : UInt16) (h : ¬ Records table r lsa) :
    firstSeq (refreshTopologyEntry table r lsa nextHop seq) r = firstSeq table r ∧
      ∀ lsa', Records (refreshTopologyEntry table r lsa nextHop seq) r lsa' ↔
        Records table r lsa' := by
  rcases refresh_cases r nextHop lsa seq table with
    ⟨hall, -⟩ | ⟨pre, ptr, post, rfl, hpre, hptr, ⟨hown, heq⟩ | ⟨-, heq⟩⟩
  · refine absurd ?_ h
    intro ptr hptr
    exact absurd (by simpa using List.find?_some hptr) (hall ptr (List.mem_of_find?_eq_some hptr))
  · -- the first entry of the router is before `ptr`, otherwise the number would be recorded
    cases hf : pre.find? fun e => e.routerId = r with
    | none =>
      refine absurd ?_ h
      intro p hp
      rw [List.find?_append, List.find?_eq_none.mpr (by simpa using hpre),
        List.find?_cons_of_pos (by simpa using hptr), Option.none_or] at hp
      obtain rfl := Option.some.inj hp
      refine ⟨hown, ?_⟩
      intro f hfirst
      rw [List.find?_append, hf, List.find?_cons_of_pos (by simpa using hown)] at hfirst
      obtain rfl := Option.some.inj hfirst
      exact hptr.1
    | some f =>
      rw [heq]
      have hfirst : ∀ p : TopologyEntry,
          (pre ++ p :: post).find? (fun e => e.routerId = r) = some f := by
        intro p
        rw [List.find?_append, hf]
        rfl
      refine ⟨by rw [firstSeq, firstSeq, hfirst, hfirst], ?_⟩
      intro lsa'
      have hstops : StopsAt r lsa' (refreshed lsa seq ptr) ↔ StopsAt r lsa' ptr :=
        stopsAt_refreshed hown
      simp only [Records, hfirst, List.find?_append, List.find?_cons]
      by_cases hs : StopsAt r lsa' ptr
      · have hs' := hstops.mpr hs
        have hown' : (refreshed lsa seq ptr).routerId = r := hown
        cases pre.find? (fun e => StopsAt r lsa' e) <;> simp [hs, hs', hown, hown']
      · have hs' : ¬ StopsAt r lsa' (refreshed lsa seq ptr) := fun h => hs (hstops.mp h)
        simp [hs, hs']
  · rw [heq]
    exact ⟨rfl, fun _ => Iff.rfl⟩

/-- **The number held of the originator after an update**: its own if some advertisement
records it, otherwise the one before. -/
theorem firstSeq_foldl (lsas : List Lsa) (table : List TopologyEntry) (r nextHop : IpAddr)
    (seq : UInt16) :
    ((firstSeq table r = some seq ∨ ∃ lsa ∈ lsas, Records table r lsa) →
      firstSeq (lsas.foldl (fun t lsa => refreshTopologyEntry t r lsa nextHop seq) table) r =
        some seq) ∧
    ((¬ ∃ lsa ∈ lsas, Records table r lsa) →
      firstSeq (lsas.foldl (fun t lsa => refreshTopologyEntry t r lsa nextHop seq) table) r =
        firstSeq table r) := by
  induction lsas generalizing table with
  | nil => simp
  | cons lsa lsas ih =>
    obtain ⟨ih₁, ih₂⟩ := ih (refreshTopologyEntry table r lsa nextHop seq)
    rw [List.foldl_cons]
    by_cases hrec : Records table r lsa
    · refine ⟨fun _ => ih₁ (Or.inl (firstSeq_refresh_of_records hrec)), ?_⟩
      intro hno
      exact absurd ⟨lsa, List.mem_cons_self, hrec⟩ hno
    · obtain ⟨hsame, hiff⟩ := refresh_of_not_records nextHop seq hrec
      constructor
      · rintro (heq | ⟨x, hx, hxr⟩)
        · exact ih₁ (Or.inl (firstSeq_refresh_of_eq heq))
        · rcases List.mem_cons.mp hx with rfl | hx
          · exact absurd hxr hrec
          · exact ih₁ (Or.inr ⟨x, hx, (hiff x).mpr hxr⟩)
      · intro hno
        rw [ih₂, hsame]
        rintro ⟨x, hx, hxr⟩
        exact hno ⟨x, List.mem_cons_of_mem _ hx, (hiff x).mp hxr⟩

/-- The same for the whole update. -/
theorem firstSeq_updateTopology (table : List TopologyEntry) (lsu : Lsu) :
    firstSeq (updateTopology table lsu) lsu.rid =
      if firstSeq table lsu.rid = some lsu.seq ∨ RecordsSequence table lsu then some lsu.seq
      else firstSeq table lsu.rid := by
  obtain ⟨h₁, h₂⟩ := firstSeq_foldl lsu.lsas table lsu.rid lsu.ipSrc lsu.seq
  split
  · exact h₁ (by assumption)
  · rename_i h
    rw [not_or] at h
    exact h₂ h.2

theorem firstSeq_updateTopology_of_ne (table : List TopologyEntry) {lsu : Lsu} {r : IpAddr}
    (hne : r ≠ lsu.rid) : firstSeq (updateTopology table lsu) r = firstSeq table r := by
  unfold updateTopology
  generalize lsu.lsas = lsas
  induction lsas generalizing table with
  | nil => rfl
  | cons lsa lsas ih => rw [List.foldl_cons, ih, firstSeq_refresh_of_ne hne]

/-! ### Ticks -/

/-- No entry is at the age at which it is deleted. -/
def NoneExpires (table : List TopologyEntry) : Prop := ∀ e ∈ table, e.age ≠ ospfTopoEntryTimeout

instance (table : List TopologyEntry) : Decidable (NoneExpires table) :=
  inferInstanceAs (Decidable (∀ e ∈ table, e.age ≠ ospfTopoEntryTimeout))

/-- When nothing expires the entries only get older. -/
theorem checkTopologyAge_of_noneExpires {table : List TopologyEntry} (h : NoneExpires table) :
    checkTopologyAge table = (table.map fun e => { e with age := e.age + 1 }, false) := by
  have hnone : ∀ e ∈ table, ¬ e.Expired := h
  have hlast : ∀ e ∈ table.dropLast, ¬ e.Expired := fun e he =>
    hnone e ((List.dropLast_sublist table).subset he)
  have hkept : (table.filter fun e => ¬ e.Expired) = table :=
    List.filter_eq_self.mpr fun e he => by simpa using hnone e he
  have hremoved : (table.filter fun e => e.Expired) = [] :=
    List.filter_eq_nil_iff.mpr fun e he => by simpa using hnone e he
  rw [checkTopologyAge_eq, sweepKept_eq hlast, sweepRemoved_eq hlast, hkept, hremoved]
  rfl

theorem firstSeq_checkTopologyAge {table : List TopologyEntry} (h : NoneExpires table)
    (r : IpAddr) : firstSeq (checkTopologyAge table).1 r = firstSeq table r := by
  rw [checkTopologyAge_of_noneExpires h]
  unfold firstSeq
  rw [List.find?_map, Option.map_map]
  rfl

/-! ### Runs -/

/-- An event that finds the table `p.1` neither deletes an entry nor accepts an update
without recording its sequence number. -/
def Recorded (ownId : IpAddr) : List TopologyEntry × TopologyEvent → Prop
  | (table, .lsu l) => accepts ownId table l = true → RecordsSequence table l
  | (table, .tick) => NoneExpires table

instance (ownId : IpAddr) (p : List TopologyEntry × TopologyEvent) :
    Decidable (Recorded ownId p) :=
  match p with
  | (table, .lsu l) => inferInstanceAs (Decidable (accepts ownId table l = true → _))
  | (table, .tick) => inferInstanceAs (Decidable (NoneExpires table))

theorem accepts_eq_true {ownId : IpAddr} {table : List TopologyEntry} {lsu : Lsu} :
    accepts ownId table lsu = true ↔
      lsu.rid ≠ ownId ∧ ∀ q ∈ firstSeq table lsu.rid, q < lsu.seq := by
  simp [accepts, checkSequenceNumber_eq_true]

/-- **After an accepted update that records its number, the table holds that number.** -/
theorem firstSeq_receiveLsu {ownId : IpAddr} {table : List TopologyEntry} {lsu : Lsu}
    (hacc : accepts ownId table lsu = true) (hrec : RecordsSequence table lsu) :
    firstSeq (receiveLsu ownId table lsu) lsu.rid = some lsu.seq := by
  rw [receiveLsu, if_pos hacc, firstSeq_updateTopology, if_pos (Or.inr hrec)]

/-- **An accepted update is accepted again exactly if its number was not recorded.** -/
theorem accepts_again_iff {ownId : IpAddr} {table : List TopologyEntry} {lsu : Lsu}
    (hacc : accepts ownId table lsu = true) :
    accepts ownId (receiveLsu ownId table lsu) lsu = true ↔ ¬ RecordsSequence table lsu := by
  obtain ⟨hown, hlt⟩ := accepts_eq_true.mp hacc
  rw [accepts_eq_true]
  constructor
  · rintro ⟨-, hagain⟩ hrec
    exact absurd (hagain lsu.seq (firstSeq_receiveLsu hacc hrec)) (UInt16.lt_irrefl _)
  · intro hno
    have hfirst : firstSeq table lsu.rid ≠ some lsu.seq := fun heq =>
      absurd (hlt lsu.seq heq) (UInt16.lt_irrefl _)
    refine ⟨hown, ?_⟩
    rw [receiveLsu, if_pos hacc, firstSeq_updateTopology, if_neg (not_or.mpr ⟨hfirst, hno⟩)]
    exact hlt

/-- The sequence numbers of the updates of one router, in order. -/
def seqsOf (r : IpAddr) (lsus : List Lsu) : List UInt16 :=
  (lsus.filter fun l => l.rid = r).map Lsu.seq

theorem seqsOf_cons_self (l : Lsu) (lsus : List Lsu) :
    seqsOf l.rid (l :: lsus) = l.seq :: seqsOf l.rid lsus := by
  rw [seqsOf, List.filter_cons_of_pos (by simp)]
  rfl

theorem seqsOf_cons_of_ne {r : IpAddr} {l : Lsu} (hr : l.rid ≠ r) (lsus : List Lsu) :
    seqsOf r (l :: lsus) = seqsOf r lsus := by
  rw [seqsOf, List.filter_cons_of_neg (by simpa using hr)]
  rfl

/-- An event that accepts nothing. -/
theorem acceptedLsus_cons_of_none {ownId : IpAddr} {table : List TopologyEntry}
    {ev : TopologyEvent} (h : acceptedLsu ownId (table, ev) = none) (evs : List TopologyEvent) :
    acceptedLsus ownId table (ev :: evs) = acceptedLsus ownId (ev.apply ownId table) evs := by
  rw [acceptedLsus, history, List.filterMap_cons, h, acceptedLsus]

theorem acceptedLsus_cons_of_accepts {ownId : IpAddr} {table : List TopologyEntry} {l : Lsu}
    (h : accepts ownId table l = true) (evs : List TopologyEvent) :
    acceptedLsus ownId table (.lsu l :: evs) =
      l :: acceptedLsus ownId (receiveLsu ownId table l) evs := by
  rw [acceptedLsus, history, List.filterMap_cons, acceptedLsu, if_pos h]
  rfl

/-- In a run that records the numbers it accepts, those of a router are above the one the
table holds of it, and increase. -/
theorem seqsOf_acceptedLsus {ownId : IpAddr} {table : List TopologyEntry}
    {evs : List TopologyEvent} (h : ∀ p ∈ history ownId table evs, Recorded ownId p)
    (r : IpAddr) :
    (∀ s ∈ seqsOf r (acceptedLsus ownId table evs), ∀ q ∈ firstSeq table r, q < s) ∧
      (seqsOf r (acceptedLsus ownId table evs)).Pairwise (· < ·) := by
  induction evs generalizing table with
  | nil => simp [acceptedLsus, history, seqsOf]
  | cons ev evs ih =>
    have hev : Recorded ownId (table, ev) := h _ List.mem_cons_self
    have hrest : ∀ p ∈ history ownId (ev.apply ownId table) evs, Recorded ownId p :=
      fun p hp => h p (List.mem_cons_of_mem _ hp)
    obtain ⟨ih₁, ih₂⟩ := ih hrest
    cases ev with
    | tick =>
      rw [acceptedLsus_cons_of_none rfl]
      have hsame : firstSeq (TopologyEvent.tick.apply ownId table) r = firstSeq table r :=
        firstSeq_checkTopologyAge hev r
      exact ⟨hsame ▸ ih₁, ih₂⟩
    | lsu l =>
      by_cases hacc : accepts ownId table l = true
      · rw [acceptedLsus_cons_of_accepts hacc]
        have hold := (accepts_eq_true.mp hacc).2
        by_cases hr : l.rid = r
        · -- the later numbers of this router are above the one just recorded
          subst hr
          have hnew := firstSeq_receiveLsu hacc (hev hacc)
          have hlater : ∀ s ∈ seqsOf l.rid (acceptedLsus ownId (receiveLsu ownId table l) evs),
              l.seq < s := fun s hs => ih₁ s hs l.seq hnew
          rw [seqsOf_cons_self]
          refine ⟨?_, List.pairwise_cons.mpr ⟨hlater, ih₂⟩⟩
          intro s hs q hq
          rcases List.mem_cons.mp hs with rfl | hs
          · exact hold q hq
          · exact UInt16.lt_trans (hold q hq) (hlater s hs)
        · have hsame : firstSeq (receiveLsu ownId table l) r = firstSeq table r := by
            rw [receiveLsu, if_pos hacc, firstSeq_updateTopology_of_ne _ (Ne.symm hr)]
          rw [seqsOf_cons_of_ne hr]
          exact ⟨hsame ▸ ih₁, ih₂⟩
      · have hnone : acceptedLsu ownId (table, .lsu l) = none := by
          rw [acceptedLsu, if_neg hacc]
        have hsame : (TopologyEvent.lsu l).apply ownId table = table := by
          show receiveLsu ownId table l = table
          rw [receiveLsu, if_neg hacc]
        rw [acceptedLsus_cons_of_none hnone]
        rw [hsame] at ih₁ ih₂ ⊢
        exact ⟨ih₁, ih₂⟩

/-- **In a run in which no entry expires and every accepted update records its number, the
accepted numbers of each router strictly increase, and no update is accepted twice.**  An
update that is accepted without recording its number is accepted again. -/
theorem accepted_strictly_increasing (ownId : IpAddr) :
    (∀ table evs, (∀ p ∈ history ownId table evs, Recorded ownId p) →
      (∀ r, (seqsOf r (acceptedLsus ownId table evs)).Pairwise (· < ·)) ∧
        ((acceptedLsus ownId table evs).map fun l => (l.rid, l.seq)).Nodup) ∧
    ∀ table lsu, accepts ownId table lsu = true →
      (accepts ownId (receiveLsu ownId table lsu) lsu = true ↔ ¬ RecordsSequence table lsu) := by
  refine ⟨fun table evs h => ⟨fun r => (seqsOf_acceptedLsus h r).2, ?_⟩,
    fun table lsu hacc => accepts_again_iff hacc⟩
  -- two equal pairs would be two equal numbers of one router
  have hinc : ∀ r, (seqsOf r (acceptedLsus ownId table evs)).Pairwise (· < ·) := fun r =>
    (seqsOf_acceptedLsus h r).2
  generalize acceptedLsus ownId table evs = lsus at hinc
  induction lsus with
  | nil => exact List.nodup_nil
  | cons l lsus ih =>
    rw [List.map_cons, List.nodup_cons]
    constructor
    · intro hmem
      obtain ⟨l', hl', heq⟩ := List.mem_map.mp hmem
      obtain ⟨hrid, hseq⟩ := Prod.mk.inj heq
      have hl := hinc l.rid
      rw [seqsOf, List.filter_cons_of_pos (by simp), List.map_cons, List.pairwise_cons] at hl
      refine absurd (hl.1 l'.seq ?_) (hseq ▸ UInt16.lt_irrefl _)
      exact List.mem_map.mpr ⟨l', List.mem_filter.mpr ⟨hl', by simpa using hrid⟩, rfl⟩
    · refine ih ?_
      intro r
      have hl := hinc r
      by_cases hr : l.rid = r
      · rw [seqsOf, List.filter_cons_of_pos (by simpa using hr), List.map_cons] at hl
        exact (List.pairwise_cons.mp hl).2
      · rwa [seqsOf, List.filter_cons_of_neg (by simpa using hr)] at hl

/-- A router advertises two subnets, and then only the one it had advertised first. -/
def shrinkingRun : List TopologyEvent :=
  [.lsu ⟨0x07070707, 1, 0x0201000a,
      [⟨0x0001000a, 0x00ffffff, 0x01010101⟩, ⟨0x0002000a, 0x00ffffff, 0⟩]⟩,
    .lsu ⟨0x07070707, 2, 0x0201000a, [⟨0x0001000a, 0x00ffffff, 0x01010101⟩]⟩,
    .lsu ⟨0x07070707, 2, 0x0201000a, [⟨0x0001000a, 0x00ffffff, 0x01010101⟩]⟩]

/-- **The second update of a router that withdraws a subnet is accepted twice.** -/
theorem shrinkingRun_accepted_twice :
    (∀ p ∈ history 0x01010101 [] shrinkingRun, p.2 = .tick → NoneExpires p.1) ∧
      seqsOf 0x07070707 (acceptedLsus 0x01010101 [] shrinkingRun) = [1, 2, 2] ∧
      ¬ (seqsOf 0x07070707 (acceptedLsus 0x01010101 [] shrinkingRun)).Pairwise (· < ·) := by
  decide

/-- A run with a duplicate, a late update and a tick. -/
def steadyRun : List TopologyEvent :=
  [.lsu ⟨0x07070707, 1, 0x0201000a, [⟨0x0001000a, 0x00ffffff, 0x01010101⟩]⟩, .tick,
    .lsu ⟨0x07070707, 3, 0x0201000a, [⟨0x0001000a, 0x00ffffff, 0x01010101⟩]⟩,
    .lsu ⟨0x07070707, 3, 0x0201000a, [⟨0x0001000a, 0x00ffffff, 0x01010101⟩]⟩,
    .lsu ⟨0x07070707, 2, 0x0201000a, [⟨0x0001000a, 0x00ffffff, 0x01010101⟩]⟩]

/-- The updates of this run are accepted once. -/
theorem steadyRun_increasing :
    seqsOf 0x07070707 (acceptedLsus 0x01010101 [] steadyRun) = [1, 3] ∧
      (∀ r, (seqsOf r (acceptedLsus 0x01010101 [] steadyRun)).Pairwise (· < ·)) ∧
        ((acceptedLsus 0x01010101 [] steadyRun).map fun l => (l.rid, l.seq)).Nodup :=
  ⟨by decide, (accepted_strictly_increasing 0x01010101).1 [] steadyRun (by decide)⟩

end Redes
