import Mathlib.Data.Int.Notation
import Mathlib.Data.List.Basic
import Redes.Lib.Sweep
import Redes.Router.Interface

/-!
# The topology table

The functions of `pwospf_topology.c`.  The table is a linked list behind a sentinel
that none of these functions reads as an entry, so it is modelled by the list of
the entries after the sentinel.

## Main definitions

* `TopologyEntry` — `struct pwospf_topology_entry`.
* `addTopologyEntry`, `refreshTopologyEntry`, `checkTopologyAge` — updates.
* `searchTopolgyTable`, `checkSequenceNumber` — lookups.
* `Lsa` — an advertisement, and `StopsAt` — the entries at which the update for it ends.
* `entriesOf` — the entries of one router, and `Drops` — the advertisements that are dropped.

## Main results

* `refresh_cases` — what `refresh_topology_entry` can do.
* `filter_ne_refresh` — it leaves the entries of other routers alone.
* `entriesOf_refresh`, `drops_refresh` — what it does to those of its own router, and to
  which advertisements are dropped.
* `checkTopologyAge_eq` — `check_topology_age` is a sweep.
-/

namespace Redes

/-- `OSPF_TOPO_ENTRY_TIMEOUT`. -/
def ospfTopoEntryTimeout : ℤ := 35

/-- `struct pwospf_topology_entry`: a subnet a router advertises. -/
structure TopologyEntry where
  /-- Router id of the advertising router. -/
  routerId : IpAddr
  /-- Advertised network number. -/
  netNum : IpAddr
  /-- Advertised mask. -/
  netMask : IpAddr
  /-- Router id of the neighbour on that subnet, zero if there is none. -/
  neighborId : IpAddr
  /-- Source address of the LSU; in a first link of the search, the neighbour's address. -/
  nextHop : IpAddr
  /-- Sequence number of the last LSU. -/
  sequenceNum : UInt16
  /-- Seconds since the entry was refreshed. -/
  age : ℤ
  deriving DecidableEq, Inhabited

/-- `create_ospfv2_topology_entry`. -/
def createOspfv2TopologyEntry (routerId netNum netMask neighborId nextHop : IpAddr)
    (sequenceNum : UInt16) : TopologyEntry :=
  ⟨routerId, netNum, netMask, neighborId, nextHop, sequenceNum, 0⟩

/-- `clone_ospfv2_topology_entry`. -/
def cloneOspfv2TopologyEntry (entry : TopologyEntry) : TopologyEntry :=
  ⟨entry.routerId, entry.netNum, entry.netMask, entry.neighborId, entry.nextHop,
    entry.sequenceNum, entry.age⟩

/-- `add_topology_entry`: the new entry goes right behind the sentinel. -/
def addTopologyEntry (table : List TopologyEntry) (entry : TopologyEntry) : List TopologyEntry :=
  entry :: table

/-- `check_topology_age`: an entry whose age is the timeout is deleted, and the one behind
it is passed over; every other entry gets older.  The flag tells whether one was deleted. -/
def checkTopologyAge : List TopologyEntry → List TopologyEntry × Bool
  | [] => ([], false)
  | [e] =>
      if e.age = ospfTopoEntryTimeout then ([], true) else ([{ e with age := e.age + 1 }], false)
  | e :: f :: rest =>
      if e.age = ospfTopoEntryTimeout then (f :: (checkTopologyAge rest).1, true)
      else
        let (table, deleted) := checkTopologyAge (f :: rest)
        ({ e with age := e.age + 1 } :: table, deleted)

/-- `ospfv2_lsa_t`: a subnet, and the router on it. -/
structure Lsa where
  /-- Network number. -/
  subnet : IpAddr
  /-- Mask. -/
  mask : IpAddr
  /-- Router id of the router attached to the subnet, zero if there is none. -/
  rid : IpAddr
  deriving DecidableEq, Inhabited

/-- The entry is about the advertised subnet. -/
def SameSubnet (lsa : Lsa) (ptr : TopologyEntry) : Prop :=
  ptr.netNum = lsa.subnet ∧ ptr.netMask = lsa.mask

instance (lsa : Lsa) (ptr : TopologyEntry) : Decidable (SameSubnet lsa ptr) :=
  inferInstanceAs (Decidable (_ ∧ _))

/-- The first condition under which `refresh_topology_entry` drops an advertisement of the
router `routerId`: the entry names a neighbour, and not both name each other. -/
def InvalidNeighbor (routerId : IpAddr) (lsa : Lsa) (ptr : TopologyEntry) : Prop :=
  ptr.neighborId ≠ 0 ∧ (ptr.routerId ≠ lsa.rid ∨ ptr.neighborId ≠ routerId)

instance (routerId : IpAddr) (lsa : Lsa) (ptr : TopologyEntry) :
    Decidable (InvalidNeighbor routerId lsa ptr) :=
  inferInstanceAs (Decidable (_ ∧ _))

/-- The second condition, which asks for another mask where the masks are equal. -/
def InvalidMask (routerId : IpAddr) (lsa : Lsa) (ptr : TopologyEntry) : Prop :=
  ptr.neighborId = routerId ∧ ptr.netMask ≠ lsa.mask

instance (routerId : IpAddr) (lsa : Lsa) (ptr : TopologyEntry) :
    Decidable (InvalidMask routerId lsa ptr) :=
  inferInstanceAs (Decidable (_ ∧ _))

/-- What `refresh_topology_entry` writes into the router's own entry. -/
def refreshed (lsa : Lsa) (sequenceNum : UInt16) (ptr : TopologyEntry) : TopologyEntry :=
  { ptr with age := 0, sequenceNum := sequenceNum, neighborId := lsa.rid }

/-- The loop of `refresh_topology_entry`; `none` when it gets to the end of the table. -/
def refreshLoop (routerId : IpAddr) (lsa : Lsa) (sequenceNum : UInt16) :
    List TopologyEntry → Option (List TopologyEntry)
  | [] => none
  | ptr :: rest =>
      if SameSubnet lsa ptr then
        if ptr.routerId = routerId then some (refreshed lsa sequenceNum ptr :: rest)
        else if InvalidNeighbor routerId lsa ptr then some (ptr :: rest)
        else if InvalidMask routerId lsa ptr then some (ptr :: rest)
        else (refreshLoop routerId lsa sequenceNum rest).map (ptr :: ·)
      else (refreshLoop routerId lsa sequenceNum rest).map (ptr :: ·)

/-- `refresh_topology_entry`. -/
def refreshTopologyEntry (table : List TopologyEntry) (routerId : IpAddr) (lsa : Lsa)
    (nextHop : IpAddr) (sequenceNum : UInt16) : List TopologyEntry :=
  match refreshLoop routerId lsa sequenceNum table with
  | some table => table
  | none => addTopologyEntry table
      (createOspfv2TopologyEntry routerId lsa.subnet lsa.mask lsa.rid nextHop sequenceNum)

/-- `search_topolgy_table`: is some entry about this subnet? -/
def searchTopolgyTable (table : List TopologyEntry) (subnet : IpAddr) : Bool :=
  table.any fun e => e.netNum = subnet

/-- `check_sequence_number`: the first entry of the router decides. -/
def checkSequenceNumber (table : List TopologyEntry) (routerId : IpAddr)
    (sequenceNum : UInt16) : Bool :=
  match table.find? fun e => e.routerId = routerId with
  | some e => e.sequenceNum < sequenceNum
  | none => true

/-! ### Where the update of an entry ends -/

/-- The entry at which `refresh_topology_entry` stops: the router's own, or one that makes
it drop the advertisement. -/
def StopsAt (routerId : IpAddr) (lsa : Lsa) (ptr : TopologyEntry) : Prop :=
  SameSubnet lsa ptr ∧ (ptr.routerId = routerId ∨ InvalidNeighbor routerId lsa ptr)

instance (routerId : IpAddr) (lsa : Lsa) (ptr : TopologyEntry) :
    Decidable (StopsAt routerId lsa ptr) :=
  inferInstanceAs (Decidable (_ ∧ _))

variable {routerId nextHop : IpAddr} {lsa : Lsa} {sequenceNum : UInt16}
  {table : List TopologyEntry} {ptr : TopologyEntry}

/-- The second condition never holds of an entry about the same subnet. -/
theorem refreshLoop_cons_of_not_stopsAt (h : ¬ StopsAt routerId lsa ptr)
    (rest : List TopologyEntry) :
    refreshLoop routerId lsa sequenceNum (ptr :: rest) =
      (refreshLoop routerId lsa sequenceNum rest).map (ptr :: ·) := by
  rw [refreshLoop]
  split
  · rename_i hsame
    simp only [StopsAt, hsame, true_and, not_or] at h
    have hmask : ¬ InvalidMask routerId lsa ptr := fun hm => hm.2 hsame.2
    rw [if_neg h.1, if_neg h.2, if_neg hmask]
  · rfl

theorem refreshLoop_cons_of_own (hsame : SameSubnet lsa ptr) (hown : ptr.routerId = routerId)
    (rest : List TopologyEntry) :
    refreshLoop routerId lsa sequenceNum (ptr :: rest) =
      some (refreshed lsa sequenceNum ptr :: rest) := by
  rw [refreshLoop, if_pos hsame, if_pos hown]

theorem refreshLoop_cons_of_invalid (hstop : StopsAt routerId lsa ptr)
    (hother : ptr.routerId ≠ routerId) (rest : List TopologyEntry) :
    refreshLoop routerId lsa sequenceNum (ptr :: rest) = some (ptr :: rest) := by
  rw [refreshLoop, if_pos hstop.1, if_neg hother, if_pos (hstop.2.resolve_left hother)]

/-- A router's own entry stops the same advertisements when it has been refreshed. -/
theorem stopsAt_refreshed (hown : ptr.routerId = routerId) {other : Lsa} :
    StopsAt routerId other (refreshed lsa sequenceNum ptr) ↔ StopsAt routerId other ptr := by
  simp [StopsAt, SameSubnet, refreshed, hown]

/-! ### What the update does -/

/-- **What the update can do**: add an entry at the front, refresh the router's own entry,
or drop the advertisement because of another router's entry. -/
theorem refresh_cases (routerId nextHop : IpAddr) (lsa : Lsa) (sequenceNum : UInt16)
    (table : List TopologyEntry) :
    ((∀ ptr ∈ table, ¬ StopsAt routerId lsa ptr) ∧
      refreshTopologyEntry table routerId lsa nextHop sequenceNum =
        createOspfv2TopologyEntry routerId lsa.subnet lsa.mask lsa.rid nextHop sequenceNum ::
          table) ∨
    ∃ pre ptr post, table = pre ++ ptr :: post ∧ (∀ x ∈ pre, ¬ StopsAt routerId lsa x) ∧
      StopsAt routerId lsa ptr ∧
      ((ptr.routerId = routerId ∧ refreshTopologyEntry table routerId lsa nextHop sequenceNum =
          pre ++ refreshed lsa sequenceNum ptr :: post) ∨
        (ptr.routerId ≠ routerId ∧
          refreshTopologyEntry table routerId lsa nextHop sequenceNum = table)) := by
  have key : ((∀ ptr ∈ table, ¬ StopsAt routerId lsa ptr) ∧
      refreshLoop routerId lsa sequenceNum table = none) ∨
    ∃ pre ptr post, table = pre ++ ptr :: post ∧ (∀ x ∈ pre, ¬ StopsAt routerId lsa x) ∧
      StopsAt routerId lsa ptr ∧
      ((ptr.routerId = routerId ∧ refreshLoop routerId lsa sequenceNum table =
          some (pre ++ refreshed lsa sequenceNum ptr :: post)) ∨
        (ptr.routerId ≠ routerId ∧
          refreshLoop routerId lsa sequenceNum table = some table)) := by
    induction table with
    | nil => exact Or.inl ⟨by simp, rfl⟩
    | cons ptr rest ih =>
      by_cases hstop : StopsAt routerId lsa ptr
      · refine Or.inr ⟨[], ptr, rest, rfl, by simp, hstop, ?_⟩
        by_cases hown : ptr.routerId = routerId
        · exact Or.inl ⟨hown, refreshLoop_cons_of_own hstop.1 hown rest⟩
        · exact Or.inr ⟨hown, refreshLoop_cons_of_invalid hstop hown rest⟩
      · have hloop : refreshLoop routerId lsa sequenceNum (ptr :: rest) =
            (refreshLoop routerId lsa sequenceNum rest).map (ptr :: ·) :=
          refreshLoop_cons_of_not_stopsAt hstop rest
        rcases ih with ⟨hall, hnone⟩ | ⟨pre, p, post, rfl, hpre, hp, hcase⟩
        · refine Or.inl ⟨?_, by rw [hloop, hnone]; rfl⟩
          intro x hx
          rcases List.mem_cons.mp hx with rfl | hx
          · exact hstop
          · exact hall x hx
        · refine Or.inr ⟨ptr :: pre, p, post, rfl, ?_, hp, ?_⟩
          · intro x hx
            rcases List.mem_cons.mp hx with rfl | hx
            · exact hstop
            · exact hpre x hx
          · rw [hloop]
            rcases hcase with ⟨hown, heq⟩ | ⟨hother, heq⟩
            · exact Or.inl ⟨hown, by rw [heq]; rfl⟩
            · exact Or.inr ⟨hother, by rw [heq]; rfl⟩
  unfold refreshTopologyEntry
  rcases key with ⟨hall, hnone⟩ | ⟨pre, p, post, htable, hpre, hp, hcase⟩
  · exact Or.inl ⟨hall, by rw [hnone]; rfl⟩
  · refine Or.inr ⟨pre, p, post, htable, hpre, hp, ?_⟩
    rcases hcase with ⟨hown, heq⟩ | ⟨hother, heq⟩
    · exact Or.inl ⟨hown, by rw [heq]⟩
    · exact Or.inr ⟨hother, by rw [heq]⟩

/-- **The update leaves the entries of other routers alone.** -/
theorem filter_ne_refresh (routerId nextHop : IpAddr) (lsa : Lsa) (sequenceNum : UInt16)
    (table : List TopologyEntry) :
    (refreshTopologyEntry table routerId lsa nextHop sequenceNum).filter
        (fun e => e.routerId ≠ routerId) = table.filter fun e => e.routerId ≠ routerId := by
  rcases refresh_cases routerId nextHop lsa sequenceNum table with
    ⟨-, heq⟩ | ⟨pre, ptr, post, rfl, -, -, ⟨hown, heq⟩ | ⟨-, heq⟩⟩
  · rw [heq, List.filter_cons_of_neg (by simp [createOspfv2TopologyEntry])]
  · rw [heq, List.filter_append, List.filter_append,
      List.filter_cons_of_neg (by simp [refreshed, hown]),
      List.filter_cons_of_neg (by simp [hown])]
  · rw [heq]

/-! ### The entries of one router -/

/-- The entries of a router, in the order of the table. -/
def entriesOf (table : List TopologyEntry) (routerId : IpAddr) : List TopologyEntry :=
  table.filter fun e => e.routerId = routerId

theorem mem_entriesOf : ptr ∈ entriesOf table routerId ↔ ptr ∈ table ∧ ptr.routerId = routerId := by
  simp [entriesOf]

/-- The entries of another router are among those that an update leaves alone. -/
theorem entriesOf_filter_ne {other : IpAddr} (hne : other ≠ routerId)
    (table : List TopologyEntry) :
    entriesOf (table.filter fun e => e.routerId ≠ routerId) other = entriesOf table other := by
  unfold entriesOf
  rw [List.filter_filter]
  refine List.filter_congr fun e _ => ?_
  by_cases he : e.routerId = other
  · simp [he, hne]
  · simp [he]

theorem entriesOf_refresh_of_ne {other : IpAddr} (hne : other ≠ routerId) :
    entriesOf (refreshTopologyEntry table routerId lsa nextHop sequenceNum) other =
      entriesOf table other := by
  rw [← entriesOf_filter_ne hne, filter_ne_refresh, entriesOf_filter_ne hne]

/-! ### Advertisements that are dropped -/

/-- The scan for an advertisement ends at another router's entry. -/
def Drops (table : List TopologyEntry) (routerId : IpAddr) (lsa : Lsa) : Prop :=
  ∃ ptr ∈ table.find? (fun e => StopsAt routerId lsa e), ptr.routerId ≠ routerId

instance (table : List TopologyEntry) (routerId : IpAddr) (lsa : Lsa) :
    Decidable (Drops table routerId lsa) :=
  inferInstanceAs (Decidable (∃ ptr, ptr ∈ table.find? (fun e => StopsAt routerId lsa e) ∧ _))

/-- The entry at which a scan ends. -/
theorem find?_stopsAt {pre post : List TopologyEntry} {ptr : TopologyEntry}
    (hpre : ∀ x ∈ pre, ¬ StopsAt routerId lsa x) (hptr : StopsAt routerId lsa ptr) :
    (pre ++ ptr :: post).find? (fun e => StopsAt routerId lsa e) = some ptr := by
  rw [List.find?_append, List.find?_eq_none.mpr (by simpa using hpre),
    List.find?_cons_of_pos (by simpa using hptr), Option.none_or]

theorem not_drops_of_forall (h : ∀ ptr ∈ table, ¬ StopsAt routerId lsa ptr) :
    ¬ Drops table routerId lsa := by
  rintro ⟨ptr, hptr, -⟩
  exact h ptr (List.mem_of_find?_eq_some hptr) (by simpa using List.find?_some hptr)

theorem drops_append_iff {pre post : List TopologyEntry}
    (hpre : ∀ x ∈ pre, ¬ StopsAt routerId lsa x) (hptr : StopsAt routerId lsa ptr) :
    Drops (pre ++ ptr :: post) routerId lsa ↔ ptr.routerId ≠ routerId := by
  simp [Drops, find?_stopsAt hpre hptr]

theorem refreshLoop_append (h : ∀ x ∈ table, ¬ StopsAt routerId lsa x)
    (rest : List TopologyEntry) :
    refreshLoop routerId lsa sequenceNum (table ++ rest) =
      (refreshLoop routerId lsa sequenceNum rest).map (table ++ ·) := by
  induction table with
  | nil => simp
  | cons e table ih =>
    rw [List.cons_append, refreshLoop_cons_of_not_stopsAt (h e List.mem_cons_self),
      ih fun x hx => h x (List.mem_cons_of_mem e hx), Option.map_map]
    rfl

/-- **What an update does to the entries of its router is told by those entries and by
whether it is dropped.** -/
theorem entriesOf_refresh (routerId nextHop : IpAddr) (lsa : Lsa) (sequenceNum : UInt16)
    (table : List TopologyEntry) :
    entriesOf (refreshTopologyEntry table routerId lsa nextHop sequenceNum) routerId =
      if Drops table routerId lsa then entriesOf table routerId
      else refreshTopologyEntry (entriesOf table routerId) routerId lsa nextHop sequenceNum := by
  have hfree : ∀ {t : List TopologyEntry}, (∀ x ∈ t, ¬ StopsAt routerId lsa x) →
      ∀ x ∈ entriesOf t routerId, ¬ StopsAt routerId lsa x := fun h x hx =>
    h x (mem_entriesOf.mp hx).1
  rcases refresh_cases routerId nextHop lsa sequenceNum table with
    ⟨hall, heq⟩ | ⟨pre, ptr, post, rfl, hpre, hptr, ⟨hown, heq⟩ | ⟨hother, heq⟩⟩
  · have hloop : refreshLoop routerId lsa sequenceNum (entriesOf table routerId ++ []) = none :=
      refreshLoop_append (hfree hall) []
    rw [List.append_nil] at hloop
    rw [if_neg (not_drops_of_forall hall), heq, refreshTopologyEntry, hloop]
    simp [addTopologyEntry, entriesOf, createOspfv2TopologyEntry]
  · have hdrops : ¬ Drops (pre ++ ptr :: post) routerId lsa :=
      (drops_append_iff hpre hptr).not.mpr (not_not.mpr hown)
    have hsplit : entriesOf (pre ++ ptr :: post) routerId =
        entriesOf pre routerId ++ ptr :: entriesOf post routerId := by
      simp [entriesOf, hown]
    rw [if_neg hdrops, heq, hsplit, refreshTopologyEntry, refreshLoop_append (hfree hpre),
      refreshLoop_cons_of_own hptr.1 hown]
    simp [entriesOf, refreshed, hown]
  · rw [if_pos ((drops_append_iff hpre hptr).mpr hother), heq]

/-- **The only advertisements that an update keeps from being dropped** are those about its
subnet, when it has added its router's entry for it. -/
theorem drops_refresh (routerId nextHop : IpAddr) (lsa : Lsa) (sequenceNum : UInt16)
    (table : List TopologyEntry) (other : Lsa) :
    Drops (refreshTopologyEntry table routerId lsa nextHop sequenceNum) routerId other ↔
      Drops table routerId other ∧ (Drops table routerId lsa ∨
        (other.subnet, other.mask) ≠ (lsa.subnet, lsa.mask) ∨
        ∃ e ∈ entriesOf table routerId, SameSubnet lsa e) := by
  rcases refresh_cases routerId nextHop lsa sequenceNum table with
    ⟨hall, heq⟩ | ⟨pre, ptr, post, rfl, hpre, hptr, ⟨hown, heq⟩ | ⟨hother, heq⟩⟩
  · -- the new entry is in front of all others
    have hnone : ¬ ∃ e ∈ entriesOf table routerId, SameSubnet lsa e := by
      rintro ⟨e, he, hsame⟩
      obtain ⟨hmem, hid⟩ := mem_entriesOf.mp he
      exact hall e hmem ⟨hsame, .inl hid⟩
    rw [heq]
    simp only [not_drops_of_forall hall, hnone, false_or, or_false]
    by_cases hsame : (other.subnet, other.mask) = (lsa.subnet, lsa.mask)
    · simp [Drops, StopsAt, SameSubnet, createOspfv2TopologyEntry, Prod.mk.inj hsame]
    · have hskip : ¬ StopsAt routerId other (createOspfv2TopologyEntry routerId lsa.subnet
          lsa.mask lsa.rid nextHop sequenceNum) := fun h =>
        hsame (Prod.ext h.1.1.symm h.1.2.symm)
      simp [Drops, hskip, hsame]
  · have hmem : ∃ e ∈ entriesOf (pre ++ ptr :: post) routerId, SameSubnet lsa e :=
      ⟨ptr, mem_entriesOf.mpr ⟨by simp, hown⟩, hptr.1⟩
    rw [heq]
    simp only [hmem, or_true, and_true, Drops, List.find?_append, List.find?_cons,
      stopsAt_refreshed hown]
    cases pre.find? fun e => StopsAt routerId other e with
    | some e => rfl
    | none =>
      by_cases hstop : StopsAt routerId other ptr
      · simp [hstop, hown, refreshed]
      · simp [hstop]
  · rw [heq]
    have hdrops : Drops (pre ++ ptr :: post) routerId lsa :=
      (drops_append_iff hpre hptr).mpr hother
    simp [hdrops]

/-! ### A second of ageing -/

open Sweep

/-- An entry a second later. -/
def TopologyEntry.older (e : TopologyEntry) : TopologyEntry := { e with age := e.age + 1 }

theorem TopologyEntry.older_ne (e : TopologyEntry) : e.older ≠ e := by
  intro h
  have hage : e.age + 1 = e.age := congrArg TopologyEntry.age h
  omega

/-- The age at which an entry is deleted. -/
def TopologyEntry.Expired (e : TopologyEntry) : Prop := e.age = ospfTopoEntryTimeout

instance : DecidablePred TopologyEntry.Expired := fun e =>
  inferInstanceAs (Decidable (e.age = ospfTopoEntryTimeout))

/-- **The loop of `check_topology_age` is a sweep.** -/
theorem checkTopologyAge_eq (table : List TopologyEntry) :
    checkTopologyAge table = (sweepKept TopologyEntry.Expired TopologyEntry.older table,
      !(sweepRemoved TopologyEntry.Expired table).isEmpty) := by
  fun_induction checkTopologyAge table with
  | case1 => rfl
  | case2 e he => simp [sweepKept, sweepRemoved, TopologyEntry.Expired, he]
  | case3 e he => simp [sweepKept, sweepRemoved, TopologyEntry.Expired, he, TopologyEntry.older]
  | case4 e f rest he ih =>
    have hexpired : e.Expired := he
    rw [ih, sweepKept, sweepRemoved, if_pos hexpired, if_pos hexpired]
    rfl
  | case5 e f rest he table deleted heq ih =>
    have hexpired : ¬ e.Expired := he
    rw [heq] at ih
    obtain ⟨htable, hdeleted⟩ := Prod.mk.inj ih
    rw [sweepKept_cons_of_neg hexpired, sweepRemoved_cons_of_neg hexpired, htable, hdeleted]
    rfl

end Redes
