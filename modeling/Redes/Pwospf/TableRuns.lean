import Mathlib.Data.List.Induction
import Mathlib.Data.List.Nodup
import Redes.Pwospf.Sweeps

/-!
# Runs of the topology table

The table after any calls of `refresh_topology_entry` and `check_topology_age`.  An entry is
added only when the scan has passed the whole table without meeting one with its key, and an
entry that has reached the timeout is either deleted or passed over, so keys are unique and
no age gets past the timeout.  What routers advertise of each other is checked less well: the
scan ends at the first entry that decides, whichever comes first in the table.

## Main definitions

* `TableCall`, `runTable` — calls from the table with only its sentinel.
* `TableInv` — unique keys, and ages up to the timeout.
* `LinksMutual`, `MasksAgree` — what the two conditions of the scan are to keep out.

## Main results

* `tableInv_runTable` — the invariant.
* `refreshed_mem_iff` — when an advertisement refreshes the entry it is for.
* `linksMutual_iff`, `masksAgree_iff` — the runs that keep out what they are to keep out.
-/

namespace Redes

open Sweep

/-! ### Runs -/

/-- A call that changes the topology table. -/
inductive TableCall
  /-- `refresh_topology_entry`. -/
  | refresh (routerId : IpAddr) (lsa : Lsa) (nextHop : IpAddr) (sequenceNum : UInt16)
  /-- `check_topology_age`. -/
  | age
  deriving DecidableEq

/-- The table after a call. -/
def TableCall.apply (table : List TopologyEntry) : TableCall → List TopologyEntry
  | .refresh routerId lsa nextHop sequenceNum =>
      refreshTopologyEntry table routerId lsa nextHop sequenceNum
  | .age => (checkTopologyAge table).1

/-- The table after some calls. -/
def runTable (calls : List TableCall) : List TopologyEntry :=
  calls.foldl TableCall.apply []

@[simp] theorem runTable_nil : runTable [] = [] := rfl

theorem runTable_append_singleton (calls : List TableCall) (call : TableCall) :
    runTable (calls ++ [call]) = call.apply (runTable calls) := by
  simp [runTable]

/-- **The calls after which something holds throughout a run**, from what one call does. -/
theorem forall_prefix_iff {α : Type*} {P : List α → Prop} {Q : List α → α → Prop} (hnil : P [])
    (hstep : ∀ pre a, P pre → (P (pre ++ [a]) ↔ Q pre a)) (l : List α) :
    (∀ pre, pre <+: l → P pre) ↔ ∀ pre a, pre ++ [a] <+: l → Q pre a := by
  constructor
  · intro h pre a hpre
    exact (hstep pre a (h pre ((List.prefix_append pre [a]).trans hpre))).mp (h _ hpre)
  · intro h pre hpre
    induction pre using List.reverseRecOn with
    | nil => exact hnil
    | append_singleton pre a ih =>
      exact (hstep pre a (ih ((List.prefix_append pre [a]).trans hpre))).mpr (h pre a hpre)

/-! ### Keys and ages -/

/-- What an entry is about: a router and a subnet. -/
def TopologyEntry.key (e : TopologyEntry) : IpAddr × IpAddr × IpAddr :=
  (e.routerId, e.netNum, e.netMask)

/-- Ageing does not change what an entry is about. -/
theorem TopologyEntry.key_older (e : TopologyEntry) : e.older.key = e.key := rfl

/-- Keys are unique, and no age is past the timeout. -/
structure TableInv (table : List TopologyEntry) : Prop where
  /-- No two entries have the same key. -/
  keys : (table.map TopologyEntry.key).Nodup
  /-- An age that reaches the timeout is equal to it. -/
  ages : ∀ e ∈ table, 0 ≤ e.age ∧ e.age ≤ ospfTopoEntryTimeout

variable {table : List TopologyEntry} {routerId nextHop : IpAddr} {lsa : Lsa}
  {sequenceNum : UInt16}

theorem ospfTopoEntryTimeout_nonneg : 0 ≤ ospfTopoEntryTimeout := by decide

/-- An entry with the key of an advertisement stops its scan. -/
theorem stopsAt_of_key {e : TopologyEntry} (h : e.key = (routerId, lsa.subnet, lsa.mask)) :
    StopsAt routerId lsa e := by
  obtain ⟨hid, hnum, hmask⟩ : e.routerId = routerId ∧ e.netNum = lsa.subnet ∧
      e.netMask = lsa.mask := by simpa [TopologyEntry.key] using h
  exact ⟨⟨hnum, hmask⟩, .inl hid⟩

theorem TableInv.refresh (h : TableInv table) :
    TableInv (refreshTopologyEntry table routerId lsa nextHop sequenceNum) := by
  rcases refresh_cases routerId nextHop lsa sequenceNum table with
    ⟨hall, heq⟩ | ⟨pre, ptr, post, rfl, -, -, ⟨-, heq⟩ | ⟨-, heq⟩⟩
  · rw [heq]
    constructor
    · -- an entry with the new key would have stopped the scan
      rw [List.map_cons, List.nodup_cons]
      refine ⟨?_, h.keys⟩
      rw [List.mem_map]
      rintro ⟨e, he, hkey⟩
      exact hall e he (stopsAt_of_key hkey)
    · intro e he
      rcases List.mem_cons.mp he with rfl | he
      · exact ⟨le_refl 0, ospfTopoEntryTimeout_nonneg⟩
      · exact h.ages e he
  · rw [heq]
    constructor
    · have hkeys : (pre ++ refreshed lsa sequenceNum ptr :: post).map TopologyEntry.key =
          (pre ++ ptr :: post).map TopologyEntry.key := by
        simp [TopologyEntry.key, refreshed]
      rw [hkeys]
      exact h.keys
    · intro e he
      rw [List.mem_append, List.mem_cons] at he
      rcases he with he | rfl | he
      · exact h.ages e (by simp [he])
      · exact ⟨le_refl 0, ospfTopoEntryTimeout_nonneg⟩
      · exact h.ages e (by simp [he])
  · rw [heq]
    exact h

/-- An entry that a second of ageing leaves: the one it was, or one that had not expired. -/
theorem mem_checkTopologyAge {e : TopologyEntry} (he : e ∈ (checkTopologyAge table).1) :
    e ∈ table ∨ ∃ f ∈ table, f.age ≠ ospfTopoEntryTimeout ∧ e = f.older := by
  rw [checkTopologyAge_eq] at he
  exact mem_sweepKept he

theorem TableInv.age (h : TableInv table) : TableInv (checkTopologyAge table).1 := by
  constructor
  · rw [checkTopologyAge_eq]
    exact h.keys.sublist (map_sweepKept_sublist TopologyEntry.key_older table)
  · intro e he
    rcases mem_checkTopologyAge he with he | ⟨f, hf, hne, rfl⟩
    · exact h.ages e he
    · obtain ⟨hpos, hle⟩ := h.ages f hf
      show 0 ≤ f.age + 1 ∧ f.age + 1 ≤ ospfTopoEntryTimeout
      omega

/-- **Keys stay unique and ages up to the timeout**, whatever is called. -/
theorem tableInv_runTable (calls : List TableCall) : TableInv (runTable calls) := by
  induction calls using List.reverseRecOn with
  | nil => exact ⟨List.nodup_nil, by simp⟩
  | append_singleton calls call ih =>
    rw [runTable_append_singleton]
    cases call with
    | refresh routerId lsa nextHop sequenceNum => exact ih.refresh
    | age => exact ih.age

/-- **In every table that can be reached**, no two entries have the same router, network and mask,
and the age of an entry is not past the timeout. -/
theorem runTable_keys_ages (calls : List TableCall) :
    ((runTable calls).Pairwise fun e f =>
        ¬ (e.routerId = f.routerId ∧ e.netNum = f.netNum ∧ e.netMask = f.netMask)) ∧
      ∀ e ∈ runTable calls, 0 ≤ e.age ∧ e.age ≤ ospfTopoEntryTimeout := by
  obtain ⟨hkeys, hages⟩ := tableInv_runTable calls
  refine ⟨?_, hages⟩
  rw [List.Nodup, List.pairwise_map] at hkeys
  refine hkeys.imp ?_
  rintro e f hne ⟨hid, hnum, hmask⟩
  exact hne (by rw [TopologyEntry.key, TopologyEntry.key, hid, hnum, hmask])

/-! ### The entry that an advertisement is for -/

/-- Two elements at which a list is cut: one is in front of the other, or they are the same. -/
theorem append_cons_cases {α : Type*} {l₁ l₂ r₁ r₂ : List α} {a b : α}
    (h : l₁ ++ a :: r₁ = l₂ ++ b :: r₂) : a ∈ l₂ ∨ b ∈ l₁ ∨ (l₁ = l₂ ∧ a = b) := by
  by_cases ha : a ∈ l₂
  · exact .inl ha
  · by_cases hb : b ∈ l₁
    · exact .inr (.inl hb)
    · rcases List.append_eq_append_iff.mp h with ⟨as, rfl, has⟩ | ⟨bs, rfl, hbs⟩
      · cases as with
        | nil => exact .inr (.inr ⟨(List.append_nil l₁).symm, (List.cons.inj has).1⟩)
        | cons x as =>
          rw [List.cons_append] at has
          exact absurd (by simp [(List.cons.inj has).1]) ha
      · cases bs with
        | nil => exact .inr (.inr ⟨List.append_nil l₂, (List.cons.inj hbs).1.symm⟩)
        | cons x bs =>
          rw [List.cons_append] at hbs
          exact absurd (by simp [(List.cons.inj hbs).1]) hb

/-- The entry with a key is the only one. -/
theorem TableInv.eq_of_key (h : TableInv table) {e f : TopologyEntry} (he : e ∈ table)
    (hf : f ∈ table) (hkey : e.key = f.key) : e = f :=
  List.inj_on_of_nodup_map h.keys he hf hkey

theorem key_eq {e : TopologyEntry} (hid : e.routerId = routerId) (hsame : SameSubnet lsa e) :
    e.key = (routerId, lsa.subnet, lsa.mask) := by
  rw [TopologyEntry.key, hid, hsame.1, hsame.2]

/-- **An advertisement refreshes the entry it is for if and only if** no entry in front of that
one makes the scan drop the advertisement, or the entry is already as a refresh would leave
it. -/
theorem refreshed_mem_iff (calls : List TableCall) {pre post : List TopologyEntry}
    {e : TopologyEntry} (htable : runTable calls = pre ++ e :: post) (hid : e.routerId = routerId)
    (hsame : SameSubnet lsa e) (nextHop : IpAddr) (sequenceNum : UInt16) :
    refreshed lsa sequenceNum e ∈
        refreshTopologyEntry (runTable calls) routerId lsa nextHop sequenceNum ↔
      (∀ x ∈ pre, SameSubnet lsa x → ¬ InvalidNeighbor routerId lsa x) ∨
        refreshed lsa sequenceNum e = e := by
  have hinv : TableInv (pre ++ e :: post) := htable ▸ tableInv_runTable calls
  have hstop : StopsAt routerId lsa e := ⟨hsame, .inl hid⟩
  rw [htable]
  rcases refresh_cases routerId nextHop lsa sequenceNum (pre ++ e :: post) with
    ⟨hall, -⟩ | ⟨pre', ptr, post', hsplit, hpre', hptr, hcase⟩
  · exact absurd hstop (hall e (by simp))
  rcases append_cons_cases hsplit with he | hmem | ⟨rfl, rfl⟩
  · exact absurd hstop (hpre' e he)
  · -- the scan ends in front of the entry
    have hother : ptr.routerId ≠ routerId := by
      intro hown
      obtain rfl : ptr = e := hinv.eq_of_key (by simp [hmem]) (by simp)
        ((key_eq hown hptr.1).trans (key_eq hid hsame).symm)
      have hnodup := (List.nodup_append.mp hinv.keys.of_map).2.2
      exact hnodup ptr hmem ptr List.mem_cons_self rfl
    rcases hcase with ⟨hown, -⟩ | ⟨-, heq⟩
    · exact absurd hown hother
    rw [heq]
    constructor
    · intro hkept
      exact .inr (hinv.eq_of_key hkept (by simp) rfl)
    · rintro (hfree | hdone)
      · exact absurd (hptr.2.resolve_left hother) (hfree ptr hmem hptr.1)
      · rw [hdone]
        simp
  · -- the scan gets to the entry
    rcases hcase with ⟨-, heq⟩ | ⟨hother, -⟩
    · rw [heq]
      refine ⟨fun _ => .inl ?_, fun _ => by simp⟩
      intro x hx hsamex hinvalid
      exact hpre' x hx ⟨hsamex, .inr hinvalid⟩
    · exact absurd hid hother

/-- The router 1.1.1.1 advertises a subnet on which it has no neighbour. -/
def stubLsa : Lsa := ⟨0x0001000a, 0x00ffffff, 0⟩

/-- Then the router 2.2.2.2 does with a neighbour, and a second goes by. -/
def stubThenLink : List TableCall :=
  [.refresh 0x01010101 stubLsa 0x0101000a 1,
    .refresh 0x02020202 ⟨0x0001000a, 0x00ffffff, 0x03030303⟩ 0x0201000a 1, .age]

/-- The entries that are there then. -/
theorem runTable_stubThenLink : runTable stubThenLink =
    [⟨0x02020202, 0x0001000a, 0x00ffffff, 0x03030303, 0x0201000a, 1, 1⟩] ++
      ⟨0x01010101, 0x0001000a, 0x00ffffff, 0, 0x0101000a, 1, 1⟩ :: [] := by decide

/-- The entry in front is refreshed. -/
theorem refreshed_link :
    (refreshed ⟨0x0001000a, 0x00ffffff, 0x03030303⟩ 2
        ⟨0x02020202, 0x0001000a, 0x00ffffff, 0x03030303, 0x0201000a, 1, 1⟩ ∈
      refreshTopologyEntry (runTable stubThenLink) 0x02020202
        ⟨0x0001000a, 0x00ffffff, 0x03030303⟩ 0x0201000a 2) := by
  have htable : runTable stubThenLink =
      [] ++ ⟨0x02020202, 0x0001000a, 0x00ffffff, 0x03030303, 0x0201000a, 1, 1⟩ ::
        [⟨0x01010101, 0x0001000a, 0x00ffffff, 0, 0x0101000a, 1, 1⟩] := runTable_stubThenLink
  exact (refreshed_mem_iff stubThenLink htable rfl ⟨rfl, rfl⟩ _ _).mpr (.inl (by simp))

/-- The one behind it is not, although the router 1.1.1.1 advertises it again. -/
theorem stub_not_refreshed : ∃ e ∈ runTable stubThenLink, e.routerId = 0x01010101 ∧
    SameSubnet stubLsa e ∧ refreshed stubLsa 2 e ∉
      refreshTopologyEntry (runTable stubThenLink) 0x01010101 stubLsa 0x0101000a 2 :=
  ⟨⟨0x01010101, 0x0001000a, 0x00ffffff, 0, 0x0101000a, 1, 1⟩, by decide, rfl, ⟨rfl, rfl⟩,
    by decide⟩

/-! ### What two entries say of each other -/

/-- A relation between what two routers advertise. -/
structure PairLaw (R : TopologyEntry → TopologyEntry → Prop) : Prop where
  /-- It asks nothing of the entries of one router. -/
  same_router : ∀ e f, e.routerId = f.routerId → R e f
  /-- It goes both ways. -/
  symm : ∀ {e f}, R e f → R f e
  /-- It depends on what is advertised only. -/
  congr : ∀ {e e' f}, e'.key = e.key → e'.neighborId = e.neighborId → R e f → R e' f

/-- A relation holds between any two entries. -/
def AllPairs (R : TopologyEntry → TopologyEntry → Prop) (table : List TopologyEntry) : Prop :=
  ∀ e ∈ table, ∀ f ∈ table, R e f

/-- The scan ends at the router's own entry. -/
def MeetsOwn (table : List TopologyEntry) (routerId : IpAddr) (lsa : Lsa) : Prop :=
  ∃ ptr ∈ table.find? (fun e => StopsAt routerId lsa e), ptr.routerId = routerId

/-- What a call is to have made sure of. -/
def Checks (R : TopologyEntry → TopologyEntry → Prop) (table : List TopologyEntry) :
    TableCall → Prop
  | .refresh routerId lsa nextHop sequenceNum => ¬ Drops table routerId lsa →
      ∀ f ∈ table, R (createOspfv2TopologyEntry routerId lsa.subnet lsa.mask lsa.rid nextHop
        sequenceNum) f
  | .age => True

variable {R : TopologyEntry → TopologyEntry → Prop}

/-- One entry among others. -/
theorem PairLaw.allPairs_middle (hR : PairLaw R) {pre post : List TopologyEntry}
    {e : TopologyEntry} :
    AllPairs R (pre ++ e :: post) ↔ (∀ f ∈ pre ++ post, R e f) ∧ AllPairs R (pre ++ post) := by
  have hmem : ∀ x, x ∈ pre ++ e :: post ↔ x = e ∨ x ∈ pre ++ post := by
    intro x
    simp only [List.mem_append, List.mem_cons]
    exact or_left_comm
  unfold AllPairs
  simp only [hmem, forall_eq_or_imp]
  constructor
  · rintro ⟨⟨-, hrow⟩, hrest⟩
    exact ⟨hrow, fun x hx => (hrest x hx).2⟩
  · rintro ⟨hrow, hrest⟩
    exact ⟨⟨hR.same_router e e rfl, hrow⟩, fun x hx => ⟨hR.symm (hrow x hx), hrest x hx⟩⟩

/-- Ageing keeps what the entries say of each other. -/
theorem PairLaw.allPairs_age (hR : PairLaw R) (h : AllPairs R table) :
    AllPairs R (checkTopologyAge table).1 := by
  -- an entry that is left says what an entry of the table did
  have hfrom : ∀ x ∈ (checkTopologyAge table).1, ∃ y ∈ table, x.key = y.key ∧
      x.neighborId = y.neighborId := by
    intro x hx
    rcases mem_checkTopologyAge hx with hx | ⟨y, hy, -, rfl⟩
    · exact ⟨x, hx, rfl, rfl⟩
    · exact ⟨y, hy, rfl, rfl⟩
  intro e he f hf
  obtain ⟨e', he', hkey, hneighbor⟩ := hfrom e he
  obtain ⟨f', hf', hkey', hneighbor'⟩ := hfrom f hf
  have hrow : R e f' := hR.congr hkey hneighbor (h e' he' f' hf')
  exact hR.symm (hR.congr hkey' hneighbor' (hR.symm hrow))

/-- **An advertisement that is not dropped keeps a relation if and only if** what it says is
so related to all entries. -/
theorem PairLaw.allPairs_refresh_iff (hR : PairLaw R) (h : AllPairs R table) :
    AllPairs R (refreshTopologyEntry table routerId lsa nextHop sequenceNum) ↔
      Checks R table (.refresh routerId lsa nextHop sequenceNum) := by
  have hnew : ∀ {e f : TopologyEntry}, e.key = (routerId, lsa.subnet, lsa.mask) →
      e.neighborId = lsa.rid → (R e f ↔ R (createOspfv2TopologyEntry routerId lsa.subnet lsa.mask
        lsa.rid nextHop sequenceNum) f) := fun hkey hneighbor =>
    ⟨hR.congr hkey.symm hneighbor.symm, hR.congr hkey hneighbor⟩
  rcases refresh_cases routerId nextHop lsa sequenceNum table with
    ⟨hall, heq⟩ | ⟨pre, ptr, post, rfl, hpre, hptr, ⟨hown, heq⟩ | ⟨hother, heq⟩⟩
  · have hdrops : ¬ Drops table routerId lsa := not_drops_of_forall hall
    have hfront : ∀ e, AllPairs R ([] ++ e :: table) ↔
        (∀ f ∈ [] ++ table, R e f) ∧ AllPairs R ([] ++ table) := fun _ => hR.allPairs_middle
    rw [heq]
    constructor
    · intro hpairs _
      exact ((hfront _).mp hpairs).1
    · intro hchecks
      exact (hfront _).mpr ⟨hchecks hdrops, h⟩
  · have hdrops : ¬ Drops (pre ++ ptr :: post) routerId lsa :=
      (drops_append_iff hpre hptr).not.mpr (not_not.mpr hown)
    have hkey : (refreshed lsa sequenceNum ptr).key = (routerId, lsa.subnet, lsa.mask) :=
      key_eq hown hptr.1
    have hrest := (hR.allPairs_middle.mp h).2
    rw [heq, hR.allPairs_middle]
    constructor
    · rintro ⟨hrow, -⟩ - f hf
      rw [List.mem_append, List.mem_cons] at hf
      rcases hf with hf | rfl | hf
      · exact (hnew hkey rfl).mp (hrow f (List.mem_append_left _ hf))
      · exact hR.same_router _ _ hown.symm
      · exact (hnew hkey rfl).mp (hrow f (List.mem_append_right _ hf))
    · intro hchecks
      refine ⟨?_, hrest⟩
      intro f hf
      rw [List.mem_append] at hf
      exact (hnew hkey rfl).mpr (hchecks hdrops f (by simpa using hf.imp_right Or.inr))
  · have hdrops : Drops (pre ++ ptr :: post) routerId lsa :=
      (drops_append_iff hpre hptr).mpr hother
    rw [heq]
    exact ⟨fun _ hno => absurd hdrops hno, fun _ => h⟩

/-- **A relation holds throughout a run if and only if** every call has made sure of it. -/
theorem PairLaw.allPairs_run_iff (hR : PairLaw R) (calls : List TableCall) :
    (∀ pre, pre <+: calls → AllPairs R (runTable pre)) ↔
      ∀ pre call, pre ++ [call] <+: calls → Checks R (runTable pre) call := by
  refine forall_prefix_iff (by simp [AllPairs]) ?_ calls
  intro pre call h
  rw [runTable_append_singleton]
  cases call with
  | refresh routerId lsa nextHop sequenceNum => exact hR.allPairs_refresh_iff h
  | age => exact iff_of_true (hR.allPairs_age h) trivial

/-! ### Neighbours -/

/-- Entries of two routers about one subnet that both name a neighbour name each other. -/
def NameEachOther (e f : TopologyEntry) : Prop :=
  e.netNum = f.netNum → e.netMask = f.netMask → e.routerId ≠ f.routerId → e.neighborId ≠ 0 →
    f.neighborId ≠ 0 → e.neighborId = f.routerId ∧ f.neighborId = e.routerId

/-- Links in the table are mutual. -/
def LinksMutual (table : List TopologyEntry) : Prop := AllPairs NameEachOther table

instance (table : List TopologyEntry) : Decidable (LinksMutual table) :=
  inferInstanceAs (Decidable (∀ e ∈ table, ∀ f ∈ table, _ → _ → _ → _ → _ → _))

theorem pairLaw_nameEachOther : PairLaw NameEachOther where
  same_router _ _ hid := fun _ _ hne => absurd hid hne
  symm h := fun hnum hmask hne he hf => (h hnum.symm hmask.symm hne.symm hf he).symm
  congr := by
    intro e e' f hkey hneighbor h
    obtain ⟨hid, hnum, hmask⟩ : e'.routerId = e.routerId ∧ e'.netNum = e.netNum ∧
        e'.netMask = e.netMask := by simpa [TopologyEntry.key] using hkey
    unfold NameEachOther at h ⊢
    rwa [hid, hnum, hmask, hneighbor]

/-- A refresh that names a neighbour makes the check that is made of a new entry: no entry of
another router about the subnet names a neighbour unless the two name each other. -/
def RefreshIsChecked (table : List TopologyEntry) : TableCall → Prop
  | .refresh routerId lsa _ _ => MeetsOwn table routerId lsa → lsa.rid ≠ 0 →
      ∀ f ∈ table, f.routerId ≠ routerId → SameSubnet lsa f → ¬ InvalidNeighbor routerId lsa f
  | .age => True

/-- A new entry is checked anyway. -/
theorem checks_nameEachOther_iff (table : List TopologyEntry) (call : TableCall) :
    Checks NameEachOther table call ↔ RefreshIsChecked table call := by
  cases call with
  | age => exact Iff.rfl
  | refresh routerId lsa nextHop sequenceNum =>
    have hone : ∀ f : TopologyEntry, NameEachOther (createOspfv2TopologyEntry routerId lsa.subnet
        lsa.mask lsa.rid nextHop sequenceNum) f ↔
        (lsa.rid ≠ 0 → f.routerId ≠ routerId → SameSubnet lsa f →
          ¬ InvalidNeighbor routerId lsa f) := by
      intro f
      show (lsa.subnet = f.netNum → lsa.mask = f.netMask → routerId ≠ f.routerId → lsa.rid ≠ 0 →
        f.neighborId ≠ 0 → lsa.rid = f.routerId ∧ f.neighborId = routerId) ↔ _
      constructor
      · rintro h hrid hne ⟨hnum, hmask⟩ ⟨hneighbor, hinvalid⟩
        obtain ⟨hself, hback⟩ := h hnum.symm hmask.symm hne.symm hrid hneighbor
        rcases hinvalid with hinvalid | hinvalid
        · exact hinvalid hself.symm
        · exact hinvalid hback
      · intro h hnum hmask hne hrid hneighbor
        have hvalid := h hrid hne.symm ⟨hnum.symm, hmask.symm⟩
        simp only [InvalidNeighbor, not_and, not_or, not_not] at hvalid
        exact ⟨(hvalid hneighbor).1.symm, (hvalid hneighbor).2⟩
    simp only [Checks, RefreshIsChecked, hone]
    constructor
    · rintro h ⟨ptr, hptr, hown⟩ hrid f hf hne hsame
      refine h ?_ f hf hrid hne hsame
      rintro ⟨q, hq, hother⟩
      rw [Option.mem_def.mp hptr] at hq
      cases hq
      exact hother hown
    · intro h hdrops f hf hrid hne hsame hinvalid
      -- the entry would stop the scan, unless the router's own one did
      cases hfind : table.find? fun e => StopsAt routerId lsa e with
      | none =>
        have hno := List.find?_eq_none.mp hfind f hf
        exact hno (by simpa using ⟨hsame, .inr hinvalid⟩)
      | some ptr =>
        have hown : ptr.routerId = routerId := by
          by_contra hother
          exact hdrops ⟨ptr, hfind, hother⟩
        exact h ⟨ptr, hfind, hown⟩ hrid f hf hne hsame hinvalid

/-- **Links are mutual throughout a run if and only if** each refresh of an entry makes the
check that is made of a new one. -/
theorem linksMutual_iff (calls : List TableCall) :
    (∀ pre, pre <+: calls → LinksMutual (runTable pre)) ↔
      ∀ pre call, pre ++ [call] <+: calls → RefreshIsChecked (runTable pre) call := by
  have h := pairLaw_nameEachOther.allPairs_run_iff calls
  simp only [checks_nameEachOther_iff] at h
  exact h

/-- Two routers name each other, and then one of them a third. -/
def linkMoves : List TableCall :=
  [.refresh 0x01010101 ⟨0x0001000a, 0x00ffffff, 0x02020202⟩ 0x0101000a 1,
    .refresh 0x02020202 ⟨0x0001000a, 0x00ffffff, 0x01010101⟩ 0x0201000a 1,
    .refresh 0x02020202 ⟨0x0001000a, 0x00ffffff, 0x03030303⟩ 0x0201000a 2]

/-- The refresh is not checked. -/
theorem not_linksMutual_linkMoves : ¬ LinksMutual (runTable linkMoves) := by decide

/-! ### Masks -/

/-- Entries of two routers for one network of which one names the other's router have the same
mask. -/
def SameMaskIfLinked (e f : TopologyEntry) : Prop :=
  e.netNum = f.netNum → e.routerId ≠ f.routerId →
    (e.neighborId = f.routerId ∨ f.neighborId = e.routerId) → e.netMask = f.netMask

/-- Both ends of a link agree on the mask. -/
def MasksAgree (table : List TopologyEntry) : Prop := AllPairs SameMaskIfLinked table

instance (table : List TopologyEntry) : Decidable (MasksAgree table) :=
  inferInstanceAs (Decidable (∀ e ∈ table, ∀ f ∈ table, _ → _ → _ → _))

theorem pairLaw_sameMaskIfLinked : PairLaw SameMaskIfLinked where
  same_router _ _ hid := fun _ hne => absurd hid hne
  symm h := fun hnum hne hlinked => (h hnum.symm hne.symm hlinked.symm).symm
  congr := by
    intro e e' f hkey hneighbor h
    obtain ⟨hid, hnum, hmask⟩ : e'.routerId = e.routerId ∧ e'.netNum = e.netNum ∧
        e'.netMask = e.netMask := by simpa [TopologyEntry.key] using hkey
    unfold SameMaskIfLinked at h ⊢
    rwa [hid, hnum, hmask, hneighbor]

/-- An advertisement that is not dropped has the mask of the entries for its network that name
its router, or whose router it names. -/
def MaskIsChecked (table : List TopologyEntry) : TableCall → Prop
  | .refresh routerId lsa _ _ => ¬ Drops table routerId lsa → ∀ f ∈ table,
      f.netNum = lsa.subnet → f.routerId ≠ routerId →
        (lsa.rid = f.routerId ∨ f.neighborId = routerId) → f.netMask = lsa.mask
  | .age => True

theorem checks_sameMaskIfLinked_iff (table : List TopologyEntry) (call : TableCall) :
    Checks SameMaskIfLinked table call ↔ MaskIsChecked table call := by
  cases call with
  | age => exact Iff.rfl
  | refresh routerId lsa nextHop sequenceNum =>
    have hone : ∀ f : TopologyEntry, SameMaskIfLinked (createOspfv2TopologyEntry routerId lsa.subnet
        lsa.mask lsa.rid nextHop sequenceNum) f ↔
        (f.netNum = lsa.subnet → f.routerId ≠ routerId →
          (lsa.rid = f.routerId ∨ f.neighborId = routerId) → f.netMask = lsa.mask) := fun f =>
      ⟨fun h hnum hne hlinked => (h hnum.symm hne.symm hlinked).symm,
        fun h hnum hne hlinked => (h hnum.symm hne.symm hlinked).symm⟩
    simp only [Checks, MaskIsChecked, hone]

/-- **Both ends of every link agree on the mask throughout a run if and only if** no
advertisement disagrees that is not dropped for its neighbour. -/
theorem masksAgree_iff (calls : List TableCall) :
    (∀ pre, pre <+: calls → MasksAgree (runTable pre)) ↔
      ∀ pre call, pre ++ [call] <+: calls → MaskIsChecked (runTable pre) call := by
  have h := pairLaw_sameMaskIfLinked.allPairs_run_iff calls
  simp only [checks_sameMaskIfLinked_iff] at h
  exact h

/-- Two routers name each other on a network for which they have different masks. -/
def twoMasks : List TableCall :=
  [.refresh 0x01010101 ⟨0x0000000a, 0x00ffffff, 0x02020202⟩ 0x0101000a 1,
    .refresh 0x02020202 ⟨0x0000000a, 0x0000ffff, 0x01010101⟩ 0x0201000a 1]

/-- The second advertisement is not dropped. -/
theorem not_masksAgree_twoMasks : ¬ MasksAgree (runTable twoMasks) := by decide

end Redes
