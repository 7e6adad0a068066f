import Mathlib.Data.List.Find
import Redes.Pwospf.Sequence

/-!
# Updates of two routers in either order

`refresh_topology_entry` drops an advertisement about a subnet for which the table holds
an entry of another router that names some other neighbour.  So of two routers that
disagree about a subnet the first one may be the one that is believed.  Apart from what is
dropped, the entries of a router come from its own updates alone: the order of updates of
different routers matters through the advertisements that are dropped in one order and not
in the other, and through nothing else.

## Main definitions

* `SameContents` — two tables hold the same entries.
* `dropFlags`, `outcomes` — which advertisements of an update, and of the updates of a run,
  are dropped.
* `Tolerates` — what one router says agrees with what the other one does.

## Main results

* `entriesOf_run_congr` — the entries of a router at the end of a run.
* `Tolerates.dropFlags_eq` — updates that agree are dropped alike in both orders.
* `receiveLsu_comm` — when the order of updates does not matter.
-/

namespace Redes

/-- The fields that a topology entry is compared by. -/
def TopologyEntry.contents (e : TopologyEntry) : IpAddr × IpAddr × IpAddr × IpAddr × UInt16 :=
  (e.routerId, e.netNum, e.netMask, e.neighborId, e.sequenceNum)

/-- Two tables hold the same entries, in some order. -/
def SameContents (table table' : List TopologyEntry) : Prop :=
  ∀ k, k ∈ table.map TopologyEntry.contents ↔ k ∈ table'.map TopologyEntry.contents

/-- For each advertisement of an update, whether it is dropped when its turn comes. -/
def dropFlags (table : List TopologyEntry) (lsu : Lsu) : List Bool :=
  flags table lsu.lsas
where
  /-- The same for the advertisements that are left. -/
  flags (table : List TopologyEntry) : List Lsa → List Bool
    | [] => []
    | lsa :: lsas => decide (Drops table lsu.rid lsa) ::
        flags (refreshTopologyEntry table lsu.rid lsa lsu.ipSrc lsu.seq) lsas

/-- The updates that a router receives, each with the advertisements of it that the table it
finds drops. -/
def outcomes (ownId : IpAddr) : List TopologyEntry → List Lsu → List (Lsu × List Bool)
  | _, [] => []
  | table, lsu :: lsus =>
      (lsu, dropFlags table lsu) :: outcomes ownId (receiveLsu ownId table lsu) lsus

/-- The outcomes of the updates of one router. -/
def outcomesOf (ownId : IpAddr) (table : List TopologyEntry) (lsus : List Lsu) (r : IpAddr) :
    List (Lsu × List Bool) :=
  (outcomes ownId table lsus).filter fun o => o.1.rid = r

/-- Each update drops of its advertisements what it also drops after the other one. -/
def DroppedAlike (table : List TopologyEntry) (l₁ l₂ : Lsu) : Prop :=
  dropFlags (updateTopology table l₂) l₁ = dropFlags table l₁ ∧
    dropFlags (updateTopology table l₁) l₂ = dropFlags table l₂

instance (table : List TopologyEntry) (l₁ l₂ : Lsu) : Decidable (DroppedAlike table l₁ l₂) :=
  inferInstanceAs (Decidable (_ ∧ _))

/-- The update advertises no subnet twice. -/
def Lsu.AdvertisesOnce (lsu : Lsu) : Prop :=
  (lsu.lsas.map fun lsa => (lsa.subnet, lsa.mask)).Nodup

instance (lsu : Lsu) : Decidable lsu.AdvertisesOnce := inferInstanceAs (Decidable (List.Nodup _))

/-- No entry of its originator has the number of the update. -/
def Lsu.IsNew (table : List TopologyEntry) (lsu : Lsu) : Prop :=
  ∀ e ∈ entriesOf table lsu.rid, e.sequenceNum ≠ lsu.seq

instance (table : List TopologyEntry) (lsu : Lsu) : Decidable (lsu.IsNew table) :=
  inferInstanceAs (Decidable (∀ e ∈ entriesOf table lsu.rid, e.sequenceNum ≠ lsu.seq))

/-- What the router `a` says of its neighbour on a subnet does not contradict what `b` says
of its own: `a` names none, or each names the other. -/
def Agrees (a aNeighbor b bNeighbor : IpAddr) : Prop :=
  aNeighbor = 0 ∨ bNeighbor = a ∧ aNeighbor = b

instance (a aNeighbor b bNeighbor : IpAddr) : Decidable (Agrees a aNeighbor b bNeighbor) :=
  inferInstanceAs (Decidable (_ ∨ _))

/-- On every subnet that `l₂` advertises, what the originator of `l₁` says, in the table or
in `l₁`, agrees with it. -/
def Tolerates (table : List TopologyEntry) (l₁ l₂ : Lsu) : Prop :=
  ∀ y ∈ l₂.lsas,
    (∀ e ∈ table, e.routerId = l₁.rid → SameSubnet y e →
      Agrees l₁.rid e.neighborId l₂.rid y.rid) ∧
    ∀ x ∈ l₁.lsas, x.subnet = y.subnet ∧ x.mask = y.mask → Agrees l₁.rid x.rid l₂.rid y.rid

instance (table : List TopologyEntry) (l₁ l₂ : Lsu) : Decidable (Tolerates table l₁ l₂) :=
  inferInstanceAs (Decidable (∀ y ∈ l₂.lsas, _ ∧ _))

variable {ownId ownId' r : IpAddr} {table table' : List TopologyEntry} {l l₁ l₂ : Lsu}

theorem sameContents_of_entriesOf (h : ∀ r, entriesOf table r = entriesOf table' r) :
    SameContents table table' := by
  have hmem : ∀ e, e ∈ table ↔ e ∈ table' := by
    intro e
    have hiff : e ∈ entriesOf table e.routerId ↔ e ∈ entriesOf table' e.routerId := by
      rw [h]
    simpa [mem_entriesOf] using hiff
  intro k
  simp only [List.mem_map, hmem]

/-! ### The entries after an update -/

/-- The loop over the advertisements of an update, from one of them on. -/
theorem entriesOf_foldl_congr (l : Lsu) (lsas : List Lsa) {t t' : List TopologyEntry}
    (hown : entriesOf t l.rid = entriesOf t' l.rid)
    (hflags : dropFlags.flags l t lsas = dropFlags.flags l t' lsas) :
    entriesOf (lsas.foldl (fun t lsa => refreshTopologyEntry t l.rid lsa l.ipSrc l.seq) t) l.rid =
      entriesOf (lsas.foldl (fun t lsa => refreshTopologyEntry t l.rid lsa l.ipSrc l.seq) t')
        l.rid := by
  induction lsas generalizing t t' with
  | nil => exact hown
  | cons lsa lsas ih =>
    obtain ⟨hhead, hrest⟩ := List.cons.inj hflags
    refine ih ?_ hrest
    rw [entriesOf_refresh, entriesOf_refresh, hown]
    simp only [decide_eq_decide.mp hhead]

/-- **The entries of a router after its update are told by those before and by what is
dropped.** -/
theorem entriesOf_updateTopology_congr (hown : entriesOf table l.rid = entriesOf table' l.rid)
    (hflags : dropFlags table l = dropFlags table' l) :
    entriesOf (updateTopology table l) l.rid = entriesOf (updateTopology table' l) l.rid :=
  entriesOf_foldl_congr l l.lsas hown hflags

/-- An update leaves the entries of other routers alone. -/
theorem entriesOf_updateTopology_of_ne (hne : r ≠ l.rid) (table : List TopologyEntry) :
    entriesOf (updateTopology table l) r = entriesOf table r := by
  unfold updateTopology
  generalize l.lsas = lsas
  induction lsas generalizing table with
  | nil => rfl
  | cons lsa lsas ih => rw [List.foldl_cons, ih, entriesOf_refresh_of_ne hne]

/-- Whether an update is accepted is told by the entries of its originator. -/
theorem accepts_congr (hown : entriesOf table l.rid = entriesOf table' l.rid)
    (hid : l.rid ≠ ownId) (hid' : l.rid ≠ ownId') :
    accepts ownId table l = accepts ownId' table' l := by
  rw [Bool.eq_iff_iff, accepts_eq_true, accepts_eq_true, firstSeq_eq, firstSeq_eq, hown]
  simp [hid, hid']

theorem entriesOf_receiveLsu_congr (hid : l.rid ≠ ownId) (hid' : l.rid ≠ ownId')
    (hown : entriesOf table l.rid = entriesOf table' l.rid)
    (hflags : dropFlags table l = dropFlags table' l) :
    entriesOf (receiveLsu ownId table l) l.rid =
      entriesOf (receiveLsu ownId' table' l) l.rid := by
  unfold receiveLsu
  rw [accepts_congr hown hid hid']
  split
  · exact entriesOf_updateTopology_congr hown hflags
  · exact hown

theorem entriesOf_receiveLsu_of_ne (hne : r ≠ l.rid) (table : List TopologyEntry) :
    entriesOf (receiveLsu ownId table l) r = entriesOf table r := by
  unfold receiveLsu
  split
  · exact entriesOf_updateTopology_of_ne hne table
  · rfl

/-! ### The entries after a run -/

theorem outcomesOf_cons_self (table : List TopologyEntry) (l : Lsu) (lsus : List Lsu) :
    outcomesOf ownId table (l :: lsus) l.rid =
      (l, dropFlags table l) :: outcomesOf ownId (receiveLsu ownId table l) lsus l.rid := by
  simp [outcomesOf, outcomes]

theorem outcomesOf_cons_of_ne (hne : r ≠ l.rid) (table : List TopologyEntry) (lsus : List Lsu) :
    outcomesOf ownId table (l :: lsus) r =
      outcomesOf ownId (receiveLsu ownId table l) lsus r := by
  simp [outcomesOf, outcomes, Ne.symm hne]

/-- A run without updates of a router leaves its entries alone. -/
theorem entriesOf_run_of_nil {lsus : List Lsu} (h : outcomesOf ownId table lsus r = []) :
    entriesOf (lsus.foldl (receiveLsu ownId) table) r = entriesOf table r := by
  induction lsus generalizing table with
  | nil => rfl
  | cons l lsus ih =>
    by_cases hr : r = l.rid
    · subst hr
      rw [outcomesOf_cons_self] at h
      cases h
    · rw [outcomesOf_cons_of_ne hr] at h
      rw [List.foldl_cons, ih h, entriesOf_receiveLsu_of_ne hr]

/-- The first update of a router in a run finds the entries of the router as they were. -/
theorem exists_of_outcomesOf_eq_cons {lsus : List Lsu} {flags : List Bool}
    {rest : List (Lsu × List Bool)}
    (h : outcomesOf ownId table lsus l.rid = (l, flags) :: rest) :
    ∃ t post, post ⊆ lsus ∧ entriesOf t l.rid = entriesOf table l.rid ∧
      flags = dropFlags t l ∧
      rest = outcomesOf ownId (receiveLsu ownId t l) post l.rid ∧
      lsus.foldl (receiveLsu ownId) table = post.foldl (receiveLsu ownId) (receiveLsu ownId t l) := by
  induction lsus generalizing table with
  | nil => cases h
  | cons l' lsus ih =>
    by_cases hr : l.rid = l'.rid
    · rw [hr, outcomesOf_cons_self] at h
      obtain ⟨hhead, hrest⟩ := List.cons.inj h
      obtain ⟨rfl, rfl⟩ := Prod.mk.inj hhead
      exact ⟨table, lsus, List.subset_cons_self _ _, rfl, rfl, hrest.symm, rfl⟩
    · rw [outcomesOf_cons_of_ne hr] at h
      obtain ⟨t, post, hsub, hown, hflags, hrest, hrun⟩ := ih h
      refine ⟨t, post, List.subset_cons_of_subset _ hsub, ?_, hflags, hrest, hrun⟩
      rw [hown, entriesOf_receiveLsu_of_ne hr]

/-- **The entries of a router at the end of a run are told by those at its beginning and by
what became of the router's updates.** -/
theorem entriesOf_run_congr {lsus lsus' : List Lsu}
    (hids : ∀ l ∈ lsus ++ lsus', l.rid ≠ ownId ∧ l.rid ≠ ownId')
    (hown : entriesOf table r = entriesOf table' r)
    (hout : outcomesOf ownId table lsus r = outcomesOf ownId' table' lsus' r) :
    entriesOf (lsus.foldl (receiveLsu ownId) table) r =
      entriesOf (lsus'.foldl (receiveLsu ownId') table') r := by
  induction lsus generalizing table table' lsus' with
  | nil => rw [entriesOf_run_of_nil hout.symm, List.foldl_nil, hown]
  | cons l lsus ih =>
    have hids' : ∀ {post : List Lsu}, post ⊆ lsus' → ∀ x ∈ lsus ++ post, x.rid ≠ ownId ∧
        x.rid ≠ ownId' := by
      intro post hsub x hx
      refine hids x (List.mem_append.mpr ?_)
      exact (List.mem_append.mp hx).imp (List.mem_cons_of_mem l) fun hx => hsub hx
    rw [List.foldl_cons]
    by_cases hr : r = l.rid
    · -- the other run comes to the same update of the router
      subst hr
      rw [outcomesOf_cons_self] at hout
      obtain ⟨t, post, hsub, ht, hflags, hrest, hrun⟩ :=
        exists_of_outcomesOf_eq_cons hout.symm
      obtain ⟨hid, hid'⟩ := hids l (by simp)
      rw [hrun]
      exact ih (hids' hsub) (entriesOf_receiveLsu_congr hid hid' (hown.trans ht.symm) hflags) hrest
    · rw [outcomesOf_cons_of_ne hr] at hout
      refine ih (hids' (List.Subset.refl _)) ?_ hout
      rw [entriesOf_receiveLsu_of_ne hr, hown]

/-! ### What is dropped is decided when the update begins -/

theorem dropFlags_congr (hown : entriesOf table l.rid = entriesOf table' l.rid)
    (h : ∀ y ∈ l.lsas, Drops table l.rid y ↔ Drops table' l.rid y) :
    dropFlags table l = dropFlags table' l := by
  have key : ∀ (lsas : List Lsa) (t t' : List TopologyEntry),
      entriesOf t l.rid = entriesOf t' l.rid →
      (∀ y ∈ lsas, Drops t l.rid y ↔ Drops t' l.rid y) →
      dropFlags.flags l t lsas = dropFlags.flags l t' lsas := by
    intro lsas
    induction lsas with
    | nil => exact fun _ _ _ _ => rfl
    | cons x lsas ih =>
      intro t t' hown hdrops
      have hx := hdrops x List.mem_cons_self
      rw [dropFlags.flags, dropFlags.flags, decide_eq_decide.mpr hx, ih]
      · rw [entriesOf_refresh, entriesOf_refresh, hown]
        simp only [hx]
      · intro y hy
        rw [drops_refresh, drops_refresh, hdrops y (List.mem_cons_of_mem x hy), hx, hown]
  exact key l.lsas table table' hown h

/-- **An update leaves the entries of other routers alone.** -/
theorem filter_ne_updateTopology (table : List TopologyEntry) (l : Lsu) :
    (updateTopology table l).filter (fun e => e.routerId ≠ l.rid) =
      table.filter fun e => e.routerId ≠ l.rid := by
  unfold updateTopology
  generalize l.lsas = lsas
  induction lsas generalizing table with
  | nil => rfl
  | cons lsa lsas ih => rw [List.foldl_cons, ih, filter_ne_refresh]

/-! ### Updates that agree -/

/-- No entry of `l₁`'s originator stops an advertisement of `l₂`. -/
def NotStopped (table : List TopologyEntry) (l₁ l₂ : Lsu) : Prop :=
  ∀ e ∈ table, e.routerId = l₁.rid → ∀ y ∈ l₂.lsas, ¬ StopsAt l₂.rid y e

theorem not_stopsAt_of_agrees {a b : IpAddr} (hne : a ≠ b) {y : Lsa} {e : TopologyEntry}
    (ha : e.routerId = a) (h : SameSubnet y e → Agrees a e.neighborId b y.rid) :
    ¬ StopsAt b y e := by
  rintro ⟨hsame, hown | ⟨hzero, hother⟩⟩
  · exact hne (ha.symm.trans hown)
  · rcases h hsame with hnone | ⟨h₁, h₂⟩
    · exact hzero hnone
    · rcases hother with hother | hother
      · exact hother (ha.trans h₁.symm)
      · exact hother h₂

/-- In the table before, `Tolerates` keeps the originator's entries from stopping `l₂`. -/
theorem Tolerates.notStopped (hne : l₁.rid ≠ l₂.rid) (h : Tolerates table l₁ l₂) :
    NotStopped table l₁ l₂ := fun e he ha y hy =>
  not_stopsAt_of_agrees hne ha ((h y hy).1 e he ha)

/-- And it does so after `l₁` has been applied. -/
theorem Tolerates.notStopped_update (hne : l₁.rid ≠ l₂.rid) (h : Tolerates table l₁ l₂) :
    NotStopped (updateTopology table l₁) l₁ l₂ := by
  have key : ∀ (lsas : List Lsa) (t : List TopologyEntry), lsas ⊆ l₁.lsas →
      NotStopped t l₁ l₂ → NotStopped
        (lsas.foldl (fun t lsa => refreshTopologyEntry t l₁.rid lsa l₁.ipSrc l₁.seq) t) l₁ l₂ := by
    intro lsas
    induction lsas with
    | nil => exact fun _ _ ht => ht
    | cons x lsas ih =>
      intro t hsub ht
      rw [List.cons_subset] at hsub
      refine ih _ hsub.2 ?_
      show NotStopped (refreshTopologyEntry t l₁.rid x l₁.ipSrc l₁.seq) l₁ l₂
      rcases refresh_cases l₁.rid l₁.ipSrc x l₁.seq t with
        ⟨-, heq⟩ | ⟨pre, ptr, post, rfl, -, hstop, ⟨hown, heq⟩ | ⟨-, heq⟩⟩
      · rw [heq]
        intro e he ha y hy
        rcases List.mem_cons.mp he with rfl | he
        · exact not_stopsAt_of_agrees hne ha fun hsame => (h y hy).2 x hsub.1 hsame
        · exact ht e he ha y hy
      · rw [heq]
        intro e he ha y hy
        rcases List.mem_append.mp he with he | he
        · exact ht e (List.mem_append_left _ he) ha y hy
        · rcases List.mem_cons.mp he with rfl | he
          · -- the refreshed entry names the neighbour of the advertisement
            refine not_stopsAt_of_agrees hne ha fun hsame => (h y hy).2 x hsub.1 ?_
            exact ⟨hstop.1.1.symm.trans hsame.1, hstop.1.2.symm.trans hsame.2⟩
          · exact ht e (List.mem_append_right _ (List.mem_cons_of_mem _ he)) ha y hy
      · rw [heq]
        exact ht
  exact key l₁.lsas table (List.Subset.refl _) (h.notStopped hne)

/-- A scan does not see the entries of a router that do not stop it. -/
theorem drops_filter_ne {lsa : Lsa} {other : IpAddr}
    (hfree : ∀ e ∈ table, e.routerId = other → ¬ StopsAt r lsa e) :
    Drops (table.filter fun e => e.routerId ≠ other) r lsa ↔ Drops table r lsa := by
  have hfind : (table.filter fun e => e.routerId ≠ other).find? (fun e => StopsAt r lsa e) =
      table.find? fun e => StopsAt r lsa e := by
    rw [List.find?_filter]
    refine List.find?_congr fun e he => ?_
    by_cases hother : e.routerId = other
    · simp [hother, hfree e he hother]
    · simp [hother]
  rw [Drops, Drops, hfind]

/-- **Of an update that another one agrees with, the same is dropped before and after it.** -/
theorem Tolerates.dropFlags_eq (hne : l₁.rid ≠ l₂.rid) (h : Tolerates table l₁ l₂) :
    dropFlags (updateTopology table l₁) l₂ = dropFlags table l₂ := by
  refine dropFlags_congr (entriesOf_updateTopology_of_ne (Ne.symm hne) table) fun y hy => ?_
  have hbefore : ∀ e ∈ table, e.routerId = l₁.rid → ¬ StopsAt l₂.rid y e :=
    fun e he ha => h.notStopped hne e he ha y hy
  have hafter : ∀ e ∈ updateTopology table l₁, e.routerId = l₁.rid → ¬ StopsAt l₂.rid y e :=
    fun e he ha => h.notStopped_update hne e he ha y hy
  rw [← drops_filter_ne hafter, filter_ne_updateTopology, drops_filter_ne hbefore]

/-! ### What the numbers in the table tell -/

/-- The router has an entry about the advertised subnet with this sequence number. -/
def HasNumber (table : List TopologyEntry) (r : IpAddr) (lsa : Lsa) (seq : UInt16) : Prop :=
  ∃ e ∈ entriesOf table r, SameSubnet lsa e ∧ e.sequenceNum = seq

theorem SameContents.hasNumber (h : SameContents table table') {lsa : Lsa} {seq : UInt16}
    (hnum : HasNumber table r lsa seq) : HasNumber table' r lsa seq := by
  obtain ⟨e, he, hsame, hseq⟩ := hnum
  obtain ⟨hmem, hid⟩ := mem_entriesOf.mp he
  obtain ⟨f, hf, hcontents⟩ := List.mem_map.mp ((h e.contents).mp (List.mem_map_of_mem hmem))
  simp only [TopologyEntry.contents, Prod.mk.injEq] at hcontents
  obtain ⟨hrid, hnum, hmask, -, hfseq⟩ := hcontents
  exact ⟨f, mem_entriesOf.mpr ⟨hf, hrid.trans hid⟩, ⟨hnum.trans hsame.1, hmask.trans hsame.2⟩,
    hfseq.trans hseq⟩

/-- An advertisement puts its number into the entry for its subnet, unless it is dropped. -/
theorem hasNumber_refresh (r nextHop : IpAddr) (x y : Lsa) (seq : UInt16)
    (table : List TopologyEntry) :
    HasNumber (refreshTopologyEntry table r x nextHop seq) r y seq ↔
      HasNumber table r y seq ∨ (x.subnet, x.mask) = (y.subnet, y.mask) ∧ ¬ Drops table r x := by
  rcases refresh_cases r nextHop x seq table with
    ⟨hall, heq⟩ | ⟨pre, ptr, post, rfl, hpre, hptr, ⟨hown, heq⟩ | ⟨hother, heq⟩⟩
  · have hnew : entriesOf (createOspfv2TopologyEntry r x.subnet x.mask x.rid nextHop seq :: table)
        r = createOspfv2TopologyEntry r x.subnet x.mask x.rid nextHop seq :: entriesOf table r := by
      simp [entriesOf, createOspfv2TopologyEntry]
    rw [heq, HasNumber, hnew]
    simp [HasNumber, not_drops_of_forall hall, SameSubnet, createOspfv2TopologyEntry, or_comm]
  · have hdrops : ¬ Drops (pre ++ ptr :: post) r x :=
      (drops_append_iff hpre hptr).not.mpr (not_not.mpr hown)
    -- the entries of the router, with `e` in the place of `ptr`
    have hmiddle : ∀ e : TopologyEntry, e.routerId = r → (HasNumber (pre ++ e :: post) r y seq ↔
        HasNumber pre r y seq ∨ (SameSubnet y e ∧ e.sequenceNum = seq) ∨
          HasNumber post r y seq) := by
      intro e he
      have hsplit : entriesOf (pre ++ e :: post) r = entriesOf pre r ++ e :: entriesOf post r := by
        simp [entriesOf, he]
      simp only [HasNumber, hsplit, List.mem_append, List.mem_cons, or_and_right, exists_or,
        exists_eq_left]
    have hsame : SameSubnet y (refreshed x seq ptr) ↔ (x.subnet, x.mask) = (y.subnet, y.mask) := by
      simp [SameSubnet, refreshed, hptr.1.1, hptr.1.2]
    have hsame' : SameSubnet y ptr ↔ (x.subnet, x.mask) = (y.subnet, y.mask) := hsame
    rw [heq, hmiddle ptr hown, hmiddle (refreshed x seq ptr) hown, hsame, hsame']
    simp only [hdrops, not_false_eq_true, and_true, refreshed]
    tauto
  · have hdrops : Drops (pre ++ ptr :: post) r x := (drops_append_iff hpre hptr).mpr hother
    rw [heq]
    simp [hdrops]

/-- **Of an update with a new number, the entries that have it tell what was not dropped.** -/
theorem hasNumber_updateTopology (honce : l.AdvertisesOnce) (hnew : l.IsNew table) {y : Lsa}
    (hy : y ∈ l.lsas) :
    HasNumber (updateTopology table l) l.rid y l.seq ↔ ¬ Drops table l.rid y := by
  have hother : ∀ (lsas : List Lsa) (t : List TopologyEntry),
      (y.subnet, y.mask) ∉ lsas.map (fun lsa => (lsa.subnet, lsa.mask)) →
      (HasNumber (lsas.foldl (fun t lsa => refreshTopologyEntry t l.rid lsa l.ipSrc l.seq) t)
        l.rid y l.seq ↔ HasNumber t l.rid y l.seq) := by
    intro lsas
    induction lsas with
    | nil => exact fun _ _ => Iff.rfl
    | cons x lsas ih =>
      intro t hy
      rw [List.map_cons, List.mem_cons, not_or] at hy
      rw [List.foldl_cons, ih _ hy.2, hasNumber_refresh]
      simp [Ne.symm hy.1]
  have key : ∀ (lsas : List Lsa) (t : List TopologyEntry),
      (lsas.map fun lsa => (lsa.subnet, lsa.mask)).Nodup → y ∈ lsas →
      (HasNumber (lsas.foldl (fun t lsa => refreshTopologyEntry t l.rid lsa l.ipSrc l.seq) t)
        l.rid y l.seq ↔ HasNumber t l.rid y l.seq ∨ ¬ Drops t l.rid y) := by
    intro lsas
    induction lsas with
    | nil => exact fun _ _ hy => absurd hy List.not_mem_nil
    | cons x lsas ih =>
      intro t honce hy
      rw [List.map_cons, List.nodup_cons] at honce
      rw [List.foldl_cons]
      rcases List.mem_cons.mp hy with rfl | hy
      · rw [hother lsas _ honce.1, hasNumber_refresh]
        simp
      · -- the one before is about another subnet
        have hne : (y.subnet, y.mask) ≠ (x.subnet, x.mask) := fun heq =>
          honce.1 (heq ▸ List.mem_map_of_mem (f := fun lsa => (lsa.subnet, lsa.mask)) hy)
        rw [ih _ honce.2 hy, hasNumber_refresh, drops_refresh]
        simp [hne, Ne.symm hne]
  rw [updateTopology, key l.lsas table honce hy, or_iff_right]
  rintro ⟨e, he, -, hseq⟩
  exact hnew e he hseq

/-! ### Two updates, and runs of them -/

theorem receiveLsu_of_accepts (hacc : accepts ownId table l = true) :
    receiveLsu ownId table l = updateTopology table l := by
  rw [receiveLsu, if_pos hacc]

/-- Runs in which the same becomes of the updates of each router lead to the same entries. -/
theorem sameContents_run {lsus lsus' : List Lsu}
    (hids : ∀ l ∈ lsus ++ lsus', l.rid ≠ ownId ∧ l.rid ≠ ownId')
    (hout : ∀ l ∈ lsus ++ lsus',
      outcomesOf ownId table lsus l.rid = outcomesOf ownId' table lsus' l.rid) :
    SameContents (lsus.foldl (receiveLsu ownId) table) (lsus'.foldl (receiveLsu ownId') table) := by
  have hnil : ∀ (own r : IpAddr) (t : List TopologyEntry) (ls : List Lsu),
      (∀ l ∈ ls, l.rid ≠ r) → outcomesOf own t ls r = [] := by
    intro own r t ls
    induction ls generalizing t with
    | nil => exact fun _ => rfl
    | cons l ls ih =>
      intro hls
      rw [outcomesOf_cons_of_ne (Ne.symm (hls l List.mem_cons_self)),
        ih _ fun x hx => hls x (List.mem_cons_of_mem l hx)]
  refine sameContents_of_entriesOf fun r => entriesOf_run_congr hids rfl ?_
  by_cases hr : ∃ l ∈ lsus ++ lsus', l.rid = r
  · obtain ⟨l, hl, rfl⟩ := hr
    exact hout l hl
  · push Not at hr
    rw [hnil _ r _ lsus fun l hl => hr l (List.mem_append_left _ hl),
      hnil _ r _ lsus' fun l hl => hr l (List.mem_append_right _ hl)]

/-- **Two updates of which the same is dropped in both orders lead to the same entries.** -/
theorem sameContents_of_droppedAlike (hne : l₁.rid ≠ l₂.rid)
    (hacc₁ : accepts ownId table l₁ = true) (hacc₂ : accepts ownId table l₂ = true)
    (h : DroppedAlike table l₁ l₂) :
    SameContents (receiveLsu ownId (receiveLsu ownId table l₁) l₂)
      (receiveLsu ownId (receiveLsu ownId table l₂) l₁) := by
  have hids : ∀ l ∈ [l₁, l₂] ++ [l₂, l₁], l.rid ≠ ownId ∧ l.rid ≠ ownId := by
    have h₁ := (accepts_eq_true.mp hacc₁).1
    have h₂ := (accepts_eq_true.mp hacc₂).1
    simp [h₁, h₂]
  have hout : ∀ r, outcomesOf ownId table [l₁, l₂] r = outcomesOf ownId table [l₂, l₁] r := by
    intro r
    simp only [outcomesOf, outcomes, receiveLsu_of_accepts hacc₁, receiveLsu_of_accepts hacc₂,
      h.1, h.2]
    by_cases hr : l₁.rid = r
    · have hr₂ : l₂.rid ≠ r := fun h => hne (hr.trans h.symm)
      simp [hr, hr₂]
    · by_cases hr₂ : l₂.rid = r <;> simp [hr, hr₂]
  exact sameContents_run hids fun l _ => hout l.rid

/-- The second one of two accepted updates is accepted as well. -/
theorem receiveLsu_receiveLsu (hne : l₁.rid ≠ l₂.rid) (hacc₁ : accepts ownId table l₁ = true)
    (hacc₂ : accepts ownId table l₂ = true) :
    receiveLsu ownId (receiveLsu ownId table l₁) l₂ =
      updateTopology (updateTopology table l₁) l₂ := by
  have hid := (accepts_eq_true.mp hacc₂).1
  have hown := entriesOf_updateTopology_of_ne (Ne.symm hne) table
  rw [receiveLsu_of_accepts hacc₁, receiveLsu_of_accepts]
  rw [accepts_congr hown hid hid, hacc₂]

/-- One half of the converse, for the update that comes second. -/
theorem dropFlags_eq_of_sameContents (hne : l₁.rid ≠ l₂.rid) (honce : l₂.AdvertisesOnce)
    (hnew : l₂.IsNew table)
    (h : SameContents (updateTopology (updateTopology table l₁) l₂)
      (updateTopology (updateTopology table l₂) l₁)) :
    dropFlags (updateTopology table l₁) l₂ = dropFlags table l₂ := by
  have hown := entriesOf_updateTopology_of_ne (Ne.symm hne) table
  have hnew' : l₂.IsNew (updateTopology table l₁) := by
    unfold Lsu.IsNew
    rwa [hown]
  refine dropFlags_congr hown fun y hy => not_iff_not.mp ?_
  calc ¬ Drops (updateTopology table l₁) l₂.rid y
      ↔ HasNumber (updateTopology (updateTopology table l₁) l₂) l₂.rid y l₂.seq :=
        (hasNumber_updateTopology honce hnew' hy).symm
    _ ↔ HasNumber (updateTopology (updateTopology table l₂) l₁) l₂.rid y l₂.seq :=
        ⟨h.hasNumber, SameContents.hasNumber fun k => (h k).symm⟩
    _ ↔ HasNumber (updateTopology table l₂) l₂.rid y l₂.seq := by
        unfold HasNumber
        rw [entriesOf_updateTopology_of_ne (Ne.symm hne)]
    _ ↔ ¬ Drops table l₂.rid y := hasNumber_updateTopology honce hnew hy

/-- **The two orders of updates of which each has a new number, and no subnet twice, lead to
the same entries only if the same is dropped in both.** -/
theorem droppedAlike_of_sameContents (hne : l₁.rid ≠ l₂.rid)
    (hacc₁ : accepts ownId table l₁ = true) (hacc₂ : accepts ownId table l₂ = true)
    (honce₁ : l₁.AdvertisesOnce) (honce₂ : l₂.AdvertisesOnce) (hnew₁ : l₁.IsNew table)
    (hnew₂ : l₂.IsNew table)
    (h : SameContents (receiveLsu ownId (receiveLsu ownId table l₁) l₂)
      (receiveLsu ownId (receiveLsu ownId table l₂) l₁)) :
    DroppedAlike table l₁ l₂ := by
  rw [receiveLsu_receiveLsu hne hacc₁ hacc₂, receiveLsu_receiveLsu (Ne.symm hne) hacc₂ hacc₁] at h
  exact ⟨dropFlags_eq_of_sameContents (Ne.symm hne) honce₁ hnew₁ fun k => (h k).symm,
    dropFlags_eq_of_sameContents hne honce₂ hnew₂ h⟩

/-- **Two accepted updates of different routers give the same topology in either order if the
same of their advertisements is dropped in both**, as it is when they agree.  Otherwise they
do not, unless a number or a subnet is repeated.  Routers that receive updates in different
orders, with the same advertisements dropped, hold the same topology. -/
theorem receiveLsu_comm :
    (∀ (ownId : IpAddr) (table : List TopologyEntry) (l₁ l₂ : Lsu), l₁.rid ≠ l₂.rid →
      accepts ownId table l₁ = true → accepts ownId table l₂ = true →
      (DroppedAlike table l₁ l₂ →
        SameContents (receiveLsu ownId (receiveLsu ownId table l₁) l₂)
          (receiveLsu ownId (receiveLsu ownId table l₂) l₁)) ∧
      (Tolerates table l₁ l₂ → Tolerates table l₂ l₁ → DroppedAlike table l₁ l₂) ∧
      (l₁.AdvertisesOnce → l₂.AdvertisesOnce → l₁.IsNew table → l₂.IsNew table →
        SameContents (receiveLsu ownId (receiveLsu ownId table l₁) l₂)
          (receiveLsu ownId (receiveLsu ownId table l₂) l₁) → DroppedAlike table l₁ l₂)) ∧
    ∀ (ownId ownId' : IpAddr) (table : List TopologyEntry) (lsus lsus' : List Lsu),
      (∀ l ∈ lsus ++ lsus', l.rid ≠ ownId ∧ l.rid ≠ ownId') →
      (∀ l ∈ lsus ++ lsus',
        outcomesOf ownId table lsus l.rid = outcomesOf ownId' table lsus' l.rid) →
      SameContents (lsus.foldl (receiveLsu ownId) table)
        (lsus'.foldl (receiveLsu ownId') table) := by
  refine ⟨fun ownId table l₁ l₂ hne hacc₁ hacc₂ => ⟨?_, ?_, ?_⟩,
    fun _ _ _ _ _ hids hout => sameContents_run hids hout⟩
  · exact sameContents_of_droppedAlike hne hacc₁ hacc₂
  · intro h₁₂ h₂₁
    exact ⟨h₂₁.dropFlags_eq (Ne.symm hne), h₁₂.dropFlags_eq hne⟩
  · exact droppedAlike_of_sameContents hne hacc₁ hacc₂

/-- The update of the router 7.7.7.7 about the subnet 10.0.2.0/24, with the neighbour it
names there. -/
def sevenSays (neighbor : IpAddr) : Lsu :=
  ⟨0x07070707, 1, 0x0201000a, [⟨0x0002000a, 0x00ffffff, neighbor⟩]⟩

/-- And that of the router 8.8.8.8. -/
def eightSays (neighbor : IpAddr) : Lsu :=
  ⟨0x08080808, 1, 0x0201000a, [⟨0x0002000a, 0x00ffffff, neighbor⟩]⟩

/-- Two routers that name each other; two that name a third one to a router that has believed
it already; and two routers that hear of the first two in different orders. -/
theorem neighbors_comm :
    let seven := sevenSays 0x08080808
    let eight := eightSays 0x07070707
    let held : List TopologyEntry := [⟨0x09090909, 0x0002000a, 0x00ffffff, 0x07070707, 0, 1, 0⟩]
    SameContents (receiveLsu 0x01010101 (receiveLsu 0x01010101 [] seven) eight)
        (receiveLsu 0x01010101 (receiveLsu 0x01010101 [] eight) seven) ∧
      SameContents
        (receiveLsu 0x01010101 (receiveLsu 0x01010101 held (sevenSays 0x09090909))
          (eightSays 0x09090909))
        (receiveLsu 0x01010101 (receiveLsu 0x01010101 held (eightSays 0x09090909))
          (sevenSays 0x09090909)) ∧
      DroppedAlike [] seven eight ∧
      SameContents ([seven, eight].foldl (receiveLsu 0x01010101) [])
        ([eight, seven].foldl (receiveLsu 0x02020202) []) := by
  refine ⟨?_, ?_, ?_, ?_⟩
  · exact (receiveLsu_comm.1 0x01010101 [] (sevenSays 0x08080808) (eightSays 0x07070707)
      (by decide) (by decide) (by decide)).1 (by decide)
  · exact (receiveLsu_comm.1 0x01010101 _ (sevenSays 0x09090909) (eightSays 0x09090909)
      (by decide) (by decide) (by decide)).1 (by decide)
  · have h := receiveLsu_comm.1 0x01010101 [] (sevenSays 0x08080808) (eightSays 0x07070707)
      (by decide) (by decide) (by decide)
    have hcomm := h.1 (h.2.1 (by decide) (by decide))
    exact h.2.2 (by decide) (by decide) (by decide) (by decide) hcomm
  · exact receiveLsu_comm.2 0x01010101 0x02020202 [] _ _ (by decide) (by decide)

/-- **Of two routers that name a third one on a subnet, only the first is believed.** -/
theorem disagreeing_not_comm :
    let l₁ := sevenSays 0x09090909
    let l₂ := eightSays 0x09090909
    l₁.rid ≠ l₂.rid ∧ accepts 0x01010101 [] l₁ = true ∧ accepts 0x01010101 [] l₂ = true ∧
      ¬ SameContents (receiveLsu 0x01010101 (receiveLsu 0x01010101 [] l₁) l₂)
        (receiveLsu 0x01010101 (receiveLsu 0x01010101 [] l₂) l₁) := by
  refine ⟨by decide, by decide, by decide, ?_⟩
  intro h
  have hmem := (h (0x07070707, 0x0002000a, 0x00ffffff, 0x09090909, 1)).mp (by decide)
  revert hmem
  decide

end Redes
