import Redes.Network.Routers
import Redes.Pwospf.TableRuns

/-!
# The link-state databases

What a router holds of another router's links has been said by that router, and was so when it was
said.  A router says what its routing table and its neighbours are, so that an entry of a
topology table leads back to a static route or a connected network of the router it is about,
and a neighbour that the entry names is a router on that link.

## Main definitions

* `advertised` — the advertisements of an LSU, from its bytes.
* `TopologyTrue` — the topology table has been said.
* `Cabling.BaseRoute` — the routes that a router can advertise.
* `Cabling.BasesTrue` — the law about them.
* `Cabling.HasSent` — a router has sent what an entry says.

## Main results

* `lsu_accepted_eq` — what an accepted LSU is.
* `advertised_lsuBody` — the advertisements are those of the sender.
* `Stepped.topologyTrue` — an event keeps the topology table true.
* `Cabling.topology_sound` — the entries of a topology table lead back to links that exist.
-/

namespace Redes

open Bytes Logged

/-! ### Advertisements -/

/-- The advertisements of an LSU, from what comes behind its TTL. -/
def advertised (body : List UInt8) : List Lsa :=
  (List.range (load32 body 0).toNat).map fun k =>
    ⟨load32 body (4 + k * 12), load32 body (4 + k * 12 + 4), load32 body (4 + k * 12 + 8)⟩

/-- **An accepted LSU is what the packet says**, is not this router's own, and is new. -/
theorem lsu_accepted_eq {ownId : IpAddr} {table : List TopologyEntry} {packet : Frame} {lsu : Lsu}
    (h : srHandlePwospfLsuPacket ownId table packet = .ok (.accepted lsu)) :
    lsu = ⟨(said packet).rid, (said packet).seq, ipSrc packet, advertised (said packet).body⟩ ∧
      accepts ownId table lsu = true := by
  unfold srHandlePwospfLsuPacket at h
  split at h
  · cases Except.ok.inj h
  · obtain ⟨rid, hrid, h⟩ := Fuel.exists_of_bind_eq_ok h
    split at h
    · cases Except.ok.inj h
    · next hown =>
      obtain ⟨seq, hseq, h⟩ := Fuel.exists_of_bind_eq_ok h
      split at h
      · cases Except.ok.inj h
      · next hnew =>
        obtain ⟨numAdv, hnum, h⟩ := Fuel.exists_of_bind_eq_ok h
        obtain ⟨src, hsrc, h⟩ := Fuel.exists_of_bind_eq_ok h
        obtain ⟨lsas, hlsas, h⟩ := Fuel.exists_of_bind_eq_ok h
        obtain rfl := LsuVerdict.accepted.inj (Except.ok.inj h)
        have hseq' : seq = lsuSeq packet := by
          unfold read16 at hseq
          split at hseq
          · exact (Except.ok.inj hseq).symm
          · cases hseq
        -- the loop reads as many advertisements as the packet says that it has
        have hadv : lsas = advertised (packet.drop 62) := by
          rw [readLsas_eq] at hlsas
          split at hlsas
          · rw [← Except.ok.inj hlsas, (length_le_of_read32 hnum).2]
            unfold advertised lsaAt lsaOffset
            rw [load32_drop]
            refine List.map_congr_left fun k _ => ?_
            have hat : ∀ j, load32 (packet.drop 62) j = load32 packet (62 + j) := by
              intro j
              rw [← load32_drop (packet.drop 62), List.drop_drop, load32_drop]
            rw [hat, hat, hat]
            congr 2 <;> omega
          · cases hlsas
        rw [accepts, Bool.and_eq_true]
        refine ⟨?_, by simpa using hown, by simpa using hnew⟩
        rw [(length_le_of_read32 hrid).2, (length_le_of_read32 hsrc).2, hseq', hadv]
        rfl

/-- **The advertisements that are read are those of the sender.** -/
theorem advertised_lsuBody {lsas : List Lsa} {lsa : Lsa} (h : lsa ∈ advertised (lsuBody lsas)) :
    lsa ∈ lsas := by
  obtain ⟨k, hk, rfl⟩ := List.mem_map.mp h
  -- the number is sent in 32 bits, and may be too small but never too large
  have hcount : (load32 (lsuBody lsas) 0).toNat ≤ lsas.length := by
    rw [lsuBody, load32_bytes32_append, UInt32.toNat_ofNat']
    exact Nat.mod_le _ _
  have hlt : k < lsas.length := lt_of_lt_of_le (List.mem_range.mp hk) hcount
  -- the bytes from the advertisement on
  have hdrop : ∀ (l : List Lsa) (j : ℕ), (l.flatMap lsaBytes).drop (j * 12) =
      (l.drop j).flatMap lsaBytes := by
    intro l
    induction l with
    | nil => exact fun j => by rw [List.flatMap_nil, List.drop_nil, List.drop_nil]; rfl
    | cons a l ih =>
      intro j
      cases j with
      | zero => rw [Nat.zero_mul]; rfl
      | succ j =>
        rw [List.drop_succ_cons, ← ih j, List.flatMap_cons, Nat.add_mul, Nat.add_comm,
          ← List.drop_drop]
        rfl
  have hbody : (lsuBody lsas).drop (4 + k * 12) =
      lsaBytes lsas[k] ++ (lsas.drop (k + 1)).flatMap lsaBytes := by
    rw [lsuBody, ← List.drop_drop, List.drop_left' (length_bytes32 _), hdrop,
      List.drop_eq_getElem_cons hlt, List.flatMap_cons]
  have hat : ∀ j, load32 (lsuBody lsas) (4 + k * 12 + j) =
      load32 ((lsaBytes lsas[k] ++ (lsas.drop (k + 1)).flatMap lsaBytes).drop j) 0 := by
    intro j
    rw [← hbody, List.drop_drop, load32_drop]
  have hword : ∀ v xs, load32 (bytes32 v ++ xs) 0 = v := load32_bytes32_append
  have hsubnet : load32 (lsuBody lsas) (4 + k * 12) = lsas[k].subnet :=
    (hat 0).trans (hword lsas[k].subnet (bytes32 lsas[k].mask ++ bytes32 lsas[k].rid ++ _))
  have hmask : load32 (lsuBody lsas) (4 + k * 12 + 4) = lsas[k].mask :=
    (hat 4).trans (hword lsas[k].mask (bytes32 lsas[k].rid ++ _))
  have hrid : load32 (lsuBody lsas) (4 + k * 12 + 8) = lsas[k].rid :=
    (hat 8).trans (hword lsas[k].rid _)
  rw [hsubnet, hmask, hrid]
  exact List.getElem_mem hlt

/-! ### The topology table -/

/-- What an entry is about has been said, with its sequence number. -/
def EntryTrue (told : Said → Prop) (e : TopologyEntry) : Prop :=
  ∃ words, told words ∧ words.rid = e.routerId ∧ words.seq = e.sequenceNum ∧
    ⟨e.netNum, e.netMask, e.neighborId⟩ ∈ advertised words.body

/-- The topology table has been said. -/
def TopologyTrue (told : Said → Prop) (table : List TopologyEntry) : Prop :=
  ∀ e ∈ table, EntryTrue told e

/-- An entry after an advertisement is one of before, or says what the advertisement says. -/
theorem mem_refreshTopologyEntry {table : List TopologyEntry} {routerId nextHop : IpAddr}
    {lsa : Lsa} {seq : UInt16} {e : TopologyEntry}
    (h : e ∈ refreshTopologyEntry table routerId lsa nextHop seq) :
    e ∈ table ∨ e.routerId = routerId ∧ e.sequenceNum = seq ∧
      (⟨e.netNum, e.netMask, e.neighborId⟩ : Lsa) = lsa := by
  rcases refresh_cases routerId nextHop lsa seq table with
    ⟨-, heq⟩ | ⟨pre, ptr, post, rfl, -, hptr, ⟨hown, heq⟩ | ⟨-, heq⟩⟩
  · rw [heq] at h
    rcases List.mem_cons.mp h with rfl | h
    · exact .inr ⟨rfl, rfl, rfl⟩
    · exact .inl h
  · rw [heq] at h
    rcases List.mem_append.mp h with h | h
    · exact .inl (List.mem_append_left _ h)
    · rcases List.mem_cons.mp h with rfl | h
      · -- the entry that is refreshed is about the same subnet
        obtain ⟨hnum, hmask⟩ := hptr.1
        refine .inr ⟨hown, rfl, ?_⟩
        show (⟨ptr.netNum, ptr.netMask, lsa.rid⟩ : Lsa) = lsa
        rw [hnum, hmask]
      · exact .inl (List.mem_append_right _ (List.mem_cons_of_mem ptr h))
  · rw [heq] at h
    exact .inl h

/-- **An LSU that has been said keeps the table true.** -/
theorem TopologyTrue.update {told : Said → Prop} {table : List TopologyEntry}
    (h : TopologyTrue told table) {words : Said} (hwords : told words) (src : IpAddr) :
    TopologyTrue told
      (updateTopology table ⟨words.rid, words.seq, src, advertised words.body⟩) := by
  -- one advertisement after the other
  have hfold : ∀ (lsas : List Lsa) (table : List TopologyEntry), TopologyTrue told table →
      (∀ lsa ∈ lsas, lsa ∈ advertised words.body) →
        TopologyTrue told (lsas.foldl (fun t lsa =>
          refreshTopologyEntry t words.rid lsa src words.seq) table) := by
    intro lsas
    induction lsas with
    | nil => exact fun _ h _ => h
    | cons lsa lsas ih =>
      intro table h hsub
      apply ih
      · intro e he
        rcases mem_refreshTopologyEntry he with he | ⟨hid, hseq, hlsa⟩
        · exact h e he
        · refine ⟨words, hwords, hid.symm, hseq.symm, ?_⟩
          rw [hlsa]
          exact hsub lsa List.mem_cons_self
      · exact fun l hl => hsub l (List.mem_cons_of_mem lsa hl)
  exact hfold _ table h fun _ hl => hl

theorem TopologyTrue.age {told : Said → Prop} {table : List TopologyEntry}
    (h : TopologyTrue told table) : TopologyTrue told (checkTopologyAge table).1 := by
  intro e he
  rcases mem_checkTopologyAge he with he | ⟨f, hf, -, rfl⟩
  · exact h e he
  · exact h f hf

theorem TopologyTrue.mono {told told' : Said → Prop} {table : List TopologyEntry}
    (h : TopologyTrue told table) (hle : ∀ words, told words → told' words) :
    TopologyTrue told' table := by
  intro e he
  obtain ⟨words, hwords, hrest⟩ := h e he
  exact ⟨words, hle words hwords, hrest⟩

/-- **An event keeps the topology table true**, if the LSUs that wait are. -/
theorem Stepped.topologyTrue {facts : Facts} {s s' : RouterState} {e : RouterEvent}
    (hstep : Stepped s e s') (hbears : Bears facts s) (h : TopologyTrue facts.told s.topology) :
    TopologyTrue facts.told s'.topology := by
  cases hstep with
  | lsuAccepted st hl hverdict =>
    obtain ⟨rfl, -⟩ := lsu_accepted_eq hverdict
    obtain ⟨hospf, hwaits⟩ := hbears.rxLsus _ (List.mem_of_getElem? hl)
    exact h.update (hwaits.lsu hospf).2 _
  | topologyAge _ => exact h.age
  | run =>
    unfold pwospfRunThread
    split
    · exact h
    · exact h
  | _ => exact h

/-! ### Base routes -/

theorem mem_clearRoutes {table : List SrRt} {r : SrRt} (h : r ∈ clearRoutes table) : r ∈ table := by
  -- where the next entry is removed, the walk stays at its entry
  have hfrom : ∀ (table : List SrRt) (entry : SrRt), r ∈ clearRoutesFrom entry table →
      r ∈ entry :: table := by
    intro table
    induction table with
    | nil => exact fun entry h => h
    | cons next rest ih =>
      intro entry h
      unfold clearRoutesFrom at h
      split at h
      · rcases List.mem_cons.mp (ih entry h) with rfl | h
        · exact List.mem_cons_self
        · exact List.mem_cons_of_mem _ (List.mem_cons_of_mem _ h)
      · rcases List.mem_cons.mp h with rfl | h
        · exact List.mem_cons_self
        · exact List.mem_cons_of_mem _ (ih next h)
  cases table with
  | nil => exact h
  | cons entry rest => exact hfrom rest entry h

/-- **`run_dijkstra` makes no base routes.** -/
theorem mem_of_returns {ifList : List SrIf} {topology : List TopologyEntry} {routerId : IpAddr}
    {table result : List SrRt} (h : Returns ifList topology routerId table result) {r : SrRt}
    (hr : r ∈ result) (hbase : r.adminDst ≤ 1) : r ∈ table := by
  obtain ⟨fuel, hfuel⟩ := h
  rw [runDijkstra] at hfuel
  cases hf : topology.foldlM (runEntry fuel ifList topology routerId)
      ⟨initialMem, clearRoutes table⟩ with
  | error e =>
    rw [hf] at hfuel
    cases hfuel
  | ok s =>
    rw [hf] at hfuel
    obtain rfl : s.routingTable = result := Except.ok.inj hfuel
    -- each turn of the loop adds one route at most, with the distance 110
    have hinv := Fuel.foldlM_invariant
      (I := fun s : DijkstraState => ∀ r ∈ s.routingTable, r.adminDst ≤ 1 → r ∈ table)
      (fun s s' t _ hs hrun => ?_) (fun r hr _ => mem_clearRoutes hr) hf
    · exact hinv r hr hbase
    · rcases runEntry_routingTable hrun with htable | ⟨-, gw, mask, name, htable⟩
      · rwa [htable]
      · intro r hr hbase
        rw [htable] at hr
        rcases List.mem_append.mp hr with hr | hr
        · exact hs r hr hbase
        · rw [List.mem_singleton.mp hr] at hbase
          have hcomputed : ¬ (110 : UInt8) ≤ 1 := by decide
          exact absurd hbase hcomputed

theorem mem_addConnected {table : List SrRt} {ifList : List SrIf} {r : SrRt}
    (h : r ∈ addConnected table ifList) :
    r ∈ table ∨ ∃ i ∈ ifList, r = ⟨i.network, 0, i.mask, i.name, 1⟩ := by
  induction ifList generalizing table with
  | nil => exact .inl h
  | cons i ifList ih =>
    rw [addConnected_cons] at h
    rcases ih h with h | ⟨j, hj, hr⟩
    · split at h
      · exact .inl h
      · rcases List.mem_append.mp h with h | h
        · exact .inl h
        · exact .inr ⟨i, List.mem_cons_self, List.mem_singleton.mp h⟩
    · exact .inr ⟨j, List.mem_cons_of_mem i hj, hr⟩

namespace Cabling

variable {ν κ : Type*} {c : Cabling ν κ}

/-- A route that is not computed: a static one, or the network of a port. -/
def BaseRoute (c : Cabling ν κ) (n : ν) (r : SrRt) : Prop :=
  r ∈ c.staticRoutes n ∨
    ∃ p ∈ ports (c.ifList n), r = ⟨p.ip &&& p.mask, 0, p.mask, p.name, 1⟩

/-- The routes that are not computed are base routes. -/
def BasesTrue (c : Cabling ν κ) (n : ν) (s : RouterState) : Prop :=
  ∀ r ∈ s.routingTable, r.adminDst ≤ 1 → c.BaseRoute n r

/-- **An event makes no base routes** but those of the connected networks. -/
theorem BasesTrue.stepped {n : ν} {s s' : RouterState} {e : RouterEvent}
    (h : c.BasesTrue n s) (hports : ports s.ifList = ports (c.ifList n)) (hstep : Stepped s e s')
    (hroutes : ∀ table, e = .routes table → ∃ ifList topology routerId,
      Returns ifList topology routerId s.routingTable table) : c.BasesTrue n s' := by
  cases hstep with
  | routes table =>
    obtain ⟨ifList, topology, routerId, hret⟩ := hroutes table rfl
    exact fun r hr hbase => h r (mem_of_returns hret hr hbase) hbase
  | run =>
    unfold pwospfRunThread
    split
    · exact h
    · intro r hr hbase
      rcases mem_addConnected hr with hr | ⟨i, hi, rfl⟩
      · exact h r hr hbase
      · refine .inr ⟨i.port, ?_, rfl⟩
        rw [← hports]
        exact List.mem_map_of_mem hi
  | _ => exact h

/-! ### Runs -/

/-- The law of topology tables and base routes. -/
def LinksTrue (c : Cabling ν κ) : Network.Law ν RouterState (Env × RouterEvent) Outgoing where
  state := fun turns n s => TopologyTrue (WasSaid turns) s.topology ∧ c.BasesTrue n s
  sends := fun _ _ _ => True
  state_cons := fun turn h => ⟨h.1.mono fun _ hw => hw.cons turn, h.2⟩
  sends_cons := fun _ h => h

variable {turns : List (RouterTurn ν)} {config : Network.Config ν RouterState Outgoing}

/-- What a router is given as another routing table has been computed. -/
theorem returns_of_given {n : ν} {env : Env} {table : List SrRt}
    (h : c.routers.Given config n (env, .routes table)) : ∃ ifList topology routerId,
      Returns ifList topology routerId (config.states n).routingTable table := by
  rcases h with hown | ⟨m, out, -, p, -, ha, -⟩
  · exact hown
  · cases ha

variable [DecidableEq ν]

/-- **The law holds in every run.** -/
theorem linksTrue_of_run (h : RoutersRun c turns config) : c.LinksTrue.Holds turns config := by
  apply Network.Run.law h
  · refine ⟨fun n => ⟨fun e he => absurd he List.not_mem_nil, ?_⟩, fun _ _ => trivial⟩
    exact fun r hr _ => .inl hr
  · intro turns config n a hrun hlaw hgiven
    obtain ⟨hbears, hports⟩ := (learns_of_run hrun).states n
    obtain ⟨htopology, hbases⟩ := hlaw.states n
    refine ⟨fun _ _ => trivial, ?_⟩
    intro s hs
    have hstep := stepped_routerStep hs
    refine ⟨(hstep.topologyTrue hbears htopology).mono fun _ hw => hw.cons _, ?_⟩
    refine hbases.stepped hports hstep fun table ha => ?_
    obtain ⟨env, e⟩ := a
    cases ha
    exact returns_of_given hgiven

/-- What a router has recorded when it sends LSUs is true. -/
theorem announces_true (h : RoutersRun c turns config) : ∀ turn ∈ turns,
    ∀ s₁, Announces turn.state turn.input.2 s₁ →
      Bears (c.facts turns turn.machine) s₁ ∧ c.BasesTrue turn.machine s₁ := by
  refine Network.Run.forall_turns (P := fun turns turn => ∀ s₁,
    Announces turn.state turn.input.2 s₁ →
      Bears (c.facts turns turn.machine) s₁ ∧ c.BasesTrue turn.machine s₁) h ?_ ?_
  · exact fun next hP s₁ hann => (hP s₁ hann).imp_left (Bears.mono (facts_le _ next _))
  · intro turns config n a hrun hgiven s₁ hann
    have hlaw := learns_of_run hrun
    obtain ⟨hbears, -⟩ := hlaw.states n
    have hbases := ((linksTrue_of_run hrun).states n).2
    obtain ⟨env, e⟩ := a
    cases hann with
    | allLsu _ => exact ⟨hbears.mono (facts_le _ _ _), hbases⟩
    | hello hacc _ =>
      exact ⟨(hbears.heard hacc (hears_of_given hlaw hgiven)).mono (facts_le _ _ _), hbases⟩

/-- **What was said was so**: a router that says something has this id, and each advertisement
is about one of its base routes, with a router on the link of the route. -/
theorem said_sound (h : RoutersRun c turns config) {words : Said} (hwords : WasSaid turns words) :
    words.rid ≠ 0 ∧ ∃ turn ∈ turns, (config.states turn.machine).routerId = words.rid ∧
      (∃ s₁, Announces turn.state turn.input.2 s₁ ∧ Originates s₁ words) ∧
        ∀ lsa ∈ advertised words.body, ∃ route, c.BaseRoute turn.machine route ∧
          route.dest = lsa.subnet ∧ route.mask = lsa.mask ∧
            (lsa.rid ≠ 0 → ∃ k p, c.Opposite turn.machine route.interface k p ∧
              (config.states k).routerId = lsa.rid) := by
  obtain ⟨turn, hturn, s₁, hann, lsas, hlsas, rfl⟩ := hwords
  obtain ⟨hbears, hbases⟩ := announces_true h turn hturn s₁ hann
  obtain ⟨hrid, -, hrunning⟩ := hann.same
  have hid : HasId turns turn.machine turn.state.routerId := ⟨turn, hturn, rfl, rfl⟩
  refine ⟨hrid ▸ hrunning, turn, hturn, ?_, ⟨s₁, hann, lsas, hlsas, rfl⟩, ?_⟩
  · exact (routerId_of_run h hid hrunning).trans hrid.symm
  · intro lsa hlsa
    have hadv := advertises_of_lsasOfRoutes hlsas
    obtain ⟨route, hmem, hbase, i, hi, rfl⟩ := hadv.route (advertised_lsuBody hlsa)
    obtain ⟨hif, hname⟩ := srGetInterface_mem hi
    refine ⟨route, hbases route hmem hbase, rfl, rfl, ?_⟩
    intro hneighbor
    obtain ⟨k, p, hopp, hhas, -⟩ := hbears.neighbors i hif hneighbor
    rw [hname] at hopp
    exact ⟨k, p, hopp, routerId_of_run h hhas hneighbor⟩

/-- In one of its turns the router has sent LSUs that say what the entry does, under the id and
with the sequence number of the entry. -/
def HasSent (turns : List (RouterTurn ν)) (m : ν) (e : TopologyEntry) : Prop :=
  ∃ turn ∈ turns, turn.machine = m ∧ ∃ s₁ words, Announces turn.state turn.input.2 s₁ ∧
    Originates s₁ words ∧ words.rid = e.routerId ∧ words.seq = e.sequenceNum ∧
      ⟨e.netNum, e.netMask, e.neighborId⟩ ∈ advertised words.body

/-- **The entries of a topology table lead back to links that exist**, in every run: the router
of an entry has a static or connected route to the subnet, has sent LSUs that say so with the
sequence number, and the neighbour of the entry is a router on the link of the route. -/
theorem topology_sound (h : RoutersRun c turns config) (n : ν) {e : TopologyEntry}
    (he : e ∈ (config.states n).topology) :
    ∃ m route, (config.states m).routerId = e.routerId ∧ c.BaseRoute m route ∧
      route.dest = e.netNum ∧ route.mask = e.netMask ∧ HasSent turns m e ∧
      (e.neighborId ≠ 0 → ∃ k p, c.Opposite m route.interface k p ∧
        (config.states k).routerId = e.neighborId) := by
  obtain ⟨words, hwords, hrid, hseq, hlsa⟩ := ((linksTrue_of_run h).states n).1 e he
  obtain ⟨-, turn, hturn, hid, ⟨s₁, hann, horiginates⟩, hadv⟩ := said_sound h hwords
  obtain ⟨route, hroute, hdest, hmask, hneighbor⟩ := hadv _ hlsa
  exact ⟨turn.machine, route, hid.trans hrid, hroute, hdest, hmask,
    ⟨turn, hturn, rfl, s₁, words, hann, horiginates, hrid, hseq, hlsa⟩, hneighbor⟩

/-- The LSU of the second router to the first one: the shared link, with the first one as the
neighbour. -/
def lsuOfSecond : Frame :=
  [0x00, 0x00, 0x00, 0x00, 0x00, 0x01, 0x00, 0x00, 0x00, 0x00, 0x00, 0x02, 0x08, 0x00,
    0x45, 0x00, 0x00, 0x40, 0x00, 0x00, 0x40, 0x00, 0x40, 0x59, 0x24, 0x63,
    0x0a, 0x00, 0x01, 0x02, 0x0a, 0x00, 0x01, 0x01,
    0x02, 0x04, 0x00, 0x00, 0x0a, 0x00, 0x01, 0x02, 0x00, 0x00, 0x00, 0x00, 0xdc, 0xb7, 0x00, 0x00,
    0x00, 0x00, 0x00, 0x00, 0x00, 0x00, 0x00, 0x00, 0x00, 0x00, 0x00, 0x40, 0x01, 0x00, 0x00, 0x00,
    0x0a, 0x00, 0x01, 0x00, 0xff, 0xff, 0xff, 0x00, 0x0a, 0x00, 0x01, 0x01]

/-- The second router hears of the first one in turn, and sends it an LSU, which is accepted. -/
def firstLearns : Network.Play (Fin 2) RouterState (Env × RouterEvent) Outgoing :=
  let turn := Network.Play.turn twoRouters.routers
  let p := turn firstHears firstRouter (quietEnv, .hellos)
  let p := turn p secondRouter (received (helloOf firstRouter))
  let p := turn p firstRouter (received lsuOfSecond)
  turn p firstRouter (quietEnv, .rxLsu 0)

theorem firstLearns_reaches : twoRouters.routers.Reaches twoRouters.start firstLearns := by
  refine .turn (.turn (.turn (.turn firstHears_reaches _ _ ?_ ?_) _ _ ?_ ?_) _ _ ?_ ?_) _ _ ?_ ?_
  all_goals first | exact .inl trivial | exact .inr (by decide +kernel) | decide +kernel

theorem topology_sound_firstLearns : ∃ e ∈ (firstLearns.states 0).topology,
    e.neighborId ≠ 0 ∧ ∃ m route, (firstLearns.states m).routerId = e.routerId ∧
      twoRouters.BaseRoute m route ∧ route.dest = e.netNum ∧ route.mask = e.netMask ∧
      HasSent firstLearns.turns m e ∧
      (e.neighborId ≠ 0 → ∃ k p, twoRouters.Opposite m route.interface k p ∧
        (firstLearns.states k).routerId = e.neighborId) := by
  have hlearnt : ∃ e ∈ (firstLearns.states 0).topology, e.neighborId ≠ 0 := by decide +kernel
  obtain ⟨config, hrun, hstates, -, -⟩ := firstLearns_reaches
  obtain ⟨e, he, hid⟩ := hlearnt
  rw [← hstates] at he ⊢
  exact ⟨e, he, hid, topology_sound hrun 0 he⟩

end Cabling

end Redes
