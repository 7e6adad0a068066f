import Redes.Network.Emits
import Redes.Network.Steps

/-!
# What a router knows

The events of a router, in the light of the facts: HELLOs and LSUs are sent and flooded, and
neighbours are recorded.  An event keeps what the state knows true, and all that it sends
bears the facts out, if what it hears does and what the router itself says is among them.

## Main definitions

* `lsuBody`, `Originates` — what the LSUs of a router say.
* `Announces` — the events that send them.

## Main results

* `advertises_of_lsasOfRoutes`, `said_lsuFrame` — the LSU that `send_lsu` builds.
* `emits_sendLsusOut`, `emits_sendHellosOut`, `emits_floodLsuOut` — what is sent.
* `routerStep_emits` — every event bears the facts out.
-/

namespace Redes

open Bytes Logged

/-! ### What an LSU says -/

/-- The number of advertisements, and the advertisements, as they are in an LSU. -/
def lsuBody (lsas : List Lsa) : List UInt8 :=
  bytes32 (UInt32.ofNat lsas.length) ++ lsas.flatMap lsaBytes

/-- What the LSUs say that a router sends in a state. -/
def Originates (s : RouterState) (words : Said) : Prop :=
  ∃ lsas, lsasOfRoutes s.ifList s.routingTable = .ok lsas ∧
    words = ⟨s.routerId, s.sequenceNum, lsuBody lsas⟩

/-- The event sends LSUs, in the state that it has reached then. -/
inductive Announces (s : RouterState) : RouterEvent → RouterState → Prop
  /-- It is time for LSUs. -/
  | allLsu : s.routerId ≠ 0 → Announces s .allLsu s
  /-- There is a new neighbour. -/
  | hello {packet : Frame} {interface : IfName} {heard : Heard} :
      HelloAccepted s packet interface heard →
      ChangesNeighbor ⟨s.ifList, s.neighbors⟩ interface heard →
      Announces s (.receive packet interface)
        (s.withNeighbors (recordHeard interface heard ⟨s.ifList, s.neighbors⟩))

/-- The loop of `send_lsu` advertises the static and connected routes. -/
theorem advertises_of_lsasOfRoutes {ifList : List SrIf} {routingTable : List SrRt}
    {lsas : List Lsa} (h : lsasOfRoutes ifList routingTable = .ok lsas) :
    Advertises ifList routingTable lsas := by
  induction routingTable generalizing lsas with
  | nil =>
    obtain rfl := Except.ok.inj h
    exact .nil
  | cons route rest ih =>
    unfold Advertises
    rw [lsasOfRoutes] at h
    by_cases hbase : route.adminDst ≤ 1
    · rw [if_pos hbase] at h
      rw [List.filter_cons_of_pos (by simpa using hbase)]
      cases hif : srGetInterface ifList route.interface with
      | none =>
        rw [hif] at h
        cases h
      | some i =>
        rw [hif] at h
        obtain ⟨rest', hrest, h⟩ := Fuel.exists_of_bind_eq_ok h
        obtain rfl := Except.ok.inj h
        exact .cons ⟨i, hif, rfl⟩ (ih hrest)
    · rw [if_neg hbase] at h
      rw [List.filter_cons_of_neg (by simpa using hbase)]
      exact ih h

/-- An advertisement is that of a route, and of its interface. -/
theorem Advertises.route {ifList : List SrIf} {routingTable : List SrRt} {lsas : List Lsa}
    (h : Advertises ifList routingTable lsas) {lsa : Lsa} (hlsa : lsa ∈ lsas) :
    ∃ route ∈ routingTable, route.adminDst ≤ 1 ∧ ∃ i,
      srGetInterface ifList route.interface = some i ∧
        lsa = ⟨route.dest, route.mask, i.neighborId⟩ := by
  obtain ⟨k, hk, rfl⟩ := List.mem_iff_getElem.mp hlsa
  obtain ⟨hlen, hget⟩ := List.forall₂_iff_get.mp h
  obtain ⟨hmem, hbase⟩ := List.mem_filter.mp (List.getElem_mem (hlen ▸ hk))
  exact ⟨_, hmem, by simpa using hbase, hget k (hlen ▸ hk) hk⟩

/-- The router is the same when it sends its LSUs. -/
theorem Announces.same {s s₁ : RouterState} {e : RouterEvent} (h : Announces s e s₁) :
    s₁.routerId = s.routerId ∧ s₁.sequenceNum = s.sequenceNum ∧ s.routerId ≠ 0 := by
  cases h with
  | allLsu hrunning => exact ⟨rfl, rfl, hrunning⟩
  | hello hacc _ => exact ⟨rfl, rfl, hacc.running⟩

/-- **The LSU that `send_lsu` builds** says what the state of the router is. -/
theorem said_lsuFrame {sr : SrInstance} {routerId : IpAddr} {sequenceNum ipId : UInt16} {i : SrIf}
    {frame : Frame} (h : lsuFrame sr routerId sequenceNum i ipId = .ok frame) :
    etherType frame = htons ethertypeIp ∧ ospfType frame = ospfTypeLsu ∧
      ∃ lsas, lsasOfRoutes sr.ifList sr.routingTable = .ok lsas ∧
        said frame = ⟨routerId, sequenceNum, lsuBody lsas⟩ := by
  unfold lsuFrame at h
  obtain ⟨lsas, hlsas, h⟩ := Fuel.exists_of_bind_eq_ok h
  obtain rfl := Except.ok.inj h
  have hcount := (advertises_of_lsasOfRoutes hlsas).length_eq
  show etherType (store (store (lsuHeaders sr routerId sequenceNum i ipId) 66 _) 46 _) = _ ∧
    ospfType (store (store (lsuHeaders sr routerId sequenceNum i ipId) 66 _) 46 _) = _ ∧
      ∃ lsas, _ ∧ said (store (store (lsuHeaders sr routerId sequenceNum i ipId) 66 _) 46 _) = _
  have hlen : (lsuHeaders sr routerId sequenceNum i ipId).length = 66 + lsas.length * 12 := by
    rw [length_lsuHeaders, hcount]
  have hbytes : (lsas.flatMap lsaBytes).length = lsas.length * 12 := length_flatMap_lsaBytes lsas
  generalize ospfv2Cksum _ _ = csum
  refine ⟨?_, ?_, lsas, hlsas, ?_⟩
  · rw [etherType, load16_store_of_disjoint (by simp), load16_store_of_disjoint (by simp)]
    unfold lsuHeaders
    exact ((ospfHeaders_spec i routerId ospfTypeLsu ipId i.neighborIp (by simp; omega)).store
      (by decide)).type
  · rw [ospfType, load8_store_of_disjoint (by simp), load8_store_of_disjoint (by simp)]
    unfold lsuHeaders ospfHeaders
    rw [load8_store_of_disjoint (by simp), load8_store_of_disjoint (by simp),
      load8_store_of_disjoint (by simp), load8_store_of_disjoint (by simp)]
    exact load8_store (i := 34) (k := 1) (by simp) (by simp; omega)
  · -- the number of advertisements stands at 62, and they follow at 66
    have hnum : slice (lsuHeaders sr routerId sequenceNum i ipId) 62 4 =
        bytes32 (UInt32.ofNat lsas.length) := by
      unfold lsuHeaders
      rw [store_append, hcount]
      exact slice_store_self (i := 62) (by simp)
    have hdrop : (store (lsuHeaders sr routerId sequenceNum i ipId) 66
        (lsas.flatMap lsaBytes)).drop 62 = lsuBody lsas := by
      have hsplit : ∀ p : Frame, p.drop 62 = slice p 62 4 ++ p.drop 66 := by
        intro p
        rw [slice, ← List.drop_drop (i := 4) (j := 62), List.take_append_drop]
      rw [hsplit, slice_store_of_disjoint (by simp), hnum, drop_store_self (by omega)]
      rfl
    unfold said ospfRid lsuSeq
    rw [load32_store_of_disjoint (by simp), load32_store_of_disjoint (by simp),
      load16_store_of_disjoint (by simp), load16_store_of_disjoint (by simp),
      drop_store (by simp), hdrop]
    exact congrArg₂ (fun r n => Said.mk r n (lsuBody lsas)) (ospfRid_lsuHeaders ..)
      (seq_lsuHeaders ..)

/-! ### What is sent -/

section Sends

variable {facts : Facts} {sr : SrInstance} {routerId : IpAddr} {now : ℤ} {fuel : ℕ} {st : ArpState}

/-- **The LSUs that are sent** say what they should. -/
theorem emits_sendLsusOut {sequenceNum : UInt16} (rand : ℕ → UInt16)
    (htold : ∀ lsas, lsasOfRoutes sr.ifList sr.routingTable = .ok lsas →
      facts.told ⟨routerId, sequenceNum, lsuBody lsas⟩) (h : ArpBears facts st) :
    SendsTrue facts sr.ifList routerId
      (sendLsusOut sr now fuel routerId sequenceNum rand st) := by
  -- an LSU for each interface that has a neighbour
  refine Safe.foldlM ?_ h
  intro s p _ hs
  simp only
  split
  · unfold sendLsuOut
    cases hframe : lsuFrame sr routerId sequenceNum p.1 (rand p.2) with
    | error e => exact .halt e
    | ok frame =>
      obtain ⟨htype, hlsu, lsas, hlsas, hsaid⟩ := said_lsuFrame hframe
      have hwaits : Waits facts frame := by
        refine ⟨htype, fun _ => ⟨hlsu, ?_⟩⟩
        rw [hsaid]
        exact htold lsas hlsas
      simp only
      cases hlook : srArpcacheLookup s.entries p.1.neighborIp with
      | some e => exact emits_srForwardPacketOut hwaits (hs.bound hlook) _ hs
      | none => exact emits_queuereq hwaits _ _ hs
  · exact .pure hs

/-- **The HELLOs that are sent** are about the interfaces. -/
theorem emits_sendHellosOut (rand : ℕ → UInt16) (h : ArpBears facts st) :
    SendsTrue facts sr.ifList routerId (sendHellosOut sr routerId rand st) := by
  -- a HELLO for each interface whose counter is at zero
  refine Safe.foldlM ?_ h
  intro s p hp hs
  simp only
  split
  · exact .pure hs
  · have hmem : p.1 ∈ sr.ifList := List.fst_mem_of_mem_zipIdx hp
    exact emits_send (emits_helloFrame hmem sr.uninit (rand p.2)) hs

/-- **The copies of an LSU** say what it says. -/
theorem emits_floodLsuOut {rx : IfName} {packet : Frame} (hwaits : Waits facts packet)
    (h : ArpBears facts st) :
    SendsTrue facts sr.ifList routerId (floodLsuOut sr now fuel rx packet st) := by
  -- the loop writes into one buffer, so that each copy is made of the one before it
  have hstep : ∀ s : Frame × ArpState, ∀ i ∈ otherInterfaces sr rx,
      Waits facts s.1 ∧ ArpBears facts s.2 →
        Safe (Emits facts (ports sr.ifList) routerId)
          (fun s => Waits facts s.1 ∧ ArpBears facts s.2) (floodStepOut sr now fuel s i) := by
    rintro s i _ ⟨hbuf, hs⟩
    have hcopy : Waits facts (lsuRewrite i s.1) := hbuf.rewritten i
    unfold floodStepOut
    cases hlook : srArpcacheLookup s.2.entries i.neighborIp with
    | some e =>
      simp only
      unfold forwardedFrame
      cases srGetInterface sr.ifList i.name with
      | none => exact .pure ⟨hcopy, hs⟩
      | some out =>
        have hout : Emits facts (ports sr.ifList) routerId
            ⟨readdressed out.addr e.mac (lsuRewrite i s.1), i.name⟩ :=
          hcopy.emits_readdressed (hs.bound hlook) out.addr
        exact (emits_send hout hs).map fun _ hst => ⟨hcopy.forwarded out.addr e.mac, hst⟩
    | none =>
      exact (emits_queuereq hcopy i.neighborIp i.name hs).map fun _ hst => ⟨hcopy, hst⟩
  exact Safe.map (Safe.foldlM hstep ⟨hwaits, h⟩) fun _ hs => hs.2

end Sends

/-! ### What is recorded -/

/-- What an accepted HELLO tells. -/
theorem HelloAccepted.heard_eq {s : RouterState} {packet : Frame} {interface : IfName}
    {heard : Heard} (h : HelloAccepted s packet interface heard) :
    ospfType packet = ospfTypeHello ∧ heard = ⟨ospfRid packet, ipSrc packet⟩ := by
  refine ⟨ospfType_of_read8 h.hello, ?_⟩
  have hheard := h.heard
  unfold srHandlePwospfHelloPacket at hheard
  rw [if_neg (by simp [h.valid])] at hheard
  obtain ⟨nmask, -, hheard⟩ := Fuel.exists_of_bind_eq_ok hheard
  cases hif : srGetInterface s.ifList interface with
  | none =>
    rw [hif] at hheard
    cases hheard
  | some rxIf =>
    rw [hif] at hheard
    simp only at hheard
    split at hheard
    · cases Except.ok.inj hheard
    · obtain ⟨helloint, -, hheard⟩ := Fuel.exists_of_bind_eq_ok hheard
      split at hheard
      · cases Except.ok.inj hheard
      · obtain ⟨rid, hrid, hheard⟩ := Fuel.exists_of_bind_eq_ok hheard
        obtain ⟨src, hsrc, hheard⟩ := Fuel.exists_of_bind_eq_ok hheard
        obtain rfl := Option.some.inj (Except.ok.inj hheard)
        rw [(length_le_of_read32 hrid).2, (length_le_of_read32 hsrc).2]

/-- An interface after a HELLO is one of before, or the one that has the new neighbour. -/
theorem mem_recordHeard {interface : IfName} {heard : Heard} {s : NeighborState} {i : SrIf}
    (h : i ∈ (recordHeard interface heard s).ifList) :
    i ∈ s.ifList ∨ i.name = interface ∧ i.neighborId = heard.neighborId ∧
      i.neighborIp = heard.neighborIp := by
  have hset : ∀ ifList : List SrIf, i ∈ setNeighbor interface heard ifList →
      i ∈ ifList ∨ i.name = interface ∧ i.neighborId = heard.neighborId ∧
        i.neighborIp = heard.neighborIp := by
    intro ifList
    induction ifList with
    | nil => exact fun hi => .inl hi
    | cons j ifs ih =>
      intro hi
      unfold setNeighbor at hi
      split at hi
      · next hname =>
        rcases List.mem_cons.mp hi with rfl | hi
        · exact .inr ⟨hname, rfl, rfl⟩
        · exact .inl (List.mem_cons_of_mem j hi)
      · rcases List.mem_cons.mp hi with rfl | hi
        · exact .inl List.mem_cons_self
        · exact (ih hi).imp_left (List.mem_cons_of_mem j)
  unfold recordHeard at h
  simp only at h
  split at h
  · exact hset s.ifList h
  · exact .inl h

/-! ### Events -/

/-- Only frames that bear the facts out are sent, and the state bears them out afterwards. -/
abbrev StepTrue (facts : Facts) (s : RouterState) (x : Sending RouterState) : Prop :=
  Safe (Emits facts (ports s.ifList) s.routerId) (Bears facts) x

section Events

variable {facts : Facts} {env : Env} {s : RouterState}

theorem bears_init (ifList : List SrIf) (routingTable : List SrRt)
    (hnone : ∀ i ∈ ifList, i.neighborId = 0) : Bears facts (routerInit ifList routingTable) where
  arp := arpBears_init
  neighbors := fun i hi hid => absurd (hnone i hi) hid
  rxLsus := fun _ hl => absurd hl List.not_mem_nil

theorem Bears.withArp (h : Bears facts s) {st : ArpState} (hst : ArpBears facts st) :
    Bears facts (s.withArp st) := ⟨hst, h.neighbors, h.rxLsus⟩

/-- **A HELLO that is heard tells who is near.** -/
theorem Bears.heard (h : Bears facts s) {packet : Frame} {interface : IfName} {heard : Heard}
    (hacc : HelloAccepted s packet interface heard) (hears : Hears facts interface packet) :
    Bears facts (s.withNeighbors (recordHeard interface heard ⟨s.ifList, s.neighbors⟩)) := by
  obtain ⟨htype, rfl⟩ := hacc.heard_eq
  refine ⟨h.arp, ?_, h.rxLsus⟩
  intro i hi hid
  rcases mem_recordHeard hi with hi | ⟨rfl, hnid, hnip⟩
  · exact h.neighbors i hi hid
  · rw [hnid, hnip]
    exact hears.hello hacc.ip hacc.ospf htype

theorem emits_sendAllLsu (h : Bears facts s)
    (htold : ∀ words, Originates s words → facts.told words) :
    StepTrue facts s (sendAllLsu env s) := by
  have htrue : SendsTrue facts (s.srInstance env).ifList s.routerId (sendLsusOut
      (s.srInstance env) env.now env.fuel s.routerId s.sequenceNum env.rand s.arp) :=
    emits_sendLsusOut env.rand
      (fun lsas hlsas => htold _ ⟨lsas, hlsas, rfl⟩) h.arp
  exact htrue.map fun st hst => ⟨hst, h.neighbors, h.rxLsus⟩

theorem emits_srHandlePwospfPacketOut (h : Bears facts s) {packet : Frame} {interface : IfName}
    (hvalid : isPacketValid packet = true) (hip : etherType packet = htons ethertypeIp)
    (hospf : ipP packet = ipProtocolOspfv2) (hears : Hears facts interface packet)
    (htold : ∀ s₁ words, Announces s (.receive packet interface) s₁ → Originates s₁ words →
      facts.told words) :
    StepTrue facts s (srHandlePwospfPacketOut env interface s packet
      (srGetInterface s.ifList interface)) := by
  unfold srHandlePwospfPacketOut
  split
  · exact .pure h
  · next hrunning =>
    cases hread : read8 packet 35 with
    | error e => exact .halt e
    | ok type =>
      simp only
      split
      · next hhello =>
        unfold srHandlePwospfHelloPacketOut
        cases hheard : srHandlePwospfHelloPacket packet (srGetInterface s.ifList interface) with
        | error e => exact .halt e
        | ok heard =>
          cases heard with
          | none => exact .pure h
          | some heard =>
            have hacc : HelloAccepted s packet interface heard :=
              ⟨hvalid, hip, hospf, hrunning, hhello ▸ hread, hheard⟩
            have hbears := h.heard hacc hears
            simp only
            split
            · next hnew =>
              -- the neighbour is recorded before the LSUs are sent
              have hports : ports (s.withNeighbors
                  (recordHeard interface heard ⟨s.ifList, s.neighbors⟩)).ifList =
                    ports s.ifList := ports_recordHeard interface heard ⟨s.ifList, s.neighbors⟩
              have htrue : StepTrue facts _ (sendAllLsu env _) := emits_sendAllLsu hbears
                fun words hwords => htold _ words (.hello hacc hnew) hwords
              rw [StepTrue, hports] at htrue
              exact htrue
            · exact .pure hbears
      · split
        · next hlsu =>
          cases hcopy : copyToRxLsuParam packet with
          | error e => exact .halt e
          | ok copy =>
            obtain ⟨rfl, -⟩ := copyToRxLsuParam_eq_ok hcopy
            have htype : ospfType copy = ospfTypeLsu := (ospfType_of_read8 hread).trans hlsu
            refine .pure ⟨h.arp, h.neighbors, ?_⟩
            intro l hl
            rcases List.mem_append.mp hl with hl | hl
            · exact h.rxLsus l hl
            · rw [List.mem_singleton.mp hl]
              exact ⟨hospf, hip, fun _ => ⟨htype, hears.lsu hip hospf htype⟩⟩
        · exact .pure h

theorem emits_srHandlepacket (h : Bears facts s) {packet : Frame} {interface : IfName}
    (hears : Hears facts interface packet)
    (htold : ∀ s₁ words, Announces s (.receive packet interface) s₁ → Originates s₁ words →
      facts.told words) :
    StepTrue facts s (srHandlepacket env packet interface s) := by
  unfold srHandlepacket
  split
  · next hvalid =>
    split
    · next harp =>
      have htrue : SendsTrue facts s.ifList s.routerId
          (srHandleArpPacketOut (s.srInstance env) env.now packet s.arp) :=
        emits_srHandleArpPacketOut ((isPacketValid_arp_iff harp).mp hvalid) harp
          (hears.arp harp) h.arp
      exact htrue.map fun st hst => h.withArp hst
    · split
      · next hip =>
        unfold srHandleIpPacketOut
        split
        · exact .pure h
        · split
          · exact .pure h
          · split
            · next hospf => exact emits_srHandlePwospfPacketOut h hvalid hip hospf hears htold
            · next hproto =>
              have htrue : SendsTrue facts s.ifList s.routerId (srHandleOtherPacketOut
                  (s.srInstance env) env.now env.fuel packet interface s.arp) :=
                emits_srHandleOtherPacketOut (length_of_isPacketValid hvalid) hip hproto h.arp
              exact htrue.map fun st hst => h.withArp hst
      · exact .pure h
  · exact .pure h

theorem emits_srHandlePwospfLsuPacketOut (h : Bears facts s) {l : RxLsu}
    (hl : Waits facts l.packet) : StepTrue facts s (srHandlePwospfLsuPacketOut env l s) := by
  unfold srHandlePwospfLsuPacketOut
  split
  · exact .halt _
  · exact .pure h
  · have htrue : SendsTrue facts s.ifList s.routerId (floodLsuOut (s.srInstance env) env.now
        env.fuel l.interface l.packet s.arp) := emits_floodLsuOut hl h.arp
    exact htrue.map fun st hst => ⟨hst, h.neighbors, h.rxLsus⟩

theorem StepTrue.whenRunning (h : Bears facts s) {x : Sending RouterState}
    (hx : s.routerId ≠ 0 → StepTrue facts s x) : StepTrue facts s (whenRunning s x) := by
  unfold Redes.whenRunning
  split
  · exact .pure h
  · next hrunning => exact hx hrunning

/-- **Every event bears the facts out**: if what is received does, and what the router says itself
is among them, so do the frames that are sent and the state afterwards. -/
theorem routerStep_emits {e : RouterEvent} (h : Bears facts s)
    (hears : ∀ packet interface, e = .receive packet interface → Hears facts interface packet)
    (htold : ∀ s₁ words, Announces s e s₁ → Originates s₁ words → facts.told words) :
    StepTrue facts s (routerStep env s e) := by
  cases e with
  | receive packet interface => exact emits_srHandlepacket h (hears packet interface rfl) htold
  | rxLsu k =>
    simp only [routerStep]
    cases hl : s.rxLsus[k]? with
    | none => exact .pure h
    | some l =>
      -- the thread takes the LSU that it was started for
      have hrest : Bears facts { s with rxLsus := s.rxLsus.eraseIdx k } :=
        ⟨h.arp, h.neighbors, fun l' hl' => h.rxLsus l' (List.mem_of_mem_eraseIdx hl')⟩
      have hwaits := (h.rxLsus l (List.mem_of_getElem? hl)).2
      exact emits_srHandlePwospfLsuPacketOut (s := { s with rxLsus := s.rxLsus.eraseIdx k })
        hrest hwaits
  | arpTimeout =>
    have htrue : SendsTrue facts s.ifList s.routerId (srArpcacheTimeoutOut (s.srInstance env)
        env.now env.fuel s.arp) := emits_srArpcacheTimeoutOut h.arp
    exact htrue.map fun st hst => h.withArp hst
  | run =>
    refine .pure ?_
    unfold pwospfRunThread
    split
    · exact h
    · exact ⟨h.arp, h.neighbors, h.rxLsus⟩
  | hellos =>
    refine StepTrue.whenRunning h fun _ => ?_
    have htrue : SendsTrue facts s.ifList s.routerId (sendHellosOut (s.srInstance env) s.routerId
        env.rand s.arp) := emits_sendHellosOut env.rand h.arp
    refine htrue.map fun st hst => ⟨hst, ?_, h.rxLsus⟩
    intro i hi hid
    obtain ⟨j, hj, rfl⟩ := List.mem_map.mp hi
    have hsame : j.tick.name = j.name ∧ j.tick.neighborId = j.neighborId ∧
        j.tick.neighborIp = j.neighborIp := by
      unfold SrIf.tick
      split <;> exact ⟨rfl, rfl, rfl⟩
    rw [hsame.1, hsame.2.1, hsame.2.2]
    exact h.neighbors j hj (hsame.2.1 ▸ hid)
  | allLsu =>
    exact StepTrue.whenRunning h fun hrunning =>
      emits_sendAllLsu h fun words => htold s words (.allLsu hrunning)
  | neighborsLife =>
    refine StepTrue.whenRunning h fun _ => .pure ⟨h.arp, ?_, h.rxLsus⟩
    intro i hi hid
    -- an interface whose neighbour is cleared tells nothing
    obtain ⟨j, hj, rfl | rfl⟩ := mem_checkNeighborsLife hi
    · exact h.neighbors i hj hid
    · exact absurd rfl hid
  | topologyAge => exact StepTrue.whenRunning h fun _ => .pure ⟨h.arp, h.neighbors, h.rxLsus⟩
  | routes routingTable => exact .pure ⟨h.arp, h.neighbors, h.rxLsus⟩

end Events

end Redes
