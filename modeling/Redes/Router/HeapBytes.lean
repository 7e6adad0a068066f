import Redes.Pwospf.RoundTrip
import Redes.Router.IcmpError
import Redes.Router.System

/-!
# What `malloc` left in the frames

The frames that the router builds itself are written field by field into blocks of `malloc`.
What a block held before is in the frame wherever no field is written.  An ARP request has
every field written.  The length of the OSPF header of a HELLO and an LSU is not, nor are
the four bytes of an ICMP error behind its checksum.

## Main definitions

* `arpRequestTurn`, `srArpRequestSendOut` — ARP requests, built in one block.
* `FrameBuilder`, `FrameBuilder.run` — the calls that build frames.
* `SameFrames`, `HidesHeap` — two runs, with different bytes in memory, pass the same frames.
* `FrameBuilder.Clean` — the calls that build an ARP request, or no frame.

## Main results

* `srArpRequestSendOut_eq` — nothing of the block is left in an ARP request.
* `load8_helloFrame`, `load8_lsuFrame`, `load8_icmpErrorFrame` — a byte that is left.
* `hidesHeap_iff` — which calls hide what was in memory.
-/

namespace Redes

open Bytes Logged

/-! ### ARP requests -/

/-- One turn of the loop of `sr_arp_request_send`: everything but the destination is written,
over what the last turn has left. -/
def arpRequestTurn (ip : IpAddr) (arpPacket : Frame) (currIf : SrIf) : Frame :=
  let arpPacket := store arpPacket 6 currIf.addr.bytes
  let arpPacket := store arpPacket 12 (bytes16 (htons ethertypeArp))
  -- hardware and protocol type, address lengths, operation
  let arpPacket := store arpPacket 14 (bytes16 (htons 1))
  let arpPacket := store arpPacket 16 (bytes16 (htons 2048))
  let arpPacket := store arpPacket 18 [6]
  let arpPacket := store arpPacket 19 [4]
  let arpPacket := store arpPacket 20 (bytes16 (htons arpOpRequest))
  -- sender, target
  let arpPacket := store arpPacket 22 currIf.addr.bytes
  let arpPacket := store arpPacket 32 (generateEthernetAddr 0).bytes
  let arpPacket := store arpPacket 28 (bytes32 currIf.ip)
  store arpPacket 38 (bytes32 ip)

/-- One turn with what it sends: a copy of the block. -/
def arpRequestTurnOut (ip : IpAddr) (s : Frame × ArpState) (currIf : SrIf) :
    Sending (Frame × ArpState) :=
  let arpPacket := arpRequestTurn ip s.1 currIf
  (s.2.send arpPacket currIf.name).map fun st => (arpPacket, st)

/-- `sr_arp_request_send`, with what it sends. -/
def srArpRequestSendOut (sr : SrInstance) (ip : IpAddr) (st : ArpState) : Sending ArpState :=
  let arpPacket := (List.range (14 + 28)).map sr.uninit
  let arpPacket := store arpPacket 0 (generateEthernetAddr 255).bytes
  (sr.ifList.foldlM (arpRequestTurnOut ip) (arpPacket, st)).map Prod.snd

/-- A block that is to become an ARP request. -/
structure ArpBlock (arpPacket : Frame) : Prop where
  /-- It has the size of an ARP packet. -/
  length_eq : arpPacket.length = 14 + 28
  /-- It is for everybody. -/
  dhost : arpPacket.take 6 = (generateEthernetAddr 255).bytes

/-- The ARP request of one turn is the block of the next. -/
theorem arpBlock_arpRequestFrame (i : SrIf) (ip : IpAddr) : ArpBlock (arpRequestFrame i ip) := by
  have hm := i.addr.length_eq
  have hb := (generateEthernetAddr 255).length_eq
  have hz := (generateEthernetAddr 0).length_eq
  refine ⟨by simp [arpRequestFrame, hm, hb, hz], ?_⟩
  unfold arpRequestFrame
  simp only [List.append_assoc]
  exact List.take_left' hb

/-- **A turn leaves nothing of the block** but the destination. -/
theorem ArpBlock.turn {arpPacket : Frame} (h : ArpBlock arpPacket) (ip : IpAddr) (i : SrIf) :
    arpRequestTurn ip arpPacket i = arpRequestFrame i ip := by
  have hm := i.addr.length_eq
  have hz := (generateEthernetAddr 0).length_eq
  have hlen := h.length_eq
  -- in the order of the fields, the writes are one write from 6 on
  have hone : arpRequestTurn ip arpPacket i = store arpPacket 6 (i.addr.bytes ++
      (bytes16 (htons ethertypeArp) ++ (bytes16 (htons 1) ++ (bytes16 (htons 2048) ++
      ([6] ++ ([4] ++ (bytes16 (htons arpOpRequest) ++ (i.addr.bytes ++ (bytes32 i.ip ++
      ((generateEthernetAddr 0).bytes ++ bytes32 ip)))))))))) := by
    unfold arpRequestTurn
    simp only
    rw [store_comm (i := 32) (j := 28) (.inr (by simp))]
    simp only [store_append, hm, hz, length_bytes16, length_bytes32, List.length_singleton]
  have hdrop : (arpRequestTurn ip arpPacket i).drop 6 = (arpRequestFrame i ip).drop 6 := by
    rw [hone, drop_store_self (by simp [hm, hz, hlen])]
    unfold arpRequestFrame
    simp only [List.append_assoc]
    rw [List.drop_left' (generateEthernetAddr 255).length_eq]
    rfl
  have htake : (arpRequestTurn ip arpPacket i).take 6 = (arpRequestFrame i ip).take 6 := by
    rw [(arpBlock_arpRequestFrame i ip).dhost, ← h.dhost, hone]
    apply List.ext_getElem?
    intro k
    rw [List.getElem?_take, List.getElem?_take]
    split
    · rw [getElem?_store_of_disjoint (.inl ‹_›)]
    · rfl
  rw [← List.take_append_drop 6 (arpRequestTurn ip arpPacket i), htake, hdrop,
    List.take_append_drop]

theorem arpBlock_malloc (uninit : ℕ → UInt8) : ArpBlock
    (store ((List.range (14 + 28)).map uninit) 0 (generateEthernetAddr 255).bytes) := by
  have hb := (generateEthernetAddr 255).length_eq
  have hself : slice (store ((List.range (14 + 28)).map uninit) 0
      (generateEthernetAddr 255).bytes) 0 (generateEthernetAddr 255).bytes.length =
        (generateEthernetAddr 255).bytes := slice_store_self (by simp [hb])
  refine ⟨by simp, ?_⟩
  rwa [hb, slice, List.drop_zero] at hself

/-- **Nothing of the block is left in an ARP request**: what is sent is what `handle_arpreq` was
said to send. -/
theorem srArpRequestSendOut_eq (sr : SrInstance) (ip : IpAddr) (st : ArpState) :
    srArpRequestSendOut sr ip st =
      emit (sr.ifList.map fun i => ⟨arpRequestFrame i ip, i.name⟩) (srArpRequestSend sr ip st) := by
  have hloop : ∀ (ifList : List SrIf) (arpPacket : Frame) (st : ArpState), ArpBlock arpPacket →
      (ifList.foldlM (arpRequestTurnOut ip) (arpPacket, st)).map Prod.snd =
        emit (ifList.map fun i => ⟨arpRequestFrame i ip, i.name⟩)
          (ifList.foldl (fun st i => st.note (.output (arpRequestFrame i ip) i.name)) st) := by
    intro ifList
    induction ifList with
    | nil => exact fun _ _ _ => rfl
    | cons i rest ih =>
      intro arpPacket st hblock
      have hturn : arpRequestTurnOut ip (arpPacket, st) i = emit [⟨arpRequestFrame i ip, i.name⟩]
          (arpRequestFrame i ip, st.note (.output (arpRequestFrame i ip) i.name)) := by
        unfold arpRequestTurnOut
        simp only
        rw [hblock.turn]
        rfl
      have hrest := ih (arpRequestFrame i ip) (st.note (.output (arpRequestFrame i ip) i.name))
        (arpBlock_arpRequestFrame i ip)
      rw [List.foldlM_cons, hturn, map_emit_bind, hrest]
      rfl
  exact hloop sr.ifList _ st (arpBlock_malloc sr.uninit)

/-! ### The calls that build frames -/

/-- `send_lsu`, with what it sends, where `handle` is called for the request of a frame that was
queued. -/
def sendLsuWith (sr : SrInstance) (handle : ℕ → ArpState → Sending ArpState) (routerId : IpAddr)
    (sequenceNum : UInt16) (i : SrIf) (ipId : UInt16) (st : ArpState) : Sending ArpState :=
  match lsuFrame sr routerId sequenceNum i ipId with
  | .error e => halt e
  | .ok frame =>
      match srArpcacheLookup st.entries i.neighborIp with
      | some arpEntry => srForwardPacketOut sr frame arpEntry.mac i.name st
      | none =>
          let (st, addr) := srArpcacheQueuereq i.neighborIp frame i.name st
          handle addr st

theorem sendLsuOut_eq (sr : SrInstance) (now : ℤ) (fuel : ℕ) (routerId : IpAddr)
    (sequenceNum : UInt16) (i : SrIf) (ipId : UInt16) (st : ArpState) :
    sendLsuOut sr now fuel routerId sequenceNum i ipId st =
      sendLsuWith sr (handleArpreqOut sr now fuel) routerId sequenceNum i ipId st := rfl

/-- A call of one of the functions that build a frame of their own. -/
inductive FrameBuilder
  /-- `sr_send_icmp_error_packet`. -/
  | icmpError (type code : UInt8) (ipDst : IpAddr) (buf : Frame) (off : ℕ)
  /-- `sr_arp_request_send`. -/
  | arpRequest (ip : IpAddr)
  /-- `send_hello_packet`; `ipId` is a number of `rand`. -/
  | hello (i : SrIf) (ipId : UInt16)
  /-- `send_lsu`; `ipId` is a number of `rand`. -/
  | lsu (i : SrIf) (ipId : UInt16)

/-- What the call does.  It ends where it would handle the request of a frame that it has queued:
the frames that are built there are built by other calls. -/
def FrameBuilder.run (env : Env) (s : RouterState) : FrameBuilder → Sending ArpState
  | .icmpError type code ipDst buf off =>
      srSendIcmpErrorPacketOut (s.srInstance env) (fun _ st => pure st) type code ipDst buf off
        s.arp
  | .arpRequest ip => srArpRequestSendOut (s.srInstance env) ip s.arp
  | .hello i ipId => s.arp.send (helloFrame env.uninit s.routerId i ipId) i.name
  | .lsu i ipId =>
      sendLsuWith (s.srInstance env) (fun _ st => pure st) s.routerId s.sequenceNum i ipId s.arp

/-- The same surroundings with other bytes in the blocks of `malloc`. -/
def Env.withUninit (env : Env) (uninit : ℕ → UInt8) : Env := { env with uninit := uninit }

/-- The frames that were queued in a history, as `sr_arp_reply_send_pending_packets` sends them
once the address they wait for is learnt. -/
def queuedFrames (shost dhost : Mac) (trace : List ArpEvent) : List Frame :=
  trace.filterMap fun
    | .queued p _ _ => some (readdressed shost dhost p.buf)
    | _ => none

theorem queuedFrames_queued (shost dhost : Mac) (p : QueuedPacket) (addr : ℕ) (ip : IpAddr)
    (trace : List ArpEvent) : queuedFrames shost dhost (.queued p addr ip :: trace) =
      readdressed shost dhost p.buf :: queuedFrames shost dhost trace := rfl

/-- Two computations pass the same frames to `sr_send_packet`, at once and when the addresses are
learnt. -/
def SameFrames {σ : Type} (arp : σ → ArpState) (x y : Sending σ) : Prop :=
  x.log = y.log ∧ ∀ shost dhost, (x.ending.map fun s => queuedFrames shost dhost (arp s).trace) =
    y.ending.map fun s => queuedFrames shost dhost (arp s).trace

/-- Whatever the blocks of `malloc` hold, the same frames are passed. -/
def HidesHeap {σ : Type} (arp : σ → ArpState) (run : (ℕ → UInt8) → Sending σ) : Prop :=
  ∀ uninit uninit', SameFrames arp (run uninit) (run uninit')

/-- The calls that build nothing but ARP requests: an ICMP error has no route, or is for the
router itself; an LSU is about a route without an interface, or leaves through no interface. -/
def FrameBuilder.Clean (s : RouterState) : FrameBuilder → Prop
  | .icmpError _ _ ipDst _ _ => (∃ i ∈ s.ifList, i.ip = ipDst) ∨
      ∀ rtMatch ∈ srFindRtEntry s.routingTable ipDst,
        srGetInterface s.ifList rtMatch.interface = none
  | .arpRequest _ => True
  | .hello _ _ => False
  | .lsu i _ =>
      (∃ route ∈ s.routingTable, route.adminDst ≤ 1 ∧
        srGetInterface s.ifList route.interface = none) ∨
      (srArpcacheLookup s.arp.entries i.neighborIp ≠ none ∧
        srGetInterface s.ifList i.name = none)

/-! ### Bytes that are left -/

/-- A byte behind the Ethernet addresses is the one that was in memory. -/
def Leaks (frame : (ℕ → UInt8) → Frame) : Prop := ∃ k, 12 ≤ k ∧ ∀ uninit,
  load8 (frame uninit) k = uninit k

section Leaks

variable {frame : (ℕ → UInt8) → Frame}

/-- It is still there when the destination is written. -/
theorem Leaks.store_dhost (h : Leaks frame) (mac : Mac) :
    Leaks fun uninit => store (frame uninit) 0 mac.bytes := by
  obtain ⟨k, hk, hload⟩ := h
  have hm := mac.length_eq
  refine ⟨k, hk, ?_⟩
  intro uninit
  rw [load8_store_of_disjoint (by omega), hload]

/-- It is still there when the frame is readdressed. -/
theorem Leaks.readdressed (h : Leaks frame) (shost dhost : Mac) :
    Leaks fun uninit => readdressed shost dhost (frame uninit) := by
  obtain ⟨k, hk, hload⟩ := h
  refine ⟨k, hk, ?_⟩
  intro uninit
  rw [load8_readdressed hk, hload]

/-- **Two runs can be told apart** by it. -/
theorem Leaks.ne (h : Leaks frame) : frame (fun _ => 0) ≠ frame fun _ => 1 := by
  obtain ⟨k, -, hload⟩ := h
  intro heq
  have hzero := hload fun _ => 0
  rw [heq, hload fun _ => 1] at hzero
  exact absurd hzero (by decide)

variable {σ : Type} {arp : σ → ArpState} {run : (ℕ → UInt8) → Sending σ}

/-- What is sent shows. -/
theorem Leaks.not_hidesHeap_of_log (h : Leaks frame) {iface : IfName}
    (hrun : ∀ uninit, (run uninit).log = [⟨frame uninit, iface⟩]) : ¬ HidesHeap arp run := by
  intro hhides
  have hlog := (hhides (fun _ => 0) fun _ => 1).1
  rw [hrun, hrun] at hlog
  injection hlog with hout
  injection hout with hframe
  exact h.ne hframe

/-- What is queued shows when it is sent. -/
theorem Leaks.not_hidesHeap_queuereq (h : Leaks frame) (hne : ∀ uninit, frame uninit ≠ [])
    (ip : IpAddr) (iface : IfName) (st : ArpState) : ¬ HidesHeap id fun uninit =>
      (pure (srArpcacheQueuereq ip (frame uninit) iface st).1 : Sending ArpState) := by
  intro hhides
  have hqueued := (hhides (fun _ => 0) fun _ => 1).2 (generateEthernetAddr 0)
    (generateEthernetAddr 0)
  injection hqueued with hqueued
  simp only [id, queuereq_trace (hne _), queuedFrames_queued] at hqueued
  injection hqueued with hframe
  exact (h.readdressed _ _).ne hframe

end Leaks

/-- The length of the OSPF header is not set. -/
theorem load8_ospfHeaders_len (i : SrIf) (routerId : IpAddr) (type : UInt8) (ipId : UInt16)
    (ipDst : IpAddr) (frame : Frame) :
    load8 (ospfHeaders i routerId type ipId ipDst frame) 36 = load8 frame 36 := by
  have hm := i.addr.length_eq
  unfold ospfHeaders
  simp only
  rw [load8_store_of_disjoint (by simp), load8_store_of_disjoint (by simp),
    load8_store_of_disjoint (by simp), load8_store_of_disjoint (by simp),
    load8_store_of_disjoint (by simp), load8_store_of_disjoint (by simp),
    load8_store_of_disjoint (by simp), load8_store_of_disjoint (by simp),
    load8_store_of_disjoint (by simp), load8_store_of_disjoint (by omega)]

/-- A new block holds what was in memory. -/
theorem load8_malloc (uninit : ℕ → UInt8) {n k : ℕ} (h : k < n) :
    load8 ((List.range n).map uninit) k = uninit k := by
  simp [load8, List.getD_eq_getElem?_getD, h]

/-- The length of the OSPF header of a HELLO is what was in memory. -/
theorem load8_helloFrame (uninit : ℕ → UInt8) (routerId : IpAddr) (i : SrIf) (ipId : UInt16) :
    load8 (helloFrame uninit routerId i ipId) 36 = uninit 36 := by
  unfold helloFrame
  simp only
  rw [load8_store_of_disjoint (by simp), load8_store_of_disjoint (by simp),
    load8_ospfHeaders_len, load8_store_of_disjoint (.inr (by decide)), load8_malloc _ (by decide)]

/-- So is that of an LSU. -/
theorem load8_lsuFrame {sr : SrInstance} {routerId : IpAddr} {sequenceNum ipId : UInt16} {i : SrIf}
    {frame : Frame} (h : lsuFrame sr routerId sequenceNum i ipId = .ok frame) :
    load8 frame 36 = sr.uninit 36 := by
  unfold lsuFrame at h
  obtain ⟨lsas, -, h⟩ := Fuel.exists_of_bind_eq_ok h
  cases h
  rw [load8_store_of_disjoint (by simp), load8_store_of_disjoint (.inl (by decide)),
    load8_store_of_disjoint (by simp), load8_ospfHeaders_len, load8_malloc _ (by omega)]

/-- A byte behind the checksum of an ICMP error is what was in memory. -/
theorem load8_icmpErrorFrame (sr : SrInstance) (type code : UInt8) (outIface : SrIf)
    (buf : Frame) (off : ℕ) :
    load8 (icmpErrorFrame sr type code outIface buf off) 38 = sr.uninit 38 := by
  have hm := outIface.addr.length_eq
  unfold icmpErrorFrame
  simp only
  rw [load8_store_of_disjoint (by simp), load8_store_of_disjoint (by simp),
    load8_store_of_disjoint (by simp), load8_store_of_disjoint (by simp),
    load8_store_of_disjoint (by simp), load8_store_of_disjoint (by simp),
    load8_store_of_disjoint (by simp), load8_store_of_disjoint (by simp),
    load8_store_of_disjoint (by omega), load8_malloc _ (by decide)]

/-! ### Which calls hide what was in memory -/

section Builders

variable (env : Env) (s : RouterState)

/-- A call that does not look at the blocks hides what they hold. -/
theorem hidesHeap_of_const {σ : Type} {arp : σ → ArpState} {run : (ℕ → UInt8) → Sending σ}
    (x : Sending σ) (h : ∀ uninit, run uninit = x) : HidesHeap arp run := by
  intro uninit uninit'
  rw [h uninit, h uninit']
  exact ⟨rfl, fun _ _ => rfl⟩

@[simp] theorem srInstance_withUninit_ifList (uninit : ℕ → UInt8) :
    (s.srInstance (env.withUninit uninit)).ifList = s.ifList := rfl

@[simp] theorem srInstance_withUninit_routingTable (uninit : ℕ → UInt8) :
    (s.srInstance (env.withUninit uninit)).routingTable = s.routingTable := rfl

/-- Whether an ICMP error is sent does not depend on what is in memory. -/
theorem icmpErrorRoute_withUninit (uninit : ℕ → UInt8) (ipDst : IpAddr) :
    icmpErrorRoute (s.srInstance (env.withUninit uninit)) ipDst =
      icmpErrorRoute (s.srInstance env) ipDst := rfl

theorem clean_icmpError_iff (type code : UInt8) (ipDst : IpAddr) (buf : Frame) (off : ℕ) :
    (FrameBuilder.icmpError type code ipDst buf off).Clean s ↔
      icmpErrorRoute (s.srInstance env) ipDst = none := by
  show ((∃ i ∈ s.ifList, i.ip = ipDst) ∨ ∀ rtMatch ∈ srFindRtEntry s.routingTable ipDst,
    srGetInterface s.ifList rtMatch.interface = none) ↔ _
  unfold icmpErrorRoute RouterState.srInstance
  by_cases hmine : ∃ i ∈ s.ifList, i.ip = ipDst
  · have hany : (s.ifList.any fun i => i.ip = ipDst) = true := by simpa using hmine
    simp only [hany, if_true, hmine, true_or]
  · have hany : (s.ifList.any fun i => i.ip = ipDst) = false := by simpa using hmine
    simp only [hany, hmine, false_or, Bool.false_eq_true, if_false]
    cases srFindRtEntry s.routingTable ipDst <;> simp

/-- **ICMP errors show what was in memory.** -/
theorem hidesHeap_icmpError_iff (type code : UInt8) (ipDst : IpAddr) (buf : Frame) (off : ℕ) :
    HidesHeap id (fun uninit =>
      (FrameBuilder.icmpError type code ipDst buf off).run (env.withUninit uninit) s) ↔
        (FrameBuilder.icmpError type code ipDst buf off).Clean s := by
  have hleaks : ∀ outIface, Leaks fun uninit =>
      icmpErrorFrame (s.srInstance (env.withUninit uninit)) type code outIface buf off :=
    fun outIface => ⟨38, by decide, fun _ => load8_icmpErrorFrame _ _ _ _ _ _⟩
  rw [clean_icmpError_iff env]
  simp only [FrameBuilder.run]
  unfold srSendIcmpErrorPacketOut
  simp only [icmpErrorRoute_withUninit]
  cases icmpErrorRoute (s.srInstance env) ipDst with
  | none => exact iff_of_true (hidesHeap_of_const (pure s.arp) fun _ => rfl) rfl
  | some hopIf =>
    obtain ⟨hop, outIface⟩ := hopIf
    refine iff_of_false ?_ (by simp)
    cases harp : srArpcacheLookup s.arp.entries hop with
    | some e =>
      simp only [harp]
      exact ((hleaks outIface).store_dhost e.mac).not_hidesHeap_of_log fun _ => rfl
    | none =>
      simp only [harp]
      exact (hleaks outIface).not_hidesHeap_queuereq
        (fun _ => icmpErrorFrame_ne_nil _ _ _ _ _ _) hop outIface.name s.arp

/-- **HELLOs show what was in memory.** -/
theorem not_hidesHeap_hello (i : SrIf) (ipId : UInt16) :
    ¬ HidesHeap id fun uninit => (FrameBuilder.hello i ipId).run (env.withUninit uninit) s := by
  have hleaks : Leaks fun uninit => helloFrame uninit s.routerId i ipId :=
    ⟨36, by decide, fun _ => load8_helloFrame _ _ _ _⟩
  exact hleaks.not_hidesHeap_of_log fun _ => rfl

/-- A route without an interface ends `send_lsu`. -/
theorem lsasOfRoutes_error {ifList : List SrIf} {routingTable : List SrRt}
    (h : ∃ route ∈ routingTable, route.adminDst ≤ 1 ∧
      srGetInterface ifList route.interface = none) :
    lsasOfRoutes ifList routingTable = .error .nullPointer := by
  induction routingTable with
  | nil =>
    obtain ⟨route, hroute, -⟩ := h
    exact absurd hroute List.not_mem_nil
  | cons first rest ih =>
    obtain ⟨route, hroute, hbase, hnone⟩ := h
    unfold lsasOfRoutes
    rcases List.mem_cons.mp hroute with rfl | hroute
    · rw [if_pos hbase, hnone]
    · rw [ih ⟨route, hroute, hbase, hnone⟩]
      split
      · split <;> rfl
      · rfl

theorem lsuFrame_error {sr : SrInstance} (h : ∃ route ∈ sr.routingTable, route.adminDst ≤ 1 ∧
      srGetInterface sr.ifList route.interface = none) (routerId : IpAddr)
    (sequenceNum : UInt16) (i : SrIf) (ipId : UInt16) :
    lsuFrame sr routerId sequenceNum i ipId = .error .nullPointer := by
  unfold lsuFrame
  rw [lsasOfRoutes_error h]
  rfl

theorem exists_lsuFrame {sr : SrInstance} (h : ¬ ∃ route ∈ sr.routingTable, route.adminDst ≤ 1 ∧
      srGetInterface sr.ifList route.interface = none) (routerId : IpAddr)
    (sequenceNum : UInt16) (i : SrIf) (ipId : UInt16) :
    ∃ frame, lsuFrame sr routerId sequenceNum i ipId = .ok frame ∧ frame ≠ [] := by
  obtain ⟨lsas, hlsas, -⟩ := exists_lsasOfRoutes fun route hroute hbase hnone =>
    h ⟨route, hroute, hbase, hnone⟩
  unfold lsuFrame
  rw [hlsas]
  refine ⟨_, rfl, List.ne_nil_of_length_pos ?_⟩
  rw [length_store, length_store, length_store, length_ospfHeaders, List.length_map,
    List.length_range]
  omega

/-- **LSUs show what was in memory.** -/
theorem hidesHeap_lsu_iff (i : SrIf) (ipId : UInt16) :
    HidesHeap id (fun uninit => (FrameBuilder.lsu i ipId).run (env.withUninit uninit) s) ↔
      (FrameBuilder.lsu i ipId).Clean s := by
  show HidesHeap id (fun uninit => sendLsuWith (s.srInstance (env.withUninit uninit)) _ _ _ _ _ _) ↔
    ((∃ route ∈ s.routingTable, _) ∨ (_ ∧ _))
  unfold sendLsuWith
  by_cases hroutes : ∃ route ∈ s.routingTable, route.adminDst ≤ 1 ∧
      srGetInterface s.ifList route.interface = none
  · -- no frame is built
    refine iff_of_true (hidesHeap_of_const (halt .nullPointer) ?_) (.inl hroutes)
    intro uninit
    rw [lsuFrame_error hroutes]
  · have hframe : ∀ uninit, ∃ frame, lsuFrame (s.srInstance (env.withUninit uninit)) s.routerId
        s.sequenceNum i ipId = .ok frame ∧ frame ≠ [] := fun uninit =>
      exists_lsuFrame hroutes s.routerId s.sequenceNum i ipId
    choose frame hframe hne using hframe
    have hleaks : Leaks frame := ⟨36, by decide, fun uninit => load8_lsuFrame (hframe uninit)⟩
    simp only [hframe, hroutes, false_or]
    cases harp : srArpcacheLookup s.arp.entries i.neighborIp with
    | none =>
      refine iff_of_false ?_ (by simp)
      exact hleaks.not_hidesHeap_queuereq hne i.neighborIp i.name s.arp
    | some e =>
      unfold srForwardPacketOut forwardedFrame
      simp only [srInstance_withUninit_ifList]
      cases srGetInterface s.ifList i.name with
      | none => exact iff_of_true (hidesHeap_of_const (pure s.arp) fun _ => rfl) (by simp)
      | some out =>
        refine iff_of_false ?_ (by simp)
        exact (hleaks.readdressed out.addr e.mac).not_hidesHeap_of_log fun _ => rfl

end Builders

/-- **Which calls hide what was in memory.**  The frames that a call passes to `sr_send_packet`,
at once or once an address is learnt, do not depend on what `malloc` left in its blocks exactly
if it builds nothing but ARP requests. -/
theorem hidesHeap_iff (env : Env) (s : RouterState) (builder : FrameBuilder) :
    HidesHeap id (fun uninit => builder.run (env.withUninit uninit) s) ↔ builder.Clean s := by
  cases builder with
  | icmpError type code ipDst buf off => exact hidesHeap_icmpError_iff env s type code ipDst buf off
  | arpRequest ip =>
    refine iff_of_true (hidesHeap_of_const (srArpRequestSendOut (s.srInstance env) ip s.arp) ?_)
      trivial
    intro uninit
    show srArpRequestSendOut _ ip s.arp = _
    rw [srArpRequestSendOut_eq, srArpRequestSendOut_eq]
    rfl
  | hello i ipId => exact iff_of_false (not_hidesHeap_hello env s i ipId) id
  | lsu i ipId => exact hidesHeap_lsu_iff env s i ipId

/-- Six turns of the loop of `send_hellos` after the start: the counters have run out. -/
def sixHellos : List RouterEvent := .run :: List.replicate 5 .hellos

/-- **The HELLOs of a router with two links show what was in memory.** -/
theorem hellos_show_heap : ∃ s, RouterRun (fun _ _ _ => True) s ∧
    ¬ HidesHeap RouterState.arp fun uninit =>
      routerStep (quietEnv.withUninit uninit) s .hellos := by
  have hturns : ∃ s, sixHellos.foldlM (fun s e => (routerStep quietEnv s e).ending)
      (routerInit twoLinks []) = .ok s ∧
        (routerStep (quietEnv.withUninit fun _ => 0) s .hellos).log ≠
          (routerStep (quietEnv.withUninit fun _ => 1) s .hellos).log := by
    refine ⟨_, rfl, ?_⟩
    decide +kernel
  obtain ⟨s, hevents, hne⟩ := hturns
  refine ⟨s, routerRun_of_events (.init twoLinks []) hevents, ?_⟩
  intro hhides
  exact hne (hhides _ _).1

end Redes
