import Redes.Pwospf.Send

/-!
# Reading back an LSU

The frame that `send_lsu` builds, as the receivers read it.  The sender counts the routes,
allocates room for as many advertisements, and then goes over the routing table with a
filter of its own; the receiver goes by the number in the header.

## Main definitions

* `memcpy` — a write that checks the bound.
* `copyLsas`, `lsuPacket` — the frame of `send_lsu`, built with such writes.
* `Advertises` — the advertisements that a routing table stands for.
* `Decodes` — what the LSA loop of a receiver gets from a frame.

## Main results

* `lsuPacket_eq` — no write falls outside of the frame.
* `readLsas_of_drop` — the receiver's loop undoes the sender's.
* `lsu_roundTrip` — an LSU is decoded to what was encoded, also when it was readdressed.
-/

namespace Redes

open Bytes

/-! ### Building with bound checks -/

/-- `memcpy` to an offset of a buffer. -/
def memcpy (dst : Frame) (i : ℕ) (src : List UInt8) : Except Halt Frame :=
  if i + src.length ≤ dst.length then .ok (store dst i src) else .error .outOfBounds

/-- The loop of `send_lsu` over the routing table, which copies an advertisement for each
static or connected route behind the last one. -/
def copyLsas (ifList : List SrIf) (lsaIndex : ℕ) : List SrRt → Frame → Except Halt Frame
  | [], sendPacket => .ok sendPacket
  | route :: rest, sendPacket =>
      if route.adminDst ≤ 1 then
        match srGetInterface ifList route.interface with
        | none => .error .nullPointer
        | some i => do
            let lsa := lsaBytes ⟨route.dest, route.mask, i.neighborId⟩
            let sendPacket ← memcpy sendPacket (lsaOffset lsaIndex) lsa
            copyLsas ifList (lsaIndex + 1) rest sendPacket
      else copyLsas ifList lsaIndex rest sendPacket

/-- The headers of an LSU, at the places they will have in the frame. -/
def lsuHeaders (sr : SrInstance) (routerId : IpAddr) (sequenceNum : UInt16) (i : SrIf)
    (ipId : UInt16) : Frame :=
  let routeQty := countRoutes sr.routingTable
  let frame := (List.range (14 + 20 + 24 + 8 + routeQty * 12)).map sr.uninit
  let frame := ospfHeaders i routerId ospfTypeLsu ipId i.neighborIp frame
  store frame 58 (bytes16 sequenceNum ++ [0, 64] ++ bytes32 (UInt32.ofNat routeQty))

/-- The Ethernet, IP, OSPF and LSU headers are copied to the frame. -/
def copyHeaders (headers sendPacket : Frame) : Except Halt Frame := do
  let sendPacket ← memcpy sendPacket 0 (slice headers 0 14)
  let sendPacket ← memcpy sendPacket 14 (slice headers 14 20)
  let sendPacket ← memcpy sendPacket 34 (slice headers 34 24)
  memcpy sendPacket 58 (slice headers 58 8)

/-- The frame of `send_lsu`: the headers are copied to a new buffer, then the advertisements,
and the checksum is written. -/
def lsuPacket (sr : SrInstance) (routerId : IpAddr) (sequenceNum : UInt16) (i : SrIf)
    (ipId : UInt16) : Except Halt Frame := do
  let routeQty := countRoutes sr.routingTable
  let headers := lsuHeaders sr routerId sequenceNum i ipId
  let sendPacket := (List.range (14 + 20 + 24 + 8 + routeQty * 12)).map sr.uninit
  let sendPacket ← copyHeaders headers sendPacket
  let sendPacket ← copyLsas sr.ifList 0 sr.routingTable sendPacket
  memcpy sendPacket 46 (bytes16 (ospfv2Cksum sendPacket (24 + 8 + routeQty * 12)))

@[simp] theorem length_lsaBytes (lsa : Lsa) : (lsaBytes lsa).length = 12 := rfl

theorem length_flatMap_lsaBytes (lsas : List Lsa) :
    (lsas.flatMap lsaBytes).length = lsas.length * 12 := by
  induction lsas with
  | nil => rfl
  | cons lsa lsas ih =>
    rw [List.flatMap_cons, List.length_append, ih, length_lsaBytes, List.length_cons]
    omega

theorem lsaOffset_succ (i : ℕ) : lsaOffset (i + 1) = lsaOffset i + 12 := by
  unfold lsaOffset
  omega

theorem memcpy_of_le {dst : Frame} {i : ℕ} {src : List UInt8} (h : i + src.length ≤ dst.length) :
    memcpy dst i src = .ok (store dst i src) := if_pos h

/-- **The loop stays inside of a frame with room for the routes that are counted**, and writes
the advertisements one behind the other. -/
theorem copyLsas_eq (ifList : List SrIf) (table : List SrRt) {lsaIndex : ℕ} {sendPacket : Frame}
    (h : lsaOffset (lsaIndex + countRoutes table) ≤ sendPacket.length) :
    copyLsas ifList lsaIndex table sendPacket =
      (lsasOfRoutes ifList table).map fun lsas =>
        store sendPacket (lsaOffset lsaIndex) (lsas.flatMap lsaBytes) := by
  induction table generalizing lsaIndex sendPacket with
  | nil => rfl
  | cons route rest ih =>
    unfold copyLsas lsasOfRoutes
    by_cases hbase : route.adminDst ≤ 1
    · have hcount : countRoutes (route :: rest) = countRoutes rest + 1 :=
        List.countP_cons_of_pos (by simpa using hbase)
      rw [hcount] at h
      rw [if_pos hbase, if_pos hbase]
      cases srGetInterface ifList route.interface with
      | none => rfl
      | some i =>
        have hroom : lsaOffset (lsaIndex + 1) ≤ sendPacket.length := by
          refine le_trans ?_ h
          unfold lsaOffset
          omega
        rw [lsaOffset_succ] at hroom
        simp only
        rw [memcpy_of_le hroom]
        show copyLsas ifList (lsaIndex + 1) rest (store sendPacket _ _) = _
        rw [ih (by rwa [length_store, Nat.add_assoc, Nat.add_comm 1])]
        cases lsasOfRoutes ifList rest with
        | error e => rfl
        | ok lsas =>
          apply congrArg Except.ok
          simp only [List.flatMap_cons]
          rw [store_append, length_lsaBytes, ← lsaOffset_succ]
    · have hcount : countRoutes (route :: rest) = countRoutes rest :=
        List.countP_cons_of_neg (by simpa using hbase)
      rw [hcount] at h
      rw [if_neg hbase, if_neg hbase, ih h]

@[simp] theorem length_lsuHeaders (sr : SrInstance) (routerId : IpAddr) (sequenceNum : UInt16)
    (i : SrIf) (ipId : UInt16) : (lsuHeaders sr routerId sequenceNum i ipId).length =
      66 + countRoutes sr.routingTable * 12 := by
  simp [lsuHeaders]

/-- The headers change nothing behind them. -/
theorem drop_lsuHeaders (sr : SrInstance) (routerId : IpAddr) (sequenceNum : UInt16) (i : SrIf)
    (ipId : UInt16) : (lsuHeaders sr routerId sequenceNum i ipId).drop 66 =
      ((List.range (66 + countRoutes sr.routingTable * 12)).map sr.uninit).drop 66 := by
  have hm := i.addr.length_eq
  unfold lsuHeaders ospfHeaders
  rw [drop_store (by simp), drop_store (by simp), drop_store (by simp), drop_store (by simp),
    drop_store (by simp), drop_store (by simp), drop_store (by simp), drop_store (by simp),
    drop_store (by simp), drop_store (by simp), drop_store (by omega)]

/-- **The four headers that are copied one behind the other** are all that the frame gets. -/
theorem copyHeaders_eq {headers blank : Frame} (hlen : headers.length = blank.length)
    (hroom : 66 ≤ blank.length) (hdrop : headers.drop 66 = blank.drop 66) :
    copyHeaders headers blank = .ok headers := by
  have hslice : ∀ k n, k + n ≤ 66 → k + (slice headers k n).length ≤ blank.length := by
    intro k n hk
    rw [length_slice (by omega)]
    omega
  unfold copyHeaders
  rw [memcpy_of_le (hslice 0 14 (by omega))]
  show (do
    let sendPacket ← memcpy (store blank 0 (slice headers 0 14)) 14 (slice headers 14 20)
    let sendPacket ← memcpy sendPacket 34 (slice headers 34 24)
    memcpy sendPacket 58 (slice headers 58 8)) = Except.ok headers
  rw [memcpy_of_le (by simpa using hslice 14 20 (by omega))]
  show (do
    let sendPacket ← memcpy (store (store blank 0 _) 14 _) 34 (slice headers 34 24)
    memcpy sendPacket 58 (slice headers 58 8)) = Except.ok headers
  rw [memcpy_of_le (by simpa using hslice 34 24 (by omega))]
  show memcpy (store (store (store blank 0 _) 14 _) 34 _) 58 (slice headers 58 8) = .ok headers
  rw [memcpy_of_le (by simpa using hslice 58 8 (by omega))]
  apply congrArg Except.ok
  apply List.ext_getElem?
  intro j
  rw [getElem?_store_slice (by simp [hlen]) (by simp; omega),
    getElem?_store_slice (by simp [hlen]) (by simp; omega),
    getElem?_store_slice (by simp [hlen]) (by simp; omega),
    getElem?_store_slice hlen (by omega)]
  by_cases hj : j < 66
  · split_ifs <;> first | rfl | omega
  · have hbehind := congrArg (fun l => l[j - 66]?) hdrop
    simp only [List.getElem?_drop] at hbehind
    rw [Nat.add_sub_cancel' (by omega)] at hbehind
    rw [if_neg (by omega), if_neg (by omega), if_neg (by omega), if_neg (by omega), hbehind]

/-- **No write of `send_lsu` falls outside of the frame**: with bound checks it builds the same
frame. -/
theorem lsuPacket_eq (sr : SrInstance) (routerId : IpAddr) (sequenceNum : UInt16) (i : SrIf)
    (ipId : UInt16) :
    lsuPacket sr routerId sequenceNum i ipId = lsuFrame sr routerId sequenceNum i ipId := by
  have hlen : (lsuHeaders sr routerId sequenceNum i ipId).length =
      66 + countRoutes sr.routingTable * 12 := length_lsuHeaders ..
  have hheaders := copyHeaders_eq (by simp) (by simp)
    (drop_lsuHeaders sr routerId sequenceNum i ipId)
  unfold lsuPacket
  simp only
  rw [hheaders]
  show (do
    let sendPacket ← copyLsas sr.ifList 0 sr.routingTable _
    memcpy sendPacket 46 _) = _
  rw [copyLsas_eq]
  · unfold lsuFrame
    cases lsasOfRoutes sr.ifList sr.routingTable with
    | error e => rfl
    | ok lsas =>
      show memcpy (store (lsuHeaders sr routerId sequenceNum i ipId) (lsaOffset 0) _) 46 _ = _
      rw [memcpy_of_le]
      · rfl
      · rw [length_store, hlen, length_bytes16]
        omega
  · rw [hlen]
    unfold lsaOffset
    omega

/-! ### Reading -/

/-- What the LSA loop of `sr_handle_pwospf_lsu_packet` reads of a valid LSU: the router id of
the sender, the sequence number, and as many advertisements as the header says. -/
structure Decodes (packet : Frame) (routerId : IpAddr) (sequenceNum : UInt16) (src : IpAddr)
    (lsas : List Lsa) : Prop where
  /-- The packet has the headers. -/
  length_le : lsaOffset 0 ≤ packet.length
  /-- It is accepted. -/
  valid : isPacketValid packet = true
  /-- The sender. -/
  rid : ospfRid packet = routerId
  /-- The sequence number. -/
  seq : load16 packet 58 = sequenceNum
  /-- The source address. -/
  src : ipSrc packet = src
  /-- The advertisements. -/
  adv : readLsas packet 0 (lsuNumAdv packet).toNat = .ok lsas

/-- The advertisements that a routing table stands for: one for each static or connected route,
in the order of the table, with the neighbour of the route's interface. -/
def Advertises (ifList : List SrIf) (routingTable : List SrRt) (lsas : List Lsa) : Prop :=
  List.Forall₂ (fun route lsa => ∃ i, srGetInterface ifList route.interface = some i ∧
    lsa = ⟨route.dest, route.mask, i.neighborId⟩)
    (routingTable.filter fun route => route.adminDst ≤ 1) lsas

theorem Advertises.length_eq {ifList : List SrIf} {routingTable : List SrRt} {lsas : List Lsa}
    (h : Advertises ifList routingTable lsas) : lsas.length = countRoutes routingTable := by
  rw [countRoutes, List.countP_eq_length_filter, List.Forall₂.length_eq h]

/-- Routes by way of interfaces that exist are advertised. -/
theorem exists_lsasOfRoutes {ifList : List SrIf} {routingTable : List SrRt}
    (h : ∀ route ∈ routingTable, route.adminDst ≤ 1 →
      srGetInterface ifList route.interface ≠ none) :
    ∃ lsas, lsasOfRoutes ifList routingTable = .ok lsas ∧
      Advertises ifList routingTable lsas := by
  induction routingTable with
  | nil => exact ⟨[], rfl, .nil⟩
  | cons route rest ih =>
    obtain ⟨lsas, hlsas, hadv⟩ := ih fun r hr => h r (List.mem_cons_of_mem route hr)
    unfold lsasOfRoutes Advertises
    by_cases hbase : route.adminDst ≤ 1
    · obtain ⟨i, hi⟩ := Option.ne_none_iff_exists'.mp (h route List.mem_cons_self hbase)
      rw [if_pos hbase, hi, hlsas, List.filter_cons_of_pos (by simpa using hbase)]
      exact ⟨_, rfl, .cons ⟨i, hi, rfl⟩ hadv⟩
    · rw [if_neg hbase, List.filter_cons_of_neg (by simpa using hbase)]
      exact ⟨lsas, hlsas, hadv⟩

/-- The receiver's step reads what the sender's step wrote. -/
theorem readLsa_of_drop {packet : Frame} {i : ℕ} {lsa : Lsa} {rest : List UInt8}
    (h : packet.drop (lsaOffset i) = lsaBytes lsa ++ rest) :
    readLsa packet i = .ok lsa ∧ packet.drop (lsaOffset (i + 1)) = rest := by
  have hlen := congrArg List.length h
  rw [List.length_drop, List.length_append, length_lsaBytes] at hlen
  have hat : ∀ k, load32 packet (lsaOffset i + k) = load32 ((lsaBytes lsa ++ rest).drop k) 0 := by
    intro k
    rw [← h, List.drop_drop, load32_drop]
  have hword : ∀ v xs, load32 (bytes32 v ++ xs) 0 = v := load32_bytes32_append
  constructor
  · rw [readLsa_eq, if_pos (by rw [lsaOffset_succ]; omega)]
    have h₀ : load32 packet (lsaOffset i) = lsa.subnet := by
      rw [← Nat.add_zero (lsaOffset i), hat 0]
      exact hword lsa.subnet (bytes32 lsa.mask ++ bytes32 lsa.rid ++ rest)
    have h₄ : load32 packet (lsaOffset i + 4) = lsa.mask := by
      rw [hat 4]
      exact hword lsa.mask (bytes32 lsa.rid ++ rest)
    have h₈ : load32 packet (lsaOffset i + 8) = lsa.rid := by
      rw [hat 8]
      exact hword lsa.rid rest
    rw [lsaAt, h₀, h₄, h₈]
  · rw [lsaOffset_succ, ← List.drop_drop, h]
    rfl

/-- **The receiver's loop undoes the sender's.** -/
theorem readLsas_of_drop {packet : Frame} {i : ℕ} {lsas : List Lsa} {rest : List UInt8}
    (h : packet.drop (lsaOffset i) = lsas.flatMap lsaBytes ++ rest) :
    readLsas packet i lsas.length = .ok lsas := by
  induction lsas generalizing i with
  | nil => rfl
  | cons lsa lsas ih =>
    rw [List.flatMap_cons, List.append_assoc] at h
    obtain ⟨hfirst, hrest⟩ := readLsa_of_drop h
    rw [List.length_cons, readLsas, hfirst]
    show (do
      let lsas ← readLsas packet (i + 1) lsas.length
      Except.ok (lsa :: lsas)) = _
    rw [ih hrest]
    rfl

/-! ### The fields of the headers -/

section Headers

variable (i : SrIf) (routerId : IpAddr) (type : UInt8) (ipId : UInt16) (ipDst : IpAddr)
  {frame : Frame}

theorem ospfRid_ospfHeaders (h : 58 ≤ frame.length) :
    ospfRid (ospfHeaders i routerId type ipId ipDst frame) = routerId := by
  unfold ospfHeaders ospfRid
  rw [load32_store_of_disjoint (by simp), load32_store_of_disjoint (by simp),
    load32_store_bytes32 _ (by simp; omega)]

theorem ipSrc_ospfHeaders (h : 58 ≤ frame.length) :
    ipSrc (ospfHeaders i routerId type ipId ipDst frame) = i.ip := by
  unfold ospfHeaders ipSrc
  rw [load32_store_of_disjoint (by simp), load32_store_of_disjoint (by simp),
    load32_store_of_disjoint (by simp), load32_store_of_disjoint (by simp),
    load32_store_of_disjoint (by simp), load32_store_of_disjoint (by simp),
    load32_store_bytes32 _ (by simp; omega)]

end Headers

/-! ### The round trip -/

theorem readLsas_readdressed (shost dhost : Mac) (packet : Frame) (k n : ℕ) :
    readLsas (readdressed shost dhost packet) k n = readLsas packet k n := by
  have hlsa : ∀ j, lsaAt (readdressed shost dhost packet) j = lsaAt packet j := by
    intro j
    unfold lsaAt lsaOffset
    rw [load32_readdressed (by omega), load32_readdressed (by omega), load32_readdressed (by omega)]
  rw [readLsas_eq, readLsas_eq, length_readdressed]
  simp only [hlsa]

section Decodes

variable {packet : Frame} {routerId : IpAddr} {sequenceNum : UInt16} {src : IpAddr}
  {lsas : List Lsa}

/-- The addresses of the Ethernet header do not matter. -/
theorem Decodes.readdressed (h : Decodes packet routerId sequenceNum src lsas)
    (shost dhost : Mac) :
    Decodes (readdressed shost dhost packet) routerId sequenceNum src lsas where
  length_le := by
    rw [length_readdressed]
    exact h.length_le
  valid := isPacketValid_readdressed.trans h.valid
  rid := (load32_readdressed (by omega)).trans h.rid
  seq := (load16_readdressed (by omega)).trans h.seq
  src := (load32_readdressed (by omega)).trans h.src
  adv := by
    rw [readLsas_readdressed, lsuNumAdv, load32_readdressed (by omega)]
    exact h.adv

/-- What a receiver that does not drop the LSU makes of it. -/
theorem Decodes.accepted (h : Decodes packet routerId sequenceNum src lsas) {ownId : IpAddr}
    {table : List TopologyEntry} (hown : ownId ≠ routerId)
    (hseq : checkSequenceNumber table routerId sequenceNum = true) :
    srHandlePwospfLsuPacket ownId table packet =
      .ok (.accepted ⟨routerId, sequenceNum, src, lsas⟩) := by
  have hlen : 66 ≤ packet.length := h.length_le
  have hadv : readLsas packet 0 (load32 packet 62).toNat = .ok lsas := h.adv
  have hrid : load32 packet 38 = routerId := h.rid
  have hsrc : load32 packet 26 = src := h.src
  unfold srHandlePwospfLsuPacket
  rw [if_neg (by simp [h.valid]), read32_of_le (by omega), read16_of_le (by omega),
    read32_of_le (by omega), read32_of_le (by omega)]
  simp [bind, Except.bind, hrid, h.seq, hsrc, hown.symm, hseq, hadv]

end Decodes

section LsuFrame

variable (sr : SrInstance) (routerId : IpAddr) (sequenceNum : UInt16) (i : SrIf) (ipId : UInt16)

theorem ospfRid_lsuHeaders :
    ospfRid (lsuHeaders sr routerId sequenceNum i ipId) = routerId := by
  unfold lsuHeaders
  rw [ospfRid, load32_store_of_disjoint (by simp), ← ospfRid, ospfRid_ospfHeaders]
  simp
  omega

theorem ipSrc_lsuHeaders : ipSrc (lsuHeaders sr routerId sequenceNum i ipId) = i.ip := by
  unfold lsuHeaders
  rw [ipSrc, load32_store_of_disjoint (by simp), ← ipSrc, ipSrc_ospfHeaders]
  simp
  omega

theorem seq_lsuHeaders :
    load16 (lsuHeaders sr routerId sequenceNum i ipId) 58 = sequenceNum := by
  unfold lsuHeaders
  rw [store_append, store_append, load16_store_of_disjoint (by simp),
    load16_store_of_disjoint (by simp), load16_store_bytes16 _ (by simp; omega)]

theorem lsuNumAdv_lsuHeaders : lsuNumAdv (lsuHeaders sr routerId sequenceNum i ipId) =
    UInt32.ofNat (countRoutes sr.routingTable) := by
  unfold lsuHeaders lsuNumAdv
  rw [store_append]
  exact load32_store_bytes32 _ (by simp)

variable {sr routerId sequenceNum i ipId}

/-- **An LSU that is built is decoded to the advertisements it was built from.** -/
theorem decodes_lsuFrame {lsas : List Lsa}
    (hlsas : lsasOfRoutes sr.ifList sr.routingTable = .ok lsas)
    (hadv : Advertises sr.ifList sr.routingTable lsas)
    (hfit : countRoutes sr.routingTable < 2 ^ 32) :
    ∃ frame, lsuFrame sr routerId sequenceNum i ipId = .ok frame ∧
      frame.length = 66 + countRoutes sr.routingTable * 12 ∧
      Decodes frame routerId sequenceNum i.ip lsas := by
  set headers := lsuHeaders sr routerId sequenceNum i ipId with hheaders
  set body := store headers (lsaOffset 0) (lsas.flatMap lsaBytes) with hbody
  set csum := bytes16 (ospfv2Cksum body (24 + 8 + countRoutes sr.routingTable * 12)) with hcsum
  have hframe : lsuFrame sr routerId sequenceNum i ipId = .ok (store body 46 csum) := by
    unfold lsuFrame
    rw [hlsas]
    rfl
  have hoff : lsaOffset 0 = 66 := rfl
  have hbytes : (lsas.flatMap lsaBytes).length = countRoutes sr.routingTable * 12 := by
    rw [length_flatMap_lsaBytes, hadv.length_eq]
  have hlen : headers.length = 66 + countRoutes sr.routingTable * 12 := length_lsuHeaders ..
  have hbodylen : (store body 46 csum).length = 66 + countRoutes sr.routingTable * 12 := by
    rw [length_store, length_store, hlen]
  refine ⟨store body 46 csum, hframe, hbodylen, ?_⟩
  have hcsumlen : csum.length = 2 := length_bytes16 _
  -- the words of the headers are not written over
  have hword : ∀ j, j + 4 ≤ 46 ∨ 48 ≤ j ∧ j + 4 ≤ 66 →
      load32 (store body 46 csum) j = load32 headers j := by
    intro j hj
    rw [load32_store_of_disjoint (by omega), load32_store_of_disjoint (by omega)]
  refine ⟨by rw [hbodylen, hoff]; omega, isPacketValid_lsuFrame hframe, ?_, ?_, ?_, ?_⟩
  · exact (hword 38 (by omega)).trans (ospfRid_lsuHeaders ..)
  · rw [load16_store_of_disjoint (by omega), load16_store_of_disjoint (by omega)]
    exact seq_lsuHeaders ..
  · exact (hword 26 (by omega)).trans (ipSrc_lsuHeaders ..)
  · have hnum : lsuNumAdv (store body 46 csum) = UInt32.ofNat (countRoutes sr.routingTable) :=
      (hword 62 (by omega)).trans (lsuNumAdv_lsuHeaders ..)
    have hcount : (UInt32.ofNat (countRoutes sr.routingTable)).toNat = lsas.length := by
      rw [hadv.length_eq, UInt32.toNat_ofNat']
      exact Nat.mod_eq_of_lt hfit
    rw [hnum, hcount]
    have hdrop : (store body 46 csum).drop (lsaOffset 0) = lsas.flatMap lsaBytes ++ [] := by
      rw [List.append_nil, drop_store (by omega), hbody, drop_store_self (by omega)]
    exact readLsas_of_drop hdrop

/-- **Decoding an LSU undoes its encoding.**  For a routing table whose static and connected
routes all name interfaces that exist, and that fits into a packet, `send_lsu` writes inside
of its frame only; and a receiver accepts the frame, directly and after
`sr_forward_packet`, and reads the advertisements of the table from it. -/
theorem lsu_roundTrip (sr : SrInstance) (routerId : IpAddr) (sequenceNum : UInt16) (i : SrIf)
    (ipId : UInt16)
    (hroutes : ∀ route ∈ sr.routingTable, route.adminDst ≤ 1 →
      srGetInterface sr.ifList route.interface ≠ none)
    (hfit : 66 + 12 * countRoutes sr.routingTable ≤ 1500) :
    ∃ frame lsas, lsuFrame sr routerId sequenceNum i ipId = .ok frame ∧
      lsuPacket sr routerId sequenceNum i ipId = .ok frame ∧
      lsas.length = countRoutes sr.routingTable ∧
      Advertises sr.ifList sr.routingTable lsas ∧
      ∀ packet, (packet = frame ∨ ∃ sr' macDest interface,
          forwardedFrame sr' frame macDest interface = some packet) →
        Decodes packet routerId sequenceNum i.ip lsas ∧
          ∀ ownId table, ownId ≠ routerId →
            checkSequenceNumber table routerId sequenceNum = true →
            srHandlePwospfLsuPacket ownId table packet =
              .ok (.accepted ⟨routerId, sequenceNum, i.ip, lsas⟩) := by
  obtain ⟨lsas, hlsas, hadv⟩ := exists_lsasOfRoutes hroutes
  obtain ⟨frame, hframe, hdecodes⟩ : ∃ frame, lsuFrame sr routerId sequenceNum i ipId = .ok frame ∧
      Decodes frame routerId sequenceNum i.ip lsas := by
    obtain ⟨frame, hframe, -, hdecodes⟩ := decodes_lsuFrame hlsas hadv (by omega)
    exact ⟨frame, hframe, hdecodes⟩
  refine ⟨frame, lsas, hframe, (lsuPacket_eq ..).trans hframe, hadv.length_eq, hadv, ?_⟩
  rintro packet (rfl | ⟨sr', macDest, interface, hforward⟩)
  · exact ⟨hdecodes, fun ownId table => hdecodes.accepted⟩
  · obtain ⟨out, -, rfl⟩ := Option.map_eq_some_iff.mp hforward
    have hsent := hdecodes.readdressed out.addr macDest
    exact ⟨hsent, fun ownId table => hsent.accepted⟩

end LsuFrame

/-- A router with a connected network, which it shares with 7.7.7.7, and a computed route. -/
def connectedRouter : SrInstance :=
  ⟨[⟨"eth1".toList, generateEthernetAddr 1, 0x0101000a, 0x00ffffff, 5, 0x07070707, 0x0201000a⟩],
    [⟨0x0001000a, 0, 0x00ffffff, "eth1".toList, 1⟩,
      ⟨0x0009000a, 0x0201000a, 0x00ffffff, "eth1".toList, 110⟩], fun _ => 0, fun _ => 0⟩

/-- Its LSU carries one advertisement to the neighbour. -/
theorem connectedRouter_roundTrip : ∃ frame lsas,
    lsuFrame connectedRouter 0x01010101 7 connectedRouter.ifList[0] 0 = .ok frame ∧
      lsas.length = 1 ∧ Advertises connectedRouter.ifList connectedRouter.routingTable lsas ∧
      srHandlePwospfLsuPacket 0x07070707 [] frame =
        .ok (.accepted ⟨0x01010101, 7, 0x0101000a, lsas⟩) := by
  obtain ⟨frame, lsas, hframe, -, hlen, hadv, hread⟩ :=
    lsu_roundTrip connectedRouter 0x01010101 7 connectedRouter.ifList[0] 0 (by decide) (by decide)
  exact ⟨frame, lsas, hframe, hlen, hadv,
    (hread frame (Or.inl rfl)).2 0x07070707 [] (by decide) (by decide)⟩

end Redes
