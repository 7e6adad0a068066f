import Mathlib.Tactic.IntervalCases
import Redes.Pwospf.Sequence
import Redes.Router.Frame

/-!
# What the PWOSPF handlers read from a frame

`sr_handle_pwospf_packet` and the two handlers it dispatches to, up to the point where
what they have read is acted upon.  Every byte they take from a header or an
advertisement is read through a bound check, so a read outside of the frame shows as
`outOfBounds`; so does a write behind the 1500 bytes that an LSU is copied to.

## Main definitions

* `read8`, `read16`, `read32` — reads that check the bound.
* `Heard`, `srHandlePwospfHelloPacket` — HELLO packets.
* `LsuVerdict`, `srHandlePwospfLsuPacket` — LSU packets.
* `srHandlePwospfPacket` — the dispatch on the type.
* `StaysInFrame` — the lengths for which nothing outside is touched.

## Main results

* `readLsas_eq` — the loop over the advertisements stays inside the frame.
* `srHandlePwospfPacket_inBounds_iff` — the handlers do, exactly under `StaysInFrame`.
-/

namespace Redes

open Bytes

/-- Read a byte of the packet. -/
def read8 (p : Frame) (i : ℕ) : Except Halt UInt8 :=
  if i < p.length then .ok (load8 p i) else .error .outOfBounds

/-- Read a 16-bit field of the packet. -/
def read16 (p : Frame) (i : ℕ) : Except Halt UInt16 :=
  if i + 2 ≤ p.length then .ok (load16 p i) else .error .outOfBounds

/-- Read a 32-bit field of the packet. -/
def read32 (p : Frame) (i : ℕ) : Except Halt UInt32 :=
  if i + 4 ≤ p.length then .ok (load32 p i) else .error .outOfBounds

/-! ### HELLO packets -/

/-- `OSPF_DEFAULT_HELLOINT`. -/
def ospfDefaultHelloint : UInt16 := 5

/-- The neighbour that an accepted HELLO tells of. -/
structure Heard where
  /-- Router id of the sender. -/
  neighborId : IpAddr
  /-- Source address of the packet. -/
  neighborIp : IpAddr
  deriving DecidableEq

/-- `sr_handle_pwospf_hello_packet` up to its checks: the neighbour that is recorded, if the
packet is not dropped.  The mask is read, and printed, before the interface is. -/
def srHandlePwospfHelloPacket (packet : Frame) (rxIf : Option SrIf) :
    Except Halt (Option Heard) :=
  if isPacketValid packet = false then .ok none
  else do
    let nmask ← read32 packet 58
    match rxIf with
    | none => .error .nullPointer
    | some rxIf =>
        if nmask ≠ rxIf.mask then .ok none
        else do
          let helloint ← read16 packet 62
          if helloint ≠ htons ospfDefaultHelloint then .ok none
          else do
            let rid ← read32 packet 38
            let src ← read32 packet 26
            .ok (some ⟨rid, src⟩)

/-! ### LSU packets -/

/-- The size of `packet` in `struct powspf_rx_lsu_param`. -/
def rxLsuParamSize : ℕ := 1500

/-- The loop of `sr_handle_pwospf_packet` that copies an LSU for the thread that handles it. -/
def copyToRxLsuParam (packet : Frame) : Except Halt Frame :=
  if packet.length ≤ rxLsuParamSize then .ok packet else .error .outOfBounds

/-- The offset of the LSA with the given index. -/
def lsaOffset (i : ℕ) : ℕ := 14 + 20 + 24 + 8 + i * 12

/-- Read the LSA with the given index. -/
def readLsa (packet : Frame) (i : ℕ) : Except Halt Lsa := do
  let subnet ← read32 packet (lsaOffset i)
  let mask ← read32 packet (lsaOffset i + 4)
  let rid ← read32 packet (lsaOffset i + 8)
  .ok ⟨subnet, mask, rid⟩

/-- The loop over the advertisements, from the index `i` on with `n` left to read. -/
def readLsas (packet : Frame) (i : ℕ) : ℕ → Except Halt (List Lsa)
  | 0 => .ok []
  | n + 1 => do
      let lsa ← readLsa packet i
      let lsas ← readLsas packet (i + 1) n
      .ok (lsa :: lsas)

/-- What becomes of an LSU. -/
inductive LsuVerdict
  /-- It is dropped. -/
  | dropped
  /-- It is applied to the topology table, and sent on. -/
  | accepted (lsu : Lsu)
  deriving DecidableEq

/-- `sr_handle_pwospf_lsu_packet` up to the update of the topology table: `num_adv` and the
advertisements are read as the loop goes, before it each time. -/
def srHandlePwospfLsuPacket (ownId : IpAddr) (table : List TopologyEntry) (packet : Frame) :
    Except Halt LsuVerdict :=
  if isPacketValid packet = false then .ok .dropped
  else do
    let rid ← read32 packet 38
    if rid = ownId then .ok .dropped
    else do
      let seq ← read16 packet 58
      if checkSequenceNumber table rid seq = false then .ok .dropped
      else do
        let numAdv ← read32 packet 62
        let src ← read32 packet 26
        let lsas ← readLsas packet 0 numAdv.toNat
        .ok (.accepted ⟨rid, seq, src, lsas⟩)

/-! ### The dispatch -/

/-- `OSPF_TYPE_HELLO`. -/
def ospfTypeHello : UInt8 := 1
/-- `OSPF_TYPE_LSU`. -/
def ospfTypeLsu : UInt8 := 4

/-- What `sr_handle_pwospf_packet` finds in a packet. -/
inductive PwospfVerdict
  /-- Nothing to act upon. -/
  | ignored
  /-- A HELLO, and the neighbour to record. -/
  | hello (heard : Option Heard)
  /-- An LSU. -/
  | lsu (verdict : LsuVerdict)
  deriving DecidableEq

/-- `sr_handle_pwospf_packet`: nothing is done before the router id is known. -/
def srHandlePwospfPacket (ownId : IpAddr) (table : List TopologyEntry) (packet : Frame)
    (rxIf : Option SrIf) : Except Halt PwospfVerdict :=
  if ownId = 0 then .ok .ignored
  else do
    let type ← read8 packet 35
    if type = ospfTypeHello then do
      let heard ← srHandlePwospfHelloPacket packet rxIf
      .ok (.hello heard)
    else if type = ospfTypeLsu then do
      let copy ← copyToRxLsuParam packet
      let verdict ← srHandlePwospfLsuPacket ownId table copy
      .ok (.lsu verdict)
    else .ok .ignored

/-- The frames that get as far as `sr_handle_pwospf_packet`. -/
def ReachesPwospf (packet : Frame) : Prop :=
  isPacketValid packet = true ∧ etherType packet = htons ethertypeIp ∧ ipP packet = ipProtocolOspfv2

instance (packet : Frame) : Decidable (ReachesPwospf packet) :=
  inferInstanceAs (Decidable (_ ∧ _ ∧ _))

/-- The lengths that keep the handlers inside the frame: a HELLO has its mask, and its
interval if the mask is the right one; an LSU fits the buffer, has its sequence number
unless it is this router's own, and all its advertisements if it is accepted. -/
def StaysInFrame (ownId : IpAddr) (table : List TopologyEntry) (packet : Frame)
    (rxIf : Option SrIf) : Prop :=
  (ospfType packet = ospfTypeHello → 62 ≤ packet.length ∧
    ∀ i ∈ rxIf, load32 packet 58 = i.mask → 64 ≤ packet.length) ∧
  (ospfType packet = ospfTypeLsu → packet.length ≤ rxLsuParamSize ∧
    (ospfRid packet ≠ ownId → 60 ≤ packet.length ∧
      (checkSequenceNumber table (ospfRid packet) (load16 packet 58) = true →
        lsaOffset 0 ≤ packet.length ∧ lsaOffset (load32 packet 62).toNat ≤ packet.length)))

/-! ### Reads -/

theorem read8_of_lt {p : Frame} {i : ℕ} (h : i < p.length) : read8 p i = .ok (load8 p i) :=
  if_pos h

theorem read16_of_le {p : Frame} {i : ℕ} (h : i + 2 ≤ p.length) : read16 p i = .ok (load16 p i) :=
  if_pos h

theorem read16_of_gt {p : Frame} {i : ℕ} (h : ¬ i + 2 ≤ p.length) :
    read16 p i = .error .outOfBounds := if_neg h

theorem read32_of_le {p : Frame} {i : ℕ} (h : i + 4 ≤ p.length) : read32 p i = .ok (load32 p i) :=
  if_pos h

theorem read32_of_gt {p : Frame} {i : ℕ} (h : ¬ i + 4 ≤ p.length) :
    read32 p i = .error .outOfBounds := if_neg h

/-- The LSA with the given index, when it lies in the packet. -/
def lsaAt (packet : Frame) (i : ℕ) : Lsa :=
  ⟨load32 packet (lsaOffset i), load32 packet (lsaOffset i + 4), load32 packet (lsaOffset i + 8)⟩

theorem readLsa_eq (packet : Frame) (i : ℕ) :
    readLsa packet i =
      if lsaOffset (i + 1) ≤ packet.length then .ok (lsaAt packet i) else .error .outOfBounds := by
  have hoff : lsaOffset (i + 1) = lsaOffset i + 12 := by
    unfold lsaOffset
    omega
  unfold readLsa
  by_cases h₁ : lsaOffset i + 4 ≤ packet.length
  · rw [read32_of_le h₁]
    by_cases h₂ : lsaOffset i + 4 + 4 ≤ packet.length
    · rw [read32_of_le h₂]
      by_cases h₃ : lsaOffset i + 8 + 4 ≤ packet.length
      · rw [read32_of_le h₃, if_pos (by omega)]
        rfl
      · rw [read32_of_gt h₃, if_neg (by omega)]
        rfl
    · rw [read32_of_gt h₂, if_neg (by omega)]
      rfl
  · rw [read32_of_gt h₁, if_neg (by omega)]
    rfl

/-- **The loop over the advertisements stays inside the frame exactly if the frame has
room for all of them.** -/
theorem readLsas_eq (packet : Frame) (i n : ℕ) :
    readLsas packet i n =
      if n = 0 ∨ lsaOffset (i + n) ≤ packet.length then
        .ok ((List.range n).map fun k => lsaAt packet (i + k))
      else .error .outOfBounds := by
  induction n generalizing i with
  | zero => rw [if_pos (Or.inl rfl)]; rfl
  | succ n ih =>
    have hmono : lsaOffset (i + 1) ≤ lsaOffset (i + (n + 1)) := by
      unfold lsaOffset
      omega
    have hshift : i + 1 + n = i + (n + 1) := by omega
    unfold readLsas
    rw [readLsa_eq, ih, hshift]
    by_cases hfirst : lsaOffset (i + 1) ≤ packet.length
    · rw [if_pos hfirst]
      by_cases hall : lsaOffset (i + (n + 1)) ≤ packet.length
      · rw [if_pos (Or.inr hall), if_pos (Or.inr hall), List.range_succ_eq_map, List.map_cons,
          List.map_map]
        have hmap : (fun k => lsaAt packet (i + 1 + k)) =
            (fun k => lsaAt packet (i + k)) ∘ Nat.succ := by
          funext k
          rw [Function.comp_apply, Nat.succ_eq_add_one, Nat.add_right_comm, Nat.add_assoc]
        rw [hmap]
        rfl
      · by_cases hn : n = 0
        · subst hn
          exact absurd hfirst hall
        · rw [if_neg (by simp [hn, hall]), if_neg (by simp [hall])]
          rfl
    · have hall : ¬ (n + 1 = 0 ∨ lsaOffset (i + (n + 1)) ≤ packet.length) := by omega
      rw [if_neg hfirst, if_neg hall]
      rfl

/-! ### Which packets keep the handlers inside -/

/-- A valid OSPF packet has its OSPF header. -/
theorem ReachesPwospf.length_le {packet : Frame} (h : ReachesPwospf packet) :
    58 ≤ packet.length := by
  obtain ⟨hvalid, htype, hproto⟩ := h
  unfold isPacketValid at hvalid
  rw [htype, hproto] at hvalid
  by_contra hlen
  have hshort : ¬ 34 + 24 ≤ packet.length := hlen
  have harp : htons ethertypeIp ≠ htons ethertypeArp := by decide
  have hicmp : ipProtocolOspfv2 ≠ ipProtocolIcmp := by decide
  simp [harp, hicmp, hshort] at hvalid

/-- A HELLO is read inside the frame if its mask is there, and its interval if the mask is
the right one. -/
theorem hello_inBounds_iff {packet : Frame} (h : ReachesPwospf packet) (rxIf : Option SrIf) :
    srHandlePwospfHelloPacket packet rxIf ≠ .error .outOfBounds ↔
      62 ≤ packet.length ∧ ∀ i ∈ rxIf, load32 packet 58 = i.mask → 64 ≤ packet.length := by
  have hlen := h.length_le
  unfold srHandlePwospfHelloPacket
  rw [if_neg (by simp [h.1])]
  by_cases hmask : 58 + 4 ≤ packet.length
  · rw [read32_of_le hmask]
    cases rxIf with
    | none => simp [bind, Except.bind, hmask]
    | some i =>
      by_cases heq : load32 packet 58 = i.mask
      · by_cases hint : 62 + 2 ≤ packet.length
        · rw [read16_of_le hint, read32_of_le (by omega), read32_of_le (by omega)]
          simp only [bind, Except.bind, heq, ne_eq, not_true_eq_false, if_false]
          constructor
          · intro _
            exact ⟨hmask, fun _ _ _ => hint⟩
          · intro _
            split <;> simp
        · rw [read16_of_gt hint]
          simp [bind, Except.bind, heq, hint]
      · simp [bind, Except.bind, heq, hmask]
  · rw [read32_of_gt hmask]
    simp [bind, Except.bind, hmask]

/-- An LSU is read inside the frame if its sequence number is there, unless this router
sent it, and all its advertisements are if it is accepted. -/
theorem lsu_inBounds_iff {packet : Frame} (h : ReachesPwospf packet) (ownId : IpAddr)
    (table : List TopologyEntry) :
    srHandlePwospfLsuPacket ownId table packet ≠ .error .outOfBounds ↔
      (ospfRid packet ≠ ownId → 60 ≤ packet.length ∧
        (checkSequenceNumber table (ospfRid packet) (load16 packet 58) = true →
          lsaOffset 0 ≤ packet.length ∧
            lsaOffset (load32 packet 62).toNat ≤ packet.length)) := by
  have hlen := h.length_le
  unfold srHandlePwospfLsuPacket
  rw [if_neg (by simp [h.1]), read32_of_le (by omega)]
  by_cases hown : ospfRid packet = ownId
  · simp [bind, Except.bind, hown]
  · by_cases hseq : 58 + 2 ≤ packet.length
    · rw [read16_of_le hseq]
      by_cases hcheck : checkSequenceNumber table (ospfRid packet) (load16 packet 58) = true
      · by_cases hnum : 62 + 4 ≤ packet.length
        · rw [read32_of_le hnum, read32_of_le (by omega)]
          have hoff : lsaOffset 0 = 62 + 4 := rfl
          by_cases hall : (load32 packet 62).toNat = 0 ∨
              lsaOffset (0 + (load32 packet 62).toNat) ≤ packet.length
          · have hin : lsaOffset (load32 packet 62).toNat ≤ packet.length := by
              rcases hall with hzero | hall
              · rw [hzero, hoff]
                exact hnum
              · rwa [Nat.zero_add] at hall
            have hlsas := readLsas_eq packet 0 (load32 packet 62).toNat
            rw [if_pos hall] at hlsas
            simp [bind, Except.bind, hown, hcheck, hlsas, hin, hoff, hnum, hseq]
          · have hin : ¬ lsaOffset (load32 packet 62).toNat ≤ packet.length := by
              rw [not_or, Nat.zero_add] at hall
              exact hall.2
            have hlsas := readLsas_eq packet 0 (load32 packet 62).toNat
            rw [if_neg hall] at hlsas
            simp [bind, Except.bind, hown, hcheck, hlsas, hin]
        · rw [read32_of_gt hnum]
          have hoff : ¬ lsaOffset 0 ≤ packet.length := hnum
          simp [bind, Except.bind, hown, hcheck, hoff]
      · simp [bind, Except.bind, hown, hcheck, hseq]
    · rw [read16_of_gt hseq]
      simp [bind, Except.bind, hown, hseq]

/-- **The PWOSPF handlers stay inside the frame and the buffer exactly under
`StaysInFrame`**, once the router id is known. -/
theorem srHandlePwospfPacket_inBounds_iff {ownId : IpAddr} {table : List TopologyEntry}
    {packet : Frame} {rxIf : Option SrIf} (h : ReachesPwospf packet) :
    srHandlePwospfPacket ownId table packet rxIf ≠ .error .outOfBounds ↔
      ownId = 0 ∨ StaysInFrame ownId table packet rxIf := by
  have hlen := h.length_le
  unfold srHandlePwospfPacket StaysInFrame
  by_cases hzero : ownId = 0
  · simp [hzero]
  rw [if_neg hzero, read8_of_lt (by omega)]
  by_cases hhello : ospfType packet = ospfTypeHello
  · have hlsu : ospfType packet ≠ ospfTypeLsu := by rw [hhello]; decide
    have hiff := hello_inBounds_iff h rxIf
    simp only [hzero, hhello, bind, Except.bind, if_true, false_or, true_implies]
    rw [← hiff]
    have hne : ospfTypeHello ≠ ospfTypeLsu := by decide
    cases srHandlePwospfHelloPacket packet rxIf <;> simp [hne]
  · by_cases hlsu : ospfType packet = ospfTypeLsu
    · have hne : ospfTypeLsu ≠ ospfTypeHello := by decide
      have hiff := lsu_inBounds_iff h ownId table
      simp only [hzero, hlsu, hne, bind, Except.bind, if_false, if_true, false_or, false_implies,
        true_implies, true_and]
      rw [← hiff]
      unfold copyToRxLsuParam
      by_cases hfit : packet.length ≤ rxLsuParamSize
      · simp only [if_pos hfit]
        cases srHandlePwospfLsuPacket ownId table packet <;> simp [hfit]
      · simp [hfit]
    · simp [hhello, hlsu, bind, Except.bind]

/-- An LSU of 7.7.7.7 with one advertisement: the subnet 10.0.2.0/24 it shares with 8.8.8.8. -/
def oneLsa : Frame :=
  [0x01, 0x00, 0x5e, 0x00, 0x00, 0x05, 0x02, 0x02, 0x02, 0x02, 0x02, 0x02, 0x08, 0x00,
    0x45, 0x00, 0x00, 0x40, 0x00, 0x00, 0x00, 0x00, 0x40, 0x59, 0x64, 0x63,
    0x0a, 0x00, 0x01, 0x02, 0x0a, 0x00, 0x01, 0x01,
    0x02, 0x04, 0x00, 0x2c, 0x07, 0x07, 0x07, 0x07, 0x00, 0x00, 0x00, 0x00, 0xd2, 0x70, 0x00, 0x00,
    0x00, 0x00, 0x00, 0x00, 0x00, 0x00, 0x00, 0x00,
    0x01, 0x00, 0x00, 0x40, 0x01, 0x00, 0x00, 0x00,
    0x0a, 0x00, 0x02, 0x00, 0xff, 0xff, 0xff, 0x00, 0x08, 0x08, 0x08, 0x08]

/-- The whole of this LSU is inside the frame. -/
theorem oneLsa_inBounds :
    srHandlePwospfPacket 0x01010101 [] oneLsa none ≠ .error .outOfBounds :=
  (srHandlePwospfPacket_inBounds_iff (by decide)).mpr
    (Or.inr (by unfold StaysInFrame; decide))

/-- An LSU that announces one advertisement and ends with the LSU header, checksums in
order. -/
def missingLsa : Frame :=
  [0x01, 0x00, 0x5e, 0x00, 0x00, 0x05, 0x02, 0x02, 0x02, 0x02, 0x02, 0x02, 0x08, 0x00,
    0x45, 0x00, 0x00, 0x34, 0x00, 0x00, 0x00, 0x00, 0x40, 0x59, 0x64, 0x6f,
    0x0a, 0x00, 0x01, 0x02, 0x0a, 0x00, 0x01, 0x01,
    0x02, 0x04, 0x00, 0x20, 0x07, 0x07, 0x07, 0x07, 0x00, 0x00, 0x00, 0x00, 0xed, 0x8d, 0x00, 0x00,
    0x00, 0x00, 0x00, 0x00, 0x00, 0x00, 0x00, 0x00,
    0x01, 0x00, 0x00, 0x40, 0x01, 0x00, 0x00, 0x00]

/-- **A valid LSU whose `num_adv` announces more than the frame holds is read past its
end.** -/
theorem missingLsa_outOfBounds :
    ReachesPwospf missingLsa ∧ missingLsa.length ≤ 10000 ∧
      srHandlePwospfPacket 0x01010101 [] missingLsa none = .error .outOfBounds := by
  decide

end Redes
