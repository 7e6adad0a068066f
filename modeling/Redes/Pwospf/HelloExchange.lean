import Redes.Pwospf.RoundTrip
import Redes.Router.System

/-!
# A HELLO and its receiver

The HELLO that `send_hello_packet` builds for one interface, handled by
`sr_handle_pwospf_hello_packet` on another.  The sender announces the mask 255.255.255.0
whatever its own is, and the receiver takes the address of its neighbour over only
together with a new router id.

## Main definitions

* `OnRecord` — an interface has a neighbour, which is in the list with a full timer.
* `Understood` — the receiver records what the sender told it.

## Main results

* `srHandlePwospfHelloPacket_helloFrame` — what is heard of a HELLO.
* `understood_iff` — when sender and receiver agree.
-/

namespace Redes

open Bytes Logged

/-! ### What is recorded -/

/-- The interface has the neighbour, and the neighbour is in the list with a full timer. -/
def OnRecord (s : NeighborState) (interface : IfName) (heard : Heard) : Prop :=
  (∃ i, srGetInterface s.ifList interface = some i ∧ i.neighborId = heard.neighborId ∧
    i.neighborIp = heard.neighborIp) ∧
  ∃ n ∈ s.neighbors.first :: s.neighbors.rest, n.neighborId = heard.neighborId ∧
    n.alive = ospfNeighborTimeout

/-- The HELLO is not dropped, the receiver records the router id and the address of its
sender, and any state that the handler leaves, with its LSUs sent, has them on record. -/
def Understood (env : Env) (packet : Frame) (interface : IfName) (sender : Heard)
    (s : RouterState) : Prop :=
  (∃ heard, srHandlePwospfHelloPacket packet (srGetInterface s.ifList interface) =
    .ok (some heard)) ∧
  (∃ n, receiveHello packet interface ⟨s.ifList, s.neighbors⟩ = .ok n ∧
    OnRecord n interface sender) ∧
  ∀ s', (srHandlePwospfHelloPacketOut env packet interface (srGetInterface s.ifList interface)
    s).ending = .ok s' → OnRecord ⟨s'.ifList, s'.neighbors⟩ interface sender

/-- A refresh leaves the router in the list, with a full timer. -/
theorem refreshNeighborsAlive_mem (l : NeighborList) (neighborId : IpAddr) :
    ∃ n ∈ (refreshNeighborsAlive l neighborId).first :: (refreshNeighborsAlive l neighborId).rest,
      n.neighborId = neighborId ∧ n.alive = ospfNeighborTimeout := by
  unfold refreshNeighborsAlive
  split
  · next hfirst => exact ⟨_, List.mem_cons_self, hfirst, rfl⟩
  · rcases refreshAliveLoop_spec neighborId l.rest with ⟨hnone, -⟩ | ⟨pre, n, post, -, hn, hsome⟩
    · rw [hnone]
      exact ⟨createOspfv2Neighbor neighborId, List.mem_cons_of_mem _ List.mem_cons_self, rfl, rfl⟩
    · rw [hsome]
      exact ⟨n.refreshed, List.mem_cons_of_mem _ (List.mem_append_right _ List.mem_cons_self), hn,
        rfl⟩

theorem srGetInterface_setNeighbor {ifList : List SrIf} {interface : IfName} {heard : Heard}
    {j : SrIf} (hj : srGetInterface ifList interface = some j) :
    srGetInterface (setNeighbor interface heard ifList) interface =
      some { j with neighborId := heard.neighborId, neighborIp := heard.neighborIp } := by
  induction ifList with
  | nil => cases hj
  | cons i ifs ih =>
    unfold setNeighbor
    unfold srGetInterface at hj ih ⊢
    by_cases hname : i.name = interface
    · rw [List.find?_cons_of_pos (by simpa using hname)] at hj
      obtain rfl := Option.some.inj hj
      rw [if_pos hname, List.find?_cons_of_pos (by simpa using hname)]
    · rw [List.find?_cons_of_neg (by simpa using hname)] at hj
      rw [if_neg hname, List.find?_cons_of_neg (by simpa using hname), ih hj]

/-- **What a HELLO leaves on record**: all of it, unless the interface has its sender for a
neighbour already, at another address. -/
theorem onRecord_recordHeard_iff {s : NeighborState} {interface : IfName} {heard : Heard} {j : SrIf}
    (hj : srGetInterface s.ifList interface = some j) :
    OnRecord (recordHeard interface heard s) interface heard ↔
      (j.neighborId = heard.neighborId → j.neighborIp = heard.neighborIp) := by
  have hlist := refreshNeighborsAlive_mem
  unfold OnRecord recordHeard
  by_cases hchange : j.neighborId = heard.neighborId
  · have hno : ¬ ChangesNeighbor s interface heard := by
      rintro ⟨i, hi, hne⟩
      rw [Option.mem_def, hj] at hi
      exact hne (Option.some.inj hi ▸ hchange)
    rw [if_neg hno]
    constructor
    · rintro ⟨⟨i, hi, -, hip⟩, -⟩ -
      rw [hj] at hi
      exact Option.some.inj hi ▸ hip
    · exact fun h => ⟨⟨j, hj, hchange, h hchange⟩, hlist _ _⟩
  · have hyes : ChangesNeighbor s interface heard := ⟨j, hj, hchange⟩
    rw [if_pos hyes]
    constructor
    · exact fun _ h => absurd h hchange
    · exact fun _ => ⟨⟨_, srGetInterface_setNeighbor hj, rfl, rfl⟩, hlist _ _⟩

/-- The interfaces and the neighbours are those that were recorded, when the LSUs are sent. -/
theorem neighbors_of_ending {env : Env} {packet : Frame} {interface : IfName} {rxIf : Option SrIf}
    {s s' : RouterState} {heard : Heard}
    (hheard : srHandlePwospfHelloPacket packet rxIf = .ok (some heard))
    (h : (srHandlePwospfHelloPacketOut env packet interface rxIf s).ending = .ok s') :
    (⟨s'.ifList, s'.neighbors⟩ : NeighborState) =
      recordHeard interface heard ⟨s.ifList, s.neighbors⟩ := by
  unfold srHandlePwospfHelloPacketOut at h
  simp only [hheard] at h
  split at h
  · unfold sendAllLsu at h
    obtain ⟨st, -, rfl⟩ := ending_map_eq_ok h
    rfl
  · obtain rfl := Except.ok.inj h
    rfl

/-! ### The packet -/

/-- **What is heard of a HELLO**: the receiver compares its mask with 255.255.255.0. -/
theorem srHandlePwospfHelloPacket_helloFrame (uninit : ℕ → UInt8) (routerId : IpAddr) (i j : SrIf)
    (ipId : UInt16) :
    srHandlePwospfHelloPacket (helloFrame uninit routerId i ipId) (some j) =
      .ok (if j.mask = ntohl 0xffffff00 then some ⟨routerId, i.ip⟩ else none) := by
  have hlen : (helloFrame uninit routerId i ipId).length = 66 := by simp [helloFrame]
  have hmask : load32 (helloFrame uninit routerId i ipId) 58 = ntohl 0xffffff00 := by
    unfold helloFrame
    rw [load32_store_of_disjoint (by simp), store_append, store_append,
      load32_store_of_disjoint (by simp), load32_store_of_disjoint (by simp),
      load32_store_bytes32 _ (by simp)]
  have hint : load16 (helloFrame uninit routerId i ipId) 62 = htons ospfDefaultHelloint := by
    unfold helloFrame
    rw [load16_store_of_disjoint (by simp), store_append, store_append,
      load16_store_of_disjoint (by simp)]
    exact load16_store_bytes16 _ (by simp)
  have hrid : load32 (helloFrame uninit routerId i ipId) 38 = routerId := by
    unfold helloFrame
    rw [load32_store_of_disjoint (by simp), load32_store_of_disjoint (by simp)]
    exact ospfRid_ospfHeaders i routerId _ ipId _ (by simp)
  have hsrc : load32 (helloFrame uninit routerId i ipId) 26 = i.ip := by
    unfold helloFrame
    rw [load32_store_of_disjoint (by simp), load32_store_of_disjoint (by simp)]
    exact ipSrc_ospfHeaders i routerId _ ipId _ (by simp)
  have hvalid := isPacketValid_helloFrame i uninit routerId ipId
  unfold srHandlePwospfHelloPacket
  rw [if_neg (by simp [hvalid]), read32_of_le (by omega), read16_of_le (by omega),
    read32_of_le (by omega), read32_of_le (by omega), hmask, hint, hrid, hsrc]
  by_cases hj : j.mask = ntohl 0xffffff00
  · simp [bind, Except.bind, hj]
  · simp [bind, Except.bind, hj, Ne.symm hj]

/-- **Sender and receiver agree** exactly if their mask is 255.255.255.0 and the receiver does not
have the sender for its neighbour at another address. -/
theorem understood_iff (env : Env) (uninit : ℕ → UInt8) (routerId : IpAddr) (i : SrIf)
    (ipId : UInt16) (s : RouterState) (interface : IfName) (j : SrIf)
    (hj : srGetInterface s.ifList interface = some j) (hmask : j.mask = i.mask) :
    Understood env (helloFrame uninit routerId i ipId) interface ⟨routerId, i.ip⟩ s ↔
      i.mask = ntohl 0xffffff00 ∧ (j.neighborId = routerId → j.neighborIp = i.ip) := by
  have hheard := srHandlePwospfHelloPacket_helloFrame uninit routerId i j ipId
  have hrecord : OnRecord (recordHeard interface ⟨routerId, i.ip⟩ ⟨s.ifList, s.neighbors⟩) interface
      ⟨routerId, i.ip⟩ ↔ (j.neighborId = routerId → j.neighborIp = i.ip) :=
    onRecord_recordHeard_iff hj
  unfold Understood
  rw [hj]
  by_cases hnet : i.mask = ntohl 0xffffff00
  · rw [hmask, if_pos hnet] at hheard
    have hreceive : receiveHello (helloFrame uninit routerId i ipId) interface
        ⟨s.ifList, s.neighbors⟩ = .ok (recordHeard interface ⟨routerId, i.ip⟩
          ⟨s.ifList, s.neighbors⟩) :=
      receiveHello_eq (by rw [hj]; exact hheard)
    constructor
    · rintro ⟨-, ⟨n, hn, hrec⟩, -⟩
      rw [hreceive] at hn
      obtain rfl := Except.ok.inj hn
      exact ⟨hnet, hrecord.mp hrec⟩
    · rintro ⟨-, hip⟩
      refine ⟨⟨_, hheard⟩, ⟨_, hreceive, hrecord.mpr hip⟩, fun s' hs' => ?_⟩
      rw [neighbors_of_ending hheard hs']
      exact hrecord.mpr hip
  · rw [hmask, if_neg hnet] at hheard
    constructor
    · rintro ⟨⟨heard, hsome⟩, -⟩
      rw [hheard] at hsome
      cases hsome
    · exact fun h => absurd h.1 hnet

/-- Both ends of a network 10.0.0.0/16. -/
def wideSender : SrIf :=
  ⟨"eth1".toList, generateEthernetAddr 1, 0x0101000a, 0x0000ffff, 0, 0, 0⟩

/-- The other end. -/
def wideReceiver : SrIf :=
  ⟨"eth2".toList, generateEthernetAddr 2, 0x0202000a, 0x0000ffff, 0, 0, 0⟩

/-- On this network they do not agree. -/
theorem wideReceiver_understood_iff :
    Understood quietEnv (helloFrame (fun _ => 0) 0x01010101 wideSender 0) "eth2".toList
        ⟨0x01010101, wideSender.ip⟩ (routerInit [wideReceiver] []) ↔
      wideSender.mask = ntohl 0xffffff00 ∧
        (wideReceiver.neighborId = 0x01010101 → wideReceiver.neighborIp = wideSender.ip) :=
  understood_iff quietEnv _ 0x01010101 wideSender 0 _ _ wideReceiver (by decide) rfl

/-- **The HELLO of an interface with another mask is dropped**, although the receiver has the
same mask. -/
theorem wideSender_not_understood :
    wideReceiver.mask = wideSender.mask ∧
      ¬ Understood quietEnv (helloFrame (fun _ => 0) 0x01010101 wideSender 0) "eth2".toList
        ⟨0x01010101, wideSender.ip⟩ (routerInit [wideReceiver] []) := by
  refine ⟨rfl, ?_⟩
  rintro ⟨⟨heard, hheard⟩, -⟩
  have hif : srGetInterface (routerInit [wideReceiver] []).ifList "eth2".toList =
      some wideReceiver := by decide
  have hmask : wideReceiver.mask ≠ ntohl 0xffffff00 := by decide
  rw [hif, srHandlePwospfHelloPacket_helloFrame, if_neg hmask] at hheard
  cases hheard

end Redes
