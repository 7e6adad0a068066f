import Redes.Lib.Sweep
import Redes.Pwospf.Packet

/-!
# The neighbours of a router

The list of `pwospf_neighbors.c`, what an accepted HELLO does to it and to the interface it
came through, and the sweep of `check_neighbors_life`.  A HELLO that is new to its
interface adds an entry for its sender whether there is one or not, and only the first entry
of a router is refreshed.

## Main definitions

* `Neighbor`, `NeighborList` — the list.
* `addNeighbor`, `refreshNeighborsAlive`, `checkNeighborsAlive` — the operations on it.
* `recordHeard`, `checkNeighborsLife` — what HELLOs and sweeps do.
* `NeighborRun` — runs of HELLOs and sweeps.
* `HeardWithin` — whether a router was heard within the last sweeps.
* `NewIsUnlisted` — the HELLOs that leave one entry for their sender.

## Main results

* `checkAliveLoop_eq` — the loop of `check_neighbors_alive` is a sweep.
* `receiveHello_eq` — a HELLO packet that is accepted is recorded.
* `neighborInv_of_run` — entries are as old as the last HELLO of their router.
* `live_neighbor_kept` — no neighbour that was heard is removed.
-/

namespace Redes

open Sweep

/-! ### The list -/

/-- `OSPF_NEIGHBOR_TIMEOUT`. -/
def ospfNeighborTimeout : UInt8 := 20

/-- `struct ospfv2_neighbor`. -/
structure Neighbor where
  /-- Router id of the neighbour. -/
  neighborId : IpAddr
  /-- Seconds until it is removed. -/
  alive : UInt8
  deriving DecidableEq

/-- `create_ospfv2_neighbor`. -/
def createOspfv2Neighbor (neighborId : IpAddr) : Neighbor := ⟨neighborId, ospfNeighborTimeout⟩

/-- The list at `g_neighbors`. -/
structure NeighborList where
  /-- The first node, with the router id 0, which is never removed. -/
  first : Neighbor
  /-- The nodes behind it. -/
  rest : List Neighbor
  deriving DecidableEq

/-- `add_neighbor`: behind the first node. -/
def addNeighbor (l : NeighborList) (n : Neighbor) : NeighborList := { l with rest := n :: l.rest }

/-- The entry after it was refreshed. -/
def Neighbor.refreshed (n : Neighbor) : Neighbor := { n with alive := ospfNeighborTimeout }

/-- The loop of `refresh_neighbors_alive`; `none` if there is no entry for the router. -/
def refreshAliveLoop (neighborId : IpAddr) : List Neighbor → Option (List Neighbor)
  | [] => none
  | ptr :: rest =>
      if ptr.neighborId = neighborId then some (ptr.refreshed :: rest)
      else (refreshAliveLoop neighborId rest).map (ptr :: ·)

/-- `refresh_neighbors_alive`. -/
def refreshNeighborsAlive (l : NeighborList) (neighborId : IpAddr) : NeighborList :=
  if l.first.neighborId = neighborId then { l with first := l.first.refreshed }
  else match refreshAliveLoop neighborId l.rest with
    | some rest => { l with rest := rest }
    | none => addNeighbor l (createOspfv2Neighbor neighborId)

/-- The loop of `check_neighbors_alive` over the nodes behind `ptr`: those that stay, and those
removed in front of `result`.  The node behind a removed one becomes `ptr` and is passed over. -/
def checkAliveLoop (result : List Neighbor) : List Neighbor → List Neighbor × List Neighbor
  | [] => ([], result)
  | [n] =>
      if n.alive = 0 then ([], createOspfv2Neighbor n.neighborId :: result)
      else ([{ n with alive := n.alive - 1 }], result)
  | n :: m :: rest =>
      if n.alive = 0 then
        let (kept, removed) := checkAliveLoop (createOspfv2Neighbor n.neighborId :: result) rest
        (m :: kept, removed)
      else
        let (kept, removed) := checkAliveLoop result (m :: rest)
        ({ n with alive := n.alive - 1 } :: kept, removed)

/-- `check_neighbors_alive`: the list and the neighbours removed from it. -/
def checkNeighborsAlive (l : NeighborList) : NeighborList × List Neighbor :=
  let (rest, removed) := checkAliveLoop [] l.rest
  ({ l with rest := rest }, removed)

/-! ### HELLOs and sweeps -/

/-- The interfaces and the neighbours. -/
structure NeighborState where
  /-- The interfaces. -/
  ifList : List SrIf
  /-- The list of neighbours. -/
  neighbors : NeighborList
  deriving DecidableEq

/-- Put a neighbour into the interface that `sr_get_interface` finds. -/
def setNeighbor (interface : IfName) (heard : Heard) : List SrIf → List SrIf
  | [] => []
  | i :: ifs =>
      if i.name = interface then
        { i with neighborId := heard.neighborId, neighborIp := heard.neighborIp } :: ifs
      else i :: setNeighbor interface heard ifs

/-- The HELLO is from another router than the one recorded for the interface. -/
def ChangesNeighbor (s : NeighborState) (interface : IfName) (heard : Heard) : Prop :=
  ∃ rxIf ∈ srGetInterface s.ifList interface, rxIf.neighborId ≠ heard.neighborId

instance (s : NeighborState) (interface : IfName) (heard : Heard) :
    Decidable (ChangesNeighbor s interface heard) :=
  inferInstanceAs (Decidable (∃ rxIf ∈ srGetInterface s.ifList interface, _))

/-- The end of `sr_handle_pwospf_hello_packet`, where the neighbour is recorded. -/
def recordHeard (interface : IfName) (heard : Heard) (s : NeighborState) : NeighborState :=
  let s :=
    if ChangesNeighbor s interface heard then
      { ifList := setNeighbor interface heard s.ifList
        neighbors := addNeighbor s.neighbors (createOspfv2Neighbor heard.neighborId) }
    else s
  { s with neighbors := refreshNeighborsAlive s.neighbors heard.neighborId }

/-- `sr_handle_pwospf_hello_packet`, as far as the neighbours are concerned. -/
def receiveHello (packet : Frame) (interface : IfName) (s : NeighborState) :
    Except Halt NeighborState := do
  match ← srHandlePwospfHelloPacket packet (srGetInterface s.ifList interface) with
  | none => .ok s
  | some heard => .ok (recordHeard interface heard s)

/-- The inner loop of `check_neighbors_life`. -/
def clearNeighbor (ifList : List SrIf) (neighborId : IpAddr) : List SrIf :=
  ifList.map fun iface =>
    if iface.neighborId = neighborId then { iface with neighborId := 0 } else iface

/-- One turn of the loop of `check_neighbors_life`. -/
def checkNeighborsLife (s : NeighborState) : NeighborState :=
  let (neighbors, removed) := checkNeighborsAlive s.neighbors
  { ifList := removed.foldl (fun ifList n => clearNeighbor ifList n.neighborId) s.ifList
    neighbors := neighbors }

/-! ### Runs -/

/-- What changes the neighbours. -/
inductive NeighborEvent
  /-- A HELLO is accepted. -/
  | hello (interface : IfName) (heard : Heard)
  /-- `check_neighbors_life` wakes up. -/
  | sweep
  deriving DecidableEq

/-- The state after an event. -/
def NeighborEvent.apply (s : NeighborState) : NeighborEvent → NeighborState
  | .hello interface heard => recordHeard interface heard s
  | .sweep => checkNeighborsLife s

/-- A HELLO comes through an interface of the router. -/
def NeighborEvent.Received (s : NeighborState) : NeighborEvent → Prop
  | .hello interface _ => srGetInterface s.ifList interface ≠ none
  | .sweep => True

/-- Runs from the list that `pwospf_init` leaves, the last event first, whose events are
allowed in the states that they find. -/
inductive NeighborRun (allowed : NeighborState → NeighborEvent → Prop) :
    List NeighborEvent → NeighborState → Prop
  /-- The first node only. -/
  | init (ifList : List SrIf) : NeighborRun allowed [] ⟨ifList, ⟨createOspfv2Neighbor 0, []⟩⟩
  /-- One more event. -/
  | step {past : List NeighborEvent} {s : NeighborState} {e : NeighborEvent} :
      NeighborRun allowed past s → e.Received s → allowed s e →
        NeighborRun allowed (e :: past) (e.apply s)

/-- Fewer than `n` sweeps have been made since the last HELLO of a router. -/
def HeardWithin (neighborId : IpAddr) : ℕ → List NeighborEvent → Bool
  | 0, _ => false
  | _ + 1, [] => false
  | n + 1, .hello _ heard :: past =>
      heard.neighborId = neighborId || HeardWithin neighborId (n + 1) past
  | n + 1, .sweep :: past => HeardWithin neighborId n past

/-- The neighbour of some interface is cleared. -/
def Clears (neighborId : IpAddr) (s s' : NeighborState) : Prop :=
  ∃ (k : ℕ) (i i' : SrIf), s.ifList[k]? = some i ∧ s'.ifList[k]? = some i' ∧
    i.neighborId = neighborId ∧ i'.neighborId ≠ neighborId

/-- A HELLO that is new to its interface is from a router without an entry. -/
def NewIsUnlisted (s : NeighborState) : NeighborEvent → Prop
  | .hello interface heard => ChangesNeighbor s interface heard → heard.neighborId ≠ 0 →
      ∀ n ∈ s.neighbors.rest, n.neighborId ≠ heard.neighborId
  | .sweep => True

instance (s : NeighborState) (e : NeighborEvent) : Decidable (e.Received s) :=
  match e with
  | .hello interface _ => inferInstanceAs (Decidable (srGetInterface s.ifList interface ≠ none))
  | .sweep => .isTrue trivial

instance (s : NeighborState) (e : NeighborEvent) : Decidable (NewIsUnlisted s e) :=
  match e with
  | .hello interface heard => inferInstanceAs (Decidable (ChangesNeighbor s interface heard →
      heard.neighborId ≠ 0 → ∀ n ∈ s.neighbors.rest, n.neighborId ≠ heard.neighborId))
  | .sweep => .isTrue trivial

/-- A packet that passes the checks of the handler is recorded. -/
theorem receiveHello_eq {packet : Frame} {interface : IfName} {s : NeighborState} {heard : Heard}
    (h : srHandlePwospfHelloPacket packet (srGetInterface s.ifList interface) = .ok (some heard)) :
    receiveHello packet interface s = .ok (recordHeard interface heard s) := by
  unfold receiveHello
  rw [h]
  rfl

/-! ### What the operations do -/

/-- **A refresh** changes the first entry of a router, if there is one. -/
theorem refreshAliveLoop_spec (neighborId : IpAddr) (l : List Neighbor) :
    (refreshAliveLoop neighborId l = none ∧ ∀ n ∈ l, n.neighborId ≠ neighborId) ∨
      ∃ pre n post, l = pre ++ n :: post ∧ n.neighborId = neighborId ∧
        refreshAliveLoop neighborId l = some (pre ++ n.refreshed :: post) := by
  induction l with
  | nil => exact .inl ⟨rfl, by simp⟩
  | cons ptr rest ih =>
    unfold refreshAliveLoop
    by_cases hptr : ptr.neighborId = neighborId
    · rw [if_pos hptr]
      exact .inr ⟨[], ptr, rest, rfl, hptr, rfl⟩
    · rw [if_neg hptr]
      rcases ih with ⟨hnone, hrest⟩ | ⟨pre, n, post, rfl, hn, hsome⟩
      · rw [hnone]
        refine .inl ⟨rfl, ?_⟩
        intro m hm
        rcases List.mem_cons.mp hm with rfl | hm
        · exact hptr
        · exact hrest m hm
      · rw [hsome]
        exact .inr ⟨ptr :: pre, n, post, rfl, hn, rfl⟩

theorem toNat_le_pred_add_one (alive : UInt8) : alive.toNat ≤ (alive - 1).toNat + 1 := by
  by_cases h0 : alive = 0
  · rw [h0]
    decide
  · have hpos : 0 < alive.toNat := by
      rcases Nat.eq_zero_or_pos alive.toNat with hzero | hpos
      · exact absurd (UInt8.toNat_inj.mp hzero) h0
      · exact hpos
    have hone : (1 : UInt8) ≤ alive := UInt8.le_iff_toNat_le.mpr hpos
    rw [UInt8.toNat_sub_of_le _ _ hone]
    show alive.toNat ≤ alive.toNat - 1 + 1
    omega

/-- A neighbour with a second less to live. -/
def Neighbor.older (n : Neighbor) : Neighbor := { n with alive := n.alive - 1 }

theorem Neighbor.neighborId_older (n : Neighbor) : n.older.neighborId = n.neighborId := rfl

theorem Neighbor.older_ne (n : Neighbor) : n.older ≠ n := by
  intro h
  have halive : n.alive - 1 = n.alive := congrArg Neighbor.alive h
  have htoNat := congrArg UInt8.toNat halive
  rw [UInt8.toNat_sub, UInt8.toNat_one] at htoNat
  have hlt := n.alive.toNat_lt
  omega

/-- A neighbour that is removed. -/
def Neighbor.Dead (n : Neighbor) : Prop := n.alive = 0

instance : DecidablePred Neighbor.Dead := fun n => inferInstanceAs (Decidable (n.alive = 0))

/-- **The loop of `check_neighbors_alive` is a sweep**; what it removes comes in the opposite
order. -/
theorem checkAliveLoop_eq (result l : List Neighbor) :
    checkAliveLoop result l = (sweepKept Neighbor.Dead Neighbor.older l,
      ((sweepRemoved Neighbor.Dead l).map fun n => createOspfv2Neighbor n.neighborId).reverse ++
        result) := by
  fun_induction checkAliveLoop result l with
  | case1 result => rfl
  | case2 result n hn => simp [sweepKept, sweepRemoved, Neighbor.Dead, hn]
  | case3 result n hn => simp [sweepKept, sweepRemoved, Neighbor.Dead, hn, Neighbor.older]
  | case4 result n m rest hn kept removed heq ih =>
    have hdead : n.Dead := hn
    rw [heq] at ih
    obtain ⟨hkept, hremoved⟩ := Prod.mk.inj ih
    rw [sweepKept, sweepRemoved, if_pos hdead, if_pos hdead, hkept, hremoved]
    simp
  | case5 result n m rest hn kept removed heq ih =>
    have hdead : ¬ n.Dead := hn
    rw [heq] at ih
    obtain ⟨hkept, hremoved⟩ := Prod.mk.inj ih
    rw [sweepKept_cons_of_neg hdead, sweepRemoved_cons_of_neg hdead, hkept, hremoved]
    rfl

/-- **A sweep** takes at most one second from an entry that stays, and removes none that has
time left. -/
theorem checkAliveLoop_spec (result l : List Neighbor) :
    ((checkAliveLoop result l).1.map Neighbor.neighborId).Sublist (l.map Neighbor.neighborId) ∧
      (∀ x ∈ (checkAliveLoop result l).1, ∃ n ∈ l, x.neighborId = n.neighborId ∧
        n.alive.toNat ≤ x.alive.toNat + 1) ∧
      ∀ x ∈ (checkAliveLoop result l).2, x ∈ result ∨
        ∃ n ∈ l, n.alive = 0 ∧ x.neighborId = n.neighborId := by
  rw [checkAliveLoop_eq]
  refine ⟨map_sweepKept_sublist Neighbor.neighborId_older l, ?_, ?_⟩
  · intro x hx
    rcases mem_sweepKept hx with hx | ⟨n, hn, -, rfl⟩
    · exact ⟨x, hx, rfl, Nat.le_succ _⟩
    · exact ⟨n, hn, rfl, toNat_le_pred_add_one n.alive⟩
  · intro x hx
    rcases List.mem_append.mp hx with hx | hx
    · obtain ⟨n, hn, rfl⟩ := List.mem_map.mp (List.mem_reverse.mp hx)
      obtain ⟨hn, hdead⟩ := mem_sweepRemoved hn
      exact .inr ⟨n, hn, hdead, rfl⟩
    · exact .inl hx

/-- An interface keeps its neighbour, or loses one that was removed. -/
theorem foldl_clearNeighbor_getElem? {removed : List Neighbor} {ifList : List SrIf} {k : ℕ}
    {i i' : SrIf} (hi : ifList[k]? = some i)
    (hi' : (removed.foldl (fun l n => clearNeighbor l n.neighborId) ifList)[k]? = some i') :
    i'.neighborId = i.neighborId ∨
      (i'.neighborId = 0 ∧ ∃ n ∈ removed, n.neighborId = i.neighborId) := by
  induction removed generalizing ifList i with
  | nil =>
    rw [List.foldl_nil, hi] at hi'
    cases hi'
    exact .inl rfl
  | cons n removed ih =>
    rw [List.foldl_cons] at hi'
    have hone : (clearNeighbor ifList n.neighborId)[k]? =
        some (if i.neighborId = n.neighborId then { i with neighborId := 0 } else i) := by
      rw [clearNeighbor, List.getElem?_map, hi]
      rfl
    by_cases hin : i.neighborId = n.neighborId
    · rw [if_pos hin] at hone
      right
      rcases ih hone hi' with heq | ⟨h0, -⟩
      · exact ⟨heq, n, List.mem_cons_self, hin.symm⟩
      · exact ⟨h0, n, List.mem_cons_self, hin.symm⟩
    · rw [if_neg hin] at hone
      rcases ih hone hi' with heq | ⟨h0, m, hm, hmi⟩
      · exact .inl heq
      · exact .inr ⟨h0, m, List.mem_cons_of_mem _ hm, hmi⟩

/-- What a sweep clears was removed from the list. -/
theorem clears_checkNeighborsLife {r : IpAddr} {s : NeighborState}
    (h : Clears r s (checkNeighborsLife s)) :
    r ≠ 0 ∧ ∃ n ∈ s.neighbors.rest, n.alive = 0 ∧ n.neighborId = r := by
  obtain ⟨k, i, i', hi, hi', rfl, hne⟩ := h
  have hlast := (checkAliveLoop_spec [] s.neighbors.rest).2.2
  unfold checkNeighborsLife checkNeighborsAlive at hi'
  simp only at hi'
  rcases foldl_clearNeighbor_getElem? hi hi' with heq | ⟨h0, n, hn, hni⟩
  · exact absurd heq hne
  · rcases hlast n hn with hnil | ⟨m, hm, hm0, hmn⟩
    · exact absurd hnil List.not_mem_nil
    · exact ⟨fun hr => hne (h0.trans hr.symm), m, hm, hm0, hmn.symm.trans hni⟩

/-! ### Entries are as old as the last HELLO -/

/-- What holds in every run whose HELLOs leave one entry for their sender. -/
structure NeighborInv (past : List NeighborEvent) (s : NeighborState) : Prop where
  /-- A router has one entry. -/
  unique : ∀ r, r ≠ 0 → (s.neighbors.rest.map Neighbor.neighborId).count r ≤ 1
  /-- An entry has not lost more than a second for each sweep since the last HELLO. -/
  alive : ∀ n ∈ s.neighbors.rest, n.neighborId ≠ 0 → ∀ k, HeardWithin n.neighborId k past = true →
    20 < n.alive.toNat + k

/-- A router that was heard within no sweep was not heard. -/
theorem heardWithin_zero (r : IpAddr) (past : List NeighborEvent) :
    HeardWithin r 0 past = false := by
  cases past <;> rfl

theorem heardWithin_hello_of_ne {r : IpAddr} {interface : IfName} {heard : Heard}
    {past : List NeighborEvent} (hne : heard.neighborId ≠ r) (k : ℕ) :
    HeardWithin r k (.hello interface heard :: past) = HeardWithin r k past := by
  cases k with
  | zero => rw [heardWithin_zero, heardWithin_zero]
  | succ k => simp [HeardWithin, hne]

theorem NeighborInv.sweep {past : List NeighborEvent} {s : NeighborState} (h : NeighborInv past s) :
    NeighborInv (.sweep :: past) (checkNeighborsLife s) := by
  obtain ⟨hsub, hkept, -⟩ := checkAliveLoop_spec [] s.neighbors.rest
  refine ⟨fun r hr => (hsub.count_le r).trans (h.unique r hr), ?_⟩
  intro x hx hx0 k hk
  obtain ⟨n, hn, hid, hle⟩ := hkept x hx
  rw [hid] at hx0 hk
  cases k with
  | zero =>
    rw [heardWithin_zero] at hk
    cases hk
  | succ k =>
    have := h.alive n hn hx0 k hk
    omega

/-- A list in which a router is heard: its entries are fresh, the others are as they were. -/
theorem NeighborInv.hello {past : List NeighborEvent} {s s' : NeighborState}
    (h : NeighborInv past s) {interface : IfName} {heard : Heard}
    (hunique : ∀ r, r ≠ 0 → (s'.neighbors.rest.map Neighbor.neighborId).count r ≤ 1)
    (hfresh : ∀ n ∈ s'.neighbors.rest, (n.neighborId ≠ 0 → n.neighborId = heard.neighborId →
      n.alive = ospfNeighborTimeout) ∧ (n.neighborId ≠ heard.neighborId → n ∈ s.neighbors.rest)) :
    NeighborInv (.hello interface heard :: past) s' := by
  refine ⟨hunique, ?_⟩
  intro n hn hn0 k hk
  by_cases hid : n.neighborId = heard.neighborId
  · rw [(hfresh n hn).1 hn0 hid]
    have hk0 : k ≠ 0 := by
      rintro rfl
      rw [heardWithin_zero] at hk
      cases hk
    show 20 < 20 + k
    omega
  · rw [heardWithin_hello_of_ne (Ne.symm hid)] at hk
    exact h.alive n ((hfresh n hn).2 hid) hn0 k hk

/-- An entry for a router that has none is its only one. -/
theorem count_createOspfv2Neighbor_le {l : List Neighbor} {r : IpAddr}
    (hunique : ∀ q, q ≠ 0 → (l.map Neighbor.neighborId).count q ≤ 1)
    (hno : r ≠ 0 → ∀ n ∈ l, n.neighborId ≠ r) (q : IpAddr) (hq : q ≠ 0) :
    ((createOspfv2Neighbor r :: l).map Neighbor.neighborId).count q ≤ 1 := by
  rw [List.map_cons, List.count_cons]
  by_cases hqr : r = q
  · have hzero : (l.map Neighbor.neighborId).count q = 0 := by
      rw [List.count_eq_zero, List.mem_map]
      rintro ⟨n, hn, hnq⟩
      exact hno (hqr ▸ hq) n hn (hnq.trans hqr.symm)
    rw [hzero]
    split <;> omega
  · rw [if_neg (by simpa [createOspfv2Neighbor] using hqr)]
    exact hunique q hq

/-- **A refresh makes the only entry of a router fresh.** -/
theorem refreshNeighborsAlive_spec {l : NeighborList} {r : IpAddr} (hfirst : l.first.neighborId = 0)
    (hunique : ∀ q, q ≠ 0 → (l.rest.map Neighbor.neighborId).count q ≤ 1) :
    (∀ q, q ≠ 0 → ((refreshNeighborsAlive l r).rest.map Neighbor.neighborId).count q ≤ 1) ∧
      ∀ n ∈ (refreshNeighborsAlive l r).rest, (n.neighborId ≠ 0 → n.neighborId = r →
        n.alive = ospfNeighborTimeout) ∧ (n.neighborId ≠ r → n ∈ l.rest) := by
  unfold refreshNeighborsAlive
  rw [hfirst]
  by_cases hr : (0 : IpAddr) = r
  · rw [if_pos hr]
    exact ⟨hunique, fun n hn => ⟨fun hn0 hnr => absurd (hnr.trans hr.symm) hn0, fun _ => hn⟩⟩
  · rw [if_neg hr]
    rcases refreshAliveLoop_spec r l.rest with ⟨hnone, hrest⟩ | ⟨pre, n, post, hl, hn, hsome⟩
    · rw [hnone]
      constructor
      · exact count_createOspfv2Neighbor_le hunique fun _ => hrest
      · intro n hn
        rcases List.mem_cons.mp hn with rfl | hn
        · exact ⟨fun _ _ => rfl, fun hne => absurd rfl hne⟩
        · exact ⟨fun _ hnr => absurd hnr (hrest n hn), fun _ => hn⟩
    · rw [hsome]
      have hids : (pre ++ n.refreshed :: post).map Neighbor.neighborId =
          l.rest.map Neighbor.neighborId := by simp [hl, Neighbor.refreshed]
      -- there is no other entry of the router
      have hothers : ∀ m ∈ pre ++ post, m.neighborId ≠ r := by
        intro m hm hmr
        have hcount := hunique r (Ne.symm hr)
        have hpos : 0 < ((pre ++ post).map Neighbor.neighborId).count r :=
          List.count_pos_iff.mpr (List.mem_map.mpr ⟨m, hm, hmr⟩)
        rw [List.map_append, List.count_append] at hpos
        rw [hl, List.map_append, List.map_cons, List.count_append, List.count_cons,
          if_pos (by simp [hn])] at hcount
        omega
      refine ⟨fun q hq => by rw [hids]; exact hunique q hq, ?_⟩
      intro m hm
      rw [List.mem_append, List.mem_cons] at hm
      by_cases hmn : m = n.refreshed
      · subst hmn
        exact ⟨fun _ _ => rfl, fun hne => absurd hn hne⟩
      · have hm' : m ∈ pre ∨ m ∈ post := by
          rcases hm with hm | hm | hm
          · exact .inl hm
          · exact absurd hm hmn
          · exact .inr hm
        refine ⟨fun _ hmr => absurd hmr (hothers m (List.mem_append.mpr hm')), fun _ => ?_⟩
        rw [hl, List.mem_append, List.mem_cons]
        rcases hm' with hm | hm
        · exact .inl hm
        · exact .inr (.inr hm)

/-- The first node keeps its router id. -/
theorem refreshNeighborsAlive_first (l : NeighborList) (r : IpAddr) :
    (refreshNeighborsAlive l r).first.neighborId = l.first.neighborId := by
  unfold refreshNeighborsAlive
  split
  · rfl
  · split <;> rfl

theorem recordHeard_first (interface : IfName) (heard : Heard) (s : NeighborState) :
    (recordHeard interface heard s).neighbors.first.neighborId = s.neighbors.first.neighborId := by
  unfold recordHeard
  rw [refreshNeighborsAlive_first]
  split <;> rfl

/-- **A HELLO that leaves one entry for its sender** makes it fresh. -/
theorem NeighborInv.recordHeard {past : List NeighborEvent} {s : NeighborState}
    (h : NeighborInv past s) (hfirst : s.neighbors.first.neighborId = 0) {interface : IfName}
    {heard : Heard} (hnew : NewIsUnlisted s (.hello interface heard)) :
    NeighborInv (.hello interface heard :: past) (recordHeard interface heard s) := by
  by_cases hchange : ChangesNeighbor s interface heard
  · -- the sender gets an entry, which is its only one
    have hadded : ∀ q, q ≠ 0 → ((addNeighbor s.neighbors
        (createOspfv2Neighbor heard.neighborId)).rest.map Neighbor.neighborId).count q ≤ 1 :=
      count_createOspfv2Neighbor_le h.unique (hnew hchange)
    obtain ⟨hcount, hfresh⟩ := refreshNeighborsAlive_spec (r := heard.neighborId)
      (l := addNeighbor s.neighbors (createOspfv2Neighbor heard.neighborId)) hfirst hadded
    unfold Redes.recordHeard
    rw [if_pos hchange]
    refine h.hello hcount ?_
    intro n hn
    refine ⟨(hfresh n hn).1, fun hne => ?_⟩
    rcases List.mem_cons.mp ((hfresh n hn).2 hne) with rfl | hmem
    · exact absurd rfl hne
    · exact hmem
  · obtain ⟨hcount, hfresh⟩ := refreshNeighborsAlive_spec (r := heard.neighborId) hfirst h.unique
    unfold Redes.recordHeard
    rw [if_neg hchange]
    exact h.hello hcount hfresh

/-- **Entries are as old as the last HELLO of their router**, in every run whose HELLOs leave
one entry for their sender. -/
theorem neighborInv_of_run {past : List NeighborEvent} {s : NeighborState}
    (h : NeighborRun NewIsUnlisted past s) :
    NeighborInv past s ∧ s.neighbors.first.neighborId = 0 := by
  induction h with
  | init ifList => exact ⟨⟨by simp, by simp⟩, rfl⟩
  | @step past s e _ _ hnew ih =>
    cases e with
    | hello interface heard =>
      exact ⟨ih.1.recordHeard ih.2 hnew, (recordHeard_first interface heard s).trans ih.2⟩
    | sweep => exact ⟨ih.1.sweep, ih.2⟩

/-- **A live neighbour is not removed** in a run in which every HELLO that is new to its interface
comes from a router without an entry: what a sweep clears has not been heard during the last
20 sweeps. -/
theorem live_neighbor_kept {past : List NeighborEvent} {s : NeighborState}
    (h : NeighborRun NewIsUnlisted past s) {r : IpAddr}
    (hclear : Clears r s (checkNeighborsLife s)) :
    HeardWithin r 20 past = false := by
  obtain ⟨hr, n, hn, hn0, rfl⟩ := clears_checkNeighborsLife hclear
  have halive := (neighborInv_of_run h).1.alive n hn hr 20
  rw [Bool.eq_false_iff]
  intro hheard
  have hlt := halive hheard
  rw [hn0] at hlt
  exact absurd hlt (by decide)

/-! ### A router with two links, for examples -/

/-- The state after some events, the last one first. -/
def afterEvents (s : NeighborState) : List NeighborEvent → NeighborState
  | [] => s
  | e :: past => e.apply (afterEvents s past)

/-- The events are received, and allowed, in the states that they find. -/
def AllowedFrom (allowed : NeighborState → NeighborEvent → Prop) (s : NeighborState) :
    List NeighborEvent → Prop
  | [] => True
  | e :: past => AllowedFrom allowed s past ∧ e.Received (afterEvents s past) ∧
      allowed (afterEvents s past) e

instance decidableAllowedFrom (allowed : NeighborState → NeighborEvent → Prop)
    [∀ s e, Decidable (allowed s e)] (s : NeighborState) :
    ∀ past, Decidable (AllowedFrom allowed s past)
  | [] => .isTrue trivial
  | _ :: past =>
      have := decidableAllowedFrom allowed s past
      inferInstanceAs (Decidable (_ ∧ _ ∧ _))

theorem neighborRun_afterEvents {allowed : NeighborState → NeighborEvent → Prop}
    (ifList : List SrIf)
    {past : List NeighborEvent}
    (h : AllowedFrom allowed ⟨ifList, ⟨createOspfv2Neighbor 0, []⟩⟩ past) :
    NeighborRun allowed past (afterEvents ⟨ifList, ⟨createOspfv2Neighbor 0, []⟩⟩ past) := by
  induction past with
  | nil => exact .init ifList
  | cons e past ih => exact .step (ih h.1) h.2.1 h.2.2

/-- Two interfaces, on 10.0.1.0/24 and 10.0.2.0/24. -/
def twoLinks : List SrIf :=
  [⟨"eth1".toList, generateEthernetAddr 1, 0x0101000a, 0x00ffffff, 5, 0, 0⟩,
    ⟨"eth2".toList, generateEthernetAddr 2, 0x0102000a, 0x00ffffff, 5, 0, 0⟩]

/-- A HELLO of the router 10.0.3.9 on the first of them. -/
def helloLeft : NeighborEvent := .hello "eth1".toList ⟨0x0903000a, 0x0901000a⟩
/-- Its HELLO on the second. -/
def helloRight : NeighborEvent := .hello "eth2".toList ⟨0x0903000a, 0x0902000a⟩

/-- A neighbour that falls silent is removed in time. -/
theorem silent_neighbor_removed :
    HeardWithin 0x0903000a 20 (List.replicate 20 .sweep ++ [helloLeft]) = false :=
  live_neighbor_kept (neighborRun_afterEvents twoLinks (by decide))
    ⟨0, _, _, rfl, rfl, by decide, by decide⟩

/-- The router is heard on both links, and then once a second on the first. -/
def heardOnBoth : List NeighborEvent :=
  helloLeft :: (List.replicate 20 [.sweep, helloLeft]).flatten ++ [helloRight, helloLeft]

/-- What is left of its two entries before the next sweep. -/
def heardOnBothState : NeighborState where
  ifList :=
    [⟨"eth1".toList, generateEthernetAddr 1, 0x0101000a, 0x00ffffff, 5, 0x0903000a, 0x0901000a⟩,
    ⟨"eth2".toList, generateEthernetAddr 2, 0x0102000a, 0x00ffffff, 5, 0x0903000a, 0x0902000a⟩]
  neighbors := ⟨createOspfv2Neighbor 0, [⟨0x0903000a, 20⟩, ⟨0x0903000a, 0⟩]⟩

/-- A live neighbour that is heard on two interfaces is removed. -/
theorem live_neighbor_removed :
    NeighborRun (fun _ _ => True) heardOnBoth heardOnBothState ∧
      Clears 0x0903000a heardOnBothState (checkNeighborsLife heardOnBothState) ∧
        HeardWithin 0x0903000a 1 heardOnBoth = true := by
  have hstate : afterEvents ⟨twoLinks, ⟨createOspfv2Neighbor 0, []⟩⟩ heardOnBoth =
      heardOnBothState := by decide +kernel
  refine ⟨?_, ⟨0, _, _, rfl, rfl, by decide, by decide⟩, by decide⟩
  rw [← hstate]
  exact neighborRun_afterEvents twoLinks (by decide +kernel)

end Redes
