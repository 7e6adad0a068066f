import Redes.Router.System

/-!
# The router id

`pwospf_run_thread` takes the highest address of an interface for the router id.  It
compares the addresses as they are stored, in network order on a little-endian host, so
the last number of a dotted quad counts first and the first one last.

## Main definitions

* `dottedQuad` — the number that a dotted quad stands for.

## Main results

* `highestIp_spec` — what the loop over the interfaces finds.
* `routerId_highest_iff` — when the router id is the highest address.
-/

namespace Redes

/-- The number that the dotted quad of a stored address stands for. -/
def dottedQuad (ip : IpAddr) : ℕ := (ntohl ip).toNat

/-- The loop over the interfaces, from an id on. -/
theorem highestIp_loop (ifList : List SrIf) (id : IpAddr) :
    let result := ifList.foldl (fun id i => if id < i.ip then i.ip else id) id
    id ≤ result ∧ (∀ i ∈ ifList, i.ip ≤ result) ∧ (result = id ∨ ∃ i ∈ ifList, i.ip = result) := by
  induction ifList generalizing id with
  | nil => exact ⟨UInt32.le_refl _, by simp, .inl rfl⟩
  | cons i ifs ih =>
    rw [List.foldl_cons]
    obtain ⟨hle, hall, hmem⟩ := ih (if id < i.ip then i.ip else id)
    have hboth : id ≤ (if id < i.ip then i.ip else id) ∧ i.ip ≤ if id < i.ip then i.ip else id := by
      split
      · next hlt => exact ⟨UInt32.le_of_lt hlt, UInt32.le_refl _⟩
      · next hge => exact ⟨UInt32.le_refl _, UInt32.not_lt.mp hge⟩
    refine ⟨UInt32.le_trans hboth.1 hle, ?_, ?_⟩
    · intro j hj
      rcases List.mem_cons.mp hj with rfl | hj
      · exact UInt32.le_trans hboth.2 hle
      · exact hall j hj
    · rcases hmem with hmem | ⟨j, hj, heq⟩
      · rw [hmem]
        split
        · exact .inr ⟨i, List.mem_cons_self, rfl⟩
        · exact .inl rfl
      · exact .inr ⟨j, List.mem_cons_of_mem _ hj, heq⟩

/-- **What the loop finds**: the greatest address as the host compares them, which is one of
the interfaces' unless all of them are zero. -/
theorem highestIp_spec (ifList : List SrIf) :
    (∀ i ∈ ifList, i.ip ≤ highestIp ifList) ∧
      (highestIp ifList = 0 ∨ ∃ i ∈ ifList, i.ip = highestIp ifList) :=
  (highestIp_loop ifList 0).2

/-- With an address that is not zero, the loop ends with the address of an interface. -/
theorem highestIp_ne_zero {ifList : List SrIf} (h : ∃ i ∈ ifList, i.ip ≠ 0) :
    highestIp ifList ≠ 0 := by
  obtain ⟨i, hi, hne⟩ := h
  intro hzero
  have hle := (highestIp_spec ifList).1 i hi
  rw [hzero, UInt32.le_iff_toNat_le] at hle
  exact hne (UInt32.toNat_inj.mp (Nat.le_zero.mp hle))

/-- **The router id is the highest address exactly if some interface has the greatest address
both as it is stored and as it is written.** -/
theorem routerId_highest_iff (s : RouterState) (hstart : s.routerId = 0)
    (hip : ∃ i ∈ s.ifList, i.ip ≠ 0) :
    (pwospfRunThread s).routerId ≠ 0 ∧ (∃ i ∈ s.ifList, i.ip = (pwospfRunThread s).routerId) ∧
      ((∀ i ∈ s.ifList, dottedQuad i.ip ≤ dottedQuad (pwospfRunThread s).routerId) ↔
        ∃ i ∈ s.ifList, ∀ j ∈ s.ifList, j.ip ≤ i.ip ∧ dottedQuad j.ip ≤ dottedQuad i.ip) := by
  have hne := highestIp_ne_zero hip
  have hid : (pwospfRunThread s).routerId = highestIp s.ifList := by
    unfold pwospfRunThread
    rw [if_neg (by simp [hstart, hne])]
  obtain ⟨hle, hmem⟩ := highestIp_spec s.ifList
  obtain ⟨i, hi, heq⟩ := hmem.resolve_left hne
  rw [hid]
  refine ⟨hne, ⟨i, hi, heq⟩, ?_, ?_⟩
  · intro hhighest
    refine ⟨i, hi, fun j hj => ?_⟩
    rw [heq]
    exact ⟨hle j hj, hhighest j hj⟩
  · rintro ⟨k, hk, hall⟩ j hj
    -- `k` has the greatest stored address, which is what was found
    have hfound : k.ip = highestIp s.ifList :=
      UInt32.le_antisymm (hle k hk) (heq ▸ (hall i hi).1)
    rw [← hfound]
    exact (hall j hj).2

/-- Interfaces on 192.168.1.1 and 10.0.0.2. -/
def mixedLinks : List SrIf :=
  [⟨"eth1".toList, generateEthernetAddr 1, 0x0101a8c0, 0x00ffffff, 5, 0, 0⟩,
    ⟨"eth2".toList, generateEthernetAddr 2, 0x0200000a, 0x000000ff, 5, 0, 0⟩]

/-- The condition for these interfaces. -/
theorem routerId_highest_iff_mixedLinks :
    (pwospfRunThread (routerInit mixedLinks [])).routerId ≠ 0 ∧
      (∃ i ∈ mixedLinks, i.ip = (pwospfRunThread (routerInit mixedLinks [])).routerId) ∧
      ((∀ i ∈ mixedLinks, dottedQuad i.ip ≤
          dottedQuad (pwospfRunThread (routerInit mixedLinks [])).routerId) ↔
        ∃ i ∈ mixedLinks, ∀ j ∈ mixedLinks, j.ip ≤ i.ip ∧ dottedQuad j.ip ≤ dottedQuad i.ip) :=
  routerId_highest_iff (routerInit mixedLinks []) rfl (by decide)

/-- **The router id of these interfaces is 10.0.0.2, although 192.168.1.1 is higher.** -/
theorem mixedLinks_not_highest :
    (pwospfRunThread (routerInit mixedLinks [])).routerId = 0x0200000a ∧
      ¬ ∀ i ∈ mixedLinks, dottedQuad i.ip ≤
        dottedQuad (pwospfRunThread (routerInit mixedLinks [])).routerId := by
  decide

end Redes
