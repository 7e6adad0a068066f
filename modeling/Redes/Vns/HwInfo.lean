import Redes.Router.ArpPacket
import Redes.Vns.Wire

/-!
# The interfaces that the server tells

A router has no interfaces until its server sends them.  `sr_handle_hwinfo` goes through the
entries of the message: an entry with a name adds an interface at the end of the list, and the
entries with addresses are about the interface at the end.  A new interface is a block of
`malloc`, of which only some fields are set.

## Main definitions

* `srAddInterface`, `srSetEtherAddr`, `srSetEtherIp`, `srSetEtherMask` — the interface list.
* `srHandleHwinfo` — the message.
* `VnsInterface.srIf` — the interface that the server means.

## Main results

* `srHandleHwinfo_hardwareInfo` — the list has the interfaces that the server means.
-/

namespace Redes

open Bytes

/-! ### The interface list -/

/-- `sr_IFACE_NAMELEN`. -/
def srIfaceNamelen : ℕ := 32

/-- `sr_add_interface`.  `block` is what `malloc` returns; the address at 32, the IP address at 40
and the mask at 56 stay what they are there. -/
def srAddInterface (block : ℕ → UInt8) (ifList : List SrIf) (name : List UInt8) : List SrIf :=
  let mem := (List.range 72).map block
  ifList ++ [{
    name := nameOfBytes (cBytes (strncpy srIfaceNamelen name))
    addr := loadMac mem 32
    ip := load32 mem 40
    mask := load32 mem 56
    helloint := 0
    neighborId := 0
    neighborIp := 0 }]

/-- The walk to the last interface, which asserts that there is one. -/
def updateLast (f : SrIf → SrIf) (ifList : List SrIf) : Except Halt (List SrIf) :=
  match ifList.getLast? with
  | none => .error .assertion
  | some last => .ok (ifList.dropLast ++ [f last])

/-- `sr_set_ether_addr`. -/
def srSetEtherAddr (ifList : List SrIf) (addr : List UInt8) : Except Halt (List SrIf) :=
  updateLast (fun i => { i with addr := loadMac addr 0 }) ifList

/-- `sr_set_ether_ip`. -/
def srSetEtherIp (ifList : List SrIf) (ipNbo : IpAddr) : Except Halt (List SrIf) :=
  updateLast (fun i => { i with ip := ipNbo }) ifList

/-- `sr_set_ether_mask`. -/
def srSetEtherMask (ifList : List SrIf) (maskNbo : IpAddr) : Except Halt (List SrIf) :=
  updateLast (fun i => { i with mask := maskNbo }) ifList

/-! ### The message -/

/-- One entry: a key, and a value of 32 bytes.  The other keys are printed only. -/
def srHandleHwEntry (block : ℕ → UInt8) (ifList : List SrIf) (entry : List UInt8) :
    Except Halt (List SrIf) :=
  let key := (ntohl (load32 entry 0)).toNat
  let value := slice entry 4 32
  if key = hwInterface then .ok (srAddInterface block ifList value)
  else if key = hwMask then srSetEtherMask ifList (load32 value 0)
  else if key = hwEthIp then srSetEtherIp ifList (load32 value 0)
  else if key = hwEther then srSetEtherAddr ifList value
  else .ok ifList

/-- `sr_handle_hwinfo`.  The blocks that `malloc` returns are `blocks`. -/
def srHandleHwinfo (blocks : ℕ → ℕ → UInt8) (hwinfo : List UInt8) (ifList : List SrIf) :
    Except Halt (List SrIf) :=
  let numEntries := (hwinfo.length - 8) / 36
  (List.range numEntries).foldlM
    (fun ifList i => srHandleHwEntry (blocks i) ifList (slice hwinfo (8 + 36 * i) 36)) ifList

/-! ### What the server means -/

/-- The interface that the server means. -/
def VnsInterface.srIf (i : VnsInterface) : SrIf where
  name := nameOfBytes ((cBytes i.name).take srIfaceNamelen)
  addr := ⟨i.mac, i.length_mac⟩
  ip := load32 i.ip 0
  mask := load32 i.mask 0
  helloint := 0
  neighborId := 0
  neighborIp := 0

/-- The six entries of an interface. -/
def VnsInterface.entries (i : VnsInterface) : List (List UInt8) :=
  [octets 4 hwInterface ++ packString 32 i.name,
    octets 4 hwSpeed ++ (octets 4 0 ++ packString 28 []),
    octets 4 hwEther ++ packString 32 i.mac,
    octets 4 hwEthIp ++ (packString 4 i.ip ++ packString 28 []),
    octets 4 hwSubnet ++ (octets 4 0 ++ packString 28 []),
    octets 4 hwMask ++ (packString 4 i.mask ++ packString 28 [])]

theorem flatten_entries (i : VnsInterface) : i.entries.flatten = i.pack := by
  simp only [VnsInterface.entries, VnsInterface.pack, List.flatten_cons, List.flatten_nil,
    List.append_nil, List.append_assoc]

theorem length_of_mem_entries {i : VnsInterface} {entry : List UInt8} (h : entry ∈ i.entries) :
    entry.length = 36 := by
  simp only [VnsInterface.entries, List.mem_cons, List.not_mem_nil, or_false] at h
  rcases h with rfl | rfl | rfl | rfl | rfl | rfl <;> simp

/-- Entries one after the other, the first one with the block `k`. -/
def handleEntries (blocks : ℕ → ℕ → UInt8) : ℕ → List (List UInt8) → List SrIf →
    Except Halt (List SrIf)
  | _, [], ifList => .ok ifList
  | k, entry :: entries, ifList =>
      srHandleHwEntry (blocks k) ifList entry >>= handleEntries blocks (k + 1) entries

/-- **The loop goes through the entries.** -/
theorem foldlM_entries (blocks : ℕ → ℕ → UInt8) {entries : List (List UInt8)}
    (h : ∀ entry ∈ entries, entry.length = 36) {front : List UInt8} {k : ℕ}
    (hfront : front.length = 8 + 36 * k) (ifList : List SrIf) :
    (List.range' k entries.length).foldlM (fun ifList i => srHandleHwEntry (blocks i) ifList
      (slice (front ++ entries.flatten) (8 + 36 * i) 36)) ifList =
      handleEntries blocks k entries ifList := by
  -- what is in front of the entries grows by 36 bytes with each one
  induction entries generalizing front k ifList with
  | nil => rfl
  | cons entry entries ih =>
    have hentry := h entry List.mem_cons_self
    have hslice : slice (front ++ (entry :: entries).flatten) (8 + 36 * k) 36 = entry := by
      rw [slice, ← hfront, List.drop_left, List.flatten_cons, ← hentry, List.take_left]
    rw [List.length_cons, List.range'_succ, List.foldlM_cons, handleEntries, hslice]
    congr 1
    funext ifList
    rw [List.flatten_cons, ← List.append_assoc]
    exact ih (fun e he => h e (List.mem_cons_of_mem entry he)) (by
      rw [List.length_append, hfront, hentry]
      omega) ifList

@[simp] theorem updateLast_concat (f : SrIf → SrIf) (ifList : List SrIf) (i : SrIf) :
    updateLast f (ifList ++ [i]) = .ok (ifList ++ [f i]) := by
  rw [updateLast, List.getLast?_concat, List.dropLast_concat]

/-- A number at the front of what follows. -/
theorem ntohl_octets {n : ℕ} (h : n < 2 ^ 32) (rest : List UInt8) :
    (ntohl (load32 (octets 4 n ++ rest) 0)).toNat = n := by
  have hslice : slice (octets 4 n ++ rest) 0 4 = octets 4 n :=
    List.take_left' (length_octets 4 n)
  rw [ntohl_load32 (by simp), hslice, number_octets, UInt32.toNat_ofNat']
  omega

/-- The value of an entry. -/
theorem value_eq (key : ℕ) {value : List UInt8} (h : value.length = 32) :
    slice (octets 4 key ++ value) 4 32 = value := by
  rw [slice, List.drop_left' (length_octets 4 key), ← h, List.take_length]

/-- The first six bytes of a value. -/
theorem loadMac_packString (mac : Mac) : loadMac (packString 32 mac.bytes) 0 = mac := by
  obtain ⟨bytes, hlen⟩ := mac
  match bytes, hlen with
  | [a, b, c, d, e, f], _ => rfl

/-- The first four bytes of a value. -/
theorem load32_packString {s : List UInt8} (h : s.length = 4) (rest : List UInt8) :
    load32 (packString 4 s ++ rest) 0 = load32 s 0 := by
  match s, h with
  | [a, b, c, d], _ => rfl

section Entries

variable {value : List UInt8} (hvalue : value.length = 32) (block : ℕ → UInt8) (ifList : List SrIf)
include hvalue

theorem srHandleHwEntry_interface :
    srHandleHwEntry block ifList (octets 4 hwInterface ++ value) =
      .ok (srAddInterface block ifList value) := by
  rw [srHandleHwEntry, ntohl_octets (by decide), value_eq hwInterface hvalue]
  rfl

theorem srHandleHwEntry_mask : srHandleHwEntry block ifList (octets 4 hwMask ++ value) =
    srSetEtherMask ifList (load32 value 0) := by
  rw [srHandleHwEntry, ntohl_octets (by decide), value_eq hwMask hvalue]
  rfl

theorem srHandleHwEntry_ethIp : srHandleHwEntry block ifList (octets 4 hwEthIp ++ value) =
    srSetEtherIp ifList (load32 value 0) := by
  rw [srHandleHwEntry, ntohl_octets (by decide), value_eq hwEthIp hvalue]
  rfl

theorem srHandleHwEntry_ether : srHandleHwEntry block ifList (octets 4 hwEther ++ value) =
    srSetEtherAddr ifList value := by
  rw [srHandleHwEntry, ntohl_octets (by decide), value_eq hwEther hvalue]
  rfl

/-- Entries that are printed only. -/
theorem srHandleHwEntry_other {key : ℕ} (hkey : key = hwSpeed ∨ key = hwSubnet) :
    srHandleHwEntry block ifList (octets 4 key ++ value) = .ok ifList := by
  rcases hkey with rfl | rfl
  · rw [srHandleHwEntry, ntohl_octets (by decide), value_eq hwSpeed hvalue]
    rfl
  · rw [srHandleHwEntry, ntohl_octets (by decide), value_eq hwSubnet hvalue]
    rfl

end Entries

theorem handleEntries_of_ok {blocks : ℕ → ℕ → UInt8} {k : ℕ} {entry : List UInt8}
    {entries : List (List UInt8)} {ifList ifList' : List SrIf}
    (h : srHandleHwEntry (blocks k) ifList entry = .ok ifList') :
    handleEntries blocks k (entry :: entries) ifList =
      handleEntries blocks (k + 1) entries ifList' := by
  rw [handleEntries, h]
  rfl

/-- **The entries of an interface** make the interface that the server means, whatever was in
the block. -/
theorem handleEntries_interface (blocks : ℕ → ℕ → UInt8) (k : ℕ) (i : VnsInterface)
    (entries : List (List UInt8)) (ifList : List SrIf) :
    handleEntries blocks k (i.entries ++ entries) ifList =
      handleEntries blocks (k + 6) entries (ifList ++ [i.srIf]) := by
  have hzero : (octets 4 0 ++ packString 28 []).length = 32 := by simp
  have haddr : ∀ x : List UInt8, (packString 4 x ++ packString 28 []).length = 32 := by simp
  have hmac : loadMac (packString 32 i.mac) 0 = ⟨i.mac, i.length_mac⟩ :=
    loadMac_packString ⟨i.mac, i.length_mac⟩
  -- a name is cut where it is copied, and ends at its first zero
  have hname : cBytes (strncpy srIfaceNamelen (packString 32 i.name)) =
      (cBytes i.name).take srIfaceNamelen := by
    rw [cBytes_strncpy, cBytes_packString, List.take_take]
    rfl
  simp only [VnsInterface.entries, List.cons_append, List.nil_append]
  rw [handleEntries_of_ok (srHandleHwEntry_interface (length_packString 32 _) _ _),
    handleEntries_of_ok (srHandleHwEntry_other hzero _ _ (.inl rfl)), srAddInterface, hname,
    handleEntries_of_ok ((srHandleHwEntry_ether (length_packString 32 _) _ _).trans
      (updateLast_concat _ _ _)), hmac,
    handleEntries_of_ok ((srHandleHwEntry_ethIp (haddr _) _ _).trans (updateLast_concat _ _ _)),
    load32_packString i.length_ip, handleEntries_of_ok (srHandleHwEntry_other hzero _ _ (.inr rfl)),
    handleEntries_of_ok ((srHandleHwEntry_mask (haddr _) _ _).trans (updateLast_concat _ _ _)),
    load32_packString i.length_mask]
  rfl

theorem handleEntries_interfaces (blocks : ℕ → ℕ → UInt8) (k : ℕ)
    (interfaces : List VnsInterface) (ifList : List SrIf) :
    handleEntries blocks k (interfaces.flatMap VnsInterface.entries) ifList =
      .ok (ifList ++ interfaces.map VnsInterface.srIf) := by
  induction interfaces generalizing k ifList with
  | nil => exact congrArg Except.ok (List.append_nil ifList).symm
  | cons i interfaces ih =>
    rw [List.flatMap_cons, handleEntries_interface, ih, List.append_assoc]
    rfl

theorem flatten_flatMap_entries (interfaces : List VnsInterface) :
    (interfaces.flatMap VnsInterface.entries).flatten = interfaces.flatMap VnsInterface.pack := by
  induction interfaces with
  | nil => rfl
  | cons i interfaces ih =>
    rw [List.flatMap_cons, List.flatten_append, ih, flatten_entries, List.flatMap_cons]

theorem length_flatMap_entries (interfaces : List VnsInterface) :
    (interfaces.flatMap VnsInterface.entries).length = 6 * interfaces.length := by
  induction interfaces with
  | nil => rfl
  | cons i interfaces ih =>
    rw [List.flatMap_cons, List.length_append, ih, List.length_cons]
    show 6 + _ = _
    omega

/-- **The list has the interfaces that the server means**, with nothing of what `malloc` left. -/
theorem srHandleHwinfo_hardwareInfo (lt : LtProtocol) (blocks : ℕ → ℕ → UInt8)
    {interfaces : List VnsInterface} (h : 8 + 216 * interfaces.length < 2 ^ 32)
    (ifList : List SrIf) :
    srHandleHwinfo blocks (lt.send (.hardwareInfo interfaces)) ifList =
      .ok (ifList ++ interfaces.map VnsInterface.srIf) := by
  have hbody := length_packHardwareInfo interfaces
  have hsend : lt.send (.hardwareInfo interfaces) =
      octets 4 (8 + 216 * interfaces.length) ++ octets 4 vnsHwInfo ++
        (interfaces.flatMap VnsInterface.entries).flatten := by
    rw [LtProtocol.send, lt.pack_eq _ _ (by omega) (getType_lt _), hbody, flatten_flatMap_entries]
    rfl
  have hlen : (lt.send (.hardwareInfo interfaces)).length = 8 + 216 * interfaces.length := by
    rw [hsend, List.length_append, List.length_append, length_octets, length_octets,
      flatten_flatMap_entries, ← hbody, ServerMessage.pack]
  have hnum : (8 + 216 * interfaces.length - 8) / 36 =
      (interfaces.flatMap VnsInterface.entries).length := by
    rw [length_flatMap_entries]
    omega
  have hentries : ∀ e ∈ interfaces.flatMap VnsInterface.entries, e.length = 36 := by
    intro e he
    obtain ⟨i, -, hi⟩ := List.mem_flatMap.mp he
    exact length_of_mem_entries hi
  rw [srHandleHwinfo, hlen, hnum, hsend, List.range_eq_range',
    foldlM_entries blocks hentries (k := 0) (by simp), handleEntries_interfaces]

end Redes
