import Mathlib.Tactic.Common

/-!
# Addresses and interfaces

The interface list of a router (`sr_if.h`, `sr_if.c`).  Addresses are kept the way the
program keeps them: 32-bit words read from memory in the host's order, which hold the
bytes of the address in network order.

## Main definitions

* `IpAddr`, `Mac`, `IfName` — addresses and interface names.
* `Halt` — how a call can fail to return.
* `SrIf` — a node of the interface list.
* `srGetInterface`, `srGetInterfaceGivenIp` — the two lookups.
-/

namespace Redes

/-- `in_addr.s_addr`: the four bytes of an address, read as a word of the host. -/
abbrev IpAddr := UInt32

/-- The name of an interface, as `strncmp` over `sr_IFACE_NAMELEN` compares it. -/
abbrev IfName := List Char

/-- A hardware address: `ETHER_ADDR_LEN` bytes. -/
structure Mac where
  /-- The bytes of the address. -/
  bytes : List UInt8
  /-- There are six of them. -/
  length_eq : bytes.length = 6
  deriving DecidableEq

instance : Inhabited Mac := ⟨⟨List.replicate 6 0, rfl⟩⟩

theorem Mac.eq_of_bytes {m m' : Mac} (h : m.bytes = m'.bytes) : m = m' := by
  cases m
  cases m'
  cases h
  rfl

/-- `generate_ethernet_addr`: the address whose six bytes are all `x`. -/
def generateEthernetAddr (x : UInt8) : Mac := ⟨List.replicate 6 x, rfl⟩

/-- How a call can fail to return a value. -/
inductive Halt
  /-- It was given too few turns or too little recursion depth to finish. -/
  | outOfFuel
  /-- An `assert` failed. -/
  | assertion
  /-- A null pointer was dereferenced. -/
  | nullPointer
  /-- Memory that had been freed was read. -/
  | useAfterFree
  /-- A byte outside of a buffer was read or written. -/
  | outOfBounds
  deriving DecidableEq, Repr

/-- `struct sr_if`: a node of the interface list. -/
structure SrIf where
  /-- The name. -/
  name : IfName
  /-- The hardware address. -/
  addr : Mac
  /-- The IP address. -/
  ip : IpAddr
  /-- The subnet mask. -/
  mask : IpAddr
  /-- Seconds until the next HELLO. -/
  helloint : UInt8
  /-- Router id of the neighbour, zero if there is none. -/
  neighborId : IpAddr
  /-- Address of the neighbour. -/
  neighborIp : IpAddr
  deriving DecidableEq, Inhabited

/-- The network number of an interface. -/
def SrIf.network (i : SrIf) : IpAddr := i.ip &&& i.mask

/-- `sr_get_interface`: the first interface with the given name. -/
def srGetInterface (ifList : List SrIf) (name : IfName) : Option SrIf :=
  ifList.find? fun i => i.name = name

/-- The walk of `sr_get_interface_given_ip`: the first interface with the given
address.  The assertion the function makes on its argument is in
`srGetInterfaceGivenIp`. -/
def findInterfaceIp (ifList : List SrIf) (ip : IpAddr) : Option SrIf :=
  ifList.find? fun i => i.ip = ip

/-- `sr_get_interface_given_ip`: asserts that the address is not zero. -/
def srGetInterfaceGivenIp (ifList : List SrIf) (ip : IpAddr) : Except Halt (Option SrIf) :=
  if ip = 0 then .error .assertion else .ok (findInterfaceIp ifList ip)

theorem srGetInterface_mem {ifList : List SrIf} {name : IfName} {i : SrIf}
    (h : srGetInterface ifList name = some i) : i ∈ ifList ∧ i.name = name :=
  ⟨List.mem_of_find?_eq_some h, by simpa using List.find?_some h⟩

end Redes
