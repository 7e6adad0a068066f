import Mathlib.Data.List.TakeWhile
import Redes.Router.LongestPrefix
import Redes.Router.Frame

/-!
# The messages between the router and its server

The router is connected to a server (`VNSProtocol.py`), which hands it the frames that arrive at
the ports of a switch.  A message is a length, a type and a body; numbers are in network order,
and strings are in fields of a fixed size, filled up with zeros.  Both ends write and read these
fields with functions of their own: `strncpy` and `ntohl` in the router, `struct` in the server.

## Main definitions

* `nameOfBytes`, `cBytes`, `strncpy` — strings in the router.
* `packString`, `stripNullChars` — strings in the server.
* `VnsInterface`, `ServerMessage` — what the server sends.
* `unpackVnsPacket`, `unpackVnsAuthReply` — what it reads.
* `LtProtocol` — the lengths and types in front of the bodies.

## Main results

* `ntohl_load32`, `bytes32_ntohl`, `number_bytes16_htons` — numbers in network order.
* `strncpy_eq_packString` — both ends write the same strings.
* `stripNullChars_packString` — and the server reads them.
-/

namespace Redes

open Bytes

/-! ### Numbers in network order -/

/-- `ntohl` takes the bytes in reverse order, as numbers. -/
theorem toNat_ntohl (x : UInt32) :
    (ntohl x).toNat = 256 * (256 * (256 * (x.toNat % 256) + x.toNat / 256 % 256) +
      x.toNat / 65536 % 256) + x.toNat / 16777216 := by
  have hx := x.toNat_lt
  rw [← UInt32.toNat_toBitVec, toBitVec_ntohl]
  simp only [BitVec.toNat_append, BitVec.extractLsb'_toNat, UInt32.toNat_toBitVec,
    Nat.shiftRight_eq_div_pow, Nat.reducePow, Nat.div_one]
  rw [shiftLeft_or_eq (Nat.mod_lt _ (by decide)), shiftLeft_or_eq (Nat.mod_lt _ (by decide)),
    shiftLeft_or_eq (Nat.mod_lt _ (by decide))]
  omega

/-- **A number that is read** is the one that the bytes are. -/
theorem ntohl_load32 {b : List UInt8} {i : ℕ} (h : i + 4 ≤ b.length) :
    ntohl (load32 b i) = UInt32.ofNat (number (slice b i 4)) := by
  have h₀ := (load8 b i).toNat_lt
  have h₁ := (load8 b (i + 1)).toNat_lt
  have h₂ := (load8 b (i + 2)).toNat_lt
  have h₃ := (load8 b (i + 3)).toNat_lt
  rw [slice_succ (by omega), slice_succ (by omega), slice_succ (by omega), slice_succ (by omega)]
  have hx : (load32 b i).toNat = (load8 b i).toNat + 256 * (load8 b (i + 1)).toNat +
      65536 * (load8 b (i + 2)).toNat + 16777216 * (load8 b (i + 3)).toNat := by
    rw [load32, UInt32.toNat_ofNat']
    omega
  have e₀ : (load32 b i).toNat % 256 = (load8 b i).toNat := by omega
  have e₁ : (load32 b i).toNat / 256 % 256 = (load8 b (i + 1)).toNat := by omega
  have e₂ : (load32 b i).toNat / 65536 % 256 = (load8 b (i + 2)).toNat := by omega
  have e₃ : (load32 b i).toNat / 16777216 = (load8 b (i + 3)).toNat := by omega
  apply UInt32.toNat_inj.mp
  rw [toNat_ntohl, e₀, e₁, e₂, e₃, UInt32.toNat_ofNat']
  simp only [number, List.foldl_cons, slice, List.take_zero, List.foldl_nil, Nat.add_assoc,
    Nat.reduceAdd]
  omega

/-- **A number that is written.** -/
theorem bytes32_ntohl (v : UInt32) : bytes32 (ntohl v) = octets 4 v.toNat := by
  have hv := v.toNat_lt
  have hn := toNat_ntohl v
  have h₀ : v.toNat / 16777216 < 256 := by omega
  have h₁ : v.toNat / 65536 % 256 < 256 := Nat.mod_lt _ (by decide)
  have h₂ : v.toNat / 256 % 256 < 256 := Nat.mod_lt _ (by decide)
  have h₃ : v.toNat % 256 < 256 := Nat.mod_lt _ (by decide)
  have e₃ : v.toNat / 16777216 % 256 = v.toNat / 16777216 := Nat.mod_eq_of_lt h₀
  simp only [bytes32, octets, List.nil_append, List.cons_append, Nat.div_div_eq_div_mul,
    Nat.reduceMul, List.cons.injEq, and_true]
  generalize v.toNat / 16777216 = a at *
  generalize v.toNat / 65536 % 256 = b at *
  generalize v.toNat / 256 % 256 = c at *
  generalize v.toNat % 256 = d at *
  refine ⟨congrArg UInt8.ofNat ?_, congrArg UInt8.ofNat ?_, congrArg UInt8.ofNat ?_,
    congrArg UInt8.ofNat ?_⟩ <;> omega

/-- **A short number that is written.** -/
theorem number_bytes16_htons (v : UInt16) : number (bytes16 (htons v)) = v.toNat := by
  have hv := v.toNat_lt
  have hn : (htons v).toNat = v.toNat % 256 * 256 + v.toNat / 256 := by
    rw [htons, UInt16.toNat_ofNat']
    omega
  have hlow : (htons v).toNat % 256 = v.toNat / 256 := by omega
  have hhigh : (htons v).toNat / 256 = v.toNat % 256 := by omega
  simp only [bytes16, number, List.foldl_cons, List.foldl_nil, hlow, hhigh, UInt8.toNat_ofNat']
  omega

/-! ### Strings -/

/-- The characters of a string. -/
def nameOfBytes (bytes : List UInt8) : IfName := bytes.map fun b => Char.ofNat b.toNat

/-- The bytes of a string. -/
def bytesOfName (name : IfName) : List UInt8 := name.map fun c => UInt8.ofNat c.toNat

/-- The bytes of a string in memory, up to the first zero. -/
def cBytes (field : List UInt8) : List UInt8 := field.takeWhile fun b => b ≠ 0

/-- `strncpy`: as many bytes of the string as fit, and zeros behind them. -/
def strncpy (n : ℕ) (src : List UInt8) : List UInt8 :=
  (cBytes src).take n ++ List.replicate (n - (cBytes src).length) 0

/-- A string in a field of `struct.pack`: as many bytes as fit, and zeros behind them. -/
def packString (n : ℕ) (s : List UInt8) : List UInt8 := s.take n ++ List.replicate (n - s.length) 0

/-- `strip_null_chars`, which removes all zeros. -/
def stripNullChars (s : List UInt8) : List UInt8 := s.filter fun b => b ≠ 0

theorem toNat_ofNat_byte_char (b : UInt8) : (Char.ofNat b.toNat).toNat = b.toNat := by
  have hb := b.toNat_lt
  have hvalid : b.toNat.isValidChar := .inl (by omega)
  rw [Char.ofNat, dif_pos hvalid]
  rfl

@[simp] theorem bytesOfName_nameOfBytes (bytes : List UInt8) :
    bytesOfName (nameOfBytes bytes) = bytes := by
  rw [bytesOfName, nameOfBytes, List.map_map]
  refine (List.map_congr_left fun b _ => ?_).trans (List.map_id _)
  show UInt8.ofNat (Char.ofNat b.toNat).toNat = b
  rw [toNat_ofNat_byte_char, UInt8.ofNat_toNat]

theorem nameOfBytes_injective : Function.Injective nameOfBytes :=
  Function.LeftInverse.injective bytesOfName_nameOfBytes

@[simp] theorem length_packString (n : ℕ) (s : List UInt8) : (packString n s).length = n := by
  rw [packString, List.length_append, List.length_take, List.length_replicate]
  omega

/-- **Both ends write the same strings.** -/
theorem strncpy_eq_packString (n : ℕ) (src : List UInt8) :
    strncpy n src = packString n (cBytes src) := rfl

theorem cBytes_append_zeros (s : List UInt8) (n : ℕ) :
    cBytes (s ++ List.replicate n 0) = cBytes s := by
  induction s with
  | nil => cases n <;> rfl
  | cons b s ih =>
    rw [cBytes, List.cons_append, List.takeWhile_cons, ← cBytes, ih, cBytes, cBytes,
      List.takeWhile_cons]

/-- **A string is read back** up to its first zero, if it fits. -/
theorem cBytes_packString (n : ℕ) (s : List UInt8) :
    cBytes (packString n s) = (cBytes s).take n := by
  rw [packString, cBytes_append_zeros, cBytes, cBytes, List.take_takeWhile]

/-- A string without zeros. -/
theorem cBytes_of_notMem {s : List UInt8} (h : 0 ∉ s) : cBytes s = s := by
  rw [cBytes, List.takeWhile_eq_self_iff]
  intro b hb
  rw [decide_eq_true_iff]
  rintro rfl
  exact h hb

@[simp] theorem cBytes_cBytes (s : List UInt8) : cBytes (cBytes s) = cBytes s :=
  List.takeWhile_idem

theorem cBytes_strncpy (n : ℕ) (src : List UInt8) :
    cBytes (strncpy n src) = (cBytes src).take n := by
  rw [strncpy_eq_packString, cBytes_packString, cBytes_cBytes]

/-- **The server reads a string** that fits and has no zeros. -/
theorem stripNullChars_packString {s : List UInt8} {n : ℕ} (h : 0 ∉ s) (hlen : s.length ≤ n) :
    stripNullChars (packString n s) = s := by
  have hall : ∀ b ∈ s, decide (b ≠ 0) = true := fun b hb => by
    rw [decide_eq_true_iff]
    rintro rfl
    exact h hb
  rw [stripNullChars, packString, List.take_of_length_le hlen, List.filter_append,
    List.filter_eq_self.mpr hall, List.filter_replicate, if_neg (by decide), List.append_nil]

/-! ### Messages -/

/-- `VNSInterface`.  The constructor raises an exception for addresses of another length. -/
structure VnsInterface where
  /-- The name. -/
  name : List UInt8
  /-- The hardware address. -/
  mac : List UInt8
  /-- The IP address. -/
  ip : List UInt8
  /-- The subnet mask. -/
  mask : List UInt8
  /-- A hardware address has six bytes. -/
  length_mac : mac.length = 6
  /-- An IP address has four bytes. -/
  length_ip : ip.length = 4
  /-- A mask has four bytes. -/
  length_mask : mask.length = 4

/-- `HWINTERFACE`. -/
def hwInterface : ℕ := 1

/-- `HWSPEED`. -/
def hwSpeed : ℕ := 2

/-- `HWSUBNET`. -/
def hwSubnet : ℕ := 4

/-- `HWETHER`. -/
def hwEther : ℕ := 32

/-- `HWETHIP`. -/
def hwEthIp : ℕ := 64

/-- `HWMASK`. -/
def hwMask : ℕ := 128

/-- `VNSInterface.pack`: six entries, each a key and a value of 32 bytes. -/
def VnsInterface.pack (i : VnsInterface) : List UInt8 :=
  octets 4 hwInterface ++ packString 32 i.name ++
    (octets 4 hwSpeed ++ (octets 4 0 ++ packString 28 [])) ++
    (octets 4 hwEther ++ packString 32 i.mac) ++
    (octets 4 hwEthIp ++ (packString 4 i.ip ++ packString 28 [])) ++
    (octets 4 hwSubnet ++ (octets 4 0 ++ packString 28 [])) ++
    (octets 4 hwMask ++ (packString 4 i.mask ++ packString 28 []))

/-- What the server sends. -/
inductive ServerMessage
  /-- `VNSClose`. -/
  | close (msg : List UInt8)
  /-- `VNSPacket`. -/
  | packet (intfName ethernetFrame : List UInt8)
  /-- `VNSBanner`. -/
  | banner (msg : List UInt8)
  /-- `VNSHardwareInfo`. -/
  | hardwareInfo (interfaces : List VnsInterface)
  /-- `VNSRtable`. -/
  | rtable (virtualHostId table : List UInt8)
  /-- `VNSAuthRequest`. -/
  | authRequest (salt : List UInt8)
  /-- `VNSAuthStatus`. -/
  | authStatus (authOk : Bool) (msg : List UInt8)

/-- `VNSCLOSE`. -/
def vnsClose : ℕ := 2

/-- `VNSPACKET`. -/
def vnsPacket : ℕ := 4

/-- `VNSBANNER`. -/
def vnsBanner : ℕ := 8

/-- `VNSHWINFO`. -/
def vnsHwInfo : ℕ := 16

/-- `VNS_RTABLE`. -/
def vnsRtable : ℕ := 32

/-- `VNS_AUTH_REQUEST`. -/
def vnsAuthRequest : ℕ := 128

/-- `VNS_AUTH_REPLY`. -/
def vnsAuthReply : ℕ := 256

/-- `VNS_AUTH_STATUS`. -/
def vnsAuthStatus : ℕ := 512

/-- `get_type`. -/
def ServerMessage.getType : ServerMessage → ℕ
  | .close _ => vnsClose
  | .packet _ _ => vnsPacket
  | .banner _ => vnsBanner
  | .hardwareInfo _ => vnsHwInfo
  | .rtable _ _ => vnsRtable
  | .authRequest _ => vnsAuthRequest
  | .authStatus _ _ => vnsAuthStatus

/-- `pack`. -/
def ServerMessage.pack : ServerMessage → List UInt8
  | .close msg => packString 256 msg
  | .packet intfName ethernetFrame => packString 16 intfName ++ ethernetFrame
  | .banner msg => packString 256 msg
  | .hardwareInfo interfaces => interfaces.flatMap VnsInterface.pack
  | .rtable virtualHostId table => packString 32 virtualHostId ++ table
  | .authRequest salt => salt
  | .authStatus authOk msg => (if authOk then 1 else 0) :: msg

/-- `VNSPacket.unpack`: the name of the interface, and the frame. -/
def unpackVnsPacket (body : List UInt8) : Option (List UInt8 × List UInt8) :=
  if body.length < 16 then none
  else some (stripNullChars (body.take 16), body.drop 16)

/-- `VNSAuthReply.pack`. -/
def packVnsAuthReply (username sha1OfSaltedPw : List UInt8) : List UInt8 :=
  octets 4 username.length ++ username ++ sha1OfSaltedPw

/-- `VNSAuthReply.unpack`: the user, and the hash value of the salted password. -/
def unpackVnsAuthReply (body : List UInt8) : Option (List UInt8 × List UInt8) :=
  if body.length < 4 then none
  else
    let usernameLen := number (body.take 4)
    some ((body.drop 4).take usernameLen, (body.drop 4).drop usernameLen)

/-- The protocol that puts a length and a type in front of each body (`LTProtocol` with the
formats `I` and `I`). -/
structure LtProtocol where
  /-- A message that is sent. -/
  pack : ℕ → List UInt8 → List UInt8
  /-- The type and the body of a message that is received. -/
  unpack : List UInt8 → Option (ℕ × List UInt8)
  /-- The length is that of the whole message. -/
  pack_eq : ∀ (type : ℕ) (body : List UInt8), 8 + body.length < 2 ^ 32 → type < 2 ^ 32 →
    pack type body = octets 4 (8 + body.length) ++ octets 4 type ++ body
  /-- What is sent is received. -/
  unpack_pack : ∀ (type : ℕ) (body : List UInt8), 8 + body.length < 2 ^ 32 → type < 2 ^ 32 →
    unpack (pack type body) = some (type, body)

/-- A message of the server on the wire. -/
def LtProtocol.send (lt : LtProtocol) (m : ServerMessage) : List UInt8 := lt.pack m.getType m.pack

@[simp] theorem length_packVnsInterface (i : VnsInterface) : i.pack.length = 216 := by
  simp [VnsInterface.pack]

theorem length_packHardwareInfo (interfaces : List VnsInterface) :
    (ServerMessage.hardwareInfo interfaces).pack.length = 216 * interfaces.length := by
  induction interfaces with
  | nil => rfl
  | cons i interfaces ih =>
    rw [ServerMessage.pack] at ih ⊢
    rw [List.flatMap_cons, List.length_append, ih, length_packVnsInterface, List.length_cons]
    omega

theorem getType_lt (m : ServerMessage) : m.getType < 2 ^ 32 := by
  cases m <;> rw [ServerMessage.getType] <;> decide

end Redes
