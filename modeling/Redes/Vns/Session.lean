import Redes.Lib.Framed
import Redes.Router.ArpInput
import Redes.Vns.Hashing
import Redes.Vns.HwInfo

/-!
# The session with the server

The main thread of the router reads the commands of its server from a connection and handles
them, one after the other, while the threads of the router run.  The first commands are to be
those of the authentication; then the router asks for its topology, and from then on any command
may come.

## Main definitions

* `VnsConfig`, `VnsEnv`, `VnsState` — what the session has.
* `VnsOut`, `VnsStop` — what it sends and writes, and how it ends.
* `srHandleAuthRequest`, `srHandleRtable`, `srHandleVnsPacket` — commands.
* `srReadCommand` — a command that is complete.
* `vnsReader` — the loop.
* `messageStep`, `Fits` — what the server means by a message, and the messages that get through.

## Main results

* `srReadCommand_send` — a message is handled as it is meant.
* `vnsSession` — a session, however the calls on the connection go.
-/

namespace Redes

open Bytes Logged Framed

/-! ### What the session has -/

/-- `struct sr_instance`, as far as the command line sets it. -/
structure VnsConfig where
  /-- The user. -/
  user : List UInt8
  /-- The name of the user fits in an array of 32 characters. -/
  length_user : user.length < 32
  /-- There is no zero in it. -/
  user_nonzero : 0 ∉ user
  /-- The name of the router. -/
  host : List UInt8
  /-- The template, empty if there is none. -/
  template : List UInt8
  /-- The topology. -/
  topoId : UInt16

/-- What a command finds outside of the program. -/
structure VnsEnv where
  /-- What an event of the router finds. -/
  env : Env
  /-- The blocks that `malloc` returns for interfaces. -/
  blocks : ℕ → ℕ → UInt8
  /-- The file `auth_key`, if there is one. -/
  authKey : Option (List UInt8)
  /-- What the array for its first line holds behind it. -/
  stack : ℕ → UInt8
  /-- What the context of the hash value holds. -/
  sha1 : Sha1Context
  /-- Whether `send` sends everything. -/
  sends : Bool
  /-- Whether the file of the routing table can be written. -/
  writable : Bool

/-- The state of the session. -/
structure VnsState where
  /-- The router. -/
  router : RouterState
  /-- The commands that `sr_connect_to_server` still waits for. -/
  expected : List ℕ

/-- What the session sends and writes. -/
inductive VnsOut
  /-- A frame is passed to `sr_send_packet`. -/
  | frame (out : Outgoing)
  /-- A message is sent. -/
  | message (bytes : List UInt8)
  /-- A file is written. -/
  | file (name content : List UInt8)

/-- How the session ends. -/
inductive VnsStop
  /-- The server closes it. -/
  | closed
  /-- `sr_read_from_server` or `sr_connect_to_server` returns -1. -/
  | failed
  /-- The program fails. -/
  | halt (h : Halt)

/-- What the session does. -/
abbrev VnsAction (α : Type) := Logged VnsOut VnsStop α

/-- What the router does. -/
def liftRouter (s : VnsState) (x : Sending RouterState) : VnsAction VnsState :=
  ⟨x.log.map .frame, (x.ending.map fun r => { s with router := r }).mapError .halt⟩

/-! ### Commands -/

/-- `htonl`, on a little-endian host. -/
abbrev htonl (x : UInt32) : UInt32 := ntohl x

/-- `fgets` with room for 64 characters: the first line, with its end. -/
def fgetsLine (text : List UInt8) : List UInt8 :=
  let text := text.take 64
  if 10 ∈ text then text.takeWhile (fun b => b ≠ 10) ++ [10] else text

/-- The array `auth_key`, of which 64 bytes are hashed: the line, a zero, and what was there. -/
def authKeyBytes (stack : ℕ → UInt8) (text : List UInt8) : List UInt8 :=
  (fgetsLine text ++ 0 :: (List.range 64).map stack).take 64

/-- `htonl` of the five words, in memory. -/
def digestBytes (w : Sha1Words) : List UInt8 :=
  bytes32 (htonl w.A) ++ bytes32 (htonl w.B) ++ bytes32 (htonl w.C) ++ bytes32 (htonl w.D) ++
    bytes32 (htonl w.E)

/-- The reply of `sr_handle_auth_request`. -/
def authReply (user : List UInt8) (digest : Sha1Words) : List UInt8 :=
  bytes32 (htonl (UInt32.ofNat (12 + user.length + 20))) ++
    bytes32 (htonl (UInt32.ofNat vnsAuthReply)) ++ bytes32 (htonl (UInt32.ofNat user.length)) ++
    user ++ digestBytes digest

/-- `sr_handle_auth_request`: the reply, or nothing if it returns zero. -/
def srHandleAuthRequest (user : List UInt8) (e : VnsEnv) (req : List UInt8) :
    Option (List UInt8) :=
  match e.authKey with
  | none => none
  | some text =>
      if text = [] then none
      else
        let context := sha1Reset e.sha1
        let context := sha1Input context (req.drop 8)
        let context := sha1Input context (authKeyBytes e.stack text)
        let result := sha1Result context
        if result.1 ∧ e.sends then some (authReply user result.2.messageDigest) else none

/-- `sr_handle_rtable`: the name of the file is copied into an array of 40 bytes. -/
def srHandleRtable (e : VnsEnv) (rtable : List UInt8) : VnsAction Unit :=
  let host := cBytes (rtable.drop 8)
  if rtable.length < 40 ∨ 32 < host.length ∨ 0 ∉ rtable.drop 8 then halt (.halt .outOfBounds)
  else if e.writable then
    emit [.file (bytesOfName "rtable.".toList ++ host) (rtable.drop 40)] ()
  else halt .failed

/-- The command `VNSPACKET`.  The name of the interface is read up to its first zero, also where
that is behind its field. -/
def srHandleVnsPacket (e : VnsEnv) (s : VnsState) (buf : List UInt8) : VnsAction VnsState :=
  if buf.length < 24 then halt (.halt .outOfBounds)
  else
    let packet := buf.drop 24
    let interface := nameOfBytes ((cBytes (buf.drop 8)).take srIfaceNamelen)
    match srArpReqNotForUs s.router.ifList packet interface with
    | .error h => halt (.halt h)
    | .ok true => pure s
    | .ok false => liftRouter s (routerStep e.env s.router (.receive packet interface))

/-- The message that asks for a topology: `VNSOPEN`, or `VNS_OPEN_TEMPLATE`. -/
def openMessage (cfg : VnsConfig) : List UInt8 :=
  if cfg.template.length > 0 then
    bytes32 (htonl 70) ++ bytes32 (htonl 64) ++ strncpy 30 cfg.template ++ strncpy 32 cfg.host
  else
    bytes32 (htonl 108) ++ bytes32 (htonl 1) ++ bytes16 (htons cfg.topoId) ++ [0, 0] ++
      strncpy 32 cfg.host ++ strncpy 32 cfg.user ++ List.replicate 32 0

/-- What `sr_connect_to_server` does when a command that it waits for is handled. -/
def srConnected (cfg : VnsConfig) (e : VnsEnv) (s : VnsState) : VnsAction VnsState :=
  match s.expected with
  | [] => pure s
  | c :: expected =>
      if c = vnsAuthStatus then
        if e.sends then emit [.message (openMessage cfg)] { s with expected := expected }
        else halt .failed
      else pure { s with expected := expected }

/-- `fprintf` with `%s` and a field of a message: it is read up to its first zero, also where that
is behind the field. -/
def srPrintField (field : List UInt8) : VnsAction Unit :=
  if 0 ∈ field then pure () else halt (.halt .outOfBounds)

/-- `sr_handle_auth_status`, and what its caller does. -/
def srHandleAuthStatus (s : VnsState) (status : List UInt8) : VnsAction VnsState :=
  if status.length < 9 then halt (.halt .outOfBounds)
  else if load8 status 8 ≠ 0 then pure s
  else srPrintField (status.drop 9) >>= fun _ => halt .failed

/-- The switch of `sr_read_from_server_expect`. -/
def srDispatch (cfg : VnsConfig) (e : VnsEnv) (s : VnsState) (command : ℕ) (buf : List UInt8) :
    VnsAction VnsState :=
  if command = vnsPacket then srHandleVnsPacket e s buf
  else if command = vnsClose then srPrintField (buf.drop 8) >>= fun _ => halt .closed
  else if command = vnsBanner then (srPrintField (buf.drop 8)).map fun _ => s
  else if command = vnsHwInfo then
    match srHandleHwinfo e.blocks buf s.router.ifList with
    | .error h => halt (.halt h)
    | .ok ifList => pure { s with router := { s.router with ifList := ifList } }
  else if command = vnsRtable then (srHandleRtable e buf).map fun _ => s
  else if command = vnsAuthRequest then
    match srHandleAuthRequest cfg.user e buf with
    | none => halt .failed
    | some reply => emit [.message reply] s
  else if command = vnsAuthStatus then srHandleAuthStatus s buf
  else pure s

/-- Whether `sr_read_from_server_expect` refuses a command. -/
def Unexpected (s : VnsState) (command : ℕ) : Prop :=
  ∃ c ∈ s.expected.head?, command ≠ c ∧ command ≠ vnsClose

instance (s : VnsState) (command : ℕ) : Decidable (Unexpected s command) :=
  inferInstanceAs (Decidable (∃ c ∈ s.expected.head?, command ≠ c ∧ command ≠ vnsClose))

/-- `sr_read_from_server_expect`, with a command that is complete, and what its caller does. -/
def srReadCommand (cfg : VnsConfig) (e : VnsEnv) (s : VnsState) (buf : List UInt8) :
    VnsAction VnsState :=
  if buf.length < 8 then halt (.halt .outOfBounds)
  else
    let command := (ntohl (load32 buf 4)).toNat
    if Unexpected s command then halt .failed
    else srDispatch cfg e s command buf >>= srConnected cfg e

/-! ### The loop -/

/-- A turn of a thread of the router: no frame is received there. -/
def ThreadTurn : Type :=
  { a : Env × RouterEvent // ∀ packet interface, a.2 ≠ .receive packet interface }

/-- The threads of the router.  `sr_init` starts them, behind `sr_connect_to_server`. -/
def vnsThreadStep (s : VnsState) (t : ThreadTurn) : VnsAction VnsState :=
  if s.expected = [] then liftRouter s (routerStep t.1.1 s.router t.1.2) else pure s

/-- The loops of `sr_connect_to_server` and of `main`. -/
def vnsReader (cfg : VnsConfig) :
    Reader VnsState UInt8 VnsEnv ThreadTurn VnsOut VnsStop where
  header := 4
  header_pos := by decide
  length := fun header =>
    let len := (ntohl (load32 header 0)).toNat
    if len > 10000 then .error .failed else .ok len
  failed := .failed
  handle := srReadCommand cfg
  turn := vnsThreadStep

/-! ### What the server means -/

/-- The words of a hash value. -/
def digestOctets (w : Sha1Words) : List UInt8 :=
  octets 4 w.A.toNat ++ octets 4 w.B.toNat ++ octets 4 w.C.toNat ++ octets 4 w.D.toNat ++
    octets 4 w.E.toNat

/-- What the server means by a message that the router waits for, or by any message behind
those. -/
def messageMeans (lt : LtProtocol) (cfg : VnsConfig) (e : VnsEnv) (s : VnsState) :
    ServerMessage → VnsAction VnsState
  | .close _ => halt .closed
  | .packet intfName ethernetFrame =>
      match srArpReqNotForUs s.router.ifList ethernetFrame (nameOfBytes intfName) with
      | .error h => halt (.halt h)
      | .ok true => pure s
      | .ok false =>
          liftRouter s (routerStep e.env s.router (.receive ethernetFrame (nameOfBytes intfName)))
  | .banner _ => pure s
  | .hardwareInfo interfaces =>
      pure { s with router := { s.router with
        ifList := s.router.ifList ++ interfaces.map VnsInterface.srIf } }
  | .rtable virtualHostId table =>
      if e.writable then emit [.file (bytesOfName "rtable.".toList ++ virtualHostId) table] s
      else halt .failed
  | .authRequest salt =>
      match e.authKey with
      | none => halt .failed
      | some text =>
          if text ≠ [] ∧ e.sends then
            emit [.message (lt.pack vnsAuthReply (packVnsAuthReply cfg.user
              (digestOctets (SecureHash.sha1 (salt ++ authKeyBytes e.stack text)))))] s
          else halt .failed
  | .authStatus authOk _ => if authOk then pure s else halt .failed

/-- A message in a session. -/
def messageStep (lt : LtProtocol) (cfg : VnsConfig) (e : VnsEnv) (s : VnsState)
    (m : ServerMessage) : VnsAction VnsState :=
  if Unexpected s m.getType then halt .failed
  else messageMeans lt cfg e s m >>= srConnected cfg e

/-- A message that gets through: it is not too long, and the strings in it fit in their fields
with a zero behind them.  A status has no field for its text, which is read if it is a refusal. -/
def Fits (m : ServerMessage) : Prop :=
  8 + m.pack.length ≤ 10000 ∧
    match m with
    | .close msg => msg.length < 256
    | .packet intfName _ => 0 ∉ intfName ∧ intfName.length < 16
    | .banner msg => msg.length < 256
    | .rtable virtualHostId _ => 0 ∉ virtualHostId ∧ virtualHostId.length < 32
    | .authStatus authOk msg => authOk = true ∨ 0 ∈ msg
    | _ => True

section Messages

variable {lt : LtProtocol} {cfg : VnsConfig} {e : VnsEnv} {s : VnsState} {m : ServerMessage}

theorem send_eq (lt : LtProtocol) (h : Fits m) :
    lt.send m = octets 4 (8 + m.pack.length) ++ (octets 4 m.getType ++ m.pack) := by
  have hlen := h.1
  rw [LtProtocol.send, lt.pack_eq _ _ (by omega) (getType_lt m), List.append_assoc]

theorem length_send (lt : LtProtocol) (h : Fits m) : (lt.send m).length = 8 + m.pack.length := by
  rw [send_eq lt h, List.length_append, List.length_append, length_octets, length_octets,
    ← Nat.add_assoc]

theorem drop_send (lt : LtProtocol) (h : Fits m) : (lt.send m).drop 8 = m.pack := by
  rw [send_eq lt h, ← List.append_assoc, List.drop_left' (by simp)]

theorem command_send (lt : LtProtocol) (h : Fits m) :
    (ntohl (load32 (lt.send m) 4)).toNat = m.getType := by
  rw [← load32_drop, send_eq lt h, List.drop_left' (length_octets 4 _),
    ntohl_octets (getType_lt m)]

/-- **A message is a record.** -/
theorem isRecord_send (h : Fits m) : (vnsReader cfg).IsRecord (lt.send m) := by
  have hlen := h.1
  have hnum : (ntohl (load32 ((lt.send m).take 4) 0)).toNat = 8 + m.pack.length := by
    rw [send_eq lt h, List.take_left' (length_octets 4 _), ← List.append_nil (octets 4 _),
      ntohl_octets (by omega)]
  refine ⟨8 + m.pack.length, ?_, ?_⟩
  · show (if (ntohl (load32 ((lt.send m).take 4) 0)).toNat > 10000 then
      Except.error VnsStop.failed else .ok (ntohl (load32 ((lt.send m).take 4) 0)).toNat) = _
    rw [hnum, if_neg (by omega)]
  · rw [length_send lt h]
    show _ = max _ 4
    omega

/-- The name in a field, where there is a zero behind it. -/
theorem cBytes_packString_append {n : ℕ} {name : List UInt8} (hz : 0 ∉ name)
    (hlen : name.length < n) (rest : List UInt8) :
    cBytes (packString n name ++ rest) = name := by
  obtain ⟨k, hk⟩ := Nat.exists_eq_add_of_lt hlen
  have hzero : n - name.length = k + 1 := by omega
  have hall : ∀ b ∈ name, decide (b ≠ 0) = true := fun b hb => by
    rw [decide_eq_true_iff]
    rintro rfl
    exact hz hb
  rw [packString, List.take_of_length_le hlen.le, hzero, List.replicate_succ, cBytes,
    List.append_assoc, List.takeWhile_append_of_pos hall, List.cons_append,
    List.takeWhile_cons_of_neg (by decide), List.append_nil]

/-- A zero behind a string that is shorter than its field. -/
theorem zero_mem_packString {n : ℕ} {msg : List UInt8} (h : msg.length < n) :
    0 ∈ packString n msg := by
  rw [packString, List.mem_append, List.mem_replicate]
  exact .inr ⟨by omega, rfl⟩

theorem srPrintField_of_mem {field : List UInt8} (h : 0 ∈ field) : srPrintField field = pure () :=
  if_pos h

theorem digestBytes_eq (w : Sha1Words) : digestBytes w = digestOctets w := by
  simp only [digestBytes, digestOctets, htonl, bytes32_ntohl]

theorem bytes32_htonl_ofNat {n : ℕ} (h : n < 2 ^ 32) :
    bytes32 (htonl (UInt32.ofNat n)) = octets 4 n := by
  rw [htonl, bytes32_ntohl, UInt32.toNat_ofNat_of_lt' h]

/-- **The reply** is the message that the server reads. -/
theorem authReply_eq (lt : LtProtocol) (cfg : VnsConfig) (w : Sha1Words) :
    authReply cfg.user w = lt.pack vnsAuthReply (packVnsAuthReply cfg.user (digestOctets w)) := by
  have huser := cfg.length_user
  have hlen : (packVnsAuthReply cfg.user (digestOctets w)).length = 4 + cfg.user.length + 20 := by
    simp only [packVnsAuthReply, digestOctets, List.length_append, length_octets]
  rw [authReply, digestBytes_eq, bytes32_htonl_ofNat (by omega), bytes32_htonl_ofNat (by decide),
    bytes32_htonl_ofNat (by omega), lt.pack_eq _ _ (by omega) (by decide), hlen, packVnsAuthReply,
    show 8 + (4 + cfg.user.length + 20) = 12 + cfg.user.length + 20 by omega]
  simp only [List.append_assoc]

/-- **The hash value of the salt and the key**, whatever the context held. -/
theorem srHandleAuthRequest_eq (cfg : VnsConfig) (e : VnsEnv) {req : List UInt8}
    (hreq : req.length ≤ 10000) :
    srHandleAuthRequest cfg.user e req =
      match e.authKey with
      | none => none
      | some text =>
          if text ≠ [] ∧ e.sends then
            some (authReply cfg.user (SecureHash.sha1 (req.drop 8 ++ authKeyBytes e.stack text)))
          else none := by
  unfold srHandleAuthRequest
  cases e.authKey with
  | none => rfl
  | some text =>
    dsimp only
    have hkey : (authKeyBytes e.stack text).length ≤ 64 := by
      rw [authKeyBytes, List.length_take]
      omega
    have hlen : ([req.drop 8, authKeyBytes e.stack text].flatten).length ≤ 10064 := by
      simp only [List.flatten_cons, List.flatten_nil, List.append_nil, List.length_append,
        List.length_drop]
      omega
    -- two pieces of a message that is far from too long
    have hhash := sha1Hash_eq e.sha1 [req.drop 8, authKeyBytes e.stack text]
    rw [if_pos (by omega)] at hhash
    simp only [sha1Hash, sha1Run, List.map_cons, List.map_nil, List.cons_append, List.nil_append,
      List.flatten_cons, List.flatten_nil, List.append_nil, List.cons.injEq, and_true] at hhash
    -- `fgets` finds nothing in an empty file
    by_cases hnil : text = []
    · rw [if_pos hnil, if_neg (by simp [hnil])]
    · rw [if_neg hnil]
      split_ifs at hhash with hres
      rw [Option.some_inj.mp hhash]
      simp only [hres, hnil, ne_eq, not_false_eq_true, true_and]

/-! ### One message of each kind -/

theorem srDispatch_close {msg : List UInt8} (h : Fits (.close msg)) :
    srDispatch cfg e s vnsClose (lt.send (.close msg)) = messageMeans lt cfg e s (.close msg) := by
  have hzero : 0 ∈ (lt.send (.close msg)).drop 8 := by
    rw [drop_send lt h]
    exact zero_mem_packString h.2
  rw [srDispatch, if_neg (by decide), if_pos rfl, srPrintField_of_mem hzero]
  rfl

theorem srDispatch_banner {msg : List UInt8} (h : Fits (.banner msg)) :
    srDispatch cfg e s vnsBanner (lt.send (.banner msg)) =
      messageMeans lt cfg e s (.banner msg) := by
  have hzero : 0 ∈ (lt.send (.banner msg)).drop 8 := by
    rw [drop_send lt h]
    exact zero_mem_packString h.2
  rw [srDispatch, if_neg (by decide), if_neg (by decide), if_pos rfl, srPrintField_of_mem hzero]
  rfl

theorem srDispatch_packet {intfName ethernetFrame : List UInt8}
    (h : Fits (.packet intfName ethernetFrame)) :
    srDispatch cfg e s vnsPacket (lt.send (.packet intfName ethernetFrame)) =
      messageMeans lt cfg e s (.packet intfName ethernetFrame) := by
  have hlen := length_send lt h
  have hdrop := drop_send lt h
  obtain ⟨-, hz, hfit⟩ := h
  have hpack : (ServerMessage.packet intfName ethernetFrame).pack =
      packString 16 intfName ++ ethernetFrame := rfl
  have hbody : (lt.send (.packet intfName ethernetFrame)).drop 24 = ethernetFrame := by
    rw [← List.drop_drop (i := 16) (j := 8), hdrop, hpack, List.drop_left' (length_packString 16 _)]
  have hname : (cBytes ((lt.send (.packet intfName ethernetFrame)).drop 8)).take srIfaceNamelen =
      intfName := by
    rw [hdrop, hpack, cBytes_packString_append hz hfit]
    exact List.take_of_length_le (hfit.le.trans (by decide))
  have hge : 24 ≤ (lt.send (.packet intfName ethernetFrame)).length := by
    rw [hlen, hpack, List.length_append, length_packString]
    omega
  show srHandleVnsPacket e s (lt.send (.packet intfName ethernetFrame)) = _
  rw [srHandleVnsPacket, if_neg (by omega)]
  dsimp only
  rw [hbody, hname, messageMeans]

theorem srDispatch_hardwareInfo {interfaces : List VnsInterface}
    (h : Fits (.hardwareInfo interfaces)) :
    srDispatch cfg e s vnsHwInfo (lt.send (.hardwareInfo interfaces)) =
      messageMeans lt cfg e s (.hardwareInfo interfaces) := by
  have hsize := h.1
  rw [length_packHardwareInfo] at hsize
  have hbound : 8 + 216 * interfaces.length < 2 ^ 32 := by omega
  have hlist := srHandleHwinfo_hardwareInfo lt e.blocks hbound s.router.ifList
  rw [srDispatch, if_neg (by decide), if_neg (by decide), if_neg (by decide), if_pos rfl, hlist]
  rfl

theorem srDispatch_rtable {virtualHostId table : List UInt8}
    (h : Fits (.rtable virtualHostId table)) :
    srDispatch cfg e s vnsRtable (lt.send (.rtable virtualHostId table)) =
      messageMeans lt cfg e s (.rtable virtualHostId table) := by
  have hlen := length_send lt h
  have hdrop := drop_send lt h
  obtain ⟨-, hz, hfit⟩ := h
  have hpack : (ServerMessage.rtable virtualHostId table).pack =
      packString 32 virtualHostId ++ table := rfl
  have hbody : (lt.send (.rtable virtualHostId table)).drop 40 = table := by
    rw [← List.drop_drop (i := 32) (j := 8), hdrop, hpack, List.drop_left' (length_packString 32 _)]
  have hname : cBytes ((lt.send (.rtable virtualHostId table)).drop 8) = virtualHostId := by
    rw [hdrop, hpack, cBytes_packString_append hz hfit]
  have hzero : 0 ∈ (lt.send (.rtable virtualHostId table)).drop 8 := by
    rw [hdrop, hpack]
    exact List.mem_append_left _ (zero_mem_packString hfit)
  have hge : 40 ≤ (lt.send (.rtable virtualHostId table)).length := by
    rw [hlen, hpack, List.length_append, length_packString]
    omega
  rw [srDispatch, if_neg (by decide), if_neg (by decide), if_neg (by decide), if_neg (by decide),
    if_pos rfl, srHandleRtable, hname, hbody,
    if_neg (by simp only [not_or, not_not]; exact ⟨by omega, by omega, hzero⟩), messageMeans]
  split_ifs <;> rfl

theorem srDispatch_authRequest {salt : List UInt8} (h : Fits (.authRequest salt)) :
    srDispatch cfg e s vnsAuthRequest (lt.send (.authRequest salt)) =
      messageMeans lt cfg e s (.authRequest salt) := by
  have hlen := length_send lt h
  have hdrop := drop_send lt h
  have hreq := srHandleAuthRequest_eq cfg e (hlen.trans_le h.1)
  rw [srDispatch, if_neg (by decide), if_neg (by decide), if_neg (by decide), if_neg (by decide),
    if_neg (by decide), if_pos rfl, hreq, hdrop, messageMeans]
  cases e.authKey with
  | none => rfl
  | some text =>
    dsimp only
    rw [authReply_eq lt, ServerMessage.pack]
    split_ifs <;> rfl

theorem srDispatch_authStatus {authOk : Bool} {msg : List UInt8}
    (h : Fits (.authStatus authOk msg)) :
    srDispatch cfg e s vnsAuthStatus (lt.send (.authStatus authOk msg)) =
      messageMeans lt cfg e s (.authStatus authOk msg) := by
  have hlen := length_send lt h
  have hdrop := drop_send lt h
  have hmsg : (lt.send (.authStatus authOk msg)).drop 9 = msg := by
    rw [← List.drop_drop (i := 1) (j := 8), hdrop]
    rfl
  have hok : load8 (lt.send (.authStatus authOk msg)) 8 = if authOk then 1 else 0 := by
    rw [load8, List.getD_eq_getElem?_getD, ← Nat.add_zero 8, ← List.getElem?_drop, hdrop]
    rfl
  have hge : 9 ≤ (lt.send (.authStatus authOk msg)).length := by
    rw [hlen, ServerMessage.pack, List.length_cons]
    omega
  show srHandleAuthStatus s (lt.send (.authStatus authOk msg)) = _
  rw [srHandleAuthStatus, if_neg (by omega), hok, hmsg, messageMeans]
  cases authOk with
  | true => rfl
  | false =>
    rw [srPrintField_of_mem (h.2.resolve_left (by decide))]
    rfl

/-- **A message is handled as it is meant.** -/
theorem srReadCommand_send (h : Fits m) :
    srReadCommand cfg e s (lt.send m) = messageStep lt cfg e s m := by
  have hlen := length_send lt h
  rw [srReadCommand, if_neg (by omega), messageStep]
  dsimp only
  rw [command_send lt h]
  -- a command that is not the one waited for is refused before it is looked at
  by_cases hun : Unexpected s m.getType
  · rw [if_pos hun, if_pos hun]
  · rw [if_neg hun, if_neg hun]
    congr 1
    cases m with
    | close msg => exact srDispatch_close h
    | packet intfName ethernetFrame => exact srDispatch_packet h
    | banner msg => exact srDispatch_banner h
    | hardwareInfo interfaces => exact srDispatch_hardwareInfo h
    | rtable virtualHostId table => exact srDispatch_rtable h
    | authRequest salt => exact srDispatch_authRequest h
    | authStatus authOk msg => exact srDispatch_authStatus h

end Messages

/-! ### Sessions -/

/-- **A session**: however the calls on the connection go, and whenever the threads take their
turns, the router does what the first messages of the server mean, in order and each of them
once, between turns of its threads in their order.  If no call fails, no turn is left out, and if
all bytes have come, no message is.  It stops reading only where a call fails. -/
theorem vnsSession (lt : LtProtocol) (cfg : VnsConfig) {ms : List ServerMessage}
    (h : ∀ m ∈ ms, Fits m) (script : List (Happening VnsEnv ThreadTurn)) (env : VnsEnv)
    (s : VnsState) :
    ∃ es : List (Event ServerMessage VnsEnv ThreadTurn VnsStop),
      (vnsReader cfg).loop (script.length + 1) script env s (ms.flatMap lt.send) =
          es.foldlM (Event.perform (messageStep lt cfg) vnsThreadStep) s ∧
        Reader.records es <+: ms ∧ Reader.turns es <+: Reader.others script ∧
        (∀ env m, .record env m ∈ es → ∃ a, .answer a env ∈ script) ∧
        (∀ e, .stop e ∈ es → e = .failed ∧ ¬ Reader.NoFailure script) ∧
        (Reader.NoFailure script → Reader.turns es = Reader.others script ∧
          ((vnsReader cfg).unread script [] (ms.flatMap lt.send) = [] → Reader.records es = ms)) :=
  Reader.loop_messages (R := vnsReader cfg) (fun m hm => isRecord_send (h m hm))
    (fun m hm _ _ => srReadCommand_send (h m hm)) (Nat.lt_succ_self _) env s

/-! ### A session, for examples -/

/-- A message as it is. -/
def plainPack (type : ℕ) (body : List UInt8) : List UInt8 :=
  octets 4 (8 + body.length) ++ octets 4 type ++ body

/-- Its type and its body. -/
def plainUnpack (msg : List UInt8) : Option (ℕ × List UInt8) :=
  if msg.length < 8 then none else some (number (slice msg 4 4), msg.drop 8)

theorem plainUnpack_plainPack {type : ℕ} {body : List UInt8} (htype : type < 2 ^ 32) :
    plainUnpack (plainPack type body) = some (type, body) := by
  have hslice : slice (plainPack type body) 4 4 = octets 4 type := by
    rw [plainPack, slice, List.append_assoc, List.drop_left' (length_octets 4 _),
      List.take_left' (length_octets 4 _)]
  have hlen : ¬ (plainPack type body).length < 8 := by
    simp only [plainPack, List.length_append, length_octets]
    omega
  have hmod : type % 256 ^ 4 = type := Nat.mod_eq_of_lt htype
  rw [plainUnpack, if_neg hlen, hslice, number_octets, hmod, plainPack,
    List.drop_left' (by simp)]

/-- The messages as they are. -/
def plainLt : LtProtocol where
  pack := plainPack
  unpack := plainUnpack
  pack_eq _ _ _ _ := rfl
  unpack_pack _ _ _ htype := plainUnpack_plainPack htype

/-- The user `u` at the router `vhost1`. -/
def vhost1Config : VnsConfig := ⟨[117], by decide, by decide, [118, 104, 111, 115, 116, 49], [], 0⟩

/-- All goes well. -/
def quietVnsEnv : VnsEnv where
  env := quietEnv
  blocks := fun _ _ => 0
  authKey := some [107, 101, 121, 10]
  stack := fun _ => 0
  sha1 := ⟨Sha1Words.initial, 0, 0, List.replicate 64 0, rfl, 0, false, false⟩
  sends := true
  writable := true

/-- The router waits for its interfaces. -/
def openedSession : VnsState := ⟨routerInit [] [], []⟩

/-- The ARP cache is swept. -/
def arpTurn : ThreadTurn := ⟨(quietEnv, .arpTimeout), fun _ _ h => by cases h⟩

/-- Two messages, with a call for each header and a call for what is behind it.  The first header
comes in two pieces, with a signal and a turn of a thread between them. -/
def piecewise : List (Happening VnsEnv ThreadTurn) :=
  [.answer (.gives 2) quietVnsEnv, .answer .interrupted quietVnsEnv, .other arpTurn,
    .answer (.gives 2) quietVnsEnv, .answer (.gives 4) quietVnsEnv,
    .answer (.gives 4) quietVnsEnv, .answer (.gives 5) quietVnsEnv]

theorem vnsSession_piecewise :
    ∃ es : List (Event ServerMessage VnsEnv ThreadTurn VnsStop),
      (vnsReader vhost1Config).loop (piecewise.length + 1) piecewise quietVnsEnv openedSession
          ([.hardwareInfo [], .authStatus true []].flatMap plainLt.send) =
          es.foldlM (Event.perform (messageStep plainLt vhost1Config) vnsThreadStep) openedSession ∧
        Reader.records es = [.hardwareInfo [], .authStatus true []] ∧
        Reader.turns es = [arpTurn] := by
  have hfits : ∀ m ∈ [ServerMessage.hardwareInfo [], .authStatus true []], Fits m := by
    simp only [List.mem_cons, List.not_mem_nil, or_false, forall_eq_or_imp, forall_eq]
    exact ⟨⟨by decide, trivial⟩, ⟨by decide, .inl rfl⟩⟩
  obtain ⟨es, hloop, -, -, -, -, hall⟩ :=
    vnsSession plainLt vhost1Config hfits piecewise quietVnsEnv openedSession
  have hok : Reader.NoFailure piecewise := by
    intro env hmem
    simp [piecewise] at hmem
  obtain ⟨hturns, hrecords⟩ := hall hok
  exact ⟨es, hloop, hrecords (by decide), hturns⟩

end Redes
