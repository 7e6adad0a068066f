import Mathlib.Logic.Relation
import Redes.Network.Routers
import Redes.Vns.Handler
import Redes.Vns.Session

/-!
# Routers behind a server

Each router has a connection to the server, over which messages go one after the other in both
directions, and the server has one to each switch.  A frame that a router sends is written to its
connection, read by the server, and sent through a port of a switch; what arrives at a port of
a switch goes back the same way.  A link connects ports of switches and hosts: a frame that is
sent through a port may arrive at the other ports on the link at any later time, once, more than
once or not at all.

The parts take turns in any order.

## Main definitions

* `srSendPacket`, `writeOut` — what a router writes to its connection.
* `clientMessage` — what the server reads there.
* `Fabric` — the switches, the links, and how the routers are started.
* `Bridge` — the states of all parts, and what is on its way between them.
* `Fabric.Step`, `Fabric.Runs` — turns and runs.
* `Fabric.cabling` — the routers on the links, without anything in between.
* `Fabric.Told` — what the server knows of a switch.

## Main results

* `mem_writeOut` — what a router writes for the frames that it sends.
* `cabling_link` — the links are the same.
* `knowsPorts_of_told`, `told_handleRouterInfo` — the server knows the switches that have told it.
-/

namespace Redes

open Bytes Logged

/-! ### What a router writes -/

/-- `sr_send_packet`: what is written to the connection.  Where the sum of the lengths is too
large for its type, the block is too small for the copy of the frame. -/
def srSendPacket (ifList : List SrIf) (buf : Frame) (iface : IfName) :
    Logged (List UInt8) Halt Unit :=
  if buf.length < 14 then pure ()
  else if 2 ^ 32 ≤ buf.length + 24 then halt .outOfBounds
  else if srEtherAddrsMatchInterface ifList buf iface then
    emit [bytes32 (htonl (UInt32.ofNat (buf.length + 24))) ++
      bytes32 (htonl (UInt32.ofNat vnsPacket)) ++ strncpy 16 (bytesOfName iface) ++ buf] ()
  else pure ()

/-- What goes to the connection of what a session sends and writes. -/
def writeOut (ifList : List SrIf) (log : List VnsOut) : Logged (List UInt8) Halt Unit :=
  log.foldlM (fun _ out => match out with
    | .frame out => srSendPacket ifList out.frame out.iface
    | .message bytes => emit [bytes] ()
    | .file _ _ => pure ()) ()

theorem writeOut_message (ifList : List SrIf) (bytes : List UInt8) :
    writeOut ifList [.message bytes] = emit [bytes] () := rfl

/-- The message that the server reads, if it can. -/
def clientMessage (lt : LtProtocol) (bytes : List UInt8) : Option ClientMessage :=
  (lt.unpack bytes).bind fun m => unpackClient m.1 m.2

/-! ### Switches and links -/

/-- How the switches are connected, how the routers are started, and what the hosts do. -/
structure Fabric (ν κ : Type*) where
  /-- The routers, each with a switch. -/
  routers : List ν
  /-- There are no others. -/
  mem_routers : ∀ n, n ∈ routers
  /-- The name of a switch. -/
  vhost : ν → List UInt8
  /-- The names are different. -/
  vhost_injective : Function.Injective vhost
  /-- They fit in the messages. -/
  vhost_fits : ∀ n, 0 ∉ vhost n ∧ (vhost n).length ≤ 32
  /-- What a switch tells of its ports. -/
  info : ν → List SwPort
  /-- The ports are different. -/
  distinct : ∀ n, Distinct (info n)
  /-- Their names fit in the messages. -/
  names_fit : ∀ n, ∀ p ∈ info n, 0 ∉ p.name ∧ p.name.length < 16
  /-- The ports of a switch fit in one message. -/
  info_fits : ∀ n, 8 + 216 * (info n).length ≤ 10000
  /-- The command line of a router. -/
  config : ν → VnsConfig
  /-- A router is started with the name of its switch. -/
  config_host : ∀ n, (config n).host = vhost n
  /-- No router is started with a template. -/
  config_template : ∀ n, (config n).template = []
  /-- The static routes of a router. -/
  staticRoutes : ν → List SrRt
  /-- The salt that the server has chosen for a connection. -/
  salt : ν → List UInt8
  /-- It has 20 bytes. -/
  length_salt : ∀ n, (salt n).length = 20
  /-- The text of a connection. -/
  connText : ν → List UInt8
  /-- It fits in a message. -/
  connText_fits : ∀ n, 9 + (authenticated (connText n)).length ≤ 10000
  /-- The link that a port is connected to. -/
  link : ν → ℕ → κ
  /-- The frames that hosts may send on a link. -/
  hosts : κ → Frame → Prop
  /-- Hosts send no OSPF packets. -/
  hosts_ospf : ∀ k f, hosts k f → etherType f = htons ethertypeIp → ipP f ≠ ipProtocolOspfv2
  /-- The longest frame that arrives at a port. -/
  maxFrame : ℕ
  /-- It fits in a message. -/
  maxFrame_fits : 24 + maxFrame ≤ 10000

/-- A frame that has been sent through a port. -/
structure OnWire (ν : Type*) where
  /-- The switch. -/
  switch : ν
  /-- The port. -/
  port : ℕ
  /-- The frame. -/
  frame : Frame

/-- All parts, and what is on its way between them. -/
structure Bridge (ν : Type*) where
  /-- The sessions of the routers. -/
  sessions : ν → VnsState
  /-- The routers that have ended. -/
  down : Set ν
  /-- The server. -/
  server : SrServer ν
  /-- The messages to a router that it has not read yet. -/
  toRouter : ν → List ServerMessage
  /-- The messages of a router that the server has not read yet. -/
  toServer : ν → List (List UInt8)
  /-- What has been sent through ports. -/
  wire : Set (OnWire ν)
  /-- The routers with a message that has made the server raise an exception. -/
  refused : Set ν

namespace Fabric

variable {ν κ : Type*} (F : Fabric ν κ) (lt : LtProtocol)

/-- The routers on the links, with nothing in between. -/
def cabling : Cabling ν κ where
  ifList n := (F.info n).map fun p => p.interface.srIf
  staticRoutes := F.staticRoutes
  link n name :=
    F.link n (((portNamed (F.info n) (bytesOfName name)).map SwPort.port).getD 0)
  hosts := F.hosts
  no_neighbors n i hi := by
    obtain ⟨p, -, rfl⟩ := List.mem_map.mp hi
    rfl
  hosts_ospf := F.hosts_ospf

/-! ### What a router writes for its frames -/

section Writes

variable {F} {n : ν}

theorem name_srIf {p : SwPort} (h : p ∈ F.info n) : p.interface.srIf.name = nameOfBytes p.name := by
  obtain ⟨hz, hlen⟩ := F.names_fit n p h
  show nameOfBytes ((cBytes p.name).take srIfaceNamelen) = _
  rw [cBytes_of_notMem hz, List.take_of_length_le (hlen.le.trans (by decide))]

/-- The ports of a router are those of its switch. -/
theorem mem_ports_cabling {q : Port} (h : q ∈ ports (F.cabling.ifList n)) :
    ∃ p ∈ F.info n, q.name = nameOfBytes p.name := by
  obtain ⟨i, hi, rfl⟩ := List.mem_map.mp h
  obtain ⟨p, hp, rfl⟩ := List.mem_map.mp hi
  exact ⟨p, hp, name_srIf hp⟩

theorem exists_port_of_mem_info {p : SwPort} (h : p ∈ F.info n) :
    ∃ q ∈ ports (F.cabling.ifList n), q.name = nameOfBytes p.name :=
  ⟨p.interface.srIf.port, List.mem_map_of_mem (List.mem_map_of_mem h), name_srIf h⟩

/-- **The links are the same.** -/
theorem cabling_link {p : SwPort} (h : p ∈ F.info n) :
    F.cabling.link n (nameOfBytes p.name) = F.link n p.port := by
  have hfind : portNamed (F.info n) p.name = some p :=
    (Keyed.find?_eq_some (F.distinct n).1).mpr ⟨h, rfl⟩
  show F.link n (((portNamed (F.info n) (bytesOfName (nameOfBytes p.name))).map
    SwPort.port).getD 0) = _
  rw [bytesOfName_nameOfBytes, hfind]
  rfl

/-- The message that a router writes for a frame. -/
theorem packet_eq {p : SwPort} (hp : p ∈ F.info n) {frame : Frame}
    (hlen : frame.length + 24 < 2 ^ 32) :
    bytes32 (htonl (UInt32.ofNat (frame.length + 24))) ++
      bytes32 (htonl (UInt32.ofNat vnsPacket)) ++
        strncpy 16 (bytesOfName (nameOfBytes p.name)) ++ frame =
      lt.pack vnsPacket (packString 16 p.name ++ frame) := by
  have hbody : (packString 16 p.name ++ frame).length = 16 + frame.length := by simp
  rw [lt.pack_eq _ _ (by omega) (by decide), hbody, bytesOfName_nameOfBytes,
    strncpy_eq_packString, cBytes_of_notMem (F.names_fit n p hp).1, bytes32_htonl_ofNat hlen,
    bytes32_htonl_ofNat (by decide), show 8 + (16 + frame.length) = frame.length + 24 by omega]
  simp only [List.append_assoc]

/-- The bytes that a router writes for a frame. -/
theorem mem_srSendPacket {ifList : List SrIf} (hports : ports ifList = ports (F.cabling.ifList n))
    {frame : Frame} {iface : IfName} {bytes : List UInt8}
    (h : bytes ∈ (srSendPacket ifList frame iface).log) :
    ∃ p ∈ F.info n, iface = nameOfBytes p.name ∧ 24 + frame.length < 2 ^ 32 ∧
      bytes = lt.pack vnsPacket (packString 16 p.name ++ frame) := by
  unfold srSendPacket at h
  -- frames that are too short, too long, or not from the interface are not sent
  split_ifs at h with hshort hlong hmatch
  · exact absurd h List.not_mem_nil
  · exact absurd h List.not_mem_nil
  · obtain rfl := List.mem_singleton.mp h
    unfold srEtherAddrsMatchInterface srGetInterface at hmatch
    split at hmatch
    · cases hmatch
    · rename_i i hfind
      have hname : i.name = iface := by simpa using List.find?_some hfind
      have hmem : i.port ∈ ports (F.cabling.ifList n) :=
        hports ▸ List.mem_map_of_mem (List.mem_of_find?_eq_some hfind)
      obtain ⟨p, hp, hpname⟩ := mem_ports_cabling hmem
      obtain rfl : iface = nameOfBytes p.name := hname.symm.trans hpname
      exact ⟨p, hp, rfl, by omega, packet_eq lt hp (by omega)⟩
  · exact absurd h List.not_mem_nil

/-- **What a router writes for the frames that it sends.** -/
theorem mem_writeOut {ifList : List SrIf} (hports : ports ifList = ports (F.cabling.ifList n))
    {log : List Outgoing} {bytes : List UInt8}
    (h : bytes ∈ (writeOut ifList (log.map .frame)).log) :
    ∃ p ∈ F.info n, ∃ out ∈ log, out.iface = nameOfBytes p.name ∧
      24 + out.frame.length < 2 ^ 32 ∧
      bytes = lt.pack vnsPacket (packString 16 p.name ++ out.frame) := by
  -- all that is written is written by `sr_send_packet` for one of the frames
  have hsafe : Safe (fun bytes => ∃ p ∈ F.info n, ∃ out ∈ log, out.iface = nameOfBytes p.name ∧
      24 + out.frame.length < 2 ^ 32 ∧
      bytes = lt.pack vnsPacket (packString 16 p.name ++ out.frame)) (fun _ => True)
      (writeOut ifList (log.map .frame)) := by
    refine Safe.foldlM (fun _ a ha _ => ?_) trivial
    obtain ⟨out, hout, rfl⟩ := List.mem_map.mp ha
    refine ⟨fun bytes hb => ?_, fun _ _ => trivial⟩
    obtain ⟨p, hp, hiface, hlen, hbytes⟩ := mem_srSendPacket lt hports hb
    exact ⟨p, hp, out, hout, hiface, hlen, hbytes⟩
  exact hsafe.1 bytes h

end Writes

variable [DecidableEq ν]

/-! ### Turns -/

/-- A turn of a router: it ends if the turn fails, or what it writes. -/
def routerTurn (b : Bridge ν) (n : ν) (x : VnsAction VnsState) : Bridge ν :=
  let written := writeOut (b.sessions n).router.ifList x.log
  { b with
    sessions :=
      match x.ending with
      | .ok s => Function.update b.sessions n s
      | .error _ => b.sessions
    down :=
      match x.ending, written.ending with
      | .ok _, .ok _ => b.down
      | _, _ => insert n b.down
    toServer := Function.update b.toServer n (b.toServer n ++ written.log) }

/-- A turn of the server, and of the switches that it tells to send a frame. -/
def serverTurn (b : Bridge ν) (served : Handled ν) : Bridge ν :=
  { b with
    server := served.server
    toRouter := fun n => b.toRouter n ++
      served.sends.filterMap fun send => if send.1 = n then some send.2 else none
    wire := {w | w ∈ b.wire ∨ ∃ event ∈ served.events,
      handleSrPacketOut (F.vhost w.switch) event = some (w.port, w.frame)} }

/-- A turn of the server that reads a message of a router. -/
def serveTurn (b : Bridge ν) (n : ν) (rest : List (List UInt8)) (served : Handled ν) : Bridge ν :=
  { F.serverTurn { b with toServer := Function.update b.toServer n rest } served with
    refused := if served.raises then insert n b.refused else b.refused }

/-- All routers are connected, and the server has sent each one its salt.  No switch has told the
server of its ports yet. -/
def start : Bridge ν where
  sessions n := ⟨routerInit [] (F.staticRoutes n), [vnsAuthRequest, vnsAuthStatus]⟩
  down := ∅
  server := .init
  toRouter n := [.authRequest (F.salt n)]
  toServer _ := []
  wire := ∅
  refused := ∅

/-- What is done with the next message of a router. -/
def serve (s : SrServer ν) (n : ν) (bytes : List UInt8) : Handled ν :=
  handleRecvMsg (F.connText n) n (clientMessage lt bytes) s

/-- One turn. -/
inductive Step : Bridge ν → Bridge ν → Prop
  /-- A router reads its next message. -/
  | read {b : Bridge ν} (n : ν) (e : VnsEnv) {m : ServerMessage} {ms : List ServerMessage} :
      n ∉ b.down → b.toRouter n = m :: ms →
        Step b (routerTurn { b with toRouter := Function.update b.toRouter n ms } n
          (srReadCommand (F.config n) e (b.sessions n) (lt.send m)))
  /-- A thread of a router takes a turn. -/
  | thread {b : Bridge ν} (n : ν) (t : ThreadTurn) :
      n ∉ b.down → F.cabling.Own n (b.sessions n).router t.1.2 →
        Step b (routerTurn b n (vnsThreadStep (b.sessions n) t))
  /-- The server reads the next message of a router. -/
  | serve {b : Bridge ν} (n : ν) {bytes : List UInt8} {rest : List (List UInt8)} :
      b.toServer n = bytes :: rest →
        Step b (F.serveTurn b n rest (F.serve lt b.server n bytes))
  /-- A frame of a host arrives at a port. -/
  | fromHost {b : Bridge ν} (n : ν) (port : ℕ) {frame : Frame} :
      frame.length ≤ F.maxFrame → F.hosts (F.link n port) frame →
        Step b (F.serverTurn b (handleSrPacketIn (F.vhost n) port frame b.server))
  /-- A frame arrives at another port on the link that it was sent on. -/
  | fromWire {b : Bridge ν} (n : ν) (port : ℕ) {w : OnWire ν} :
      w ∈ b.wire → w.frame.length ≤ F.maxFrame → F.link w.switch w.port = F.link n port →
        (w.switch, w.port) ≠ (n, port) →
        Step b (F.serverTurn b (handleSrPacketIn (F.vhost n) port w.frame b.server))
  /-- A switch tells of its ports, for the first time or once more. -/
  | routerInfo {b : Bridge ν} (n : ν) :
      Step b { b with server := handleRouterInfo (F.vhost n) (F.info n) b.server }

/-- What can be reached. -/
def Runs (b : Bridge ν) : Prop := Relation.ReflTransGen (F.Step lt) F.start b

/-! ### The server knows the switches -/

/-- A switch has told the server of its ports, or it has not. -/
def Told (s : SrServer ν) (n : ν) : Prop :=
  Untold s (F.vhost n) ∨ KnowsPorts s (F.vhost n) (F.info n)

variable {F}

omit [DecidableEq ν] in
theorem told_init (n : ν) : F.Told .init n := .inl ⟨fun _ => rfl, fun _ => rfl, rfl⟩

/-- **The server does not forget a switch** when any of them tells of its ports. -/
theorem knowsPorts_of_told {n : ν} (m : ν) {s : SrServer ν}
    (h : KnowsPorts s (F.vhost n) (F.info n)) :
    KnowsPorts (handleRouterInfo (F.vhost m) (F.info m) s) (F.vhost n) (F.info n) := by
  -- its own ports are put in the dictionaries a second time, the others under another name
  by_cases hnm : n = m
  · subst hnm
    exact knowsPorts_handleRouterInfo (F.distinct n) (.inr h)
  · obtain ⟨hport, hname, hinterfaces⟩ :=
      handleRouterInfo_of_ne (F.vhost_injective.ne hnm) (F.info m) s
    exact h.congr hport hname hinterfaces

theorem told_handleRouterInfo {n : ν} (m : ν) {s : SrServer ν} (h : F.Told s n) :
    F.Told (handleRouterInfo (F.vhost m) (F.info m) s) n := by
  rcases h with huntold | hknows
  · by_cases hnm : n = m
    · subst hnm
      exact .inr (knowsPorts_handleRouterInfo (F.distinct n) (.inl huntold))
    · obtain ⟨hport, hname, hinterfaces⟩ :=
        handleRouterInfo_of_ne (F.vhost_injective.ne hnm) (F.info m) s
      exact .inl (huntold.congr hport hname hinterfaces)
  · exact .inr (knowsPorts_of_told m hknows)

end Fabric

end Redes
