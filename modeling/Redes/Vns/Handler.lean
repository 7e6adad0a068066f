import Mathlib.Logic.Function.Basic
import Redes.Lib.Keyed
import Redes.Vns.Wire

/-!
# The server

The server (`srhandler.py`) stands between the switches and the routers.  A switch (`ofhandler.py`)
tells it the names, the addresses and the numbers of its ports; a router that connects is
authenticated, asks for the interfaces of a host by its name, and from then on gets the frames
that arrive at the ports of the switch of this name, and sends frames through them.

A handler that raises an exception has changed the server up to there.

## Main definitions

* `SwPort` — what a switch tells of a port.
* `SrServer` — the dictionaries of the server.
* `handleRouterInfo`, `handleSrPacketIn`, `handleSrPacketOut` — the events of switches.
* `ClientMessage`, `unpackClient` — what a router sends.
* `handleRecvMsg` — what the server does with it.
* `Untold`, `KnowsPorts` — the server has been told of the ports of a switch, or it has not.

## Main results

* `knowsPorts_handleRouterInfo`, `handleRouterInfo_of_ne` — what it has been told.
* `unpackClient_open`, `unpackClient_packet`, `unpackClient_authReply` — what it reads.
-/

namespace Redes

open Bytes

/-! ### What the server has -/

/-- A port of a switch: `sw_info` has the number of the port and its addresses for each name. -/
structure SwPort where
  /-- The name. -/
  name : List UInt8
  /-- The IP address. -/
  ip : List UInt8
  /-- The hardware address. -/
  mac : List UInt8
  /-- The number. -/
  port : ℕ
  /-- An IP address has four bytes. -/
  length_ip : ip.length = 4
  /-- A hardware address has six bytes. -/
  length_mac : mac.length = 6

/-- The interface at a port.  All have the mask 255.255.255.0. -/
def SwPort.interface (p : SwPort) : VnsInterface where
  name := p.name
  mac := p.mac
  ip := p.ip
  mask := [255, 255, 255, 0]
  length_mac := p.length_mac
  length_ip := p.length_ip
  length_mask := rfl

/-- `SRServerListener`: its dictionaries.  `γ` are the connections. -/
structure SrServer (γ : Type*) where
  /-- The connection of a host. -/
  srclients : List UInt8 → Option γ
  /-- The host of a connection. -/
  srclientsReverse : γ → Option (List UInt8)
  /-- The ports of a host by their names. -/
  intfnameToPort : List UInt8 → Option (List UInt8 → Option ℕ)
  /-- The names of the ports of a host. -/
  portToIntfname : List UInt8 → Option (ℕ → Option (List UInt8))
  /-- The interfaces of a host. -/
  interfaces : List UInt8 → Option (List VnsInterface)

namespace SrServer

variable {γ : Type*}

/-- The server that is new. -/
def init : SrServer γ :=
  ⟨fun _ => none, fun _ => none, fun _ => none, fun _ => none, fun _ => none⟩

/-- `self.intfname_to_port[vhost][intf]`. -/
def portOf (s : SrServer γ) (vhost intf : List UInt8) : Option ℕ :=
  (s.intfnameToPort vhost).bind fun ports => ports intf

/-- `self.port_to_intfname[vhost][port]`. -/
def nameOf (s : SrServer γ) (vhost : List UInt8) (port : ℕ) : Option (List UInt8) :=
  (s.portToIntfname vhost).bind fun names => names port

end SrServer

/-- `SRPacketOut`. -/
structure SrPacketOut where
  /-- The frame. -/
  pkt : List UInt8
  /-- The port. -/
  port : ℕ
  /-- The switch. -/
  vhost : List UInt8

/-- What a handler does. -/
structure Handled (γ : Type*) where
  /-- The server afterwards. -/
  server : SrServer γ
  /-- The messages that are sent. -/
  sends : List (γ × ServerMessage)
  /-- The events that are raised. -/
  events : List SrPacketOut
  /-- Whether an exception is raised. -/
  raises : Bool

/-- What routers send. -/
inductive ClientMessage
  /-- `VNSOpen`. -/
  | openTopology (topoId : ℕ) (vhost user pw : List UInt8)
  /-- `VNSClose`. -/
  | close (msg : List UInt8)
  /-- `VNSPacket`. -/
  | packet (intfName ethernetFrame : List UInt8)
  /-- `VNSOpenTemplate`. -/
  | openTemplate
  /-- `VNSAuthReply`. -/
  | authReply (username ssp : List UInt8)
  /-- A message that only the server sends. -/
  | other

/-- `VNSOPEN`. -/
def vnsOpen : ℕ := 1

/-- `VNS_OPEN_TEMPLATE`. -/
def vnsOpenTemplate : ℕ := 64

/-- The `unpack` of the class for a type.  It raises an exception where there is no value. -/
def unpackClient (type : ℕ) (body : List UInt8) : Option ClientMessage :=
  if type = vnsOpen then
    if body.length = 100 then
      some (.openTopology (number (slice body 0 2)) (stripNullChars (slice body 4 32))
        (stripNullChars (slice body 36 32)) (stripNullChars (slice body 68 32)))
    else none
  else if type = vnsClose then
    if body.length = 256 then some (.close (stripNullChars body)) else none
  else if type = vnsPacket then (unpackVnsPacket body).map fun m => .packet m.1 m.2
  else if type = vnsOpenTemplate then some .openTemplate
  else if type = vnsAuthReply then (unpackVnsAuthReply body).map fun m => .authReply m.1 m.2
  else some .other

/-! ### What the server does -/

section Handlers

variable {γ : Type*}

/-- One port of the loop of `_handle_RouterInfo`.  A host has both dictionaries or none. -/
def addPort (vhost : List UInt8) (s : SrServer γ) (p : SwPort) : SrServer γ :=
  let ports := (s.intfnameToPort vhost).getD fun _ => none
  let names := (s.portToIntfname vhost).getD fun _ => none
  { s with
    intfnameToPort := Function.update s.intfnameToPort vhost
      (some (Function.update ports p.name (some p.port)))
    portToIntfname := Function.update s.portToIntfname vhost
      (some (Function.update names p.port (some p.name))) }

/-- `_handle_RouterInfo`. -/
def handleRouterInfo (vhost : List UInt8) (info : List SwPort) (s : SrServer γ) : SrServer γ :=
  let s := info.foldl (addPort vhost) s
  { s with interfaces := Function.update s.interfaces vhost (some (info.map SwPort.interface)) }

/-- `_handle_SRPacketIn`. -/
def handleSrPacketIn (vhost : List UInt8) (port : ℕ) (pkt : List UInt8) (s : SrServer γ) :
    Handled γ :=
  match s.nameOf vhost port with
  | none => ⟨s, [], [], false⟩
  | some intfname =>
      match s.srclients vhost with
      | none => ⟨s, [], [], true⟩
      | some conn => ⟨s, [(conn, .packet intfname pkt)], [], false⟩

/-- `_handle_SRPacketOut` of the switch `vhostId`: the port, and the frame. -/
def handleSrPacketOut (vhostId : List UInt8) (event : SrPacketOut) : Option (ℕ × List UInt8) :=
  if event.vhost = vhostId then some (event.port, event.pkt) else none

/-- The text of `_handle_auth_reply`, with the text of the connection. -/
def authenticated (connText : List UInt8) : List UInt8 :=
  bytesOfName "authenticated ".toList ++ connText ++ bytesOfName " as user".toList

/-- `_handle_auth_reply`, whatever the reply is. -/
def handleAuthReply (connText : List UInt8) (conn : γ) (s : SrServer γ) : Handled γ :=
  ⟨s, [(conn, .authStatus true (authenticated connText))], [], false⟩

/-- `_handle_open_msg`.  The interfaces are printed in front of the `try`. -/
def handleOpenMsg [DecidableEq γ] (conn : γ) (vhost : List UInt8) (s : SrServer γ) : Handled γ :=
  let s := { s with
    srclients := Function.update s.srclients vhost (some conn)
    srclientsReverse := Function.update s.srclientsReverse conn (some vhost) }
  match s.interfaces vhost with
  | none => ⟨s, [], [], true⟩
  | some interfaces => ⟨s, [(conn, .hardwareInfo interfaces)], [], false⟩

/-- `_handle_packet_msg`.  Where there is no such port, the text for the log has its number in
it, which is not set. -/
def handlePacketMsg (conn : γ) (outIntf pkt : List UInt8) (s : SrServer γ) : Handled γ :=
  match s.srclientsReverse conn with
  | none => ⟨s, [], [], true⟩
  | some vhost =>
      match s.portOf vhost outIntf with
      | none => ⟨s, [], [], true⟩
      | some outPort => ⟨s, [], [⟨pkt, outPort, vhost⟩], false⟩

/-- `_handle_recv_msg`.  What is sent when a router closes the session is a text and not a
message, and the handler for templates takes one argument less than it is given. -/
def handleRecvMsg [DecidableEq γ] (connText : List UInt8) (conn : γ) (vnsMsg : Option ClientMessage)
    (s : SrServer γ) : Handled γ :=
  match vnsMsg with
  | none => ⟨s, [], [], true⟩
  | some (.authReply _ _) => handleAuthReply connText conn s
  | some (.openTopology _ vhost _ _) => handleOpenMsg conn vhost s
  | some (.close _) => ⟨s, [], [], true⟩
  | some (.packet intfName ethernetFrame) => handlePacketMsg conn intfName ethernetFrame s
  | some .openTemplate => ⟨s, [], [], true⟩
  | some .other => ⟨s, [], [], false⟩

end Handlers

/-! ### What the server reads -/

/-- **A frame.** -/
theorem unpackClient_packet {name : List UInt8} (hz : 0 ∉ name) (hlen : name.length ≤ 16)
    (frame : List UInt8) :
    unpackClient vnsPacket (packString 16 name ++ frame) = some (.packet name frame) := by
  have htake : (packString 16 name ++ frame).take 16 = packString 16 name :=
    List.take_left' (length_packString 16 name)
  have hdrop : (packString 16 name ++ frame).drop 16 = frame :=
    List.drop_left' (length_packString 16 name)
  rw [unpackClient, if_neg (by decide), if_neg (by decide), if_pos rfl, unpackVnsPacket,
    if_neg (by simp), htake, hdrop, stripNullChars_packString hz hlen]
  rfl

/-- **The reply to the authentication.** -/
theorem unpackClient_authReply {user : List UInt8} (hlen : user.length < 2 ^ 32)
    (ssp : List UInt8) :
    unpackClient vnsAuthReply (packVnsAuthReply user ssp) = some (.authReply user ssp) := by
  have hdrop : (packVnsAuthReply user ssp).drop 4 = user ++ ssp := by
    rw [packVnsAuthReply, List.append_assoc, List.drop_left' (length_octets 4 _)]
  have hnum : number ((packVnsAuthReply user ssp).take 4) = user.length := by
    rw [packVnsAuthReply, List.append_assoc, List.take_left' (length_octets 4 _), number_octets]
    exact Nat.mod_eq_of_lt hlen
  have hge : ¬ (packVnsAuthReply user ssp).length < 4 := by
    simp only [packVnsAuthReply, List.length_append, length_octets]
    omega
  rw [unpackClient, if_neg (by decide), if_neg (by decide), if_neg (by decide),
    if_neg (by decide), if_pos rfl, unpackVnsAuthReply, if_neg hge]
  simp only [hdrop, hnum, List.take_left, List.drop_left, Option.map_some]

/-- **The request for a topology.** -/
theorem unpackClient_open {topo pad : List UInt8} (htopo : topo.length = 2)
    (hpad : pad.length = 2) {vhost user pw : List UInt8}
    (hvhost : 0 ∉ vhost ∧ vhost.length ≤ 32) (huser : 0 ∉ user ∧ user.length ≤ 32)
    (hpw : 0 ∉ pw ∧ pw.length ≤ 32) :
    unpackClient vnsOpen (topo ++ (pad ++ (packString 32 vhost ++ (packString 32 user ++
      packString 32 pw)))) = some (.openTopology (number topo) vhost user pw) := by
  -- the fields of `VNSOpen.FORMAT`, each one behind the others
  have hslice : ∀ (a b c : List UInt8) (i n : ℕ), a.length = i → b.length = n →
      slice (a ++ (b ++ c)) i n = b := by
    rintro a b c i n rfl rfl
    rw [slice, List.drop_left, List.take_left]
  have h₀ := hslice [] topo (pad ++ (packString 32 vhost ++ (packString 32 user ++
    packString 32 pw))) 0 2 rfl htopo
  have h₁ := hslice (topo ++ pad) (packString 32 vhost) (packString 32 user ++ packString 32 pw)
    4 32 (by simp [htopo, hpad]) (by simp)
  have h₂ := hslice (topo ++ pad ++ packString 32 vhost) (packString 32 user) (packString 32 pw)
    36 32 (by simp [htopo, hpad]) (by simp)
  have h₃ := hslice (topo ++ pad ++ packString 32 vhost ++ packString 32 user) (packString 32 pw)
    [] 68 32 (by simp [htopo, hpad]) (by simp)
  rw [List.nil_append] at h₀
  simp only [List.append_assoc, List.append_nil] at h₁ h₂ h₃
  rw [unpackClient, if_pos rfl, if_pos (by simp [htopo, hpad]), h₀, h₁, h₂, h₃,
    stripNullChars_packString hvhost.1 hvhost.2, stripNullChars_packString huser.1 huser.2,
    stripNullChars_packString hpw.1 hpw.2]

/-! ### What the server has been told -/

/-- The port with a name. -/
def portNamed (info : List SwPort) (intf : List UInt8) : Option SwPort :=
  info.find? fun p => p.name = intf

/-- The port with a number. -/
def portNumbered (info : List SwPort) (port : ℕ) : Option SwPort :=
  info.find? fun p => p.port = port

/-- Ports with different names and different numbers. -/
def Distinct (info : List SwPort) : Prop :=
  (info.map SwPort.name).Nodup ∧ (info.map SwPort.port).Nodup

/-- The server has been told of the ports of a switch, and of no others under its name. -/
structure KnowsPorts {γ : Type*} (s : SrServer γ) (vhost : List UInt8) (info : List SwPort) :
    Prop where
  /-- The numbers. -/
  portOf : ∀ intf, s.portOf vhost intf = (portNamed info intf).map SwPort.port
  /-- The names. -/
  nameOf : ∀ port, s.nameOf vhost port = (portNumbered info port).map SwPort.name
  /-- The interfaces. -/
  interfaces : s.interfaces vhost = some (info.map SwPort.interface)

/-- A switch has not told the server of its ports. -/
structure Untold {γ : Type*} (s : SrServer γ) (vhost : List UInt8) : Prop where
  /-- There are no numbers. -/
  portOf : ∀ intf, s.portOf vhost intf = none
  /-- There are no names. -/
  nameOf : ∀ port, s.nameOf vhost port = none
  /-- There are no interfaces. -/
  interfaces : s.interfaces vhost = none

section Told

variable {γ : Type*} {s : SrServer γ} {vhost vhost' : List UInt8} {info : List SwPort}

/-- Entries that are put in a dictionary one after the other, under different keys. -/
theorem foldl_update {α κ β : Type*} [DecidableEq κ] (key : α → κ) (val : α → β) {l : List α}
    (h : (l.map key).Nodup) (d : κ → Option β) (k : κ) :
    l.foldl (fun d a => Function.update d (key a) (some (val a))) d k =
      ((l.find? fun a => key a = k).map val).or (d k) := by
  induction l generalizing d with
  | nil => rfl
  | cons a l ih =>
    rw [List.map_cons, List.nodup_cons] at h
    rw [List.foldl_cons, ih h.2]
    -- no entry behind this one has its key
    by_cases hk : key a = k
    · subst hk
      have hnone : (l.find? fun b => key b = key a) = none :=
        Keyed.find?_eq_none.mpr fun b hb heq => h.1 (List.mem_map.mpr ⟨b, hb, heq⟩)
      rw [hnone, List.find?_cons_of_pos (by simp), Function.update_self]
      rfl
    · rw [List.find?_cons_of_neg (by simpa using hk), Function.update_of_ne (Ne.symm hk)]

theorem portOf_addPort (vhost : List UInt8) (s : SrServer γ) (p : SwPort) :
    (addPort vhost s p).portOf vhost =
      Function.update (s.portOf vhost) p.name (some p.port) := by
  have hports : s.portOf vhost = (s.intfnameToPort vhost).getD fun _ => none := by
    funext intf
    rw [SrServer.portOf]
    cases s.intfnameToPort vhost <;> rfl
  rw [hports]
  funext intf
  simp only [SrServer.portOf, addPort, Function.update_self, Option.bind_some]

theorem nameOf_addPort (vhost : List UInt8) (s : SrServer γ) (p : SwPort) :
    (addPort vhost s p).nameOf vhost =
      Function.update (s.nameOf vhost) p.port (some p.name) := by
  have hnames : s.nameOf vhost = (s.portToIntfname vhost).getD fun _ => none := by
    funext port
    rw [SrServer.nameOf]
    cases s.portToIntfname vhost <;> rfl
  rw [hnames]
  funext port
  simp only [SrServer.nameOf, addPort, Function.update_self, Option.bind_some]

theorem portOf_foldl_addPort (h : Distinct info) (s : SrServer γ) (intf : List UInt8) :
    (info.foldl (addPort vhost) s).portOf vhost intf =
      ((portNamed info intf).map SwPort.port).or (s.portOf vhost intf) := by
  rw [portNamed, ← foldl_update SwPort.name SwPort.port h.1]
  refine congrFun ?_ intf
  induction info generalizing s with
  | nil => rfl
  | cons p info ih =>
    rw [List.foldl_cons, List.foldl_cons, ← portOf_addPort]
    exact ih ⟨(List.nodup_cons.mp h.1).2, (List.nodup_cons.mp h.2).2⟩ _

theorem nameOf_foldl_addPort (h : Distinct info) (s : SrServer γ) (port : ℕ) :
    (info.foldl (addPort vhost) s).nameOf vhost port =
      ((portNumbered info port).map SwPort.name).or (s.nameOf vhost port) := by
  rw [portNumbered, ← foldl_update SwPort.port SwPort.name h.2]
  refine congrFun ?_ port
  induction info generalizing s with
  | nil => rfl
  | cons p info ih =>
    rw [List.foldl_cons, List.foldl_cons, ← nameOf_addPort]
    exact ih ⟨(List.nodup_cons.mp h.1).2, (List.nodup_cons.mp h.2).2⟩ _

/-- What the ports of another switch leave. -/
theorem foldl_addPort_of_ne (h : vhost' ≠ vhost) (info : List SwPort) (s : SrServer γ) :
    (info.foldl (addPort vhost) s).portOf vhost' = s.portOf vhost' ∧
      (info.foldl (addPort vhost) s).nameOf vhost' = s.nameOf vhost' := by
  induction info generalizing s with
  | nil => exact ⟨rfl, rfl⟩
  | cons p info ih =>
    obtain ⟨hport, hname⟩ := ih (addPort vhost s p)
    rw [List.foldl_cons, hport, hname]
    constructor
    · funext intf
      simp only [SrServer.portOf, addPort, Function.update_of_ne h]
    · funext port
      simp only [SrServer.nameOf, addPort, Function.update_of_ne h]

/-- The ports are not about the connections, nor about the interfaces. -/
theorem foldl_addPort_eq (vhost : List UInt8) (info : List SwPort) (s : SrServer γ) :
    (info.foldl (addPort vhost) s).srclients = s.srclients ∧
      (info.foldl (addPort vhost) s).srclientsReverse = s.srclientsReverse ∧
        (info.foldl (addPort vhost) s).interfaces = s.interfaces := by
  induction info generalizing s with
  | nil => exact ⟨rfl, rfl, rfl⟩
  | cons p info ih => exact ih (addPort vhost s p)

@[simp] theorem srclients_handleRouterInfo (vhost : List UInt8) (info : List SwPort)
    (s : SrServer γ) : (handleRouterInfo vhost info s).srclients = s.srclients :=
  (foldl_addPort_eq vhost info s).1

@[simp] theorem srclientsReverse_handleRouterInfo (vhost : List UInt8) (info : List SwPort)
    (s : SrServer γ) : (handleRouterInfo vhost info s).srclientsReverse = s.srclientsReverse :=
  (foldl_addPort_eq vhost info s).2.1

/-- **The server is told of the ports of a switch**, for the first time or once more. -/
theorem knowsPorts_handleRouterInfo (hdistinct : Distinct info)
    (h : Untold s vhost ∨ KnowsPorts s vhost info) :
    KnowsPorts (handleRouterInfo vhost info s) vhost info where
  portOf intf := by
    show (info.foldl (addPort vhost) s).portOf vhost intf = _
    rw [portOf_foldl_addPort hdistinct]
    rcases h with huntold | hknows
    · rw [huntold.portOf, Option.or_none]
    · rw [hknows.portOf, Option.or_self]
  nameOf port := by
    show (info.foldl (addPort vhost) s).nameOf vhost port = _
    rw [nameOf_foldl_addPort hdistinct]
    rcases h with huntold | hknows
    · rw [huntold.nameOf, Option.or_none]
    · rw [hknows.nameOf, Option.or_self]
  interfaces := Function.update_self _ _ _

/-- What another switch tells leaves what the server knows of a switch. -/
theorem handleRouterInfo_of_ne (hne : vhost' ≠ vhost) (told : List SwPort) (s : SrServer γ) :
    (handleRouterInfo vhost told s).portOf vhost' = s.portOf vhost' ∧
      (handleRouterInfo vhost told s).nameOf vhost' = s.nameOf vhost' ∧
        (handleRouterInfo vhost told s).interfaces vhost' = s.interfaces vhost' :=
  ⟨(foldl_addPort_of_ne hne told s).1, (foldl_addPort_of_ne hne told s).2,
    (Function.update_of_ne hne _ _).trans (congrFun (foldl_addPort_eq vhost told s).2.2 vhost')⟩

/-- What the server knows of a switch goes by the entries under its name. -/
theorem KnowsPorts.congr {s' : SrServer γ} (h : KnowsPorts s vhost info)
    (hport : s'.portOf vhost = s.portOf vhost) (hname : s'.nameOf vhost = s.nameOf vhost)
    (hinterfaces : s'.interfaces vhost = s.interfaces vhost) : KnowsPorts s' vhost info :=
  ⟨fun intf => (congrFun hport intf).trans (h.portOf intf),
    fun port => (congrFun hname port).trans (h.nameOf port), hinterfaces.trans h.interfaces⟩

theorem Untold.congr {s' : SrServer γ} (h : Untold s vhost)
    (hport : s'.portOf vhost = s.portOf vhost) (hname : s'.nameOf vhost = s.nameOf vhost)
    (hinterfaces : s'.interfaces vhost = s.interfaces vhost) : Untold s' vhost :=
  ⟨fun intf => (congrFun hport intf).trans (h.portOf intf),
    fun port => (congrFun hname port).trans (h.nameOf port), hinterfaces.trans h.interfaces⟩

end Told

end Redes
