import Redes.Vns.Bridge

/-!
# The phases of a router behind a server

A router goes through phases: it is asked who it is, it replies, it is accepted, it asks for its
interfaces, and it gets them.  Until then it has no interfaces and does nothing that shows.  In
each phase it is known which messages are on their way to the router and from it, what the
router does with the next one, and what the server reads.

A router that asks for its interfaces before its switch has told the server of them leaves the
phases: the server raises an exception, and no answer ever comes.

## Main definitions

* `Fabric.Coming`, `Fabric.Going` — messages with frames.
* `Fabric.Stranger`, `Fabric.Client` — what the server knows of a router.
* `Fabric.Shows` — what a router shows of its state.
* `Fabric.Phase` — the phases.
* `Fabric.Unanswered` — a router that waits for its interfaces in vain.
* `Fabric.Placed` — a router that waits in vain, or one in one of its phases.
* `Fabric.Idle` — what a router does that waits in vain.

## Main results

* `messageStep_authRequest`, `messageStep_authStatus`, `messageStep_hardwareInfo`,
  `messageStep_packet` — what a router does with a message.
* `routerStep_idle` — what its threads do before it has interfaces.
* `idle_packet`, `idle_thread` — what a router does that waits in vain.
* `clientMessage_reply`, `clientMessage_openMessage`, `clientMessage_of_going` — what the server
  reads.
-/

namespace Redes

open Bytes Logged

namespace Fabric

variable {ν κ : Type*}

/-! ### Phases -/

/-- A message of the server with a frame that may arrive at its port. -/
def Coming (F : Fabric ν κ) (sent : Set (ν × Outgoing)) (n : ν) (m : ServerMessage) : Prop :=
  ∃ p ∈ F.info n, ∃ frame : Frame, m = .packet p.name frame ∧ frame.length ≤ F.maxFrame ∧
    (F.hosts (F.link n p.port) frame ∨ ∃ out ∈ sent,
      F.cabling.Arrives out.1 out.2 n (.receive frame (nameOfBytes p.name)))

/-- A message of a router with a frame that it has sent. -/
def Going (F : Fabric ν κ) (lt : LtProtocol) (sent : Set (ν × Outgoing)) (n : ν)
    (bytes : List UInt8) : Prop :=
  ∃ p ∈ F.info n, ∃ frame : Frame, (n, ⟨frame, nameOfBytes p.name⟩) ∈ sent ∧
    24 + frame.length < 2 ^ 32 ∧ bytes = lt.pack vnsPacket (packString 16 p.name ++ frame)

/-- The server does not know the router. -/
def Stranger (F : Fabric ν κ) (server : SrServer ν) (n : ν) : Prop :=
  server.srclients (F.vhost n) = none ∧ server.srclientsReverse n = none

/-- The server knows the router. -/
def Client (F : Fabric ν κ) (server : SrServer ν) (n : ν) : Prop :=
  server.srclients (F.vhost n) = some n ∧ server.srclientsReverse n = some (F.vhost n)

/-- The reply of a router to its salt. -/
def reply (F : Fabric ν κ) (lt : LtProtocol) (n : ν) (key : List UInt8) : List UInt8 :=
  lt.pack vnsAuthReply (packVnsAuthReply (F.config n).user
    (digestOctets (SecureHash.sha1 (F.salt n ++ key))))

/-- The request of a router for its interfaces. -/
def request (F : Fabric ν κ) (n : ν) : ClientMessage :=
  .openTopology (F.config n).topoId.toNat (F.vhost n) (F.config n).user []

/-- The interfaces that a router is told. -/
def interfaces (F : Fabric ν κ) (n : ν) : List VnsInterface := (F.info n).map SwPort.interface

/-- What a router shows of its state, compared with a router on its links: before it has its
interfaces, it has done nothing but load routes. -/
def Shows (F : Fabric ν κ) (n : ν) (s r : RouterState) : Prop :=
  s = r ∨ ∃ routes, s = routerInit [] routes ∧ r = routerInit (F.cabling.ifList n) routes

/-- The phases of a router: its session, the messages on their way to it and from it, and its
state if it were on its links with nothing in between. -/
inductive Phase (F : Fabric ν κ) (lt : LtProtocol) (server : SrServer ν) (down : Set ν)
    (sent : Set (ν × Outgoing)) (n : ν) :
    VnsState → List ServerMessage → List (List UInt8) → RouterState → Prop
  /-- It is asked who it is. -/
  | asked (routes : List SrRt) : Stranger F server n →
      Phase F lt server down sent n ⟨routerInit [] routes, [vnsAuthRequest, vnsAuthStatus]⟩
        [.authRequest (F.salt n)] [] (routerInit (F.cabling.ifList n) routes)
  /-- It has replied, with its key. -/
  | replied (routes : List SrRt) {e : VnsEnv} {text : List UInt8} : e.authKey = some text →
      Stranger F server n →
      Phase F lt server down sent n ⟨routerInit [] routes, [vnsAuthStatus]⟩ []
        [F.reply lt n (authKeyBytes e.stack text)] (routerInit (F.cabling.ifList n) routes)
  /-- It is accepted. -/
  | accepted (routes : List SrRt) : Stranger F server n →
      Phase F lt server down sent n ⟨routerInit [] routes, [vnsAuthStatus]⟩
        [.authStatus true (authenticated (F.connText n))] []
        (routerInit (F.cabling.ifList n) routes)
  /-- It has asked for its interfaces. -/
  | opening (routes : List SrRt) : Stranger F server n →
      Phase F lt server down sent n ⟨routerInit [] routes, []⟩ [] [openMessage (F.config n)]
        (routerInit (F.cabling.ifList n) routes)
  /-- It is told its interfaces. -/
  | opened (routes : List SrRt) {ms : List ServerMessage} : Client F server n →
      (∀ m ∈ ms, F.Coming sent n m) →
      Phase F lt server down sent n ⟨routerInit [] routes, []⟩
        (.hardwareInfo (F.interfaces n) :: ms) [] (routerInit (F.cabling.ifList n) routes)
  /-- It has its interfaces. -/
  | connected (r : RouterState) {ms : List ServerMessage} {out : List (List UInt8)} :
      Client F server n → (∀ m ∈ ms, F.Coming sent n m) → (∀ b ∈ out, F.Going lt sent n b) →
      Phase F lt server down sent n ⟨r, []⟩ ms out r
  /-- It has ended. -/
  | ended {s : VnsState} {ms : List ServerMessage} {out : List (List UInt8)} {r : RouterState} :
      n ∈ down → F.Shows n s.router r → Stranger F server n ∧ out = [] ∨ Client F server n →
      (∀ m ∈ ms, F.Coming sent n m) → (∀ b ∈ out, F.Going lt sent n b) →
      Phase F lt server down sent n s ms out r

/-- A router that has asked for its interfaces before its switch had told of them: it has none, it
sends nothing, and if it were on its links, it would not have done anything but load routes. -/
structure Unanswered (F : Fabric ν κ) (server : SrServer ν) (sent : Set (ν × Outgoing)) (n : ν)
    (s : VnsState) (ms : List ServerMessage) (out : List (List UInt8)) (r : RouterState) :
    Prop where
  /-- The server knows the router. -/
  client : Client F server n
  /-- Its threads run. -/
  connected : s.expected = []
  /-- It has no interfaces. -/
  ifList : s.router.ifList = []
  /-- Frames still come. -/
  coming : ∀ m ∈ ms, F.Coming sent n m
  /-- It sends nothing. -/
  silent : out = []
  /-- Its state on its links. -/
  idle : ∃ routes, r = routerInit (F.cabling.ifList n) routes

/-- A router that waits for its interfaces in vain, or one in one of its phases. -/
def Placed (F : Fabric ν κ) (lt : LtProtocol) (server : SrServer ν) (down refused : Set ν)
    (sent : Set (ν × Outgoing)) (n : ν) (s : VnsState) (ms : List ServerMessage)
    (out : List (List UInt8)) (r : RouterState) : Prop :=
  n ∈ refused ∧ F.Unanswered server sent n s ms out r ∨
    n ∉ refused ∧ F.Phase lt server down sent n s ms out r

variable {F : Fabric ν κ} {lt : LtProtocol} {server : SrServer ν} {down down' refused : Set ν}
  {sent sent' : Set (ν × Outgoing)} {n : ν} {s : VnsState} {ms : List ServerMessage}
  {out : List (List UInt8)} {r : RouterState}

theorem Coming.mono {m : ServerMessage} (h : F.Coming sent n m) (hsent : sent ⊆ sent') :
    F.Coming sent' n m := by
  obtain ⟨p, hp, frame, rfl, hlen, hfrom⟩ := h
  exact ⟨p, hp, frame, rfl, hlen, hfrom.imp_right fun ⟨out, hout, harr⟩ => ⟨out, hsent hout, harr⟩⟩

theorem Going.mono {bytes : List UInt8} (h : F.Going lt sent n bytes) (hsent : sent ⊆ sent') :
    F.Going lt sent' n bytes := by
  obtain ⟨p, hp, frame, hmem, hlen, rfl⟩ := h
  exact ⟨p, hp, frame, hsent hmem, hlen, rfl⟩

/-- A phase is one also when other routers have ended or sent more. -/
theorem Phase.mono (h : F.Phase lt server down sent n s ms out r) (hdown : down ⊆ down')
    (hsent : sent ⊆ sent') : F.Phase lt server down' sent' n s ms out r := by
  cases h with
  | asked routes hs => exact .asked routes hs
  | replied routes htext hs => exact .replied routes htext hs
  | accepted routes hs => exact .accepted routes hs
  | opening routes hs => exact .opening routes hs
  | opened routes hc hms => exact .opened routes hc fun m hm => (hms m hm).mono hsent
  | connected r hc hms hout =>
    exact .connected r hc (fun m hm => (hms m hm).mono hsent) fun b hb => (hout b hb).mono hsent
  | ended hd hshows hc hms hout =>
    exact .ended (hdown hd) hshows hc (fun m hm => (hms m hm).mono hsent)
      fun b hb => (hout b hb).mono hsent

/-- A phase goes by what the server knows of the router. -/
theorem Phase.congr_server {server' : SrServer ν} (h : F.Phase lt server down sent n s ms out r)
    (hclients : server'.srclients (F.vhost n) = server.srclients (F.vhost n))
    (hreverse : server'.srclientsReverse n = server.srclientsReverse n) :
    F.Phase lt server' down sent n s ms out r := by
  have hstranger : Stranger F server n → Stranger F server' n :=
    fun ⟨h₁, h₂⟩ => ⟨hclients.trans h₁, hreverse.trans h₂⟩
  have hclient : Client F server n → Client F server' n :=
    fun ⟨h₁, h₂⟩ => ⟨hclients.trans h₁, hreverse.trans h₂⟩
  cases h with
  | asked routes hs => exact .asked routes (hstranger hs)
  | replied routes htext hs => exact .replied routes htext (hstranger hs)
  | accepted routes hs => exact .accepted routes (hstranger hs)
  | opening routes hs => exact .opening routes (hstranger hs)
  | opened routes hc hms => exact .opened routes (hclient hc) hms
  | connected r hc hms hout => exact .connected r (hclient hc) hms hout
  | ended hd hshows hc hms hout =>
    exact .ended hd hshows (hc.imp (fun h => ⟨hstranger h.1, h.2⟩) hclient) hms hout

/-- A router stays where it is also when other routers have ended or sent more. -/
theorem Placed.mono (h : F.Placed lt server down refused sent n s ms out r) (hdown : down ⊆ down')
    (hsent : sent ⊆ sent') : F.Placed lt server down' refused sent' n s ms out r :=
  h.imp (fun h => ⟨h.1, { h.2 with coming := fun m hm => (h.2.coming m hm).mono hsent }⟩)
    fun h => ⟨h.1, h.2.mono hdown hsent⟩

theorem Placed.congr_server {server' : SrServer ν} {refused' : Set ν}
    (h : F.Placed lt server down refused sent n s ms out r)
    (hclients : server'.srclients (F.vhost n) = server.srclients (F.vhost n))
    (hreverse : server'.srclientsReverse n = server.srclientsReverse n)
    (hrefused : n ∈ refused' ↔ n ∈ refused) :
    F.Placed lt server' down refused' sent n s ms out r :=
  h.imp (fun h => ⟨hrefused.mpr h.1, { h.2 with
      client := ⟨hclients.trans h.2.client.1, hreverse.trans h.2.client.2⟩ }⟩)
    fun h => ⟨mt hrefused.mp h.1, h.2.congr_server hclients hreverse⟩

/-- A router shows its state in every phase. -/
theorem Phase.shows (h : F.Phase lt server down sent n s ms out r) : F.Shows n s.router r := by
  cases h with
  | asked routes _ => exact .inr ⟨routes, rfl, rfl⟩
  | replied routes _ _ => exact .inr ⟨routes, rfl, rfl⟩
  | accepted routes _ => exact .inr ⟨routes, rfl, rfl⟩
  | opening routes _ => exact .inr ⟨routes, rfl, rfl⟩
  | opened routes _ _ => exact .inr ⟨routes, rfl, rfl⟩
  | connected r _ _ _ => exact .inl rfl
  | ended _ hshows _ _ _ => exact hshows

/-- A router is in the same state as on its links, or it has no interfaces, and has not done
anything there but load routes. -/
theorem Placed.shows (h : F.Placed lt server down refused sent n s ms out r) :
    s.router = r ∨ s.router.ifList = [] ∧ ∃ routes, r = routerInit (F.cabling.ifList n) routes := by
  rcases h with ⟨-, hun⟩ | ⟨-, hphase⟩
  · exact .inr ⟨hun.ifList, hun.idle⟩
  · rcases hphase.shows with heq | ⟨routes, heq, hr⟩
    · exact .inl heq
    · exact .inr ⟨by rw [heq]; rfl, routes, hr⟩

/-! ### Frames that arrive -/

/-- A router that reads a frame may be given it on its links. -/
theorem given_of_coming {c : Network.Config ν RouterState Outgoing} {p : SwPort} {frame : Frame}
    (hp : p ∈ F.info n)
    (h : F.hosts (F.link n p.port) frame ∨ ∃ out ∈ c.sent,
      F.cabling.Arrives out.1 out.2 n (.receive frame (nameOfBytes p.name))) (env : Env) :
    F.cabling.routers.Given c n (env, .receive frame (nameOfBytes p.name)) := by
  rcases h with hhost | ⟨out, hout, harr⟩
  · obtain ⟨q, hq, hname⟩ := exists_port_of_mem_info hp
    refine .inl ⟨q, hq, hname, ?_⟩
    rw [cabling_link hp]
    exact hhost
  · exact .inr ⟨out.1, out.2, hout, harr⟩

/-! ### Messages that get through -/

theorem fits_authRequest (F : Fabric ν κ) (n : ν) : Fits (.authRequest (F.salt n)) := by
  have hlen := F.length_salt n
  refine ⟨?_, trivial⟩
  rw [ServerMessage.pack]
  omega

theorem fits_authStatus (F : Fabric ν κ) (n : ν) :
    Fits (.authStatus true (authenticated (F.connText n))) := by
  have hlen := F.connText_fits n
  refine ⟨?_, Or.inl rfl⟩
  rw [ServerMessage.pack, List.length_cons]
  omega

theorem fits_hardwareInfo (F : Fabric ν κ) (n : ν) : Fits (.hardwareInfo (F.interfaces n)) := by
  refine ⟨?_, trivial⟩
  rw [length_packHardwareInfo, interfaces, List.length_map]
  exact F.info_fits n

theorem fits_packet {p : SwPort} (hp : p ∈ F.info n) {frame : Frame}
    (hlen : frame.length ≤ F.maxFrame) : Fits (.packet p.name frame) := by
  obtain ⟨hz, hname⟩ := F.names_fit n p hp
  have hmax := F.maxFrame_fits
  refine ⟨?_, hz, hname⟩
  rw [ServerMessage.pack, List.length_append, length_packString]
  omega

/-- The names of the interfaces of a router that has them. -/
theorem srGetInterface_ne_none {ifList : List SrIf}
    (hports : ports ifList = ports (F.cabling.ifList n)) {p : SwPort} (hp : p ∈ F.info n) :
    srGetInterface ifList (nameOfBytes p.name) ≠ none := by
  obtain ⟨q, hq, hname⟩ := exists_port_of_mem_info hp
  rw [← hports] at hq
  obtain ⟨i, hi, rfl⟩ := List.mem_map.mp hq
  intro hnone
  have hne : ¬ i.name = nameOfBytes p.name := by simpa using List.find?_eq_none.mp hnone i hi
  exact hne hname

/-! ### What the server reads in a phase -/

theorem length_digestOctets (w : Sha1Words) : (digestOctets w).length = 20 := by
  simp only [digestOctets, List.length_append, length_octets]

theorem clientMessage_pack {type : ℕ} {body : List UInt8} (hbody : 8 + body.length < 2 ^ 32)
    (htype : type < 2 ^ 32) : clientMessage lt (lt.pack type body) = unpackClient type body := by
  rw [clientMessage, lt.unpack_pack type body hbody htype, Option.bind_some]

/-- It reads the hash value of the salt and the key. -/
theorem clientMessage_reply (F : Fabric ν κ) (lt : LtProtocol) (n : ν) (key : List UInt8) :
    clientMessage lt (F.reply lt n key) = some (.authReply (F.config n).user
      (digestOctets (SecureHash.sha1 (F.salt n ++ key)))) := by
  have huser := (F.config n).length_user
  rw [reply, clientMessage_pack ?_ (by decide), unpackClient_authReply (by omega)]
  simp only [packVnsAuthReply, List.length_append, length_octets, length_digestOctets]
  omega

/-- It reads the name of the switch. -/
theorem clientMessage_openMessage (F : Fabric ν κ) (lt : LtProtocol) (n : ν) :
    clientMessage lt (openMessage (F.config n)) = some (F.request n) := by
  have huser := (F.config n).length_user
  have htemplate : ¬ (F.config n).template.length > 0 := by
    rw [F.config_template]
    simp
  have hpack : openMessage (F.config n) = lt.pack vnsOpen
      (bytes16 (htons (F.config n).topoId) ++ ([0, 0] ++ (packString 32 (F.vhost n) ++
        (packString 32 (F.config n).user ++ packString 32 [])))) := by
    have hlen : (bytes16 (htons (F.config n).topoId) ++ ([0, 0] ++ (packString 32 (F.vhost n) ++
        (packString 32 (F.config n).user ++ packString 32 [])))).length = 100 := by
      simp [bytes16]
    rw [lt.pack_eq _ _ (by rw [hlen]; decide) (by decide), hlen, openMessage, if_neg htemplate,
      strncpy_eq_packString, strncpy_eq_packString, F.config_host,
      cBytes_of_notMem (F.vhost_fits n).1, cBytes_of_notMem (F.config n).user_nonzero]
    simp only [List.append_assoc]
    rfl
  rw [hpack, clientMessage_pack (by simp [bytes16]) (by decide), unpackClient_open rfl rfl
    (F.vhost_fits n) ⟨(F.config n).user_nonzero, huser.le⟩ ⟨by simp, by simp⟩,
    number_bytes16_htons, request]

/-- It reads the port, and the frame. -/
theorem clientMessage_of_going {bytes : List UInt8} (h : F.Going lt sent n bytes) :
    ∃ p ∈ F.info n, ∃ frame : Frame, (n, ⟨frame, nameOfBytes p.name⟩) ∈ sent ∧
      clientMessage lt bytes = some (.packet p.name frame) := by
  obtain ⟨p, hp, frame, hsent, hlen, rfl⟩ := h
  obtain ⟨hz, hname⟩ := F.names_fit n p hp
  refine ⟨p, hp, frame, hsent, ?_⟩
  rw [clientMessage_pack ?_ (by decide), unpackClient_packet hz hname.le]
  rw [List.length_append, length_packString]
  omega

/-! ### What a router does in a phase -/

section Messages

variable {cfg : VnsConfig} {e : VnsEnv} {router : RouterState}

/-- It replies to its salt. -/
theorem messageStep_authRequest_of (lt : LtProtocol) (cfg : VnsConfig) (router : RouterState)
    {text : List UInt8} (htext : e.authKey = some text) (hne : text ≠ [])
    (hsends : e.sends = true) (salt : List UInt8) :
    messageStep lt cfg e ⟨router, [vnsAuthRequest, vnsAuthStatus]⟩ (.authRequest salt) =
      emit [.message (lt.pack vnsAuthReply (packVnsAuthReply cfg.user
        (digestOctets (SecureHash.sha1 (salt ++ authKeyBytes e.stack text)))))]
        ⟨router, [vnsAuthStatus]⟩ := by
  have hexpected : ¬ Unexpected ⟨router, [vnsAuthRequest, vnsAuthStatus]⟩ vnsAuthRequest := by
    simp [Unexpected]
  rw [messageStep, ServerMessage.getType, if_neg hexpected, messageMeans, htext]
  dsimp only
  rw [if_pos ⟨hne, hsends⟩]
  rfl

/-- It replies to its salt, or it fails. -/
theorem messageStep_authRequest (lt : LtProtocol) (cfg : VnsConfig) (e : VnsEnv)
    (router : RouterState) (salt : List UInt8) :
    messageStep lt cfg e ⟨router, [vnsAuthRequest, vnsAuthStatus]⟩ (.authRequest salt) =
        halt .failed ∨
      ∃ text, e.authKey = some text ∧
        messageStep lt cfg e ⟨router, [vnsAuthRequest, vnsAuthStatus]⟩ (.authRequest salt) =
          emit [.message (lt.pack vnsAuthReply (packVnsAuthReply cfg.user
            (digestOctets (SecureHash.sha1 (salt ++ authKeyBytes e.stack text)))))]
            ⟨router, [vnsAuthStatus]⟩ := by
  have hexpected : ¬ Unexpected ⟨router, [vnsAuthRequest, vnsAuthStatus]⟩ vnsAuthRequest := by
    simp [Unexpected]
  cases htext : e.authKey with
  | none =>
    left
    rw [messageStep, ServerMessage.getType, if_neg hexpected, messageMeans, htext]
    rfl
  | some text =>
    by_cases hok : text ≠ [] ∧ e.sends
    · exact .inr ⟨text, rfl, messageStep_authRequest_of lt cfg router htext hok.1 hok.2 salt⟩
    · left
      rw [messageStep, ServerMessage.getType, if_neg hexpected, messageMeans, htext]
      dsimp only
      rw [if_neg hok]
      rfl

/-- It asks for its interfaces, or it fails. -/
theorem messageStep_authStatus (lt : LtProtocol) (cfg : VnsConfig) (e : VnsEnv)
    (router : RouterState) (msg : List UInt8) :
    messageStep lt cfg e ⟨router, [vnsAuthStatus]⟩ (.authStatus true msg) =
      if e.sends then emit [.message (openMessage cfg)] ⟨router, []⟩ else halt .failed := by
  have hexpected : ¬ Unexpected ⟨router, [vnsAuthStatus]⟩ vnsAuthStatus := by
    simp [Unexpected]
  have hmeans : messageStep lt cfg e ⟨router, [vnsAuthStatus]⟩ (.authStatus true msg) =
      srConnected cfg e ⟨router, [vnsAuthStatus]⟩ := by
    rw [messageStep, ServerMessage.getType, if_neg hexpected]
    rfl
  rw [hmeans]
  simp only [srConnected, ↓reduceIte]

theorem not_unexpected (command : ℕ) : ¬ Unexpected ⟨router, []⟩ command := by
  rintro ⟨c, hc, -⟩
  cases hc

/-- It gets its interfaces. -/
theorem messageStep_hardwareInfo (lt : LtProtocol) (cfg : VnsConfig) (e : VnsEnv)
    (router : RouterState) (interfaces : List VnsInterface) :
    messageStep lt cfg e ⟨router, []⟩ (.hardwareInfo interfaces) =
      emit [] ⟨{ router with
        ifList := router.ifList ++ interfaces.map VnsInterface.srIf }, []⟩ := by
  rw [messageStep, if_neg (not_unexpected _)]
  rfl

/-- They are those of a router on its links. -/
theorem routerInit_interfaces (F : Fabric ν κ) (n : ν) (routes : List SrRt) :
    { routerInit [] routes with ifList :=
      (routerInit [] routes).ifList ++ (F.interfaces n).map VnsInterface.srIf } =
      routerInit (F.cabling.ifList n) routes := by
  show routerInit ([] ++ ((F.info n).map SwPort.interface).map VnsInterface.srIf) routes = _
  rw [List.nil_append, List.map_map]
  rfl

/-- It handles a frame that is let through. -/
theorem messageStep_packet_of {name frame : List UInt8}
    (h : srArpReqNotForUs router.ifList frame (nameOfBytes name) = .ok false) :
    messageStep lt cfg e ⟨router, []⟩ (.packet name frame) =
      liftRouter ⟨router, []⟩
        (routerStep e.env router (.receive frame (nameOfBytes name))) := by
  rw [messageStep, if_neg (not_unexpected _), messageMeans, h]
  generalize routerStep e.env router (.receive frame (nameOfBytes name)) = y
  obtain ⟨log, ending⟩ := y
  cases ending with
  | error h => rfl
  | ok r' => exact congrArg (Logged.mk · _) (List.append_nil _)

/-- It handles a frame, or drops it, or it has no interface for it and fails. -/
theorem messageStep_packet_cases (lt : LtProtocol) (cfg : VnsConfig) (e : VnsEnv)
    (router : RouterState) (name frame : List UInt8) :
    (srGetInterface router.ifList (nameOfBytes name) = none ∧
        ∃ h, messageStep lt cfg e ⟨router, []⟩ (.packet name frame) = halt (.halt h)) ∨
      messageStep lt cfg e ⟨router, []⟩ (.packet name frame) = emit [] ⟨router, []⟩ ∨
        messageStep lt cfg e ⟨router, []⟩ (.packet name frame) =
          liftRouter ⟨router, []⟩
            (routerStep e.env router (.receive frame (nameOfBytes name))) := by
  -- the filter fails only where there is no interface of this name
  have hnone : ∀ h, srArpReqNotForUs router.ifList frame (nameOfBytes name) = .error h →
      srGetInterface router.ifList (nameOfBytes name) = none := by
    intro h hfails
    unfold srArpReqNotForUs at hfails
    split_ifs at hfails
    split at hfails
    · assumption
    · cases hfails
  cases hfilter : srArpReqNotForUs router.ifList frame (nameOfBytes name) with
  | error h =>
    refine .inl ⟨hnone h hfilter, h, ?_⟩
    rw [messageStep, if_neg (not_unexpected _), messageMeans, hfilter]
    rfl
  | ok dropped =>
    cases dropped with
    | true =>
      refine .inr (.inl ?_)
      rw [messageStep, if_neg (not_unexpected _), messageMeans, hfilter]
      rfl
    | false => exact .inr (.inr (messageStep_packet_of hfilter))

/-- It handles a frame, or drops it. -/
theorem messageStep_packet {name frame : List UInt8}
    (hif : srGetInterface router.ifList (nameOfBytes name) ≠ none) :
    messageStep lt cfg e ⟨router, []⟩ (.packet name frame) = emit [] ⟨router, []⟩ ∨
      messageStep lt cfg e ⟨router, []⟩ (.packet name frame) =
        liftRouter ⟨router, []⟩
          (routerStep e.env router (.receive frame (nameOfBytes name))) :=
  (messageStep_packet_cases lt cfg e router name frame).resolve_left fun h => hif h.1

/-- Without interfaces, a thread only puts routes in place. -/
theorem routerStep_idle (env : Env) (routes : List SrRt) {event : RouterEvent}
    (h : ∀ packet interface, event ≠ .receive packet interface) :
    (∃ routes', event = .routes routes' ∧
      routerStep env (routerInit [] routes) event = emit [] (routerInit [] routes')) ∨
      routerStep env (routerInit [] routes) event = emit [] (routerInit [] routes) := by
  cases event with
  | receive packet interface => exact absurd rfl (h packet interface)
  | rxLsu k => exact .inr rfl
  | arpTimeout =>
    -- there is nothing in the cache that could expire, and no request
    have hentries : expireEntries env.now srArpcacheInit.entries = srArpcacheInit.entries := by
      rw [srArpcacheInit, expireEntries, List.map_replicate, if_neg (by simp)]
    right
    show ((srArpcacheTimeoutOut _ env.now env.fuel srArpcacheInit).map _) = _
    rw [srArpcacheTimeoutOut, hentries]
    cases env.fuel <;> rfl
  | run => exact .inr rfl
  | hellos => exact .inr rfl
  | allLsu => exact .inr rfl
  | neighborsLife => exact .inr rfl
  | topologyAge => exact .inr rfl
  | routes routes' => exact .inl ⟨routes', rfl, rfl⟩

/-! ### What a router does that waits in vain -/

/-- What is done by a router without interfaces that does not get any: it sends nothing. -/
def Idle (x : VnsAction VnsState) : Prop :=
  (writeOut [] x.log).log = [] ∧ ∀ s, x.ending = .ok s → s.expected = [] ∧ s.router.ifList = []

/-- Without interfaces, no frame gets past the check of `sr_send_packet`. -/
theorem log_writeOut_nil (log : List Outgoing) : (writeOut [] (log.map .frame)).log = [] := by
  have hsend : ∀ out : Outgoing, (srSendPacket [] out.frame out.iface).log = [] := by
    intro out
    have hmatch : ¬ srEtherAddrsMatchInterface [] out.frame out.iface = true := by
      simp [srEtherAddrsMatchInterface, srGetInterface]
    unfold srSendPacket
    rw [if_neg hmatch]
    split_ifs <;> rfl
  have hsafe : Safe (fun _ => False) (fun _ => True) (writeOut [] (log.map .frame)) := by
    refine Safe.foldlM (fun _ a ha _ => ?_) trivial
    obtain ⟨out, -, rfl⟩ := List.mem_map.mp ha
    refine ⟨fun bytes hb => ?_, fun _ _ => trivial⟩
    change bytes ∈ (srSendPacket [] out.frame out.iface).log at hb
    rw [hsend out] at hb
    exact List.not_mem_nil hb
  exact List.eq_nil_iff_forall_not_mem.mpr hsafe.1

theorem idle_halt (stop : VnsStop) : Idle (halt stop) := ⟨rfl, fun _ h => by cases h⟩

theorem idle_emit (h : router.ifList = []) : Idle (emit [] ⟨router, []⟩) := by
  refine ⟨rfl, fun s hs => ?_⟩
  obtain rfl := Except.ok.inj hs
  exact ⟨rfl, h⟩

theorem idle_liftRouter (h : router.ifList = []) (env : Env) (event : RouterEvent) :
    Idle (liftRouter ⟨router, []⟩ (routerStep env router event)) := by
  refine ⟨log_writeOut_nil _, fun s hs => ?_⟩
  cases hend : (routerStep env router event).ending with
  | error e =>
    rw [liftRouter, hend] at hs
    cases hs
  | ok r' =>
    -- no event changes the ports
    have hports := (stepped_routerStep hend).ports_eq
    rw [h] at hports
    rw [liftRouter, hend] at hs
    obtain rfl := Except.ok.inj hs
    exact ⟨rfl, List.map_eq_nil_iff.mp hports⟩

/-- It reads a frame. -/
theorem idle_packet (lt : LtProtocol) (cfg : VnsConfig) (e : VnsEnv) (h : router.ifList = [])
    (name frame : List UInt8) :
    Idle (messageStep lt cfg e ⟨router, []⟩ (.packet name frame)) := by
  rcases messageStep_packet_cases lt cfg e router name frame with ⟨-, stop, heq⟩ | heq | heq
  · exact heq ▸ idle_halt _
  · exact heq ▸ idle_emit h
  · exact heq ▸ idle_liftRouter h _ _

/-- A thread takes a turn. -/
theorem idle_thread (h : router.ifList = []) (t : ThreadTurn) :
    Idle (vnsThreadStep ⟨router, []⟩ t) := by
  rw [vnsThreadStep, if_pos rfl]
  exact idle_liftRouter h _ _

end Messages

end Fabric

end Redes
