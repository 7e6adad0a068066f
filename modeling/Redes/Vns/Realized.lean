import Redes.Vns.Transparent

/-!
# What happens on links happens behind the server

Whatever routers do on their links, they can do behind the server, if their frames are such that
`sr_send_packet` writes them and `sr_arp_req_not_for_us` lets them through.  So the server takes
nothing away either.

## Main definitions

* `Fabric.Accepted`, `Fabric.Passes` — frames that get through.
* `Fabric.Through` — a frame that has been sent through a port.
* `Fabric.Ready` — routers that wait behind the server for what comes next.

## Main results

* `serveAll` — the server sends all that a router has written.
* `exists_ready` — a turn of a router on its links, behind the server.
* `realized` — a run of the routers on their links, behind the server.
* `neighbors_connected` — neighbours behind the server.
-/

namespace Redes

open Bytes Logged

/-- The check of `sr_send_packet` is about the ports. -/
theorem srEtherAddrsMatchInterface_congr {ifList ifList' : List SrIf}
    (h : ports ifList = ports ifList') (buf : Frame) (name : IfName) :
    srEtherAddrsMatchInterface ifList buf name = srEtherAddrsMatchInterface ifList' buf name := by
  have hports : ∀ ifList : List SrIf, srEtherAddrsMatchInterface ifList buf name =
      match (ports ifList).find? fun p => p.name = name with
      | none => false
      | some p => etherShost buf = p.addr.bytes := by
    intro ifList
    rw [srEtherAddrsMatchInterface, srGetInterface, ports, List.find?_map]
    show _ = match (ifList.find? fun i => i.name = name).map SrIf.port with
      | none => false
      | some p => etherShost buf = p.addr.bytes
    cases ifList.find? fun i => i.name = name <;> rfl
  rw [hports, hports, h]

namespace Fabric

variable {ν κ : Type*} {F : Fabric ν κ} {lt : LtProtocol} {n : ν}

/-! ### Frames that get through -/

/-- A frame that `sr_send_packet` writes. -/
def Accepted (F : Fabric ν κ) (n : ν) (out : Outgoing) : Prop :=
  14 ≤ out.frame.length ∧ out.frame.length + 24 < 2 ^ 32 ∧
    srEtherAddrsMatchInterface (F.cabling.ifList n) out.frame out.iface = true

/-- A frame that a router handles when it arrives. -/
def Passes (F : Fabric ν κ) (s : RouterState) (packet : Frame) (interface : IfName) : Prop :=
  packet.length ≤ F.maxFrame ∧ srArpReqNotForUs s.ifList packet interface = .ok false

/-- A frame that has been sent through the port of its interface. -/
def Through (F : Fabric ν κ) (b : Bridge ν) (n : ν) (out : Outgoing) : Prop :=
  ∃ p ∈ F.info n, out.iface = nameOfBytes p.name ∧ ⟨n, p.port, out.frame⟩ ∈ b.wire

/-- The message for a frame. -/
def frameMessage (lt : LtProtocol) (out : Outgoing) : List UInt8 :=
  lt.pack vnsPacket (packString 16 (bytesOfName out.iface) ++ out.frame)

theorem Accepted.exists_port {out : Outgoing} (h : F.Accepted n out) :
    ∃ p ∈ F.info n, out.iface = nameOfBytes p.name := by
  obtain ⟨-, -, hmatch⟩ := h
  unfold srEtherAddrsMatchInterface srGetInterface at hmatch
  split at hmatch
  · cases hmatch
  · rename_i i hfind
    obtain ⟨p, hp, hname⟩ :=
      mem_ports_cabling (List.mem_map_of_mem (f := SrIf.port) (List.mem_of_find?_eq_some hfind))
    have hi : i.name = out.iface := by simpa using List.find?_some hfind
    exact ⟨p, hp, hi.symm.trans hname⟩

/-- **A router writes a message for each of its frames.** -/
theorem writeOut_accepted (lt : LtProtocol) {ifList : List SrIf}
    (hports : ports ifList = ports (F.cabling.ifList n)) {log : List Outgoing}
    (h : ∀ out ∈ log, F.Accepted n out) :
    writeOut ifList (log.map .frame) = emit (log.map (frameMessage lt)) () := by
  induction log with
  | nil => rfl
  | cons out log ih =>
    have hout := h out List.mem_cons_self
    obtain ⟨p, hp, hiface⟩ := hout.exists_port
    obtain ⟨hshort, hlong, hmatch⟩ := hout
    have hsend : srSendPacket ifList out.frame out.iface = emit [frameMessage lt out] () := by
      rw [srSendPacket, if_neg (by omega), if_neg (by omega),
        srEtherAddrsMatchInterface_congr hports, if_pos hmatch, frameMessage, hiface,
        packet_eq lt hp hlong, bytesOfName_nameOfBytes]
    have hrest := ih fun o ho => h o (List.mem_cons_of_mem out ho)
    rw [writeOut] at hrest
    rw [List.map_cons, writeOut, List.foldlM_cons]
    dsimp only
    rw [hsend, emit_bind, hrest]
    rfl

/-- The server reads the port and the frame. -/
theorem clientMessage_frameMessage {out : Outgoing} (h : F.Accepted n out) {p : SwPort}
    (hp : p ∈ F.info n) (hiface : out.iface = nameOfBytes p.name) :
    clientMessage lt (frameMessage lt out) = some (.packet p.name out.frame) := by
  obtain ⟨hz, hname⟩ := F.names_fit n p hp
  obtain ⟨-, hlong, -⟩ := h
  rw [frameMessage, hiface, bytesOfName_nameOfBytes, clientMessage_pack ?_ (by decide),
    unpackClient_packet hz hname.le]
  rw [List.length_append, length_packString]
  omega

variable [DecidableEq ν] {b : Bridge ν}

/-- What is left of the bridge when the server has sent all that a router has written. -/
structure SentAll (F : Fabric ν κ) (n : ν) (outs : List Outgoing) (b b' : Bridge ν) : Prop where
  /-- The sessions are as they were. -/
  sessions : b'.sessions = b.sessions
  /-- So are the routers that have ended. -/
  down : b'.down = b.down
  /-- So are those that wait in vain. -/
  refused : b'.refused = b.refused
  /-- So are the messages to the routers. -/
  toRouter : b'.toRouter = b.toRouter
  /-- And those of the other routers. -/
  toServer_of_ne : ∀ m ≠ n, b'.toServer m = b.toServer m
  /-- There are no more messages of the router. -/
  toServer : b'.toServer n = []
  /-- What was sent through ports was sent. -/
  wire : b.wire ⊆ b'.wire
  /-- So were the frames of the router. -/
  through : ∀ out ∈ outs, F.Through b' n out

/-- **The server sends all that a router has written.** -/
theorem serveAll {outs : List Outgoing} (hclient : F.Client b.server n)
    (hknows : KnowsPorts b.server (F.vhost n) (F.info n)) (h : ∀ out ∈ outs, F.Accepted n out)
    (hb : b.toServer n = outs.map (frameMessage lt)) :
    ∃ b', Relation.ReflTransGen (F.Step lt) b b' ∧ F.SentAll n outs b b' := by
  induction outs generalizing b with
  | nil => exact ⟨b, .refl, rfl, rfl, rfl, rfl, fun _ _ => rfl, hb, subset_rfl, by simp⟩
  | cons out outs ih =>
    have hout := h out List.mem_cons_self
    obtain ⟨p, hp, hiface⟩ := hout.exists_port
    have hmsg : clientMessage lt (frameMessage lt out) = some (.packet p.name out.frame) :=
      clientMessage_frameMessage hout hp hiface
    have hserve := serve_packet hclient hknows hp hmsg
    have hstep : F.Step lt b _ := .serve n hb
    rw [hserve] at hstep
    -- the server reads one message, and the others are those of the rest of the frames
    obtain ⟨b', hsteps, hall⟩ := ih (b := F.serveTurn b n (outs.map (frameMessage lt))
        ⟨b.server, [], [⟨out.frame, p.port, F.vhost n⟩], false⟩) hclient hknows
      (fun o ho => h o (List.mem_cons_of_mem out ho)) (Function.update_self _ _ _)
    have hnil : (F.serveTurn b n (outs.map (frameMessage lt))
        ⟨b.server, [], [⟨out.frame, p.port, F.vhost n⟩], false⟩).toRouter = b.toRouter := by
      funext m
      exact toRouter_serverTurn_nil rfl m
    refine ⟨b', .head hstep hsteps, hall.sessions, hall.down, hall.refused,
      hall.toRouter.trans hnil, fun m hm => (hall.toServer_of_ne m hm).trans
        (Function.update_of_ne hm _ _), hall.toServer, ?_, ?_⟩
    · exact fun w hw => hall.wire (.inl hw)
    · intro o ho
      rcases List.mem_cons.mp ho with rfl | ho
      · exact ⟨p, hp, hiface, hall.wire (.inr ⟨_, List.mem_singleton_self _, if_pos rfl⟩)⟩
      · exact hall.through o ho

/-! ### Turns -/

/-- Routers behind the server that wait for what comes next, as those on their links do. -/
structure Ready (F : Fabric ν κ) (lt : LtProtocol) (b : Bridge ν)
    (c : Network.Config ν RouterState Outgoing) : Prop where
  /-- There is a run. -/
  runs : F.Runs lt b
  /-- No message is on its way. -/
  waiting : ∀ n, n ∉ c.down → At b n ⟨c.states n, []⟩ [] []
  /-- All frames have been sent through ports. -/
  through : ∀ p ∈ c.sent, F.Through b p.1 p.2

variable {c : Network.Config ν RouterState Outgoing}

/-- The server knows the switches, and a router that has its interfaces. -/
theorem client_of_runs (h : F.Runs lt b) {r : RouterState} (hat : At b n ⟨r, []⟩ [] []) :
    F.Client b.server n ∧ KnowsPorts b.server (F.vhost n) (F.info n) := by
  obtain ⟨turns, c, -, hbehind⟩ := simulated_of_runs h
  have hphase := ((hbehind.placed n).resolve_left fun h => hat.answered h.1).2
  rw [hat.session, hat.toRouter, hat.toServer] at hphase
  generalize c.states n = r' at hphase
  cases hphase with
  | connected _ hclient _ _ => exact ⟨hclient, hbehind.knows n hat.answered hclient⟩
  | ended hdown _ _ _ _ => exact absurd hdown hat.up

/-- **A turn of a router that has its interfaces**, with what the server makes of it. -/
theorem exists_ready {r : RouterState} {ms : List ServerMessage} {y : Sending RouterState}
    (hat : At b n ⟨r, []⟩ ms []) (hclient : F.Client b.server n)
    (hknows : KnowsPorts b.server (F.vhost n) (F.info n))
    (hports : ports r.ifList = ports (F.cabling.ifList n))
    (hstep : F.Step lt b (routerTurn { b with toRouter := Function.update b.toRouter n [] } n
      (liftRouter ⟨r, []⟩ y))) (hacc : ∀ out ∈ y.log, F.Accepted n out) :
    ∃ b', Relation.ReflTransGen (F.Step lt) b b' ∧ Apart n b b' ∧
      (∀ r', y.ending = .ok r' → At b' n ⟨r', []⟩ [] []) ∧ b.wire ⊆ b'.wire ∧
      ∀ out ∈ y.log, F.Through b' n out := by
  -- the bridge after the turn, before the server has read what was written
  have hwrite := writeOut_accepted lt hports hacc
  set b₁ := routerTurn { b with toRouter := Function.update b.toRouter n [] } n
    (liftRouter ⟨r, []⟩ y) with hb₁
  have htoServer : b₁.toServer n = y.log.map (frameMessage lt) := by
    rw [hb₁]
    show Function.update b.toServer n
      (b.toServer n ++ (writeOut (b.sessions n).router.ifList (y.log.map .frame)).log) n = _
    rw [Function.update_self, hat.session, hat.toServer, hwrite]
    rfl
  obtain ⟨b', hsteps, hall⟩ := serveAll (b := b₁) hclient hknows hacc htoServer
  refine ⟨b', .head hstep hsteps, ?_, ?_, hall.wire, hall.through⟩
  · intro m hm s ms out hat'
    refine ⟨?_, ?_, ?_, ?_, ?_⟩
    · rw [hall.down, hb₁, mem_down_routerTurn_of_ne hm]
      exact hat'.up
    · rw [hall.refused]
      exact hat'.answered
    · rw [hall.sessions, hb₁, sessions_routerTurn_of_ne hm]
      exact hat'.session
    · rw [hall.toRouter, hb₁]
      exact (Function.update_of_ne hm _ _).trans hat'.toRouter
    · rw [hall.toServer_of_ne m hm, hb₁, toServer_routerTurn_of_ne hm]
      exact hat'.toServer
  · intro r' hr'
    have hdown : b₁.down = b.down := by
      simp only [hb₁, routerTurn, liftRouter, hr', Except.map, Except.mapError, hat.session,
        hwrite, emit]
    have hsession : b₁.sessions n = ⟨r', []⟩ := by
      simp only [hb₁, routerTurn, liftRouter, hr', Except.map, Except.mapError,
        Function.update_self]
    refine ⟨?_, ?_, ?_, ?_, hall.toServer⟩
    · rw [hall.down, hdown]
      exact hat.up
    · rw [hall.refused]
      exact hat.answered
    · rw [hall.sessions]
      exact hsession
    · rw [hall.toRouter, hb₁]
      exact Function.update_self _ _ _

/-- **A frame arrives** at a port of a router that waits. -/
theorem exists_arrival {r : RouterState} (hat : At b n ⟨r, []⟩ [] [])
    (hclient : F.Client b.server n) (hknows : KnowsPorts b.server (F.vhost n) (F.info n))
    {p : SwPort} (hp : p ∈ F.info n) {frame : Frame} (hlen : frame.length ≤ F.maxFrame)
    (hfrom : F.hosts (F.link n p.port) frame ∨ ∃ w ∈ b.wire, w.frame = frame ∧
      F.link w.switch w.port = F.link n p.port ∧ (w.switch, w.port) ≠ (n, p.port)) :
    ∃ b', F.Step lt b b' ∧ At b' n ⟨r, []⟩ [.packet p.name frame] [] ∧ Apart n b b' ∧
      b'.server = b.server ∧ b.wire ⊆ b'.wire := by
  have hserved := handleSrPacketIn_of_client hclient hknows hp frame
  have hstep : F.Step lt b
      (F.serverTurn b (handleSrPacketIn (F.vhost n) p.port frame b.server)) := by
    rcases hfrom with hhost | ⟨w, hw, rfl, hlink, hne⟩
    · exact .fromHost n p.port hlen hhost
    · exact .fromWire n p.port hw hlen hlink hne
  rw [hserved] at hstep
  refine ⟨_, hstep, ⟨hat.up, hat.answered, hat.session, ?_, hat.toServer⟩, ?_, rfl,
    fun w hw => .inl hw⟩
  · rw [toRouter_serverTurn_self rfl, hat.toRouter]
    rfl
  · intro m hm s ms out hat'
    exact ⟨hat'.up, hat'.answered, hat'.session,
      (toRouter_serverTurn_of_ne (by simp) hm).trans hat'.toRouter, hat'.toServer⟩

/-- Where a frame comes from, behind the server. -/
theorem arrives_through (h : F.Ready lt b c) {packet : Frame} {interface : IfName} {env : Env}
    (hgiven : F.cabling.routers.Given c n (env, .receive packet interface)) :
    ∃ p ∈ F.info n, interface = nameOfBytes p.name ∧
      (F.hosts (F.link n p.port) packet ∨ ∃ w ∈ b.wire, w.frame = packet ∧
        F.link w.switch w.port = F.link n p.port ∧ (w.switch, w.port) ≠ (n, p.port)) := by
  rcases hgiven with ⟨q, hq, rfl, hhost⟩ | ⟨m, out, hsent, q, hq, heq, hlink, hne⟩
  · obtain ⟨p, hp, hname⟩ := mem_ports_cabling hq
    rw [hname, cabling_link hp] at hhost
    exact ⟨p, hp, hname, .inl hhost⟩
  · cases heq
    obtain ⟨p, hp, hname⟩ := mem_ports_cabling hq
    obtain ⟨p', hp', hiface, hw⟩ := h.through _ hsent
    rw [hname, hiface, cabling_link hp, cabling_link hp'] at hlink
    refine ⟨p, hp, hname, .inr ⟨_, hw, rfl, hlink, ?_⟩⟩
    rintro heq
    obtain ⟨rfl, hport⟩ := Prod.mk.inj heq
    obtain rfl := List.inj_on_of_nodup_map (F.distinct m).2 hp' hp hport
    exact hne (by rw [hname, hiface])

omit [DecidableEq ν] in
/-- What is not received is a router's own. -/
theorem own_of_given {env : Env} {event : RouterEvent}
    (hne : ∀ packet interface, event ≠ .receive packet interface)
    (hgiven : F.cabling.routers.Given c n (env, event)) : F.cabling.Own n (c.states n) event := by
  rcases hgiven with hown | ⟨m, out, -, q, -, heq, -, -⟩
  · exact hown
  · exact absurd heq (hne _ _)

/-- **A turn of a router on its links**, behind the server. -/
theorem Ready.turn {turns : List (Cabling.RouterTurn ν)}
    (hrun : Cabling.RoutersRun F.cabling turns c) (h : F.Ready lt b c) (hup : n ∉ c.down)
    {a : Env × RouterEvent} (hgiven : F.cabling.routers.Given c n a)
    (hacc : ∀ out ∈ (routerStep a.1 (c.states n) a.2).log, F.Accepted n out)
    (hpass : ∀ packet interface, a.2 = .receive packet interface →
      F.Passes (c.states n) packet interface) :
    ∃ b', F.Ready lt b' (F.cabling.routers.after c n a) := by
  have hat := h.waiting n hup
  obtain ⟨hclient, hknows⟩ := client_of_runs h.runs hat
  have hports := ((Cabling.learns_of_run hrun).states n).2
  -- the frame comes to the router first, if it is a turn that receives one
  suffices hbefore : ∃ b₁ ms, Relation.ReflTransGen (F.Step lt) b b₁ ∧ Apart n b b₁ ∧
      b.wire ⊆ b₁.wire ∧ b₁.server = b.server ∧ At b₁ n ⟨c.states n, []⟩ ms [] ∧
      F.Step lt b₁ (routerTurn { b₁ with toRouter := Function.update b₁.toRouter n [] } n
        (liftRouter ⟨c.states n, []⟩ (routerStep a.1 (c.states n) a.2))) by
    obtain ⟨b₁, ms, hsteps, hapart, hwire, hserver, hat₁, hstep⟩ := hbefore
    obtain ⟨b', hsteps', hapart', hnext, hwire', hthrough⟩ := exists_ready hat₁
      (hserver ▸ hclient) (hserver ▸ hknows) hports hstep hacc
    refine ⟨b', h.runs.trans (hsteps.trans hsteps'), ?_, ?_⟩
    · intro m hm
      by_cases hmn : m = n
      · subst hmn
        cases hend : (F.cabling.routers.step (c.states m) a).ending with
        | error e =>
          rw [Network.down_after_of_error hend] at hm
          exact absurd (Set.mem_insert m c.down) hm
        | ok r' =>
          rw [Network.states_after_of_ok hend, Function.update_self]
          exact hnext r' hend
      · have hup' : m ∉ c.down := by
          intro hmem
          cases hend : (F.cabling.routers.step (c.states n) a).ending with
          | error e =>
            rw [Network.down_after_of_error hend] at hm
            exact hm (Set.mem_insert_of_mem n hmem)
          | ok r' =>
            rw [Network.down_after_of_ok hend] at hm
            exact hm hmem
        rw [Network.states_after_of_ne hmn]
        exact hapart' m hmn _ _ _ (hapart m hmn _ _ _ (h.waiting m hup'))
    · rintro ⟨m, out⟩ (hsent | ⟨hm, hout⟩)
      · obtain ⟨p, hp, hiface, hw⟩ := h.through _ hsent
        exact ⟨p, hp, hiface, hwire' (hwire hw)⟩
      · obtain rfl : m = n := hm
        exact hthrough out hout
  obtain ⟨env, event⟩ := a
  by_cases hreceive : ∃ packet interface, event = .receive packet interface
  · obtain ⟨packet, interface, rfl⟩ := hreceive
    obtain ⟨p, hp, rfl, hfrom⟩ := arrives_through h hgiven
    obtain ⟨hlen, hkeep⟩ := hpass packet _ rfl
    obtain ⟨b₁, hstep₁, hat₁, hapart, hserver, hwire⟩ :=
      exists_arrival hat hclient hknows hp hlen hfrom
    refine ⟨b₁, _, .single hstep₁, hapart, hwire, hserver, hat₁, ?_⟩
    have hstep : F.Step lt b₁ _ := .read n { quietVnsEnv with env := env } hat₁.up hat₁.toRouter
    rw [srReadCommand_send (fits_packet hp hlen), hat₁.session,
      messageStep_packet_of hkeep] at hstep
    exact hstep
  · have hne : ∀ packet interface, event ≠ .receive packet interface :=
      fun packet interface heq => hreceive ⟨packet, interface, heq⟩
    refine ⟨b, [], .refl, fun _ _ _ _ _ hat => hat, subset_rfl, rfl, hat, ?_⟩
    have hmeans : vnsThreadStep ⟨c.states n, []⟩ ⟨(env, event), hne⟩ =
        liftRouter ⟨c.states n, []⟩ (routerStep env (c.states n) event) := if_pos rfl
    have hstep : F.Step lt b _ := .thread n ⟨(env, event), hne⟩ hat.up (by
      rw [hat.session]
      exact own_of_given hne hgiven)
    rw [hat.session, hmeans] at hstep
    rw [← hat.toRouter, Function.update_eq_self]
    exact hstep

/-! ### Runs -/

/-- All routers get their interfaces, one after the other. -/
theorem exists_ready_start (F : Fabric ν κ) (lt : LtProtocol) :
    ∃ b, F.Ready lt b F.cabling.start := by
  have hlist : ∀ routers : List ν, ∃ b, F.Runs lt b ∧ ∀ n,
      (n ∈ routers → At b n
        ⟨routerInit (F.cabling.ifList n) (F.staticRoutes n), []⟩ [] []) ∧
      (n ∉ routers → At b n
        ⟨routerInit [] (F.staticRoutes n), [vnsAuthRequest, vnsAuthStatus]⟩
        [.authRequest (F.salt n)] []) := by
    intro routers
    -- those on the list have their interfaces, the others are as they were started
    induction routers with
    | nil =>
      exact ⟨F.start, .refl, fun n => ⟨fun h => absurd h List.not_mem_nil,
        fun _ => ⟨Set.notMem_empty n, Set.notMem_empty n, rfl, rfl, rfl⟩⟩⟩
    | cons m routers ih =>
      obtain ⟨b, hruns, hall⟩ := ih
      -- a router may be on the list twice
      by_cases hm : m ∈ routers
      · refine ⟨b, hruns, fun n => ⟨fun hn => ?_, fun hn => ?_⟩⟩
        · rcases List.mem_cons.mp hn with rfl | hn
          · exact (hall n).1 hm
          · exact (hall n).1 hn
        · exact (hall n).2 fun hmem => hn (List.mem_cons_of_mem m hmem)
      · obtain ⟨turns, c, -, hbehind⟩ := simulated_of_runs hruns
        have hkey : quietVnsEnv.authKey = some [107, 101, 121, 10] := rfl
        obtain ⟨b', hsteps, hat, hapart⟩ :=
          connects_of_asked (hbehind.told m) ((hall m).2 hm) hkey (by decide) rfl
        refine ⟨b', hruns.trans hsteps, fun n => ⟨fun hn => ?_, fun hn => ?_⟩⟩
        · by_cases hnm : n = m
          · subst hnm
            exact hat
          · exact hapart n hnm _ _ _ ((hall n).1 ((List.mem_cons.mp hn).resolve_left hnm))
        · rw [List.mem_cons, not_or] at hn
          exact hapart n hn.1 _ _ _ ((hall n).2 hn.2)
  obtain ⟨b, hruns, hall⟩ := hlist F.routers
  exact ⟨b, hruns, fun n _ => (hall n).1 (F.mem_routers n), fun p hp => absurd hp id⟩

/-- Every run of routers on their links, if their frames get through. -/
theorem exists_ready_of_run {turns : List (Cabling.RouterTurn ν)}
    (hrun : Cabling.RoutersRun F.cabling turns c)
    (hacc : ∀ p ∈ c.sent, F.Accepted p.1 p.2)
    (hpass : ∀ turn ∈ turns, ∀ packet interface, turn.input.2 = .receive packet interface →
      F.Passes turn.state packet interface) : ∃ b, F.Ready lt b c := by
  induction hrun with
  | refl => exact exists_ready_start F lt
  | @tail turns c n a hrun hup hgiven ih =>
    obtain ⟨b, hready⟩ := ih (fun p hp => hacc p (.inl hp))
      fun turn hturn => hpass turn (List.mem_cons_of_mem _ hturn)
    exact hready.turn hrun hup hgiven (fun out hout => hacc (n, out) (.inr ⟨rfl, hout⟩))
      (hpass _ List.mem_cons_self)

/-- **The server takes nothing away**: every run of the routers on their links in which
`sr_send_packet` accepts their frames, and in which the frames that they handle are short enough
and are let through, is one of the routers behind the server. -/
theorem realized {turns : List (Cabling.RouterTurn ν)}
    (hrun : Cabling.RoutersRun F.cabling turns c) (hacc : ∀ p ∈ c.sent, F.Accepted p.1 p.2)
    (hpass : ∀ turn ∈ turns, ∀ packet interface, turn.input.2 = .receive packet interface →
      F.Passes turn.state packet interface) :
    ∃ b, F.Runs lt b ∧ (∀ n, n ∉ c.down → n ∉ b.down ∧ b.sessions n = ⟨c.states n, []⟩) ∧
      ∀ p ∈ c.sent, F.Through b p.1 p.2 := by
  obtain ⟨b, hready⟩ := exists_ready_of_run hrun hacc hpass
  exact ⟨b, hready.runs, fun n hn => ⟨(hready.waiting n hn).up, (hready.waiting n hn).session⟩,
    hready.through⟩

/-! ### A HELLO, for examples -/

open Cabling (firstRouter secondRouter)

/-- Whether the frame that an event receives passes. -/
def passesEvent (F : Fabric ν κ) (s : RouterState) : RouterEvent → Bool
  | .receive packet interface =>
      decide (packet.length ≤ F.maxFrame ∧ srArpReqNotForUs s.ifList packet interface = .ok false)
  | _ => true

/-- The router of the first switch says HELLO, and that of the second one hears it. -/
def greeted : Network.Play (Fin 2) RouterState (Env × RouterEvent) Outgoing :=
  let turn := Network.Play.turn twoSwitches.cabling.routers
  let p := turn ⟨[], twoSwitches.cabling.start.states, []⟩ firstRouter (quietEnv, .run)
  let p := turn p secondRouter (quietEnv, .run)
  let p := turn p firstRouter (quietEnv, .hellos)
  turn p secondRouter (Cabling.received (Cabling.helloOf firstRouter))

theorem greeted_reaches :
    twoSwitches.cabling.routers.Reaches twoSwitches.cabling.start greeted := by
  refine .turn (.turn (.turn (.turn (Network.reaches_start _ _) _ _ ?_ ?_) _ _ ?_ ?_)
    _ _ ?_ ?_) _ _ ?_ ?_
  all_goals first | exact .inl trivial | exact .inr (by decide +kernel) | decide +kernel

theorem greeted_sent : ∀ p ∈ greeted.sent, twoSwitches.Accepted p.1 p.2 := by
  have hsent : ∀ p ∈ greeted.sent, 14 ≤ p.2.frame.length ∧ p.2.frame.length + 24 < 2 ^ 32 ∧
      srEtherAddrsMatchInterface (twoSwitches.cabling.ifList p.1) p.2.frame p.2.iface = true := by
    decide +kernel
  exact hsent

theorem greeted_passes : ∀ turn ∈ greeted.turns, ∀ packet interface,
    turn.input.2 = .receive packet interface →
      twoSwitches.Passes turn.state packet interface := by
  have hreceived : ∀ turn ∈ greeted.turns,
      passesEvent twoSwitches turn.state turn.input.2 = true := by decide +kernel
  intro turn hturn packet interface hinput
  have hlet := hreceived turn hturn
  rw [hinput, passesEvent] at hlet
  obtain ⟨hlen, hkeep⟩ := of_decide_eq_true hlet
  exact ⟨hlen, hkeep⟩

theorem greeted_heard : ∃ i ∈ (greeted.states 1).ifList, i.neighborId ≠ 0 := by decide +kernel

theorem realized_greeted : ∃ b, twoSwitches.Runs plainLt b ∧
    (∃ i ∈ (b.sessions 1).router.ifList, i.neighborId ≠ 0) ∧
    ∃ w ∈ b.wire, w.frame = Cabling.helloOf 0 := by
  have hsays : ∃ p ∈ greeted.sent, p.2.frame = Cabling.helloOf 0 := by decide +kernel
  obtain ⟨c, hrun, hstates, hdown, hmem⟩ := greeted_reaches
  obtain ⟨b, hruns, hup, hthrough⟩ : ∃ b, twoSwitches.Runs plainLt b ∧ _ :=
    realized hrun (fun p hp => greeted_sent p ((hmem p).mp hp)) greeted_passes
  obtain ⟨p, hp, hhello⟩ := hsays
  obtain ⟨port, hport, hiface, hw⟩ := hthrough p ((hmem p).mpr hp)
  obtain ⟨-, hsession⟩ := hup 1 (by rw [hdown]; exact Set.notMem_empty 1)
  refine ⟨b, hruns, ?_, _, hw, hhello⟩
  rw [hsession, hstates]
  exact greeted_heard

/-! ### Neighbours -/

/-- **A neighbour is the router of a switch that is connected to the same link**, in every run
behind the server, with its router id, and the address of its port there. -/
theorem neighbors_connected (h : F.Runs lt b) (n : ν) {i : SrIf}
    (hi : i ∈ (b.sessions n).router.ifList) (hid : i.neighborId ≠ 0) :
    ∃ p ∈ F.info n, i.name = nameOfBytes p.name ∧ ∃ m, ∃ q ∈ F.info m,
      F.link m q.port = F.link n p.port ∧ (m, q.port) ≠ (n, p.port) ∧
        q.interface.srIf.ip = i.neighborIp ∧ (b.sessions m).router.routerId = i.neighborId := by
  obtain ⟨turns, c, hrun, hbehind⟩ := simulated_of_runs h
  have hstate : (b.sessions n).router = c.states n := by
    rcases (hbehind.placed n).shows with heq | ⟨hnil, -⟩
    · exact heq
    · -- a router without interfaces has none on the list
      rw [hnil] at hi
      exact absurd hi List.not_mem_nil
  rw [hstate] at hi
  obtain ⟨hbears, hports⟩ := (Cabling.learns_of_run hrun).states n
  have hmem : i.port ∈ ports (c.states n).ifList := List.mem_map_of_mem hi
  rw [hports] at hmem
  obtain ⟨p, hp, hname⟩ : ∃ p ∈ F.info n, i.name = nameOfBytes p.name := mem_ports_cabling hmem
  obtain ⟨m, port, ⟨hport, hlink, hne⟩, hhas, hip⟩ := hbears.neighbors i hi hid
  obtain ⟨j, hj, rfl⟩ := List.mem_map.mp hport
  obtain ⟨q, hq, rfl⟩ := List.mem_map.mp hj
  have hqname : q.interface.srIf.port.name = nameOfBytes q.name := name_srIf hq
  rw [hqname, hname, cabling_link hp, cabling_link hq] at hlink
  rw [hqname, hname] at hne
  refine ⟨p, hp, hname, m, q, hq, hlink, ?_, hip, ?_⟩
  · intro heq
    obtain ⟨rfl, hsame⟩ := Prod.mk.inj heq
    obtain rfl := List.inj_on_of_nodup_map (F.distinct m).2 hq hp hsame
    exact hne rfl
  · have hrid := Cabling.routerId_of_run hrun hhas hid
    rcases (hbehind.placed m).shows with heq | ⟨-, routes, hinit⟩
    · rw [heq]
      exact hrid
    · -- a router without interfaces has no router id yet
      rw [hinit] at hrid
      exact absurd hrid.symm hid

theorem neighbors_connected_greeted : ∃ b, ∃ i ∈ (b.sessions 1).router.ifList,
    twoSwitches.Runs plainLt b ∧ i.neighborId ≠ 0 ∧ ∃ p ∈ twoSwitches.info 1,
      i.name = nameOfBytes p.name ∧ ∃ m, ∃ q ∈ twoSwitches.info m,
        twoSwitches.link m q.port = twoSwitches.link 1 p.port ∧ (m, q.port) ≠ (1, p.port) ∧
          q.interface.srIf.ip = i.neighborIp ∧
            (b.sessions m).router.routerId = i.neighborId := by
  obtain ⟨c, hrun, hstates, hdown, hmem⟩ := greeted_reaches
  obtain ⟨b, hready⟩ : ∃ b, twoSwitches.Ready plainLt b c :=
    exists_ready_of_run hrun (fun p hp => greeted_sent p ((hmem p).mp hp)) greeted_passes
  have hsession := (hready.waiting 1 (by rw [hdown]; exact Set.notMem_empty 1)).session
  have hruns := hready.runs
  obtain ⟨i, hi, hid⟩ := greeted_heard
  rw [← hstates] at hi
  replace hi : i ∈ (b.sessions 1).router.ifList := by rwa [hsession]
  exact ⟨b, i, hi, hruns, hid, neighbors_connected hruns 1 hi hid⟩

end Fabric

end Redes
