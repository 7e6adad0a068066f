import Redes.Vns.Behind

/-!
# The server does not show

Whatever holds of routers on their links in every run holds behind the server, which understands
what the routers send it.  A router can get its interfaces from whatever state can be reached,
unless it has asked for them before its switch had told the server of them.

## Main definitions

* `Fabric.At` — a router, and the messages on their way.
* `Fabric.CanConnect` — a router can get its interfaces.
* `Fabric.Understood` — what a message of a router can be.

## Main results

* `understood` — the server understands what the routers send it.
* `transparent` — every run is one of the routers on their links.
* `canConnect_iff` — when a router can get its interfaces.
-/

namespace Redes

open Bytes Logged

namespace Fabric

variable {ν κ : Type*} [DecidableEq ν] {F : Fabric ν κ} {lt : LtProtocol} {server : SrServer ν}
  {b : Bridge ν} {n : ν} {s : VnsState} {ms : List ServerMessage} {out : List (List UInt8)}

/-! ### A router gets its interfaces -/

/-- A router that has not ended, and the messages on their way to it and from it. -/
structure At (b : Bridge ν) (n : ν) (s : VnsState) (ms : List ServerMessage)
    (out : List (List UInt8)) : Prop where
  /-- It has not ended. -/
  up : n ∉ b.down
  /-- The server has understood it. -/
  answered : n ∉ b.refused
  /-- Its session. -/
  session : b.sessions n = s
  /-- The messages to it. -/
  toRouter : b.toRouter n = ms
  /-- The messages from it. -/
  toServer : b.toServer n = out

/-- The other routers are left alone. -/
def Apart (n : ν) (b b' : Bridge ν) : Prop :=
  ∀ m ≠ n, ∀ s ms out, At b m s ms out → At b' m s ms out

omit [DecidableEq ν] in
theorem Apart.trans {b₁ b₂ b₃ : Bridge ν} (h : Apart n b₁ b₂) (h' : Apart n b₂ b₃) :
    Apart n b₁ b₃ :=
  fun m hm s ms out hat => h' m hm s ms out (h m hm s ms out hat)

/-- It reads a message. -/
theorem At.read {m : ServerMessage} (h : At b n s (m :: ms) out) {e : VnsEnv} {log : List VnsOut}
    {s' : VnsState} {bytes : List (List UInt8)} (hfits : Fits m)
    (hmeans : messageStep lt (F.config n) e s m = emit log s')
    (hw : writeOut s.router.ifList log = emit bytes ()) :
    ∃ b', F.Step lt b b' ∧ At b' n s' ms (out ++ bytes) ∧ b'.server = b.server ∧
      Apart n b b' := by
  have hstep : F.Step lt b _ := .read n e h.up h.toRouter
  rw [srReadCommand_send hfits, h.session, hmeans,
    routerTurn_emit (by rw [h.session]; exact hw)] at hstep
  refine ⟨_, hstep, ⟨h.up, h.answered, Function.update_self _ _ _, Function.update_self _ _ _, ?_⟩,
    rfl, ?_⟩
  · show Function.update b.toServer n (b.toServer n ++ bytes) n = _
    rw [Function.update_self, h.toServer]
  · intro m' hm' s ms out hat
    exact ⟨hat.up, hat.answered, (Function.update_of_ne hm' _ _).trans hat.session,
      (Function.update_of_ne hm' _ _).trans hat.toRouter,
      (Function.update_of_ne hm' _ _).trans hat.toServer⟩

/-- The server answers. -/
theorem At.serve {bytes : List UInt8} (h : At b n s ms (bytes :: out)) {answer : ServerMessage}
    {server : SrServer ν}
    (hserve : F.serve lt b.server n bytes = ⟨server, [(n, answer)], [], false⟩) :
    ∃ b', F.Step lt b b' ∧ At b' n s (ms ++ [answer]) out ∧ b'.server = server ∧
      Apart n b b' := by
  have hstep : F.Step lt b _ := .serve n h.toServer
  rw [hserve] at hstep
  refine ⟨_, hstep, ⟨h.up, h.answered, h.session, ?_, Function.update_self _ _ _⟩, rfl, ?_⟩
  · show b.toRouter n ++ [(n, answer)].filterMap _ = _
    rw [h.toRouter]
    simp
  · intro m' hm' s ms out hat
    refine ⟨hat.up, hat.answered, hat.session, ?_,
      (Function.update_of_ne hm' _ _).trans hat.toServer⟩
    show b.toRouter m' ++ [(n, answer)].filterMap _ = _
    rw [hat.toRouter]
    simp [hm'.symm]

omit [DecidableEq ν] in
/-- A switch tells of its ports. -/
theorem At.routerInfo (h : At b n s ms out) (F : Fabric ν κ) (m : ν) :
    At { b with server := handleRouterInfo (F.vhost m) (F.info m) b.server } n s ms out :=
  ⟨h.up, h.answered, h.session, h.toRouter, h.toServer⟩

/-- A router gets its interfaces in a run in which the others do nothing. -/
def Connects (F : Fabric ν κ) (lt : LtProtocol) (b : Bridge ν) (n : ν) (routes : List SrRt)
    (ms : List ServerMessage) : Prop :=
  ∃ b', Relation.ReflTransGen (F.Step lt) b b' ∧
    At b' n ⟨routerInit (F.cabling.ifList n) routes, []⟩ ms [] ∧ Apart n b b'

section Connects

variable {routes : List SrRt}

theorem Connects.head {b' : Bridge ν} (hstep : F.Step lt b b') (hapart : Apart n b b')
    (h : F.Connects lt b' n routes ms) : F.Connects lt b n routes ms := by
  obtain ⟨b'', hsteps, hat, hapart'⟩ := h
  exact ⟨b'', .head hstep hsteps, hat, hapart.trans hapart'⟩

theorem connects_of_opened (h : At b n ⟨routerInit [] routes, []⟩
    (.hardwareInfo (F.interfaces n) :: ms) []) (e : VnsEnv) : F.Connects lt b n routes ms := by
  obtain ⟨b', hstep, hat, -, hapart⟩ := h.read (fits_hardwareInfo F n)
    (messageStep_hardwareInfo lt (F.config n) e _ _) (by rfl)
  refine ⟨b', .single hstep, ?_, hapart⟩
  rwa [routerInit_interfaces] at hat

theorem connects_of_opening (htold : F.Told b.server n)
    (h : At b n ⟨routerInit [] routes, []⟩ [] [openMessage (F.config n)]) (e : VnsEnv) :
    F.Connects lt b n routes [] := by
  -- its switch tells of its ports before the server reads the request
  have hknows := knowsPorts_handleRouterInfo (F.distinct n) htold
  obtain ⟨b', hstep, hat, -, hapart⟩ := (h.routerInfo F n).serve (serve_openMessage hknows)
  exact ((connects_of_opened hat e).head hstep hapart).head (.routerInfo n)
    fun _ _ _ _ _ hat => hat.routerInfo F n

theorem connects_of_accepted (htold : F.Told b.server n)
    (h : At b n ⟨routerInit [] routes, [vnsAuthStatus]⟩
      [.authStatus true (authenticated (F.connText n))] []) {e : VnsEnv}
    (hsends : e.sends = true) : F.Connects lt b n routes [] := by
  obtain ⟨b', hstep, hat, hserver, hapart⟩ := h.read (fits_authStatus F n)
    ((messageStep_authStatus lt (F.config n) e _ _).trans (if_pos hsends))
    (writeOut_message _ _)
  exact (connects_of_opening (hserver ▸ htold) hat e).head hstep hapart

theorem connects_of_replied (htold : F.Told b.server n)
    {key : List UInt8} (h : At b n ⟨routerInit [] routes, [vnsAuthStatus]⟩ []
      [F.reply lt n key]) {e : VnsEnv} (hsends : e.sends = true) :
    F.Connects lt b n routes [] := by
  obtain ⟨b', hstep, hat, hserver, hapart⟩ := h.serve (serve_reply F lt b.server n key)
  exact (connects_of_accepted (hserver ▸ htold) hat hsends).head hstep hapart

theorem connects_of_asked (htold : F.Told b.server n)
    (h : At b n ⟨routerInit [] routes, [vnsAuthRequest, vnsAuthStatus]⟩
      [.authRequest (F.salt n)] []) {e : VnsEnv} {text : List UInt8}
    (htext : e.authKey = some text) (hne : text ≠ []) (hsends : e.sends = true) :
    F.Connects lt b n routes [] := by
  obtain ⟨b', hstep, hat, hserver, hapart⟩ := h.read (fits_authRequest F n)
    (messageStep_authRequest_of lt (F.config n) _ htext hne hsends (F.salt n))
    (writeOut_message _ _)
  exact (connects_of_replied (hserver ▸ htold) hat hsends).head hstep hapart

end Connects

/-- A router can get its interfaces. -/
def CanConnect (F : Fabric ν κ) (lt : LtProtocol) (b : Bridge ν) (n : ν) : Prop :=
  ∃ b', Relation.ReflTransGen (F.Step lt) b b' ∧ n ∉ b'.down ∧ (b'.sessions n).expected = [] ∧
    ports (b'.sessions n).router.ifList = ports (F.cabling.ifList n)

theorem Connects.canConnect {routes : List SrRt} (h : F.Connects lt b n routes ms) :
    F.CanConnect lt b n := by
  obtain ⟨b', hsteps, hat, -⟩ := h
  exact ⟨b', hsteps, hat.up, by rw [hat.session], by rw [hat.session]; rfl⟩

/-- From every phase, if the router has not ended. -/
theorem canConnect_of_simulated (h : F.Simulated lt b) (hup : n ∉ b.down) (hn : n ∉ b.refused)
    {e : VnsEnv} {text : List UInt8} (htext : e.authKey = some text) (hne : text ≠ [])
    (hsends : e.sends = true) : F.CanConnect lt b n := by
  obtain ⟨turns, c, hrun, hbehind⟩ := h
  have hports := ((Cabling.learns_of_run hrun).states n).2
  have htold := hbehind.told n
  have hphase := ((hbehind.placed n).resolve_left fun h => hn h.1).2
  generalize hs : b.sessions n = s at hphase
  generalize hin : b.toRouter n = ms at hphase
  generalize hout : b.toServer n = out at hphase
  generalize hr : c.states n = r at hphase hports
  have hat : At b n s ms out := ⟨hup, hn, hs, hin, hout⟩
  -- from each phase the rest of the way
  cases hphase with
  | asked routes _ => exact (connects_of_asked htold hat htext hne hsends).canConnect
  | replied routes _ _ => exact (connects_of_replied htold hat hsends).canConnect
  | accepted routes _ => exact (connects_of_accepted htold hat hsends).canConnect
  | opening routes _ => exact (connects_of_opening htold hat e).canConnect
  | opened routes _ _ => exact (connects_of_opened hat e).canConnect
  | connected r _ _ _ => exact ⟨b, .refl, hup, by rw [hs], by rw [hs]; exact hports⟩
  | ended hdown _ _ _ _ => exact absurd hdown hup

/-! ### Runs -/

/-- What a message of a router can be: as long as the server does not know the router, the reply to
its salt or the request for its interfaces, and from then on a frame at a port of the switch.  The
server raises an exception exactly on a request that it reads before the switch has told it of its
ports. -/
def Understood (F : Fabric ν κ) (lt : LtProtocol) (b : Bridge ν) (n : ν) (bytes : List UInt8) :
    Prop :=
  ((F.Stranger b.server n ∧
      ((∃ (e : VnsEnv) (text : List UInt8), e.authKey = some text ∧
          clientMessage lt bytes = some (.authReply (F.config n).user
            (digestOctets (SecureHash.sha1 (F.salt n ++ authKeyBytes e.stack text))))) ∨
        clientMessage lt bytes = some (F.request n))) ∨
    (F.Client b.server n ∧
      ∃ p ∈ F.info n, ∃ frame, clientMessage lt bytes = some (.packet p.name frame))) ∧
  ((F.serve lt b.server n bytes).raises = true ↔
    clientMessage lt bytes = some (F.request n) ∧ b.server.interfaces (F.vhost n) = none)

/-- **The server understands what the routers send it**, in every run, but for a request that comes
before the switch has told it of its ports. -/
theorem understood (h : F.Runs lt b) {bytes : List UInt8} (hbytes : bytes ∈ b.toServer n) :
    F.Understood lt b n bytes := by
  obtain ⟨turns, c, -, hbehind⟩ := simulated_of_runs h
  rcases hbehind.placed n with ⟨-, hun⟩ | ⟨hn, hphase⟩
  · -- a router that waits in vain sends nothing
    rw [hun.silent] at hbytes
    exact absurd hbytes List.not_mem_nil
  generalize b.sessions n = s at hphase
  generalize b.toRouter n = ms at hphase
  generalize b.toServer n = out at hphase hbytes
  generalize c.states n = r at hphase
  -- a router that is known sends frames only, also one that has ended since
  have hframe : F.Client b.server n → F.Going lt c.sent n bytes → F.Understood lt b n bytes := by
    intro hclient hgoing
    obtain ⟨p, hp, frame, -, hmsg⟩ := clientMessage_of_going hgoing
    refine ⟨.inr ⟨hclient, p, hp, frame, hmsg⟩, ?_⟩
    rw [serve_packet hclient (hbehind.knows n hn hclient) hp hmsg, hmsg]
    simp [request]
  cases hphase with
  | asked routes _ => exact absurd hbytes List.not_mem_nil
  | replied routes htext hs =>
    obtain rfl := List.mem_singleton.mp hbytes
    refine ⟨.inl ⟨hs, .inl ⟨_, _, htext, clientMessage_reply F lt n _⟩⟩, ?_⟩
    rw [serve_reply, clientMessage_reply]
    simp [request]
  | accepted routes _ => exact absurd hbytes List.not_mem_nil
  | opening routes hs =>
    obtain rfl := List.mem_singleton.mp hbytes
    have hmsg := clientMessage_openMessage F lt n
    refine ⟨.inl ⟨hs, .inr hmsg⟩, ?_⟩
    rw [serve_openMessage_eq, hmsg]
    cases b.server.interfaces (F.vhost n) with
    | none => exact ⟨fun _ => ⟨rfl, rfl⟩, fun _ => rfl⟩
    | some interfaces => exact ⟨fun h => (by cases h), fun h => (by cases h.2)⟩
  | opened routes _ _ => exact absurd hbytes List.not_mem_nil
  | connected r hknown _ hgoing => exact hframe hknown (hgoing bytes hbytes)
  | ended _ _ hknown _ hgoing =>
    rcases hknown with ⟨-, rfl⟩ | hknown
    · exact absurd hbytes List.not_mem_nil
    · exact hframe hknown (hgoing bytes hbytes)

/-- **The server does not show**: every run of the routers behind it, in whatever order the parts
take their turns, is one of the routers on their links with nothing in between.  They are in the
same states, but for those that have asked for their interfaces too early, which have none and have
done nothing there but load routes.  Those that fail there have ended, and what has been sent
through the ports of the switches has been sent there. -/
theorem transparent (h : F.Runs lt b) :
    ∃ turns c, Cabling.RoutersRun F.cabling turns c ∧
      (∀ n ∉ b.refused, F.Shows n (b.sessions n).router (c.states n)) ∧
      (∀ n ∈ b.refused, (b.sessions n).router.ifList = [] ∧
        ∃ routes, c.states n = routerInit (F.cabling.ifList n) routes) ∧
      c.down ⊆ b.down ∧
      ∀ w ∈ b.wire, ∃ p ∈ F.info w.switch, p.port = w.port ∧
        (w.switch, ⟨w.frame, nameOfBytes p.name⟩) ∈ c.sent := by
  obtain ⟨turns, c, hrun, hbehind⟩ := simulated_of_runs h
  refine ⟨turns, c, hrun, fun n hn => ?_, fun n hn => ?_, hbehind.down, hbehind.wire⟩
  · exact ((hbehind.placed n).resolve_left fun h => hn h.1).2.shows
  · have hun := ((hbehind.placed n).resolve_right fun h => h.1 hn).2
    exact ⟨hun.ifList, hun.idle⟩

/-- The server raises an exception for a router once and for all. -/
theorem refused_subset_of_steps {b' : Bridge ν} (h : Relation.ReflTransGen (F.Step lt) b b') :
    b.refused ⊆ b'.refused := by
  induction h with
  | refl => exact subset_rfl
  | tail _ hstep ih =>
    cases hstep with
    | serve m hb =>
      refine ih.trans fun n hn => ?_
      show n ∈ if _ then _ else _
      split_ifs
      · exact Set.mem_insert_of_mem m hn
      · exact hn
    | _ => exact ih

/-- **When a router can get its interfaces**: from whatever state can be reached, as long as it
has not ended, its key can be read, and what it sends is sent, it can if and only if it has not
asked for them before its switch had told the server of its ports. -/
theorem canConnect_iff (h : F.Runs lt b) (hup : n ∉ b.down) {e : VnsEnv} {text : List UInt8}
    (htext : e.authKey = some text) (hne : text ≠ []) (hsends : e.sends = true)
    (hinfo : F.info n ≠ []) : F.CanConnect lt b n ↔ n ∉ b.refused := by
  constructor
  · rintro ⟨b', hsteps, -, -, hports⟩ hn
    -- a router that waits in vain does so in every run from there
    obtain ⟨turns, c, -, hbehind⟩ := simulated_of_runs (Relation.ReflTransGen.trans h hsteps)
    have hun := ((hbehind.placed n).resolve_right fun h =>
      h.1 (refused_subset_of_steps hsteps hn)).2
    rw [hun.ifList] at hports
    exact hinfo (List.map_eq_nil_iff.mp (List.map_eq_nil_iff.mp hports.symm))
  · exact fun hn => canConnect_of_simulated (simulated_of_runs h) hup hn htext hne hsends

/-! ### Two switches, for examples -/

open Cabling (firstRouter secondRouter twoRouters)

/-- The port of the first or the second switch, 10.0.1.1 or 10.0.1.2. -/
def sharedPort (k : Fin 2) : SwPort where
  name := [101, 116, 104, 49]
  ip := [10, 0, 1, if k = firstRouter then 1 else 2]
  mac := [0, 0, 0, 0, 0, if k = firstRouter then 1 else 2]
  port := 1
  length_ip := rfl
  length_mac := rfl

/-- The name of the first or the second switch. -/
def sharedVhost (k : Fin 2) : List UInt8 :=
  [118, 104, 111, 115, 116, if k = firstRouter then 49 else 50]

/-- Two switches with one link between them. -/
def twoSwitches : Fabric (Fin 2) Unit where
  routers := [firstRouter, secondRouter]
  mem_routers := by decide
  vhost := sharedVhost
  vhost_injective := fun j k h => by
    revert j k
    decide
  vhost_fits := by decide
  info := fun k => [sharedPort k]
  distinct := fun _ => ⟨List.nodup_singleton _, List.nodup_singleton _⟩
  names_fit := fun k p hp => by
    obtain rfl := List.mem_singleton.mp hp
    have hname : 0 ∉ ([101, 116, 104, 49] : List UInt8) := by decide
    exact ⟨hname, (by decide : 4 < 16)⟩
  info_fits := fun _ => (by decide : 8 + 216 * 1 ≤ 10000)
  config := fun k => { vhost1Config with host := sharedVhost k }
  config_host := fun _ => rfl
  config_template := fun _ => rfl
  staticRoutes := fun _ => []
  salt := fun _ => List.replicate 20 7
  length_salt := fun _ => rfl
  connText := fun _ => []
  connText_fits := fun _ => by decide
  link := fun _ _ => ()
  hosts := fun _ _ => False
  hosts_ospf := twoRouters.hosts_ospf
  maxFrame := 1514
  maxFrame_fits := by decide

theorem canConnect_twoSwitches : twoSwitches.CanConnect plainLt twoSwitches.start 0 :=
  (canConnect_iff .refl (Set.notMem_empty 0) (e := quietVnsEnv) rfl (by decide) rfl
    (by decide)).mpr (Set.notMem_empty 0)

/-- The first router has asked for its interfaces, and no switch has told of its ports. -/
theorem exists_asking : ∃ b, twoSwitches.Runs plainLt b ∧ b.server.interfaces = (fun _ => none) ∧
    b.toServer 0 = [openMessage (twoSwitches.config 0)] := by
  have hat : At twoSwitches.start 0 ⟨routerInit [] [], [vnsAuthRequest, vnsAuthStatus]⟩
      [.authRequest (twoSwitches.salt 0)] [] :=
    ⟨Set.notMem_empty 0, Set.notMem_empty 0, rfl, rfl, rfl⟩
  have hkey : quietVnsEnv.authKey = some [107, 101, 121, 10] := rfl
  obtain ⟨b₁, hstep₁, hat₁, hserver₁, -⟩ := hat.read (fits_authRequest twoSwitches 0)
    (messageStep_authRequest_of plainLt _ _ hkey (by decide) rfl _) (writeOut_message _ _)
  obtain ⟨b₂, hstep₂, hat₂, hserver₂, -⟩ := hat₁.serve (serve_reply twoSwitches plainLt _ 0 _)
  obtain ⟨b₃, hstep₃, hat₃, hserver₃, -⟩ := hat₂.read (e := quietVnsEnv)
    (fits_authStatus twoSwitches 0)
    ((messageStep_authStatus plainLt (twoSwitches.config 0) quietVnsEnv _ _).trans (if_pos rfl))
    (writeOut_message _ _)
  refine ⟨b₃, .tail (.tail (.single hstep₁) hstep₂) hstep₃, ?_, hat₃.toServer⟩
  rw [hserver₃, hserver₂, hserver₁]
  rfl

theorem understood_twoSwitches : ∃ b, ∃ bytes ∈ b.toServer 0, twoSwitches.Runs plainLt b ∧
    (twoSwitches.serve plainLt b.server 0 bytes).raises = true := by
  obtain ⟨b, hrun, hserver, hasks⟩ := exists_asking
  have hmem : openMessage (twoSwitches.config 0) ∈ b.toServer 0 := by
    rw [hasks]
    exact List.mem_singleton_self _
  exact ⟨b, _, hmem, hrun, (understood hrun hmem).2.mpr
    ⟨clientMessage_openMessage twoSwitches plainLt 0, by rw [hserver]⟩⟩

theorem transparent_twoSwitches : ∃ b, twoSwitches.Runs plainLt b ∧
    (b.sessions 0).router.ifList ≠ [] ∧
    ∃ turns c, Cabling.RoutersRun twoSwitches.cabling turns c ∧
      (∀ n ∉ b.refused, twoSwitches.Shows n (b.sessions n).router (c.states n)) ∧
      (∀ n ∈ b.refused, (b.sessions n).router.ifList = [] ∧
        ∃ routes, c.states n = routerInit (twoSwitches.cabling.ifList n) routes) ∧
      c.down ⊆ b.down ∧
      ∀ w ∈ b.wire, ∃ p ∈ twoSwitches.info w.switch, p.port = w.port ∧
        (w.switch, ⟨w.frame, nameOfBytes p.name⟩) ∈ c.sent := by
  have hkey : quietVnsEnv.authKey = some [107, 101, 121, 10] := rfl
  obtain ⟨b, hrun, -, -, hports⟩ := canConnect_of_simulated (n := 0)
    (simulated_of_runs (show twoSwitches.Runs plainLt twoSwitches.start from .refl))
    (Set.notMem_empty 0) (Set.notMem_empty 0) hkey (by decide) rfl
  refine ⟨b, hrun, ?_, transparent hrun⟩
  intro hnil
  rw [hnil] at hports
  cases hports

end Fabric

end Redes
