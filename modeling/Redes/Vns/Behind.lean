import Redes.Vns.Phases

/-!
# Routers behind a server, and routers on their links

Each turn that a router behind the server takes when it has its interfaces could be taken if the
routers were on their links with nothing in between, and no other turn of any part shows.

## Main definitions

* `Fabric.Behind` — routers behind the server, and routers on their links.
* `Fabric.Turned` — what a turn of a router comes to there.
* `Fabric.Simulated` — there is a run of the routers on their links.

## Main results

* `Behind.read`, `Behind.thread` — turns of routers.
* `Behind.serve`, `Behind.packetIn`, `Behind.routerInfo` — turns of the server.
* `Behind.step`, `simulated_of_runs` — every turn, and every run.
-/

namespace Redes

open Bytes Logged

namespace Fabric

variable {ν κ : Type*} [DecidableEq ν] {F : Fabric ν κ} {lt : LtProtocol} {server : SrServer ν}
  {n : ν} {s : VnsState} {ms : List ServerMessage} {out : List (List UInt8)}

/-! ### Turns of routers -/

/-- Routers behind the server, and the routers if they were on their links with nothing in
between. -/
structure Behind (F : Fabric ν κ) (lt : LtProtocol) (b : Bridge ν)
    (c : Network.Config ν RouterState Outgoing) : Prop where
  /-- Each router is in one of its phases, or waits for its interfaces in vain. -/
  placed : ∀ n, F.Placed lt b.server b.down b.refused c.sent n (b.sessions n) (b.toRouter n)
    (b.toServer n) (c.states n)
  /-- Each switch has told the server of its ports, or it has not. -/
  told : ∀ n, F.Told b.server n
  /-- It has, if the server knows the router and has understood it. -/
  knows : ∀ n ∉ b.refused, F.Client b.server n → KnowsPorts b.server (F.vhost n) (F.info n)
  /-- What has been sent through a port, a router has sent through its interface. -/
  wire : ∀ w ∈ b.wire, ∃ p ∈ F.info w.switch, p.port = w.port ∧
    (w.switch, ⟨w.frame, nameOfBytes p.name⟩) ∈ c.sent
  /-- Routers that fail on their links have ended. -/
  down : c.down ⊆ b.down

/-- What a turn of a router comes to if it is on its links. -/
structure Turned (F : Fabric ν κ) (lt : LtProtocol) (b : Bridge ν)
    (c : Network.Config ν RouterState Outgoing) (n : ν) (ms : List ServerMessage)
    (x : VnsAction VnsState) (c' : Network.Config ν RouterState Outgoing) : Prop where
  /-- It is a turn that can be taken there, or none. -/
  step : c' = c ∨ ∃ a, F.cabling.routers.Given c n a ∧ c' = F.cabling.routers.after c n a
  /-- Where it fails there, it fails. -/
  down : c'.down ⊆ (routerTurn b n x).down
  /-- The router goes on to a phase. -/
  placed : F.Placed lt b.server (routerTurn b n x).down b.refused c'.sent n
    ((routerTurn b n x).sessions n) ms ((routerTurn b n x).toServer n) (c'.states n)

variable {b : Bridge ν} {c : Network.Config ν RouterState Outgoing} {x : VnsAction VnsState}

theorem down_subset_routerTurn (b : Bridge ν) (n : ν) (x : VnsAction VnsState) :
    b.down ⊆ (routerTurn b n x).down := by
  unfold routerTurn
  dsimp only
  split
  · exact subset_rfl
  · exact Set.subset_insert n b.down

theorem mem_down_routerTurn_of_ne {m : ν} (h : m ≠ n) (x : VnsAction VnsState) :
    m ∈ (routerTurn b n x).down ↔ m ∈ b.down := by
  unfold routerTurn
  dsimp only
  split
  · exact Iff.rfl
  · rw [Set.mem_insert_iff, or_iff_right h]

theorem sessions_routerTurn_of_ne {m : ν} (h : m ≠ n) (x : VnsAction VnsState) :
    (routerTurn b n x).sessions m = b.sessions m := by
  unfold routerTurn
  dsimp only
  cases x.ending with
  | ok s => exact Function.update_of_ne h _ _
  | error e => rfl

/-- What holds of the session of a router, and of what its turn returns, holds afterwards. -/
theorem session_routerTurn {P : VnsState → Prop} (h : P (b.sessions n))
    (hx : ∀ s, x.ending = .ok s → P s) : P ((routerTurn b n x).sessions n) := by
  unfold routerTurn
  cases hend : x.ending with
  | error e => exact h
  | ok s =>
    show P (Function.update b.sessions n s n)
    rw [Function.update_self]
    exact hx s hend

theorem toServer_routerTurn_of_ne {m : ν} (h : m ≠ n) (x : VnsAction VnsState) :
    (routerTurn b n x).toServer m = b.toServer m := Function.update_of_ne h _ _

/-- **The routers are behind the server after a turn of one of them.** -/
theorem Behind.turn (h : F.Behind lt b c)
    {c' : Network.Config ν RouterState Outgoing} (ht : F.Turned lt b c n ms x c') :
    F.Behind lt (routerTurn { b with toRouter := Function.update b.toRouter n ms } n x) c' where
  placed m := by
    have hsent : c.sent ⊆ c'.sent := by
      rcases ht.step with rfl | ⟨a, -, rfl⟩
      · exact subset_rfl
      · exact fun p hp => .inl hp
    by_cases hm : m = n
    · subst hm
      show F.Placed lt b.server _ _ _ m _ (Function.update b.toRouter m ms m) _ _
      rw [Function.update_self]
      exact ht.placed
    · have hstates : c'.states m = c.states m := by
        rcases ht.step with rfl | ⟨a, -, rfl⟩
        · rfl
        · exact Network.states_after_of_ne hm
      show F.Placed lt b.server _ _ _ m _ (Function.update b.toRouter n ms m) _ _
      rw [Function.update_of_ne hm, sessions_routerTurn_of_ne hm, toServer_routerTurn_of_ne hm,
        hstates]
      exact (h.placed m).mono (down_subset_routerTurn _ n x) hsent
  told := h.told
  knows := h.knows
  wire w hw := by
    obtain ⟨p, hp, hport, hmem⟩ := h.wire w hw
    refine ⟨p, hp, hport, ?_⟩
    rcases ht.step with rfl | ⟨a, -, rfl⟩
    · exact hmem
    · exact .inl hmem
  down := ht.down

/-- A turn in which a router writes messages. -/
theorem routerTurn_emit {log : List VnsOut} {s' : VnsState} {bytes : List (List UInt8)}
    (hw : writeOut (b.sessions n).router.ifList log = emit bytes ()) :
    routerTurn b n (emit log s') = { b with
      sessions := Function.update b.sessions n s'
      toServer := Function.update b.toServer n (b.toServer n ++ bytes) } := by
  unfold routerTurn
  simp only [emit] at hw ⊢
  rw [hw]

/-- A turn that fails. -/
theorem routerTurn_halt (stop : VnsStop) :
    routerTurn b n (halt stop) = { b with
      down := insert n b.down
      toServer := Function.update b.toServer n (b.toServer n ++ []) } := rfl

theorem turned_emit {log : List VnsOut} {s' : VnsState} {bytes : List (List UInt8)}
    {c' : Network.Config ν RouterState Outgoing}
    (hstep : c' = c ∨ ∃ a, F.cabling.routers.Given c n a ∧ c' = F.cabling.routers.after c n a)
    (hdown : c'.down ⊆ b.down)
    (hw : writeOut (b.sessions n).router.ifList log = emit bytes ()) (hn : n ∉ b.refused)
    (hphase : F.Phase lt b.server b.down c'.sent n s' ms (b.toServer n ++ bytes) (c'.states n)) :
    F.Turned lt b c n ms (emit log s') c' where
  step := hstep
  down := by
    rw [routerTurn_emit hw]
    exact hdown
  placed := by
    rw [routerTurn_emit hw]
    exact .inr ⟨hn, by simpa only [Function.update_self] using hphase⟩

theorem turned_halt (hdown : c.down ⊆ b.down) (stop : VnsStop) (hn : n ∉ b.refused)
    (hshows : F.Shows n (b.sessions n).router (c.states n))
    (hknown : F.Stranger b.server n ∧ b.toServer n = [] ∨ F.Client b.server n)
    (hms : ∀ m ∈ ms, F.Coming c.sent n m)
    (hout : ∀ bytes ∈ b.toServer n, F.Going lt c.sent n bytes) :
    F.Turned lt b c n ms (halt stop) c where
  step := .inl rfl
  down := by
    rw [routerTurn_halt]
    exact hdown.trans (Set.subset_insert n b.down)
  placed := by
    rw [routerTurn_halt]
    dsimp only
    rw [Function.update_self, List.append_nil]
    exact .inr ⟨hn, .ended (Set.mem_insert n b.down) hshows hknown hms hout⟩

/-- A turn that fails before the server knows the router. -/
theorem turned_halt_of_stranger (hdown : c.down ⊆ b.down) (stop : VnsStop) (hn : n ∉ b.refused)
    {routes : List SrRt} {expected : List ℕ} (hs : b.sessions n = ⟨routerInit [] routes, expected⟩)
    (hr : c.states n = routerInit (F.cabling.ifList n) routes) (hstranger : F.Stranger b.server n)
    (hout : b.toServer n = []) : F.Turned lt b c n [] (halt stop) c := by
  refine turned_halt hdown stop hn ?_ (.inl ⟨hstranger, hout⟩) (by simp) ?_
  · rw [hs, hr]
    exact .inr ⟨routes, rfl, rfl⟩
  · rw [hout]
    simp

/-- **A turn of a router that has its interfaces** is one of a router on its links. -/
theorem turned_liftRouter {r : RouterState} (hdown : c.down ⊆ b.down) (hn : n ∉ b.refused)
    (hs : b.sessions n = ⟨r, []⟩) (hr : c.states n = r)
    (hports : ports r.ifList = ports (F.cabling.ifList n)) (hclient : F.Client b.server n)
    (hms : ∀ m ∈ ms, F.Coming c.sent n m)
    (hout : ∀ bytes ∈ b.toServer n, F.Going lt c.sent n bytes) {a : Env × RouterEvent}
    (hgiven : F.cabling.routers.Given c n a) :
    F.Turned lt b c n ms (liftRouter ⟨r, []⟩ (routerStep a.1 r a.2))
      (F.cabling.routers.after c n a) := by
  subst hr
  set y := routerStep a.1 (c.states n) a.2 with hy
  have hstep : F.cabling.routers.step (c.states n) a = y := rfl
  set c' := F.cabling.routers.after c n a with hc'
  have hsent : c.sent ⊆ c'.sent := fun p hp => .inl hp
  have hms' : ∀ m ∈ ms, F.Coming c'.sent n m := fun m hm => (hms m hm).mono hsent
  -- what the turn writes to the server is about frames that it sends on the links
  set written := writeOut (c.states n).ifList (y.log.map .frame) with hwritten
  have hout' : ∀ bytes ∈ b.toServer n ++ written.log, F.Going lt c'.sent n bytes := by
    intro bytes hbytes
    rcases List.mem_append.mp hbytes with hold | hnew
    · exact (hout bytes hold).mono hsent
    · obtain ⟨p, hp, out, hlog, hiface, hlen, rfl⟩ := mem_writeOut lt hports hnew
      refine ⟨p, hp, out.frame, .inr ⟨rfl, ?_⟩, hlen, rfl⟩
      rw [hstep, ← hiface]
      exact hlog
  have hlog : (liftRouter ⟨c.states n, []⟩ y).log = y.log.map .frame := rfl
  have htoServer : (routerTurn b n (liftRouter ⟨c.states n, []⟩ y)).toServer n =
      b.toServer n ++ written.log := by
    show Function.update b.toServer n _ n = _
    rw [Function.update_self, hlog, hs]
  -- where the step fails, it fails on the links too
  cases hend : y.ending with
  | error e =>
    have hdown' : (routerTurn b n (liftRouter ⟨c.states n, []⟩ y)).down = insert n b.down := by
      simp only [routerTurn, liftRouter, hend, Except.map, Except.mapError]
    have hsession : (routerTurn b n (liftRouter ⟨c.states n, []⟩ y)).sessions n =
        ⟨c.states n, []⟩ := by
      simp only [routerTurn, liftRouter, hend, Except.map, Except.mapError, hs]
    have hstates : c'.states n = c.states n := by rw [hc', Network.states_after_of_error hend]
    refine ⟨.inr ⟨a, hgiven, rfl⟩, ?_, ?_⟩
    · rw [hdown', hc', Network.down_after_of_error hend]
      exact Set.insert_subset_insert hdown
    · rw [hdown', hsession, hstates, htoServer]
      exact .inr ⟨hn, .ended (Set.mem_insert n b.down) (.inl rfl) (.inr hclient) hms' hout'⟩
  | ok r' =>
    have hsession : (routerTurn b n (liftRouter ⟨c.states n, []⟩ y)).sessions n = ⟨r', []⟩ := by
      simp only [routerTurn, liftRouter, hend, Except.map, Except.mapError, Function.update_self]
    have hstates : c'.states n = r' := by
      rw [hc', Network.states_after_of_ok hend, Function.update_self]
    refine ⟨.inr ⟨a, hgiven, rfl⟩, ?_, ?_⟩
    · rw [hc', Network.down_after_of_ok hend]
      exact hdown.trans (down_subset_routerTurn b n _)
    · rw [hsession, hstates, htoServer]
      cases hok : written.ending with
      | ok _ => exact .inr ⟨hn, .connected r' hclient hms' hout'⟩
      | error e =>
        -- the router has taken its turn, and ends when it writes a frame
        have hdown' : (routerTurn b n (liftRouter ⟨c.states n, []⟩ y)).down = insert n b.down := by
          simp only [routerTurn, liftRouter, hend, Except.map, Except.mapError, hs]
          rw [← hwritten, hok]
        rw [hdown']
        exact .inr ⟨hn, .ended (Set.mem_insert n b.down) (.inl rfl) (.inr hclient) hms' hout'⟩

/-- **A turn of a router that waits in vain** is none on its links. -/
theorem turned_of_idle (hdown : c.down ⊆ b.down) (hn : n ∈ b.refused)
    (hun : F.Unanswered b.server c.sent n (b.sessions n) (b.toRouter n) (b.toServer n)
      (c.states n)) (hms : ∀ m ∈ ms, F.Coming c.sent n m) (hx : Idle x) :
    F.Turned lt b c n ms x c where
  step := .inl rfl
  down := hdown.trans (down_subset_routerTurn b n x)
  placed := by
    obtain ⟨hexpected, hifList⟩ := session_routerTurn (b := b) (n := n)
      (P := fun s => s.expected = [] ∧ s.router.ifList = []) ⟨hun.connected, hun.ifList⟩ hx.2
    refine .inl ⟨hn, hun.client, hexpected, hifList, hms, ?_, hun.idle⟩
    show Function.update b.toServer n
      (b.toServer n ++ (writeOut (b.sessions n).router.ifList x.log).log) n = []
    rw [Function.update_self, hun.ifList, hx.1, hun.silent]
    rfl

/-! ### Every turn -/

/-- What a turn comes to, with the run of the routers on their links. -/
def Simulated (F : Fabric ν κ) (lt : LtProtocol) (b : Bridge ν) : Prop :=
  ∃ turns c, Cabling.RoutersRun F.cabling turns c ∧ F.Behind lt b c

theorem simulated_of_turned {turns : List (Cabling.RouterTurn ν)}
    (hrun : Cabling.RoutersRun F.cabling turns c) (h : F.Behind lt b c) (hup : n ∉ b.down)
    {c' : Network.Config ν RouterState Outgoing} (ht : F.Turned lt b c n ms x c') :
    F.Simulated lt (routerTurn { b with toRouter := Function.update b.toRouter n ms } n x) := by
  rcases ht.step with rfl | ⟨a, hgiven, rfl⟩
  · exact ⟨turns, _, hrun, h.turn ht⟩
  · exact ⟨_, _, hrun.tail (fun hmem => hup (h.down hmem)) hgiven, h.turn ht⟩

/-- **A router reads a message.** -/
theorem Behind.read {turns : List (Cabling.RouterTurn ν)}
    (hrun : Cabling.RoutersRun F.cabling turns c) (h : F.Behind lt b c) (hup : n ∉ b.down)
    (e : VnsEnv) {m : ServerMessage} (hm : b.toRouter n = m :: ms) :
    F.Simulated lt (routerTurn { b with toRouter := Function.update b.toRouter n ms } n
      (srReadCommand (F.config n) e (b.sessions n) (lt.send m))) := by
  have hports := ((Cabling.learns_of_run hrun).states n).2
  suffices hturned : ∃ c', F.Turned lt b c n ms
      (srReadCommand (F.config n) e (b.sessions n) (lt.send m)) c' by
    obtain ⟨c', ht⟩ := hturned
    exact simulated_of_turned hrun h hup ht
  rcases h.placed n with ⟨hn, hun⟩ | ⟨hn, hphase⟩
  · -- a frame comes to a router without interfaces
    have hcoming := hun.coming
    rw [hm] at hcoming
    obtain ⟨p, hp, frame, rfl, hlen, -⟩ := hcoming m List.mem_cons_self
    rw [srReadCommand_send (fits_packet hp hlen)]
    refine ⟨c, turned_of_idle h.down hn hun
      (fun m hm => hcoming m (List.mem_cons_of_mem _ hm)) ?_⟩
    rw [show b.sessions n = ⟨(b.sessions n).router, []⟩ by rw [← hun.connected]]
    exact idle_packet lt _ e hun.ifList p.name frame
  rw [hm] at hphase
  generalize hs : b.sessions n = s at hphase
  generalize hout : b.toServer n = out at hphase
  generalize hr : c.states n = r at hphase hports
  cases hphase with
  | asked routes hs' =>
    rw [srReadCommand_send (fits_authRequest F n)]
    refine ⟨c, ?_⟩
    -- without its key the router ends, and the server does not know it
    rcases messageStep_authRequest lt (F.config n) e (routerInit [] routes) (F.salt n) with
      hhalt | ⟨text, htext, hemit⟩
    · rw [hhalt]
      exact turned_halt_of_stranger h.down _ hn hs hr hs' hout
    · rw [hemit]
      refine turned_emit (.inl rfl) h.down (writeOut_message _ _) hn ?_
      rw [hout, hr]
      exact .replied routes htext hs'
  | accepted routes hs' =>
    rw [srReadCommand_send (fits_authStatus F n), messageStep_authStatus]
    refine ⟨c, ?_⟩
    by_cases hsends : e.sends = true
    · rw [if_pos hsends]
      refine turned_emit (.inl rfl) h.down (writeOut_message _ _) hn ?_
      rw [hout, hr]
      exact .opening routes hs'
    · rw [if_neg hsends]
      exact turned_halt_of_stranger h.down _ hn hs hr hs' hout
  | opened routes hclient hms =>
    rw [srReadCommand_send (fits_hardwareInfo F n), messageStep_hardwareInfo]
    refine ⟨c, turned_emit (.inl rfl) h.down (by rfl) hn ?_⟩
    rw [routerInit_interfaces, hout, hr]
    exact .connected _ hclient hms (by simp)
  | connected r hclient hms hgoing =>
    have hcoming := hms m List.mem_cons_self
    have hrest : ∀ m ∈ ms, F.Coming c.sent n m := fun m' hm' => hms m' (List.mem_cons_of_mem m hm')
    obtain ⟨p, hp, frame, rfl, hlen, hfrom⟩ := hcoming
    rw [srReadCommand_send (fits_packet hp hlen)]
    -- a frame that the filter drops is not a turn on the links, another one is
    rcases messageStep_packet (srGetInterface_ne_none hports hp) with hdrop | hkeep
    · rw [hdrop]
      refine ⟨c, turned_emit (.inl rfl) h.down (by rfl) hn ?_⟩
      rw [hout, hr, List.append_nil]
      exact .connected r hclient hrest hgoing
    · rw [hkeep]
      exact ⟨_, turned_liftRouter h.down hn hs hr hports hclient hrest (hout ▸ hgoing)
        (given_of_coming hp hfrom e.env)⟩
  | ended hdown _ _ _ _ => exact absurd hdown hup

/-- **A thread of a router takes a turn.** -/
theorem Behind.thread {turns : List (Cabling.RouterTurn ν)}
    (hrun : Cabling.RoutersRun F.cabling turns c) (h : F.Behind lt b c) (hup : n ∉ b.down)
    (t : ThreadTurn) (hown : F.cabling.Own n (b.sessions n).router t.1.2) :
    F.Simulated lt (routerTurn b n (vnsThreadStep (b.sessions n) t)) := by
  have hports := ((Cabling.learns_of_run hrun).states n).2
  suffices hturned : ∃ c', F.Turned lt b c n (b.toRouter n) (vnsThreadStep (b.sessions n) t) c' by
    obtain ⟨c', ht⟩ := hturned
    have hsim := simulated_of_turned hrun h hup ht
    rwa [Function.update_eq_self] at hsim
  rcases h.placed n with ⟨hn, hun⟩ | ⟨hn, hphase⟩
  · refine ⟨c, turned_of_idle h.down hn hun hun.coming ?_⟩
    rw [show b.sessions n = ⟨(b.sessions n).router, []⟩ by rw [← hun.connected]]
    exact idle_thread hun.ifList t
  generalize hs : b.sessions n = s at hphase hown
  generalize hin : b.toRouter n = ms at hphase
  generalize hout : b.toServer n = out at hphase
  generalize hr : c.states n = r at hphase hports
  by_cases hexpected : s.expected = []
  · -- a thread that puts routes in place does so on the links too
    have hidle : ∀ routes, s = ⟨routerInit [] routes, []⟩ →
        r = routerInit (F.cabling.ifList n) routes →
        (∀ routes' sent', c.sent ⊆ sent' → F.Phase lt b.server b.down sent' n
          ⟨routerInit [] routes', []⟩ ms out (routerInit (F.cabling.ifList n) routes')) →
        ∃ c', F.Turned lt b c n ms (vnsThreadStep s t) c' := by
      rintro routes rfl rfl hnext
      rw [vnsThreadStep, if_pos rfl]
      obtain ⟨⟨env, event⟩, hne⟩ := t
      rcases routerStep_idle env routes hne with ⟨routes', rfl, hstep⟩ | hstep
      · have hend : (F.cabling.routers.step (c.states n) (env, .routes routes')).ending =
            .ok (routerInit (F.cabling.ifList n) routes') := by
          rw [hr]
          rfl
        refine ⟨_, turned_emit (.inr ⟨(env, .routes routes'), .inl ?_, rfl⟩) ?_ (by rfl) hn ?_⟩
        · rw [hr]
          exact hown
        · rw [Network.down_after_of_ok hend]
          exact h.down
        · rw [Network.states_after_of_ok hend, Function.update_self, hout, List.append_nil]
          exact hnext routes' _ fun p hp => .inl hp
      · rw [hstep]
        refine ⟨c, turned_emit (.inl rfl) h.down (by rfl) hn ?_⟩
        rw [hout, List.append_nil, hr]
        exact hnext routes _ subset_rfl
    cases hphase with
    | asked routes _ => cases hexpected
    | replied routes _ _ => cases hexpected
    | accepted routes _ => cases hexpected
    | opening routes hs' => exact hidle routes rfl rfl fun routes' _ _ => .opening routes' hs'
    | opened routes hclient hms =>
      exact hidle routes rfl rfl fun routes' _ hsent =>
        .opened routes' hclient fun m hm => (hms m hm).mono hsent
    | connected r hclient hms hgoing =>
      rw [vnsThreadStep, if_pos rfl]
      obtain ⟨⟨env, event⟩, hne⟩ := t
      refine ⟨_, turned_liftRouter h.down hn hs hr hports hclient hms (hout ▸ hgoing)
        (a := (env, event)) (.inl ?_)⟩
      rw [hr]
      exact hown
    | ended hdown _ _ _ _ => exact absurd hdown hup
  · -- its threads have not been started
    rw [vnsThreadStep, if_neg hexpected]
    refine ⟨c, turned_emit (.inl rfl) h.down (by rfl) hn ?_⟩
    rw [hout, List.append_nil, hr]
    exact hphase

/-! ### Turns of the server -/

theorem behind_serverTurn (served : Handled ν) (refused : Set ν)
    (hplaced : ∀ m, F.Placed lt served.server b.down refused c.sent m (b.sessions m)
      ((F.serverTurn b served).toRouter m) (b.toServer m) (c.states m))
    (htold : ∀ m, F.Told served.server m)
    (hknows : ∀ m ∉ refused, F.Client served.server m →
      KnowsPorts served.server (F.vhost m) (F.info m))
    (hwire : ∀ w ∈ b.wire, ∃ p ∈ F.info w.switch, p.port = w.port ∧
      (w.switch, ⟨w.frame, nameOfBytes p.name⟩) ∈ c.sent)
    (hevents : ∀ event ∈ served.events, ∀ m, event.vhost = F.vhost m → ∃ p ∈ F.info m,
      p.port = event.port ∧ (m, ⟨event.pkt, nameOfBytes p.name⟩) ∈ c.sent)
    (hdown : c.down ⊆ b.down) :
    F.Behind lt { F.serverTurn b served with refused := refused } c where
  placed := hplaced
  told := htold
  knows := hknows
  wire := by
    rintro w (hw | ⟨event, hevent, hout⟩)
    · exact hwire w hw
    · unfold handleSrPacketOut at hout
      split_ifs at hout with hvhost
      obtain ⟨hport, hframe⟩ := Prod.mk.inj (Option.some_inj.mp hout)
      rw [← hport, ← hframe]
      exact hevents event hevent w.switch hvhost
  down := hdown

theorem toRouter_serverTurn_nil {served : Handled ν} (h : served.sends = []) (m : ν) :
    (F.serverTurn b served).toRouter m = b.toRouter m := by
  show b.toRouter m ++ served.sends.filterMap _ = _
  rw [h, List.filterMap_nil, List.append_nil]

theorem toRouter_serverTurn_self {served : Handled ν} {m : ServerMessage}
    (h : served.sends = [(n, m)]) :
    (F.serverTurn b served).toRouter n = b.toRouter n ++ [m] := by
  show b.toRouter n ++ served.sends.filterMap _ = _
  rw [h]
  simp

/-- A router is told nothing when the server sends to another one. -/
theorem toRouter_serverTurn_of_ne {served : Handled ν} (h : ∀ send ∈ served.sends, send.1 = n)
    {m : ν} (hne : m ≠ n) : (F.serverTurn b served).toRouter m = b.toRouter m := by
  have hnone : (served.sends.filterMap fun send => if send.1 = m then some send.2 else none) =
      [] := by
    refine List.filterMap_eq_nil_iff.mpr fun send hsend => if_neg ?_
    rw [h send hsend]
    exact hne.symm
  show b.toRouter m ++ served.sends.filterMap _ = _
  rw [hnone, List.append_nil]

/-- The routers after a turn of the server that is about one of them. -/
theorem Behind.placed_serverTurn (h : F.Behind lt b c) (served : Handled ν) (refused : Set ν)
    (rest : List (List UInt8)) (hsends : ∀ send ∈ served.sends, send.1 = n)
    (hsame : ∀ m, m ≠ n → served.server.srclients (F.vhost m) = b.server.srclients (F.vhost m) ∧
      served.server.srclientsReverse m = b.server.srclientsReverse m ∧
        (m ∈ refused ↔ m ∈ b.refused))
    (hnext : F.Placed lt served.server b.down refused c.sent n (b.sessions n)
      ((F.serverTurn b served).toRouter n) rest (c.states n)) (m : ν) :
    F.Placed lt served.server b.down refused c.sent m (b.sessions m)
      ((F.serverTurn b served).toRouter m) (Function.update b.toServer n rest m)
      (c.states m) := by
  by_cases hm : m = n
  · subst hm
    rw [Function.update_self]
    exact hnext
  · obtain ⟨hclients, hreverse, hrefused⟩ := hsame m hm
    rw [toRouter_serverTurn_of_ne hsends hm, Function.update_of_ne hm]
    exact (h.placed m).congr_server hclients hreverse hrefused

/-- The server accepts every reply. -/
theorem serve_reply (F : Fabric ν κ) (lt : LtProtocol) (server : SrServer ν) (n : ν)
    (key : List UInt8) : F.serve lt server n (F.reply lt n key) =
      ⟨server, [(n, .authStatus true (authenticated (F.connText n)))], [], false⟩ := by
  rw [Fabric.serve, clientMessage_reply]
  rfl

/-- The server, when it has read the name of the switch of a router. -/
def introduced (server : SrServer ν) (F : Fabric ν κ) (n : ν) : SrServer ν :=
  { server with
    srclients := Function.update server.srclients (F.vhost n) (some n)
    srclientsReverse := Function.update server.srclientsReverse n (some (F.vhost n)) }

theorem client_introduced (server : SrServer ν) (F : Fabric ν κ) (n : ν) :
    F.Client (introduced server F n) n :=
  ⟨Function.update_self _ _ _, Function.update_self _ _ _⟩

theorem introduced_of_ne (server : SrServer ν) (F : Fabric ν κ) {m : ν} (h : m ≠ n) :
    (introduced server F n).srclients (F.vhost m) = server.srclients (F.vhost m) ∧
      (introduced server F n).srclientsReverse m = server.srclientsReverse m :=
  ⟨Function.update_of_ne (F.vhost_injective.ne h) _ _, Function.update_of_ne h _ _⟩

theorem serve_openMessage_eq (F : Fabric ν κ) (lt : LtProtocol) (server : SrServer ν) (n : ν) :
    F.serve lt server n (openMessage (F.config n)) =
      match server.interfaces (F.vhost n) with
      | none => ⟨introduced server F n, [], [], true⟩
      | some interfaces => ⟨introduced server F n, [(n, .hardwareInfo interfaces)], [], false⟩ := by
  rw [Fabric.serve, clientMessage_openMessage]
  rfl

/-- The server tells a router its interfaces, and knows it from then on. -/
theorem serve_openMessage (h : KnowsPorts server (F.vhost n) (F.info n)) :
    F.serve lt server n (openMessage (F.config n)) =
      ⟨introduced server F n, [(n, .hardwareInfo (F.interfaces n))], [], false⟩ := by
  rw [serve_openMessage_eq, h.interfaces]
  rfl

/-- Before the switch has told of its ports, the server raises an exception. -/
theorem serve_openMessage_of_untold (h : Untold server (F.vhost n)) :
    F.serve lt server n (openMessage (F.config n)) =
      ⟨introduced server F n, [], [], true⟩ := by
  rw [serve_openMessage_eq, h.interfaces]

/-- The server tells the switch to send a frame. -/
theorem serve_packet (hclient : F.Client server n)
    (hknows : KnowsPorts server (F.vhost n) (F.info n)) {p : SwPort} (hp : p ∈ F.info n)
    {bytes : List UInt8} {frame : Frame}
    (hmsg : clientMessage lt bytes = some (.packet p.name frame)) :
    F.serve lt server n bytes = ⟨server, [], [⟨frame, p.port, F.vhost n⟩], false⟩ := by
  have hport : server.portOf (F.vhost n) p.name = some p.port := by
    rw [hknows.portOf, portNamed, (Keyed.find?_eq_some (F.distinct n).1).mpr ⟨hp, rfl⟩,
      Option.map_some]
  rw [Fabric.serve, hmsg, handleRecvMsg, handlePacketMsg, hclient.2]
  dsimp only
  rw [hport]

omit [DecidableEq ν] in
/-- An exception for another router. -/
theorem mem_refused_of_ne {m : ν} (h : m ≠ n) (raises : Bool) (refused : Set ν) :
    m ∈ (if raises then insert n refused else refused) ↔ m ∈ refused := by
  split_ifs
  · rw [Set.mem_insert_iff, or_iff_right h]
  · exact Iff.rfl

/-- A turn of the server that reads a message of a router and does not change what it knows. -/
theorem Behind.serveTurn_of_same (h : F.Behind lt b c) {sends : List (ν × ServerMessage)}
    {events : List SrPacketOut} {rest : List (List UInt8)} (hn : n ∉ b.refused)
    (hsends : ∀ send ∈ sends, send.1 = n)
    (hevents : ∀ event ∈ events, ∀ m, event.vhost = F.vhost m → ∃ p ∈ F.info m,
      p.port = event.port ∧ (m, ⟨event.pkt, nameOfBytes p.name⟩) ∈ c.sent)
    (hnext : F.Phase lt b.server b.down c.sent n (b.sessions n)
      ((F.serverTurn b ⟨b.server, sends, events, false⟩).toRouter n) rest (c.states n)) :
    F.Behind lt (F.serveTurn b n rest ⟨b.server, sends, events, false⟩) c :=
  behind_serverTurn ⟨b.server, sends, events, false⟩ b.refused
    (h.placed_serverTurn ⟨b.server, sends, events, false⟩ b.refused rest hsends
      (fun _ _ => ⟨rfl, rfl, Iff.rfl⟩) (.inr ⟨hn, hnext⟩))
    h.told h.knows h.wire hevents h.down

/-- A turn of the server in which it gets to know a router. -/
theorem Behind.serveTurn_of_introduced (h : F.Behind lt b c) {sends : List (ν × ServerMessage)}
    {raises : Bool} {rest : List (List UInt8)} (hsends : ∀ send ∈ sends, send.1 = n)
    (hknows : raises = false → KnowsPorts b.server (F.vhost n) (F.info n))
    (hnext : F.Placed lt (introduced b.server F n) b.down
      (F.serveTurn b n rest ⟨introduced b.server F n, sends, [], raises⟩).refused c.sent n
      (b.sessions n) ((F.serverTurn b ⟨introduced b.server F n, sends, [], raises⟩).toRouter n)
      rest (c.states n)) :
    F.Behind lt (F.serveTurn b n rest ⟨introduced b.server F n, sends, [], raises⟩) c := by
  have hports : ∀ m, KnowsPorts b.server (F.vhost m) (F.info m) →
      KnowsPorts (introduced b.server F n) (F.vhost m) (F.info m) :=
    fun m hk => hk.congr rfl rfl rfl
  refine behind_serverTurn _ _ (h.placed_serverTurn _ _ rest hsends (fun m hm =>
    ⟨(introduced_of_ne b.server F hm).1, (introduced_of_ne b.server F hm).2,
      mem_refused_of_ne hm raises b.refused⟩) hnext)
    (fun m => (h.told m).imp (fun hu => hu.congr rfl rfl rfl) (hports m)) ?_ h.wire (by simp) h.down
  intro m hm hclient
  by_cases hmn : m = n
  · subst hmn
    refine hports m (hknows (Bool.eq_false_iff.mpr fun hraises => hm ?_))
    show m ∈ if raises then insert m b.refused else b.refused
    rw [if_pos hraises]
    exact Set.mem_insert m b.refused
  · obtain ⟨hclients, hreverse⟩ := introduced_of_ne b.server F hmn
    exact hports m (h.knows m (mt (mem_refused_of_ne hmn raises b.refused).mpr hm)
      ⟨hclients.symm.trans hclient.1, hreverse.symm.trans hclient.2⟩)

/-- **The server reads a message of a router.** -/
theorem Behind.serve (h : F.Behind lt b c) {bytes : List UInt8} {rest : List (List UInt8)}
    (hb : b.toServer n = bytes :: rest) :
    F.Behind lt (F.serveTurn b n rest (F.serve lt b.server n bytes)) c := by
  rcases h.placed n with ⟨hn, hun⟩ | ⟨hn, hphase⟩
  · -- a router that waits in vain has sent nothing
    have hnil := hun.silent
    rw [hb] at hnil
    cases hnil
  rw [hb] at hphase
  generalize hs : b.sessions n = s at hphase
  generalize hin : b.toRouter n = ms at hphase
  generalize hr : c.states n = r at hphase
  -- a message with a frame
  have hpacket : F.Client b.server n → F.Going lt c.sent n bytes →
      F.Phase lt b.server b.down c.sent n s ms rest r →
      F.Behind lt (F.serveTurn b n rest (F.serve lt b.server n bytes)) c := by
    intro hclient hgoing hnext
    obtain ⟨p, hp, frame, hsent, hmsg⟩ := clientMessage_of_going hgoing
    rw [serve_packet hclient (h.knows n hn hclient) hp hmsg]
    refine h.serveTurn_of_same hn (by simp) ?_ ?_
    · intro event hevent m hvhost
      obtain rfl := List.mem_singleton.mp hevent
      obtain rfl := F.vhost_injective hvhost
      exact ⟨p, hp, rfl, hsent⟩
    · rw [toRouter_serverTurn_nil rfl, hs, hin, hr]
      exact hnext
  -- only in these phases is there something to read
  cases hphase with
  | replied routes htext hs' =>
    rw [serve_reply]
    refine h.serveTurn_of_same hn (by simp) (by simp) ?_
    rw [toRouter_serverTurn_self rfl, hs, hin, hr]
    exact .accepted routes hs'
  | opening routes hs' =>
    -- the router gets its interfaces, or no answer
    rcases h.told n with huntold | hknows
    · rw [serve_openMessage_of_untold huntold]
      refine h.serveTurn_of_introduced (by simp) (fun hraises => by cases hraises) ?_
      rw [toRouter_serverTurn_nil rfl, hs, hin, hr]
      exact .inl ⟨Set.mem_insert n b.refused, client_introduced b.server F n, rfl, rfl, by simp,
        rfl, routes, rfl⟩
    · rw [serve_openMessage hknows]
      refine h.serveTurn_of_introduced (by simp) (fun _ => hknows) ?_
      rw [toRouter_serverTurn_self rfl, hs, hin, hr]
      exact .inr ⟨hn, .opened routes (client_introduced b.server F n) (by simp)⟩
  | connected r hclient hms hgoing =>
    exact hpacket hclient (hgoing bytes List.mem_cons_self)
      (.connected r hclient hms fun b hb => hgoing b (List.mem_cons_of_mem bytes hb))
  | ended hdown hshows hknown hms hgoing =>
    rcases hknown with ⟨-, hnil⟩ | hclient
    · cases hnil
    · exact hpacket hclient (hgoing bytes List.mem_cons_self)
        (.ended hdown hshows (.inr hclient) hms
          fun b hb => hgoing b (List.mem_cons_of_mem bytes hb))

omit [DecidableEq ν] in
/-- The server passes on a frame that arrives at a port. -/
theorem handleSrPacketIn_of_client (hclient : F.Client server n)
    (hknows : KnowsPorts server (F.vhost n) (F.info n)) {p : SwPort} (hp : p ∈ F.info n)
    (frame : Frame) :
    handleSrPacketIn (F.vhost n) p.port frame server =
      ⟨server, [(n, .packet p.name frame)], [], false⟩ := by
  have hname : server.nameOf (F.vhost n) p.port = some p.name := by
    rw [hknows.nameOf, portNumbered, (Keyed.find?_eq_some (F.distinct n).2).mpr ⟨hp, rfl⟩,
      Option.map_some]
  rw [handleSrPacketIn, hname]
  dsimp only
  rw [hclient.1]

/-- **A frame arrives at a port.** -/
theorem Behind.packetIn (h : F.Behind lt b c) {port : ℕ} {frame : Frame}
    (hlen : frame.length ≤ F.maxFrame)
    (hfrom : F.hosts (F.link n port) frame ∨ ∃ w ∈ b.wire, w.frame = frame ∧
      F.link w.switch w.port = F.link n port ∧ (w.switch, w.port) ≠ (n, port)) :
    F.Behind lt (F.serverTurn b (handleSrPacketIn (F.vhost n) port frame b.server)) c := by
  -- nothing changes where no message is sent
  have hnothing : ∀ raises,
      handleSrPacketIn (F.vhost n) port frame b.server = ⟨b.server, [], [], raises⟩ →
      F.Behind lt (F.serverTurn b (handleSrPacketIn (F.vhost n) port frame b.server)) c := by
    intro raises hserved
    rw [hserved]
    refine behind_serverTurn ⟨b.server, [], [], raises⟩ b.refused (fun m => ?_) h.told h.knows
      h.wire (by simp) h.down
    rw [toRouter_serverTurn_nil rfl]
    exact h.placed m
  rcases h.told n with huntold | hknows
  · refine hnothing false ?_
    rw [handleSrPacketIn, huntold.nameOf]
  cases hfind : portNumbered (F.info n) port with
  | none =>
    refine hnothing false ?_
    rw [handleSrPacketIn, hknows.nameOf, hfind]
    rfl
  | some p =>
    obtain ⟨hp, rfl⟩ := (Keyed.find?_eq_some (F.distinct n).2).mp hfind
    have hname : b.server.nameOf (F.vhost n) p.port = some p.name := by
      rw [hknows.nameOf, hfind, Option.map_some]
    -- on the links the frame arrives at the interface of the port
    have hcoming : F.Coming c.sent n (.packet p.name frame) := by
      refine ⟨p, hp, frame, rfl, hlen, hfrom.imp_right ?_⟩
      rintro ⟨w, hw, rfl, hlink, hne⟩
      obtain ⟨p', hp', hport, hsent⟩ := h.wire w hw
      obtain ⟨q, hq, hqname⟩ := exists_port_of_mem_info hp
      refine ⟨_, hsent, q, hq, by rw [hqname], ?_, ?_⟩
      · rw [hqname, cabling_link hp, cabling_link hp', hport]
        exact hlink
      · rw [hqname]
        rintro heq
        obtain ⟨hswitch, hnames⟩ := Prod.mk.inj heq
        have hsame := nameOfBytes_injective hnames
        change w.switch = n at hswitch
        rw [hswitch] at hp'
        obtain rfl := List.inj_on_of_nodup_map (F.distinct n).1 hp' hp hsame
        exact hne (by rw [hswitch, hport])
    -- for a switch whose router is not known yet, the server raises an exception
    have hstranger : F.Stranger b.server n →
        F.Behind lt (F.serverTurn b (handleSrPacketIn (F.vhost n) p.port frame b.server)) c := by
      intro hs'
      refine hnothing true ?_
      rw [handleSrPacketIn, hname]
      dsimp only
      rw [hs'.1]
    have hclient : F.Client b.server n →
        F.Placed lt b.server b.down b.refused c.sent n (b.sessions n)
          (b.toRouter n ++ [.packet p.name frame]) (b.toServer n) (c.states n) →
        F.Behind lt (F.serverTurn b (handleSrPacketIn (F.vhost n) p.port frame b.server)) c := by
      intro hclient hnext
      rw [handleSrPacketIn_of_client hclient hknows hp]
      have hplaced := h.placed_serverTurn (n := n)
        ⟨b.server, [(n, .packet p.name frame)], [], false⟩ b.refused (b.toServer n) (by simp)
        (fun m _ => ⟨rfl, rfl, Iff.rfl⟩) (by
          rw [toRouter_serverTurn_self rfl]
          exact hnext)
      rw [Function.update_eq_self] at hplaced
      exact behind_serverTurn _ b.refused hplaced h.told h.knows h.wire (by simp) h.down
    have hmore : ∀ {ms : List ServerMessage}, (∀ m ∈ ms, F.Coming c.sent n m) →
        ∀ m ∈ ms ++ [.packet p.name frame], F.Coming c.sent n m := by
      intro ms hms m hm
      rcases List.mem_append.mp hm with hm | hm
      · exact hms m hm
      · obtain rfl := List.mem_singleton.mp hm
        exact hcoming
    rcases h.placed n with ⟨hn, hun⟩ | ⟨hn, hphase⟩
    · exact hclient hun.client (.inl ⟨hn, { hun with coming := hmore hun.coming }⟩)
    generalize hs : b.sessions n = s at hphase hclient
    generalize hin : b.toRouter n = ms at hphase hclient
    generalize hout : b.toServer n = out at hphase hclient
    generalize hr : c.states n = r at hphase hclient
    cases hphase with
    | asked routes hs' => exact hstranger hs'
    | replied routes _ hs' => exact hstranger hs'
    | accepted routes hs' => exact hstranger hs'
    | opening routes hs' => exact hstranger hs'
    | opened routes hc hms => exact hclient hc (.inr ⟨hn, .opened routes hc (hmore hms)⟩)
    | connected r hc hms hgoing =>
      exact hclient hc (.inr ⟨hn, .connected r hc (hmore hms) hgoing⟩)
    | ended hdown hshows hknown hms hgoing =>
      rcases hknown with ⟨hs', -⟩ | hc
      · exact hstranger hs'
      · exact hclient hc (.inr ⟨hn, .ended hdown hshows (.inr hc) (hmore hms) hgoing⟩)

/-- **A switch tells of its ports**, for the first time or once more. -/
theorem Behind.routerInfo (h : F.Behind lt b c) (n : ν) :
    F.Behind lt { b with server := handleRouterInfo (F.vhost n) (F.info n) b.server } c where
  placed m := (h.placed m).congr_server (by simp) (by simp) Iff.rfl
  told m := told_handleRouterInfo n (h.told m)
  knows m hm hclient := knowsPorts_of_told n (h.knows m hm (by simpa [Client] using hclient))
  wire := h.wire
  down := h.down

/-- **A turn of any part** is one of the routers on their links, or none. -/
theorem Behind.step {turns : List (Cabling.RouterTurn ν)}
    (hrun : Cabling.RoutersRun F.cabling turns c) (h : F.Behind lt b c) {b' : Bridge ν}
    (hstep : F.Step lt b b') : F.Simulated lt b' := by
  cases hstep with
  | read n e hup hm => exact h.read hrun hup e hm
  | thread n t hup hown => exact h.thread hrun hup t hown
  | serve n hb => exact ⟨turns, c, hrun, h.serve hb⟩
  | fromHost n port hlen hhost => exact ⟨turns, c, hrun, h.packetIn hlen (.inl hhost)⟩
  | fromWire n port hw hlen hlink hne =>
    exact ⟨turns, c, hrun, h.packetIn hlen (.inr ⟨_, hw, rfl, hlink, hne⟩)⟩
  | routerInfo n => exact ⟨turns, c, hrun, h.routerInfo n⟩

omit [DecidableEq ν] in
theorem behind_start (F : Fabric ν κ) (lt : LtProtocol) : F.Behind lt F.start F.cabling.start where
  placed n := .inr ⟨Set.notMem_empty n, .asked (F.staticRoutes n) ⟨rfl, rfl⟩⟩
  told := told_init
  knows n _ hclient := by cases hclient.1
  wire _ hw := absurd hw id
  down := subset_rfl

/-- Every run is one of the routers on their links. -/
theorem simulated_of_runs (h : F.Runs lt b) : F.Simulated lt b := by
  induction h with
  | refl => exact ⟨[], _, .refl, behind_start F lt⟩
  | tail _ hstep ih =>
    obtain ⟨turns, c, hrun, hbehind⟩ := ih
    exact hbehind.step hrun hstep

end Fabric

end Redes
