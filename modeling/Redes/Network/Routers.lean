import Redes.Dijkstra.BaseRoutes
import Redes.Lib.Network
import Redes.Network.Bears

/-!
# Routers on links

Routers whose interfaces are connected to links, with hosts on them.  A frame that a router
sends through an interface reaches, at any later time, once, more than once or not at all, the
interfaces on the same link.  The events of all routers come in any order, and a router that
fails is down.

What a router knows is true in the light of the turns that were taken: an ARP mapping is one
that a station on one of its links has, a neighbour is a router on the link of the interface, and
what it has put aside of an LSU is what some router said.

## Main definitions

* `Cabling` — the routers, their links, and what the hosts do.
* `Cabling.routers` — the network.
* `Cabling.Opposite` — the ports on the same link.
* `Cabling.facts` — what is true in the light of the turns.
* `Cabling.Learns` — the law.

## Main results

* `learns_of_run` — the law holds in every run.
* `neighbors_opposite` — a neighbour is a router on the link of its interface.
* `arpEntries_onLinks` — an ARP mapping is that of a station on a link of the router.
-/

namespace Redes

open Bytes Logged

/-! ### Routers and links -/

/-- How the routers are connected, how they start, and what the hosts do. -/
structure Cabling (ν κ : Type*) where
  /-- The interfaces of a router. -/
  ifList : ν → List SrIf
  /-- Its static routes. -/
  staticRoutes : ν → List SrRt
  /-- The link that an interface is connected to. -/
  link : ν → IfName → κ
  /-- The frames that hosts may send on a link. -/
  hosts : κ → Frame → Prop
  /-- No neighbour is known at first. -/
  no_neighbors : ∀ n, ∀ i ∈ ifList n, i.neighborId = 0
  /-- Hosts send no OSPF packets. -/
  hosts_ospf : ∀ k f, hosts k f → etherType f = htons ethertypeIp → ipP f ≠ ipProtocolOspfv2

namespace Cabling

variable {ν κ : Type*} (c : Cabling ν κ)

/-- What a router does by itself, and receives from hosts: another routing table is what
`run_dijkstra` makes of the present one, for some topology. -/
def Own (n : ν) (s : RouterState) : RouterEvent → Prop
  | .receive packet interface => ∃ p ∈ ports (c.ifList n), p.name = interface ∧
      c.hosts (c.link n interface) packet
  | .routes routingTable => ∃ ifList topology routerId,
      Returns ifList topology routerId s.routingTable routingTable
  | _ => True

/-- A frame arrives at the other interfaces on the link it was sent on. -/
def Arrives (m : ν) (out : Outgoing) (n : ν) (e : RouterEvent) : Prop :=
  ∃ p ∈ ports (c.ifList n), e = .receive out.frame p.name ∧
    c.link m out.iface = c.link n p.name ∧ (m, out.iface) ≠ (n, p.name)

/-- The routers on their links. -/
def routers : Network ν RouterState (Env × RouterEvent) Outgoing Halt where
  step := fun s a => routerStep a.1 s a.2
  own := fun n s a => c.Own n s a.2
  arrives := fun m out n a => c.Arrives m out n a.2

instance [DecidableEq ν] [DecidableEq κ] (m : ν) (out : Outgoing) (n : ν)
    (a : Env × RouterEvent) : Decidable (c.routers.arrives m out n a) :=
  inferInstanceAs (Decidable (∃ p ∈ ports (c.ifList n), a.2 = .receive out.frame p.name ∧
    c.link m out.iface = c.link n p.name ∧ (m, out.iface) ≠ (n, p.name)))

/-- The routers as `sr_init` leaves them. -/
def start : Network.Config ν RouterState Outgoing :=
  .start fun n => routerInit (c.ifList n) (c.staticRoutes n)

/-- A turn of a router. -/
abbrev RouterTurn (ν : Type*) := Network.Turn ν RouterState (Env × RouterEvent)

/-! ### What is true -/

/-- The port of a router that is on the link of an interface, and is not this interface. -/
def Opposite (n : ν) (interface : IfName) (m : ν) (p : Port) : Prop :=
  p ∈ ports (c.ifList m) ∧ c.link m p.name = c.link n interface ∧ (m, p.name) ≠ (n, interface)

instance [DecidableEq ν] [DecidableEq κ] (n : ν) (interface : IfName) (m : ν) (p : Port) :
    Decidable (c.Opposite n interface m p) :=
  inferInstanceAs (Decidable (_ ∧ _ ∧ _ ≠ _))

/-- A router has taken a turn under this router id. -/
def HasId (turns : List (RouterTurn ν)) (m : ν) (routerId : IpAddr) : Prop :=
  ∃ turn ∈ turns, turn.machine = m ∧ turn.state.routerId = routerId

/-- A router has said this in one of the turns. -/
def WasSaid (turns : List (RouterTurn ν)) (words : Said) : Prop :=
  ∃ turn ∈ turns, ∃ s₁, Announces turn.state turn.input.2 s₁ ∧ Originates s₁ words

/-- A station on the link of an interface has this mapping: another interface there, of any router,
or a host that says so. -/
def StationOn (n : ν) (interface : IfName) (ip : IpAddr) (mac : Mac) : Prop :=
  (∃ m p, c.Opposite n interface m p ∧ p.ip = ip ∧ p.addr = mac) ∨
    ∃ f, c.hosts (c.link n interface) f ∧ etherType f = htons ethertypeArp ∧ arSip f = ip ∧
      arSha f = mac

/-- What is true for a router, in the light of the turns. -/
def facts (turns : List (RouterTurn ν)) (n : ν) : Facts where
  told := WasSaid turns
  bound := fun ip mac => ∃ p ∈ ports (c.ifList n), c.StationOn n p.name ip mac
  near := fun interface heard => ∃ m p, c.Opposite n interface m p ∧
    HasId turns m heard.neighborId ∧ p.ip = heard.neighborIp

variable {c}

theorem HasId.cons {turns : List (RouterTurn ν)} {m : ν} {routerId : IpAddr}
    (h : HasId turns m routerId) (turn : RouterTurn ν) : HasId (turn :: turns) m routerId := by
  obtain ⟨t, ht, hid⟩ := h
  exact ⟨t, List.mem_cons_of_mem turn ht, hid⟩

theorem WasSaid.cons {turns : List (RouterTurn ν)} {words : Said} (h : WasSaid turns words)
    (turn : RouterTurn ν) : WasSaid (turn :: turns) words := by
  obtain ⟨t, ht, hsaid⟩ := h
  exact ⟨t, List.mem_cons_of_mem turn ht, hsaid⟩

/-- More turns make more true. -/
theorem facts_le (turns : List (RouterTurn ν)) (turn : RouterTurn ν) (n : ν) :
    (c.facts turns n).Le (c.facts (turn :: turns) n) where
  told := fun _ h => h.cons turn
  bound := fun _ _ h => h
  near := fun _ _ ⟨m, p, hopp, hid, hip⟩ => ⟨m, p, hopp, hid.cons turn, hip⟩

variable (c) in
/-- The law of what routers know and send. -/
def Learns : Network.Law ν RouterState (Env × RouterEvent) Outgoing where
  state := fun turns n s => Bears (c.facts turns n) s ∧ ports s.ifList = ports (c.ifList n)
  sends := fun turns n out =>
    ∃ routerId, HasId turns n routerId ∧ Emits (c.facts turns n) (ports (c.ifList n)) routerId out
  state_cons := fun turn h => ⟨h.1.mono (facts_le _ turn _), h.2⟩
  sends_cons := fun turn ⟨routerId, hid, hout⟩ =>
    ⟨routerId, hid.cons turn, hout.mono (facts_le _ turn _)⟩

/-! ### The law -/

section Hears

variable {turns : List (RouterTurn ν)} {n : ν} {p : Port}

/-- What hosts send is true. -/
theorem hears_of_hosts {packet : Frame} (hp : p ∈ ports (c.ifList n))
    (h : c.hosts (c.link n p.name) packet) : Hears (c.facts turns n) p.name packet where
  arp := fun htype => ⟨p, hp, .inr ⟨packet, h, htype, rfl, rfl⟩⟩
  hello := fun hip hospf => absurd hospf (c.hosts_ospf _ _ h hip)
  lsu := fun hip hospf => absurd hospf (c.hosts_ospf _ _ h hip)

/-- **What routers send under the law is true where it arrives.** -/
theorem hears_of_arrives {m : ν} {out : Outgoing} (hp : p ∈ ports (c.ifList n))
    (hout : c.Learns.sends turns m out) (hlink : c.link m out.iface = c.link n p.name)
    (hne : (m, out.iface) ≠ (n, p.name)) : Hears (c.facts turns n) p.name out.frame := by
  obtain ⟨routerId, hid, hemits⟩ := hout
  have hother : ospfTypeLsu ≠ ospfTypeHello := by decide
  constructor
  · intro htype
    obtain ⟨q, hq, hiface, hsip, hsha⟩ := hemits.arp htype
    rw [hiface] at hlink hne
    exact ⟨p, hp, .inl ⟨m, q, ⟨hq, hlink, hne⟩, hsip.symm, hsha.symm⟩⟩
  · intro hip hospf htype
    obtain ⟨q, hq, hiface, hrid, hsrc⟩ := hemits.hello hip hospf htype
    rw [hiface] at hlink hne
    exact ⟨m, q, ⟨hq, hlink, hne⟩, hrid ▸ hid, hsrc.symm⟩
  · intro hip hospf htype
    exact (hemits.lsu hip hospf (ne_of_eq_of_ne htype hother)).2.1

/-- **What a router is given under the law is true.** -/
theorem hears_of_given {config : Network.Config ν RouterState Outgoing}
    (hlaw : c.Learns.Holds turns config) {env : Env} {packet : Frame} {interface : IfName}
    (hgiven : c.routers.Given config n (env, .receive packet interface)) :
    Hears (c.facts turns n) interface packet := by
  rcases hgiven with ⟨p, hp, rfl, hhosts⟩ | ⟨m, out, hsent, p, hp, ha, hlink, hne⟩
  · exact hears_of_hosts hp hhosts
  · cases ha
    exact hears_of_arrives hp (hlaw.sent _ hsent) hlink hne

end Hears

variable [DecidableEq ν]

/-- A run of the routers from their start. -/
abbrev RoutersRun (c : Cabling ν κ) (turns : List (RouterTurn ν))
    (config : Network.Config ν RouterState Outgoing) : Prop :=
  c.routers.Run c.start turns config

/-- **The law holds in every run.** -/
theorem learns_of_run {turns : List (RouterTurn ν)}
    {config : Network.Config ν RouterState Outgoing} (h : RoutersRun c turns config) :
    c.Learns.Holds turns config := by
  apply Network.Run.law h
  · exact ⟨fun n => ⟨bears_init _ _ (c.no_neighbors n), rfl⟩, fun p hp => absurd hp id⟩
  · intro turns config n a _ hlaw hgiven
    obtain ⟨hbears, hports⟩ := hlaw.states n
    set turn : RouterTurn ν := ⟨n, config.states n, a⟩ with hturn
    have hle := facts_le (c := c) turns turn n
    have hhears : ∀ packet interface, a.2 = .receive packet interface →
        Hears (c.facts turns n) interface packet := by
      intro packet interface ha
      obtain ⟨env, e⟩ := a
      cases ha
      exact hears_of_given hlaw hgiven
    -- what the router says itself is among the facts, since its own turn is
    have hsafe : StepTrue (c.facts (turn :: turns) n) (config.states n)
        (routerStep a.1 (config.states n) a.2) := routerStep_emits (hbears.mono hle)
      (fun packet interface ha => (hhears packet interface ha).mono hle)
      fun s₁ words hann horig => ⟨turn, List.mem_cons_self, s₁, hann, horig⟩
    refine ⟨?_, ?_⟩
    · intro out hout
      have hemits := hsafe.1 out hout
      rw [hports] at hemits
      exact ⟨(config.states n).routerId, ⟨turn, List.mem_cons_self, rfl, rfl⟩, hemits⟩
    · intro s hs
      exact ⟨hsafe.2 s hs, (stepped_routerStep hs).ports_eq.trans hports⟩

/-- **A router keeps its id.** -/
theorem routerId_of_run {turns : List (RouterTurn ν)}
    {config : Network.Config ν RouterState Outgoing} (h : RoutersRun c turns config) {m : ν}
    {routerId : IpAddr} (hid : HasId turns m routerId) (hne : routerId ≠ 0) :
    (config.states m).routerId = routerId := by
  obtain ⟨turn, hturn, rfl, rfl⟩ := hid
  -- the id was kept by every step since the turn in which the router had it
  have hsince := Network.Run.since (R := fun s t : RouterState =>
    s.routerId ≠ 0 → t.routerId = s.routerId) (fun _ _ => rfl)
    (fun hst htu hs => (htu (by rwa [hst hs])).trans (hst hs))
    (fun hstep hs => (stepped_routerStep hstep).routerId_eq hs) h
  exact hsince.2 turn hturn hne

/-! ### Neighbours and mappings -/

/-- **A neighbour is a router on the link of its interface**: in every run, with its router id,
and the address that it has there. -/
theorem neighbors_opposite {turns : List (RouterTurn ν)}
    {config : Network.Config ν RouterState Outgoing} (h : RoutersRun c turns config) (n : ν)
    {i : SrIf} (hi : i ∈ (config.states n).ifList) (hid : i.neighborId ≠ 0) :
    ∃ m p, c.Opposite n i.name m p ∧ p.ip = i.neighborIp ∧
      (config.states m).routerId = i.neighborId := by
  obtain ⟨hbears, -⟩ := (learns_of_run h).states n
  obtain ⟨m, p, hopp, hhas, hip⟩ := hbears.neighbors i hi hid
  exact ⟨m, p, hopp, hip, routerId_of_run h hhas hid⟩

/-- **An ARP mapping is that of a station on a link of the router**, in every run: another
interface on the link, or what a host on it says of itself. -/
theorem arpEntries_onLinks {turns : List (RouterTurn ν)}
    {config : Network.Config ν RouterState Outgoing} (h : RoutersRun c turns config) (n : ν)
    {e : ArpEntry} (he : e ∈ (config.states n).arp.entries) (hvalid : e.valid = true) :
    ∃ p ∈ ports (c.ifList n), c.StationOn n p.name e.ip e.mac :=
  ((learns_of_run h).states n).1.arp.entries e he hvalid

/-! ### Two routers, for examples -/

/-- The interface of the first or the second router, 10.0.1.1 or 10.0.1.2. -/
def sharedIf (k : Fin 2) : SrIf where
  name := "eth1".toList
  addr := ⟨[0, 0, 0, 0, 0, if k = 0 then 1 else 2], rfl⟩
  ip := if k = 0 then 0x0101000a else 0x0201000a
  mask := 0x00ffffff
  helloint := 0
  neighborId := 0
  neighborIp := 0

/-- The first router. -/
def firstRouter : Fin 2 := 0

/-- The second router. -/
def secondRouter : Fin 2 := 1

/-- Two routers on one link. -/
def twoRouters : Cabling (Fin 2) Unit where
  ifList := fun k => [sharedIf k]
  staticRoutes := fun _ => []
  link := fun _ _ => ()
  hosts := fun _ _ => False
  no_neighbors := by decide
  hosts_ospf := fun _ _ h => absurd h id

/-- What one of them receives. -/
def received (frame : Frame) : Env × RouterEvent := (quietEnv, .receive frame "eth1".toList)

/-- The HELLO of one of them. -/
def helloOf (k : Fin 2) : Frame := helloFrame (fun _ => 0) (sharedIf k).ip (sharedIf k) 0

/-- The first router hears of the second one, and asks for its hardware address, which tells the
second one that of the first. -/
def firstHears : Network.Play (Fin 2) RouterState (Env × RouterEvent) Outgoing :=
  let turn := Network.Play.turn twoRouters.routers
  let p := turn ⟨[], twoRouters.start.states, []⟩ firstRouter (quietEnv, .run)
  let p := turn p secondRouter (quietEnv, .run)
  let p := turn p secondRouter (quietEnv, .hellos)
  let p := turn p firstRouter (received (helloOf secondRouter))
  turn p secondRouter
    (received (arpRequestFrame (sharedIf firstRouter) (sharedIf secondRouter).ip))

theorem firstHears_reaches : twoRouters.routers.Reaches twoRouters.start firstHears := by
  refine .turn (.turn (.turn (.turn (.turn (Network.reaches_start _ _) _ _ ?_ ?_) _ _ ?_ ?_)
    _ _ ?_ ?_) _ _ ?_ ?_) _ _ ?_ ?_
  all_goals first | exact .inl trivial | exact .inr (by decide +kernel) | decide +kernel

theorem neighbors_opposite_firstHears : ∃ i ∈ (firstHears.states 0).ifList,
    i.neighborId ≠ 0 ∧ ∃ m p, twoRouters.Opposite 0 i.name m p ∧ p.ip = i.neighborIp ∧
      (firstHears.states m).routerId = i.neighborId := by
  have hheard : ∃ i ∈ (firstHears.states 0).ifList, i.neighborId ≠ 0 := by decide +kernel
  obtain ⟨config, hrun, hstates, -, -⟩ := firstHears_reaches
  obtain ⟨i, hi, hid⟩ := hheard
  rw [← hstates] at hi ⊢
  exact ⟨i, hi, hid, neighbors_opposite hrun 0 hi hid⟩

theorem arpEntries_onLinks_firstHears : ∃ e ∈ (firstHears.states 1).arp.entries,
    e.valid = true ∧ ∃ p ∈ ports (twoRouters.ifList 1),
      twoRouters.StationOn 1 p.name e.ip e.mac := by
  have hvalid : ∃ e ∈ (firstHears.states 1).arp.entries, e.valid = true := by decide +kernel
  obtain ⟨config, hrun, hstates, -, -⟩ := firstHears_reaches
  obtain ⟨e, he, hvalid⟩ := hvalid
  rw [← hstates] at he ⊢
  exact ⟨e, he, hvalid, arpEntries_onLinks hrun 1 he hvalid⟩

end Cabling

end Redes
