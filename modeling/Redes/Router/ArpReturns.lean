import Redes.Router.ArpCount

/-!
# The requests, whatever the clock says

Calls of `sr_arpcache_queuereq`, `handle_arpreq`, `sr_arpcache_sweepreqs`,
`sr_arpcache_insert` and `sr_arpreq_destroy` in any order.  Each call of `handle_arpreq`,
also one that an ICMP error of another call leads to, reads the clock twice, and the two
readings may be any numbers.  A request that `sr_arpcache_insert` returned is on the queue no
more, but can still be handled until it is destroyed.

## Main definitions

* `ArpActivity`, `ArpReturns` — the calls, and how they return.
* `LooseReturns` — `handle_arpreq` on a request that is on the queue no more.
* `SameInterfaces`, `RequestRun` — runs of calls that return, of a router that keeps its
  interfaces.
* `Gone` — there was a request at an address, which is not on the queue.

## Main results

* `handleArpreq_arpReturns`, `sweepreqsLoop_arpReturns` — the calls with one reading of the clock
  are such calls.
* `timesCounted_of_returns`, `roundsSent_of_returns` — a call keeps the count, and sends whole
  rounds.
* `requests_of_run` — one request for an IP, which counts the rounds that were sent for it.
-/

namespace Redes

open Bytes Fuel

/-! ### Calls that return -/

/-- What is under way. -/
inductive ArpActivity
  /-- `handle_arpreq` on the request at an address. -/
  | handle (addr : ℕ)
  /-- The loop of `host_unreachable` over the packets of the request at an address, which is
  on the queue or not. -/
  | unreachable (addr : ℕ) (linked : Bool) (packets : List QueuedPacket)
  /-- `sr_send_icmp_error_packet` about a packet in a buffer. -/
  | icmpError (ipDst : IpAddr) (buf : Frame)
  /-- The loop of `sr_arpcache_sweepreqs`. -/
  | sweep (curr : Option ℕ)

/-- How the calls return, with what the clock says left open. -/
inductive ArpReturns (sr : SrInstance) : ArpActivity → ArpState → ArpState → Prop
  /-- The request was sent a moment ago. -/
  | waits {addr : ℕ} {st : ArpState} {req : ArpReq} {time : ℤ} :
      st.queue.deref addr = some req → ¬ 1 < time - req.sent → ArpReturns sr (.handle addr) st st
  /-- It is sent again. -/
  | asks {addr : ℕ} {st : ArpState} {req : ArpReq} {time now : ℤ} :
      st.queue.deref addr = some req → 1 < time - req.sent → ¬ 5 ≤ req.timesSent →
        ArpReturns sr (.handle addr) st (resent sr now req st)
  /-- It is given up. -/
  | givesUp {addr : ℕ} {st st' : ArpState} {req : ArpReq} {time : ℤ} :
      st.queue.deref addr = some req → 1 < time - req.sent → 5 ≤ req.timesSent →
        ArpReturns sr (.unreachable addr true req.packets) st st' →
          ArpReturns sr (.handle addr) st (srArpreqDestroy addr st')
  /-- No packet is left. -/
  | noPackets {addr : ℕ} {linked : Bool} {st : ArpState} :
      ArpReturns sr (.unreachable addr linked []) st st
  /-- The error about a packet, and the other packets. -/
  | packet {addr : ℕ} {linked : Bool} {p : QueuedPacket} {packets : List QueuedPacket}
      {st st₁ st' : ArpState} :
      ArpReturns sr (.icmpError (queuedIpSrc sr p.buf) p.buf) (st.note (.gaveUp p.id addr)) st₁ →
        (linked = true → st₁.queue.deref addr ≠ none) →
          ArpReturns sr (.unreachable addr linked packets) st₁ st' →
            ArpReturns sr (.unreachable addr linked (p :: packets)) st st'
  /-- An error that is not sent. -/
  | noError {ipDst : IpAddr} {buf : Frame} {st : ArpState} :
      icmpErrorRoute sr ipDst = none → ArpReturns sr (.icmpError ipDst buf) st st
  /-- An error that is sent. -/
  | errorSent {ipDst hop : IpAddr} {buf : Frame} {st : ArpState} {outIface : SrIf} {e : ArpEntry} :
      icmpErrorRoute sr ipDst = some (hop, outIface) → srArpcacheLookup st.entries hop = some e →
        ArpReturns sr (.icmpError ipDst buf) st (st.note (.output
          (store (icmpErrorFrame sr 3 1 outIface buf 14) 0 e.mac.bytes) outIface.name))
  /-- An error that is queued, whose request is handled. -/
  | errorQueued {ipDst hop : IpAddr} {buf : Frame} {st st' : ArpState} {outIface : SrIf} :
      icmpErrorRoute sr ipDst = some (hop, outIface) → srArpcacheLookup st.entries hop = none →
        ArpReturns sr (.handle (st.queue.reqFor hop).addr)
          (srArpcacheQueuereq hop (icmpErrorFrame sr 3 1 outIface buf 14) outIface.name st).1 st' →
            ArpReturns sr (.icmpError ipDst buf) st st'
  /-- The end of the list. -/
  | swept {st : ArpState} : ArpReturns sr (.sweep none) st st
  /-- A request is handled, with the next one looked up before. -/
  | sweeps {addr : ℕ} {next : Option ℕ} {st st₁ st' : ArpState} :
      nextAddr st.queue.reqs addr = some next → ArpReturns sr (.handle addr) st st₁ →
        ArpReturns sr (.sweep next) st₁ st' → ArpReturns sr (.sweep (some addr)) st st'

/-- `handle_arpreq` on a request that is on the queue no more: the request afterwards, unless it
was destroyed. -/
inductive LooseReturns (sr : SrInstance) (req : ArpReq) :
    ArpState → ArpState → Option ArpReq → Prop
  /-- It was sent a moment ago. -/
  | waits {st : ArpState} {time : ℤ} : ¬ 1 < time - req.sent → LooseReturns sr req st st (some req)
  /-- It is sent again. -/
  | asks {st : ArpState} {time now : ℤ} : 1 < time - req.sent → ¬ 5 ≤ req.timesSent →
      LooseReturns sr req st (srArpRequestSend sr req.ip (st.note (.requested req.addr)))
        (some (req.sentAt now))
  /-- It is given up. -/
  | givesUp {st st' : ArpState} {time : ℤ} : 1 < time - req.sent → 5 ≤ req.timesSent →
      ArpReturns sr (.unreachable req.addr false req.packets) st st' →
        LooseReturns sr req st (srArpreqDestroy req.addr st') none

/-- The interfaces have the same names and addresses; what is known of their neighbours may have
changed. -/
def SameInterfaces (ifList ifList' : List SrIf) : Prop :=
  (ifList.map fun i => (i.name, i.addr, i.ip)) = ifList'.map fun i => (i.name, i.addr, i.ip)

instance (ifList ifList' : List SrIf) : Decidable (SameInterfaces ifList ifList') :=
  inferInstanceAs (Decidable (_ = _))

/-- The states of runs of calls that return, of a router with these interfaces, with the requests
that are on the queue no more and have not been destroyed. -/
inductive RequestRun (ifList : List SrIf) : ArpState → List ArpReq → Prop
  /-- `sr_arpcache_init`. -/
  | init : RequestRun ifList srArpcacheInit []
  /-- `sr_arpcache_queuereq`. -/
  | queuereq {st : ArpState} {loose : List ArpReq} (ip : IpAddr) (packet : Frame)
      (iface : IfName) : RequestRun ifList st loose →
        RequestRun ifList (srArpcacheQueuereq ip packet iface st).1 loose
  /-- `handle_arpreq` on a request of the queue. -/
  | handle {sr : SrInstance} {addr : ℕ} {st st' : ArpState} {loose : List ArpReq} :
      RequestRun ifList st loose → SameInterfaces sr.ifList ifList →
        ArpReturns sr (.handle addr) st st' → RequestRun ifList st' loose
  /-- `handle_arpreq` on another one. -/
  | handleLoose {sr : SrInstance} {req : ArpReq} {left : Option ArpReq} {st st' : ArpState}
      {loose : List ArpReq} : RequestRun ifList st loose → SameInterfaces sr.ifList ifList →
        req ∈ loose → LooseReturns sr req st st' left →
          RequestRun ifList st' (left.toList ++ loose.erase req)
  /-- `sr_arpcache_sweepreqs`. -/
  | sweepreqs {sr : SrInstance} {st st' : ArpState} {loose : List ArpReq} :
      RequestRun ifList st loose → SameInterfaces sr.ifList ifList →
        ArpReturns sr (.sweep (st.queue.reqs.head?.map ArpReq.addr)) st st' →
          RequestRun ifList st' loose
  /-- Mappings expire before a sweep. -/
  | expire {st : ArpState} {loose : List ArpReq} (now : ℤ) : RequestRun ifList st loose →
      RequestRun ifList { st with entries := expireEntries now st.entries } loose
  /-- `sr_arpcache_insert`. -/
  | insert {st : ArpState} {loose : List ArpReq} (mac : Mac) (ip : IpAddr) (now : ℤ) :
      RequestRun ifList st loose → RequestRun ifList (srArpcacheInsert mac ip now st).1
        ((srArpcacheInsert mac ip now st).2.toList ++ loose)
  /-- `sr_arpreq_destroy`. -/
  | destroy {st : ArpState} {loose : List ArpReq} (addr : ℕ) : RequestRun ifList st loose →
      RequestRun ifList (srArpreqDestroy addr st) (loose.filter fun r => r.addr ≠ addr)

/-! ### The calls with one reading of the clock -/

/-- An ICMP error returns as its request does. -/
theorem srSendIcmpErrorPacket_arpReturns {sr : SrInstance}
    {handle : ℕ → ArpState → Except Halt ArpState} {ipDst : IpAddr} {buf : Frame}
    {st st' : ArpState}
    (hhandle : ∀ addr st st', handle addr st = .ok st' → ArpReturns sr (.handle addr) st st')
    (h : srSendIcmpErrorPacket sr handle 3 1 ipDst buf 14 st = .ok st') :
    ArpReturns sr (.icmpError ipDst buf) st st' := by
  rw [srSendIcmpErrorPacket_eq] at h
  cases hroute : icmpErrorRoute sr ipDst with
  | none =>
    rw [hroute] at h
    cases h
    exact .noError hroute
  | some hopIf =>
    obtain ⟨hop, outIface⟩ := hopIf
    simp only [hroute] at h
    cases harp : srArpcacheLookup st.entries hop with
    | some e =>
      rw [harp] at h
      cases h
      exact .errorSent hroute harp
    | none =>
      rw [harp] at h
      exact .errorQueued hroute harp (hhandle _ _ _ h)

theorem hostUnreachable_arpReturns {sr : SrInstance}
    {handle : ℕ → ArpState → Except Halt ArpState} {addr : ℕ} {packets : List QueuedPacket}
    {st st' : ArpState}
    (hhandle : ∀ addr st st', handle addr st = .ok st' → ArpReturns sr (.handle addr) st st')
    (h : packets.foldlM (unreachablePacket sr handle addr) st = .ok st') :
    ArpReturns sr (.unreachable addr true packets) st st' := by
  induction packets generalizing st with
  | nil =>
    cases h
    exact .noPackets
  | cons p packets ih =>
    obtain ⟨st₁, hstep, hrest⟩ := foldlM_cons_ok h
    unfold unreachablePacket at hstep
    obtain ⟨st₂, hsend, hstep⟩ := exists_of_bind_eq_ok hstep
    split at hstep
    · cases hstep
    · next halive =>
      cases hstep
      exact .packet (srSendIcmpErrorPacket_arpReturns hhandle hsend) (fun _ => halive) (ih hrest)

/-- **`handle_arpreq` with one reading of the clock returns** as it does with any readings. -/
theorem handleArpreq_arpReturns {sr : SrInstance} {now : ℤ} {fuel addr : ℕ} {st st' : ArpState}
    (h : handleArpreq sr now fuel addr st = .ok st') : ArpReturns sr (.handle addr) st st' := by
  induction fuel generalizing addr st st' with
  | zero => cases h
  | succ fuel ih =>
    obtain ⟨req, hmem, rfl, ⟨hexp, rfl⟩ | ⟨hexp, hlt, rfl⟩ | ⟨hdoom, st₁, hun, rfl⟩⟩ :=
      handleArpreq_cases h
    all_goals have hreq := ArpQueue.deref_eq_some.mpr ⟨hmem, rfl⟩
    · exact .waits hreq hexp
    · exact .asks hreq hexp (by omega)
    · exact .givesUp hreq hdoom.1 hdoom.2 (hostUnreachable_arpReturns (fun _ _ _ => ih) hun)

theorem sweepreqsLoop_arpReturns {sr : SrInstance} {now : ℤ} {fuel n : ℕ} {curr : Option ℕ}
    {st st' : ArpState} (h : sweepreqsLoop sr now fuel n curr st = .ok st') :
    ArpReturns sr (.sweep curr) st st' := by
  refine sweepreqsLoop_induct (motive := fun curr st => ArpReturns sr (.sweep curr) st st')
    .swept ?_ h
  intro addr next st st₁ hnext hcall hrest
  exact .sweeps hnext (handleArpreq_arpReturns hcall) hrest

/-! ### What calls preserve -/

/-- **What the basic steps preserve, calls that return preserve.** -/
theorem ArpReturns.invariant {sr : SrInstance} {I : ArpState → Prop}
    (hgave : ∀ st id addr, I st → I (st.note (.gaveUp id addr)))
    (hout : ∀ st frame iface, frame.length = icmpErrorLen → I st →
      I (st.note (.output frame iface)))
    (hqueue : ∀ st ip packet iface, I st → I (srArpcacheQueuereq ip packet iface st).1)
    (hsent : ∀ st req now, I st → req ∈ st.queue.reqs → req.timesSent < 5 →
      I (resent sr now req st))
    (hdestroy : ∀ st addr, I st → I (srArpreqDestroy addr st)) {activity : ArpActivity}
    {st st' : ArpState} (h : ArpReturns sr activity st st') (hst : I st) : I st' := by
  induction h with
  | waits => exact hst
  | asks hreq _ hlt =>
    exact hsent _ _ _ hst (ArpQueue.deref_eq_some.mp hreq).1 (Nat.lt_of_not_le hlt)
  | givesUp _ _ _ _ ih => exact hdestroy _ _ (ih hst)
  | noPackets => exact hst
  | packet _ _ _ iherror ihrest => exact ihrest (iherror (hgave _ _ _ hst))
  | noError => exact hst
  | errorSent => exact hout _ _ _ (by simp) hst
  | errorQueued _ _ _ ih => exact ih (hqueue _ _ _ _ hst)
  | swept => exact hst
  | sweeps _ _ _ ihcall ihrest => exact ihrest (ihcall hst)

/-- There was a request at an address, which is not on the queue. -/
def Gone (addr : ℕ) (st : ArpState) : Prop :=
  addr < st.queue.nextAddr ∧ ∀ r ∈ st.queue.reqs, r.addr ≠ addr

/-- A new request is put at a new address. -/
theorem Gone.queuereq {addr : ℕ} {st : ArpState} (h : Gone addr st) (ip : IpAddr)
    (packet : Frame) (iface : IfName) : Gone addr (srArpcacheQueuereq ip packet iface st).1 := by
  refine ⟨Nat.lt_of_lt_of_le h.1 (nextAddr_le_queuereq ip packet iface st), ?_⟩
  intro r hr haddr
  have hmem : addr ∈ (srArpcacheQueuereq ip packet iface st).1.queue.reqs.map ArpReq.addr :=
    List.mem_map.mpr ⟨r, hr, haddr⟩
  have hold : addr ∉ st.queue.reqs.map ArpReq.addr := by
    intro hmem
    obtain ⟨s, hs, heq⟩ := List.mem_map.mp hmem
    exact h.2 s hs heq
  rcases queuereq_addrs ip packet iface st with heq | heq
  · rw [heq] at hmem
    exact hold hmem
  · rw [heq] at hmem
    rcases List.mem_cons.mp hmem with rfl | hmem
    · exact Nat.lt_irrefl _ h.1
    · exact hold hmem

/-- A request that is on the queue no more stays off it. -/
theorem gone_of_returns {sr : SrInstance} {activity : ArpActivity} {st st' : ArpState} {addr : ℕ}
    (h : ArpReturns sr activity st st') (hgone : Gone addr st) : Gone addr st' := by
  refine h.invariant (I := Gone addr) (fun _ _ _ hs => hs) (fun _ _ _ _ hs => hs)
    (fun _ ip packet iface hs => hs.queuereq ip packet iface) ?_
    (fun _ _ hs => ⟨hs.1, fun r hr => hs.2 r (mem_destroy.mp hr).1⟩) hgone
  intro s req now hs hreq _
  refine ⟨by rw [resent_queue]; exact hs.1, ?_⟩
  intro r hr
  rw [resent_queue, mem_markSent hreq] at hr
  rcases hr with rfl | ⟨hr, -⟩
  · exact hs.2 req hreq
  · exact hs.2 r hr

/-! ### How often requests were sent -/

/-- A request that is on the queue no more does not change what the others say. -/
theorem TimesCounted.requestSend_of_gone {st : ArpState} (h : TimesCounted st) {addr : ℕ}
    (hgone : Gone addr st) (sr : SrInstance) (ip : IpAddr) :
    TimesCounted (srArpRequestSend sr ip (st.note (.requested addr))) := by
  have hasked : TimesCounted (st.note (.requested addr)) := by
    refine ⟨?_, ?_⟩
    · intro r hr
      rw [note_trace, List.count_cons_of_ne fun he =>
        hgone.2 r hr (by injection he with haddr; exact haddr.symm)]
      exact h.asked r hr
    · intro a hmem
      rcases List.mem_cons.mp hmem with he | hmem
      · cases he
        exact hgone.1
      · exact h.asked_lt a hmem
  rw [srArpRequestSend_eq]
  exact hasked.outputs _ fun _ he => output_of_mem_requestFrames he

/-- **A call that returns keeps the count.** -/
theorem timesCounted_of_returns {sr : SrInstance} {activity : ArpActivity} {st st' : ArpState}
    (h : ArpReturns sr activity st st') (hst : TimesCounted st) : TimesCounted st' :=
  h.invariant (fun _ _ _ hs => hs.note fun _ => by simp)
    (fun _ _ _ _ hs => hs.note fun _ => by simp)
    (fun _ ip packet iface hs => hs.queuereq ip packet iface)
    (fun _ _ now hs hreq hlt => hs.resent hreq hlt sr now)
    (fun _ _ hs => hs.of_subset (fun _ hr => (mem_destroy.mp hr).1) rfl rfl) hst

/-! ### The rounds that were sent -/

theorem requestFrames_congr {ifList ifList' : List SrIf} (h : SameInterfaces ifList ifList')
    (ip : IpAddr) : requestFrames ifList ip = requestFrames ifList' ip := by
  have hmap : ∀ ifs : List SrIf,
      (ifs.map fun i => ArpEvent.output (arpRequestFrame i ip) i.name) =
        (ifs.map fun i => (i.name, i.addr, i.ip)).map fun p =>
          .output (arpRequestFrame ⟨p.1, p.2.1, p.2.2, 0, 0, 0, 0⟩ ip) p.1 := by
    intro ifs
    rw [List.map_map]
    rfl
  rw [requestFrames, requestFrames, hmap, hmap, h]

/-- An ICMP error is not an ARP request. -/
theorem not_asks_of_length {frame : Frame} (hlen : frame.length = icmpErrorLen) (iface : IfName) :
    ¬ (ArpEvent.output frame iface).Asks := by
  rintro ⟨i, ip, rfl⟩
  simp [arpRequestFrame, icmpErrorLen, Mac.length_eq] at hlen

/-- **A call that returns has sent whole rounds**, and has asked for nothing otherwise. -/
theorem roundsSent_of_returns {sr : SrInstance} {ifList : List SrIf} {activity : ArpActivity}
    {st st' : ArpState} (hifs : SameInterfaces sr.ifList ifList)
    (h : ArpReturns sr activity st st') (hst : ∃ rounds, RoundsSent ifList st rounds) :
    ∃ rounds, RoundsSent ifList st' rounds := by
  refine h.invariant (I := fun s => ∃ rounds, RoundsSent ifList s rounds) ?_ ?_ ?_ ?_ ?_ hst
  · rintro s id addr ⟨rounds, hs⟩
    exact ⟨rounds, hs.note fun he => he⟩
  · rintro s frame iface hlen ⟨rounds, hs⟩
    exact ⟨rounds, hs.note (not_asks_of_length hlen iface)⟩
  · rintro s ip packet iface ⟨rounds, hs⟩
    exact ⟨rounds, hs.queuereq ip packet iface⟩
  · rintro s req now ⟨rounds, hs⟩ hreq -
    exact ⟨_, hs.resent hreq (requestFrames_congr hifs req.ip) now⟩
  · rintro s addr ⟨rounds, hs⟩
    exact ⟨rounds, hs.of_subset (fun _ hr => (mem_destroy.mp hr).1) rfl rfl⟩

/-- **A call on a request that is on the queue no more** keeps the count, and what is not on the
queue stays off it. -/
theorem LooseReturns.invariant {sr : SrInstance} {req : ArpReq} {left : Option ArpReq}
    {st st' : ArpState} (h : LooseReturns sr req st st' left) (hgone : Gone req.addr st)
    (hst : TimesCounted st) :
    TimesCounted st' ∧ (∀ addr, Gone addr st → Gone addr st') ∧
      ∀ r ∈ left, r.addr = req.addr := by
  cases h with
  | waits _ => exact ⟨hst, fun _ hs => hs, fun r hr => by cases hr; rfl⟩
  | asks _ _ =>
    refine ⟨hst.requestSend_of_gone hgone sr req.ip, ?_, fun r hr => by cases hr; rfl⟩
    intro addr hs
    rw [srArpRequestSend_eq]
    exact hs
  | givesUp _ _ hun =>
    refine ⟨(timesCounted_of_returns hun hst).of_subset (fun _ hr => (mem_destroy.mp hr).1)
      rfl rfl, ?_, fun r hr => by cases hr⟩
    intro addr hs
    have hafter := gone_of_returns hun hs
    exact ⟨hafter.1, fun r hr => hafter.2 r (mem_destroy.mp hr).1⟩

/-- It sends whole rounds as well. -/
theorem LooseReturns.roundsSent {sr : SrInstance} {ifList : List SrIf} {req : ArpReq}
    {left : Option ArpReq} {st st' : ArpState} (hifs : SameInterfaces sr.ifList ifList)
    (h : LooseReturns sr req st st' left) (hgone : Gone req.addr st)
    (hst : ∃ rounds, RoundsSent ifList st rounds) : ∃ rounds, RoundsSent ifList st' rounds := by
  cases h with
  | waits _ => exact hst
  | asks _ _ =>
    obtain ⟨rounds, hs⟩ := hst
    refine ⟨(req.addr, req.ip) :: rounds, ?_⟩
    rw [srArpRequestSend_eq, requestFrames_congr hifs]
    refine ⟨hs.history.round req.addr req.ip, ?_, ?_⟩
    · intro o ho
      rcases List.mem_cons.mp ho with rfl | ho
      · exact hgone.1
      · exact hs.addr_lt o ho
    · intro o ho r hr haddr
      rcases List.mem_cons.mp ho with rfl | ho
      · exact absurd haddr (hgone.2 r hr)
      · exact hs.ip_eq o ho r hr haddr
  | givesUp _ _ hun =>
    obtain ⟨rounds, hs⟩ := roundsSent_of_returns hifs hun hst
    exact ⟨rounds, hs.of_subset (fun _ hr => (mem_destroy.mp hr).1) rfl rfl⟩

/-! ### Runs -/

variable {ifList : List SrIf}

/-- **The requests of a run** count how often they were sent, and those that are on the queue no
more stay off it. -/
theorem RequestRun.invariant {st : ArpState} {loose : List ArpReq}
    (h : RequestRun ifList st loose) : TimesCounted st ∧ ∀ r ∈ loose, Gone r.addr st := by
  induction h with
  | init => exact ⟨timesCounted_init, fun r hr => by cases hr⟩
  | queuereq ip packet iface _ ih =>
    exact ⟨ih.1.queuereq ip packet iface, fun r hr => (ih.2 r hr).queuereq ip packet iface⟩
  | handle _ _ hcall ih =>
    exact ⟨timesCounted_of_returns hcall ih.1, fun r hr => gone_of_returns hcall (ih.2 r hr)⟩
  | @handleLoose sr req left _ _ loose _ _ hreq hcall ih =>
    obtain ⟨hcounted, hgone, hleft⟩ := hcall.invariant (ih.2 req hreq) ih.1
    refine ⟨hcounted, ?_⟩
    intro r hr
    rcases List.mem_append.mp hr with hr | hr
    · rw [hleft r (Option.mem_toList.mp hr)]
      exact hgone _ (ih.2 req hreq)
    · exact hgone _ (ih.2 r (List.mem_of_mem_erase hr))
  | sweepreqs _ _ hcall ih =>
    exact ⟨timesCounted_of_returns hcall ih.1, fun r hr => gone_of_returns hcall (ih.2 r hr)⟩
  | expire now _ ih => exact ⟨ih.1.of_subset (fun _ hr => hr) rfl rfl, ih.2⟩
  | @insert st loose mac ip now _ ih =>
    have hlearnt : TimesCounted (st.note (.learnt ip mac)) := ih.1.note fun _ => by simp
    refine ⟨hlearnt.of_subset (fun _ hr => (mem_insert.mp hr).1) rfl rfl, ?_⟩
    intro r hr
    rcases List.mem_append.mp hr with hr | hr
    · -- the request that was answered is unlinked
      have hfind : st.queue.find ip = some r := Option.mem_toList.mp hr
      obtain ⟨hmem, hip⟩ := ArpQueue.find_eq_some.mp hfind
      refine ⟨st.queue.addr_lt r hmem, ?_⟩
      intro s hs haddr
      obtain ⟨hs, hne⟩ := mem_insert.mp hs
      exact hne (by rw [st.queue.eq_of_addr hs hmem haddr, hip])
    · exact ⟨(ih.2 r hr).1, fun s hs => (ih.2 r hr).2 s (mem_insert.mp hs).1⟩
  | destroy addr _ ih =>
    refine ⟨ih.1.of_subset (fun _ hr => (mem_destroy.mp hr).1) rfl rfl, ?_⟩
    intro r hr
    have hgone := ih.2 r (List.mem_filter.mp hr).1
    exact ⟨hgone.1, fun s hs => hgone.2 s (mem_destroy.mp hs).1⟩

/-- **What a run has sent to ask for mappings** are whole rounds. -/
theorem RequestRun.roundsSent {st : ArpState} {loose : List ArpReq}
    (h : RequestRun ifList st loose) : ∃ rounds, RoundsSent ifList st rounds := by
  induction h with
  | init => exact ⟨[], roundsSent_init⟩
  | queuereq ip packet iface _ ih =>
    obtain ⟨rounds, hs⟩ := ih
    exact ⟨rounds, hs.queuereq ip packet iface⟩
  | handle _ hifs hcall ih => exact roundsSent_of_returns hifs hcall ih
  | @handleLoose _ req _ _ _ _ hrun hifs hreq hcall ih =>
    exact hcall.roundsSent hifs (hrun.invariant.2 req hreq) ih
  | sweepreqs _ hifs hcall ih => exact roundsSent_of_returns hifs hcall ih
  | expire now _ ih =>
    obtain ⟨rounds, hs⟩ := ih
    exact ⟨rounds, hs.of_subset (fun _ hr => hr) rfl rfl⟩
  | @insert st _ mac ip now _ ih =>
    obtain ⟨rounds, hs⟩ := ih
    have hlearnt : RoundsSent ifList (st.note (.learnt ip mac)) rounds := hs.note fun he => he
    exact ⟨rounds, hlearnt.of_subset (fun _ hr => (mem_insert.mp hr).1) rfl rfl⟩
  | destroy addr _ ih =>
    obtain ⟨rounds, hs⟩ := ih
    exact ⟨rounds, hs.of_subset (fun _ hr => (mem_destroy.mp hr).1) rfl rfl⟩

/-- **Whatever is called, in whatever order, and whatever the clock says, there is one request
for an IP, and a request counts the rounds that went out for it**, at most five. -/
theorem requests_of_run {st : ArpState} {loose : List ArpReq} (h : RequestRun ifList st loose) :
    (st.queue.reqs.map ArpReq.ip).Nodup ∧
      ∃ rounds, Rounds ifList st.trace rounds ∧
        ∀ r ∈ st.queue.reqs, r.timesSent ≤ 5 ∧ r.timesSent = rounds.count (r.addr, r.ip) := by
  obtain ⟨rounds, hsent⟩ := h.roundsSent
  refine ⟨st.queue.ips_nodup, rounds, hsent.history, ?_⟩
  intro r hr
  exact ⟨(h.invariant.1.asked r hr).2, h.invariant.1.count_rounds hsent hr⟩

/-- The gateway was asked for once, two seconds after the clock started. -/
def gatewayAsked : ArpState :=
  resent gatewayRouter 2 ⟨0, 0x0201000a, 0, 0, [⟨0, localFrame, "eth1".toList⟩]⟩
    (srArpcacheQueuereq 0x0201000a localFrame "eth1".toList srArpcacheInit).1

theorem gatewayAsked_run : RequestRun gatewayRouter.ifList gatewayAsked [] := by
  have hqueued : RequestRun gatewayRouter.ifList
      (srArpcacheQueuereq 0x0201000a localFrame "eth1".toList srArpcacheInit).1 [] :=
    .queuereq 0x0201000a localFrame "eth1".toList .init
  have hreq : (srArpcacheQueuereq 0x0201000a localFrame "eth1".toList
      srArpcacheInit).1.queue.deref 0 =
        some ⟨0, 0x0201000a, 0, 0, [⟨0, localFrame, "eth1".toList⟩]⟩ := by decide
  have hlate : (1 : ℤ) < 2 - 0 := by decide
  exact hqueued.handle rfl (.asks hreq hlate (by decide))

theorem requests_of_run_gatewayAsked :
    (gatewayAsked.queue.reqs.map ArpReq.ip).Nodup ∧
      ∃ rounds, Rounds gatewayRouter.ifList gatewayAsked.trace rounds ∧
        ∀ r ∈ gatewayAsked.queue.reqs, r.timesSent ≤ 5 ∧
          r.timesSent = rounds.count (r.addr, r.ip) :=
  requests_of_run gatewayAsked_run

end Redes
