import Redes.Lib.DepthFirst
import Redes.Router.ArpRequest

/-!
# When `handle_arpreq` terminates

A request that is given up sends an ICMP error about each of its packets.  If the next hop
of that error is itself a request that is due to be given up, the error joins that
request and it is given up first.  So the recursion is a depth-first visit of the
requests that are due, and it ends exactly if this visit cannot reach a cycle.

## Main definitions

* `errorHop` — the next hop of the ICMP error about a packet, if the error is queued.
* `ErrorJoins` — giving up one request gives up another one first.
* `DuringCall` — the states of a call, and the requests that are still due.

## Main results

* `handleArpreq_lockstep` — a call is a depth-first visit.
* `handleArpreq_terminates_iff` — when a call ends.
* `handleArpreq_returns` — a call that ends returns.
-/

namespace Redes

open DepthFirst Digraph Fuel

/-- The next hop of the ICMP error about a queued packet, if the error has to be queued. -/
def errorHop (sr : SrInstance) (entries : List ArpEntry) (p : QueuedPacket) : Option IpAddr :=
  (icmpErrorHop sr entries (queuedIpSrc sr p.buf)).map Prod.fst

/-- Giving up the request for `a` queues an ICMP error with the next hop `b`, and the request
for `b` is due to be given up as well. -/
def ErrorJoins (sr : SrInstance) (now : ℤ) (st : ArpState) (a b : IpAddr) : Prop :=
  (∃ r ∈ st.queue.reqs, r.ip = a ∧ r.Doomed now ∧
    ∃ p ∈ r.packets, errorHop sr st.entries p = some b) ∧
  ∃ r ∈ st.queue.reqs, r.ip = b ∧ r.Doomed now

/-! ### The graph -/

/-- The IPs of the requests that are due to be given up. -/
def dueIps (now : ℤ) (st : ArpState) : Finset IpAddr :=
  ((st.queue.reqs.filter fun r => r.Doomed now).map ArpReq.ip).toFinset

/-- The next hops of the errors that giving up the request for an IP queues. -/
def errorHops (sr : SrInstance) (st : ArpState) (ip : IpAddr) : List IpAddr :=
  match st.queue.find ip with
  | some r => r.packets.filterMap (errorHop sr st.entries)
  | none => []

theorem mem_dueIps {now : ℤ} {st : ArpState} {ip : IpAddr} :
    ip ∈ dueIps now st ↔ ∃ r ∈ st.queue.reqs, r.ip = ip ∧ r.Doomed now := by
  simp only [dueIps, List.mem_toFinset, List.mem_map, List.mem_filter, decide_eq_true_eq]
  constructor
  · rintro ⟨r, ⟨hr, hdoom⟩, hip⟩
    exact ⟨r, hr, hip, hdoom⟩
  · rintro ⟨r, hr, hip, hdoom⟩
    exact ⟨r, ⟨hr, hdoom⟩, hip⟩

theorem errorHops_of_mem {sr : SrInstance} {st : ArpState} {r : ArpReq}
    (hr : r ∈ st.queue.reqs) :
    errorHops sr st r.ip = r.packets.filterMap (errorHop sr st.entries) := by
  rw [errorHops, ArpQueue.find_eq_some.mpr ⟨hr, rfl⟩]

theorem edge_iff_errorJoins {sr : SrInstance} {now : ℤ} {st : ArpState} {a b : IpAddr} :
    Edge (errorHops sr st) (dueIps now st) a b ↔ ErrorJoins sr now st a b := by
  unfold Edge ErrorJoins
  rw [mem_dueIps, mem_dueIps]
  constructor
  · rintro ⟨⟨r, hr, rfl, hdoom⟩, hb, hmem⟩
    rw [errorHops_of_mem hr, List.mem_filterMap] at hmem
    exact ⟨⟨r, hr, rfl, hdoom, hmem⟩, hb⟩
  · rintro ⟨⟨r, hr, rfl, hdoom, hp⟩, hb⟩
    refine ⟨⟨r, hr, rfl, hdoom⟩, hb, ?_⟩
    rw [errorHops_of_mem hr, List.mem_filterMap]
    exact hp

/-! ### The states of a call -/

/-- The state `st` of a call that started in `st₀`, when the requests for `due` are still to be
given up: these are requests of the start, and the packets that joined them since then
cause no errors. -/
structure DuringCall (sr : SrInstance) (now : ℤ) (st₀ : ArpState) (due : Finset IpAddr)
    (st : ArpState) : Prop where
  /-- The mappings are those of the start. -/
  entries : st.entries = st₀.entries
  /-- The requests that are due. -/
  mem_due : ∀ ip, ip ∈ due ↔ ∃ r ∈ st.queue.reqs, r.ip = ip ∧ r.Doomed now
  /-- They were there at the start. -/
  origin : ∀ r ∈ st.queue.reqs, r.Doomed now → ∃ r₀ ∈ st₀.queue.reqs, r₀.ip = r.ip ∧
    r₀.addr = r.addr ∧ r₀.packets.filterMap (errorHop sr st₀.entries) =
      r.packets.filterMap (errorHop sr st₀.entries)

variable {sr : SrInstance} {now : ℤ} {st₀ st : ArpState} {due : Finset IpAddr}

theorem duringCall_start : DuringCall sr now st₀ (dueIps now st₀) st₀ :=
  ⟨rfl, fun _ => mem_dueIps, fun r hr _ => ⟨r, hr, rfl, rfl, rfl⟩⟩

theorem DuringCall.note (h : DuringCall sr now st₀ due st) (e : ArpEvent) :
    DuringCall sr now st₀ due (st.note e) := ⟨h.entries, h.mem_due, h.origin⟩

/-- The successors of a request that is due are those of the start. -/
theorem DuringCall.errorHops_eq (h : DuringCall sr now st₀ due st) {r : ArpReq}
    (hr : r ∈ st.queue.reqs) (hdoom : r.Doomed now) :
    errorHops sr st₀ r.ip = r.packets.filterMap (errorHop sr st₀.entries) := by
  obtain ⟨r₀, hr₀, hip, -, hpackets⟩ := h.origin r hr hdoom
  rw [← hip, errorHops_of_mem hr₀, hpackets]

/-- A request that is due is where it was at the start. -/
theorem DuringCall.addr_eq (h : DuringCall sr now st₀ due st) {st' : ArpState}
    {due' : Finset IpAddr}
    (h' : DuringCall sr now st₀ due' st') {r s : ArpReq} (hr : r ∈ st.queue.reqs)
    (hrd : r.Doomed now) (hs : s ∈ st'.queue.reqs) (hsd : s.Doomed now) (hip : r.ip = s.ip) :
    r.addr = s.addr := by
  obtain ⟨r₀, hr₀, hrip, hraddr, -⟩ := h.origin r hr hrd
  obtain ⟨s₀, hs₀, hsip, hsaddr, -⟩ := h'.origin s hs hsd
  have heq : r₀ = s₀ := st₀.queue.eq_of_ip hr₀ hs₀ (by rw [hrip, hsip, hip])
  rw [← hraddr, ← hsaddr, heq]

/-- Sending a request that was not due changes nothing. -/
theorem DuringCall.resent (h : DuringCall sr now st₀ due st) {req : ArpReq}
    (hreq : req ∈ st.queue.reqs) (hnot : ¬ req.Doomed now) :
    DuringCall sr now st₀ due (resent sr now req st) := by
  have hmem : ∀ s, s.Doomed now →
      (s ∈ (Redes.resent sr now req st).queue.reqs ↔ s ∈ st.queue.reqs) := by
    intro s hs
    rw [resent_queue, mem_markSent hreq]
    constructor
    · rintro (rfl | ⟨hmem, -⟩)
      · exact absurd hs (not_doomed_sentAt now req)
      · exact hmem
    · intro hmem
      refine .inr ⟨hmem, fun heq => hnot ?_⟩
      rw [← st.queue.eq_of_addr hmem hreq heq]
      exact hs
  refine ⟨by rw [resent_entries, h.entries], ?_, fun r hr hdoom =>
    h.origin r ((hmem r hdoom).mp hr) hdoom⟩
  intro ip
  rw [h.mem_due]
  exact ⟨fun ⟨r, hr, hip, hdoom⟩ => ⟨r, (hmem r hdoom).mpr hr, hip, hdoom⟩,
    fun ⟨r, hr, hip, hdoom⟩ => ⟨r, (hmem r hdoom).mp hr, hip, hdoom⟩⟩

theorem not_doomed_fresh (now : ℤ) (q : ArpQueue) (ip : IpAddr) : ¬ (q.fresh ip).Doomed now := by
  rintro ⟨-, hsent⟩
  have hzero : (q.fresh ip).timesSent = 0 := rfl
  omega

/-- An error about an error is not sent: its source is one of the router's addresses. -/
theorem errorHop_icmpErrorFrame {entries : List ArpEntry} {type code : UInt8} {outIface : SrIf}
    {buf : Frame} {off id : ℕ} {iface : IfName} (hif : outIface ∈ sr.ifList) :
    errorHop sr entries ⟨id, icmpErrorFrame sr type code outIface buf off, iface⟩ = none := by
  have hown : (sr.ifList.any fun i => i.ip = outIface.ip) = true :=
    List.any_eq_true.mpr ⟨outIface, hif, by simp⟩
  unfold errorHop icmpErrorHop
  rw [queuedIpSrc_icmpErrorFrame, if_pos hown]
  rfl

/-- **Queueing an ICMP error makes no request due, and adds no successor to one that is.** -/
theorem DuringCall.queuereq (h : DuringCall sr now st₀ due st) {hop : IpAddr} {type code : UInt8}
    {outIface : SrIf} {buf : Frame} {off : ℕ} (hif : outIface ∈ sr.ifList) :
    DuringCall sr now st₀ due (srArpcacheQueuereq hop (icmpErrorFrame sr type code outIface buf off)
      outIface.name st).1 := by
  have hp := icmpErrorFrame_ne_nil sr type code outIface buf off
  have hfor : (st.queue.reqFor hop).Doomed now → st.queue.reqFor hop ∈ st.queue.reqs := by
    intro hdoom
    rcases st.queue.reqFor_cases hop with hmem | ⟨-, hfresh⟩
    · exact hmem
    · rw [hfresh] at hdoom
      exact absurd hdoom (not_doomed_fresh now _ _)
  refine ⟨by rw [queuereq_entries, h.entries], ?_, ?_⟩
  · intro ip
    rw [h.mem_due]
    constructor
    · rintro ⟨r, hr, hip, hdoom⟩
      by_cases hhop : r.ip = hop
      · have heq : st.queue.reqFor hop = r := by rw [← hhop, ArpQueue.reqFor_of_mem hr]
        refine ⟨_, mem_queuereq_self hop hp, ?_, ?_⟩
        · rw [← hip, ← heq]
          rfl
        · rw [heq]
          exact hdoom
      · exact ⟨r, (mem_queuereq hp).mpr (.inr ⟨hr, hhop⟩), hip, hdoom⟩
    · rintro ⟨r, hr, hip, hdoom⟩
      rcases (mem_queuereq hp).mp hr with rfl | ⟨hr, -⟩
      · exact ⟨_, hfor hdoom, hip, hdoom⟩
      · exact ⟨r, hr, hip, hdoom⟩
  · intro r hr hdoom
    rcases (mem_queuereq hp).mp hr with rfl | ⟨hr, -⟩
    · obtain ⟨r₀, hr₀, hip, haddr, hpackets⟩ := h.origin _ (hfor hdoom) hdoom
      refine ⟨r₀, hr₀, hip, haddr, ?_⟩
      rw [hpackets]
      unfold ArpReq.push
      rw [List.filterMap_cons_none (errorHop_icmpErrorFrame hif)]
    · exact h.origin r hr hdoom

/-- Once a request is given up it is not due any more. -/
theorem DuringCall.destroy (h : DuringCall sr now st₀ due st) {r : ArpReq}
    (hr : r ∈ st.queue.reqs) :
    DuringCall sr now st₀ (due.erase r.ip) (srArpreqDestroy r.addr st) := by
  refine ⟨h.entries, ?_, fun s hs hsd => h.origin s (mem_destroy.mp hs).1 hsd⟩
  intro ip
  rw [Finset.mem_erase, h.mem_due]
  constructor
  · rintro ⟨hne, s, hs, hip, hsd⟩
    refine ⟨s, mem_destroy.mpr ⟨hs, fun haddr => hne ?_⟩, hip, hsd⟩
    rw [← hip, st.queue.eq_of_addr hs hr haddr]
  · rintro ⟨s, hs, hip, hsd⟩
    obtain ⟨hs, haddr⟩ := mem_destroy.mp hs
    refine ⟨fun hsip => haddr ?_, s, hs, hip, hsd⟩
    rw [st.queue.eq_of_ip hs hr (by rw [hip, hsip])]

/-! ### The call is a visit -/

/-- A visit that has lost its place reads freed memory. -/
inductive SameStop : Stop → Halt → Prop
  /-- The recursion is too deep for the fuel. -/
  | outOfFuel : SameStop .outOfFuel .outOfFuel
  /-- The record was freed on the way. -/
  | lost : SameStop .lost .useAfterFree

theorem icmpErrorHop_mem {entries : List ArpEntry} {ipDst hop : IpAddr} {outIface : SrIf}
    (h : icmpErrorHop sr entries ipDst = some (hop, outIface)) : outIface ∈ sr.ifList := by
  unfold icmpErrorHop at h
  split at h
  · cases h
  · simp only [Option.bind_eq_some_iff, Option.ite_none_right_eq_some, Option.some.injEq,
      Prod.mk.injEq] at h
    obtain ⟨rtMatch, -, i, hif, -, -, rfl⟩ := h
    exact (srGetInterface_mem hif).1

/-- The record of a request that was to be given up is still there exactly if the request is still
due. -/
theorem DuringCall.deref_eq_none_iff {due' : Finset IpAddr} {st' : ArpState} {r : ArpReq}
    (h : DuringCall sr now st₀ due st) (hr : r ∈ st.queue.reqs) (hdoom : r.Doomed now)
    (h' : DuringCall sr now st₀ due' st') (huntouched : Untouched r st') :
    st'.queue.deref r.addr = none ↔ r.ip ∉ due' := by
  rw [ArpQueue.deref_eq_none, h'.mem_due]
  constructor
  · rintro hthere ⟨s, hs, hip, hsd⟩
    exact hthere s hs (h'.addr_eq h hs hsd hr hdoom hip)
  · intro hgone s hs haddr
    rw [huntouched.2 s hs haddr] at hs
    exact hgone ⟨r, hs, rfl, hdoom⟩

/-- One packet of a request that is given up: the visit of a successor, or nothing. -/
theorem unreachablePacket_lockstep {n : ℕ} {r : ArpReq} {p : QueuedPacket}
    (ih : ∀ due st s, DuringCall sr now st₀ due st → s ∈ st.queue.reqs →
      Lockstep SameStop (DuringCall sr now st₀) (visit (errorHops sr st₀) n s.ip due)
        (handleArpreq sr now n s.addr st))
    (h : DuringCall sr now st₀ due st) (hr : r ∈ st.queue.reqs) (hdoom : r.Doomed now) :
    Lockstep SameStop (fun due st => DuringCall sr now st₀ due st ∧ r ∈ st.queue.reqs)
      ((errorHop sr st₀.entries p).toList.foldlM (visitNext (visit (errorHops sr st₀) n) r.ip) due)
      (unreachablePacket sr (handleArpreq sr now n) r.addr st p) := by
  have hnote : DuringCall sr now st₀ due (st.note (.gaveUp p.id r.addr)) := h.note _
  have hrn : r ∈ (st.note (.gaveUp p.id r.addr)).queue.reqs := hr
  unfold unreachablePacket errorHop
  rw [← h.entries]
  -- the record is still there when the packet causes no error
  have hhere : ∀ s : ArpState, s.queue = st.queue → s.queue.deref r.addr ≠ none := by
    intro s hs hnone
    rw [hs, ArpQueue.deref_eq_none] at hnone
    exact hnone r hr rfl
  rcases srSendIcmpErrorPacket_cases sr (handleArpreq sr now n) 3 1 (queuedIpSrc sr p.buf) p.buf 14
    (st.note (.gaveUp p.id r.addr)) with
    ⟨hnone, hsame | ⟨outIface, -, mac, hout⟩⟩ | ⟨hop, outIface, -, hhop, hcall⟩
  · rw [note_entries] at hnone
    rw [hnone, hsame]
    show Lockstep _ _ (Except.ok due) (if _ then _ else _)
    rw [if_neg (hhere (st.note _) rfl)]
    exact .ok ⟨hnote, hr⟩
  · rw [note_entries] at hnone
    rw [hnone, hout]
    show Lockstep _ _ (Except.ok due) (if _ then _ else _)
    rw [if_neg (hhere ((st.note _).note _) rfl)]
    exact .ok ⟨hnote.note _, hr⟩
  · rw [note_entries] at hhop
    rw [hhop, hcall]
    have hp := icmpErrorFrame_ne_nil sr 3 1 outIface p.buf 14
    -- the error joins this request, and the request is handled
    have hcalled := ih due _ _ (hnote.queuereq (icmpErrorHop_mem hhop))
      (mem_queuereq_self hop hp)
    have hip : ((st.note (.gaveUp p.id r.addr)).queue.reqFor hop).ip = hop :=
      ArpQueue.reqFor_ip _ hop
    unfold ArpReq.push at hcalled
    simp only [hip] at hcalled
    show Lockstep _ _ (visitNext _ r.ip due hop >>= fun due => .ok due) _
    unfold visitNext
    rw [bind_assoc]
    refine hcalled.bind ?_
    intro due' st' hok hst'
    have huntouched : Untouched r st' :=
      handleArpreq_queuereq_untouched hp hdoom (untouched_of_mem hrn) hok
    -- the request is still due exactly if its record is still there
    have hiff := h.deref_eq_none_iff hr hdoom hst' huntouched
    by_cases hthere : st'.queue.deref r.addr = none
    · rw [if_pos hthere, if_neg (hiff.mp hthere)]
      exact .error .lost
    · rw [if_neg hthere, if_pos (not_not.mp (mt hiff.mpr hthere))]
      rw [ArpQueue.deref_eq_none] at hthere
      push Not at hthere
      obtain ⟨s, hs, haddr⟩ := hthere
      have hr' : r ∈ st'.queue.reqs := by
        rw [← huntouched.2 s hs haddr]
        exact hs
      exact .ok ⟨hst', hr'⟩

/-- **A call of `handle_arpreq` is a depth-first visit** of the requests that are due. -/
theorem handleArpreq_lockstep (n : ℕ) {r : ArpReq} (h : DuringCall sr now st₀ due st)
    (hr : r ∈ st.queue.reqs) :
    Lockstep SameStop (DuringCall sr now st₀) (visit (errorHops sr st₀) n r.ip due)
      (handleArpreq sr now n r.addr st) := by
  induction n generalizing due st r with
  | zero => exact .error .outOfFuel
  | succ n ih =>
    have hderef : st.queue.deref r.addr = some r := ArpQueue.deref_eq_some.mpr ⟨hr, rfl⟩
    unfold handleArpreq
    simp only [hderef]
    by_cases hdoom : r.Doomed now
    · have hmem : r.ip ∈ due := (h.mem_due r.ip).mpr ⟨r, hr, rfl, hdoom⟩
      rw [if_pos hdoom.1, if_pos hdoom.2]
      simp only [visit, if_pos hmem]
      refine Lockstep.bind (R := fun due st => DuringCall sr now st₀ due st ∧ r ∈ st.queue.reqs)
        ?_ fun due' st' _ hst' => .ok (hst'.1.destroy hst'.2)
      rw [h.errorHops_eq hr hdoom]
      unfold hostUnreachable
      -- one packet after the other
      generalize r.packets = packets
      induction packets generalizing due st with
      | nil => exact .ok ⟨h, hr⟩
      | cons p packets ihp =>
        have hsplit : (p :: packets).filterMap (errorHop sr st₀.entries) =
            (errorHop sr st₀.entries p).toList ++
              packets.filterMap (errorHop sr st₀.entries) := by
          rw [List.filterMap_cons]
          cases errorHop sr st₀.entries p <;> rfl
        rw [hsplit, List.foldlM_append, List.foldlM_cons]
        refine (unreachablePacket_lockstep (fun due st s hs hmem => ih hs hmem) h hr hdoom).bind
          fun due' st' _ hst' => ihp hst'.1 hst'.2 ?_ ?_
        · exact ArpQueue.deref_eq_some.mpr ⟨hst'.2, rfl⟩
        · exact (hst'.1.mem_due r.ip).mpr ⟨r, hst'.2, rfl, hdoom⟩
    · have hnot : r.ip ∉ due := by
        intro hmem
        obtain ⟨s, hs, hip, hsd⟩ := (h.mem_due r.ip).mp hmem
        rw [st.queue.eq_of_ip hs hr hip] at hsd
        exact hdoom hsd
      simp only [visit, if_neg hnot]
      by_cases hexp : 1 < now - r.sent
      · have hsent : ¬ 5 ≤ r.timesSent := fun hsent => hdoom ⟨hexp, hsent⟩
        rw [if_pos hexp, if_neg hsent]
        exact .ok (h.resent hr hdoom)
      · rw [if_neg hexp]
        exact .ok h

/-! ### When a call ends -/

/-- A call on a request that leads to a cycle does not end. -/
theorem handleArpreq_diverges {r : ArpReq} (hr : r ∈ st.queue.reqs)
    (hcyc : ReachesCycle (ErrorJoins sr now st) r.ip) (fuel : ℕ) :
    handleArpreq sr now fuel r.addr st = .error .outOfFuel := by
  have h : Lockstep SameStop (DuringCall sr now st)
      (visit (errorHops sr st) fuel r.ip (dueIps now st)) (handleArpreq sr now fuel r.addr st) :=
    handleArpreq_lockstep fuel duringCall_start hr
  rw [visit_diverges (hcyc.mono fun _ _ => edge_iff_errorJoins.mpr)] at h
  generalize hcall : handleArpreq sr now fuel r.addr st = out at h
  cases h with
  | error he =>
    cases he
    rfl

/-- **A call on a request that does not lead to a cycle returns.** -/
theorem handleArpreq_returns {r : ArpReq} (hr : r ∈ st.queue.reqs)
    (hacyc : ¬ ReachesCycle (ErrorJoins sr now st) r.ip) :
    ∃ fuel st', handleArpreq sr now fuel r.addr st = .ok st' := by
  have hvisits : ¬ ReachesCycle (Edge (errorHops sr st) (dueIps now st)) r.ip := fun h =>
    hacyc (h.mono fun _ _ => edge_iff_errorJoins.mp)
  obtain ⟨n, due, hvisit, -⟩ := exists_visit_ok hvisits
  have h : Lockstep SameStop (DuringCall sr now st)
      (visit (errorHops sr st) n r.ip (dueIps now st)) (handleArpreq sr now n r.addr st) :=
    handleArpreq_lockstep n duringCall_start hr
  obtain ⟨st', hcall, -⟩ := h.exists_right hvisit
  exact ⟨n, st', hcall⟩

/-- **`handle_arpreq` terminates exactly if the request does not lead, from one ICMP error
to the request it joins, to a cycle of requests that are due to be given up.** -/
theorem handleArpreq_terminates_iff {r : ArpReq} (hr : r ∈ st.queue.reqs) :
    (∃ fuel, handleArpreq sr now fuel r.addr st ≠ .error .outOfFuel) ↔
      ¬ ReachesCycle (ErrorJoins sr now st) r.ip := by
  constructor
  · rintro ⟨fuel, hne⟩ hcyc
    exact hne (handleArpreq_diverges hr hcyc fuel)
  · intro hacyc
    obtain ⟨fuel, st', hok⟩ := handleArpreq_returns hr hacyc
    exact ⟨fuel, by rw [hok]; simp⟩

/-! ### A gateway that does not answer -/

/-- The datagram `localFrame`, but from 10.0.3.5, which is behind the gateway itself. -/
def hairpinFrame : Frame :=
  [0x01, 0x01, 0x01, 0x01, 0x01, 0x01, 0x02, 0x02, 0x02, 0x02, 0x02, 0x02, 0x08, 0x00,
    0x45, 0x00, 0x00, 0x1c, 0x00, 0x01, 0x00, 0x00, 0x3f, 0x11, 0x60, 0xc7,
    0x0a, 0x00, 0x03, 0x05, 0x0a, 0x00, 0x04, 0x05,
    0x00, 0x35, 0x00, 0x35, 0x00, 0x08, 0x00, 0x00]

/-- The gateway was asked for five times, and a frame still waits for it. -/
def unansweredState (frame : Frame) : ArpState :=
  { srArpcacheInit with
    queue := ⟨[⟨0, 0x0201000a, 5, 5, [⟨0, frame, "eth1".toList⟩]⟩], 1, by simp, by simp, by simp⟩
    nextId := 1 }

/-- The error to a host of the router's own network joins no other request. -/
theorem localFrame_terminates :
    ∃ fuel, handleArpreq gatewayRouter 10 fuel 0 (unansweredState localFrame) ≠
      .error .outOfFuel := by
  refine (handleArpreq_terminates_iff
    (r := ⟨0, 0x0201000a, 5, 5, [⟨0, localFrame, "eth1".toList⟩]⟩) List.mem_cons_self).mpr ?_
  rintro ⟨c, -, hc⟩
  obtain ⟨b, ⟨⟨r, hr, -, -, p, hp, hhop⟩, s, hs, hip, -⟩, -⟩ := Relation.TransGen.head'_iff.mp hc
  -- there is one request, and the hop of its packet's error is another address
  obtain rfl := List.mem_singleton.mp hr
  obtain rfl := List.mem_singleton.mp hp
  obtain rfl := List.mem_singleton.mp hs
  subst hip
  revert hhop
  decide

/-- **The error about a packet from behind the gateway joins the request for the gateway**,
which is given up first, with the same packet. -/
theorem hairpinFrame_diverges :
    ¬ ∃ fuel, handleArpreq gatewayRouter 10 fuel 0 (unansweredState hairpinFrame) ≠
      .error .outOfFuel := by
  rintro ⟨fuel, hne⟩
  refine hne (handleArpreq_diverges
    (r := ⟨0, 0x0201000a, 5, 5, [⟨0, hairpinFrame, "eth1".toList⟩]⟩) List.mem_cons_self ?_ fuel)
  exact ⟨0x0201000a, .refl, .single
    ⟨⟨_, List.mem_cons_self, rfl, by decide, _, List.mem_cons_self, by decide⟩,
      ⟨_, List.mem_cons_self, rfl, by decide⟩⟩⟩

end Redes
