import Redes.Router.ArpRequest

/-!
# How often requests were sent

A request counts how often it was sent.  The history notes every time, under the address of
the request, and after that the frames that went out, so that the count can be compared with
what was really sent.

## Main definitions

* `TimesCounted` — the requests of the queue count how often they were sent.
* `Rounds` — the rounds of ARP requests that went out in a history.
* `RoundsSent` — the rounds that went out for a request asked for its IP.

## Main results

* `TimesCounted.queuereq`, `TimesCounted.resent`, `TimesCounted.of_subset` — the operations of
  the queue keep the count.
* `RoundsSent.queuereq`, `RoundsSent.resent`, `RoundsSent.of_subset` — and they keep the rounds.
* `TimesCounted.count_rounds` — a request counts the rounds that went out for it.
-/

namespace Redes

/-- The requests of the queue count how often they were sent. -/
structure TimesCounted (st : ArpState) : Prop where
  /-- A request counts how often it was sent, which is at most five times. -/
  asked : ∀ r ∈ st.queue.reqs,
    r.timesSent = st.trace.count (.requested r.addr) ∧ r.timesSent ≤ 5
  /-- A request that was sent has an address. -/
  asked_lt : ∀ addr, .requested addr ∈ st.trace → addr < st.queue.nextAddr

theorem timesCounted_init : TimesCounted srArpcacheInit where
  asked := fun _ h => by cases h
  asked_lt := fun _ h => by cases h

/-- Events other than requests keep the count. -/
theorem TimesCounted.note {st : ArpState} (h : TimesCounted st) {e : ArpEvent}
    (hasked : ∀ addr, e ≠ .requested addr) : TimesCounted (st.note e) := by
  refine ⟨?_, ?_⟩
  · intro r hr
    rw [note_trace, List.count_cons_of_ne (hasked r.addr)]
    exact h.asked r hr
  · intro addr hmem
    rcases List.mem_cons.mp hmem with heq | hmem
    · exact absurd heq.symm (hasked addr)
    · exact h.asked_lt addr hmem

/-- So do frames that are sent besides. -/
theorem TimesCounted.outputs {st : ArpState} (h : TimesCounted st) (frames : List ArpEvent)
    (hframes : ∀ e ∈ frames, ∃ frame iface, e = .output frame iface) :
    TimesCounted { st with trace := frames ++ st.trace } := by
  induction frames with
  | nil => exact h
  | cons e frames ih =>
    obtain ⟨frame, iface, rfl⟩ := hframes e List.mem_cons_self
    exact (ih fun e he => hframes e (List.mem_cons_of_mem _ he)).note fun _ => by simp

/-- Requests that were there keep their count when others are unlinked. -/
theorem TimesCounted.of_subset {st st' : ArpState} (h : TimesCounted st)
    (hsub : ∀ r ∈ st'.queue.reqs, r ∈ st.queue.reqs)
    (hnext : st'.queue.nextAddr = st.queue.nextAddr) (htrace : st'.trace = st.trace) :
    TimesCounted st' := by
  refine ⟨?_, ?_⟩
  · rw [htrace]
    exact fun r hr => h.asked r (hsub r hr)
  · rw [htrace, hnext]
    exact h.asked_lt

/-- The request that a packet joins has been there, or was never sent. -/
theorem TimesCounted.reqFor {st : ArpState} (h : TimesCounted st) (ip : IpAddr) :
    (st.queue.reqFor ip).timesSent = st.trace.count (.requested (st.queue.reqFor ip).addr) ∧
      (st.queue.reqFor ip).timesSent ≤ 5 := by
  rcases st.queue.reqFor_cases ip with hmem | ⟨-, hfresh⟩
  · exact h.asked _ hmem
  · rw [hfresh]
    have hnever : st.trace.count (.requested st.queue.nextAddr) = 0 :=
      List.count_eq_zero.mpr fun hmem => Nat.lt_irrefl _ (h.asked_lt _ hmem)
    exact ⟨hnever.symm, Nat.zero_le 5⟩

/-- **Queueing a packet keeps the count.** -/
theorem TimesCounted.queuereq {st : ArpState} (h : TimesCounted st) (ip : IpAddr)
    (packet : Frame) (iface : IfName) :
    TimesCounted (srArpcacheQueuereq ip packet iface st).1 := by
  have hnext := nextAddr_le_queuereq ip packet iface st
  by_cases hp : packet = []
  · subst hp
    refine ⟨?_, fun addr hmem => Nat.lt_of_lt_of_le (h.asked_lt addr hmem) hnext⟩
    intro r hr
    rcases List.mem_cons.mp (queuereq_nil_perm.subset hr) with rfl | hr
    · exact h.reqFor ip
    · exact h.asked r (List.mem_of_mem_eraseP hr)
  · have htrace : (srArpcacheQueuereq ip packet iface st).1.trace =
        .queued ⟨st.nextId, packet, iface⟩ (st.queue.request ip).2 ip :: st.trace := by
      unfold srArpcacheQueuereq
      simp only [hp, if_false]
    refine ⟨?_, ?_⟩
    · rw [htrace]
      intro r hr
      rw [List.count_cons_of_ne (by simp)]
      rcases (mem_queuereq hp).mp hr with rfl | ⟨hr, -⟩
      · exact h.reqFor ip
      · exact h.asked r hr
    · rw [htrace]
      intro addr hmem
      rcases List.mem_cons.mp hmem with heq | hmem
      · cases heq
      · exact Nat.lt_of_lt_of_le (h.asked_lt addr hmem) hnext

/-- A request that was sent once more says so. -/
theorem TimesCounted.markSent {st : ArpState} (h : TimesCounted st) {req : ArpReq}
    (hreq : req ∈ st.queue.reqs) (hlt : req.timesSent < 5) (now : ℤ) :
    TimesCounted { st with
      queue := st.queue.markSent req.addr now
      trace := .requested req.addr :: st.trace } := by
  refine ⟨?_, ?_⟩
  · intro r hr
    rcases (mem_markSent hreq now).mp hr with rfl | ⟨hr, hne⟩
    · obtain ⟨hcount, -⟩ := h.asked req hreq
      have hself : (ArpEvent.requested req.addr :: st.trace).count
          (.requested (req.sentAt now).addr) = st.trace.count (.requested req.addr) + 1 :=
        List.count_cons_self
      have htimes : (req.sentAt now).timesSent = req.timesSent + 1 := rfl
      show (req.sentAt now).timesSent = (ArpEvent.requested req.addr :: st.trace).count
        (.requested (req.sentAt now).addr) ∧ (req.sentAt now).timesSent ≤ 5
      omega
    · have hother : (ArpEvent.requested req.addr :: st.trace).count (.requested r.addr) =
          st.trace.count (.requested r.addr) :=
        List.count_cons_of_ne fun he => hne (by injection he with haddr; exact haddr.symm)
      show r.timesSent = (ArpEvent.requested req.addr :: st.trace).count
        (.requested r.addr) ∧ r.timesSent ≤ 5
      rw [hother]
      exact h.asked r hr
  · intro addr hmem
    rcases List.mem_cons.mp hmem with he | hmem
    · cases he
      exact st.queue.addr_lt req hreq
    · exact h.asked_lt addr hmem

/-- **Sending a request again keeps the count.** -/
theorem TimesCounted.resent {st : ArpState} (h : TimesCounted st) {req : ArpReq}
    (hreq : req ∈ st.queue.reqs) (hlt : req.timesSent < 5) (sr : SrInstance) (now : ℤ) :
    TimesCounted (resent sr now req st) := by
  rw [resent_eq]
  exact (h.markSent hreq hlt now).outputs _ fun _ he => output_of_mem_requestFrames he

/-! ### The frames that went out -/

/-- The event is part of asking for a mapping: the note of it, or a frame that asks. -/
def ArpEvent.Asks : ArpEvent → Prop
  | .requested _ => True
  | .output frame _ => ∃ i ip, frame = arpRequestFrame i ip
  | _ => False

/-- The rounds of ARP requests of a history, the last one first: the address of the request
each was for, and the IP.  In each a frame went out by every interface, and no frame that asks
went out otherwise. -/
inductive Rounds (ifList : List SrIf) : List ArpEvent → List (ℕ × IpAddr) → Prop
  /-- Nothing has happened. -/
  | nil : Rounds ifList [] []
  /-- Something else happens. -/
  | other {e : ArpEvent} {trace : List ArpEvent} {rounds : List (ℕ × IpAddr)} :
      ¬ e.Asks → Rounds ifList trace rounds → Rounds ifList (e :: trace) rounds
  /-- A round goes out. -/
  | round (addr : ℕ) (ip : IpAddr) {trace : List ArpEvent} {rounds : List (ℕ × IpAddr)} :
      Rounds ifList trace rounds →
        Rounds ifList (requestFrames ifList ip ++ .requested addr :: trace) ((addr, ip) :: rounds)

variable {ifList : List SrIf} {trace : List ArpEvent} {rounds : List (ℕ × IpAddr)}
  {st st' : ArpState}

/-- The rounds for a request are those that the history notes. -/
theorem Rounds.count_requested (h : Rounds ifList trace rounds) (addr : ℕ) :
    trace.count (.requested addr) = (rounds.map Prod.fst).count addr := by
  induction h with
  | nil => rfl
  | @other e trace _ he _ ih =>
    have hne : e ≠ .requested addr := fun heq => he (heq ▸ trivial)
    rw [List.count_cons_of_ne hne, ih]
  | @round a ip trace rounds _ ih =>
    have hframes : (requestFrames ifList ip).count (.requested addr) = 0 := by
      refine List.count_eq_zero.mpr fun hmem => ?_
      obtain ⟨frame, iface, heq⟩ := output_of_mem_requestFrames hmem
      cases heq
    rw [List.count_append, hframes, Nat.zero_add, List.map_cons]
    by_cases ha : a = addr
    · rw [ha, List.count_cons_self, List.count_cons_self, ih]
    · have hne : ArpEvent.requested a ≠ .requested addr := fun heq => ha (by injection heq)
      rw [List.count_cons_of_ne hne, List.count_cons_of_ne ha, ih]

/-- The rounds of the history, each of which asked for the IP of the request it was for. -/
structure RoundsSent (ifList : List SrIf) (st : ArpState) (rounds : List (ℕ × IpAddr)) :
    Prop where
  /-- They went out. -/
  history : Rounds ifList st.trace rounds
  /-- The request that a round was for has an address. -/
  addr_lt : ∀ o ∈ rounds, o.1 < st.queue.nextAddr
  /-- A request of the queue was sent with its IP. -/
  ip_eq : ∀ o ∈ rounds, ∀ r ∈ st.queue.reqs, r.addr = o.1 → r.ip = o.2

theorem roundsSent_init : RoundsSent ifList srArpcacheInit [] where
  history := .nil
  addr_lt := fun _ h => by cases h
  ip_eq := fun _ h => by cases h

theorem RoundsSent.note (h : RoundsSent ifList st rounds) {e : ArpEvent} (he : ¬ e.Asks) :
    RoundsSent ifList (st.note e) rounds :=
  ⟨.other he h.history, h.addr_lt, h.ip_eq⟩

theorem RoundsSent.of_subset (h : RoundsSent ifList st rounds)
    (hsub : ∀ r ∈ st'.queue.reqs, r ∈ st.queue.reqs)
    (hnext : st'.queue.nextAddr = st.queue.nextAddr) (htrace : st'.trace = st.trace) :
    RoundsSent ifList st' rounds :=
  ⟨htrace ▸ h.history, hnext ▸ h.addr_lt, fun o ho r hr => h.ip_eq o ho r (hsub r hr)⟩

/-- **Queueing a packet sends nothing**, and a new request is put at a new address. -/
theorem RoundsSent.queuereq (h : RoundsSent ifList st rounds) (ip : IpAddr) (packet : Frame)
    (iface : IfName) :
    RoundsSent ifList (srArpcacheQueuereq ip packet iface st).1 rounds := by
  have hfor : ∀ o ∈ rounds, (st.queue.reqFor ip).addr = o.1 → ip = o.2 := by
    intro o ho haddr
    rcases st.queue.reqFor_cases ip with hmem | ⟨-, hfresh⟩
    · rw [← h.ip_eq o ho _ hmem haddr, ArpQueue.reqFor_ip]
    · rw [hfresh] at haddr
      exact absurd (h.addr_lt o ho) (haddr ▸ Nat.lt_irrefl _)
  refine ⟨?_, fun o ho => (h.addr_lt o ho).trans_le (nextAddr_le_queuereq ip packet iface st), ?_⟩
  · unfold srArpcacheQueuereq
    simp only
    split
    · exact h.history
    · exact .other (fun he => he) h.history
  · intro o ho r hr haddr
    by_cases hp : packet = []
    · subst hp
      rcases List.mem_cons.mp (queuereq_nil_perm.subset hr) with rfl | hr
      · rw [ArpQueue.reqFor_ip]
        exact hfor o ho haddr
      · exact h.ip_eq o ho r (List.mem_of_mem_eraseP hr) haddr
    · rcases (mem_queuereq hp).mp hr with rfl | ⟨hr, -⟩
      · exact (st.queue.reqFor_ip ip).trans (hfor o ho haddr)
      · exact h.ip_eq o ho r hr haddr

/-- **Sending a request again is a round.** -/
theorem RoundsSent.resent (h : RoundsSent ifList st rounds) {req : ArpReq}
    (hreq : req ∈ st.queue.reqs) {sr : SrInstance}
    (hifs : requestFrames sr.ifList req.ip = requestFrames ifList req.ip) (now : ℤ) :
    RoundsSent ifList (resent sr now req st) ((req.addr, req.ip) :: rounds) := by
  rw [resent_eq, hifs]
  refine ⟨h.history.round req.addr req.ip, ?_, ?_⟩
  · intro o ho
    rcases List.mem_cons.mp ho with rfl | ho
    · exact st.queue.addr_lt req hreq
    · exact h.addr_lt o ho
  · intro o ho r hr haddr
    rcases List.mem_cons.mp ho with rfl | ho
    · rcases (mem_markSent hreq now).mp hr with rfl | ⟨-, hne⟩
      · rfl
      · exact absurd haddr hne
    · rcases (mem_markSent hreq now).mp hr with rfl | ⟨hr, -⟩
      · exact h.ip_eq o ho req hreq haddr
      · exact h.ip_eq o ho r hr haddr

/-- **A request counts the rounds that went out for it.** -/
theorem TimesCounted.count_rounds (h : TimesCounted st) (hsent : RoundsSent ifList st rounds)
    {r : ArpReq} (hr : r ∈ st.queue.reqs) : r.timesSent = rounds.count (r.addr, r.ip) := by
  rw [(h.asked r hr).1, hsent.history.count_requested, List.count, List.countP_map, List.count]
  refine List.countP_congr fun o ho => ?_
  simp only [Function.comp_apply, beq_iff_eq]
  constructor
  · rintro haddr
    exact Prod.ext haddr (hsent.ip_eq o ho r hr haddr.symm).symm
  · rintro rfl
    rfl

end Redes
