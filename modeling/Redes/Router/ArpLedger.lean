import Redes.Router.ArpCount
import Redes.Router.ArpPacket

/-!
# No queued packet is lost or duplicated

The packets handed to `sr_arpcache_queuereq` over a run of the ARP functions.  For every
packet an account is kept: how often it is on a list, was sent and was given up.  Every
step balances the accounts, except one: an ARP request for one of the router's addresses,
from a host that packets are waiting for, drops these packets.

## Main definitions

* `ArpCall`, `arpStep`, `ArpRun` — the steps and their runs.
* `placed`, `sentTimes`, `gaveUpTimes`, `balance` — the account of a packet.
* `ArpRecords` — what the history tells about the requests.
* `Settled` — every packet is in exactly one situation.
* `DropsPackets` — the step that loses packets.

## Main results

* `handleArpreq_balance` — giving up, errors about it included, balances.
* `arpStep_balance` — so does every step that does not drop packets.
* `settled_of_run` — in a run without such a step every packet is settled.
-/

namespace Redes

open Fuel

/-! ### Runs -/

/-- What can happen to the ARP cache. -/
inductive ArpInput
  /-- A packet is queued. -/
  | queue (ip : IpAddr) (packet : Frame) (iface : IfName)
  /-- A request is handled. -/
  | handle (addr : ℕ)
  /-- A frame is received. -/
  | receive (packet : Frame)
  /-- The timer goes off. -/
  | timeout

/-- A step, with the router and the clock as they are then. -/
structure ArpCall where
  /-- The router. -/
  sr : SrInstance
  /-- The clock. -/
  now : ℤ
  /-- A bound on the depth of the recursion. -/
  fuel : ℕ
  /-- What happens. -/
  input : ArpInput

/-- The frame gets as far as `sr_handle_arp_packet`. -/
def ReachesArp (packet : Frame) : Prop :=
  isPacketValid packet = true ∧ etherType packet = htons ethertypeArp

instance (packet : Frame) : Decidable (ReachesArp packet) := inferInstanceAs (Decidable (_ ∧ _))

/-- A step of the ARP cache. -/
def arpStep (c : ArpCall) (st : ArpState) : Except Halt ArpState :=
  match c.input with
  | .queue ip packet iface => .ok (srArpcacheQueuereq ip packet iface st).1
  | .handle addr => handleArpreq c.sr c.now c.fuel addr st
  | .receive packet =>
      if ReachesArp packet then srHandleArpPacket c.sr c.now packet st else .ok st
  | .timeout => srArpcacheTimeout c.sr c.now c.fuel st

/-- **What a step can be** when it returns. -/
theorem arpStep_cases {c : ArpCall} {st st' : ArpState} (h : arpStep c st = .ok st') :
    (∃ ip packet iface, st' = (srArpcacheQueuereq ip packet iface st).1) ∨
    (∃ addr, handleArpreq c.sr c.now c.fuel addr st = .ok st') ∨
    (∃ n curr, sweepreqsLoop c.sr c.now c.fuel n curr
      { st with entries := expireEntries c.now st.entries } = .ok st') ∨
    (∃ packet, c.input = .receive packet ∧ ReachesArp packet ∧
      srHandleArpPacket c.sr c.now packet st = .ok st') ∨
    st' = st := by
  unfold arpStep at h
  cases hin : c.input with
  | queue ip packet iface =>
    rw [hin] at h
    cases h
    exact .inl ⟨ip, packet, iface, rfl⟩
  | handle addr =>
    rw [hin] at h
    exact .inr (.inl ⟨addr, h⟩)
  | timeout =>
    rw [hin] at h
    exact .inr (.inr (.inl ⟨_, _, h⟩))
  | receive packet =>
    rw [hin] at h
    by_cases hreach : ReachesArp packet
    · simp only [if_pos hreach] at h
      exact .inr (.inr (.inr (.inl ⟨packet, rfl, hreach, h⟩)))
    · simp only [if_neg hreach] at h
      cases h
      exact .inr (.inr (.inr (.inr rfl)))

/-- The states of the runs whose steps have a property. -/
inductive ArpRun (P : ArpCall → ArpState → Prop) : ArpState → Prop
  /-- A run starts with an empty cache. -/
  | init : ArpRun P srArpcacheInit
  /-- A step that returns leads to the next state. -/
  | step {c : ArpCall} {st st' : ArpState} :
      ArpRun P st → P c st → arpStep c st = .ok st' → ArpRun P st'

/-! ### Accounts -/

/-- How often a packet is on the list of a request. -/
def placed (st : ArpState) (id : ℕ) : ℕ :=
  (st.queue.reqs.flatMap ArpReq.packets).countP fun p => p.id = id

/-- The packet was sent. -/
def ArpEvent.IsSent (id : ℕ) : ArpEvent → Bool
  | .sent i _ _ => i = id
  | _ => false

/-- The packet was given up. -/
def ArpEvent.IsGaveUp (id : ℕ) : ArpEvent → Bool
  | .gaveUp i _ => i = id
  | _ => false

theorem ArpEvent.isSent_iff {id : ℕ} {e : ArpEvent} :
    e.IsSent id = true ↔ ∃ frame iface, e = .sent id frame iface := by
  cases e <;> simp [ArpEvent.IsSent]

theorem ArpEvent.isGaveUp_iff {id : ℕ} {e : ArpEvent} :
    e.IsGaveUp id = true ↔ ∃ addr, e = .gaveUp id addr := by
  cases e <;> simp [ArpEvent.IsGaveUp]

/-- How often a packet was sent. -/
def sentTimes (st : ArpState) (id : ℕ) : ℕ := st.trace.countP (ArpEvent.IsSent id)

/-- How often a packet was given up. -/
def gaveUpTimes (st : ArpState) (id : ℕ) : ℕ := st.trace.countP (ArpEvent.IsGaveUp id)

/-- The account of a packet: what became of it, less what was handed over. -/
def balance (st : ArpState) (id : ℕ) : ℤ :=
  placed st id + sentTimes st id + gaveUpTimes st id - if id < st.nextId then 1 else 0

theorem placed_of_perm {st : ArpState} {l : List ArpReq} (h : st.queue.reqs.Perm l) (id : ℕ) :
    placed st id = (l.flatMap ArpReq.packets).countP fun p => p.id = id :=
  (h.flatMap_right ArpReq.packets).countP_eq _

/-- The packets of one request and those of the others. -/
theorem placed_eq_add {st : ArpState} {r : ArpReq} (hr : r ∈ st.queue.reqs) (id : ℕ) :
    placed st id = (r.packets.countP fun p => p.id = id) +
      ((st.queue.reqs.eraseP fun s => s.addr = r.addr).flatMap ArpReq.packets).countP
        fun p => p.id = id := by
  rw [placed_of_perm (Keyed.perm_cons_eraseP st.queue.addrs_nodup hr), List.flatMap_cons,
    List.countP_append]

/-- An event that neither sends nor gives up a packet. -/
def ArpEvent.IsNeutral (e : ArpEvent) : Prop := ∀ id, e.IsSent id = false ∧ e.IsGaveUp id = false

theorem isNeutral_output (frame : Frame) (iface : IfName) :
    (ArpEvent.output frame iface).IsNeutral := fun _ => ⟨rfl, rfl⟩

theorem isNeutral_requested (addr : ℕ) : (ArpEvent.requested addr).IsNeutral :=
  fun _ => ⟨rfl, rfl⟩

theorem isNeutral_queued (p : QueuedPacket) (addr : ℕ) (ip : IpAddr) :
    (ArpEvent.queued p addr ip).IsNeutral := fun _ => ⟨rfl, rfl⟩

theorem isNeutral_learnt (ip : IpAddr) (mac : Mac) : (ArpEvent.learnt ip mac).IsNeutral :=
  fun _ => ⟨rfl, rfl⟩

theorem countP_append_of_neutral {es : List ArpEvent} (past : List ArpEvent)
    (h : ∀ e ∈ es, e.IsNeutral) (id : ℕ) :
    (es ++ past).countP (ArpEvent.IsSent id) = past.countP (ArpEvent.IsSent id) ∧
      (es ++ past).countP (ArpEvent.IsGaveUp id) = past.countP (ArpEvent.IsGaveUp id) := by
  have hsent : es.countP (ArpEvent.IsSent id) = 0 :=
    List.countP_eq_zero.mpr fun e he => by simp [(h e he id).1]
  have hgave : es.countP (ArpEvent.IsGaveUp id) = 0 :=
    List.countP_eq_zero.mpr fun e he => by simp [(h e he id).2]
  rw [List.countP_append, List.countP_append, hsent, hgave, Nat.zero_add, Nat.zero_add]
  exact ⟨rfl, rfl⟩

/-- States with the same lists and, but for neutral events, the same history have the same
accounts. -/
theorem balance_eq_of_neutral (st st' : ArpState) (es : List ArpEvent)
    (hplaced : ∀ id, placed st' id = placed st id) (hnext : st'.nextId = st.nextId)
    (htrace : st'.trace = es ++ st.trace) (h : ∀ e ∈ es, e.IsNeutral) (id : ℕ) :
    balance st' id = balance st id := by
  unfold balance sentTimes gaveUpTimes
  obtain ⟨hsent, hgave⟩ := countP_append_of_neutral st.trace h id
  rw [hplaced, hnext, htrace, hsent, hgave]

theorem balance_note_of_neutral {st : ArpState} {e : ArpEvent} (h : e.IsNeutral) (id : ℕ) :
    balance (st.note e) id = balance st id :=
  balance_eq_of_neutral st (st.note e) [e] (fun _ => rfl) rfl rfl (by simpa using h) id

/-- Giving up a packet that stays where it is unbalances its account. -/
theorem balance_note_gaveUp (st : ArpState) (p : QueuedPacket) (addr id : ℕ) :
    balance (st.note (.gaveUp p.id addr)) id = balance st id + if p.id = id then 1 else 0 := by
  unfold balance placed sentTimes gaveUpTimes
  rw [note_trace, note_queue, note_nextId, List.countP_cons, List.countP_cons]
  simp only [ArpEvent.IsSent, ArpEvent.IsGaveUp, Bool.false_eq_true, if_false, decide_eq_true_eq]
  split <;> push_cast <;> omega

/-! ### What the operations do to the accounts -/

/-- **Queueing a packet balances.** -/
theorem balance_queuereq (ip : IpAddr) (packet : Frame) (iface : IfName) (st : ArpState) (id : ℕ) :
    balance (srArpcacheQueuereq ip packet iface st).1 id = balance st id := by
  have hfor : ∀ i, placed st i = ((st.queue.reqFor ip).packets.countP fun p => p.id = i) +
      ((st.queue.reqs.eraseP fun r => r.ip = ip).flatMap ArpReq.packets).countP
        fun p => p.id = i := by
    intro i
    rcases st.queue.reqFor_cases ip with hmem | ⟨hnone, hfresh⟩
    · rw [placed_eq_add hmem, ArpQueue.eraseP_addr_eq hmem, ArpQueue.reqFor_ip]
    · have herase : (st.queue.reqs.eraseP fun r => r.ip = ip) = st.queue.reqs :=
        List.eraseP_of_forall_not fun r hr => by
          simpa using ArpQueue.find_eq_none.mp hnone r hr
      rw [hfresh, herase]
      unfold placed ArpQueue.fresh
      rw [List.countP_nil, Nat.zero_add]
  by_cases hp : packet = []
  · subst hp
    refine balance_eq_of_neutral st (srArpcacheQueuereq ip [] iface st).1 [] ?_ rfl rfl
      (by simp) id
    intro i
    rw [placed_of_perm queuereq_nil_perm, hfor, List.flatMap_cons, List.countP_append]
  · have hplaced : placed (srArpcacheQueuereq ip packet iface st).1 id =
        placed st id + if st.nextId = id then 1 else 0 := by
      rw [placed_of_perm (queuereq_perm hp), hfor, List.flatMap_cons, List.countP_append]
      unfold ArpReq.push
      rw [List.countP_cons]
      simp only [decide_eq_true_eq]
      omega
    have hneutral : ∀ e ∈ [ArpEvent.queued ⟨st.nextId, packet, iface⟩ (st.queue.request ip).2 ip],
        e.IsNeutral := by
      intro e he
      rw [List.mem_singleton.mp he]
      exact isNeutral_queued _ _ _
    obtain ⟨hsent, hgave⟩ := countP_append_of_neutral st.trace hneutral id
    unfold balance
    rw [hplaced]
    unfold sentTimes gaveUpTimes srArpcacheQueuereq
    simp only [hp, if_false]
    rw [← List.singleton_append, hsent, hgave]
    split <;> split <;> split <;> push_cast <;> omega

/-- **Sending a request again balances.** -/
theorem balance_resent (sr : SrInstance) (now : ℤ) (req : ArpReq) (st : ArpState) (id : ℕ) :
    balance (resent sr now req st) id = balance st id := by
  have heq := resent_eq sr now req st
  refine balance_eq_of_neutral st _ (requestFrames sr.ifList req.ip ++ [.requested req.addr])
    ?_ ?_ ?_ ?_ id
  · intro i
    unfold placed
    rw [resent_queue, List.flatMap_def, List.flatMap_def, map_packets_markSent]
  · rw [heq]
  · rw [heq, List.append_assoc]
    rfl
  · intro e he
    rcases List.mem_append.mp he with he | he
    · obtain ⟨frame, iface, rfl⟩ := output_of_mem_requestFrames he
      exact isNeutral_output frame iface
    · rw [List.mem_singleton.mp he]
      exact isNeutral_requested _

/-- Freeing a request takes its packets off the lists. -/
theorem balance_destroy {st : ArpState} {r : ArpReq} (hr : r ∈ st.queue.reqs) (id : ℕ) :
    balance (srArpreqDestroy r.addr st) id + (r.packets.countP fun p => p.id = id) =
      balance st id := by
  unfold balance
  rw [placed_eq_add hr]
  unfold placed sentTimes gaveUpTimes srArpreqDestroy ArpQueue.unlink
  push_cast
  omega

/-- **Handling a request balances**, whatever errors about its packets are queued and given up
on the way. -/
theorem handleArpreq_balance {sr : SrInstance} {now : ℤ} {fuel addr : ℕ} {st st' : ArpState}
    (h : handleArpreq sr now fuel addr st = .ok st') (id : ℕ) : balance st' id = balance st id := by
  induction fuel generalizing addr st st' with
  | zero => cases h
  | succ fuel ih =>
    obtain ⟨req, hmem, rfl, ⟨-, rfl⟩ | ⟨-, -, rfl⟩ | ⟨hdoom, st₁, hun, rfl⟩⟩ :=
      handleArpreq_cases h
    · rfl
    · exact balance_resent sr now req st id
    · -- each packet is given up while it is still on the list
      have hfold : ∀ (l : List QueuedPacket) (s : ArpState), req ∈ s.queue.reqs →
          l.foldlM (unreachablePacket sr (handleArpreq sr now fuel) req.addr) s = .ok st₁ →
            balance st₁ id = balance s id + l.countP (fun p => p.id = id) ∧
              req ∈ st₁.queue.reqs := by
        intro l
        induction l with
        | nil =>
          intro s hs hok
          cases hok
          simpa using hs
        | cons p l ihl =>
          intro s hs hok
          obtain ⟨s₁, hstep, hrest⟩ := foldlM_cons_ok hok
          obtain ⟨hlast, hmem'⟩ := ihl s₁ (unreachablePacket_mem hs hdoom hstep) hrest
          have hone : balance s₁ id = balance (s.note (.gaveUp p.id req.addr)) id := by
            obtain ⟨-, rfl | ⟨outIface, -, mac, rfl⟩ | ⟨hop, outIface, -, hcall⟩⟩ :=
              unreachablePacket_cases hstep
            · rfl
            · exact balance_note_of_neutral (isNeutral_output _ outIface.name) id
            · rw [ih hcall, balance_queuereq]
          refine ⟨?_, hmem'⟩
          rw [hlast, hone, balance_note_gaveUp, List.countP_cons]
          simp only [decide_eq_true_eq]
          split <;> push_cast <;> omega
      obtain ⟨hbal, hreq⟩ := hfold req.packets st hmem hun
      have hfree := balance_destroy hreq id
      omega

/-- Sweeping balances. -/
theorem sweepreqsLoop_balance {sr : SrInstance} {now : ℤ} {fuel n : ℕ} {curr : Option ℕ}
    {st st' : ArpState} (h : sweepreqsLoop sr now fuel n curr st = .ok st') (id : ℕ) :
    balance st' id = balance st id :=
  sweepreqsLoop_invariant (I := fun s => balance s id = balance st id)
    (fun _ _ _ hs hcall => (handleArpreq_balance hcall id).trans hs) rfl h

/-- Taking the packets of a request off its list and sending them balances. -/
theorem balance_sendPending (packets : List QueuedPacket) (dhost shost : Mac) (iface : SrIf)
    (st : ArpState) (id : ℕ) :
    balance (srArpReplySendPendingPackets packets dhost shost iface st) id =
      balance st id + packets.countP fun p => p.id = id := by
  unfold srArpReplySendPendingPackets
  induction packets generalizing st with
  | nil => simp
  | cons p packets ih =>
    have hone : balance (st.note (.sent p.id (readdressed dhost shost p.buf) iface.name)) id =
        balance st id + if p.id = id then 1 else 0 := by
      unfold balance placed sentTimes gaveUpTimes
      rw [note_trace, note_queue, note_nextId, List.countP_cons, List.countP_cons]
      simp only [ArpEvent.IsSent, ArpEvent.IsGaveUp, Bool.false_eq_true, if_false,
        decide_eq_true_eq]
      split <;> push_cast <;> omega
    rw [List.foldl_cons, ih, hone, List.countP_cons]
    simp only [decide_eq_true_eq]
    split <;> push_cast <;> omega

/-- Inserting a mapping takes the packets that wait for it off their list. -/
theorem balance_insert (mac : Mac) (ip : IpAddr) (now : ℤ) (st : ArpState) (id : ℕ) :
    balance (srArpcacheInsert mac ip now st).1 id +
      (((st.queue.find ip).map ArpReq.packets).getD []).countP (fun p => p.id = id) =
        balance st id := by
  have hneutral : ∀ e ∈ [ArpEvent.learnt ip mac], e.IsNeutral := by
    intro e he
    rw [List.mem_singleton.mp he]
    exact isNeutral_learnt ip mac
  obtain ⟨hsent, hgave⟩ := countP_append_of_neutral st.trace hneutral id
  unfold balance sentTimes gaveUpTimes srArpcacheInsert
  rw [List.singleton_append] at hsent hgave
  simp only [hsent, hgave]
  cases hfind : st.queue.find ip with
  | none =>
    have herase : (st.queue.reqs.eraseP fun r => r.ip = ip) = st.queue.reqs :=
      List.eraseP_of_forall_not fun r hr => by simpa using ArpQueue.find_eq_none.mp hfind r hr
    unfold placed ArpQueue.unlink
    simp [herase]
  | some r =>
    obtain ⟨hr, rfl⟩ := ArpQueue.find_eq_some.mp hfind
    rw [placed_eq_add hr, ArpQueue.eraseP_addr_eq hr]
    unfold placed ArpQueue.unlink
    simp only [Option.map_some, Option.getD_some]
    push_cast
    omega

/-! ### The history grows -/

theorem mem_trace_queuereq (ip : IpAddr) (packet : Frame) (iface : IfName) {st : ArpState}
    {e : ArpEvent} (he : e ∈ st.trace) : e ∈ (srArpcacheQueuereq ip packet iface st).1.trace := by
  unfold srArpcacheQueuereq
  simp only
  split
  · exact he
  · exact List.mem_cons_of_mem _ he

theorem handleArpreq_mem_trace {sr : SrInstance} {now : ℤ} {fuel addr : ℕ} {st st' : ArpState}
    (h : handleArpreq sr now fuel addr st = .ok st') {e : ArpEvent} (he : e ∈ st.trace) :
    e ∈ st'.trace := by
  refine handleArpreq_invariant (I := fun s => e ∈ s.trace)
    (fun _ _ _ hs => List.mem_cons_of_mem _ hs) (fun _ _ _ hs => List.mem_cons_of_mem _ hs)
    (fun s ip packet iface hs => mem_trace_queuereq ip packet iface hs) ?_
    (fun _ _ hs => hs) he h
  intro s req hs
  rw [resent_eq]
  exact List.mem_append_right _ (List.mem_cons_of_mem _ hs)

/-! ### The step that loses packets -/

/-- An ARP request for one of the router's addresses, from a host that packets wait for. -/
def DropsPackets (c : ArpCall) (st : ArpState) : Prop :=
  ∃ packet, c.input = .receive packet ∧ ReachesArp packet ∧ arOp packet = arpOpRequest ∧
    (findInterfaceIp c.sr.ifList (arTip packet)).isSome ∧
      ∃ r ∈ st.queue.reqs, r.ip = arSip packet ∧ r.packets ≠ []

/-- The packets that wait for the sender of an ARP packet are taken off their list. -/
theorem balance_afterInsert {packet : Frame} {st : ArpState} (now : ℤ) {r : ArpReq}
    (hr : r ∈ st.queue.reqs) (hip : r.ip = arSip packet) (id : ℕ) :
    balance (afterInsert now packet st) id + r.packets.countP (fun p => p.id = id) =
      balance st id := by
  have hins := balance_insert (arSha packet) (arSip packet) now st id
  rw [ArpQueue.find_eq_some.mpr ⟨hr, hip⟩] at hins
  exact hins

/-- What a step that drops packets does. -/
theorem arpStep_of_drops {c : ArpCall} {st st' : ArpState} (hdrop : DropsPackets c st)
    (h : arpStep c st = .ok st') :
    ∃ packet r frame iface, r ∈ st.queue.reqs ∧ r.ip = arSip packet ∧ r.packets ≠ [] ∧
      st' = (afterInsert c.now packet st).note (.output frame iface) := by
  obtain ⟨packet, hin, hreach, hop, hif, r, hr, hip, hne⟩ := hdrop
  obtain ⟨i, hi⟩ := Option.isSome_iff_exists.mp hif
  refine ⟨packet, r, arpReplyFrame packet i, i.name, hr, hip, hne, ?_⟩
  unfold arpStep at h
  rw [hin] at h
  simp only [if_pos hreach] at h
  unfold srHandleArpPacket srGetInterfaceGivenIp at h
  by_cases hzero : arTip packet = 0
  · rw [if_pos hzero] at h
    cases h
  · rw [if_neg hzero, hi] at h
    simp only [bind, Except.bind] at h
    rw [if_pos hop] at h
    cases h
    rfl

/-- Sending the packets that wait for the sender of a reply balances.  Their request is not on
the queue any more when it is freed. -/
theorem balance_reply (now : ℤ) {packet : Frame} {st : ArpState} {req : ArpReq}
    (hfind : st.queue.find (arSip packet) = some req) (iface : SrIf) (id : ℕ) :
    balance (srArpreqDestroy req.addr (srArpReplySendPendingPackets req.packets iface.addr
      (arSha packet) iface (afterInsert now packet st))) id = balance st id := by
  obtain ⟨hreq, hip⟩ := ArpQueue.find_eq_some.mp hfind
  have hfree : balance (srArpreqDestroy req.addr (srArpReplySendPendingPackets req.packets
      iface.addr (arSha packet) iface (afterInsert now packet st))) id =
      balance (srArpReplySendPendingPackets req.packets iface.addr (arSha packet) iface
        (afterInsert now packet st)) id := by
    unfold balance placed sentTimes gaveUpTimes srArpreqDestroy ArpQueue.unlink
    rw [sendPending_eq]
    simp only [destroy_insert hfind]
  rw [hfree, balance_sendPending, balance_afterInsert now hreq hip]

/-- Inserting a mapping that nothing waits for balances. -/
theorem balance_afterInsert_of_nil (now : ℤ) {packet : Frame} {st : ArpState}
    (hnil : ∀ r, st.queue.find (arSip packet) = some r → r.packets = []) (id : ℕ) :
    balance (afterInsert now packet st) id = balance st id := by
  have hins := balance_insert (arSha packet) (arSip packet) now st id
  cases hfind : st.queue.find (arSip packet) with
  | none =>
    rw [hfind] at hins
    simpa using hins
  | some r =>
    rw [hfind, Option.map_some, Option.getD_some, hnil r hfind] at hins
    simpa using hins

/-- **Every step that does not drop packets balances.** -/
theorem arpStep_balance {c : ArpCall} {st st' : ArpState} (hkeep : ¬ DropsPackets c st)
    (h : arpStep c st = .ok st') (id : ℕ) : balance st' id = balance st id := by
  obtain ⟨ip, packet, iface, rfl⟩ | ⟨addr, hcall⟩ | ⟨n, curr, hsweep⟩ |
    ⟨packet, hin, hreach, hrecv⟩ | rfl := arpStep_cases h
  · exact balance_queuereq ip packet iface st id
  · exact handleArpreq_balance hcall id
  · exact sweepreqsLoop_balance hsweep id
  · rcases srHandleArpPacket_cases hrecv with ⟨-, rfl⟩ | ⟨i, hop, hif, rfl⟩ | ⟨hnone, rfl⟩ |
      ⟨req, iface, -, hfind, -, rfl⟩
    · rfl
    · rw [balance_note_of_neutral (isNeutral_output _ _)]
      refine balance_afterInsert_of_nil c.now ?_ id
      intro r hfind
      -- a request with packets would be dropped
      obtain ⟨hr, hip⟩ := ArpQueue.find_eq_some.mp hfind
      by_contra hne
      exact hkeep ⟨packet, hin, hreach, hop, by rw [hif]; rfl, r, hr, hip, hne⟩
    · refine balance_afterInsert_of_nil c.now ?_ id
      intro r hfind
      rw [hnone] at hfind
      cases hfind
    · exact balance_reply c.now hfind iface id
  · rfl

/-- **No step makes more of a packet than was handed over.** -/
theorem arpStep_balance_le {c : ArpCall} {st st' : ArpState} (h : arpStep c st = .ok st')
    (id : ℕ) : balance st' id ≤ balance st id := by
  by_cases hdrop : DropsPackets c st
  · obtain ⟨packet, r, frame, iface, hr, hip, -, rfl⟩ := arpStep_of_drops hdrop h
    rw [balance_note_of_neutral (isNeutral_output frame iface)]
    have hins := balance_afterInsert c.now hr hip id
    omega
  · rw [arpStep_balance hdrop h]

/-- **What has happened stays in the history.** -/
theorem arpStep_mem_trace {c : ArpCall} {st st' : ArpState} (h : arpStep c st = .ok st')
    {e : ArpEvent} (he : e ∈ st.trace) : e ∈ st'.trace := by
  obtain ⟨ip, packet, iface, rfl⟩ | ⟨addr, hcall⟩ | ⟨n, curr, hsweep⟩ |
    ⟨packet, -, -, hrecv⟩ | rfl := arpStep_cases h
  · exact mem_trace_queuereq ip packet iface he
  · exact handleArpreq_mem_trace hcall he
  · have hstart : e ∈ ({ st with entries := expireEntries c.now st.entries } : ArpState).trace := he
    exact sweepreqsLoop_invariant (I := fun s => e ∈ s.trace)
      (fun _ _ _ hs hcall => handleArpreq_mem_trace hcall hs) hstart hsweep
  · have hins : e ∈ (afterInsert c.now packet st).trace := List.mem_cons_of_mem _ he
    rcases srHandleArpPacket_cases hrecv with ⟨-, rfl⟩ | ⟨i, -, -, rfl⟩ | ⟨-, rfl⟩ |
      ⟨req, iface, -, -, -, rfl⟩
    · exact he
    · exact List.mem_cons_of_mem _ hins
    · exact hins
    · rw [trace_replied]
      exact List.mem_append_right _ hins
  · exact he

/-! ### What the history tells -/

/-- What has to have happened before an event: a packet is sent after it was queued for an IP
and the mapping of this IP was learnt, and given up after its request was sent five
times. -/
def JustifiedBy (past : List ArpEvent) : ArpEvent → Prop
  | .sent id frame _ => ∃ p addr ip mac, .queued p addr ip ∈ past ∧ p.id = id ∧
      .learnt ip mac ∈ past ∧ SameButAddresses frame p.buf
  | .gaveUp id addr => (∃ p ip, .queued p addr ip ∈ past ∧ p.id = id) ∧
      past.count (.requested addr) = 5
  | _ => True

/-- Every event of a history is justified by those before it. -/
def Justified : List ArpEvent → Prop
  | [] => True
  | e :: past => JustifiedBy past e ∧ Justified past

theorem Justified.exists_split {trace : List ArpEvent} (h : Justified trace) {e : ArpEvent}
    (he : e ∈ trace) : ∃ later past, trace = later ++ e :: past ∧ JustifiedBy past e := by
  induction trace with
  | nil => cases he
  | cons x trace ih =>
    rcases List.mem_cons.mp he with rfl | he
    · exact ⟨[], trace, rfl, h.1⟩
    · obtain ⟨later, past, rfl, hjust⟩ := ih h.2 he
      exact ⟨x :: later, past, rfl, hjust⟩

/-- What the history tells about packets and requests. -/
structure ArpRecords (st : ArpState) : Prop where
  /-- Packets are numbered in the order of queueing. -/
  queued_lt : ∀ p addr ip, .queued p addr ip ∈ st.trace → p.id < st.nextId
  /-- A packet is queued once. -/
  queued_unique : ∀ p addr ip p' addr' ip', .queued p addr ip ∈ st.trace →
    .queued p' addr' ip' ∈ st.trace → p.id = p'.id → p = p' ∧ addr = addr' ∧ ip = ip'
  /-- A packet on a list was queued for this request. -/
  pending : ∀ r ∈ st.queue.reqs, ∀ p ∈ r.packets, .queued p r.addr r.ip ∈ st.trace
  /-- A request counts how often it was sent, which is at most five times. -/
  asked : ∀ r ∈ st.queue.reqs,
    r.timesSent = st.trace.count (.requested r.addr) ∧ r.timesSent ≤ 5
  /-- A request that was sent has an address. -/
  asked_lt : ∀ addr, .requested addr ∈ st.trace → addr < st.queue.nextAddr
  /-- Every event is justified. -/
  justified : Justified st.trace

theorem arpRecords_init : ArpRecords srArpcacheInit where
  queued_lt := fun _ _ _ h => by cases h
  queued_unique := fun _ _ _ _ _ _ h => by cases h
  pending := fun _ h => by cases h
  asked := timesCounted_init.asked
  asked_lt := timesCounted_init.asked_lt
  justified := trivial

/-- Among other things the requests count how often they were sent. -/
theorem ArpRecords.timesCounted {st : ArpState} (h : ArpRecords st) : TimesCounted st :=
  ⟨h.asked, h.asked_lt⟩

/-- Events that are justified and neither queue nor ask keep the records. -/
theorem ArpRecords.note {st : ArpState} (h : ArpRecords st) {e : ArpEvent}
    (hjust : JustifiedBy st.trace e) (hqueued : ∀ p addr ip, e ≠ .queued p addr ip)
    (hasked : ∀ addr, e ≠ .requested addr) : ArpRecords (st.note e) := by
  have hold : ∀ p addr ip, .queued p addr ip ∈ (st.note e).trace →
      .queued p addr ip ∈ st.trace := by
    intro p addr ip hmem
    rcases List.mem_cons.mp hmem with heq | hmem
    · exact absurd heq.symm (hqueued p addr ip)
    · exact hmem
  have hcount := h.timesCounted.note hasked
  refine ⟨fun p addr ip hmem => h.queued_lt p addr ip (hold p addr ip hmem),
    fun p addr ip p' addr' ip' hmem hmem' =>
      h.queued_unique p addr ip p' addr' ip' (hold p addr ip hmem) (hold p' addr' ip' hmem'),
    fun r hr p hp => List.mem_cons_of_mem _ (h.pending r hr p hp), hcount.asked,
    hcount.asked_lt, hjust, h.justified⟩

theorem ArpRecords.output {st : ArpState} (h : ArpRecords st) (frame : Frame) (iface : IfName) :
    ArpRecords (st.note (.output frame iface)) :=
  h.note trivial (fun _ _ _ => by simp) fun _ => by simp

/-- Requests that were there keep their records when others are unlinked. -/
theorem ArpRecords.of_subset {st st' : ArpState} (h : ArpRecords st)
    (hsub : ∀ r ∈ st'.queue.reqs, r ∈ st.queue.reqs)
    (hnext : st'.queue.nextAddr = st.queue.nextAddr) (hid : st'.nextId = st.nextId)
    (htrace : st'.trace = st.trace) : ArpRecords st' := by
  have hcount := h.timesCounted.of_subset hsub hnext htrace
  refine ⟨?_, ?_, ?_, hcount.asked, hcount.asked_lt, ?_⟩
  · rw [htrace, hid]
    exact h.queued_lt
  · rw [htrace]
    exact h.queued_unique
  · rw [htrace]
    exact fun r hr => h.pending r (hsub r hr)
  · rw [htrace]
    exact h.justified

/-- **Queueing a packet keeps the records.** -/
theorem ArpRecords.queuereq {st : ArpState} (h : ArpRecords st) (ip : IpAddr) {packet : Frame}
    (iface : IfName) (hp : packet ≠ []) : ArpRecords (srArpcacheQueuereq ip packet iface st).1 := by
  have haddr : (st.queue.request ip).2 = (st.queue.reqFor ip).addr := (st.queue.request_spec ip).1
  have hid : (srArpcacheQueuereq ip packet iface st).1.nextId = st.nextId + 1 := by
    unfold srArpcacheQueuereq
    simp only [hp, if_false]
  have htrace : (srArpcacheQueuereq ip packet iface st).1.trace =
      .queued ⟨st.nextId, packet, iface⟩ (st.queue.reqFor ip).addr ip :: st.trace := by
    unfold srArpcacheQueuereq
    simp only [hp, if_false, haddr]
  have hcount := h.timesCounted.queuereq ip packet iface
  refine ⟨?_, ?_, ?_, hcount.asked, hcount.asked_lt, ?_⟩
  · rw [hid, htrace]
    intro p addr ip' hmem
    rcases List.mem_cons.mp hmem with heq | hmem
    · cases heq
      exact Nat.lt_succ_self _
    · exact Nat.lt_succ_of_lt (h.queued_lt p addr ip' hmem)
  · rw [htrace]
    intro p addr ip₁ p' addr' ip₂ hmem hmem' heq
    rcases List.mem_cons.mp hmem with he | hmem
    · rcases List.mem_cons.mp hmem' with he' | hmem'
      · cases he
        cases he'
        exact ⟨rfl, rfl, rfl⟩
      · cases he
        exact absurd heq.symm (Nat.ne_of_lt (h.queued_lt p' addr' ip₂ hmem'))
    · rcases List.mem_cons.mp hmem' with he' | hmem'
      · cases he'
        exact absurd heq (Nat.ne_of_lt (h.queued_lt p addr ip₁ hmem))
      · exact h.queued_unique p addr ip₁ p' addr' ip₂ hmem hmem' heq
  · rw [htrace]
    intro r hr p hpm
    rcases mem_packets_queuereq hr hpm with ⟨-, rfl, hfor, hip⟩ | ⟨s, hs, hfor, hip, hps⟩
    · rw [hfor, hip]
      exact List.mem_cons_self
    · rw [← hfor, ← hip]
      exact List.mem_cons_of_mem _ (h.pending s hs p hps)
  · rw [htrace]
    exact ⟨trivial, h.justified⟩

/-- Handing over a packet of no bytes keeps the records. -/
theorem ArpRecords.queuereq_nil {st : ArpState} (h : ArpRecords st) (ip : IpAddr)
    (iface : IfName) : ArpRecords (srArpcacheQueuereq ip [] iface st).1 := by
  have hcount := h.timesCounted.queuereq ip [] iface
  refine ⟨h.queued_lt, h.queued_unique, ?_, hcount.asked, hcount.asked_lt, h.justified⟩
  intro r hr p hpm
  rcases mem_packets_queuereq hr hpm with ⟨hne, -⟩ | ⟨s, hs, hfor, hip, hps⟩
  · exact absurd rfl hne
  · rw [← hfor, ← hip]
    exact h.pending s hs p hps

/-- Frames that are sent besides keep the records. -/
theorem ArpRecords.outputs {st : ArpState} (h : ArpRecords st) (frames : List ArpEvent)
    (hframes : ∀ e ∈ frames, ∃ frame iface, e = .output frame iface) :
    ArpRecords { st with trace := frames ++ st.trace } := by
  induction frames with
  | nil => exact h
  | cons e frames ih =>
    obtain ⟨frame, iface, rfl⟩ := hframes e List.mem_cons_self
    exact (ih fun e he => hframes e (List.mem_cons_of_mem _ he)).output frame iface

/-- **Sending a request again keeps the records.** -/
theorem ArpRecords.resent {st : ArpState} (h : ArpRecords st) {req : ArpReq}
    (hreq : req ∈ st.queue.reqs) (hlt : req.timesSent < 5) (sr : SrInstance) (now : ℤ) :
    ArpRecords (resent sr now req st) := by
  have hasked : ArpRecords { st with
      queue := st.queue.markSent req.addr now
      trace := .requested req.addr :: st.trace } := by
    have hcount := h.timesCounted.markSent hreq hlt now
    refine ⟨?_, ?_, ?_, hcount.asked, hcount.asked_lt, trivial, h.justified⟩
    · intro p addr ip hmem
      rcases List.mem_cons.mp hmem with he | hmem
      · cases he
      · exact h.queued_lt p addr ip hmem
    · intro p addr ip p' addr' ip' hmem hmem'
      rcases List.mem_cons.mp hmem with he | hmem
      · cases he
      · rcases List.mem_cons.mp hmem' with he' | hmem'
        · cases he'
        · exact h.queued_unique p addr ip p' addr' ip' hmem hmem'
    · intro r hr p hpm
      rcases (mem_markSent hreq now).mp hr with rfl | ⟨hr, -⟩
      · exact List.mem_cons_of_mem _ (h.pending req hreq p hpm)
      · exact List.mem_cons_of_mem _ (h.pending r hr p hpm)
  rw [resent_eq]
  exact hasked.outputs _ fun _ he => output_of_mem_requestFrames he

/-- **Handling a request keeps the records.** -/
theorem handleArpreq_records {sr : SrInstance} {now : ℤ} {fuel addr : ℕ} {st st' : ArpState}
    (hst : ArpRecords st) (h : handleArpreq sr now fuel addr st = .ok st') : ArpRecords st' := by
  refine handleArpreq_rule ?_ (fun s buf mac outIface _ hs => hs.output _ outIface.name)
    (fun s ip buf outIface _ hs =>
      hs.queuereq ip outIface.name (icmpErrorFrame_ne_nil sr 3 1 outIface buf 14))
    (fun s r hs hr hlt => hs.resent hr hlt sr now) ?_ hst h
  · intro s r p hp hs hr hdoom
    -- a request that is due was sent five times
    obtain ⟨hcount, hle⟩ := hs.asked r hr
    have hfive : s.trace.count (.requested r.addr) = 5 := by
      have := hdoom.2
      omega
    exact hs.note ⟨⟨p, r.ip, hs.pending r hr p hp, rfl⟩, hfive⟩ (fun _ _ _ => by simp)
      fun _ => by simp
  · intro s r hs hr _
    exact hs.of_subset (fun s hmem => (mem_destroy.mp hmem).1) rfl rfl rfl

/-- The packets of a request are sent once the mapping of its IP is known. -/
theorem ArpRecords.sendPending {st : ArpState} (h : ArpRecords st) {packets : List QueuedPacket}
    {addr : ℕ} {ip : IpAddr} {mac : Mac} (hpackets : ∀ p ∈ packets, .queued p addr ip ∈ st.trace)
    (hlearnt : .learnt ip mac ∈ st.trace) (dhost shost : Mac) (iface : SrIf) :
    ArpRecords (srArpReplySendPendingPackets packets dhost shost iface st) := by
  unfold srArpReplySendPendingPackets
  induction packets generalizing st with
  | nil => exact h
  | cons p packets ih =>
    have hsent : ArpRecords (st.note (.sent p.id (readdressed dhost shost p.buf) iface.name)) :=
      h.note ⟨p, addr, ip, mac, hpackets p List.mem_cons_self, rfl, hlearnt,
        readdressed_sameButAddresses dhost shost p.buf⟩ (fun _ _ _ => by simp) fun _ => by simp
    exact ih hsent
      (fun q hq => List.mem_cons_of_mem _ (hpackets q (List.mem_cons_of_mem _ hq)))
      (List.mem_cons_of_mem _ hlearnt)

theorem ArpRecords.insert {st : ArpState} (h : ArpRecords st) (mac : Mac) (ip : IpAddr) (now : ℤ) :
    ArpRecords (srArpcacheInsert mac ip now st).1 := by
  have hlearnt : ArpRecords (st.note (.learnt ip mac)) :=
    h.note trivial (fun _ _ _ => by simp) fun _ => by simp
  exact hlearnt.of_subset (fun r hr => (mem_insert.mp hr).1) rfl rfl rfl

/-- **Every step keeps the records.** -/
theorem arpStep_records {c : ArpCall} {st st' : ArpState} (hst : ArpRecords st)
    (h : arpStep c st = .ok st') : ArpRecords st' := by
  obtain ⟨ip, packet, iface, rfl⟩ | ⟨addr, hcall⟩ | ⟨n, curr, hsweep⟩ |
    ⟨packet, -, -, hrecv⟩ | rfl := arpStep_cases h
  · by_cases hp : packet = []
    · subst hp
      exact hst.queuereq_nil ip iface
    · exact hst.queuereq ip iface hp
  · exact handleArpreq_records hst hcall
  · have hstart : ArpRecords { st with entries := expireEntries c.now st.entries } :=
      hst.of_subset (fun _ hr => hr) rfl rfl rfl
    exact sweepreqsLoop_invariant (fun _ _ _ hs hcall => handleArpreq_records hs hcall) hstart
      hsweep
  · have hins := hst.insert (arSha packet) (arSip packet) c.now
    rcases srHandleArpPacket_cases hrecv with ⟨-, rfl⟩ | ⟨i, -, -, rfl⟩ | ⟨-, rfl⟩ |
      ⟨req, iface, -, hfind, -, rfl⟩
    · exact hst
    · exact hins.output _ _
    · exact hins
    · obtain ⟨hreq, hip⟩ := ArpQueue.find_eq_some.mp hfind
      have hpackets : ∀ p ∈ req.packets,
          .queued p req.addr (arSip packet) ∈ (afterInsert c.now packet st).trace := by
        intro p hp
        rw [← hip]
        exact List.mem_cons_of_mem _ (hst.pending req hreq p hp)
      have hsent := hins.sendPending hpackets List.mem_cons_self iface.addr (arSha packet) iface
      exact hsent.of_subset (fun r hr => List.mem_of_mem_eraseP hr) rfl rfl rfl
  · exact hst

/-! ### Every packet is settled -/

/-- The packet is on the list of the request it was queued for, and on no other. -/
def Waiting (st : ArpState) (p : QueuedPacket) (addr : ℕ) (ip : IpAddr) : Prop :=
  placed st p.id = 1 ∧ ∃ r ∈ st.queue.reqs, r.addr = addr ∧ r.ip = ip ∧ p ∈ r.packets

/-- The packet was sent once, with other Ethernet addresses, after the mapping of its next
hop was learnt. -/
def SentOnce (st : ArpState) (p : QueuedPacket) (ip : IpAddr) : Prop :=
  sentTimes st p.id = 1 ∧ ∃ later frame iface past,
    st.trace = later ++ .sent p.id frame iface :: past ∧
      (∃ mac, .learnt ip mac ∈ past) ∧ SameButAddresses frame p.buf

/-- The packet was given up once, after its request had been sent five times. -/
def GivenUpOnce (st : ArpState) (p : QueuedPacket) (addr : ℕ) : Prop :=
  gaveUpTimes st p.id = 1 ∧ ∃ later past,
    st.trace = later ++ .gaveUp p.id addr :: past ∧ past.count (.requested addr) = 5

/-- The packet is in exactly one situation. -/
def InOneSituation (st : ArpState) (p : QueuedPacket) (addr : ℕ) (ip : IpAddr) : Prop :=
  (Waiting st p addr ip ∧ sentTimes st p.id = 0 ∧ gaveUpTimes st p.id = 0) ∨
  (placed st p.id = 0 ∧ SentOnce st p ip ∧ gaveUpTimes st p.id = 0) ∨
  (placed st p.id = 0 ∧ sentTimes st p.id = 0 ∧ GivenUpOnce st p addr)

/-- Every packet handed to `sr_arpcache_queuereq` is in exactly one situation. -/
def Settled (st : ArpState) : Prop :=
  ∀ p addr ip, .queued p addr ip ∈ st.trace → InOneSituation st p addr ip

/-- A packet in one situation has a balanced account. -/
theorem InOneSituation.total {st : ArpState} {p : QueuedPacket} {addr : ℕ} {ip : IpAddr}
    (h : InOneSituation st p addr ip) :
    placed st p.id + sentTimes st p.id + gaveUpTimes st p.id = 1 := by
  rcases h with ⟨⟨hplaced, -⟩, hsent, hgave⟩ | ⟨hplaced, ⟨hsent, -⟩, hgave⟩ |
    ⟨hplaced, hsent, hgave, -⟩ <;> omega

/-- A packet that was sent was sent for the next hop it was queued for. -/
theorem ArpRecords.exists_sent {st : ArpState} (h : ArpRecords st) {p : QueuedPacket} {addr : ℕ}
    {ip : IpAddr} (hq : .queued p addr ip ∈ st.trace) (hsent : 0 < sentTimes st p.id) :
    ∃ later frame iface past, st.trace = later ++ .sent p.id frame iface :: past ∧
      (∃ mac, .learnt ip mac ∈ past) ∧ SameButAddresses frame p.buf := by
  obtain ⟨e, he, hid⟩ := List.countP_pos_iff.mp hsent
  obtain ⟨frame, iface, rfl⟩ := ArpEvent.isSent_iff.mp hid
  obtain ⟨later, past, htrace, hjust⟩ := h.justified.exists_split he
  obtain ⟨p', addr', ip', mac, hq', hid', hlearnt, hsame⟩ := hjust
  have hold : .queued p' addr' ip' ∈ st.trace := by
    rw [htrace]
    exact List.mem_append_right _ (List.mem_cons_of_mem _ hq')
  obtain ⟨rfl, -, rfl⟩ := h.queued_unique p' addr' ip' p addr ip hold hq hid'
  exact ⟨later, frame, iface, past, htrace, ⟨mac, hlearnt⟩, hsame⟩

/-- A packet that was given up was so with its request. -/
theorem ArpRecords.exists_gaveUp {st : ArpState} (h : ArpRecords st) {p : QueuedPacket} {addr : ℕ}
    {ip : IpAddr} (hq : .queued p addr ip ∈ st.trace) (hgave : 0 < gaveUpTimes st p.id) :
    ∃ later past, st.trace = later ++ .gaveUp p.id addr :: past ∧
      past.count (.requested addr) = 5 := by
  obtain ⟨e, he, hid⟩ := List.countP_pos_iff.mp hgave
  obtain ⟨addr', rfl⟩ := ArpEvent.isGaveUp_iff.mp hid
  obtain ⟨later, past, htrace, hjust⟩ := h.justified.exists_split he
  obtain ⟨⟨p', ip', hq', hid'⟩, hfive⟩ := hjust
  have hold : .queued p' addr' ip' ∈ st.trace := by
    rw [htrace]
    exact List.mem_append_right _ (List.mem_cons_of_mem _ hq')
  obtain ⟨-, rfl, -⟩ := h.queued_unique p' addr' ip' p addr ip hold hq hid'
  exact ⟨later, past, htrace, hfive⟩

/-- A packet on a list is on the list of the request it was queued for. -/
theorem ArpRecords.exists_waiting {st : ArpState} (h : ArpRecords st) {p : QueuedPacket}
    {addr : ℕ} {ip : IpAddr} (hq : .queued p addr ip ∈ st.trace) (hplaced : 0 < placed st p.id) :
    ∃ r ∈ st.queue.reqs, r.addr = addr ∧ r.ip = ip ∧ p ∈ r.packets := by
  obtain ⟨q, hqmem, hid⟩ := List.countP_pos_iff.mp hplaced
  simp only [decide_eq_true_eq] at hid
  obtain ⟨r, hr, hqr⟩ := List.mem_flatMap.mp hqmem
  obtain ⟨rfl, rfl, rfl⟩ := h.queued_unique q r.addr r.ip p addr ip (h.pending r hr q hqr) hq hid
  exact ⟨r, hr, rfl, rfl, hqr⟩

/-- **With balanced accounts every packet is in exactly one situation.** -/
theorem settled_of_balanced {st : ArpState} (h : ArpRecords st) (hbal : ∀ id, balance st id = 0) :
    Settled st := by
  intro p addr ip hq
  have htotal : placed st p.id + sentTimes st p.id + gaveUpTimes st p.id = 1 := by
    have hzero := hbal p.id
    unfold balance at hzero
    rw [if_pos (h.queued_lt p addr ip hq)] at hzero
    omega
  rcases Nat.eq_zero_or_pos (placed st p.id) with hplaced | hplaced
  · rcases Nat.eq_zero_or_pos (sentTimes st p.id) with hsent | hsent
    · have hgave : gaveUpTimes st p.id = 1 := by omega
      exact .inr (.inr ⟨hplaced, hsent, hgave, h.exists_gaveUp hq (by omega)⟩)
    · have hone : sentTimes st p.id = 1 := by omega
      exact .inr (.inl ⟨hplaced, ⟨hone, h.exists_sent hq hsent⟩, by omega⟩)
  · have hone : placed st p.id = 1 := by omega
    exact .inl ⟨⟨hone, h.exists_waiting hq hplaced⟩, by omega, by omega⟩

/-- In a run whose steps drop no packets the accounts are balanced. -/
theorem balanced_of_run {st : ArpState} (h : ArpRun (fun c st => ¬ DropsPackets c st) st) :
    ArpRecords st ∧ ∀ id, balance st id = 0 := by
  induction h with
  | init => exact ⟨arpRecords_init, fun id => by simp [balance, placed, sentTimes, gaveUpTimes,
      srArpcacheInit]⟩
  | step _ hkeep hstep ih =>
    exact ⟨arpStep_records ih.1 hstep, fun id => (arpStep_balance hkeep hstep id).trans (ih.2 id)⟩

/-- A step that drops packets leaves one that is in no situation. -/
theorem not_settled_of_drops {c : ArpCall} {st st' : ArpState} (hrec : ArpRecords st)
    (hbal : ∀ id, balance st id = 0) (hdrop : DropsPackets c st) (h : arpStep c st = .ok st') :
    ¬ Settled st' := by
  intro hsettled
  have hrec' := arpStep_records hrec h
  obtain ⟨packet, r, frame, iface, hr, hip, hne, rfl⟩ := arpStep_of_drops hdrop h
  obtain ⟨p, hp⟩ := List.exists_mem_of_ne_nil _ hne
  have hq : .queued p r.addr r.ip ∈
      ((afterInsert c.now packet st).note (.output frame iface)).trace :=
    List.mem_cons_of_mem _ (List.mem_cons_of_mem _ (hrec.pending r hr p hp))
  have htotal := (hsettled p r.addr r.ip hq).total
  have hbalance : balance ((afterInsert c.now packet st).note (.output frame iface)) p.id = 0 := by
    unfold balance
    rw [if_pos (hrec'.queued_lt p r.addr r.ip hq)]
    omega
  have hins := balance_afterInsert c.now hr hip p.id
  rw [balance_note_of_neutral (isNeutral_output frame iface)] at hbalance
  rw [hbalance, hbal] at hins
  have hpos : 0 < r.packets.countP fun q => q.id = p.id :=
    List.countP_pos_iff.mpr ⟨p, hp, by simp⟩
  omega

/-- **In a run without an ARP request that drops packets, every packet handed to
`sr_arpcache_queuereq` is in exactly one situation**: it waits on one request, was sent once
after its next hop's mapping was learnt, or was given up once after five requests.  A request
that drops packets then leaves one in none. -/
theorem settled_of_run {st : ArpState} (hrun : ArpRun (fun c st => ¬ DropsPackets c st) st) :
    Settled st ∧
      ∀ c st', DropsPackets c st → arpStep c st = .ok st' → ¬ Settled st' := by
  obtain ⟨hrec, hbal⟩ := balanced_of_run hrun
  refine ⟨settled_of_balanced hrec hbal, ?_⟩
  intro c st' hdrop hstep
  exact not_settled_of_drops hrec hbal hdrop hstep

/-! ### The gateway answers, or asks -/

/-- A datagram waits for the gateway 10.0.1.2. -/
def oneWaiting : ArpState :=
  (srArpcacheQueuereq 0x0201000a localFrame "eth1".toList srArpcacheInit).1

/-- An ARP packet of the gateway for the router's address 10.0.1.1. -/
def gatewayArp (op : UInt8) : Frame :=
  [0x01, 0x01, 0x01, 0x01, 0x01, 0x01, 0x02, 0x02, 0x02, 0x02, 0x02, 0x02, 0x08, 0x06,
    0x00, 0x01, 0x08, 0x00, 0x06, 0x04, 0x00, op,
    0x02, 0x02, 0x02, 0x02, 0x02, 0x02, 0x0a, 0x00, 0x01, 0x02,
    0x01, 0x01, 0x01, 0x01, 0x01, 0x01, 0x0a, 0x00, 0x01, 0x01]

/-- Receiving it. -/
def gatewaySends (op : UInt8) : ArpCall := ⟨gatewayRouter, 10, 9, .receive (gatewayArp op)⟩

theorem oneWaiting_run (P : ArpCall → ArpState → Prop)
    (h : P ⟨gatewayRouter, 10, 9, .queue 0x0201000a localFrame "eth1".toList⟩ srArpcacheInit) :
    ArpRun P oneWaiting := .step .init h rfl

/-- A datagram is sent when the gateway answers. -/
theorem reply_settled : ∃ st, arpStep (gatewaySends 2) oneWaiting = .ok st ∧ Settled st ∧
    sentTimes st 0 = 1 := by
  have hrun : ArpRun (fun c st => ¬ DropsPackets c st) oneWaiting := by
    refine oneWaiting_run _ ?_
    rintro ⟨packet, hin, -⟩
    cases hin
  have hkeep : ¬ DropsPackets (gatewaySends 2) oneWaiting := by
    rintro ⟨packet, hin, -, hop, -⟩
    cases hin
    exact absurd hop (by decide)
  refine ⟨_, rfl, (settled_of_run (.step hrun hkeep rfl)).1, by decide⟩

/-- **An ARP request of the gateway loses the datagram that waits for it.** -/
theorem request_not_settled : ¬ ∀ st, ArpRun (fun _ _ => True) st → Settled st := by
  intro hall
  have hrun : ArpRun (fun c st => ¬ DropsPackets c st) oneWaiting := by
    refine oneWaiting_run _ ?_
    rintro ⟨packet, hin, -⟩
    cases hin
  obtain ⟨hrec, hbal⟩ := balanced_of_run hrun
  have hdrop : DropsPackets (gatewaySends 1) oneWaiting :=
    ⟨gatewayArp 1, rfl, by decide, by decide, by decide, _, List.mem_cons_self, by decide,
      by decide⟩
  obtain ⟨st, hstep⟩ : ∃ st, arpStep (gatewaySends 1) oneWaiting = .ok st := ⟨_, rfl⟩
  exact not_settled_of_drops hrec hbal hdrop hstep
    (hall st (.step (oneWaiting_run _ trivial) trivial hstep))

end Redes
