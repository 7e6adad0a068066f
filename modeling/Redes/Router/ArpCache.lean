import Mathlib.Data.Int.Notation
import Redes.Lib.Keyed
import Redes.Router.Frame

/-!
# The ARP cache and its request queue

`struct sr_arpcache` and the functions of `sr_arpcache.c` that only work on it.  A request
of the queue is known by the address of its record, so that a pointer to a record that has
been freed is told from a new record for the same IP.  Next to the cache, a state keeps
the history of what has been done: it is never read, and lets statements about runs
speak of the packets that were queued, sent and given up.

## Main definitions

* `ArpEntry`, `srArpcacheLookup`, `learnEntry`, `expireEntries` — the mappings.
* `QueuedPacket`, `ArpReq`, `ArpQueue` — the requests, with different IPs and addresses.
* `ArpEvent`, `ArpState` — the cache and its history.
* `srArpcacheQueuereq`, `srArpcacheInsert`, `srArpreqDestroy` — the operations.

## Main results

* `mem_queuereq`, `queuereq_perm` — the requests after `sr_arpcache_queuereq`.
* `mem_insert`, `mem_destroy` — the requests after the other two.
-/

namespace Redes

/-! ### Mappings -/

/-- `SR_ARPCACHE_SZ`. -/
def srArpcacheSz : ℕ := 100

/-- `SR_ARPCACHE_TO`. -/
def srArpcacheTo : ℤ := 15

/-- `struct sr_arpentry`: a slot for a mapping. -/
structure ArpEntry where
  /-- The hardware address. -/
  mac : Mac
  /-- The IP address it belongs to. -/
  ip : IpAddr
  /-- When the mapping was put there. -/
  added : ℤ
  /-- Is the slot in use? -/
  valid : Bool
  deriving DecidableEq, Inhabited

/-- `sr_arpcache_lookup`: the loop runs through all slots, so the last match is taken. -/
def srArpcacheLookup (entries : List ArpEntry) (ip : IpAddr) : Option ArpEntry :=
  entries.foldl (fun entry e => if e.valid ∧ e.ip = ip then some e else entry) none

/-- The second half of `sr_arpcache_insert`: the first free slot takes the mapping.  If all
are in use the mapping is not kept. -/
def learnEntry (mac : Mac) (ip : IpAddr) (now : ℤ) : List ArpEntry → List ArpEntry
  | [] => []
  | e :: rest => if e.valid then e :: learnEntry mac ip now rest else ⟨mac, ip, now, true⟩ :: rest

/-- The loop of `sr_arpcache_timeout` over the slots. -/
def expireEntries (now : ℤ) (entries : List ArpEntry) : List ArpEntry :=
  entries.map fun e =>
    if e.valid ∧ srArpcacheTo < now - e.added then { e with valid := false } else e

/-! ### Requests -/

/-- `struct sr_packet`: a frame that waits for its next hop. -/
structure QueuedPacket where
  /-- Which packet it is, in the order of queueing. -/
  id : ℕ
  /-- The frame. -/
  buf : Frame
  /-- The interface it was queued with. -/
  iface : IfName
  deriving DecidableEq

/-- `struct sr_arpreq`: a request that has not been answered. -/
structure ArpReq where
  /-- Address of the record. -/
  addr : ℕ
  /-- The IP that is asked for. -/
  ip : IpAddr
  /-- When it was sent last, zero if never. -/
  sent : ℤ
  /-- How often it was sent. -/
  timesSent : ℕ
  /-- The packets waiting for it, the last one queued first. -/
  packets : List QueuedPacket
  deriving DecidableEq

/-- The request with one more packet. -/
def ArpReq.push (r : ArpReq) (p : QueuedPacket) : ArpReq := { r with packets := p :: r.packets }

/-- The request after it was sent once more. -/
def ArpReq.sentAt (r : ArpReq) (now : ℤ) : ArpReq :=
  { r with sent := now, timesSent := r.timesSent + 1 }

/-- The list of requests, the newest first, and the address the next record will have. -/
structure ArpQueue where
  /-- The requests. -/
  reqs : List ArpReq
  /-- The address of the next record. -/
  nextAddr : ℕ
  /-- There is one request for an IP. -/
  ips_nodup : (reqs.map ArpReq.ip).Nodup
  /-- Different records have different addresses. -/
  addrs_nodup : (reqs.map ArpReq.addr).Nodup
  /-- No record has the address yet. -/
  addr_lt : ∀ r ∈ reqs, r.addr < nextAddr
  deriving DecidableEq

/-- The request for an IP. -/
def ArpQueue.find (q : ArpQueue) (ip : IpAddr) : Option ArpReq := q.reqs.find? fun r => r.ip = ip

/-- The record at an address; `none` if it has been freed. -/
def ArpQueue.deref (q : ArpQueue) (addr : ℕ) : Option ArpReq := q.reqs.find? fun r => r.addr = addr

/-- A record as `calloc` leaves it, with its IP. -/
def ArpQueue.fresh (q : ArpQueue) (ip : IpAddr) : ArpReq := ⟨q.nextAddr, ip, 0, 0, []⟩

/-- A new request at the front. -/
def ArpQueue.add (q : ArpQueue) (ip : IpAddr) (h : q.find ip = none) : ArpQueue where
  reqs := q.fresh ip :: q.reqs
  nextAddr := q.nextAddr + 1
  ips_nodup := by
    rw [List.map_cons, List.nodup_cons]
    refine ⟨?_, q.ips_nodup⟩
    intro hmem
    obtain ⟨r, hr, hip⟩ := List.mem_map.mp hmem
    exact Keyed.find?_eq_none.mp h r hr hip
  addrs_nodup := by
    rw [List.map_cons, List.nodup_cons]
    refine ⟨?_, q.addrs_nodup⟩
    intro hmem
    obtain ⟨r, hr, haddr⟩ := List.mem_map.mp hmem
    exact absurd haddr (Nat.ne_of_lt (q.addr_lt r hr))
  addr_lt := by
    intro r hr
    rcases List.mem_cons.mp hr with rfl | hr
    · exact Nat.lt_succ_self _
    · exact Nat.lt_succ_of_lt (q.addr_lt r hr)

/-- Change the record at an address, but neither its IP nor its address. -/
def ArpQueue.update (q : ArpQueue) (addr : ℕ) (f : ArpReq → ArpReq) (hip : ∀ r, (f r).ip = r.ip)
    (haddr : ∀ r, (f r).addr = r.addr) : ArpQueue where
  reqs := Keyed.update ArpReq.addr addr f q.reqs
  nextAddr := q.nextAddr
  ips_nodup := by
    rw [Keyed.map_update hip]
    exact q.ips_nodup
  addrs_nodup := by
    rw [Keyed.map_update haddr]
    exact q.addrs_nodup
  addr_lt := by
    intro r hr
    rcases Keyed.mem_update.mp hr with ⟨hr, -⟩ | ⟨r', hr', -, rfl⟩
    · exact q.addr_lt r hr
    · rw [haddr]
      exact q.addr_lt r' hr'

/-- Put a packet at the front of a request's list. -/
def ArpQueue.push (q : ArpQueue) (addr : ℕ) (p : QueuedPacket) : ArpQueue :=
  q.update addr (·.push p) (fun _ => rfl) fun _ => rfl

/-- Note that a request was sent. -/
def ArpQueue.markSent (q : ArpQueue) (addr : ℕ) (now : ℤ) : ArpQueue :=
  q.update addr (·.sentAt now) (fun _ => rfl) fun _ => rfl

/-- Unlink the first request with a property. -/
def ArpQueue.unlink (q : ArpQueue) (p : ArpReq → Bool) : ArpQueue where
  reqs := q.reqs.eraseP p
  nextAddr := q.nextAddr
  ips_nodup := Keyed.nodup_map_eraseP q.ips_nodup p
  addrs_nodup := Keyed.nodup_map_eraseP q.addrs_nodup p
  addr_lt := fun r hr => q.addr_lt r (List.mem_of_mem_eraseP hr)

/-! ### The state and its history -/

/-- What can happen to packets, requests and mappings. -/
inductive ArpEvent
  /-- A packet was put on the list of the request at `addr` for `ip`. -/
  | queued (p : QueuedPacket) (addr : ℕ) (ip : IpAddr)
  /-- The request at `addr` was sent. -/
  | requested (addr : ℕ)
  /-- `host_unreachable` took the packet `id` of the request at `addr`. -/
  | gaveUp (id : ℕ) (addr : ℕ)
  /-- `sr_arpcache_insert` was given a mapping. -/
  | learnt (ip : IpAddr) (mac : Mac)
  /-- The packet `id` was sent as `frame`. -/
  | sent (id : ℕ) (frame : Frame) (iface : IfName)
  /-- Another frame was sent. -/
  | output (frame : Frame) (iface : IfName)
  deriving DecidableEq

/-- The ARP cache and what has happened, the last event first. -/
structure ArpState where
  /-- The slots for mappings. -/
  entries : List ArpEntry
  /-- The requests. -/
  queue : ArpQueue
  /-- The number of packets queued so far. -/
  nextId : ℕ
  /-- The history. -/
  trace : List ArpEvent
  deriving DecidableEq

/-- `sr_arpcache_init`: no mapping and no request. -/
def srArpcacheInit : ArpState where
  entries := List.replicate srArpcacheSz ⟨default, 0, 0, false⟩
  queue := ⟨[], 0, List.nodup_nil, List.nodup_nil, by simp⟩
  nextId := 0
  trace := []

/-- Note an event. -/
def ArpState.note (st : ArpState) (e : ArpEvent) : ArpState := { st with trace := e :: st.trace }

/-- The first half of `sr_arpcache_queuereq`: the request for an IP, a new one if there is
none, and its address. -/
def ArpQueue.request (q : ArpQueue) (ip : IpAddr) : ArpQueue × ℕ :=
  match h : q.find ip with
  | some r => (q, r.addr)
  | none => (q.add ip h, q.nextAddr)

/-- `sr_arpcache_queuereq`: a packet of no bytes is not put on the list.  The result is the
address of the request. -/
def srArpcacheQueuereq (ip : IpAddr) (packet : Frame) (iface : IfName) (st : ArpState) :
    ArpState × ℕ :=
  let (queue, addr) := st.queue.request ip
  if packet = [] then ({ st with queue := queue }, addr)
  else
    let p : QueuedPacket := ⟨st.nextId, packet, iface⟩
    ({ entries := st.entries
       queue := queue.push addr p
       nextId := st.nextId + 1
       trace := .queued p addr ip :: st.trace }, addr)

/-- `sr_arpcache_insert`: unlinks the request for the IP, which is the result, and keeps
the mapping. -/
def srArpcacheInsert (mac : Mac) (ip : IpAddr) (now : ℤ) (st : ArpState) :
    ArpState × Option ArpReq :=
  ({ entries := learnEntry mac ip now st.entries
     queue := st.queue.unlink fun r => r.ip = ip
     nextId := st.nextId
     trace := .learnt ip mac :: st.trace }, st.queue.find ip)

/-- `sr_arpreq_destroy`: unlinks the record and frees it. -/
def srArpreqDestroy (addr : ℕ) (st : ArpState) : ArpState :=
  { st with queue := st.queue.unlink fun r => r.addr = addr }

/-! ### Finding requests -/

theorem ArpQueue.find_eq_some {q : ArpQueue} {ip : IpAddr} {r : ArpReq} :
    q.find ip = some r ↔ r ∈ q.reqs ∧ r.ip = ip := Keyed.find?_eq_some q.ips_nodup

theorem ArpQueue.find_eq_none {q : ArpQueue} {ip : IpAddr} :
    q.find ip = none ↔ ∀ r ∈ q.reqs, r.ip ≠ ip := Keyed.find?_eq_none

theorem ArpQueue.deref_eq_some {q : ArpQueue} {addr : ℕ} {r : ArpReq} :
    q.deref addr = some r ↔ r ∈ q.reqs ∧ r.addr = addr := Keyed.find?_eq_some q.addrs_nodup

theorem ArpQueue.deref_eq_none {q : ArpQueue} {addr : ℕ} :
    q.deref addr = none ↔ ∀ r ∈ q.reqs, r.addr ≠ addr := Keyed.find?_eq_none

/-- Two requests for one IP are one request. -/
theorem ArpQueue.eq_of_ip {q : ArpQueue} {r s : ArpReq} (hr : r ∈ q.reqs) (hs : s ∈ q.reqs)
    (h : r.ip = s.ip) : r = s := List.inj_on_of_nodup_map q.ips_nodup hr hs h

/-- Two requests at one address are one request. -/
theorem ArpQueue.eq_of_addr {q : ArpQueue} {r s : ArpReq} (hr : r ∈ q.reqs) (hs : s ∈ q.reqs)
    (h : r.addr = s.addr) : r = s := List.inj_on_of_nodup_map q.addrs_nodup hr hs h

theorem ArpQueue.mem_unlink_addr {q : ArpQueue} {addr : ℕ} {r : ArpReq} :
    r ∈ (q.unlink fun r => r.addr = addr).reqs ↔ r ∈ q.reqs ∧ r.addr ≠ addr :=
  Keyed.mem_eraseP q.addrs_nodup

theorem ArpQueue.mem_unlink_ip {q : ArpQueue} {ip : IpAddr} {r : ArpReq} :
    r ∈ (q.unlink fun r => r.ip = ip).reqs ↔ r ∈ q.reqs ∧ r.ip ≠ ip :=
  Keyed.mem_eraseP q.ips_nodup

/-- Unlinking by address and by IP are the same for a request of the queue. -/
theorem ArpQueue.eraseP_addr_eq {q : ArpQueue} {r : ArpReq} (hr : r ∈ q.reqs) :
    (q.reqs.eraseP fun s => s.addr = r.addr) = q.reqs.eraseP fun s => s.ip = r.ip := by
  rw [Keyed.eraseP_eq_filter q.addrs_nodup, Keyed.eraseP_eq_filter q.ips_nodup]
  refine List.filter_congr ?_
  intro s hs
  have hiff : s.addr = r.addr ↔ s.ip = r.ip :=
    ⟨fun h => by rw [q.eq_of_addr hs hr h], fun h => by rw [q.eq_of_ip hs hr h]⟩
  simp [hiff]

/-! ### Queueing a packet -/

/-- The request that a packet for `ip` joins. -/
def ArpQueue.reqFor (q : ArpQueue) (ip : IpAddr) : ArpReq := (q.find ip).getD (q.fresh ip)

theorem ArpQueue.reqFor_of_mem {q : ArpQueue} {r : ArpReq} (hr : r ∈ q.reqs) :
    q.reqFor r.ip = r := by
  rw [reqFor, find_eq_some.mpr ⟨hr, rfl⟩, Option.getD_some]

/-- It is a request of the queue, or a new one. -/
theorem ArpQueue.reqFor_cases (q : ArpQueue) (ip : IpAddr) :
    q.reqFor ip ∈ q.reqs ∨ (q.find ip = none ∧ q.reqFor ip = q.fresh ip) := by
  unfold reqFor
  cases h : q.find ip with
  | none => exact .inr ⟨rfl, rfl⟩
  | some r => exact .inl (find_eq_some.mp h).1

@[simp] theorem ArpQueue.reqFor_ip (q : ArpQueue) (ip : IpAddr) : (q.reqFor ip).ip = ip := by
  unfold reqFor
  cases h : q.find ip with
  | none => rfl
  | some r => exact (find_eq_some.mp h).2

/-- A new request has no packets. -/
theorem ArpQueue.reqFor_mem_of_packets {q : ArpQueue} {ip : IpAddr} {p : QueuedPacket}
    (hp : p ∈ (q.reqFor ip).packets) : q.reqFor ip ∈ q.reqs := by
  rcases q.reqFor_cases ip with hmem | ⟨-, hfresh⟩
  · exact hmem
  · rw [hfresh] at hp
    cases hp

/-- The queue in which the request for an IP exists. -/
theorem ArpQueue.request_spec (q : ArpQueue) (ip : IpAddr) :
    (q.request ip).2 = (q.reqFor ip).addr ∧
      (q.request ip).1.reqs.Perm (q.reqFor ip :: q.reqs.eraseP fun r => r.ip = ip) ∧
      q.nextAddr ≤ (q.request ip).1.nextAddr := by
  unfold request
  split
  · next r h =>
    have hr := find_eq_some.mp h
    have hfor : q.reqFor ip = r := by rw [← hr.2, reqFor_of_mem hr.1]
    rw [hfor, ← hr.2]
    exact ⟨rfl, Keyed.perm_cons_eraseP q.ips_nodup hr.1, Nat.le_refl _⟩
  · next h =>
    have hfor : q.reqFor ip = q.fresh ip := by rw [reqFor, h, Option.getD_none]
    have herase : (q.reqs.eraseP fun r => r.ip = ip) = q.reqs :=
      List.eraseP_of_forall_not fun r hr => by simpa using find_eq_none.mp h r hr
    rw [hfor, herase]
    exact ⟨rfl, List.Perm.refl _, Nat.le_succ _⟩

/-- **The requests after `sr_arpcache_queuereq`**: the one for the IP, with the packet in
front, and the others as they were. -/
theorem queuereq_perm {ip : IpAddr} {packet : Frame} {iface : IfName} {st : ArpState}
    (hp : packet ≠ []) :
    (srArpcacheQueuereq ip packet iface st).1.queue.reqs.Perm
      ((st.queue.reqFor ip).push ⟨st.nextId, packet, iface⟩ ::
        st.queue.reqs.eraseP fun r => r.ip = ip) := by
  obtain ⟨haddr, hperm, -⟩ := st.queue.request_spec ip
  have hmem : st.queue.reqFor ip ∈ (st.queue.request ip).1.reqs :=
    hperm.symm.subset List.mem_cons_self
  have hupd := Keyed.update_perm (st.queue.request ip).1.addrs_nodup hmem
    (·.push ⟨st.nextId, packet, iface⟩)
  unfold srArpcacheQueuereq ArpQueue.push ArpQueue.update
  simp only [hp, if_false, haddr]
  refine hupd.trans (List.Perm.cons _ ?_)
  -- the others are those before the request was there
  have hrest := (Keyed.perm_cons_eraseP (st.queue.request ip).1.addrs_nodup hmem).symm.trans hperm
  exact (List.perm_cons _).mp hrest

theorem queuereq_nil_perm {ip : IpAddr} {iface : IfName} {st : ArpState} :
    (srArpcacheQueuereq ip [] iface st).1.queue.reqs.Perm
      (st.queue.reqFor ip :: st.queue.reqs.eraseP fun r => r.ip = ip) :=
  (st.queue.request_spec ip).2.1

@[simp] theorem queuereq_addr (ip : IpAddr) (packet : Frame) (iface : IfName) (st : ArpState) :
    (srArpcacheQueuereq ip packet iface st).2 = (st.queue.reqFor ip).addr := by
  unfold srArpcacheQueuereq
  simp only
  split <;> exact (st.queue.request_spec ip).1

@[simp] theorem queuereq_entries (ip : IpAddr) (packet : Frame) (iface : IfName) (st : ArpState) :
    (srArpcacheQueuereq ip packet iface st).1.entries = st.entries := by
  unfold srArpcacheQueuereq
  simp only
  split <;> rfl

theorem mem_queuereq {ip : IpAddr} {packet : Frame} {iface : IfName} {st : ArpState}
    (hp : packet ≠ []) {r : ArpReq} :
    r ∈ (srArpcacheQueuereq ip packet iface st).1.queue.reqs ↔
      r = (st.queue.reqFor ip).push ⟨st.nextId, packet, iface⟩ ∨
        (r ∈ st.queue.reqs ∧ r.ip ≠ ip) := by
  rw [(queuereq_perm hp).mem_iff, List.mem_cons, Keyed.mem_eraseP st.queue.ips_nodup]

theorem mem_queuereq_self (ip : IpAddr) {packet : Frame} {iface : IfName} {st : ArpState}
    (hp : packet ≠ []) : (st.queue.reqFor ip).push ⟨st.nextId, packet, iface⟩ ∈
      (srArpcacheQueuereq ip packet iface st).1.queue.reqs :=
  (mem_queuereq hp).mpr (.inl rfl)

/-- Only the new packet joins a list; the others are on the lists they were on. -/
theorem mem_packets_queuereq {ip : IpAddr} {packet : Frame} {iface : IfName} {st : ArpState}
    {r : ArpReq} (hr : r ∈ (srArpcacheQueuereq ip packet iface st).1.queue.reqs)
    {q : QueuedPacket} (hq : q ∈ r.packets) :
    (packet ≠ [] ∧ q = ⟨st.nextId, packet, iface⟩ ∧ r.addr = (st.queue.reqFor ip).addr ∧
      r.ip = ip) ∨ ∃ s ∈ st.queue.reqs, s.addr = r.addr ∧ s.ip = r.ip ∧ q ∈ s.packets := by
  by_cases hp : packet = []
  · subst hp
    rcases List.mem_cons.mp (queuereq_nil_perm.subset hr) with rfl | hr
    · exact .inr ⟨_, ArpQueue.reqFor_mem_of_packets hq, rfl, rfl, hq⟩
    · exact .inr ⟨r, List.mem_of_mem_eraseP hr, rfl, rfl, hq⟩
  · rcases (mem_queuereq hp).mp hr with rfl | ⟨hr, -⟩
    · rcases List.mem_cons.mp hq with rfl | hq
      · exact .inl ⟨hp, rfl, rfl, st.queue.reqFor_ip ip⟩
      · exact .inr ⟨_, ArpQueue.reqFor_mem_of_packets hq, rfl, rfl, hq⟩
    · exact .inr ⟨r, hr, rfl, rfl, hq⟩

/-- The records after `sr_arpcache_queuereq`: a new one is put at the front. -/
theorem queuereq_addrs (ip : IpAddr) (packet : Frame) (iface : IfName) (st : ArpState) :
    let addrs := (srArpcacheQueuereq ip packet iface st).1.queue.reqs.map ArpReq.addr
    addrs = st.queue.reqs.map ArpReq.addr ∨
      addrs = st.queue.nextAddr :: st.queue.reqs.map ArpReq.addr := by
  have hreq : (st.queue.request ip).1.reqs.map ArpReq.addr = st.queue.reqs.map ArpReq.addr ∨
      (st.queue.request ip).1.reqs.map ArpReq.addr =
        st.queue.nextAddr :: st.queue.reqs.map ArpReq.addr := by
    unfold ArpQueue.request
    split
    · exact .inl rfl
    · exact .inr rfl
  unfold srArpcacheQueuereq
  simp only
  split
  · exact hreq
  · -- putting the packet on the list moves no record
    have hpush : ((st.queue.request ip).1.push (st.queue.request ip).2
        ⟨st.nextId, packet, iface⟩).reqs.map ArpReq.addr =
          (st.queue.request ip).1.reqs.map ArpReq.addr := Keyed.map_update fun _ => rfl
    rw [hpush]
    exact hreq

/-! ### The other operations -/

theorem mem_insert {mac : Mac} {ip : IpAddr} {now : ℤ} {st : ArpState} {r : ArpReq} :
    r ∈ (srArpcacheInsert mac ip now st).1.queue.reqs ↔ r ∈ st.queue.reqs ∧ r.ip ≠ ip :=
  ArpQueue.mem_unlink_ip

theorem mem_destroy {addr : ℕ} {st : ArpState} {r : ArpReq} :
    r ∈ (srArpreqDestroy addr st).queue.reqs ↔ r ∈ st.queue.reqs ∧ r.addr ≠ addr :=
  ArpQueue.mem_unlink_addr

theorem mem_markSent {q : ArpQueue} {r : ArpReq} (hr : r ∈ q.reqs) (now : ℤ) {s : ArpReq} :
    s ∈ (q.markSent r.addr now).reqs ↔ s = r.sentAt now ∨ (s ∈ q.reqs ∧ s.addr ≠ r.addr) := by
  unfold ArpQueue.markSent ArpQueue.update
  rw [(Keyed.update_perm q.addrs_nodup hr _).mem_iff, List.mem_cons,
    Keyed.mem_eraseP q.addrs_nodup]

/-- Noting that a request was sent leaves the lists of packets alone. -/
theorem map_packets_markSent (q : ArpQueue) (addr : ℕ) (now : ℤ) :
    (q.markSent addr now).reqs.map ArpReq.packets = q.reqs.map ArpReq.packets :=
  Keyed.map_update fun _ => rfl

@[simp] theorem note_entries (st : ArpState) (e : ArpEvent) :
    (st.note e).entries = st.entries := rfl
@[simp] theorem note_queue (st : ArpState) (e : ArpEvent) : (st.note e).queue = st.queue := rfl
@[simp] theorem note_nextId (st : ArpState) (e : ArpEvent) : (st.note e).nextId = st.nextId := rfl
@[simp] theorem note_trace (st : ArpState) (e : ArpEvent) :
    (st.note e).trace = e :: st.trace := rfl

end Redes
