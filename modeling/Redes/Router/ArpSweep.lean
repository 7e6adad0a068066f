import Redes.Lib.Logged
import Redes.Lib.Sweep
import Redes.Router.ArpTermination

/-!
# The requests that a sweep comes to

`sr_arpcache_sweepreqs` looks up the next request before it handles the current one, because
handling a request may destroy it.  But the ICMP errors about its packets may join other
requests that are due to be given up.  These are then destroyed as well, and the request
that was looked up may be one of them.

## Main definitions

* `sweepreqsTurns` — the loop, with the records that it comes to.
* `SweepsLive` — a sweep comes to no record twice, and to none that has been destroyed.
* `LeadsTo`, `NextIsDestroyed` — giving up one request destroys another one, the next one.
* `SweepAt` — the states of a sweep between its turns.

## Main results

* `ending_srArpcacheSweepreqsTurns` — the loop ends as `sr_arpcache_sweepreqs` does.
* `SweepAt.there_iff`, `SweepAt.step` — what a turn destroys, and what it leaves.
* `sweepsLive_iff` — when a sweep comes to no destroyed request.
-/

namespace Redes

open DepthFirst Digraph Fuel Logged Relation Sweep

/-! ### The loop and its turns -/

/-- A turn of the loop: it reads the record at an address, and hands it to `handle_arpreq`. -/
structure SweepTurn where
  /-- The address of the record. -/
  addr : ℕ
  /-- Has the record not been freed? -/
  live : Bool
  deriving DecidableEq

/-- The loop of `sr_arpcache_sweepreqs`, with its turns. -/
def sweepreqsTurns (sr : SrInstance) (now : ℤ) (fuel : ℕ) :
    ℕ → Option ℕ → ArpState → Logged SweepTurn Halt ArpState
  | _, none, st => pure st
  | 0, some _, _ => halt .outOfFuel
  | n + 1, some currReq, st => do
      emit [⟨currReq, (st.queue.deref currReq).isSome⟩] ()
      match nextAddr st.queue.reqs currReq with
      | none => halt .useAfterFree
      | some nextReq => do
          let st ← ⟨[], handleArpreq sr now fuel currReq st⟩
          sweepreqsTurns sr now fuel n nextReq st

/-- `sr_arpcache_sweepreqs`, with its turns. -/
def srArpcacheSweepreqsTurns (sr : SrInstance) (now : ℤ) (fuel : ℕ) (st : ArpState) :
    Logged SweepTurn Halt ArpState :=
  sweepreqsTurns sr now fuel fuel (st.queue.reqs.head?.map ArpReq.addr) st

theorem ending_sweepreqsTurns (sr : SrInstance) (now : ℤ) (fuel n : ℕ) (curr : Option ℕ)
    (st : ArpState) :
    (sweepreqsTurns sr now fuel n curr st).ending = sweepreqsLoop sr now fuel n curr st := by
  induction n generalizing curr st with
  | zero => cases curr <;> rfl
  | succ n ih =>
    cases curr with
    | none => rfl
    | some currReq =>
      unfold sweepreqsTurns sweepreqsLoop
      rw [ending_bind]
      cases nextAddr st.queue.reqs currReq with
      | none => rfl
      | some nextReq =>
        simp only [ending_bind, ih]
        rfl

/-- **The loop with its turns is the loop.** -/
theorem ending_srArpcacheSweepreqsTurns (sr : SrInstance) (now : ℤ) (fuel : ℕ) (st : ArpState) :
    (srArpcacheSweepreqsTurns sr now fuel st).ending = srArpcacheSweepreqs sr now fuel st :=
  ending_sweepreqsTurns sr now fuel fuel _ st

/-- One sweep comes to no request twice, and to none that has been destroyed: neither before it
returns nor before it runs out of fuel.  The calls that `handle_arpreq` makes for other
requests are no turns of the loop; `sr_arpcache_queuereq` has just returned these. -/
def SweepsLive (sr : SrInstance) (now : ℤ) (st : ArpState) : Prop :=
  ∀ fuel, let turns := (srArpcacheSweepreqsTurns sr now fuel st).log
    (turns.map SweepTurn.addr).Nodup ∧ ∀ t ∈ turns, t.live = true

/-! ### The next record -/

theorem nextAddr_eq_none {l : List ArpReq} {addr : ℕ} :
    nextAddr l addr = none ↔ addr ∉ l.map ArpReq.addr := by
  induction l with
  | nil => simp [nextAddr]
  | cons r rest ih =>
    rw [List.map_cons, List.mem_cons, nextAddr]
    by_cases hr : r.addr = addr
    · simp [hr]
    · rw [if_neg hr, ih]
      simp [Ne.symm hr]

theorem nextAddr_of_split {l : List ArpReq} {front back : List ℕ} {addr : ℕ}
    (h : l.map ArpReq.addr = front ++ addr :: back) (hfront : addr ∉ front) :
    nextAddr l addr = some back.head? := by
  induction front generalizing l with
  | nil =>
    obtain ⟨r, rest, rfl, hr, rfl⟩ := List.map_eq_cons_iff.mp h
    rw [nextAddr, if_pos hr, List.head?_map]
  | cons a front ih =>
    obtain ⟨r, rest, rfl, rfl, hrest⟩ := List.map_eq_cons_iff.mp h
    rw [List.mem_cons, not_or] at hfront
    rw [nextAddr, if_neg (Ne.symm hfront.1)]
    exact ih hrest hfront.2

theorem isSome_deref {q : ArpQueue} {addr : ℕ} :
    (q.deref addr).isSome = true ↔ addr ∈ q.reqs.map ArpReq.addr := by
  rw [Option.isSome_iff_ne_none, Ne, ArpQueue.deref_eq_none, List.mem_map]
  push Not
  exact Iff.rfl

theorem isSome_deref_of_nextAddr {q : ArpQueue} {addr : ℕ} {next : Option ℕ}
    (h : nextAddr q.reqs addr = some next) : (q.deref addr).isSome = true := by
  by_contra hfreed
  rw [isSome_deref, ← nextAddr_eq_none, h] at hfreed
  cases hfreed

section Log

variable {sr : SrInstance} {now : ℤ} {fuel n addr : ℕ} {st st' : ArpState} {next : Option ℕ}

/-- A turn on a record that has been freed. -/
theorem log_sweepreqsTurns_freed (h : addr ∉ st.queue.reqs.map ArpReq.addr) :
    (sweepreqsTurns sr now fuel (n + 1) (some addr) st).log = [⟨addr, false⟩] := by
  have hfreed : (st.queue.deref addr).isSome = false := by
    rw [Bool.eq_false_iff, Ne, isSome_deref]
    exact h
  unfold sweepreqsTurns
  simp only [nextAddr_eq_none.mpr h, hfreed]
  rfl

theorem log_sweepreqsTurns_error {e : Halt} (hnext : nextAddr st.queue.reqs addr = some next)
    (h : handleArpreq sr now fuel addr st = .error e) :
    (sweepreqsTurns sr now fuel (n + 1) (some addr) st).log = [⟨addr, true⟩] := by
  have hlive := isSome_deref_of_nextAddr hnext
  unfold sweepreqsTurns
  simp only [hnext, hlive, h]
  rfl

theorem log_sweepreqsTurns_ok (hnext : nextAddr st.queue.reqs addr = some next)
    (h : handleArpreq sr now fuel addr st = .ok st') :
    (sweepreqsTurns sr now fuel (n + 1) (some addr) st).log =
      ⟨addr, true⟩ :: (sweepreqsTurns sr now fuel n next st').log := by
  have hlive := isSome_deref_of_nextAddr hnext
  conv_lhs => unfold sweepreqsTurns
  simp only [hnext, hlive, h]
  rfl

end Log

/-! ### What a call does to the list -/

/-- **A call keeps the order of the list**: new records are put at the front. -/
theorem handleArpreq_addrs {sr : SrInstance} {now : ℤ} {fuel addr : ℕ} {st st' : ArpState}
    (h : handleArpreq sr now fuel addr st = .ok st') :
    ∃ fresh : List ℕ, (∀ a ∈ fresh, st.queue.nextAddr ≤ a) ∧ ∃ p : ℕ → Bool,
      st'.queue.reqs.map ArpReq.addr = fresh ++ (st.queue.reqs.map ArpReq.addr).filter p := by
  have hinv : st.queue.nextAddr ≤ st'.queue.nextAddr ∧
      ∃ fresh : List ℕ, (∀ a ∈ fresh, st.queue.nextAddr ≤ a) ∧ ∃ p : ℕ → Bool,
        st'.queue.reqs.map ArpReq.addr = fresh ++ (st.queue.reqs.map ArpReq.addr).filter p := by
    refine handleArpreq_invariant
      (I := fun s => st.queue.nextAddr ≤ s.queue.nextAddr ∧
        ∃ fresh : List ℕ, (∀ a ∈ fresh, st.queue.nextAddr ≤ a) ∧ ∃ p : ℕ → Bool,
          s.queue.reqs.map ArpReq.addr = fresh ++ (st.queue.reqs.map ArpReq.addr).filter p)
      (fun _ _ _ hs => hs) (fun _ _ _ hs => hs) ?_ ?_ ?_
      ⟨Nat.le_refl _, [], by simp, fun _ => true, by simp⟩ h
    · rintro s ip packet iface ⟨hle, fresh, hfresh, p, hs⟩
      refine ⟨hle.trans (nextAddr_le_queuereq ip packet iface s), ?_⟩
      rcases queuereq_addrs ip packet iface s with heq | heq
      · exact ⟨fresh, hfresh, p, heq.trans hs⟩
      · refine ⟨s.queue.nextAddr :: fresh, ?_, p, by rw [heq, hs, List.cons_append]⟩
        rw [List.forall_mem_cons]
        exact ⟨hle, hfresh⟩
    · rintro s req ⟨hle, fresh, hfresh, p, hs⟩
      rw [resent_queue]
      have hsame : (s.queue.markSent req.addr now).reqs.map ArpReq.addr =
          s.queue.reqs.map ArpReq.addr := Keyed.map_update fun _ => rfl
      exact ⟨hle, fresh, hfresh, p, hsame.trans hs⟩
    · rintro s a ⟨hle, fresh, hfresh, p, hs⟩
      refine ⟨hle, fresh.filter fun b => b ≠ a, ?_, fun b => b ≠ a ∧ p b, ?_⟩
      · exact fun b hb => hfresh b (List.mem_filter.mp hb).1
      · have hfilter : (srArpreqDestroy a s).queue.reqs.map ArpReq.addr =
            (s.queue.reqs.map ArpReq.addr).filter fun b => b ≠ a := by
          show (s.queue.reqs.eraseP fun r => r.addr = a).map ArpReq.addr = _
          rw [Keyed.eraseP_eq_filter s.queue.addrs_nodup, List.filter_map]
          rfl
        rw [hfilter, hs, List.filter_append, List.filter_filter]
        simp
  exact hinv.2

/-- **The end of the list after a call**: what is still there of it, in order. -/
theorem handleArpreq_suffix {sr : SrInstance} {now : ℤ} {fuel addr : ℕ} {st st' : ArpState}
    {l : List ArpReq} (hl : l.map ArpReq.addr <:+ st.queue.reqs.map ArpReq.addr)
    (h : handleArpreq sr now fuel addr st = .ok st') :
    (l.filter fun r => r.addr ∈ st'.queue.reqs.map ArpReq.addr).map ArpReq.addr <:+
      st'.queue.reqs.map ArpReq.addr := by
  obtain ⟨fresh, hfresh, p, heq⟩ := handleArpreq_addrs h
  obtain ⟨front, hfront⟩ := hl
  -- a record of the end is there exactly if it was kept
  have hkept : ∀ r ∈ l, (r.addr ∈ st'.queue.reqs.map ArpReq.addr ↔ p r.addr = true) := by
    intro r hr
    have hold : r.addr ∈ st.queue.reqs.map ArpReq.addr := by
      rw [← hfront]
      exact List.mem_append_right front (List.mem_map_of_mem hr)
    have hnew : r.addr ∉ fresh := by
      intro hmem
      obtain ⟨s, hs, haddr⟩ := List.mem_map.mp hold
      have hlt := st.queue.addr_lt s hs
      have hle := hfresh _ hmem
      omega
    rw [heq, List.mem_append, List.mem_filter]
    simp [hold, hnew]
  have hfilter : (l.filter fun r => r.addr ∈ st'.queue.reqs.map ArpReq.addr).map ArpReq.addr =
      (l.map ArpReq.addr).filter p := by
    rw [List.filter_map]
    congr 1
    refine List.filter_congr fun r hr => ?_
    rw [Bool.eq_iff_iff, decide_eq_true_eq, hkept r hr]
    rfl
  rw [hfilter, heq, ← hfront, List.filter_append, ← List.append_assoc]
  exact List.suffix_append _ _

/-- A request that is not due to be given up is there, at its address. -/
def Stays (now : ℤ) (s : ArpReq) (st : ArpState) : Prop :=
  ∃ s' ∈ st.queue.reqs, s'.addr = s.addr ∧ s'.ip = s.ip ∧ ¬ s'.Doomed now

/-- **A call does not destroy a request that is not due.** -/
theorem handleArpreq_stays {sr : SrInstance} {now : ℤ} {fuel addr : ℕ} {st st' : ArpState}
    {s : ArpReq} (hs : Stays now s st) (h : handleArpreq sr now fuel addr st = .ok st') :
    Stays now s st' := by
  refine handleArpreq_rule (I := Stays now s) (fun _ _ _ _ hs _ _ => hs)
    (fun _ _ _ _ _ hs => hs) ?_ ?_ ?_ hs h
  · rintro st ip buf outIface - ⟨s', hs', haddr, hip, hnot⟩
    have hp := icmpErrorFrame_ne_nil sr 3 1 outIface buf 14
    by_cases hjoin : s'.ip = ip
    · have hfor : st.queue.reqFor ip = s' := by rw [← hjoin, ArpQueue.reqFor_of_mem hs']
      refine ⟨_, mem_queuereq_self ip hp, ?_⟩
      rw [hfor]
      exact ⟨haddr, hip, hnot⟩
    · exact ⟨s', (mem_queuereq hp).mpr (.inr ⟨hs', hjoin⟩), haddr, hip, hnot⟩
  · rintro st r ⟨s', hs', haddr, hip, hnot⟩ hr -
    unfold Stays
    simp only [resent_queue]
    by_cases heq : s'.addr = r.addr
    · obtain rfl := st.queue.eq_of_addr hs' hr heq
      exact ⟨_, (mem_markSent hr now).mpr (.inl rfl), haddr, hip, not_doomed_sentAt now _⟩
    · exact ⟨s', (mem_markSent hr now).mpr (.inr ⟨hs', heq⟩), haddr, hip, hnot⟩
  · rintro st r ⟨s', hs', haddr, hip, hnot⟩ hr hdoom
    refine ⟨s', mem_destroy.mpr ⟨hs', fun heq => hnot ?_⟩, haddr, hip, hnot⟩
    rw [st.queue.eq_of_addr hs' hr heq]
    exact hdoom

/-! ### Between two turns -/

/-- Giving up `r` gives up `s` on the way: an ICMP error joins a request that is due, whose errors
join another one, and so on up to `s`. -/
def LeadsTo (sr : SrInstance) (now : ℤ) (st : ArpState) (r s : ArpReq) : Prop :=
  TransGen (ErrorJoins sr now st) r.ip s.ip

/-- The state `st` of a sweep that started in `st₀`, when the loop has still to come to the
requests `l`, and the requests for `due` are still to be given up. -/
structure SweepAt (sr : SrInstance) (now : ℤ) (st₀ : ArpState) (due : Finset IpAddr)
    (l : List ArpReq) (st : ArpState) : Prop where
  /-- The calls so far were visits. -/
  during : DuringCall sr now st₀ due st
  /-- What was given up was so together with what it leads to. -/
  left : Left (errorHops sr st₀) (dueIps now st₀) due
  /-- What leads to a cycle was not given up. -/
  cyclic : ∀ ip ∈ dueIps now st₀, ReachesCycle (ErrorJoins sr now st₀) ip → ip ∈ due
  /-- The requests are among those of the start, in order. -/
  sublist : l.Sublist st₀.queue.reqs
  /-- They are the end of the list. -/
  suffix : l.map ArpReq.addr <:+ st.queue.reqs.map ArpReq.addr
  /-- Those that are due are as they were. -/
  doomed : ∀ s ∈ l, s.Doomed now → s ∈ st.queue.reqs
  /-- The others are there. -/
  stays : ∀ s ∈ l, ¬ s.Doomed now → Stays now s st

section SweepAt

variable {sr : SrInstance} {now : ℤ} {st₀ st st' : ArpState} {due due' : Finset IpAddr}
  {l rest : List ArpReq} {r : ArpReq} {fuel : ℕ}

theorem sweepAt_start (st : ArpState) :
    SweepAt sr now st (dueIps now st) st.queue.reqs st where
  during := duringCall_start
  left := .refl _
  cyclic := fun _ hip _ => hip
  sublist := .refl _
  suffix := List.suffix_rfl
  doomed := fun _ hs _ => hs
  stays := fun s hs hnot => ⟨s, hs, rfl, rfl, hnot⟩

/-- The record of the first of these requests, which may have got more packets meanwhile. -/
theorem SweepAt.exists_record (h : SweepAt sr now st₀ due (r :: rest) st) :
    ∃ r' ∈ st.queue.reqs, r'.addr = r.addr ∧ r'.ip = r.ip := by
  by_cases hdoom : r.Doomed now
  · exact ⟨r, h.doomed r List.mem_cons_self hdoom, rfl, rfl⟩
  · obtain ⟨r', hr', haddr, hip, -⟩ := h.stays r List.mem_cons_self hdoom
    exact ⟨r', hr', haddr, hip⟩

/-- The call that handles it is a visit. -/
theorem SweepAt.lockstep (h : SweepAt sr now st₀ due (r :: rest) st) (fuel : ℕ) :
    Lockstep SameStop (DuringCall sr now st₀) (visit (errorHops sr st₀) fuel r.ip due)
      (handleArpreq sr now fuel r.addr st) := by
  obtain ⟨r', hr', haddr, hip⟩ := h.exists_record
  rw [← haddr, ← hip]
  exact handleArpreq_lockstep fuel h.during hr'

/-- The next record is that of the request behind it. -/
theorem SweepAt.nextAddr_eq (h : SweepAt sr now st₀ due (r :: rest) st) :
    nextAddr st.queue.reqs r.addr = some (rest.head?.map ArpReq.addr) := by
  obtain ⟨front, hfront⟩ := h.suffix
  have hnodup := st.queue.addrs_nodup
  rw [← hfront, List.map_cons, List.nodup_append] at hnodup
  rw [nextAddr_of_split hfront.symm fun hmem => hnodup.2.2 _ hmem _ List.mem_cons_self rfl,
    List.head?_map]

theorem SweepAt.ip_ne (h : SweepAt sr now st₀ due (r :: rest) st) {s : ArpReq} (hs : s ∈ rest) :
    r.ip ≠ s.ip := by
  have hnodup := (h.sublist.map ArpReq.ip).nodup st₀.queue.ips_nodup
  rw [List.map_cons, List.nodup_cons] at hnodup
  exact fun heq => hnodup.1 (heq ▸ List.mem_map_of_mem hs)

/-- A path of ICMP errors to a request that is still due has not been cut. -/
theorem SweepAt.reach_iff (h : SweepAt sr now st₀ due l st) {a b : IpAddr} (hne : a ≠ b)
    (hb : b ∈ due) : ReflTransGen (Edge (errorHops sr st₀) due) a b ↔
      TransGen (ErrorJoins sr now st₀) a b := by
  constructor
  · intro hab
    rcases reflTransGen_iff_eq_or_transGen.mp hab with heq | hab
    · exact absurd heq.symm hne
    · have hmono : ∀ x y, Edge (errorHops sr st₀) due x y → ErrorJoins sr now st₀ x y :=
        fun _ _ hedge => edge_iff_errorJoins.mp (hedge.mono h.left.subset)
      exact TransGen.mono hmono _ _ hab
  · intro hab
    have hstart : ReflTransGen (Edge (errorHops sr st₀) (dueIps now st₀)) a b :=
      (TransGen.mono (fun _ _ => edge_iff_errorJoins.mpr) _ _ hab).to_reflTransGen
    exact h.left.reflTransGen hb hstart

/-- A cycle of ICMP errors has not been touched. -/
theorem SweepAt.reachesCycle (h : SweepAt sr now st₀ due l st) {a : IpAddr}
    (hcyc : ReachesCycle (ErrorJoins sr now st₀) a) :
    ReachesCycle (Edge (errorHops sr st₀) due) a := by
  refine hcyc.of_restrict fun x y hxy hx hy => ?_
  obtain ⟨hx', hy', hmem⟩ := edge_iff_errorJoins.mpr hxy
  exact ⟨h.cyclic x hx' hx, h.cyclic y hy' hy, hmem⟩

/-- **What a turn destroys** is what the request it handles leads to. -/
theorem SweepAt.there_iff (h : SweepAt sr now st₀ due (r :: rest) st)
    (hvisit : visit (errorHops sr st₀) fuel r.ip due = .ok due')
    (hcall : handleArpreq sr now fuel r.addr st = .ok st') (hst' : DuringCall sr now st₀ due' st')
    {s : ArpReq} (hs : s ∈ rest) :
    s.addr ∈ st'.queue.reqs.map ArpReq.addr ↔ ¬ LeadsTo sr now st₀ r s := by
  have hsl : s ∈ r :: rest := List.mem_cons_of_mem r hs
  by_cases hdoom : s.Doomed now
  · have hmem := h.doomed s hsl hdoom
    have hdue : s.ip ∈ due := (h.during.mem_due s.ip).mpr ⟨s, hmem, rfl, hdoom⟩
    have huntouched : Untouched s st' :=
      handleArpreq_untouched hdoom (untouched_of_mem hmem) hcall
    have hgone := h.during.deref_eq_none_iff hmem hdoom hst' huntouched
    rw [mem_visit_iff hvisit, h.reach_iff (h.ip_ne hs) hdue] at hgone
    rw [← isSome_deref, Option.isSome_iff_ne_none, Ne, hgone]
    simp [hdue, LeadsTo]
  · -- it is not due, so that nothing leads to it
    obtain ⟨s', hs', haddr, -⟩ := handleArpreq_stays (h.stays s hsl hdoom) hcall
    refine iff_of_true (List.mem_map.mpr ⟨s', hs', haddr⟩) fun hleads => hdoom ?_
    obtain ⟨x, -, -, q, hq, hip, hqdoom⟩ := TransGen.tail'_iff.mp hleads
    rw [← st₀.queue.eq_of_ip hq (h.sublist.subset hsl) hip]
    exact hqdoom

open scoped Classical in
/-- **A turn that returns** leaves the loop with the requests that the one it has handled does not
lead to. -/
theorem SweepAt.step (h : SweepAt sr now st₀ due (r :: rest) st)
    (hvisit : visit (errorHops sr st₀) fuel r.ip due = .ok due')
    (hcall : handleArpreq sr now fuel r.addr st = .ok st')
    (hst' : DuringCall sr now st₀ due' st') :
    SweepAt sr now st₀ due' (rest.filter fun s => ¬ LeadsTo sr now st₀ r s) st' := by
  have hthere : ∀ s ∈ rest, (s.addr ∈ st'.queue.reqs.map ArpReq.addr ↔ ¬ LeadsTo sr now st₀ r s) :=
    fun s hs => h.there_iff hvisit hcall hst' hs
  refine ⟨hst', h.left.trans (visit_left hvisit).1, ?_, ?_, ?_, ?_, ?_⟩
  · intro ip hip hcyc
    exact visit_keeps hvisit (h.cyclic ip hip hcyc) (h.reachesCycle hcyc)
  · exact List.filter_sublist.trans ((List.sublist_cons_self r rest).trans h.sublist)
  · have hfilter : (rest.filter fun s => ¬ LeadsTo sr now st₀ r s) =
        rest.filter fun s => s.addr ∈ st'.queue.reqs.map ArpReq.addr := by
      refine List.filter_congr fun s hs => ?_
      rw [Bool.eq_iff_iff, decide_eq_true_eq, decide_eq_true_eq, hthere s hs]
    rw [hfilter]
    refine List.IsSuffix.trans ?_ (handleArpreq_suffix h.suffix hcall)
    rw [List.filter_cons]
    split
    · exact List.suffix_cons _ _
    · exact List.suffix_rfl
  · intro s hs hdoom
    obtain ⟨hs, hnot⟩ := List.mem_filter.mp hs
    obtain ⟨s', hs', haddr⟩ := List.mem_map.mp ((hthere s hs).mpr (by simpa using hnot))
    have hmem := h.doomed s (List.mem_cons_of_mem r hs) hdoom
    have huntouched : Untouched s st' :=
      handleArpreq_untouched hdoom (untouched_of_mem hmem) hcall
    rw [← huntouched.2 s' hs' haddr]
    exact hs'
  · intro s hs hdoom
    exact handleArpreq_stays
      (h.stays s (List.mem_cons_of_mem r (List.mem_filter.mp hs).1) hdoom) hcall

/-- A request whose call returns does not lead to a cycle. -/
theorem SweepAt.not_reachesCycle (h : SweepAt sr now st₀ due l st)
    (hvisit : visit (errorHops sr st₀) fuel r.ip due = .ok due') :
    ¬ ReachesCycle (ErrorJoins sr now st₀) r.ip := by
  intro hcyc
  rw [visit_diverges (h.reachesCycle hcyc)] at hvisit
  cases hvisit

end SweepAt

/-! ### Whole sweeps -/

/-- **The request that the loop has looked up is destroyed** before the loop comes to it: the loop
gets to a request, past all before it, and giving that one up gives up the next one. -/
def NextIsDestroyed (sr : SrInstance) (now : ℤ) (st : ArpState) : Prop :=
  Overtaken (LeadsTo sr now st) (fun r => ReachesCycle (ErrorJoins sr now st) r.ip)
    st.queue.reqs

section Sweeps

variable {sr : SrInstance} {now : ℤ} {st₀ : ArpState}

open scoped Classical in
/-- One turn, for the requests that a sweep still has to come to. -/
theorem overtaken_leadsTo_cons {r : ArpReq} {rest : List ArpReq} :
    Overtaken (LeadsTo sr now st₀) (fun r => ReachesCycle (ErrorJoins sr now st₀) r.ip)
        (r :: rest) ↔
      ¬ ReachesCycle (ErrorJoins sr now st₀) r.ip ∧
        ((∃ s ∈ rest.head?, LeadsTo sr now st₀ r s) ∨
          Overtaken (LeadsTo sr now st₀) (fun r => ReachesCycle (ErrorJoins sr now st₀) r.ip)
            (rest.filter fun s => ¬ LeadsTo sr now st₀ r s)) := by
  refine overtaken_cons (fun _ _ _ => TransGen.trans) ?_
  rintro a b hab ⟨c, hbc, hc⟩
  exact ⟨c, hab.to_reflTransGen.trans hbc, hc⟩

open scoped Classical in
/-- If the first request does not destroy the second one, that one is the first of those left. -/
theorem head?_eq_filter {r : ArpReq} {rest : List ArpReq}
    (h : ¬ ∃ s ∈ rest.head?, LeadsTo sr now st₀ r s) :
    rest.head? = (rest.filter fun s => ¬ LeadsTo sr now st₀ r s).head? := by
  cases rest with
  | nil => rfl
  | cons s rest =>
    have hs : ¬ LeadsTo sr now st₀ r s := fun hs => h ⟨s, rfl, hs⟩
    rw [List.filter_cons_of_pos (by simpa using hs)]
    rfl

/-- **A sweep that holds on to no request that is destroyed** comes to requests that are there, one
after the other. -/
theorem SweepAt.live {l : List ArpReq} {due : Finset IpAddr} {st : ArpState}
    (h : SweepAt sr now st₀ due l st) (fuel n : ℕ)
    (hnot : ¬ Overtaken (LeadsTo sr now st₀)
      (fun r => ReachesCycle (ErrorJoins sr now st₀) r.ip) l) :
    let turns := (sweepreqsTurns sr now fuel n (l.head?.map ArpReq.addr) st).log
    (turns.map SweepTurn.addr).Sublist (l.map ArpReq.addr) ∧ ∀ t ∈ turns, t.live = true := by
  induction n generalizing l due st with
  | zero => cases l <;> simp [sweepreqsTurns, halt, emit, pure]
  | succ n ih =>
    cases l with
    | nil => simp [sweepreqsTurns, emit, pure]
    | cons r rest =>
      simp only [List.head?_cons, Option.map_some]
      cases hcall : handleArpreq sr now fuel r.addr st with
      | error e =>
        rw [log_sweepreqsTurns_error h.nextAddr_eq hcall]
        simp
      | ok st' =>
        classical
        obtain ⟨due', hvisit, hst'⟩ := (h.lockstep fuel).exists_left hcall
        rw [overtaken_leadsTo_cons, not_and, not_or] at hnot
        obtain ⟨hhead, hnot⟩ := hnot (h.not_reachesCycle hvisit)
        obtain ⟨hsub, hlive⟩ := ih (h.step hvisit hcall hst') hnot
        rw [log_sweepreqsTurns_ok h.nextAddr_eq hcall, head?_eq_filter hhead, List.map_cons,
          List.map_cons, List.forall_mem_cons]
        exact ⟨(hsub.trans (List.filter_sublist.map ArpReq.addr)).cons_cons r.addr, rfl, hlive⟩

/-- **A sweep that holds on to a request that is destroyed** comes to a record that has been freed,
with enough fuel. -/
theorem exists_freed_turn {l : List ArpReq} {due : Finset IpAddr} (hdue : due ⊆ dueIps now st₀)
    (h : Overtaken (LeadsTo sr now st₀)
      (fun r => ReachesCycle (ErrorJoins sr now st₀) r.ip) l) :
    ∃ N, ∀ fuel ≥ N, ∀ n ≥ l.length, ∀ st, SweepAt sr now st₀ due l st →
      ∃ t ∈ (sweepreqsTurns sr now fuel n (l.head?.map ArpReq.addr) st).log, t.live = false := by
  classical
  induction hlen : l.length using Nat.strong_induction_on generalizing l due with
  | _ k ih =>
    cases l with
    | nil => exact absurd h not_overtaken_nil
    | cons r rest =>
      obtain ⟨hacyc, hcases⟩ := overtaken_leadsTo_cons.mp h
      -- the call on the first request returns, and what it leaves does not depend on the state
      have hvisits : ¬ ReachesCycle (Edge (errorHops sr st₀) due) r.ip := fun hcyc =>
        hacyc (hcyc.mono fun _ _ hedge => edge_iff_errorJoins.mp (hedge.mono hdue))
      obtain ⟨N₁, due', hN₁, hsub, -⟩ := exists_visit_ok hvisits
      have hturn : ∀ fuel ≥ N₁, ∀ st, SweepAt sr now st₀ due (r :: rest) st → ∃ st',
          visit (errorHops sr st₀) fuel r.ip due = .ok due' ∧
            handleArpreq sr now fuel r.addr st = .ok st' ∧ DuringCall sr now st₀ due' st' := by
        intro fuel hfuel st hst
        have hvisit := (stable_visit r.ip due).ok_of_le hfuel hN₁
        obtain ⟨st', hcall, hst'⟩ := (hst.lockstep fuel).exists_right hvisit
        exact ⟨st', hvisit, hcall, hst'⟩
      simp only [List.length_cons] at hlen
      simp only [List.head?_cons, Option.map_some]
      by_cases hhead : ∃ s ∈ rest.head?, LeadsTo sr now st₀ r s
      · -- the next turn is on a freed record
        obtain ⟨s, hs, hleads⟩ := hhead
        refine ⟨N₁, fun fuel hfuel n hn st hst => ?_⟩
        obtain ⟨st', hvisit, hcall, hst'⟩ := hturn fuel hfuel st hst
        have hmem : s ∈ rest := List.mem_of_mem_head? hs
        have hfreed : s.addr ∉ st'.queue.reqs.map ArpReq.addr := by
          rw [hst.there_iff hvisit hcall hst' hmem]
          exact not_not.mpr hleads
        have hpos := List.length_pos_of_mem hmem
        obtain ⟨n, rfl⟩ : ∃ m, n = m + 2 := ⟨n - 2, by omega⟩
        rw [log_sweepreqsTurns_ok hst.nextAddr_eq hcall, Option.mem_def.mp hs, Option.map_some,
          log_sweepreqsTurns_freed hfreed]
        exact ⟨⟨s.addr, false⟩, by simp, rfl⟩
      · -- the loop goes on with what is left
        have hrest := hcases.resolve_left hhead
        have hle : (rest.filter fun s => ¬ LeadsTo sr now st₀ r s).length ≤ rest.length :=
          List.length_filter_le _ _
        obtain ⟨N₂, hN₂⟩ := ih _ (by omega) (hsub.trans hdue) hrest rfl
        refine ⟨max N₁ N₂, fun fuel hfuel n hn st hst => ?_⟩
        have hfuel₁ : fuel ≥ N₁ := (Nat.le_max_left _ _).trans hfuel
        have hfuel₂ : fuel ≥ N₂ := (Nat.le_max_right _ _).trans hfuel
        obtain ⟨st', hvisit, hcall, hst'⟩ := hturn fuel hfuel₁ st hst
        obtain ⟨n, rfl⟩ : ∃ m, n = m + 1 := ⟨n - 1, by omega⟩
        obtain ⟨t, ht, hdead⟩ := hN₂ fuel hfuel₂ n (by omega) st' (hst.step hvisit hcall hst')
        rw [log_sweepreqsTurns_ok hst.nextAddr_eq hcall, head?_eq_filter hhead]
        exact ⟨t, List.mem_cons_of_mem _ ht, hdead⟩

/-- A sweep that holds on to a request that is destroyed does not meet what is asked of it. -/
theorem NextIsDestroyed.not_sweepsLive {st : ArpState} (h : NextIsDestroyed sr now st) :
    ¬ SweepsLive sr now st := by
  intro hlive
  obtain ⟨N, hN⟩ := exists_freed_turn (Finset.Subset.refl _) h
  obtain ⟨t, ht, hdead⟩ := hN (max N st.queue.reqs.length) (Nat.le_max_left _ _)
    (max N st.queue.reqs.length) (Nat.le_max_right _ _) st (sweepAt_start st)
  rw [(hlive _).2 t ht] at hdead
  cases hdead

/-- **A sweep comes to no destroyed request, and to none twice, if and only if** the next request is
not destroyed while the one before it is handled. -/
theorem sweepsLive_iff (sr : SrInstance) (now : ℤ) (st : ArpState) :
    SweepsLive sr now st ↔ ¬ NextIsDestroyed sr now st := by
  refine ⟨fun hlive hnext => hnext.not_sweepsLive hlive, fun hnot fuel => ?_⟩
  obtain ⟨hsub, hlive⟩ := (sweepAt_start st).live fuel fuel hnot
  exact ⟨hsub.nodup st.queue.addrs_nodup, hlive⟩

end Sweeps

/-- A datagram from 10.0.3.5, which is behind the gateway, to 10.0.1.9. -/
def inboundFrame : Frame :=
  [0x01, 0x01, 0x01, 0x01, 0x01, 0x01, 0x02, 0x02, 0x02, 0x02, 0x02, 0x02, 0x08, 0x00,
    0x45, 0x00, 0x00, 0x1c, 0x00, 0x01, 0x00, 0x00, 0x3f, 0x11, 0x63, 0xc3,
    0x0a, 0x00, 0x03, 0x05, 0x0a, 0x00, 0x01, 0x09,
    0x00, 0x35, 0x00, 0x35, 0x00, 0x08, 0x00, 0x00]

/-- The request for 10.0.1.9, with a frame that waits for it. -/
def inboundRequest : ArpReq := ⟨1, 0x0901000a, 5, 5, [⟨1, inboundFrame, "eth1".toList⟩]⟩

/-- The request for the gateway. -/
def gatewayRequest : ArpReq := ⟨0, 0x0201000a, 5, 5, [⟨0, localFrame, "eth1".toList⟩]⟩

/-- Both were sent five times, and nobody has answered. -/
def bothUnanswered : ArpState :=
  { srArpcacheInit with
    queue := ⟨[inboundRequest, gatewayRequest], 2, by decide, by decide, by decide⟩
    nextId := 2 }

/-- The only ICMP error that joins a request is the one about the frame from behind the gateway. -/
theorem errorJoins_bothUnanswered {a b : IpAddr}
    (h : ErrorJoins gatewayRouter 10 bothUnanswered a b) :
    a = inboundRequest.ip ∧ b = gatewayRequest.ip := by
  have hmem : ∀ r ∈ bothUnanswered.queue.reqs, r = inboundRequest ∨ r = gatewayRequest := by
    simp [bothUnanswered]
  obtain ⟨⟨r, hr, rfl, -, p, hp, hhop⟩, s, hs, rfl, -⟩ := h
  rcases hmem r hr with rfl | rfl
  · obtain rfl := List.mem_singleton.mp hp
    rcases hmem s hs with rfl | rfl
    · revert hhop
      decide
    · exact ⟨rfl, rfl⟩
  · -- the error about the frame for the gateway goes to a host that nobody asks for
    obtain rfl := List.mem_singleton.mp hp
    rcases hmem s hs with rfl | rfl
    · revert hhop
      decide
    · revert hhop
      decide

/-- **The loop comes to the request for the gateway after it was destroyed**: the error about the
frame from behind the gateway has joined it. -/
theorem not_sweepsLive_bothUnanswered : ¬ SweepsLive gatewayRouter 10 bothUnanswered := by
  have hjoins : ErrorJoins gatewayRouter 10 bothUnanswered inboundRequest.ip gatewayRequest.ip :=
    ⟨⟨inboundRequest, by decide, rfl, by decide, _, List.mem_cons_self, by decide⟩,
      gatewayRequest, by decide, rfl, by decide⟩
  have hacyc : ¬ ReachesCycle (ErrorJoins gatewayRouter 10 bothUnanswered) inboundRequest.ip := by
    intro hcyc
    -- a cycle would take two errors one after the other
    obtain ⟨b, hb, hcyc⟩ := reachesCycle_iff_exists.mp hcyc
    obtain ⟨c, hc, -⟩ := reachesCycle_iff_exists.mp hcyc
    obtain ⟨-, rfl⟩ := errorJoins_bothUnanswered hb
    have hne : gatewayRequest.ip ≠ inboundRequest.ip := by decide
    exact hne (errorJoins_bothUnanswered hc).1
  exact NextIsDestroyed.not_sweepsLive ⟨[], inboundRequest, [], gatewayRequest, [], rfl,
    .single hjoins, by simp, by simp, by simp, hacyc⟩

end Redes
