import Mathlib.Data.List.Induction
import Redes.Router.ArpCache

/-!
# What the ARP cache has learnt last

`sr_arpcache_insert` puts a mapping into the first free slot, whether the cache has one for the
IP or not, and `sr_arpcache_lookup` takes the last slot that has one.  So what has just been learnt
is hidden by an older mapping in a later slot, and is not learnt at all when no slot is free.

## Main definitions

* `CacheCall`, `runCache` — insertions and timeouts since `sr_arpcache_init`.
* `Used` — a lookup right after an insertion gets what was inserted.
* `NotHidden` — no older mapping with another address is in its way.

## Main results

* `lookup_append`, `learnEntry_of_free` — lookups and insertions in terms of the slots.
* `used_iff` — when what was just learnt is used.
-/

namespace Redes

/-! ### Runs -/

/-- What changes the mappings. -/
inductive CacheCall
  /-- `sr_arpcache_insert`, at some time. -/
  | insert (mac : Mac) (ip : IpAddr) (now : ℤ)
  /-- `sr_arpcache_timeout` goes over the slots. -/
  | timeout (now : ℤ)
  deriving DecidableEq

/-- The cache after a call. -/
def CacheCall.apply (st : ArpState) : CacheCall → ArpState
  | .insert mac ip now => (srArpcacheInsert mac ip now st).1
  | .timeout now => { st with entries := expireEntries now st.entries }

/-- The cache after some calls. -/
def runCache (calls : List CacheCall) : ArpState := calls.foldl CacheCall.apply srArpcacheInit

/-! ### Slots -/

variable {entries : List ArpEntry} {mac : Mac} {ip : IpAddr}

/-- **A lookup takes the last slot that has the IP.** -/
theorem lookup_append (l₁ l₂ : List ArpEntry) (ip : IpAddr) :
    srArpcacheLookup (l₁ ++ l₂) ip = (srArpcacheLookup l₂ ip).or (srArpcacheLookup l₁ ip) := by
  unfold srArpcacheLookup
  rw [List.foldl_append]
  generalize l₁.foldl _ none = found
  induction l₂ using List.reverseRecOn with
  | nil => rfl
  | append_singleton l₂ e ih =>
    rw [List.foldl_append, List.foldl_append, List.foldl_cons, List.foldl_nil, List.foldl_cons,
      List.foldl_nil]
    by_cases he : e.valid ∧ e.ip = ip
    · rw [if_pos he, if_pos he, Option.some_or]
    · rw [if_neg he, if_neg he, ih]

/-- The slots behind the first free one. -/
def behindFree (entries : List ArpEntry) : List ArpEntry :=
  (entries.dropWhile ArpEntry.valid).tail

/-- Some slot is free. -/
def HasFree (entries : List ArpEntry) : Prop := ∃ e ∈ entries, e.valid = false

instance (entries : List ArpEntry) : Decidable (HasFree entries) :=
  inferInstanceAs (Decidable (∃ e ∈ entries, _))

/-- **A mapping takes the first free slot**, and stays in front of the slots behind it. -/
theorem learnEntry_of_free (mac : Mac) (ip : IpAddr) (now : ℤ) (h : HasFree entries) :
    learnEntry mac ip now entries =
      entries.takeWhile ArpEntry.valid ++ ⟨mac, ip, now, true⟩ :: behindFree entries := by
  induction entries with
  | nil =>
    obtain ⟨e, he, -⟩ := h
    cases he
  | cons e rest ih =>
    rw [learnEntry]
    by_cases he : e.valid = true
    · have hrest : HasFree rest := by
        obtain ⟨f, hf, hfree⟩ := h
        rcases List.mem_cons.mp hf with rfl | hf
        · rw [he] at hfree
          cases hfree
        · exact ⟨f, hf, hfree⟩
      rw [if_pos he, ih hrest, List.takeWhile_cons_of_pos he, behindFree, behindFree,
        List.dropWhile_cons_of_pos he, List.cons_append]
    · rw [if_neg he, List.takeWhile_cons_of_neg he, behindFree, List.dropWhile_cons_of_neg he]
      rfl

/-- A full cache is left as it is. -/
theorem learnEntry_of_full (mac : Mac) (ip : IpAddr) (now : ℤ) (h : ¬ HasFree entries) :
    learnEntry mac ip now entries = entries := by
  induction entries with
  | nil => rfl
  | cons e rest ih =>
    have he : e.valid = true := by
      by_contra he
      exact h ⟨e, List.mem_cons_self, by simpa using he⟩
    have hrest : ¬ HasFree rest := fun ⟨f, hf, hfree⟩ => h ⟨f, List.mem_cons_of_mem e hf, hfree⟩
    rw [learnEntry, if_pos he, ih hrest]

/-! ### Insertions and lookups -/

/-- A lookup right after an insertion gets an entry with the inserted address. -/
def Used (st : ArpState) (mac : Mac) (ip : IpAddr) (now : ℤ) : Prop :=
  ∃ e ∈ srArpcacheLookup (srArpcacheInsert mac ip now st).1.entries ip, e.mac = mac

instance (st : ArpState) (mac : Mac) (ip : IpAddr) (now : ℤ) : Decidable (Used st mac ip now) :=
  inferInstanceAs (Decidable (∃ e ∈ srArpcacheLookup _ _, _))

/-- There is a free slot, and the last mapping for the IP behind the first free slot is to this
address, if there is any; or there is no free slot, and the last mapping for the IP is
to this address already. -/
def NotHidden (entries : List ArpEntry) (mac : Mac) (ip : IpAddr) : Prop :=
  if HasFree entries then ∀ e ∈ srArpcacheLookup (behindFree entries) ip, e.mac = mac
  else ∃ e ∈ srArpcacheLookup entries ip, e.mac = mac

/-- **What was just learnt is used if and only if** it is not hidden. -/
theorem used_iff (calls : List CacheCall) (mac : Mac) (ip : IpAddr) (now : ℤ) :
    Used (runCache calls) mac ip now ↔ NotHidden (runCache calls).entries mac ip := by
  unfold Used NotHidden srArpcacheInsert
  generalize (runCache calls).entries = entries
  by_cases hfree : HasFree entries
  · rw [if_pos hfree]
    show (∃ e ∈ srArpcacheLookup (learnEntry mac ip now entries) ip, e.mac = mac) ↔ _
    have hnew : srArpcacheLookup [⟨mac, ip, now, true⟩] ip = some ⟨mac, ip, now, true⟩ := by
      simp [srArpcacheLookup]
    rw [learnEntry_of_free mac ip now hfree, lookup_append, ← List.singleton_append,
      lookup_append, hnew]
    cases srArpcacheLookup (behindFree entries) ip with
    | none => simp
    | some e => simp
  · rw [if_neg hfree]
    show (∃ e ∈ srArpcacheLookup (learnEntry mac ip now entries) ip, e.mac = mac) ↔ _
    rw [learnEntry_of_full mac ip now hfree]

/-- Two hosts are heard, 10 seconds apart, and the mapping of the first one expires. -/
def firstExpired : List CacheCall :=
  [.insert (generateEthernetAddr 1) 0x0701000a 100, .insert (generateEthernetAddr 2) 0x0801000a 110,
    .timeout 116]

/-- The second host has got another hardware address, which goes unused. -/
theorem not_used_firstExpired :
    ¬ Used (runCache firstExpired) (generateEthernetAddr 3) 0x0801000a 116 := by decide

end Redes
