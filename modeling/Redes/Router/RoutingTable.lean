import Mathlib.Data.Int.Notation
import Redes.Router.Interface

/-!
# The routing table

The operations of `sr_rt.c`, and the longest-prefix lookup of `sr_router.c`.  The table is a singly
linked list that only these functions change, so a list of entries models it.

## Main definitions

* `SrRt` — an entry.
* `srLoadRt` — the static routes, as they are read from a file.
* `srAddRtEntry`, `clearRoutes`, `checkRoute`, `countRoutes` — `sr_rt.c`.
* `countSetBits`, `srFindRtEntry` — the lookup of `sr_router.c`.

## Main results

* `clearRoutes_eq_filter` — with a head that is not dynamic, exactly the dynamic
  entries go.
* `srLoadRt_static` — entries that are read from a file are static.
-/

namespace Redes

/-- `struct sr_rt`: an entry of the routing table. -/
structure SrRt where
  /-- Destination network. -/
  dest : IpAddr
  /-- Gateway, zero for a connected network. -/
  gw : IpAddr
  /-- Subnet mask. -/
  mask : IpAddr
  /-- Name of the outgoing interface. -/
  interface : IfName
  /-- Administrative distance: 0 static, 1 connected, 110 computed. -/
  adminDst : UInt8
  deriving DecidableEq, Inhabited

/-- What `clear_routes` takes for a computed route. -/
def SrRt.IsDynamic (e : SrRt) : Prop := 1 < e.adminDst

instance (e : SrRt) : Decidable e.IsDynamic := inferInstanceAs (Decidable (1 < e.adminDst))

/-- `sr_add_rt_entry`: append an entry at the end of the table. -/
def srAddRtEntry (table : List SrRt) (dest gw mask : IpAddr) (ifName : IfName)
    (adminDst : UInt8) : List SrRt :=
  table ++ [⟨dest, gw, mask, ifName, adminDst⟩]

/-! ### Reading the static routes -/

/-- The buffers that `sr_load_rt` reads the words of a line into. -/
structure RtLine where
  /-- The word for the destination. -/
  dest : List Char
  /-- The word for the gateway. -/
  gw : List Char
  /-- The word for the mask. -/
  mask : List Char
  /-- The word for the interface. -/
  iface : List Char

/-- `isspace`. -/
def isSpace (c : Char) : Bool :=
  c = ' ' ∨ c = '\t' ∨ c = '\n' ∨ c = '\x0b' ∨ c = '\x0c' ∨ c = '\r'

/-- One `%s` of `sscanf`: a word, and the text behind it. -/
def scanWord (text : List Char) : Option (List Char × List Char) :=
  match text.dropWhile isSpace with
  | [] => none
  | c :: cs => some ((c :: cs).span fun c => !isSpace c)

/-- `sscanf(line, "%s %s %s %s", …)`: a buffer for which the line has no word keeps what was
in it. -/
def sscanfLine (line : List Char) (b : RtLine) : RtLine :=
  match scanWord line with
  | none => b
  | some (dest, line) =>
      match scanWord line with
      | none => { b with dest := dest }
      | some (gw, line) =>
          match scanWord line with
          | none => { b with dest := dest, gw := gw }
          | some (mask, line) =>
              match scanWord line with
              | none => { b with dest := dest, gw := gw, mask := mask }
              | some (iface, _) => ⟨dest, gw, mask, iface⟩

/-- The loop of `sr_load_rt` over the lines of the file: the first line whose addresses can
be converted clears the table.  It gives the value returned and the table. -/
def srLoadRtLoop (inetAton : List Char → Option IpAddr) (b : RtLine) (cleared : Bool)
    (table : List SrRt) : List (List Char) → ℤ × List SrRt
  | [] => (0, table)
  | line :: lines =>
      let b := sscanfLine line b
      match inetAton b.dest, inetAton b.gw, inetAton b.mask with
      | some dest, some gw, some mask =>
          let table := if cleared then table else []
          srLoadRtLoop inetAton b true (srAddRtEntry table dest gw mask b.iface 0) lines
      | _, _, _ => (-1, table)

/-- `sr_load_rt`, for a file that cannot be read or the lines of one that can.  The buffers
start with what is on the stack. -/
def srLoadRt (inetAton : List Char → Option IpAddr) (b : RtLine)
    (file : Option (List (List Char))) (table : List SrRt) : ℤ × List SrRt :=
  match file with
  | none => (-1, table)
  | some lines => srLoadRtLoop inetAton b false table lines

/-! ### Dynamic routes -/

/-- The loop of `clear_routes`: `entry` stays, and the entries behind it are deleted
(`sr_del_rt_entry`) as long as they are dynamic. -/
def clearRoutesFrom (entry : SrRt) : List SrRt → List SrRt
  | [] => [entry]
  | next :: rest =>
      if next.IsDynamic then clearRoutesFrom entry rest
      else entry :: clearRoutesFrom next rest

/-- `clear_routes`: delete the dynamic entries behind the head of the table. -/
def clearRoutes : List SrRt → List SrRt
  | [] => []
  | entry :: rest => clearRoutesFrom entry rest

/-- `check_route`: is there an entry with this destination? -/
def checkRoute (table : List SrRt) (route : IpAddr) : Bool :=
  table.any fun e => e.dest = route

/-- `count_routes`: the number of static and connected entries. -/
def countRoutes (table : List SrRt) : ℕ :=
  table.countP fun e => e.adminDst ≤ 1

/-- `count_set_bits`: the set bits of a mask, counted from the lowest up; at most 32
shifts clear the mask. -/
def countSetBitsLoop : ℕ → UInt32 → UInt32
  | 0, _ => 0
  | n + 1, mask => if mask = 0 then 0 else (mask &&& (1 : UInt32)) + countSetBitsLoop n (mask >>> 1)

/-- `count_set_bits`. -/
def countSetBits (mask : UInt32) : UInt32 := countSetBitsLoop 32 mask

/-- `ntohl` on a little-endian host: the four bytes in reverse order. -/
def ntohl (x : UInt32) : UInt32 :=
  (x <<< 24) ||| ((x &&& (0xff00 : UInt32)) <<< 8) ||| ((x >>> 8) &&& (0xff00 : UInt32)) |||
    (x >>> 24)

/-- `sr_find_rt_entry`: the loop keeps the best match so far and its prefix length. -/
def srFindRtEntryLoop (ip : IpAddr) : List SrRt → Option SrRt × UInt32 → Option SrRt
  | [], best => best.1
  | e :: rest, best =>
      if e.mask &&& ip = e.dest &&& e.mask ∧ best.2 < countSetBits (ntohl e.mask) then
        srFindRtEntryLoop ip rest (some e, countSetBits (ntohl e.mask))
      else srFindRtEntryLoop ip rest best

/-- `sr_find_rt_entry`. -/
def srFindRtEntry (table : List SrRt) (ip : IpAddr) : Option SrRt :=
  srFindRtEntryLoop ip table (none, 0)

/-! ### Static entries -/

theorem srLoadRtLoop_static (inetAton : List Char → Option IpAddr) (lines : List (List Char))
    {b : RtLine} {cleared : Bool} {table : List SrRt} (h : ∀ e ∈ table, e.adminDst = 0) :
    ∀ e ∈ (srLoadRtLoop inetAton b cleared table lines).2, e.adminDst = 0 := by
  induction lines generalizing b cleared table with
  | nil => exact h
  | cons line lines ih =>
    simp only [srLoadRtLoop]
    split
    · apply ih
      intro e he
      rcases List.mem_append.mp he with he | he
      · cases cleared with
        | true => exact h e he
        | false => cases he
      · rw [List.mem_singleton.mp he]
    · exact h

/-- **Entries that are read from a file are static.** -/
theorem srLoadRt_static (inetAton : List Char → Option IpAddr) (b : RtLine)
    (file : Option (List (List Char))) {table : List SrRt} (h : ∀ e ∈ table, e.adminDst = 0) :
    ∀ e ∈ (srLoadRt inetAton b file table).2, e.adminDst = 0 := by
  cases file with
  | none => exact h
  | some lines => exact srLoadRtLoop_static inetAton lines h

/-! ### Clearing the dynamic entries -/

theorem clearRoutesFrom_eq (entry : SrRt) (rest : List SrRt) :
    clearRoutesFrom entry rest = entry :: rest.filter fun e => ¬ e.IsDynamic := by
  induction rest generalizing entry with
  | nil => rfl
  | cons next rest ih =>
    by_cases h : next.IsDynamic
    · rw [clearRoutesFrom, if_pos h, ih]
      simp [h]
    · rw [clearRoutesFrom, if_neg h, ih]
      simp [h]

/-- **With a head that is not dynamic, `clear_routes` removes exactly the dynamic
entries.** -/
theorem clearRoutes_eq_filter {table : List SrRt} (h : ∀ e ∈ table.head?, ¬ e.IsDynamic) :
    clearRoutes table = table.filter fun e => ¬ e.IsDynamic := by
  cases table with
  | nil => rfl
  | cons entry rest =>
    have hentry : ¬ entry.IsDynamic := h entry rfl
    rw [clearRoutes, clearRoutesFrom_eq]
    simp [hentry]

/-! ### Looking for a destination -/

@[simp] theorem checkRoute_eq_true {table : List SrRt} {n : IpAddr} :
    checkRoute table n = true ↔ ∃ e ∈ table, e.dest = n := by
  simp [checkRoute]

theorem checkRoute_append {table new : List SrRt} {n : IpAddr}
    (h : checkRoute table n = true) : checkRoute (table ++ new) n = true := by
  obtain ⟨e, he, hn⟩ := checkRoute_eq_true.mp h
  exact checkRoute_eq_true.mpr ⟨e, List.mem_append_left _ he, hn⟩

end Redes
