import Mathlib.Data.List.Forall2
import Mathlib.Data.List.TakeDrop
import Mathlib.Data.List.TakeWhile
import Redes.Router.RoutingTable

/-!
# Which entries a routing table file gives

`sr_load_rt` reads the four words of each line into buffers that are not emptied between
the lines, and does not ask `sscanf` how many words there were.  A line that lacks words
takes them from the lines before it, and a blank line repeats the last entry.

## Main definitions

* `fileLines`, `fgetsPieces` — the lines of a file, and what `fgets` makes of them.
* `words` — the words of a line.
* `buffers` — what the buffers hold after each piece.
* `LoadsTable` — the call returns 0, and no word is longer than its buffer.
* `AsWritten` — a table has the entries that are written in the file.

## Main results

* `sscanfLine_eq` — what `sscanf` reads.
* `srLoadRtLoop_eq_zero_iff` — the table that is loaded.
* `loadsTable_asWritten_iff` — the files whose table is loaded as it is written.
-/

namespace Redes

/-! ### Lines -/

/-- The lines of a file, each with its newline. -/
def fileLines : List Char → List (List Char)
  | [] => []
  | c :: cs =>
      if c = '\n' then [c] :: fileLines cs
      else
        match fileLines cs with
        | [] => [[c]]
        | line :: lines => (c :: line) :: lines

/-- `BUFSIZ`. -/
def bufsiz : ℕ := 8192

/-- What `fgets` makes of a line: pieces of at most `BUFSIZ - 1` characters. -/
def fgetsPieces (line : List Char) : List (List Char) :=
  (List.range ((line.length + (bufsiz - 2)) / (bufsiz - 1))).map fun k =>
    (line.drop ((bufsiz - 1) * k)).take (bufsiz - 1)

/-- The string in a buffer ends with the first zero. -/
def cString (buf : List Char) : List Char := buf.takeWhile fun c => c ≠ '\x00'

/-- What `sscanf` is given, piece by piece. -/
def scannedLines (text : List Char) : List (List Char) :=
  ((fileLines text).flatMap fgetsPieces).map cString

/-- The words between white space. -/
def words (line : List Char) : List (List Char) :=
  (line.splitOnP isSpace).filter fun w => w ≠ []

/-- The words of a line of the file. -/
def fields (line : List Char) : List (List Char) := words (cString line)

/-! ### The table -/

/-- The first four words of a line are shorter than the buffers, which have 32 characters. -/
def WordsFit (line : List Char) : Prop := ∀ w ∈ (words line).take 4, w.length < 32

instance (line : List Char) : Decidable (WordsFit line) :=
  inferInstanceAs (Decidable (∀ w ∈ (words line).take 4, _))

/-- The buffers after each of the lines that are scanned. -/
def buffers (b : RtLine) : List (List Char) → List RtLine
  | [] => []
  | line :: lines => sscanfLine line b :: buffers (sscanfLine line b) lines

/-- `inet_aton` converts the three addresses in the buffers. -/
def Converts (inetAton : List Char → Option IpAddr) (b : RtLine) : Prop :=
  inetAton b.dest ≠ none ∧ inetAton b.gw ≠ none ∧ inetAton b.mask ≠ none

/-- The entry for what is in the buffers. -/
structure IsEntryOf (inetAton : List Char → Option IpAddr) (b : RtLine) (e : SrRt) : Prop where
  /-- The destination. -/
  dest : inetAton b.dest = some e.dest
  /-- The gateway. -/
  gw : inetAton b.gw = some e.gw
  /-- The mask. -/
  mask : inetAton b.mask = some e.mask
  /-- The interface. -/
  iface : e.interface = b.iface
  /-- It is a static entry. -/
  static : e.adminDst = 0

/-- The call returns 0 with the table `result`, and no word was longer than its buffer. -/
def LoadsTable (inetAton : List Char → Option IpAddr) (b : RtLine) (text : List Char)
    (table result : List SrRt) : Prop :=
  (∀ line ∈ scannedLines text, WordsFit line) ∧
    srLoadRt inetAton b (some (scannedLines text)) table = (0, result)

/-- The table has one static entry for each line that is not blank, in their order, with the
four fields of the line. -/
def AsWritten (inetAton : List Char → Option IpAddr) (text : List Char)
    (table : List SrRt) : Prop :=
  List.Forall₂ (fun line e => ∃ dest gw mask iface more,
      fields line = dest :: gw :: mask :: iface :: more ∧
        IsEntryOf inetAton ⟨dest, gw, mask, iface⟩ e)
    ((fileLines text).filter fun line => fields line ≠ []) table

/-! ### What `sscanf` reads -/

theorem words_cons_of_isSpace {c : Char} (h : isSpace c = true) (cs : List Char) :
    words (c :: cs) = words cs := by
  unfold words
  rw [List.splitOnP_cons_eq_if_modifyHead, if_pos h, List.filter_cons_of_neg (by simp)]

theorem words_dropWhile (text : List Char) : words (text.dropWhile isSpace) = words text := by
  induction text with
  | nil => rfl
  | cons c cs ih =>
    by_cases h : isSpace c = true
    · rw [List.dropWhile_cons_of_pos h, ih, words_cons_of_isSpace h]
    · rw [List.dropWhile_cons_of_neg h]

/-- A word and what is behind it. -/
theorem words_append {w rest : List Char} (hw : w ≠ []) (hspace : ∀ c ∈ w, isSpace c = false)
    (hrest : ∀ c ∈ rest.head?, isSpace c = true) : words (w ++ rest) = w :: words rest := by
  cases rest with
  | nil =>
    unfold words
    rw [List.append_nil, List.splitOnP_eq_singleton hspace, List.splitOnP_nil]
    simp [hw]
  | cons c rest =>
    have hc : isSpace c = true := hrest c rfl
    rw [words_cons_of_isSpace hc]
    unfold words
    rw [List.splitOnP_append_cons_of_forall_mem hspace c hc,
      List.filter_cons_of_pos (by simpa using hw)]

/-- **One `%s` takes the next word.** -/
theorem scanWord_spec (text : List Char) :
    (words text = [] ∧ scanWord text = none) ∨
      ∃ w rest, words text = w :: words rest ∧ scanWord text = some (w, rest) := by
  rw [← words_dropWhile text]
  unfold scanWord
  cases hdrop : text.dropWhile isSpace with
  | nil => exact .inl ⟨rfl, rfl⟩
  | cons c cs =>
    right
    have hc : isSpace c = false := by
      simpa [hdrop] using List.head?_dropWhile_not isSpace text
    refine ⟨(c :: cs).takeWhile fun c => !isSpace c, (c :: cs).dropWhile fun c => !isSpace c, ?_,
      congrArg some (List.span_eq_takeWhile_dropWhile _ _)⟩
    rw [← words_append (by simp [hc]), List.takeWhile_append_dropWhile]
    · intro d hd
      simpa using List.mem_takeWhile_imp hd
    · intro d hd
      have hhead := List.head?_dropWhile_not (fun c => !isSpace c) (c :: cs)
      rw [Option.mem_def] at hd
      simpa [hd] using hhead

/-- **What `sscanf` reads**: a buffer for which the line has no word keeps what was in it. -/
theorem sscanfLine_eq (line : List Char) (b : RtLine) :
    sscanfLine line b = ⟨(words line)[0]?.getD b.dest, (words line)[1]?.getD b.gw,
      (words line)[2]?.getD b.mask, (words line)[3]?.getD b.iface⟩ := by
  unfold sscanfLine
  rcases scanWord_spec line with ⟨hw, hs⟩ | ⟨dest, rest, hw, hs⟩
  · rw [hw, hs]
    rfl
  rw [hw, hs]
  rcases scanWord_spec rest with ⟨hw, hs⟩ | ⟨gw, rest, hw, hs⟩
  · simp [hw, hs]
  rw [hw]
  simp only [hs]
  rcases scanWord_spec rest with ⟨hw, hs⟩ | ⟨mask, rest, hw, hs⟩
  · simp [hw, hs]
  rw [hw]
  simp only [hs]
  rcases scanWord_spec rest with ⟨hw, hs⟩ | ⟨iface, rest, hw, hs⟩
  · simp [hw, hs]
  · simp [hw, hs]

/-- A line with four words fills all buffers. -/
theorem sscanfLine_of_four {line : List Char} (h : 4 ≤ (words line).length) (b : RtLine) :
    ∃ dest gw mask iface more, words line = dest :: gw :: mask :: iface :: more ∧
      sscanfLine line b = ⟨dest, gw, mask, iface⟩ := by
  rw [sscanfLine_eq]
  match hw : words line with
  | dest :: gw :: mask :: iface :: more => exact ⟨dest, gw, mask, iface, more, rfl, by simp⟩
  | [] | [_] | [_, _] | [_, _, _] => rw [hw] at h; simp at h

/-! ### What is loaded -/

theorem IsEntryOf.unique {inetAton : List Char → Option IpAddr} {b : RtLine} {e e' : SrRt}
    (h : IsEntryOf inetAton b e) (h' : IsEntryOf inetAton b e') : e = e' := by
  cases e
  cases e'
  obtain rfl := Option.some.inj (h.dest.symm.trans h'.dest)
  obtain rfl := Option.some.inj (h.gw.symm.trans h'.gw)
  obtain rfl := Option.some.inj (h.mask.symm.trans h'.mask)
  obtain rfl := h.iface.trans h'.iface.symm
  obtain rfl := h.static.trans h'.static.symm
  rfl

/-- The buffers have an entry exactly if `inet_aton` converts the addresses in them. -/
theorem exists_isEntryOf_iff {inetAton : List Char → Option IpAddr} {b : RtLine} :
    (∃ e, IsEntryOf inetAton b e) ↔ Converts inetAton b := by
  constructor
  · rintro ⟨e, h⟩
    exact ⟨by simp [h.dest], by simp [h.gw], by simp [h.mask]⟩
  · rintro ⟨hdest, hgw, hmask⟩
    obtain ⟨dest, hdest⟩ := Option.ne_none_iff_exists'.mp hdest
    obtain ⟨gw, hgw⟩ := Option.ne_none_iff_exists'.mp hgw
    obtain ⟨mask, hmask⟩ := Option.ne_none_iff_exists'.mp hmask
    exact ⟨⟨dest, gw, mask, b.iface, 0⟩, hdest, hgw, hmask, rfl, rfl⟩

theorem srLoadRtLoop_of_isEntryOf {inetAton : List Char → Option IpAddr} {line : List Char}
    {b : RtLine} {e : SrRt} (h : IsEntryOf inetAton (sscanfLine line b) e) (cleared : Bool)
    (table : List SrRt) (lines : List (List Char)) :
    srLoadRtLoop inetAton b cleared table (line :: lines) =
      srLoadRtLoop inetAton (sscanfLine line b) true ((if cleared then table else []) ++ [e])
        lines := by
  obtain ⟨hdest, hgw, hmask, hiface, hstatic⟩ := h
  rw [srLoadRtLoop]
  simp only [hdest, hgw, hmask, srAddRtEntry, ← hiface, ← hstatic]

theorem srLoadRtLoop_of_not_converts {inetAton : List Char → Option IpAddr} {line : List Char}
    {b : RtLine} (h : ¬ Converts inetAton (sscanfLine line b)) (cleared : Bool)
    (table : List SrRt) (lines : List (List Char)) :
    srLoadRtLoop inetAton b cleared table (line :: lines) = (-1, table) := by
  rw [srLoadRtLoop]
  simp only
  split
  · next hdest hgw hmask =>
    exact absurd ⟨by simp [hdest], by simp [hgw], by simp [hmask]⟩ h
  · rfl

/-- **The table that is loaded** has an entry for what was in the buffers after each line. -/
theorem srLoadRtLoop_eq_zero_iff {inetAton : List Char → Option IpAddr} (lines : List (List Char))
    {b : RtLine} {cleared : Bool} {table result : List SrRt} :
    srLoadRtLoop inetAton b cleared table lines = (0, result) ↔
      ∃ entries, List.Forall₂ (IsEntryOf inetAton) (buffers b lines) entries ∧
        result = (if cleared = true ∨ lines = [] then table else []) ++ entries := by
  induction lines generalizing b cleared table with
  | nil => simp [srLoadRtLoop, buffers, eq_comm]
  | cons line lines ih =>
    rw [buffers]
    by_cases hconv : Converts inetAton (sscanfLine line b)
    · obtain ⟨e, he⟩ := exists_isEntryOf_iff.mpr hconv
      rw [srLoadRtLoop_of_isEntryOf he, ih]
      simp only [true_or, if_true, reduceCtorEq, or_false, List.append_assoc, List.singleton_append]
      constructor
      · rintro ⟨entries, hentries, rfl⟩
        exact ⟨e :: entries, .cons he hentries, rfl⟩
      · rintro ⟨_, hentries, rfl⟩
        obtain ⟨e', entries, he', hrest, rfl⟩ := List.forall₂_cons_left_iff.mp hentries
        rw [he'.unique he]
        exact ⟨entries, hrest, rfl⟩
    · rw [srLoadRtLoop_of_not_converts hconv]
      constructor
      · intro h
        cases h
      · rintro ⟨_, hentries, -⟩
        obtain ⟨e, -, he, -, -⟩ := List.forall₂_cons_left_iff.mp hentries
        exact absurd (exists_isEntryOf_iff.mp ⟨e, he⟩) hconv

/-- With a line to read, a call that returns 0 loads the entries for what was in the buffers. -/
theorem loadsTable_iff {inetAton : List Char → Option IpAddr} {b : RtLine} {text : List Char}
    {table result : List SrRt} (h : scannedLines text ≠ []) :
    LoadsTable inetAton b text table result ↔ (∀ line ∈ scannedLines text, WordsFit line) ∧
      List.Forall₂ (IsEntryOf inetAton) (buffers b (scannedLines text)) result := by
  unfold LoadsTable srLoadRt
  rw [srLoadRtLoop_eq_zero_iff]
  simp [h]

theorem exists_forall₂_isEntryOf_iff {inetAton : List Char → Option IpAddr} (bs : List RtLine) :
    (∃ entries, List.Forall₂ (IsEntryOf inetAton) bs entries) ↔
      ∀ b ∈ bs, Converts inetAton b := by
  induction bs with
  | nil => simp
  | cons b bs ih =>
    rw [List.forall_mem_cons, ← exists_isEntryOf_iff, ← ih]
    constructor
    · rintro ⟨_, h⟩
      obtain ⟨e, entries, he, hentries, -⟩ := List.forall₂_cons_left_iff.mp h
      exact ⟨⟨e, he⟩, entries, hentries⟩
    · rintro ⟨⟨e, he⟩, entries, hentries⟩
      exact ⟨e :: entries, .cons he hentries⟩

/-! ### Pieces of lines -/

theorem fileLines_ne_nil {text line : List Char} (h : line ∈ fileLines text) : line ≠ [] := by
  induction text generalizing line with
  | nil => cases h
  | cons c cs ih =>
    unfold fileLines at h
    split at h
    · rcases List.mem_cons.mp h with rfl | h
      · simp
      · exact ih h
    · split at h
      · simp [List.mem_singleton.mp h]
      · next heq =>
        rcases List.mem_cons.mp h with rfl | h
        · simp
        · exact ih (heq ▸ List.mem_cons_of_mem _ h)

/-- A line that fits the buffer is read at once. -/
theorem fgetsPieces_of_lt {line : List Char} (hne : line ≠ []) (h : line.length < bufsiz) :
    fgetsPieces line = [line] := by
  have hpos := List.length_pos_iff.mpr hne
  unfold bufsiz at h
  have hone : (line.length + (8192 - 2)) / (8192 - 1) = 1 := by omega
  simp only [fgetsPieces, bufsiz, hone, List.range_one, List.map_singleton, Nat.mul_zero,
    List.drop_zero]
  rw [List.take_of_length_le (by omega)]

/-- A line has at least one piece, and only one if it fits the buffer. -/
theorem length_fgetsPieces {line : List Char} (hne : line ≠ []) :
    1 ≤ (fgetsPieces line).length ∧ ((fgetsPieces line).length = 1 → line.length < bufsiz) := by
  have hpos := List.length_pos_iff.mpr hne
  simp only [fgetsPieces, bufsiz, List.length_map, List.length_range]
  omega

/-- There are at least as many pieces as lines, and as many only if all lines fit. -/
theorem length_flatMap_fgetsPieces {lines : List (List Char)} (hne : ∀ line ∈ lines, line ≠ []) :
    lines.length ≤ (lines.flatMap fgetsPieces).length ∧
      ((lines.flatMap fgetsPieces).length = lines.length →
        ∀ line ∈ lines, line.length < bufsiz) := by
  induction lines with
  | nil => simp
  | cons line lines ih =>
    obtain ⟨hle, heq⟩ := ih fun l hl => hne l (List.mem_cons_of_mem _ hl)
    obtain ⟨hone, hfits⟩ := length_fgetsPieces (hne line List.mem_cons_self)
    rw [List.flatMap_cons, List.length_append, List.length_cons]
    refine ⟨by omega, fun h => List.forall_mem_cons.mpr ⟨hfits (by omega), heq (by omega)⟩⟩

theorem scannedLines_of_fits {text : List Char}
    (h : ∀ line ∈ fileLines text, line.length < bufsiz) :
    scannedLines text = (fileLines text).map cString := by
  have hpieces : ∀ lines : List (List Char), (∀ line ∈ lines, line ≠ [] ∧ line.length < bufsiz) →
      lines.flatMap fgetsPieces = lines := by
    intro lines
    induction lines with
    | nil => exact fun _ => rfl
    | cons line lines ih =>
      intro hlines
      obtain ⟨⟨hne, hlt⟩, hrest⟩ := List.forall_mem_cons.mp hlines
      rw [List.flatMap_cons, fgetsPieces_of_lt hne hlt, ih hrest, List.singleton_append]
  rw [scannedLines, hpieces _ fun line hl => ⟨fileLines_ne_nil hl, h line hl⟩]

/-! ### Files that are loaded as they are written -/

/-- Every line of the file has four fields, and fits the buffer of `fgets`. -/
def AllComplete (text : List Char) : Prop :=
  ∀ line ∈ fileLines text, 4 ≤ (fields line).length ∧ line.length < bufsiz

instance (text : List Char) : Decidable (AllComplete text) :=
  inferInstanceAs (Decidable (∀ line ∈ fileLines text, _ ∧ _))

/-- The lines with four fields give their own entries, whatever was in the buffers. -/
theorem forall₂_of_complete {inetAton : List Char → Option IpAddr} {lines : List (List Char)}
    (h : ∀ line ∈ lines, 4 ≤ (fields line).length) {b : RtLine} {entries : List SrRt}
    (hentries : List.Forall₂ (IsEntryOf inetAton) (buffers b (lines.map cString)) entries) :
    List.Forall₂ (fun line e => ∃ dest gw mask iface more,
      fields line = dest :: gw :: mask :: iface :: more ∧
        IsEntryOf inetAton ⟨dest, gw, mask, iface⟩ e) lines entries := by
  induction lines generalizing b entries with
  | nil =>
    cases hentries
    exact .nil
  | cons line lines ih =>
    obtain ⟨hline, hrest⟩ := List.forall_mem_cons.mp h
    rw [List.map_cons, buffers] at hentries
    cases hentries with
    | cons he htail =>
      have hfour : 4 ≤ (words (cString line)).length := hline
      obtain ⟨dest, gw, mask, iface, more, hfields, hbuf⟩ := sscanfLine_of_four hfour b
      exact .cons ⟨dest, gw, mask, iface, more, hfields, hbuf ▸ he⟩ (ih hrest htail)

theorem length_buffers (b : RtLine) (lines : List (List Char)) :
    (buffers b lines).length = lines.length := by
  induction lines generalizing b with
  | nil => rfl
  | cons line lines ih => rw [buffers, List.length_cons, List.length_cons, ih]

/-- **A table that is loaded as it is written has a line with four fields for each piece.** -/
theorem allComplete_of_asWritten {inetAton : List Char → Option IpAddr} {b : RtLine}
    {text : List Char} {result : List SrRt}
    (hentries : List.Forall₂ (IsEntryOf inetAton) (buffers b (scannedLines text)) result)
    (hwritten : AsWritten inetAton text result) : AllComplete text := by
  have hlen : (scannedLines text).length =
      ((fileLines text).filter fun line => fields line ≠ []).length := by
    rw [hwritten.length_eq, ← hentries.length_eq, length_buffers]
  rw [scannedLines, List.length_map] at hlen
  have hne : ∀ line ∈ fileLines text, line ≠ [] := fun _ => fileLines_ne_nil
  obtain ⟨hle, hfits⟩ := length_flatMap_fgetsPieces hne
  have hfilter := List.length_filter_le (fun line => decide (fields line ≠ [])) (fileLines text)
  have hall : ((fileLines text).filter fun line => fields line ≠ []) = fileLines text :=
    List.length_filter_eq_length_iff.mp (by omega) |> List.filter_eq_self.mpr
  intro line hline
  refine ⟨?_, hfits (by omega) line hline⟩
  unfold AsWritten at hwritten
  rw [hall] at hwritten
  obtain ⟨k, hk, rfl⟩ := List.mem_iff_getElem.mp hline
  obtain ⟨dest, gw, mask, iface, more, hfields, -⟩ :=
    (List.forall₂_iff_get.mp hwritten).2 k hk (hwritten.length_eq ▸ hk)
  rw [List.get_eq_getElem] at hfields
  rw [hfields]
  simp

/-- **A file is loaded as it is written exactly if every line has four fields and fits the
buffer**, or the call does not return 0 because a word is longer than its buffer or because
after some line one of the addresses in the buffers, each of which is from the last line
that had one, cannot be converted. -/
theorem loadsTable_asWritten_iff (inetAton : List Char → Option IpAddr) (b : RtLine)
    (text : List Char) (table : List SrRt) (h : ∃ line ∈ fileLines text, fields line ≠ []) :
    (∀ result, LoadsTable inetAton b text table result → AsWritten inetAton text result) ↔
      AllComplete text ∨ (∃ line ∈ scannedLines text, ¬ WordsFit line) ∨
        ∃ b' ∈ buffers b (scannedLines text), ¬ Converts inetAton b' := by
  have hlines : scannedLines text ≠ [] := by
    obtain ⟨line, hline, -⟩ := h
    have hne : ∀ line ∈ fileLines text, line ≠ [] := fun _ => fileLines_ne_nil
    obtain ⟨hle, -⟩ := length_flatMap_fgetsPieces hne
    have hpos := List.length_pos_of_mem hline
    rw [← List.length_pos_iff, scannedLines, List.length_map]
    omega
  constructor
  · intro hlaw
    by_contra hcon
    simp only [not_or, not_exists, not_and, not_not] at hcon
    obtain ⟨hincomplete, hfit, hconv⟩ := hcon
    obtain ⟨result, hentries⟩ := (exists_forall₂_isEntryOf_iff _).mpr hconv
    exact hincomplete (allComplete_of_asWritten hentries
      (hlaw result ((loadsTable_iff hlines).mpr ⟨hfit, hentries⟩)))
  · rintro (hcomplete | ⟨line, hline, hlong⟩ | ⟨b', hb', hrefused⟩) result hloads
    · obtain ⟨-, hentries⟩ := (loadsTable_iff hlines).mp hloads
      rw [scannedLines_of_fits fun line hl => (hcomplete line hl).2] at hentries
      have hall : ((fileLines text).filter fun line => fields line ≠ []) = fileLines text := by
        refine List.filter_eq_self.mpr fun line hl => ?_
        have hfour := (hcomplete line hl).1
        rw [decide_eq_true_iff, ← List.length_pos_iff]
        omega
      rw [AsWritten, hall]
      exact forall₂_of_complete (fun line hl => (hcomplete line hl).1) hentries
    · exact absurd (hloads.1 line hline) hlong
    · obtain ⟨-, hentries⟩ := (loadsTable_iff hlines).mp hloads
      exact absurd ((exists_forall₂_isEntryOf_iff _).mp ⟨result, hentries⟩ b' hb') hrefused

/-- `inet_aton`, for three addresses. -/
def someAddresses (word : List Char) : Option IpAddr :=
  if word = "10.0.1.0".toList then some 0x0001000a
  else if word = "0.0.0.0".toList then some 0
  else if word = "255.255.255.0".toList then some 0x00ffffff
  else none

/-- A route, and a line that is blank. -/
def blankLineFile : List Char := "10.0.1.0 0.0.0.0 255.255.255.0 eth1\n\n".toList

/-- The condition for this file. -/
theorem loadsTable_asWritten_iff_blankLineFile :
    (∀ result, LoadsTable someAddresses ⟨[], [], [], []⟩ blankLineFile [] result →
        AsWritten someAddresses blankLineFile result) ↔
      AllComplete blankLineFile ∨ (∃ line ∈ scannedLines blankLineFile, ¬ WordsFit line) ∨
        ∃ b' ∈ buffers ⟨[], [], [], []⟩ (scannedLines blankLineFile),
          ¬ Converts someAddresses b' :=
  loadsTable_asWritten_iff someAddresses ⟨[], [], [], []⟩ blankLineFile [] (by decide)

/-- **The blank line adds the route of the line before it once more.** -/
theorem blankLineFile_adds_entry :
    (∃ line ∈ fileLines blankLineFile, fields line ≠ []) ∧
    LoadsTable someAddresses ⟨[], [], [], []⟩ blankLineFile []
        (List.replicate 2 ⟨0x0001000a, 0, 0x00ffffff, "eth1".toList, 0⟩) ∧
      ¬ AsWritten someAddresses blankLineFile
        (List.replicate 2 ⟨0x0001000a, 0, 0x00ffffff, "eth1".toList, 0⟩) := by
  refine ⟨by decide, ⟨by decide, by decide⟩, fun hwritten => ?_⟩
  have hlen := hwritten.length_eq
  revert hlen
  decide

end Redes
