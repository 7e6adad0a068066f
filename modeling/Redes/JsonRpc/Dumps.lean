import Mathlib.Algebra.BigOperators.Group.List.Basic
import Mathlib.Algebra.Ring.Int.Defs
import Mathlib.Data.List.Infix
import Redes.JsonRpc.Json
import Redes.JsonRpc.Reader

/-!
# The character rules on the texts of `json.dumps`

The rules that find the end of a message tell a quote that ends a string from an escaped quote by
one character before it.  A string that ends in a backslash is written with two of them, and
the quote behind them is taken for an escaped one.  From there on, the rules take what is outside
of strings for what is inside and the other way round, until the next string of this kind.

## Main definitions

* `escape`, `Chunk`, `iterencode`, `dumps` — `json.dumps`.
* `Quotes`, `countedIn` — the braces that the rules count in a text.
* `Chunk.flips`, `Chunk.counted`, `counted`, `invertedAfter` — the same, by strings.
* `FirstReturn`, `EndsRight` — what is expected of the braces, and of the rules.

## Main results

* `reads_string`, `reads_textOf` — what the rules make of strings, and of a text.
* `nested_iterencode` — the braces outside of strings are nested.
* `endsRight_iff` — when the rules find the end of an object.
* `endsRight_of_no_backslash` — they do if no string ends in a backslash.
-/

namespace Redes

open Cut

/-! ### `json.dumps` -/

/-- `'\\u{0:04x}'.format(n)`. -/
def unicodeEscape (n : ℕ) : List Char :=
  ['\\', 'u', Nat.digitChar (n / 4096 % 16), Nat.digitChar (n / 256 % 16),
    Nat.digitChar (n / 16 % 16), Nat.digitChar (n % 16)]

/-- How a code point of a string is written.  What is no printable ASCII is written with its number,
or those of two surrogates. -/
def escape (c : UInt32) : List Char :=
  if c = 0x22 then ['\\', '"']
  else if c = 0x5c then ['\\', '\\']
  else if c = 0x0a then ['\\', 'n']
  else if c = 0x0d then ['\\', 'r']
  else if c = 0x09 then ['\\', 't']
  else if c = 0x0c then ['\\', 'f']
  else if c = 0x08 then ['\\', 'b']
  else if 0x20 ≤ c ∧ c ≤ 0x7e then [Char.ofNat c.toNat]
  else if c < 0x10000 then unicodeEscape c.toNat
  else
    let n := c.toNat - 0x10000
    unicodeEscape (0xd800 + n / 1024 % 1024) ++ unicodeEscape (0xdc00 + n % 1024)

/-- The pieces that `iterencode` yields. -/
inductive Chunk
  /-- `null`. -/
  | null
  /-- `true` or `false`. -/
  | bool (b : Bool)
  /-- An `int`. -/
  | int (n : ℤ)
  /-- A `float`. -/
  | float (repr : PyStr)
  /-- A `str`, as a value or as a key. -/
  | str (s : PyStr)
  /-- `", "`. -/
  | comma
  /-- `": "`. -/
  | colon
  /-- `[`. -/
  | openBracket
  /-- `]`. -/
  | closeBracket
  /-- An opening brace. -/
  | openBrace
  /-- A closing brace. -/
  | closeBrace
  deriving DecidableEq

/-- How a float is written, in terms of what `float.__repr__` returns. -/
def floatText (repr : PyStr) : List Char :=
  if repr = py "nan" then "NaN".toList
  else if repr = py "inf" then "Infinity".toList
  else if repr = py "-inf" then "-Infinity".toList
  else repr.map fun c => Char.ofNat c.toNat

/-- What is written for a piece. -/
def Chunk.text : Chunk → List Char
  | .null => "null".toList
  | .bool true => "true".toList
  | .bool false => "false".toList
  | .int n => (toString n).toList
  | .float repr => floatText repr
  | .str s => '"' :: (s.flatMap escape ++ ['"'])
  | .comma => ", ".toList
  | .colon => ": ".toList
  | .openBracket => ['[']
  | .closeBracket => [']']
  | .openBrace => ['\x7b']
  | .closeBrace => ['\x7d']

mutual

/-- `iterencode`. -/
def iterencode : Json → List Chunk
  | .null => [.null]
  | .bool b => [.bool b]
  | .int n => [.int n]
  | .float repr => [.float repr]
  | .str s => [.str s]
  | .arr items => .openBracket :: (iterencodeList [] items ++ [.closeBracket])
  | .obj fields => .openBrace :: (iterencodeDict [] fields ++ [.closeBrace])

/-- The items of a list; the separator is in front of the first one. -/
def iterencodeList (separator : List Chunk) : List Json → List Chunk
  | [] => []
  | j :: items => separator ++ (iterencode j ++ iterencodeList [.comma] items)

/-- The fields of a dictionary; the separator is in front of the first one. -/
def iterencodeDict (separator : List Chunk) : List (PyStr × Json) → List Chunk
  | [] => []
  | (key, j) :: fields =>
      separator ++ (.str key :: .colon :: (iterencode j ++ iterencodeDict [.comma] fields))

end

/-- The text of some pieces. -/
def textOf (chunks : List Chunk) : List Char := chunks.flatMap Chunk.text

/-- `json.dumps`. -/
def dumps (j : Json) : List Char := textOf (iterencode j)

/-! ### What is expected -/

/-- The text is found at the beginning of any stream that begins with it. -/
def EndsRight (t : List Char) : Prop := ∀ u, scanCut Scan.start (t ++ u) = some (t, u)

/-- The sum is zero at the end and, but for the beginning, not before. -/
def FirstReturn (l : List ℤ) : Prop :=
  l.sum = 0 ∧ ∀ q, q <+: l → q ≠ [] → q ≠ l → q.sum ≠ 0

instance (l : List ℤ) : Decidable (FirstReturn l) :=
  decidable_of_iff (l.sum = 0 ∧ ∀ q ∈ l.inits, q ≠ [] → q ≠ l → q.sum ≠ 0)
    (by simp only [List.mem_inits, FirstReturn])

/-- The string ends in a backslash: behind it, the rules are wrong about what is inside of strings
if they were right, and right if they were wrong. -/
def Chunk.flips : Chunk → Bool
  | .str s => decide (s.getLast? = some 0x5c)
  | _ => false

/-- The brace that a code point is. -/
def codeBraces (c : UInt32) : List ℤ :=
  if c = 0x7d then [-1] else if c = 0x7b then [1] else []

/-- The braces of a piece that are counted: those outside of strings if the rules are right, and
those inside if they are not. -/
def Chunk.counted (inverted : Bool) : Chunk → List ℤ
  | .openBrace => if inverted = true then [] else [1]
  | .closeBrace => if inverted = true then [] else [-1]
  | .str s => if inverted = true then s.flatMap codeBraces else []
  | _ => []

/-- The rules are wrong behind the pieces. -/
def invertedAfter (inverted : Bool) : List Chunk → Bool
  | [] => inverted
  | c :: chunks => invertedAfter (inverted ^^ c.flips) chunks

/-- The braces that are counted. -/
def counted (inverted : Bool) : List Chunk → List ℤ
  | [] => []
  | c :: chunks => c.counted inverted ++ counted (inverted ^^ c.flips) chunks

/-! ### The rules on a text -/

/-- The variables of the scan without the count. -/
structure Quotes where
  /-- `is_quoted`. -/
  isQuoted : Bool
  /-- `prev_char`. -/
  prevChar : Option Char

/-- They are what the scan has. -/
def Scan.quotes (s : Scan) : Quotes := ⟨s.isQuoted, s.prevChar⟩

/-- What a character makes of them. -/
def Quotes.next (q : Quotes) (c : Char) : Quotes :=
  ⟨if c = '"' ∧ q.prevChar ≠ some '\\' then !q.isQuoted else q.isQuoted, some c⟩

/-- What a character adds to the count. -/
def Quotes.braces (q : Quotes) (c : Char) : List ℤ :=
  if q.isQuoted = true then []
  else if c = '\x7d' then [-1]
  else if c = '\x7b' then [1]
  else []

/-- The braces that are counted in a text. -/
def countedIn (q : Quotes) : List Char → List ℤ
  | [] => []
  | c :: w => q.braces c ++ countedIn (q.next c) w

theorem countedIn_append (q : Quotes) (w w' : List Char) :
    countedIn q (w ++ w') = countedIn q w ++ countedIn (w.foldl Quotes.next q) w' := by
  induction w generalizing q with
  | nil => rfl
  | cons c w ih =>
    rw [List.cons_append, countedIn, ih, countedIn, List.foldl_cons, List.append_assoc]

theorem quotes_next (s : Scan) (c : Char) : (s.next c).quotes = s.quotes.next c ∧
    (s.next c).bracketCount = s.bracketCount + (s.quotes.braces c).sum := by
  unfold Scan.next Scan.quotes Quotes.next Quotes.braces
  by_cases hclose : c = '\x7d'
  · subst hclose
    cases s.isQuoted <;> simp [Int.sub_eq_add_neg]
  · by_cases hopen : c = '\x7b'
    · subst hopen
      cases s.isQuoted <;> simp
    · by_cases hquote : c = '"' ∧ s.prevChar ≠ some '\\'
      · simp [hquote]
      · simp [hclose, hopen, hquote]

/-- **The count** is the sum of the braces that are counted. -/
theorem bracketCount_foldl (s : Scan) (w : List Char) :
    (w.foldl Scan.next s).bracketCount = s.bracketCount + (countedIn s.quotes w).sum := by
  induction w generalizing s with
  | nil => simp [countedIn]
  | cons c w ih =>
    obtain ⟨hquotes, hcount⟩ := quotes_next s c
    rw [List.foldl_cons, ih, hquotes, hcount, countedIn, List.sum_append, Int.add_assoc]

/-! ### The rules on the pieces -/

/-- What the rules make of a text that begins behind no backslash, if `f` says that they are
wrong: the braces they count, and whether they are wrong behind it. -/
structure Reads (f : Bool) (w : List Char) (braces : List ℤ) (f' : Bool) : Prop where
  /-- The braces. -/
  counted_eq : ∀ p, p ≠ some '\\' → countedIn ⟨f, p⟩ w = braces
  /-- The variables behind it, which is no place behind a backslash either. -/
  after : ∀ p, p ≠ some '\\' → ∃ p', p' ≠ some '\\' ∧ w.foldl Quotes.next ⟨f, p⟩ = ⟨f', p'⟩

/-- A character that the rules pass over. -/
def Plain (c : Char) : Prop := c ≠ '"' ∧ c ≠ '\\' ∧ c ≠ '\x7b' ∧ c ≠ '\x7d'

instance (c : Char) : Decidable (Plain c) := inferInstanceAs (Decidable (_ ∧ _))

/-- A text of such characters. -/
def PlainText (w : List Char) : Prop := ∀ c ∈ w, Plain c

instance (w : List Char) : Decidable (PlainText w) := List.decidableBAll _ w

section Reads

variable {f f' f'' : Bool} {w w' : List Char} {braces braces' : List ℤ}

theorem Reads.nil (f : Bool) : Reads f [] [] f := ⟨fun _ _ => rfl, fun p hp => ⟨p, hp, rfl⟩⟩

/-- **One text behind the other.** -/
theorem Reads.append (h : Reads f w braces f') (h' : Reads f' w' braces' f'') :
    Reads f (w ++ w') (braces ++ braces') f'' := by
  constructor
  · intro p hp
    obtain ⟨p', hp', hafter⟩ := h.after p hp
    rw [countedIn_append, h.counted_eq p hp, hafter, h'.counted_eq p' hp']
  · intro p hp
    obtain ⟨p', hp', hafter⟩ := h.after p hp
    rw [List.foldl_append, hafter]
    exact h'.after p' hp'

/-- A single character that is neither a quote nor a backslash. -/
theorem reads_char (f : Bool) {c : Char} (hquote : c ≠ '"') (hslash : c ≠ '\\') :
    Reads f [c] (Quotes.braces ⟨f, none⟩ c) f := by
  constructor
  · intro p _
    simp [countedIn, Quotes.braces]
  · intro p _
    exact ⟨some c, by simpa using hslash, by simp [Quotes.next, hquote]⟩

theorem reads_plain (f : Bool) (h : PlainText w) : Reads f w [] f := by
  induction w with
  | nil => exact .nil f
  | cons c w ih =>
    obtain ⟨⟨hquote, hslash, hopen, hclose⟩, hw⟩ := List.forall_mem_cons.mp h
    have hc := reads_char f hquote hslash
    have hbraces : Quotes.braces ⟨f, none⟩ c = [] := by simp [Quotes.braces, hopen, hclose]
    rw [hbraces] at hc
    exact hc.append (ih hw)

end Reads

/-! ### Strings -/

/-- What the rules make of a text inside of a string if only the brace `c` is counted, and the text
ends in a backslash exactly if `c` is one. -/
def ReadsAs (w : List Char) (c : UInt32) : Prop :=
  ∀ q p, countedIn ⟨q, p⟩ w = (if q = true then [] else codeBraces c) ∧
    ∃ p', (p' = some '\\' ↔ c = 0x5c) ∧ w.foldl Quotes.next ⟨q, p⟩ = ⟨q, p'⟩

/-- A backslash and a character behind it. -/
theorem readsAs_pair {x : Char} {c : UInt32} (hx : x ≠ '\x7b' ∧ x ≠ '\x7d')
    (hc : codeBraces c = []) (hslash : x = '\\' ↔ c = 0x5c) : ReadsAs ['\\', x] c := by
  intro q p
  refine ⟨?_, some x, by simpa using hslash, by simp [Quotes.next]⟩
  rw [hc]
  simp [countedIn, Quotes.braces, Quotes.next, hx]

theorem plain_digitChar (n : ℕ) : Plain (Nat.digitChar (n % 16)) := by
  have hall : ∀ n : Fin 16, Plain (Nat.digitChar n) := by decide
  exact hall ⟨n % 16, Nat.mod_lt n (by decide)⟩

/-- A number. -/
theorem readsAs_unicodeEscape (n : ℕ) {c : UInt32} (hc : codeBraces c = []) (hslash : c ≠ 0x5c) :
    ReadsAs (unicodeEscape n) c := by
  obtain ⟨hq₁, -, ho₁, hc₁⟩ := plain_digitChar (n / 4096)
  obtain ⟨hq₂, -, ho₂, hc₂⟩ := plain_digitChar (n / 256)
  obtain ⟨hq₃, -, ho₃, hc₃⟩ := plain_digitChar (n / 16)
  obtain ⟨hq₄, hs₄, ho₄, hc₄⟩ := plain_digitChar n
  intro q p
  refine ⟨?_, some (Nat.digitChar (n % 16)), by simp [hs₄, hslash], ?_⟩
  · rw [hc]
    simp [unicodeEscape, countedIn, Quotes.braces, ho₁, hc₁, ho₂, hc₂, ho₃, hc₃, ho₄, hc₄]
  · simp [unicodeEscape, Quotes.next, hq₁, hq₂, hq₃, hq₄]

theorem ReadsAs.append {w w' : List Char} {c : UInt32} (hc : codeBraces c = [])
    (h : ReadsAs w c) (h' : ReadsAs w' c) : ReadsAs (w ++ w') c := by
  intro q p
  obtain ⟨hcount, p₁, -, hafter⟩ := h q p
  obtain ⟨hcount', p₂, hslash, hafter'⟩ := h' q p₁
  refine ⟨?_, p₂, hslash, by rw [List.foldl_append, hafter, hafter']⟩
  rw [countedIn_append, hcount, hafter, hcount', hc]
  simp

/-- A printable character is written as it is. -/
theorem readsAs_char {c : UInt32} (hc : 0x20 ≤ c ∧ c ≤ 0x7e) (hquote : c ≠ 0x22)
    (hslash : c ≠ 0x5c) : ReadsAs [Char.ofNat c.toNat] c := by
  have hall : ∀ n : Fin 127, n.val ≠ 0x22 → n.val ≠ 0x5c → Char.ofNat n.val ≠ '"' ∧
      Char.ofNat n.val ≠ '\\' ∧ (Char.ofNat n.val = '\x7b' ↔ n.val = 0x7b) ∧
        (Char.ofNat n.val = '\x7d' ↔ n.val = 0x7d) := by decide
  have hlt : c.toNat < 127 := by
    have hle : c.toNat ≤ 0x7e := UInt32.le_iff_toNat_le.mp hc.2
    omega
  have hval : ∀ m : UInt32, c.toNat = m.toNat ↔ c = m := fun m => UInt32.toNat_inj
  obtain ⟨hq, hs, hopen, hclose⟩ := hall ⟨c.toNat, hlt⟩ (fun h => hquote ((hval 0x22).mp h))
    (fun h => hslash ((hval 0x5c).mp h))
  have hopen' : Char.ofNat c.toNat = '\x7b' ↔ c = 0x7b := hopen.trans (hval 0x7b)
  have hclose' : Char.ofNat c.toNat = '\x7d' ↔ c = 0x7d := hclose.trans (hval 0x7d)
  intro q p
  refine ⟨?_, some (Char.ofNat c.toNat), by simp [hs, hslash], by simp [Quotes.next, hq]⟩
  simp [countedIn, Quotes.braces, codeBraces, hopen', hclose']

/-- Braces are printable. -/
theorem codeBraces_eq_nil {c : UInt32} (h : ¬ (0x20 ≤ c ∧ c ≤ 0x7e)) : codeBraces c = [] := by
  unfold codeBraces
  split
  · next hc => exact absurd (by rw [hc]; decide) h
  · split
    · next hc => exact absurd (by rw [hc]; decide) h
    · rfl

/-- **What the rules make of a code point of a string.** -/
theorem readsAs_escape (c : UInt32) : ReadsAs (escape c) c := by
  have hpair : ∀ {x : Char} {d : UInt32}, c = d → x ≠ '\x7b' ∧ x ≠ '\x7d' →
      codeBraces d = [] → (x = '\\' ↔ d = 0x5c) → ReadsAs ['\\', x] c := by
    rintro x d rfl hx hd hslash
    exact readsAs_pair hx hd hslash
  unfold escape
  split
  · next h => exact hpair h (by decide) (by decide) (by decide)
  next hquote =>
  split
  · next h => exact hpair h (by decide) (by decide) (by decide)
  next hslash =>
  split
  · next h => exact hpair h (by decide) (by decide) (by decide)
  split
  · next h => exact hpair h (by decide) (by decide) (by decide)
  split
  · next h => exact hpair h (by decide) (by decide) (by decide)
  split
  · next h => exact hpair h (by decide) (by decide) (by decide)
  split
  · next h => exact hpair h (by decide) (by decide) (by decide)
  split
  · next hc => exact readsAs_char hc hquote hslash
  next hc =>
  have hescape : ∀ n, ReadsAs (unicodeEscape n) c := fun n =>
    readsAs_unicodeEscape n (codeBraces_eq_nil hc) hslash
  split
  · exact hescape _
  · exact (hescape _).append (codeBraces_eq_nil hc) (hescape _)

/-- The inside of a string. -/
theorem countedIn_string (q : Bool) (p : Option Char) (s : PyStr) :
    countedIn ⟨q, p⟩ (s.flatMap escape) = (if q = true then [] else s.flatMap codeBraces) ∧
      ∃ p', (p' = some '\\' ↔ (s = [] ∧ p = some '\\') ∨ s.getLast? = some 0x5c) ∧
        (s.flatMap escape).foldl Quotes.next ⟨q, p⟩ = ⟨q, p'⟩ := by
  induction s generalizing p with
  | nil => exact ⟨by simp [countedIn], p, by simp, rfl⟩
  | cons c s ih =>
    obtain ⟨hcount, p₁, hslash, hafter⟩ := readsAs_escape c q p
    obtain ⟨hcount', p₂, hslash', hafter'⟩ := ih p₁
    rw [List.flatMap_cons, List.flatMap_cons]
    refine ⟨?_, p₂, ?_, by rw [List.foldl_append, hafter, hafter']⟩
    · rw [countedIn_append, hcount, hafter, hcount']
      cases q <;> simp
    · rw [hslash', hslash]
      cases s with
      | nil => simp
      | cons d s => simp [List.getLast?_cons_cons]

/-- **A string**: its braces are counted if the rules are wrong, and it turns them over if it ends
in a backslash. -/
theorem reads_string (f : Bool) (s : PyStr) :
    Reads f (Chunk.str s).text ((Chunk.str s).counted f) (f ^^ (Chunk.str s).flips) := by
  have hopen : ∀ p, p ≠ some '\\' → Quotes.next ⟨f, p⟩ '"' = ⟨!f, some '"'⟩ := by
    intro p hp
    simp [Quotes.next, hp]
  obtain ⟨hcount, p', hslash, hafter⟩ := countedIn_string (!f) (some '"') s
  have hlast : p' = some '\\' ↔ s.getLast? = some 0x5c := by simpa using hslash
  constructor
  · intro p hp
    have hquote : ∀ q, Quotes.braces q '"' = [] := by simp [Quotes.braces]
    change countedIn ⟨f, p⟩ ('"' :: (s.flatMap escape ++ ['"'])) = _
    rw [countedIn, hquote, hopen p hp, countedIn_append, hcount, countedIn, hquote]
    cases f <;> simp [Chunk.counted, countedIn]
  · intro p hp
    refine ⟨some '"', by decide, ?_⟩
    change ('"' :: (s.flatMap escape ++ ['"'])).foldl Quotes.next ⟨f, p⟩ = _
    rw [List.foldl_cons, hopen p hp, List.foldl_append, hafter, List.foldl_cons, List.foldl_nil]
    -- the closing quote is one unless it is behind a backslash
    by_cases h : s.getLast? = some 0x5c
    · simp [Quotes.next, hlast.mpr h, Chunk.flips, h]
    · simp [Quotes.next, mt hlast.mp h, Chunk.flips, h]

/-! ### Pieces -/

/-- What `float.__repr__` returns is written with these characters. -/
def IsFloatRepr (repr : PyStr) : Prop := ∀ c ∈ repr, c ∈ py "+-.0123456789aefin"

instance (repr : PyStr) : Decidable (IsFloatRepr repr) := List.decidableBAll _ repr

theorem plain_intText (n : ℤ) : PlainText (toString n).toList := by
  have hnat : ∀ m : ℕ, PlainText m.repr.toList := by
    intro m c hc
    rw [Nat.toList_repr] at hc
    have hdigit := Nat.isDigit_of_mem_toDigits (by decide) (by decide) hc
    refine ⟨?_, ?_, ?_, ?_⟩ <;> rintro rfl <;> revert hdigit <;> decide
  cases n with
  | ofNat m => exact hnat m
  | negSucc m =>
    have htext : (toString (Int.negSucc m)).toList = '-' :: (m + 1).repr.toList := by
      change (("-" : String) ++ _).toList = _
      simp
    rw [htext]
    exact List.forall_mem_cons.mpr ⟨by decide, hnat (m + 1)⟩

theorem plain_floatText {repr : PyStr} (h : IsFloatRepr repr) : PlainText (floatText repr) := by
  have hall : PlainText ((py "+-.0123456789aefin").map fun c => Char.ofNat c.toNat) := by decide
  unfold floatText
  split
  · decide
  · split
    · decide
    · split
      · decide
      · intro c hc
        obtain ⟨d, hd, rfl⟩ := List.mem_map.mp hc
        exact hall _ (List.mem_map_of_mem (h d hd))

/-- **What the rules make of a piece.** -/
theorem Chunk.reads (f : Bool) {c : Chunk} (hfloat : ∀ repr, c = .float repr → IsFloatRepr repr) :
    Reads f c.text (c.counted f) (f ^^ c.flips) := by
  have hplain : ∀ {w : List Char}, PlainText w → Reads f w [] (f ^^ false) := by
    intro w hw
    rw [Bool.xor_false]
    exact reads_plain f hw
  cases c with
  | str s => exact reads_string f s
  | null => exact hplain (by decide)
  | bool b => cases b <;> exact hplain (by decide)
  | int n => exact hplain (plain_intText n)
  | float repr => exact hplain (plain_floatText (hfloat repr rfl))
  | comma => exact hplain (by decide)
  | colon => exact hplain (by decide)
  | openBracket => exact hplain (by decide)
  | closeBracket => exact hplain (by decide)
  | openBrace => cases f <;> exact reads_char _ (by decide) (by decide)
  | closeBrace => cases f <;> exact reads_char _ (by decide) (by decide)

/-- The floats among the pieces are written as floats. -/
def FloatsRead (chunks : List Chunk) : Prop := ∀ repr, Chunk.float repr ∈ chunks → IsFloatRepr repr

/-- **What the rules make of a text.** -/
theorem reads_textOf (f : Bool) {chunks : List Chunk} (h : FloatsRead chunks) :
    Reads f (textOf chunks) (counted f chunks) (invertedAfter f chunks) := by
  induction chunks generalizing f with
  | nil => exact .nil f
  | cons c chunks ih =>
    have hc := Chunk.reads f (c := c) (fun repr hrepr => h repr (hrepr ▸ List.mem_cons_self))
    exact hc.append (ih _ (fun repr hmem => h repr (List.mem_cons_of_mem c hmem)))

/-! ### The end of an object -/

/-- The braces of a beginning of a text are a beginning of its braces, and the other way round. -/
theorem countedIn_prefix {q : Quotes} {w w' : List Char} (h : w <+: w') :
    countedIn q w <+: countedIn q w' := by
  obtain ⟨rest, rfl⟩ := h
  rw [countedIn_append]
  exact List.prefix_append _ _

theorem exists_prefix_countedIn {q : Quotes} {w : List Char} {l : List ℤ}
    (h : l <+: countedIn q w) : ∃ w', w' <+: w ∧ countedIn q w' = l := by
  induction w generalizing q l with
  | nil => exact ⟨[], List.prefix_rfl, (List.prefix_nil.mp h).symm⟩
  | cons c w ih =>
    by_cases hnil : l = []
    · exact ⟨[], List.nil_prefix, hnil.symm⟩
    · rw [countedIn] at h
      -- a character is at most one brace
      have hone : (q.braces c).length ≤ 1 := by
        unfold Quotes.braces
        split_ifs <;> simp
      have hlength : (q.braces c).length ≤ l.length :=
        Nat.le_trans hone (List.length_pos_iff.mpr hnil)
      obtain ⟨r, rfl⟩ := List.prefix_of_prefix_length_le (List.prefix_append _ _) h hlength
      rw [List.prefix_append_right_inj] at h
      obtain ⟨w', hw', rfl⟩ := ih h
      exact ⟨c :: w', (List.prefix_cons_inj c).mpr hw', rfl⟩

/-- The rules stop at the first place where the braces that are counted sum to zero. -/
theorem scanCut_append_iff {t u : List Char} : scanCut Scan.start (t ++ u) = some (t, u) ↔
    t ≠ [] ∧ (countedIn Scan.start.quotes t).sum = 0 ∧
      ∀ w, w <+: t → w ≠ [] → w ≠ t → (countedIn Scan.start.quotes w).sum ≠ 0 := by
  have hcount : ∀ w : List Char, (w.foldl Scan.next Scan.start).bracketCount =
      (countedIn Scan.start.quotes w).sum := by
    intro w
    rw [bracketCount_foldl]
    exact Int.zero_add _
  unfold scanCut
  simp only [cut_eq_some_iff, hcount, true_and]

theorem counted_append (f : Bool) (chunks chunks' : List Chunk) :
    counted f (chunks ++ chunks') =
      counted f chunks ++ counted (invertedAfter f chunks) chunks' := by
  induction chunks generalizing f with
  | nil => rfl
  | cons c chunks ih =>
    rw [List.cons_append, counted, ih, counted, invertedAfter, List.append_assoc]

theorem invertedAfter_append (f : Bool) (chunks chunks' : List Chunk) :
    invertedAfter f (chunks ++ chunks') = invertedAfter (invertedAfter f chunks) chunks' := by
  induction chunks generalizing f with
  | nil => rfl
  | cons c chunks ih => exact ih _

/-- The pieces of an object are in its braces. -/
theorem iterencode_obj (fields : List (PyStr × Json)) : iterencode (.obj fields) =
    (.openBrace :: iterencodeDict [] fields) ++ [.closeBrace] := by
  rw [iterencode]
  rfl

theorem dumps_obj (fields : List (PyStr × Json)) : dumps (.obj fields) =
    textOf (.openBrace :: iterencodeDict [] fields) ++ ['\x7d'] := by
  unfold dumps textOf
  rw [iterencode_obj, List.flatMap_append]
  rfl

theorem countedIn_textOf {chunks : List Chunk} (hfloats : FloatsRead chunks) :
    countedIn Scan.start.quotes (textOf chunks) = counted false chunks :=
  (reads_textOf false hfloats).counted_eq none (by decide)

theorem counted_obj (fields : List (PyStr × Json)) : counted false (iterencode (.obj fields)) =
    counted false (.openBrace :: iterencodeDict [] fields) ++
      Chunk.closeBrace.counted (invertedAfter false (iterencode (.obj fields))) := by
  rw [iterencode_obj, counted_append, invertedAfter_append]
  cases invertedAfter false (.openBrace :: iterencodeDict [] fields) <;> rfl

section Object

variable {fields : List (PyStr × Json)} (hfloats : FloatsRead (iterencode (.obj fields)))
include hfloats

/-- The rules find the end of an object if the count is not zero before. -/
theorem endsRight_iff_sum : EndsRight (dumps (.obj fields)) ↔
    (counted false (iterencode (.obj fields))).sum = 0 ∧ ∀ w, w <+: dumps (.obj fields) →
      w ≠ [] → w ≠ dumps (.obj fields) → (countedIn Scan.start.quotes w).sum ≠ 0 := by
  have hne : dumps (.obj fields) ≠ [] := List.cons_ne_nil _ _
  have hcounted : countedIn Scan.start.quotes (dumps (.obj fields)) =
      counted false (iterencode (.obj fields)) := countedIn_textOf hfloats
  unfold EndsRight
  simp only [scanCut_append_iff, hcounted, forall_const, ne_eq, hne, not_false_eq_true, true_and]

/-- What is counted without the last brace. -/
theorem countedIn_init : countedIn Scan.start.quotes
      (textOf (.openBrace :: iterencodeDict [] fields)) =
    counted false (.openBrace :: iterencodeDict [] fields) := by
  refine countedIn_textOf fun repr hmem => hfloats repr ?_
  rw [iterencode_obj]
  exact List.mem_append_left _ hmem

/-- If the rules are wrong at the last brace, it is not counted: the count is zero before it. -/
theorem not_inverted_of_endsRight (h : EndsRight (dumps (.obj fields))) :
    invertedAfter false (iterencode (.obj fields)) = false := by
  obtain ⟨hsum, hfirst⟩ := (endsRight_iff_sum hfloats).mp h
  by_contra hinverted
  rw [Bool.not_eq_false] at hinverted
  refine hfirst (textOf (.openBrace :: iterencodeDict [] fields)) ?_ (List.cons_ne_nil _ _) ?_ ?_
  · rw [dumps_obj]
    exact List.prefix_append _ _
  · rw [dumps_obj]
    exact fun heq => by simpa using congrArg List.length heq
  · rw [countedIn_init hfloats]
    rw [counted_obj, hinverted] at hsum
    simpa [Chunk.counted] using hsum

theorem firstReturn_of_endsRight (h : EndsRight (dumps (.obj fields))) :
    FirstReturn (counted false (iterencode (.obj fields))) := by
  obtain ⟨hsum, hfirst⟩ := (endsRight_iff_sum hfloats).mp h
  have hcounted : countedIn Scan.start.quotes (dumps (.obj fields)) =
      counted false (iterencode (.obj fields)) := countedIn_textOf hfloats
  refine ⟨hsum, ?_⟩
  intro l hl hne hne'
  rw [← hcounted] at hl hne'
  obtain ⟨w, hw, rfl⟩ := exists_prefix_countedIn hl
  refine hfirst w hw ?_ ?_
  · rintro rfl
    exact hne rfl
  · rintro rfl
    exact hne' rfl

theorem endsRight_of_firstReturn
    (hinverted : invertedAfter false (iterencode (.obj fields)) = false)
    (h : FirstReturn (counted false (iterencode (.obj fields)))) :
    EndsRight (dumps (.obj fields)) := by
  rw [endsRight_iff_sum hfloats]
  refine ⟨h.1, ?_⟩
  intro w hw hne hne'
  -- a shorter text begins with the first brace and is without the last one
  rw [dumps_obj, List.prefix_concat_iff, ← dumps_obj] at hw
  have hw' := hw.resolve_left hne'
  have hprefix := countedIn_prefix (q := Scan.start.quotes) hw'
  rw [countedIn_init hfloats] at hprefix
  refine h.2 _ ?_ ?_ ?_
  · rw [counted_obj]
    exact hprefix.trans (List.prefix_append _ _)
  · cases w with
    | nil => exact absurd rfl hne
    | cons c w =>
      obtain ⟨r, hr⟩ := hw'
      have hc : c = '\x7b' := (List.cons.inj hr).1
      rw [hc]
      exact List.cons_ne_nil _ _
  · intro heq
    have hlength := hprefix.length_le
    rw [heq, counted_obj, hinverted, List.length_append] at hlength
    exact Nat.not_succ_le_self _ hlength

/-- **When the rules find the end of an object**: as many strings end in a backslash that the rules
are right behind them, and what they count is zero at the last brace for the first time. -/
theorem endsRight_iff :
    EndsRight (dumps (.obj fields)) ↔ invertedAfter false (iterencode (.obj fields)) = false ∧
      FirstReturn (counted false (iterencode (.obj fields))) :=
  ⟨fun h => ⟨not_inverted_of_endsRight hfloats h, firstReturn_of_endsRight hfloats h⟩,
    fun h => endsRight_of_firstReturn hfloats h.1 h.2⟩

end Object

/-- `{"a\\": [{}, 0.5], "\"b": "{}\\"}`: two strings end in a backslash. -/
def twoBackslashes : List (PyStr × Json) :=
  [(py "a\\", .arr [.obj [], .float (py "0.5")]), (py "\"b", .str (py "\x7b\x7d\\"))]

/-- The braces between the two are not counted, and those in the second one are. -/
theorem twoBackslashes_endsRight : EndsRight (dumps (.obj twoBackslashes)) := by
  have hfloats : FloatsRead (iterencode (.obj twoBackslashes)) := by
    intro repr hmem
    have hrepr : repr = py "0.5" := by
      simpa [twoBackslashes, iterencode, iterencodeList, iterencodeDict] using hmem
    rw [hrepr]
    decide
  exact (endsRight_iff hfloats).mpr (by decide)

/-- `{"a": "\\"}` has no end. -/
theorem not_endsRight_backslash : ¬ EndsRight (dumps (.obj [(py "a", .str (py "\\"))])) := by
  intro h
  have hcut := h []
  revert hcut
  decide

/-! ### Objects without strings that end in a backslash -/

/-- The sum is zero at the end, and nowhere below zero. -/
def Nested (l : List ℤ) : Prop := l.sum = 0 ∧ ∀ q, q <+: l → 0 ≤ q.sum

theorem Nested.nil : Nested [] := ⟨rfl, fun q hq => by simp [List.prefix_nil.mp hq]⟩

theorem Nested.append {l l' : List ℤ} (h : Nested l) (h' : Nested l') : Nested (l ++ l') := by
  refine ⟨by rw [List.sum_append, h.1, h'.1]; rfl, ?_⟩
  intro q hq
  rcases List.prefix_or_prefix_of_prefix hq (List.prefix_append l l') with hq' | ⟨r, rfl⟩
  · exact h.2 q hq'
  · rw [List.prefix_append_right_inj] at hq
    rw [List.sum_append, h.1, Int.zero_add]
    exact h'.2 r hq

/-- Braces around a list: before the last one, the sum is positive. -/
theorem Nested.braces {l : List ℤ} (h : Nested l) :
    Nested (1 :: l ++ [-1]) ∧ FirstReturn (1 :: l ++ [-1]) := by
  have hsum : (1 :: l ++ [-1]).sum = 0 := by simp [h.1]
  have hpos : ∀ q, q <+: 1 :: l ++ [-1] → q ≠ [] → q ≠ 1 :: l ++ [-1] → 0 < q.sum := by
    intro q hq hne hne'
    rw [List.prefix_concat_iff] at hq
    rcases List.prefix_cons_iff.mp (hq.resolve_left hne') with rfl | ⟨r, rfl, hr⟩
    · exact absurd rfl hne
    · have hle := h.2 r hr
      rw [List.sum_cons]
      omega
  refine ⟨⟨hsum, ?_⟩, hsum, fun q hq hne hne' => Int.ne_of_gt (hpos q hq hne hne')⟩
  intro q hq
  by_cases hne : q = []
  · exact Int.le_of_eq (hne ▸ rfl)
  · by_cases hne' : q = 1 :: l ++ [-1]
    · exact Int.le_of_eq (hne' ▸ hsum.symm)
    · exact Int.le_of_lt (hpos q hq hne hne')

/-- The braces that are outside of strings. -/
def outside (chunks : List Chunk) : List ℤ := chunks.flatMap (Chunk.counted false)

theorem outside_append (chunks chunks' : List Chunk) :
    outside (chunks ++ chunks') = outside chunks ++ outside chunks' := List.flatMap_append

mutual

/-- Braces are nested. -/
theorem nested_iterencode (j : Json) : Nested (outside (iterencode j)) := by
  cases j with
  | null => exact .nil
  | bool b => exact .nil
  | int n => exact .nil
  | float repr => exact .nil
  | str s => exact .nil
  | arr items =>
    rw [iterencode, ← List.cons_append, outside_append]
    exact (nested_iterencodeList [] .nil items).append .nil
  | obj fields =>
    rw [iterencode_obj, outside_append]
    exact (nested_iterencodeDict [] .nil fields).braces.1

theorem nested_iterencodeList (separator : List Chunk) (h : Nested (outside separator))
    (items : List Json) : Nested (outside (iterencodeList separator items)) := by
  cases items with
  | nil => exact .nil
  | cons j items =>
    rw [iterencodeList, outside_append, outside_append]
    exact h.append ((nested_iterencode j).append (nested_iterencodeList [.comma] .nil items))

theorem nested_iterencodeDict (separator : List Chunk) (h : Nested (outside separator))
    (fields : List (PyStr × Json)) : Nested (outside (iterencodeDict separator fields)) := by
  cases fields with
  | nil => exact .nil
  | cons field fields =>
    obtain ⟨key, j⟩ := field
    have hfield : outside (.str key :: .colon :: (iterencode j ++ iterencodeDict [.comma] fields)) =
        outside (iterencode j) ++ outside (iterencodeDict [.comma] fields) :=
      outside_append _ _
    rw [iterencodeDict, outside_append, hfield]
    exact h.append ((nested_iterencode j).append (nested_iterencodeDict [.comma] .nil fields))

end

theorem counted_of_no_backslash {chunks : List Chunk} (h : ∀ c ∈ chunks, c.flips = false) :
    invertedAfter false chunks = false ∧ counted false chunks = outside chunks := by
  induction chunks with
  | nil => exact ⟨rfl, rfl⟩
  | cons c chunks ih =>
    rw [List.forall_mem_cons] at h
    obtain ⟨hinverted, hcounted⟩ := ih h.2
    rw [invertedAfter, counted, h.1, Bool.xor_false, hcounted]
    exact ⟨hinverted, rfl⟩

/-- **The rules find the end of an object** in which no string ends in a backslash, whatever quotes,
backslashes and braces the strings have. -/
theorem endsRight_of_no_backslash {fields : List (PyStr × Json)}
    (hfloats : FloatsRead (iterencode (.obj fields)))
    (h : ∀ c ∈ iterencode (.obj fields), c.flips = false) : EndsRight (dumps (.obj fields)) := by
  obtain ⟨hinverted, hcounted⟩ := counted_of_no_backslash h
  refine endsRight_of_firstReturn hfloats hinverted ?_
  have hbraces : counted false (iterencode (.obj fields)) =
      1 :: outside (iterencodeDict [] fields) ++ [-1] := by
    rw [hcounted, iterencode_obj, outside_append]
    rfl
  rw [hbraces]
  exact (nested_iterencodeDict [] .nil fields).braces.2

end Redes
