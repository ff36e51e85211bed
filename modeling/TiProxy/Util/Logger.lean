import TiProxy.Lib.GoBytes

/-!
# The log-field encoder

`lib/util/logger/encoder.go`: the `tidbEncoder` of the proxy's logs writes a string
field as `[key=value]`.  `safeAddString` writes the key and the value: a first loop
over the runes decides whether the text is quoted (a rune at or below a space, or one
of the backslash, the double quote, `[`, `]` and `=`), and a second loop writes each
rune, escaping the double quote, the newline, the carriage return, the tab and the
one-byte control runes.  The backslash makes the text quoted but is written as it
stands.

A Go string here is a Lean `String`, which is valid UTF-8.  On such a string the
second loop, which decodes the rune at each byte index, meets the runes of the first
loop one after another; the rune
U+FFFD is the one it takes for `utf8.RuneError`.  Bytes are written as numbers where
a character literal would be a quote: 34 is the double quote, 92 the backslash, 91
and 93 the brackets and 61 `=`.

**Results.**
* `safeAddString_eq`, `AddString_eq`: the bytes a field appends, rune by rune.
* `AddString_newline_backslash_n`: a value with a newline and the value with a
  backslash and `n` in its place are written as the same field.
-/

namespace TiProxy
namespace Logger

open GoBytes

/-- A rune that makes `safeAddString` quote its text. -/
def needsQuote
    (b : Char) : Bool :=
  b.toNat ≤ 0x20 || b.toNat == 92 || b.toNat == 34 || b.toNat == 91 || b.toNat == 93 ||
    b.toNat == 61

/-- `unicode.IsControl`: the C0 controls, DEL and the C1 controls. -/
def isControl
    (r : Char) : Bool :=
  r.toNat < 0x20 || (0x7f ≤ r.toNat && r.toNat ≤ 0x9f)

/-- `%04x`: lower-case hexadecimal digits, padded with zeros to four. -/
def hex4
    (n : Nat) : List UInt8 :=
  let digits := (Nat.toDigits 16 n).map Char.toUInt8
  List.replicate (4 - digits.length) (Char.toUInt8 '0') ++ digits

/-- The bytes the second loop of `safeAddString` writes for one rune. -/
def escapeRune
    (r : Char) : List UInt8 :=
  if r.toNat = 0xfffd then
    -- `utf8.RuneError`
    ascii "\\ufffd"
  else if r.utf8Size = 1 then
    if r.toNat = 34 then [92, 34]
    else if r.toNat = 10 then ascii "\\n"
    else if r.toNat = 13 then ascii "\\r"
    else if r.toNat = 9 then ascii "\\t"
    else if isControl r then ascii "\\u" ++ hex4 r.toNat
    else [r.toUInt8]
  else
    String.utf8EncodeChar r

/-- `safeAddString`: the text, between double quotes where a rune needs them. -/
def safeAddString
    (line : List UInt8) (s : String) : List UInt8 :=
  let needQuotes := s.toList.any needsQuote
  let line := if needQuotes then line ++ [34] else line
  let line := s.toList.foldl (fun line r => line ++ escapeRune r) line
  if needQuotes then line ++ [34] else line

/-- `beginQuoteFiled`: a space after what the line holds, then the opening bracket. -/
def beginQuoteFiled
    (line : List UInt8) : List UInt8 :=
  (if 0 < line.length then line ++ [32] else line) ++ [91]

/-- `endQuoteFiled`. -/
def endQuoteFiled
    (line : List UInt8) : List UInt8 :=
  line ++ [93]

/-- `addElementSeparator`: a comma, unless the line is empty or ends in one of
`{ [ : , =` or a space. -/
def addElementSeparator
    (line : List UInt8) : List UInt8 :=
  match line.getLast? with
  | none => line
  | some b => if b ∈ [123, 91, 58, 44, 32, 61] then line else line ++ [44]

/-- `addKey`. -/
def addKey
    (line : List UInt8) (key : String) : List UInt8 :=
  safeAddString (addElementSeparator line) key ++ [61]

/-- `AddString`. -/
def AddString
    (line : List UInt8) (key val : String) : List UInt8 :=
  endQuoteFiled (safeAddString (addKey (beginQuoteFiled line) key) val)

/-- What `safeAddString` appends: the escaped runes, quoted where a rune needs it. -/
def stringBytes
    (s : String) : List UInt8 :=
  if s.toList.any needsQuote then [34] ++ s.toList.flatMap escapeRune ++ [34]
  else s.toList.flatMap escapeRune

theorem safeAddString_eq
    (line : List UInt8)
    (s : String) :
    safeAddString line s = line ++ stringBytes s := by
  unfold safeAddString stringBytes
  by_cases hq : s.toList.any needsQuote = true
  · simp only [hq, if_true, foldl_append_eq_flatMap, List.append_assoc]
  · simp only [hq, Bool.false_eq_true, if_false, foldl_append_eq_flatMap]

theorem AddString_eq
    (line : List UInt8)
    (key val : String) :
    AddString line key val = addKey (beginQuoteFiled line) key ++ stringBytes val ++ [93] := by
  rw [AddString, endQuoteFiled, safeAddString_eq]

/-- The escape of a newline is the two runes a backslash and `n` are written as. -/
theorem escapeRune_newline :
    escapeRune '\n' = escapeRune '\\' ++ escapeRune 'n' := by
  decide

/-- A value with a newline inside and the value with a backslash and `n` in its place
are written as the same field, behind every line and under every key: both are
quoted, the newline is escaped as backslash-`n`, and the backslash is not escaped.
So no reader of the log can tell the two apart. -/
theorem AddString_newline_backslash_n
    (line : List UInt8)
    (key u w : String) :
    AddString line key (u ++ "\n" ++ w) = AddString line key (u ++ "\\n" ++ w) ∧
      u ++ "\n" ++ w ≠ u ++ "\\n" ++ w := by
  have hn : ("\n" : String).toList = ['\n'] := by decide
  have hbn : ("\\n" : String).toList = ['\\', 'n'] := by decide
  -- both values hold a rune that needs quotes
  have hq1 : (u ++ "\n" ++ w).toList.any needsQuote = true := by
    simp [String.toList_append, hn, List.any_append, needsQuote]
  have hq2 : (u ++ "\\n" ++ w).toList.any needsQuote = true := by
    simp [String.toList_append, hbn, List.any_append, needsQuote]
  refine ⟨?_, fun h => ?_⟩
  · rw [AddString_eq, AddString_eq, stringBytes, stringBytes, if_pos hq1, if_pos hq2]
    simp only [String.toList_append, hn, hbn, List.flatMap_append, List.flatMap_cons,
      List.flatMap_nil, List.append_nil, escapeRune_newline, List.append_assoc]
  · have := congrArg String.length h
    simp only [String.length_append] at this
    have h1 : ("\n" : String).length = 1 := by decide
    have h2 : ("\\n" : String).length = 2 := by decide
    omega

end Logger
end TiProxy
