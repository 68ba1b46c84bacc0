import ElasticPanels.Http.LabelDirections
import ElasticPanels.Http.LabelRanges
import ElasticPanels.Text.Case
import ElasticPanels.Text.Composition
import ElasticPanels.Text.Cut
import ElasticPanels.Text.Punycode
import ElasticPanels.Text.Surrogate

/-!
# Internationalised host names

A host name beyond ASCII is sent label by label in an ASCII form.  `isLabel` says which labels there
are: those of letters, digits, marks and hyphens in composed form, where a few characters need a
certain neighbourhood and letters of both writing directions may not mix.  `encodeHost?` gives the
ASCII form of a whole name.
-/

namespace ElasticPanels.Http

open Text

/-! ## Characters -/

/-- Whether a character may stand anywhere in a label. -/
def isLabelChar (c : Char) : Bool :=
  c.isLower || c.isDigit || c = '-' || (127 < c.toNat && labelRanges.contains c.toNat)

/-- Whether a character is a combining mark. -/
def isMark (c : Char) : Bool := markedRanges.contains c.toNat

/-- The Greek letters. -/
def greekRanges : CodeRanges :=
  [(0x370, 0x373), (0x375, 0x377), (0x37a, 0x37d), (0x37f, 0x37f), (0x384, 0x384), (0x386, 0x386),
   (0x388, 0x3e1), (0x3f0, 0x3ff), (0x1d26, 0x1d2a), (0x1d5d, 0x1d61), (0x1f00, 0x1ffe)]

/-- The Hebrew letters and points. -/
def hebrewRanges : CodeRanges := [(0x591, 0x5f4), (0xfb1d, 0xfb4f)]

/-- The Chinese characters and the letters of Japanese. -/
def japaneseRanges : CodeRanges :=
  [(0x2e80, 0x2fd5), (0x3005, 0x3005), (0x3007, 0x3007), (0x3021, 0x3029), (0x3038, 0x303b),
   (0x3041, 0x3096), (0x309d, 0x309f), (0x30a1, 0x30fa), (0x30fd, 0x30ff), (0x31f0, 0x31ff),
   (0x3400, 0x4dbf), (0x4e00, 0x9fff), (0xf900, 0xfad9), (0x1b000, 0x1b167), (0x20000, 0x323af)]

/-- The Arabic letters that join to both sides. -/
def dualJoiningRanges : CodeRanges :=
  [(0x620, 0x620), (0x626, 0x626), (0x628, 0x628), (0x62a, 0x62e), (0x633, 0x63f), (0x641, 0x647),
   (0x649, 0x64a), (0x66e, 0x66f), (0x678, 0x687), (0x69a, 0x6bf), (0x6c1, 0x6c2), (0x6cc, 0x6cc),
   (0x6ce, 0x6ce), (0x6d0, 0x6d1), (0x6fa, 0x6fc), (0x6ff, 0x6ff)]

/-- The Arabic letters that join to the letter before only. -/
def rightJoiningRanges : CodeRanges :=
  [(0x622, 0x625), (0x627, 0x627), (0x629, 0x629), (0x62f, 0x632), (0x648, 0x648), (0x671, 0x673),
   (0x675, 0x677), (0x688, 0x699), (0x6c0, 0x6c0), (0x6c3, 0x6cb), (0x6cd, 0x6cd), (0x6cf, 0x6cf),
   (0x6d2, 0x6d3), (0x6d5, 0x6d5), (0x6ee, 0x6ef)]

/-! ## Characters that need a neighbourhood -/

/-- The combining class of the signs that take the vowel from a consonant. -/
def viramaClass : Nat := 9

/-- Whether a character lies in some ranges. -/
def isIn (ranges : CodeRanges) (c : Char) : Bool := ranges.contains c.toNat

/-- Whether a vowel-killing sign stands right before, where `before` is in reverse. -/
def followsVirama (before : List Char) : Bool :=
  before.head?.any (combiningClass ·.toNat == viramaClass)

/-- Whether joining letters stand on both sides, marks aside. -/
def joins (before after : List Char) : Bool :=
  (before.dropWhile isMark).head?.any (isIn dualJoiningRanges) &&
    (after.dropWhile isMark).head?.any fun c =>
      isIn dualJoiningRanges c || isIn rightJoiningRanges c

/-- Whether a character may stand in a label between `before`, which is in reverse, and `after`. -/
def fitsBetween (before after : List Char) (c : Char) : Bool :=
  let all := before ++ after
  if c = '\u200c' then followsVirama before || joins before after
  else if c = '\u200d' then followsVirama before
  else if c = '\u00b7' then before.head? = some 'l' && after.head? = some 'l'
  else if c = '\u0375' then after.head?.any (isIn greekRanges)
  else if c = '\u05f3' ∨ c = '\u05f4' then before.head?.any (isIn hebrewRanges)
  else if c = '\u30fb' then all.any (isIn japaneseRanges)
  else if isIn [(0x660, 0x669)] c then !all.any (isIn [(0x6f0, 0x6f9)])
  else if isIn [(0x6f0, 0x6f9)] c then !all.any (isIn [(0x660, 0x669)])
  else isLabelChar c

/-- Whether each character of a label may stand where it does. -/
def allFit (before : List Char) : List Char → Bool
  | [] => true
  | c :: rest => fitsBetween before rest c && allFit (c :: before) rest

/-! ## Writing directions -/

/-- How a character behaves in text that runs from right to left. -/
inductive Direction
  | leftToRight
  | rightToLeft
  | arabicDigit
  | europeanDigit
  | mark
  | neutral
  deriving DecidableEq, Repr

/-- The direction of a character of a label. -/
def Direction.ofChar (c : Char) : Direction :=
  if isIn rightToLeftRanges c then rightToLeft
  else if isIn arabicDigitRanges c then arabicDigit
  else if isIn europeanDigitRanges c then europeanDigit
  else if isIn nonspacingRanges c then mark
  else if isIn neutralRanges c then neutral
  else leftToRight

/-- Whether the last direction, marks aside, is one that a label may end with. -/
def endsWith (endings directions : List Direction) : Bool :=
  (directions.reverse.dropWhile (· = .mark)).head?.any endings.contains

/-- Whether the directions of a label agree.  From right to left, no letter of the other direction
may occur, and not both kinds of digits. -/
def agree (directions : List Direction) : Bool :=
  if !directions.contains .rightToLeft && !directions.contains .arabicDigit then true
  else match directions.head? with
    | some .rightToLeft =>
      !directions.contains .leftToRight &&
        !(directions.contains .arabicDigit && directions.contains .europeanDigit) &&
        endsWith [.rightToLeft, .europeanDigit, .arabicDigit] directions
    | _ => false

/-! ## Labels -/

/-- Whether some characters are a label. -/
def isLabel (cs : List Char) : Bool :=
  let ns := cs.map Char.toNat
  !cs.isEmpty && recomposed ns = ns && (cs.drop 2).take 2 ≠ ['-', '-'] && cs.head? ≠ some '-' &&
    cs.getLast? ≠ some '-' && !cs.head?.any isMark && allFit [] cs &&
    agree (cs.map Direction.ofChar)

/-- The characters that open the ASCII form of a label. -/
def asciiMark : List Char := "xn--".toList

/-- Whether a label that is ASCII may be sent; one in ASCII form must stand for a label. -/
def isAsciiLabel (cs : List Char) : Bool :=
  let cs := cs.map Char.toLower
  if asciiMark.isPrefixOf cs then
    let form := cs.drop asciiMark.length
    form.getLast?.any (· ≠ '-') && match Punycode.decode? form with
      | some ns => isLabel (ns.map ofUnit)
      | none => false
  else isLabel cs

/-- A label as it is sent, of 63 characters at most. -/
def encodeLabel? (cs : List Char) : Option (List Char) := do
  let sent ←
    if cs.all (·.toNat < 128) then
      if isAsciiLabel cs then some cs else none
    else if isLabel cs then some (asciiMark ++ Punycode.encode (cs.map Char.toNat))
    else none
  if sent.length ≤ 63 then some sent else none

/-- The dots of several scripts as full stops. -/
def plainDot (c : Char) : Char :=
  if ['\u3002', '\uff0e', '\uff61'].contains c then '.' else c

/-- A host name as it is sent, of 253 characters at most.  A dot may stand at its end. -/
def encodeHost? (cs : List Char) : Option (List Char) := do
  let labels := Text.splitAt '.' (cs.map plainDot)
  let rooted := 1 < labels.length && labels.getLast? = some []
  let sent ← (if rooted then labels.dropLast else labels).mapM encodeLabel?
  let name := ['.'].intercalate sent
  if name.length ≤ 253 then some (if rooted then name ++ ['.'] else name) else none

end ElasticPanels.Http
