/-!
# Halves of surrogate pairs

A text that was read from UTF-16 units may hold halves of surrogate pairs, which are no characters.
Each half is kept as a stand-in from the last private plane, one of U+10D800 to U+10DFFF.
`codePoint` says what a character of a text stands for, so that the halves can be written out again
as they came.

This restricts the texts that are modelled: a stand-in is not told from the same character where a
text holds that itself.  So U+10D800 to U+10DFFF are always taken for halves: they are escaped and
ordered as the halves are, two of them may join to a pair when they are read back, and no encoding
of a message has bytes for them.
-/

namespace ElasticPanels.Text

/-- Whether a UTF-16 unit opens a surrogate pair. -/
def opensPair (unit : Nat) : Bool := 0xd800 ≤ unit && unit < 0xdc00

/-- Whether a UTF-16 unit closes a surrogate pair. -/
def closesPair (unit : Nat) : Bool := 0xdc00 ≤ unit && unit < 0xe000

/-- Whether a UTF-16 unit is half a surrogate pair. -/
def isHalf (unit : Nat) : Bool := 0xd800 ≤ unit && unit < 0xe000

/-- The distance between a half and its stand-in. -/
def standInShift : Nat := 0x100000

/-- The character of a unit that stands alone, a stand-in if it is half a pair. -/
def ofUnit (unit : Nat) : Char := .ofNat (if isHalf unit then unit + standInShift else unit)

/-- The character of a surrogate pair. -/
def ofPair (high low : Nat) : Char :=
  .ofNat (0x10000 + (high - 0xd800) * 0x400 + (low - 0xdc00))

/-- Whether a character stands for half a pair. -/
def isStandIn (c : Char) : Bool := standInShift ≤ c.toNat && isHalf (c.toNat - standInShift)

/-- The code point that a character stands for. -/
def codePoint (c : Char) : Nat := if isStandIn c then c.toNat - standInShift else c.toNat

/-- Whether a text holds half a pair. -/
def hasHalf (cs : List Char) : Bool := cs.any isStandIn

/-- Whether the first text comes before the second, or is the same, by code points. -/
def inOrder (s t : String) : Bool :=
  !(t.toList.map codePoint).lex (s.toList.map codePoint) fun a b => decide (a < b)

end ElasticPanels.Text
