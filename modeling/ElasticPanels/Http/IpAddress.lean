import ElasticPanels.Text.Cut
import ElasticPanels.Text.Percent

/-!
# Numeric addresses

A host may be a number: `isIpv4` takes four decimal octets, `isIpv6` up to eight groups of
hexadecimal digits, of which a run of zeros may be left out, with an IPv4 address as its last two
groups or a zone behind a percent sign.  A host that `looksNumeric` has to be an IPv4 address.
-/

namespace ElasticPanels.Http

/-! ## Four octets -/

/-- Whether some digits write an octet, without a leading zero. -/
def isOctet (cs : List Char) : Bool :=
  !cs.isEmpty && cs.all Char.isDigit && cs.length ≤ 3 && (cs = ['0'] || cs.head? ≠ some '0') &&
    cs.foldl (fun n c => 10 * n + (c.toNat - '0'.toNat)) 0 ≤ 255

/-- Whether a text is an address of four octets. -/
def isIpv4 (cs : List Char) : Bool :=
  let octets := Text.splitAt '.' cs
  octets.length == 4 && octets.all isOctet

/-- The places at which a text of four runs of digits may be once it is continued by `c`.  Place
`2 * i` is before run `i`, and `2 * i + 1` within it; any character may divide two runs. -/
def numericStep (places : List Nat) (c : Char) : List Nat :=
  places.flatMap fun place =>
    let digit := if c.isDigit then [if place % 2 = 0 then place + 1 else place] else []
    let divider := if place % 2 = 1 ∧ place < 7 then [place + 1] else []
    digit ++ divider

/-- Whether a text consists of four runs of digits with one character between each two. -/
def looksNumeric (cs : List Char) : Bool :=
  (cs.foldl (fun places c => (numericStep places c).eraseDups) [0]).contains 7

/-! ## Eight groups -/

/-- Whether some characters are a group of up to four hexadecimal digits. -/
def isGroup (cs : List Char) : Bool :=
  !cs.isEmpty && cs.length ≤ 4 && cs.all fun c => (Text.Percent.hexValue? c).isSome

/-- The groups with an address of four octets at their end as two groups, if it is one. -/
def withoutIpv4? (groups : List (List Char)) : Option (List (List Char)) :=
  match groups.getLast? with
  | some last =>
    if last.contains '.' then
      if isIpv4 last then some (groups.dropLast ++ [['0'], ['0']]) else none
    else some groups
  | none => some groups

/-- Whether the groups on one side of the gap are proper; the outermost may only be empty if it is
alone. -/
def isSide (groups : List (List Char)) : Bool := groups = [[]] || groups.all isGroup

/-- Whether groups make an address.  An empty group inside is the gap, of which there may be one; it
stands for one group at least. -/
def areGroups (groups : List (List Char)) : Bool :=
  match (groups.drop 1).dropLast.findIdx? List.isEmpty with
  | none => groups.length == 8 && groups.all isGroup
  | some i =>
    let before := groups.take (i + 1)
    let after := groups.drop (i + 2)
    let size (side : List (List Char)) : Nat := if side = [[]] then 0 else side.length
    isSide before && isSide after && size before + size after ≤ 7

/-- Whether a text is an address of eight groups, perhaps with a zone. -/
def isIpv6 (cs : List Char) : Bool :=
  let address := cs.takeWhile (· ≠ '%')
  let zone := cs.dropWhile (· ≠ '%')
  let zoneFits := zone.isEmpty || (1 < zone.length && !(zone.drop 1).contains '%')
  let groups := Text.splitAt ':' address
  zoneFits && !cs.contains '/' && 3 ≤ groups.length &&
    match withoutIpv4? groups with
    | some groups => groups.length ≤ 9 && areGroups groups
    | none => false

end ElasticPanels.Http
