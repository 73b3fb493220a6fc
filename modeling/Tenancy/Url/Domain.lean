import Tenancy.Unicode.Classes
import Tenancy.Unicode.Composition
import Tenancy.Url.Mapping
import Tenancy.Url.Punycode

namespace Tenancy.Url.Domain

open Tenancy.Unicode

def isAscii (c : Char) : Bool := c.toNat < 128

/-- ASCII characters that no name may hold, whichever way they came into it. -/
def isForbidden (c : Char) : Bool :=
  c.toNat ≤ 0x20 || c.toNat == 0x7F || "#/:<>?@[\\]^|%".toList.contains c

def mapAll : List Char → Option (List Char)
  | [] => some []
  | c :: rest => do
    let front ← mapChar? c
    let rest ← mapAll rest
    return front ++ rest

/-- Maps and normalizes; `none` where a character is not allowed. -/
def clean? (cs : List Char) : Option (List Char) := (mapAll cs).map normalize

def isVirama (c : Char) : Bool := combiningClass c.toNat == 9

def joinsBefore (before : List Char) : Bool :=
  match before.dropWhile (joiningType · == "T") with
  | c :: _ => joiningType c == "L" || joiningType c == "D"
  | [] => false

def joinsAfter (after : List Char) : Bool :=
  match after.dropWhile (joiningType · == "T") with
  | c :: _ => joiningType c == "R" || joiningType c == "D"
  | [] => false

/-- Joiners stand behind a virama, or, if they keep letters apart, between letters that would
join. `before` holds what comes before, the nearest first. -/
def joinersOk (before : List Char) : List Char → Bool
  | [] => true
  | c :: rest =>
    let behindVirama := (before.head?.map isVirama).getD false
    let ok :=
      if c.toNat == 0x200D then behindVirama
      else if c.toNat == 0x200C then behindVirama || (joinsBefore before && joinsAfter rest)
      else true
    ok && joinersOk (c :: before) rest

/-- A label in its own characters can stand as it is. -/
def labelOk (label : List Char) : Bool :=
  label.all isAscii ||
    (clean? label == some label && !((label.head?.map isMark).getD false) && joinersOk [] label)

def isRightToLeft (c : Char) : Bool := ["R", "AL", "AN"].contains (direction c)

/-- The directions of the label fit together. Marks at the end do not count as its end. -/
def directionOk (label : List Char) : Bool :=
  let kinds := label.map direction
  let ending := (kinds.reverse.dropWhile (· == "NSM")).head?.getD ""
  match kinds.head? with
  | none => true
  | some first =>
    if first == "L" then
      kinds.all (["L", "EN", "ES", "CS", "ET", "ON", "BN", "NSM"].contains ·) &&
        ["L", "EN"].contains ending
    else if first == "R" || first == "AL" then
      kinds.all (["R", "AL", "AN", "EN", "ES", "CS", "ET", "ON", "BN", "NSM"].contains ·) &&
        ["R", "AL", "EN", "AN"].contains ending &&
        !(kinds.contains "EN" && kinds.contains "AN")
    else false

def punycodePrefix : List Char := ['x', 'n', '-', '-']

/-- A label in its own characters. -/
def decodeLabel? (label : List Char) : Option (List Char) :=
  if label.take 4 == punycodePrefix then
    match Punycode.decode? (label.drop 4) with
    | none => none
    | some decoded =>
      if decoded.all isAscii || decoded.take 4 == punycodePrefix || decoded.contains '.' then none
      else some decoded
  else some label

def encodeLabel (label : List Char) : List Char :=
  if label.all isAscii then label else punycodePrefix ++ Punycode.encode label

/-- The name in ASCII, if it is one. -/
def toAscii? (cs : List Char) : Option (List Char) := do
  let cleaned ← clean? cs
  let labels ← (Text.split (· == '.') cleaned).mapM decodeLabel?
  let directed := labels.any (·.any isRightToLeft)
  if labels.all labelOk && (!directed || labels.all directionOk) then
    let ascii := ['.'].intercalate (labels.map encodeLabel)
    if ascii.any isForbidden then none else some ascii
  else none

end Tenancy.Url.Domain
