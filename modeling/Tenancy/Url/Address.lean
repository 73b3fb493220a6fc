import Tenancy.Text.Decimal
import Tenancy.Text.Split
import Tenancy.Unicode.Spans

namespace Tenancy.Url

open Tenancy.Unicode

namespace Ipv4

def isOctal (c : Char) : Bool := '0' ≤ c && c ≤ '7'

/-- `0x` means base 16, a zero in front of other digits base 8. -/
def readNumber? : List Char → Option Nat
  | [] => none
  | '0' :: 'x' :: digits | '0' :: 'X' :: digits =>
    if digits.all isHexDigit then some (hexValue digits) else none
  | '0' :: d :: digits =>
    if (d :: digits).all isOctal then
      some ((d :: digits).foldl (fun n c => 8 * n + Text.digitValue c) 0)
    else none
  | digits => if digits.all Text.isDigit then some (Text.value digits) else none

/-- The last part, where one empty part at the end does not count. -/
def lastPart? (parts : List (List Char)) : Option (List Char) :=
  match parts.reverse with
  | [] :: last :: _ => some last
  | last :: _ => some last
  | [] => none

/-- A name whose last part is a number has to be an address. -/
def endsInNumber (cs : List Char) : Bool :=
  match lastPart? (Text.split (· == '.') cs) with
  | none => false
  | some last => Text.isNumber last || (readNumber? last).isSome

/-- The last number fills the places that the numbers before it, a byte each, leave. -/
def combine? (numbers : List Nat) : Option Nat :=
  match numbers.reverse with
  | [] => none
  | last :: front =>
    if 3 < front.length || front.any (255 < ·) then none
    else
      let places := 8 * (4 - front.length)
      if last < 1 <<< places then
        some (front.reverse.foldl (fun n b => 256 * n + b) 0 <<< places + last)
      else none

def read? (cs : List Char) : Option Nat :=
  let parts := Text.split (· == '.') cs
  let parts := if parts.getLast? == some [] then parts.dropLast else parts
  (parts.mapM readNumber?).bind combine?

def display (address : Nat) : String :=
  ".".intercalate ([24, 16, 8, 0].map fun places => toString (address >>> places % 256))

end Ipv4

namespace Ipv6

def readGroup? (cs : List Char) : Option Nat :=
  if !cs.isEmpty && cs.length ≤ 4 && cs.all isHexDigit then some (hexValue cs) else none

/-- A number below 256 without a zero in front. -/
def readByte? (cs : List Char) : Option Nat :=
  if Text.isNumber cs && (cs.head? != some '0' || cs.length == 1) && Text.value cs < 256 then
    some (Text.value cs)
  else none

/-- Two groups written as an address of version 4. -/
def readDotted? (cs : List Char) : Option (List Nat) :=
  match (Text.split (· == '.') cs).mapM readByte? with
  | some [a, b, c, d] => some [256 * a + b, 256 * c + d]
  | _ => none

/-- Groups between colons; only the last may be dotted. -/
def readGroups? : List (List Char) → Option (List Nat)
  | [] => some []
  | [last] =>
    if last.contains '.' then readDotted? last else (readGroup? last).map ([·])
  | group :: rest => do
    let n ← readGroup? group
    let ns ← readGroups? rest
    return n :: ns

/-- What stands before and after the first double colon. -/
def cut? : List Char → Option (List Char × List Char)
  | [] => none
  | ':' :: ':' :: rest => some ([], rest)
  | c :: rest => (cut? rest).map fun (front, back) => (c :: front, back)

def side? (cs : List Char) : Option (List Nat) :=
  if cs.isEmpty then some [] else readGroups? (Text.split (· == ':') cs)

/-- Eight groups; a double colon stands for at least one group of zero. -/
def read? (cs : List Char) : Option (List Nat) :=
  match cut? cs with
  | none => (readGroups? (Text.split (· == ':') cs)).filter (·.length == 8)
  | some (front, back) => do
    let before ← if front.contains '.' then none else side? front
    let after ← side? back
    if before.length + after.length ≤ 7 then
      some (before ++ List.replicate (8 - before.length - after.length) 0 ++ after)
    else none

def hex (n : Nat) : String := String.ofList (Nat.toDigits 16 n)

def zerosAt (groups : List Nat) : Nat := (groups.takeWhile (· == 0)).length

/-- Where the longest row of zeros starts and how long it is; of equal rows the first counts. -/
def longestZeros (groups : List Nat) : Nat × Nat :=
  (List.range groups.length).foldl (fun best i =>
    let n := zerosAt (groups.drop i)
    if best.2 < n then (i, n) else best) (0, 0)

/-- The longest row of two zeros or more is left out. -/
def display (groups : List Nat) : String :=
  let (start, count) := longestZeros groups
  let join (ns : List Nat) := ":".intercalate (ns.map hex)
  if 2 ≤ count then
    join (groups.take start) ++ "::" ++ join (groups.drop (start + count))
  else join groups

end Ipv6
end Tenancy.Url
