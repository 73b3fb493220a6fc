import Tenancy.Json
import Tenancy.Text.Decimal

namespace Tenancy.Json

open Tenancy.Text

def isGap (c : Char) : Bool := c == ' ' || c == '\t' || c == '\n' || c == '\r'

def skipGap (cs : List Char) : List Char := cs.dropWhile isGap

def hexValue? (c : Char) : Option Nat :=
  if '0' ≤ c && c ≤ '9' then some (c.toNat - '0'.toNat)
  else if 'a' ≤ c && c ≤ 'f' then some (c.toNat - 'a'.toNat + 10)
  else if 'A' ≤ c && c ≤ 'F' then some (c.toNat - 'A'.toNat + 10)
  else none

def unit? (a b c d : Char) : Option Nat := do
  let a ← hexValue? a
  let b ← hexValue? b
  let c ← hexValue? c
  let d ← hexValue? d
  return ((a * 16 + b) * 16 + c) * 16 + d

/-- What an escape of one letter stands for. -/
def escaped? : Char → Option Char
  | '"' => some '"'
  | '\\' => some '\\'
  | '/' => some '/'
  | 'b' => some '\x08'
  | 'f' => some '\x0c'
  | 'n' => some '\n'
  | 'r' => some '\r'
  | 't' => some '\t'
  | _ => none

/-- The code units up to the closing quote: a character as it stands is one unit, and so is an
escape of four digits, which may be half of a surrogate pair. -/
def readUnits : List Char → Option (List Nat × List Char)
  | [] => none
  | '"' :: rest => some ([], rest)
  | '\\' :: 'u' :: a :: b :: c :: d :: rest => do
    let u ← unit? a b c d
    let (units, rest) ← readUnits rest
    return (u :: units, rest)
  | '\\' :: c :: rest => do
    let e ← escaped? c
    let (units, rest) ← readUnits rest
    return (e.toNat :: units, rest)
  | c :: rest =>
    if c.toNat < 0x20 || c == '\\' then none
    else do
      let (units, rest) ← readUnits rest
      return (c.toNat :: units, rest)

/-- Joins surrogate pairs; fails on a surrogate that stands alone. -/
def joinUnits : List Nat → Option (List Char)
  | [] => some []
  | [u] => if 0xD800 ≤ u && u < 0xE000 then none else some [Char.ofNat u]
  | u :: v :: rest =>
    if 0xD800 ≤ u && u < 0xDC00 then
      if 0xDC00 ≤ v && v < 0xE000 then
        (joinUnits rest).map (Char.ofNat (0x10000 + (u - 0xD800) * 0x400 + (v - 0xDC00)) :: ·)
      else none
    else if 0xDC00 ≤ u && u < 0xE000 then none
    else (joinUnits (v :: rest)).map (Char.ofNat u :: ·)

/-- Text whose opening quote has been read: `none` inside where it has no value. -/
def readText (cs : List Char) : Option (Option String × List Char) := do
  let (units, rest) ← readUnits cs
  return ((joinUnits units).map String.ofList, rest)

/-- The least number that no double comes near: halfway from the greatest double to 2^1024. -/
def doubleLimit : Nat := 1 <<< 1024 - 1 <<< 970

/-- `digits` times ten to the power `exponent` rounds to a finite double. -/
def isDouble (digits : Nat) (exponent : Int) : Bool :=
  if digits = 0 then true
  else
    let places : Int := (Nat.toDigits 10 digits).length + exponent
    if places < 309 then true
    else if 309 < places then false
    else if 0 ≤ exponent then digits * Nat.pow 10 exponent.toNat < doubleLimit
    else digits < doubleLimit * Nat.pow 10 (-exponent).toNat

def number (negative : Bool) (digits : Nat) (exponent : Int) : Json :=
  if isDouble digits exponent then .real (if negative then -digits else digits) exponent
  else .valueless

def wholeNumber (negative : Bool) (digits : Nat) : Json :=
  if negative then
    if 0 < digits && digits ≤ 1 <<< 63 then .int (-digits) else number true digits 0
  else if digits < UInt64.size then .int digits else number false digits 0

/-- Digits of an exponent, its sign before them. -/
def readExponent (cs : List Char) : Option (Int × List Char) :=
  let (negative, cs) := match cs with
    | '-' :: rest => (true, rest)
    | '+' :: rest => (false, rest)
    | _ => (false, cs)
  let digits := cs.takeWhile isDigit
  if digits.isEmpty then none
  else some (if negative then -(value digits) else value digits, cs.dropWhile isDigit)

def readNumber (cs : List Char) : Option (Json × List Char) :=
  let (negative, cs) := match cs with
    | '-' :: rest => (true, rest)
    | _ => (false, cs)
  let front := cs.takeWhile isDigit
  let rest := cs.dropWhile isDigit
  if front.isEmpty || (front.head? == some '0' && 1 < front.length) then none
  else
    let fraction? : Option (List Char × List Char) := match rest with
      | '.' :: rest =>
        if (rest.takeWhile isDigit).isEmpty then none
        else some (rest.takeWhile isDigit, rest.dropWhile isDigit)
      | _ => some ([], rest)
    match fraction? with
    | none => none
    | some (fraction, after) =>
      let exponent? : Option (Option Int × List Char) := match after with
        | 'e' :: more => (readExponent more).map fun (e, rest) => (some e, rest)
        | 'E' :: more => (readExponent more).map fun (e, rest) => (some e, rest)
        | _ => some (none, after)
      match exponent? with
      | none => none
      | some (exponent, after) =>
        if fraction.isEmpty && exponent.isNone then
          some (wholeNumber negative (value front), after)
        else
          some (number negative (value (front ++ fraction))
            (exponent.getD 0 - fraction.length), after)

mutual

/-- One value with the blanks before it. Every call below spends one unit of `fuel` and at least
one character, so the length of the text is fuel enough. -/
def readValue : Nat → List Char → Option (Json × List Char)
  | 0, _ => none
  | fuel + 1, cs =>
    match skipGap cs with
    | 'n' :: 'u' :: 'l' :: 'l' :: rest => some (.null, rest)
    | 't' :: 'r' :: 'u' :: 'e' :: rest => some (.bool true, rest)
    | 'f' :: 'a' :: 'l' :: 's' :: 'e' :: rest => some (.bool false, rest)
    | '"' :: rest => (readText rest).map fun (s, rest) => ((s.map .str).getD .valueless, rest)
    | '[' :: rest =>
      match skipGap rest with
      | ']' :: rest => some (.arr [], rest)
      | rest => (readItems fuel rest).map fun (items, rest) => (.arr items, rest)
    | '{' :: rest =>
      match skipGap rest with
      | '}' :: rest => some (.obj [], rest)
      | rest => (readMembers fuel rest).map fun (members, rest) =>
        ((members.map .obj).getD .valueless, rest)
    | cs => readNumber cs

/-- One item or more, up to the closing bracket. -/
def readItems : Nat → List Char → Option (List Json × List Char)
  | 0, _ => none
  | fuel + 1, cs => do
    let (item, rest) ← readValue fuel cs
    match skipGap rest with
    | ']' :: rest => return ([item], rest)
    | ',' :: rest =>
      let (items, rest) ← readItems fuel rest
      return (item :: items, rest)
    | _ => none

/-- One member or more, up to the closing brace: `none` inside where a name has no value. -/
def readMembers : Nat → List Char → Option (Option (List (String × Json)) × List Char)
  | 0, _ => none
  | fuel + 1, cs =>
    match skipGap cs with
    | '"' :: rest => do
      let (name, rest) ← readText rest
      match skipGap rest with
      | ':' :: rest =>
        let (value, rest) ← readValue fuel rest
        match skipGap rest with
        | '}' :: rest => return (name.map fun name => [(name, value)], rest)
        | ',' :: rest =>
          let (members, rest) ← readMembers fuel rest
          return (name.bind fun name => members.map ((name, value) :: ·), rest)
        | _ => none
      | _ => none
    | _ => none

end

/-- The value that a whole text holds. -/
def read? (s : String) : Option Json :=
  let cs := s.toList
  match readValue (cs.length + 1) cs with
  | some (j, rest) => if (skipGap rest).isEmpty then some j else none
  | none => none

end Tenancy.Json
