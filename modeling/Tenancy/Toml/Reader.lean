import Tenancy.Json.Reader
import Tenancy.Timestamp
import Tenancy.Toml.Tree
import Tenancy.Unicode.Spans

namespace Tenancy.Toml

open Tenancy.Text Tenancy.Unicode

def isGap (c : Char) : Bool := c == ' ' || c == '\t'

def skipGap (cs : List Char) : List Char := cs.dropWhile isGap

/-- Control characters that no text, name or comment may hold as they stand. -/
def isControl (c : Char) : Bool := (c.toNat < 0x20 && c != '\t') || c.toNat == 0x7F

def isBareKeyChar (c : Char) : Bool :=
  ('a' ≤ c && c ≤ 'z') || ('A' ≤ c && c ≤ 'Z') || isDigit c || c == '_' || c == '-'

/-- What follows a line end, if there is one. -/
def lineEnd? : List Char → Option (List Char)
  | '\n' :: rest => some rest
  | '\r' :: '\n' :: rest => some rest
  | _ => none

def skipComment? (cs : List Char) : Option (List Char) :=
  match cs with
  | '#' :: rest => some (rest.dropWhile (!isControl ·))
  | _ => none

/-- The rest of a line that may hold blanks and a comment and nothing else. -/
def endOfLine? (cs : List Char) : Option (List Char) :=
  let cs := skipGap cs
  match (skipComment? cs).getD cs with
  | [] => some []
  | rest => lineEnd? rest

def escaped? : Char → Option Char
  | 'b' => some '\x08'
  | 't' => some '\t'
  | 'n' => some '\n'
  | 'f' => some '\x0c'
  | 'r' => some '\r'
  | '"' => some '"'
  | '\\' => some '\\'
  | _ => none

/-- Exactly `count` hexadecimal digits that name a character. -/
def readCodePoint (count : Nat) (cs : List Char) : Option (Char × List Char) :=
  let digits := cs.take count
  let n := hexValue digits
  if digits.length == count && digits.all isHexDigit &&
      (n < 0xD800 || (0xE000 ≤ n && n < 0x110000)) then
    some (Char.ofNat n, cs.drop count)
  else none

def readEscape (cs : List Char) : Option (Char × List Char) :=
  match cs with
  | 'u' :: rest => readCodePoint 4 rest
  | 'U' :: rest => readCodePoint 8 rest
  | c :: rest => (escaped? c).map fun e => (e, rest)
  | [] => none

/-- Text up to its closing quote. `fuel` is at least the length of `cs`. -/
def readBasic : Nat → List Char → Option (List Char × List Char)
  | 0, _ => none
  | fuel + 1, cs =>
    match cs with
    | [] => none
    | '"' :: rest => some ([], rest)
    | '\\' :: rest => do
      let (c, rest) ← readEscape rest
      let (text, rest) ← readBasic fuel rest
      return (c :: text, rest)
    | c :: rest =>
      if isControl c then none
      else do
        let (text, rest) ← readBasic fuel rest
        return (c :: text, rest)

def readLiteral (cs : List Char) : Option (List Char × List Char) :=
  match cs.dropWhile (fun c => c != '\'' && !isControl c) with
  | '\'' :: rest => some (cs.takeWhile (fun c => c != '\'' && !isControl c), rest)
  | _ => none

/-- Blanks and line ends that a backslash at the end of a line takes away; at least one line end
among them. -/
def skipFolded (cs : List Char) : Option (List Char) :=
  match lineEnd? (skipGap cs) with
  | none => none
  | some rest => some (drop (rest.length + 1) rest)
where
  drop : Nat → List Char → List Char
    | 0, cs => cs
    | fuel + 1, cs =>
      match lineEnd? (skipGap cs) with
      | some rest => drop fuel rest
      | none => skipGap cs

/-- Three quotes end the text, and up to two more before them belong to it. -/
def closing? (quote : Char) (cs : List Char) : Option (List Char × List Char) :=
  let quotes := (cs.takeWhile (· == quote)).length
  if quotes < 3 then none
  else
    let kept := min (quotes - 3) 2
    some (List.replicate kept quote, cs.drop (kept + 3))

def readLongBasic : Nat → List Char → Option (List Char × List Char)
  | 0, _ => none
  | fuel + 1, cs =>
    match closing? '"' cs with
    | some (text, rest) => some (text, rest)
    | none =>
      match cs with
      | [] => none
      | '\\' :: rest =>
        match skipFolded rest with
        | some rest => readLongBasic fuel rest
        | none => do
          let (c, rest) ← readEscape rest
          let (text, rest) ← readLongBasic fuel rest
          return (c :: text, rest)
      | c :: rest =>
        match lineEnd? (c :: rest) with
        | some rest => do
          let (text, rest) ← readLongBasic fuel rest
          return ('\n' :: text, rest)
        | none =>
          if isControl c then none
          else do
            let (text, rest) ← readLongBasic fuel rest
            return (c :: text, rest)

def readLongLiteral : Nat → List Char → Option (List Char × List Char)
  | 0, _ => none
  | fuel + 1, cs =>
    match closing? '\'' cs with
    | some (text, rest) => some (text, rest)
    | none =>
      match cs with
      | [] => none
      | c :: rest =>
        match lineEnd? (c :: rest) with
        | some rest => do
          let (text, rest) ← readLongLiteral fuel rest
          return ('\n' :: text, rest)
        | none =>
          if isControl c then none
          else do
            let (text, rest) ← readLongLiteral fuel rest
            return (c :: text, rest)

/-- A line end right behind the opening quotes does not count. -/
def skipFirstLineEnd (cs : List Char) : List Char := (lineEnd? cs).getD cs

def readText (cs : List Char) : Option (List Char × List Char) :=
  match cs with
  | '"' :: '"' :: '"' :: rest => readLongBasic (rest.length + 1) (skipFirstLineEnd rest)
  | '\'' :: '\'' :: '\'' :: rest => readLongLiteral (rest.length + 1) (skipFirstLineEnd rest)
  | '"' :: rest => readBasic (rest.length + 1) rest
  | '\'' :: rest => readLiteral rest
  | _ => none

def readSimpleKey (cs : List Char) : Option (String × List Char) :=
  match cs with
  | '"' :: rest => (readBasic (rest.length + 1) rest).map fun (k, rest) => (String.ofList k, rest)
  | '\'' :: rest => (readLiteral rest).map fun (k, rest) => (String.ofList k, rest)
  | cs =>
    let key := cs.takeWhile isBareKeyChar
    if key.isEmpty then none else some (String.ofList key, cs.dropWhile isBareKeyChar)

/-- Parts with dots between them and blanks around the dots. -/
def readKey : Nat → List Char → Option (List String × List Char)
  | 0, _ => none
  | fuel + 1, cs => do
    let (part, rest) ← readSimpleKey (skipGap cs)
    match skipGap rest with
    | '.' :: rest =>
      let (parts, rest) ← readKey fuel rest
      return (part :: parts, rest)
    | rest => return ([part], rest)

/-- How many parts a key may have at most, and how deep values may be nested. -/
def nestingLimit : Nat := 79

/-- The parts before the last, and the last. -/
def splitKey? (parts : List String) : Option (List String × String) :=
  if nestingLimit < parts.length then none
  else parts.getLast?.map fun last => (parts.dropLast, last)

/-- Digits with single underscores between them. -/
def readDigits (digit : Char → Bool) (cs : List Char) : Option (List Char × List Char) :=
  let run := cs.takeWhile (fun c => digit c || c == '_')
  let groups := split (· == '_') run
  if groups.all (!·.isEmpty) then some (groups.flatten, cs.dropWhile (fun c => digit c || c == '_'))
  else none

def inRange (n : Int) : Bool := -(1 <<< 63 : Nat) ≤ n && n < (1 <<< 63 : Nat)

def ofBase (base : Nat) (digits : List Char) : Option Json :=
  let n := digits.foldl (fun n c => base * n + hexDigitValue c) 0
  if inRange n then some (.int n) else none

/-- A number is a float if it has a fraction or an exponent, and then of finite value. -/
def readFloat (negative : Bool) (front : List Char) (cs : List Char) : Option (Json × List Char) := do
  let (fraction, cs) ← match cs with
    | '.' :: rest => readDigits isDigit rest
    | cs => some ([], cs)
  let readPower (cs : List Char) : Option (Int × List Char) :=
    let (minus, cs) := match cs with
      | '-' :: rest => (true, rest)
      | '+' :: rest => (false, rest)
      | cs => (false, cs)
    (readDigits isDigit cs).map fun (digits, rest) =>
      (if minus then -(value digits) else value digits, rest)
  let (power, cs) ← match cs with
    | 'e' :: rest | 'E' :: rest => readPower rest
    | cs => some (0, cs)
  match Json.number negative (value (front ++ fraction)) (power - fraction.length) with
  | .valueless => if negative then some (.valueless, cs) else none
  | j => some (j, cs)

/-- A number in digits, a sign before it. Only the number zero starts with a zero. -/
def readDecimal (negative : Bool) (cs : List Char) : Option (Json × List Char) := do
  let (digits, rest) ← readDigits isDigit cs
  if digits.head? == some '0' && 1 < digits.length then none
  match rest with
  | '.' :: _ | 'e' :: _ | 'E' :: _ => readFloat negative digits rest
  | _ =>
    let n : Int := if negative then -(value digits) else value digits
    if inRange n then some (.int n, rest) else none

def readNumber (cs : List Char) : Option (Json × List Char) :=
  match cs with
  | '0' :: 'x' :: rest => do
    let (digits, rest) ← readDigits isHexDigit rest
    return (← ofBase 16 digits, rest)
  | '0' :: 'o' :: rest => do
    let (digits, rest) ← readDigits (fun c => '0' ≤ c && c ≤ '7') rest
    return (← ofBase 8 digits, rest)
  | '0' :: 'b' :: rest => do
    let (digits, rest) ← readDigits (fun c => c == '0' || c == '1') rest
    return (← ofBase 2 digits, rest)
  | 'i' :: 'n' :: 'f' :: rest | 'n' :: 'a' :: 'n' :: rest
  | '+' :: 'i' :: 'n' :: 'f' :: rest | '+' :: 'n' :: 'a' :: 'n' :: rest
  | '-' :: 'i' :: 'n' :: 'f' :: rest | '-' :: 'n' :: 'a' :: 'n' :: rest => some (.valueless, rest)
  | '+' :: rest => readDecimal false rest
  | '-' :: rest => readDecimal true rest
  | cs => readDecimal false cs

/-- Exactly `count` digits. -/
def readFixed (count : Nat) (cs : List Char) : Option (Nat × List Char) :=
  let digits := cs.take count
  if digits.length == count && digits.all isDigit then some (value digits, cs.drop count) else none

def readMark (mark : Char) (cs : List Char) : Option (List Char) :=
  match cs with
  | c :: rest => if c == mark then some rest else none
  | [] => none

def readDate (cs : List Char) : Option (List Char) := do
  let (year, cs) ← readFixed 4 cs
  let cs ← readMark '-' cs
  let (month, cs) ← readFixed 2 cs
  let cs ← readMark '-' cs
  let (day, cs) ← readFixed 2 cs
  if 1 ≤ month && month ≤ 12 && 1 ≤ day && day ≤ Timestamp.daysIn year month then some cs else none

def readTime (cs : List Char) : Option (List Char) := do
  let (hour, cs) ← readFixed 2 cs
  let cs ← readMark ':' cs
  let (minute, cs) ← readFixed 2 cs
  let cs ← readMark ':' cs
  let (second, cs) ← readFixed 2 cs
  if !(hour ≤ 23 && minute ≤ 59 && second ≤ 60) then none
  match cs with
  | '.' :: c :: rest => if isDigit c then some (rest.dropWhile isDigit) else some cs
  | _ => some cs

def readOffset (cs : List Char) : Option (List Char) :=
  match cs with
  | 'Z' :: rest | 'z' :: rest => some rest
  | '+' :: rest | '-' :: rest => do
    let (hour, cs) ← readFixed 2 rest
    let cs ← readMark ':' cs
    let (minute, cs) ← readFixed 2 cs
    if hour ≤ 23 && minute ≤ 59 then some cs else none
  | _ => none

/-- Two digits and a colon begin a time, four digits and a hyphen a date. -/
def startsTime (cs : List Char) : Bool :=
  match readFixed 2 cs with
  | some (_, ':' :: _) => true
  | _ => false

def startsDate (cs : List Char) : Bool :=
  match readFixed 4 cs with
  | some (_, '-' :: _) => true
  | _ => false

/-- A date, a time, or both with a distance from UTC behind them or without. -/
def readMoment (cs : List Char) : Option (List Char) :=
  if startsTime cs then readTime cs
  else do
    let afterDate ← readDate cs
    match afterDate with
    | 'T' :: rest | 't' :: rest | ' ' :: rest =>
      if startsTime rest then
        let afterTime ← readTime rest
        match afterTime with
        | 'Z' :: _ | 'z' :: _ | '+' :: _ | '-' :: _ => readOffset afterTime
        | _ => some afterTime
      else some afterDate
    | _ => some afterDate

/-- Blanks, line ends and comments between the items of an array. -/
def skipLines : Nat → List Char → List Char
  | 0, cs => cs
  | fuel + 1, cs =>
    let cs := skipGap cs
    let cs := (skipComment? cs).getD cs
    match lineEnd? cs with
    | some rest => skipLines fuel rest
    | none => cs

mutual

/-- A value that may hold `depth` levels of values. `fuel` is at least twice the length of `cs`. -/
def readValue : Nat → Nat → List Char → Option (Json × List Char)
  | 0, _, _ => none
  | fuel + 1, depth, cs =>
    match cs with
    | '"' :: _ | '\'' :: _ => (readText cs).map fun (s, rest) => (.str (String.ofList s), rest)
    | 't' :: 'r' :: 'u' :: 'e' :: rest => some (.bool true, rest)
    | 'f' :: 'a' :: 'l' :: 's' :: 'e' :: rest => some (.bool false, rest)
    | '[' :: rest =>
      if depth = 0 then none
      else (readItems fuel (depth - 1) rest).map fun (items, rest) => (.arr items, rest)
    | '\x7b' :: rest =>
      if depth = 0 then none
      else match skipGap rest with
        | '\x7d' :: rest => some (.obj [], rest)
        | rest => (readMembers fuel (depth - 1) [] rest).map fun (entries, rest) =>
          (Entries.toJson entries, rest)
    | cs =>
      if startsTime cs || startsDate cs then (readMoment cs).map fun rest => (.obj [], rest)
      else readNumber cs

/-- Items up to the closing bracket; a comma may stand behind the last. -/
def readItems : Nat → Nat → List Char → Option (List Json × List Char)
  | 0, _, _ => none
  | fuel + 1, depth, cs =>
    match skipLines (cs.length + 1) cs with
    | ']' :: rest => some ([], rest)
    | cs => do
      let (item, rest) ← readValue fuel depth cs
      match skipLines (rest.length + 1) rest with
      | ']' :: rest => return ([item], rest)
      | ',' :: rest =>
        let (items, rest) ← readItems fuel depth rest
        return (item :: items, rest)
      | _ => none

/-- Members of a table on one line, up to the closing brace. -/
def readMembers : Nat → Nat → Entries → List Char → Option (Entries × List Char)
  | 0, _, _, _ => none
  | fuel + 1, depth, entries, cs => do
    let (parts, rest) ← readKey (cs.length + 1) cs
    let (path, key) ← splitKey? parts
    let rest ← readMark '=' rest
    let (value, rest) ← readValue fuel depth (skipGap rest)
    let entries ← entries.put? key value path
    match skipGap rest with
    | '\x7d' :: rest => return (entries, rest)
    | ',' :: rest => readMembers fuel depth entries rest
    | _ => none

end

structure Document where
  entries : Entries := []
  /-- The header that lines stand under. -/
  current : List String := []

/-- A header in single or double brackets. -/
def Document.header? (d : Document) (double : Bool) (cs : List Char) :
    Option (Document × List Char) := do
  let (parts, rest) ← readKey (cs.length + 1) cs
  let (path, key) ← splitKey? parts
  let rest ← readMark ']' rest
  let rest ← if double then readMark ']' rest else some rest
  let entries ← d.entries.within? (if double then Entries.openItem? key else Entries.openTable? key) path
  let rest ← endOfLine? rest
  return (⟨entries, parts⟩, rest)

def Document.pair? (d : Document) (cs : List Char) : Option (Document × List Char) := do
  let (parts, rest) ← readKey (cs.length + 1) cs
  let (path, key) ← splitKey? parts
  let rest ← readMark '=' rest
  let (value, rest) ← readValue (2 * rest.length + 2) nestingLimit (skipGap rest)
  let rest ← endOfLine? rest
  let entries ← d.entries.within? (Entries.put? key value path) d.current
  return (⟨entries, d.current⟩, rest)

/-- Reads line by line; every line but an empty last one is at least one character long. -/
def Document.readLines : Nat → Document → List Char → Option Document
  | 0, _, _ => none
  | fuel + 1, d, cs =>
    match skipGap cs with
    | [] => some d
    | '[' :: '[' :: rest => do
      let (d, rest) ← d.header? true rest
      readLines fuel d rest
    | '[' :: rest => do
      let (d, rest) ← d.header? false rest
      readLines fuel d rest
    | '#' :: rest => do
      readLines fuel d (← endOfLine? ('#' :: rest))
    | c :: rest =>
      match lineEnd? (c :: rest) with
      | some rest => readLines fuel d rest
      | none => do
        let (d, rest) ← d.pair? (c :: rest)
        readLines fuel d rest

/-- The document as one object. A byte order mark at the start does not count. -/
def read? (s : String) : Option Json :=
  let cs := match s.toList with
    | '\uFEFF' :: rest => rest
    | cs => cs
  (Document.readLines (cs.length + 2) {} cs).map fun d => d.entries.toJson

end Tenancy.Toml
