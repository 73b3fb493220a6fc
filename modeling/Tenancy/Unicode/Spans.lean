import Tenancy.Text.Split

namespace Tenancy.Unicode

structure Span (α : Type) where
  first : Nat
  last : Nat
  value : α

def hexDigitValue (c : Char) : Nat :=
  if c ≤ '9' then c.toNat - '0'.toNat
  else if c ≤ 'F' then c.toNat - 'A'.toNat + 10
  else c.toNat - 'a'.toNat + 10

def isHexDigit (c : Char) : Bool :=
  ('0' ≤ c && c ≤ '9') || ('A' ≤ c && c ≤ 'F') || ('a' ≤ c && c ≤ 'f')

def hexValue (cs : List Char) : Nat := cs.foldl (fun n c => 16 * n + hexDigitValue c) 0

namespace Span

variable {α : Type}

/-- One word of a table; `read` makes a value of what follows the code points. -/
def ofWord (read : List Char → α) (word : List Char) : Span α :=
  let first := hexValue (word.takeWhile isHexDigit)
  match word.dropWhile isHexDigit with
  | '.' :: '.' :: rest =>
    ⟨first, hexValue (rest.takeWhile isHexDigit), read (rest.dropWhile isHexDigit)⟩
  | rest => ⟨first, first, read rest⟩

/-- A table is written as text, one word for each span: a code point in hexadecimal, or the first
and the last with two dots between them, and then what the span holds. Spans stand in increasing
order and do not meet, so a search by halving finds the right one. All tables are those of Unicode
17. -/
def table (read : List Char → α) (text : String) : Array (Span α) :=
  (((Text.split Text.isBlank text.toList).filter (!·.isEmpty)).map (ofWord read)).toArray

/-- The span around `n` among those with an index from `low` up to `high`. -/
def search (spans : Array (Span α)) (n : Nat) (low high : Nat) : Option (Span α) :=
  if low < high then
    let middle := (low + high) / 2
    match spans[middle]? with
    | none => none
    | some span =>
      if n < span.first then search spans n low middle
      else if span.last < n then search spans n (middle + 1) high
      else some span
  else none
  termination_by high - low

def find? (spans : Array (Span α)) (n : Nat) : Option (Span α) := search spans n 0 spans.size

end Span

/-- A set of code points. -/
abbrev Ranges := Array (Span Unit)

def Ranges.ofText (text : String) : Ranges := Span.table (fun _ => ()) text

def Ranges.contains (ranges : Ranges) (c : Char) : Bool := (Span.find? ranges c.toNat).isSome

end Tenancy.Unicode
