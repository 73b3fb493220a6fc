namespace Tenancy.Url.Punycode

def digitChar (d : Nat) : Char :=
  if d < 26 then Char.ofNat ('a'.toNat + d) else Char.ofNat ('0'.toNat + (d - 26))

def digitValue? (c : Char) : Option Nat :=
  if 'a' ≤ c ∧ c ≤ 'z' then some (c.toNat - 'a'.toNat)
  else if 'A' ≤ c ∧ c ≤ 'Z' then some (c.toNat - 'A'.toNat)
  else if '0' ≤ c ∧ c ≤ '9' then some (c.toNat - '0'.toNat + 26)
  else none

/-- The digit at place `k` ends a number if it is below this. -/
def threshold (k bias : Nat) : Nat :=
  if k ≤ bias + 1 then 1 else if bias + 26 ≤ k then 26 else k - bias

theorem threshold_pos (k bias : Nat) : 1 ≤ threshold k bias := by
  unfold threshold
  split
  · exact Nat.le_refl 1
  · split <;> omega

theorem threshold_le (k bias : Nat) : threshold k bias ≤ 26 := by
  unfold threshold
  split
  · decide
  · split <;> omega

def damp (delta k : Nat) : Nat :=
  if 455 < delta then damp (delta / 35) (k + 36) else k + 36 * delta / (delta + 38)
  termination_by delta
  decreasing_by exact Nat.div_lt_self (by omega) (by decide)

/-- The bias after a distance `delta` has been written, with `count` characters so far. -/
def adapt (delta count : Nat) (first : Bool) : Nat :=
  let halved := if first then delta / 700 else delta / 2
  damp (halved + halved / count) 0

def initialBias : Nat := 72

/-- The digits of a distance, from place `k` on. -/
def writeDistance (bias q k : Nat) : List Char :=
  let t := threshold k bias
  if t ≤ q then digitChar (t + (q - t) % (36 - t)) :: writeDistance bias ((q - t) / (36 - t)) (k + 36)
  else [digitChar q]
  termination_by q
  decreasing_by
    have pos := threshold_pos k bias
    have le := threshold_le k bias
    have : (q - threshold k bias) / (36 - threshold k bias) ≤ q - threshold k bias :=
      Nat.div_le_self _ _
    omega

structure Writer where
  delta : Nat
  bias : Nat
  written : Nat
  first : Bool
  digits : List Char

/-- Goes over the whole text once for the character `n`. -/
def Writer.pass (n : Nat) (text : List Nat) (w : Writer) : Writer :=
  text.foldl (fun w c =>
    if c < n then { w with delta := w.delta + 1 }
    else if c = n then
      { delta := 0
        bias := adapt w.delta (w.written + 1) w.first
        written := w.written + 1
        first := false
        digits := w.digits ++ writeDistance w.bias w.delta 36 }
    else w) w

/-- One pass for each character that is not ASCII, in increasing order; `n` is the least
character that has had no pass yet. -/
def Writer.passes (text : List Nat) : List Nat → Nat → Writer → Writer
  | [], _, w => w
  | m :: rest, n, w =>
    let w := { w with delta := w.delta + (m - n) * (w.written + 1) }
    let w := w.pass m text
    Writer.passes text rest (m + 1) { w with delta := w.delta + 1 }

def insertDistinct (n : Nat) : List Nat → List Nat
  | [] => [n]
  | m :: rest => if n < m then n :: m :: rest else if n = m then m :: rest else m :: insertDistinct n rest

/-- The ASCII characters come first and as they are; the others follow as distances, in increasing
order of character and place, each distance in digits to the base 36 with thresholds that adapt. -/
def encode (cs : List Char) : List Char :=
  let text := cs.map Char.toNat
  let basic := cs.filter (·.toNat < 128)
  let others := (text.filter (128 ≤ ·)).foldl (fun sorted n => insertDistinct n sorted) []
  let w := Writer.passes text others 128 ⟨0, initialBias, basic.length, true, []⟩
  basic ++ (if basic.isEmpty then [] else ['-']) ++ w.digits

/-- Reads a distance that starts at place `k` with the weight `weight`; the rest is shorter. -/
def readDistance (bias value weight k : Nat) :
    (cs : List Char) → Option { r : Nat × List Char // r.2.length < cs.length }
  | [] => none
  | c :: rest =>
    match digitValue? c with
    | none => none
    | some d =>
      let t := threshold k bias
      if d < t then some ⟨(value + d * weight, rest), by simp⟩
      else match readDistance bias (value + d * weight) (weight * (36 - t)) (k + 36) rest with
        | none => none
        | some ⟨r, shorter⟩ => some ⟨r, by simp; omega⟩

def isScalar (n : Nat) : Bool := n < 0xD800 || (0xE000 ≤ n && n < 0x110000)

/-- Inserts the characters that the digits name, one distance after the other. -/
def readDistances (n i bias : Nat) (first : Bool) (text : List Char) (cs : List Char) :
    Option (List Char) :=
  if cs.isEmpty then some text
  else match readDistance bias i 1 36 cs with
    | none => none
    | some ⟨(j, rest), _⟩ =>
      let count := text.length + 1
      let n := n + j / count
      let place := j % count
      if isScalar n then
        readDistances n (place + 1) (adapt (j - i) count first) false
          (text.take place ++ Char.ofNat n :: text.drop place) rest
      else none
  termination_by cs.length

/-- Cuts at the last hyphen, if there is one. -/
def cut (cs : List Char) : List Char × List Char :=
  let tail := (cs.reverse.takeWhile (· ≠ '-')).reverse
  (cs.take (cs.length - tail.length - 1), tail)

def decode? (cs : List Char) : Option (List Char) :=
  let (basic, digits) := cut cs
  if basic.all (·.toNat < 128) then readDistances 128 0 initialBias true basic digits else none

end Tenancy.Url.Punycode
