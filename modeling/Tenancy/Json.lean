namespace Tenancy

/-- An object keeps its members in the order and number in which they were written, so that a reader
of records can refuse a field given twice. -/
inductive Json where
  | null
  | bool (b : Bool)
  /-- A number written without fraction or exponent, between -2^63 and 2^64. -/
  | int (n : Int)
  /-- Any other number: `mantissa` times ten to the power `exponent`. -/
  | real (mantissa : Int) (exponent : Int)
  | str (s : String)
  | arr (items : List Json)
  | obj (members : List (String × Json))
  /-- Well formed as text and without a value: a number beyond all doubles, or text in which a
  surrogate stands alone. It can be skipped and not read. -/
  | valueless
  deriving Inhabited, BEq

namespace Json

/-- The last member of that name. -/
def field? (j : Json) (name : String) : Option Json :=
  match j with
  | obj members => members.reverse.lookup name
  | _ => none

def text (s : Option String) : Json := (s.map str).getD null

def nat (n : Nat) : Json := int n

mutual

/-- Every part of the value can be read. -/
def isWhole : Json → Bool
  | valueless => false
  | arr items => areWhole items
  | obj members => areWholeMembers members
  | _ => true

def areWhole : List Json → Bool
  | [] => true
  | item :: rest => isWhole item && areWhole rest

def areWholeMembers : List (String × Json) → Bool
  | [] => true
  | (_, value) :: rest => isWhole value && areWholeMembers rest

end

mutual

/-- The same value with one member for each name, the last of those given. -/
def settle : Json → Json
  | arr items => arr (settleItems items)
  | obj members => obj (settleMembers members)
  | j => j

def settleItems : List Json → List Json
  | [] => []
  | item :: rest => settle item :: settleItems rest

def settleMembers : List (String × Json) → List (String × Json)
  | [] => []
  | (name, value) :: rest =>
    if rest.any fun member => member.1 == name then settleMembers rest
    else (name, settle value) :: settleMembers rest

end

mutual

/-- How many arrays and objects stand inside each other. -/
def depth : Json → Nat
  | arr items => depthOfItems items + 1
  | obj members => depthOfMembers members + 1
  | _ => 0

def depthOfItems : List Json → Nat
  | [] => 0
  | item :: rest => max (depth item) (depthOfItems rest)

def depthOfMembers : List (String × Json) → Nat
  | [] => 0
  | (_, value) :: rest => max (depth value) (depthOfMembers rest)

end

end Json
end Tenancy
