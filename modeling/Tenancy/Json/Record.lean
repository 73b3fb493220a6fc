import Tenancy.Json

namespace Tenancy

namespace Json

def asText? : Json → Option String
  | .str s => some s
  | _ => none

def asBool? : Json → Option Bool
  | .bool b => some b
  | _ => none

/-- A whole number from `least` on and below `limit`. -/
def asInt? (least limit : Int) : Json → Option Int
  | .int n => if least ≤ n && n < limit then some n else none
  | _ => none

def asNat? (limit : Nat) (j : Json) : Option Nat := (asInt? 0 limit j).map Int.toNat

def asList? {α : Type} (item? : Json → Option α) : Json → Option (List α)
  | .arr items => items.mapM item?
  | _ => none

/-- Something, or `null` for nothing. -/
def asOption? {α : Type} (item? : Json → Option α) : Json → Option (Option α)
  | .null => some none
  | j => (item? j).map some

end Json

/-- The parts of a record that were given. -/
structure Record where
  parts : List (String × Json)

namespace Record

variable {α : Type}

/-- Members of other names do not count, and a name given twice is refused. An array may end early;
whether it may be too long depends on the document: an `exact` one refuses that. -/
def read? (exact : Bool) (names : List String) : Json → Option Record
  | .obj members =>
    let known := members.filter fun member => names.contains member.1
    if (known.map Prod.fst).Nodup then some ⟨known⟩ else none
  | .arr items =>
    if exact && names.length < items.length then none else some ⟨names.zip items⟩
  | _ => none

def required? (r : Record) (name : String) (read? : Json → Option α) : Option α :=
  (r.parts.lookup name).bind read?

/-- A part that is missing has the value `default`; one that is there has to make sense. -/
def optional? (r : Record) (name : String) (read? : Json → Option α) (default : α) : Option α :=
  match r.parts.lookup name with
  | none => some default
  | some j => read? j

end Record
end Tenancy
