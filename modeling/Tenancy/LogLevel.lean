import Tenancy.Text.Split

namespace Tenancy

inductive LogLevel where
  | error
  | warn
  | info
  | debug
  | trace
  deriving DecidableEq, Repr

namespace LogLevel

def name : LogLevel → String
  | error => "ERROR"
  | warn => "WARN"
  | info => "INFO"
  | debug => "DEBUG"
  | trace => "TRACE"

/-- Starts at one, so that zero is left for silence. -/
def rank : LogLevel → Nat
  | error => 1
  | warn => 2
  | info => 3
  | debug => 4
  | trace => 5

/-- The greatest rank that is logged under a setting: a name in letters of either case, or a digit.
No setting means everything, and a setting that makes no sense means warnings. Only what stands
before the first comma counts. -/
def threshold (setting : String) : Nat :=
  let word := (Text.split (· == ',') setting.toList).headD []
  match String.ofList (word.map Char.toLower) with
  | "" | "trace" | "5" => 5
  | "debug" | "4" => 4
  | "info" | "3" => 3
  | "warn" | "2" => 2
  | "error" | "1" => 1
  | "off" | "0" => 0
  | _ => 2

def isLogged (setting : String) (level : LogLevel) : Bool := level.rank ≤ threshold setting

end LogLevel
end Tenancy
