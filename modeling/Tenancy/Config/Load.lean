import Tenancy.Config.Document
import Tenancy.Config.Problem
import Tenancy.Folder
import Tenancy.Toml.Reader

namespace Tenancy.Config

inductive LoadError where
  | io (fault : FileFault)
  /-- The text is no TOML, or not that of a configuration. -/
  | unreadable
  | invalid (problems : List Problem)
  deriving DecidableEq

def LoadError.inspect : LoadError → String
  | io fault => Text.inspectValue "Io" [fault.inspect]
  | unreadable => "Parse"
  | invalid problems =>
    Text.inspectValue "Validation" [Text.inspectList (problems.map Problem.inspect)]

def parse (text : String) : Except LoadError Config :=
  match (Toml.read? text).bind (decode? false) with
  | none => .error .unreadable
  | some config =>
    if config.problems.isEmpty then .ok config else .error (.invalid config.problems)

def summary (problems : List Problem) : String :=
  "Validation failed: " ++ ", ".intercalate (problems.map Problem.message)

/-- What is loaded has no problems. -/
def load (file : FileText) : Except LoadError Config :=
  match file with
  | .error fault => .error (.io fault)
  | .ok text => parse text

end Tenancy.Config
